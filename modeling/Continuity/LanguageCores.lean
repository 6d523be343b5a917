import Continuity.CodePoints

namespace Continuity
set_option autoImplicit true

/-- An integer that a double holds exactly, with its neighbours. -/
abbrev SafeInteger := {z : Int // z.natAbs < 2 ^ 53}

/-- A JSON document as the three readers take it: well-formed strings, safe integers and the
literal `-0`. -/
inductive JsonDocument where
  | null
  | bool (b : Bool)
  | int (z : SafeInteger)
  | negZero
  | str (s : List Char)
  | arr (items : List JsonDocument)
  | obj (fields : List (List Char × JsonDocument))

/-- Texts with a mark between them. -/
def joinWith (mark : α) : List (List α) → List α
  | [] => []
  | [x] => x
  | x :: y :: rest => x ++ mark :: joinWith mark (y :: rest)

def decimal (z : Int) : List Char :=
  if z < 0 then '-' :: Nat.toDigits 10 z.natAbs else Nat.toDigits 10 z.natAbs

mutual
/-- `JSON.parse`: strings are code units, `-0` is the negative zero. -/
def JsonDocument.toJs : JsonDocument → JsValue
  | .null => .null
  | .bool b => .bool b
  | .int z => .num (.ofInt z)
  | .negZero => .num .negZero
  | .str s => .str (utf16 s)
  | .arr items => .arr (toJsItems items)
  | .obj fields => .obj (toJsFields fields)

def toJsItems : List JsonDocument → List JsValue
  | [] => []
  | item :: items => item.toJs :: toJsItems items

def toJsFields : List (List Char × JsonDocument) → JsObject
  | [] => []
  | (key, child) :: fields => (utf16 key, child.toJs) :: toJsFields fields
end

namespace CorePython

/-- The Python values a JSON document is read into; a string is its code points. -/
inductive Value where
  | none
  | str (s : List Char)
  | bool (b : Bool)
  | int (z : Int)
  | float
  | list (items : List Value)
  | dict (fields : List (List Char × Value))

/-- The escapes of `json.dumps` with `ensure_ascii` off. -/
def escape (c : Char) : List Char :=
  if c = '\\' then ['\\', '\\']
  else if c = '"' then ['\\', '"']
  else if c = Char.ofNat 8 then ['\\', 'b']
  else if c = Char.ofNat 12 then ['\\', 'f']
  else if c = '\n' then ['\\', 'n']
  else if c = '\r' then ['\\', 'r']
  else if c = '\t' then ['\\', 't']
  else if c.toNat < 0x20 then
    ['\\', 'u', '0', '0', Nat.digitChar (c.toNat / 16), Nat.digitChar (c.toNat % 16)]
  else [c]

/-- `json.dumps(value, ensure_ascii=False)` of a string. -/
def dumps (s : List Char) : List Char := '"' :: (s.flatMap escape ++ ['"'])

/-- `sorted(value)`: the keys of a dict by code point. -/
def sorted (fields : List (List Char × α)) : List (List Char × α) :=
  fields.insertionSort fun a b => pointsLe a.1 b.1 = true

/-- The text of each member in turn; the first member that raises decides the error. -/
def members : List (List Char × Js (List Char)) → Js (List (List Char))
  | [] => return []
  | (key, text) :: rest => do
    let text ← text
    let rest ← members rest
    return (dumps key ++ ':' :: text) :: rest

mutual
def canonicalize : Value → Js (List Char)
  | .none => return "null".toList
  | .str s => return dumps s
  | .bool b => return if b then "true".toList else "false".toList
  | .int z =>
    if 2 ^ 53 - 1 < z.natAbs then
      throw "TSL canonicalization only allows safe integers in signed core objects"
    else return decimal z
  | .float => throw "TSL canonicalization only allows safe integers in signed core objects"
  | .list items => do
    let items ← canonicalizeItems items
    return '[' :: (joinWith ',' items ++ [']'])
  | .dict fields => do
    let fields ← members (sorted (canonicalizeFields fields))
    return Char.ofNat 123 :: (joinWith ',' fields ++ [Char.ofNat 125])

def canonicalizeItems : List Value → Js (List (List Char))
  | [] => return []
  | item :: items => do
    let item ← canonicalize item
    let items ← canonicalizeItems items
    return item :: items

def canonicalizeFields : List (List Char × Value) → List (List Char × Js (List Char))
  | [] => []
  | (key, child) :: fields => (key, canonicalize child) :: canonicalizeFields fields
end

mutual
/-- `json.loads`: `-0` is read by `int` as zero. -/
def loads : JsonDocument → Value
  | .null => .none
  | .bool b => .bool b
  | .int z => .int z
  | .negZero => .int 0
  | .str s => .str s
  | .arr items => .list (loadItems items)
  | .obj fields => .dict (loadFields fields)

def loadItems : List JsonDocument → List Value
  | [] => []
  | item :: items => loads item :: loadItems items

def loadFields : List (List Char × JsonDocument) → List (List Char × Value)
  | [] => []
  | (key, child) :: fields => (key, loads child) :: loadFields fields
end

/-- The canonical text as its callers hash it, encoded as UTF-8. -/
def canonicalBytes (value : Value) : Js Bytes := do
  let text ← canonicalize value
  return utf8Bytes text

end CorePython

namespace CoreRust

/-- `serde_json::Number`. -/
inductive Number where
  | posInt (n : UInt64)
  | negInt (n : Int64)
  | float

/-- `serde_json::Value`; a Rust string is its UTF-8 bytes. -/
inductive Value where
  | null
  | bool (b : Bool)
  | number (n : Number)
  | string (s : Bytes)
  | array (values : List Value)
  | object (map : List (Bytes × Value))

def Number.asI64 : Number → Option Int
  | .posInt n => if n.toNat < 2 ^ 63 then some n.toNat else none
  | .negInt n => some n.toInt
  | .float => none

def Number.asU64 : Number → Option Int
  | .posInt n => some n.toNat
  | _ => none

def ascii (s : List Char) : Bytes := s.map fun c => UInt8.ofNat c.toNat

/-- The escapes of `serde_json::to_string`, byte by byte. -/
def escape (b : UInt8) : Bytes :=
  if b = 8 then ascii ['\\', 'b']
  else if b = 9 then ascii ['\\', 't']
  else if b = 10 then ascii ['\\', 'n']
  else if b = 12 then ascii ['\\', 'f']
  else if b = 13 then ascii ['\\', 'r']
  else if b = 34 then ascii ['\\', '"']
  else if b = 92 then ascii ['\\', '\\']
  else if b < 32 then
    ascii ['\\', 'u', '0', '0', Nat.digitChar (b.toNat / 16), Nat.digitChar (b.toNat % 16)]
  else [b]

/-- `serde_json::to_string` of a string. -/
def stringText (s : Bytes) : Bytes := 34 :: (s.flatMap escape ++ [34])

/-- `keys.sort()`: strings are ordered by their bytes. -/
def sortKeys (map : List (Bytes × α)) : List (Bytes × α) :=
  map.insertionSort fun a b => bytesLe a.1 b.1 = true

def parts : List (Bytes × Js Bytes) → Js (List Bytes)
  | [] => return []
  | (key, text) :: rest => do
    let text ← text
    let rest ← parts rest
    return (stringText key ++ 58 :: text) :: rest

mutual
def canonicalizeStrict : Value → Js Bytes
  | .object map => do
    let parts ← parts (sortKeys (canonicalizeFields map))
    return 123 :: (joinWith 44 parts ++ [125])
  | .array values => do
    let parts ← canonicalizeItems values
    return 91 :: (joinWith 44 parts ++ [93])
  | .number n =>
    match n.asI64 <|> n.asU64 with
    | none => throw "TSL canonicalization only allows integers in signed core objects"
    | some integer =>
      if integer < -(2 ^ 53 - 1) ∨ 2 ^ 53 - 1 < integer then
        throw "TSL canonicalization only allows safe integers in signed core objects"
      else return ascii (decimal integer)
  | .null => return ascii "null".toList
  | .bool b => return ascii (if b then "true".toList else "false".toList)
  | .string s => return stringText s

def canonicalizeItems : List Value → Js (List Bytes)
  | [] => return []
  | value :: values => do
    let part ← canonicalizeStrict value
    let parts ← canonicalizeItems values
    return part :: parts

def canonicalizeFields : List (Bytes × Value) → List (Bytes × Js Bytes)
  | [] => []
  | (key, child) :: fields => (key, canonicalizeStrict child) :: canonicalizeFields fields
end

/-- `unwrap` panics where the strict function errs. -/
def canonicalize (value : Value) : Js Bytes := canonicalizeStrict value

mutual
/-- `serde_json::from_str`: `-0` becomes a float. -/
def fromStr : JsonDocument → Value
  | .null => .null
  | .bool b => .bool b
  | .int z => .number (if 0 ≤ z.val then .posInt (.ofNat z.val.toNat) else .negInt (.ofInt z))
  | .negZero => .number .float
  | .str s => .string (utf8Bytes s)
  | .arr items => .array (fromItems items)
  | .obj fields => .object (fromFields fields)

def fromItems : List JsonDocument → List Value
  | [] => []
  | item :: items => fromStr item :: fromItems items

def fromFields : List (List Char × JsonDocument) → List (Bytes × Value)
  | [] => []
  | (key, child) :: fields => (utf8Bytes key, fromStr child) :: fromFields fields
end

end CoreRust

/-- The three cores give the same bytes, or all of them refuse the document. -/
def CanonicalAlike (d : JsonDocument) : Prop :=
  (canonicalBytes d.toJs).toOption =
      (CorePython.canonicalBytes (CorePython.loads d)).toOption ∧
    (canonicalBytes d.toJs).toOption =
      (CoreRust.canonicalize (CoreRust.fromStr d)).toOption

end Continuity

import Mathlib.Data.List.Sort
import Mathlib.Data.Rat.Defs
import Continuity.TextEncoder

namespace Continuity
set_option autoImplicit true

/-- A JavaScript number. Every finite double is a rational; `-0` and the non-finite values are
kept apart. -/
inductive JsNumber where
  | fin (q : ℚ)
  | negZero
  | nan
  | posInf
  | negInf
  deriving DecidableEq

namespace JsNumber

def ofInt (z : Int) : JsNumber := .fin z

def ofNat (n : Nat) : JsNumber := .fin n

/-- The value of a number that `BigInt` accepts. -/
def toInt? : JsNumber → Option Int
  | .fin q => if q.den = 1 then some q.num else none
  | .negZero => some 0
  | _ => none

def isSafeInteger (n : JsNumber) : Bool :=
  match n.toInt? with
  | some z => z.natAbs < 2 ^ 53
  | none => false

/-- The rational a finite number stands for. -/
def value? : JsNumber → Option ℚ
  | .fin q => some q
  | .negZero => some 0
  | _ => none

/-- `===` on numbers. -/
def strictEq (a b : JsNumber) : Bool :=
  match a, b with
  | .posInf, .posInf => true
  | .negInf, .negInf => true
  | a, b => a.value?.isSome && a.value? = b.value?

/-- `<=` on numbers. -/
def le (a b : JsNumber) : Bool :=
  match a, b with
  | .nan, _ => false
  | _, .nan => false
  | .negInf, _ => true
  | _, .posInf => true
  | .posInf, _ => false
  | _, .negInf => false
  | a, b => (a.value?.getD 0) ≤ (b.value?.getD 0)

/-- `<` on numbers. -/
def lt (a b : JsNumber) : Bool := a.le b && !a.strictEq b

@[simp] theorem toInt?_ofInt (z : Int) : (ofInt z).toInt? = some z := by
  simp [ofInt, toInt?]

@[simp] theorem toInt?_ofNat (n : Nat) : (ofNat n).toInt? = some (n : Int) := by
  simp [ofNat, toInt?]

theorem strictEq_ofNat (n : JsNumber) (m : Nat) (h : n.strictEq (.ofNat m) = true) :
    n = .ofNat m ∨ n = .negZero ∧ m = 0 := by
  cases n with
  | fin q =>
    simp only [strictEq, ofNat, value?, Option.isSome_some, Bool.true_and, decide_eq_true_eq,
      Option.some.injEq] at h
    exact .inl (by rw [h, ofNat])
  | negZero =>
    simp only [strictEq, ofNat, value?, Option.isSome_some, Bool.true_and, decide_eq_true_eq,
      Option.some.injEq] at h
    exact .inr ⟨rfl, by exact_mod_cast h.symm⟩
  | nan => simp [strictEq, ofNat, value?] at h
  | posInf => simp [strictEq, ofNat, value?] at h
  | negInf => simp [strictEq, ofNat, value?] at h

theorem strictEq_congr (h : a.strictEq b = true) (c : JsNumber) :
    c.strictEq a = c.strictEq b := by
  cases a <;> cases b <;> cases c <;> simp_all [strictEq, value?]

@[simp] theorem strictEq_ofNat_self (m : Nat) : (ofNat m).strictEq (ofNat m) = true := by
  simp [strictEq, ofNat, value?]

@[simp] theorem strictEq_ofInt_self (z : Int) : (ofInt z).strictEq (ofInt z) = true := by
  simp [strictEq, ofInt, value?]

theorem eq_ofInt {n : JsNumber} (hs : n.isSafeInteger = true) (hn : n ≠ .negZero) :
    ∃ z, n = .ofInt z := by
  cases n with
  | fin q =>
    refine ⟨q.num, ?_⟩
    simp only [isSafeInteger, toInt?] at hs
    split at hs
    · next z hz =>
      split at hz
      · next hd => rw [ofInt, Rat.coe_int_num_of_den_eq_one hd]
      · cases hz
    · cases hs
  | negZero => exact absurd rfl hn
  | nan => cases hs
  | posInf => cases hs
  | negInf => cases hs

@[simp] theorem ofInt_le (a b : Int) : (ofInt a).le (ofInt b) = decide (a ≤ b) := by
  simp [le, ofInt, value?, Rat.intCast_le_intCast]

@[simp] theorem ofInt_lt (a b : Int) : (ofInt a).lt (ofInt b) = decide (a < b) := by
  have he : (ofInt a).strictEq (ofInt b) = decide (a = b) := by
    simp [strictEq, ofInt, value?]
  rw [lt, ofInt_le, he, Bool.eq_iff_iff]
  simp only [Bool.and_eq_true, decide_eq_true_eq, Bool.not_eq_true', decide_eq_false_iff_not]
  omega

end JsNumber

/-- The JavaScript values that reach the canonical encoder. -/
inductive JsValue where
  | null
  | undefined
  | bool (b : Bool)
  | num (n : JsNumber)
  | str (s : JsString)
  | arr (items : List JsValue)
  | obj (fields : List (JsString × JsValue))

abbrev JsObject := List (JsString × JsValue)

/-- An optional field of a record, `undefined` when it is not set. -/
def optional (f : α → JsValue) (a : Option α) : JsValue :=
  match a with
  | some a => f a
  | none => .undefined

def natText (n : Nat) : JsString := (Nat.toDigits 10 n).map fun c => UInt16.ofNat c.toNat

/-- `String(value)` of an integral number. -/
def intText (z : Int) : JsString :=
  if z < 0 then 45 :: natText z.natAbs else natText z.natAbs

def hexUnit (n : Nat) : UInt16 := UInt16.ofNat (if n < 10 then 48 + n else 87 + n)

def unicodeEscape (u : UInt16) : JsString :=
  [92, 117, hexUnit (u.toNat / 4096), hexUnit (u.toNat / 256 % 16), hexUnit (u.toNat / 16 % 16),
    hexUnit (u.toNat % 16)]

def quoteUnit (u : UInt16) : JsString :=
  if u = 8 then [92, 98]
  else if u = 9 then [92, 116]
  else if u = 10 then [92, 110]
  else if u = 12 then [92, 102]
  else if u = 13 then [92, 114]
  else if u = 34 then [92, 34]
  else if u = 92 then [92, 92]
  else if u < 32 || isSurrogate u then unicodeEscape u
  else [u]

def quoteUnits : JsString → JsString
  | [] => []
  | [u] => quoteUnit u
  | u :: v :: rest =>
    if isHighSurrogate u && isLowSurrogate v then u :: v :: quoteUnits rest
    else quoteUnit u ++ quoteUnits (v :: rest)

/-- Well-formed `JSON.stringify` of a string. -/
def jsonString (s : JsString) : JsString := 34 :: (quoteUnits s ++ [34])

def encodeNumber (n : JsNumber) : Js JsString :=
  if !n.isSafeInteger then
    throw "TSL canonicalization only allows safe integers in signed core objects"
  else match n with
    | .negZero => throw "TSL canonicalization rejects negative zero"
    | _ => return intText (n.toInt?.getD 0)

/-- The order of `Array.prototype.sort` on strings. -/
def unitsLe : JsString → JsString → Bool
  | [], _ => true
  | _ :: _, [] => false
  | a :: as, b :: bs => a < b || (a == b && unitsLe as bs)

def sortKeys (fields : List (JsString × α)) : List (JsString × α) :=
  fields.insertionSort fun a b => unitsLe a.1 b.1 = true

def sortStrings (values : List JsString) : List JsString :=
  values.insertionSort fun a b => unitsLe a b = true

/-- `Array.prototype.join(",")`. -/
def joinComma : List JsString → JsString
  | [] => []
  | [x] => x
  | x :: y :: rest => x ++ 44 :: joinComma (y :: rest)

def textOf (s : JsString) : String := String.ofList (s.map fun u => Char.ofNat u.toNat)

/-- The text of every field in key order; the first field that throws decides the error. -/
def joinFields : List (JsString × Js JsString) → Js (List JsString)
  | [] => return []
  | (key, text) :: rest => do
    let text ← text
    let rest ← joinFields rest
    return (jsonString key ++ 58 :: text) :: rest

mutual
def encodeCanonical : JsValue → Js JsString
  | .null => return js "null"
  | .undefined => throw "Unsupported value in TSL canonicalization: undefined"
  | .bool b => return if b then js "true" else js "false"
  | .num n => encodeNumber n
  | .str s => return jsonString s
  | .arr items => do
    let items ← encodeItems items
    return 91 :: (joinComma items ++ [93])
  | .obj fields => do
    let fields ← joinFields (sortKeys (encodeFields fields))
    return 123 :: (joinComma fields ++ [125])

def encodeItems : List JsValue → Js (List JsString)
  | [] => return []
  | item :: items => do
    let item ← encodeCanonical item
    let items ← encodeItems items
    return item :: items

def encodeFields : List (JsString × JsValue) → List (JsString × Js JsString)
  | [] => []
  | (key, child) :: fields =>
    (key, match child with
      | .undefined => throw ("TSL canonicalization rejects undefined field: " ++ textOf key)
      | child => encodeCanonical child) :: encodeFields fields
end

def canonicalize (value : JsValue) : Js JsString := encodeCanonical value

def canonicalBytes (value : JsValue) : Js Bytes := do
  let text ← canonicalize value
  return textEncode text

def JsValue.isUndefined : JsValue → Bool
  | .undefined => true
  | _ => false

/-- A copy of an object without one field and without the fields that are `undefined`. -/
def withoutField (value : JsObject) (field : JsString) : JsObject :=
  value.filter fun entry => entry.1 != field && !entry.2.isUndefined

def withoutSignature (value : JsObject) : JsObject := withoutField value (js "signature")

end Continuity

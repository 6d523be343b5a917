import Mathlib.Data.Int.Log
import Mathlib.Data.Rat.Floor
import Mathlib.Tactic.IntervalCases
import Continuity.KeyOrder

namespace Continuity
set_option autoImplicit true

/-- The nearest integer, halves to the even neighbour. -/
def roundHalfEven (q : ℚ) : Int :=
  let rest := q - q.floor
  if rest < 1 / 2 then q.floor
  else if 1 / 2 < rest then q.floor + 1
  else if q.floor % 2 = 0 then q.floor
  else q.floor + 1

namespace JsNumber

def signedZero (negative : Bool) : JsNumber := if negative then .negZero else .fin 0

/-- The double nearest to a decimal literal of the given sign and magnitude: 53 significant bits,
subnormals down to `2 ^ -1074`, infinite from `2 ^ 1024` on. -/
def nearest (negative : Bool) (magnitude : ℚ) : JsNumber :=
  if magnitude = 0 then signedZero negative
  else
    let ulp : ℚ := 2 ^ max (Int.log 2 magnitude - 52) (-1074)
    let rounded := roundHalfEven (magnitude / ulp) * ulp
    if rounded = 0 then signedZero negative
    else if 2 ^ 1024 ≤ rounded then if negative then .negInf else .posInf
    else .fin (if negative then -rounded else rounded)

end JsNumber

def isSpace (u : UInt16) : Bool := u = 9 || u = 10 || u = 13 || u = 32

def skipSpace (text : JsString) : JsString := text.dropWhile isSpace

/-- The rest of a text that starts with the given word. -/
def expect (word text : JsString) : Option JsString :=
  if word.isPrefixOf text then some (text.drop word.length) else none

def hexNibble? (u : UInt16) : Option Nat :=
  if 48 ≤ u && u ≤ 57 then some (u.toNat - 48)
  else if 97 ≤ u && u ≤ 102 then some (u.toNat - 87)
  else if 65 ≤ u && u ≤ 70 then some (u.toNat - 55)
  else none

def escaped? (u : UInt16) : Option UInt16 :=
  if u = 34 || u = 92 || u = 47 then some u
  else if u = 98 then some 8
  else if u = 102 then some 12
  else if u = 110 then some 10
  else if u = 114 then some 13
  else if u = 116 then some 9
  else none

/-- The characters of a string literal up to its closing quote. -/
def parseChars : QuoteMode → JsString → Option (JsString × JsString)
  | _, [] => none
  | .plain, u :: t =>
    if u = 34 then some ([], t)
    else if u = 92 then parseChars .escape t
    else if u < 32 then none
    else (parseChars .plain t).map fun p => (u :: p.1, p.2)
  | .escape, u :: t =>
    if u = 117 then parseChars (.hex 3 0) t
    else match escaped? u with
      | some unit => (parseChars .plain t).map fun p => (unit :: p.1, p.2)
      | none => none
  | .hex left acc, u :: t =>
    match hexNibble? u, left with
    | none, _ => none
    | some n, 0 => (parseChars .plain t).map fun p => (UInt16.ofNat (acc * 16 + n) :: p.1, p.2)
    | some n, left + 1 => parseChars (.hex left (acc * 16 + n)) t

def decimalValue (digits : JsString) : Nat := digits.foldl (fun n u => n * 10 + (u.toNat - 48)) 0

def readDigits (text : JsString) : Option (JsString × JsString) :=
  let (digits, rest) := text.span isDigitUnit
  if digits = [] then none else some (digits, rest)

/-- The integer part of a number: no leading zero. -/
def parseInteger (text : JsString) : Option (JsString × JsString) := do
  let (digits, rest) ← readDigits text
  if digits.head? = some 48 && digits.length ≠ 1 then none else return (digits, rest)

def parseFraction (text : JsString) : Option (JsString × JsString) :=
  match text with
  | 46 :: rest => readDigits rest
  | rest => some ([], rest)

def parseExponent (text : JsString) : Option (Int × JsString) :=
  match text with
  | [] => some (0, [])
  | u :: rest =>
    if u = 101 || u = 69 then do
      let negative := rest.head? = some 45
      let signed := negative || rest.head? = some 43
      let (digits, rest) ← readDigits (if signed then rest.tail else rest)
      return (if negative then -(decimalValue digits : Int) else decimalValue digits, rest)
    else some (0, u :: rest)

def parseNumber (text : JsString) : Option (JsNumber × JsString) := do
  let negative := text.head? = some 45
  let (whole, rest) ← parseInteger (if negative then text.tail else text)
  let (fraction, rest) ← parseFraction rest
  let (exponent, rest) ← parseExponent rest
  let magnitude := (decimalValue (whole ++ fraction) : ℚ) * 10 ^ (exponent - fraction.length)
  return (.nearest negative magnitude, rest)

/-- `CreateDataProperty`: a key that is there keeps its place and gets the new value. -/
def setField (fields : JsObject) (key : JsString) (value : JsValue) : JsObject :=
  if fields.any fun f => f.1 == key then
    fields.map fun f => if f.1 == key then (key, value) else f
  else fields ++ [(key, value)]

/-- The number of a key that is an array index. -/
def arrayIndex? (key : JsString) : Option Nat :=
  let n := decimalValue key
  if natText n = key ∧ n < 2 ^ 32 - 1 then some n else none

/-- The order in which an object lists its own keys: array indexes first, by number. -/
def ownOrder (fields : JsObject) : JsObject :=
  (fields.filter fun f => (arrayIndex? f.1).isSome).insertionSort
      (fun a b => (arrayIndex? a.1).getD 0 ≤ (arrayIndex? b.1).getD 0) ++
    fields.filter fun f => !(arrayIndex? f.1).isSome

mutual
/-- A JSON value at the start of a text, and the rest of the text. Every call uses up fuel; two
units of it for each character of the text are enough. -/
def parseValue : Nat → JsString → Option (JsValue × JsString)
  | 0, _ => none
  | fuel + 1, text =>
    match skipSpace text with
    | [] => none
    | u :: rest =>
      if u = 34 then (parseChars .plain rest).map fun p => (.str p.1, p.2)
      else if u = 91 then
        if (skipSpace rest).head? = some 93 then some (.arr [], (skipSpace rest).tail)
        else (parseItems fuel rest).map fun p => (.arr p.1, p.2)
      else if u = 123 then
        if (skipSpace rest).head? = some 125 then some (.obj [], (skipSpace rest).tail)
        else (parseMembers fuel [] rest).map fun p => (.obj (ownOrder p.1), p.2)
      else if u = 110 then (expect (js "ull") rest).map fun rest => (.null, rest)
      else if u = 116 then (expect (js "rue") rest).map fun rest => (.bool true, rest)
      else if u = 102 then (expect (js "alse") rest).map fun rest => (.bool false, rest)
      else (parseNumber (u :: rest)).map fun p => (.num p.1, p.2)

def parseItems : Nat → JsString → Option (List JsValue × JsString)
  | 0, _ => none
  | fuel + 1, text => do
    let (item, rest) ← parseValue fuel text
    match skipSpace rest with
    | [] => none
    | u :: rest =>
      if u = 44 then (parseItems fuel rest).map fun p => (item :: p.1, p.2)
      else if u = 93 then some ([item], rest)
      else none

def parseMembers : Nat → JsObject → JsString → Option (JsObject × JsString)
  | 0, _, _ => none
  | fuel + 1, fields, text => do
    let rest ← expect [34] (skipSpace text)
    let (key, rest) ← parseChars .plain rest
    let rest ← expect [58] (skipSpace rest)
    let (value, rest) ← parseValue fuel rest
    match skipSpace rest with
    | [] => none
    | u :: rest =>
      if u = 44 then parseMembers fuel (setField fields key value) rest
      else if u = 125 then some (setField fields key value, rest)
      else none
end

/-- `JSON.parse`. -/
def jsonParse (text : JsString) : Js JsValue :=
  match parseValue (2 * text.length + 2) text with
  | some (value, rest) => if skipSpace rest = [] then pure value else throw "SyntaxError"
  | none => throw "SyntaxError"

theorem hexNibble?_hexUnit : ∀ n : Fin 16, hexNibble? (hexUnit n) = some n.val := by
  decide

theorem parseChars_unicodeEscape (u : UInt16) (t : JsString) :
    parseChars .plain (unicodeEscape u ++ t) =
      (parseChars .plain t).map fun p => (u :: p.1, p.2) := by
  have hl := u.toNat_lt
  have ha : hexNibble? (hexUnit (u.toNat / 4096)) = some (u.toNat / 4096) :=
    hexNibble?_hexUnit ⟨u.toNat / 4096, by omega⟩
  have hb : hexNibble? (hexUnit (u.toNat / 256 % 16)) = some (u.toNat / 256 % 16) :=
    hexNibble?_hexUnit ⟨u.toNat / 256 % 16, by omega⟩
  have hc : hexNibble? (hexUnit (u.toNat / 16 % 16)) = some (u.toNat / 16 % 16) :=
    hexNibble?_hexUnit ⟨u.toNat / 16 % 16, by omega⟩
  have hd : hexNibble? (hexUnit (u.toNat % 16)) = some (u.toNat % 16) :=
    hexNibble?_hexUnit ⟨u.toNat % 16, by omega⟩
  have he : (((0 * 16 + u.toNat / 4096) * 16 + u.toNat / 256 % 16) * 16 + u.toNat / 16 % 16) * 16 +
      u.toNat % 16 = u.toNat := by omega
  simp only [unicodeEscape, List.cons_append, List.nil_append, parseChars, ha, hb, hc, hd, he,
    UInt16.ofNat_toNat]
  rfl

theorem parseChars_literal (hq : u ≠ 34) (hb : u ≠ 92) (hc : ¬u < 32) (t : JsString) :
    parseChars .plain (u :: t) = (parseChars .plain t).map fun p => (u :: p.1, p.2) := by
  simp only [parseChars, if_neg hq, if_neg hb, if_neg hc]

theorem parseChars_quoteUnit (u : UInt16) (t : JsString) :
    parseChars .plain (quoteUnit u ++ t) = (parseChars .plain t).map fun p => (u :: p.1, p.2) := by
  exact quoteUnit_induction (P := fun u s =>
      parseChars .plain (s ++ t) = (parseChars .plain t).map fun p => (u :: p.1, p.2))
    rfl rfl rfl rfl rfl rfl rfl (fun u => parseChars_unicodeEscape u t)
    (fun _ hq hb hc _ => parseChars_literal hq hb hc t) u

theorem surrogate_not_control (h : isSurrogate u = true) : ¬u < 32 := by
  rw [UInt16.lt_iff_toNat_lt]
  simp only [isSurrogate, Bool.and_eq_true, decide_eq_true_eq] at h
  have h32 : (32 : UInt16).toNat = 32 := rfl
  omega

theorem parseChars_surrogate (h : isSurrogate u = true) (t : JsString) :
    parseChars .plain (u :: t) = (parseChars .plain t).map fun p => (u :: p.1, p.2) := by
  obtain ⟨hq, hb⟩ := surrogate_not_quote h
  exact parseChars_literal hq hb (surrogate_not_control h) t

theorem parseChars_quoteUnits (s t : JsString) :
    parseChars .plain (quoteUnits s ++ t) = (parseChars .plain t).map fun p => (s ++ p.1, p.2) := by
  induction s using quoteUnits.induct with
  | case1 => simp [quoteUnits]
  | case2 u => simpa [quoteUnits] using parseChars_quoteUnit u t
  | case3 u v rest hp ih =>
    have hq := hp
    simp only [Bool.and_eq_true] at hq
    simp only [quoteUnits, if_pos hp, List.cons_append,
      parseChars_surrogate (highSurrogate_surrogate hq.1),
      parseChars_surrogate (lowSurrogate_surrogate hq.2), ih, Option.map_map]
    rfl
  | case4 u v rest hp ih =>
    simp only [quoteUnits, if_neg hp, List.append_assoc, parseChars_quoteUnit, ih, Option.map_map]
    rfl

/-- A quoted string is read back as it was. -/
theorem parseChars_string (s t : JsString) :
    parseChars .plain (quoteUnits s ++ 34 :: t) = some (s, t) := by
  have hq : parseChars .plain (34 :: t) = some ([], t) := rfl
  simp only [parseChars_quoteUnits, hq, Option.map_some, List.append_nil]

theorem roundHalfEven_intCast (z : Int) : roundHalfEven z = z := by
  simp [roundHalfEven, Rat.floor_intCast]

/-- Integers of at most 53 bits are doubles. -/
theorem nearest_natCast {n : Nat} (negative : Bool) (hp : 0 < n) (hn : n < 2 ^ 53) :
    JsNumber.nearest negative n = .fin (if negative then -(n : ℚ) else n) := by
  have hq : (1 : ℚ) ≤ n := by exact_mod_cast hp
  have hlow : 0 ≤ Int.log 2 (n : ℚ) := by
    rw [Int.log_of_one_le_right 2 hq]
    exact Int.natCast_nonneg _
  have hhigh : Int.log 2 (n : ℚ) < 53 := by
    rw [← Int.lt_zpow_iff_log_lt (by omega) (by linarith)]
    exact_mod_cast hn
  obtain ⟨k, hk⟩ := Int.eq_ofNat_of_zero_le (show 0 ≤ 52 - Int.log 2 (n : ℚ) by omega)
  have hulp : (2 : ℚ) ^ max (Int.log 2 (n : ℚ) - 52) (-1074) = (2 ^ k)⁻¹ := by
    rw [max_eq_left (by omega), show Int.log 2 (n : ℚ) - 52 = -(k : Int) by omega, zpow_neg,
      zpow_natCast]
  have hround : roundHalfEven ((n : ℚ) / (2 ^ k)⁻¹) = (n * 2 ^ k : Int) := by
    rw [div_inv_eq_mul]
    exact_mod_cast roundHalfEven_intCast (n * 2 ^ k)
  have hback : ((n * 2 ^ k : Int) : ℚ) * (2 ^ k)⁻¹ = n := by
    push_cast
    field_simp
  have hne : (n : ℚ) ≠ 0 := by positivity
  have hsmall : ¬(2 : ℚ) ^ 1024 ≤ n := by
    have hl : (n : ℚ) < 2 ^ 53 := by exact_mod_cast hn
    have hb : (2 : ℚ) ^ 53 ≤ 2 ^ 1024 := by gcongr <;> norm_num
    exact not_le.mpr (lt_of_lt_of_le hl hb)
  simp only [JsNumber.nearest, hulp, hround, hback, if_neg hne, if_neg hsmall]

theorem natText_of_lt (h : n < 10) : natText n = [UInt16.ofNat (48 + n)] := by
  rw [natText, Nat.toDigits_of_lt_base h]
  interval_cases n <;> rfl

theorem natText_of_le (h : 10 ≤ n) : natText n = natText (n / 10) ++ natText (n % 10) := by
  have hm : n % 10 < 10 := Nat.mod_lt n (by omega)
  rw [natText, natText, natText, Nat.toDigits_of_base_le (by omega) h, List.map_append,
    Nat.toDigits_of_lt_base hm]

theorem decimalValue_natText (n : Nat) : decimalValue (natText n) = n := by
  have hdigit (m : Nat) (h : m < 10) : (UInt16.ofNat (48 + m)).toNat - 48 = m := by
    rw [UInt16.toNat_ofNat']
    omega
  induction n using Nat.strong_induction_on with
  | _ n ih =>
    by_cases h : n < 10
    · rw [natText_of_lt h]
      simp only [decimalValue, List.foldl_cons, List.foldl_nil, hdigit n h]
      omega
    · have hm : n % 10 < 10 := Nat.mod_lt n (by omega)
      have hq := ih (n / 10) (by omega)
      rw [natText_of_le (by omega), natText_of_lt hm]
      simp only [decimalValue, List.foldl_append, List.foldl_cons, List.foldl_nil,
        hdigit _ hm] at hq ⊢
      rw [hq]
      omega

/-- The text of a number has no leading zero. -/
theorem natText_head_ne (h : 0 < n) : (natText n).head? ≠ some 48 := by
  induction n using Nat.strong_induction_on with
  | _ n ih =>
    by_cases hl : n < 10
    · rw [natText_of_lt hl]
      interval_cases n <;> decide
    · have hq := ih (n / 10) (by omega) (by omega)
      rw [natText_of_le (by omega), List.head?_append]
      obtain ⟨u, t, hu, -⟩ := natText_head (n / 10)
      rw [hu] at hq ⊢
      exact hq

/-- What may follow a value in a text without spaces. -/
def Ends : JsString → Prop
  | [] => True
  | u :: _ => u = 44 ∨ u = 93 ∨ u = 125

theorem span_digits {digits rest : JsString} (hd : ∀ u ∈ digits, isDigitUnit u = true)
    (hr : Ends rest) : (digits ++ rest).span isDigitUnit = (digits, rest) := by
  rw [List.span_eq_takeWhile_dropWhile, List.takeWhile_append_of_pos hd,
    List.dropWhile_append_of_pos hd]
  cases rest with
  | nil => simp
  | cons u t =>
    have hu : isDigitUnit u = false := by
      rcases hr with rfl | rfl | rfl <;> rfl
    simp [hu]

theorem parseInteger_natText (n : Nat) (hr : Ends rest) :
    parseInteger (natText n ++ rest) = some (natText n, rest) := by
  have hz : ((natText n).head? = some 48 && (natText n).length ≠ 1) = false := by
    rcases Nat.eq_zero_or_pos n with rfl | hp
    · decide
    · simp [natText_head_ne hp]
  simp only [parseInteger, readDigits, span_digits (natText_digits n) hr, natText_ne_nil,
    ↓reduceIte, Option.bind_eq_bind, Option.bind_some, hz, Bool.false_eq_true]
  rfl

theorem parseFraction_ends (hr : Ends rest) : parseFraction rest = some ([], rest) := by
  cases rest with
  | nil => rfl
  | cons u t => rcases hr with rfl | rfl | rfl <;> rfl

theorem parseExponent_ends (hr : Ends rest) : parseExponent rest = some (0, rest) := by
  cases rest with
  | nil => rfl
  | cons u t => rcases hr with rfl | rfl | rfl <;> rfl

theorem parseNumber_natText (n : Nat) (hr : Ends rest) :
    parseNumber (natText n ++ rest) = some (.nearest false n, rest) := by
  have hhead : (natText n ++ rest).head? ≠ some 45 := by
    obtain ⟨u, t, hu, hd⟩ := natText_head n
    rw [hu]
    rintro ⟨⟩
    cases hd
  simp only [parseNumber, hhead, decide_false, ↓reduceIte, parseInteger_natText n hr,
    parseFraction_ends hr, parseExponent_ends hr, Option.bind_eq_bind,
    Option.bind_some, List.append_nil, decimalValue_natText, List.length_nil, Nat.cast_zero,
    sub_self, zpow_zero, mul_one]
  rfl

theorem parseNumber_neg_natText (n : Nat) (hr : Ends rest) :
    parseNumber (45 :: (natText n ++ rest)) = some (.nearest true n, rest) := by
  simp only [parseNumber, List.head?_cons, decide_true, ↓reduceIte, List.tail_cons,
    parseInteger_natText n hr, parseFraction_ends hr, parseExponent_ends hr, Option.bind_eq_bind,
    Option.bind_some, List.append_nil, decimalValue_natText, List.length_nil, Nat.cast_zero,
    sub_self, zpow_zero, mul_one]
  rfl

/-- A safe integer is read back as it was. -/
theorem parseNumber_intText (hz : z.natAbs < 2 ^ 53) (hr : Ends rest) :
    parseNumber (intText z ++ rest) = some (.ofInt z, rest) := by
  unfold intText
  split_ifs with hneg
  · have hcast : -((z.natAbs : Nat) : ℚ) = (z : ℚ) := by
      exact_mod_cast (show -(z.natAbs : Int) = z by omega)
    rw [List.cons_append, parseNumber_neg_natText _ hr, nearest_natCast true (by omega) hz,
      if_pos rfl, hcast, JsNumber.ofInt]
  · have hcast : ((z.natAbs : Nat) : ℚ) = (z : ℚ) := by
      rw [← Int.cast_natCast, show (z.natAbs : Int) = z by omega]
    rw [parseNumber_natText _ hr]
    rcases Nat.eq_zero_or_pos z.natAbs with h0 | hp
    · rw [h0, Int.natAbs_eq_zero.mp h0]
      rfl
    · rw [nearest_natCast false hp hz, if_neg (by decide), hcast, JsNumber.ofInt]

theorem skipSpace_cons (h : isSpace u = false) (t : JsString) : skipSpace (u :: t) = u :: t := by
  simp [skipSpace, h]

theorem skipSpace_ends (h : Ends rest) : skipSpace rest = rest := by
  cases rest with
  | nil => rfl
  | cons u t =>
    apply skipSpace_cons
    rcases h with rfl | rfl | rfl <;> rfl

theorem expect_append (word rest : JsString) : expect word (word ++ rest) = some rest := by
  simp [expect]

/-- A text that is read as a value, whatever follows it. -/
def Reads (text : JsString) (value : JsValue) : Prop :=
  ∀ fuel rest, 2 * text.length ≤ fuel → Ends rest →
    ∃ v, parseValue fuel (text ++ rest) = some (v, rest) ∧ SameValue v value

/-- The first character of a value is neither a space nor a closing bracket. -/
def Opens (text : JsString) : Prop := ∃ u t, text = u :: t ∧ isSpace u = false ∧ u ≠ 93

theorem opens_encodePlain (h : Plain v) : Opens (encodePlain v) := by
  obtain ⟨u, t, he, hc⟩ := encodePlain_head h
  have hclass (w : UInt16) (hw : unitClass w = 7) : u ≠ w := by
    rintro rfl
    rw [hw] at hc
    cases v <;> simp [valueClass] at hc
    rename_i b
    cases b <;> simp at hc
  refine ⟨u, t, he, ?_, hclass 93 (by decide)⟩
  simp [isSpace, hclass 9 (by decide), hclass 10 (by decide), hclass 13 (by decide),
    hclass 32 (by decide)]

theorem parseItems_join {texts : List JsString} {items : List JsValue} (rest : JsString)
    (h : List.Forall₂ Reads texts items) (hn : texts ≠ [])
    (hf : 2 * (joinComma texts).length + 1 ≤ fuel) :
    ∃ vs, parseItems fuel (joinComma texts ++ 93 :: rest) = some (vs, rest) ∧
      SameItems vs items := by
  induction h generalizing fuel with
  | nil => exact absurd rfl hn
  | @cons text item texts items hr hs ih =>
    obtain ⟨fuel, rfl⟩ : ∃ k, fuel = k + 1 := ⟨fuel - 1, by omega⟩
    cases texts with
    | nil =>
      cases hs
      obtain ⟨v, hv, hsame⟩ := hr fuel (93 :: rest) (by simp only [joinComma] at hf; omega)
        (.inr (.inl rfl))
      refine ⟨[v], ?_, .cons hsame .nil⟩
      simp only [joinComma, parseItems, hv, Option.bind_eq_bind, Option.bind_some,
        skipSpace_cons (show isSpace 93 = false by decide)]
      rfl
    | cons next texts =>
      simp only [joinComma, List.length_append, List.length_cons] at hf
      obtain ⟨v, hv, hsame⟩ := hr fuel (44 :: (joinComma (next :: texts) ++ 93 :: rest))
        (by omega) (.inl rfl)
      have hleft : 2 * (joinComma (next :: texts)).length + 1 ≤ fuel := by omega
      obtain ⟨vs, hvs, hitems⟩ := ih (by simp) hleft
      refine ⟨v :: vs, ?_, .cons hsame hitems⟩
      simp only [joinComma, List.append_assoc, List.cons_append, parseItems, hv,
        Option.bind_eq_bind, Option.bind_some, skipSpace_cons (show isSpace 44 = false by decide),
        ↓reduceIte, hvs, Option.map_some]

theorem setField_fresh {fields : JsObject} (h : key ∉ fields.map Prod.fst) (value : JsValue) :
    setField fields key value = fields ++ [(key, value)] := by
  have hany : (fields.any fun f => f.1 == key) = false := by
    simp only [List.any_eq_false, beq_iff_eq]
    rintro f hf rfl
    exact h (List.mem_map_of_mem hf)
  rw [setField, hany, if_neg (by decide)]

/-- One step of the reader: a member, then the mark that follows it. -/
theorem parseMembers_member (fields : JsObject) (key rest : JsString) (hr : Reads text value)
    (hf : 2 * text.length ≤ fuel) (he : Ends (u :: rest)) : ∃ v, SameValue v value ∧
      parseMembers (fuel + 1) fields (jsonString key ++ 58 :: (text ++ u :: rest)) =
        if u = 44 then parseMembers fuel (setField fields key v) rest
        else if u = 125 then some (setField fields key v, rest)
        else none := by
  obtain ⟨v, hv, hsame⟩ := hr fuel (u :: rest) hf he
  refine ⟨v, hsame, ?_⟩
  have hquote : expect [34] (skipSpace (jsonString key ++ 58 :: (text ++ u :: rest))) =
      some (quoteUnits key ++ 34 :: 58 :: (text ++ u :: rest)) := by
    simp only [jsonString, List.cons_append, List.append_assoc, List.nil_append,
      skipSpace_cons (show isSpace 34 = false by decide)]
    exact expect_append [34] _
  have hcolon : expect [58] (skipSpace (58 :: (text ++ u :: rest))) = some (text ++ u :: rest) := by
    rw [skipSpace_cons (by decide)]
    exact expect_append [58] _
  simp only [parseMembers, hquote, parseChars_string, hcolon, hv, Option.bind_eq_bind,
    Option.bind_some, skipSpace_ends he]

/-- The text of a member. -/
def ReadsMember (text : JsString) (field : JsString × JsValue) : Prop :=
  ∃ value, text = jsonString field.1 ++ 58 :: value ∧ Reads value field.2

theorem parseMembers_join {texts : List JsString} {fields : JsObject} (acc : JsObject)
    (rest : JsString) (hr : List.Forall₂ ReadsMember texts fields)
    (hk : (acc.map Prod.fst ++ fields.map Prod.fst).Nodup) (hn : fields ≠ [])
    (hf : 2 * (joinComma texts).length + 1 ≤ fuel) :
    ∃ vs, parseMembers fuel acc (joinComma texts ++ 125 :: rest) = some (acc ++ vs, rest) ∧
      SameFields vs fields := by
  induction hr generalizing acc fuel with
  | nil => exact absurd rfl hn
  | @cons text field texts fields hmember hrest ih =>
    obtain ⟨key, child⟩ := field
    obtain ⟨value, rfl, hread⟩ := hmember
    obtain ⟨fuel, rfl⟩ : ∃ k, fuel = k + 1 := ⟨fuel - 1, by omega⟩
    have hfresh : key ∉ acc.map Prod.fst := by
      intro hm
      exact (List.nodup_append.mp hk).2.2 key hm key (by simp) rfl
    cases hrest with
    | nil =>
      simp only [joinComma, List.length_append, List.length_cons] at hf ⊢
      have hlen : 2 * value.length ≤ fuel := by omega
      obtain ⟨v, hsame, hv⟩ := parseMembers_member acc key rest hread hlen (.inr (.inr rfl))
      refine ⟨[(key, v)], ?_, .cons hsame .nil⟩
      rw [List.append_assoc, List.cons_append, hv, setField_fresh hfresh]
      rfl
    | @cons next other texts fields hnext hothers =>
      simp only [joinComma, List.length_append, List.length_cons] at hf ⊢
      have hlen : 2 * value.length ≤ fuel := by omega
      obtain ⟨v, hsame, hv⟩ := parseMembers_member acc key
        (joinComma (next :: texts) ++ 125 :: rest) hread hlen (.inl rfl)
      have hkeys : ((acc ++ [(key, v)]).map Prod.fst ++ (other :: fields).map Prod.fst).Nodup := by
        simpa using hk
      have hleft : 2 * (joinComma (next :: texts)).length + 1 ≤ fuel := by omega
      obtain ⟨vs, hvs, hfields⟩ := ih _ hkeys (by simp) hleft
      refine ⟨(key, v) :: vs, ?_, .cons hsame hfields⟩
      rw [List.append_assoc, List.cons_append, List.append_assoc, List.cons_append, hv,
        setField_fresh hfresh]
      simpa using hvs

theorem ownOrder_perm (fields : JsObject) : (ownOrder fields).Perm fields := by
  refine .trans ((List.perm_insertionSort _ _).append_right _) ?_
  exact List.filter_append_perm _ _

theorem sameFields_iff {xs ys : JsObject} :
    SameFields xs ys ↔ List.Forall₂ (fun f g => f.1 = g.1 ∧ SameValue f.2 g.2) xs ys := by
  constructor
  · intro h
    induction xs generalizing ys with
    | nil => cases h; exact .nil
    | cons f xs ih =>
      cases h with
      | cons hv hs => exact .cons ⟨rfl, hv⟩ (ih hs)
  · intro h
    induction h with
    | nil => exact .nil
    | @cons f g xs ys hv hs ih =>
      obtain ⟨k, x⟩ := f
      obtain ⟨l, y⟩ := g
      obtain ⟨rfl, hv⟩ := hv
      exact .cons hv ih

/-- Fields listed in another order, against fields in the first order. -/
theorem SameFields.obj_of_perm (h : SameFields xs ys) (hx : zs.Perm xs) (hy : ys.Perm fields) :
    SameValue (.obj zs) (.obj fields) := by
  obtain ⟨ws, hw, hp⟩ := List.perm_comp_forall₂ hx (sameFields_iff.mp h)
  exact .obj (sameFields_iff.mpr hw) (hp.trans hy)

theorem plain_normalize (h : Encodable a) : Plain (normalize a) := by
  obtain ⟨t, ht⟩ := encodeCanonical_total a h
  exact (encodeCanonical_ok a ht).2

theorem parseValue_cons (h : isSpace u = false) (fuel : Nat) (rest : JsString) :
    parseValue (fuel + 1) (u :: rest) =
      if u = 34 then (parseChars .plain rest).map fun p => (.str p.1, p.2)
      else if u = 91 then
        if (skipSpace rest).head? = some 93 then some (.arr [], (skipSpace rest).tail)
        else (parseItems fuel rest).map fun p => (.arr p.1, p.2)
      else if u = 123 then
        if (skipSpace rest).head? = some 125 then some (.obj [], (skipSpace rest).tail)
        else (parseMembers fuel [] rest).map fun p => (.obj (ownOrder p.1), p.2)
      else if u = 110 then (expect (js "ull") rest).map fun rest => (.null, rest)
      else if u = 116 then (expect (js "rue") rest).map fun rest => (.bool true, rest)
      else if u = 102 then (expect (js "alse") rest).map fun rest => (.bool false, rest)
      else (parseNumber (u :: rest)).map fun p => (.num p.1, p.2) := by
  simp only [parseValue, skipSpace_cons h]

theorem fuel_succ {text : JsString} (hn : text ≠ []) (h : 2 * text.length ≤ fuel) :
    ∃ k, fuel = k + 1 ∧ 2 * text.length ≤ k + 1 := by
  have hpos := List.length_pos_of_ne_nil hn
  exact ⟨fuel - 1, by omega, by omega⟩

theorem reads_number (h : z.natAbs < 2 ^ 53) : Reads (intText z) (.num (.ofInt z)) := by
  intro fuel rest hf he
  have hplain : Plain (.num (.ofInt z)) := ⟨z, rfl⟩
  obtain ⟨u, t, ht, hc⟩ := encodePlain_head hplain
  simp only [encodePlain, JsNumber.toInt?_ofInt, Option.getD_some, valueClass] at ht hc
  obtain ⟨k, rfl, hk⟩ := fuel_succ (by rw [ht]; simp) hf
  refine ⟨_, ?_, .num⟩
  have hne (w : UInt16) (hw : unitClass w ≠ 3) : u ≠ w := by
    rintro rfl
    exact hw hc
  have hspace : isSpace u = false := by
    simp [isSpace, hne 9 (by decide), hne 10 (by decide), hne 13 (by decide), hne 32 (by decide)]
  have hparse := parseNumber_intText h he
  rw [ht, List.cons_append] at hparse ⊢
  rw [parseValue_cons hspace, if_neg (hne 34 (by decide)), if_neg (hne 91 (by decide)),
    if_neg (hne 123 (by decide)), if_neg (hne 110 (by decide)), if_neg (hne 116 (by decide)),
    if_neg (hne 102 (by decide)), hparse]
  rfl

theorem reads_string (s : JsString) : Reads (jsonString s) (.str s) := by
  intro fuel rest hf he
  obtain ⟨k, rfl, hk⟩ := fuel_succ (by simp [jsonString]) hf
  refine ⟨_, ?_, .str⟩
  simp only [jsonString, List.cons_append, List.append_assoc, List.nil_append]
  rw [parseValue_cons (by decide), if_pos rfl, parseChars_string]
  rfl

theorem reads_null : Reads (js "null") .null := by
  intro fuel rest hf he
  obtain ⟨k, rfl, hk⟩ := fuel_succ (by decide) hf
  refine ⟨_, ?_, .null⟩
  have hw : js "null" ++ rest = 110 :: (js "ull" ++ rest) := rfl
  rw [hw, parseValue_cons (by decide), if_neg (by decide), if_neg (by decide), if_neg (by decide),
    if_pos rfl, expect_append]
  rfl

theorem reads_true : Reads (js "true") (.bool true) := by
  intro fuel rest hf he
  obtain ⟨k, rfl, hk⟩ := fuel_succ (by decide) hf
  refine ⟨_, ?_, .bool⟩
  have hw : js "true" ++ rest = 116 :: (js "rue" ++ rest) := rfl
  rw [hw, parseValue_cons (by decide), if_neg (by decide), if_neg (by decide), if_neg (by decide),
    if_neg (by decide), if_pos rfl, expect_append]
  rfl

theorem reads_false : Reads (js "false") (.bool false) := by
  intro fuel rest hf he
  obtain ⟨k, rfl, hk⟩ := fuel_succ (by decide) hf
  refine ⟨_, ?_, .bool⟩
  have hw : js "false" ++ rest = 102 :: (js "alse" ++ rest) := rfl
  rw [hw, parseValue_cons (by decide), if_neg (by decide), if_neg (by decide), if_neg (by decide),
    if_neg (by decide), if_neg (by decide), if_pos rfl, expect_append]
  rfl

theorem reads_array {texts : List JsString} {items : List JsValue}
    (h : List.Forall₂ Reads texts items) (ho : ∀ text ∈ texts, Opens text) :
    Reads (91 :: (joinComma texts ++ [93])) (.arr items) := by
  intro fuel rest hf he
  obtain ⟨k, rfl, hk⟩ := fuel_succ (by simp) hf
  simp only [List.length_cons, List.length_append, List.length_nil] at hk
  simp only [List.cons_append, List.append_assoc, List.nil_append]
  rw [parseValue_cons (by decide), if_neg (by decide), if_pos rfl]
  cases h with
  | nil => exact ⟨.arr [], rfl, .arr .nil⟩
  | @cons text item texts items hr hs =>
    obtain ⟨vs, hvs, hsame⟩ := parseItems_join rest (.cons hr hs) (by simp)
      (show 2 * (joinComma (text :: texts)).length + 1 ≤ k by omega)
    refine ⟨.arr vs, ?_, .arr hsame⟩
    obtain ⟨u, t, rfl, hspace, hclose⟩ := ho text List.mem_cons_self
    have hhead : (skipSpace (joinComma ((u :: t) :: texts) ++ 93 :: rest)).head? ≠ some 93 := by
      rw [joinComma_cons, List.cons_append, List.cons_append, skipSpace_cons hspace]
      simpa using hclose
    rw [if_neg hhead, hvs]
    rfl

theorem reads_object {texts : List JsString} {fields ordered : JsObject}
    (hp : ordered.Perm fields) (hr : List.Forall₂ ReadsMember texts ordered)
    (hk : (ordered.map Prod.fst).Nodup) :
    Reads (123 :: (joinComma texts ++ [125])) (.obj fields) := by
  intro fuel rest hf he
  obtain ⟨k, rfl, hlen⟩ := fuel_succ (by simp) hf
  simp only [List.length_cons, List.length_append, List.length_nil] at hlen
  simp only [List.cons_append, List.append_assoc, List.nil_append]
  rw [parseValue_cons (by decide), if_neg (by decide), if_neg (by decide), if_pos rfl]
  cases hr with
  | nil => exact ⟨.obj [], rfl, .obj .nil hp⟩
  | @cons text field texts ordered hmember hrest =>
    obtain ⟨vs, hvs, hsame⟩ := parseMembers_join [] rest (.cons hmember hrest) hk (by simp)
      (show _ ≤ k by omega)
    refine ⟨.obj (ownOrder vs), ?_, hsame.obj_of_perm (ownOrder_perm vs) hp⟩
    obtain ⟨value, rfl, -⟩ := hmember
    have hhead : (skipSpace (joinComma ((jsonString field.1 ++ 58 :: value) :: texts) ++
        125 :: rest)).head? ≠ some 125 := by
      rw [joinComma_cons, jsonString, List.cons_append, List.cons_append, List.cons_append,
        skipSpace_cons (by decide)]
      simp
    rw [if_neg hhead, hvs]
    rfl

/-- The members of an object in canonical form. -/
theorem readsMember_plain {fields : JsObject}
    (h : ∀ f ∈ fields, Reads (encodePlain (normalize f.2)) f.2) :
    List.Forall₂ ReadsMember (plainFields (normalizeFields fields)) fields := by
  induction fields with
  | nil => exact .nil
  | cons field fields ih =>
    rw [List.forall_mem_cons] at h
    exact .cons ⟨_, rfl, h.1⟩ (ih h.2)

mutual
/-- The values `JSON.parse` returns: nothing is undefined and no object has a key twice. -/
def Parsed : JsValue → Prop
  | .undefined => False
  | .arr items => ParsedItems items
  | .obj fields => (fields.map Prod.fst).Nodup ∧ ParsedFields fields
  | _ => True

def ParsedItems : List JsValue → Prop
  | [] => True
  | item :: items => Parsed item ∧ ParsedItems items

def ParsedFields : JsObject → Prop
  | [] => True
  | (_, child) :: fields => Parsed child ∧ ParsedFields fields
end

theorem parsedFields_iff {fields : JsObject} :
    ParsedFields fields ↔ ∀ f ∈ fields, Parsed f.2 := by
  induction fields with
  | nil => simp [ParsedFields]
  | cons f fields ih => simp [ParsedFields, ih]

theorem parsed_obj_perm {xs ys : JsObject} (h : xs.Perm ys) (hy : Parsed (.obj ys)) :
    Parsed (.obj xs) := by
  refine ⟨(h.map Prod.fst).nodup_iff.mpr hy.1, parsedFields_iff.mpr ?_⟩
  intro f hf
  exact parsedFields_iff.mp hy.2 f (h.mem_iff.mp hf)

theorem setField_parsed (h : Parsed (.obj fields)) (hv : Parsed value) (key : JsString) :
    Parsed (.obj (setField fields key value)) := by
  by_cases hm : key ∈ fields.map Prod.fst
  · have hany : (fields.any fun f => f.1 == key) = true := by
      obtain ⟨f, hf, rfl⟩ := List.mem_map.mp hm
      exact List.any_eq_true.mpr ⟨f, hf, by simp⟩
    rw [setField, if_pos hany]
    refine ⟨?_, parsedFields_iff.mpr ?_⟩
    · have hkeys : (fields.map fun f => if f.1 == key then (key, value) else f).map Prod.fst =
          fields.map Prod.fst := by
        rw [List.map_map]
        apply List.map_congr_left
        intro f _
        by_cases hf : f.1 = key <;> simp [hf]
      rw [hkeys]
      exact h.1
    · intro f hf
      obtain ⟨g, hg, rfl⟩ := List.mem_map.mp hf
      split
      · exact hv
      · exact parsedFields_iff.mp h.2 g hg
  · rw [setField_fresh hm]
    refine ⟨?_, parsedFields_iff.mpr ?_⟩
    · rw [List.map_append, List.map_singleton]
      refine List.nodup_append.mpr ⟨h.1, by simp, ?_⟩
      rintro a ha b hb rfl
      rw [List.mem_singleton.mp hb] at ha
      exact hm ha
    · intro f hf
      rcases List.mem_append.mp hf with hf | hf
      · exact parsedFields_iff.mp h.2 f hf
      · rw [List.mem_singleton.mp hf]
        exact hv

theorem parse_parsed (fuel : Nat) :
    (∀ {text v rest}, parseValue fuel text = some (v, rest) → Parsed v) ∧
    (∀ {text vs rest}, parseItems fuel text = some (vs, rest) → ParsedItems vs) ∧
    ∀ {fields text out rest}, Parsed (.obj fields) →
      parseMembers fuel fields text = some (out, rest) → Parsed (.obj out) := by
  induction fuel with
  | zero =>
    refine ⟨?_, ?_, ?_⟩
    · intro text v rest h
      cases h
    · intro text vs rest h
      cases h
    · intro fields text out rest _ h
      cases h
  | succ fuel ih =>
    obtain ⟨ihv, ihi, ihm⟩ := ih
    have hempty : Parsed (.obj []) := ⟨List.nodup_nil, True.intro⟩
    refine ⟨?_, ?_, ?_⟩
    · intro text v rest h
      simp only [parseValue] at h
      split at h
      · cases h
      · split_ifs at h
        · obtain ⟨p, -, he⟩ := Option.map_eq_some_iff.mp h
          cases he
          exact True.intro
        · cases h
          exact True.intro
        · obtain ⟨p, hp, he⟩ := Option.map_eq_some_iff.mp h
          cases he
          exact ihi hp
        · cases h
          exact hempty
        · obtain ⟨p, hp, he⟩ := Option.map_eq_some_iff.mp h
          cases he
          exact parsed_obj_perm (ownOrder_perm _) (ihm hempty hp)
        · obtain ⟨p, -, he⟩ := Option.map_eq_some_iff.mp h
          cases he
          exact True.intro
        · obtain ⟨p, -, he⟩ := Option.map_eq_some_iff.mp h
          cases he
          exact True.intro
        · obtain ⟨p, -, he⟩ := Option.map_eq_some_iff.mp h
          cases he
          exact True.intro
        · obtain ⟨p, -, he⟩ := Option.map_eq_some_iff.mp h
          cases he
          exact True.intro
    · intro text vs rest h
      simp only [parseItems, Option.bind_eq_bind, Option.bind_eq_some_iff] at h
      obtain ⟨⟨item, after⟩, hv, h⟩ := h
      split at h
      · cases h
      · split_ifs at h
        · obtain ⟨p, hp, he⟩ := Option.map_eq_some_iff.mp h
          cases he
          exact ⟨ihv hv, ihi hp⟩
        · cases h
          exact ⟨ihv hv, True.intro⟩
    · intro fields text out rest hf h
      simp only [parseMembers, Option.bind_eq_bind, Option.bind_eq_some_iff] at h
      obtain ⟨_, _, ⟨key, _⟩, _, _, _, ⟨value, after⟩, hv, h⟩ := h
      have hset := setField_parsed hf (ihv hv) key
      split at h
      · cases h
      · split_ifs at h
        · exact ihm hset h
        · cases h
          exact hset

/-- What `JSON.parse` accepts is well formed. -/
theorem jsonParse_parsed (h : jsonParse text = .ok v) : Parsed v := by
  unfold jsonParse at h
  split at h
  · next value rest hp =>
    split_ifs at h
    cases h
    exact (parse_parsed _).1 hp
  · cases h

theorem normalizeFields_sortKeys (fields : JsObject) :
    normalizeFields (sortKeys fields) = sortKeys (normalizeFields fields) := by
  rw [normalizeFields_eq_map, normalizeFields_eq_map, sortKeys_map fun f => normalize f.2]

mutual
/-- The text of a value in key order is read back as the value. -/
theorem reads_encodePlain : ∀ a : JsValue, Encodable a → UniqueKeys a →
    Reads (encodePlain (normalize a)) a
  | .null, _, _ => reads_null
  | .bool true, _, _ => reads_true
  | .bool false, _, _ => reads_false
  | .num n, h, _ => by
    obtain ⟨z, rfl⟩ := plain_normalize h
    have hz : z.natAbs < 2 ^ 53 := by
      simpa [JsNumber.isSafeInteger] using h.1
    simpa only [normalize, encodePlain, JsNumber.toInt?_ofInt, Option.getD_some] using
      reads_number hz
  | .str s, _, _ => reads_string s
  | .arr items, h, hu => by
    obtain ⟨hr, ho⟩ := reads_plainItems items h hu
    exact reads_array hr ho
  | .obj fields, h, hu => by
    rw [normalize, ← normalizeFields_sortKeys, encodePlain]
    apply reads_object (sortKeys_perm fields)
    · apply readsMember_plain
      intro f hf
      exact reads_plainFields fields h hu.2 f ((sortKeys_perm fields).mem_iff.mp hf)
    · exact sortKeys_keys_nodup hu.1

theorem reads_plainItems : ∀ items : List JsValue, EncodableItems items → UniqueItems items →
    List.Forall₂ Reads (plainItems (normalizeItems items)) items ∧
      ∀ text ∈ plainItems (normalizeItems items), Opens text
  | [], _, _ => ⟨.nil, by simp [normalizeItems, plainItems]⟩
  | item :: items, h, hu => by
    obtain ⟨hr, ho⟩ := reads_plainItems items h.2 hu.2
    refine ⟨.cons (reads_encodePlain item h.1 hu.1) hr, ?_⟩
    intro text ht
    rcases List.mem_cons.mp ht with rfl | ht
    · exact opens_encodePlain (plain_normalize h.1)
    · exact ho text ht

theorem reads_plainFields : ∀ fields : JsObject, EncodableFields fields → UniqueFields fields →
    ∀ f ∈ fields, Reads (encodePlain (normalize f.2)) f.2
  | [], _, _, f, hf => by cases hf
  | (key, child) :: fields, h, hu, f, hf => by
    rcases List.mem_cons.mp hf with rfl | hm
    · exact reads_encodePlain child h.1 hu.1
    · exact reads_plainFields fields h.2 hu.2 f hm
end

theorem jsonParse_canonicalize (h : Encodable a) (hu : UniqueKeys a) :
    ∃ v, jsonParse (encodePlain (normalize a)) = .ok v ∧ SameValue v a := by
  obtain ⟨v, hv, hsame⟩ := reads_encodePlain a h hu
    (2 * (encodePlain (normalize a)).length + 2) [] (by omega) True.intro
  rw [List.append_nil] at hv
  refine ⟨v, ?_, hsame⟩
  rw [jsonParse, hv]
  rfl

/-- The canonical text of a value is defined, is JSON for the value up to key order, and is the
text of no other value. -/
theorem canonicalize_faithful (a b : JsValue) (ha : Encodable a) (hb : Encodable b)
    (hua : UniqueKeys a) (hub : UniqueKeys b) :
    (∃ text, canonicalize a = .ok text ∧ ∃ v, jsonParse text = .ok v ∧ SameValue v a) ∧
    (canonicalize a = canonicalize b ↔ SameValue a b) := by
  refine ⟨⟨_, canonicalize_eq ha, jsonParse_canonicalize ha hua⟩, ?_⟩
  rw [sameValue_iff hub]
  constructor
  · intro h
    exact canonicalize_unique (canonicalize_eq ha) (h ▸ canonicalize_eq ha)
  · intro h
    rw [canonicalize_eq ha, canonicalize_eq hb, h]

/-- Nested objects, a negative number and a string with a lone surrogate. -/
def nestedFields : JsObject :=
  [(js "b", .arr [.num (.ofInt (-2)), .str [0xD800, 34]]), (js "10", .null),
    (js "9", .obj [(js "a", .bool true)])]

theorem nestedFields_encodable : ∀ f ∈ nestedFields, Encodable f.2 := by
  simp [nestedFields, Encodable, EncodableFields, EncodableItems, JsNumber.isSafeInteger,
    JsNumber.ofInt, JsNumber.toInt?]

theorem nestedFields_unique : ∀ f ∈ nestedFields, UniqueKeys f.2 := by
  simp [nestedFields, UniqueKeys, UniqueFields, UniqueItems]

theorem canonicalize_faithful_sample :
    (∃ text, canonicalize (.obj nestedFields) = .ok text ∧
      ∃ v, jsonParse text = .ok v ∧ SameValue v (.obj nestedFields)) ∧
    (canonicalize (.obj nestedFields) = canonicalize (.obj nestedFields.reverse) ↔
      SameValue (.obj nestedFields) (.obj nestedFields.reverse)) := by
  have hk : (nestedFields.map Prod.fst).Nodup := by decide
  have hk' : (nestedFields.reverse.map Prod.fst).Nodup := by decide
  apply canonicalize_faithful
  · exact encodableFields_iff.mpr nestedFields_encodable
  · exact encodableFields_iff.mpr fun f hf => nestedFields_encodable f (List.mem_reverse.mp hf)
  · exact ⟨hk, uniqueFields_iff.mpr nestedFields_unique⟩
  · exact ⟨hk', uniqueFields_iff.mpr fun f hf => nestedFields_unique f (List.mem_reverse.mp hf)⟩

end Continuity

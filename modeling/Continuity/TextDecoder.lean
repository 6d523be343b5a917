import Continuity.TextEncoder

namespace Continuity
set_option autoImplicit true

/-- A character that has begun: how many bytes it still needs, its bits so far, and the range of the
next byte. -/
structure Begun where
  needed : Nat
  bits : Nat
  lower : Nat
  upper : Nat

/-- What the first byte of a character gives. -/
def utf8Start (b : Nat) : List Nat × Option Begun :=
  if b < 0x80 then ([b], none)
  else if b < 0xC2 then ([0xFFFD], none)
  else if b < 0xE0 then ([], some ⟨1, b - 0xC0, 0x80, 0xBF⟩)
  else if b < 0xF0 then
    let lower := if b = 0xE0 then 0xA0 else 0x80
    let upper := if b = 0xED then 0x9F else 0xBF
    ([], some ⟨2, b - 0xE0, lower, upper⟩)
  else if b < 0xF5 then
    let lower := if b = 0xF0 then 0x90 else 0x80
    let upper := if b = 0xF4 then 0x8F else 0xBF
    ([], some ⟨3, b - 0xF0, lower, upper⟩)
  else ([0xFFFD], none)

/-- The scalar values that a byte completes, and the character that has begun after it. A byte out
of range ends the character before it and is read again. -/
def utf8Step : Option Begun → Nat → List Nat × Option Begun
  | none, b => utf8Start b
  | some begun, b =>
    if begun.lower ≤ b ∧ b ≤ begun.upper then
      let bits := begun.bits * 64 + (b - 0x80)
      if begun.needed = 1 then ([bits], none)
      else ([], some ⟨begun.needed - 1, bits, 0x80, 0xBF⟩)
    else (0xFFFD :: (utf8Start b).1, (utf8Start b).2)

def utf8Points : Option Begun → Bytes → List Nat
  | none, [] => []
  | some _, [] => [0xFFFD]
  | begun, b :: rest => (utf8Step begun b.toNat).1 ++ utf8Points (utf8Step begun b.toNat).2 rest

/-- `buffer.toString("utf8")`. -/
def textDecode (bytes : Bytes) : JsString := (utf8Points none bytes).flatMap scalarUnits

/-- A number that is the value of a character. -/
def IsScalar (c : Nat) : Prop := c < 0xD800 ∨ 0xE000 ≤ c ∧ c < 0x110000

section Steps

variable {b c bits lower upper n : Nat}

theorem utf8Points_cons (begun : Option Begun) (h : b < 256) (rest : Bytes) :
    utf8Points begun (UInt8.ofNat b :: rest) =
      (utf8Step begun b).1 ++ utf8Points (utf8Step begun b).2 rest := by
  have hb : (UInt8.ofNat b).toNat = b := by
    rw [UInt8.toNat_ofNat', Nat.mod_eq_of_lt h]
  cases begun with
  | none => rw [utf8Points, hb]
  | some begun => rw [utf8Points, hb]

theorem utf8Step_last (hl : lower ≤ b) (hu : b ≤ upper) :
    utf8Step (some ⟨1, bits, lower, upper⟩) b = ([bits * 64 + (b - 0x80)], none) := by
  rw [utf8Step, if_pos ⟨hl, hu⟩, if_pos rfl]

theorem utf8Step_more (hl : lower ≤ b) (hu : b ≤ upper) :
    utf8Step (some ⟨n + 2, bits, lower, upper⟩) b =
      ([], some ⟨n + 1, bits * 64 + (b - 0x80), 0x80, 0xBF⟩) := by
  rw [utf8Step, if_pos ⟨hl, hu⟩, if_neg (by simp)]
  rfl

/-- A character is read as itself. -/
theorem utf8Points_utf8 (h : IsScalar c) (rest : Bytes) :
    utf8Points none (utf8 c ++ rest) = c :: utf8Points none rest := by
  have hc : c < 0x110000 := by
    rcases h with h | h
    · omega
    · exact h.2
  have happend (points : List Nat) : ([] : List Nat) ++ points = points := rfl
  unfold utf8
  split
  · next h1 =>
    have hstart : utf8Step none c = ([c], none) := by
      rw [utf8Step, utf8Start, if_pos h1]
    rw [List.singleton_append, utf8Points_cons none (by omega), hstart, List.singleton_append]
  split
  · next h1 h2 =>
    have hstart : utf8Step none (0xC0 + c / 64) =
        ([], some ⟨1, 0xC0 + c / 64 - 0xC0, 0x80, 0xBF⟩) := by
      rw [utf8Step, utf8Start, if_neg (by omega), if_neg (by omega), if_pos (by omega)]
    simp only [List.cons_append, List.nil_append]
    have hbits : (0xC0 + c / 64 - 0xC0) * 64 + (0x80 + c % 64 - 0x80) = c := by omega
    rw [utf8Points_cons none (by omega), hstart, happend, utf8Points_cons _ (by omega),
      utf8Step_last (by omega) (by omega), List.singleton_append, hbits]
  split
  · next h1 h2 h3 =>
    obtain ⟨lower, upper, hstart, hlower, hupper⟩ : ∃ lower upper,
        utf8Step none (0xE0 + c / 4096) =
          ([], some ⟨2, 0xE0 + c / 4096 - 0xE0, lower, upper⟩) ∧
        lower ≤ 0x80 + c / 64 % 64 ∧ 0x80 + c / 64 % 64 ≤ upper := by
      rw [utf8Step, utf8Start, if_neg (by omega), if_neg (by omega), if_neg (by omega),
        if_pos (by omega)]
      refine ⟨_, _, rfl, ?_, ?_⟩
      · split <;> omega
      · split
        · rcases h with h | h <;> omega
        · omega
    simp only [List.cons_append, List.nil_append]
    have hbits : ((0xE0 + c / 4096 - 0xE0) * 64 + (0x80 + c / 64 % 64 - 0x80)) * 64 +
        (0x80 + c % 64 - 0x80) = c := by omega
    rw [utf8Points_cons none (by omega), hstart, happend, utf8Points_cons _ (by omega),
      utf8Step_more hlower hupper, happend, utf8Points_cons _ (by omega),
      utf8Step_last (by omega) (by omega), List.singleton_append, hbits]
  · next h1 h2 h3 =>
    obtain ⟨lower, upper, hstart, hlower, hupper⟩ : ∃ lower upper,
        utf8Step none (0xF0 + c / 262144) =
          ([], some ⟨3, 0xF0 + c / 262144 - 0xF0, lower, upper⟩) ∧
        lower ≤ 0x80 + c / 4096 % 64 ∧ 0x80 + c / 4096 % 64 ≤ upper := by
      rw [utf8Step, utf8Start, if_neg (by omega), if_neg (by omega), if_neg (by omega),
        if_neg (by omega), if_pos (by omega)]
      refine ⟨_, _, rfl, ?_, ?_⟩
      · split <;> omega
      · split <;> omega
    simp only [List.cons_append, List.nil_append]
    have hbits : (((0xF0 + c / 262144 - 0xF0) * 64 + (0x80 + c / 4096 % 64 - 0x80)) * 64 +
        (0x80 + c / 64 % 64 - 0x80)) * 64 + (0x80 + c % 64 - 0x80) = c := by omega
    rw [utf8Points_cons none (by omega), hstart, happend, utf8Points_cons _ (by omega),
      utf8Step_more hlower hupper, happend, utf8Points_cons _ (by omega),
      utf8Step_more (by omega) (by omega), happend, utf8Points_cons _ (by omega),
      utf8Step_last (by omega) (by omega), List.singleton_append, hbits]

end Steps

theorem scalarValues_isScalar (s : JsString) : ∀ c ∈ scalarValues s, IsScalar c := by
  have hunit (u : UInt16) : IsScalar (if isSurrogate u then 0xFFFD else u.toNat) := by
    split
    · exact .inr (by decide)
    · next hu =>
      have hlt := u.toNat_lt
      simp only [isSurrogate, Bool.and_eq_true, decide_eq_true_eq, not_and] at hu
      unfold IsScalar
      omega
  induction s using scalarValues.induct with
  | case1 =>
    intro c hc
    cases hc
  | case2 u => exact List.forall_mem_singleton.mpr (hunit u)
  | case3 u v rest hp ih =>
    rw [scalarValues, if_pos hp]
    refine List.forall_mem_cons.mpr ⟨.inr ?_, ih⟩
    obtain ⟨hu, hv⟩ := Bool.and_eq_true_iff.mp hp
    obtain ⟨a, b, ha, hb, -, -, he⟩ := surrogatePair_split hu hv
    rw [he]
    omega
  | case4 u v rest hp ih =>
    rw [scalarValues, if_neg hp]
    exact List.forall_mem_cons.mpr ⟨hunit u, ih⟩

theorem utf8Points_flatMap {cs : List Nat} (h : ∀ c ∈ cs, IsScalar c) :
    utf8Points none (cs.flatMap utf8) = cs := by
  induction cs with
  | nil => rfl
  | cons c cs ih =>
    rw [List.forall_mem_cons] at h
    rw [List.flatMap_cons, utf8Points_utf8 h.1, ih h.2]

/-- What is encoded is read as its scalar values. -/
theorem textDecode_textEncode (s : JsString) :
    textDecode (textEncode s) = (scalarValues s).flatMap scalarUnits := by
  rw [textDecode, textEncode, utf8Points_flatMap (scalarValues_isScalar s)]

theorem textDecode_wellFormed (h : WellFormed s) : textDecode (textEncode s) = s := by
  rw [textDecode_textEncode, scalarUnits_scalarValues h]

end Continuity

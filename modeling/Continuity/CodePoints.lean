import Continuity.KeyOrder

namespace Continuity
set_option autoImplicit true

/-- The UTF-16 code units of a sequence of Unicode characters. -/
def utf16 (s : List Char) : JsString := s.flatMap fun c => scalarUnits c.toNat

def utf8Bytes (s : List Char) : Bytes := s.flatMap fun c => utf8 c.toNat

/-- The order of strings by code point. -/
def pointsLe (a b : List Char) : Bool := numbersLe (a.map Char.toNat) (b.map Char.toNat)

/-- The order of strings by byte. -/
def bytesLe (a b : Bytes) : Bool := numbersLe (a.map UInt8.toNat) (b.map UInt8.toNat)

theorem char_range (c : Char) :
    c.toNat < 0xD800 ∨ 0xDFFF < c.toNat ∧ c.toNat < 0x110000 := c.valid

theorem utf16_cons (c : Char) (s : List Char) :
    utf16 (c :: s) = scalarUnits c.toNat ++ utf16 s := rfl

theorem utf16_append (s t : List Char) : utf16 (s ++ t) = utf16 s ++ utf16 t :=
  List.flatMap_append

theorem utf8Bytes_append (s t : List Char) : utf8Bytes (s ++ t) = utf8Bytes s ++ utf8Bytes t :=
  List.flatMap_append

/-- A character outside the surrogate range is one unit, or a pair of surrogates. -/
theorem scalarUnits_cases (c : Char) :
    (∃ u, scalarUnits c.toNat = [u] ∧ isSurrogate u = false ∧ u.toNat = c.toNat) ∨
    ∃ u v, scalarUnits c.toNat = [u, v] ∧ isHighSurrogate u = true ∧ isLowSurrogate v = true ∧
      surrogatePair u v = c.toNat := by
  have hr := char_range c
  unfold scalarUnits
  split_ifs with h
  · have hu : (UInt16.ofNat c.toNat).toNat = c.toNat := by
      rw [UInt16.toNat_ofNat']
      omega
    refine .inl ⟨_, rfl, ?_, hu⟩
    simp only [isSurrogate, hu, Bool.and_eq_false_iff, decide_eq_false_iff_not]
    omega
  · have hu : (UInt16.ofNat (0xD800 + (c.toNat - 0x10000) / 0x400)).toNat =
        0xD800 + (c.toNat - 0x10000) / 0x400 := by
      rw [UInt16.toNat_ofNat']
      omega
    have hv : (UInt16.ofNat (0xDC00 + (c.toNat - 0x10000) % 0x400)).toNat =
        0xDC00 + (c.toNat - 0x10000) % 0x400 := by
      rw [UInt16.toNat_ofNat']
      omega
    refine .inr ⟨_, _, rfl, ?_, ?_, ?_⟩
    · simp only [isHighSurrogate, hu, Bool.and_eq_true, decide_eq_true_eq]
      omega
    · simp only [isLowSurrogate, hv, Bool.and_eq_true, decide_eq_true_eq]
      omega
    · unfold surrogatePair
      rewrite [hu, hv]
      generalize c.toNat = n at *
      omega

theorem scalarValues_utf16 (s : List Char) : scalarValues (utf16 s) = s.map Char.toNat := by
  induction s with
  | nil => rfl
  | cons c s ih =>
    rw [utf16_cons, List.map_cons, ← ih]
    rcases scalarUnits_cases c with ⟨u, hu, hs, he⟩ | ⟨u, v, huv, hu, hv, he⟩
    · have hhigh : isHighSurrogate u = false := by
        simp only [isSurrogate, isHighSurrogate, Bool.and_eq_false_iff, decide_eq_false_iff_not]
          at hs ⊢
        omega
      rw [hu, List.singleton_append]
      cases utf16 s with
      | nil => simp [scalarValues, hs, he]
      | cons v rest => simp [scalarValues, hs, hhigh, he]
    · simp [huv, scalarValues, hu, hv, he]

/-- The encoder of the browser gives the UTF-8 bytes of the characters. -/
theorem textEncode_utf16 (s : List Char) : textEncode (utf16 s) = utf8Bytes s := by
  rw [textEncode, scalarValues_utf16, List.flatMap_map]
  rfl

theorem map_toNat_injective {s t : List Char} (h : s.map Char.toNat = t.map Char.toNat) :
    s = t :=
  List.map_injective_iff.mpr (fun _ _ he => Char.toNat_inj.mp he) h

theorem utf16_injective (h : utf16 s = utf16 t) : s = t := by
  apply map_toNat_injective
  rw [← scalarValues_utf16, ← scalarValues_utf16, h]

theorem utf8Bytes_injective (h : utf8Bytes s = utf8Bytes t) : s = t := by
  have hlt (s : List Char) : ∀ n ∈ s.map Char.toNat, n < 0x110000 := by
    intro n hn
    obtain ⟨c, -, rfl⟩ := List.mem_map.mp hn
    have hr := char_range c
    omega
  apply map_toNat_injective
  apply flatMap_utf8_injective (hlt s) (hlt t)
  simpa only [List.flatMap_map, utf8Bytes] using h

section Orders

/-- One word comes before another whatever follows the two. -/
def Precedes (p q : List Nat) : Prop :=
  ∀ r s, numbersLe (p ++ r) (q ++ s) = true ∧ numbersLe (q ++ s) (p ++ r) = false

theorem precedes_of_lt (h : n < m) : Precedes (n :: p) (m :: q) := by
  intro r s
  simp only [List.cons_append]
  constructor
  · exact numbersLe_cons.mpr (.inl h)
  · rw [Bool.eq_false_iff, Ne, numbersLe_cons]
    omega

/-- Words are compared at their first number, or after it when it is the same. -/
theorem precedes_cons (h : n ≤ m) (hs : n = m → Precedes p q) : Precedes (n :: p) (m :: q) := by
  rcases Nat.lt_or_eq_of_le h with hlt | rfl
  · exact precedes_of_lt hlt
  · intro r s
    simpa only [List.cons_append, numbersLe, lt_self_iff_false, decide_false, beq_self_eq_true,
      Bool.true_and, Bool.false_or] using hs rfl r s

theorem numbersLe_append (p a b : List Nat) :
    numbersLe (p ++ a) (p ++ b) = numbersLe a b := by
  induction p with
  | nil => rfl
  | cons n p ih => simp [numbersLe, ih]

/-- A code of single characters orders texts by code point as long as it keeps the order of the
characters. -/
theorem numbersLe_flatMap {code : Char → List Nat} (hn : ∀ c, code c ≠ [])
    (hk : ∀ c d : Char, c.toNat < d.toNat → Precedes (code c) (code d)) (a b : List Char) :
    numbersLe (a.flatMap code) (b.flatMap code) = pointsLe a b := by
  induction a generalizing b with
  | nil => rfl
  | cons c a ih =>
    cases b with
    | nil =>
      cases hc : code c with
      | nil => exact absurd hc (hn c)
      | cons n p => simp [hc, pointsLe, numbersLe]
    | cons d b =>
      simp only [List.flatMap_cons, pointsLe, List.map_cons, numbersLe]
      rcases Nat.lt_trichotomy c.toNat d.toNat with h | h | h
      · rw [(hk c d h _ _).1]
        simp [h]
      · obtain rfl := Char.toNat_inj.mp h
        rw [numbersLe_append, ih]
        simp [pointsLe]
      · rw [(hk d c h _ _).2]
        simp [Nat.not_lt.mpr h.le, Nat.ne_of_gt h]

theorem precedes_utf8 (h : n < m) (hm : m < 0x110000) :
    Precedes ((utf8 n).map UInt8.toNat) ((utf8 m).map UInt8.toNat) := by
  have hb (k : Nat) (hk : k < 256) : (UInt8.ofNat k).toNat = k := by
    rw [UInt8.toNat_ofNat']
    omega
  unfold utf8
  split_ifs <;> simp only [List.map_cons, List.map_nil]
  · rw [hb _ (by omega), hb _ (by omega)]
    exact precedes_of_lt h
  · rw [hb _ (by omega), hb _ (by omega)]
    exact precedes_of_lt (by omega)
  · rw [hb _ (by omega), hb _ (by omega)]
    exact precedes_of_lt (by omega)
  · rw [hb _ (by omega), hb _ (by omega)]
    exact precedes_of_lt (by omega)
  · omega
  · rw [hb _ (by omega), hb _ (by omega), hb _ (by omega), hb _ (by omega)]
    exact precedes_cons (by omega) fun _ => precedes_of_lt (by omega)
  · rw [hb _ (by omega), hb (0xE0 + m / 4096) (by omega)]
    exact precedes_of_lt (by omega)
  · rw [hb _ (by omega), hb (0xF0 + m / 262144) (by omega)]
    exact precedes_of_lt (by omega)
  · omega
  · omega
  · rw [hb _ (by omega), hb _ (by omega), hb _ (by omega), hb _ (by omega), hb _ (by omega),
      hb _ (by omega)]
    exact precedes_cons (by omega) fun _ => precedes_cons (by omega) fun _ => precedes_of_lt (by omega)
  · rw [hb _ (by omega), hb (0xF0 + m / 262144) (by omega)]
    exact precedes_of_lt (by omega)
  · omega
  · omega
  · omega
  · rw [hb _ (by omega), hb _ (by omega), hb _ (by omega), hb _ (by omega), hb _ (by omega),
      hb _ (by omega), hb _ (by omega), hb _ (by omega)]
    exact precedes_cons (by omega) fun _ => precedes_cons (by omega) fun _ =>
      precedes_cons (by omega) fun _ => precedes_of_lt (by omega)

theorem bytesLe_utf8Bytes (a b : List Char) :
    bytesLe (utf8Bytes a) (utf8Bytes b) = pointsLe a b := by
  have hmap (s : List Char) : (utf8Bytes s).map UInt8.toNat =
      s.flatMap fun c => (utf8 c.toNat).map UInt8.toNat := by
    rw [utf8Bytes, List.map_flatMap]
  rw [bytesLe, hmap, hmap]
  apply numbersLe_flatMap
  · intro c h
    exact utf8_ne_nil c.toNat (List.map_eq_nil_iff.mp h)
  · intro c d h
    have hr := char_range d
    exact precedes_utf8 h (by omega)

/-- The characters whose order by code unit differs from their order by code point. -/
def Swapped (c d : Char) : Prop :=
  0xE000 ≤ c.toNat ∧ c.toNat ≤ 0xFFFF ∧ 0x10000 ≤ d.toNat

def unitNumbers (c : Char) : List Nat := (scalarUnits c.toNat).map UInt16.toNat

theorem unitNumbers_small (h : c.toNat < 0x10000) : unitNumbers c = [c.toNat] := by
  rw [unitNumbers, scalarUnits, if_pos h, List.map_singleton, UInt16.toNat_ofNat',
    Nat.mod_eq_of_lt h]

theorem unitNumbers_large (h : 0x10000 ≤ c.toNat) :
    unitNumbers c = [0xD800 + (c.toNat - 0x10000) / 0x400, 0xDC00 + (c.toNat - 0x10000) % 0x400] := by
  have hr := char_range c
  rewrite [unitNumbers, scalarUnits, if_neg (by omega), List.map_cons, List.map_singleton,
    UInt16.toNat_ofNat', UInt16.toNat_ofNat', Nat.mod_eq_of_lt (by omega),
    Nat.mod_eq_of_lt (by omega)]
  exact rfl

theorem precedes_units (h : c.toNat < d.toNat) (hs : ¬Swapped c d) :
    Precedes (unitNumbers c) (unitNumbers d) := by
  have hc := char_range c
  have hd := char_range d
  unfold Swapped at hs
  by_cases hlc : c.toNat < 0x10000
  · by_cases hld : d.toNat < 0x10000
    · rw [unitNumbers_small hlc, unitNumbers_small hld]
      exact precedes_of_lt h
    · rw [unitNumbers_small hlc, unitNumbers_large (by omega)]
      exact precedes_of_lt (by omega)
  · rw [unitNumbers_large (by omega), unitNumbers_large (by omega)]
    exact precedes_cons (by omega) fun _ => precedes_of_lt (by omega)

theorem precedes_units_swapped (h : Swapped c d) : Precedes (unitNumbers d) (unitNumbers c) := by
  have hd := char_range d
  obtain ⟨hl, hu, hd'⟩ := h
  rw [unitNumbers_large hd', unitNumbers_small (Nat.lt_succ_of_le hu)]
  exact precedes_of_lt (by omega)

/-- Two keys that first differ in such characters. -/
def Clash (k l : List Char) : Prop :=
  ∃ p c s d t, k = p ++ c :: s ∧ l = p ++ d :: t ∧ Swapped c d

theorem not_clash_nil (l : List Char) : ¬Clash [] l := by
  rintro ⟨p, c, s, d, t, h, -⟩
  simp at h

theorem not_clash_nil_right (k : List Char) : ¬Clash k [] := by
  rintro ⟨p, c, s, d, t, -, h, -⟩
  simp at h

theorem clash_cons : Clash (c :: k) (d :: l) ↔ Swapped c d ∨ c = d ∧ Clash k l := by
  constructor
  · rintro ⟨p, c', s, d', t, hk, hl, hs⟩
    cases p with
    | nil =>
      simp only [List.nil_append, List.cons.injEq] at hk hl
      obtain ⟨rfl, -⟩ := hk
      obtain ⟨rfl, -⟩ := hl
      exact .inl hs
    | cons e p =>
      simp only [List.cons_append, List.cons.injEq] at hk hl
      exact .inr ⟨hk.1.trans hl.1.symm, p, c', s, d', t, hk.2, hl.2, hs⟩
  · rintro (hs | ⟨rfl, p, c', s, d', t, rfl, rfl, hs⟩)
    · exact ⟨[], c, k, d, l, rfl, rfl, hs⟩
    · exact ⟨c :: p, c', s, d', t, rfl, rfl, hs⟩

theorem not_swapped_self (c : Char) : ¬Swapped c c := by
  rintro ⟨-, h, h'⟩
  omega

theorem swapped_lt (h : Swapped c d) : c.toNat < d.toNat := by
  obtain ⟨-, hc, hd⟩ := h
  omega

theorem unitsLe_utf16 (k l : List Char) : unitsLe (utf16 k) (utf16 l) =
    numbersLe (k.flatMap unitNumbers) (l.flatMap unitNumbers) := by
  have hmap (s : List Char) : (utf16 s).map UInt16.toNat = s.flatMap unitNumbers := by
    rw [utf16, List.map_flatMap]
    rfl
  rw [unitsLe_eq, hmap, hmap]

theorem unitNumbers_ne_nil (c : Char) : unitNumbers c ≠ [] := by
  by_cases h : c.toNat < 0x10000
  · simp [unitNumbers_small h]
  · simp [unitNumbers_large (Nat.le_of_not_lt h)]

/-- The order by code unit is the order by code point exactly on keys that do not clash. -/
theorem unitsLe_eq_pointsLe_iff (k l : List Char) :
    unitsLe (utf16 k) (utf16 l) = pointsLe k l ↔ ¬Clash k l ∧ ¬Clash l k := by
  rw [unitsLe_utf16]
  induction k generalizing l with
  | nil =>
    refine iff_of_true rfl ⟨not_clash_nil l, not_clash_nil_right l⟩
  | cons c k ih =>
    cases l with
    | nil =>
      refine iff_of_true ?_ ⟨not_clash_nil_right _, not_clash_nil _⟩
      cases hc : unitNumbers c with
      | nil => exact absurd hc (unitNumbers_ne_nil c)
      | cons n p => simp [hc, pointsLe, numbersLe]
    | cons d l =>
      simp only [List.flatMap_cons, clash_cons, pointsLe, List.map_cons]
      rcases Nat.lt_trichotomy c.toNat d.toNat with h | h | h
      · have hne : c ≠ d := fun he => by simp [he] at h
        have hright : ¬Swapped d c := fun hs => Nat.lt_asymm h (swapped_lt hs)
        have hp : numbersLe (c.toNat :: k.map Char.toNat) (d.toNat :: l.map Char.toNat) = true :=
          numbersLe_cons.mpr (.inl h)
        rw [hp]
        by_cases hs : Swapped c d
        · simp [(precedes_units_swapped hs _ _).2, hs]
        · simp [(precedes_units h hs _ _).1, hs, hright, hne, hne.symm]
      · obtain rfl := Char.toNat_inj.mp h
        rw [numbersLe_append, numbersLe]
        simpa [not_swapped_self, pointsLe] using ih l
      · have hne : c ≠ d := fun he => by simp [he] at h
        have hleft : ¬Swapped c d := fun hs => Nat.lt_asymm h (swapped_lt hs)
        have hp : numbersLe (c.toNat :: k.map Char.toNat) (d.toNat :: l.map Char.toNat) = false := by
          rw [Bool.eq_false_iff, Ne, numbersLe_cons]
          omega
        rw [hp]
        by_cases hs : Swapped d c
        · simp [(precedes_units_swapped hs _ _).1, hs]
        · simp [(precedes_units h hs _ _).2, hs, hleft, hne, hne.symm]

end Orders

end Continuity

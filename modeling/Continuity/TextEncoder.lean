import Continuity.JsString

namespace Continuity
set_option autoImplicit true

def isHighSurrogate (u : UInt16) : Bool := 0xD800 ≤ u.toNat && u.toNat < 0xDC00

def isLowSurrogate (u : UInt16) : Bool := 0xDC00 ≤ u.toNat && u.toNat < 0xE000

def isSurrogate (u : UInt16) : Bool := 0xD800 ≤ u.toNat && u.toNat < 0xE000

def surrogatePair (u v : UInt16) : Nat :=
  0x10000 + (u.toNat - 0xD800) * 0x400 + (v.toNat - 0xDC00)

/-- The scalar values of a string, a lone surrogate giving the replacement character. -/
def scalarValues : JsString → List Nat
  | [] => []
  | [u] => [if isSurrogate u then 0xFFFD else u.toNat]
  | u :: v :: rest =>
    if isHighSurrogate u && isLowSurrogate v then surrogatePair u v :: scalarValues rest
    else (if isSurrogate u then 0xFFFD else u.toNat) :: scalarValues (v :: rest)

def utf8 (c : Nat) : Bytes :=
  if c < 0x80 then [UInt8.ofNat c]
  else if c < 0x800 then [UInt8.ofNat (0xC0 + c / 64), UInt8.ofNat (0x80 + c % 64)]
  else if c < 0x10000 then
    [UInt8.ofNat (0xE0 + c / 4096), UInt8.ofNat (0x80 + c / 64 % 64), UInt8.ofNat (0x80 + c % 64)]
  else [UInt8.ofNat (0xF0 + c / 262144), UInt8.ofNat (0x80 + c / 4096 % 64),
    UInt8.ofNat (0x80 + c / 64 % 64), UInt8.ofNat (0x80 + c % 64)]

/-- `new TextEncoder().encode`. -/
def textEncode (s : JsString) : Bytes := (scalarValues s).flatMap utf8

/-- Every surrogate of the string belongs to a pair. -/
def WellFormed : JsString → Prop
  | [] => True
  | [u] => isSurrogate u = false
  | u :: v :: rest =>
    if isHighSurrogate u && isLowSurrogate v then WellFormed rest
    else isSurrogate u = false ∧ WellFormed (v :: rest)

theorem WellFormed.cons_of_not_surrogate (hu : isSurrogate u = false) (h : WellFormed s) :
    WellFormed (u :: s) := by
  cases s with
  | nil => exact hu
  | cons v rest =>
    have hh : isHighSurrogate u = false := by
      simp only [isSurrogate, isHighSurrogate, Bool.and_eq_false_iff, decide_eq_false_iff_not]
        at hu ⊢
      omega
    simp only [WellFormed, hh, Bool.false_and, Bool.false_eq_true, ↓reduceIte]
    exact ⟨hu, h⟩

theorem WellFormed.pair (hu : isHighSurrogate u = true) (hv : isLowSurrogate v = true)
    (h : WellFormed s) : WellFormed (u :: v :: s) := by
  simpa only [WellFormed, hu, hv, Bool.and_true, ↓reduceIte] using h

/-- A string of units outside the surrogate range is well formed before any well-formed rest. -/
theorem WellFormed.append (hs : ∀ u ∈ s, isSurrogate u = false) (h : WellFormed t) :
    WellFormed (s ++ t) := by
  induction s with
  | nil => exact h
  | cons u s ih =>
    exact .cons_of_not_surrogate (hs u (by simp)) (ih fun v hv => hs v (by simp [hv]))

theorem ofNat_inj {a b : Nat} (h : UInt8.ofNat a = UInt8.ofNat b) (ha : a < 256)
    (hb : b < 256) : a = b := by
  have he := congrArg UInt8.toNat h
  simp only [UInt8.toNat_ofNat'] at he
  omega

/-- UTF-8 is a prefix code. -/
theorem utf8_prefix {c d : Nat} {r s : Bytes} (hc : c < 0x110000) (hd : d < 0x110000)
    (h : utf8 c ++ r = utf8 d ++ s) : c = d ∧ r = s := by
  unfold utf8 at h
  split_ifs at h <;> simp only [List.cons_append, List.nil_append, List.cons.injEq] at h
  · have h₁ := ofNat_inj h.1 (by omega) (by omega)
    exact ⟨h₁, h.2⟩
  · have h₁ := ofNat_inj h.1 (by omega) (by omega)
    omega
  · have h₁ := ofNat_inj h.1 (by omega) (by omega)
    omega
  · have h₁ := ofNat_inj h.1 (by omega) (by omega)
    omega
  · have h₁ := ofNat_inj h.1 (by omega) (by omega)
    omega
  · have h₁ := ofNat_inj h.1 (by omega) (by omega)
    have h₂ := ofNat_inj h.2.1 (by omega) (by omega)
    exact ⟨by omega, h.2.2⟩
  · have h₁ := ofNat_inj h.1 (by omega) (by omega)
    omega
  · have h₁ := ofNat_inj h.1 (by omega) (by omega)
    omega
  · have h₁ := ofNat_inj h.1 (by omega) (by omega)
    omega
  · have h₁ := ofNat_inj h.1 (by omega) (by omega)
    omega
  · have h₁ := ofNat_inj h.1 (by omega) (by omega)
    have h₂ := ofNat_inj h.2.1 (by omega) (by omega)
    have h₃ := ofNat_inj h.2.2.1 (by omega) (by omega)
    exact ⟨by omega, h.2.2.2⟩
  · have h₁ := ofNat_inj h.1 (by omega) (by omega)
    omega
  · have h₁ := ofNat_inj h.1 (by omega) (by omega)
    omega
  · have h₁ := ofNat_inj h.1 (by omega) (by omega)
    omega
  · have h₁ := ofNat_inj h.1 (by omega) (by omega)
    omega
  · have h₁ := ofNat_inj h.1 (by omega) (by omega)
    have h₂ := ofNat_inj h.2.1 (by omega) (by omega)
    have h₃ := ofNat_inj h.2.2.1 (by omega) (by omega)
    have h₄ := ofNat_inj h.2.2.2.1 (by omega) (by omega)
    exact ⟨by omega, h.2.2.2.2⟩

theorem utf8_ne_nil (c : Nat) : utf8 c ≠ [] := by
  unfold utf8
  split_ifs <;> simp

theorem flatMap_utf8_injective {cs ds : List Nat} (hc : ∀ c ∈ cs, c < 0x110000)
    (hd : ∀ d ∈ ds, d < 0x110000) (h : cs.flatMap utf8 = ds.flatMap utf8) : cs = ds := by
  induction cs generalizing ds with
  | nil =>
    cases ds with
    | nil => rfl
    | cons d ds =>
      simp only [List.flatMap_nil, List.flatMap_cons] at h
      exact (utf8_ne_nil d (List.append_eq_nil_iff.1 h.symm).1).elim
  | cons c cs ih =>
    cases ds with
    | nil =>
      simp only [List.flatMap_nil, List.flatMap_cons] at h
      exact (utf8_ne_nil c (List.append_eq_nil_iff.1 h).1).elim
    | cons d ds =>
      simp only [List.flatMap_cons] at h
      obtain ⟨he, hr⟩ := utf8_prefix (hc c (by simp)) (hd d (by simp)) h
      rw [he, ih (fun c hm => hc c (by simp [hm])) (fun d hm => hd d (by simp [hm])) hr]

theorem surrogatePair_split (hu : isHighSurrogate u = true) (hv : isLowSurrogate v = true) :
    ∃ a b, a < 0x400 ∧ b < 0x400 ∧ u.toNat = 0xD800 + a ∧ v.toNat = 0xDC00 + b ∧
      surrogatePair u v = 0x10000 + a * 0x400 + b := by
  simp only [isHighSurrogate, isLowSurrogate, Bool.and_eq_true, decide_eq_true_eq] at hu hv
  obtain ⟨hu, hu'⟩ := hu
  obtain ⟨hv, hv'⟩ := hv
  refine ⟨u.toNat - 0xD800, v.toNat - 0xDC00, ?_, ?_, ?_, ?_, rfl⟩ <;>
    generalize u.toNat = a at * <;> generalize v.toNat = b at * <;> omega

theorem scalarValues_lt (s : JsString) : ∀ c ∈ scalarValues s, c < 0x110000 := by
  have hu (u : UInt16) : (if isSurrogate u then 0xFFFD else u.toNat) < 0x110000 := by
    have hl := u.toNat_lt
    split_ifs <;> omega
  induction s using scalarValues.induct with
  | case1 => simp [scalarValues]
  | case2 u =>
    intro c hc
    simp only [scalarValues, List.mem_singleton] at hc
    rw [hc]
    exact hu u
  | case3 u v rest hp ih =>
    simp only [scalarValues, hp, ↓reduceIte, List.mem_cons, forall_eq_or_imp]
    refine ⟨?_, ih⟩
    simp only [Bool.and_eq_true] at hp
    obtain ⟨a, b, ha, hb, -, -, he⟩ := surrogatePair_split hp.1 hp.2
    rw [he]
    omega
  | case4 u v rest hp ih =>
    simp only [scalarValues, if_neg hp, List.mem_cons, forall_eq_or_imp]
    exact ⟨hu u, ih⟩

/-- The code units of a scalar value. -/
def scalarUnits (c : Nat) : JsString :=
  if c < 0x10000 then [UInt16.ofNat c]
  else [UInt16.ofNat (0xD800 + (c - 0x10000) / 0x400), UInt16.ofNat (0xDC00 + (c - 0x10000) % 0x400)]

theorem scalarUnits_unit (u : UInt16) : scalarUnits u.toNat = [u] := by
  have hl := u.toNat_lt
  simp only [scalarUnits]
  rw [if_pos (by omega), UInt16.ofNat_toNat]

theorem scalarUnits_pair (hu : isHighSurrogate u = true) (hv : isLowSurrogate v = true) :
    scalarUnits (surrogatePair u v) = [u, v] := by
  obtain ⟨a, b, ha, hb, hua, hvb, he⟩ := surrogatePair_split hu hv
  have hh : 0xD800 + (0x10000 + a * 0x400 + b - 0x10000) / 0x400 = 0xD800 + a := by omega
  have hl : 0xDC00 + (0x10000 + a * 0x400 + b - 0x10000) % 0x400 = 0xDC00 + b := by omega
  rw [he, scalarUnits, if_neg (by omega), hh, hl, ← hua, ← hvb, UInt16.ofNat_toNat,
    UInt16.ofNat_toNat]

theorem scalarUnits_scalarValues (h : WellFormed s) : (scalarValues s).flatMap scalarUnits = s := by
  induction s using scalarValues.induct with
  | case1 => rfl
  | case2 u =>
    have hu : isSurrogate u = false := h
    simp [scalarValues, hu, scalarUnits_unit]
  | case3 u v rest hp ih =>
    simp only [WellFormed, hp, ↓reduceIte] at h
    simp only [Bool.and_eq_true] at hp
    simp only [scalarValues, hp, Bool.and_self, ↓reduceIte, List.flatMap_cons, ih h,
      scalarUnits_pair hp.1 hp.2, List.cons_append, List.nil_append]
  | case4 u v rest hp ih =>
    simp only [WellFormed, if_neg hp] at h
    obtain ⟨hu, hr⟩ := h
    simp only [scalarValues, if_neg hp, hu, Bool.false_eq_true, ↓reduceIte, List.flatMap_cons,
      ih hr, scalarUnits_unit, List.cons_append, List.nil_append]

/-- Encoding to bytes loses nothing of a well-formed string. -/
theorem textEncode_injective (hs : WellFormed s) (ht : WellFormed t)
    (h : textEncode s = textEncode t) : s = t := by
  have he := flatMap_utf8_injective (scalarValues_lt s) (scalarValues_lt t) h
  rw [← scalarUnits_scalarValues hs, ← scalarUnits_scalarValues ht, he]

end Continuity

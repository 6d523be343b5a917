import Continuity.KeyOrder
import Continuity.Dates

namespace Continuity
set_option autoImplicit true

section Digits

theorem decimalDigit_eq (h : decimalDigit u = some d) : u.toNat = 48 + d ∧ d ≤ 9 := by
  unfold decimalDigit at h
  split at h
  · next hu =>
    simp only [Bool.and_eq_true, decide_eq_true_eq, UInt16.le_iff_toNat_le] at hu
    cases h
    have h48 : (48 : UInt16).toNat = 48 := rfl
    have h57 : (57 : UInt16).toNat = 57 := rfl
    omega
  · cases h

theorem takeDigits_le (h : takeDigits n acc s = some (v, rest)) : acc * 10 ^ n ≤ v := by
  induction n generalizing acc s with
  | zero =>
    cases h
    simp
  | succ n ih =>
    cases s with
    | nil => cases h
    | cons u s =>
      simp only [takeDigits] at h
      split at h
      · next d hd =>
        calc acc * 10 ^ (n + 1) = acc * 10 * 10 ^ n := by rw [Nat.pow_succ', Nat.mul_assoc]
          _ ≤ (acc * 10 + d) * 10 ^ n := Nat.mul_le_mul_right _ (by omega)
          _ ≤ v := ih h
      · cases h

theorem takeDigits_drop (h : takeDigits n acc s = some (v, rest)) : rest = s.drop n := by
  induction n generalizing acc s with
  | zero =>
    cases h
    rfl
  | succ n ih =>
    cases s with
    | nil => cases h
    | cons u s =>
      simp only [takeDigits] at h
      split at h
      · exact ih h
      · cases h

/-- Numbers of as many digits are ordered as their texts, and then what follows decides. -/
theorem takeDigits_order (ha : takeDigits n acc s = some (v, rest))
    (hb : takeDigits n acc t = some (w, rest')) (hle : unitsLe s t = true) :
    v < w ∨ (v = w ∧ unitsLe rest rest' = true) := by
  induction n generalizing acc s t with
  | zero =>
    cases ha
    cases hb
    exact .inr ⟨rfl, hle⟩
  | succ n ih =>
    cases s with
    | nil => cases ha
    | cons u s =>
      cases t with
      | nil => cases hb
      | cons u' t =>
        simp only [takeDigits] at ha hb
        split at ha
        · next d hd =>
          split at hb
          · next d' hd' =>
            obtain ⟨hu, -⟩ := decimalDigit_eq hd
            obtain ⟨hu', -⟩ := decimalDigit_eq hd'
            simp only [unitsLe, Bool.or_eq_true, decide_eq_true_eq, Bool.and_eq_true, beq_iff_eq,
              UInt16.lt_iff_toNat_lt] at hle
            rcases hle with hlt | ⟨rfl, hle⟩
            · have hdd : acc * 10 + d + 1 ≤ acc * 10 + d' := by omega
              refine .inl ?_
              calc v < (acc * 10 + d + 1) * 10 ^ n := takeDigits_lt ha
                _ ≤ (acc * 10 + d') * 10 ^ n := Nat.mul_le_mul_right _ hdd
                _ ≤ w := takeDigits_le hb
            · cases hd.symm.trans hd'
              exact ih ha hb hle
          · cases hb
        · cases ha

theorem expectUnit_eq (h : expectUnit u s = some rest) : s = u :: rest := by
  unfold expectUnit at h
  split at h
  · split at h
    · next hu =>
      cases h
      rw [hu]
    · cases h
  · cases h

theorem expectUnit_order (ha : expectUnit u s = some rest) (hb : expectUnit u t = some rest')
    (hle : unitsLe s t = true) : unitsLe rest rest' = true := by
  rw [expectUnit_eq ha, expectUnit_eq hb] at hle
  simpa [unitsLe] using hle

end Digits

section Calendar

theorem daysBeforeMonth_mono (year : Nat) (h : m ≤ n) :
    daysBeforeMonth year m ≤ daysBeforeMonth year n := by
  induction h with
  | refl => exact Nat.le_refl _
  | step _ ih => exact ih.trans (Nat.le_add_right _ _)

theorem daysBeforeMonth_next (year : Nat) (h : 1 ≤ m) :
    daysBeforeMonth year (m + 1) = daysBeforeMonth year m + daysInMonth year m := by
  rw [daysBeforeMonth, if_neg (by omega)]

theorem leapDays (year : Nat) :
    (year + 1 + 3) / 4 = (year + 3) / 4 + (if year % 4 = 0 then 1 else 0) ∧
      (year + 1 + 99) / 100 = (year + 99) / 100 + (if year % 100 = 0 then 1 else 0) ∧
      (year + 1 + 399) / 400 = (year + 399) / 400 + (if year % 400 = 0 then 1 else 0) := by
  refine ⟨?_, ?_, ?_⟩ <;> split <;> omega

theorem daysInYear (year : Nat) :
    daysBeforeYear year + daysBeforeMonth year 13 = daysBeforeYear (year + 1) := by
  obtain ⟨h4, h100, h400⟩ := leapDays year
  have hlength : daysBeforeMonth year 13 = if isLeapYear year then 366 else 365 := by
    simp only [daysBeforeMonth, daysInMonth]
    cases isLeapYear year <;> rfl
  have hle : (year + 99) / 100 ≤ (year + 3) / 4 := by omega
  rw [hlength, daysBeforeYear, daysBeforeYear, h4, h100, h400, isLeapYear]
  by_cases h400 : year % 400 = 0
  · have h4 : year % 4 = 0 := by omega
    have h100 : year % 100 = 0 := by omega
    simp only [h400, h4, h100]
    simp
    omega
  · by_cases h100 : year % 100 = 0
    · have h4 : year % 4 = 0 := by omega
      simp [h400, h4, h100]
      omega
    · by_cases h4 : year % 4 = 0
      · simp [h400, h4, h100]
        omega
      · simp [h400, h4, h100]
        omega

theorem daysBeforeYear_mono (h : m ≤ n) : daysBeforeYear m ≤ daysBeforeYear n := by
  induction h with
  | refl => exact Nat.le_refl _
  | step _ ih =>
    rw [Nat.succ_eq_add_one, ← daysInYear]
    exact ih.trans (Nat.le_add_right _ _)

/-- A day of the calendar. -/
structure CalendarDay (year month day : Nat) : Prop where
  month_pos : 1 ≤ month
  month_le : month ≤ 12
  day_pos : 1 ≤ day
  day_le : day ≤ daysInMonth year month

theorem epochDay_lt (h : daysBeforeYear y + daysBeforeMonth y m + d <
    daysBeforeYear y' + daysBeforeMonth y' m' + d') : epochDay y m d < epochDay y' m' d' :=
  Int.sub_lt_sub_right (Int.ofNat_lt.mpr h) _

theorem epochDay_month (h : CalendarDay y m d) (h' : CalendarDay y m' d') (hlt : m < m') :
    epochDay y m d < epochDay y m' d' := by
  have hnext := daysBeforeMonth_next y h.month_pos
  have hmono : daysBeforeMonth y (m + 1) ≤ daysBeforeMonth y m' := daysBeforeMonth_mono y hlt
  have hd := h.day_le
  have hd' := h'.day_pos
  exact epochDay_lt (by omega)

theorem epochDay_year (h : CalendarDay y m d) (h' : CalendarDay y' m' d') (hlt : y < y') :
    epochDay y m d < epochDay y' m' d' := by
  have hnext := daysBeforeMonth_next y h.month_pos
  have hmono : daysBeforeMonth y (m + 1) ≤ daysBeforeMonth y 13 :=
    daysBeforeMonth_mono y (Nat.succ_le_succ h.month_le)
  have hyear := daysInYear y
  have hyears : daysBeforeYear (y + 1) ≤ daysBeforeYear y' := daysBeforeYear_mono hlt
  have hd := h.day_le
  have hd' := h'.day_pos
  exact epochDay_lt (by omega)

end Calendar

section Spelling

/-- A date of the format of the language, with the digits of its fraction and its zone. -/
structure Spelled (s : JsString) (d : IsoFields) (fraction : Bool) (zone : JsString) : Prop where
  fields : isoFields s = some d
  range : d.inRange = true
  dotted : (s.drop 19).head? = some 46 ↔ fraction = true
  ends : s.drop (if fraction then 23 else 19) = zone

theorem inRange_day (h : IsoFields.inRange d = true) : CalendarDay d.year d.month d.day := by
  simp only [IsoFields.inRange, Bool.and_eq_true, decide_eq_true_eq] at h
  exact ⟨h.1.1.1.1.1.1, h.1.1.1.1.1.2, h.1.1.1.1.2, h.1.1.1.2⟩

theorem unitsLe_refl (s : JsString) : unitsLe s s = true := by
  rcases unitsLe_total s s with h | h <;> exact h

/-- Times of one spelling are ordered by the clock when their fields are ordered one by one. -/
theorem time_le_of_clock {a b : IsoFields}
    (hday : epochDay a.year a.month a.day < epochDay b.year b.month b.day ∨
      (epochDay a.year a.month a.day = epochDay b.year b.month b.day ∧ (a.hour < b.hour ∨
        (a.hour = b.hour ∧ (a.minute < b.minute ∨ (a.minute = b.minute ∧ (a.second < b.second ∨
          (a.second = b.second ∧ a.millisecond ≤ b.millisecond))))))))
    (ha : a.inRange = true) (hb : b.inRange = true) (hms : a.millisecond < 1000)
    (ho : a.offsetMinutes = b.offsetMinutes) : a.time ≤ b.time := by
  simp only [IsoFields.inRange, Bool.and_eq_true, decide_eq_true_eq] at ha hb
  obtain ⟨⟨⟨-, hah⟩, ham⟩, has⟩ := ha
  simp only [IsoFields.time, ho]
  generalize epochDay a.year a.month a.day = x at hday ⊢
  generalize epochDay b.year b.month b.day = y at hday ⊢
  omega

theorem expectUnit_drop (h : expectUnit u s = some rest) : rest = s.drop 1 := by
  rw [expectUnit_eq h, List.drop_one, List.tail_cons]

/-- Fractions of one form leave the same zone, and are ordered as their texts. -/
theorem isoFraction_order (ha : isoFraction s = some (v, rest))
    (hb : isoFraction t = some (w, rest')) (hda : s.head? = some 46 ↔ fraction = true)
    (hdb : t.head? = some 46 ↔ fraction = true) (hza : s.drop (if fraction then 4 else 0) = zone)
    (hzb : t.drop (if fraction then 4 else 0) = zone) :
    rest = rest' ∧ (unitsLe s t = true → v ≤ w) := by
  have hother : ∀ {s : JsString} {v : Nat} {rest : JsString}, isoFraction s = some (v, rest) →
      s.head? ≠ some 46 → v = 0 ∧ rest = s := by
    intro s v rest h hne
    unfold isoFraction at h
    split at h
    · exact absurd rfl hne
    · cases h
      exact ⟨rfl, rfl⟩
  have hdot : ∀ {s : JsString}, s.head? = some 46 → ∃ digits, s = 46 :: digits := by
    intro s h
    cases s with
    | nil => cases h
    | cons u digits =>
      cases h
      exact ⟨digits, rfl⟩
  cases fraction with
  | true =>
    obtain ⟨digits, rfl⟩ := hdot (hda.mpr rfl)
    obtain ⟨digits', rfl⟩ := hdot (hdb.mpr rfl)
    have ha : takeDigits 3 0 digits = some (v, rest) := ha
    have hb : takeDigits 3 0 digits' = some (w, rest') := hb
    refine ⟨?_, ?_⟩
    · rw [takeDigits_drop ha, takeDigits_drop hb]
      exact hza.trans hzb.symm
    · intro hle
      have hle : unitsLe digits digits' = true := by simpa [unitsLe] using hle
      rcases takeDigits_order ha hb hle with hlt | ⟨rfl, -⟩
      · exact hlt.le
      · exact le_rfl
  | false =>
    obtain ⟨rfl, rfl⟩ := hother ha (by simp [hda])
    obtain ⟨rfl, rfl⟩ := hother hb (by simp [hdb])
    exact ⟨hza.trans hzb.symm, fun _ => le_rfl⟩

/-- Two dates of one spelling are ordered as their texts. -/
theorem time_le_of_unitsLe (ha : Spelled s a fraction zone) (hb : Spelled t b fraction zone)
    (hle : unitsLe s t = true) : a.time ≤ b.time := by
  obtain ⟨-, hms, -⟩ := isoFields_bounds ha.fields
  obtain ⟨y, mo, d, h, mi, se, ms, o⟩ := a
  obtain ⟨y', mo', d', h', mi', se', ms', o'⟩ := b
  obtain ⟨s₁, s₂, s₃, s₄, s₅, s₆, s₇, s₈, s₉, s₁₀, s₁₁, s₁₂, h₁, h₂, h₃, h₄, h₅, h₆, h₇, h₈, h₉,
    h₁₀, h₁₁, h₁₂, h₁₃⟩ := isoFields_reads ha.fields
  obtain ⟨t₁, t₂, t₃, t₄, t₅, t₆, t₇, t₈, t₉, t₁₀, t₁₁, t₁₂, k₁, k₂, k₃, k₄, k₅, k₆, k₇, k₈, k₉,
    k₁₀, k₁₁, k₁₂, k₁₃⟩ := isoFields_reads hb.fields
  have hdropped : s₁₁ = s.drop 19 := by
    rw [takeDigits_drop h₁₁, expectUnit_drop h₁₀, takeDigits_drop h₉, expectUnit_drop h₈,
      takeDigits_drop h₇, expectUnit_drop h₆, takeDigits_drop h₅, expectUnit_drop h₄,
      takeDigits_drop h₃, expectUnit_drop h₂, takeDigits_drop h₁]
    simp only [List.drop_drop]
  have kdropped : t₁₁ = t.drop 19 := by
    rw [takeDigits_drop k₁₁, expectUnit_drop k₁₀, takeDigits_drop k₉, expectUnit_drop k₈,
      takeDigits_drop k₇, expectUnit_drop k₆, takeDigits_drop k₅, expectUnit_drop k₄,
      takeDigits_drop k₃, expectUnit_drop k₂, takeDigits_drop k₁]
    simp only [List.drop_drop]
  have hzone : s₁₁.drop (if fraction then 4 else 0) = zone := by
    rw [hdropped, List.drop_drop, ← ha.ends]
    cases fraction <;> rfl
  have kzone : t₁₁.drop (if fraction then 4 else 0) = zone := by
    rw [kdropped, List.drop_drop, ← hb.ends]
    cases fraction <;> rfl
  obtain ⟨rfl, hfraction⟩ := isoFraction_order h₁₂ k₁₂ (hdropped ▸ ha.dotted)
    (kdropped ▸ hb.dotted) hzone kzone
  have hoffset : o = o' := Option.some.inj (h₁₃.symm.trans k₁₃)
  have hday := inRange_day ha.range
  have kday := inRange_day hb.range
  refine time_le_of_clock ?_ ha.range hb.range hms hoffset
  rcases takeDigits_order h₁ k₁ hle with hlt | ⟨rfl, hle⟩
  · exact .inl (epochDay_year hday kday hlt)
  have hle := expectUnit_order h₂ k₂ hle
  rcases takeDigits_order h₃ k₃ hle with hlt | ⟨rfl, hle⟩
  · exact .inl (epochDay_month hday kday hlt)
  have hle := expectUnit_order h₄ k₄ hle
  rcases takeDigits_order h₅ k₅ hle with hlt | ⟨rfl, hle⟩
  · exact .inl (epochDay_lt (by dsimp only at hlt ⊢; omega))
  refine .inr ⟨rfl, ?_⟩
  have hle := expectUnit_order h₆ k₆ hle
  rcases takeDigits_order h₇ k₇ hle with hlt | ⟨rfl, hle⟩
  · exact .inl hlt
  refine .inr ⟨rfl, ?_⟩
  have hle := expectUnit_order h₈ k₈ hle
  rcases takeDigits_order h₉ k₉ hle with hlt | ⟨rfl, hle⟩
  · exact .inl hlt
  refine .inr ⟨rfl, ?_⟩
  have hle := expectUnit_order h₁₀ k₁₀ hle
  rcases takeDigits_order h₁₁ k₁₁ hle with hlt | ⟨rfl, hle⟩
  · exact .inl hlt
  exact .inr ⟨rfl, hfraction hle⟩

end Spelling

end Continuity

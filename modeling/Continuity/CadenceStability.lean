import Mathlib.Data.Set.List
import Continuity.CalibratedScore
import Continuity.JsOrder
import Continuity.ReferenceFeatures

namespace Continuity
set_option autoImplicit true

namespace JsNumber

/-- A number of at least zero, finite or not. -/
inductive Magnitude : JsNumber → Prop where
  | fin (h : 0 ≤ q) : Magnitude (.fin q)
  | posInf : Magnitude .posInf

/-- `Math.max(0, Math.trunc(n))` leaves whole numbers alone. -/
theorem ofNat_trunc_atLeastZero (n : Nat) : (ofNat n).trunc.atLeastZero = ofNat n := by
  have hfloor : (n : ℚ).floor = (n : Int) := by simpa using Rat.floor_intCast n
  have htrunc : (ofNat n).trunc = ofNat n := by
    rw [ofNat, trunc, if_neg (Nat.cast_nonneg n).not_gt, hfloor]
    rfl
  have hnan : ofNat n ≠ nan := by
    intro h
    cases h
  rw [htrunc, atLeastZero, if_neg hnan]
  split
  · rfl
  · next h =>
    rw [ofNat_lt_iff] at h
    rw [Nat.eq_zero_of_not_pos h]

theorem isNegative_ofNat (n : Nat) : (ofNat n).isNegative = false :=
  decide_eq_false (Nat.cast_nonneg n).not_gt

theorem magnitude_ofNat (n : Nat) : Magnitude (.ofNat n) := .fin (Nat.cast_nonneg n)

theorem nearest_magnitude (hq : 0 ≤ q) : Magnitude (nearest false q) := by
  by_cases hlt : toGrid q < 2 ^ 1024
  · rw [nearest_of_lt hlt]
    exact .fin (toGrid_nonneg hq)
  · rw [nearest]
    change Magnitude (if q = 0 then _ else if toGrid q = 0 then _ else
      if _ ≤ toGrid q then _ else _)
    split
    · exact .fin le_rfl
    · split
      · exact .fin le_rfl
      · rw [if_pos (not_lt.mp hlt)]
        exact .posInf

namespace Magnitude

theorem floor (h : Magnitude a) : Magnitude a.floor := by
  cases h with
  | fin h => exact .fin (by exact_mod_cast Int.floor_nonneg.mpr h)
  | posInf => exact .posInf

theorem add (ha : Magnitude a) (hb : Magnitude b) : Magnitude (a + b) := by
  cases ha with
  | @fin p hp =>
    cases hb with
    | @fin q hq =>
      change Magnitude (nearest (decide (p + q < 0)) |p + q|)
      rw [decide_eq_false (not_lt.mpr (add_nonneg hp hq))]
      exact nearest_magnitude (abs_nonneg _)
    | posInf => exact .posInf
  | posInf =>
    cases hb with
    | fin => exact .posInf
    | posInf => exact .posInf

theorem div_fin (ha : Magnitude a) (hm : 0 < m) : Magnitude (a / .fin m) := by
  have hsign : (JsNumber.fin m).isNegative = false := decide_eq_false hm.not_gt
  cases ha with
  | @fin q hq =>
    change Magnitude (JsNumber.div _ _)
    rw [JsNumber.div, hsign]
    change Magnitude (if m = 0 then _ else nearest (decide (q < 0) != false) _)
    rw [if_neg hm.ne', decide_eq_false (not_lt.mpr hq)]
    exact nearest_magnitude (abs_nonneg _)
  | posInf =>
    change Magnitude (JsNumber.div _ _)
    rw [JsNumber.div, hsign]
    exact .posInf

theorem div_ofNat (ha : Magnitude a) (hn : 0 < n) : Magnitude (a / .ofNat n) :=
  ha.div_fin (by exact_mod_cast hn)

theorem mul_ofNat (ha : Magnitude a) (hn : 0 < n) : Magnitude (a * .ofNat n) := by
  have hpos : (0 : ℚ) < n := by exact_mod_cast hn
  have hsign : (ofNat n).isNegative = false := isNegative_ofNat n
  cases ha with
  | fin hq =>
    change Magnitude (JsNumber.mul _ _)
    rw [JsNumber.mul, hsign]
    change Magnitude (nearest (decide (_ < 0) != false) _)
    rw [decide_eq_false (not_lt.mpr hq)]
    exact nearest_magnitude (abs_nonneg _)
  | posInf =>
    change Magnitude (JsNumber.mul _ _)
    rw [JsNumber.mul, hsign]
    change Magnitude (if _ ∨ (n : ℚ) = 0 then _ else _)
    rw [if_neg (by simp [hpos.ne'])]
    exact .posInf

theorem ne_nan (h : Magnitude a) : a ≠ .nan := by
  cases h <;> nofun

end Magnitude

theorem abs_magnitude {a : JsNumber} (h : a ≠ .nan) : Magnitude a.abs := by
  cases a with
  | fin q =>
    by_cases hq : q < 0
    · rw [abs, isNegative, if_pos (decide_eq_true hq), neg, if_neg hq.ne]
      exact .fin (neg_nonneg.mpr hq.le)
    · rw [abs, isNegative, if_neg (by simpa using hq)]
      exact .fin (not_lt.mp hq)
  | negZero => exact .fin le_rfl
  | nan => exact absurd rfl h
  | posInf => exact .posInf
  | negInf => exact .posInf

theorem rounded_ne_nan (q : ℚ) : rounded q ≠ .nan := by
  have hzero : ∀ negative, signedZero negative ≠ .nan := by
    intro negative h
    cases negative <;> cases h
  rw [rounded, nearest]
  generalize decide (q < 0) = negative
  split
  · exact hzero negative
  · change (if toGrid |q| = 0 then _ else if _ ≤ toGrid |q| then _ else _) ≠ JsNumber.nan
    split
    · exact hzero negative
    · split
      · intro h
        cases negative <;> cases h
      · intro h
        cases h

/-- The distance from a whole number is never `NaN`. -/
theorem distance_magnitude (n : Nat) (h : Magnitude a) : Magnitude (ofNat n - a).abs := by
  apply abs_magnitude
  cases h with
  | @fin q =>
    change (ofNat n).add (neg (.fin q)) ≠ .nan
    rw [neg]
    split
    · exact rounded_ne_nan _
    · exact rounded_ne_nan _
  | posInf => nofun

/-- Quarters of small numbers are doubles. -/
theorem nearest_quarter {n : Nat} (hn : n < 2 ^ 50) :
    nearest false ((n : ℚ) / 4) = .fin (n / 4) := by
  rcases Nat.eq_zero_or_pos n with rfl | hp
  · rw [Nat.cast_zero, zero_div]
    rfl
  have hq : (0 : ℚ) < n / 4 := by positivity
  have hlog : Int.log 2 ((n : ℚ) / 4) < 48 := by
    rw [← Int.lt_zpow_iff_log_lt (by norm_num) hq, div_lt_iff₀ (by norm_num)]
    calc (n : ℚ) < 2 ^ 50 := by exact_mod_cast hn
      _ = 2 ^ (48 : Int) * 4 := by norm_num
  have hlow : -2 ≤ Int.log 2 ((n : ℚ) / 4) := by
    rw [← Int.zpow_le_iff_le_log (by norm_num) hq, le_div_iff₀ (by norm_num)]
    calc (2 : ℚ) ^ (-2 : Int) * 4 = 1 := by norm_num
      _ ≤ n := by exact_mod_cast hp
  obtain ⟨k, hk⟩ := Int.eq_ofNat_of_zero_le (show 0 ≤ 50 - Int.log 2 ((n : ℚ) / 4) by omega)
  have hunit : unitOf ((n : ℚ) / 4) = (2 ^ k * 4)⁻¹ := by
    rw [unitOf, max_eq_left (by omega),
      show Int.log 2 ((n : ℚ) / 4) - 52 = -(k : Int) + -2 by omega, zpow_add₀ (by norm_num),
      zpow_neg, zpow_natCast]
    rw [mul_inv]
    norm_num
  have hgrid : toGrid ((n : ℚ) / 4) = n / 4 := by
    have hwhole : (n : ℚ) / 4 / (2 ^ k * 4)⁻¹ = ((n * 2 ^ k : Int) : ℚ) := by
      push_cast
      field_simp
    rw [toGrid, hunit, hwhole, roundHalfEven_intCast]
    push_cast
    field_simp
  rw [nearest_of_lt, hgrid]
  rw [hgrid]
  calc (n : ℚ) / 4 < 2 ^ 50 := by
        rw [div_lt_iff₀ (by norm_num)]
        have hlt : (n : ℚ) < 2 ^ 50 := by exact_mod_cast hn
        linarith
    _ ≤ 2 ^ 1024 := by gcongr <;> norm_num

end JsNumber

open JsNumber

section Sorting

/-- A magnitude by its place in the order. -/
def ofPlace : WithTop ℚ → JsNumber
  | none => .posInf
  | some q => .fin q

theorem ofPlace_extended (w : WithTop ℚ) :
    (ofPlace w).extended = some (w : WithBot (WithTop ℚ)) := by
  cases w <;> rfl

theorem JsNumber.Magnitude.place (h : Magnitude a) : ∃ w, ofPlace w = a := by
  cases h with
  | fin => exact ⟨some _, rfl⟩
  | posInf => exact ⟨none, rfl⟩

theorem ofPlace_sorted (v w : WithTop ℚ) : v ≤ w ↔ (!(ofPlace w).lt (ofPlace v)) = true := by
  rw [Bool.not_eq_true', ← Bool.not_eq_true, JsNumber.lt_iff]
  simp only [ofPlace_extended, Option.some.injEq]
  constructor
  · rintro hle ⟨x, y, rfl, rfl, hlt⟩
    exact (WithBot.coe_lt_coe.mp hlt).not_ge hle
  · intro h
    by_contra hlt
    exact h ⟨_, _, rfl, rfl, WithBot.coe_lt_coe.mpr (not_le.mp hlt)⟩

theorem sortNumbers_places (ws : List (WithTop ℚ)) :
    sortNumbers (ws.map ofPlace) = (ws.insertionSort (· ≤ ·)).map ofPlace :=
  (List.map_insertionSort _ _ _ _ fun v _ w _ => ofPlace_sorted v w).symm

theorem exists_places {xs : List JsNumber} (h : ∀ x ∈ xs, Magnitude x) :
    ∃ ws : List (WithTop ℚ), ws.map ofPlace = xs := by
  have hrange : xs ∈ Set.range (List.map ofPlace) := by
    rw [Set.range_list_map]
    exact fun x hx => (h x hx).place
  exact hrange

/-- The order of what is sorted does not matter. -/
theorem sortNumbers_perm (h : ∀ x ∈ xs, Magnitude x) (hp : xs.Perm ys) :
    sortNumbers xs = sortNumbers ys := by
  obtain ⟨vs, rfl⟩ := exists_places h
  obtain ⟨ws, rfl⟩ := exists_places fun y hy => h y (hp.mem_iff.mpr hy)
  have hinj : Function.Injective ofPlace := by
    intro v w he
    have hplaces := congrArg JsNumber.extended he
    rw [ofPlace_extended, ofPlace_extended, Option.some.injEq] at hplaces
    exact WithBot.coe_injective hplaces
  have hplaces : vs.Perm ws := (List.map_perm_map_iff hinj).mp hp
  rw [sortNumbers_places, sortNumbers_places]
  congr 1
  exact List.Perm.eq_of_pairwise' (List.pairwise_insertionSort _ vs)
    (List.pairwise_insertionSort _ ws)
    ((List.perm_insertionSort _ vs).trans (hplaces.trans (List.perm_insertionSort _ ws).symm))

/-- The last of the sorted numbers is the largest one. -/
theorem sortNumbers_last (h : ∀ x ∈ xs, Magnitude x) (hl : (sortNumbers xs).getLast? = some last) :
    last ∈ xs ∧ ∀ x ∈ xs, x.le last = true := by
  obtain ⟨ws, rfl⟩ := exists_places h
  rw [sortNumbers_places, List.getLast?_map] at hl
  obtain ⟨w, hw, rfl⟩ := Option.map_eq_some_iff.mp hl
  obtain ⟨front, hfront⟩ := List.getLast?_eq_some_iff.mp hw
  have hsorted := List.pairwise_insertionSort (· ≤ ·) ws
  rw [hfront, List.pairwise_append] at hsorted
  have hmem : ∀ v, v ∈ ws ↔ v ∈ front ∨ v = w := by
    intro v
    rw [← List.mem_insertionSort (· ≤ ·), hfront, List.mem_append, List.mem_singleton]
  refine ⟨List.mem_map_of_mem ((hmem w).mpr (.inr rfl)), ?_⟩
  intro x hx
  obtain ⟨v, hv, rfl⟩ := List.mem_map.mp hx
  have hle : v ≤ w := by
    rcases (hmem v).mp hv with hv | rfl
    · exact hsorted.2.2 v hv w List.mem_cons_self
    · exact le_rfl
  exact (JsNumber.le_iff _ _).mpr
    ⟨_, _, ofPlace_extended v, ofPlace_extended w, WithBot.coe_le_coe.mpr hle⟩

theorem mem_sortNumbers : x ∈ sortNumbers xs ↔ x ∈ xs := List.mem_insertionSort _

theorem middleNumber_magnitude (h : ∀ x ∈ xs, Magnitude x) (hne : xs ≠ []) :
    Magnitude (middleNumber xs) := by
  have hpos : 0 < xs.length := List.length_pos_of_ne_nil hne
  have hentry : ∀ index, index < xs.length → Magnitude (xs[index]?.getD .nan) := by
    intro index hi
    rw [List.getElem?_eq_getElem hi, Option.getD_some]
    exact h _ (List.getElem_mem hi)
  rw [middleNumber]
  split
  · exact hentry _ (by omega)
  · exact (((hentry _ (by omega)).add (hentry _ (by omega))).div_ofNat (by decide)).floor

end Sorting

section Cadence

/-- The median of some numbers. -/
def medianOf (values : List JsNumber) : JsNumber := middleNumber (sortNumbers values)

/-- The median distance from the median, at least one. -/
def medianDeviation (values : List JsNumber) : JsNumber :=
  (JsNumber.ofNat 1).max (medianOf (values.map fun value => (value - medianOf values).abs))

/-- How many thousandths of the deviation a number is off the median, at most 8000. -/
def deviationSteps (values : List JsNumber) (x : JsNumber) : JsNumber :=
  (JsNumber.ofNat 8000).min ((x - medianOf values).abs * .ofNat 1000 / medianDeviation values).floor

/-- What is left of 10000 at a number of steps. -/
def stabilityOf (steps : JsNumber) : Nat :=
  clampBps (.ofNat 10000 - (steps * .ofNat 10000 / .ofNat 8000).floor)

variable {values : List JsNumber}

theorem stabilityOf_ofNat (h : k ≤ 8000) : stabilityOf (.ofNat k) = 10000 - 5 * k / 4 := by
  have hproduct : JsNumber.ofNat k * .ofNat 10000 = .ofNat (k * 10000) := by
    have habs : |(k : ℚ) * (10000 : Nat)| = ((k * 10000 : Nat) : ℚ) := by
      rw [abs_of_nonneg (by positivity), Nat.cast_mul]
    have hsign : ((JsNumber.ofNat k).isNegative != (JsNumber.ofNat 10000).isNegative) = false := by
      rw [isNegative_ofNat, isNegative_ofNat, Bool.bne_false]
    change nearest ((JsNumber.ofNat k).isNegative != (JsNumber.ofNat 10000).isNegative)
      |(k : ℚ) * (10000 : Nat)| = _
    rw [hsign, habs]
    rcases Nat.eq_zero_or_pos k with rfl | hk
    · rw [Nat.zero_mul, Nat.cast_zero]
      rfl
    · exact nearest_natCast false (by omega) (by omega)
  have hquotient : JsNumber.ofNat (k * 10000) / .ofNat 8000 = .fin ((5 * k : Nat) / 4) := by
    have habs : |((k * 10000 : Nat) : ℚ) / (8000 : Nat)| = ((5 * k : Nat) : ℚ) / 4 := by
      rw [abs_of_nonneg (by positivity)]
      push_cast
      ring
    have hsign : ((JsNumber.ofNat (k * 10000)).isNegative !=
        (JsNumber.ofNat 8000).isNegative) = false := by
      rw [isNegative_ofNat, isNegative_ofNat, Bool.bne_false]
    change JsNumber.div _ _ = _
    rw [JsNumber.div, hsign]
    change (if ((8000 : Nat) : ℚ) = 0 then _ else
      nearest false |((k * 10000 : Nat) : ℚ) / (8000 : Nat)|) = _
    rw [if_neg (by norm_num), habs]
    exact nearest_quarter (by omega)
  have hfloor : (((5 * k : Nat) : ℚ) / 4).floor = ((5 * k / 4 : Nat) : Int) :=
    (Rat.floor_natCast_div_natCast (5 * k) 4).trans (by rfl)
  have hdifference : JsNumber.ofNat 10000 - .fin ((5 * k / 4 : Nat) : Int) =
      .ofInt (10000 - (5 * k / 4 : Nat)) := by
    have hneg := value?_neg (a := .fin ((5 * k / 4 : Nat) : Int)) rfl
    have hfull : (JsNumber.ofNat 10000).value? = some ((10000 : Nat) : ℚ) := rfl
    rcases add_eq hfull hneg with ⟨hzero, -, -⟩ | hsum
    · cases hzero
    · have hwhole : ((10000 : Nat) : ℚ) + -(((5 * k / 4 : Nat) : Int) : ℚ) =
          ((10000 - (5 * k / 4 : Nat) : Int) : ℚ) := by
        push_cast
        ring
      rw [hwhole, rounded_intCast (by omega)] at hsum
      exact hsum
  rw [stabilityOf, hproduct, hquotient, JsNumber.floor, hfloor, hdifference,
    clampBps_toInt (toInt?_ofInt _)]
  omega

theorem medianOf_magnitude (h : ∀ x ∈ values, Magnitude x) (hne : values ≠ []) :
    Magnitude (medianOf values) := by
  apply middleNumber_magnitude
  · exact fun x hx => h x (mem_sortNumbers.mp hx)
  · exact fun hnil => hne (List.length_eq_zero_iff.mp
      ((List.length_insertionSort _ values).symm.trans (congrArg List.length hnil)))

theorem max_one_cases (h : Magnitude a) :
    (∃ m : ℚ, 0 < m ∧ (JsNumber.ofNat 1).max a = .fin m) ∨ (JsNumber.ofNat 1).max a = .posInf := by
  rw [JsNumber.max, if_neg (by simp [h.ne_nan, JsNumber.ofNat])]
  cases h with
  | @fin q hq =>
    left
    by_cases hle : (JsNumber.ofNat 1).le (.fin q)
    · refine ⟨q, ?_, if_pos hle⟩
      have hone : ((1 : Nat) : ℚ) ≤ q := of_decide_eq_true hle
      linarith [show ((1 : Nat) : ℚ) = 1 from Nat.cast_one]
    · exact ⟨((1 : Nat) : ℚ), by norm_num, if_neg hle⟩
  | posInf => exact .inr rfl

theorem min_steps (h : Magnitude a) : ∃ k ≤ 8000, (JsNumber.ofNat 8000).min a.floor = .ofNat k := by
  have hnan : (decide (JsNumber.ofNat 8000 = .nan) || decide (a.floor = .nan)) = false := by
    simp [h.floor.ne_nan, JsNumber.ofNat]
  rw [JsNumber.min, hnan, if_neg Bool.false_ne_true]
  cases h with
  | @fin q hq =>
    obtain ⟨k, hk⟩ := Int.eq_ofNat_of_zero_le (Int.floor_nonneg.mpr hq)
    have hwhole : (JsNumber.fin q).floor = .ofNat k := by
      have hfloor : q.floor = (k : Int) := hk
      rw [JsNumber.floor, hfloor]
      rfl
    rw [hwhole]
    by_cases hlt : 8000 < k
    · exact ⟨8000, le_rfl, if_pos (ofNat_lt_iff.mpr hlt)⟩
    · refine ⟨k, not_lt.mp hlt, ?_⟩
      rw [if_neg (mt ofNat_lt_iff.mp hlt)]
      by_cases hk8000 : k < 8000
      · exact if_pos (ofNat_lt_iff.mpr hk8000)
      · obtain rfl : k = 8000 := by omega
        rw [if_neg (mt ofNat_lt_iff.mp (lt_irrefl _))]
        rfl
  | posInf => exact ⟨8000, le_rfl, rfl⟩

/-- What the steps of whole numbers can be, by whether the deviation is finite. -/
theorem deviationSteps_cases (hwhole : ∀ value ∈ values, ∃ n : Nat, value = .ofNat n)
    (hne : values ≠ []) :
    (∀ x ∈ values, ∃ k ≤ 8000, deviationSteps values x = .ofNat k) ∨
      ∀ x ∈ values, deviationSteps values x = .ofNat 0 ∨ deviationSteps values x = .nan := by
  have hmagnitudes : ∀ x ∈ values, Magnitude x := by
    intro x hx
    obtain ⟨n, rfl⟩ := hwhole x hx
    exact magnitude_ofNat n
  have hmedian : Magnitude (medianOf values) := medianOf_magnitude hmagnitudes hne
  have hdistance : ∀ x ∈ values, Magnitude (x - medianOf values).abs := by
    intro x hx
    obtain ⟨n, rfl⟩ := hwhole x hx
    exact distance_magnitude n hmedian
  have hdeviations : Magnitude (medianOf (values.map fun value =>
      (value - medianOf values).abs)) := by
    apply medianOf_magnitude
    · intro d hd
      obtain ⟨x, hx, rfl⟩ := List.mem_map.mp hd
      exact hdistance x hx
    · simpa using hne
  rcases max_one_cases hdeviations with ⟨m, hm, hmad⟩ | hmad
  · left
    intro x hx
    rw [deviationSteps, medianDeviation, hmad]
    exact min_steps (((hdistance x hx).mul_ofNat (by decide)).div_fin hm)
  · right
    intro x hx
    have hscaled := (hdistance x hx).mul_ofNat (n := 1000) (by decide)
    rw [deviationSteps, medianDeviation, hmad]
    generalize (x - medianOf values).abs * .ofNat 1000 = scaled at hscaled ⊢
    cases hscaled with
    | @fin q hq =>
      have hquotient : JsNumber.fin q / .posInf = .ofNat 0 := by
        change signedZero (decide (q < 0) != false) = _
        rw [decide_eq_false (not_lt.mpr hq)]
        rfl
      rw [hquotient]
      exact .inl rfl
    | posInf => exact .inr rfl

theorem stabilityOf_inj (hwhole : ∀ value ∈ values, ∃ n : Nat, value = .ofNat n)
    (hx : x ∈ values) (hy : y ∈ values)
    (h : stabilityOf (deviationSteps values x) = stabilityOf (deviationSteps values y)) :
    deviationSteps values x = deviationSteps values y := by
  rcases deviationSteps_cases hwhole (List.ne_nil_of_mem hx) with hsteps | hsteps
  · obtain ⟨k, hk, hkx⟩ := hsteps x hx
    obtain ⟨l, hl, hly⟩ := hsteps y hy
    rw [hkx, hly, stabilityOf_ofNat hk, stabilityOf_ofNat hl] at h
    rw [hkx, hly, show k = l by omega]
  · have hzero : stabilityOf (.ofNat 0) = 10000 := stabilityOf_ofNat (Nat.zero_le _)
    have hnan : stabilityOf .nan = 0 := rfl
    rcases hsteps x hx with hx | hx <;> rcases hsteps y hy with hy | hy
    · rw [hx, hy]
    · rw [hx, hy, hzero, hnan] at h
      cases h
    · rw [hx, hy, hzero, hnan] at h
      cases h
    · rw [hx, hy]

/-- The sorted list ends with the largest interval, whichever interval came last. -/
theorem cadenceStabilityBps_largest (hwhole : ∀ value ∈ values, ∃ n : Nat, value = .ofNat n)
    (hlength : 3 ≤ values.length) (hmem : largest ∈ values)
    (hlargest : ∀ value ∈ values, value.le largest = true) :
    cadenceStabilityBps (some values) = some (stabilityOf (deviationSteps values largest)) := by
  have hmagnitudes : ∀ x ∈ values, Magnitude x := by
    intro x hx
    obtain ⟨n, rfl⟩ := hwhole x hx
    exact magnitude_ofNat n
  have hwholes : values.map (fun value => value.trunc.atLeastZero) = values := by
    apply (List.map_congr_left fun value hv => ?_).trans (List.map_id values)
    obtain ⟨n, rfl⟩ := hwhole value hv
    exact ofNat_trunc_atLeastZero n
  have hlast : (sortNumbers values).getLast? = some largest := by
    have hne : sortNumbers values ≠ [] := by
      intro hnil
      rw [sortNumbers, ← List.length_eq_zero_iff, List.length_insertionSort] at hnil
      omega
    rw [List.getLast?_eq_some_getLast hne, Option.some.injEq]
    obtain ⟨hin, hmost⟩ := sortNumbers_last hmagnitudes (List.getLast?_eq_some_getLast hne)
    obtain ⟨m, hm⟩ := hwhole _ hin
    obtain ⟨n, rfl⟩ := hwhole _ hmem
    have hle := hlargest _ hin
    have hge := hmost _ hmem
    rw [hm] at hle hge ⊢
    have hmn : m ≤ n := not_lt.mp fun hlt => by
      rw [not_le_of_lt (ofNat_lt_iff.mpr hlt)] at hle
      cases hle
    have hnm : n ≤ m := not_lt.mp fun hlt => by
      rw [not_le_of_lt (ofNat_lt_iff.mpr hlt)] at hge
      cases hge
    rw [le_antisymm hmn hnm]
  have hmedian : Magnitude (medianOf values) := by
    apply medianOf_magnitude hmagnitudes
    rintro rfl
    cases hmem
  have hdeviations : sortNumbers ((sortNumbers values).map fun value =>
      (value - medianOf values).abs) =
      sortNumbers (values.map fun value => (value - medianOf values).abs) := by
    apply sortNumbers_perm
    · intro d hd
      obtain ⟨x, hx, rfl⟩ := List.mem_map.mp hd
      obtain ⟨n, rfl⟩ := hwhole x (mem_sortNumbers.mp hx)
      exact distance_magnitude n hmedian
    · exact (List.perm_insertionSort _ values).map _
  rw [cadenceStabilityBps, if_neg (by omega), hwholes]
  simp only [hlast, Option.getD_some]
  change some (clampBps (.ofNat 10000 - ((JsNumber.ofNat 8000).min ((largest -
    medianOf values).abs * .ofNat 1000 / (JsNumber.ofNat 1).max (middleNumber (sortNumbers
      ((sortNumbers values).map fun value => (value - medianOf values).abs)))).floor *
        .ofNat 10000 / .ofNat 8000).floor)) = _
  rw [hdeviations]
  rfl

/-- The feature follows the latest interval just when the latest one is as many thousandths of the
deviation off the median as the largest one. -/
theorem cadenceStabilityBps_latest
    (hwhole : ∀ value ∈ values, ∃ n : Nat, value = .ofNat n) (hlength : 3 ≤ values.length)
    (hlatest : values.getLast? = some latest) (hmem : largest ∈ values)
    (hlargest : ∀ value ∈ values, value.le largest = true) :
    cadenceStabilityBps (some values) = some (stabilityOf (deviationSteps values latest)) ↔
      deviationSteps values latest = deviationSteps values largest := by
  rw [cadenceStabilityBps_largest hwhole hlength hmem hlargest, Option.some.injEq]
  constructor
  · intro h
    exact (stabilityOf_inj hwhole hmem (List.mem_of_getLast? hlatest) h).symm
  · intro h
    rw [h]

theorem cadenceStabilityBps_latest_rising :
    cadenceStabilityBps (some [.ofNat 100, .ofNat 300, .ofNat 700]) =
      some (stabilityOf (deviationSteps [.ofNat 100, .ofNat 300, .ofNat 700] (.ofNat 700))) := by
  have hwhole : ∀ value ∈ [JsNumber.ofNat 100, .ofNat 300, .ofNat 700],
      ∃ n : Nat, value = .ofNat n := by
    intro value hv
    rcases List.mem_cons.mp hv with rfl | hv
    · exact ⟨100, rfl⟩
    · rcases List.mem_cons.mp hv with rfl | hv
      · exact ⟨300, rfl⟩
      · exact ⟨700, List.mem_singleton.mp hv⟩
  have hlargest : ∀ value ∈ [JsNumber.ofNat 100, .ofNat 300, .ofNat 700],
      value.le (.ofNat 700) = true := by
    decide
  exact (cadenceStabilityBps_latest hwhole (by decide) rfl (by decide) hlargest).mpr rfl

/-- One long interval at the start decides about the two regular ones after it. -/
theorem cadenceStabilityBps_old_interval :
    ¬∀ (intervals : List JsNumber) (latest : JsNumber),
      (∀ value ∈ intervals, ∃ n : Nat, value = .ofNat n) → 3 ≤ intervals.length →
      intervals.getLast? = some latest →
      cadenceStabilityBps (some intervals) =
        some (stabilityOf (deviationSteps intervals latest)) := by
  intro h
  have hwhole : ∀ value ∈ [JsNumber.ofNat 1000, .ofNat 100, .ofNat 100],
      ∃ n : Nat, value = .ofNat n := by
    intro value hv
    rcases List.mem_cons.mp hv with rfl | hv
    · exact ⟨1000, rfl⟩
    · rcases List.mem_cons.mp hv with rfl | hv
      · exact ⟨100, rfl⟩
      · exact ⟨100, List.mem_singleton.mp hv⟩
  have hcode : cadenceStabilityBps (some [.ofNat 1000, .ofNat 100, .ofNat 100]) = some 0 := by
    decide +kernel
  have hlatest : stabilityOf (deviationSteps [.ofNat 1000, .ofNat 100, .ofNat 100]
      (.ofNat 100)) = 10000 := by
    decide +kernel
  have hclaim := h _ (.ofNat 100) hwhole (by decide) rfl
  rw [hcode, hlatest] at hclaim
  cases hclaim

end Cadence

end Continuity

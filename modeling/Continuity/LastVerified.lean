import Continuity.DateOrder
import Continuity.DriftRecomputation
import Continuity.Rounding

namespace Continuity
open JsNumber
set_option autoImplicit true

/-- The time of a text; an empty text counts as none. -/
def instant (H : Host) (text : RFC3339) : Option Int :=
  if text.isEmpty then none else H.parse text

/-- The times of the verified events of the history. -/
def verifiedTimes (input : DriftInput) : List RFC3339 :=
  ((input.feature_history.getD []).filter fun point =>
    point.verified_event == some true).map DriftPoint.timestamp

/-- `Math.floor((atMs - time) / 86400000)`. -/
def daysSince (H : Host) (input : DriftInput) (time : Int) : JsNumber :=
  ((parsedTime H (input.computedAt H) - .ofInt time) / .ofNat 86400000).floor

/-- Dormancy is measured from a verified event, and none of the others is later, nor would one of
them be fewer days ago. -/
def MeasuredFromLatest (H : Host) (input : DriftInput) : Prop :=
  ∀ last, lastVerifiedEventAt input = some last → ∃ time, instant H last = some time ∧
    daysSinceLastVerifiedEvent H input = some (daysSince H input time) ∧
    ∀ text ∈ verifiedTimes input, ∀ t, instant H text = some t →
      t ≤ time ∧ ∀ d e, (daysSince H input time).value? = some d →
        (daysSince H input t).value? = some e → d ≤ e

/-- A verified event comes last by its text and by its time. -/
def LastInBothOrders (H : Host) (input : DriftInput) (last : RFC3339) : Prop :=
  ∃ time, instant H last = some time ∧ (∀ text ∈ verifiedTimes input, unitsLe text last = true) ∧
    ∀ text ∈ verifiedTimes input, ∀ t, instant H text = some t → t ≤ time

/-- All times of verified events have one zone, and fractions of one form. -/
def UniformlySpelled (input : DriftInput) : Prop :=
  ∃ fraction zone, ∀ text ∈ verifiedTimes input, ∃ d, Spelled text d fraction zone

theorem sortStrings_getLast (texts : List JsString) :
    (sortStrings texts).getLast? = some last ↔
      last ∈ texts ∧ ∀ text ∈ texts, unitsLe text last = true := by
  have hsorted := sortStrings_sorted texts
  have hgreatest : ∀ {top}, (sortStrings texts).getLast? = some top →
      top ∈ texts ∧ ∀ text ∈ texts, unitsLe text top = true := by
    intro top h
    obtain ⟨before, hb⟩ := List.getLast?_eq_some_iff.mp h
    refine ⟨mem_sortStrings.mp (hb ▸ List.mem_concat_self), ?_⟩
    intro text hm
    rw [← mem_sortStrings, hb, List.mem_append, List.mem_singleton] at hm
    rw [hb, List.pairwise_append] at hsorted
    rcases hm with hm | rfl
    · exact hsorted.2.2 text hm top (List.mem_singleton_self top)
    · exact unitsLe_refl text
  constructor
  · exact hgreatest
  · rintro ⟨hm, hall⟩
    cases htop : (sortStrings texts).getLast? with
    | none =>
      rw [List.getLast?_eq_none_iff] at htop
      have hin : last ∈ sortStrings texts := mem_sortStrings.mpr hm
      rw [htop] at hin
      cases hin
    | some top =>
      obtain ⟨htm, htall⟩ := hgreatest htop
      rw [unitsLe_antisymm top last (hall top htm) (htall last hm)]

section Days

variable {H : Host} {input : DriftInput}

/-- Fewer days lie between the report and a later time. -/
theorem daysSince_le
    (hh : ∀ s t, H.dateHeuristics s = some t → t.natAbs ≤ 8640000000000000)
    (ht : H.parse text = some t) (hu : H.parse text' = some u) (hle : u ≤ t)
    (hd : (daysSince H input t).value? = some d) (he : (daysSince H input u).value? = some e) :
    d ≤ e := by
  have hbound : ∀ {s : RFC3339} {v : Int}, H.parse s = some v → |(v : ℚ)| ≤ 2 ^ 53 := by
    intro s v h
    have hv : (v.natAbs : ℚ) ≤ (8640000000000000 : Nat) :=
      Nat.cast_le.mpr (dateParse_bounded hh h)
    rw [Nat.cast_natAbs, Int.cast_abs] at hv
    exact hv.trans (by norm_num)
  cases hat : H.parse (input.computedAt H) with
  | none =>
    have hnan : daysSince H input t = .nan := by
      rw [daysSince, parsedTime, hat]
      rfl
    rw [hnan] at hd
    cases hd
  | some at_ =>
    have hvalue : ∀ {s : RFC3339} {v : Int}, H.parse s = some v →
        (daysSince H input v).value? = some (⌊signedGrid (signedGrid ((at_ : ℚ) - v) /
          (86400000 : Nat))⌋ : ℚ) := by
      intro s v hv
      have hdiff : |(at_ : ℚ) - v| ≤ 2 ^ 54 := by
        have habs := abs_sub (at_ : ℚ) v
        have hA := hbound hat
        have hV := hbound hv
        have hpow : (2 : ℚ) ^ 54 = 2 ^ 53 + 2 ^ 53 := by norm_num
        rw [hpow]
        exact habs.trans (add_le_add hA hV)
      have hsub : (parsedTime H (input.computedAt H) - .ofInt v).value? =
          some (signedGrid ((at_ : ℚ) - v)) := by
        rw [parsedTime, hat]
        exact sub_value rfl rfl hdiff (by norm_num)
      have hgrid : |signedGrid ((at_ : ℚ) - v)| ≤ 2 ^ 54 := by
        rw [abs_signedGrid]
        exact toGrid_le_pow (abs_nonneg _) hdiff
      exact floor_value (div_ofNat_value hsub hgrid (by norm_num) (by norm_num))
    rw [hvalue ht, Option.some.injEq] at hd
    rw [hvalue hu, Option.some.injEq] at he
    rw [← hd, ← he, Int.cast_le]
    have hcast : (u : ℚ) ≤ t := Int.cast_le.mpr hle
    have hgrid : signedGrid ((at_ : ℚ) - t) ≤ signedGrid ((at_ : ℚ) - u) :=
      signedGrid_mono (by linarith)
    apply Int.floor_le_floor
    apply signedGrid_mono
    exact div_le_div_of_nonneg_right hgrid (Nat.cast_nonneg _)

theorem instant_some (h : instant H text = some t) : text.isEmpty = false ∧ H.parse text = some t := by
  rw [instant] at h
  cases hempty : text.isEmpty with
  | true =>
    rw [hempty, if_pos rfl] at h
    cases h
  | false =>
    rw [hempty, if_neg Bool.false_ne_true] at h
    exact ⟨rfl, h⟩

theorem daysSinceLastVerifiedEvent_eq (hl : lastVerifiedEventAt input = some last)
    (h : instant H last = some time) :
    daysSinceLastVerifiedEvent H input = some (daysSince H input time) := by
  obtain ⟨hempty, hp⟩ := instant_some h
  rw [daysSinceLastVerifiedEvent, hl]
  simp only [Option.getD_some, hp, hempty, Bool.false_eq_true, if_false, daysSince]

theorem lastVerifiedEventAt_some (hn : input.last_verified_event_at = none) :
    lastVerifiedEventAt input = some last ↔
      last ∈ verifiedTimes input ∧ ∀ text ∈ verifiedTimes input, unitsLe text last = true := by
  rw [lastVerifiedEventAt, hn, Option.none_or]
  exact sortStrings_getLast _

theorem lastVerifiedEventAt_none (hn : input.last_verified_event_at = none)
    (h : lastVerifiedEventAt input = none) : verifiedTimes input = [] := by
  rw [lastVerifiedEventAt, hn, Option.none_or] at h
  rw [List.eq_nil_iff_forall_not_mem]
  intro text hm
  have hin := mem_sortStrings.mpr hm
  rw [verifiedTimes, List.getLast?_eq_none_iff.mp h] at hin
  cases hin

theorem measured_iff (hn : input.last_verified_event_at = none)
    (hh : ∀ s t, H.dateHeuristics s = some t → t.natAbs ≤ 8640000000000000) :
    MeasuredFromLatest H input ↔
      verifiedTimes input = [] ∨ ∃ last ∈ verifiedTimes input, LastInBothOrders H input last := by
  constructor
  · intro h
    cases hlast : lastVerifiedEventAt input with
    | none => exact .inl (lastVerifiedEventAt_none hn hlast)
    | some last =>
      obtain ⟨hm, hall⟩ := (lastVerifiedEventAt_some hn).mp hlast
      obtain ⟨time, ht, -, hlatest⟩ := h last hlast
      exact .inr ⟨last, hm, time, ht, hall, fun text hm t hi => (hlatest text hm t hi).1⟩
  · intro h last hlast
    obtain ⟨hm, hall⟩ := (lastVerifiedEventAt_some hn).mp hlast
    rcases h with hnil | ⟨top, htop, time, ht, htall, hlatest⟩
    · rw [hnil] at hm
      cases hm
    · obtain rfl : top = last := unitsLe_antisymm _ _ (hall top htop) (htall last hm)
      refine ⟨time, ht, daysSinceLastVerifiedEvent_eq hlast ht, ?_⟩
      intro text hmt t hi
      have hle := hlatest text hmt t hi
      exact ⟨hle, fun d e hd he =>
        daysSince_le hh (instant_some ht).2 (instant_some hi).2 hle hd he⟩

theorem spelled_instant (h : Spelled text d fraction zone) : instant H text = some d.time := by
  have hne : text.isEmpty = false := by
    cases text with
    | nil => cases h.fields
    | cons u rest => rfl
  rw [instant, hne, if_neg Bool.false_ne_true, Host.parse, dateParse, h.fields]
  exact if_pos h.range

/-- Times of one spelling are last in both orders or in none. -/
theorem measured_of_uniform (hn : input.last_verified_event_at = none)
    (hh : ∀ s t, H.dateHeuristics s = some t → t.natAbs ≤ 8640000000000000)
    (h : UniformlySpelled input) : MeasuredFromLatest H input := by
  obtain ⟨fraction, zone, hspelled⟩ := h
  rw [measured_iff hn hh]
  cases hlast : lastVerifiedEventAt input with
  | none => exact .inl (lastVerifiedEventAt_none hn hlast)
  | some last =>
    obtain ⟨hm, hall⟩ := (lastVerifiedEventAt_some hn).mp hlast
    obtain ⟨d, hd⟩ := hspelled last hm
    refine .inr ⟨last, hm, d.time, spelled_instant hd, hall, ?_⟩
    intro text hmt t hi
    obtain ⟨d', hd'⟩ := hspelled text hmt
    rw [spelled_instant hd', Option.some.injEq] at hi
    rw [← hi]
    exact time_le_of_unitsLe hd' hd (hall text hmt)

theorem textWhenSet_some (h : textWhenSet text = some last) : text = some last := by
  cases text with
  | none => cases h
  | some value =>
    cases value with
    | nil => cases h
    | cons u rest => exact h

theorem normalReport_last (h : normalReport H input M = .ok report) :
    report.last_verified_event_at = textWhenSet M.lastVerifiedEventAt ∧
      report.days_since_last_verified_event =
        M.daysSinceLastVerifiedEvent.map JsNumber.atLeastZero := by
  obtain ⟨_, -, h⟩ := bind_eq_ok.mp h
  obtain ⟨_, -, h⟩ := bind_eq_ok.mp h
  obtain ⟨_, -, h⟩ := bind_eq_ok.mp h
  obtain ⟨_, -, h⟩ := bind_eq_ok.mp h
  cases h
  exact ⟨rfl, rfl⟩

/-- A report names the derived event, and the days since it. -/
theorem historyReport_last (hn : input.last_verified_event_at = none)
    (h : historyReport H input = .ok report) (hl : report.last_verified_event_at = some last) :
    lastVerifiedEventAt input = some last ∧ report.days_since_last_verified_event =
      (daysSinceLastVerifiedEvent H input).map JsNumber.atLeastZero := by
  unfold historyReport at h
  split at h
  · cases h
    rw [insufficientReport, hn] at hl
    cases hl
  · obtain ⟨M, hM, h⟩ := bind_eq_ok.mp h
    obtain ⟨⟨mahalanobis, covariance, center⟩, -, hM⟩ := bind_eq_ok.mp hM
    cases hM
    obtain ⟨hlast, hdays⟩ := normalReport_last h
    exact ⟨textWhenSet_some (hlast.symm.trans hl), hdays⟩

theorem computeDriftReportV0_last (hn : input.last_verified_event_at = none)
    (h : computeDriftReportV0 H input = .ok report)
    (hl : report.last_verified_event_at = some last) :
    lastVerifiedEventAt input = some last ∧ report.days_since_last_verified_event =
      (daysSinceLastVerifiedEvent H input).map JsNumber.atLeastZero := by
  unfold computeDriftReportV0 at h
  split at h
  · cases h
  · split at h
    · obtain ⟨synthetic, hs, h⟩ := bind_eq_ok.mp h
      obtain ⟨inner, hinner, h⟩ := bind_eq_ok.mp h
      obtain ⟨_, -, h⟩ := bind_eq_ok.mp h
      obtain ⟨_, -, h⟩ := bind_eq_ok.mp h
      cases h
      have hcohort : lastVerifiedEventAt (cohortInput input synthetic) =
          lastVerifiedEventAt input := by
        rw [lastVerifiedEventAt, lastVerifiedEventAt, lastInHistory_cohort hs]
        rfl
      have hdays : daysSinceLastVerifiedEvent H (cohortInput input synthetic) =
          daysSinceLastVerifiedEvent H input := by
        rw [daysSinceLastVerifiedEvent, daysSinceLastVerifiedEvent, hcohort]
        rfl
      have hn' : (cohortInput input synthetic).last_verified_event_at = none := hn
      have hcounted := historyReport_last hn' hinner hl
      rw [hcohort, hdays] at hcounted
      exact hcounted
    · exact historyReport_last hn h hl

end Days

/-- Dormancy is measured from the latest verified event exactly when the event with the greatest
text is the latest, as it is when all times are spelled alike. -/
theorem lastVerifiedEventAt_latest {H : Host} {input : DriftInput}
    (hn : input.last_verified_event_at = none)
    (hh : ∀ s t, H.dateHeuristics s = some t → t.natAbs ≤ 8640000000000000) :
    (MeasuredFromLatest H input ↔
      verifiedTimes input = [] ∨ ∃ last ∈ verifiedTimes input, LastInBothOrders H input last) ∧
    (UniformlySpelled input → MeasuredFromLatest H input) ∧
    ∀ report last, computeDriftReportV0 H input = .ok report →
      report.last_verified_event_at = some last →
      lastVerifiedEventAt input = some last ∧ report.days_since_last_verified_event =
        (daysSinceLastVerifiedEvent H input).map JsNumber.atLeastZero :=
  ⟨measured_iff hn hh, measured_of_uniform hn hh,
    fun _ _ hr hl => computeDriftReportV0_last hn hr hl⟩

/-- A verified event at nine in the morning, and one at ten in a zone five hours ahead. -/
def zonedDrift : DriftInput :=
  { sampleDrift none with
    feature_history := some (driftHistory ++
      [samplePoint "2026-05-26T09:00:00Z" 1900 1200 1000 (some true) none,
        samplePoint "2026-05-26T10:00:00+05:00" 1900 1200 1000 (some true) none])
    computed_at := some (js "2026-05-27T08:00:00Z") }

def driftHost : Host := sampleHost (recorded [] [] longDigest)

/-- The derived event lies four hours before the other one, and a day before the report instead of
none. -/
theorem zonedDrift_earlier :
    zonedDrift.last_verified_event_at = none ∧
    lastVerifiedEventAt zonedDrift = some (js "2026-05-26T10:00:00+05:00") ∧
    js "2026-05-26T09:00:00Z" ∈ verifiedTimes zonedDrift ∧
    instant driftHost (js "2026-05-26T10:00:00+05:00") = some 1779771600000 ∧
    instant driftHost (js "2026-05-26T09:00:00Z") = some 1779786000000 ∧
    daysSinceLastVerifiedEvent driftHost zonedDrift = some (.ofNat 1) ∧
    daysSince driftHost zonedDrift 1779786000000 = .ofNat 0 ∧
    (fun report => (report.last_verified_event_at, report.days_since_last_verified_event)) <$>
      computeDriftReportV0 driftHost zonedDrift =
        .ok (some (js "2026-05-26T10:00:00+05:00"), some (.ofNat 1)) := by
  refine ⟨rfl, ?_, ?_, ?_, ?_, ?_, ?_, ?_⟩ <;> decide +kernel

/-- The times of the sample history are all of the zone `Z`. -/
theorem lastVerifiedEventAt_latest_sample : MeasuredFromLatest driftHost (sampleDrift none) := by
  refine (lastVerifiedEventAt_latest rfl (fun _ _ h => ?_)).2.1 ⟨false, js "Z", ?_⟩
  · cases h
  · intro text hm
    have htimes : verifiedTimes (sampleDrift none) = [js "2026-04-20T12:00:00Z",
        js "2026-05-01T12:00:00Z", js "2026-05-10T12:00:00Z"] := by
      decide
    rw [htimes] at hm
    simp only [List.mem_cons, List.not_mem_nil, or_false] at hm
    rcases hm with rfl | rfl | rfl
    · exact ⟨⟨2026, 4, 20, 12, 0, 0, 0, 0⟩, rfl, by decide, by decide, rfl⟩
    · exact ⟨⟨2026, 5, 1, 12, 0, 0, 0, 0⟩, rfl, by decide, by decide, rfl⟩
    · exact ⟨⟨2026, 5, 10, 12, 0, 0, 0, 0⟩, rfl, by decide, by decide, rfl⟩

end Continuity

import Continuity.DelegationScope
import Continuity.DriftReport
import Continuity.GraphOrder
import Continuity.VerifierGraph

namespace Continuity
open Collections Frames
set_option autoImplicit true

section Slots

theorem slotFields_keys {slots : List (JsString × List JsValue)}
    (h : ∀ slot ∈ slots, slot.2.length ≤ 1) :
    ((slotFields slots).map Prod.fst).Sublist (slots.map Prod.fst) := by
  induction slots with
  | nil => exact List.Sublist.refl _
  | cons slot slots ih =>
    have hrest := ih fun s hs => h s (List.mem_cons_of_mem slot hs)
    have hone := h slot List.mem_cons_self
    obtain ⟨key, values⟩ := slot
    match values, hone with
    | [], _ => exact hrest.cons _
    | [value], _ => exact hrest.cons_cons key

end Slots

namespace DriftReport

variable (r : DriftReport)

def knownSlots : List (JsString × List JsValue) :=
  [(js "subject", [.str r.subject]), (js "issuer", (r.issuer.map .str).toList),
    (js "computed_at", [.str r.computed_at]),
    (js "feature_history_commitment", (r.feature_history_commitment.map .str).toList),
    (js "covariance_profile_commitment", (r.covariance_profile_commitment.map .str).toList),
    (js "signature", [.str r.signature])]

def bpsSlot (key : JsString) (value : Option Nat) : JsString × List JsValue :=
  (key, (value.map fun n => .num (.ofNat n)).toList)

def textSlot (key : JsString) (value : Option JsString) : JsString × List JsValue :=
  (key, (value.map .str).toList)

def otherSlots : List (JsString × List JsValue) :=
  [(js "type", [.str (js "tsl.drift_report.v1")]),
    textSlot (js "drift_profile_id") r.drift_profile_id,
    (js "baseline_window_days", [.num r.baseline_window_days]),
    (js "observation_window_days", [.num r.observation_window_days]),
    bpsSlot (js "coverage_bps") r.coverage_bps, bpsSlot (js "dcrit_bps") r.dcrit_bps,
    bpsSlot (js "dormant_penalty_bps") r.dormant_penalty_bps,
    bpsSlot (js "key_penalty_bps") r.key_penalty_bps,
    textSlot (js "baseline_profile_commitment") r.baseline_profile_commitment,
    textSlot (js "robust_covariance_commitment") r.robust_covariance_commitment,
    bpsSlot (js "mahalanobis_bps") r.mahalanobis_bps,
    textSlot (js "cohort_baseline_profile_commitment") r.cohort_baseline_profile_commitment,
    bpsSlot (js "uncertainty_widening_bps") r.uncertainty_widening_bps,
    textSlot (js "last_verified_event_at") r.last_verified_event_at,
    (js "days_since_last_verified_event", (r.days_since_last_verified_event.map .num).toList),
    (js "sparse_mode", [.str r.sparse_mode.text]),
    (js "recomputation_status", [.str (js "recomputed_match")]),
    (js "drift_score_bps", [.num (.ofNat r.drift_score_bps)]),
    (js "drift_label", [.str r.drift_label.text]), (js "action", [.str r.action.text]),
    (js "reason_codes", [textList r.reason_codes]),
    (js "component_scores_bps", (r.component_scores_bps.map fun scores => JsValue.obj
      (scores.map fun entry => (entry.1.text, .num (.ofNat entry.2)))).toList)]

theorem slots_nodup : ((r.knownSlots ++ r.otherSlots).map Prod.fst).Nodup := by
  have hkeys : (r.knownSlots ++ r.otherSlots).map Prod.fst =
      [js "subject", js "issuer", js "computed_at", js "feature_history_commitment",
        js "covariance_profile_commitment", js "signature", js "type", js "drift_profile_id",
        js "baseline_window_days", js "observation_window_days", js "coverage_bps",
        js "dcrit_bps", js "dormant_penalty_bps", js "key_penalty_bps",
        js "baseline_profile_commitment", js "robust_covariance_commitment",
        js "mahalanobis_bps", js "cohort_baseline_profile_commitment",
        js "uncertainty_widening_bps", js "last_verified_event_at",
        js "days_since_last_verified_event", js "sparse_mode", js "recomputation_status",
        js "drift_score_bps", js "drift_label", js "action", js "reason_codes",
        js "component_scores_bps"] := rfl
  rw [hkeys]
  decide

theorem length_optional (value : Option α) : value.toList.length ≤ 1 := by
  cases value <;> simp

theorem otherSlots_single : ∀ slot ∈ r.otherSlots, slot.2.length ≤ 1 := by
  simp only [otherSlots, bpsSlot, textSlot, List.forall_mem_cons, length_optional,
    List.length_singleton, le_refl, true_and]
  intro slot h
  cases h

/-- The report as the verifier reads it. -/
def toReport : DriftReportV1 where
  subject := r.subject
  issuer := r.issuer
  computed_at := r.computed_at
  feature_history_commitment := r.feature_history_commitment
  covariance_profile_commitment := r.covariance_profile_commitment
  signature := r.signature
  others :=
    { entries := slotFields r.otherSlots
      nodup := by
        have hnodup := r.slots_nodup
        rw [List.map_append] at hnodup
        exact (slotFields_keys r.otherSlots_single).nodup (List.nodup_append.mp hnodup).2.1
      fresh := by
        intro key hk hknown
        have hnodup := r.slots_nodup
        rw [List.map_append] at hnodup
        exact (List.nodup_append.mp hnodup).2.2 key hknown key
          ((slotFields_keys r.otherSlots_single).subset hk) rfl }

theorem toReport_fields : r.toReport.toFields = slotFields (r.knownSlots ++ r.otherSlots) := by
  simp only [DriftReportV1.toFields, toReport, knownSlots, slotFields, optField_slot,
    List.flatMap_append, List.flatMap_cons, List.flatMap_nil, List.map_cons, List.map_nil,
    List.append_nil, List.append_assoc]

variable {r}

end DriftReport

theorem strictEq_num (n m : Nat) (h : strictEq (.num (.ofNat n)) (.num (.ofNat m)) = true) :
    n = m := by
  simpa [strictEq, JsNumber.strictEq, JsNumber.ofNat, JsNumber.value?] using h

/-- A value that is `===` to itself. -/
def SelfSame (value : JsValue) : Prop := strictEq value value = true

/-- The fields of a report that the verifier does not compare, or compares by their text. -/
def uncompared : List JsString :=
  [js "baseline_window_days", js "observation_window_days", js "reason_codes",
    js "component_scores_bps"]

theorem self_str (s : JsString) : SelfSame (.str s) := beq_self_eq_true s

theorem self_nat (n : Nat) : SelfSame (.num (.ofNat n)) := by
  simp [SelfSame, strictEq, JsNumber.strictEq, JsNumber.ofNat, JsNumber.value?]

theorem self_text (value : Option JsString) : ∀ v ∈ (value.map JsValue.str).toList, SelfSame v := by
  cases value with
  | none => simp
  | some text => simpa using self_str text

theorem self_bps (value : Option Nat) :
    ∀ v ∈ (value.map fun n => JsValue.num (.ofNat n)).toList, SelfSame v := by
  cases value with
  | none => simp
  | some n => simpa using self_nat n

theorem slots_self {r : DriftReport}
    (hd : ∀ days, r.days_since_last_verified_event = some days → days ≠ .nan) :
    ∀ slot ∈ r.knownSlots ++ r.otherSlots, slot.1 ∈ uncompared ∨ ∀ v ∈ slot.2, SelfSame v := by
  have hdays : ∀ v ∈ (r.days_since_last_verified_event.map JsValue.num).toList, SelfSame v := by
    cases hn : r.days_since_last_verified_event with
    | none => simp
    | some days =>
      have hne := hd days hn
      have hself : days.strictEq days = true := by
        cases days with
        | nan => exact absurd rfl hne
        | _ => simp [JsNumber.strictEq, JsNumber.value?]
      simpa [SelfSame, strictEq] using hself
  simp only [DriftReport.knownSlots, DriftReport.otherSlots, DriftReport.bpsSlot,
    DriftReport.textSlot, List.cons_append, List.nil_append, List.forall_mem_cons]
  have hnil : ∀ v ∈ ([] : List JsValue), SelfSame v := fun v hv => by cases hv
  have hstr : ∀ s, SelfSame (.str s) ∧ ∀ v ∈ ([] : List JsValue), SelfSame v :=
    fun s => ⟨self_str s, hnil⟩
  exact ⟨.inr (hstr _), .inr (self_text _), .inr (hstr _), .inr (self_text _), .inr (self_text _),
    .inr (hstr _), .inr (hstr _), .inr (self_text _), .inl (by decide), .inl (by decide),
    .inr (self_bps _), .inr (self_bps _), .inr (self_bps _), .inr (self_bps _),
    .inr (self_text _), .inr (self_text _), .inr (self_bps _), .inr (self_text _),
    .inr (self_bps _), .inr (self_text _), .inr hdays, .inr (hstr _), .inr (hstr _), .inr ⟨self_nat _, hnil⟩,
    .inr (hstr _), .inr (hstr _), .inl (by decide), .inl (by decide), fun _ h => by cases h⟩

/-- A report matches itself when its number of days is a number. -/
theorem driftMatches_self {r : DriftReport}
    (hd : ∀ days, r.days_since_last_verified_event = some days → days ≠ .nan) :
    driftMatches H r.toReport r.toReport = true := by
  have hfields : fieldsMatch driftMetrics r.toReport.toFields r.toReport.toFields = true := by
    rw [fieldsMatch, List.all_eq_true]
    intro name hname
    have hcompared : name ∉ uncompared := by
      revert name
      decide
    show SelfSame (getField r.toReport.toFields name)
    generalize hg : getField r.toReport.toFields name = value
    cases hv : value.isUndefined with
    | true =>
      cases value with
      | undefined => rfl
      | _ => cases hv
    | false =>
      have hmem := getField_mem hg hv
      rw [DriftReport.toReport_fields, slotFields, List.mem_flatMap] at hmem
      obtain ⟨slot, hslot, hentry⟩ := hmem
      obtain ⟨held, hheld, he⟩ := List.mem_map.mp hentry
      cases he
      rcases slots_self hd slot hslot with hin | hall
      · exact absurd hin hcompared
      · exact hall value hheld
  simp only [driftMatches, hfields, jsonMatches, beq_self_eq_true, Bool.and_self]

/-- The call of `computeDriftReportV0` by which the verifier checks a report. -/
def DriftReport.recomputation (r : DriftReport) (history : List DriftPoint)
    (cohort : Option (List DriftComponents)) : DriftInput where
  subject := r.subject
  issuer := r.issuer
  drift_profile_id := r.drift_profile_id
  baseline_values_bps := none
  observation_values_bps := none
  feature_history := some history
  baseline_window_days := r.baseline_window_days
  observation_window_days := r.observation_window_days
  min_baseline_points := none
  dormant_days := none
  last_verified_event_at := r.last_verified_event_at
  cohort_baseline_components := cohort
  high_value_action := none
  new_delegation_pattern := none
  adverse_evidence := none
  coverage_bps := r.coverage_bps.map .ofNat
  dcrit_bps := r.dcrit_bps.map .ofNat
  dormant_penalty_bps := r.dormant_penalty_bps.map .ofNat
  key_penalty_bps := r.key_penalty_bps.map .ofNat
  severe_action := none
  component_scores_bps := none
  computed_at := some r.computed_at
  signature := none

/-- A call that sets only what the verifier forwards. -/
structure OnlyForwarded (input : DriftInput) (history : List DriftPoint) : Prop where
  feature_history : input.feature_history = some history
  baseline_values_bps : input.baseline_values_bps = none
  observation_values_bps : input.observation_values_bps = none
  min_baseline_points : input.min_baseline_points = none
  dormant_days : input.dormant_days = none
  high_value_action : input.high_value_action = none
  new_delegation_pattern : input.new_delegation_pattern = none
  adverse_evidence : input.adverse_evidence = none
  severe_action : input.severe_action = none
  component_scores_bps : input.component_scores_bps = none
  signature : input.signature = none

/-- An input with what a report of it gives back. -/
def DriftInput.forwarded (input : DriftInput) (H : Host) (w : Option DriftWeights)
    (last : Option RFC3339) : DriftInput :=
  { input with
    issuer := textWhenSet input.issuer
    drift_profile_id := textWhenSet input.drift_profile_id
    computed_at := some (input.computedAt H)
    coverage_bps := w.map fun w => .ofNat w.coverage
    dcrit_bps := w.map fun w => .ofNat w.dcrit
    dormant_penalty_bps := w.map fun w => .ofNat w.dormantPenalty
    key_penalty_bps := w.map fun w => .ofNat w.keyPenalty
    last_verified_event_at := last }

def defaultWeights : DriftWeights := ⟨10000, 7500, 2500, 0⟩

@[simp] theorem textWhenSet_none : textWhenSet none = none := rfl

@[simp] theorem textWhenSet_nil : textWhenSet (some []) = none := rfl

@[simp] theorem textWhenSet_cons (u : UInt16) (rest : JsString) :
    textWhenSet (some (u :: rest)) = some (u :: rest) := rfl

/-- The time of the last event is in the report, or nothing would take its place. -/
def LastEventKept (input : DriftInput) : Prop :=
  input.last_verified_event_at = some [] → textWhenSet (lastInHistory input) = none

section Again

variable {H : Host} {input : DriftInput} {M : DriftMeasures} {R : DriftReport}

/-- Measures with the last event of another input. -/
def withEvent (M : DriftMeasures) (H : Host) (input : DriftInput) : DriftMeasures :=
  { M with
    lastVerifiedEventAt := lastVerifiedEventAt input
    daysSinceLastVerifiedEvent := daysSinceLastVerifiedEvent H input
    dormant := dormantAt H input }

/-- A report holds the parameters of its input, or those weights that it states. -/
structure Echoes (H : Host) (input : DriftInput) (w : Option DriftWeights) (R : DriftReport) :
    Prop where
  subject : R.subject = input.subject
  issuer : R.issuer = textWhenSet input.issuer
  drift_profile_id : R.drift_profile_id = textWhenSet input.drift_profile_id
  computed_at : R.computed_at = input.computedAt H
  baseline_window_days : R.baseline_window_days = input.baseline_window_days
  observation_window_days : R.observation_window_days = input.observation_window_days
  coverage_bps : R.coverage_bps = w.map DriftWeights.coverage
  dcrit_bps : R.dcrit_bps = w.map DriftWeights.dcrit
  dormant_penalty_bps : R.dormant_penalty_bps = w.map DriftWeights.dormantPenalty
  key_penalty_bps : R.key_penalty_bps = w.map DriftWeights.keyPenalty

theorem Echoes.recomputation (he : Echoes H input w R) (ho : OnlyForwarded input history) :
    R.recomputation history input.cohort_baseline_components =
      input.forwarded H w R.last_verified_event_at := by
  rw [DriftReport.recomputation, DriftInput.forwarded, he.subject, he.issuer,
    he.drift_profile_id, he.computed_at, he.baseline_window_days, he.observation_window_days,
    he.coverage_bps, he.dcrit_bps, he.dormant_penalty_bps, he.key_penalty_bps,
    ho.feature_history, ho.baseline_values_bps, ho.observation_values_bps,
    ho.min_baseline_points, ho.dormant_days, ho.high_value_action, ho.new_delegation_pattern,
    ho.adverse_evidence, ho.severe_action, ho.component_scores_bps, ho.signature]
  simp only [Option.map_map]
  rfl

def statedWeights (H : Host) (input : DriftInput) : Option DriftWeights :=
  if sparseBaseline H input then some input.weights else none

end Again

section Days

variable {H : Host} {input : DriftInput} {R : DriftReport}

end Days

section Recomputed

variable {H : Host} {input : DriftInput} {R : DriftReport}

/-- The weights come to the score that the default weights come to on this history. -/
def ScoreKept (H : Host) (input : DriftInput) : Prop :=
  ∀ M, driftMeasures H input = .ok M → M.drift input.weights = M.drift defaultWeights

/-- What comes of the report `R` of a baseline that is long enough, recomputed without its
weights. -/
structure ReportAgain (H : Host) (input : DriftInput) (R R' : DriftReport) (c : Hex32) :
    Prop where
  report : historyReport H (input.forwarded H none R.last_verified_event_at) = .ok R'
  commitment : canonicalHash H.noble (covarianceProfile defaultWeights) = .ok c
  stated : ∃ profile, canonicalHash H.noble (covarianceProfile input.weights) = .ok profile ∧
    R.covariance_profile_commitment = some profile
  last : R'.last_verified_event_at = R.last_verified_event_at ↔ LastEventKept input
  score : LastEventKept input →
    (R'.drift_score_bps = R.drift_score_bps ↔ ScoreKept H input)
  same : LastEventKept input → ScoreKept H input →
    R' = { R with covariance_profile_commitment := some c }

/-- A report of the history with the marks of a cohort. -/
def cohortMarked (cohortHash covarianceHash : Hex32) (r : DriftReport) : DriftReport :=
  { r with
    sparse_mode := .cohort_baseline
    uncertainty_widening_bps := some 1500
    cohort_baseline_profile_commitment := some cohortHash
    reason_codes := unique (js "COHORT_BASELINE" :: r.reason_codes)
    covariance_profile_commitment := some covarianceHash }

end Recomputed

section Verifier

variable {H : Host} {input : DriftInput} {R : DriftReport} {history : List DriftPoint}

theorem OnlyForwarded.cohort (ho : OnlyForwarded input history) (synthetic : List DriftPoint) :
    OnlyForwarded (cohortInput input synthetic) (synthetic ++ history) where
  feature_history := by rw [cohortInput, ho.feature_history]; rfl
  baseline_values_bps := ho.baseline_values_bps
  observation_values_bps := ho.observation_values_bps
  min_baseline_points := ho.min_baseline_points
  dormant_days := ho.dormant_days
  high_value_action := ho.high_value_action
  new_delegation_pattern := ho.new_delegation_pattern
  adverse_evidence := ho.adverse_evidence
  severe_action := ho.severe_action
  component_scores_bps := ho.component_scores_bps
  signature := ho.signature

theorem OnlyForwarded.again (ho : OnlyForwarded input history) (w : Option DriftWeights)
    (last : Option RFC3339) : OnlyForwarded (input.forwarded H w last) history :=
  ⟨ho.feature_history, ho.baseline_values_bps, ho.observation_values_bps,
    ho.min_baseline_points, ho.dormant_days, ho.high_value_action, ho.new_delegation_pattern,
    ho.adverse_evidence, ho.severe_action, ho.component_scores_bps, ho.signature⟩

/-- The points of a cohort hold no verified event. -/
theorem lastInHistory_cohort (h : syntheticHistory H input cohort = .ok synthetic) :
    lastInHistory (cohortInput input synthetic) = lastInHistory input := by
  have hnone : (synthetic.filter fun point => point.verified_event == some true) = [] := by
    refine List.filter_eq_nil_iff.mpr fun point hpoint => ?_
    have hunverified : point.verified_event = none :=
      mapM_forall (Q := fun point => point.verified_event = none) (fun entry _ point hp => by
        obtain ⟨timestamp, -, hp⟩ := bind_eq_ok.mp hp
        cases hp
        rfl) h point hpoint
    rw [hunverified]
    decide
  rw [lastInHistory, lastInHistory, cohortInput]
  dsimp only
  rw [Option.getD_some, List.filter_append, hnone, List.nil_append]

/-- When the verifier finds again the report of an input: it is recomputed without the weights,
unless it has no baseline. -/
def Recoverable (H : Host) (input : DriftInput) : Prop :=
  if usesCohort H input then
    ∀ synthetic, syntheticHistory H input (input.cohort_baseline_components.getD []) =
        .ok synthetic →
      sparseBaseline H (cohortInput input synthetic) = true ∨
        LastEventKept input ∧ ScoreKept H (cohortInput input synthetic)
  else
    sparseBaseline H input = true ∨ LastEventKept input ∧ ScoreKept H input ∧
      input.weights.dcrit = 7500 ∧ input.weights.coverage = 10000

section Sample

def samplePoint (timestamp : String) (action cadence graph : Nat) (verified highValue : Option Bool) :
    DriftPoint where
  timestamp := js timestamp
  components
    | .action => some (.ofNat action)
    | .cadence => some (.ofNat cadence)
    | .graph => some (.ofNat graph)
    | _ => none
  verified_event := verified
  high_value_action := highValue
  new_delegation_pattern := none
  adverse_evidence := none

def driftHistory : List DriftPoint :=
  [samplePoint "2026-04-20T12:00:00Z" 1000 900 1000 (some true) none,
    samplePoint "2026-05-01T12:00:00Z" 1200 1100 1000 (some true) none,
    samplePoint "2026-05-10T12:00:00Z" 1100 1000 900 (some true) none,
    samplePoint "2026-05-27T11:00:00Z" 1900 1200 1000 none (some true)]

def sampleDrift (coverage : Option Nat) : DriftInput where
  subject := js "did:tsl:alice"
  issuer := none
  drift_profile_id := none
  baseline_values_bps := none
  observation_values_bps := none
  feature_history := some driftHistory
  baseline_window_days := .ofNat 90
  observation_window_days := .ofNat 7
  min_baseline_points := none
  dormant_days := none
  last_verified_event_at := none
  cohort_baseline_components := none
  high_value_action := none
  new_delegation_pattern := none
  adverse_evidence := none
  coverage_bps := coverage.map .ofNat
  dcrit_bps := none
  dormant_penalty_bps := none
  key_penalty_bps := none
  severe_action := none
  component_scores_bps := none
  computed_at := some (js "2026-05-27T12:00:00Z")
  signature := none

end Sample

end Verifier

end Continuity

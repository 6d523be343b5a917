import Continuity.JsOrder
import Continuity.ReferenceScore

namespace Continuity
open Collections
set_option autoImplicit true

/-- From the worst label to the best. -/
def AssessmentLabel.rank : AssessmentLabel → Nat
  | .trusted => 5
  | .likely_trusted => 4
  | .medium_trust => 3
  | .unknown_caution => 2
  | .insufficient_evidence => 2
  | .suspicious => 1
  | .high_risk => 0
  | .revoked => 0

theorem AssessmentLabel.rank_le (label : AssessmentLabel) : label.rank ≤ 5 := by
  cases label <;> decide

def AssessmentLabelV2.rank : AssessmentLabelV2 → Nat
  | .rated label _ => label.rank
  | _ => 0

structure LabelThresholds.Ordered (t : LabelThresholds) : Prop where
  high_risk : t.high_risk_bps.le t.suspicious_bps = true
  suspicious : t.suspicious_bps.le t.medium_bps = true
  medium : t.medium_bps.le t.likely_trusted_bps = true
  likely : t.likely_trusted_bps.le t.trusted_bps = true

/-- The cascade of the label over its conditions. -/
def scoreLabel (trusted likely low insufficient medium risk suspicious adverse : Bool) :
    AssessmentLabel :=
  if trusted then .trusted
  else if likely then .likely_trusted
  else if low && !adverse then if insufficient then .insufficient_evidence else .unknown_caution
  else if medium then .medium_trust
  else if insufficient then .insufficient_evidence
  else if risk then .high_risk
  else if suspicious && adverse then .suspicious
  else if suspicious then .unknown_caution
  else if adverse then .suspicious
  else .unknown_caution

theorem referenceLabel_eq (t : LabelThresholds) (m c : JsNumber) (adverse : Bool)
    (score width : Nat) :
    referenceLabel t m c adverse score width =
      scoreLabel ((JsNumber.ofNat score).ge t.trusted_bps && decide (8000 ≤ score - width) &&
          c.ge (.ofNat 7500))
        ((JsNumber.ofNat score).ge t.likely_trusted_bps && c.ge (.ofNat 5000))
        (c.lt (.ofNat 5000)) (c.lt (.ofNat 2500) || c.lt m) ((JsNumber.ofNat score).ge t.medium_bps)
        ((JsNumber.ofNat score).lt t.high_risk_bps) ((JsNumber.ofNat score).lt t.suspicious_bps)
        adverse :=
  rfl

/-- A branch that is taken no less often and is no worse than what it replaces. -/
theorem rank_ite_mono {a a' : Bool} {label rest rest' : AssessmentLabel}
    (h : a = true → a' = true) (hlabel : rest.rank ≤ label.rank) (hrest : rest.rank ≤ rest'.rank) :
    (if a then label else rest).rank ≤ (if a' then label else rest').rank := by
  cases a with
  | true =>
    rw [h rfl]
    exact le_rfl
  | false =>
    cases a' with
    | true => exact hlabel
    | false => exact hrest

/-- A branch that is taken no more often and is no better than what replaces it. -/
theorem rank_ite_anti {a a' : Bool} {label rest rest' : AssessmentLabel}
    (h : a' = true → a = true) (hlabel : label.rank ≤ rest'.rank) (hrest : rest.rank ≤ rest'.rank) :
    (if a then label else rest).rank ≤ (if a' then label else rest').rank := by
  cases a' with
  | true =>
    rw [h rfl]
    exact le_rfl
  | false =>
    cases a with
    | true => exact hlabel
    | false => exact hrest

/-- Conditions that only get better make no worse label. -/
theorem scoreLabel_mono {trusted trusted' likely likely' medium medium' risk risk' suspicious
    suspicious' : Bool} (low insufficient adverse : Bool)
    (htrusted : trusted = true → trusted' = true) (hlikely : likely = true → likely' = true)
    (hmedium : medium = true → medium' = true) (hrisk : risk' = true → risk = true) :
    (scoreLabel trusted likely low insufficient medium risk suspicious adverse).rank ≤
      (scoreLabel trusted' likely' low insufficient medium' risk' suspicious' adverse).rank := by
  refine rank_ite_mono htrusted (AssessmentLabel.rank_le _) (rank_ite_mono hlikely ?_ ?_)
  · repeat' split
    all_goals decide
  · by_cases hlow : (low && !adverse) = true
    · rw [if_pos hlow, if_pos hlow]
    · rw [if_neg hlow, if_neg hlow]
      refine rank_ite_mono hmedium ?_ (rank_ite_mono id ?_ (rank_ite_anti hrisk ?_ ?_))
      · repeat' split
        all_goals decide
      · repeat' split
        all_goals decide
      · repeat' split
        all_goals decide
      -- Below the bound of risk the label depends on the adverse evidence alone.
      · cases suspicious <;> cases suspicious' <;> cases adverse <;> decide

/-- A higher score of the same width has no worse label. -/
theorem referenceLabel_mono (t : LabelThresholds) (m c : JsNumber) (adverse : Bool) (width : Nat)
    (hs : s ≤ s') : (referenceLabel t m c adverse s width).rank ≤
      (referenceLabel t m c adverse s' width).rank := by
  have hle := JsNumber.ofNat_le_ofNat hs
  have hge : ∀ bound, (JsNumber.ofNat s).ge bound = true → (JsNumber.ofNat s').ge bound = true :=
    fun bound h => JsNumber.le_trans h hle
  have hlt : ∀ bound, (JsNumber.ofNat s').lt bound = true → (JsNumber.ofNat s).lt bound = true :=
    fun bound h => JsNumber.lt_of_le_of_lt hle h
  have hlower : decide (8000 ≤ s - width) = true → decide (8000 ≤ s' - width) = true := by
    rw [decide_eq_true_eq, decide_eq_true_eq]
    omega
  rw [referenceLabel_eq, referenceLabel_eq]
  refine scoreLabel_mono _ _ _ ?_ ?_ (hge _) (hlt _)
  · simp only [Bool.and_eq_true]
    exact fun h => ⟨⟨hge _ h.1.1, hlower h.1.2⟩, h.2⟩
  · simp only [Bool.and_eq_true]
    exact fun h => ⟨hge _ h.1, h.2⟩

/-- What adverse evidence does to the label of a score: nothing good, unless the score is at the
middle bound and the coverage is low. -/
theorem scoreLabel_adverse {trusted likely low insufficient medium risk suspicious : Bool}
    (htrusted : low = true → trusted = false) (hlikely : low = true → likely = false) :
    (scoreLabel trusted likely low insufficient medium risk suspicious true).rank ≤
        (scoreLabel trusted likely low insufficient medium risk suspicious false).rank ↔
      (low = true → medium = false) := by
  grind [scoreLabel, AssessmentLabel.rank]

example : (scoreLabel false false true false true false false false).rank <
    (scoreLabel false false true false true false false true).rank := by
  decide +kernel

section Runs

variable (H : Host) (input : ReferenceScoreV0Input)

/-- An input with the flag set one way or the other. -/
def ReferenceScoreV0Input.withAdverse (flag : Bool) : ReferenceScoreV0Input :=
  { input with has_adverse_evidence := some flag }

/-- Coverage below what a label of trust needs, or below what the policy asks for. -/
def lowCoverage : Bool :=
  let coverage := input.evidence_coverage.coverage_bps
  coverage.lt (.ofNat 5000) || coverage.lt input.domain_policy.min_coverage_bps

/-- When adverse evidence makes no better label: a gate fails, the coverage is enough, or the score
is below the middle bound. -/
def AdverseHarmless : Prop :=
  failedGate input = none → lowCoverage input = true →
    ∀ score, referenceScore input = .ok score →
      (JsNumber.ofNat score).ge input.domain_policy.thresholds.medium_bps = false

variable {H input}

theorem failureAssessment_label (h : failureAssessment H input e label code = .ok R) :
    R.label = label := by
  obtain ⟨digest, -, h⟩ := bind_eq_ok.mp h
  cases h
  rfl

theorem scoredAssessment_label (h : scoredAssessment H input e = .ok R) :
    ∃ score width, referenceScore input = .ok score ∧ confidenceWidth H input = .ok width ∧
      R.label.rank = (referenceLabel input.domain_policy.thresholds
        input.domain_policy.min_coverage_bps input.evidence_coverage.coverage_bps
        (isAdverse input) score width).rank := by
  obtain ⟨score, hscore, h⟩ := bind_eq_ok.mp h
  obtain ⟨-, -, h⟩ := bind_eq_ok.mp h
  obtain ⟨width, hwidth, h⟩ := bind_eq_ok.mp h
  obtain ⟨digest, -, h⟩ := bind_eq_ok.mp h
  obtain ⟨features, -, h⟩ := bind_eq_ok.mp h
  obtain ⟨coverage, -, h⟩ := bind_eq_ok.mp h
  cases h
  exact ⟨score, width, hscore, hwidth, rfl⟩

/-- A run ends at a failed gate, abstains or scores. -/
theorem computeReferenceScoreV0_cases (h : computeReferenceScoreV0 H input = .ok R) :
    (∃ label code, failedGate input = some (label, code) ∧ R.label = label) ∨
    (failedGate input = none ∧ abstains input = true ∧
      R.label.rank = AssessmentLabel.insufficient_evidence.rank) ∨
    (failedGate input = none ∧ abstains input = false ∧
      ∃ score width, referenceScore input = .ok score ∧ confidenceWidth H input = .ok width ∧
        R.label.rank = (referenceLabel input.domain_policy.thresholds
          input.domain_policy.min_coverage_bps input.evidence_coverage.coverage_bps
          (isAdverse input) score width).rank) := by
  obtain ⟨e, -, h⟩ := bind_eq_ok.mp h
  cases hfailed : failedGate input with
  | some failure =>
    rw [hfailed] at h
    exact .inl ⟨failure.1, failure.2, rfl, failureAssessment_label h⟩
  | none =>
    rw [hfailed] at h
    dsimp only at h
    cases habstains : abstains input with
    | true =>
      rw [habstains, if_pos rfl] at h
      exact .inr (.inl ⟨rfl, rfl, by rw [failureAssessment_label h]; rfl⟩)
    | false =>
      rw [habstains, if_neg Bool.false_ne_true] at h
      exact .inr (.inr ⟨rfl, rfl, scoredAssessment_label h⟩)

theorem LabelThresholds.Ordered.below_medium {t : LabelThresholds} (ho : t.Ordered)
    (h : (JsNumber.ofNat score).ge t.medium_bps = false) :
    (JsNumber.ofNat score).ge t.likely_trusted_bps = false ∧
      (JsNumber.ofNat score).ge t.trusted_bps = false := by
  have hlikely : (JsNumber.ofNat score).ge t.likely_trusted_bps = false := by
    by_contra hge
    rw [Bool.not_eq_false] at hge
    rw [JsNumber.ge, JsNumber.le_trans ho.medium hge] at h
    cases h
  refine ⟨hlikely, ?_⟩
  by_contra hge
  rw [Bool.not_eq_false] at hge
  rw [JsNumber.ge, JsNumber.le_trans ho.likely hge] at hlikely
  cases hlikely

/-- With adverse evidence and too little coverage for the policy, a label is no better than
insufficient evidence exactly below the middle bound. -/
theorem referenceLabel_insufficient {t : LabelThresholds} (ho : t.Ordered) (width : Nat)
    (hc : c.lt m = true) :
    (referenceLabel t m c true score width).rank ≤ AssessmentLabel.insufficient_evidence.rank ↔
      (JsNumber.ofNat score).ge t.medium_bps = false := by
  rw [referenceLabel_eq, hc, Bool.or_true]
  cases hmedium : (JsNumber.ofNat score).ge t.medium_bps with
  | false =>
    obtain ⟨hlikely, htrusted⟩ := ho.below_medium hmedium
    rw [hlikely, htrusted]
    simp [scoreLabel]
  | true => grind [scoreLabel, AssessmentLabel.rank]

theorem below_bound {c : JsNumber} (h : c.lt (.ofNat 5000) = true) :
    c.ge (.ofNat 5000) = false ∧ c.ge (.ofNat 7500) = false := by
  have hlow := JsNumber.not_le_of_lt h
  refine ⟨hlow, ?_⟩
  by_contra hge
  rw [Bool.not_eq_false] at hge
  have hle : (JsNumber.ofNat 5000).le c = true :=
    JsNumber.le_trans (JsNumber.ofNat_le_ofNat (by decide)) hge
  rw [hlow] at hle
  cases hle

/-- Two runs that differ in the flag: the one with adverse evidence has no better label exactly
when the evidence is harmless; and with the flag as it is a higher score has no worse label. -/
theorem adverse_never_better_iff (ho : input.domain_policy.thresholds.Ordered)
    (hadverse : computeReferenceScoreV0 H (input.withAdverse true) = .ok R)
    (hplain : computeReferenceScoreV0 H (input.withAdverse false) = .ok R₀) :
    (R.label.rank ≤ R₀.label.rank ↔ AdverseHarmless input) ∧
    ∀ (t : LabelThresholds) (m c : JsNumber) (adverse : Bool) (width s s' : Nat), s ≤ s' →
      (referenceLabel t m c adverse s width).rank ≤
        (referenceLabel t m c adverse s' width).rank := by
  refine ⟨?_, fun t m c adverse width s s' hs => referenceLabel_mono t m c adverse width hs⟩
  have hgate (flag : Bool) : failedGate (input.withAdverse flag) = failedGate input := rfl
  have habstains (flag : Bool) : abstains (input.withAdverse flag) =
      (input.evidence_coverage.coverage_bps.lt input.domain_policy.min_coverage_bps && !flag) := by
    cases flag <;> rfl
  have hall {score : Nat} (hscore : referenceScore input = .ok score) : (∀ s, referenceScore input = .ok s →
      (JsNumber.ofNat s).ge input.domain_policy.thresholds.medium_bps = false) ↔
        (JsNumber.ofNat score).ge input.domain_policy.thresholds.medium_bps = false :=
    ⟨fun h => h score hscore, fun h s hs => by cases hscore.symm.trans hs; exact h⟩
  rcases computeReferenceScoreV0_cases hadverse with ⟨label, code, hfailed, hlabel⟩ |
    ⟨hpassed, hstops, -⟩ | ⟨hpassed, -, score, width, hscore, hwidth, hrank⟩
  · rw [hgate] at hfailed
    rcases computeReferenceScoreV0_cases hplain with ⟨label', code', hfailed', hlabel'⟩ |
      ⟨hpassed', -⟩ | ⟨hpassed', -⟩
    · rw [hgate, hfailed, Option.some.injEq, Prod.mk.injEq] at hfailed'
      rw [hlabel, hlabel', hfailed'.1]
      exact iff_of_true le_rfl fun hpassed => by cases hfailed.symm.trans hpassed
    · cases hfailed.symm.trans hpassed'
    · cases hfailed.symm.trans hpassed'
  · rw [habstains, Bool.not_true, Bool.and_false] at hstops
    cases hstops
  · have hpassed₀ : failedGate input = none := hpassed
    have hscore₀ : referenceScore input = .ok score := hscore
    rw [AdverseHarmless, hall hscore₀, hrank, forall_prop_of_true hpassed₀, lowCoverage]
    rcases computeReferenceScoreV0_cases hplain with ⟨label, code, hfailed, -⟩ |
      ⟨-, hstops, hrank₀⟩ | ⟨-, hgoes, score', width', hscore', hwidth', hrank₀⟩
    · cases hpassed₀.symm.trans hfailed
    · have hmin : input.evidence_coverage.coverage_bps.lt input.domain_policy.min_coverage_bps =
          true := by simpa [habstains] using hstops
      rw [hrank₀, hmin, Bool.or_true, forall_prop_of_true rfl]
      exact referenceLabel_insufficient ho width hmin
    · have hmin : input.evidence_coverage.coverage_bps.lt input.domain_policy.min_coverage_bps =
          false := by simpa [habstains] using hgoes
      cases hscore.symm.trans hscore'
      cases hwidth.symm.trans hwidth'
      rw [hrank₀, hmin, Bool.or_false]
      refine scoreLabel_adverse (fun hlow => ?_) fun hlow => ?_
      · rw [(below_bound hlow).2, Bool.and_false]
      · rw [(below_bound hlow).1, Bool.and_false]

section Sample

def referenceThresholds : LabelThresholds where
  trusted_bps := .ofNat 9000
  likely_trusted_bps := .ofNat 7500
  medium_bps := .ofNat 5500
  suspicious_bps := .ofNat 3500
  high_risk_bps := .ofNat 1500

theorem referenceThresholds_ordered : referenceThresholds.Ordered :=
  ⟨by decide, by decide, by decide, by decide⟩

def passedGates : GateResult where
  schema_valid := true
  signature_valid := true
  key_active := true
  not_revoked := true
  included_in_log := some true
  checkpoint_valid := some true
  settlement_satisfied := some true
  delegation_valid := some true
  others := ⟨[], by decide, by decide⟩

/-- A subject with one feature, of a given weight, and a given coverage. -/
def oneFeature (coverage weight : Nat) : ReferenceScoreV0Input where
  subject := js "did:tsl:alice"
  issuer := js "did:tsl:provider:local"
  scoring_profile_id := js "reference-rc4"
  model_version := js "reference-rc4.0.0"
  gate_result := passedGates
  evidence_coverage :=
    { coverage_bps := .ofNat coverage
      others := ⟨[(js "valid_signed_event_count", .num (.ofNat 25)),
        (js "valid_receipt_count", .num (.ofNat 10)),
        (js "unique_counterparty_count", .num (.ofNat 5))], by decide, by decide⟩ }
  normalized_features_bps := OrderedMap.empty.set (js "trust") (.ofNat 10000)
  weights_bps := OrderedMap.empty.set (js "trust") (.ofNat weight)
  calibration_points := none
  confidence_profile := some { ConfidenceProfile.empty with method := some .analytic_profile_v1 }
  bootstrap_evidence_hashes := none
  feature_vector_commitment := none
  coverage_penalty_weight_bps := none
  has_adverse_evidence := none
  domain_policy :=
    { domain := js "anti_phishing"
      requires_settlement := false
      requires_delegation_check := false
      min_coverage_bps := .ofNat 2500
      max_assessment_age_seconds := .ofNat 3600
      thresholds := referenceThresholds }
  issued_at := js "2026-05-25T00:00:00Z"

/-- With full coverage adverse evidence makes the label of a middling score worse. -/
theorem adverse_never_better_iff_sample :
    let H := sampleHost (recorded [] [] longDigest)
    ∃ R R₀, computeReferenceScoreV0 H ((oneFeature 10000 4000).withAdverse true) = .ok R ∧
      computeReferenceScoreV0 H ((oneFeature 10000 4000).withAdverse false) = .ok R₀ ∧
      R.label.rank ≤ R₀.label.rank := by
  intro H
  obtain ⟨R, hR⟩ := Frames.Returns.of_isOk (x := computeReferenceScoreV0 H
    ((oneFeature 10000 4000).withAdverse true)) (by decide +kernel)
  obtain ⟨R₀, hR₀⟩ := Frames.Returns.of_isOk (x := computeReferenceScoreV0 H
    ((oneFeature 10000 4000).withAdverse false)) (by decide +kernel)
  refine ⟨R, R₀, hR, hR₀, ?_⟩
  refine (adverse_never_better_iff referenceThresholds_ordered hR hR₀).1.mpr fun _ hlow => ?_
  exact absurd hlow (by decide +kernel)

/-- With a coverage of 4000 it turns unknown caution into medium trust. -/
theorem adverse_makes_better :
    let H := sampleHost (recorded [] [] longDigest)
    ∃ R R₀, computeReferenceScoreV0 H ((oneFeature 4000 7000).withAdverse true) = .ok R ∧
      computeReferenceScoreV0 H ((oneFeature 4000 7000).withAdverse false) = .ok R₀ ∧
      R₀.label.rank < R.label.rank := by
  intro H
  have hrun : (do
      let R ← computeReferenceScoreV0 H ((oneFeature 4000 7000).withAdverse true)
      let R₀ ← computeReferenceScoreV0 H ((oneFeature 4000 7000).withAdverse false)
      return (R₀.label.rank, R.label.rank)) = .ok (2, 3) := by
    decide +kernel
  obtain ⟨R, hR, hrun⟩ := bind_eq_ok.mp hrun
  obtain ⟨R₀, hR₀, hrun⟩ := bind_eq_ok.mp hrun
  obtain ⟨hplain, hadverse⟩ := Prod.mk.inj (Except.ok.inj hrun)
  exact ⟨R, R₀, hR, hR₀, by omega⟩

end Sample

end Runs

end Continuity

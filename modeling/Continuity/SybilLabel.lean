import Continuity.Rounding
import Continuity.SybilScore

namespace Continuity
open Collections
set_option autoImplicit true

/-- Basis points. -/
abbrev Bps := {n : Nat // n ≤ 10000}

theorem bps_le (part total : Nat) : bps part total ≤ 10000 := by
  rw [bps]
  split <;> omega

theorem averageSignalBps_le (signal : Option JsObject) : averageSignalBps signal ≤ 10000 := by
  rw [averageSignalBps]
  split <;> omega

/-- The signals that the risk of a cluster is computed from. -/
structure RiskSignals where
  concentration : Bps
  internal_receipt_ratio : Bps
  receipt_symmetry : Bps
  creation_sync : Bps
  issuer_reuse : Bps
  seed_contamination : Bps
  trusted_escape : Bps
  external_diversity : Bps
  compromise : Bps
  issuer_collusion : Bps
  infrastructure_collusion : Bps

/-- No signal of risk is lower in the second, no signal of trust higher. -/
structure RiskSignals.NoBetter (s s' : RiskSignals) : Prop where
  concentration : s.concentration ≤ s'.concentration
  internal_receipt_ratio : s.internal_receipt_ratio ≤ s'.internal_receipt_ratio
  receipt_symmetry : s.receipt_symmetry ≤ s'.receipt_symmetry
  creation_sync : s.creation_sync ≤ s'.creation_sync
  issuer_reuse : s.issuer_reuse ≤ s'.issuer_reuse
  seed_contamination : s.seed_contamination ≤ s'.seed_contamination
  trusted_escape : s'.trusted_escape ≤ s.trusted_escape
  external_diversity : s'.external_diversity ≤ s.external_diversity
  compromise : s.compromise ≤ s'.compromise
  issuer_collusion : s.issuer_collusion ≤ s'.issuer_collusion
  infrastructure_collusion : s.infrastructure_collusion ≤ s'.infrastructure_collusion

inductive RiskLabel where
  | low
  | medium
  | elevated
  | high
  deriving DecidableEq

def RiskLabel.rank : RiskLabel → Nat
  | .low => 0
  | .medium => 1
  | .elevated => 2
  | .high => 3

def RiskLabel.text : RiskLabel → JsString
  | .low => js "low"
  | .medium => js "medium"
  | .elevated => js "elevated"
  | .high => js "high"

theorem RiskLabel.rank_le (label : RiskLabel) : label.rank ≤ 3 := by
  cases label <;> decide

section Risk

variable (sigmoid : Bps → Bps) (tier : AdversaryTier) (s : RiskSignals)

/-- The weighted signals before they are divided by 100. -/
def weightedSignals : Nat :=
  s.concentration * 20 + s.internal_receipt_ratio * 12 + s.receipt_symmetry * 8 +
    s.creation_sync * 12 + s.issuer_reuse * 10 + s.seed_contamination * 22 +
    (10000 - s.trusted_escape) * 10 + (10000 - s.external_diversity) * 6

def linearSignalBps : Bps :=
  ⟨clampBps (JsNumber.ofInt ((weightedSignals s / 100 : Nat) + (tierPolicy tier).risk_adjustment_bps) +
    behavioralRiskAdjustment tier s.compromise s.issuer_collusion s.infrastructure_collusion),
    clampBps_le _⟩

def riskScore : Bps := sigmoid (linearSignalBps tier s)

/-- The label where there is evidence enough and the attack does not pay. -/
def riskLabel : RiskLabel :=
  let config := tierPolicy tier
  let risk := (riskScore sigmoid tier s).val
  if s.concentration.val > 8500 ∧ s.trusted_escape.val < 500 then .high
  else if tier = .B5 ∧ s.infrastructure_collusion.val ≥ 5000 then .high
  else if tier = .B4 ∧ s.issuer_collusion.val ≥ 5000 then .high
  else if tier = .B3 ∧ s.compromise.val ≥ 5000 then .elevated
  else if s.seed_contamination.val > config.contamination_threshold_bps then .elevated
  else if risk ≥ config.high_threshold_bps then .high
  else if risk ≥ config.elevated_threshold_bps then .elevated
  else if s.internal_receipt_ratio.val > 7500 ∧ s.trusted_escape.val < 1500 then .medium
  else .low

/-- The rules that make a label high whatever the score. -/
def HighByRule : Prop :=
  (8500 < s.concentration.val ∧ s.trusted_escape.val < 500) ∨
    (tier = .B5 ∧ 5000 ≤ s.infrastructure_collusion.val) ∨
    (tier = .B4 ∧ 5000 ≤ s.issuer_collusion.val)

/-- The rules that make a label elevated before the score is looked at. -/
def ElevatedByRule : Prop :=
  (tier = .B3 ∧ 5000 ≤ s.compromise.val) ∨
    (tierPolicy tier).contamination_threshold_bps < s.seed_contamination.val

end Risk

section Score

/-- The share of its own signal that a tier adds to the risk, as the double it is. -/
def tierShare : AdversaryTier → ℚ
  | .B3 => 3152519739159347 / 9007199254740992
  | .B4 => 3602879701896397 / 9007199254740992
  | .B5 => 8106479329266893 / 18014398509481984
  | _ => 0

def tierSignal (s : RiskSignals) : AdversaryTier → Bps
  | .B3 => s.compromise
  | .B4 => s.issuer_collusion
  | .B5 => s.infrastructure_collusion
  | _ => ⟨0, Nat.zero_le _⟩

/-- What a tier adds to the linear signal. -/
def tierAdjustment (tier : AdversaryTier) (s : RiskSignals) : Int :=
  (JsNumber.toGrid ((tierSignal s tier).val * tierShare tier)).floor

theorem tierShare_bounds (tier : AdversaryTier) : 0 ≤ tierShare tier ∧ tierShare tier ≤ 1 := by
  cases tier <;> norm_num [tierShare]

theorem tierShare_rounded :
    JsNumber.rounded (35 / 100) = .fin (tierShare .B3) ∧
      JsNumber.rounded (4 / 10) = .fin (tierShare .B4) ∧
      JsNumber.rounded (45 / 100) = .fin (tierShare .B5) := by
  decide +kernel

theorem share_bounds {c : ℚ} (hc : 0 ≤ c ∧ c ≤ 1) (n : Bps) :
    0 ≤ (n.val : ℚ) * c ∧ JsNumber.toGrid (n.val * c) ≤ 2 ^ (14 : Int) := by
  have hq : (0 : ℚ) ≤ n.val * c := mul_nonneg n.val.cast_nonneg hc.1
  have hle : (n.val : ℚ) * c ≤ 10000 := by
    have hn : (n.val : ℚ) ≤ 10000 := by exact_mod_cast n.property
    calc (n.val : ℚ) * c ≤ 10000 * 1 := mul_le_mul hn hc.2 hc.1 (by norm_num)
      _ = 10000 := mul_one _
  have hpow : (n.val : ℚ) * c ≤ 2 ^ (14 : Int) := hle.trans (by norm_num)
  have hlog : Int.log 2 ((n.val : ℚ) * c) ≤ 14 := by
    rcases hq.eq_or_lt with he | hpos
    · rw [← he, Int.log_zero_right]
      decide
    · have hlt : (n.val : ℚ) * c < ((2 : Nat) : ℚ) ^ (15 : Int) := hle.trans_lt (by norm_num)
      have := (Int.lt_zpow_iff_log_lt (by norm_num) hpos).mp hlt
      omega
  exact ⟨hq, JsNumber.toGrid_le_zpow hpow hlog (by omega)⟩

/-- A share of basis points is met up to a rounding and is a whole number. -/
theorem floor_mul_eq {c : ℚ} (hc : 0 ≤ c ∧ c ≤ 1) (n : Bps) :
    (JsNumber.ofNat n.val * .fin c).floor = .ofInt (JsNumber.toGrid (n.val * c)).floor := by
  obtain ⟨hq, hle⟩ := share_bounds hc n
  have hlt : JsNumber.toGrid (n.val * c) < 2 ^ 1024 :=
    hle.trans_lt (by rw [← zpow_natCast]; exact zpow_lt_zpow_right₀ (by norm_num) (by norm_num))
  have hsign : ((JsNumber.ofNat n.val).isNegative != (JsNumber.fin c).isNegative) = false := by
    have hn : ¬(n.val : ℚ) < 0 := n.val.cast_nonneg.not_gt
    simp only [JsNumber.ofNat, JsNumber.isNegative, decide_eq_false hn, decide_eq_false hc.1.not_gt,
      bne_self_eq_false]
  change (JsNumber.nearest ((JsNumber.ofNat n.val).isNegative != (JsNumber.fin c).isNegative)
    |(n.val : ℚ) * c|).floor = _
  rw [hsign, abs_of_nonneg hq, JsNumber.nearest_of_lt hlt]
  rfl

theorem behavioralRiskAdjustment_eq (tier : AdversaryTier) (s : RiskSignals) :
    behavioralRiskAdjustment tier s.compromise s.issuer_collusion s.infrastructure_collusion =
      .ofInt (tierAdjustment tier s) := by
  obtain ⟨h₃, h₄, h₅⟩ := tierShare_rounded
  have hnone : (JsNumber.ofNat 0) = .ofInt (JsNumber.toGrid ((0 : Nat) * 0)).floor := by
    rw [mul_zero, JsNumber.toGrid_zero]
    rfl
  cases tier with
  | B0 => exact hnone
  | B1 => exact hnone
  | B2 => exact hnone
  | B3 => rw [behavioralRiskAdjustment, h₃, floor_mul_eq (tierShare_bounds _)]; rfl
  | B4 => rw [behavioralRiskAdjustment, h₄, floor_mul_eq (tierShare_bounds _)]; rfl
  | B5 => rw [behavioralRiskAdjustment, h₅, floor_mul_eq (tierShare_bounds _)]; rfl

theorem tierAdjustment_bounds (tier : AdversaryTier) (s : RiskSignals) :
    0 ≤ tierAdjustment tier s ∧ tierAdjustment tier s ≤ 16384 := by
  obtain ⟨hq, hle⟩ := share_bounds (tierShare_bounds tier) (tierSignal s tier)
  refine ⟨Int.floor_nonneg.mpr (JsNumber.toGrid_nonneg hq), ?_⟩
  have hfloor := Int.floor_le_floor (hle.trans (show (2 : ℚ) ^ (14 : Int) ≤ 16384 by norm_num))
  have hcast : ⌊(16384 : ℚ)⌋ = 16384 := Int.floor_ofNat 16384
  rw [hcast] at hfloor
  exact hfloor

/-- The sum of the linear signal is exact. -/
theorem linearSignalBps_val (tier : AdversaryTier) (s : RiskSignals) :
    (linearSignalBps tier s).val = min 10000 (((weightedSignals s / 100 : Nat) : Int) +
      (tierPolicy tier).risk_adjustment_bps + tierAdjustment tier s).toNat := by
  have hadjust := tierAdjustment_bounds tier s
  have hpolicy : -750 ≤ (tierPolicy tier).risk_adjustment_bps ∧
      (tierPolicy tier).risk_adjustment_bps ≤ 1100 := by
    cases tier <;> decide
  have hweighted : weightedSignals s ≤ 1000000 := by
    rw [weightedSignals]
    have := s.concentration.property
    have := s.internal_receipt_ratio.property
    have := s.receipt_symmetry.property
    have := s.creation_sync.property
    have := s.issuer_reuse.property
    have := s.seed_contamination.property
    omega
  change clampBps (JsNumber.ofInt _ +
    behavioralRiskAdjustment tier s.compromise s.issuer_collusion s.infrastructure_collusion) = _
  rw [behavioralRiskAdjustment_eq]
  change clampBps (JsNumber.rounded (((_ : Int) : ℚ) + ((_ : Int) : ℚ))) = _
  rw [← Int.cast_add, JsNumber.rounded_intCast (by omega)]
  simp only [clampBps, JsNumber.ofInt, Rat.floor_intCast]

end Score

section Assessment

variable (E : Engine) (input : SybilInput)

/-- The signals that `sybilMeasures` computes. -/
def riskSignals : RiskSignals :=
  let measures := sybilMeasures E input
  { concentration := ⟨measures.cluster_concentration_bps, bps_le _ _⟩
    internal_receipt_ratio := ⟨measures.internal_receipt_ratio_bps, bps_le _ _⟩
    receipt_symmetry := ⟨measures.receipt_symmetry_bps, bps_le _ _⟩
    creation_sync := ⟨measures.creation_sync_bps, by
      change creationSyncBps E _ ≤ 10000
      rw [creationSyncBps]
      split <;> omega⟩
    issuer_reuse := ⟨measures.issuer_reuse_bps, bps_le _ _⟩
    seed_contamination := ⟨measures.seed_contamination_bps, bps_le _ _⟩
    trusted_escape := ⟨measures.trusted_escape_bps, bps_le _ _⟩
    external_diversity := ⟨measures.external_diversity_bps, clampBps_le _⟩
    compromise := ⟨averageSignalBps measures.signals.compromise, averageSignalBps_le _⟩
    issuer_collusion := ⟨averageSignalBps measures.signals.issuer_collusion, averageSignalBps_le _⟩
    infrastructure_collusion :=
      ⟨averageSignalBps measures.signals.infrastructure_collusion, averageSignalBps_le _⟩ }

def engineSigmoid (signal : Bps) : Bps := ⟨sigmoidRiskBps E signal, clampBps_le _⟩

/-- The score of an assessment is the score of its signals. -/
theorem sybilMeasures_score :
    (sybilMeasures E input).risk_score_bps =
      riskScore (engineSigmoid E) input.tier (riskSignals E input) :=
  rfl

/-- The cluster has less evidence than the profile asks for. -/
def fewEvidence : Bool :=
  let cluster := componentOfSubject E input.graph (some input.graph_profile) input.subject
  (JsNumber.ofNat (edgeMass input (input.graph.edges.filter fun edge => cluster.contains edge.src))).lt
    (input.number SybilProfile.min_evidence_mass (tierPolicy input.tier).min_evidence_mass)

/-- The attack costs no more than it brings. -/
def attackEconomicsFailed : Bool :=
  let cluster := componentOfSubject E input.graph (some input.graph_profile) input.subject
  let internalMass := edgeMass input (input.graph.edges.filter fun edge =>
    cluster.contains edge.src && cluster.contains edge.dst)
  let attackCost := (sybilMeasures E input).cost_components.foldl (fun sum cost => sum + cost.2)
    (.ofNat 0) + .ofNat (internalMass / 10000) *
      input.number SybilProfile.internal_edge_cost_minor_units 5000
  let benefit := input.number SybilProfile.expected_benefit_minor_units 0
  (JsNumber.ofNat 0).lt benefit && attackCost.le benefit

/-- With evidence enough and an attack that does not pay, the label of an assessment is the label
of its signals. -/
theorem sybilMeasures_label :
    (sybilMeasures E input).risk_label =
      if fewEvidence E input then js "insufficient_evidence"
      else if attackEconomicsFailed E input then js "high"
      else (riskLabel (engineSigmoid E) input.tier (riskSignals E input)).text := by
  simp only [riskLabel, apply_ite RiskLabel.text]
  rfl

end Assessment

section Monotone

variable {sigmoid : Bps → Bps} {s s' : RiskSignals}

theorem RiskSignals.NoBetter.weightedSignals_le (h : s.NoBetter s') :
    weightedSignals s ≤ weightedSignals s' := by
  obtain ⟨h₁, h₂, h₃, h₄, h₅, h₆, h₇, h₈, -⟩ := h
  simp only [← Subtype.coe_le_coe] at h₁ h₂ h₃ h₄ h₅ h₆ h₇ h₈
  rw [weightedSignals, weightedSignals]
  omega

theorem RiskSignals.NoBetter.tierAdjustment_le (h : s.NoBetter s') (tier : AdversaryTier) :
    tierAdjustment tier s ≤ tierAdjustment tier s' := by
  have hsignal : tierSignal s tier ≤ tierSignal s' tier := by
    cases tier with
    | B3 => exact h.compromise
    | B4 => exact h.issuer_collusion
    | B5 => exact h.infrastructure_collusion
    | B0 => exact le_rfl
    | B1 => exact le_rfl
    | B2 => exact le_rfl
  have hc := tierShare_bounds tier
  have hq : ((tierSignal s tier).val : ℚ) * tierShare tier ≤
      (tierSignal s' tier).val * tierShare tier :=
    mul_le_mul_of_nonneg_right (by exact_mod_cast hsignal) hc.1
  exact Int.floor_le_floor (JsNumber.toGrid_mono (share_bounds hc _).1 hq)

theorem RiskSignals.NoBetter.linearSignalBps_le (h : s.NoBetter s') (tier : AdversaryTier) :
    linearSignalBps tier s ≤ linearSignalBps tier s' := by
  have hweighted := Nat.div_le_div_right (c := 100) h.weightedSignals_le
  have htier := h.tierAdjustment_le tier
  rw [← Subtype.coe_le_coe, linearSignalBps_val, linearSignalBps_val]
  omega

theorem RiskSignals.NoBetter.highByRule (h : s.NoBetter s') (hr : HighByRule tier s) :
    HighByRule tier s' := by
  obtain ⟨h₁, -, -, -, -, -, h₇, -, -, h₁₀, h₁₁⟩ := h
  simp only [← Subtype.coe_le_coe] at h₁ h₇ h₁₀ h₁₁
  rcases hr with hr | hr | hr
  · exact .inl ⟨by omega, by omega⟩
  · exact .inr (.inl ⟨hr.1, by omega⟩)
  · exact .inr (.inr ⟨hr.1, by omega⟩)

theorem RiskSignals.NoBetter.elevatedByRule (h : s.NoBetter s') (hr : ElevatedByRule tier s) :
    ElevatedByRule tier s' := by
  obtain ⟨-, -, -, -, -, h₆, -, -, h₉, -, -⟩ := h
  simp only [← Subtype.coe_le_coe] at h₆ h₉
  rcases hr with hr | hr
  · exact .inl ⟨hr.1, by omega⟩
  · exact .inr (by omega)

theorem riskLabel_high (h : HighByRule tier s) : riskLabel sigmoid tier s = .high := by
  grind [HighByRule, riskLabel]

theorem riskLabel_elevated (hh : ¬HighByRule tier s) (he : ElevatedByRule tier s) :
    riskLabel sigmoid tier s = .elevated := by
  grind [HighByRule, ElevatedByRule, riskLabel]

/-- Where no rule comes first the score decides. -/
theorem riskLabel_scored (hh : ¬HighByRule tier s) (he : ¬ElevatedByRule tier s) :
    riskLabel sigmoid tier s =
      if (tierPolicy tier).high_threshold_bps ≤ (riskScore sigmoid tier s).val then .high
      else if (tierPolicy tier).elevated_threshold_bps ≤ (riskScore sigmoid tier s).val then .elevated
      else if 7500 < s.internal_receipt_ratio.val ∧ s.trusted_escape.val < 1500 then .medium
      else .low := by
  grind [HighByRule, ElevatedByRule, riskLabel]

/-- Worse signals never lower the score; they never lower the label exactly when, should they first
meet a rule that makes it elevated and none that makes it high, the score of the better signals
is below the bound that makes it high. -/
theorem riskLabel_mono_iff (tier : AdversaryTier) (hs : Monotone sigmoid) (h : s.NoBetter s') :
    riskScore sigmoid tier s ≤ riskScore sigmoid tier s' ∧
    ((riskLabel sigmoid tier s).rank ≤ (riskLabel sigmoid tier s').rank ↔
      (¬HighByRule tier s' → ElevatedByRule tier s' → ¬ElevatedByRule tier s →
        (sigmoid (linearSignalBps tier s)).val < (tierPolicy tier).high_threshold_bps)) := by
  have hscore : riskScore sigmoid tier s ≤ riskScore sigmoid tier s' :=
    hs (h.linearSignalBps_le tier)
  refine ⟨hscore, ?_⟩
  change _ ↔ (_ → _ → _ → (riskScore sigmoid tier s).val < _)
  by_cases hh' : HighByRule tier s'
  · rw [riskLabel_high hh']
    exact iff_of_true (RiskLabel.rank_le _) fun hno => absurd hh' hno
  have hh : ¬HighByRule tier s := fun hh => hh' (h.highByRule hh)
  by_cases he' : ElevatedByRule tier s'
  · rw [riskLabel_elevated hh' he']
    by_cases he : ElevatedByRule tier s
    · rw [riskLabel_elevated hh he]
      exact iff_of_true le_rfl fun _ _ hno => absurd he hno
    · rw [riskLabel_scored hh he]
      by_cases hhigh : (tierPolicy tier).high_threshold_bps ≤ (riskScore sigmoid tier s).val
      · rw [if_pos hhigh]
        exact iff_of_false (by decide) fun hlow => (hlow hh' he' he).not_ge hhigh
      · rw [if_neg hhigh]
        refine iff_of_true ?_ fun _ _ _ => not_le.mp hhigh
        split_ifs <;> decide
  · have he : ¬ElevatedByRule tier s := fun he => he' (h.elevatedByRule he)
    refine iff_of_true ?_ fun _ hyes => absurd hyes he'
    have hratio := h.internal_receipt_ratio
    have hescape := h.trusted_escape
    simp only [← Subtype.coe_le_coe] at hscore hratio hescape
    rw [riskLabel_scored hh he, riskLabel_scored hh' he']
    split_ifs <;> first | decide | (exfalso; omega)

end Monotone

section Sample

/-- A cluster with little contact outside, whose edges to known adversaries are a quarter. -/
def denseSignals : RiskSignals where
  concentration := ⟨8500, by decide⟩
  internal_receipt_ratio := ⟨10000, by decide⟩
  receipt_symmetry := ⟨10000, by decide⟩
  creation_sync := ⟨10000, by decide⟩
  issuer_reuse := ⟨10000, by decide⟩
  seed_contamination := ⟨2500, by decide⟩
  trusted_escape := ⟨0, by decide⟩
  external_diversity := ⟨0, by decide⟩
  compromise := ⟨0, by decide⟩
  issuer_collusion := ⟨0, by decide⟩
  infrastructure_collusion := ⟨0, by decide⟩

def contaminatedSignals : RiskSignals :=
  { denseSignals with seed_contamination := ⟨2501, by decide⟩ }

theorem contaminated_noBetter : denseSignals.NoBetter contaminatedSignals where
  concentration := le_rfl
  internal_receipt_ratio := le_rfl
  receipt_symmetry := le_rfl
  creation_sync := le_rfl
  issuer_reuse := le_rfl
  seed_contamination := by decide
  trusted_escape := le_rfl
  external_diversity := le_rfl
  compromise := le_rfl
  issuer_collusion := le_rfl
  infrastructure_collusion := le_rfl

theorem contaminated_mono_iff :
    riskScore id .B2 denseSignals ≤ riskScore id .B2 contaminatedSignals ∧
    ((riskLabel id .B2 denseSignals).rank ≤ (riskLabel id .B2 contaminatedSignals).rank ↔
      (¬HighByRule .B2 contaminatedSignals → ElevatedByRule .B2 contaminatedSignals →
        ¬ElevatedByRule .B2 denseSignals →
        (id (linearSignalBps .B2 denseSignals)).val < (tierPolicy .B2).high_threshold_bps)) :=
  riskLabel_mono_iff .B2 monotone_id contaminated_noBetter

/-- One basis point of contamination makes a high label elevated. -/
theorem contamination_lowers_label :
    ¬∀ (sigmoid : Bps → Bps) (tier : AdversaryTier) (s s' : RiskSignals), Monotone sigmoid →
      s.NoBetter s' → riskScore sigmoid tier s ≤ riskScore sigmoid tier s' ∧
        (riskLabel sigmoid tier s).rank ≤ (riskLabel sigmoid tier s').rank := by
  intro h
  have hrank := (h id .B2 denseSignals contaminatedSignals monotone_id contaminated_noBetter).2
  have hlabels : riskLabel id .B2 denseSignals = .high ∧
      riskLabel id .B2 contaminatedSignals = .elevated := by decide +kernel
  rw [hlabels.1, hlabels.2] at hrank
  exact absurd hrank (by decide)

end Sample

end Continuity

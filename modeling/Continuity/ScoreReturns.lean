import Continuity.CalibratedScore
import Continuity.SparseDense

namespace Continuity
open Collections Frames
set_option autoImplicit true

section Running

theorem returns_bind_iff {x : Js α} {f : α → Js β} :
    Returns (x >>= f) ↔ ∃ a, x = .ok a ∧ Returns (f a) := by
  constructor
  · rintro ⟨b, hb⟩
    obtain ⟨a, ha, hf⟩ := bind_eq_ok.mp hb
    exact ⟨a, ha, b, hf⟩
  · rintro ⟨a, ha, hf⟩
    rw [ha]
    exact hf

theorem canonicalHash_returns_iff (N : Noble) : Returns (canonicalHash N value) ↔ Encodable value := by
  constructor
  · rintro ⟨hash, hh⟩
    obtain ⟨bytes, hb, -⟩ := bind_eq_ok.mp hh
    exact canonicalBytes_encodable hb
  · exact fun h => canonicalHash_total h

theorem encodable_ofNat_iff : Encodable (.num (.ofNat n)) ↔ n < 2 ^ 53 := by
  constructor
  · rintro ⟨hsafe, -⟩
    simpa [JsNumber.isSafeInteger] using hsafe
  · exact encodable_ofNat

theorem mapM_returns_iff {α β : Type} {f : α → Js β} {items : List α} :
    Returns (items.mapM f) ↔ ∀ a ∈ items, Returns (f a) := by
  constructor
  · rintro ⟨results, h⟩ a ha
    obtain ⟨b, -, hb⟩ := mapM_mem h ha
    exact ⟨b, hb⟩
  · intro h
    exact Returns.mapM h

end Running

section Bootstrap

variable {H : Host} {input : ReferenceScoreV0Input}

theorem drawnIndex_returns (hd : Digest32 H.noble) (material : JsValue) (size : Nat) :
    Returns (drawnIndex H material size) ↔ Encodable material := by
  rw [drawnIndex, returns_bind_iff]
  constructor
  · rintro ⟨digest, hdigest, -⟩
    exact (canonicalHash_returns_iff H.noble).mp ⟨digest, hdigest⟩
  · intro he
    obtain ⟨digest, hdigest⟩ := canonicalHash_total (N := H.noble) he
    refine ⟨digest, hdigest, ?_⟩
    obtain ⟨bytes, -, hbytes⟩ := bind_eq_ok.mp hdigest
    cases hbytes
    have hne : H.noble.sha256 bytes ≠ [] := by
      intro hnil
      have hlength := hd bytes
      rw [hnil] at hlength
      cases hlength
    rw [sha256Hex, bigIntOfString_bytesToHex hne]
    exact Returns.pure _

/-- The material of a sample has an entry without a value when there are no evidence hashes. -/
theorem sampledFeature_returns (hd : Digest32 H.noble) (seed : Hex32)
    (ids evidenceHashes : List Hex32) (round index : Nat) :
    Returns (sampledFeature H input seed ids evidenceHashes round index) ↔
      evidenceHashes ≠ [] ∧ round < 2 ^ 53 ∧ index < 2 ^ 53 := by
  have hmaterial : ∀ last : JsString × JsValue,
      Encodable (.obj [(js "seed", .str seed), (js "round", .num (.ofNat round)),
        (js "index", .num (.ofNat index)), last]) ↔
        round < 2 ^ 53 ∧ index < 2 ^ 53 ∧ Encodable last.2 := by
    intro last
    rw [← encodable_ofNat_iff, ← encodable_ofNat_iff]
    change True ∧ _ ∧ _ ∧ _ ∧ True ↔ _
    rw [true_and, and_true]
  rw [sampledFeature]
  cases evidenceHashes with
  | nil =>
    refine iff_of_false ?_ fun h => h.1 rfl
    intro h
    obtain ⟨material, hpure, h⟩ := returns_bind_iff.mp h
    cases hpure
    obtain ⟨pick, hpick, -⟩ := returns_bind_iff.mp h
    have he := (hmaterial _).mp ((drawnIndex_returns hd _ _).mp ⟨pick, hpick⟩)
    exact he.2.2
  | cons hash hashes =>
    rw [if_neg (by simp)]
    constructor
    · intro h
      obtain ⟨pick, hpick, -⟩ := returns_bind_iff.mp h
      have he := (hmaterial _).mp ((drawnIndex_returns hd _ _).mp ⟨pick, hpick⟩)
      exact ⟨List.cons_ne_nil _ _, he.1, he.2.1⟩
    · rintro ⟨-, hround, hindex⟩
      have hdrawn : ∀ (last : JsString × JsValue) (size : Nat), Encodable last.2 →
          Returns (drawnIndex H (.obj [(js "seed", .str seed), (js "round", .num (.ofNat round)),
            (js "index", .num (.ofNat index)), last]) size) := fun last size he =>
        (drawnIndex_returns hd _ size).mpr ((hmaterial last).mpr ⟨hround, hindex, he⟩)
      apply Returns.bind (hdrawn _ _ (encodable_textList _))
      intro pick _
      apply Returns.bind (Returns.pure _)
      intro evidence hevidence
      cases hevidence
      exact Returns.bind (hdrawn (_, .str _) _ trivial) fun _ _ => Returns.pure _

theorem sampledScore_returns (hd : Digest32 H.noble) (seed : Hex32)
    (ids evidenceHashes : List Hex32) (round : Nat) :
    Returns (sampledScore H input seed ids evidenceHashes round) ↔
      ∀ index < ids.length, evidenceHashes ≠ [] ∧ round < 2 ^ 53 ∧ index < 2 ^ 53 := by
  have hmap : Returns ((List.range ids.length).mapM fun index =>
      sampledFeature H input seed ids evidenceHashes round index) ↔
      ∀ index < ids.length, evidenceHashes ≠ [] ∧ round < 2 ^ 53 ∧ index < 2 ^ 53 := by
    rw [mapM_returns_iff]
    simp only [List.mem_range, sampledFeature_returns hd]
  rw [← hmap, sampledScore, returns_bind_iff]
  exact ⟨fun ⟨sampled, h, _⟩ => ⟨sampled, h⟩, fun ⟨sampled, h⟩ => ⟨sampled, h, Returns.pure _⟩⟩

theorem JsNumber.le_of_lt {a b : JsNumber} (h : a.lt b = true) : a.le b = true :=
  (Bool.and_eq_true _ _ ▸ h : a.le b = true ∧ _).1

theorem trunc_eq_nan {n : JsNumber} : n.trunc = .nan ↔ n = .nan := by
  cases n with
  | fin q =>
    rw [JsNumber.trunc]
    split_ifs <;> simp [JsNumber.ofInt]
  | _ => simp [JsNumber.trunc]

/-- Between eight and 256 passes, and none for what is no number. -/
theorem clampedPasses (n : JsNumber) :
    (((JsNumber.ofNat 8).max ((JsNumber.ofNat 256).min n)).passes = 0 ↔ n = .nan) ∧
      ((JsNumber.ofNat 8).max ((JsNumber.ofNat 256).min n)).passes ≤ 256 := by
  by_cases hn : n = .nan
  · subst hn
    exact ⟨iff_of_true rfl rfl, Nat.zero_le _⟩
  have hmin : (JsNumber.ofNat 256).min n ≠ .nan ∧
      ((JsNumber.ofNat 256).min n).le (.ofNat 256) = true := by
    rw [JsNumber.min, if_neg (by simp [hn, JsNumber.ofNat])]
    have hbound : JsNumber.ofNat 256 ≠ .nan := by
      intro h
      cases h
    split_ifs with hlt hgt hzero
    · exact ⟨hbound, by decide⟩
    · exact ⟨hn, JsNumber.le_of_lt hgt⟩
    · exact ⟨hn, by rw [hzero]; decide⟩
    · exact ⟨hbound, by decide⟩
  obtain ⟨hnan, hle⟩ := hmin
  generalize (JsNumber.ofNat 256).min n = m at hnan hle
  rw [JsNumber.max, if_neg (by simp [hnan, JsNumber.ofNat])]
  split
  · next hge =>
    cases m with
    | fin q =>
      have hlow : (8 : ℚ) ≤ q := of_decide_eq_true hge
      have hhigh : q ≤ (256 : Int) := of_decide_eq_true hle
      have hceil : 8 ≤ q.ceil := by
        have hq : (8 : ℚ) ≤ q.ceil := hlow.trans Rat.le_ceil
        exact_mod_cast hq
      have hceil' : q.ceil ≤ 256 := Rat.ceil_le_iff.mpr hhigh
      rw [JsNumber.passes]
      exact ⟨iff_of_false (by omega) hn, by omega⟩
    | negZero => cases hge
    | nan => exact absurd rfl hnan
    | posInf => cases hle
    | negInf => cases hge
  · have height : (JsNumber.ofNat 8).passes = 8 := by decide
    rw [height]
    exact ⟨iff_of_false (by decide) hn, by decide⟩

theorem bootstrapRounds_eq_zero : bootstrapRounds input = 0 ↔
    (confidence input).bootstrap_rounds = some .nan := by
  rw [bootstrapRounds, (clampedPasses _).1, trunc_eq_nan]
  cases (confidence input).bootstrap_rounds <;> simp [JsNumber.ofNat]

theorem bootstrapSeed_returns (H : Host) (input : ReferenceScoreV0Input) :
    Returns (bootstrapSeed H input) := by
  rw [bootstrapSeed]
  split
  · exact Returns.pure _
  · exact (canonicalHash_returns_iff H.noble).mpr ⟨trivial, trivial, trivial, trivial⟩

/-- The bootstrap has nothing to sample, or evidence to sample with. -/
def Resamples (input : ReferenceScoreV0Input) : Prop :=
  let evidence := input.bootstrap_evidence_hashes.getD []
  input.weights_bps.keys = [] ∨
    ((confidence input).bootstrap_unit = some .edge_counterparty_attestation ∧
      evidence.length < 3) ∨
    (confidence input).bootstrap_rounds = some .nan ∨
    (evidence ≠ [] ∧ input.weights_bps.keys.length ≤ 2 ^ 53)

theorem sortStrings_length (values : List JsString) :
    (sortStrings values).length = values.length := List.length_insertionSort _ _

theorem bootstrapWidth_returns (hd : Digest32 H.noble) :
    Returns (bootstrapWidth H input) ↔ Resamples input := by
  have hids : featureIds input = [] ↔ input.weights_bps.keys = [] := by
    rw [← List.length_eq_zero_iff, featureIds, sortStrings_length, List.length_eq_zero_iff]
  have hhashes : sortStrings (input.bootstrap_evidence_hashes.getD []) ≠ [] ↔
      input.bootstrap_evidence_hashes.getD [] ≠ [] := by
    rw [ne_eq, ← List.length_eq_zero_iff, sortStrings_length, List.length_eq_zero_iff]
  have hlength : (featureIds input).length = input.weights_bps.keys.length :=
    sortStrings_length _
  obtain ⟨seed, hseed⟩ := bootstrapSeed_returns H input
  rw [bootstrapWidth, returns_bind_iff]
  simp only [hseed, Except.ok.injEq, exists_eq_left']
  by_cases hempty : featureIds input = []
  · rw [if_pos (by rw [hempty]; rfl)]
    exact iff_of_true (Returns.pure _) (.inl (hids.mp hempty))
  rw [if_neg (by simpa using hempty)]
  by_cases hfew : (confidence input).bootstrap_unit = some .edge_counterparty_attestation ∧
      (input.bootstrap_evidence_hashes.getD []).length < 3
  · rw [if_pos (by simpa [sortStrings_length] using hfew)]
    exact iff_of_true (Returns.pure _) (.inr (.inl hfew))
  rw [if_neg (by simpa [sortStrings_length] using hfew)]
  have hsampled : Returns ((List.range (bootstrapRounds input)).mapM (sampledScore H input seed
      (featureIds input) (sortStrings (input.bootstrap_evidence_hashes.getD [])))) ↔
      ∀ round < bootstrapRounds input, ∀ index < (featureIds input).length,
        sortStrings (input.bootstrap_evidence_hashes.getD []) ≠ [] ∧ round < 2 ^ 53 ∧
          index < 2 ^ 53 := by
    rw [mapM_returns_iff]
    simp only [List.mem_range, sampledScore_returns hd]
  have hpos : 0 < (featureIds input).length := List.length_pos_iff.mpr hempty
  have hrounds : bootstrapRounds input ≤ 256 := (clampedPasses _).2
  constructor
  · intro h
    obtain ⟨sampled, hs, -⟩ := returns_bind_iff.mp h
    have hall := hsampled.mp ⟨sampled, hs⟩
    refine .inr (.inr ?_)
    by_cases hzero : bootstrapRounds input = 0
    · exact .inl (bootstrapRounds_eq_zero.mp hzero)
    · have hround : 0 < bootstrapRounds input := Nat.pos_of_ne_zero hzero
      refine .inr ⟨hhashes.mp (hall 0 hround 0 hpos).1, ?_⟩
      rw [← hlength]
      by_contra hlong
      exact Nat.lt_irrefl _ (hall 0 hround (2 ^ 53) (by omega)).2.2
  · intro h
    have hall : ∀ round < bootstrapRounds input, ∀ index < (featureIds input).length,
        sortStrings (input.bootstrap_evidence_hashes.getD []) ≠ [] ∧ round < 2 ^ 53 ∧
          index < 2 ^ 53 := by
      intro round hround index hindex
      rcases h with hnone | hfew' | hnan | ⟨hevidence, hids'⟩
      · exact absurd (hids.mpr hnone) hempty
      · exact absurd hfew' hfew
      · rw [bootstrapRounds_eq_zero.mpr hnan] at hround
        cases hround
      · exact ⟨hhashes.mpr hevidence, by omega, by omega⟩
    obtain ⟨sampled, hs⟩ := hsampled.mpr hall
    exact Returns.bind ⟨sampled, hs⟩ fun _ _ => Returns.pure _

theorem confidenceWidth_returns (hd : Digest32 H.noble) :
    Returns (confidenceWidth H input) ↔
      (confidenceMethod input = .deterministic_bootstrap_v1 → Resamples input) := by
  rw [confidenceWidth]
  split
  · next hmethod =>
    rw [returns_bind_iff, forall_prop_of_true hmethod, ← bootstrapWidth_returns hd]
    exact ⟨fun ⟨width, h, _⟩ => ⟨width, h⟩, fun ⟨width, h⟩ => ⟨width, h, Returns.pure _⟩⟩
  · next hmethod =>
    exact iff_of_true (Returns.bind (Returns.pure _) fun _ _ => Returns.pure _)
      fun h => absurd h hmethod

end Bootstrap

section Assessment

variable {H : Host} {input : ReferenceScoreV0Input}

/-- The time at which the assessment expires is a date. -/
def ValidExpiry (H : Host) (input : ReferenceScoreV0Input) : Prop :=
  ∃ q, (parsedTime H input.issued_at +
    input.domain_policy.max_assessment_age_seconds * .ofNat 1000).value? = some q ∧
      |q| ≤ 8640000000000000

theorem expiryOf_returns : Returns (expiryOf H input) ↔ ValidExpiry H input := by
  rw [expiryOf, ValidExpiry, isoTime]
  cases (parsedTime H input.issued_at +
    input.domain_policy.max_assessment_age_seconds * .ofNat 1000).value? with
  | none =>
    refine iff_of_false ?_ ?_
    · rintro ⟨_, h⟩
      cases h
    · rintro ⟨_, h, -⟩
      cases h
  | some q =>
    simp only [Option.some.injEq, exists_eq_left']
    split
    · next hlarge =>
      refine iff_of_false ?_ (not_le.mpr hlarge)
      rintro ⟨_, h⟩
      cases h
    · next hsmall => exact iff_of_true (Returns.pure _) (not_lt.mp hsmall)

theorem failureAssessment_returns (H : Host) (input : ReferenceScoreV0Input) (e : RFC3339)
    (label : AssessmentLabelV2) (code : JsString) :
    Returns (failureAssessment H input e label code) :=
  Returns.bind ((canonicalHash_returns_iff H.noble).mpr ⟨trivial, trivial, trivial, trivial⟩)
    fun _ _ => Returns.pure _

theorem featureCommitment_returns : Returns (featureCommitment H input) ↔
    (input.feature_vector_commitment = none →
      Encodable (numberRecord input.normalized_features_bps)) := by
  rw [featureCommitment]
  cases input.feature_vector_commitment with
  | none => rw [forall_prop_of_true rfl, canonicalHash_returns_iff]
  | some commitment => exact iff_of_true (Returns.pure _) nofun

/-- An input that can be scored: its points rise, there is something to sample or nothing to do,
and what it commits to has a canonical form. -/
structure Scorable (input : ReferenceScoreV0Input) : Prop where
  points : calibrationMonotone (calibrationPoints input) = true
  samples : confidenceMethod input = .deterministic_bootstrap_v1 → Resamples input
  features : input.feature_vector_commitment = none →
    Encodable (numberRecord input.normalized_features_bps)
  coverage : Encodable (.obj input.evidence_coverage.toFields)

theorem scoredAssessment_returns (hd : Digest32 H.noble)
    (hmethod : confidenceMethod input ≠ .dev_heuristic_v0) (e : RFC3339) :
    Returns (scoredAssessment H input e) ↔ Scorable input := by
  have hallowed : methodAllowed H input = .ok () := by
    rw [methodAllowed, if_neg (by simp [hmethod])]
    rfl
  constructor
  · intro h
    obtain ⟨score, hscore, h⟩ := returns_bind_iff.mp h
    obtain ⟨-, -, h⟩ := returns_bind_iff.mp h
    obtain ⟨width, hwidth, h⟩ := returns_bind_iff.mp h
    obtain ⟨digest, -, h⟩ := returns_bind_iff.mp h
    obtain ⟨features, hfeatures, h⟩ := returns_bind_iff.mp h
    obtain ⟨coverage, hcoverage, -⟩ := returns_bind_iff.mp h
    exact
      { points := (referenceScore_ok hscore).1
        samples := (confidenceWidth_returns hd).mp ⟨width, hwidth⟩
        features := featureCommitment_returns.mp ⟨features, hfeatures⟩
        coverage := (canonicalHash_returns_iff H.noble).mp ⟨coverage, hcoverage⟩ }
  · intro h
    have hscore : referenceScore input =
        .ok (calibrate (calibrationPoints input) (rawScoreBps input)) := by
      rw [referenceScore, if_pos h.points]
      rfl
    have hle : calibrate (calibrationPoints input) (rawScoreBps input) ≤ 10000 :=
      calibrate_le (calibrationPoints_le input) (clampBps_le _)
    apply Returns.bind ⟨_, hscore⟩
    intro score hs
    cases hscore.symm.trans hs
    apply Returns.bind ⟨_, hallowed⟩
    intro _ _
    apply Returns.bind ((confidenceWidth_returns hd).mpr h.samples)
    intro width _
    have hid : Encodable (.obj [(js "subject", .str input.subject),
        (js "score_bps", .num (.ofNat (calibrate (calibrationPoints input) (rawScoreBps input)))),
        (js "at", .str input.issued_at)]) :=
      ⟨trivial, encodable_ofNat (by omega), trivial, trivial⟩
    apply Returns.bind ((canonicalHash_returns_iff H.noble).mpr hid)
    intro digest _
    apply Returns.bind (featureCommitment_returns.mpr h.features)
    intro features _
    exact Returns.bind ((canonicalHash_returns_iff H.noble).mpr h.coverage) fun _ _ =>
      Returns.pure _

/-- With passed gates and a method for production, a score is answered exactly when it expires at
a date and there is too little coverage for a score or the input can be scored. -/
theorem computeReferenceScoreV0_returns (hd : Digest32 H.noble)
    (hgates : failedGate input = none) (hmethod : confidenceMethod input ≠ .dev_heuristic_v0) :
    Returns (computeReferenceScoreV0 H input) ↔
      ValidExpiry H input ∧ (abstains input = true ∨ Scorable input) := by
  rw [computeReferenceScoreV0, returns_bind_iff, hgates, ← expiryOf_returns]
  dsimp only
  cases habstains : abstains input with
  | true =>
    simp only [if_true, true_or, and_true, failureAssessment_returns]
    rfl
  | false =>
    simp only [Bool.false_eq_true, if_false, false_or, scoredAssessment_returns hd hmethod,
      exists_and_right]
    rfl

/-- What the claim of an answer asks of an input. -/
structure AdmittedScore (input : ReferenceScoreV0Input) : Prop where
  gates : failedGate input = none
  features : ∀ entry ∈ input.normalized_features_bps.entries, entry.2.toInt?.isSome = true
  weights : ∀ entry ∈ input.weights_bps.entries, entry.2.toInt?.isSome = true
  calibration : (input.calibration_points.getD []).Pairwise fun a b =>
    a.raw_bps.lt b.raw_bps = true ∧ a.calibrated_bps.le b.calibrated_bps = true
  method : confidenceMethod input ≠ .dev_heuristic_v0

/-- The hash function on the messages that a score of 9000 is hashed with. -/
def scoreNoble : Noble :=
  recorded [(valueBytes (.obj [(js "subject", .str (js "did:tsl:alice")),
      (js "score_bps", .num (.ofNat 9000)), (js "at", .str (js "2026-05-25T00:00:00Z"))]),
      bigEndian 32 0xac9c61cc87cbe312672ae4d4ac7c5333ff8426b3035314cb7743058cf5853b3e),
    (valueBytes (.obj [(js "trust", .num (.ofNat 10000))]),
      bigEndian 32 0xf7b771c89df6a29d7d0270e6981b0e5d69457b6e48737910aa3a4a7b83c185c5),
    (valueBytes (.obj (oneFeature 10000 10000).evidence_coverage.toFields),
      bigEndian 32 0xf0a2e860ce808778a993ff0fb2434b0e650d2a66b87399c78b1b458f8f3071a6),
    (valueBytes (.obj [(js "subject", .str (js "did:tsl:alice")),
      (js "issued_at", .str (js "2026-05-25T00:00:00Z")),
      (js "scoring_profile_id", .str (js "reference-rc4"))]),
      bigEndian 32 0x2652ba61e1a88f2087424cbb673e708f560758d68204d25a05673c38c5ec42a6)]
    [] fun _ => List.replicate 32 0

theorem computeReferenceScoreV0_returns_sample :
    Digest32 scoreNoble ∧ failedGate (oneFeature 10000 9000) = none ∧
      confidenceMethod (oneFeature 10000 9000) ≠ .dev_heuristic_v0 ∧
      Returns (computeReferenceScoreV0 (sampleHost scoreNoble) (oneFeature 10000 9000)) := by
  have hd : Digest32 scoreNoble := recorded_digest32 (by decide) fun _ => rfl
  have hgates : failedGate (oneFeature 10000 9000) = none := by decide
  have hmethod : confidenceMethod (oneFeature 10000 9000) ≠ .dev_heuristic_v0 := by decide
  refine ⟨hd, hgates, hmethod, ?_⟩
  rw [computeReferenceScoreV0_returns (H := sampleHost scoreNoble) hd hgates hmethod]
  refine ⟨⟨1779670800000, by decide +kernel, by norm_num⟩, .inr ?_⟩
  exact
    { points := rfl
      samples := nofun
      features := fun _ => ⟨encodable_ofNat (by norm_num), trivial⟩
      coverage := ⟨encodable_ofNat (by norm_num), encodable_ofNat (by norm_num),
        encodable_ofNat (by norm_num), encodable_ofNat (by norm_num), trivial⟩ }

/-- Without a confidence profile and without evidence hashes the bootstrap asks for the canonical
form of an object with a field that is undefined. -/
def defaultScore : ReferenceScoreV0Input :=
  { oneFeature 10000 9000 with confidence_profile := none }

theorem defaultScore_throws :
    AdmittedScore defaultScore ∧
      (match computeReferenceScoreV0 (sampleHost scoreNoble) defaultScore with
        | .error e => e == "TSL canonicalization rejects undefined field: evidenceMaterial"
        | .ok _ => false) = true :=
  ⟨⟨by decide, by decide, by decide, .nil, by decide⟩, by decide +kernel⟩

end Assessment

end Continuity

import Continuity.AdverseLabel
import Continuity.Rounding

namespace Continuity
open Collections
set_option autoImplicit true

section Clamping

open JsNumber

theorem clampBps_fin_mono {p q : ℚ} (h : p ≤ q) : clampBps (.fin p) ≤ clampBps (.fin q) := by
  have hfloor : p.floor.toNat ≤ q.floor.toNat := Int.toNat_le_toNat (Int.floor_le_floor h)
  exact min_le_min_left 10000 hfloor

theorem clampBps_of_neg {x : JsNumber} (h : x.value? = some r) (hr : r ≤ 0) : clampBps x = 0 := by
  cases x with
  | fin q =>
    obtain rfl : q = r := Option.some.inj h
    exact Nat.le_zero.mp (clampBps_fin_mono hr)
  | negZero => rfl
  | nan => rfl
  | posInf => rfl
  | negInf => rfl

/-- Rounding and clamping keep the order as long as nothing rounds to infinity. -/
theorem clampBps_rounded_mono {p q : ℚ} (h : p ≤ q) (hp : |p| ≤ 2 ^ e) (hq : q ≤ 2 ^ e)
    (he : e < 1024) : clampBps (rounded p) ≤ clampBps (rounded q) := by
  by_cases hneg : p < 0
  · have hvalue := nearest_value (decide (p < 0)) (abs_nonneg p) hp he
    rw [if_pos (by simpa using hneg)] at hvalue
    have hzero : clampBps (rounded p) = 0 :=
      clampBps_of_neg hvalue (by simpa using toGrid_nonneg (abs_nonneg p))
    omega
  · have hp0 : 0 ≤ p := not_lt.mp hneg
    have hq0 : 0 ≤ q := hp0.trans h
    have hround : ∀ {r : ℚ}, 0 ≤ r → r ≤ 2 ^ e → rounded r = .fin (toGrid r) := by
      intro r hr hle
      rw [rounded, decide_eq_false (not_lt.mpr hr), abs_of_nonneg hr]
      exact nearest_of_lt ((toGrid_le_pow hr hle).trans_lt (pow_lt_pow_right₀ (by norm_num) he))
    rw [hround hp0 (h.trans hq), hround hq0 hq]
    exact clampBps_fin_mono (toGrid_mono hp0 h)

theorem clampBps_add {a b : JsNumber} (ha : a.value? = some x) (hb : b.value? = some y) :
    clampBps (a + b) = clampBps (rounded (x + y)) := by
  rcases add_eq ha hb with ⟨rfl, rfl, hsum⟩ | hsum
  · cases ha
    cases hb
    have hzero : rounded (0 + 0) = .ofInt 0 := by
      rw [add_zero]
      exact rounded_intCast (z := 0) (by decide)
    rw [hsum, hzero]
    rfl
  · rw [hsum]

/-- A larger score less the same penalty is no smaller. -/
theorem clampBps_sub_mono {a b penalty : JsNumber} (hpenalty : penalty.Bounded e)
    (ha : a.value? = some x) (hb : b.value? = some y) (hx : 0 ≤ x) (hxy : x ≤ y) (hy : y ≤ 2 ^ e)
    (he : e + 1 < 1024) : clampBps (a - penalty) ≤ clampBps (b - penalty) := by
  obtain ⟨z, hz, hzb⟩ := hpenalty
  have hneg : (-penalty).value? = some (-z) := value?_neg hz
  have hsub : ∀ {c : JsNumber}, c - penalty = c + -penalty := rfl
  obtain ⟨hlow, hhigh⟩ := abs_le.mp hzb
  have hpow : (2 : ℚ) ^ (e + 1) = 2 ^ e + 2 ^ e := by ring
  rw [hsub, hsub, clampBps_add ha hneg, clampBps_add hb hneg]
  apply clampBps_rounded_mono (by linarith) _ _ he
  · rw [abs_le, hpow]
    constructor <;> linarith
  · rw [hpow]
    linarith

/-- Beyond this sum a loop over basis points stops growing: they are less than half the distance
to the next double. -/
theorem toGrid_limit : toGrid (2 ^ 68 + 10000) ≤ 2 ^ 68 := by
  have hlog : Int.log 2 (2 ^ 68 + 10000 : ℚ) = 68 := by
    have hcast : (2 ^ 68 + 10000 : ℚ) = ((2 ^ 68 + 10000 : Nat) : ℚ) := by norm_num
    have hnat : Nat.log 2 (2 ^ 68 + 10000) = 68 :=
      Nat.log_eq_of_pow_le_of_lt_pow (by norm_num) (by norm_num)
    rw [hcast, Int.log_natCast, hnat]
    rfl
  have hunit : unitOf (2 ^ 68 + 10000) = 2 ^ 16 := by
    rw [unitOf, hlog]
    norm_num
  have hround : roundHalfEven ((2 ^ 68 + 10000) / 2 ^ 16) ≤ 2 ^ 52 := by
    have hle : ((2 ^ 68 + 10000) / 2 ^ 16 : ℚ) ≤ 2 ^ 52 + 1 / 4 := by norm_num
    have hfloor : (2 ^ 52 + 1 / 4 : ℚ).floor = 2 ^ 52 := by
      change ⌊(2 ^ 52 + 1 / 4 : ℚ)⌋ = 2 ^ 52
      rw [Int.floor_eq_iff]
      norm_num
    refine (roundHalfEven_mono hle).trans ?_
    rw [roundHalfEven, hfloor]
    norm_num
  rw [toGrid, hunit]
  have hcast : (roundHalfEven ((2 ^ 68 + 10000) / 2 ^ 16) : ℚ) ≤ 2 ^ 52 := by exact_mod_cast hround
  linarith

theorem add_basisPoints {x y : ℚ} (hx : 0 ≤ x) (hxy : x ≤ y) (hy : y ≤ 2 ^ 68) (hn : n ≤ m)
    (hm : m ≤ 10000) : ∃ x' y', JsNumber.fin x + .ofNat n = .fin x' ∧
      JsNumber.fin y + .ofNat m = .fin y' ∧ 0 ≤ x' ∧ x' ≤ y' ∧ y' ≤ 2 ^ 68 := by
  have hadd : ∀ {z : ℚ} {k : Nat}, 0 ≤ z → z ≤ 2 ^ 68 → k ≤ 10000 →
      JsNumber.fin z + .ofNat k = .fin (toGrid (z + k)) ∧ toGrid (z + k) ≤ 2 ^ 68 := by
    intro z k hz hle hk
    have hk' : (k : ℚ) ≤ 10000 := by exact_mod_cast hk
    have hsum : (0 : ℚ) ≤ z + k := add_nonneg hz (Nat.cast_nonneg k)
    have hlimit : toGrid (z + k) ≤ 2 ^ 68 :=
      (toGrid_mono hsum (by linarith)).trans toGrid_limit
    refine ⟨?_, hlimit⟩
    change rounded (z + k) = _
    rw [rounded, decide_eq_false (not_lt.mpr hsum), abs_of_nonneg hsum]
    exact nearest_of_lt (hlimit.trans_lt (pow_lt_pow_right₀ (by norm_num) (by norm_num)))
  have hnm : (n : ℚ) ≤ m := by exact_mod_cast hn
  have hsum : (0 : ℚ) ≤ x + n := add_nonneg hx (Nat.cast_nonneg n)
  obtain ⟨hxn, -⟩ := hadd hx (hxy.trans hy) (hn.trans hm)
  obtain ⟨hym, hlimit⟩ := hadd (hx.trans hxy) hy hm
  exact ⟨_, _, hxn, hym, toGrid_nonneg hsum, toGrid_mono hsum (by linarith), hlimit⟩

/-- A loop over larger basis points ends with a sum that is no smaller. -/
theorem foldl_basisPoints {f g : JsString → Nat} (hfg : ∀ id, f id ≤ g id)
    (hg : ∀ id, g id ≤ 10000) (ids : List JsString) {x y : ℚ} (hx : 0 ≤ x) (hxy : x ≤ y)
    (hy : y ≤ 2 ^ 68) : ∃ x' y',
      ids.foldl (fun score id => score + JsNumber.ofNat (f id)) (.fin x) = .fin x' ∧
      ids.foldl (fun score id => score + JsNumber.ofNat (g id)) (.fin y) = .fin y' ∧
      0 ≤ x' ∧ x' ≤ y' ∧ y' ≤ 2 ^ 68 := by
  induction ids generalizing x y with
  | nil => exact ⟨x, y, rfl, rfl, hx, hxy, hy⟩
  | cons id ids ih =>
    obtain ⟨x', y', hx', hy', hpos, hle, hlimit⟩ := add_basisPoints hx hxy hy (hfg id) (hg id)
    rw [List.foldl_cons, List.foldl_cons, hx', hy']
    exact ih hpos hle hlimit

end Clamping

section Calibration

variable {left right : Nat × Nat} {rest points : List (Nat × Nat)} {raw raw' : Nat}

theorem calibrationMonotone_cons (h : calibrationMonotone (left :: right :: rest) = true) :
    left.1 < right.1 ∧ left.2 ≤ right.2 ∧ calibrationMonotone (right :: rest) = true := by
  rw [calibrationMonotone, Bool.and_eq_true, decide_eq_true_eq] at h
  exact ⟨h.1.1, h.1.2, h.2⟩

theorem calibrationMonotone_lt (h : calibrationMonotone (left :: rest) = true) :
    ∀ point ∈ rest, left.1 < point.1 := by
  induction rest generalizing left with
  | nil => nofun
  | cons right rest ih =>
    obtain ⟨hlt, -, hrest⟩ := calibrationMonotone_cons h
    intro point hp
    rcases List.mem_cons.mp hp with rfl | hp
    · exact hlt
    · exact hlt.trans (ih hrest point hp)

/-- The rise over a part of a segment is part of the rise over the segment. -/
theorem segment_le (hraw : raw ≤ right.1) :
    (raw - left.1) * (right.2 - left.2) / max 1 (right.1 - left.1) ≤ right.2 - left.2 := by
  apply Nat.div_le_of_le_mul
  apply Nat.mul_le_mul_right
  omega

theorem interpolate_ge (h : calibrationMonotone (left :: rest) = true)
    (hpoints : ∀ point ∈ left :: rest, point.2 ≤ 10000) (raw : Nat) :
    left.2 ≤ interpolate raw (left :: rest) := by
  induction rest generalizing left with
  | nil => exact le_rfl
  | cons right rest ih =>
    obtain ⟨-, hle, hrest⟩ := calibrationMonotone_cons h
    have hleft := hpoints left List.mem_cons_self
    rw [interpolate]
    split
    · exact le_min hleft (Nat.le_add_right _ _)
    · exact hle.trans (ih hrest fun point hp => hpoints point (List.mem_cons_of_mem left hp))

theorem interpolate_mono (h : calibrationMonotone (left :: rest) = true)
    (hpoints : ∀ point ∈ left :: rest, point.2 ≤ 10000) (hraw : raw ≤ raw') :
    interpolate raw (left :: rest) ≤ interpolate raw' (left :: rest) := by
  induction rest generalizing left with
  | nil => exact le_rfl
  | cons right rest ih =>
    obtain ⟨-, hle, hrest⟩ := calibrationMonotone_cons h
    have hpoints' : ∀ point ∈ right :: rest, point.2 ≤ 10000 := fun point hp =>
      hpoints point (List.mem_cons_of_mem left hp)
    rw [interpolate, interpolate]
    by_cases hright : raw ≤ right.1
    · rw [if_pos hright]
      by_cases hright' : raw' ≤ right.1
      · rw [if_pos hright']
        apply min_le_min_left
        apply Nat.add_le_add_left
        apply Nat.div_le_div_right
        exact Nat.mul_le_mul_right _ (by omega)
      · -- the next segment starts where this one ends
        rw [if_neg hright']
        have hseg : (raw - left.1) * (right.2 - left.2) / max 1 (right.1 - left.1) ≤
            right.2 - left.2 := segment_le hright
        have hnext := interpolate_ge hrest hpoints' raw'
        omega
    · rw [if_neg hright, if_neg fun hle => hright (hraw.trans hle)]
      exact ih hrest hpoints'

theorem interpolate_at (h : calibrationMonotone (left :: rest) = true)
    (hpoints : ∀ point ∈ left :: rest, point.2 ≤ 10000) (hp : point ∈ rest) :
    interpolate point.1 (left :: rest) = point.2 := by
  induction rest generalizing left with
  | nil => cases hp
  | cons right rest ih =>
    obtain ⟨hlt, hle, hrest⟩ := calibrationMonotone_cons h
    rw [interpolate]
    rcases List.mem_cons.mp hp with rfl | hp
    · have hbound := hpoints point (List.mem_cons_of_mem left List.mem_cons_self)
      have hspan : max 1 (point.1 - left.1) = point.1 - left.1 := by omega
      rw [if_pos le_rfl, hspan, Nat.mul_div_cancel_left _ (by omega)]
      omega
    · have hbeyond := calibrationMonotone_lt hrest point hp
      rw [if_neg (by omega)]
      exact ih hrest (fun point hp => hpoints point (List.mem_cons_of_mem left hp)) hp

theorem calibrate_mono (h : calibrationMonotone points = true)
    (hpoints : ∀ point ∈ points, point.2 ≤ 10000) (hraw : raw ≤ raw') :
    calibrate points raw ≤ calibrate points raw' := by
  cases points with
  | nil => exact hraw
  | cons first rest =>
    rw [calibrate, calibrate]
    by_cases hfirst : raw ≤ first.1
    · rw [if_pos hfirst]
      split
      · exact le_rfl
      · exact interpolate_ge h hpoints raw'
    · rw [if_neg hfirst, if_neg fun hle => hfirst (hraw.trans hle)]
      exact interpolate_mono h hpoints hraw

theorem calibrate_at (h : calibrationMonotone points = true)
    (hpoints : ∀ point ∈ points, point.2 ≤ 10000) (hp : point ∈ points) :
    calibrate points point.1 = point.2 := by
  cases points with
  | nil => cases hp
  | cons first rest =>
    rw [calibrate]
    rcases List.mem_cons.mp hp with rfl | hp
    · rw [if_pos le_rfl]
    · have hbeyond := calibrationMonotone_lt h point hp
      rw [if_neg (by omega)]
      exact interpolate_at h hpoints hp

theorem interpolate_le (hpoints : ∀ point ∈ left :: rest, point.2 ≤ 10000) (raw : Nat) :
    interpolate raw (left :: rest) ≤ 10000 := by
  induction rest generalizing left with
  | nil => exact hpoints left List.mem_cons_self
  | cons right rest ih =>
    rw [interpolate]
    split
    · exact min_le_left _ _
    · exact ih fun point hp => hpoints point (List.mem_cons_of_mem left hp)

theorem calibrate_le (hpoints : ∀ point ∈ points, point.2 ≤ 10000) (hraw : raw ≤ 10000) :
    calibrate points raw ≤ 10000 := by
  cases points with
  | nil => exact hraw
  | cons first rest =>
    rw [calibrate]
    split
    · exact hpoints first List.mem_cons_self
    · exact interpolate_le hpoints raw

end Calibration

section Score

variable {H : Host} {input : ReferenceScoreV0Input}

/-- Features of which some have a larger whole value. -/
def RaisesFeatures (old new : OrderedMap JsString JsNumber) : Prop :=
  ∀ id, new.get? id = old.get? id ∨ ∃ a b x y, old.get? id = some a ∧ new.get? id = some b ∧
    a.toInt? = some x ∧ b.toInt? = some y ∧ x ≤ y

theorem clampBps_toInt {a : JsNumber} (h : a.toInt? = some x) : clampBps a = min 10000 x.toNat := by
  cases a with
  | fin q =>
    rw [JsNumber.toInt?] at h
    split at h
    · next hden =>
      cases h
      have hq : q.floor = q.num := by
        rw [← Rat.coe_int_num_of_den_eq_one hden]
        exact Rat.floor_intCast q.num
      rw [clampBps, hq]
    · cases h
  | negZero => cases h; rfl
  | nan => cases h
  | posInf => cases h
  | negInf => cases h

theorem RaisesFeatures.weighted (h : RaisesFeatures input.normalized_features_bps features)
    (id : JsString) :
    weightedFeature input id ≤ weightedFeature { input with normalized_features_bps := features } id := by
  have hfeature : clampBps ((input.normalized_features_bps.get? id).getD (.ofNat 0)) ≤
      clampBps ((features.get? id).getD (.ofNat 0)) := by
    rcases h id with hsame | ⟨a, b, x, y, ha, hb, hx, hy, hxy⟩
    · rw [hsame]
    · rw [ha, hb, Option.getD_some, Option.getD_some, clampBps_toInt hx, clampBps_toInt hy]
      exact min_le_min_left 10000 (Int.toNat_le_toNat hxy)
  exact Nat.div_le_div_right (Nat.mul_le_mul_right _ hfeature)

theorem weightedFeature_le (input : ReferenceScoreV0Input) (id : JsString) :
    weightedFeature input id ≤ 10000 := by
  apply Nat.div_le_of_le_mul
  exact Nat.mul_le_mul (clampBps_le _) (clampBps_le _)

/-- What the canonical form takes for a coverage bounds the penalty. -/
theorem coveragePenalty_bounded (h : Encodable (.obj input.evidence_coverage.toFields)) :
    (coveragePenalty input).Bounded 68 := by
  obtain ⟨hnum, -⟩ : Encodable (.num input.evidence_coverage.coverage_bps) ∧
    EncodableFields input.evidence_coverage.others.entries := h
  obtain ⟨z, hz⟩ := JsNumber.eq_ofInt hnum.1 hnum.2
  have hsafe : z.natAbs < 2 ^ 53 := by
    have hs := hnum.1
    rw [hz, JsNumber.isSafeInteger, JsNumber.toInt?_ofInt] at hs
    simpa using hs
  have hcoverage : input.evidence_coverage.coverage_bps.Bounded 53 := by
    rw [hz]
    exact JsNumber.bounded_ofInt hsafe.le
  have hfull : (JsNumber.ofNat 10000).Bounded 53 := JsNumber.bounded_ofInt (z := 10000) (by norm_num)
  have hweight : (JsNumber.ofNat (clampBps
      (input.coverage_penalty_weight_bps.getD (.ofNat 1000)))).Bounded 14 := by
    apply JsNumber.bounded_ofInt (z := (clampBps
      (input.coverage_penalty_weight_bps.getD (.ofNat 1000)) : Int))
    have hle := clampBps_le (input.coverage_penalty_weight_bps.getD (.ofNat 1000))
    rw [Int.natAbs_natCast]
    omega
  have hmissing := hfull.sub hcoverage (by norm_num)
  have hproduct := hmissing.mul hweight (by norm_num)
  exact (hproduct.div_ofNat (by norm_num) (by norm_num)).floor

theorem RaisesFeatures.raw (h : RaisesFeatures input.normalized_features_bps features)
    (hc : Encodable (.obj input.evidence_coverage.toFields)) :
    rawScoreBps input ≤ rawScoreBps { input with normalized_features_bps := features } := by
  obtain ⟨x, y, hx, hy, hpos, hxy, hlimit⟩ := foldl_basisPoints h.weighted
    (weightedFeature_le { input with normalized_features_bps := features }) (featureIds input)
    (show (0 : ℚ) ≤ ((0 : Nat) : ℚ) from Nat.cast_nonneg 0) le_rfl (by norm_num)
  have hold : weightedScore input = .fin x := hx
  have hnew : weightedScore { input with normalized_features_bps := features } = .fin y := hy
  exact clampBps_sub_mono (coveragePenalty_bounded hc) (by rw [hold]; rfl) (by rw [hnew]; rfl)
    hpos hxy hlimit (by norm_num)

theorem failureAssessment_score (h : failureAssessment H input e label code = .ok R) :
    R.score_bps = none := by
  obtain ⟨digest, -, h⟩ := bind_eq_ok.mp h
  cases h
  rfl

/-- What a result with a score says. -/
theorem computeReferenceScoreV0_scored (h : computeReferenceScoreV0 H input = .ok R)
    (hs : R.score_bps = some score) :
    referenceScore input = .ok score ∧ Encodable (.obj input.evidence_coverage.toFields) ∧
      ∃ width, R.confidence_interval_bps = some (score - width, min 10000 (score + width)) := by
  have hfailed : ∀ {e label code}, failureAssessment H input e label code ≠ .ok R := by
    intro e label code hf
    rw [failureAssessment_score hf] at hs
    cases hs
  obtain ⟨e, -, h⟩ := bind_eq_ok.mp h
  split at h
  · exact absurd h hfailed
  · split at h
    · exact absurd h hfailed
    · obtain ⟨score', hscore, h⟩ := bind_eq_ok.mp h
      obtain ⟨-, -, h⟩ := bind_eq_ok.mp h
      obtain ⟨width, -, h⟩ := bind_eq_ok.mp h
      obtain ⟨digest, -, h⟩ := bind_eq_ok.mp h
      obtain ⟨features, -, h⟩ := bind_eq_ok.mp h
      obtain ⟨coverage, hcoverage, h⟩ := bind_eq_ok.mp h
      obtain ⟨bytes, hbytes, -⟩ := bind_eq_ok.mp hcoverage
      cases h
      cases hs
      exact ⟨hscore, canonicalBytes_encodable hbytes, width, rfl⟩

theorem referenceScore_ok (h : referenceScore input = .ok score) :
    calibrationMonotone (calibrationPoints input) = true ∧
      score = calibrate (calibrationPoints input) (rawScoreBps input) := by
  rw [referenceScore] at h
  split at h
  · next hm =>
    cases h
    exact ⟨hm, rfl⟩
  · cases h

theorem calibrationPoints_le (input : ReferenceScoreV0Input) :
    ∀ point ∈ calibrationPoints input, point.2 ≤ 10000 := by
  intro point hp
  obtain ⟨stated, -, rfl⟩ := List.mem_map.mp ((List.mem_insertionSort _).mp hp)
  exact clampBps_le _

/-- Larger features give no smaller score; an accepted calibration rises and passes through its
points; and score and interval stay within the basis points, the score within the interval. -/
theorem computeReferenceScoreV0_monotone (H : Host) (input : ReferenceScoreV0Input) :
    (∀ features R R' score score',
      RaisesFeatures input.normalized_features_bps features →
      computeReferenceScoreV0 H input = .ok R → R.score_bps = some score →
      computeReferenceScoreV0 H { input with normalized_features_bps := features } = .ok R' →
      R'.score_bps = some score' → score ≤ score') ∧
    ((∃ score, referenceScore input = .ok score) →
      (∀ raw raw', raw ≤ raw' →
        calibrate (calibrationPoints input) raw ≤ calibrate (calibrationPoints input) raw') ∧
      ∀ point ∈ input.calibration_points.getD [],
        calibrate (calibrationPoints input) (clampBps point.raw_bps) =
          clampBps point.calibrated_bps) ∧
    ∀ R score, computeReferenceScoreV0 H input = .ok R → R.score_bps = some score →
      score ≤ 10000 ∧ ∃ low high, R.confidence_interval_bps = some (low, high) ∧
        low ≤ score ∧ score ≤ high ∧ high ≤ 10000 := by
  refine ⟨?_, ?_, ?_⟩
  · intro features R R' score score' hraised hR hs hR' hs'
    obtain ⟨hscore, hcoverage, -⟩ := computeReferenceScoreV0_scored hR hs
    obtain ⟨hscore', -, -⟩ := computeReferenceScoreV0_scored hR' hs'
    obtain ⟨hmonotone, rfl⟩ := referenceScore_ok hscore
    obtain ⟨-, rfl⟩ := referenceScore_ok hscore'
    exact calibrate_mono hmonotone (calibrationPoints_le input) (hraised.raw hcoverage)
  · rintro ⟨score, hscore⟩
    obtain ⟨hmonotone, -⟩ := referenceScore_ok hscore
    refine ⟨fun raw raw' hraw => calibrate_mono hmonotone (calibrationPoints_le input) hraw, ?_⟩
    intro point hp
    exact calibrate_at hmonotone (calibrationPoints_le input)
      ((List.mem_insertionSort _).mpr (List.mem_map_of_mem hp))
  · intro R score hR hs
    obtain ⟨hscore, -, width, hinterval⟩ := computeReferenceScoreV0_scored hR hs
    have hle : score ≤ 10000 := by
      obtain ⟨-, rfl⟩ := referenceScore_ok hscore
      exact calibrate_le (calibrationPoints_le input) (clampBps_le _)
    exact ⟨hle, _, _, hinterval, Nat.sub_le _ _, le_min hle (Nat.le_add_right _ _),
      min_le_left _ _⟩

end Score

end Continuity

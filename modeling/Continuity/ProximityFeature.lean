import Continuity.CalibratedScore
import Continuity.ReferenceFeatures

namespace Continuity
set_option autoImplicit true

section Steps

open JsNumber

/-- The number is finite and at least so many basis points. -/
def AtLeastBps (a : JsNumber) (step : Nat) : Prop := ∃ q, a.value? = some q ∧ (step : ℚ) ≤ q

end Steps

section Proximity

variable (E : Engine) (input other : ReferenceFeatureVectorV0Input)

def graphNumber (name : String) : Option JsNumber :=
  numberOf ((input.graph_feature_vector.map GraphFeatureVectorV1.toFields).getD []) name

def seedContamination : Option JsNumber :=
  numberOf ((input.sybil_assessment.map SybilAssessmentV1.toFields).getD [])
    "seed_contamination_bps"

/-- What a distance is turned into before it is rounded down and clamped. -/
def closeness (distance : JsNumber) : JsNumber :=
  E.math.exp (-(E.math.pow ((.ofNat 10000 - distance) / .ofNat 10000) (.ofNat 2))) * .ofNat 10000

/-- The other input has a seed closer by the number that the feature is derived from. -/
inductive Closer : Prop where
  | distance (d d' : Nat)
      (hd : graphNumber input "adversarial_seed_distance_bps" = some (.ofNat d))
      (hd' : graphNumber other "adversarial_seed_distance_bps" = some (.ofNat d')) (hle : d ≤ d')
  | proximity (p p' : Nat)
      (hd : graphNumber input "adversarial_seed_distance_bps" = none)
      (hd' : graphNumber other "adversarial_seed_distance_bps" = none)
      (hp : graphNumber input "adversarial_proximity_bps" = some (.ofNat p))
      (hp' : graphNumber other "adversarial_proximity_bps" = some (.ofNat p')) (hle : p ≤ p')
  | contamination (c c' : Nat)
      (hd : graphNumber input "adversarial_seed_distance_bps" = none)
      (hd' : graphNumber other "adversarial_seed_distance_bps" = none)
      (hp : graphNumber input "adversarial_proximity_bps" = none)
      (hp' : graphNumber other "adversarial_proximity_bps" = none)
      (hc : seedContamination input = some (.ofNat c))
      (hc' : seedContamination other = some (.ofNat c')) (hle : c ≤ c')

/-- Every basis point that the other distance comes to, the first one comes to already. -/
def ReachedBefore : Prop :=
  ∀ d d', graphNumber input "adversarial_seed_distance_bps" = some d →
    graphNumber other "adversarial_seed_distance_bps" = some d' →
    ∀ step, 0 < step → step ≤ 10000 → AtLeastBps (closeness E d') step →
      AtLeastBps (closeness E d) step

variable {E input other}

/-- On numbers up to zero `exp` has values between zero and one that never fall; squares of numbers
between zero and one never fall either. -/
structure IncreasingMath (math : JsMath) (exp square : ℚ → ℚ) : Prop where
  exp_le : ∀ p q, p ≤ q → exp p ≤ exp q
  exp_bounds : ∀ p ≤ 0, 0 ≤ exp p ∧ exp p ≤ 1
  exp_value : ∀ a p, a.value? = some p → p ≤ 0 → (math.exp a).value? = some (exp p)
  square_le : ∀ p q, 0 ≤ p → p ≤ q → q ≤ 1 → square p ≤ square q
  square_nonneg : ∀ p, 0 ≤ square p
  square_value : ∀ a p, a.value? = some p → 0 ≤ p → p ≤ 1 →
    (math.pow a (.ofNat 2)).value? = some (square p)

open JsNumber

/-- The share of ten thousand that is left of a distance. -/
def remaining (d : Nat) : ℚ := signedGrid (((10000 - d : Int) : ℚ) / (10000 : Nat))

/-- A vector with one number besides its own fields. -/
def vectorWith (name : String) (value : Nat) (hname : js name ∉ [js "subject", js "computed_at",
    js "community_algorithm_id", js "privacy_disclosure_level", js "signature"]) :
    GraphFeatureVectorV1 where
  subject := js "did:tsl:alice"
  computed_at := js "2026-05-25T00:00:00Z"
  community_algorithm_id := none
  privacy_disclosure_level := .aggregate_only
  signature := js "0x00"
  others :=
    { entries := [(js name, .num (.ofNat value))]
      nodup := List.nodup_singleton _
      fresh := by simpa using hname }

def proximityInput (vector : GraphFeatureVectorV1) : ReferenceFeatureVectorV0Input :=
  { receiptsInput [] with graph_feature_vector := some vector }

/-- The line through the values of `exp` at minus one and at zero, and the square. -/
def lineMath : JsMath where
  pow x _ := x * x
  exp x :=
    match x.value? with
    | some p => .fin (1 + p * (1 - 36787944117144233 / 100000000000000000))
    | none => .nan
  log _ := .ofNat 0

def lineEngine : Engine := { sampleEngine vouchingNoble with math := lineMath }

end Proximity

end Continuity

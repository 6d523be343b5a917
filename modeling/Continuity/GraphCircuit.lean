import Continuity.PoseidonTrees

namespace Continuity
open HashTree
set_option autoImplicit true

structure PrivateGraphDistanceProduction (width : Nat) where
  subject_hash : Signal
  threshold_distance_bps : Signal
  committed_local_neighborhood_root : Signal
  trusted_seed_commitment : Signal
  adversarial_seed_commitment : Signal
  aggregate_proof_commitment : Signal
  local_edge_weights_bps : Fin width → Signal
  trusted_seed_scores_bps : Fin width → Signal
  adversarial_seed_scores_bps : Fin width → Signal
  local_edge_valid : Fin width → Signal
  trusted_mass : Fin (width + 1) → Signal
  adversarial_mass : Fin (width + 1) → Signal
  total_mass : Fin (width + 1) → Signal
  valid_weight : Fin width → Signal
  trusted_weighted : Fin width → Signal
  adversarial_weighted : Fin width → Signal
  distance_numerator : Signal
  threshold : RangeAtLeast
  aggregate_hash : Signal

namespace PrivateGraphDistanceProduction

variable (lib : Circomlib) (s : PrivateGraphDistanceProduction width)

structure Constraints : Prop where
  trusted_first : s.trusted_mass 0 = 0
  adversarial_first : s.adversarial_mass 0 = 0
  total_first : s.total_mass 0 = 0
  valid_bit : ∀ i, AssertBit (s.local_edge_valid i)
  valid_weight : ∀ i, s.valid_weight i = s.local_edge_valid i * s.local_edge_weights_bps i
  trusted_weighted : ∀ i, s.trusted_weighted i = s.valid_weight i * s.trusted_seed_scores_bps i
  adversarial_weighted : ∀ i,
    s.adversarial_weighted i = s.valid_weight i * s.adversarial_seed_scores_bps i
  trusted_next : ∀ i, s.trusted_mass i.succ = s.trusted_mass i.castSucc + s.trusted_weighted i
  adversarial_next : ∀ i,
    s.adversarial_mass i.succ = s.adversarial_mass i.castSucc + s.adversarial_weighted i
  total_next : ∀ i, s.total_mass i.succ = s.total_mass i.castSucc + s.valid_weight i * 10000
  distance_numerator : s.distance_numerator = s.trusted_mass (Fin.last width) +
    (s.total_mass (Fin.last width) - s.adversarial_mass (Fin.last width))
  threshold_value : s.threshold.value = s.distance_numerator
  threshold_threshold : s.threshold.threshold = s.threshold_distance_bps * 10000
  threshold : s.threshold.Constraints lib 64
  aggregate_hash : s.aggregate_hash = lib.poseidon
    [s.subject_hash, s.committed_local_neighborhood_root, s.trusted_seed_commitment,
      s.adversarial_seed_commitment, s.distance_numerator]
  aggregate : s.aggregate_hash = s.aggregate_proof_commitment

/-- The inputs of the only hash that the circuit computes. -/
def aggregateInputs : List Signal :=
  [s.subject_hash, s.committed_local_neighborhood_root, s.trusted_seed_commitment,
    s.adversarial_seed_commitment, s.distance_numerator]

/-- The public signals of the neighborhood and its seeds are the same. -/
structure SameNeighborhood (s t : PrivateGraphDistanceProduction width) : Prop where
  subject_hash : s.subject_hash = t.subject_hash
  root : s.committed_local_neighborhood_root = t.committed_local_neighborhood_root
  trusted : s.trusted_seed_commitment = t.trusted_seed_commitment
  adversarial : s.adversarial_seed_commitment = t.adversarial_seed_commitment

variable {lib s} {t : PrivateGraphDistanceProduction width}

theorem Constraints.commitment (h : s.Constraints lib) :
    s.aggregate_proof_commitment = (poseidonScheme lib).hash s.aggregateInputs := by
  rw [← h.aggregate, h.aggregate_hash]
  rfl

/-- The distance is as good as the commitment to it. -/
theorem SameNeighborhood.distance_iff (h : s.SameNeighborhood t) (hs : s.Constraints lib)
    (ht : t.Constraints lib)
    (hc : (poseidonScheme lib).CollisionFree [s.aggregateInputs, t.aggregateInputs]) :
    s.distance_numerator = t.distance_numerator ↔
      s.aggregate_proof_commitment = t.aggregate_proof_commitment := by
  rw [hs.commitment, ht.commitment]
  constructor
  · intro hdistance
    simp only [aggregateInputs, h.subject_hash, h.root, h.trusted, h.adversarial, hdistance]
  · intro he
    have hinputs := hc _ (by simp) _ (by simp) he
    simp only [aggregateInputs, List.cons.injEq] at hinputs
    exact hinputs.2.2.2.2.1

end PrivateGraphDistanceProduction

section Edges

variable (lib : Circomlib) (subject_hash committed_local_neighborhood_root trusted_seed_commitment
  adversarial_seed_commitment : Signal) (weight : Nat)

/-- The signals of a prover who gives every edge one weight and every score zero. -/
def edgeSignals : PrivateGraphDistanceProduction width :=
  let distance : Signal := (width * weight * 10000 : Nat)
  let commitment := lib.poseidon [subject_hash, committed_local_neighborhood_root,
    trusted_seed_commitment, adversarial_seed_commitment, distance]
  { subject_hash := subject_hash
    threshold_distance_bps := 0
    committed_local_neighborhood_root := committed_local_neighborhood_root
    trusted_seed_commitment := trusted_seed_commitment
    adversarial_seed_commitment := adversarial_seed_commitment
    aggregate_proof_commitment := commitment
    local_edge_weights_bps := fun _ => (weight : Nat)
    trusted_seed_scores_bps := fun _ => 0
    adversarial_seed_scores_bps := fun _ => 0
    local_edge_valid := fun _ => 1
    trusted_mass := fun _ => 0
    adversarial_mass := fun _ => 0
    total_mass := fun i => ((i : Nat) * weight * 10000 : Nat)
    valid_weight := fun _ => (weight : Nat)
    trusted_weighted := fun _ => 0
    adversarial_weighted := fun _ => 0
    distance_numerator := distance
    threshold := ⟨distance, 0, 0⟩
    aggregate_hash := commitment }

variable {lib subject_hash committed_local_neighborhood_root trusted_seed_commitment
  adversarial_seed_commitment weight}

theorem edgeSignals_constraints (hl : lib.Compares) (hweight : width * weight * 10000 < 2 ^ 64) :
    (edgeSignals lib subject_hash committed_local_neighborhood_root trusted_seed_commitment
      adversarial_seed_commitment weight :
      PrivateGraphDistanceProduction width).Constraints lib where
  trusted_first := rfl
  adversarial_first := rfl
  total_first := by simp [edgeSignals]
  valid_bit _ := by simp [edgeSignals, AssertBit]
  valid_weight _ := by simp [edgeSignals]
  trusted_weighted _ := by simp [edgeSignals]
  adversarial_weighted _ := by simp [edgeSignals]
  trusted_next _ := by simp [edgeSignals]
  adversarial_next _ := by simp [edgeSignals]
  total_next i := by
    dsimp only [edgeSignals]
    rw [Fin.val_succ, Fin.val_castSucc]
    push_cast
    ring
  distance_numerator := by simp [edgeSignals]
  threshold_value := rfl
  threshold_threshold := by simp [edgeSignals]
  threshold := by
    have hless := lessDecomposed_of_range 0 hweight
    rw [zero_add] at hless
    exact ⟨(hl _ _ _ _).mpr hless, rfl⟩
  aggregate_hash := rfl
  aggregate := rfl

end Edges

namespace PrivateGraphDistanceProduction

variable {lib : Circomlib}

/-- The distance is determined by the commitment to it, and by nothing else that is public: over
every neighborhood and its seeds a prover reaches distances of any size. -/
theorem distance_determined_iff (hl : lib.Compares)
    (subject_hash root trusted adversarial : Signal) :
    (∀ s t : PrivateGraphDistanceProduction 16, s.Constraints lib → t.Constraints lib →
        s.SameNeighborhood t →
        (poseidonScheme lib).CollisionFree [s.aggregateInputs, t.aggregateInputs] →
        (s.distance_numerator = t.distance_numerator ↔
          s.aggregate_proof_commitment = t.aggregate_proof_commitment)) ∧
      ∀ weight : Nat, 16 * weight * 10000 < 2 ^ 64 →
        ∃ s : PrivateGraphDistanceProduction 16, s.Constraints lib ∧
          s.subject_hash = subject_hash ∧ s.committed_local_neighborhood_root = root ∧
          s.trusted_seed_commitment = trusted ∧ s.adversarial_seed_commitment = adversarial ∧
          s.distance_numerator = (16 * weight * 10000 : Nat) := by
  constructor
  · intro s t hs ht hsame hc
    exact hsame.distance_iff hs ht hc
  · intro weight hweight
    exact ⟨edgeSignals lib subject_hash root trusted adversarial weight,
      edgeSignals_constraints hl hweight, rfl, rfl, rfl, rfl, rfl⟩

end PrivateGraphDistanceProduction

section Sample

/-- The Poseidon commitments of the circuit's own test to its neighborhood and its seeds. -/
def neighborhoodRoot : Signal :=
  4213355460611018654523924795294902999663126022355729006200928612083214729114

def trustedSeed : Signal :=
  8645981980787649023086883978738420856660271013038108762834452721572614684349

def adversarialSeed : Signal :=
  6018413527099068561047958932369318610297162528491556075919075208700178480084

def graphInputs (distance : Signal) : List Signal :=
  [sampleSubject, neighborhoodRoot, trustedSeed, adversarialSeed, distance]

/-- Poseidon on the commitments to two distances. -/
def graphLib : Circomlib where
  poseidon inputs :=
    if inputs = graphInputs 160000000 then
      19059321709100949219320655567540210129096793714589996939771735704648590182895
    else if inputs = graphInputs 1440000000 then
      12276544162960759394467144535060945728495160632766705427094998487981897524672
    else 0
  lessThan := LessDecomposed

theorem graphLib_compares : graphLib.Compares := fun _ _ _ _ => Iff.rfl

theorem distance_determined_iff_sample :
    (∀ s t : PrivateGraphDistanceProduction 16, s.Constraints graphLib → t.Constraints graphLib →
        s.SameNeighborhood t →
        (poseidonScheme graphLib).CollisionFree [s.aggregateInputs, t.aggregateInputs] →
        (s.distance_numerator = t.distance_numerator ↔
          s.aggregate_proof_commitment = t.aggregate_proof_commitment)) ∧
      ∀ weight : Nat, 16 * weight * 10000 < 2 ^ 64 →
        ∃ s : PrivateGraphDistanceProduction 16, s.Constraints graphLib ∧
          s.subject_hash = 12345 ∧ s.committed_local_neighborhood_root = neighborhoodRoot ∧
          s.trusted_seed_commitment = trustedSeed ∧
          s.adversarial_seed_commitment = adversarialSeed ∧
          s.distance_numerator = (16 * weight * 10000 : Nat) :=
  PrivateGraphDistanceProduction.distance_determined_iff graphLib_compares 12345 neighborhoodRoot
    trustedSeed adversarialSeed

/-- Two distances over one neighborhood. -/
theorem distance_undetermined :
    let s : PrivateGraphDistanceProduction 16 :=
      edgeSignals graphLib 12345 neighborhoodRoot trustedSeed adversarialSeed 1000
    let t : PrivateGraphDistanceProduction 16 :=
      edgeSignals graphLib 12345 neighborhoodRoot trustedSeed adversarialSeed 9000
    graphLib.Compares ∧ s.Constraints graphLib ∧ t.Constraints graphLib ∧ s.SameNeighborhood t ∧
      (poseidonScheme graphLib).CollisionFree [s.aggregateInputs, t.aggregateInputs] ∧
      s.distance_numerator ≠ t.distance_numerator := by
  refine ⟨graphLib_compares, edgeSignals_constraints graphLib_compares (by decide),
    edgeSignals_constraints graphLib_compares (by decide), ⟨rfl, rfl, rfl, rfl⟩, ?_,
    by decide⟩
  rw [Scheme.CollisionFree]
  decide

end Sample

end Continuity

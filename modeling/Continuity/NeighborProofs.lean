import Continuity.Frames
import Continuity.KeyOrder
import Continuity.SparseDigest

namespace Continuity
open Frames
set_option autoImplicit true

/-- `a < b` on strings. -/
def Below (a b : JsString) : Prop := unitsLe b a = false

/-- The two neighbours of a value in a sorted list. -/
def lowerNeighbor (value : Hex32) (sorted : List Hex32) : Option Hex32 :=
  (sorted.filter fun other => !unitsLe value other).getLast?

def upperNeighbor (value : Hex32) (sorted : List Hex32) : Option Hex32 :=
  sorted.find? fun other => !unitsLe other value

theorem lowerNeighbor_mem (h : lowerNeighbor value sorted = some lower) :
    lower ∈ sorted ∧ Below lower value := by
  obtain ⟨hmem, hbelow⟩ := List.mem_filter.mp (List.mem_of_getLast? h)
  exact ⟨hmem, by simpa [Below] using hbelow⟩

theorem upperNeighbor_mem (h : upperNeighbor value sorted = some upper) :
    upper ∈ sorted ∧ Below value upper :=
  ⟨List.mem_of_find?_eq_some h, by simpa [Below] using List.find?_some h⟩

theorem lowerNeighbor_isSome :
    (lowerNeighbor value sorted).isSome = true ↔ ∃ other ∈ sorted, Below other value := by
  constructor
  · intro h
    obtain ⟨lower, hlower⟩ := Option.isSome_iff_exists.mp h
    exact ⟨lower, lowerNeighbor_mem hlower⟩
  · rintro ⟨other, hmem, hbelow⟩
    have hin : other ∈ sorted.filter fun other => !unitsLe value other :=
      List.mem_filter.mpr ⟨hmem, by simpa [Below] using hbelow⟩
    rw [lowerNeighbor, List.getLast?_isSome]
    exact List.ne_nil_of_mem hin

theorem upperNeighbor_isSome :
    (upperNeighbor value sorted).isSome = true ↔ ∃ other ∈ sorted, Below value other := by
  rw [upperNeighbor, List.find?_isSome]
  simp [Below]

example : lowerNeighbor (hex32 5) [hex32 3, hex32 4, hex32 7] = some (hex32 4) ∧
    upperNeighbor (hex32 5) [hex32 3, hex32 7, hex32 9] = some (hex32 7) := by
  decide +kernel

section Hash

variable (N : Noble)

/-- The digest over the neighbours exists only when both of them do. -/
theorem neighborHash_returns (root value : Hex32) (lower upper : Option Hex32) :
    Returns (neighborHash N root value lower upper) ↔ lower.isSome = true ∧ upper.isSome = true := by
  constructor
  · rintro ⟨digest, h⟩
    obtain ⟨bytes, hbytes, -⟩ := bind_eq_ok.mp h
    obtain ⟨-, -, hlower, hupper, -⟩ := canonicalBytes_encodable hbytes
    constructor
    · cases lower with
      | none => exact absurd hlower (by simp [optional, Encodable])
      | some text => rfl
    · cases upper with
      | none => exact absurd hupper (by simp [optional, Encodable])
      | some text => rfl
  · rintro ⟨hlower, hupper⟩
    obtain ⟨low, rfl⟩ := Option.isSome_iff_exists.mp hlower
    obtain ⟨high, rfl⟩ := Option.isSome_iff_exists.mp hupper
    exact ⟨_, domainHash_eq N ⟨True.intro, True.intro, True.intro, True.intro, True.intro⟩⟩

theorem buildSetRoot_returns (values : List Hex32) : Returns (buildSetRoot N values) := by
  have hencodable : Encodable (.arr ((sortStrings values).map .str)) := by
    rw [Encodable, encodableItems_iff]
    intro item hitem
    obtain ⟨text, -, rfl⟩ := List.mem_map.mp hitem
    exact True.intro
  exact ⟨_, domainHash_eq N hencodable⟩

end Hash

theorem nonEmpty_hex (h : IsHex32 value) : nonEmpty (some value) = some value := by
  obtain ⟨bytes, -, rfl⟩ := h
  rfl

section Proofs

variable {N : Noble} {input : NonMembershipInput} {proof : SetNonMembershipProofV1}

/-- The proof of a value by its neighbours. -/
def neighborProof (input : NonMembershipInput) (setRoot lower upper digest : Hex32) :
    SetNonMembershipProofV1 where
  type := js "tsl.zk.non_membership_proof.v1"
  claim := js "revocation_set_non_membership"
  subject := input.subject
  set_root := setRoot
  value_commitment := input.value_commitment
  lower_neighbor := some lower
  upper_neighbor := some upper
  tree_id := none
  tree_depth := none
  leaf_index_commitment := none
  leaf_value_commitment := none
  empty_leaf_commitment := none
  root := none
  root_checkpoint := none
  leaf_index := none
  sibling_path := none
  proof := digest
  issued_at := input.issued_at

/-- A proof is built from both neighbours. -/
theorem buildNonMembershipProof_ok (h32 : ∀ value ∈ input.set_values, IsHex32 value)
    (habsent : input.value_commitment ∉ input.set_values) :
    buildNonMembershipProof N input = .ok proof ↔ ∃ setRoot lower upper digest,
      buildSetRoot N (sortStrings input.set_values) = .ok setRoot ∧
      lowerNeighbor input.value_commitment (sortStrings input.set_values) = some lower ∧
      upperNeighbor input.value_commitment (sortStrings input.set_values) = some upper ∧
      neighborHash N setRoot input.value_commitment (some lower) (some upper) = .ok digest ∧
      proof = neighborProof input setRoot lower upper digest := by
  have hhex : ∀ {value}, value ∈ sortStrings input.set_values → nonEmpty (some value) = some value :=
    fun hm => nonEmpty_hex (h32 _ (mem_sortStrings.mp hm))
  have habsent' : input.value_commitment ∉ sortStrings input.set_values :=
    fun hm => habsent (mem_sortStrings.mp hm)
  rw [buildNonMembershipProof, if_neg habsent']
  constructor
  · intro h
    obtain ⟨setRoot, hroot, h⟩ := bind_eq_ok.mp h
    obtain ⟨digest, hdigest, h⟩ := bind_eq_ok.mp h
    obtain ⟨hlower, hupper⟩ := (neighborHash_returns N _ _ _ _).mp ⟨digest, hdigest⟩
    obtain ⟨lower, hl⟩ := Option.isSome_iff_exists.mp hlower
    obtain ⟨upper, hu⟩ := Option.isSome_iff_exists.mp hupper
    rw [hl, hu] at hdigest h
    rw [hhex (lowerNeighbor_mem hl).1, hhex (upperNeighbor_mem hu).1] at h
    cases h
    exact ⟨setRoot, lower, upper, digest, hroot, hl, hu, hdigest, rfl⟩
  · rintro ⟨setRoot, lower, upper, digest, hroot, hl, hu, hdigest, rfl⟩
    refine bind_eq_ok.mpr ⟨setRoot, hroot, bind_eq_ok.mpr ⟨digest, ?_, ?_⟩⟩
    · exact (congrArg₂ (neighborHash N setRoot input.value_commitment) hl hu).trans hdigest
    · have hlower : nonEmpty (lowerNeighbor input.value_commitment
          (sortStrings input.set_values)) = some lower := by
        rw [hl, hhex (lowerNeighbor_mem hl).1]
      have hupper : nonEmpty (upperNeighbor input.value_commitment
          (sortStrings input.set_values)) = some upper := by
        rw [hu, hhex (upperNeighbor_mem hu).1]
      rw [lowerNeighbor] at hlower
      rw [upperNeighbor] at hupper
      rw [hlower, hupper]
      rfl

/-- A proof by neighbours on both sides is accepted where fixtures are. -/
theorem neighborProof_accepted (hlower : Below lower input.value_commitment)
    (hupper : Below input.value_commitment upper)
    (hdigest : neighborHash N setRoot input.value_commitment (some lower) (some upper) =
      .ok digest) (env : ProcessEnv)
    (henv : env (js "ALLOW_UNSAFE_NON_MEMBERSHIP_FIXTURES") = some (js "true")) :
    verifyNonMembershipProof N env (neighborProof input setRoot lower upper digest) = .ok true := by
  rw [Below] at hlower hupper
  simp only [verifyNonMembershipProof, neighborProof, sparseProfile, ne_eq, not_true_eq_false,
    if_false, Option.getD_some, hlower, hupper, Bool.and_false, Bool.false_eq_true, henv, if_true,
    hdigest]
  simp [bind, Except.bind, pure, Except.pure]

/-- A value that is not in the list has a proof exactly when it lies between two values of the
list, and a proof that is built is accepted where fixtures are. -/
theorem buildNonMembershipProof_accepted_iff (N : Noble) (input : NonMembershipInput)
    (h32 : ∀ value ∈ input.set_values, IsHex32 value)
    (habsent : input.value_commitment ∉ input.set_values) (env : ProcessEnv)
    (henv : env (js "ALLOW_UNSAFE_NON_MEMBERSHIP_FIXTURES") = some (js "true")) :
    ((∃ proof, buildNonMembershipProof N input = .ok proof ∧
        verifyNonMembershipProof N env proof = .ok true) ↔
      (∃ value ∈ input.set_values, Below value input.value_commitment) ∧
        ∃ value ∈ input.set_values, Below input.value_commitment value) ∧
    ∀ proof, buildNonMembershipProof N input = .ok proof →
      verifyNonMembershipProof N env proof = .ok true := by
  have haccepted : ∀ proof, buildNonMembershipProof N input = .ok proof →
      verifyNonMembershipProof N env proof = .ok true := by
    intro proof h
    obtain ⟨setRoot, lower, upper, digest, -, hl, hu, hdigest, rfl⟩ :=
      (buildNonMembershipProof_ok h32 habsent).mp h
    exact neighborProof_accepted (lowerNeighbor_mem hl).2 (upperNeighbor_mem hu).2 hdigest env henv
  refine ⟨⟨?_, ?_⟩, haccepted⟩
  · rintro ⟨proof, h, -⟩
    obtain ⟨setRoot, lower, upper, digest, -, hl, hu, -⟩ :=
      (buildNonMembershipProof_ok h32 habsent).mp h
    obtain ⟨hlmem, hlower⟩ := lowerNeighbor_mem hl
    obtain ⟨humem, hupper⟩ := upperNeighbor_mem hu
    exact ⟨⟨lower, mem_sortStrings.mp hlmem, hlower⟩, ⟨upper, mem_sortStrings.mp humem, hupper⟩⟩
  · rintro ⟨⟨low, hlow, hlower⟩, ⟨high, hhigh, hupper⟩⟩
    obtain ⟨lower, hl⟩ := Option.isSome_iff_exists.mp
      (lowerNeighbor_isSome.mpr ⟨low, mem_sortStrings.mpr hlow, hlower⟩)
    obtain ⟨upper, hu⟩ := Option.isSome_iff_exists.mp
      (upperNeighbor_isSome.mpr ⟨high, mem_sortStrings.mpr hhigh, hupper⟩)
    obtain ⟨setRoot, hroot⟩ := buildSetRoot_returns N (sortStrings input.set_values)
    obtain ⟨digest, hdigest⟩ := (neighborHash_returns N setRoot input.value_commitment (some lower)
      (some upper)).mpr ⟨rfl, rfl⟩
    have hbuilt := (buildNonMembershipProof_ok (N := N) h32 habsent).mpr
      ⟨setRoot, lower, upper, digest, hroot, hl, hu, hdigest, rfl⟩
    exact ⟨_, hbuilt, haccepted _ hbuilt⟩

end Proofs

section Sample

/-- A list of two values and a value between them. -/
def betweenInput (value : Nat) : NonMembershipInput where
  subject := js "did:tsl:alice"
  value_commitment := hex32 value
  set_values := [hex32 7, hex32 3]
  issued_at := js "2026-05-25T00:00:00Z"

def fixturesAllowed : ProcessEnv := fun name =>
  if name = js "ALLOW_UNSAFE_NON_MEMBERSHIP_FIXTURES" then some (js "true") else none

theorem betweenInput_hex (value : Nat) : ∀ v ∈ (betweenInput value).set_values, IsHex32 v := by
  intro v hv
  have hlength : ∀ n, (bigEndian 32 n).length = 32 := fun n => bigEndian_length 32 n
  rcases List.mem_pair.mp hv with rfl | rfl
  · exact ⟨bigEndian 32 7, hlength 7, rfl⟩
  · exact ⟨bigEndian 32 3, hlength 3, rfl⟩

theorem buildNonMembershipProof_accepted_iff_sample :
    ∃ proof, buildNonMembershipProof (recorded [] [] longDigest) (betweenInput 5) = .ok proof ∧
      verifyNonMembershipProof (recorded [] [] longDigest) fixturesAllowed proof = .ok true := by
  have haccepted := buildNonMembershipProof_accepted_iff (recorded [] [] longDigest)
    (betweenInput 5) (betweenInput_hex 5) (by decide) fixturesAllowed (if_pos rfl)
  refine haccepted.1.mpr ⟨⟨hex32 3, by simp [betweenInput], ?_⟩, ⟨hex32 7, by simp [betweenInput], ?_⟩⟩
  · show unitsLe (hex32 5) (hex32 3) = false
    decide
  · show unitsLe (hex32 7) (hex32 5) = false
    decide

/-- A value above all values of the list has no proof. -/
theorem aboveAll_unproved :
    (betweenInput 9).value_commitment ∉ (betweenInput 9).set_values ∧
      ¬Returns (buildNonMembershipProof (recorded [] [] longDigest) (betweenInput 9)) := by
  have hfails : (buildNonMembershipProof (recorded [] [] longDigest) (betweenInput 9)).isOk =
      false := by
    decide
  refine ⟨by decide, ?_⟩
  rintro ⟨proof, hproof⟩
  rw [hproof] at hfails
  cases hfails

end Sample

end Continuity

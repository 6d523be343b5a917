import Continuity.SparseComplete

namespace Continuity
open HashTree Collections
set_option autoImplicit true

theorem sortKeys_pair (h : unitsLe k l = true) (a b : α) :
    sortKeys [(k, a), (l, b)] = [(k, a), (l, b)] := by
  simp [sortKeys, h]

theorem normalize_labelled (label : JsString) (value : JsValue) :
    normalize (labelled label value) =
      .obj [(js "label", .str label), (js "value", normalize value)] := by
  have hk : unitsLe (js "label") (js "value") = true := by decide
  simp only [labelled, normalize, normalizeFields, sortKeys_pair hk]

theorem normalize_nodeValue (left right : Hex32) :
    normalize (nodeValue left right) = nodeValue left right := by
  have hk : unitsLe (js "left") (js "right") = true := by decide
  simp only [nodeValue, normalize, normalizeFields, sortKeys_pair hk]

theorem tag_nonMembership : Tag DOMAIN_TAGS.NON_MEMBERSHIP_PROOF_V1 := by decide

theorem valueBytes_ok (h : Encodable value) : canonicalBytes value = .ok (valueBytes value) := by
  obtain ⟨bytes, hb⟩ := canonicalBytes_total h
  rw [valueBytes, hb]

/-- A sparse message binds its label and its value. -/
theorem sparseMessage_unique (ha : Encodable a) (hb : Encodable b)
    (h : sparseMessage k a = sparseMessage l b) : k = l ∧ normalize a = normalize b := by
  have hbytes := domainMessage_injective tag_nonMembership h
  have hka : Encodable (labelled k a) := ⟨True.intro, ha, True.intro⟩
  have hlb : Encodable (labelled l b) := ⟨True.intro, hb, True.intro⟩
  have hva := valueBytes_ok hka
  rw [hbytes] at hva
  have hn := canonicalBytes_unique hva (valueBytes_ok hlb)
  rw [normalize_labelled, normalize_labelled] at hn
  simpa using hn

theorem encodable_nodeValue (left right : Hex32) : Encodable (nodeValue left right) :=
  ⟨True.intro, True.intro, True.intro⟩

theorem encodable_str (s : JsString) : Encodable (.str s) := True.intro

theorem nodeMessage_injective
    (h : sparseMessage k (nodeValue a b) = sparseMessage l (nodeValue c d)) : a = c ∧ b = d := by
  have hn := (sparseMessage_unique (encodable_nodeValue a b) (encodable_nodeValue c d) h).2
  rw [normalize_nodeValue, normalize_nodeValue] at hn
  simpa [nodeValue] using hn

theorem encodable_zero : Encodable (.num (.ofNat 0)) := encodable_ofNat (by decide)

def IsSlotMessage (m : Bytes) : Prop := m = zeroMessage ∨ ∃ value, m = valueMessage value

theorem slotMessage_isSlot (leaves : OrderedMap Nat Hex32) (i : Nat) :
    IsSlotMessage (slotMessage leaves i) := by
  unfold slotMessage
  split
  · exact .inr ⟨_, rfl⟩
  · exact .inl rfl

theorem valueMessage_ne_zero (value : Hex32) : valueMessage value ≠ zeroMessage := by
  intro h
  have hl := (sparseMessage_unique (encodable_str _) encodable_zero h).1
  exact absurd hl (by decide)

theorem sparseScheme_separated (N : Noble) :
    (sparseScheme N).Separated IsSlotMessage fun _ => True where
  good _ := True.intro
  apart := by
    rintro m a b (rfl | ⟨value, rfl⟩) he
    · have hl := (sparseMessage_unique encodable_zero (encodable_nodeValue a b) he).1
      exact absurd hl (by decide)
    · have hl := (sparseMessage_unique (encodable_str _) (encodable_nodeValue a b) he).1
      exact absurd hl (by decide)
  left_cancel _ _ he := nodeMessage_injective he
  right_cancel _ _ he := nodeMessage_injective he

theorem sparse_collisionFree (hi : Function.Injective N.sha256) (messages : List Bytes) :
    (sparseScheme N).CollisionFree messages :=
  fun _ _ _ _ he => hi (sha256Hex_injective he)

def sideOf (side : ProofSide) : Side := if side = .left then .left else .right

/-- The slot that the sides of a path spell, read from the root. -/
def spelledSlot (sides : List ProofSide) : Nat := spell 0 (sides.map sideOf).reverse

/-- A path that climbs from a slot message to the root ends at the slot that its sides spell. -/
theorem Built.climb_slot (hb : Built N values profile tree depth)
    (hi : Function.Injective N.sha256) (hm : IsSlotMessage m) (path : List InclusionProofStep)
    (hc : (sparseScheme N).climb (sha256Hex N m) (sparseSteps path) = tree.root) :
    path.length = depth ∧
      slotMessage tree.leaves (spelledSlot (path.map InclusionProofStep.side)) = m := by
  have hleaf : ∀ n ∈ (complete (slotMessage tree.leaves) depth 0).leaves, IsSlotMessage n := by
    intro n hn
    obtain ⟨j, rfl⟩ := complete_leaves _ _ _ n hn
    exact slotMessage_isSlot _ _
  rw [hb.root_eq] at hc
  have hd := (sparseScheme_separated N).climb_sound _ (sparseSteps path) hleaf hm
    (sparse_collisionFree hi _) hc
  have hsides : (sparseSteps path).map Prod.fst =
      (path.map InclusionProofStep.side).map sideOf := by
    simp [sparseSteps, sideOf, Function.comp_def]
  rw [complete_descend, hsides] at hd
  split at hd
  · rename_i hl
    rw [Option.some.injEq] at hd
    simp only [List.length_reverse, List.length_map] at hl
    exact ⟨hl, hd⟩
  · cases hd

/-- An accepted non-membership proof shows that the slot its sides spell is empty. -/
theorem Built.accepted_empty (hb : Built N values profile tree depth)
    (hi : Function.Injective N.sha256)
    (hv : verifySparseMerkleProof N proof tree.root profile = .ok true)
    (he : truthy proof.empty_leaf_commitment = true) :
    ∃ path, proof.sibling_path = some path ∧ path.length = depth ∧
      tree.leaves.get? (spelledSlot (path.map InclusionProofStep.side)) = none := by
  obtain ⟨path, leaf_index, index, ha⟩ := verifySparseMerkleProof_accepted hv
  have hc := ha.climb
  rw [he, if_pos rfl] at hc
  obtain ⟨hl, hs⟩ := hb.climb_slot hi (.inl rfl) path hc
  refine ⟨path, ha.path_eq, hl, ?_⟩
  unfold slotMessage at hs
  split at hs
  · exact (valueMessage_ne_zero _ hs).elim
  · assumption

/-- A path with given sides and the siblings of another path. -/
def withSides (sides : List ProofSide) (path : List (Side × Hex32)) : List InclusionProofStep :=
  List.zipWith (fun side step => { side, hash := step.2 }) sides path

/-- A proof of absence of the stored value, with the path of the empty slot beside it. -/
def forgedProof : SetNonMembershipProofV1 :=
  closedProof sparseNoble (some sparseZero) sparseValue sparseRoot 0 1 sampleProfile.tree_id
    emptySlotPath (js "did:tsl:test:alice") (js "2026-01-01T00:00:00Z") ZERO_HASH

end Continuity

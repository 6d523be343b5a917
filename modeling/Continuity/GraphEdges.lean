import Continuity.EvidenceGraph

namespace Continuity
open Collections Reordering
set_option autoImplicit true

/-- What a loop has recorded of the events that were scanned. -/
structure Tallied (scanned : List SignedEvent) (s : GraphState) : Prop where
  seen : ∀ c, c ∈ s.seenEventCommitments ↔ ∃ event ∈ scanned, event.commitment = c
  senders : ∀ c sender, s.eventSenderByCommitment.get? c = some sender ↔
    ∃ event ∈ scanned, event.commitment = c ∧ event.sender = sender
  edges : ∀ edge, edge ∈ s.edges ↔ ∃ event ∈ scanned, edge ∈ event.edges

theorem Tallied.start : Tallied [] .start where
  seen := by simp [GraphState.start]
  senders c sender := by
    simp [GraphState.start, OrderedMap.get?, OrderedMap.empty, getEntry]
  edges := by simp [GraphState.start]

theorem Tallied.record (h : Tallied scanned s) (hr : ¬s.replays event = true) :
    Tallied (event :: scanned) (s.record event) where
  seen c := by
    simp only [GraphState.record, List.mem_cons, h.seen, exists_eq_or_imp]
    exact or_congr_left ⟨Eq.symm, Eq.symm⟩
  senders c sender := by
    have hnew : ∀ other ∈ scanned, other.commitment ≠ event.commitment := by
      intro other ho he
      apply hr
      simp only [GraphState.replays, Bool.or_eq_true, List.contains_iff_mem]
      exact .inl ((h.seen _).mpr ⟨other, ho, he⟩)
    simp only [GraphState.record, OrderedMap.get?_set, List.mem_cons, exists_eq_or_imp]
    by_cases hc : c = event.commitment
    · simp only [hc, if_true, Option.some.injEq, true_and]
      constructor
      · exact .inl
      · rintro (hs | ⟨other, ho, he, -⟩)
        · exact hs
        · exact absurd he (hnew other ho)
    · have hc' : event.commitment ≠ c := fun he => hc he.symm
      simp only [hc, if_false, hc', false_and, false_or, h.senders]
  edges edge := by
    simp only [GraphState.record, List.mem_append, List.mem_cons, exists_eq_or_imp, h.edges]
    exact or_comm

/-- The loop over the events records those with a valid signature. -/
theorem foldlM_scanEvent (events : List EventCommitmentV1) (h : Tallied scanned s)
    (hrun : events.foldlM (scanEvent E input) s = .ok t) :
    ∃ all, Tallied all t ∧ ∀ signed, signed ∈ all ↔ signed ∈ scanned ∨
      ∃ event ∈ events, signedEvent E input event = .ok (some signed) := by
  induction events generalizing s scanned with
  | nil =>
    cases hrun
    exact ⟨scanned, h, by simp⟩
  | cons event events ih =>
    rw [List.foldlM_cons] at hrun
    obtain ⟨u, hu, hrun⟩ := bind_eq_ok.mp hrun
    obtain ⟨signed, hsigned, hu⟩ := bind_eq_ok.mp hu
    cases signed with
    | none =>
      cases hu
      obtain ⟨all, hall, hmem⟩ := ih h hrun
      refine ⟨all, hall, fun signed => ?_⟩
      simp only [hmem, List.mem_cons, exists_eq_or_imp, hsigned, Except.ok.injEq, reduceCtorEq,
        false_or]
    | some signed =>
      by_cases hr : s.replays signed = true
      · simp only [hr, if_true] at hu
        cases hu
      · simp only [hr] at hu
        cases hu
        obtain ⟨all, hall, hmem⟩ := ih (h.record hr) hrun
        refine ⟨all, hall, fun other => ?_⟩
        simp only [hmem, List.mem_cons, exists_eq_or_imp, hsigned, Except.ok.injEq,
          Option.some.injEq]
        constructor
        · rintro ((rfl | hs) | hs)
          · exact .inr (.inl rfl)
          · exact .inl hs
          · exact .inr (.inr hs)
        · rintro (hs | rfl | hs)
          · exact .inl (.inr hs)
          · exact .inl (.inl rfl)
          · exact .inr hs

/-- The edges that a loop pushes: those of its items, one by one. -/
theorem foldlM_collect (edges : (Hex32 → Option TrustID) → α → Js (List GraphEdgeV0))
    (items : List α) (hrun : items.foldlM
      (fun s => collect (edges s.eventSenderByCommitment.get?) s) s = .ok t) :
    t.eventSenderByCommitment = s.eventSenderByCommitment ∧
      (∀ edge, edge ∈ t.edges ↔ edge ∈ s.edges ∨ ∃ item ∈ items, ∃ pushed,
        edges s.eventSenderByCommitment.get? item = .ok pushed ∧ edge ∈ pushed) ∧
      ∀ item ∈ items, ∃ pushed, edges s.eventSenderByCommitment.get? item = .ok pushed := by
  induction items generalizing s with
  | nil =>
    cases hrun
    exact ⟨rfl, by simp, by simp⟩
  | cons item items ih =>
    rw [List.foldlM_cons] at hrun
    obtain ⟨u, hu, hrun⟩ := bind_eq_ok.mp hrun
    obtain ⟨pushed, hpushed, hu⟩ := bind_eq_ok.mp hu
    cases hu
    obtain ⟨hsenders, hedges, hall⟩ := ih hrun
    refine ⟨hsenders, fun edge => ?_, ?_⟩
    · rw [hedges]
      simp only [GraphState.push, List.mem_append, List.mem_cons, exists_eq_or_imp, hpushed,
        Except.ok.injEq, exists_eq_left', or_assoc]
    · intro other ho
      rcases List.mem_cons.mp ho with rfl | ho
      · exact ⟨pushed, hpushed⟩
      · exact hall other ho

section Kinds

variable {E : Engine} {input : GraphEvidence}

theorem mem_admitted (h : admitted input edge = .ok pushed) : other ∈ pushed ↔
    other = edge ∧ negativeEvidenceAllowed edge input.graph_profile = true := by
  rw [admitted] at h
  split at h
  · rename_i ha
    cases h
    simp [ha]
  · rename_i ha
    split at h
    · cases h
    · cases h
      simp [ha]

/-- The edge that a receipt adds: it is signed, and its event was scanned. -/
def ReceiptAdds (E : Engine) (input : GraphEvidence) (senderOf : Hex32 → Option TrustID)
    (receipt : ReceiptCommitmentV1) (edge : GraphEdgeV0) : Prop :=
  ∃ hash sender, receiptHash E.host.noble receipt = .ok hash ∧
    receiptGraphSigned E input receipt hash = .ok true ∧
    senderOf receipt.event_commitment = some sender ∧ sender ≠ [] ∧
    edge = receiptEdge E input receipt hash sender ∧
    negativeEvidenceAllowed edge input.graph_profile = true

theorem receiptEdges_ok (h : receiptEdges E input senderOf receipt = .ok pushed) :
    edge ∈ pushed ↔ ReceiptAdds E input senderOf receipt edge := by
  obtain ⟨hash, hhash, h⟩ := bind_eq_ok.mp h
  obtain ⟨valid, hvalid, h⟩ := bind_eq_ok.mp h
  dsimp only at h
  split at h
  · rename_i hc
    cases h
    simp only [List.not_mem_nil, false_iff]
    rintro ⟨hash', sender, hh', hv', hs', hne, -⟩
    cases hhash.symm.trans hh'
    cases hvalid.symm.trans hv'
    simp [hs', truthy, hne] at hc
  · rename_i hc
    simp only [Bool.or_eq_true, Bool.not_eq_true', not_or, Bool.not_eq_false] at hc
    obtain ⟨rfl, ht⟩ := hc
    rw [mem_admitted h]
    cases hs : senderOf receipt.event_commitment with
    | none => rw [hs] at ht; cases ht
    | some sender =>
      have hne : sender ≠ [] := by
        rintro rfl
        rw [hs] at ht
        cases ht
      constructor
      · rintro ⟨rfl, ha⟩
        exact ⟨hash, sender, hhash, hvalid, hs, hne, rfl, ha⟩
      · rintro ⟨hash', sender', hh', -, hs', -, he, ha⟩
        cases hhash.symm.trans hh'
        cases hs.symm.trans hs'
        subst he
        exact ⟨rfl, ha⟩

/-- The edge that a first version attestation adds. -/
def AttestationAdds (E : Engine) (input : GraphEvidence) (attestation : AttestationV1)
    (edge : GraphEdgeV0) : Prop :=
  ∃ hash, attestationHash E.host.noble attestation = .ok hash ∧
    attestationGraphSigned E input attestation hash = .ok true ∧
    attestationExpired E input attestation = false ∧
    edge = attestationEdge E input attestation hash ∧
    negativeEvidenceAllowed edge input.graph_profile = true

/-- The edge that a second version attestation adds. -/
def AttestationV2Adds (E : Engine) (input : GraphEvidence) (attestation : AttestationV2)
    (edge : GraphEdgeV0) : Prop :=
  ∃ hash, attestationV2Hash E.host.noble attestation = .ok hash ∧
    attestationV2GraphSigned E input attestation hash = .ok true ∧
    attestationV2Outside E input attestation = false ∧
    edge = attestationV2Edge E input attestation hash ∧
    negativeEvidenceAllowed edge input.graph_profile = true

/-- The edges of an item that is hashed, checked and turned into one edge. -/
theorem mem_hashed {hash : Js Hex32} {signed : Hex32 → Js Bool} {outside : Bool}
    {made : Hex32 → GraphEdgeV0}
    (h : (do
      let hash ← hash
      let valid ← signed hash
      if !valid || outside then return []
      admitted input (made hash)) = .ok pushed) :
    edge ∈ pushed ↔ ∃ value, hash = .ok value ∧ signed value = .ok true ∧ outside = false ∧
      edge = made value ∧ negativeEvidenceAllowed edge input.graph_profile = true := by
  obtain ⟨value, hvalue, h⟩ := bind_eq_ok.mp h
  obtain ⟨valid, hvalid, h⟩ := bind_eq_ok.mp h
  split at h
  · rename_i hc
    cases h
    simp only [List.not_mem_nil, false_iff]
    rintro ⟨value', hv', hs', ho', -⟩
    cases hvalue.symm.trans hv'
    cases hvalid.symm.trans hs'
    simp [ho'] at hc
  · rename_i hc
    simp only [Bool.or_eq_true, Bool.not_eq_true', not_or, Bool.not_eq_false,
      Bool.not_eq_true] at hc
    obtain ⟨rfl, ho⟩ := hc
    rw [mem_admitted h]
    constructor
    · rintro ⟨rfl, ha⟩
      exact ⟨value, hvalue, hvalid, ho, rfl, ha⟩
    · rintro ⟨value', hv', -, -, he, ha⟩
      cases hvalue.symm.trans hv'
      subst he
      exact ⟨rfl, ha⟩

theorem attestationEdges_ok (h : attestationEdges E input attestation = .ok pushed) :
    edge ∈ pushed ↔ AttestationAdds E input attestation edge := mem_hashed h

theorem attestationV2Edges_ok (h : attestationV2Edges E input attestation = .ok pushed) :
    edge ∈ pushed ↔ AttestationV2Adds E input attestation edge := mem_hashed h

/-- The edge that a delegation policy adds. -/
def DelegationAdds (E : Engine) (input : GraphEvidence) (policy : DelegationPolicyV2)
    (edge : GraphEdgeV0) : Prop :=
  ∃ hash, delegationPolicyV2Hash E.host.noble policy = .ok hash ∧
    delegationGraphSigned E input policy = .ok true ∧
    delegationOutside E input policy = false ∧ edge = delegationEdge input policy hash

theorem delegationEdges_ok (h : delegationEdges E input policy = .ok pushed) :
    edge ∈ pushed ↔ DelegationAdds E input policy edge := by
  obtain ⟨valid, hvalid, h⟩ := bind_eq_ok.mp h
  split at h
  · rename_i hc
    cases h
    simp only [List.not_mem_nil, false_iff]
    rintro ⟨hash, -, hv', ho', -⟩
    cases hvalid.symm.trans hv'
    simp [ho'] at hc
  · rename_i hc
    simp only [Bool.or_eq_true, Bool.not_eq_true', not_or, Bool.not_eq_false,
      Bool.not_eq_true] at hc
    obtain ⟨rfl, ho⟩ := hc
    obtain ⟨hash, hhash, h⟩ := bind_eq_ok.mp h
    cases h
    constructor
    · intro he
      exact ⟨hash, hhash, hvalid, ho, List.mem_singleton.mp he⟩
    · rintro ⟨hash', hh', -, -, rfl⟩
      cases hhash.symm.trans hh'
      exact List.mem_singleton_self _

theorem eventEdges_ok (h : signedEvent E input event = .ok (some signed))
    (he : edge ∈ signed.edges) :
    ∃ hash receiver, edge = plainEdge event.sender receiver (js "signed_event") event.timestamp
      (input.baseWeight (js "signed_event"))
      (decay E input (js "signed_event") event.timestamp) hash := by
  obtain ⟨hash, -, h⟩ := bind_eq_ok.mp h
  obtain ⟨valid, -, h⟩ := bind_eq_ok.mp h
  split at h
  · cases h
  · obtain ⟨commitment, -, h⟩ := bind_eq_ok.mp h
    cases h
    simp only [eventEdges] at he
    split at he
    · split at he
      · cases he
      · exact ⟨hash, _, List.mem_singleton.mp he⟩
    · cases he

end Kinds

/-- An edge that one of the items pushes. -/
def Pushed (edges : α → Js (List GraphEdgeV0)) (items : List α) (edge : GraphEdgeV0) : Prop :=
  ∃ item ∈ items, ∃ pushed, edges item = .ok pushed ∧ edge ∈ pushed

theorem Pushed.perm {items items' : List α} (h : items.Perm items') :
    Pushed edges items edge ↔ Pushed edges items' edge := by
  simp only [Pushed, h.mem_iff]

/-- An event of the evidence with a valid signature. -/
def Scanned (E : Engine) (input : GraphEvidence) (signed : SignedEvent) : Prop :=
  ∃ event ∈ input.events.getD [], signedEvent E input event = .ok (some signed)

/-- The senders of the events with a valid signature, by their commitments. -/
def SendersOf (E : Engine) (input : GraphEvidence) (senderOf : Hex32 → Option TrustID) : Prop :=
  ∀ c sender, senderOf c = some sender ↔
    ∃ signed, Scanned E input signed ∧ signed.commitment = c ∧ signed.sender = sender

/-- Where the edges of a graph come from. -/
structure Gathered (E : Engine) (input : GraphEvidence) (senderOf : Hex32 → Option TrustID)
    (s : GraphState) : Prop where
  senders : SendersOf E input senderOf
  edges : ∀ edge, edge ∈ s.edges ↔ (∃ signed, Scanned E input signed ∧ edge ∈ signed.edges) ∨
    Pushed (receiptEdges E input senderOf) (input.receipts.getD []) edge ∨
    Pushed (attestationEdges E input) (input.attestations.getD []) edge ∨
    Pushed (attestationV2Edges E input) (input.attestations_v2.getD []) edge ∨
    Pushed (delegationEdges E input) (input.delegation_policies.getD []) edge
  receipts : ∀ receipt ∈ input.receipts.getD [],
    ∃ pushed, receiptEdges E input senderOf receipt = .ok pushed
  attestations : ∀ attestation ∈ input.attestations.getD [],
    ∃ pushed, attestationEdges E input attestation = .ok pushed
  attestations_v2 : ∀ attestation ∈ input.attestations_v2.getD [],
    ∃ pushed, attestationV2Edges E input attestation = .ok pushed
  delegation_policies : ∀ policy ∈ input.delegation_policies.getD [],
    ∃ pushed, delegationEdges E input policy = .ok pushed

/-- What a loop over a sorted list pushes. -/
theorem forSorted_collect {cmp : α → α → Js Ordering}
    (edges : (Hex32 → Option TrustID) → α → Js (List GraphEdgeV0)) {items : List α}
    (h : forSorted cmp (fun s => collect (edges s.eventSenderByCommitment.get?) s) s items =
      .ok t) :
    t.eventSenderByCommitment = s.eventSenderByCommitment ∧
      (∀ edge, edge ∈ t.edges ↔ edge ∈ s.edges ∨
        Pushed (edges s.eventSenderByCommitment.get?) items edge) ∧
      ∀ item ∈ items, ∃ pushed, edges s.eventSenderByCommitment.get? item = .ok pushed := by
  obtain ⟨sorted, hp, hrun⟩ := forSorted_ok h
  obtain ⟨hsenders, hedges, hall⟩ := foldlM_collect edges sorted hrun
  refine ⟨hsenders, fun edge => ?_, fun item hi => hall item (hp.mem_iff.mpr hi)⟩
  rw [hedges, ← Pushed.perm hp]
  rfl

theorem forSorted_scanEvent {cmp : EventCommitmentV1 → EventCommitmentV1 → Js Ordering}
    (h : forSorted cmp (scanEvent E input) .start (input.events.getD []) = .ok s) :
    SendersOf E input s.eventSenderByCommitment.get? ∧
      ∀ edge, edge ∈ s.edges ↔ ∃ signed, Scanned E input signed ∧ edge ∈ signed.edges := by
  obtain ⟨sorted, hp, hrun⟩ := forSorted_ok h
  obtain ⟨all, hall, hmem⟩ := foldlM_scanEvent sorted Tallied.start hrun
  have hscanned : ∀ signed, signed ∈ all ↔ Scanned E input signed := by
    intro signed
    simp only [hmem, List.not_mem_nil, false_or, hp.mem_iff, Scanned]
  refine ⟨fun c sender => ?_, fun edge => ?_⟩
  · simp only [hall.senders, hscanned]
  · simp only [hall.edges, hscanned]

theorem scanEvidence_gathered (h : scanEvidence E input = .ok s) :
    ∃ senderOf, Gathered E input senderOf s := by
  obtain ⟨s₁, h₁, h⟩ := bind_eq_ok.mp h
  obtain ⟨s₂, h₂, h⟩ := bind_eq_ok.mp h
  obtain ⟨s₃, h₃, h⟩ := bind_eq_ok.mp h
  obtain ⟨s₄, h₄, h₅⟩ := bind_eq_ok.mp h
  obtain ⟨hs₁, he₁⟩ := forSorted_scanEvent h₁
  obtain ⟨hs₂, he₂, hr₂⟩ := forSorted_collect (receiptEdges E input) h₂
  obtain ⟨hs₃, he₃, hr₃⟩ := forSorted_collect (fun _ => attestationEdges E input) h₃
  obtain ⟨hs₄, he₄, hr₄⟩ := forSorted_collect (fun _ => attestationV2Edges E input) h₄
  obtain ⟨-, he₅, hr₅⟩ := forSorted_collect (fun _ => delegationEdges E input) h₅
  refine ⟨s₁.eventSenderByCommitment.get?, hs₁, fun edge => ?_, hr₂, hr₃, hr₄, hr₅⟩
  simp only [he₅, he₄, he₃, he₂, he₁, or_assoc]

theorem constructGraphFromEvidenceV0_edges (h : constructGraphFromEvidenceV0 E input = .ok graph) :
    ∃ s, scanEvidence E input = .ok s ∧ graph.edges.Perm s.edges := by
  obtain ⟨s, hs, h⟩ := bind_eq_ok.mp h
  obtain ⟨edges, hsort, h⟩ := bind_eq_ok.mp h
  cases h
  exact ⟨s, hs, sortM_perm hsort⟩

end Continuity

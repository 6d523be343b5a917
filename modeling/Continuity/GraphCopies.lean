import Continuity.GraphHash
import Continuity.SeedDistance

namespace Continuity
open Collections Frames Reordering
set_option autoImplicit true

inductive EvidenceItem where
  | event (event : EventCommitmentV1)
  | receipt (receipt : ReceiptCommitmentV1)
  | attestation (attestation : AttestationV1)
  | attestation_v2 (attestation : AttestationV2)
  | delegation_policy (policy : DelegationPolicyV2)

namespace EvidenceItem

/-- The item stands in the list of its kind. -/
def In (input : GraphEvidence) : EvidenceItem → Prop
  | .event item => item ∈ input.events.getD []
  | .receipt item => item ∈ input.receipts.getD []
  | .attestation item => item ∈ input.attestations.getD []
  | .attestation_v2 item => item ∈ input.attestations_v2.getD []
  | .delegation_policy item => item ∈ input.delegation_policies.getD []

/-- The text that the sorts compare. -/
def hash (N : Noble) : EvidenceItem → Js Hex32
  | .event item => eventHash N item
  | .receipt item => receiptHash N item
  | .attestation item => attestationHash N item
  | .attestation_v2 item => attestationV2Hash N item
  | .delegation_policy item => delegationPolicyV2Hash N item

/-- The item is evidence: an event with a valid signature, or an item that adds an edge. -/
def Counted (E : Engine) (input : GraphEvidence) : EvidenceItem → Prop
  | .event item => ∃ signed, signedEvent E input item = .ok (some signed)
  | .receipt item =>
    ∃ senderOf, SendersOf E input senderOf ∧ ∃ edge, ReceiptAdds E input senderOf item edge
  | .attestation item => ∃ edge, AttestationAdds E input item edge
  | .attestation_v2 item => ∃ edge, AttestationV2Adds E input item edge
  | .delegation_policy item => ∃ edge, DelegationAdds E input item edge

end EvidenceItem

/-- The evidence with a second copy of an item. -/
def GraphEvidence.withCopy (input : GraphEvidence) : EvidenceItem → GraphEvidence
  | .event event => { input with events := some (event :: input.events.getD []) }
  | .receipt receipt => { input with receipts := some (receipt :: input.receipts.getD []) }
  | .attestation attestation =>
    { input with attestations := some (attestation :: input.attestations.getD []) }
  | .attestation_v2 attestation =>
    { input with attestations_v2 := some (attestation :: input.attestations_v2.getD []) }
  | .delegation_policy policy =>
    { input with delegation_policies := some (policy :: input.delegation_policies.getD []) }

/-- A state that has further edges. -/
def Extends (extra : List GraphEdgeV0) (s t : GraphState) : Prop := SameState (s.push extra) t

theorem Extends.push (s : GraphState) (extra : List GraphEdgeV0) :
    Extends extra s (s.push extra) := SameState.refl _

theorem Extends.collect (edges : (Hex32 → Option TrustID) → α → Js (List GraphEdgeV0))
    (h : Extends extra s t) (item : α) :
    SameOutcome (Extends extra) (collect (edges s.eventSenderByCommitment.get?) s item)
      (collect (edges t.eventSenderByCommitment.get?) t item) := by
  rw [← show s.eventSenderByCommitment.get? = t.eventSenderByCommitment.get? from h.senders,
    Continuity.collect, Continuity.collect]
  cases edges s.eventSenderByCommitment.get? item with
  | error e => exact .fails
  | ok pushed => exact .returns ((SameState.push_swap s pushed extra).trans (SameState.push h pushed))

/-- A loop that starts with further edges ends with them. -/
theorem forSorted_extends (edges : (Hex32 → Option TrustID) → α → Js (List GraphEdgeV0))
    {cmp : α → α → Js Ordering} (h : Extends extra s t)
    (hrun : forSorted cmp (fun s => collect (edges s.eventSenderByCommitment.get?) s) s items =
      .ok u) :
    ∃ v, forSorted cmp (fun s => collect (edges s.eventSenderByCommitment.get?) s) t items =
      .ok v ∧ Extends extra u v := by
  have hloop : SameOutcome (Extends extra)
      (forSorted cmp (fun s => collect (edges s.eventSenderByCommitment.get?) s) s items)
      (forSorted cmp (fun s => collect (edges s.eventSenderByCommitment.get?) s) t items) :=
    forSorted_congr (fun h item => Extends.collect edges h item) items h
  rw [hrun] at hloop
  exact hloop.ok_left

theorem returns_not_fails {x : Except ε α} (h : Returns x) : ¬Fails x := by
  rintro ⟨e, he⟩
  obtain ⟨a, ha⟩ := h
  rw [he] at ha
  cases ha

theorem nil_iff_none {P : α → Prop} (h : ∀ a, a ∈ xs ↔ P a) : xs = [] ↔ ¬∃ a, P a := by
  simp only [List.eq_nil_iff_forall_not_mem, h, not_exists]

theorem SendersOf.unique (h : SendersOf E input f) (h' : SendersOf E input g) : f = g := by
  funext c
  apply Option.ext
  intro sender
  exact (h c sender).trans (h' c sender).symm

section Loops

variable {E : Engine} {input : GraphEvidence} {stamp : α → RFC3339} {text : α → Js JsString}

theorem signedEvent_returns {cmp : EventCommitmentV1 → EventCommitmentV1 → Js Ordering}
    (h : forSorted cmp (scanEvent E input) s events = .ok t) (hi : event ∈ events) :
    Returns (signedEvent E input event) := by
  obtain ⟨sorted, hp, hrun⟩ := forSorted_ok h
  obtain ⟨u, v, hstep⟩ := foldlM_member hrun (hp.mem_iff.mpr hi)
  obtain ⟨signed, hsigned, -⟩ := bind_eq_ok.mp hstep
  exact ⟨signed, hsigned⟩

theorem scanEvidence_ok
    (h₁ : forSorted (compareStamped E EventCommitmentV1.timestamp (eventHash E.host.noble))
      (scanEvent E input) .start (input.events.getD []) = .ok s₁)
    (h₂ : forSorted (compareStamped E ReceiptCommitmentV1.timestamp (receiptHash E.host.noble))
      (scanReceipt E input) s₁ (input.receipts.getD []) = .ok s₂)
    (h₃ : forSorted (compareStamped E AttestationV1.issued_at (attestationHash E.host.noble))
      (collect (attestationEdges E input)) s₂ (input.attestations.getD []) = .ok s₃)
    (h₄ : forSorted (compareStamped E AttestationV2.issued_at (attestationV2Hash E.host.noble))
      (collect (attestationV2Edges E input)) s₃ (input.attestations_v2.getD []) = .ok s₄)
    (h₅ : forSorted
      (compareStamped E DelegationPolicyV2.valid_from (delegationPolicyV2Hash E.host.noble))
      (collect (delegationEdges E input)) s₄ (input.delegation_policies.getD []) = .ok s₅) :
    scanEvidence E input = .ok s₅ := by
  exact bind_eq_ok.mpr ⟨s₁, h₁, bind_eq_ok.mpr ⟨s₂, h₂, bind_eq_ok.mpr ⟨s₃, h₃,
    bind_eq_ok.mpr ⟨s₄, h₄, h₅⟩⟩⟩⟩

theorem foldlM_scanEvent_error {events : List EventCommitmentV1}
    (hall : ∀ event ∈ events, Returns (signedEvent E input event))
    (h : events.foldlM (scanEvent E input) s = .error e) :
    e = "TSL_GRAPH_EVENT_REPLAY_DETECTED" := by
  induction events generalizing s with
  | nil => cases h
  | cons event events ih =>
    obtain ⟨signed, hsigned⟩ := hall event List.mem_cons_self
    have hrest := fun other ho => hall other (List.mem_cons_of_mem _ ho)
    rw [List.foldlM_cons, scanEvent_eq, hsigned] at h
    cases signed with
    | none => exact ih hrest h
    | some signed =>
      by_cases hr : s.replays signed = true
      · simp only [bind, Except.bind, scanSigned, hr, if_true] at h
        cases h
        rfl
      · simp only [bind, Except.bind, scanSigned_records hr] at h
        exact ih hrest h

variable [Std.TransCmp E.localeCompare]

/-- A loop pushes the edges of a second copy as well. -/
theorem forSorted_collect_copied (edges : (Hex32 → Option TrustID) → α → Js (List GraphEdgeV0))
    (hrun : forSorted (compareStamped E stamp text)
      (fun s => collect (edges s.eventSenderByCommitment.get?) s) s items = .ok t)
    (hi : item ∈ items) (hh : Returns (text item)) :
    ∃ pushed u, edges s.eventSenderByCommitment.get? item = .ok pushed ∧
      forSorted (compareStamped E stamp text)
        (fun s => collect (edges s.eventSenderByCommitment.get?) s) s (item :: items) = .ok u ∧
      Extends pushed t u := by
  obtain ⟨pushed, hpushed⟩ := (forSorted_collect edges hrun).2.2 item hi
  obtain ⟨v, hv, hext⟩ := forSorted_extends edges (Extends.push s pushed) hrun
  have hcopied := forSorted_copied (collect_commutes edges) (compareStamped_compares E stamp text)
    hi (returns_not_fails hh) s
  have hfirst : collect (edges s.eventSenderByCommitment.get?) s item = .ok (s.push pushed) := by
    rw [collect, hpushed]
    rfl
  simp only [hfirst, bind, Except.bind, hv] at hcopied
  obtain ⟨u, hu, hsame⟩ := hcopied.ok_right
  exact ⟨pushed, u, hpushed, hu, SameState.trans hext hsame.symm⟩

/-- A second copy adds the edges of the item once more, and nothing else. -/
theorem scanEvidence_copied (h : scanEvidence E input = .ok s) (hi : item.In input)
    (hh : Returns (item.hash E.host.noble))
    (hevent : ∀ event, item = .event event → ¬item.Counted E input) :
    ∃ pushed t, scanEvidence E (input.withCopy item) = .ok t ∧ Extends pushed s t ∧
      (pushed = [] ↔ ¬item.Counted E input) := by
  obtain ⟨s₁, h₁, h⟩ := bind_eq_ok.mp h
  obtain ⟨s₂, h₂, h⟩ := bind_eq_ok.mp h
  obtain ⟨s₃, h₃, h⟩ := bind_eq_ok.mp h
  obtain ⟨s₄, h₄, h₅⟩ := bind_eq_ok.mp h
  cases item with
  | event item =>
    have hnot := hevent item rfl
    obtain ⟨signed, hsigned⟩ := signedEvent_returns h₁ hi
    cases signed with
    | some signed => exact absurd ⟨signed, hsigned⟩ hnot
    | none =>
      have hcopied := forSorted_copied (scanEvent_commutes E input)
        (compareStamped_compares E EventCommitmentV1.timestamp (eventHash E.host.noble)) hi
        (returns_not_fails hh) .start
      have hfirst : scanEvent E input .start item = .ok .start := by
        rw [scanEvent, hsigned]
        rfl
      simp only [hfirst, bind, Except.bind, h₁] at hcopied
      obtain ⟨t₁, ht₁, hsame⟩ := hcopied.ok_right
      have hx₁ : Extends [] s₁ t₁ := by
        refine SameState.trans ?_ hsame.symm
        rw [GraphState.push, List.append_nil]
        exact SameState.refl _
      obtain ⟨t₂, ht₂, hx₂⟩ := forSorted_extends (receiptEdges E input) hx₁ h₂
      obtain ⟨t₃, ht₃, hx₃⟩ := forSorted_extends (fun _ => attestationEdges E input) hx₂ h₃
      obtain ⟨t₄, ht₄, hx₄⟩ := forSorted_extends (fun _ => attestationV2Edges E input) hx₃ h₄
      obtain ⟨t₅, ht₅, hx₅⟩ := forSorted_extends (fun _ => delegationEdges E input) hx₄ h₅
      exact ⟨[], t₅, scanEvidence_ok ht₁ ht₂ ht₃ ht₄ ht₅, hx₅, by simp [hnot]⟩
  | receipt item =>
    have hsenders := (forSorted_scanEvent h₁).1
    obtain ⟨pushed, t₂, hp, ht₂, hx₂⟩ := forSorted_collect_copied (receiptEdges E input) h₂ hi hh
    obtain ⟨t₃, ht₃, hx₃⟩ := forSorted_extends (fun _ => attestationEdges E input) hx₂ h₃
    obtain ⟨t₄, ht₄, hx₄⟩ := forSorted_extends (fun _ => attestationV2Edges E input) hx₃ h₄
    obtain ⟨t₅, ht₅, hx₅⟩ := forSorted_extends (fun _ => delegationEdges E input) hx₄ h₅
    refine ⟨pushed, t₅, scanEvidence_ok h₁ ht₂ ht₃ ht₄ ht₅, hx₅, ?_⟩
    rw [nil_iff_none fun edge => receiptEdges_ok hp]
    apply not_congr
    constructor
    · exact fun hadds => ⟨_, hsenders, hadds⟩
    · rintro ⟨senderOf, hother, hadds⟩
      rwa [hother.unique hsenders] at hadds
  | attestation item =>
    obtain ⟨pushed, t₃, hp, ht₃, hx₃⟩ :=
      forSorted_collect_copied (fun _ => attestationEdges E input) h₃ hi hh
    obtain ⟨t₄, ht₄, hx₄⟩ := forSorted_extends (fun _ => attestationV2Edges E input) hx₃ h₄
    obtain ⟨t₅, ht₅, hx₅⟩ := forSorted_extends (fun _ => delegationEdges E input) hx₄ h₅
    exact ⟨pushed, t₅, scanEvidence_ok h₁ h₂ ht₃ ht₄ ht₅, hx₅,
      nil_iff_none fun edge => attestationEdges_ok hp⟩
  | attestation_v2 item =>
    obtain ⟨pushed, t₄, hp, ht₄, hx₄⟩ :=
      forSorted_collect_copied (fun _ => attestationV2Edges E input) h₄ hi hh
    obtain ⟨t₅, ht₅, hx₅⟩ := forSorted_extends (fun _ => delegationEdges E input) hx₄ h₅
    exact ⟨pushed, t₅, scanEvidence_ok h₁ h₂ h₃ ht₄ ht₅, hx₅,
      nil_iff_none fun edge => attestationV2Edges_ok hp⟩
  | delegation_policy item =>
    obtain ⟨pushed, t₅, hp, ht₅, hx₅⟩ :=
      forSorted_collect_copied (fun _ => delegationEdges E input) h₅ hi hh
    exact ⟨pushed, t₅, scanEvidence_ok h₁ h₂ h₃ h₄ ht₅, hx₅,
      nil_iff_none fun edge => delegationEdges_ok hp⟩

theorem forSorted_untold (stamp : α → RFC3339) (text : α → Js JsString) (hi : item ∈ items)
    (hf : Fails (text item)) (s : GraphState) :
    Fails (forSorted (compareStamped E stamp text) step s (item :: items)) :=
  forSorted_stuck (compareStamped_compares E stamp text) hi hf s

/-- An item that has no text to compare stops the sort as soon as there are two of it. -/
theorem scanEvidence_stuck (hi : item.In input) (hf : Fails (item.hash E.host.noble)) :
    Fails (scanEvidence E (input.withCopy item)) := by
  cases item with
  | event item =>
    exact (forSorted_untold EventCommitmentV1.timestamp (eventHash E.host.noble) hi hf _).bind _
  | receipt item =>
    refine Fails.of_bind fun s => ?_
    exact (forSorted_untold ReceiptCommitmentV1.timestamp (receiptHash E.host.noble) hi hf
      s).bind _
  | attestation item =>
    refine Fails.of_bind fun _ => Fails.of_bind fun s => ?_
    exact (forSorted_untold AttestationV1.issued_at (attestationHash E.host.noble) hi hf
      s).bind _
  | attestation_v2 item =>
    refine Fails.of_bind fun _ => Fails.of_bind fun _ => Fails.of_bind fun s => ?_
    exact (forSorted_untold AttestationV2.issued_at (attestationV2Hash E.host.noble) hi hf
      s).bind _
  | delegation_policy item =>
    refine Fails.of_bind fun _ => Fails.of_bind fun _ => Fails.of_bind fun _ =>
      Fails.of_bind fun s => ?_
    exact forSorted_untold DelegationPolicyV2.valid_from (delegationPolicyV2Hash E.host.noble) hi
      hf s

/-- A loop that meets a signed event for the second time rejects it as a replay. -/
theorem forSorted_scanEvent_replay
    (hrun : forSorted (compareStamped E EventCommitmentV1.timestamp (eventHash E.host.noble))
      (scanEvent E input) .start events = .ok s)
    (hi : event ∈ events) (hsigned : signedEvent E input event = .ok (some signed))
    (hp : copies.Perm (event :: events)) :
    forSorted (compareStamped E EventCommitmentV1.timestamp (eventHash E.host.noble))
      (scanEvent E input) .start copies = .error "TSL_GRAPH_EVENT_REPLAY_DETECTED" := by
  have hcmp := compareStamped_compares E EventCommitmentV1.timestamp (eventHash E.host.noble)
  have hcomm := scanEvent_commutes E input
  have hm : ¬Fails (eventHash E.host.noble event) := by
    obtain ⟨hash, hhash, -⟩ := bind_eq_ok.mp hsigned
    exact returns_not_fails ⟨hash, hhash⟩
  have hfirst : scanEvent E input .start event = .ok (GraphState.start.record signed) := by
    rw [scanEvent_eq, hsigned]
    rfl
  have hagain : Fails (scanEvent E input (GraphState.start.record signed) event) := by
    rw [scanEvent_eq, hsigned]
    exact scanSigned_replayed ((replays_record _ _ _).mpr (.inl (.inl rfl)))
  have hfails : Fails (forSorted (compareStamped E EventCommitmentV1.timestamp
      (eventHash E.host.noble)) (scanEvent E input) .start copies) := by
    refine (forSorted_reordered hcomm hcmp hp (SameState.refl _)).fails_right ?_
    refine (forSorted_copied hcomm hcmp hi hm _).fails_right ?_
    rw [hfirst]
    exact forSorted_fails hcomm hi hagain
  have hfree := not_blocked_copied (forSorted_unblocked hcmp hrun) hi hm
  obtain ⟨sorted, hsort⟩ := sortM_returns hcmp ((hp.pairwise_iff not_blocked_symm).mpr hfree)
  obtain ⟨e, he⟩ := hfails
  rw [he]
  rw [forSorted, hsort] at he
  refine congrArg Except.error (foldlM_scanEvent_error (fun other ho => ?_) he)
  rcases List.mem_cons.mp (hp.subset ((sortM_perm hsort).subset ho)) with rfl | ho
  · exact ⟨_, hsigned⟩
  · exact signedEvent_returns hrun ho

/-- A second copy leaves the graph as it is exactly when the item is no evidence, as far as it has
a hash; a second copy of a signed event is rejected. -/
theorem constructGraphFromEvidenceV0_copied [SeparatesNumbers E.localeCompare]
    (h : constructGraphFromEvidenceV0 E input = .ok graph) (hi : item.In input)
    (hc : Reordered (input.withCopy item) copied) :
    (constructGraphFromEvidenceV0 E copied = .ok graph ↔
      Returns (item.hash E.host.noble) ∧ ¬item.Counted E input) ∧
    ∀ event, item = .event event → item.Counted E input →
      constructGraphFromEvidenceV0 E copied = .error "TSL_GRAPH_EVENT_REPLAY_DETECTED" := by
  obtain ⟨s, hs, hedges⟩ := constructGraphFromEvidenceV0_edges h
  obtain ⟨s₁, h₁, -⟩ := bind_eq_ok.mp hs
  have hreplay : ∀ event, item = .event event → item.Counted E input →
      constructGraphFromEvidenceV0 E copied = .error "TSL_GRAPH_EVENT_REPLAY_DETECTED" := by
    rintro event rfl ⟨signed, hsigned⟩
    have hloop := forSorted_scanEvent_replay h₁ hi hsigned hc.events.symm
    have hscan : scanEvent E copied = scanEvent E input := by
      rw [hc.rest]
      rfl
    rw [constructGraphFromEvidenceV0, scanEvidence, hscan, hloop]
    rfl
  have hscans := scanEvidence_reordered E hc.events hc.receipts hc.attestations
    hc.attestations_v2 hc.delegation_policies hc.rest
  refine ⟨⟨fun hcopied => ?_, fun hboth => ?_⟩, hreplay⟩
  · obtain ⟨u, hu, hpu⟩ := constructGraphFromEvidenceV0_edges hcopied
    rw [hu] at hscans
    obtain ⟨t, ht, hsame⟩ := hscans.ok_right
    have hh : Returns (item.hash E.host.noble) := by
      cases hhash : item.hash E.host.noble with
      | ok hash => exact ⟨hash, rfl⟩
      | error e =>
        obtain ⟨e', he⟩ := scanEvidence_stuck hi ⟨e, hhash⟩
        rw [ht] at he
        cases he
    have hevent : ∀ event, item = .event event → ¬item.Counted E input := by
      intro event he hcounted
      rw [hreplay event he hcounted] at hcopied
      cases hcopied
    obtain ⟨pushed, t', ht', hext, hnil⟩ := scanEvidence_copied hs hi hh hevent
    cases ht.symm.trans ht'
    refine ⟨hh, hnil.mp (List.length_eq_zero_iff.mp ?_)⟩
    have hlength := (hext.edges.trans hsame.edges).length_eq
    have hgraph := hedges.length_eq
    have hcopy := hpu.length_eq
    simp only [GraphState.push, List.length_append] at hlength
    omega
  · obtain ⟨hh, hnot⟩ := hboth
    obtain ⟨pushed, t, ht, hext, hnil⟩ := scanEvidence_copied hs hi hh fun _ _ => hnot
    cases hnil.mpr hnot
    rw [ht] at hscans
    obtain ⟨u, hu, hsame⟩ := hscans.ok_left
    have hperm : s.edges.Perm u.edges := by
      have hsu := hext.edges.trans hsame.edges
      rwa [GraphState.push, List.append_nil] at hsu
    have hsort := graphFromVerifiedEdgesV0_reordered E hperm
    rw [constructGraphFromEvidenceV0, hs] at h
    rw [show graphFromVerifiedEdgesV0 E s.edges = .ok graph from h] at hsort
    obtain ⟨same, hgraph, rfl⟩ := hsort.ok_left
    rw [constructGraphFromEvidenceV0, hu]
    exact hgraph

end Loops

/-- An attestation that is there twice makes two edges, and its subject a greater degree. -/
theorem vouching_copied :
    let E := sampleEngine vouchingNoble
    let input := vouchingEvidence [firstVouching]
    let copied := input.withCopy (.attestation firstVouching)
    let measured := fun graph : GraphV0 => (graph.edges.length, (graphMeasures E
      { seededInput graph with subject := js "did:tsl:bob" }).weighted_degree_bps)
    EvidenceItem.In input (.attestation firstVouching) ∧
      measured <$> constructGraphFromEvidenceV0 E input = .ok (1, 7000) ∧
      measured <$> constructGraphFromEvidenceV0 E copied = .ok (2, 10000) := by
  refine ⟨List.mem_singleton_self _, ?_⟩
  decide +kernel

def unsignedVouching : AttestationV1 := { firstVouching with signature := [] }

/-- A second copy of an attestation that its issuer did not sign changes nothing. -/
theorem constructGraphFromEvidenceV0_copied_sample :
    let E := sampleEngine vouchingNoble
    let input := vouchingEvidence [unsignedVouching]
    ∃ graph, constructGraphFromEvidenceV0 E input = .ok graph ∧
      constructGraphFromEvidenceV0 E (input.withCopy (.attestation unsignedVouching)) =
        .ok graph := by
  intro E input
  have htrans : Std.TransCmp E.localeCompare :=
    inferInstanceAs (Std.TransCmp fun a b : List UInt16 => compare a b)
  have hlawful : Std.LawfulEqCmp E.localeCompare :=
    inferInstanceAs (Std.LawfulEqCmp fun a b : List UInt16 => compare a b)
  have hrun : (constructGraphFromEvidenceV0 E input).isOk = true ∧
      (attestationHash E.host.noble unsignedVouching).isOk = true ∧
      List.isEmpty <$> attestationEdges E input unsignedVouching = .ok true := by
    decide +kernel
  obtain ⟨hgraph, hhash, hedges⟩ := hrun
  obtain ⟨graph, hgraph⟩ := Returns.of_isOk hgraph
  obtain ⟨pushed, hpushed, hempty⟩ := map_eq_ok.mp hedges
  have hin : EvidenceItem.In input (.attestation unsignedVouching) := List.mem_singleton_self _
  refine ⟨graph, hgraph, (constructGraphFromEvidenceV0_copied hgraph hin
    (Reordered.refl _)).1.mpr ⟨Returns.of_isOk hhash, ?_⟩⟩
  rintro ⟨edge, hadds⟩
  have hmem := (attestationEdges_ok hpushed).mpr hadds
  rw [List.isEmpty_iff.mp hempty] at hmem
  cases hmem

end Continuity

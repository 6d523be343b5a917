import Continuity.RelaySystem
import Continuity.VerifierSound

namespace Continuity
open Collections Frames
set_option autoImplicit true

/-- The accepted events of a segment, in the order in which they were accepted. -/
def acceptedIn (epoch : JsNumber) (shard : JsString) (accepted : List AcceptedEvent) :
    List AcceptedEvent :=
  accepted.filter fun a => inSegment epoch shard a.toAcceptedLogObject

/-- The checks that a resumed call meets after the verifier. -/
def Admitted (R : Relay) (S : InMemoryRelayStore) (call : PendingEvent) : Prop :=
  (∃ verification, call.verification = .ok verification ∧ verification.verified = true) ∧
    S.segmentClosed R (R.epochStart (some call.eventTime))
      (shardForTrustID R.noble call.event.sender) = false

/-- A resumed call that goes on to the log finds its nonce unused and its commitment unknown. -/
def FreshResume (R : Relay) (s : RelaySystem) (entry : Clock × RelayAction) : Prop :=
  ∀ n call, entry.2 = .resumeEvent n → s.pending[n]? = some call → Admitted R s.store call →
    nonceKey call.event ∉ s.store.nonces ∧
      ∀ c, commitmentHash R.noble call.event = .ok c → s.store.events.has c = false

/-- The log is the list of the accepted events, one for each nonce, with dense indices. -/
structure LogInvariant (R : Relay) (s : RelaySystem) : Prop where
  honest : ∀ call ∈ s.pending, ∀ verification c, call.verification = .ok verification →
    verification.commitment_hash = some c → commitmentHash R.noble call.event = .ok c
  stored : s.store.events.values = s.accepted
  recorded : ∀ a ∈ s.accepted, nonceKey a.event ∈ s.store.nonces
  unique : s.accepted.Pairwise fun a b => nonceKey a.event ≠ nonceKey b.event
  dense : ∀ epoch shard, (acceptedIn epoch shard s.accepted).map (·.log_index) =
    List.range (acceptedIn epoch shard s.accepted).length

section Segment

variable {α : Type} {f : α → AcceptedLogObject} {items : List α} {a : α}

/-- The items of a segment, in the order of the list. -/
def segmentOf (f : α → AcceptedLogObject) (items : List α) (epoch : JsNumber) (shard : JsString) :
    List α :=
  items.filter fun item => inSegment epoch shard (f item)

/-- In every segment the indices count the items from 0. -/
def DenseIndices (f : α → AcceptedLogObject) (items : List α) : Prop :=
  ∀ epoch shard, ((segmentOf f items epoch shard).map fun item => (f item).log_index) =
    List.range (segmentOf f items epoch shard).length

theorem inSegment_congr (h : epoch.strictEq epoch' = true) (shard : JsString)
    (item : AcceptedLogObject) : inSegment epoch shard item = inSegment epoch' shard item := by
  rw [inSegment, inSegment, JsNumber.strictEq_congr h]

/-- Equal segments hold the same items. -/
theorem segmentOf_congr (h : epoch.strictEq epoch' = true) (shard : JsString) :
    segmentOf f items epoch shard = segmentOf f items epoch' shard := by
  apply List.filter_congr
  intro item _
  exact inSegment_congr h shard (f item)

theorem segmentOf_own (h : inSegment epoch shard item = true) :
    segmentOf f items item.epoch_start_ms item.shard = segmentOf f items epoch shard := by
  simp only [inSegment, Bool.and_eq_true, beq_iff_eq] at h
  rw [segmentOf_congr h.1, h.2]

theorem insertionSort_eq_of_perm {g : α → Nat} {items sorted : List α} (hp : items.Perm sorted)
    (hs : sorted.Pairwise fun left right => g left < g right) :
    (items.insertionSort fun left right => g left ≤ g right) = sorted := by
  have hperm := (List.perm_insertionSort (fun left right => g left ≤ g right) items).trans hp
  have hnodup : (sorted.map g).Nodup := by
    rw [List.Nodup, List.pairwise_map]
    exact hs.imp Nat.ne_of_lt
  apply hperm.eq_of_pairwise
  · intro a b ha hb hab hba
    exact List.inj_on_of_nodup_map hnodup (hperm.mem_iff.mp ha) hb (Nat.le_antisymm hab hba)
  · exact List.pairwise_insertionSort _ items
  · exact hs.imp Nat.le_of_lt

/-- Dense indices are in order already. -/
theorem DenseIndices.insertionSort_eq (h : DenseIndices f items) (epoch : JsNumber)
    (shard : JsString) :
    ((segmentOf f items epoch shard).insertionSort fun left right =>
      (f left).log_index ≤ (f right).log_index) = segmentOf f items epoch shard := by
  have hp : (segmentOf f items epoch shard).Pairwise
      fun left right => (f left).log_index ≤ (f right).log_index := by
    rw [← List.pairwise_map (f := fun item => (f item).log_index) (R := (· ≤ ·)), h]
    exact List.pairwise_le_range
  exact hp.insertionSort_eq

/-- An item with the next index of its segment keeps the indices dense. -/
theorem DenseIndices.append (h : DenseIndices f items)
    (hi : (f a).log_index = (segmentOf f items (f a).epoch_start_ms (f a).shard).length) :
    DenseIndices f (items ++ [a]) := by
  intro epoch shard
  have happ : segmentOf f (items ++ [a]) epoch shard =
      segmentOf f items epoch shard ++ segmentOf f [a] epoch shard := List.filter_append ..
  rw [happ]
  cases hseg : inSegment epoch shard (f a) with
  | false =>
    have hnone : segmentOf f [a] epoch shard = [] := by simp [segmentOf, hseg]
    rw [hnone, List.append_nil]
    exact h epoch shard
  | true =>
    have hone : segmentOf f [a] epoch shard = [a] := by simp [segmentOf, hseg]
    rw [segmentOf_own hseg] at hi
    rw [hone, List.map_append, h, List.map_singleton, hi, List.length_append,
      List.length_singleton, List.range_succ]

/-- The place of an item in its segment is its index. -/
theorem DenseIndices.indexed (h : DenseIndices f items) (ha : a ∈ segmentOf f items epoch shard) :
    (segmentOf f items epoch shard)[(f a).log_index]? = some a := by
  obtain ⟨i, hi, he⟩ := List.getElem_of_mem ha
  have hx : ((segmentOf f items epoch shard).map fun item => (f item).log_index)[i]? = some i := by
    rw [h epoch shard, List.getElem?_range hi]
  rw [List.getElem?_map, List.getElem?_eq_getElem hi, he, Option.map_some, Option.some.injEq] at hx
  rw [hx, List.getElem?_eq_getElem hi, he]

/-- An item that gets the next index of its own segment moves to the end of it. -/
theorem DenseIndices.reindexed {b : α} (h : DenseIndices f (before ++ a :: after))
    (he : (f b).epoch_start_ms = (f a).epoch_start_ms) (hs : (f b).shard = (f a).shard)
    (hi : (f b).log_index =
      (segmentOf f (before ++ a :: after) (f b).epoch_start_ms (f b).shard).length)
    (hseg : inSegment epoch shard (f a) = true) :
    ((segmentOf f (before ++ b :: after) epoch shard).insertionSort fun left right =>
        (f left).log_index ≤ (f right).log_index) =
      segmentOf f before epoch shard ++ segmentOf f after epoch shard ++ [b] := by
  have hb : inSegment epoch shard (f b) = true := by
    rw [inSegment, he, hs]
    exact hseg
  have hold : segmentOf f (before ++ a :: after) epoch shard =
      segmentOf f before epoch shard ++ a :: segmentOf f after epoch shard := by
    simp [segmentOf, List.filter_append, hseg]
  have hnew : segmentOf f (before ++ b :: after) epoch shard =
      segmentOf f before epoch shard ++ b :: segmentOf f after epoch shard := by
    simp [segmentOf, List.filter_append, hb]
  rw [segmentOf_own hb, hold] at hi
  have hd := h epoch shard
  rw [hold] at hd
  rw [hnew]
  generalize segmentOf f before epoch shard = pre at *
  generalize segmentOf f after epoch shard = post at *
  have hlt : (pre ++ a :: post).Pairwise
      fun left right => (f left).log_index < (f right).log_index := by
    rw [← List.pairwise_map (f := fun item => (f item).log_index) (R := (· < ·)), hd]
    exact List.pairwise_lt_range
  have hbelow : ∀ item ∈ pre ++ a :: post, (f item).log_index < (f b).log_index := by
    intro item hm
    have hmem := List.mem_map_of_mem (f := fun item => (f item).log_index) hm
    rw [hd, List.mem_range] at hmem
    rw [hi]
    exact hmem
  have hsorted : (pre ++ post ++ [b]).Pairwise
      fun left right => (f left).log_index < (f right).log_index := by
    have hsub : (pre ++ post).Sublist (pre ++ a :: post) :=
      List.Sublist.append_left (List.sublist_cons_self a post) pre
    rw [List.pairwise_append]
    refine ⟨hlt.sublist hsub, List.pairwise_singleton _ _, ?_⟩
    intro item hm last hl
    rw [List.mem_singleton.mp hl]
    exact hbelow item (hsub.subset hm)
  have hperm : (pre ++ b :: post).Perm (pre ++ post ++ [b]) := by
    rw [List.append_assoc]
    exact (List.perm_append_singleton b post).symm.append_left pre
  exact insertionSort_eq_of_perm hperm hsorted

theorem eventsFor_length {S : InMemoryRelayStore} (h : S.events.values = accepted)
    (epoch : JsNumber) (shard : JsString) :
    (S.eventsFor epoch shard).length = (acceptedIn epoch shard accepted).length := by
  rw [InMemoryRelayStore.eventsFor, segmentItems, List.length_insertionSort, h, acceptedIn]

theorem eventsFor_eq {S : InMemoryRelayStore} (h : S.events.values = accepted)
    (hd : DenseIndices AcceptedEvent.toAcceptedLogObject accepted) (epoch : JsNumber)
    (shard : JsString) : S.eventsFor epoch shard = acceptedIn epoch shard accepted := by
  rw [InMemoryRelayStore.eventsFor, segmentItems, h]
  exact hd.insertionSort_eq epoch shard

end Segment

section Invariant

variable {R : Relay} {s t : RelaySystem}

theorem beginAcceptEvent_honest {S : InMemoryRelayStore} {verification : VerificationResult}
    (h : S.beginAcceptEvent R event = .ok call)
    (hv : call.verification = .ok verification) (hc : verification.commitment_hash = some c) :
    commitmentHash R.noble call.event = .ok c := by
  obtain ⟨he, -, -, hcall⟩ := beginAcceptEvent_ok h
  rw [hcall] at hv
  obtain ⟨envelope, henvelope, hcommit⟩ := verifyTSL_commitment hv hc
  cases henvelope
  rw [he]
  exact hcommit

/-- A step that keeps the log keeps the invariant when its new calls are honest. -/
theorem LogInvariant.of_same (h : LogInvariant R s) (hl : SameLog s t)
    (hp : ∀ call ∈ t.pending, call ∈ s.pending ∨
      ∀ verification c, call.verification = .ok verification →
        verification.commitment_hash = some c → commitmentHash R.noble call.event = .ok c) :
    LogInvariant R t where
  honest call hm := (hp call hm).elim (h.honest call) id
  stored := by rw [hl.events, hl.accepted, h.stored]
  recorded := by
    rw [hl.accepted, hl.nonces]
    exact h.recorded
  unique := by
    rw [hl.accepted]
    exact h.unique
  dense := by
    rw [hl.accepted]
    exact h.dense

/-- A fresh event goes to the end of the log. -/
theorem LogInvariant.logged (h : LogInvariant R s)
    (hok : s.store.finishAcceptEvent R' call = .ok (accepted, store))
    (hn : nonceKey call.event ∉ s.store.nonces)
    (hs : s.store.events.has accepted.commitment_hash = false) :
    LogInvariant R { s with
      store
      pending := s.pending.eraseIdx n
      accepted := s.accepted ++ [accepted] } := by
  obtain ⟨verification, -, -, -, he, -, -, -, hi, rfl⟩ := finishAcceptEvent_ok hok
  refine ⟨?_, ?_, ?_, ?_, ?_⟩
  · intro call hm
    exact h.honest call (List.mem_of_mem_eraseIdx hm)
  · rw [OrderedMap.values_set_of_has _ hs, h.stored]
  · intro a ha
    rcases List.mem_append.mp ha with ha | ha
    · exact Finset.mem_insert_of_mem (h.recorded a ha)
    · rw [List.mem_singleton.mp ha, he]
      exact Finset.mem_insert_self _ _
  · rw [List.pairwise_append]
    refine ⟨h.unique, List.pairwise_singleton _ _, ?_⟩
    intro a ha b hb hne
    rw [List.mem_singleton.mp hb, he] at hne
    exact hn (hne ▸ h.recorded a ha)
  · rw [eventsFor_length h.stored] at hi
    have hd : DenseIndices AcceptedEvent.toAcceptedLogObject s.accepted := h.dense
    exact hd.append hi

theorem LogInvariant.act (h : LogInvariant R s) (hR : R'.noble = R.noble)
    (hf : FreshResume R' s (clock, action)) : LogInvariant R (s.act R' action) := by
  have ht := act_transition R' s action
  rcases ht.log with hl | ⟨n, call, accepted, store, rfl, hc, hok, he⟩
  · apply h.of_same hl
    intro call hm
    rcases ht.pending call hm with hm | ⟨event, hb⟩
    · exact .inl hm
    · refine .inr ?_
      intro verification c hv hc
      rw [← hR]
      exact beginAcceptEvent_honest hb hv hc
  · obtain ⟨verification, hv, hverified, hcommit, -, hepoch, hshard, hopen, -⟩ :=
      finishAcceptEvent_ok hok
    rw [hepoch, hshard] at hopen
    obtain ⟨hn, hnew⟩ := hf n call rfl hc ⟨⟨verification, hv, hverified⟩, hopen⟩
    rw [he]
    apply h.logged hok hn
    apply hnew
    rw [hR]
    exact h.honest call (List.mem_of_getElem? hc) verification _ hv hcommit

theorem LogInvariant.init (R : Relay) (resolver : MemoryTrustResolver) :
    LogInvariant R (.idle (.blank resolver)) := by
  refine ⟨?_, rfl, ?_, .nil, fun _ _ => rfl⟩
  · intro call hm
    cases hm
  · intro a ha
    cases ha

/-- One step of a run without a replay. -/
theorem LogInvariant.step (h : LogInvariant R s) (hf : FreshResume R s entry) :
    LogInvariant R (s.step R entry) :=
  h.act (R.at_noble entry.1) hf

end Invariant

/-- Overlapping calls that find their nonce and their commitment unused when they resume never
accept a nonce twice, and number the events of every segment from 0. -/
theorem acceptEvent_overlap (h : InMemoryRelayStore.create R = .ok store)
    (hg : Guarded (RelaySystem.step R) (FreshResume R) (.idle store) actions) :
    let s := run (RelaySystem.step R) (.idle store) actions
    (s.accepted.Pairwise fun a b =>
        (a.event.sender, a.event.signing_key_id, a.event.nonce) ≠
          (b.event.sender, b.event.signing_key_id, b.event.nonce)) ∧
      ∀ epoch shard,
        (acceptedIn epoch shard s.accepted).map (·.log_index) =
          List.range (acceptedIn epoch shard s.accepted).length ∧
        s.store.eventsFor epoch shard = acceptedIn epoch shard s.accepted := by
  obtain ⟨resolver, rfl⟩ := create_ok h
  intro s
  have hs : LogInvariant R s :=
    run_guarded (fun t entry hf ht => ht.step hf) hg (.init R resolver)
  refine ⟨?_, fun epoch shard => ⟨hs.dense epoch shard, eventsFor_eq hs.stored hs.dense epoch shard⟩⟩
  apply hs.unique.imp
  intro a b hne he
  simp only [Prod.mk.injEq] at he
  exact hne (by rw [nonceKey, nonceKey, he.1, he.2.1, he.2.2])

/-- A relay with the default options. -/
def sampleRelay (N : Noble) : Relay where
  host := sampleHost N
  tools := sampleTools
  options := {
    relay_id := none
    relay_signing_key_id := none
    relay_signing_seed_hex := none
    epoch_duration_ms := none
    timestamp_window_ms := none
    settlement_backend := none }

def logDigests : List (Bytes × Bytes) :=
  signedDigests ++ [(textEncode (js "did:tsl:alice"),
    bigEndian 32 0x0daa9b8b453fb97ed5ea2d40497ddbf4837fc6d8faa09125149ec00bb164e59d)]

def logNoble : Noble := recorded logDigests sampleSignatures longDigest

def sampleClock : Clock := ⟨1779667200000, js "2026-05-25T00:00:00.000Z"⟩

/-- Two overlapping calls with the same event. -/
def overlapActions : List (Clock × RelayAction) :=
  [(sampleClock, .upsertIdentity aliceIdentity), (sampleClock, .beginEvent sampleEnvelope),
    (sampleClock, .beginEvent sampleEnvelope), (sampleClock, .resumeEvent 0),
    (sampleClock, .resumeEvent 0)]

/-- Both are accepted, and the only event of the log has index 1. -/
theorem acceptEvent_overlap_replay :
    ∃ store, InMemoryRelayStore.create (sampleRelay logNoble) = .ok store ∧
      let s := run (RelaySystem.step (sampleRelay logNoble)) (.idle store) overlapActions
      (s.accepted.map fun a => (a.event.sender, a.event.signing_key_id, a.event.nonce)) =
        [(sampleEnvelope.sender, sampleEnvelope.signing_key_id, sampleEnvelope.nonce),
          (sampleEnvelope.sender, sampleEnvelope.signing_key_id, sampleEnvelope.nonce)] ∧
      ((s.store.eventsFor (.ofNat 1779667200000) (js "0daa")).map fun a => a.log_index) = [1] := by
  refine ⟨_, rfl, ?_⟩
  decide +kernel

theorem freshResume_of_empty (hn : s.store.nonces = ∅) (he : s.store.events.entries = [])
    (entry : Clock × RelayAction) : FreshResume R s entry := by
  intro n call _ _ _
  refine ⟨by simp [hn], ?_⟩
  intro c _
  simp [OrderedMap.has, OrderedMap.get?, he, getEntry]

/-- One call that nothing overlaps. -/
def loneActions : List (Clock × RelayAction) :=
  [(sampleClock, .upsertIdentity aliceIdentity), (sampleClock, .beginEvent sampleEnvelope),
    (sampleClock, .resumeEvent 0)]

theorem acceptEvent_overlap_sample :
    let s := run (RelaySystem.step (sampleRelay logNoble)) (.idle (.blank ⟨.empty⟩)) loneActions
    (s.accepted.Pairwise fun a b =>
        (a.event.sender, a.event.signing_key_id, a.event.nonce) ≠
          (b.event.sender, b.event.signing_key_id, b.event.nonce)) ∧
      s.accepted.length = 1 ∧
      (acceptedIn (.ofNat 1779667200000) (js "0daa") s.accepted).map (·.log_index) =
        List.range (acceptedIn (.ofNat 1779667200000) (js "0daa") s.accepted).length := by
  intro s
  let before := run (RelaySystem.step (sampleRelay logNoble)) (.idle (.blank ⟨.empty⟩))
    (loneActions.take 2)
  have hn : before.store.nonces = ∅ := by decide +kernel
  have he : before.store.events.entries.length = 0 := by decide +kernel
  have hg : Guarded (RelaySystem.step (sampleRelay logNoble)) (FreshResume (sampleRelay logNoble))
      (.idle (.blank ⟨.empty⟩)) loneActions :=
    ⟨freshResume_of_empty rfl rfl _, freshResume_of_empty rfl rfl _,
      freshResume_of_empty hn (List.eq_nil_of_length_eq_zero he) _, True.intro⟩
  obtain ⟨hunique, hdense⟩ := acceptEvent_overlap rfl hg
  have hlen : s.accepted.length = 1 := by decide +kernel
  exact ⟨hunique, hlen, (hdense _ _).1⟩

end Continuity

import Continuity.CanonicalInjective
import Continuity.EvidenceGraph
import Continuity.VerifierSound

namespace Continuity
open Collections Reordering
set_option autoImplicit true

/-- Two states of the loops that differ only in the order in which the evidence came. -/
structure SameState (s t : GraphState) : Prop where
  commitments : ∀ c, c ∈ s.seenEventCommitments ↔ c ∈ t.seenEventCommitments
  nonces : ∀ k, k ∈ s.seenEventNonces ↔ k ∈ t.seenEventNonces
  senders : s.eventSenderByCommitment.get? = t.eventSenderByCommitment.get?
  edges : s.edges.Perm t.edges

namespace SameState

theorem refl (s : GraphState) : SameState s s :=
  ⟨fun _ => Iff.rfl, fun _ => Iff.rfl, rfl, List.Perm.refl _⟩

theorem symm (h : SameState s t) : SameState t s where
  commitments c := (h.commitments c).symm
  nonces k := (h.nonces k).symm
  senders := h.senders.symm
  edges := h.edges.symm

theorem trans (h : SameState s t) (h' : SameState t u) : SameState s u where
  commitments c := (h.commitments c).trans (h'.commitments c)
  nonces k := (h.nonces k).trans (h'.nonces k)
  senders := h.senders.trans h'.senders
  edges := h.edges.trans h'.edges

theorem push (h : SameState s t) (edges : List GraphEdgeV0) :
    SameState (s.push edges) (t.push edges) where
  commitments := h.commitments
  nonces := h.nonces
  senders := h.senders
  edges := h.edges.append_right edges

theorem push_swap (s : GraphState) (left right : List GraphEdgeV0) :
    SameState ((s.push left).push right) ((s.push right).push left) where
  commitments _ := Iff.rfl
  nonces _ := Iff.rfl
  senders := rfl
  edges := by
    simp only [GraphState.push, List.append_assoc]
    exact (List.perm_append_comm).append_left s.edges

theorem record (h : SameState s t) (event : SignedEvent) :
    SameState (s.record event) (t.record event) where
  commitments c := by simp only [GraphState.record, List.mem_cons, h.commitments c]
  nonces k := by simp only [GraphState.record, List.mem_cons, h.nonces k]
  senders := by
    funext c
    simp only [GraphState.record, OrderedMap.get?_set, h.senders]
  edges := h.edges.append_right event.edges

theorem replays (h : SameState s t) (event : SignedEvent) : s.replays event = t.replays event := by
  rw [Bool.eq_iff_iff]
  simp only [GraphState.replays, Bool.or_eq_true, List.contains_iff_mem, h.commitments, h.nonces]

end SameState

/-- Two events that cannot both be scanned. -/
def SignedEvent.Clashes (a b : SignedEvent) : Prop :=
  a.commitment = b.commitment ∨ a.replayKey = b.replayKey

theorem replays_record (s : GraphState) (a b : SignedEvent) :
    (s.record a).replays b = true ↔ b.Clashes a ∨ s.replays b = true := by
  simp only [GraphState.replays, GraphState.record, Bool.or_eq_true, List.contains_iff_mem,
    List.mem_cons, SignedEvent.Clashes]
  tauto

theorem record_swap (s : GraphState) (h : ¬a.Clashes b) :
    SameState ((s.record a).record b) ((s.record b).record a) where
  commitments c := by simp only [GraphState.record, List.mem_cons, or_left_comm]
  nonces k := by simp only [GraphState.record, List.mem_cons, or_left_comm]
  senders := by
    funext c
    simp only [GraphState.record, OrderedMap.get?_set]
    by_cases hb : c = b.commitment
    · by_cases ha : c = a.commitment
      · exact absurd (.inl (ha.symm.trans hb)) h
      · rw [if_pos hb, if_neg ha, if_pos hb]
    · by_cases ha : c = a.commitment
      · rw [if_neg hb, if_pos ha, if_pos ha]
      · rw [if_neg hb, if_neg ha, if_neg ha, if_neg hb]
  edges := by
    simp only [GraphState.record, List.append_assoc]
    exact (List.perm_append_comm).append_left s.edges

/-- One event of the loop, once its signature has been looked at. -/
def scanSigned (s : GraphState) (signed : Option SignedEvent) : Js GraphState :=
  match signed with
  | none => return s
  | some signed =>
    if s.replays signed then throw "TSL_GRAPH_EVENT_REPLAY_DETECTED"
    else return s.record signed

theorem scanEvent_eq (s : GraphState) (event : EventCommitmentV1) :
    scanEvent E input s event = signedEvent E input event >>= scanSigned s := by
  rw [scanEvent]
  congr 1

theorem scanSigned_congr (h : SameState s t) (signed : Option SignedEvent) :
    SameOutcome SameState (scanSigned s signed) (scanSigned t signed) := by
  cases signed with
  | none => exact .returns h
  | some signed =>
    simp only [scanSigned, h.replays]
    split
    · exact .fails
    · exact .returns (h.record signed)

theorem scanSigned_records (h : ¬s.replays event = true) :
    scanSigned s (some event) = .ok (s.record event) := if_neg h

theorem scanSigned_replayed (h : s.replays event = true) : Fails (scanSigned s (some event)) :=
  ⟨_, if_pos h⟩

/-- Two events in a row are scanned when neither clashes with the other or with the state. -/
theorem scanSigned_twice (s : GraphState) (a b : SignedEvent)
    (h : ¬(s.replays a = true ∨ b.Clashes a ∨ s.replays b = true)) :
    (scanSigned s (some a) >>= fun t => scanSigned t (some b)) =
      .ok ((s.record a).record b) := by
  rw [scanSigned_records fun ha => h (.inl ha)]
  exact scanSigned_records fun hb => h (.inr ((replays_record s a b).mp hb))

theorem scanSigned_clash (s : GraphState) (a b : SignedEvent)
    (h : s.replays a = true ∨ b.Clashes a ∨ s.replays b = true) :
    Fails (scanSigned s (some a) >>= fun t => scanSigned t (some b)) := by
  by_cases ha : s.replays a = true
  · exact (scanSigned_replayed ha).bind _
  · rw [scanSigned_records ha]
    exact scanSigned_replayed ((replays_record s a b).mpr (h.resolve_left ha))

theorem scanSigned_swap (s : GraphState) (a b : Option SignedEvent) :
    SameOutcome SameState (scanSigned s a >>= fun t => scanSigned t b)
      (scanSigned s b >>= fun t => scanSigned t a) := by
  have hnone : ∀ signed, (scanSigned s signed >>= fun t => scanSigned t none) =
      (scanSigned s none >>= fun t => scanSigned t signed) := fun signed => bind_pure _
  cases a with
  | none =>
    rw [hnone b]
    exact SameOutcome.refl SameState.refl _
  | some a =>
    cases b with
    | none =>
      rw [hnone (some a)]
      exact SameOutcome.refl SameState.refl _
    | some b =>
      by_cases h : s.replays a = true ∨ b.Clashes a ∨ s.replays b = true
      · have h' : s.replays b = true ∨ a.Clashes b ∨ s.replays a = true := by
          rcases h with h | h | h
          · exact .inr (.inr h)
          · exact .inr (.inl (h.imp Eq.symm Eq.symm))
          · exact .inl h
        exact SameOutcome.of_fails (scanSigned_clash s a b h) (scanSigned_clash s b a h')
      · have h' : ¬(s.replays b = true ∨ a.Clashes b ∨ s.replays a = true) := by
          rintro (h' | h' | h')
          · exact h (.inr (.inr h'))
          · exact h (.inr (.inl (h'.imp Eq.symm Eq.symm)))
          · exact h (.inl h')
        rw [scanSigned_twice s a b h, scanSigned_twice s b a h']
        apply SameOutcome.returns
        exact record_swap s fun hc => h (.inr (.inl (hc.imp Eq.symm Eq.symm)))

theorem scanEvent_commutes (E : Engine) (input : GraphEvidence) :
    Commutes (scanEvent E input) SameState where
  refl := SameState.refl
  trans _ _ _ := SameState.trans
  congr h event := by
    rw [scanEvent_eq, scanEvent_eq]
    cases signedEvent E input event with
    | error e => exact .fails
    | ok signed => exact scanSigned_congr h signed
  swap s a b := by
    simp only [scanEvent_eq]
    cases ha : signedEvent E input a with
    | error e =>
      exact SameOutcome.of_fails ⟨e, rfl⟩ (Fails.of_bind fun t => ⟨e, rfl⟩)
    | ok left =>
      cases hb : signedEvent E input b with
      | error e => exact SameOutcome.of_fails (Fails.of_bind fun t => ⟨e, rfl⟩) ⟨e, rfl⟩
      | ok right => exact scanSigned_swap s left right

/-- Loops that push the edges of each item by itself do not depend on its place. -/
theorem collect_commutes (edges : (Hex32 → Option TrustID) → α → Js (List GraphEdgeV0)) :
    Commutes (fun s => collect (edges s.eventSenderByCommitment.get?) s) SameState where
  refl := SameState.refl
  trans _ _ _ := SameState.trans
  congr {s t} h item := by
    simp only [collect, h.senders]
    cases edges t.eventSenderByCommitment.get? item with
    | error e => exact .fails
    | ok pushed => exact .returns (h.push pushed)
  swap s a b := by
    simp only [collect]
    cases ha : edges s.eventSenderByCommitment.get? a with
    | error e =>
      refine SameOutcome.of_fails ⟨e, rfl⟩ ?_
      cases hb : edges s.eventSenderByCommitment.get? b with
      | error e' => exact ⟨e', rfl⟩
      | ok right => exact ⟨e, by simp only [bind, Except.bind, pure, Except.pure, GraphState.push, ha]⟩
    | ok left =>
      cases hb : edges s.eventSenderByCommitment.get? b with
      | error e =>
        exact SameOutcome.of_fails
          ⟨e, by simp only [bind, Except.bind, pure, Except.pure, GraphState.push, hb]⟩ ⟨e, rfl⟩
      | ok right =>
        simp only [bind, Except.bind, pure, Except.pure, GraphState.push, ha, hb]
        exact .returns (SameState.push_swap s left right)

section Texts

/-- An object written as one slot for each key, with the values that the slot holds. -/
def slotFields (slots : List (JsString × List JsValue)) : JsObject :=
  slots.flatMap fun slot => slot.2.map fun value => (slot.1, value)

theorem mem_slotFields {slots : List (JsString × List JsValue)} (h : f ∈ slotFields slots) :
    f.1 ∈ slots.map Prod.fst := by
  obtain ⟨slot, hs, hf⟩ := List.mem_flatMap.mp h
  obtain ⟨value, -, rfl⟩ := List.mem_map.mp hf
  exact List.mem_map_of_mem hs

theorem filter_slotFields {slots : List (JsString × List JsValue)}
    (hn : (slots.map Prod.fst).Nodup) (hm : slot ∈ slots) :
    (slotFields slots).filter (fun f => f.1 == slot.1) =
      slot.2.map fun value => (slot.1, value) := by
  induction slots with
  | nil => cases hm
  | cons first slots ih =>
    obtain ⟨hf, hn⟩ := List.nodup_cons.mp hn
    have hsplit : slotFields (first :: slots) =
        (first.2.map fun value => (first.1, value)) ++ slotFields slots := rfl
    rw [hsplit, List.filter_append]
    rcases List.mem_cons.mp hm with rfl | hm
    · have hrest : (slotFields slots).filter (fun f => f.1 == slot.1) = [] := by
        rw [List.filter_eq_nil_iff]
        intro f hmem he
        exact hf (beq_iff_eq.mp he ▸ mem_slotFields hmem)
      rw [hrest, List.append_nil, List.filter_eq_self]
      intro f hmem
      obtain ⟨value, -, rfl⟩ := List.mem_map.mp hmem
      exact beq_self_eq_true _
    · have hfirst : (first.2.map fun value => (first.1, value)).filter
          (fun f => f.1 == slot.1) = [] := by
        rw [List.filter_eq_nil_iff]
        intro f hmem he
        obtain ⟨value, -, rfl⟩ := List.mem_map.mp hmem
        exact hf (beq_iff_eq.mp he ▸ List.mem_map_of_mem hm)
      rw [hfirst, List.nil_append, ih hn hm]

/-- Objects that are equal up to the order of their fields hold the same values in each slot. -/
theorem slotFields_unique {left right : List (JsString × List JsValue)}
    (hn : (left.map Prod.fst).Nodup) (hk : left.map Prod.fst = right.map Prod.fst)
    (h : normalize (.obj (slotFields left)) = normalize (.obj (slotFields right))) :
    List.Forall₂ (fun l r => (l.2.map normalize).Perm (r.2.map normalize)) left right := by
  simp only [normalize, normalizeFields_eq_map, JsValue.obj.injEq] at h
  have hp := sortKeys_perm ((slotFields left).map fun f : JsString × JsValue => (f.1, normalize f.2))
  rw [h] at hp
  replace hp := hp.symm.trans (sortKeys_perm _)
  have hlen : left.length = right.length := by simpa using congrArg List.length hk
  rw [List.forall₂_iff_zip]
  refine ⟨hlen, ?_⟩
  intro l r hz
  have hkey : l.1 = r.1 := by
    obtain ⟨i, hi, hz⟩ := List.mem_iff_getElem.mp hz
    rw [List.getElem_zip] at hz
    have hl : i < left.length := by
      rw [List.length_zip] at hi
      omega
    have hg : (left.map Prod.fst)[i]? = (right.map Prod.fst)[i]? := by rw [hk]
    rw [List.getElem?_map, List.getElem?_map, List.getElem?_eq_getElem hl,
      List.getElem?_eq_getElem (hlen ▸ hl)] at hg
    cases hz
    exact Option.some.inj hg
  have hf := hp.filter fun f => f.1 == l.1
  simp only [List.filter_map, Function.comp_def] at hf
  rw [filter_slotFields hn (List.of_mem_zip hz).1, hkey,
    filter_slotFields (hk ▸ hn) (List.of_mem_zip hz).2] at hf
  simp only [List.map_map] at hf
  have hsnd := hf.map Prod.snd
  simpa only [List.map_map, Function.comp_def] using hsnd

def JsField.values (f : α → JsValue) : JsField α → List JsValue
  | .absent => []
  | .undefined => [.undefined]
  | .null => [.null]
  | .value a => [f a]

/-- The slots of an edge, in the order of its fields. -/
def GraphEdgeV0.slots (e : GraphEdgeV0) : List (JsString × List JsValue) :=
  [(js "src", [.str e.src]), (js "dst", [.str e.dst]), (js "type", [.str e.type]),
    (js "timestamp", [.str e.timestamp]), (js "weight_bps", [.num e.weight_bps]),
    (js "source_quality_bps", (e.source_quality_bps.map .num).toList),
    (js "decay_bps", (e.decay_bps.map .num).toList),
    (js "receipt_status_bps", (e.receipt_status_bps.map .num).toList),
    (js "appeal_multiplier_bps", (e.appeal_multiplier_bps.map .num).toList),
    (js "community", (e.community.map .str).toList), (js "issuer", (e.issuer.map .str).toList),
    (js "created_at", (e.created_at.map .str).toList),
    (js "evidence_hash", (e.evidence_hash.map .str).toList),
    (js "evidence_commitment", e.evidence_commitment.values .str),
    (js "appeal_uri", e.appeal_uri.values .str), (js "appeal_status", e.appeal_status.values .str)]

theorem optField_slot (key : JsString) (f : α → JsValue) (value : Option α) :
    optField key f value = (value.map f).toList.map fun v => (key, v) := by
  cases value <;> rfl

theorem fieldEntry_slot (key : JsString) (f : α → JsValue) (field : JsField α) :
    fieldEntry key f field = (field.values f).map fun v => (key, v) := by
  cases field <;> rfl

theorem GraphEdgeV0.toFields_slots (e : GraphEdgeV0) : e.toFields = slotFields e.slots := by
  simp only [toFields, slots, slotFields, optField_slot, fieldEntry_slot, List.flatMap_cons,
    List.flatMap_nil, List.map_cons, List.map_nil, List.append_nil, List.append_assoc,
    List.cons_append, List.nil_append]

theorem GraphEdgeV0.slots_keys (e d : GraphEdgeV0) :
    e.slots.map Prod.fst = d.slots.map Prod.fst := rfl

theorem GraphEdgeV0.slots_nodup (e : GraphEdgeV0) : (e.slots.map Prod.fst).Nodup := by
  simp only [slots, List.map_cons, List.map_nil]
  decide

theorem optional_perm {f : α → JsValue} (hf : ∀ a b, normalize (f a) = normalize (f b) → a = b)
    {a b : Option α} (h : ((a.map f).toList.map normalize).Perm ((b.map f).toList.map normalize)) :
    a = b := by
  cases a with
  | none =>
    cases b with
    | none => rfl
    | some b => simp at h
  | some a =>
    cases b with
    | none => simp at h
    | some b =>
      simp only [Option.map_some, Option.toList_some, List.map_cons, List.map_nil,
        List.singleton_perm_singleton] at h
      rw [hf a b h]

theorem field_perm {a b : JsField JsString}
    (h : ((a.values .str).map normalize).Perm ((b.values .str).map normalize)) : a = b := by
  cases a <;> cases b <;> simp_all [JsField.values, normalize]

/-- The canonical text of an edge determines the edge. -/
theorem edge_unique {a b : GraphEdgeV0} (h : normalize a.toJs = normalize b.toJs) : a = b := by
  rw [GraphEdgeV0.toJs, GraphEdgeV0.toJs, a.toFields_slots, b.toFields_slots] at h
  have hs := slotFields_unique a.slots_nodup (a.slots_keys b) h
  have hstr : ∀ x y : JsString, normalize (.str x) = normalize (.str y) → x = y := by
    intro x y hxy
    simpa [normalize] using hxy
  have hnum : ∀ x y : JsNumber, normalize (.num x) = normalize (.num y) → x = y := by
    intro x y hxy
    simpa [normalize] using hxy
  simp only [GraphEdgeV0.slots, List.forall₂_cons, List.map_cons, List.map_nil,
    List.singleton_perm_singleton, normalize, JsValue.str.injEq, JsValue.num.injEq] at hs
  obtain ⟨h1, h2, h3, h4, h5, h6, h7, h8, h9, h10, h11, h12, h13, h14, h15, h16, -⟩ := hs
  obtain ⟨src, dst, type, timestamp, weight, quality, decay, status, appeal, community, issuer,
    created, hash, commitment, uri, state⟩ := a
  cases h1; cases h2; cases h3; cases h4; cases h5
  cases optional_perm hnum h6; cases optional_perm hnum h7; cases optional_perm hnum h8
  cases optional_perm hnum h9; cases optional_perm hstr h10; cases optional_perm hstr h11
  cases optional_perm hstr h12; cases optional_perm hstr h13
  cases field_perm h14; cases field_perm h15; cases field_perm h16
  rfl

theorem plainItems_numbers (numbers : List Nat) :
    plainItems (numbers.map fun n => .num (.ofNat n)) = numbers.map natText := by
  induction numbers with
  | nil => rfl
  | cons n numbers ih =>
    have hint : intText (n : Int) = natText n := by simp [intText]
    simp only [List.map_cons, plainItems, encodePlain, ih, JsNumber.toInt?_ofNat,
      Option.getD_some, hint]

theorem plain_numbers (numbers : List Nat) :
    PlainItems (numbers.map fun n => JsValue.num (.ofNat n)) := by
  induction numbers with
  | nil => exact True.intro
  | cons n numbers ih => exact ⟨⟨n, rfl⟩, ih⟩

/-- Decimal numbers in a row determine the numbers. -/
theorem joinComma_numbers {xs ys : List Nat}
    (h : joinComma (xs.map natText) = joinComma (ys.map natText)) : xs = ys := by
  have hitems := (plainItems_unique (xs.map fun n => .num (.ofNat n)) (r := []) (s := [])
    (plain_numbers xs) (plain_numbers ys) (by rw [plainItems_numbers, plainItems_numbers, h])).1
  refine List.map_injective_iff.mpr ?_ hitems
  intro n m hnm
  simpa [JsNumber.ofNat] using hnm

/-- Texts of decimal digits and commas. -/
def NumberList (text : JsString) : Prop := ∀ u ∈ text, isDigitUnit u = true ∨ u = 44

theorem numberList_joinComma (numbers : List Nat) : NumberList (joinComma (numbers.map natText)) := by
  have hdigits : ∀ n, NumberList (natText n) := fun n u hu => .inl (natText_digits n u hu)
  induction numbers with
  | nil => intro u hu; cases hu
  | cons n numbers ih =>
    cases numbers with
    | nil => exact hdigits n
    | cons m numbers =>
      intro u hu
      rcases List.mem_append.mp hu with hu | hu
      · exact hdigits n u hu
      · rcases List.mem_cons.mp hu with rfl | hu
        · exact .inr rfl
        · exact ih u hu

theorem edgeText_numbers (h : edgeText edge = .ok text) : NumberList text := by
  obtain ⟨bytes, -, h⟩ := bind_eq_ok.mp h
  cases h
  have hnumbers := numberList_joinComma (bytes.map UInt8.toNat)
  rwa [List.map_map] at hnumbers

theorem edgeText_unique (ha : edgeText a = .ok text) (hb : edgeText b = .ok text) : a = b := by
  obtain ⟨bytes, hbytes, hx⟩ := bind_eq_ok.mp ha
  obtain ⟨bytes', hbytes', hy⟩ := bind_eq_ok.mp hb
  have hjoin := Except.ok.inj (hx.trans hy.symm)
  have hlist : bytes.map UInt8.toNat = bytes'.map UInt8.toNat := by
    apply joinComma_numbers
    simpa only [List.map_map, Function.comp_def] using hjoin
  have he : bytes = bytes' := List.map_injective_iff.mpr (fun _ _ => UInt8.toNat_inj.mp) hlist
  rw [he] at hbytes
  exact edge_unique (canonicalBytes_unique hbytes hbytes')

end Texts

/-- The order of a locale tells lists of decimal numbers apart. -/
class SeparatesNumbers (compare : JsString → JsString → Ordering) : Prop where
  eq_of_compare {a b : JsString} : NumberList a → NumberList b → compare a b = .eq → a = b

instance (compare : JsString → JsString → Ordering) [Std.LawfulEqCmp compare] :
    SeparatesNumbers compare where
  eq_of_compare _ _ h := Std.LawfulEqCmp.eq_of_compare h

section Order

/-- The value of a text, empty where it cannot be computed. -/
def textOr (text : Js JsString) : JsString :=
  match text with
  | .ok text => text
  | .error _ => []

theorem compareStamped_compares (E : Engine) (stamp : α → RFC3339) (text : α → Js JsString) :
    Compares (compareStamped E stamp text) (onKey E.localeCompare stamp)
      (onKey E.localeCompare fun a => textOr (text a)) fun a => Fails (text a) where
  apart a b hne := by
    rw [onKey] at hne ⊢
    rw [compareStamped]
    split
    · exact absurd ‹_› hne
    · rfl
  tied a b he ha hb := by
    rw [onKey] at he
    rw [compareStamped, he, onKey]
    cases hx : text a with
    | error e => exact absurd ⟨e, hx⟩ ha
    | ok x =>
      cases hy : text b with
      | error e => exact absurd ⟨e, hy⟩ hb
      | ok y => rfl
  blocked a b he hm := by
    rw [onKey] at he
    rw [compareStamped, he]
    rcases hm with ⟨e, hx⟩ | ⟨e, hy⟩
    · exact ⟨e, by rw [hx]; rfl⟩
    · cases hx : text a with
      | error e' => exact ⟨e', rfl⟩
      | ok x => exact ⟨e, by rw [hy]; rfl⟩

variable (E : Engine) [Std.TransCmp E.localeCompare]

theorem scanEvidence_reordered {left right : GraphEvidence}
    (hevents : (left.events.getD []).Perm (right.events.getD []))
    (hreceipts : (left.receipts.getD []).Perm (right.receipts.getD []))
    (hattestations : (left.attestations.getD []).Perm (right.attestations.getD []))
    (hattestations_v2 : (left.attestations_v2.getD []).Perm (right.attestations_v2.getD []))
    (hpolicies : (left.delegation_policies.getD []).Perm (right.delegation_policies.getD []))
    (hrest : right = { left with
      events := right.events, receipts := right.receipts, attestations := right.attestations,
      attestations_v2 := right.attestations_v2, delegation_policies := right.delegation_policies }) :
    SameOutcome SameState (scanEvidence E left) (scanEvidence E right) := by
  have hscan : scanEvent E right = scanEvent E left := by rw [hrest]; rfl
  have hr : scanReceipt E right = scanReceipt E left := by rw [hrest]; rfl
  have ha : attestationEdges E right = attestationEdges E left := by rw [hrest]; rfl
  have ha2 : attestationV2Edges E right = attestationV2Edges E left := by rw [hrest]; rfl
  have hd : delegationEdges E right = delegationEdges E left := by rw [hrest]; rfl
  rw [scanEvidence, scanEvidence, hscan, hr, ha, ha2, hd]
  refine (forSorted_reordered (scanEvent_commutes E left) (compareStamped_compares E _ _) hevents
    (SameState.refl _)).bind fun s t h => ?_
  refine (forSorted_reordered (collect_commutes (receiptEdges E left))
    (compareStamped_compares E _ _) hreceipts h).bind fun s t h => ?_
  refine (forSorted_reordered (collect_commutes fun _ => attestationEdges E left)
    (compareStamped_compares E _ _) hattestations h).bind fun s t h => ?_
  refine (forSorted_reordered (collect_commutes fun _ => attestationV2Edges E left)
    (compareStamped_compares E _ _) hattestations_v2 h).bind fun s t h => ?_
  exact forSorted_reordered (collect_commutes fun _ => delegationEdges E left)
    (compareStamped_compares E _ _) hpolicies h

theorem graphFromVerifiedEdgesV0_reordered [SeparatesNumbers E.localeCompare]
    (h : left.Perm right) :
    SameOutcome (· = ·) (graphFromVerifiedEdgesV0 E left) (graphFromVerifiedEdgesV0 E right) := by
  refine (sortM_reordered (compareStamped_compares E GraphEdgeV0.timestamp edgeText) ?_ h).bind
    fun edges edges' he => ?_
  · intro a b _ htext ha hb
    rw [onKey] at htext
    cases hx : edgeText a with
    | error e => exact absurd ⟨e, hx⟩ ha
    | ok x =>
      cases hy : edgeText b with
      | error e => exact absurd ⟨e, hy⟩ hb
      | ok y =>
        rw [hx, hy] at htext
        have heq : x = y :=
          SeparatesNumbers.eq_of_compare (edgeText_numbers hx) (edgeText_numbers hy) htext
        exact edgeText_unique hx (hy.trans (congrArg Except.ok heq.symm))
  · rw [he]
    exact .returns rfl

/-- The lists of evidence of one input, in another order each. -/
structure Reordered (left right : GraphEvidence) : Prop where
  events : (left.events.getD []).Perm (right.events.getD [])
  receipts : (left.receipts.getD []).Perm (right.receipts.getD [])
  attestations : (left.attestations.getD []).Perm (right.attestations.getD [])
  attestations_v2 : (left.attestations_v2.getD []).Perm (right.attestations_v2.getD [])
  delegation_policies :
    (left.delegation_policies.getD []).Perm (right.delegation_policies.getD [])
  rest : right = { left with
    events := right.events, receipts := right.receipts, attestations := right.attestations,
    attestations_v2 := right.attestations_v2, delegation_policies := right.delegation_policies }

theorem Reordered.refl (input : GraphEvidence) : Reordered input input :=
  ⟨.refl _, .refl _, .refl _, .refl _, .refl _, rfl⟩

/-- The evidence graph does not depend on the order of the evidence. -/
theorem constructGraphFromEvidenceV0_reordered [SeparatesNumbers E.localeCompare]
    (h : Reordered left right) :
    SameOutcome (· = ·) (constructGraphFromEvidenceV0 E left)
      (constructGraphFromEvidenceV0 E right) :=
  (scanEvidence_reordered E h.events h.receipts h.attestations h.attestations_v2
    h.delegation_policies h.rest).bind fun _ _ hs => graphFromVerifiedEdgesV0_reordered E hs.edges

end Order

/-- A first version attestation of alice about bob. -/
def vouching (claim : Nat) (signature : HexSig) : AttestationV1 where
  issuer := js "did:tsl:alice"
  subject := js "did:tsl:bob"
  attestation_class := js "peer"
  claim_commitment := hex32 claim
  visibility := .«public»
  issued_at := js "2026-05-25T00:00:00Z"
  expires_at := none
  signature

def firstVouching : AttestationV1 :=
  vouching 0x4444444444444444444444444444444444444444444444444444444444444444 (bytesToHex (
    bigEndian 32 0x7ad7b07cc184f230f75ce02a7aec1b61c30135a64dd89760c9d5f3cc7413aacd ++
    bigEndian 32 0x549e5a9da5e73de23d0729c05f9e4d62dccb3830274e0eb50043ca7ca4a4020c))

def secondVouching : AttestationV1 :=
  vouching 0x5555555555555555555555555555555555555555555555555555555555555555 (bytesToHex (
    bigEndian 32 0x1f914bb52db0d2447520775a3b49edeed13f235057eb2a60714bf60e646bd14b ++
    bigEndian 32 0xa2ee4365132a9690c944b882f3886be08004908ecefb2b2072f2cd94d7bb2806))

/-- Attestations of alice's first key with the digests that it signed. -/
def signedVouchings : List (AttestationV1 × Bytes) :=
  [(firstVouching,
      bigEndian 32 0x875e7df23987a91e62fd989e63b0305821bd376c32f8c37d87c00847437dc8d3),
    (secondVouching,
      bigEndian 32 0x83d54a11a4d57b8427b3f0221196d8326685bbce0d2cd5c336a6c4e7cc48404b)]

def vouchingNoble : Noble :=
  recorded
    (signedVouchings.map fun (attestation, digest) =>
      (domainMessage DOMAIN_TAGS.ATTESTATION_V1 (valueBytes (.obj (withoutSignature
        attestation.toFields))), digest))
    (signedVouchings.map fun (attestation, digest) => (hexBytes attestation.signature, digest,
      bigEndian 32 0x8a88e3dd7409f195fd52db2d3cba5d72ca6709bf1d94121bf3748801b40f6f5c))
    longDigest

/-- The functions of `Math` at the arguments of a graph with a single day and counterparty. -/
def sampleMath : JsMath where
  pow _ _ := .ofNat 1
  exp _ := .ofNat 1
  log _ := .ofNat 0

def sampleEngine (N : Noble) : Engine where
  host := sampleHost N
  math := sampleMath
  localeCompare a b := compare a b

def referenceSettings : GraphSettings where
  profile_id := js "graph-reference-v0"
  edge_weight_profile := .name (js "default")
  temporal_decay_profile := js "default_decay_v2"
  community_detection :=
    { algorithm := js "connected_components_v0", resolution_bps := .ofNat 10000,
      min_cluster_size := .ofNat 1, edge_weight_floor_bps := none, max_passes := none,
      approximation_tolerance_bps := none, refinement_threshold_bps := none, projection := none,
      negative_edge_treatment := none }
  negative_edge_policy :=
    { requires_evidence_commitment := true, requires_appeal_uri := true,
      max_single_negative_weight_bps := .ofNat 1500, decay_days := .ofNat 30 }
  edge_weights := none
  half_life_days := none
  issuer_quality_bps := none
  pagerank := none
  manifold_profile := none

/-- The evidence of some attestations alone. -/
def vouchingEvidence (attestations : List AttestationV1) : GraphEvidence where
  events := none
  receipts := none
  attestations := some attestations
  attestations_v2 := none
  receipt_disputes := none
  delegation_policies := none
  resolver := sampleResolver.resolveTrustID
  graph_profile := referenceSettings
  at_time := js "2026-05-25T00:00:00Z"
  event_receivers := none
  strict_negative_evidence := none

/-- Two attestations of one instant give one graph of two edges in either order. -/
theorem constructGraphFromEvidenceV0_reordered_sample :
    SameOutcome (· = ·)
        (constructGraphFromEvidenceV0 (sampleEngine vouchingNoble)
          (vouchingEvidence [firstVouching, secondVouching]))
        (constructGraphFromEvidenceV0 (sampleEngine vouchingNoble)
          (vouchingEvidence [secondVouching, firstVouching])) ∧
      (fun graph => graph.edges.length) <$> constructGraphFromEvidenceV0
        (sampleEngine vouchingNoble) (vouchingEvidence [firstVouching, secondVouching]) =
          .ok 2 := by
  have htrans : Std.TransCmp (sampleEngine vouchingNoble).localeCompare :=
    inferInstanceAs (Std.TransCmp fun a b : List UInt16 => compare a b)
  have hlawful : Std.LawfulEqCmp (sampleEngine vouchingNoble).localeCompare :=
    inferInstanceAs (Std.LawfulEqCmp fun a b : List UInt16 => compare a b)
  have hperm : Reordered (vouchingEvidence [firstVouching, secondVouching])
      (vouchingEvidence [secondVouching, firstVouching]) :=
    { events := List.Perm.refl []
      receipts := List.Perm.refl []
      attestations := List.Perm.swap secondVouching firstVouching []
      attestations_v2 := List.Perm.refl []
      delegation_policies := List.Perm.refl []
      rest := rfl }
  refine ⟨constructGraphFromEvidenceV0_reordered (sampleEngine vouchingNoble) hperm, ?_⟩
  decide +kernel

end Continuity

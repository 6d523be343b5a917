import Continuity.RevocationRegistry

namespace Continuity
open Frames RevocationRegistry
set_option autoImplicit true

/-- A revocation that was recorded, with who sent it. -/
abbrev Recorded := RevocationArguments × Address

/-- The revocations that the transactions asked for. -/
def recordedBy (transactions : List (World × ChainTransaction)) : List Recorded :=
  transactions.filterMap fun entry => entry.2.call.records.map fun a => (a, entry.2.sender)

/-- The texts that a run hashes for the revocations it asks for. -/
def HashedIn (E : Evm) (transactions : List ChainTransaction) (message : Bytes) : Prop :=
  ∃ tx ∈ transactions, ∃ a, tx.call.records = some a ∧
    (message = revocationMessage a tx.sender ∨ message = authorizationMessage a ∨
      message = signedMessage (revocationAuthorizationHash E a))

section Encoding

theorem wordBytes_injective (h : wordBytes a = wordBytes b) : a = b :=
  BitVec.eq_of_toNat_eq (bigEndian_injective (k := 32) a.isLt b.isLt h)

theorem abiWords_injective {as bs : List Bytes32} (hl : as.length = bs.length)
    (h : abiWords as = abiWords bs) : as = bs := by
  induction as generalizing bs with
  | nil => exact (List.eq_nil_of_length_eq_zero hl.symm).symm
  | cons a as ih =>
    cases bs with
    | nil => cases hl
    | cons b bs =>
      simp only [abiWords, List.flatMap_cons] at h
      have hlen : (wordBytes a).length = (wordBytes b).length := by
        rw [wordBytes, wordBytes, bigEndian_length, bigEndian_length]
      obtain ⟨hw, hr⟩ := List.append_inj h hlen
      rw [wordBytes_injective hw, ih (Nat.succ.inj hl) hr]

theorem ofNat_toNat_injective {n m : Nat} (hn : n < 2 ^ 256) (hm : m < 2 ^ 256)
    (h : BitVec.ofNat 256 n = BitVec.ofNat 256 m) : n = m := by
  have ht := congrArg BitVec.toNat h
  rwa [BitVec.toNat_ofNat, BitVec.toNat_ofNat, Nat.mod_eq_of_lt hn, Nat.mod_eq_of_lt hm] at ht

theorem words_injective {a b : RevocationArguments} (h : a.words = b.words) : a = b := by
  obtain ⟨trustId, key, reason, effectiveAt, replacementKey⟩ := a
  obtain ⟨trustId', key', reason', effectiveAt', replacementKey'⟩ := b
  simp only [RevocationArguments.words, List.cons.injEq, and_true] at h
  obtain ⟨rfl, rfl, hr, he, rfl⟩ := h
  have hr' := ofNat_toNat_injective (reason.toNat_lt.trans (by decide))
    (reason'.toNat_lt.trans (by decide)) hr
  have he' := ofNat_toNat_injective (effectiveAt.toNat_lt.trans (by decide))
    (effectiveAt'.toNat_lt.trans (by decide)) he
  rw [UInt8.toNat_inj.mp hr', UInt64.toNat_inj.mp he']

theorem words_length (a : RevocationArguments) : a.words.length = 5 := rfl

/-- The hashed text of a revocation says everything about it. -/
theorem revocationMessage_injective (h : revocationMessage a sender = revocationMessage b sender') :
    a = b ∧ sender = sender' := by
  have hw := abiWords_injective (by simp [words_length]) h
  obtain ⟨ha, hs⟩ := List.append_inj hw (by rw [words_length, words_length])
  have hn := ofNat_toNat_injective (sender.isLt.trans (by decide)) (sender'.isLt.trans (by decide))
    (List.cons.inj hs).1
  exact ⟨words_injective ha, BitVec.eq_of_toNat_eq hn⟩

theorem authorizationMessage_injective (h : authorizationMessage a = authorizationMessage b) :
    a = b := by
  have hl : (abiWords ([192] ++ a.words ++ [31])).length =
      (abiWords ([192] ++ b.words ++ [31])).length := by
    have := congrArg List.length h
    simpa [authorizationMessage] using this
  have hw := abiWords_injective (by simp [words_length]) (List.append_inj h hl).1
  rw [List.append_assoc, List.append_assoc] at hw
  exact words_injective (List.append_inj (List.append_cancel_left hw)
    (by rw [words_length, words_length])).1

theorem signedMessage_injective (h : signedMessage a = signedMessage b) : a = b :=
  wordBytes_injective (List.append_cancel_left h)

end Encoding

section Steps

variable {E : Evm} {w w' : World}

/-- What a transaction that succeeds does: it records the revocation it asks for, or leaves the
records alone. -/
theorem execute_revocations (h : w.execute E tx = .ok w') :
    (∃ a, tx.call.records = some a ∧ w'.revocations = w.revocations.record E a tx.sender) ∨
      tx.call.records = none ∧
        w'.revocations.revocationsByHash = w.revocations.revocationsByHash ∧
        w'.revocations.revocationHistoryByTrustIdKey =
          w.revocations.revocationHistoryByTrustIdKey := by
  have hregistry (registry : Address) (f : TrustIDRegistry → Js TrustIDRegistry)
      (h : w.onRegistry registry f = .ok w') : w'.revocations = w.revocations := by
    unfold World.onRegistry at h
    split at h
    · obtain ⟨R, -, h⟩ := bind_eq_ok.mp h
      cases h
      rfl
    · cases h
      rfl
  unfold World.execute at h
  cases hc : tx.call with
  | deployRegistry registry =>
    rw [hc] at h
    dsimp only at h
    split at h
    · cases h
    · cases h
      exact .inr ⟨rfl, rfl, rfl⟩
  | register registry trustId activeKey policyCommitment =>
    rw [hc] at h
    rw [hregistry registry _ h]
    exact .inr ⟨rfl, rfl, rfl⟩
  | rotateKey registry trustId oldKey newKey =>
    rw [hc] at h
    rw [hregistry registry _ h]
    exact .inr ⟨rfl, rfl, rfl⟩
  | revokeKey registry trustId key =>
    rw [hc] at h
    rw [hregistry registry _ h]
    exact .inr ⟨rfl, rfl, rfl⟩
  | setTrustIDRegistry registry =>
    rw [hc] at h
    obtain ⟨S, hs, h⟩ := bind_eq_ok.mp h
    cases h
    obtain ⟨_, -, hs⟩ := bind_eq_ok.mp hs
    cases hs
    exact .inr ⟨rfl, rfl, rfl⟩
  | setAuthorizedSubmitter submitter authorized =>
    rw [hc] at h
    obtain ⟨S, hs, h⟩ := bind_eq_ok.mp h
    cases h
    obtain ⟨_, -, hs⟩ := bind_eq_ok.mp hs
    cases hs
    exact .inr ⟨rfl, rfl, rfl⟩
  | recordRevocation a =>
    rw [hc] at h
    obtain ⟨S, hs, h⟩ := bind_eq_ok.mp h
    cases h
    obtain ⟨_, -, hs⟩ := bind_eq_ok.mp hs
    cases hs
    exact .inl ⟨a, rfl, rfl⟩
  | recordRevocationWithAuthorization a signature =>
    rw [hc] at h
    obtain ⟨S, hs, h⟩ := bind_eq_ok.mp h
    cases h
    obtain ⟨_, -, hs⟩ := bind_eq_ok.mp hs
    dsimp only at hs
    split at hs
    · cases hs
    · cases hs
      exact .inl ⟨a, rfl, rfl⟩

/-- A registered identity has a controller. -/
def TrustIDRegistry.Controlled (R : TrustIDRegistry) : Prop :=
  ∀ trustId, (R.identities trustId).createdAt ≠ 0 → (R.identities trustId).controller ≠ 0

/-- The registries of identities stand at addresses of their own and are controlled. -/
def World.Controlled (w : World) : Prop :=
  ∀ registry R, w.registries registry = some R → registry ≠ 0 ∧ R.Controlled

theorem TrustIDRegistry.Controlled.setIdentity {R : TrustIDRegistry} (h : R.Controlled)
    (hc : identity.controller ≠ 0) : (R.setIdentity trustId identity).Controlled := by
  intro other ht
  by_cases he : other = trustId
  · subst he
    simpa [TrustIDRegistry.setIdentity] using hc
  · simp only [TrustIDRegistry.setIdentity, Function.update_of_ne he] at ht ⊢
    exact h other ht

theorem register_controlled {R R' : TrustIDRegistry} (h : R.Controlled) (hs : sender ≠ 0)
    (hr : R.register sender timestamp trustId activeKey policyCommitment = .ok R') :
    R'.Controlled := by
  obtain ⟨-, rfl⟩ := TrustIDRegistry.register_ok hr
  exact h.setIdentity hs

theorem rotateKey_controlled {R R' : TrustIDRegistry} (h : R.Controlled)
    (hr : R.rotateKey sender trustId oldKey newKey = .ok R') : R'.Controlled := by
  obtain ⟨ho, rfl⟩ := TrustIDRegistry.rotateKey_ok hr
  have hr : (R.setRevoked trustId oldKey).Controlled := h
  exact hr.setIdentity (h trustId ho.1)

theorem revokeKey_controlled {R R' : TrustIDRegistry} (h : R.Controlled)
    (hr : R.revokeKey sender trustId key = .ok R') : R'.Controlled := by
  obtain ⟨ho, rfl⟩ := TrustIDRegistry.revokeKey_ok hr
  have hs : (R.setRevoked trustId key).Controlled := h
  split
  · exact hs.setIdentity (h trustId ho.1)
  · exact hs

theorem World.Controlled.update {w : World} (h : w.Controlled) (hn : registry ≠ 0)
    (hR : R.Controlled) :
    World.Controlled { w with registries := Function.update w.registries registry (some R) } := by
  intro other R' hr
  by_cases he : other = registry
  · subst he
    dsimp only at hr
    rw [Function.update_self] at hr
    cases hr
    exact ⟨hn, hR⟩
  · dsimp only at hr
    rw [Function.update_of_ne he] at hr
    exact h other R' hr

theorem onRegistry_controlled {f : TrustIDRegistry → Js TrustIDRegistry} (h : w.Controlled)
    (hf : ∀ R R', R.Controlled → f R = .ok R' → R'.Controlled)
    (hr : w.onRegistry registry f = .ok w') : w'.Controlled := by
  unfold World.onRegistry at hr
  split at hr
  · next R hR =>
    obtain ⟨R', hR', hr⟩ := bind_eq_ok.mp hr
    cases hr
    obtain ⟨hn, hc⟩ := h registry R hR
    exact h.update hn (hf R R' hc hR')
  · cases hr
    exact h

theorem execute_controlled (h : w.Controlled) (he : w.execute E tx = .ok w') : w'.Controlled := by
  have hsame (result : Js RevocationRegistry) (hr : w.onRevocations result = .ok w') :
      w'.Controlled := by
    obtain ⟨S, -, hr⟩ := bind_eq_ok.mp hr
    cases hr
    exact h
  unfold World.execute at he
  split at he
  · next registry =>
    split at he
    · cases he
    · next hn =>
      cases he
      refine h.update (fun hz => hn (.inl hz)) ?_
      intro trustId ht
      exact absurd rfl ht
  · exact onRegistry_controlled h (fun _ _ hc hr => register_controlled hc tx.sender_ne hr) he
  · exact onRegistry_controlled h (fun _ _ hc hr => rotateKey_controlled hc hr) he
  · exact onRegistry_controlled h (fun _ _ hc hr => revokeKey_controlled hc hr) he
  · exact hsame _ he
  · exact hsame _ he
  · exact hsame _ he
  · exact hsame _ he

end Steps

section Hashes

variable {E : Evm} {transactions : List ChainTransaction}

/-- The revocations that the transactions of a run ask for. -/
def AskedIn (transactions : List ChainTransaction) : Set Recorded :=
  {r | ∃ tx ∈ transactions, tx.call.records = some r.1 ∧ tx.sender = r.2}

theorem revocationHash_injOn (h : Set.InjOn E.keccak256 {m | HashedIn E transactions m}) :
    Set.InjOn (fun r : Recorded => revocationHash E r.1 r.2) (AskedIn transactions) := by
  rintro ⟨a, sender⟩ ⟨tx, hm, ha, rfl⟩ ⟨b, sender'⟩ ⟨tx', hm', hb, rfl⟩ he
  have hmsg := h ⟨tx, hm, a, ha, .inl rfl⟩ ⟨tx', hm', b, hb, .inl rfl⟩ he
  obtain ⟨rfl, hs⟩ := revocationMessage_injective hmsg
  exact Prod.ext rfl hs

/-- A signed digest belongs to one revocation of a run. -/
theorem authorizationDigest_injOn (h : Set.InjOn E.keccak256 {m | HashedIn E transactions m})
    (hm : tx ∈ transactions) (ha : tx.call.records = some a)
    (hm' : tx' ∈ transactions) (hb : tx'.call.records = some b)
    (he : authorizationDigest E b = authorizationDigest E a) : b = a := by
  have hsigned := h ⟨tx', hm', b, hb, .inr (.inr rfl)⟩ ⟨tx, hm, a, ha, .inr (.inr rfl)⟩ he
  have hmsg := h ⟨tx', hm', b, hb, .inr (.inl rfl)⟩ ⟨tx, hm, a, ha, .inr (.inl rfl)⟩
    (signedMessage_injective hsigned)
  exact authorizationMessage_injective hmsg

end Hashes

section Runs

variable {E : Evm} {w w' : World} {recorded : List Recorded}

/-- The history of a key holds the hashes of its revocations, and under each of them stands the
time that was recorded. -/
structure HistoryInvariant (E : Evm) (w : World) (recorded : List Recorded) : Prop where
  controlled : w.Controlled
  history : ∀ trustId key, w.revocations.revocationHistoryByTrustIdKey trustId key =
    (recorded.filter fun r => r.1.trustId = trustId ∧ r.1.key = key).map
      fun r => revocationHash E r.1 r.2
  stored : ∀ r ∈ recorded,
    (w.revocations.revocationsByHash (revocationHash E r.1 r.2)).toRevocationArguments = r.1

theorem HistoryInvariant.initial (E : Evm) (deployer : Address) :
    HistoryInvariant E (.initial deployer) [] where
  controlled := fun _ _ h => nomatch h
  history := fun _ _ => rfl
  stored := fun _ h => absurd h List.not_mem_nil

/-- A recorded revocation joins the history of its key; no other one is rewritten. -/
theorem HistoryInvariant.record {a : RevocationArguments} {sender : Address}
    (h : HistoryInvariant E w recorded)
    (hi : ∀ r ∈ recorded, revocationHash E r.1 r.2 = revocationHash E a sender → r = (a, sender))
    (hc : w'.Controlled) (hw : w'.revocations = w.revocations.record E a sender) :
    HistoryInvariant E w' (recorded ++ [(a, sender)]) where
  controlled := hc
  history := by
    intro trustId key
    rw [hw, List.filter_append, List.map_append, ← h.history trustId key]
    by_cases ht : a.trustId = trustId
    · subst ht
      by_cases hk : a.key = key
      · subst hk
        simp [RevocationRegistry.record]
      · simp [RevocationRegistry.record, hk, Function.update_of_ne (Ne.symm hk)]
    · simp [RevocationRegistry.record, ht, Function.update_of_ne (Ne.symm ht)]
  stored := by
    intro r hr
    rw [hw]
    rcases List.mem_append.mp hr with hr | hr
    · by_cases he : revocationHash E r.1 r.2 = revocationHash E a sender
      · rw [hi r hr he]
        simp [RevocationRegistry.record]
      · simp only [RevocationRegistry.record, Function.update_of_ne he]
        exact h.stored r hr
    · rw [List.mem_singleton.mp hr]
      simp [RevocationRegistry.record]

theorem HistoryInvariant.same (h : HistoryInvariant E w recorded) (hc : w'.Controlled)
    (hm : w'.revocations.revocationsByHash = w.revocations.revocationsByHash)
    (hh : w'.revocations.revocationHistoryByTrustIdKey =
      w.revocations.revocationHistoryByTrustIdKey) : HistoryInvariant E w' recorded where
  controlled := hc
  history := by
    rw [hh]
    exact h.history
  stored := by
    rw [hm]
    exact h.stored

/-- The invariant after a run, with what the run recorded. -/
theorem HistoryInvariant.run {transactions : List ChainTransaction}
    (h : HistoryInvariant E w recorded)
    (hi : Set.InjOn (fun r : Recorded => revocationHash E r.1 r.2)
      ({r | r ∈ recorded} ∪ AskedIn transactions)) :
    HistoryInvariant E (run (World.step E) w transactions)
      (recorded ++ recordedBy (landed E w transactions)) := by
  induction transactions generalizing w recorded with
  | nil => simpa [Frames.run, landed, recordedBy] using h
  | cons tx rest ih =>
    have hrest : {r | r ∈ recorded} ∪ AskedIn rest ⊆ {r | r ∈ recorded} ∪ AskedIn (tx :: rest) :=
      Set.union_subset_union_right _ fun r ⟨tx', hm, hr⟩ => ⟨tx', List.mem_cons_of_mem tx hm, hr⟩
    cases he : w.execute E tx with
    | error e =>
      have hs : World.step E w tx = w := by rw [World.step, he]
      rw [landed, he, Frames.run, List.foldl_cons, hs]
      exact ih h (hi.mono hrest)
    | ok after =>
      have hs : World.step E w tx = after := by rw [World.step, he]
      have hc := execute_controlled h.controlled he
      rw [landed, he, Frames.run, List.foldl_cons, hs]
      rcases execute_revocations he with ⟨a, ha, hw⟩ | ⟨hn, hm, hh⟩
      · have hasked : (a, tx.sender) ∈ AskedIn (tx :: rest) := ⟨tx, List.mem_cons_self, ha, rfl⟩
        have hrec : recordedBy ((w, tx) :: landed E after rest) =
            (a, tx.sender) :: recordedBy (landed E after rest) := by
          simp [recordedBy, ha]
        rw [hrec, List.append_cons]
        refine ih (h.record ?_ hc hw) (hi.mono ?_)
        · intro r hr heq
          exact hi (.inl hr) (.inr hasked) heq
        · rintro r (hr | hr)
          · rcases List.mem_append.mp hr with hr | hr
            · exact .inl hr
            · rw [List.mem_singleton.mp hr]
              exact .inr hasked
          · exact hrest (.inr hr)
      · have hrec : recordedBy ((w, tx) :: landed E after rest) =
            recordedBy (landed E after rest) := by
          simp [recordedBy, hn]
        rw [hrec]
        exact ih (h.same hc hm hh) (hi.mono hrest)

theorem HistoryInvariant.run_initial {transactions : List ChainTransaction} (deployer : Address)
    (hi : Set.InjOn (fun r : Recorded => revocationHash E r.1 r.2) (AskedIn transactions)) :
    HistoryInvariant E (Frames.run (World.step E) (.initial deployer) transactions)
      (recordedBy (landed E (.initial deployer) transactions)) := by
  apply (HistoryInvariant.initial E deployer).run
  apply hi.mono
  rintro r (hr | hr)
  · cases hr
  · exact hr

/-- A key is revoked at a time when a revocation of it with a time up to then was recorded. -/
theorem HistoryInvariant.isRevoked_iff (h : HistoryInvariant E w recorded) :
    w.revocations.isRevoked trustId key atTime = true ↔
      ∃ r ∈ recorded, r.1.trustId = trustId ∧ r.1.key = key ∧ r.1.effectiveAt ≤ atTime := by
  rw [isRevoked, h.history, List.any_map, List.any_eq_true]
  constructor
  · rintro ⟨r, hr, ht⟩
    obtain ⟨hm, hk⟩ := List.mem_filter.mp hr
    simp only [decide_eq_true_eq, Function.comp_apply] at hk ht
    rw [h.stored r hm] at ht
    exact ⟨r, hm, hk.1, hk.2, ht⟩
  · rintro ⟨r, hm, hid, hk, ht⟩
    refine ⟨r, List.mem_filter.mpr ⟨hm, by simp [hid, hk]⟩, ?_⟩
    simp only [Function.comp_apply, decide_eq_true_eq]
    rw [h.stored r hm]
    exact ht

theorem mem_recordedBy {transactions : List (World × ChainTransaction)} {r : Recorded} :
    r ∈ recordedBy transactions ↔
      ∃ entry ∈ transactions, entry.2.call.records = some r.1 ∧ entry.2.sender = r.2 := by
  simp only [recordedBy, List.mem_filterMap, Option.map_eq_some_iff, Prod.ext_iff]
  constructor
  · rintro ⟨entry, hm, a, ha, rfl, hs⟩
    exact ⟨entry, hm, ha, hs⟩
  · rintro ⟨entry, hm, ha, hs⟩
    exact ⟨entry, hm, r.1, ha, rfl, hs⟩

theorem landed_append (transactions rest : List ChainTransaction) :
    landed E w (transactions ++ rest) =
      landed E w transactions ++ landed E (run (World.step E) w transactions) rest := by
  induction transactions generalizing w with
  | nil => rfl
  | cons tx transactions ih =>
    cases he : w.execute E tx with
    | error e =>
      have hs : World.step E w tx = w := by rw [World.step, he]
      have hr : run (World.step E) w (tx :: transactions) =
          run (World.step E) w transactions := by rw [Frames.run, List.foldl_cons, hs]; rfl
      rw [List.cons_append, landed, he, landed, he, hr]
      exact ih
    | ok after =>
      have hs : World.step E w tx = after := by rw [World.step, he]
      have hr : run (World.step E) w (tx :: transactions) =
          run (World.step E) after transactions := by rw [Frames.run, List.foldl_cons, hs]; rfl
      rw [List.cons_append, landed, he, landed, he, hr]
      exact congrArg (List.cons (w, tx)) ih

/-- A transaction of a run succeeds in a world of the run. -/
theorem landed_executed (hc : w.Controlled) (h : entry ∈ landed E w transactions) :
    entry.1.Controlled ∧ entry.2 ∈ transactions ∧ ∃ after, entry.1.execute E entry.2 = .ok after := by
  induction transactions generalizing w with
  | nil => cases h
  | cons tx rest ih =>
    rw [landed] at h
    split at h
    · next after he =>
      rcases List.mem_cons.mp h with rfl | h
      · exact ⟨hc, List.mem_cons_self, after, he⟩
      · obtain ⟨h1, h2, h3⟩ := ih (execute_controlled hc he) h
        exact ⟨h1, List.mem_cons_of_mem tx h2, h3⟩
    · obtain ⟨h1, h2, h3⟩ := ih hc h
      exact ⟨h1, List.mem_cons_of_mem tx h2, h3⟩

end Runs

section Authority

variable {E : Evm} {w w' : World} {R : TrustIDRegistry}

/-- The registry of revocations sees the controller that the configured registry knows. -/
theorem controllerFor_known (foreign : Address → Bytes32 → CallOutcome) (hc : w.Controlled)
    (hR : w.registries w.revocations.trustIDRegistry = some R)
    (hk : R.getController trustId = .ok c) :
    w.revocations.controllerFor (w.getController foreign) trustId = .ok c ∧ c ≠ 0 := by
  obtain ⟨hn, hR'⟩ := hc _ R hR
  have hg : w.getController foreign w.revocations.trustIDRegistry trustId = .returned c := by
    rw [World.getController, hR]
    dsimp only
    rw [hk]
  constructor
  · rw [controllerFor, if_neg hn, hg]
    rfl
  · unfold TrustIDRegistry.getController at hk
    dsimp only at hk
    split at hk
    · cases hk
    · next ht =>
      cases hk
      exact hR' trustId ht

theorem recoverControllerSigner_ne {hash : Bytes32}
    (h : recoverControllerSigner E hash signature ≠ 0) :
    ∃ v r s, recoverControllerSigner E hash signature =
      E.ecrecover (E.keccak256 (signedMessage hash)) v r s := by
  simp only [recoverControllerSigner] at h ⊢
  by_cases hl : signature.length ≠ 65
  · exact absurd (if_pos hl) h
  · rw [if_neg hl] at h ⊢
    generalize (if (signature[64]?).getD 0 < 27 then _ else _ : UInt8) = v at h ⊢
    by_cases hv : v ≠ 27 ∧ v ≠ 28
    · exact absurd (if_pos hv) h
    · rw [if_neg hv]
      exact ⟨_, _, _, rfl⟩

/-- Who may record a revocation of an identity with a known controller. -/
theorem execute_authorised (hc : w.Controlled) (he : w.execute E tx = .ok w')
    (ha : tx.call.records = some a) (hR : w.registries w.revocations.trustIDRegistry = some R)
    (hk : R.getController a.trustId = .ok c) :
    tx.sender = c ∨ ∃ signature, tx.call = .recordRevocationWithAuthorization a signature ∧
      recoverControllerSigner E (revocationAuthorizationHash E a) signature = c := by
  obtain ⟨hf, hn⟩ := controllerFor_known tx.foreign hc hR hk
  unfold World.execute at he
  cases hcall : tx.call with
  | recordRevocation b =>
    rw [hcall] at he ha
    cases ha
    obtain ⟨S, hs, -⟩ := bind_eq_ok.mp he
    obtain ⟨_, hs, -⟩ := bind_eq_ok.mp hs
    rw [requireControllerOrAuthorizedSubmitter, hf] at hs
    change (if c ≠ 0 then _ else _) = _ at hs
    rw [if_pos hn] at hs
    split at hs
    · cases hs
    · next hn =>
      exact .inl (not_not.mp hn)
  | recordRevocationWithAuthorization b signature =>
    rw [hcall] at he ha
    cases ha
    obtain ⟨S, hs, -⟩ := bind_eq_ok.mp he
    rw [recordRevocationWithAuthorization, hf] at hs
    change (if c = 0 ∨ recoverControllerSigner E _ _ ≠ c then _ else _) = _ at hs
    split at hs
    · cases hs
    · next hn =>
      exact .inr ⟨signature, rfl, not_not.mp fun h => hn (.inr h)⟩
  | _ =>
    rw [hcall] at ha
    cases ha

end Authority

/-- In every run a key counts as revoked from the earliest time that was recorded for it on, for
good, and a revocation of a known identity comes from its controller or carries its signature. -/
theorem isRevoked_exact_and_authorised (E : Evm) (Signed : Address → Bytes32 → Prop)
    (deployer : Address) (transactions later : List ChainTransaction)
    (hkeccak : Set.InjOn E.keccak256 {m | HashedIn E (transactions ++ later) m})
    (hecrecover : ∀ digest v r s,
      E.ecrecover digest v r s = 0 ∨ Signed (E.ecrecover digest v r s) digest) :
    let after := run (World.step E) (.initial deployer)
    (∀ trustId key atTime,
      ((after transactions).revocations.isRevoked trustId key atTime = true ↔
        ∃ entry ∈ landed E (.initial deployer) transactions, ∃ a, entry.2.call.records = some a ∧
          a.trustId = trustId ∧ a.key = key ∧ a.effectiveAt ≤ atTime)) ∧
    (∀ trustId key atTime laterTime, atTime ≤ laterTime →
      (after transactions).revocations.isRevoked trustId key atTime = true →
        (after (transactions ++ later)).revocations.isRevoked trustId key laterTime = true) ∧
    ∀ entry ∈ landed E (.initial deployer) transactions, ∀ a, entry.2.call.records = some a →
      ∀ R c, entry.1.registries entry.1.revocations.trustIDRegistry = some R →
        R.getController a.trustId = .ok c →
        entry.2.sender = c ∨ ∃ signature,
          entry.2.call = .recordRevocationWithAuthorization a signature ∧
          recoverControllerSigner E (revocationAuthorizationHash E a) signature = c ∧
          Signed c (authorizationDigest E a) ∧
          ∀ tx ∈ transactions ++ later, ∀ b, tx.call.records = some b →
            authorizationDigest E b = authorizationDigest E a → b = a := by
  intro after
  have hi := revocationHash_injOn hkeccak
  have hsub : AskedIn transactions ⊆ AskedIn (transactions ++ later) :=
    fun r ⟨tx, hm, h⟩ => ⟨tx, List.mem_append_left later hm, h⟩
  have hw := HistoryInvariant.run_initial deployer (hi.mono hsub)
  have hl := HistoryInvariant.run_initial deployer hi
  refine ⟨?_, ?_, ?_⟩
  · intro trustId key atTime
    rw [hw.isRevoked_iff]
    constructor
    · rintro ⟨r, hr, h⟩
      obtain ⟨entry, hm, ha, -⟩ := mem_recordedBy.mp hr
      exact ⟨entry, hm, r.1, ha, h⟩
    · rintro ⟨entry, hm, a, ha, h⟩
      exact ⟨(a, entry.2.sender), mem_recordedBy.mpr ⟨entry, hm, ha, rfl⟩, h⟩
  · intro trustId key atTime laterTime ht h
    obtain ⟨r, hr, hid, hk, he⟩ := hw.isRevoked_iff.mp h
    refine hl.isRevoked_iff.mpr ⟨r, ?_, hid, hk, UInt64.le_trans he ht⟩
    rw [landed_append, recordedBy, List.filterMap_append]
    exact List.mem_append_left _ hr
  · intro entry hm a ha R c hR hk
    obtain ⟨hc, htx, world, he⟩ := landed_executed (HistoryInvariant.initial E deployer).controlled hm
    rcases execute_authorised hc he ha hR hk with hs | ⟨signature, hcall, hs⟩
    · exact .inl hs
    · have hn := (controllerFor_known entry.2.foreign hc hR hk).2
      obtain ⟨v, r, s, hv⟩ := recoverControllerSigner_ne (hs.trans_ne hn)
      have hsigned := (hecrecover _ v r s).resolve_left (hv.symm.trans hs |>.trans_ne hn)
      rw [← hv, hs] at hsigned
      refine .inr ⟨signature, hcall, hs, hsigned, ?_⟩
      intro tx htx' b hb hd
      exact authorizationDigest_injOn hkeccak (List.mem_append_left later htx) ha htx' hb hd

/-- The chain of the sample: hashes tell lengths, and one key signs. -/
def sampleEvm : Evm where
  keccak256 bytes := BitVec.ofNat 256 bytes.length
  ecrecover digest v r _ := if v = 27 ∧ r = digest then 3 else 0

def sampleArguments : RevocationArguments := ⟨7, 9, 1, 100, 0⟩

/-- A registry is set up, its identity 7 belongs to 3, and 4 hands in what 3 signed. -/
def sampleTransactions : List ChainTransaction :=
  [⟨1, by decide, 10, fun _ _ => .reverted, .deployRegistry 2⟩,
    ⟨1, by decide, 11, fun _ _ => .reverted, .setTrustIDRegistry 2⟩,
    ⟨3, by decide, 12, fun _ _ => .reverted, .register 2 7 9 0⟩,
    ⟨4, by decide, 13, fun _ _ => .reverted, .recordRevocation sampleArguments⟩,
    ⟨4, by decide, 14, fun _ _ => .reverted, .recordRevocationWithAuthorization sampleArguments
      (wordBytes (authorizationDigest sampleEvm sampleArguments) ++ wordBytes 5 ++ [27])⟩]

theorem abiWords_length (words : List Bytes32) : (abiWords words).length = 32 * words.length := by
  induction words with
  | nil => rfl
  | cons word words ih =>
    have hw : (wordBytes word).length = 32 := bigEndian_length 32 _
    rw [abiWords, List.flatMap_cons, List.length_append, hw, ← abiWords, ih, List.length_cons]
    omega

theorem message_lengths (a : RevocationArguments) (sender : Address) (hash : Bytes32) :
    (revocationMessage a sender).length = 192 ∧ (authorizationMessage a).length = 256 ∧
      (signedMessage hash).length = 60 := by
  have hw : (wordBytes hash).length = 32 := bigEndian_length 32 _
  have ht : (textEncode (js "tsl.revocation.authorization.v1")).length = 31 := by decide
  have hs : (textEncode (js "Ethereum Signed Message:\n32")).length = 27 := by decide
  refine ⟨?_, ?_, ?_⟩
  · rw [revocationMessage, abiWords_length]
    rfl
  · simp only [authorizationMessage, List.length_append, abiWords_length, ht]
    rfl
  · rw [signedMessage, List.cons_append, List.length_cons, List.length_append, hs, hw]

/-- One revocation is hashed into three texts of different lengths. -/
theorem sampleEvm_injOn {transactions : List ChainTransaction} {r : Recorded}
    (h : ∀ q ∈ AskedIn transactions, q = r) :
    Set.InjOn sampleEvm.keccak256 {m | HashedIn sampleEvm transactions m} := by
  obtain ⟨h1, h2, h3⟩ := message_lengths r.1 r.2 (revocationAuthorizationHash sampleEvm r.1)
  have hthree : ∀ m, HashedIn sampleEvm transactions m →
      m = revocationMessage r.1 r.2 ∧ m.length = 192 ∨ m = authorizationMessage r.1 ∧ m.length = 256 ∨
        m = signedMessage (revocationAuthorizationHash sampleEvm r.1) ∧ m.length = 60 := by
    rintro m ⟨tx, hm, a, ha, hc⟩
    rw [← h (a, tx.sender) ⟨tx, hm, ha, rfl⟩] at h1 h2 h3 ⊢
    rcases hc with hc | hc | hc
    · exact .inl ⟨hc, hc ▸ h1⟩
    · exact .inr (.inl ⟨hc, hc ▸ h2⟩)
    · exact .inr (.inr ⟨hc, hc ▸ h3⟩)
  intro m hm m' hm' he
  have hlen : m.length % 2 ^ 256 = m'.length % 2 ^ 256 := congrArg BitVec.toNat he
  rcases hthree m hm with ⟨e, hl⟩ | ⟨e, hl⟩ | ⟨e, hl⟩ <;>
    rcases hthree m' hm' with ⟨e', hl'⟩ | ⟨e', hl'⟩ | ⟨e', hl'⟩
  all_goals first
    | omega
    | exact e.trans e'.symm

theorem sampleTransactions_asked : ∀ q ∈ AskedIn sampleTransactions, q = (sampleArguments, 4) := by
  rintro ⟨a, sender⟩ ⟨tx, hm, ha, rfl⟩
  simp only [sampleTransactions, List.mem_cons, List.not_mem_nil, or_false] at hm
  rcases hm with rfl | rfl | rfl | rfl | rfl
  · cases ha
  · cases ha
  · cases ha
  · cases ha
    rfl
  · cases ha
    rfl

theorem isRevoked_exact_and_authorised_sample :
    (run (World.step sampleEvm) (.initial 1) sampleTransactions).revocations.isRevoked 7 9 100 =
        true ∧
      ∃ entry ∈ landed sampleEvm (.initial 1) sampleTransactions, entry.2.sender = 4 ∧
        ∃ signature, entry.2.call = .recordRevocationWithAuthorization sampleArguments signature ∧
          recoverControllerSigner sampleEvm (revocationAuthorizationHash sampleEvm sampleArguments)
            signature = 3 := by
  obtain ⟨hexact, -, hauthorised⟩ := isRevoked_exact_and_authorised sampleEvm
    (fun signer _ => signer = 3) 1 sampleTransactions []
    (by rw [List.append_nil]; exact sampleEvm_injOn sampleTransactions_asked)
    (fun digest v r _ => by
      simp only [sampleEvm]
      split
      · exact .inr rfl
      · exact .inl rfl)
  have hlanded : ((landed sampleEvm (.initial 1) sampleTransactions)[3]?.bind fun entry =>
      (entry.1.registries entry.1.revocations.trustIDRegistry).map fun R =>
        ((R.getController 7).toOption, entry.2.sender, entry.2.call.records)) =
      some (some 3, 4, some sampleArguments) := by decide +kernel
  obtain ⟨entry, he, hr⟩ := Option.bind_eq_some_iff.mp hlanded
  obtain ⟨R, hR, hr⟩ := Option.map_eq_some_iff.mp hr
  simp only [Prod.mk.injEq] at hr
  obtain ⟨hk, hs, ha⟩ := hr
  have hm := List.mem_of_getElem? he
  have hk : R.getController sampleArguments.trustId = .ok 3 := by
    cases hg : R.getController 7 with
    | error e =>
      rw [hg] at hk
      cases hk
    | ok c =>
      rw [hg] at hk
      exact hg.trans (congrArg Except.ok (Option.some.inj hk))
  refine ⟨(hexact 7 9 100).mpr ⟨entry, hm, sampleArguments, ha, rfl, rfl, by decide⟩,
    entry, hm, hs, ?_⟩
  rcases hauthorised entry hm sampleArguments ha R 3 hR hk with h | ⟨signature, hcall, h, -⟩
  · rw [hs] at h
    exact absurd h (by decide)
  · exact ⟨signature, hcall, h⟩

end Continuity

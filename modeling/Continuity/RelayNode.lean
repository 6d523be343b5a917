import Continuity.RelayLog

namespace Continuity
open Collections Frames
set_option autoImplicit true

/-- The routes that revoke a key. -/
inductive RevokeRoute where
  | revoke
  | rotate

/-- A request to revoke a key, with the identity that the resolvers found for it. -/
structure PendingRevocation where
  route : RevokeRoute
  revocation : RevocationV1
  identity : Option IdentityDocumentV1

/-- What runs in one synchronous stretch of a request. The answer of the database to a request is
part of it. -/
inductive NodeAction where
  | createIdentity (identity : IdentityDocumentV1)
  | revokeKey (route : RevokeRoute) (revocation : RevocationV1)
    (durable : Option IdentityDocumentV1)
  | resumeRevoke (call : Nat)
  | submitEvent (event : EventCommitmentV1) (durable : Option IdentityDocumentV1)
  | resumeEvent (call : Nat)

/-- A relay with the requests that are under way. -/
structure RelayNode where
  system : RelaySystem
  revoking : List PendingRevocation
  /-- The accepted revocations, in order. -/
  revoked : List RevocationV1

def revocationCommitmentHash (N : Noble) (revocation : RevocationV1) : Js Hex32 := do
  let hash ← revocationHash N revocation
  commitmentHashFromParts N hash revocation.signature

def assertTimestampInWindow (R : Relay) (timestamp : RFC3339) : Js Unit :=
  match R.host.parse timestamp with
  | none => relayError "TSL_TIMESTAMP_INVALID" "Timestamp is not parseable"
  | some parsed =>
    if R.timestamp_window_ms.lt (.ofNat (R.host.now - parsed).natAbs) then
      relayError "TSL_TIMESTAMP_OUT_OF_WINDOW" "Timestamp is outside relay policy"
    else return ()

namespace RevokeRoute

def accepts (H : Host) (revocation : RevocationV1) : RevokeRoute → Bool
  | .revoke => (H.validateSchema .revocation (.obj revocation.toFields)).valid
  | .rotate => (H.validateSchema .revocation (.obj revocation.toFields)).valid &&
    revocation.reason_class = .rotation && truthy revocation.replacement_key

def schemaMessage : RevokeRoute → String
  | .revoke => "Revocation failed schema validation"
  | .rotate => "Rotation requires a valid rotation revocation with replacement_key"

def signatureMessage : RevokeRoute → String
  | .revoke => "Revocation signature failed verification"
  | .rotate => "Rotation revocation signature failed verification"

end RevokeRoute

/-- The key that has to sign the request: the revoked one, else one that is active. -/
def revokingKey (H : Host) (identity : Option IdentityDocumentV1) (revocation : RevocationV1) :
    Option VerificationMethodV1 :=
  (namedKey identity revocation.revoked_key).or (activeKey H identity revocation.effective_at)

namespace InMemoryRelayStore

/-- A revocation route up to the resolver that it awaits. -/
def beginRevoke (R : Relay) (S : InMemoryRelayStore) (route : RevokeRoute)
    (revocation : RevocationV1) (durable : Option IdentityDocumentV1) : Js PendingRevocation := do
  if !route.accepts R.host revocation then relayError "TSL_SCHEMA_INVALID" route.schemaMessage
  else
    assertTimestampInWindow R revocation.effective_at
    let identity := (S.resolver.identities.get? revocation.trust_id).or durable
    return { route, revocation, identity }

/-- A revocation route from the identity on. -/
def finishRevoke (R : Relay) (S : InMemoryRelayStore) (call : PendingRevocation) :
    Js InMemoryRelayStore := do
  let revocation := call.revocation
  let signed ← signedBy R.host (revokingKey R.host call.identity revocation)
    (revocationHash R.noble revocation) revocation.signature
  if !signed then relayError "TSL_REVOCATION_SIGNATURE_INVALID" call.route.signatureMessage
  else
    let _ ← revocationCommitmentHash R.noble revocation
    let (_, S) ← S.acceptRevocation R revocation
    return { S with resolver := S.resolver.revokeKey revocation.trust_id revocation.revoked_key }

/-- The identity of the database replaces the one in memory. -/
def refreshIdentity (R : Relay) (S : InMemoryRelayStore) (durable : Option IdentityDocumentV1) :
    Js InMemoryRelayStore :=
  match durable with
  | some identity => S.upsertIdentity R identity
  | none => return S

end InMemoryRelayStore

namespace RelayNode

def idle (store : InMemoryRelayStore) : RelayNode where
  system := .idle store
  revoking := []
  revoked := []

def store (s : RelayNode) : InMemoryRelayStore := s.system.store

def beginRevoke (R : Relay) (s : RelayNode) (route : RevokeRoute) (revocation : RevocationV1)
    (durable : Option IdentityDocumentV1) : RelayNode :=
  match s.store.beginRevoke R route revocation durable with
  | .ok call => { s with revoking := s.revoking ++ [call] }
  | .error _ => s

def resumeRevoke (R : Relay) (s : RelayNode) (n : Nat) : RelayNode :=
  match s.revoking[n]? with
  | none => s
  | some call =>
    match s.store.finishRevoke R call with
    | .ok store =>
      { system := { s.system with store }
        revoking := s.revoking.eraseIdx n
        revoked := s.revoked ++ [call.revocation] }
    | .error _ => { s with revoking := s.revoking.eraseIdx n }

def submitEvent (R : Relay) (s : RelayNode) (event : EventCommitmentV1)
    (durable : Option IdentityDocumentV1) : RelayNode :=
  match s.store.refreshIdentity R durable with
  | .ok store => { s with system := RelaySystem.beginEvent R { s.system with store } event }
  | .error _ => s

def act (R : Relay) (s : RelayNode) : NodeAction → RelayNode
  | .createIdentity identity => { s with system := s.system.act R (.upsertIdentity identity) }
  | .revokeKey route revocation durable => s.beginRevoke R route revocation durable
  | .resumeRevoke n => s.resumeRevoke R n
  | .submitEvent event durable => s.submitEvent R event durable
  | .resumeEvent n => { s with system := s.system.resumeEvent R n }

def step (R : Relay) (s : RelayNode) (entry : Clock × NodeAction) : RelayNode :=
  s.act (R.at entry.1) entry.2

end RelayNode

/-- The named key of the document is active at no time from `t` on. -/
def InactiveFrom (H : Host) (t : Int) (keyId : JsString) (identity : IdentityDocumentV1) : Prop :=
  ∀ key, findVerificationMethod identity keyId = some key → ∀ timestamp at_,
    H.parse timestamp = some at_ → t ≤ at_ → keyActiveAt H key timestamp = false

/-- A stored document names a key that is active at no time from `t` on. -/
def Replaces (R : Relay) (d : TrustID) (k : JsString) (t : Int) (identity : IdentityDocumentV1) :
    Prop :=
  (R.host.validateSchema .identity identity.toJs).valid = true → identity.id = d →
    InactiveFrom R.host t k identity

/-- The document with the key marked as revoked. -/
def IdentityDocumentV1.revoking (identity : IdentityDocumentV1) (keyId : JsString) :
    IdentityDocumentV1 :=
  { identity with
    verification_methods := MemoryTrustResolver.revokeMethod keyId identity.verification_methods }

/-- What a step asks for so that the key stays revoked from `t` on: no document that comes in
has it active, and marking it in the stored document ends it. -/
def RevocationKept (R : Relay) (d : TrustID) (k : JsString) (t : Int) (s : RelayNode)
    (entry : Clock × NodeAction) : Prop :=
  match entry.2 with
  | .createIdentity identity => Replaces R d k t identity
  | .submitEvent _ durable => ∀ identity, durable = some identity → Replaces R d k t identity
  | .resumeRevoke n => ∀ call, s.revoking[n]? = some call → call.revocation.trust_id = d →
    call.revocation.revoked_key = k → ∀ identity,
      s.store.resolver.identities.get? d = some identity →
        InactiveFrom R.host t k (identity.revoking k)
  | _ => True

/-- No event under the key from `t` on has passed the verifier and waits for the log. -/
def NoneVerified (R : Relay) (d : TrustID) (k : JsString) (t : Int) (pending : List PendingEvent) :
    Prop :=
  ∀ call ∈ pending, call.event.sender = d → call.event.signing_key_id = k → ∀ at_,
    R.host.parse call.event.timestamp = some at_ → t ≤ at_ → ∀ verification,
      call.verification = .ok verification → verification.verified = false

/-- The key is revoked from `t` on. -/
structure RevokedFrom (R : Relay) (d : TrustID) (k : JsString) (t : Int) (s : RelayNode) :
    Prop where
  stored : ∀ identity, s.store.resolver.identities.get? d = some identity →
    InactiveFrom R.host t k identity
  pending : NoneVerified R d k t s.system.pending

/-- The event is not one under the key from `t` on. -/
def Before (R : Relay) (d : TrustID) (k : JsString) (t : Int) (event : EventCommitmentV1) : Prop :=
  event.sender = d → event.signing_key_id = k → ∀ at_,
    R.host.parse event.timestamp = some at_ → at_ < t

section Documents

variable {R : Relay} {S S' : InMemoryRelayStore} {identity : IdentityDocumentV1}

theorem upsertIdentity_set (h : S.upsertIdentity R identity = .ok S') :
    (R.host.validateSchema .identity identity.toJs).valid = true ∧
      S' = { S with resolver := S.resolver.upsertIdentity identity } := by
  unfold InMemoryRelayStore.upsertIdentity at h
  split at h
  · next hv =>
    cases h
    exact ⟨hv, rfl⟩
  · cases h

theorem find_revokeMethod_of_ne (h : k ≠ keyId) (methods : List VerificationMethodV1) :
    ((MemoryTrustResolver.revokeMethod keyId methods).find? fun method => method.id == k) =
      methods.find? fun method => method.id == k := by
  induction methods with
  | nil => rfl
  | cons method methods ih =>
    unfold MemoryTrustResolver.revokeMethod
    split
    · next he =>
      have hne : (method.id == k) = false := by
        rw [he, beq_eq_false_iff_ne]
        exact h.symm
      rw [List.find?_cons_of_neg (by simpa using hne), List.find?_cons_of_neg (by simpa using hne)]
    · rw [List.find?_cons, List.find?_cons, ih]

theorem revokeKey_get? (resolver : MemoryTrustResolver) (trustId : TrustID) (keyId : JsString)
    (d : TrustID) : (resolver.revokeKey trustId keyId).identities.get? d =
      if d = trustId then (resolver.identities.get? d).map (·.revoking keyId)
      else resolver.identities.get? d := by
  unfold MemoryTrustResolver.revokeKey
  split
  · next identity hi =>
    rw [OrderedMap.get?_set]
    split
    · next he =>
      rw [he, hi]
      rfl
    · rfl
  · next hn =>
    split
    · next he =>
      rw [he, hn]
      rfl
    · rfl

theorem finishRevoke_ok (h : S.finishRevoke R call = .ok S') :
    S'.resolver = S.resolver.revokeKey call.revocation.trust_id call.revocation.revoked_key := by
  obtain ⟨signed, -, h⟩ := bind_eq_ok.mp h
  split at h
  · cases h
  · simp only [bind_eq_ok] at h
    obtain ⟨_, -, ⟨accepted, S₁⟩, ha, h⟩ := h
    cases h
    obtain ⟨_, -, -, rfl⟩ := acceptRevocation_ok ha
    rfl

/-- A verified event is signed with a key that is active in the stored document. -/
theorem beginAcceptEvent_active {verification : VerificationResult}
    (h : S.beginAcceptEvent R event = .ok call) (hc : call.verification = .ok verification)
    (hv : verification.verified = true) :
    ∃ identity key, S.resolver.identities.get? event.sender = some identity ∧
      findVerificationMethod identity event.signing_key_id = some key ∧
      keyActiveAt R.host key event.timestamp = true := by
  obtain ⟨-, -, -, hcall⟩ := beginAcceptEvent_ok h
  rw [hcall] at hc
  obtain ⟨V⟩ := verifyTSL_run hc hv
  have he : V.envelope = event := (Option.some.inj V.envelope_eq).symm
  obtain ⟨key, hk, -, ha, -, -⟩ := V.signed
  have hr := V.resolved
  rw [he] at hk ha hr
  exact ⟨V.identity, key, Except.ok.inj hr, hk, ha⟩

end Documents

section Steps

variable {R : Relay} {d : TrustID} {k : JsString} {t : Int} {s : RelayNode}

theorem RevokedFrom.upsert (h : RevokedFrom R d k t s)
    (hu : s.store.upsertIdentity (R.at clock) identity = .ok store)
    (hr : Replaces R d k t identity) :
    RevokedFrom R d k t { s with system := { s.system with store } } := by
  obtain ⟨hvalid, rfl⟩ := upsertIdentity_set hu
  refine ⟨?_, h.pending⟩
  intro found hf
  simp only [RelayNode.store, MemoryTrustResolver.upsertIdentity, OrderedMap.get?_set] at hf
  split at hf
  · next he =>
    cases hf
    exact hr hvalid he.symm
  · exact h.stored found hf

/-- A document whose key is inactive lets no event under it through the verifier. -/
theorem RevokedFrom.begun (h : RevokedFrom R d k t s) (event : EventCommitmentV1) :
    RevokedFrom R d k t { s with system := RelaySystem.beginEvent (R.at clock) s.system event } := by
  unfold RelaySystem.beginEvent
  split
  · next call hok =>
    refine ⟨h.stored, ?_⟩
    intro waiting hm hd hk at_ hat hle verification hver
    rcases List.mem_append.mp hm with hm | hm
    · exact h.pending waiting hm hd hk at_ hat hle verification hver
    · rw [List.mem_singleton.mp hm] at hd hk hat hver
      have hevent := (beginAcceptEvent_ok hok).1
      rw [hevent] at hd hk hat
      rw [Bool.eq_false_iff]
      intro htrue
      obtain ⟨identity, key, hi, hf, ha⟩ := beginAcceptEvent_active hok hver htrue
      rw [hd] at hi
      rw [hk] at hf
      have hactive : keyActiveAt R.host key event.timestamp = true := ha
      rw [h.stored identity hi key hf event.timestamp at_ hat hle] at hactive
      cases hactive
  · exact h

/-- Marking a key leaves the other keys as they were. -/
theorem inactive_revokeKey {resolver : MemoryTrustResolver}
    (hmark : trustId = d → keyId = k → ∀ identity, resolver.identities.get? d = some identity →
      InactiveFrom H t k (identity.revoking k))
    (hkeep : ¬(trustId = d ∧ keyId = k) → ∀ identity,
      resolver.identities.get? d = some identity → InactiveFrom H t k identity) :
    ∀ identity, (resolver.revokeKey trustId keyId).identities.get? d = some identity →
      InactiveFrom H t k identity := by
  intro identity hi
  rw [revokeKey_get?] at hi
  split at hi
  · next hd =>
    obtain ⟨old, hold, rfl⟩ := Option.map_eq_some_iff.mp hi
    by_cases hk : keyId = k
    · subst hk
      exact hmark hd.symm rfl old hold
    · intro key hf
      have hne : k ≠ keyId := fun he => hk he.symm
      rw [findVerificationMethod, IdentityDocumentV1.revoking, find_revokeMethod_of_ne hne] at hf
      exact hkeep (fun h => hk h.2) old hold key hf
  · next hd => exact hkeep (fun h => hd h.1.symm) identity hi

/-- The accepted revocation of the key itself. -/
theorem RevokedFrom.of_revocation
    (h : s.store.finishRevoke (R.at clock) call = .ok store)
    (hd : call.revocation.trust_id = d) (hk : call.revocation.revoked_key = k)
    (hmark : ∀ identity, s.store.resolver.identities.get? d = some identity →
      InactiveFrom R.host t k (identity.revoking k))
    (hp : NoneVerified R d k t s.system.pending) :
    RevokedFrom R d k t
      { system := { s.system with store }, revoking := revoking, revoked := revoked } := by
  refine ⟨?_, hp⟩
  simp only [RelayNode.store, finishRevoke_ok h]
  exact inactive_revokeKey (fun _ _ => hmark) fun hne => absurd ⟨hd, hk⟩ hne

/-- One step keeps the key revoked. -/
theorem RevokedFrom.step (h : RevokedFrom R d k t s) (hg : RevocationKept R d k t s entry) :
    RevokedFrom R d k t (s.step R entry) := by
  obtain ⟨clock, action⟩ := entry
  cases action with
  | createIdentity identity =>
    simp only [RelayNode.step, RelayNode.act, RelaySystem.act, RelaySystem.withStore]
    split
    · next store hok => exact h.upsert hok hg
    · exact h
  | revokeKey route revocation durable =>
    simp only [RelayNode.step, RelayNode.act, RelayNode.beginRevoke]
    split
    · exact ⟨h.stored, h.pending⟩
    · exact h
  | resumeRevoke n =>
    simp only [RelayNode.step, RelayNode.act, RelayNode.resumeRevoke]
    split
    · exact h
    · next call hc =>
      split
      · next store hok =>
        refine ⟨?_, h.pending⟩
        simp only [RelayNode.store, finishRevoke_ok hok]
        exact inactive_revokeKey (fun hd hk => hg call hc hd hk) fun _ => h.stored
      · exact ⟨h.stored, h.pending⟩
  | submitEvent event durable =>
    simp only [RelayNode.step, RelayNode.act, RelayNode.submitEvent]
    split
    · next store hok =>
      cases durable with
      | none =>
        cases hok
        exact h.begun event
      | some identity => exact (h.upsert hok (hg identity rfl)).begun event
    · exact h
  | resumeEvent n =>
    simp only [RelayNode.step, RelayNode.act, RelaySystem.resumeEvent]
    have hpending : NoneVerified R d k t (s.system.pending.eraseIdx n) :=
      fun call hm => h.pending call (List.mem_of_mem_eraseIdx hm)
    split
    · exact h
    · next call hc =>
      split
      · next accepted store hok =>
        obtain ⟨_, -, -, -, -, -, -, -, -, rfl⟩ := finishAcceptEvent_ok hok
        exact ⟨h.stored, hpending⟩
      · exact ⟨h.stored, hpending⟩

/-- Only an event that the verifier has let through joins the accepted ones. -/
theorem RelayNode.step_accepted (R : Relay) (s : RelayNode) (entry : Clock × NodeAction) :
    (s.step R entry).system.accepted = s.system.accepted ∨
      ∃ call verification accepted, call ∈ s.system.pending ∧
        call.verification = .ok verification ∧ verification.verified = true ∧
        accepted.event = call.event ∧
        (s.step R entry).system.accepted = s.system.accepted ++ [accepted] := by
  obtain ⟨clock, action⟩ := entry
  cases action with
  | createIdentity identity =>
    refine .inl ?_
    simp only [RelayNode.step, RelayNode.act, RelaySystem.act, RelaySystem.withStore]
    split <;> rfl
  | revokeKey route revocation durable =>
    refine .inl ?_
    simp only [RelayNode.step, RelayNode.act, RelayNode.beginRevoke]
    split <;> rfl
  | resumeRevoke n =>
    refine .inl ?_
    simp only [RelayNode.step, RelayNode.act, RelayNode.resumeRevoke]
    split
    · rfl
    · split <;> rfl
  | submitEvent event durable =>
    refine .inl ?_
    simp only [RelayNode.step, RelayNode.act, RelayNode.submitEvent, RelaySystem.beginEvent]
    split
    · split <;> rfl
    · rfl
  | resumeEvent n =>
    have ht := act_transition (R.at clock) s.system (.resumeEvent n)
    have hs : (s.step R (clock, .resumeEvent n)).system =
        s.system.act (R.at clock) (.resumeEvent n) := rfl
    rw [hs]
    rcases ht.log with hl | ⟨_, call, accepted, _, -, hc, hok, he⟩
    · exact .inl hl.accepted
    · obtain ⟨verification, hv, htrue, -, hevent, -, -, -, -, -⟩ := finishAcceptEvent_ok hok
      exact .inr ⟨call, verification, accepted, List.mem_of_getElem? hc, hv, htrue, hevent,
        by rw [he]⟩

/-- A step accepts no event under the revoked key. -/
theorem RevokedFrom.accepted (h : RevokedFrom R d k t s) (entry : Clock × NodeAction) :
    ∃ later, (s.step R entry).system.accepted = s.system.accepted ++ later ∧
      ∀ a ∈ later, Before R d k t a.event := by
  rcases s.step_accepted R entry with he | ⟨call, verification, accepted, hm, hv, htrue, hevent, he⟩
  · refine ⟨[], by rw [he, List.append_nil], ?_⟩
    intro a ha
    cases ha
  · refine ⟨[accepted], he, ?_⟩
    intro a ha hd hk at_ hat
    rw [List.mem_singleton.mp ha, hevent] at hd hk hat
    by_contra hle
    rw [h.pending call hm hd hk at_ hat (Int.not_lt.mp hle) verification hv] at htrue
    cases htrue

theorem RevokedFrom.run (h : RevokedFrom R d k t s)
    (hg : Guarded (RelayNode.step R) (RevocationKept R d k t) s actions) :
    ∃ later, (run (RelayNode.step R) s actions).system.accepted = s.system.accepted ++ later ∧
      ∀ a ∈ later, Before R d k t a.event := by
  induction actions generalizing s with
  | nil =>
    refine ⟨[], (List.append_nil _).symm, ?_⟩
    intro a ha
    cases ha
  | cons entry rest ih =>
    obtain ⟨hfirst, hrest⟩ := hg
    obtain ⟨first, hf, hbefore⟩ := h.accepted entry
    obtain ⟨later, hl, hafter⟩ := ih (h.step hfirst) hrest
    refine ⟨first ++ later, ?_, ?_⟩
    · rw [← List.append_assoc, ← hf, ← hl]
      rfl
    · intro a ha
      rcases List.mem_append.mp ha with ha | ha
      · exact hbefore a ha
      · exact hafter a ha

end Steps

theorem resumeRevoke_eq {s : RelayNode} (hc : s.revoking[n]? = some call)
    (hok : s.store.finishRevoke (R.at clock) call = .ok store) :
    s.step R (clock, .resumeRevoke n) = {
      system := { s.system with store }
      revoking := s.revoking.eraseIdx n
      revoked := s.revoked ++ [call.revocation] } := by
  simp only [RelayNode.step, RelayNode.act, RelayNode.resumeRevoke, hc, hok]

/-- A key that is revoked from `t` on stays so when no event under it waits behind the verifier, no
document that is stored afterwards has it active from `t` on, and the stored key has no date of
revocation after `t`: no later event under it is accepted. -/
theorem revocation_permanent {R : Relay} {store : InMemoryRelayStore}
    {before after : List (Clock × NodeAction)} {call : PendingRevocation} {t : Int}
    (hc : (run (RelayNode.step R) (.idle store) before).revoking[n]? = some call)
    (hok : (run (RelayNode.step R) (.idle store) before).store.finishRevoke (R.at clock) call =
      .ok accepting)
    (_ : R.host.parse call.revocation.effective_at = some t)
    (hq : NoneVerified R call.revocation.trust_id call.revocation.revoked_key t
      (run (RelayNode.step R) (.idle store) before).system.pending)
    (hg : Guarded (RelayNode.step R)
      (RevocationKept R call.revocation.trust_id call.revocation.revoked_key t)
      (run (RelayNode.step R) (.idle store) before) ((clock, .resumeRevoke n) :: after)) :
    ∃ later, (run (RelayNode.step R) (.idle store)
        (before ++ (clock, .resumeRevoke n) :: after)).system.accepted =
        (run (RelayNode.step R) (.idle store) before).system.accepted ++ later ∧
      ∀ a ∈ later, a.event.sender = call.revocation.trust_id →
        a.event.signing_key_id = call.revocation.revoked_key → ∀ at_,
          R.host.parse a.event.timestamp = some at_ → at_ < t := by
  rw [run_append]
  generalize run (RelayNode.step R) (.idle store) before = s at *
  obtain ⟨hfirst, hrest⟩ := hg
  have hs := resumeRevoke_eq hc hok
  have hrevoked : RevokedFrom R call.revocation.trust_id call.revocation.revoked_key t
      (s.step R (clock, .resumeRevoke n)) := by
    rw [hs]
    exact .of_revocation hok rfl rfl (hfirst call hc rfl rfl) hq
  obtain ⟨later, hl, hbefore⟩ := hrevoked.run hrest
  refine ⟨later, ?_, hbefore⟩
  rw [hs] at hl
  rw [show run (RelayNode.step R) s ((clock, .resumeRevoke n) :: after) =
    run (RelayNode.step R) (s.step R (clock, .resumeRevoke n)) after from rfl, hs, hl]

/-- Alice revokes her key at the time of the sample event. -/
def sampleRevocation : RevocationV1 where
  trust_id := js "did:tsl:alice"
  revoked_key := js "#k1"
  replacement_key := none
  reason_class := .compromise
  effective_at := js "2026-05-25T00:00:00Z"
  signature := bytesToHex (
    bigEndian 32 0x45b8eaa169200e48161b0d390f03260f59db683d11954f2126d794cfc01e7db1 ++
    bigEndian 32 0x0e1c201a2d6b27fd11405ec7a6f784aef202c3a64abdd2dc68b791ce194f8e0e)

/-- The digests of the revocation, and its signature. -/
def revocationNoble : Noble :=
  let hash := bigEndian 32 0x0e1d867138d12f4b537809de8f40012d1cf61e20e8c5416507de2f2ca816b59e
  let signature := hexBytes sampleRevocation.signature
  recorded ([(domainMessage DOMAIN_TAGS.REVOCATION_V1 (valueBytes (.obj (withoutSignature
      sampleRevocation.toFields))), hash),
    (domainMessage DOMAIN_TAGS.COMMITMENT_V1 (hash ++ signature),
      bigEndian 32 0x9f6117481b648dcc711c85b9807f78051e9116975857764e90f7917e141b32ee)] ++ logDigests)
    ((signature, hash,
      bigEndian 32 0x8a88e3dd7409f195fd52db2d3cba5d72ca6709bf1d94121bf3748801b40f6f5c) ::
      sampleSignatures) longDigest

def nodeRelay : Relay := sampleRelay revocationNoble

/-- Alice is known, and her revocation has passed the first checks. -/
def revokingActions : List (Clock × NodeAction) :=
  [(sampleClock, .createIdentity aliceIdentity),
    (sampleClock, .revokeKey .revoke sampleRevocation none)]

/-- Her first document is stored again and her event is sent. -/
def restoringActions : List (Clock × NodeAction) :=
  [(sampleClock, .createIdentity aliceIdentity), (sampleClock, .submitEvent sampleEnvelope none),
    (sampleClock, .resumeEvent 0)]

/-- After the revocation the old document comes back, and the event under the revoked key is
accepted although it is not earlier than the revocation. -/
theorem revocation_permanent_restored :
    let s := run (RelayNode.step nodeRelay) (.idle (.blank ⟨.empty⟩))
      (revokingActions ++ [(sampleClock, .resumeRevoke 0)])
    let t := run (RelayNode.step nodeRelay) s restoringActions
    InMemoryRelayStore.create nodeRelay = .ok (.blank ⟨.empty⟩) ∧
      (s.revoked.map fun r => (r.trust_id, r.revoked_key, r.effective_at)) =
        [(js "did:tsl:alice", js "#k1", js "2026-05-25T00:00:00Z")] ∧
      s.system.accepted.length = 0 ∧
      (t.system.accepted.map fun a => (a.event.sender, a.event.signing_key_id,
        a.event.timestamp)) = [(js "did:tsl:alice", js "#k1", js "2026-05-25T00:00:00Z")] := by
  refine ⟨rfl, ?_⟩
  decide +kernel

/-- A key that is marked as revoked and has no date of its own is never active. -/
theorem inactiveFrom_revoked (h : ∀ key, findVerificationMethod identity keyId = some key →
    key.status = .revoked ∧ key.revoked_at = none) : InactiveFrom H t keyId identity := by
  intro key hf timestamp at_ hat _
  obtain ⟨hs, hr⟩ := h key hf
  unfold keyActiveAt
  rw [hat, hs, hr]
  split
  · simp [truthy]
  · rfl

/-- The event comes after the revocation. -/
def lateActions : List (Clock × NodeAction) :=
  [(sampleClock, .submitEvent sampleEnvelope none), (sampleClock, .resumeEvent 0)]

def revokingNode : RelayNode :=
  run (RelayNode.step nodeRelay) (.idle (.blank ⟨.empty⟩)) revokingActions

theorem revokingNode_eq : revokingNode = {
    system := .idle { InMemoryRelayStore.blank ⟨.empty⟩ with
      resolver := (MemoryTrustResolver.mk .empty).upsertIdentity aliceIdentity }
    revoking := [⟨.revoke, sampleRevocation, some aliceIdentity⟩]
    revoked := [] } := by
  rfl

theorem lateActions_kept : Guarded (RelayNode.step nodeRelay)
    (RevocationKept nodeRelay (js "did:tsl:alice") (js "#k1") 1779667200000) revokingNode
    ((sampleClock, .resumeRevoke 0) :: lateActions) := by
  refine ⟨?_, ?_, True.intro, True.intro⟩
  · intro call hc _ _ identity hi
    rw [revokingNode_eq] at hi
    obtain rfl : aliceIdentity = identity := Option.some.inj hi
    apply inactiveFrom_revoked
    intro key hf
    cases hf
    exact ⟨rfl, rfl⟩
  · intro identity hi
    cases hi

theorem revocation_permanent_sample :
    (revokingNode.revoking.map fun call => call.revocation.effective_at) =
        [js "2026-05-25T00:00:00Z"] ∧
      ∃ later, (run (RelayNode.step nodeRelay) (.idle (.blank ⟨.empty⟩))
          (revokingActions ++ (sampleClock, .resumeRevoke 0) :: lateActions)).system.accepted =
          revokingNode.system.accepted ++ later ∧
        ∀ a ∈ later, a.event.sender = js "did:tsl:alice" → a.event.signing_key_id = js "#k1" →
          ∀ at_, nodeRelay.host.parse a.event.timestamp = some at_ → at_ < 1779667200000 := by
  have hc : revokingNode.revoking[0]? = some ⟨.revoke, sampleRevocation, some aliceIdentity⟩ := by
    rw [revokingNode_eq]
    rfl
  have hok : (fun _ => true) <$> revokingNode.store.finishRevoke (nodeRelay.at sampleClock)
      ⟨.revoke, sampleRevocation, some aliceIdentity⟩ = .ok true := by
    decide +kernel
  obtain ⟨accepting, hok, -⟩ := map_eq_ok.mp hok
  have ht : nodeRelay.host.parse sampleRevocation.effective_at = some 1779667200000 := by
    decide +kernel
  have hq : NoneVerified nodeRelay (js "did:tsl:alice") (js "#k1") 1779667200000
      revokingNode.system.pending := by
    rw [revokingNode_eq]
    intro call hm
    cases hm
  refine ⟨by rw [revokingNode_eq]; rfl, ?_⟩
  exact revocation_permanent hc hok ht hq lateActions_kept

end Continuity

import Continuity.RelayNode

namespace Continuity
open Collections Frames
set_option autoImplicit true

/-- The verifier returns with `verified = true`. -/
def Verifies (H : Host) (tools : Recomputation) (input : VerifyTSLInput)
    (resolver : TrustResolver) (policy : VerifierPolicy JsField)
    (backend : Option SettlementBackend) : Prop :=
  ∃ result, verifyTSL H tools input resolver policy backend = .ok result ∧ result.verified = true

/-- The stored document does not list the key, or has it marked as revoked. -/
def NothingToRevoke (resolver : MemoryTrustResolver) (trustId : TrustID) (keyId : JsString) :
    Prop :=
  ∀ identity, resolver.identities.get? trustId = some identity →
    ∀ key, findVerificationMethod identity keyId = some key → key.status = .revoked

/-- The key has a date of revocation after the time. -/
def datedAfter (H : Host) (key : VerificationMethodV1) (at_ : Int) : Bool :=
  truthy key.revoked_at && laterThan H (key.revoked_at.getD []) at_

section Marking

theorem find_revokeMethod (methods : List VerificationMethodV1) :
    ((MemoryTrustResolver.revokeMethod keyId methods).find? fun method => method.id == keyId) =
      (methods.find? fun method => method.id == keyId).map
        fun method => { method with status := .revoked } := by
  induction methods with
  | nil => rfl
  | cons method methods ih =>
    unfold MemoryTrustResolver.revokeMethod
    by_cases h : method.id = keyId
    · rw [if_pos h, List.find?_cons_of_pos (by simpa using h),
        List.find?_cons_of_pos (by simpa using h)]
      rfl
    · rw [if_neg h, List.find?_cons_of_neg (by simpa using h),
        List.find?_cons_of_neg (by simpa using h), ih]

theorem revokeMethod_same {methods : List VerificationMethodV1}
    (h : ∀ key, (methods.find? fun method => method.id == keyId) = some key →
      key.status = .revoked) : MemoryTrustResolver.revokeMethod keyId methods = methods := by
  induction methods with
  | nil => rfl
  | cons method methods ih =>
    unfold MemoryTrustResolver.revokeMethod
    by_cases he : method.id = keyId
    · have hs := h method (List.find?_cons_of_pos (by simpa using he))
      rw [if_pos he, ← hs]
    · rw [if_neg he, ih]
      intro key hk
      exact h key ((List.find?_cons_of_neg (by simpa using he)).trans hk)

theorem findVerificationMethod_revoking (identity : IdentityDocumentV1) (keyId : JsString) :
    findVerificationMethod (identity.revoking keyId) keyId =
      (findVerificationMethod identity keyId).map fun key => { key with status := .revoked } :=
  find_revokeMethod identity.verification_methods

/-- A key that is marked as revoked is active only before its date of revocation. -/
theorem keyActiveAt_marked {key : VerificationMethodV1}
    (h : keyActiveAt H { key with status := .revoked } timestamp = true)
    (ht : H.parse timestamp = some at_) : datedAfter H key at_ = true := by
  unfold keyActiveAt at h
  rw [ht] at h
  cases hc : H.parse key.created_at with
  | none =>
    rw [hc] at h
    cases h
  | some created =>
    rw [hc] at h
    simp only [Bool.and_eq_true] at h
    rw [datedAfter, Bool.and_eq_true]
    exact h.1.2

/-- Where there is nothing to revoke, the resolver stays as it was. -/
theorem revokeKey_same {resolver : MemoryTrustResolver} (h : NothingToRevoke resolver trustId keyId) :
    (resolver.revokeKey trustId keyId).resolveTrustID = resolver.resolveTrustID := by
  funext d timestamp
  unfold MemoryTrustResolver.resolveTrustID
  rw [revokeKey_get?]
  split
  · next he =>
    subst he
    cases hi : resolver.identities.get? d with
    | none => rfl
    | some identity =>
      have hm : identity.revoking keyId = identity := by
        rw [IdentityDocumentV1.revoking, revokeMethod_same (h identity hi)]
      rw [Option.map_some, hm]
  · rfl

end Marking

/-- A revocation that the relay accepts changes no verdict where its document does not list the key
as usable; else no event under the key, of whatever time, verifies afterwards, unless the stored
key has a date of revocation after the event. -/
theorem finishRevoke_verdicts {R : Relay} {S S' : InMemoryRelayStore} {call : PendingRevocation}
    (hok : S.finishRevoke R call = .ok S') :
    (NothingToRevoke S.resolver call.revocation.trust_id call.revocation.revoked_key →
      ∀ tools input policy backend,
        Verifies R.host tools input S'.resolver.resolveTrustID policy backend ↔
          Verifies R.host tools input S.resolver.resolveTrustID policy backend) ∧
    (¬NothingToRevoke S.resolver call.revocation.trust_id call.revocation.revoked_key →
      ∃ identity key,
        S.resolver.identities.get? call.revocation.trust_id = some identity ∧
        findVerificationMethod identity call.revocation.revoked_key = some key ∧
        ∀ tools input policy backend envelope at_,
          (expandProofBundleInput R.host input).1.envelope = some envelope →
          envelope.sender = call.revocation.trust_id →
          envelope.signing_key_id = call.revocation.revoked_key →
          R.host.parse envelope.timestamp = some at_ → datedAfter R.host key at_ = false →
          ¬Verifies R.host tools input S'.resolver.resolveTrustID policy backend) := by
  have hresolver := finishRevoke_ok hok
  constructor
  · intro hn tools input policy backend
    rw [hresolver, revokeKey_same hn]
  · intro hn
    simp only [NothingToRevoke, not_forall] at hn
    obtain ⟨identity, hi, key, hk, -⟩ := hn
    refine ⟨identity, key, hi, hk, ?_⟩
    have hf : ∀ timestamp, S'.resolver.resolveTrustID call.revocation.trust_id timestamp =
        .ok (some (identity.revoking call.revocation.revoked_key)) := by
      intro timestamp
      rw [hresolver, MemoryTrustResolver.resolveTrustID, revokeKey_get?, if_pos rfl, hi]
      rfl
    rintro tools input policy backend envelope at_ he hs hkey ht hd ⟨result, hr, hv⟩
    obtain ⟨V⟩ := verifyTSL_run hr hv
    obtain rfl : V.envelope = envelope := Option.some.inj (V.envelope_eq.symm.trans he)
    obtain ⟨used, hu, -, ha, -, -⟩ := V.signed
    have hdoc : V.identity = identity.revoking call.revocation.revoked_key := by
      have hr := V.resolved
      rw [hs] at hr
      exact Option.some.inj (Except.ok.inj (hr.symm.trans (hf _)))
    rw [hdoc, hkey, findVerificationMethod_revoking, hk] at hu
    cases hu
    rw [keyActiveAt_marked ha ht] at hd
    cases hd

/-- Alice revokes her key from one second after the sample event on. -/
def laterRevocation : RevocationV1 :=
  { sampleRevocation with
    effective_at := js "2026-05-25T00:00:01Z"
    signature := bytesToHex (
      bigEndian 32 0xe261accbb741aa1fd21a743b5dd38ee18e27fb3f1dce9ade6e05791125f40d3a ++
      bigEndian 32 0x96e12ac6ba565004695ae51513cf13360008d6322d0b87d73abc5bb29ddf3109) }

def laterNoble : Noble :=
  let hash := bigEndian 32 0x413b8c2a1614b9e650e5235187bc7e5aa2488cf2432cea8cbc2a24f7cbc60df9
  let signature := hexBytes laterRevocation.signature
  recorded ([(domainMessage DOMAIN_TAGS.REVOCATION_V1 (valueBytes (.obj (withoutSignature
      laterRevocation.toFields))), hash),
    (domainMessage DOMAIN_TAGS.COMMITMENT_V1 (hash ++ signature),
      bigEndian 32 0x3118f71fa77bc13eab54594fcc8ecd16ed4a1bfd7acc78c48611373f3f66381e)] ++ logDigests)
    ((signature, hash,
      bigEndian 32 0x8a88e3dd7409f195fd52db2d3cba5d72ca6709bf1d94121bf3748801b40f6f5c) ::
      sampleSignatures) longDigest

def laterRelay : Relay := sampleRelay laterNoble

/-- A store that knows Alice. -/
def aliceStore : InMemoryRelayStore :=
  { InMemoryRelayStore.blank ⟨.empty⟩ with
    resolver := (MemoryTrustResolver.mk .empty).upsertIdentity aliceIdentity }

def laterCall : PendingRevocation := ⟨.revoke, laterRevocation, some aliceIdentity⟩

/-- Whether the sample event verifies before and after the revocation. -/
def laterVerdicts : Js (Bool × Bool) := do
  let before ← verifyTSL laterRelay.host laterRelay.tools (eventInput sampleEnvelope)
    aliceStore.resolver.resolveTrustID emptyPolicy none
  let revoked ← aliceStore.finishRevoke laterRelay laterCall
  let after ← verifyTSL laterRelay.host laterRelay.tools (eventInput sampleEnvelope)
    revoked.resolver.resolveTrustID emptyPolicy none
  return (before.verified, after.verified)

/-- An event one second before the revocation no longer verifies after it. -/
theorem finishRevoke_retroactive :
    (aliceStore.beginRevoke (laterRelay.at sampleClock) .revoke laterRevocation none).toOption.map
        (fun call => (call.revocation.signature, call.identity.isSome)) =
      some (laterRevocation.signature, true) ∧
    laterRelay.host.parse sampleEnvelope.timestamp = some 1779667200000 ∧
    laterRelay.host.parse laterRevocation.effective_at = some 1779667201000 ∧
    laterVerdicts = .ok (true, false) := by
  decide +kernel

theorem finishRevoke_verdicts_sample : ∃ S',
    aliceStore.finishRevoke laterRelay laterCall = .ok S' ∧
      ¬Verifies laterRelay.host laterRelay.tools (eventInput sampleEnvelope)
        S'.resolver.resolveTrustID emptyPolicy none := by
  have hok : (fun _ => true) <$> aliceStore.finishRevoke laterRelay laterCall = .ok true := by
    decide +kernel
  obtain ⟨S', hok, -⟩ := map_eq_ok.mp hok
  refine ⟨S', hok, ?_⟩
  have hlisted : ¬NothingToRevoke aliceStore.resolver laterCall.revocation.trust_id
      laterCall.revocation.revoked_key := by
    intro h
    cases h aliceIdentity rfl _ rfl
  obtain ⟨identity, key, hi, hk, h⟩ := (finishRevoke_verdicts hok).2 hlisted
  cases hi
  cases hk
  exact h laterRelay.tools (eventInput sampleEnvelope) emptyPolicy none sampleEnvelope
    1779667200000 rfl rfl rfl (by decide +kernel) rfl

end Continuity

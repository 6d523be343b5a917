import Continuity.RevokedVerdict
import Continuity.VerifierErrors

namespace Continuity
open Frames
set_option autoImplicit true

/-- The same code with the same packages, in another environment and at another time. -/
structure SameCode (H H' : Host) : Prop where
  noble : H.noble = H'.noble
  ajv : H.ajv = H'.ajv
  dateHeuristics : H.dateHeuristics = H'.dateHeuristics

/-- `POST /v1/keys/revoke` takes the revocation under the document, at whatever times. -/
def AcceptedUnder (R : Relay) (identity : IdentityDocumentV1) (revocation : RevocationV1) : Prop :=
  ∃ (begun finished : Clock) (S S₁ S₂ : InMemoryRelayStore) (durable : Option IdentityDocumentV1)
    (call : PendingRevocation), S.beginRevoke (R.at begun) .revoke revocation durable = .ok call ∧
      call.identity = some identity ∧ S₁.finishRevoke (R.at finished) call = .ok S₂

/-- The signature of the revocation holds under the public key. -/
def SignedUnder (N : Noble) (revocation : RevocationV1) (public_key : JsString) : Prop :=
  ∃ hash, revocationHash N revocation = .ok hash ∧
    verifyEd25519 N public_key hash revocation.signature = .ok true

/-- The first key with the status active has the signature of the key that the relay looks up; a
document without such a key lists the revoked one. -/
def SignerAgrees (H : Host) (identity : IdentityDocumentV1) (revocation : RevocationV1) : Prop :=
  match identity.verification_methods.find? fun method => method.status = .active with
  | some first => first.type = .ed25519 ∧
      (some first.public_key =
          (revokingKey H (some identity) revocation).map VerificationMethodV1.public_key ∨
        SignedUnder H.noble revocation first.public_key)
  | none => (findVerificationMethod identity revocation.revoked_key).isSome

section Keys

/-- What the relay checked of a revocation that it took. -/
theorem AcceptedUnder.checked (h : AcceptedUnder R identity revocation) :
    (R.host.validateSchema .revocation (.obj revocation.toFields)).valid = true ∧
      signedBy R.host (revokingKey R.host (some identity) revocation)
        (revocationHash R.noble revocation) revocation.signature = .ok true := by
  obtain ⟨begun, finished, S, S₁, S₂, durable, call, hb, hi, hf⟩ := h
  unfold InMemoryRelayStore.beginRevoke at hb
  split at hb
  · cases hb
  · next hs =>
    have hvalid : RevokeRoute.accepts (R.at begun).host revocation .revoke = true := by
      simpa using hs
    obtain ⟨_, -, hb⟩ := bind_eq_ok.mp hb
    cases hb
    refine ⟨hvalid, ?_⟩
    obtain ⟨signed, hsigned, hf⟩ := bind_eq_ok.mp hf
    split at hf
    · cases hf
    · next ht =>
      have htrue : signed = true := by simpa using ht
      rw [← hi, ← htrue]
      exact hsigned

variable {H H' : Host}

theorem SameCode.revokingKey (h : SameCode H H') (identity : Option IdentityDocumentV1)
    (revocation : RevocationV1) :
    revokingKey H identity revocation = Continuity.revokingKey H' identity revocation := by
  simp only [Continuity.revokingKey, activeKey, keyActiveAt, laterThan, Host.parse,
    h.dateHeuristics]

theorem SameCode.validateSchema (h : SameCode H H') (name : SchemaName) (value : JsValue) :
    H.validateSchema name value = H'.validateSchema name value := by
  simp only [Host.validateSchema, h.ajv]

theorem SameCode.signedBy (h : SameCode H H') (key : Option VerificationMethodV1) (hash : Js Hex32)
    (signature : HexSig) :
    signedBy H key hash signature = Continuity.signedBy H' key hash signature := by
  simp only [Continuity.signedBy, h.noble]

/-- The verifier finds the signature of an accepted revocation good where the signers agree. -/
theorem AcceptedUnder.signed_iff (h : AcceptedUnder R identity revocation)
    (hc : SameCode H R.host) :
    signedBy H (revocationKey (some identity) revocation) (revocationHash H.noble revocation)
      revocation.signature = .ok true ↔ SignerAgrees H identity revocation := by
  obtain ⟨-, hsigned⟩ := h.checked
  rw [← hc.revokingKey, ← hc.signedBy, show R.noble = H.noble from hc.noble.symm] at hsigned
  obtain ⟨used, hash, hused, htype, hhash, hverify⟩ := signedBy_true.mp hsigned
  unfold SignerAgrees
  dsimp only [revocationKey]
  cases hf : identity.verification_methods.find? fun method => method.status = .active with
  | none =>
    rw [Option.none_or]
    constructor
    · intro hs
      obtain ⟨key, _, hk, -⟩ := signedBy_true.mp hs
      rw [hk]
      rfl
    · intro hlisted
      obtain ⟨key, hk⟩ := Option.isSome_iff_exists.mp hlisted
      have hrelay : revokingKey H (some identity) revocation = some key := by
        rw [revokingKey, namedKey, hk, Option.some_or]
      rw [hk, ← hrelay]
      exact hsigned
  | some first =>
    rw [Option.some_or, hused, Option.map_some]
    constructor
    · intro hs
      obtain ⟨key, value, hk, ht, hv, hs⟩ := signedBy_true.mp hs
      cases hk
      exact ⟨ht, .inr ⟨value, hv, hs⟩⟩
    · rintro ⟨ht, hsame | ⟨value, hv, hs⟩⟩
      · rw [← Option.some.inj hsame] at hverify
        exact signedBy_true.mpr ⟨first, hash, rfl, ht, hhash, hverify⟩
      · exact signedBy_true.mpr ⟨first, value, rfl, ht, hv, hs⟩

end Keys

/-- Of revocations that the relay took under the documents that the resolver gives, the verifier
reports no signature where it stops before them or the signers agree on each. -/
theorem acceptedRevocations_silent_iff {H : Host} {R : Relay} {tools : Recomputation}
    {input : VerifyTSLInput} {resolver : TrustResolver} {policy : VerifierPolicy JsField}
    {backend : Option SettlementBackend} {result : VerificationResult}
    (hc : SameCode H R.host) (ho : OwnCodes tools backend)
    (ha : ∀ revocation ∈ disclosedRevocations H input, ∃ identity,
      resolver revocation.trust_id revocation.effective_at = .ok (some identity) ∧
        AcceptedUnder R identity revocation)
    (hr : verifyTSL H tools input resolver policy backend = .ok result) :
    signatureError ∉ result.errors ↔ ReachesBlocks H input resolver →
      ∀ revocation ∈ disclosedRevocations H input, ∀ identity,
        resolver revocation.trust_id revocation.effective_at = .ok (some identity) →
          SignerAgrees H identity revocation := by
  rw [verifyTSL_error ho hr]
  constructor
  · intro hn hreach revocation hd identity hi
    obtain ⟨identity', hi', haccepted⟩ := ha revocation hd
    cases hi.symm.trans hi'
    by_contra hagree
    apply hn
    refine ⟨hreach, revocation, hd, ?_, some identity, hi, ?_⟩
    · rw [hc.validateSchema]
      exact haccepted.checked.1
    · rw [ne_eq, haccepted.signed_iff hc]
      exact hagree
  · rintro hagree ⟨hreach, revocation, hd, -, found, hi, hs⟩
    obtain ⟨identity, hi', haccepted⟩ := ha revocation hd
    cases hi.symm.trans hi'
    exact hs ((haccepted.signed_iff hc).mpr (hagree hreach revocation hd identity hi))

/-- Alice lists the key of the relay beside her own. -/
def twoKeys : IdentityDocumentV1 :=
  { aliceIdentity with
    verification_methods := relayIdentity.verification_methods ++
      aliceIdentity.verification_methods }

/-- The same keys in the other order. -/
def twoKeysReversed : IdentityDocumentV1 :=
  { twoKeys with verification_methods := twoKeys.verification_methods.reverse }

def storeOf (identity : IdentityDocumentV1) : InMemoryRelayStore :=
  { aliceStore with resolver := (MemoryTrustResolver.mk .empty).upsertIdentity identity }

/-- The sample event with a revocation. -/
def revokedInput (revocation : RevocationV1) : VerifyTSLInput :=
  { eventInput sampleEnvelope with revocations := .value [revocation] }

theorem sampleTools_ownCodes : OwnCodes sampleTools none := by
  refine ⟨?_, ?_, ?_⟩
  · intro action policies keys time outcome h
    cases h
    exact Option.some_ne_none _ ∘ Eq.symm
  · intro evidence outcome h
    cases h
    exact Option.some_ne_none _ ∘ Eq.symm
  · intro B checkpoint result h
    cases h

theorem acceptedUnder_later {identity : IdentityDocumentV1}
    (hb : (storeOf identity).beginRevoke (laterRelay.at sampleClock) .revoke laterRevocation none =
      .ok ⟨.revoke, laterRevocation, some identity⟩)
    (hf : (fun _ => true) <$> (storeOf identity).finishRevoke (laterRelay.at sampleClock)
      ⟨.revoke, laterRevocation, some identity⟩ = .ok true) :
    AcceptedUnder laterRelay identity laterRevocation := by
  obtain ⟨S, hf, -⟩ := map_eq_ok.mp hf
  exact ⟨sampleClock, sampleClock, _, _, S, none, _, hb, rfl, hf⟩

/-- The relay takes a revocation that the revoked key signed, the verifier asks the key listed
first. -/
theorem acceptedRevocation_reported :
    AcceptedUnder laterRelay twoKeys laterRevocation ∧
      disclosedRevocations laterRelay.host (revokedInput laterRevocation) = [laterRevocation] ∧
      ∃ result, verifyTSL laterRelay.host laterRelay.tools (revokedInput laterRevocation)
          (fun _ _ => .ok (some twoKeys)) emptyPolicy none = .ok result ∧
        signatureError ∈ result.errors := by
  refine ⟨acceptedUnder_later rfl (by decide +kernel), rfl, ?_⟩
  have hr : (fun result => result.errors.contains signatureError) <$> verifyTSL laterRelay.host
      laterRelay.tools (revokedInput laterRevocation) (fun _ _ => .ok (some twoKeys)) emptyPolicy
      none = .ok true := by
    decide +kernel
  obtain ⟨result, hr, hm⟩ := map_eq_ok.mp hr
  exact ⟨result, hr, List.contains_iff_mem.mp hm⟩

/-- With the revoked key listed first the verifier finds the signature good. -/
theorem acceptedRevocations_silent_iff_sample : ∃ result,
    verifyTSL laterRelay.host laterRelay.tools (revokedInput laterRevocation)
        (fun _ _ => .ok (some twoKeysReversed)) emptyPolicy none = .ok result ∧
      signatureError ∉ result.errors := by
  have hr : (fun _ => true) <$> verifyTSL laterRelay.host laterRelay.tools
      (revokedInput laterRevocation) (fun _ _ => .ok (some twoKeysReversed)) emptyPolicy none =
        .ok true := by
    decide +kernel
  obtain ⟨result, hr, -⟩ := map_eq_ok.mp hr
  refine ⟨result, hr, ?_⟩
  have hdisclosed : disclosedRevocations laterRelay.host (revokedInput laterRevocation) =
      [laterRevocation] := rfl
  apply (acceptedRevocations_silent_iff ⟨rfl, rfl, rfl⟩ sampleTools_ownCodes ?_ hr).mpr
  · intro _ revocation hd identity hi
    cases hi
    rw [hdisclosed, List.mem_singleton] at hd
    cases hd
    exact ⟨rfl, .inl rfl⟩
  · intro revocation hd
    rw [hdisclosed, List.mem_singleton] at hd
    cases hd
    exact ⟨twoKeysReversed, rfl, acceptedUnder_later rfl (by decide +kernel)⟩

end Continuity

import Continuity.AgentDelegation
import Continuity.ConsentAgreement
import Continuity.DelegationGrant
import Continuity.RevocationSigners

namespace Continuity
open Frames
set_option autoImplicit true

section Consents

end Consents

section Agents

/-- The two keys of the delegation signed it, in their time. -/
def DelegationSigned (H : Host) (resolver : TrustResolver) (delegation : AgentDelegationV1) :
    Prop :=
  ∃ controller agent controllerKey agentKey hash,
    resolver delegation.controller delegation.issued_at = .ok controller ∧
    resolver delegation.agent delegation.issued_at = .ok agent ∧
    agentDelegationHash H.noble delegation = .ok hash ∧
    namedKey controller delegation.controller_key_id = some controllerKey ∧
    namedKey agent delegation.agent_key_id = some agentKey ∧
    (controllerKey.type = .ed25519 ∧ keyActiveAt H controllerKey delegation.issued_at = true ∧
      verifyEd25519 H.noble controllerKey.public_key hash delegation.controller_signature =
        .ok true) ∧
    agentKey.type = .ed25519 ∧ keyActiveAt H agentKey delegation.issued_at = true ∧
    verifyEd25519 H.noble agentKey.public_key hash delegation.agent_signature = .ok true

theorem permit_true {c : Prop} [Decidable c] {x : Js Bool} :
    (if c then x else return false) = .ok true ↔ c ∧ x = .ok true := by
  by_cases hc : c
  · simp [hc]
  · simp [hc, pure, Except.pure]

/-- What an agent delegation is checked for besides its expiry. -/
structure DelegationStands (H : Host) (resolver : TrustResolver) (delegation : AgentDelegationV1)
    (requiredScope : Option JsString) : Prop where
  type : delegation.type = js "tsl.agent_delegation.v1"
  scope : truthy requiredScope = true → delegation.scope.contains (requiredScope.getD []) = true
  signed : DelegationSigned H resolver delegation

theorem verifyAgentDelegation_true {H : Host} {resolver : TrustResolver}
    {delegation : AgentDelegationV1} {requiredScope : Option JsString} {atTime : RFC3339} :
    verifyAgentDelegation H resolver delegation requiredScope atTime = .ok true ↔
      DelegationStands H resolver delegation requiredScope ∧
        timeLe (H.parse delegation.expires_at) (H.parse atTime) = false := by
  unfold verifyAgentDelegation
  simp only [refuse_true, permit_true, bind_eq_ok, Bool.and_eq_true, not_and, Bool.not_eq_true,
    Bool.not_eq_false', not_not, Option.any_eq_true, decide_eq_true_eq]
  constructor
  · rintro ⟨htype, hunexpired, hscope, controller, hc, agent, ha, hash, hhash,
      ⟨⟨controllerKey, hck, hctype, hcactive⟩, agentKey, hak, hatype, haactive⟩, signed, hs, rfl,
      hs'⟩
    obtain ⟨key, event, hkey, -, hevent, hv⟩ := signedBy_true.mp hs
    obtain ⟨key', event', hkey', -, hevent', hv'⟩ := signedBy_true.mp hs'
    cases hevent
    cases hevent'
    obtain rfl := Option.some.inj (hck.symm.trans hkey)
    obtain rfl := Option.some.inj (hak.symm.trans hkey')
    exact ⟨⟨htype, hscope, controller, agent, controllerKey, agentKey, hash, hc, ha, hhash, hck,
      hak, ⟨hctype, hcactive, hv⟩, hatype, haactive, hv'⟩, hunexpired⟩
  · rintro ⟨⟨htype, hscope, controller, agent, controllerKey, agentKey, hash, hc, ha, hhash, hck,
      hak, ⟨hctype, hcactive, hv⟩, hatype, haactive, hv'⟩, hunexpired⟩
    exact ⟨htype, hunexpired, hscope, controller, hc, agent, ha, hash, hhash,
      ⟨⟨controllerKey, hck, hctype, hcactive⟩, agentKey, hak, hatype, haactive⟩, true,
      signedBy_true.mpr ⟨controllerKey, hash, hck, hctype, rfl, hv⟩, rfl,
      signedBy_true.mpr ⟨agentKey, hash, hak, hatype, rfl, hv'⟩⟩

end Agents

namespace DelegationInput

variable {H : Host} {I : DelegationInput}

/-- The ends of the window of a policy that can be read hold the time. -/
def WithinRead (H : Host) (policy : DelegationPolicyV2) (at_ : Int) : Prop :=
  (∀ t, H.parse policy.valid_from = some t → t ≤ at_) ∧
    ∀ t, H.parse policy.valid_until = some t → at_ < t

/-- What a policy of the chain is checked for besides its window. -/
structure PassesUndated (H : Host) (I : DelegationInput) (depth : Nat) (s : ChainState)
    (policy : DelegationPolicyV2) : Prop where
  signed : I.signs H policy.principal (delegationPolicyV2Hash H.noble policy) policy.signature =
    .ok true
  not_revoked : I.revoked policy = false
  delegate : policy.delegate = s.expectedDelegate
  parent : ∀ id, s.expectedParentPolicyId = some id → policy.policy_id = id
  not_denied : policy.effect = .deny → policyMatchesAction policy I.action = false
  granted : policy.effect = .allow → ∀ check ∈ I.grantChecks depth policy, check.1 = false

/-- What an action is checked for besides the windows of its policies. -/
structure VerifiedUndated (H : Host) (I : DelegationInput) : Prop where
  signed : I.signs H I.action.agent (agentActionV2Hash H.noble I.action) I.action.signature =
    .ok true
  opened : I.parametersMatch H = .ok true
  head : ∃ first rest, I.delegation_chain = first :: rest ∧
    first.principal = I.action.principal
  root : I.expectedChainRoot H = .ok I.action.delegation_chain_root
  links : ∀ before policy after, I.delegation_chain = before ++ policy :: after →
    PassesUndated H I after.length (I.stateBelow after) policy
  scope : ∀ check ∈ I.scopeChecks (I.stateBelow I.delegation_chain), check.1 = false
  commits : ∃ bytes, canonicalBytes (I.stateBelow I.delegation_chain).scope = .ok bytes

end DelegationInput

section Revocations

/-- A valid revocation of the key of an event. -/
structure RevokesKeyOf (H : Host) (envelope : EventCommitmentV1) (revocation : RevocationV1) :
    Prop where
  valid : (H.validateSchema .revocation (.obj revocation.toFields)).valid = true
  owner : revocation.trust_id = envelope.sender
  key : revocation.revoked_key = envelope.signing_key_id

/-- What the verifier looks at for a revocation of the key, but for undated revocations. -/
structure Unrevoked (H : Host) (resolver : TrustResolver) (policy : VerifierPolicy Option)
    (backend : Option SettlementBackend) (revocations : List RevocationV1)
    (envelope : EventCommitmentV1) : Prop where
  listed : ∃ identity key, resolver envelope.sender envelope.timestamp = .ok (some identity) ∧
    findVerificationMethod identity envelope.signing_key_id = some key ∧
    notRevokedAt H key envelope.timestamp = true
  chain : isOn policy.require_chain_revocation = true → ∀ isKeyRevokedAt,
    backend.bind SettlementBackend.isKeyRevokedAt = some isKeyRevokedAt →
    isKeyRevokedAt envelope.sender envelope.signing_key_id (H.parse envelope.timestamp) ≠ .ok true
  dated : ∀ revocation ∈ revocations, RevokesKeyOf H envelope revocation →
    ∀ t, H.parse revocation.effective_at = some t →
    ∀ at_, H.parse envelope.timestamp = some at_ → at_ < t

variable {C : Context} {r r' : Report}

theorem keyBlock_unrevoked {event_hash : Hex32} (h : keyBlock C identity event_hash r = .ok r') :
    r'.checks .not_revoked = some true ↔ ∃ key,
      findVerificationMethod identity C.envelope.signing_key_id = some key ∧
      notRevokedAt C.host key C.envelope.timestamp = true := by
  obtain ⟨signed, -, h⟩ := bind_eq_ok.mp h
  cases h
  rw [Report.check_other _ _ (by decide), Report.check_same, Option.some.injEq, Option.any_eq_true]

theorem chainRevocationBlock_unrevoked (h : chainRevocationBlock C r = .ok r') :
    r'.checks .not_revoked = some true ↔ r.checks .not_revoked = some true ∧
      (isOn C.policy.require_chain_revocation = true → ∀ isKeyRevokedAt,
        C.backend.bind SettlementBackend.isKeyRevokedAt = some isKeyRevokedAt →
        isKeyRevokedAt C.envelope.sender C.envelope.signing_key_id
          (C.host.parse C.envelope.timestamp) ≠ .ok true) := by
  unfold chainRevocationBlock at h
  split at h
  · next hrequired =>
    split at h
    · next lookup hlookup =>
      obtain ⟨revoked, hrevoked, h⟩ := bind_eq_ok.mp h
      cases h
      simp only [hrequired, true_implies, hlookup, Option.some.injEq, forall_eq', hrevoked]
      cases revoked with
      | false => simp [Report.check]
      | true => simp [Report.check]
    · next hnone =>
      cases h
      simp [hnone, Report.check]
  · next hfree =>
    cases h
    simp [hfree]

theorem checkRevocation_revokes (h : checkRevocation C revocation = .ok result) :
    result.revokesKey = true ↔ RevokesKeyOf C.host C.envelope revocation ∧
      timeLe (C.host.parse revocation.effective_at) (C.host.parse C.envelope.timestamp) = true := by
  dsimp only [checkRevocation] at h
  split at h
  · next hv =>
    cases h
    constructor
    · intro hfalse
      cases hfalse
    · rintro ⟨hrevokes, -⟩
      have hvalid : (C.validate .revocation (.obj revocation.toFields)).valid = true :=
        hrevokes.valid
      rw [hvalid] at hv
      cases hv
  · next hv =>
    have hvalid : (C.validate .revocation (.obj revocation.toFields)).valid = true := by
      simpa using hv
    obtain ⟨identity, -, h⟩ := bind_eq_ok.mp h
    obtain ⟨signed, -, h⟩ := bind_eq_ok.mp h
    cases h
    simp only [revokesEnvelopeKey, Bool.and_eq_true, beq_iff_eq]
    constructor
    · rintro ⟨⟨howner, hkey⟩, htime⟩
      exact ⟨⟨hvalid, howner, hkey⟩, htime⟩
    · rintro ⟨hrevokes, htime⟩
      exact ⟨⟨hrevokes.owner, hrevokes.key⟩, htime⟩

/-- A date that cannot be read is never before the event. -/
theorem timeLe_iff : timeLe a b = false ↔ ∀ t, a = some t → ∀ u, b = some u → u < t := by
  cases a <;> cases b <;> simp [timeLe]

theorem revocationsBlock_unrevoked (h : revocationsBlock C r = .ok r') :
    r'.checks .not_revoked = some true ↔ r.checks .not_revoked = some true ∧
      ∀ revocation ∈ C.input.revocations.getD [], RevokesKeyOf C.host C.envelope revocation →
        timeLe (C.host.parse revocation.effective_at) (C.host.parse C.envelope.timestamp) =
          false := by
  unfold revocationsBlock at h
  split at h
  · next revocation rest hlist =>
    obtain ⟨results, hm, h⟩ := bind_eq_ok.mp h
    cases h
    have hany : results.any RevocationResult.revokesKey = false ↔
        ∀ revocation ∈ C.input.revocations.getD [], RevokesKeyOf C.host C.envelope revocation →
          timeLe (C.host.parse revocation.effective_at) (C.host.parse C.envelope.timestamp) =
            false := by
      rw [List.any_eq_false, hlist]
      constructor
      · intro hnone revocation hd hrevokes
        obtain ⟨result, hresult, hc⟩ := mapM_mem hm hd
        rw [← Bool.not_eq_true]
        intro htime
        exact hnone result hresult ((checkRevocation_revokes hc).mpr ⟨hrevokes, htime⟩)
      · intro hnone result hresult hrevokes
        have hfrom := mapM_forall (Q := fun result => ∃ revocation ∈ C.input.revocations.getD [],
          checkRevocation C revocation = .ok result)
          (fun a ha _ hc => ⟨a, by rw [hlist]; exact ha, hc⟩) hm
        obtain ⟨revocation, hd, hc⟩ := hfrom result hresult
        rw [hlist] at hd
        obtain ⟨hr, htime⟩ := (checkRevocation_revokes hc).mp hrevokes
        rw [hnone revocation hd hr] at htime
        cases htime
    rw [← hany, Report.explainIf_checks]
    cases results.any RevocationResult.revokesKey with
    | true => simp
    | false => simp [Report.record, Report.check]
  · next hempty =>
    cases h
    have hnil : C.input.revocations.getD [] = [] := by
      cases hlist : C.input.revocations with
      | none => rfl
      | some revocations =>
        cases revocations with
        | nil => rfl
        | cons revocation rest => exact absurd hlist (hempty revocation rest)
    simp [hnil]

theorem verifierBlocks_unrevoked (h : pipeline (verifierBlocks C) r = .ok r') :
    r'.checks .not_revoked = some true ↔ (r.checks .not_revoked = some true ∧
      (isOn C.policy.require_chain_revocation = true → ∀ isKeyRevokedAt,
        C.backend.bind SettlementBackend.isKeyRevokedAt = some isKeyRevokedAt →
        isKeyRevokedAt C.envelope.sender C.envelope.signing_key_id
          (C.host.parse C.envelope.timestamp) ≠ .ok true)) ∧
      ∀ revocation ∈ C.input.revocations.getD [], RevokesKeyOf C.host C.envelope revocation →
        timeLe (C.host.parse revocation.effective_at) (C.host.parse C.envelope.timestamp) =
          false := by
  obtain ⟨r₁, hchain, hrest⟩ := pipeline_cons h
  obtain ⟨r₂, hexplain, hrest⟩ := pipeline_cons hrest
  obtain ⟨r₃, hrevocations, hrest⟩ := pipeline_cons hrest
  have hlater : r'.checks .not_revoked = r₃.checks .not_revoked :=
    (pipeline_frame ((ownedBlocks C).drop 3) r₃ r' hrest).get _
      (by simp [ownedBy, ownedBlocks, scoringChecks, graphChecks])
  have hexplained : r₂.checks .not_revoked = r₁.checks .not_revoked :=
    (explainKeyBlock_owns r₁ r₂ hexplain).get _ (by simp)
  rw [hlater, revocationsBlock_unrevoked hrevocations, hexplained,
    chainRevocationBlock_unrevoked hchain]

theorem verifyEnvelope_unrevoked {start : Report}
    (h : verifyEnvelope H tools resolver policy backend expanded envelope start = .ok result)
    (hs : start.checks .not_revoked ≠ some true) :
    result.checks .not_revoked = some true ↔
      Unrevoked H resolver policy backend (expanded.revocations.getD []) envelope := by
  simp only [verifyEnvelope] at h
  obtain ⟨event_hash, -, h⟩ := bind_eq_ok.mp h
  obtain ⟨found, hi, h⟩ := bind_eq_ok.mp h
  cases found with
  | none =>
    cases h
    constructor
    · intro hr
      exact absurd hr hs
    · rintro ⟨⟨identity, key, hfound, -⟩, -, -⟩
      rw [hi] at hfound
      cases hfound
  | some identity =>
    obtain ⟨commitment, -, h⟩ := bind_eq_ok.mp h
    obtain ⟨legacy, -, h⟩ := bind_eq_ok.mp h
    obtain ⟨keyed, hk, h⟩ := bind_eq_ok.mp h
    obtain ⟨final, hf, h⟩ := bind_eq_ok.mp h
    cases h
    have hblocks := verifierBlocks_unrevoked hf
    rw [keyBlock_unrevoked hk] at hblocks
    refine hblocks.trans ?_
    constructor
    · rintro ⟨⟨⟨key, hfound, hlive⟩, hchain⟩, hdated⟩
      exact ⟨⟨identity, key, hi, hfound, hlive⟩, hchain,
        fun revocation hd hr => timeLe_iff.mp (hdated revocation hd hr)⟩
    · rintro ⟨⟨identity', key, hi', hfound, hlive⟩, hchain, hdated⟩
      rw [hi, Except.ok.injEq, Option.some.injEq] at hi'
      rw [← hi'] at hfound
      exact ⟨⟨⟨key, hfound, hlive⟩, hchain⟩,
        fun revocation hd hr => timeLe_iff.mpr (hdated revocation hd hr)⟩

/-- The key counts as unrevoked by all that is not a date, and by the dates that can be read. -/
theorem verifyTSL_unrevoked {H : Host} {input : VerifyTSLInput} {resolver : TrustResolver}
    {policy : VerifierPolicy JsField} {backend : Option SettlementBackend}
    (h : verifyTSL H tools input resolver policy backend = .ok result) :
    result.checks .not_revoked = some true ↔ ∃ envelope,
      (expandProofBundleInput H input).1.envelope = some envelope ∧
      (H.validateSchema .event (.obj envelope.toFields)).valid = true ∧
      Unrevoked H resolver policy.withDefaults backend (disclosedRevocations H input) envelope := by
  have hopening (accepted : Bool) : ((openingReport H policy.withDefaults
      (expandProofBundleInput H input).1 (expandProofBundleInput H input).2).check .schema_valid
        accepted).checks .not_revoked ≠ some true := by
    rw [Report.check_other _ _ (by decide), openingReport_checks _ _ _ _ (by decide)]
    decide
  simp only [verifyTSL] at h
  split at h
  · next hv =>
    cases h
    constructor
    · intro hr
      simp only [rejected, Report.push_checks] at hr
      exact absurd hr (hopening _)
    · rintro ⟨envelope, he, hvalid, -⟩
      rw [he] at hv
      exact absurd hvalid (by simpa [optional] using hv)
  · next hv =>
    split at h
    · next envelope he =>
      have hvalid : (H.validateSchema .event (.obj envelope.toFields)).valid = true := by
        rw [he] at hv
        simpa [optional] using hv
      refine (verifyEnvelope_unrevoked h (hopening _)).trans ?_
      constructor
      · intro hu
        exact ⟨envelope, he, hvalid, hu⟩
      · rintro ⟨envelope', he', -, hu⟩
        cases he.symm.trans he'
        exact hu
    · cases h

end Revocations

/-- The consent to the audit until a leap second five days before the sample event. -/
def leapConsent : DisclosureConsentV1 :=
  { auditConsent with
    expires_at := js "2026-05-20T23:59:60Z"
    signature := bytesToHex (
      bigEndian 32 0x608e7235af4a1902f444dcb7e3d35b33d706566477051c746f9bb8a59f5a18fe ++
      bigEndian 32 0x5b9d15f9fd1f7ea8c1796abfb5cbaa33d573861e337978793e12fbcc19108901) }

/-- The policy for payments until the leap second before the payment. -/
def leapPolicy : DelegationPolicyV2 :=
  { payPolicy with
    valid_from := js "2026-05-01T00:00:00Z"
    valid_until := js "2026-05-24T23:59:60Z"
    signature := bytesToHex (
      bigEndian 32 0x59ae616fcf6b6da257718f68befcb542c6e0a60b368d6da016a011298d7f0447 ++
      bigEndian 32 0x1a3ff388c9fa3c7731418f64f4878a152eef8f0c3e0696d1de60aa410657c60f) }

def leapRoot : Hex32 := hex32 0x4acc1e3fe0bf7ba317f9c42c59144b321c59f76bcad22a73d2acce1b3ae9c50a

def leapAction : AgentActionV2 :=
  payAction none payCommitment leapRoot (bytesToHex (
    bigEndian 32 0x4b16ded06222ef87b4a987ca64d1339fbd04cc936b8ec7954557e558fc075cd8 ++
    bigEndian 32 0x0fb20a7493f107f6caed90c42717f004ed37f23111ac6c3e70b78dcd0443d90d))

/-- The agent of alice until the same leap second. -/
def leapDelegation : AgentDelegationV1 where
  type := js "tsl.agent_delegation.v1"
  controller := js "did:tsl:alice"
  controller_key_id := js "#k1"
  agent := js "did:tsl:agent"
  agent_key_id := js "#agent"
  scope := [js "invoice.pay"]
  issued_at := js "2026-05-01T00:00:00Z"
  expires_at := js "2026-05-24T23:59:60Z"
  controller_signature := bytesToHex (
    bigEndian 32 0x15ea04e4c7c7eef11d0ab067870a608fa7477f15d230acbc26395b1dd29abbf4 ++
    bigEndian 32 0xb02934be777700308056ac35512413235700aef214fc82e00a23f7f760e8ca0c)
  agent_signature := bytesToHex (
    bigEndian 32 0x923d5099a1ceef32ebcf9c0c12a1f09449183ce121e5e2e5d842a73e45d99ab3 ++
    bigEndian 32 0x1dab19e040123bb517f5c8a32efd91e0edb3d30b79b315d3b0407b69d350140c)
  others := ⟨[(js "nonce",
    .str (hex32 0x5555555555555555555555555555555555555555555555555555555555555555))],
    by decide +kernel, by decide +kernel⟩

/-- The revocation of the key of the sample event at a leap second before it. -/
def leapRevocation : RevocationV1 :=
  { sampleRevocation with
    effective_at := js "2026-05-19T23:59:60Z"
    signature := bytesToHex (
      bigEndian 32 0x7388a8268babb400a07d959bd3af3c66854891f240814749f75bea7b92200a0d ++
      bigEndian 32 0x90463de07281c8ada3152b55b69cd03c1da9c670a3f39e0076e28759451a3803) }

def leapConsentHost : Host :=
  consentHost leapConsent 0xa0e3c106de59d367e75d48f754dd88c2f1dbf996224159873a591f21da1040c2

def leapActionHost : Host :=
  let policy := 0x8d73808a58d27499e84b982d31d3d6ccaffc95758b3627d6d4a9d3a5b523d7d0
  let action := 0xe6d74c0d638d890b5f8a7c6ac79b8848009015d2bbed3fb38a72c0e5c4fbf8e0
  sampleHost (recorded
    [actionHash leapAction action, policyHash leapPolicy policy, chainRoot policy leapRoot]
    [(hexBytes leapAction.signature, bigEndian 32 action, bigEndian 32 agentKey),
      (hexBytes leapPolicy.signature, bigEndian 32 policy, bigEndian 32 aliceKey)]
    fun _ => List.replicate 32 255)

def leapDelegationHost : Host :=
  let delegation := bigEndian 32
    0xf45737e8054c4c8ea9a0d2ac3462d22a6a58b1eb79c41474e2f9b5e8422feab6
  sampleHost (recorded
    [(domainMessage DOMAIN_TAGS.AGENT_DELEGATION_V1 (valueBytes (.obj (deleteField (deleteField
      leapDelegation.toFields (js "controller_signature")) (js "agent_signature")))), delegation)]
    [(hexBytes leapDelegation.controller_signature, delegation, bigEndian 32 aliceKey),
      (hexBytes leapDelegation.agent_signature, delegation, bigEndian 32 agentKey)]
    fun _ => List.replicate 32 255)

def leapRevocationHost : Host :=
  let revocation := bigEndian 32
    0x3cccc2a4046fcc0c92f6cdc720ee1c3cbf08e8aaa544fe32a343bc89d445a8dd
  sampleHost (recorded
    ((domainMessage DOMAIN_TAGS.REVOCATION_V1 (valueBytes (.obj (withoutSignature
      leapRevocation.toFields))), revocation) :: signedDigests)
    ((hexBytes leapRevocation.signature, revocation, bigEndian 32 aliceKey) :: sampleSignatures)
    fun _ => List.replicate 32 255)

def agentIdentity : IdentityDocumentV1 :=
  sampleIdentity (js "did:tsl:agent") (sampleKey (js "#agent") agentKey)

def agentResolver : MemoryTrustResolver := sampleResolver.upsertIdentity agentIdentity

end Continuity

import Continuity.UnreadTimes
import Continuity.VerifierSigners

namespace Continuity
open Frames
set_option autoImplicit true

/-- The time lies in the term of the delegation. -/
def InTerm (H : Host) (delegation : AgentDelegationV1) (timestamp : RFC3339) : Prop :=
  ∃ issued at_ expires, H.parse delegation.issued_at = some issued ∧
    H.parse timestamp = some at_ ∧ H.parse delegation.expires_at = some expires ∧
    issued ≤ at_ ∧ at_ < expires

/-- The delegation has been issued by the time, and the end of its term can be read. -/
structure TermStarted (H : Host) (delegation : AgentDelegationV1) (timestamp : RFC3339) :
    Prop where
  issued : ∃ issued at_, H.parse delegation.issued_at = some issued ∧
    H.parse timestamp = some at_ ∧ issued ≤ at_
  expires : ∃ expires, H.parse delegation.expires_at = some expires

/-- A revoked key was revoked after the time. -/
def UnrevokedAt (H : Host) (key : VerificationMethodV1) (timestamp : RFC3339) : Prop :=
  key.status = .revoked → ∃ at_ revoked, H.parse timestamp = some at_ ∧
    H.parse (key.revoked_at.getD []) = some revoked ∧ at_ < revoked

/-- The named key of an identity is an ed25519 key in force at the time, and signed the hash. -/
def SignsInForce (H : Host) (identity : Option IdentityDocumentV1) (keyId : JsString)
    (timestamp : RFC3339) (hash : Hex32) (signature : HexSig) : Prop :=
  ∃ key, namedKey identity keyId = some key ∧ key.type = .ed25519 ∧
    keyActiveAt H key timestamp = true ∧ UnrevokedAt H key timestamp ∧
    verifyEd25519 H.noble key.public_key hash signature = .ok true

/-- An agent delegation that counts at a time. -/
structure DelegationCounts (H : Host) (resolver : TrustResolver) (delegation : AgentDelegationV1)
    (requiredScope : Option JsString) (timestamp : RFC3339) : Prop where
  term : InTerm H delegation timestamp
  scope : truthy requiredScope = true → delegation.scope.contains (requiredScope.getD []) = true
  signed : ∃ controller agent hash,
    resolver delegation.controller delegation.issued_at = .ok controller ∧
    resolver delegation.agent delegation.issued_at = .ok agent ∧
    agentDelegationHash H.noble delegation = .ok hash ∧
    SignsInForce H controller delegation.controller_key_id delegation.issued_at hash
      delegation.controller_signature ∧
    SignsInForce H agent delegation.agent_key_id delegation.issued_at hash
      delegation.agent_signature

section Terms

variable {H : Host} {resolver : TrustResolver} {delegation : AgentDelegationV1}

theorem unrevokedAt_of_active (h : keyActiveAt H key timestamp = true) :
    UnrevokedAt H key timestamp := by
  intro hs
  unfold keyActiveAt at h
  split at h
  · next at_ created hat _ =>
    rw [hs] at h
    simp only [Bool.and_eq_true, laterThan] at h
    obtain ⟨⟨-, -, hlater⟩, -⟩ := h
    split at hlater
    · next revoked hr => exact ⟨at_, revoked, hat, hr, of_decide_eq_true hlater⟩
    · cases hlater
  · cases h

theorem DelegationStands.signs (h : DelegationStands H resolver delegation requiredScope) :
    ∃ controller agent hash,
      resolver delegation.controller delegation.issued_at = .ok controller ∧
      resolver delegation.agent delegation.issued_at = .ok agent ∧
      agentDelegationHash H.noble delegation = .ok hash ∧
      SignsInForce H controller delegation.controller_key_id delegation.issued_at hash
        delegation.controller_signature ∧
      SignsInForce H agent delegation.agent_key_id delegation.issued_at hash
        delegation.agent_signature := by
  obtain ⟨controller, agent, controllerKey, agentKey, hash, hc, ha, hhash, hck, hak,
    ⟨hctype, hcactive, hcv⟩, hatype, haactive, hav⟩ := h.signed
  exact ⟨controller, agent, hash, hc, ha, hhash,
    ⟨controllerKey, hck, hctype, hcactive, unrevokedAt_of_active hcactive, hcv⟩,
    ⟨agentKey, hak, hatype, haactive, unrevokedAt_of_active haactive, hav⟩⟩

/-- Before the end of a delegation, its term lacks only the start. -/
theorem inTerm_iff
    (h : timeLe (H.parse delegation.expires_at) (H.parse timestamp) = false) :
    InTerm H delegation timestamp ↔ TermStarted H delegation timestamp := by
  constructor
  · rintro ⟨issued, at_, expires, hi, ht, he, hle, -⟩
    exact ⟨⟨issued, at_, hi, ht, hle⟩, expires, he⟩
  · rintro ⟨⟨issued, at_, hi, ht, hle⟩, expires, he⟩
    exact ⟨issued, at_, expires, hi, ht, he, hle, timeLe_iff.mp h expires he at_ ht⟩

/-- A delegation that is not refused counts exactly from its issue on. -/
theorem delegationCounts_iff
    (h : verifyAgentDelegation H resolver delegation requiredScope atTime = .ok true) :
    DelegationCounts H resolver delegation requiredScope atTime ↔
      TermStarted H delegation atTime := by
  obtain ⟨hstands, hunexpired⟩ := verifyAgentDelegation_true.mp h
  rw [← inTerm_iff hunexpired]
  constructor
  · exact DelegationCounts.term
  · intro hterm
    exact ⟨hterm, hstands.scope, hstands.signs⟩

end Terms

section Blocks

variable {C : Context} {r r' : Report}

theorem checkDelegation_verified (h : checkDelegation C delegation = .ok item)
    (hq : item.errors = []) :
    (C.validate .agentDelegation (.obj delegation.toFields)).valid = true ∧
      delegation.agent = C.envelope.sender ∧
      verifyAgentDelegation C.host C.resolver delegation C.policy.require_agent_scope
        C.envelope.timestamp = .ok true := by
  obtain ⟨valid, hv, h⟩ := bind_eq_ok.mp h
  cases h
  cases valid with
  | false => simp at hq
  | true =>
    obtain ⟨hcond, hverified⟩ := guarded_true.mp hv
    simp only [Bool.and_eq_true, decide_eq_true_eq] at hcond
    exact ⟨hcond.1, hcond.2, hverified⟩

theorem delegationsBlock_verified (h : delegationsBlock C r = .ok r') (hq : r'.errors = []) :
    ∀ delegation ∈ C.input.delegations.getD [], ∃ item,
      checkDelegation C delegation = .ok item ∧ item.errors = [] := by
  intro delegation hd
  have hlisted : nonEmptyList C.input.delegations = true := by
    cases hl : C.input.delegations with
    | none =>
      rw [hl] at hd
      cases hd
    | some delegations =>
      rw [hl] at hd
      cases delegations with
      | nil => cases hd
      | cons first rest => rfl
  rw [delegationsBlock, hlisted, Bool.true_or, if_pos rfl] at h
  obtain ⟨results, hm, h⟩ := bind_eq_ok.mp h
  cases h
  obtain ⟨item, hitem, hc⟩ := mapM_mem hm hd
  rw [Report.explainIf_errors] at hq
  exact ⟨item, hc, Report.record_quiet hq item (List.mem_append_left _ hitem)⟩

end Blocks

/-- Every delegation that a verified event discloses names its sender as the agent, and passes the
check at the time of the event. -/
theorem verifyTSL_delegations (h : verifyTSL H tools input resolver policy backend = .ok result)
    (hv : result.verified = true) :
    ∃ envelope, (expandProofBundleInput H input).1.envelope = some envelope ∧
      ∀ delegation ∈ (expandProofBundleInput H input).1.delegations.getD [],
        delegation.agent = envelope.sender ∧
        verifyAgentDelegation H resolver delegation policy.require_agent_scope
          envelope.timestamp = .ok true := by
  obtain ⟨V, -, -⟩ := verifyTSL_final h hv
  refine ⟨V.envelope, V.envelope_eq, ?_⟩
  intro delegation hd
  obtain ⟨r, r', hb, hq⟩ := V.quiet_block 14 (by decide)
  obtain ⟨item, hc, hitem⟩ := delegationsBlock_verified hb hq delegation hd
  exact (checkDelegation_verified hc hitem).2

/-- A delegation that counts as verified counts from its issue on, and before it too: an accepted
event lies in the terms of its delegations exactly when it is not dated before their issue. -/
theorem verifyAgentDelegation_term (H : Host) (resolver : TrustResolver) :
    (∀ delegation requiredScope atTime,
      verifyAgentDelegation H resolver delegation requiredScope atTime = .ok true →
      (DelegationCounts H resolver delegation requiredScope atTime ↔
        TermStarted H delegation atTime)) ∧
    ∀ tools input policy backend result,
      verifyTSL H tools input resolver policy backend = .ok result → result.verified = true →
      ∃ envelope, (expandProofBundleInput H input).1.envelope = some envelope ∧
        ∀ delegation ∈ (expandProofBundleInput H input).1.delegations.getD [],
          delegation.agent = envelope.sender ∧
          DelegationStands H resolver delegation policy.require_agent_scope ∧
          (DelegationCounts H resolver delegation policy.require_agent_scope envelope.timestamp ↔
            TermStarted H delegation envelope.timestamp) := by
  constructor
  · intro delegation requiredScope atTime h
    exact delegationCounts_iff h
  · intro tools input policy backend result h hv
    obtain ⟨envelope, he, hall⟩ := verifyTSL_delegations h hv
    refine ⟨envelope, he, ?_⟩
    intro delegation hd
    obtain ⟨hagent, hverified⟩ := hall delegation hd
    exact ⟨hagent, (verifyAgentDelegation_true.mp hverified).1, delegationCounts_iff hverified⟩

/-- Alice is the agent for the month of June. -/
def juneDelegation : AgentDelegationV1 where
  type := js "tsl.agent_delegation.v1"
  controller := js "did:tsl:agent"
  controller_key_id := js "#agent"
  agent := js "did:tsl:alice"
  agent_key_id := js "#k1"
  scope := [js "invoice.pay"]
  issued_at := js "2026-06-01T00:00:00Z"
  expires_at := js "2026-07-01T00:00:00Z"
  controller_signature := bytesToHex (
    bigEndian 32 0x02c64a4339b6c35b91fe13f12b5076fabedd9c477855edb4202893a3ed82e137 ++
    bigEndian 32 0x65ef6ebeb7b883155b71c66b126f0c7fbb86eb10d54a8b37072e268825020a03)
  agent_signature := bytesToHex (
    bigEndian 32 0xb94b81cae1ae38d64496cd960fa15442e766b1769cb8d901c9a00a515c90b833 ++
    bigEndian 32 0xb32f44f4a4c87ad9be8878c0f9adfbdeb998433f71552821d953aae5717c0107)
  others := leapDelegation.others

def juneHost : Host :=
  let delegation := bigEndian 32
    0x2f55d052c87d323febb592cc79a89e9ff2359f5188b8d23d4b058c2d7c511c71
  sampleHost (recorded
    ((domainMessage DOMAIN_TAGS.AGENT_DELEGATION_V1 (valueBytes (.obj (deleteField (deleteField
      juneDelegation.toFields (js "controller_signature")) (js "agent_signature")))),
        delegation) :: signedDigests)
    ([(hexBytes juneDelegation.controller_signature, delegation, bigEndian 32 agentKey),
      (hexBytes juneDelegation.agent_signature, delegation, bigEndian 32 aliceKey)] ++
        sampleSignatures)
    fun _ => List.replicate 32 255)

/-- The sample event of May with the delegation. -/
def juneInput : VerifyTSLInput :=
  { eventInput sampleEnvelope with delegations := .value [juneDelegation] }

/-- The delegation counts a week before its term and in it. -/
theorem juneDelegation_runs :
    verifyAgentDelegation juneHost agentResolver.resolveTrustID juneDelegation
        (some (js "invoice.pay")) (js "2026-05-25T00:00:00Z") = .ok true ∧
      verifyAgentDelegation juneHost agentResolver.resolveTrustID juneDelegation
        (some (js "invoice.pay")) (js "2026-06-15T00:00:00Z") = .ok true ∧
      timeLt (juneHost.parse sampleEnvelope.timestamp) (juneHost.parse juneDelegation.issued_at) =
        true ∧
      VerificationResult.verified <$> verifyTSL juneHost sampleTools juneInput
        agentResolver.resolveTrustID emptyPolicy none = .ok true := by
  decide +kernel

/-- The delegation is issued a week after the event, and the event is accepted under it. -/
theorem juneDelegation_early :
    (verifyAgentDelegation juneHost agentResolver.resolveTrustID juneDelegation
        (some (js "invoice.pay")) (js "2026-05-25T00:00:00Z") = .ok true ∧
      ¬InTerm juneHost juneDelegation (js "2026-05-25T00:00:00Z")) ∧
    (expandProofBundleInput juneHost juneInput).1.delegations = some [juneDelegation] ∧
    timeLt (juneHost.parse sampleEnvelope.timestamp) (juneHost.parse juneDelegation.issued_at) =
      true ∧
    VerificationResult.verified <$> verifyTSL juneHost sampleTools juneInput
      agentResolver.resolveTrustID emptyPolicy none = .ok true := by
  obtain ⟨hearly, -, hlt, hrun⟩ := juneDelegation_runs
  refine ⟨⟨hearly, ?_⟩, rfl, hlt, hrun⟩
  rintro ⟨issued, at_, expires, hi, ht, -, hle, -⟩
  change timeLt (juneHost.parse (js "2026-05-25T00:00:00Z")) _ = true at hlt
  rw [hi, ht] at hlt
  exact absurd hle (not_le.mpr (of_decide_eq_true hlt))

/-- In June the same delegation counts, for its own scope. -/
theorem verifyAgentDelegation_term_june :
    DelegationCounts juneHost agentResolver.resolveTrustID juneDelegation
      (some (js "invoice.pay")) (js "2026-06-15T00:00:00Z") := by
  have hv : verifyAgentDelegation juneHost agentResolver.resolveTrustID juneDelegation
      (some (js "invoice.pay")) (js "2026-06-15T00:00:00Z") = .ok true :=
    juneDelegation_runs.2.1
  refine ((verifyAgentDelegation_term _ _).1 _ _ _ hv).mpr ⟨?_, ?_⟩
  · exact ⟨1780272000000, 1781481600000, by decide, by decide, by decide⟩
  · exact ⟨1782864000000, by decide⟩

end Continuity

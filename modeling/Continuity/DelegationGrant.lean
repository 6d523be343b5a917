import Continuity.DelegationChain
import Continuity.VerifierSound

namespace Continuity
open Collections
set_option autoImplicit true

namespace DelegationInput

/-- A part of the chain that starts with a policy of the principal and ends with one for the
agent. -/
structure Reaches (I : DelegationInput) (path : List DelegationPolicyV2) : Prop where
  part : path <:+: I.delegation_chain
  first : path.head?.map DelegationPolicyV2.principal = some I.action.principal
  last : path.getLast?.map DelegationPolicyV2.delegate = some I.action.agent

/-- A part of the chain that hands the authority of the principal on to the agent. -/
structure Grant (I : DelegationInput) (path : List DelegationPolicyV2) : Prop
    extends Reaches I path where
  allowed : ∀ policy ∈ path, policy.effect = .allow
  linked : path.IsChain fun policy next => policy.delegate = next.principal

/-- The link from the principal is no denial. -/
def OpensWithGrant (I : DelegationInput) : Prop :=
  ∀ first, I.delegation_chain.head? = some first → first.effect ≠ .deny

variable {H : Host} {I : DelegationInput}

theorem Verified.links_allowed (h : Verified H I at_)
    (hchain : I.delegation_chain = before ++ path ++ after)
    (ha : ∀ policy ∈ path, policy.effect = .allow) :
    path.IsChain fun policy next => policy.delegate = next.principal := by
  induction path generalizing before with
  | nil => exact .nil
  | cons policy path ih =>
    have hsplit : I.delegation_chain = (before ++ [policy]) ++ path ++ after := by
      rw [hchain]
      simp
    have hrest := ih hsplit fun p hp => ha p (List.mem_cons_of_mem policy hp)
    cases path with
    | nil => exact .singleton policy
    | cons next path =>
      refine .cons_cons ?_ hrest
      have hp := h.links before policy (next :: path ++ after) (by rw [hchain]; simp)
      rw [hp.link.delegate]
      exact advance_allow (ha next (by simp))

theorem not_deny_iff {policy : DelegationPolicyV2} :
    policy.effect ≠ .deny ↔ policy.effect = .allow := by
  cases policy.effect <;> simp

/-- For an action that the verifier authorises, the chain holds a grant and does not open with a
denial exactly when it does not open with a denial and some part of it without a denial leads from
the principal to the agent. -/
theorem verifyDelegatedAgentActionV0_grant
    (h : ∃ outcome, verifyDelegatedAgentActionV0 H I = .ok outcome ∧ outcome.ok = true) :
    (I.OpensWithGrant ∧ ∃ path, Grant I path) ↔
      I.OpensWithGrant ∧ ∃ path, Reaches I path ∧ ∀ policy ∈ path, policy.effect ≠ .deny := by
  obtain ⟨at_, hv⟩ := verified_iff.mp h
  apply and_congr_right
  intro _
  constructor
  · rintro ⟨path, hg⟩
    exact ⟨path, hg.toReaches, fun policy hp => not_deny_iff.mpr (hg.allowed policy hp)⟩
  · rintro ⟨path, hr, hd⟩
    have ha : ∀ policy ∈ path, policy.effect = .allow := fun policy hp =>
      not_deny_iff.mp (hd policy hp)
    obtain ⟨before, after, hchain⟩ := hr.part
    exact ⟨path, hr, ha, hv.links_allowed hchain.symm ha⟩

end DelegationInput

/-- A policy of alice for her agent. -/
def invoicePolicy (policy_id : Hex32) (effect : DelegationEffect) (action : JsString)
    (signature : HexSig) : DelegationPolicyV2 where
  policy_id
  principal := js "did:tsl:alice"
  delegate := js "did:tsl:agent"
  effect
  actions := [action]
  resources := [js "invoice/*"]
  constraints := ⟨some (.ofNat 1000), none, none, none, none, none, none, none, none, .none _⟩
  subdelegation := none
  parent_policy_id := none
  valid_from := js "2026-05-25T00:00:00Z"
  valid_until := js "2026-05-26T00:00:00Z"
  revocation_pointer := js "rev:" ++ effect.text
  signature
  others := ⟨[(js "type", .str (js "tsl.delegation_policy.v2"))], by simp, by decide +kernel⟩

/-- The agent may pay invoices. -/
def payPolicy : DelegationPolicyV2 :=
  invoicePolicy (hex32 0x4444444444444444444444444444444444444444444444444444444444444444) .allow
    (js "invoice.pay") (bytesToHex (
      bigEndian 32 0x00657a66e1966da3ad6523e874118162caee47ae5a3881efe802b89cd90a7901 ++
      bigEndian 32 0x6ae017e556bb8f398cb2b8d83dc1c270797e01cd2305e5804526d579ce01980d))

/-- The agent may not delete invoices. -/
def deletePolicy : DelegationPolicyV2 :=
  invoicePolicy (hex32 0x6666666666666666666666666666666666666666666666666666666666666666) .deny
    (js "invoice.delete") (bytesToHex (
      bigEndian 32 0x9f1cc591e137b1dcd1d8cde2e2bdba7d0afd61c4eed8682fef1daee38fe28504 ++
      bigEndian 32 0xc3e315cfeacd1d409f3d9053fddc5afe5c74db7c06af82c653f3bd99fc7c0a09))

def sampleParameters (value : Nat) : JsObject := [(js "value_minor_units", .num (.ofNat value))]

/-- The agent pays an invoice. -/
def payAction (value_minor_units : Option JsNumber)
    (parameters_commitment delegation_chain_root : Hex32) (signature : HexSig) :
    AgentActionV2 where
  agent := js "did:tsl:agent"
  principal := js "did:tsl:alice"
  action := js "invoice.pay"
  resource := js "invoice/123"
  tool := none
  parameters_commitment
  delegation_chain_root
  value_minor_units
  human_approval_proof := none
  issued_at := js "2026-05-25T00:00:00Z"
  signature
  others := ⟨[(js "type", .str (js "tsl.agent_action.v2")),
    (js "action_id",
      .str (hex32 0x7777777777777777777777777777777777777777777777777777777777777777)),
    (js "nonce", .str (hex32 0x5555555555555555555555555555555555555555555555555555555555555555))],
    by decide +kernel, by decide +kernel⟩

def payCommitment : Hex32 :=
  hex32 0xc33ddc16b0731afdb9b05a032ab9a129b1bde67e168bf5bb227eb9178b126316

def payRoot : Hex32 := hex32 0x674c989a14f8556b0cf5402abe4b57ad9f53cd36356330882c6b3549b3312ee3

def deleteRoot : Hex32 := hex32 0x00adbfdc3e04e2fc2172680c55f0e5a517b85f5b1b769e7e43b1874473e6d79d

/-- A payment of 900 that is stated in the parameters only. -/
def grantedAction : AgentActionV2 :=
  payAction none payCommitment payRoot (bytesToHex (
    bigEndian 32 0x385df00e85e91b98cfb610d38eaebd01c2726594203322a53c42f520a8f84dc5 ++
    bigEndian 32 0x0c8088a1ab8caffc7ee3ac7aa7f2c2ef3cb14162a437d20bc30e456bfa904605))

/-- The same payment under the chain that only denies. -/
def deniedAction : AgentActionV2 :=
  payAction none payCommitment deleteRoot (bytesToHex (
    bigEndian 32 0x37eab397ef54f8d1e7e6c5baf6676bccc83546e5cdd179ddc34faa19c288325c ++
    bigEndian 32 0xf7ff278a76e511efce27793fbb217f892f1397dea49d97047173c45b369c530a))

def agentKey : Nat := 0xed4928c628d1c2c6eae90338905995612959273a5c63f93636c14614ac8737d1

def aliceKey : Nat := 0x8a88e3dd7409f195fd52db2d3cba5d72ca6709bf1d94121bf3748801b40f6f5c

def policyHash (policy : DelegationPolicyV2) (hash : Nat) : Bytes × Bytes :=
  (domainMessage V2_DOMAIN_TAGS.DELEGATION_POLICY_V2 (valueBytes (.obj (withoutSignature
    policy.toFields))), bigEndian 32 hash)

def actionHash (action : AgentActionV2) (hash : Nat) : Bytes × Bytes :=
  (domainMessage V2_DOMAIN_TAGS.AGENT_ACTION_V2 (valueBytes (.obj (withoutSignature
    action.toFields))), bigEndian 32 hash)

def chainRoot (hash : Nat) (root : Hex32) : Bytes × Bytes :=
  (valueBytes (textList [hex32 hash]), hexBytes root)

def sampleDelegation (action : AgentActionV2) (policy : DelegationPolicyV2)
    (parameters : Option JsObject) : DelegationInput where
  action
  delegation_chain := [policy]
  public_keys := (OrderedMap.empty.set (js "did:tsl:alice") (hex32 aliceKey)).set
    (js "did:tsl:agent") (hex32 agentKey)
  revoked_policy_ids := none
  revoked_pointers := none
  parameters

/-- The scope that a chain of one policy leaves. -/
def scopeHash (policy : DelegationPolicyV2) (hash : Nat) : Bytes × Bytes :=
  (valueBytes ((sampleDelegation grantedAction policy none).stateBelow [policy]).scope,
    bigEndian 32 hash)

/-- The recorded digests and signatures of the two payments, and more. -/
def delegationNoble (digests : List (Bytes × Bytes)) (signatures : List (Bytes × Bytes × Bytes)) :
    Noble :=
  let pay := 0xb65d170b2e34a3e280a7e15835eaf14a205f63c81e947b447c386fa7471501e8
  let delete := 0x91b5ec04c19c100743b23a8229e78fbcd2cd9bc99620d30c0d30206683efdc34
  let granted := 0xdd9dd6a047ac3d8fae691cce8ad9b184a9a7cc568f1e5e40114b29cd5aeaea95
  let denied := 0xd041ac3c8e401ff4620cc2e0f331cc82dddf9d17fa89b162225d843ae904e286
  recorded ([policyHash payPolicy pay, policyHash deletePolicy delete, chainRoot pay payRoot,
    chainRoot delete deleteRoot, actionHash grantedAction granted,
    actionHash deniedAction denied,
    (domainMessage (js "tsl.agent.parameters.v1") (valueBytes (.obj (sampleParameters 900))),
      hexBytes payCommitment),
    scopeHash payPolicy 0x5652395ac8589c23377a15fffef3e80f62595cf128a92442f8404d637ead1adb,
    scopeHash deletePolicy 0xb947f1c03a9f68560a12f15cad4f117fdbd161f90f1b376539014533e4a78348] ++
    digests)
    ([(hexBytes payPolicy.signature, bigEndian 32 pay, bigEndian 32 aliceKey),
    (hexBytes deletePolicy.signature, bigEndian 32 delete, bigEndian 32 aliceKey),
    (hexBytes grantedAction.signature, bigEndian 32 granted, bigEndian 32 agentKey),
    (hexBytes deniedAction.signature, bigEndian 32 denied, bigEndian 32 agentKey)] ++ signatures)
    longDigest

namespace DelegationInput

/-- The payment is authorised by the denial of another action. -/
theorem verifyDelegatedAgentActionV0_denied :
    let I := sampleDelegation deniedAction deletePolicy none
    (fun outcome => outcome.ok) <$>
        verifyDelegatedAgentActionV0 (sampleHost (delegationNoble [] [])) I = .ok true ∧
      ¬I.OpensWithGrant ∧ ¬∃ path, Grant I path := by
  refine ⟨by decide +kernel, ?_, ?_⟩
  · intro h
    exact h deletePolicy rfl rfl
  · rintro ⟨path, hg⟩
    obtain ⟨first, hm⟩ : ∃ first, first ∈ path := by
      cases path with
      | nil => cases hg.first
      | cons first rest => exact ⟨first, List.mem_cons_self⟩
    have hd : first = deletePolicy := List.mem_singleton.mp (hg.part.subset hm)
    have ha := hg.allowed first hm
    rw [hd] at ha
    cases ha

theorem verifyDelegatedAgentActionV0_grant_sample :
    let I := sampleDelegation grantedAction payPolicy none
    (fun outcome => outcome.ok) <$>
        verifyDelegatedAgentActionV0 (sampleHost (delegationNoble [] [])) I = .ok true ∧
      I.OpensWithGrant ∧ ∃ path, Grant I path := by
  have hok : (fun outcome => outcome.ok) <$> verifyDelegatedAgentActionV0
      (sampleHost (delegationNoble [] [])) (sampleDelegation grantedAction payPolicy none) =
      .ok true := by
    decide +kernel
  have hauthorised := map_eq_ok.mp hok
  refine ⟨hok, (verifyDelegatedAgentActionV0_grant hauthorised).mpr ⟨?_, [payPolicy], ?_, ?_⟩⟩
  · rintro first h
    cases h
    nofun
  · exact ⟨List.infix_refl _, rfl, rfl⟩
  · intro policy hm
    rw [List.mem_singleton.mp hm]
    nofun

end DelegationInput

end Continuity

import Continuity.Identity
import Continuity.Signing

namespace Continuity
open Collections
set_option autoImplicit true

namespace JsNumber

/-- `Math.trunc`. -/
def trunc : JsNumber → JsNumber
  | .fin q =>
    if q < 0 then (if q.ceil = 0 then .negZero else .ofInt q.ceil) else .ofInt q.floor
  | n => n

/-- `Math.max(0, n)`. -/
def atLeastZero (n : JsNumber) : JsNumber :=
  if n = .nan then .nan else if lt (.ofNat 0) n then n else .ofNat 0

/-- `Math.min`. -/
protected def min (a b : JsNumber) : JsNumber :=
  if a = .nan || b = .nan then .nan
  else if a.lt b then a
  else if b.lt a then b
  else if b = .negZero then b else a

def maxSafeInteger : JsNumber := .ofNat 9007199254740991

end JsNumber

def resourceMatches (pattern resource : JsString) : Bool :=
  pattern == resource || (pattern.getLast? == some 42 && pattern.dropLast.isPrefixOf resource)

def actionMatches (actions : List JsString) (action : JsString) : Bool :=
  actions.contains action || actions.contains (js "*")

def resourcesMatch (resources : List JsString) (resource : JsString) : Bool :=
  resources.any fun pattern => resourceMatches pattern resource

def policyMatchesAction (policy : DelegationPolicyV2) (action : AgentActionV2) : Bool :=
  actionMatches policy.actions action.action && resourcesMatch policy.resources action.resource

def parametersCommitment (N : Noble) (parameters : JsObject) : Js Hex32 := do
  let bytes ← canonicalBytes (.obj parameters)
  return hashDomain N (js "tsl.agent.parameters.v1") bytes

/-- `parameters?.[key]`. -/
def parameterField (parameters : Option JsObject) (key : JsString) : JsValue :=
  match parameters with
  | some parameters => getField parameters key
  | none => .undefined

/-- The value that the parameters state, 0 when they state none. -/
def disclosedValue (parameters : Option JsObject) : JsNumber :=
  match parameterField parameters (js "value_minor_units") with
  | .num n => n
  | _ => .ofNat 0

def valueFromAction (action : AgentActionV2) (parameters : Option JsObject) : JsNumber :=
  (action.value_minor_units.getD (disclosedValue parameters)).trunc.atLeastZero

structure DelegationInput where
  action : AgentActionV2
  delegation_chain : List DelegationPolicyV2
  public_keys : OrderedMap TrustID JsString
  revoked_policy_ids : Option (List Hex32)
  revoked_pointers : Option (List JsString)
  parameters : Option JsObject

structure DelegationOutcome where
  ok : Bool
  error_code : Option String
  effective_scope_commitment : Option Hex32

def DelegationOutcome.refused (code : String) : DelegationOutcome where
  ok := false
  error_code := some code
  effective_scope_commitment := none

/-- The variables of the loop over the chain. -/
structure ChainState where
  expectedDelegate : TrustID
  allowedActions : List (List JsString)
  allowedResources : List (List JsString)
  maxValue : JsNumber
  requiresHumanApproval : Bool
  expectedParentPolicyId : Option Hex32

def ChainState.scope (s : ChainState) : JsValue :=
  .obj [(js "actions", .arr (s.allowedActions.map textList)),
    (js "resources", .arr (s.allowedResources.map textList)),
    (js "maxValue", .num s.maxValue), (js "requiresHumanApproval", .bool s.requiresHumanApproval)]

/-- The code of the first check that finds a fault. -/
def firstFault (checks : List (Bool × String)) : Option String :=
  (checks.find? Prod.fst).map Prod.snd

/-- `key && verifyEd25519(key, hash, signature)` with the key of a trust id. -/
def keySigns (N : Noble) (keys : OrderedMap TrustID JsString) (id : TrustID) (hash : Js Hex32)
    (signature : HexSig) : Js Bool :=
  if truthy (keys.get? id) then do
    let hash ← hash
    verifyEd25519 N ((keys.get? id).getD []) hash signature
  else return false

namespace DelegationInput

variable (H : Host) (I : DelegationInput)

def value : JsNumber := valueFromAction I.action I.parameters

def signs (id : TrustID) (hash : Js Hex32) (signature : HexSig) : Js Bool :=
  keySigns H.noble I.public_keys id hash signature

/-- The parameters, when they are disclosed, are the committed ones. -/
def parametersMatch : Js Bool :=
  match I.parameters with
  | some parameters => do
    let commitment ← parametersCommitment H.noble parameters
    return commitment == I.action.parameters_commitment
  | none => return true

def expectedChainRoot : Js Hex32 := do
  let hashes ← I.delegation_chain.mapM (delegationPolicyV2Hash H.noble)
  let bytes ← canonicalBytes (textList hashes)
  return sha256Hex H.noble bytes

def start : ChainState where
  expectedDelegate := I.action.agent
  allowedActions := []
  allowedResources := []
  maxValue := .maxSafeInteger
  requiresHumanApproval := false
  expectedParentPolicyId := none

def revoked (policy : DelegationPolicyV2) : Bool :=
  (I.revoked_policy_ids.getD []).contains policy.policy_id ||
    (I.revoked_pointers.getD []).contains policy.revocation_pointer

/-- What every policy of the chain is checked for after its signature. -/
def linkChecks (at_ : Int) (s : ChainState) (policy : DelegationPolicyV2) : List (Bool × String) :=
  [(I.revoked policy, "TSL_DELEGATION_REVOKED"),
    (timeLt (some at_) (H.parse policy.valid_from) ||
      timeLe (H.parse policy.valid_until) (some at_), "TSL_DELEGATION_EXPIRED"),
    (policy.delegate != s.expectedDelegate, "TSL_DELEGATION_CHAIN_BROKEN"),
    (s.expectedParentPolicyId.any fun id => policy.policy_id != id,
      "TSL_DELEGATION_CHAIN_BROKEN"),
    (policy.effect == .deny && policyMatchesAction policy I.action,
      "TSL_DELEGATION_SCOPE_VIOLATION")]

/-- What a policy that passes authority on to another one is checked for. -/
def subdelegationChecks (depth : Nat) (policy : DelegationPolicyV2) : List (Bool × String) :=
  [((policy.subdelegation.bind Subdelegation.allowed) != some true,
      "TSL_DELEGATION_SCOPE_VIOLATION"),
    ((policy.subdelegation.bind Subdelegation.max_depth).any fun max => max.lt (.ofNat depth),
      "TSL_DELEGATION_SCOPE_VIOLATION"),
    ((policy.subdelegation.bind Subdelegation.allowed_actions).any fun actions =>
      !actionMatches actions I.action.action, "TSL_DELEGATION_SCOPE_VIOLATION")]

def toolDenied (constraints : DelegationConstraints) : Bool :=
  constraints.denied_tools.any fun tools => tools.contains (I.action.tool.getD [])

def toolNotAllowed (constraints : DelegationConstraints) : Bool :=
  constraints.allowed_tools.any fun tools =>
    !truthy I.action.tool || !tools.contains (I.action.tool.getD [])

def currencyDiffers (constraints : DelegationConstraints) : Bool :=
  truthy constraints.currency &&
    !strictEq (parameterField I.parameters (js "currency")) (.str (constraints.currency.getD []))

def counterpartyNotAllowed (constraints : DelegationConstraints) : Bool :=
  constraints.allowed_counterparty_commitments.any fun commitments =>
    match parameterField I.parameters (js "counterparty_commitment") with
    | .str commitment => !commitments.contains commitment
    | _ => false

def windowExhausted (constraints : DelegationConstraints) : Bool :=
  match constraints.max_actions_per_window, constraints.observed_actions_in_window with
  | some max, some observed => max.le observed
  | _, _ => false

def constraintChecks (policy : DelegationPolicyV2) : List (Bool × String) :=
  [I.toolNotAllowed policy.constraints, I.toolDenied policy.constraints,
    I.currencyDiffers policy.constraints, I.counterpartyNotAllowed policy.constraints,
    windowExhausted policy.constraints].map fun fault =>
      (fault, "TSL_DELEGATION_CONSTRAINT_VIOLATION")

def grantChecks (depth : Nat) (policy : DelegationPolicyV2) : List (Bool × String) :=
  (if 0 < depth then I.subdelegationChecks depth policy else []) ++ I.constraintChecks policy

/-- The fault of one policy of the chain; only a grant is held to its constraints. -/
def policyFault (at_ : Int) (depth : Nat) (s : ChainState) (policy : DelegationPolicyV2) :
    Js (Option String) := do
  let signed ← I.signs H policy.principal (delegationPolicyV2Hash H.noble policy) policy.signature
  if !signed then return some "TSL_DELEGATION_SIGNATURE_INVALID"
  else return firstFault (I.linkChecks H at_ s policy ++
    if policy.effect = .allow then I.grantChecks depth policy else [])

def demandsApproval (constraints : DelegationConstraints) : Bool :=
  constraints.requires_human_approval == some true ||
    constraints.requires_human_approval_above_minor_units.any fun limit => limit.lt I.value

/-- What a policy leaves for the ones above it. -/
def advance (s : ChainState) (policy : DelegationPolicyV2) : ChainState :=
  if policy.effect = .allow then {
    expectedDelegate := policy.principal
    allowedActions := s.allowedActions ++ [policy.actions]
    allowedResources := s.allowedResources ++ [policy.resources]
    maxValue := match policy.constraints.max_value_minor_units with
      | some max => s.maxValue.min max
      | none => s.maxValue
    requiresHumanApproval := s.requiresHumanApproval || I.demandsApproval policy.constraints
    expectedParentPolicyId := policy.parent_policy_id.join }
  else s

/-- The loop over the chain, from the delegate to the principal. -/
def walk (at_ : Int) : Nat → ChainState → List DelegationPolicyV2 → Js (Except String ChainState)
  | _, s, [] => return .ok s
  | depth, s, policy :: rest => do
    let fault ← I.policyFault H at_ depth s policy
    match fault with
    | some code => return .error code
    | none => walk at_ (depth + 1) (I.advance s policy) rest

def scopeChecks (s : ChainState) : List (Bool × String) :=
  [(s.allowedActions.any fun actions => !actionMatches actions I.action.action,
      "TSL_DELEGATION_SCOPE_VIOLATION"),
    (s.allowedResources.any fun resources => !resourcesMatch resources I.action.resource,
      "TSL_DELEGATION_SCOPE_VIOLATION"),
    (s.maxValue.lt I.value, "TSL_DELEGATION_VALUE_LIMIT_EXCEEDED"),
    (s.requiresHumanApproval && !truthy I.action.human_approval_proof,
      "TSL_HUMAN_APPROVAL_REQUIRED")]

def conclude (s : ChainState) : Js DelegationOutcome :=
  match firstFault (I.scopeChecks s) with
  | some code => return .refused code
  | none => do
    let bytes ← canonicalBytes s.scope
    return {
      ok := true
      error_code := none
      effective_scope_commitment := some (sha256Hex H.noble bytes) }

/-- The checks of the chain once action and parameters are accepted. -/
def verifyChain (at_ : Int) : Js DelegationOutcome :=
  match I.delegation_chain with
  | [] => return .refused "TSL_DELEGATION_MISSING"
  | first :: _ =>
    if first.principal != I.action.principal then return .refused "TSL_DELEGATION_CHAIN_BROKEN"
    else do
      let root ← I.expectedChainRoot H
      if I.action.delegation_chain_root != root then
        return .refused "TSL_DELEGATION_CHAIN_ROOT_MISMATCH"
      else
        let result ← I.walk H at_ 0 I.start I.delegation_chain.reverse
        match result with
        | .error code => return .refused code
        | .ok s => I.conclude H s

end DelegationInput

def verifyDelegatedAgentActionV0 (H : Host) (I : DelegationInput) : Js DelegationOutcome :=
  match H.parse I.action.issued_at with
  | none => return .refused "TSL_TIMESTAMP_INVALID"
  | some at_ => do
    let signed ← I.signs H I.action.agent (agentActionV2Hash H.noble I.action) I.action.signature
    if !signed then return .refused "TSL_AGENT_ACTION_SIGNATURE_INVALID"
    else
      let opened ← I.parametersMatch H
      if !opened then return .refused "TSL_DELEGATION_CONSTRAINT_VIOLATION"
      else I.verifyChain H at_

end Continuity

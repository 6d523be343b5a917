import Continuity.Identity
import Continuity.Signing

namespace Continuity
set_option autoImplicit true

def verifyAgentDelegation (H : Host) (resolver : TrustResolver) (delegation : AgentDelegationV1)
    (requiredScope : Option JsString) (atTime : RFC3339) : Js Bool := do
  if delegation.type ≠ js "tsl.agent_delegation.v1" then return false
  if timeLe (H.parse delegation.expires_at) (H.parse atTime) then return false
  if truthy requiredScope && !delegation.scope.contains (requiredScope.getD []) then return false
  let controller ← resolver delegation.controller delegation.issued_at
  let agent ← resolver delegation.agent delegation.issued_at
  let controllerKey := namedKey controller delegation.controller_key_id
  let agentKey := namedKey agent delegation.agent_key_id
  let hash ← agentDelegationHash H.noble delegation
  if controllerKey.any (fun key => key.type = .ed25519 && keyActiveAt H key delegation.issued_at) &&
    agentKey.any (fun key => key.type = .ed25519 && keyActiveAt H key delegation.issued_at) then
    if ← signedBy H controllerKey (pure hash) delegation.controller_signature then
      signedBy H agentKey (pure hash) delegation.agent_signature
    else return false
  else return false

end Continuity

import Continuity.OrderedMap
import Continuity.Host

namespace Continuity
open Collections
set_option autoImplicit true

/-- The identity document of a trust id at a time, as the interface `TrustResolver` gives it. -/
abbrev TrustResolver := TrustID → RFC3339 → Js (Option IdentityDocumentV1)

def findVerificationMethod (identity : IdentityDocumentV1) (keyId : JsString) :
    Option VerificationMethodV1 :=
  identity.verification_methods.find? fun method => method.id == keyId

/-- A time that is set and lies after `at`. -/
def laterThan (H : Host) (limit : RFC3339) (at_ : Int) : Bool :=
  match H.parse limit with
  | some limit => at_ < limit
  | none => false

def keyActiveAt (H : Host) (key : VerificationMethodV1) (timestamp : RFC3339) : Bool :=
  match H.parse timestamp, H.parse key.created_at with
  | some at_, some created =>
    created ≤ at_ &&
      (match key.status with
        | .revoked => truthy key.revoked_at && laterThan H (key.revoked_at.getD []) at_
        | .active => true
        | .expired => false) &&
      (!truthy key.expires_at || laterThan H (key.expires_at.getD []) at_)
  | _, _ => false

def notRevokedAt (H : Host) (key : VerificationMethodV1) (timestamp : RFC3339) : Bool :=
  match key.status with
  | .revoked =>
    !timestamp.isEmpty && truthy key.revoked_at &&
      timeLt (H.parse timestamp) (H.parse (key.revoked_at.getD []))
  | _ => true

/-- The first key of the identity that is active at the time. -/
def activeKey (H : Host) (identity : Option IdentityDocumentV1) (timestamp : RFC3339) :
    Option VerificationMethodV1 :=
  match identity with
  | some identity => identity.verification_methods.find? fun method => keyActiveAt H method timestamp
  | none => none

/-- The first key that is active and not revoked at the time. -/
def liveKey (H : Host) (identity : Option IdentityDocumentV1) (timestamp : RFC3339) :
    Option VerificationMethodV1 :=
  match identity with
  | some identity => identity.verification_methods.find? fun method =>
      keyActiveAt H method timestamp && notRevokedAt H method timestamp
  | none => none

def namedKey (identity : Option IdentityDocumentV1) (keyId : JsString) :
    Option VerificationMethodV1 :=
  match identity with
  | some identity => findVerificationMethod identity keyId
  | none => none

/-- `key?.type === "ed25519" && verifyEd25519(key.public_key, hash, signature)`. -/
def signedBy (H : Host) (key : Option VerificationMethodV1) (hash : Js Hex32)
    (signature : HexSig) : Js Bool :=
  match key with
  | some key =>
    if key.type = .ed25519 then do
      let hash ← hash
      verifyEd25519 H.noble key.public_key hash signature
    else return false
  | none => return false

structure MemoryTrustResolver where
  identities : OrderedMap TrustID IdentityDocumentV1

namespace MemoryTrustResolver

def upsertIdentity (R : MemoryTrustResolver) (identity : IdentityDocumentV1) :
    MemoryTrustResolver where
  identities := R.identities.set identity.id identity

def resolveTrustID (R : MemoryTrustResolver) : TrustResolver :=
  fun trustId _ => return R.identities.get? trustId

def revokeMethod (keyId : JsString) : List VerificationMethodV1 → List VerificationMethodV1
  | [] => []
  | method :: methods =>
    if method.id = keyId then { method with status := .revoked } :: methods
    else method :: revokeMethod keyId methods

def revokeKey (R : MemoryTrustResolver) (trustId : TrustID) (keyId : JsString) :
    MemoryTrustResolver :=
  match R.identities.get? trustId with
  | some identity =>
    { identities := R.identities.set trustId { identity with
        verification_methods := revokeMethod keyId identity.verification_methods } }
  | none => R

end MemoryTrustResolver

end Continuity

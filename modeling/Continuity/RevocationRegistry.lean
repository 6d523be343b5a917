import Mathlib.Data.Set.Function
import Continuity.Crypto
import Continuity.Frames

namespace Continuity
open Frames
set_option autoImplicit true

abbrev Bytes32 := BitVec 256

abbrev Address := BitVec 160

/-- The hash function and the signature recovery of the chain. -/
structure Evm where
  keccak256 : Bytes → Bytes32
  ecrecover : Bytes32 → UInt8 → Bytes32 → Bytes32 → Address

def wordBytes (word : Bytes32) : Bytes := bigEndian 32 word.toNat

/-- `abi.encode` of values of one word each. -/
def abiWords (words : List Bytes32) : Bytes := words.flatMap wordBytes

def wordOfBytes (bytes : Bytes) : Bytes32 :=
  BitVec.ofNat 256 (bytes.foldl (fun n b => n * 256 + b.toNat) 0)

structure TrustIdentity where
  controller : Address
  activeKey : Bytes32
  policyCommitment : Bytes32
  createdAt : UInt64

structure TrustIDRegistry where
  identities : Bytes32 → TrustIdentity
  revokedKeys : Bytes32 → Bytes32 → Bool

namespace TrustIDRegistry

variable (R : TrustIDRegistry)

def empty : TrustIDRegistry where
  identities _ := ⟨0, 0, 0, 0⟩
  revokedKeys _ _ := false

def setIdentity (trustId : Bytes32) (identity : TrustIdentity) : TrustIDRegistry :=
  { R with identities := Function.update R.identities trustId identity }

def setRevoked (trustId key : Bytes32) : TrustIDRegistry :=
  { R with revokedKeys :=
      Function.update R.revokedKeys trustId (Function.update (R.revokedKeys trustId) key true) }

def register (sender : Address) (timestamp : UInt64) (trustId activeKey policyCommitment : Bytes32) :
    Js TrustIDRegistry :=
  if (R.identities trustId).createdAt ≠ 0 then throw "TrustIDExists"
  else return R.setIdentity trustId ⟨sender, activeKey, policyCommitment, timestamp⟩

def onlyController (sender : Address) (trustId : Bytes32) : Js Unit :=
  let identity := R.identities trustId
  if identity.createdAt = 0 then throw "TrustIDNotFound"
  else if identity.controller ≠ sender then throw "NotController"
  else return ()

def rotateKey (sender : Address) (trustId oldKey newKey : Bytes32) : Js TrustIDRegistry := do
  R.onlyController sender trustId
  let R := R.setRevoked trustId oldKey
  return R.setIdentity trustId { R.identities trustId with activeKey := newKey }

def revokeKey (sender : Address) (trustId key : Bytes32) : Js TrustIDRegistry := do
  R.onlyController sender trustId
  let R := R.setRevoked trustId key
  if (R.identities trustId).activeKey = key then
    return R.setIdentity trustId { R.identities trustId with activeKey := 0 }
  else return R

def getController (trustId : Bytes32) : Js Address :=
  let identity := R.identities trustId
  if identity.createdAt = 0 then throw "TrustIDNotFound" else return identity.controller

def registered (trustId : Bytes32) : Prop := (R.identities trustId).createdAt ≠ 0

instance (trustId : Bytes32) : Decidable (R.registered trustId) :=
  inferInstanceAs (Decidable (_ ≠ _))

section Inversion

variable {R S : TrustIDRegistry}

theorem register_ok (h : R.register sender timestamp trustId activeKey policyCommitment = .ok S) :
    ¬R.registered trustId ∧
      S = R.setIdentity trustId ⟨sender, activeKey, policyCommitment, timestamp⟩ := by
  unfold register at h
  split at h
  · cases h
  · next hc =>
    cases h
    exact ⟨hc, rfl⟩

theorem onlyController_ok (h : R.onlyController sender trustId = .ok u) :
    R.registered trustId ∧ (R.identities trustId).controller = sender := by
  unfold onlyController at h
  dsimp only at h
  split at h
  · cases h
  · next hc =>
    split at h
    · cases h
    · next hs => exact ⟨hc, Decidable.not_not.mp hs⟩

theorem onlyController_controller (hr : R.registered trustId)
    (hs : (R.identities trustId).controller = sender) :
    R.onlyController sender trustId = .ok () := by
  rw [onlyController, if_neg hr, if_neg (not_not_intro hs)]
  rfl

theorem rotateKey_ok (h : R.rotateKey sender trustId oldKey newKey = .ok S) :
    (R.registered trustId ∧ (R.identities trustId).controller = sender) ∧
      S = (R.setRevoked trustId oldKey).setIdentity trustId
        { R.identities trustId with activeKey := newKey } := by
  obtain ⟨_, hc, h⟩ := bind_eq_ok.mp h
  cases h
  exact ⟨onlyController_ok hc, rfl⟩

theorem revokeKey_ok (h : R.revokeKey sender trustId key = .ok S) :
    (R.registered trustId ∧ (R.identities trustId).controller = sender) ∧
      S = if (R.identities trustId).activeKey = key then
          (R.setRevoked trustId key).setIdentity trustId
            { R.identities trustId with activeKey := 0 }
        else R.setRevoked trustId key := by
  obtain ⟨_, hc, h⟩ := bind_eq_ok.mp h
  refine ⟨onlyController_ok hc, ?_⟩
  dsimp only at h
  split at h
  · next hk =>
    cases h
    exact (if_pos hk).symm
  · next hk =>
    cases h
    exact (if_neg hk).symm

end Inversion

end TrustIDRegistry

/-- What a revocation says: the arguments of both functions that record one. -/
structure RevocationArguments where
  trustId : Bytes32
  key : Bytes32
  reason : UInt8
  effectiveAt : UInt64
  replacementKey : Bytes32
  deriving DecidableEq

structure Revocation extends RevocationArguments where
  submitter : Address

structure RevocationRegistry where
  owner : Address
  trustIDRegistry : Address
  authorizedSubmitters : Address → Bool
  revocationsByHash : Bytes32 → Revocation
  latestRevocationByTrustIdKey : Bytes32 → Bytes32 → Bytes32
  revocationHistoryByTrustIdKey : Bytes32 → Bytes32 → List Bytes32

/-- What a call of another contract gives: an address, a revert, or nothing that decodes as an
address, which reverts the caller as well. -/
inductive CallOutcome where
  | returned (controller : Address)
  | reverted
  | undecodable

def RevocationArguments.words (a : RevocationArguments) : List Bytes32 :=
  [a.trustId, a.key, BitVec.ofNat 256 a.reason.toNat, BitVec.ofNat 256 a.effectiveAt.toNat,
    a.replacementKey]

def revocationMessage (a : RevocationArguments) (sender : Address) : Bytes :=
  abiWords (a.words ++ [BitVec.ofNat 256 sender.toNat])

/-- `abi.encode` of a text of 31 bytes and the arguments: the text stands at its offset behind
them. -/
def authorizationMessage (a : RevocationArguments) : Bytes :=
  abiWords ([192] ++ a.words ++ [31]) ++
    (textEncode (js "tsl.revocation.authorization.v1") ++ [0])

def signedMessage (hash : Bytes32) : Bytes :=
  25 :: textEncode (js "Ethereum Signed Message:\n32") ++ wordBytes hash

namespace RevocationRegistry

variable (E : Evm) (S : RevocationRegistry)

def create (sender : Address) : RevocationRegistry where
  owner := sender
  trustIDRegistry := 0
  authorizedSubmitters := Function.update (fun _ => false) sender true
  revocationsByHash _ := ⟨⟨0, 0, 0, 0, 0⟩, 0⟩
  latestRevocationByTrustIdKey _ _ := 0
  revocationHistoryByTrustIdKey _ _ := []

def onlyOwner (sender : Address) : Js Unit :=
  if sender ≠ S.owner then throw "NotOwner" else return ()

def setTrustIDRegistry (sender registry : Address) : Js RevocationRegistry := do
  S.onlyOwner sender
  return { S with trustIDRegistry := registry }

def setAuthorizedSubmitter (sender submitter : Address) (authorized : Bool) :
    Js RevocationRegistry := do
  S.onlyOwner sender
  return { S with authorizedSubmitters :=
    Function.update S.authorizedSubmitters submitter authorized }

/-- `getController` answers as the configured registry does. -/
def controllerFor (getController : Address → Bytes32 → CallOutcome) (trustId : Bytes32) :
    Js Address :=
  if S.trustIDRegistry = 0 then return 0
  else match getController S.trustIDRegistry trustId with
    | .returned controller => return controller
    | .reverted => return 0
    | .undecodable => throw "revert"

def requireControllerOrAuthorizedSubmitter (getController : Address → Bytes32 → CallOutcome)
    (trustId : Bytes32) (caller : Address) : Js Unit := do
  let controller ← S.controllerFor getController trustId
  if controller ≠ 0 then
    if caller ≠ controller then throw "UnauthorizedRevocation" else return ()
  else if !S.authorizedSubmitters caller then throw "UnauthorizedRevocation"
  else return ()

def revocationHash (a : RevocationArguments) (sender : Address) : Bytes32 :=
  E.keccak256 (revocationMessage a sender)

def revocationAuthorizationHash (a : RevocationArguments) : Bytes32 :=
  E.keccak256 (authorizationMessage a)

/-- The digest that a controller signs. -/
def authorizationDigest (a : RevocationArguments) : Bytes32 :=
  E.keccak256 (signedMessage (revocationAuthorizationHash E a))

def recoverControllerSigner (authorizationHash : Bytes32) (signature : Bytes) : Address :=
  if signature.length ≠ 65 then 0
  else
    let r := wordOfBytes (signature.take 32)
    let s := wordOfBytes ((signature.drop 32).take 32)
    let v := (signature[64]?).getD 0
    let v := if v < 27 then v + 27 else v
    if v ≠ 27 ∧ v ≠ 28 then 0
    else E.ecrecover (E.keccak256 (signedMessage authorizationHash)) v r s

/-- `_recordRevocation`. -/
def record (a : RevocationArguments) (sender : Address) : RevocationRegistry :=
  let hash := revocationHash E a sender
  { S with
    revocationsByHash := Function.update S.revocationsByHash hash ⟨a, sender⟩
    latestRevocationByTrustIdKey := Function.update S.latestRevocationByTrustIdKey a.trustId
      (Function.update (S.latestRevocationByTrustIdKey a.trustId) a.key hash)
    revocationHistoryByTrustIdKey := Function.update S.revocationHistoryByTrustIdKey a.trustId
      (Function.update (S.revocationHistoryByTrustIdKey a.trustId) a.key
        (S.revocationHistoryByTrustIdKey a.trustId a.key ++ [hash])) }

def recordRevocation (getController : Address → Bytes32 → CallOutcome) (sender : Address)
    (a : RevocationArguments) : Js RevocationRegistry := do
  S.requireControllerOrAuthorizedSubmitter getController a.trustId sender
  return S.record E a sender

def recordRevocationWithAuthorization (getController : Address → Bytes32 → CallOutcome)
    (sender : Address) (a : RevocationArguments) (controllerSignature : Bytes) :
    Js RevocationRegistry := do
  let controller ← S.controllerFor getController a.trustId
  let recoveredSigner :=
    recoverControllerSigner E (revocationAuthorizationHash E a) controllerSignature
  if controller = 0 ∨ recoveredSigner ≠ controller then throw "InvalidControllerSignature"
  else return S.record E a sender

def isRevoked (trustId key : Bytes32) (atTime : UInt64) : Bool :=
  (S.revocationHistoryByTrustIdKey trustId key).any fun hash =>
    (S.revocationsByHash hash).effectiveAt ≤ atTime

end RevocationRegistry

/-- The registry of revocations among the registries of identities that stand on the chain. -/
structure World where
  revocations : RevocationRegistry
  registries : Address → Option TrustIDRegistry

inductive Call where
  | deployRegistry (registry : Address)
  | register (registry : Address) (trustId activeKey policyCommitment : Bytes32)
  | rotateKey (registry : Address) (trustId oldKey newKey : Bytes32)
  | revokeKey (registry : Address) (trustId key : Bytes32)
  | setTrustIDRegistry (registry : Address)
  | setAuthorizedSubmitter (submitter : Address) (authorized : Bool)
  | recordRevocation (a : RevocationArguments)
  | recordRevocationWithAuthorization (a : RevocationArguments) (controllerSignature : Bytes)

/-- Nobody sends from the zero address. Contracts that are no registry of identities answer
`getController` as they like. -/
structure ChainTransaction where
  sender : Address
  sender_ne : sender ≠ 0
  timestamp : UInt64
  foreign : Address → Bytes32 → CallOutcome
  call : Call

/-- The revocation that a call asks for. -/
def Call.records : Call → Option RevocationArguments
  | .recordRevocation a => some a
  | .recordRevocationWithAuthorization a _ => some a
  | _ => none

namespace World

variable (E : Evm) (w : World)

def initial (deployer : Address) : World := ⟨.create deployer, fun _ => none⟩

def getController (foreign : Address → Bytes32 → CallOutcome) (registry : Address)
    (trustId : Bytes32) : CallOutcome :=
  match w.registries registry with
  | some R =>
    match R.getController trustId with
    | .ok controller => .returned controller
    | .error _ => .reverted
  | none => foreign registry trustId

/-- A transaction to one of the registries of identities. -/
def onRegistry (registry : Address) (f : TrustIDRegistry → Js TrustIDRegistry) : Js World :=
  match w.registries registry with
  | some R => do
    let R ← f R
    return { w with registries := Function.update w.registries registry (some R) }
  | none => return w

def onRevocations (result : Js RevocationRegistry) : Js World := do
  let revocations ← result
  return { w with revocations }

def execute (tx : ChainTransaction) : Js World :=
  match tx.call with
  | .deployRegistry registry =>
    if registry = 0 ∨ (w.registries registry).isSome then throw "revert"
    else return { w with registries := Function.update w.registries registry (some .empty) }
  | .register registry trustId activeKey policyCommitment => w.onRegistry registry fun R =>
      R.register tx.sender tx.timestamp trustId activeKey policyCommitment
  | .rotateKey registry trustId oldKey newKey => w.onRegistry registry fun R =>
      R.rotateKey tx.sender trustId oldKey newKey
  | .revokeKey registry trustId key => w.onRegistry registry fun R =>
      R.revokeKey tx.sender trustId key
  | .setTrustIDRegistry registry =>
    w.onRevocations (w.revocations.setTrustIDRegistry tx.sender registry)
  | .setAuthorizedSubmitter submitter authorized =>
    w.onRevocations (w.revocations.setAuthorizedSubmitter tx.sender submitter authorized)
  | .recordRevocation a => w.onRevocations
      (w.revocations.recordRevocation E (w.getController tx.foreign) tx.sender a)
  | .recordRevocationWithAuthorization a controllerSignature => w.onRevocations
      (w.revocations.recordRevocationWithAuthorization E (w.getController tx.foreign) tx.sender a
        controllerSignature)

/-- A transaction that reverts changes nothing. -/
def step (tx : ChainTransaction) : World :=
  match w.execute E tx with
  | .ok w => w
  | .error _ => w

end World

/-- The transactions of a run that succeed, each with the world it meets. -/
def landed (E : Evm) : World → List ChainTransaction → List (World × ChainTransaction)
  | _, [] => []
  | w, tx :: rest =>
    match w.execute E tx with
    | .ok after => (w, tx) :: landed E after rest
    | .error _ => landed E w rest

end Continuity

import Continuity.NonMembership
import Continuity.VerifierContext

namespace Continuity
set_option autoImplicit true

/-- `Boolean(value)`. -/
def JsValue.toBool : JsValue → Bool
  | .null => false
  | .undefined => false
  | .bool b => b
  | .num n => n ≠ .nan && !n.strictEq (.ofNat 0)
  | .str s => !s.isEmpty
  | _ => true

/-- `left ?? right`. -/
def coalesce (left right : Option JsValue) : Option JsValue :=
  match left with
  | none => right
  | some .null => right
  | some .undefined => right
  | some value => some value

/-- Conditions one after the other, up to the first that fails. -/
def allOf : List (Js Bool) → Js Bool
  | [] => return true
  | condition :: rest => do
    if ← condition then allOf rest else return false

theorem allOf_true {conditions : List (Js Bool)} :
    allOf conditions = .ok true ↔ ∀ condition ∈ conditions, condition = .ok true := by
  induction conditions with
  | nil => simp [allOf, pure, Except.pure]
  | cons condition rest ih =>
    rw [allOf, bind_eq_ok, List.forall_mem_cons]
    constructor
    · rintro ⟨b, hb, h⟩
      cases b with
      | false => cases h
      | true => exact ⟨hb, ih.mp h⟩
    · rintro ⟨hb, hrest⟩
      exact ⟨true, hb, ih.mpr hrest⟩

/-- `snarkjs.groth16.verify`. -/
abbrev Groth16Verify := JsValue → List JsString → JsValue → Js Bool

/-- The order of the scalar field of BN254. -/
def scalarField : Int :=
  21888242871839275222246405745257275088548364400416034343698204186575808495617

section Circuits

variable (N : Noble)

def subjectHashField (subject : TrustID) : Js JsString := do
  let digest ← bigIntOfString (sha256Hex N (textEncode subject))
  return intText (digest % scalarField)

def ZK_THRESHOLD_V1 : JsString := js "tsl.zk.threshold_proof.v1"

def publicSignalCommitment (publicSignals : List JsString) : Js Hex32 := do
  let bytes ← canonicalBytes (textList publicSignals)
  return hashDomain N ZK_THRESHOLD_V1 bytes

def zkCircuitReleaseManifestHash (manifest : ZkCircuitReleaseManifestV1) : Js Hex32 := do
  let bytes ← canonicalBytes (.obj manifest.toFields)
  return hashDomain N (js "tsl.zk.circuit_release_manifest.v1") bytes

def zkVerificationKeyObjectHash (verificationKey : JsValue) : Js Hex32 :=
  canonicalHash N verificationKey

def manifestForProof (proof : ZkThresholdProofV1)
    (manifests : Option (List ZkCircuitReleaseManifestV1)) :
    Js (Option ZkCircuitReleaseManifestV1) :=
  (manifests.getD []).findM? fun manifest => do
    let manifestHash ← zkCircuitReleaseManifestHash N manifest
    return manifest.claim == proof.claim && proof.circuit_id == some manifest.circuit_id &&
      proof.verification_key_id == some manifest.verification_key_id &&
      proof.release_manifest_hash == some manifestHash

/-- `text.includes(part)`. -/
def includesPart (text part : JsString) : Bool := decide (part <:+: text)

def isDevCircuitId (circuitId : Option JsString) : Bool :=
  match circuitId with
  | none => true
  | some id =>
    id.isEmpty || (js "dev_").isPrefixOf id || includesPart id (js ":dev") ||
      includesPart id (js "fixture") || includesPart id (js "prototype") ||
      [js "identity-age-threshold-v1", js "reciprocal-receipt-count-threshold-v1",
        js "revocation-set-non-membership-v1", js "agent-scope-compliance-v1"].contains id

/-- The witnesses that a manifest declares for a claim, each under one of several names. -/
def REQUIRED_WITNESS_FIELDS : List (String × List (List String)) :=
  [("identity_age_days", [["creation_proof", "creation_epoch_day"], ["salt", "registry_salt"],
      ["registry_path", "registry_siblings"]]),
    ("reciprocal_receipt_count", [["receipt_leaves"], ["counterparty_salts", "receipt_salts"],
      ["counterparties", "counterparty_commitments"], ["merkle_paths", "receipt_siblings"]]),
    ("dispute_rate_bound", [["completed_receipt_leaves", "completed_leaves"],
      ["disputed_receipt_leaves", "disputed_leaves"], ["merkle_paths", "completed_siblings"]]),
    ("set_membership", [["membership_leaf", "membership_salt"], ["salt", "membership_salt"],
      ["merkle_path", "membership_siblings"]]),
    ("revocation_set_non_membership", [["sparse_merkle_non_membership_path", "sibling_path"],
      ["leaf_index", "sparse_leaf_index"], ["value_commitment"]]),
    ("organization_membership", [["attestation_witness", "attestation_siblings"],
      ["issuer_path", "issuer_siblings"]]),
    ("agent_scope_compliance", [["parameter_values", "parameter_values_hash"],
      ["policy_witness", "policy_constraints_hash"], ["delegation_path", "delegation_siblings"]]),
    ("private_graph_distance",
      [["committed_local_neighborhood", "committed_local_neighborhood_root"],
      ["aggregate_proof", "aggregate_proof_commitment"],
      ["seed_commitments", "trusted_seed_commitment"]])]

def requiredWitnessFields (claim : JsString) : List (List JsString) :=
  match REQUIRED_WITNESS_FIELDS.find? fun entry => js entry.1 == claim with
  | some entry => entry.2.map (List.map js)
  | none => []

/-- `field in properties`. -/
def fieldIn (field : JsString) (properties : Option JsValue) : Js Bool :=
  match properties with
  | none => return false
  | some (.obj fields) => return fields.any fun entry => entry.1 == field
  | some (.arr _) => return false
  | some _ => throw "TypeError: Cannot use 'in' operator"

/-- The strings in the list of required fields; no other value is the name of a witness. -/
def requiredList (schema : JsObject) : List JsString :=
  match getField schema (js "required") with
  | .arr items => items.filterMap fun item => match item with
    | .str s => some s
    | _ => none
  | _ => []

def anyOf : List (Js Bool) → Js Bool
  | [] => return false
  | condition :: rest => do
    if ← condition then return true else anyOf rest

def manifestDeclaresWitnessInterface (manifest : ZkCircuitReleaseManifestV1) : Js Bool :=
  let schema := manifest.private_witness_schema.getD []
  let properties := coalesce (some (getField schema (js "properties"))) none
  allOf ((requiredWitnessFields manifest.claim).map fun aliases =>
    anyOf (aliases.map fun field => do
      if ← fieldIn field properties then return true
      else return (requiredList schema).contains field))

/-- The parts of a release manifest that a production circuit has to have. -/
def manifestComplete (manifest : ZkCircuitReleaseManifestV1) : Bool :=
  !manifest.hash_suite.isEmpty && !manifest.witness_interface.isEmpty &&
    manifest.public_signal_schema.isSome && manifest.private_witness_schema.isSome &&
    manifest.soundness_bits.any (fun bits => (JsValue.num bits).toBool) &&
    nonEmptyList manifest.privacy_notes

def registeredManifest (proof : ZkThresholdProofV1) (manifest : ZkCircuitReleaseManifestV1)
    (registry : ZkVerificationKeyRegistryV1) : Js Bool :=
  allOf [
    return manifest.status = .active,
    return !isDevCircuitId (some manifest.circuit_id) && !isDevCircuitId proof.circuit_id,
    return truthy manifest.signature && truthy registry.signature,
    return manifest.signature_status = .externally_signed &&
      registry.signature_status = .externally_signed,
    return manifestComplete manifest,
    return !manifest.soundness_bits.any fun bits => bits.lt (.ofNat 100),
    manifestDeclaresWitnessInterface manifest,
    do
      let manifestHash ← zkCircuitReleaseManifestHash N manifest
      return registry.active_manifest_hashes.contains manifestHash &&
        !registry.revoked_manifest_hashes.contains manifestHash]

def zkProofUsesRegisteredCircuit (proof : ZkThresholdProofV1)
    (manifests : Option (List ZkCircuitReleaseManifestV1))
    (registry : Option ZkVerificationKeyRegistryV1) : Js Bool := do
  let manifest ← manifestForProof N proof manifests
  match manifest, registry with
  | some manifest, some registry => registeredManifest N proof manifest registry
  | _, _ => return false

/-- `/^0x[0-9a-f]{64}$/`. -/
def isHexDigest (s : JsString) : Bool :=
  (js "0x").isPrefixOf s && s.length == 66 &&
    (s.drop 2).all fun u => (48 ≤ u && u ≤ 57) || (97 ≤ u && u ≤ 102)

def publicInputHash (proof : ZkThresholdProofV1) : Js Hex32 := do
  let bytes ← canonicalBytes (.obj [(js "claim", .str proof.claim),
    (js "subject", .str proof.subject), (js "threshold", .num proof.threshold),
    (js "witness_commitment", .str proof.witness_commitment)])
  return hashDomain N ZK_THRESHOLD_V1 bytes

def verifyThresholdProof (proof : ZkThresholdProofV1) : Js Bool :=
  allOf [
    return proof.type == js "tsl.zk.threshold_proof.v1",
    return proof.threshold.isSafeInteger && !proof.threshold.lt (.ofNat 0),
    do
      let expectedPublicInputHash ← publicInputHash N proof
      return expectedPublicInputHash == proof.public_input_hash && isHexDigest proof.proof]

/-- The claims that are about a threshold in the public signals. -/
def thresholdClaim (proof : ZkThresholdProofV1) : Bool :=
  proof.claim == js "identity_age_days" || proof.claim == js "reciprocal_receipt_count"

/-- `String(threshold)` of a safe integer. -/
def thresholdText (proof : ZkThresholdProofV1) : JsString :=
  intText (proof.threshold.toInt?.getD 0)

def signalsCommitted (proof : ZkThresholdProofV1) (signals : List JsString) : Js Bool :=
  if truthy proof.public_signal_commitment then do
    let commitment ← publicSignalCommitment N signals
    return proof.public_signal_commitment == some commitment
  else return true

end Circuits

namespace ZkOptions

variable (options : ZkOptions)

def productionCircuitRequired : Bool :=
  isOn options.require_registered_circuit || isOn options.reject_dev_circuits

def requireManifestKeyHash : Bool :=
  isOn options.require_manifest_verification_key_hash ||
    isOn options.require_registered_circuit || isOn options.reject_dev_circuits

end ZkOptions

section Verify

variable (H : Host) (groth16Verify : Groth16Verify) (proof : ZkThresholdProofV1)
  (options : ZkOptions)

def registeredIfRequired : Js Bool :=
  if options.productionCircuitRequired then
    zkProofUsesRegisteredCircuit H.noble proof options.manifests options.registry
  else return true

def keyHashIfRequired (manifest : Option ZkCircuitReleaseManifestV1) (verificationKey : JsValue) :
    Js Bool :=
  if options.requireManifestKeyHash then
    match manifest with
    | none => return false
    | some manifest =>
      if !(manifest.verification_key.any JsValue.toBool) then return false
      else do
        let hash ← zkVerificationKeyObjectHash H.noble verificationKey
        return hash == manifest.verification_key_hash
  else return true

def signalsMatch (signals : List JsString) : Js Bool := do
  let expectedSubjectHash ← subjectHashField H.noble proof.subject
  return signals.contains expectedSubjectHash &&
    (!thresholdClaim proof || signals.contains (thresholdText proof))

/-- The conditions once the manifest of the proof is found. -/
def verifyUnderManifest (groth16 : Groth16Proof) (manifest : Option ZkCircuitReleaseManifestV1) :
    Js Bool :=
  let verificationKey := (coalesce (manifest.bind ZkCircuitReleaseManifestV1.verification_key)
    groth16.verification_key).getD .undefined
  allOf [registeredIfRequired H proof options,
    return !isOn options.reject_dev_circuits ||
      manifest.map ZkCircuitReleaseManifestV1.status == some .active,
    keyHashIfRequired H options manifest verificationKey,
    return thresholdClaim proof || isOn options.require_registered_circuit,
    signalsMatch H proof groth16.public_signals,
    groth16Verify verificationKey groth16.public_signals groth16.proof]

def verifyGroth16 (groth16 : Groth16Proof) : Js Bool :=
  allOf [
    return groth16.verification_key.any JsValue.toBool,
    return !(isOn options.reject_dev_circuits && isDevCircuitId proof.circuit_id),
    signalsCommitted H.noble proof groth16.public_signals,
    do
      let manifest ← manifestForProof H.noble proof options.manifests
      verifyUnderManifest H groth16Verify proof options groth16 manifest]

def unsafeZkFlags : List String :=
  ["ALLOW_UNSAFE_ZK_HASH_FIXTURES", "ALLOW_UNSAFE_ZK_SYNTHETIC_RECEIPTS",
    "ALLOW_UNSAFE_ZK_UNSUPPORTED_CIRCUITS"]

def verifyThresholdProofAsync : Js Bool :=
  allOf [verifyThresholdProof H.noble proof,
    return !(isOn options.reject_dev_circuits && H.onMainnet && unsafeZkFlags.any H.flag),
    match proof.groth16 with
    | none => return H.flag "ALLOW_UNSAFE_ZK_HASH_FIXTURES" &&
        !(isOn options.reject_dev_circuits && H.onMainnet)
    | some groth16 => verifyGroth16 H groth16Verify proof options groth16]

end Verify

end Continuity

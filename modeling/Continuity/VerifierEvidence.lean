import Continuity.Merkle
import Continuity.VerifierContext

namespace Continuity
set_option autoImplicit true

/-- What the loop over a list of objects finds for one of them. -/
structure ItemResult where
  valid : Bool
  errors : List String

/-- A check that starts out true and fails with any item; the errors follow the items. -/
def Report.record (r : Report) (name : CheckName) (results : List ItemResult) : Report :=
  (r.check name (results.all ItemResult.valid)).push (results.flatMap ItemResult.errors)

/-- `checks.name = checks.name !== false && value`. -/
def Report.keep (r : Report) (name : CheckName) (value : Bool) : Report :=
  r.check name (r.notFailed name && value)

def unsafeFixtureFlags : List String :=
  ["ALLOW_UNSAFE_CHECKPOINT_SIGNATURE_FIXTURES", "ALLOW_UNSAFE_ZK_HASH_FIXTURES",
    "ALLOW_LEGACY_CHECKPOINT_HASH_V0"]

def unsafeFixturesBlock (H : Host) (policy : VerifierPolicy Option) (r : Report) : Report :=
  r.pushIf (isOn policy.reject_unsafe_fixtures_on_mainnet && H.onMainnet)
    ((unsafeFixtureFlags.filter H.flag).map fun _ => "TSL_UNSAFE_FIXTURE_POLICY_ENABLED")

def bundleBlock (H : Host) (input : ExpandedInput) (r : Report) : Report :=
  match input.proof_bundle with
  | none => r
  | some bundle =>
    let validation := H.validateSchema .proofBundleV1 bundle.toJs
    (r.pushIf (!validation.valid) ("TSL_PROOF_BUNDLE_INVALID" :: validation.errors)).pushIf
      (bundle.identity.id != bundle.envelope.sender) ["TSL_PROOF_BUNDLE_IDENTITY_MISMATCH"]

def redactionBlock (H : Host) (input : ExpandedInput) (r : Report) : Report :=
  let valid := redactionManifestMatches input H
  (r.check .redaction_manifest_valid valid).pushIf (!valid) ["TSL_REDACTION_MANIFEST_INVALID"]

section Blocks

variable (C : Context)

def keyBlock (identity : IdentityDocumentV1) (unsignedEventHash : Hex32) (r : Report) :
    Js Report := do
  let key := findVerificationMethod identity C.envelope.signing_key_id
  let active := key.any fun key => keyActiveAt C.host key C.envelope.timestamp
  let notRevoked := key.any fun key => notRevokedAt C.host key C.envelope.timestamp
  let signatureValid ← signedBy C.host key (pure unsignedEventHash) C.envelope.signature
  return (((r.check .key_found key.isSome).check .key_active active).check .not_revoked
    notRevoked).check .signature_valid signatureValid

def chainRevocationBlock (r : Report) : Js Report :=
  if isOn C.policy.require_chain_revocation then
    match C.backend.bind SettlementBackend.isKeyRevokedAt with
    | some isKeyRevokedAt => do
      let revoked ← isKeyRevokedAt C.envelope.sender C.envelope.signing_key_id
        (C.host.parse C.envelope.timestamp)
      let r := r.check .chain_revocation_checked true
      return if revoked then (r.check .not_revoked false).push ["TSL_KEY_REVOKED"] else r
    | none =>
      let r := r.check .chain_revocation_checked false
      return r.push ["TSL_CHAIN_REVOCATION_UNAVAILABLE"]
  else return r

def explainKeyBlock (r : Report) : Report :=
  ((r.explainIf (r.passes .signature_valid) "Signature valid").explainIf
    (r.passes .key_active) "Key active at event timestamp").explainIf
    (r.passes .not_revoked) "No active key revocation in resolved identity state"

/-- The key that has to sign a revocation: an active one, else the revoked key itself. -/
def revocationKey (identity : Option IdentityDocumentV1) (revocation : RevocationV1) :
    Option VerificationMethodV1 :=
  match identity with
  | some identity =>
    (identity.verification_methods.find? fun method => method.status = .active).or
      (findVerificationMethod identity revocation.revoked_key)
  | none => none

def revokesEnvelopeKey (revocation : RevocationV1) : Bool :=
  revocation.trust_id == C.envelope.sender &&
    revocation.revoked_key == C.envelope.signing_key_id &&
    timeLe (C.host.parse revocation.effective_at) (C.host.parse C.envelope.timestamp)

structure RevocationResult extends ItemResult where
  revokesKey : Bool

def checkRevocation (revocation : RevocationV1) : Js RevocationResult := do
  let validation := C.validate .revocation (.obj revocation.toFields)
  if !validation.valid then
    return {
      valid := false
      errors := "TSL_REVOCATION_INVALID" :: validation.errors
      revokesKey := false }
  let identity ← C.resolver revocation.trust_id revocation.effective_at
  let signatureValid ← signedBy C.host (revocationKey identity revocation)
    (revocationHash C.noble revocation) revocation.signature
  let revokesKey := revokesEnvelopeKey C revocation
  return {
    valid := signatureValid && !revokesKey
    errors := (if signatureValid then [] else ["TSL_REVOCATION_SIGNATURE_INVALID"]) ++
      (if revokesKey then ["TSL_KEY_REVOKED"] else [])
    revokesKey }

def revocationsBlock (r : Report) : Js Report :=
  match C.input.revocations with
  | some (revocation :: rest) => do
    let results ← (revocation :: rest).mapM (checkRevocation C)
    let r := r.record .revocation_state_valid (results.map RevocationResult.toItemResult)
    let r := if results.any RevocationResult.revokesKey then r.check .not_revoked false else r
    return r.explainIf (r.passes .revocation_state_valid) "Signed revocation state is valid"
  | _ => return r

def disclosureAllowed (fieldClasses : List JsString) : Js Bool :=
  if C.consentRequired then disclosureConsentAllows C fieldClasses else return true

/-- Whether a disclosed message opens the content commitment, `none` for no message. -/
def contentMatches (disclosure : MessageDisclosure) (consent : Bool) : Js (Option Bool) :=
  match disclosure.raw_message, disclosure.content_salt with
  | none, _ => return none
  | some _, none => return some false
  | some raw_message, some content_salt =>
    if consent then do
      let commitment ← contentCommitment C.noble raw_message content_salt
      return some (commitment == C.envelope.content_commitment)
    else return some false

def messageDisclosureBlock (r : Report) : Js Report :=
  match C.input.message_disclosure with
  | none => return r
  | some disclosure =>
    if disclosure.raw_message.isSome || disclosure.content_salt.isSome then do
      let fieldClasses := (if disclosure.raw_message.isSome then [js "raw_content"] else []) ++
        (if disclosure.content_salt.isSome then [js "content_salt"] else [])
      let consent ← disclosureAllowed C fieldClasses
      let r := (r.check .disclosure_consent_valid consent).pushIf (!consent)
        ["TSL_DISCLOSURE_CONSENT_REQUIRED"]
      let content ← contentMatches C disclosure consent
      let r := match content with
        | some value => r.check .content_commitment_matches value
        | none => r.uncheck .content_commitment_matches
      return r.explainIf (r.passes .content_commitment_matches)
        "Disclosed message matches content commitment"
    else return r

/-- The commitment of the event, in its present or in its legacy form. -/
def isEventCommitment (commitment : Hex32) : Bool :=
  commitment == C.commitmentHash || commitment == C.legacyCommitmentHash

def inclusionName : TreeKind → CheckName
  | .event => .included_in_log
  | .receipt => .receipt_included
  | .attestation => .attestation_included
  | .revocation => .revocation_included

def eventIncluded (proof : InclusionProofV1) : Js Bool :=
  guarded (proof.tree_kind = .event && isEventCommitment C proof.commitment)
    (verifyInclusion C.noble proof)

def recordInclusion (proof : InclusionProofV1) (r : Report) : Js Report := do
  let included ← eventIncluded C proof
  let r := (r.check .included_in_log included).explainIf included
    "Event included in Merkle log proof"
  if proof.tree_kind = .event then return r
  else do
    let valid ← verifyInclusion C.noble proof
    return r.check (inclusionName proof.tree_kind) valid

def proofBlock (r : Report) : Js Report :=
  match C.input.proof with
  | none => return r
  | some proof =>
    let validation := C.validate .inclusionProof proof.toJs
    if validation.valid then recordInclusion C proof r
    else return r.push ("TSL_INCLUSION_INVALID" :: validation.errors)

/-- Consent to disclose, where it is required. -/
def consentBlock (required : Bool) (fieldClasses : List JsString) (r : Report) :
    Js (Report × Bool) :=
  if required then do
    let consent ← disclosureConsentAllows C fieldClasses
    return ((r.keep .disclosure_consent_valid consent).pushIf (!consent)
      ["TSL_DISCLOSURE_CONSENT_REQUIRED"], consent)
  else return (r, true)

def receiptProofMatchesCheckpoint (proof : InclusionProofV1) : Js Bool :=
  match C.input.checkpoint with
  | none => return true
  | some checkpoint => do
    let hash ← checkpointHashForPolicy C.host checkpoint
    return proof.checkpoint_hash == hash && proof.root == checkpoint.receipt_root &&
      proof.epoch_start_ms.strictEq checkpoint.epoch_start_ms && proof.shard == checkpoint.shard

def receiptProofValid (receipt : ReceiptCommitmentV1) : Js Bool := do
  let commitment ← receiptHash C.noble receipt
  match (C.input.receipt_proofs.getD []).find? fun proof => proof.commitment == commitment with
  | none => return false
  | some proof =>
    if !(C.validate .inclusionProof proof.toJs).valid || proof.tree_kind ≠ .receipt then
      return false
    if ← verifyInclusion C.noble proof then receiptProofMatchesCheckpoint C proof
    else return false

def receiptSigned (receipt : ReceiptCommitmentV1) : Js Bool := do
  let identity ← C.resolver receipt.receiver receipt.timestamp
  match namedKey identity receipt.signing_key_id with
  | none => return false
  | some key =>
    guarded (isEventCommitment C receipt.event_commitment && key.type = .ed25519 &&
      keyActiveAt C.host key receipt.timestamp)
      (signedBy C.host (some key) (receiptHash C.noble receipt) receipt.signature)

def receiptInclusionRequired : Bool :=
  isOn C.policy.require_receipt_inclusion_for_disclosed_receipts || C.consentRequired

structure ReceiptResult extends ItemResult where
  included : Option Bool

def checkReceipt (receipt : ReceiptCommitmentV1) : Js ReceiptResult := do
  let validation := C.validate .receipt (.obj receipt.toFields)
  if !validation.valid then
    return {
      valid := false
      errors := "TSL_RECEIPT_INVALID" :: validation.errors
      included := none }
  let signed ← receiptSigned C receipt
  let errors := if signed then [] else ["TSL_RECEIPT_INVALID"]
  if receiptInclusionRequired C then
    let included ← receiptProofValid C receipt
    return {
      valid := signed && included
      errors := errors ++ (if included then [] else ["TSL_RECEIPT_INCLUSION_INVALID"])
      included := some included }
  else return { valid := signed, errors, included := none }

def receiptsBlock (r : Report) : Js Report :=
  match C.input.receipts with
  | some (receipt :: rest) => do
    let (r, consent) ← consentBlock C C.consentRequired [js "exact_counterparties"] r
    let results ← (receipt :: rest).mapM (checkReceipt C)
    let r := r.record .receipt_valid
      (⟨consent, []⟩ :: results.map ReceiptResult.toItemResult)
    let r := (results.filterMap ReceiptResult.included).foldl
      (fun r included => r.keep .receipt_included included) r
    return r.explainIf (r.passes .receipt_valid) "Receipt signatures valid"
  | _ => return r

def checkAttestation (attestation : AttestationV1) : Js ItemResult := do
  let validation := C.validate .attestation (.obj attestation.toFields)
  if !validation.valid then
    return { valid := false, errors := "TSL_ATTESTATION_INVALID" :: validation.errors }
  let identity ← C.resolver attestation.issuer attestation.issued_at
  let valid ← guarded (attestation.subject = C.envelope.sender) (signedBy C.host
    (activeKey C.host identity attestation.issued_at) (attestationHash C.noble attestation)
    attestation.signature)
  return { valid, errors := if valid then [] else ["TSL_ATTESTATION_INVALID"] }

def attestationsBlock (r : Report) : Js Report :=
  match C.input.attestations with
  | some (attestation :: rest) => do
    let restricted := (attestation :: rest).any fun a => a.visibility ≠ .«public»
    let (r, consent) ← consentBlock C (C.consentRequired && restricted) [js "attestations"] r
    let results ← (attestation :: rest).mapM (checkAttestation C)
    let r := r.record .attestation_valid (⟨consent, []⟩ :: results)
    return r.explainIf (r.passes .attestation_valid) "Attestation signatures valid"
  | _ => return r

def checkAttestationV2 (attestation : AttestationV2) : Js ItemResult := do
  let validation := C.validate .attestationV2 (.obj attestation.toFields)
  if !validation.valid then
    return { valid := false, errors := "TSL_ATTESTATION_INVALID" :: validation.errors }
  let identity ← C.resolver attestation.issuer attestation.issued_at
  let valid ← guarded (attestation.subject = C.envelope.sender) (signedBy C.host
    (namedKey identity attestation.signing_key_id) (attestationV2Hash C.noble attestation)
    attestation.signature)
  return { valid, errors := if valid then [] else ["TSL_ATTESTATION_INVALID"] }

def attestationsV2Block (r : Report) : Js Report :=
  match C.input.attestations_v2 with
  | some (attestation :: rest) => do
    let before := r.notFailed .attestation_valid
    let restricted := (attestation :: rest).any fun a => a.visibility ≠ .«public»
    let (r, consent) ← consentBlock C (C.consentRequired && restricted) [js "attestations"] r
    let results ← (attestation :: rest).mapM (checkAttestationV2 C)
    let r := r.record .attestation_valid (⟨before && consent, []⟩ :: results)
    return r.explainIf (r.passes .attestation_valid) "v2 attestation signatures valid"
  | _ => return r

def privateFieldsBlock (r : Report) : Js Report :=
  let fieldClasses := (if privateMetadata C.input then [js "private_metadata"] else []) ++
    (if privateGraph C.input then [js "private_graph"] else [])
  Prod.fst <$> consentBlock C (C.consentRequired && !fieldClasses.isEmpty) fieldClasses r

end Blocks

end Continuity

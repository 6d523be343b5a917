import Continuity.VerifierContext

namespace Continuity
set_option autoImplicit true

/-- What a discloser is given with a bundle; `at_time_ms` is `none` inside for `NaN`. -/
structure ProofBundleDisclosureOptions where
  disclosure_consents : Option (List DisclosureConsentV1)
  consent_identities : Option (List IdentityDocumentV1)
  resolve_identity : Option TrustResolver
  include_receipts : Option Bool
  include_attestations : Option Bool
  verifier_or_provider : Option TrustID
  purpose : Option JsString
  disclosure_purpose : Option JsString
  at_time_ms : Option (Option Int)
  revoked_disclosure_pointers : Option (List JsString)

/-- A discloser without any consent. -/
def noConsents : ProofBundleDisclosureOptions where
  disclosure_consents := none
  consent_identities := none
  resolve_identity := none
  include_receipts := none
  include_attestations := none
  verifier_or_provider := none
  purpose := none
  disclosure_purpose := none
  at_time_ms := none
  revoked_disclosure_pointers := none

def resolveConsentIdentity (options : ProofBundleDisclosureOptions) (subject : TrustID)
    (atTime : RFC3339) : Js (Option IdentityDocumentV1) := do
  let resolved ← match options.resolve_identity with
    | some resolve => resolve subject atTime
    | none => return none
  match resolved with
  | some identity => return some identity
  | none => return (options.consent_identities.getD []).find? fun identity => identity.id == subject

/-- The first ed25519 key that is active and not revoked at the time. -/
def liveEd25519Key (H : Host) (identity : Option IdentityDocumentV1) (timestamp : RFC3339) :
    Option VerificationMethodV1 :=
  match identity with
  | some identity => identity.verification_methods.find? fun method =>
      method.type = .ed25519 && keyActiveAt H method timestamp && notRevokedAt H method timestamp
  | none => none

def consentSignatureValid (H : Host) (consent : DisclosureConsentV1)
    (options : ProofBundleDisclosureOptions) : Js Bool := do
  if !(H.validateSchema .disclosureConsentV1 (.obj consent.toFields)).valid then return false
  let identity ← resolveConsentIdentity options consent.subject consent.issued_at
  match liveEd25519Key H identity consent.issued_at with
  | some key => do
    let hash ← disclosureConsentV1Hash H.noble consent
    verifyEd25519 H.noble key.public_key hash consent.signature
  | none => return false

/-- What `consentAllows` is asked. -/
structure ConsentQuestion where
  consents : Option (List DisclosureConsentV1)
  subject : TrustID
  field_classes : List JsString
  options : ProofBundleDisclosureOptions
  verifier_or_provider : Option TrustID
  purpose : Option JsString
  at_time_ms : Option (Option Int)
  revoked_disclosure_pointers : Option (List JsString)

namespace ConsentQuestion

variable (H : Host) (q : ConsentQuestion)

def time : Option Int := q.at_time_ms.getD (some H.now)

def consentGrants (consent : DisclosureConsentV1) : Js Bool := do
  if consent.subject ≠ q.subject then return false
  if !(← consentSignatureValid H consent q.options) then return false
  if truthy q.verifier_or_provider && q.verifier_or_provider ≠ some consent.verifier_or_provider then
    return false
  if truthy q.purpose && q.purpose ≠ some consent.purpose then return false
  if timeLt (q.time H) (H.parse consent.issued_at) ||
    timeLe (H.parse consent.expires_at) (q.time H) then return false
  if (q.revoked_disclosure_pointers.getD []).contains consent.revocation_pointer then return false
  return q.field_classes.all fun field => consent.allowed_field_classes.contains field &&
    !consent.forbidden_field_classes.contains field

def consentAllows : Js Bool := do
  if !truthy q.verifier_or_provider || !truthy q.purpose then return false
  anyConsent (q.consentGrants H) (q.consents.getD [])

end ConsentQuestion

section Filter

variable (H : Host)

def proofBundleAllowsFieldClass (subject : TrustID) (fieldClasses : List JsString)
    (options : ProofBundleDisclosureOptions) : Js Bool :=
  ConsentQuestion.consentAllows H {
    consents := options.disclosure_consents
    subject
    field_classes := fieldClasses
    options
    verifier_or_provider := options.verifier_or_provider
    purpose := options.purpose.or options.disclosure_purpose
    at_time_ms := options.at_time_ms
    revoked_disclosure_pointers := options.revoked_disclosure_pointers }

namespace ProofBundleV1

variable (bundle : ProofBundleV1)

def rawMessage : Option JsString := bundle.message_disclosure.toOption.bind (·.raw_message)

def contentSalt : Option JsString := bundle.message_disclosure.toOption.bind (·.content_salt)

def hasRestrictedAttestations : Bool :=
  (bundle.attestations.toOption.getD []).any fun a => a.visibility ≠ .«public»

def hasPrivateGraph : Bool :=
  match bundle.graph_feature_vector.toOption with
  | some vector => vector.privacy_disclosure_level ≠ .aggregate_only &&
      vector.privacy_disclosure_level ≠ .«public»
  | none => false

def hasPrivateMetadata : Bool :=
  (bundle.metadata_fingerprints.toOption.getD []).any fun f => f.scope_class ≠ .public_commitment

end ProofBundleV1

/-- `public || x` where only the second operand can throw. -/
def unlessPrivate (isPrivate : Bool) (x : Js Bool) : Js Bool :=
  if isPrivate then x else return true

/-- What may be disclosed of a bundle. -/
structure Disclosable where
  counterparties : Bool
  restrictedAttestations : Bool
  rawContent : Bool
  contentSalt : Bool
  privateGraph : Bool
  privateMetadata : Bool

def canDisclose (bundle : ProofBundleV1) (options : ProofBundleDisclosureOptions) :
    Js Disclosable := do
  let subject := bundle.envelope.sender
  let counterparties ← guarded (isOn options.include_receipts)
    (proofBundleAllowsFieldClass H subject [js "exact_counterparties"] options)
  let restrictedAttestations ← guarded (isOn options.include_attestations)
    (proofBundleAllowsFieldClass H subject [js "attestations"] options)
  let rawContent ← guarded (truthy bundle.rawMessage)
    (proofBundleAllowsFieldClass H subject [js "raw_content"] options)
  let contentSalt ← guarded (truthy bundle.contentSalt)
    (proofBundleAllowsFieldClass H subject [js "content_salt"] options)
  let privateGraph ← unlessPrivate bundle.hasPrivateGraph
    (proofBundleAllowsFieldClass H subject [js "private_graph"] options)
  let privateMetadata ← unlessPrivate bundle.hasPrivateMetadata
    (proofBundleAllowsFieldClass H subject [js "private_metadata"] options)
  return ⟨counterparties, restrictedAttestations, rawContent, contentSalt, privateGraph,
    privateMetadata⟩

def filterAttestations (attestations : Option (List AttestationV1)) (includeRestricted : Bool) :
    List AttestationV1 :=
  (attestations.getD []).filter fun a => a.visibility = .«public» || includeRestricted

/-- The fields that the filter lists as redacted, in the order of the code. -/
def metadataFieldsRedacted (can : Disclosable) (bundle : ProofBundleV1) : List JsString :=
  (if can.rawContent then [] else [js "raw_content"]) ++
    (if can.contentSalt then [] else [js "content_salt"]) ++
    (if can.counterparties then [] else [js "exact_counterparties"]) ++
    (if !can.restrictedAttestations && bundle.hasRestrictedAttestations then
      [js "restricted_attestations"] else []) ++
    (if !can.privateGraph && bundle.graph_feature_vector.toOption.isSome then
      [js "private_graph"] else []) ++
    (if !can.privateMetadata && nonEmptyList bundle.metadata_fingerprints.toOption then
      [js "private_metadata"] else []) ++
    [js "platform", js "ip_address", js "user_agent"]

/-- A property with a value, or none at all. -/
def JsField.ofOption : Option α → JsField α
  | some a => .value a
  | none => .absent

/-- A property that `stripUndefinedProofBundle` leaves. -/
def JsField.strip : JsField α → JsField α
  | .undefined => .absent
  | field => field

def Evidence.strip (e : Evidence JsField) : Evidence JsField where
  receipts := e.receipts.strip
  attestations := e.attestations.strip
  attestations_v2 := e.attestations_v2.strip
  receipt_disputes := e.receipt_disputes.strip
  revocations := e.revocations.strip
  settlement_evidence := e.settlement_evidence.strip
  assessment := e.assessment.strip
  assessment_v2 := e.assessment_v2.strip
  scoring_profile := e.scoring_profile.strip
  domain_policy := e.domain_policy.strip
  evidence_coverage := e.evidence_coverage.strip
  metadata_fingerprints := e.metadata_fingerprints.strip
  graph_profile := e.graph_profile.strip
  graph_feature_vector := e.graph_feature_vector.strip
  trusted_seeds := e.trusted_seeds.strip
  adversarial_seeds := e.adversarial_seeds.strip
  trusted_seed_governance := e.trusted_seed_governance.strip
  adversarial_seed_governance := e.adversarial_seed_governance.strip
  event_receivers := e.event_receivers.strip
  sybil_assessment := e.sybil_assessment.strip
  sybil_profile := e.sybil_profile.strip
  drift_report := e.drift_report.strip
  drift_feature_history := e.drift_feature_history.strip
  drift_cohort_baseline_components := e.drift_cohort_baseline_components.strip
  zk_proofs := e.zk_proofs.strip
  zk_circuit_manifests := e.zk_circuit_manifests.strip
  zk_verification_key_registry := e.zk_verification_key_registry.strip
  delegations := e.delegations.strip
  delegation_policies := e.delegation_policies.strip
  agent_actions := e.agent_actions.strip
  audit_findings := e.audit_findings.strip
  consistency_proofs := e.consistency_proofs.strip
  non_membership_proofs := e.non_membership_proofs.strip
  governance_policy := e.governance_policy.strip
  message_disclosure := e.message_disclosure.strip
  disclosure_consents := e.disclosure_consents.strip
  provider_governance_status := e.provider_governance_status.strip

def isUndefined : JsValue → Bool
  | .undefined => true
  | _ => false

/-- The bundle without what may not be disclosed. -/
def redacted (can : Disclosable) (bundle : ProofBundleV1) : ProofBundleV1 :=
  let receipts := if can.counterparties then bundle.receipts.toOption else none
  let attestations := filterAttestations bundle.attestations.toOption can.restrictedAttestations
  { bundle with
    toEvidence := { bundle.toEvidence.strip with
      receipts := .ofOption receipts
      attestations := if attestations.isEmpty then .absent else .value attestations
      metadata_fingerprints :=
        if can.privateMetadata then .ofOption bundle.metadata_fingerprints.toOption else .absent
      graph_feature_vector :=
        if can.privateGraph then .ofOption bundle.graph_feature_vector.toOption else .absent
      message_disclosure := if can.rawContent || can.contentSalt then
          .value {
            raw_message := if can.rawContent then bundle.rawMessage else none
            content_salt := if can.contentSalt then bundle.contentSalt else none }
        else .absent }
    redaction_manifest := {
      raw_content_included := can.rawContent
      content_salt_included := some can.contentSalt
      exact_counterparties_included := nonEmptyList receipts
      metadata_fields_redacted := sortStrings (metadataFieldsRedacted can bundle) }
    others := bundle.others.filter fun entry => !isUndefined entry.2 }

def filterProofBundleDisclosures (bundle : ProofBundleV1)
    (options : ProofBundleDisclosureOptions) : Js ProofBundleV1 := do
  let can ← canDisclose H bundle options
  return redacted can bundle

/-- A private part without a consent to it. -/
def withoutConsent (present : Bool) (subject : TrustID) (fieldClass : JsString)
    (options : ProofBundleDisclosureOptions) : Js Bool :=
  guarded present do
    let allowed ← proofBundleAllowsFieldClass H subject [fieldClass] options
    return !allowed

def proofBundleHasPrivateDisclosureWithoutConsent (bundle : ProofBundleV1)
    (options : ProofBundleDisclosureOptions) : Js Bool := do
  let subject := bundle.envelope.sender
  if ← withoutConsent H (nonEmptyList bundle.receipts.toOption) subject
    (js "exact_counterparties") options then return true
  if ← withoutConsent H bundle.hasRestrictedAttestations subject (js "attestations") options then
    return true
  if ← withoutConsent H (truthy bundle.rawMessage) subject (js "raw_content") options then
    return true
  if ← withoutConsent H (truthy bundle.contentSalt) subject (js "content_salt") options then
    return true
  if ← withoutConsent H bundle.hasPrivateGraph subject (js "private_graph") options then
    return true
  withoutConsent H bundle.hasPrivateMetadata subject (js "private_metadata") options

end Filter

end Continuity

import Continuity.Disclosure
import Continuity.VerifierReturns
import Continuity.VerifierSound

namespace Continuity
open Frames
set_option autoImplicit true

section Answers

theorem refuse_true {c : Prop} [Decidable c] {x : Js Bool} :
    (if c then return false else x) = .ok true ↔ ¬c ∧ x = .ok true := by
  by_cases hc : c
  · simp [hc, pure, Except.pure]
  · simp [hc]

/-- One consent is enough. -/
theorem anyConsent_true {check : DisclosureConsentV1 → Js Bool}
    {consents : List DisclosureConsentV1} (h : ∀ consent ∈ consents, Returns (check consent)) :
    anyConsent check consents = .ok true ↔ ∃ consent ∈ consents, check consent = .ok true := by
  induction consents with
  | nil =>
    constructor
    · intro hany
      cases hany
    · rintro ⟨consent, hmem, -⟩
      cases hmem
  | cons consent rest ih =>
    obtain ⟨allowed, hallowed⟩ := h consent List.mem_cons_self
    have hrest := ih fun c hc => h c (List.mem_cons_of_mem _ hc)
    rw [List.exists_mem_cons_iff, ← hrest, anyConsent, hallowed]
    cases allowed with
    | true => exact iff_of_true rfl (.inl rfl)
    | false =>
      constructor
      · exact .inr
      · rintro (hfalse | hany)
        · cases hfalse
        · exact hany

end Answers

/-- The key signed the consent. -/
def SignedWith (H : Host) (consent : DisclosureConsentV1) (key : VerificationMethodV1) : Prop :=
  ∃ hash, disclosureConsentV1Hash H.noble consent = .ok hash ∧
    verifyEd25519 H.noble key.public_key hash consent.signature = .ok true

/-- What a consent is held against. -/
structure ConsentTerms where
  subject : TrustID
  audience : Option TrustID
  purpose : Option JsString
  time : Option Int
  revoked : List JsString
  fields : List JsString

/-- The terms of the discloser. -/
def ConsentQuestion.terms (H : Host) (q : ConsentQuestion) : ConsentTerms where
  subject := q.subject
  audience := q.verifier_or_provider
  purpose := q.purpose
  time := q.time H
  revoked := q.revoked_disclosure_pointers.getD []
  fields := q.field_classes

/-- The terms of the verifier. -/
def Context.terms (C : Context) (fieldClasses : List JsString) : ConsentTerms where
  subject := C.envelope.sender
  audience := C.policy.verifier_or_provider
  purpose := C.policy.disclosure_purpose
  time := consentTime C
  revoked := C.policy.revoked_disclosure_pointers.getD []
  fields := fieldClasses

/-- The consent meets the terms, but for its expiry and its signature. -/
structure Meets (H : Host) (T : ConsentTerms) (consent : DisclosureConsentV1) : Prop where
  valid : (H.validateSchema .disclosureConsentV1 (.obj consent.toFields)).valid = true
  subject : consent.subject = T.subject
  audience : truthy T.audience = true → T.audience = some consent.verifier_or_provider
  purpose : truthy T.purpose = true → T.purpose = some consent.purpose
  begun : timeLt T.time (H.parse consent.issued_at) = false
  kept : T.revoked.contains consent.revocation_pointer = false
  covers : (T.fields.all fun field => consent.allowed_field_classes.contains field &&
    !consent.forbidden_field_classes.contains field) = true

def Unexpired (H : Host) (T : ConsentTerms) (consent : DisclosureConsentV1) : Prop :=
  timeLe (H.parse consent.expires_at) T.time = false

/-- The discloser has the signature by the first live ed25519 key. -/
def DiscloserSigned (H : Host) (q : ConsentQuestion) (consent : DisclosureConsentV1) : Prop :=
  ∃ identity key, resolveConsentIdentity q.options consent.subject consent.issued_at =
      .ok identity ∧
    liveEd25519Key H identity consent.issued_at = some key ∧ SignedWith H consent key

/-- The verifier has the signature by the first live key, of the type ed25519. -/
def VerifierSigned (C : Context) (consent : DisclosureConsentV1) : Prop :=
  ∃ identity key, C.resolver consent.subject consent.issued_at = .ok identity ∧
    liveKey C.host identity consent.issued_at = some key ∧ key.type = .ed25519 ∧
    SignedWith C.host consent key

section Discloser

variable {H : Host} {q : ConsentQuestion} {consent : DisclosureConsentV1}

theorem verified_true {key : VerificationMethodV1} :
    (do let hash ← disclosureConsentV1Hash H.noble consent
        verifyEd25519 H.noble key.public_key hash consent.signature) = .ok true ↔
      SignedWith H consent key :=
  bind_eq_ok

theorem consentSignatureValid_true : consentSignatureValid H consent q.options = .ok true ↔
    (H.validateSchema .disclosureConsentV1 (.obj consent.toFields)).valid = true ∧
      DiscloserSigned H q consent := by
  unfold consentSignatureValid
  rw [refuse_true, bind_eq_ok, Bool.not_eq_true', Bool.not_eq_false]
  apply and_congr_right
  intro _
  apply exists_congr
  intro identity
  rw [exists_and_left]
  apply and_congr_right
  intro _
  cases hkey : liveEd25519Key H identity consent.issued_at with
  | none => simp [pure, Except.pure]
  | some key =>
    simp only [Option.some.injEq, exists_eq_left']
    exact verified_true

theorem consentGrants_true : q.consentGrants H consent = .ok true ↔
    Meets H (q.terms H) consent ∧ Unexpired H (q.terms H) consent ∧
      DiscloserSigned H q consent := by
  unfold ConsentQuestion.consentGrants
  rw [refuse_true, bind_eq_ok]
  simp only [refuse_true, Bool.and_eq_true, decide_eq_true_eq, not_not, Bool.or_eq_true, not_or,
    not_and, Bool.not_eq_true, Bool.not_eq_false']
  constructor
  · rintro ⟨hsubject, signed, hs, rfl, haudience, hpurpose, ⟨hbegun, hunexpired⟩, hkept, hcovers⟩
    obtain ⟨hvalid, hsigned⟩ := consentSignatureValid_true.mp hs
    exact ⟨⟨hvalid, hsubject, haudience, hpurpose, hbegun, hkept, Except.ok.inj hcovers⟩,
      hunexpired, hsigned⟩
  · rintro ⟨hm, hunexpired, hsigned⟩
    exact ⟨hm.subject, true, consentSignatureValid_true.mpr ⟨hm.valid, hsigned⟩, rfl, hm.audience,
      hm.purpose, ⟨hm.begun, hunexpired⟩, hm.kept, congrArg Except.ok hm.covers⟩

theorem consentGrants_returns (hd : consent.subject = q.subject →
      Returns (resolveConsentIdentity q.options consent.subject consent.issued_at)) :
    Returns (q.consentGrants H consent) := by
  unfold ConsentQuestion.consentGrants
  apply Returns.early
  intro hsubject
  apply Returns.bind
  · unfold consentSignatureValid
    apply Returns.early
    intro _
    apply Returns.bind (hd (not_not.mp hsubject))
    intro identity _
    split
    · apply Returns.bind (hashSignedObject_returns
        (encodable_withoutSignature (consent_encodable consent)) _ _)
      intro hash hhash
      obtain ⟨bytes, rfl⟩ := hashSignedObject_hex hhash
      exact verifyEd25519_returns (returns_bytesToHex bytes) _ _ _
    · exact Returns.pure _
  · intro signed _
    iterate 5
      apply Returns.early
      intro _
    exact Returns.pure _

end Discloser

theorem verifierConsent_true {C : Context} {consent : DisclosureConsentV1} :
    consentAllows C fields consent = .ok true ↔
      Meets C.host (C.terms fields) consent ∧ Unexpired C.host (C.terms fields) consent ∧
        VerifierSigned C consent := by
  unfold consentAllows
  simp only [refuse_true, Bool.and_eq_true, decide_eq_true_eq, not_not, Bool.or_eq_true, not_or,
    not_and, Bool.not_eq_true, Bool.not_eq_false', bind_eq_ok]
  constructor
  · rintro ⟨⟨hvalid, hsubject⟩, ⟨hbegun, hunexpired⟩, haudience, hpurpose, hkept, hcovers,
      identity, hi, hs⟩
    obtain ⟨key, hash, hkey, htype, hhash, hverified⟩ := signedBy_true.mp hs
    exact ⟨⟨hvalid, hsubject, haudience, hpurpose, hbegun, hkept, hcovers⟩, hunexpired,
      identity, key, hi, hkey, htype, hash, hhash, hverified⟩
  · rintro ⟨hm, hunexpired, identity, key, hi, hkey, htype, hash, hhash, hverified⟩
    exact ⟨⟨hm.valid, hm.subject⟩, ⟨hm.begun, hunexpired⟩, hm.audience, hm.purpose, hm.kept,
      hm.covers, identity, hi, signedBy_true.mpr ⟨key, hash, hkey, htype, hhash, hverified⟩⟩

/-- The consent meets named terms and has not expired. -/
structure Stands (H : Host) (T : ConsentTerms) (consent : DisclosureConsentV1) : Prop
    extends Meets H T consent where
  named : truthy T.audience = true ∧ truthy T.purpose = true
  unexpired : Unexpired H T consent

/-- The discloser and the verifier are asked the same, with the same documents of the subject. -/
structure AskAlike (C : Context) (q : ConsentQuestion)
    (document : RFC3339 → Option IdentityDocumentV1) : Prop where
  terms : q.terms C.host = C.terms q.field_classes
  consents : q.consents.getD [] = C.input.disclosure_consents.getD []
  discloser : ∀ timestamp,
    resolveConsentIdentity q.options q.subject timestamp = .ok (document timestamp)
  verifier : ∀ timestamp, C.resolver q.subject timestamp = .ok (document timestamp)

section Both

variable {C : Context} {q : ConsentQuestion} {document : RFC3339 → Option IdentityDocumentV1}

/-- The discloser takes a consent by the first live ed25519 key. -/
theorem discloser_allows {H : Host} (hd : ∀ timestamp,
    resolveConsentIdentity q.options q.subject timestamp = .ok (document timestamp)) :
    Returns (q.consentAllows H) ∧
    (q.consentAllows H = .ok true ↔ ∃ consent ∈ q.consents.getD [], ∃ key,
      Stands H (q.terms H) consent ∧
      liveEd25519Key H (document consent.issued_at) consent.issued_at = some key ∧
      SignedWith H consent key) := by
  have hanswers (consent : DisclosureConsentV1) : Returns (q.consentGrants H consent) := by
    apply consentGrants_returns
    intro hsubject
    rw [hsubject]
    exact ⟨_, hd _⟩
  unfold ConsentQuestion.consentAllows
  constructor
  · apply Returns.early
    intro _
    exact anyConsent_returns hanswers _
  · rw [refuse_true, anyConsent_true fun consent _ => hanswers consent]
    simp only [Bool.or_eq_true, not_or, Bool.not_eq_true', Bool.not_eq_false, consentGrants_true]
    constructor
    · rintro ⟨hnamed, consent, hmem, hm, hunexpired, identity, key, hi, hkey, hs⟩
      rw [hm.subject, show (q.terms H).subject = q.subject from rfl, hd, Except.ok.injEq] at hi
      rw [← hi] at hkey
      exact ⟨consent, hmem, key, ⟨hm, hnamed, hunexpired⟩, hkey, hs⟩
    · rintro ⟨consent, hmem, key, hst, hkey, hs⟩
      refine ⟨hst.named, consent, hmem, hst.toMeets, hst.unexpired, _, key, ?_, hkey, hs⟩
      rw [hst.subject]
      exact hd _

theorem verifierConsent_returns (h : AskAlike C q document) (consent : DisclosureConsentV1) :
    Returns (consentAllows C q.field_classes consent) := by
  have hsame : q.subject = C.envelope.sender := congrArg ConsentTerms.subject h.terms
  unfold consentAllows
  apply Returns.early
  intro hsubject
  iterate 5
    apply Returns.early
    intro _
  rw [← hsame, Bool.or_eq_true, not_or, decide_eq_true_eq, not_not] at hsubject
  rw [hsubject.2, h.verifier]
  exact signedObject_returns
    (fun _ => encodable_withoutSignature (consent_encodable consent)) _ _ _ _

/-- The verifier takes a consent by the first live key of any type. -/
theorem verifier_allows (h : AskAlike C q document) :
    Returns (disclosureConsentAllows C q.field_classes) ∧
    (disclosureConsentAllows C q.field_classes = .ok true ↔
      ∃ consent ∈ q.consents.getD [], ∃ key, Stands C.host (q.terms C.host) consent ∧
        liveKey C.host (document consent.issued_at) consent.issued_at = some key ∧
        key.type = .ed25519 ∧ SignedWith C.host consent key) := by
  unfold disclosureConsentAllows
  rw [← h.consents]
  constructor
  · apply Returns.early
    intro _
    exact anyConsent_returns (verifierConsent_returns h) _
  · rw [refuse_true, anyConsent_true fun consent _ => verifierConsent_returns h consent, h.terms]
    simp only [Bool.or_eq_true, not_or, Bool.not_eq_true', Bool.not_eq_false, verifierConsent_true]
    have hsame : (C.terms q.field_classes).subject = q.subject :=
      (congrArg ConsentTerms.subject h.terms).symm
    constructor
    · rintro ⟨hnamed, consent, hmem, hm, hunexpired, identity, key, hi, hkey, htype, hs⟩
      rw [hm.subject, hsame, h.verifier, Except.ok.injEq] at hi
      rw [← hi] at hkey
      exact ⟨consent, hmem, key, ⟨hm, hnamed, hunexpired⟩, hkey, htype, hs⟩
    · rintro ⟨consent, hmem, key, hst, hkey, htype, hs⟩
      refine ⟨hst.named, consent, hmem, hst.toMeets, hst.unexpired, _, key, ?_, hkey, htype, hs⟩
      rw [hst.subject, hsame]
      exact h.verifier _

end Both

section Keys

end Keys

/-- A standing consent that the subject's first live ed25519 key signed. -/
def ConsentOpens (H : Host) (T : ConsentTerms) (document : RFC3339 → Option IdentityDocumentV1)
    (consent : DisclosureConsentV1) (key : VerificationMethodV1) : Prop :=
  Stands H T consent ∧
    liveEd25519Key H (document consent.issued_at) consent.issued_at = some key ∧
    SignedWith H consent key

/-- A consent of the sample sender to the disclosure of attestations in an audit. -/
def auditConsent : DisclosureConsentV1 where
  subject := js "did:tsl:alice"
  verifier_or_provider := js "did:tsl:bob"
  allowed_field_classes := [js "attestations"]
  forbidden_field_classes := []
  purpose := js "audit"
  issued_at := js "2026-05-01T00:00:00Z"
  expires_at := js "2026-06-01T00:00:00Z"
  revocation_pointer := js "alice:1"
  signature := bytesToHex (
    bigEndian 32 0x484ea92731c9a88c08be693a8099dafd82762a613ea0bc68f4cd60c96567bc8f ++
    bigEndian 32 0x98b299e79abdb651895829ea15a328bbafee958c9885b42e6da246bf3f58d000)

/-- A host that knows the digest of a consent and its signature by the sample sender. -/
def consentHost (consent : DisclosureConsentV1) (digest : Nat) : Host :=
  sampleHost (recorded
    [(domainMessage V2_DOMAIN_TAGS.DISCLOSURE_CONSENT_V1
      (valueBytes (.obj (withoutSignature consent.toFields))), bigEndian 32 digest)]
    [(hexBytes consent.signature, bigEndian 32 digest,
      bigEndian 32 0x8a88e3dd7409f195fd52db2d3cba5d72ca6709bf1d94121bf3748801b40f6f5c)]
    fun _ => List.replicate 32 255)

def auditHost : Host :=
  consentHost auditConsent 0x3ad4ff535fb145bbb9463c658442d68e82c7c3acfaa64c467c04a75fb3157005

/-- An audit of the sample event by a verifier with one consent. -/
def auditContext (H : Host) (consent : DisclosureConsentV1) (document : IdentityDocumentV1) :
    Context where
  host := H
  tools := sampleTools
  resolver _ _ := return some document
  policy := { emptyPolicy.withDefaults with
    verifier_or_provider := some (js "did:tsl:bob")
    disclosure_purpose := some (js "audit")
    disclosure_checked_at := some (js "2026-05-25T00:00:00Z") }
  backend := none
  input := {
    toEvidence := { Evidence.fill (F := Option) fun _ => none with
      disclosure_consents := some [consent] }
    proof_bundle := none
    envelope := some sampleEnvelope
    proof := none
    receipt_proofs := none
    checkpoint := none
    redaction_manifest := none }
  envelope := sampleEnvelope
  commitmentHash := sampleCommitment
  legacyCommitmentHash := sampleCommitment

/-- The same question to the discloser. -/
def auditQuestion (consent : DisclosureConsentV1) (document : IdentityDocumentV1) :
    ConsentQuestion where
  consents := some [consent]
  subject := js "did:tsl:alice"
  field_classes := [js "attestations"]
  options := { noConsents with resolve_identity := some fun _ _ => return some document }
  verifier_or_provider := some (js "did:tsl:bob")
  purpose := some (js "audit")
  at_time_ms := some (some 1779667200000)
  revoked_disclosure_pointers := none

/-- The subject with a live smart account before the signing key. -/
def accountIdentity : IdentityDocumentV1 :=
  { aliceIdentity with verification_methods :=
      { sampleKey (js "#account") 0 with type := .smart_account } ::
        aliceIdentity.verification_methods }

end Continuity

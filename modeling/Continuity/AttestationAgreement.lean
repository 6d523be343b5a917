import Continuity.ConsentAgreement
import Continuity.GraphHash
import Continuity.VerifierSigners

namespace Continuity
open Collections Frames
set_option autoImplicit true

/-- A verifier and a construction of the graph that look at the same world. -/
structure SameWorld (C : Context) (E : Engine) (input : GraphEvidence) : Prop where
  host : E.host = C.host
  resolver : input.resolver = C.resolver
  empty : C.host.parse [] = none

/-- An attestation about the sender whose window and policy leave only the signature to check. -/
structure Admissible (C : Context) (E : Engine) (input : GraphEvidence)
    (attestation : AttestationV1) : Prop where
  valid : (C.validate .attestation (.obj attestation.toFields)).valid = true
  subject : attestation.subject = C.envelope.sender
  unexpired : attestationExpired E input attestation = false
  allowed : ∀ hash, attestationHash C.noble attestation = .ok hash → negativeEvidenceAllowed
    (attestationEdge E input attestation hash) input.graph_profile = true

structure AdmissibleV2 (C : Context) (E : Engine) (input : GraphEvidence)
    (attestation : AttestationV2) : Prop where
  valid : (C.validate .attestationV2 (.obj attestation.toFields)).valid = true
  inside : attestationV2Outside E input attestation = false
  allowed : ∀ hash, attestationV2Hash C.noble attestation = .ok hash → negativeEvidenceAllowed
    (attestationV2Edge E input attestation hash) input.graph_profile = true

def Accepts (check : Js ItemResult) : Prop := ∃ item, check = .ok item ∧ item.valid = true

def MakesEdge (edges : Js (List GraphEdgeV0)) : Prop := ∃ edge, edges = .ok [edge]

/-- The first key of the signer that is active at the time verifies the signature. -/
def FirstKeySigned (H : Host) (resolver : TrustResolver) (signer : TrustID) (timestamp : RFC3339)
    (hash : Js Hex32) (signature : HexSig) : Prop :=
  ∃ identity, resolver signer timestamp = .ok identity ∧
    signedBy H (activeKey H identity timestamp) hash signature = .ok true

/-- The key that a signer is said to have signed with verifies the signature. -/
def KeySigned (H : Host) (resolver : TrustResolver) (signer : TrustID) (keyId : JsString)
    (timestamp : RFC3339) (hash : Js Hex32) (signature : HexSig) (key : VerificationMethodV1) :
    Prop :=
  ∃ identity h, resolver signer timestamp = .ok (some identity) ∧
    findVerificationMethod identity keyId = some key ∧ key.type = .ed25519 ∧ hash = .ok h ∧
    verifyEd25519 H.noble key.public_key h signature = .ok true

theorem KeySigned.unique {hash : Js Hex32}
    (h : KeySigned H resolver signer keyId timestamp hash signature key)
    (h' : KeySigned H resolver signer keyId timestamp hash signature other) : key = other := by
  obtain ⟨identity, c, hr, hkey, -⟩ := h
  obtain ⟨identity', c', hr', hkey', -⟩ := h'
  cases hr.symm.trans hr'
  exact Option.some.inj (hkey.symm.trans hkey')

theorem hashSignedObject_hexes (h : hashSignedObject N tag value = .ok c) :
    Returns (hexToBytes c) := by
  obtain ⟨bytes, rfl⟩ := hashSignedObject_hex h
  exact returns_bytesToHex bytes

/-- A key that is active at a time is not revoked then. -/
theorem notRevokedAt_of_active (he : H.parse [] = none) (h : keyActiveAt H key timestamp = true) :
    notRevokedAt H key timestamp = true := by
  have hne : timestamp ≠ [] := by
    rintro rfl
    rw [keyActiveAt, he] at h
    cases h
  unfold keyActiveAt at h
  split at h
  · rename_i at_ created hat hcreated
    simp only [Bool.and_eq_true] at h
    have hstatus := h.1.2
    unfold notRevokedAt
    cases hs : key.status with
    | active => rfl
    | expired => rfl
    | revoked =>
      rw [hs] at hstatus
      simp only [Bool.and_eq_true, laterThan] at hstatus
      obtain ⟨ht, hlater⟩ := hstatus
      cases hr : H.parse (key.revoked_at.getD []) with
      | none => rw [hr] at hlater; cases hlater
      | some limit =>
        rw [hr] at hlater
        simpa [ht, hat, hr, timeLt, List.isEmpty_iff, hne] using hlater
  · cases h

theorem anyM_true {f : α → Js Bool} {xs : List α} (hf : ∀ x ∈ xs, Returns (f x)) :
    xs.anyM f = .ok true ↔ ∃ x ∈ xs, f x = .ok true := by
  induction xs with
  | nil => simp [pure, Except.pure]
  | cons x xs ih =>
    obtain ⟨b, hb⟩ := hf x List.mem_cons_self
    have hrest := ih fun y hy => hf y (List.mem_cons_of_mem _ hy)
    simp only [List.anyM_cons, hb, bind, Except.bind, List.mem_cons, exists_eq_or_imp, Except.ok.injEq]
    cases b with
    | true => simp [pure, Except.pure]
    | false => simpa using hrest

section Keys

variable {H : Host} {resolver : TrustResolver} {hash : Hex32}

/-- The test of one key that the construction of the graph makes. -/
theorem keyTest_true (he : H.parse [] = none) (key : VerificationMethodV1) (x : Js Bool) :
    guarded (key.type = .ed25519 && keyActiveAt H key timestamp && notRevokedAt H key timestamp)
      x = .ok true ↔ key.type = .ed25519 ∧ keyActiveAt H key timestamp = true ∧ x = .ok true := by
  rw [guarded_true]
  simp only [Bool.and_eq_true, decide_eq_true_eq]
  constructor
  · rintro ⟨⟨⟨ht, ha⟩, -⟩, hx⟩
    exact ⟨ht, ha, hx⟩
  · rintro ⟨ht, ha, hx⟩
    exact ⟨⟨⟨ht, ha⟩, notRevokedAt_of_active he ha⟩, hx⟩

theorem identityHasValidSignature_true (he : H.parse [] = none) :
    identityHasValidSignature H resolver signer keyId timestamp hash signature = .ok true ↔
      ∃ identity key, resolver signer timestamp = .ok (some identity) ∧
        findVerificationMethod identity keyId = some key ∧ key.type = .ed25519 ∧
        keyActiveAt H key timestamp = true ∧
        verifyEd25519 H.noble key.public_key hash signature = .ok true := by
  rw [identityHasValidSignature, bind_eq_ok]
  constructor
  · rintro ⟨document, hr, h⟩
    cases document with
    | none => cases h
    | some identity =>
      cases hkey : findVerificationMethod identity keyId with
      | none =>
        simp only [namedKey, hkey] at h
        cases h
      | some key =>
        simp only [namedKey, hkey] at h
        exact ⟨identity, key, hr, hkey, (keyTest_true he key _).mp h⟩
  · rintro ⟨identity, key, hr, hkey, h⟩
    refine ⟨some identity, hr, ?_⟩
    simp only [namedKey, hkey]
    exact (keyTest_true he key _).mpr h

theorem identityHasAnyActiveSignature_true (he : H.parse [] = none)
    (hh : Returns (hexToBytes hash)) :
    identityHasAnyActiveSignature H resolver signer timestamp hash signature = .ok true ↔
      ∃ identity key, resolver signer timestamp = .ok (some identity) ∧
        key ∈ identity.verification_methods ∧ key.type = .ed25519 ∧
        keyActiveAt H key timestamp = true ∧
        verifyEd25519 H.noble key.public_key hash signature = .ok true := by
  have hany : ∀ identity : IdentityDocumentV1, (identity.verification_methods.anyM fun method =>
      guarded (method.type = .ed25519 && keyActiveAt H method timestamp &&
        notRevokedAt H method timestamp) (verifyEd25519 H.noble method.public_key hash
          signature)) = .ok true ↔ ∃ key ∈ identity.verification_methods, key.type = .ed25519 ∧
        keyActiveAt H key timestamp = true ∧
        verifyEd25519 H.noble key.public_key hash signature = .ok true := by
    intro identity
    rw [anyM_true fun key _ => guarded_returns fun _ => verifyEd25519_returns hh _ _ _]
    simp only [keyTest_true he]
  rw [identityHasAnyActiveSignature, bind_eq_ok]
  constructor
  · rintro ⟨document, hr, h⟩
    cases document with
    | none => cases h
    | some identity =>
      obtain ⟨key, hkey, hsigned⟩ := (hany identity).mp h
      exact ⟨identity, key, hr, hkey, hsigned⟩
  · rintro ⟨identity, key, hr, hkey, hsigned⟩
    exact ⟨some identity, hr, (hany identity).mpr ⟨key, hkey, hsigned⟩⟩

end Keys

/-- A construction accepts an item that it has a hash of, a signature and a place for. -/
theorem makesEdge_iff {hash : Js Hex32} {signed : Hex32 → Js Bool} {made : Hex32 → GraphEdgeV0}
    (ha : ∀ value, hash = .ok value →
      negativeEvidenceAllowed (made value) input.graph_profile = true) :
    MakesEdge (do
      let hash ← hash
      let valid ← signed hash
      if !valid || false then return []
      admitted input (made hash)) ↔ ∃ value, hash = .ok value ∧ signed value = .ok true := by
  constructor
  · rintro ⟨edge, h⟩
    obtain ⟨value, hvalue, hs, -⟩ := (mem_hashed h).mp (List.mem_singleton_self edge)
    exact ⟨value, hvalue, hs⟩
  · rintro ⟨value, hvalue, hs⟩
    refine ⟨made value, ?_⟩
    rw [hvalue]
    simp only [bind, Except.bind, hs, Bool.not_true, Bool.or_self, Bool.false_eq_true, if_false,
      admitted, ha value hvalue, if_true, pure, Except.pure]

section Sides

variable {C : Context} {E : Engine} {input : GraphEvidence}

theorem checkAttestation_accepts {attestation : AttestationV1}
    (hv : (C.validate .attestation (.obj attestation.toFields)).valid = true)
    (hs : attestation.subject = C.envelope.sender) :
    Accepts (checkAttestation C attestation) ↔ FirstKeySigned C.host C.resolver attestation.issuer
      attestation.issued_at (attestationHash C.noble attestation) attestation.signature := by
  rw [checkAttestation]
  simp only [hv, Bool.not_true, Bool.false_eq_true, if_false]
  constructor
  · rintro ⟨item, h, hvalid⟩
    obtain ⟨identity, hr, h⟩ := bind_eq_ok.mp h
    obtain ⟨valid, hg, h⟩ := bind_eq_ok.mp h
    cases h
    obtain rfl : valid = true := hvalid
    exact ⟨identity, hr, (guarded_true.mp hg).2⟩
  · rintro ⟨identity, hr, hsigned⟩
    exact ⟨⟨true, []⟩, bind_eq_ok.mpr ⟨identity, hr, bind_eq_ok.mpr
      ⟨true, guarded_true.mpr ⟨decide_eq_true hs, hsigned⟩, rfl⟩⟩, rfl⟩

theorem checkAttestationV2_accepts {attestation : AttestationV2}
    (hv : (C.validate .attestationV2 (.obj attestation.toFields)).valid = true) :
    Accepts (checkAttestationV2 C attestation) ↔ attestation.subject = C.envelope.sender ∧
      ∃ key, KeySigned C.host C.resolver attestation.issuer attestation.signing_key_id
        attestation.issued_at (attestationV2Hash C.noble attestation) attestation.signature key := by
  rw [checkAttestationV2]
  simp only [hv, Bool.not_true, Bool.false_eq_true, if_false]
  constructor
  · rintro ⟨item, h, hvalid⟩
    obtain ⟨identity, hr, h⟩ := bind_eq_ok.mp h
    obtain ⟨valid, hg, h⟩ := bind_eq_ok.mp h
    cases h
    obtain rfl : valid = true := hvalid
    obtain ⟨hs, hsigned⟩ := guarded_true.mp hg
    obtain ⟨key, hash, hkey, ht, hh, hverified⟩ := signedBy_true.mp hsigned
    cases identity with
    | none => cases hkey
    | some identity =>
      exact ⟨of_decide_eq_true hs, key, identity, hash, hr, hkey, ht, hh, hverified⟩
  · rintro ⟨hs, key, identity, hash, hr, hkey, ht, hh, hverified⟩
    have hsigned := signedBy_true.mpr ⟨key, hash, hkey, ht, hh, hverified⟩
    exact ⟨⟨true, []⟩, bind_eq_ok.mpr ⟨some identity, hr, bind_eq_ok.mpr
      ⟨true, guarded_true.mpr ⟨decide_eq_true hs, hsigned⟩, rfl⟩⟩, rfl⟩

variable (h : SameWorld C E input)
include h

theorem attestationEdges_makes {attestation : AttestationV1}
    (ho : attestationExpired E input attestation = false)
    (ha : ∀ hash, attestationHash C.noble attestation = .ok hash → negativeEvidenceAllowed
      (attestationEdge E input attestation hash) input.graph_profile = true) :
    MakesEdge (attestationEdges E input attestation) ↔ LiveSigned C.host C.resolver
      attestation.issuer attestation.issued_at (attestationHash C.noble attestation)
      attestation.signature := by
  rw [attestationEdges, ho, h.host]
  refine (makesEdge_iff ha).trans ?_
  constructor
  · rintro ⟨hash, hh, hsigned⟩
    rw [attestationGraphSigned, h.host, h.resolver,
      identityHasAnyActiveSignature_true h.empty (hashSignedObject_hexes hh)] at hsigned
    obtain ⟨identity, key, hr, hkey, ht, hactive, hverified⟩ := hsigned
    exact ⟨identity, key, hash, hr, hkey, ht, hactive, hh, hverified⟩
  · rintro ⟨identity, key, hash, hr, hkey, ht, hactive, hh, hverified⟩
    refine ⟨hash, hh, ?_⟩
    rw [attestationGraphSigned, h.host, h.resolver,
      identityHasAnyActiveSignature_true h.empty (hashSignedObject_hexes hh)]
    exact ⟨identity, key, hr, hkey, ht, hactive, hverified⟩

theorem attestationV2Edges_makes {attestation : AttestationV2}
    (ho : attestationV2Outside E input attestation = false)
    (ha : ∀ hash, attestationV2Hash C.noble attestation = .ok hash → negativeEvidenceAllowed
      (attestationV2Edge E input attestation hash) input.graph_profile = true) :
    MakesEdge (attestationV2Edges E input attestation) ↔
      ∃ key, KeySigned C.host C.resolver attestation.issuer attestation.signing_key_id
        attestation.issued_at (attestationV2Hash C.noble attestation) attestation.signature key ∧
        keyActiveAt C.host key attestation.issued_at = true := by
  rw [attestationV2Edges, ho, h.host]
  refine (makesEdge_iff ha).trans ?_
  simp only [attestationV2GraphSigned, h.host, h.resolver, identityHasValidSignature_true h.empty]
  constructor
  · rintro ⟨hash, hh, identity, key, hr, hkey, ht, hactive, hverified⟩
    exact ⟨key, ⟨identity, hash, hr, hkey, ht, hh, hverified⟩, hactive⟩
  · rintro ⟨key, ⟨identity, hash, hr, hkey, ht, hh, hverified⟩, hactive⟩
    exact ⟨hash, hh, identity, key, hr, hkey, ht, hactive, hverified⟩

/-- The verifier and the graph agree on a first version attestation exactly when no active key
signed it that the first active key hides, and on a second version one exactly when the key that
signed it is active, as far as the attestation is about the sender. -/
theorem attestations_agree :
    (∀ attestation, Admissible C E input attestation →
      ((Accepts (checkAttestation C attestation) ↔
        MakesEdge (attestationEdges E input attestation)) ↔
        (LiveSigned C.host C.resolver attestation.issuer attestation.issued_at
          (attestationHash C.noble attestation) attestation.signature →
        FirstKeySigned C.host C.resolver attestation.issuer attestation.issued_at
          (attestationHash C.noble attestation) attestation.signature))) ∧
    ∀ attestation, AdmissibleV2 C E input attestation →
      ((Accepts (checkAttestationV2 C attestation) ↔
        MakesEdge (attestationV2Edges E input attestation)) ↔
        ∀ key, KeySigned C.host C.resolver attestation.issuer attestation.signing_key_id
          attestation.issued_at (attestationV2Hash C.noble attestation) attestation.signature key →
          (attestation.subject = C.envelope.sender ↔
            keyActiveAt C.host key attestation.issued_at = true)) := by
  refine ⟨fun attestation ha => ?_, fun attestation ha => ?_⟩
  · rw [checkAttestation_accepts ha.valid ha.subject,
      attestationEdges_makes h ha.unexpired ha.allowed]
    constructor
    · exact fun hagree => hagree.mpr
    · intro himp
      refine ⟨?_, himp⟩
      rintro ⟨identity, hr, hsigned⟩
      exact liveSigned_of_active hr hsigned
  · rw [checkAttestationV2_accepts ha.valid, attestationV2Edges_makes h ha.inside ha.allowed]
    constructor
    · rintro hagree key hsigned
      constructor
      · intro hsubject
        obtain ⟨other, hother, hactive⟩ := hagree.mp ⟨hsubject, key, hsigned⟩
        exact hsigned.unique hother ▸ hactive
      · exact fun hactive => (hagree.mpr ⟨key, hsigned, hactive⟩).1
    · intro hall
      constructor
      · rintro ⟨hsubject, key, hsigned⟩
        exact ⟨key, hsigned, (hall key hsigned).mp hsubject⟩
      · rintro ⟨key, hsigned, hactive⟩
        exact ⟨(hall key hsigned).mpr hactive, key, hsigned⟩

end Sides

/-- A verification for bob, with one document of every identity. -/
def recipientContext (N : Noble) (document : IdentityDocumentV1) : Context :=
  { auditContext (sampleHost N) auditConsent document with
    envelope := { sampleEnvelope with sender := js "did:tsl:bob" } }

/-- The evidence of both versions, with the same document of every identity. -/
def recipientEvidence (document : IdentityDocumentV1) : GraphEvidence :=
  { vouchingEvidence [firstVouching] with
    attestations_v2 := some [endorsement]
    resolver := fun _ _ => return some document }

theorem recipient_sameWorld (N : Noble) (document : IdentityDocumentV1) :
    SameWorld (recipientContext N document) (sampleEngine N) (recipientEvidence document) where
  host := rfl
  resolver := rfl
  empty := by
    show dateParse (fun _ => none) [] = none
    decide

/-- The document of alice after the revocation of her key. -/
def revokedIdentity : IdentityDocumentV1 :=
  { aliceIdentity with verification_methods := aliceIdentity.verification_methods.map fun key =>
      { key with status := .revoked, revoked_at := some (js "2026-05-01T00:00:00Z") } }

theorem recipient_admissible (N : Noble) (document : IdentityDocumentV1) :
    Admissible (recipientContext N document) (sampleEngine N) (recipientEvidence document)
      firstVouching :=
  ⟨rfl, rfl, rfl, fun _ _ => rfl⟩

theorem recipient_admissibleV2 (N : Noble) (document : IdentityDocumentV1) :
    AdmissibleV2 (recipientContext N document) (sampleEngine N) (recipientEvidence document)
      endorsement where
  valid := rfl
  inside := by
    show (timeLt (dateParse (fun _ => none) (js "2026-05-25T00:00:00Z"))
        (dateParse (fun _ => none) endorsement.valid_after) ||
      timeLe (dateParse (fun _ => none) endorsement.expires_at)
        (dateParse (fun _ => none) (js "2026-05-25T00:00:00Z"))) = false
    decide
  allowed _ _ := rfl

theorem activeKey_single (h : keyActiveAt H key timestamp = true) :
    activeKey H (some (sampleIdentity owner key)) timestamp = some key :=
  List.find?_cons_of_pos (p := fun method => keyActiveAt H method timestamp) h

/-- With one active key of the issuer both take the attestation. -/
theorem attestations_agree_sample :
    Accepts (checkAttestation (recipientContext vouchingNoble aliceIdentity) firstVouching) ↔
      MakesEdge (attestationEdges (sampleEngine vouchingNoble) (recipientEvidence aliceIdentity)
        firstVouching) := by
  refine ((attestations_agree (recipient_sameWorld _ _)).1 firstVouching
    (recipient_admissible _ _)).mpr ?_
  rintro ⟨identity, key, hash, hr, hkey, ht, hactive, hh, hverified⟩
  cases hr
  obtain rfl := List.mem_singleton.mp hkey
  exact ⟨_, rfl, signedBy_true.mpr ⟨_, hash, activeKey_single hactive, ht, hh, hverified⟩⟩

/-- With a live smart account before her key alice's attestation makes an edge and is not accepted;
with her key revoked her second version attestation is accepted and makes no edge. -/
theorem attestations_disagree :
    (Admissible (recipientContext vouchingNoble accountIdentity) (sampleEngine vouchingNoble)
        (recipientEvidence accountIdentity) firstVouching ∧
      ¬Accepts (checkAttestation (recipientContext vouchingNoble accountIdentity)
        firstVouching) ∧
      MakesEdge (attestationEdges (sampleEngine vouchingNoble) (recipientEvidence accountIdentity)
        firstVouching)) ∧
    AdmissibleV2 (recipientContext endorsementNoble revokedIdentity)
        (sampleEngine endorsementNoble) (recipientEvidence revokedIdentity) endorsement ∧
      Accepts (checkAttestationV2 (recipientContext endorsementNoble revokedIdentity)
        endorsement) ∧
      ¬MakesEdge (attestationV2Edges (sampleEngine endorsementNoble)
        (recipientEvidence revokedIdentity) endorsement) := by
  have hrun : (ItemResult.valid <$> checkAttestation
        (recipientContext vouchingNoble accountIdentity) firstVouching = .ok false ∧
      List.length <$> attestationEdges (sampleEngine vouchingNoble)
        (recipientEvidence accountIdentity) firstVouching = .ok 1) ∧
      ItemResult.valid <$> checkAttestationV2 (recipientContext endorsementNoble revokedIdentity)
        endorsement = .ok true ∧
      List.length <$> attestationV2Edges (sampleEngine endorsementNoble)
        (recipientEvidence revokedIdentity) endorsement = .ok 0 := by
    decide +kernel
  obtain ⟨⟨hitem, hedges⟩, hitem₂, hedges₂⟩ := hrun
  obtain ⟨item, hok, hvalid⟩ := map_eq_ok.mp hitem
  obtain ⟨edges, hmade, hlength⟩ := map_eq_ok.mp hedges
  obtain ⟨item₂, hok₂, hvalid₂⟩ := map_eq_ok.mp hitem₂
  obtain ⟨edges₂, hmade₂, hlength₂⟩ := map_eq_ok.mp hedges₂
  refine ⟨⟨recipient_admissible _ _, ?_, ?_⟩, recipient_admissibleV2 _ _, ⟨item₂, hok₂, hvalid₂⟩,
    ?_⟩
  · rintro ⟨other, hother, htrue⟩
    cases hok.symm.trans hother
    cases hvalid.symm.trans htrue
  · obtain ⟨edge, rfl⟩ := List.length_eq_one_iff.mp hlength
    exact ⟨edge, hmade⟩
  · rintro ⟨edge, he⟩
    cases hmade₂.symm.trans he
    cases hlength₂

end Continuity

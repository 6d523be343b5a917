import Continuity.VerifierReturns

namespace Continuity
open Frames
set_option autoImplicit true

/-- One byte string starts the other. -/
def Overlap (a b : Bytes) : Prop := a <+: b ∨ b <+: a

theorem overlap_iff : Overlap a b ↔ ∃ r s : Bytes, a ++ r = b ++ s := by
  constructor
  · rintro (⟨r, h⟩ | ⟨s, h⟩)
    · exact ⟨r, [], by rw [h, List.append_nil]⟩
    · exact ⟨[], s, by rw [h, List.append_nil]⟩
  · rintro ⟨r, s, h⟩
    exact List.prefix_or_prefix_of_prefix ⟨r, h⟩ (List.prefix_append b s)

/-- A commitment to a text: the salt follows the text without a mark between them. -/
def textCommitment (N : Noble) (tag text saltHex : JsString) : Js Hex32 := do
  let salt ← hexToBytes saltHex
  return hashDomain N tag (textEncode text ++ salt)

/-- Whatever salts are used, equal commitments have equal first arguments. -/
def Binds (commit : α → JsString → Js Hex32) (same : α → α → Prop) (a b : α) : Prop :=
  ∀ salt salt' c, commit a salt = .ok c → commit b salt' = .ok c → same a b

section Binding

variable {N : Noble}

theorem saltedHash_ok {bytes : Bytes} :
    (do
      let salt ← hexToBytes saltHex
      return hashDomain N tag (bytes ++ salt) : Js Hex32) = .ok c ↔
      ∃ salt, hexToBytes saltHex = .ok salt ∧ c = hashDomain N tag (bytes ++ salt) := by
  rw [bind_eq_ok]
  constructor
  · rintro ⟨salt, hs, h⟩
    cases h
    exact ⟨salt, hs, rfl⟩
  · rintro ⟨salt, hs, rfl⟩
    exact ⟨salt, hs, rfl⟩

/-- Two payloads have a common commitment, for some salts, exactly when one starts the other. -/
theorem common_commitment_iff (hi : Function.Injective (hashDomain N tag)) {a b : Bytes} :
    (∃ salt salt' s s', hexToBytes salt = .ok s ∧ hexToBytes salt' = .ok s' ∧
      hashDomain N tag (a ++ s) = hashDomain N tag (b ++ s')) ↔ Overlap a b := by
  rw [overlap_iff]
  constructor
  · rintro ⟨-, -, s, s', -, -, h⟩
    exact ⟨s, s', hi h⟩
  · rintro ⟨s, s', h⟩
    exact ⟨bytesToHex s, bytesToHex s', s, s', hexToBytes_bytesToHex s,
      hexToBytes_bytesToHex s', by rw [h]⟩

theorem textCommitment_binds_iff (hi : Function.Injective (hashDomain N tag)) (m m' : JsString) :
    Binds (textCommitment N tag) (· = ·) m m' ↔
      m = m' ∨ ¬Overlap (textEncode m) (textEncode m') := by
  rw [← common_commitment_iff hi]
  constructor
  · intro hbinds
    by_cases hm : m = m'
    · exact .inl hm
    · refine .inr ?_
      rintro ⟨salt, salt', s, s', hs, hs', h⟩
      exact hm (hbinds salt salt' _ (saltedHash_ok.mpr ⟨s, hs, rfl⟩)
        (saltedHash_ok.mpr ⟨s', hs', h⟩))
  · rintro (rfl | hover) salt salt' c hc hc'
    · rfl
    · obtain ⟨s, hs, rfl⟩ := saltedHash_ok.mp hc
      obtain ⟨s', hs', h⟩ := saltedHash_ok.mp hc'
      exact absurd ⟨salt, salt', s, s', hs, hs', h⟩ hover

end Binding

theorem flatMap_utf8_overlap {cs ds : List Nat} {r s : Bytes} (hc : ∀ c ∈ cs, c < 0x110000)
    (hd : ∀ d ∈ ds, d < 0x110000) (h : cs.flatMap utf8 ++ r = ds.flatMap utf8 ++ s) :
    cs <+: ds ∨ ds <+: cs := by
  induction cs generalizing ds with
  | nil => exact .inl (List.nil_prefix)
  | cons c cs ih =>
    cases ds with
    | nil => exact .inr (List.nil_prefix)
    | cons d ds =>
      simp only [List.flatMap_cons, List.append_assoc] at h
      obtain ⟨rfl, hrest⟩ := utf8_prefix (hc c (by simp)) (hd d (by simp)) h
      have hoverlap := ih (fun c hm => hc c (by simp [hm])) (fun d hm => hd d (by simp [hm])) hrest
      exact hoverlap.imp (List.prefix_cons_inj c).mpr (List.prefix_cons_inj c).mpr

/-- The bytes of one well-formed text start those of another only when the texts do so. -/
theorem textEncode_overlap (hs : WellFormed s) (ht : WellFormed t)
    (h : Overlap (textEncode s) (textEncode t)) : s <+: t ∨ t <+: s := by
  obtain ⟨r, r', h⟩ := overlap_iff.mp h
  have hvalues := flatMap_utf8_overlap (scalarValues_lt s) (scalarValues_lt t) h
  rw [← scalarUnits_scalarValues hs, ← scalarUnits_scalarValues ht]
  rcases hvalues with ⟨u, hu⟩ | ⟨u, hu⟩
  · exact .inl ⟨u.flatMap scalarUnits, by rw [← List.flatMap_append, hu]⟩
  · exact .inr ⟨u.flatMap scalarUnits, by rw [← List.flatMap_append, hu]⟩

theorem scalarValues_append (hs : ∀ u ∈ s, isSurrogate u = false) (t : JsString) :
    scalarValues (s ++ t) = s.map UInt16.toNat ++ scalarValues t := by
  induction s with
  | nil => rfl
  | cons u s ih =>
    have hu := hs u (by simp)
    have hhigh : isHighSurrogate u = false := by
      simp only [isSurrogate, isHighSurrogate, Bool.and_eq_false_iff, decide_eq_false_iff_not]
        at hu ⊢
      omega
    have hrest := ih fun v hv => hs v (by simp [hv])
    cases hst : s ++ t with
    | nil =>
      obtain ⟨rfl, rfl⟩ := List.append_eq_nil_iff.mp hst
      simp [scalarValues, hu]
    | cons v rest =>
      rw [hst] at hrest
      simp [hst, scalarValues, hu, hhigh, hrest]

theorem textEncode_initial (hs : ∀ u ∈ s, isSurrogate u = false) (h : s <+: t) :
    textEncode s <+: textEncode t := by
  obtain ⟨r, rfl⟩ := h
  have hself := scalarValues_append hs []
  rw [List.append_nil] at hself
  rw [textEncode, textEncode, scalarValues_append hs r, hself, scalarValues, List.append_nil,
    List.flatMap_append]
  exact List.prefix_append _ _

/-- Plain texts of which one starts the other encode one value, or two numbers. -/
theorem encodePlain_overlap (ha : Plain a) (hb : Plain b)
    (h : encodePlain a ++ r = encodePlain b ++ s) : a = b ∨ ∃ n m, a = .num n ∧ b = .num m := by
  rcases valueClass_cases (encodePlain_class ha hb h) with ⟨rfl, rfl⟩ | ⟨rfl, rfl⟩ |
    ⟨c, rfl, rfl⟩ | hnum | ⟨k, l, rfl, rfl⟩ | ⟨xs, ys, rfl, rfl⟩ | ⟨xs, ys, rfl, rfl⟩
  · exact .inl rfl
  · exact .inl rfl
  · exact .inl rfl
  · exact .inr hnum
  · exact .inl (by rw [(jsonString_unique h).1])
  · simp only [encodePlain, List.cons_append, List.cons.injEq, true_and, List.append_assoc,
      List.nil_append] at h
    exact .inl (by rw [(plainItems_unique xs ha hb h).1])
  · simp only [encodePlain, List.cons_append, List.cons.injEq, true_and, List.append_assoc,
      List.nil_append] at h
    exact .inl (by rw [(plainFields_unique xs ha hb h).1])

/-- Two integers, the digits of one starting those of the other. -/
def DigitsOverlap (a b : JsValue) : Prop :=
  ∃ n m : Int, a = .num (.ofInt n) ∧ b = .num (.ofInt m) ∧
    (intText n <+: intText m ∨ intText m <+: intText n)

theorem intText_not_surrogate (z : Int) : ∀ u ∈ intText z, isSurrogate u = false := by
  intro u hu
  unfold intText at hu
  split at hu
  · rcases List.mem_cons.mp hu with rfl | hu
    · decide
    · exact digit_not_surrogate (natText_digits _ u hu)
  · exact digit_not_surrogate (natText_digits _ u hu)

theorem canonicalBytes_text (h : canonicalBytes a = .ok x) :
    x = textEncode (encodePlain (normalize a)) ∧ Plain (normalize a) := by
  obtain ⟨text, ht, h⟩ := bind_eq_ok.mp h
  cases h
  obtain ⟨rfl, hp⟩ := encodeCanonical_ok a ht
  exact ⟨rfl, hp⟩

theorem encodePlain_self_wellFormed (v : JsValue) : WellFormed (encodePlain v) := by
  rw [← List.append_nil (encodePlain v)]
  exact encodePlain_wellFormed v True.intro

theorem normalize_num (h : normalize a = .num n) : a = .num n := by
  cases a with
  | num k => exact h
  | _ => simp [normalize] at h

/-- Canonical bytes start others only for the same value, or for integers. -/
theorem canonicalBytes_overlap_iff (ha : canonicalBytes a = .ok x) (hb : canonicalBytes b = .ok y) :
    Overlap x y ↔ normalize a = normalize b ∨ DigitsOverlap a b := by
  obtain ⟨rfl, hpa⟩ := canonicalBytes_text ha
  obtain ⟨rfl, hpb⟩ := canonicalBytes_text hb
  constructor
  · intro h
    have htext := textEncode_overlap (encodePlain_self_wellFormed _)
      (encodePlain_self_wellFormed _) h
    have happend : ∃ r s, encodePlain (normalize a) ++ r = encodePlain (normalize b) ++ s := by
      rcases htext with ⟨r, hr⟩ | ⟨s, hs⟩
      · exact ⟨r, [], by rw [hr, List.append_nil]⟩
      · exact ⟨[], s, by rw [hs, List.append_nil]⟩
    obtain ⟨r, s, hrs⟩ := happend
    rcases encodePlain_overlap hpa hpb hrs with heq | ⟨n, m, hn, hm⟩
    · exact .inl heq
    · refine .inr ?_
      rw [hn] at hpa htext
      rw [hm] at hpb htext
      obtain ⟨z, rfl⟩ := hpa
      obtain ⟨w, rfl⟩ := hpb
      simp only [encodePlain, JsNumber.toInt?_ofInt, Option.getD_some] at htext
      exact ⟨z, w, normalize_num hn, normalize_num hm, htext⟩
  · rintro (heq | ⟨n, m, rfl, rfl, hover⟩)
    · rw [heq]
      exact .inl (List.prefix_refl _)
    · simp only [normalize, encodePlain, JsNumber.toInt?_ofInt, Option.getD_some]
      exact hover.imp (textEncode_initial (intText_not_surrogate n))
        (textEncode_initial (intText_not_surrogate m))

theorem metadataCommitment_binds_iff
    (hi : Function.Injective (hashDomain N DOMAIN_TAGS.METADATA_V1)) (ha : Encodable a)
    (hb : Encodable b) :
    Binds (metadataCommitment N) (fun a b => normalize a = normalize b) a b ↔
      normalize a = normalize b ∨ ¬DigitsOverlap a b := by
  obtain ⟨x, hx⟩ := canonicalBytes_total ha
  obtain ⟨y, hy⟩ := canonicalBytes_total hb
  have hcommon := (common_commitment_iff hi).trans (canonicalBytes_overlap_iff hx hy)
  constructor
  · intro hbinds
    by_cases heq : normalize a = normalize b
    · exact .inl heq
    · refine .inr ?_
      intro hdigits
      obtain ⟨salt, salt', s, s', hs, hs', h⟩ := hcommon.mpr (.inr hdigits)
      exact heq (hbinds salt salt' _
        (bind_eq_ok.mpr ⟨x, hx, saltedHash_ok.mpr ⟨s, hs, rfl⟩⟩)
        (bind_eq_ok.mpr ⟨y, hy, saltedHash_ok.mpr ⟨s', hs', h⟩⟩))
  · rintro (heq | hdigits) salt salt' c hc hc'
    · exact heq
    · obtain ⟨_, hx', hc⟩ := bind_eq_ok.mp hc
      cases hx.symm.trans hx'
      obtain ⟨_, hy', hc'⟩ := bind_eq_ok.mp hc'
      cases hy.symm.trans hy'
      obtain ⟨s, hs, rfl⟩ := saltedHash_ok.mp hc
      obtain ⟨s', hs', h⟩ := saltedHash_ok.mp hc'
      exact (hcommon.mp ⟨salt, salt', s, s', hs, hs', h⟩).resolve_right hdigits

/-- A run of the verifier reports that the disclosed message opens the commitment. -/
def ContentOpened (N : Noble) (message saltHex : JsString) (c : Hex32) : Prop :=
  ∃ H tools input resolver policy backend result envelope, H.noble = N ∧
    verifyTSL H tools input resolver policy backend = .ok result ∧
    (expandProofBundleInput H input).1.envelope = some envelope ∧
    envelope.content_commitment = c ∧
    (expandProofBundleInput H input).1.message_disclosure = some ⟨some message, some saltHex⟩ ∧
    result.checks .content_commitment_matches = some true

theorem messageDisclosureBlock_content {C : Context}
    (hd : C.input.message_disclosure = some ⟨some m, some salt⟩)
    (h : messageDisclosureBlock C r = .ok r') :
    ∃ consent value, disclosureAllowed C [js "raw_content", js "content_salt"] = .ok consent ∧
      contentMatches C ⟨some m, some salt⟩ consent = .ok value ∧
      r'.checks .content_commitment_matches = value := by
  unfold messageDisclosureBlock at h
  rw [hd] at h
  simp only [Option.isSome_some, Bool.or_self, ↓reduceIte, List.cons_append, List.nil_append] at h
  obtain ⟨consent, hconsent, h⟩ := bind_eq_ok.mp h
  obtain ⟨value, hvalue, h⟩ := bind_eq_ok.mp h
  cases h
  refine ⟨consent, value, hconsent, hvalue, ?_⟩
  cases value with
  | none => simp [Report.uncheck]
  | some value => simp

/-- What a completed run reports about a disclosed message. -/
theorem verifyEnvelope_content
    (h : verifyEnvelope H tools resolver policy backend input envelope start = .ok result)
    (hi : resolver envelope.sender envelope.timestamp = .ok (some identity))
    (hd : input.message_disclosure = some ⟨some m, some salt⟩) :
    ∃ commitment legacy consent value,
      let C : Context :=
        ⟨H, tools, resolver, policy, backend, input, envelope, commitment, legacy⟩
      disclosureAllowed C [js "raw_content", js "content_salt"] = .ok consent ∧
        contentMatches C ⟨some m, some salt⟩ consent = .ok value ∧
        result.checks .content_commitment_matches = value := by
  obtain ⟨event, hevent, h⟩ := bind_eq_ok.mp h
  obtain ⟨found, hfound, h⟩ := bind_eq_ok.mp h
  cases hi.symm.trans hfound
  obtain ⟨commitment, -, h⟩ := bind_eq_ok.mp h
  obtain ⟨legacy, -, h⟩ := bind_eq_ok.mp h
  obtain ⟨keyed, -, h⟩ := bind_eq_ok.mp h
  obtain ⟨final, hfinal, h⟩ := bind_eq_ok.mp h
  cases h
  let C : Context := ⟨H, tools, resolver, policy, backend, input, envelope, commitment, legacy⟩
  have hrun : pipeline ((ownedBlocks C).map Block.run) keyed = .ok final := hfinal
  obtain ⟨r, r', -, hb, hr'⟩ := pipeline_at hrun 3 (by rw [ownedBlocks_length]; decide)
  obtain ⟨consent, value, hconsent, hvalue, hcheck⟩ := messageDisclosureBlock_content hd hb
  refine ⟨commitment, legacy, consent, value, hconsent, hvalue, ?_⟩
  rw [← hcheck]
  exact hr'.get .content_commitment_matches
    (by simp [ownedBy, ownedBlocks, scoringChecks, graphChecks])

theorem contentMatches_true {C : Context}
    (h : contentMatches C ⟨some m, some salt⟩ consent = .ok (some true)) :
    contentCommitment C.noble m salt = .ok C.envelope.content_commitment := by
  unfold contentMatches at h
  dsimp only at h
  split at h
  · obtain ⟨c, hc, h⟩ := bind_eq_ok.mp h
    have heq : c = C.envelope.content_commitment :=
      beq_iff_eq.mp (Option.some.inj (Except.ok.inj h))
    rw [hc, heq]
  · cases h

theorem contentMatches_ok {C : Context} (h : contentCommitment C.noble m salt = .ok c) :
    contentMatches C ⟨some m, some salt⟩ true =
      .ok (some (c == C.envelope.content_commitment)) :=
  bind_eq_ok.mpr ⟨c, h, rfl⟩

/-- A message is reported to match only by a run that found the sender. -/
theorem verifyTSL_reported (h : verifyTSL H tools input resolver policy backend = .ok result)
    (he : (expandProofBundleInput H input).1.envelope = some envelope)
    (hr : result.checks .content_commitment_matches = some true) :
    ∃ start identity, resolver envelope.sender envelope.timestamp = .ok (some identity) ∧
      verifyEnvelope H tools resolver policy.withDefaults backend
        (expandProofBundleInput H input).1 envelope start = .ok result := by
  obtain ⟨envelope', start, identity, he', hfound, hrun⟩ :=
    verifyTSL_checked h hr (by decide) (by decide) (by decide)
  obtain rfl : envelope = envelope' := Option.some.inj (he.symm.trans he')
  exact ⟨start, identity, hfound, hrun⟩

/-- An input with an envelope and a disclosed message alone. -/
def openingInput (envelope : EventCommitmentV1) (message saltHex : JsString)
    (manifest : JsField RedactionManifest) : VerifyTSLInput where
  toEvidence := { (Evidence.fill fun _ => .absent : Evidence JsField) with
    message_disclosure := .value ⟨some message, some saltHex⟩ }
  proof_bundle := none
  envelope := .value envelope
  proof := .absent
  receipt_proofs := none
  checkpoint := .absent
  redaction_manifest := manifest

/-- A policy that asks for no consent to a disclosure. -/
def openPolicy : VerifierPolicy JsField :=
  { emptyPolicy with require_disclosure_consent_for_private_fields := .value false }

/-- The verifier reports an opening exactly for the pairs that the commitment function accepts. -/
theorem contentOpened_iff : ContentOpened N m salt c ↔ contentCommitment N m salt = .ok c := by
  constructor
  · rintro ⟨H, tools, input, resolver, policy, backend, result, envelope, rfl, h, he, rfl, hd,
      hreport⟩
    obtain ⟨start, identity, hi, hrun⟩ := verifyTSL_reported h he hreport
    obtain ⟨commitment, legacy, consent, value, -, hvalue, hcheck⟩ :=
      verifyEnvelope_content hrun hi hd
    rw [hreport] at hcheck
    cases hcheck
    exact contentMatches_true hvalue
  · intro h
    have hsalt : Returns (hexToBytes salt) := by
      obtain ⟨bytes, hb, -⟩ := saltedHash_ok.mp h
      exact ⟨bytes, hb⟩
    let envelope := { sampleEnvelope with content_commitment := c }
    have he : (expandProofBundleInput (sampleHost N) (openingInput envelope m salt .absent)).1.envelope =
        some envelope := rfl
    have hfound : sampleResolver.resolveTrustID envelope.sender envelope.timestamp =
        .ok (some aliceIdentity) := rfl
    have hreturns : Returns (verifyTSL (sampleHost N) sampleTools
        (openingInput envelope m salt .absent) sampleResolver.resolveTrustID openPolicy none) := by
      rw [verifyTSL_envelope he rfl]
      refine (verifyEnvelope_returns_iff ?_ ?_).mpr (.inr ⟨_, hexToBytes_bytesToHex _⟩)
      · exact fun _ _ => ⟨fun _ _ => Returns.pure _, by simp⟩
      · intro commitment legacy
        apply @Computable.of_parts _ (some ⟨some m, some salt⟩)
        · rintro d ⟨⟩ s ⟨⟩
          exact hsalt
        · rintro proof ⟨⟩
        · rintro checkpoint ⟨⟩
        · rintro checkpoint ⟨⟩
        · rfl
        · rfl
    obtain ⟨result, hrun⟩ := hreturns
    refine ⟨sampleHost N, sampleTools, _, _, openPolicy, none, result, envelope, rfl, hrun, rfl,
      rfl, rfl, ?_⟩
    rw [verifyTSL_envelope he rfl] at hrun
    obtain ⟨commitment, legacy, consent, value, hconsent, hvalue, hcheck⟩ :=
      verifyEnvelope_content hrun hfound rfl
    cases hconsent
    have hmatch := (contentMatches_ok (C := ⟨sampleHost N, sampleTools, _, openPolicy.withDefaults,
      none, (expandProofBundleInput (sampleHost N) (openingInput envelope m salt .absent)).1,
      envelope, commitment, legacy⟩) h).symm.trans hvalue
    rw [hcheck, ← Except.ok.inj hmatch]
    simp [envelope]

/-- Whatever salts are used, an opening of the content commitment, the commitment function of a
message and the one of a receiver bind two texts exactly when the bytes of neither start those of
the other; the one of metadata binds two values exactly when they are not integers the digits of
one of which start those of the other. -/
theorem commitments_bind_iff (hi : ∀ tag, Function.Injective (hashDomain N tag)) :
    (∀ m m', (∀ salt salt' c, ContentOpened N m salt c → ContentOpened N m' salt' c → m = m') ↔
      m = m' ∨ ¬Overlap (textEncode m) (textEncode m')) ∧
    (∀ m m', Binds (contentCommitment N) (· = ·) m m' ↔
      m = m' ∨ ¬Overlap (textEncode m) (textEncode m')) ∧
    (∀ id id', Binds (receiverCommitment N) (· = ·) id id' ↔
      id = id' ∨ ¬Overlap (textEncode id) (textEncode id')) ∧
    ∀ a b, Encodable a → Encodable b →
      (Binds (metadataCommitment N) (fun a b => normalize a = normalize b) a b ↔
        normalize a = normalize b ∨ ¬DigitsOverlap a b) := by
  have hcontent : ∀ m m', Binds (contentCommitment N) (· = ·) m m' ↔
      m = m' ∨ ¬Overlap (textEncode m) (textEncode m') :=
    textCommitment_binds_iff (hi _)
  refine ⟨?_, hcontent, textCommitment_binds_iff (hi _), fun a b => metadataCommitment_binds_iff (hi _)⟩
  intro m m'
  rw [← hcontent]
  simp only [contentOpened_iff, Binds]

/-- The sample event with a commitment to a payment. -/
def paymentEnvelope : EventCommitmentV1 :=
  { sampleEnvelope with
    content_commitment := hex32 0x4d9a54c67da7f6a14cbaed5aaeb380e9bc342cafb788be0a76c2b9720e54c483
    signature := bytesToHex (
      bigEndian 32 0x60fe9569380652403e633efe062f273b2187e78f77dbc1886df3e2cc3a735212 ++
      bigEndian 32 0xb9b6498d11073d0ff34a7da565a2d1f656b46ec14557f9fc5e074a0abae3a702) }

/-- The first salt is the character `0` and the second salt. -/
def paymentSalt : Bytes := List.replicate 31 7

def paymentNoble : Noble :=
  let event := bigEndian 32 0x5922609525b3e5c79c586f0caa1b3e1a40737c27e65682691214b89da10da3bb
  let signed := event ++ hexBytes paymentEnvelope.signature
  recorded [(domainMessage DOMAIN_TAGS.EVENT_V1 (valueBytes (.obj (withoutSignature
      paymentEnvelope.toFields))), event),
    (domainMessage DOMAIN_TAGS.COMMITMENT_V1 signed,
      bigEndian 32 0x5a76e2b919853c36633a0daecfd201c0d4885cb26a4a7b968621084a521c171a),
    (signed, bigEndian 32 0xd10dc757f7a144626f20c8a51003a4d245cefe339aa14ec953925728140704c5),
    (domainMessage DOMAIN_TAGS.CONTENT_V1 (textEncode (js "pay 10") ++ paymentSalt),
      hexBytes paymentEnvelope.content_commitment)]
    [(hexBytes paymentEnvelope.signature, event,
      bigEndian 32 0x8a88e3dd7409f195fd52db2d3cba5d72ca6709bf1d94121bf3748801b40f6f5c)] longDigest

theorem paymentNoble_injective (tag : JsString) : Function.Injective (hashDomain paymentNoble tag) := by
  have hsha : Function.Injective paymentNoble.sha256 :=
    recorded_injective (by decide) (by decide) _
  intro a b h
  have hmessage := hsha (sha256Hex_injective h)
  exact List.append_cancel_left hmessage |> List.cons.inj |>.2

def paymentManifest : RedactionManifest where
  raw_content_included := true
  content_salt_included := some true
  exact_counterparties_included := false
  metadata_fields_redacted := [js "exact_counterparties", js "private_graph",
    js "private_metadata", js "restricted_attestations"]

/-- One signed event is verified with two different payments. -/
theorem verifyTSL_two_openings : (∀ tag, Function.Injective (hashDomain paymentNoble tag)) ∧
    ∃ result result',
      verifyTSL (sampleHost paymentNoble) sampleTools (openingInput paymentEnvelope (js "pay 1")
        (bytesToHex (48 :: paymentSalt)) (.value paymentManifest)) sampleResolver.resolveTrustID
        openPolicy none = .ok result ∧
      verifyTSL (sampleHost paymentNoble) sampleTools (openingInput paymentEnvelope (js "pay 10")
        (bytesToHex paymentSalt) (.value paymentManifest)) sampleResolver.resolveTrustID
        openPolicy none = .ok result' ∧
      result.verified = true ∧ result.checks .content_commitment_matches = some true ∧
      result'.verified = true ∧ result'.checks .content_commitment_matches = some true := by
  have hfirst : (fun result : VerificationResult =>
      (result.verified, result.checks .content_commitment_matches)) <$>
      verifyTSL (sampleHost paymentNoble) sampleTools (openingInput paymentEnvelope (js "pay 1")
        (bytesToHex (48 :: paymentSalt)) (.value paymentManifest)) sampleResolver.resolveTrustID
        openPolicy none = .ok (true, some true) := by
    decide +kernel
  have hsecond : (fun result : VerificationResult =>
      (result.verified, result.checks .content_commitment_matches)) <$>
      verifyTSL (sampleHost paymentNoble) sampleTools (openingInput paymentEnvelope (js "pay 10")
        (bytesToHex paymentSalt) (.value paymentManifest)) sampleResolver.resolveTrustID
        openPolicy none = .ok (true, some true) := by
    decide +kernel
  obtain ⟨result, hrun, hv⟩ := map_eq_ok.mp hfirst
  obtain ⟨result', hrun', hv'⟩ := map_eq_ok.mp hsecond
  exact ⟨paymentNoble_injective, result, result', hrun, hrun', (Prod.mk.inj hv).1,
    (Prod.mk.inj hv).2, (Prod.mk.inj hv').1, (Prod.mk.inj hv').2⟩

/-- Two payments that do not overlap cannot share a commitment. -/
theorem commitments_bind_iff_sample :
    ¬∃ salt salt' c, ContentOpened paymentNoble (js "pay 10") salt c ∧
      ContentOpened paymentNoble (js "pay 25") salt' c := by
  rintro ⟨salt, salt', c, h, h'⟩
  have hover : ¬Overlap (textEncode (js "pay 10")) (textEncode (js "pay 25")) := by
    unfold Overlap
    decide
  have heq := ((commitments_bind_iff paymentNoble_injective).1 _ _).mpr (.inr hover) _ _ _ h h'
  exact absurd heq (by decide)

end Continuity

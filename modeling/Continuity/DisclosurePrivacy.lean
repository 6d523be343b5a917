import Continuity.DisclosureManifest

namespace Continuity
set_option autoImplicit true

/-- The same value, or two values that may differ. -/
def Varies (may : α → α → Prop) (f g : JsField α) : Prop :=
  f = g ∨ ∃ a b, f = .value a ∧ g = .value b ∧ may a b

/-- Lists with private members on both sides and the same public ones. -/
def VaryPrivately (isPublic : α → Bool) (xs ys : List α) : Prop :=
  xs.any (fun x => !isPublic x) = true ∧ ys.any (fun x => !isPublic x) = true ∧
    xs.filter isPublic = ys.filter isPublic

/-- No consent of the options opens the field class to the verifier. -/
def Unconsented (H : Host) (bundle : ProofBundleV1) (options : ProofBundleDisclosureOptions)
    (fieldClass : JsString) : Prop :=
  proofBundleAllowsFieldClass H bundle.envelope.sender [fieldClass] options ≠ .ok true

def GraphFeatureVectorV1.isPrivate (vector : GraphFeatureVectorV1) : Bool :=
  vector.privacy_disclosure_level ≠ .aggregate_only && vector.privacy_disclosure_level ≠ .«public»

section Differ

variable (H : Host) (options : ProofBundleDisclosureOptions) (bundle other : ProofBundleV1)

/-- A text that both sides hold may differ without a consent. -/
def MessagePartVaries (fieldClass : JsString) (text other : Option JsString) : Prop :=
  text = other ∨ Unconsented H bundle options fieldClass ∧ text.isSome ∧ other.isSome

/-- Two bundles that differ in private parts without a consent alone, and hold private parts of
the same kinds. -/
structure DifferPrivately : Prop where
  rest : other = { bundle with
    toEvidence := { bundle.toEvidence with
      receipts := other.receipts
      attestations := other.attestations
      attestations_v2 := other.attestations_v2
      message_disclosure := other.message_disclosure
      graph_feature_vector := other.graph_feature_vector
      metadata_fingerprints := other.metadata_fingerprints } }
  receipts : Varies (fun xs ys => Unconsented H bundle options (js "exact_counterparties") ∧
    VaryPrivately (fun _ => false) xs ys) bundle.receipts other.receipts
  attestations : Varies (fun xs ys => Unconsented H bundle options (js "attestations") ∧
    VaryPrivately (fun a => a.visibility = .«public») xs ys) bundle.attestations other.attestations
  attestations_v2 : Varies (fun xs ys => Unconsented H bundle options (js "attestations") ∧
    VaryPrivately (fun a => a.visibility = .«public») xs ys)
    bundle.attestations_v2 other.attestations_v2
  message_disclosure : Varies (fun d e =>
    MessagePartVaries H options bundle (js "raw_content") d.raw_message e.raw_message ∧
    MessagePartVaries H options bundle (js "content_salt") d.content_salt e.content_salt)
    bundle.message_disclosure other.message_disclosure
  graph_feature_vector : Varies (fun v w => Unconsented H bundle options (js "private_graph") ∧
    v.isPrivate = true ∧ w.isPrivate = true) bundle.graph_feature_vector other.graph_feature_vector
  metadata_fingerprints : Varies (fun xs ys =>
    Unconsented H bundle options (js "private_metadata") ∧
    VaryPrivately (fun f => f.scope_class = .public_commitment) xs ys)
    bundle.metadata_fingerprints other.metadata_fingerprints

end Differ

section Decisions

variable {H : Host} {options : ProofBundleDisclosureOptions} {bundle other : ProofBundleV1}
  {can can' : Disclosable}

theorem guarded_unconsented (h : guarded condition x = .ok b) (hx : x ≠ .ok true) : b = false := by
  rw [← Bool.not_eq_true]
  intro hb
  exact hx ((guarded_decides h).mp hb).2

theorem DifferPrivately.sender (h : DifferPrivately H options bundle other) :
    other.envelope = bundle.envelope := by
  rw [h.rest]

/-- The truth of a part of the message decides alike in both bundles. -/
theorem MessagePartVaries.decided {text text' : Option JsString}
    (h : MessagePartVaries H options bundle fieldClass text text')
    (hb : guarded (truthy text) (proofBundleAllowsFieldClass H bundle.envelope.sender [fieldClass]
      options) = .ok b)
    (hb' : guarded (truthy text') (proofBundleAllowsFieldClass H bundle.envelope.sender
      [fieldClass] options) = .ok b') :
    b = b' ∧ (b = true → text = text') := by
  rcases h with rfl | ⟨hnone, -, -⟩
  · rw [hb] at hb'
    exact ⟨Except.ok.inj hb', fun _ => rfl⟩
  · have hf := guarded_unconsented hb hnone
    have hf' := guarded_unconsented hb' hnone
    exact ⟨hf.trans hf'.symm, fun ht => absurd (hf.symm.trans ht) (by decide)⟩

theorem DifferPrivately.rawMessage (h : DifferPrivately H options bundle other) :
    MessagePartVaries H options bundle (js "raw_content") bundle.rawMessage other.rawMessage := by
  rcases h.message_disclosure with hsame | ⟨d, e, hd, he, hraw, -⟩
  · exact .inl (by rw [ProofBundleV1.rawMessage, ProofBundleV1.rawMessage, hsame])
  · rw [ProofBundleV1.rawMessage, ProofBundleV1.rawMessage, hd, he]
    exact hraw

theorem DifferPrivately.contentSalt (h : DifferPrivately H options bundle other) :
    MessagePartVaries H options bundle (js "content_salt") bundle.contentSalt
      other.contentSalt := by
  rcases h.message_disclosure with hsame | ⟨d, e, hd, he, -, hsalt⟩
  · exact .inl (by rw [ProofBundleV1.contentSalt, ProofBundleV1.contentSalt, hsame])
  · rw [ProofBundleV1.contentSalt, ProofBundleV1.contentSalt, hd, he]
    exact hsalt

theorem DifferPrivately.hasPrivateGraph (h : DifferPrivately H options bundle other) :
    bundle.hasPrivateGraph = other.hasPrivateGraph := by
  rcases h.graph_feature_vector with hsame | ⟨v, w, hv, hw, -, hpv, hpw⟩
  · rw [ProofBundleV1.hasPrivateGraph, ProofBundleV1.hasPrivateGraph, hsame]
  · rw [ProofBundleV1.hasPrivateGraph, ProofBundleV1.hasPrivateGraph, hv, hw]
    exact hpv.trans hpw.symm

theorem any_not_decide {xs : List α} {p : α → Prop} [DecidablePred p] :
    (xs.any fun x => decide ¬p x) = xs.any fun x => !decide (p x) := by
  simp only [decide_not]

theorem DifferPrivately.hasPrivateMetadata (h : DifferPrivately H options bundle other) :
    bundle.hasPrivateMetadata = other.hasPrivateMetadata := by
  rcases h.metadata_fingerprints with hsame | ⟨xs, ys, hx, hy, -, hpx, hpy, -⟩
  · rw [ProofBundleV1.hasPrivateMetadata, ProofBundleV1.hasPrivateMetadata, hsame]
  · rw [ProofBundleV1.hasPrivateMetadata, ProofBundleV1.hasPrivateMetadata, hx, hy]
    exact any_not_decide.trans (hpx.trans (hpy.symm.trans any_not_decide.symm))

theorem DifferPrivately.hasRestrictedAttestations (h : DifferPrivately H options bundle other) :
    bundle.hasRestrictedAttestations = other.hasRestrictedAttestations := by
  rcases h.attestations with hsame | ⟨xs, ys, hx, hy, -, hpx, hpy, -⟩
  · rw [ProofBundleV1.hasRestrictedAttestations, ProofBundleV1.hasRestrictedAttestations, hsame]
  · rw [ProofBundleV1.hasRestrictedAttestations, ProofBundleV1.hasRestrictedAttestations, hx, hy]
    exact any_not_decide.trans (hpx.trans (hpy.symm.trans any_not_decide.symm))

/-- The same is disclosed of both bundles. -/
theorem Decided.same (hd : DifferPrivately H options bundle other)
    (h : Decided H bundle options can) (h' : Decided H other options can') : can = can' := by
  have hc := h'.counterparties
  have ha := h'.restrictedAttestations
  have hr := h'.rawContent
  have hs := h'.contentSalt
  have hg := h'.privateGraph
  have hm := h'.privateMetadata
  rw [hd.sender, h.counterparties] at hc
  rw [hd.sender, h.restrictedAttestations] at ha
  rw [hd.sender] at hr hs
  rw [hd.sender, ← hd.hasPrivateGraph, h.privateGraph] at hg
  rw [hd.sender, ← hd.hasPrivateMetadata, h.privateMetadata] at hm
  have hraw := (hd.rawMessage.decided h.rawContent hr).1
  have hsalt := (hd.contentSalt.decided h.contentSalt hs).1
  cases can
  cases can'
  simp_all only [Except.ok.injEq]

end Decisions

section Filtered

variable {H : Host} {options : ProofBundleDisclosureOptions} {bundle other : ProofBundleV1}
  {can : Disclosable}

theorem DifferPrivately.receipts_filtered (h : DifferPrivately H options bundle other)
    (hd : Decided H bundle options can) :
    (if can.counterparties then bundle.receipts.toOption else none) =
      if can.counterparties then other.receipts.toOption else none := by
  rcases h.receipts with hsame | ⟨xs, ys, -, -, hnone, -⟩
  · rw [hsame]
  · rw [guarded_unconsented hd.counterparties hnone]
    rfl

theorem DifferPrivately.attestations_filtered (h : DifferPrivately H options bundle other)
    (hd : Decided H bundle options can) :
    filterAttestations bundle.attestations.toOption can.restrictedAttestations =
      filterAttestations other.attestations.toOption can.restrictedAttestations := by
  rcases h.attestations with hsame | ⟨xs, ys, hx, hy, hnone, -, -, hpublic⟩
  · rw [hsame]
  · rw [guarded_unconsented hd.restrictedAttestations hnone, hx, hy]
    simpa only [filterAttestations, Bool.or_false, JsField.toOption, Option.getD_some] using hpublic

theorem DifferPrivately.fingerprints_filtered (h : DifferPrivately H options bundle other)
    (hd : Decided H bundle options can) :
    (if can.privateMetadata then .ofOption bundle.metadata_fingerprints.toOption else .absent) =
      if can.privateMetadata then JsField.ofOption other.metadata_fingerprints.toOption
      else .absent := by
  rcases h.metadata_fingerprints with hsame | ⟨xs, ys, hx, -, hnone, hpx, -, -⟩
  · rw [hsame]
  · have hprivate : bundle.hasPrivateMetadata = true := by
      rw [ProofBundleV1.hasPrivateMetadata, hx]
      exact any_not_decide.trans hpx
    have hcan := hd.privateMetadata
    rw [hprivate] at hcan
    have hguarded : guarded true (proofBundleAllowsFieldClass H bundle.envelope.sender
        [js "private_metadata"] options) = .ok can.privateMetadata := hcan
    rw [guarded_unconsented hguarded hnone]
    rfl

theorem DifferPrivately.graph_filtered (h : DifferPrivately H options bundle other)
    (hd : Decided H bundle options can) :
    (if can.privateGraph then .ofOption bundle.graph_feature_vector.toOption else .absent) =
      if can.privateGraph then JsField.ofOption other.graph_feature_vector.toOption
      else .absent := by
  rcases h.graph_feature_vector with hsame | ⟨v, w, hv, -, hnone, hpv, -⟩
  · rw [hsame]
  · have hprivate : bundle.hasPrivateGraph = true := by
      rw [ProofBundleV1.hasPrivateGraph, hv]
      exact hpv
    have hcan := hd.privateGraph
    rw [hprivate] at hcan
    have hguarded : guarded true (proofBundleAllowsFieldClass H bundle.envelope.sender
        [js "private_graph"] options) = .ok can.privateGraph := hcan
    rw [guarded_unconsented hguarded hnone]
    rfl

theorem DifferPrivately.rawMessage_filtered (h : DifferPrivately H options bundle other)
    (hd : Decided H bundle options can) (hd' : Decided H other options can) :
    (if can.rawContent then bundle.rawMessage else none) =
      if can.rawContent then other.rawMessage else none := by
  have hraw := hd'.rawContent
  rw [h.sender] at hraw
  by_cases hc : can.rawContent = true
  · rw [(h.rawMessage.decided hd.rawContent hraw).2 hc]
  · rw [if_neg hc, if_neg hc]

theorem DifferPrivately.contentSalt_filtered (h : DifferPrivately H options bundle other)
    (hd : Decided H bundle options can) (hd' : Decided H other options can) :
    (if can.contentSalt then bundle.contentSalt else none) =
      if can.contentSalt then other.contentSalt else none := by
  have hsalt := hd'.contentSalt
  rw [h.sender] at hsalt
  by_cases hc : can.contentSalt = true
  · rw [(h.contentSalt.decided hd.contentSalt hsalt).2 hc]
  · rw [if_neg hc, if_neg hc]

/-- Parts that may differ are there in both bundles or in neither. -/
theorem DifferPrivately.fields_redacted (h : DifferPrivately H options bundle other)
    (can : Disclosable) : metadataFieldsRedacted can bundle = metadataFieldsRedacted can other := by
  have hvector : bundle.graph_feature_vector.toOption.isSome =
      other.graph_feature_vector.toOption.isSome := by
    rcases h.graph_feature_vector with hsame | ⟨v, w, hv, hw, -⟩
    · rw [hsame]
    · rw [hv, hw]
      rfl
  have hfingerprints : nonEmptyList bundle.metadata_fingerprints.toOption =
      nonEmptyList other.metadata_fingerprints.toOption := by
    rcases h.metadata_fingerprints with hsame | ⟨xs, ys, hx, hy, -, hpx, hpy, -⟩
    · rw [hsame]
    · obtain ⟨x, hmx, -⟩ := List.any_eq_true.mp hpx
      obtain ⟨y, hmy, -⟩ := List.any_eq_true.mp hpy
      obtain ⟨x, xs, rfl⟩ := List.exists_cons_of_ne_nil (List.ne_nil_of_mem hmx)
      obtain ⟨y, ys, rfl⟩ := List.exists_cons_of_ne_nil (List.ne_nil_of_mem hmy)
      rw [hx, hy]
      rfl
  rw [metadataFieldsRedacted_flagged, metadataFieldsRedacted_flagged, hvector, hfingerprints,
    h.hasRestrictedAttestations]

theorem DifferPrivately.redacted (h : DifferPrivately H options bundle other)
    (hd : Decided H bundle options can) (hd' : Decided H other options can) :
    redacted can other = { redacted can bundle with
      toEvidence := { (redacted can bundle).toEvidence with
        attestations_v2 := other.attestations_v2.strip } } := by
  have hreceipts := h.receipts_filtered hd
  have hattestations := h.attestations_filtered hd
  have hfingerprints := h.fingerprints_filtered hd
  have hgraph := h.graph_filtered hd
  have hraw := h.rawMessage_filtered hd hd'
  have hsalt := h.contentSalt_filtered hd hd'
  have hfields := h.fields_redacted can
  unfold Continuity.redacted
  rw [← hreceipts, ← hattestations, ← hfingerprints, ← hgraph, ← hraw, ← hsalt, ← hfields]
  rw [h.rest]
  rfl

end Filtered

section Consented

variable {H : Host} {options : ProofBundleDisclosureOptions} {bundle : ProofBundleV1}
  {can : Disclosable}

end Consented

/-- The bundle of an event with a message that is not disclosed. -/
def messageBundle (text : JsString) : ProofBundleV1 :=
  { privateBundle with
    toEvidence := { privateBundle.toEvidence with
      message_disclosure := .value { raw_message := some text, content_salt := none } } }

/-- A bundle with a private attestation of the newer type. -/
def claimBundle (attestation_class : JsString) : ProofBundleV1 :=
  { plainBundle with
    toEvidence := { plainBundle.toEvidence with
      attestations_v2 := .value [{
        issuer := js "did:tsl:bob"
        signing_key_id := js "#bob"
        subject := js "did:tsl:alice"
        visibility := .«private»
        issued_at := js "2026-05-25T00:00:00Z"
        signature := js "0x00"
        others := {
          entries := [(js "attestation_class", .str attestation_class)]
          nodup := List.nodup_singleton _
          fresh := by
            intro key hkey
            obtain rfl : key = js "attestation_class" := List.mem_singleton.mp hkey
            decide } }] } }

end Continuity

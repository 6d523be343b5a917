import Continuity.VerifierFrames

namespace Continuity
open Frames
set_option autoImplicit true

/-- The checks that hold before the envelope is looked at. -/
theorem openingReport_checks (H : Host) (policy : VerifierPolicy Option) (input : ExpandedInput)
    (errors : List String) (h : name ≠ .redaction_manifest_valid) :
    (openingReport H policy input errors).checks name = defaultChecks name := by
  have hnil : name ∉ ([] : List CheckName) := by simp
  have hred : name ∉ [CheckName.redaction_manifest_valid] := by simpa using h
  refine ((redactionBlock_advances H input _).get name hred).trans ?_
  refine ((bundleBlock_advances H input _).get name hnil).trans ?_
  exact (unsafeFixturesBlock_advances H policy _).get name hnil

theorem verdict_iff : verdict policy input r = true ↔
    (∀ name ∈ mandatoryChecks, r.checks name = some true) ∧
      (∀ name ∈ optionalChecks, r.checks name ≠ some false) ∧ r.errors = [] ∧
      ∀ entry ∈ requiredChecks policy input, entry.1 = true → r.checks entry.2 = some true := by
  simp only [verdict, Bool.and_eq_true, List.all_eq_true, Report.passes, Report.notFailed,
    beq_iff_eq, bne_iff_ne, List.isEmpty_iff, Bool.or_eq_true, Bool.not_eq_true',
    Bool.eq_false_iff]
  constructor
  · rintro ⟨⟨⟨⟨hm, ho⟩, he⟩, -⟩, hr⟩
    refine ⟨hm, ho, he, ?_⟩
    intro entry hentry hon
    exact (hr entry hentry).resolve_left (not_not_intro hon)
  · rintro ⟨hm, ho, he, hr⟩
    refine ⟨⟨⟨⟨hm, ho⟩, he⟩, by simp [he]⟩, ?_⟩
    intro entry hentry
    by_cases hon : entry.1 = true
    · exact .inr (hr entry hentry hon)
    · exact .inl hon

/-- A run of the verifier that ends with `verified = true`, step by step. -/
structure VerifiedRun (H : Host) (tools : Recomputation) (input : VerifyTSLInput)
    (resolver : TrustResolver) (policy : VerifierPolicy JsField)
    (backend : Option SettlementBackend) where
  envelope : EventCommitmentV1
  commitment : Hex32
  legacy : Hex32
  event_hash : Hex32
  identity : IdentityDocumentV1
  start : Report
  keyed : Report
  final : Report
  envelope_eq : (expandProofBundleInput H input).1.envelope = some envelope
  event_hash_ok : eventHash H.noble envelope = .ok event_hash
  resolved : resolver envelope.sender envelope.timestamp = .ok (some identity)
  commitment_ok : commitmentHash H.noble envelope = .ok commitment
  legacy_ok : legacyCommitmentHash H.noble envelope = .ok legacy
  start_checks : ∀ name, name ≠ .redaction_manifest_valid → name ≠ .schema_valid →
    start.checks name = defaultChecks name
  keyed_ok : keyBlock ⟨H, tools, resolver, policy.withDefaults, backend,
    (expandProofBundleInput H input).1, envelope, commitment, legacy⟩ identity event_hash start =
      .ok keyed
  final_ok : pipeline (verifierBlocks ⟨H, tools, resolver, policy.withDefaults, backend,
    (expandProofBundleInput H input).1, envelope, commitment, legacy⟩) keyed = .ok final
  verdict_ok : verdict policy.withDefaults (expandProofBundleInput H input).1 final = true

/-- Pushing errors leaves a passing verdict only when there are none. -/
theorem verdict_push (h : verdict policy input (r.push errors) = true) :
    errors = [] ∧ verdict policy input r = true := by
  obtain ⟨hm, ho, he, hr⟩ := verdict_iff.mp h
  obtain ⟨hre, herr⟩ := List.append_eq_nil_iff.mp he
  exact ⟨herr, verdict_iff.mpr ⟨hm, ho, hre, hr⟩⟩

theorem verifyEnvelope_verified {policy : VerifierPolicy JsField}
    (h : verifyEnvelope H tools resolver policy.withDefaults backend
      (expandProofBundleInput H input).1 envelope start = .ok result)
    (he : (expandProofBundleInput H input).1.envelope = some envelope)
    (hs : ∀ name, name ≠ .redaction_manifest_valid → name ≠ .schema_valid →
      start.checks name = defaultChecks name)
    (hv : result.verified = true) :
    ∃ V : VerifiedRun H tools input resolver policy backend,
      V.start = start ∧ result.checks = V.final.checks := by
  simp only [verifyEnvelope] at h
  obtain ⟨event_hash, hh, h⟩ := bind_eq_ok.mp h
  obtain ⟨found, hi, h⟩ := bind_eq_ok.mp h
  cases found with
  | none =>
    cases h
    cases hv
  | some identity =>
    obtain ⟨commitment, hc, h⟩ := bind_eq_ok.mp h
    obtain ⟨legacy, hl, h⟩ := bind_eq_ok.mp h
    obtain ⟨keyed, hk, h⟩ := bind_eq_ok.mp h
    obtain ⟨final, hf, h⟩ := bind_eq_ok.mp h
    cases h
    obtain ⟨-, hverdict⟩ := verdict_push hv
    exact ⟨⟨envelope, commitment, legacy, event_hash, identity, start, keyed, final, he, hh, hi,
      bind_eq_ok.mpr ⟨event_hash, hh, hc⟩, bind_eq_ok.mpr ⟨event_hash, hh, hl⟩, hs, hk, hf,
      hverdict⟩, rfl, rfl⟩

/-- Every verified result comes from a run through all the blocks, and has its checks. -/
theorem verifyTSL_final (h : verifyTSL H tools input resolver policy backend = .ok result)
    (hv : result.verified = true) :
    ∃ V : VerifiedRun H tools input resolver policy backend,
      V.start.errors = (openingReport H policy.withDefaults (expandProofBundleInput H input).1
        (expandProofBundleInput H input).2).errors ∧ result.checks = V.final.checks := by
  simp only [verifyTSL] at h
  split at h
  · cases h
    cases hv
  · split at h
    · next envelope he =>
      obtain ⟨V, hstart, hfinal⟩ := verifyEnvelope_verified h he
        (fun _ hr hs => (Report.check_other _ _ hs).trans (openingReport_checks H _ _ _ hr)) hv
      exact ⟨V, by rw [hstart, Report.check_errors], hfinal⟩
    · cases h

theorem verifyTSL_run (h : verifyTSL H tools input resolver policy backend = .ok result)
    (hv : result.verified = true) :
    Nonempty (VerifiedRun H tools input resolver policy backend) := by
  obtain ⟨V, -, -⟩ := verifyTSL_final h hv
  exact ⟨V⟩

/-- A check that no run starts with holds only after a run that found the sender. -/
theorem verifyTSL_checked (h : verifyTSL H tools input resolver policy backend = .ok result)
    (hr : result.checks name = some true) (hd : defaultChecks name = none)
    (hred : name ≠ .redaction_manifest_valid) (hs : name ≠ .schema_valid) :
    ∃ envelope start identity, (expandProofBundleInput H input).1.envelope = some envelope ∧
      resolver envelope.sender envelope.timestamp = .ok (some identity) ∧
      verifyEnvelope H tools resolver policy.withDefaults backend
        (expandProofBundleInput H input).1 envelope start = .ok result := by
  have hopening : (openingReport H policy.withDefaults (expandProofBundleInput H input).1
      (expandProofBundleInput H input).2).checks name = none :=
    (openingReport_checks H _ _ _ hred).trans hd
  simp only [verifyTSL] at h
  split at h
  · cases h
    simp [rejected, Report.check_other _ _ hs, hopening] at hr
  · split at h
    · next envelope he =>
      have hrun := h
      obtain ⟨event, -, h⟩ := bind_eq_ok.mp h
      obtain ⟨found, hfound, h⟩ := bind_eq_ok.mp h
      cases found with
      | none =>
        cases h
        simp [rejected, Report.check_other _ _ hs, hopening] at hr
      | some identity => exact ⟨envelope, _, identity, he, hfound, hrun⟩
    · cases h

/-- The commitment of a result is the one of the envelope. -/
theorem verifyTSL_commitment (h : verifyTSL H tools input resolver policy backend = .ok result)
    (hc : result.commitment_hash = some c) :
    ∃ envelope, (expandProofBundleInput H input).1.envelope = some envelope ∧
      commitmentHash H.noble envelope = .ok c := by
  simp only [verifyTSL] at h
  split at h
  · cases h
    cases hc
  · split at h
    · next envelope he =>
      simp only [verifyEnvelope] at h
      obtain ⟨event_hash, hh, h⟩ := bind_eq_ok.mp h
      obtain ⟨found, -, h⟩ := bind_eq_ok.mp h
      cases found with
      | none =>
        cases h
        cases hc
      | some identity =>
        obtain ⟨commitment, hcommit, h⟩ := bind_eq_ok.mp h
        obtain ⟨legacy, -, h⟩ := bind_eq_ok.mp h
        obtain ⟨keyed, -, h⟩ := bind_eq_ok.mp h
        obtain ⟨final, -, h⟩ := bind_eq_ok.mp h
        cases h
        cases hc
        exact ⟨envelope, he, bind_eq_ok.mpr ⟨event_hash, hh, hcommit⟩⟩
    · cases h

namespace VerifiedRun

variable {H : Host} {tools : Recomputation} {input : VerifyTSLInput} {resolver : TrustResolver}
  {policy : VerifierPolicy JsField} {backend : Option SettlementBackend}

/-- What the blocks of the run read. -/
def context (V : VerifiedRun H tools input resolver policy backend) : Context :=
  ⟨H, tools, resolver, policy.withDefaults, backend, (expandProofBundleInput H input).1,
    V.envelope, V.commitment, V.legacy⟩

variable (V : VerifiedRun H tools input resolver policy backend)

theorem mandatory (h : name ∈ mandatoryChecks) : V.final.checks name = some true :=
  (verdict_iff.mp V.verdict_ok).1 name h

theorem optional_ne (h : name ∈ optionalChecks) : V.final.checks name ≠ some false :=
  (verdict_iff.mp V.verdict_ok).2.1 name h

theorem quiet : V.final.errors = [] := (verdict_iff.mp V.verdict_ok).2.2.1

theorem required
    (h : (true, name) ∈ requiredChecks policy.withDefaults (expandProofBundleInput H input).1) :
    V.final.checks name = some true :=
  (verdict_iff.mp V.verdict_ok).2.2.2 _ h rfl

/-- No error stood in the report before the envelope was looked at. -/
theorem start_quiet : V.start.errors = [] := by
  have hkeyed : Advances (ownedBy (ownedBlocks V.context)) V.keyed V.final := by
    apply pipeline_frame
    rw [ownedBlocks_run]
    exact V.final_ok
  have hstart := keyBlock_owns V.context V.identity V.event_hash V.start V.keyed V.keyed_ok
  exact hstart.quiet (hkeyed.quiet V.quiet)

/-- The report before and after one block of the run. -/
theorem block (n : Nat) (hn : n < 25) :
    ∃ r r', Advances (ownedBy ((ownedBlocks V.context).take n)) V.keyed r ∧
      ((ownedBlocks V.context)[n]).run r = .ok r' ∧
      Advances (ownedBy ((ownedBlocks V.context).drop (n + 1))) r' V.final := by
  have h := V.final_ok
  rw [← ownedBlocks_run] at h
  exact pipeline_at h n hn

end VerifiedRun

end Continuity

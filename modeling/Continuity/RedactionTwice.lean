import Continuity.DisclosureManifest

namespace Continuity
set_option autoImplicit true

section Again

variable {H : Host} {bundle : ProofBundleV1} {options : ProofBundleDisclosureOptions}
  {can : Disclosable}

/-- The decisions about a bundle that was filtered before. -/
abbrev Disclosable.again (can : Disclosable) : Disclosable :=
  { can with privateGraph := true, privateMetadata := true }

/-- A fixed time is all that a consent is measured by. -/
theorem allows_later (htime : options.at_time_ms = some t) (H : Host) (later : Int)
    (subject : TrustID) (fieldClasses : List JsString) :
    proofBundleAllowsFieldClass { H with now := later } subject fieldClasses options =
      proofBundleAllowsFieldClass H subject fieldClasses options := by
  have hsame : ∀ (q : ConsentQuestion), q.at_time_ms = some t →
      q.consentGrants { H with now := later } = q.consentGrants H := by
    intro q hq
    funext consent
    simp only [ConsentQuestion.consentGrants, ConsentQuestion.time, hq, Option.getD_some]
    rfl
  rw [proofBundleAllowsFieldClass, ConsentQuestion.consentAllows, hsame _ htime]
  rfl

/-- What is still there was disclosed, so the second run decides as the first one did. -/
theorem Decided.again (h : Decided H bundle options can) (htime : options.at_time_ms = some t)
    (later : Int) :
    Decided { H with now := later } (redacted can bundle) options can.again where
  counterparties := by
    rw [allows_later htime]
    exact h.counterparties
  restrictedAttestations := by
    rw [allows_later htime]
    exact h.restrictedAttestations
  rawContent := by
    rw [allows_later htime, redacted_rawMessage]
    have hgiven := h.rawContent
    cases hr : can.rawContent with
    | true => rwa [hr] at hgiven
    | false => rfl
  contentSalt := by
    rw [allows_later htime, redacted_contentSalt]
    have hgiven := h.contentSalt
    cases hs : can.contentSalt with
    | true => rwa [hs] at hgiven
    | false => rfl
  privateGraph := by
    rw [allows_later htime]
    have hgiven := h.privateGraph
    cases hg : can.privateGraph with
    | true =>
      rw [hg] at hgiven
      rw [ProofBundleV1.hasPrivateGraph, redacted_graph, hg, if_pos rfl]
      exact hgiven
    | false =>
      rw [ProofBundleV1.hasPrivateGraph, redacted_graph, hg]
      rfl
  privateMetadata := by
    rw [allows_later htime]
    have hgiven := h.privateMetadata
    cases hm : can.privateMetadata with
    | true =>
      rw [hm] at hgiven
      rw [ProofBundleV1.hasPrivateMetadata, redacted_metadata, hm, if_pos rfl]
      exact hgiven
    | false =>
      rw [ProofBundleV1.hasPrivateMetadata, redacted_metadata, hm]
      rfl

/-- A discloser without any consent, at a fixed time. -/
def atFixedTime : ProofBundleDisclosureOptions := { noConsents with at_time_ms := some (some 0) }

end Again

end Continuity

import Continuity.DelegationScope

namespace Continuity
open Collections
set_option autoImplicit true

namespace DelegationInput

/-- The disclosed parameters stay within the limits of a policy that are not checked while they are
hidden. -/
structure Tolerates (I : DelegationInput) (parameters : JsObject) (policy : DelegationPolicyV2) :
    Prop where
  counterparty : ∀ listed, policy.constraints.allowed_counterparty_commitments = some listed →
    ∀ c, getField parameters (js "counterparty_commitment") = .str c → c ∈ listed
  value : I.action.value_minor_units = none →
    ∀ v, getField parameters (js "value_minor_units") = .num v →
      ∀ limit, policy.constraints.max_value_minor_units = some limit → v.le limit = true
  approval : I.action.value_minor_units = none →
    ∀ v, getField parameters (js "value_minor_units") = .num v →
      ∀ limit, policy.constraints.requires_human_approval_above_minor_units = some limit →
        limit.lt v = true → truthy I.action.human_approval_proof = true

/-- The same call with other parameters. -/
def disclosing (I : DelegationInput) (parameters : Option JsObject) : DelegationInput :=
  { I with parameters }

variable {H : Host} {I : DelegationInput} {parameters : JsObject}

theorem disclosedValue_integer (h : parametersCommitment N parameters = .ok c) :
    ∃ z, disclosedValue (some parameters) = .ofInt z := by
  unfold disclosedValue
  split
  · next n hn => exact (parametersCommitment_field h hn).integer
  · exact ⟨0, by simp [JsNumber.ofNat, JsNumber.ofInt]⟩

/-- A disclosed value other than 0 is stated. -/
theorem disclosedValue_stated (h : disclosedValue (some parameters) = .ofInt z) (hz : z ≠ 0) :
    getField parameters (js "value_minor_units") = .num (.ofInt z) := by
  unfold disclosedValue at h
  split at h
  · next n hn =>
    rw [← h]
    exact hn
  · simp only [JsNumber.ofNat, JsNumber.ofInt, JsNumber.fin.injEq] at h
    exact absurd (by exact_mod_cast h.symm) hz

theorem disclosing_value_stated (h : I.action.value_minor_units = some v)
    (parameters : Option JsObject) : (I.disclosing parameters).value = (I.disclosing none).value := by
  simp [value, valueFromAction, disclosing, h]

theorem disclosing_value (h : I.action.value_minor_units = none)
    (hz : disclosedValue (some parameters) = .ofInt z) :
    (I.disclosing (some parameters)).value = .ofInt (max 0 z) := by
  simp [value, valueFromAction, disclosing, h, hz]

theorem disclosing_none_value (h : I.action.value_minor_units = none) :
    (I.disclosing none).value = .ofInt 0 := by
  have hz : disclosedValue none = .ofInt 0 := by
    simp [disclosedValue, parameterField, JsNumber.ofNat, JsNumber.ofInt]
  simp [value, valueFromAction, disclosing, h, hz]

/-- Parameters change nothing but the demand for an approval in the variables of the loop. -/
theorem stateBelow_disclosing (I : DelegationInput) (parameters : Option JsObject)
    (chain : List DelegationPolicyV2) :
    (I.disclosing parameters).stateBelow chain = { (I.disclosing none).stateBelow chain with
      requiresHumanApproval :=
        ((I.disclosing parameters).stateBelow chain).requiresHumanApproval } := by
  induction chain with
  | nil => rfl
  | cons policy chain ih =>
    rw [stateBelow_cons, stateBelow_cons]
    by_cases ha : policy.effect = .allow
    · rw [advance, advance, if_pos ha, if_pos ha, ih]
    · rw [advance_deny ha, advance_deny ha]
      exact ih

theorem Link.disclosing (h : Link H (I.disclosing none) at_ ((I.disclosing none).stateBelow after)
    policy) (parameters : Option JsObject) :
    Link H (I.disclosing parameters) at_ ((I.disclosing parameters).stateBelow after) policy := by
  rw [stateBelow_disclosing]
  exact ⟨h.not_revoked, h.not_early, h.not_late, h.delegate, h.parent, h.not_denied⟩

/-- A hidden currency is none that a policy names. -/
theorem currency_hidden (h : (I.disclosing none).currencyDiffers constraints = false) :
    truthy constraints.currency = false := by
  simpa [currencyDiffers, disclosing, parameterField, strictEq] using h

theorem WithinLimits.disclosing (h : WithinLimits (I.disclosing none) depth policy)
    (ht : Tolerates I parameters policy) :
    WithinLimits (I.disclosing (some parameters)) depth policy := by
  refine ⟨h.subdelegated, h.tool, h.tool_not_denied, ?_, ?_, h.window⟩
  · simp [currencyDiffers, currency_hidden h.currency]
  · simp only [counterpartyNotAllowed, DelegationInput.disclosing, parameterField,
      Option.any_eq_false]
    intro listed hl
    split
    · next c hc => simpa using ht.counterparty listed hl c hc
    · simp

theorem Verified.tolerates (h : Verified H (I.disclosing (some parameters)) at_)
    (hm : policy ∈ I.delegation_chain) (ha : policy.effect = .allow) :
    Tolerates I parameters policy := by
  obtain ⟨after, hp⟩ := h.passes hm
  refine ⟨?_, ?_, ?_⟩
  · intro listed hl c hc
    have hcp := (hp.within ha).counterparty
    simp only [counterpartyNotAllowed, disclosing, parameterField, Option.any_eq_false] at hcp
    have hlisted := hcp listed hl
    rw [hc] at hlisted
    simpa using hlisted
  · intro hn v hv limit hl
    apply h.value_le hm ha hl
    simp [disclosing, hn, disclosedValue, parameterField, hv]
  · intro hn v hv limit hl hlt
    have hd : disclosedValue (some parameters) = v := by
      simp [disclosedValue, parameterField, hv]
    obtain ⟨z, rfl⟩ := h.disclosed_integer (n := v) hv
    obtain ⟨l, rfl⟩ := h.threshold_integer hm hl
    refine (h.scopes hm ha).2.2 ?_
    have hexceeds : (JsNumber.ofInt l).lt (I.disclosing (some parameters)).value = true := by
      rw [disclosing_value hn hd]
      simp only [JsNumber.ofInt_lt, decide_eq_true_eq] at hlt ⊢
      omega
    simp [demandsApproval, hl, hexceeds]

/-- The demand for an approval that disclosure adds is met. -/
theorem Verified.approved (h : Verified H (I.disclosing none) at_)
    (hc : parametersCommitment H.noble parameters = .ok I.action.parameters_commitment)
    (hm : policy ∈ I.delegation_chain) (ha : policy.effect = .allow)
    (ht : Tolerates I parameters policy)
    (hd : (I.disclosing (some parameters)).demandsApproval policy.constraints = true) :
    truthy I.action.human_approval_proof = true := by
  have hhidden := (h.scopes hm ha).2.2
  simp only [demandsApproval, Bool.or_eq_true, beq_iff_eq, Option.any_eq_true] at hd hhidden
  rcases hd with hd | ⟨limit, hl, hlt⟩
  · exact hhidden (.inl hd)
  · cases hv : I.action.value_minor_units with
    | some stated =>
      rw [disclosing_value_stated hv] at hlt
      exact hhidden (.inr ⟨limit, hl, hlt⟩)
    | none =>
      obtain ⟨z, hz⟩ := disclosedValue_integer hc
      obtain ⟨l, rfl⟩ := h.threshold_integer hm hl
      rw [disclosing_value hv hz, JsNumber.ofInt_lt, decide_eq_true_eq] at hlt
      -- A disclosed value of at most 0 counts as the hidden one does.
      by_cases hpos : 0 < z
      · refine ht.approval hv _ (disclosedValue_stated hz (by omega)) _ hl ?_
        rw [JsNumber.ofInt_lt, decide_eq_true_eq]
        omega
      · refine hhidden (.inr ⟨_, hl, ?_⟩)
        rw [disclosing_none_value hv, JsNumber.ofInt_lt, decide_eq_true_eq]
        omega

/-- The value limits hold for the disclosed value. -/
theorem Verified.within_disclosed (h : Verified H (I.disclosing none) at_)
    (hc : parametersCommitment H.noble parameters = .ok I.action.parameters_commitment)
    (ht : ∀ policy ∈ I.delegation_chain, policy.effect = .allow → Tolerates I parameters policy) :
    ((I.disclosing none).stateBelow I.delegation_chain).maxValue.lt
      (I.disclosing (some parameters)).value = false := by
  have hs := h.scope (((I.disclosing none).stateBelow I.delegation_chain).maxValue.lt
    (I.disclosing none).value, "TSL_DELEGATION_VALUE_LIMIT_EXCEEDED")
    (by simp [scopeChecks, disclosing])
  cases hv : I.action.value_minor_units with
  | some stated =>
    rw [disclosing_value_stated hv]
    exact hs
  | none =>
    obtain ⟨z, hz⟩ := disclosedValue_integer hc
    rw [disclosing_none_value hv] at hs
    rw [disclosing_value hv hz]
    by_cases hpos : 0 < z
    · have hstated := disclosedValue_stated hz (by omega)
      have hsafe := (parametersCommitment_field hc hstated).1
      simp only [JsNumber.isSafeInteger, JsNumber.toInt?_ofInt, decide_eq_true_eq] at hsafe
      rw [Int.max_eq_right (by omega)]
      refine (maxValue_lt h.limit_integer z).mpr ⟨by omega, ?_⟩
      intro policy hm ha limit hl
      exact (ht policy hm ha).value hv _ hstated limit hl
    · rw [Int.max_eq_left (by omega)]
      exact hs

theorem scope_encodable {s : ChainState} (h : canonicalBytes s.scope = .ok bytes)
    (requiresHumanApproval : Bool) :
    ∃ bytes, canonicalBytes { s with requiresHumanApproval }.scope = .ok bytes := by
  obtain ⟨ha, hr, hm, -⟩ := canonicalBytes_encodable h
  exact canonicalBytes_total ⟨ha, hr, hm, True.intro, True.intro⟩

theorem Verified.disclosing (h : Verified H (I.disclosing none) at_)
    (hc : parametersCommitment H.noble parameters = .ok I.action.parameters_commitment)
    (ht : ∀ policy ∈ I.delegation_chain, policy.effect = .allow → Tolerates I parameters policy) :
    Verified H (I.disclosing (some parameters)) at_ where
  time := h.time
  signed := h.signed
  opened := by
    simp only [parametersMatch, DelegationInput.disclosing, hc]
    exact congrArg Except.ok (beq_self_eq_true _)
  head := h.head
  root := h.root
  links := by
    intro before policy after hchain
    have hp := h.links before policy after hchain
    have hm : policy ∈ I.delegation_chain := by
      rw [show I.delegation_chain = before ++ policy :: after from hchain]
      simp
    exact ⟨hp.signed, linkChecks_iff.mpr (hp.link.disclosing _),
      fun ha => grantChecks_iff.mpr ((hp.within ha).disclosing (ht policy hm ha))⟩
  scope := by
    have hs := h.scope
    simp only [scopeChecks, List.mem_cons, List.not_mem_nil, or_false, forall_eq_or_imp,
      forall_eq] at hs ⊢
    rw [stateBelow_disclosing]
    refine ⟨hs.1, hs.2.1, h.within_disclosed hc ht, ?_⟩
    rw [Bool.and_eq_false_imp]
    intro hrequired
    obtain ⟨policy, hm, ha, hd⟩ := requiresHumanApproval_iff.mp hrequired
    rw [Bool.not_eq_false']
    exact h.approved hc hm ha (ht policy hm ha) hd
  commits := by
    obtain ⟨bytes, hb⟩ := h.commits
    rw [stateBelow_disclosing]
    exact scope_encodable hb _

/-- For parameters that open the commitment of an action which is authorised while they are hidden:
it is authorised with them exactly when every grant of the chain tolerates them. -/
theorem verifyDelegatedAgentActionV0_disclosed
    (hc : parametersCommitment H.noble parameters = .ok I.action.parameters_commitment)
    (h : ∃ outcome, verifyDelegatedAgentActionV0 H { I with parameters := none } = .ok outcome ∧
      outcome.ok = true) :
    (∃ outcome, verifyDelegatedAgentActionV0 H { I with parameters := some parameters } =
        .ok outcome ∧ outcome.ok = true) ↔
      ∀ policy ∈ I.delegation_chain, policy.effect = .allow → Tolerates I parameters policy := by
  obtain ⟨at_, hv⟩ := verified_iff.mp h
  constructor
  · intro hd policy hm ha
    obtain ⟨_, hv'⟩ := verified_iff.mp hd
    exact Verified.tolerates hv' hm ha
  · intro ht
    exact verified_iff.mpr ⟨at_, Verified.disclosing hv hc ht⟩

/-- Both payments are authorised with hidden parameters, and the higher one is refused with its
parameters. -/
theorem highHost_runs :
    let high := sampleDelegation highAction payPolicy
    let granted := sampleDelegation grantedAction payPolicy
    (parametersCommitment highHost.noble (sampleParameters 5000) =
        .ok highAction.parameters_commitment ∧
      (fun outcome => outcome.ok) <$> verifyDelegatedAgentActionV0 highHost (high none) =
        .ok true ∧
      (fun outcome => (outcome.ok, outcome.error_code)) <$> verifyDelegatedAgentActionV0 highHost
        (high (some (sampleParameters 5000))) =
          .ok (false, some "TSL_DELEGATION_VALUE_LIMIT_EXCEEDED")) ∧
    parametersCommitment highHost.noble (sampleParameters 900) =
        .ok grantedAction.parameters_commitment ∧
      (fun outcome => outcome.ok) <$> verifyDelegatedAgentActionV0 highHost (granted none) =
        .ok true := by
  refine ⟨⟨?_, ?_, ?_⟩, ?_, ?_⟩ <;> decide +kernel

/-- A payment of 5000 under a limit of 1000 is authorised while its parameters are hidden, and
refused with them. -/
theorem verifyDelegatedAgentActionV0_hidden :
    let I := sampleDelegation highAction payPolicy
    parametersCommitment highHost.noble (sampleParameters 5000) =
        .ok highAction.parameters_commitment ∧
      (fun outcome => outcome.ok) <$> verifyDelegatedAgentActionV0 highHost (I none) = .ok true ∧
      (fun outcome => (outcome.ok, outcome.error_code)) <$> verifyDelegatedAgentActionV0 highHost
        (I (some (sampleParameters 5000))) =
          .ok (false, some "TSL_DELEGATION_VALUE_LIMIT_EXCEEDED") :=
  highHost_runs.1

theorem verifyDelegatedAgentActionV0_disclosed_sample :
    let I := sampleDelegation grantedAction payPolicy
    parametersCommitment highHost.noble (sampleParameters 900) =
        .ok grantedAction.parameters_commitment ∧
      (fun outcome => outcome.ok) <$> verifyDelegatedAgentActionV0 highHost (I none) = .ok true ∧
      ∃ outcome, verifyDelegatedAgentActionV0 highHost (I (some (sampleParameters 900))) =
        .ok outcome ∧ outcome.ok = true := by
  have hok : parametersCommitment highHost.noble (sampleParameters 900) =
        .ok grantedAction.parameters_commitment ∧
      (fun outcome => outcome.ok) <$> verifyDelegatedAgentActionV0 highHost
        (sampleDelegation grantedAction payPolicy none) = .ok true :=
    highHost_runs.2
  refine ⟨hok.1, hok.2, (verifyDelegatedAgentActionV0_disclosed
    (I := sampleDelegation grantedAction payPolicy none) hok.1 (map_eq_ok.mp hok.2)).mpr ?_⟩
  intro policy hm _
  rw [List.mem_singleton.mp hm]
  refine ⟨?_, ?_, ?_⟩
  · intro listed hl
    cases hl
  · intro _ v hv limit hl
    cases hv
    cases hl
    decide
  · intro _ v _ limit hl
    cases hl

end DelegationInput

end Continuity

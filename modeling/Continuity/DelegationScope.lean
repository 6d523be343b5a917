import Continuity.DelegationGrant

namespace Continuity
open Collections
set_option autoImplicit true

section Integers

variable {N : Noble}

/-- A field of a hashed object has a canonical text. -/
theorem hashSignedObject_field (h : hashSignedObject N tag fields = .ok c)
    (hm : (key, value) ∈ fields) (hk : key ≠ js "signature") (hu : value.isUndefined = false) :
    Encodable value := by
  obtain ⟨bytes, hb, -⟩ := bind_eq_ok.mp h
  have he : EncodableFields (withoutSignature fields) := canonicalBytes_encodable hb
  refine encodableFields_iff.mp he (key, value) ?_
  simp only [withoutSignature, withoutField, List.mem_filter, Bool.and_eq_true, bne_iff_ne, ne_eq,
    Bool.not_eq_true']
  exact ⟨hm, hk, hu⟩

theorem Encodable.integer (h : Encodable (.num n)) : ∃ z, n = .ofInt z :=
  JsNumber.eq_ofInt h.1 h.2

/-- The numbers in the constraints of a hashed policy are integers. -/
theorem delegationPolicyV2Hash_integer {policy : DelegationPolicyV2}
    (h : delegationPolicyV2Hash N policy = .ok c)
    (hm : (key, .num n) ∈ policy.constraints.toFields) : ∃ z, n = .ofInt z := by
  have he : Encodable (.obj policy.constraints.toFields) := by
    have hc : (js "constraints", JsValue.obj policy.constraints.toFields) ∈ policy.toFields := by
      simp [DelegationPolicyV2.toFields]
    exact hashSignedObject_field h hc (by decide) rfl
  exact (encodableFields_iff.mp he _ hm).integer

theorem agentActionV2Hash_integer {action : AgentActionV2} (h : agentActionV2Hash N action = .ok c)
    (hv : action.value_minor_units = some n) : ∃ z, n = .ofInt z := by
  have hm : (js "value_minor_units", JsValue.num n) ∈ action.toFields := by
    simp [AgentActionV2.toFields, hv, optField]
  exact (hashSignedObject_field h hm (by decide) rfl).integer

theorem getField_mem {fields : JsObject} (h : getField fields key = value)
    (hu : value.isUndefined = false) : (key, value) ∈ fields := by
  unfold getField at h
  split at h
  · next entry hf =>
    have hk := List.find?_some hf
    rw [beq_iff_eq] at hk
    rw [← h, ← hk]
    exact List.mem_of_find?_eq_some hf
  · rw [← h] at hu
    cases hu

theorem parametersCommitment_field {parameters : JsObject}
    (h : parametersCommitment N parameters = .ok c) (hv : getField parameters key = .num n) :
    Encodable (.num n) := by
  obtain ⟨bytes, hb, -⟩ := bind_eq_ok.mp h
  have he : EncodableFields parameters := canonicalBytes_encodable hb
  exact encodableFields_iff.mp he _ (getField_mem hv rfl)

end Integers

theorem keySigns_true {hash : Js Hex32} (h : keySigns N keys owner hash signature = .ok true) :
    ∃ key c, keys.get? owner = some key ∧ hash = .ok c ∧
      verifyEd25519 N key c signature = .ok true := by
  unfold keySigns at h
  split at h
  · next ht =>
    obtain ⟨key, hk, -⟩ := truthy_iff.mp ht
    obtain ⟨c, hc, hv⟩ := bind_eq_ok.mp h
    rw [hk] at hv
    exact ⟨key, c, hk, hc, hv⟩
  · cases h

namespace DelegationInput

variable {H : Host} {I : DelegationInput}

theorem Verified.passes (h : Verified H I at_) (hm : policy ∈ I.delegation_chain) :
    ∃ after, Passes H I at_ after.length (I.stateBelow after) policy := by
  obtain ⟨before, after, hchain⟩ := List.append_of_mem hm
  exact ⟨after, h.links before policy after hchain⟩

theorem Passes.hashed (h : Passes H I at_ depth s policy) :
    ∃ c, delegationPolicyV2Hash H.noble policy = .ok c := by
  obtain ⟨_, c, -, hc, -⟩ := keySigns_true h.signed
  exact ⟨c, hc⟩

theorem Verified.constraint_integer (h : Verified H I at_) (hm : policy ∈ I.delegation_chain)
    (hf : (key, .num n) ∈ policy.constraints.toFields) : ∃ z, n = .ofInt z := by
  obtain ⟨after, hp⟩ := h.passes hm
  obtain ⟨c, hc⟩ := hp.hashed
  exact delegationPolicyV2Hash_integer hc hf

theorem Verified.limit_integer (h : Verified H I at_) : ∀ policy ∈ I.delegation_chain, ∀ limit,
    policy.constraints.max_value_minor_units = some limit → ∃ m, limit = .ofInt m := by
  intro policy hm limit hl
  have hf : (js "max_value_minor_units", JsValue.num limit) ∈ policy.constraints.toFields := by
    simp [DelegationConstraints.toFields, hl, optField]
  exact h.constraint_integer hm hf

theorem Verified.threshold_integer (h : Verified H I at_) (hm : policy ∈ I.delegation_chain)
    (hl : policy.constraints.requires_human_approval_above_minor_units = some limit) :
    ∃ l, limit = .ofInt l := by
  have hf : (js "requires_human_approval_above_minor_units", JsValue.num limit) ∈
      policy.constraints.toFields := by
    simp [DelegationConstraints.toFields, hl, optField]
  exact h.constraint_integer hm hf

theorem parametersMatch_true {parameters : JsObject} (h : I.parametersMatch H = .ok true)
    (hp : I.parameters = some parameters) :
    parametersCommitment H.noble parameters = .ok I.action.parameters_commitment := by
  unfold parametersMatch at h
  rw [hp] at h
  obtain ⟨c, hc, h⟩ := bind_eq_ok.mp h
  have he := Except.ok.inj h
  rw [beq_iff_eq] at he
  rw [hc, he]

theorem Verified.disclosed_integer (h : Verified H I at_)
    (hv : parameterField I.parameters (js "value_minor_units") = .num n) :
    ∃ z, n = .ofInt z := by
  cases hp : I.parameters with
  | none =>
    rw [hp] at hv
    cases hv
  | some parameters =>
    rw [hp] at hv
    exact (parametersCommitment_field (parametersMatch_true h.opened hp) hv).integer

/-- The value of an authorised action is an integer, and at least as large as the one that it
states or, if it states none, as the disclosed one. -/
theorem Verified.value_integer (h : Verified H I at_) :
    ∃ z, I.action.value_minor_units.getD (disclosedValue I.parameters) = .ofInt z ∧
      I.value = .ofInt (max 0 z) := by
  have hz : ∃ z, I.action.value_minor_units.getD (disclosedValue I.parameters) = .ofInt z := by
    cases hv : I.action.value_minor_units with
    | some n =>
      obtain ⟨_, c, -, hc, -⟩ := keySigns_true h.signed
      exact agentActionV2Hash_integer hc hv
    | none =>
      rw [Option.getD_none, disclosedValue]
      split
      · next n hn => exact h.disclosed_integer hn
      · exact ⟨0, by simp [JsNumber.ofNat, JsNumber.ofInt]⟩
  obtain ⟨z, hz⟩ := hz
  exact ⟨z, hz, by simp [value, valueFromAction, hz]⟩

/-- The action stays within a grant of its chain, with `after` behind it. -/
structure Attenuates (H : Host) (I : DelegationInput) (at_ : Int) (policy : DelegationPolicyV2)
    (after : List DelegationPolicyV2) : Prop where
  signed : ∃ key c, I.public_keys.get? policy.principal = some key ∧
    delegationPolicyV2Hash H.noble policy = .ok c ∧
    verifyEd25519 H.noble key c policy.signature = .ok true
  not_revoked : policy.policy_id ∉ I.revoked_policy_ids.getD [] ∧
    policy.revocation_pointer ∉ I.revoked_pointers.getD []
  valid : ∃ start finish, H.parse policy.valid_from = some start ∧
    H.parse policy.valid_until = some finish ∧ start ≤ at_ ∧ at_ < finish
  covers : actionMatches policy.actions I.action.action = true ∧
    resourcesMatch policy.resources I.action.resource = true
  tool : ∀ tools, policy.constraints.allowed_tools = some tools →
    ∃ tool, I.action.tool = some tool ∧ tool ∈ tools
  tool_not_denied : ∀ tools, policy.constraints.denied_tools = some tools →
    ∀ tool, I.action.tool = some tool → tool ∉ tools
  currency : ∀ currency, policy.constraints.currency = some currency → currency ≠ [] →
    parameterField I.parameters (js "currency") = .str currency
  value : ∀ limit, policy.constraints.max_value_minor_units = some limit →
    ∀ v, I.action.value_minor_units = some v → v.le limit = true
  disclosed : ∀ limit, policy.constraints.max_value_minor_units = some limit →
    ∀ v, parameterField I.parameters (js "value_minor_units") = .num v → v.le limit = true
  approval : I.demandsApproval policy.constraints = true →
    truthy I.action.human_approval_proof = true
  subdelegation : after ≠ [] → ∃ sub, policy.subdelegation = some sub ∧
    sub.allowed = some true ∧
    (∀ limit, sub.max_depth = some limit → limit.lt (.ofNat after.length) = false) ∧
    ∀ actions, sub.allowed_actions = some actions → actionMatches actions I.action.action = true

/-- The action stays within every grant of the chain, and no denial meets it. -/
def AttenuatesAll (H : Host) (I : DelegationInput) (at_ : Int) : Prop :=
  (∀ before policy after, I.delegation_chain = before ++ policy :: after →
    policy.effect = .allow → Attenuates H I at_ policy after) ∧
    ∀ policy ∈ I.delegation_chain, policy.effect = .deny →
      policyMatchesAction policy I.action = false

/-- The dates of the policy can be read, and the disclosed value of an action that states a value
of its own is within its limit. -/
structure Readable (H : Host) (I : DelegationInput) (policy : DelegationPolicyV2) : Prop where
  valid_from : (H.parse policy.valid_from).isSome = true
  valid_until : (H.parse policy.valid_until).isSome = true
  disclosed : I.action.value_minor_units.isSome = true →
    ∀ limit, policy.constraints.max_value_minor_units = some limit →
      ∀ v, parameterField I.parameters (js "value_minor_units") = .num v → v.le limit = true

theorem Verified.scopes (h : Verified H I at_) (hm : policy ∈ I.delegation_chain)
    (ha : policy.effect = .allow) :
    actionMatches policy.actions I.action.action = true ∧
      resourcesMatch policy.resources I.action.resource = true ∧
      (I.demandsApproval policy.constraints = true →
        truthy I.action.human_approval_proof = true) := by
  have hs := h.scope
  simp only [scopeChecks, List.mem_cons, List.not_mem_nil, or_false, forall_eq_or_imp, forall_eq,
    List.any_eq_false, Bool.not_eq_true', Bool.not_eq_false, Bool.and_eq_false_imp] at hs
  obtain ⟨hactions, hresources, -, happroval⟩ := hs
  refine ⟨hactions _ (mem_allowedActions.mpr ⟨policy, hm, ha, rfl⟩),
    hresources _ (mem_allowedResources.mpr ⟨policy, hm, ha, rfl⟩), ?_⟩
  intro hd
  simpa using happroval (requiresHumanApproval_iff.mpr ⟨policy, hm, ha, hd⟩)

theorem Verified.within_limits (h : Verified H I at_) (hm : policy ∈ I.delegation_chain)
    (ha : policy.effect = .allow) (hl : policy.constraints.max_value_minor_units = some limit) :
    I.value.le limit = true := by
  have hs := h.scope ((I.stateBelow I.delegation_chain).maxValue.lt I.value,
    "TSL_DELEGATION_VALUE_LIMIT_EXCEEDED") (by simp [scopeChecks])
  obtain ⟨z, -, hz⟩ := h.value_integer
  rw [hz] at hs ⊢
  exact ((maxValue_lt h.limit_integer _).mp hs).2 policy hm ha limit hl

theorem toolNotAllowed_false (h : I.toolNotAllowed constraints = false)
    (ht : constraints.allowed_tools = some tools) :
    ∃ tool, I.action.tool = some tool ∧ tool ∈ tools := by
  simp only [toolNotAllowed, ht, Option.any_some, Bool.or_eq_false_iff, Bool.not_eq_false'] at h
  obtain ⟨tool, hs, -⟩ := truthy_iff.mp h.1
  refine ⟨tool, hs, ?_⟩
  simpa [hs] using h.2

theorem toolDenied_false (h : I.toolDenied constraints = false)
    (ht : constraints.denied_tools = some tools) (hs : I.action.tool = some tool) :
    tool ∉ tools := by
  simp only [toolDenied, ht, Option.any_some, hs, Option.getD_some] at h
  simpa using h

theorem currencyDiffers_false (h : I.currencyDiffers constraints = false)
    (hc : constraints.currency = some currency) (hne : currency ≠ []) :
    parameterField I.parameters (js "currency") = .str currency := by
  have ht : truthy (some currency) = true := truthy_iff.mpr ⟨currency, rfl, hne⟩
  simp only [currencyDiffers, hc, ht, Bool.true_and, Option.getD_some, Bool.not_eq_false'] at h
  revert h
  cases parameterField I.parameters (js "currency") <;> simp [strictEq]

theorem timeLt_false (h : timeLt (some a) (some b) = false) : b ≤ a := by
  simpa [timeLt] using h

theorem timeLe_false (h : timeLe (some a) (some b) = false) : b < a := by
  simpa [timeLe] using h

theorem Verified.value_le (h : Verified H I at_) (hm : policy ∈ I.delegation_chain)
    (ha : policy.effect = .allow) (hl : policy.constraints.max_value_minor_units = some limit)
    (hv : I.action.value_minor_units.getD (disclosedValue I.parameters) = v) :
    v.le limit = true := by
  obtain ⟨m, rfl⟩ := h.limit_integer policy hm limit hl
  obtain ⟨z, hz, hval⟩ := h.value_integer
  have hle := h.within_limits hm ha hl
  rw [hval] at hle
  rw [← hv, hz]
  simp only [JsNumber.ofInt_le, decide_eq_true_eq] at hle ⊢
  omega

/-- For an action that the verifier authorises, every grant of the chain bounds it and no denial
meets it exactly when the dates of the grants can be read and a disclosed value that the action
overrides is within their limits. -/
theorem verifyDelegatedAgentActionV0_attenuates
    (h : ∃ outcome, verifyDelegatedAgentActionV0 H I = .ok outcome ∧ outcome.ok = true) :
    (∃ at_, H.parse I.action.issued_at = some at_ ∧ AttenuatesAll H I at_) ↔
      ∀ policy ∈ I.delegation_chain, policy.effect = .allow → Readable H I policy := by
  obtain ⟨at_, hv⟩ := verified_iff.mp h
  constructor
  · rintro ⟨_, -, hall, -⟩ policy hm ha
    obtain ⟨before, after, hchain⟩ := List.append_of_mem hm
    have hp := hall before policy after hchain ha
    obtain ⟨start, finish, hs, hf, -, -⟩ := hp.valid
    exact ⟨by rw [hs]; rfl, by rw [hf]; rfl, fun _ => hp.disclosed⟩
  · intro hread
    refine ⟨at_, hv.time, ?_, ?_⟩
    · intro before policy after hchain ha
      have hm : policy ∈ I.delegation_chain := by simp [hchain]
      have hp := hv.links before policy after hchain
      have hr := hread policy hm ha
      have hlink := hp.link
      have hlimits := hp.within ha
      obtain ⟨hactions, hresources, happroval⟩ := hv.scopes hm ha
      obtain ⟨start, hstart⟩ := Option.isSome_iff_exists.mp hr.valid_from
      obtain ⟨finish, hfinish⟩ := Option.isSome_iff_exists.mp hr.valid_until
      refine {
        signed := keySigns_true hp.signed
        not_revoked := by simpa [revoked] using hlink.not_revoked
        valid := ⟨start, finish, hstart, hfinish, timeLt_false (hstart ▸ hlink.not_early),
          timeLe_false (hfinish ▸ hlink.not_late)⟩
        covers := ⟨hactions, hresources⟩
        tool := fun _ => toolNotAllowed_false hlimits.tool
        tool_not_denied := fun _ ht _ => toolDenied_false hlimits.tool_not_denied ht
        currency := fun _ => currencyDiffers_false hlimits.currency
        value := fun limit hl v hs => hv.value_le hm ha hl (by rw [hs]; rfl)
        disclosed := ?_
        approval := happroval
        subdelegation := fun hne =>
          hlimits.subdelegated (List.length_pos_iff.mpr hne) }
      intro limit hl v hd
      cases hs : I.action.value_minor_units with
      | some stated => exact hr.disclosed (by rw [hs]; rfl) limit hl v hd
      | none => exact hv.value_le hm ha hl (by rw [hs, Option.getD_none, disclosedValue, hd])
    · intro policy hm hd
      obtain ⟨after, hp⟩ := hv.passes hm
      exact hp.link.not_denied hd

end DelegationInput

def highCommitment : Hex32 :=
  hex32 0x47dcdac7067d5ab31a62c4bba5f6339ec82b9e357745bcbda2d2e44a6484c78e

/-- A payment that states 900 and commits to parameters that state 5000. -/
def overriddenAction : AgentActionV2 :=
  payAction (some (.ofNat 900)) highCommitment payRoot (bytesToHex (
    bigEndian 32 0x557b1271cd357244660209d3e9a963a994bf6eb06849c0b77ff06a3ccd4b21b3 ++
    bigEndian 32 0xcd20062db32ae402a2395bc7a4e590a3677fcae4111d06e07a88924372eeec0d))

/-- A payment of 5000 that is stated in the parameters only. -/
def highAction : AgentActionV2 :=
  payAction none highCommitment payRoot (bytesToHex (
    bigEndian 32 0xf125993795c9eed0241932bbb4cc097a173bc1fd8fa79c6b4819b25e959e99df ++
    bigEndian 32 0x234a884262f3318af397e2f90d738ab84cd50c1d780f2c78d89d5160abf7be0b))

/-- A host that knows the digests and signatures of these payments too. -/
def highHost : Host :=
  let overridden := 0x06c2651634e47673141771b7a79fe38dc254e59578f6f6617c6d21fa79d46b98
  let high := 0xc208a05cb0834d5eb6e55964844be97ebd288e9091e71a1757639f7078f909f7
  sampleHost (delegationNoble
    [actionHash overriddenAction overridden, actionHash highAction high,
      (domainMessage (js "tsl.agent.parameters.v1") (valueBytes (.obj (sampleParameters 5000))),
        hexBytes highCommitment)]
    [(hexBytes overriddenAction.signature, bigEndian 32 overridden, bigEndian 32 agentKey),
      (hexBytes highAction.signature, bigEndian 32 high, bigEndian 32 agentKey)])

namespace DelegationInput

theorem disclosed_runs :
    (fun outcome => outcome.ok) <$> verifyDelegatedAgentActionV0 highHost
        (sampleDelegation overriddenAction payPolicy (some (sampleParameters 5000))) = .ok true ∧
      (fun outcome => outcome.ok) <$> verifyDelegatedAgentActionV0 highHost
        (sampleDelegation grantedAction payPolicy (some (sampleParameters 900))) = .ok true := by
  refine ⟨?_, ?_⟩ <;> decide +kernel

/-- The action states 900, its disclosed parameters 5000, and the limit of 1000 holds for the
former only. -/
theorem verifyDelegatedAgentActionV0_overridden :
    let I := sampleDelegation overriddenAction payPolicy (some (sampleParameters 5000))
    (fun outcome => outcome.ok) <$> verifyDelegatedAgentActionV0 highHost I = .ok true ∧
      ¬∃ at_, highHost.parse I.action.issued_at = some at_ ∧ AttenuatesAll highHost I at_ := by
  refine ⟨disclosed_runs.1, ?_⟩
  rintro ⟨at_, -, hall, -⟩
  have hle := (hall [] payPolicy [] rfl rfl).disclosed (.ofNat 1000) rfl (.ofNat 5000) rfl
  revert hle
  decide

theorem verifyDelegatedAgentActionV0_attenuates_sample :
    let I := sampleDelegation grantedAction payPolicy (some (sampleParameters 900))
    (fun outcome => outcome.ok) <$> verifyDelegatedAgentActionV0 highHost I = .ok true ∧
      ∃ at_, highHost.parse I.action.issued_at = some at_ ∧ AttenuatesAll highHost I at_ := by
  have hok : (fun outcome => outcome.ok) <$> verifyDelegatedAgentActionV0 highHost
      (sampleDelegation grantedAction payPolicy (some (sampleParameters 900))) = .ok true :=
    disclosed_runs.2
  refine ⟨hok, (verifyDelegatedAgentActionV0_attenuates (map_eq_ok.mp hok)).mpr ?_⟩
  intro policy hm _
  rw [List.mem_singleton.mp hm]
  refine ⟨by decide, by decide, ?_⟩
  intro hs
  cases hs

end DelegationInput

end Continuity

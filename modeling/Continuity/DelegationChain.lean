import Continuity.CanonicalInjective
import Continuity.DelegatedAction

namespace Continuity
open Collections
set_option autoImplicit true

namespace JsNumber

@[simp] theorem trunc_ofInt (z : Int) : (ofInt z).trunc = .ofInt z := by
  unfold ofInt trunc
  dsimp only
  by_cases h : z < 0
  · have hq : (z : ℚ) < 0 := Rat.intCast_lt_intCast.mpr h
    have hz : (z : ℚ).ceil ≠ 0 := by
      rw [Rat.ceil_intCast]
      omega
    rw [if_pos hq, if_neg hz, Rat.ceil_intCast, ofInt]
  · have hq : ¬(z : ℚ) < 0 := fun hlt => h (Rat.intCast_lt_intCast.mp hlt)
    rw [if_neg hq, Rat.floor_intCast, ofInt]

@[simp] theorem atLeastZero_ofInt (z : Int) : (ofInt z).atLeastZero = .ofInt (max 0 z) := by
  have hzero : ofNat 0 = ofInt 0 := by simp [ofNat, ofInt]
  have hnan : ofInt z ≠ .nan := by simp [ofInt]
  unfold atLeastZero
  rw [if_neg hnan, hzero, ofInt_lt]
  by_cases h : 0 < z
  · rw [if_pos (by simpa using h), Int.max_eq_right (by omega)]
  · rw [if_neg (by simpa using h), Int.max_eq_left (by omega)]

@[simp] theorem min_ofInt (a b : Int) : (ofInt a).min (ofInt b) = .ofInt (min a b) := by
  have hnan : ¬((decide (ofInt a = .nan) || decide (ofInt b = .nan)) = true) := by simp [ofInt]
  have hneg : ofInt b ≠ .negZero := by simp [ofInt]
  unfold JsNumber.min
  rw [if_neg hnan, ofInt_lt, ofInt_lt, if_neg hneg]
  by_cases hab : a < b
  · rw [if_pos (by simpa using hab), Int.min_eq_left (by omega)]
  · rw [if_neg (by simpa using hab), Int.min_eq_right (by omega)]
    by_cases hba : b < a
    · rw [if_pos (by simpa using hba)]
    · rw [if_neg (by simpa using hba), show a = b by omega]

end JsNumber

theorem firstFault_none {checks : List (Bool × String)} :
    firstFault checks = none ↔ ∀ check ∈ checks, check.1 = false := by
  simp [firstFault]

namespace DelegationInput

variable {H : Host} {I : DelegationInput}

/-- The variables of the loop above a part of the chain. -/
def stateBelow (I : DelegationInput) (after : List DelegationPolicyV2) : ChainState :=
  after.foldr (fun policy s => I.advance s policy) I.start

theorem stateBelow_cons (I : DelegationInput) (policy : DelegationPolicyV2)
    (after : List DelegationPolicyV2) :
    I.stateBelow (policy :: after) = I.advance (I.stateBelow after) policy := rfl

/-- A policy that the loop lets pass. -/
structure Passes (H : Host) (I : DelegationInput) (at_ : Int) (depth : Nat) (s : ChainState)
    (policy : DelegationPolicyV2) : Prop where
  signed : I.signs H policy.principal (delegationPolicyV2Hash H.noble policy) policy.signature =
    .ok true
  linked : ∀ check ∈ I.linkChecks H at_ s policy, check.1 = false
  granted : policy.effect = .allow → ∀ check ∈ I.grantChecks depth policy, check.1 = false

/-- What an authorised action has passed. -/
structure Verified (H : Host) (I : DelegationInput) (at_ : Int) : Prop where
  time : H.parse I.action.issued_at = some at_
  signed : I.signs H I.action.agent (agentActionV2Hash H.noble I.action) I.action.signature =
    .ok true
  opened : I.parametersMatch H = .ok true
  head : ∃ first rest, I.delegation_chain = first :: rest ∧
    first.principal = I.action.principal
  root : I.expectedChainRoot H = .ok I.action.delegation_chain_root
  links : ∀ before policy after, I.delegation_chain = before ++ policy :: after →
    Passes H I at_ after.length (I.stateBelow after) policy
  scope : ∀ check ∈ I.scopeChecks (I.stateBelow I.delegation_chain), check.1 = false
  commits : ∃ bytes, canonicalBytes (I.stateBelow I.delegation_chain).scope = .ok bytes

theorem policyFault_none : I.policyFault H at_ depth s policy = .ok none ↔
    Passes H I at_ depth s policy := by
  have hgrant : (∀ check ∈ if policy.effect = .allow then I.grantChecks depth policy else [],
      check.1 = false) ↔
        (policy.effect = .allow → ∀ check ∈ I.grantChecks depth policy, check.1 = false) := by
    split <;> simp_all
  unfold policyFault
  rw [bind_eq_ok]
  constructor
  · rintro ⟨signed, hs, h⟩
    cases signed with
    | false => cases h
    | true =>
      simp only [Bool.not_true, Bool.false_eq_true, if_false] at h
      have hnone := firstFault_none.mp (Except.ok.inj h)
      simp only [List.mem_append, or_imp, forall_and] at hnone
      exact ⟨hs, hnone.1, hgrant.mp hnone.2⟩
  · intro h
    refine ⟨true, h.signed, ?_⟩
    simp only [Bool.not_true, Bool.false_eq_true, if_false]
    have hnone : firstFault (I.linkChecks H at_ s policy ++
        if policy.effect = .allow then I.grantChecks depth policy else []) = none := by
      rw [firstFault_none]
      simp only [List.mem_append, or_imp, forall_and]
      exact ⟨h.linked, hgrant.mpr h.granted⟩
    rw [hnone]
    rfl

/-- The loop comes through when every policy passes in the state that the earlier ones leave. -/
theorem walk_ok : I.walk H at_ depth s policies = .ok (.ok s') ↔
    s' = policies.foldl I.advance s ∧ ∀ pre policy post, policies = pre ++ policy :: post →
      Passes H I at_ (depth + pre.length) (pre.foldl I.advance s) policy := by
  induction policies generalizing depth s with
  | nil =>
    simp only [walk, List.foldl_nil]
    constructor
    · intro h
      cases h
      exact ⟨rfl, by simp⟩
    · rintro ⟨rfl, -⟩
      rfl
  | cons policy rest ih =>
    simp only [walk, bind_eq_ok, List.foldl_cons]
    constructor
    · rintro ⟨fault, hf, h⟩
      cases fault with
      | some code => cases h
      | none =>
        obtain ⟨he, hrest⟩ := ih.mp h
        refine ⟨he, ?_⟩
        intro pre p post hsplit
        cases pre with
        | nil =>
          cases hsplit
          exact policyFault_none.mp hf
        | cons first pre =>
          simp only [List.cons_append, List.cons.injEq] at hsplit
          obtain ⟨rfl, hsplit⟩ := hsplit
          have hp := hrest pre p post hsplit
          rw [Nat.add_assoc, Nat.add_comm 1] at hp
          exact hp
    · rintro ⟨he, hall⟩
      refine ⟨none, policyFault_none.mpr (hall [] policy rest rfl), ?_⟩
      refine ih.mpr ⟨he, ?_⟩
      intro pre p post hsplit
      have hp := hall (policy :: pre) p post (by rw [hsplit]; rfl)
      rw [Nat.add_assoc, Nat.add_comm 1]
      exact hp

/-- The loop over the reversed chain, seen from the chain. -/
theorem walk_chain : I.walk H at_ 0 I.start chain.reverse = .ok (.ok s) ↔
    s = I.stateBelow chain ∧ ∀ before policy after, chain = before ++ policy :: after →
      Passes H I at_ after.length (I.stateBelow after) policy := by
  rw [walk_ok, List.foldl_reverse]
  apply and_congr_right
  intro _
  constructor
  · intro h before policy after hsplit
    have hp := h after.reverse policy before.reverse (by rw [hsplit]; simp)
    rw [List.foldl_reverse, List.length_reverse, Nat.zero_add] at hp
    exact hp
  · intro h pre policy post hsplit
    have hp := h post.reverse policy pre.reverse (by
      rw [← List.reverse_reverse chain, hsplit]
      simp)
    rw [stateBelow, ← List.foldl_reverse, List.reverse_reverse, List.length_reverse] at hp
    rw [Nat.zero_add]
    exact hp

theorem conclude_ok : (∃ outcome, I.conclude H s = .ok outcome ∧ outcome.ok = true) ↔
    (∀ check ∈ I.scopeChecks s, check.1 = false) ∧ ∃ bytes, canonicalBytes s.scope = .ok bytes := by
  rw [← firstFault_none, conclude]
  constructor
  · rintro ⟨outcome, h, hok⟩
    split at h
    · cases h
      cases hok
    · next hnone =>
      obtain ⟨bytes, hb, -⟩ := bind_eq_ok.mp h
      exact ⟨hnone, bytes, hb⟩
  · rintro ⟨hnone, bytes, hb⟩
    rw [hnone]
    exact ⟨_, bind_eq_ok.mpr ⟨bytes, hb, rfl⟩, rfl⟩

theorem verifyChain_ok : (∃ outcome, I.verifyChain H at_ = .ok outcome ∧ outcome.ok = true) ↔
    (∃ first rest, I.delegation_chain = first :: rest ∧ first.principal = I.action.principal) ∧
      I.expectedChainRoot H = .ok I.action.delegation_chain_root ∧
      (∀ before policy after, I.delegation_chain = before ++ policy :: after →
        Passes H I at_ after.length (I.stateBelow after) policy) ∧
      (∀ check ∈ I.scopeChecks (I.stateBelow I.delegation_chain), check.1 = false) ∧
      ∃ bytes, canonicalBytes (I.stateBelow I.delegation_chain).scope = .ok bytes := by
  unfold verifyChain
  constructor
  · rintro ⟨outcome, h, hok⟩
    split at h
    · cases h
      cases hok
    · next first rest hchain =>
      split at h
      · cases h
        cases hok
      · next hp =>
        obtain ⟨root, hroot, h⟩ := bind_eq_ok.mp h
        split at h
        · cases h
          cases hok
        · next hr =>
          obtain ⟨result, hw, h⟩ := bind_eq_ok.mp h
          cases result with
          | error code =>
            cases h
            cases hok
          | ok s =>
            obtain ⟨rfl, hlinks⟩ := walk_chain.mp hw
            obtain ⟨hscope, hbytes⟩ := conclude_ok.mp ⟨outcome, h, hok⟩
            simp only [bne_iff_ne, ne_eq, Decidable.not_not] at hp hr
            exact ⟨⟨first, rest, hchain, hp⟩, by rw [hroot, hr], hlinks, hscope, hbytes⟩
  · rintro ⟨⟨first, rest, hchain, hp⟩, hroot, hlinks, hscope, hbytes⟩
    obtain ⟨outcome, hc, hok⟩ := conclude_ok.mpr ⟨hscope, hbytes⟩
    refine ⟨outcome, ?_, hok⟩
    have hw := walk_chain.mpr ⟨rfl, hlinks⟩
    split
    · next hnil =>
      rw [hnil] at hchain
      cases hchain
    · next first' rest' hchain' =>
      obtain ⟨rfl, rfl⟩ : first = first' ∧ rest = rest' := by
        rw [hchain] at hchain'
        exact List.cons.inj hchain'
      rw [if_neg (by simpa using hp)]
      refine bind_eq_ok.mpr ⟨_, hroot, ?_⟩
      rw [if_neg (by simp)]
      exact bind_eq_ok.mpr ⟨_, hw, hc⟩

/-- The verifier says `ok` exactly to the actions that pass all of its checks. -/
theorem verified_iff :
    (∃ outcome, verifyDelegatedAgentActionV0 H I = .ok outcome ∧ outcome.ok = true) ↔
      ∃ at_, Verified H I at_ := by
  unfold verifyDelegatedAgentActionV0
  constructor
  · rintro ⟨outcome, h, hok⟩
    split at h
    · cases h
      cases hok
    · next at_ hat =>
      obtain ⟨signed, hs, h⟩ := bind_eq_ok.mp h
      cases signed with
      | false =>
        cases h
        cases hok
      | true =>
        obtain ⟨opened, ho, h⟩ := bind_eq_ok.mp h
        cases opened with
        | false =>
          cases h
          cases hok
        | true =>
          obtain ⟨hhead, hroot, hlinks, hscope, hbytes⟩ := verifyChain_ok.mp ⟨outcome, h, hok⟩
          exact ⟨at_, hat, hs, ho, hhead, hroot, hlinks, hscope, hbytes⟩
  · rintro ⟨at_, h⟩
    obtain ⟨outcome, hc, hok⟩ :=
      verifyChain_ok.mpr ⟨h.head, h.root, h.links, h.scope, h.commits⟩
    refine ⟨outcome, ?_, hok⟩
    rw [h.time]
    exact bind_eq_ok.mpr ⟨true, h.signed, bind_eq_ok.mpr ⟨true, h.opened, hc⟩⟩

/-- What every policy of an authorised chain has passed. -/
structure Link (H : Host) (I : DelegationInput) (at_ : Int) (s : ChainState)
    (policy : DelegationPolicyV2) : Prop where
  not_revoked : I.revoked policy = false
  not_early : timeLt (some at_) (H.parse policy.valid_from) = false
  not_late : timeLe (H.parse policy.valid_until) (some at_) = false
  delegate : policy.delegate = s.expectedDelegate
  parent : ∀ id, s.expectedParentPolicyId = some id → policy.policy_id = id
  not_denied : policy.effect = .deny → policyMatchesAction policy I.action = false

theorem linkChecks_iff : (∀ check ∈ I.linkChecks H at_ s policy, check.1 = false) ↔
    Link H I at_ s policy := by
  simp only [linkChecks, List.mem_cons, List.not_mem_nil, or_false, forall_eq_or_imp, forall_eq,
    Bool.or_eq_false_iff, bne_eq_false_iff_eq, Bool.and_eq_false_imp, beq_iff_eq,
    Option.any_eq_false]
  constructor
  · rintro ⟨hr, ⟨he, hl⟩, hd, hp, hm⟩
    exact ⟨hr, he, hl, hd, fun id hid => by simpa using hp id hid, hm⟩
  · intro h
    exact ⟨h.not_revoked, ⟨h.not_early, h.not_late⟩, h.delegate,
      fun id hid => by simpa using h.parent id hid, h.not_denied⟩

theorem Passes.link (h : Passes H I at_ depth s policy) : Link H I at_ s policy :=
  linkChecks_iff.mp h.linked

/-- What a grant has passed besides. -/
structure WithinLimits (I : DelegationInput) (depth : Nat) (policy : DelegationPolicyV2) :
    Prop where
  subdelegated : 0 < depth → ∃ sub, policy.subdelegation = some sub ∧ sub.allowed = some true ∧
    (∀ limit, sub.max_depth = some limit → limit.lt (.ofNat depth) = false) ∧
    ∀ actions, sub.allowed_actions = some actions → actionMatches actions I.action.action = true
  tool : I.toolNotAllowed policy.constraints = false
  tool_not_denied : I.toolDenied policy.constraints = false
  currency : I.currencyDiffers policy.constraints = false
  counterparty : I.counterpartyNotAllowed policy.constraints = false
  window : windowExhausted policy.constraints = false

theorem subdelegationChecks_iff :
    (∀ check ∈ I.subdelegationChecks depth policy, check.1 = false) ↔
      ∃ sub, policy.subdelegation = some sub ∧ sub.allowed = some true ∧
        (∀ limit, sub.max_depth = some limit → limit.lt (.ofNat depth) = false) ∧
        ∀ actions, sub.allowed_actions = some actions →
          actionMatches actions I.action.action = true := by
  cases hs : policy.subdelegation with
  | none => simp [subdelegationChecks, hs]
  | some sub => simp [subdelegationChecks, hs, Option.any_eq_false]

theorem grantChecks_iff : (∀ check ∈ I.grantChecks depth policy, check.1 = false) ↔
    WithinLimits I depth policy := by
  have hsub : (∀ check ∈ if 0 < depth then I.subdelegationChecks depth policy else [],
      check.1 = false) ↔
        (0 < depth → ∀ check ∈ I.subdelegationChecks depth policy, check.1 = false) := by
    split <;> simp_all
  simp only [grantChecks, List.mem_append, or_imp, forall_and]
  rw [hsub, subdelegationChecks_iff]
  simp only [constraintChecks, List.map_cons, List.map_nil, List.mem_cons, List.not_mem_nil,
    or_false, forall_eq_or_imp, forall_eq]
  constructor
  · rintro ⟨hs, ht, hd, hc, hp, hw⟩
    exact ⟨hs, ht, hd, hc, hp, hw⟩
  · intro h
    exact ⟨h.subdelegated, h.tool, h.tool_not_denied, h.currency, h.counterparty, h.window⟩

theorem Passes.within (h : Passes H I at_ depth s policy) (ha : policy.effect = .allow) :
    WithinLimits I depth policy :=
  grantChecks_iff.mp (h.granted ha)

theorem advance_allow (h : policy.effect = .allow) :
    (I.advance s policy).expectedDelegate = policy.principal := by
  rw [advance, if_pos h]

theorem advance_deny (h : policy.effect ≠ .allow) : I.advance s policy = s := by
  rw [advance, if_neg h]

/-- The scopes that the loop has collected are those of the grants. -/
theorem mem_allowedActions : actions ∈ (I.stateBelow chain).allowedActions ↔
    ∃ policy ∈ chain, policy.effect = .allow ∧ policy.actions = actions := by
  induction chain with
  | nil => simp [stateBelow, start]
  | cons policy chain ih =>
    rw [stateBelow_cons]
    by_cases ha : policy.effect = .allow
    · simp [advance, ha, ih, or_comm, eq_comm]
    · simp [advance_deny ha, ha, ih]

theorem mem_allowedResources : resources ∈ (I.stateBelow chain).allowedResources ↔
    ∃ policy ∈ chain, policy.effect = .allow ∧ policy.resources = resources := by
  induction chain with
  | nil => simp [stateBelow, start]
  | cons policy chain ih =>
    rw [stateBelow_cons]
    by_cases ha : policy.effect = .allow
    · simp [advance, ha, ih, or_comm, eq_comm]
    · simp [advance_deny ha, ha, ih]

theorem requiresHumanApproval_iff : (I.stateBelow chain).requiresHumanApproval = true ↔
    ∃ policy ∈ chain, policy.effect = .allow ∧ I.demandsApproval policy.constraints = true := by
  induction chain with
  | nil => simp [stateBelow, start]
  | cons policy chain ih =>
    rw [stateBelow_cons]
    by_cases ha : policy.effect = .allow
    · simp [advance, ha, ih, or_comm]
    · simp [advance_deny ha, ha, ih]

/-- With integral limits the value limit of the chain is the least one of its grants. -/
theorem maxValue_lt (hmax : ∀ policy ∈ chain, ∀ limit,
      policy.constraints.max_value_minor_units = some limit → ∃ m, limit = .ofInt m) (v : Int) :
    (I.stateBelow chain).maxValue.lt (.ofInt v) = false ↔
      v ≤ 9007199254740991 ∧ ∀ policy ∈ chain, policy.effect = .allow → ∀ limit,
        policy.constraints.max_value_minor_units = some limit → (JsNumber.ofInt v).le limit := by
  have hstate : ∃ m, (I.stateBelow chain).maxValue = .ofInt m ∧ (v ≤ m ↔
      v ≤ 9007199254740991 ∧ ∀ policy ∈ chain, policy.effect = .allow → ∀ limit,
        policy.constraints.max_value_minor_units = some limit →
          (JsNumber.ofInt v).le limit) := by
    induction chain with
    | nil => exact ⟨9007199254740991, rfl, by simp⟩
    | cons policy chain ih =>
      obtain ⟨m, hm, hle⟩ := ih fun p hp => hmax p (List.mem_cons_of_mem policy hp)
      rw [stateBelow_cons]
      by_cases ha : policy.effect = .allow
      · cases hl : policy.constraints.max_value_minor_units with
        | none =>
          refine ⟨m, by simp [advance, ha, hl, hm], ?_⟩
          simp [hle, hl]
        | some limit =>
          obtain ⟨k, rfl⟩ := hmax policy List.mem_cons_self limit hl
          refine ⟨min m k, by simp [advance, ha, hl, hm], ?_⟩
          rw [Int.le_min, hle]
          simp only [List.mem_cons, forall_eq_or_imp, ha, hl, Option.some.injEq, forall_eq',
            forall_const, JsNumber.ofInt_le, decide_eq_true_eq]
          rw [and_assoc, and_comm (b := v ≤ k)]
      · refine ⟨m, by rw [advance_deny ha, hm], ?_⟩
        simp [hle, ha]
  obtain ⟨m, hm, hle⟩ := hstate
  rw [hm, JsNumber.ofInt_lt, decide_eq_false_iff_not, Int.not_lt]
  exact hle

end DelegationInput

end Continuity

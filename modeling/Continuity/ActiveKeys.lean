import Continuity.RevocationRegistry

namespace Continuity
open Frames
set_option autoImplicit true

inductive RegistryCall where
  | register (trustId activeKey policyCommitment : Bytes32)
  | rotateKey (trustId oldKey newKey : Bytes32)
  | revokeKey (trustId key : Bytes32)

structure RegistryTransaction where
  sender : Address
  timestamp : UInt64
  call : RegistryCall

namespace TrustIDRegistry

variable (R : TrustIDRegistry)

def execute (tx : RegistryTransaction) : Js TrustIDRegistry :=
  match tx.call with
  | .register trustId activeKey policyCommitment =>
    R.register tx.sender tx.timestamp trustId activeKey policyCommitment
  | .rotateKey trustId oldKey newKey => R.rotateKey tx.sender trustId oldKey newKey
  | .revokeKey trustId key => R.revokeKey tx.sender trustId key

/-- A transaction that reverts changes nothing. -/
def step (tx : RegistryTransaction) : TrustIDRegistry :=
  match R.execute tx with
  | .ok R => R
  | .error _ => R

def activeKey (trustId : Bytes32) : Bytes32 := (R.identities trustId).activeKey

def controls (sender : Address) (trustId : Bytes32) : Prop :=
  R.registered trustId ∧ (R.identities trustId).controller = sender

/-- No registered identity has an active key that is revoked. -/
def ActiveKeysStand : Prop :=
  ∀ trustId, R.registered trustId →
    R.activeKey trustId = 0 ∨ R.revokedKeys trustId (R.activeKey trustId) = false

/-- A controller rotates to no key or to one that is not revoked, and not onto the old one. -/
def RotatesToStanding (tx : RegistryTransaction) : Prop :=
  match tx.call with
  | .rotateKey trustId oldKey newKey => R.controls tx.sender trustId →
      newKey = 0 ∨ (newKey ≠ oldKey ∧ R.revokedKeys trustId newKey = false)
  | _ => True

/-- Active keys stand, and nothing is revoked before an identity is registered. -/
structure KeysInvariant : Prop where
  active : R.ActiveKeysStand
  unregistered : ∀ trustId, ¬R.registered trustId → ∀ key, R.revokedKeys trustId key = false

/-- Both registries say the same about the keys of an identity. -/
def SameKeys (R S : TrustIDRegistry) (trustId : Bytes32) : Prop :=
  S.activeKey trustId = R.activeKey trustId ∧ S.revokedKeys trustId = R.revokedKeys trustId

section Steps

variable {R S : TrustIDRegistry} {tx : RegistryTransaction}

/-- What a transaction of a run does to the keys of one identity. -/
inductive KeyStep (R : TrustIDRegistry) (tx : RegistryTransaction) (trustId : Bytes32)
    (S : TrustIDRegistry) : Prop where
  | same (registered : S.registered trustId ↔ R.registered trustId) (keys : SameKeys R S trustId)
  | register (fresh : ¬R.registered trustId)
      (revoked : S.revokedKeys trustId = R.revokedKeys trustId)
  | rotate (oldKey newKey : Bytes32) (call : tx.call = .rotateKey trustId oldKey newKey)
      (controls : R.controls tx.sender trustId) (registered : S.registered trustId)
      (active : S.activeKey trustId = newKey)
      (revoked : S.revokedKeys trustId = Function.update (R.revokedKeys trustId) oldKey true)
  | revoke (key : Bytes32) (controls : R.controls tx.sender trustId)
      (registered : S.registered trustId)
      (active : S.activeKey trustId =
        if R.activeKey trustId = key then 0 else R.activeKey trustId)
      (revoked : S.revokedKeys trustId = Function.update (R.revokedKeys trustId) key true)

theorem KeyStep.unchanged (R : TrustIDRegistry) (tx : RegistryTransaction) (trustId : Bytes32) :
    KeyStep R tx trustId R := .same Iff.rfl ⟨rfl, rfl⟩

@[simp] theorem setIdentity_identities (R : TrustIDRegistry) (trustId : Bytes32)
    (identity : TrustIdentity) : (R.setIdentity trustId identity).identities trustId = identity :=
  Function.update_self ..

theorem setIdentity_other (R : TrustIDRegistry) (identity : TrustIdentity) {other : Bytes32}
    (h : other ≠ trustId) :
    (R.setIdentity trustId identity).identities other = R.identities other :=
  Function.update_of_ne h ..

@[simp] theorem setRevoked_revokedKeys (R : TrustIDRegistry) (trustId key : Bytes32) :
    (R.setRevoked trustId key).revokedKeys trustId =
      Function.update (R.revokedKeys trustId) key true :=
  Function.update_self ..

theorem setRevoked_other (R : TrustIDRegistry) (key : Bytes32) {other : Bytes32}
    (h : other ≠ trustId) : (R.setRevoked trustId key).revokedKeys other = R.revokedKeys other :=
  Function.update_of_ne h ..

theorem register_keyStep (h : R.register tx.sender tx.timestamp other key policy = .ok S)
    (trustId : Bytes32) : KeyStep R tx trustId S := by
  obtain ⟨hfresh, rfl⟩ := register_ok h
  by_cases he : trustId = other
  · subst he
    exact .register hfresh rfl
  · refine .same ?_ ⟨?_, rfl⟩
    · rw [registered, setIdentity_other R _ he, registered]
    · rw [activeKey, setIdentity_other R _ he, activeKey]

theorem rotateKey_keyStep (hcall : tx.call = .rotateKey other oldKey newKey)
    (h : R.rotateKey tx.sender other oldKey newKey = .ok S) (trustId : Bytes32) :
    KeyStep R tx trustId S := by
  obtain ⟨hc, rfl⟩ := rotateKey_ok h
  by_cases he : trustId = other
  · subst he
    refine .rotate oldKey newKey hcall hc ?_ ?_ ?_
    · rw [registered, setIdentity_identities]
      exact hc.1
    · rw [activeKey, setIdentity_identities]
    · exact setRevoked_revokedKeys R trustId oldKey
  · refine .same ?_ ⟨?_, setRevoked_other R oldKey he⟩
    · rw [registered, setIdentity_other _ _ he, registered]
      rfl
    · rw [activeKey, setIdentity_other _ _ he, activeKey]
      rfl

theorem revokeKey_keyStep (h : R.revokeKey tx.sender other key = .ok S) (trustId : Bytes32) :
    KeyStep R tx trustId S := by
  obtain ⟨hc, rfl⟩ := revokeKey_ok h
  by_cases he : trustId = other
  · subst he
    refine .revoke key hc ?_ ?_ ?_
    · split
      · rw [registered, setIdentity_identities]
        exact hc.1
      · exact hc.1
    · rw [activeKey, activeKey]
      split
      · rw [setIdentity_identities]
      · rfl
    · split
      · exact setRevoked_revokedKeys R trustId key
      · exact setRevoked_revokedKeys R trustId key
  · split
    · refine .same ?_ ⟨?_, setRevoked_other R key he⟩
      · rw [registered, setIdentity_other _ _ he, registered]
        rfl
      · rw [activeKey, setIdentity_other _ _ he, activeKey]
        rfl
    · exact .same Iff.rfl ⟨rfl, setRevoked_other R key he⟩

theorem step_keyStep (R : TrustIDRegistry) (tx : RegistryTransaction) (trustId : Bytes32) :
    KeyStep R tx trustId (R.step tx) := by
  unfold step
  split
  · next S h =>
    unfold execute at h
    split at h
    · exact register_keyStep h trustId
    · next hcall => exact rotateKey_keyStep hcall h trustId
    · exact revokeKey_keyStep h trustId
  · exact .unchanged R tx trustId

theorem rotateKey_controls (hc : R.controls tx.sender trustId)
    (hcall : tx.call = .rotateKey trustId oldKey newKey) :
    (R.step tx).registered trustId ∧ (R.step tx).activeKey trustId = newKey ∧
      (R.step tx).revokedKeys trustId =
        Function.update (R.revokedKeys trustId) oldKey true := by
  have hstep : R.step tx = (R.setRevoked trustId oldKey).setIdentity trustId
      { R.identities trustId with activeKey := newKey } := by
    rw [step, execute, hcall]
    dsimp only
    rw [rotateKey, onlyController_controller hc.1 hc.2]
    rfl
  rw [hstep]
  refine ⟨?_, ?_, setRevoked_revokedKeys R trustId oldKey⟩
  · rw [registered, setIdentity_identities]
    exact hc.1
  · rw [activeKey, setIdentity_identities]

end Steps

section Runs

variable {R S : TrustIDRegistry} {tx : RegistryTransaction}

theorem KeysInvariant.empty : KeysInvariant .empty where
  active _ h := absurd rfl h
  unregistered _ _ _ := rfl

/-- The keys of one identity after a step that rotates to a standing key. -/
theorem KeysInvariant.key_step (h : R.KeysInvariant) (hg : R.RotatesToStanding tx)
    (hs : KeyStep R tx trustId S) :
    (S.registered trustId →
      S.activeKey trustId = 0 ∨ S.revokedKeys trustId (S.activeKey trustId) = false) ∧
      (¬S.registered trustId → ∀ key, S.revokedKeys trustId key = false) := by
  cases hs with
  | same hr hk =>
    rw [hr, hk.1, hk.2]
    exact ⟨h.active trustId, h.unregistered trustId⟩
  | register hfresh hrev =>
    rw [hrev]
    have hnone := h.unregistered trustId hfresh
    exact ⟨fun _ => .inr (hnone _), fun _ => hnone⟩
  | rotate oldKey newKey hcall hc hr ha hrev =>
    refine ⟨fun _ => ?_, fun hn => absurd hr hn⟩
    rw [RotatesToStanding, hcall] at hg
    rw [ha, hrev]
    rcases hg hc with hz | ⟨hne, hstands⟩
    · exact .inl hz
    · right
      rw [Function.update_of_ne hne]
      exact hstands
  | revoke key hc hr ha hrev =>
    refine ⟨fun _ => ?_, fun hn => absurd hr hn⟩
    rw [ha, hrev]
    by_cases hk : R.activeKey trustId = key
    · rw [if_pos hk]
      exact .inl rfl
    · rw [if_neg hk, Function.update_of_ne hk]
      exact h.active trustId hc.1

theorem KeysInvariant.step (h : R.KeysInvariant) (hg : R.RotatesToStanding tx) :
    (R.step tx).KeysInvariant where
  active trustId := (h.key_step hg (step_keyStep R tx trustId)).1
  unregistered trustId := (h.key_step hg (step_keyStep R tx trustId)).2

/-- A rotation to a revoked key, or onto the old one, leaves a revoked key active. -/
theorem rotatesToStanding_of_step (h : (R.step tx).ActiveKeysStand) : R.RotatesToStanding tx := by
  unfold RotatesToStanding
  split
  · next trustId oldKey newKey hcall =>
    intro hc
    obtain ⟨hr, ha, hrev⟩ := rotateKey_controls hc hcall
    have hstands := h trustId hr
    rw [ha, hrev] at hstands
    apply hstands.imp_right
    intro hk
    have hne : newKey ≠ oldKey := by
      rintro rfl
      rw [Function.update_self] at hk
      cases hk
    rw [Function.update_of_ne hne] at hk
    exact ⟨hne, hk⟩
  · trivial

/-- Only the controller changes the keys of a registered identity. -/
theorem step_sameKeys (hr : R.registered trustId)
    (hs : tx.sender ≠ (R.identities trustId).controller) : SameKeys R (R.step tx) trustId := by
  cases step_keyStep R tx trustId with
  | same _ hk => exact hk
  | register hfresh => exact absurd hr hfresh
  | rotate _ _ _ hc => exact absurd hc.2.symm hs
  | revoke _ hc => exact absurd hc.2.symm hs

/-- A run keeps every active key unrevoked exactly when its rotations go to standing keys; only
controllers change the keys of registered identities. -/
theorem activeKey_unrevoked_iff (transactions : List RegistryTransaction) :
    ((∀ before after, before ++ after = transactions →
        (run step empty before).ActiveKeysStand) ↔
      Guarded step RotatesToStanding empty transactions) ∧
      ∀ before tx after, before ++ tx :: after = transactions → ∀ trustId,
        (run step empty before).registered trustId →
        tx.sender ≠ ((run step empty before).identities trustId).controller →
        SameKeys (run step empty before) (run step empty (before ++ [tx])) trustId := by
  refine ⟨?_, ?_⟩
  · exact guarded_iff (fun _ h => h.active) (fun _ _ hg h => h.step hg)
      (fun _ _ _ h => rotatesToStanding_of_step h) KeysInvariant.empty
  · intro before tx after _ trustId hr hs
    rw [run_append]
    exact step_sameKeys hr hs

/-- A controller rotates its key onto itself: the key is revoked and active. -/
theorem activeKey_revoked :
    let R := run step empty [⟨1, 10, .register 7 9 0⟩, ⟨1, 11, .rotateKey 7 9 9⟩]
    R.registered 7 ∧ R.activeKey 7 = 9 ∧ R.revokedKeys 7 9 = true ∧ ¬R.ActiveKeysStand := by
  intro R
  have hr : R.registered 7 := by decide
  have ha : R.activeKey 7 = 9 := by decide
  have hk : R.revokedKeys 7 9 = true := by decide
  refine ⟨hr, ha, hk, ?_⟩
  intro h
  rcases h 7 hr with hz | hn
  · rw [ha] at hz
    exact absurd hz (by decide)
  · rw [ha, hk] at hn
    cases hn

end Runs

end TrustIDRegistry

end Continuity

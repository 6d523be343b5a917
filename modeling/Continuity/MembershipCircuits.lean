import Continuity.PoseidonTrees

namespace Continuity
open HashTree
set_option autoImplicit true

/-- Some path leads from the leaf to the root. -/
def UnderRoot (lib : Circomlib) (depth : Nat) (leaf root : Signal) : Prop :=
  ∃ path : PoseidonMerkleRoot depth, path.Constraints lib ∧ path.leaf = leaf ∧ path.root = root

/-- What an issuer attests of a member of an organization. -/
structure OrganizationAttestation where
  subject_hash : Signal
  org_hash : Signal
  issuer_hash : Signal
  valid_after_day : Signal
  expires_at_day : Signal
  attestation_salt : Signal

namespace OrganizationAttestation

variable (a : OrganizationAttestation)

/-- The inputs of the committed leaf. -/
def leafInputs : List Signal :=
  [a.subject_hash, a.org_hash, a.issuer_hash, a.expires_at_day, a.attestation_salt]

/-- The day lies outside the window of the attestation. -/
def Outside (day : Signal) : Prop :=
  day.val < a.valid_after_day.val ∨ a.expires_at_day.val < day.val

end OrganizationAttestation

structure OrganizationMembershipProduction (depth : Nat) where
  subject_hash : Signal
  org_hash : Signal
  issuer_hash : Signal
  valid_after_day : Signal
  expires_at_day : Signal
  current_epoch_day : Signal
  attestation_salt : Signal
  public_attestation_root : Signal
  issuer_registry_root : Signal
  attestation_siblings : Fin depth → Signal
  attestation_path_bits : Fin depth → Signal
  issuer_siblings : Fin depth → Signal
  issuer_path_bits : Fin depth → Signal
  not_before : RangeAtLeast
  not_expired : RangeAtMost
  attestation_leaf : Signal
  attestation_path : PoseidonMerkleRoot depth
  issuer_path : PoseidonMerkleRoot depth

namespace OrganizationMembershipProduction

variable (lib : Circomlib) (s : OrganizationMembershipProduction depth)

def leafInputs : List Signal :=
  [s.subject_hash, s.org_hash, s.issuer_hash, s.expires_at_day, s.attestation_salt]

structure Constraints : Prop where
  not_before_value : s.not_before.value = s.current_epoch_day
  not_before_threshold : s.not_before.threshold = s.valid_after_day
  not_before : s.not_before.Constraints lib 64
  not_expired_value : s.not_expired.value = s.current_epoch_day
  not_expired_maximum : s.not_expired.maximum = s.expires_at_day
  not_expired : s.not_expired.Constraints lib 64
  attestation_leaf : s.attestation_leaf = lib.poseidon
    [s.subject_hash, s.org_hash, s.issuer_hash, s.expires_at_day, s.attestation_salt]
  attestation_path_leaf : s.attestation_path.leaf = s.attestation_leaf
  issuer_path_leaf : s.issuer_path.leaf = s.issuer_hash
  attestation_siblings : ∀ i, s.attestation_path.siblings i = s.attestation_siblings i
  attestation_path_bits : ∀ i, s.attestation_path.path_bits i = s.attestation_path_bits i
  issuer_siblings : ∀ i, s.issuer_path.siblings i = s.issuer_siblings i
  issuer_path_bits : ∀ i, s.issuer_path.path_bits i = s.issuer_path_bits i
  attestation_path : s.attestation_path.Constraints lib
  issuer_path : s.issuer_path.Constraints lib
  attestation_root : s.attestation_path.root = s.public_attestation_root
  issuer_root : s.issuer_path.root = s.issuer_registry_root

/-- The inputs of every hash that the circuit computes. -/
def hashed : List (List Signal) :=
  s.leafInputs :: (s.attestation_path.hashed ++ s.issuer_path.hashed)

/-- The assignment satisfies the circuit for the committed leaf of the attestation and the other
public signals. -/
structure Presents (a : OrganizationAttestation)
    (current_epoch_day public_attestation_root issuer_registry_root : Signal) : Prop where
  constraints : s.Constraints lib
  subject_hash : s.subject_hash = a.subject_hash
  org_hash : s.org_hash = a.org_hash
  issuer_hash : s.issuer_hash = a.issuer_hash
  day : s.current_epoch_day = current_epoch_day
  attestation_root : s.public_attestation_root = public_attestation_root
  issuer_root : s.issuer_registry_root = issuer_registry_root
  leaf : s.attestation_leaf = lib.poseidon a.leafInputs
  collisionFree : (poseidonScheme lib).CollisionFree [a.leafInputs, s.leafInputs]

variable {lib s} {a : OrganizationAttestation}
  {current_epoch_day public_attestation_root issuer_registry_root : Signal}

/-- The committed leaf determines the day of expiry. -/
theorem Presents.expires
    (h : s.Presents lib a current_epoch_day public_attestation_root issuer_registry_root) :
    s.expires_at_day = a.expires_at_day := by
  have hdigest : (poseidonScheme lib).hash s.leafInputs = (poseidonScheme lib).hash a.leafInputs :=
    h.constraints.attestation_leaf.symm.trans h.leaf
  have hinputs := h.collisionFree _ (by simp) _ (by simp) hdigest
  simp only [leafInputs, OrganizationAttestation.leafInputs, List.cons.injEq] at hinputs
  exact hinputs.2.2.2.1

theorem Presents.not_expired (hd : lib.Decomposes)
    (h : s.Presents lib a current_epoch_day public_attestation_root issuer_registry_root) :
    (a.expires_at_day - current_epoch_day).val < 2 ^ 64 := by
  obtain ⟨low, hlow, hmaximum⟩ := h.constraints.not_expired.range hd
  rw [h.constraints.not_expired_maximum, h.constraints.not_expired_value, h.expires, h.day]
    at hmaximum
  have hroom : 2 ^ 64 ≤ scalarOrder := by decide
  rwa [hmaximum, add_sub_cancel_left, ZMod.val_natCast_of_lt (by omega)]

theorem Presents.attested
    (h : s.Presents lib a current_epoch_day public_attestation_root issuer_registry_root) :
    UnderRoot lib depth (lib.poseidon a.leafInputs) public_attestation_root :=
  ⟨s.attestation_path, h.constraints.attestation_path,
    h.constraints.attestation_path_leaf.trans h.leaf,
    h.constraints.attestation_root.trans h.attestation_root⟩

theorem Presents.issuer_registered
    (h : s.Presents lib a current_epoch_day public_attestation_root issuer_registry_root) :
    UnderRoot lib depth a.issuer_hash issuer_registry_root :=
  ⟨s.issuer_path, h.constraints.issuer_path,
    h.constraints.issuer_path_leaf.trans h.issuer_hash,
    h.constraints.issuer_root.trans h.issuer_root⟩

end OrganizationMembershipProduction

section Membership

variable (a : OrganizationAttestation) (current_epoch_day valid_after_day : Signal)
  (attestation_path issuer_path : PoseidonMerkleRoot depth)

/-- The signals of a prover who chooses the day from which the attestation is valid. -/
def membershipSignals : OrganizationMembershipProduction depth where
  subject_hash := a.subject_hash
  org_hash := a.org_hash
  issuer_hash := a.issuer_hash
  valid_after_day := valid_after_day
  expires_at_day := a.expires_at_day
  current_epoch_day := current_epoch_day
  attestation_salt := a.attestation_salt
  public_attestation_root := attestation_path.root
  issuer_registry_root := issuer_path.root
  attestation_siblings := attestation_path.siblings
  attestation_path_bits := attestation_path.path_bits
  issuer_siblings := issuer_path.siblings
  issuer_path_bits := issuer_path.path_bits
  not_before := ⟨current_epoch_day, valid_after_day, 0⟩
  not_expired := ⟨current_epoch_day, a.expires_at_day, 0⟩
  attestation_leaf := attestation_path.leaf
  attestation_path := attestation_path
  issuer_path := issuer_path

variable {a current_epoch_day attestation_path issuer_path}

theorem membershipSignals_presents (hl : Circomlib.Compares lib)
    (hattestation : attestation_path.Constraints lib)
    (hleaf : attestation_path.leaf = lib.poseidon a.leafInputs)
    (hissuer : issuer_path.Constraints lib) (hissuerLeaf : issuer_path.leaf = a.issuer_hash)
    (hexpires : (a.expires_at_day - current_epoch_day).val < 2 ^ 64) {age : Nat}
    (hage : age < 2 ^ 64) :
    (membershipSignals a current_epoch_day (current_epoch_day - age) attestation_path
      issuer_path).Presents lib a current_epoch_day attestation_path.root issuer_path.root where
  constraints := {
    not_before_value := rfl
    not_before_threshold := rfl
    not_before := by
      have hless := lessDecomposed_of_range (current_epoch_day - age) hage
      rw [sub_add_cancel] at hless
      exact ⟨(hl _ _ _ _).mpr hless, rfl⟩
    not_expired_value := rfl
    not_expired_maximum := rfl
    not_expired := by
      have hless := lessDecomposed_of_range current_epoch_day hexpires
      rw [ZMod.natCast_zmod_val, add_sub_cancel] at hless
      exact ⟨(hl _ _ _ _).mpr hless, rfl⟩
    attestation_leaf := hleaf
    attestation_path_leaf := rfl
    issuer_path_leaf := hissuerLeaf
    attestation_siblings _ := rfl
    attestation_path_bits _ := rfl
    issuer_siblings _ := rfl
    issuer_path_bits _ := rfl
    attestation_path := hattestation
    issuer_path := hissuer
    attestation_root := rfl
    issuer_root := rfl }
  subject_hash := rfl
  org_hash := rfl
  issuer_hash := rfl
  day := rfl
  attestation_root := rfl
  issuer_root := rfl
  leaf := hleaf
  collisionFree := by
    intro m hm n hn _
    simp only [membershipSignals, OrganizationMembershipProduction.leafInputs,
      OrganizationAttestation.leafInputs, List.mem_cons, List.not_mem_nil, or_false,
      or_self] at hm hn
    rw [hm, hn]

end Membership

/-- A day after that of expiry is refused, unless the two wrap around the field. -/
theorem expired_refused (expires current : Signal) (h : expires.val < current.val)
    (hwrap : current.val - expires.val + 2 ^ 64 ≤ scalarOrder) :
    2 ^ 64 ≤ (expires - current).val := by
  by_contra hlow
  have hback : expires.val = (current.val + (expires - current).val) % scalarOrder := by
    rw [← ZMod.val_add, add_sub_cancel]
  rcases Nat.lt_or_ge (current.val + (expires - current).val) scalarOrder with hsum | hsum
  · rw [Nat.mod_eq_of_lt hsum] at hback
    omega
  · have hcurrent := ZMod.val_lt current
    have hroom : 2 ^ 64 ≤ scalarOrder := by decide
    rw [Nat.mod_eq_sub_mod hsum, Nat.mod_eq_of_lt (by omega)] at hback
    omega

namespace OrganizationMembershipProduction

/-- The circuit says nothing about the day from which an attestation is valid: it enforces the
window exactly for the attestations that it refuses altogether. -/
theorem window_enforced_iff {lib : Circomlib} (hl : lib.Compares) (a : OrganizationAttestation)
    (current_epoch_day public_attestation_root issuer_registry_root : Signal) :
    ((∀ s t : OrganizationMembershipProduction 16,
        s.Presents lib a current_epoch_day public_attestation_root issuer_registry_root →
        t.Presents lib a current_epoch_day public_attestation_root issuer_registry_root →
        s.valid_after_day = t.valid_after_day ∧ s.expires_at_day = t.expires_at_day) ∧
      (a.Outside current_epoch_day → ∀ s : OrganizationMembershipProduction 16,
        ¬ s.Presents lib a current_epoch_day public_attestation_root issuer_registry_root)) ↔
      ¬ (UnderRoot lib 16 (lib.poseidon a.leafInputs) public_attestation_root ∧
        UnderRoot lib 16 a.issuer_hash issuer_registry_root ∧
        (a.expires_at_day - current_epoch_day).val < 2 ^ 64) := by
  constructor
  · rintro ⟨hunique, -⟩ ⟨⟨p, hp, hleaf, rfl⟩, ⟨q, hq, hissuer, rfl⟩, hexpires⟩
    have hzero := membershipSignals_presents hl hp hleaf hq hissuer hexpires
      (show 0 < 2 ^ 64 by decide)
    have hone := membershipSignals_presents hl hp hleaf hq hissuer hexpires
      (show 1 < 2 ^ 64 by decide)
    have hsame : current_epoch_day - ((0 : Nat) : Signal) =
        current_epoch_day - ((1 : Nat) : Signal) := (hunique _ _ hzero hone).1
    rw [sub_right_inj, Nat.cast_zero, Nat.cast_one] at hsame
    exact zero_ne_one hsame
  · intro hrefused
    have hnone : ∀ s : OrganizationMembershipProduction 16,
        ¬ s.Presents lib a current_epoch_day public_attestation_root issuer_registry_root :=
      fun s hs => hrefused ⟨hs.attested, hs.issuer_registered, hs.not_expired hl.decomposes⟩
    exact ⟨fun s _ hs => (hnone s hs).elim, fun _ => hnone⟩

end OrganizationMembershipProduction

section Sample

def membershipMessage : List Signal := [sampleSubject, 555, zeroDigests.getD 0 0, 2000, 777]

/-- The Poseidon digests on the way from the attestation to the root. -/
def membershipDigests : List Signal := [
    776582956631683438862674259307656623145612082638720984750006912674538649447,
    20333941961507838320521149825998365291738612672841532849451384521557160169084,
    13589838442604081800634615501530849836649321447438109278456836023894294288739,
    1699575765949389164379763182628998611822051138934572404104699353035234714154,
    21751341612179307313439225300109006296531224725770182116751460051937605011149,
    7031113718635236920012630520809186492086202689956558784260811602468538675764,
    6470008467952265169976465295485289484062246408101452457690579359955363415688,
    12954095262955007166853993915502296543529877180476321930539378885892952018513,
    12368659043414852005496644904387025071924637279461742099716661219905751827753,
    9074333310276977960997807151745522155517101990349600448643860095840284288551,
    7238308686441873559676271261564280924500931036781800513966353114818070418636,
    124325550509922203329523109397767269371710843689151388258520112566704760307,
    16473764467987813328009564627431296093143674026928846212933472121239412851824,
    7745784302599602670788500963046275080964456064349539379276315407148245825566,
    21813391255104819399989270957015845795303631957119205652649588685868273516365,
    13744064245802223885966276033909460118216920753384883964395432443738574303737,
    4297853535484554223769165293139573833678294061335315219667209580045769888017]

def membershipLib : Circomlib := spineLib membershipMessage membershipDigests 0

theorem membershipTable : SpineTable membershipMessage membershipDigests 0 where
  first := by decide
  spine := by decide
  tower := by decide
  distinct := by decide
  apart := by decide

/-- An attestation from day 500 to day 2000 by an issuer whose hash is that of two zeros. -/
def earlyAttestation : OrganizationAttestation where
  subject_hash := sampleSubject
  org_hash := 555
  issuer_hash := zeroDigests.getD 0 0
  valid_after_day := 500
  expires_at_day := 2000
  attestation_salt := 777

def attestationPath : PoseidonMerkleRoot 16 :=
  (spineTree membershipMessage).opening membershipLib 0

def issuerPath : PoseidonMerkleRoot 16 :=
  openingSignals membershipLib (fun _ => membershipLib.poseidon [0, 0]) 0

theorem issuerPath_leaf : issuerPath.leaf = earlyAttestation.issuer_hash := by decide

theorem issuerPath_hashed : ∀ inputs ∈ issuerPath.hashed,
    ∃ j ≤ 16, inputs = (poseidonScheme membershipLib).tower [0, 0] j := by
  intro inputs hn
  exact complete_tower_inputs _ _ 16 0 inputs
    (complete_nodeInputs (fun _ => [0, 0]) 16 0 inputs (openingSignals_hashed (by decide) inputs hn))

theorem attestationPath_hashed : ∀ inputs ∈ attestationPath.hashed,
    ∃ j ≤ 16, inputs = (poseidonScheme membershipLib).spine membershipMessage [0, 0] j ∨
      inputs = (poseidonScheme membershipLib).tower [0, 0] j := by
  intro inputs hn
  exact complete_spine_inputs _ _ _ 16 0 inputs (PoseidonTree.opening_hashed (by decide) inputs hn)

/-- A prover on day 300 with an age of the attestation of its own choice. -/
def earlySignals (age : Nat) : OrganizationMembershipProduction 16 :=
  membershipSignals earlyAttestation 300 (300 - age) attestationPath issuerPath

theorem earlySignals_presents (h : age < 2 ^ 64) :
    (earlySignals age).Presents membershipLib earlyAttestation 300 attestationPath.root
      issuerPath.root :=
  membershipSignals_presents spineLib_compares PoseidonTree.opening_constraints rfl
    openingSignals_constraints issuerPath_leaf (by decide) h

theorem earlySignals_hashed (age : Nat) : ∀ inputs ∈ (earlySignals age).hashed,
    ∃ j ≤ 16, inputs = (poseidonScheme membershipLib).spine membershipMessage [0, 0] j ∨
      inputs = (poseidonScheme membershipLib).tower [0, 0] j := by
  intro inputs hn
  rcases List.mem_cons.mp hn with rfl | hn
  · exact ⟨0, by decide, .inl rfl⟩
  · rcases List.mem_append.mp hn with hn | hn
    · exact attestationPath_hashed inputs hn
    · obtain ⟨j, hj, hinputs⟩ := issuerPath_hashed inputs hn
      exact ⟨j, hj, .inr hinputs⟩

theorem window_enforced_iff_sample :
    ((∀ s t : OrganizationMembershipProduction 16,
        s.Presents membershipLib earlyAttestation 300 attestationPath.root issuerPath.root →
        t.Presents membershipLib earlyAttestation 300 attestationPath.root issuerPath.root →
        s.valid_after_day = t.valid_after_day ∧ s.expires_at_day = t.expires_at_day) ∧
      (earlyAttestation.Outside 300 → ∀ s : OrganizationMembershipProduction 16,
        ¬ s.Presents membershipLib earlyAttestation 300 attestationPath.root issuerPath.root)) ↔
      ¬ (UnderRoot membershipLib 16 (membershipLib.poseidon earlyAttestation.leafInputs)
          attestationPath.root ∧
        UnderRoot membershipLib 16 earlyAttestation.issuer_hash issuerPath.root ∧
        (earlyAttestation.expires_at_day - 300).val < 2 ^ 64) :=
  OrganizationMembershipProduction.window_enforced_iff spineLib_compares earlyAttestation 300
    attestationPath.root issuerPath.root

/-- Two days of validity for one attestation, both before its own. -/
theorem window_not_enforced :
    let s := earlySignals 0
    let t := earlySignals 100
    membershipLib.Compares ∧
      s.Presents membershipLib earlyAttestation 300 attestationPath.root issuerPath.root ∧
      t.Presents membershipLib earlyAttestation 300 attestationPath.root issuerPath.root ∧
      (poseidonScheme membershipLib).CollisionFree (s.hashed ++ t.hashed) ∧
      earlyAttestation.Outside 300 ∧ s.valid_after_day ≠ t.valid_after_day := by
  refine ⟨spineLib_compares, earlySignals_presents (by decide), earlySignals_presents (by decide),
    ?_, .inl (by decide), by decide⟩
  apply membershipTable.collisionFree_of
  intro inputs hn
  rcases List.mem_append.mp hn with hn | hn
  · exact earlySignals_hashed 0 inputs hn
  · exact earlySignals_hashed 100 inputs hn

end Sample

structure DelegationScopeProduction (depth : Nat) where
  subject_hash : Signal
  agent_hash : Signal
  principal_hash : Signal
  action_hash : Signal
  parameter_values_hash : Signal
  policy_constraints_hash : Signal
  scope_commitment : Signal
  delegation_chain_root : Signal
  delegation_siblings : Fin depth → Signal
  delegation_path_bits : Fin depth → Signal
  human_approval_required : Signal
  human_approval_present : Signal
  leaf_hash : Signal
  path : PoseidonMerkleRoot depth

/-- The public signals of the circuit and the hash of the constraints of the policy. -/
structure DelegationScope where
  subject_hash : Signal
  agent_hash : Signal
  principal_hash : Signal
  action_hash : Signal
  parameter_values_hash : Signal
  policy_constraints_hash : Signal
  scope_commitment : Signal
  delegation_chain_root : Signal

def DelegationScope.leafInputs (scope : DelegationScope) : List Signal :=
  [scope.subject_hash, scope.agent_hash, scope.principal_hash, scope.action_hash,
    scope.parameter_values_hash, scope.policy_constraints_hash, scope.scope_commitment]

namespace DelegationScopeProduction

variable (lib : Circomlib) (s : DelegationScopeProduction depth)

structure Constraints : Prop where
  approval_required_bit : AssertBit s.human_approval_required
  approval_present_bit : AssertBit s.human_approval_present
  approval : s.human_approval_required * (1 - s.human_approval_present) = 0
  leaf_hash : s.leaf_hash = lib.poseidon
    [s.subject_hash, s.agent_hash, s.principal_hash, s.action_hash, s.parameter_values_hash,
      s.policy_constraints_hash, s.scope_commitment]
  path_leaf : s.path.leaf = s.leaf_hash
  path_siblings : ∀ i, s.path.siblings i = s.delegation_siblings i
  path_bits : ∀ i, s.path.path_bits i = s.delegation_path_bits i
  path : s.path.Constraints lib
  root : s.path.root = s.delegation_chain_root

/-- The inputs of every hash that the circuit computes. -/
def hashed : List (List Signal) :=
  [s.subject_hash, s.agent_hash, s.principal_hash, s.action_hash, s.parameter_values_hash,
    s.policy_constraints_hash, s.scope_commitment] :: s.path.hashed

def scope : DelegationScope :=
  ⟨s.subject_hash, s.agent_hash, s.principal_hash, s.action_hash, s.parameter_values_hash,
    s.policy_constraints_hash, s.scope_commitment, s.delegation_chain_root⟩

variable {lib s}

theorem Constraints.delegated (h : s.Constraints lib) :
    UnderRoot lib depth (lib.poseidon s.scope.leafInputs) s.scope.delegation_chain_root :=
  ⟨s.path, h.path, h.path_leaf.trans h.leaf_hash, h.root⟩

end DelegationScopeProduction

/-- The signals of a prover who chooses whether approval is required and present. -/
def approvalSignals (scope : DelegationScope) (path : PoseidonMerkleRoot depth)
    (required present : Signal) : DelegationScopeProduction depth where
  subject_hash := scope.subject_hash
  agent_hash := scope.agent_hash
  principal_hash := scope.principal_hash
  action_hash := scope.action_hash
  parameter_values_hash := scope.parameter_values_hash
  policy_constraints_hash := scope.policy_constraints_hash
  scope_commitment := scope.scope_commitment
  delegation_chain_root := scope.delegation_chain_root
  delegation_siblings := path.siblings
  delegation_path_bits := path.path_bits
  human_approval_required := required
  human_approval_present := present
  leaf_hash := path.leaf
  path := path

theorem approvalSignals_constraints {scope : DelegationScope} {path : PoseidonMerkleRoot depth}
    (h : path.Constraints lib) (hleaf : path.leaf = lib.poseidon scope.leafInputs)
    (hroot : path.root = scope.delegation_chain_root) (hrequired : AssertBit required)
    (hpresent : AssertBit present) (happroval : required * (1 - present) = 0) :
    (approvalSignals scope path required present).Constraints lib where
  approval_required_bit := hrequired
  approval_present_bit := hpresent
  approval := happroval
  leaf_hash := hleaf
  path_leaf := rfl
  path_siblings _ := rfl
  path_bits _ := rfl
  path := h
  root := hroot

namespace DelegationScopeProduction

/-- The circuit lets every prover waive the approval: it enforces what the policy demands exactly
for the delegations that it refuses altogether. -/
theorem approval_enforced_iff (lib : Circomlib) (scope : DelegationScope) (demanded : Bool) :
    ((∀ s t : DelegationScopeProduction 16, s.Constraints lib → t.Constraints lib →
        s.scope = scope → t.scope = scope →
        s.human_approval_required = t.human_approval_required) ∧
      (demanded = true → ∀ s : DelegationScopeProduction 16, s.Constraints lib →
        s.scope = scope → s.human_approval_present ≠ 0)) ↔
      ¬ UnderRoot lib 16 (lib.poseidon scope.leafInputs) scope.delegation_chain_root := by
  constructor
  · rintro ⟨hunique, -⟩ ⟨path, hpath, hleaf, hroot⟩
    have hwaived := approvalSignals_constraints hpath hleaf hroot
      (assertBit_iff.mpr (.inl rfl)) (assertBit_iff.mpr (.inl rfl)) (zero_mul _)
    have happroved := approvalSignals_constraints hpath hleaf hroot
      (assertBit_iff.mpr (.inr rfl)) (assertBit_iff.mpr (.inr rfl)) (by rw [sub_self, mul_zero])
    exact zero_ne_one (hunique _ _ hwaived happroved rfl rfl)
  · intro hrefused
    have hnone : ∀ s : DelegationScopeProduction 16, s.Constraints lib → s.scope ≠ scope := by
      rintro s hs rfl
      exact hrefused hs.delegated
    exact ⟨fun s _ hs _ hscope => (hnone s hs hscope).elim,
      fun _ s hs hscope => (hnone s hs hscope).elim⟩

end DelegationScopeProduction

section Sample

/-- The delegation of the circuit's own test. -/
def delegationMessage : List Signal := [sampleSubject, 1001, 1002, 1003, 1004, 1005, 1006]

/-- The Poseidon digests on the way from that delegation to the root. -/
def delegationDigests : List Signal := [
    7914675149893140136005091948649403408988458996648240066506078953328167964938,
    14525845963788705302436791246464214741146045274519797066799080364742804594690,
    416073989229749979685559851188312001351491704275410867437847155902653496452,
    12926230871026205242987906494945082168021545985575103382486522194271902718343,
    20645016579521476514467782268525821003853393454013357880155651822882467380619,
    12019347197666571658923389882859333778713794189961754663700489978440652597377,
    16061227319392806237404111689429622838033492396411791203411113395729156818712,
    18502596072996727807660257717351957688654877838666390740080467415163416456482,
    13274928819913286096359722214760839943298739699567694665113495036333790085330,
    8403277639232280265031268225204388062707144989939998626781707152060821568807,
    1354233796457203333466886860756746765543004683981963676637017663513443252632,
    6566657216885550787348259054170325416765732560545340947981509251650660301832,
    470485859408304265134244644415450021522719648923208497404647660992827119092,
    10196863794515703594654937033400366535102528196144117442490043901330948184859,
    10231175803952000283032024642390039531486184168836300095937543212641876611117,
    445493959390372672512909605120724541890919318757408478479539941494037851082,
    21850258356592929239494294446469449681962866605089728398905928124610501450493]

def delegationLib : Circomlib := spineLib delegationMessage delegationDigests 0

theorem delegationTable : SpineTable delegationMessage delegationDigests 0 where
  first := by decide
  spine := by decide
  tower := by decide
  distinct := by decide
  apart := by decide

def delegationPath : PoseidonMerkleRoot 16 := (spineTree delegationMessage).opening delegationLib 0

def sampleScope : DelegationScope where
  subject_hash := sampleSubject
  agent_hash := 1001
  principal_hash := 1002
  action_hash := 1003
  parameter_values_hash := 1004
  policy_constraints_hash := 1005
  scope_commitment := 1006
  delegation_chain_root := delegationPath.root

/-- The approval that one prover calls required is waived by another. -/
theorem approval_waived :
    let s := approvalSignals sampleScope delegationPath 1 1
    let t := approvalSignals sampleScope delegationPath 0 0
    s.Constraints delegationLib ∧ t.Constraints delegationLib ∧ s.scope = t.scope ∧
      (poseidonScheme delegationLib).CollisionFree (s.hashed ++ t.hashed) ∧
      s.human_approval_required = 1 ∧ t.human_approval_required = 0 ∧
      t.human_approval_present = 0 := by
  refine ⟨?_, ?_, rfl, ?_, rfl, rfl, rfl⟩
  · exact approvalSignals_constraints PoseidonTree.opening_constraints rfl rfl
      (assertBit_iff.mpr (.inr rfl)) (assertBit_iff.mpr (.inr rfl)) (by rw [sub_self, mul_zero])
  · exact approvalSignals_constraints PoseidonTree.opening_constraints rfl rfl
      (assertBit_iff.mpr (.inl rfl)) (assertBit_iff.mpr (.inl rfl)) (zero_mul _)
  · apply delegationTable.collisionFree_of
    intro inputs hn
    rw [show (approvalSignals sampleScope delegationPath 1 1).hashed =
      (approvalSignals sampleScope delegationPath 0 0).hashed from rfl, List.mem_append,
      or_self] at hn
    rcases List.mem_cons.mp hn with rfl | hn
    · exact ⟨0, by decide, .inl rfl⟩
    · exact complete_spine_inputs _ _ _ 16 0 inputs
        (PoseidonTree.opening_hashed (by decide) inputs hn)

end Sample

end Continuity

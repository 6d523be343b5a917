import Continuity.Circuits

namespace Continuity
open HashTree
set_option autoImplicit true

/-- The inputs of a leaf of the identity registry. -/
structure RegistryLeaf where
  subject_hash : Signal
  creation_epoch_day : Signal
  registry_salt : Signal

def RegistryLeaf.inputs (leaf : RegistryLeaf) : List Signal :=
  [leaf.subject_hash, leaf.creation_epoch_day, leaf.registry_salt]

theorem RegistryLeaf.inputs_injective {a b : RegistryLeaf} (h : a.inputs = b.inputs) : a = b := by
  simp only [inputs, List.cons.injEq] at h
  obtain ⟨hs, hd, hr, -⟩ := h
  cases a
  cases b
  simp_all

/-- The leaves of a registry tree, each with a creation day below the bound. -/
structure IdentityRegistry (depth bound : Nat) where
  leaf : Nat → RegistryLeaf
  dated : ∀ slot < 2 ^ depth, (leaf slot).creation_epoch_day.val < bound

namespace IdentityRegistry

variable (lib : Circomlib) (registry : IdentityRegistry depth bound)

def tree : MessageTree (List Signal) := complete (fun slot => (registry.leaf slot).inputs) depth 0

def root : Signal := registry.tree.digest (poseidonScheme lib)

/-- The inputs of every hash in the tree. -/
def hashed : List (List Signal) := registry.tree.inputs (poseidonScheme lib)

end IdentityRegistry

structure IdentityAgeThresholdProduction (depth : Nat) where
  creation_epoch_day : Signal
  current_epoch_day : Signal
  threshold_days : Signal
  subject_hash : Signal
  registry_salt : Signal
  registry_siblings : Fin depth → Signal
  registry_path_bits : Fin depth → Signal
  public_registry_root : Signal
  age_days : Signal
  age_check : RangeAtLeast
  leaf_hash : Signal
  path : PoseidonMerkleRoot depth

namespace IdentityAgeThresholdProduction

variable (lib : Circomlib) (s : IdentityAgeThresholdProduction depth)

def leaf : RegistryLeaf := ⟨s.subject_hash, s.creation_epoch_day, s.registry_salt⟩

structure Constraints : Prop where
  age_days : s.age_days = s.current_epoch_day - s.creation_epoch_day
  age_value : s.age_check.value = s.age_days
  age_threshold : s.age_check.threshold = s.threshold_days
  age_check : s.age_check.Constraints lib 64
  leaf_hash : s.leaf_hash =
    lib.poseidon [s.subject_hash, s.creation_epoch_day, s.registry_salt]
  path_leaf : s.path.leaf = s.leaf_hash
  path_siblings : ∀ i, s.path.siblings i = s.registry_siblings i
  path_bits : ∀ i, s.path.path_bits i = s.registry_path_bits i
  path : s.path.Constraints lib
  root : s.path.root = s.public_registry_root

/-- The inputs of every hash that the circuit computes. -/
def hashed : List (List Signal) := s.leaf.inputs :: s.path.hashed

/-- The number that the path bits spell. -/
def index : Nat := ∑ i, (s.registry_path_bits i).val * 2 ^ (i : Nat)

variable {lib s}

theorem Constraints.bits (h : s.Constraints lib) (i : Fin depth) :
    AssertBit (s.registry_path_bits i) := by
  rw [← h.path_bits, ← h.path.bit]
  exact (h.path.select i).bit_check

theorem Constraints.spell_index (h : s.Constraints lib) :
    spell 0 (s.path.steps.map Prod.fst).reverse = s.index := by
  have hsides : s.path.steps.map Prod.fst =
      List.ofFn fun i => siblingSide (s.registry_path_bits i) := by
    rw [PoseidonMerkleRoot.steps, List.map_ofFn]
    exact congrArg List.ofFn (funext fun i => congrArg siblingSide (h.path_bits i))
  rw [hsides, spell_bits _ h.bits, index]

/-- The leaf at the number that the path bits spell is the one that the prover hashed. -/
theorem Constraints.registry_leaf (h : s.Constraints lib) (registry : IdentityRegistry depth bound)
    (hroot : s.public_registry_root = registry.root lib)
    (hc : (poseidonScheme lib).CollisionFree (registry.hashed lib ++ s.hashed)) :
    s.index < 2 ^ depth ∧ registry.leaf s.index = s.leaf := by
  have hstart : (poseidonScheme lib).hash s.leaf.inputs = s.path.leaf := by
    rw [h.path_leaf, h.leaf_hash]
    rfl
  have hclimb : (poseidonScheme lib).climb ((poseidonScheme lib).hash s.leaf.inputs)
      s.path.steps = registry.tree.digest (poseidonScheme lib) := by
    rw [hstart, h.path.climb, h.root, hroot]
    rfl
  have hleaves : ∀ n ∈ registry.tree.leaves, n.length = 3 := by
    intro n hn
    obtain ⟨slot, rfl⟩ := complete_leaves _ _ _ n hn
    rfl
  have hdescend := poseidonScheme_separated.climb_sound registry.tree s.path.steps hleaves
    (m := s.leaf.inputs) rfl (by rwa [hstart, h.path.pathInputs]) hclimb
  have hlength : ((s.path.steps.map Prod.fst).reverse).length = depth := by
    simp [PoseidonMerkleRoot.steps]
  rw [IdentityRegistry.tree, complete_descend, if_pos hlength, Option.some.injEq,
    h.spell_index] at hdescend
  constructor
  · have hdiv := spell_div 0 (s.path.steps.map Prod.fst).reverse
    rw [h.spell_index, hlength, Nat.div_eq_zero_iff] at hdiv
    exact hdiv.resolve_left (by positivity)
  · exact RegistryLeaf.inputs_injective hdescend

/-- The three days differ by a number below `2^64`, read in the field. -/
theorem Constraints.days (hd : lib.Decomposes) (h : s.Constraints lib) :
    ∃ low : Nat, low < 2 ^ 64 ∧
      s.current_epoch_day = s.creation_epoch_day + s.threshold_days + (low : Signal) := by
  obtain ⟨low, hlow, hvalue⟩ := h.age_check.range hd
  rw [h.age_value, h.age_threshold, h.age_days] at hvalue
  exact ⟨low, hlow, by linear_combination hvalue⟩

/-- Days that cannot wrap around the field are days as integers. -/
theorem Constraints.age (hd : lib.Decomposes) (h : s.Constraints lib)
    (hwrap : s.creation_epoch_day.val + s.threshold_days.val + 2 ^ 64 ≤ scalarOrder) :
    s.creation_epoch_day.val + s.threshold_days.val ≤ s.current_epoch_day.val := by
  obtain ⟨low, hlow, hdays⟩ := h.days hd
  have hcast : s.current_epoch_day =
      ((s.creation_epoch_day.val + s.threshold_days.val + low : Nat) : Signal) := by
    push_cast
    rw [ZMod.natCast_zmod_val, ZMod.natCast_zmod_val, hdays]
  have hval : s.current_epoch_day.val =
      s.creation_epoch_day.val + s.threshold_days.val + low := by
    rw [hcast, ZMod.val_natCast_of_lt (by omega)]
  omega

end IdentityAgeThresholdProduction

section Uniform

variable (lib : Circomlib) (leaf : RegistryLeaf)

/-- The digest of the subtrees of a height whose leaves are all the same. -/
def uniformDigest (height : Nat) : Signal :=
  (poseidonScheme lib).hash ((poseidonScheme lib).tower leaf.inputs height)

def uniformRegistry (h : leaf.creation_epoch_day.val < bound) : IdentityRegistry depth bound where
  leaf _ := leaf
  dated _ _ := h

/-- The signals of a prover for the first leaf of a registry with a single leaf everywhere. -/
def uniformSignals (current_epoch_day threshold_days : Signal) :
    IdentityAgeThresholdProduction depth where
  creation_epoch_day := leaf.creation_epoch_day
  current_epoch_day := current_epoch_day
  threshold_days := threshold_days
  subject_hash := leaf.subject_hash
  registry_salt := leaf.registry_salt
  registry_siblings i := uniformDigest lib leaf i
  registry_path_bits _ := 0
  public_registry_root := uniformDigest lib leaf depth
  age_days := current_epoch_day - leaf.creation_epoch_day
  age_check := ⟨current_epoch_day - leaf.creation_epoch_day, threshold_days, 0⟩
  leaf_hash := uniformDigest lib leaf 0
  path := {
    leaf := uniformDigest lib leaf 0
    siblings i := uniformDigest lib leaf i
    path_bits _ := 0
    root := uniformDigest lib leaf depth
    current i := uniformDigest lib leaf i
    select i :=
      let digest := uniformDigest lib leaf i
      ⟨0, digest, digest, digest, digest⟩ }

variable {lib leaf}

theorem uniformSignals_constraints
    (h : lib.lessThan 64 (current_epoch_day - leaf.creation_epoch_day) threshold_days 0) :
    (uniformSignals lib leaf current_epoch_day threshold_days :
      IdentityAgeThresholdProduction depth).Constraints lib where
  age_days := rfl
  age_value := rfl
  age_threshold := rfl
  age_check := ⟨h, rfl⟩
  leaf_hash := rfl
  path_leaf := rfl
  path_siblings _ := rfl
  path_bits _ := rfl
  path := {
    first := rfl
    bit _ := rfl
    left_when_zero _ := rfl
    right_when_zero _ := rfl
    select i := ⟨zero_mul _, by simp [uniformSignals], by simp [uniformSignals]⟩
    hash _ := rfl
    root := rfl }
  root := rfl

theorem uniformSignals_root (h : leaf.creation_epoch_day.val < bound) :
    (uniformSignals lib leaf current_epoch_day threshold_days :
      IdentityAgeThresholdProduction depth).public_registry_root =
      (uniformRegistry leaf h : IdentityRegistry depth bound).root lib :=
  (complete_tower (poseidonScheme lib) leaf.inputs depth 0).symm

theorem uniformSignals_hashed : ∀ inputs ∈ (uniformSignals lib leaf current_epoch_day
      threshold_days : IdentityAgeThresholdProduction depth).hashed,
    ∃ height ≤ depth, inputs = (poseidonScheme lib).tower leaf.inputs height := by
  intro inputs hn
  rcases List.mem_cons.mp hn with hn | hn
  · exact ⟨0, by omega, hn⟩
  · obtain ⟨i, rfl⟩ := List.mem_ofFn.mp hn
    exact ⟨i + 1, i.isLt, rfl⟩

/-- Nothing that the registry or its prover hashes collides where the digests of the heights all
differ. -/
theorem uniform_collisionFree (h : leaf.creation_epoch_day.val < bound)
    (hd : ∀ i ≤ depth, ∀ j ≤ depth, uniformDigest lib leaf i = uniformDigest lib leaf j → i = j) :
    (poseidonScheme lib).CollisionFree
      ((uniformRegistry leaf h : IdentityRegistry depth bound).hashed lib ++
        (uniformSignals lib leaf current_epoch_day threshold_days :
          IdentityAgeThresholdProduction depth).hashed) := by
  apply Scheme.tower_collisionFree _ leaf.inputs depth hd
  intro n hn
  rcases List.mem_append.mp hn with hn | hn
  · exact complete_tower_inputs _ _ _ _ n hn
  · exact uniformSignals_hashed n hn

end Uniform

namespace IdentityAgeThresholdProduction

variable {lib : Circomlib} {s : IdentityAgeThresholdProduction depth}

/-- The circuit is satisfied for a leaf of the tree alone, and for an age that reaches the
threshold as an integer. -/
theorem constraints_sound (hd : lib.Decomposes) (registry : IdentityRegistry depth (2 ^ 64))
    (hs : s.Constraints lib) (hroot : s.public_registry_root = registry.root lib)
    (hc : (poseidonScheme lib).CollisionFree (registry.hashed lib ++ s.hashed))
    (ht : s.threshold_days.val < 2 ^ 64) :
    s.index < 2 ^ depth ∧ (registry.leaf s.index).subject_hash = s.subject_hash ∧
      (registry.leaf s.index).creation_epoch_day.val + s.threshold_days.val ≤
        s.current_epoch_day.val := by
  obtain ⟨hindex, hleaf⟩ := hs.registry_leaf registry hroot hc
  have hday : s.creation_epoch_day.val < 2 ^ 64 := by
    have hdated := registry.dated _ hindex
    rwa [hleaf] at hdated
  have hroom : 2 ^ 64 + 2 ^ 64 + 2 ^ 64 ≤ scalarOrder := by decide
  rw [hleaf]
  exact ⟨hindex, rfl, hs.age hd (by omega)⟩

end IdentityAgeThresholdProduction

section Sample

/-- The hash of `did:tsl:alice` in the field, created on day 20597. -/
def aliceLeaf : RegistryLeaf where
  subject_hash :=
    6181504558003890557814794433726157959365828253336300180688265461169138230685
  creation_epoch_day := 20597
  registry_salt := 7

/-- The Poseidon digests of the subtrees of a tree with the leaf of alice everywhere. -/
def aliceDigests : List Signal := [
    21371210323069052442391826505054455547551760005638321960198749761028139694918,
    15875170570222219545293280834083306176937161361324301159323393956824371508027,
    10198265411177382936792191331810290423598207353719128062568414349076145035878,
    108043296028297621965801733585933093316439621444055686724200400268284991792,
    14998525349840813108147884064204799189724932121716186035547211460116620377836,
    984787176885587935914020216434426146620081882644402629542139419150780343259,
    16662393204570741776669007778620886701275355956806814458007207362649697669431,
    11941755646040140312269850981767681028770284732961866765194846963902397741821,
    2085127882827048793095002559539096306458068452490552476526352412668025561216,
    12094079299782691966806786374506364063155902455938850968006123487712996261759,
    15754071876015262069964331917018924893416503967043184179968966071049798665443,
    14442091242609820628294628476937039382871207862907554318222579767969712309459,
    1955577054882435960555323966663676641018682872198534590658498196582326196700,
    592974415374667026886458039141718882603489712646253868199093655790829963079,
    21156096119358096243074126824958522288900505520754398817282559225213414979331,
    5078255338845743064657245925856861533658884392773812125395062677847423820852,
    5025280834365279260005571959723835216599663207098160832972790298440583709592]

/-- Poseidon on the inputs of that tree. -/
def alicePoseidon (inputs : List Signal) : Signal :=
  if inputs = aliceLeaf.inputs then aliceDigests.getD 0 0
  else match inputs with
    | [left, _] => aliceDigests.getD (aliceDigests.idxOf left + 1) 0
    | _ => 0

def aliceLib : Circomlib where
  poseidon := alicePoseidon
  lessThan := LessDecomposed

theorem aliceLib_decomposes : aliceLib.Decomposes := fun _ _ _ _ h => h

theorem aliceDigest_eq {height : Nat} (h : height ≤ 16) :
    uniformDigest aliceLib aliceLeaf height = aliceDigests.getD height 0 := by
  have hstep : ∀ height < 16, alicePoseidon [aliceDigests.getD height 0,
      aliceDigests.getD height 0] = aliceDigests.getD (height + 1) 0 := by
    decide
  induction height with
  | zero => decide
  | succ height ih =>
    rw [← hstep height (by omega), ← ih (by omega)]
    rfl

theorem aliceDigest_injective : ∀ i ≤ 16, ∀ j ≤ 16,
    uniformDigest aliceLib aliceLeaf i = uniformDigest aliceLib aliceLeaf j → i = j := by
  have htable : ∀ i < 17, ∀ j < 17, aliceDigests.getD i 0 = aliceDigests.getD j 0 → i = j := by
    decide
  intro i hi j hj h
  rw [aliceDigest_eq hi, aliceDigest_eq hj] at h
  exact htable i (by omega) j (by omega) h

theorem aliceLeaf_dated : aliceLeaf.creation_epoch_day.val < 2 ^ 64 := by decide

theorem constraints_sound_sample :
    let registry : IdentityRegistry 16 (2 ^ 64) := uniformRegistry aliceLeaf aliceLeaf_dated
    let s : IdentityAgeThresholdProduction 16 := uniformSignals aliceLib aliceLeaf 20598 1
    s.index < 2 ^ 16 ∧ (registry.leaf s.index).subject_hash = s.subject_hash ∧
      (registry.leaf s.index).creation_epoch_day.val + s.threshold_days.val ≤
        s.current_epoch_day.val := by
  have hless : aliceLib.lessThan 64 (20598 - aliceLeaf.creation_epoch_day) 1 0 := by
    have hage : 20598 - aliceLeaf.creation_epoch_day = 1 + ((0 : Nat) : Signal) := by
      decide
    rw [hage]
    exact lessDecomposed_of_range 1 (by decide)
  exact IdentityAgeThresholdProduction.constraints_sound aliceLib_decomposes _
    (uniformSignals_constraints hless) (uniformSignals_root aliceLeaf_dated)
    (uniform_collisionFree _ aliceDigest_injective) (by decide)

end Sample

end Continuity

import Continuity.Circuits

namespace Continuity
open HashTree
set_option autoImplicit true

def Circomlib.Compares (lib : Circomlib) : Prop :=
  ∀ n in₀ in₁ out, lib.lessThan n in₀ in₁ out ↔ LessDecomposed n in₀ in₁ out

theorem Circomlib.Compares.decomposes (h : Circomlib.Compares lib) : lib.Decomposes :=
  fun n in₀ in₁ out => (h n in₀ in₁ out).mp

section Slots

/-- The number of slots whose bit is one. -/
def marked (bits : Fin n → Signal) : Nat := (Finset.univ.filter fun i => bits i = 1).card

theorem marked_le (bits : Fin n → Signal) : marked bits ≤ n := by
  simpa [marked] using Finset.card_le_univ (Finset.univ.filter fun i => bits i = 1)

theorem running_sum (count : Fin (n + 1) → Signal) (bits : Fin n → Signal)
    (hfirst : count 0 = 0) (hnext : ∀ i, count i.succ = count i.castSucc + bits i) :
    count (Fin.last n) = ∑ i, bits i := by
  induction n with
  | zero => simpa using hfirst
  | succ n ih =>
    have hlower := ih (fun i => count i.castSucc) (fun i => bits i.castSucc) hfirst
      fun i => hnext i.castSucc
    rw [Fin.sum_univ_castSucc, ← hlower]
    exact hnext (Fin.last n)

theorem sum_marked (bits : Fin n → Signal) (h : ∀ i, AssertBit (bits i)) :
    ∑ i, bits i = (marked bits : Signal) := by
  rw [marked, ← Finset.sum_boole]
  apply Finset.sum_congr rfl
  intro i _
  rcases assertBit_iff.mp (h i) with hb | hb
  · simp [hb]
  · simp [hb]

/-- A running count ends with the number of the marked slots. -/
theorem running_count (count : Fin (n + 1) → Signal) (bits : Fin n → Signal)
    (hfirst : count 0 = 0) (hbit : ∀ i, AssertBit (bits i))
    (hnext : ∀ i, count i.succ = count i.castSucc + bits i) :
    count (Fin.last n) = (marked bits : Signal) := by
  rw [running_sum count bits hfirst hnext, sum_marked bits hbit]

end Slots

theorem poseidonScheme_paired : (poseidonScheme lib).Paired := by
  intro a b c d h
  simpa [poseidonScheme] using h

namespace PoseidonMerkleRoot

variable {lib : Circomlib} {p : PoseidonMerkleRoot depth}

theorem Constraints.bits (h : p.Constraints lib) (i : Fin depth) : AssertBit (p.path_bits i) := by
  rw [← h.bit]
  exact (h.select i).bit_check

theorem steps_length : p.steps.length = depth := by simp [steps]

theorem Constraints.spell_index (h : p.Constraints lib) :
    spell 0 (p.steps.map Prod.fst).reverse = p.index := by
  rw [steps, List.map_ofFn]
  exact spell_bits _ h.bits

theorem Constraints.index_lt (h : p.Constraints lib) : p.index < 2 ^ depth := by
  have hdiv := spell_div 0 (p.steps.map Prod.fst).reverse
  rw [h.spell_index, List.length_reverse, List.length_map, steps_length,
    Nat.div_eq_zero_iff] at hdiv
  exact hdiv.resolve_left (by positivity)

/-- A path that reaches the root of a tree starts at the leaf whose position its bits spell. -/
theorem Constraints.leaf_at (h : p.Constraints lib) (leaf : Nat → Signal)
    (hroot : p.root = (poseidonScheme lib).node leaf depth 0)
    (hc : (poseidonScheme lib).CollisionFree
      ((poseidonScheme lib).nodeInputs leaf depth 0 ++ p.hashed)) :
    leaf p.index = p.leaf := by
  rw [← h.spell_index]
  exact poseidonScheme_paired.climb_node leaf depth 0 p.steps steps_length
    (by rwa [h.pathInputs]) (by rw [h.climb, hroot])

end PoseidonMerkleRoot

section Opening

variable (lib : Circomlib) (leaf : Nat → Signal) (slot : Nat)

def openingSelect (bit : Nat) (current sibling : Signal) : Select2 :=
  if bit = 0 then ⟨0, current, sibling, current, sibling⟩
  else ⟨1, current, sibling, sibling, current⟩

/-- The signals that open a position of the tree over the leaves. -/
def openingSignals : PoseidonMerkleRoot depth :=
  let node := (poseidonScheme lib).node leaf
  let sibling (i : Nat) := if i % 2 = 0 then i + 1 else i - 1
  { leaf := leaf slot
    siblings := fun j => node j (sibling (slot / 2 ^ (j : Nat)))
    path_bits := fun j => ((slot / 2 ^ (j : Nat) % 2 : Nat) : Signal)
    root := node depth (slot / 2 ^ depth)
    current := fun j => node j (slot / 2 ^ (j : Nat))
    select := fun j => openingSelect (slot / 2 ^ (j : Nat) % 2)
      (node j (slot / 2 ^ (j : Nat))) (node j (sibling (slot / 2 ^ (j : Nat)))) }

variable {lib leaf slot}

theorem openingSelect_constraints (bit : Nat) (current sibling : Signal) :
    (openingSelect bit current sibling).Constraints := by
  rw [openingSelect]
  split
  · exact ⟨zero_mul _, by ring, by ring⟩
  · exact ⟨by simp [AssertBit], by ring, by ring⟩

theorem openingSelect_inputs (bit : Nat) (current sibling : Signal) :
    (openingSelect bit current sibling).left_when_zero = current ∧
      (openingSelect bit current sibling).right_when_zero = sibling := by
  rw [openingSelect]
  split
  · exact ⟨rfl, rfl⟩
  · exact ⟨rfl, rfl⟩

/-- The inputs of the hashes along an opening are nodes of the tree. -/
theorem openingSignals_inputs (j : Fin depth) :
    let node := (poseidonScheme lib).node leaf
    let select := (openingSignals lib leaf slot : PoseidonMerkleRoot depth).select j
    [select.left, select.right] =
      [node j (2 * (slot / 2 ^ ((j : Nat) + 1))), node j (2 * (slot / 2 ^ ((j : Nat) + 1)) + 1)] := by
  have hp : slot / 2 ^ ((j : Nat) + 1) = slot / 2 ^ (j : Nat) / 2 := by
    rw [pow_succ, Nat.div_div_eq_div_mul]
  dsimp only [openingSignals]
  rw [hp]
  rcases Nat.mod_two_eq_zero_or_one (slot / 2 ^ (j : Nat)) with h | h
  · have hi : 2 * (slot / 2 ^ (j : Nat) / 2) = slot / 2 ^ (j : Nat) := by omega
    simp [openingSelect, h, hi]
  · have hi : 2 * (slot / 2 ^ (j : Nat) / 2) + 1 = slot / 2 ^ (j : Nat) := by omega
    have hj : slot / 2 ^ (j : Nat) - 1 = 2 * (slot / 2 ^ (j : Nat) / 2) := by omega
    simp [openingSelect, h, hi, hj]

theorem openingSignals_constraints :
    (openingSignals lib leaf slot : PoseidonMerkleRoot depth).Constraints lib where
  first := by simp [openingSignals, Scheme.node]
  bit i := by
    dsimp only [openingSignals]
    rcases Nat.mod_two_eq_zero_or_one (slot / 2 ^ (i : Nat)) with h | h
    · simp [openingSelect, h]
    · simp [openingSelect, h]
  left_when_zero _ := (openingSelect_inputs _ _ _).1
  right_when_zero _ := (openingSelect_inputs _ _ _).2
  select _ := openingSelect_constraints _ _ _
  hash i := by
    rw [openingSignals_inputs i]
    rfl
  root := rfl

theorem openingSignals_root (h : slot < 2 ^ depth) :
    (openingSignals lib leaf slot : PoseidonMerkleRoot depth).root =
      (poseidonScheme lib).node leaf depth 0 := by
  dsimp only [openingSignals]
  rw [Nat.div_eq_of_lt h]

theorem openingSignals_hashed (h : slot < 2 ^ depth) :
    ∀ inputs ∈ (openingSignals lib leaf slot : PoseidonMerkleRoot depth).hashed,
      inputs ∈ (poseidonScheme lib).nodeInputs leaf depth 0 := by
  intro inputs hn
  obtain ⟨j, rfl⟩ := List.mem_ofFn.mp hn
  obtain ⟨n, hdepth⟩ : ∃ n, depth = j + 1 + n := ⟨depth - (j + 1), by omega⟩
  have htop : slot / 2 ^ ((j : Nat) + 1) / 2 ^ n = 0 := by
    rw [Nat.div_div_eq_div_mul, ← pow_add, ← hdepth, Nat.div_eq_of_lt h]
  have hpair := (poseidonScheme lib).pair_mem_nodeInputs leaf j n (slot / 2 ^ ((j : Nat) + 1))
  rw [htop, ← hdepth] at hpair
  rw [openingSignals_inputs j]
  exact hpair

end Opening

/-- A tree of hashed leaves, by the inputs of the hash at each position. -/
structure PoseidonTree (depth : Nat) where
  leaf : Nat → List Signal

namespace PoseidonTree

variable (lib : Circomlib) (tree : PoseidonTree depth)

def root : Signal := (complete tree.leaf depth 0).digest (poseidonScheme lib)

/-- The inputs of every hash in the tree. -/
def hashed : List (List Signal) := (complete tree.leaf depth 0).inputs (poseidonScheme lib)

def opening (slot : Nat) : PoseidonMerkleRoot depth :=
  openingSignals lib (fun i => lib.poseidon (tree.leaf i)) slot

/-- The positions whose leaf has the property. -/
def positions (holds : List Signal → Bool) : Finset Nat :=
  (Finset.range (2 ^ depth)).filter fun slot => holds (tree.leaf slot)

variable {lib tree}

theorem root_node :
    tree.root lib = (poseidonScheme lib).node (fun i => lib.poseidon (tree.leaf i)) depth 0 :=
  complete_node tree.leaf depth 0

theorem node_hashed :
    ∀ n ∈ (poseidonScheme lib).nodeInputs (fun i => lib.poseidon (tree.leaf i)) depth 0,
      n ∈ tree.hashed lib :=
  complete_nodeInputs tree.leaf depth 0

theorem leaf_hashed (h : slot < 2 ^ depth) : tree.leaf slot ∈ tree.hashed lib :=
  MessageTree.leaves_inputs _ _ (complete_leaf_mem tree.leaf depth 0 slot (Nat.div_eq_of_lt h))

theorem opening_constraints : (tree.opening lib slot).Constraints lib := openingSignals_constraints

theorem opening_root (h : slot < 2 ^ depth) : (tree.opening lib slot).root = tree.root lib := by
  rw [opening, openingSignals_root h, root_node]

theorem opening_hashed (h : slot < 2 ^ depth) :
    ∀ inputs ∈ (tree.opening lib slot).hashed, inputs ∈ tree.hashed lib :=
  fun inputs hn => node_hashed inputs (openingSignals_hashed h inputs hn)

/-- A path from a hash to the root starts at a leaf with the inputs of that hash. -/
theorem leaf_opened {p : PoseidonMerkleRoot depth} (h : p.Constraints lib)
    (hleaf : p.leaf = lib.poseidon inputs) (hroot : p.root = tree.root lib)
    (hc : (poseidonScheme lib).CollisionFree (tree.hashed lib ++ inputs :: p.hashed)) :
    p.index < 2 ^ depth ∧ tree.leaf p.index = inputs := by
  have hindex := h.index_lt
  have hdigest : lib.poseidon (tree.leaf p.index) = lib.poseidon inputs := by
    rw [← hleaf]
    apply h.leaf_at (fun i => lib.poseidon (tree.leaf i)) (by rw [hroot, root_node])
    apply hc.subset
    intro n hn
    rcases List.mem_append.mp hn with hn | hn
    · exact List.mem_append_left _ (node_hashed n hn)
    · exact List.mem_append_right _ (List.mem_cons_of_mem _ hn)
  exact ⟨hindex, hc _ (List.mem_append_left _ (leaf_hashed hindex)) _ (by simp) hdigest⟩

end PoseidonTree

section Sample

/-- The subject of the samples. -/
def sampleSubject : Signal := 12345

/-- The Poseidon digests of the trees with the same leaf everywhere, the hash of two zeros. -/
def zeroDigests : List Signal := [
    14744269619966411208579211824598458697587494354926760081771325075741142829156,
    7423237065226347324353380772367382631490014989348495481811164164159255474657,
    11286972368698509976183087595462810875513684078608517520839298933882497716792,
    3607627140608796879659380071776844901612302623152076817094415224584923813162,
    19712377064642672829441595136074946683621277828620209496774504837737984048981,
    20775607673010627194014556968476266066927294572720319469184847051418138353016,
    3396914609616007258851405644437304192397291162432396347162513310381425243293,
    21551820661461729022865262380882070649935529853313286572328683688269863701601,
    6573136701248752079028194407151022595060682063033565181951145966236778420039,
    12413880268183407374852357075976609371175688755676981206018884971008854919922,
    14271763308400718165336499097156975241954733520325982997864342600795471836726,
    20066985985293572387227381049700832219069292839614107140851619262827735677018,
    9394776414966240069580838672673694685292165040808226440647796406499139370960,
    11331146992410411304059858900317123658895005918277453009197229807340014528524,
    15819538789928229930262697811477882737253464456578333862691129291651619515538,
    19217088683336594659449020493828377907203207941212636669271704950158751593251,
    21035245323335827719745544373081896983162834604456827698288649288827293579666]

/-- Poseidon on the inputs of a tree of depth 16 with its own first leaf and the hash of two zeros
at all the others. -/
def spinePoseidon (message : List Signal) (digests : List Signal) (pointer : Signal)
    (inputs : List Signal) : Signal :=
  if inputs = message then digests.getD 0 0
  else if inputs = [0, 0] then zeroDigests.getD 0 0
  else match inputs with
    | [left, _] =>
      if left ∈ digests then digests.getD (digests.idxOf left + 1) 0
      else zeroDigests.getD (zeroDigests.idxOf left + 1) 0
    | _ => pointer

def spineLib (message : List Signal) (digests : List Signal) (pointer : Signal) : Circomlib where
  poseidon := spinePoseidon message digests pointer
  lessThan := LessDecomposed

def spineTree (message : List Signal) : PoseidonTree 16 where
  leaf := firstLeaf message [0, 0]

theorem spineLib_compares : (spineLib message digests pointer).Compares := fun _ _ _ _ => Iff.rfl

/-- The tables agree with one another, level by level. -/
structure SpineTable (message : List Signal) (digests : List Signal) (pointer : Signal) : Prop where
  first : message ≠ [0, 0]
  spine : ∀ j < 16, spinePoseidon message digests pointer
    [digests.getD j 0, zeroDigests.getD j 0] = digests.getD (j + 1) 0
  tower : ∀ j < 16, spinePoseidon message digests pointer
    [zeroDigests.getD j 0, zeroDigests.getD j 0] = zeroDigests.getD (j + 1) 0
  distinct : ∀ i < 17, ∀ j < 17, digests.getD i 0 = digests.getD j 0 → i = j
  apart : ∀ i < 17, ∀ j < 17, digests.getD i 0 ≠ zeroDigests.getD j 0

theorem zeroDigests_injective :
    ∀ i < 17, ∀ j < 17, zeroDigests.getD i 0 = zeroDigests.getD j 0 → i = j := by
  decide

variable {message digests : List Signal} {pointer : Signal}

theorem SpineTable.tower_digest (h : SpineTable message digests pointer) {k : Nat} (hk : k ≤ 16) :
    (spineLib message digests pointer).poseidon
      ((poseidonScheme (spineLib message digests pointer)).tower [0, 0] k) =
        zeroDigests.getD k 0 := by
  induction k with
  | zero => exact if_neg h.first.symm
  | succ k ih =>
    rw [← h.tower k (by omega), ← ih (by omega)]
    rfl

theorem SpineTable.spine_digest (h : SpineTable message digests pointer) {k : Nat} (hk : k ≤ 16) :
    (spineLib message digests pointer).poseidon
      ((poseidonScheme (spineLib message digests pointer)).spine message [0, 0] k) =
        digests.getD k 0 := by
  induction k with
  | zero => exact if_pos rfl
  | succ k ih =>
    rw [← h.spine k (by omega), ← ih (by omega), ← h.tower_digest (show k ≤ 16 by omega)]
    rfl

theorem SpineTable.collisionFree_of (h : SpineTable message digests pointer)
    (hms : ∀ n ∈ ms, ∃ j ≤ 16,
      n = (poseidonScheme (spineLib message digests pointer)).spine message [0, 0] j ∨
        n = (poseidonScheme (spineLib message digests pointer)).tower [0, 0] j) :
    (poseidonScheme (spineLib message digests pointer)).CollisionFree ms := by
  apply Scheme.spine_collisionFree _ message [0, 0] 16 _ _ _ hms
  · intro i hi j hj he
    exact h.distinct i (by omega) j (by omega)
      ((h.spine_digest hi).symm.trans (he.trans (h.spine_digest hj)))
  · intro i hi j hj he
    exact zeroDigests_injective i (by omega) j (by omega)
      ((h.tower_digest hi).symm.trans (he.trans (h.tower_digest hj)))
  · intro i hi j hj he
    exact h.apart i (by omega) j (by omega)
      ((h.spine_digest hi).symm.trans (he.trans (h.tower_digest hj)))

theorem SpineTable.collisionFree (h : SpineTable message digests pointer) :
    (poseidonScheme (spineLib message digests pointer)).CollisionFree
      ((spineTree message).hashed (spineLib message digests pointer)) :=
  h.collisionFree_of (complete_spine_inputs _ _ _ _ _)

theorem spineTree_positions (hfirst : holds message = true) (hother : holds [0, 0] = false) :
    (spineTree message).positions holds = {0} := by
  ext slot
  rw [PoseidonTree.positions, Finset.mem_filter, Finset.mem_range, Finset.mem_singleton]
  constructor
  · rintro ⟨-, hslot⟩
    by_contra hne
    have hleaf : (spineTree message).leaf slot = [0, 0] := if_neg hne
    rw [hleaf, hother] at hslot
    cases hslot
  · rintro rfl
    exact ⟨by decide, hfirst⟩

end Sample

end Continuity

import Mathlib.Algebra.Order.Floor.Div
import Continuity.PoseidonTrees

namespace Continuity
open HashTree
set_option autoImplicit true

inductive ReceiptOutcome where
  | completed
  | disputed
  deriving DecidableEq

/-- The inputs of a leaf of the subject. -/
def isOutcomeOf (subject_hash : Signal) : List Signal → Bool
  | [subject, _] => subject = subject_hash
  | _ => false

theorem isOutcomeOf_iff :
    isOutcomeOf subject_hash inputs = true ↔ ∃ leaf, inputs = [subject_hash, leaf] := by
  fun_cases isOutcomeOf subject_hash inputs with
  | case1 subject leaf => simp
  | case2 _ hother =>
    simp only [Bool.false_eq_true, false_iff]
    rintro ⟨leaf, rfl⟩
    exact hother _ _ rfl

/-- The slots of one outcome. -/
structure OutcomeSlots (width depth : Nat) where
  leaves : Fin width → Signal
  siblings : Fin width → Fin depth → Signal
  path_bits : Fin width → Fin depth → Signal
  valid : Fin width → Signal
  count : Fin (width + 1) → Signal
  leaf_hash : Fin width → Signal
  path : Fin width → PoseidonMerkleRoot depth

structure OutcomeSlots.Constraints (lib : Circomlib) (subject_hash public_receipt_root : Signal)
    (o : OutcomeSlots width depth) : Prop where
  count_first : o.count 0 = 0
  bit : ∀ i, AssertBit (o.valid i)
  leaf_hash : ∀ i, o.leaf_hash i = lib.poseidon [subject_hash, o.leaves i]
  path_leaf : ∀ i, (o.path i).leaf = o.leaf_hash i
  path_siblings : ∀ i j, (o.path i).siblings j = o.siblings i j
  path_bits : ∀ i j, (o.path i).path_bits j = o.path_bits i j
  path : ∀ i, (o.path i).Constraints lib
  root : ∀ i, ((o.path i).root - public_receipt_root) * o.valid i = 0
  count_next : ∀ i, o.count i.succ = o.count i.castSucc + o.valid i

theorem OutcomeSlots.Constraints.counted {o : OutcomeSlots width depth}
    (h : o.Constraints lib subject_hash public_receipt_root) :
    o.count (Fin.last width) = (marked o.valid : Signal) :=
  running_count o.count o.valid h.count_first h.bit h.count_next

structure DisputeRateBoundProduction (width depth : Nat) where
  subject_hash : Signal
  max_dispute_rate_bps : Signal
  public_receipt_root : Signal
  completed : OutcomeSlots width depth
  disputed : OutcomeSlots width depth
  total_count : Signal
  allowed_disputes_scaled : Signal
  observed_disputes_scaled : Signal
  bound : Signal

namespace DisputeRateBoundProduction

variable (lib : Circomlib) (s : DisputeRateBoundProduction width depth)

structure Constraints : Prop where
  completed : s.completed.Constraints lib s.subject_hash s.public_receipt_root
  disputed : s.disputed.Constraints lib s.subject_hash s.public_receipt_root
  total_count : s.total_count =
    s.completed.count (Fin.last width) + s.disputed.count (Fin.last width)
  observed : s.observed_disputes_scaled = s.disputed.count (Fin.last width) * 10000
  allowed : s.allowed_disputes_scaled = s.max_dispute_rate_bps * s.total_count
  bound : lib.lessThan 32 s.allowed_disputes_scaled s.observed_disputes_scaled s.bound
  bound_out : s.bound = 0

/-- The inputs of every hash that the circuit computes. -/
def hashed : List (List Signal) :=
  (List.ofFn fun i => [s.subject_hash, s.completed.leaves i] :: (s.completed.path i).hashed).flatten
    ++ (List.ofFn fun i =>
      [s.subject_hash, s.disputed.leaves i] :: (s.disputed.path i).hashed).flatten

variable {lib s}

/-- The marked slots keep to the bound as integers. -/
theorem Constraints.bounded (hd : lib.Decomposes) (h : s.Constraints lib) (hwidth : width ≤ 16)
    (hmax : s.max_dispute_rate_bps.val ≤ 10000) :
    marked s.disputed.valid * 10000 ≤
      s.max_dispute_rate_bps.val * (marked s.completed.valid + marked s.disputed.valid) := by
  have hless := hd _ _ _ _ h.bound
  rw [h.bound_out] at hless
  obtain ⟨low, hlow, hrange⟩ := hless.range
  have hcompleted := (marked_le s.completed.valid).trans hwidth
  have hdisputed := (marked_le s.disputed.valid).trans hwidth
  have hroom : 10000 * 32 + 2 ^ 32 ≤ scalarOrder := by decide
  have hallowed : s.max_dispute_rate_bps.val *
      (marked s.completed.valid + marked s.disputed.valid) ≤ 10000 * 32 :=
    Nat.mul_le_mul hmax (by omega)
  have hcast : ((s.max_dispute_rate_bps.val *
        (marked s.completed.valid + marked s.disputed.valid) : Nat) : Signal) =
      ((marked s.disputed.valid * 10000 + low : Nat) : Signal) := by
    push_cast
    rw [ZMod.natCast_zmod_val, ← h.completed.counted, ← h.disputed.counted,
      ← h.total_count, ← h.allowed, ← h.observed, hrange]
  have hval := congrArg ZMod.val hcast
  rw [ZMod.val_natCast_of_lt (by omega), ZMod.val_natCast_of_lt (by omega)] at hval
  omega

end DisputeRateBoundProduction

section Presented

variable (lib : Circomlib) (tree : PoseidonTree depth) (slot : Nat)
  (subject_hash leaf : Signal)

/-- The signals of a prover who opens one leaf in every slot and marks the first of them. -/
def presentedSlots (presented : Nat) : OutcomeSlots width depth where
  leaves _ := leaf
  siblings _ := (tree.opening lib slot).siblings
  path_bits _ := (tree.opening lib slot).path_bits
  valid i := if (i : Nat) < presented then 1 else 0
  count i := (min (i : Nat) presented : Nat)
  leaf_hash _ := lib.poseidon [subject_hash, leaf]
  path _ := tree.opening lib slot

def presentedSignals (completed disputed : Nat) (max_dispute_rate_bps : Signal) :
    DisputeRateBoundProduction width depth where
  subject_hash := subject_hash
  max_dispute_rate_bps := max_dispute_rate_bps
  public_receipt_root := tree.root lib
  completed := presentedSlots lib tree slot subject_hash leaf completed
  disputed := presentedSlots lib tree slot subject_hash leaf disputed
  total_count := (min width completed : Nat) + (min width disputed : Nat)
  allowed_disputes_scaled :=
    max_dispute_rate_bps * ((min width completed : Nat) + (min width disputed : Nat))
  observed_disputes_scaled := (min width disputed : Nat) * 10000
  bound := 0

variable {lib tree slot subject_hash leaf}

theorem presentedSlots_constraints (hslot : slot < 2 ^ depth)
    (hleaf : tree.leaf slot = [subject_hash, leaf]) (presented : Nat) :
    (presentedSlots lib tree slot subject_hash leaf presented :
      OutcomeSlots width depth).Constraints lib subject_hash (tree.root lib) where
  count_first := by simp [presentedSlots]
  bit i := by
    rw [assertBit_iff, presentedSlots]
    dsimp only
    split
    · exact .inr rfl
    · exact .inl rfl
  leaf_hash _ := rfl
  path_leaf _ := congrArg lib.poseidon hleaf
  path_siblings _ _ := rfl
  path_bits _ _ := rfl
  path _ := PoseidonTree.opening_constraints
  root _ := by
    dsimp only [presentedSlots]
    rw [PoseidonTree.opening_root hslot, sub_self, zero_mul]
  count_next i := by
    dsimp only [presentedSlots]
    rw [Fin.val_succ, Fin.val_castSucc]
    split
    · rw [min_eq_left (by omega), min_eq_left (by omega)]
      push_cast
      rfl
    · rw [min_eq_right (by omega), min_eq_right (by omega), add_zero]

theorem presentedSlots_marked (h : presented ≤ width) :
    marked (presentedSlots lib tree slot subject_hash leaf presented :
      OutcomeSlots width depth).valid = presented := by
  have hbit : ∀ i : Fin width, (if (i : Nat) < presented then (1 : Signal) else 0) = 1 ↔
      (i : Nat) < presented := by
    intro i
    split <;> simp_all
  simp only [marked, presentedSlots, hbit]
  rw [Fin.card_filter_val_lt, min_eq_right h]

theorem presentedSignals_constraints (hl : lib.Compares) (hslot : slot < 2 ^ depth)
    (hleaf : tree.leaf slot = [subject_hash, leaf]) (hcompleted : completed ≤ width)
    (hdisputed : disputed ≤ width) (hwidth : width ≤ 16)
    (hmax : max_dispute_rate_bps.val ≤ 10000)
    (hbound : disputed * 10000 ≤ max_dispute_rate_bps.val * (completed + disputed)) :
    (presentedSignals lib tree slot subject_hash leaf completed disputed max_dispute_rate_bps :
      DisputeRateBoundProduction width depth).Constraints lib where
  completed := presentedSlots_constraints hslot hleaf completed
  disputed := presentedSlots_constraints hslot hleaf disputed
  total_count := rfl
  observed := rfl
  allowed := rfl
  bound := by
    have hallowed : max_dispute_rate_bps.val * (completed + disputed) ≤ 10000 * (16 + 16) :=
      Nat.mul_le_mul hmax (by omega)
    have hless := lessDecomposed_of_range ((disputed * 10000 : Nat) : Signal)
      (show max_dispute_rate_bps.val * (completed + disputed) - disputed * 10000 < 2 ^ 32 by omega)
    have hsum : ((disputed * 10000 : Nat) : Signal) +
        ((max_dispute_rate_bps.val * (completed + disputed) - disputed * 10000 : Nat) : Signal) =
        max_dispute_rate_bps * (completed + disputed) := by
      rw [Nat.cast_sub hbound]
      push_cast
      rw [ZMod.natCast_zmod_val]
      ring
    rw [hsum] at hless
    dsimp only [presentedSignals]
    rw [min_eq_right hcompleted, min_eq_right hdisputed, hl]
    exact_mod_cast hless
  bound_out := rfl

theorem presentedSignals_hashed (hslot : slot < 2 ^ depth)
    (hleaf : tree.leaf slot = [subject_hash, leaf]) :
    ∀ inputs ∈ (presentedSignals lib tree slot subject_hash leaf completed disputed
        max_dispute_rate_bps : DisputeRateBoundProduction width depth).hashed,
      inputs ∈ tree.hashed lib := by
  have hslots : ∀ inputs ∈ (List.ofFn fun _ : Fin width =>
      [subject_hash, leaf] :: (tree.opening lib slot).hashed).flatten,
      inputs ∈ tree.hashed lib := by
    intro inputs hn
    obtain ⟨messages, hmessages, hn⟩ := List.mem_flatten.mp hn
    obtain ⟨i, rfl⟩ := List.mem_ofFn.mp hmessages
    rcases List.mem_cons.mp hn with rfl | hn
    · have hmem : tree.leaf slot ∈ tree.hashed lib := PoseidonTree.leaf_hashed hslot
      rwa [hleaf] at hmem
    · exact PoseidonTree.opening_hashed hslot inputs hn
  intro inputs hn
  exact (List.mem_append.mp hn).elim (hslots inputs) (hslots inputs)

end Presented

/-- The rate of leaves that are all presented, rounded up, is not below their rate. -/
theorem scaled_le_rate (completed disputed : Nat) :
    disputed * 10000 ≤ (disputed * 10000) ⌈/⌉ (completed + disputed) * (completed + disputed) := by
  rcases Nat.eq_zero_or_pos (completed + disputed) with hzero | hpos
  · omega
  · rw [mul_comm ((disputed * 10000) ⌈/⌉ (completed + disputed)), ← ceilDiv_le_iff_le_mul hpos]

namespace PoseidonTree

variable (tree : PoseidonTree depth) (outcome : Nat → ReceiptOutcome) (subject_hash : Signal)

/-- How many leaves of the subject have the outcome. -/
def outcomes (o : ReceiptOutcome) : Nat :=
  ((tree.positions (isOutcomeOf subject_hash)).filter fun slot => outcome slot = o).card

variable {tree outcome subject_hash}

theorem exists_outcome
    (h : tree.outcomes outcome subject_hash .completed +
      tree.outcomes outcome subject_hash .disputed ≠ 0) :
    ∃ slot < 2 ^ depth, ∃ leaf, tree.leaf slot = [subject_hash, leaf] := by
  have hsome : (tree.positions (isOutcomeOf subject_hash)).Nonempty := by
    by_contra hnone
    rw [Finset.not_nonempty_iff_eq_empty] at hnone
    simp [outcomes, hnone] at h
  obtain ⟨slot, hslot⟩ := hsome
  rw [positions, Finset.mem_filter, Finset.mem_range, isOutcomeOf_iff] at hslot
  exact ⟨slot, hslot.1, hslot.2⟩

end PoseidonTree

namespace DisputeRateBoundProduction

variable {lib : Circomlib}

/-- The circuit bounds the rate of the leaves that a prover presents. It bounds the rate of all of
them exactly where the presented rate, rounded up to basis points, is not below it. -/
theorem rate_bounded_iff (hl : lib.Compares) (tree : PoseidonTree 16)
    (hc : (poseidonScheme lib).CollisionFree (tree.hashed lib)) (outcome : Nat → ReceiptOutcome)
    (subject_hash : Signal) (completed disputed : Nat) (hcompleted : completed ≤ 16)
    (hdisputed : disputed ≤ 16) :
    (∀ s : DisputeRateBoundProduction 16 16, s.Constraints lib →
        s.public_receipt_root = tree.root lib → s.subject_hash = subject_hash →
        marked s.completed.valid = completed → marked s.disputed.valid = disputed →
        s.max_dispute_rate_bps.val ≤ 10000 →
        (poseidonScheme lib).CollisionFree (tree.hashed lib ++ s.hashed) →
        tree.outcomes outcome subject_hash .disputed * 10000 ≤ s.max_dispute_rate_bps.val *
          (tree.outcomes outcome subject_hash .completed +
            tree.outcomes outcome subject_hash .disputed)) ↔
      tree.outcomes outcome subject_hash .disputed * 10000 ≤
        ((disputed * 10000) ⌈/⌉ (completed + disputed)) *
          (tree.outcomes outcome subject_hash .completed +
            tree.outcomes outcome subject_hash .disputed) := by
  constructor
  · intro hsound
    by_cases hnone : tree.outcomes outcome subject_hash .completed +
        tree.outcomes outcome subject_hash .disputed = 0
    · rw [hnone, mul_zero]
      omega
    · obtain ⟨slot, hslot, leaf, hleaf⟩ := PoseidonTree.exists_outcome hnone
      have hrate : (disputed * 10000) ⌈/⌉ (completed + disputed) ≤ 10000 := by
        rcases Nat.eq_zero_or_pos (completed + disputed) with hzero | hpos
        · simp [hzero]
        · rw [ceilDiv_le_iff_le_mul hpos]
          omega
      have hval : (((disputed * 10000) ⌈/⌉ (completed + disputed) : Nat) : Signal).val =
          (disputed * 10000) ⌈/⌉ (completed + disputed) := by
        have hroom : 10000 < scalarOrder := by decide
        exact ZMod.val_natCast_of_lt (by omega)
      have hpresented := scaled_le_rate completed disputed
      have hbounded := hsound (presentedSignals lib tree slot subject_hash leaf completed disputed
          ((disputed * 10000) ⌈/⌉ (completed + disputed) : Nat))
        (presentedSignals_constraints hl hslot hleaf hcompleted hdisputed le_rfl
          (by rwa [hval]) (by rwa [hval]))
        rfl rfl (presentedSlots_marked hcompleted) (presentedSlots_marked hdisputed)
        (by rwa [← hval] at hrate) (hc.append_of_mem (presentedSignals_hashed hslot hleaf))
      dsimp only [presentedSignals] at hbounded
      rwa [hval] at hbounded
  · rintro hrate s hs - rfl rfl rfl hmax -
    apply hrate.trans
    apply Nat.mul_le_mul_right
    have hbounded := hs.bounded hl.decomposes (by decide) hmax
    rcases Nat.eq_zero_or_pos (marked s.completed.valid + marked s.disputed.valid)
      with hzero | hpos
    · simp [hzero]
    · rw [ceilDiv_le_iff_le_mul hpos]
      exact hbounded.trans_eq (mul_comm _ _)

end DisputeRateBoundProduction

section Sample

/-- The leaf that the circuit's own test presents in both roles. -/
def disputeMessage : List Signal := [sampleSubject, 9010]

/-- The Poseidon digests on the way from that leaf to the root. -/
def disputeDigests : List Signal := [
    9739747876635051914905138469642154447023253544013631889883959862521710469221,
    3673638840486071098051963829945699232364556649476018027356600974281476342844,
    21448185434353251624318671828101675064414066637340072066798127617951719363844,
    14931038553545997350013050265190632981046018159575928619358210049403039359517,
    18602235615347622840538612858521159030465590657396380879444638874034280695317,
    20441472763942424411283197117779899238334515595769273168602015124300468918259,
    20623776935231815178319194562630700159285123714651923976877393186663602625814,
    13860520872729263002807118876625834707615332851301300000260130987056129789326,
    21742089613027816096418559296864464882307946930979920675865677527815069991655,
    604844210035158889669527660279639580879337183301990478288737171828199919596,
    8357421928209250032140707603413143015368409009918303062151192139973222437631,
    12452839676442729082162703983583837199665149018060795299214880547618195274605,
    6830644013745159375076470350586736879227555798915349643015767510879472436664,
    16286601091304554617067407632281625959888534261093181888226486562150838602825,
    9563911131938221310931202992040124362401140130260350886110647215525858528445,
    513012515897431164811192588773919084731430907375322608627879481611157268751,
    5652630814733829745720425475938533633160174305583772350228838948945338514195]

def disputeLib : Circomlib := spineLib disputeMessage disputeDigests 0

theorem disputeTable : SpineTable disputeMessage disputeDigests 0 where
  first := by decide
  spine := by decide
  tower := by decide
  distinct := by decide
  apart := by decide

theorem disputeTree_outcomes (o : ReceiptOutcome) :
    (spineTree disputeMessage).outcomes (fun _ => .disputed) 12345 o =
      if o = .disputed then 1 else 0 := by
  rw [PoseidonTree.outcomes, spineTree_positions (by decide) (by decide)]
  cases o <;> rfl

theorem rate_bounded_iff_sample :
    (∀ s : DisputeRateBoundProduction 16 16, s.Constraints disputeLib →
        s.public_receipt_root = (spineTree disputeMessage).root disputeLib →
        s.subject_hash = 12345 → marked s.completed.valid = 10 → marked s.disputed.valid = 1 →
        s.max_dispute_rate_bps.val ≤ 10000 →
        (poseidonScheme disputeLib).CollisionFree
          ((spineTree disputeMessage).hashed disputeLib ++ s.hashed) →
        (spineTree disputeMessage).outcomes (fun _ => .disputed) 12345 .disputed * 10000 ≤
          s.max_dispute_rate_bps.val *
            ((spineTree disputeMessage).outcomes (fun _ => .disputed) 12345 .completed +
              (spineTree disputeMessage).outcomes (fun _ => .disputed) 12345 .disputed)) ↔
      (spineTree disputeMessage).outcomes (fun _ => .disputed) 12345 .disputed * 10000 ≤
        ((1 * 10000) ⌈/⌉ (10 + 1)) *
          ((spineTree disputeMessage).outcomes (fun _ => .disputed) 12345 .completed +
            (spineTree disputeMessage).outcomes (fun _ => .disputed) 12345 .disputed) :=
  DisputeRateBoundProduction.rate_bounded_iff spineLib_compares (spineTree disputeMessage)
    disputeTable.collisionFree (fun _ => .disputed) 12345 10 1 (by decide) (by decide)

theorem zero_rate_exceeded {rate : Signal} {completed disputed : Nat} (hr : rate = 0)
    (hc : completed = 0) (hd : disputed = 1) :
    completed ≤ 16 ∧ disputed ≤ 16 ∧ ¬ disputed * 10000 ≤ rate.val * (completed + disputed) := by
  rw [hr, hc, hd, ZMod.val_zero]
  decide

/-- The only leaf of the subject is disputed, and is presented as completed. -/
theorem dispute_presented_completed :
    let tree := spineTree disputeMessage
    let outcome : Nat → ReceiptOutcome := fun _ => .disputed
    let s : DisputeRateBoundProduction 16 16 :=
      presentedSignals disputeLib tree 0 12345 9010 1 0 0
    disputeLib.Compares ∧ s.Constraints disputeLib ∧
      s.public_receipt_root = tree.root disputeLib ∧ s.max_dispute_rate_bps.val ≤ 10000 ∧
      (poseidonScheme disputeLib).CollisionFree (tree.hashed disputeLib ++ s.hashed) ∧
      tree.outcomes outcome s.subject_hash .completed ≤ 16 ∧
      tree.outcomes outcome s.subject_hash .disputed ≤ 16 ∧
      ¬ tree.outcomes outcome s.subject_hash .disputed * 10000 ≤ s.max_dispute_rate_bps.val *
        (tree.outcomes outcome s.subject_hash .completed +
          tree.outcomes outcome s.subject_hash .disputed) := by
  have hcompleted := disputeTree_outcomes .completed
  have hdisputed := disputeTree_outcomes .disputed
  rw [if_neg (by decide)] at hcompleted
  rw [if_pos rfl] at hdisputed
  refine ⟨spineLib_compares, ?_, rfl, by decide, ?_, ?_⟩
  · exact presentedSignals_constraints spineLib_compares (by decide) rfl (by decide) (by decide)
      le_rfl (by decide) (by decide)
  · exact disputeTable.collisionFree.append_of_mem (presentedSignals_hashed (by decide) rfl)
  · exact zero_rate_exceeded rfl hcompleted hdisputed

end Sample

end Continuity

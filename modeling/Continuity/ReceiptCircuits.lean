import Continuity.PoseidonTrees

namespace Continuity
open HashTree
set_option autoImplicit true

/-- The inputs of a leaf with a receipt of the subject. -/
def isReceiptOf (subject_hash : Signal) : List Signal → Bool
  | [subject, _, _, _] => subject = subject_hash
  | _ => false

theorem isReceiptOf_iff :
    isReceiptOf subject_hash inputs = true ↔
      ∃ receipt_leaf receipt_salt counterparty_commitment,
        inputs = [subject_hash, receipt_leaf, receipt_salt, counterparty_commitment] := by
  fun_cases isReceiptOf subject_hash inputs with
  | case1 subject receipt_leaf receipt_salt counterparty_commitment =>
    simp
  | case2 _ hother =>
    simp only [Bool.false_eq_true, false_iff]
    rintro ⟨receipt_leaf, receipt_salt, counterparty_commitment, rfl⟩
    exact hother _ _ _ _ rfl

structure ReceiptCountThresholdProduction (width depth : Nat) where
  threshold_count : Signal
  subject_hash : Signal
  public_receipt_root : Signal
  receipt_leaves : Fin width → Signal
  receipt_salts : Fin width → Signal
  counterparty_commitments : Fin width → Signal
  receipt_siblings : Fin width → Fin depth → Signal
  receipt_path_bits : Fin width → Fin depth → Signal
  receipt_valid : Fin width → Signal
  count : Fin (width + 1) → Signal
  leaf_hash : Fin width → Signal
  path : Fin width → PoseidonMerkleRoot depth
  threshold : RangeAtLeast

namespace ReceiptCountThresholdProduction

variable (lib : Circomlib) (s : ReceiptCountThresholdProduction width depth)

def leafInputs (i : Fin width) : List Signal :=
  [s.subject_hash, s.receipt_leaves i, s.receipt_salts i, s.counterparty_commitments i]

structure Constraints : Prop where
  count_first : s.count 0 = 0
  bit_check : ∀ i, AssertBit (s.receipt_valid i)
  leaf_hash : ∀ i, s.leaf_hash i = lib.poseidon
    [s.subject_hash, s.receipt_leaves i, s.receipt_salts i, s.counterparty_commitments i]
  path_leaf : ∀ i, (s.path i).leaf = s.leaf_hash i
  path_siblings : ∀ i j, (s.path i).siblings j = s.receipt_siblings i j
  path_bits : ∀ i j, (s.path i).path_bits j = s.receipt_path_bits i j
  path : ∀ i, (s.path i).Constraints lib
  root : ∀ i, ((s.path i).root - s.public_receipt_root) * s.receipt_valid i = 0
  count_next : ∀ i, s.count i.succ = s.count i.castSucc + s.receipt_valid i
  threshold_value : s.threshold.value = s.count (Fin.last width)
  threshold_threshold : s.threshold.threshold = s.threshold_count
  threshold : s.threshold.Constraints lib 16

/-- The inputs of every hash that the circuit computes. -/
def hashed : List (List Signal) :=
  (List.ofFn fun i => s.leafInputs i :: (s.path i).hashed).flatten

variable {lib s}

/-- The marked slots reach the threshold. -/
theorem Constraints.threshold_marked (hd : lib.Decomposes) (h : s.Constraints lib)
    (hwidth : width < 2 ^ 16) (ht : s.threshold_count.val < 2 ^ 16) :
    s.threshold_count.val ≤ marked s.receipt_valid := by
  obtain ⟨low, hlow, hvalue⟩ := h.threshold.range hd
  have hroom : 2 ^ 16 + 2 ^ 16 ≤ scalarOrder := by decide
  have hmarked := marked_le s.receipt_valid
  have hcast : (marked s.receipt_valid : Signal) =
      ((s.threshold_count.val + low : Nat) : Signal) := by
    rw [← running_count s.count s.receipt_valid h.count_first h.bit_check h.count_next,
      ← h.threshold_value, hvalue, h.threshold_threshold]
    push_cast
    rw [ZMod.natCast_zmod_val]
  have hval : marked s.receipt_valid = s.threshold_count.val + low := by
    have := congrArg ZMod.val hcast
    rwa [ZMod.val_natCast_of_lt (by omega), ZMod.val_natCast_of_lt (by omega)] at this
  omega

/-- A marked slot opens a position that holds a receipt of the subject. -/
theorem Constraints.slot_receipt (h : s.Constraints lib) (tree : PoseidonTree depth)
    (hroot : s.public_receipt_root = tree.root lib)
    (hc : (poseidonScheme lib).CollisionFree (tree.hashed lib ++ s.hashed))
    (hvalid : s.receipt_valid i = 1) :
    (s.path i).index ∈ tree.positions (isReceiptOf s.subject_hash) := by
  have hopen : (s.path i).root = tree.root lib := by
    have hslot := h.root i
    rw [hvalid, mul_one, sub_eq_zero] at hslot
    rw [hslot, hroot]
  have hleaf : (s.path i).leaf = lib.poseidon (s.leafInputs i) := by
    rw [h.path_leaf, h.leaf_hash, leafInputs]
  obtain ⟨hindex, hinputs⟩ := PoseidonTree.leaf_opened (h.path i) hleaf hopen (by
    apply hc.subset
    intro n hn
    rcases List.mem_append.mp hn with hn | hn
    · exact List.mem_append_left _ hn
    · apply List.mem_append_right
      exact List.mem_flatten_of_mem (List.mem_ofFn.mpr ⟨i, rfl⟩) hn)
  rw [PoseidonTree.positions, Finset.mem_filter, Finset.mem_range, hinputs]
  exact ⟨hindex, isReceiptOf_iff.mpr ⟨_, _, _, rfl⟩⟩

/-- Slots that open different positions count different receipts. -/
theorem Constraints.distinct_counted (hd : lib.Decomposes) (h : s.Constraints lib)
    (tree : PoseidonTree depth) (hroot : s.public_receipt_root = tree.root lib)
    (hc : (poseidonScheme lib).CollisionFree (tree.hashed lib ++ s.hashed))
    (hwidth : width < 2 ^ 16) (ht : s.threshold_count.val < 2 ^ 16)
    (hdistinct : Set.InjOn (fun i => (s.path i).index) {i | s.receipt_valid i = 1}) :
    s.threshold_count.val ≤ (tree.positions (isReceiptOf s.subject_hash)).card := by
  apply (h.threshold_marked hd hwidth ht).trans
  apply Finset.card_le_card_of_injOn fun i => (s.path i).index
  · intro i hi
    exact h.slot_receipt tree hroot hc (Finset.mem_filter.mp hi).2
  · intro i hi j hj he
    exact hdistinct (Finset.mem_filter.mp hi).2 (Finset.mem_filter.mp hj).2 he

end ReceiptCountThresholdProduction

section Repeated

variable (lib : Circomlib) (tree : PoseidonTree depth) (slot : Nat)
  (subject_hash receipt_leaf receipt_salt counterparty_commitment threshold_count : Signal)

/-- The signals of a prover who opens one receipt in every slot. -/
def repeatedSignals : ReceiptCountThresholdProduction width depth where
  threshold_count := threshold_count
  subject_hash := subject_hash
  public_receipt_root := tree.root lib
  receipt_leaves _ := receipt_leaf
  receipt_salts _ := receipt_salt
  counterparty_commitments _ := counterparty_commitment
  receipt_siblings _ := (tree.opening lib slot).siblings
  receipt_path_bits _ := (tree.opening lib slot).path_bits
  receipt_valid _ := 1
  count i := (i : Nat)
  leaf_hash _ := lib.poseidon [subject_hash, receipt_leaf, receipt_salt, counterparty_commitment]
  path _ := tree.opening lib slot
  threshold := ⟨(width : Nat), threshold_count, 0⟩

variable {lib tree slot subject_hash receipt_leaf receipt_salt counterparty_commitment
  threshold_count}

theorem repeatedSignals_constraints (hl : lib.Compares) (hslot : slot < 2 ^ depth)
    (hleaf : tree.leaf slot =
      [subject_hash, receipt_leaf, receipt_salt, counterparty_commitment])
    (hwidth : width < 2 ^ 16) (ht : threshold_count.val ≤ width) :
    (repeatedSignals lib tree slot subject_hash receipt_leaf receipt_salt counterparty_commitment
      threshold_count : ReceiptCountThresholdProduction width depth).Constraints lib where
  count_first := by simp [repeatedSignals]
  bit_check _ := by simp [repeatedSignals, AssertBit]
  leaf_hash _ := rfl
  path_leaf _ := congrArg lib.poseidon hleaf
  path_siblings _ _ := rfl
  path_bits _ _ := rfl
  path _ := PoseidonTree.opening_constraints
  root _ := by
    dsimp only [repeatedSignals]
    rw [PoseidonTree.opening_root hslot, sub_self, zero_mul]
  count_next i := by simp [repeatedSignals]
  threshold_value := by simp [repeatedSignals]
  threshold_threshold := rfl
  threshold := by
    have hvalue : ((width : Nat) : Signal) =
        threshold_count + ((width - threshold_count.val : Nat) : Signal) := by
      rw [Nat.cast_sub ht, ZMod.natCast_zmod_val]
      ring
    have hless := lessDecomposed_of_range threshold_count
      (show width - threshold_count.val < 2 ^ 16 by omega)
    rw [← hvalue] at hless
    exact ⟨(hl _ _ _ _).mpr hless, rfl⟩

theorem repeatedSignals_hashed (hslot : slot < 2 ^ depth)
    (hleaf : tree.leaf slot =
      [subject_hash, receipt_leaf, receipt_salt, counterparty_commitment]) :
    ∀ inputs ∈ (repeatedSignals lib tree slot subject_hash receipt_leaf receipt_salt
        counterparty_commitment threshold_count :
        ReceiptCountThresholdProduction width depth).hashed, inputs ∈ tree.hashed lib := by
  intro inputs hn
  obtain ⟨messages, hmessages, hn⟩ := List.mem_flatten.mp hn
  obtain ⟨i, rfl⟩ := List.mem_ofFn.mp hmessages
  rcases List.mem_cons.mp hn with rfl | hn
  · have hmem : tree.leaf slot ∈ tree.hashed lib := PoseidonTree.leaf_hashed hslot
    rwa [hleaf] at hmem
  · exact PoseidonTree.opening_hashed hslot inputs hn

end Repeated

namespace ReceiptCountThresholdProduction

variable {lib : Circomlib}

/-- One receipt of the subject lets a prover reach every threshold up to the number of slots. The
circuit therefore counts the receipts of a tree exactly where the tree has none of them, as many as
the threshold asks for, or where the threshold exceeds the slots. -/
theorem threshold_reached_iff (hl : lib.Compares) (tree : PoseidonTree 16)
    (hc : (poseidonScheme lib).CollisionFree (tree.hashed lib))
    (subject_hash threshold_count : Signal) (ht : threshold_count.val < 2 ^ 16) :
    (∀ s : ReceiptCountThresholdProduction 16 16, s.Constraints lib →
        s.public_receipt_root = tree.root lib → s.subject_hash = subject_hash →
        s.threshold_count = threshold_count →
        (poseidonScheme lib).CollisionFree (tree.hashed lib ++ s.hashed) →
        threshold_count.val ≤ (tree.positions (isReceiptOf subject_hash)).card) ↔
      ((tree.positions (isReceiptOf subject_hash)).card = 0 ∨
        threshold_count.val ≤ (tree.positions (isReceiptOf subject_hash)).card ∨
        16 < threshold_count.val) := by
  constructor
  · intro hsound
    by_contra hfew
    simp only [not_or, not_le, not_lt] at hfew
    obtain ⟨hsome, hbelow, hslots⟩ := hfew
    obtain ⟨slot, hslot⟩ := Finset.card_ne_zero.mp hsome
    rw [PoseidonTree.positions, Finset.mem_filter, Finset.mem_range, isReceiptOf_iff] at hslot
    obtain ⟨hslot, receipt_leaf, receipt_salt, counterparty_commitment, hleaf⟩ := hslot
    have hreached := hsound (repeatedSignals lib tree slot subject_hash receipt_leaf receipt_salt
        counterparty_commitment threshold_count)
      (repeatedSignals_constraints hl hslot hleaf (by decide) hslots) rfl rfl rfl
      (hc.append_of_mem (repeatedSignals_hashed hslot hleaf))
    omega
  · rintro hexact s hs hroot rfl rfl hcs
    have hmarked := hs.threshold_marked hl.decomposes (by decide) ht
    have hslots := marked_le s.receipt_valid
    rcases hexact with hnone | hmany | hover
    · by_contra hpositive
      obtain ⟨i, hi⟩ := Finset.card_ne_zero.mp (show marked s.receipt_valid ≠ 0 by omega)
      have hreceipt := hs.slot_receipt tree hroot hcs (Finset.mem_filter.mp hi).2
      exact Finset.card_ne_zero_of_mem hreceipt hnone
    · exact hmany
    · omega

end ReceiptCountThresholdProduction

/-- The receipt that the circuit's own test proves twice. -/
def receiptMessage : List Signal := [sampleSubject, 9001, 42, 7001]

/-- The Poseidon digests on the way from that receipt to the root. -/
def receiptSpine : List Signal := [
    9130633485754284514319335145901332123945400148291309672270741354592795197731,
    12155046836205066241320611707330436240011646130321794886198300878941913951554,
    9356063434346947921813712535159784289612915040817682870871465304949251187593,
    15698328932776205046502896110561994156453879897499923392572061274696152173684,
    12673896455114963477115031125871836045577243354036116840023178190255842735806,
    2279168203807637842579522034691693850008116760035373581350203445880102984217,
    10915540050568181634710005554231979871160457918224474950324749318070611159084,
    12435262759092606665503545645912820204753084567639538244813467440342030035101,
    20807521075759381374955616254867875866522682280992843972307751955696186202752,
    20717300589843420250658845581923726243415149771172057572839976902386755098663,
    14503167995356791654592546722507007989460917386434050275160470936900310970459,
    12867973581075790168662505126178927013525663786182309447222887333521892106227,
    15800050477412069522510960925771704418927945308409309846709676786046581140833,
    8831560702067485456073090604685103308595985176882672656292182134804732111740,
    6635172152504784241197203462388057423683343009361237543133352544297760265615,
    65335784658507351004860440437325990537923300568351194493730254198504436971,
    20507263042143992338341551630173683914220777129120922028223652343654323909543]

def receiptLib : Circomlib := spineLib receiptMessage receiptSpine 0

theorem receiptTable : SpineTable receiptMessage receiptSpine 0 where
  first := by decide
  spine := by decide
  tower := by decide
  distinct := by decide
  apart := by decide

theorem receiptTree_positions :
    ((spineTree receiptMessage).positions (isReceiptOf 12345)).card = 1 := by
  rw [spineTree_positions (by decide) (by decide), Finset.card_singleton]

theorem threshold_reached_iff_sample :
    (∀ s : ReceiptCountThresholdProduction 16 16, s.Constraints receiptLib →
        s.public_receipt_root = (spineTree receiptMessage).root receiptLib →
        s.subject_hash = 12345 → s.threshold_count = 2 →
        (poseidonScheme receiptLib).CollisionFree
          ((spineTree receiptMessage).hashed receiptLib ++ s.hashed) →
        (2 : Signal).val ≤ ((spineTree receiptMessage).positions (isReceiptOf 12345)).card) ↔
      (((spineTree receiptMessage).positions (isReceiptOf 12345)).card = 0 ∨
        (2 : Signal).val ≤ ((spineTree receiptMessage).positions (isReceiptOf 12345)).card ∨
        16 < (2 : Signal).val) :=
  ReceiptCountThresholdProduction.threshold_reached_iff spineLib_compares (spineTree receiptMessage)
    receiptTable.collisionFree 12345 2 (by decide)

/-- One receipt is counted twice. -/
theorem receipt_counted_twice :
    let tree := spineTree receiptMessage
    let s : ReceiptCountThresholdProduction 16 16 :=
      repeatedSignals receiptLib tree 0 12345 9001 42 7001 2
    receiptLib.Compares ∧ s.Constraints receiptLib ∧
      s.public_receipt_root = tree.root receiptLib ∧ s.threshold_count.val < 2 ^ 16 ∧
      (poseidonScheme receiptLib).CollisionFree (tree.hashed receiptLib ++ s.hashed) ∧
      ¬ s.threshold_count.val ≤ (tree.positions (isReceiptOf s.subject_hash)).card := by
  refine ⟨spineLib_compares, ?_, rfl, by decide, ?_, ?_⟩
  · exact repeatedSignals_constraints spineLib_compares (by decide) rfl (by decide)
      (by decide)
  · exact receiptTable.collisionFree.append_of_mem (repeatedSignals_hashed (by decide) rfl)
  · have htwo : (2 : Signal).val = 2 := rfl
    have hone := receiptTree_positions
    dsimp only [repeatedSignals]
    omega

end Continuity

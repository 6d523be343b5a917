import Mathlib
import Continuity.HashTree
import Continuity.ScalarField

namespace Continuity
open HashTree
set_option autoImplicit true

/-- The value of a signal: an element of the BN254 scalar field. -/
abbrev Signal := ZMod scalarOrder

def AssertBit (bit : Signal) : Prop := bit * (bit - 1) = 0

theorem assertBit_iff : AssertBit bit ↔ bit = 0 ∨ bit = 1 := by
  rw [AssertBit, mul_eq_zero, sub_eq_zero]

/-- The parts of circomlib that the circuits use: the hash, and the signals `in[0]`, `in[1]` and
`out` that satisfy `LessThan(n)`. -/
structure Circomlib where
  poseidon : List Signal → Signal
  lessThan : Nat → Signal → Signal → Signal → Prop

/-- The decomposition of `in[0] + 2^n - in[1]` into `n + 1` bits. -/
def LessDecomposed (n : Nat) (in₀ in₁ out : Signal) : Prop :=
  ∃ bits : Fin (n + 1) → Signal, (∀ i, AssertBit (bits i)) ∧
    ∑ i, bits i * 2 ^ (i : Nat) = in₀ + 2 ^ n - in₁ ∧ out = 1 - bits (Fin.last n)

def Circomlib.Decomposes (lib : Circomlib) : Prop :=
  ∀ n in₀ in₁ out, lib.lessThan n in₀ in₁ out → LessDecomposed n in₀ in₁ out

section Templates

variable (lib : Circomlib)

structure Select2 where
  bit : Signal
  left_when_zero : Signal
  right_when_zero : Signal
  left : Signal
  right : Signal

structure Select2.Constraints (s : Select2) : Prop where
  bit_check : AssertBit s.bit
  left : s.left = s.left_when_zero + s.bit * (s.right_when_zero - s.left_when_zero)
  right : s.right = s.right_when_zero + s.bit * (s.left_when_zero - s.right_when_zero)

structure PoseidonMerkleRoot (depth : Nat) where
  leaf : Signal
  siblings : Fin depth → Signal
  path_bits : Fin depth → Signal
  root : Signal
  current : Fin (depth + 1) → Signal
  select : Fin depth → Select2

structure PoseidonMerkleRoot.Constraints (p : PoseidonMerkleRoot depth) : Prop where
  first : p.current 0 = p.leaf
  bit : ∀ i, (p.select i).bit = p.path_bits i
  left_when_zero : ∀ i, (p.select i).left_when_zero = p.current i.castSucc
  right_when_zero : ∀ i, (p.select i).right_when_zero = p.siblings i
  select : ∀ i, (p.select i).Constraints
  hash : ∀ i, p.current i.succ = lib.poseidon [(p.select i).left, (p.select i).right]
  root : p.root = p.current (Fin.last depth)

structure RangeAtLeast where
  value : Signal
  threshold : Signal
  less : Signal

structure RangeAtLeast.Constraints (nBits : Nat) (r : RangeAtLeast) : Prop where
  less : lib.lessThan nBits r.value r.threshold r.less
  out : r.less = 0

structure RangeAtMost where
  value : Signal
  maximum : Signal
  less : Signal

structure RangeAtMost.Constraints (nBits : Nat) (r : RangeAtMost) : Prop where
  less : lib.lessThan nBits r.maximum r.value r.less
  out : r.less = 0

end Templates

section Ranges

/-- Bits spell a number that the field cannot tell from their weighted sum. -/
theorem bits_spell (bits : Fin n → Signal) (h : ∀ i, AssertBit (bits i)) :
    ∃ low : Nat, low < 2 ^ n ∧ ∑ i, bits i * 2 ^ (i : Nat) = (low : Signal) := by
  induction n with
  | zero => exact ⟨0, by simp⟩
  | succ n ih =>
    obtain ⟨low, hlow, hsum⟩ := ih (fun i => bits i.castSucc) fun i => h _
    rw [Fin.sum_univ_castSucc]
    simp only [Fin.val_castSucc, Fin.val_last, hsum]
    rcases assertBit_iff.mp (h (Fin.last n)) with hb | hb
    · exact ⟨low, by omega, by rw [hb, zero_mul, add_zero]⟩
    · exact ⟨low + 2 ^ n, by omega, by rw [hb, one_mul]; push_cast; rfl⟩

/-- One more bit on top. -/
theorem assertBit_snoc {bits : Fin n → Signal} (h : ∀ i, AssertBit (bits i))
    (htop : AssertBit top) (i : Fin (n + 1)) :
    AssertBit (@Fin.snoc n (fun _ => Signal) bits top i) := by
  induction i using Fin.lastCases with
  | last => rwa [Fin.snoc_last]
  | cast i =>
    rw [Fin.snoc_castSucc]
    exact h i

theorem sum_snoc (bits : Fin n → Signal) (top : Signal) :
    ∑ i, @Fin.snoc n (fun _ => Signal) bits top i * 2 ^ (i : Nat) =
      ∑ i, bits i * 2 ^ (i : Nat) + top * 2 ^ n := by
  simp only [Fin.sum_univ_castSucc, Fin.snoc_castSucc, Fin.snoc_last, Fin.val_castSucc,
    Fin.val_last]

/-- Every number below a power of two has its bits. -/
theorem exists_bits {low : Nat} (h : low < 2 ^ n) :
    ∃ bits : Fin n → Signal, (∀ i, AssertBit (bits i)) ∧
      ∑ i, bits i * 2 ^ (i : Nat) = (low : Signal) := by
  induction n generalizing low with
  | zero =>
    obtain rfl : low = 0 := by simpa using h
    exact ⟨Fin.elim0, fun i => i.elim0, by simp⟩
  | succ n ih =>
    by_cases hl : low < 2 ^ n
    · obtain ⟨bits, hbits, hsum⟩ := ih hl
      refine ⟨_, assertBit_snoc hbits (assertBit_iff.mpr (.inl rfl)), ?_⟩
      rw [sum_snoc, hsum, zero_mul, add_zero]
    · obtain ⟨bits, hbits, hsum⟩ := ih (show low - 2 ^ n < 2 ^ n by omega)
      refine ⟨_, assertBit_snoc hbits (assertBit_iff.mpr (.inr rfl)), ?_⟩
      rw [sum_snoc, hsum, one_mul, Nat.cast_sub (by omega)]
      push_cast
      ring

/-- A comparison that answers zero bounds the difference, read in the field. -/
theorem LessDecomposed.range (h : LessDecomposed n value threshold 0) :
    ∃ low : Nat, low < 2 ^ n ∧ value = threshold + (low : Signal) := by
  obtain ⟨bits, hbits, hsum, hout⟩ := h
  obtain ⟨low, hlow, hl⟩ := bits_spell (fun i => bits i.castSucc) fun i => hbits _
  have htop : bits (Fin.last n) = 1 := (sub_eq_zero.mp hout.symm).symm
  rw [Fin.sum_univ_castSucc] at hsum
  simp only [Fin.val_castSucc, Fin.val_last, hl, htop, one_mul] at hsum
  exact ⟨low, hlow, by linear_combination -hsum⟩

theorem lessDecomposed_of_range (threshold : Signal) {low : Nat} (h : low < 2 ^ n) :
    LessDecomposed n (threshold + (low : Signal)) threshold 0 := by
  obtain ⟨bits, hbits, hsum⟩ := exists_bits h
  refine ⟨_, assertBit_snoc hbits (assertBit_iff.mpr (.inr rfl)), ?_, ?_⟩
  · rw [sum_snoc, hsum]
    ring
  · rw [Fin.snoc_last, sub_self]

theorem RangeAtLeast.Constraints.range {lib : Circomlib} (hd : lib.Decomposes)
    {r : RangeAtLeast} (h : r.Constraints lib nBits) :
    ∃ low : Nat, low < 2 ^ nBits ∧ r.value = r.threshold + (low : Signal) := by
  have hless := hd _ _ _ _ h.less
  rw [h.out] at hless
  exact hless.range

theorem RangeAtMost.Constraints.range {lib : Circomlib} (hd : lib.Decomposes)
    {r : RangeAtMost} (h : r.Constraints lib nBits) :
    ∃ low : Nat, low < 2 ^ nBits ∧ r.maximum = r.value + (low : Signal) := by
  have hless := hd _ _ _ _ h.less
  rw [h.out] at hless
  exact hless.range

end Ranges

section Paths

variable {lib : Circomlib}

/-- The trees that Poseidon hashes: a leaf is a list of inputs, a node the pair of its digests. -/
def poseidonScheme (lib : Circomlib) : Scheme (List Signal) Signal where
  hash := lib.poseidon
  pair left right := [left, right]

/-- The side of the sibling that a path bit stands for. -/
def siblingSide (bit : Signal) : Side := if bit = 1 then .left else .right

theorem Select2.Constraints.step {s : Select2} (h : s.Constraints) (lib : Circomlib) :
    [s.left, s.right] =
      (poseidonScheme lib).stepMessage s.left_when_zero (siblingSide s.bit, s.right_when_zero) := by
  rw [h.left, h.right]
  rcases assertBit_iff.mp h.bit_check with hb | hb
  · simp [hb, siblingSide, Scheme.stepMessage, poseidonScheme]
  · simp [hb, siblingSide, Scheme.stepMessage, poseidonScheme]

namespace PoseidonMerkleRoot

variable (p : PoseidonMerkleRoot depth)

def steps : List (Side × Signal) := List.ofFn fun i => (siblingSide (p.path_bits i), p.siblings i)

/-- The inputs of the hashes along the path. -/
def hashed : List (List Signal) := List.ofFn fun i => [(p.select i).left, (p.select i).right]

/-- The number that the path bits spell, from the leaf upwards. -/
def index : Nat := ∑ i, (p.path_bits i).val * 2 ^ (i : Nat)

variable {p}

theorem Constraints.stepMessage (h : p.Constraints lib) (i : Fin depth) :
    [(p.select i).left, (p.select i).right] = (poseidonScheme lib).stepMessage
      (p.current i.castSucc) (siblingSide (p.path_bits i), p.siblings i) := by
  rw [(h.select i).step lib, h.bit, h.left_when_zero, h.right_when_zero]

theorem Constraints.current_succ (h : p.Constraints lib) (i : Fin depth) :
    p.current i.succ = (poseidonScheme lib).hash ((poseidonScheme lib).stepMessage
      (p.current i.castSucc) (siblingSide (p.path_bits i), p.siblings i)) := by
  rw [h.hash, h.stepMessage]
  rfl

/-- The path climbs from its leaf to its root. -/
theorem Constraints.climb (h : p.Constraints lib) :
    (poseidonScheme lib).climb p.leaf p.steps = p.root := by
  rw [← h.first, h.root]
  exact Scheme.climb_ofFn _ _ h.current_succ

theorem Constraints.pathInputs (h : p.Constraints lib) :
    (poseidonScheme lib).pathInputs p.leaf p.steps = p.hashed := by
  rw [← h.first, steps, Scheme.pathInputs_ofFn _ _ h.current_succ, hashed]
  exact congrArg List.ofFn (funext fun i => (h.stepMessage i).symm)

end PoseidonMerkleRoot

theorem poseidonScheme_separated :
    (poseidonScheme lib).Separated (fun m => m.length = 3) fun _ => True where
  good _ := True.intro
  apart := by
    rintro m a b hm rfl
    cases hm
  left_cancel _ _ h := by simpa [poseidonScheme] using h
  right_cancel _ _ h := by simpa [poseidonScheme] using h

/-- Turning away from the siblings of the path bits leads to the number that they spell. -/
theorem spell_bits (bits : Fin n → Signal) (h : ∀ i, AssertBit (bits i)) :
    spell 0 (List.ofFn fun i => siblingSide (bits i)).reverse =
      ∑ i, (bits i).val * 2 ^ (i : Nat) := by
  induction n with
  | zero => rfl
  | succ n ih =>
    have hbit : (bits 0).val = if siblingSide (bits 0) = .left then 1 else 0 := by
      rcases assertBit_iff.mp (h 0) with hb | hb
      · simp [hb, siblingSide]
      · simp [hb, siblingSide, ZMod.val_one]
    rw [List.ofFn_succ, List.reverse_cons, spell_concat, ih (fun i => bits i.succ) fun i => h _,
      Fin.sum_univ_succ, hbit, Finset.mul_sum]
    simp only [Fin.val_zero, pow_zero, mul_one, Fin.val_succ, pow_succ]
    rw [add_comm]
    exact congrArg _ (Finset.sum_congr rfl fun i _ => by ring)

end Paths

end Continuity

import Mathlib.Algebra.Field.ZMod
import Mathlib.Tactic.NormNum.Prime
import Continuity.Pratt

namespace Continuity
open Pratt
set_option autoImplicit true

/-- The order of the scalar field of BN254. -/
def scalarOrder : Nat :=
  21888242871839275222246405745257275088548364400416034343698204186575808495617

section Primes

/-- The tests of every prime below, the largest one last. -/
theorem lucas_tests : lucas 30 639533339 2 [2, 229, 853, 1637] = true ∧
    lucas 56 65865678001877903 5 [2, 83, 379, 1637, 639533339] = true ∧
    lucas 94 13818364434197438864469338081 3
      (List.replicate 5 2 ++ [5, 823, 1593227, 65865678001877903]) = true ∧
    lucas 34 12048837557 2 [2, 2, 7, 7, 661, 93001] = true ∧
    lucas 43 5156902474397 2 [2, 2, 107, 12048837557] = true ∧
    lucas 51 1670836401704629 2 [2, 2, 3, 3, 3, 3, 5156902474397] = true ∧
    lucas 29 405928799 22 [2, 11, 3691, 4999] = true ∧
    lucas 254 scalarOrder 5 (List.replicate 28 2 ++ [3, 3, 13, 29, 983, 11003, 237073, 405928799,
      1670836401704629, 13818364434197438864469338081]) = true := by
  decide +kernel

theorem prime_639533339 : Nat.Prime 639533339 := by
  apply prime_of_lucas 30 2 [2, 229, 853, 1637] _ lucas_tests.1
  simp only [List.forall_mem_cons]
  norm_num

theorem prime_65865678001877903 : Nat.Prime 65865678001877903 := by
  apply prime_of_lucas 56 5 [2, 83, 379, 1637, 639533339] _ lucas_tests.2.1
  simp only [List.forall_mem_cons, prime_639533339]
  norm_num

theorem prime_13818364434197438864469338081 : Nat.Prime 13818364434197438864469338081 := by
  apply prime_of_lucas 94 3
    (List.replicate 5 2 ++ [5, 823, 1593227, 65865678001877903]) _ lucas_tests.2.2.1
  simp only [List.forall_mem_cons, List.forall_mem_append, List.mem_replicate, prime_65865678001877903]
  norm_num

theorem prime_12048837557 : Nat.Prime 12048837557 := by
  apply prime_of_lucas 34 2 [2, 2, 7, 7, 661, 93001] _ lucas_tests.2.2.2.1
  simp only [List.forall_mem_cons]
  norm_num

theorem prime_5156902474397 : Nat.Prime 5156902474397 := by
  apply prime_of_lucas 43 2 [2, 2, 107, 12048837557] _ lucas_tests.2.2.2.2.1
  simp only [List.forall_mem_cons, prime_12048837557]
  norm_num

theorem prime_1670836401704629 : Nat.Prime 1670836401704629 := by
  apply prime_of_lucas 51 2 [2, 2, 3, 3, 3, 3, 5156902474397] _ lucas_tests.2.2.2.2.2.1
  simp only [List.forall_mem_cons, prime_5156902474397]
  norm_num

theorem prime_405928799 : Nat.Prime 405928799 := by
  apply prime_of_lucas 29 22 [2, 11, 3691, 4999] _ lucas_tests.2.2.2.2.2.2.1
  simp only [List.forall_mem_cons]
  norm_num

theorem scalarOrder_prime : scalarOrder.Prime := by
  apply prime_of_lucas 254 5 (List.replicate 28 2 ++ [3, 3, 13, 29, 983, 11003, 237073, 405928799,
    1670836401704629, 13818364434197438864469338081]) _ lucas_tests.2.2.2.2.2.2.2
  simp only [List.forall_mem_append, List.forall_mem_cons, List.mem_replicate, prime_405928799, prime_1670836401704629, prime_13818364434197438864469338081]
  norm_num

end Primes

instance : Fact scalarOrder.Prime := ⟨scalarOrder_prime⟩

end Continuity

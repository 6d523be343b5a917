import Mathlib.NumberTheory.LucasPrimality
import Mathlib.Tactic.NormNum

namespace Pratt
set_option autoImplicit true

/-- `base ^ exponent % modulus` for an exponent of at most `bits` bits. -/
def powMod (modulus : Nat) : Nat → Nat → Nat → Nat
  | 0, _, _ => 1 % modulus
  | bits + 1, base, exponent =>
    let square := powMod modulus bits (base * base % modulus) (exponent / 2)
    if exponent % 2 = 0 then square else base * square % modulus

theorem powMod_eq (modulus : Nat) {bits base exponent : Nat} (h : exponent < 2 ^ bits) :
    powMod modulus bits base exponent = base ^ exponent % modulus := by
  induction bits generalizing base exponent with
  | zero =>
    obtain rfl : exponent = 0 := by simpa using h
    rw [powMod, pow_zero]
  | succ bits ih =>
    have hhalf : exponent / 2 < 2 ^ bits := by omega
    have hsquare : (base * base % modulus) ^ (exponent / 2) % modulus =
        base ^ (2 * (exponent / 2)) % modulus := by
      rw [← Nat.pow_mod, pow_mul, sq]
    rw [powMod, ih hhalf, hsquare]
    split
    · rw [Nat.mul_div_cancel' (Nat.dvd_of_mod_eq_zero ‹_›)]
    · rw [Nat.mul_mod_mod, ← pow_succ', show 2 * (exponent / 2) + 1 = exponent by omega]

/-- Lucas's test of `p` at `base`, for the prime factors of `p - 1`. -/
def lucas (bits p base : Nat) (factors : List Nat) : Bool :=
  decide (2 ≤ p) && decide (p < 2 ^ bits) && factors.prod == p - 1 &&
    powMod p bits base (p - 1) == 1 &&
    factors.all fun q => powMod p bits base ((p - 1) / q) != 1

theorem pow_eq_one_iff {p : Nat} (hp : 2 ≤ p) (base exponent : Nat) :
    (base : ZMod p) ^ exponent = 1 ↔ base ^ exponent % p = 1 := by
  rw [← Nat.cast_pow, ← Nat.cast_one, ZMod.natCast_eq_natCast_iff', Nat.one_mod_eq_one.mpr]
  omega

theorem prime_of_lucas (bits base : Nat) (factors : List Nat) (hf : ∀ q ∈ factors, q.Prime)
    (h : lucas bits p base factors = true) : p.Prime := by
  simp only [lucas, Bool.and_eq_true, decide_eq_true_eq, beq_iff_eq, List.all_eq_true,
    bne_iff_ne, ne_eq] at h
  obtain ⟨⟨⟨⟨hp, hbits⟩, hprod⟩, hone⟩, hne⟩ := h
  have hpow : ∀ exponent, exponent ≤ p - 1 →
      powMod p bits base exponent = base ^ exponent % p := by
    intro exponent he
    exact powMod_eq p (by omega)
  apply lucas_primality p base
  · rw [pow_eq_one_iff hp, ← hpow _ le_rfl, hone]
  · intro q hq hdvd
    rw [← hprod, hq.prime.dvd_prod_iff] at hdvd
    obtain ⟨r, hr, hqr⟩ := hdvd
    obtain rfl := (Nat.prime_dvd_prime_iff_eq hq (hf r hr)).mp hqr
    rw [ne_eq, pow_eq_one_iff hp, ← hpow _ (Nat.div_le_self _ _)]
    exact hne q hr

end Pratt

import Mathlib.Order.WithBot
import Continuity.JsArithmetic

namespace Continuity
set_option autoImplicit true

namespace JsNumber

/-- A number in the order with both infinities; what is not a number has no place in it. -/
def extended : JsNumber → Option (WithBot (WithTop ℚ))
  | .fin q => some ((q : WithTop ℚ) : WithBot (WithTop ℚ))
  | .negZero => some ((0 : ℚ) : WithTop ℚ)
  | .nan => none
  | .posInf => some ((⊤ : WithTop ℚ) : WithBot (WithTop ℚ))
  | .negInf => some ⊥

theorem le_iff (a b : JsNumber) :
    a.le b = true ↔ ∃ x y, a.extended = some x ∧ b.extended = some y ∧ x ≤ y := by
  cases a <;> cases b <;> simp [extended, le, value?] <;>
    first | exact decide_eq_true_iff | (intro h; cases h)

theorem strictEq_iff (a b : JsNumber) :
    a.strictEq b = true ↔ ∃ x, a.extended = some x ∧ b.extended = some x := by
  cases a <;> cases b <;> simp [extended, strictEq, value?, eq_comm] <;>
    (intro h; cases h)

theorem lt_iff (a b : JsNumber) :
    a.lt b = true ↔ ∃ x y, a.extended = some x ∧ b.extended = some y ∧ x < y := by
  rw [lt, Bool.and_eq_true, Bool.not_eq_true', ← Bool.not_eq_true, le_iff, strictEq_iff]
  constructor
  · rintro ⟨⟨x, y, hx, hy, hle⟩, hne⟩
    exact ⟨x, y, hx, hy, hle.lt_of_ne fun he => hne ⟨x, hx, he ▸ hy⟩⟩
  · rintro ⟨x, y, hx, hy, hlt⟩
    refine ⟨⟨x, y, hx, hy, hlt.le⟩, ?_⟩
    rintro ⟨z, hz, hz'⟩
    rw [hx, Option.some.injEq] at hz
    rw [hy, Option.some.injEq] at hz'
    exact hlt.ne (hz.trans hz'.symm)

theorem le_trans {a b c : JsNumber} (hab : a.le b = true) (hbc : b.le c = true) :
    a.le c = true := by
  obtain ⟨x, y, hx, hy, hxy⟩ := (le_iff a b).mp hab
  obtain ⟨y', z, hy', hz, hyz⟩ := (le_iff b c).mp hbc
  cases hy.symm.trans hy'
  exact (le_iff a c).mpr ⟨x, z, hx, hz, hxy.trans hyz⟩

theorem lt_of_le_of_lt {a b c : JsNumber} (hab : a.le b = true) (hbc : b.lt c = true) :
    a.lt c = true := by
  obtain ⟨x, y, hx, hy, hxy⟩ := (le_iff a b).mp hab
  obtain ⟨y', z, hy', hz, hyz⟩ := (lt_iff b c).mp hbc
  cases hy.symm.trans hy'
  exact (lt_iff a c).mpr ⟨x, z, hx, hz, hxy.trans_lt hyz⟩

/-- What is below one number is not at or above it. -/
theorem not_le_of_lt {a b : JsNumber} (h : a.lt b = true) : b.le a = false := by
  obtain ⟨x, y, hx, hy, hxy⟩ := (lt_iff a b).mp h
  by_contra hle
  obtain ⟨y', x', hy', hx', hyx⟩ := (le_iff b a).mp (by simpa using hle)
  cases hx.symm.trans hx'
  cases hy.symm.trans hy'
  exact hxy.not_ge hyx

theorem ofNat_le_ofNat {m n : Nat} (h : m ≤ n) : (ofNat m).le (ofNat n) = true := by
  have hq : (m : ℚ) ≤ n := by exact_mod_cast h
  exact (le_iff _ _).mpr ⟨_, _, rfl, rfl, by simpa using hq⟩

theorem ofNat_lt_iff {m n : Nat} : (ofNat m).lt (ofNat n) = true ↔ m < n := by
  rw [lt_iff]
  constructor
  · rintro ⟨x, y, ⟨⟩, ⟨⟩, h⟩
    have hq : (m : ℚ) < n := WithTop.coe_lt_coe.mp (WithBot.coe_lt_coe.mp h)
    exact_mod_cast hq
  · intro h
    have hq : (m : ℚ) < n := by exact_mod_cast h
    exact ⟨_, _, rfl, rfl, by simpa using hq⟩

@[simp] theorem ofNat_le (m n : Nat) : (ofNat m).le (ofNat n) = decide (m ≤ n) := by
  have hq : (m : ℚ) ≤ n ↔ m ≤ n := Nat.cast_le
  change decide ((m : ℚ) ≤ n) = _
  simp only [hq]

@[simp] theorem ofNat_strictEq (m n : Nat) : (ofNat m).strictEq (ofNat n) = decide (m = n) := by
  have hq : (m : ℚ) = n ↔ m = n := Nat.cast_inj
  change (true && decide (some (m : ℚ) = some (n : ℚ))) = _
  simp only [Bool.true_and, Option.some.injEq, hq]

theorem extended_eq_none {a : JsNumber} : a.extended = none ↔ a = .nan := by
  cases a <;> simp [extended]

/-- Two numbers that are not below one another the one way are in order the other way. -/
theorem le_of_not_lt {a b : JsNumber} (ha : a ≠ .nan) (hb : b ≠ .nan) (h : a.lt b = false) :
    b.le a = true := by
  obtain ⟨x, hx⟩ := Option.ne_none_iff_exists'.mp (mt extended_eq_none.mp ha)
  obtain ⟨y, hy⟩ := Option.ne_none_iff_exists'.mp (mt extended_eq_none.mp hb)
  refine (le_iff b a).mpr ⟨y, x, hy, hx, not_lt.mp fun hxy => ?_⟩
  rw [(lt_iff a b).mpr ⟨x, y, hx, hy, hxy⟩] at h
  cases h

end JsNumber

end Continuity

import Continuity.JsArithmetic

namespace Continuity
set_option autoImplicit true

/-- Rounding keeps the order: between two floors it is the floors' order, within one the rests'. -/
theorem roundHalfEven_mono {p q : ℚ} (h : p ≤ q) : roundHalfEven p ≤ roundHalfEven q := by
  have hfloor : p.floor ≤ q.floor := Int.floor_le_floor h
  rcases hfloor.eq_or_lt with he | hlt
  · rw [roundHalfEven, roundHalfEven]
    have hcast : (p.floor : ℚ) = q.floor := by rw [he]
    split_ifs with h₁ h₂ h₃ h₄ h₅ h₆ h₇ h₈ h₉ <;> first | omega | linarith
  · have hp : roundHalfEven p ≤ p.floor + 1 := by
      rw [roundHalfEven]
      split_ifs <;> omega
    have hq : q.floor ≤ roundHalfEven q := by
      rw [roundHalfEven]
      split_ifs <;> omega
    omega

theorem roundHalfEven_zero : roundHalfEven 0 = 0 := roundHalfEven_intCast 0

namespace JsNumber

/-- The distance of the doubles around a magnitude. -/
def unitOf (magnitude : ℚ) : ℚ := 2 ^ max (Int.log 2 magnitude - 52) (-1074)

/-- A magnitude rounded to the grid of the doubles around it. -/
def toGrid (magnitude : ℚ) : ℚ := roundHalfEven (magnitude / unitOf magnitude) * unitOf magnitude

theorem unitOf_pos (q : ℚ) : 0 < unitOf q := zpow_pos (by norm_num) _

theorem toGrid_zero : toGrid 0 = 0 := by simp [toGrid, roundHalfEven_zero]

theorem nearest_of_lt (h : toGrid q < 2 ^ 1024) : nearest false q = .fin (toGrid q) := by
  by_cases hq : q = 0
  · rw [hq, toGrid_zero]
    rfl
  · rw [nearest, if_neg hq]
    change (if toGrid q = 0 then _ else if _ ≤ toGrid q then _ else _) = _
    rw [if_neg h.not_ge]
    split
    · next h0 => rw [h0]; rfl
    · rfl

/-- A power of two is on the grid of everything below it. -/
theorem toGrid_le_zpow (h : p ≤ 2 ^ e) (he : Int.log 2 p ≤ e) (hmin : -1074 ≤ e) :
    toGrid p ≤ 2 ^ e := by
  obtain ⟨k, hk⟩ := Int.eq_ofNat_of_zero_le
    (show 0 ≤ e - max (Int.log 2 p - 52) (-1074) by omega)
  have hsplit : (2 : ℚ) ^ e = (2 ^ k : Int) * unitOf p := by
    rw [unitOf, show e = k + max (Int.log 2 p - 52) (-1074) by omega, zpow_add₀ (by norm_num),
      zpow_natCast]
    simp
  have hle : p / unitOf p ≤ ((2 ^ k : Int) : ℚ) := by
    rw [div_le_iff₀ (unitOf_pos p), ← hsplit]
    exact h
  have hround := roundHalfEven_mono hle
  rw [roundHalfEven_intCast] at hround
  rw [hsplit, toGrid]
  exact mul_le_mul_of_nonneg_right (by exact_mod_cast hround) (unitOf_pos p).le

/-- A power of two is on the grid of everything above it up to the next one. -/
theorem zpow_le_toGrid (hq : 0 < q) (hmin : -1074 ≤ Int.log 2 q - 52) :
    2 ^ Int.log 2 q ≤ toGrid q := by
  have hsplit : (2 : ℚ) ^ Int.log 2 q = (2 ^ 52 : Int) * unitOf q := by
    rw [unitOf, max_eq_left hmin, show (((2 : Int) ^ 52 : Int) : ℚ) = (2 : ℚ) ^ (52 : Int) by norm_num,
      ← zpow_add₀ (by norm_num)]
    congr 1
    omega
  have hle : ((2 ^ 52 : Int) : ℚ) ≤ q / unitOf q := by
    rw [le_div_iff₀ (unitOf_pos q), ← hsplit]
    exact Int.zpow_log_le_self (by norm_num) hq
  have hround := roundHalfEven_mono hle
  rw [roundHalfEven_intCast] at hround
  rw [hsplit, toGrid]
  exact mul_le_mul_of_nonneg_right (by exact_mod_cast hround) (unitOf_pos q).le

/-- Rounding to the doubles keeps the order, also across a power of two. -/
theorem toGrid_mono (hp : 0 ≤ p) (h : p ≤ q) : toGrid p ≤ toGrid q := by
  rcases hp.eq_or_lt with rfl | hp
  · have hq : 0 ≤ q / unitOf q := div_nonneg h (unitOf_pos q).le
    have hround := roundHalfEven_mono hq
    rw [roundHalfEven_zero] at hround
    rw [toGrid_zero]
    exact mul_nonneg (by exact_mod_cast hround) (unitOf_pos q).le
  · have hq : 0 < q := hp.trans_le h
    have hlog : Int.log 2 p ≤ Int.log 2 q := Int.log_mono_right hp h
    rcases (show max (Int.log 2 p - 52) (-1074) ≤ max (Int.log 2 q - 52) (-1074) by
      omega).eq_or_lt with he | hlt
    · have hunit : unitOf p = unitOf q := by rw [unitOf, unitOf, he]
      rw [toGrid, toGrid, hunit]
      have hle : p / unitOf q ≤ q / unitOf q := div_le_div_of_nonneg_right h (unitOf_pos q).le
      exact mul_le_mul_of_nonneg_right (by exact_mod_cast roundHalfEven_mono hle) (unitOf_pos q).le
    · have hbelow : Int.log 2 p < Int.log 2 q := by omega
      have hpow : p ≤ 2 ^ Int.log 2 q :=
        ((Int.lt_zpow_iff_log_lt (by norm_num) hp).mpr hbelow).le
      exact (toGrid_le_zpow hpow hlog (by omega)).trans (zpow_le_toGrid hq (by omega))

theorem toGrid_nonneg (hq : 0 ≤ q) : 0 ≤ toGrid q := by
  have hmono := toGrid_mono le_rfl hq
  rwa [toGrid_zero] at hmono

/-- Rounding does not pass a power of two. -/
theorem toGrid_le {e : Int} (hq : 0 ≤ q) (h : q ≤ 2 ^ e) (hmin : -1074 ≤ e) :
    toGrid q ≤ 2 ^ e :=
  (toGrid_mono hq h).trans
    (toGrid_le_zpow le_rfl (Int.log_zpow (by norm_num) e).le hmin)

/-- A finite number of at most a magnitude. -/
def Bounded (e : Nat) (x : JsNumber) : Prop := ∃ r, x.value? = some r ∧ |r| ≤ 2 ^ e

theorem toGrid_le_pow {e : Nat} (hq : 0 ≤ q) (h : q ≤ 2 ^ e) : toGrid q ≤ 2 ^ e := by
  have hpow : (2 : ℚ) ^ (e : Int) = 2 ^ e := zpow_natCast 2 e
  rw [← hpow] at h ⊢
  exact toGrid_le hq h (by omega)

theorem nearest_value (negative : Bool) (hq : 0 ≤ q) (h : q ≤ 2 ^ e) (he : e < 1024) :
    (nearest negative q).value? = some (if negative then -toGrid q else toGrid q) := by
  have hlt : toGrid q < 2 ^ 1024 :=
    (toGrid_le_pow hq h).trans_lt (pow_lt_pow_right₀ (by norm_num) he)
  by_cases hzero : q = 0
  · rw [hzero, toGrid_zero]
    cases negative <;> rfl
  · rw [nearest, if_neg hzero]
    change (if toGrid q = 0 then _ else if _ ≤ toGrid q then _ else _ : JsNumber).value? = _
    rw [if_neg hlt.not_ge]
    split
    · next h0 =>
      rw [h0]
      cases negative <;> rfl
    · rfl

theorem nearest_bounded (negative : Bool) (hq : 0 ≤ q) (h : q ≤ 2 ^ e) (he : e < 1024) :
    (nearest negative q).Bounded e := by
  refine ⟨_, nearest_value negative hq h he, ?_⟩
  have habs : |if negative then -toGrid q else toGrid q| = toGrid q := by
    cases negative
    · exact abs_of_nonneg (toGrid_nonneg hq)
    · exact (abs_neg _).trans (abs_of_nonneg (toGrid_nonneg hq))
  rw [habs]
  exact toGrid_le_pow hq h

section Bounds

variable {a b : JsNumber} {d e : Nat}

theorem Bounded.mono (h : a.Bounded d) (hle : d ≤ e) : a.Bounded e := by
  obtain ⟨r, hr, hb⟩ := h
  exact ⟨r, hr, hb.trans (pow_le_pow_right₀ (by norm_num) hle)⟩

theorem bounded_ofInt {z : Int} (h : z.natAbs ≤ 2 ^ e) : (ofInt z).Bounded e := by
  refine ⟨z, rfl, ?_⟩
  rw [← Int.cast_abs, Int.abs_eq_natAbs]
  exact_mod_cast h

theorem value?_neg (h : a.value? = some r) : (-a).value? = some (-r) := by
  cases a with
  | fin q =>
    obtain rfl : q = r := Option.some.inj h
    by_cases hz : q = 0
    · rw [show -fin q = .negZero from if_pos hz, hz]
      rfl
    · rw [show -fin q = .fin (-q) from if_neg hz]
      rfl
  | negZero => cases h; rfl
  | nan => cases h
  | posInf => cases h
  | negInf => cases h

theorem Bounded.neg (h : a.Bounded e) : (-a).Bounded e := by
  obtain ⟨r, hr, hb⟩ := h
  exact ⟨-r, value?_neg hr, by rwa [abs_neg]⟩

/-- A sum of finite numbers is rounded once; two negative zeros keep their sign. -/
theorem add_eq (ha : a.value? = some x) (hb : b.value? = some y) :
    (a = .negZero ∧ b = .negZero ∧ a + b = .negZero) ∨ a + b = rounded (x + y) := by
  cases a <;> cases b <;> cases ha <;> cases hb
  case negZero.negZero => exact .inl ⟨rfl, rfl, rfl⟩
  all_goals exact .inr rfl

theorem Bounded.add (ha : a.Bounded e) (hb : b.Bounded e) (he : e + 1 < 1024) :
    (a + b).Bounded (e + 1) := by
  obtain ⟨x, hx, hxb⟩ := ha
  obtain ⟨y, hy, hyb⟩ := hb
  rcases add_eq hx hy with ⟨-, -, hsum⟩ | hsum
  · exact ⟨0, by rw [hsum]; rfl, by simp⟩
  · rw [hsum]
    apply nearest_bounded _ (abs_nonneg _) _ he
    have habs := abs_add_le x y
    rw [pow_succ]
    linarith

theorem Bounded.sub (ha : a.Bounded e) (hb : b.Bounded e) (he : e + 1 < 1024) :
    (a - b).Bounded (e + 1) := Bounded.add ha hb.neg he

theorem Bounded.mul (ha : a.Bounded d) (hb : b.Bounded e) (he : d + e < 1024) :
    (a * b).Bounded (d + e) := by
  obtain ⟨x, hx, hxb⟩ := ha
  obtain ⟨y, hy, hyb⟩ := hb
  have hprod : a * b = nearest (a.isNegative != b.isNegative) |x * y| := by
    change JsNumber.mul a b = _
    simp only [JsNumber.mul, hx, hy]
  rw [hprod]
  apply nearest_bounded _ (abs_nonneg _) _ he
  rw [abs_mul, pow_add]
  exact mul_le_mul hxb hyb (abs_nonneg _) (by positivity)

theorem Bounded.div_ofNat (ha : a.Bounded e) (he : e < 1024) {n : Nat} (hn : 0 < n) :
    (a / .ofNat n).Bounded e := by
  obtain ⟨x, hx, hxb⟩ := ha
  have hpos : (1 : ℚ) ≤ n := by exact_mod_cast hn
  have hzero : (n : ℚ) ≠ 0 := by linarith
  have hquot : a / .ofNat n = nearest (a.isNegative != (ofNat n).isNegative) |x / n| := by
    change JsNumber.div a (.ofNat n) = _
    have hvalue : (ofNat n).value? = some (n : ℚ) := rfl
    simp only [JsNumber.div, hx, hvalue, if_neg hzero]
  rw [hquot]
  apply nearest_bounded _ (abs_nonneg _) _ he
  rw [abs_div, abs_of_pos (by linarith : (0 : ℚ) < n)]
  exact (div_le_self (abs_nonneg x) hpos).trans hxb

theorem Bounded.floor (ha : a.Bounded e) : a.floor.Bounded e := by
  obtain ⟨x, hx, hxb⟩ := ha
  cases a with
  | fin q =>
    obtain rfl : q = x := Option.some.inj hx
    obtain ⟨hlow, hhigh⟩ := abs_le.mp hxb
    refine ⟨(q.floor : ℚ), rfl, abs_le.mpr ⟨?_, ?_⟩⟩
    · have hz : ((-2 ^ e : Int) : ℚ) ≤ q := by exact_mod_cast hlow
      have hfloor : -2 ^ e ≤ q.floor := Int.le_floor.mpr hz
      exact_mod_cast hfloor
    · exact (Int.floor_le q).trans hhigh
  | negZero => exact ⟨0, rfl, by simp⟩
  | nan => cases hx
  | posInf => cases hx
  | negInf => cases hx

/-- The value of the double nearest to a number of either sign. -/
def signedGrid (q : ℚ) : ℚ := if q < 0 then -toGrid |q| else toGrid |q|

theorem abs_signedGrid (q : ℚ) : |signedGrid q| = toGrid |q| := by
  rw [signedGrid]
  split
  · rw [abs_neg, abs_of_nonneg (toGrid_nonneg (abs_nonneg q))]
  · exact abs_of_nonneg (toGrid_nonneg (abs_nonneg q))

theorem signedGrid_mono {p q : ℚ} (h : p ≤ q) : signedGrid p ≤ signedGrid q := by
  rw [signedGrid, signedGrid]
  by_cases hp : p < 0
  · rw [if_pos hp]
    by_cases hq : q < 0
    · rw [if_pos hq, neg_le_neg_iff]
      apply toGrid_mono (abs_nonneg q)
      rw [abs_of_neg hp, abs_of_neg hq]
      exact neg_le_neg h
    · rw [if_neg hq]
      have hp' := toGrid_nonneg (abs_nonneg p)
      have hq' := toGrid_nonneg (abs_nonneg q)
      linarith
  · have hq : ¬q < 0 := not_lt.mpr ((not_lt.mp hp).trans h)
    rw [if_neg hp, if_neg hq, abs_of_nonneg (not_lt.mp hp), abs_of_nonneg (not_lt.mp hq)]
    exact toGrid_mono (not_lt.mp hp) h

theorem rounded_value {q : ℚ} (h : |q| ≤ 2 ^ e) (he : e < 1024) :
    (rounded q).value? = some (signedGrid q) := by
  rw [rounded, nearest_value _ (abs_nonneg q) h he, signedGrid]
  simp only [decide_eq_true_eq]

theorem sub_value (ha : a.value? = some x) (hb : b.value? = some y) (h : |x - y| ≤ 2 ^ e)
    (he : e < 1024) : (a - b).value? = some (signedGrid (x - y)) := by
  rcases add_eq ha (value?_neg hb) with ⟨rfl, hneg, hsum⟩ | hsum
  · have hy := value?_neg hb
    rw [hneg] at hy
    cases ha
    have hzero : -y = 0 := (Option.some.inj hy).symm
    rw [sub_eq_add_neg, hzero, add_zero, signedGrid, if_neg (lt_irrefl _), abs_zero, toGrid_zero]
    exact congrArg value? hsum
  · have hvalue := rounded_value h he
    rw [sub_eq_add_neg] at hvalue ⊢
    rw [← hvalue]
    exact congrArg value? hsum

theorem div_ofNat_value (ha : a.value? = some x) (h : |x| ≤ 2 ^ e) (he : e < 1024) {n : Nat}
    (hn : 0 < n) : (a / .ofNat n).value? = some (signedGrid (x / n)) := by
  have hpos : (1 : ℚ) ≤ n := by exact_mod_cast hn
  have hzero : (n : ℚ) ≠ 0 := by linarith
  have hquot : a / .ofNat n = nearest (a.isNegative != (ofNat n).isNegative) |x / n| := by
    change JsNumber.div a (.ofNat n) = _
    have hvalue : (ofNat n).value? = some (n : ℚ) := rfl
    simp only [JsNumber.div, ha, hvalue, if_neg hzero]
  have hsign : (ofNat n).isNegative = false := by
    change decide ((n : ℚ) < 0) = false
    exact decide_eq_false (by linarith)
  have hle : |x / n| ≤ 2 ^ e := by
    rw [abs_div, abs_of_pos (by linarith : (0 : ℚ) < n)]
    exact (div_le_self (abs_nonneg x) hpos).trans h
  rw [hquot, nearest_value _ (abs_nonneg _) hle he, hsign, Bool.bne_false, signedGrid]
  congr 1
  cases a with
  | fin q =>
    obtain rfl : q = x := Option.some.inj ha
    have hdiv : q / n < 0 ↔ q < 0 := by
      rw [div_lt_iff₀ (by linarith : (0 : ℚ) < n), zero_mul]
    simp only [isNegative, decide_eq_true_eq, hdiv]
  | negZero =>
    cases ha
    simp [isNegative, toGrid_zero]
  | nan => cases ha
  | posInf => cases ha
  | negInf => cases ha

theorem mul_ofNat_value (ha : a.value? = some x) {n : Nat} (hn : 0 < n) (h : |x * n| ≤ 2 ^ e)
    (he : e < 1024) : (a * .ofNat n).value? = some (signedGrid (x * n)) := by
  have hpos : (0 : ℚ) < n := by exact_mod_cast hn
  have hproduct : a * .ofNat n = nearest (a.isNegative != (ofNat n).isNegative) |x * n| := by
    change JsNumber.mul a (.ofNat n) = _
    have hvalue : (ofNat n).value? = some (n : ℚ) := rfl
    simp only [JsNumber.mul, ha, hvalue]
  have hsign : (ofNat n).isNegative = false := decide_eq_false hpos.not_gt
  rw [hproduct, nearest_value _ (abs_nonneg _) h he, hsign, Bool.bne_false, signedGrid]
  congr 1
  cases a with
  | fin q =>
    obtain rfl : q = x := Option.some.inj ha
    have hmul : q * n < 0 ↔ q < 0 := by rw [mul_neg_iff]; grind
    simp only [isNegative, decide_eq_true_eq, hmul]
  | negZero =>
    cases ha
    simp [isNegative, toGrid_zero]
  | nan => cases ha
  | posInf => cases ha
  | negInf => cases ha

theorem floor_value (ha : a.value? = some x) : a.floor.value? = some (⌊x⌋ : ℚ) := by
  cases a with
  | fin q =>
    obtain rfl : q = x := Option.some.inj ha
    rfl
  | negZero =>
    cases ha
    simp [floor, value?]
  | nan => cases ha
  | posInf => cases ha
  | negInf => cases ha

end Bounds

/-- Integers of at most 53 bits are not rounded. -/
theorem rounded_intCast {z : Int} (h : z.natAbs < 2 ^ 53) : rounded z = .ofInt z := by
  have habs : |(z : ℚ)| = (z.natAbs : ℚ) := by rw [Nat.cast_natAbs, Int.cast_abs]
  rw [rounded, habs]
  rcases lt_trichotomy z 0 with hz | rfl | hz
  · have hq : (z : ℚ) < 0 := by exact_mod_cast hz
    have hn : -(z.natAbs : ℚ) = z := by rw [← habs, abs_of_neg hq, neg_neg]
    rw [nearest_natCast _ (by omega) h, decide_eq_true hq, if_pos rfl, hn]
    rfl
  · rfl
  · have hq : ¬(z : ℚ) < 0 := by exact_mod_cast hz.not_gt
    have hn : (z.natAbs : ℚ) = z := by rw [← habs, abs_of_nonneg (not_lt.mp hq)]
    rw [nearest_natCast _ (by omega) h, decide_eq_false hq, if_neg Bool.false_ne_true, hn]
    rfl

end JsNumber

end Continuity

import Continuity.JsonParse

namespace Continuity
set_option autoImplicit true

namespace JsNumber

/-- The double nearest to a rational. -/
def rounded (q : ℚ) : JsNumber := nearest (decide (q < 0)) |q|

def isNegative : JsNumber → Bool
  | .fin q => q < 0
  | .negZero => true
  | .negInf => true
  | _ => false

/-- `Math.floor`. -/
def floor : JsNumber → JsNumber
  | .fin q => .fin q.floor
  | n => n

/-- `-n`. -/
def neg : JsNumber → JsNumber
  | .fin q => if q = 0 then .negZero else .fin (-q)
  | .negZero => .fin 0
  | .nan => .nan
  | .posInf => .negInf
  | .negInf => .posInf

/-- `a + b`. -/
def add (a b : JsNumber) : JsNumber :=
  match a, b with
  | .nan, _ => .nan
  | _, .nan => .nan
  | .posInf, .negInf => .nan
  | .negInf, .posInf => .nan
  | .posInf, _ => .posInf
  | _, .posInf => .posInf
  | .negInf, _ => .negInf
  | _, .negInf => .negInf
  | .negZero, .negZero => .negZero
  | a, b => rounded (a.value?.getD 0 + b.value?.getD 0)

/-- `a - b`. -/
def sub (a b : JsNumber) : JsNumber := a.add b.neg

def signed (negative : Bool) (n : JsNumber) : JsNumber := if negative then n.neg else n

/-- `a * b`. -/
def mul (a b : JsNumber) : JsNumber :=
  let negative := a.isNegative != b.isNegative
  match a.value?, b.value? with
  | some p, some q => nearest negative |p * q|
  | some p, none => if b = .nan ∨ p = 0 then .nan else signed negative .posInf
  | none, some q => if a = .nan ∨ q = 0 then .nan else signed negative .posInf
  | none, none => if a = .nan ∨ b = .nan then .nan else signed negative .posInf

/-- `a / b`. -/
def div (a b : JsNumber) : JsNumber :=
  let negative := a.isNegative != b.isNegative
  match a.value?, b.value? with
  | some p, some q =>
    if q = 0 then if p = 0 then .nan else signed negative .posInf
    else nearest negative |p / q|
  | some _, none => if b = .nan then .nan else signedZero negative
  | none, some _ => if a = .nan then .nan else signed negative .posInf
  | none, none => .nan

instance : Add JsNumber := ⟨add⟩
instance : Sub JsNumber := ⟨sub⟩
instance : Mul JsNumber := ⟨mul⟩
instance : Div JsNumber := ⟨div⟩
instance : Neg JsNumber := ⟨neg⟩

/-- The truth value of a number. -/
def truthy : JsNumber → Bool
  | .fin q => q ≠ 0
  | .negZero => false
  | .nan => false
  | _ => true

/-- How often `for (let i = 0; i < n; i += 1)` runs its body; an infinite limit cannot come from
JSON. -/
def passes : JsNumber → Nat
  | .fin q => q.ceil.toNat
  | _ => 0

end JsNumber

/-- `Math.max(0, Math.min(10000, Math.trunc(value)))`, zero for what is not finite. -/
def clampBps : JsNumber → Nat
  | .fin q => min 10000 q.floor.toNat
  | _ => 0

theorem clampBps_le (value : JsNumber) : clampBps value ≤ 10000 := by
  cases value with
  | fin q => exact min_le_left _ _
  | negZero => exact Nat.zero_le _
  | nan => exact Nat.zero_le _
  | posInf => exact Nat.zero_le _
  | negInf => exact Nat.zero_le _

@[simp] theorem clampBps_ofNat (n : Nat) : clampBps (.ofNat n) = min 10000 n := by
  have hfloor : (n : ℚ).floor = n := by simpa using Rat.floor_intCast n
  simp only [clampBps, JsNumber.ofNat, hfloor, Int.toNat_natCast]

/-- `clampBps(Math.floor((part * 10000) / total))`; the masses are sums of whole basis points. -/
def bps (part total : Nat) : Nat := if total = 0 then 0 else min 10000 (part * 10000 / total)

@[simp] theorem bps_zero_right (part : Nat) : bps part 0 = 0 := rfl

/-- The functions of `Math` that no standard fixes to the last bit. -/
structure JsMath where
  pow : JsNumber → JsNumber → JsNumber
  exp : JsNumber → JsNumber
  log : JsNumber → JsNumber

end Continuity

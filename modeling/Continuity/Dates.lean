import Continuity.Canonicalize

namespace Continuity
set_option autoImplicit true

def decimalDigit (u : UInt16) : Option Nat :=
  if 48 ≤ u && u ≤ 57 then some (u.toNat - 48) else none

/-- Exactly `n` decimal digits and what follows them. -/
def takeDigits : Nat → Nat → JsString → Option (Nat × JsString)
  | 0, acc, s => some (acc, s)
  | n + 1, acc, u :: rest =>
    match decimalDigit u with
    | some d => takeDigits n (acc * 10 + d) rest
    | none => none
  | _ + 1, _, [] => none

def expectUnit (u : UInt16) : JsString → Option JsString
  | v :: rest => if v = u then some rest else none
  | [] => none

def isLeapYear (year : Nat) : Bool := (year % 4 == 0 && year % 100 != 0) || year % 400 == 0

def daysInMonth (year month : Nat) : Nat :=
  match month with
  | 2 => if isLeapYear year then 29 else 28
  | 4 | 6 | 9 | 11 => 30
  | _ => 31

def daysBeforeMonth (year : Nat) : Nat → Nat
  | 0 => 0
  | month + 1 => daysBeforeMonth year month + (if month = 0 then 0 else daysInMonth year month)

/-- The days from the first of January of the year 0 to the first of January of `year`. -/
def daysBeforeYear (year : Nat) : Nat :=
  365 * year + (year + 3) / 4 - (year + 99) / 100 + (year + 399) / 400

/-- The days from the epoch to a date. -/
def epochDay (year month day : Nat) : Int :=
  (daysBeforeYear year + daysBeforeMonth year month + day : Nat) - 719529

structure IsoFields where
  year : Nat
  month : Nat
  day : Nat
  hour : Nat
  minute : Nat
  second : Nat
  millisecond : Nat
  offsetMinutes : Int

def IsoFields.inRange (d : IsoFields) : Bool :=
  1 ≤ d.month && d.month ≤ 12 && 1 ≤ d.day && d.day ≤ daysInMonth d.year d.month &&
    d.hour ≤ 23 && d.minute ≤ 59 && d.second ≤ 59

def IsoFields.time (d : IsoFields) : Int :=
  (((epochDay d.year d.month d.day * 24 + d.hour) * 60 + d.minute - d.offsetMinutes) * 60 +
    d.second) * 1000 + d.millisecond

def isoOffset (s : JsString) : Option Int :=
  match s with
  | [90] => some 0
  | sign :: rest => do
    let (hours, rest) ← takeDigits 2 0 rest
    let rest ← expectUnit 58 rest
    let (minutes, rest) ← takeDigits 2 0 rest
    if !rest.isEmpty || 23 < hours || 59 < minutes then none
    else if sign = 43 then some (hours * 60 + minutes : Nat)
    else if sign = 45 then some (-((hours * 60 + minutes : Nat) : Int))
    else none
  | [] => none

def isoFraction (s : JsString) : Option (Nat × JsString) :=
  match s with
  | 46 :: rest => takeDigits 3 0 rest
  | s => some (0, s)

/-- The date-time format of the language with a time-zone offset. -/
def isoFields (s : JsString) : Option IsoFields := do
  let (year, s) ← takeDigits 4 0 s
  let s ← expectUnit 45 s
  let (month, s) ← takeDigits 2 0 s
  let s ← expectUnit 45 s
  let (day, s) ← takeDigits 2 0 s
  let s ← expectUnit 84 s
  let (hour, s) ← takeDigits 2 0 s
  let s ← expectUnit 58 s
  let (minute, s) ← takeDigits 2 0 s
  let s ← expectUnit 58 s
  let (second, s) ← takeDigits 2 0 s
  let (millisecond, s) ← isoFraction s
  let offsetMinutes ← isoOffset s
  some { year, month, day, hour, minute, second, millisecond, offsetMinutes }

/-- `Date.parse`, `none` for `NaN`. The format of the language is fixed; what a host does with
any other text is its own. -/
def dateParse (heuristics : JsString → Option Int) (s : RFC3339) : Option Int :=
  match isoFields s with
  | some d => if d.inRange then some d.time else heuristics s
  | none => heuristics s

example : dateParse (fun _ => none) (js "1970-01-01T00:00:00Z") = some 0 := by decide +kernel

example : dateParse (fun _ => none) (js "2026-05-25T02:00:00.250+02:00") =
    some 1779667200250 := by
  decide +kernel

theorem takeDigits_lt (h : takeDigits n acc s = some (v, rest)) : v < (acc + 1) * 10 ^ n := by
  induction n generalizing acc s with
  | zero =>
    cases h
    simp
  | succ n ih =>
    cases s with
    | nil => cases h
    | cons u s =>
      simp only [takeDigits] at h
      split at h
      · next d hd =>
        have hlt : d ≤ 9 := by
          simp only [decimalDigit] at hd
          split at hd
          · next hu =>
            simp only [Bool.and_eq_true, decide_eq_true_eq, UInt16.le_iff_toNat_le] at hu
            cases hd
            have h57 : (57 : UInt16).toNat = 57 := rfl
            omega
          · cases hd
        have hv := ih h
        calc v < (acc * 10 + d + 1) * 10 ^ n := hv
          _ ≤ ((acc + 1) * 10) * 10 ^ n := Nat.mul_le_mul_right _ (by omega)
          _ = (acc + 1) * 10 ^ (n + 1) := by rw [Nat.pow_succ', Nat.mul_assoc]
      · cases h

theorem isoOffset_le (h : isoOffset s = some offset) : offset.natAbs ≤ 1439 := by
  unfold isoOffset at h
  split at h
  · cases h
    decide
  · simp only [bind, Option.bind_eq_some_iff, Prod.exists] at h
    obtain ⟨hours, _, -, _, -, minutes, _, -, h⟩ := h
    split_ifs at h with hr hs hs'
    all_goals
      simp only [Bool.or_eq_true, decide_eq_true_eq, not_or] at hr
      cases h
      omega
  · cases h

/-- What the text of a date holds, part by part. -/
theorem isoFields_reads (h : isoFields s = some d) :
    ∃ s₁ s₂ s₃ s₄ s₅ s₆ s₇ s₈ s₉ s₁₀ s₁₁ s₁₂,
      takeDigits 4 0 s = some (d.year, s₁) ∧ expectUnit 45 s₁ = some s₂ ∧
      takeDigits 2 0 s₂ = some (d.month, s₃) ∧ expectUnit 45 s₃ = some s₄ ∧
      takeDigits 2 0 s₄ = some (d.day, s₅) ∧ expectUnit 84 s₅ = some s₆ ∧
      takeDigits 2 0 s₆ = some (d.hour, s₇) ∧ expectUnit 58 s₇ = some s₈ ∧
      takeDigits 2 0 s₈ = some (d.minute, s₉) ∧ expectUnit 58 s₉ = some s₁₀ ∧
      takeDigits 2 0 s₁₀ = some (d.second, s₁₁) ∧ isoFraction s₁₁ = some (d.millisecond, s₁₂) ∧
      isoOffset s₁₂ = some d.offsetMinutes := by
  obtain ⟨⟨_, s₁⟩, h₁, h⟩ := Option.bind_eq_some_iff.mp h
  obtain ⟨s₂, h₂, h⟩ := Option.bind_eq_some_iff.mp h
  obtain ⟨⟨_, s₃⟩, h₃, h⟩ := Option.bind_eq_some_iff.mp h
  obtain ⟨s₄, h₄, h⟩ := Option.bind_eq_some_iff.mp h
  obtain ⟨⟨_, s₅⟩, h₅, h⟩ := Option.bind_eq_some_iff.mp h
  obtain ⟨s₆, h₆, h⟩ := Option.bind_eq_some_iff.mp h
  obtain ⟨⟨_, s₇⟩, h₇, h⟩ := Option.bind_eq_some_iff.mp h
  obtain ⟨s₈, h₈, h⟩ := Option.bind_eq_some_iff.mp h
  obtain ⟨⟨_, s₉⟩, h₉, h⟩ := Option.bind_eq_some_iff.mp h
  obtain ⟨s₁₀, h₁₀, h⟩ := Option.bind_eq_some_iff.mp h
  obtain ⟨⟨_, s₁₁⟩, h₁₁, h⟩ := Option.bind_eq_some_iff.mp h
  obtain ⟨⟨_, s₁₂⟩, h₁₂, h⟩ := Option.bind_eq_some_iff.mp h
  obtain ⟨_, h₁₃, h⟩ := Option.bind_eq_some_iff.mp h
  cases h
  exact ⟨s₁, s₂, s₃, s₄, s₅, s₆, s₇, s₈, s₉, s₁₀, s₁₁, s₁₂, h₁, h₂, h₃, h₄, h₅, h₆, h₇, h₈, h₉,
    h₁₀, h₁₁, h₁₂, h₁₃⟩

theorem isoFields_bounds (h : isoFields s = some d) :
    d.year < 10 ^ 4 ∧ d.millisecond < 10 ^ 3 ∧ d.offsetMinutes.natAbs ≤ 1439 := by
  obtain ⟨_, _, _, _, _, _, _, _, _, _, _, _, hy, -, -, -, -, -, -, -, -, -, -, hms, ho⟩ :=
    isoFields_reads h
  refine ⟨by simpa using takeDigits_lt hy, ?_, isoOffset_le ho⟩
  unfold isoFraction at hms
  split at hms
  · simpa using takeDigits_lt hms
  · rw [← (Prod.mk.inj (Option.some.inj hms)).1]
    exact Nat.pow_pos (by decide)

theorem daysInMonth_le (year month : Nat) : daysInMonth year month ≤ 31 := by
  unfold daysInMonth
  split <;> (try split) <;> decide

theorem daysBeforeMonth_le (year month : Nat) : daysBeforeMonth year month ≤ 31 * month := by
  induction month with
  | zero => rfl
  | succ month ih =>
    have hd := daysInMonth_le year month
    simp only [daysBeforeMonth]
    split <;> omega

/-- Every time of the format of the language lies within the range of its dates. -/
theorem isoFields_time (h : isoFields s = some d) (hr : d.inRange = true) :
    d.time.natAbs < 400000000000000 := by
  obtain ⟨hy, hms, ho⟩ := isoFields_bounds h
  simp only [IsoFields.inRange, Bool.and_eq_true, decide_eq_true_eq] at hr
  have hm := daysBeforeMonth_le d.year d.month
  have hd := daysInMonth_le d.year d.month
  simp only [IsoFields.time, epochDay, daysBeforeYear]
  omega

/-- A time is at most 100 000 000 days away from the epoch when that is true of the times a host
makes of other texts. -/
theorem dateParse_bounded (hh : ∀ s t, heuristics s = some t → t.natAbs ≤ 8640000000000000)
    (h : dateParse heuristics s = some t) : t.natAbs ≤ 8640000000000000 := by
  unfold dateParse at h
  split at h
  · next d hd =>
    split at h
    · next hr =>
      cases h
      have ht := isoFields_time hd hr
      omega
    · exact hh s t h
  · exact hh s t h

/-- A number in at least `width` decimal digits. -/
def padded (width n : Nat) : JsString :=
  let digits := (Nat.toDigits 10 n).map fun c => UInt16.ofNat c.toNat
  List.replicate (width - digits.length) 48 ++ digits

/-- `new Date(time).toISOString()` for a time within the range of dates. The calendar repeats every
400 years. -/
def toISOString (time : Int) : RFC3339 :=
  let day := time / 86400000 + 719528
  let clock := (time % 86400000).toNat
  let dayOfCycle := (day % 146097).toNat
  let yearOfCycle := ((List.range 400).reverse.find? fun year =>
    decide (daysBeforeYear year ≤ dayOfCycle)).getD 0
  let dayOfYear := dayOfCycle - daysBeforeYear yearOfCycle
  let month := ((List.range 13).reverse.find? fun month =>
    decide (daysBeforeMonth yearOfCycle month ≤ dayOfYear)).getD 1
  let dayOfMonth := dayOfYear - daysBeforeMonth yearOfCycle month + 1
  let year := day / 146097 * 400 + yearOfCycle
  (if 0 ≤ year ∧ year ≤ 9999 then padded 4 year.toNat
    else (if year < 0 then 45 else 43) :: padded 6 year.natAbs) ++
    js "-" ++ padded 2 month ++ js "-" ++ padded 2 dayOfMonth ++
    js "T" ++ padded 2 (clock / 3600000) ++ js ":" ++ padded 2 (clock / 60000 % 60) ++
    js ":" ++ padded 2 (clock / 1000 % 60) ++ js "." ++ padded 3 (clock % 1000) ++ js "Z"

example : toISOString 1779667200250 = js "2026-05-25T00:00:00.250Z" := by decide +kernel

example : toISOString (-62198755200000) = js "-000001-01-01T00:00:00.000Z" := by decide +kernel

theorem toISOString_ne_nil (time : Int) : toISOString time ≠ [] :=
  List.append_ne_nil_of_right_ne_nil _ (by decide)

end Continuity

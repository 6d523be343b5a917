import Continuity.Canonicalize

namespace Continuity
set_option autoImplicit true

def hexNibble (u : UInt16) : Nat := if u.toNat < 58 then u.toNat - 48 else u.toNat - 87

def unescapeUnit (u : UInt16) : UInt16 :=
  if u = 98 then 8 else if u = 116 then 9 else if u = 110 then 10 else if u = 102 then 12
  else if u = 114 then 13 else u

/-- Where a reader stands inside a quoted string. -/
inductive QuoteMode where
  | plain
  | escape
  | hex (left : Nat) (acc : Nat)

/-- Read a quoted string up to its closing quote. -/
def unquote : QuoteMode → JsString → Option (JsString × JsString)
  | _, [] => none
  | .plain, u :: t =>
    if u = 34 then some ([], t)
    else if u = 92 then unquote .escape t
    else (unquote .plain t).map fun p => (u :: p.1, p.2)
  | .escape, u :: t =>
    if u = 117 then unquote (.hex 3 0) t
    else (unquote .plain t).map fun p => (unescapeUnit u :: p.1, p.2)
  | .hex 0 acc, u :: t =>
    (unquote .plain t).map fun p => (UInt16.ofNat (acc * 16 + hexNibble u) :: p.1, p.2)
  | .hex (left + 1) acc, u :: t => unquote (.hex left (acc * 16 + hexNibble u)) t

theorem hexNibble_hexUnit : ∀ n : Fin 16, hexNibble (hexUnit n) = n := by
  decide

theorem unquote_unicodeEscape (u : UInt16) (t : JsString) :
    unquote .plain (unicodeEscape u ++ t) = (unquote .plain t).map fun p => (u :: p.1, p.2) := by
  have hl := u.toNat_lt
  have ha : hexNibble (hexUnit (u.toNat / 4096)) = u.toNat / 4096 :=
    hexNibble_hexUnit ⟨u.toNat / 4096, by omega⟩
  have hb : hexNibble (hexUnit (u.toNat / 256 % 16)) = u.toNat / 256 % 16 :=
    hexNibble_hexUnit ⟨u.toNat / 256 % 16, by omega⟩
  have hc : hexNibble (hexUnit (u.toNat / 16 % 16)) = u.toNat / 16 % 16 :=
    hexNibble_hexUnit ⟨u.toNat / 16 % 16, by omega⟩
  have hd : hexNibble (hexUnit (u.toNat % 16)) = u.toNat % 16 :=
    hexNibble_hexUnit ⟨u.toNat % 16, by omega⟩
  have he : (((0 * 16 + u.toNat / 4096) * 16 + u.toNat / 256 % 16) * 16 + u.toNat / 16 % 16) * 16 +
      u.toNat % 16 = u.toNat := by omega
  simp only [unicodeEscape, List.cons_append, List.nil_append, unquote, ha, hb, hc, hd, he,
    UInt16.ofNat_toNat]
  rfl

theorem unquote_literal (hq : u ≠ 34) (hb : u ≠ 92) (t : JsString) :
    unquote .plain (u :: t) = (unquote .plain t).map fun p => (u :: p.1, p.2) := by
  simp only [unquote, if_neg hq, if_neg hb]

/-- A property of how each unit is quoted: of the seven short escapes, of the long ones and of the
units that stay. -/
theorem quoteUnit_induction {P : UInt16 → JsString → Prop} (h8 : P 8 [92, 98])
    (h9 : P 9 [92, 116]) (h10 : P 10 [92, 110]) (h12 : P 12 [92, 102]) (h13 : P 13 [92, 114])
    (h34 : P 34 [92, 34]) (h92 : P 92 [92, 92]) (hescape : ∀ u, P u (unicodeEscape u))
    (hliteral : ∀ u, u ≠ 34 → u ≠ 92 → ¬u < 32 → isSurrogate u = false → P u [u]) (u : UInt16) :
    P u (quoteUnit u) := by
  unfold quoteUnit
  refine iteInduction (fun h => h ▸ h8) fun _ => iteInduction (fun h => h ▸ h9) fun _ =>
    iteInduction (fun h => h ▸ h10) fun _ => iteInduction (fun h => h ▸ h12) fun _ =>
    iteInduction (fun h => h ▸ h13) fun _ => iteInduction (fun h => h ▸ h34) fun hq =>
    iteInduction (fun h => h ▸ h92) fun hb => iteInduction (fun _ => hescape u) fun hplain => ?_
  simp only [Bool.or_eq_true, decide_eq_true_eq, not_or, Bool.not_eq_true] at hplain
  exact hliteral u hq hb hplain.1 hplain.2

theorem unquote_quoteUnit (u : UInt16) (t : JsString) :
    unquote .plain (quoteUnit u ++ t) = (unquote .plain t).map fun p => (u :: p.1, p.2) := by
  exact quoteUnit_induction
    (P := fun u s => unquote .plain (s ++ t) = (unquote .plain t).map fun p => (u :: p.1, p.2))
    rfl rfl rfl rfl rfl rfl rfl (fun u => unquote_unicodeEscape u t)
    (fun _ hq hb _ _ => unquote_literal hq hb t) u

theorem surrogate_not_quote (h : isSurrogate u = true) : u ≠ 34 ∧ u ≠ 92 := by
  constructor <;> rintro rfl <;> revert h <;> decide

theorem highSurrogate_surrogate (h : isHighSurrogate u = true) : isSurrogate u = true := by
  simp only [isHighSurrogate, isSurrogate, Bool.and_eq_true, decide_eq_true_eq] at h ⊢
  omega

theorem lowSurrogate_surrogate (h : isLowSurrogate u = true) : isSurrogate u = true := by
  simp only [isLowSurrogate, isSurrogate, Bool.and_eq_true, decide_eq_true_eq] at h ⊢
  omega

theorem unquote_quoteUnits (s t : JsString) :
    unquote .plain (quoteUnits s ++ t) = (unquote .plain t).map fun p => (s ++ p.1, p.2) := by
  induction s using quoteUnits.induct with
  | case1 => simp [quoteUnits]
  | case2 u => simpa [quoteUnits] using unquote_quoteUnit u t
  | case3 u v rest hp ih =>
    simp only [Bool.and_eq_true] at hp
    obtain ⟨hu, hu'⟩ := surrogate_not_quote (highSurrogate_surrogate hp.1)
    obtain ⟨hv, hv'⟩ := surrogate_not_quote (lowSurrogate_surrogate hp.2)
    simp only [quoteUnits, hp, Bool.and_self, ↓reduceIte, List.cons_append,
      unquote_literal hu hu', unquote_literal hv hv', ih, Option.map_map]
    rfl
  | case4 u v rest hp ih =>
    simp only [quoteUnits, if_neg hp, List.append_assoc, unquote_quoteUnit, ih, Option.map_map]
    rfl

/-- A quoted string determines its contents and where it ends. -/
theorem jsonString_unique (h : jsonString k ++ r = jsonString l ++ s) : k = l ∧ r = s := by
  simp only [jsonString, List.cons_append, List.append_assoc, List.nil_append, List.cons.injEq,
    true_and] at h
  have he := congrArg (unquote .plain) h
  have hq (t : JsString) : unquote .plain (34 :: t) = some ([], t) := rfl
  simpa only [unquote_quoteUnits, hq, Option.map_some, List.append_nil, Option.some.injEq,
    Prod.mk.injEq] using he

def isDigitUnit (u : UInt16) : Bool := 48 ≤ u.toNat && u.toNat ≤ 57

/-- Numbers have no closing mark: what follows one must not start with a digit. -/
def Stop : JsString → Prop
  | [] => True
  | u :: _ => isDigitUnit u = false

theorem digit_unit {c : Char} (h : c.isDigit = true) :
    isDigitUnit (UInt16.ofNat c.toNat) = true ∧ Char.ofNat (UInt16.ofNat c.toNat).toNat = c := by
  have hd : 48 ≤ c.toNat ∧ c.toNat ≤ 57 := by
    simp only [Char.isDigit, Bool.and_eq_true, decide_eq_true_eq] at h
    exact h
  have he : (UInt16.ofNat c.toNat).toNat = c.toNat := by
    rw [UInt16.toNat_ofNat']
    omega
  refine ⟨?_, ?_⟩
  · simp only [isDigitUnit, he, Bool.and_eq_true, decide_eq_true_eq]
    exact hd
  · rw [he, Char.ofNat_toNat]

theorem natText_digits (n : Nat) : ∀ u ∈ natText n, isDigitUnit u = true := by
  intro u hu
  obtain ⟨c, hc, rfl⟩ := List.mem_map.1 hu
  exact (digit_unit (Nat.isDigit_of_mem_toDigits (by omega) (by omega) hc)).1

theorem natText_chars (n : Nat) :
    (natText n).map (fun u => Char.ofNat u.toNat) = Nat.toDigits 10 n := by
  rw [natText, List.map_map]
  conv_rhs => rw [← List.map_id (Nat.toDigits 10 n)]
  apply List.map_congr_left
  intro c hc
  exact (digit_unit (Nat.isDigit_of_mem_toDigits (by omega) (by omega) hc)).2

theorem natText_injective (h : natText n = natText m) : n = m := by
  have he : Nat.toDigits 10 n = Nat.toDigits 10 m := by
    rw [← natText_chars, ← natText_chars, h]
  rw [← Nat.ofDigitChars_ten_toDigits (n := n), he, Nat.ofDigitChars_ten_toDigits]

theorem natText_ne_nil (n : Nat) : natText n ≠ [] := by
  simp [natText, Nat.toDigits_ne_nil]

theorem digits_unique {d e r s : JsString} (hd : ∀ u ∈ d, isDigitUnit u = true)
    (he : ∀ u ∈ e, isDigitUnit u = true) (hr : Stop r) (hs : Stop s) (h : d ++ r = e ++ s) :
    d = e ∧ r = s := by
  induction d generalizing e with
  | nil =>
    cases e with
    | nil => exact ⟨rfl, h⟩
    | cons v e =>
      simp only [List.nil_append] at h
      rw [h] at hr
      exact (Bool.false_ne_true (hr.symm.trans (he v (by simp)))).elim
  | cons u d ih =>
    cases e with
    | nil =>
      simp only [List.nil_append] at h
      rw [← h] at hs
      exact (Bool.false_ne_true (hs.symm.trans (hd u (by simp)))).elim
    | cons v e =>
      simp only [List.cons_append, List.cons.injEq] at h
      obtain ⟨hde, hrs⟩ := ih (fun u hu => hd u (by simp [hu])) (fun u hu => he u (by simp [hu])) h.2
      exact ⟨by rw [h.1, hde], hrs⟩

theorem natText_unique (hr : Stop r) (hs : Stop s) (h : natText n ++ r = natText m ++ s) :
    n = m ∧ r = s := by
  obtain ⟨ht, he⟩ := digits_unique (natText_digits n) (natText_digits m) hr hs h
  exact ⟨natText_injective ht, he⟩

theorem natText_head (n : Nat) : ∃ u t, natText n = u :: t ∧ isDigitUnit u = true := by
  cases h : natText n with
  | nil => exact (natText_ne_nil n h).elim
  | cons u t => exact ⟨u, t, rfl, natText_digits n u (by simp [h])⟩

theorem intText_unique (hr : Stop r) (hs : Stop s) (h : intText z ++ r = intText w ++ s) :
    z = w ∧ r = s := by
  obtain ⟨u, t, hu, hd⟩ := natText_head z.natAbs
  obtain ⟨v, t', hv, hd'⟩ := natText_head w.natAbs
  have hm : isDigitUnit 45 = false := by decide
  unfold intText at h
  split_ifs at h with hz hw hw
  · simp only [List.cons_append, List.cons.injEq, true_and] at h
    obtain ⟨he, hrs⟩ := natText_unique hr hs h
    exact ⟨by omega, hrs⟩
  · rw [hv] at h
    simp only [List.cons_append, List.cons.injEq] at h
    rw [← h.1, hm] at hd'
    cases hd'
  · rw [hu] at h
    simp only [List.cons_append, List.cons.injEq] at h
    rw [h.1, hm] at hd
    cases hd
  · obtain ⟨he, hrs⟩ := natText_unique hr hs h
    exact ⟨by omega, hrs⟩

/-- What the first unit of an encoding says about the value. -/
def unitClass (u : UInt16) : Nat :=
  if u = 110 then 0 else if u = 116 then 1 else if u = 102 then 2
  else if isDigitUnit u || u = 45 then 3 else if u = 34 then 4 else if u = 91 then 5
  else if u = 123 then 6 else 7

def valueClass : JsValue → Nat
  | .null => 0
  | .undefined => 8
  | .bool true => 1
  | .bool false => 2
  | .num _ => 3
  | .str _ => 4
  | .arr _ => 5
  | .obj _ => 6

mutual
/-- The encoding of a value whose fields are already in order. -/
def encodePlain : JsValue → JsString
  | .null => js "null"
  | .undefined => []
  | .bool b => if b then js "true" else js "false"
  | .num n => intText (n.toInt?.getD 0)
  | .str s => jsonString s
  | .arr items => 91 :: (joinComma (plainItems items) ++ [93])
  | .obj fields => 123 :: (joinComma (plainFields fields) ++ [125])

def plainItems : List JsValue → List JsString
  | [] => []
  | item :: items => encodePlain item :: plainItems items

def plainFields : List (JsString × JsValue) → List JsString
  | [] => []
  | (key, child) :: fields => (jsonString key ++ 58 :: encodePlain child) :: plainFields fields
end

mutual
/-- The values the encoder accepts. -/
def Plain : JsValue → Prop
  | .undefined => False
  | .num n => ∃ z, n = .ofInt z
  | .arr items => PlainItems items
  | .obj fields => PlainFields fields
  | _ => True

def PlainItems : List JsValue → Prop
  | [] => True
  | item :: items => Plain item ∧ PlainItems items

def PlainFields : List (JsString × JsValue) → Prop
  | [] => True
  | (_, child) :: fields => Plain child ∧ PlainFields fields
end

theorem encodePlain_head (h : Plain v) :
    ∃ u t, encodePlain v = u :: t ∧ unitClass u = valueClass v := by
  cases v with
  | null => exact ⟨_, _, rfl, by decide⟩
  | undefined => cases h
  | bool b =>
    cases b with
    | false => exact ⟨_, _, rfl, by decide⟩
    | true => exact ⟨_, _, rfl, by decide⟩
  | num n =>
    obtain ⟨z, rfl⟩ := h
    simp only [encodePlain, JsNumber.toInt?_ofInt, Option.getD_some, intText, valueClass]
    split_ifs with hz
    · exact ⟨_, _, rfl, by decide⟩
    · obtain ⟨u, t, hu, hd⟩ := natText_head z.natAbs
      refine ⟨u, t, hu, ?_⟩
      have hne (w : UInt16) (hw : isDigitUnit w = false) : u ≠ w := by
        rintro rfl
        rw [hw] at hd
        cases hd
      simp only [unitClass, if_neg (hne 110 (by decide)), if_neg (hne 116 (by decide)),
        if_neg (hne 102 (by decide)), hd, Bool.true_or, ↓reduceIte]
  | str s => exact ⟨_, _, rfl, rfl⟩
  | arr items => exact ⟨_, _, rfl, rfl⟩
  | obj fields => exact ⟨_, _, rfl, rfl⟩

theorem encodePlain_class (ha : Plain a) (hb : Plain b)
    (h : encodePlain a ++ r = encodePlain b ++ s) : valueClass a = valueClass b := by
  obtain ⟨u, t, hu, hc⟩ := encodePlain_head ha
  obtain ⟨v, t', hv, hc'⟩ := encodePlain_head hb
  rw [hu, hv] at h
  simp only [List.cons_append, List.cons.injEq] at h
  rw [← hc, ← hc', h.1]

theorem encodePlain_ne (ha : Plain a) (hu : unitClass u = 7) :
    encodePlain a ++ r ≠ u :: s := by
  obtain ⟨v, t, hv, hc⟩ := encodePlain_head ha
  rw [hv]
  simp only [List.cons_append, ne_eq, List.cons.injEq, not_and]
  rintro rfl
  rw [hu] at hc
  cases a <;> simp [valueClass] at hc
  rename_i b
  cases b <;> simp at hc

theorem joinComma_cons (x : JsString) (xs : List JsString) :
    joinComma (x :: xs) = x ++ (match xs with | [] => [] | _ :: _ => 44 :: joinComma xs) := by
  cases xs with
  | nil => simp [joinComma]
  | cons y ys => rfl

theorem stop_comma (hu : isDigitUnit u = false) (xs : List JsString) (r : JsString) :
    Stop ((match xs with | [] => [] | _ :: _ => 44 :: joinComma xs) ++ u :: r) := by
  cases xs with
  | nil => exact hu
  | cons y ys => exact (by decide : isDigitUnit 44 = false)

/-- Values of one class have the same constructor. -/
theorem valueClass_cases (h : valueClass a = valueClass b) :
    (a = .null ∧ b = .null) ∨ (a = .undefined ∧ b = .undefined) ∨
    (∃ c, a = .bool c ∧ b = .bool c) ∨ (∃ n m, a = .num n ∧ b = .num m) ∨
    (∃ k l, a = .str k ∧ b = .str l) ∨ (∃ xs ys, a = .arr xs ∧ b = .arr ys) ∨
    ∃ xs ys, a = .obj xs ∧ b = .obj ys := by
  rcases a with _ | _ | (_ | _) | _ | _ | _ | _ <;> rcases b with _ | _ | (_ | _) | _ | _ | _ | _ <;>
    simp_all [valueClass]

mutual
/-- An encoding determines the value it encodes and where it ends. -/
theorem encodePlain_unique : ∀ (a : JsValue) {b : JsValue} {r s : JsString}, Plain a → Plain b →
    Stop r → Stop s → encodePlain a ++ r = encodePlain b ++ s → a = b ∧ r = s
  | .null, b, r, s, ha, hb, hr, hs, h => by
    have hc := valueClass_cases (encodePlain_class ha hb h)
    simp only [reduceCtorEq, false_and, true_and, or_false, exists_false] at hc
    subst hc
    exact ⟨rfl, List.append_cancel_left h⟩
  | .undefined, b, r, s, ha, hb, hr, hs, h => ha.elim
  | .bool c, b, r, s, ha, hb, hr, hs, h => by
    have hc := valueClass_cases (encodePlain_class ha hb h)
    simp only [reduceCtorEq, false_and, or_false, false_or, exists_false, JsValue.bool.injEq,
      exists_eq_left'] at hc
    subst hc
    exact ⟨rfl, List.append_cancel_left h⟩
  | .num n, b, r, s, ha, hb, hr, hs, h => by
    have hc := valueClass_cases (encodePlain_class ha hb h)
    simp only [reduceCtorEq, false_and, or_false, false_or, exists_false, JsValue.num.injEq,
      exists_and_left, exists_eq_left'] at hc
    obtain ⟨m, rfl⟩ := hc
    obtain ⟨z, rfl⟩ := ha
    obtain ⟨w, rfl⟩ := hb
    simp only [encodePlain, JsNumber.toInt?_ofInt, Option.getD_some] at h
    obtain ⟨he, hrs⟩ := intText_unique hr hs h
    exact ⟨by rw [he], hrs⟩
  | .str k, b, r, s, ha, hb, hr, hs, h => by
    have hc := valueClass_cases (encodePlain_class ha hb h)
    simp only [reduceCtorEq, false_and, or_false, false_or, exists_false, JsValue.str.injEq,
      exists_and_left, exists_eq_left'] at hc
    obtain ⟨l, rfl⟩ := hc
    obtain ⟨he, hrs⟩ := jsonString_unique h
    exact ⟨by rw [he], hrs⟩
  | .arr xs, b, r, s, ha, hb, hr, hs, h => by
    have hc := valueClass_cases (encodePlain_class ha hb h)
    simp only [reduceCtorEq, false_and, or_false, false_or, exists_false, JsValue.arr.injEq,
      exists_and_left, exists_eq_left'] at hc
    obtain ⟨ys, rfl⟩ := hc
    simp only [encodePlain, List.cons_append, List.cons.injEq, true_and, List.append_assoc,
      List.nil_append] at h
    obtain ⟨he, hrs⟩ := plainItems_unique xs ha hb h
    exact ⟨by rw [he], hrs⟩
  | .obj xs, b, r, s, ha, hb, hr, hs, h => by
    have hc := valueClass_cases (encodePlain_class ha hb h)
    simp only [reduceCtorEq, false_and, false_or, exists_false, JsValue.obj.injEq,
      exists_and_left, exists_eq_left'] at hc
    obtain ⟨ys, rfl⟩ := hc
    simp only [encodePlain, List.cons_append, List.cons.injEq, true_and, List.append_assoc,
      List.nil_append] at h
    obtain ⟨he, hrs⟩ := plainFields_unique xs ha hb h
    exact ⟨by rw [he], hrs⟩

theorem plainItems_unique : ∀ (xs : List JsValue) {ys : List JsValue} {r s : JsString},
    PlainItems xs → PlainItems ys →
    joinComma (plainItems xs) ++ 93 :: r = joinComma (plainItems ys) ++ 93 :: s → xs = ys ∧ r = s
  | [], [], r, s, hx, hy, h => by
    simpa only [plainItems, joinComma, List.nil_append, List.cons.injEq, true_and] using h
  | [], y :: ys, r, s, hx, hy, h => by
    simp only [plainItems, joinComma_cons, List.append_assoc] at h
    exact (encodePlain_ne hy.1 (by decide) h.symm).elim
  | x :: xs, [], r, s, hx, hy, h => by
    simp only [plainItems, joinComma_cons, List.append_assoc] at h
    exact (encodePlain_ne hx.1 (by decide) h).elim
  | x :: xs, y :: ys, r, s, hx, hy, h => by
    simp only [plainItems, joinComma_cons, List.append_assoc] at h
    obtain ⟨he, ht⟩ := encodePlain_unique x hx.1 hy.1 (stop_comma (by decide) _ _)
      (stop_comma (by decide) _ _) h
    cases xs with
    | nil =>
      cases ys with
      | nil =>
        simp only [plainItems, List.nil_append, List.cons.injEq, true_and] at ht
        exact ⟨by rw [he], ht⟩
      | cons y' ys => simp [plainItems] at ht
    | cons x' xs =>
      cases ys with
      | nil => simp [plainItems] at ht
      | cons y' ys =>
        simp only [plainItems, List.cons_append, List.cons.injEq, true_and] at ht
        obtain ⟨he', hrs⟩ := plainItems_unique (x' :: xs) hx.2 hy.2 ht
        exact ⟨by rw [he, he'], hrs⟩

theorem plainFields_unique : ∀ (xs : List (JsString × JsValue)) {ys : List (JsString × JsValue)}
    {r s : JsString}, PlainFields xs → PlainFields ys →
    joinComma (plainFields xs) ++ 125 :: r = joinComma (plainFields ys) ++ 125 :: s →
    xs = ys ∧ r = s
  | [], [], r, s, hx, hy, h => by
    simpa only [plainFields, joinComma, List.nil_append, List.cons.injEq, true_and] using h
  | [], (l, y) :: ys, r, s, hx, hy, h => by
    simp [plainFields, joinComma_cons, joinComma, jsonString] at h
  | (k, x) :: xs, [], r, s, hx, hy, h => by
    simp [plainFields, joinComma_cons, joinComma, jsonString] at h
  | (k, x) :: xs, (l, y) :: ys, r, s, hx, hy, h => by
    simp only [plainFields, joinComma_cons, List.append_assoc, List.cons_append] at h
    obtain ⟨hk, h⟩ := jsonString_unique h
    simp only [List.cons.injEq, true_and] at h
    obtain ⟨he, ht⟩ := encodePlain_unique x hx.1 hy.1 (stop_comma (by decide) _ _)
      (stop_comma (by decide) _ _) h
    cases xs with
    | nil =>
      cases ys with
      | nil =>
        simp only [plainFields, List.nil_append, List.cons.injEq, true_and] at ht
        exact ⟨by rw [hk, he], ht⟩
      | cons y' ys => simp [plainFields] at ht
    | cons x' xs =>
      cases ys with
      | nil => simp [plainFields] at ht
      | cons y' ys =>
        simp only [plainFields, List.cons_append, List.cons.injEq, true_and] at ht
        obtain ⟨he', hrs⟩ := plainFields_unique (x' :: xs) hx.2 hy.2 ht
        exact ⟨by rw [hk, he, he'], hrs⟩
end

end Continuity

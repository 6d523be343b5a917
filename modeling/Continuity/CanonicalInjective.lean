import Continuity.CanonicalText

namespace Continuity
set_option autoImplicit true

mutual
/-- The same value with the fields of every object in key order. -/
def normalize : JsValue → JsValue
  | .arr items => .arr (normalizeItems items)
  | .obj fields => .obj (sortKeys (normalizeFields fields))
  | v => v

def normalizeItems : List JsValue → List JsValue
  | [] => []
  | item :: items => normalize item :: normalizeItems items

def normalizeFields : List (JsString × JsValue) → List (JsString × JsValue)
  | [] => []
  | (key, child) :: fields => (key, normalize child) :: normalizeFields fields
end

theorem normalizeFields_eq_map (fields : List (JsString × JsValue)) :
    normalizeFields fields = fields.map fun f => (f.1, normalize f.2) := by
  induction fields with
  | nil => rfl
  | cons f fields ih => rw [normalizeFields, ih, List.map_cons]

/-- What a field contributes: its text, or the error that a missing value throws. -/
def fieldText (f : JsString × JsValue) : Js JsString :=
  match f.2 with
  | .undefined => throw ("TSL canonicalization rejects undefined field: " ++ textOf f.1)
  | child => encodeCanonical child

theorem encodeFields_eq_map (fields : List (JsString × JsValue)) :
    encodeFields fields = fields.map fun f => (f.1, fieldText f) := by
  induction fields with
  | nil => rfl
  | cons f fields ih =>
    obtain ⟨key, child⟩ := f
    cases child <;> simp only [encodeFields, ih, List.map_cons, fieldText]

theorem fieldText_ok (h : fieldText f = .ok t) : encodeCanonical f.2 = .ok t := by
  unfold fieldText at h
  split at h
  · cases h
  · exact h

theorem fieldText_of_ok (h : encodeCanonical v = .ok t) (k : JsString) :
    fieldText (k, v) = .ok t := by
  unfold fieldText
  split
  · next hv => rw [show v = .undefined from hv] at h; cases h
  · exact h

theorem sortKeys_map (f : JsString × α → β) (fields : List (JsString × α)) :
    sortKeys (fields.map fun x => (x.1, f x)) = (sortKeys fields).map fun x => (x.1, f x) := by
  exact (List.map_insertionSort (fun a b : JsString × α => unitsLe a.1 b.1 = true)
    (fun a b : JsString × β => unitsLe a.1 b.1 = true) (fun x => (x.1, f x)) fields
    fun a _ b _ => Iff.rfl).symm

theorem sortKeys_perm (fields : List (JsString × α)) : (sortKeys fields).Perm fields :=
  List.perm_insertionSort _ _

theorem encodeNumber_ok (h : encodeNumber n = .ok t) :
    (∃ z, n = .ofInt z) ∧ intText (n.toInt?.getD 0) = t := by
  unfold encodeNumber at h
  split_ifs at h with hs
  cases n with
  | fin q =>
    refine ⟨⟨q.num, ?_⟩, Except.ok.inj h⟩
    simp only [JsNumber.isSafeInteger, JsNumber.toInt?] at hs
    split_ifs at hs with hd
    · rw [JsNumber.ofInt, Rat.coe_int_num_of_den_eq_one hd]
    · simp at hs
  | negZero => cases h
  | nan => simp [JsNumber.isSafeInteger, JsNumber.toInt?] at hs
  | posInf => simp [JsNumber.isSafeInteger, JsNumber.toInt?] at hs
  | negInf => simp [JsNumber.isSafeInteger, JsNumber.toInt?] at hs

theorem joinFields_ok {fields : List (JsString × JsValue)} {texts : List JsString}
    (hf : ∀ f ∈ fields, ∀ t, encodeCanonical f.2 = .ok t →
      encodePlain (normalize f.2) = t ∧ Plain (normalize f.2))
    (h : joinFields (fields.map fun f => (f.1, fieldText f)) = .ok texts) :
    plainFields (fields.map fun f => (f.1, normalize f.2)) = texts ∧
      PlainFields (fields.map fun f => (f.1, normalize f.2)) := by
  induction fields generalizing texts with
  | nil => exact ⟨Except.ok.inj h, True.intro⟩
  | cons f fields ih =>
    simp only [List.map_cons, joinFields, bind_eq_ok] at h
    obtain ⟨t, ht, rest, hr, he⟩ := h
    obtain ⟨hp, hpl⟩ := hf f (by simp) t (fieldText_ok ht)
    obtain ⟨hp', hpl'⟩ := ih (fun g hg => hf g (by simp [hg])) hr
    cases he
    exact ⟨by simp only [List.map_cons, plainFields, hp, hp'], hpl, hpl'⟩

mutual
/-- The canonical text is the plain text of the value in key order. -/
theorem encodeCanonical_ok : ∀ (v : JsValue) {t : JsString}, encodeCanonical v = .ok t →
    encodePlain (normalize v) = t ∧ Plain (normalize v)
  | .null, t, h => ⟨Except.ok.inj h, True.intro⟩
  | .undefined, t, h => by cases h
  | .bool b, t, h => ⟨Except.ok.inj h, True.intro⟩
  | .num n, t, h => by
    obtain ⟨hz, ht⟩ := encodeNumber_ok (by simpa only [encodeCanonical] using h)
    exact ⟨ht, hz⟩
  | .str s, t, h => ⟨Except.ok.inj h, True.intro⟩
  | .arr items, t, h => by
    simp only [encodeCanonical, bind_eq_ok] at h
    obtain ⟨texts, hi, he⟩ := h
    obtain ⟨hp, hpl⟩ := encodeItems_ok items hi
    cases he
    exact ⟨by simp only [normalize, encodePlain, hp], by simpa only [normalize, Plain] using hpl⟩
  | .obj fields, t, h => by
    simp only [encodeCanonical, bind_eq_ok, encodeFields_eq_map, sortKeys_map] at h
    obtain ⟨texts, hi, he⟩ := h
    have hf : ∀ f ∈ sortKeys fields, ∀ t, encodeCanonical f.2 = .ok t →
        encodePlain (normalize f.2) = t ∧ Plain (normalize f.2) :=
      fun f hf => encodeFields_ok fields f ((sortKeys_perm fields).mem_iff.1 hf)
    obtain ⟨hp, hpl⟩ := joinFields_ok hf hi
    cases he
    rw [normalize, normalizeFields_eq_map, sortKeys_map fun f => normalize f.2]
    exact ⟨by simp only [encodePlain, hp], by simpa only [Plain] using hpl⟩

theorem encodeItems_ok : ∀ (items : List JsValue) {texts : List JsString},
    encodeItems items = .ok texts →
    plainItems (normalizeItems items) = texts ∧ PlainItems (normalizeItems items)
  | [], texts, h => ⟨Except.ok.inj h, True.intro⟩
  | item :: items, texts, h => by
    simp only [encodeItems, bind_eq_ok] at h
    obtain ⟨t, ht, rest, hr, he⟩ := h
    obtain ⟨hp, hpl⟩ := encodeCanonical_ok item ht
    obtain ⟨hp', hpl'⟩ := encodeItems_ok items hr
    cases he
    exact ⟨by simp only [normalizeItems, plainItems, hp, hp'], hpl, hpl'⟩

theorem encodeFields_ok : ∀ (fields : List (JsString × JsValue)), ∀ f ∈ fields, ∀ t,
    encodeCanonical f.2 = .ok t → encodePlain (normalize f.2) = t ∧ Plain (normalize f.2)
  | [], f, hf, t, h => by cases hf
  | (key, child) :: fields, f, hf, t, h => by
    rcases List.mem_cons.1 hf with he | hm
    · rw [he] at h ⊢
      exact encodeCanonical_ok child h
    · exact encodeFields_ok fields f hm t h
end

theorem not_surrogate_of_all {s : JsString} (h : (s.all fun u => !isSurrogate u) = true) :
    ∀ u ∈ s, isSurrogate u = false := by
  intro u hu
  simpa using List.all_eq_true.mp h u hu

theorem quoteUnit_not_surrogate (u : UInt16) : ∀ v ∈ quoteUnit u, isSurrogate v = false := by
  have hx : ∀ n : Fin 16, isSurrogate (hexUnit n) = false := by decide
  refine quoteUnit_induction (P := fun _ s => ∀ v ∈ s, isSurrogate v = false) ?_ ?_ ?_ ?_ ?_ ?_ ?_
    (fun u => ?_) (fun u _ _ _ hs v hv => ?_) u
  iterate 7 exact not_surrogate_of_all (by decide)
  · have hl := u.toNat_lt
    simp only [unicodeEscape, List.mem_cons, List.not_mem_nil, or_false]
    rintro v (rfl | rfl | rfl | rfl | rfl | rfl)
    · decide
    · decide
    · exact hx ⟨u.toNat / 4096, by omega⟩
    · exact hx ⟨u.toNat / 256 % 16, by omega⟩
    · exact hx ⟨u.toNat / 16 % 16, by omega⟩
    · exact hx ⟨u.toNat % 16, by omega⟩
  · rw [List.mem_singleton.mp hv, hs]

theorem quoteUnits_wellFormed (s : JsString) (h : WellFormed t) : WellFormed (quoteUnits s ++ t) := by
  induction s using quoteUnits.induct with
  | case1 => exact h
  | case2 u => exact .append (quoteUnit_not_surrogate u) h
  | case3 u v rest hp ih =>
    simp only [Bool.and_eq_true] at hp
    simpa only [quoteUnits, hp, Bool.and_self, ↓reduceIte, List.cons_append] using ih.pair hp.1 hp.2
  | case4 u v rest hp ih =>
    simpa only [quoteUnits, if_neg hp, List.append_assoc] using
      WellFormed.append (quoteUnit_not_surrogate u) ih

theorem jsonString_wellFormed (s : JsString) (h : WellFormed t) : WellFormed (jsonString s ++ t) := by
  simp only [jsonString, List.cons_append, List.append_assoc, List.nil_append]
  exact .cons_of_not_surrogate (by decide)
    (quoteUnits_wellFormed s (.cons_of_not_surrogate (by decide) h))

theorem digit_not_surrogate (h : isDigitUnit u = true) : isSurrogate u = false := by
  simp only [isDigitUnit, isSurrogate, Bool.and_eq_true, decide_eq_true_eq, Bool.and_eq_false_iff,
    decide_eq_false_iff_not] at h ⊢
  omega

theorem intText_wellFormed (z : Int) (h : WellFormed t) : WellFormed (intText z ++ t) := by
  have hn := WellFormed.append (fun u hu => digit_not_surrogate (natText_digits z.natAbs u hu)) h
  unfold intText
  split_ifs
  · exact .cons_of_not_surrogate (by decide) hn
  · exact hn

theorem joinComma_wellFormed (hx : ∀ x ∈ xs, ∀ t, WellFormed t → WellFormed (x ++ t))
    (h : WellFormed t) : WellFormed (joinComma xs ++ t) := by
  induction xs with
  | nil => exact h
  | cons x xs ih =>
    have hxs := ih fun y hy => hx y (by simp [hy])
    rw [joinComma_cons, List.append_assoc]
    apply hx x (by simp)
    cases xs with
    | nil => exact h
    | cons y ys => exact .cons_of_not_surrogate (by decide) hxs

mutual
theorem encodePlain_wellFormed : ∀ (v : JsValue) {t : JsString}, WellFormed t →
    WellFormed (encodePlain v ++ t)
  | .null, t, h => .append (not_surrogate_of_all (by decide)) h
  | .undefined, t, h => h
  | .bool b, t, h => by
    cases b with
    | false => exact .append (not_surrogate_of_all (by decide)) h
    | true => exact .append (not_surrogate_of_all (by decide)) h
  | .num n, t, h => intText_wellFormed _ h
  | .str s, t, h => jsonString_wellFormed s h
  | .arr items, t, h => by
    simp only [encodePlain, List.cons_append, List.append_assoc, List.nil_append]
    exact .cons_of_not_surrogate (by decide)
      (joinComma_wellFormed (plainItems_wellFormed items) (.cons_of_not_surrogate (by decide) h))
  | .obj fields, t, h => by
    simp only [encodePlain, List.cons_append, List.append_assoc, List.nil_append]
    exact .cons_of_not_surrogate (by decide)
      (joinComma_wellFormed (plainFields_wellFormed fields) (.cons_of_not_surrogate (by decide) h))

theorem plainItems_wellFormed : ∀ (items : List JsValue), ∀ x ∈ plainItems items, ∀ t,
    WellFormed t → WellFormed (x ++ t)
  | [], x, hx, t, h => by cases hx
  | item :: items, x, hx, t, h => by
    rcases List.mem_cons.1 hx with he | hm
    · rw [he]; exact encodePlain_wellFormed item h
    · exact plainItems_wellFormed items x hm t h

theorem plainFields_wellFormed : ∀ (fields : List (JsString × JsValue)), ∀ x ∈ plainFields fields,
    ∀ t, WellFormed t → WellFormed (x ++ t)
  | [], x, hx, t, h => by cases hx
  | (key, child) :: fields, x, hx, t, h => by
    rcases List.mem_cons.1 hx with he | hm
    · rw [he, List.append_assoc, List.cons_append]
      exact jsonString_wellFormed key
        (.cons_of_not_surrogate (by decide) (encodePlain_wellFormed child h))
    · exact plainFields_wellFormed fields x hm t h
end

mutual
/-- The values that have a canonical text. -/
def Encodable : JsValue → Prop
  | .undefined => False
  | .num n => n.isSafeInteger = true ∧ n ≠ .negZero
  | .arr items => EncodableItems items
  | .obj fields => EncodableFields fields
  | _ => True

def EncodableItems : List JsValue → Prop
  | [] => True
  | item :: items => Encodable item ∧ EncodableItems items

def EncodableFields : List (JsString × JsValue) → Prop
  | [] => True
  | (_, child) :: fields => Encodable child ∧ EncodableFields fields
end

theorem encodable_ofNat (h : n < 2 ^ 53) : Encodable (.num (.ofNat n)) := by
  refine ⟨?_, by simp [JsNumber.ofNat]⟩
  simpa [JsNumber.isSafeInteger] using h

theorem encodableFields_iff {fields : List (JsString × JsValue)} :
    EncodableFields fields ↔ ∀ f ∈ fields, Encodable f.2 := by
  induction fields with
  | nil => simp [EncodableFields]
  | cons f fields ih => simp [EncodableFields, ih]

theorem encodableItems_iff {items : List JsValue} :
    EncodableItems items ↔ ∀ item ∈ items, Encodable item := by
  induction items with
  | nil => simp [EncodableItems]
  | cons item items ih => simp [EncodableItems, ih]

theorem encodeNumber_total (hs : n.isSafeInteger = true) (hn : n ≠ .negZero) :
    ∃ t, encodeNumber n = .ok t := by
  unfold encodeNumber
  rw [hs]
  cases n with
  | negZero => exact (hn rfl).elim
  | _ => exact ⟨_, rfl⟩

theorem joinFields_total {fields : List (JsString × JsValue)}
    (h : ∀ f ∈ fields, ∃ t, encodeCanonical f.2 = .ok t) :
    ∃ texts, joinFields (fields.map fun f => (f.1, fieldText f)) = .ok texts := by
  induction fields with
  | nil => exact ⟨[], rfl⟩
  | cons f fields ih =>
    obtain ⟨t, ht⟩ := h f (by simp)
    obtain ⟨texts, hr⟩ := ih fun g hg => h g (by simp [hg])
    refine ⟨(jsonString f.1 ++ 58 :: t) :: texts, ?_⟩
    simp only [List.map_cons, joinFields, fieldText_of_ok ht, hr]
    rfl

mutual
/-- The encoder does not throw on an encodable value. -/
theorem encodeCanonical_total : ∀ v : JsValue, Encodable v → ∃ t, encodeCanonical v = .ok t
  | .null, _ => ⟨_, rfl⟩
  | .bool _, _ => ⟨_, rfl⟩
  | .num _, h => by
    simp only [encodeCanonical]
    exact encodeNumber_total h.1 h.2
  | .str _, _ => ⟨_, rfl⟩
  | .arr items, h => by
    obtain ⟨texts, ht⟩ := encodeItems_total items h
    refine ⟨91 :: (joinComma texts ++ [93]), ?_⟩
    simp only [encodeCanonical, ht]
    rfl
  | .obj fields, h => by
    have hf := encodeFields_total fields h
    obtain ⟨texts, ht⟩ := joinFields_total
      fun f hm => hf f ((sortKeys_perm fields).mem_iff.1 hm)
    refine ⟨123 :: (joinComma texts ++ [125]), ?_⟩
    simp only [encodeCanonical, encodeFields_eq_map, sortKeys_map, ht]
    rfl

theorem encodeItems_total : ∀ items : List JsValue, EncodableItems items →
    ∃ texts, encodeItems items = .ok texts
  | [], _ => ⟨[], rfl⟩
  | item :: items, h => by
    obtain ⟨t, ht⟩ := encodeCanonical_total item h.1
    obtain ⟨texts, hr⟩ := encodeItems_total items h.2
    refine ⟨t :: texts, ?_⟩
    simp only [encodeItems, ht, hr]
    rfl

theorem encodeFields_total : ∀ fields : List (JsString × JsValue), EncodableFields fields →
    ∀ f ∈ fields, ∃ t, encodeCanonical f.2 = .ok t
  | [], _, f, hf => by cases hf
  | (key, child) :: fields, h, f, hf => by
    rcases List.mem_cons.1 hf with he | hm
    · rw [he]
      exact encodeCanonical_total child h.1
    · exact encodeFields_total fields h.2 f hm
end

theorem canonicalBytes_total (h : Encodable v) : ∃ bytes, canonicalBytes v = .ok bytes := by
  obtain ⟨t, ht⟩ := encodeCanonical_total v h
  refine ⟨textEncode t, ?_⟩
  simp only [canonicalBytes, canonicalize, ht]
  rfl

theorem joinFields_mem (h : joinFields entries = .ok texts) :
    ∀ entry ∈ entries, ∃ t, entry.2 = .ok t := by
  induction entries generalizing texts with
  | nil =>
    intro entry hm
    cases hm
  | cons first entries ih =>
    simp only [joinFields, bind_eq_ok] at h
    obtain ⟨t, ht, rest, hr, -⟩ := h
    intro entry hm
    rcases List.mem_cons.1 hm with rfl | hm
    · exact ⟨t, ht⟩
    · exact ih hr entry hm

mutual
/-- The encoder throws on every value that is not encodable. -/
theorem encodable_of_ok : ∀ v : JsValue, ∀ {t : JsString}, encodeCanonical v = .ok t → Encodable v
  | .null, _, _ => True.intro
  | .undefined, _, h => by cases h
  | .bool _, _, _ => True.intro
  | .num n, _, h => by
    simp only [encodeCanonical, encodeNumber] at h
    split at h
    · cases h
    · next hs =>
      refine ⟨by simpa using hs, ?_⟩
      rintro rfl
      cases h
  | .str _, _, _ => True.intro
  | .arr items, _, h => by
    simp only [encodeCanonical] at h
    obtain ⟨texts, hi, -⟩ := bind_eq_ok.mp h
    exact encodableItems_of_ok items hi
  | .obj fields, _, h => by
    simp only [encodeCanonical, encodeFields_eq_map, sortKeys_map] at h
    obtain ⟨texts, hj, -⟩ := bind_eq_ok.mp h
    apply encodableFields_of_ok fields
    intro f hf
    have hmem := List.mem_map_of_mem (f := fun f => (f.1, fieldText f))
      ((sortKeys_perm fields).mem_iff.2 hf)
    exact joinFields_mem hj _ hmem

theorem encodableItems_of_ok : ∀ items : List JsValue, ∀ {texts : List JsString},
    encodeItems items = .ok texts → EncodableItems items
  | [], _, _ => True.intro
  | item :: items, _, h => by
    simp only [encodeItems, bind_eq_ok] at h
    obtain ⟨t, ht, rest, hr, -⟩ := h
    exact ⟨encodable_of_ok item ht, encodableItems_of_ok items hr⟩

theorem encodableFields_of_ok : ∀ fields : List (JsString × JsValue),
    (∀ f ∈ fields, ∃ t, fieldText f = .ok t) → EncodableFields fields
  | [], _ => True.intro
  | (key, child) :: fields, h => by
    obtain ⟨t, ht⟩ := h (key, child) List.mem_cons_self
    exact ⟨encodable_of_ok child (fieldText_ok ht),
      encodableFields_of_ok fields fun f hf => h f (List.mem_cons_of_mem _ hf)⟩
end

theorem canonicalBytes_encodable (h : canonicalBytes v = .ok bytes) : Encodable v := by
  obtain ⟨text, ht, -⟩ := bind_eq_ok.mp h
  exact encodable_of_ok v ht

/-- An object with an undefined field has no canonical bytes. -/
theorem canonicalBytes_defined (h : canonicalBytes (.obj fields) = .ok bytes) :
    ∀ f ∈ fields, f.2 ≠ .undefined := by
  have he : EncodableFields fields := canonicalBytes_encodable h
  intro f hf hu
  have hchild := encodableFields_iff.mp he f hf
  rw [hu] at hchild
  exact hchild

/-- Values with the same canonical text are equal up to the order of their fields. -/
theorem canonicalize_unique (ha : canonicalize a = .ok t) (hb : canonicalize b = .ok t) :
    normalize a = normalize b := by
  obtain ⟨hp, hpl⟩ := encodeCanonical_ok a ha
  obtain ⟨hp', hpl'⟩ := encodeCanonical_ok b hb
  have he : encodePlain (normalize a) ++ [] = encodePlain (normalize b) ++ [] := by
    rw [hp, hp']
  have hn : Stop [] := True.intro
  exact (encodePlain_unique _ hpl hpl' hn hn he).1

/-- Values with the same canonical bytes are equal up to the order of their fields. -/
theorem canonicalBytes_unique (ha : canonicalBytes a = .ok t) (hb : canonicalBytes b = .ok t) :
    normalize a = normalize b := by
  simp only [canonicalBytes, bind_eq_ok] at ha hb
  obtain ⟨s, hs, he⟩ := ha
  obtain ⟨s', hs', he'⟩ := hb
  have hw : WellFormed s := by
    rw [← (encodeCanonical_ok a hs).1, ← List.append_nil (encodePlain _)]
    exact encodePlain_wellFormed _ True.intro
  have hw' : WellFormed s' := by
    rw [← (encodeCanonical_ok b hs').1, ← List.append_nil (encodePlain _)]
    exact encodePlain_wellFormed _ True.intro
  have hb : textEncode s = textEncode s' := Except.ok.inj (he.trans he'.symm)
  rw [textEncode_injective hw hw' hb] at hs
  exact canonicalize_unique hs hs'

/-- Objects with the same canonical bytes agree on a field that each of them has once. -/
theorem canonicalBytes_field (ha : canonicalBytes (.obj a) = .ok t)
    (hb : canonicalBytes (.obj b) = .ok t) (hka : a.filter (fun f => f.1 == key) = [(key, v)])
    (hkb : b.filter (fun f => f.1 == key) = [(key, w)]) : normalize v = normalize w := by
  have hn := canonicalBytes_unique ha hb
  simp only [normalize, normalizeFields_eq_map, JsValue.obj.injEq] at hn
  have hp := sortKeys_perm (a.map fun f : JsString × JsValue => (f.1, normalize f.2))
  rw [hn] at hp
  replace hp := hp.symm.trans (sortKeys_perm _)
  have hf := hp.filter fun f => f.1 == key
  simp only [List.filter_map, Function.comp_def, hka, hkb, List.map_cons, List.map_nil,
    List.singleton_perm_singleton, Prod.mk.injEq, true_and] at hf
  exact hf

end Continuity

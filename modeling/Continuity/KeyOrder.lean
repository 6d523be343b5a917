import Mathlib.Data.List.Perm.Basic
import Continuity.CanonicalInjective

namespace Continuity
set_option autoImplicit true

section Sorting

variable {κ : Type u} {α : Type v} {r : κ → κ → Prop} [DecidableRel r]

/-- Entries with distinct keys have one order: sorting forgets how they stood before. -/
theorem insertionSort_keys_perm (ht : ∀ a b, r a b ∨ r b a)
    (htr : ∀ a b c, r a b → r b c → r a c) (ha : ∀ a b, r a b → r b a → a = b)
    {l l' : List (κ × α)} (hk : (l.map Prod.fst).Nodup) (h : l.Perm l') :
    l.insertionSort (fun a b => r a.1 b.1) = l'.insertionSort fun a b => r a.1 b.1 := by
  have hp (l : List (κ × α)) : (l.insertionSort fun a b => r a.1 b.1).Perm l :=
    List.perm_insertionSort _ _
  have hs (l : List (κ × α)) :
      (l.insertionSort fun a b => r a.1 b.1).Pairwise fun a b => r a.1 b.1 := by
    have : Std.Total fun a b : κ × α => r a.1 b.1 := ⟨fun a b => ht a.1 b.1⟩
    have : IsTrans (κ × α) fun a b => r a.1 b.1 := ⟨fun a b c => htr a.1 b.1 c.1⟩
    exact List.pairwise_insertionSort _ _
  refine List.Perm.eq_of_pairwise ?_ (hs l) (hs l') ((hp l).trans (h.trans (hp l').symm))
  intro a b hm hm' hab hba
  have hmem : a ∈ l := (hp l).mem_iff.mp hm
  have hmem' : b ∈ l := h.mem_iff.mpr ((hp l').mem_iff.mp hm')
  exact List.inj_on_of_nodup_map hk hmem hmem' (ha _ _ hab hba)

/-- The lexicographic order of two sequences of numbers. -/
def numbersLe : List Nat → List Nat → Bool
  | [], _ => true
  | _ :: _, [] => false
  | a :: as, b :: bs => a < b || (a == b && numbersLe as bs)

theorem numbersLe_cons :
    numbersLe (n :: a) (m :: b) = true ↔ n < m ∨ n = m ∧ numbersLe a b = true := by
  simp only [numbersLe, Bool.or_eq_true, decide_eq_true_eq, Bool.and_eq_true, beq_iff_eq]

theorem numbersLe_total (a b : List Nat) : numbersLe a b = true ∨ numbersLe b a = true := by
  induction a generalizing b with
  | nil => exact .inl rfl
  | cons n a ih =>
    cases b with
    | nil => exact .inr rfl
    | cons m b =>
      rw [numbersLe_cons, numbersLe_cons]
      rcases Nat.lt_trichotomy n m with h | rfl | h
      · exact .inl (.inl h)
      · exact (ih b).imp (fun hb => .inr ⟨rfl, hb⟩) fun hb => .inr ⟨rfl, hb⟩
      · exact .inr (.inl h)

theorem numbersLe_trans (a b c : List Nat) (hab : numbersLe a b = true)
    (hbc : numbersLe b c = true) : numbersLe a c = true := by
  induction a generalizing b c with
  | nil => rfl
  | cons n a ih =>
    cases b with
    | nil => cases hab
    | cons m b =>
      cases c with
      | nil => cases hbc
      | cons k c =>
        rw [numbersLe_cons] at hab hbc ⊢
        rcases hab with h | ⟨rfl, h⟩
        · omega
        · exact hbc.imp id fun h' => ⟨h'.1, ih b c h h'.2⟩

theorem numbersLe_antisymm (a b : List Nat) (hab : numbersLe a b = true)
    (hba : numbersLe b a = true) : a = b := by
  induction a generalizing b with
  | nil =>
    cases b with
    | nil => rfl
    | cons m b => cases hba
  | cons n a ih =>
    cases b with
    | nil => cases hab
    | cons m b =>
      rw [numbersLe_cons] at hab hba
      rcases hab with h | ⟨rfl, h⟩
      · omega
      · rcases hba with h' | ⟨-, h'⟩
        · omega
        · rw [ih b h h']

end Sorting

theorem unitsLe_eq (a b : JsString) :
    unitsLe a b = numbersLe (a.map UInt16.toNat) (b.map UInt16.toNat) := by
  induction a generalizing b with
  | nil => rfl
  | cons u a ih =>
    cases b with
    | nil => rfl
    | cons v b =>
      have hu : (u == v) = (u.toNat == v.toNat) := by
        rw [Bool.eq_iff_iff, beq_iff_eq, beq_iff_eq, UInt16.toNat_inj]
      simp only [unitsLe, List.map_cons, numbersLe, ih, hu, UInt16.lt_iff_toNat_lt]

theorem unitsLe_total (a b : JsString) : unitsLe a b = true ∨ unitsLe b a = true := by
  simp only [unitsLe_eq]
  exact numbersLe_total _ _

theorem unitsLe_trans (a b c : JsString) (hab : unitsLe a b = true) (hbc : unitsLe b c = true) :
    unitsLe a c = true := by
  rw [unitsLe_eq] at hab hbc ⊢
  exact numbersLe_trans _ _ _ hab hbc

theorem unitsLe_antisymm (a b : JsString) (hab : unitsLe a b = true) (hba : unitsLe b a = true) :
    a = b := by
  rw [unitsLe_eq] at hab hba
  have he := numbersLe_antisymm _ _ hab hba
  exact List.map_injective_iff.mpr (fun u v h => UInt16.toNat_inj.mp h) he

theorem sortKeys_eq_of_perm {l l' : List (JsString × α)} (hk : (l.map Prod.fst).Nodup)
    (h : l.Perm l') : sortKeys l = sortKeys l' :=
  insertionSort_keys_perm (r := fun a b => unitsLe a b = true) unitsLe_total
    unitsLe_trans unitsLe_antisymm hk h

mutual
/-- Two values that differ only in the order of the keys of their objects, at any depth. -/
inductive SameValue : JsValue → JsValue → Prop
  | null : SameValue .null .null
  | undefined : SameValue .undefined .undefined
  | bool : SameValue (.bool b) (.bool b)
  | num : SameValue (.num n) (.num n)
  | str : SameValue (.str s) (.str s)
  | arr : SameItems xs ys → SameValue (.arr xs) (.arr ys)
  | obj : SameFields xs zs → zs.Perm ys → SameValue (.obj xs) (.obj ys)

inductive SameItems : List JsValue → List JsValue → Prop
  | nil : SameItems [] []
  | cons : SameValue x y → SameItems xs ys → SameItems (x :: xs) (y :: ys)

/-- The same keys in the same order, with values that differ only in key order. -/
inductive SameFields : JsObject → JsObject → Prop
  | nil : SameFields [] []
  | cons : SameValue x y → SameFields xs ys → SameFields ((k, x) :: xs) ((k, y) :: ys)
end

mutual
/-- No object of the value has a key twice. -/
def UniqueKeys : JsValue → Prop
  | .arr items => UniqueItems items
  | .obj fields => (fields.map Prod.fst).Nodup ∧ UniqueFields fields
  | _ => True

def UniqueItems : List JsValue → Prop
  | [] => True
  | item :: items => UniqueKeys item ∧ UniqueItems items

def UniqueFields : JsObject → Prop
  | [] => True
  | (_, child) :: fields => UniqueKeys child ∧ UniqueFields fields
end

theorem uniqueFields_iff {fields : JsObject} :
    UniqueFields fields ↔ ∀ f ∈ fields, UniqueKeys f.2 := by
  induction fields with
  | nil => simp [UniqueFields]
  | cons f fields ih => simp [UniqueFields, ih]

theorem normalizeFields_keys (fields : JsObject) :
    (normalizeFields fields).map Prod.fst = fields.map Prod.fst := by
  rw [normalizeFields_eq_map, List.map_map]
  rfl

theorem normalizeFields_perm {xs ys : JsObject} (h : xs.Perm ys) :
    (normalizeFields xs).Perm (normalizeFields ys) := by
  rw [normalizeFields_eq_map, normalizeFields_eq_map]
  exact h.map _

theorem sortKeys_keys_nodup {fields : List (JsString × α)} (h : (fields.map Prod.fst).Nodup) :
    ((sortKeys fields).map Prod.fst).Nodup :=
  ((sortKeys_perm fields).map _).nodup_iff.mpr h

mutual
/-- Sorting the keys of every object makes such values equal. -/
theorem SameValue.normalize_eq : SameValue a b → UniqueKeys b → normalize a = normalize b
  | .null, _ => rfl
  | .undefined, _ => rfl
  | .bool, _ => rfl
  | .num, _ => rfl
  | .str, _ => rfl
  | .arr h, hb => by
    simp only [normalize, h.normalize_eq hb]
  | @SameValue.obj _ zs _ h hp, hb => by
    have hu : UniqueFields zs :=
      uniqueFields_iff.mpr fun f hf => uniqueFields_iff.mp hb.2 f (hp.mem_iff.mp hf)
    have hk : ((normalizeFields zs).map Prod.fst).Nodup := by
      rw [normalizeFields_keys]
      exact (hp.map Prod.fst).nodup_iff.mpr hb.1
    simp only [normalize, h.normalize_eq hu, sortKeys_eq_of_perm hk (normalizeFields_perm hp)]

theorem SameItems.normalize_eq : SameItems xs ys → UniqueItems ys →
    normalizeItems xs = normalizeItems ys
  | .nil, _ => rfl
  | .cons h hs, hb => by
    simp only [normalizeItems, h.normalize_eq hb.1, hs.normalize_eq hb.2]

theorem SameFields.normalize_eq : SameFields xs ys → UniqueFields ys →
    normalizeFields xs = normalizeFields ys
  | .nil, _ => rfl
  | .cons h hs, hb => by
    simp only [normalizeFields, h.normalize_eq hb.1, hs.normalize_eq hb.2]
end

/-- A list whose images are a permutation of other images can be put in their order. -/
theorem exists_perm_of_map_perm {f : α → β} {xs ys : List α} (h : (xs.map f).Perm (ys.map f)) :
    ∃ zs : List α, xs.map f = zs.map f ∧ zs.Perm ys := by
  have hy : List.Forall₂ (fun b a => b = f a) (ys.map f) ys := by
    rw [List.forall₂_map_left_iff]
    exact List.forall₂_same.mpr fun _ _ => rfl
  obtain ⟨zs, hz, hp⟩ := List.perm_comp_forall₂ h hy
  rw [← List.forall₂_map_right_iff (R := Eq), List.forall₂_eq_eq_eq] at hz
  exact ⟨zs, hz, hp⟩

mutual
/-- Values that are equal once their keys are sorted differ only in key order. -/
theorem sameValue_of_normalize : ∀ (a : JsValue) {b : JsValue},
    normalize a = normalize b → SameValue a b
  | .null, b, h => by
    cases b <;> first | exact .null | cases h
  | .undefined, b, h => by
    cases b <;> first | exact .undefined | cases h
  | .bool _, b, h => by
    cases b <;> cases h
    exact .bool
  | .num _, b, h => by
    cases b <;> cases h
    exact .num
  | .str _, b, h => by
    cases b <;> cases h
    exact .str
  | .arr xs, b, h => by
    cases b with
    | arr ys =>
      simp only [normalize, JsValue.arr.injEq] at h
      exact .arr (sameItems_of_normalize xs h)
    | _ => cases h
  | .obj xs, b, h => by
    cases b with
    | obj ys =>
      simp only [normalize, normalizeFields_eq_map, JsValue.obj.injEq] at h
      have hp := (sortKeys_perm (xs.map fun f => (f.1, normalize f.2))).symm
      rw [h] at hp
      replace hp := hp.trans (sortKeys_perm _)
      obtain ⟨zs, hz, hzs⟩ := exists_perm_of_map_perm hp
      rw [← normalizeFields_eq_map, ← normalizeFields_eq_map] at hz
      exact .obj (sameFields_of_normalize xs hz) hzs
    | _ => cases h

theorem sameItems_of_normalize : ∀ (xs : List JsValue) {ys : List JsValue},
    normalizeItems xs = normalizeItems ys → SameItems xs ys
  | [], [], _ => .nil
  | [], _ :: _, h => by cases h
  | _ :: _, [], h => by cases h
  | x :: xs, y :: ys, h => by
    simp only [normalizeItems, List.cons.injEq] at h
    exact .cons (sameValue_of_normalize x h.1) (sameItems_of_normalize xs h.2)

theorem sameFields_of_normalize : ∀ (xs : JsObject) {ys : JsObject},
    normalizeFields xs = normalizeFields ys → SameFields xs ys
  | [], [], _ => .nil
  | [], _ :: _, h => by cases h
  | _ :: _, [], h => by cases h
  | (k, x) :: xs, (l, y) :: ys, h => by
    simp only [normalizeFields, List.cons.injEq, Prod.mk.injEq] at h
    obtain ⟨⟨rfl, hv⟩, hs⟩ := h
    exact .cons (sameValue_of_normalize x hv) (sameFields_of_normalize xs hs)
end

theorem sameValue_iff (hb : UniqueKeys b) : SameValue a b ↔ normalize a = normalize b :=
  ⟨fun h => h.normalize_eq hb, sameValue_of_normalize a⟩

theorem sortKeys_sortKeys (fields : List (JsString × α)) :
    sortKeys (sortKeys fields) = sortKeys fields := by
  have : Std.Total fun a b : JsString × α => unitsLe a.1 b.1 = true :=
    ⟨fun a b => unitsLe_total a.1 b.1⟩
  have : IsTrans (JsString × α) fun a b => unitsLe a.1 b.1 = true :=
    ⟨fun a b c => unitsLe_trans a.1 b.1 c.1⟩
  exact (List.pairwise_insertionSort _ fields).insertionSort_eq

mutual
theorem normalize_normalize : ∀ a : JsValue, normalize (normalize a) = normalize a
  | .null => rfl
  | .undefined => rfl
  | .bool _ => rfl
  | .num _ => rfl
  | .str _ => rfl
  | .arr items => by
    simp only [normalize, normalizeItems_normalizeItems items]
  | .obj fields => by
    rw [normalize, normalize, normalizeFields_eq_map, sortKeys_map fun f => normalize f.2,
      sortKeys_sortKeys, JsValue.obj.injEq]
    conv_rhs => rw [← List.map_id (sortKeys _)]
    apply List.map_congr_left
    intro f hf
    rw [normalize_of_mem fields f ((sortKeys_perm _).mem_iff.mp hf)]
    rfl

theorem normalizeItems_normalizeItems : ∀ items : List JsValue,
    normalizeItems (normalizeItems items) = normalizeItems items
  | [] => rfl
  | item :: items => by
    simp only [normalizeItems, normalize_normalize item, normalizeItems_normalizeItems items]

theorem normalize_of_mem : ∀ fields : JsObject, ∀ f ∈ normalizeFields fields,
    normalize f.2 = f.2
  | [], f, hf => by cases hf
  | (key, child) :: fields, f, hf => by
    rcases List.mem_cons.mp hf with rfl | hm
    · exact normalize_normalize child
    · exact normalize_of_mem fields f hm
end

mutual
theorem uniqueKeys_normalize : ∀ a : JsValue, UniqueKeys a → UniqueKeys (normalize a)
  | .null, _ => True.intro
  | .undefined, _ => True.intro
  | .bool _, _ => True.intro
  | .num _, _ => True.intro
  | .str _, _ => True.intro
  | .arr items, h => uniqueItems_normalize items h
  | .obj fields, h => by
    refine ⟨sortKeys_keys_nodup ?_, uniqueFields_iff.mpr ?_⟩
    · rw [normalizeFields_keys]
      exact h.1
    · intro f hf
      exact uniqueFields_normalize fields h.2 f ((sortKeys_perm _).mem_iff.mp hf)

theorem uniqueItems_normalize : ∀ items : List JsValue, UniqueItems items →
    UniqueItems (normalizeItems items)
  | [], _ => True.intro
  | item :: items, h => ⟨uniqueKeys_normalize item h.1, uniqueItems_normalize items h.2⟩

theorem uniqueFields_normalize : ∀ fields : JsObject, UniqueFields fields →
    ∀ f ∈ normalizeFields fields, UniqueKeys f.2
  | [], _, f, hf => by cases hf
  | (key, child) :: fields, h, f, hf => by
    rcases List.mem_cons.mp hf with rfl | hm
    · exact uniqueKeys_normalize child h.1
    · exact uniqueFields_normalize fields h.2 f hm
end

theorem canonicalize_eq (h : Encodable a) : canonicalize a = .ok (encodePlain (normalize a)) := by
  obtain ⟨t, ht⟩ := encodeCanonical_total a h
  rw [canonicalize, ht, (encodeCanonical_ok a ht).1]

mutual
theorem encodable_normalize : ∀ v : JsValue, Encodable (normalize v) ↔ Encodable v
  | .null => Iff.rfl
  | .undefined => Iff.rfl
  | .bool _ => Iff.rfl
  | .num _ => Iff.rfl
  | .str _ => Iff.rfl
  | .arr items => encodableItems_normalize items
  | .obj fields => by
    rw [normalize, Encodable, Encodable, encodableFields_iff, ← encodableFields_normalize fields,
      encodableFields_iff]
    exact forall_congr' fun f => imp_congr_left (sortKeys_perm _).mem_iff

theorem encodableItems_normalize : ∀ items : List JsValue,
    EncodableItems (normalizeItems items) ↔ EncodableItems items
  | [] => Iff.rfl
  | item :: items => and_congr (encodable_normalize item) (encodableItems_normalize items)

theorem encodableFields_normalize : ∀ fields : JsObject,
    EncodableFields (normalizeFields fields) ↔ EncodableFields fields
  | [] => Iff.rfl
  | (_, child) :: fields =>
    and_congr (encodable_normalize child) (encodableFields_normalize fields)
end

/-- Values that differ only in key order have the same canonical bytes. -/
theorem canonicalBytes_congr (ha : Encodable a) (h : normalize a = normalize b) :
    canonicalBytes b = canonicalBytes a := by
  have hb : Encodable b := by
    rw [← encodable_normalize, ← h, encodable_normalize]
    exact ha
  rw [canonicalBytes, canonicalBytes, canonicalize_eq ha, canonicalize_eq hb, h]

theorem mem_sortStrings : x ∈ sortStrings xs ↔ x ∈ xs := by
  rw [sortStrings, List.mem_insertionSort]

theorem sortStrings_sorted (texts : List JsString) :
    (sortStrings texts).Pairwise fun a b => unitsLe a b = true := by
  have htotal : Std.Total fun a b : JsString => unitsLe a b = true := ⟨unitsLe_total⟩
  have htrans : IsTrans JsString fun a b => unitsLe a b = true := ⟨unitsLe_trans⟩
  exact List.pairwise_insertionSort _ texts

theorem sortStrings_perm (h : xs.Perm ys) : sortStrings xs = sortStrings ys := by
  have hanti : Std.Antisymm fun a b : JsString => unitsLe a b = true := ⟨unitsLe_antisymm⟩
  exact List.Perm.eq_of_pairwise' (sortStrings_sorted xs) (sortStrings_sorted ys)
    ((List.perm_insertionSort _ xs).trans (h.trans (List.perm_insertionSort _ ys).symm))

end Continuity

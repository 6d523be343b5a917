import Mathlib.Data.List.Sort

namespace GuidedLoops
set_option autoImplicit true

/-! Loops compared step by step, and loops that look for the first item of an order. -/

section Lockstep

variable {S A B : Type} {step other : S → A → S} {good : S → A → Prop} {s : S} {items : List A}

/-- Every step of a loop starts from a state that is good for its item. -/
def Along (step : S → A → S) (good : S → A → Prop) : S → List A → Prop
  | _, [] => True
  | s, item :: items => good s item ∧ Along step good (step s item) items

instance Along.decidable (step : S → A → S) (good : S → A → Prop)
    [∀ s item, Decidable (good s item)] :
    (s : S) → (items : List A) → Decidable (Along step good s items)
  | _, [] => .isTrue trivial
  | s, item :: items =>
    have := Along.decidable step good (step s item) items
    inferInstanceAs (Decidable (good s item ∧ Along step good (step s item) items))

theorem Along.of_forall (h : ∀ s, ∀ item ∈ items, good s item) : Along step good s items := by
  induction items generalizing s with
  | nil => trivial
  | cons item items ih =>
    exact ⟨h s item List.mem_cons_self, ih fun s i hi => h s i (List.mem_cons_of_mem item hi)⟩

/-- Two loops whose steps agree from good states come to the same end; the steps keep what they
rely on. -/
theorem Along.foldl_eq_of_inv (inv : S → Prop) (hinv : ∀ s item, inv s → inv (step s item))
    (hsame : ∀ s item, inv s → good s item → other s item = step s item)
    (hs : inv s) (h : Along step good s items) :
    items.foldl other s = items.foldl step s := by
  induction items generalizing s with
  | nil => rfl
  | cons item items ih =>
    obtain ⟨hgood, hrest⟩ := h
    rw [List.foldl_cons, List.foldl_cons, hsame s item hs hgood]
    exact ih (hinv s item hs) hrest

theorem Along.foldl_eq (h : Along step good s items)
    (hsame : ∀ s item, good s item → other s item = step s item) :
    items.foldl other s = items.foldl step s :=
  h.foldl_eq_of_inv (fun _ => True) (fun _ _ _ => trivial) (fun s item _ => hsame s item) trivial

/-- What one item brings about and no item undoes holds in the end. -/
theorem foldl_reached (reached : S → Prop) {item : A}
    (hkeep : ∀ s item, reached s → reached (step s item)) (hitem : ∀ s, reached (step s item))
    (h : item ∈ items) : reached (items.foldl step s) := by
  obtain ⟨before, after, rfl⟩ := List.append_of_mem h
  rw [List.foldl_append, List.foldl_cons]
  exact List.foldlRecOn after step (motive := reached) (hitem _) fun s hs item _ => hkeep s item hs

/-- Items that change nothing can be left out. -/
theorem Along.foldl_filter (keep : A → Bool)
    (h : Along step (fun s item => keep item = true ∨ step s item = s) s items) :
    (items.filter keep).foldl step s = items.foldl step s := by
  rw [List.foldl_filter]
  refine h.foldl_eq fun s item hor => ?_
  split
  · rfl
  · next hk => exact (hor.resolve_left hk).symm

/-- What two loops show at their ends is the same only if every step of theirs was good: from a
step that is not, they stay apart. The invariant speaks of the items that are left. -/
theorem Along.of_observed (observe : S → B) (inv : List A → S → Prop)
    (hinv : ∀ s item items, inv (item :: items) s → inv items (step s item))
    (hsame : ∀ s item, good s item → other s item = step s item)
    (hapart : ∀ s item items, inv (item :: items) s → ¬good s item →
      observe (items.foldl other (other s item)) ≠ observe (items.foldl step (step s item)))
    (hs : inv items s) (h : observe (items.foldl other s) = observe (items.foldl step s)) :
    Along step good s items := by
  induction items generalizing s with
  | nil => trivial
  | cons item items ih =>
    by_cases hgood : good s item
    · rw [List.foldl_cons, List.foldl_cons, hsame s item hgood] at h
      exact ⟨hgood, ih (hinv s item items hs) h⟩
    · exact absurd h (hapart s item items hs hgood)

end Lockstep

section Choice

variable {A : Type} {r : A → A → Prop} {items left : List A} {a b : A}

/-- The item of a list that comes before all others. -/
structure First (r : A → A → Prop) (items : List A) (a : A) : Prop where
  mem : a ∈ items
  before : ∀ b ∈ items, r a b

theorem First.unique [Std.Antisymm r] (ha : First r items a) (hb : First r items b) : a = b :=
  antisymm (ha.before b hb.mem) (hb.before a ha.mem)

/-- The first item stays the first when others are left out. -/
theorem First.of_subset (h : First r items a) (hsub : left ⊆ items) (hmem : a ∈ left) :
    First r left a :=
  ⟨hmem, fun b hb => h.before b (hsub hb)⟩

variable [DecidableRel r] [Std.Total r] [IsTrans A r]

theorem first_of_head (h : (items.insertionSort r).head? = some a) : First r items a := by
  have hsorted := List.pairwise_insertionSort r items
  obtain ⟨rest, hrest⟩ := List.head?_eq_some_iff.mp h
  rw [hrest, List.pairwise_cons] at hsorted
  have hmem : ∀ b, b ∈ items ↔ b ∈ a :: rest := fun b => by
    rw [← hrest, List.mem_insertionSort]
  refine ⟨(hmem a).mpr List.mem_cons_self, fun b hb => ?_⟩
  rcases List.mem_cons.mp ((hmem b).mp hb) with rfl | hb
  · exact (Std.Total.total b b).elim id id
  · exact hsorted.1 b hb

theorem head_insertionSort [Std.Antisymm r] :
    (items.insertionSort r).head? = some a ↔ First r items a := by
  refine ⟨first_of_head, fun h => ?_⟩
  cases hhead : (items.insertionSort r).head? with
  | none =>
    rw [List.head?_eq_none_iff, ← List.length_eq_zero_iff, List.length_insertionSort,
      List.length_eq_zero_iff] at hhead
    rw [hhead] at h
    cases h.mem
  | some b => rw [(first_of_head hhead).unique h]

/-- One step of a search for the first item. -/
def keepFirst (r : A → A → Prop) [DecidableRel r] (best item : A) : A :=
  if r best item then best else item

theorem first_foldl (items : List A) (a : A) :
    First r (a :: items) (items.foldl (keepFirst r) a) := by
  induction items generalizing a with
  | nil => exact ⟨List.mem_cons_self, fun b hb => by
      rw [List.mem_singleton.mp hb]
      exact (Std.Total.total a a).elim id id⟩
  | cons item items ih =>
    obtain ⟨hmem, hbefore⟩ := ih (keepFirst r a item)
    have hkeep : r (keepFirst r a item) a ∧ r (keepFirst r a item) item := by
      rw [keepFirst]
      split
      · next h => exact ⟨(Std.Total.total a a).elim id id, h⟩
      · next h => exact ⟨(Std.Total.total a item).resolve_left h,
          (Std.Total.total item item).elim id id⟩
    have hbest := hbefore _ List.mem_cons_self
    refine ⟨?_, fun b hb => ?_⟩
    · rcases List.mem_cons.mp hmem with he | hi
      · rw [List.foldl_cons, he, keepFirst]
        split
        · exact List.mem_cons_self
        · exact List.mem_cons_of_mem _ List.mem_cons_self
      · exact List.mem_cons_of_mem _ (List.mem_cons_of_mem _ hi)
    · rcases List.mem_cons.mp hb with rfl | hb
      · exact Trans.trans hbest hkeep.1
      · rcases List.mem_cons.mp hb with rfl | hb
        · exact Trans.trans hbest hkeep.2
        · exact hbefore b (List.mem_cons_of_mem _ hb)

/-- A search finds the same when only items are left out that it did not choose. -/
theorem foldl_left [Std.Antisymm r] (hsub : left ⊆ items)
    (h : items.foldl (keepFirst r) a ∈ a :: left) :
    left.foldl (keepFirst r) a = items.foldl (keepFirst r) a :=
  (first_foldl left a).unique
    ((first_foldl items a).of_subset (List.cons_subset_cons a hsub) h)

end Choice

end GuidedLoops

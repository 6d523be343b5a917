import Mathlib.Data.List.Sort
import Mathlib.Data.List.Pairwise
import Mathlib.Data.List.Perm.Basic

namespace Reordering
set_option autoImplicit true

/-- Two runs that return related values, or that both fail. -/
inductive SameOutcome (R : α → β → Prop) : Except ε α → Except ε β → Prop
  | returns : R a b → SameOutcome R (.ok a) (.ok b)
  | fails : SameOutcome R (.error e) (.error e')

/-- A run that fails. -/
def Fails (x : Except ε α) : Prop := ∃ e, x = .error e

theorem SameOutcome.of_fails {x : Except ε α} {y : Except ε β} {R : α → β → Prop} (hx : Fails x)
    (hy : Fails y) : SameOutcome R x y := by
  obtain ⟨e, rfl⟩ := hx
  obtain ⟨e', rfl⟩ := hy
  exact .fails

theorem SameOutcome.refl {R : α → α → Prop} (hR : ∀ a, R a a) (x : Except ε α) :
    SameOutcome R x x := by
  cases x with
  | error e => exact .fails
  | ok a => exact .returns (hR a)

theorem SameOutcome.trans {R : α → α → Prop} (hR : ∀ a b c, R a b → R b c → R a c)
    {x y z : Except ε α} (h : SameOutcome R x y) (h' : SameOutcome R y z) :
    SameOutcome R x z := by
  cases h with
  | returns hab =>
    cases h' with
    | returns hbc => exact .returns (hR _ _ _ hab hbc)
  | fails =>
    cases h' with
    | fails => exact .fails

theorem SameOutcome.ok_left {R : α → β → Prop} {y : Except ε β} (h : SameOutcome R (.ok a) y) :
    ∃ b, y = .ok b ∧ R a b := by
  cases h with
  | returns hab => exact ⟨_, rfl, hab⟩

theorem SameOutcome.ok_right {R : α → β → Prop} {x : Except ε α} (h : SameOutcome R x (.ok b)) :
    ∃ a, x = .ok a ∧ R a b := by
  cases h with
  | returns hab => exact ⟨_, rfl, hab⟩

theorem SameOutcome.fails_right {R : α → β → Prop} {x : Except ε α} {y : Except ε β}
    (h : SameOutcome R x y) (hy : Fails y) : Fails x := by
  obtain ⟨e, rfl⟩ := hy
  cases h with
  | fails => exact ⟨_, rfl⟩

theorem SameOutcome.bind {R : α → β → Prop} {S : γ → δ → Prop} {x : Except ε α}
    {y : Except ε β} {f : α → Except ε γ} {g : β → Except ε δ} (h : SameOutcome R x y)
    (hf : ∀ a b, R a b → SameOutcome S (f a) (g b)) : SameOutcome S (x >>= f) (y >>= g) := by
  cases h with
  | returns hab => exact hf _ _ hab
  | fails => exact .fails

theorem Fails.bind {x : Except ε α} (h : Fails x) (f : α → Except ε β) : Fails (x >>= f) := by
  obtain ⟨e, rfl⟩ := h
  exact ⟨e, rfl⟩

theorem Fails.of_bind {x : Except ε α} {f : α → Except ε β} (h : ∀ a, Fails (f a)) :
    Fails (x >>= f) := by
  cases x with
  | error e => exact ⟨e, rfl⟩
  | ok a => exact h a

section Sorting

variable (cmp : α → α → Except ε Ordering)

/-- Insertion before the first entry that does not precede `x`; a comparison may throw. -/
def insertM (x : α) : List α → Except ε (List α)
  | [] => return [x]
  | y :: ys => do
    let order ← cmp x y
    if order = .gt then
      let ys ← insertM x ys
      return y :: ys
    else return x :: y :: ys

/-- A stable sort whose comparison may throw. -/
def sortM : List α → Except ε (List α)
  | [] => return []
  | x :: xs => do
    let xs ← sortM xs
    insertM cmp x xs

variable {cmp}

theorem insertM_perm (h : insertM cmp x ys = .ok zs) : zs.Perm (x :: ys) := by
  induction ys generalizing zs with
  | nil =>
    cases h
    exact List.Perm.refl _
  | cons y ys ih =>
    simp only [insertM] at h
    cases hc : cmp x y with
    | error e => rw [hc] at h; cases h
    | ok order =>
      rw [hc] at h
      by_cases hg : order = .gt
      · cases hi : insertM cmp x ys with
        | error e => subst hg; rw [hi] at h; cases h
        | ok ws =>
          subst hg
          rw [hi] at h
          cases h
          exact ((ih hi).cons y).trans (List.Perm.swap x y ys)
      · simp only [bind, Except.bind, hg, if_false] at h
        cases h
        exact List.Perm.refl _

theorem sortM_perm (h : sortM cmp xs = .ok ys) : ys.Perm xs := by
  induction xs generalizing ys with
  | nil =>
    cases h
    exact List.Perm.refl _
  | cons x xs ih =>
    simp only [sortM] at h
    cases hs : sortM cmp xs with
    | error e => rw [hs] at h; cases h
    | ok zs =>
      rw [hs] at h
      exact (insertM_perm h).trans ((ih hs).cons x)

/-- A sort only fails at a comparison of two of its entries. -/
theorem insertM_fails (h : Fails (insertM cmp x ys)) : ∃ y ∈ ys, Fails (cmp x y) := by
  induction ys with
  | nil =>
    obtain ⟨e, h⟩ := h
    cases h
  | cons y ys ih =>
    cases hc : cmp x y with
    | error e => exact ⟨y, List.mem_cons_self, e, hc⟩
    | ok order =>
      obtain ⟨e, h⟩ := h
      simp only [insertM, hc, bind, Except.bind] at h
      split at h
      · cases hi : insertM cmp x ys with
        | error e' =>
          obtain ⟨z, hz, hf⟩ := ih ⟨e', hi⟩
          exact ⟨z, List.mem_cons_of_mem y hz, hf⟩
        | ok ws => rw [hi] at h; cases h
      · cases h

end Sorting

section TwoKeys

/-- A comparison by a first key and then, at a tie, by a second one that may be missing. -/
structure Compares (cmp : α → α → Except ε Ordering) (first second : α → α → Ordering)
    (missing : α → Prop) : Prop where
  apart : ∀ x y, first x y ≠ .eq → cmp x y = .ok (first x y)
  tied : ∀ x y, first x y = .eq → ¬missing x → ¬missing y → cmp x y = .ok (second x y)
  blocked : ∀ x y, first x y = .eq → missing x ∨ missing y → Fails (cmp x y)

variable {cmp : α → α → Except ε Ordering} {first second : α → α → Ordering} {missing : α → Prop}

/-- The order of two entries by a key. -/
def onKey (compare : β → β → Ordering) (key : α → β) (a b : α) : Ordering :=
  compare (key a) (key b)

instance onKey_trans (compare : β → β → Ordering) [Std.TransCmp compare] (key : α → β) :
    Std.TransCmp (onKey compare key) where
  eq_swap {a b} := (Std.OrientedCmp.eq_swap :
    compare (key a) (key b) = (compare (key b) (key a)).swap)
  isLE_trans {a _ c} hab hbc :=
    (Std.TransCmp.isLE_trans hab hbc : (compare (key a) (key c)).isLE = true)

/-- Two entries that no sort can place. -/
def Blocked (first : α → α → Ordering) (missing : α → Prop) (x y : α) : Prop :=
  first x y = .eq ∧ (missing x ∨ missing y)

/-- The order in which two entries may stand. -/
def Before (first second : α → α → Ordering) (x y : α) : Prop :=
  first x y ≠ .gt ∧ (first x y = .eq → second x y ≠ .gt)

theorem Compares.ok (h : Compares cmp first second missing) (hc : cmp x y = .ok order) :
    order = (first x y).then (second x y) ∧ ¬Blocked first missing x y := by
  by_cases he : first x y = .eq
  · by_cases hm : missing x ∨ missing y
    · obtain ⟨e, hf⟩ := h.blocked x y he hm
      rw [hf] at hc
      cases hc
    · rw [not_or] at hm
      rw [h.tied x y he hm.1 hm.2] at hc
      cases hc
      exact ⟨by rw [he]; rfl, fun hb => not_or.mpr hm hb.2⟩
  · rw [h.apart x y he] at hc
    cases hc
    refine ⟨?_, fun hb => he hb.1⟩
    cases hf : first x y with
    | lt => rfl
    | eq => exact absurd hf he
    | gt => rfl

theorem Before.of_not_gt (h : (first x y).then (second x y) ≠ .gt) : Before first second x y := by
  cases hf : first x y with
  | lt => exact ⟨by rw [hf]; decide, fun he => by rw [hf] at he; cases he⟩
  | eq =>
    rw [hf] at h
    exact ⟨by rw [hf]; decide, fun _ => h⟩
  | gt => rw [hf] at h; exact absurd rfl h

theorem sortM_returns (h : Compares cmp first second missing)
    (hb : xs.Pairwise fun a b => ¬Blocked first missing a b) : ∃ ys, sortM cmp xs = .ok ys := by
  induction xs with
  | nil => exact ⟨[], rfl⟩
  | cons x xs ih =>
    obtain ⟨hx, hb⟩ := List.pairwise_cons.mp hb
    obtain ⟨zs, hz⟩ := ih hb
    rw [sortM, hz]
    cases hi : insertM cmp x zs with
    | ok ys => exact ⟨ys, hi⟩
    | error e =>
      obtain ⟨y, hy, e', hf⟩ := insertM_fails ⟨e, hi⟩
      have hfree := hx y ((sortM_perm hz).subset hy)
      by_cases he : first x y = .eq
      · by_cases hm : missing x ∨ missing y
        · exact absurd ⟨he, hm⟩ hfree
        · rw [not_or] at hm
          rw [h.tied x y he hm.1 hm.2] at hf
          cases hf
      · rw [h.apart x y he] at hf
        cases hf

variable [Std.TransCmp first] [Std.TransCmp second]

theorem Before.of_gt (h : (first x y).then (second x y) = .gt) : Before first second y x := by
  have hfirst : first y x = (first x y).swap := Std.OrientedCmp.eq_swap
  have hsecond : second y x = (second x y).swap := Std.OrientedCmp.eq_swap
  rw [Before, hfirst, hsecond]
  cases hf : first x y with
  | lt => rw [hf] at h; cases h
  | eq =>
    rw [hf] at h
    have hs : second x y = .gt := h
    rw [hs]
    exact ⟨by decide, fun _ => by decide⟩
  | gt => exact ⟨by decide, fun he => by cases he⟩

theorem Before.trans (h : Before first second x y) (h' : Before first second y z) :
    Before first second x z := by
  have hxy : (first x y).isLE = true := Ordering.isLE_iff_ne_gt.mpr h.1
  have hyz : (first y z).isLE = true := Ordering.isLE_iff_ne_gt.mpr h'.1
  refine ⟨Ordering.isLE_iff_ne_gt.mp (Std.TransCmp.isLE_trans hxy hyz), ?_⟩
  intro he
  have hzx : (first z x).isLE = true := by
    have hswap : first z x = (first x z).swap := Std.OrientedCmp.eq_swap
    rw [hswap, he]
    rfl
  have hyx : (first y x).isLE = true := Std.TransCmp.isLE_trans hyz hzx
  have hzy : (first z y).isLE = true := Std.TransCmp.isLE_trans hzx hxy
  have hexy : first x y = .eq := Std.OrientedCmp.isLE_antisymm hxy hyx
  have heyz : first y z = .eq := Std.OrientedCmp.isLE_antisymm hyz hzy
  exact Ordering.isLE_iff_ne_gt.mp (Std.TransCmp.isLE_trans
    (Ordering.isLE_iff_ne_gt.mpr (h.2 hexy)) (Ordering.isLE_iff_ne_gt.mpr (h'.2 heyz)))

theorem Blocked.symm (h : Blocked first missing x y) : Blocked first missing y x :=
  ⟨Std.OrientedCmp.eq_symm h.1, h.2.symm⟩

theorem not_blocked_symm (h : ¬Blocked first missing x y) : ¬Blocked first missing y x :=
  fun hb => h hb.symm

theorem insertM_places (h : Compares cmp first second missing)
    (hs : ys.Pairwise (Before first second)) (hb : ys.Pairwise fun a b => ¬Blocked first missing a b)
    (hi : insertM cmp x ys = .ok zs) :
    zs.Pairwise (Before first second) ∧ ∀ y ∈ ys, ¬Blocked first missing x y := by
  induction ys generalizing zs with
  | nil =>
    cases hi
    exact ⟨List.pairwise_singleton _ _, by simp⟩
  | cons y ys ih =>
    obtain ⟨hy, hs⟩ := List.pairwise_cons.mp hs
    obtain ⟨hby, hb⟩ := List.pairwise_cons.mp hb
    simp only [insertM] at hi
    cases hc : cmp x y with
    | error e => rw [hc] at hi; cases hi
    | ok order =>
      obtain ⟨horder, hxy⟩ := h.ok hc
      rw [hc] at hi
      by_cases hg : order = .gt
      · cases hr : insertM cmp x ys with
        | error e => subst hg; rw [hr] at hi; cases hi
        | ok ws =>
          obtain ⟨hws, hfree⟩ := ih hs hb hr
          have hyx : Before first second y x := Before.of_gt (horder ▸ hg)
          subst hg
          rw [hr] at hi
          cases hi
          refine ⟨List.pairwise_cons.mpr ⟨?_, hws⟩, ?_⟩
          · intro z hz
            rcases List.mem_cons.mp ((insertM_perm hr).subset hz) with rfl | hz
            · exact hyx
            · exact hy z hz
          · intro z hz
            rcases List.mem_cons.mp hz with rfl | hz
            · exact hxy
            · exact hfree z hz
      · simp only [bind, Except.bind, hg, if_false] at hi
        cases hi
        have hle : Before first second x y := Before.of_not_gt (horder ▸ hg)
        have hall : ∀ z ∈ y :: ys, Before first second x z := by
          intro z hz
          rcases List.mem_cons.mp hz with rfl | hz
          · exact hle
          · exact hle.trans (hy z hz)
        refine ⟨List.pairwise_cons.mpr ⟨hall, List.pairwise_cons.mpr ⟨hy, hs⟩⟩, ?_⟩
        intro z hz
        rcases List.mem_cons.mp hz with rfl | hz
        · exact hxy
        · -- an entry tied with `x` is tied with `y` as well, which lies between them
          intro hxz
          have hzx : (first z x).isLE = true := by
            rw [Std.OrientedCmp.eq_symm hxz.1]
            rfl
          have hyz : (first y z).isLE = true := Ordering.isLE_iff_ne_gt.mpr (hy z hz).1
          have hxy' : first x y = .eq := Std.OrientedCmp.isLE_antisymm
            (Ordering.isLE_iff_ne_gt.mpr hle.1) (Std.TransCmp.isLE_trans hyz hzx)
          rcases hxz.2 with hm | hm
          · exact hxy ⟨hxy', .inl hm⟩
          · refine hby z hz ⟨?_, .inr hm⟩
            exact Std.OrientedCmp.isLE_antisymm hyz
              (Std.TransCmp.isLE_trans hzx (Ordering.isLE_iff_ne_gt.mpr hle.1))

/-- What a sort returns stands in order, and it only returns when no two entries are blocked. -/
theorem sortM_places (h : Compares cmp first second missing) (hs : sortM cmp xs = .ok ys) :
    ys.Pairwise (Before first second) ∧ xs.Pairwise fun a b => ¬Blocked first missing a b := by
  induction xs generalizing ys with
  | nil =>
    cases hs
    exact ⟨List.Pairwise.nil, List.Pairwise.nil⟩
  | cons x xs ih =>
    simp only [sortM] at hs
    cases hr : sortM cmp xs with
    | error e => rw [hr] at hs; cases hs
    | ok zs =>
      obtain ⟨hz, hb⟩ := ih hr
      rw [hr] at hs
      have hperm := sortM_perm hr
      have hbz : zs.Pairwise fun a b => ¬Blocked first missing a b :=
        (hperm.pairwise_iff not_blocked_symm).mpr hb
      obtain ⟨hy, hfree⟩ := insertM_places h hz hbz hs
      refine ⟨hy, List.pairwise_cons.mpr ⟨?_, hb⟩⟩
      intro a ha
      exact hfree a (hperm.symm.subset ha)

/-- A sort does not depend on the order of its input when only equal entries tie at both keys. -/
theorem sortM_reordered (h : Compares cmp first second missing)
    (hkey : ∀ a b, first a b = .eq → second a b = .eq → ¬missing a → ¬missing b → a = b)
    (hp : xs.Perm xs') : SameOutcome (· = ·) (sortM cmp xs) (sortM cmp xs') := by
  by_cases hb : xs.Pairwise fun a b => ¬Blocked first missing a b
  · have hb' := (hp.pairwise_iff not_blocked_symm).mp hb
    obtain ⟨ys, hy⟩ := sortM_returns h hb
    obtain ⟨ys', hy'⟩ := sortM_returns h hb'
    rw [hy, hy']
    apply SameOutcome.returns
    have hperm : ys.Perm ys' := (sortM_perm hy).trans (hp.trans (sortM_perm hy').symm)
    have hfree := ((sortM_perm hy).pairwise_iff not_blocked_symm).mpr hb
    refine hperm.eq_of_pairwise ?_ (sortM_places h hy).1 (sortM_places h hy').1
    intro a b ha hb hab hba
    have he : first a b = .eq := Std.OrientedCmp.isLE_antisymm
      (Ordering.isLE_iff_ne_gt.mpr hab.1) (Ordering.isLE_iff_ne_gt.mpr hba.1)
    have hs : second a b = .eq := Std.OrientedCmp.isLE_antisymm
      (Ordering.isLE_iff_ne_gt.mpr (hab.2 he))
      (Ordering.isLE_iff_ne_gt.mpr (hba.2 (Std.OrientedCmp.eq_symm he)))
    by_contra hne
    have hsymm : Std.Symm fun a b => ¬Blocked first missing a b := ⟨fun _ _ => not_blocked_symm⟩
    have hnb := hfree.forall ha (hperm.symm.subset hb) hne
    exact hne (hkey a b he hs (fun hm => hnb ⟨he, .inl hm⟩) fun hm => hnb ⟨he, .inr hm⟩)
  · have hb' := fun hb' => hb ((hp.pairwise_iff not_blocked_symm).mpr hb')
    cases hs : sortM cmp xs with
    | ok ys => exact absurd (sortM_places h hs).2 hb
    | error e =>
      cases hs' : sortM cmp xs' with
      | ok ys => exact absurd (sortM_places h hs').2 hb'
      | error e' => exact .fails

end TwoKeys

section Fold

variable {f : σ → α → Except ε σ} {R : σ → σ → Prop}

/-- A step of a loop that keeps related states related, in whichever order two items come. -/
structure Commutes (f : σ → α → Except ε σ) (R : σ → σ → Prop) : Prop where
  refl : ∀ s, R s s
  trans : ∀ s t u, R s t → R t u → R s u
  congr : ∀ {s t}, R s t → ∀ a, SameOutcome R (f s a) (f t a)
  swap : ∀ s a b, SameOutcome R (f s a >>= fun t => f t b) (f s b >>= fun t => f t a)

theorem foldlM_congr (h : ∀ {s t}, R s t → ∀ a, SameOutcome R (f s a) (f t a)) (xs : List α)
    (hR : R s t) : SameOutcome R (xs.foldlM f s) (xs.foldlM f t) := by
  induction xs generalizing s t with
  | nil => exact .returns hR
  | cons x xs ih =>
    simp only [List.foldlM_cons]
    exact (h hR x).bind fun _ _ hst => ih hst

theorem foldlM_reordered {xs ys : List α} (h : Commutes f R) (hp : xs.Perm ys) (hR : R s t) :
    SameOutcome R (xs.foldlM f s) (ys.foldlM f t) := by
  induction hp generalizing s t with
  | nil => exact .returns hR
  | cons x _ ih =>
    simp only [List.foldlM_cons]
    exact (h.congr hR x).bind fun _ _ hst => ih hst
  | swap x y xs =>
    have hswap := (h.swap s y x).bind fun _ _ hst => foldlM_congr h.congr xs hst
    have htail := foldlM_congr h.congr (x :: y :: xs) hR
    simp only [List.foldlM_cons, bind_assoc] at hswap htail ⊢
    exact hswap.trans h.trans htail
  | trans _ _ ih ih' => exact (ih (h.refl s)).trans h.trans (ih' hR)

theorem foldlM_member {xs : List α} (h : xs.foldlM f s = .ok t) (hx : x ∈ xs) :
    ∃ u v, f u x = .ok v := by
  induction xs generalizing s with
  | nil => cases hx
  | cons y ys ih =>
    rw [List.foldlM_cons] at h
    cases hy : f s y with
    | error e => rw [hy] at h; cases h
    | ok u =>
      rw [hy] at h
      rcases List.mem_cons.mp hx with rfl | hx
      · exact ⟨s, u, hy⟩
      · exact ih h hx

/-- A loop over a sorted copy of its input. -/
def forSorted (cmp : α → α → Except ε Ordering) (f : σ → α → Except ε σ) (s : σ)
    (xs : List α) : Except ε σ := do
  let xs ← sortM cmp xs
  xs.foldlM f s

variable {cmp : α → α → Except ε Ordering} {first second : α → α → Ordering} {missing : α → Prop}

theorem forSorted_ok (h : forSorted cmp f s xs = .ok t) :
    ∃ ys : List α, ys.Perm xs ∧ ys.foldlM f s = .ok t := by
  rw [forSorted] at h
  cases hs : sortM cmp xs with
  | error e => rw [hs] at h; cases h
  | ok ys =>
    rw [hs] at h
    exact ⟨ys, sortM_perm hs, h⟩

theorem forSorted_congr (h : ∀ {s t}, R s t → ∀ a, SameOutcome R (f s a) (f t a)) (xs : List α)
    (hR : R s t) : SameOutcome R (forSorted cmp f s xs) (forSorted cmp f t xs) := by
  rw [forSorted, forSorted]
  cases sortM cmp xs with
  | error e => exact .fails
  | ok ys => exact foldlM_congr h ys hR

/-- A loop does not survive an item that fails at its start. -/
theorem forSorted_fails {xs : List α} (h : Commutes f R) (hx : x ∈ xs) (hf : Fails (f s x)) :
    Fails (forSorted cmp f s xs) := by
  rw [forSorted]
  cases hs : sortM cmp xs with
  | error e => exact ⟨e, rfl⟩
  | ok ys =>
    obtain ⟨before, after, rfl⟩ := List.append_of_mem ((sortM_perm hs).symm.subset hx)
    refine (foldlM_reordered h List.perm_middle (h.refl s)).fails_right ?_
    rw [List.foldlM_cons]
    exact hf.bind _

variable [Std.TransCmp first] [Std.TransCmp second]

theorem forSorted_unblocked (hc : Compares cmp first second missing)
    (h : forSorted cmp f s xs = .ok t) : xs.Pairwise fun a b => ¬Blocked first missing a b := by
  rw [forSorted] at h
  cases hs : sortM cmp xs with
  | error e => rw [hs] at h; cases h
  | ok ys => exact (sortM_places hc hs).2

theorem forSorted_blocked (hc : Compares cmp first second missing)
    (hb : ¬xs.Pairwise fun a b => ¬Blocked first missing a b) (s : σ) :
    Fails (forSorted cmp f s xs) := by
  cases hs : forSorted cmp f s xs with
  | error e => exact ⟨e, rfl⟩
  | ok t => exact absurd (forSorted_unblocked hc hs) hb

/-- The order of the input decides neither whether the sort before a loop fails nor, up to `R`,
what the loop returns. -/
theorem forSorted_reordered (h : Commutes f R) (hc : Compares cmp first second missing)
    (hp : xs.Perm ys) (hR : R s t) :
    SameOutcome R (forSorted cmp f s xs) (forSorted cmp f t ys) := by
  by_cases hb : xs.Pairwise fun a b => ¬Blocked first missing a b
  · obtain ⟨xs', hx⟩ := sortM_returns hc hb
    obtain ⟨ys', hy⟩ := sortM_returns hc ((hp.pairwise_iff not_blocked_symm).mp hb)
    rw [forSorted, forSorted, hx, hy]
    exact foldlM_reordered h ((sortM_perm hx).trans (hp.trans (sortM_perm hy).symm)) hR
  · exact SameOutcome.of_fails (forSorted_blocked hc hb s) (forSorted_blocked hc
      (fun hb' => hb ((hp.pairwise_iff not_blocked_symm).mpr hb')) t)

theorem blocked_self (x : α) : Blocked first missing x x ↔ missing x := by
  simp only [Blocked, Std.ReflCmp.compare_self, or_self, true_and]

theorem not_blocked_copied (hb : xs.Pairwise fun a b => ¬Blocked first missing a b) (hx : x ∈ xs)
    (hm : ¬missing x) : (x :: xs).Pairwise fun a b => ¬Blocked first missing a b := by
  refine List.pairwise_cons.mpr ⟨fun y hy => ?_, hb⟩
  by_cases he : x = y
  · exact he ▸ (blocked_self x).not.mpr hm
  · have hsymm : Std.Symm fun a b => ¬Blocked first missing a b := ⟨fun _ _ => not_blocked_symm⟩
    exact hb.forall hx hy he

/-- A second copy of an item is as good as a step before the loop. -/
theorem forSorted_copied (h : Commutes f R) (hc : Compares cmp first second missing)
    (hx : x ∈ xs) (hm : ¬missing x) (s : σ) :
    SameOutcome R (forSorted cmp f s (x :: xs)) (f s x >>= fun t => forSorted cmp f t xs) := by
  by_cases hb : xs.Pairwise fun a b => ¬Blocked first missing a b
  · obtain ⟨ys, hy⟩ := sortM_returns hc hb
    obtain ⟨zs, hz⟩ := sortM_returns hc (not_blocked_copied hb hx hm)
    have hp : zs.Perm (x :: ys) := (sortM_perm hz).trans ((sortM_perm hy).symm.cons x)
    have hloop := foldlM_reordered h hp (h.refl s)
    simp only [forSorted, hy, hz]
    exact hloop
  · exact SameOutcome.of_fails
      (forSorted_blocked hc (fun hb' => hb (List.pairwise_cons.mp hb').2) s)
      (Fails.of_bind fun t => forSorted_blocked hc hb t)

theorem forSorted_stuck (hc : Compares cmp first second missing) (hx : x ∈ xs) (hm : missing x)
    (s : σ) : Fails (forSorted cmp f s (x :: xs)) :=
  forSorted_blocked hc (fun hb => (List.pairwise_cons.mp hb).1 x hx ((blocked_self x).mpr hm)) s

end Fold

end Reordering

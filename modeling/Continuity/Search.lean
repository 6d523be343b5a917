import Mathlib.Data.List.Nodup
import Mathlib.Data.List.Perm.Subperm
import Mathlib.Logic.Function.Basic
import Mathlib.Order.Bounds.Basic

namespace Search
set_option autoImplicit true

/-- A way of `n` steps. -/
inductive Walk (R : α → α → Prop) : Nat → α → α → Prop
  | stay : Walk R 0 x x
  | step : R x y → Walk R n y z → Walk R (n + 1) x z

variable {R R' : α → α → Prop}

theorem Walk.mono (hR : ∀ x y, R x y → R' x y) (h : Walk R n x y) : Walk R' n x y := by
  induction h with
  | stay => exact .stay
  | step hs _ ih => exact .step (hR _ _ hs) ih

theorem Walk.trans (h : Walk R n x y) (h' : Walk R m y z) : Walk R (n + m) x z := by
  induction h with
  | stay => rwa [Nat.zero_add]
  | step hs _ ih =>
    rw [Nat.add_right_comm]
    exact .step hs (ih h')

theorem Walk.snoc (h : Walk R n x y) (hs : R y z) : Walk R (n + 1) x z :=
  h.trans (.step hs .stay)

theorem Walk.mem {all : List α} (hall : ∀ x y, R x y → y ∈ all) (h : Walk R n x y)
    (hx : x ∈ all) : y ∈ all := by
  induction h with
  | stay => exact hx
  | step hs _ ih => exact ih (hall _ _ hs)

/-- The numbers of steps in which a goal can be reached. -/
def Reaches (R : α → α → Prop) (goal : α → Prop) (x : α) : Set Nat :=
  {n | ∃ y, goal y ∧ Walk R n x y}

/-- A search that has a queue of entries with their distances. -/
structure State (α : Type) where
  queue : List (α × Nat)
  seen : List α

section Labels

variable {next : α → List α} {goal : α → Bool}

/-- What the entries of a search mean; `label` is the distance that an entry was found at, and
`open_` are the entries whose neighbours have not all been looked at. -/
structure Labelled (next : α → List α) (goal : α → Bool) (start : α) (label : α → Nat)
    (open_ : List α) (s : State α) : Prop where
  started : start ∈ s.seen
  zero : label start = 0
  nodup : s.seen.Nodup
  queued : ∀ entry ∈ s.queue, entry.1 ∈ s.seen ∧ label entry.1 = entry.2
  walk : ∀ x ∈ s.seen, Walk (fun a b => b ∈ next a) (label x) start x
  plain : ∀ x ∈ s.seen, goal x = false
  closed : ∀ x ∈ s.seen, x ∉ s.queue.map Prod.fst → x ∉ open_ →
    ∀ y ∈ next x, y ∈ s.seen ∧ label y ≤ label x + 1

/-- The queue holds distances from `low` to `low + 1` in order. -/
def Ordered (low : Nat) (queue : List (α × Nat)) : Prop :=
  queue.Pairwise (fun a b => a.2 ≤ b.2) ∧ ∀ entry ∈ queue, low ≤ entry.2 ∧ entry.2 ≤ low + 1

theorem Ordered.push (h : Ordered low queue) (y : α) : Ordered low (queue ++ [(y, low + 1)]) := by
  refine ⟨List.pairwise_append.mpr ⟨h.1, List.pairwise_singleton _ _, ?_⟩, ?_⟩
  · intro a ha b hb
    rw [List.mem_singleton.mp hb]
    exact (h.2 a ha).2
  · intro entry he
    rcases List.mem_append.mp he with he | he
    · exact h.2 entry he
    · rw [List.mem_singleton.mp he]
      exact ⟨Nat.le_succ low, Nat.le_refl _⟩

/-- Whatever can be reached in `low` steps has been seen when the queue starts at `low`. -/
theorem Labelled.seen_of_walk (h : Labelled next goal start label [] s)
    (hq : ∀ entry ∈ s.queue, low ≤ entry.2) (hw : Walk (fun a b => b ∈ next a) n x z)
    (hx : x ∈ s.seen) (hn : label x + n ≤ low) : z ∈ s.seen := by
  induction hw with
  | stay => exact hx
  | @step x y n z hs _ ih =>
    have hout : x ∉ s.queue.map Prod.fst := by
      intro hm
      obtain ⟨entry, he, rfl⟩ := List.mem_map.mp hm
      have hlabel := (h.queued entry he).2
      have hle := hq entry he
      omega
    obtain ⟨hy, hle⟩ := h.closed x hx hout List.not_mem_nil y hs
    exact ih hy (by omega)

/-- An empty queue means that everything in reach has been seen. -/
theorem Labelled.seen_all (h : Labelled next goal start label [] s) (hq : s.queue = [])
    (hw : Walk (fun a b => b ∈ next a) n x z) (hx : x ∈ s.seen) : z ∈ s.seen := by
  induction hw with
  | stay => exact hx
  | step hs _ ih =>
    apply ih
    exact (h.closed _ hx (by rw [hq]; exact List.not_mem_nil) List.not_mem_nil _ hs).1

/-- The answer that a search should give. -/
def Correct (next : α → List α) (goal : α → Bool) (start : α) : Option Nat → Prop
  | some d => IsLeast (Reaches (fun a b => b ∈ next a) (fun y => goal y = true) start) d
  | none => ∀ n, n ∉ Reaches (fun a b => b ∈ next a) (fun y => goal y = true) start

theorem Labelled.correct_none (h : Labelled next goal start label [] s) (hq : s.queue = []) :
    Correct next goal start none := by
  rintro n ⟨y, hy, hw⟩
  have hplain := h.plain y (h.seen_all hq hw h.started)
  rw [hplain] at hy
  cases hy

end Labels

section Algorithm

variable [DecidableEq α] (next : α → List α) (goal : α → Bool)

/-- Look at one neighbour; a goal ends the search. -/
def look (distance : Nat) (s : State α) (y : α) : Except Nat (State α) :=
  if y ∈ s.seen then .ok s
  else if goal y then .error distance
  else .ok ⟨s.queue ++ [(y, distance)], y :: s.seen⟩

def search : Nat → State α → Option Nat
  | 0, _ => none
  | fuel + 1, s =>
    match s.queue with
    | [] => none
    | (x, distance) :: queue =>
      match (next x).foldlM (look goal (distance + 1)) { s with queue } with
      | .error found => some found
      | .ok s => search fuel s

/-- The distance of the nearest goal from an entry that is none. -/
def distance (fuel : Nat) (start : α) : Option Nat := search next goal fuel ⟨[(start, 0)], [start]⟩

variable {next : α → List α} {goal : α → Bool}

/-- A neighbour that is not a goal gets a label and its place in the queue. -/
theorem Labelled.look (h : Labelled next goal start label open_ s) (hx : x ∈ s.seen)
    (hy : y ∈ next x) (hl : look goal (label x + 1) s y = .ok t) (hq : Ordered (label x) s.queue)
    (hlow : ∀ z ∈ s.seen, label z ≤ label x + 1) :
    ∃ label', Labelled next goal start label' open_ t ∧ Ordered (label x) t.queue ∧
      (∀ z ∈ s.seen, z ∈ t.seen ∧ label' z = label z) ∧ y ∈ t.seen ∧
      (∀ z ∈ t.seen, label' z ≤ label x + 1) ∧
      t.queue.length + s.seen.length = t.seen.length + s.queue.length := by
  by_cases hseen : y ∈ s.seen
  · rw [Search.look, if_pos hseen] at hl
    cases hl
    exact ⟨label, h, hq, fun z hz => ⟨hz, rfl⟩, hseen, hlow, Nat.add_comm _ _⟩
  · rw [Search.look, if_neg hseen] at hl
    by_cases hgoal : goal y = true
    · rw [if_pos hgoal] at hl
      cases hl
    · rw [if_neg hgoal] at hl
      cases hl
      have hold : ∀ z ∈ s.seen, Function.update label y (label x + 1) z = label z := by
        intro z hz
        have hne : z ≠ y := fun he => hseen (he ▸ hz)
        exact Function.update_of_ne hne _ label
      have hnew : Function.update label y (label x + 1) y = label x + 1 :=
        Function.update_self y _ label
      refine ⟨Function.update label y (label x + 1), ?_, hq.push y, ?_, List.mem_cons_self, ?_, ?_⟩
      · refine
          { started := List.mem_cons_of_mem y h.started
            zero := by rw [hold start h.started, h.zero]
            nodup := List.nodup_cons.mpr ⟨hseen, h.nodup⟩
            queued := ?_, walk := ?_, plain := ?_, closed := ?_ }
        · intro entry he
          rcases List.mem_append.mp he with he | he
          · obtain ⟨hm, hle⟩ := h.queued entry he
            exact ⟨List.mem_cons_of_mem y hm, by rw [hold _ hm, hle]⟩
          · rw [List.mem_singleton.mp he]
            exact ⟨List.mem_cons_self, hnew⟩
        · intro z hz
          rcases List.mem_cons.mp hz with rfl | hz
          · rw [hnew]
            exact (h.walk x hx).snoc hy
          · rw [hold z hz]
            exact h.walk z hz
        · intro z hz
          rcases List.mem_cons.mp hz with rfl | hz
          · exact Bool.eq_false_iff.mpr hgoal
          · exact h.plain z hz
        · intro z hz hnq hno w hw
          rcases List.mem_cons.mp hz with rfl | hz
          · exact absurd (by simp) hnq
          · have hnq' : z ∉ s.queue.map Prod.fst := fun hm => hnq (by
              rw [List.map_append]
              exact List.mem_append_left _ hm)
            obtain ⟨hws, hle⟩ := h.closed z hz hnq' hno w hw
            exact ⟨List.mem_cons_of_mem y hws, by rw [hold w hws, hold z hz]; exact hle⟩
      · intro z hz
        exact ⟨List.mem_cons_of_mem y hz, hold z hz⟩
      · intro z hz
        rcases List.mem_cons.mp hz with rfl | hz
        · exact Nat.le_of_eq hnew
        · rw [hold z hz]
          exact hlow z hz
      · simp only [List.length_append, List.length_cons, List.length_nil]
        omega

/-- Looking at the neighbours of `x` one by one closes `x`. -/
theorem Labelled.scan (ys : List α) (h : Labelled next goal start label open_ s)
    (hx : x ∈ s.seen) (hys : ∀ y ∈ ys, y ∈ next x)
    (hl : ys.foldlM (Search.look goal (label x + 1)) s = .ok t) (hq : Ordered (label x) s.queue)
    (hlow : ∀ z ∈ s.seen, label z ≤ label x + 1) :
    ∃ label', Labelled next goal start label' open_ t ∧ Ordered (label x) t.queue ∧
      (∀ z ∈ s.seen, z ∈ t.seen ∧ label' z = label z) ∧ (∀ y ∈ ys, y ∈ t.seen) ∧
      (∀ z ∈ t.seen, label' z ≤ label x + 1) ∧
      t.queue.length + s.seen.length = t.seen.length + s.queue.length := by
  induction ys generalizing s label with
  | nil =>
    cases hl
    exact ⟨label, h, hq, fun z hz => ⟨hz, rfl⟩, by simp, hlow, Nat.add_comm _ _⟩
  | cons y ys ih =>
    rw [List.foldlM_cons] at hl
    cases hlook : Search.look goal (label x + 1) s y with
    | error found => rw [hlook] at hl; cases hl
    | ok u =>
      rw [hlook] at hl
      obtain ⟨label₁, h₁, hq₁, hold₁, hy₁, hlow₁, hlen₁⟩ :=
        h.look hx (hys y List.mem_cons_self) hlook hq hlow
      have hlabel : label₁ x = label x := (hold₁ x hx).2
      rw [← hlabel] at hl hq₁ hlow₁
      obtain ⟨label₂, h₂, hq₂, hold₂, hys₂, hlow₂, hlen₂⟩ := ih h₁ (hold₁ x hx).1
        (fun z hz => hys z (List.mem_cons_of_mem y hz)) hl hq₁ hlow₁
      rw [hlabel] at hq₂ hlow₂
      refine ⟨label₂, h₂, hq₂, ?_, ?_, hlow₂, by omega⟩
      · intro z hz
        obtain ⟨hz₁, hl₁⟩ := hold₁ z hz
        exact ⟨(hold₂ z hz₁).1, by rw [(hold₂ z hz₁).2, hl₁]⟩
      · intro z hz
        rcases List.mem_cons.mp hz with rfl | hz
        · exact (hold₂ z hy₁).1
        · exact hys₂ z hz

/-- A search that ends at a neighbour has found a goal there. -/
theorem scan_found {ys : List α} (hl : ys.foldlM (look goal d) s = .error found) :
    found = d ∧ ∃ y ∈ ys, goal y = true := by
  induction ys generalizing s with
  | nil => cases hl
  | cons y ys ih =>
    rw [List.foldlM_cons] at hl
    by_cases hseen : y ∈ s.seen
    · rw [look, if_pos hseen] at hl
      obtain ⟨hd, z, hz, hgoal⟩ := ih hl
      exact ⟨hd, z, List.mem_cons_of_mem y hz, hgoal⟩
    · rw [look, if_neg hseen] at hl
      by_cases hgoal : goal y = true
      · rw [if_pos hgoal] at hl
        cases hl
        exact ⟨rfl, y, List.mem_cons_self, hgoal⟩
      · rw [if_neg hgoal] at hl
        obtain ⟨hd, z, hz, hg⟩ := ih hl
        exact ⟨hd, z, List.mem_cons_of_mem y hz, hg⟩

theorem search_correct (fuel : Nat) (h : Labelled next goal start label [] s)
    (hq : ∃ low, Ordered low s.queue ∧ ∀ z ∈ s.seen, label z ≤ low + 1) {all : List α}
    (hall : ∀ x, ∀ y ∈ next x, y ∈ all) (hstart : start ∈ all)
    (hf : s.queue.length + all.length ≤ fuel + s.seen.length) :
    Correct next goal start (search next goal fuel s) := by
  induction fuel generalizing s label with
  | zero =>
    have hseen : s.seen ⊆ all := fun x hx => (h.walk x hx).mem hall hstart
    have hle : s.seen.length ≤ all.length := (h.nodup.subperm hseen).length_le
    have hempty : s.queue = [] := List.length_eq_zero_iff.mp (by omega)
    exact h.correct_none hempty
  | succ fuel ih =>
    obtain ⟨low, hord, hlow⟩ := hq
    cases hqueue : s.queue with
    | nil =>
      rw [search, hqueue]
      exact h.correct_none hqueue
    | cons entry queue =>
      obtain ⟨x, d⟩ := entry
      have hmem : (x, d) ∈ s.queue := by rw [hqueue]; exact List.mem_cons_self
      obtain ⟨hx, hd⟩ := h.queued (x, d) hmem
      have hd : label x = d := hd
      subst hd
      rw [hqueue] at hord
      obtain ⟨hpair, hrest⟩ := List.pairwise_cons.mp hord.1
      have hbound := hord.2 (x, label x) List.mem_cons_self
      have hrange : ∀ entry ∈ queue, label x ≤ entry.2 ∧ entry.2 ≤ label x + 1 := by
        intro entry he
        have hle := hpair entry he
        have hup := (hord.2 entry (List.mem_cons_of_mem _ he)).2
        exact ⟨hle, by omega⟩
      have hord' : Ordered (label x) queue := ⟨hrest, hrange⟩
      have hopen : Labelled next goal start label [x] { s with queue } :=
        { started := h.started, zero := h.zero, nodup := h.nodup
          queued := fun entry he => h.queued entry (by
            rw [hqueue]
            exact List.mem_cons_of_mem _ he)
          walk := h.walk, plain := h.plain
          closed := by
            intro z hz hnq hno
            refine h.closed z hz ?_ List.not_mem_nil
            rw [hqueue, List.map_cons]
            intro hm
            rcases List.mem_cons.mp hm with rfl | hm
            · exact hno List.mem_cons_self
            · exact hnq hm }
      have hlow' : ∀ z ∈ s.seen, label z ≤ label x + 1 := by
        intro z hz
        have hle := hlow z hz
        omega
      have hleast : ∀ n ∈ Reaches (fun a b => b ∈ next a) (fun y => goal y = true) start,
          label x + 1 ≤ n := by
        rintro n ⟨y, hy, hw⟩
        by_contra hlt
        have hfirst : ∀ entry ∈ s.queue, label x ≤ entry.2 := by
          intro entry he
          rw [hqueue] at he
          rcases List.mem_cons.mp he with rfl | he
          · exact Nat.le_refl _
          · exact (hrange entry he).1
        have hzero := h.zero
        have hys := h.seen_of_walk hfirst hw h.started (by omega)
        rw [h.plain y hys] at hy
        cases hy
      cases hscan : (next x).foldlM (look goal (label x + 1)) { s with queue } with
      | error found =>
        obtain ⟨rfl, y, hy, hgoal⟩ := scan_found hscan
        simp only [search, hqueue, hscan]
        exact ⟨⟨y, hgoal, (h.walk x hx).snoc hy⟩, hleast⟩
      | ok t =>
        simp only [search, hqueue, hscan]
        obtain ⟨label', h', hq', hold, hys, hlow'', hlen⟩ :=
          hopen.scan (next x) hx (fun y hy => hy) hscan hord' hlow'
        have hclosed : Labelled next goal start label' [] t :=
          { h' with
            closed := by
              intro z hz hnq _ w hw
              by_cases hzx : z = x
              · subst hzx
                have hws := hys w hw
                exact ⟨hws, by rw [(hold z hx).2]; exact hlow'' w hws⟩
              · exact h'.closed z hz hnq (fun hm => hzx (List.mem_singleton.mp hm)) w hw }
        apply ih hclosed ⟨label x, hq', hlow''⟩
        rw [hqueue, List.length_cons] at hf
        have hlen : t.queue.length + s.seen.length = t.seen.length + queue.length := hlen
        omega

/-- A search with a pass for every entry there may be finds the distance of the nearest goal. -/
theorem distance_correct (hgoal : goal start = false) {all : List α}
    (hall : ∀ x, ∀ y ∈ next x, y ∈ all) (hstart : start ∈ all) (hf : all.length ≤ fuel) :
    Correct next goal start (distance next goal fuel start) := by
  have hlabels : Labelled next goal start (fun _ => 0) [] ⟨[(start, 0)], [start]⟩ :=
    { started := List.mem_cons_self
      zero := rfl
      nodup := List.nodup_singleton start
      queued := by simp
      walk := by
        intro x hx
        rw [List.mem_singleton.mp hx]
        exact .stay
      plain := by simpa using hgoal
      closed := by
        intro x hx hnq
        exact absurd (by simpa using hx) (by simpa using hnq) }
  have hordered : Ordered 0 [(start, 0)] := ⟨List.pairwise_singleton _ _, by simp⟩
  apply search_correct fuel hlabels ⟨0, hordered, by simp⟩ hall hstart
  simp only [List.length_cons, List.length_nil]
  omega

end Algorithm

section Shortcuts

/-- The steps of `R` with one more step, or with one more and its way back. -/
inductive Linked (R : α → α → Prop) (both : Prop) (x y : α) : α → α → Prop
  | old : R a b → Linked R both x y a b
  | new : Linked R both x y x y
  | back : both → Linked R both x y y x

/-- A way over a link, from its first step over the link on. -/
theorem Walk.first_link (h : Walk (Linked R both x y) n a z) :
    Walk R n a z ∨
      (∃ k m, n = k + 1 + m ∧ Walk R k a x ∧ Walk (Linked R both x y) m y z) ∨
      (both ∧ ∃ k m, n = k + 1 + m ∧ Walk R k a y ∧ Walk (Linked R both x y) m x z) := by
  induction h with
  | stay => exact .inl .stay
  | @step a b n z hs hw ih =>
    cases hs with
    | old hr =>
      rcases ih with hold | ⟨k, m, rfl, hk, hm⟩ | ⟨hboth, k, m, rfl, hk, hm⟩
      · exact .inl (.step hr hold)
      · exact .inr (.inl ⟨k + 1, m, by omega, .step hr hk, hm⟩)
      · exact .inr (.inr ⟨hboth, k + 1, m, by omega, .step hr hk, hm⟩)
    | new => exact .inr (.inl ⟨0, n, by omega, .stay, hw⟩)
    | back hboth => exact .inr (.inr ⟨hboth, 0, n, by omega, .stay, hw⟩)

/-- A shortest way over a link uses it once, in one direction. -/
theorem shortest_linked (hd : IsLeast (Reaches (Linked R both x y) goal a) d) :
    d ∈ Reaches R goal a ∨
      (∃ k, Walk R k a x ∧ ∃ n ∈ Reaches R goal y, d = k + 1 + n) ∨
      (both ∧ ∃ k, Walk R k a y ∧ ∃ n ∈ Reaches R goal x, d = k + 1 + n) := by
  obtain ⟨⟨z, hz, hw⟩, hleast⟩ := hd
  have hlift : ∀ {n a b}, Walk R n a b → Walk (Linked R both x y) n a b :=
    fun h => h.mono fun _ _ => .old
  rcases hw.first_link with hold | ⟨k, m, rfl, hk, hm⟩ | ⟨hboth, k, m, rfl, hk, hm⟩
  · exact .inl ⟨z, hz, hold⟩
  · rcases hm.first_link with hold | ⟨i, j, rfl, -, hj⟩ | ⟨-, i, j, rfl, -, hj⟩
    · exact .inr (.inl ⟨k, hk, m, ⟨z, hz, hold⟩, rfl⟩)
    · -- the second crossing starts at `x` again
      have hle := hleast ⟨z, hz, ((hlift hk).snoc .new).trans hj⟩
      omega
    · have hle := hleast ⟨z, hz, (hlift hk).trans hj⟩
      omega
  · rcases hm.first_link with hold | ⟨i, j, rfl, -, hj⟩ | ⟨-, i, j, rfl, -, hj⟩
    · exact .inr (.inr ⟨hboth, k, hk, m, ⟨z, hz, hold⟩, rfl⟩)
    · have hle := hleast ⟨z, hz, (hlift hk).trans hj⟩
      omega
    · have hle := hleast ⟨z, hz, ((hlift hk).snoc (.back hboth)).trans hj⟩
      omega

end Shortcuts

end Search

import Mathlib.Logic.Relation
import Continuity.JsOrder
import Continuity.SeedDistance

namespace Continuity
open Collections
set_option autoImplicit true

section Stack

variable {neighbours : TrustID → List TrustID} {id : Nat} {all stack : List TrustID}
  {components : OrderedMap TrustID Nat} {motive : List TrustID → OrderedMap TrustID Nat → Prop}

theorem has_eq_false {m : OrderedMap TrustID Nat} : m.has x = false ↔ m.get? x = none := by
  rw [OrderedMap.has, Option.isSome_eq_false_iff, Option.isNone_iff_eq_none]

/-- A node that gets a component leaves one node less without. -/
theorem countP_set_lt (hx : x ∈ all) (hnone : components.has x = false) (id : Nat) :
    all.countP (fun y => !(components.set x id).has y) < all.countP fun y => !components.has y := by
  have hfilter : all.countP (fun y => !(components.set x id).has y) =
      (all.filter fun y => !components.has y).countP fun y => !decide (y = x) := by
    rw [List.countP_filter]
    simp only [has_set, Bool.not_or]
  rw [hfilter, List.countP_eq_length_filter (p := fun y => !components.has y),
    List.countP_lt_length_iff]
  exact ⟨x, List.mem_filter.mpr ⟨hx, by simp [hnone]⟩, by simp⟩

/-- What the passes of the loop over a stack keep holds at its end, when the stack is empty: there
is a pass for every node without a component. -/
theorem visit_ends
    (hskip : ∀ x stack components, components.has x = true → motive (x :: stack) components →
      motive stack components)
    (hstep : ∀ x stack components, components.has x = false → motive (x :: stack) components →
      motive ((neighbours x).filter (fun next => !(components.set x id).has next) ++ stack)
        (components.set x id))
    (hall : ∀ stack components, motive stack components → stack ⊆ all)
    (hf : all.countP (fun x => !components.has x) ≤ fuel) (h : motive stack components) :
    motive [] (visit neighbours id fuel stack components) := by
  have hdrop : ∀ {components} (stack), motive stack components →
      motive (stack.dropWhile components.has) components := by
    intro components stack h
    induction stack with
    | nil => exact h
    | cons x stack ih =>
      by_cases hx : components.has x = true
      · rw [List.dropWhile_cons_of_pos hx]
        exact ih (hskip x stack components hx h)
      · rw [List.dropWhile_cons_of_neg hx]
        exact h
  induction fuel generalizing stack components with
  | zero =>
    have hempty : stack.dropWhile components.has = [] := by
      rw [List.dropWhile_eq_nil_iff]
      intro x hx
      simpa using List.countP_eq_zero.mp (Nat.le_zero.mp hf) x (hall stack components h hx)
    rw [visit, ← hempty]
    exact hdrop stack h
  | succ fuel ih =>
    have h := hdrop stack h
    rw [visit]
    split
    · next hempty => rwa [hempty] at h
    · next current rest hrest =>
      rw [hrest] at h
      have hnone : components.has current = false := by
        have hhead := List.head_dropWhile_not components.has (l := stack)
          (by rw [hrest]; exact List.cons_ne_nil _ _)
        simpa [hrest] using hhead
      have hless := countP_set_lt (hall _ _ h List.mem_cons_self) hnone id
      exact ih (by omega) (hstep current rest components hnone h)

end Stack

section Partition

open Relation

variable {neighbours : TrustID → List TrustID} {old components : OrderedMap TrustID Nat}
  {leaders all stack : List TrustID} {leader : TrustID} {id : Nat}

/-- A way over neighbours. -/
def Connected (neighbours : TrustID → List TrustID) : TrustID → TrustID → Prop :=
  ReflTransGen fun x y => y ∈ neighbours x

/-- The loop over the stack of one component, between two passes. -/
structure Visiting (neighbours : TrustID → List TrustID) (old : OrderedMap TrustID Nat)
    (leader : TrustID) (id : Nat) (stack : List TrustID) (components : OrderedMap TrustID Nat) :
    Prop where
  kept : ∀ x, old.has x = true → components.get? x = old.get? x
  fresh : ∀ x, old.has x = false → components.has x = true →
    components.get? x = some id ∧ Connected neighbours leader x
  reached : ∀ x ∈ stack, Connected neighbours leader x
  started : components.has leader = true ∨ leader ∈ stack
  closed : ∀ x, components.has x = true → ∀ y ∈ neighbours x,
    components.has y = true ∨ y ∈ stack

theorem Visiting.skip (h : Visiting neighbours old leader id (x :: stack) components)
    (hx : components.has x = true) : Visiting neighbours old leader id stack components := by
  have hrest : ∀ y, components.has y = true ∨ y ∈ x :: stack →
      components.has y = true ∨ y ∈ stack := by
    rintro y (hy | hy)
    · exact .inl hy
    · rcases List.mem_cons.mp hy with rfl | hy
      · exact .inl hx
      · exact .inr hy
  exact
    { kept := h.kept
      fresh := h.fresh
      reached := fun y hy => h.reached y (List.mem_cons_of_mem x hy)
      started := hrest leader h.started
      closed := fun y hy z hz => hrest z (h.closed y hy z hz) }

theorem Visiting.step (h : Visiting neighbours old leader id (x :: stack) components)
    (hx : components.has x = false) :
    Visiting neighbours old leader id
      ((neighbours x).filter (fun next => !(components.set x id).has next) ++ stack)
      (components.set x id) := by
  have hreach : Connected neighbours leader x := h.reached x List.mem_cons_self
  have hrest : ∀ y, components.has y = true ∨ y ∈ x :: stack →
      (components.set x id).has y = true ∨ y ∈
        (neighbours x).filter (fun next => !(components.set x id).has next) ++ stack := by
    rintro y (hy | hy)
    · exact .inl (by rw [has_set, hy, Bool.or_true])
    · rcases List.mem_cons.mp hy with rfl | hy
      · exact .inl (by simp [has_set])
      · exact .inr (List.mem_append_right _ hy)
  refine
    { kept := fun y hy => ?_, fresh := fun y hold hy => ?_, reached := fun y hy => ?_
      started := hrest leader h.started, closed := fun y hy z hz => ?_ }
  · have hne : y ≠ x := by
      rintro rfl
      rw [has_eq_false, h.kept y hy] at hx
      rw [OrderedMap.has, hx] at hy
      cases hy
    rw [OrderedMap.get?_set_of_ne _ hne]
    exact h.kept y hy
  · by_cases he : y = x
    · subst he
      exact ⟨OrderedMap.get?_set_self _ _ _, hreach⟩
    · rw [has_set, decide_eq_false he, Bool.false_or] at hy
      rw [OrderedMap.get?_set_of_ne _ he]
      exact h.fresh y hold hy
  · rcases List.mem_append.mp hy with hy | hy
    · exact hreach.tail (List.mem_of_mem_filter hy)
    · exact h.reached y (List.mem_cons_of_mem x hy)
  · by_cases he : y = x
    · subst he
      by_cases hz' : (components.set y id).has z = true
      · exact .inl hz'
      · exact .inr (List.mem_append_left _ (List.mem_filter.mpr ⟨hz, by simpa using hz'⟩))
    · rw [has_set, decide_eq_false he, Bool.false_or] at hy
      exact hrest z (h.closed y hy z hz)

theorem Visiting.has_of_connected (h : Visiting neighbours old leader id [] components)
    (hc : Connected neighbours leader x) : components.has x = true := by
  induction hc with
  | refl => exact h.started.resolve_right List.not_mem_nil
  | tail _ hs ih => exact (h.closed _ ih _ hs).resolve_right List.not_mem_nil

/-- The loop over the stack ends with the component of its first node. -/
theorem visit_component (hall : ∀ x, ∀ y ∈ neighbours x, y ∈ all) (hleader : leader ∈ all)
    (hclosed : ∀ x, old.has x = true → ∀ y ∈ neighbours x, old.has y = true)
    (hf : all.length ≤ fuel) (id : Nat) :
    Visiting neighbours old leader id [] (visit neighbours id fuel [leader] old) := by
  have hstart : Visiting neighbours old leader id [leader] old :=
    { kept := fun _ _ => rfl
      fresh := by
        intro x hold hx
        rw [hold] at hx
        cases hx
      reached := by
        intro x hx
        rw [List.mem_singleton.mp hx]
        exact .refl
      started := .inr List.mem_cons_self
      closed := fun x hx y hy => .inl (hclosed x hx y hy) }
  refine (visit_ends (motive := fun stack components =>
    Visiting neighbours old leader id stack components ∧ stack ⊆ all) ?_ ?_ ?_
    (List.countP_le_length.trans hf) ⟨hstart, by simpa using hleader⟩).1
  · rintro x stack components hx ⟨hv, hsub⟩
    exact ⟨hv.skip hx, fun y hy => hsub (List.mem_cons_of_mem x hy)⟩
  · rintro x stack components hx ⟨hv, hsub⟩
    refine ⟨hv.step hx, fun y hy => ?_⟩
    rcases List.mem_append.mp hy with hy | hy
    · exact hall x y (List.mem_of_mem_filter hy)
    · exact hsub (List.mem_cons_of_mem x hy)
  · exact fun stack components h => h.2

/-- A node has the number of the leader from which a way comes to it. -/
def Partition (neighbours : TrustID → List TrustID) (components : OrderedMap TrustID Nat)
    (leaders : List TrustID) : Prop :=
  ∀ x i, components.get? x = some i ↔
    ∃ leader, leaders[i]? = some leader ∧ Connected neighbours leader x

theorem Partition.closed (h : Partition neighbours components leaders)
    (hx : components.has x = true) (hc : Connected neighbours x y) :
    components.get? y = components.get? x := by
  obtain ⟨i, hi⟩ := Option.isSome_iff_exists.mp hx
  obtain ⟨leader, hleader, hway⟩ := (h x i).mp hi
  rw [hi]
  exact (h y i).mpr ⟨leader, hleader, hway.trans hc⟩

theorem Connected.symm (hsym : ∀ x, ∀ y ∈ neighbours x, x ∈ neighbours y)
    (h : Connected neighbours x y) : Connected neighbours y x := by
  induction h with
  | refl => exact .refl
  | tail _ hs ih => exact ih.head (hsym _ _ hs)

theorem Partition.add (hsym : ∀ x, ∀ y ∈ neighbours x, x ∈ neighbours y)
    (h : Partition neighbours old leaders) (hnone : old.has leader = false)
    (hv : Visiting neighbours old leader leaders.length [] components) :
    Partition neighbours components (leaders ++ [leader]) := by
  have hapart : ∀ x, old.has x = true → ¬Connected neighbours leader x := by
    intro x hx hc
    have hsame := h.closed hx (hc.symm hsym)
    rw [has_eq_false] at hnone
    rw [OrderedMap.has, ← hsame, hnone] at hx
    cases hx
  intro x i
  by_cases hx : old.has x = true
  · rw [hv.kept x hx, h x i]
    constructor
    · rintro ⟨other, ho, hc⟩
      exact ⟨other, by rw [List.getElem?_append_left (List.getElem?_eq_some_iff.mp ho).1, ho], hc⟩
    · rintro ⟨other, ho, hc⟩
      rcases Nat.lt_or_ge i leaders.length with hi | hi
      · rw [List.getElem?_append_left hi] at ho
        exact ⟨other, ho, hc⟩
      · rw [List.getElem?_append_right hi, List.getElem?_singleton] at ho
        split at ho
        · cases ho
          exact absurd hc (hapart x hx)
        · cases ho
  · have hx := Bool.not_eq_true _ ▸ hx
    constructor
    · intro hi
      obtain ⟨hid, hc⟩ := hv.fresh x hx (by rw [OrderedMap.has, hi]; rfl)
      rw [hi, Option.some.injEq] at hid
      exact ⟨leader, by rw [hid]; simp, hc⟩
    · rintro ⟨other, ho, hc⟩
      rcases Nat.lt_or_ge i leaders.length with hi | hi
      · rw [List.getElem?_append_left hi] at ho
        have hold := (h x i).mpr ⟨other, ho, hc⟩
        rw [OrderedMap.has, hold] at hx
        cases hx
      · rw [List.getElem?_append_right hi, List.getElem?_singleton] at ho
        split at ho
        · next hzero =>
          cases ho
          rw [(hv.fresh x hx (hv.has_of_connected hc)).1]
          congr 1
          omega
        · cases ho

/-- The loop over the nodes, with `rest` to come: every component has a leader, its first node. -/
structure Searched (neighbours : TrustID → List TrustID) (nodes rest : List TrustID)
    (components : OrderedMap TrustID Nat) (leaders : List TrustID) : Prop where
  partition : Partition neighbours components leaders
  done : ∀ x ∈ nodes, x ∈ rest ∨ components.has x = true
  least : ∀ leader ∈ leaders, ∀ x ∈ nodes, Connected neighbours leader x →
    unitsLe leader x = true
  before : ∀ leader ∈ leaders, ∀ x ∈ rest, unitsLe leader x = true
  sorted : leaders.Pairwise fun a b => unitsLe a b = true
  subset : leaders ⊆ nodes

theorem Searched.skip (h : Searched neighbours nodes (x :: rest) components leaders)
    (hx : components.has x = true) : Searched neighbours nodes rest components leaders :=
  { h with
    done := by
      intro y hy
      rcases h.done y hy with hm | hm
      · rcases List.mem_cons.mp hm with rfl | hm
        · exact .inr hx
        · exact .inl hm
      · exact .inr hm
    before := fun leader hl y hy => h.before leader hl y (List.mem_cons_of_mem x hy) }

theorem Searched.add (hsym : ∀ x, ∀ y ∈ neighbours x, x ∈ neighbours y)
    (h : Searched neighbours nodes (x :: rest) old leaders) (hmem : x ∈ nodes)
    (hrest : ∀ y ∈ rest, unitsLe x y = true) (hx : old.has x = false)
    (hv : Visiting neighbours old x leaders.length [] components) :
    Searched neighbours nodes rest components (leaders ++ [x]) := by
  have hkept : ∀ y, old.has y = true → components.has y = true := by
    intro y hy
    rw [OrderedMap.has, hv.kept y hy]
    exact hy
  have hself : components.has x = true := hv.has_of_connected .refl
  refine
    { partition := h.partition.add hsym hx hv, done := fun y hy => ?_, least := ?_
      before := ?_, sorted := ?_, subset := ?_ }
  · rcases h.done y hy with hm | hm
    · rcases List.mem_cons.mp hm with rfl | hm
      · exact .inr hself
      · exact .inl hm
    · exact .inr (hkept y hm)
  · intro leader hl y hy hc
    rcases List.mem_append.mp hl with hl | hl
    · exact h.least leader hl y hy hc
    · rw [List.mem_singleton] at hl
      subst hl
      rcases h.done y hy with hm | hm
      · rcases List.mem_cons.mp hm with rfl | hm
        · exact (unitsLe_total y y).elim id id
        · exact hrest y hm
      · -- a node with a component is on no way from a node without
        have hsame := h.partition.closed hm (hc.symm hsym)
        rw [has_eq_false] at hx
        rw [OrderedMap.has, ← hsame, hx] at hm
        cases hm
  · intro leader hl y hy
    rcases List.mem_append.mp hl with hl | hl
    · exact h.before leader hl y (List.mem_cons_of_mem x hy)
    · rw [List.mem_singleton.mp hl]
      exact hrest y hy
  · rw [List.pairwise_append]
    refine ⟨h.sorted, List.pairwise_singleton _ _, fun leader hl y hy => ?_⟩
    rw [List.mem_singleton.mp hy]
    exact h.before leader hl x List.mem_cons_self
  · intro leader hl
    rcases List.mem_append.mp hl with hl | hl
    · exact h.subset hl
    · rwa [List.mem_singleton.mp hl]

theorem Searched.first (h : Searched neighbours nodes rest components leaders)
    (hi : i < leaders.length) : components.get? leaders[i] = some i :=
  (h.partition _ i).mpr ⟨leaders[i], List.getElem?_eq_getElem hi, .refl⟩

theorem Searched.same (hsym : ∀ x, ∀ y ∈ neighbours x, x ∈ neighbours y)
    (h : Searched neighbours nodes rest components leaders) (ha : components.has a = true) :
    components.get? a = components.get? b ↔ Connected neighbours a b := by
  constructor
  · intro hsame
    obtain ⟨i, hi⟩ := Option.isSome_iff_exists.mp ha
    obtain ⟨leader, hleader, hwa⟩ := (h.partition a i).mp hi
    obtain ⟨other, hother, hwb⟩ := (h.partition b i).mp (hsame ▸ hi)
    rw [hleader, Option.some.injEq] at hother
    subst hother
    exact (hwa.symm hsym).trans hwb
  · intro hc
    exact (h.partition.closed ha hc).symm

end Partition

section Graph

variable {profile : Option GraphSettings} {graph : GraphV0} {floor : JsNumber}

theorem adjacent_reachable (profile : Option GraphSettings) (graph : GraphV0) (floor : JsNumber)
    (node : TrustID) :
    ∀ next ∈ adjacent profile graph floor node, next ∈ reachableNodes profile graph := by
  intro next hn
  rw [adjacent] at hn
  split at hn
  · rw [mem_sortStrings, mem_unique] at hn
    obtain ⟨arc, harc, rfl⟩ := List.mem_map.mp hn
    exact List.mem_append_right _ (List.mem_map_of_mem (List.mem_of_mem_filter harc))
  · cases hn

theorem foldl_searched {nodes rest : List TrustID}
    (hsym : ∀ x, ∀ y ∈ adjacent profile graph floor x, x ∈ adjacent profile graph floor y)
    (hsub : nodes ⊆ graph.nodes)
    (hrest : rest ⊆ nodes) (hsorted : rest.Pairwise fun a b => unitsLe a b = true)
    (h : Searched (adjacent profile graph floor) nodes rest components leaders) :
    ∃ leaders', Searched (adjacent profile graph floor) nodes []
      (rest.foldl (fun (components, componentId) node =>
        if components.has node then (components, componentId)
        else (visit (adjacent profile graph floor) componentId
          (reachableNodes profile graph).length [node] components, componentId + 1))
        (components, leaders.length)).1 leaders' := by
  induction rest generalizing components leaders with
  | nil => exact ⟨leaders, h⟩
  | cons x rest ih =>
    obtain ⟨hle, hsorted⟩ := List.pairwise_cons.mp hsorted
    have hrest' : rest ⊆ nodes := fun y hy => hrest (List.mem_cons_of_mem x hy)
    have hmem : x ∈ nodes := hrest List.mem_cons_self
    rw [List.foldl_cons]
    dsimp only
    by_cases hx : components.has x = true
    · rw [if_pos hx]
      exact ih hrest' hsorted (h.skip hx)
    · rw [if_neg hx]
      have hclosed : ∀ y, components.has y = true → ∀ z ∈ adjacent profile graph floor y,
          components.has z = true := by
        intro y hy z hz
        rw [OrderedMap.has, h.partition.closed hy (.single hz)]
        exact hy
      have hv := visit_component (adjacent_reachable profile graph floor)
        (List.mem_append_left _ (hsub hmem)) hclosed le_rfl leaders.length
      have hnext := h.add hsym hmem hle (by simpa using hx) hv
      rw [show leaders.length + 1 = (leaders ++ [x]).length by simp]
      exact ih hrest' hsorted hnext

/-- The search numbers the components in the order of their first nodes. -/
theorem connectedComponents_searched
    (hsym : ∀ x, ∀ y ∈ adjacent profile graph floor x, x ∈ adjacent profile graph floor y) :
    ∃ leaders, Searched (adjacent profile graph floor) (sortStrings (unique graph.nodes)) []
      (connectedComponents profile graph floor) leaders := by
  have hsub : sortStrings (unique graph.nodes) ⊆ graph.nodes := fun x hx =>
    mem_unique.mp (mem_sortStrings.mp hx)
  have hstart : Searched (adjacent profile graph floor) (sortStrings (unique graph.nodes))
      (sortStrings (unique graph.nodes)) .empty [] :=
    { partition := by
        intro x i
        constructor
        · nofun
        · rintro ⟨leader, hl, -⟩
          cases hl
      done := fun x hx => .inl hx
      least := nofun
      before := nofun
      sorted := .nil
      subset := List.nil_subset _ }
  exact foldl_searched hsym hsub (List.Subset.refl _) (sortStrings_sorted _) hstart

/-- The edge has these ends, in one order or the other. -/
def Joins (edge : GraphEdgeV0) (a b : TrustID) : Prop :=
  (edge.src = a ∧ edge.dst = b) ∨ (edge.src = b ∧ edge.dst = a)

/-- An undirected graph whose edges end at its nodes. -/
structure Undirected (profile : Option GraphSettings) (graph : GraphV0) : Prop where
  projection : projection profile ≠ .directed_outbound
  ends : ∀ edge ∈ graph.edges, edge.src ∈ graph.nodes ∧ edge.dst ∈ graph.nodes

theorem graphMetricWeight_positive (profile : Option GraphSettings) (edge : GraphEdgeV0) :
    graphMetricWeight profile edge false = positiveWeight profile edge := by
  rw [positiveWeight, Int.ofNat_toNat, max_comm]
  rfl

theorem mem_edgeArcs (h : projection profile ≠ .directed_outbound) :
    (∃ arc ∈ edgeArcs profile false edge, arc.reaches floor = true ∧ arc.src = a ∧ arc.dst = b) ↔
      positiveWeight profile edge ≠ 0 ∧
        (JsNumber.ofNat (positiveWeight profile edge)).lt floor = false ∧ Joins edge a b := by
  have hreach : ∀ src dst, Arc.reaches ⟨src, dst, graphMetricWeight profile edge false⟩ floor =
      !(JsNumber.ofNat (positiveWeight profile edge)).lt floor := by
    intro src dst
    rw [Arc.reaches, graphMetricWeight_positive, Int.natAbs_natCast]
  have hzero : graphMetricWeight profile edge false = 0 ↔ positiveWeight profile edge = 0 := by
    rw [graphMetricWeight_positive, Int.natCast_eq_zero]
  rw [edgeArcs]
  split
  · next hw => simp [hzero.mp hw]
  · next hw =>
    have hw := fun hp => hw (hzero.mpr hp)
    split
    · next hboth =>
      simp only [List.mem_cons, List.not_mem_nil, or_false, exists_eq_or_imp, exists_eq_left,
        hreach, Bool.not_eq_true', Joins]
      grind
    · next hboth =>
      have hloop : edge.src = edge.dst := by
        by_contra hne
        exact hboth ⟨h, hne⟩
      simp only [List.mem_singleton, exists_eq_left, hreach, Bool.not_eq_true', Joins]
      grind

theorem mem_adjacent (h : Undirected profile graph) : b ∈ adjacent profile graph floor a ↔
    ∃ edge ∈ graph.edges, positiveWeight profile edge ≠ 0 ∧
      (JsNumber.ofNat (positiveWeight profile edge)).lt floor = false ∧ Joins edge a b := by
  have harcs : b ∈ ((projectedGraphArcs profile graph false).filter fun arc =>
      arc.src == a && arc.reaches floor).map Arc.dst ↔
      ∃ edge ∈ graph.edges, positiveWeight profile edge ≠ 0 ∧
        (JsNumber.ofNat (positiveWeight profile edge)).lt floor = false ∧ Joins edge a b := by
    simp only [← mem_edgeArcs h.projection, projectedGraphArcs, List.mem_map, List.mem_filter,
      List.mem_flatMap, Bool.and_eq_true, beq_iff_eq]
    constructor
    · rintro ⟨arc, ⟨⟨edge, he, harc⟩, hsrc, hreach⟩, hdst⟩
      exact ⟨edge, he, arc, harc, hreach, hsrc, hdst⟩
    · rintro ⟨edge, he, arc, harc, hreach, hsrc, hdst⟩
      exact ⟨arc, ⟨⟨edge, he, harc⟩, hsrc, hreach⟩, hdst⟩
  rw [adjacent]
  split
  · rw [mem_sortStrings, mem_unique, harcs]
  · next hnode =>
    refine iff_of_false List.not_mem_nil ?_
    rintro ⟨edge, he, -, -, hjoins⟩
    apply hnode
    rw [List.contains_iff_mem]
    rcases hjoins with ⟨rfl, -⟩ | ⟨-, rfl⟩
    · exact (h.ends edge he).1
    · exact (h.ends edge he).2

theorem adjacent_symm (h : Undirected profile graph) :
    ∀ x, ∀ y ∈ adjacent profile graph floor x, x ∈ adjacent profile graph floor y := by
  intro x y hy
  obtain ⟨edge, he, hw, hreach, hjoins⟩ := (mem_adjacent h).mp hy
  exact (mem_adjacent h).mpr ⟨edge, he, hw, hreach, hjoins.symm⟩

theorem floor_le_iff (hfloor : (JsNumber.ofNat 0).lt floor = true) (weight : Nat) :
    floor.le (.ofInt weight) = true ↔
      weight ≠ 0 ∧ (JsNumber.ofNat weight).lt floor = false := by
  have hofInt : JsNumber.ofInt weight = .ofNat weight := by
    rw [JsNumber.ofInt, Int.cast_natCast]
    rfl
  have hnan : floor ≠ .nan := by
    rintro rfl
    cases hfloor
  rw [hofInt]
  constructor
  · intro hle
    constructor
    · rintro rfl
      rw [JsNumber.not_le_of_lt hfloor] at hle
      cases hle
    · by_contra hlt
      rw [JsNumber.not_le_of_lt (by simpa using hlt)] at hle
      cases hle
  · rintro ⟨-, hlt⟩
    exact JsNumber.le_of_not_lt nofun hnan hlt

/-- A way over edges whose metric weight is at least the floor. -/
def Joined (profile : Option GraphSettings) (graph : GraphV0) (floor : JsNumber) :
    TrustID → TrustID → Prop :=
  Relation.ReflTransGen fun a b => ∃ edge ∈ graph.edges,
    floor.le (.ofInt (graphMetricWeight profile edge false)) = true ∧ Joins edge a b

theorem connected_iff_joined (h : Undirected profile graph)
    (hfloor : (JsNumber.ofNat 0).lt floor = true) :
    Connected (adjacent profile graph floor) a b ↔ Joined profile graph floor a b := by
  have hstep : (fun x y => y ∈ adjacent profile graph floor x) = fun a b => ∃ edge ∈ graph.edges,
      floor.le (.ofInt (graphMetricWeight profile edge false)) = true ∧ Joins edge a b := by
    funext x y
    rw [mem_adjacent h]
    simp only [graphMetricWeight_positive, floor_le_iff hfloor, and_assoc]
  rw [Connected, Joined, hstep]

theorem Connected.mem_nodes (h : Undirected profile graph)
    (hc : Connected (adjacent profile graph floor) a b) (ha : a ∈ graph.nodes) :
    b ∈ graph.nodes := by
  induction hc with
  | refl => exact ha
  | tail _ hs _ =>
    obtain ⟨edge, he, -, -, ⟨-, rfl⟩ | ⟨rfl, -⟩⟩ := (mem_adjacent h).mp hs
    · exact (h.ends edge he).2
    · exact (h.ends edge he).1

theorem Searched.mem_nodes (hgraph : Undirected profile graph)
    (h : Searched (adjacent profile graph floor) (sortStrings (unique graph.nodes)) []
      components leaders) :
    (∃ i < leaders.length, components.get? node = some i) ↔ node ∈ graph.nodes := by
  have hmem : ∀ x, x ∈ sortStrings (unique graph.nodes) ↔ x ∈ graph.nodes := fun x => by
    rw [mem_sortStrings, mem_unique]
  constructor
  · rintro ⟨i, -, hi⟩
    obtain ⟨leader, hl, hc⟩ := (h.partition node i).mp hi
    exact hc.mem_nodes hgraph ((hmem leader).mp (h.subset (List.mem_of_getElem? hl)))
  · intro hn
    have hhas := (h.done node ((hmem node).mpr hn)).resolve_left List.not_mem_nil
    obtain ⟨i, hi⟩ := Option.isSome_iff_exists.mp hhas
    obtain ⟨leader, hl, -⟩ := (h.partition node i).mp hi
    exact ⟨i, (List.getElem?_eq_some_iff.mp hl).1, hi⟩

/-- Every node has an id, two nodes have the same id just when they are joined, and the ids count
the components in the order of their first nodes. -/
theorem connectedComponents_joined (profile : Option GraphSettings) (graph : GraphV0)
    (floor : JsNumber) (hfloor : (JsNumber.ofNat 0).lt floor = true)
    (hproj : projection profile ≠ .directed_outbound)
    (hends : ∀ edge ∈ graph.edges, edge.src ∈ graph.nodes ∧ edge.dst ∈ graph.nodes) :
    let components := connectedComponents profile graph floor
    (∀ a ∈ graph.nodes, ∀ b ∈ graph.nodes,
      components.get? a = components.get? b ↔ Joined profile graph floor a b) ∧
    ∃ firsts : List TrustID,
      (firsts.Pairwise fun a b => unitsLe a b = true ∧ a ≠ b) ∧
      (∀ node, (∃ i < firsts.length, components.get? node = some i) ↔ node ∈ graph.nodes) ∧
      ∀ i (hi : i < firsts.length), firsts[i] ∈ graph.nodes ∧
        components.get? firsts[i] = some i ∧
        ∀ node, components.get? node = some i → unitsLe firsts[i] node = true := by
  have hgraph : Undirected profile graph := ⟨hproj, hends⟩
  have hsym : ∀ x, ∀ y ∈ adjacent profile graph floor x, x ∈ adjacent profile graph floor y :=
    adjacent_symm hgraph
  obtain ⟨leaders, h⟩ := connectedComponents_searched hsym
  have hmem : ∀ x, x ∈ sortStrings (unique graph.nodes) ↔ x ∈ graph.nodes := fun x => by
    rw [mem_sortStrings, mem_unique]
  refine ⟨fun a ha b _ => ?_, leaders, ?_, fun node => h.mem_nodes hgraph, fun i hi => ⟨?_, ?_, ?_⟩⟩
  · obtain ⟨i, -, hi⟩ := (h.mem_nodes hgraph).mpr ha
    rw [h.same hsym (by rw [OrderedMap.has, hi]; rfl), connected_iff_joined hgraph hfloor]
  · refine List.pairwise_iff_getElem.mpr fun i j hi hj hij => ?_
    refine ⟨List.pairwise_iff_getElem.mp h.sorted i j hi hj hij, fun he => ?_⟩
    have hsame := h.first hi
    rw [he, h.first hj, Option.some.injEq] at hsame
    omega
  · exact (hmem _).mp (h.subset (List.getElem_mem hi))
  · exact h.first hi
  · intro node hnode
    have hnode' : node ∈ graph.nodes :=
      (h.mem_nodes hgraph).mp ⟨i, hi, hnode⟩
    obtain ⟨leader, hl, hc⟩ := (h.partition node i).mp hnode
    rw [List.getElem?_eq_getElem hi, Option.some.injEq] at hl
    subst hl
    exact h.least _ (List.getElem_mem hi) node ((hmem node).mpr hnode') hc

theorem connectedComponents_joined_apart :
    (JsNumber.ofNat 0).lt (.ofNat 1000) = true ∧ projection none ≠ .directed_outbound ∧
      (∀ edge ∈ apartGraph.edges, edge.src ∈ apartGraph.nodes ∧ edge.dst ∈ apartGraph.nodes) ∧
      ∀ a ∈ apartGraph.nodes, ∀ b ∈ apartGraph.nodes,
        (connectedComponents none apartGraph (.ofNat 1000)).get? a =
          (connectedComponents none apartGraph (.ofNat 1000)).get? b ↔
        Joined none apartGraph (.ofNat 1000) a b :=
  ⟨by decide, by decide, by decide,
    (connectedComponents_joined none apartGraph (.ofNat 1000) (by decide) (by decide)
      (by decide)).1⟩

end Graph

end Continuity

import Continuity.GraphComponents
import Continuity.NegativeEdges

namespace Continuity
open Collections GuidedLoops
set_option autoImplicit true

section FirstOccurrences

variable {α β : Type} [DecidableEq α] [DecidableEq β]

theorem unique_append_singleton (values : List α) (a : α) :
    unique (values ++ [a]) = if a ∈ values then unique values else unique values ++ [a] := by
  rw [unique, unique, List.reverse_append, List.reverse_singleton, List.singleton_append,
    List.dedup_cons]
  simp only [List.mem_reverse]
  split
  · rfl
  · rw [List.reverse_cons]

theorem unique_map {values : List α} {f : α → β} (h : Set.InjOn f {a | a ∈ values}) :
    unique (values.map f) = (unique values).map f := by
  induction values using List.reverseRecOn with
  | nil => rfl
  | append_singleton values a ih =>
    have hsub : Set.InjOn f {a | a ∈ values} := h.mono fun b hb => List.mem_append_left _ hb
    have hmem : f a ∈ values.map f ↔ a ∈ values := by
      constructor
      · intro hm
        obtain ⟨b, hb, he⟩ := List.mem_map.mp hm
        rw [← h (List.mem_append_left _ hb) (List.mem_append_right _ List.mem_cons_self) he]
        exact hb
      · exact List.mem_map_of_mem
    rw [List.map_append, List.map_singleton, unique_append_singleton, unique_append_singleton,
      ih hsub]
    by_cases ha : a ∈ values
    · rw [if_pos (hmem.mpr ha), if_pos ha]
    · rw [if_neg (mt hmem.mp ha), if_neg ha, List.map_append, List.map_singleton]

theorem idxOf_map {α β : Type} [BEq α] [LawfulBEq α] [BEq β] [LawfulBEq β] {values : List α}
    {f : α → β} {a : α} (hnodup : values.Nodup) (h : Set.InjOn f {a | a ∈ values})
    (ha : a ∈ values) :
    (values.map f).idxOf (f a) = values.idxOf a := by
  have hlt : values.idxOf a < (values.map f).length := by
    rw [List.length_map]
    exact List.idxOf_lt_length_of_mem ha
  have hat : (values.map f)[values.idxOf a] = f a := by
    rw [List.getElem_map, List.getElem_idxOf]
  have hmap : (values.map f).Nodup := hnodup.map_on fun x hx y hy he => h hx hy he
  have hidx := hmap.idxOf_getElem (values.idxOf a) hlt
  rw [hat] at hidx
  exact hidx

end FirstOccurrences

section Numbers

variable {K : Type} [DecidableEq K] {nameOf : TrustID → K} {nodes : List TrustID}

/-- The names get their numbers in the order in which they first occur. -/
theorem numberNode_ids (nodes : List TrustID) (nameOf : TrustID → K) :
    (nodes.foldl (numberNode nameOf) (.empty, .empty)).1.entries =
      (unique (nodes.map nameOf)).zipIdx := by
  induction nodes using List.reverseRecOn with
  | nil => rfl
  | append_singleton nodes node ih =>
    rw [List.foldl_append, List.foldl_cons, List.foldl_nil, List.map_append, List.map_singleton,
      unique_append_singleton, numberNode]
    generalize nodes.foldl (numberNode nameOf) (.empty, .empty) = s at ih
    have hkeys : s.1.keys = unique (nodes.map nameOf) := by
      rw [OrderedMap.keys, ih, List.zipIdx_map_fst]
    have hhas : s.1.has (nameOf node) = true ↔ nameOf node ∈ nodes.map nameOf := by
      rw [OrderedMap.has, ← OrderedMap.mem_keys, hkeys, mem_unique]
    dsimp only
    by_cases hn : nameOf node ∈ nodes.map nameOf
    · rw [if_pos (hhas.mpr hn), if_pos hn]
      exact ih
    · have hfresh : nameOf node ∉ s.1.entries.map Prod.fst := by
        rw [← OrderedMap.keys, hkeys, mem_unique]
        exact hn
      rw [if_neg (mt hhas.mp hn), if_neg hn, List.zipIdx_append, ← ih]
      change setEntry _ _ s.1.entries = _
      rw [OrderedMap.setEntry_append hfresh, ih, List.length_zipIdx, Nat.zero_add]
      rfl

/-- Every node once, with the place of its name among the names. -/
theorem numbered_entries [BEq K] [LawfulBEq K] (hnodup : nodes.Nodup) (nameOf : TrustID → K) :
    (numbered nodes nameOf).entries =
      nodes.map fun node => (node, (unique (nodes.map nameOf)).idxOf (nameOf node)) := by
  rw [numbered_eq]
  induction nodes using List.reverseRecOn with
  | nil => rfl
  | append_singleton nodes node ih =>
    obtain ⟨hrest, -, hfresh⟩ := List.nodup_append.mp hnodup
    have hnode : node ∉ nodes := fun hm => hfresh node hm node List.mem_cons_self rfl
    have hids := numberNode_ids (nodes ++ [node]) nameOf
    rw [List.foldl_append, List.foldl_cons, List.foldl_nil, numberNode] at hids ⊢
    have hbefore := ih hrest
    generalize nodes.foldl (numberNode nameOf) (.empty, .empty) = s at hids hbefore
    dsimp only at hids ⊢
    generalize (if s.1.has (nameOf node) = true then s.1
      else s.1.set (nameOf node) s.1.entries.length) = ids at hids ⊢
    have hplace : ∀ name ∈ (nodes ++ [node]).map nameOf, ids.get? name =
        some ((unique ((nodes ++ [node]).map nameOf)).idxOf name) := by
      intro name hname
      rw [← OrderedMap.mem_entries, hids, List.mk_mem_zipIdx_iff_getElem?]
      exact List.getElem?_idxOf (mem_unique.mpr hname)
    have hname : nameOf node ∈ (nodes ++ [node]).map nameOf :=
      List.mem_map_of_mem (List.mem_append_right _ List.mem_cons_self)
    have hkeys : node ∉ s.2.entries.map Prod.fst := by
      rw [hbefore, List.map_map]
      simpa using hnode
    change setEntry _ _ s.2.entries = _
    rw [OrderedMap.setEntry_append hkeys, hplace _ hname, Option.getD_some, hbefore,
      List.map_append, List.map_append, List.map_singleton, List.map_singleton]
    congr 1
    apply List.map_congr_left
    intro other hother
    have hin : nameOf other ∈ unique (nodes.map nameOf) :=
      mem_unique.mpr (List.mem_map_of_mem hother)
    rw [unique_append_singleton]
    split
    · rfl
    · rw [List.idxOf_append_of_mem hin]

end Numbers

section Normalizing

variable {assignments : OrderedMap TrustID Nat} {node n m : TrustID}

/-- The communities in the order of their first nodes. -/
def communityOrder (assignments : OrderedMap TrustID Nat) : List (Option Nat) :=
  unique ((sortStrings assignments.keys).map assignments.get?)

theorem sortStrings_nodup (h : texts.Nodup) : (sortStrings texts).Nodup :=
  (List.perm_insertionSort _ texts).nodup_iff.mpr h

theorem normalizeCommunityIds_entries (assignments : OrderedMap TrustID Nat) :
    (normalizeCommunityIds assignments).entries =
      (sortStrings assignments.keys).map fun node =>
        (node, (communityOrder assignments).idxOf (assignments.get? node)) :=
  numbered_entries (sortStrings_nodup assignments.nodup) assignments.get?

theorem normalizeCommunityIds_keys (assignments : OrderedMap TrustID Nat) :
    (normalizeCommunityIds assignments).keys = sortStrings assignments.keys := by
  rw [OrderedMap.keys, normalizeCommunityIds_entries, List.map_map]
  exact List.map_id _

theorem normalizeCommunityIds_get? (h : node ∈ assignments.keys) :
    (normalizeCommunityIds assignments).get? node =
      some ((communityOrder assignments).idxOf (assignments.get? node)) := by
  rw [← OrderedMap.mem_entries, normalizeCommunityIds_entries]
  exact List.mem_map_of_mem (mem_sortStrings.mpr h)

theorem mem_communityOrder : community ∈ communityOrder assignments ↔
    ∃ node ∈ assignments.keys, assignments.get? node = community := by
  rw [communityOrder, mem_unique, List.mem_map]
  simp only [mem_sortStrings]

/-- Every number up to the number of communities is used. -/
theorem normalizeCommunityIds_range :
    (∃ node, (normalizeCommunityIds assignments).get? node = some i) ↔
      i < (communityOrder assignments).length := by
  constructor
  · rintro ⟨node, h⟩
    have hkey : node ∈ assignments.keys := by
      rw [← mem_sortStrings, ← normalizeCommunityIds_keys, OrderedMap.mem_keys, h]
      rfl
    rw [normalizeCommunityIds_get? hkey, Option.some.injEq] at h
    rw [← h]
    exact List.idxOf_lt_length_of_mem (mem_communityOrder.mpr ⟨node, hkey, rfl⟩)
  · intro hi
    obtain ⟨node, hkey, hnode⟩ := mem_communityOrder.mp (List.getElem_mem hi)
    refine ⟨node, ?_⟩
    rw [normalizeCommunityIds_get? hkey, hnode, Option.some.injEq]
    exact (unique_nodup _).idxOf_getElem i hi

theorem normalizeCommunityIds_idempotent (assignments : OrderedMap TrustID Nat) :
    normalizeCommunityIds (normalizeCommunityIds assignments) =
      normalizeCommunityIds assignments := by
  have hkeys : sortStrings (normalizeCommunityIds assignments).keys =
      sortStrings assignments.keys := by
    rw [normalizeCommunityIds_keys]
    exact sortStrings_perm (List.perm_insertionSort _ _)
  have hnames : (sortStrings assignments.keys).map (normalizeCommunityIds assignments).get? =
      ((sortStrings assignments.keys).map assignments.get?).map fun community =>
        some ((communityOrder assignments).idxOf community) := by
    rw [List.map_map]
    exact List.map_congr_left fun node hn => normalizeCommunityIds_get? (mem_sortStrings.mp hn)
  have hinj : Set.InjOn (fun community => some ((communityOrder assignments).idxOf community))
      {community | community ∈ communityOrder assignments} := by
    intro a ha b hb he
    exact (List.idxOf_inj ha).mp (Option.some.inj he)
  have horder : communityOrder (normalizeCommunityIds assignments) =
      (communityOrder assignments).map fun community =>
        some ((communityOrder assignments).idxOf community) := by
    rw [communityOrder, hkeys, hnames]
    exact unique_map (hinj.mono fun community hc => mem_unique.mpr hc)
  have hentries : (normalizeCommunityIds (normalizeCommunityIds assignments)).entries =
      (normalizeCommunityIds assignments).entries := by
    rw [normalizeCommunityIds_entries (normalizeCommunityIds assignments), hkeys, horder,
      normalizeCommunityIds_entries]
    apply List.map_congr_left
    intro node hn
    have hkey := mem_sortStrings.mp hn
    rw [normalizeCommunityIds_get? hkey]
    exact congrArg (Prod.mk node) (idxOf_map (unique_nodup _) hinj
      (mem_communityOrder.mpr ⟨node, hkey, rfl⟩))
  exact OrderedMap.ext_entries hentries

/-- The same nodes in as many communities, numbered by their first nodes. -/
structure Renumbered (assignments numbered : OrderedMap TrustID Nat) : Prop where
  keys : numbered.keys = sortStrings assignments.keys
  same : ∀ n ∈ assignments.keys, ∀ m ∈ assignments.keys,
    numbered.get? n = numbered.get? m ↔ assignments.get? n = assignments.get? m
  place : ∀ n ∈ assignments.keys,
    numbered.get? n = some ((communityOrder assignments).idxOf (assignments.get? n))
  range : ∀ i, (∃ n, numbered.get? n = some i) ↔ i < (communityOrder assignments).length
  idempotent : normalizeCommunityIds numbered = numbered

theorem exists_community (h : node ∈ assignments.keys) :
    ∃ community, assignments.get? node = some community :=
  Option.isSome_iff_exists.mp (OrderedMap.mem_keys.mp h)

theorem normalizeCommunityIds_renumbered (assignments : OrderedMap TrustID Nat) :
    Renumbered assignments (normalizeCommunityIds assignments) where
  keys := normalizeCommunityIds_keys assignments
  same := by
    intro n hn m hm
    obtain ⟨i, hi⟩ := exists_community hn
    obtain ⟨j, hj⟩ := exists_community hm
    rw [normalizeCommunityIds_same hi hj, hi, hj, Option.some.injEq]
  place := fun _ hn => normalizeCommunityIds_get? hn
  range := fun _ => normalizeCommunityIds_range
  idempotent := normalizeCommunityIds_idempotent assignments

end Normalizing

section Absorbing

variable {settings : GraphSettings} {graph : GraphV0} {assignments output : OrderedMap TrustID Nat}
  {group : Nat × List TrustID} {groups : List (Nat × List TrustID)} {n m : TrustID}

/-- The node is in a community of at least the smallest size. -/
def InLarge (settings : GraphSettings) (assignments : OrderedMap TrustID Nat) (node : TrustID) :
    Prop :=
  ∃ community, assignments.get? node = some community ∧
    isLarge settings (members assignments community) = true

theorem mergeGroup_get? (settings : GraphSettings) (graph : GraphV0)
    (output : OrderedMap TrustID Nat) (group : Nat × List TrustID) :
    (∀ node, (mergeGroup settings graph output group).get? node = output.get? node) ∨
      ∃ target, ∀ node, (mergeGroup settings graph output group).get? node =
        if node ∈ group.2 then some target else output.get? node := by
  rw [mergeGroup]
  split
  · exact .inl fun _ => rfl
  · split
    · next best _ => exact .inr ⟨best.1, get?_foldl_set group.2 output best.1⟩
    · exact .inl fun _ => rfl

/-- Groups move as a whole, whatever became of the others. -/
theorem foldl_mergeGroup_together
    (hgroups : ∀ group ∈ groups, n ∈ group.2 ↔ m ∈ group.2) (h : output.get? n = output.get? m) :
    (groups.foldl (mergeGroup settings graph) output).get? n =
      (groups.foldl (mergeGroup settings graph) output).get? m := by
  induction groups generalizing output with
  | nil => exact h
  | cons group groups ih =>
    apply ih fun next hn => hgroups next (List.mem_cons_of_mem group hn)
    have hgroup := hgroups group List.mem_cons_self
    rcases mergeGroup_get? settings graph output group with hsame | ⟨target, hmoved⟩
    · rw [hsame, hsame, h]
    · rw [hmoved, hmoved, h]
      by_cases hn : n ∈ group.2
      · rw [if_pos hn, if_pos (hgroup.mp hn)]
      · rw [if_neg hn, if_neg (mt hgroup.mpr hn)]

theorem foldl_mergeGroup_has
    (hgroups : ∀ group ∈ groups, n ∈ group.2 → output.has n = true) :
    (groups.foldl (mergeGroup settings graph) output).has n = output.has n := by
  induction groups generalizing output with
  | nil => rfl
  | cons group groups ih =>
    have hstep : (mergeGroup settings graph output group).has n = output.has n := by
      rcases mergeGroup_get? settings graph output group with hsame | ⟨target, hmoved⟩
      · rw [OrderedMap.has, hsame, OrderedMap.has]
      · rw [OrderedMap.has, hmoved]
        split
        · next hn => exact (hgroups group List.mem_cons_self hn).symm
        · rfl
    rw [List.foldl_cons, ih, hstep]
    intro next hnext hn
    rw [hstep]
    exact hgroups next (List.mem_cons_of_mem group hnext) hn

theorem mem_sortedGroups : group ∈ sortedGroups assignments ↔
    group.2 = members assignments group.1 ∧ group.2 ≠ [] := by
  rw [sortedGroups, List.mem_insertionSort]
  exact mem_communityGroups

theorem mem_sortedGroup (hg : group ∈ sortedGroups assignments) :
    n ∈ group.2 ↔ assignments.get? n = some group.1 := by
  rw [(mem_sortedGroups.mp hg).1, mem_members]

theorem sortedGroups_sorted (assignments : OrderedMap TrustID Nat) :
    (sortedGroups assignments).Pairwise fun a b => a.1 ≤ b.1 := by
  have htotal : Std.Total fun a b : Nat × List TrustID => a.1 ≤ b.1 :=
    ⟨fun a b => Nat.le_total a.1 b.1⟩
  have htrans : IsTrans (Nat × List TrustID) fun a b => a.1 ≤ b.1 :=
    ⟨fun _ _ _ => Nat.le_trans⟩
  exact List.pairwise_insertionSort _ _

theorem Merged.run {rest : List (Nat × List TrustID)}
    (hnan : settings.community_detection.min_cluster_size ≠ .nan)
    (h : Merged settings assignments (groups ++ rest) output) :
    Merged settings assignments rest (groups.foldl (mergeGroup settings graph) output) := by
  induction groups generalizing output with
  | nil => exact h
  | cons group groups ih => exact ih (h.step hnan)

/-- A community that has grown by an edge of the graph is a candidate, whatever the edge weighs. -/
theorem groupCandidates_joined (he : edge ∈ graph.edges) (hjoin : Joins edge n m)
    (hn : n ∈ group.2) (hm : m ∉ group.2) (ho : output.get? m = some community)
    (hne : community ≠ group.1)
    (hsize : (JsNumber.ofNat (members output community).length).lt
      settings.community_detection.min_cluster_size = false) :
    (groupCandidates settings graph output group).has community = true := by
  refine foldl_reached (fun masses : OrderedMap Nat Nat => masses.has community = true) ?_ ?_ he
  · intro masses other hc
    dsimp only
    split
    · exact hc
    · split
      · exact hc
      · split
        · exact hc
        · rw [addMass, has_set, hc, Bool.or_true]
  · intro masses
    have hends : group.2.contains edge.src ≠ group.2.contains edge.dst ∧
        (if group.2.contains edge.src then edge.dst else edge.src) = m := by
      rcases hjoin with ⟨rfl, rfl⟩ | ⟨rfl, rfl⟩
      · simp [hn, hm]
      · simp [hn, hm]
    dsimp only
    rw [if_neg hends.1, hends.2, ho]
    dsimp only
    rw [communityGroups_size, if_neg (by simp [hne, hsize]), addMass, has_set,
      decide_eq_true rfl, Bool.true_or]

/-- The run as it stands when all groups had their turns. -/
def mergedCommunities (settings : GraphSettings) (graph : GraphV0)
    (assignments : OrderedMap TrustID Nat) : OrderedMap TrustID Nat :=
  (sortedGroups assignments).foldl (mergeGroup settings graph) assignments

theorem merged_together (h : assignments.get? n = assignments.get? m) :
    (mergedCommunities settings graph assignments).get? n =
      (mergedCommunities settings graph assignments).get? m := by
  apply foldl_mergeGroup_together _ h
  intro group hg
  rw [mem_sortedGroup hg, mem_sortedGroup hg, h]

theorem merged_has (settings : GraphSettings) (graph : GraphV0)
    (assignments : OrderedMap TrustID Nat) (n : TrustID) :
    (mergedCommunities settings graph assignments).has n = assignments.has n := by
  apply foldl_mergeGroup_has
  intro group hg hn
  rw [OrderedMap.has, (mem_sortedGroup hg).mp hn]
  rfl

section Sizes

variable (h : Merged settings assignments [] output)
include h

theorem Merged.isLarge_iff :
    isLarge settings (members output community) = true ↔
      isLarge settings (members assignments community) = true := by
  constructor
  · intro hlarge
    by_contra hsmall
    apply hsmall
    apply isLarge_mono hlarge
    exact members_length_le h.keys fun node hm => (h.origin node community hm).resolve_right hsmall
  · intro hlarge
    apply isLarge_mono hlarge
    exact members_length_le h.keys.symm fun node hm => h.large node community hm hlarge

/-- A community that was large keeps its nodes and its number. -/
theorem Merged.inLarge (hn : InLarge settings assignments n) :
    output.get? n = assignments.get? n := by
  obtain ⟨community, hc, hlarge⟩ := hn
  rw [hc, h.large n community hc hlarge]

/-- A node that is left in a small community never moved. -/
theorem Merged.left (hn : output.get? n = some community)
    (hsmall : ¬isLarge settings (members output community) = true) :
    assignments.get? n = some community := by
  rcases h.origin n community hn with hc | hlarge
  · exact hc
  · exact absurd (h.isLarge_iff.mpr hlarge) hsmall

end Sizes

/-- An edge between a small community that is left and a large one ends at a node whose own small
community had its turn later. -/
theorem merged_left (hnan : settings.community_detection.min_cluster_size ≠ .nan)
    (he : edge ∈ graph.edges) (hjoin : Joins edge n m)
    (hn : (mergedCommunities settings graph assignments).get? n = some i)
    (hsmall : ¬isLarge settings (members (mergedCommunities settings graph assignments) i) = true)
    (hm : InLarge settings (mergedCommunities settings graph assignments) m) :
    ∃ j, assignments.get? m = some j ∧ i < j ∧
      isLarge settings (members assignments j) = false := by
  have hend : Merged settings assignments [] (mergedCommunities settings graph assignments) := by
    apply Merged.run hnan
    rw [List.append_nil]
    exact Merged.start
  have hni := hend.left hn hsmall
  obtain ⟨target, hmt, hlarge⟩ := hm
  have htarget := hend.isLarge_iff.mp hlarge
  have hkept : isLarge settings (members assignments i) = false := by
    simpa using mt hend.isLarge_iff.mpr hsmall
  -- the turn of the small community
  have hgroup : (i, members assignments i) ∈ sortedGroups assignments :=
    mem_sortedGroups.mpr ⟨rfl, List.ne_nil_of_mem (mem_members.mpr hni)⟩
  obtain ⟨before, after, hsplit⟩ := List.append_of_mem hgroup
  have hturn : Merged settings assignments ((i, members assignments i) :: after)
      (before.foldl (mergeGroup settings graph) assignments) := by
    apply Merged.run hnan
    rw [← hsplit]
    exact Merged.start
  have hrun : mergedCommunities settings graph assignments =
      after.foldl (mergeGroup settings graph) (mergeGroup settings graph
        (before.foldl (mergeGroup settings graph) assignments) (i, members assignments i)) := by
    rw [mergedCommunities, hsplit, List.foldl_append, List.foldl_cons]
  generalize before.foldl (mergeGroup settings graph) assignments = current at hturn hrun
  have hmember : n ∈ members assignments i := mem_members.mpr hni
  have hne : target ≠ i := by
    rintro rfl
    rw [hkept] at htarget
    cases htarget
  have houtside : m ∉ members assignments i := by
    intro hin
    have hsame : (mergedCommunities settings graph assignments).get? n =
        (mergedCommunities settings graph assignments).get? m :=
      merged_together (hni.trans (mem_members.mp hin).symm)
    rw [hn, hmt, Option.some.injEq] at hsame
    exact hne hsame.symm
  -- no community is large around it at its turn
  have hstay : (mergeGroup settings graph current (i, members assignments i)).get? n = some i := by
    rw [← hturn.rest (.inl hmember) graph, ← hrun, hn]
  have hmissing : current.get? m ≠ some target := by
    intro hc
    have hgrown : isLarge settings (members current target) = true :=
      isLarge_mono htarget (members_length_le hturn.keys.symm fun node hm =>
        hturn.large node target hm htarget)
    have hsize : (JsNumber.ofNat (members current target).length).lt
        settings.community_detection.min_cluster_size = false := by
      by_contra hlt
      rw [Bool.not_eq_false] at hlt
      rw [isLarge, JsNumber.not_le_of_lt hlt] at hgrown
      cases hgrown
    have hcandidate : (groupCandidates settings graph current (i, members assignments i)).has
        target = true :=
      groupCandidates_joined he hjoin hmember houtside hc hne hsize
    rw [mergeGroup, if_neg (by simp [hkept])] at hstay
    cases hbest : heaviest (groupCandidates settings graph current (i, members assignments i)) with
    | none =>
      rw [heaviest_eq_none] at hbest
      rw [OrderedMap.has, OrderedMap.get?, hbest] at hcandidate
      cases hcandidate
    | some best =>
      rw [hbest] at hstay
      dsimp only at hstay
      rw [get?_foldl_set, if_pos hmember, Option.some.injEq] at hstay
      exact (hturn.candidate hnan hbest).1 hstay
  have hassigned : assignments.has m = true := by
    rw [← merged_has settings graph, OrderedMap.has, hmt]
    rfl
  obtain ⟨j, hj⟩ := Option.isSome_iff_exists.mp hassigned
  have hjsmall : isLarge settings (members assignments j) = false := by
    by_contra hjlarge
    rw [Bool.not_eq_false] at hjlarge
    have hmj := hend.large m j hj hjlarge
    rw [hmt, Option.some.injEq] at hmj
    exact hmissing (hmj ▸ hturn.large m j hj hjlarge)
  refine ⟨j, hj, ?_, hjsmall⟩
  -- a group before it would have taken its nodes there already
  by_contra hle
  have hji : j ≠ i := by
    rintro rfl
    exact houtside (mem_members.mpr hj)
  have hlater : ∀ next ∈ after, m ∈ next.2 → isLarge settings next.2 = true := by
    intro next hnext hin
    have hsorted := sortedGroups_sorted assignments
    rw [hsplit, List.pairwise_append, List.pairwise_cons] at hsorted
    have hige : i ≤ next.1 := hsorted.2.1.1 next hnext
    have hknown : next ∈ sortedGroups assignments := by
      rw [hsplit]
      exact List.mem_append_right _ (List.mem_cons_of_mem _ hnext)
    rw [mem_sortedGroup hknown, hj, Option.some.injEq] at hin
    omega
  have hfinal : (after.foldl (mergeGroup settings graph)
      (mergeGroup settings graph current (i, members assignments i))).get? m =
      (mergeGroup settings graph current (i, members assignments i)).get? m :=
    foldl_mergeGroup_get? hlater
  rw [← hrun, hmt] at hfinal
  apply hmissing
  rcases mergeGroup_get? settings graph current (i, members assignments i) with hsame | ⟨t, hmoved⟩
  · rw [← hsame, ← hfinal]
  · rw [hmoved, if_neg houtside] at hfinal
    exact hfinal.symm

theorem normalizeCommunityIds_inLarge (settings : GraphSettings) :
    InLarge settings (normalizeCommunityIds output) n ↔ InLarge settings output n := by
  have hlength : ∀ {i c}, (normalizeCommunityIds output).get? n = some i →
      output.get? n = some c →
      (members (normalizeCommunityIds output) i).length = (members output c).length := by
    intro i c hi hc
    have hperm : (sortStrings output.keys).Perm output.keys := List.perm_insertionSort _ _
    rw [members_length, members_length, normalizeCommunityIds_keys, hperm.countP_eq]
    apply List.countP_congr
    intro m hm
    obtain ⟨d, hd⟩ := exists_community hm
    rw [decide_eq_true_eq, decide_eq_true_eq, ← hi, ← hc, normalizeCommunityIds_same hd hc, hd, hc,
      Option.some.injEq]
  have hhas := normalizeCommunityIds_has output n
  constructor
  · rintro ⟨i, hi, hlarge⟩
    rw [OrderedMap.has, hi] at hhas
    obtain ⟨c, hc⟩ := Option.isSome_iff_exists.mp (hhas.mp rfl)
    exact ⟨c, hc, isLarge_mono hlarge (hlength hi hc).le⟩
  · rintro ⟨c, hc, hlarge⟩
    rw [OrderedMap.has, OrderedMap.has, hc] at hhas
    obtain ⟨i, hi⟩ := Option.isSome_iff_exists.mp (hhas.mpr rfl)
    exact ⟨i, hi, isLarge_mono hlarge (hlength hi hc).ge⟩

/-- What merging small communities does to an assignment. -/
structure SmallMerged (settings : GraphSettings) (graph : GraphV0)
    (assignments merged : OrderedMap TrustID Nat) : Prop where
  has : ∀ n, merged.has n = assignments.has n
  together : ∀ n m, assignments.get? n = assignments.get? m → merged.get? n = merged.get? m
  apart : ∀ n m, InLarge settings assignments n → InLarge settings assignments m →
    (merged.get? n = merged.get? m ↔ assignments.get? n = assignments.get? m)
  left : ∀ edge ∈ graph.edges, ∀ n m, Joins edge n m → merged.has n = true →
    ¬InLarge settings merged n → InLarge settings merged m →
    ∃ i j, assignments.get? n = some i ∧ assignments.get? m = some j ∧ i < j ∧
      isLarge settings (members assignments j) = false

theorem SmallMerged.normalize (h : SmallMerged settings graph assignments output) :
    SmallMerged settings graph assignments (normalizeCommunityIds output) := by
  have hhas : ∀ n, (normalizeCommunityIds output).has n = output.has n := fun n =>
    Bool.eq_iff_iff.mpr (normalizeCommunityIds_has output n)
  have hnone : ∀ n, output.get? n = none → (normalizeCommunityIds output).get? n = none := by
    intro n hn
    have hn' := hhas n
    rwa [OrderedMap.has, OrderedMap.has, hn, Option.isSome_none, Option.isSome_eq_false_iff,
      Option.isNone_iff_eq_none] at hn'
  have hsame : ∀ {n m}, output.has n = true → output.has m = true →
      ((normalizeCommunityIds output).get? n = (normalizeCommunityIds output).get? m ↔
        output.get? n = output.get? m) := by
    intro n m hn hm
    obtain ⟨i, hi⟩ := Option.isSome_iff_exists.mp hn
    obtain ⟨j, hj⟩ := Option.isSome_iff_exists.mp hm
    rw [normalizeCommunityIds_same hi hj, hi, hj, Option.some.injEq]
  have hassigned : ∀ {n}, InLarge settings assignments n → output.has n = true := by
    rintro n ⟨c, hc, -⟩
    rw [h.has, OrderedMap.has, hc]
    rfl
  refine ⟨fun n => (hhas n).trans (h.has n), ?_, ?_, ?_⟩
  · intro n m hnm
    have hout := h.together n m hnm
    cases hn : output.get? n with
    | none => rw [hnone n hn, hnone m (hout ▸ hn)]
    | some i =>
      refine (hsame ?_ ?_).mpr hout
      · rw [OrderedMap.has, hn]
        rfl
      · rw [OrderedMap.has, ← hout, hn]
        rfl
  · intro n m hn hm
    rw [hsame (hassigned hn) (hassigned hm)]
    exact h.apart n m hn hm
  · intro edge he n m hjoin hn hsmall hlarge
    rw [normalizeCommunityIds_inLarge] at hsmall hlarge
    exact h.left edge he n m hjoin ((hhas n).symm.trans hn) hsmall hlarge

theorem not_inLarge_of_nan (hnan : settings.community_detection.min_cluster_size = .nan) :
    ¬InLarge settings output n := by
  rintro ⟨c, -, hlarge⟩
  rw [isLarge, hnan] at hlarge
  cases hlarge

theorem mergedCommunities_merged (settings : GraphSettings) (graph : GraphV0)
    (assignments : OrderedMap TrustID Nat) :
    SmallMerged settings graph assignments (mergedCommunities settings graph assignments) := by
  refine ⟨merged_has settings graph assignments, fun n m => merged_together, ?_, ?_⟩
  · intro n m hn hm
    by_cases hnan : settings.community_detection.min_cluster_size = .nan
    · exact absurd hn (not_inLarge_of_nan hnan)
    · have hend : Merged settings assignments []
          (mergedCommunities settings graph assignments) := by
        apply Merged.run hnan
        rw [List.append_nil]
        exact Merged.start
      rw [hend.inLarge hn, hend.inLarge hm]
  · intro edge he n m hjoin hn hsmall hm
    by_cases hnan : settings.community_detection.min_cluster_size = .nan
    · exact absurd hm (not_inLarge_of_nan hnan)
    · obtain ⟨i, hi⟩ := Option.isSome_iff_exists.mp hn
      have hkept : ¬isLarge settings
          (members (mergedCommunities settings graph assignments) i) = true :=
        fun hlarge => hsmall ⟨i, hi, hlarge⟩
      have hend : Merged settings assignments []
          (mergedCommunities settings graph assignments) := by
        apply Merged.run hnan
        rw [List.append_nil]
        exact Merged.start
      obtain ⟨j, hj, hij, hjsmall⟩ := merged_left hnan he hjoin hi hkept hm
      exact ⟨i, j, hend.left hi hkept, hj, hij, hjsmall⟩

theorem applyMinClusterSize_merged (settings : GraphSettings) (graph : GraphV0)
    (assignments : OrderedMap TrustID Nat) :
    SmallMerged settings graph assignments (applyMinClusterSize settings graph assignments) := by
  rw [applyMinClusterSize_eq]
  split
  · next hmin =>
    apply SmallMerged.normalize
    refine ⟨fun _ => rfl, fun _ _ => id, fun _ _ _ _ => Iff.rfl, ?_⟩
    -- every community has a node, which is all that is asked
    intro edge _ n m _ hn hsmall _
    obtain ⟨i, hi⟩ := Option.isSome_iff_exists.mp hn
    refine absurd ⟨i, hi, JsNumber.le_trans hmin (JsNumber.ofNat_le_ofNat ?_)⟩ hsmall
    exact List.length_pos_of_mem (mem_members.mpr hi)
  · exact (mergedCommunities_merged settings graph assignments).normalize

/-- Both steps after the detection only merge communities. A small community can stay beside a
large one when the edge between them leads to nodes that came there after its turn. -/
theorem communities_only_merge (settings : GraphSettings) (graph : GraphV0)
    (assignments : OrderedMap TrustID Nat) :
    Renumbered assignments (normalizeCommunityIds assignments) ∧
      SmallMerged settings graph assignments (applyMinClusterSize settings graph assignments) :=
  ⟨normalizeCommunityIds_renumbered assignments,
    applyMinClusterSize_merged settings graph assignments⟩

/-- A pair with a weak tie to a node, which has one to a further node. -/
def chainGraph : GraphV0 where
  edges := [weakEdge (js "a") (js "b"), weakEdge (js "b") (js "c"),
    fullEdge (js "c") (js "d") (js "completed")]
  nodes := [js "a", js "b", js "c", js "d"]

def chainCommunities : OrderedMap TrustID Nat :=
  .ofEntries [(js "a", 0), (js "b", 1), (js "c", 2), (js "d", 2)]

/-- The first node has its turn while its neighbour is still alone, and stays alone beside the
community that the neighbour then joins. -/
theorem applyMinClusterSize_leaves_small :
    ¬∀ (settings : GraphSettings) (graph : GraphV0) (assignments : OrderedMap TrustID Nat),
      ∀ edge ∈ graph.edges, ∀ n m, Joins edge n m →
        (applyMinClusterSize settings graph assignments).has n = true →
        ¬InLarge settings (applyMinClusterSize settings graph assignments) n →
        ¬InLarge settings (applyMinClusterSize settings graph assignments) m := by
  intro h
  have hclaim := h (communitySettings (js "connected_components") 2) chainGraph chainCommunities
    (weakEdge (js "a") (js "b")) List.mem_cons_self (js "a") (js "b") (.inl ⟨rfl, rfl⟩)
  have hentries : (applyMinClusterSize (communitySettings (js "connected_components") 2)
      chainGraph chainCommunities).entries =
        [(js "a", 0), (js "b", 1), (js "c", 1), (js "d", 1)] := by
    decide
  generalize applyMinClusterSize (communitySettings (js "connected_components") 2)
    chainGraph chainCommunities = output at hclaim hentries
  have hget : ∀ node, output.get? node =
      getEntry node [(js "a", 0), (js "b", 1), (js "c", 1), (js "d", 1)] := fun node => by
    rw [OrderedMap.get?, hentries]
  refine hclaim ?_ ?_ ⟨1, (hget _).trans (by decide), ?_⟩
  · rw [OrderedMap.has, hget]
    decide
  · rintro ⟨i, hi, hlarge⟩
    rw [hget] at hi
    obtain rfl : 0 = i := Option.some.inj (hi.symm.trans (by decide)).symm
    rw [isLarge, members, hentries] at hlarge
    exact absurd hlarge (by decide)
  · rw [isLarge, members, hentries]
    decide

end Absorbing

end Continuity

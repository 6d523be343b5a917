import Continuity.GuidedLoops
import Continuity.IgnoredEdges
import Continuity.JsOrder

namespace Continuity
open Collections GuidedLoops
set_option autoImplicit true

section Numbering

variable {K : Type} [DecidableEq K] {nameOf : TrustID → K} {node : TrustID}
  {nodes : List TrustID} {id : Nat} {ids : OrderedMap K Nat} {output : OrderedMap TrustID Nat}
  {s : OrderedMap K Nat × OrderedMap TrustID Nat}

/-- Names have different numbers, and a node has the number of its name. -/
structure Numbering (nameOf : TrustID → K) (ids : OrderedMap K Nat)
    (output : OrderedMap TrustID Nat) : Prop where
  inj : ∀ a b id, ids.get? a = some id → ids.get? b = some id → a = b
  bound : ∀ a id, ids.get? a = some id → id < ids.entries.length
  named : ∀ node id, output.get? node = some id → ids.get? (nameOf node) = some id

def numberNode (nameOf : TrustID → K) (s : OrderedMap K Nat × OrderedMap TrustID Nat)
    (node : TrustID) : OrderedMap K Nat × OrderedMap TrustID Nat :=
  let ids := if s.1.has (nameOf node) then s.1 else s.1.set (nameOf node) s.1.entries.length
  (ids, s.2.set node ((ids.get? (nameOf node)).getD 0))

theorem numbered_eq (nodes : List TrustID) (nameOf : TrustID → K) :
    numbered nodes nameOf = (nodes.foldl (numberNode nameOf) (.empty, .empty)).2 := rfl

theorem Numbering.name (h : Numbering nameOf ids output) (hn : ids.has (nameOf node) = false) :
    Numbering nameOf (ids.set (nameOf node) ids.entries.length) output where
  inj := by
    have hfresh : ∀ a id, ids.get? a = some id → id ≠ ids.entries.length := fun a id ha =>
      (h.bound a id ha).ne
    intro a b id ha hb
    rw [OrderedMap.get?_set] at ha hb
    split at ha
    · next hak =>
      split at hb
      · next hbk => rw [hak, hbk]
      · cases ha
        exact absurd rfl (hfresh b _ hb)
    · split at hb
      · cases hb
        exact absurd rfl (hfresh a _ ha)
      · exact h.inj a b id ha hb
  bound := by
    have hlength : (ids.set (nameOf node) ids.entries.length).entries.length =
        ids.entries.length + 1 := by
      have hkey : nameOf node ∉ ids.entries.map Prod.fst := fun hk => by
        have hhas := OrderedMap.mem_keys.mp hk
        rw [OrderedMap.has] at hn
        rw [hn] at hhas
        cases hhas
      simp only [OrderedMap.set, OrderedMap.setEntry_append hkey, List.length_append,
        List.length_singleton]
    intro a id ha
    rw [hlength]
    rw [OrderedMap.get?_set] at ha
    split at ha
    · cases ha
      exact Nat.lt_succ_self _
    · exact Nat.lt_succ_of_lt (h.bound a id ha)
  named := by
    intro other id ho
    have hid := h.named other id ho
    rw [OrderedMap.get?_set, if_neg, hid]
    intro he
    rw [OrderedMap.has, ← he, hid] at hn
    cases hn

theorem Numbering.assign (h : Numbering nameOf ids output)
    (hid : ids.get? (nameOf node) = some id) :
    Numbering nameOf ids (output.set node id) where
  inj := h.inj
  bound := h.bound
  named := by
    intro other i ho
    rw [OrderedMap.get?_set] at ho
    split at ho
    · next he =>
      cases ho
      rw [he, hid]
    · exact h.named other i ho

theorem Numbering.step (h : Numbering nameOf s.1 s.2) (node : TrustID) :
    Numbering nameOf (numberNode nameOf s node).1 (numberNode nameOf s node).2 := by
  simp only [numberNode]
  split
  · next hn =>
    obtain ⟨id, hid⟩ := Option.isSome_iff_exists.mp hn
    rw [hid]
    exact h.assign hid
  · next hn =>
    rw [OrderedMap.get?_set_self]
    have hnamed := h.name (by simpa using hn)
    exact hnamed.assign (OrderedMap.get?_set_self _ _ _)

theorem foldl_numberNode_has : (nodes.foldl (numberNode nameOf) s).2.has node = true ↔
    node ∈ nodes ∨ s.2.has node = true := by
  induction nodes generalizing s with
  | nil => simp
  | cons first nodes ih =>
    rw [List.foldl_cons, ih, List.mem_cons, numberNode, has_set, Bool.or_eq_true,
      decide_eq_true_eq]
    tauto

theorem numbered_has : (numbered nodes nameOf).has node = true ↔ node ∈ nodes := by
  rw [numbered_eq, foldl_numberNode_has]
  exact or_iff_left nofun

/-- Two nodes get one number just when they have one name. -/
theorem numbered_same (hn : n ∈ nodes) (hm : m ∈ nodes) :
    (numbered nodes nameOf).get? n = (numbered nodes nameOf).get? m ↔ nameOf n = nameOf m := by
  have hrun : Numbering nameOf (nodes.foldl (numberNode nameOf) (.empty, .empty)).1
      (nodes.foldl (numberNode nameOf) (.empty, .empty)).2 :=
    List.foldlRecOn nodes (motive := fun s : OrderedMap K Nat × OrderedMap TrustID Nat =>
      Numbering nameOf s.1 s.2) _
      ⟨fun _ _ _ ha => (by cases ha), fun _ _ ha => (by cases ha), fun _ _ ha => (by cases ha)⟩
      fun s hs node _ => hs.step node
  have hhas : ∀ {node}, node ∈ nodes → ∃ id,
      (nodes.foldl (numberNode nameOf) (.empty, .empty)).2.get? node = some id := fun h =>
    Option.isSome_iff_exists.mp (foldl_numberNode_has.mpr (.inl h))
  obtain ⟨i, hi⟩ := hhas hn
  obtain ⟨j, hj⟩ := hhas hm
  have hni := hrun.named n i hi
  have hmj := hrun.named m j hj
  rw [numbered_eq, hi, hj]
  constructor
  · rintro ⟨⟩
    exact hrun.inj _ _ _ hni hmj
  · intro he
    rw [he, hmj] at hni
    exact hni.symm

theorem normalizeCommunityIds_same (hn : assignments.get? n = some i)
    (hm : assignments.get? m = some j) :
    (normalizeCommunityIds assignments).get? n = (normalizeCommunityIds assignments).get? m ↔
      i = j := by
  have hkey : ∀ {node community}, assignments.get? node = some community →
      node ∈ sortStrings assignments.keys := fun h =>
    mem_sortStrings.mpr (OrderedMap.mem_keys.mpr (by rw [h]; rfl))
  rw [normalizeCommunityIds, numbered_same (hkey hn) (hkey hm), hn, hm, Option.some.injEq]

theorem normalizeCommunityIds_has (assignments : OrderedMap TrustID Nat) (node : TrustID) :
    (normalizeCommunityIds assignments).has node = true ↔ assignments.has node = true := by
  rw [normalizeCommunityIds, numbered_has, mem_sortStrings, OrderedMap.mem_keys]
  rfl

end Numbering

section Groups

/-- The nodes that an assignment puts into a community. -/
def members (assignments : OrderedMap TrustID Nat) (community : Nat) : List TrustID :=
  (assignments.entries.filter fun entry => entry.2 == community).map Prod.fst

theorem mem_members : node ∈ members assignments community ↔
    assignments.get? node = some community := by
  rw [← OrderedMap.mem_entries, members, List.mem_map]
  constructor
  · rintro ⟨⟨node, other⟩, hm, rfl⟩
    obtain ⟨hm, he⟩ := List.mem_filter.mp hm
    rw [← (beq_iff_eq.mp he : other = community)]
    exact hm
  · intro h
    exact ⟨(node, community), List.mem_filter.mpr ⟨h, beq_self_eq_true community⟩, rfl⟩

theorem communityGroups_get? (assignments : OrderedMap TrustID Nat) (community : Nat) :
    (communityGroups assignments).get? community =
      if members assignments community = [] then none
      else some (members assignments community) := by
  have hrun : ∀ (entries : List (TrustID × Nat)) (groups : OrderedMap Nat (List TrustID)),
      (entries.foldl (fun groups entry =>
        groups.set entry.2 ((groups.get? entry.2).getD [] ++ [entry.1])) groups).get? community =
      if (entries.filter fun entry => entry.2 == community) = [] then groups.get? community
      else some ((groups.get? community).getD [] ++
        (entries.filter fun entry => entry.2 == community).map Prod.fst) := by
    intro entries
    induction entries with
    | nil => intro groups; rfl
    | cons entry entries ih =>
      intro groups
      rw [List.foldl_cons, ih]
      by_cases he : entry.2 = community
      · subst he
        rw [OrderedMap.get?_set_self]
        split
        · next hnil => simp [hnil]
        · simp
      · rw [OrderedMap.get?_set_of_ne _ (Ne.symm he), List.filter_cons_of_neg (by simpa using he)]
  have hgroups := hrun assignments.entries .empty
  simp only [members, List.map_eq_nil_iff]
  exact hgroups

theorem mem_communityGroups : (community, nodes) ∈ (communityGroups assignments).entries ↔
    nodes = members assignments community ∧ nodes ≠ [] := by
  rw [OrderedMap.mem_entries, communityGroups_get?]
  split
  · next hnil => simp_all
  · next hnil =>
    constructor
    · rintro ⟨⟩
      exact ⟨rfl, hnil⟩
    · rintro ⟨rfl, _⟩
      rfl

theorem members_length (assignments : OrderedMap TrustID Nat) (community : Nat) :
    (members assignments community).length =
      assignments.keys.countP fun node => decide (assignments.get? node = some community) := by
  rw [members, List.length_map, OrderedMap.keys, List.countP_map, List.countP_eq_length_filter]
  congr 1
  apply List.filter_congr
  rintro ⟨node, other⟩ hm
  simp [OrderedMap.mem_entries.mp hm, beq_eq_decide]

/-- Over the same nodes, a community whose nodes were all there before has not grown. -/
theorem members_length_le {assignments output : OrderedMap TrustID Nat}
    (hkeys : output.keys = assignments.keys)
    (h : ∀ node, output.get? node = some community → assignments.get? node = some community) :
    (members output community).length ≤ (members assignments community).length := by
  rw [members_length, members_length, hkeys]
  apply List.countP_mono_left
  intro node _ hn
  simpa using h node (by simpa using hn)

end Groups

section Candidates

/-- `Math.max(0, signedEffectiveWeight(edge))` is zero for a negative edge. -/
theorem positiveWeight_negative (profile : Option GraphSettings)
    (h : isNegativeGraphEdge edge = true) : positiveWeight profile edge = 0 := by
  rw [positiveWeight, signedEffectiveWeight, if_pos h]
  split
  · rfl
  · exact Int.toNat_of_nonpos (by omega)

theorem communityBefore_iff {a b : Nat × Nat} :
    communityBefore a b = true ↔ b.2 < a.2 ∨ b.2 = a.2 ∧ a.1 ≤ b.1 := by
  rw [communityBefore]
  rcases Nat.lt_trichotomy b.2 a.2 with h | h | h
  · simp [Nat.compare_eq_lt.mpr h, h]
  · rcases Nat.lt_trichotomy a.1 b.1 with h' | h' | h'
    · simp [h, Nat.compare_eq_lt.mpr h', h'.le]
    · simp [h, h']
    · simp [h, Nat.compare_eq_gt.mpr h', h']
  · simp [Nat.compare_eq_gt.mpr h, h.not_gt, h.ne']

instance : Std.Total fun a b : Nat × Nat => communityBefore a b = true :=
  ⟨fun a b => by simp only [communityBefore_iff]; omega⟩

instance : IsTrans (Nat × Nat) fun a b => communityBefore a b = true :=
  ⟨fun a b c => by simp only [communityBefore_iff]; omega⟩

instance : Std.Antisymm fun a b : Nat × Nat => communityBefore a b = true :=
  ⟨fun a b hab hba => by
    rw [communityBefore_iff] at hab hba
    exact Prod.ext (by omega) (by omega)⟩

/-- The candidate of the largest mass. -/
def heaviest (masses : OrderedMap Nat Nat) : Option (Nat × Nat) :=
  (masses.entries.insertionSort fun a b => communityBefore a b).head?

theorem heaviest_eq_some {masses : OrderedMap Nat Nat} : heaviest masses = some best ↔
    First (fun a b => communityBefore a b = true) masses.entries best :=
  head_insertionSort

theorem heaviest_eq_none {masses : OrderedMap Nat Nat} :
    heaviest masses = none ↔ masses.entries = [] := by
  rw [heaviest, List.head?_eq_none_iff, ← List.length_eq_zero_iff, List.length_insertionSort,
    List.length_eq_zero_iff]

/-- All candidates of the one are candidates of the other, and weigh the same in both; the others
weigh nothing. -/
structure Offers (all kept : OrderedMap Nat Nat) : Prop where
  mass : ∀ community, (all.get? community).getD 0 = (kept.get? community).getD 0
  has : ∀ community, kept.has community = true → all.has community = true

theorem Offers.addMass (h : Offers all kept) (community mass : Nat) :
    Offers (addMass all community mass) (addMass kept community mass) where
  mass := by
    intro other
    rw [Continuity.addMass, Continuity.addMass, OrderedMap.get?_set, OrderedMap.get?_set]
    split
    · rw [h.mass]
    · exact h.mass other
  has := by
    intro other
    rw [Continuity.addMass, Continuity.addMass, has_set, has_set]
    have hother := h.has other
    grind

theorem Offers.addNothing (h : Offers all kept) (community : Nat) :
    Offers (Continuity.addMass all community 0) kept where
  mass := by
    intro other
    rw [Continuity.addMass, OrderedMap.get?_set]
    split
    · next he => rw [he, ← h.mass]; rfl
    · exact h.mass other
  has := by
    intro other hk
    rw [Continuity.addMass, has_set, h.has other hk, Bool.or_true]

theorem Offers.subset (h : Offers all kept) : kept.entries ⊆ all.entries := by
  rintro ⟨community, mass⟩ hm
  have hkept := OrderedMap.mem_entries.mp hm
  obtain ⟨other, hall⟩ := Option.isSome_iff_exists.mp
    (h.has community (by rw [OrderedMap.has, hkept]; rfl))
  have hmass : other = mass := by simpa [hall, hkept] using h.mass community
  rw [OrderedMap.mem_entries, hall, hmass]

/-- The best candidate is the same when it is one of those kept. -/
theorem Offers.heaviest_eq (h : Offers all kept)
    (hbest : ∀ best ∈ heaviest all, kept.has best.1 = true) : heaviest kept = heaviest all := by
  cases hall : heaviest all with
  | none =>
    rw [heaviest_eq_none] at hall ⊢
    exact List.subset_nil.mp (hall ▸ h.subset)
  | some best =>
    obtain ⟨mass, hkept⟩ := Option.isSome_iff_exists.mp (hbest best hall)
    have hfirst := heaviest_eq_some.mp hall
    have hmass : best.2 = mass := by
      simpa [OrderedMap.mem_entries.mp hfirst.mem, hkept] using h.mass best.1
    have hmem : best ∈ kept.entries := by
      rw [OrderedMap.mem_entries, hkept, hmass]
    exact heaviest_eq_some.mpr (hfirst.of_subset h.subset hmem)

end Candidates

section Merging

variable (settings : GraphSettings) (graph : GraphV0)

/-- The large communities around a group. -/
def groupCandidates (output : OrderedMap TrustID Nat) (group : Nat × List TrustID) :
    OrderedMap Nat Nat :=
  candidateMasses settings graph settings.community_detection.min_cluster_size output group.1
    group.2

def isLarge (nodes : List TrustID) : Bool :=
  settings.community_detection.min_cluster_size.le (.ofNat nodes.length)

/-- One group of the loop in `applyMinClusterSize`. -/
def mergeGroup (output : OrderedMap TrustID Nat) (group : Nat × List TrustID) :
    OrderedMap TrustID Nat :=
  if isLarge settings group.2 then output
  else
    match heaviest (groupCandidates settings graph output group) with
    | some best => group.2.foldl (fun output node => output.set node best.1) output
    | none => output

def sortedGroups (assignments : OrderedMap TrustID Nat) : List (Nat × List TrustID) :=
  (communityGroups assignments).entries.insertionSort fun a b => a.1 ≤ b.1

theorem applyMinClusterSize_eq (assignments : OrderedMap TrustID Nat) :
    applyMinClusterSize settings graph assignments =
      if settings.community_detection.min_cluster_size.le (.ofNat 1) then
        normalizeCommunityIds assignments
      else normalizeCommunityIds
        ((sortedGroups assignments).foldl (mergeGroup settings graph) assignments) := rfl

/-- A small group goes to no community that only negative edges lead to. -/
def LedByPositive (output : OrderedMap TrustID Nat) (group : Nat × List TrustID) : Prop :=
  isLarge settings group.2 = false →
    ∀ best ∈ heaviest (groupCandidates settings graph output group),
      (groupCandidates settings (withoutNegative graph) output group).has best.1 = true

instance (output : OrderedMap TrustID Nat) (group : Nat × List TrustID) :
    Decidable (LedByPositive settings graph output group) :=
  inferInstanceAs (Decidable (_ → ∀ best ∈ heaviest _, _))

/-- No merge of small communities goes along negative edges alone. -/
def MergesLedByPositive (assignments : OrderedMap TrustID Nat) : Prop :=
  settings.community_detection.min_cluster_size.le (.ofNat 1) = false →
    Along (mergeGroup settings graph) (LedByPositive settings graph) assignments
      (sortedGroups assignments)

instance (assignments : OrderedMap TrustID Nat) :
    Decidable (MergesLedByPositive settings graph assignments) :=
  inferInstanceAs (Decidable (_ → Along _ _ _ _))

theorem groupCandidates_offers (output : OrderedMap TrustID Nat) (group : Nat × List TrustID) :
    Offers (groupCandidates settings graph output group)
      (groupCandidates settings (withoutNegative graph) output group) := by
  rw [groupCandidates, groupCandidates, candidateMasses, candidateMasses, withoutNegative,
    List.foldl_filter]
  apply List.foldl_rel (r := Offers) ⟨fun _ => rfl, fun _ h => h⟩
  intro edge _ all kept h
  dsimp only
  split
  · simpa using h
  · split
    · simpa using h
    · split
      · simpa using h
      · cases hn : isNegativeGraphEdge edge with
        | false => exact h.addMass _ _
        | true =>
          rw [positiveWeight_negative _ hn]
          exact h.addNothing _

variable {settings graph} {group : Nat × List TrustID} {output : OrderedMap TrustID Nat}

theorem mergeGroup_withoutNegative (h : LedByPositive settings graph output group) :
    mergeGroup settings (withoutNegative graph) output group =
      mergeGroup settings graph output group := by
  rw [mergeGroup, mergeGroup]
  split
  · rfl
  · next hsmall =>
    rw [(groupCandidates_offers settings graph output group).heaviest_eq
      (h (by simpa using hsmall))]

theorem applyMinClusterSize_withoutNegative (h : MergesLedByPositive settings graph assignments) :
    applyMinClusterSize settings (withoutNegative graph) assignments =
      applyMinClusterSize settings graph assignments := by
  rw [applyMinClusterSize_eq, applyMinClusterSize_eq]
  split
  · rfl
  · next hmin =>
    rw [(h (by simpa using hmin)).foldl_eq fun output group hled => mergeGroup_withoutNegative hled]

end Merging

section Apart

variable {settings : GraphSettings} {graph : GraphV0} {assignments output : OrderedMap TrustID Nat}
  {group : Nat × List TrustID} {groups : List (Nat × List TrustID)} {nodes : List TrustID}

theorem isLarge_mono (h : isLarge settings xs = true) (hlength : xs.length ≤ ys.length) :
    isLarge settings ys = true :=
  JsNumber.le_trans h (JsNumber.ofNat_le_ofNat hlength)

theorem isLarge_of_not_lt (hnan : settings.community_detection.min_cluster_size ≠ .nan)
    (h : (JsNumber.ofNat xs.length).lt settings.community_detection.min_cluster_size = false) :
    isLarge settings xs = true :=
  JsNumber.le_of_not_lt nofun hnan h

theorem isLarge_ne_nil
    (hmin : settings.community_detection.min_cluster_size.le (.ofNat 1) = false)
    (h : isLarge settings xs = true) : xs ≠ [] := by
  rintro rfl
  have hone : isLarge settings [[]] = true := isLarge_mono h (Nat.zero_le 1)
  rw [isLarge, List.length_singleton, hmin] at hone
  cases hone

theorem get?_foldl_set (nodes : List TrustID) (output : OrderedMap TrustID Nat) (community : Nat)
    (node : TrustID) :
    (nodes.foldl (fun output node => output.set node community) output).get? node =
      if node ∈ nodes then some community else output.get? node := by
  induction nodes generalizing output with
  | nil => rfl
  | cons first nodes ih =>
    rw [List.foldl_cons, ih, OrderedMap.get?_set]
    by_cases hm : node ∈ nodes
    · simp [hm]
    · by_cases he : node = first
      · simp [he]
      · simp [hm, he]

theorem keys_foldl_set (community : Nat) (h : ∀ node ∈ nodes, output.has node = true) :
    (nodes.foldl (fun output node => output.set node community) output).keys = output.keys := by
  induction nodes generalizing output with
  | nil => rfl
  | cons first nodes ih =>
    have hfirst : (output.set first community).keys = output.keys := by
      rw [OrderedMap.keys, OrderedMap.set, keys_setEntry, if_pos]
      · rfl
      · exact OrderedMap.mem_keys.mpr (h first List.mem_cons_self)
    rw [List.foldl_cons, ih, hfirst]
    intro node hn
    rw [has_set, h node (List.mem_cons_of_mem first hn), Bool.or_true]

/-- The assignment after some groups were merged, with those that are left. -/
structure Merged (settings : GraphSettings) (assignments : OrderedMap TrustID Nat)
    (groups : List (Nat × List TrustID)) (output : OrderedMap TrustID Nat) : Prop where
  keys : output.keys = assignments.keys
  origin : ∀ node community, output.get? node = some community →
    assignments.get? node = some community ∨ isLarge settings (members assignments community) = true
  large : ∀ node community, assignments.get? node = some community →
    isLarge settings (members assignments community) = true → output.get? node = some community
  waiting : ∀ group ∈ groups, ∀ node ∈ group.2, output.get? node = some group.1
  known : ∀ group ∈ groups, group ∈ (communityGroups assignments).entries
  nodup : (groups.map Prod.fst).Nodup

theorem Merged.start : Merged settings assignments (sortedGroups assignments) assignments where
  keys := rfl
  origin := fun _ _ h => .inl h
  large := fun _ _ h _ => h
  waiting := by
    intro group hg node hn
    obtain ⟨hnodes, _⟩ := mem_communityGroups.mp (List.mem_insertionSort _ |>.mp hg)
    rw [hnodes] at hn
    exact mem_members.mp hn
  known := fun _ hg => (List.mem_insertionSort _).mp hg
  nodup := ((List.perm_insertionSort _ _).map Prod.fst).nodup_iff.mpr
    (communityGroups assignments).nodup

theorem Merged.mem_group (h : Merged settings assignments groups output) (hg : group ∈ groups) :
    node ∈ group.2 ↔ assignments.get? node = some group.1 := by
  rw [(mem_communityGroups.mp (h.known group hg)).1, mem_members]

theorem Merged.other (h : Merged settings assignments (group :: groups) output)
    (hg : next ∈ groups) (hn : node ∈ next.2) : node ∉ group.2 := by
  intro hm
  rw [h.mem_group (List.mem_cons_of_mem group hg)] at hn
  rw [h.mem_group List.mem_cons_self, hn] at hm
  have hnodup := h.nodup
  rw [List.map_cons, List.nodup_cons] at hnodup
  exact hnodup.1 (List.mem_map.mpr ⟨next, hg, Option.some.inj hm⟩)

theorem communityGroups_size (output : OrderedMap TrustID Nat) (community : Nat) :
    (((communityGroups output).get? community).map List.length).getD 0 =
      (members output community).length := by
  rw [communityGroups_get?]
  split
  · next hnil => rw [hnil]; rfl
  · rfl

theorem groupCandidates_has
    (h : (groupCandidates settings graph output group).has community = true) :
    community ≠ group.1 ∧ (JsNumber.ofNat (members output community).length).lt
      settings.community_detection.min_cluster_size = false := by
  refine List.foldlRecOn graph.edges (motive := fun masses : OrderedMap Nat Nat =>
    masses.has community = true → _) _ (fun hc => by cases hc) ?_ h
  intro masses ih edge _
  dsimp only
  split
  · exact ih
  · split
    · exact ih
    · split
      · exact ih
      · next hor =>
        intro hc
        rw [addMass, has_set, Bool.or_eq_true, decide_eq_true_eq] at hc
        rcases hc with rfl | hc
        · rw [communityGroups_size, not_or] at hor
          exact ⟨hor.1, by simpa using hor.2⟩
        · exact ih hc

/-- A small community joins another one only if that was large from the start. -/
theorem Merged.target (h : Merged settings assignments groups output)
    (hnan : settings.community_detection.min_cluster_size ≠ .nan)
    (hc : (groupCandidates settings graph output group).has community = true) :
    community ≠ group.1 ∧ isLarge settings (members assignments community) = true := by
  obtain ⟨hne, hsize⟩ := groupCandidates_has hc
  refine ⟨hne, ?_⟩
  by_contra hsmall
  apply hsmall
  apply isLarge_mono (isLarge_of_not_lt hnan hsize)
  exact members_length_le h.keys fun node hn => (h.origin node community hn).resolve_right hsmall

theorem Merged.candidate (h : Merged settings assignments groups output)
    (hnan : settings.community_detection.min_cluster_size ≠ .nan)
    (hb : heaviest (groupCandidates settings graph output group) = some best) :
    best.1 ≠ group.1 ∧ isLarge settings (members assignments best.1) = true := by
  have hc : (groupCandidates settings graph output group).has best.1 = true := by
    rw [OrderedMap.has, OrderedMap.mem_entries.mp (heaviest_eq_some.mp hb).mem]
    rfl
  exact h.target hnan hc

theorem Merged.step (h : Merged settings assignments (group :: groups) output)
    (hnan : settings.community_detection.min_cluster_size ≠ .nan) :
    Merged settings assignments groups (mergeGroup settings graph output group) := by
  have hknown := fun next hn => h.known next (List.mem_cons_of_mem group hn)
  have hwaiting := fun next hn => h.waiting next (List.mem_cons_of_mem group hn)
  have hnodup := (List.nodup_cons.mp h.nodup).2
  rw [mergeGroup]
  split
  · exact ⟨h.keys, h.origin, h.large, hwaiting, hknown, hnodup⟩
  · next hsmall =>
    split
    · next best hbest =>
      obtain ⟨hne, hlarge⟩ := h.candidate hnan hbest
      have hhas : ∀ node ∈ group.2, output.has node = true := fun node hn => by
        rw [OrderedMap.has, h.waiting group List.mem_cons_self node hn]
        rfl
      refine ⟨(keys_foldl_set best.1 hhas).trans h.keys, ?_, ?_, ?_, hknown, hnodup⟩
      · intro node community hn
        rw [get?_foldl_set] at hn
        split at hn
        · cases hn
          exact .inr hlarge
        · exact h.origin node community hn
      · intro node community hn hl
        rw [get?_foldl_set, if_neg]
        · exact h.large node community hn hl
        · intro hm
          rw [h.mem_group List.mem_cons_self, hn, Option.some.injEq] at hm
          rw [hm, ← (mem_communityGroups.mp (h.known group List.mem_cons_self)).1] at hl
          exact hsmall hl
      · intro next hx node hn
        rw [get?_foldl_set, if_neg (h.other hx hn)]
        exact hwaiting next hx node hn
    · exact ⟨h.keys, h.origin, h.large, hwaiting, hknown, hnodup⟩

/-- The merges that are left move only the nodes of their own small groups. -/
theorem foldl_mergeGroup_get?
    (h : ∀ group ∈ groups, node ∈ group.2 → isLarge settings group.2 = true) :
    (groups.foldl (mergeGroup settings graph) output).get? node = output.get? node := by
  induction groups generalizing output with
  | nil => rfl
  | cons group groups ih =>
    rw [List.foldl_cons, ih fun next hn => h next (List.mem_cons_of_mem group hn), mergeGroup]
    split
    · rfl
    · next hsmall =>
      split
      · rw [get?_foldl_set, if_neg fun hm => hsmall (h group List.mem_cons_self hm)]
      · rfl

/-- Neither the nodes of a group that had its turn nor those of a large one are moved again. -/
theorem Merged.rest (h : Merged settings assignments (group :: groups) output)
    (hn : node ∈ group.2 ∨ ∃ community, assignments.get? node = some community ∧
      isLarge settings (members assignments community) = true) (graph : GraphV0)
    (output : OrderedMap TrustID Nat) :
    (groups.foldl (mergeGroup settings graph) output).get? node = output.get? node := by
  apply foldl_mergeGroup_get?
  intro next hx hm
  rcases hn with hg | ⟨community, hc, hl⟩
  · exact absurd hg (h.other hx hm)
  · have hx := List.mem_cons_of_mem group hx
    rw [h.mem_group hx, hc, Option.some.injEq] at hm
    rwa [(mem_communityGroups.mp (h.known next hx)).1, ← hm]

/-- Where a group goes to a community that only negative edges lead to, its nodes end up with those
of that community, and without negative edges they do not. -/
theorem Merged.apart (h : Merged settings assignments (group :: groups) output)
    (hnan : settings.community_detection.min_cluster_size ≠ .nan)
    (hmin : settings.community_detection.min_cluster_size.le (.ofNat 1) = false)
    (hled : ¬LedByPositive settings graph output group) :
    normalizeCommunityIds (groups.foldl (mergeGroup settings (withoutNegative graph))
        (mergeGroup settings (withoutNegative graph) output group)) ≠
      normalizeCommunityIds (groups.foldl (mergeGroup settings graph)
        (mergeGroup settings graph output group)) := by
  simp only [LedByPositive, not_forall] at hled
  obtain ⟨hsmall, best, hbest, hkept⟩ := hled
  have hsmall : ¬isLarge settings group.2 = true := by simp [hsmall]
  obtain ⟨hne, hlarge⟩ := h.candidate hnan hbest
  obtain ⟨hnodes, hnil⟩ := mem_communityGroups.mp (h.known group List.mem_cons_self)
  obtain ⟨n, hn⟩ := List.exists_mem_of_ne_nil _ hnil
  obtain ⟨m, hm⟩ := List.exists_mem_of_ne_nil _ (isLarge_ne_nil hmin hlarge)
  have hm := mem_members.mp hm
  have hmg : m ∉ group.2 := by
    rw [h.mem_group List.mem_cons_self, hm, Option.some.injEq]
    exact hne
  have hmo := h.large m best.1 hm hlarge
  have hno := h.waiting group List.mem_cons_self n hn
  have hrestn := h.rest (.inl hn)
  have hrestm := h.rest (.inr ⟨best.1, hm, hlarge⟩)
  have hfulln : (mergeGroup settings graph output group).get? n = some best.1 := by
    rw [mergeGroup, if_neg hsmall, (hbest : heaviest _ = some best)]
    dsimp only
    rw [get?_foldl_set, if_pos hn]
  have hstaym : ∀ g, (mergeGroup settings g output group).get? m = some best.1 := by
    intro g
    rw [mergeGroup, if_neg hsmall]
    split
    · rw [get?_foldl_set, if_neg hmg, hmo]
    · exact hmo
  have hkeptn : ∃ other, other ≠ best.1 ∧
      (mergeGroup settings (withoutNegative graph) output group).get? n = some other := by
    rw [mergeGroup, if_neg hsmall]
    split
    · next other hother =>
      refine ⟨other.1, fun he => hkept ?_, by rw [get?_foldl_set, if_pos hn]⟩
      rw [← he, OrderedMap.has, OrderedMap.mem_entries.mp (heaviest_eq_some.mp hother).mem]
      rfl
    · exact ⟨group.1, hne.symm, hno⟩
  obtain ⟨other, hother, hkeptn⟩ := hkeptn
  intro hsame
  have hfull := normalizeCommunityIds_same ((hrestn graph _).trans hfulln)
    ((hrestm graph _).trans (hstaym graph))
  have hkept := normalizeCommunityIds_same ((hrestn (withoutNegative graph) _).trans hkeptn)
    ((hrestm (withoutNegative graph) _).trans (hstaym (withoutNegative graph)))
  rw [hsame, hfull] at hkept
  exact hother (hkept.mp rfl)

theorem applyMinClusterSize_withoutNegative_iff
    (hnan : settings.community_detection.min_cluster_size ≠ .nan) :
    applyMinClusterSize settings (withoutNegative graph) assignments =
        applyMinClusterSize settings graph assignments ↔
      MergesLedByPositive settings graph assignments := by
  refine ⟨fun hsame hmin => ?_, applyMinClusterSize_withoutNegative⟩
  rw [applyMinClusterSize_eq, applyMinClusterSize_eq, hmin] at hsame
  exact Along.of_observed normalizeCommunityIds (Merged settings assignments)
    (fun output group groups h => h.step hnan)
    (fun output group hled => mergeGroup_withoutNegative hled)
    (fun output group groups h hled => h.apart hnan hmin hled) .start hsame

end Apart

end Continuity

import Continuity.GraphComponents
import Continuity.CommunityMerge

namespace Continuity
open Collections
set_option autoImplicit true

section Louvain

variable (settings : GraphSettings) (graph : GraphV0)

theorem ownCommunities_has (node : TrustID) :
    (ownCommunities graph).has node = true ↔ node ∈ graph.nodes := by
  rw [ownCommunities, has_ofEntries, List.zipIdx_map_fst, mem_sortStrings]

theorem moveNode_has (s : LouvainState) (moved node : TrustID) :
    (moveNode settings graph s moved).assignments.has node = s.assignments.has node := by
  rw [moveNode]
  split
  · rfl
  · next own hown =>
    dsimp only
    split
    · rfl
    · rw [has_set]
      by_cases he : node = moved
      · subst he
        simp [OrderedMap.has, hown]
      · simp [he]

theorem foldl_moveNode_has (nodes : List TrustID) (s : LouvainState) (node : TrustID) :
    (nodes.foldl (moveNode settings graph) s).assignments.has node = s.assignments.has node := by
  induction nodes generalizing s with
  | nil => rfl
  | cons moved nodes ih => rw [List.foldl_cons, ih, moveNode_has]

theorem louvainPasses_has (passes : Nat) (result : CommunityResultV1) (node : TrustID) :
    (louvainPasses settings graph passes result).assignments.has node = true ↔
      result.assignments.has node = true := by
  induction passes generalizing result with
  | zero => rfl
  | succ passes ih =>
    have hpass : (normalizeCommunityIds ((sortStrings graph.nodes).foldl (moveNode settings graph)
        ⟨result.assignments, result.modularity_bps, false⟩).assignments).has node = true ↔
        result.assignments.has node = true := by
      rw [normalizeCommunityIds_has, foldl_moveNode_has]
    rw [louvainPasses]
    split
    · rw [ih, hpass]
    · exact hpass

/-- Louvain assigns the nodes of the graph. -/
theorem deterministicLouvainModularityV1_has (node : TrustID) :
    (deterministicLouvainModularityV1 settings graph).assignments.has node = true ↔
      node ∈ graph.nodes := by
  rw [deterministicLouvainModularityV1, louvainPasses_has, ownCommunities_has]

end Louvain

section Groups

variable {components refined : OrderedMap TrustID Nat} {locals : List Nat}

/-- Give the nodes of one component a number. -/
def numberComponent (components refined : OrderedMap TrustID Nat) (component next : Nat) :
    OrderedMap TrustID Nat :=
  components.entries.foldl (fun refined (node, other) =>
    if other = component then refined.set node next else refined) refined

theorem numberComponent_get? (component next : Nat) (node : TrustID) :
    (numberComponent components refined component next).get? node =
      if components.get? node = some component then some next else refined.get? node := by
  have hset : numberComponent components refined component next =
      (members components component).foldl (fun refined node => refined.set node next) refined := by
    rw [members, List.foldl_map, List.foldl_filter, numberComponent]
    simp only [beq_iff_eq]
  rw [hset, get?_foldl_set]
  simp only [mem_members]

/-- The components of a group get the numbers from `next` on, one after the other. -/
theorem foldl_numberComponent (hnodup : locals.Nodup) (refined : OrderedMap TrustID Nat)
    (next : Nat) (node : TrustID) :
    let s := locals.foldl (fun (refined, next) component =>
      (numberComponent components refined component next, next + 1)) (refined, next)
    s.2 = next + locals.length ∧
      (∀ component ∈ locals, components.get? node = some component →
        s.1.get? node = some (next + locals.idxOf component)) ∧
      ((∀ component ∈ locals, components.get? node ≠ some component) →
        s.1.get? node = refined.get? node) := by
  induction locals generalizing refined next with
  | nil => exact ⟨rfl, nofun, fun _ => rfl⟩
  | cons first locals ih =>
    obtain ⟨hfresh, hnodup⟩ := List.nodup_cons.mp hnodup
    obtain ⟨hlength, hin, hout⟩ :=
      ih hnodup (numberComponent components refined first next) (next + 1)
    dsimp only at hlength hin hout ⊢
    rw [List.foldl_cons]
    refine ⟨by rw [hlength, List.length_cons]; omega, ?_, ?_⟩
    · intro component hc hnode
      rcases List.mem_cons.mp hc with rfl | hc
      · rw [hout, numberComponent_get?, if_pos hnode, List.idxOf_cons_self, Nat.add_zero]
        rintro other ho hother
        rw [hnode, Option.some.injEq] at hother
        exact hfresh (hother ▸ ho)
      · have hne : first ≠ component := fun he => hfresh (he ▸ hc)
        rw [hin component hc hnode, List.idxOf_cons_ne _ hne]
        congr 1
        omega
    · intro hnone
      rw [hout fun component hc => hnone component (List.mem_cons_of_mem first hc),
        numberComponent_get?, if_neg (hnone first List.mem_cons_self)]

end Groups

section Refinement

variable {settings : GraphSettings} {graph : GraphV0} {threshold : JsNumber}

/-- A way inside a community over positive edges from a threshold on. -/
def Inside (settings : GraphSettings) (graph : GraphV0) (threshold : JsNumber)
    (assignments : OrderedMap TrustID Nat) (community : Nat) : TrustID → TrustID → Prop :=
  Relation.ReflTransGen fun x y => assignments.get? x = some community ∧
    assignments.get? y = some community ∧ ∃ edge ∈ graph.edges,
      0 < positiveWeight (some settings) edge ∧
      threshold.le (.ofNat (positiveWeight (some settings) edge)) = true ∧ Joins edge x y

theorem Inside.mono {old new : OrderedMap TrustID Nat}
    (h : ∀ x, old.get? x = some i → new.get? x = some j)
    (hin : Inside settings graph threshold old i a b) :
    Inside settings graph threshold new j a b := by
  induction hin with
  | refl => exact .refl
  | tail _ hs ih => exact ih.tail ⟨h _ hs.1, h _ hs.2.1, hs.2.2⟩

/-- The graph of one community that the refinement searches. -/
def groupGraph (settings : GraphSettings) (graph : GraphV0) (threshold : JsNumber)
    (nodes : List TrustID) : GraphV0 where
  nodes := sortStrings nodes
  edges := graph.edges.filter fun edge => nodes.contains edge.src && nodes.contains edge.dst &&
    threshold.le (.ofNat (positiveWeight (some settings) edge))

theorem groupGraph_undirected (hproj : projection (some settings) ≠ .directed_outbound)
    (nodes : List TrustID) :
    Undirected (some settings) (groupGraph settings graph threshold nodes) where
  projection := hproj
  ends := by
    intro edge he
    have hkept := (List.mem_filter.mp he).2
    rw [Bool.and_eq_true, Bool.and_eq_true, List.contains_iff_mem, List.contains_iff_mem] at hkept
    exact ⟨mem_sortStrings.mpr hkept.1.1, mem_sortStrings.mpr hkept.1.2⟩

theorem Connected.inside (hproj : projection (some settings) ≠ .directed_outbound)
    {assignments : OrderedMap TrustID Nat}
    (hc : Connected (adjacent (some settings) (groupGraph settings graph threshold nodes)
      threshold) a b)
    (h : ∀ x, Connected (adjacent (some settings) (groupGraph settings graph threshold nodes)
      threshold) a x → assignments.get? x = some i) :
    Inside settings graph threshold assignments i a b := by
  induction hc with
  | refl => exact .refl
  | @tail x y hx hs ih =>
    obtain ⟨edge, he, hw, -, hjoins⟩ := (mem_adjacent (groupGraph_undirected hproj nodes)).mp hs
    obtain ⟨he, hkept⟩ := List.mem_filter.mp he
    rw [Bool.and_eq_true] at hkept
    exact ih.tail ⟨h x hx, h y (hx.tail hs), edge, he, Nat.pos_of_ne_zero hw, hkept.2, hjoins⟩

/-- What the refinement of one group does to the numbers so far. -/
structure GroupRefined (settings : GraphSettings) (graph : GraphV0) (threshold : JsNumber)
    (nodes : List TrustID) (s t : OrderedMap TrustID Nat × Nat) : Prop where
  next : s.2 ≤ t.2
  outside : ∀ node, node ∉ nodes → t.1.get? node = s.1.get? node
  numbered : ∀ node ∈ nodes, ∃ i, s.2 ≤ i ∧ i < t.2 ∧ t.1.get? node = some i
  inside : ∀ a ∈ nodes, ∀ b ∈ nodes, ∀ i, t.1.get? a = some i → t.1.get? b = some i →
    Inside settings graph threshold t.1 i a b

theorem refineGroup_eq (nodes : List TrustID) (s : OrderedMap TrustID Nat × Nat) :
    refineGroup settings graph threshold s nodes =
      ((unique (connectedComponents (some settings) (groupGraph settings graph threshold nodes)
        threshold).values).insertionSort (· ≤ ·)).foldl (fun (refined, next) component =>
          (numberComponent (connectedComponents (some settings)
            (groupGraph settings graph threshold nodes) threshold) refined component next,
            next + 1)) s := rfl

theorem refineGroup_refined (hproj : projection (some settings) ≠ .directed_outbound)
    (nodes : List TrustID) (s : OrderedMap TrustID Nat × Nat) :
    GroupRefined settings graph threshold nodes s
      (refineGroup settings graph threshold s nodes) := by
  have hgraph : Undirected (some settings) (groupGraph settings graph threshold nodes) :=
    groupGraph_undirected hproj nodes
  have hsym : ∀ x, ∀ y ∈ adjacent (some settings) (groupGraph settings graph threshold nodes)
      threshold x, x ∈ adjacent (some settings) (groupGraph settings graph threshold nodes)
        threshold y := adjacent_symm hgraph
  obtain ⟨leaders, hsearch⟩ := connectedComponents_searched hsym
  rw [refineGroup_eq]
  generalize hcomps : connectedComponents (some settings)
    (groupGraph settings graph threshold nodes) threshold = comps at hsearch
  generalize hlocals : (unique comps.values).insertionSort (· ≤ ·) = locals
  have hmem : ∀ component, component ∈ locals ↔ ∃ node, comps.get? node = some component := by
    intro component
    rw [← hlocals, List.mem_insertionSort, mem_unique, OrderedMap.mem_values]
  have hnodup : locals.Nodup := by
    rw [← hlocals, (List.perm_insertionSort _ _).nodup_iff]
    exact unique_nodup _
  have hspec := @foldl_numberComponent comps locals hnodup s.1 s.2
  dsimp only at hspec
  have hnumber : ∀ node component, comps.get? node = some component →
      (locals.foldl (fun (refined, next) component =>
        (numberComponent comps refined component next, next + 1)) s).1.get? node =
        some (s.2 + locals.idxOf component) := fun node component hnode =>
    (hspec node).2.1 component ((hmem component).mpr ⟨node, hnode⟩) hnode
  have hnode : ∀ node, node ∈ nodes ↔ ∃ component, comps.get? node = some component := by
    intro node
    have hin : node ∈ nodes ↔ node ∈ (groupGraph settings graph threshold nodes).nodes :=
      mem_sortStrings.symm
    rw [hin, ← hsearch.mem_nodes hgraph]
    constructor
    · rintro ⟨i, -, hi⟩
      exact ⟨i, hi⟩
    · rintro ⟨i, hi⟩
      obtain ⟨leader, hl, -⟩ := (hsearch.partition node i).mp hi
      exact ⟨i, (List.getElem?_eq_some_iff.mp hl).1, hi⟩
  refine { next := ?_, outside := ?_, numbered := ?_, inside := ?_ }
  · rw [(hspec []).1]
    exact Nat.le_add_right _ _
  · intro node hout
    exact (hspec node).2.2 fun component _ hc => hout ((hnode node).mpr ⟨component, hc⟩)
  · intro node hin
    obtain ⟨component, hc⟩ := (hnode node).mp hin
    have hindex := List.idxOf_lt_length_of_mem ((hmem component).mpr ⟨node, hc⟩)
    refine ⟨_, Nat.le_add_right _ _, ?_, hnumber node component hc⟩
    rw [(hspec node).1]
    omega
  · intro a ha b hb i hai hbi
    obtain ⟨c, hc⟩ := (hnode a).mp ha
    obtain ⟨d, hd⟩ := (hnode b).mp hb
    have hi : s.2 + locals.idxOf c = i := Option.some.inj ((hnumber a c hc).symm.trans hai)
    have hj : s.2 + locals.idxOf d = i := Option.some.inj ((hnumber b d hd).symm.trans hbi)
    have hcd : c = d :=
      (List.idxOf_inj ((hmem c).mpr ⟨a, hc⟩)).mp (by omega)
    have hhas : comps.has a = true := by
      rw [OrderedMap.has, hc]
      rfl
    have hway := (hsearch.same hsym hhas).mp (hc.trans (hcd ▸ hd.symm))
    apply hway.inside hproj
    intro x hx
    have hsame := hsearch.partition.closed hhas hx
    rw [hnumber x c (hsame.trans hc), hi]

/-- The refinement between two groups, with `rest` to come. -/
structure Refining (settings : GraphSettings) (graph : GraphV0) (threshold : JsNumber)
    (coarse : OrderedMap TrustID Nat) (rest : List (Nat × List TrustID))
    (s : OrderedMap TrustID Nat × Nat) : Prop where
  bound : ∀ node i, s.1.get? node = some i → i < s.2
  unseen : ∀ group ∈ rest, ∀ node ∈ group.2, s.1.has node = false
  covered : ∀ node, coarse.has node = true → s.1.has node = true ∨ ∃ group ∈ rest, node ∈ group.2
  subset : ∀ node, s.1.has node = true → coarse.has node = true
  together : ∀ a b i, s.1.get? a = some i → s.1.get? b = some i →
    coarse.get? a = coarse.get? b ∧ Inside settings graph threshold s.1 i a b

theorem Refining.step {coarse : OrderedMap TrustID Nat}
    (h : Refining settings graph threshold coarse (group :: rest) s)
    (hgroup : ∀ node, node ∈ group.2 ↔ coarse.get? node = some group.1)
    (hapart : ∀ other ∈ rest, ∀ node ∈ other.2, node ∉ group.2)
    (ht : GroupRefined settings graph threshold group.2 s t) :
    Refining settings graph threshold coarse rest t := by
  have hfresh : ∀ node i, s.1.get? node = some i → node ∉ group.2 := by
    intro node i hi hin
    have hnone := h.unseen group List.mem_cons_self node hin
    rw [OrderedMap.has, hi] at hnone
    cases hnone
  have hkept : ∀ node i, s.1.get? node = some i → t.1.get? node = some i := fun node i hi => by
    rw [ht.outside node (hfresh node i hi), hi]
  -- the numbers of the group are new
  have hside : ∀ node i, t.1.get? node = some i →
      (node ∈ group.2 ∧ s.2 ≤ i ∧ i < t.2) ∨
        (node ∉ group.2 ∧ s.1.get? node = some i ∧ i < s.2) := by
    intro node i hi
    by_cases hin : node ∈ group.2
    · obtain ⟨j, hlow, hhigh, hj⟩ := ht.numbered node hin
      rw [hj, Option.some.injEq] at hi
      exact .inl ⟨hin, by omega, by omega⟩
    · rw [ht.outside node hin] at hi
      exact .inr ⟨hin, hi, h.bound node i hi⟩
  refine
    { bound := fun node i hi => ?_, unseen := fun other ho node hn => ?_
      covered := fun node hn => ?_, subset := fun node hn => ?_
      together := fun a b i ha hb => ?_ }
  · rcases hside node i hi with ⟨-, -, hlt⟩ | ⟨-, -, hlt⟩
    · exact hlt
    · exact Nat.lt_of_lt_of_le hlt ht.next
  · have hold := h.unseen other (List.mem_cons_of_mem group ho) node hn
    rwa [has_eq_false, ht.outside node (hapart other ho node hn), ← has_eq_false]
  · rcases h.covered node hn with hs | ⟨other, ho, hin⟩
    · obtain ⟨i, hi⟩ := Option.isSome_iff_exists.mp hs
      exact .inl (by rw [OrderedMap.has, hkept node i hi]; rfl)
    · rcases List.mem_cons.mp ho with rfl | ho
      · obtain ⟨i, -, -, hi⟩ := ht.numbered node hin
        exact .inl (by rw [OrderedMap.has, hi]; rfl)
      · exact .inr ⟨other, ho, hin⟩
  · obtain ⟨i, hi⟩ := Option.isSome_iff_exists.mp hn
    rcases hside node i hi with ⟨hin, -⟩ | ⟨-, hs, -⟩
    · rw [OrderedMap.has, (hgroup node).mp hin]
      rfl
    · exact h.subset node (by rw [OrderedMap.has, hs]; rfl)
  · rcases hside a i ha with ⟨hain, hlow, -⟩ | ⟨haout, hsa, hlt⟩
    · rcases hside b i hb with ⟨hbin, -⟩ | ⟨-, -, hlt⟩
      · exact ⟨by rw [(hgroup a).mp hain, (hgroup b).mp hbin], ht.inside a hain b hbin i ha hb⟩
      · omega
    · rcases hside b i hb with ⟨-, hlow, -⟩ | ⟨hbout, hsb, -⟩
      · omega
      · obtain ⟨hsame, hway⟩ := h.together a b i hsa hsb
        exact ⟨hsame, hway.mono fun x hx => hkept x i hx⟩

theorem foldl_refineGroup {coarse : OrderedMap TrustID Nat}
    (hproj : projection (some settings) ≠ .directed_outbound)
    (hgroups : ∀ group ∈ rest, ∀ node, node ∈ group.2 ↔ coarse.get? node = some group.1)
    (hkeys : (rest.map Prod.fst).Nodup)
    (h : Refining settings graph threshold coarse rest s) :
    Refining settings graph threshold coarse [] (rest.foldl (fun refined group =>
      refineGroup settings graph threshold refined group.2) s) := by
  induction rest generalizing s with
  | nil => exact h
  | cons group rest ih =>
    obtain ⟨hkey, hkeys⟩ := List.nodup_cons.mp hkeys
    have hgroup := hgroups group List.mem_cons_self
    have hgroups' : ∀ other ∈ rest, ∀ node, node ∈ other.2 ↔ coarse.get? node = some other.1 :=
      fun other ho => hgroups other (List.mem_cons_of_mem group ho)
    have hapart : ∀ other ∈ rest, ∀ node ∈ other.2, node ∉ group.2 := by
      intro other ho node hn hin
      have hother := (hgroups' other ho node).mp hn
      rw [(hgroup node).mp hin, Option.some.injEq] at hother
      exact hkey (hother ▸ List.mem_map_of_mem ho)
    exact ih hgroups' hkeys (h.step hgroup hapart (refineGroup_refined hproj group.2 s))

theorem refined_groups (hproj : projection (some settings) ≠ .directed_outbound)
    (graph : GraphV0) (threshold : JsNumber) (coarse : OrderedMap TrustID Nat) :
    Refining settings graph threshold coarse [] ((sortedGroups coarse).foldl (fun refined group =>
      refineGroup settings graph threshold refined group.2) (.empty, 0)) := by
  have hmem : ∀ group ∈ sortedGroups coarse, ∀ node,
      node ∈ group.2 ↔ coarse.get? node = some group.1 := by
    rintro ⟨community, nodes⟩ hg node
    obtain ⟨rfl, -⟩ := mem_communityGroups.mp ((List.mem_insertionSort _).mp hg)
    exact mem_members
  have hkeys : ((sortedGroups coarse).map Prod.fst).Nodup :=
    ((List.perm_insertionSort _ _).map Prod.fst).nodup_iff.mpr (communityGroups coarse).nodup
  apply foldl_refineGroup hproj hmem hkeys
  refine { bound := nofun, unseen := fun _ _ _ _ => rfl, covered := fun node hn => .inr ?_
           subset := nofun, together := nofun }
  obtain ⟨community, hc⟩ := Option.isSome_iff_exists.mp hn
  have hnode : node ∈ members coarse community := mem_members.mpr hc
  refine ⟨(community, members coarse community), (List.mem_insertionSort _).mpr ?_, hnode⟩
  exact mem_communityGroups.mpr ⟨rfl, List.ne_nil_of_mem hnode⟩

/-- The refinement assigns the nodes of the graph, keeps the communities of Louvain apart, and its
communities are connected. -/
theorem deterministicLeidenRefinementV1_connected (settings : GraphSettings) (graph : GraphV0)
    (hproj : projection (some settings) ≠ .directed_outbound) :
    let refined := (deterministicLeidenRefinementV1 settings graph).assignments
    let coarse := (deterministicLouvainModularityV1 settings graph).assignments
    let threshold := settings.community_detection.refinement_threshold_bps.getD
      (communityFloor settings)
    (∀ node, node ∈ graph.nodes ↔ ∃ i, refined.get? node = some i) ∧
    ∀ a b i, refined.get? a = some i → refined.get? b = some i →
      (∃ community, coarse.get? a = some community ∧ coarse.get? b = some community) ∧
      Inside settings graph threshold refined i a b := by
  intro refined coarse threshold
  have h := refined_groups hproj graph threshold coarse
  have hrefined : refined = normalizeCommunityIds ((sortedGroups coarse).foldl
      (fun refined group => refineGroup settings graph threshold refined group.2) (.empty, 0)).1 :=
    rfl
  generalize (sortedGroups coarse).foldl
    (fun refined group => refineGroup settings graph threshold refined group.2) (.empty, 0) = s
    at h hrefined
  have hnodes : ∀ node, coarse.has node = true ↔ node ∈ graph.nodes :=
    deterministicLouvainModularityV1_has settings graph
  have hhas : ∀ node, refined.has node = true ↔ s.1.has node = true := fun node => by
    rw [hrefined, normalizeCommunityIds_has]
  refine ⟨fun node => ?_, fun a b i ha hb => ?_⟩
  · rw [← Option.isSome_iff_exists]
    constructor
    · intro hn
      rcases h.covered node ((hnodes node).mpr hn) with hs | ⟨group, hg, -⟩
      · exact (hhas node).mpr hs
      · cases hg
    · exact fun hn => (hnodes node).mp (h.subset node ((hhas node).mp hn))
  · have hold : ∀ {node i}, refined.get? node = some i → ∃ j, s.1.get? node = some j :=
      fun {node i} hi => Option.isSome_iff_exists.mp ((hhas node).mp (by
        rw [OrderedMap.has, hi]
        rfl))
    obtain ⟨j, hj⟩ := hold ha
    obtain ⟨k, hk⟩ := hold hb
    have hjk : j = k := by
      rw [← normalizeCommunityIds_same hj hk, ← hrefined, ha, hb]
    subst hjk
    obtain ⟨hsame, hway⟩ := h.together a b j hj hk
    obtain ⟨community, hc⟩ := Option.isSome_iff_exists.mp
      (h.subset a (by rw [OrderedMap.has, hj]; rfl))
    refine ⟨⟨community, hc, hsame ▸ hc⟩, hway.mono fun x hx => ?_⟩
    have hxa := (normalizeCommunityIds_same hx hj).mpr rfl
    rw [← hrefined] at hxa
    rw [hxa, ha]

theorem deterministicLeidenRefinementV1_connected_apart :
    projection (some referenceSettings) ≠ .directed_outbound ∧
      ∀ a b i, (deterministicLeidenRefinementV1 referenceSettings apartGraph).assignments.get? a =
          some i →
        (deterministicLeidenRefinementV1 referenceSettings apartGraph).assignments.get? b =
          some i →
        Inside referenceSettings apartGraph (communityFloor referenceSettings)
          (deterministicLeidenRefinementV1 referenceSettings apartGraph).assignments i a b :=
  ⟨by decide, fun a b i ha hb =>
    ((deterministicLeidenRefinementV1_connected referenceSettings apartGraph (by decide)).2
      a b i ha hb).2⟩

end Refinement

end Continuity

import Continuity.CommunityMerge
import Continuity.Rounding

namespace Continuity
open Collections GuidedLoops
set_option autoImplicit true

section Reading

theorem edgeArcs_negative (profile : Option GraphSettings) (h : isNegativeGraphEdge edge = true) :
    edgeArcs profile false edge = [] := by
  have hpos := positiveWeight_negative profile h
  have hweight : graphMetricWeight profile edge false = 0 := by
    rw [graphMetricWeight, if_neg Bool.false_ne_true]
    exact max_eq_left (Int.toNat_eq_zero.mp hpos)
  rw [edgeArcs, if_pos hweight]

/-- Without signs a negative edge has no arcs. -/
theorem projectedGraphArcs_withoutNegative (profile : Option GraphSettings) (graph : GraphV0) :
    projectedGraphArcs profile (withoutNegative graph) false =
      projectedGraphArcs profile graph false := by
  rw [projectedGraphArcs, projectedGraphArcs, withoutNegative]
  induction graph.edges with
  | nil => rfl
  | cons edge edges ih =>
    cases h : isNegativeGraphEdge edge with
    | false => rw [List.filter_cons_of_pos (by simp [h]), List.flatMap_cons, List.flatMap_cons, ih]
    | true =>
      rw [List.filter_cons_of_neg (by simp [h]), List.flatMap_cons, edgeArcs_negative profile h,
        List.nil_append, ih]

/-- A fold that passes over negative edges does not see them. -/
theorem foldl_withoutNegative {S : Type} (graph : GraphV0) {f : S → GraphEdgeV0 → S} (s : S)
    (h : ∀ s edge, isNegativeGraphEdge edge = true → f s edge = s) :
    (withoutNegative graph).edges.foldl f s = graph.edges.foldl f s := by
  apply Along.foldl_filter
  apply Along.of_forall
  intro s edge _
  cases hn : isNegativeGraphEdge edge with
  | false => exact .inl rfl
  | true => exact .inr (h s edge hn)

theorem connectedComponents_withoutNegative (profile : Option GraphSettings) (graph : GraphV0)
    (floor : JsNumber) : connectedComponents profile (withoutNegative graph) floor =
      connectedComponents profile graph floor := by
  have hadjacent : adjacent profile (withoutNegative graph) floor =
      adjacent profile graph floor := by
    funext node
    rw [adjacent, adjacent, projectedGraphArcs_withoutNegative]
    rfl
  rw [connectedComponents, connectedComponents, hadjacent, reachableNodes, reachableNodes,
    projectedGraphArcs_withoutNegative]
  rfl

theorem filter_withoutNegative (nodes : List TrustID) (graph : GraphV0) (p : GraphEdgeV0 → Bool) :
    ({ nodes, edges := (withoutNegative graph).edges.filter p } : GraphV0) =
      withoutNegative { nodes, edges := graph.edges.filter p } := by
  simp only [withoutNegative, List.filter_filter, Bool.and_comm]

theorem refineGroup_withoutNegative (settings : GraphSettings) (graph : GraphV0)
    (threshold : JsNumber) : refineGroup settings (withoutNegative graph) threshold =
      refineGroup settings graph threshold := by
  funext refined nodes
  rw [refineGroup, refineGroup, filter_withoutNegative, connectedComponents_withoutNegative]

end Reading

section Floor

variable {settings : GraphSettings}

/-- `edge_weight_floor_bps > 0`. -/
def FloorPositive (settings : GraphSettings) : Prop :=
  ∃ floor, settings.community_detection.edge_weight_floor_bps = some floor ∧
    (JsNumber.ofNat 0).lt floor = true

theorem FloorPositive.communityFloor (h : FloorPositive settings) :
    (JsNumber.ofNat 0).lt (communityFloor settings) = true := by
  obtain ⟨floor, hf, hlt⟩ := h
  rw [Continuity.communityFloor, hf]
  exact hlt

theorem labelMasses_withoutNegative (h : FloorPositive settings) (graph : GraphV0) :
    labelMasses settings (withoutNegative graph) = labelMasses settings graph := by
  funext labels node
  apply foldl_withoutNegative
  intro masses edge hn
  simp only [positiveWeight_negative _ hn, h.communityFloor, if_true]

theorem undirectedPositiveMass_withoutNegative (h : FloorPositive settings) (graph : GraphV0) :
    undirectedPositiveMass settings (withoutNegative graph) =
      undirectedPositiveMass settings graph := by
  obtain ⟨floor, hf, hlt⟩ := h
  apply foldl_withoutNegative
  intro masses edge hn
  simp only [positiveWeight_negative _ hn, hf, Option.getD_some, hlt, true_or,
    if_true]

theorem modularityBps_withoutNegative (h : FloorPositive settings) (graph : GraphV0) :
    modularityBps settings (withoutNegative graph) = modularityBps settings graph := by
  funext assignments
  simp only [modularityBps, undirectedPositiveMass_withoutNegative h]
  rfl

theorem propagation_withoutNegative (E : Engine) (h : FloorPositive settings) (graph : GraphV0) :
    deterministicWeightedLabelPropagation E settings (withoutNegative graph) =
      deterministicWeightedLabelPropagation E settings graph := by
  have hbest : bestLabel E settings (withoutNegative graph) = bestLabel E settings graph := by
    funext labels node
    rw [bestLabel, bestLabel, labelMasses_withoutNegative h]
  have hpass : propagationPass E settings (withoutNegative graph) =
      propagationPass E settings graph := by
    funext labels
    rw [propagationPass, propagationPass, hbest]
    rfl
  have hpasses : ∀ passes labels,
      propagationPasses E settings (withoutNegative graph) passes labels =
        propagationPasses E settings graph passes labels := by
    intro passes
    induction passes with
    | zero => exact fun _ => rfl
    | succ passes ih =>
      intro labels
      rw [propagationPasses, propagationPasses, hpass]
      split
      · exact ih _
      · rfl
  rw [deterministicWeightedLabelPropagation, hpasses]
  rfl

theorem refinement_withoutNegative (E : Engine) (h : FloorPositive settings) (graph : GraphV0) :
    deterministicLeidenRefinement E settings (withoutNegative graph) =
      deterministicLeidenRefinement E settings graph := by
  rw [deterministicLeidenRefinement, deterministicLeidenRefinement, propagation_withoutNegative E h,
    refineGroup_withoutNegative]
  rfl

end Floor

section Louvain

variable (settings : GraphSettings) (graph : GraphV0)

/-- `approximation_tolerance_bps`, zero by default. -/
def tolerance : JsNumber :=
  settings.community_detection.approximation_tolerance_bps.getD (.ofNat 0)

/-- One candidate of the loop in `bestCommunity`. -/
def tryCommunity (assignments : OrderedMap TrustID Nat) (node : TrustID) (best : Nat × Nat)
    (candidate : Nat) : Nat × Nat :=
  let trial := modularityBps settings graph (assignments.set node candidate)
  if (JsNumber.ofNat best.2 + tolerance settings).lt (.ofNat trial) ∨
      (trial = best.2 ∧ candidate < best.1) then (candidate, trial)
  else best

def sortedCandidates (assignments : OrderedMap TrustID Nat) (node : TrustID) : List Nat :=
  (neighborCommunities graph assignments node).insertionSort (· ≤ ·)

theorem bestCommunity_eq (assignments : OrderedMap TrustID Nat) (node : TrustID)
    (current : Nat × Nat) : bestCommunity settings graph assignments node current =
      (sortedCandidates graph assignments node).foldl (tryCommunity settings graph assignments node)
        current := rfl

/-- No node moves to a community that only negative edges lead to. With a tolerance other than zero,
none such is the best for a while either: it would shift what later candidates are compared to. -/
def MoveLedByPositive (s : LouvainState) (node : TrustID) : Prop :=
  ∀ own ∈ s.assignments.get? node,
    let kept := neighborCommunities (withoutNegative graph) s.assignments node
    let current := (own, s.currentModularity)
    ((tolerance settings).strictEq (.ofNat 0) = true ∧
        (bestCommunity settings graph s.assignments node current).1 ∈ kept) ∨
      Along (tryCommunity settings graph s.assignments node)
        (fun best candidate => candidate ∈ kept ∨
          tryCommunity settings graph s.assignments node best candidate = best)
        current (sortedCandidates graph s.assignments node)

instance (s : LouvainState) (node : TrustID) :
    Decidable (MoveLedByPositive settings graph s node) :=
  inferInstanceAs (Decidable (∀ own ∈ s.assignments.get? node, _ ∨ _))

/-- The loop over the nodes in one pass. -/
def louvainMoves (result : CommunityResultV1) : LouvainState :=
  (sortStrings graph.nodes).foldl (moveNode settings graph)
    ⟨result.assignments, result.modularity_bps, false⟩

/-- The result after one pass. -/
def passResult (result : CommunityResultV1) : CommunityResultV1 :=
  let assignments := normalizeCommunityIds (louvainMoves settings graph result).assignments
  { assignments, modularity_bps := modularityBps settings graph assignments,
    pass_count := result.pass_count + 1 }

theorem louvainPasses_succ (passes : Nat) (result : CommunityResultV1) :
    louvainPasses settings graph (passes + 1) result =
      if (louvainMoves settings graph result).changed then
        louvainPasses settings graph passes (passResult settings graph result)
      else passResult settings graph result := rfl

/-- Every move of the passes from a result on is led by edges that are not negative. -/
def PassesLedByPositive : Nat → CommunityResultV1 → Prop
  | 0, _ => True
  | passes + 1, result =>
    Along (moveNode settings graph) (MoveLedByPositive settings graph)
        ⟨result.assignments, result.modularity_bps, false⟩ (sortStrings graph.nodes) ∧
      ((louvainMoves settings graph result).changed = true →
        PassesLedByPositive passes (passResult settings graph result))

instance PassesLedByPositive.decidable : (passes : Nat) → (result : CommunityResultV1) →
    Decidable (PassesLedByPositive settings graph passes result)
  | 0, _ => .isTrue trivial
  | passes + 1, result =>
    have := PassesLedByPositive.decidable passes (passResult settings graph result)
    inferInstanceAs (Decidable (Along _ _ _ _ ∧ (_ → _)))

def LouvainLedByPositive : Prop :=
  PassesLedByPositive settings graph (maxPasses settings)
    { assignments := ownCommunities graph,
      modularity_bps := modularityBps settings graph (ownCommunities graph), pass_count := 0 }

instance : Decidable (LouvainLedByPositive settings graph) :=
  inferInstanceAs (Decidable (PassesLedByPositive _ _ _ _))

theorem modularityBps_le (assignments : OrderedMap TrustID Nat) :
    modularityBps settings graph assignments ≤ 10000 := by
  simp only [modularityBps]
  split
  · exact Nat.zero_le _
  · exact clampBps_le _

variable {settings graph} {assignments : OrderedMap TrustID Nat} {node : TrustID}
  {current : Nat × Nat}

theorem tryCommunity_le (h : current.2 ≤ 10000) (candidate : Nat) :
    (tryCommunity settings graph assignments node current candidate).2 ≤ 10000 := by
  rw [tryCommunity]
  split
  · exact modularityBps_le settings graph _
  · exact h

theorem bestCommunity_le (h : current.2 ≤ 10000) :
    (bestCommunity settings graph assignments node current).2 ≤ 10000 := by
  rw [bestCommunity_eq]
  exact List.foldlRecOn _ (motive := fun best : Nat × Nat => best.2 ≤ 10000) _ h
    fun _ hb candidate _ => tryCommunity_le hb candidate

theorem add_tolerance_zero (h : (tolerance settings).strictEq (.ofNat 0) = true)
    (hn : n ≤ 10000) : JsNumber.ofNat n + tolerance settings = .ofNat n := by
  have hsum : JsNumber.rounded ((n : ℚ) + 0) = .ofNat n := by
    have hround := JsNumber.rounded_intCast (z := n) (by omega)
    rw [add_zero]
    exact_mod_cast hround
  rcases JsNumber.strictEq_ofNat _ 0 h with ht | ⟨ht, _⟩
  · rw [ht]
    exact hsum
  · rw [ht]
    exact hsum

/-- Without a tolerance a node keeps the best candidate that it tried. -/
theorem tryCommunity_zero (h : (tolerance settings).strictEq (.ofNat 0) = true)
    (hc : current.2 ≤ 10000) (candidate : Nat) :
    tryCommunity settings graph assignments node current candidate =
      keepFirst (fun a b => communityBefore a b = true) current
        (candidate, modularityBps settings graph (assignments.set node candidate)) := by
  simp only [tryCommunity, keepFirst, add_tolerance_zero h hc, JsNumber.ofNat_lt_iff,
    communityBefore_iff]
  split
  · rw [if_neg (by omega)]
  · rw [if_pos (by omega)]

/-- A search without tolerance, as a search for the first pair of community and modularity. -/
theorem foldl_tryCommunity (h : (tolerance settings).strictEq (.ofNat 0) = true)
    (hc : current.2 ≤ 10000) (candidates : List Nat) :
    candidates.foldl (tryCommunity settings graph assignments node) current =
      (candidates.map fun candidate =>
        (candidate, modularityBps settings graph (assignments.set node candidate))).foldl
          (keepFirst fun a b => communityBefore a b = true) current := by
  rw [List.foldl_map]
  symm
  have hall : Along (tryCommunity settings graph assignments node) (fun _ _ => True) current
      candidates := Along.of_forall fun _ _ _ => trivial
  apply Along.foldl_eq_of_inv (fun best : Nat × Nat => best.2 ≤ 10000)
    (fun best candidate hb => tryCommunity_le hb candidate) _ hc hall
  exact fun best candidate hb _ => (tryCommunity_zero h hb candidate).symm

theorem neighborCommunities_subset (assignments : OrderedMap TrustID Nat) (node : TrustID) :
    neighborCommunities (withoutNegative graph) assignments node ⊆
      neighborCommunities graph assignments node := by
  intro community h
  rw [neighborCommunities, mem_unique, List.mem_append, List.mem_filterMap] at h ⊢
  refine h.imp_right fun ⟨edge, he, hc⟩ => ⟨edge, List.mem_of_mem_filter he, hc⟩

/-- The candidates without negative edges, picked out of all. -/
theorem sortedCandidates_filter (assignments : OrderedMap TrustID Nat) (node : TrustID) :
    (sortedCandidates graph assignments node).filter (fun candidate =>
        decide (candidate ∈ neighborCommunities (withoutNegative graph) assignments node)) =
      sortedCandidates (withoutNegative graph) assignments node := by
  have hnodup : ∀ g, (sortedCandidates g assignments node).Nodup := by
    intro g
    rw [sortedCandidates, (List.perm_insertionSort _ _).nodup_iff]
    exact unique_nodup _
  have hsorted : ∀ g, (sortedCandidates g assignments node).Pairwise (· ≤ ·) := fun g =>
    List.pairwise_insertionSort _ _
  refine List.Perm.eq_of_pairwise' ((hsorted graph).filter _) (hsorted _) ?_
  rw [List.perm_ext_iff_of_nodup ((hnodup graph).filter _) (hnodup _)]
  intro community
  rw [List.mem_filter, sortedCandidates, sortedCandidates, List.mem_insertionSort,
    List.mem_insertionSort, decide_eq_true_eq]
  exact ⟨fun h => h.2, fun h => ⟨neighborCommunities_subset assignments node h, h⟩⟩

theorem tryCommunity_withoutNegative (h : FloorPositive settings)
    (assignments : OrderedMap TrustID Nat) (node : TrustID) :
    tryCommunity settings (withoutNegative graph) assignments node =
      tryCommunity settings graph assignments node := by
  funext best candidate
  rw [tryCommunity, tryCommunity, modularityBps_withoutNegative h]

theorem moveNode_withoutNegative (h : FloorPositive settings) {s : LouvainState}
    (hs : s.currentModularity ≤ 10000) (hled : MoveLedByPositive settings graph s node) :
    moveNode settings (withoutNegative graph) s node = moveNode settings graph s node := by
  rw [moveNode, moveNode]
  split
  · rfl
  · next own hown =>
    suffices hbest : bestCommunity settings (withoutNegative graph) s.assignments node
        (own, s.currentModularity) =
          bestCommunity settings graph s.assignments node (own, s.currentModularity) by rw [hbest]
    rw [bestCommunity_eq, tryCommunity_withoutNegative h, ← sortedCandidates_filter]
    rcases hled own hown with ⟨hzero, hkept⟩ | halong
    · rw [bestCommunity_eq, foldl_tryCommunity hzero hs, foldl_tryCommunity hzero hs]
      rw [bestCommunity_eq, foldl_tryCommunity hzero hs] at hkept
      apply foldl_left (List.map_subset _ (List.filter_subset_self _))
      have hmem := (first_foldl (r := fun a b => communityBefore a b = true)
        ((sortedCandidates graph s.assignments node).map fun candidate =>
          (candidate, modularityBps settings graph (s.assignments.set node candidate)))
        (own, s.currentModularity)).mem
      rcases List.mem_cons.mp hmem with he | hm
      · rw [he]
        exact List.mem_cons_self
      · obtain ⟨candidate, hc, he⟩ := List.mem_map.mp hm
        rw [← he] at hkept ⊢
        exact List.mem_cons_of_mem _ (List.mem_map.mpr
          ⟨candidate, List.mem_filter.mpr ⟨hc, decide_eq_true hkept⟩, rfl⟩)
    · exact Along.foldl_filter _ (by simpa only [decide_eq_true_eq] using halong)

theorem moveNode_le {s : LouvainState} (hs : s.currentModularity ≤ 10000) (node : TrustID) :
    (moveNode settings graph s node).currentModularity ≤ 10000 := by
  cases hown : s.assignments.get? node with
  | none => simpa only [moveNode, hown] using hs
  | some own =>
    simp only [moveNode, hown]
    split
    · exact hs
    · exact bestCommunity_le hs

theorem louvainMoves_withoutNegative (h : FloorPositive settings) {result : CommunityResultV1}
    (hr : result.modularity_bps ≤ 10000)
    (hled : Along (moveNode settings graph) (MoveLedByPositive settings graph)
      ⟨result.assignments, result.modularity_bps, false⟩ (sortStrings graph.nodes)) :
    louvainMoves settings (withoutNegative graph) result = louvainMoves settings graph result :=
  hled.foldl_eq_of_inv (fun s : LouvainState => s.currentModularity ≤ 10000)
    (fun _ node hs => moveNode_le hs node)
    (fun _ _ hs hled => moveNode_withoutNegative h hs hled) hr

theorem louvainPasses_withoutNegative (h : FloorPositive settings) {passes : Nat}
    {result : CommunityResultV1} (hr : result.modularity_bps ≤ 10000)
    (hled : PassesLedByPositive settings graph passes result) :
    louvainPasses settings (withoutNegative graph) passes result =
      louvainPasses settings graph passes result := by
  induction passes generalizing result with
  | zero => rfl
  | succ passes ih =>
    obtain ⟨hmoves, hnext⟩ := hled
    have hpass : passResult settings (withoutNegative graph) result =
        passResult settings graph result := by
      rw [passResult, passResult, louvainMoves_withoutNegative h hr hmoves,
        modularityBps_withoutNegative h]
    rw [louvainPasses_succ, louvainPasses_succ, louvainMoves_withoutNegative h hr hmoves, hpass]
    split
    · next hchanged => exact ih (modularityBps_le settings graph _) (hnext hchanged)
    · rfl

theorem louvain_withoutNegative (h : FloorPositive settings)
    (hled : LouvainLedByPositive settings graph) :
    deterministicLouvainModularityV1 settings (withoutNegative graph) =
      deterministicLouvainModularityV1 settings graph := by
  rw [deterministicLouvainModularityV1, modularityBps_withoutNegative h]
  exact louvainPasses_withoutNegative h (modularityBps_le settings graph _) hled

theorem leiden_withoutNegative (h : FloorPositive settings)
    (hled : LouvainLedByPositive settings graph) :
    deterministicLeidenRefinementV1 settings (withoutNegative graph) =
      deterministicLeidenRefinementV1 settings graph := by
  simp only [deterministicLeidenRefinementV1, louvain_withoutNegative h hled,
    refineGroup_withoutNegative, modularityBps_withoutNegative h]

end Louvain

section Assignments

variable (E : Engine) (settings : GraphSettings) (graph : GraphV0)

def settingsAlgorithm : JsString :=
  normalizeCommunityAlgorithm settings.community_detection.algorithm

def usesLouvain : Bool :=
  settingsAlgorithm settings == js "louvain_modularity_v1" ||
    settingsAlgorithm settings == js "leiden_refinement_v1"

/-- Neither a node nor a small community goes where only negative edges lead. -/
def CommunitiesLedByPositive : Prop :=
  settings.community_detection.algorithm = js "none" ∨
    (usesLouvain settings = true → LouvainLedByPositive settings graph) ∧
      MergesLedByPositive settings graph
        (algorithmAssignments E settings graph (settingsAlgorithm settings))

instance : Decidable (CommunitiesLedByPositive E settings graph) :=
  inferInstanceAs (Decidable (_ ∨ (_ → _) ∧ _))

variable {settings graph}

theorem algorithmAssignments_withoutNegative (h : FloorPositive settings)
    (hled : usesLouvain settings = true → LouvainLedByPositive settings graph) :
    algorithmAssignments E settings (withoutNegative graph) (settingsAlgorithm settings) =
      algorithmAssignments E settings graph (settingsAlgorithm settings) := by
  rw [algorithmAssignments, algorithmAssignments]
  split
  · exact propagation_withoutNegative E h graph
  · split
    · exact refinement_withoutNegative E h graph
    · split
      · next ha =>
        rw [louvain_withoutNegative h (hled (by simp [usesLouvain, ha]))]
      · split
        · next ha =>
          rw [leiden_withoutNegative h (hled (by simp [usesLouvain, ha]))]
        · exact connectedComponents_withoutNegative _ graph _

/-- Without negative edges a graph has the same communities, if no node and no small community goes
where only negative edges lead; and only then, unless it is a move of Louvain's that does: a later
pass may make such a move anyway, and a refinement may take it back. -/
theorem communityAssignments_withoutNegative (h : FloorPositive settings) :
    (CommunitiesLedByPositive E settings graph →
      communityAssignments E (withoutNegative graph) (some settings) =
        communityAssignments E graph (some settings)) ∧
    ((usesLouvain settings = true → LouvainLedByPositive settings graph) →
      settings.community_detection.min_cluster_size ≠ .nan →
      communityAssignments E (withoutNegative graph) (some settings) =
        communityAssignments E graph (some settings) →
      CommunitiesLedByPositive E settings graph) := by
  by_cases hnone : settings.community_detection.algorithm = js "none"
  · refine ⟨fun _ => ?_, fun _ _ _ => .inl hnone⟩
    simp only [communityAssignments, if_pos hnone]
    rfl
  · simp only [communityAssignments, CommunitiesLedByPositive, hnone, false_or]
    constructor
    · rintro ⟨hlouvain, hmerges⟩
      have hsame := algorithmAssignments_withoutNegative E h hlouvain
      rw [settingsAlgorithm] at hsame
      rw [hsame]
      exact applyMinClusterSize_withoutNegative hmerges
    · intro hlouvain hnan hequal
      have hsame := algorithmAssignments_withoutNegative E h hlouvain
      rw [settingsAlgorithm] at hsame
      rw [hsame] at hequal
      exact ⟨hlouvain, (applyMinClusterSize_withoutNegative_iff hnan).mp hequal⟩

end Assignments

section Samples

def communitySettings (algorithm : JsString) (minSize : Nat) : GraphSettings :=
  { referenceSettings with
    community_detection :=
      { referenceSettings.community_detection with
        algorithm
        min_cluster_size := .ofNat minSize
        edge_weight_floor_bps := some (.ofNat 1000) } }

def weakEdge (src dst : TrustID) : GraphEdgeV0 :=
  { fullEdge src dst (js "completed") with weight_bps := .ofNat 500 }

/-- Two pairs, and a node with a weak tie to the one and a dispute with the other. -/
def tiedGraph : GraphV0 where
  edges := [fullEdge (js "a") (js "b") (js "completed"),
    fullEdge (js "c") (js "d") (js "completed"), fullEdge (js "e") (js "a") (js "disputed"),
    weakEdge (js "e") (js "c")]
  nodes := [js "a", js "b", js "c", js "d", js "e"]

theorem communityAssignments_withoutNegative_sample :
    communityAssignments (sampleEngine vouchingNoble) (withoutNegative tiedGraph)
        (some (communitySettings (js "connected_components") 2)) =
      communityAssignments (sampleEngine vouchingNoble) tiedGraph
        (some (communitySettings (js "connected_components") 2)) :=
  (communityAssignments_withoutNegative (sampleEngine vouchingNoble)
    ⟨.ofNat 1000, rfl, by decide⟩).1 (by decide)

/-- A pair, and a node that disputes one of the two. -/
def disputingGraph : GraphV0 where
  edges := [fullEdge (js "a") (js "b") (js "completed"),
    fullEdge (js "c") (js "a") (js "disputed")]
  nodes := [js "a", js "b", js "c"]

def opponents : GraphV0 where
  edges := [fullEdge (js "a") (js "b") (js "disputed")]
  nodes := [js "a", js "b"]

/-- A small community joins the large one that it disputes with, and Louvain puts two opponents
into one community. -/
theorem disputes_join :
    (∀ algorithm minSize, FloorPositive (communitySettings algorithm minSize)) ∧
    (communityAssignments (sampleEngine vouchingNoble) disputingGraph
        (some (communitySettings (js "connected_components") 2))).entries =
      [(js "a", 0), (js "b", 0), (js "c", 0)] ∧
    (communityAssignments (sampleEngine vouchingNoble) (withoutNegative disputingGraph)
        (some (communitySettings (js "connected_components") 2))).entries =
      [(js "a", 0), (js "b", 0), (js "c", 1)] ∧
    (communityAssignments (sampleEngine vouchingNoble) opponents
        (some (communitySettings (js "louvain") 1))).entries = [(js "a", 0), (js "b", 0)] ∧
    (communityAssignments (sampleEngine vouchingNoble) (withoutNegative opponents)
        (some (communitySettings (js "louvain") 1))).entries = [(js "a", 0), (js "b", 1)] := by
  refine ⟨fun _ _ => ⟨.ofNat 1000, rfl, by decide⟩, ?_⟩
  decide +kernel

/-- Two opponents with weak ties to a third: the dispute moves one, and the ties would have. -/
example :
    let graph : GraphV0 :=
      { edges := [fullEdge (js "a") (js "b") (js "disputed"), weakEdge (js "a") (js "c"),
          weakEdge (js "b") (js "c")]
        nodes := [js "a", js "b", js "c"] }
    let settings := communitySettings (js "louvain") 1
    ¬LouvainLedByPositive settings graph ∧
      (communityAssignments (sampleEngine vouchingNoble) (withoutNegative graph)
        (some settings)).entries =
        (communityAssignments (sampleEngine vouchingNoble) graph (some settings)).entries := by
  decide +kernel

end Samples

end Continuity

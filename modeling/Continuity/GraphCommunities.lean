import Mathlib.Data.List.Count
import Mathlib.Data.List.TakeWhile
import Continuity.GraphArcs

namespace Continuity
open Collections
set_option autoImplicit true

section Components

variable (profile : Option GraphSettings)

/-- `[...(adjacency.get(node) ?? [])].sort()`. -/
def adjacent (graph : GraphV0) (floor : JsNumber) (node : TrustID) : List TrustID :=
  if graph.nodes.contains node then
    sortStrings (unique (((projectedGraphArcs profile graph false).filter fun arc =>
      arc.src == node && arc.reaches floor).map Arc.dst))
  else []

/-- The loop over the stack of one component; nodes that have a component are popped unseen. -/
def visit (neighbours : TrustID → List TrustID) (componentId : Nat) :
    Nat → List TrustID → OrderedMap TrustID Nat → OrderedMap TrustID Nat
  | 0, _, components => components
  | fuel + 1, stack, components =>
    match stack.dropWhile components.has with
    | [] => components
    | current :: stack =>
      let components := components.set current componentId
      visit neighbours componentId fuel
        ((neighbours current).filter (fun next => !components.has next) ++ stack) components

/-- Every node that a component search may come to. -/
def reachableNodes (graph : GraphV0) : List TrustID :=
  graph.nodes ++ (projectedGraphArcs profile graph false).map Arc.dst

def connectedComponents (graph : GraphV0) (floor : JsNumber) : OrderedMap TrustID Nat :=
  ((sortStrings (unique graph.nodes)).foldl (fun (components, componentId) node =>
    if components.has node then (components, componentId)
    else (visit (adjacent profile graph floor) componentId (reachableNodes profile graph).length
      [node] components, componentId + 1)) (.empty, 0)).1

theorem has_set [DecidableEq K] (m : OrderedMap K V) (k j : K) (v : V) :
    (m.set k v).has j = (decide (j = k) || m.has j) := by
  simp only [OrderedMap.has, OrderedMap.get?_set]
  by_cases h : j = k
  · simp [h]
  · simp [h]

theorem has_ofEntries [DecidableEq K] (entries : List (K × V)) (k : K) :
    (OrderedMap.ofEntries entries).has k = true ↔ k ∈ entries.map Prod.fst := by
  have hrun : ∀ (m : OrderedMap K V), (entries.foldl (fun m entry => m.set entry.1 entry.2)
      m).has k = true ↔ k ∈ entries.map Prod.fst ∨ m.has k = true := by
    induction entries with
    | nil => simp
    | cons entry entries ih =>
      intro m
      rw [List.foldl_cons, ih, has_set]
      simp only [List.map_cons, List.mem_cons, Bool.or_eq_true, decide_eq_true_eq]
      tauto
  rw [OrderedMap.ofEntries, hrun]
  simp [OrderedMap.has, OrderedMap.empty, OrderedMap.get?, getEntry]

/-- A map over some nodes with a value for each. -/
theorem get?_ofEntries [DecidableEq K] (nodes : List K) (f : K → V) (k : K) :
    (OrderedMap.ofEntries (nodes.map fun node => (node, f node))).get? k =
      if k ∈ nodes then some (f k) else none := by
  have hrun : ∀ (m : OrderedMap K V), ((nodes.map fun node => (node, f node)).foldl
      (fun m entry => m.set entry.1 entry.2) m).get? k =
      if k ∈ nodes then some (f k) else m.get? k := by
    induction nodes with
    | nil => intro m; rfl
    | cons node nodes ih =>
      intro m
      rw [List.map_cons, List.foldl_cons, ih, OrderedMap.get?_set]
      by_cases hm : k ∈ nodes
      · simp [hm]
      · by_cases he : k = node
        · simp [he]
        · simp [hm, he]
  exact hrun .empty

end Components

section Propagation

variable (E : Engine) (settings : GraphSettings)

/-- The other node of an edge; an empty id counts as none. -/
def otherEnd (edge : GraphEdgeV0) (node : TrustID) : Option TrustID :=
  let other := if edge.src = node then some edge.dst
    else if edge.dst = node then some edge.src else none
  if truthy other then other else none

def labelOf (labels : OrderedMap TrustID TrustID) (node : TrustID) : TrustID :=
  (labels.get? node).getD node

/-- Heavier labels first, then by name. -/
def labelBefore (a b : TrustID × Nat) : Bool :=
  (compare b.2 a.2).then (E.localeCompare a.1 b.1) != .gt

def communityFloor : JsNumber :=
  settings.community_detection.edge_weight_floor_bps.getD (.ofNat 1000)

def maxPasses : Nat := (settings.community_detection.max_passes.getD (.ofNat 20)).passes

def labelMasses (graph : GraphV0) (labels : OrderedMap TrustID TrustID) (node : TrustID) :
    OrderedMap TrustID Nat :=
  graph.edges.foldl (fun masses edge =>
    let mass := positiveWeight (some settings) edge
    if (JsNumber.ofNat mass).lt (communityFloor settings) then masses
    else match otherEnd edge node with
      | some other => addMass masses (labelOf labels other) mass
      | none => masses)
    (OrderedMap.empty.set (labelOf labels node) 0)

def bestLabel (graph : GraphV0) (labels : OrderedMap TrustID TrustID) (node : TrustID) :
    TrustID :=
  match ((labelMasses settings graph labels node).entries.insertionSort
    fun a b => labelBefore E a b).head? with
  | some entry => entry.1
  | none => labelOf labels node

/-- One pass over the nodes, and whether it changed a label. -/
def propagationPass (graph : GraphV0) (labels : OrderedMap TrustID TrustID) :
    OrderedMap TrustID TrustID × Bool :=
  (sortStrings graph.nodes).foldl (fun (labels, changed) node =>
    let best := bestLabel E settings graph labels node
    if best ≠ labelOf labels node then (labels.set node best, true) else (labels, changed))
    (labels, false)

def propagationPasses (graph : GraphV0) :
    Nat → OrderedMap TrustID TrustID → OrderedMap TrustID TrustID
  | 0, labels => labels
  | passes + 1, labels =>
    match propagationPass E settings graph labels with
    | (labels, true) => propagationPasses graph passes labels
    | (labels, false) => labels

/-- The names of an assignment replaced by numbers, in the order of their first nodes. -/
def numbered [DecidableEq K] (nodes : List TrustID) (nameOf : TrustID → K) :
    OrderedMap TrustID Nat :=
  (nodes.foldl (fun (ids, output) node =>
    let ids := if ids.has (nameOf node) then ids else ids.set (nameOf node) ids.entries.length
    (ids, output.set node ((ids.get? (nameOf node)).getD 0)))
    ((OrderedMap.empty : OrderedMap K Nat), OrderedMap.empty)).2

def deterministicWeightedLabelPropagation (graph : GraphV0) : OrderedMap TrustID Nat :=
  let nodes := sortStrings graph.nodes
  let labels := propagationPasses E settings graph (maxPasses settings)
    (.ofEntries (nodes.map fun node => (node, node)))
  numbered nodes (labelOf labels)

/-- The nodes of each community, in the order of the assignment. -/
def communityGroups (assignments : OrderedMap TrustID Nat) : OrderedMap Nat (List TrustID) :=
  assignments.entries.foldl (fun groups (node, community) =>
    groups.set community ((groups.get? community).getD [] ++ [node])) .empty

def firstIndex (graph : GraphV0) (nodes : List TrustID) : Nat :=
  (nodes.map graph.nodes.idxOf).foldl min graph.nodes.length

/-- Split one community into the components of its own edges from `threshold` on. -/
def refineGroup (graph : GraphV0) (threshold : JsNumber)
    (refined : OrderedMap TrustID Nat × Nat) (nodes : List TrustID) :
    OrderedMap TrustID Nat × Nat :=
  let subgraphEdges := graph.edges.filter fun edge =>
    nodes.contains edge.src && nodes.contains edge.dst &&
      threshold.le (.ofNat (positiveWeight (some settings) edge))
  let subComponents := connectedComponents (some settings)
    { nodes := sortStrings nodes, edges := subgraphEdges } threshold
  ((unique subComponents.values).insertionSort (· ≤ ·)).foldl (fun (refined, next) local_ =>
    (subComponents.entries.foldl (fun refined (node, component) =>
      if component = local_ then refined.set node next else refined) refined, next + 1)) refined

def deterministicLeidenRefinement (graph : GraphV0) : OrderedMap TrustID Nat :=
  let coarse := deterministicWeightedLabelPropagation E settings graph
  let groups := (communityGroups coarse).values.insertionSort fun a b =>
    firstIndex graph a ≤ firstIndex graph b
  (groups.foldl (refineGroup settings graph (communityFloor settings)) (.empty, 0)).1

end Propagation

section Modularity

variable (settings : GraphSettings)

structure CommunityResultV1 where
  assignments : OrderedMap TrustID Nat
  modularity_bps : Nat
  pass_count : Nat

def normalizeCommunityIds (assignments : OrderedMap TrustID Nat) : OrderedMap TrustID Nat :=
  numbered (sortStrings assignments.keys) assignments.get?

/-- What the edges between a community and the large ones around it weigh. -/
def candidateMasses (graph : GraphV0) (minSize : JsNumber) (output : OrderedMap TrustID Nat)
    (community : Nat) (nodes : List TrustID) : OrderedMap Nat Nat :=
  graph.edges.foldl (fun masses edge =>
    let srcSmall := nodes.contains edge.src
    if srcSmall = nodes.contains edge.dst then masses
    else match output.get? (if srcSmall then edge.dst else edge.src) with
      | none => masses
      | some other =>
        let size := (((communityGroups output).get? other).map List.length).getD 0
        if other = community ∨ (JsNumber.ofNat size).lt minSize then masses
        else addMass masses other (positiveWeight (some settings) edge)) .empty

/-- Heavier communities first, then by number. -/
def communityBefore (a b : Nat × Nat) : Bool :=
  (compare b.2 a.2).then (compare a.1 b.1) != .gt

def applyMinClusterSize (graph : GraphV0) (assignments : OrderedMap TrustID Nat) :
    OrderedMap TrustID Nat :=
  let minSize := settings.community_detection.min_cluster_size
  if minSize.le (.ofNat 1) then normalizeCommunityIds assignments
  else
    let groups := (communityGroups assignments).entries.insertionSort fun a b => a.1 ≤ b.1
    normalizeCommunityIds (groups.foldl (fun output (community, nodes) =>
      if minSize.le (.ofNat nodes.length) then output
      else
        match ((candidateMasses settings graph minSize output community nodes).entries.insertionSort
          fun a b => communityBefore a b).head? with
        | some best => nodes.foldl (fun output node => output.set node best.1) output
        | none => output) assignments)

/-- The two nodes of an edge joined by a zero character, in order. -/
def pairKey (edge : GraphEdgeV0) : JsString :=
  match sortStrings [edge.src, edge.dst] with
  | [left, right] => left ++ [0] ++ right
  | _ => []

def pairNodes (key : JsString) : TrustID × TrustID :=
  match key.splitOn 0 with
  | left :: right :: _ => (left, right)
  | _ => ([], [])

def undirectedPositiveMass (graph : GraphV0) : OrderedMap JsString Nat :=
  let floor := settings.community_detection.edge_weight_floor_bps.getD (.ofNat 0)
  graph.edges.foldl (fun masses edge =>
    let weight := positiveWeight (some settings) edge
    if (JsNumber.ofNat weight).lt floor ∨ edge.src = edge.dst then masses
    else addMass masses (pairKey edge) weight) .empty

def pairDegrees (nodes : List TrustID) (pairMass : OrderedMap JsString Nat) :
    OrderedMap TrustID Nat :=
  pairMass.entries.foldl (fun degree (key, weight) =>
    addMass (addMass degree (pairNodes key).1 weight) (pairNodes key).2 weight)
    (.ofEntries (nodes.map fun node => (node, 0)))

/-- The share of one pair inside a community, less what its degrees let expect. -/
def pairModularity (degree : OrderedMap TrustID Nat) (totalMass : Nat) (resolution : JsNumber)
    (pair : TrustID × TrustID) (weight : Nat) : JsNumber :=
  let total := JsNumber.ofNat totalMass
  let expected := JsNumber.ofNat ((degree.get? pair.1).getD 0) *
    .ofNat ((degree.get? pair.2).getD 0)
  .ofNat weight / total - resolution * expected / (.ofNat 2 * total * total)

def modularityBps (graph : GraphV0) (assignments : OrderedMap TrustID Nat) : Nat :=
  let pairMass := undirectedPositiveMass settings graph
  let degree := pairDegrees graph.nodes pairMass
  let totalMass := pairMass.values.sum
  if totalMass = 0 then 0
  else
    let resolution := JsNumber.ofNat (clampBps settings.community_detection.resolution_bps) /
      .ofNat 10000
    let q := pairMass.entries.foldl (fun q (key, weight) =>
      let pair := pairNodes key
      if assignments.get? pair.1 ≠ assignments.get? pair.2 then q
      else q + pairModularity degree totalMass resolution pair weight) (.ofNat 0)
    clampBps (q * .ofNat 10000).floor

end Modularity

section Louvain

variable (E : Engine) (settings : GraphSettings) (graph : GraphV0)

/-- The communities around a node, its own first. -/
def neighborCommunities (assignments : OrderedMap TrustID Nat) (node : TrustID) : List Nat :=
  unique ((assignments.get? node).toList ++ graph.edges.filterMap fun edge =>
    (otherEnd edge node).bind assignments.get?)

/-- Try a node in one community after another. -/
def bestCommunity (assignments : OrderedMap TrustID Nat) (node : TrustID)
    (current : Nat × Nat) : Nat × Nat :=
  let tolerance := settings.community_detection.approximation_tolerance_bps.getD (.ofNat 0)
  ((neighborCommunities graph assignments node).insertionSort (· ≤ ·)).foldl
    (fun (best, bestModularity) candidate =>
      let trial := modularityBps settings graph (assignments.set node candidate)
      if (JsNumber.ofNat bestModularity + tolerance).lt (.ofNat trial) ∨
          (trial = bestModularity ∧ candidate < best) then (candidate, trial)
      else (best, bestModularity)) current

structure LouvainState where
  assignments : OrderedMap TrustID Nat
  currentModularity : Nat
  changed : Bool

def moveNode (s : LouvainState) (node : TrustID) : LouvainState :=
  match s.assignments.get? node with
  | none => s
  | some own =>
    let (best, modularity) := bestCommunity settings graph s.assignments node
      (own, s.currentModularity)
    if best = own then s
    else
      { assignments := s.assignments.set node best, currentModularity := modularity,
        changed := true }

def louvainPasses : Nat → CommunityResultV1 → CommunityResultV1
  | 0, result => result
  | passes + 1, result =>
    let moved := (sortStrings graph.nodes).foldl (moveNode settings graph)
      ⟨result.assignments, result.modularity_bps, false⟩
    let assignments := normalizeCommunityIds moved.assignments
    let result :=
      { assignments, modularity_bps := modularityBps settings graph assignments,
        pass_count := result.pass_count + 1 }
    if moved.changed then louvainPasses passes result else result

def ownCommunities : OrderedMap TrustID Nat :=
  .ofEntries (sortStrings graph.nodes).zipIdx

def deterministicLouvainModularityV1 : CommunityResultV1 :=
  louvainPasses settings graph (maxPasses settings)
    { assignments := ownCommunities graph,
      modularity_bps := modularityBps settings graph (ownCommunities graph), pass_count := 0 }

def deterministicLeidenRefinementV1 : CommunityResultV1 :=
  let coarse := deterministicLouvainModularityV1 settings graph
  let threshold := settings.community_detection.refinement_threshold_bps.getD
    (communityFloor settings)
  let groups := (communityGroups coarse.assignments).entries.insertionSort fun a b => a.1 ≤ b.1
  let refined := (groups.foldl (fun refined group =>
    refineGroup settings graph threshold refined group.2) (.empty, 0)).1
  let assignments := normalizeCommunityIds refined
  { assignments, modularity_bps := modularityBps settings graph assignments,
    pass_count := coarse.pass_count + 1 }

def normalizeCommunityAlgorithm (algorithm : JsString) : JsString :=
  if algorithm = js "louvain" then js "louvain_modularity_v1"
  else if algorithm = js "leiden" then js "leiden_refinement_v1"
  else algorithm

/-- What each algorithm assigns before small communities are merged. -/
def algorithmAssignments (algorithm : JsString) : OrderedMap TrustID Nat :=
  if algorithm = js "louvain_modularity_v0" then
    deterministicWeightedLabelPropagation E settings graph
  else if algorithm = js "leiden_refinement_v0" then deterministicLeidenRefinement E settings graph
  else if algorithm = js "louvain_modularity_v1" then
    (deterministicLouvainModularityV1 settings graph).assignments
  else if algorithm = js "leiden_refinement_v1" then
    (deterministicLeidenRefinementV1 settings graph).assignments
  else connectedComponents (some settings) graph (communityFloor settings)

def communityAssignments (profile : Option GraphSettings) : OrderedMap TrustID Nat :=
  match profile with
  | none => connectedComponents none graph (.ofNat 1000)
  | some settings =>
    if settings.community_detection.algorithm = js "none" then ownCommunities graph
    else applyMinClusterSize settings graph (algorithmAssignments E settings graph
      (normalizeCommunityAlgorithm settings.community_detection.algorithm))

/-- The result of an algorithm after small communities were merged. -/
def mergedResult (result : CommunityResultV1) : CommunityResultV1 :=
  let applied := applyMinClusterSize settings graph result.assignments
  { assignments := applied, modularity_bps := modularityBps settings graph applied,
    pass_count := result.pass_count }

def communityResult (profile : Option GraphSettings) : CommunityResultV1 :=
  let assignments := communityAssignments E graph profile
  match profile with
  | none => { assignments, modularity_bps := 0, pass_count := 1 }
  | some settings =>
    let algorithm := normalizeCommunityAlgorithm settings.community_detection.algorithm
    if algorithm = js "louvain_modularity_v1" then
      mergedResult settings graph (deterministicLouvainModularityV1 settings graph)
    else if algorithm = js "leiden_refinement_v1" then
      mergedResult settings graph (deterministicLeidenRefinementV1 settings graph)
    else
      { assignments, modularity_bps := modularityBps settings graph assignments, pass_count := 1 }

def componentOfSubject (profile : Option GraphSettings) (subject : TrustID) : List TrustID :=
  let components := communityAssignments E graph profile
  match components.get? subject with
  | none => [subject]
  | some own => (components.entries.filter fun entry => entry.2 == own).map Prod.fst

end Louvain

end Continuity

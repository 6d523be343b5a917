import Continuity.SeedDistance

namespace Continuity
open Collections
set_option autoImplicit true

def withTreatment (settings : GraphSettings) (treatment : NegativeEdgeTreatment) : GraphSettings :=
  { settings with
    community_detection :=
      { settings.community_detection with negative_edge_treatment := some treatment } }

/-- The graph over the same nodes without its negative edges. -/
def withoutNegative (graph : GraphV0) : GraphV0 :=
  { graph with edges := graph.edges.filter fun edge => !isNegativeGraphEdge edge }

/-- The components that weigh edges: all but the number of passes. -/
def GraphMeasures.weighed (m : GraphMeasures) : GraphMeasures := { m with community_pass_count := 0 }

/-- No edge of the graph weighs anything. -/
def Weightless (profile : Option GraphSettings) (graph : GraphV0) : Prop :=
  ∀ edge ∈ graph.edges, signedEffectiveWeight profile edge = 0

namespace Weightless

theorem arcs (h : Weightless profile graph) (signed_supported : Bool) :
    projectedGraphArcs profile graph signed_supported = [] := by
  apply List.flatMap_eq_nil_iff.mpr
  intro edge he
  have hw : graphMetricWeight profile edge signed_supported = 0 := by
    cases signed_supported <;> simp [graphMetricWeight, h edge he]
  rw [edgeArcs, if_pos hw]

theorem masses (h : Weightless profile graph) (node : TrustID) :
    projectedNodeMasses profile graph node = .empty := by
  rw [projectedNodeMasses, h.arcs]
  rfl

theorem neighbours (h : Weightless profile graph) :
    liveNeighbours profile graph = fun _ => [] := by
  funext node
  rw [liveNeighbours, h.arcs]
  rfl

end Weightless

/-- Adding mass to one key adds it to the sum of all. -/
theorem sum_addMass [DecidableEq K] (masses : OrderedMap K Nat) (key : K) (mass : Nat) :
    (addMass masses key mass).values.sum = masses.values.sum + mass := by
  have hentries : ∀ entries : List (K × Nat),
      ((setEntry key ((getEntry key entries).getD 0 + mass) entries).map Prod.snd).sum =
        (entries.map Prod.snd).sum + mass := by
    intro entries
    induction entries with
    | nil => simp [setEntry, getEntry]
    | cons entry rest ih =>
      by_cases hk : entry.1 = key
      · simp only [setEntry, getEntry, hk, if_true, Option.getD_some, List.map_cons, List.sum_cons]
        omega
      · simp only [setEntry, getEntry, hk, if_false, List.map_cons, List.sum_cons, ih]
        omega
  exact hentries masses.entries

theorem sum_foldl_addMass [DecidableEq K] (items : List α) (key : α → K) (mass : α → Nat)
    (masses : OrderedMap K Nat) :
    (items.foldl (fun masses item => addMass masses (key item) (mass item)) masses).values.sum =
      masses.values.sum + (items.map mass).sum := by
  induction items generalizing masses with
  | nil => rfl
  | cons item items ih =>
    rw [List.foldl_cons, ih, sum_addMass, List.map_cons, List.sum_cons]
    omega

/-- The degree of a node is the weight of the arcs that leave it. -/
theorem projectedNodeMasses_sum (profile : Option GraphSettings) (graph : GraphV0)
    (node : TrustID) : (projectedNodeMasses profile graph node).values.sum =
      arcTotal ((projectedGraphArcs profile graph false).filter fun arc => arc.src == node) := by
  rw [projectedNodeMasses, sum_foldl_addMass]
  exact Nat.zero_add _

theorem Weightless.modularity (h : Weightless (some settings) graph)
    (assignments : OrderedMap TrustID Nat) : modularityBps settings graph assignments = 0 := by
  have hzero : (undirectedPositiveMass settings graph).values.sum = 0 := by
    have hrun : ∀ (edges : List GraphEdgeV0) (masses : OrderedMap JsString Nat),
        (∀ edge ∈ edges, signedEffectiveWeight (some settings) edge = 0) →
        masses.values.sum = 0 →
        (edges.foldl (fun masses edge =>
          let weight := positiveWeight (some settings) edge
          if (JsNumber.ofNat weight).lt
              (settings.community_detection.edge_weight_floor_bps.getD (.ofNat 0)) ∨
              edge.src = edge.dst then masses
          else addMass masses (pairKey edge) weight) masses).values.sum = 0 := by
      intro edges
      induction edges with
      | nil => exact fun _ _ hm => hm
      | cons edge edges ih =>
        intro masses hw hm
        rw [List.foldl_cons]
        apply ih _ fun e he => hw e (List.mem_cons_of_mem edge he)
        have hpos : positiveWeight (some settings) edge = 0 := by
          rw [positiveWeight, hw edge List.mem_cons_self]
          rfl
        dsimp only
        split
        · exact hm
        · rw [sum_addMass, hm, hpos]
    exact hrun graph.edges .empty h rfl
  simp only [modularityBps, hzero, if_true]

theorem Weightless.communityModularity (h : Weightless (some settings) graph) (E : Engine) :
    (communityResult E graph (some settings)).modularity_bps = 0 := by
  simp only [communityResult]
  split
  · exact h.modularity _
  · split
    · exact h.modularity _
    · exact h.modularity _

/-- What is measured in a graph without weight: only the nodes, the seeds and the settings of
the page rank count. -/
def weightlessMeasures (E : Engine) (nodes : List TrustID) (pagerank : Option PageRankSettings)
    (seeds adversarialSeeds : List TrustID) (subject : TrustID) (ppr : PageRankSettings) :
    GraphMeasures :=
  let distanceTo (seeds : List TrustID) : Nat := distanceScoreBps (if seeds.contains subject then
    some 0 else Search.distance (fun _ => []) seeds.contains 1 subject)
  let pprLite := massOf (pageRank (sortStrings nodes) [] (some ppr) seeds subject) subject
  { weighted_degree_bps := 0
    reciprocity_bps := 0
    counterparty_hhi_bps := 0
    counterparty_entropy_bps := 0
    effective_counterparty_count_milli := .ofNat 0
    seed_escape_bps := 0
    adversarial_proximity_bps := 0
    community_escape_bps := 0
    community_diversity_bps := clampBps (.ofNat 10000 - communityHhi E [])
    conductance_bps := 0
    trusted_neighbor_mass_bps := 0
    trusted_seed_distance_bps := distanceTo seeds
    adversarial_seed_distance_bps := distanceTo adversarialSeeds
    pagerank_bps := massOf (pageRank (sortStrings nodes) [] pagerank seeds subject) subject
    ppr_lite_bps := pprLite
    ppr_distance_bps := 10000 - pprLite
    trusted_seed_distance_proxy_bps := 10000 - distanceTo seeds
    adversarial_seed_distance_proxy_bps := 10000 - distanceTo adversarialSeeds
    cluster_distance_proxy_bps := 10000
    modularity_bps := 0
    community_pass_count := 0
    cluster_concentration_bps := 0 }

theorem Weightless.distance (h : Weightless profile graph) (subject : TrustID)
    (seeds : List TrustID) : shortestSeedDistance profile graph subject seeds =
      if seeds.contains subject then some 0
      else Search.distance (fun _ => []) seeds.contains 1 subject := by
  rw [shortestSeedDistance, h.neighbours, h.arcs]
  rfl

theorem pprProfile_weight (input : GraphFeatureInput) (settings : GraphSettings)
    (hp : input.graph_profile = some settings) :
    signedEffectiveWeight (some (pprProfile input)) = signedEffectiveWeight (some settings) := by
  rw [pprProfile, hp]
  rfl

theorem graphMeasures_weightless (E : Engine) (input : GraphFeatureInput)
    (hp : input.graph_profile = some settings) (h : Weightless (some settings) input.graph) :
    (graphMeasures E input).weighed = weightlessMeasures E input.graph.nodes settings.pagerank
      (input.trusted_seeds.getD []) (input.adversarial_seeds.getD []) input.subject
      ((pprProfile input).pagerank.getD ⟨.ofNat 20, .ofNat 8500, none⟩) := by
  have hppr : Weightless (some (pprProfile input)) input.graph := by
    intro edge he
    rw [pprProfile_weight input settings hp, h edge he]
  simp only [graphMeasures, GraphMeasures.weighed, weightlessMeasures, subjectMasses,
    pageRankScores, hp, h.arcs, h.masses, h.distance, h.communityModularity, hppr.arcs]
  rfl

/-- Of an edge that is not negative the plain weight counts, whatever the treatment. -/
theorem signedEffectiveWeight_positive (settings : GraphSettings)
    (h : isNegativeGraphEdge edge = false) :
    signedEffectiveWeight (some (withTreatment settings .cap)) edge = plainWeight edge := by
  simp [signedEffectiveWeight, effectiveWeight, negativeTreatment, withTreatment, h]

theorem weightless_ignored (settings : GraphSettings) (graph : GraphV0) :
    Weightless (some (withTreatment settings .ignore)) graph :=
  fun _ _ => if_pos rfl

theorem weightless_removed (settings : GraphSettings)
    (h : ∀ edge ∈ graph.edges, isNegativeGraphEdge edge = false → plainWeight edge = 0) :
    Weightless (some (withTreatment settings .cap)) (withoutNegative graph) := by
  intro edge he
  obtain ⟨he, hn⟩ := List.mem_filter.mp he
  have hn : isNegativeGraphEdge edge = false := by simpa using hn
  rw [signedEffectiveWeight_positive settings hn, h edge he hn]
  rfl

/-- An edge that is not negative adds its weight to the degree of its source. -/
theorem degree_positive (settings : GraphSettings) (he : edge ∈ graph.edges)
    (hn : isNegativeGraphEdge edge = false) (hw : plainWeight edge ≠ 0) :
    (projectedNodeMasses (some (withTreatment settings .cap)) (withoutNegative graph)
      edge.src).values.sum ≠ 0 := by
  have hsigned := signedEffectiveWeight_positive settings hn
  have harc : ⟨edge.src, edge.dst, plainWeight edge⟩ ∈
      (projectedGraphArcs (some (withTreatment settings .cap)) (withoutNegative graph)
        false).filter fun arc => arc.src == edge.src := by
    have hmetric : graphMetricWeight (some (withTreatment settings .cap)) edge false =
        plainWeight edge := by
      simp [graphMetricWeight, hsigned]
    refine List.mem_filter.mpr ⟨List.mem_flatMap.mpr ⟨edge, ?_, ?_⟩, by simp⟩
    · exact List.mem_filter.mpr ⟨he, by simp [hn]⟩
    · rw [edgeArcs, hmetric, if_neg (Int.natCast_ne_zero.mpr hw)]
      split <;> exact List.mem_cons_self
  rw [projectedNodeMasses_sum, arcTotal]
  intro hzero
  have hall := List.sum_eq_zero_iff_forall_eq_nat.mp hzero _ (List.mem_map_of_mem harc)
  exact hw hall

/-- The request for a subject and its seeds under a treatment of negative edges. -/
def treatedInput (input : GraphFeatureInput) (settings : GraphSettings)
    (treatment : NegativeEdgeTreatment) (graph : GraphV0) (subject : TrustID)
    (trusted adversarial : Option (List TrustID)) : GraphFeatureInput :=
  { input with
    subject
    graph
    graph_profile := some (withTreatment settings treatment)
    trusted_seeds := trusted
    adversarial_seeds := adversarial }

/-- To ignore negative edges is to remove them only where no other edge weighs anything: the
treatment takes the weight of every edge. -/
theorem ignored_iff_removed (E : Engine) (input : GraphFeatureInput) (settings : GraphSettings) :
    (∀ subject trusted adversarial,
      (graphMeasures E (treatedInput input settings .ignore input.graph subject trusted
        adversarial)).weighed =
      (graphMeasures E (treatedInput input settings .cap (withoutNegative input.graph) subject
        trusted adversarial)).weighed) ↔
      ∀ edge ∈ input.graph.edges, isNegativeGraphEdge edge = false → plainWeight edge = 0 := by
  constructor
  · intro hsame edge he hn
    by_contra hw
    have hdegree := congrArg GraphMeasures.weighted_degree_bps (hsame edge.src none none)
    have hzero : (projectedNodeMasses (some (withTreatment settings .ignore)) input.graph
        edge.src).values.sum = 0 := by
      rw [(weightless_ignored settings input.graph).masses]
      rfl
    have hpos := degree_positive settings he hn hw
    have hmin : min 10000 (projectedNodeMasses (some (withTreatment settings .ignore)) input.graph
        edge.src).values.sum = min 10000 (projectedNodeMasses (some (withTreatment settings .cap))
          (withoutNegative input.graph) edge.src).values.sum := hdegree
    rw [hzero] at hmin
    omega
  · intro hweight subject trusted adversarial
    have hleft := graphMeasures_weightless E
      (treatedInput input settings .ignore input.graph subject trusted adversarial) rfl
      (weightless_ignored settings input.graph)
    have hright := graphMeasures_weightless E
      (treatedInput input settings .cap (withoutNegative input.graph) subject trusted adversarial)
      rfl (weightless_removed settings hweight)
    rw [hleft, hright]
    rfl

/-- Under the treatment that ignores negative edges alice has no degree in a graph without any;
capped, she has all of it. -/
theorem ignored_degree :
    withoutNegative apartGraph = apartGraph ∧
      (graphMeasures (sampleEngine vouchingNoble) (treatedInput (seededInput apartGraph)
        referenceSettings .ignore apartGraph (js "alice") none none)).weighted_degree_bps = 0 ∧
      (graphMeasures (sampleEngine vouchingNoble) (treatedInput (seededInput apartGraph)
        referenceSettings .cap (withoutNegative apartGraph) (js "alice") none
          none)).weighted_degree_bps = 10000 := by
  refine ⟨?_, ?_⟩
  · have hedges : apartGraph.edges.filter (fun edge => !isNegativeGraphEdge edge) =
        apartGraph.edges := List.filter_eq_self.mpr (by decide)
    rw [withoutNegative, hedges]
  · decide

end Continuity

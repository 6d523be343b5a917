import Continuity.GraphCommunities
import Continuity.Signing

namespace Continuity
open Collections
set_option autoImplicit true

/-- The passes of a binary search for the root of a whole number. -/
def sqrtPasses (value : Nat) : Nat → Nat → Nat → Nat
  | 0, _, high => high
  | passes + 1, low, high =>
    if high < low then high
    else
      let mid := (low + high) / 2
      if mid * mid = value then mid
      else if mid * mid < value then sqrtPasses value passes (mid + 1) high
      else sqrtPasses value passes low (mid - 1)

def fixedPointSqrt (value : Nat) : Nat :=
  if value = 0 then 0 else sqrtPasses value (value + 2) 0 value

theorem sqrtPasses_eq (hlow : low ≤ Nat.sqrt value + 1) (hhigh : Nat.sqrt value ≤ high)
    (hp : high + 1 - low < passes) : sqrtPasses value passes low high = Nat.sqrt value := by
  induction passes generalizing low high with
  | zero => exact absurd hp (Nat.not_lt_zero _)
  | succ passes ih =>
    rw [sqrtPasses]
    by_cases hend : high < low
    · rw [if_pos hend]
      omega
    · rw [if_neg hend]
      dsimp only
      have hmid : low ≤ (low + high) / 2 ∧ (low + high) / 2 ≤ high := by omega
      generalize (low + high) / 2 = mid at hmid
      by_cases heq : mid * mid = value
      · rw [if_pos heq, ← heq, Nat.sqrt_eq]
      · rw [if_neg heq]
        by_cases hlt : mid * mid < value
        · rw [if_pos hlt]
          have hle : mid ≤ Nat.sqrt value := Nat.le_sqrt.mpr (Nat.le_of_lt hlt)
          exact ih (by omega) hhigh (by omega)
        · rw [if_neg hlt]
          have hlt' : Nat.sqrt value < mid := Nat.sqrt_lt.mpr (by omega)
          exact ih hlow (by omega) (by omega)

theorem fixedPointSqrt_eq (value : Nat) : fixedPointSqrt value = Nat.sqrt value := by
  rw [fixedPointSqrt]
  split
  · rename_i h
    rw [h, Nat.sqrt_zero]
  · exact sqrtPasses_eq (Nat.zero_le _) (Nat.sqrt_le_self value) (by omega)

section SquareRoot

/-- The `while` loop of `fixedPointSqrt` over the integers, undecided when the passes run out. -/
def sqrtLoop (value : Int) : Nat → Int → Int → Option Int
  | 0, _, _ => none
  | passes + 1, low, high =>
    if low ≤ high then
      let mid := (low + high) / 2
      let square := mid * mid
      if square = value then some mid
      else if square < value then sqrtLoop value passes (mid + 1) high
      else sqrtLoop value passes low (mid - 1)
    else some high

def fixedPointSqrtWithin (passes : Nat) (value : Int) : Option Int :=
  if value ≤ 0 then some 0 else sqrtLoop value passes 0 (max 1 value)

/-- The loop keeps `low - 1 ≤ root ≤ high`, and every pass narrows what is between. -/
theorem sqrtLoop_root {value root : Int} (hroot : 0 ≤ root) (hle : root * root ≤ value)
    (hlt : value < (root + 1) * (root + 1)) (h0 : 0 ≤ low) (hlow : low - 1 ≤ root)
    (hhigh : root ≤ high) {passes : Nat} (hp : high + 1 - low < passes) :
    sqrtLoop value passes low high = some root := by
  induction passes generalizing low high with
  | zero =>
    rw [Nat.cast_zero] at hp
    omega
  | succ passes ih =>
    rw [sqrtLoop]
    by_cases hend : low ≤ high
    · rw [if_pos hend]
      dsimp only
      have hmid : low ≤ (low + high) / 2 ∧ (low + high) / 2 ≤ high := by omega
      generalize (low + high) / 2 = mid at hmid
      -- a square at or below the value is the square of a number at or below the root
      have hbelow : mid * mid ≤ value → mid ≤ root := by
        intro h
        by_contra hgt
        have hnext : root + 1 ≤ mid := by omega
        have hsquare := mul_self_le_mul_self (by omega) hnext
        omega
      have habove : value ≤ mid * mid → root ≤ mid := by
        intro h
        by_contra hgt
        have hnext : mid + 1 ≤ root := by omega
        have hsquare := mul_self_le_mul_self (by omega) hnext
        nlinarith
      by_cases heq : mid * mid = value
      · rw [if_pos heq, le_antisymm (hbelow heq.le) (habove heq.ge)]
      · rw [if_neg heq]
        by_cases hless : mid * mid < value
        · rw [if_pos hless]
          have hle := hbelow hless.le
          exact ih (by omega) (by omega) hhigh (by push_cast at hp; omega)
        · rw [if_neg hless]
          have hge := habove (not_lt.mp hless)
          have hne : root ≠ mid := by
            rintro rfl
            exact heq (le_antisymm hle (not_lt.mp hless))
          exact ih h0 hlow (by omega) (by push_cast at hp; omega)
    · rw [if_neg hend]
      congr 1
      omega

/-- The search ends, with the largest number whose square is not above the value. -/
theorem fixedPointSqrt_root (n : Nat) : ∃ root : Int,
    (∃ passes, ∀ more ≥ passes, fixedPointSqrtWithin more n = some root) ∧
      root = fixedPointSqrt n ∧ root * root ≤ n ∧ ∀ r : Int, r * r ≤ n → r ≤ root := by
  have hle : (Nat.sqrt n : Int) * Nat.sqrt n ≤ n := by exact_mod_cast Nat.sqrt_le n
  have hlt : (n : Int) < (Nat.sqrt n + 1) * (Nat.sqrt n + 1) := by
    exact_mod_cast Nat.lt_succ_sqrt n
  refine ⟨Nat.sqrt n, ⟨n + 3, ?_⟩, congrArg Nat.cast (fixedPointSqrt_eq n).symm, hle, ?_⟩
  · intro more hmore
    rw [fixedPointSqrtWithin]
    by_cases hn : n = 0
    · rw [if_pos (by omega), hn, Nat.sqrt_zero]
      rfl
    · rw [if_neg (by omega)]
      have hself : (Nat.sqrt n : Int) ≤ n := by exact_mod_cast Nat.sqrt_le_self n
      have hone : max 1 (n : Int) = n := max_eq_right (by omega)
      rw [hone]
      exact sqrtLoop_root (Int.natCast_nonneg _) hle hlt le_rfl (by omega) hself (by omega)
  · intro r hr
    by_contra hgt
    have hnext : (Nat.sqrt n : Int) + 1 ≤ r := by omega
    have hsquare := mul_self_le_mul_self (by omega) hnext
    omega

end SquareRoot

section PageRank

/-- The nodes that a walk starts at. -/
def personalizedNodes (nodes trusted : List TrustID) (subject : TrustID) :
    Personalization → List TrustID
  | .trusted_seeds => if trusted.isEmpty then nodes else nodes.filter trusted.contains
  | .subject => if subject.isEmpty then nodes else [subject]
  | .uniform => nodes

def scoreOf (scores : OrderedMap TrustID JsNumber) (node : TrustID) : JsNumber :=
  (scores.get? node).getD (.ofNat 0)

def addScore (scores : OrderedMap TrustID JsNumber) (node : TrustID) (score : JsNumber) :
    OrderedMap TrustID JsNumber :=
  scores.set node (scoreOf scores node + score)

def outgoing (arcs : List Arc) (src : TrustID) : List Arc :=
  arcs.filter fun arc => arc.src == src && decide (0 < arc.weight)

def arcTotal (arcs : List Arc) : Nat := (arcs.map fun arc => arc.weight.toNat).sum

/-- One iteration: every node passes its score on, or back to where walks start. -/
def pageRankStep (nodes : List TrustID) (arcs : List Arc) (damping : JsNumber)
    (personalize scores : OrderedMap TrustID JsNumber) : OrderedMap TrustID JsNumber :=
  let next := OrderedMap.ofEntries (nodes.map fun node =>
    (node, (JsNumber.ofNat 1 - damping) * scoreOf personalize node))
  nodes.foldl (fun next src =>
    let out := outgoing arcs src
    if arcTotal out = 0 then
      nodes.foldl (fun next node =>
        addScore next node (damping * scoreOf scores src * scoreOf personalize node)) next
    else
      out.foldl (fun next arc =>
        let share := JsNumber.ofNat arc.weight.toNat / .ofNat (arcTotal out)
        addScore next arc.dst (damping * scoreOf scores src * share)) next) next

def pageRankPasses (nodes : List TrustID) (arcs : List Arc) (damping : JsNumber)
    (personalize : OrderedMap TrustID JsNumber) :
    Nat → OrderedMap TrustID JsNumber → OrderedMap TrustID JsNumber
  | 0, scores => scores
  | passes + 1, scores =>
    pageRankPasses nodes arcs damping personalize passes
      (pageRankStep nodes arcs damping personalize scores)

/-- The scores over the nodes of a graph in order and the arcs between them. -/
def pageRank (nodes : List TrustID) (arcs : List Arc) (settings : Option PageRankSettings)
    (trusted : List TrustID) (subject : TrustID) : OrderedMap TrustID Nat :=
  if nodes.isEmpty then .empty
  else
    let iterations := (settings.map PageRankSettings.iterations).getD (.ofNat 20)
    let damping_bps := (settings.map PageRankSettings.damping_bps).getD (.ofNat 8500)
    let damping := JsNumber.ofNat (clampBps damping_bps) / .ofNat 10000
    let starts := personalizedNodes nodes trusted subject
      ((settings.bind PageRankSettings.personalization).getD .uniform)
    let personalize := OrderedMap.ofEntries (nodes.map fun node =>
      (node, if starts.contains node then JsNumber.ofNat 1 / .ofNat starts.length else .ofNat 0))
    let scores := OrderedMap.ofEntries (nodes.map fun node =>
      (node, JsNumber.ofNat 1 / .ofNat nodes.length))
    (pageRankPasses nodes arcs damping personalize iterations.passes scores).mapValues
      fun score => clampBps (score * .ofNat 10000).floor

def pageRankScores (graph : GraphV0) (profile : Option GraphSettings) (trusted : List TrustID)
    (subject : TrustID) : OrderedMap TrustID Nat :=
  pageRank (sortStrings graph.nodes) (projectedGraphArcs profile graph false)
    (profile.bind GraphSettings.pagerank) trusted subject

end PageRank

structure GraphFeatureInput where
  subject : TrustID
  graph : GraphV0
  graph_profile_id : JsString
  graph_profile : Option GraphSettings
  trusted_seeds : Option (List TrustID)
  adversarial_seeds : Option (List TrustID)
  trusted_neighbor_scores_bps : Option (List (TrustID × JsNumber))
  computed_at : Option RFC3339
  signature : Option HexSig

/-- The numbers that are computed from a graph, apart from the manifold distances. -/
structure GraphMeasures where
  weighted_degree_bps : Nat
  reciprocity_bps : Nat
  counterparty_hhi_bps : Nat
  counterparty_entropy_bps : Nat
  effective_counterparty_count_milli : JsNumber
  seed_escape_bps : Nat
  adversarial_proximity_bps : Nat
  community_escape_bps : Nat
  community_diversity_bps : Nat
  conductance_bps : Nat
  trusted_neighbor_mass_bps : Nat
  trusted_seed_distance_bps : Nat
  adversarial_seed_distance_bps : Nat
  pagerank_bps : Nat
  ppr_lite_bps : Nat
  ppr_distance_bps : Nat
  trusted_seed_distance_proxy_bps : Nat
  adversarial_seed_distance_proxy_bps : Nat
  cluster_distance_proxy_bps : Nat
  modularity_bps : Nat
  community_pass_count : Nat
  cluster_concentration_bps : Nat

section Measures

variable (E : Engine) (input : GraphFeatureInput)

/-- The profile of a request without one, for the personalized scores. -/
def defaultSettings (graph_profile_id : JsString) : GraphSettings where
  profile_id := graph_profile_id
  edge_weight_profile := .name (js "default")
  temporal_decay_profile := js "none"
  community_detection :=
    { algorithm := js "connected_components_v0", resolution_bps := .ofNat 10000,
      min_cluster_size := .ofNat 1, edge_weight_floor_bps := none, max_passes := none,
      approximation_tolerance_bps := none, refinement_threshold_bps := none, projection := none,
      negative_edge_treatment := none }
  negative_edge_policy :=
    { requires_evidence_commitment := true, requires_appeal_uri := true,
      max_single_negative_weight_bps := .ofNat 1500, decay_days := .ofNat 30 }
  edge_weights := none
  half_life_days := none
  issuer_quality_bps := none
  pagerank := none
  manifold_profile := none

def pprProfile : GraphSettings :=
  let pagerank := input.graph_profile.bind GraphSettings.pagerank
  { input.graph_profile.getD (defaultSettings input.graph_profile_id) with
    pagerank := some
      { iterations := (pagerank.map PageRankSettings.iterations).getD (.ofNat 20)
        damping_bps := (pagerank.map PageRankSettings.damping_bps).getD (.ofNat 8500)
        personalization := some .trusted_seeds } }

/-- The sum of the squared shares of some masses. -/
def squaredShares (masses : List Nat) : JsNumber :=
  masses.foldl (fun sum mass =>
    sum + E.math.pow (.ofNat mass / .ofNat masses.sum) (.ofNat 2)) (.ofNat 0)

def herfindahlBps (masses : List Nat) : Nat :=
  if masses.sum = 0 then 0 else clampBps (squaredShares E masses * .ofNat 10000).floor

def shareEntropy (masses : List Nat) : JsNumber :=
  masses.foldl (fun sum mass =>
    let p := JsNumber.ofNat mass / .ofNat masses.sum
    if (JsNumber.ofNat 0).lt p then sum + p * E.math.log p else sum) (.ofNat 0)

def entropyBps (masses : List Nat) : Nat :=
  if masses.sum = 0 ∨ masses.length ≤ 1 then 0
  else clampBps (-shareEntropy E masses / E.math.log (.ofNat masses.length) *
    .ofNat 10000).floor

def effectiveCountMilli (masses : List Nat) : JsNumber :=
  if masses.sum = 0 then .ofNat 0
  else (E.math.exp (JsNumber.ofNat (entropyBps E masses) / .ofNat 10000 *
    E.math.log (.ofNat (max 1 masses.length))) * .ofNat 1000).floor

/-- What the edges at a node weigh in one direction, by the node at the other end. -/
def directedMasses (near far : GraphEdgeV0 → TrustID) : OrderedMap TrustID Nat :=
  (input.graph.edges.filter fun edge => near edge == input.subject).foldl
    (fun masses edge => addMass masses (far edge) (positiveWeight input.graph_profile edge)) .empty

def massOf (masses : OrderedMap TrustID Nat) (node : TrustID) : Nat := (masses.get? node).getD 0

/-- The mass of the entries that a test lets pass. -/
def massWhere (masses : OrderedMap TrustID Nat) (p : TrustID → Bool) : Nat :=
  ((masses.entries.filter fun entry => p entry.1).map Prod.snd).sum

def arcMassWhere (arcs : List Arc) (p : Arc → Bool) : Nat := arcTotal (arcs.filter p)

/-- The masses of the communities, by the community of each arc's source. -/
def communityMasses (communities : OrderedMap TrustID Nat) (arcs : List Arc) :
    OrderedMap Nat Nat :=
  arcs.foldl (fun masses arc =>
    match communities.get? arc.src with
    | some community => addMass masses community arc.weight.toNat
    | none => masses) .empty

def communityHhi (masses : List Nat) : JsNumber :=
  if masses.sum = 0 then .ofNat 10000 else (squaredShares E masses * .ofNat 10000).floor

/-- `clampBps(trusted_neighbor_scores_bps?.[neighbor] ?? (seeds.has(neighbor) ? 10000 : 0))`. -/
def neighborScore (neighbor : TrustID) : Nat :=
  clampBps ((input.trusted_neighbor_scores_bps.bind (getEntry neighbor)).getD
    (if (input.trusted_seeds.getD []).contains neighbor then .ofNat 10000 else .ofNat 0))

def subjectMasses : OrderedMap TrustID Nat :=
  projectedNodeMasses input.graph_profile input.graph input.subject

def graphMeasures : GraphMeasures :=
  let arcs := projectedGraphArcs input.graph_profile input.graph false
  let masses := subjectMasses input
  let totalMass := masses.values.sum
  let outbound := directedMasses input GraphEdgeV0.src GraphEdgeV0.dst
  let inbound := directedMasses input GraphEdgeV0.dst GraphEdgeV0.src
  let seeds := input.trusted_seeds.getD []
  let adversarialSeeds := input.adversarial_seeds.getD []
  let communities := (communityResult E input.graph input.graph_profile).assignments
  let community := componentOfSubject E input.graph input.graph_profile input.subject
  let own := communities.get? input.subject
  let internalMass := massWhere masses fun node => communities.get? node == own
  let externalMass := massWhere masses fun node => communities.get? node != own
  let cutMass := arcMassWhere arcs fun arc =>
    community.contains arc.src && !community.contains arc.dst
  let volume := arcMassWhere arcs fun arc => community.contains arc.src
  let complement := arcMassWhere arcs fun arc => !community.contains arc.src
  let trustedDistance := distanceScoreBps
    (shortestSeedDistance input.graph_profile input.graph input.subject seeds)
  let adversarialDistance := distanceScoreBps
    (shortestSeedDistance input.graph_profile input.graph input.subject adversarialSeeds)
  let pprLite := massOf (pageRankScores input.graph (some (pprProfile input)) seeds input.subject)
    input.subject
  let concentration := bps internalMass (internalMass + externalMass)
  { weighted_degree_bps := min 10000 totalMass
    reciprocity_bps := bps
      (masses.keys.map fun node => 2 * min (massOf outbound node) (massOf inbound node)).sum
      (masses.keys.map fun node => massOf outbound node + massOf inbound node).sum
    counterparty_hhi_bps := herfindahlBps E masses.values
    counterparty_entropy_bps := entropyBps E masses.values
    effective_counterparty_count_milli := effectiveCountMilli E masses.values
    seed_escape_bps := bps (massWhere masses seeds.contains) totalMass
    adversarial_proximity_bps := bps (massWhere masses adversarialSeeds.contains) totalMass
    community_escape_bps := bps externalMass (internalMass + externalMass)
    community_diversity_bps :=
      clampBps (.ofNat 10000 - communityHhi E (communityMasses communities arcs).values)
    conductance_bps := bps cutMass (min volume complement)
    trusted_neighbor_mass_bps := bps
      (masses.entries.map fun entry => entry.2 * neighborScore input entry.1 / 10000).sum totalMass
    trusted_seed_distance_bps := trustedDistance
    adversarial_seed_distance_bps := adversarialDistance
    pagerank_bps := massOf
      (pageRankScores input.graph input.graph_profile seeds input.subject) input.subject
    ppr_lite_bps := pprLite
    ppr_distance_bps := 10000 - pprLite
    trusted_seed_distance_proxy_bps := 10000 - trustedDistance
    adversarial_seed_distance_proxy_bps := 10000 - adversarialDistance
    cluster_distance_proxy_bps := 10000 - concentration
    modularity_bps := (communityResult E input.graph input.graph_profile).modularity_bps
    community_pass_count := (communityResult E input.graph input.graph_profile).pass_count
    cluster_concentration_bps := concentration }

end Measures

section Manifold

/-- `none` where a length does not fit. -/
def centroidCovarianceDistanceBps (features : List Nat) (centroid : Option (List JsNumber))
    (inverseCovariance : Option (List (List JsNumber))) : Option Nat :=
  match centroid, inverseCovariance with
  | some centroid, some rows =>
    if centroid.length = features.length ∧ rows.length = features.length ∧
        ∀ row ∈ rows, row.length = features.length then
      let deltas := List.zipWith (fun feature c => (feature : Int) - clampBps c) features centroid
      let quadratic := (List.zipWith (fun rowDelta row =>
        (List.zipWith (fun columnDelta weight =>
          rowDelta * (clampBps weight : Int) * columnDelta / 100000000) deltas row).sum)
        deltas rows).sum
      some (min 10000 (fixedPointSqrt quadratic.toNat))
    else none
  | _, _ => none

variable (E : Engine)

def centroidsMatch (profile : ManifoldProfile) : Js Bool := do
  let commits (stated : Option Hex32) (value : JsValue) : Js Bool := do
    let hash ← canonicalHash E.host.noble value
    return stated == some hash
  let trusted ← commits profile.trusted_centroid_commitment
    (numberList (profile.trusted_centroid_bps.getD []))
  if !trusted then return false
  let adversarial ← commits profile.adversarial_centroid_commitment
    (numberList (profile.adversarial_centroid_bps.getD []))
  if !adversarial then return false
  let cluster ← commits profile.cluster_centroid_commitment
    (numberList (profile.cluster_centroid_bps.getD []))
  if !cluster then return false
  commits profile.covariance_commitment (numberRows (profile.inverse_covariance_bps.getD []))

structure ManifoldDistances where
  trusted : Nat
  adversarial : Nat
  cluster : Nat

/-- The distances to the centroids of the profile; without one, the proxies. -/
def manifoldDistances (profile : Option GraphSettings) (measures : GraphMeasures) :
    Js ManifoldDistances :=
  match profile.bind GraphSettings.manifold_profile with
  | some manifold =>
    if manifold.algorithm = .centroid_covariance_v1 then do
      let matching ← centroidsMatch E manifold
      if !matching then throw "TSL_MANIFOLD_PROFILE_UNSUPPORTED"
      let features := [measures.ppr_distance_bps, measures.trusted_seed_distance_proxy_bps,
        measures.adversarial_seed_distance_proxy_bps, measures.cluster_distance_proxy_bps]
      let distance (centroid : Option (List JsNumber)) : Option Nat :=
        centroidCovarianceDistanceBps features centroid manifold.inverse_covariance_bps
      match distance manifold.trusted_centroid_bps, distance manifold.adversarial_centroid_bps,
        distance manifold.cluster_centroid_bps with
      | some trusted, some adversarial, some cluster => return ⟨trusted, adversarial, cluster⟩
      | _, _, _ => throw "TSL_MANIFOLD_PROFILE_UNSUPPORTED"
    else return proxies
  | none => return proxies
where
  proxies : ManifoldDistances :=
    ⟨measures.trusted_seed_distance_proxy_bps, measures.adversarial_seed_distance_proxy_bps,
      measures.cluster_distance_proxy_bps⟩

structure GraphFeatureVector where
  subject : TrustID
  graph_profile_id : JsString
  computed_at : RFC3339
  community_algorithm_id : JsString
  measures : GraphMeasures
  manifold : ManifoldDistances
  feature_commitment : Hex32
  recomputation_commitment : Hex32
  signature : HexSig

def seedCommitment (seeds : Option (List TrustID)) : Js Hex32 :=
  canonicalHash E.host.noble (textList (sortStrings (seeds.getD [])))

def communityAlgorithmId (profile : Option GraphSettings) : JsString :=
  match profile with
  | some settings => normalizeCommunityAlgorithm settings.community_detection.algorithm
  | none => js "connected_components_v0"

def computeGraphFeatureVectorV0 (input : GraphFeatureInput) : Js GraphFeatureVector := do
  let measures := graphMeasures E input
  let manifold ← manifoldDistances E input.graph_profile measures
  let graph_hash ← canonicalHash E.host.noble input.graph.toJs
  let trusted ← seedCommitment E input.trusted_seeds
  let adversarial ← seedCommitment E input.adversarial_seeds
  let basis : JsObject := [(js "subject", .str input.subject),
    (js "graph_profile_id", .str input.graph_profile_id), (js "graph_hash", .str graph_hash),
    (js "trusted_seed_commitment", .str trusted),
    (js "adversarial_seed_commitment", .str adversarial)]
  let commitment ← canonicalHash E.host.noble (.obj basis)
  return {
    subject := input.subject
    graph_profile_id := input.graph_profile_id
    computed_at := input.computed_at.getD E.host.nowText
    community_algorithm_id := communityAlgorithmId input.graph_profile
    measures
    manifold
    feature_commitment := commitment
    recomputation_commitment := commitment
    signature := input.signature.getD (js "0x00") }

end Manifold

end Continuity

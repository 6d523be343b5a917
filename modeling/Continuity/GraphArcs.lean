import Continuity.EvidenceGraph
import Continuity.Search

namespace Continuity
open Collections
set_option autoImplicit true

/-- One arc of a graph as the metrics see it. -/
structure Arc where
  src : TrustID
  dst : TrustID
  weight : Int
  deriving DecidableEq

/-- `map.set(key, (map.get(key) ?? 0) + mass)`. -/
def addMass [DecidableEq K] (masses : OrderedMap K Nat) (key : K) (mass : Nat) :
    OrderedMap K Nat :=
  masses.set key ((masses.get? key).getD 0 + mass)

/-- `Math.floor((value * clampBps(multiplier)) / 10000)`, where there is a multiplier. -/
def scaledBps (value : Nat) (multiplier : Option JsNumber) : Nat :=
  match multiplier with
  | some multiplier => value * clampBps multiplier / 10000
  | none => value

/-- The weight of an edge before its sign is looked at. -/
def plainWeight (edge : GraphEdgeV0) : Nat :=
  [edge.source_quality_bps, edge.decay_bps, edge.receipt_status_bps,
    edge.appeal_multiplier_bps].foldl scaledBps (clampBps edge.weight_bps)

section Weights

variable (profile : Option GraphSettings)

def negativeTreatment : Option NegativeEdgeTreatment :=
  profile.bind fun profile => profile.community_detection.negative_edge_treatment

def effectiveWeight (edge : GraphEdgeV0) : Nat :=
  match profile with
  | some settings =>
    if isNegativeGraphEdge edge then
      match (negativeTreatment profile).getD .cap with
      | .ignore => 0
      | .cap => min (plainWeight edge)
          (clampBps settings.negative_edge_policy.max_single_negative_weight_bps)
      | .signed => plainWeight edge
    else plainWeight edge
  | none => plainWeight edge

def signedEffectiveWeight (edge : GraphEdgeV0) : Int :=
  if negativeTreatment profile = some .ignore then 0
  else if isNegativeGraphEdge edge then -(effectiveWeight profile edge : Int)
  else effectiveWeight profile edge

/-- `Math.max(0, signedEffectiveWeight(edge))`. -/
def positiveWeight (edge : GraphEdgeV0) : Nat := (signedEffectiveWeight profile edge).toNat

def graphMetricWeight (edge : GraphEdgeV0) (signed_supported : Bool) : Int :=
  if signed_supported then signedEffectiveWeight profile edge
  else max 0 (signedEffectiveWeight profile edge)

def projection : Projection :=
  (profile.bind fun profile => profile.community_detection.projection).getD .undirected_sum

def edgeFloor : JsNumber :=
  (profile.bind fun profile => profile.community_detection.edge_weight_floor_bps).getD
    (.ofNat 1000)

/-- An edge without weight has no arcs. -/
def edgeArcs (signed_supported : Bool) (edge : GraphEdgeV0) : List Arc :=
  let weight := graphMetricWeight profile edge signed_supported
  if weight = 0 then []
  else if projection profile ≠ .directed_outbound ∧ edge.src ≠ edge.dst then
    [⟨edge.src, edge.dst, weight⟩, ⟨edge.dst, edge.src, weight⟩]
  else [⟨edge.src, edge.dst, weight⟩]

def projectedGraphArcs (graph : GraphV0) (signed_supported : Bool) : List Arc :=
  graph.edges.flatMap (edgeArcs profile signed_supported)

def projectedNodeMasses (graph : GraphV0) (node : TrustID) : OrderedMap TrustID Nat :=
  ((projectedGraphArcs profile graph false).filter fun arc => arc.src == node).foldl
    (fun masses arc => addMass masses arc.dst arc.weight.toNat) .empty

/-- `Math.abs(arc.weight) >= floor`. -/
def Arc.reaches (arc : Arc) (floor : JsNumber) : Bool :=
  !(JsNumber.ofNat arc.weight.natAbs).lt floor

/-- The nodes that a search goes on to from a node. -/
def liveNeighbours (graph : GraphV0) (node : TrustID) : List TrustID :=
  ((projectedGraphArcs profile graph true).filter fun arc =>
    arc.src == node && arc.reaches (edgeFloor profile)).map Arc.dst

/-- `none` for an infinite distance. -/
def shortestSeedDistance (graph : GraphV0) (subject : TrustID) (seeds : List TrustID) :
    Option Nat :=
  if seeds.contains subject then some 0
  else Search.distance (liveNeighbours profile graph) seeds.contains
    ((projectedGraphArcs profile graph true).length + 1) subject

def distanceScoreBps (distance : Option Nat) : Nat :=
  match distance with
  | some distance => min 10000 (10000 / (1 + distance))
  | none => 0

end Weights

end Continuity

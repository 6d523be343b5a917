import Continuity.IgnoredEdges
import Continuity.NegativeEdges
import Continuity.Newman

namespace Continuity
open Collections
set_option autoImplicit true

section Exact

variable [Add K] [Sub K] [Mul K] [Div K] (number : Nat → K)

/-- `pairModularity` over the numbers of a type. -/
def pairTerm (degree : OrderedMap TrustID Nat) (totalMass : Nat) (resolution : K)
    (pair : TrustID × TrustID) (weight : Nat) : K :=
  let total := number totalMass
  let expected := number ((degree.get? pair.1).getD 0) * number ((degree.get? pair.2).getD 0)
  number weight / total - resolution * expected / (number 2 * total * total)

/-- The sum that `modularityBps` rounds, over the numbers of a type. -/
def modularitySum (settings : GraphSettings) (graph : GraphV0)
    (assignments : OrderedMap TrustID Nat) : K :=
  let pairMass := undirectedPositiveMass settings graph
  let degree := pairDegrees graph.nodes pairMass
  let resolution := number (clampBps settings.community_detection.resolution_bps) / number 10000
  pairMass.entries.foldl (fun q (key, weight) =>
    let pair := pairNodes key
    if assignments.get? pair.1 ≠ assignments.get? pair.2 then q
    else q + pairTerm number degree pairMass.values.sum resolution pair weight) (number 0)

end Exact

theorem modularityBps_eq (settings : GraphSettings) (graph : GraphV0)
    (assignments : OrderedMap TrustID Nat) : modularityBps settings graph assignments =
      if (undirectedPositiveMass settings graph).values.sum = 0 then 0
      else clampBps (modularitySum JsNumber.ofNat settings graph assignments *
        .ofNat 10000).floor :=
  rfl

/-- The clamped basis points of a number. -/
def clampedFloor (q : ℚ) : Nat := min 10000 (⌊q * 10000⌋).toNat

/-- No whole number of basis points lies between two numbers. -/
def SameBasisPoint (a b : ℚ) : Prop :=
  ∀ k : ℕ, 1 ≤ k → k ≤ 10000 → ((k : ℚ) ≤ a * 10000 ↔ (k : ℚ) ≤ b * 10000)

theorem le_clampedFloor (hpos : 1 ≤ k) (hk : k ≤ 10000) (q : ℚ) :
    k ≤ clampedFloor q ↔ (k : ℚ) ≤ q * 10000 := by
  have hfloor : ((k : ℤ) ≤ ⌊q * 10000⌋) ↔ (k : ℚ) ≤ q * 10000 := by
    rw [Int.le_floor, Int.cast_natCast]
  rw [← hfloor, clampedFloor, le_min_iff]
  omega

theorem clampedFloor_eq_iff (a b : ℚ) :
    clampedFloor a = clampedFloor b ↔ SameBasisPoint a b := by
  constructor
  · intro h k hpos hk
    rw [← le_clampedFloor hpos hk, ← le_clampedFloor hpos hk, h]
  · intro h
    have hle : ∀ a b, SameBasisPoint a b → clampedFloor a ≤ clampedFloor b := by
      intro a b hs
      rcases Nat.eq_zero_or_pos (clampedFloor a) with hzero | hpos
      · rw [hzero]
        exact Nat.zero_le _
      · have hk : clampedFloor a ≤ 10000 := min_le_left _ _
        exact (le_clampedFloor hpos hk b).mpr
          ((hs _ hpos hk).mp ((le_clampedFloor hpos hk a).mp le_rfl))
    exact le_antisymm (hle a b h) (hle b a fun k hpos hk => (h k hpos hk).symm)

section Links

variable (settings : GraphSettings) (graph : GraphV0)

/-- The edges that `undirectedPositiveMass` does not skip. -/
def keptEdges : List GraphEdgeV0 :=
  graph.edges.filter fun edge =>
    !(decide ((JsNumber.ofNat (positiveWeight (some settings) edge)).lt
      (settings.community_detection.edge_weight_floor_bps.getD (.ofNat 0)) = true ∨
        edge.src = edge.dst))

/-- The kept edges as links with their positive weight. -/
def keptLinks : List (Newman.Link TrustID) :=
  (keptEdges settings graph).map fun edge =>
    ⟨edge.src, edge.dst, positiveWeight (some settings) edge⟩

/-- The nodes of the graph, and those that its kept edges name. -/
def linkedNodes : Finset TrustID :=
  (graph.nodes ++ (keptEdges settings graph).flatMap fun edge => [edge.src, edge.dst]).toFinset

def resolution : ℚ := (clampBps settings.community_detection.resolution_bps : ℚ) / 10000

/-- The modularity of an assignment; nodes without a community count as one. -/
def newmanModularity (assignments : OrderedMap TrustID Nat) : ℚ :=
  Newman.modularity (keptLinks settings graph) (linkedNodes settings graph) assignments.get?
    (resolution settings)

/-- The degree of a node as the code reads it back from the keys of the pairs. -/
def readDegree (node : TrustID) : Nat :=
  ((pairDegrees graph.nodes (undirectedPositiveMass settings graph)).get? node).getD 0

/-- The two nodes that the code reads back from a key are of one community. -/
def SharesKey (assignments : OrderedMap TrustID Nat) (key : JsString) : Prop :=
  assignments.get? (pairNodes key).1 = assignments.get? (pairNodes key).2

instance (assignments : OrderedMap TrustID Nat) (key : JsString) :
    Decidable (SharesKey assignments key) :=
  inferInstanceAs (Decidable (_ = _))

def readInside (assignments : OrderedMap TrustID Nat) : Nat :=
  ((keptEdges settings graph).map fun edge =>
    if SharesKey assignments (pairKey edge) then positiveWeight (some settings) edge else 0).sum

def readExpected (assignments : OrderedMap TrustID Nat) : Nat :=
  ((undirectedPositiveMass settings graph).keys.map fun key =>
    if SharesKey assignments key then
      readDegree settings graph (pairNodes key).1 * readDegree settings graph (pairNodes key).2
    else 0).sum

/-- What the code counts more than the modularity: pairs that it reads back wrongly, and pairs of
nodes whose expected mass it leaves out. -/
def excess (assignments : OrderedMap TrustID Nat) : ℚ :=
  ((readInside settings graph assignments : ℚ) -
      Newman.sharedMass (keptLinks settings graph) assignments.get?) /
      Newman.mass (keptLinks settings graph) +
    resolution settings * ((Newman.expected (keptLinks settings graph)
      (Newman.together (linkedNodes settings graph) assignments.get?) : ℚ) -
        2 * readExpected settings graph assignments) /
      (4 * (Newman.mass (keptLinks settings graph) : ℚ) ^ 2)

/-- No id of a kept edge contains the character that joins the keys. -/
def PlainIds : Prop :=
  ∀ edge ∈ keptEdges settings graph, (0 : UInt16) ∉ edge.src ∧ (0 : UInt16) ∉ edge.dst

end Links

section Masses

/-- A sum over the entries of a table of masses. -/
def weighed [DecidableEq K] (f : K → ℚ) (masses : OrderedMap K Nat) : ℚ :=
  (masses.entries.map fun entry => (entry.2 : ℚ) * f entry.1).sum

theorem weighed_setEntry [DecidableEq K] (f : K → ℚ) (key : K) (mass : Nat)
    (entries : List (K × Nat)) :
    ((setEntry key mass entries).map fun entry => (entry.2 : ℚ) * f entry.1).sum =
      (entries.map fun entry => (entry.2 : ℚ) * f entry.1).sum +
        ((mass : ℚ) - ((getEntry key entries).getD 0 : Nat)) * f key := by
  induction entries with
  | nil => simp [setEntry, getEntry]
  | cons entry rest ih =>
    by_cases h : entry.1 = key
    · simp only [setEntry, getEntry, h, if_true, List.map_cons, List.sum_cons, Option.getD_some]
      ring
    · simp only [setEntry, getEntry, h, if_false, List.map_cons, List.sum_cons, ih]
      ring

theorem weighed_addMass [DecidableEq K] (f : K → ℚ) (masses : OrderedMap K Nat) (key : K)
    (mass : Nat) : weighed f (addMass masses key mass) = weighed f masses + mass * f key := by
  rw [weighed, addMass, OrderedMap.set, weighed_setEntry, weighed, OrderedMap.get?]
  push_cast
  ring

theorem weighed_foldl [DecidableEq K] (f : K → ℚ) (items : List α) (key : α → K) (mass : α → Nat)
    (masses : OrderedMap K Nat) :
    weighed f (items.foldl (fun masses item => addMass masses (key item) (mass item)) masses) =
      weighed f masses + (items.map fun item => (mass item : ℚ) * f (key item)).sum := by
  induction items generalizing masses with
  | nil => simp
  | cons item items ih =>
    rw [List.foldl_cons, ih, weighed_addMass, List.map_cons, List.sum_cons]
    ring

theorem held_addMass [DecidableEq K] (masses : OrderedMap K Nat) (key k : K) (mass : Nat) :
    ((addMass masses key mass).get? k).getD 0 =
      (masses.get? k).getD 0 + mass * if key = k then 1 else 0 := by
  rw [addMass, OrderedMap.get?_set]
  by_cases h : k = key
  · simp [h]
  · simp [h, Ne.symm h]

variable {settings : GraphSettings} {graph : GraphV0} {assignments : OrderedMap TrustID Nat}

theorem undirectedPositiveMass_eq : undirectedPositiveMass settings graph =
    (keptEdges settings graph).foldl (fun masses edge =>
      addMass masses (pairKey edge) (positiveWeight (some settings) edge)) .empty := by
  rw [undirectedPositiveMass, keptEdges, List.foldl_filter]
  congr 1
  funext masses edge
  simp only [Bool.not_eq_true', decide_eq_false_iff_not, ite_not]

theorem totalMass_eq : (undirectedPositiveMass settings graph).values.sum =
    Newman.mass (keptLinks settings graph) := by
  rw [undirectedPositiveMass_eq, sum_foldl_addMass, Newman.mass, keptLinks, List.map_map]
  simp [OrderedMap.values, OrderedMap.empty]
  rfl

theorem weighed_pairs (f : JsString → ℚ) : weighed f (undirectedPositiveMass settings graph) =
    ((keptEdges settings graph).map fun edge =>
      (positiveWeight (some settings) edge : ℚ) * f (pairKey edge)).sum := by
  rw [undirectedPositiveMass_eq, weighed_foldl]
  simp [weighed, OrderedMap.empty]

/-- How often a node is read back from a key. -/
def keyEnds (node : TrustID) (key : JsString) : Nat :=
  (if (pairNodes key).1 = node then 1 else 0) + if (pairNodes key).2 = node then 1 else 0

theorem pairDegrees_get (nodes : List TrustID) (pairMass : OrderedMap JsString Nat)
    (node : TrustID) : (((pairDegrees nodes pairMass).get? node).getD 0 : ℚ) =
      weighed (fun key => (keyEnds node key : ℚ)) pairMass := by
  have hrun : ∀ (entries : List (JsString × Nat)) (degree : OrderedMap TrustID Nat),
      (((entries.foldl (fun degree entry => addMass (addMass degree (pairNodes entry.1).1 entry.2)
        (pairNodes entry.1).2 entry.2) degree).get? node).getD 0 : ℚ) =
        ((degree.get? node).getD 0 : Nat) +
          (entries.map fun entry => (entry.2 : ℚ) * (keyEnds node entry.1 : ℚ)).sum := by
    intro entries
    induction entries with
    | nil => simp
    | cons entry rest ih =>
      intro degree
      rw [List.foldl_cons, ih, held_addMass, held_addMass, List.map_cons, List.sum_cons, keyEnds]
      push_cast
      ring
  have hstart : ((OrderedMap.ofEntries (nodes.map fun node => (node, 0))).get? node).getD 0 = 0 := by
    rw [get?_ofEntries]
    split <;> rfl
  rw [pairDegrees, weighed]
  refine (hrun pairMass.entries _).trans ?_
  rw [hstart, Nat.cast_zero, zero_add]

theorem readDegree_eq (node : TrustID) : readDegree settings graph node =
    ((keptEdges settings graph).map fun edge =>
      positiveWeight (some settings) edge * keyEnds node (pairKey edge)).sum := by
  have h := pairDegrees_get graph.nodes (undirectedPositiveMass settings graph) node
  rw [weighed_pairs] at h
  rw [← Nat.cast_inj (R := ℚ), readDegree, Nat.cast_list_sum, List.map_map]
  refine h.trans ?_
  congr 1
  apply List.map_congr_left
  intro edge _
  rw [Function.comp_apply, Nat.cast_mul]

/-- The sum of the code in exact numbers, by the pairs as they are read back. -/
theorem modularitySum_eq : modularitySum (Nat.cast : Nat → ℚ) settings graph assignments =
    (readInside settings graph assignments : ℚ) / Newman.mass (keptLinks settings graph) -
      resolution settings * readExpected settings graph assignments /
        (2 * (Newman.mass (keptLinks settings graph) : ℚ) ^ 2) := by
  have hrun : ∀ (entries : List (JsString × Nat)) (q : ℚ),
      entries.foldl (fun q (entry : JsString × Nat) =>
        if assignments.get? (pairNodes entry.1).1 ≠ assignments.get? (pairNodes entry.1).2 then q
        else q + pairTerm Nat.cast (pairDegrees graph.nodes (undirectedPositiveMass settings graph))
          (Newman.mass (keptLinks settings graph)) (resolution settings) (pairNodes entry.1)
          entry.2) q =
      q + (entries.map fun entry => (entry.2 : ℚ) * if SharesKey assignments entry.1 then 1 else 0
          ).sum / Newman.mass (keptLinks settings graph) -
        resolution settings * (((entries.map Prod.fst).map fun key =>
          if SharesKey assignments key then readDegree settings graph (pairNodes key).1 *
            readDegree settings graph (pairNodes key).2 else 0).sum : Nat) /
          (2 * (Newman.mass (keptLinks settings graph) : ℚ) ^ 2) := by
    intro entries
    induction entries with
    | nil => simp
    | cons entry rest ih =>
      intro q
      rw [List.foldl_cons, ih, List.map_cons, List.map_cons, List.map_cons, List.sum_cons,
        List.sum_cons]
      by_cases hs : SharesKey assignments entry.1
      · have hsame : assignments.get? (pairNodes entry.1).1 =
          assignments.get? (pairNodes entry.1).2 := hs
        rw [if_neg (not_not_intro hsame), if_pos hs, if_pos hs, pairTerm, ← readDegree,
          ← readDegree]
        push_cast
        ring
      · have hother : assignments.get? (pairNodes entry.1).1 ≠
          assignments.get? (pairNodes entry.1).2 := hs
        rw [if_pos hother, if_neg hs, if_neg hs, mul_zero, zero_add, zero_add]
  have hinside : weighed (fun key => if SharesKey assignments key then (1 : ℚ) else 0)
      (undirectedPositiveMass settings graph) = readInside settings graph assignments := by
    rw [weighed_pairs, readInside, Nat.cast_list_sum, List.map_map]
    congr 1
    apply List.map_congr_left
    intro edge _
    rw [Function.comp_apply, mul_ite, mul_one, mul_zero, Nat.cast_ite, Nat.cast_zero]
  rw [modularitySum, ← hinside, weighed, readExpected, OrderedMap.keys, ← totalMass_eq]
  have h := hrun (undirectedPositiveMass settings graph).entries 0
  rw [zero_add, ← totalMass_eq] at h
  rw [← h]
  simp only [Nat.cast_zero]
  rfl

end Masses

section Plain

variable {settings : GraphSettings} {graph : GraphV0} {assignments : OrderedMap TrustID Nat}

theorem keptEdges_loopless (h : edge ∈ keptEdges settings graph) : edge.src ≠ edge.dst := by
  have hkept := (List.mem_filter.mp h).2
  simp only [Bool.not_eq_true', decide_eq_false_iff_not, not_or] at hkept
  exact hkept.2

theorem pairNodes_joined {left right : TrustID} (hl : (0 : UInt16) ∉ left)
    (hr : (0 : UInt16) ∉ right) : pairNodes (left ++ [0] ++ right) = (left, right) := by
  have hsplit : (left ++ [0] ++ right).splitOn 0 = [left, right] := by
    have h : ([(0 : UInt16)].intercalate [left, right]).splitOn 0 = [left, right] :=
      List.splitOn_intercalate 0 (by simp [hl, hr]) (by simp)
    rw [← h]
    congr 1
    simp [List.intercalate]
  rw [pairNodes, hsplit]

/-- The key of an edge is read back as its two nodes in one order or the other. -/
theorem pairNodes_pairKey (hs : (0 : UInt16) ∉ edge.src) (hd : (0 : UInt16) ∉ edge.dst) :
    (unitsLe edge.src edge.dst = true ∧ pairKey edge = edge.src ++ [0] ++ edge.dst ∧
        pairNodes (pairKey edge) = (edge.src, edge.dst)) ∨
      (unitsLe edge.src edge.dst ≠ true ∧ pairKey edge = edge.dst ++ [0] ++ edge.src ∧
        pairNodes (pairKey edge) = (edge.dst, edge.src)) := by
  by_cases hle : unitsLe edge.src edge.dst = true
  · have hkey : pairKey edge = edge.src ++ [0] ++ edge.dst := by
      simp [pairKey, sortStrings, hle]
    exact .inl ⟨hle, hkey, by rw [hkey, pairNodes_joined hs hd]⟩
  · have hkey : pairKey edge = edge.dst ++ [0] ++ edge.src := by
      simp [pairKey, sortStrings, hle]
    exact .inr ⟨hle, hkey, by rw [hkey, pairNodes_joined hd hs]⟩

theorem readInside_eq (h : PlainIds settings graph) : readInside settings graph assignments =
    Newman.sharedMass (keptLinks settings graph) assignments.get? := by
  rw [readInside, Newman.sharedMass, keptLinks, List.map_map]
  congr 1
  apply List.map_congr_left
  intro edge he
  obtain ⟨hs, hd⟩ := h edge he
  rw [Function.comp_apply]
  rcases pairNodes_pairKey hs hd with ⟨-, -, hpair⟩ | ⟨-, -, hpair⟩
  · simp only [SharesKey, hpair]
  · simp only [SharesKey, hpair, eq_comm]

theorem readDegree_degree (h : PlainIds settings graph) (node : TrustID) :
    readDegree settings graph node = Newman.degree (keptLinks settings graph) node := by
  rw [readDegree_eq, Newman.degree, keptLinks, List.map_map]
  congr 1
  apply List.map_congr_left
  intro edge he
  obtain ⟨hs, hd⟩ := h edge he
  rw [Function.comp_apply, keyEnds, Newman.Link.ends]
  rcases pairNodes_pairKey hs hd with ⟨-, -, hpair⟩ | ⟨-, -, hpair⟩
  · rw [hpair]
  · rw [hpair, add_comm]

/-- The keys of the table are those of the kept edges. -/
theorem mem_pairKeys : key ∈ (undirectedPositiveMass settings graph).keys ↔
    ∃ edge ∈ keptEdges settings graph, pairKey edge = key := by
  have hrun : ∀ (edges : List GraphEdgeV0) (masses : OrderedMap JsString Nat),
      (edges.foldl (fun masses edge =>
        addMass masses (pairKey edge) (positiveWeight (some settings) edge)) masses).has key =
          true ↔ (∃ edge ∈ edges, pairKey edge = key) ∨ masses.has key = true := by
    intro edges
    induction edges with
    | nil => simp
    | cons edge edges ih =>
      intro masses
      rw [List.foldl_cons, ih, addMass, has_set]
      simp only [List.mem_cons, exists_eq_or_imp, Bool.or_eq_true, decide_eq_true_eq,
        eq_comm (a := key)]
      exact or_left_comm.trans or_assoc.symm
  rw [OrderedMap.mem_keys, ← OrderedMap.has, undirectedPositiveMass_eq, hrun]
  simp [OrderedMap.has, OrderedMap.empty, OrderedMap.get?, getEntry]

/-- The pairs of nodes that are read back from the keys. -/
def readPairs (settings : GraphSettings) (graph : GraphV0) : Finset (TrustID × TrustID) :=
  ((undirectedPositiveMass settings graph).keys.map pairNodes).toFinset

theorem mem_readPairs (h : PlainIds settings graph) : (u, v) ∈ readPairs settings graph ↔
    ∃ edge ∈ keptEdges settings graph,
      (unitsLe edge.src edge.dst = true ∧ edge.src = u ∧ edge.dst = v) ∨
      (unitsLe edge.src edge.dst ≠ true ∧ edge.src = v ∧ edge.dst = u) := by
  simp only [readPairs, List.mem_toFinset, List.mem_map, mem_pairKeys]
  constructor
  · rintro ⟨key, ⟨edge, he, rfl⟩, hpair⟩
    obtain ⟨hs, hd⟩ := h edge he
    rcases pairNodes_pairKey hs hd with ⟨hle, -, hread⟩ | ⟨hle, -, hread⟩
    · rw [hread] at hpair
      cases hpair
      exact ⟨edge, he, .inl ⟨hle, rfl, rfl⟩⟩
    · rw [hread] at hpair
      cases hpair
      exact ⟨edge, he, .inr ⟨hle, rfl, rfl⟩⟩
  · rintro ⟨edge, he, horder⟩
    obtain ⟨hs, hd⟩ := h edge he
    refine ⟨_, ⟨edge, he, rfl⟩, ?_⟩
    rcases pairNodes_pairKey hs hd with ⟨hle, -, hread⟩ | ⟨hle, -, hread⟩
    · rcases horder with ⟨-, rfl, rfl⟩ | ⟨hnot, -, -⟩
      · exact hread
      · exact absurd hle hnot
    · rcases horder with ⟨hnot, -, -⟩ | ⟨-, rfl, rfl⟩
      · exact absurd hnot hle
      · exact hread

/-- Different keys are read back as different pairs. -/
theorem pairNodes_injective (h : PlainIds settings graph) :
    Set.InjOn pairNodes {key | key ∈ (undirectedPositiveMass settings graph).keys} := by
  have hjoin : ∀ key ∈ (undirectedPositiveMass settings graph).keys,
      key = (pairNodes key).1 ++ [0] ++ (pairNodes key).2 := by
    intro key hk
    obtain ⟨edge, he, rfl⟩ := mem_pairKeys.mp hk
    obtain ⟨hs, hd⟩ := h edge he
    rcases pairNodes_pairKey hs hd with ⟨-, hkey, hread⟩ | ⟨-, hkey, hread⟩
    · rw [hread, hkey]
    · rw [hread, hkey]
  intro a ha b hb hab
  rw [hjoin a ha, hjoin b hb, hab]

theorem readExpected_eq (h : PlainIds settings graph) :
    readExpected settings graph assignments = Newman.expected (keptLinks settings graph)
      ((readPairs settings graph).filter fun pair =>
        assignments.get? pair.1 = assignments.get? pair.2) := by
  have hnodup : ((undirectedPositiveMass settings graph).keys.map pairNodes).Nodup :=
    List.Nodup.map_on (fun a ha b hb => pairNodes_injective h ha hb) (OrderedMap.nodup _)
  rw [Newman.expected, Finset.sum_filter, readPairs, List.sum_toFinset _ hnodup, List.map_map,
    readExpected]
  congr 1
  apply List.map_congr_left
  intro key _
  rw [Function.comp_apply, readDegree_degree h, readDegree_degree h]
  rfl

theorem linked_edges (u v : TrustID) : Newman.Linked (keptLinks settings graph) u v ↔
    ∃ edge ∈ keptEdges settings graph,
      (edge.src = u ∧ edge.dst = v) ∨ (edge.src = v ∧ edge.dst = u) := by
  simp only [Newman.Linked, keptLinks, List.mem_map]
  constructor
  · rintro ⟨_, ⟨edge, he, rfl⟩, hends⟩
    exact ⟨edge, he, hends⟩
  · rintro ⟨edge, he, hends⟩
    exact ⟨_, ⟨edge, he, rfl⟩, hends⟩

theorem linked_iff (h : PlainIds settings graph) (u v : TrustID) :
    Newman.Linked (keptLinks settings graph) u v ↔
      (u, v) ∈ readPairs settings graph ∨ (v, u) ∈ readPairs settings graph := by
  rw [linked_edges, mem_readPairs h, mem_readPairs h]
  constructor
  · rintro ⟨edge, he, ⟨hs, hd⟩ | ⟨hs, hd⟩⟩
    · by_cases hle : unitsLe edge.src edge.dst = true
      · exact .inl ⟨edge, he, .inl ⟨hle, hs, hd⟩⟩
      · exact .inr ⟨edge, he, .inr ⟨hle, hs, hd⟩⟩
    · by_cases hle : unitsLe edge.src edge.dst = true
      · exact .inr ⟨edge, he, .inl ⟨hle, hs, hd⟩⟩
      · exact .inl ⟨edge, he, .inr ⟨hle, hs, hd⟩⟩
  · rintro (⟨edge, he, ⟨-, hs, hd⟩ | ⟨-, hs, hd⟩⟩ | ⟨edge, he, ⟨-, hs, hd⟩ | ⟨-, hs, hd⟩⟩)
    · exact ⟨edge, he, .inl ⟨hs, hd⟩⟩
    · exact ⟨edge, he, .inr ⟨hs, hd⟩⟩
    · exact ⟨edge, he, .inr ⟨hs, hd⟩⟩
    · exact ⟨edge, he, .inl ⟨hs, hd⟩⟩

theorem keptEdges_nodes (h : edge ∈ keptEdges settings graph) :
    edge.src ∈ linkedNodes settings graph ∧ edge.dst ∈ linkedNodes settings graph := by
  simp only [linkedNodes, List.mem_toFinset, List.mem_append, List.mem_flatMap, List.mem_cons]
  exact ⟨.inr ⟨edge, h, .inl rfl⟩, .inr ⟨edge, h, .inr (.inl rfl)⟩⟩

/-- A pair is read back in order, and is one of two nodes. -/
theorem readPairs_ordered (h : PlainIds settings graph) (hm : (u, v) ∈ readPairs settings graph) :
    (unitsLe u v = true ∧ u ≠ v) ∧
      u ∈ linkedNodes settings graph ∧ v ∈ linkedNodes settings graph := by
  obtain ⟨edge, he, horder⟩ := (mem_readPairs h).mp hm
  have hne := keptEdges_loopless he
  obtain ⟨hs, hd⟩ := keptEdges_nodes he
  rcases horder with ⟨hle, rfl, rfl⟩ | ⟨hnot, rfl, rfl⟩
  · exact ⟨⟨hle, hne⟩, hs, hd⟩
  · exact ⟨⟨(unitsLe_total _ _).resolve_left hnot, hne.symm⟩, hd, hs⟩

theorem excess_eq (h : PlainIds settings graph) : excess settings graph assignments =
    resolution settings * (Newman.unlinked (keptLinks settings graph) (linkedNodes settings graph)
      assignments.get? : ℚ) / (4 * (Newman.mass (keptLinks settings graph) : ℚ) ^ 2) := by
  have hlinked : Newman.expected (keptLinks settings graph)
      ((Newman.together (linkedNodes settings graph) assignments.get?).filter fun pair =>
        Newman.Linked (keptLinks settings graph) pair.1 pair.2) =
      2 * readExpected settings graph assignments := by
    rw [readExpected_eq h]
    exact Newman.expected_linked (linked_iff h)
      (fun u v huv hvu => (readPairs_ordered h huv).1.2
        (unitsLe_antisymm u v (readPairs_ordered h huv).1.1 (readPairs_ordered h hvu).1.1))
      (fun u v huv => (readPairs_ordered h huv).2)
  rw [excess, readInside_eq h, Newman.expected_split _ fun pair =>
    Newman.Linked (keptLinks settings graph) pair.1 pair.2, hlinked, ← Newman.unlinked]
  push_cast
  ring

end Plain

section Modularity

variable {settings : GraphSettings} {graph : GraphV0} {assignments : OrderedMap TrustID Nat}

theorem keptLinks_nodes : ∀ link ∈ keptLinks settings graph,
    link.src ∈ linkedNodes settings graph := by
  intro link hl
  obtain ⟨edge, he, rfl⟩ := List.mem_map.mp hl
  exact (keptEdges_nodes he).1

theorem keptLinks_loopless : ∀ link ∈ keptLinks settings graph, link.src ≠ link.dst := by
  intro link hl
  obtain ⟨edge, he, rfl⟩ := List.mem_map.mp hl
  exact keptEdges_loopless he

/-- What the code sums up is the modularity and the excess. -/
theorem modularitySum_newman : modularitySum (Nat.cast : Nat → ℚ) settings graph assignments =
    newmanModularity settings graph assignments + excess settings graph assignments := by
  rw [modularitySum_eq, newmanModularity, Newman.modularity_eq keptLinks_nodes, excess]
  ring

/-- The basis points of the code, in exact numbers, are those of the modularity exactly when the
excess crosses no basis point. The excess is positive unless the resolution is zero. -/
theorem modularityBps_newman (hm : 0 < Newman.mass (keptLinks settings graph)) :
    modularityBps settings graph assignments =
        clampBps (modularitySum JsNumber.ofNat settings graph assignments * .ofNat 10000).floor ∧
      (clampedFloor (modularitySum Nat.cast settings graph assignments) =
          clampedFloor (newmanModularity settings graph assignments) ↔
        SameBasisPoint (newmanModularity settings graph assignments)
          (newmanModularity settings graph assignments + excess settings graph assignments)) ∧
      (PlainIds settings graph →
        excess settings graph assignments = resolution settings *
            (Newman.unlinked (keptLinks settings graph) (linkedNodes settings graph)
              assignments.get? : ℚ) / (4 * (Newman.mass (keptLinks settings graph) : ℚ) ^ 2) ∧
          0 < Newman.unlinked (keptLinks settings graph) (linkedNodes settings graph)
            assignments.get? ∧
          (modularitySum Nat.cast settings graph assignments =
              newmanModularity settings graph assignments ↔
            clampBps settings.community_detection.resolution_bps = 0)) := by
  refine ⟨?_, ?_, ?_⟩
  · rw [modularityBps_eq, totalMass_eq, if_neg hm.ne']
  · rw [modularitySum_newman, eq_comm, clampedFloor_eq_iff]
  · intro hplain
    have hpos : 0 < Newman.unlinked (keptLinks settings graph) (linkedNodes settings graph)
        assignments.get? := Newman.unlinked_pos keptLinks_nodes keptLinks_loopless hm
    refine ⟨excess_eq hplain, hpos, ?_⟩
    have hunlinked : (Newman.unlinked (keptLinks settings graph) (linkedNodes settings graph)
        assignments.get? : ℚ) ≠ 0 := Nat.cast_ne_zero.mpr hpos.ne'
    have hmass : (4 * (Newman.mass (keptLinks settings graph) : ℚ) ^ 2) ≠ 0 :=
      mul_ne_zero (by norm_num) (pow_ne_zero 2 (Nat.cast_ne_zero.mpr hm.ne'))
    rw [modularitySum_newman, add_eq_left, excess_eq hplain, div_eq_zero_iff,
      or_iff_left hmass, mul_eq_zero, or_iff_left hunlinked, resolution, div_eq_zero_iff,
      or_iff_left (by norm_num), Nat.cast_eq_zero]

end Modularity

/-- Two nodes with one edge. -/
def pairGraph : GraphV0 where
  edges := [fullEdge (js "a") (js "b") (js "completed")]
  nodes := [js "a", js "b"]

def louvainSettings : GraphSettings := communitySettings (js "louvain_modularity_v1") 1

/-- In one community the two nodes have the modularity zero, and the code reports 5000. -/
theorem modularityBps_pair :
    let together := OrderedMap.ofEntries [(js "a", 0), (js "b", 0)]
    newmanModularity louvainSettings pairGraph together = 0 ∧
      clampedFloor (newmanModularity louvainSettings pairGraph together) = 0 ∧
      clampedFloor (modularitySum Nat.cast louvainSettings pairGraph together) = 5000 ∧
      modularityBps louvainSettings pairGraph together = 5000 := by
  refine ⟨?_, ?_, ?_, ?_⟩ <;> decide +kernel

/-- Each in its own community, both numbers are clamped to zero. -/
theorem modularityBps_newman_apart :
    clampedFloor (modularitySum Nat.cast louvainSettings pairGraph (ownCommunities pairGraph)) =
      clampedFloor (newmanModularity louvainSettings pairGraph (ownCommunities pairGraph)) := by
  have hm : 0 < Newman.mass (keptLinks louvainSettings pairGraph) := by decide
  refine (modularityBps_newman hm).2.1.mpr ?_
  have hnewman : newmanModularity louvainSettings pairGraph (ownCommunities pairGraph) ≤ 0 := by
    decide +kernel
  have hsum : newmanModularity louvainSettings pairGraph (ownCommunities pairGraph) +
      excess louvainSettings pairGraph (ownCommunities pairGraph) ≤ 0 := by
    decide +kernel
  intro k hpos _
  have hk : (0 : ℚ) < k := Nat.cast_pos.mpr hpos
  constructor
  · intro hle
    linarith
  · intro hle
    linarith

end Continuity

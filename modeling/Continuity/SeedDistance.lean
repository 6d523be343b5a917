import Continuity.GraphFeatures
import Continuity.GraphOrder

namespace Continuity
open Search
set_option autoImplicit true

/-- An arc of the edge that a search follows. -/
def LiveArc (profile : Option GraphSettings) (edge : GraphEdgeV0) (a b : TrustID) : Prop :=
  ∃ arc ∈ edgeArcs profile true edge, arc.reaches (edgeFloor profile) = true ∧
    arc.src = a ∧ arc.dst = b

/-- A step of a search. -/
def LiveStep (profile : Option GraphSettings) (graph : GraphV0) (a b : TrustID) : Prop :=
  ∃ edge ∈ graph.edges, LiveArc profile edge a b

/-- The numbers of steps in which a search can reach a seed. -/
def SeedSteps (profile : Option GraphSettings) (graph : GraphV0) (seeds : List TrustID) :
    TrustID → Set Nat :=
  Reaches (LiveStep profile graph) (· ∈ seeds)

theorem mem_liveNeighbours : b ∈ liveNeighbours profile graph a ↔ LiveStep profile graph a b := by
  simp only [liveNeighbours, projectedGraphArcs, LiveStep, LiveArc, List.mem_map, List.mem_filter,
    List.mem_flatMap, Bool.and_eq_true, beq_iff_eq]
  constructor
  · rintro ⟨arc, ⟨⟨edge, he, harc⟩, hsrc, hr⟩, hdst⟩
    exact ⟨edge, he, arc, harc, hr, hsrc, hdst⟩
  · rintro ⟨edge, he, arc, harc, hr, hsrc, hdst⟩
    exact ⟨arc, ⟨⟨edge, he, harc⟩, hsrc, hr⟩, hdst⟩

/-- What a seed distance should be: the least number of steps, none when there is no way. -/
def NearestSeed (profile : Option GraphSettings) (graph : GraphV0) (seeds : List TrustID)
    (subject : TrustID) : Option Nat → Prop
  | some d => IsLeast (SeedSteps profile graph seeds subject) d
  | none => ∀ n, n ∉ SeedSteps profile graph seeds subject

theorem shortestSeedDistance_correct (profile : Option GraphSettings) (graph : GraphV0)
    (subject : TrustID) (seeds : List TrustID) :
    NearestSeed profile graph seeds subject
      (shortestSeedDistance profile graph subject seeds) := by
  have hstep : (fun a b => b ∈ liveNeighbours profile graph a) = LiveStep profile graph := by
    funext a b
    exact propext mem_liveNeighbours
  have hgoal : (fun y => seeds.contains y = true) = (· ∈ seeds) := by
    funext y
    exact propext List.contains_iff_mem
  rw [shortestSeedDistance]
  by_cases hs : seeds.contains subject = true
  · rw [if_pos hs]
    exact ⟨⟨subject, List.contains_iff_mem.mp hs, .stay⟩, fun n _ => Nat.zero_le n⟩
  · rw [if_neg hs]
    have hall : ∀ x, ∀ y ∈ liveNeighbours profile graph x,
        y ∈ subject :: (projectedGraphArcs profile graph true).map Arc.dst := by
      intro x y hy
      obtain ⟨arc, harc, rfl⟩ := List.mem_map.mp hy
      exact List.mem_cons_of_mem _ (List.mem_map_of_mem (List.mem_of_mem_filter harc))
    have hcorrect : Correct (liveNeighbours profile graph) seeds.contains subject
        (distance (liveNeighbours profile graph) seeds.contains
          ((projectedGraphArcs profile graph true).length + 1) subject) :=
      distance_correct (Bool.eq_false_iff.mpr hs) hall List.mem_cons_self (by simp)
    cases hd : distance (liveNeighbours profile graph) seeds.contains
        ((projectedGraphArcs profile graph true).length + 1) subject <;>
      simpa only [hd, Correct, NearestSeed, SeedSteps, hstep, hgoal] using hcorrect

/-- A way along arcs whose weight is not below the floor, with its arcs. -/
inductive ArcWay (profile : Option GraphSettings) (graph : GraphV0) :
    List Arc → TrustID → TrustID → Prop
  | stay : ArcWay profile graph [] a a
  | follow : arc ∈ projectedGraphArcs profile graph true →
      arc.reaches (edgeFloor profile) = true → ArcWay profile graph arcs arc.dst b →
      ArcWay profile graph (arc :: arcs) arc.src b

theorem liveStep_iff : LiveStep profile graph a b ↔
    ∃ arc ∈ projectedGraphArcs profile graph true, arc.reaches (edgeFloor profile) = true ∧
      arc.src = a ∧ arc.dst = b := by
  simp only [LiveStep, LiveArc, projectedGraphArcs, List.mem_flatMap]
  constructor
  · rintro ⟨edge, he, arc, harc, hrest⟩
    exact ⟨arc, ⟨edge, he, harc⟩, hrest⟩
  · rintro ⟨arc, ⟨edge, he, harc⟩, hrest⟩
    exact ⟨edge, he, arc, harc, hrest⟩

theorem walk_iff_arcWay : Walk (LiveStep profile graph) n a b ↔
    ∃ arcs, ArcWay profile graph arcs a b ∧ arcs.length = n := by
  constructor
  · intro h
    induction h with
    | stay => exact ⟨[], .stay, rfl⟩
    | step hs _ ih =>
      obtain ⟨arc, harc, hreach, rfl, rfl⟩ := liveStep_iff.mp hs
      obtain ⟨arcs, hway, rfl⟩ := ih
      exact ⟨arc :: arcs, .follow harc hreach hway, rfl⟩
  · rintro ⟨arcs, hway, rfl⟩
    induction hway with
    | stay => exact .stay
    | follow harc hreach _ ih => exact .step (liveStep_iff.mpr ⟨_, harc, hreach, rfl, rfl⟩) ih

theorem seedSteps_eq : SeedSteps profile graph seeds subject =
    {n | ∃ seed ∈ seeds, ∃ arcs, ArcWay profile graph arcs subject seed ∧ arcs.length = n} := by
  ext n
  constructor
  · rintro ⟨seed, hseed, hw⟩
    exact ⟨seed, hseed, walk_iff_arcWay.mp hw⟩
  · rintro ⟨seed, hseed, hw⟩
    exact ⟨seed, hseed, walk_iff_arcWay.mpr hw⟩

/-- The distance is the least number of arcs on a way to a seed, and infinite without a way. -/
theorem shortestSeedDistance_least (profile : Option GraphSettings) (graph : GraphV0)
    (subject : TrustID) (seeds : List TrustID) :
    (∀ d, shortestSeedDistance profile graph subject seeds = some d ↔
      IsLeast {n | ∃ seed ∈ seeds, ∃ arcs,
        ArcWay profile graph arcs subject seed ∧ arcs.length = n} d) ∧
    (shortestSeedDistance profile graph subject seeds = none ↔
      ∀ seed ∈ seeds, ∀ arcs, ¬ArcWay profile graph arcs subject seed) ∧
    (subject ∈ seeds → shortestSeedDistance profile graph subject seeds = some 0) := by
  have hcorrect := shortestSeedDistance_correct profile graph subject seeds
  rw [← seedSteps_eq]
  refine ⟨fun d => ?_, ?_, fun hs => ?_⟩
  · cases hd : shortestSeedDistance profile graph subject seeds with
    | none =>
      rw [hd] at hcorrect
      constructor
      · nofun
      · intro hleast
        exact absurd hleast.1 (hcorrect d)
    | some k =>
      rw [hd] at hcorrect
      constructor
      · rintro ⟨⟩
        exact hcorrect
      · intro hleast
        rw [hcorrect.unique hleast]
  · cases hd : shortestSeedDistance profile graph subject seeds with
    | none =>
      rw [hd] at hcorrect
      refine iff_of_true rfl fun seed hseed arcs hway => ?_
      exact hcorrect arcs.length ⟨seed, hseed, walk_iff_arcWay.mpr ⟨arcs, hway, rfl⟩⟩
    | some k =>
      rw [hd] at hcorrect
      obtain ⟨seed, hseed, hw⟩ := hcorrect.1
      obtain ⟨arcs, hway, -⟩ := walk_iff_arcWay.mp hw
      exact iff_of_false nofun fun hnone => hnone seed hseed arcs hway
  · rw [shortestSeedDistance, if_pos (List.contains_iff_mem.mpr hs)]

theorem distanceScoreBps_anti (h : n ≤ m) :
    distanceScoreBps (some m) ≤ distanceScoreBps (some n) := by
  have hdiv : 10000 / (1 + m) ≤ 10000 / (1 + n) := Nat.div_le_div_left (by omega) (by omega)
  simp only [distanceScoreBps]
  omega

/-- The score of a subject is the score of its least number of steps, zero without a way. -/
theorem score_reached (hn : n ∈ SeedSteps profile graph seeds subject) :
    distanceScoreBps (some n) ≤
      distanceScoreBps (shortestSeedDistance profile graph subject seeds) := by
  have hcorrect := shortestSeedDistance_correct profile graph subject seeds
  cases hd : shortestSeedDistance profile graph subject seeds with
  | none => rw [hd] at hcorrect; exact absurd hn (hcorrect n)
  | some d =>
    rw [hd] at hcorrect
    exact distanceScoreBps_anti (hcorrect.2 hn)

theorem score_seed (h : subject ∈ seeds) :
    distanceScoreBps (shortestSeedDistance profile graph subject seeds) = 10000 := by
  rw [shortestSeedDistance, if_pos (List.contains_iff_mem.mpr h)]
  rfl

theorem score_unreached (h : ∀ n, n ∉ SeedSteps profile graph seeds subject) :
    distanceScoreBps (shortestSeedDistance profile graph subject seeds) = 0 := by
  have hcorrect := shortestSeedDistance_correct profile graph subject seeds
  cases hd : shortestSeedDistance profile graph subject seeds with
  | none => rfl
  | some d => rw [hd] at hcorrect; exact absurd hcorrect.1 (h d)

/-- One more edge over the same nodes. -/
structure AddsEdge (edge : GraphEdgeV0) (old new : GraphV0) : Prop where
  nodes : new.nodes = old.nodes
  edges : ∃ before after, old.edges = before ++ after ∧ new.edges = before ++ edge :: after

theorem AddsEdge.step (h : AddsEdge edge old new) :
    LiveStep profile new a b ↔ LiveStep profile old a b ∨ LiveArc profile edge a b := by
  obtain ⟨before, after, ho, hn⟩ := h.edges
  simp only [LiveStep, ho, hn, List.mem_append, List.mem_cons]
  constructor
  · rintro ⟨e, he | rfl | he, harc⟩
    · exact .inl ⟨e, .inl he, harc⟩
    · exact .inr harc
    · exact .inl ⟨e, .inr he, harc⟩
  · rintro (⟨e, he | he, harc⟩ | harc)
    · exact ⟨e, .inl he, harc⟩
    · exact ⟨e, .inr (.inr he), harc⟩
    · exact ⟨edge, .inr (.inl rfl), harc⟩

/-- An edge lays no live arc, or one between its ends, or one in each direction. -/
theorem liveArc_cases (profile : Option GraphSettings) (edge : GraphEdgeV0) :
    (∀ a b, ¬LiveArc profile edge a b) ∨
      ∃ both : Prop, ∀ a b, LiveArc profile edge a b ↔
        (a = edge.src ∧ b = edge.dst) ∨ (both ∧ a = edge.dst ∧ b = edge.src) := by
  have hsame : ∀ weight src dst src' dst', Arc.reaches ⟨src, dst, weight⟩ (edgeFloor profile) =
      Arc.reaches ⟨src', dst', weight⟩ (edgeFloor profile) := fun _ _ _ _ _ => rfl
  by_cases hw : graphMetricWeight profile edge true = 0
  · left
    rintro a b ⟨arc, harc, -⟩
    rw [edgeArcs, if_pos hw] at harc
    cases harc
  · by_cases hr : Arc.reaches ⟨edge.src, edge.dst, graphMetricWeight profile edge true⟩
        (edgeFloor profile) = true
    · right
      refine ⟨projection profile ≠ .directed_outbound ∧ edge.src ≠ edge.dst, fun a b => ?_⟩
      simp only [LiveArc, edgeArcs, hw, if_false]
      split
      · rename_i hboth
        simp only [List.mem_cons, List.not_mem_nil, or_false, exists_eq_or_imp,
          exists_eq_left, hr, hsame _ _ _ edge.src edge.dst, true_and]
        grind
      · rename_i hboth
        simp only [List.mem_singleton, exists_eq_left, hr, true_and, hboth, false_and, or_false]
        grind
    · left
      rintro a b ⟨arc, harc, hreach, -⟩
      apply hr
      rw [edgeArcs, if_neg hw] at harc
      split at harc
      · rcases List.mem_cons.mp harc with rfl | harc
        · exact hreach
        · rw [List.mem_singleton.mp harc] at hreach
          exact hreach
      · rw [List.mem_singleton.mp harc] at hreach
        exact hreach

/-- No live arc of a new edge completes a way to a seed that scores better than the ways there
were: for every way of `k` steps to the start of the arc and of `n` steps from its end. -/
def NoShortcut (profile : Option GraphSettings) (old : GraphV0) (seeds : List TrustID)
    (edge : GraphEdgeV0) : Prop :=
  ∀ x y, LiveArc profile edge x y → ∀ s k n, Walk (LiveStep profile old) k s x →
    n ∈ SeedSteps profile old seeds y → distanceScoreBps (some (k + 1 + n)) = 0 ∨
      ∃ m ∈ SeedSteps profile old seeds s,
        distanceScoreBps (some (k + 1 + n)) ≤ distanceScoreBps (some m)

theorem addedEdge_score (h : AddsEdge edge old new) :
    (∀ subject, distanceScoreBps (shortestSeedDistance profile new subject seeds) ≤
        distanceScoreBps (shortestSeedDistance profile old subject seeds)) ↔
      NoShortcut profile old seeds edge := by
  have hold : ∀ a b, LiveStep profile old a b → LiveStep profile new a b :=
    fun a b hs => h.step.mpr (.inl hs)
  constructor
  · intro hscore x y harc s k n hk hn
    obtain ⟨seed, hseed, hn⟩ := hn
    have hway : k + 1 + n ∈ SeedSteps profile new seeds s :=
      ⟨seed, hseed, ((hk.mono hold).snoc (h.step.mpr (.inr harc))).trans (hn.mono hold)⟩
    have hle := (score_reached hway).trans (hscore s)
    have hcorrect := shortestSeedDistance_correct profile old s seeds
    cases hd : shortestSeedDistance profile old s seeds with
    | none =>
      rw [hd] at hle
      exact .inl (Nat.le_zero.mp hle)
    | some m =>
      rw [hd] at hle hcorrect
      exact .inr ⟨m, hcorrect.1, hle⟩
  · intro hno subject
    have hcorrect := shortestSeedDistance_correct profile new subject seeds
    cases hd : shortestSeedDistance profile new subject seeds with
    | none => exact Nat.zero_le _
    | some d =>
      rw [hd] at hcorrect
      have hshort : ∀ x y k n, LiveArc profile edge x y → Walk (LiveStep profile old) k subject x →
          n ∈ SeedSteps profile old seeds y → distanceScoreBps (some (k + 1 + n)) ≤
            distanceScoreBps (shortestSeedDistance profile old subject seeds) := by
        intro x y k n harc hk hn
        rcases hno x y harc subject k n hk hn with hzero | ⟨m, hm, hle⟩
        · rw [hzero]
          exact Nat.zero_le _
        · exact hle.trans (score_reached hm)
      rcases liveArc_cases profile edge with hnone | ⟨both, hboth⟩
      · obtain ⟨seed, hseed, hw⟩ := hcorrect.1
        apply score_reached
        exact ⟨seed, hseed, hw.mono fun a b hs => (h.step.mp hs).resolve_right (hnone a b)⟩
      · have hlinked : LiveStep profile new =
            Linked (LiveStep profile old) both edge.src edge.dst := by
          funext a b
          apply propext
          rw [h.step, hboth]
          constructor
          · rintro (hs | ⟨rfl, rfl⟩ | ⟨hb, rfl, rfl⟩)
            · exact .old hs
            · exact .new
            · exact .back hb
          · intro hs
            cases hs with
            | old hs => exact .inl hs
            | new => exact .inr (.inl ⟨rfl, rfl⟩)
            | back hb => exact .inr (.inr ⟨hb, rfl, rfl⟩)
        rw [NearestSeed, SeedSteps, hlinked] at hcorrect
        rcases shortest_linked hcorrect with hd | ⟨k, hk, n, hn, rfl⟩ | ⟨hb, k, hk, n, hn, rfl⟩
        · exact score_reached hd
        · exact hshort _ _ k n ((hboth _ _).mpr (.inl ⟨rfl, rfl⟩)) hk hn
        · exact hshort _ _ k n ((hboth _ _).mpr (.inr ⟨hb, rfl, rfl⟩)) hk hn

theorem graphMeasures_trusted_seed_distance (E : Engine) (input : GraphFeatureInput) :
    (graphMeasures E input).trusted_seed_distance_bps = distanceScoreBps
      (shortestSeedDistance input.graph_profile input.graph input.subject
        (input.trusted_seeds.getD [])) := rfl

/-- A new edge, whatever its sign, raises no subject's distance score exactly when it is no
shortcut: the search follows arcs by their absolute weights. -/
theorem trusted_seed_distance_addedEdge (E : Engine) (input : GraphFeatureInput)
    (h : AddsEdge edge input.graph new) :
    (∀ subject,
      (graphMeasures E { input with graph := new, subject }).trusted_seed_distance_bps ≤
        (graphMeasures E { input with subject }).trusted_seed_distance_bps) ↔
      NoShortcut input.graph_profile input.graph (input.trusted_seeds.getD []) edge := by
  simp only [graphMeasures_trusted_seed_distance]
  exact addedEdge_score h

/-- An edge of full weight. -/
def fullEdge (src dst : TrustID) (type : JsString) : GraphEdgeV0 :=
  plainEdge src dst type (js "2026-05-25T00:00:00Z") (.ofNat 10000) (.ofNat 10000) ZERO_HASH

/-- Alice and the seed each with a counterparty, apart from each other. -/
def apartGraph : GraphV0 where
  edges := [fullEdge (js "alice") (js "bob") (js "completed"),
    fullEdge (js "seed") (js "carol") (js "completed")]
  nodes := [js "alice", js "bob", js "carol", js "seed"]

def dispute : GraphEdgeV0 := fullEdge (js "seed") (js "alice") (js "disputed")

def disputedGraph : GraphV0 := { apartGraph with edges := dispute :: apartGraph.edges }

def seededInput (graph : GraphV0) : GraphFeatureInput where
  subject := js "alice"
  graph
  graph_profile_id := js "graph-reference-v0"
  graph_profile := some referenceSettings
  trusted_seeds := some [js "seed"]
  adversarial_seeds := none
  trusted_neighbor_scores_bps := none
  computed_at := none
  signature := none

theorem dispute_added : AddsEdge dispute apartGraph disputedGraph :=
  ⟨rfl, [], apartGraph.edges, rfl, rfl⟩

/-- A dispute that the seed opens against alice takes her from no way to the seed to one step from it. -/
theorem disputed_seed_distance :
    isNegativeGraphEdge dispute = true ∧ dispute.src ∈ apartGraph.nodes ∧
      dispute.dst ∈ apartGraph.nodes ∧ AddsEdge dispute apartGraph disputedGraph ∧
      (graphMeasures (sampleEngine vouchingNoble)
        (seededInput apartGraph)).trusted_seed_distance_bps = 0 ∧
      (graphMeasures (sampleEngine vouchingNoble)
        (seededInput disputedGraph)).trusted_seed_distance_bps = 5000 := by
  refine ⟨by decide, by decide, by decide, dispute_added, ?_⟩
  decide

theorem dispute_shortcut :
    ¬NoShortcut (some referenceSettings) apartGraph [js "seed"] dispute := by
  intro hno
  have hle := (trusted_seed_distance_addedEdge (sampleEngine vouchingNoble)
    (seededInput apartGraph) dispute_added).mpr hno (js "alice")
  revert hle
  decide

end Continuity

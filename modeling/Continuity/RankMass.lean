import Mathlib.Algebra.BigOperators.GroupWithZero.Action
import Mathlib.Algebra.BigOperators.Ring.List
import Mathlib.Algebra.Order.BigOperators.Group.List
import Mathlib.Tactic.FieldSimp
import Mathlib.Tactic.Linarith
import Continuity.GraphFeatures
import Continuity.SeedDistance

namespace Collections
set_option autoImplicit true

namespace OrderedMap

variable [DecidableEq K]

/-- The sum of the values of a map. -/
def total [AddCommMonoid V] (m : OrderedMap K V) : V := m.values.sum

theorem total_set [AddCommGroup V] (m : OrderedMap K V) (k : K) (v : V) :
    (m.set k v).total = m.total - (m.get? k).getD 0 + v := by
  cases h : m.get? k with
  | none =>
    rw [total, values_set_of_has m (by rw [has, h]; rfl), List.sum_append, List.sum_singleton,
      Option.getD_none, sub_zero, total]
  | some w =>
    obtain ⟨before, after, hm, hset⟩ := values_set_of_get? h v
    rw [total, total, hm, hset]
    simp only [List.sum_append, List.sum_cons, Option.getD_some]
    abel

theorem keys_set_of_mem {m : OrderedMap K V} (h : k ∈ m.keys) (v : V) :
    (m.set k v).keys = m.keys := by
  have hm : k ∈ m.entries.map Prod.fst := h
  rw [keys, set, keys_setEntry, if_pos hm, keys]

/-- The sum goes over the keys. -/
theorem total_eq_keys [AddCommMonoid V] (m : OrderedMap K V) :
    m.total = (m.keys.map fun k => (m.get? k).getD 0).sum := by
  rw [total, values, keys, List.map_map]
  congr 1
  apply List.map_congr_left
  rintro ⟨k, v⟩ hm
  rw [Function.comp_apply, mem_entries.mp hm, Option.getD_some]

theorem keys_ofEntries {entries : List (K × V)} (h : (entries.map Prod.fst).Nodup) :
    (ofEntries entries).keys = entries.map Prod.fst := by
  rw [keys, ofEntries, foldl_set_entries entries empty (by simpa [empty] using h), empty,
    List.nil_append]

end OrderedMap
end Collections

namespace Continuity
open Collections
set_option autoImplicit true

section Ranks

variable [Add K] [Sub K] [Mul K] [Div K] (number : Nat → K)

/-- `scores.get(node) ?? 0`. -/
def heldScore (scores : OrderedMap TrustID K) (node : TrustID) : K :=
  (scores.get? node).getD (number 0)

def giveScore (scores : OrderedMap TrustID K) (node : TrustID) (score : K) :
    OrderedMap TrustID K :=
  scores.set node (heldScore number scores node + score)

/-- What a node passes on in one iteration, over the numbers of a type. -/
def passOn (nodes : List TrustID) (arcs : List Arc) (damping : K)
    (personalize scores : OrderedMap TrustID K) (next : OrderedMap TrustID K) (src : TrustID) :
    OrderedMap TrustID K :=
  let out := outgoing arcs src
  if arcTotal out = 0 then
    nodes.foldl (fun next node => giveScore number next node
      (damping * heldScore number scores src * heldScore number personalize node)) next
  else
    out.foldl (fun next arc => giveScore number next arc.dst
      (damping * heldScore number scores src *
        (number arc.weight.toNat / number (arcTotal out)))) next

/-- One iteration over the numbers of a type. -/
def rankStep (nodes : List TrustID) (arcs : List Arc) (damping : K)
    (personalize scores : OrderedMap TrustID K) : OrderedMap TrustID K :=
  nodes.foldl (passOn number nodes arcs damping personalize scores)
    (OrderedMap.ofEntries (nodes.map fun node =>
      (node, (number 1 - damping) * heldScore number personalize node)))

def rankPasses (nodes : List TrustID) (arcs : List Arc) (damping : K)
    (personalize : OrderedMap TrustID K) :
    Nat → OrderedMap TrustID K → OrderedMap TrustID K
  | 0, scores => scores
  | passes + 1, scores =>
    rankPasses nodes arcs damping personalize passes
      (rankStep number nodes arcs damping personalize scores)

def startShares (nodes starts : List TrustID) : OrderedMap TrustID K :=
  OrderedMap.ofEntries (nodes.map fun node =>
    (node, if starts.contains node then number 1 / number starts.length else number 0))

def evenShares (nodes : List TrustID) : OrderedMap TrustID K :=
  OrderedMap.ofEntries (nodes.map fun node => (node, number 1 / number nodes.length))

end Ranks

section Settings

variable (settings : Option PageRankSettings)

def rankIterations : Nat :=
  ((settings.map PageRankSettings.iterations).getD (.ofNat 20)).passes

def rankDamping : Nat :=
  clampBps ((settings.map PageRankSettings.damping_bps).getD (.ofNat 8500))

def rankStarts (nodes trusted : List TrustID) (subject : TrustID) : List TrustID :=
  personalizedNodes nodes trusted subject
    ((settings.bind PageRankSettings.personalization).getD .uniform)

end Settings

/-- The scores of `pageRankScores` after some iterations, before they are rounded to basis
points, over the numbers of a type. -/
def scoresAfter [Add K] [Sub K] [Mul K] [Div K] (number : Nat → K) (graph : GraphV0)
    (profile : Option GraphSettings) (trusted : List TrustID) (subject : TrustID)
    (passes : Nat) : OrderedMap TrustID K :=
  let settings := profile.bind GraphSettings.pagerank
  let nodes := sortStrings graph.nodes
  rankPasses number nodes (projectedGraphArcs profile graph false)
    (number (rankDamping settings) / number 10000)
    (startShares number nodes (rankStarts settings nodes trusted subject)) passes
    (evenShares number nodes)

theorem pageRankPasses_eq : pageRankPasses nodes arcs damping personalize passes scores =
    rankPasses JsNumber.ofNat nodes arcs damping personalize passes scores := by
  induction passes generalizing scores with
  | zero => rfl
  | succ passes ih => exact ih

/-- The code computes these scores in floating point, and rounds them at the end. -/
theorem pageRankScores_eq (h : graph.nodes ≠ []) :
    pageRankScores graph profile trusted subject =
      (scoresAfter JsNumber.ofNat graph profile trusted subject
        (rankIterations (profile.bind GraphSettings.pagerank))).mapValues
          fun score => clampBps (score * .ofNat 10000).floor := by
  have hsorted : (sortStrings graph.nodes).isEmpty = false := by
    obtain ⟨node, hm⟩ := List.exists_mem_of_ne_nil _ h
    rw [List.isEmpty_eq_false_iff_exists_mem]
    exact ⟨node, mem_sortStrings.mpr hm⟩
  rw [pageRankScores, pageRank, hsorted]
  dsimp only
  rw [pageRankPasses_eq]
  rfl

section Mass

variable {nodes starts : List TrustID} {arcs : List Arc} {damping : ℚ}
  {personalize scores next : OrderedMap TrustID ℚ}

theorem total_giveScore (scores : OrderedMap TrustID ℚ) (node : TrustID) (score : ℚ) :
    (giveScore Nat.cast scores node score).total = scores.total + score := by
  rw [giveScore, heldScore, OrderedMap.total_set, Nat.cast_zero]
  ring

/-- Every item of a loop adds its own amount. -/
theorem foldl_total {f : OrderedMap TrustID ℚ → α → OrderedMap TrustID ℚ} {amount : α → ℚ}
    (h : ∀ m x, (f m x).total = m.total + amount x) (xs : List α) (m : OrderedMap TrustID ℚ) :
    (xs.foldl f m).total = m.total + (xs.map amount).sum := by
  induction xs generalizing m with
  | nil => simp
  | cons x xs ih =>
    rw [List.foldl_cons, ih, h, List.map_cons, List.sum_cons]
    ring

theorem foldl_giveScore (key : α → TrustID) (amount : α → ℚ) (xs : List α)
    (m : OrderedMap TrustID ℚ) :
    (xs.foldl (fun m x => giveScore Nat.cast m (key x) (amount x)) m).total =
      m.total + (xs.map amount).sum :=
  foldl_total (fun m x => total_giveScore m (key x) (amount x)) xs m

theorem foldl_keys {f : OrderedMap TrustID ℚ → α → OrderedMap TrustID ℚ} {xs : List α}
    (h : ∀ m, ∀ x ∈ xs, m.keys = nodes → (f m x).keys = nodes) (m : OrderedMap TrustID ℚ)
    (hm : m.keys = nodes) : (xs.foldl f m).keys = nodes := by
  induction xs generalizing m with
  | nil => exact hm
  | cons x xs ih =>
    rw [List.foldl_cons]
    exact ih (fun m y hy => h m y (List.mem_cons_of_mem _ hy)) _ (h m x List.mem_cons_self hm)

theorem arcTotal_cast (arcs : List Arc) :
    ((arcTotal arcs : Nat) : ℚ) = (arcs.map fun arc => (arc.weight.toNat : ℚ)).sum := by
  induction arcs with
  | nil => rfl
  | cons arc arcs ih =>
    rw [arcTotal, List.map_cons, List.sum_cons, Nat.cast_add, List.map_cons, List.sum_cons, ← ih,
      arcTotal]

/-- How much of its score a node passes on: all of it, or what the shares at the starts leave. -/
def passedShare (nodes : List TrustID) (arcs : List Arc) (personalize : OrderedMap TrustID ℚ)
    (src : TrustID) : ℚ :=
  if arcTotal (outgoing arcs src) = 0 then (nodes.map (heldScore Nat.cast personalize)).sum else 1

theorem total_passOn (next : OrderedMap TrustID ℚ) (src : TrustID) :
    (passOn Nat.cast nodes arcs damping personalize scores next src).total =
      next.total + damping * heldScore Nat.cast scores src *
        passedShare nodes arcs personalize src := by
  unfold passOn passedShare
  dsimp only
  by_cases h : arcTotal (outgoing arcs src) = 0
  · rw [if_pos h, if_pos h]
    refine (foldl_giveScore (fun node => node) (fun node => damping *
      heldScore Nat.cast scores src * heldScore Nat.cast personalize node) nodes next).trans ?_
    rw [List.sum_map_mul_left]
  · rw [if_neg h, if_neg h]
    refine (foldl_giveScore Arc.dst (fun arc => damping * heldScore Nat.cast scores src *
      ((arc.weight.toNat : ℚ) / (arcTotal (outgoing arcs src) : ℚ))) _ next).trans ?_
    rw [List.sum_map_mul_left]
    have hne : ((arcTotal (outgoing arcs src) : Nat) : ℚ) ≠ 0 := Nat.cast_ne_zero.mpr h
    have hshares : ((outgoing arcs src).map fun arc =>
        (arc.weight.toNat : ℚ) / (arcTotal (outgoing arcs src) : ℚ)).sum = 1 := by
      simp only [div_eq_mul_inv, List.sum_map_mul_right, ← arcTotal_cast]
      exact mul_inv_cancel₀ hne
    rw [hshares]

theorem keys_giveScore (hm : next.keys = nodes) (hn : node ∈ nodes) (score : ℚ) :
    (giveScore Nat.cast next node score).keys = nodes := by
  rw [giveScore, OrderedMap.keys_set_of_mem (hm ▸ hn), hm]

theorem keys_passOn (harcs : ∀ arc ∈ arcs, arc.dst ∈ nodes) (src : TrustID)
    (hm : next.keys = nodes) :
    (passOn Nat.cast nodes arcs damping personalize scores next src).keys = nodes := by
  unfold passOn
  dsimp only
  split
  · exact foldl_keys (fun m node hn hk => keys_giveScore hk hn _) next hm
  · refine foldl_keys (fun m arc ha hk => keys_giveScore hk ?_ _) next hm
    exact harcs arc (List.mem_of_mem_filter ha)

theorem keys_nodes (hn : nodes.Nodup) (f : TrustID → ℚ) :
    (OrderedMap.ofEntries (nodes.map fun node => (node, f node))).keys = nodes := by
  have hkeys : (nodes.map fun node => (node, f node)).map Prod.fst = nodes := by
    rw [List.map_map]
    exact List.map_id nodes
  rw [OrderedMap.keys_ofEntries (by rw [hkeys]; exact hn), hkeys]

theorem held_nodes (hm : node ∈ nodes) (f : TrustID → ℚ) :
    heldScore Nat.cast (OrderedMap.ofEntries (nodes.map fun node => (node, f node))) node =
      f node := by
  rw [heldScore, get?_ofEntries, if_pos hm, Option.getD_some]

theorem total_keys (hk : scores.keys = nodes) :
    scores.total = (nodes.map (heldScore Nat.cast scores)).sum := by
  rw [OrderedMap.total_eq_keys, hk]
  congr 1

theorem total_nodes (hn : nodes.Nodup) (f : TrustID → ℚ) :
    (OrderedMap.ofEntries (nodes.map fun node => (node, f node))).total = (nodes.map f).sum := by
  rw [total_keys (keys_nodes hn f)]
  congr 1
  exact List.map_congr_left fun node hm => held_nodes hm f

theorem keys_rankStep (hn : nodes.Nodup) (harcs : ∀ arc ∈ arcs, arc.dst ∈ nodes) :
    (rankStep Nat.cast nodes arcs damping personalize scores).keys = nodes :=
  foldl_keys (fun _ src _ hk => keys_passOn harcs src hk) _ (keys_nodes hn _)

/-- The mass of an iteration: what starts anew, and what the nodes pass on. -/
theorem total_rankStep (hn : nodes.Nodup) :
    (rankStep Nat.cast nodes arcs damping personalize scores).total =
      (1 - damping) * (nodes.map (heldScore Nat.cast personalize)).sum +
        (nodes.map fun src => damping * heldScore Nat.cast scores src *
          passedShare nodes arcs personalize src).sum := by
  rw [rankStep, foldl_total total_passOn, total_nodes hn, List.sum_map_mul_left, Nat.cast_one]

/-- The mass of the scores is kept when all of it starts anew at nodes of the graph, and when
none starts anew and no node is left without arcs. -/
theorem conserves_step (hn : nodes.Nodup) (hk : scores.keys = nodes)
    (hm : scores.total = 1) (h : (nodes.map (heldScore Nat.cast personalize)).sum = 1 ∨
      (damping = 1 ∧ ∀ src ∈ nodes, arcTotal (outgoing arcs src) ≠ 0)) :
    (rankStep Nat.cast nodes arcs damping personalize scores).total = 1 := by
  have hpassed : ∀ src ∈ nodes, passedShare nodes arcs personalize src = 1 := by
    intro src hsrc
    rw [passedShare]
    rcases h with hstarts | ⟨-, hout⟩
    · rw [hstarts, ite_self]
    · exact if_neg (hout src hsrc)
  have hsum : (nodes.map fun src => damping * heldScore Nat.cast scores src *
      passedShare nodes arcs personalize src).sum = damping := by
    rw [List.map_congr_left fun src hsrc => by rw [hpassed src hsrc, mul_one],
      List.sum_map_mul_left, ← total_keys hk, hm, mul_one]
  rw [total_rankStep hn, hsum]
  rcases h with hstarts | ⟨rfl, -⟩
  · rw [hstarts]
    ring
  · ring

theorem conserves_run (hn : nodes.Nodup) (harcs : ∀ arc ∈ arcs, arc.dst ∈ nodes)
    (h : (nodes.map (heldScore Nat.cast personalize)).sum = 1 ∨
      (damping = 1 ∧ ∀ src ∈ nodes, arcTotal (outgoing arcs src) ≠ 0))
    (passes : Nat) (hk : scores.keys = nodes) (hm : scores.total = 1) :
    (rankPasses Nat.cast nodes arcs damping personalize passes scores).total = 1 := by
  induction passes generalizing scores with
  | zero => exact hm
  | succ passes ih => exact ih (keys_rankStep hn harcs) (conserves_step hn hk hm h)

theorem sum_shares (p : α → Bool) (share : ℚ) (xs : List α) :
    (xs.map fun x => if p x then share else 0).sum = xs.countP p * share := by
  induction xs with
  | nil => simp
  | cons x xs ih =>
    rw [List.map_cons, List.sum_cons, ih, List.countP_cons]
    cases p x with
    | false => simp
    | true =>
      simp only [if_true, Nat.cast_add, Nat.cast_one]
      ring

theorem starts_sum :
    (nodes.map (heldScore (Nat.cast : Nat → ℚ) (startShares Nat.cast nodes starts))).sum =
      nodes.countP starts.contains * (1 / (starts.length : ℚ)) := by
  rw [← sum_shares]
  congr 1
  apply List.map_congr_left
  intro node hm
  rw [startShares, held_nodes hm, Nat.cast_one, Nat.cast_zero]

/-- All of the mass starts at nodes of the graph when the starts are among them. -/
theorem starts_sum_one (hn : nodes.Nodup) (hs : starts.Nodup) (hne : starts ≠ [])
    (hsub : ∀ node ∈ starts, node ∈ nodes) :
    (nodes.map (heldScore (Nat.cast : Nat → ℚ) (startShares Nat.cast nodes starts))).sum = 1 := by
  have hperm : (nodes.filter starts.contains).Perm starts := by
    rw [List.perm_ext_iff_of_nodup (hn.filter _) hs]
    intro node
    simp only [List.mem_filter, List.contains_iff_mem, and_iff_right_iff_imp]
    exact hsub node
  rw [starts_sum, List.countP_eq_length_filter, hperm.length_eq]
  exact mul_one_div_cancel (Nat.cast_ne_zero.mpr (List.length_pos_of_ne_nil hne).ne')

theorem starts_sum_zero (h : ¬∃ node ∈ starts, node ∈ nodes) :
    (nodes.map (heldScore (Nat.cast : Nat → ℚ) (startShares Nat.cast nodes starts))).sum = 0 := by
  have hnone : nodes.countP starts.contains = 0 := by
    rw [List.countP_eq_zero]
    intro node hm hs
    exact h ⟨node, List.contains_iff_mem.mp hs, hm⟩
  rw [starts_sum, hnone, Nat.cast_zero, zero_mul]

theorem evenShares_total (hn : nodes.Nodup) (hne : nodes ≠ []) :
    (evenShares (Nat.cast : Nat → ℚ) nodes).total = 1 := by
  rw [evenShares, total_nodes hn, List.map_const', List.sum_replicate, nsmul_eq_mul, Nat.cast_one]
  exact mul_one_div_cancel (Nat.cast_ne_zero.mpr (List.length_pos_of_ne_nil hne).ne')

/-- A node that is listed twice has one share of two. -/
theorem evenShares_nodup (hne : nodes ≠ [])
    (h : (evenShares (Nat.cast : Nat → ℚ) nodes).total = 1) : nodes.Nodup := by
  have hmem : ∀ node ∈ (evenShares (Nat.cast : Nat → ℚ) nodes).keys, node ∈ nodes := by
    intro node hm
    by_contra hnot
    have hsome := OrderedMap.mem_keys.mp hm
    rw [evenShares, get?_ofEntries, if_neg hnot] at hsome
    cases hsome
  have hpos : ((nodes.length : Nat) : ℚ) ≠ 0 :=
    Nat.cast_ne_zero.mpr (List.length_pos_of_ne_nil hne).ne'
  have hlength : (((evenShares (Nat.cast : Nat → ℚ) nodes).keys.length : Nat) : ℚ) =
      nodes.length := by
    rw [OrderedMap.total_eq_keys, List.map_congr_left fun node hm => by
      rw [evenShares, get?_ofEntries, if_pos (hmem node hm), Option.getD_some], List.map_const',
      List.sum_replicate, nsmul_eq_mul, Nat.cast_one, mul_one_div, div_eq_one_iff_eq hpos] at h
    exact h
  have hperm : (evenShares (Nat.cast : Nat → ℚ) nodes).keys.Perm nodes :=
    (List.Nodup.subperm (OrderedMap.nodup _) hmem).perm_of_length_le
      (Nat.cast_injective hlength).ge
  exact hperm.nodup (OrderedMap.nodup _)

/-- Without a start in the graph, an iteration keeps the mass only by passing on all of it. -/
theorem all_passed (hn : nodes.Nodup) (hne : nodes ≠ []) (hd : damping ≤ 1)
    (hs : ¬∃ node ∈ starts, node ∈ nodes)
    (h : (rankStep Nat.cast nodes arcs damping (startShares Nat.cast nodes starts)
      (evenShares Nat.cast nodes)).total = 1) :
    damping = 1 ∧ ∀ src ∈ nodes, arcTotal (outgoing arcs src) ≠ 0 := by
  have hpos : (0 : ℚ) < nodes.length := Nat.cast_pos.mpr (List.length_pos_of_ne_nil hne)
  have hpassed : (nodes.map fun src => damping * heldScore Nat.cast (evenShares Nat.cast nodes) src *
      passedShare nodes arcs (startShares Nat.cast nodes starts) src).sum =
      damping * (nodes.countP (fun src => decide (arcTotal (outgoing arcs src) ≠ 0)) /
        (nodes.length : ℚ)) := by
    rw [← mul_one_div (Nat.cast _), ← sum_shares, ← List.sum_map_mul_left]
    congr 1
    apply List.map_congr_left
    intro src hm
    rw [evenShares, held_nodes hm, passedShare, starts_sum_zero hs, mul_assoc, Nat.cast_one]
    by_cases hzero : arcTotal (outgoing arcs src) = 0
    · simp [hzero]
    · simp [hzero]
  rw [total_rankStep hn, starts_sum_zero hs, mul_zero, zero_add, hpassed] at h
  have hcount : nodes.countP (fun src => decide (arcTotal (outgoing arcs src) ≠ 0)) ≤
      nodes.length := List.countP_le_length
  have hle : ((nodes.countP fun src => decide (arcTotal (outgoing arcs src) ≠ 0) : Nat) : ℚ) /
      nodes.length ≤ 1 := (div_le_one hpos).mpr (Nat.cast_le.mpr hcount)
  have hnonneg : (0 : ℚ) ≤ (nodes.countP fun src => decide (arcTotal (outgoing arcs src) ≠ 0) :
      Nat) / (nodes.length : ℚ) := div_nonneg (Nat.cast_nonneg _) hpos.le
  generalize hq : ((nodes.countP fun src => decide (arcTotal (outgoing arcs src) ≠ 0) : Nat) : ℚ) /
    nodes.length = share at h hle hnonneg
  have hshare : share = 1 := by
    have hleft : damping * share ≤ 1 * share := mul_le_mul_of_nonneg_right hd hnonneg
    linarith
  have hone : damping = 1 := by rw [hshare, mul_one] at h; exact h
  refine ⟨hone, ?_⟩
  rw [hshare, div_eq_one_iff_eq hpos.ne', Nat.cast_inj, List.countP_eq_length] at hq
  intro src hm
  exact of_decide_eq_true (hq src hm)

end Mass

theorem rankStarts_nodup (hn : nodes.Nodup) : (rankStarts settings nodes trusted subject).Nodup := by
  rw [rankStarts]
  cases (settings.bind PageRankSettings.personalization).getD .uniform with
  | trusted_seeds =>
    rw [personalizedNodes]
    split
    · exact hn
    · exact hn.filter _
  | subject =>
    rw [personalizedNodes]
    split
    · exact hn
    · exact List.nodup_singleton _
  | uniform => exact hn

/-- Either all starts are nodes of the graph or none is. -/
theorem rankStarts_subset (h : ∃ node ∈ rankStarts settings nodes trusted subject, node ∈ nodes) :
    ∀ node ∈ rankStarts settings nodes trusted subject, node ∈ nodes := by
  revert h
  rw [rankStarts]
  cases (settings.bind PageRankSettings.personalization).getD .uniform with
  | trusted_seeds =>
    rw [personalizedNodes]
    split
    · exact fun _ node hm => hm
    · exact fun _ node hm => List.mem_of_mem_filter hm
  | subject =>
    rw [personalizedNodes]
    split
    · exact fun _ node hm => hm
    · rintro ⟨start, hs, hm⟩ node hnode
      rw [List.mem_singleton] at hs hnode
      rw [hnode, ← hs]
      exact hm
  | uniform => exact fun _ node hm => hm

theorem projectedGraphArcs_dst (hends : ∀ edge ∈ graph.edges,
    edge.src ∈ graph.nodes ∧ edge.dst ∈ graph.nodes) :
    ∀ arc ∈ projectedGraphArcs profile graph signed_supported, arc.dst ∈ graph.nodes := by
  intro arc ha
  obtain ⟨edge, he, harc⟩ := List.mem_flatMap.mp ha
  obtain ⟨hsrc, hdst⟩ := hends edge he
  unfold edgeArcs at harc
  dsimp only at harc
  split at harc
  · cases harc
  · split at harc
    · rcases List.mem_cons.mp harc with rfl | harc
      · exact hdst
      · rw [List.mem_singleton.mp harc]
        exact hsrc
    · rw [List.mem_singleton.mp harc]
      exact hdst

/-- The starts, and the nodes that pass on their score, of a graph that keeps the mass. -/
structure KeepsMass (graph : GraphV0) (profile : Option GraphSettings) (trusted : List TrustID)
    (subject : TrustID) : Prop where
  distinct : graph.nodes.Nodup
  started : rankIterations (profile.bind GraphSettings.pagerank) = 0 ∨
    (∃ node ∈ rankStarts (profile.bind GraphSettings.pagerank) (sortStrings graph.nodes) trusted
      subject, node ∈ graph.nodes) ∨
    (rankDamping (profile.bind GraphSettings.pagerank) = 10000 ∧ ∀ node ∈ graph.nodes,
      arcTotal (outgoing (projectedGraphArcs profile graph false) node) ≠ 0)

/-- The scores in exact numbers sum to one after every iteration exactly when the walk starts at a
node of the graph, or never has to start anew. The code computes the same in floating point. -/
theorem pageRankScores_conserves (hne : graph.nodes ≠ [])
    (hends : ∀ edge ∈ graph.edges, edge.src ∈ graph.nodes ∧ edge.dst ∈ graph.nodes) :
    pageRankScores graph profile trusted subject =
        (scoresAfter JsNumber.ofNat graph profile trusted subject
          (rankIterations (profile.bind GraphSettings.pagerank))).mapValues
            (fun score => clampBps (score * .ofNat 10000).floor) ∧
      ((∀ i ≤ rankIterations (profile.bind GraphSettings.pagerank),
        (scoresAfter (Nat.cast : Nat → ℚ) graph profile trusted subject i).total = 1) ↔
        KeepsMass graph profile trusted subject) := by
  refine ⟨pageRankScores_eq hne, ?_⟩
  have hperm : (sortStrings graph.nodes).Perm graph.nodes := List.perm_insertionSort _ _
  have hne' : sortStrings graph.nodes ≠ [] := by
    intro hnil
    exact hne (List.nil_perm.mp (hnil ▸ hperm))
  have harcs : ∀ arc ∈ projectedGraphArcs profile graph false,
      arc.dst ∈ sortStrings graph.nodes := fun arc ha =>
    mem_sortStrings.mpr (projectedGraphArcs_dst hends arc ha)
  constructor
  · intro hall
    have hn : (sortStrings graph.nodes).Nodup := evenShares_nodup hne' (hall 0 (Nat.zero_le _))
    refine ⟨hperm.nodup_iff.mp hn, ?_⟩
    rcases Nat.eq_zero_or_pos (rankIterations (profile.bind GraphSettings.pagerank)) with
      hzero | hpos
    · exact .inl hzero
    · by_cases hs : ∃ node ∈ rankStarts (profile.bind GraphSettings.pagerank)
          (sortStrings graph.nodes) trusted subject, node ∈ graph.nodes
      · exact .inr (.inl hs)
      · have hd : ((rankDamping (profile.bind GraphSettings.pagerank) : Nat) : ℚ) / (10000 : Nat) ≤
            1 := (div_le_one (by norm_num)).mpr (Nat.cast_le.mpr (clampBps_le _))
        obtain ⟨hone, hout⟩ := all_passed hn hne' hd
          (by simpa only [mem_sortStrings] using hs) (hall 1 hpos)
        refine .inr (.inr ⟨?_, fun node hm => hout node (mem_sortStrings.mpr hm)⟩)
        rw [div_eq_one_iff_eq (by norm_num), Nat.cast_inj] at hone
        exact hone
  · rintro ⟨hdistinct, hstarted⟩ i hi
    have hn : (sortStrings graph.nodes).Nodup := hperm.nodup_iff.mpr hdistinct
    have heven := evenShares_total hn hne'
    rcases hstarted with hzero | hstarted
    · rw [hzero, Nat.le_zero] at hi
      rw [hi]
      exact heven
    · apply conserves_run hn harcs ?_ i (keys_nodes hn _) heven
      rcases hstarted with ⟨start, hs, hm⟩ | ⟨hd, hout⟩
      · have hstart : ∃ node ∈ rankStarts (profile.bind GraphSettings.pagerank)
            (sortStrings graph.nodes) trusted subject, node ∈ sortStrings graph.nodes :=
          ⟨start, hs, mem_sortStrings.mpr hm⟩
        exact .inl (starts_sum_one hn (rankStarts_nodup hn) (List.ne_nil_of_mem hs)
          (rankStarts_subset hstart))
      · refine .inr ⟨?_, fun node hm => hout node (mem_sortStrings.mp hm)⟩
        rw [hd]
        exact div_self (by norm_num)

/-- Walks start at the trusted seeds. -/
def seededSettings : GraphSettings :=
  { defaultSettings (js "graph-reference-v0") with
    pagerank := some ⟨.ofNat 20, .ofNat 8500, some .trusted_seeds⟩ }

/-- The only trusted seed has no evidence in the graph: the first of the twenty iterations leaves
85 of 100 parts of the mass, the second 85 of 100 of these. -/
theorem pageRankScores_loses :
    (apartGraph.nodes ≠ [] ∧ apartGraph.nodes.Nodup ∧
      ∀ edge ∈ apartGraph.edges, edge.src ∈ apartGraph.nodes ∧ edge.dst ∈ apartGraph.nodes) ∧
    rankIterations (seededSettings.pagerank) = 20 ∧
    (scoresAfter (Nat.cast : Nat → ℚ) apartGraph (some seededSettings) [js "mallory"] (js "alice")
      1).total = 17 / 20 ∧
    (scoresAfter (Nat.cast : Nat → ℚ) apartGraph (some seededSettings) [js "mallory"] (js "alice")
      2).total = 289 / 400 := by
  refine ⟨⟨by decide, by decide, by decide⟩, by decide +kernel, ?_, ?_⟩ <;> decide +kernel

/-- With a seed of the graph the mass stays. -/
theorem pageRankScores_conserves_seeded :
    (scoresAfter (Nat.cast : Nat → ℚ) apartGraph (some seededSettings) [js "seed"] (js "alice")
      20).total = 1 := by
  have hiterations : rankIterations seededSettings.pagerank = 20 := by decide
  have hkeeps : KeepsMass apartGraph (some seededSettings) [js "seed"] (js "alice") :=
    ⟨by decide, .inr (.inl ⟨js "seed", by decide, by decide⟩)⟩
  have h := (pageRankScores_conserves (by decide) (by decide)).2.mpr hkeeps
  exact h 20 (Eq.symm hiterations).le

end Continuity

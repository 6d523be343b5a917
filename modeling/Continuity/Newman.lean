import Mathlib.Algebra.BigOperators.Group.Finset.Sigma
import Mathlib.Algebra.BigOperators.Field
import Mathlib.Algebra.BigOperators.Ring.Finset
import Mathlib.Algebra.Order.BigOperators.Group.Finset
import Mathlib.Tactic.FieldSimp
import Mathlib.Tactic.Ring

namespace Newman
set_option autoImplicit true

/-- One weighted link between two nodes, in either direction. -/
structure Link (α : Type) where
  src : α
  dst : α
  weight : Nat

section Definitions

variable {α β : Type} [DecidableEq α] [DecidableEq β]

def mass (links : List (Link α)) : Nat := (links.map Link.weight).sum

/-- How often a link ends at a node. -/
def Link.ends (link : Link α) (node : α) : Nat :=
  (if link.src = node then 1 else 0) + if link.dst = node then 1 else 0

def degree (links : List (Link α)) (node : α) : Nat :=
  (links.map fun link => link.weight * link.ends node).sum

/-- The mass of the links inside a community. -/
def inside (links : List (Link α)) (community : α → β) (c : β) : Nat :=
  (links.map fun link =>
    if community link.src = c ∧ community link.dst = c then link.weight else 0).sum

def degreeSum (links : List (Link α)) (nodes : Finset α) (community : α → β) (c : β) : Nat :=
  ∑ node ∈ nodes with community node = c, degree links node

/-- The modularity of Newman with a resolution `g`, as a sum over the communities. -/
def modularity (links : List (Link α)) (nodes : Finset α) (community : α → β) (g : ℚ) : ℚ :=
  ∑ c ∈ nodes.image community, ((inside links community c : ℚ) / mass links -
    g * ((degreeSum links nodes community c : ℚ) / (2 * mass links)) ^ 2)

def Linked (links : List (Link α)) (u v : α) : Prop :=
  ∃ link ∈ links, (link.src = u ∧ link.dst = v) ∨ (link.src = v ∧ link.dst = u)

instance (links : List (Link α)) (u v : α) : Decidable (Linked links u v) :=
  inferInstanceAs (Decidable (∃ link ∈ links, (link.src = u ∧ link.dst = v) ∨
    (link.src = v ∧ link.dst = u)))

/-- The mass of the links with both ends in one community. -/
def sharedMass (links : List (Link α)) (community : α → β) : Nat :=
  (links.map fun link =>
    if community link.src = community link.dst then link.weight else 0).sum

/-- The ordered pairs of nodes of one community, a node with itself among them. -/
def together (nodes : Finset α) (community : α → β) : Finset (α × α) :=
  (nodes ×ˢ nodes).filter fun pair => community pair.1 = community pair.2

/-- The products of the degrees of some pairs of nodes. -/
def expected (links : List (Link α)) (pairs : Finset (α × α)) : Nat :=
  ∑ pair ∈ pairs, degree links pair.1 * degree links pair.2

/-- What a sum over linked pairs leaves out: the pairs of one community without a link. -/
def unlinked (links : List (Link α)) (nodes : Finset α) (community : α → β) : Nat :=
  expected links ((together nodes community).filter fun pair => ¬Linked links pair.1 pair.2)

end Definitions

section Sums

variable {α β : Type} [DecidableEq α] [DecidableEq β] {links : List (Link α)} {nodes : Finset α}
  {community : α → β}

omit [DecidableEq α] in
theorem inside_sum (h : ∀ link ∈ links, link.src ∈ nodes) :
    ∑ c ∈ nodes.image community, inside links community c = sharedMass links community := by
  unfold inside sharedMass
  induction links with
  | nil => simp
  | cons link links ih =>
    have hrest := ih fun l hl => h l (List.mem_cons_of_mem _ hl)
    have hsrc : community link.src ∈ nodes.image community :=
      Finset.mem_image_of_mem _ (h link List.mem_cons_self)
    simp only [List.map_cons, List.sum_cons, Finset.sum_add_distrib, hrest]
    congr 1
    by_cases hc : community link.src = community link.dst
    · simp only [← hc, and_self]
      rw [Finset.sum_ite_eq, if_pos hsrc, if_pos trivial]
    · rw [if_neg hc]
      apply Finset.sum_eq_zero
      intro c _
      exact if_neg fun hboth => hc (hboth.1.trans hboth.2.symm)

/-- The squares of the degree sums are the products over all pairs of one community. -/
theorem degreeSum_sq : ∑ c ∈ nodes.image community, degreeSum links nodes community c ^ 2 =
    expected links (together nodes community) := by
  have hpair : ∀ c, degreeSum links nodes community c ^ 2 =
      ∑ pair ∈ together nodes community with community pair.1 = c,
        degree links pair.1 * degree links pair.2 := by
    intro c
    rw [degreeSum, pow_two, Finset.sum_mul_sum, ← Finset.sum_product']
    congr 1
    ext ⟨u, v⟩
    simp only [together, Finset.mem_product, Finset.mem_filter]
    constructor
    · rintro ⟨⟨hu, rfl⟩, hv, hc⟩
      exact ⟨⟨⟨hu, hv⟩, hc.symm⟩, rfl⟩
    · rintro ⟨⟨⟨hu, hv⟩, hc⟩, rfl⟩
      exact ⟨⟨hu, rfl⟩, hv, hc.symm⟩
  simp only [hpair]
  rw [expected]
  apply Finset.sum_fiberwise_of_maps_to
  rintro ⟨u, v⟩ hm
  simp only [together, Finset.mem_filter, Finset.mem_product] at hm
  exact Finset.mem_image_of_mem _ hm.1.1

/-- Modularity as one sum over the links and one over the pairs. -/
theorem modularity_eq (h : ∀ link ∈ links, link.src ∈ nodes) (g : ℚ) :
    modularity links nodes community g = (sharedMass links community : ℚ) / mass links -
      g * (expected links (together nodes community) : ℚ) / (4 * (mass links : ℚ) ^ 2) := by
  have hinside : (∑ c ∈ nodes.image community, (inside links community c : ℚ)) =
      sharedMass links community := by
    rw [← inside_sum h, Nat.cast_sum]
  have hsquares : (∑ c ∈ nodes.image community, (degreeSum links nodes community c : ℚ) ^ 2) =
      expected links (together nodes community) := by
    rw [← degreeSum_sq, Nat.cast_sum]
    simp only [Nat.cast_pow]
  rw [modularity, Finset.sum_sub_distrib, ← Finset.sum_div, hinside, ← hsquares]
  congr 1
  rw [Finset.mul_sum, Finset.sum_div]
  apply Finset.sum_congr rfl
  intro c _
  rw [div_pow, mul_pow]
  ring

theorem expected_split (pairs : Finset (α × α)) (p : α × α → Prop) [DecidablePred p] :
    expected links pairs = expected links (pairs.filter p) +
      expected links (pairs.filter fun pair => ¬p pair) :=
  (Finset.sum_filter_add_sum_filter_not pairs p _).symm

/-- A node of positive degree makes a pair with itself, which no link joins. -/
theorem unlinked_pos (hends : ∀ link ∈ links, link.src ∈ nodes)
    (hloops : ∀ link ∈ links, link.src ≠ link.dst) (hm : 0 < mass links) :
    0 < unlinked links nodes community := by
  obtain ⟨link, hl, hw⟩ : ∃ link ∈ links, 0 < link.weight := by
    by_contra hnone
    push Not at hnone
    have hzero : mass links = 0 := by
      rw [mass, List.sum_eq_zero_iff]
      intro w hw
      obtain ⟨link, hl, rfl⟩ := List.mem_map.mp hw
      exact Nat.le_zero.mp (hnone link hl)
    omega
  have hdegree : 0 < degree links link.src := by
    rw [degree]
    refine lt_of_lt_of_le ?_ (List.single_le_sum (fun _ _ => Nat.zero_le _) _
      (List.mem_map_of_mem hl))
    apply Nat.mul_pos hw
    rw [Link.ends, if_pos rfl]
    omega
  refine lt_of_lt_of_le (Nat.mul_pos hdegree hdegree) (Finset.single_le_sum
    (f := fun pair : α × α => degree links pair.1 * degree links pair.2)
    (fun _ _ => Nat.zero_le _) (a := (link.src, link.src)) ?_)
  simp only [together, Finset.mem_filter, Finset.mem_product]
  refine ⟨⟨⟨hends link hl, hends link hl⟩, trivial⟩, ?_⟩
  rintro ⟨other, ho, ⟨hs, hd⟩ | ⟨hs, hd⟩⟩ <;> exact hloops other ho (hs.trans hd.symm)

/-- Every linked pair once in each direction. -/
theorem expected_linked {pairs : Finset (α × α)} (hp : ∀ u v, Linked links u v ↔
      (u, v) ∈ pairs ∨ (v, u) ∈ pairs)
    (hone : ∀ u v, (u, v) ∈ pairs → (v, u) ∉ pairs)
    (hends : ∀ u v, (u, v) ∈ pairs → u ∈ nodes ∧ v ∈ nodes) :
    expected links ((together nodes community).filter fun pair => Linked links pair.1 pair.2) =
      2 * expected links (pairs.filter fun pair => community pair.1 = community pair.2) := by
  have hsplit : ((together nodes community).filter fun pair => Linked links pair.1 pair.2) =
      (pairs.filter fun pair => community pair.1 = community pair.2) ∪
        (pairs.filter fun pair => community pair.1 = community pair.2).image Prod.swap := by
    ext ⟨u, v⟩
    simp only [together, Finset.mem_filter, Finset.mem_product, Finset.mem_union,
      Finset.mem_image, Prod.exists, Prod.swap_prod_mk, Prod.mk.injEq, hp]
    constructor
    · rintro ⟨⟨-, hc⟩, huv | hvu⟩
      · exact .inl ⟨huv, hc⟩
      · exact .inr ⟨v, u, ⟨hvu, hc.symm⟩, rfl, rfl⟩
    · rintro (⟨huv, hc⟩ | ⟨v, u, ⟨hvu, hc⟩, rfl, rfl⟩)
      · exact ⟨⟨hends u v huv, hc⟩, .inl huv⟩
      · obtain ⟨hv, hu⟩ := hends v u hvu
        exact ⟨⟨⟨hu, hv⟩, hc.symm⟩, .inr hvu⟩
  have hdisjoint : Disjoint (pairs.filter fun pair => community pair.1 = community pair.2)
      ((pairs.filter fun pair => community pair.1 = community pair.2).image Prod.swap) := by
    rw [Finset.disjoint_left]
    rintro ⟨u, v⟩ huv hswap
    simp only [Finset.mem_filter, Finset.mem_image, Prod.exists, Prod.swap_prod_mk,
      Prod.mk.injEq] at huv hswap
    obtain ⟨v', u', ⟨hvu, -⟩, rfl, rfl⟩ := hswap
    exact hone _ _ huv.1 hvu
  rw [hsplit, expected, Finset.sum_union hdisjoint, Finset.sum_image Prod.swap_injective.injOn,
    two_mul, expected]
  congr 1
  apply Finset.sum_congr rfl
  rintro ⟨u, v⟩ _
  exact Nat.mul_comm _ _

end Sums
end Newman

import Mathlib.Data.List.Induction
import Mathlib.Tactic.Ring

namespace HashTree
set_option autoImplicit true

/-- The side on which a sibling stands. -/
inductive Side where
  | left
  | right
  deriving DecidableEq

/-- A binary tree over the messages at its leaves. -/
inductive MessageTree (M : Type) where
  | leaf (m : M)
  | node (l r : MessageTree M)

/-- A hash function and the message that joins two digests. -/
structure Scheme (M D : Type) where
  hash : M → D
  pair : D → D → M

def Scheme.join (S : Scheme M D) (a b : D) : D := S.hash (S.pair a b)

def MessageTree.digest (S : Scheme M D) : MessageTree M → D
  | .leaf m => S.hash m
  | .node l r => S.join (l.digest S) (r.digest S)

def MessageTree.leaves : MessageTree M → List M
  | .leaf m => [m]
  | .node l r => l.leaves ++ r.leaves

/-- Every message hashed for the digest of a tree. -/
def MessageTree.inputs (S : Scheme M D) : MessageTree M → List M
  | .leaf m => [m]
  | .node l r => S.pair (l.digest S) (r.digest S) :: (l.inputs S ++ r.inputs S)

/-- The leaf reached from the root by turning away from each sibling. -/
def MessageTree.descend : MessageTree M → List Side → Option M
  | .leaf m, [] => some m
  | .node l _, .right :: sides => l.descend sides
  | .node _ r, .left :: sides => r.descend sides
  | _, _ => none

def Scheme.stepMessage (S : Scheme M D) (d : D) : Side × D → M
  | (.left, s) => S.pair s d
  | (.right, s) => S.pair d s

def Scheme.climb (S : Scheme M D) : D → List (Side × D) → D
  | d, [] => d
  | d, step :: path => S.climb (S.hash (S.stepMessage d step)) path

def Scheme.pathInputs (S : Scheme M D) : D → List (Side × D) → List M
  | _, [] => []
  | d, step :: path =>
    S.stepMessage d step :: S.pathInputs (S.hash (S.stepMessage d step)) path

def Scheme.CollisionFree (S : Scheme M D) (ms : List M) : Prop :=
  ∀ a ∈ ms, ∀ b ∈ ms, S.hash a = S.hash b → a = b

/-- Leaf messages are never pair messages, and a pair message gives back both of its parts
as soon as one of them is known to be a digest. -/
structure Scheme.Separated (S : Scheme M D) (IsLeaf : M → Prop) (Good : D → Prop) : Prop where
  good : ∀ m, Good (S.hash m)
  apart : IsLeaf m → m ≠ S.pair a b
  left_cancel : Good a → Good c → S.pair a b = S.pair c d → a = c ∧ b = d
  right_cancel : Good b → Good d → S.pair a b = S.pair c d → a = c ∧ b = d

variable {S : Scheme M D} {IsLeaf : M → Prop} {Good : D → Prop}

theorem Scheme.CollisionFree.subset (h : S.CollisionFree ms) (hs : ∀ m ∈ ns, m ∈ ms) :
    S.CollisionFree ns :=
  fun a ha b hb he => h a (hs a ha) b (hs b hb) he

theorem Scheme.CollisionFree.append_of_mem (h : S.CollisionFree ms) (hs : ∀ m ∈ ns, m ∈ ms) :
    S.CollisionFree (ms ++ ns) := by
  apply h.subset
  intro m hm
  rcases List.mem_append.mp hm with hm | hm
  · exact hm
  · exact hs m hm

theorem Scheme.climb_append (d : D) (path : List (Side × D)) (step : Side × D) :
    S.climb d (path ++ [step]) = S.hash (S.stepMessage (S.climb d path) step) := by
  induction path generalizing d with
  | nil => rfl
  | cons s path ih => exact ih _

theorem Scheme.pathInputs_append (d : D) (path : List (Side × D)) (step : Side × D) :
    S.pathInputs d (path ++ [step]) =
      S.pathInputs d path ++ [S.stepMessage (S.climb d path) step] := by
  induction path generalizing d with
  | nil => rfl
  | cons s path ih =>
    simp only [List.cons_append, pathInputs, ih, climb]

/-- Digests that follow one another along a path are those that climbing meets. -/
theorem Scheme.climb_ofFn (current : Fin (n + 1) → D) (step : Fin n → Side × D)
    (h : ∀ i, current i.succ = S.hash (S.stepMessage (current i.castSucc) (step i))) :
    S.climb (current 0) (List.ofFn step) = current (Fin.last n) := by
  induction n with
  | zero => rfl
  | succ n ih =>
    have hfirst : S.hash (S.stepMessage (current 0) (step 0)) = current 1 := (h 0).symm
    rw [List.ofFn_succ, climb, hfirst]
    exact ih (fun i => current i.succ) (fun i => step i.succ) fun i => h i.succ

theorem Scheme.pathInputs_ofFn (current : Fin (n + 1) → D) (step : Fin n → Side × D)
    (h : ∀ i, current i.succ = S.hash (S.stepMessage (current i.castSucc) (step i))) :
    S.pathInputs (current 0) (List.ofFn step) =
      List.ofFn fun i => S.stepMessage (current i.castSucc) (step i) := by
  induction n with
  | zero => rfl
  | succ n ih =>
    have hfirst : S.hash (S.stepMessage (current 0) (step 0)) = current 1 := (h 0).symm
    rw [List.ofFn_succ, pathInputs, hfirst, List.ofFn_succ]
    exact congrArg _ (ih (fun i => current i.succ) (fun i => step i.succ) fun i => h i.succ)

theorem Scheme.climb_hash (m : M) (path : List (Side × D)) :
    ∃ n, S.climb (S.hash m) path = S.hash n := by
  induction path generalizing m with
  | nil => exact ⟨m, rfl⟩
  | cons step path ih => exact ih _

theorem MessageTree.digest_hash (t : MessageTree M) : ∃ n ∈ t.inputs S, t.digest S = S.hash n := by
  cases t with
  | leaf m => exact ⟨m, by simp [inputs], rfl⟩
  | node l r => exact ⟨_, List.mem_cons_self, rfl⟩

theorem Scheme.Separated.good_climb (hs : S.Separated IsLeaf Good) (m : M)
    (path : List (Side × D)) : Good (S.climb (S.hash m) path) := by
  obtain ⟨n, hn⟩ := Scheme.climb_hash (S := S) m path
  rw [hn]
  exact hs.good n

theorem Scheme.Separated.good_digest (hs : S.Separated IsLeaf Good) (t : MessageTree M) :
    Good (t.digest S) := by
  obtain ⟨n, -, hn⟩ := t.digest_hash (S := S)
  rw [hn]
  exact hs.good n

theorem Scheme.Separated.step_cancel (hs : S.Separated IsLeaf Good) (hd : Good d)
    (hl : Good a) (hr : Good b) (step : Side × D) (h : S.stepMessage d step = S.pair a b) :
    (step.1 = .left ∧ d = b) ∨ (step.1 = .right ∧ d = a) := by
  obtain ⟨side, s⟩ := step
  cases side with
  | left => exact .inl ⟨rfl, (hs.right_cancel hd hr h).2⟩
  | right => exact .inr ⟨rfl, (hs.left_cancel hd hl h).1⟩

theorem Scheme.Separated.step_apart (hs : S.Separated IsLeaf Good) (hm : IsLeaf m) (d : D)
    (step : Side × D) : m ≠ S.stepMessage d step := by
  obtain ⟨side, s⟩ := step
  cases side with
  | left => exact hs.apart hm
  | right => exact hs.apart hm

theorem MessageTree.descend_mem (t : MessageTree M) (h : t.descend sides = some m) :
    m ∈ t.leaves := by
  induction t generalizing sides with
  | leaf n =>
    cases sides with
    | nil => simpa only [descend, Option.some.injEq, leaves, List.mem_singleton] using h.symm
    | cons s sides => simp [descend] at h
  | node l r hl hr =>
    match sides with
    | [] => simp [descend] at h
    | .right :: sides => exact List.mem_append_left _ (hl h)
    | .left :: sides => exact List.mem_append_right _ (hr h)

/-- A path that climbs from a leaf message to the digest of a tree leads to that leaf. -/
theorem Scheme.Separated.climb_sound (hs : S.Separated IsLeaf Good) (t : MessageTree M)
    (path : List (Side × D)) (ht : ∀ n ∈ t.leaves, IsLeaf n) (hm : IsLeaf m)
    (hc : S.CollisionFree (t.inputs S ++ m :: S.pathInputs (S.hash m) path))
    (he : S.climb (S.hash m) path = t.digest S) :
    t.descend (path.map Prod.fst).reverse = some m := by
  induction path using List.reverseRecOn generalizing t with
  | nil =>
    cases t with
    | leaf n =>
      have hn := hc m (by simp) n (by simp [MessageTree.inputs]) he
      simp [MessageTree.descend, hn]
    | node l r =>
      have hn := hc m (by simp) (S.pair (l.digest S) (r.digest S)) (by simp [MessageTree.inputs]) he
      exact (hs.apart hm hn).elim
  | append_singleton path step ih =>
    rw [Scheme.pathInputs_append] at hc
    rw [Scheme.climb_append] at he
    have hmem : S.stepMessage (S.climb (S.hash m) path) step ∈ t.inputs S ++
        m :: (S.pathInputs (S.hash m) path ++ [S.stepMessage (S.climb (S.hash m) path) step]) := by
      simp
    cases t with
    | leaf n =>
      have hn := hc n (by simp [MessageTree.inputs]) _ hmem he.symm
      exact (hs.step_apart (ht n (by simp [MessageTree.leaves])) _ _ hn).elim
    | node l r =>
      have hn := hc _ hmem (S.pair (l.digest S) (r.digest S)) (by simp [MessageTree.inputs]) he
      have hg := hs.good_climb m path
      rw [List.map_append, List.reverse_append]
      rcases hs.step_cancel hg (hs.good_digest l) (hs.good_digest r) step hn with
        ⟨hside, hd⟩ | ⟨hside, hd⟩
      · simp only [List.map_cons, List.map_nil, List.reverse_singleton, List.singleton_append,
          hside, MessageTree.descend]
        apply ih r (fun n hn => ht n (by simp [MessageTree.leaves, hn])) _ hd
        apply hc.subset
        intro n hn
        simp only [MessageTree.inputs, List.mem_append, List.mem_cons] at hn ⊢
        grind
      · simp only [List.map_cons, List.map_nil, List.reverse_singleton, List.singleton_append,
          hside, MessageTree.descend]
        apply ih l (fun n hn => ht n (by simp [MessageTree.leaves, hn])) _ hd
        apply hc.subset
        intro n hn
        simp only [MessageTree.inputs, List.mem_append, List.mem_cons] at hn ⊢
        grind

/-- A digest binds the whole tree. -/
theorem Scheme.Separated.digest_injective (hs : S.Separated IsLeaf Good) (t u : MessageTree M)
    (ht : ∀ n ∈ t.leaves, IsLeaf n) (hu : ∀ n ∈ u.leaves, IsLeaf n)
    (hc : S.CollisionFree (t.inputs S ++ u.inputs S)) (he : t.digest S = u.digest S) :
    t = u := by
  induction t generalizing u with
  | leaf m =>
    cases u with
    | leaf n => rw [hc m (by simp [MessageTree.inputs]) n (by simp [MessageTree.inputs]) he]
    | node l r =>
      have hn := hc m (by simp [MessageTree.inputs]) (S.pair (l.digest S) (r.digest S))
        (by simp [MessageTree.inputs]) he
      exact (hs.apart (ht m (by simp [MessageTree.leaves])) hn).elim
  | node l r hl hr =>
    cases u with
    | leaf n =>
      have hn := hc n (by simp [MessageTree.inputs]) (S.pair (l.digest S) (r.digest S))
        (by simp [MessageTree.inputs]) he.symm
      exact (hs.apart (hu n (by simp [MessageTree.leaves])) hn).elim
    | node l' r' =>
      have hn := hc (S.pair (l.digest S) (r.digest S)) (by simp [MessageTree.inputs])
        (S.pair (l'.digest S) (r'.digest S)) (by simp [MessageTree.inputs]) he
      obtain ⟨hel, her⟩ := hs.left_cancel (hs.good_digest l) (hs.good_digest l') hn
      have htl : l = l' := by
        apply hl l' (fun n hn => ht n (by simp [MessageTree.leaves, hn]))
          (fun n hn => hu n (by simp [MessageTree.leaves, hn])) _ hel
        apply hc.subset
        intro n hn
        simp only [MessageTree.inputs, List.mem_append, List.mem_cons] at hn ⊢
        grind
      have htr : r = r' := by
        apply hr r' (fun n hn => ht n (by simp [MessageTree.leaves, hn]))
          (fun n hn => hu n (by simp [MessageTree.leaves, hn])) _ her
        apply hc.subset
        intro n hn
        simp only [MessageTree.inputs, List.mem_append, List.mem_cons] at hn ⊢
        grind
      rw [htl, htr]

/-- One level up: neighbours are joined and an odd last node is promoted. -/
def pairUp (f : α → α → α) : List α → List α
  | [] => []
  | [a] => [a]
  | a :: b :: rest => f a b :: pairUp f rest

def collapse (f : α → α → α) : Nat → List α → List α
  | 0, nodes => nodes
  | fuel + 1, nodes => if nodes.length ≤ 1 then nodes else collapse f fuel (pairUp f nodes)

theorem pairUp_length (f : α → α → α) (nodes : List α) :
    (pairUp f nodes).length = (nodes.length + 1) / 2 := by
  fun_induction pairUp f nodes with
  | case1 => simp
  | case2 a => simp
  | case3 a b rest ih =>
    simp only [List.length_cons, ih]
    omega

theorem pairUp_map {f : α → α → α} {g : β → β → β} (d : α → β)
    (h : ∀ a b, d (f a b) = g (d a) (d b)) (nodes : List α) :
    (pairUp f nodes).map d = pairUp g (nodes.map d) := by
  fun_induction pairUp f nodes with
  | case1 => rfl
  | case2 a => rfl
  | case3 a b rest ih => simp only [List.map_cons, h, ih, pairUp]

theorem pairUp_getElem? (f : α → α → α) (nodes : List α) (k : Nat) :
    (pairUp f nodes)[k]? =
      nodes[2 * k]?.map fun a => (nodes[2 * k + 1]?.map (f a)).getD a := by
  fun_induction pairUp f nodes generalizing k with
  | case1 => simp
  | case2 a =>
    cases k with
    | zero => simp
    | succ k => simp [show 2 * (k + 1) = 2 * k + 1 + 1 by ring]
  | case3 a b rest ih =>
    cases k with
    | zero => simp
    | succ k =>
      rw [show 2 * (k + 1) = 2 * k + 1 + 1 by ring]
      simpa using ih k

theorem pairUp_leaves (nodes : List (MessageTree M)) :
    (pairUp MessageTree.node nodes).flatMap MessageTree.leaves =
      nodes.flatMap MessageTree.leaves := by
  fun_induction pairUp MessageTree.node nodes with
  | case1 => rfl
  | case2 a => rfl
  | case3 a b rest ih =>
    simp only [List.flatMap_cons, ih, MessageTree.leaves, List.append_assoc]

theorem collapse_length (f : α → α → α) (fuel : Nat) (nodes : List α)
    (h : nodes.length ≤ fuel + 1) (hn : nodes ≠ []) : (collapse f fuel nodes).length = 1 := by
  induction fuel generalizing nodes with
  | zero =>
    have hp := List.length_pos_iff.mpr hn
    simp only [collapse]
    omega
  | succ fuel ih =>
    have hp := List.length_pos_iff.mpr hn
    simp only [collapse]
    split
    · omega
    · have hl := pairUp_length f nodes
      exact ih _ (by omega) (by intro he; rw [he] at hl; simp at hl; omega)

theorem collapse_leaves (fuel : Nat) (nodes : List (MessageTree M)) :
    (collapse MessageTree.node fuel nodes).flatMap MessageTree.leaves =
      nodes.flatMap MessageTree.leaves := by
  induction fuel generalizing nodes with
  | zero => rfl
  | succ fuel ih =>
    simp only [collapse]
    split
    · rfl
    · rw [ih, pairUp_leaves]

/-- The complete tree of a given height over the leaves `f`, at a position of its level. -/
def complete (f : Nat → M) : Nat → Nat → MessageTree M
  | 0, i => .leaf (f i)
  | k + 1, i => .node (complete f k (2 * i)) (complete f k (2 * i + 1))

/-- The position spelled from a node downwards by turning away from each sibling. -/
def spell : Nat → List Side → Nat
  | i, [] => i
  | i, .right :: sides => spell (2 * i) sides
  | i, .left :: sides => spell (2 * i + 1) sides

theorem complete_descend (f : Nat → M) (k i : Nat) (sides : List Side) :
    (complete f k i).descend sides =
      if sides.length = k then some (f (spell i sides)) else none := by
  induction k generalizing i sides with
  | zero =>
    cases sides with
    | nil => rfl
    | cons s sides => cases s <;> simp [complete, MessageTree.descend]
  | succ k ih =>
    match sides with
    | [] => simp [complete, MessageTree.descend]
    | .right :: sides => simp [complete, MessageTree.descend, spell, ih]
    | .left :: sides => simp [complete, MessageTree.descend, spell, ih]

theorem complete_leaves (f : Nat → M) (k i : Nat) :
    ∀ m ∈ (complete f k i).leaves, ∃ j, m = f j := by
  induction k generalizing i with
  | zero =>
    intro m hm
    exact ⟨i, by simpa [complete, MessageTree.leaves] using hm⟩
  | succ k ih =>
    intro m hm
    rcases List.mem_append.mp hm with hm | hm
    · exact ih _ m hm
    · exact ih _ m hm

/-- The message at the top of the complete tree over one message, by the height of the tree. -/
def Scheme.tower (S : Scheme M D) (m : M) : Nat → M
  | 0 => m
  | k + 1 => S.pair (S.hash (S.tower m k)) (S.hash (S.tower m k))

theorem complete_tower (S : Scheme M D) (m : M) (k i : Nat) :
    (complete (fun _ => m) k i).digest S = S.hash (S.tower m k) := by
  induction k generalizing i with
  | zero => rfl
  | succ k ih => rw [complete, MessageTree.digest, ih, ih, Scheme.join, Scheme.tower]

theorem complete_tower_inputs (S : Scheme M D) (m : M) (k i : Nat) :
    ∀ n ∈ (complete (fun _ => m) k i).inputs S, ∃ j ≤ k, n = S.tower m j := by
  induction k generalizing i with
  | zero =>
    intro n hn
    exact ⟨0, le_rfl, by simpa [complete, MessageTree.inputs, Scheme.tower] using hn⟩
  | succ k ih =>
    intro n hn
    rw [complete, MessageTree.inputs, List.mem_cons, List.mem_append, complete_tower,
      complete_tower] at hn
    have hlower : (∃ j ≤ k, n = S.tower m j) → ∃ j ≤ k + 1, n = S.tower m j := by
      rintro ⟨j, hj, hn⟩
      exact ⟨j, by omega, hn⟩
    rcases hn with hn | hn | hn
    · exact ⟨k + 1, le_rfl, hn⟩
    · exact hlower (ih _ n hn)
    · exact hlower (ih _ n hn)

/-- Messages of a tower whose digests all differ do not collide. -/
theorem Scheme.tower_collisionFree (S : Scheme M D) (m : M) (k : Nat)
    (h : ∀ i ≤ k, ∀ j ≤ k, S.hash (S.tower m i) = S.hash (S.tower m j) → i = j)
    (hms : ∀ n ∈ ms, ∃ j ≤ k, n = S.tower m j) : S.CollisionFree ms := by
  intro a ha b hb he
  obtain ⟨i, hi, rfl⟩ := hms a ha
  obtain ⟨j, hj, rfl⟩ := hms b hb
  rw [h i hi j hj he]

/-- The siblings met on the way up from a position of level `level`. -/
def completePath (S : Scheme M D) (f : Nat → M) : Nat → Nat → Nat → List (Side × D)
  | 0, _, _ => []
  | n + 1, level, i =>
    (if i % 2 = 0 then (.right, (complete f level (i + 1)).digest S)
      else (.left, (complete f level (i - 1)).digest S)) ::
      completePath S f n (level + 1) (i / 2)

/-- Climbing from a node along its own siblings gives its ancestor. -/
theorem completePath_climb (f : Nat → M) (n level i : Nat) :
    S.climb ((complete f level i).digest S) (completePath S f n level i) =
      (complete f (level + n) (i / 2 ^ n)).digest S := by
  induction n generalizing level i with
  | zero => simp [completePath, Scheme.climb]
  | succ n ih =>
    have hp : i / 2 ^ (n + 1) = i / 2 / 2 ^ n := by
      rw [Nat.pow_succ', Nat.div_div_eq_div_mul]
    rw [hp, show level + (n + 1) = level + 1 + n by ring, ← ih]
    rcases Nat.mod_two_eq_zero_or_one i with h | h
    · have hi : 2 * (i / 2) = i := by omega
      simp only [completePath, h, if_true, Scheme.climb, Scheme.stepMessage, complete,
        MessageTree.digest, Scheme.join, hi]
    · have hi : 2 * (i / 2) = i - 1 := by omega
      have hj : i - 1 + 1 = i := by omega
      simp only [completePath, h, one_ne_zero, if_false, Scheme.climb, Scheme.stepMessage,
        complete, MessageTree.digest, Scheme.join, hi, hj]

theorem spell_concat (i : Nat) (sides : List Side) (side : Side) :
    spell i (sides ++ [side]) = 2 * spell i sides + if side = .left then 1 else 0 := by
  induction sides generalizing i with
  | nil => cases side <;> rfl
  | cons s sides ih =>
    cases s with
    | left => exact ih _
    | right => exact ih _

theorem spell_div (i : Nat) (sides : List Side) :
    spell i sides / 2 ^ sides.length = i := by
  induction sides using List.reverseRecOn with
  | nil => simp [spell]
  | append_singleton sides side ih =>
    rw [spell_concat, List.length_append, List.length_singleton, Nat.pow_succ',
      ← Nat.div_div_eq_div_mul]
    have hhalf : (2 * spell i sides + if side = .left then 1 else 0) / 2 = spell i sides := by
      split <;> omega
    rw [hhalf, ih]

/-- The path of a spelled position has the sides that spell it. -/
theorem completePath_sides (f : Nat → M) (level i : Nat) (sides : List Side) :
    (completePath S f sides.length level (spell i sides.reverse)).map Prod.fst = sides := by
  induction sides generalizing level with
  | nil => rfl
  | cons side sides ih =>
    rw [List.reverse_cons, spell_concat, List.length_cons, completePath, List.map_cons]
    have hhalf : (2 * spell i sides.reverse + if side = .left then 1 else 0) / 2 =
        spell i sides.reverse := by
      split <;> omega
    rw [hhalf, ih]
    cases side with
    | left => simp [Nat.add_mod]
    | right => simp

/-- The pair message gives back both of its parts. -/
def Scheme.Paired (S : Scheme M D) : Prop := ∀ a b c d, S.pair a b = S.pair c d → a = c ∧ b = d

theorem Scheme.Paired.step_cancel (hp : S.Paired) (step : Side × D)
    (h : S.stepMessage d step = S.pair a b) :
    (step.1 = .left ∧ d = b) ∨ (step.1 = .right ∧ d = a) := by
  obtain ⟨side, s⟩ := step
  cases side with
  | left => exact .inl ⟨rfl, (hp _ _ _ _ h).2⟩
  | right => exact .inr ⟨rfl, (hp _ _ _ _ h).1⟩

/-- The node at a position of a level over the digests of the leaves. -/
def Scheme.node (S : Scheme M D) (leaf : Nat → D) : Nat → Nat → D
  | 0, i => leaf i
  | k + 1, i => S.join (S.node leaf k (2 * i)) (S.node leaf k (2 * i + 1))

/-- Every message hashed for a node. -/
def Scheme.nodeInputs (S : Scheme M D) (leaf : Nat → D) : Nat → Nat → List M
  | 0, _ => []
  | k + 1, i => S.pair (S.node leaf k (2 * i)) (S.node leaf k (2 * i + 1)) ::
      (S.nodeInputs leaf k (2 * i) ++ S.nodeInputs leaf k (2 * i + 1))

/-- A path that climbs the height of a node to its digest starts at the leaf that its sides
spell. -/
theorem Scheme.Paired.climb_node (hp : S.Paired) (leaf : Nat → D) (k i : Nat)
    (path : List (Side × D)) (hlength : path.length = k)
    (hc : S.CollisionFree (S.nodeInputs leaf k i ++ S.pathInputs d path))
    (he : S.climb d path = S.node leaf k i) :
    leaf (spell i (path.map Prod.fst).reverse) = d := by
  induction path using List.reverseRecOn generalizing k i with
  | nil =>
    subst hlength
    exact he.symm
  | append_singleton path step ih =>
    obtain ⟨k, rfl⟩ : ∃ n, k = n + 1 := ⟨path.length, by simpa using hlength.symm⟩
    have hlower : path.length = k := by simpa using hlength
    rw [pathInputs_append] at hc
    rw [climb_append] at he
    have hmessage := hc (S.stepMessage (S.climb d path) step) (by simp)
      (S.pair (S.node leaf k (2 * i)) (S.node leaf k (2 * i + 1))) (by simp [nodeInputs]) he
    rw [List.map_append, List.reverse_append]
    rcases hp.step_cancel step hmessage with ⟨hside, hd⟩ | ⟨hside, hd⟩
    · simp only [List.map_cons, List.map_nil, List.reverse_singleton, List.singleton_append,
        hside, spell]
      apply ih k (2 * i + 1) hlower _ hd
      apply hc.subset
      intro n hn
      simp only [nodeInputs, List.mem_append, List.mem_cons] at hn ⊢
      grind
    · simp only [List.map_cons, List.map_nil, List.reverse_singleton, List.singleton_append,
        hside, spell]
      apply ih k (2 * i) hlower _ hd
      apply hc.subset
      intro n hn
      simp only [nodeInputs, List.mem_append, List.mem_cons] at hn ⊢
      grind

/-- The message that joins two neighbours is hashed for every node above them. -/
theorem Scheme.pair_mem_nodeInputs (S : Scheme M D) (leaf : Nat → D) (j n i : Nat) :
    S.pair (S.node leaf j (2 * i)) (S.node leaf j (2 * i + 1)) ∈
      S.nodeInputs leaf (j + 1 + n) (i / 2 ^ n) := by
  induction n with
  | zero => simp [nodeInputs]
  | succ n ih =>
    have hp : i / 2 ^ (n + 1) = i / 2 ^ n / 2 := by rw [pow_succ, Nat.div_div_eq_div_mul]
    rw [← add_assoc, nodeInputs, hp, List.mem_cons, List.mem_append]
    rcases Nat.mod_two_eq_zero_or_one (i / 2 ^ n) with h | h
    · have hi : 2 * (i / 2 ^ n / 2) = i / 2 ^ n := by omega
      exact .inr (.inl (by rwa [hi]))
    · have hi : 2 * (i / 2 ^ n / 2) + 1 = i / 2 ^ n := by omega
      exact .inr (.inr (by rwa [hi]))

theorem complete_node (f : Nat → M) (k i : Nat) :
    (complete f k i).digest S = S.node (fun j => S.hash (f j)) k i := by
  induction k generalizing i with
  | zero => rfl
  | succ k ih => rw [complete, MessageTree.digest, ih, ih, Scheme.node]

theorem complete_nodeInputs (f : Nat → M) (k i : Nat) :
    ∀ n ∈ S.nodeInputs (fun j => S.hash (f j)) k i, n ∈ (complete f k i).inputs S := by
  induction k generalizing i with
  | zero => simp [Scheme.nodeInputs]
  | succ k ih =>
    intro n hn
    rw [Scheme.nodeInputs, List.mem_cons, List.mem_append, ← complete_node, ← complete_node] at hn
    rw [complete, MessageTree.inputs, List.mem_cons, List.mem_append]
    exact hn.imp_right (Or.imp (ih _ n) (ih _ n))

theorem MessageTree.leaves_inputs (t : MessageTree M) : ∀ m ∈ t.leaves, m ∈ t.inputs S := by
  induction t with
  | leaf m => simp [leaves, inputs]
  | node l r hl hr =>
    intro m hm
    rw [leaves, List.mem_append] at hm
    rw [inputs, List.mem_cons, List.mem_append]
    exact .inr (hm.imp (hl m) (hr m))

/-- The leaves of a complete tree are those of a range of positions. -/
theorem complete_leaf_mem (f : Nat → M) (k i j : Nat) (h : j / 2 ^ k = i) :
    f j ∈ (complete f k i).leaves := by
  induction k generalizing i with
  | zero =>
    obtain rfl : j = i := by simpa using h
    simp [complete, MessageTree.leaves]
  | succ k ih =>
    have hp : j / 2 ^ (k + 1) = j / 2 ^ k / 2 := by rw [pow_succ, Nat.div_div_eq_div_mul]
    rw [complete, MessageTree.leaves, List.mem_append]
    rcases Nat.mod_two_eq_zero_or_one (j / 2 ^ k) with hm | hm
    · exact .inl (ih _ (by omega))
    · exact .inr (ih _ (by omega))

/-- The message at the top of the complete tree with its own first leaf and one message at all
the others, by the height of the tree. -/
def Scheme.spine (S : Scheme M D) (m e : M) : Nat → M
  | 0 => m
  | k + 1 => S.pair (S.hash (S.spine m e k)) (S.hash (S.tower e k))

def firstLeaf (m e : M) (i : Nat) : M := if i = 0 then m else e

theorem complete_spine (S : Scheme M D) (m e : M) (k i : Nat) :
    (complete (firstLeaf m e) k i).digest S =
      S.hash (if i = 0 then S.spine m e k else S.tower e k) := by
  induction k generalizing i with
  | zero => rfl
  | succ k ih =>
    rw [complete, MessageTree.digest, ih, ih, Scheme.join, if_neg (show 2 * i + 1 ≠ 0 by omega)]
    by_cases hi : i = 0
    · rw [hi, if_pos rfl, if_pos rfl, Scheme.spine]
    · rw [if_neg (show 2 * i ≠ 0 by omega), if_neg hi, Scheme.tower]

theorem complete_spine_inputs (S : Scheme M D) (m e : M) (k i : Nat) :
    ∀ n ∈ (complete (firstLeaf m e) k i).inputs S,
      ∃ j ≤ k, n = S.spine m e j ∨ n = S.tower e j := by
  induction k generalizing i with
  | zero =>
    intro n hn
    rw [complete, MessageTree.inputs, List.mem_singleton, firstLeaf] at hn
    split at hn
    · exact ⟨0, le_rfl, .inl hn⟩
    · exact ⟨0, le_rfl, .inr hn⟩
  | succ k ih =>
    intro n hn
    rw [complete, MessageTree.inputs, List.mem_cons, List.mem_append, complete_spine,
      complete_spine, if_neg (show 2 * i + 1 ≠ 0 by omega)] at hn
    have hlower : (∃ j ≤ k, n = S.spine m e j ∨ n = S.tower e j) →
        ∃ j ≤ k + 1, n = S.spine m e j ∨ n = S.tower e j := by
      rintro ⟨j, hj, hn⟩
      exact ⟨j, by omega, hn⟩
    rcases hn with hn | hn | hn
    · by_cases hi : 2 * i = 0
      · rw [if_pos hi] at hn
        exact ⟨k + 1, le_rfl, .inl hn⟩
      · rw [if_neg hi] at hn
        exact ⟨k + 1, le_rfl, .inr hn⟩
    · exact hlower (ih _ n hn)
    · exact hlower (ih _ n hn)

/-- Messages of a spine and its tower do not collide where all of their digests differ. -/
theorem Scheme.spine_collisionFree (S : Scheme M D) (m e : M) (k : Nat)
    (hs : ∀ i ≤ k, ∀ j ≤ k, S.hash (S.spine m e i) = S.hash (S.spine m e j) → i = j)
    (ht : ∀ i ≤ k, ∀ j ≤ k, S.hash (S.tower e i) = S.hash (S.tower e j) → i = j)
    (hst : ∀ i ≤ k, ∀ j ≤ k, S.hash (S.spine m e i) ≠ S.hash (S.tower e j))
    (hms : ∀ n ∈ ms, ∃ j ≤ k, n = S.spine m e j ∨ n = S.tower e j) : S.CollisionFree ms := by
  intro a ha b hb he
  obtain ⟨i, hi, rfl | rfl⟩ := hms a ha
  · obtain ⟨j, hj, rfl | rfl⟩ := hms b hb
    · rw [hs i hi j hj he]
    · exact (hst i hi j hj he).elim
  · obtain ⟨j, hj, rfl | rfl⟩ := hms b hb
    · exact (hst j hj i hi he.symm).elim
    · rw [ht i hi j hj he]

end HashTree

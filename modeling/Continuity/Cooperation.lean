import Continuity.Statements

namespace Statements
set_option autoImplicit true

/-- A program on a part of the state. -/
def Program.focus (get : τ → σ) (set : σ → τ → τ) : Program σ ε α → Program τ ε α
  | done result => done result
  | statement effect next =>
    statement (fun t => set (effect (get t)) t) fun t => (next (get t)).focus get set

open Program

/-- Whatever the others do to the state within a relation, the statements of the program stay within
it too, and the program ends with the postcondition or with an error. -/
def Cooperates (within : σ → σ → Prop) (post : α → σ → Prop) : Program σ ε α → σ → Prop
  | .done (.ok a), s => ∀ t, within s t → post a t
  | .done (.error _), _ => True
  | .statement effect next, s =>
    ∀ t, within s t → within t (effect t) ∧ Cooperates within post (next t) (effect t)

/-- What the others may do one after the other. -/
structure Composes (within : σ → σ → Prop) : Prop where
  refl : ∀ s, within s s
  trans : ∀ s t u, within s t → within t u → within s u

section Rules

variable {within : σ → σ → Prop} {post : α → σ → Prop} {p : Program σ ε α} {f : α → Program σ ε β}

theorem cooperates_error (e : ε) : Cooperates within post (done (.error e)) s := trivial

theorem cooperates_ok : Cooperates within post (done (.ok a) : Program σ ε α) s ↔
    ∀ t, within s t → post a t := Iff.rfl

theorem cooperates_statement {effect : σ → σ} {next : σ → Program σ ε α} :
    Cooperates within post (.statement effect next) s ↔
      ∀ t, within s t → within t (effect t) ∧ Cooperates within post (next t) (effect t) := Iff.rfl

/-- Others take a step. -/
theorem Cooperates.disturbed (hw : Composes within) (h : Cooperates within post p s)
    (ht : within s t) : Cooperates within post p t := by
  match p, h with
  | .done (.ok a), h => exact fun u hu => h u (hw.trans s t u ht hu)
  | .done (.error e), _ => trivial
  | .statement effect next, h => exact fun u hu => h u (hw.trans s t u ht hu)

/-- The program takes a step. -/
theorem Cooperates.step (hw : Composes within) (h : Cooperates within post p s) :
    within s (p.step s).2 ∧ Cooperates within post (p.step s).1 (p.step s).2 := by
  cases p with
  | done result => exact ⟨hw.refl s, h⟩
  | statement effect next => exact h s (hw.refl s)

theorem Cooperates.mono {post' : α → σ → Prop} (h : Cooperates within post p s)
    (hp : ∀ a t, post a t → post' a t) : Cooperates within post' p s := by
  induction p generalizing s with
  | done result =>
    cases result with
    | ok a => exact fun t ht => hp a t (h t ht)
    | error e => trivial
  | statement effect next ih => exact fun t ht => ⟨(h t ht).1, ih t (h t ht).2⟩

/-- What the others keep is kept by the program too. -/
theorem Cooperates.frame {kept : σ → Prop} (h : Cooperates within post p s) (hk : kept s)
    (hstable : ∀ s t, within s t → kept s → kept t) :
    Cooperates within (fun a t => post a t ∧ kept t) p s := by
  induction p generalizing s with
  | done result =>
    cases result with
    | ok a => exact fun t ht => ⟨h t ht, hstable s t ht hk⟩
    | error e => trivial
  | statement effect next ih =>
    intro t ht
    obtain ⟨hown, hnext⟩ := h t ht
    exact ⟨hown, ih t hnext (hstable t _ hown (hstable s t ht hk))⟩

/-- One program after another. -/
theorem Cooperates.bind (hw : Composes within) {post : β → σ → Prop}
    (h : Cooperates within (fun a t => Cooperates within post (f a) t) p s) :
    Cooperates within post (p >>= f) s := by
  induction p generalizing s with
  | done result =>
    cases result with
    | ok a => exact h s (hw.refl s)
    | error e => trivial
  | statement effect next ih => exact fun t ht => ⟨(h t ht).1, ih t (h t ht).2⟩

theorem cooperates_lift {x : Except ε α} (h : ∀ a, x = .ok a → ∀ t, within s t → post a t) :
    Cooperates within post (lift x) s := by
  cases x with
  | ok a => exact h a rfl
  | error e => trivial

/-- A statement that stays within the relation when it succeeds. -/
theorem cooperates_query (hw : Composes within) {g : σ → Except ε (α × σ)}
    (h : ∀ t, within s t → ∀ a u, g t = .ok (a, u) →
      within t u ∧ ∀ v, within u v → post a v) :
    Cooperates within post (query g) s := by
  intro t ht
  have hq := h t ht
  dsimp only
  cases hg : g t with
  | error e => exact ⟨hw.refl t, trivial⟩
  | ok result => exact hq result.1 result.2 hg

theorem cooperates_select (hw : Composes within) {g : σ → Except ε α}
    (h : ∀ t, within s t → ∀ a, g t = .ok a → ∀ v, within t v → post a v) :
    Cooperates within post (select g) s := by
  apply cooperates_query hw
  intro t ht a u hg
  cases hgt : g t with
  | error e => rw [hgt] at hg; cases hg
  | ok b =>
    rw [hgt] at hg
    cases hg
    exact ⟨hw.refl t, h t ht _ hgt⟩

end Rules

section Parts

variable (get : τ → σ) (set : σ → τ → τ)

theorem focus_bind (p : Program σ ε α) (f : α → Program σ ε β) :
    (p >>= f).focus get set = p.focus get set >>= fun a => (f a).focus get set := by
  induction p with
  | done result =>
    cases result with
    | ok a => rfl
    | error e => rfl
  | statement effect next ih =>
    simp only [statement_bind, focus]
    exact congrArg _ (funext fun t => ih (get t))

variable {get set} {within : τ → τ → Prop} {post : α → τ → Prop}

/-- A statement on a part of the state. -/
theorem cooperates_focus_query (hw : Composes within) (hset : ∀ t, set (get t) t = t)
    {g : σ → Except ε (α × σ)}
    (h : ∀ t, within s t → ∀ a u, g (get t) = .ok (a, u) →
      within t (set u t) ∧ ∀ v, within (set u t) v → post a v) :
    Cooperates within post ((query g).focus get set) s := by
  intro t ht
  have hq := h t ht
  dsimp only
  cases hg : g (get t) with
  | error e =>
    refine ⟨?_, trivial⟩
    rw [hset]
    exact hw.refl t
  | ok result => exact hq result.1 result.2 hg

theorem cooperates_focus_select (hw : Composes within) (hset : ∀ t, set (get t) t = t)
    {g : σ → Except ε α}
    (h : ∀ t, within s t → ∀ a, g (get t) = .ok a → ∀ v, within t v → post a v) :
    Cooperates within post ((select g).focus get set) s := by
  apply cooperates_focus_query hw hset
  intro t ht a u hg
  cases hgt : g (get t) with
  | error e => rw [hgt] at hg; cases hg
  | ok b =>
    rw [hgt] at hg
    cases hg
    rw [hset]
    exact ⟨hw.refl t, h t ht _ hgt⟩

end Parts

/-- Programs that share a state. -/
structure Pool (σ ε α : Type) where
  state : σ
  programs : List (Program σ ε α)

/-- What comes next: a statement of a program, or an action of somebody else. -/
inductive Turn (ω : Type) where
  | program (i : Nat)
  | other (action : ω)

namespace Pool

def step (act : ω → σ → σ) (pool : Pool σ ε α) : Turn ω → Pool σ ε α
  | .program i =>
    match pool.programs[i]? with
    | none => pool
    | some program =>
      { state := (program.step pool.state).2
        programs := pool.programs.set i (program.step pool.state).1 }
  | .other action => { pool with state := act action pool.state }

/-- Every program of a pool cooperates, each with its own postcondition. -/
def Cooperative (within : σ → σ → Prop) (post : Nat → α → σ → Prop) (pool : Pool σ ε α) : Prop :=
  ∀ i program, pool.programs[i]? = some program →
    Cooperates within (post i) program pool.state

variable {within : σ → σ → Prop} {post : Nat → α → σ → Prop} {pool : Pool σ ε α}
  {act : ω → σ → σ}

theorem Cooperative.step (hw : Composes within) (hact : ∀ action s, within s (act action s))
    (h : pool.Cooperative within post) (turn : Turn ω) :
    within pool.state (pool.step act turn).state ∧
      (pool.step act turn).Cooperative within post := by
  cases turn with
  | other action =>
    refine ⟨hact action pool.state, fun i program hp => ?_⟩
    exact (h i program hp).disturbed hw (hact action pool.state)
  | program i =>
    rw [Pool.step]
    cases hi : pool.programs[i]? with
    | none => exact ⟨hw.refl _, h⟩
    | some program =>
      obtain ⟨hstate, hnext⟩ := (h i program hi).step hw
      refine ⟨hstate, fun j other hj => ?_⟩
      rw [List.getElem?_set] at hj
      split at hj
      · next hij =>
        split at hj
        · cases hj
          exact hij ▸ hnext
        · cases hj
      · exact (h j other hj).disturbed hw hstate

/-- However the statements of cooperating programs interleave, the state stays within the relation
and every program keeps its postcondition. -/
theorem Cooperative.run (hw : Composes within) (hact : ∀ action s, within s (act action s))
    (h : pool.Cooperative within post) (turns : List (Turn ω)) :
    within pool.state (turns.foldl (Pool.step act) pool).state ∧
      (turns.foldl (Pool.step act) pool).Cooperative within post := by
  induction turns generalizing pool with
  | nil => exact ⟨hw.refl _, h⟩
  | cons turn rest ih =>
    obtain ⟨hstate, hstep⟩ := h.step hw hact turn
    obtain ⟨hrest, hrun⟩ := ih hstep
    exact ⟨hw.trans _ _ _ hstate hrest, hrun⟩

end Pool

-- from here on by its rules
attribute [irreducible] Cooperates

end Statements

import Mathlib.Logic.Basic

namespace Statements
set_option autoImplicit true

/-- A program that shares its state with others: it issues one atomic statement after the other, and
what it does next may depend on what the statement found. -/
inductive Program (σ ε α : Type) where
  | done (result : Except ε α)
  | statement (effect : σ → σ) (next : σ → Program σ ε α)

namespace Program

def bind : Program σ ε α → (α → Program σ ε β) → Program σ ε β
  | done (.ok a), f => f a
  | done (.error e), _ => done (.error e)
  | statement effect next, f => statement effect fun s => (next s).bind f

instance : Monad (Program σ ε) where
  pure a := done (.ok a)
  bind := bind

/-- A computation between two statements. -/
def lift (x : Except ε α) : Program σ ε α := done x

instance : MonadLift (Except ε) (Program σ ε) := ⟨lift⟩

/-- A statement; one that fails changes nothing. -/
def query (f : σ → Except ε (α × σ)) : Program σ ε α :=
  statement
    (fun s => match f s with
      | .ok (_, t) => t
      | .error _ => s)
    (fun s => done (Prod.fst <$> f s))

/-- A statement that only reads. -/
def select (f : σ → Except ε α) : Program σ ε α := query fun s => (·, s) <$> f s

def forEach (items : List α) (body : α → Program σ ε Unit) : Program σ ε Unit :=
  match items with
  | [] => pure ()
  | item :: rest => do
    body item
    forEach rest body

/-- The program with nothing else in between. -/
def run : Program σ ε α → σ → Except ε α × σ
  | done result, s => (result, s)
  | statement effect next, s => (next s).run (effect s)

/-- The next statement. -/
def step : Program σ ε α → σ → Program σ ε α × σ
  | done result, s => (done result, s)
  | statement effect next, s => (next s, effect s)

end Program

open Program

section Equations

variable (f : α → Program σ ε β)

@[simp] theorem pure_eq (a : α) : (pure a : Program σ ε α) = done (.ok a) := rfl

@[simp] theorem done_ok_bind (a : α) : (done (.ok a) >>= f) = f a := rfl

@[simp] theorem done_error_bind (e : ε) : (done (.error e) >>= f) = done (.error e) := rfl

@[simp] theorem statement_bind (effect : σ → σ) (next : σ → Program σ ε α) :
    (statement effect next >>= f) = statement effect fun s => next s >>= f := rfl

theorem bind_assoc (p : Program σ ε α) (f : α → Program σ ε β) (g : β → Program σ ε γ) :
    ((p >>= f) >>= g) = p >>= fun a => f a >>= g := by
  induction p with
  | done result =>
    cases result with
    | ok a => rfl
    | error e => rfl
  | statement effect next ih =>
    simp only [statement_bind]
    exact congrArg _ (funext ih)

end Equations

section Runs

variable {p : Program σ ε α} {f : α → Program σ ε β}

@[simp] theorem run_done (x : Except ε α) (s : σ) : (done x).run s = (x, s) := rfl

@[simp] theorem run_lift (x : Except ε α) (s : σ) : (lift x : Program σ ε α).run s = (x, s) := rfl

theorem run_bind (p : Program σ ε α) (f : α → Program σ ε β) (s : σ) :
    (p >>= f).run s = match p.run s with
      | (.ok a, t) => (f a).run t
      | (.error e, t) => (.error e, t) := by
  induction p generalizing s with
  | done result =>
    cases result with
    | ok a => rfl
    | error e => rfl
  | statement effect next ih => exact ih s (effect s)

theorem run_query (g : σ → Except ε (α × σ)) (s : σ) :
    (query g).run s = match g s with
      | .ok (a, t) => (.ok a, t)
      | .error e => (.error e, s) := by
  simp only [query, run]
  cases g s with
  | ok result => rfl
  | error e => rfl

theorem run_query_ok {g : σ → Except ε (α × σ)} :
    (query g).run s = (.ok a, t) ↔ g s = .ok (a, t) := by
  rw [run_query]
  cases g s with
  | ok result =>
    constructor
    · intro h
      cases h
      rfl
    · intro h
      cases h
      rfl
  | error e =>
    constructor
    · intro h
      cases h
    · intro h
      cases h

@[simp] theorem run_select (g : σ → Except ε α) (s : σ) : (select g).run s = (g s, s) := by
  rw [select, run_query]
  cases g s with
  | ok a => rfl
  | error e => rfl

theorem run_bind_ok : (p >>= f).run s = (.ok b, u) ↔
    ∃ a t, p.run s = (.ok a, t) ∧ (f a).run t = (.ok b, u) := by
  rw [run_bind]
  rcases hp : p.run s with ⟨a | a, t⟩
  · simp
  · constructor
    · intro h
      exact ⟨a, t, rfl, h⟩
    · rintro ⟨a', t', he, h⟩
      cases he
      exact h

theorem run_select_bind (g : σ → Except ε α) (f : α → Program σ ε β) (s : σ) :
    (select g >>= f).run s = match g s with
      | .ok a => (f a).run s
      | .error e => (.error e, s) := by
  rw [run_bind, run_select]
  cases g s with
  | ok a => rfl
  | error e => rfl

theorem run_lift_bind (x : Except ε α) (f : α → Program σ ε β) (s : σ) :
    (lift x >>= f).run s = match x with
      | .ok a => (f a).run s
      | .error e => (.error e, s) := by
  cases x with
  | ok a => rfl
  | error e => rfl

theorem run_lift_bind_ok {x : Except ε α} : (lift x >>= f).run s = (.ok b, u) ↔
    ∃ a, x = .ok a ∧ (f a).run s = (.ok b, u) := by
  cases x with
  | ok a => simp [lift]
  | error e => simp [lift]

theorem run_select_bind_ok {g : σ → Except ε α} : (select g >>= f).run s = (.ok b, u) ↔
    ∃ a, g s = .ok a ∧ (f a).run s = (.ok b, u) := by
  rw [run_select_bind]
  cases g s with
  | ok a => simp
  | error e => simp

/-- A run that fails leaves the state as it was. -/
def AllOrNothing (p : Program σ ε α) : Prop := ∀ s e t, p.run s = (.error e, t) → t = s

theorem AllOrNothing.done (x : Except ε α) : AllOrNothing (.done x : Program σ ε α) := by
  intro s e t h
  cases h
  rfl

theorem AllOrNothing.select_bind {g : σ → Except ε α} (h : ∀ a, AllOrNothing (f a)) :
    AllOrNothing (select g >>= f) := by
  intro s e t he
  rw [run_select_bind] at he
  cases hg : g s with
  | ok a =>
    rw [hg] at he
    exact h a s e t he
  | error e' =>
    rw [hg] at he
    cases he
    rfl

theorem AllOrNothing.lift_bind {x : Except ε α} (h : ∀ a, x = .ok a → AllOrNothing (f a)) :
    AllOrNothing (lift x >>= f) := by
  cases x with
  | ok a => exact h a rfl
  | error e => exact .done _

/-- What follows a statement that wrote something must not fail. -/
theorem AllOrNothing.query_bind {g : σ → Except ε (α × σ)}
    (h : ∀ s a t, g s = .ok (a, t) → ∀ e u, (f a).run t = (.error e, u) → u = s) :
    AllOrNothing (query g >>= f) := by
  intro s e t he
  rw [run_bind, run_query] at he
  rcases hg : g s with e' | ⟨a, u⟩
  · rw [hg] at he
    cases he
    rfl
  · rw [hg] at he
    exact h s a u hg e t he

/-- What is made of the result does not fail. -/
theorem AllOrNothing.bind_pure (h : AllOrNothing p) (g : α → β) :
    AllOrNothing (p >>= fun a => .done (.ok (g a))) := by
  intro s e t he
  rw [run_bind] at he
  rcases hp : p.run s with ⟨a | a, u⟩
  · rw [hp] at he
    cases he
    exact h s _ _ hp
  · rw [hp] at he
    cases he

end Runs

section Interleaving

variable {rely : Nat → σ → σ → Prop} {post : Nat → α → σ → Prop} {p : Program σ ε α}

/-- Whatever others do to the state between its statements, the `n`-th on, within what may be relied
on, the program ends with the postcondition or with an error. -/
def Ensures (rely : Nat → σ → σ → Prop) (post : Nat → α → σ → Prop) :
    Nat → Program σ ε α → σ → Prop
  | n, .done (.ok a), s => ∀ t, rely n s t → post n a t
  | _, .done (.error _), _ => True
  | n, .statement effect next, s =>
    ∀ t, rely n s t → Ensures rely post (n + 1) (next t) (effect t)

/-- Others take a step. -/
theorem Ensures.disturbed (htrans : ∀ n s t u, rely n s t → rely n t u → rely n s u)
    (h : Ensures rely post n p s) (hr : rely n s t) : Ensures rely post n p t := by
  match p, h with
  | .done (.ok a), h => exact fun u hu => h u (htrans n s t u hr hu)
  | .done (.error e), _ => trivial
  | .statement effect next, h => exact fun u hu => h u (htrans n s t u hr hu)

/-- The program takes a step. -/
theorem Ensures.stepped (hrefl : ∀ n s, rely n s s) {effect : σ → σ} {next : σ → Program σ ε α}
    (h : Ensures rely post n (.statement effect next) s) :
    Ensures rely post (n + 1) (next s) (effect s) :=
  h s (hrefl n s)

theorem Ensures.mono {post' : Nat → α → σ → Prop}
    (h : Ensures rely post n p s) (hp : ∀ m a t, n ≤ m → post m a t → post' m a t) :
    Ensures rely post' n p s := by
  induction p generalizing n s with
  | done result =>
    cases result with
    | ok a => exact fun t ht => hp n a t (Nat.le_refl n) (h t ht)
    | error e => trivial
  | statement effect next ih =>
    intro t ht
    apply ih t (h t ht)
    intro m a u hm
    exact hp m a u (Nat.le_of_succ_le hm)

/-- One program after another. -/
theorem Ensures.bind (hrefl : ∀ n s, rely n s s) {f : α → Program σ ε β}
    {post : Nat → β → σ → Prop}
    (h : Ensures rely (fun m a t => Ensures rely post m (f a) t) n p s) :
    Ensures rely post n (p >>= f) s := by
  induction p generalizing n s with
  | done result =>
    cases result with
    | ok a => exact h s (hrefl n s)
    | error e => trivial
  | statement effect next ih => exact fun t ht => ih t (h t ht)

/-- What follows a program of which nothing is asked. -/
theorem Ensures.after {f : α → Program σ ε β} {post : Nat → β → σ → Prop}
    (h : ∀ m a t, Ensures rely post m (f a) t) : Ensures rely post n (p >>= f) s := by
  induction p generalizing n s with
  | done result =>
    cases result with
    | ok a => exact h n a s
    | error e => trivial
  | statement effect next ih => exact fun t _ => ih t

theorem ensures_lift {x : Except ε α} (h : ∀ a, x = .ok a → ∀ t, rely n s t → post n a t) :
    Ensures rely post n (lift x) s := by
  cases x with
  | ok a => exact h a rfl
  | error e => trivial

theorem Ensures.lift_bind (hrefl : ∀ n s, rely n s s) {x : Except ε β} {f : β → Program σ ε α}
    (h : ∀ b, x = .ok b → ∀ t, rely n s t → Ensures rely post n (f b) t) :
    Ensures rely post n (lift x >>= f) s :=
  Ensures.bind hrefl (ensures_lift h)

theorem ensures_query {g : σ → Except ε (α × σ)}
    (h : ∀ t, rely n s t → ∀ a u, g t = .ok (a, u) → ∀ v, rely (n + 1) u v → post (n + 1) a v) :
    Ensures rely post n (query g) s := by
  intro t ht
  have hq := h t ht
  dsimp only
  cases hg : g t with
  | error e => trivial
  | ok result => exact hq result.1 result.2 hg

theorem ensures_select {g : σ → Except ε α}
    (h : ∀ t, rely n s t → ∀ a, g t = .ok a → ∀ v, rely (n + 1) t v → post (n + 1) a v) :
    Ensures rely post n (select g) s := by
  apply ensures_query
  intro t ht a u hg
  cases hgt : g t with
  | error e => rw [hgt] at hg; cases hg
  | ok b =>
    rw [hgt] at hg
    cases hg
    exact h t ht _ hgt

theorem ensures_ok : Ensures rely post n (done (.ok a) : Program σ ε α) s ↔
    ∀ t, rely n s t → post n a t := Iff.rfl

theorem ensures_error (e : ε) : Ensures rely post n (done (.error e)) s := trivial

/-- Every statement changes the state within the given relation. -/
def Changes (within : σ → σ → Prop) : Program σ ε α → Prop
  | .done _ => True
  | .statement effect next => ∀ s, within s (effect s) ∧ Changes within (next s)

variable {within : σ → σ → Prop}

theorem changes_done (x : Except ε α) : Changes within (done x) := trivial

theorem changes_statement {effect : σ → σ} {next : σ → Program σ ε α} :
    Changes within (.statement effect next) ↔
      ∀ s, within s (effect s) ∧ Changes within (next s) := Iff.rfl

theorem Changes.bind {f : α → Program σ ε β} (hp : Changes within p)
    (hf : ∀ a, Changes within (f a)) : Changes within (p >>= f) := by
  induction p with
  | done result =>
    cases result with
    | ok a => exact hf a
    | error e => trivial
  | statement effect next ih => exact fun s => ⟨(hp s).1, ih s (hp s).2⟩

theorem Changes.lift_bind {x : Except ε α} {f : α → Program σ ε β}
    (h : ∀ a, Changes within (f a)) : Changes within (lift x >>= f) :=
  (changes_done x).bind h

theorem Changes.step (hrefl : ∀ s, within s s) (h : Changes within p) (s : σ) :
    within s (p.step s).2 ∧ Changes within (p.step s).1 := by
  cases p with
  | done result => exact ⟨hrefl s, h⟩
  | statement effect next => exact h s

theorem Changes.query {g : σ → Except ε (α × σ)} (hrefl : ∀ s, within s s)
    (h : ∀ s a t, g s = .ok (a, t) → within s t) : Changes within (query g) := by
  intro s
  refine ⟨?_, trivial⟩
  dsimp only
  cases hg : g s with
  | error e => exact hrefl s
  | ok result => exact h s result.1 result.2 hg

theorem Changes.select {g : σ → Except ε α} (hrefl : ∀ s, within s s) :
    Changes within (select g) := by
  apply Changes.query hrefl
  intro s a t hg
  cases hgs : g s with
  | error e => rw [hgs] at hg; cases hg
  | ok b =>
    rw [hgs] at hg
    cases hg
    exact hrefl s

theorem Changes.forEach {items : List β} {body : β → Program σ ε Unit}
    (h : ∀ item ∈ items, Changes within (body item)) : Changes within (forEach items body) := by
  induction items with
  | nil => trivial
  | cons item rest ih =>
    exact (h item List.mem_cons_self).bind fun _ =>
      ih fun other ho => h other (List.mem_cons_of_mem item ho)

/-- An assertion that neither the program's statements nor the others break. -/
theorem Changes.ensures {inv : σ → Prop} (h : Changes within p) (hi : inv s)
    (hown : ∀ s t, within s t → inv s → inv t)
    (hothers : ∀ m s t, n ≤ m → rely m s t → inv s → inv t) :
    Ensures rely (fun _ _ t => inv t) n p s := by
  induction p generalizing n s with
  | done result =>
    cases result with
    | ok a => exact fun t ht => hothers n s t (Nat.le_refl n) ht hi
    | error e => trivial
  | statement effect next ih =>
    intro t ht
    have hit := hown t (effect t) (h t).1 (hothers n s t (Nat.le_refl n) ht hi)
    exact ih t (h t).2 hit fun m s u hm => hothers m s u (Nat.le_of_succ_le hm)

/-- An assertion that neither the items nor the others break, and the number of statements when
every item takes one. -/
theorem ensures_forEach (hrefl : ∀ n s, rely n s s) {inv : σ → Prop} {items : List β}
    {body : β → Program σ ε Unit} (hothers : ∀ n s t, rely n s t → inv s → inv t)
    (h : ∀ item ∈ items, ∀ n s, inv s →
      Ensures rely (fun m _ t => m = n + 1 ∧ inv t) n (body item) s) (hi : inv s) :
    Ensures rely (fun m _ t => m = n + items.length ∧ inv t) n (forEach items body) s := by
  induction items generalizing n s with
  | nil => exact fun t ht => ⟨rfl, hothers n s t ht hi⟩
  | cons item rest ih =>
    refine Ensures.bind hrefl ((h item List.mem_cons_self n s hi).mono ?_)
    rintro _ _ t - ⟨rfl, ht⟩
    refine (ih (fun other ho => h other (List.mem_cons_of_mem item ho)) ht).mono ?_
    rintro _ _ u - ⟨rfl, hu⟩
    refine ⟨?_, hu⟩
    rw [List.length_cons, Nat.add_assoc, Nat.add_comm 1]

end Interleaving

-- a program is taken apart by these lemmas, not by evaluating it
attribute [irreducible] Ensures Changes

end Statements

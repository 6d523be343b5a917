import Mathlib.Data.List.Basic
import Mathlib.Data.List.Infix

namespace Frames
set_option autoImplicit true

/-- What is observed of a state: the values of its named cells and a log. -/
structure View (σ κ β ω : Type) where
  get : σ → κ → β
  log : σ → List ω

/-- The log grows and the cells that are not owned keep their values. -/
structure Frame (V : View σ κ β ω) (owned : List κ) (s t : σ) : Prop where
  log : V.log s <+: V.log t
  get : ∀ k, k ∉ owned → V.get t k = V.get s k

/-- The frame of a program that may fail. -/
def Within (V : View σ κ β ω) (owned : List κ) (s : σ) (x : Except ε σ) : Prop :=
  ∀ t, x = .ok t → Frame V owned s t

variable {V : View σ κ β ω} {owned : List κ}

theorem Frame.refl (s : σ) : Frame V owned s s := ⟨List.prefix_refl _, fun _ _ => rfl⟩

theorem Frame.trans (h : Frame V owned s t) (h' : Frame V owned t u) : Frame V owned s u := by
  refine ⟨h.log.trans h'.log, ?_⟩
  intro k hk
  rw [h'.get k hk, h.get k hk]

theorem Frame.mono {wider : List κ} (h : Frame V owned s t) (hs : owned ⊆ wider) :
    Frame V wider s t := by
  refine ⟨h.log, ?_⟩
  intro k hk
  exact h.get k fun hm => hk (hs hm)

/-- A log that ends empty was empty before. -/
theorem Frame.quiet (h : Frame V owned s t) (hq : V.log t = []) : V.log s = [] :=
  List.prefix_nil.mp (hq ▸ h.log)

theorem Within.pure (h : Frame V owned s t) : Within V owned s (Pure.pure t : Except ε σ) := by
  intro u hu
  cases hu
  exact h

theorem Within.throw (e : ε) : Within V owned s (MonadExcept.throw e : Except ε σ) := by
  intro u hu
  cases hu

/-- A computation that does not touch the state. -/
theorem Within.bind {x : Except ε α} {f : α → Except ε σ}
    (h : ∀ a, x = .ok a → Within V owned s (f a)) : Within V owned s (x >>= f) := by
  intro u hu
  cases hx : x with
  | error e => rw [hx] at hu; cases hu
  | ok a => rw [hx] at hu; exact h a hx u hu

/-- One program after another. -/
theorem Within.seq {x : Except ε σ} {f : σ → Except ε σ} (hx : Within V owned s x)
    (hf : ∀ t, Within V owned t (f t)) : Within V owned s (x >>= f) := by
  apply Within.bind
  intro t ht u hu
  exact (hx t ht).trans (hf t u hu)

theorem Within.mono {wider : List κ} {x : Except ε σ} (h : Within V owned s x)
    (hs : owned ⊆ wider) : Within V wider s x :=
  fun t ht => (h t ht).mono hs

theorem Within.after {x : Except ε σ} (hs : Frame V owned s t) (h : Within V owned t x) :
    Within V owned s x :=
  fun u hu => hs.trans (h u hu)

theorem Within.foldlM {f : σ → α → Except ε σ} (items : List α)
    (h : ∀ t, ∀ a ∈ items, Within V owned t (f t a)) (s : σ) :
    Within V owned s (items.foldlM f s) := by
  induction items generalizing s with
  | nil => exact Within.pure (Frame.refl s)
  | cons a rest ih =>
    rw [List.foldlM_cons]
    apply Within.seq (h s a List.mem_cons_self)
    intro t
    exact ih (fun t b hb => h t b (List.mem_cons_of_mem a hb)) t

/-- In a loop that ends with an empty log, every round starts and ends with one. -/
theorem Within.foldlM_quiet {f : σ → α → Except ε σ} {items : List α}
    (h : ∀ t, ∀ a ∈ items, Within V owned t (f t a)) (hr : items.foldlM f s = .ok u)
    (hq : V.log u = []) (ha : a ∈ items) :
    ∃ t t', Frame V owned s t ∧ f t a = .ok t' ∧ V.log t' = [] ∧ Frame V owned t' u := by
  induction items generalizing s with
  | nil => cases ha
  | cons b rest ih =>
    have hrest : ∀ t, ∀ c ∈ rest, Within V owned t (f t c) :=
      fun t c hc => h t c (List.mem_cons_of_mem b hc)
    rw [List.foldlM_cons] at hr
    cases hb : f s b with
    | error e => rw [hb] at hr; cases hr
    | ok s' =>
      rw [hb] at hr
      have hs' : Frame V owned s' u := Within.foldlM rest hrest s' u hr
      rcases List.mem_cons.mp ha with rfl | ha
      · exact ⟨s, s', Frame.refl s, hb, hs'.quiet hq, hs'⟩
      · obtain ⟨t, t', ht, he, ht', hu⟩ := ih hrest hr ha
        exact ⟨t, t', (h s b List.mem_cons_self s' hb).trans ht, he, ht', hu⟩

/-- A program together with the cells it may change. -/
structure Block (V : View σ κ β ω) (ε : Type) where
  owned : List κ
  run : σ → Except ε σ
  frame : ∀ s, Within V owned s (run s)

/-- Programs one after the other. -/
def pipeline (blocks : List (σ → Except ε σ)) (s : σ) : Except ε σ :=
  blocks.foldlM (fun s block => block s) s

def ownedBy (blocks : List (Block V ε)) : List κ := blocks.flatMap Block.owned

theorem pipeline_frame (blocks : List (Block V ε)) (s : σ) :
    Within V (ownedBy blocks) s (pipeline (blocks.map Block.run) s) := by
  induction blocks generalizing s with
  | nil => exact Within.pure (Frame.refl s)
  | cons b rest ih =>
    have hb : b.owned ⊆ ownedBy (b :: rest) := List.subset_append_left _ _
    have hr : ownedBy rest ⊆ ownedBy (b :: rest) := List.subset_append_right _ _
    simp only [pipeline, List.map_cons, List.foldlM_cons]
    apply Within.seq ((b.frame s).mono hb)
    intro t
    exact (ih t).mono hr

theorem pipeline_cons {block : σ → Except ε σ} {rest : List (σ → Except ε σ)}
    (h : pipeline (block :: rest) s = .ok u) : ∃ t, block s = .ok t ∧ pipeline rest t = .ok u := by
  simp only [pipeline, List.foldlM_cons] at h
  cases hb : block s with
  | error e => rw [hb] at h; cases h
  | ok t => rw [hb] at h; exact ⟨t, rfl, h⟩

/-- The state before and after one block of a pipeline. -/
theorem pipeline_at {blocks : List (Block V ε)} (h : pipeline (blocks.map Block.run) s = .ok u)
    (n : Nat) (hn : n < blocks.length) :
    ∃ t t', Frame V (ownedBy (blocks.take n)) s t ∧ blocks[n].run t = .ok t' ∧
      Frame V (ownedBy (blocks.drop (n + 1))) t' u := by
  induction blocks generalizing s n with
  | nil => exact absurd hn (Nat.not_lt_zero n)
  | cons b rest ih =>
    obtain ⟨t, hb, hr⟩ := pipeline_cons h
    cases n with
    | zero => exact ⟨s, t, Frame.refl s, hb, pipeline_frame rest t u hr⟩
    | succ n =>
      obtain ⟨v, v', hv, he, hu⟩ := ih hr n (Nat.lt_of_succ_lt_succ hn)
      have ht : Frame V (ownedBy ((b :: rest).take (n + 1))) s t :=
        (b.frame s t hb).mono (List.subset_append_left _ _)
      exact ⟨v, v', ht.trans (hv.mono (List.subset_append_right _ _)), he, hu⟩

/-- A program that ends without an error. -/
def Returns (x : Except ε α) : Prop := ∃ a, x = .ok a

namespace Returns

theorem pure (a : α) : Returns (Pure.pure a : Except ε α) := ⟨a, rfl⟩

theorem of_isOk {x : Except ε α} (h : x.isOk = true) : Returns x := by
  cases x with
  | error e => cases h
  | ok a => exact ⟨a, rfl⟩

theorem bind {x : Except ε α} {f : α → Except ε β} (hx : Returns x)
    (hf : ∀ a, x = .ok a → Returns (f a)) : Returns (x >>= f) := by
  obtain ⟨a, ha⟩ := hx
  obtain ⟨b, hb⟩ := hf a ha
  exact ⟨b, by rw [ha]; exact hb⟩

theorem map {x : Except ε α} (f : α → β) (hx : Returns x) : Returns (f <$> x) := by
  obtain ⟨a, ha⟩ := hx
  exact ⟨f a, by rw [ha]; rfl⟩

theorem ite {c : Prop} [Decidable c] {x y : Except ε α} (hx : c → Returns x)
    (hy : ¬c → Returns y) : Returns (if c then x else y) := by
  split
  · next h => exact hx h
  · next h => exact hy h

/-- A program that may stop at once. -/
theorem early {c : Prop} [Decidable c] {a : α} {y : Except ε α} (hy : ¬c → Returns y) :
    Returns (if c then Pure.pure a else y) :=
  Returns.ite (fun _ => Returns.pure a) hy

/-- A program that may do nothing. -/
theorem when {c : Prop} [Decidable c] {a : α} {x : Except ε α} (hx : c → Returns x) :
    Returns (if c then x else Pure.pure a) :=
  Returns.ite hx fun _ => Returns.pure a

theorem mapM {f : α → Except ε β} {items : List α} (h : ∀ a ∈ items, Returns (f a)) :
    Returns (items.mapM f) := by
  induction items with
  | nil => exact Returns.pure []
  | cons a rest ih =>
    rw [List.mapM_cons]
    apply Returns.bind (h a List.mem_cons_self)
    intro b _
    apply Returns.bind (ih fun a ha => h a (List.mem_cons_of_mem _ ha))
    intro bs _
    exact Returns.pure _

end Returns

theorem pipeline_returns {blocks : List (σ → Except ε σ)}
    (h : ∀ block ∈ blocks, ∀ s, Returns (block s)) (s : σ) : Returns (pipeline blocks s) := by
  induction blocks generalizing s with
  | nil => exact Returns.pure s
  | cons block rest ih =>
    simp only [pipeline, List.foldlM_cons]
    apply Returns.bind (h block List.mem_cons_self s)
    intro t _
    exact ih (fun b hb => h b (List.mem_cons_of_mem block hb)) t

/-- Whenever the second program ends in a good state, the first ends in a related one. -/
def Simulates (good : σ → Prop) (R : σ → σ → Prop) (x y : Except ε σ) : Prop :=
  ∀ t, y = .ok t → good t → ∃ s, x = .ok s ∧ R s t

/-- A program that ends in a good state only from a good state. -/
def Reflects (good : σ → Prop) (f : σ → Except ε σ) : Prop :=
  ∀ s t, f s = .ok t → good t → good s

section Simulation

variable {good : σ → Prop} {R : σ → σ → Prop}

theorem Simulates.pure (h : good t → R s t) :
    Simulates good R (Pure.pure s : Except ε σ) (Pure.pure t) := by
  intro u hu hg
  cases hu
  exact ⟨s, rfl, h hg⟩

/-- Both programs make the same computation first. -/
theorem Simulates.same {x : Except ε α} {f g : α → Except ε σ}
    (h : ∀ a, x = .ok a → Simulates good R (f a) (g a)) :
    Simulates good R (x >>= f) (x >>= g) := by
  intro u hu hg
  cases hx : x with
  | error e => rw [hx] at hu; cases hu
  | ok a => rw [hx] at hu; exact h a hx u hu hg

theorem Simulates.seq {x y : Except ε σ} {f g : σ → Except ε σ} (hx : Simulates good R x y)
    (hg : Reflects good g) (hf : ∀ s t, R s t → Simulates good R (f s) (g t)) :
    Simulates good R (x >>= f) (y >>= g) := by
  intro u hu hgood
  cases hy : y with
  | error e => rw [hy] at hu; cases hu
  | ok t =>
    rw [hy] at hu
    obtain ⟨s, hs, hR⟩ := hx t hy (hg t u hu hgood)
    rw [hs]
    exact hf s t hR u hu hgood

theorem Reflects.seq {f g : σ → Except ε σ} (hf : Reflects good f) (hg : Reflects good g) :
    Reflects good fun s => f s >>= g := by
  intro s u hu hgood
  cases hs : f s with
  | error e => simp only [hs] at hu; cases hu
  | ok t =>
    simp only [hs] at hu
    exact hf s t hs (hg t u hu hgood)

theorem pipeline_reflects {blocks : List (σ → Except ε σ)}
    (h : ∀ block ∈ blocks, Reflects good block) : Reflects good (pipeline blocks) := by
  induction blocks with
  | nil =>
    intro s t ht hgood
    cases ht
    exact hgood
  | cons block rest ih =>
    have hrest := ih fun b hb => h b (List.mem_cons_of_mem block hb)
    intro s u hu hgood
    obtain ⟨t, ht, hr⟩ := pipeline_cons hu
    exact h block List.mem_cons_self s t ht (hrest t u hr hgood)

/-- Two pipelines, the blocks of one simulated by the blocks of the other. -/
theorem pipeline_simulates {lax strict : List (σ → Except ε σ)}
    (h : List.Forall₂ (fun f g => ∀ s t, R s t → Simulates good R (f s) (g t)) lax strict)
    (hg : ∀ g ∈ strict, Reflects good g) (hR : R s t) :
    Simulates good R (pipeline lax s) (pipeline strict t) := by
  induction h generalizing s t with
  | nil => exact Simulates.pure fun _ => hR
  | cons hfg _ ih =>
    have hrest := fun b hb => hg b (List.mem_cons_of_mem _ hb)
    simp only [pipeline, List.foldlM_cons]
    exact (hfg s t hR).seq (pipeline_reflects hrest) fun s t hR => ih hrest hR

end Simulation

/-- The state after a list of actions. -/
def run (step : σ → α → σ) (s : σ) (actions : List α) : σ := actions.foldl step s

/-- Every action meets the guard in the state in which it is taken. -/
def Guarded (step : σ → α → σ) (guard : σ → α → Prop) : σ → List α → Prop
  | _, [] => True
  | s, action :: rest => guard s action ∧ Guarded step guard (step s action) rest

/-- What every guarded step keeps holds after a guarded run. -/
theorem run_guarded {step : σ → α → σ} {guard : σ → α → Prop} {I : σ → Prop}
    (hstep : ∀ s action, guard s action → I s → I (step s action))
    (hg : Guarded step guard s actions) (hi : I s) : I (run step s actions) := by
  induction actions generalizing s with
  | nil => exact hi
  | cons action rest ih =>
    obtain ⟨ha, hr⟩ := hg
    exact ih hr (hstep s action ha hi)

theorem run_append (step : σ → α → σ) (s : σ) (before after : List α) :
    run step s (before ++ after) = run step (run step s before) after :=
  List.foldl_append

theorem Guarded.append {step : σ → α → σ} {guard : σ → α → Prop}
    (h : Guarded step guard s (before ++ after)) :
    Guarded step guard s before ∧ Guarded step guard (run step s before) after := by
  induction before generalizing s with
  | nil => exact ⟨True.intro, h⟩
  | cons action rest ih =>
    obtain ⟨ha, hr⟩ := h
    obtain ⟨hb, he⟩ := ih hr
    exact ⟨⟨ha, hb⟩, he⟩

/-- A property of every action joins the guard. -/
theorem Guarded.with_all {step : σ → α → σ} {guard : σ → α → Prop} {P : α → Prop}
    (h : Guarded step guard s actions) (hp : ∀ action ∈ actions, P action) :
    Guarded step (fun s action => P action ∧ guard s action) s actions := by
  induction actions generalizing s with
  | nil => exact True.intro
  | cons action rest ih =>
    obtain ⟨ha, hr⟩ := h
    exact ⟨⟨hp action List.mem_cons_self, ha⟩,
      ih hr fun b hb => hp b (List.mem_cons_of_mem action hb)⟩

theorem Guarded.trivial (step : σ → α → σ) (s : σ) (actions : List α) :
    Guarded step (fun _ _ => True) s actions := by
  induction actions generalizing s with
  | nil => exact True.intro
  | cons action rest ih => exact ⟨True.intro, ih (step s action)⟩

theorem run_invariant {step : σ → α → σ} {I : σ → Prop}
    (hstep : ∀ s action, I s → I (step s action)) (actions : List α) (hi : I s) :
    I (run step s actions) :=
  run_guarded (fun s action _ => hstep s action) (Guarded.trivial step s actions) hi

/-- Where a step reaches a good state exactly under its guard, the guarded runs are those that
reach good states only. -/
theorem guarded_iff {step : σ → α → σ} {guard : σ → α → Prop} {I good : σ → Prop}
    (hgood : ∀ s, I s → good s) (hstep : ∀ s action, guard s action → I s → I (step s action))
    (hback : ∀ s action, I s → good (step s action) → guard s action) (hi : I s) :
    (∀ before after, before ++ after = actions → good (run step s before)) ↔
      Guarded step guard s actions := by
  induction actions generalizing s with
  | nil =>
    refine ⟨fun _ => True.intro, ?_⟩
    intro _ before after he
    rw [List.append_eq_nil_iff.mp he |>.1]
    exact hgood s hi
  | cons action rest ih =>
    constructor
    · intro h
      have hg : guard s action := hback s action hi (h [action] rest rfl)
      refine ⟨hg, (ih (hstep s action hg hi)).mp ?_⟩
      intro before after he
      exact h (action :: before) after (congrArg (action :: ·) he)
    · rintro ⟨hg, hrest⟩ before after he
      cases before with
      | nil => exact hgood s hi
      | cons first before =>
        simp only [List.cons_append, List.cons.injEq] at he
        obtain ⟨rfl, he⟩ := he
        exact (ih (hstep s first hg hi)).mpr hrest before after he

end Frames

import Mathlib.Data.Set.Insert
import Mathlib.Order.Basic
import Mathlib.Data.List.Induction

namespace Chains
set_option autoImplicit true

/-- An entry of a hash chain: where it stands, its digest, and the digest it says comes before. -/
structure Link (κ δ : Type) where
  key : κ
  digest : δ
  previous : δ

/-- Each link names the digest of the one before it, the first the given one. -/
def ChainFrom : δ → List (Link κ δ) → Prop
  | _, [] => True
  | d, link :: rest => link.previous = d ∧ ChainFrom link.digest rest

/-- The digest at the end of a chain. -/
def lastDigest : δ → List (Link κ δ) → δ
  | d, [] => d
  | _, link :: rest => lastDigest link.digest rest

theorem chainFrom_append {links more : List (Link κ δ)} :
    ChainFrom d (links ++ more) ↔ ChainFrom d links ∧ ChainFrom (lastDigest d links) more := by
  induction links generalizing d with
  | nil => simp [ChainFrom, lastDigest]
  | cons link rest ih =>
    rw [List.cons_append, ChainFrom, ChainFrom, lastDigest, ih, and_assoc]

theorem lastDigest_append (links : List (Link κ δ)) (link : Link κ δ) :
    lastDigest d (links ++ [link]) = link.digest := by
  induction links generalizing d with
  | nil => rfl
  | cons first rest ih => exact ih

section Sets

variable [LinearOrder κ] {zero : δ} {links : Set (Link κ δ)}

/-- The last link below a key, if any, has the given digest. -/
def LastBelow (zero : δ) (links : Set (Link κ δ)) (k : κ) (d : δ) : Prop :=
  (∃ a ∈ links, a.key < k ∧ (∀ b ∈ links, b.key < k → b.key ≤ a.key) ∧ d = a.digest) ∨
    (∀ b ∈ links, ¬b.key < k) ∧ d = zero

/-- Every link names the digest of the last one below it. -/
def Linked (zero : δ) (links : Set (Link κ δ)) : Prop :=
  ∀ link ∈ links, LastBelow zero links link.key link.previous

theorem linked_empty : Linked zero (∅ : Set (Link κ δ)) := fun _ h => h.elim

/-- What stands at a key or above it does not matter below. -/
theorem LastBelow.insert {link : Link κ δ} (h : LastBelow zero links k d) (hk : k ≤ link.key) :
    LastBelow zero (insert link links) k d := by
  rcases h with ⟨a, ha, hlt, hmax, hd⟩ | ⟨hnone, hd⟩
  · refine .inl ⟨a, .inr ha, hlt, ?_, hd⟩
    rintro b (rfl | hb) hb'
    · exact absurd hb' hk.not_gt
    · exact hmax b hb hb'
  · refine .inr ⟨?_, hd⟩
    rintro b (rfl | hb)
    · exact hk.not_gt
    · exact hnone b hb

/-- A link between its neighbours: it names the one below, and the one above names it. -/
theorem Linked.insert {link : Link κ δ} (h : Linked zero links)
    (hbelow : LastBelow zero links link.key link.previous)
    (habove : ∀ next ∈ links, link.key < next.key →
      (∀ b ∈ links, link.key < b.key → next.key ≤ b.key) → next.previous = link.digest)
    (hfresh : ∀ b ∈ links, b.key ≠ link.key) : Linked zero (insert link links) := by
  rintro b (rfl | hb)
  · exact hbelow.insert le_rfl
  rcases lt_or_gt_of_ne (hfresh b hb) with hlt | hgt
  · exact (h b hb).insert hlt.le
  -- the new link is the last one below `b`, unless another stands between them
  have hlast (hbetween : ∀ c ∈ links, c.key < b.key → ¬link.key < c.key) :
      LastBelow zero (Insert.insert link links) b.key b.previous := by
    refine .inl ⟨link, .inl rfl, hgt, ?_, ?_⟩
    · rintro c (rfl | hc) hcb
      · exact le_rfl
      · exact not_lt.mp (hbetween c hc hcb)
    · apply habove b hb hgt
      intro c hc hlc
      exact not_lt.mp fun hcb => hbetween c hc hcb hlc
  rcases h b hb with ⟨a, ha, hab, hmax, hd⟩ | ⟨hnone, -⟩
  · rcases lt_or_gt_of_ne (hfresh a ha) with hal | hla
    · apply hlast
      intro c hc hcb hlc
      exact absurd (hmax c hc hcb) (hal.trans hlc).not_ge
    · refine .inl ⟨a, .inr ha, hab, ?_, hd⟩
      rintro c (rfl | hc) hcb
      · exact hla.le
      · exact hmax c hc hcb
  · exact hlast fun c hc hcb => absurd hcb (hnone c hc)

/-- The links up to a key are linked among themselves. -/
theorem Linked.upTo (h : Linked zero links) (k : κ) :
    Linked zero {link | link ∈ links ∧ link.key ≤ k} := by
  rintro link ⟨hl, hk⟩
  rcases h link hl with ⟨a, ha, hlt, hmax, hd⟩ | ⟨hnone, hd⟩
  · exact .inl ⟨a, ⟨ha, hlt.le.trans hk⟩, hlt, fun b hb => hmax b hb.1, hd⟩
  · exact .inr ⟨fun b hb => hnone b hb.1, hd⟩

theorem LastBelow.unique (hk : Set.InjOn Link.key links) (h : LastBelow zero links k d)
    (h' : LastBelow zero links k d') : d = d' := by
  rcases h with ⟨a, ha, hlt, hmax, rfl⟩ | ⟨hnone, rfl⟩ <;>
    rcases h' with ⟨a', ha', hlt', hmax', rfl⟩ | ⟨hnone', rfl⟩
  · rw [hk ha ha' (le_antisymm (hmax' a ha hlt) (hmax a' ha' hlt'))]
  · exact absurd hlt (hnone' a ha)
  · exact absurd hlt' (hnone a' ha')
  · rfl

/-- The links of a linked set, in the order of their keys, are a chain. -/
theorem Linked.chainFrom {list : List (Link κ δ)} (h : Linked zero links)
    (hs : list.Pairwise fun a b => a.key < b.key) (hm : ∀ link, link ∈ list ↔ link ∈ links) :
    ChainFrom zero list := by
  induction list using List.reverseRecOn generalizing links with
  | nil => trivial
  | append_singleton rest link ih =>
    obtain ⟨hrest, -, hlast⟩ := List.pairwise_append.mp hs
    have hbelow : ∀ a ∈ rest, a.key < link.key := fun a ha => hlast a ha link (by simp)
    have hsub (a : Link κ δ) (ha : a ∈ rest) : a ∈ links := (hm a).mp (by simp [ha])
    have hcases (a : Link κ δ) (ha : a ∈ links) : a ∈ rest ∨ a = link := by
      simpa using (hm a).mpr ha
    -- the links before the last one are linked among themselves
    have hl : Linked zero {a | a ∈ rest} := by
      intro b hb
      rcases h b (hsub b hb) with ⟨a, ha, hab, hmax, hd⟩ | ⟨hnone, hd⟩
      · refine .inl ⟨a, ?_, hab, fun c hc => hmax c (hsub c hc), hd⟩
        rcases hcases a ha with ha | rfl
        · exact ha
        · exact absurd hab (hbelow b hb).not_gt
      · exact .inr ⟨fun c hc => hnone c (hsub c hc), hd⟩
    rw [chainFrom_append]
    refine ⟨ih hl hrest fun _ => Iff.rfl, ?_, trivial⟩
    -- the last one names the end of the chain before it
    rcases h link ((hm link).mp (by simp)) with ⟨a, ha, hab, hmax, hd⟩ | ⟨hnone, hd⟩
    · rcases List.eq_nil_or_concat rest with rfl | ⟨before, final, rfl⟩
      · rcases hcases a ha with hn | rfl
        · cases hn
        · exact absurd hab (lt_irrefl _)
      · rw [List.concat_eq_append] at hrest hbelow hsub hcases ⊢
        rw [lastDigest_append, hd]
        rcases hcases a ha with ha' | rfl
        · rcases List.mem_append.mp ha' with hb | hb
          · have hf := (List.pairwise_append.mp hrest).2.2 a hb final (by simp)
            have hle := hmax final (hsub final (by simp)) (hbelow final (by simp))
            exact absurd hf hle.not_gt
          · rw [List.mem_singleton.mp hb]
        · exact absurd hab (lt_irrefl _)
    · cases rest with
      | nil => exact hd
      | cons first rest =>
        exact absurd (hbelow first (by simp)) (hnone first (hsub first (by simp)))

end Sets

section Walks

/-- The digests on the way from one of them back to the stop, each followed by the one that it
names. -/
inductive Walk (previous : δ → δ) (stop : δ) : δ → List δ → Prop where
  | stop : Walk previous stop stop []
  | step (moving : d ≠ stop) (rest : Walk previous stop (previous d) digests) :
      Walk previous stop d (d :: digests)

variable {previous : δ → δ} {stop : δ}

theorem Walk.nil_iff (h : Walk previous stop d digests) : digests = [] ↔ d = stop := by
  cases h with
  | stop => simp
  | step moving _ => simp [moving]

theorem Walk.head (h : Walk previous stop d digests) (hd : d ≠ stop) : digests.head? = some d := by
  cases h with
  | stop => exact absurd rfl hd
  | step _ _ => rfl

/-- A digest starts one walk only. -/
theorem Walk.unique (h : Walk previous stop d digests) (h' : Walk previous stop d digests') :
    digests = digests' := by
  induction h generalizing digests' with
  | stop => exact (h'.nil_iff.mpr rfl).symm
  | step moving _ ih =>
    cases h' with
    | stop => exact absurd rfl moving
    | step _ rest => rw [ih rest]

/-- A walk depends on the digests that it passes only. -/
theorem Walk.congr {previous' : δ → δ} (h : Walk previous stop d digests)
    (hsame : ∀ d ∈ digests, previous' d = previous d) : Walk previous' stop d digests := by
  induction h with
  | stop => exact .stop
  | step moving _ ih =>
    refine .step moving ?_
    rw [hsame _ List.mem_cons_self]
    exact ih fun d hd => hsame d (List.mem_cons_of_mem _ hd)

end Walks

end Chains

import Mathlib

namespace StreamReading
set_option autoImplicit true

/-! Readers of an append-only stream that keep the id of the last entry that they took. -/

structure Entry (ι ν : Type) where
  id : ι
  values : ν

/-- A stream only ever grows by an entry with a larger id. -/
structure EntryStream (ι ν : Type) [LinearOrder ι] where
  entries : List (Entry ι ν)
  sorted : entries.Pairwise fun a b => a.id < b.id

variable {ι ν : Type} [LinearOrder ι] {s : EntryStream ι ν} {lastId : Option ι} {e : Entry ι ν}
  {P Q : Entry ι ν → Prop} {taken : List (Entry ι ν)}

/-- The id lies behind the last one that was taken, if any was. -/
def Beyond (lastId : Option ι) (id : ι) : Prop := ∀ last ∈ lastId, last < id

instance (lastId : Option ι) (id : ι) : Decidable (Beyond lastId id) :=
  match lastId with
  | none => .isTrue nofun
  | some last => decidable_of_iff (last < id) (by simp [Beyond])

namespace EntryStream

def beyond (s : EntryStream ι ν) (lastId : Option ι) : List (Entry ι ν) :=
  s.entries.filter fun e => Beyond lastId e.id

/-- At most `count` entries behind the last one, the earliest first; no count means all. -/
def read (s : EntryStream ι ν) (lastId : Option ι) (count : Nat) : List (Entry ι ν) :=
  if count = 0 then s.beyond lastId else (s.beyond lastId).take count

/-- An entry whose id is not the largest is refused. -/
def add (s : EntryStream ι ν) (e : Entry ι ν) : EntryStream ι ν :=
  if h : ∀ x ∈ s.entries, x.id < e.id then
    ⟨s.entries ++ [e], List.pairwise_append.mpr ⟨s.sorted, List.pairwise_singleton _ _, by
      simpa using h⟩⟩
  else s

/-- The entries that follow a position, in order and without a gap. -/
def Next (s : EntryStream ι ν) (lastId : Option ι) (entries : List (Entry ι ν)) : Prop :=
  entries <+: s.beyond lastId

/-- The position is that of an entry, and every entry up to it has the property. -/
structure Passed (s : EntryStream ι ν) (P : Entry ι ν → Prop) (lastId : Option ι) : Prop where
  known : ∀ last ∈ lastId, ∃ e ∈ s.entries, e.id = last
  upto : ∀ e ∈ s.entries, ¬Beyond lastId e.id → P e

theorem read_next (s : EntryStream ι ν) (lastId : Option ι) (count : Nat) :
    s.Next lastId (s.read lastId count) := by
  rw [read]
  split
  · exact List.prefix_refl _
  · exact List.take_prefix _ _

theorem add_entries (s : EntryStream ι ν) (e : Entry ι ν) :
    (s.add e).entries = s.entries ∨
      (∀ x ∈ s.entries, x.id < e.id) ∧ (s.add e).entries = s.entries ++ [e] := by
  rw [add]
  split
  · next h => exact .inr ⟨h, rfl⟩
  · exact .inl rfl

theorem Next.add (h : s.Next lastId taken) (e : Entry ι ν) : (s.add e).Next lastId taken := by
  rcases s.add_entries e with he | ⟨-, he⟩
  · rw [Next, beyond, he]
    exact h
  · rw [Next, beyond, he, List.filter_append]
    exact h.trans (List.prefix_append _ _)

theorem mem_beyond : x ∈ s.beyond lastId ↔ x ∈ s.entries ∧ Beyond lastId x.id := by
  rw [beyond, List.mem_filter, decide_eq_true_eq]

theorem beyond_sorted (s : EntryStream ι ν) (lastId : Option ι) :
    (s.beyond lastId).Pairwise fun a b => a.id < b.id :=
  s.sorted.sublist List.filter_sublist

/-- Behind an entry lies what followed it behind the position before. -/
theorem beyond_entry (h : s.beyond lastId = e :: rest) : s.beyond (some e.id) = rest := by
  have he : Beyond lastId e.id := (mem_beyond.mp (h ▸ List.mem_cons_self)).2
  have hsplit : s.beyond (some e.id) =
      (s.beyond lastId).filter fun x => Beyond (some e.id) x.id := by
    rw [beyond, beyond, List.filter_filter]
    refine List.filter_congr fun x _ => ?_
    rw [← Bool.decide_and, decide_eq_decide]
    refine ⟨fun hx => ⟨hx, fun last hl => ?_⟩, And.left⟩
    exact (he last hl).trans (hx e.id rfl)
  have hsorted := s.beyond_sorted lastId
  rw [h, List.pairwise_cons] at hsorted
  rw [hsplit, h, List.filter_cons_of_neg (by simp [Beyond]), List.filter_eq_self]
  intro x hx
  have hlt := hsorted.1 x hx
  simpa [Beyond] using hlt

/-- The entries up to the next one are those passed before and the next one itself. -/
theorem Next.upto (h : s.Next lastId (e :: taken)) (hx : x ∈ s.entries)
    (hid : ¬Beyond (some e.id) x.id) : ¬Beyond lastId x.id ∨ x = e := by
  obtain ⟨rest, hrest⟩ := h
  rw [List.cons_append] at hrest
  by_cases hb : Beyond lastId x.id
  · have hmem : x ∈ e :: (taken ++ rest) := hrest ▸ mem_beyond.mpr ⟨hx, hb⟩
    rcases List.mem_cons.mp hmem with hxe | hxr
    · exact .inr hxe
    · rw [← beyond_entry hrest.symm] at hxr
      exact absurd (mem_beyond.mp hxr).2 hid
  · exact .inl hb

/-- Taking the first of the next entries leaves the others next. -/
theorem Next.tail (h : s.Next lastId (e :: taken)) : s.Next (some e.id) taken := by
  obtain ⟨rest, hrest⟩ := h
  rw [List.cons_append] at hrest
  rw [Next, beyond_entry hrest.symm]
  exact List.prefix_append _ _

theorem Passed.none (s : EntryStream ι ν) (P : Entry ι ν → Prop) : s.Passed P none :=
  ⟨nofun, fun _ _ h => absurd nofun h⟩

theorem Passed.mono (h : s.Passed P lastId) (hpq : ∀ e, P e → Q e) : s.Passed Q lastId :=
  ⟨h.known, fun e he hb => hpq e (h.upto e he hb)⟩

/-- An entry that is added lies behind every position. -/
theorem Passed.add (h : s.Passed P lastId) (e : Entry ι ν) : (s.add e).Passed P lastId := by
  rcases s.add_entries e with he | ⟨hlt, he⟩
  · exact ⟨by rw [he]; exact h.known, by rw [he]; exact h.upto⟩
  · refine ⟨?_, ?_⟩
    · intro last hl
      obtain ⟨x, hx, hid⟩ := h.known last hl
      exact ⟨x, by rw [he]; exact List.mem_append_left _ hx, hid⟩
    · intro x hx hb
      rw [he] at hx
      rcases List.mem_append.mp hx with hx | hx
      · exact h.upto x hx hb
      · rw [List.mem_singleton] at hx
        subst hx
        refine absurd ?_ hb
        intro last hl
        obtain ⟨y, hy, rfl⟩ := h.known last hl
        exact hlt y hy

theorem Passed.advance (h : s.Passed P lastId) (hn : s.Next lastId (e :: taken)) (he : P e) :
    s.Passed P (some e.id) := by
  refine ⟨?_, ?_⟩
  · rintro last ⟨⟩
    have hmem : e ∈ s.beyond lastId := hn.subset List.mem_cons_self
    exact ⟨e, (List.mem_filter.mp hmem).1, rfl⟩
  · intro x hx hb
    rcases hn.upto hx hb with hpassed | rfl
    · exact h.upto x hx hpassed
    · exact he

end EntryStream

end StreamReading

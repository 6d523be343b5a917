import Mathlib.Data.List.Nodup

namespace Collections
set_option autoImplicit true

def setEntry [DecidableEq K] (k : K) (v : V) : List (K × V) → List (K × V)
  | [] => [(k, v)]
  | entry :: rest => if entry.1 = k then (k, v) :: rest else entry :: setEntry k v rest

def getEntry [DecidableEq K] (k : K) : List (K × V) → Option V
  | [] => none
  | entry :: rest => if entry.1 = k then some entry.2 else getEntry k rest

theorem keys_setEntry [DecidableEq K] (k : K) (v : V) (entries : List (K × V)) :
    (setEntry k v entries).map Prod.fst =
      if k ∈ entries.map Prod.fst then entries.map Prod.fst
      else entries.map Prod.fst ++ [k] := by
  induction entries with
  | nil => rfl
  | cons entry rest ih =>
    by_cases h : entry.1 = k
    · simp [setEntry, h]
    · have hk : k ≠ entry.1 := fun he => h he.symm
      simp only [setEntry, h, if_false, List.map_cons, ih, List.mem_cons, hk, false_or]
      split <;> simp

/-- A map whose entries keep the order in which their keys were first set. -/
structure OrderedMap (K V : Type) where
  entries : List (K × V)
  nodup : (entries.map Prod.fst).Nodup

namespace OrderedMap

theorem ext_entries {m n : OrderedMap K V} (h : m.entries = n.entries) : m = n := by
  cases m
  cases n
  cases h
  rfl

variable [DecidableEq K]

def empty : OrderedMap K V := ⟨[], List.nodup_nil⟩

def set (m : OrderedMap K V) (k : K) (v : V) : OrderedMap K V where
  entries := setEntry k v m.entries
  nodup := by
    rw [keys_setEntry]
    split
    · exact m.nodup
    · rename_i h
      apply List.Nodup.append m.nodup (List.nodup_singleton k)
      intro a ha hk
      rw [List.mem_singleton] at hk
      exact h (hk ▸ ha)

def ofEntries (entries : List (K × V)) : OrderedMap K V :=
  entries.foldl (fun m entry => m.set entry.1 entry.2) empty

def get? (m : OrderedMap K V) (k : K) : Option V := getEntry k m.entries

def has (m : OrderedMap K V) (k : K) : Bool := (m.get? k).isSome

def keys (m : OrderedMap K V) : List K := m.entries.map Prod.fst

def values (m : OrderedMap K V) : List V := m.entries.map Prod.snd

def mapValues (f : V → W) (m : OrderedMap K V) : OrderedMap K W where
  entries := m.entries.map fun entry => (entry.1, f entry.2)
  nodup := by
    rw [List.map_map]
    exact m.nodup

theorem getEntry_setEntry (k j : K) (v : V) (entries : List (K × V)) :
    getEntry j (setEntry k v entries) = if j = k then some v else getEntry j entries := by
  induction entries with
  | nil => simp [setEntry, getEntry, eq_comm]
  | cons entry rest ih =>
    by_cases hi : entry.1 = k
    · by_cases h : j = k
      · simp [setEntry, getEntry, hi, h]
      · have hk : k ≠ j := fun he => h he.symm
        simp [setEntry, getEntry, hi, h, hk]
    · by_cases h : entry.1 = j
      · have hj : j ≠ k := fun he => hi (h.trans he)
        simp [setEntry, getEntry, h, hj]
      · simp [setEntry, getEntry, hi, h, ih]

@[simp] theorem get?_empty (k : K) : (empty : OrderedMap K V).get? k = none := rfl

theorem get?_set (m : OrderedMap K V) (k j : K) (v : V) :
    (m.set k v).get? j = if j = k then some v else m.get? j :=
  getEntry_setEntry k j v m.entries

@[simp] theorem get?_set_self (m : OrderedMap K V) (k : K) (v : V) :
    (m.set k v).get? k = some v := by
  rw [get?_set, if_pos rfl]

theorem get?_set_of_ne (m : OrderedMap K V) (h : j ≠ k) (v : V) :
    (m.set k v).get? j = m.get? j := by
  rw [get?_set, if_neg h]

theorem mem_keys {m : OrderedMap K V} : k ∈ m.keys ↔ (m.get? k).isSome = true := by
  obtain ⟨entries, hn⟩ := m
  simp only [keys, get?]
  clear hn
  induction entries with
  | nil => simp [getEntry]
  | cons entry rest ih =>
    by_cases h : entry.1 = k
    · simp [getEntry, h]
    · have hk : k ≠ entry.1 := fun he => h he.symm
      simp only [List.map_cons, List.mem_cons, hk, false_or, ih, getEntry, h, if_false]

theorem mem_entries {m : OrderedMap K V} : (k, v) ∈ m.entries ↔ m.get? k = some v := by
  obtain ⟨entries, hn⟩ := m
  simp only [get?]
  induction entries with
  | nil => simp [getEntry]
  | cons entry rest ih =>
    obtain ⟨i, w⟩ := entry
    simp only [List.map_cons, List.nodup_cons] at hn
    have hi := ih hn.2
    by_cases h : i = k
    · subst h
      have hm : (i, v) ∉ rest := fun hr => hn.1 (List.mem_map_of_mem hr)
      simp [getEntry, hm, eq_comm]
    · have hk : k ≠ i := fun he => h he.symm
      simp [getEntry, h, hk, hi]

@[simp] theorem get?_mapValues (f : V → W) (m : OrderedMap K V) (k : K) :
    (m.mapValues f).get? k = (m.get? k).map f := by
  obtain ⟨entries, hn⟩ := m
  simp only [get?, mapValues]
  clear hn
  induction entries with
  | nil => rfl
  | cons entry rest ih =>
    by_cases h : entry.1 = k
    · simp [getEntry, h]
    · simp [getEntry, h, ih]

theorem setEntry_append {entries : List (K × V)} (h : k ∉ entries.map Prod.fst) (v : V) :
    setEntry k v entries = entries ++ [(k, v)] := by
  induction entries with
  | nil => rfl
  | cons entry rest ih =>
    simp only [List.map_cons, List.mem_cons, not_or] at h
    have hk : entry.1 ≠ k := fun he => h.1 he.symm
    simp only [setEntry, hk, if_false, ih h.2, List.cons_append]

theorem mem_values {m : OrderedMap K V} : v ∈ m.values ↔ ∃ k, m.get? k = some v := by
  simp only [values, List.mem_map, ← mem_entries]
  constructor
  · rintro ⟨⟨k, w⟩, hm, rfl⟩
    exact ⟨k, hm⟩
  · rintro ⟨k, hm⟩
    exact ⟨(k, v), hm, rfl⟩

theorem mem_values_set {m : OrderedMap K V} (h : w ∈ (m.set k v).values) :
    w = v ∨ w ∈ m.values := by
  obtain ⟨j, hj⟩ := mem_values.mp h
  rw [get?_set] at hj
  split at hj
  · exact .inl (Option.some.inj hj).symm
  · exact .inr (mem_values.mpr ⟨j, hj⟩)

/-- A new key comes last. -/
theorem values_set_of_has (m : OrderedMap K V) (h : m.has k = false) (v : V) :
    (m.set k v).values = m.values ++ [v] := by
  have hk : k ∉ m.entries.map Prod.fst := by
    intro hm
    have hs := mem_keys.mp hm
    rw [has] at h
    rw [h] at hs
    cases hs
  have he : (m.set k v).entries = m.entries ++ [(k, v)] := setEntry_append hk v
  rw [values, he, List.map_append, List.map_singleton, values]

theorem setEntry_split {entries : List (K × V)} (h : getEntry k entries = some v) (w : V) :
    ∃ before after, entries.map Prod.snd = before ++ v :: after ∧
      (setEntry k w entries).map Prod.snd = before ++ w :: after := by
  induction entries with
  | nil => cases h
  | cons entry rest ih =>
    by_cases hk : entry.1 = k
    · simp only [getEntry, hk, if_true, Option.some.injEq] at h
      exact ⟨[], rest.map Prod.snd, by simp [h], by simp [setEntry, hk]⟩
    · simp only [getEntry, hk, if_false] at h
      obtain ⟨before, after, hb, ha⟩ := ih h
      exact ⟨entry.2 :: before, after, by simp [hb], by simp [setEntry, hk, ha]⟩

/-- A known key keeps its place. -/
theorem values_set_of_get? {m : OrderedMap K V} (h : m.get? k = some v) (w : V) :
    ∃ before after, m.values = before ++ v :: after ∧
      (m.set k w).values = before ++ w :: after :=
  setEntry_split h w

theorem setEntry_self {entries : List (K × V)} (h : getEntry k entries = some v) :
    setEntry k v entries = entries := by
  induction entries with
  | nil => cases h
  | cons entry rest ih =>
    by_cases hk : entry.1 = k
    · simp only [getEntry, hk, if_true, Option.some.injEq] at h
      rw [setEntry, if_pos hk, ← hk, ← h]
    · simp only [getEntry, hk, if_false] at h
      rw [setEntry, if_neg hk, ih h]

theorem set_eq_self {m : OrderedMap K V} : m.set k v = m ↔ m.get? k = some v := by
  constructor
  · intro h
    rw [← h, get?_set, if_pos rfl]
  · intro h
    cases m with
    | mk entries hn => simp only [set, setEntry_self h]

theorem foldl_set_entries (entries : List (K × V)) (m : OrderedMap K V)
    (h : (m.entries.map Prod.fst ++ entries.map Prod.fst).Nodup) :
    (entries.foldl (fun m entry => m.set entry.1 entry.2) m).entries = m.entries ++ entries := by
  induction entries generalizing m with
  | nil => simp
  | cons entry rest ih =>
    have hn : entry.1 ∉ m.entries.map Prod.fst := by
      intro hm
      exact List.disjoint_of_nodup_append h hm (by simp)
    have hset : (m.set entry.1 entry.2).entries = m.entries ++ [entry] := setEntry_append hn _
    rw [List.foldl_cons, ih]
    · rw [hset, List.append_assoc, List.singleton_append]
    · rw [hset]
      simpa using h

/-- Rebuilding a map from its entries with new values changes only the values. -/
theorem ofEntries_mapValues (f : V → W) (m : OrderedMap K V) :
    ofEntries (m.entries.map fun entry => (entry.1, f entry.2)) = m.mapValues f := by
  have h : (ofEntries (m.entries.map fun entry => (entry.1, f entry.2))).entries =
      [] ++ m.entries.map fun entry => (entry.1, f entry.2) :=
    foldl_set_entries _ empty (m.mapValues f).nodup
  cases hm : ofEntries (m.entries.map fun entry => (entry.1, f entry.2)) with
  | mk entries hn =>
    rw [hm] at h
    subst h
    rfl

end OrderedMap
end Collections

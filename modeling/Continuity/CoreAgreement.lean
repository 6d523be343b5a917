import Continuity.LanguageCores

namespace Continuity
set_option autoImplicit true

section Sorting

variable {κ : Type u} {ι : Type v} {r : κ → κ → Prop} {s : ι → ι → Prop} [DecidableRel r]
  [DecidableRel s]

/-- Keys may be encoded before or after sorting by an order the code reflects. -/
theorem insertionSort_encode (key : κ → ι) (g : κ × α → β) (h : ∀ a b, r a b ↔ s (key a) (key b))
    (fields : List (κ × α)) :
    (fields.map fun f => (key f.1, g f)).insertionSort (fun a b => s a.1 b.1) =
      (fields.insertionSort fun a b => r a.1 b.1).map fun f => (key f.1, g f) :=
  (List.map_insertionSort (fun a b : κ × α => r a.1 b.1) (fun a b : ι × β => s a.1 b.1)
    (fun f => (key f.1, g f)) fields fun a _ b _ => h a.1 b.1).symm

end Sorting

/-- Fields in the order of their keys. -/
def sortBy (le : List Char → List Char → Bool) (fields : List (List Char × α)) :
    List (List Char × α) :=
  fields.insertionSort fun a b => le a.1 b.1 = true

theorem sortBy_perm (le : List Char → List Char → Bool) (fields : List (List Char × α)) :
    (sortBy le fields).Perm fields :=
  List.perm_insertionSort _ _

theorem sortBy_map (le : List Char → List Char → Bool) (g : List Char × α → β)
    (fields : List (List Char × α)) :
    sortBy le (fields.map fun f => (f.1, g f)) = (sortBy le fields).map fun f => (f.1, g f) :=
  insertionSort_encode (r := fun a b => le a b = true) (s := fun a b => le a b = true)
    (fun k => k) g (fun _ _ => Iff.rfl) fields

mutual
/-- The document with the fields of every object in the given order of keys. -/
def JsonDocument.arrange (le : List Char → List Char → Bool) : JsonDocument → JsonDocument
  | .arr items => .arr (arrangeItems le items)
  | .obj fields => .obj (sortBy le (arrangeFields le fields))
  | d => d

def arrangeItems (le : List Char → List Char → Bool) : List JsonDocument → List JsonDocument
  | [] => []
  | item :: items => item.arrange le :: arrangeItems le items

def arrangeFields (le : List Char → List Char → Bool) :
    List (List Char × JsonDocument) → List (List Char × JsonDocument)
  | [] => []
  | (key, child) :: fields => (key, child.arrange le) :: arrangeFields le fields
end

theorem arrangeFields_eq_map (le : List Char → List Char → Bool)
    (fields : List (List Char × JsonDocument)) :
    arrangeFields le fields = fields.map fun f => (f.1, f.2.arrange le) := by
  induction fields with
  | nil => rfl
  | cons f fields ih => rw [arrangeFields, ih, List.map_cons]

mutual
/-- The text of a document whose fields are already in order. -/
def JsonDocument.text : JsonDocument → List Char
  | .null => "null".toList
  | .bool b => if b then "true".toList else "false".toList
  | .int z => decimal z
  | .negZero => decimal 0
  | .str s => CorePython.dumps s
  | .arr items => '[' :: (joinWith ',' (itemTexts items) ++ [']'])
  | .obj fields => Char.ofNat 123 :: (joinWith ',' (fieldTexts fields) ++ [Char.ofNat 125])

def itemTexts : List JsonDocument → List (List Char)
  | [] => []
  | item :: items => item.text :: itemTexts items

def fieldTexts : List (List Char × JsonDocument) → List (List Char)
  | [] => []
  | (key, child) :: fields => (CorePython.dumps key ++ ':' :: child.text) :: fieldTexts fields
end

theorem fieldTexts_eq_map (fields : List (List Char × JsonDocument)) :
    fieldTexts fields = fields.map fun f => CorePython.dumps f.1 ++ ':' :: f.2.text := by
  induction fields with
  | nil => rfl
  | cons f fields ih => rw [fieldTexts, ih, List.map_cons]

theorem fieldTexts_arrange (le : List Char → List Char → Bool)
    (fields : List (List Char × JsonDocument)) :
    fieldTexts (sortBy le (arrangeFields le fields)) =
      (sortBy le fields).map fun f => CorePython.dumps f.1 ++ ':' :: (f.2.arrange le).text := by
  rw [arrangeFields_eq_map,
    sortBy_map le fun f : List Char × JsonDocument => f.2.arrange le, fieldTexts_eq_map,
    List.map_map]
  rfl

namespace CorePython

theorem members_ok (g : List Char × α → List Char) (fields : List (List Char × α)) :
    members (fields.map fun f => (f.1, .ok (g f))) =
      .ok (fields.map fun f => dumps f.1 ++ ':' :: g f) := by
  induction fields with
  | nil => rfl
  | cons f fields ih =>
    simp only [List.map_cons, members, ih]
    rfl

mutual
/-- The Python core accepts every document and orders keys by code point. -/
theorem canonicalize_loads : ∀ d : JsonDocument,
    canonicalize (loads d) = .ok (d.arrange pointsLe).text
  | .null => rfl
  | .bool _ => rfl
  | .int z => by
    have hz := z.property
    simp only [loads, canonicalize, JsonDocument.arrange, JsonDocument.text]
    rw [if_neg (by omega)]
    rfl
  | .negZero => rfl
  | .str _ => rfl
  | .arr items => by
    simp only [loads, canonicalize, canonicalize_loadItems items, JsonDocument.arrange,
      JsonDocument.text]
    rfl
  | .obj fields => by
    have hsort := sortBy_map pointsLe
      (fun f => (Except.ok (f.2.arrange pointsLe).text : Js (List Char))) fields
    simp only [loads, canonicalize, canonicalize_loadFields fields, JsonDocument.arrange,
      JsonDocument.text, fieldTexts_arrange]
    rw [show sorted = sortBy pointsLe (α := Js (List Char)) from rfl, hsort,
      members_ok fun f : List Char × JsonDocument => (f.2.arrange pointsLe).text]
    rfl

theorem canonicalize_loadItems : ∀ items : List JsonDocument,
    canonicalizeItems (loadItems items) = .ok (itemTexts (arrangeItems pointsLe items))
  | [] => rfl
  | item :: items => by
    simp only [loadItems, canonicalizeItems, canonicalize_loads item,
      canonicalize_loadItems items, arrangeItems, itemTexts]
    rfl

theorem canonicalize_loadFields : ∀ fields : List (List Char × JsonDocument),
    canonicalizeFields (loadFields fields) =
      fields.map fun f => (f.1, .ok (f.2.arrange pointsLe).text)
  | [] => rfl
  | (key, child) :: fields => by
    simp only [loadFields, canonicalizeFields, canonicalize_loads child,
      canonicalize_loadFields fields, List.map_cons]
end

end CorePython

mutual
/-- No number of the document is `-0`. -/
def JsonDocument.Integral : JsonDocument → Prop
  | .negZero => False
  | .arr items => IntegralItems items
  | .obj fields => IntegralFields fields
  | _ => True

def IntegralItems : List JsonDocument → Prop
  | [] => True
  | item :: items => item.Integral ∧ IntegralItems items

def IntegralFields : List (List Char × JsonDocument) → Prop
  | [] => True
  | (_, child) :: fields => child.Integral ∧ IntegralFields fields
end

theorem integralFields_iff {fields : List (List Char × JsonDocument)} :
    IntegralFields fields ↔ ∀ f ∈ fields, f.2.Integral := by
  induction fields with
  | nil => simp [IntegralFields]
  | cons f fields ih => simp [IntegralFields, ih]

theorem joinWith_flatMap {f : α → List β} (hm : f mark = [sign]) (xs : List (List α)) :
    (joinWith mark xs).flatMap f = joinWith sign (xs.map fun x => x.flatMap f) := by
  induction xs with
  | nil => rfl
  | cons x xs ih =>
    cases xs with
    | nil => rfl
    | cons y xs => simpa [joinWith, hm] using ih

theorem utf8Bytes_joinWith (xs : List (List Char)) :
    utf8Bytes (joinWith ',' xs) = joinWith 44 (xs.map utf8Bytes) :=
  joinWith_flatMap (f := fun c : Char => utf8 c.toNat) rfl xs

theorem utf8Bytes_cons (c : Char) (s : List Char) :
    utf8Bytes (c :: s) = utf8 c.toNat ++ utf8Bytes s := rfl

theorem decimal_digits (z : Int) : ∀ c ∈ decimal z, c = '-' ∨ c.isDigit = true := by
  have hd (c : Char) (hc : c ∈ Nat.toDigits 10 z.natAbs) : c.isDigit = true :=
    Nat.isDigit_of_mem_toDigits (by omega) (by omega) hc
  unfold decimal
  split_ifs
  · intro c hc
    exact (List.mem_cons.mp hc).imp id (hd c)
  · exact fun c hc => .inr (hd c hc)

theorem decimal_ascii (z : Int) : ∀ c ∈ decimal z, c.toNat < 0x80 := by
  intro c hc
  rcases decimal_digits z c hc with rfl | h
  · decide
  · simp only [Char.isDigit, Bool.and_eq_true, decide_eq_true_eq] at h
    have hu : c.toNat ≤ 57 := h.2
    omega

namespace CoreRust

theorem ascii_eq (h : ∀ c ∈ s, c.toNat < 0x80) : ascii s = utf8Bytes s := by
  induction s with
  | nil => rfl
  | cons c s ih =>
    have hc := h c List.mem_cons_self
    rw [utf8Bytes_cons, ← ih fun d hd => h d (List.mem_cons_of_mem _ hd), utf8, if_pos hc]
    rfl

theorem escape_ascii : ∀ n : Fin 128,
    escape (UInt8.ofNat n) = utf8Bytes (CorePython.escape (Char.ofNat n)) := by
  decide +kernel

theorem escape_large (h : 0x80 ≤ b.toNat) : escape b = [b] := by
  have hne (k : UInt8) (hk : k.toNat < 0x80) : b ≠ k := by
    rintro rfl
    omega
  have hlt : ¬b < 32 := by
    rw [UInt8.lt_iff_toNat_lt]
    have h32 : (32 : UInt8).toNat = 32 := rfl
    omega
  simp only [escape, if_neg (hne 8 (by decide)), if_neg (hne 9 (by decide)),
    if_neg (hne 10 (by decide)), if_neg (hne 12 (by decide)), if_neg (hne 13 (by decide)),
    if_neg (hne 34 (by decide)), if_neg (hne 92 (by decide)), if_neg hlt]

theorem utf8_large (h : 0x80 ≤ n) (hn : n < 0x110000) : ∀ b ∈ utf8 n, 0x80 ≤ b.toNat := by
  have hb (k : Nat) (hk : k < 256) : (UInt8.ofNat k).toNat = k := by
    rw [UInt8.toNat_ofNat']
    omega
  unfold utf8
  split_ifs
  · omega
  · simp only [List.mem_cons, List.not_mem_nil, or_false]
    rintro b (rfl | rfl) <;> rw [hb _ (by omega)] <;> omega
  · simp only [List.mem_cons, List.not_mem_nil, or_false]
    rintro b (rfl | rfl | rfl) <;> rw [hb _ (by omega)] <;> omega
  · simp only [List.mem_cons, List.not_mem_nil, or_false]
    rintro b (rfl | rfl | rfl | rfl) <;> rw [hb _ (by omega)] <;> omega

theorem pythonEscape_large {c : Char} (h : 0x80 ≤ c.toNat) : CorePython.escape c = [c] := by
  have hne (d : Char) (hd : d.toNat < 0x80) : c ≠ d := by
    rintro rfl
    omega
  simp only [CorePython.escape, if_neg (hne '\\' (by decide)), if_neg (hne '"' (by decide)),
    if_neg (hne (Char.ofNat 8) (by decide)), if_neg (hne (Char.ofNat 12) (by decide)),
    if_neg (hne '\n' (by decide)), if_neg (hne '\r' (by decide)), if_neg (hne '\t' (by decide)),
    if_neg (show ¬c.toNat < 0x20 by omega)]

/-- Escaping byte by byte is escaping character by character. -/
theorem escape_utf8 (c : Char) :
    (utf8 c.toNat).flatMap escape = utf8Bytes (CorePython.escape c) := by
  by_cases h : c.toNat < 0x80
  · have he := escape_ascii ⟨c.toNat, h⟩
    rw [Char.ofNat_toNat] at he
    rw [utf8, if_pos h, ← he]
    simp
  · have hr := char_range c
    have hb := utf8_large (Nat.le_of_not_lt h) (by omega)
    rw [pythonEscape_large (Nat.le_of_not_lt h), utf8Bytes_cons]
    have hid : (utf8 c.toNat).flatMap escape = (utf8 c.toNat).flatMap fun b => [b] :=
      List.flatMap_congr fun b hm => escape_large (hb b hm)
    rw [hid]
    simp [utf8Bytes]

theorem stringText_utf8Bytes (s : List Char) :
    stringText (utf8Bytes s) = utf8Bytes (CorePython.dumps s) := by
  have hs : (utf8Bytes s).flatMap escape = utf8Bytes (s.flatMap CorePython.escape) := by
    induction s with
    | nil => rfl
    | cons c s ih =>
      rw [utf8Bytes_cons, List.flatMap_append, escape_utf8, ih, List.flatMap_cons,
        utf8Bytes_append]
  rw [stringText, hs, CorePython.dumps, utf8Bytes_cons, utf8Bytes_append]
  rfl

theorem integer_fromStr (z : SafeInteger) :
    let n : Number := if 0 ≤ z.val then .posInt (.ofNat z.val.toNat) else .negInt (.ofInt z)
    (n.asI64 <|> n.asU64) = some z.val := by
  have hz := z.property
  by_cases h : 0 ≤ z.val
  · have hn : (UInt64.ofNat z.val.toNat).toNat = z.val.toNat := by
      rw [UInt64.toNat_ofNat']
      omega
    simp only [if_pos h, Number.asI64, hn]
    rw [if_pos (by omega), Int.toNat_of_nonneg h]
    rfl
  · have hn : (Int64.ofInt z.val).toInt = z.val :=
      Int64.toInt_ofInt_of_le (by omega) (by omega)
    simp only [if_neg h, Number.asI64, hn]
    rfl

theorem number_text (z : SafeInteger) :
    canonicalizeStrict (fromStr (.int z)) = .ok (utf8Bytes (decimal z)) := by
  have hz := z.property
  simp only [fromStr, canonicalizeStrict, integer_fromStr z]
  rw [if_neg (by omega), ascii_eq (decimal_ascii z)]
  rfl

theorem sortKeys_encode (g : List Char × α → β) (fields : List (List Char × α)) :
    sortKeys (fields.map fun f => (utf8Bytes f.1, g f)) =
      (sortBy pointsLe fields).map fun f => (utf8Bytes f.1, g f) := by
  apply insertionSort_encode (r := fun a b => pointsLe a b = true)
    (s := fun a b => bytesLe a b = true)
  intro a b
  rw [bytesLe_utf8Bytes]

theorem parts_ok (g : List Char × α → List Char) (fields : List (List Char × α)) :
    parts (fields.map fun f => (utf8Bytes f.1, .ok (utf8Bytes (g f)))) =
      .ok ((fields.map fun f => CorePython.dumps f.1 ++ ':' :: g f).map utf8Bytes) := by
  induction fields with
  | nil => rfl
  | cons f fields ih =>
    simp only [List.map_cons, parts, ih, stringText_utf8Bytes, utf8Bytes_append, utf8Bytes_cons]
    rfl

theorem bracketed (open_ close : Char) (xs : List (List Char)) :
    utf8Bytes (open_ :: (joinWith ',' xs ++ [close])) =
      utf8 open_.toNat ++ (joinWith 44 (xs.map utf8Bytes) ++ utf8 close.toNat) := by
  rw [utf8Bytes_cons, utf8Bytes_append, utf8Bytes_joinWith]
  simp [utf8Bytes]

mutual
/-- The Rust core writes the bytes of the same text, the keys in byte order. -/
theorem canonicalizeStrict_fromStr : ∀ d : JsonDocument, d.Integral →
    canonicalizeStrict (fromStr d) = .ok (utf8Bytes (d.arrange pointsLe).text)
  | .null, _ => rfl
  | .bool true, _ => rfl
  | .bool false, _ => rfl
  | .int z, _ => number_text z
  | .str s, _ => by
    simp only [fromStr, canonicalizeStrict, stringText_utf8Bytes]
    rfl
  | .arr items, h => by
    simp only [fromStr, canonicalizeStrict, canonicalizeItems_fromItems items h,
      JsonDocument.arrange, JsonDocument.text, bracketed]
    rfl
  | .obj fields, h => by
    have hsort := sortKeys_encode
      (fun f => (Except.ok (utf8Bytes (f.2.arrange pointsLe).text) : Js Bytes)) fields
    simp only [fromStr, canonicalizeStrict, canonicalizeFields_fromFields fields h, hsort,
      parts_ok fun f : List Char × JsonDocument => (f.2.arrange pointsLe).text,
      JsonDocument.arrange, JsonDocument.text, fieldTexts_arrange, bracketed]
    rfl

theorem canonicalizeItems_fromItems : ∀ items : List JsonDocument, IntegralItems items →
    canonicalizeItems (fromItems items) =
      .ok ((itemTexts (arrangeItems pointsLe items)).map utf8Bytes)
  | [], _ => rfl
  | item :: items, h => by
    simp only [fromItems, canonicalizeItems, canonicalizeStrict_fromStr item h.1,
      canonicalizeItems_fromItems items h.2, arrangeItems, itemTexts, List.map_cons]
    rfl

theorem canonicalizeFields_fromFields : ∀ fields : List (List Char × JsonDocument),
    IntegralFields fields → canonicalizeFields (fromFields fields) =
      fields.map fun f => (utf8Bytes f.1, .ok (utf8Bytes (f.2.arrange pointsLe).text))
  | [], _ => rfl
  | (key, child) :: fields, h => by
    simp only [fromFields, canonicalizeFields, canonicalizeStrict_fromStr child h.1,
      canonicalizeFields_fromFields fields h.2, List.map_cons]
end

end CoreRust

section TypeScript

variable {d e : JsonDocument}

def utf16Le (a b : List Char) : Bool := unitsLe (utf16 a) (utf16 b)

theorem toJsFields_eq_map (fields : List (List Char × JsonDocument)) :
    toJsFields fields = fields.map fun f => (utf16 f.1, f.2.toJs) := by
  induction fields with
  | nil => rfl
  | cons f fields ih => rw [toJsFields, ih, List.map_cons]

theorem sortKeys_utf16 (g : List Char × α → β) (fields : List (List Char × α)) :
    sortKeys (fields.map fun f => (utf16 f.1, g f)) =
      (sortBy utf16Le fields).map fun f => (utf16 f.1, g f) :=
  insertionSort_encode (r := fun a b => utf16Le a b = true)
    (s := fun a b => unitsLe a b = true) utf16 g (fun _ _ => Iff.rfl) fields

mutual
/-- Sorting by code unit is sorting the characters by their code units. -/
theorem normalize_toJs : ∀ d : JsonDocument, normalize d.toJs = (d.arrange utf16Le).toJs
  | .null => rfl
  | .bool _ => rfl
  | .int _ => rfl
  | .negZero => rfl
  | .str _ => rfl
  | .arr items => by
    simp only [JsonDocument.toJs, normalize, JsonDocument.arrange, normalizeItems_toJs items]
  | .obj fields => by
    have hsort := sortBy_map utf16Le (fun f : List Char × JsonDocument => f.2.arrange utf16Le)
      fields
    rw [JsonDocument.toJs, normalize, normalizeFields_toJs fields,
      sortKeys_utf16 fun f : List Char × JsonDocument => (f.2.arrange utf16Le).toJs,
      JsonDocument.arrange, arrangeFields_eq_map, hsort, JsonDocument.toJs, toJsFields_eq_map,
      List.map_map]
    rfl

theorem normalizeItems_toJs : ∀ items : List JsonDocument,
    normalizeItems (toJsItems items) = toJsItems (arrangeItems utf16Le items)
  | [] => rfl
  | item :: items => by
    simp only [toJsItems, normalizeItems, arrangeItems, normalize_toJs item,
      normalizeItems_toJs items]

theorem normalizeFields_toJs : ∀ fields : List (List Char × JsonDocument),
    normalizeFields (toJsFields fields) =
      fields.map fun f => (utf16 f.1, (f.2.arrange utf16Le).toJs)
  | [] => rfl
  | (key, child) :: fields => by
    simp only [toJsFields, normalizeFields, normalize_toJs child, normalizeFields_toJs fields,
      List.map_cons]
end

theorem quoteUnits_cons (h : isHighSurrogate u = false) (t : JsString) :
    quoteUnits (u :: t) = quoteUnit u ++ quoteUnits t := by
  cases t with
  | nil => simp [quoteUnits]
  | cons v rest => simp [quoteUnits, h]

theorem quoteUnit_ascii : ∀ n : Fin 128,
    quoteUnit (UInt16.ofNat n) = utf16 (CorePython.escape (Char.ofNat n)) := by
  decide +kernel

theorem quoteUnit_large (h : 0x80 ≤ u.toNat) (hs : isSurrogate u = false) :
    quoteUnit u = [u] := by
  have hne (k : UInt16) (hk : k.toNat < 0x80) : u ≠ k := by
    rintro rfl
    omega
  have hlt : ¬u < 32 := by
    rw [UInt16.lt_iff_toNat_lt]
    have h32 : (32 : UInt16).toNat = 32 := rfl
    omega
  simp only [quoteUnit, if_neg (hne 8 (by decide)), if_neg (hne 9 (by decide)),
    if_neg (hne 10 (by decide)), if_neg (hne 12 (by decide)), if_neg (hne 13 (by decide)),
    if_neg (hne 34 (by decide)), if_neg (hne 92 (by decide)), hlt, hs, decide_false,
    Bool.or_self, Bool.false_eq_true, ↓reduceIte]

/-- Escaping code units is escaping characters. -/
theorem quoteUnits_utf16 (s : List Char) :
    quoteUnits (utf16 s) = utf16 (s.flatMap CorePython.escape) := by
  induction s with
  | nil => rfl
  | cons c s ih =>
    rw [utf16_cons, List.flatMap_cons, utf16_append, ← ih]
    rcases scalarUnits_cases c with ⟨u, hu, hs, he⟩ | ⟨u, v, huv, hu, hv, he⟩
    · have hhigh : isHighSurrogate u = false := by
        simp only [isSurrogate, isHighSurrogate, Bool.and_eq_false_iff, decide_eq_false_iff_not]
          at hs ⊢
        omega
      rw [hu, List.singleton_append, quoteUnits_cons hhigh]
      congr 1
      by_cases hc : c.toNat < 0x80
      · have ha := quoteUnit_ascii ⟨c.toNat, hc⟩
        rw [Char.ofNat_toNat] at ha
        rw [← ha]
        simp only [← he, UInt16.ofNat_toNat]
      · rw [CoreRust.pythonEscape_large (Nat.le_of_not_lt hc), quoteUnit_large (by omega) hs,
          utf16_cons, hu]
        rfl
    · have hlarge : 0x80 ≤ c.toNat := by
        rewrite [← he]
        unfold surrogatePair
        omega
      rw [huv, CoreRust.pythonEscape_large hlarge, utf16_cons, huv]
      simp [quoteUnits, hu, hv, utf16]

theorem jsonString_utf16 (s : List Char) :
    jsonString (utf16 s) = utf16 (CorePython.dumps s) := by
  rw [jsonString, quoteUnits_utf16, CorePython.dumps, utf16_cons, utf16_append]
  rfl

theorem utf16_ascii (h : ∀ c ∈ s, c.toNat < 0x80) :
    utf16 s = s.map fun c => UInt16.ofNat c.toNat := by
  induction s with
  | nil => rfl
  | cons c s ih =>
    have hc := h c List.mem_cons_self
    rw [utf16_cons, ih fun d hd => h d (List.mem_cons_of_mem _ hd), scalarUnits,
      if_pos (by omega)]
    rfl

theorem intText_decimal (z : Int) : intText z = utf16 (decimal z) := by
  rw [utf16_ascii (decimal_ascii z), intText, decimal]
  split_ifs <;> rfl

theorem joinComma_eq (xs : List JsString) : joinComma xs = joinWith 44 xs := by
  induction xs with
  | nil => rfl
  | cons x xs ih =>
    cases xs with
    | nil => rfl
    | cons y xs => rw [joinComma, ih, joinWith]

theorem utf16_joinWith (xs : List (List Char)) :
    utf16 (joinWith ',' xs) = joinComma (xs.map utf16) := by
  rw [joinComma_eq]
  exact joinWith_flatMap (f := fun c : Char => scalarUnits c.toNat) rfl xs

mutual
theorem encodePlain_toJs : ∀ d : JsonDocument, d.Integral → encodePlain d.toJs = utf16 d.text
  | .null, _ => rfl
  | .bool true, _ => rfl
  | .bool false, _ => rfl
  | .int z, _ => by
    simp only [JsonDocument.toJs, encodePlain, JsNumber.toInt?_ofInt, Option.getD_some,
      JsonDocument.text, intText_decimal]
  | .str s, _ => jsonString_utf16 s
  | .arr items, h => by
    simp only [JsonDocument.toJs, encodePlain, JsonDocument.text, plainItems_toJs items h,
      utf16_cons, utf16_append, utf16_joinWith]
    rfl
  | .obj fields, h => by
    simp only [JsonDocument.toJs, encodePlain, JsonDocument.text, plainFields_toJs fields h,
      utf16_cons, utf16_append, utf16_joinWith]
    rfl

theorem plainItems_toJs : ∀ items : List JsonDocument, IntegralItems items →
    plainItems (toJsItems items) = (itemTexts items).map utf16
  | [], _ => rfl
  | item :: items, h => by
    simp only [toJsItems, plainItems, encodePlain_toJs item h.1, plainItems_toJs items h.2,
      itemTexts, List.map_cons]

theorem plainFields_toJs : ∀ fields : List (List Char × JsonDocument), IntegralFields fields →
    plainFields (toJsFields fields) = (fieldTexts fields).map utf16
  | [], _ => rfl
  | (key, child) :: fields, h => by
    simp only [toJsFields, plainFields, encodePlain_toJs child h.1, plainFields_toJs fields h.2,
      fieldTexts, List.map_cons, jsonString_utf16, utf16_append, utf16_cons]
    rfl
end

mutual
theorem encodable_toJs : ∀ d : JsonDocument, Encodable d.toJs ↔ d.Integral
  | .null => Iff.rfl
  | .bool _ => Iff.rfl
  | .int z => by
    have hz := z.property
    refine iff_of_true ⟨?_, by simp [JsNumber.ofInt]⟩ True.intro
    simpa [JsNumber.isSafeInteger] using hz
  | .negZero => iff_of_false (fun h => h.2 rfl) id
  | .str _ => Iff.rfl
  | .arr items => encodableItems_toJs items
  | .obj fields => encodableFields_toJs fields

theorem encodableItems_toJs : ∀ items : List JsonDocument,
    EncodableItems (toJsItems items) ↔ IntegralItems items
  | [] => Iff.rfl
  | item :: items => and_congr (encodable_toJs item) (encodableItems_toJs items)

theorem encodableFields_toJs : ∀ fields : List (List Char × JsonDocument),
    EncodableFields (toJsFields fields) ↔ IntegralFields fields
  | [] => Iff.rfl
  | (_, child) :: fields => and_congr (encodable_toJs child) (encodableFields_toJs fields)
end

mutual
theorem integral_arrange (le : List Char → List Char → Bool) : ∀ d : JsonDocument,
    d.Integral → (d.arrange le).Integral
  | .null, _ => True.intro
  | .bool _, _ => True.intro
  | .int _, _ => True.intro
  | .str _, _ => True.intro
  | .arr items, h => integralItems_arrange le items h
  | .obj fields, h => by
    rw [JsonDocument.arrange, JsonDocument.Integral, integralFields_iff]
    intro f hf
    exact integralFields_arrange le fields h f ((sortBy_perm le _).mem_iff.mp hf)

theorem integralItems_arrange (le : List Char → List Char → Bool) :
    ∀ items : List JsonDocument, IntegralItems items → IntegralItems (arrangeItems le items)
  | [], _ => True.intro
  | item :: items, h => ⟨integral_arrange le item h.1, integralItems_arrange le items h.2⟩

theorem integralFields_arrange (le : List Char → List Char → Bool) :
    ∀ fields : List (List Char × JsonDocument), IntegralFields fields → ∀ f ∈ arrangeFields le fields, f.2.Integral
  | [], _, f, hf => by cases hf
  | (key, child) :: fields, h, f, hf => by
    rcases List.mem_cons.mp hf with rfl | hm
    · exact integral_arrange le child h.1
    · exact integralFields_arrange le fields h.2 f hm
end

/-- The TypeScript core writes the bytes of the text, the keys in the order of their units. -/
theorem canonicalBytes_toJs (h : d.Integral) :
    canonicalBytes d.toJs = .ok (utf8Bytes (d.arrange utf16Le).text) := by
  obtain ⟨t, ht⟩ := encodeCanonical_total d.toJs ((encodable_toJs d).mpr h)
  obtain ⟨he, -⟩ := encodeCanonical_ok d.toJs ht
  rw [normalize_toJs, encodePlain_toJs _ (integral_arrange utf16Le d h)] at he
  rw [canonicalBytes, canonicalize, ht, ← he, ← textEncode_utf16]
  rfl

theorem canonicalBytes_toJs_negZero (h : ¬d.Integral) :
    (canonicalBytes d.toJs).toOption = none := by
  cases hb : canonicalBytes d.toJs with
  | error e => rfl
  | ok bytes => exact absurd ((encodable_toJs d).mp (canonicalBytes_encodable hb)) h

mutual
theorem toJs_injective : ∀ (d : JsonDocument) {e : JsonDocument}, d.toJs = e.toJs → d = e
  | .null, e, h => by
    cases e <;> first | rfl | cases h
  | .bool b, e, h => by
    cases e <;> cases h
    rfl
  | .int z, e, h => by
    cases e with
    | int w =>
      have hz : (z.val : ℚ) = w.val := JsNumber.fin.inj (JsValue.num.inj h)
      have : z = w := Subtype.ext (by exact_mod_cast hz)
      rw [this]
    | negZero => cases h
    | _ => cases h
  | .negZero, e, h => by
    cases e <;> first | rfl | cases h
  | .str s, e, h => by
    cases e with
    | str t => rw [utf16_injective (JsValue.str.inj h)]
    | _ => cases h
  | .arr items, e, h => by
    cases e with
    | arr others => rw [toJsItems_injective items (JsValue.arr.inj h)]
    | _ => cases h
  | .obj fields, e, h => by
    cases e with
    | obj others => rw [toJsFields_injective fields (JsValue.obj.inj h)]
    | _ => cases h

theorem toJsItems_injective : ∀ (xs : List JsonDocument) {ys : List JsonDocument},
    toJsItems xs = toJsItems ys → xs = ys
  | [], [], _ => rfl
  | [], _ :: _, h => by cases h
  | _ :: _, [], h => by cases h
  | x :: xs, y :: ys, h => by
    simp only [toJsItems, List.cons.injEq] at h
    rw [toJs_injective x h.1, toJsItems_injective xs h.2]

theorem toJsFields_injective : ∀ (xs : List (List Char × JsonDocument))
    {ys : List (List Char × JsonDocument)}, toJsFields xs = toJsFields ys → xs = ys
  | [], [], _ => rfl
  | [], _ :: _, h => by cases h
  | _ :: _, [], h => by cases h
  | (k, x) :: xs, (l, y) :: ys, h => by
    simp only [toJsFields, List.cons.injEq, Prod.mk.injEq] at h
    rw [utf16_injective h.1.1, toJs_injective x h.1.2, toJsFields_injective xs h.2]
end

mutual
theorem plain_toJs : ∀ d : JsonDocument, d.Integral → Plain d.toJs
  | .null, _ => True.intro
  | .bool _, _ => True.intro
  | .int z, _ => ⟨z, rfl⟩
  | .str _, _ => True.intro
  | .arr items, h => plainItems_integral items h
  | .obj fields, h => plainFields_integral fields h

theorem plainItems_integral : ∀ items : List JsonDocument, IntegralItems items →
    PlainItems (toJsItems items)
  | [], _ => True.intro
  | item :: items, h => ⟨plain_toJs item h.1, plainItems_integral items h.2⟩

theorem plainFields_integral : ∀ fields : List (List Char × JsonDocument),
    IntegralFields fields → PlainFields (toJsFields fields)
  | [], _ => True.intro
  | (_, child) :: fields, h => ⟨plain_toJs child h.1, plainFields_integral fields h.2⟩
end

theorem text_injective (hd : d.Integral) (he : e.Integral) (h : d.text = e.text) : d = e := by
  have ht : encodePlain d.toJs ++ [] = encodePlain e.toJs ++ [] := by
    rw [encodePlain_toJs d hd, encodePlain_toJs e he, h]
  have hn : Stop [] := True.intro
  exact toJs_injective d (encodePlain_unique _ (plain_toJs d hd) (plain_toJs e he) hn hn ht).1

end TypeScript

mutual
/-- No two keys of one object clash, at any depth. -/
def JsonDocument.NoClash : JsonDocument → Prop
  | .arr items => NoClashItems items
  | .obj fields => (∀ f ∈ fields, ∀ g ∈ fields, ¬Clash f.1 g.1) ∧ NoClashFields fields
  | _ => True

def NoClashItems : List JsonDocument → Prop
  | [] => True
  | item :: items => item.NoClash ∧ NoClashItems items

def NoClashFields : List (List Char × JsonDocument) → Prop
  | [] => True
  | (_, child) :: fields => child.NoClash ∧ NoClashFields fields
end

theorem noClashFields_iff {fields : List (List Char × JsonDocument)} :
    NoClashFields fields ↔ ∀ f ∈ fields, f.2.NoClash := by
  induction fields with
  | nil => simp [NoClashFields]
  | cons f fields ih => simp [NoClashFields, ih]

/-- A comparison that orders all keys. -/
structure TotalOrder (le : List Char → List Char → Bool) : Prop where
  total : ∀ a b, le a b = true ∨ le b a = true
  trans : ∀ a b c, le a b = true → le b c = true → le a c = true
  antisymm : ∀ a b, le a b = true → le b a = true → a = b

theorem pointsLe_order : TotalOrder pointsLe where
  total _ _ := numbersLe_total _ _
  trans _ _ _ := numbersLe_trans _ _ _
  antisymm _ _ h h' := map_toNat_injective (numbersLe_antisymm _ _ h h')

theorem utf16Le_order : TotalOrder utf16Le where
  total _ _ := unitsLe_total _ _
  trans _ _ _ := unitsLe_trans _ _ _
  antisymm _ _ h h' := utf16_injective (unitsLe_antisymm _ _ h h')

section Arrangement

variable {le le' : List Char → List Char → Bool}

theorem TotalOrder.refl (h : TotalOrder le) (a : List Char) : le a a = true := by
  rcases h.total a a with h | h <;> exact h

theorem TotalOrder.sorted (h : TotalOrder le) (fields : List (List Char × α)) :
    ((sortBy le fields).map Prod.fst).Pairwise fun a b => le a b = true := by
  have : Std.Total fun a b : List Char × α => le a.1 b.1 = true := ⟨fun a b => h.total a.1 b.1⟩
  have : IsTrans (List Char × α) fun a b => le a.1 b.1 = true :=
    ⟨fun a b c => h.trans a.1 b.1 c.1⟩
  rw [List.pairwise_map]
  exact List.pairwise_insertionSort _ fields

theorem sortBy_congr {fields : List (List Char × α)}
    (h : ∀ f ∈ fields, ∀ g ∈ fields, le f.1 g.1 = le' f.1 g.1) :
    sortBy le fields = sortBy le' fields := by
  have hmap := List.map_insertionSort (fun a b : List Char × α => le a.1 b.1 = true)
    (fun a b => le' a.1 b.1 = true) id fields fun a ha b hb => by rw [h a ha b hb]; rfl
  rw [List.map_id, List.map_id] at hmap
  exact hmap

/-- Two orders that put the same list in order agree on its members. -/
theorem TotalOrder.eq_of_sorted (h : TotalOrder le) (h' : TotalOrder le')
    {keys : List (List Char)} (hs : keys.Pairwise fun a b => le a b = true)
    (hs' : keys.Pairwise fun a b => le' a b = true) :
    ∀ a ∈ keys, ∀ b ∈ keys, le a b = le' a b := by
  have hback (a b : List Char) (hab : le a b = true) (hab' : le' a b = true) :
      le b a = le' b a := by
    by_cases he : a = b
    · rw [he, h.refl, h'.refl]
    · have hb : le b a = false := Bool.eq_false_iff.mpr fun hba => he (h.antisymm a b hab hba)
      have hb' : le' b a = false :=
        Bool.eq_false_iff.mpr fun hba => he (h'.antisymm a b hab' hba)
      rw [hb, hb']
  intro a ha b hb
  apply List.Pairwise.forall_of_forall_of_flip (R := fun a b => le a b = le' a b) _ _ _ ha hb
  · intro x _
    rw [h.refl, h'.refl]
  · exact (hs.and hs').imp fun hx => hx.1.trans hx.2.symm
  · exact (hs.and hs').imp fun hx => hback _ _ hx.1 hx.2

/-- Two orders arrange an object alike exactly when they agree on its keys and arrange its members
alike. -/
theorem arrange_obj_iff (h : TotalOrder le) (h' : TotalOrder le')
    (fields : List (List Char × JsonDocument)) :
    (JsonDocument.obj fields).arrange le = (JsonDocument.obj fields).arrange le' ↔
      (∀ f ∈ fields, ∀ g ∈ fields, le f.1 g.1 = le' f.1 g.1) ∧
        ∀ f ∈ fields, f.2.arrange le = f.2.arrange le' := by
  simp only [JsonDocument.arrange, JsonDocument.obj.injEq, arrangeFields_eq_map,
    sortBy_map _ fun f : List Char × JsonDocument => f.2.arrange _]
  constructor
  · intro he
    have hkeys : (sortBy le fields).map Prod.fst = (sortBy le' fields).map Prod.fst := by
      simpa only [List.map_map, Function.comp_def] using congrArg (List.map Prod.fst) he
    have hagree : ∀ f ∈ fields, ∀ g ∈ fields, le f.1 g.1 = le' f.1 g.1 := by
      intro f hf g hg
      have hs' := h'.sorted fields
      rw [← hkeys] at hs'
      exact h.eq_of_sorted h' (h.sorted fields) hs'
        _ (List.mem_map_of_mem ((sortBy_perm le fields).mem_iff.mpr hf))
        _ (List.mem_map_of_mem ((sortBy_perm le fields).mem_iff.mpr hg))
    refine ⟨hagree, ?_⟩
    intro f hf
    rw [sortBy_congr hagree] at he
    have hpair := List.map_inj_left.mp he f ((sortBy_perm le' fields).mem_iff.mpr hf)
    exact (Prod.mk.inj hpair).2
  · rintro ⟨hagree, hchildren⟩
    rw [sortBy_congr hagree]
    apply List.map_congr_left
    intro f hf
    rw [hchildren f ((sortBy_perm le' fields).mem_iff.mp hf)]

end Arrangement

theorem keys_agree_iff (fields : List (List Char × JsonDocument)) :
    (∀ f ∈ fields, ∀ g ∈ fields, utf16Le f.1 g.1 = pointsLe f.1 g.1) ↔
      ∀ f ∈ fields, ∀ g ∈ fields, ¬Clash f.1 g.1 := by
  constructor
  · intro h f hf g hg
    exact ((unitsLe_eq_pointsLe_iff f.1 g.1).mp (h f hf g hg)).1
  · intro h f hf g hg
    exact (unitsLe_eq_pointsLe_iff f.1 g.1).mpr ⟨h f hf g hg, h g hg f hf⟩

mutual
theorem arrange_eq_iff : ∀ d : JsonDocument,
    d.arrange utf16Le = d.arrange pointsLe ↔ d.NoClash
  | .null => iff_of_true rfl True.intro
  | .bool _ => iff_of_true rfl True.intro
  | .int _ => iff_of_true rfl True.intro
  | .negZero => iff_of_true rfl True.intro
  | .str _ => iff_of_true rfl True.intro
  | .arr items => by
    simp only [JsonDocument.arrange, JsonDocument.arr.injEq, JsonDocument.NoClash]
    exact arrangeItems_eq_iff items
  | .obj fields => by
    rw [arrange_obj_iff utf16Le_order pointsLe_order, keys_agree_iff, JsonDocument.NoClash,
      arrangeFields_eq_iff fields]

theorem arrangeItems_eq_iff : ∀ items : List JsonDocument,
    arrangeItems utf16Le items = arrangeItems pointsLe items ↔ NoClashItems items
  | [] => iff_of_true rfl True.intro
  | item :: items => by
    simp only [arrangeItems, List.cons.injEq, NoClashItems, arrange_eq_iff item,
      arrangeItems_eq_iff items]

theorem arrangeFields_eq_iff : ∀ fields : List (List Char × JsonDocument),
    (∀ f ∈ fields, f.2.arrange utf16Le = f.2.arrange pointsLe) ↔ NoClashFields fields
  | [] => iff_of_true (fun _ hf => by cases hf) True.intro
  | (key, child) :: fields => by
    rw [List.forall_mem_cons, NoClashFields, arrange_eq_iff child, arrangeFields_eq_iff fields]
end

/-- The three cores canonicalize a document alike exactly when it has no `-0` and no two keys of
one object first differ in a character between U+E000 and U+FFFF against one above them. -/
theorem canonicalAlike_iff (d : JsonDocument) :
    CanonicalAlike d ↔ d.Integral ∧ d.NoClash := by
  have hpython : (CorePython.canonicalBytes (CorePython.loads d)).toOption =
      some (utf8Bytes (d.arrange pointsLe).text) := by
    rw [CorePython.canonicalBytes, CorePython.canonicalize_loads]
    rfl
  by_cases h : d.Integral
  · have hp := integral_arrange pointsLe d h
    have hu := integral_arrange utf16Le d h
    have htext : utf8Bytes (d.arrange utf16Le).text = utf8Bytes (d.arrange pointsLe).text ↔
        d.NoClash := by
      rw [← arrange_eq_iff]
      constructor
      · intro he
        exact text_injective hu hp (utf8Bytes_injective he)
      · intro he
        rw [he]
    have hts : (canonicalBytes d.toJs).toOption =
        some (utf8Bytes (d.arrange utf16Le).text) := by
      rw [canonicalBytes_toJs h]
      rfl
    have hrust : (CoreRust.canonicalize (CoreRust.fromStr d)).toOption =
        some (utf8Bytes (d.arrange pointsLe).text) := by
      rw [CoreRust.canonicalize, CoreRust.canonicalizeStrict_fromStr d h]
      rfl
    rw [CanonicalAlike, hpython, hts, hrust, Option.some.injEq, htext]
    simp [h]
  · have hts := canonicalBytes_toJs_negZero h
    rw [CanonicalAlike, hts, hpython]
    simp [h]

/-- Two keys of one character, U+E000 and U+10000. -/
def privateUseDocument : JsonDocument :=
  .obj [([Char.ofNat 0xE000], .null), ([Char.ofNat 0x10000], .bool true)]

theorem cores_differ : ¬CanonicalAlike privateUseDocument := by
  unfold CanonicalAlike
  decide

end Continuity

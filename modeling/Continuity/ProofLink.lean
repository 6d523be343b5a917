import Continuity.Base64
import Continuity.Host
import Continuity.JsonParse
import Continuity.TextDecoder
import Continuity.VerifierSound

namespace Continuity
set_option autoImplicit true

/-- What follows the last place of a mark in a text. -/
def afterLast (mark : JsString) : JsString → Option JsString
  | [] => none
  | u :: rest =>
    match afterLast mark rest with
    | some tail => some tail
    | none => if mark.isPrefixOf (u :: rest) then some ((u :: rest).drop mark.length) else none

def encodeProofLink (H : Host) (bundle : JsValue) (baseUrl : JsString) : Js JsString :=
  match jsonStringify H bundle with
  | some text => return baseUrl ++ Base64.encode (textEncode text)
  | none => throw "ERR_INVALID_ARG_TYPE"

def decodeProofLink (urlOrPayload : JsString) : Js JsValue :=
  let payload := (afterLast (js "/p/") urlOrPayload).getD urlOrPayload
  jsonParse (textDecode (Base64.decode payload))

mutual
/-- What JSON keeps of a value: no undefined field, and `null` for an undefined item. -/
def jsonKept : JsValue → JsValue
  | .arr items => .arr (jsonKeptItems items)
  | .obj fields => .obj (jsonKeptFields fields)
  | v => v

def jsonKeptItems : List JsValue → List JsValue
  | [] => []
  | .undefined :: items => .null :: jsonKeptItems items
  | item :: items => jsonKept item :: jsonKeptItems items

def jsonKeptFields : JsObject → JsObject
  | [] => []
  | (_, .undefined) :: fields => jsonKeptFields fields
  | (key, child) :: fields => (key, jsonKept child) :: jsonKeptFields fields
end

/-- What the language says of the text of a finite number: digits and signs, from which it is read
again. -/
structure Host.Prints (H : Host) (n : JsNumber) : Prop where
  plain : ∀ u ∈ jsonNumber H n, u ∈ js "+-.0123456789e"
  read : ∀ rest, Ends rest → parseNumber (jsonNumber H n ++ rest) = some (n, rest)

mutual
/-- Every number has a text, and no object has a key twice. -/
def Legible (H : Host) : JsValue → Prop
  | .num n => H.Prints n
  | .arr items => LegibleItems H items
  | .obj fields => (fields.map Prod.fst).Nodup ∧ LegibleFields H fields
  | _ => True

def LegibleItems (H : Host) : List JsValue → Prop
  | [] => True
  | item :: items => Legible H item ∧ LegibleItems H items

def LegibleFields (H : Host) : JsObject → Prop
  | [] => True
  | (_, child) :: fields => Legible H child ∧ LegibleFields H fields
end

section Links

/-- A text without a character of the mark does not have the mark. -/
theorem afterLast_none {mark text : JsString} (hu : u ∈ mark) (h : u ∉ text) :
    afterLast mark text = none := by
  induction text with
  | nil => rfl
  | cons v rest ih =>
    have hprefix : ¬mark.isPrefixOf (v :: rest) = true := fun hp =>
      h ((List.isPrefixOf_iff_prefix.mp hp).subset hu)
    rw [afterLast, ih fun hm => h (List.mem_cons_of_mem v hm)]
    exact if_neg hprefix

theorem afterLast_link (h : 47 ∉ text) (base : JsString) :
    afterLast (js "/p/") (base ++ (js "/p/" ++ text)) = some text := by
  induction base with
  | cons v base ih => rw [List.cons_append, afterLast, ih]
  | nil =>
    have hnone : afterLast (js "/p/") text = none :=
      afterLast_none (show (47 : UInt16) ∈ js "/p/" by decide) h
    have hslash : ¬(js "/p/").isPrefixOf (47 :: text) = true := by
      intro hp
      obtain ⟨rest, he⟩ := List.isPrefixOf_iff_prefix.mp hp
      have htext : text = 112 :: 47 :: rest := (List.cons.inj he).2.symm
      exact h (htext ▸ List.mem_cons_of_mem _ List.mem_cons_self)
    have hletter : ¬(js "/p/").isPrefixOf (112 :: 47 :: text) = true := by
      intro hp
      obtain ⟨rest, he⟩ := List.isPrefixOf_iff_prefix.mp hp
      exact absurd (List.cons.inj he).1 (by decide)
    change afterLast (js "/p/") (47 :: 112 :: 47 :: text) = some text
    simp only [afterLast, hnone, if_neg hslash, if_neg hletter]
    rfl

end Links

/-- A text that stands for a value, before whatever follows it. -/
structure Faithful (text : JsString) (value : JsValue) : Prop where
  reads : Reads text value
  opens : Opens text
  wellFormed : ∀ rest, WellFormed rest → WellFormed (text ++ rest)

/-- The text of a member that stands for it. -/
def FaithfulMember (text : JsString) (field : JsString × JsValue) : Prop :=
  ∃ value, text = jsonString field.1 ++ 58 :: value ∧ Faithful value field.2

section Texts

variable {H : Host}

/-- A text of plain characters. -/
theorem plain_wellFormed {text rest : JsString} (h : ∀ u ∈ text, u.toNat < 0xD800)
    (hr : WellFormed rest) : WellFormed (text ++ rest) := by
  refine WellFormed.append (fun u hu => ?_) hr
  have hlow := h u hu
  simp only [isSurrogate, Bool.and_eq_false_iff, decide_eq_false_iff_not]
  omega

theorem faithful_number (h : H.Prints n) : Faithful (jsonNumber H n) (.num n) := by
  have hall : (js "+-.0123456789e").all (fun u => decide (u.toNat < 0xD800 ∧ isSpace u = false ∧
      u ≠ 34 ∧ u ≠ 91 ∧ u ≠ 93 ∧ u ≠ 123 ∧ u ≠ 110 ∧ u ≠ 116 ∧ u ≠ 102)) = true := by decide
  have hunits (u : UInt16) (hu : u ∈ js "+-.0123456789e") :=
    of_decide_eq_true (List.all_eq_true.mp hall u hu)
  obtain ⟨u, text, htext⟩ : ∃ u text, jsonNumber H n = u :: text := by
    cases htext : jsonNumber H n with
    | cons u text => exact ⟨u, text, rfl⟩
    | nil =>
      have hread := h.read [] True.intro
      rw [htext] at hread
      cases hread
  have hhead : u ∈ js "+-.0123456789e" := h.plain u (htext ▸ List.mem_cons_self)
  obtain ⟨-, hspace, hquote, hopen, hclose, hbrace, hn, ht, hf⟩ := hunits u hhead
  refine ⟨fun fuel rest hfuel he => ?_, ⟨u, text, htext, hspace, hclose⟩,
    fun rest => plain_wellFormed fun v hv => (hunits v (h.plain v hv)).1⟩
  obtain ⟨fuel, rfl, -⟩ := fuel_succ (by rw [htext]; exact List.cons_ne_nil _ _) hfuel
  have hread := h.read rest he
  rw [htext, List.cons_append] at hread ⊢
  refine ⟨_, ?_, .num⟩
  rw [parseValue_cons hspace, if_neg hquote, if_neg hopen, if_neg hbrace, if_neg hn, if_neg ht,
    if_neg hf, hread]
  rfl

theorem faithful_string (s : JsString) : Faithful (jsonString s) (.str s) where
  reads := reads_string s
  opens := ⟨34, _, rfl, by decide, by decide⟩
  wellFormed _ := jsonString_wellFormed s

/-- A word that names a value. -/
theorem faithful_word {word : JsString} (hr : Reads word value) (ho : Opens word)
    (hw : word.all (fun u => u.toNat < 0xD800) = true) : Faithful word value :=
  ⟨hr, ho, fun _ => plain_wellFormed fun u hu => of_decide_eq_true (List.all_eq_true.mp hw u hu)⟩

/-- A unit below the surrogates before a text. -/
theorem wellFormed_cons {u : UInt16} (hu : u.toNat < 0xD800) (h : WellFormed s) :
    WellFormed (u :: s) := by
  have hunit : ∀ v ∈ [u], v.toNat < 0xD800 := List.forall_mem_singleton.mpr hu
  exact plain_wellFormed hunit h

theorem partner_of_mem {R : α → β → Prop} {xs : List α} {ys : List β} (h : List.Forall₂ R xs ys) :
    ∀ x ∈ xs, ∃ y, R x y := by
  induction h with
  | nil => exact nofun
  | cons hr _ ih => exact List.forall_mem_cons.mpr ⟨⟨_, hr⟩, ih⟩

theorem faithful_array {texts : List JsString} {items : List JsValue}
    (h : List.Forall₂ Faithful texts items) :
    Faithful (91 :: (joinComma texts ++ [93])) (.arr items) where
  reads := by
    refine reads_array (h.imp fun _ _ hf => hf.reads) fun text ht => ?_
    obtain ⟨value, hf⟩ := partner_of_mem h text ht
    exact hf.opens
  opens := ⟨91, _, rfl, by decide, by decide⟩
  wellFormed rest hr := by
    rw [List.cons_append, List.append_assoc]
    refine wellFormed_cons (by decide) (joinComma_wellFormed (fun text ht t => ?_) ?_)
    · obtain ⟨value, hf⟩ := partner_of_mem h text ht
      exact hf.wellFormed t
    · exact wellFormed_cons (by decide) hr

theorem faithful_object {texts : List JsString} {fields : JsObject}
    (h : List.Forall₂ FaithfulMember texts fields) (hk : (fields.map Prod.fst).Nodup) :
    Faithful (123 :: (joinComma texts ++ [125])) (.obj fields) where
  reads := by
    refine reads_object (List.Perm.refl fields) (h.imp fun _ _ hf => ?_) hk
    obtain ⟨value, ht, hf⟩ := hf
    exact ⟨value, ht, hf.reads⟩
  opens := ⟨123, _, rfl, by decide, by decide⟩
  wellFormed rest hr := by
    rw [List.cons_append, List.append_assoc]
    refine wellFormed_cons (by decide) (joinComma_wellFormed (fun text ht t hw => ?_) ?_)
    · obtain ⟨field, value, rfl, hf⟩ := partner_of_mem h text ht
      rw [List.append_assoc, List.cons_append]
      exact jsonString_wellFormed _ (wellFormed_cons (by decide) (hf.wellFormed t hw))
    · exact wellFormed_cons (by decide) hr

theorem jsonKeptFields_sublist (fields : JsObject) :
    ((jsonKeptFields fields).map Prod.fst).Sublist (fields.map Prod.fst) := by
  induction fields with
  | nil => exact .slnil
  | cons field fields ih =>
    obtain ⟨key, child⟩ := field
    cases child <;> simp only [jsonKeptFields, List.map_cons]
    case undefined => exact ih.cons key
    all_goals exact ih.cons_cons key

theorem jsonStringify_cases (H : Host) (value : JsValue) :
    value = .undefined ∨ value ≠ .undefined ∧ ∃ text, jsonStringify H value = some text := by
  cases value <;> simp [jsonStringify]

theorem jsonKeptItems_cons (h : item ≠ .undefined) :
    jsonKeptItems (item :: items) = jsonKept item :: jsonKeptItems items := by
  cases item with
  | undefined => exact absurd rfl h
  | _ => rfl

theorem jsonKeptFields_cons (h : child ≠ .undefined) :
    jsonKeptFields ((key, child) :: fields) = (key, jsonKept child) :: jsonKeptFields fields := by
  cases child with
  | undefined => exact absurd rfl h
  | _ => rfl

mutual
/-- The text of a value stands for what it keeps. -/
theorem jsonStringify_faithful (H : Host) : ∀ (value : JsValue) (text : JsString),
    Legible H value → jsonStringify H value = some text → Faithful text (jsonKept value)
  | .null, _, _, h => by
    cases h
    exact faithful_word reads_null ⟨110, _, rfl, by decide, by decide⟩ (by decide)
  | .bool true, _, _, h => by
    cases h
    exact faithful_word reads_true ⟨116, _, rfl, by decide, by decide⟩ (by decide)
  | .bool false, _, _, h => by
    cases h
    exact faithful_word reads_false ⟨102, _, rfl, by decide, by decide⟩ (by decide)
  | .num n, _, hl, h => by
    cases h
    exact faithful_number hl
  | .str s, _, _, h => by
    cases h
    exact faithful_string s
  | .arr items, _, hl, h => by
    cases h
    exact faithful_array (stringifyItems_faithful H items hl)
  | .obj fields, _, hl, h => by
    cases h
    exact faithful_object (stringifyFields_faithful H fields hl.2)
      (hl.1.sublist (jsonKeptFields_sublist fields))

theorem stringifyItems_faithful (H : Host) : ∀ items : List JsValue, LegibleItems H items →
    List.Forall₂ Faithful (stringifyItems H items) (jsonKeptItems items)
  | [], _ => .nil
  | item :: items, hl => by
    have hrest := stringifyItems_faithful H items hl.2
    rcases jsonStringify_cases H item with rfl | ⟨hitem, text, htext⟩
    · change List.Forall₂ Faithful (js "null" :: stringifyItems H items)
        (.null :: jsonKeptItems items)
      exact .cons (faithful_word reads_null ⟨110, _, rfl, by decide, by decide⟩ (by decide)) hrest
    · rw [stringifyItems, htext, jsonKeptItems_cons hitem]
      exact .cons (jsonStringify_faithful H item text hl.1 htext) hrest

theorem stringifyFields_faithful (H : Host) : ∀ fields : JsObject, LegibleFields H fields →
    List.Forall₂ FaithfulMember (stringifyFields H fields) (jsonKeptFields fields)
  | [], _ => .nil
  | (key, child) :: fields, hl => by
    have hrest := stringifyFields_faithful H fields hl.2
    rw [stringifyFields]
    rcases jsonStringify_cases H child with rfl | ⟨hchild, text, htext⟩
    · exact hrest
    · rw [htext, jsonKeptFields_cons hchild]
      exact .cons ⟨text, rfl, jsonStringify_faithful H child text hl.1 htext⟩ hrest
end

/-- The text of an integer, where the host writes its digits. -/
theorem prints_ofInt {z : Int} (hz : z.natAbs < 2 ^ 53) (h : H.numberText z = intText z) :
    H.Prints (.ofInt z) where
  plain := by
    have hdigits : ∀ u ∈ natText z.natAbs, u ∈ js "+-.0123456789e" := by
      intro u hu
      have hdigit := natText_digits z.natAbs u hu
      simp only [isDigitUnit, Bool.and_eq_true, decide_eq_true_eq] at hdigit
      have hmem := (by decide : ∀ n : Fin 10, UInt16.ofNat (48 + n.val) ∈ js "+-.0123456789e")
        ⟨u.toNat - 48, by omega⟩
      rwa [Nat.add_sub_cancel' hdigit.1, UInt16.ofNat_toNat] at hmem
    change ∀ u ∈ H.numberText z, _
    rw [h, intText]
    split
    · exact List.forall_mem_cons.mpr ⟨by decide, hdigits⟩
    · exact hdigits
  read rest he := by
    change parseNumber (H.numberText z ++ rest) = _
    rw [h, parseNumber_intText hz he]

/-- A link to a bundle, made with a base that ends with the mark, leads back to the bundle without
its undefined fields, whatever texts it has. -/
theorem decodeProofLink_encodeProofLink (H : Host) (fields : JsObject) (baseUrl : JsString)
    (hl : Legible H (.obj fields)) (hb : baseUrl = [] ∨ js "/p/" <:+ baseUrl) :
    ∃ link value, encodeProofLink H (.obj fields) baseUrl = .ok link ∧
      decodeProofLink link = .ok value ∧ SameValue value (jsonKept (.obj fields)) := by
  obtain ⟨text, htext⟩ : ∃ text, jsonStringify H (.obj fields) = some text := ⟨_, rfl⟩
  have hfaithful := jsonStringify_faithful H _ text hl htext
  have hslash : 47 ∉ Base64.encode (textEncode text) :=
    fun hm => (Base64.encode_plain _ 47 hm).2 rfl
  have hpayload : (afterLast (js "/p/") (baseUrl ++ Base64.encode (textEncode text))).getD
      (baseUrl ++ Base64.encode (textEncode text)) = Base64.encode (textEncode text) := by
    rcases hb with rfl | ⟨base, rfl⟩
    · rw [List.nil_append, afterLast_none (show (47 : UInt16) ∈ js "/p/" by decide) hslash]
      rfl
    · rw [List.append_assoc, afterLast_link hslash]
      rfl
  have hwell : WellFormed text := by
    have happend := hfaithful.wellFormed [] True.intro
    rwa [List.append_nil] at happend
  obtain ⟨value, hparse, hsame⟩ := hfaithful.reads (2 * text.length + 2) [] (by omega) True.intro
  rw [List.append_nil] at hparse
  refine ⟨_, value, by rw [encodeProofLink, htext]; rfl, ?_, hsame⟩
  rw [decodeProofLink, hpayload, Base64.decode_encode, textDecode_wellFormed hwell, jsonParse,
    hparse]
  rfl

end Texts

/-- A lone surrogate, a negative number and a field that JSON leaves out. -/
def linkedFields : JsObject :=
  [(js "note", .str [0xD83D, 233]), (js "proof", .arr [.num (.ofInt (-2)), .undefined]),
    (js "envelope", .undefined)]

theorem decodeProofLink_encodeProofLink_sample :
    let H := sampleHost (recorded [] [] fun _ => [])
    (encodeProofLink H (.obj linkedFields) (js "http://localhost:8090/p/")).toOption =
        some (js "http://localhost:8090/p/eyJub3RlIjoiXHVkODNkw6kiLCJwcm9vZiI6Wy0yLG51bGxdfQ") ∧
      ∃ link value,
        encodeProofLink H (.obj linkedFields) (js "http://localhost:8090/p/") = .ok link ∧
        decodeProofLink link = .ok value ∧ SameValue value (jsonKept (.obj linkedFields)) := by
  intro H
  have hprints : H.Prints (.ofInt (-2)) := prints_ofInt (by decide) rfl
  have hl : Legible H (.obj linkedFields) :=
    ⟨by decide, True.intro, ⟨hprints, True.intro, True.intro⟩, True.intro, True.intro⟩
  refine ⟨by decide, ?_⟩
  exact decodeProofLink_encodeProofLink H linkedFields _ hl (.inr ⟨js "http://localhost:8090", rfl⟩)

end Continuity

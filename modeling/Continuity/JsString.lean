import Mathlib.Data.List.Basic
import Mathlib.Data.List.Infix
import Mathlib.Tactic.Ring

namespace Continuity
set_option autoImplicit true

/-- A JavaScript string is its sequence of UTF-16 code units. -/
abbrev JsString := List UInt16

/-- Code units are compared by their numbers, which the kernel does in one step. -/
instance (priority := 2000) decEqUnit : DecidableEq UInt16 := fun a b =>
  match h : Nat.beq a.toNat b.toNat with
  | true => isTrue (UInt16.toNat_inj.mp (Nat.eq_of_beq_eq_true h))
  | false => isFalse fun e => Nat.ne_of_beq_eq_false h (congrArg UInt16.toNat e)

abbrev Bytes := List UInt8

abbrev Hex32 := JsString
abbrev HexSig := JsString
abbrev TrustID := JsString
abbrev RFC3339 := JsString

/-- Code that throws returns the message of the error it throws. -/
abbrev Js := Except String

/-- A string literal of the source; they are all ASCII, one byte for each code unit. -/
def js (s : String) : JsString := s.toByteArray.data.toList.map UInt8.toUInt16

/-- JavaScript truthiness of an optional string: absent and empty are falsy. -/
def truthy (s : Option JsString) : Bool :=
  match s with
  | some t => !t.isEmpty
  | none => false

theorem truthy_iff : truthy s = true ↔ ∃ t, s = some t ∧ t ≠ [] := by
  cases s with
  | none => simp [truthy]
  | some t => simp [truthy]

/-- Two successful computations in sequence. -/
theorem bind_eq_ok {x : Except ε α} {f : α → Except ε β} :
    (x >>= f) = .ok b ↔ ∃ a, x = .ok a ∧ f a = .ok b := by
  cases x with
  | error e => simp [bind, Except.bind]
  | ok a => simp [bind, Except.bind]

theorem bind_total {x : Js α} {f : α → Js β} (hx : ∃ a, x = .ok a)
    (hf : ∀ a, x = .ok a → ∃ b, f a = .ok b) : ∃ b, (x >>= f) = .ok b := by
  obtain ⟨a, ha⟩ := hx
  obtain ⟨b, hb⟩ := hf a ha
  exact ⟨b, bind_eq_ok.mpr ⟨a, ha, hb⟩⟩

theorem map_eq_ok {x : Js α} {f : α → β} : f <$> x = .ok b ↔ ∃ a, x = .ok a ∧ f a = b := by
  cases x with
  | error e => simp [Functor.map, Except.map]
  | ok a => simp [Functor.map, Except.map]

theorem mapM_eq_map {f : α → Js β} {g : α → β} {xs : List α} (h : ∀ x ∈ xs, f x = .ok (g x)) :
    xs.mapM f = .ok (xs.map g) := by
  induction xs with
  | nil => rfl
  | cons x xs ih =>
    rw [List.mapM_cons, h x List.mem_cons_self,
      ih fun y hy => h y (List.mem_cons_of_mem x hy)]
    rfl

/-- A successful `mapM` succeeds on each item. -/
theorem mapM_eq_ok {f : α → Except ε β} (h : xs.mapM f = .ok ys) :
    List.Forall₂ (fun x y => f x = .ok y) xs ys := by
  induction xs generalizing ys with
  | nil =>
    cases h
    exact .nil
  | cons x xs ih =>
    rw [List.mapM_cons] at h
    obtain ⟨y, hy, h⟩ := bind_eq_ok.mp h
    obtain ⟨rest, hr, h⟩ := bind_eq_ok.mp h
    cases h
    exact .cons hy (ih hr)

theorem mapM_mem {f : α → Js β} {xs : List α} (h : xs.mapM f = .ok ys) (hx : x ∈ xs) :
    ∃ y ∈ ys, f x = .ok y := by
  have hpairs := mapM_eq_ok h
  clear h
  induction hpairs with
  | nil => cases hx
  | cons hy _ ih =>
    rcases List.mem_cons.mp hx with rfl | hx
    · exact ⟨_, List.mem_cons_self, hy⟩
    · obtain ⟨y, hm, he⟩ := ih hx
      exact ⟨y, List.mem_cons_of_mem _ hm, he⟩

/-- What holds of every result holds of all results. -/
theorem mapM_forall {f : α → Except ε β} {Q : β → Prop} {items : List α}
    (h : ∀ a ∈ items, ∀ b, f a = .ok b → Q b) (hm : items.mapM f = .ok results) :
    ∀ b ∈ results, Q b := by
  have hpairs := mapM_eq_ok hm
  clear hm
  induction hpairs with
  | nil => simp
  | cons hb _ ih =>
    intro c hc
    rcases List.mem_cons.mp hc with rfl | hc
    · exact h _ List.mem_cons_self c hb
    · exact ih (fun a ha => h a (List.mem_cons_of_mem _ ha)) c hc

def isHexDigit (u : UInt16) : Bool :=
  (48 ≤ u && u ≤ 57) || (97 ≤ u && u ≤ 102) || (65 ≤ u && u ≤ 70)

def toLowerHex (u : UInt16) : UInt16 := if 65 ≤ u && u ≤ 70 then u + 32 else u

def stripHexMark : JsString → JsString
  | 48 :: 120 :: rest => rest
  | hex => hex

/-- The digits of a hex string: marker stripped, even in number, in lower case. -/
def normalizeHex (hex : JsString) : Js JsString :=
  let stripped := stripHexMark hex
  if stripped.length % 2 ≠ 0 then throw "Hex string must have an even number of characters"
  else if !stripped.all isHexDigit then throw "Invalid hex string"
  else pure (stripped.map toLowerHex)

def hexValue (u : UInt16) : UInt8 := if u < 58 then (u - 48).toUInt8 else (u - 87).toUInt8

def nobleHexToBytes : JsString → Bytes
  | a :: b :: rest => (hexValue a * 16 + hexValue b) :: nobleHexToBytes rest
  | _ => []

def hexToBytes (hex : JsString) : Js Bytes := do
  let digits ← normalizeHex hex
  return nobleHexToBytes digits

/-- The bytes of a hex string that decodes. -/
def hexBytes (hex : JsString) : Bytes :=
  match hexToBytes hex with
  | .ok bytes => bytes
  | .error _ => []

def hexChar (n : UInt8) : UInt16 := if n < 10 then 48 + n.toUInt16 else 87 + n.toUInt16

def hexDigits (b : UInt8) : JsString := [hexChar (b / 16), hexChar (b % 16)]

def bytesToHex (bytes : Bytes) : JsString := 48 :: 120 :: bytes.flatMap hexDigits

theorem hexChar_fin : ∀ n : Fin 256, isHexDigit (hexChar (UInt8.ofFin n / 16)) = true ∧
    isHexDigit (hexChar (UInt8.ofFin n % 16)) = true ∧
    toLowerHex (hexChar (UInt8.ofFin n / 16)) = hexChar (UInt8.ofFin n / 16) ∧
    toLowerHex (hexChar (UInt8.ofFin n % 16)) = hexChar (UInt8.ofFin n % 16) ∧
    hexValue (hexChar (UInt8.ofFin n / 16)) * 16 + hexValue (hexChar (UInt8.ofFin n % 16)) =
      UInt8.ofFin n := by
  decide +kernel

theorem hexDigits_all (bytes : Bytes) : (bytes.flatMap hexDigits).all isHexDigit = true := by
  induction bytes with
  | nil => rfl
  | cons b rest ih =>
    obtain ⟨hh, hl, -⟩ := hexChar_fin b.toFin
    simp only [UInt8.ofFin_toFin] at hh hl
    simp only [List.flatMap_cons, List.all_append, ih, Bool.and_true, hexDigits,
      List.all_cons, hh, hl, List.all_nil]

theorem hexDigits_lower (bytes : Bytes) :
    (bytes.flatMap hexDigits).map toLowerHex = bytes.flatMap hexDigits := by
  induction bytes with
  | nil => rfl
  | cons b rest ih =>
    obtain ⟨-, -, hh, hl, -⟩ := hexChar_fin b.toFin
    simp only [UInt8.ofFin_toFin] at hh hl
    simp only [List.flatMap_cons, List.map_append, ih, hexDigits, List.map_cons, hh, hl,
      List.map_nil]

theorem hexDigits_length (bytes : Bytes) :
    (bytes.flatMap hexDigits).length = 2 * bytes.length := by
  induction bytes with
  | nil => rfl
  | cons b rest ih =>
    simp only [List.flatMap_cons, List.length_append, ih, hexDigits, List.length_cons,
      List.length_nil]
    omega

theorem nobleHexToBytes_hexDigits (bytes : Bytes) :
    nobleHexToBytes (bytes.flatMap hexDigits) = bytes := by
  induction bytes with
  | nil => rfl
  | cons b rest ih =>
    obtain ⟨-, -, -, -, hv⟩ := hexChar_fin b.toFin
    simp only [UInt8.ofFin_toFin] at hv
    simp only [List.flatMap_cons, hexDigits, List.cons_append, List.nil_append, nobleHexToBytes,
      ih, hv]

/-- Decoding undoes encoding. -/
@[simp] theorem hexToBytes_bytesToHex (bytes : Bytes) :
    hexToBytes (bytesToHex bytes) = .ok bytes := by
  have hl : (bytes.flatMap hexDigits).length % 2 = 0 := by rw [hexDigits_length]; omega
  simp only [hexToBytes, normalizeHex, bytesToHex, stripHexMark, hl, hexDigits_all,
    hexDigits_lower]
  simp [bind, Except.bind, pure, Except.pure, nobleHexToBytes_hexDigits]

theorem hexBytes_ok (h : hexToBytes hex = .ok bytes) : hexBytes hex = bytes := by
  simp only [hexBytes, h]

theorem bytesToHex_injective (h : bytesToHex a = bytesToHex b) : a = b := by
  have he := congrArg hexToBytes h
  simpa only [hexToBytes_bytesToHex, Except.ok.injEq] using he

theorem bytesToHex_ne_nil (bytes : Bytes) : bytesToHex bytes ≠ [] := by
  simp [bytesToHex]

@[simp] theorem truthy_bytesToHex (bytes : Bytes) : truthy (some (bytesToHex bytes)) = true := by
  simp [truthy, bytesToHex]

/-- Cutting at the first separator gives back what stands before and after it. -/
theorem separator_split {c : α} {s t a b : List α} (hs : c ∉ s) (ht : c ∉ t)
    (h : s ++ c :: a = t ++ c :: b) : s = t ∧ a = b := by
  induction s generalizing t with
  | nil =>
    cases t with
    | nil => simpa using h
    | cons d t =>
      simp only [List.nil_append, List.cons_append, List.cons.injEq] at h
      exact (ht (by simp [← h.1])).elim
  | cons e s ih =>
    cases t with
    | nil =>
      simp only [List.nil_append, List.cons_append, List.cons.injEq] at h
      exact (hs (by simp [h.1])).elim
    | cons d t =>
      simp only [List.cons_append, List.cons.injEq] at h
      obtain ⟨he, hr⟩ := h
      obtain ⟨hst, hab⟩ := ih (fun hm => hs (by simp [hm])) (fun hm => ht (by simp [hm])) hr
      exact ⟨by rw [he, hst], hab⟩

end Continuity

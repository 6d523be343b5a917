import Continuity.ChainRevocation

namespace Continuity
set_option autoImplicit true

theorem ok_bind (a : α) (f : α → Js β) : ((.ok a : Js α) >>= f) = f a := rfl

/-- A digit of the lower-case hex texts of the schemas. -/
def isLowerHexDigit (u : UInt16) : Bool := (48 ≤ u && u ≤ 57) || (97 ≤ u && u ≤ 102)

/-- The hex text of a word. -/
def wordText (word : Bytes32) : JsString := bytesToHex (wordBytes word)

/-! The ethers package on hex texts and on the values of a call. -/

namespace Abi

/-- `getBytes` of a text: an even number of hex digits behind the marker. -/
def bytesLike (text : JsString) : Js Bytes :=
  if (js "0x").isPrefixOf text && text.length % 2 == 0 && (text.drop 2).all isHexDigit then
    return hexBytes text
  else throw "invalid BytesLike value"

def zeroPadValue (text : JsString) (length : Nat) : Js JsString := do
  let bytes ← bytesLike text
  if length < bytes.length then throw "padding exceeds data length"
  else return bytesToHex (List.replicate (length - bytes.length) 0 ++ bytes)

def bytes32 (text : JsString) : Js Bytes32 := do
  let bytes ← bytesLike text
  if bytes.length ≠ 32 then throw "incorrect data length" else return wordOfBytes bytes

def uint64 (z : Int) : Js UInt64 :=
  if z < 0 ∨ 2 ^ 64 ≤ z then throw "value out-of-bounds" else return .ofNat z.toNat

def uint32 (n : JsNumber) : Js UInt32 := do
  let value ← encodeUint 32 n
  return .ofNat value

end Abi

section Padding

variable {α : Type} [DecidableEq α] (z : α)

/-- A list filled up at its front to a length. -/
def padFront (n : Nat) (l : List α) : List α := List.replicate (n - l.length) z ++ l

theorem takeWhile_fill (l : List α) :
    l.takeWhile (· == z) = List.replicate (l.takeWhile (· == z)).length z := by
  apply List.eq_replicate_of_mem
  intro a ha
  exact beq_iff_eq.mp (List.all_eq_true.mp List.all_takeWhile a ha)

/-- What is filled in and what a list starts with are not told apart. -/
theorem padFront_dropWhile (h : l.length ≤ n) :
    padFront z n (l.dropWhile (· == z)) = padFront z n l := by
  have hsplit := List.takeWhile_append_dropWhile (p := (· == z)) (l := l)
  have hlen := congrArg List.length hsplit
  rw [List.length_append] at hlen
  have hl : l = List.replicate (l.takeWhile (· == z)).length z ++ l.dropWhile (· == z) := by
    rw [← takeWhile_fill, hsplit]
  rw [padFront, padFront]
  nth_rewrite 4 [hl]
  rw [← List.append_assoc, List.replicate_append_replicate]
  congr 2
  omega

theorem dropWhile_padFront (n : Nat) (l : List α) :
    (padFront z n l).dropWhile (· == z) = l.dropWhile (· == z) := by
  rw [padFront]
  induction n - l.length with
  | zero => rfl
  | succ k ih =>
    rw [List.replicate_succ, List.cons_append, List.dropWhile_cons,
      if_pos (beq_self_eq_true z), ih]

theorem padFront_eq_iff {a b : List α} (ha : a.length ≤ n) (hb : b.length ≤ n) :
    padFront z n a = padFront z n b ↔ a.dropWhile (· == z) = b.dropWhile (· == z) := by
  constructor
  · intro h
    rw [← dropWhile_padFront z n a, h, dropWhile_padFront]
  · intro h
    rw [← padFront_dropWhile z ha, h, padFront_dropWhile z hb]

end Padding

section HexTexts

theorem hexChar_pairs : ∀ a b : Fin 16,
    hexDigits (hexValue (hexChar (UInt8.ofNat a)) * 16 + hexValue (hexChar (UInt8.ofNat b))) =
      [hexChar (UInt8.ofNat a), hexChar (UInt8.ofNat b)] := by
  decide

theorem hexChar_lower : ∀ n : Fin 16, isLowerHexDigit (hexChar (UInt8.ofNat n)) = true ∧
    isHexDigit (hexChar (UInt8.ofNat n)) = true ∧
    toLowerHex (hexChar (UInt8.ofNat n)) = hexChar (UInt8.ofNat n) := by
  decide

theorem lowerHexDigit_char (h : isLowerHexDigit u = true) :
    ∃ n : Fin 16, u = hexChar (UInt8.ofNat n) := by
  simp only [isLowerHexDigit, Bool.or_eq_true, Bool.and_eq_true, decide_eq_true_eq,
    UInt16.le_iff_toNat_le] at h
  have hall : ∀ m : Fin 103, (48 ≤ m.val ∧ m.val ≤ 57) ∨ (97 ≤ m.val ∧ m.val ≤ 102) →
      ∃ n : Fin 16, UInt16.ofNat m = hexChar (UInt8.ofNat n) := by decide
  have hlt : u.toNat < 103 := by
    rcases h with h | h
    · exact Nat.lt_of_le_of_lt h.2 (by decide)
    · exact Nat.lt_of_le_of_lt h.2 (by decide)
  obtain ⟨n, hn⟩ := hall ⟨u.toNat, hlt⟩ h
  exact ⟨n, by rw [← hn, UInt16.ofNat_toNat]⟩

/-- A text of lower-case hex digits, in pairs. -/
def LowerHex (digits : JsString) : Prop :=
  digits.all isLowerHexDigit = true ∧ digits.length % 2 = 0

theorem LowerHex.all_hex {digits : JsString} (h : LowerHex digits) :
    digits.all isHexDigit = true ∧ digits.map toLowerHex = digits := by
  have hall := List.all_eq_true.mp h.1
  refine ⟨List.all_eq_true.mpr ?_, ?_⟩
  · intro u hu
    obtain ⟨n, rfl⟩ := lowerHexDigit_char (hall u hu)
    exact (hexChar_lower n).2.1
  · nth_rewrite 2 [← List.map_id digits]
    apply List.map_congr_left
    intro u hu
    obtain ⟨n, rfl⟩ := lowerHexDigit_char (hall u hu)
    exact (hexChar_lower n).2.2

/-- Encoding undoes decoding. -/
theorem hexDigits_nobleHexToBytes : ∀ digits : JsString, LowerHex digits →
    (nobleHexToBytes digits).flatMap hexDigits = digits
  | [], _ => rfl
  | [u], h => absurd h.2 (by simp)
  | a :: b :: rest, ⟨hall, hlen⟩ => by
    simp only [List.all_cons, Bool.and_eq_true] at hall
    obtain ⟨n, rfl⟩ := lowerHexDigit_char hall.1
    obtain ⟨m, rfl⟩ := lowerHexDigit_char hall.2.1
    have ih := hexDigits_nobleHexToBytes rest ⟨hall.2.2, by
      simp only [List.length_cons] at hlen
      omega⟩
    rw [nobleHexToBytes, List.flatMap_cons, ih, hexChar_pairs]
    rfl

theorem hexToBytes_lower (h : LowerHex digits) :
    hexToBytes (48 :: 120 :: digits) = .ok (nobleHexToBytes digits) := by
  obtain ⟨hall, hmap⟩ := h.all_hex
  have hodd : ¬digits.length % 2 ≠ 0 := not_not_intro h.2
  simp only [hexToBytes, normalizeHex, stripHexMark, if_neg hodd, hall, hmap]
  rfl

theorem bytesToHex_lower (h : LowerHex digits) :
    bytesToHex (nobleHexToBytes digits) = 48 :: 120 :: digits := by
  rw [bytesToHex, hexDigits_nobleHexToBytes digits h]

theorem nobleHexToBytes_length : ∀ digits : JsString,
    (nobleHexToBytes digits).length = digits.length / 2
  | [] => rfl
  | [_] => by
    rw [nobleHexToBytes]
    · simp
    · intro high low rest h
      cases h
  | _ :: _ :: rest => by
    rw [nobleHexToBytes, List.length_cons, nobleHexToBytes_length rest, List.length_cons,
      List.length_cons]
    omega

theorem hexChar_lowerHex : ∀ n : Fin 256,
    isLowerHexDigit (hexChar (UInt8.ofFin n / 16)) = true ∧
      isLowerHexDigit (hexChar (UInt8.ofFin n % 16)) = true := by
  decide +kernel

theorem hexDigits_lowerHex (bytes : Bytes) : LowerHex (bytes.flatMap hexDigits) := by
  refine ⟨List.all_eq_true.mpr ?_, by rw [hexDigits_length]; omega⟩
  intro u hu
  obtain ⟨b, -, hb⟩ := List.mem_flatMap.mp hu
  obtain ⟨hhigh, hlow⟩ := hexChar_lowerHex b.toFin
  rw [UInt8.ofFin_toFin] at hhigh hlow
  rcases List.mem_cons.mp hb with rfl | hb
  · exact hhigh
  · rwa [List.mem_singleton.mp hb]

end HexTexts

section Words

theorem bigEndian_fold (bytes : Bytes) :
    bigEndian bytes.length (bytes.foldl (fun n b => n * 256 + b.toNat) 0) = bytes := by
  induction bytes using List.reverseRecOn with
  | nil => rfl
  | append_singleton bytes b ih =>
    have hb : b.toNat < 256 := b.toNat_lt
    rw [List.foldl_append, List.foldl_cons, List.foldl_nil, List.length_append,
      List.length_singleton, bigEndian]
    have hq : (bytes.foldl (fun n b => n * 256 + b.toNat) 0 * 256 + b.toNat) / 256 =
        bytes.foldl (fun n b => n * 256 + b.toNat) 0 := by omega
    have hr : UInt8.ofNat (bytes.foldl (fun n b => n * 256 + b.toNat) 0 * 256 + b.toNat) = b := by
      apply UInt8.toNat_inj.mp
      rw [UInt8.toNat_ofNat']
      omega
    rw [hq, ih, hr]

theorem fold_lt (bytes : Bytes) :
    bytes.foldl (fun n b => n * 256 + b.toNat) 0 < 256 ^ bytes.length := by
  induction bytes using List.reverseRecOn with
  | nil => exact Nat.one_pos
  | append_singleton bytes b ih =>
    have hb : b.toNat < 256 := b.toNat_lt
    rw [List.foldl_append, List.foldl_cons, List.foldl_nil, List.length_append,
      List.length_singleton, Nat.pow_succ]
    omega

/-- A word of 32 bytes has these bytes. -/
theorem wordBytes_wordOfBytes (h : bytes.length = 32) : wordBytes (wordOfBytes bytes) = bytes := by
  have hlt := fold_lt bytes
  have hfold := bigEndian_fold bytes
  rw [h] at hlt hfold
  rw [wordBytes, wordOfBytes, BitVec.toNat_ofNat, Nat.mod_eq_of_lt (by norm_num at hlt ⊢; exact hlt),
    hfold]

theorem wordBytes_length (word : Bytes32) : (wordBytes word).length = 32 := bigEndian_length 32 _

theorem wordOfBytes_wordBytes (word : Bytes32) : wordOfBytes (wordBytes word) = word :=
  wordBytes_injective (wordBytes_wordOfBytes (wordBytes_length word))

theorem wordText_injective (h : wordText a = wordText b) : a = b :=
  wordBytes_injective (bytesToHex_injective h)

end Words

namespace Abi

theorem bytesLike_bytesToHex (bytes : Bytes) : bytesLike (bytesToHex bytes) = .ok bytes := by
  have hl : (bytesToHex bytes).length % 2 = 0 := by
    simp only [bytesToHex, List.length_cons, hexDigits_length]
    omega
  have hd : ((bytesToHex bytes).drop 2).all isHexDigit = true := hexDigits_all bytes
  have hp : (js "0x").isPrefixOf (bytesToHex bytes) = true := by
    rw [bytesToHex]
    rfl
  unfold bytesLike
  simp only [hp, hl, hd, hexBytes_ok (hexToBytes_bytesToHex bytes), beq_self_eq_true,
    Bool.and_self, if_true]
  rfl

theorem bytes32_wordText (word : Bytes32) : bytes32 (wordText word) = .ok word := by
  refine bind_eq_ok.mpr ⟨wordBytes word, bytesLike_bytesToHex _, ?_⟩
  rw [if_neg (not_not_intro (wordBytes_length word)), wordOfBytes_wordBytes]
  rfl

theorem bytes32_bytesToHex (h : bytes.length = 32) :
    bytes32 (bytesToHex bytes) = .ok (wordOfBytes bytes) := by
  rw [← wordBytes_wordOfBytes h, ← wordText, bytes32_wordText, wordBytes_wordOfBytes h]

theorem bytes32_ok (h : bytes32 (bytesToHex bytes) = .ok word) : bytesToHex bytes = wordText word := by
  obtain ⟨bytes', hb, h⟩ := bind_eq_ok.mp h
  rw [bytesLike_bytesToHex] at hb
  cases hb
  split at h
  · cases h
  · next hl =>
    cases h
    rw [wordText, wordBytes_wordOfBytes (Decidable.not_not.mp hl)]

end Abi

end Continuity

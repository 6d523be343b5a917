import Mathlib.Data.List.TakeWhile

namespace Base64
set_option autoImplicit true

/-- Three bytes are four sextets; a last sextet is filled up with zeros. -/
def sextets : List UInt8 → List Nat
  | a :: b :: c :: rest =>
    a.toNat / 4 :: (a.toNat % 4 * 16 + b.toNat / 16) :: (b.toNat % 16 * 4 + c.toNat / 64) ::
      c.toNat % 64 :: sextets rest
  | [a, b] => [a.toNat / 4, a.toNat % 4 * 16 + b.toNat / 16, b.toNat % 16 * 4]
  | [a] => [a.toNat / 4, a.toNat % 4 * 16]
  | [] => []

/-- A last sextet without another is left out. -/
def bytesOf : List Nat → List UInt8
  | w :: x :: y :: z :: rest =>
    .ofNat (w * 4 + x / 16) :: .ofNat (x % 16 * 16 + y / 4) :: .ofNat (y % 4 * 64 + z) ::
      bytesOf rest
  | [w, x, y] => [.ofNat (w * 4 + x / 16), .ofNat (x % 16 * 16 + y / 4)]
  | [w, x] => [.ofNat (w * 4 + x / 16)]
  | _ => []

/-- The alphabet for texts of a URL. -/
def unit (n : Nat) : UInt16 :=
  if n < 26 then .ofNat (65 + n)
  else if n < 52 then .ofNat (71 + n)
  else if n < 62 then .ofNat (n - 4)
  else if n = 62 then 45
  else 95

/-- The sextet of a character of either alphabet. -/
def sextet? (u : UInt16) : Option Nat :=
  if 65 ≤ u && u ≤ 90 then some (u.toNat - 65)
  else if 97 ≤ u && u ≤ 122 then some (u.toNat - 71)
  else if 48 ≤ u && u ≤ 57 then some (u.toNat + 4)
  else if u = 43 || u = 45 then some 62
  else if u = 47 || u = 95 then some 63
  else none

/-- Without padding. -/
def encode (bytes : List UInt8) : List UInt16 := (sextets bytes).map unit

/-- Other characters are skipped, and padding ends the text. -/
def decode (text : List UInt16) : List UInt8 :=
  bytesOf ((text.takeWhile (· != 61)).filterMap sextet?)

theorem sextets_lt (bytes : List UInt8) : ∀ n ∈ sextets bytes, n < 64 := by
  induction bytes using sextets.induct with
  | case1 a b c rest ih =>
    have ha := a.toNat_lt
    have hb := b.toNat_lt
    have hc := c.toNat_lt
    simp only [sextets, List.forall_mem_cons]
    exact ⟨by omega, by omega, by omega, by omega, ih⟩
  | case2 a b =>
    have ha := a.toNat_lt
    have hb := b.toNat_lt
    simp only [sextets, List.forall_mem_cons]
    exact ⟨by omega, by omega, by omega, nofun⟩
  | case3 a =>
    have ha := a.toNat_lt
    simp only [sextets, List.forall_mem_cons]
    exact ⟨by omega, by omega, nofun⟩
  | case4 => exact nofun

/-- A byte put together from its parts. -/
theorem ofNat_parts (a : UInt8) (h : n = a.toNat) : UInt8.ofNat n = a := by
  rw [h, UInt8.ofNat_toNat]

theorem bytesOf_sextets (bytes : List UInt8) : bytesOf (sextets bytes) = bytes := by
  induction bytes using sextets.induct with
  | case1 a b c rest ih =>
    have ha := a.toNat_lt
    have hb := b.toNat_lt
    have hc := c.toNat_lt
    rw [sextets, bytesOf, ih, ofNat_parts a (by omega), ofNat_parts b (by omega),
      ofNat_parts c (by omega)]
  | case2 a b =>
    have ha := a.toNat_lt
    have hb := b.toNat_lt
    rw [sextets, bytesOf, ofNat_parts a (by omega), ofNat_parts b (by omega)]
  | case3 a =>
    have ha := a.toNat_lt
    rw [sextets, bytesOf, ofNat_parts a (by omega)]
  | case4 => rfl

theorem sextet?_unit (h : n < 64) : sextet? (unit n) = some n :=
  (by decide : ∀ n : Fin 64, sextet? (unit n) = some n.val) ⟨n, h⟩

theorem unit_ne (h : n < 64) : unit n ≠ 61 ∧ unit n ≠ 47 :=
  (by decide : ∀ n : Fin 64, unit n ≠ 61 ∧ unit n ≠ 47) ⟨n, h⟩

theorem filterMap_units {ns : List Nat} (h : ∀ n ∈ ns, n < 64) :
    (ns.map unit).filterMap sextet? = ns := by
  induction ns with
  | nil => rfl
  | cons n rest ih =>
    rw [List.forall_mem_cons] at h
    rw [List.map_cons, List.filterMap_cons_some (sextet?_unit h.1), ih h.2]

/-- Neither padding nor a slash. -/
theorem encode_plain (bytes : List UInt8) : ∀ u ∈ encode bytes, u ≠ 61 ∧ u ≠ 47 := by
  intro u hu
  obtain ⟨n, hn, rfl⟩ := List.mem_map.mp hu
  exact unit_ne (sextets_lt bytes n hn)

theorem decode_encode (bytes : List UInt8) : decode (encode bytes) = bytes := by
  have hall : (encode bytes).takeWhile (· != 61) = encode bytes := by
    rw [List.takeWhile_eq_self_iff]
    exact fun u hu => bne_iff_ne.mpr (encode_plain bytes u hu).1
  rw [decode, hall, encode, filterMap_units (sextets_lt bytes), bytesOf_sextets]

end Base64

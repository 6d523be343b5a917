import Mathlib

/-! Hosts of web addresses and the texts that they are written as: names, addresses of 32 bits with
dots, and addresses of 128 bits with colons, where the longest run of zeros is left out. -/

namespace WebHosts
set_option autoImplicit true

/-- A text by its UTF-16 code units. -/
abbrev Text := List UInt16

section Digits

/-- A digit of a number to a base of at most sixteen, in lower case. -/
def digitUnit (d : Nat) : UInt16 := .ofNat (if d < 10 then 48 + d else 87 + d)

/-- A byte in decimal, without leading zeros. -/
def octetText (n : Nat) : Text :=
  if n < 10 then [digitUnit n]
  else if n < 100 then [digitUnit (n / 10), digitUnit (n % 10)]
  else [digitUnit (n / 100), digitUnit (n / 10 % 10), digitUnit (n % 10)]

/-- Two bytes in hexadecimal, without leading zeros. -/
def pieceText (n : Nat) : Text :=
  if n < 16 then [digitUnit n]
  else if n < 256 then [digitUnit (n / 16), digitUnit (n % 16)]
  else if n < 4096 then [digitUnit (n / 256), digitUnit (n / 16 % 16), digitUnit (n % 16)]
  else [digitUnit (n / 4096), digitUnit (n / 256 % 16), digitUnit (n / 16 % 16),
    digitUnit (n % 16)]

/-- A digit or a small letter up to `f`. -/
def IsDigit (u : UInt16) : Prop := (48 ≤ u ∧ u ≤ 57) ∨ (97 ≤ u ∧ u ≤ 102)

theorem digitUnit_isDigit (h : d < 16) : IsDigit (digitUnit d) := by
  have hall : ∀ e < 16, IsDigit (digitUnit e) := by
    simp only [IsDigit]
    decide
  exact hall d h

theorem octetText_isDigit (h : n < 256) : ∀ u ∈ octetText n, IsDigit u := by
  intro u hu
  rw [octetText] at hu
  split at hu
  · rw [List.mem_singleton] at hu
    rw [hu]
    exact digitUnit_isDigit (by omega)
  · split at hu
    · simp only [List.mem_cons, List.not_mem_nil, or_false] at hu
      rcases hu with rfl | rfl <;> exact digitUnit_isDigit (by omega)
    · simp only [List.mem_cons, List.not_mem_nil, or_false] at hu
      rcases hu with rfl | rfl | rfl <;> exact digitUnit_isDigit (by omega)

theorem pieceText_isDigit (h : n < 65536) : ∀ u ∈ pieceText n, IsDigit u := by
  intro u hu
  rw [pieceText] at hu
  split at hu
  · rw [List.mem_singleton] at hu
    rw [hu]
    exact digitUnit_isDigit (by omega)
  · split at hu
    · simp only [List.mem_cons, List.not_mem_nil, or_false] at hu
      rcases hu with rfl | rfl <;> exact digitUnit_isDigit (by omega)
    · split at hu
      · simp only [List.mem_cons, List.not_mem_nil, or_false] at hu
        rcases hu with rfl | rfl | rfl <;> exact digitUnit_isDigit (by omega)
      · simp only [List.mem_cons, List.not_mem_nil, or_false] at hu
        rcases hu with rfl | rfl | rfl | rfl <;> exact digitUnit_isDigit (by omega)

end Digits

section Addresses

/-- The bytes of an address of 32 bits. -/
def octets (address : BitVec 32) : List Nat :=
  [address.toNat / 2 ^ 24, address.toNat / 2 ^ 16 % 256, address.toNat / 2 ^ 8 % 256,
    address.toNat % 256]

def ipv4Text (address : BitVec 32) : Text := [46].intercalate ((octets address).map octetText)

/-- The pieces of 16 bits of an address of 128 bits. -/
def pieces (address : BitVec 128) : List Nat :=
  (List.range 8).map fun i => address.toNat / 2 ^ (112 - 16 * i) % 65536

/-- Where the first longest run of more than one zero starts, from a place with a run of zeros
before it on. -/
def longestZeros : List Nat → Nat → Option Nat → Nat → Nat → Option Nat
  | [], place, longest, size, found => if size < found then some (place - found) else longest
  | piece :: rest, place, longest, size, found =>
    if piece = 0 then longestZeros rest (place + 1) longest size (found + 1)
    else if size < found then longestZeros rest (place + 1) (some (place - found)) found 0
    else longestZeros rest (place + 1) longest size 0

def compressedPlace (pieces : List Nat) : Option Nat := longestZeros pieces 0 none 1 0

/-- The pieces from a place on; those of a run that is left out are skipped. -/
def writePieces (compressed : Option Nat) : List Nat → Nat → Bool → Text
  | [], _, _ => []
  | piece :: rest, place, skipping =>
    if skipping = true ∧ piece = 0 then writePieces compressed rest (place + 1) true
    else if compressed = some place then
      (if place = 0 then [58, 58] else [58]) ++ writePieces compressed rest (place + 1) true
    else pieceText piece ++ (if place < 7 then [58] else []) ++
      writePieces compressed rest (place + 1) false

def ipv6Text (address : BitVec 128) : Text :=
  writePieces (compressedPlace (pieces address)) (pieces address) 0 false

/-- The first bits of an address are those of the network. -/
def InBlock (address : BitVec w) (network bits : Nat) : Prop :=
  address.toNat / 2 ^ (w - bits) = network / 2 ^ (w - bits)

instance (address : BitVec w) (network bits : Nat) : Decidable (InBlock address network bits) :=
  inferInstanceAs (Decidable (_ = _))

theorem octets_lt (address : BitVec 32) : ∀ n ∈ octets address, n < 256 := by
  have hlt := address.isLt
  simp only [octets, List.mem_cons, List.not_mem_nil, or_false, forall_eq_or_imp, forall_eq]
  omega

/-- The text of an address is split at its dots into its bytes, by any test of equality. -/
theorem splitOn_ipv4Text [DecidableEq UInt16] (address : BitVec 32) :
    (ipv4Text address).splitOn 46 = (octets address).map octetText := by
  apply List.splitOn_intercalate 46
  · intro text ht hdot
    obtain ⟨n, hn, rfl⟩ := List.mem_map.mp ht
    have hdigit := octetText_isDigit (octets_lt address n hn) 46 hdot
    revert hdigit
    simp only [IsDigit]
    decide
  · nofun

theorem pieces_eq (address : BitVec 128) :
    pieces address = [address.toNat / 2 ^ 112 % 65536, address.toNat / 2 ^ 96 % 65536,
      address.toNat / 2 ^ 80 % 65536, address.toNat / 2 ^ 64 % 65536,
      address.toNat / 2 ^ 48 % 65536, address.toNat / 2 ^ 32 % 65536,
      address.toNat / 2 ^ 16 % 65536, address.toNat % 65536] := by
  simp [pieces, List.range_succ]

theorem pieces_lt (address : BitVec 128) : ∀ n ∈ pieces address, n < 65536 := by
  intro n hn
  obtain ⟨i, -, rfl⟩ := List.mem_map.mp hn
  exact Nat.mod_lt _ (by decide)

theorem mem_writePieces {list : List Nat} (h : ∀ n ∈ list, n < 65536) :
    ∀ u ∈ writePieces compressed list place skipping, IsDigit u ∨ u = 58 := by
  induction list generalizing place skipping with
  | nil => nofun
  | cons piece rest ih =>
    have hrest := fun n hn => h n (List.mem_cons_of_mem piece hn)
    intro u hu
    rw [writePieces] at hu
    split at hu
    · exact ih hrest u hu
    · split at hu
      · rcases List.mem_append.mp hu with hu | hu
        · right
          split at hu <;> simpa using hu
        · exact ih hrest u hu
      · rcases List.mem_append.mp hu with hu | hu
        · rcases List.mem_append.mp hu with hu | hu
          · exact .inl (pieceText_isDigit (h piece List.mem_cons_self) u hu)
          · right
            split at hu <;> simp_all
        · exact ih hrest u hu

theorem mem_ipv6Text (address : BitVec 128) : ∀ u ∈ ipv6Text address, IsDigit u ∨ u = 58 :=
  mem_writePieces (pieces_lt address)

theorem mem_ipv4Text_octet {address : BitVec 32} {u : UInt16} (hu : u ∈ ipv4Text address) :
    u = 46 ∨ ∃ n ∈ octets address, u ∈ octetText n := by
  simp only [ipv4Text, octets, List.map_cons, List.map_nil, List.intercalate_cons_cons,
    List.intercalate_singleton, List.mem_append, List.mem_cons, List.not_mem_nil, or_false,
    or_assoc] at hu
  simp only [octets, List.mem_cons, List.not_mem_nil, or_false, exists_eq_or_imp, exists_eq_left]
  tauto

theorem mem_ipv4Text (address : BitVec 32) : ∀ u ∈ ipv4Text address, IsDigit u ∨ u = 46 := by
  intro u hu
  rcases mem_ipv4Text_octet hu with rfl | ⟨n, hn, hd⟩
  · exact .inr rfl
  · exact .inl (octetText_isDigit (octets_lt address n hn) u hd)

theorem colon_mem_ipv6Text (address : BitVec 128) : 58 ∈ ipv6Text address := by
  rw [ipv6Text, pieces_eq, writePieces, if_neg (by simp)]
  split
  · exact List.mem_append_left _ (by simp)
  · exact List.mem_append_left _ (List.mem_append_right _ (by simp))

/-- A run of zeros does not start at the front when something else stands there. -/
theorem longestZeros_ne_zero {list : List Nat} (hfound : found < place) (h : longest ≠ some 0) :
    longestZeros list place longest size found ≠ some 0 := by
  induction list generalizing place longest size found with
  | nil =>
    rw [longestZeros]
    split
    · rw [ne_eq, Option.some.injEq]
      omega
    · exact h
  | cons piece rest ih =>
    rw [longestZeros]
    split
    · exact ih (by omega) h
    · split
      · apply ih (by omega)
        rw [ne_eq, Option.some.injEq]
        omega
      · exact ih (by omega) h

/-- An address that does not start with a zero is written from its first piece on. -/
theorem ipv6Text_first (hp : pieces address = piece :: rest) (h : piece ≠ 0) :
    ∃ tail, ipv6Text address = pieceText piece ++ 58 :: tail := by
  have hplace : compressedPlace (piece :: rest) ≠ some 0 := by
    rw [compressedPlace, longestZeros, if_neg h, if_neg (by decide)]
    exact longestZeros_ne_zero (by decide) nofun
  rw [ipv6Text, hp, writePieces, if_neg (by simp), if_neg hplace, if_pos (by decide),
    List.append_assoc]
  exact ⟨_, rfl⟩

theorem pieceText_long (h : 4096 ≤ n) : pieceText n = [digitUnit (n / 4096),
    digitUnit (n / 256 % 16), digitUnit (n / 16 % 16), digitUnit (n % 16)] := by
  rw [pieceText, if_neg (by omega), if_neg (by omega), if_neg (by omega)]

/-- The text of an address of 32 bits inside of one of 128 bits. -/
theorem ipv6Text_mapped (hp : pieces address = [0, 0, 0, 0, 0, 65535, high, low]) :
    ∃ tail, ipv6Text address = [58, 58] ++ pieceText 65535 ++ 58 :: tail := by
  have hplace : compressedPlace [0, 0, 0, 0, 0, 65535, high, low] = some 0 := by
    by_cases hhigh : high = 0 <;> by_cases hlow : low = 0 <;>
      simp [compressedPlace, longestZeros, hhigh, hlow]
  refine ⟨writePieces (some 0) [high, low] 6 false, ?_⟩
  rw [ipv6Text, hp, hplace]
  simp [writePieces]

end Addresses

section Hosts

/-- The host of a web address. -/
inductive WebHost where
  | domain (name : Text)
  | ipv4 (address : BitVec 32)
  | ipv6 (address : BitVec 128)

/-- How an address shows its host; addresses of 128 bits stand in brackets. -/
def WebHost.text : WebHost → Text
  | domain name => name
  | ipv4 address => ipv4Text address
  | ipv6 address => [91] ++ ipv6Text address ++ [93]

/-- Names are in small letters and without brackets. -/
def WebHost.Normal : WebHost → Prop
  | domain name => ∀ u ∈ name, u < 128 ∧ ¬(65 ≤ u ∧ u ≤ 90) ∧ u ≠ 91 ∧ u ≠ 93
  | ipv4 _ => True
  | ipv6 _ => True

instance : DecidablePred WebHost.Normal
  | .domain name =>
    letI : DecidableEq UInt16 := instDecidableEqUInt16
    List.decidableBAll (fun u => u < 128 ∧ ¬(65 ≤ u ∧ u ≤ 90) ∧ u ≠ 91 ∧ u ≠ 93) name
  | .ipv4 _ => .isTrue trivial
  | .ipv6 _ => .isTrue trivial

end Hosts

end WebHosts

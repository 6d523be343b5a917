import Mathlib
import Continuity.JsArithmetic
import Continuity.RevocationHistory

namespace Continuity
open Frames RevocationRegistry
set_option autoImplicit true

namespace JsNumber

/-- `n / divisor` for a positive divisor. -/
def dividedBy (n : JsNumber) (divisor : Nat) : JsNumber :=
  match n with
  | .fin q => .nearest (decide (q < 0)) (|q| / divisor)
  | n => n

end JsNumber

/-- The ethers package: the hash of a text, and the bytes of a hex text. -/
structure Ethers where
  id : JsString → Js Bytes32
  getBytes : JsString → Js Bytes

/-- A number as an unsigned integer of a contract: safe integers only, and what fits. -/
def encodeUint (bits : Nat) (n : JsNumber) : Js Nat :=
  match n.toInt? with
  | some z =>
    if !n.isSafeInteger then throw "overflow"
    else if z < 0 ∨ 2 ^ bits ≤ z then throw "value out-of-bounds"
    else return z.toNat
  | none => throw "underflow"

/-- `/^0x[0-9a-fA-F]{64}$/`. -/
def isWordText (text : JsString) : Bool :=
  (js "0x").isPrefixOf text && text.length == 66 && (text.drop 2).all isHexDigit

structure LocalEvmSettlementBackend where
  evm : Evm
  ethers : Ethers
  revocationRegistryAddress : Option JsString

structure RevocationInput where
  trustId : TrustID
  keyId : JsString
  reason : JsNumber
  effectiveAtMs : JsNumber
  replacementKeyId : Option JsString
  controllerSignature : Option JsString

/-- Who sends a transaction, and what the chain is like when it is mined. -/
structure Mined where
  sender : Address
  sender_ne : sender ≠ 0
  timestamp : UInt64
  foreign : Address → Bytes32 → CallOutcome

def Mined.transaction (m : Mined) (call : Call) : ChainTransaction :=
  { sender := m.sender, sender_ne := m.sender_ne, timestamp := m.timestamp,
    foreign := m.foreign, call }

namespace LocalEvmSettlementBackend

variable (B : LocalEvmSettlementBackend)

def textToBytes32 (text : JsString) : Js Bytes32 :=
  if isWordText text then return wordOfBytes (hexBytes text) else B.ethers.id text

def trustIdToBytes32 (trustId : TrustID) : Js Bytes32 := B.textToBytes32 trustId

def keyIdToBytes32 (keyId : JsString) : Js Bytes32 := B.textToBytes32 keyId

def replacementToBytes32 (keyId : Option JsString) : Js Bytes32 :=
  if truthy keyId then B.keyIdToBytes32 (keyId.getD []) else return 0

def revocationArguments (input : RevocationInput) : Js RevocationArguments := do
  let trustId ← B.trustIdToBytes32 input.trustId
  let key ← B.keyIdToBytes32 input.keyId
  let reason ← encodeUint 8 input.reason
  let effectiveAt ← encodeUint 64 (input.effectiveAtMs.dividedBy 1000).floor
  let replacementKey ← B.replacementToBytes32 input.replacementKeyId
  return ⟨trustId, key, .ofNat reason, .ofNat effectiveAt, replacementKey⟩

/-- The call that `recordRevocation` sends. -/
def revocationCall (input : RevocationInput) : Js Call :=
  if !truthy B.revocationRegistryAddress then throw "TSL_REVOCATION_REGISTRY_MISSING"
  else do
    let a ← B.revocationArguments input
    if truthy input.controllerSignature then
      let signature ← B.ethers.getBytes (input.controllerSignature.getD [])
      return .recordRevocationWithAuthorization a signature
    else return .recordRevocation a

def recordRevocation (w : World) (mined : Mined) (input : RevocationInput) : Js World := do
  let call ← B.revocationCall input
  w.execute B.evm (mined.transaction call)

def isKeyRevokedAt (w : World) (trustId : TrustID) (keyId : JsString) (atTimeMs : JsNumber) :
    Js Bool :=
  if !truthy B.revocationRegistryAddress then return false
  else do
    let trustId ← B.trustIdToBytes32 trustId
    let key ← B.keyIdToBytes32 keyId
    let atTime ← encodeUint 64 (atTimeMs.dividedBy 1000).floor
    return w.revocations.isRevoked trustId key (.ofNat atTime)

end LocalEvmSettlementBackend

section Rounding

theorem roundHalfEven_error (q : ℚ) : |(roundHalfEven q : ℚ) - q| ≤ 1 / 2 := by
  have hlow : (q.floor : ℚ) ≤ q := Int.floor_le q
  have hhigh : q < q.floor + 1 := Int.lt_floor_add_one q
  rw [abs_le]
  unfold roundHalfEven
  dsimp only
  split
  · constructor <;> linarith
  · next h =>
    split
    · push_cast
      constructor <;> linarith
    · next h' =>
      split
      · constructor <;> linarith
      · push_cast
        constructor <;> linarith

/-- A rational below `2 ^ 44` is met up to less than a thousandth, and exactly when it is whole. -/
theorem nearest_error {q : ℚ} (negative : Bool) (hlow : 1 / 1000 ≤ q) (hhigh : q < 2 ^ 44) :
    ∃ s : ℚ, JsNumber.nearest negative q = .fin (if negative then -s else s) ∧
      |s - q| < 1 / 1000 ∧ (∀ m : Nat, q = m → s = q) := by
  have hq : 0 < q := by linarith
  have hlog : Int.log 2 q < 44 := (Int.lt_zpow_iff_log_lt (by omega) hq).mp (by exact_mod_cast hhigh)
  have hlog' : -10 ≤ Int.log 2 q :=
    (Int.zpow_le_iff_le_log (by omega) hq).mp (le_trans (by norm_num) hlow)
  obtain ⟨k, hk⟩ := Int.eq_ofNat_of_zero_le (show 0 ≤ 43 - Int.log 2 q by omega)
  have hulp : (2 : ℚ) ^ max (Int.log 2 q - 52) (-1074) = (2 ^ (k + 9))⁻¹ := by
    have he : Int.log 2 q - 52 = -((k + 9 : Nat) : Int) := by
      push_cast
      omega
    rw [max_eq_left (by omega), he, zpow_neg, zpow_natCast]
  have hunit : (2 ^ (k + 9) : ℚ)⁻¹ ≤ 512⁻¹ := by
    have h1 : (1 : ℚ) ≤ 2 ^ k := one_le_pow₀ (by norm_num)
    have h512 : (512 : ℚ) ≤ 2 ^ (k + 9) := by
      rw [pow_add]
      linarith
    exact inv_anti₀ (by norm_num) h512
  have hpos : (0 : ℚ) < (2 ^ (k + 9))⁻¹ := by positivity
  have hround := roundHalfEven_error (q / (2 ^ (k + 9))⁻¹)
  have hwhole : ∀ m : Nat, q = m →
      (roundHalfEven (q / (2 ^ (k + 9))⁻¹) : ℚ) * (2 ^ (k + 9))⁻¹ = q := by
    rintro m rfl
    have hm : (m : ℚ) / (2 ^ (k + 9))⁻¹ = ((m * 2 ^ (k + 9) : Int) : ℚ) := by
      push_cast
      field_simp
    rw [hm, roundHalfEven_intCast]
    push_cast
    field_simp
  have hnearest := JsNumber.nearest.eq_1 negative q
  rw [if_neg hq.ne', hulp] at hnearest
  dsimp only at hnearest
  generalize (2 ^ (k + 9) : ℚ)⁻¹ = unit at hunit hpos hround hwhole hnearest
  generalize (roundHalfEven (q / unit) : ℚ) = r at hround hwhole hnearest
  have herror : |r * unit - q| < 1 / 1000 := by
    calc |r * unit - q| = |r - q / unit| * unit := by
          rw [show r * unit - q = (r - q / unit) * unit by field_simp, abs_mul, abs_of_pos hpos]
      _ ≤ 1 / 2 * 512⁻¹ := mul_le_mul hround hunit hpos.le (by norm_num)
      _ < 1 / 1000 := by norm_num
  obtain ⟨hbelow, habove⟩ := abs_lt.mp herror
  have hb : (2 : ℚ) ^ 44 + 1 ≤ 2 ^ 1024 := by
    calc (2 : ℚ) ^ 44 + 1 ≤ 2 ^ 45 := by norm_num
      _ ≤ 2 ^ 1024 := by gcongr <;> norm_num
  have hne : r * unit ≠ 0 := by
    intro h0
    rw [h0] at hbelow
    linarith
  have hsmall : ¬(2 : ℚ) ^ 1024 ≤ r * unit := by
    generalize (2 : ℚ) ^ 1024 = top at hb ⊢
    intro h0
    linarith
  refine ⟨r * unit, ?_, herror, hwhole⟩
  rw [hnearest, if_neg hne, if_neg hsmall]

/-- What lies within a thousandth of `z / 1000` has its floor. -/
theorem floor_of_error {z : Int} {s : ℚ} (herror : |s - z / 1000| < 1 / 1000)
    (hwhole : 1000 ∣ z → s = z / 1000) : s.floor = z / 1000 := by
  obtain ⟨hbelow, habove⟩ := abs_lt.mp herror
  have hz : (z : ℚ) = 1000 * (z / 1000 : Int) + (z % 1000 : Int) := by
    exact_mod_cast (Int.mul_ediv_add_emod z 1000).symm
  have hr : ((z % 1000 : Int) : ℚ) ≤ 999 := by
    have := Int.emod_lt_of_pos z (show (0 : Int) < 1000 by decide)
    exact_mod_cast (by omega : z % 1000 ≤ 999)
  have hlt : s < (z / 1000 : Int) + 1 := by linarith
  refine Int.floor_eq_iff.mpr ⟨?_, hlt⟩
  -- a whole quotient is met exactly; otherwise the remainder is at least one
  rcases (Int.emod_nonneg z (show (1000 : Int) ≠ 0 by decide)).eq_or_lt with h0 | h0
  · rw [← h0, Int.cast_zero, add_zero] at hz
    rw [hwhole (Int.dvd_of_emod_eq_zero h0.symm), hz]
    linarith
  · have h1 : (1 : ℚ) ≤ (z % 1000 : Int) := by exact_mod_cast h0
    linarith

/-- Whole seconds of a time in milliseconds. -/
theorem floor_dividedBy_thousand {z : Int} (hz : z.natAbs < 2 ^ 53) :
    ((JsNumber.ofInt z).dividedBy 1000).floor = .ofInt (z / 1000) := by
  have habs : |(z : ℚ)| = (z.natAbs : ℚ) := by
    rw [Nat.cast_natAbs, Int.cast_abs]
  rw [JsNumber.ofInt, JsNumber.dividedBy, habs]
  by_cases h0 : z = 0
  · subst h0
    have hzero : JsNumber.nearest (decide (((0 : Int) : ℚ) < 0))
        (((0 : Int).natAbs : ℚ) / (1000 : Nat)) = .ofInt 0 := by
      simp [JsNumber.nearest, JsNumber.signedZero, JsNumber.ofInt]
    rw [hzero]
    rfl
  · have hp : 0 < z.natAbs := Int.natAbs_pos.mpr h0
    have hn1 : (1 : ℚ) ≤ z.natAbs := by exact_mod_cast hp
    have hn2 : (z.natAbs : ℚ) < 2 ^ 53 := by exact_mod_cast hz
    obtain ⟨s, hs, herror, hwhole⟩ := nearest_error (q := z.natAbs / (1000 : Nat))
      (decide ((z : ℚ) < 0)) (by push_cast; linarith) (by push_cast; linarith)
    rw [hs, JsNumber.floor, JsNumber.ofInt]
    push_cast at herror hwhole
    have hdvd : 1000 ∣ z → s = (z.natAbs : ℚ) / 1000 := by
      intro hd
      obtain ⟨m, hm⟩ := Int.natCast_dvd.mp (by exact_mod_cast hd : ((1000 : Nat) : Int) ∣ z)
      apply hwhole m
      rw [hm]
      push_cast
      field_simp
    rcases lt_or_ge z 0 with hneg | hpos
    · have hcast : (z : ℚ) = -(z.natAbs : ℚ) := by
        rw [← habs, abs_of_neg (by exact_mod_cast hneg), neg_neg]
      rw [decide_eq_true (by exact_mod_cast hneg), if_pos rfl]
      rw [floor_of_error (z := z)]
      · rw [hcast, ← abs_neg]
        convert herror using 2
        ring
      · intro hd
        rw [hdvd hd, hcast]
        ring
    · have hcast : (z : ℚ) = (z.natAbs : ℚ) := by
        rw [← habs, abs_of_nonneg (by exact_mod_cast hpos)]
      rw [decide_eq_false (by exact_mod_cast not_lt.mpr hpos), if_neg (by decide)]
      rw [floor_of_error (z := z)]
      · rw [hcast]
        exact herror
      · intro hd
        rw [hdvd hd, hcast]

theorem encodeUint_ok (h : encodeUint bits (.ofInt z) = .ok n) : (n : Int) = z ∧ n < 2 ^ bits := by
  simp only [encodeUint, JsNumber.toInt?_ofInt] at h
  split at h
  · cases h
  · split at h
    · cases h
    · next hz =>
      cases h
      have hn : (z.toNat : Int) = z := Int.toNat_of_nonneg (by omega)
      have hlt : (z.toNat : Int) < 2 ^ bits := by omega
      exact ⟨hn, by exact_mod_cast hlt⟩

theorem encodeUint_ofInt (h0 : 0 ≤ z) (h : z < 2 ^ 53) :
    encodeUint 64 (.ofInt z) = .ok z.toNat := by
  have hs : (JsNumber.ofInt z).isSafeInteger = true := by
    simp only [JsNumber.isSafeInteger, JsNumber.toInt?_ofInt, decide_eq_true_eq]
    omega
  simp only [encodeUint, JsNumber.toInt?_ofInt, hs, Bool.not_true, Bool.false_eq_true, if_false]
  rw [if_neg (by omega)]
  rfl

end Rounding

/-- A time value of the language, in milliseconds. -/
abbrev TimeValue := {z : Int // z.natAbs ≤ 8640000000000000}

/-- One call of `recordRevocation` for the key in question. -/
structure KeyRevocation where
  mined : Mined
  reason : JsNumber
  effectiveAtMs : TimeValue
  replacementKeyId : Option JsString
  controllerSignature : Option JsString

section History

variable (B : LocalEvmSettlementBackend) (trustId : TrustID) (keyId : JsString)

def KeyRevocation.input (r : KeyRevocation) : RevocationInput where
  trustId := trustId
  keyId := keyId
  reason := r.reason
  effectiveAtMs := .ofInt r.effectiveAtMs
  replacementKeyId := r.replacementKeyId
  controllerSignature := r.controllerSignature

/-- The chain goes on with a revocation of the key or with somebody's transaction. -/
def advance (w : World) : KeyRevocation ⊕ ChainTransaction → World
  | .inl r =>
    match B.recordRevocation w r.mined (r.input trustId keyId) with
    | .ok w => w
    | .error _ => w
  | .inr tx => w.step B.evm tx

/-- The effective times of the revocations that were recorded. -/
def recordedTimes : World → List (KeyRevocation ⊕ ChainTransaction) → List TimeValue
  | _, [] => []
  | w, .inl r :: rest =>
    match B.recordRevocation w r.mined (r.input trustId keyId) with
    | .ok after => r.effectiveAtMs :: recordedTimes after rest
    | .error _ => recordedTimes w rest
  | w, .inr tx :: rest => recordedTimes (w.step B.evm tx) rest

/-- The transactions that reach the chain. -/
def sentTransactions (history : List (KeyRevocation ⊕ ChainTransaction)) :
    List ChainTransaction :=
  history.filterMap fun
    | .inl r => (B.revocationCall (r.input trustId keyId)).toOption.map r.mined.transaction
    | .inr tx => some tx

/-- Nobody else records revocations of the key. -/
def OnlyBackend (history : List (KeyRevocation ⊕ ChainTransaction)) : Prop :=
  ∀ tx, .inr tx ∈ history → ∀ a, tx.call.records = some a →
    ¬(B.trustIdToBytes32 trustId = .ok a.trustId ∧ B.keyIdToBytes32 keyId = .ok a.key)

end History

section Seconds

variable {B : LocalEvmSettlementBackend} {trustId : TrustID} {keyId : JsString} {w : World}
  {history : List (KeyRevocation ⊕ ChainTransaction)} {r : KeyRevocation}

theorem TimeValue.natAbs_lt (t : TimeValue) : t.val.natAbs < 2 ^ 53 :=
  lt_of_le_of_lt t.property (by norm_num)

/-- What a recorded revocation of the key says. -/
theorem revocationCall_ok (h : B.revocationCall (r.input trustId keyId) = .ok call) :
    truthy B.revocationRegistryAddress = true ∧ ∃ a, call.records = some a ∧
      B.trustIdToBytes32 trustId = .ok a.trustId ∧ B.keyIdToBytes32 keyId = .ok a.key ∧
      (a.effectiveAt.toNat : Int) = r.effectiveAtMs.val / 1000 := by
  unfold LocalEvmSettlementBackend.revocationCall at h
  split at h
  · cases h
  · next ht =>
    simp only [Bool.not_eq_true', Bool.not_eq_false] at ht
    obtain ⟨a, ha, h⟩ := bind_eq_ok.mp h
    refine ⟨ht, a, ?_, ?_⟩
    · split at h
      · obtain ⟨signature, -, h⟩ := bind_eq_ok.mp h
        cases h
        rfl
      · cases h
        rfl
    · obtain ⟨T, hT, ha⟩ := bind_eq_ok.mp ha
      obtain ⟨K, hK, ha⟩ := bind_eq_ok.mp ha
      obtain ⟨reason, -, ha⟩ := bind_eq_ok.mp ha
      obtain ⟨seconds, hs, ha⟩ := bind_eq_ok.mp ha
      obtain ⟨replacement, -, ha⟩ := bind_eq_ok.mp ha
      cases ha
      rw [KeyRevocation.input, floor_dividedBy_thousand (TimeValue.natAbs_lt _)] at hs
      obtain ⟨hz, hlt⟩ := encodeUint_ok hs
      refine ⟨hT, hK, ?_⟩
      rw [UInt64.toNat_ofNat_of_lt' hlt]
      exact hz

theorem sentTransactions_refused (hc : B.revocationCall (r.input trustId keyId) = .error e) :
    sentTransactions B trustId keyId (.inl r :: history) =
      sentTransactions B trustId keyId history := by
  simp [sentTransactions, hc, Except.toOption]

theorem sentTransactions_sent (hc : B.revocationCall (r.input trustId keyId) = .ok call) :
    sentTransactions B trustId keyId (.inl r :: history) =
      r.mined.transaction call :: sentTransactions B trustId keyId history := by
  simp [sentTransactions, hc, Except.toOption]

theorem recordRevocation_refused (hc : B.revocationCall (r.input trustId keyId) = .error e) :
    B.recordRevocation w r.mined (r.input trustId keyId) = .error e := by
  rw [LocalEvmSettlementBackend.recordRevocation, hc]
  rfl

theorem recordRevocation_sent (hc : B.revocationCall (r.input trustId keyId) = .ok call) :
    B.recordRevocation w r.mined (r.input trustId keyId) =
      w.execute B.evm (r.mined.transaction call) := by
  rw [LocalEvmSettlementBackend.recordRevocation, hc]
  rfl

theorem run_sent : run (advance B trustId keyId) w history =
    run (World.step B.evm) w (sentTransactions B trustId keyId history) := by
  induction history generalizing w with
  | nil => rfl
  | cons action rest ih =>
    cases action with
    | inr tx => exact ih
    | inl r =>
      cases hc : B.revocationCall (r.input trustId keyId) with
      | error e =>
        rw [sentTransactions_refused hc, Frames.run, List.foldl_cons, advance,
          recordRevocation_refused hc]
        exact ih
      | ok call =>
        rw [sentTransactions_sent hc, Frames.run, List.foldl_cons, advance,
          recordRevocation_sent hc]
        exact ih

/-- The seconds on the chain are those of the recorded times. -/
theorem recorded_seconds (hT : B.trustIdToBytes32 trustId = .ok T)
    (hK : B.keyIdToBytes32 keyId = .ok K) (ho : OnlyBackend B trustId keyId history)
    (atTime : UInt64) :
    (∃ a ∈ recordedBy (landed B.evm w (sentTransactions B trustId keyId history)),
      a.1.trustId = T ∧ a.1.key = K ∧ a.1.effectiveAt ≤ atTime) ↔
      ∃ e ∈ recordedTimes B trustId keyId w history, e.val / 1000 ≤ (atTime.toNat : Int) := by
  induction history generalizing w with
  | nil => simp [sentTransactions, landed, recordedBy, recordedTimes]
  | cons action rest ih =>
    have ih {w : World} := ih (w := w) fun tx hm => ho tx (List.mem_cons_of_mem _ hm)
    cases action with
    | inr tx =>
      have hs : sentTransactions B trustId keyId (.inr tx :: rest) =
          tx :: sentTransactions B trustId keyId rest := rfl
      cases he : w.execute B.evm tx with
      | error e =>
        rw [hs, landed, he, recordedTimes, World.step, he]
        exact ih
      | ok after =>
        rw [hs, landed, he, recordedTimes, World.step, he, ← ih]
        cases ha : tx.call.records with
        | none => simp [recordedBy, ha]
        | some a =>
          have hother := ho tx List.mem_cons_self a ha
          rw [hT, hK] at hother
          simp only [recordedBy, List.filterMap_cons, ha, Option.map_some, List.exists_mem_cons_iff]
          refine or_iff_right fun h => hother ⟨congrArg Except.ok h.1.symm, ?_⟩
          exact congrArg Except.ok h.2.1.symm
    | inl r =>
      cases hc : B.revocationCall (r.input trustId keyId) with
      | error e =>
        rw [sentTransactions_refused hc, recordedTimes, recordRevocation_refused hc]
        exact ih
      | ok call =>
        rw [sentTransactions_sent hc, recordedTimes, recordRevocation_sent hc, landed]
        cases he : w.execute B.evm (r.mined.transaction call) with
        | error e => exact ih
        | ok after =>
          obtain ⟨-, a, ha, hT', hK', hsec⟩ := revocationCall_ok hc
          have hcall : (r.mined.transaction call).call.records = some a := ha
          cases hT.symm.trans hT'
          cases hK.symm.trans hK'
          simp only [recordedBy, List.filterMap_cons, hcall, Option.map_some,
            List.exists_mem_cons_iff, true_and]
          refine or_congr ?_ ih
          rw [UInt64.le_iff_toNat_le]
          omega

/-- A recorded time is no earlier than the epoch, and the registry and the words of the key are
there. -/
theorem recordedTimes_mem (h : e ∈ recordedTimes B trustId keyId w history) :
    truthy B.revocationRegistryAddress = true ∧ 0 ≤ e.val ∧
      ∃ T K, B.trustIdToBytes32 trustId = .ok T ∧ B.keyIdToBytes32 keyId = .ok K := by
  induction history generalizing w with
  | nil => cases h
  | cons action rest ih =>
    cases action with
    | inr tx => exact ih h
    | inl r =>
      rw [recordedTimes] at h
      cases hc : B.revocationCall (r.input trustId keyId) with
      | error e =>
        rw [recordRevocation_refused hc] at h
        exact ih h
      | ok call =>
        rw [recordRevocation_sent hc] at h
        split at h
        · rcases List.mem_cons.mp h with rfl | h
          · obtain ⟨ht, a, -, hT, hK, hsec⟩ := revocationCall_ok hc
            exact ⟨ht, by omega, a.trustId, a.key, hT, hK⟩
          · exact ih h
        · exact ih h

/-- A key is revoked on the chain at a time when some recorded time falls into its second or into
an earlier one. -/
theorem isKeyRevokedAt_seconds {deployer : Address} (t : TimeValue)
    (hi : Set.InjOn (fun a : Recorded => revocationHash B.evm a.1 a.2)
      (AskedIn (sentTransactions B trustId keyId history)))
    (ho : OnlyBackend B trustId keyId history) :
    B.isKeyRevokedAt (run (advance B trustId keyId) (.initial deployer) history) trustId keyId
        (.ofInt t) = .ok true ↔
      ∃ e ∈ recordedTimes B trustId keyId (.initial deployer) history,
        e.val / 1000 ≤ t.val / 1000 := by
  have hinv := HistoryInvariant.run_initial deployer hi
  have hfloor := floor_dividedBy_thousand (TimeValue.natAbs_lt t)
  rw [run_sent]
  constructor
  · intro h
    unfold LocalEvmSettlementBackend.isKeyRevokedAt at h
    split at h
    · cases h
    · obtain ⟨T, hT, h⟩ := bind_eq_ok.mp h
      obtain ⟨K, hK, h⟩ := bind_eq_ok.mp h
      obtain ⟨seconds, hs, h⟩ := bind_eq_ok.mp h
      rw [hfloor] at hs
      obtain ⟨hz, hlt⟩ := encodeUint_ok hs
      have h := (recorded_seconds hT hK ho _).mp (hinv.isRevoked_iff.mp (Except.ok.inj h))
      rwa [UInt64.toNat_ofNat_of_lt' hlt, hz] at h
  · rintro ⟨e, hm, he⟩
    obtain ⟨ht, h0, T, K, hT, hK⟩ := recordedTimes_mem hm
    have hpos : 0 ≤ t.val / 1000 := by omega
    have habs := TimeValue.natAbs_lt t
    have hs := encodeUint_ofInt (z := t.val / 1000) hpos (by omega)
    have hlt : (t.val / 1000).toNat < 2 ^ 64 := by omega
    have hr := hinv.isRevoked_iff.mpr ((recorded_seconds hT hK ho (.ofNat (t.val / 1000).toNat)).mpr
      ⟨e, hm, by rw [UInt64.toNat_ofNat_of_lt' hlt]; omega⟩)
    unfold LocalEvmSettlementBackend.isKeyRevokedAt
    rw [ht, hT, hK, hfloor]
    simp only [Bool.not_true, Bool.false_eq_true, if_false]
    change (encodeUint 64 _ >>= _) = _
    rw [hs]
    exact congrArg Except.ok hr

end Seconds

/-- The chain agrees with the rule in milliseconds on a time unless every recorded time lies after
it and one of them within the same second. -/
theorem isKeyRevokedAt_agrees_iff (B : LocalEvmSettlementBackend) (trustId : TrustID)
    (keyId : JsString) (deployer : Address) (history : List (KeyRevocation ⊕ ChainTransaction))
    (t : TimeValue)
    (hkeccak : Set.InjOn B.evm.keccak256
      {m | HashedIn B.evm (sentTransactions B trustId keyId history) m})
    (ho : OnlyBackend B trustId keyId history) :
    let times := recordedTimes B trustId keyId (.initial deployer) history
    (B.isKeyRevokedAt (run (advance B trustId keyId) (.initial deployer) history) trustId keyId
        (.ofInt t) = .ok true ↔ ∃ e ∈ times, e.val ≤ t.val) ↔
      (∃ e ∈ times, e.val ≤ t.val) ∨ ∀ e ∈ times, e.val / 1000 ≠ t.val / 1000 := by
  intro times
  rw [isKeyRevokedAt_seconds t (revocationHash_injOn hkeccak) ho]
  constructor
  · intro h
    by_cases hle : ∃ e ∈ times, e.val ≤ t.val
    · exact .inl hle
    · right
      intro e hm he
      exact hle (h.mp ⟨e, hm, he.le⟩)
  · rintro (h | h)
    · refine iff_of_true ?_ h
      obtain ⟨e, hm, he⟩ := h
      exact ⟨e, hm, by omega⟩
    · constructor
      · rintro ⟨e, hm, he⟩
        refine ⟨e, hm, ?_⟩
        have := h e hm
        omega
      · rintro ⟨e, hm, he⟩
        exact ⟨e, hm, by omega⟩
def sampleBackend : LocalEvmSettlementBackend where
  evm := sampleEvm
  ethers := ⟨fun text => .ok (BitVec.ofNat 256 (textEncode text).length), hexToBytes⟩
  revocationRegistryAddress := some (js "0x5fbdb2315678afecb367f032d93f642f64180aa3")

theorem sampleOwner_ne : (1 : Address) ≠ 0 := by decide

/-- The owner of the registry revokes a key at the given time. -/
def sampleHistory (effectiveAtMs : TimeValue) : List (KeyRevocation ⊕ ChainTransaction) :=
  [.inl ⟨⟨1, sampleOwner_ne, 10, fun _ _ => .reverted⟩, .ofNat 1, effectiveAtMs, none, none⟩]

/-- A revocation from 1.5 s on counts at 1.2 s. -/
theorem isKeyRevokedAt_early :
    recordedTimes sampleBackend (js "did:tsl:a") (js "key-1") (.initial 1)
        (sampleHistory ⟨1500, by decide⟩) = [⟨1500, by decide⟩] ∧
      ¬(sampleBackend.isKeyRevokedAt
          (run (advance sampleBackend (js "did:tsl:a") (js "key-1")) (.initial 1)
            (sampleHistory ⟨1500, by decide⟩)) (js "did:tsl:a") (js "key-1") (.ofInt 1200) =
          .ok true ↔
        ∃ e ∈ recordedTimes sampleBackend (js "did:tsl:a") (js "key-1") (.initial 1)
          (sampleHistory ⟨1500, by decide⟩), e.val ≤ 1200) := by
  decide +kernel

theorem sampleHistory_asked : ∀ q ∈ AskedIn (sentTransactions sampleBackend (js "did:tsl:a")
    (js "key-1") (sampleHistory ⟨1500, by decide⟩)), q = (⟨9, 5, 1, 1, 0⟩, 1) := by
  rintro ⟨a, sender⟩ ⟨tx, hm, ha, rfl⟩
  have hsent : ∀ tx ∈ sentTransactions sampleBackend (js "did:tsl:a") (js "key-1")
      (sampleHistory ⟨1500, by decide⟩),
      tx.call.records = some ⟨9, 5, 1, 1, 0⟩ ∧ tx.sender = 1 := by decide +kernel
  obtain ⟨hr, hs⟩ := hsent tx hm
  exact Prod.ext (Option.some.inj (ha.symm.trans hr)) hs

theorem isKeyRevokedAt_agrees_iff_sample :
    sampleBackend.isKeyRevokedAt
        (run (advance sampleBackend (js "did:tsl:a") (js "key-1")) (.initial 1)
          (sampleHistory ⟨1500, by decide⟩)) (js "did:tsl:a") (js "key-1") (.ofInt 2000) =
      .ok true := by
  have h := isKeyRevokedAt_agrees_iff sampleBackend (js "did:tsl:a") (js "key-1") 1
    (sampleHistory ⟨1500, by decide⟩) ⟨2000, by decide⟩ (sampleEvm_injOn sampleHistory_asked)
    (fun tx hm => by simp [sampleHistory] at hm)
  have htimes : ∃ e ∈ recordedTimes sampleBackend (js "did:tsl:a") (js "key-1") (.initial 1)
      (sampleHistory ⟨1500, by decide⟩), e.val ≤ 2000 := by decide +kernel
  exact (h.mpr (.inl htimes)).mpr htimes

end Continuity

import Continuity.CanonicalInjective

namespace Continuity
set_option autoImplicit true

/-- The primitives of the noble packages. -/
structure Noble where
  sha256 : Bytes → Bytes
  ed25519GetPublicKey : Bytes → Js Bytes
  ed25519Sign : Bytes → Bytes → Js Bytes
  ed25519Verify : Bytes → Bytes → Bytes → Js Bool

namespace DOMAIN_TAGS

def IDENTITY_V1 : JsString := js "tsl.identity.v1"
def EVENT_V1 : JsString := js "tsl.event_commitment.v1"
def RECEIPT_V1 : JsString := js "tsl.receipt_commitment.v1"
def ATTESTATION_V1 : JsString := js "tsl.attestation.v1"
def REVOCATION_V1 : JsString := js "tsl.revocation.v1"
def CHECKPOINT_V1 : JsString := js "tsl.batch_checkpoint.v1"
def MERKLE_LEAF_V1 : JsString := js "tsl.merkle.leaf.v1"
def MERKLE_NODE_V1 : JsString := js "tsl.merkle.node.v1"
def ASSESSMENT_V1 : JsString := js "tsl.trust_assessment.v1"
def COMMITMENT_V1 : JsString := js "tsl.commitment.v1"
def AGENT_DELEGATION_V1 : JsString := js "tsl.agent_delegation.v1"
def AUDIT_FINDING_V1 : JsString := js "tsl.audit.finding.v1"
def GOVERNANCE_POLICY_V1 : JsString := js "tsl.governance_policy.v1"
def NON_MEMBERSHIP_PROOF_V1 : JsString := js "tsl.zk.non_membership_proof.v1"
def CONTENT_V1 : JsString := js "tsl.content.v1"
def METADATA_V1 : JsString := js "tsl.metadata.v1"
def RECEIVER_V1 : JsString := js "tsl.receiver.v1"

end DOMAIN_TAGS

def bigEndian : Nat → Nat → Bytes
  | 0, _ => []
  | k + 1, n => bigEndian k (n / 256) ++ [UInt8.ofNat n]

/-- The hex text of a 32-byte number. -/
def hex32 (n : Nat) : Hex32 := bytesToHex (bigEndian 32 n)

/-- A 32-byte value in the hex form of the schemas. -/
def IsHex32 (c : Hex32) : Prop := ∃ bytes : Bytes, bytes.length = 32 ∧ c = bytesToHex bytes

def ZERO_HASH : Hex32 := hex32 0

example : ZERO_HASH =
    js "0x0000000000000000000000000000000000000000000000000000000000000000" := by
  decide +kernel

def bigInt (value : JsNumber) : Js Int :=
  match value.toInt? with
  | some n => return n
  | none => throw "RangeError: The number cannot be converted to a BigInt"

def uint64be (n : Int) : Js Bytes :=
  if n < 0 ∨ 0xffffffffffffffff < n then throw "uint64be value out of range"
  else return bigEndian 8 n.toNat

/-- The bytes that `hashDomain` hashes. -/
def domainMessage (tag : JsString) (data : Bytes) : Bytes := textEncode tag ++ 0 :: data

def sha256Hex (N : Noble) (data : Bytes) : Hex32 := bytesToHex (N.sha256 data)

def hashDomain (N : Noble) (tag : JsString) (data : Bytes) : Hex32 :=
  sha256Hex N (domainMessage tag data)

def deriveEd25519PublicKey (N : Noble) (seedHex : JsString) : Js JsString := do
  let seed ← hexToBytes seedHex
  let publicKey ← N.ed25519GetPublicKey seed
  return publicKey.flatMap hexDigits

def signEd25519 (N : Noble) (message : Hex32) (seedHex : JsString) : Js HexSig := do
  let bytes ← hexToBytes message
  let seed ← hexToBytes seedHex
  let signature ← N.ed25519Sign bytes seed
  return bytesToHex signature

def verifyEd25519 (N : Noble) (publicKeyHex : JsString) (message : Hex32)
    (signatureHex : HexSig) : Js Bool := do
  let bytes ← hexToBytes message
  let verified : Js Bool := do
    let signature ← hexToBytes signatureHex
    let publicKey ← hexToBytes publicKeyHex
    N.ed25519Verify signature bytes publicKey
  match verified with
  | .ok b => return b
  | .error _ => return false

def commitmentHashFromParts (N : Noble) (eventHashHex : Hex32) (signatureHex : HexSig) :
    Js Hex32 := do
  let event ← hexToBytes eventHashHex
  let signature ← hexToBytes signatureHex
  return hashDomain N DOMAIN_TAGS.COMMITMENT_V1 (event ++ signature)

def legacyCommitmentHashFromParts (N : Noble) (eventHashHex : Hex32) (signatureHex : HexSig) :
    Js Hex32 := do
  let event ← hexToBytes eventHashHex
  let signature ← hexToBytes signatureHex
  return sha256Hex N (event ++ signature)

/-- A tag followed by a zero byte can be read back from a message. -/
def Tag (tag : JsString) : Prop := 0 ∉ textEncode tag

instance (tag : JsString) : Decidable (Tag tag) := inferInstanceAs (Decidable (0 ∉ textEncode tag))

theorem domainMessage_unique (hs : Tag s) (ht : Tag t)
    (h : domainMessage s a = domainMessage t b) : textEncode s = textEncode t ∧ a = b :=
  separator_split hs ht h

theorem domainMessage_injective (ht : Tag t) (h : domainMessage t a = domainMessage t b) :
    a = b :=
  (domainMessage_unique ht ht h).2

theorem sha256Hex_injective (h : sha256Hex N a = sha256Hex N b) : N.sha256 a = N.sha256 b :=
  bytesToHex_injective h

/-- Different tags never lead to the same digest of an injective hash. -/
theorem hashDomain_injective (hi : Function.Injective N.sha256) (hs : Tag s) (ht : Tag t)
    (h : hashDomain N s a = hashDomain N t b) : textEncode s = textEncode t ∧ a = b :=
  domainMessage_unique hs ht (hi (sha256Hex_injective h))

@[simp] theorem truthy_hashDomain (N : Noble) (tag : JsString) (data : Bytes) :
    truthy (some (hashDomain N tag data)) = true :=
  truthy_bytesToHex _

theorem bigEndian_length (k n : Nat) : (bigEndian k n).length = k := by
  induction k generalizing n with
  | zero => rfl
  | succ k ih => simp only [bigEndian, List.length_append, ih, List.length_singleton]

theorem hex32_isHex32 (n : Nat) : IsHex32 (hex32 n) := ⟨_, bigEndian_length 32 n, rfl⟩

theorem bigEndian_injective {k n m : Nat} (hn : n < 256 ^ k) (hm : m < 256 ^ k)
    (h : bigEndian k n = bigEndian k m) : n = m := by
  induction k generalizing n m with
  | zero => omega
  | succ k ih =>
    simp only [bigEndian] at h
    obtain ⟨hq, hr⟩ := List.append_inj' h rfl
    have hdn : n / 256 < 256 ^ k := Nat.div_lt_of_lt_mul (by rw [← Nat.pow_succ']; exact hn)
    have hdm : m / 256 < 256 ^ k := Nat.div_lt_of_lt_mul (by rw [← Nat.pow_succ']; exact hm)
    have hd := ih hdn hdm hq
    simp only [List.cons.injEq, and_true] at hr
    have hmod : n % 256 = m % 256 := by simpa using congrArg UInt8.toNat hr
    omega

/-- `uint64be` succeeds exactly on the unsigned 64-bit integers. -/
theorem uint64be_ok : uint64be n = .ok bytes ↔
    0 ≤ n ∧ n < 256 ^ 8 ∧ bytes = bigEndian 8 n.toNat := by
  simp only [uint64be]
  split
  · simp only [throw, throwThe, MonadExceptOf.throw, reduceCtorEq, false_iff]
    omega
  · simp only [pure, Except.pure, Except.ok.injEq, eq_comm]
    constructor
    · intro h
      exact ⟨by omega, by omega, h⟩
    · exact fun h => h.2.2

/-- Digests and signatures read off tables of recorded values; `other` is the digest of every
message that was not recorded. -/
def recorded (digests : List (Bytes × Bytes)) (signatures : List (Bytes × Bytes × Bytes))
    (other : Bytes → Bytes) : Noble where
  sha256 m := match digests.find? fun entry => entry.1 == m with
    | some entry => entry.2
    | none => other m
  ed25519GetPublicKey _ := throw "unrecorded seed"
  ed25519Sign m _ := match signatures.find? fun entry => entry.2.1 == m with
    | some entry => return entry.1
    | none => throw "unrecorded message"
  ed25519Verify signature m key := return signatures.contains (signature, m, key)

theorem recorded_sha256 (digests : List (Bytes × Bytes))
    (signatures : List (Bytes × Bytes × Bytes)) (other : Bytes → Bytes) (m : Bytes) :
    (recorded digests signatures other).sha256 m = other m ∨
      (m, (recorded digests signatures other).sha256 m) ∈ digests := by
  simp only [recorded]
  cases h : digests.find? fun entry => entry.1 == m with
  | none => exact .inl rfl
  | some entry =>
    have hm : entry.1 = m := by simpa using List.find?_some h
    subst hm
    exact .inr (List.mem_of_find?_eq_some h)

/-- The digest of an unrecorded message, longer than any recorded one. -/
def longDigest (m : Bytes) : Bytes := List.replicate 33 0 ++ m

theorem longDigest_length (m : Bytes) : (longDigest m).length ≠ 32 := by
  simp only [longDigest, List.length_append, List.length_replicate]
  omega

theorem recorded_injective {digests : List (Bytes × Bytes)}
    (hl : ∀ e ∈ digests, e.2.length = 32)
    (hd : (digests.map Prod.snd).Nodup)
    (signatures : List (Bytes × Bytes × Bytes)) :
    Function.Injective (recorded digests signatures longDigest).sha256 := by
  intro a b h
  rcases recorded_sha256 digests signatures longDigest a with ha | ha <;>
    rcases recorded_sha256 digests signatures longDigest b with hb | hb
  · rw [ha, hb] at h
    exact List.append_cancel_left h
  · rw [← h, ha] at hb
    exact (longDigest_length a (hl _ hb)).elim
  · rw [h, hb] at ha
    exact (longDigest_length b (hl _ ha)).elim
  · exact congrArg Prod.fst (List.inj_on_of_nodup_map hd ha hb h)

end Continuity

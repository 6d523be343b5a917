import Continuity.SigningCoverage

namespace Continuity
set_option autoImplicit true

/-- The fields of a checkpoint that its identity does not cover. -/
def UNCOVERED_FIELDS : List JsString :=
  [js "relay_signature", js "settlement_tx", js "checkpoint_identity_hash"]

/-- `checkpointHash` of an object as the code gets it. -/
def checkpointObjectHash (N : Noble) (checkpoint : JsObject) : Js Hex32 := do
  let bytes ← canonicalBytes (checkpointPayload checkpoint UNCOVERED_FIELDS)
  return hashDomain N DOMAIN_TAGS.CHECKPOINT_V1 bytes

/-- What an object holds under a key; a field that is `undefined` counts as absent. -/
def definedField (value : JsObject) (key : JsString) : Option JsValue :=
  (fieldOf value key).filter fun child => !child.isUndefined

/-- A checkpoint in any order of its fields, some of them perhaps `undefined`. -/
structure CheckpointObject (value : JsObject) : Prop where
  keys : (value.map Prod.fst).Nodup
  own : ∀ f ∈ value, f.1 ≠ PROTO
  primitive : ∀ f ∈ value, f.2.isObject = false

theorem canonicalBytes_perm {fields fields' : JsObject} (hk : (fields.map Prod.fst).Nodup)
    (hp : fields.Perm fields') : canonicalBytes (.obj fields) = canonicalBytes (.obj fields') := by
  have hsort : sortKeys (encodeFields fields) = sortKeys (encodeFields fields') := by
    rw [encodeFields_eq_map, encodeFields_eq_map]
    refine sortKeys_eq_of_perm ?_ (hp.map _)
    rw [List.map_map]
    exact hk
  rw [canonicalBytes, canonicalBytes, canonicalize, canonicalize, encodeCanonical, encodeCanonical,
    hsort]

section Payload

variable {value : JsObject}

theorem definedField_some (hk : (value.map Prod.fst).Nodup) :
    definedField value key = some child ↔ (key, child) ∈ value ∧ child.isUndefined = false := by
  rw [definedField, Option.filter_eq_some_iff, fieldOf_some hk, Bool.not_eq_true']

/-- The fields that a checkpoint is hashed with. -/
def coveredFields (checkpoint : JsObject) : JsObject :=
  UNCOVERED_FIELDS.foldl withoutField checkpoint

theorem mem_coveredFields {f : JsString × JsValue} :
    f ∈ coveredFields value ↔ f ∈ value ∧ f.1 ∉ UNCOVERED_FIELDS ∧ f.2.isUndefined = false := by
  simp only [coveredFields, UNCOVERED_FIELDS, List.foldl_cons, List.foldl_nil, withoutField,
    List.mem_filter, Bool.and_eq_true, bne_iff_ne, Bool.not_eq_true', List.mem_cons,
    List.not_mem_nil, or_false, not_or]
  tauto

theorem coveredFields_keys (hk : (value.map Prod.fst).Nodup) :
    ((coveredFields value).map Prod.fst).Nodup := by
  have hsub : (coveredFields value).Sublist value := by
    simp only [coveredFields, UNCOVERED_FIELDS, List.foldl_cons, List.foldl_nil, withoutField]
    exact (List.filter_sublist.trans List.filter_sublist).trans List.filter_sublist
  exact hk.sublist (hsub.map Prod.fst)

theorem fieldOf_covered (hk : (value.map Prod.fst).Nodup) (hkey : key ∉ UNCOVERED_FIELDS) :
    fieldOf (coveredFields value) key = definedField value key := by
  ext child
  rw [fieldOf_some (coveredFields_keys hk), definedField_some hk, mem_coveredFields]
  simp [hkey]

theorem CheckpointObject.covered (h : CheckpointObject value) :
    UniqueKeys (.obj (coveredFields value)) := by
  refine ⟨coveredFields_keys h.keys, uniqueFields_iff.mpr ?_⟩
  intro f hf
  have hp := h.primitive f (mem_coveredFields.mp hf).1
  cases hv : f.2 <;> rw [hv] at hp <;> trivial

/-- Objects with the same covered fields are hashed alike. -/
theorem checkpointObjectHash_congr {a b : JsObject} (ha : CheckpointObject a)
    (hb : CheckpointObject b)
    (h : ∀ key, key ∉ UNCOVERED_FIELDS → definedField a key = definedField b key) (N : Noble) :
    checkpointObjectHash N a = checkpointObjectHash N b := by
  have hperm : (coveredFields a).Perm (coveredFields b) := by
    refine (List.perm_ext_iff_of_nodup (coveredFields_keys ha.keys).of_map
      (coveredFields_keys hb.keys).of_map).mpr ?_
    rintro ⟨key, child⟩
    by_cases hkey : key ∈ UNCOVERED_FIELDS
    · simp only [mem_coveredFields, hkey, not_true_eq_false, false_and, and_false]
    · rw [← fieldOf_some (coveredFields_keys ha.keys), ← fieldOf_some (coveredFields_keys hb.keys),
        fieldOf_covered ha.keys hkey, fieldOf_covered hb.keys hkey, h key hkey]
  have hbytes := canonicalBytes_perm (coveredFields_keys ha.keys) hperm
  simp only [coveredFields] at hbytes
  rw [checkpointObjectHash, checkpointObjectHash, checkpointPayload, checkpointPayload, hbytes]

theorem SameValue.covered {a b : JsObject}
    (h : SameValue (.obj (coveredFields a)) (.obj (coveredFields b))) (ha : CheckpointObject a)
    (hb : CheckpointObject b) (hkey : key ∉ UNCOVERED_FIELDS)
    (hc : definedField a key = some child) : definedField b key = some child := by
  have hm := (definedField_some ha.keys).mp hc
  rw [← fieldOf_covered hb.keys hkey]
  rw [← fieldOf_covered ha.keys hkey] at hc
  exact h.fieldOf_eq ha.covered hb.covered hc (ha.primitive _ hm.1)

end Payload

section Identity

variable {N : Noble} {a b : JsObject}

/-- The texts that two checkpoints are hashed as. -/
def CheckpointTexts (a b : JsObject) : Set Bytes :=
  {bytes | canonicalBytes (checkpointPayload a UNCOVERED_FIELDS) = .ok bytes ∨
    canonicalBytes (checkpointPayload b UNCOVERED_FIELDS) = .ok bytes}

theorem checkpointObjectHash_ok {checkpoint : JsObject} {hash : Hex32}
    (h : checkpointObjectHash N checkpoint = .ok hash) :
    ∃ bytes, canonicalBytes (checkpointPayload checkpoint UNCOVERED_FIELDS) = .ok bytes ∧
      hash = hashDomain N DOMAIN_TAGS.CHECKPOINT_V1 bytes := by
  obtain ⟨bytes, hb, h⟩ := bind_eq_ok.mp h
  cases h
  exact ⟨bytes, hb, rfl⟩

/-- Objects with one hash have the same covered fields. -/
theorem checkpointObjectHash_binds {hash : Hex32}
    (hi : Set.InjOn (hashDomain N DOMAIN_TAGS.CHECKPOINT_V1) (CheckpointTexts a b))
    (ha : CheckpointObject a) (hb : CheckpointObject b) (hha : checkpointObjectHash N a = .ok hash)
    (hhb : checkpointObjectHash N b = .ok hash) (hkey : key ∉ UNCOVERED_FIELDS) :
    definedField a key = definedField b key := by
  obtain ⟨bytes, hbytes, rfl⟩ := checkpointObjectHash_ok hha
  obtain ⟨bytes', hbytes', he⟩ := checkpointObjectHash_ok hhb
  obtain rfl : bytes = bytes' := hi (.inl hbytes) (.inr hbytes') he
  have hsame := canonicalBytes_unique hbytes hbytes'
  have hab := sameValue_of_normalize _ hsame
  have hba := sameValue_of_normalize _ hsame.symm
  ext child
  constructor
  · exact fun h => hab.covered ha hb hkey h
  · exact fun h => hba.covered hb ha hkey h

theorem checkpointHash_eq (N : Noble) (checkpoint : BatchCheckpointV1) :
    checkpointHash N checkpoint = checkpointObjectHash N checkpoint.toFields := rfl

theorem coveredFields_append (a b : JsObject) :
    coveredFields (a ++ b) = coveredFields a ++ coveredFields b := by
  simp only [coveredFields, UNCOVERED_FIELDS, List.foldl_cons, List.foldl_nil, withoutField,
    List.filter_append]

/-- A field that the identity does not cover leaves nothing. -/
theorem coveredFields_uncovered (hk : key ∈ UNCOVERED_FIELDS) (child : JsValue) :
    coveredFields [(key, child)] = [] := by
  apply List.eq_nil_iff_forall_not_mem.mpr
  intro f hf
  obtain ⟨hm, hkey, -⟩ := mem_coveredFields.mp hf
  rw [List.mem_singleton.mp hm] at hkey
  exact hkey hk

theorem coveredFields_optional (hk : key ∈ UNCOVERED_FIELDS) (value : Option JsString) :
    coveredFields (optField key .str value) = [] := by
  cases value with
  | none => rfl
  | some value => exact coveredFields_uncovered hk _

theorem toFields_coveredFields (c : BatchCheckpointV1) (relay_signature : HexSig)
    (settlement_tx : Option JsString) (checkpoint_identity_hash : Option Hex32) :
    coveredFields { c with relay_signature, settlement_tx, checkpoint_identity_hash }.toFields =
      coveredFields c.toFields := by
  have hsplit (signature : HexSig) :
      coveredFields [(js "relay_id", .str c.relay_id), (js "relay_signature", .str signature)] =
        coveredFields [(js "relay_id", .str c.relay_id)] := by
    rw [← List.singleton_append, coveredFields_append,
      coveredFields_uncovered (by decide) (.str signature), List.append_nil]
  simp only [BatchCheckpointV1.toFields, coveredFields_append, hsplit,
    coveredFields_optional (show js "settlement_tx" ∈ UNCOVERED_FIELDS by decide),
    coveredFields_optional (show js "checkpoint_identity_hash" ∈ UNCOVERED_FIELDS by decide)]

/-- What signing, settling and reading back write into a checkpoint does not change its hash. -/
theorem checkpointHash_rewritten (N : Noble) (c : BatchCheckpointV1) (relay_signature : HexSig)
    (settlement_tx : Option JsString) (checkpoint_identity_hash : Option Hex32) :
    checkpointHash N { c with relay_signature, settlement_tx, checkpoint_identity_hash } =
      checkpointHash N c := by
  have h := toFields_coveredFields c relay_signature settlement_tx checkpoint_identity_hash
  simp only [coveredFields] at h
  rw [checkpointHash_eq, checkpointHash_eq, checkpointObjectHash, checkpointObjectHash,
    checkpointPayload, checkpointPayload, h]

theorem checkpointHash_total (checkpoint : BatchCheckpointV1)
    (he : Encodable (.num checkpoint.epoch_start_ms))
    (hd : Encodable (.num checkpoint.epoch_duration_ms))
    (hc : Encodable (.num checkpoint.event_count))
    (hr : Encodable (.num checkpoint.receipt_count)) (N : Noble) :
    ∃ hash, checkpointHash N checkpoint = .ok hash := by
  apply hashDomain_total
  apply encodableFields_without
  simpa [BatchCheckpointV1.toFields, EncodableFields, Encodable] using ⟨he, hd, hc, hr⟩

theorem checkpointHash_hex (h : checkpointHash N checkpoint = .ok c) :
    ∃ bytes, c = bytesToHex bytes := by
  obtain ⟨bytes, -, h⟩ := bind_eq_ok.mp h
  cases h
  exact ⟨_, rfl⟩

theorem checkpointHash_encodable {checkpoint : BatchCheckpointV1} (key : JsString) {hash : Hex32}
    (h : checkpointHash N checkpoint = .ok hash) (hm : (key, child) ∈ checkpoint.toFields)
    (hk : key ∉ UNCOVERED_FIELDS) (hu : child.isUndefined = false) : Encodable child := by
  obtain ⟨bytes, hb, -⟩ := checkpointObjectHash_ok (checkpointHash_eq N checkpoint ▸ h)
  have hfields : EncodableFields (coveredFields checkpoint.toFields) := canonicalBytes_encodable hb
  exact encodableFields_iff.mp hfields _ (mem_coveredFields.mpr ⟨hm, hk, hu⟩)

/-- A checkpoint has a hash if its integers have a canonical text. -/
theorem checkpointHash_defined_iff (N : Noble) (checkpoint : BatchCheckpointV1) :
    (∃ hash, checkpointHash N checkpoint = .ok hash) ↔
      Encodable (.num checkpoint.epoch_start_ms) ∧ Encodable (.num checkpoint.epoch_duration_ms) ∧
        Encodable (.num checkpoint.event_count) ∧ Encodable (.num checkpoint.receipt_count) := by
  constructor
  · rintro ⟨hash, h⟩
    refine ⟨checkpointHash_encodable (js "epoch_start_ms") h ?_ (by decide) rfl,
      checkpointHash_encodable (js "epoch_duration_ms") h ?_ (by decide) rfl,
      checkpointHash_encodable (js "event_count") h ?_ (by decide) rfl,
      checkpointHash_encodable (js "receipt_count") h ?_ (by decide) rfl⟩
    all_goals simp [BatchCheckpointV1.toFields]
  · rintro ⟨he, hd, hc, hr⟩
    exact checkpointHash_total checkpoint he hd hc hr N

theorem optField_keys (key : JsString) (f : α → JsValue) (value : Option α) :
    ((optField key f value).map Prod.fst).Sublist [key] := by
  cases value with
  | none => exact List.nil_sublist _
  | some a => exact .refl _

theorem optField_str (key : JsString) (value : Option JsString) :
    ∀ f ∈ optField key .str value, f.2.isObject = false := by
  cases value with
  | none => exact fun _ hf => absurd hf List.not_mem_nil
  | some s =>
    intro f hf
    rw [List.mem_singleton.mp hf]
    rfl

/-- The fields of a checkpoint, the optional ones among them. -/
def checkpointKeys : List JsString :=
  [js "type", js "epoch_start_ms", js "epoch_duration_ms", js "shard", js "event_root",
    js "receipt_root", js "attestation_root", js "revocation_root", js "event_count",
    js "receipt_count", js "previous_checkpoint"] ++ [js "checkpoint_identity_hash"] ++
    [js "settlement_backend"] ++ [js "settlement_tx"] ++ [js "relay_id", js "relay_signature"]

theorem toFields_keys (c : BatchCheckpointV1) :
    (c.toFields.map Prod.fst).Sublist checkpointKeys := by
  simp only [BatchCheckpointV1.toFields, List.map_append]
  exact ((((List.Sublist.refl _).append (optField_keys _ _ _)).append (optField_keys _ _ _)).append
    (optField_keys _ _ _)).append (List.Sublist.refl _)

theorem toFields_checkpointObject (c : BatchCheckpointV1) : CheckpointObject c.toFields := by
  have hnodup : checkpointKeys.Nodup := by decide
  have hown : ∀ key ∈ checkpointKeys, key ≠ PROTO := by decide
  refine ⟨hnodup.sublist (toFields_keys c), fun f hf => ?_, ?_⟩
  · exact hown f.1 ((toFields_keys c).subset (List.mem_map_of_mem hf))
  · unfold BatchCheckpointV1.toFields
    simp only [List.forall_mem_append, List.forall_mem_cons]
    exact ⟨⟨⟨⟨⟨rfl, rfl, rfl, rfl, rfl, rfl, rfl, rfl, rfl, rfl, rfl, fun _ hf => absurd hf
      List.not_mem_nil⟩, optField_str _ _⟩, optField_str _ _⟩, optField_str _ _⟩, rfl, rfl,
      fun _ hf => absurd hf List.not_mem_nil⟩

/-- The identity of a checkpoint does not depend on its signature, its settlement and a hash that
it carries, and nothing else in it changes without the identity. -/
theorem checkpointHash_stable_and_binding (N : Noble) (a b : JsObject) (ha : CheckpointObject a)
    (hb : CheckpointObject b)
    (hi : Set.InjOn (hashDomain N DOMAIN_TAGS.CHECKPOINT_V1) (CheckpointTexts a b)) :
    ((∀ key, key ∉ UNCOVERED_FIELDS → definedField a key = definedField b key) →
        checkpointObjectHash N a = checkpointObjectHash N b) ∧
      (∀ key, key ∉ UNCOVERED_FIELDS → definedField a key ≠ definedField b key →
        ∀ hash hash', checkpointObjectHash N a = .ok hash → checkpointObjectHash N b = .ok hash' →
          hash ≠ hash') ∧
      ∀ c : BatchCheckpointV1, checkpointHash N c = checkpointObjectHash N c.toFields ∧
        ∀ relay_signature settlement_tx checkpoint_identity_hash,
          checkpointHash N { c with relay_signature, settlement_tx, checkpoint_identity_hash } =
            checkpointHash N c := by
  refine ⟨fun h => checkpointObjectHash_congr ha hb h N, ?_, ?_⟩
  · rintro key hkey hne hash _ hha hhb rfl
    exact hne (checkpointObjectHash_binds hi ha hb hha hhb hkey)
  · intro c
    exact ⟨rfl, checkpointHash_rewritten N c⟩

/-- A checkpoint without a backend. -/
def identityCheckpoint : BatchCheckpointV1 where
  epoch_start_ms := .ofNat 1779667200000
  epoch_duration_ms := .ofNat 60000
  shard := js "0daa"
  event_root := ZERO_HASH
  receipt_root := ZERO_HASH
  attestation_root := ZERO_HASH
  revocation_root := ZERO_HASH
  event_count := .ofNat 0
  receipt_count := .ofNat 0
  previous_checkpoint := ZERO_HASH
  checkpoint_identity_hash := none
  settlement_backend := none
  settlement_tx := none
  relay_id := js "did:tsl:relay"
  relay_signature := js "0x00"

/-- The same checkpoint for a backend, its fields the other way round and one of them undefined. -/
def backendCheckpoint : JsObject :=
  (js "settlement_tx", .undefined) ::
    { identityCheckpoint with settlement_backend := some (js "eip155:1") }.toFields.reverse

def checkpointText (checkpoint : JsObject) : Bytes :=
  (canonicalBytes (checkpointPayload checkpoint UNCOVERED_FIELDS)).toOption.getD []

def identityNoble : Noble :=
  recorded
    [(domainMessage DOMAIN_TAGS.CHECKPOINT_V1 (checkpointText identityCheckpoint.toFields),
        bigEndian 32 0xb5aa536748a8f2bce890d3318035457f0d9a4df0a7bc3fbc02d42e1eced68ba4),
      (domainMessage DOMAIN_TAGS.CHECKPOINT_V1 (checkpointText backendCheckpoint),
        bigEndian 32 0xfcc88eaf310093da4163095d7be8307fbb626435e7e2dd22d7cb6d7f5f82b977)]
    [] fun _ => []

theorem backendCheckpoint_object : CheckpointObject backendCheckpoint := by
  refine ⟨by decide, by decide, ?_⟩
  simp [backendCheckpoint, identityCheckpoint, BatchCheckpointV1.toFields, optField,
    JsValue.isObject]

theorem checkpointText_of_ok {checkpoint : JsObject}
    (h : canonicalBytes (checkpointPayload checkpoint UNCOVERED_FIELDS) = .ok bytes) :
    bytes = checkpointText checkpoint := by
  rw [checkpointText, h]
  rfl

theorem identityNoble_injOn :
    Set.InjOn (hashDomain identityNoble DOMAIN_TAGS.CHECKPOINT_V1)
      (CheckpointTexts identityCheckpoint.toFields backendCheckpoint) := by
  have hne : hashDomain identityNoble DOMAIN_TAGS.CHECKPOINT_V1
        (checkpointText identityCheckpoint.toFields) ≠
      hashDomain identityNoble DOMAIN_TAGS.CHECKPOINT_V1 (checkpointText backendCheckpoint) := by
    decide +kernel
  rintro x (hx | hx) y (hy | hy) he
  · rw [checkpointText_of_ok hx, checkpointText_of_ok hy]
  · rw [checkpointText_of_ok hx, checkpointText_of_ok hy] at he
    exact absurd he hne
  · rw [checkpointText_of_ok hx, checkpointText_of_ok hy] at he
    exact absurd he.symm hne
  · rw [checkpointText_of_ok hx, checkpointText_of_ok hy]

/-- The backend is part of the identity. -/
theorem checkpointHash_stable_and_binding_sample :
    ∃ hash hash', checkpointObjectHash identityNoble identityCheckpoint.toFields = .ok hash ∧
      checkpointObjectHash identityNoble backendCheckpoint = .ok hash' ∧ hash ≠ hash' := by
  have hnone : (definedField identityCheckpoint.toFields (js "settlement_backend")).isNone = true := by
    decide
  have hsome : (definedField backendCheckpoint (js "settlement_backend")).isNone = false := by
    decide
  have hfirst : (checkpointObjectHash identityNoble identityCheckpoint.toFields).toOption.isSome =
      true := by decide
  have hsecond : (checkpointObjectHash identityNoble backendCheckpoint).toOption.isSome = true := by
    decide
  obtain ⟨-, hbinds, -⟩ := checkpointHash_stable_and_binding identityNoble
    identityCheckpoint.toFields backendCheckpoint (toFields_checkpointObject _)
    backendCheckpoint_object identityNoble_injOn
  cases ha : checkpointObjectHash identityNoble identityCheckpoint.toFields with
  | error e =>
    rw [ha] at hfirst
    cases hfirst
  | ok hash =>
    cases hb : checkpointObjectHash identityNoble backendCheckpoint with
    | error e =>
      rw [hb] at hsecond
      cases hsecond
    | ok hash' =>
      refine ⟨hash, hash', rfl, rfl, ?_⟩
      refine hbinds (js "settlement_backend") (by decide) ?_ hash hash' ha hb
      intro he
      rw [he, hsome] at hnone
      cases hnone

end Identity

end Continuity

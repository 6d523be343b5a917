import Continuity.JsonParse
import Continuity.Signing

namespace Continuity
set_option autoImplicit true

/-- The signed objects of the protocol. -/
inductive SignedKind where
  | event
  | receipt
  | attestation
  | attestationV2
  | revocation
  | assessment
  | assessmentV2
  | agentDelegation
  | delegationPolicy
  | agentAction
  | auditFinding
  | governancePolicy
  | disclosureConsent
  | graphFeatureVector
  | sybilAssessment
  | driftReport
  deriving DecidableEq

namespace SignedKind

def tag : SignedKind → JsString
  | event => DOMAIN_TAGS.EVENT_V1
  | receipt => DOMAIN_TAGS.RECEIPT_V1
  | attestation => DOMAIN_TAGS.ATTESTATION_V1
  | attestationV2 => js "tsl.attestation.v2"
  | revocation => DOMAIN_TAGS.REVOCATION_V1
  | assessment => DOMAIN_TAGS.ASSESSMENT_V1
  | assessmentV2 => V2_DOMAIN_TAGS.TRUST_ASSESSMENT_V2
  | agentDelegation => DOMAIN_TAGS.AGENT_DELEGATION_V1
  | delegationPolicy => V2_DOMAIN_TAGS.DELEGATION_POLICY_V2
  | agentAction => V2_DOMAIN_TAGS.AGENT_ACTION_V2
  | auditFinding => DOMAIN_TAGS.AUDIT_FINDING_V1
  | governancePolicy => DOMAIN_TAGS.GOVERNANCE_POLICY_V1
  | disclosureConsent => V2_DOMAIN_TAGS.DISCLOSURE_CONSENT_V1
  | graphFeatureVector => V2_DOMAIN_TAGS.GRAPH_FEATURE_VECTOR_V1
  | sybilAssessment => V2_DOMAIN_TAGS.SYBIL_ASSESSMENT_V1
  | driftReport => V2_DOMAIN_TAGS.DRIFT_REPORT_V1

def signatureFields : SignedKind → List JsString
  | agentDelegation => [js "controller_signature", js "agent_signature"]
  | _ => [js "signature"]

/-- The kinds whose hash functions take an object without a signature as it is. -/
def acceptsUnsigned : SignedKind → Bool
  | event | receipt | attestation | revocation | assessment | auditFinding | governancePolicy =>
    true
  | _ => false

theorem tag_marked (k : SignedKind) : Tag k.tag := by
  cases k <;> decide

def all : List SignedKind :=
  [event, receipt, attestation, attestationV2, revocation, assessment, assessmentV2,
    agentDelegation, delegationPolicy, agentAction, auditFinding, governancePolicy,
    disclosureConsent, graphFeatureVector, sybilAssessment, driftReport]

theorem mem_all (k : SignedKind) : k ∈ all := by
  cases k <;> decide

theorem tag_injective {k l : SignedKind} (h : textEncode k.tag = textEncode l.tag) : k = l := by
  have hd : (all.map fun k => textEncode k.tag).Nodup := by decide
  exact List.inj_on_of_nodup_map hd (mem_all k) (mem_all l) h

end SignedKind

def hasField (value : JsObject) (key : JsString) : Bool := value.any fun f => f.1 == key

/-- What an object holds under a key. -/
def fieldOf (value : JsObject) (key : JsString) : Option JsValue :=
  (value.find? fun f => f.1 == key).map Prod.snd

def PROTO : JsString := js "__proto__"

def JsValue.isObject : JsValue → Bool
  | .arr _ => true
  | .obj _ => true
  | _ => false

/-- `withoutField` of a parsed object, as the canonical encoder sees the copy. The assignment
`copy["__proto__"] = child` adds no key: it is ignored for a primitive, `null` leaves the copy a
plain object, and any other object makes it one the encoder refuses. -/
def copyWithoutField (value : JsObject) (field : JsString) : Js JsObject :=
  match fieldOf value PROTO with
  | none => return withoutField value field
  | some child =>
    if child.isObject then throw "Unsupported value in TSL canonicalization: object"
    else return (withoutField value field).filter fun entry => entry.1 != PROTO

/-- The object a signature is made over. -/
def signingPayload (kind : SignedKind) (value : JsObject) : Js JsObject :=
  match kind with
  | .agentDelegation =>
    return deleteField (deleteField value (js "controller_signature")) (js "agent_signature")
  | kind =>
    if kind.acceptsUnsigned && !hasField value (js "signature") then return value
    else copyWithoutField value (js "signature")

section Coverage

variable (N : Noble)

def signingHash (kind : SignedKind) (value : JsObject) : Js Hex32 := do
  let payload ← signingPayload kind value
  let bytes ← canonicalBytes (.obj payload)
  return hashDomain N kind.tag bytes

/-- The fields of an object other than its signatures. -/
def signedFields (kind : SignedKind) (value : JsObject) : JsObject :=
  value.filter fun entry => !kind.signatureFields.contains entry.1

/-- Equal signing hashes are hashes of the same kind of object with the same signed fields. -/
def Covers (k : SignedKind) (a : JsObject) (l : SignedKind) (b : JsObject) : Prop :=
  ∀ hash, signingHash N k a = .ok hash → signingHash N l b = .ok hash →
    k.tag = l.tag ∧ SameValue (.obj (signedFields k a)) (.obj (signedFields l b))

end Coverage

/-- A parsed object that carries its signatures. -/
structure SignedObject (kind : SignedKind) (value : JsObject) : Prop where
  parsed : Parsed (.obj value)
  signed : ∀ field ∈ kind.signatureFields, hasField value field = true

theorem fieldOf_none {value : JsObject} :
    fieldOf value key = none ↔ ∀ f ∈ value, f.1 ≠ key := by
  simp [fieldOf, List.find?_eq_none]

/-- A key that stands once in an object is read from its entry. -/
theorem fieldOf_some {value : JsObject} (hk : (value.map Prod.fst).Nodup) :
    fieldOf value key = some child ↔ (key, child) ∈ value := by
  constructor
  · intro h
    obtain ⟨f, hf, rfl⟩ := Option.map_eq_some_iff.mp h
    have hkey : f.1 = key := by simpa using List.find?_some hf
    rw [← hkey]
    exact List.mem_of_find?_eq_some hf
  · intro hm
    cases h : fieldOf value key with
    | none => exact absurd rfl (fieldOf_none.mp h _ hm)
    | some other =>
      obtain ⟨f, hf, rfl⟩ := Option.map_eq_some_iff.mp h
      have hkey : f.1 = key := by simpa using List.find?_some hf
      have he := List.inj_on_of_nodup_map hk (List.mem_of_find?_eq_some hf) hm hkey
      rw [he]

theorem withoutField_eq {value : JsObject} (h : ∀ f ∈ value, f.2 ≠ .undefined)
    (field : JsString) : withoutField value field = deleteField value field := by
  unfold withoutField deleteField
  apply List.filter_congr
  intro f hf
  have hu : f.2.isUndefined = false := by
    have hne := h f hf
    cases hv : f.2 <;> first | rfl | exact absurd hv hne
  simp [hu]

theorem parsed_defined {value : JsObject} (h : Parsed (.obj value)) :
    ∀ f ∈ value, f.2 ≠ .undefined := by
  intro f hf hu
  have hp := parsedFields_iff.mp h.2 f hf
  rw [hu] at hp
  exact hp

/-- The fields of an object that its copy keeps. -/
def keptFields (kind : SignedKind) (value : JsObject) : JsObject :=
  (signedFields kind value).filter fun entry => entry.1 != PROTO

theorem signedFields_single (hk : kind.signatureFields = [field]) (value : JsObject) :
    signedFields kind value = deleteField value field := by
  unfold signedFields deleteField
  apply List.filter_congr
  intro f _
  rw [Bool.eq_iff_iff]
  simp [hk]

theorem signingPayload_delegation (value : JsObject) :
    signingPayload .agentDelegation value = .ok (signedFields .agentDelegation value) := by
  simp only [signingPayload, deleteField, List.filter_filter, signedFields,
    SignedKind.signatureFields]
  congr 1
  apply List.filter_congr
  intro f _
  rw [Bool.eq_iff_iff]
  simp [and_comm]

/-- The copy is refused: the object holds an object under `__proto__`. -/
def refusesProto (value : JsObject) : Bool :=
  match fieldOf value PROTO with
  | none => false
  | some child => child.isObject

theorem signatureFields_copy {kind : SignedKind} (hk : kind ≠ .agentDelegation) :
    kind.signatureFields = [js "signature"] := by
  cases kind <;> first | rfl | exact absurd rfl hk

theorem keptFields_of_none {value : JsObject} (h : fieldOf value PROTO = none) :
    keptFields kind value = signedFields kind value := by
  apply List.filter_eq_self.mpr
  intro f hf
  have hne := fieldOf_none.mp h f (List.mem_filter.mp hf).1
  simpa using hne

theorem signingPayload_copy (h : SignedObject kind value) (hk : kind ≠ .agentDelegation) :
    signingPayload kind value = copyWithoutField value (js "signature") := by
  have hs : hasField value (js "signature") = true :=
    h.signed _ (by rw [signatureFields_copy hk]; exact List.mem_singleton_self _)
  cases kind <;> first | exact absurd rfl hk | simp [signingPayload, hs]

/-- The payload of a copied object, or the refusal to encode the copy. -/
theorem signingPayload_eq (h : SignedObject kind value) (hk : kind ≠ .agentDelegation) :
    signingPayload kind value =
      if refusesProto value then .error "Unsupported value in TSL canonicalization: object"
      else .ok (keptFields kind value) := by
  have hdelete : withoutField value (js "signature") = signedFields kind value := by
    rw [withoutField_eq (parsed_defined h.parsed), signedFields_single (signatureFields_copy hk)]
  rw [signingPayload_copy h hk, copyWithoutField, refusesProto, hdelete]
  cases hp : fieldOf value PROTO with
  | none =>
    simp only [keptFields_of_none hp]
    rfl
  | some child =>
    cases hc : child.isObject with
    | true => simp; rfl
    | false => simp; rfl

theorem signingHash_ok {hash : Hex32} (h : signingHash N kind value = .ok hash) :
    ∃ payload bytes, signingPayload kind value = .ok payload ∧
      canonicalBytes (.obj payload) = .ok bytes ∧ hash = hashDomain N kind.tag bytes := by
  simp only [signingHash, bind_eq_ok] at h
  obtain ⟨payload, hp, bytes, hb, he⟩ := h
  exact ⟨payload, bytes, hp, hb, (Except.ok.inj he).symm⟩

/-- Equal signing hashes have the same kind and payloads that differ only in key order. -/
theorem signingHash_eq {hash : Hex32} (hi : Function.Injective N.sha256)
    (ha : signingHash N k a = .ok hash) (hb : signingHash N l b = .ok hash) : k = l ∧ ∃ payload payload',
      signingPayload k a = .ok payload ∧ signingPayload l b = .ok payload' ∧
      Encodable (.obj payload) ∧ SameValue (.obj payload) (.obj payload') := by
  obtain ⟨payload, bytes, hp, hbytes, rfl⟩ := signingHash_ok ha
  obtain ⟨payload', bytes', hp', hbytes', he⟩ := signingHash_ok hb
  obtain ⟨htag, hsame⟩ := hashDomain_injective hi k.tag_marked l.tag_marked he
  rw [← hsame] at hbytes'
  exact ⟨SignedKind.tag_injective htag, payload, payload', hp, hp',
    canonicalBytes_encodable hbytes,
    sameValue_of_normalize _ (canonicalBytes_unique hbytes hbytes')⟩

/-- Two objects of a copied kind that differ in what they hold under `__proto__`, which no copy
keeps, and in no other signed field. -/
structure HiddenProto (k : SignedKind) (a : JsObject) (l : SignedKind) (b : JsObject) : Prop where
  kind : k = l
  copied : k ≠ .agentDelegation
  left : refusesProto a = false
  right : refusesProto b = false
  differ : fieldOf a PROTO ≠ fieldOf b PROTO
  encodable : Encodable (.obj (keptFields k a))
  same : SameValue (.obj (keptFields k a)) (.obj (keptFields k b))

mutual
theorem Parsed.uniqueKeys : ∀ v : JsValue, Parsed v → UniqueKeys v
  | .null, _ => True.intro
  | .bool _, _ => True.intro
  | .num _, _ => True.intro
  | .str _, _ => True.intro
  | .arr items, h => ParsedItems.uniqueItems items h
  | .obj fields, h => ⟨h.1, ParsedFields.uniqueFields fields h.2⟩

theorem ParsedItems.uniqueItems : ∀ items : List JsValue, ParsedItems items → UniqueItems items
  | [], _ => True.intro
  | item :: items, h => ⟨Parsed.uniqueKeys item h.1, ParsedItems.uniqueItems items h.2⟩

theorem ParsedFields.uniqueFields : ∀ fields : JsObject, ParsedFields fields →
    UniqueFields fields
  | [], _ => True.intro
  | (_, child) :: fields, h =>
    ⟨Parsed.uniqueKeys child h.1, ParsedFields.uniqueFields fields h.2⟩
end

theorem uniqueKeys_filter {fields : JsObject} (h : UniqueKeys (.obj fields))
    (p : JsString × JsValue → Bool) : UniqueKeys (.obj (fields.filter p)) := by
  refine ⟨h.1.sublist (List.filter_sublist.map _), uniqueFields_iff.mpr ?_⟩
  intro f hf
  exact uniqueFields_iff.mp h.2 f (List.mem_filter.mp hf).1

theorem fieldOf_filter {fields : JsObject} (hk : (fields.map Prod.fst).Nodup)
    {p : JsString × JsValue → Bool} (hp : ∀ child, p (key, child) = true) :
    fieldOf (fields.filter p) key = fieldOf fields key := by
  have hk' : ((fields.filter p).map Prod.fst).Nodup :=
    hk.sublist (List.filter_sublist.map _)
  ext child
  rw [fieldOf_some hk', fieldOf_some hk, List.mem_filter, hp]
  simp

theorem normalize_primitive (h : v.isObject = false) (he : normalize v = normalize w) :
    v = w := by
  cases v <;> cases h
  all_goals cases w <;> first | exact he | cases he

/-- Objects that differ only in key order hold the same primitive under a key. -/
theorem SameValue.fieldOf_eq (h : SameValue (.obj xs) (.obj ys)) (hx : UniqueKeys (.obj xs))
    (hy : UniqueKeys (.obj ys)) (hc : fieldOf xs key = some child)
    (ho : child.isObject = false) : fieldOf ys key = some child := by
  have hn := h.normalize_eq hy
  simp only [normalize, JsValue.obj.injEq] at hn
  have hp := (sortKeys_perm (normalizeFields xs)).symm
  rw [hn] at hp
  replace hp := hp.trans (sortKeys_perm _)
  have hm := (fieldOf_some hx.1).mp hc
  have hm' : (key, normalize child) ∈ normalizeFields ys := by
    apply hp.mem_iff.mp
    rw [normalizeFields_eq_map]
    exact List.mem_map.mpr ⟨_, hm, rfl⟩
  rw [normalizeFields_eq_map] at hm'
  obtain ⟨f, hf, he⟩ := List.mem_map.mp hm'
  obtain ⟨hkey, hvalue⟩ := Prod.mk.inj he
  rw [fieldOf_some hy.1, normalize_primitive ho hvalue.symm, ← hkey]
  exact hf

theorem filter_key {fields : JsObject} (hk : (fields.map Prod.fst).Nodup) :
    fields.filter (fun f => f.1 == key) =
      match fieldOf fields key with
      | none => []
      | some child => [(key, child)] := by
  induction fields with
  | nil => rfl
  | cons f fields ih =>
    obtain ⟨k, child⟩ := f
    obtain ⟨hnew, hrest⟩ := List.nodup_cons.mp hk
    by_cases he : k = key
    · subst he
      have hnone : fieldOf fields k = none := by
        rw [fieldOf_none]
        intro g hg he
        exact hnew (List.mem_map.mpr ⟨g, hg, he⟩)
      have hempty := ih hrest
      rw [hnone] at hempty
      have hfound : fieldOf ((k, child) :: fields) k = some child := by
        simp [fieldOf]
      rw [hfound, List.filter_cons_of_pos (by simp), hempty]
    · have hskip : fieldOf ((k, child) :: fields) key = fieldOf fields key := by
        simp [fieldOf, he]
      rw [hskip, List.filter_cons_of_neg (by simpa using he), ih hrest]

/-- The signed fields are the kept ones and what stands under `__proto__`. -/
theorem signedFields_perm (kind : SignedKind) (value : JsObject) :
    (signedFields kind value).Perm (keptFields kind value ++
      (signedFields kind value).filter fun f => f.1 == PROTO) := by
  have hp := List.filter_append_perm (fun f : JsString × JsValue => f.1 != PROTO)
    (signedFields kind value)
  have he : ((signedFields kind value).filter fun f => !(f.1 != PROTO)) =
      (signedFields kind value).filter fun f => f.1 == PROTO := by
    apply List.filter_congr
    intro f _
    rw [bne, Bool.not_not]
  rw [he] at hp
  exact hp.symm

theorem signedFields_fieldOf (h : Parsed (.obj value)) (hk : PROTO ∉ kind.signatureFields) :
    fieldOf (signedFields kind value) PROTO = fieldOf value PROTO := by
  apply fieldOf_filter h.1
  intro child
  simpa using hk

theorem proto_not_signature (kind : SignedKind) : PROTO ∉ kind.signatureFields := by
  cases kind <;> decide

/-- What is kept and what stands under `__proto__` make up the signed fields. -/
theorem sameValue_signedFields (ha : Parsed (.obj a)) (hb : Parsed (.obj b))
    (hproto : fieldOf a PROTO = fieldOf b PROTO)
    (h : SameValue (.obj (keptFields k a)) (.obj (keptFields k b))) :
    SameValue (.obj (signedFields k a)) (.obj (signedFields k b)) := by
  have hua : UniqueKeys (.obj (signedFields k a)) := uniqueKeys_filter (Parsed.uniqueKeys _ ha) _
  have hub : UniqueKeys (.obj (signedFields k b)) := uniqueKeys_filter (Parsed.uniqueKeys _ hb) _
  have hsame : (signedFields k a).filter (fun f => f.1 == PROTO) =
      (signedFields k b).filter fun f => f.1 == PROTO := by
    rw [filter_key hua.1, filter_key hub.1, signedFields_fieldOf ha (proto_not_signature k),
      signedFields_fieldOf hb (proto_not_signature k), hproto]
  have hkept := h.normalize_eq (uniqueKeys_filter hub _)
  simp only [normalize, JsValue.obj.injEq] at hkept
  have hperm : (normalizeFields (keptFields k a)).Perm (normalizeFields (keptFields k b)) := by
    have hp := (sortKeys_perm (normalizeFields (keptFields k a))).symm
    rw [hkept] at hp
    exact hp.trans (sortKeys_perm _)
  apply sameValue_of_normalize
  rw [normalize, normalize]
  congr 1
  apply sortKeys_eq_of_perm
  · rw [normalizeFields_keys]
    exact hua.1
  · have happend (xs ys : JsObject) :
        normalizeFields (xs ++ ys) = normalizeFields xs ++ normalizeFields ys := by
      simp only [normalizeFields_eq_map, List.map_append]
    have hleft := normalizeFields_perm (signedFields_perm k a)
    have hright := normalizeFields_perm (signedFields_perm k b)
    rw [happend, hsame] at hleft
    rw [happend] at hright
    exact hleft.trans ((hperm.append_right _).trans hright.symm)

theorem SameValue.symm (h : SameValue a b) (hb : UniqueKeys b) : SameValue b a :=
  sameValue_of_normalize b (h.normalize_eq hb).symm

/-- A value hidden from the signature is a difference of the signed fields. -/
theorem HiddenProto.not_same (ha : SignedObject k a) (hb : SignedObject k b)
    (h : HiddenProto k a k b) :
    ¬SameValue (.obj (signedFields k a)) (.obj (signedFields k b)) := by
  intro hsame
  have hua : UniqueKeys (.obj (signedFields k a)) :=
    uniqueKeys_filter (Parsed.uniqueKeys _ ha.parsed) _
  have hub : UniqueKeys (.obj (signedFields k b)) :=
    uniqueKeys_filter (Parsed.uniqueKeys _ hb.parsed) _
  have hea := signedFields_fieldOf ha.parsed (proto_not_signature k)
  have heb := signedFields_fieldOf hb.parsed (proto_not_signature k)
  have hleft := h.left
  have hright := h.right
  apply h.differ
  cases hpa : fieldOf a PROTO with
  | some child =>
    simp only [refusesProto, hpa] at hleft
    rw [← heb, hsame.fieldOf_eq hua hub (hea.trans hpa) hleft]
  | none =>
    cases hpb : fieldOf b PROTO with
    | none => rfl
    | some child =>
      simp only [refusesProto, hpb] at hright
      have hback := (hsame.symm hub).fieldOf_eq hub hua (heb.trans hpb) hright
      rw [hea, hpa] at hback
      cases hback

theorem HiddenProto.not_covers (ha : SignedObject k a) (hb : SignedObject l b)
    (hidden : HiddenProto k a l b) : ¬Covers N k a l b := by
  intro hcovers
  obtain rfl := hidden.kind
  have hub : UniqueKeys (.obj (keptFields k b)) :=
    uniqueKeys_filter (uniqueKeys_filter (Parsed.uniqueKeys _ hb.parsed) _) _
  obtain ⟨bytes, hbytes⟩ := canonicalBytes_total hidden.encodable
  have hbytes' := canonicalBytes_congr hidden.encodable (hidden.same.normalize_eq hub)
  rw [hbytes] at hbytes'
  have hash_a : signingHash N k a = .ok (hashDomain N k.tag bytes) := by
    rw [signingHash, signingPayload_eq ha hidden.copied, hidden.left]
    exact bind_eq_ok.mpr ⟨_, rfl, bind_eq_ok.mpr ⟨bytes, hbytes, rfl⟩⟩
  have hash_b : signingHash N k b = .ok (hashDomain N k.tag bytes) := by
    rw [signingHash, signingPayload_eq hb hidden.copied, hidden.right]
    exact bind_eq_ok.mpr ⟨_, rfl, bind_eq_ok.mpr ⟨bytes, hbytes', rfl⟩⟩
  exact hidden.not_same ha hb (hcovers _ hash_a hash_b).2

/-- A signature covers every field of a signed object but one: what stands under `__proto__`. -/
theorem signingHash_covers_iff (hi : Function.Injective N.sha256) (ha : SignedObject k a)
    (hb : SignedObject l b) : Covers N k a l b ↔ ¬HiddenProto k a l b := by
  constructor
  · intro hcovers hidden
    exact hidden.not_covers ha hb hcovers
  · intro hnot hash hha hhb
    obtain ⟨rfl, payload, payload', hp, hp', henc, hsame⟩ := signingHash_eq hi hha hhb
    refine ⟨rfl, ?_⟩
    by_cases hk : k = .agentDelegation
    · subst hk
      rw [signingPayload_delegation] at hp hp'
      cases hp
      cases hp'
      exact hsame
    · rw [signingPayload_eq ha hk] at hp
      rw [signingPayload_eq hb hk] at hp'
      split_ifs at hp with hleft
      split_ifs at hp' with hright
      cases hp
      cases hp'
      simp only [Bool.not_eq_true] at hleft hright
      by_cases hproto : fieldOf a PROTO = fieldOf b PROTO
      · exact sameValue_signedFields ha.parsed hb.parsed hproto hsame
      · exact absurd ⟨rfl, hk, hleft, hright, hproto, henc, hsame⟩ hnot

/-- The hash functions of the typed objects are this hash on objects without that key. -/
theorem signingHash_eq_hashSignedObject (hk : kind ≠ .agentDelegation)
    (hp : fieldOf value PROTO = none) (hs : hasField value (js "signature") = true) :
    signingHash N kind value = hashSignedObject N kind.tag value := by
  have hpayload : signingPayload kind value = .ok (withoutSignature value) := by
    cases kind <;> first
      | exact absurd rfl hk
      | simp only [signingPayload, hs, Bool.not_true, Bool.and_false, Bool.false_eq_true,
          ↓reduceIte, copyWithoutField, hp]; rfl
  rw [signingHash, hpayload]
  rfl

theorem agentDelegationHash_eq (delegation : AgentDelegationV1) :
    agentDelegationHash N delegation = signingHash N .agentDelegation delegation.toFields := by
  simp only [agentDelegationHash, signingHash, signingPayload, pure_bind, SignedKind.tag]

def parsedEvent : JsObject :=
  [(js "type", .str (js "tsl.event_commitment.v1")), (js "event_class", .str (js "message")),
    (js "sender", .str (js "did:tsl:alice")), (js "signing_key_id", .str (js "#k1")),
    (js "content_commitment", .str (hex32 1)),
    (js "timestamp", .str (js "2026-05-25T00:00:00Z")), (js "nonce", .str (hex32 2)),
    (js "disclosure_policy", .str (js "commitment_only")), (js "signature", .str (js "0x00"))]

/-- The text of the event with a member `"__proto__": true` added. -/
def hiddenEvent : JsObject := parsedEvent ++ [(PROTO, .bool true)]

/-- A hash function that forgets nothing. -/
def plainNoble : Noble where
  sha256 := id
  ed25519GetPublicKey _ := throw "unused"
  ed25519Sign _ _ := throw "unused"
  ed25519Verify _ _ _ := throw "unused"

theorem parsedEvent_signed : SignedObject .event parsedEvent := by
  refine ⟨⟨by decide, ?_⟩, by decide⟩
  simp [parsedEvent, ParsedFields, Parsed]

theorem hiddenEvent_signed : SignedObject .event hiddenEvent := by
  refine ⟨⟨by decide, ?_⟩, by decide⟩
  simp [hiddenEvent, parsedEvent, ParsedFields, Parsed]

theorem keptFields_append_proto (kind : SignedKind) (value : JsObject) (child : JsValue) :
    keptFields kind (value ++ [(PROTO, child)]) = keptFields kind value := by
  simp [keptFields, signedFields, List.filter_append]

theorem hiddenEvent_hidden : HiddenProto .event hiddenEvent .event parsedEvent := by
  have hkept : keptFields .event hiddenEvent = keptFields .event parsedEvent :=
    keptFields_append_proto .event parsedEvent (.bool true)
  refine ⟨rfl, by decide, by decide, by decide, ?_, ?_, ?_⟩
  · have hsome : fieldOf hiddenEvent PROTO = some (.bool true) :=
      (fieldOf_some hiddenEvent_signed.parsed.1).mpr (by simp [hiddenEvent])
    have hnone : fieldOf parsedEvent PROTO = none := fieldOf_none.mpr (by decide)
    rw [hsome, hnone]
    exact Option.some_ne_none _
  · rw [hkept, Encodable, encodableFields_iff]
    intro f hf
    have hm : f ∈ parsedEvent := (List.mem_filter.mp (List.mem_filter.mp hf).1).1
    have hall : ∀ g ∈ parsedEvent, Encodable g.2 := by simp [parsedEvent, Encodable]
    exact hall f hm
  · rw [hkept]
    exact sameValue_of_normalize _ rfl

theorem event_proto_uncovered :
    SignedObject .event hiddenEvent ∧ SignedObject .event parsedEvent ∧
      Function.Injective plainNoble.sha256 ∧
      ¬Covers plainNoble .event hiddenEvent .event parsedEvent :=
  ⟨hiddenEvent_signed, parsedEvent_signed, Function.injective_id,
    hiddenEvent_hidden.not_covers hiddenEvent_signed parsedEvent_signed⟩

theorem signingHash_covers_iff_sample :
    Covers plainNoble .event parsedEvent .receipt hiddenEvent := by
  have hsigned : SignedObject .receipt hiddenEvent :=
    ⟨hiddenEvent_signed.parsed, hiddenEvent_signed.signed⟩
  rw [signingHash_covers_iff Function.injective_id parsedEvent_signed hsigned]
  intro hidden
  cases hidden.kind

end Continuity

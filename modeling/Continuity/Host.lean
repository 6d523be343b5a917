import Mathlib.Data.List.Dedup
import Continuity.Artifacts
import Continuity.Dates

namespace Continuity
set_option autoImplicit true

/-- A property of an object that a caller passes: it may be missing, or there without a value. -/
inductive JsField (α : Type) where
  | absent
  | undefined
  | null
  | value (a : α)

def JsField.toOption : JsField α → Option α
  | .value a => some a
  | _ => none

inductive SchemaName where
  | identity
  | event
  | receipt
  | attestation
  | revocation
  | checkpoint
  | inclusionProof
  | trustAssessment
  | zkThresholdProof
  | agentDelegation
  | auditFinding
  | consistencyProof
  | governancePolicy
  | nonMembershipProof
  | proofBundleV1
  | scoringProfileV2
  | domainPolicyV1
  | evidenceCoverageV1
  | trustAssessmentV2
  | metadataFingerprintCommitmentV1
  | disclosureConsentV1
  | graphProfileV2
  | graphFeatureVectorV1
  | sybilAssessmentV1
  | driftReportV1
  | attestationV2
  | delegationPolicyV2
  | agentActionV2
  | providerGovernanceStatusV1
  | seedGovernanceProfileV1
  | settlementEvidenceV1
  deriving DecidableEq

structure ErrorObject where
  instancePath : String
  message : Option String

/-- What the code finds around it: the packages it calls, the environment and the clock. -/
structure Host where
  noble : Noble
  /-- The errors of a value under a compiled schema, `none` when it conforms. -/
  ajv : SchemaName → JsValue → Option (List ErrorObject)
  dateHeuristics : JsString → Option Int
  /-- `Number.prototype.toString` of a finite number. -/
  numberText : ℚ → JsString
  /-- `toLowerCase` of a text that is not plain ASCII. -/
  lowerUnicode : JsString → JsString
  env : ProcessEnv
  now : Int
  nowText : RFC3339

structure SchemaValidationResult where
  valid : Bool
  errors : List String

def errorText (error : ErrorObject) : String :=
  (if error.instancePath = "" then "/" else error.instancePath) ++ " " ++
    error.message.getD "failed validation"

namespace Host

def validateSchema (H : Host) (name : SchemaName) (value : JsValue) : SchemaValidationResult :=
  match H.ajv name value with
  | none => { valid := true, errors := [] }
  | some errors => { valid := false, errors := errors.map errorText }

/-- `Date.parse`, `none` for `NaN`. -/
def parse (H : Host) (s : RFC3339) : Option Int := dateParse H.dateHeuristics s

def toLowerCase (H : Host) (s : JsString) : JsString :=
  if s.all (· < 128) then s.map fun u => if 65 ≤ u && u ≤ 90 then u + 32 else u
  else H.lowerUnicode s

def flag (H : Host) (name : String) : Bool := H.env (js name) == some (js "true")

def onMainnet (H : Host) : Bool := H.env (js "TSL_NETWORK") == some (js "mainnet")

end Host

/-- `<=` on times; a comparison with `NaN` is false. -/
def timeLe (a b : Option Int) : Bool :=
  match a, b with
  | some a, some b => a ≤ b
  | _, _ => false

def timeLt (a b : Option Int) : Bool :=
  match a, b with
  | some a, some b => a < b
  | _, _ => false

/-- `condition && x` where only the second operand can throw. -/
def guarded (condition : Bool) (x : Js Bool) : Js Bool := if condition then x else return false

/-- The truth value of an optional flag. -/
def isOn (b : Option Bool) : Bool := b == some true

def nonEmptyList (items : Option (List α)) : Bool :=
  match items with
  | some (_ :: _) => true
  | _ => false

/-- `text.includes(part)`. -/
def includesText (text part : String) : Bool := decide (part.toList <:+: text.toList)

def getField (object : JsObject) (key : JsString) : JsValue :=
  match object.find? fun entry => entry.1 == key with
  | some entry => entry.2
  | none => .undefined

/-- `===` between a field of one object and a field of another; two objects are never the same. -/
def strictEq : JsValue → JsValue → Bool
  | .null, .null => true
  | .undefined, .undefined => true
  | .bool a, .bool b => a == b
  | .num a, .num b => a.strictEq b
  | .str a, .str b => a == b
  | _, _ => false

def jsonNumber (H : Host) (n : JsNumber) : JsString :=
  match n with
  | .fin q => H.numberText q
  | .negZero => js "0"
  | _ => js "null"

mutual
/-- `JSON.stringify`; `none` is `undefined`. -/
def jsonStringify (H : Host) : JsValue → Option JsString
  | .null => some (js "null")
  | .undefined => none
  | .bool b => some (if b then js "true" else js "false")
  | .num n => some (jsonNumber H n)
  | .str s => some (jsonString s)
  | .arr items => some (91 :: (joinComma (stringifyItems H items) ++ [93]))
  | .obj fields => some (123 :: (joinComma (stringifyFields H fields) ++ [125]))

def stringifyItems (H : Host) : List JsValue → List JsString
  | [] => []
  | item :: items => (jsonStringify H item).getD (js "null") :: stringifyItems H items

def stringifyFields (H : Host) : List (JsString × JsValue) → List JsString
  | [] => []
  | (key, child) :: fields =>
    match jsonStringify H child with
    | some text => (jsonString key ++ 58 :: text) :: stringifyFields H fields
    | none => stringifyFields H fields
end

/-- `Array.from(new Set(values))`. -/
def unique [DecidableEq α] (values : List α) : List α := values.reverse.dedup.reverse

theorem mem_unique [DecidableEq α] {a : α} {values : List α} : a ∈ unique values ↔ a ∈ values := by
  rw [unique, List.mem_reverse, List.mem_dedup, List.mem_reverse]

theorem unique_nodup [DecidableEq α] (values : List α) : (unique values).Nodup := by
  rw [unique, List.nodup_reverse]
  exact List.nodup_dedup _

end Continuity

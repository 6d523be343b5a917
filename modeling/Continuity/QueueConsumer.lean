import Mathlib
import Continuity.DurableLogs
import Continuity.Frames
import Continuity.StreamReading
import Continuity.VerifierSound

namespace Continuity
open Statements Program StreamReading
set_option autoImplicit true

/-- The topics that the log node consumes. -/
inductive QueueTopic where
  | commitmentsAccepted
  | receiptsAccepted
  | attestationsAccepted
  | revocationsAccepted
  deriving DecidableEq

namespace QueueTopic

def text : QueueTopic → JsString
  | commitmentsAccepted => js "tsl.commitments.accepted.v1"
  | receiptsAccepted => js "tsl.receipts.accepted.v1"
  | attestationsAccepted => js "tsl.attestations.accepted.v1"
  | revocationsAccepted => js "tsl.revocations.accepted.v1"

/-- The log that the documents of a topic go to. -/
def kind : QueueTopic → TreeKind
  | commitmentsAccepted => .event
  | receiptsAccepted => .receipt
  | attestationsAccepted => .attestation
  | revocationsAccepted => .revocation

/-- The value of a message that holds the document. -/
def field : QueueTopic → JsString
  | commitmentsAccepted => js "event"
  | receiptsAccepted => js "receipt"
  | attestationsAccepted => js "attestation"
  | revocationsAccepted => js "revocation"

/-- The topics in the order in which a call reads them. -/
def consumed : List QueueTopic :=
  [commitmentsAccepted, receiptsAccepted, attestationsAccepted, revocationsAccepted]

end QueueTopic

/-- The id of a stream entry: milliseconds and a sequence number. -/
abbrev StreamId := ℕ ×ₗ ℕ

abbrev MessageValues := JsString → Option JsString

abbrev QueueMessage := Entry StreamId MessageValues

/-- What `deadLetter` publishes. -/
structure DeadLetter where
  source_topic : JsString
  source_id : StreamId
  error : String
  values : MessageValues

/-- A log node with a queue. -/
structure LogNode where
  repo : PostgresRepository
  /-- `TSL_EPOCH_MS`. -/
  epochMs : ℕ+
  /-- `Number` of a text. -/
  number : JsString → JsNumber
  /-- `JSON.parse` of the documents. -/
  parseEvent : JsString → Js EventCommitmentV1
  parseReceipt : JsString → Js ReceiptCommitmentV1
  parseAttestation : JsString → Js AttestationV1
  parseRevocation : JsString → Js RevocationV1

namespace LogNode

variable (N : LogNode)

def relayId : JsString := (N.repo.host.env (js "TSL_RELAY_ID")).getD (js "did:tsl:relay:dev")

/-- What a call does with a document of the topic. -/
def insertDocument (topic : QueueTopic) (values : MessageValues) (text : JsString) : Sql Unit :=
  match topic with
  | .commitmentsAccepted => do
    let event ← lift (N.parseEvent text)
    let relayId := (values (js "relay_id")).getD N.relayId
    let epochStartMs := ((values (js "epoch_start_ms")).map N.number).getD .nan
    let _ ← N.repo.insertEvent event relayId epochStartMs
    pure ()
  | .receiptsAccepted => do
    let receipt ← lift (N.parseReceipt text)
    let epochStartMs := epochStartOf N.epochMs (N.repo.host.parse receipt.timestamp)
    let hash ← lift (receiptCommitmentHash N.repo.noble receipt)
    N.repo.insertReceipt receipt hash N.relayId epochStartMs
  | .attestationsAccepted => do
    let attestation ← lift (N.parseAttestation text)
    let epochStartMs := epochStartOf N.epochMs (N.repo.host.parse attestation.issued_at)
    let _ ← N.repo.insertAttestation attestation N.relayId epochStartMs
    pure ()
  | .revocationsAccepted => do
    let revocation ← lift (N.parseRevocation text)
    let _ ← N.repo.insertRevocation revocation N.relayId N.epochMs
    pure ()

/-- The hash that the document of a topic is stored under. -/
def documentHash (topic : QueueTopic) (text : JsString) : Js Hex32 :=
  match topic with
  | .commitmentsAccepted => do commitmentHash N.repo.noble (← N.parseEvent text)
  | .receiptsAccepted => do receiptCommitmentHash N.repo.noble (← N.parseReceipt text)
  | .attestationsAccepted => do attestationCommitmentHash N.repo.noble (← N.parseAttestation text)
  | .revocationsAccepted => do revocationCommitmentHash N.repo.noble (← N.parseRevocation text)

end LogNode

/-- The document that a message of the topic carries, if it has one. -/
def document (topic : QueueTopic) (message : QueueMessage) : Option JsString :=
  let text := message.values topic.field
  if truthy text then text else none

/-- What the calls share. -/
structure ConsumerState where
  streams : QueueTopic → EntryStream StreamId MessageValues
  deadLetters : QueueTopic → List DeadLetter
  db : Database
  lastStreamIds : QueueTopic → Option StreamId

/-- `lastStreamIds.set(topic, id)`. -/
def ConsumerState.setLastStreamId (s : ConsumerState) (topic : QueueTopic) (id : StreamId) :
    ConsumerState :=
  { s with lastStreamIds := Function.update s.lastStreamIds topic (some id) }

def ConsumerState.deadLetter (s : ConsumerState) (topic : QueueTopic) (letter : DeadLetter) :
    ConsumerState :=
  { s with deadLetters := Function.update s.deadLetters topic (s.deadLetters topic ++ [letter]) }

/-- Where a call of `consumeQueueOnce` stands. -/
inductive Phase where
  | topics (topics : List QueueTopic)
  | reading (topic : QueueTopic) (lastId : Option StreamId) (topics : List QueueTopic)
  | handling (topic : QueueTopic) (messages : List QueueMessage) (topics : List QueueTopic)
  | inserting (topic : QueueTopic) (message : QueueMessage) (program : Sql Unit)
    (messages : List QueueMessage) (topics : List QueueTopic)
  | deadLettering (topic : QueueTopic) (message : QueueMessage) (error : String)
    (messages : List QueueMessage) (topics : List QueueTopic)
  | returned
  | rejected (error : String)

structure ConsumeCall where
  limit : Nat
  counts : List (QueueTopic × Nat)
  phase : Phase

namespace ConsumeCall

def start (limit : Nat) : ConsumeCall := ⟨limit, [], .topics QueueTopic.consumed⟩

/-- The next step of a call. It waits for the queue or the database in four of its phases, and what
it waits for there may fail. -/
def advance (N : LogNode) (failure : Option String) (s : ConsumerState) (call : ConsumeCall) :
    ConsumerState × ConsumeCall :=
  match call.phase with
  | .topics [] => (s, { call with phase := .returned })
  | .topics (topic :: topics) =>
    (s, { call with phase := .reading topic (s.lastStreamIds topic) topics })
  | .reading topic lastId topics =>
    match failure with
    | some error => (s, { call with phase := .rejected error })
    | none =>
      let messages := (s.streams topic).read lastId call.limit
      (s, { call with
        counts := call.counts ++ [(topic, messages.length)]
        phase := .handling topic messages topics })
  | .handling _ [] topics => (s, { call with phase := .topics topics })
  | .handling topic (message :: messages) topics =>
    -- the cursor moves before anything is stored
    let s' := s.setLastStreamId topic message.id
    match document topic message with
    | some text =>
      let program := N.insertDocument topic message.values text
      (s', { call with phase := .inserting topic message program messages topics })
    | none => (s', { call with phase := .handling topic messages topics })
  | .inserting topic message program messages topics =>
    match program with
    | .done (.ok _) => (s, { call with phase := .handling topic messages topics })
    | .done (.error error) =>
      (s, { call with phase := .deadLettering topic message error messages topics })
    | .statement effect next =>
      match failure with
      | some error =>
        (s, { call with phase := .deadLettering topic message error messages topics })
      | none =>
        ({ s with db := effect s.db },
          { call with phase := .inserting topic message (next s.db) messages topics })
  | .deadLettering topic message error messages topics =>
    match failure with
    | some failed => (s, { call with phase := .rejected failed })
    | none =>
      (s.deadLetter topic ⟨topic.text, message.id, error, message.values⟩,
        { call with phase := .handling topic messages topics })
  | .returned => (s, call)
  | .rejected _ => (s, call)

end ConsumeCall

/-- Every hash that the logs of one database hold is in those of the other. -/
def RowsKept (db db' : Database) : Prop :=
  ∀ kind, ∀ row ∈ db.logs kind, ∃ row' ∈ db'.logs kind, row'.hash = row.hash

/-- A statement of somebody else; none takes rows out of a log. -/
structure OtherStatement where
  effect : Database → Database
  kept : ∀ db, RowsKept db (effect db)

/-- A log node while its calls run. -/
structure ConsumerRun extends ConsumerState where
  calls : Nat → Option ConsumeCall

/-- The run once a call has come to the given point. -/
def ConsumerRun.withCall (w : ConsumerRun) (s : ConsumerState) (i : Nat) (call : ConsumeCall) :
    ConsumerRun :=
  { s with calls := Function.update w.calls i (some call) }

inductive ConsumerAction where
  | publish (topic : QueueTopic) (message : QueueMessage)
  | database (other : OtherStatement)
  | consume (call limit : Nat)
  | advance (call : Nat) (failure : Option String)

def ConsumerRun.step (N : LogNode) (w : ConsumerRun) : ConsumerAction → ConsumerRun
  | .publish topic message =>
    { w with streams := Function.update w.streams topic ((w.streams topic).add message) }
  | .database other => { w with db := other.effect w.db }
  | .consume i limit =>
    match w.calls i with
    | none => w.withCall w.toConsumerState i (ConsumeCall.start limit)
    | some _ => w
  | .advance i failure =>
    match w.calls i with
    | none => w
    | some call =>
      let (s, call') := call.advance N failure w.toConsumerState
      w.withCall s i call'

section Rows

variable {P : PostgresRepository} {db db' : Database} {hash : Hex32}

theorem RowsKept.refl (db : Database) : RowsKept db db := fun _ row h => ⟨row, h, rfl⟩

theorem RowsKept.trans (h : RowsKept a b) (h' : RowsKept b c) : RowsKept a c := by
  intro kind row hrow
  obtain ⟨row', hrow', he⟩ := h kind row hrow
  obtain ⟨row'', hrow'', he'⟩ := h' kind row' hrow'
  exact ⟨row'', hrow'', he'.trans he⟩

theorem setLog_kept (db : Database) (row : LogRow kind) :
    RowsKept db (db.setLog kind (db.logs kind ++ [row])) := by
  intro other x hx
  by_cases hk : other = kind
  · subst hk
    refine ⟨x, ?_, rfl⟩
    rw [setLog_logs, Function.update_self]
    exact List.mem_append_left _ hx
  · refine ⟨x, ?_, rfl⟩
    rw [setLog_logs, Function.update_of_ne hk]
    exact hx

/-- The log holds a row of the hash. -/
def Held (db : Database) (kind : TreeKind) (hash : Hex32) : Prop :=
  ∃ row ∈ db.logs kind, sqlText hash = .ok row.hash

theorem Held.kept (h : Held db kind hash) (hr : RowsKept db db') : Held db' kind hash := by
  obtain ⟨row, hrow, hhash⟩ := h
  obtain ⟨row', hrow', he⟩ := hr kind row hrow
  exact ⟨row', hrow', by rw [he, hhash]⟩

theorem setLog_held (db : Database) {row : LogRow kind} (h : sqlText hash = .ok row.hash) :
    Held (db.setLog kind (db.logs kind ++ [row])) kind hash := by
  refine ⟨row, ?_, h⟩
  rw [setLog_logs, Function.update_self]
  exact List.mem_append_right _ (List.mem_singleton_self row)

theorem held_of_any {row : LogRow kind} (h : sqlText hash = .ok row.hash)
    (ha : (db.logs kind).any (fun other => other.hash == row.hash) = true) : Held db kind hash := by
  obtain ⟨other, hother, he⟩ := List.any_eq_true.mp ha
  exact ⟨other, hother, by rw [h, beq_iff_eq.mp he]⟩

theorem insertLogRow_kept {row : LogRow kind} (h : db.insertLogRow row = .ok db') :
    RowsKept db db' := by
  rw [Database.insertLogRow] at h
  split_ifs at h <;> cases h
  · exact RowsKept.refl db
  · exact setLog_kept db row

theorem insertLogRow_held {row : LogRow kind} (hh : sqlText hash = .ok row.hash)
    (h : db.insertLogRow row = .ok db') : Held db' kind hash := by
  rw [Database.insertLogRow] at h
  split_ifs at h with _ ha <;> cases h
  · exact held_of_any hh ha
  · exact setLog_held db hh

theorem insertEventRow_kept {row : LogRow .event} (h : db.insertEventRow row = .ok db') :
    RowsKept db db' := by
  simp only [Database.insertEventRow] at h
  split_ifs at h <;> cases h
  · exact RowsKept.refl db
  · exact setLog_kept db row

theorem insertEventRow_held {row : LogRow .event} (hh : sqlText hash = .ok row.hash)
    (h : db.insertEventRow row = .ok db') : Held db' .event hash := by
  simp only [Database.insertEventRow] at h
  split_ifs at h with _ ha <;> cases h
  · exact held_of_any hh ha
  · exact setLog_held db hh

theorem markRevoked_kept (h : P.markRevoked revocation db = .ok db') : RowsKept db db' := by
  simp only [PostgresRepository.markRevoked, bind_eq_ok] at h
  obtain ⟨_, -, _, -, _, -, h⟩ := h
  cases h
  exact RowsKept.refl db

theorem eventRow_hash (h : P.eventRow event relayId epoch hash shard body accepted_at = .ok row) :
    sqlText hash = .ok row.hash := by
  simp only [PostgresRepository.eventRow, bind_eq_ok] at h
  obtain ⟨stored, hstored, _, -, _, -, _, -, _, -, _, -, _, -, _, -, _, -, _, -, _, -, _, -, h⟩ := h
  cases h
  exact hstored

theorem receiptRow_hash (h : P.receiptRow receipt hash relayId epoch shard accepted_at = .ok row) :
    sqlText hash = .ok row.hash := by
  simp only [PostgresRepository.receiptRow, bind_eq_ok] at h
  obtain ⟨stored, hstored, _, -, _, -, _, -, _, -, _, -, _, -, _, -, _, -, h⟩ := h
  cases h
  exact hstored

theorem attestationRow_hash
    (h : P.attestationRow attestation relayId epoch hash shard accepted_at = .ok row) :
    sqlText hash = .ok row.hash := by
  simp only [PostgresRepository.attestationRow, bind_eq_ok] at h
  obtain ⟨stored, hstored, _, -, _, -, _, -, _, -, _, -, _, -, _, -, _, -, _, -, h⟩ := h
  cases h
  exact hstored

theorem revocationRow_hash
    (h : P.revocationRow revocation relayId epoch hash shard accepted_at = .ok row) :
    sqlText hash = .ok row.hash := by
  simp only [PostgresRepository.revocationRow, bind_eq_ok] at h
  obtain ⟨stored, hstored, _, -, _, -, _, -, _, -, _, -, _, -, _, -, h⟩ := h
  cases h
  exact hstored

theorem insertReceipt_changes (P : PostgresRepository) (receipt : ReceiptCommitmentV1)
    (hash : Hex32) (relayId : JsString) (epoch : JsNumber) :
    Changes RowsKept (P.insertReceipt receipt hash relayId epoch) :=
  (assertSegmentOpen_changes RowsKept.refl).bind fun _ => Changes.lift_bind fun _ =>
    execute_changes RowsKept.refl fun _ _ h => by
      obtain ⟨row, -, h⟩ := bind_eq_ok.mp h
      exact insertLogRow_kept h

theorem insertAttestation_changes (P : PostgresRepository) (attestation : AttestationV1)
    (relayId : JsString) (epoch : JsNumber) :
    Changes RowsKept (P.insertAttestation attestation relayId epoch) :=
  Changes.lift_bind fun _ => (assertSegmentOpen_changes RowsKept.refl).bind fun _ => Changes.lift_bind fun _ =>
    (execute_changes RowsKept.refl fun _ _ h => by
      obtain ⟨row, -, h⟩ := bind_eq_ok.mp h
      exact insertLogRow_kept h).bind fun _ => changes_done _

theorem insertRevocation_changes (P : PostgresRepository) (revocation : RevocationV1)
    (relayId : JsString) (epochMs : ℕ+) :
    Changes RowsKept (P.insertRevocation revocation relayId epochMs) :=
  Changes.lift_bind fun _ => (assertSegmentOpen_changes RowsKept.refl).bind fun _ => Changes.lift_bind fun _ =>
    (execute_changes RowsKept.refl fun _ _ h => by
      obtain ⟨row, -, h⟩ := bind_eq_ok.mp h
      exact insertLogRow_kept h).bind fun _ =>
      (execute_changes RowsKept.refl fun _ _ => markRevoked_kept).bind fun _ => changes_done _

/-- No insert takes a row out of a log. -/
theorem insertDocument_changes (N : LogNode) (topic : QueueTopic) (values : MessageValues)
    (text : JsString) : Changes RowsKept (N.insertDocument topic values text) := by
  cases topic with
  | commitmentsAccepted =>
    exact Changes.lift_bind fun event =>
      (insertEvent_changes N.repo RowsKept.refl (fun _ _ _ => insertEventRow_kept) event _ _).bind fun _ => changes_done _
  | receiptsAccepted =>
    exact Changes.lift_bind fun receipt => Changes.lift_bind fun hash =>
      insertReceipt_changes N.repo receipt hash _ _
  | attestationsAccepted =>
    exact Changes.lift_bind fun attestation =>
      (insertAttestation_changes N.repo attestation _ _).bind fun _ => changes_done _
  | revocationsAccepted =>
    exact Changes.lift_bind fun revocation =>
      (insertRevocation_changes N.repo revocation _ _).bind fun _ => changes_done _

theorem lift_ensures {x : Js α} {f : α → Sql β} {post : Nat → β → Database → Prop}
    (h : ∀ a, x = .ok a → ∀ t, Ensures (fun _ => RowsKept) post n (f a) t) :
    Ensures (fun _ => RowsKept) post n (lift x >>= f) db :=
  Ensures.lift_bind (fun _ => RowsKept.refl) fun a ha t _ => h a ha t

/-- An insert that succeeds leaves the row, whatever others do. -/
theorem insertEvent_ensures : Ensures (fun _ => RowsKept)
    (fun _ hash db => commitmentHash P.noble event = .ok hash ∧ Held db .event hash) n
    (P.insertEvent event relayId epoch) db := by
  refine lift_ensures fun hash hhash _ => Ensures.after fun _ _ _ => lift_ensures fun _ _ _ =>
    Ensures.bind (fun _ => RowsKept.refl) (execute_ensures fun t _ u hu v hv => ?_)
  obtain ⟨row, hrow, hu⟩ := bind_eq_ok.mp hu
  exact ensures_ok.mpr fun w hw => ⟨hhash, ((insertEventRow_held (eventRow_hash hrow) hu).kept hv).kept hw⟩

theorem insertReceipt_ensures : Ensures (fun _ => RowsKept)
    (fun _ _ db => Held db .receipt hash) n (P.insertReceipt receipt hash relayId epoch) db := by
  refine Ensures.after fun _ _ _ => lift_ensures fun _ _ _ => execute_ensures fun t _ u hu v hv => ?_
  obtain ⟨row, hrow, hu⟩ := bind_eq_ok.mp hu
  exact (insertLogRow_held (receiptRow_hash hrow) hu).kept hv

theorem insertAttestation_ensures : Ensures (fun _ => RowsKept)
    (fun _ hash db => attestationCommitmentHash P.noble attestation = .ok hash ∧
      Held db .attestation hash) n
    (P.insertAttestation attestation relayId epoch) db := by
  refine lift_ensures fun hash hhash _ => Ensures.after fun _ _ _ => lift_ensures fun _ _ _ =>
    Ensures.bind (fun _ => RowsKept.refl) (execute_ensures fun t _ u hu v hv => ?_)
  obtain ⟨row, hrow, hu⟩ := bind_eq_ok.mp hu
  exact ensures_ok.mpr fun w hw => ⟨hhash, ((insertLogRow_held (attestationRow_hash hrow) hu).kept hv).kept hw⟩

theorem insertRevocation_ensures : Ensures (fun _ => RowsKept)
    (fun _ hash db => revocationCommitmentHash P.noble revocation = .ok hash ∧
      Held db .revocation hash) n
    (P.insertRevocation revocation relayId epochMs) db := by
  refine lift_ensures fun hash hhash _ => Ensures.after fun m _ _ => lift_ensures fun _ _ _ =>
    Ensures.bind (fun _ => RowsKept.refl) (execute_ensures fun t _ u hu v hv => ?_)
  obtain ⟨row, hrow, hu⟩ := bind_eq_ok.mp hu
  have hheld := (insertLogRow_held (revocationRow_hash hrow) hu).kept hv
  have hmarked : Ensures (fun _ => RowsKept) (fun _ _ db => Held db .revocation hash) (m + 1)
      (execute (P.markRevoked revocation)) v :=
    (execute_changes RowsKept.refl fun _ _ => markRevoked_kept).ensures hheld (fun _ _ hr h => h.kept hr)
      fun _ _ _ _ hr h => h.kept hr
  refine Ensures.bind (fun _ => RowsKept.refl) (hmarked.mono fun m _ t _ ht => ?_)
  exact ensures_ok.mpr fun w hw => ⟨hhash, ht.kept hw⟩

/-- The document of a topic is in its log. -/
def LogNode.Stored (N : LogNode) (topic : QueueTopic) (text : JsString) (db : Database) : Prop :=
  ∃ hash, N.documentHash topic text = .ok hash ∧ Held db topic.kind hash

theorem LogNode.Stored.kept {N : LogNode} (h : N.Stored topic text db) (hr : RowsKept db db') :
    N.Stored topic text db' := by
  obtain ⟨hash, hhash, hheld⟩ := h
  exact ⟨hash, hhash, hheld.kept hr⟩

/-- An insert of a document that succeeds stores it. -/
theorem insertDocument_ensures (N : LogNode) (topic : QueueTopic) (values : MessageValues)
    (text : JsString) (n : Nat) (db : Database) :
    Ensures (fun _ => RowsKept) (fun _ _ db => N.Stored topic text db) n
      (N.insertDocument topic values text) db := by
  have hstored {α : Type} {document : α} {hash : Hex32} {parsed : Js α} {hashOf : α → Js Hex32}
      (hp : parsed = .ok document) (hh : hashOf document = .ok hash) :
      (do hashOf (← parsed)) = .ok hash := by
    rw [hp]
    exact hh
  cases topic with
  | commitmentsAccepted =>
    refine lift_ensures fun event hevent t => Ensures.bind (fun _ => RowsKept.refl)
      (insertEvent_ensures.mono fun m hash u _ hu => ensures_ok.mpr fun v hv => ?_)
    exact ⟨hash, hstored hevent hu.1, hu.2.kept hv⟩
  | receiptsAccepted =>
    refine lift_ensures fun receipt hreceipt t => lift_ensures fun hash hhash u => ?_
    exact insertReceipt_ensures.mono fun m _ v _ hv => ⟨hash, hstored hreceipt hhash, hv⟩
  | attestationsAccepted =>
    refine lift_ensures fun attestation hattestation t => Ensures.bind (fun _ => RowsKept.refl)
      (insertAttestation_ensures.mono fun m hash u _ hu => ensures_ok.mpr fun v hv => ?_)
    exact ⟨hash, hstored hattestation hu.1, hu.2.kept hv⟩
  | revocationsAccepted =>
    refine lift_ensures fun revocation hrevocation t => Ensures.bind (fun _ => RowsKept.refl)
      (insertRevocation_ensures.mono fun m hash u _ hu => ensures_ok.mpr fun v hv => ?_)
    exact ⟨hash, hstored hrevocation hu.1, hu.2.kept hv⟩

end Rows

section Consumption

namespace ConsumerState

theorem setLastStreamId_self (s : ConsumerState) (topic : QueueTopic) (id : StreamId) :
    (s.setLastStreamId topic id).lastStreamIds topic = some id := Function.update_self _ _ _

theorem setLastStreamId_of_ne (s : ConsumerState) (id : StreamId) (h : other ≠ topic) :
    (s.setLastStreamId topic id).lastStreamIds other = s.lastStreamIds other :=
  Function.update_of_ne h _ _

theorem deadLetter_self (s : ConsumerState) (topic : QueueTopic) (letter : DeadLetter) :
    (s.deadLetter topic letter).deadLetters topic = s.deadLetters topic ++ [letter] :=
  Function.update_self _ _ _

theorem deadLetter_subset (s : ConsumerState) (topic : QueueTopic) (letter : DeadLetter)
    (other : QueueTopic) : s.deadLetters other ⊆ (s.deadLetter topic letter).deadLetters other := by
  by_cases ho : other = topic
  · subst ho
    rw [deadLetter_self]
    exact List.subset_append_left _ _
  · have hother : (s.deadLetter topic letter).deadLetters other = s.deadLetters other :=
      Function.update_of_ne ho _ _
    rw [hother]
    exact List.Subset.refl _

end ConsumerState

variable {N : LogNode} {w : ConsumerRun}

/-- The call is at the message: it has moved the cursor and not stored it yet. -/
def ConsumeCall.InHand (call : ConsumeCall) (topic : QueueTopic) (message : QueueMessage) : Prop :=
  match call.phase with
  | .inserting topic' message' _ _ _ => topic' = topic ∧ message' = message
  | .deadLettering topic' message' _ _ _ => topic' = topic ∧ message' = message
  | _ => False

namespace ConsumerRun

def Stored (N : LogNode) (w : ConsumerRun) (topic : QueueTopic) (message : QueueMessage) : Prop :=
  ∃ text, document topic message = some text ∧ N.Stored topic text w.db

def DeadLettered (w : ConsumerRun) (topic : QueueTopic) (message : QueueMessage) : Prop :=
  ∃ letter ∈ w.deadLetters topic, letter.source_id = message.id

def InHand (w : ConsumerRun) (topic : QueueTopic) (message : QueueMessage) : Prop :=
  ∃ i call, w.calls i = some call ∧ call.InHand topic message

/-- What may have become of a message that the cursor has passed. -/
def Kept (N : LogNode) (w : ConsumerRun) (topic : QueueTopic) (message : QueueMessage) : Prop :=
  w.Stored N topic message ∨ w.DeadLettered topic message ∨ w.InHand topic message

/-- What a call relies on where it stands. -/
def CallInv (N : LogNode) (w : ConsumerRun) (call : ConsumeCall) : Prop :=
  let Following (topic : QueueTopic) (messages : List QueueMessage) : Prop :=
    ∃ lastId, (w.streams topic).Passed (w.Kept N topic) lastId ∧
      (w.streams topic).Next lastId messages
  match call.phase with
  | .reading topic lastId _ => (w.streams topic).Passed (w.Kept N topic) lastId
  | .handling topic messages _ => Following topic messages
  | .inserting topic message program messages _ =>
    Following topic (message :: messages) ∧ Changes RowsKept program ∧
      ∃ text, document topic message = some text ∧
        ∃ n, Ensures (fun _ => RowsKept) (fun _ _ db => N.Stored topic text db) n program w.db
  | .deadLettering topic message _ messages _ => Following topic (message :: messages)
  | _ => True

structure Inv (N : LogNode) (w : ConsumerRun) : Prop where
  cursor : ∀ topic, (w.streams topic).Passed (w.Kept N topic) (w.lastStreamIds topic)
  calls : ∀ i call, w.calls i = some call → w.CallInv N call

/-- The node has just started. -/
structure Fresh (w : ConsumerRun) : Prop where
  cursor : ∀ topic, w.lastStreamIds topic = none
  calls : ∀ i, w.calls i = none

theorem Fresh.inv (h : w.Fresh) : w.Inv N where
  cursor topic := by
    rw [h.cursor]
    exact EntryStream.Passed.none _ _
  calls i call hc := by
    rw [h.calls] at hc
    cases hc

/-- A step meets the condition: the message that is taken carries a document of the topic, and the
dead letter is written. -/
def meets (w : ConsumerRun) : ConsumerAction → Bool
  | .advance i failure =>
    match w.calls i with
    | some ⟨_, _, .handling topic (message :: _) _⟩ => (document topic message).isSome
    | some ⟨_, _, .deadLettering _ _ _ _ _⟩ => failure.isNone
    | _ => true
  | _ => true

/-- What the invariant needs of a later state. -/
structure Later (N : LogNode) (w w' : ConsumerRun) : Prop where
  rows : RowsKept w.db w'.db
  passed : ∀ topic P lastId, (w.streams topic).Passed P lastId → (w'.streams topic).Passed P lastId
  next : ∀ topic lastId messages,
    (w.streams topic).Next lastId messages → (w'.streams topic).Next lastId messages
  kept : ∀ topic message, w.Kept N topic message → w'.Kept N topic message

variable {w' : ConsumerRun} {call : ConsumeCall} {s : ConsumerState}

theorem Later.moves (hl : Later N w w')
    (h : (w.streams topic).Passed (w.Kept N topic) lastId) :
    (w'.streams topic).Passed (w'.Kept N topic) lastId :=
  (hl.passed _ _ _ h).mono (hl.kept topic)

theorem CallInv.later (h : w.CallInv N call) (hl : Later N w w') : w'.CallInv N call := by
  unfold CallInv at h ⊢
  cases hp : call.phase with
  | topics topics => trivial
  | reading topic lastId topics =>
    rw [hp] at h
    exact hl.moves h
  | handling topic messages topics =>
    rw [hp] at h
    obtain ⟨lastId, hpassed, hnext⟩ := h
    exact ⟨lastId, hl.moves hpassed, hl.next _ _ _ hnext⟩
  | inserting topic message program messages topics =>
    rw [hp] at h
    obtain ⟨⟨lastId, hpassed, hnext⟩, hchanges, text, htext, n, hensures⟩ := h
    have htrans : ∀ (_ : Nat) a b c, RowsKept a b → RowsKept b c → RowsKept a c :=
      fun _ _ _ _ hab hbc => hab.trans hbc
    have hlater := hensures.disturbed htrans hl.rows
    exact ⟨⟨lastId, hl.moves hpassed, hl.next _ _ _ hnext⟩, hchanges, text, htext, n, hlater⟩
  | deadLettering topic message error messages topics =>
    rw [hp] at h
    obtain ⟨lastId, hpassed, hnext⟩ := h
    exact ⟨lastId, hl.moves hpassed, hl.next _ _ _ hnext⟩
  | returned => trivial
  | rejected error => trivial

/-- What is not in anybody's hand stays where it is. -/
theorem Kept.later (h : w.Kept N topic message) (hr : RowsKept w.db w'.db)
    (hd : ∀ topic, w.deadLetters topic ⊆ w'.deadLetters topic)
    (hh : w.InHand topic message → w'.Kept N topic message) : w'.Kept N topic message := by
  rcases h with ⟨text, htext, hstored⟩ | ⟨letter, hletter, hid⟩ | h
  · exact .inl ⟨text, htext, hstored.kept hr⟩
  · exact .inr (.inl ⟨letter, hd topic hletter, hid⟩)
  · exact hh h

theorem publish_inv (h : w.Inv N) (topic : QueueTopic) (message : QueueMessage) :
    (w.step N (.publish topic message)).Inv N := by
  have hl : Later N w (w.step N (.publish topic message)) := by
    refine ⟨RowsKept.refl _, ?_, ?_, fun _ _ hk => hk⟩
    · intro other P lastId hp
      by_cases ho : other = topic
      · subst ho
        simpa [step] using hp.add message
      · simpa [step, Function.update_of_ne ho] using hp
    · intro other lastId messages hn
      by_cases ho : other = topic
      · subst ho
        simpa [step] using hn.add message
      · simpa [step, Function.update_of_ne ho] using hn
  exact ⟨fun other => hl.moves (h.cursor other), fun i call hc => (h.calls i call hc).later hl⟩

theorem database_inv (h : w.Inv N) (other : OtherStatement) :
    (w.step N (.database other)).Inv N := by
  have hl : Later N w (w.step N (.database other)) :=
    ⟨other.kept w.db, fun _ _ _ hp => hp, fun _ _ _ hn => hn, fun topic message hk =>
      hk.later (other.kept w.db) (fun _ _ hm => hm) fun hh => .inr (.inr hh)⟩
  exact ⟨fun topic => hl.moves (h.cursor topic), fun i call hc => (h.calls i call hc).later hl⟩

theorem withCall_self (w : ConsumerRun) (s : ConsumerState) (i : Nat) (call : ConsumeCall) :
    (w.withCall s i call).calls i = some call := Function.update_self _ _ _

theorem withCall_of_ne (w : ConsumerRun) (s : ConsumerState) (call : ConsumeCall) (h : j ≠ i) :
    (w.withCall s i call).calls j = w.calls j := Function.update_of_ne h _ _

/-- The calls other than one hold what they held. -/
theorem InHand.withCall (h : w.InHand topic message)
    (hi : ∀ call, w.calls i = some call → ¬call.InHand topic message) :
    (w.withCall s i call).InHand topic message := by
  obtain ⟨j, other, hj, hother⟩ := h
  have hne : j ≠ i := by
    rintro rfl
    exact hi other hj hother
  exact ⟨j, other, by rw [withCall_of_ne w s call hne, hj], hother⟩

/-- A call goes on, and the rest of the invariant with it. -/
theorem Inv.withCall (h : w.Inv N) (hl : Later N w (w.withCall s i call))
    (hcursor : ∀ topic, s.lastStreamIds topic = w.lastStreamIds topic ∨
      (s.streams topic).Passed ((w.withCall s i call).Kept N topic) (s.lastStreamIds topic))
    (hcall : (w.withCall s i call).CallInv N call) : (w.withCall s i call).Inv N where
  cursor topic := by
    rcases hcursor topic with he | hpassed
    · have hmoved := hl.moves (h.cursor topic)
      rw [← he] at hmoved
      exact hmoved
    · exact hpassed
  calls j other hj := by
    by_cases hji : j = i
    · subst hji
      rw [withCall_self, Option.some.injEq] at hj
      subst hj
      exact hcall
    · rw [withCall_of_ne w s call hji] at hj
      exact (h.calls j other hj).later hl

/-- What a call changes of the state that it shares is within what the invariant allows. -/
theorem Later.withCall (hi : ∀ before, w.calls i = some before → ∀ topic message,
      before.InHand topic message → (w.withCall s i call).Kept N topic message)
    (hr : RowsKept w.db s.db) (hs : s.streams = w.streams)
    (hd : ∀ topic, w.deadLetters topic ⊆ s.deadLetters topic) :
    Later N w (w.withCall s i call) := by
  have hstreams : (w.withCall s i call).streams = w.streams := hs
  refine ⟨hr, ?_, ?_, ?_⟩
  · intro topic P lastId hp
    rw [hstreams]
    exact hp
  · intro topic lastId messages hn
    rw [hstreams]
    exact hn
  · intro topic message hk
    refine hk.later hr hd fun hh => ?_
    by_cases hown : ∃ before, w.calls i = some before ∧ before.InHand topic message
    · obtain ⟨before, hb, hm⟩ := hown
      exact hi before hb topic message hm
    · refine .inr (.inr (hh.withCall fun before hb hm => hown ⟨before, hb, hm⟩))

theorem consume_inv (h : w.Inv N) (i limit : Nat) : (w.step N (.consume i limit)).Inv N := by
  rw [step]
  cases hi : w.calls i with
  | some call => exact h
  | none =>
    refine h.withCall (Later.withCall ?_ (RowsKept.refl _) rfl fun _ _ hm => hm) (fun _ => .inl rfl)
      trivial
    intro before hb
    rw [hi] at hb
    cases hb

/-- A call that is at no message goes on without touching what it shares. -/
theorem Later.idle (hi : w.calls i = some before)
    (hq : ∀ topic message, ¬before.InHand topic message) (hr : RowsKept w.db s.db)
    (hs : s.streams = w.streams) (hd : s.deadLetters = w.deadLetters) :
    Later N w (w.withCall s i call) := by
  refine Later.withCall ?_ hr hs fun topic => hd ▸ List.Subset.refl _
  intro other ho topic message hin
  rw [hi, Option.some.injEq] at ho
  subst ho
  exact absurd hin (hq topic message)

/-- A call that is at a message goes on with what has become of the message. -/
theorem Later.holding (hi : w.calls i = some before)
    (hb : ∀ topic' message', before.InHand topic' message' → topic' = topic ∧ message' = message)
    (hk : (w.withCall s i call).Kept N topic message) (hr : RowsKept w.db s.db)
    (hs : s.streams = w.streams) (hd : ∀ topic, w.deadLetters topic ⊆ s.deadLetters topic) :
    Later N w (w.withCall s i call) := by
  refine Later.withCall ?_ hr hs hd
  intro other ho topic' message' hin
  rw [hi, Option.some.injEq] at ho
  subst ho
  obtain ⟨rfl, rfl⟩ := hb topic' message' hin
  exact hk

/-- The message that a call is at. -/
theorem withCall_kept (hin : call.InHand topic message) :
    (w.withCall s i call).Kept N topic message :=
  .inr (.inr ⟨i, call, withCall_self w s i call, hin⟩)

section Advance

variable {limit : Nat} {counts : List (QueueTopic × Nat)} {topic : QueueTopic}
  {message : QueueMessage} {messages : List QueueMessage} {topics : List QueueTopic}

/-- The cursor moves on to the message, which the call then holds. -/
theorem take_inv (h : w.Inv N)
    (hi : w.calls i = some ⟨limit, counts, .handling topic (message :: messages) topics⟩)
    (htext : document topic message = some text) :
    (w.withCall (w.setLastStreamId topic message.id) i ⟨limit, counts,
      .inserting topic message (N.insertDocument topic message.values text) messages topics⟩).Inv
        N := by
  obtain ⟨lastId, hpassed, hnext⟩ := h.calls i _ hi
  have hl : Later N w (w.withCall (w.setLastStreamId topic message.id) i ⟨limit, counts,
      .inserting topic message (N.insertDocument topic message.values text) messages topics⟩) :=
    Later.idle hi (fun _ _ => id) (RowsKept.refl _) rfl rfl
  refine h.withCall hl (fun other => ?_) ⟨⟨lastId, hl.moves hpassed, hnext⟩,
    insertDocument_changes N topic message.values text, text, htext, 0,
    insertDocument_ensures N topic message.values text 0 w.db⟩
  by_cases ho : other = topic
  · subst ho
    rw [w.setLastStreamId_self]
    exact .inr ((hl.moves hpassed).advance hnext (withCall_kept ⟨rfl, rfl⟩))
  · exact .inl (w.setLastStreamId_of_ne _ ho)

/-- What fails goes on to the dead letter. -/
theorem fail_inv (h : w.Inv N)
    (hi : w.calls i = some ⟨limit, counts, .inserting topic message program messages topics⟩)
    (error : String) :
    (w.withCall w.toConsumerState i
      ⟨limit, counts, .deadLettering topic message error messages topics⟩).Inv N := by
  obtain ⟨⟨lastId, hpassed, hnext⟩, -⟩ := h.calls i _ hi
  have hl : Later N w (w.withCall w.toConsumerState i
      ⟨limit, counts, .deadLettering topic message error messages topics⟩) :=
    Later.holding hi (fun _ _ hin => ⟨hin.1.symm, hin.2.symm⟩) (withCall_kept ⟨rfl, rfl⟩)
      (RowsKept.refl _) rfl fun _ => List.Subset.refl _
  exact h.withCall hl (fun _ => .inl rfl) ⟨lastId, hl.moves hpassed, hnext⟩

/-- A statement of the insert is carried out. -/
theorem statement_inv {effect : Database → Database} {next : Database → Sql Unit} (h : w.Inv N)
    (hi : w.calls i =
      some ⟨limit, counts, .inserting topic message (.statement effect next) messages topics⟩) :
    (w.withCall { w.toConsumerState with db := effect w.db } i
      ⟨limit, counts, .inserting topic message (next w.db) messages topics⟩).Inv N := by
  obtain ⟨⟨lastId, hpassed, hnext⟩, hchanges, text, htext, n, hensures⟩ := h.calls i _ hi
  obtain ⟨hrows, hchanges⟩ := changes_statement.mp hchanges w.db
  have hl : Later N w (w.withCall { w.toConsumerState with db := effect w.db } i
      ⟨limit, counts, .inserting topic message (next w.db) messages topics⟩) :=
    Later.holding hi (fun _ _ hin => ⟨hin.1.symm, hin.2.symm⟩) (withCall_kept ⟨rfl, rfl⟩) hrows rfl
      fun _ => List.Subset.refl _
  exact h.withCall hl (fun _ => .inl rfl) ⟨⟨lastId, hl.moves hpassed, hnext⟩, hchanges, text, htext,
    n + 1, hensures.stepped fun _ => RowsKept.refl⟩

/-- An insert that has returned has stored the message. -/
theorem stored_inv (h : w.Inv N)
    (hi : w.calls i = some ⟨limit, counts, .inserting topic message (.done (.ok a)) messages topics⟩) :
    (w.withCall w.toConsumerState i ⟨limit, counts, .handling topic messages topics⟩).Inv N := by
  obtain ⟨⟨lastId, hpassed, hnext⟩, -, text, htext, n, hensures⟩ := h.calls i _ hi
  have hstored : (w.withCall w.toConsumerState i
      ⟨limit, counts, .handling topic messages topics⟩).Kept N topic message :=
    .inl ⟨text, htext, ensures_ok.mp hensures w.db (RowsKept.refl _)⟩
  have hl : Later N w (w.withCall w.toConsumerState i
      ⟨limit, counts, .handling topic messages topics⟩) :=
    Later.holding hi (fun _ _ hin => ⟨hin.1.symm, hin.2.symm⟩) hstored (RowsKept.refl _) rfl
      fun _ => List.Subset.refl _
  exact h.withCall hl (fun _ => .inl rfl)
    ⟨some message.id, (hl.moves hpassed).advance hnext hstored, hnext.tail⟩

/-- The dead letter is written. -/
theorem deadLetter_inv {letter : DeadLetter} (h : w.Inv N)
    (hi : w.calls i = some ⟨limit, counts, .deadLettering topic message error messages topics⟩)
    (hid : letter.source_id = message.id) :
    (w.withCall (w.deadLetter topic letter) i ⟨limit, counts, .handling topic messages topics⟩).Inv
      N := by
  obtain ⟨lastId, hpassed, hnext⟩ := h.calls i _ hi
  have hletter : letter ∈ (w.deadLetter topic letter).deadLetters topic := by
    rw [w.deadLetter_self]
    exact List.mem_append_right _ (List.mem_singleton_self letter)
  have hdead : (w.withCall (w.deadLetter topic letter) i
      ⟨limit, counts, .handling topic messages topics⟩).Kept N topic message :=
    .inr (.inl ⟨letter, hletter, hid⟩)
  have hl := Later.holding hi (fun _ _ hin => ⟨hin.1.symm, hin.2.symm⟩) hdead (RowsKept.refl _) rfl
    (w.deadLetter_subset topic letter)
  exact h.withCall hl (fun _ => .inl rfl)
    ⟨some message.id, (hl.moves hpassed).advance hnext hdead, hnext.tail⟩

end Advance

theorem advance_inv (h : w.Inv N) (i : Nat) (failure : Option String)
    (hm : w.meets (.advance i failure) = true) : (w.step N (.advance i failure)).Inv N := by
  rw [step]
  cases hi : w.calls i with
  | none => exact h
  | some before =>
    rw [meets, hi] at hm
    obtain ⟨limit, counts, phase⟩ := before
    -- a call that is at no message and leaves everything as it is
    have hidle (call : ConsumeCall) (hq : ∀ topic message,
        ¬ConsumeCall.InHand ⟨limit, counts, phase⟩ topic message) :
        Later N w (w.withCall w.toConsumerState i call) :=
      Later.idle hi hq (RowsKept.refl _) rfl rfl
    cases phase with
    | topics topics =>
      cases topics with
      | nil => exact h.withCall (hidle _ fun _ _ => id) (fun _ => .inl rfl) trivial
      | cons topic topics =>
        have hl := hidle ⟨limit, counts, .reading topic (w.lastStreamIds topic) topics⟩ fun _ _ => id
        exact h.withCall hl (fun _ => .inl rfl) (hl.moves (h.cursor topic))
    | reading topic lastId topics =>
      cases failure with
      | some error => exact h.withCall (hidle _ fun _ _ => id) (fun _ => .inl rfl) trivial
      | none =>
        let messages := (w.streams topic).read lastId limit
        have hl := hidle ⟨limit, counts ++ [(topic, messages.length)],
          .handling topic messages topics⟩ fun _ _ => id
        exact h.withCall hl (fun _ => .inl rfl)
          ⟨lastId, hl.moves (h.calls i _ hi), EntryStream.read_next _ _ _⟩
    | handling topic messages topics =>
      cases messages with
      | nil => exact h.withCall (hidle _ fun _ _ => id) (fun _ => .inl rfl) trivial
      | cons message messages =>
        obtain ⟨text, htext⟩ := Option.isSome_iff_exists.mp hm
        have hadvance := take_inv h hi htext
        simp only [ConsumeCall.advance, htext]
        exact hadvance
    | inserting topic message program messages topics =>
      cases program with
      | done result =>
        cases result with
        | error error => exact fail_inv h hi error
        | ok a => exact stored_inv h hi
      | statement effect next =>
        cases failure with
        | some error => exact fail_inv h hi error
        | none => exact statement_inv h hi
    | deadLettering topic message error messages topics =>
      cases failure with
      | some failed => cases hm
      | none => exact deadLetter_inv h hi rfl
    | returned => exact h.withCall (hidle _ fun _ _ => id) (fun _ => .inl rfl) trivial
    | rejected error => exact h.withCall (hidle _ fun _ _ => id) (fun _ => .inl rfl) trivial

theorem step_inv (h : w.Inv N) (action : ConsumerAction) (hm : w.meets action = true) :
    (w.step N action).Inv N := by
  cases action with
  | publish topic message => exact publish_inv h topic message
  | database other => exact database_inv h other
  | consume i limit => exact consume_inv h i limit
  | advance i failure => exact advance_inv h i failure hm

/-- Whenever no call is at a message, every message of a topic is stored, in the dead letters or
beyond the cursor, if every message that was taken carried its document and every dead letter was
written. -/
theorem consumed_or_beyond (N : LogNode) (w : ConsumerRun) (hw : w.Fresh)
    (actions : List ConsumerAction)
    (hg : Frames.Guarded (step N) (fun w action => w.meets action = true) w actions) :
    let w' := Frames.run (step N) w actions
    (∀ topic message, ¬w'.InHand topic message) →
      ∀ topic, ∀ message ∈ (w'.streams topic).entries,
        w'.Stored N topic message ∨ w'.DeadLettered topic message ∨
          Beyond (w'.lastStreamIds topic) message.id := by
  intro w' hidle topic message hmessage
  have hinv : w'.Inv N :=
    Frames.run_guarded (fun w action hm hi => step_inv hi action hm) hg hw.inv
  by_cases hb : Beyond (w'.lastStreamIds topic) message.id
  · exact .inr (.inr hb)
  · rcases (hinv.cursor topic).upto message hmessage hb with hstored | hdead | hhand
    · exact .inl hstored
    · exact .inr (.inl hdead)
    · exact absurd hhand (hidle topic message)

/-- The calls do not take steps for one another. -/
theorem run_calls (N : LogNode) (w : ConsumerRun) {actions : List ConsumerAction} {j : Nat}
    (h : ∀ action ∈ actions, (∀ limit, action ≠ .consume j limit) ∧
      ∀ failure, action ≠ .advance j failure) :
    (Frames.run (step N) w actions).calls j = w.calls j := by
  refine List.foldlRecOn (motive := fun w' => w'.calls j = w.calls j) actions (step N) rfl ?_
  intro w' hw action ha
  obtain ⟨hconsume, hadvance⟩ := h action ha
  rw [← hw]
  cases action with
  | publish topic message => rfl
  | database other => rfl
  | consume i limit =>
    have hne : j ≠ i := by
      rintro rfl
      exact hconsume limit rfl
    rw [step]
    split
    · exact withCall_of_ne _ _ _ hne
    · rfl
  | advance i failure =>
    have hne : j ≠ i := by
      rintro rfl
      exact hadvance failure rfl
    rw [step]
    split
    · rfl
    · exact withCall_of_ne _ _ _ hne

end ConsumerRun

end Consumption

section Sample

def eventText : JsString := (canonicalize (.obj sampleEnvelope.toFields)).toOption.getD []

/-- What the relay publishes of an event. -/
def queuedMessage : QueueMessage where
  id := toLex (1779667200500, 0)
  values name :=
    if name = js "event" then some eventText
    else if name = js "relay_id" then some (js "did:tsl:relay:dev")
    else if name = js "epoch_start_ms" then some (js "1779667200000")
    else none

def consumerNode : LogNode where
  repo := samplePostgres (recorded signedDigests [] fun _ => List.replicate 32 255)
  epochMs := Nat.toPNat' 300000
  number text :=
    if text.all isDigitUnit then .ofNat (decimalValue text) else .nan
  parseEvent text := if text = eventText then .ok sampleEnvelope else .error "SyntaxError"
  parseReceipt _ := .error "SyntaxError"
  parseAttestation _ := .error "SyntaxError"
  parseRevocation _ := .error "SyntaxError"

/-- One event is queued, and nothing has been consumed. -/
def queuedRun : ConsumerRun where
  streams topic :=
    if topic = .commitmentsAccepted then ⟨[queuedMessage], List.pairwise_singleton _ _⟩
    else ⟨[], .nil⟩
  deadLetters _ := []
  db := emptyDatabase
  lastStreamIds _ := none
  calls _ := none

/-- A call whose insert loses the database and whose dead letter comes to the given end. -/
def failedInsert (letter : Option String) : List ConsumerAction :=
  [.consume 0 100, .advance 0 none, .advance 0 none, .advance 0 none,
    .advance 0 (some "Connection terminated unexpectedly"), .advance 0 letter]

def afterFailure (letter : Option String) : ConsumerRun :=
  Frames.run (ConsumerRun.step consumerNode) queuedRun (failedInsert letter)

theorem queuedRun_fresh : queuedRun.Fresh := ⟨fun _ => rfl, fun _ => rfl⟩

theorem afterFailure_rejected :
    let w := afterFailure (some "Socket closed unexpectedly")
    ((w.calls 0).map fun call => match call.phase with
        | .rejected error => error
        | _ => "") = some "Socket closed unexpectedly" ∧
      (w.deadLetters .commitmentsAccepted).length = 0 ∧ (w.db.logs .event).length = 0 ∧
      w.lastStreamIds .commitmentsAccepted = some queuedMessage.id ∧
      (w.streams .commitmentsAccepted).entries.map Entry.id = [queuedMessage.id] := by
  decide +kernel

/-- Where the dead letter fails as well, the message is nowhere, and the cursor has passed it. -/
theorem message_lost :
    queuedRun.Fresh ∧
    let w := afterFailure (some "Socket closed unexpectedly")
    (∃ call, w.calls 0 = some call ∧ call.phase = .rejected "Socket closed unexpectedly") ∧
    ∃ message ∈ (w.streams .commitmentsAccepted).entries,
      ¬w.Stored consumerNode .commitmentsAccepted message ∧
        ¬w.DeadLettered .commitmentsAccepted message ∧
        ¬Beyond (w.lastStreamIds .commitmentsAccepted) message.id := by
  have hfacts := afterFailure_rejected
  refine ⟨queuedRun_fresh, ?_⟩
  dsimp only at hfacts ⊢
  generalize afterFailure (some "Socket closed unexpectedly") = w at hfacts ⊢
  obtain ⟨hcall, hletters, hrows, hcursor, hentries⟩ := hfacts
  refine ⟨?_, ?_⟩
  · obtain ⟨call, hc, hphase⟩ := Option.map_eq_some_iff.mp hcall
    refine ⟨call, hc, ?_⟩
    split at hphase
    · next error he => rw [he, hphase]
    · exact absurd hphase (by decide)
  · obtain ⟨message, hmessage, hid⟩ := List.mem_map.mp (hentries ▸ List.mem_singleton_self _)
    refine ⟨message, hmessage, ?_, ?_, ?_⟩
    · rintro ⟨text, -, hash, -, row, hrow, -⟩
      have hnone : row ∈ ([] : List (LogRow .event)) := List.length_eq_zero_iff.mp hrows ▸ hrow
      cases hnone
    · rintro ⟨letter, hletter, -⟩
      rw [List.length_eq_zero_iff.mp hletters] at hletter
      cases hletter
    · intro hb
      rw [hid] at hb
      exact lt_irrefl _ (hb _ hcursor)

/-- Whether a guarded run is one can be computed. -/
instance guardedDecidable (step : σ → α → σ) (guard : σ → α → Bool) :
    (s : σ) → (actions : List α) →
      Decidable (Frames.Guarded step (fun s action => guard s action = true) s actions)
  | _, [] => .isTrue True.intro
  | s, action :: rest =>
    @instDecidableAnd _ _ inferInstance (guardedDecidable step guard (step s action) rest)

theorem afterFailure_written :
    Frames.Guarded (ConsumerRun.step consumerNode) (fun w action => w.meets action = true) queuedRun
        (failedInsert none) ∧
      ((afterFailure none).calls 0).map (fun call => match call.phase with
        | .handling _ messages _ => messages.length
        | _ => 1) = some 0 ∧
      ((afterFailure none).streams .commitmentsAccepted).entries.map Entry.id =
        [queuedMessage.id] := by
  decide +kernel

/-- The one call has put its message down. -/
theorem afterFailure_idle (topic : QueueTopic) (message : QueueMessage) :
    ¬(afterFailure none).InHand topic message := by
  have hcall := afterFailure_written.2.1
  have hothers (i : Nat) (hi : i ≠ 0) : (afterFailure none).calls i = none := by
    rw [afterFailure, ConsumerRun.run_calls]
    · rfl
    · simp [failedInsert, Ne.symm hi]
  generalize afterFailure none = w at hcall hothers
  rintro ⟨i, call, hi, hin⟩
  by_cases h0 : i = 0
  · subst h0
    rw [hi, Option.map_some, Option.some.injEq] at hcall
    obtain ⟨limit, counts, phase⟩ := call
    cases phase with
    | inserting => cases hcall
    | deadLettering => cases hcall
    | _ => exact hin
  · rw [hothers i h0] at hi
    cases hi

/-- With the dead letter written, the message is accounted for. -/
theorem consumed_or_beyond_sample :
    ∃ message ∈ ((afterFailure none).streams .commitmentsAccepted).entries,
      (afterFailure none).Stored consumerNode .commitmentsAccepted message ∨
        (afterFailure none).DeadLettered .commitmentsAccepted message ∨
        Beyond ((afterFailure none).lastStreamIds .commitmentsAccepted) message.id := by
  have hentries := afterFailure_written.2.2
  have hkept := ConsumerRun.consumed_or_beyond consumerNode queuedRun queuedRun_fresh
    (failedInsert none) afterFailure_written.1 afterFailure_idle .commitmentsAccepted
  rw [← afterFailure] at hkept
  generalize afterFailure none = w at hentries hkept ⊢
  obtain ⟨message, hmessage, -⟩ := List.mem_map.mp (hentries ▸ List.mem_singleton_self _)
  exact ⟨message, hmessage, hkept message hmessage⟩

end Sample

end Continuity

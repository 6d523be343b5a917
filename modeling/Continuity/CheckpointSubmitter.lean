import Continuity.CheckpointReadback
import Continuity.CheckpointTable
import Continuity.Cooperation
import Continuity.RegistryChain

namespace Continuity
open CheckpointRegistry LocalEvmSettlementBackend Statements Program
set_option autoImplicit true

/-- What the submitter, the callers of the repository and the chain share. -/
structure SettlementWorld where
  db : Database
  registry : CheckpointRegistry
  /-- The block that takes up the next transaction. -/
  block : Inclusion
  /-- What becomes of a message on the queue. -/
  publish : BatchCheckpointV1 → Js Unit

/-- The rows are in the order of their `created_at`. -/
def PostgresRepository.listPendingCheckpoints (P : PostgresRepository) (limit : JsNumber) :
    Sql (List BatchCheckpointV1) :=
  select fun db => do
    let limit ← sqlBigint P.host limit
    if limit < 0 then throw "LIMIT must not be negative"
    else
      let pending := db.checkpoints.filter fun row => row.settlement_status == js "pending"
      return (pending.take limit.toNat).map fun row =>
        { row.decode with
          settlement_tx := none
          checkpoint_identity_hash := some row.checkpoint_hash }

/-- Where the contract keeps the checkpoint of a segment. -/
def CheckpointBackend.slot (B : CheckpointBackend) (epochStartMs : JsNumber) (shard : JsString) :
    Js Bytes32 := do
  let text ← shardToBytes32 shard
  let epoch ← encodeUint 64 epochStartMs
  let word ← Abi.bytes32 text
  return epochShardKey B.evm (.ofNat epoch) word

structure CheckpointSubmitter where
  repo : PostgresRepository
  settlement : CheckpointBackend

inductive SettlementCall where
  | submitPending (limit : JsNumber)
  | insertCheckpoint (checkpoint : BatchCheckpointV1) (status : JsString)

/-- What others do: the rest of the database, the chain and the queue. -/
inductive OutsideAction where
  | database (db : Database)
  | transaction (tx : CheckpointTransaction)
  | block (block : Inclusion)
  | queue (publish : BatchCheckpointV1 → Js Unit)

namespace CheckpointSubmitter

variable (X : CheckpointSubmitter)

def onDatabase (p : Sql α) : Program SettlementWorld String α :=
  p.focus SettlementWorld.db fun db s => { s with db }

/-- The registry after a submission; a receipt without a hash loses the answer, not the
transaction. -/
def sent (s : SettlementWorld) (checkpoint : BatchCheckpointV1) : CheckpointRegistry :=
  match X.settlement.submitCheckpoint X.repo.noble s.registry
      { s.block with receiptHash := js "0x" } checkpoint with
  | .ok (_, _, registry) => registry
  | .error _ => s.registry

def submitCheckpoint (checkpoint : BatchCheckpointV1) :
    Program SettlementWorld String BatchCheckpointV1 :=
  .statement (fun s => { s with registry := X.sent s checkpoint }) fun s =>
    .done (Prod.fst <$>
      X.settlement.submitCheckpoint X.repo.noble s.registry s.block checkpoint)

/-- The loop over the pending checkpoints. -/
def settleAll : List BatchCheckpointV1 → Program SettlementWorld String (List BatchCheckpointV1)
  | [] => pure []
  | checkpoint :: rest => do
    let settledCheckpoint ← X.submitCheckpoint checkpoint
    onDatabase (X.repo.markCheckpointSettled settledCheckpoint)
    select fun s => s.publish settledCheckpoint
    let settled ← settleAll rest
    pure (settledCheckpoint :: settled)

def submitPending (limit : JsNumber) :
    Program SettlementWorld String (List BatchCheckpointV1) := do
  let pending ← onDatabase (X.repo.listPendingCheckpoints limit)
  X.settleAll pending

def call : SettlementCall → Program SettlementWorld String (List BatchCheckpointV1)
  | .submitPending limit => X.submitPending limit
  | .insertCheckpoint checkpoint status => do
    let _ ← onDatabase (X.repo.insertCheckpoint checkpoint status)
    pure []

def act (action : OutsideAction) (s : SettlementWorld) : SettlementWorld :=
  match action with
  | .database db => { s with db := { db with checkpoints := s.db.checkpoints } }
  | .transaction tx => { s with registry := s.registry.step X.settlement.evm tx }
  | .block block => { s with block }
  | .queue publish => { s with publish }

/-- The calls with their statements in any order, and with others in between. -/
def run (s : SettlementWorld) (calls : List SettlementCall) (turns : List (Turn OutsideAction)) :
    Pool SettlementWorld String (List BatchCheckpointV1) :=
  turns.foldl (Pool.step X.act) ⟨s, calls.map X.call⟩

/-- A call that says of itself that the checkpoint of a row is settled. -/
def Imported (calls : List SettlementCall) (row : CheckpointRow) : Prop :=
  ∃ checkpoint status, .insertCheckpoint checkpoint status ∈ calls ∧
    (status ≠ js "pending" ∨ truthy checkpoint.settlement_tx = true) ∧
    X.repo.segmentParameters checkpoint.epoch_start_ms checkpoint.shard =
      .ok (row.epoch_start_ms, row.shard)

/-- The chain answers for the segment of a row with the hash of its checkpoint. -/
def Recorded (s : SettlementWorld) (row : CheckpointRow) : Prop :=
  ∃ hash stored, checkpointHash X.repo.noble row.decode = .ok hash ∧
    X.settlement.readStoredCheckpoint s.registry (bigintNumber row.epoch_start_ms) row.shard =
      .ok stored ∧ (hash ≠ ZERO_HASH → stored.checkpointIdentityHash = hash)

/-- The row of a checkpoint is settled. -/
def Settled (checkpoint : BatchCheckpointV1) (s : SettlementWorld) : Prop :=
  ∃ row ∈ s.db.checkpoints, X.repo.segmentParameters checkpoint.epoch_start_ms checkpoint.shard =
      .ok (row.epoch_start_ms, row.shard) ∧
    checkpointHash X.repo.noble row.decode = checkpointHash X.repo.noble checkpoint ∧
    row.settlement_status = js "settled"

/-- The slot of a segment holds a hash. -/
def Holds (registry : CheckpointRegistry) (epochStartMs : JsNumber) (shard : JsString)
    (word : Bytes32) : Prop :=
  ∃ key, X.settlement.slot epochStartMs shard = .ok key ∧
    (word ≠ 0 → registry.checkpointHashByEpochShard key = word)

def Justified (calls : List SettlementCall) (registry : CheckpointRegistry) (row : CheckpointRow) :
    Prop :=
  X.Imported calls row ∨ ∃ word,
    checkpointHash X.repo.noble row.decode = .ok (wordText word) ∧
    X.Holds registry (bigintNumber row.epoch_start_ms) row.shard word

/-- Segments have one row, slots hold hashes of their own records, and nothing is settled without
a reason. -/
structure Consistent (calls : List SettlementCall) (s : SettlementWorld) : Prop where
  unique : ∀ row ∈ s.db.checkpoints, ∀ other ∈ s.db.checkpoints,
    other.epoch_start_ms = row.epoch_start_ms → other.shard = row.shard → other = row
  own : ∀ key, s.registry.checkpointHashByEpochShard key ≠ 0 →
    (s.registry.checkpointsByHash
      (s.registry.checkpointHashByEpochShard key)).checkpointIdentityHash =
        s.registry.checkpointHashByEpochShard key
  settled : ∀ row ∈ s.db.checkpoints, row.settlement_status = js "settled" →
    X.Justified calls s.registry row

/-- What every statement leaves of the table and the chain. -/
structure Proceeds (calls : List SettlementCall) (s t : SettlementWorld) : Prop where
  rows : ∀ row ∈ s.db.checkpoints, ∃ kept ∈ t.db.checkpoints,
    kept.epoch_start_ms = row.epoch_start_ms ∧ kept.shard = row.shard ∧
    checkpointHash X.repo.noble kept.decode = checkpointHash X.repo.noble row.decode ∧
    (row.settlement_status = js "settled" → kept.settlement_status = js "settled")
  slots : ∀ key, s.registry.checkpointHashByEpochShard key ≠ 0 →
    t.registry.checkpointHashByEpochShard key = s.registry.checkpointHashByEpochShard key
  consistent : X.Consistent calls s → X.Consistent calls t

section Steps

variable {X} {calls : List SettlementCall} {s t : SettlementWorld} {S S' : CheckpointRegistry}

theorem proceeds_composes (X : CheckpointSubmitter) (calls : List SettlementCall) :
    Composes (X.Proceeds calls) where
  refl s := ⟨fun row hr => ⟨row, hr, rfl, rfl, rfl, id⟩, fun _ _ => rfl, id⟩
  trans s t u h h' := by
    refine ⟨fun row hr => ?_, fun key hk => ?_, fun hs => h'.consistent (h.consistent hs)⟩
    · obtain ⟨kept, hm, he, hsh, hh, hs⟩ := h.rows row hr
      obtain ⟨last, hm', he', hsh', hh', hs'⟩ := h'.rows kept hm
      exact ⟨last, hm', he'.trans he, hsh'.trans hsh, hh'.trans hh, fun hr => hs' (hs hr)⟩
    · have hslot := h.slots key hk
      rw [← hslot]
      exact h'.slots key (hslot ▸ hk)

theorem Holds.later (h : X.Holds S epochStartMs shard word)
    (hs : ∀ key, S.checkpointHashByEpochShard key ≠ 0 →
      S'.checkpointHashByEpochShard key = S.checkpointHashByEpochShard key) :
    X.Holds S' epochStartMs shard word := by
  obtain ⟨key, hkey, hheld⟩ := h
  refine ⟨key, hkey, fun hw => ?_⟩
  rw [hs key (by rw [hheld hw]; exact hw), hheld hw]

theorem Justified.later (h : X.Justified calls S row)
    (hs : ∀ key, S.checkpointHashByEpochShard key ≠ 0 →
      S'.checkpointHashByEpochShard key = S.checkpointHashByEpochShard key) :
    X.Justified calls S' row := by
  rcases h with h | ⟨word, hh, h⟩
  · exact .inl h
  · exact .inr ⟨word, hh, h.later hs⟩

theorem Settled.later (h : X.Settled checkpoint s) (hp : X.Proceeds calls s t) :
    X.Settled checkpoint t := by
  obtain ⟨row, hr, hsegment, hhash, hsettled⟩ := h
  obtain ⟨kept, hm, he, hsh, hh, hs⟩ := hp.rows row hr
  refine ⟨kept, hm, ?_, hh.trans hhash, hs hsettled⟩
  rw [he, hsh]
  exact hsegment

/-- Actions that leave the checkpoints of the table and the chain. -/
theorem proceeds_same (hdb : t.db.checkpoints = s.db.checkpoints)
    (hs : SameRecords s.registry t.registry) : X.Proceeds calls s t := by
  refine ⟨fun row hr => ?_, fun key _ => by rw [hs.slots], fun hc => ⟨?_, ?_, ?_⟩⟩
  · rw [hdb]
    exact ⟨row, hr, rfl, rfl, rfl, id⟩
  · rw [hdb]
    exact hc.unique
  · rw [hs.slots, hs.records]
    exact hc.own
  · rw [hdb]
    exact fun row hr hst => (hc.settled row hr hst).later fun key _ => by rw [hs.slots]

/-- The contract records a checkpoint in a free slot. -/
theorem proceeds_record {F : CheckpointInput} (hdb : t.db = s.db)
    (hr : t.registry = s.registry.record E sender timestamp F)
    (hfree : s.registry.checkpointHashByEpochShard (F.slot E) = 0) : X.Proceeds calls s t := by
  have hslots : ∀ key, s.registry.checkpointHashByEpochShard key ≠ 0 →
      t.registry.checkpointHashByEpochShard key = s.registry.checkpointHashByEpochShard key := by
    intro key hk
    rw [hr, record_slot_other]
    rintro rfl
    exact hk hfree
  refine ⟨fun row hm => ?_, hslots, fun hc => ⟨?_, ?_, ?_⟩⟩
  · rw [hdb]
    exact ⟨row, hm, rfl, rfl, rfl, id⟩
  · rw [hdb]
    exact hc.unique
  · intro key hk
    -- the record under the hash of a slot is the new one or the old one
    have hown : t.registry.checkpointHashByEpochShard key = F.checkpointIdentityHash ∨
        t.registry.checkpointHashByEpochShard key =
          s.registry.checkpointHashByEpochShard key := by
      by_cases he : key = F.slot E
      · rw [hr, he, record_slot]
        exact .inl rfl
      · rw [hr, record_slot_other _ _ _ _ he]
        exact .inr rfl
    by_cases hn : t.registry.checkpointHashByEpochShard key = F.checkpointIdentityHash
    · rw [hn, hr, record_hash]
    · have hold := hown.resolve_left hn
      rw [hr, record_hash_other _ _ _ _ (hr ▸ hn), ← hr, hold]
      exact hc.own key (hold ▸ hk)
  · rw [hdb]
    exact fun row hm hst => (hc.settled row hm hst).later hslots

/-- A submission that succeeds records a checkpoint or changes nothing. -/
theorem proceeds_submitted (hdb : t.db = s.db)
    (h : s.registry.submitCheckpoint E sender timestamp input relaySignature =
      .ok (event, t.registry)) : X.Proceeds calls s t := by
  rcases submitCheckpoint_ok h with ⟨-, -, -, hsame⟩ | ⟨-, hfree, -, hr⟩
  · exact proceeds_same (by rw [hdb]) (by rw [hsame]; exact .refl _)
  · exact proceeds_record hdb hr hfree

theorem act_proceeds (action : OutsideAction) (s : SettlementWorld) :
    X.Proceeds calls s (X.act action s) := by
  cases action with
  | database db => exact proceeds_same rfl (.refl _)
  | block block => exact proceeds_same rfl (.refl _)
  | queue publish => exact proceeds_same rfl (.refl _)
  | transaction tx =>
    cases step_submitStep X.settlement.evm s.registry tx with
    | quiet _ hs => exact proceeds_same rfl hs
    | duplicate _ _ _ _ hs =>
      refine proceeds_same rfl ?_
      rw [act, hs]
      exact .refl _
    | recorded F _ hfree _ hs => exact proceeds_record rfl hs hfree

/-- A row enters a segment that has none. -/
theorem proceeds_insert {row : CheckpointRow} (hr : t.registry = s.registry)
    (hdb : t.db.checkpoints = s.db.checkpoints ++ [row])
    (hfree : s.db.checkpointAt row.epoch_start_ms row.shard = none)
    (hj : row.settlement_status = js "settled" → X.Imported calls row) : X.Proceeds calls s t := by
  have hfresh : ∀ other ∈ s.db.checkpoints,
      ¬(other.epoch_start_ms = row.epoch_start_ms ∧ other.shard = row.shard) := by
    intro other ho
    have hnone := List.find?_eq_none.mp hfree other ho
    simpa only [Bool.and_eq_true, beq_iff_eq] using hnone
  refine ⟨fun other ho => ?_, fun key _ => by rw [hr], fun hc => ⟨?_, ?_, ?_⟩⟩
  · rw [hdb]
    exact ⟨other, List.mem_append_left _ ho, rfl, rfl, rfl, id⟩
  · rw [hdb]
    intro a ha b hb he hs
    rcases List.mem_append.mp ha with ha | ha <;> rcases List.mem_append.mp hb with hb | hb
    · exact hc.unique a ha b hb he hs
    · cases List.mem_singleton.mp hb
      exact absurd ⟨he.symm, hs.symm⟩ (hfresh a ha)
    · cases List.mem_singleton.mp ha
      exact absurd ⟨he, hs⟩ (hfresh b hb)
    · rw [List.mem_singleton.mp ha, List.mem_singleton.mp hb]
  · rw [hr]
    exact hc.own
  · rw [hdb, hr]
    intro other ho hst
    rcases List.mem_append.mp ho with ho | ho
    · exact hc.settled other ho hst
    · rw [List.mem_singleton.mp ho] at hst ⊢
      exact .inl (hj hst)

/-- A segment is settled for a reason. -/
theorem proceeds_settle (hr : t.registry = s.registry) (hdb : t.db = s.db.settleAt epoch shard tx)
    (hj : X.Consistent calls s → ∀ row ∈ s.db.checkpoints, row.epoch_start_ms = epoch →
      row.shard = shard → X.Justified calls s.registry row) : X.Proceeds calls s t := by
  have hrows : ∀ row ∈ t.db.checkpoints, ∃ old ∈ s.db.checkpoints,
      row.epoch_start_ms = old.epoch_start_ms ∧ row.shard = old.shard ∧
      (row = old ∨ old.epoch_start_ms = epoch ∧ old.shard = shard ∧
        row = { old with settlement_tx := tx, settlement_status := js "settled" }) := by
    intro row hm
    rw [hdb] at hm
    obtain ⟨old, ho, rfl⟩ := List.mem_map.mp hm
    split
    · next hat =>
      simp only [Bool.and_eq_true, beq_iff_eq] at hat
      exact ⟨old, ho, rfl, rfl, .inr ⟨hat.1, hat.2, rfl⟩⟩
    · exact ⟨old, ho, rfl, rfl, .inl rfl⟩
  refine ⟨fun row hm => ?_, fun key _ => by rw [hr], fun hc => ⟨?_, ?_, ?_⟩⟩
  · rw [hdb]
    refine ⟨_, List.mem_map_of_mem hm, ?_⟩
    split
    · exact ⟨rfl, rfl, checkpointHash_rewritten X.repo.noble row.decode _ tx none, fun _ => rfl⟩
    · exact ⟨rfl, rfl, rfl, id⟩
  · rintro a ha b hb he hs
    rw [hdb] at ha hb
    obtain ⟨a', ha', rfl⟩ := List.mem_map.mp ha
    obtain ⟨b', hb', rfl⟩ := List.mem_map.mp hb
    have hab : b' = a' := by
      apply hc.unique a' ha' b' hb'
      · split_ifs at he <;> exact he
      · split_ifs at hs <;> exact hs
    rw [hab]
  · rw [hr]
    exact hc.own
  · rw [hr]
    intro row hm hst
    obtain ⟨old, ho, -, -, rfl | ⟨he, hs, rfl⟩⟩ := hrows row hm
    · exact hc.settled _ ho hst
    · rcases hj hc old ho he hs with hi | ⟨word, hh, hheld⟩
      · exact .inl hi
      · refine .inr ⟨word, ?_, hheld⟩
        rw [← hh]
        exact checkpointHash_rewritten X.repo.noble old.decode _ tx none

end Steps

section Calls

variable {X} {calls : List SettlementCall} {s t : SettlementWorld} {c : BatchCheckpointV1}

/-- A row is settled when whoever settles it has a reason to. -/
theorem mark_cooperates (hj : ∀ t, X.Proceeds calls s t → ∀ row ∈ t.db.checkpoints,
      X.repo.segmentParameters c.epoch_start_ms c.shard = .ok (row.epoch_start_ms, row.shard) →
      checkpointHash X.repo.noble row.decode = checkpointHash X.repo.noble c →
      X.Justified calls t.registry row) :
    Cooperates (X.Proceeds calls) (fun _ t => X.Settled c t)
      (onDatabase (X.repo.markCheckpointSettled c)) s := by
  have hw := X.proceeds_composes calls
  unfold onDatabase PostgresRepository.markCheckpointSettled PostgresRepository.getCheckpoint
  rw [bind_assoc, focus_bind]
  refine Cooperates.bind hw (cooperates_focus_select hw (fun _ => rfl) ?_)
  intro t ht found hfound v hv
  obtain ⟨⟨epoch, shard⟩, hsegment, hfound⟩ := bind_eq_ok.mp hfound
  cases hfound
  rw [pure_eq, done_ok_bind]
  cases hat : t.db.checkpointAt epoch shard with
  | none => exact cooperates_error _
  | some row =>
    have hkey := List.find?_some hat
    simp only [Bool.and_eq_true, beq_iff_eq] at hkey
    obtain ⟨rfl, rfl⟩ := hkey
    dsimp only [Option.map_some]
    rw [focus_bind]
    refine Cooperates.bind hw (cooperates_lift fun stored hstored v' hv' => ?_)
    rw [focus_bind]
    refine Cooperates.bind hw (cooperates_lift fun given hgiven v'' hv'' => ?_)
    split
    · exact cooperates_error _
    next hsame =>
    have hhash : checkpointHash X.repo.noble row.decode = checkpointHash X.repo.noble c := by
      have hrow := checkpointHash_rewritten X.repo.noble row.decode row.relay_signature
        row.decode.settlement_tx (some row.checkpoint_hash)
      have hgiven' := checkpointHash_rewritten X.repo.noble c c.relay_signature none
        c.checkpoint_identity_hash
      rw [← hrow, ← hgiven']
      refine hstored.trans (Eq.trans ?_ hgiven.symm)
      simpa using hsame
    have hlater := hw.trans _ _ _ (hw.trans _ _ _ hv hv') hv''
    refine cooperates_focus_query hw (fun _ => rfl) fun u hu _ db' hdb => ?_
    obtain ⟨db'', hdb, hpair⟩ := map_eq_ok.mp hdb
    cases hpair
    obtain ⟨⟨epoch, shard⟩, hsegment', hdb⟩ := bind_eq_ok.mp hdb
    cases hsegment.symm.trans hsegment'
    obtain ⟨tx, -, hdb⟩ := bind_eq_ok.mp hdb
    cases hdb
    have hsince := hw.trans _ _ _ hlater hu
    obtain ⟨kept, hm, he, hs, hh, -⟩ := hsince.rows row (List.mem_of_find?_eq_some hat)
    have hstep : X.Proceeds calls u
        { u with db := u.db.settleAt row.epoch_start_ms row.shard tx } := by
      refine proceeds_settle rfl rfl fun hc other ho hoe hos => ?_
      obtain rfl := hc.unique kept hm other ho (hoe.trans he.symm) (hos.trans hs.symm)
      refine hj u (hw.trans _ _ _ ht hsince) other ho ?_ (hh.trans hhash)
      rw [he, hs]
      exact hsegment
    refine ⟨hstep, fun v hv => Settled.later ?_ hv⟩
    refine ⟨{ kept with settlement_tx := tx, settlement_status := js "settled" },
      List.mem_map.mpr ⟨kept, hm, ?_⟩, ?_, ?_, rfl⟩
    · rw [if_pos (by simp [he, hs])]
    · rw [hsegment, ← he, ← hs]
    · exact (checkpointHash_rewritten X.repo.noble kept.decode _ tx none).trans (hh.trans hhash)

theorem insert_cooperates (hcall : .insertCheckpoint c status ∈ calls) :
    Cooperates (X.Proceeds calls) (fun _ _ => True)
      (onDatabase (X.repo.insertCheckpoint c status)) s := by
  have hw := X.proceeds_composes calls
  unfold onDatabase PostgresRepository.insertCheckpoint
  rw [focus_bind]
  refine Cooperates.bind hw (cooperates_lift fun hash hh t ht => ?_)
  rw [focus_bind]
  refine Cooperates.bind hw
    (cooperates_focus_select hw (fun _ => rfl) fun t ht previous _ u hu => ?_)
  split
  · exact cooperates_error _
  rw [focus_bind]
  refine Cooperates.bind hw (cooperates_focus_select hw (fun _ => rfl) fun t ht next _ u hu => ?_)
  split
  · exact cooperates_error _
  rw [focus_bind]
  refine Cooperates.bind hw (cooperates_focus_query hw (fun _ => rfl) ?_)
  intro t ht rowCount db' hinsert
  obtain ⟨row, hrow, hinsert⟩ := bind_eq_ok.mp hinsert
  constructor
  · unfold Database.insertCheckpointRow at hinsert
    split at hinsert
    · cases hinsert
    split at hinsert
    · cases hinsert
      exact hw.refl t
    next hfree =>
    split at hinsert
    · cases hinsert
    cases hinsert
    refine proceeds_insert rfl rfl (by simpa using hfree) fun hst => ?_
    refine ⟨c, status, hcall, .inl ?_, checkpointRow_segment hrow⟩
    rintro rfl
    simp only [PostgresRepository.checkpointRow, bind_eq_ok] at hrow
    obtain ⟨_, -, _, -, _, -, _, -, _, -, _, -, _, -, _, -, _, -, _, -, _, -, _, -, _, -, _, -, _,
      hstatus, hrow⟩ := hrow
    cases hrow
    cases hst
    exact absurd (Except.ok.inj hstatus) (by decide)
  · intro v hv
    split
    · rw [focus_bind]
      refine Cooperates.bind hw (cooperates_focus_select hw (fun _ => rfl) ?_)
      intro t ht existing _ u hu
      split
      · exact cooperates_error _
      · split
        · next hsettled =>
          rw [focus_bind]
          refine Cooperates.bind hw ((mark_cooperates fun t _ row _ hsegment _ => ?_).mono
            fun _ _ _ => cooperates_ok.mpr fun _ _ => trivial)
          refine .inl ⟨c, status, hcall, ?_, hsegment⟩
          rcases Bool.or_eq_true_iff.mp hsettled with htx | hst
          · exact .inr htx
          · refine .inl ?_
            rw [beq_iff_eq.mp hst]
            decide
        · exact cooperates_ok.mpr fun _ _ => trivial
    · exact cooperates_ok.mpr fun _ _ => trivial

/-- The chain holds the hash of a checkpoint in the slot of its segment. -/
def Submitted (X : CheckpointSubmitter) (c : BatchCheckpointV1) (s : SettlementWorld) : Prop :=
  ∃ word, checkpointHash X.repo.noble c = .ok (wordText word) ∧
    X.Holds s.registry c.epoch_start_ms c.shard word

/-- What a submission that succeeds has sent. -/
theorem submitCheckpoint_slot (hN : Digest32 X.repo.noble)
    (h : X.settlement.submitCheckpoint X.repo.noble S block c = .ok (settled, event, S')) :
    ∃ call signature word key,
      S.submitCheckpoint X.settlement.evm block.sender block.timestamp call signature =
        .ok (event, S') ∧
      checkpointHash X.repo.noble settled = .ok (wordText word) ∧
      X.settlement.slot settled.epoch_start_ms settled.shard = .ok key ∧
      call.slot X.settlement.evm = key ∧ call.checkpointIdentityHash = word := by
  rw [CheckpointBackend.submitCheckpoint] at h
  split at h
  · cases h
  split at h
  · cases h
  simp only [bind_eq_ok] at h
  obtain ⟨identity, hidentity, input, hinput, message, -, signature, -, call, hcall, ⟨event', T⟩,
    hsub, h⟩ := h
  dsimp only at h
  split at h
  · cases h
  obtain ⟨identity', hidentity', h⟩ := bind_eq_ok.mp h
  cases h
  have hsame (tx : Option JsString) (identity : Option Hex32) :=
    checkpointHash_rewritten X.repo.noble c c.relay_signature tx identity
  simp only [toContractCheckpointInput, bind_eq_ok] at hinput
  obtain ⟨z, hz, text, htext, _, -, _, -, hash, hhash, _, -, _, -, hinput⟩ := hinput
  cases hinput
  simp only [ContractInput.encode, bind_eq_ok] at hcall
  obtain ⟨epoch, hepoch, _, -, shard, hshard, _, -, _, -, _, -, _, -, _, -, _, -, _, -, word, hword,
    _, -, _, -, hcall⟩ := hcall
  cases hcall
  obtain ⟨word', rfl⟩ := checkpointHash_word hN hhash
  rw [Abi.bytes32_wordText] at hword
  cases hword
  have hc : checkpointHash X.repo.noble c = .ok (wordText word) :=
    (hsame c.settlement_tx (some identity)).symm.trans hhash
  refine ⟨_, signature, word, _, hsub, ?_, ?_, rfl, rfl⟩
  · exact (hsame (some block.receiptHash) (some identity')).trans hc
  · have hsafe := ((checkpointHash_defined_iff X.repo.noble c).mp ⟨_, hc⟩).1.1
    have hnumber : c.epoch_start_ms.toInt? = some z := bigInt_ok.mp hz
    unfold Abi.uint64 at hepoch
    split at hepoch
    · cases hepoch
    next hfit =>
    cases hepoch
    have hencoded : encodeUint 64 c.epoch_start_ms = .ok z.toNat := by
      simp only [encodeUint, hnumber, hsafe, Bool.not_true, Bool.false_eq_true, if_false,
        if_neg hfit]
      rfl
    simp only [CheckpointBackend.slot, htext, ok_bind, hencoded, hshard]
    rfl

theorem sent_of_ok (h : X.settlement.submitCheckpoint X.repo.noble s.registry s.block c =
    .ok (settled, event, S')) : X.sent s c = S' := by
  rw [CheckpointBackend.submitCheckpoint] at h
  split at h
  · cases h
  next hnamed =>
  split at h
  · cases h
  next hbackend =>
  simp only [bind_eq_ok] at h
  obtain ⟨identity, hidentity, input, hinput, message, hmessage, signature, hsignature, call, hcall,
    ⟨event', T⟩, hsub, h⟩ := h
  dsimp only at h
  split at h
  · cases h
  obtain ⟨identity', hidentity', h⟩ := bind_eq_ok.mp h
  cases h
  rw [sent, CheckpointBackend.submitCheckpoint, if_neg hnamed, if_neg hbackend]
  simp only [hidentity, ok_bind, hinput, hmessage, hsignature, hcall, hsub, hidentity']
  rfl

theorem sent_proceeds (hN : Digest32 X.repo.noble) (s : SettlementWorld) (c : BatchCheckpointV1) :
    X.Proceeds calls s { s with registry := X.sent s c } := by
  unfold sent
  split
  · next h =>
    obtain ⟨call, signature, _, _, hsub, -⟩ := submitCheckpoint_slot hN h
    exact proceeds_submitted rfl hsub
  · exact (X.proceeds_composes calls).refl s

/-- A submission that returns has left the hash of its checkpoint in the slot. -/
theorem submit_cooperates (hN : Digest32 X.repo.noble) (c : BatchCheckpointV1) :
    Cooperates (X.Proceeds calls) (fun settled t => X.Submitted settled t)
      (X.submitCheckpoint c) s := by
  unfold submitCheckpoint
  refine cooperates_statement.mpr fun t ht => ⟨sent_proceeds hN t c, ?_⟩
  cases h : X.settlement.submitCheckpoint X.repo.noble t.registry t.block c with
  | error e => exact cooperates_error e
  | ok result =>
    obtain ⟨settled, event, S'⟩ := result
    obtain ⟨call, signature, word, key, hsub, hhash, hkey, rfl, rfl⟩ := submitCheckpoint_slot hN h
    refine cooperates_ok.mpr fun v hv => ⟨_, hhash, Holds.later ?_ hv.slots⟩
    refine ⟨_, hkey, fun hn => ?_⟩
    rw [sent_of_ok h]
    rcases submitCheckpoint_ok hsub with ⟨-, hslot, -, rfl⟩ | ⟨-, -, -, rfl⟩
    · exact hslot
    · exact record_slot ..

/-- The shard of a slot is a hexadecimal text. -/
theorem slot_shard (h : X.settlement.slot epochStartMs shard = .ok key) : WellFormed shard := by
  obtain ⟨text, htext, -⟩ := bind_eq_ok.mp h
  unfold shardToBytes32 at htext
  dsimp only at htext
  generalize hn : (if (js "0x").isPrefixOf shard then shard else js "0x" ++ shard) = normalized
    at htext
  split at htext
  · cases htext
  next hhex =>
  have hunits {text : JsString} (hshort : SettlementProof.isShortHex text = true) :
      ∀ u ∈ text, u.toNat < 0xD800 := by
    simp only [SettlementProof.isShortHex, Bool.and_eq_true, List.all_eq_true] at hshort
    obtain ⟨⟨⟨hmark, -⟩, -⟩, hdigits⟩ := hshort
    obtain ⟨digits, rfl⟩ := List.isPrefixOf_iff_prefix.mp hmark
    intro u hu
    rcases List.mem_append.mp hu with hu | hu
    · have hall : (js "0x").all (fun u => u.toNat < 0xD800) = true := by decide
      exact of_decide_eq_true (List.all_eq_true.mp hall u hu)
    · have hdigit := hdigits u hu
      simp only [Bool.or_eq_true, Bool.and_eq_true, decide_eq_true_eq,
        UInt16.le_iff_toNat_le] at hdigit
      have hbound : u.toNat ≤ 102 := by
        rcases hdigit with (⟨-, h⟩ | ⟨-, h⟩) | ⟨-, h⟩
        · exact h.trans (by decide)
        · exact h
        · exact h.trans (by decide)
      omega
  have hnormal := hunits (by simpa using hhex)
  apply wellFormed_below
  intro u hu
  apply hnormal u
  rw [← hn]
  split
  · exact hu
  · exact List.mem_append_right _ hu

/-- The row of a checkpoint that the chain holds is settled for that reason. -/
theorem Submitted.justified (h : X.Submitted c s) (hp : X.Proceeds calls s t)
    (hsegment : X.repo.segmentParameters c.epoch_start_ms c.shard =
      .ok (row.epoch_start_ms, row.shard))
    (hhash : checkpointHash X.repo.noble row.decode = checkpointHash X.repo.noble c) :
    X.Justified calls t.registry row := by
  obtain ⟨word, hc, hheld⟩ := h
  obtain ⟨epoch, hepoch, hsegment⟩ := bind_eq_ok.mp hsegment
  obtain ⟨shard, hshard, hpair⟩ := bind_eq_ok.mp hsegment
  cases hpair
  have hencodable := ((checkpointHash_defined_iff X.repo.noble c).mp ⟨_, hc⟩).1
  refine .inr ⟨word, hhash.trans hc, ?_⟩
  rw [sqlBigint_kept hencodable hepoch]
  obtain ⟨key, hkey, hword⟩ := hheld
  rw [sqlText_kept (slot_shard hkey) hshard]
  exact Holds.later ⟨key, hkey, hword⟩ hp.slots

theorem settleAll_cooperates (hN : Digest32 X.repo.noble) (pending : List BatchCheckpointV1) :
    Cooperates (X.Proceeds calls) (fun answered t => ∀ c ∈ answered, X.Settled c t)
      (X.settleAll pending) s := by
  have hw := X.proceeds_composes calls
  induction pending generalizing s with
  | nil => exact cooperates_ok.mpr fun _ _ _ h => nomatch h
  | cons c rest ih =>
    refine Cooperates.bind hw ((submit_cooperates hN c).mono fun settled t ht => ?_)
    refine Cooperates.bind hw (Cooperates.mono
      (mark_cooperates fun u hu row _ hsegment hhash => ht.justified hu hsegment hhash) ?_)
    intro _ u hu
    refine Cooperates.bind hw (cooperates_select hw fun v hv _ _ v' hv' => ?_)
    have hsettled := (hu.later hv).later hv'
    refine Cooperates.bind hw (Cooperates.mono
      (ih.frame hsettled fun _ _ hp hs => hs.later hp) fun answered w ⟨hothers, hs⟩ => ?_)
    refine cooperates_ok.mpr fun w' hw' c hc => ?_
    rcases List.mem_cons.mp hc with rfl | hc
    · exact hs.later hw'
    · exact (hothers c hc).later hw'

/-- Every call keeps the rules, and a request answers what is settled. -/
theorem call_cooperates (hN : Digest32 X.repo.noble) {call : SettlementCall}
    (hcall : call ∈ calls) :
    Cooperates (X.Proceeds calls) (fun answered t => ∀ c ∈ answered, X.Settled c t)
      (X.call call) s := by
  have hw := X.proceeds_composes calls
  cases call with
  | submitPending limit =>
    unfold CheckpointSubmitter.call submitPending
    refine Cooperates.bind hw (cooperates_focus_select hw (fun _ => rfl) ?_)
    exact fun _ _ pending _ _ _ => settleAll_cooperates hN pending
  | insertCheckpoint c status =>
    unfold CheckpointSubmitter.call
    refine Cooperates.bind hw ((insert_cooperates hcall).mono fun _ _ _ => ?_)
    exact cooperates_ok.mpr fun _ _ _ h => nomatch h

/-- What the slot of a row holds is what the backend reads from it. -/
theorem Justified.recorded (h : X.Justified calls s.registry row)
    (hs : X.Consistent calls s) : X.Imported calls row ∨ X.Recorded s row := by
  refine h.imp_right ?_
  rintro ⟨word, hhash, key, hkey, hheld⟩
  obtain ⟨text, htext, h⟩ := bind_eq_ok.mp hkey
  obtain ⟨epoch, hepoch, h⟩ := bind_eq_ok.mp h
  obtain ⟨shard, hshard, h⟩ := bind_eq_ok.mp h
  cases h
  refine ⟨_, (s.registry.getCheckpointByEpochShard X.settlement.evm (.ofNat epoch) shard).decode,
    hhash, ?_, fun hne => ?_⟩
  · rw [CheckpointBackend.readStoredCheckpoint, htext, ok_bind, hepoch, ok_bind, hshard]
    rfl
  · have hword : word ≠ 0 := by
      rintro rfl
      exact hne (by decide)
    have hslot := hheld hword
    have hown := hs.own _ (hslot ▸ hword)
    rw [hslot] at hown
    simp only [Checkpoint.decode, getCheckpointByEpochShard, hslot, hown]

/-- However the statements of requests and imports interleave with each other, with the chain and
with the queue: what the table calls settled is recorded on the chain, unless an import said that it
was settled, and every checkpoint that a request answers is settled in the table. -/
theorem settled_recorded (X : CheckpointSubmitter) (hN : Digest32 X.repo.noble)
    (start : SettlementWorld) (hempty : start.db.checkpoints = [])
    (hdeployed : start.registry = .create deployer) (calls : List SettlementCall)
    (turns : List (Turn OutsideAction)) :
    let pool := X.run start calls turns
    (∀ row ∈ pool.state.db.checkpoints, row.settlement_status = js "settled" →
      X.Imported calls row ∨ X.Recorded pool.state row) ∧
    ∀ (i : Nat) (answered : List BatchCheckpointV1),
      pool.programs[i]? = some (Program.done (.ok answered)) →
      ∀ checkpoint ∈ answered, X.Settled checkpoint pool.state := by
  intro pool
  have hw := X.proceeds_composes calls
  have hstart : X.Consistent calls start := by
    refine ⟨?_, ?_, ?_⟩
    · rw [hempty]
      exact fun _ h => nomatch h
    · rw [hdeployed]
      exact fun key hk => absurd rfl hk
    · rw [hempty]
      exact fun _ h => nomatch h
  have hcalls : (Pool.mk start (calls.map X.call)).Cooperative (X.Proceeds calls)
      fun _ answered t => ∀ c ∈ answered, X.Settled c t := by
    intro i program hp
    rw [List.getElem?_map, Option.map_eq_some_iff] at hp
    obtain ⟨call, hc, rfl⟩ := hp
    exact call_cooperates hN (List.mem_of_getElem? hc)
  obtain ⟨hstate, hprograms⟩ := hcalls.run hw act_proceeds turns
  have hconsistent : X.Consistent calls pool.state := hstate.consistent hstart
  constructor
  · exact fun row hr hst => (hconsistent.settled row hr hst).recorded hconsistent
  · intro i answered hdone
    exact cooperates_ok.mp (hprograms i _ hdone) pool.state (hw.refl _)

end Calls

section Sample

def sampleSubmitter : CheckpointSubmitter := ⟨samplePostgres settledNoble, settledBackend⟩

def submissionStart : SettlementWorld where
  db := emptyDatabase
  registry := .create 1
  block := ⟨1, 12, js "0x01"⟩
  publish _ := .ok ()

/-- A checkpoint is imported, and two requests submit it at once. -/
def submissionCalls : List SettlementCall :=
  [.insertCheckpoint settledCheckpoint (js "pending"), .submitPending (.ofNat 100),
    .submitPending (.ofNat 100)]

def submissionTurns : List (Turn OutsideAction) :=
  [.other (.transaction ⟨1, 10, .setAuthorizedRelay relayWord true⟩),
    .other (.transaction ⟨1, 11, .setRelaySigner relayWord sampleSigner⟩)] ++
    List.replicate 3 (.program 0) ++
    (List.replicate 5 [Turn.program 1, Turn.program 2]).flatten

theorem settled_recorded_sample :
    let pool := sampleSubmitter.run submissionStart submissionCalls submissionTurns
    pool.state.db.checkpoints.map CheckpointRow.settlement_status = [js "settled"] ∧
      ∀ row ∈ pool.state.db.checkpoints, row.settlement_status = js "settled" →
        sampleSubmitter.Imported submissionCalls row ∨ sampleSubmitter.Recorded pool.state row := by
  have hN : Digest32 settledNoble := recorded_digest32 (by decide +kernel) fun _ => rfl
  have hdeployed : submissionStart.registry = .create 1 := rfl
  have hempty : submissionStart.db.checkpoints = [] := rfl
  exact ⟨by decide +kernel, (settled_recorded sampleSubmitter hN submissionStart hempty hdeployed
    submissionCalls submissionTurns).1⟩

end Sample

end CheckpointSubmitter

end Continuity

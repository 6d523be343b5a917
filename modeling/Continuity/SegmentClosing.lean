import Continuity.CheckpointTable
import Continuity.MerkleComplete
import Continuity.MerkleDigest

namespace Continuity
open Frames Statements Program
set_option autoImplicit true

/-- A call of `insertEvent`. -/
structure EventCall where
  event : EventCommitmentV1
  relayId : JsString
  epochStartMs : JsNumber

/-- A request to close a segment. -/
structure CloseCall where
  epochStartMs : JsNumber
  shard : JsString
  epochDurationMs : JsNumber
  relayId : JsString
  relaySignature : JsString
  settlementBackend : Option JsString

def PostgresRepository.close (P : PostgresRepository) (call : CloseCall) : Sql BatchCheckpointV1 :=
  P.closeEpoch call.epochStartMs call.shard call.epochDurationMs call.relayId call.relaySignature
    call.settlementBackend

/-- Events that are inserted while a segment is closed, each call between two of its statements. -/
structure SegmentRun where
  db : Database
  closing : Sql BatchCheckpointV1
  /-- The statements that the closing has issued. -/
  issued : Nat
  inserts : List (Sql Hex32)

inductive SegmentAction where
  | tick (now : Int)
  | close
  | insert (i : Nat)

namespace SegmentRun

def start (P : PostgresRepository) (db : Database) (close : CloseCall) (calls : List EventCall) :
    SegmentRun where
  db := db
  closing := P.close close
  issued := 0
  inserts := calls.map fun call => P.insertEvent call.event call.relayId call.epochStartMs

def step (w : SegmentRun) : SegmentAction → SegmentRun
  | .tick now => { w with db := { w.db with clock := now } }
  | .close =>
    match w.closing with
    | .done _ => w
    | .statement effect next =>
      { w with db := effect w.db, closing := next w.db, issued := w.issued + 1 }
  | .insert i =>
    match w.inserts[i]? with
    | none => w
    | some program =>
      let (program, db) := program.step w.db
      { w with db, inserts := w.inserts.set i program }

/-- The checkpoint of a closing that has returned. -/
def closed (w : SegmentRun) : Option BatchCheckpointV1 :=
  match w.closing with
  | .done (.ok checkpoint) => some checkpoint
  | _ => none

/-- The statements up to the one that reads the events: the first check, four numberings and the
reading. -/
def readAt : Nat := 6

/-- No event row enters the segment once the closing has read its events. -/
def Guard (epoch : Int) (shard : JsString) (w : SegmentRun) : SegmentAction → Prop
  | .insert i => readAt ≤ w.issued →
    (w.step (.insert i)).db.segment .event epoch shard = w.db.segment .event epoch shard
  | _ => True

end SegmentRun

/-- What the table of the events checks of its hashes. -/
structure Database.Constrained (db : Database) : Prop where
  hashes : ∀ row ∈ db.logs .event, isHashText row.hash = true
  primary : ((db.logs .event).map LogRow.hash).Nodup

/-- The checkpoint of a segment commits to every event row of it, and every row is proved. -/
structure SegmentKept (P : PostgresRepository) (db : Database) (epoch : Int) (shard : JsString)
    (checkpoint : BatchCheckpointV1) : Prop where
  count : checkpoint.event_count = .ofNat (db.segment .event epoch shard).length
  proved : ∀ row ∈ db.segment .event epoch shard, ∃ proof stored,
    (P.buildInclusionProofFor .event row.hash).run db = (.ok (some (proof, stored)), db) ∧
      proof.commitment = row.hash ∧ verifyInclusion P.noble proof = .ok true ∧
      proof.root = checkpoint.event_root

section Columns

/-- A hash column keeps its texts as they are. -/
theorem sqlText_hash (h : isHashText s = true) : sqlText s = .ok s := by
  unfold isHashText at h
  split at h
  · next digits =>
    have hdigits := List.all_eq_true.mp (Bool.and_eq_true_iff.mp h).2
    have hunit (u : UInt16) (hu : u ∈ 48 :: 120 :: digits) : 0 < u.toNat ∧ u.toNat < 0xD800 := by
      rcases List.mem_cons.mp hu with rfl | hu
      · decide
      rcases List.mem_cons.mp hu with rfl | hu
      · decide
      have hlower := hdigits u hu
      simp only [isLowerHex, isDigitUnit, Bool.or_eq_true, Bool.and_eq_true, decide_eq_true_eq]
        at hlower
      have hbounds : 48 ≤ u.toNat ∧ u.toNat ≤ 102 := by
        rcases hlower with ⟨hl, hr⟩ | ⟨hl, hr⟩
        · exact ⟨hl, hr.trans (by decide)⟩
        · omega
      omega
    refine sqlText_ok.mpr
      ⟨?_, scalarUnits_scalarValues (wellFormed_below fun u hu => (hunit u hu).2)⟩
    exact fun hz => absurd (hunit 0 hz).1 (by decide)
  · cases h

end Columns

section Constraints

variable {db db' : Database}

theorem numberSegment_hashes (epoch : Int) (shard : JsString) (rows : List (LogRow kind)) :
    (numberSegment epoch shard rows).map LogRow.hash = rows.map LogRow.hash := by
  rw [numberSegment, List.map_map]
  apply List.map_congr_left
  intro row _
  rw [Function.comp]
  split <;> rfl

theorem Database.Constrained.of_hashes (h : db.Constrained)
    (he : (db'.logs .event).map LogRow.hash = (db.logs .event).map LogRow.hash) :
    db'.Constrained where
  hashes := by
    intro row hr
    have hm : row.hash ∈ (db.logs .event).map LogRow.hash := he ▸ List.mem_map_of_mem hr
    obtain ⟨other, ho, heq⟩ := List.mem_map.mp hm
    rw [← heq]
    exact h.hashes other ho
  primary := by
    rw [he]
    exact h.primary

theorem insertEventRow_constrained (h : db.Constrained) (hi : db.insertEventRow row = .ok db') :
    db'.Constrained := by
  unfold Database.insertEventRow at hi
  dsimp only at hi
  split at hi
  · cases hi
  next hhash =>
  split at hi
  · cases hi
    exact h
  next hfresh =>
  split at hi
  · cases hi
  cases hi
  have hlog : (db.setLog .event (db.logs .event ++ [row])).logs .event =
      db.logs .event ++ [row] := by
    rw [setLog_logs, Function.update_self]
  constructor
  · intro other ho
    rw [hlog] at ho
    rcases List.mem_append.mp ho with ho | ho
    · exact h.hashes other ho
    · rw [List.mem_singleton.mp ho]
      simpa using hhash
  · rw [hlog, List.map_append, List.map_singleton, List.nodup_append]
    refine ⟨h.primary, List.nodup_singleton _, ?_⟩
    intro a ha b hb hab
    obtain ⟨other, ho, rfl⟩ := List.mem_map.mp ha
    rw [List.mem_singleton.mp hb] at hab
    exact hfresh (List.any_eq_true.mpr ⟨other, ho, beq_iff_eq.mpr hab⟩)

end Constraints

/-- What the other calls leave of the database between the statements of a closing. -/
structure LeavesSegment (epoch : Int) (shard : JsString) (n : Nat) (db db' : Database) : Prop where
  checkpoints : db'.checkpoints = db.checkpoints
  constrained : db.Constrained → db'.Constrained
  segment : SegmentRun.readAt ≤ n → db'.segment .event epoch shard = db.segment .event epoch shard

section Relies

variable {epoch : Int} {stored : JsString} {n : Nat} {events : List Hex32}
  {P : PostgresRepository}

theorem LeavesSegment.refl (n : Nat) (db : Database) : LeavesSegment epoch stored n db db :=
  ⟨rfl, id, fun _ => rfl⟩

theorem LeavesSegment.trans (n : Nat) (a b c : Database) (h : LeavesSegment epoch stored n a b)
    (h' : LeavesSegment epoch stored n b c) : LeavesSegment epoch stored n a c :=
  ⟨h'.checkpoints.trans h.checkpoints, fun ha => h'.constrained (h.constrained ha),
    fun hn => (h'.segment hn).trans (h.segment hn)⟩

/-- The segment is open, and the table of its events keeps its constraints. -/
structure OpenSegment (epoch : Int) (stored : JsString) (db : Database) : Prop where
  constrained : db.Constrained
  free : db.checkpointAt epoch stored = none

theorem OpenSegment.left (h : OpenSegment epoch stored db)
    (hl : LeavesSegment epoch stored n db db') : OpenSegment epoch stored db' where
  constrained := hl.constrained h.constrained
  free := by
    rw [Database.checkpointAt, hl.checkpoints]
    exact h.free

/-- The segment is open still and has the events that were read. -/
structure ReadSegment (epoch : Int) (stored : JsString) (events : List Hex32) (db : Database) :
    Prop extends OpenSegment epoch stored db where
  unchanged : db.orderedHashes .event epoch stored = events

theorem ReadSegment.left (h : ReadSegment epoch stored events db)
    (hn : SegmentRun.readAt ≤ n) (hl : LeavesSegment epoch stored n db db') :
    ReadSegment epoch stored events db' where
  toOpenSegment := h.toOpenSegment.left hl
  unchanged := by
    rw [Database.orderedHashes, hl.segment hn]
    exact h.unchanged

/-- Statements that change neither the logs nor the checkpoints. -/
structure SameLogs (db db' : Database) : Prop where
  logs : db'.logs = db.logs
  checkpoints : db'.checkpoints = db.checkpoints

theorem SameLogs.refl (db : Database) : SameLogs db db := ⟨rfl, rfl⟩

theorem ReadSegment.same (h : ReadSegment epoch stored events db) (hs : SameLogs db db') :
    ReadSegment epoch stored events db' where
  constrained := h.constrained.of_hashes (by rw [hs.logs])
  free := by
    rw [Database.checkpointAt, hs.checkpoints]
    exact h.free
  unchanged := by
    rw [Database.orderedHashes, Database.segment, hs.logs]
    exact h.unchanged

/-- After the events are read, statements that leave the logs and the checkpoints keep what was
read. -/
theorem ReadSegment.bind {p : Sql α} {f : α → Sql β} {post : Nat → β → Database → Prop}
    (h : ReadSegment epoch stored events db) (hn : SegmentRun.readAt ≤ n) (hp : Changes SameLogs p)
    (hf : ∀ m a t, SegmentRun.readAt ≤ m → ReadSegment epoch stored events t →
      Ensures (LeavesSegment epoch stored) post m (f a) t) :
    Ensures (LeavesSegment epoch stored) post n (p >>= f) db := by
  refine Ensures.bind LeavesSegment.refl (Ensures.mono (hp.ensures h
    (fun _ _ hs ht => ht.same hs) fun m s t hm hl hs => hs.left (hn.trans hm) hl) ?_)
  intro m a t hm ht
  exact hf m a t (hn.trans hm) ht

/-- One numbering keeps the segment open. -/
theorem numbering_open (h : OpenSegment epoch stored db) (hl : LeavesSegment epoch stored n db t)
    (hu : (do
      let (epoch, shard) ← P.segmentParameters epochStartMs shard
      return t.setLog kind (numberSegment epoch shard (t.logs kind))) = Except.ok u) :
    OpenSegment epoch stored u := by
  obtain ⟨⟨e, s⟩, -, hu⟩ := bind_eq_ok.mp hu
  cases hu
  have ht := h.left hl
  refine ⟨ht.constrained.of_hashes ?_, ht.free⟩
  by_cases hk : kind = .event
  · subst hk
    rw [setLog_logs, Function.update_self, numberSegment_hashes]
  · rw [setLog_logs, Function.update_of_ne (Ne.symm hk)]

end Relies

section Sealing

variable {epoch : Int} {stored : JsString} {n : Nat} {P : PostgresRepository}
  {checkpoint : BatchCheckpointV1} {hash : Hex32}

/-- The segment has its checkpoint, which commits to all of its events. -/
structure Sealed (P : PostgresRepository) (epoch : Int) (stored : JsString)
    (checkpoint : BatchCheckpointV1) (db : Database) : Prop where
  constrained : db.Constrained
  row : ∃ row hash, db.checkpointAt epoch stored = some row ∧
    checkpointHash P.noble row.decode = .ok hash
  root : ∃ tree, buildMerkleTree P.noble (db.orderedHashes .event epoch stored) = .ok tree ∧
    checkpoint.event_root = tree.root
  count : checkpoint.event_count = .ofNat (db.orderedHashes .event epoch stored).length
  segment : P.segmentParameters (bigintNumber epoch) stored = .ok (epoch, stored)

theorem Sealed.shard (h : Sealed P epoch stored checkpoint db) : sqlText stored = .ok stored := by
  obtain ⟨_, -, hsegment⟩ := bind_eq_ok.mp h.segment
  obtain ⟨shard, hshard, hpair⟩ := bind_eq_ok.mp hsegment
  cases hpair
  exact hshard

theorem Sealed.left (h : Sealed P epoch stored checkpoint db) (hn : SegmentRun.readAt ≤ n)
    (hl : LeavesSegment epoch stored n db db') : Sealed P epoch stored checkpoint db' := by
  have hevents : db'.orderedHashes .event epoch stored = db.orderedHashes .event epoch stored := by
    rw [Database.orderedHashes, hl.segment hn, Database.orderedHashes]
  refine ⟨hl.constrained h.constrained, ?_, ?_, ?_, h.segment⟩
  · rw [Database.checkpointAt, hl.checkpoints]
    exact h.row
  · rw [hevents]
    exact h.root
  · rw [hevents]
    exact h.count

theorem orderedHashes_length (db : Database) :
    (db.orderedHashes .event epoch stored).length = (db.segment .event epoch stored).length := by
  rw [Database.orderedHashes, List.length_map, List.length_insertionSort]

/-- The row of a checkpoint that has a hash stands for one that has a hash. -/
theorem checkpointRow_hashed (hh : checkpointHash P.noble checkpoint = .ok hash)
    (h : P.checkpointRow checkpoint hash status = .ok row) :
    (∃ hash', checkpointHash P.noble row.decode = .ok hash') ∧
      P.segmentParameters (bigintNumber row.epoch_start_ms) row.shard =
        .ok (row.epoch_start_ms, row.shard) := by
  obtain ⟨he, hd, hevents, hreceipts⟩ :=
    (checkpointHash_defined_iff P.noble checkpoint).mp ⟨hash, hh⟩
  simp only [PostgresRepository.checkpointRow, PostgresRepository.segmentParameters,
    bind_eq_ok] at h
  obtain ⟨_, -, _, ⟨epoch, hepoch, shard, hshard, hpair⟩, duration, hduration, _, -, _, -, _, -,
    _, -, event_count, hec, receipt_count, hrc, _, -, _, -, _, -, _, -, _, -, _, -, h⟩ := h
  cases hpair
  cases h
  constructor
  · apply (checkpointHash_defined_iff P.noble _).mpr
    simp only [CheckpointRow.decode, sqlBigint_kept he hepoch, sqlBigint_kept hd hduration,
      sqlBigint_kept hevents hec, sqlBigint_kept hreceipts hrc]
    exact ⟨he, hd, hevents, hreceipts⟩
  · rw [PostgresRepository.segmentParameters, sqlBigint_kept he hepoch, hepoch,
      sqlText_again hshard]
    rfl

/-- The checkpoint that a closing has made of what it read is stored. -/
theorem insertCheckpoint_seals (h : ReadSegment epoch stored events db)
    (hn : SegmentRun.readAt ≤ n)
    (hs : P.segmentParameters checkpoint.epoch_start_ms checkpoint.shard = .ok (epoch, stored))
    (ht : buildMerkleTree P.noble events = .ok tree) (hr : checkpoint.event_root = tree.root)
    (hc : checkpoint.event_count = .ofNat events.length) (status : JsString) :
    Ensures (LeavesSegment epoch stored) (fun _ _ t => Sealed P epoch stored checkpoint t) n
      (P.insertCheckpoint checkpoint status) db := by
  refine Ensures.lift_bind LeavesSegment.refl fun hash hhash s hl => ?_
  refine (h.left hn hl).bind hn (Changes.select SameLogs.refl) fun m previous t hm hread => ?_
  split
  · exact ensures_lift nofun
  refine hread.bind hm (Changes.select SameLogs.refl) fun m' next t' hm' hread' => ?_
  split
  · exact ensures_lift nofun
  refine Ensures.bind LeavesSegment.refl (ensures_query fun u hu rowCount u' hinsert v hv => ?_)
  obtain ⟨row, hrow, hinsert⟩ := bind_eq_ok.mp hinsert
  obtain ⟨hhashed, hsegment⟩ := checkpointRow_hashed hhash hrow
  cases hs.symm.trans (checkpointRow_segment hrow)
  have hopen := hread'.left hm' hu
  rw [Database.insertCheckpointRow, hopen.free] at hinsert
  split at hinsert
  · cases hinsert
  rw [Option.isSome_none, if_neg Bool.false_ne_true] at hinsert
  split at hinsert
  · cases hinsert
  cases hinsert
  rw [if_neg (by decide)]
  -- nobody else adds checkpoints, so the row that was sent is the one of the segment
  have hsealed : Sealed P row.epoch_start_ms row.shard checkpoint
      { u with checkpoints := u.checkpoints ++ [row] } := by
    obtain ⟨stored, hstored⟩ := hhashed
    refine ⟨⟨hopen.constrained.hashes, hopen.constrained.primary⟩, ⟨row, stored, ?_, hstored⟩,
      ⟨tree, ?_, hr⟩, ?_, hsegment⟩
    · have hfree := hopen.free
      rw [Database.checkpointAt] at hfree ⊢
      rw [List.find?_append, hfree]
      simp
    · exact hopen.unchanged ▸ ht
    · rw [hc, ← hopen.unchanged]
      rfl
  have hlater : SegmentRun.readAt ≤ m' + 1 := Nat.le_succ_of_le hm'
  exact ensures_ok.mpr fun w hw => (hsealed.left hlater hv).left hlater hw

end Sealing

section Closing

variable {epoch : Int} {stored : JsString} {n : Nat} {P : PostgresRepository}

theorem assertSegmentOpen_ensures (h : db.Constrained)
    (hs : P.segmentParameters epochStartMs shard = .ok (epoch, stored)) :
    Ensures (LeavesSegment epoch stored) (fun m _ t => m = n + 1 ∧ OpenSegment epoch stored t) n
      (P.assertSegmentOpen epochStartMs shard) db := by
  refine Ensures.bind LeavesSegment.refl (ensures_select fun t ht closed hclosed v hv => ?_)
  rw [hs] at hclosed
  cases hclosed
  cases hfree : t.checkpointAt epoch stored with
  | some row => exact ensures_lift nofun
  | none =>
    have hopen : OpenSegment epoch stored t := ⟨ht.constrained h, hfree⟩
    exact ensures_ok.mpr fun w hw => ⟨rfl, (hopen.left hv).left hw⟩

theorem assignLogIndexes_ensures (h : OpenSegment epoch stored db) :
    Ensures (LeavesSegment epoch stored) (fun m _ t => m = n + 4 ∧ OpenSegment epoch stored t) n
      (P.assignLogIndexes epochStartMs shard) db := by
  refine Ensures.mono (ensures_forEach LeavesSegment.refl (fun _ _ _ hl ho => ho.left hl)
    (fun kind _ m s ho => ?_) h) fun m _ t _ hm => hm
  refine execute_ensures fun t ht u hu v hv => ⟨rfl, ?_⟩
  exact (numbering_open ho ht hu).left hv

theorem persistMerkleNodes_same (P : PostgresRepository) (epochStartMs : JsNumber)
    (shard : JsString) (treeKind : TreeKind) (levels : List (List Hex32)) :
    Changes SameLogs (P.persistMerkleNodes epochStartMs shard treeKind levels) := by
  refine (assertSegmentOpen_changes SameLogs.refl).bind fun _ => Changes.bind ?_ fun _ => ?_
  · refine execute_changes SameLogs.refl fun db db' h => ?_
    obtain ⟨_, -, h⟩ := bind_eq_ok.mp h
    cases h
    exact ⟨rfl, rfl⟩
  · refine Changes.forEach fun level _ => Changes.forEach fun node _ => ?_
    refine execute_changes SameLogs.refl fun db db' h => ?_
    obtain ⟨_, -, h⟩ := bind_eq_ok.mp h
    obtain ⟨_, -, h⟩ := bind_eq_ok.mp h
    rw [Database.upsertNode] at h
    split_ifs at h <;> cases h <;> exact ⟨rfl, rfl⟩

theorem previousCheckpointHash_same (P : PostgresRepository) (epochStartMs : JsNumber)
    (shard : JsString) : Changes SameLogs (P.previousCheckpointHash epochStartMs shard) :=
  (Changes.select SameLogs.refl).bind fun _ => changes_done _

/-- Whatever the others do within what may be relied on, a closing that returns has sealed the
segment. -/
theorem closeEpoch_ensures (h : db.Constrained) (call : CloseCall)
    (hs : P.segmentParameters call.epochStartMs call.shard = .ok (epoch, stored)) :
    Ensures (LeavesSegment epoch stored)
      (fun _ checkpoint t => Sealed P epoch stored checkpoint t) 0 (P.close call) db := by
  have hlift {α : Type} (x : Js α) : Changes SameLogs (lift x : Sql α) := changes_done x
  refine Ensures.bind LeavesSegment.refl ?_
  refine Ensures.bind LeavesSegment.refl (Ensures.mono (assertSegmentOpen_ensures h hs) ?_)
  rintro _ - t - ⟨rfl, hopen⟩
  refine Ensures.bind LeavesSegment.refl (Ensures.mono (assignLogIndexes_ensures hopen) ?_)
  rintro _ - t - ⟨rfl, hopen⟩
  refine Ensures.bind LeavesSegment.refl (ensures_select fun u hu events hevents v hv => ?_)
  rw [hs] at hevents
  cases hevents
  have hread : ReadSegment epoch stored (u.orderedHashes .event epoch stored) v :=
    ReadSegment.left ⟨hopen.left hu, rfl⟩ (Nat.le_refl 6) hv
  -- what is left reads the other logs and writes nodes of the trees
  refine hread.bind (Nat.le_refl 6) (Changes.select SameLogs.refl) fun m _ t hm hread => ?_
  refine hread.bind hm (Changes.select SameLogs.refl) fun m _ t hm hread => ?_
  refine hread.bind hm (Changes.select SameLogs.refl) fun m _ t hm hread => ?_
  refine Ensures.lift_bind LeavesSegment.refl fun eventTree htree t ht => ?_
  refine (hread.left hm ht).bind hm (hlift _) fun m _ t hm hread => ?_
  refine hread.bind hm (hlift _) fun m _ t hm hread => ?_
  refine hread.bind hm (hlift _) fun m _ t hm hread => ?_
  refine hread.bind hm (persistMerkleNodes_same P _ _ _ _) fun m _ t hm hread => ?_
  refine hread.bind hm (persistMerkleNodes_same P _ _ _ _) fun m _ t hm hread => ?_
  refine hread.bind hm (persistMerkleNodes_same P _ _ _ _) fun m _ t hm hread => ?_
  refine hread.bind hm (persistMerkleNodes_same P _ _ _ _) fun m _ t hm hread => ?_
  refine hread.bind hm (previousCheckpointHash_same P _ _) fun m _ t hm hread => ?_
  refine hread.bind hm (hlift _) fun m _ t hm hread => ensures_ok.mpr fun u hu => ?_
  refine Ensures.bind LeavesSegment.refl
    (Ensures.mono (insertCheckpoint_seals (hread.left hm hu) hm hs htree rfl rfl _) ?_)
  intro m' _ t' hm' hsealed
  have hlater := hm.trans hm'
  exact ensures_ok.mpr fun w hw => hsealed.left hlater hw

end Closing

section Proofs

variable {P : PostgresRepository} {db : Database} {epoch : Int} {stored : JsString}

theorem isHashText_ne_nil (h : isHashText s = true) : s ≠ [] := by
  rintro rfl
  cases h

/-- The first row of a hash is the only one. -/
theorem Database.Constrained.find (h : db.Constrained) (hr : row ∈ db.logs .event) :
    (db.logs .event).find? (fun other => other.hash == row.hash) = some row := by
  cases hfound : (db.logs .event).find? (fun other => other.hash == row.hash) with
  | none =>
    have hnone := List.find?_eq_none.mp hfound row hr
    simp at hnone
  | some other =>
    have hhash : other.hash = row.hash := by simpa using List.find?_some hfound
    rw [List.inj_on_of_nodup_map h.primary (List.mem_of_find?_eq_some hfound) hr hhash]

/-- What the queries of `buildInclusionProofFor` find for a row. -/
theorem buildInclusionProofFor_ok {row : LogRow kind} {hash : Hex32} {proof : InclusionProofV1}
    (hhash : sqlText row.hash = .ok row.hash) (hshard : sqlText row.shard = .ok row.shard)
    (hfind : (db.logs kind).find? (fun other => other.hash == row.hash) = some row)
    (hi : (db.orderedHashes kind row.epoch_start_ms row.shard).idxOf row.hash <
      (db.orderedHashes kind row.epoch_start_ms row.shard).length)
    (hget : (P.getCheckpoint (bigintNumber row.epoch_start_ms) row.shard).run db =
      (.ok (some checkpoint), db))
    (hh : checkpointHash P.noble checkpoint = .ok hash)
    (hproof : buildInclusionProof P.noble {
      commitments := db.orderedHashes kind row.epoch_start_ms row.shard
      leaf_index := .ofNat ((db.orderedHashes kind row.epoch_start_ms row.shard).idxOf row.hash)
      tree_kind := kind
      epoch_start_ms := checkpoint.epoch_start_ms
      epoch_duration_ms := checkpoint.epoch_duration_ms
      shard := checkpoint.shard
      checkpoint_hash := some hash } = .ok proof) :
    (P.buildInclusionProofFor kind row.hash).run db = (.ok (some (proof, checkpoint)), db) := by
  refine run_select_bind_ok.mpr ⟨some (row.epoch_start_ms, row.shard), ?_, ?_⟩
  · rw [hhash]
    exact congrArg (fun found => Except.ok (found.map fun r => (r.epoch_start_ms, r.shard))) hfind
  refine run_select_bind_ok.mpr ⟨_, by rw [hshard]; rfl, ?_⟩
  rw [if_neg (Nat.not_le.mpr hi)]
  refine run_bind_ok.mpr ⟨some checkpoint, db, hget, ?_⟩
  exact run_lift_bind_ok.mpr ⟨hash, hh, run_lift_bind_ok.mpr ⟨proof, hproof, rfl⟩⟩

/-- A sealed segment has a proof of every event row. -/
theorem Sealed.kept {checkpoint : BatchCheckpointV1} (h : Sealed P epoch stored checkpoint db) :
    SegmentKept P db epoch stored checkpoint := by
  refine ⟨by rw [h.count, orderedHashes_length], ?_⟩
  intro row hrow
  obtain ⟨hlog, hsegment⟩ := List.mem_filter.mp hrow
  simp only [LogRow.inSegment, Bool.and_eq_true, beq_iff_eq] at hsegment
  obtain ⟨rfl, rfl⟩ := hsegment
  have hhash := h.constrained.hashes row hlog
  have hmem : row.hash ∈ db.orderedHashes .event row.epoch_start_ms row.shard :=
    List.mem_map_of_mem ((List.mem_insertionSort _).mpr hrow)
  have hi := List.idxOf_lt_length_of_mem hmem
  have hget := List.getElem_idxOf hi
  obtain ⟨checkpointRow, hash, hat, hh⟩ := h.row
  obtain ⟨tree, htree, hroot⟩ := h.root
  obtain ⟨hl, hb⟩ := buildMerkleTree_bytes (List.ne_nil_of_mem hmem) htree
  let kept : BatchCheckpointV1 :=
    { checkpointRow.decode with checkpoint_identity_hash := some checkpointRow.checkpoint_hash }
  have hkept : checkpointHash P.noble kept = .ok hash :=
    (checkpointHash_rewritten P.noble checkpointRow.decode checkpointRow.decode.relay_signature
      checkpointRow.decode.settlement_tx (some checkpointRow.checkpoint_hash)).trans hh
  obtain ⟨tree', proof, htree', hproof, hproofRoot, hcommitment, -, -, hverify⟩ :=
    buildInclusionProof_verifies {
      commitments := db.orderedHashes .event row.epoch_start_ms row.shard
      leaf_index := .ofNat ((db.orderedHashes .event row.epoch_start_ms row.shard).idxOf row.hash)
      tree_kind := .event
      epoch_start_ms := kept.epoch_start_ms
      epoch_duration_ms := kept.epoch_duration_ms
      shard := kept.shard
      checkpoint_hash := some hash } hb hl hi rfl (by
        dsimp only
        rw [hget]
        exact isHashText_ne_nil hhash)
  cases htree.symm.trans htree'
  refine ⟨proof, kept, ?_, hcommitment.trans hget, hverify, hproofRoot.trans hroot.symm⟩
  exact buildInclusionProofFor_ok (sqlText_hash hhash) h.shard (h.constrained.find hlog) hi
    (getCheckpoint_at h.segment hat) hkept hproof

end Proofs

/-- What an insert of an event changes. -/
structure EventWrites (db db' : Database) : Prop where
  checkpoints : db'.checkpoints = db.checkpoints
  constrained : db.Constrained → db'.Constrained

theorem insertEvent_writes (P : PostgresRepository) (call : EventCall) :
    Changes EventWrites (P.insertEvent call.event call.relayId call.epochStartMs) := by
  refine insertEvent_changes P (fun _ => ⟨rfl, id⟩) ?_ _ _ _
  intro db row db' h
  refine ⟨?_, fun hc => insertEventRow_constrained hc h⟩
  simp only [Database.insertEventRow] at h
  split_ifs at h <;> cases h <;> rfl

namespace SegmentRun

variable {P : PostgresRepository} {epoch : Int} {stored : JsString} {w : SegmentRun}
  {db : Database}

/-- The closing will have sealed the segment, and the inserts write event rows only. -/
structure Inv (P : PostgresRepository) (epoch : Int) (stored : JsString) (w : SegmentRun) :
    Prop where
  closing : Ensures (LeavesSegment epoch stored)
    (fun _ checkpoint t => Sealed P epoch stored checkpoint t) w.issued w.closing w.db
  inserts : ∀ program ∈ w.inserts, Changes EventWrites program

theorem start_inv (hc : db.Constrained) (close : CloseCall) (calls : List EventCall)
    (hs : P.segmentParameters close.epochStartMs close.shard = .ok (epoch, stored)) :
    (start P db close calls).Inv P epoch stored where
  closing := closeEpoch_ensures hc close hs
  inserts := by
    intro program hp
    obtain ⟨call, -, rfl⟩ := List.mem_map.mp hp
    exact insertEvent_writes P call

theorem step_inv (h : w.Inv P epoch stored) (action : SegmentAction)
    (hg : w.Guard epoch stored action) : (w.step action).Inv P epoch stored := by
  cases action with
  | tick now =>
    exact ⟨h.closing.disturbed LeavesSegment.trans
      ⟨rfl, fun hc => ⟨hc.hashes, hc.primary⟩, fun _ => rfl⟩, h.inserts⟩
  | close =>
    rw [step]
    cases hclosing : w.closing with
    | done result => exact h
    | statement effect next =>
      exact ⟨(hclosing ▸ h.closing).stepped LeavesSegment.refl, h.inserts⟩
  | insert i =>
    rw [Guard, step] at hg
    rw [step]
    cases hi : w.inserts[i]? with
    | none => exact h
    | some program =>
      rw [hi] at hg
      obtain ⟨hwrites, hchanges⟩ :=
        (h.inserts program (List.mem_of_getElem? hi)).step (fun _ => ⟨rfl, id⟩) w.db
      refine ⟨h.closing.disturbed LeavesSegment.trans
        ⟨hwrites.checkpoints, hwrites.constrained, hg⟩, ?_⟩
      intro other ho
      rcases List.mem_or_eq_of_mem_set ho with ho | rfl
      · exact h.inserts other ho
      · exact hchanges

theorem closed_done (h : w.closed = some checkpoint) : w.closing = .done (.ok checkpoint) := by
  unfold closed at h
  split at h
  · next hdone =>
    rw [hdone, Option.some.inj h]
  · cases h

/-- A closing that returns commits to every event row of its segment, and every row is proved, in
every run in which no event row enters the segment once the closing has read its events. -/
theorem closed_segment_kept (P : PostgresRepository) (db : Database) (hc : db.Constrained)
    (close : CloseCall) (calls : List EventCall) (actions : List SegmentAction)
    (hs : P.segmentParameters close.epochStartMs close.shard = .ok (epoch, stored))
    (hg : Guarded step (Guard epoch stored) (start P db close calls) actions) :
    let w := Frames.run step (start P db close calls) actions
    ∀ checkpoint, w.closed = some checkpoint → SegmentKept P w.db epoch stored checkpoint := by
  intro w checkpoint hclosed
  have hinv : w.Inv P epoch stored :=
    run_guarded (fun w action ha hw => step_inv hw action ha) hg (start_inv hc close calls hs)
  have hclosing := hinv.closing
  rw [closed_done hclosed] at hclosing
  exact (ensures_ok.mp hclosing w.db (LeavesSegment.refl _ _)).kept

theorem insert_issued (w : SegmentRun) (i : Nat) : (w.step (.insert i)).issued = w.issued := by
  rw [step]
  split <;> rfl

/-- Inserts that come before the closing has read the events are within the guard. -/
theorem guarded_early (h : w.issued < readAt) (hrest : Guarded step (Guard epoch stored)
    (w.step (.insert i)) actions) : Guarded step (Guard epoch stored) w (.insert i :: actions) :=
  ⟨fun hread => absurd hread (Nat.not_le.mpr h), hrest⟩

theorem guarded_closes (w : SegmentRun) (n : Nat) :
    Guarded step (Guard epoch stored) w (List.replicate n .close) := by
  induction n generalizing w with
  | zero => trivial
  | succ n ih => exact ⟨trivial, ih _⟩

end SegmentRun

section Sample

def sampleRepository : PostgresRepository :=
  samplePostgres (recorded signedDigests [] fun _ => List.replicate 32 255)

def sampleEventCall : EventCall := ⟨sampleEnvelope, js "did:tsl:relay", .ofNat 1779667200000⟩

def sampleClose : CloseCall where
  epochStartMs := .ofNat 1779667200000
  shard := shardForTrustID sampleRepository.noble sampleEnvelope.sender
  epochDurationMs := .ofNat 300000
  relayId := js "did:tsl:relay"
  relaySignature := js "0x00"
  settlementBackend := none

def closingRun : SegmentRun :=
  .start sampleRepository emptyDatabase sampleClose [sampleEventCall]

/-- An event is inserted, and then its segment is closed. -/
def insertedThenClosed : List SegmentAction :=
  .insert 0 :: .insert 0 :: List.replicate 22 .close

theorem emptyDatabase_constrained : emptyDatabase.Constrained := ⟨nofun, List.nodup_nil⟩

theorem closed_segment_kept_sample : ∃ checkpoint,
    (Frames.run SegmentRun.step closingRun insertedThenClosed).closed = some checkpoint ∧
      SegmentKept sampleRepository (Frames.run SegmentRun.step closingRun insertedThenClosed).db
        1779667200000 sampleClose.shard checkpoint := by
  have hclosed :
      (Frames.run SegmentRun.step closingRun insertedThenClosed).closed.isSome = true := by
    decide +kernel
  obtain ⟨checkpoint, hcheckpoint⟩ := Option.isSome_iff_exists.mp hclosed
  refine ⟨checkpoint, hcheckpoint, ?_⟩
  refine SegmentRun.closed_segment_kept sampleRepository emptyDatabase emptyDatabase_constrained
    sampleClose [sampleEventCall] insertedThenClosed (by decide +kernel) ?_ checkpoint hcheckpoint
  apply SegmentRun.guarded_early (by decide)
  apply SegmentRun.guarded_early (by rw [SegmentRun.insert_issued]; decide)
  exact SegmentRun.guarded_closes _ 22

end Sample

end Continuity

import Continuity.CheckpointChain
import Continuity.CheckpointIdentity
import Continuity.DurableLogs
import Continuity.Frames
import Continuity.GuidedLoops

namespace Continuity
open Chains Frames GuidedLoops Statements Program
set_option autoImplicit true

section Columns

theorem sqlText_ok : sqlText s = .ok t ↔ 0 ∉ s ∧ (scalarValues s).flatMap scalarUnits = t := by
  unfold sqlText
  split
  · next h =>
    constructor
    · intro he
      cases he
    · exact fun he => absurd h he.1
  · next h =>
    constructor
    · intro he
      cases he
      exact ⟨h, rfl⟩
    · rintro ⟨-, rfl⟩
      rfl

/-- A text without lone surrogates is kept as it is. -/
theorem sqlText_kept (hw : WellFormed s) (h : sqlText s = .ok t) : t = s := by
  obtain ⟨-, rfl⟩ := sqlText_ok.mp h
  exact scalarUnits_scalarValues hw

/-- A unit as it is kept, a lone surrogate as the replacement character. -/
theorem scalarUnits_kept (u : UInt16) :
    scalarUnits (if isSurrogate u then 0xFFFD else u.toNat) =
      [if isSurrogate u then 0xFFFD else u] := by
  split
  · rfl
  · exact scalarUnits_unit u

theorem kept_not_surrogate (u : UInt16) :
    isSurrogate (if isSurrogate u then 0xFFFD else u) = false := by
  split
  · rfl
  · next h => exact Bool.eq_false_iff.mpr h

theorem scalarUnits_wellFormed (s : JsString) :
    WellFormed ((scalarValues s).flatMap scalarUnits) := by
  induction s using scalarValues.induct with
  | case1 => trivial
  | case2 u =>
    rw [scalarValues, List.flatMap_singleton, scalarUnits_kept]
    exact kept_not_surrogate u
  | case3 u v rest hp ih =>
    have hpair := Bool.and_eq_true_iff.mp hp
    rw [scalarValues, if_pos hp, List.flatMap_cons, scalarUnits_pair hpair.1 hpair.2]
    exact .pair hpair.1 hpair.2 ih
  | case4 u v rest hp ih =>
    rw [scalarValues, if_neg hp, List.flatMap_cons, scalarUnits_kept]
    exact .cons_of_not_surrogate (kept_not_surrogate u) ih

theorem scalarUnits_nonzero (s : JsString) (h : 0 ∉ s) :
    0 ∉ (scalarValues s).flatMap scalarUnits := by
  have hkept (u : UInt16) (hu : u ≠ 0) : (0 : UInt16) ≠ if isSurrogate u then 0xFFFD else u := by
    split
    · decide
    · exact hu.symm
  induction s using scalarValues.induct with
  | case1 => exact List.not_mem_nil
  | case2 u =>
    rw [scalarValues, List.flatMap_singleton, scalarUnits_kept, List.mem_singleton]
    exact hkept u fun hu => h (hu ▸ List.mem_cons_self)
  | case3 u v rest hp ih =>
    have hpair := Bool.and_eq_true_iff.mp hp
    rw [scalarValues, if_pos hp, List.flatMap_cons, scalarUnits_pair hpair.1 hpair.2]
    simp only [List.mem_cons, not_or, List.cons_append, List.nil_append] at h ⊢
    exact ⟨h.1, h.2.1, ih h.2.2⟩
  | case4 u v rest hp ih =>
    rw [scalarValues, if_neg hp, List.flatMap_cons, scalarUnits_kept]
    rw [List.mem_cons, not_or] at h
    rw [List.singleton_append, List.mem_cons, not_or]
    exact ⟨hkept u (Ne.symm h.1), ih h.2⟩

/-- What a column keeps of a text it keeps as it is. -/
theorem sqlText_again (h : sqlText s = .ok t) : sqlText t = .ok t := by
  obtain ⟨hz, rfl⟩ := sqlText_ok.mp h
  exact sqlText_ok.mpr
    ⟨scalarUnits_nonzero s hz, scalarUnits_scalarValues (scalarUnits_wellFormed s)⟩

theorem sqlOptional_kept {s t : Option JsString} (hw : ∀ text ∈ s, WellFormed text)
    (h : sqlOptional s = .ok t) : t = s := by
  cases s with
  | none =>
    cases h
    rfl
  | some text =>
    obtain ⟨stored, hs, rfl⟩ := map_eq_ok.mp h
    rw [sqlText_kept (hw text rfl) hs]

/-- A text of units below the surrogates is well formed. -/
theorem wellFormed_below {s : JsString} (h : ∀ u ∈ s, u.toNat < 0xD800) : WellFormed s := by
  have hunits : ∀ u ∈ s, isSurrogate u = false := by
    intro u hu
    have hlow := h u hu
    simp only [isSurrogate, Bool.and_eq_false_iff, decide_eq_false_iff_not]
    omega
  have happend := WellFormed.append hunits (show WellFormed [] from trivial)
  rwa [List.append_nil] at happend

theorem bytesToHex_wellFormed (bytes : Bytes) : WellFormed (bytesToHex bytes) := by
  apply wellFormed_below
  intro u hu
  rcases List.mem_cons.mp hu with rfl | hu
  · decide
  rcases List.mem_cons.mp hu with rfl | hu
  · decide
  have hdigit := List.all_eq_true.mp (hexDigits_all bytes) u hu
  simp only [isHexDigit, Bool.or_eq_true, Bool.and_eq_true, decide_eq_true_eq,
    UInt16.le_iff_toNat_le] at hdigit
  have hbound : u.toNat ≤ 102 := by
    rcases hdigit with (⟨-, h⟩ | ⟨-, h⟩) | ⟨-, h⟩
    · exact h.trans (by decide)
    · exact h
    · exact h.trans (by decide)
  omega

theorem sqlBigint_ofInt (H : Host) (hs : (JsNumber.ofInt z).isSafeInteger = true) :
    sqlBigint H (.ofInt z) = .ok z := by
  rw [sqlBigint, if_pos hs, JsNumber.toInt?_ofInt]
  rfl

/-- A safe integer comes back from its column. -/
theorem bigintNumber_safe (hs : (JsNumber.ofInt z).isSafeInteger = true) :
    bigintNumber z = .ofInt z := by
  have hz : z.natAbs < 2 ^ 53 := by simpa [JsNumber.isSafeInteger] using hs
  rw [bigintNumber]
  rcases Nat.eq_zero_or_pos z.natAbs with h0 | hpos
  · obtain rfl : z = 0 := Int.natAbs_eq_zero.mp h0
    rfl
  · rw [nearest_natCast _ hpos hz, JsNumber.ofInt]
    congr 1
    rcases lt_or_ge z 0 with hneg | hnonneg
    · have hz : z = -(z.natAbs : Int) := by omega
      rw [if_pos (decide_eq_true hneg)]
      conv_rhs => rw [hz]
      rw [Int.cast_neg, Int.cast_natCast]
    · have hz : z = (z.natAbs : Int) := by omega
      rw [if_neg (by simpa using hnonneg)]
      conv_rhs => rw [hz]
      rw [Int.cast_natCast]

/-- A number with a canonical text is kept by a `BIGINT` column. -/
theorem sqlBigint_kept (hn : Encodable (.num n)) (h : sqlBigint H n = .ok z) :
    bigintNumber z = n := by
  obtain ⟨k, rfl⟩ := JsNumber.eq_ofInt hn.1 hn.2
  rw [sqlBigint_ofInt H hn.1] at h
  cases h
  exact bigintNumber_safe hn.1

end Columns

section Neighbours

variable {db : Database} {row : CheckpointRow}

/-- The last checkpoint of a shard before an epoch. -/
theorem checkpointsBefore_head (h : (db.checkpointsBefore shard epoch).head? = some row) :
    row ∈ db.checkpoints ∧ row.shard = shard ∧ row.epoch_start_ms < epoch ∧
      ∀ other ∈ db.checkpoints, other.shard = shard → other.epoch_start_ms < epoch →
        other.epoch_start_ms ≤ row.epoch_start_ms := by
  have : Std.Total fun a b : CheckpointRow => b.epoch_start_ms ≤ a.epoch_start_ms :=
    ⟨fun a b => le_total b.epoch_start_ms a.epoch_start_ms⟩
  have : IsTrans CheckpointRow fun a b => b.epoch_start_ms ≤ a.epoch_start_ms :=
    ⟨fun _ _ _ hab hbc => le_trans hbc hab⟩
  obtain ⟨hmem, hbefore⟩ := first_of_head h
  simp only [List.mem_filter, Bool.and_eq_true, beq_iff_eq, decide_eq_true_eq] at hmem hbefore
  exact ⟨hmem.1, hmem.2.1, hmem.2.2, fun other ho hs he => hbefore other ⟨ho, hs, he⟩⟩

theorem checkpointsBefore_none (h : (db.checkpointsBefore shard epoch).head? = none) :
    ∀ other ∈ db.checkpoints, other.shard = shard → ¬other.epoch_start_ms < epoch := by
  intro other ho hs he
  rw [List.head?_eq_none_iff] at h
  have hmem : other ∈ db.checkpointsBefore shard epoch := by
    rw [Database.checkpointsBefore, List.mem_insertionSort]
    simp [ho, hs, he]
  rw [h] at hmem
  cases hmem

/-- The first checkpoint of a shard after an epoch. -/
theorem checkpointsAfter_head (hmem : row ∈ db.checkpoints) (hs : row.shard = shard)
    (he : epoch < row.epoch_start_ms)
    (hfirst : ∀ other ∈ db.checkpoints, other.shard = shard → epoch < other.epoch_start_ms →
      row.epoch_start_ms ≤ other.epoch_start_ms)
    (hu : ∀ other ∈ db.checkpoints, other.shard = shard →
      other.epoch_start_ms = row.epoch_start_ms → other = row) :
    (db.checkpointsAfter shard epoch).head? = some row := by
  have : Std.Total fun a b : CheckpointRow => a.epoch_start_ms ≤ b.epoch_start_ms :=
    ⟨fun a b => le_total a.epoch_start_ms b.epoch_start_ms⟩
  have : IsTrans CheckpointRow fun a b => a.epoch_start_ms ≤ b.epoch_start_ms :=
    ⟨fun _ _ _ => le_trans⟩
  have hrow : row ∈ db.checkpointsAfter shard epoch := by
    rw [Database.checkpointsAfter, List.mem_insertionSort]
    simp [hmem, hs, he]
  cases hhead : (db.checkpointsAfter shard epoch).head? with
  | none =>
    rw [List.head?_eq_none_iff] at hhead
    rw [hhead] at hrow
    cases hrow
  | some first =>
    obtain ⟨hm, hbefore⟩ := first_of_head hhead
    simp only [List.mem_filter, Bool.and_eq_true, beq_iff_eq, decide_eq_true_eq] at hm hbefore
    have hle := hbefore row ⟨hmem, hs, he⟩
    rw [hu first hm.1 hm.2.1 (le_antisymm hle (hfirst first hm.1 hm.2.1 hm.2.2))]

end Neighbours

/-- The texts that the hash of a checkpoint covers. -/
def BatchCheckpointV1.coveredTexts (c : BatchCheckpointV1) : List JsString :=
  [c.shard, c.event_root, c.receipt_root, c.attestation_root, c.revocation_root,
    c.previous_checkpoint, c.relay_id] ++ c.settlement_backend.toList

/-- A row stands for the checkpoint whose hash it carries. -/
structure CheckpointRow.Sound (N : Noble) (row : CheckpointRow) : Prop where
  hashed : checkpointHash N row.decode = .ok row.checkpoint_hash
  epoch : bigintNumber row.epoch_start_ms = .ofInt row.epoch_start_ms
  safe : (JsNumber.ofInt row.epoch_start_ms).isSafeInteger = true
  shard : sqlText row.shard = .ok row.shard

namespace CheckpointRow

variable {N : Noble} {row : CheckpointRow}

/-- The link of the checkpoint that a row stands for. -/
theorem Sound.link (h : row.Sound N) : checkpointLink N row.decode =
    ⟨row.epoch_start_ms, row.checkpoint_hash, row.previous_checkpoint⟩ := by
  rw [checkpointLink, h.hashed]
  have hkey : row.decode.epoch_start_ms = .ofInt row.epoch_start_ms := h.epoch
  rw [hkey, JsNumber.toInt?_ofInt]
  rfl

/-- Settling a row leaves what it stands for. -/
theorem Sound.settled (h : row.Sound N) (settlement_tx : Option JsString)
    (settlement_status : JsString) : { row with settlement_tx, settlement_status }.Sound N where
  hashed := (checkpointHash_rewritten N row.decode row.relay_signature settlement_tx none).trans
    h.hashed
  epoch := h.epoch
  safe := h.safe
  shard := h.shard

end CheckpointRow

section Rows

variable {P : PostgresRepository} {c : BatchCheckpointV1} {hash : Hex32}

/-- The row of a checkpoint whose texts are well formed gives the checkpoint back. -/
theorem checkpointRow_decode (hh : checkpointHash P.noble c = .ok hash)
    (hw : ∀ text ∈ c.coveredTexts, WellFormed text) (h : P.checkpointRow c hash status = .ok row) :
    row.Sound P.noble ∧ row.checkpoint_hash = hash ∧ row.shard = c.shard ∧
      row.previous_checkpoint = c.previous_checkpoint ∧
      c.epoch_start_ms = .ofInt row.epoch_start_ms := by
  obtain ⟨he, hd, hevents, hreceipts⟩ := (checkpointHash_defined_iff P.noble c).mp ⟨hash, hh⟩
  have hhex : WellFormed hash := by
    obtain ⟨bytes, rfl⟩ := checkpointHash_hex hh
    exact bytesToHex_wellFormed bytes
  simp only [BatchCheckpointV1.coveredTexts, List.forall_mem_append, List.forall_mem_cons,
    Option.mem_toList] at hw
  obtain ⟨⟨hshard, hevent, hreceipt, hattestation, hrevocation, hprevious, hrelay, -⟩,
    hbackend⟩ := hw
  simp only [PostgresRepository.checkpointRow, PostgresRepository.segmentParameters,
    bind_eq_ok] at h
  obtain ⟨stored, hs, _, ⟨epoch, hepoch, shard, hsh, hpair⟩, duration, hduration, event_root, hev,
    receipt_root, hre, attestation_root, hat, revocation_root, hrev, event_count, hec,
    receipt_count, hrc, previous, hpr, relay_id, hrl, signature, -, backend, hb, tx, -, settled, -,
    h⟩ := h
  cases hpair
  cases h
  obtain ⟨z, hz⟩ := JsNumber.eq_ofInt he.1 he.2
  have hkey : epoch = z := by
    rw [hz, sqlBigint_ofInt _ (hz ▸ he.1)] at hepoch
    exact (Except.ok.inj hepoch).symm
  subst hkey
  have hdecode : CheckpointRow.decode ⟨stored, epoch, duration, shard, event_root, receipt_root,
      attestation_root, revocation_root, event_count, receipt_count, previous, relay_id, signature,
      backend, tx, settled⟩ =
      { c with
        relay_signature := signature, settlement_tx := tx,
        checkpoint_identity_hash := none } := by
    simp only [CheckpointRow.decode, sqlBigint_kept he hepoch, sqlBigint_kept hd hduration,
      sqlBigint_kept hevents hec, sqlBigint_kept hreceipts hrc, sqlText_kept hshard hsh,
      sqlText_kept hevent hev, sqlText_kept hreceipt hre, sqlText_kept hattestation hat,
      sqlText_kept hrevocation hrev, sqlText_kept hprevious hpr, sqlText_kept hrelay hrl,
      sqlOptional_kept hbackend hb]
  refine ⟨⟨?_, ?_, hz ▸ he.1, ?_⟩, sqlText_kept hhex hs, sqlText_kept hshard hsh,
    sqlText_kept hprevious hpr, hz⟩
  · rw [hdecode, checkpointHash_rewritten, hh, sqlText_kept hhex hs]
  · exact bigintNumber_safe (hz ▸ he.1)
  · exact sqlText_again hsh

end Rows

section Calls

variable {P : PostgresRepository} {db db' : Database} {c : BatchCheckpointV1} {hash : Hex32}

theorem checkpointRow_segment (h : P.checkpointRow c hash status = .ok row) :
    P.segmentParameters c.epoch_start_ms c.shard = .ok (row.epoch_start_ms, row.shard) := by
  simp only [PostgresRepository.checkpointRow, bind_eq_ok] at h
  obtain ⟨_, -, ⟨epoch, shard⟩, hsegment, _, -, _, -, _, -, _, -, _, -, _, -, _, -, _, -, _, -,
    _, -, _, -, _, -, _, -, h⟩ := h
  cases h
  exact hsegment

/-- The rows of a segment are settled. -/
def Database.settleAt (db : Database) (epoch : Int) (shard : JsString)
    (settlement_tx : Option JsString) : Database :=
  { db with checkpoints := db.checkpoints.map fun row =>
    if row.epoch_start_ms == epoch && row.shard == shard then
      { row with settlement_tx, settlement_status := js "settled" }
    else row }

theorem markCheckpointSettled_ok (h : (P.markCheckpointSettled c).run db = (.ok (), db')) :
    ∃ epoch shard tx, db' = db.settleAt epoch shard tx := by
  obtain ⟨existing, t, hget, h⟩ := run_bind_ok.mp h
  obtain ⟨found, -, hdone⟩ := run_select_bind_ok.mp hget
  cases hdone
  split at h
  · cases h
  · obtain ⟨stored, -, h⟩ := run_lift_bind_ok.mp h
    obtain ⟨given, -, h⟩ := run_lift_bind_ok.mp h
    split at h
    · cases h
    · obtain ⟨⟨epoch, shard⟩, -, hu⟩ := bind_eq_ok.mp (run_execute_ok.mp h)
      obtain ⟨tx, -, hu⟩ := bind_eq_ok.mp hu
      cases hu
      exact ⟨epoch, shard, tx, rfl⟩

theorem markCheckpointSettled_allOrNothing (P : PostgresRepository) (c : BatchCheckpointV1) :
    AllOrNothing (P.markCheckpointSettled c) := by
  unfold PostgresRepository.markCheckpointSettled PostgresRepository.getCheckpoint
  rw [bind_assoc]
  refine AllOrNothing.select_bind fun found => ?_
  rw [pure_eq, done_ok_bind]
  split
  · exact .done _
  · refine AllOrNothing.lift_bind fun stored _ => AllOrNothing.lift_bind fun given _ => ?_
    split
    · exact .done _
    · intro s e t h
      rw [execute, run_query] at h
      split at h
      · cases h
      · cases h
        rfl

/-- What a call that returns has done: its checkpoint stands between its neighbours now, or it stood
there already and is settled at most. -/
theorem insertCheckpoint_ok (h : (P.insertCheckpoint c status).run db = (.ok hash, db')) :
    checkpointHash P.noble c = .ok hash ∧
      ((∃ row, P.checkpointRow c hash status = .ok row ∧
        db.checkpointAt row.epoch_start_ms row.shard = none ∧
        c.previous_checkpoint = ((db.checkpointsBefore row.shard row.epoch_start_ms).head?.map
          CheckpointRow.checkpoint_hash).getD ZERO_HASH ∧
        (∀ next, (db.checkpointsAfter row.shard row.epoch_start_ms).head? = some next →
          next.previous_checkpoint ≠ [] → next.previous_checkpoint = hash) ∧
        db' = { db with checkpoints := db.checkpoints ++ [row] }) ∨
      db' = db ∨ ∃ epoch shard tx, db' = db.settleAt epoch shard tx) := by
  obtain ⟨hash', hh, h⟩ := run_lift_bind_ok.mp h
  obtain ⟨previous, hprevious, h⟩ := run_select_bind_ok.mp h
  split at h
  · cases h
  next hbefore =>
  obtain ⟨next, hnext, h⟩ := run_select_bind_ok.mp h
  split at h
  · cases h
  next hafter =>
  obtain ⟨rowCount, t, hinsert, h⟩ := run_bind_ok.mp h
  obtain ⟨row, hrow, hinsert⟩ := bind_eq_ok.mp (run_query_ok.mp hinsert)
  obtain ⟨⟨epoch, shard⟩, hsegment, hprevious⟩ := bind_eq_ok.mp hprevious
  obtain ⟨⟨_, _⟩, hsegment', hnext⟩ := bind_eq_ok.mp hnext
  cases hsegment.symm.trans hsegment'
  cases hsegment.symm.trans (checkpointRow_segment hrow)
  cases hprevious
  cases hnext
  unfold Database.insertCheckpointRow at hinsert
  split at hinsert
  · cases hinsert
  split at hinsert
  · cases hinsert
    rw [beq_self_eq_true, if_pos rfl] at h
    obtain ⟨existing, -, h⟩ := run_select_bind_ok.mp h
    split at h
    · cases h
    · split at h
      · obtain ⟨_, u, hsettle, h⟩ := run_bind_ok.mp h
        cases h
        exact ⟨hh, .inr (.inr (markCheckpointSettled_ok hsettle))⟩
      · cases h
        exact ⟨hh, .inr (.inl rfl)⟩
  next hfree =>
  split at hinsert
  · cases hinsert
  · cases hinsert
    rw [if_neg (by decide)] at h
    cases h
    refine ⟨hh, .inl ⟨row, hrow, ?_, ?_, ?_, rfl⟩⟩
    · simpa using hfree
    · simpa using hbefore
    · intro next hn hne
      have hnamed : truthy (some next.previous_checkpoint) = true := truthy_iff.mpr ⟨_, rfl, hne⟩
      rw [hn, Option.map_some, hnamed] at hafter
      simpa using hafter

theorem insertCheckpoint_allOrNothing (P : PostgresRepository) (c : BatchCheckpointV1)
    (status : JsString) : AllOrNothing (P.insertCheckpoint c status) := by
  refine AllOrNothing.lift_bind fun hash _ => AllOrNothing.select_bind fun previous => ?_
  split
  · exact .done _
  refine AllOrNothing.select_bind fun next => ?_
  split
  · exact .done _
  refine AllOrNothing.query_bind ?_
  intro s rowCount t hinsert e u h
  obtain ⟨row, -, hinsert⟩ := bind_eq_ok.mp hinsert
  unfold Database.insertCheckpointRow at hinsert
  split at hinsert
  · cases hinsert
  split at hinsert
  · cases hinsert
    rw [beq_self_eq_true, if_pos rfl] at h
    refine AllOrNothing.select_bind (fun existing => ?_) _ _ _ h
    split
    · exact .done _
    · split
      · exact (markCheckpointSettled_allOrNothing P c).bind_pure _
      · exact .done _
  split at hinsert
  · cases hinsert
  · cases hinsert
    cases h

end Calls

/-- The checkpoints that the table holds of a shard. -/
def Database.stored (db : Database) (shard : JsString) : List BatchCheckpointV1 :=
  (db.checkpoints.filter fun row => row.shard == shard).map CheckpointRow.decode

/-- Every row stands for its checkpoint, and those of each shard are chained. -/
structure Database.Sound (N : Noble) (db : Database) : Prop where
  rows : ∀ row ∈ db.checkpoints, row.Sound N
  chained : ∀ shard, Chained N (db.stored shard)

namespace Database

variable {N : Noble} {db : Database} {row other : CheckpointRow}

theorem mem_stored : c ∈ db.stored shard ↔
    ∃ row ∈ db.checkpoints, row.shard = shard ∧ row.decode = c := by
  simp [stored, and_assoc]

namespace Sound

theorem epochs (h : db.Sound N) (shard : JsString) :
    ((db.checkpoints.filter fun row => row.shard == shard).map
      CheckpointRow.epoch_start_ms).Nodup := by
  have hn := (h.chained shard).epochs
  rw [stored, List.map_map] at hn
  refine (List.map_congr_left fun row hr => ?_) ▸ hn
  have hlink := (h.rows row (List.mem_of_mem_filter hr)).link
  rw [Function.comp, hlink]

theorem unique (h : db.Sound N) (hr : row ∈ db.checkpoints) (ho : other ∈ db.checkpoints)
    (hs : other.shard = row.shard) (he : other.epoch_start_ms = row.epoch_start_ms) :
    other = row := by
  apply List.inj_on_of_nodup_map (h.epochs row.shard) _ _ he
  · simp [ho, hs]
  · simp [hr]

/-- A row names a digest, never the empty text. -/
theorem previous_ne (h : db.Sound N) (hr : row ∈ db.checkpoints) :
    row.previous_checkpoint ≠ [] := by
  have hlink := (h.rows row hr).link
  have hmem : checkpointLink N row.decode ∈ checkpointLinks N (db.stored row.shard) :=
    List.mem_map_of_mem (mem_stored.mpr ⟨row, hr, rfl, rfl⟩)
  have hlast := (h.chained row.shard).linked _ hmem
  rw [hlink] at hlast
  rcases hlast with ⟨a, ha, -, -, hd⟩ | ⟨-, hd⟩
  · obtain ⟨c, hc, rfl⟩ := List.mem_map.mp ha
    obtain ⟨before, hb, -, rfl⟩ := mem_stored.mp hc
    obtain ⟨bytes, hhex⟩ := checkpointHash_hex (h.rows before hb).hashed
    rw [(h.rows before hb).link] at hd
    change row.previous_checkpoint = before.checkpoint_hash at hd
    rw [hd, hhex]
    exact bytesToHex_ne_nil bytes
  · change row.previous_checkpoint = ZERO_HASH at hd
    rw [hd]
    decide

/-- A row that fits between its neighbours. -/
theorem insert (h : db.Sound N) (hrow : row.Sound N)
    (hfree : db.checkpointAt row.epoch_start_ms row.shard = none)
    (hbefore : row.previous_checkpoint =
      ((db.checkpointsBefore row.shard row.epoch_start_ms).head?.map
        CheckpointRow.checkpoint_hash).getD ZERO_HASH)
    (hafter : ∀ next, (db.checkpointsAfter row.shard row.epoch_start_ms).head? = some next →
      next.previous_checkpoint ≠ [] → next.previous_checkpoint = row.checkpoint_hash) :
    { db with checkpoints := db.checkpoints ++ [row] }.Sound N where
  rows r hr := by
    rcases List.mem_append.mp hr with hr | hr
    · exact h.rows r hr
    · rw [List.mem_singleton.mp hr]
      exact hrow
  chained shard := by
    by_cases hs : row.shard = shard
    swap
    · have hsame : { db with checkpoints := db.checkpoints ++ [row] }.stored shard =
          db.stored shard := by
        simp [stored, List.filter_append, hs]
      rw [hsame]
      exact h.chained shard
    subst hs
    have hmore : { db with checkpoints := db.checkpoints ++ [row] }.stored row.shard =
        db.stored row.shard ++ [row.decode] := by
      simp [stored, List.filter_append]
    have hkey (r : CheckpointRow) (hr : r.Sound N) :
        (checkpointLink N r.decode).key = r.epoch_start_ms := by rw [hr.link]
    have hfresh : ∀ r ∈ db.checkpoints, r.shard = row.shard →
        r.epoch_start_ms ≠ row.epoch_start_ms := by
      intro r hr hshard he
      have hnone := List.find?_eq_none.mp hfree r hr
      simp [hshard, he] at hnone
    rw [hmore]
    refine (h.chained row.shard).append ⟨_, hrow.hashed⟩ ?_ ?_ ?_
    · rw [hkey row hrow]
      cases hhead : (db.checkpointsBefore row.shard row.epoch_start_ms).head? with
      | none =>
        rw [hhead] at hbefore
        refine .inr ⟨?_, hbefore⟩
        intro link hl
        obtain ⟨c, hc, rfl⟩ := List.mem_map.mp hl
        obtain ⟨r, hr, hshard, rfl⟩ := mem_stored.mp hc
        rw [hkey r (h.rows r hr)]
        exact checkpointsBefore_none hhead r hr hshard
      | some last =>
        rw [hhead] at hbefore
        obtain ⟨hm, hshard, hlt, hmax⟩ := checkpointsBefore_head hhead
        have hlink := (h.rows last hm).link
        refine .inl ⟨checkpointLink N last.decode,
          List.mem_map_of_mem (mem_stored.mpr ⟨last, hm, hshard, rfl⟩), ?_, ?_, ?_⟩
        · rw [hlink]
          exact hlt
        · intro link hl hlt'
          obtain ⟨c, hc, rfl⟩ := List.mem_map.mp hl
          obtain ⟨r, hr, hrs, rfl⟩ := mem_stored.mp hc
          rw [hkey r (h.rows r hr)] at hlt' ⊢
          rw [hlink]
          exact hmax r hr hrs hlt'
        · rw [hlink]
          exact hbefore
    · intro next hn hlt hleast
      obtain ⟨r, hr, hshard, rfl⟩ := mem_stored.mp hn
      rw [hkey row hrow, hkey r (h.rows r hr)] at hlt
      have hhead := checkpointsAfter_head hr hshard hlt
        (fun other ho hos hlt' => by
          have hle := hleast other.decode (mem_stored.mpr ⟨other, ho, hos, rfl⟩)
          rw [hkey row hrow, hkey r (h.rows r hr), hkey other (h.rows other ho)] at hle
          exact hle hlt')
        fun other ho hos he => h.unique hr ho (hos.trans hshard.symm) he
      rw [hrow.link]
      exact hafter r hhead (h.previous_ne hr)
    · intro c hc
      obtain ⟨r, hr, hshard, rfl⟩ := mem_stored.mp hc
      rw [hkey row hrow, hkey r (h.rows r hr)]
      exact hfresh r hr hshard

/-- Settling a segment changes no link. -/
theorem settle (h : db.Sound N) (epoch : Int) (shard : JsString) (tx : Option JsString) :
    (db.settleAt epoch shard tx).Sound N := by
  have hrows : ∀ row ∈ (db.settleAt epoch shard tx).checkpoints, row.Sound N := by
    intro row hr
    obtain ⟨r, hm, rfl⟩ := List.mem_map.mp hr
    split
    · exact (h.rows r hm).settled tx _
    · exact h.rows r hm
  refine ⟨hrows, fun s => (h.chained s).congr ?_ ?_⟩
  · rw [stored, stored, settleAt, List.filter_map, List.map_map, List.map_map, List.map_map]
    have hfilter : ((fun row : CheckpointRow => row.shard == s) ∘ fun row =>
        if row.epoch_start_ms == epoch && row.shard == shard then
          { row with settlement_tx := tx, settlement_status := js "settled" }
        else row) = fun row => row.shard == s := by
      funext row
      rw [Function.comp]
      split <;> rfl
    rw [hfilter]
    apply List.map_congr_left
    intro row hr
    have hsound := h.rows row (List.mem_of_mem_filter hr)
    rw [Function.comp, Function.comp, Function.comp]
    split
    · rw [(hsound.settled tx _).link, hsound.link]
    · rfl
  · intro c hc
    obtain ⟨row, hr, -, rfl⟩ := mem_stored.mp hc
    exact ⟨_, (hrows row hr).hashed⟩

end Sound

end Database

/-- A call that may change a checkpoint of the table. -/
inductive TableCall where
  | insert (checkpoint : BatchCheckpointV1) (status : JsString)
  | settle (checkpoint : BatchCheckpointV1)

/-- The checkpoint to insert has no lone surrogate in the texts that its hash covers. -/
def TableCall.WellFormed : TableCall → Prop
  | insert checkpoint _ => ∀ text ∈ checkpoint.coveredTexts, Continuity.WellFormed text
  | settle _ => True

namespace PostgresRepository

variable (P : PostgresRepository)

/-- A call with no other in between. -/
def call (db : Database) : TableCall → Js Unit × Database
  | .insert checkpoint status =>
    let (result, db') := (P.insertCheckpoint checkpoint status).run db
    ((fun _ => ()) <$> result, db')
  | .settle checkpoint => (P.markCheckpointSettled checkpoint).run db

/-- The table after a call. -/
def afterCall (db : Database) (call : TableCall) : Database := (P.call db call).2

/-- The checkpoints of each shard are a hash chain, and are read and proved as such. -/
structure ChainedTable (db : Database) : Prop where
  unique : (db.checkpoints.map fun row => (row.shard, row.epoch_start_ms)).Nodup
  chain : ∀ shard, ChainFrom ZERO_HASH ((byEpoch (db.stored shard)).map (checkpointLink P.noble))
  readable : ∀ row ∈ db.checkpoints, ∃ checkpoint,
    (P.getCheckpoint (bigintNumber row.epoch_start_ms) row.shard).run db =
      (.ok (some checkpoint), db) ∧ checkpointHash P.noble checkpoint = .ok row.checkpoint_hash
  consistent : ∀ epochStartMs shard epoch stored,
    P.segmentParameters epochStartMs shard = .ok (epoch, stored) →
    2 ≤ (db.checkpointsUpTo stored epoch).length → ∃ proof,
      (P.buildConsistencyProofFor epochStartMs shard).run db = (.ok (some proof), db) ∧
        verifyConsistencyProof proof = true

end PostgresRepository

section Tables

variable {P : PostgresRepository} {db db' : Database}

theorem afterCall_sound (h : db.Sound P.noble) (call : TableCall) (hw : call.WellFormed) :
    (P.afterCall db call).Sound P.noble := by
  cases call with
  | settle checkpoint =>
    rw [PostgresRepository.afterCall, PostgresRepository.call]
    rcases hrun : (P.markCheckpointSettled checkpoint).run db with ⟨result, t⟩
    cases result with
    | error e => exact (markCheckpointSettled_allOrNothing P checkpoint _ _ _ hrun) ▸ h
    | ok _ =>
      obtain ⟨epoch, shard, tx, rfl⟩ := markCheckpointSettled_ok hrun
      exact h.settle epoch shard tx
  | insert checkpoint status =>
    rw [PostgresRepository.afterCall, PostgresRepository.call]
    rcases hrun : (P.insertCheckpoint checkpoint status).run db with ⟨result, t⟩
    cases result with
    | error e => exact (insertCheckpoint_allOrNothing P checkpoint status _ _ _ hrun) ▸ h
    | ok hash =>
      obtain ⟨hh, ⟨row, hrow, hfree, hbefore, hafter, rfl⟩ | rfl | ⟨epoch, shard, tx, rfl⟩⟩ :=
        insertCheckpoint_ok hrun
      · obtain ⟨hsound, rfl, -, hprevious, -⟩ := checkpointRow_decode hh hw hrow
        exact h.insert hsound hfree (hprevious.trans hbefore) hafter
      · exact h
      · exact h.settle epoch shard tx

theorem getCheckpoint_at (hs : P.segmentParameters epochStartMs shard = .ok (epoch, stored))
    (hrow : db.checkpointAt epoch stored = some row) :
    (P.getCheckpoint epochStartMs shard).run db =
      (.ok (some { row.decode with checkpoint_identity_hash := some row.checkpoint_hash }),
        db) := by
  refine run_select_bind_ok.mpr ⟨some row, ?_, rfl⟩
  rw [hs, ← hrow]
  rfl

/-- A list without repetitions within each shard is without repetitions. -/
theorem nodup_of_shards {rows : List CheckpointRow}
    (h : ∀ shard, ((rows.filter fun row => row.shard == shard).map
      CheckpointRow.epoch_start_ms).Nodup) :
    (rows.map fun row => (row.shard, row.epoch_start_ms)).Nodup := by
  induction rows with
  | nil => exact List.nodup_nil
  | cons row rest ih =>
    rw [List.map_cons, List.nodup_cons]
    constructor
    · intro hm
      obtain ⟨other, ho, he⟩ := List.mem_map.mp hm
      have hrow := h row.shard
      rw [List.filter_cons_of_pos (by simp), List.map_cons, List.nodup_cons] at hrow
      apply hrow.1
      rw [← (Prod.mk.inj he).2]
      exact List.mem_map_of_mem (List.mem_filter.mpr ⟨ho, by simp [(Prod.mk.inj he).1]⟩)
    · apply ih
      intro shard
      exact (h shard).sublist (((List.sublist_cons_self row rest).filter _).map _)

theorem Database.Sound.readable (h : db.Sound P.noble) (hr : row ∈ db.checkpoints) :
    ∃ checkpoint, (P.getCheckpoint (bigintNumber row.epoch_start_ms) row.shard).run db =
      (.ok (some checkpoint), db) ∧
        checkpointHash P.noble checkpoint = .ok row.checkpoint_hash := by
  have hrow := h.rows row hr
  have hsegment : P.segmentParameters (bigintNumber row.epoch_start_ms) row.shard =
      .ok (row.epoch_start_ms, row.shard) := by
    rw [PostgresRepository.segmentParameters, hrow.epoch, sqlBigint_ofInt _ hrow.safe, hrow.shard]
    rfl
  have hfind : db.checkpointAt row.epoch_start_ms row.shard = some row := by
    cases hfound : db.checkpointAt row.epoch_start_ms row.shard with
    | none =>
      have hnone := List.find?_eq_none.mp hfound row hr
      simp at hnone
    | some other =>
      have hkey := List.find?_some hfound
      simp only [Bool.and_eq_true, beq_iff_eq] at hkey
      rw [h.unique hr (List.mem_of_find?_eq_some hfound) hkey.2 hkey.1]
  refine ⟨{ row.decode with checkpoint_identity_hash := some row.checkpoint_hash }, ?_, ?_⟩
  · exact getCheckpoint_at hsegment hfind
  · exact (checkpointHash_rewritten P.noble row.decode row.relay_signature row.decode.settlement_tx
      (some row.checkpoint_hash)).trans hrow.hashed

theorem Database.Sound.consistent (h : db.Sound P.noble)
    (hsegment : P.segmentParameters epochStartMs shard = .ok (epoch, shard'))
    (hl : 2 ≤ (db.checkpointsUpTo shard' epoch).length) :
    ∃ proof, (P.buildConsistencyProofFor epochStartMs shard).run db = (.ok (some proof), db) ∧
      verifyConsistencyProof proof = true := by
  have hperm : ((db.checkpointsUpTo shard' epoch).map CheckpointRow.decode).Perm
      ((db.stored shard').filter fun c => (checkpointLink P.noble c).key ≤ epoch) := by
    rw [Database.stored, List.filter_map, List.filter_filter]
    refine (List.Perm.map _ (List.perm_insertionSort _ _)).trans (List.Perm.of_eq ?_)
    congr 1
    apply List.filter_congr
    intro row hr
    rw [Function.comp, (h.rows row hr).link, Bool.and_comm]
  have hchained := (h.chained shard').upTo hperm
  obtain ⟨proof, hbuild, hverify⟩ := hchained.consistent (by simpa using hl)
    (by
      intro c hc
      obtain ⟨row, hr, rfl⟩ := List.mem_map.mp hc
      have hrow := (List.mem_insertionSort _).mp hr
      simp only [List.mem_filter, Bool.and_eq_true, beq_iff_eq] at hrow
      exact hrow.2.1)
  refine ⟨proof, ?_, hverify⟩
  rw [PostgresRepository.buildConsistencyProofFor, run_select_bind, hsegment]
  simp only [Bind.bind, Except.bind, Pure.pure, Except.pure]
  rw [if_neg (by omega), hbuild]
  rfl

theorem Database.Sound.chainedTable (h : db.Sound P.noble) : P.ChainedTable db where
  unique := nodup_of_shards h.epochs
  chain shard := (h.chained shard).chainFrom
  readable _ hr := h.readable hr
  consistent _ _ _ _ hsegment hl := h.consistent hsegment hl

end Tables

/-- A checkpoint that is imported, settled and imported again. -/
def importedCalls : List TableCall :=
  [.insert identityCheckpoint (js "pending"),
    .settle { identityCheckpoint with settlement_tx := some (js "0x01") },
    .insert identityCheckpoint (js "pending")]

end Continuity

import Continuity.DurableLogs
import Continuity.KeyOrder

namespace Continuity
open Statements Program
set_option autoImplicit true

/-- In a list with distinct keys an entry is the first of its key. -/
theorem findIdx?_key [BEq κ] [LawfulBEq κ] {key : α → κ} {ordered : List α}
    (hn : (ordered.map key).Nodup) (hi : i < ordered.length) :
    ordered.findIdx? (fun b => key b == key ordered[i]) = some i := by
  rw [List.findIdx?_eq_some_iff_getElem]
  refine ⟨hi, beq_self_eq_true _, ?_⟩
  intro j hj
  rw [Bool.not_eq_true, beq_eq_false_iff_ne]
  exact List.pairwise_iff_getElem.mp (List.pairwise_map.mp hn) j i (hj.trans hi) hi hj

namespace LogRow

theorem before_total (a b : LogRow kind) : a.before b = true ∨ b.before a = true := by
  unfold before
  cases a.log_index <;> cases b.log_index <;> simp <;> omega

theorem before_trans (a b c : LogRow kind) (hab : a.before b = true) (hbc : b.before c = true) :
    a.before c = true := by
  revert hab hbc
  unfold before
  cases a.log_index <;> cases b.log_index <;> cases c.log_index <;> simp <;> omega

theorem acceptedBefore_total (a b : LogRow kind) :
    a.acceptedBefore b = true ∨ b.acceptedBefore a = true := by
  simp only [acceptedBefore, Bool.or_eq_true, Bool.and_eq_true, decide_eq_true_eq, beq_iff_eq]
  rcases lt_trichotomy a.accepted_at b.accepted_at with hlt | heq | hgt
  · exact .inl (.inl hlt)
  · rcases unitsLe_total a.hash b.hash with h | h
    · exact .inl (.inr ⟨heq, h⟩)
    · exact .inr (.inr ⟨heq.symm, h⟩)
  · exact .inr (.inl hgt)

theorem acceptedBefore_trans (a b c : LogRow kind) (hab : a.acceptedBefore b = true)
    (hbc : b.acceptedBefore c = true) : a.acceptedBefore c = true := by
  simp only [acceptedBefore, Bool.or_eq_true, Bool.and_eq_true, decide_eq_true_eq,
    beq_iff_eq] at hab hbc ⊢
  rcases hab with hab | ⟨hab, hle⟩ <;> rcases hbc with hbc | ⟨hbc, hle'⟩
  · exact .inl (hab.trans hbc)
  · exact .inl (hbc ▸ hab)
  · exact .inl (hab ▸ hbc)
  · exact .inr ⟨hab.trans hbc, unitsLe_trans _ _ _ hle hle'⟩

/-- Rows accepted at the same place have the same hash. -/
theorem acceptedBefore_antisymm (a b : LogRow kind) (hab : a.acceptedBefore b = true)
    (hba : b.acceptedBefore a = true) : a.hash = b.hash := by
  simp only [acceptedBefore, Bool.or_eq_true, Bool.and_eq_true, decide_eq_true_eq,
    beq_iff_eq] at hab hba
  rcases hab with hab | ⟨he, hab⟩ <;> rcases hba with hba | ⟨he', hba⟩
  · omega
  · omega
  · omega
  · exact unitsLe_antisymm _ _ hab hba

/-- The row with a number of its segment. -/
def number (i : Nat) (row : LogRow kind) : LogRow kind := { row with log_index := some i }

end LogRow

instance : Std.Total fun a b : LogRow kind => a.before b = true := ⟨LogRow.before_total⟩

instance : IsTrans (LogRow kind) fun a b => a.before b = true := ⟨LogRow.before_trans⟩

instance : Std.Total fun a b : LogRow kind => a.acceptedBefore b = true :=
  ⟨LogRow.acceptedBefore_total⟩

instance : IsTrans (LogRow kind) fun a b => a.acceptedBefore b = true :=
  ⟨LogRow.acceptedBefore_trans⟩

/-- The rows of a segment in the order of their acceptance. -/
def acceptedRows (epoch : Int) (shard : JsString) (rows : List (LogRow kind)) :
    List (LogRow kind) :=
  (rows.filter (LogRow.inSegment epoch shard)).insertionSort fun a b => a.acceptedBefore b = true

/-- What a numbering makes of one row. -/
def numberRow (accepted : List (LogRow kind)) (row : LogRow kind) : LogRow kind :=
  match accepted.findIdx? fun other => other.hash == row.hash with
  | some next_index => { row with log_index := some next_index }
  | none => row

section Numbering

variable {rows more : List (LogRow kind)} {epoch : Int} {shard : JsString}

theorem numberSegment_eq (epoch : Int) (shard : JsString) (rows : List (LogRow kind)) :
    numberSegment epoch shard rows = rows.map (numberRow (acceptedRows epoch shard rows)) := rfl

@[simp] theorem numberRow_hash (accepted : List (LogRow kind)) (row : LogRow kind) :
    (numberRow accepted row).hash = row.hash := by
  unfold numberRow
  split <;> rfl

@[simp] theorem numberRow_accepted_at (accepted : List (LogRow kind)) (row : LogRow kind) :
    (numberRow accepted row).accepted_at = row.accepted_at := by
  unfold numberRow
  split <;> rfl

@[simp] theorem numberRow_inSegment (accepted : List (LogRow kind)) (row : LogRow kind) :
    (numberRow accepted row).inSegment epoch shard = row.inSegment epoch shard := by
  unfold numberRow
  split <;> rfl

theorem acceptedRows_perm (epoch : Int) (shard : JsString) (rows : List (LogRow kind)) :
    (acceptedRows epoch shard rows).Perm (rows.filter (LogRow.inSegment epoch shard)) :=
  List.perm_insertionSort _ _

theorem mem_acceptedRows : row ∈ acceptedRows epoch shard rows ↔
    row ∈ rows ∧ row.inSegment epoch shard = true := by
  rw [(acceptedRows_perm epoch shard rows).mem_iff, List.mem_filter]

theorem acceptedRows_sorted (epoch : Int) (shard : JsString) (rows : List (LogRow kind)) :
    (acceptedRows epoch shard rows).Pairwise fun a b => a.acceptedBefore b = true :=
  List.pairwise_insertionSort _ _

theorem acceptedRows_nodup (h : (rows.map LogRow.hash).Nodup) :
    ((acceptedRows epoch shard rows).map LogRow.hash).Nodup :=
  ((acceptedRows_perm epoch shard rows).map _).nodup_iff.mpr
    (h.sublist (List.filter_sublist.map _))

/-- A row that is not of the segment keeps its number. -/
theorem numberRow_other (h : (rows.map LogRow.hash).Nodup) (hr : row ∈ rows)
    (ho : row.inSegment epoch shard = false) :
    numberRow (acceptedRows epoch shard rows) row = row := by
  unfold numberRow
  split
  · next i hi =>
    obtain ⟨hlt, hhash, -⟩ := List.findIdx?_eq_some_iff_getElem.mp hi
    obtain ⟨hm, hs⟩ := mem_acceptedRows.mp (List.getElem_mem hlt)
    rw [List.inj_on_of_nodup_map h hm hr (beq_iff_eq.mp hhash), ho] at hs
    cases hs
  · rfl

theorem acceptedRows_numbered (h : (rows.map LogRow.hash).Nodup) :
    (acceptedRows epoch shard rows).map (numberRow (acceptedRows epoch shard rows)) =
      (acceptedRows epoch shard rows).mapIdx LogRow.number := by
  apply List.ext_getElem
  · rw [List.length_map, List.length_mapIdx]
  · intro i hi _
    rw [List.length_map] at hi
    rw [List.getElem_map, List.getElem_mapIdx, numberRow, findIdx?_key (acceptedRows_nodup h) hi]
    rfl

theorem filter_numberSegment (accepted : List (LogRow kind)) :
    (rows.map (numberRow accepted)).filter (LogRow.inSegment epoch shard) =
      (rows.filter (LogRow.inSegment epoch shard)).map (numberRow accepted) := by
  rw [List.filter_map]
  congr 1
  apply List.filter_congr
  intro row _
  exact numberRow_inSegment accepted row

/-- In the order of its numbers a segment is in the order of acceptance. -/
theorem numberSegment_ordered (h : (rows.map LogRow.hash).Nodup) :
    ((numberSegment epoch shard rows).filter (LogRow.inSegment epoch shard)).insertionSort
        (fun a b => a.before b = true) =
      (acceptedRows epoch shard rows).mapIdx LogRow.number := by
  have hperm : ((numberSegment epoch shard rows).filter (LogRow.inSegment epoch shard)).Perm
      ((acceptedRows epoch shard rows).mapIdx LogRow.number) := by
    rw [numberSegment_eq, filter_numberSegment, ← acceptedRows_numbered h]
    exact ((acceptedRows_perm epoch shard rows).symm.map _)
  refine List.Perm.eq_of_pairwise ?_ (List.pairwise_insertionSort _ _) ?_
    ((List.perm_insertionSort _ _).trans hperm)
  · intro a b ha hb hab hba
    have ha' := hperm.mem_iff.mp ((List.mem_insertionSort _).mp ha)
    obtain ⟨i, hi, rfl⟩ := List.mem_mapIdx.mp ha'
    obtain ⟨j, hj, rfl⟩ := List.mem_mapIdx.mp hb
    simp only [LogRow.before, LogRow.number, Bool.or_eq_true, Bool.and_eq_true, decide_eq_true_eq,
      beq_iff_eq] at hab hba
    obtain rfl : i = j := by omega
    rfl
  · rw [List.pairwise_iff_getElem]
    intro i j _ _ hij
    rw [List.getElem_mapIdx, List.getElem_mapIdx]
    simp [LogRow.before, LogRow.number, hij]

theorem acceptedRows_map (accepted : List (LogRow kind)) :
    acceptedRows epoch shard (rows.map (numberRow accepted)) =
      (acceptedRows epoch shard rows).map (numberRow accepted) := by
  rw [acceptedRows, acceptedRows, filter_numberSegment]
  symm
  apply List.map_insertionSort
  intro a _ b _
  simp [LogRow.acceptedBefore]

/-- Numbering a segment again changes nothing. -/
theorem numberSegment_again (epoch : Int) (shard : JsString) (rows : List (LogRow kind)) :
    numberSegment epoch shard (numberSegment epoch shard rows) =
      numberSegment epoch shard rows := by
  rw [numberSegment_eq, numberSegment_eq, acceptedRows_map, List.map_map]
  apply List.map_congr_left
  intro row _
  have hfind : ((acceptedRows epoch shard rows).map
      (numberRow (acceptedRows epoch shard rows))).findIdx? (fun other => other.hash == row.hash) =
        (acceptedRows epoch shard rows).findIdx? fun other => other.hash == row.hash := by
    rw [List.findIdx?_map]
    congr 1
    funext other
    rw [Function.comp, numberRow_hash]
  rw [Function.comp, numberRow, numberRow_hash, hfind, numberRow]
  cases (acceptedRows epoch shard rows).findIdx? fun other => other.hash == row.hash <;> rfl

/-- Rows that are accepted later stand behind. -/
theorem acceptedRows_append (h : ((rows ++ more).map LogRow.hash).Nodup)
    (hl : ∀ row ∈ rows, ∀ later ∈ more, row.accepted_at < later.accepted_at) :
    acceptedRows epoch shard (rows ++ more) =
      acceptedRows epoch shard rows ++ acceptedRows epoch shard more := by
  refine List.Perm.eq_of_pairwise ?_ (acceptedRows_sorted _ _ _) ?_ ?_
  · intro a b ha hb hab hba
    have hmem : b ∈ rows ++ more := by
      rcases List.mem_append.mp hb with hb | hb
      · exact List.mem_append_left _ (mem_acceptedRows.mp hb).1
      · exact List.mem_append_right _ (mem_acceptedRows.mp hb).1
    exact List.inj_on_of_nodup_map h (mem_acceptedRows.mp ha).1 hmem
      (LogRow.acceptedBefore_antisymm a b hab hba)
  · refine List.pairwise_append.mpr ⟨acceptedRows_sorted _ _ _, acceptedRows_sorted _ _ _, ?_⟩
    intro a ha b hb
    simp [LogRow.acceptedBefore, hl a (mem_acceptedRows.mp ha).1 b (mem_acceptedRows.mp hb).1]
  · refine (acceptedRows_perm _ _ _).trans ?_
    rw [List.filter_append]
    exact ((acceptedRows_perm _ _ _).append (acceptedRows_perm _ _ _)).symm

/-- Numbers that were given stay when rows are added that are accepted later. -/
theorem numberSegment_append (h : ((rows ++ more).map LogRow.hash).Nodup)
    (hl : ∀ row ∈ rows, ∀ later ∈ more, row.accepted_at < later.accepted_at) :
    numberSegment epoch shard rows <+:
      numberSegment epoch shard (numberSegment epoch shard rows ++ more) := by
  have hhashes : (numberSegment epoch shard rows ++ more).map LogRow.hash =
      (rows ++ more).map LogRow.hash := by
    simp [numberSegment_eq]
  have hnodup : ((numberSegment epoch shard rows ++ more).map LogRow.hash).Nodup := hhashes ▸ h
  have hlater : ∀ row ∈ numberSegment epoch shard rows, ∀ later ∈ more,
      row.accepted_at < later.accepted_at := by
    intro row hr later hm
    rw [numberSegment_eq] at hr
    obtain ⟨old, ho, rfl⟩ := List.mem_map.mp hr
    rw [numberRow_accepted_at]
    exact hl old ho later hm
  generalize hn : numberSegment epoch shard rows = numbered at hnodup hlater ⊢
  have hagain : numbered.map (numberRow (acceptedRows epoch shard numbered)) = numbered := by
    rw [← numberSegment_eq, ← hn]
    exact numberSegment_again epoch shard rows
  rw [numberSegment_eq, List.map_append, acceptedRows_append hnodup hlater]
  have hkept : numbered.map (numberRow (acceptedRows epoch shard numbered ++
      acceptedRows epoch shard more)) = numbered := by
    conv_rhs => rw [← hagain]
    apply List.map_congr_left
    intro row hr
    by_cases hs : row.inSegment epoch shard = true
    · obtain ⟨i, hi, hget⟩ := List.mem_iff_getElem.mp (mem_acceptedRows.mpr ⟨hr, hs⟩)
      have hkeys : ((acceptedRows epoch shard numbered).map LogRow.hash).Nodup :=
        acceptedRows_nodup (List.nodup_append.mp (List.map_append ▸ hnodup)).1
      have hfind := findIdx?_key hkeys hi
      rw [hget] at hfind
      rw [numberRow, numberRow, List.findIdx?_append, hfind]
      rfl
    · rw [Bool.not_eq_true] at hs
      rw [← acceptedRows_append hnodup hlater,
        numberRow_other hnodup (List.mem_append_left _ hr) hs,
        numberRow_other (List.nodup_append.mp (List.map_append ▸ hnodup)).1 hr hs]
  rw [hkept]
  exact List.prefix_append _ _

end Numbering

section Assignment

variable {P : PostgresRepository} {epochStartMs : JsNumber} {shard stored : JsString} {epoch : Int}

theorem numberStatement_run (hs : P.segmentParameters epochStartMs shard = .ok (epoch, stored))
    (kind : TreeKind) (db : Database) : (execute fun db => do
        let (epoch, shard) ← P.segmentParameters epochStartMs shard
        return db.setLog kind (numberSegment epoch shard (db.logs kind))).run db =
      (.ok (), db.setLog kind (numberSegment epoch stored (db.logs kind))) := by
  rw [execute, run_query_ok, hs]
  rfl

/-- The four statements together number every log of the segment. -/
theorem assignLogIndexes_run (hs : P.segmentParameters epochStartMs shard = .ok (epoch, stored))
    (db : Database) : (P.assignLogIndexes epochStartMs shard).run db =
      (.ok (), { db with logs := fun kind => numberSegment epoch stored (db.logs kind) }) := by
  rw [PostgresRepository.assignLogIndexes]
  simp only [forEach, run_bind, numberStatement_run hs]
  refine congrArg (Prod.mk _) ?_
  simp only [Database.setLog]
  congr 1
  funext kind
  cases kind <;> rfl

/-- What a numbering of a segment leaves: each log in the order of acceptance, numbered from zero
without gaps, and the rows of the other segments as they were. -/
structure Numbered (epoch : Int) (stored : JsString) (db db' : Database) : Prop where
  ordered : ∀ kind, (db'.segment kind epoch stored).insertionSort (fun a b => a.before b = true) =
    (acceptedRows epoch stored (db.logs kind)).mapIdx LogRow.number
  others : ∀ kind, ∀ row ∈ db.logs kind, row.inSegment epoch stored = false → row ∈ db'.logs kind
  hashes : ∀ kind, (db'.logs kind).map LogRow.hash = (db.logs kind).map LogRow.hash

/-- A segment is numbered in the order of acceptance; numbering it again changes nothing, and the
numbers stay when rows are added that are accepted later. -/
theorem assignLogIndexes_appends (P : PostgresRepository) (db : Database)
    (hp : ∀ kind, ((db.logs kind).map LogRow.hash).Nodup)
    (hs : P.segmentParameters epochStartMs shard = .ok (epoch, stored)) :
    ∃ db', (P.assignLogIndexes epochStartMs shard).run db = (.ok (), db') ∧
      Numbered epoch stored db db' ∧
      (P.assignLogIndexes epochStartMs shard).run db' = (.ok (), db') ∧
      ∀ db'' : Database, ∀ more : (kind : TreeKind) → List (LogRow kind),
        (∀ kind, db''.logs kind = db'.logs kind ++ more kind) →
        (∀ kind, ((db''.logs kind).map LogRow.hash).Nodup) →
        (∀ kind, ∀ row ∈ db.logs kind, ∀ later ∈ more kind, row.accepted_at < later.accepted_at) →
        ∃ after, (P.assignLogIndexes epochStartMs shard).run db'' = (.ok (), after) ∧
          ∀ kind, db'.logs kind <+: after.logs kind := by
  have hhashes (kind : TreeKind) : (numberSegment epoch stored (db.logs kind)).map LogRow.hash =
      (db.logs kind).map LogRow.hash := by
    simp [numberSegment_eq]
  refine ⟨_, assignLogIndexes_run hs db, ⟨fun kind => numberSegment_ordered (hp kind), ?_,
    hhashes⟩, ?_, ?_⟩
  · intro kind row hr ho
    rw [← numberRow_other (hp kind) hr ho]
    exact List.mem_map_of_mem hr
  · rw [assignLogIndexes_run hs]
    simp only [numberSegment_again]
  · intro db'' more hlogs hnodup hlater
    refine ⟨_, assignLogIndexes_run hs db'', ?_⟩
    intro kind
    simp only [hlogs kind]
    apply numberSegment_append ?_ (hlater kind)
    have hd := hnodup kind
    rw [hlogs kind, List.map_append, hhashes kind, ← List.map_append] at hd
    exact hd

end Assignment

def receiptRowAt (hash : JsString) (accepted_at : Int) : LogRow .receipt where
  hash := hash
  shard := js "0daa"
  epoch_start_ms := 1779667200000
  log_index := none
  accepted_at := accepted_at
  columns := ()

/-- Two receipts, the one that was accepted later first. -/
def twoReceipts : Database :=
  { emptyDatabase with logs := fun
      | .receipt => [receiptRowAt (js "0x02") 2, receiptRowAt (js "0x01") 1]
      | .event | .attestation | .revocation => [] }

theorem assignLogIndexes_appends_sample :
    let P := samplePostgres (recorded [] [] id)
    ∃ db', (P.assignLogIndexes (.ofNat 1779667200000) (js "0daa")).run twoReceipts =
        (.ok (), db') ∧ Numbered 1779667200000 (js "0daa") twoReceipts db' := by
  have hs : (samplePostgres (recorded [] [] id)).segmentParameters (.ofNat 1779667200000)
      (js "0daa") = .ok (1779667200000, js "0daa") := by decide
  obtain ⟨db', hrun, hnumbered, -⟩ := assignLogIndexes_appends (samplePostgres (recorded [] [] id))
    twoReceipts (by intro kind; cases kind <;> decide) hs
  exact ⟨db', hrun, hnumbered⟩

example : (((samplePostgres (recorded [] [] id)).assignLogIndexes (.ofNat 1779667200000)
    (js "0daa")).run twoReceipts).2.logs .receipt =
      [(receiptRowAt (js "0x02") 2).number 1, (receiptRowAt (js "0x01") 1).number 0] := by
  decide +kernel

end Continuity

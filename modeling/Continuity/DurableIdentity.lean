import Continuity.DurableLogs

namespace Continuity
open Frames Statements Program
set_option autoImplicit true

/-- `INSERT INTO trust_identities ... ON CONFLICT (trust_id) DO UPDATE SET identity_document`. -/
def upsertIdentityRow (row : IdentityRow) : List IdentityRow → List IdentityRow
  | [] => [row]
  | old :: rows => if old.trust_id = row.trust_id then row :: rows else old :: upsertIdentityRow row rows

namespace KeyRow

/-- What the database identifies a row by. -/
def key (row : KeyRow) : JsString × JsString := (row.trust_id, row.key_id)

/-- What `ON CONFLICT (trust_id, key_id) DO UPDATE` makes of a row: its times of creation and of
revocation stay. -/
def updated (old row : KeyRow) : KeyRow :=
  { old with
    key_type := row.key_type
    public_key := row.public_key
    status := row.status
    expires_at := row.expires_at }

def upsert (row : KeyRow) : List KeyRow → List KeyRow
  | [] => [row]
  | old :: rows => if old.key = row.key then old.updated row :: rows else old :: upsert row rows

/-- The key that `getIdentity` makes of a row. -/
def method (row : KeyRow) : VerificationMethodV1 where
  id := row.key_id
  type := row.key_type
  public_key := row.public_key
  status := row.status
  created_at := toISOString (row.created_at / 1000)
  expires_at := row.expires_at.map fun time => toISOString (time / 1000)
  revoked_at := row.revoked_at.map fun time => toISOString (time / 1000)

end KeyRow

namespace Database

def keyRow (db : Database) (trust_id key_id : JsString) : Option KeyRow :=
  db.verification_keys.find? fun row => row.key == (trust_id, key_id)

/-- The stored document of an identity. -/
def document (db : Database) (trust_id : JsString) : Option IdentityDocumentV1 :=
  (db.trust_identities.find? fun row => row.trust_id == trust_id).map IdentityRow.identity_document

end Database

namespace PostgresRepository

variable (P : PostgresRepository)

def sqlTime (time : Option RFC3339) : Js (Option Int) :=
  match time with
  | some time => some <$> P.timestamptz time
  | none => return none

/-- The row of the document that `upsertIdentity` sends. -/
def identityRow (identity : IdentityDocumentV1) (identityHash : Hex32) : Js IdentityRow := do
  let trust_id ← sqlText identity.id
  let _ ← sqlText identity.controller
  let _ ← P.timestamptz identity.created_at
  let identity_document ← P.jsonb identity
  let hash ← sqlText identityHash
  if !isHashText hash then throw "violates check constraint on identity_hash"
  else return { trust_id, identity_document }

/-- The row of a key that `upsertIdentity` sends. -/
def keyRow (trustId : TrustID) (key : VerificationMethodV1) : Js KeyRow := do
  let trust_id ← sqlText trustId
  let key_id ← sqlText key.id
  let public_key ← sqlText key.public_key
  let created_at ← P.timestamptz key.created_at
  let expires_at ← P.sqlTime key.expires_at
  return {
    trust_id
    key_id
    key_type := key.type
    public_key
    status := key.status
    created_at
    expires_at
    revoked_at := none }

def upsertKey (trustId : TrustID) (key : VerificationMethodV1) : Sql Unit :=
  execute fun db => do
    let row ← P.keyRow trustId key
    return { db with verification_keys := row.upsert db.verification_keys }

def upsertIdentity (identity : IdentityDocumentV1) : Sql Unit := do
  let body ← lift (canonicalBytes identity.toJs)
  let identityHash := hashDomain P.noble DOMAIN_TAGS.IDENTITY_V1 body
  execute fun db => do
    let row ← P.identityRow identity identityHash
    return { db with trust_identities := upsertIdentityRow row db.trust_identities }
  forEach identity.verification_methods (P.upsertKey identity.id)

def getIdentity (trustId : TrustID) : Sql (Option IdentityDocumentV1) := do
  let identity ← select fun db => db.document <$> sqlText trustId
  match identity with
  | none => pure none
  | some identity =>
    let keys ← select fun db => do
      let trust_id ← sqlText trustId
      return (db.verification_keys.filter fun row => row.trust_id == trust_id).mergeSort
        fun a b => P.collation a.key_id b.key_id
    if keys.isEmpty then pure (some identity)
    else pure (some { identity with verification_methods := keys.map KeyRow.method })

end PostgresRepository

/-- A call that writes to the tables of identities. -/
inductive IdentityCall where
  | upsert (identity : IdentityDocumentV1)
  | revoke (revocation : RevocationV1) (relayId : JsString) (epochDurationMs : ℕ+)

def IdentityCall.program (P : PostgresRepository) : IdentityCall → Sql Unit
  | .upsert identity => P.upsertIdentity identity
  | .revoke revocation relayId epochDurationMs => do
    let _ ← P.insertRevocation revocation relayId epochDurationMs
    pure ()

/-- The calls that have returned, one after the other, since the tables of identities were empty.
The rest of the database is free. -/
inductive Completed (P : PostgresRepository) : List IdentityCall → Database → Prop where
  | start : db.trust_identities = [] → db.verification_keys = [] → Completed P [] db
  | call : Completed P calls db → (call.program P).run db = (.ok (), db') →
    Completed P (calls ++ [call]) db'
  | elsewhere : Completed P calls db → db'.trust_identities = db.trust_identities →
    db'.verification_keys = db.verification_keys → Completed P calls db'

/-- A text that a `TEXT` column gives back as it was. -/
def ClearText (s : JsString) : Prop := sqlText s = .ok s

/-- What a `JSONB` column does: it takes no text with NUL or with half of a surrogate pair, and
gives back the keys of the document. -/
structure JsonbKeeps (P : PostgresRepository) : Prop where
  id : ∀ identity stored, P.jsonb identity = .ok stored → ClearText identity.id
  key_id : ∀ identity stored, P.jsonb identity = .ok stored →
    ∀ key ∈ identity.verification_methods, ClearText key.id
  methods : ∀ identity stored, P.jsonb identity = .ok stored →
    stored.verification_methods = identity.verification_methods

/-- The database stores the time that the text stands for, and the language reads back what it
writes of that time. -/
def KeptTime (P : PostgresRepository) (text : RFC3339) : Prop :=
  ∀ time, P.timestamptz text = .ok time → P.host.parse text = some (time / 1000) ∧
    P.host.parse (toISOString (time / 1000)) = some (time / 1000)

/-- What happens to the row of one key. -/
inductive KeyEffect where
  | listed (row : KeyRow)
  | revoked (time : Int)

def KeyEffect.apply (row : Option KeyRow) : KeyEffect → Option KeyRow
  | .listed new => some <| match row with
    | some old => old.updated new
    | none => new
  | .revoked time => row.map fun row => { row with status := .revoked, revoked_at := some time }

/-- What a call does to the row of a key. -/
def IdentityCall.effects (P : PostgresRepository) (trust_id key_id : JsString) :
    IdentityCall → List KeyEffect
  | .upsert identity =>
    if identity.id = trust_id then
      (identity.verification_methods.filter fun key => key.id == key_id).filterMap fun key =>
        (P.keyRow trust_id key).toOption.map .listed
    else []
  | .revoke revocation _ _ =>
    if sqlText revocation.trust_id = .ok trust_id ∧ sqlText revocation.revoked_key = .ok key_id then
      ((P.timestamptz revocation.effective_at).toOption.map .revoked).toList
    else []

/-- The document that a call stores for an identity. -/
def IdentityCall.stored (P : PostgresRepository) (trust_id : JsString) :
    IdentityCall → Option IdentityDocumentV1
  | .upsert identity => if identity.id = trust_id then (P.jsonb identity).toOption else none
  | .revoke _ _ _ => none

section Rows

@[simp] theorem KeyRow.updated_key (old row : KeyRow) : (old.updated row).key = old.key := rfl

theorem keys_upsert (row : KeyRow) (rows : List KeyRow) :
    (row.upsert rows).map KeyRow.key =
      if row.key ∈ rows.map KeyRow.key then rows.map KeyRow.key
      else rows.map KeyRow.key ++ [row.key] := by
  induction rows with
  | nil => rfl
  | cons old rows ih =>
    unfold KeyRow.upsert
    by_cases h : old.key = row.key
    · simp [h]
    · have hne : row.key ≠ old.key := fun he => h he.symm
      simp only [h, if_false, List.map_cons, ih, List.mem_cons, hne, false_or]
      split
      · rfl
      · rfl

theorem nodup_upsert (row : KeyRow) (h : (rows.map KeyRow.key).Nodup) :
    ((row.upsert rows).map KeyRow.key).Nodup := by
  rw [keys_upsert]
  split
  · exact h
  · next hn =>
    rw [List.nodup_append]
    refine ⟨h, List.nodup_singleton _, ?_⟩
    rintro key hk other ho rfl
    exact hn (List.mem_singleton.mp ho ▸ hk)

theorem find_upsert (row : KeyRow) (rows : List KeyRow) (key : JsString × JsString) :
    (row.upsert rows).find? (fun other => other.key == key) =
      if row.key = key then (KeyEffect.listed row).apply (rows.find? fun other => other.key == key)
      else rows.find? fun other => other.key == key := by
  induction rows with
  | nil =>
    by_cases h : row.key = key
    · simp [KeyRow.upsert, KeyEffect.apply, h]
    · simp [KeyRow.upsert, h]
  | cons old rows ih =>
    unfold KeyRow.upsert
    by_cases h : old.key = row.key
    · rw [if_pos h]
      by_cases hk : old.key = key
      · have hr : row.key = key := h ▸ hk
        simp [hk, hr, KeyEffect.apply]
      · have hr : row.key ≠ key := h ▸ hk
        simp [hk, hr]
    · rw [if_neg h]
      by_cases hk : old.key = key
      · have hr : row.key ≠ key := fun he => h (hk.trans he.symm)
        simp [hk, hr]
      · rw [List.find?_cons_of_neg (by simpa using hk), List.find?_cons_of_neg (by simpa using hk),
          ih]

theorem find_foldl_upsert (rows keys : List KeyRow) (key : JsString × JsString) :
    (rows.foldl (fun keys row => row.upsert keys) keys).find? (fun row => row.key == key) =
      ((rows.filter fun row => row.key == key).map KeyEffect.listed).foldl KeyEffect.apply
        (keys.find? fun row => row.key == key) := by
  induction rows generalizing keys with
  | nil => rfl
  | cons row rows ih =>
    rw [List.foldl_cons, ih, find_upsert]
    by_cases h : row.key = key
    · simp [h]
    · simp [h]

theorem nodup_foldl_upsert (rows : List KeyRow) {keys : List KeyRow}
    (h : (keys.map KeyRow.key).Nodup) :
    ((rows.foldl (fun keys row => row.upsert keys) keys).map KeyRow.key).Nodup := by
  induction rows generalizing keys with
  | nil => exact h
  | cons row rows ih => exact ih (nodup_upsert row h)

theorem find_upsertIdentityRow (row : IdentityRow) (rows : List IdentityRow) (trust_id : JsString) :
    (upsertIdentityRow row rows).find? (fun other => other.trust_id == trust_id) =
      if row.trust_id = trust_id then some row
      else rows.find? fun other => other.trust_id == trust_id := by
  induction rows with
  | nil =>
    by_cases h : row.trust_id = trust_id
    · simp [upsertIdentityRow, h]
    · simp [upsertIdentityRow, h]
  | cons old rows ih =>
    unfold upsertIdentityRow
    by_cases h : old.trust_id = row.trust_id
    · by_cases hk : row.trust_id = trust_id
      · simp [h, hk]
      · simp [h, hk]
    · by_cases hk : old.trust_id = trust_id
      · have hr : row.trust_id ≠ trust_id := fun he => h (hk.trans he.symm)
        rw [if_neg h, if_neg hr, List.find?_cons_of_pos (by simpa using hk),
          List.find?_cons_of_pos (by simpa using hk)]
      · rw [if_neg h, List.find?_cons_of_neg (by simpa using hk),
          List.find?_cons_of_neg (by simpa using hk), ih]

/-- A search for something that is there at most once does not depend on the order. -/
theorem find_perm {p : α → Bool} {items sorted : List α} (hp : sorted.Perm items)
    (hu : ∀ a ∈ items, ∀ b ∈ items, p a = true → p b = true → a = b) :
    sorted.find? p = items.find? p := by
  cases hf : sorted.find? p with
  | none =>
    rw [List.find?_eq_none] at hf
    symm
    rw [List.find?_eq_none]
    exact fun a ha => hf a (hp.mem_iff.mpr ha)
  | some a =>
    have ha := hp.mem_iff.mp (List.mem_of_find?_eq_some hf)
    have hpa := List.find?_some hf
    cases hi : items.find? p with
    | none => exact absurd hpa (List.find?_eq_none.mp hi a ha)
    | some b =>
      rw [hu a ha b (List.mem_of_find?_eq_some hi) hpa (List.find?_some hi)]

end Rows

section Calls

variable {P : PostgresRepository} {db db' : Database}

theorem assertSegmentOpen_run (h : (P.assertSegmentOpen epoch shard).run db = (.ok (), db')) :
    db' = db := by
  obtain ⟨closed, -, h⟩ := run_select_bind_ok.mp h
  split at h
  · cases h
  · cases h
    rfl

theorem insertLogRow_identities {row : LogRow kind} (h : db.insertLogRow row = .ok db') :
    db'.trust_identities = db.trust_identities ∧
      db'.verification_keys = db.verification_keys := by
  unfold Database.insertLogRow at h
  split at h
  · cases h
  split at h
  · cases h
    exact ⟨rfl, rfl⟩
  · cases h
    exact ⟨rfl, rfl⟩

theorem upsertKeys_run (h : (forEach keys (P.upsertKey trustId)).run db = (.ok (), db')) :
    ∃ rows, keys.mapM (P.keyRow trustId) = .ok rows ∧
      db' = { db with
        verification_keys := rows.foldl (fun keys row => row.upsert keys) db.verification_keys } := by
  induction keys generalizing db with
  | nil =>
    cases h
    exact ⟨[], rfl, rfl⟩
  | cons key keys ih =>
    obtain ⟨_, db₁, hkey, hrest⟩ := run_bind_ok.mp h
    obtain ⟨row, hrow, hdb⟩ := bind_eq_ok.mp (run_execute_ok.mp hkey)
    cases hdb
    obtain ⟨rows, hrows, rfl⟩ := ih hrest
    refine ⟨row :: rows, ?_, rfl⟩
    rw [List.mapM_cons, hrow, hrows]
    rfl

theorem upsertIdentity_run (hj : JsonbKeeps P)
    (h : (P.upsertIdentity identity).run db = (.ok (), db')) :
    ∃ row rows, row.trust_id = identity.id ∧ P.jsonb identity = .ok row.identity_document ∧
      identity.verification_methods.mapM (P.keyRow identity.id) = .ok rows ∧
      db'.trust_identities = upsertIdentityRow row db.trust_identities ∧
      db'.verification_keys =
        rows.foldl (fun keys row => row.upsert keys) db.verification_keys := by
  obtain ⟨body, -, h⟩ := run_lift_bind_ok.mp h
  dsimp only at h
  obtain ⟨_, db₁, hdocument, hkeys⟩ := run_bind_ok.mp h
  obtain ⟨row, hrow, hdb⟩ := bind_eq_ok.mp (run_execute_ok.mp hdocument)
  cases hdb
  obtain ⟨rows, hrows, rfl⟩ := upsertKeys_run hkeys
  simp only [PostgresRepository.identityRow, bind_eq_ok] at hrow
  obtain ⟨trust_id, hid, _, -, _, -, document, hd, _, -, hrow⟩ := hrow
  split at hrow
  · cases hrow
  cases hrow
  cases Except.ok.inj (hid.symm.trans (hj.id identity document hd))
  exact ⟨_, rows, rfl, hd, hrows, rfl, rfl⟩

theorem insertRevocation_run {hash : Hex32} (h : (P.insertRevocation revocation relayId duration).run db =
    (.ok hash, db')) :
    ∃ trust_id key_id time, sqlText revocation.trust_id = .ok trust_id ∧
      sqlText revocation.revoked_key = .ok key_id ∧
      P.timestamptz revocation.effective_at = .ok time ∧
      db'.trust_identities = db.trust_identities ∧
      db'.verification_keys = db.verification_keys.map fun row =>
        if row.trust_id == trust_id && row.key_id == key_id then
          { row with status := .revoked, revoked_at := some time }
        else row := by
  obtain ⟨commitment, -, h⟩ := run_lift_bind_ok.mp h
  dsimp only at h
  obtain ⟨_, db₀, hopen, h⟩ := run_bind_ok.mp h
  rw [assertSegmentOpen_run hopen] at h
  obtain ⟨body, -, h⟩ := run_lift_bind_ok.mp h
  obtain ⟨_, db₁, hinsert, h⟩ := run_bind_ok.mp h
  obtain ⟨row, -, hrow⟩ := bind_eq_ok.mp (run_execute_ok.mp hinsert)
  obtain ⟨hids, hkeys⟩ := insertLogRow_identities hrow
  obtain ⟨_, db₂, hmark, hend⟩ := run_bind_ok.mp h
  cases hend
  obtain ⟨trust_id, ht, hset⟩ := bind_eq_ok.mp (run_execute_ok.mp hmark)
  obtain ⟨key_id, hk, hset⟩ := bind_eq_ok.mp hset
  obtain ⟨time, htime, hset⟩ := bind_eq_ok.mp hset
  cases hset
  exact ⟨trust_id, key_id, time, ht, hk, htime, hids, congrArg _ hkeys⟩

theorem keyRow_key (h : P.keyRow trustId key = .ok row) (hd : ClearText trustId)
    (hk : ClearText key.id) : row.key = (trustId, key.id) := by
  simp only [PostgresRepository.keyRow, bind_eq_ok] at h
  obtain ⟨trust_id, ht, key_id, hid, _, -, _, -, _, -, h⟩ := h
  cases h
  cases Except.ok.inj (ht.symm.trans hd)
  cases Except.ok.inj (hid.symm.trans hk)
  rfl

/-- The rows of a document that are about one key. -/
theorem keyRows_effects {keys : List VerificationMethodV1} {rows : List KeyRow}
    (h : keys.mapM (P.keyRow trustId) = .ok rows) (hd : ClearText trustId)
    (hk : ∀ key ∈ keys, ClearText key.id) (d k : JsString) :
    ((rows.filter fun row => row.key == (d, k)).map KeyEffect.listed) =
      if trustId = d then
        (keys.filter fun key => key.id == k).filterMap fun key =>
          (P.keyRow d key).toOption.map .listed
      else [] := by
  induction keys generalizing rows with
  | nil =>
    cases h
    simp
  | cons key keys ih =>
    rw [List.mapM_cons] at h
    obtain ⟨row, hrow, h⟩ := bind_eq_ok.mp h
    obtain ⟨rest, hrest, h⟩ := bind_eq_ok.mp h
    cases h
    have hkey := keyRow_key hrow hd (hk key List.mem_cons_self)
    have htail := ih hrest fun other ho => hk other (List.mem_cons_of_mem key ho)
    by_cases htrust : trustId = d
    · subst htrust
      rw [if_pos rfl] at htail ⊢
      by_cases hid : key.id = k
      · have hok : (P.keyRow trustId key).toOption = some row := by
          rw [hrow]
          rfl
        rw [List.filter_cons_of_pos (by simp [hkey, hid]),
          List.filter_cons_of_pos (by simpa using hid), List.map_cons, htail, List.filterMap_cons, hok]
        rfl
      · rw [List.filter_cons_of_neg (by simp [hkey, hid]),
          List.filter_cons_of_neg (by simpa using hid), htail]
    · rw [if_neg htrust] at htail ⊢
      rw [List.filter_cons_of_neg (by simp [hkey, htrust]), htail]

theorem find_marked (rows : List KeyRow) (trust_id key_id d k : JsString) (time : Int) :
    (rows.map fun row =>
        if row.trust_id == trust_id && row.key_id == key_id then
          { row with status := .revoked, revoked_at := some time }
        else row).find? (fun row => row.key == (d, k)) =
      if trust_id = d ∧ key_id = k then
        (KeyEffect.revoked time).apply (rows.find? fun row => row.key == (d, k))
      else rows.find? fun row => row.key == (d, k) := by
  induction rows with
  | nil =>
    split
    · rfl
    · rfl
  | cons row rows ih =>
    rw [List.map_cons]
    by_cases hrow : row.key = (d, k)
    · obtain ⟨rfl, rfl⟩ := Prod.mk.inj hrow
      by_cases ht : trust_id = row.trust_id ∧ key_id = row.key_id
      · obtain ⟨rfl, rfl⟩ := ht
        simp [KeyRow.key, KeyEffect.apply]
      · have hne : ¬(row.trust_id = trust_id ∧ row.key_id = key_id) := by
          rintro ⟨h₁, h₂⟩
          exact ht ⟨h₁.symm, h₂.symm⟩
        simp [KeyRow.key, ht, hne]
    · rw [List.find?_cons_of_neg, ih, List.find?_cons_of_neg (by simpa using hrow)]
      split
      · simpa [KeyRow.key] using hrow
      · simpa using hrow

theorem keys_marked (rows : List KeyRow) (trust_id key_id : JsString) (time : Int) :
    (rows.map fun row =>
        if row.trust_id == trust_id && row.key_id == key_id then
          { row with status := .revoked, revoked_at := some time }
        else row).map KeyRow.key = rows.map KeyRow.key := by
  rw [List.map_map]
  apply List.map_congr_left
  intro row _
  dsimp only [Function.comp]
  split
  · rfl
  · rfl

end Calls

section Histories

variable {P : PostgresRepository} {db db' : Database} {calls : List IdentityCall}

theorem program_keys (hj : JsonbKeeps P) (h : (IdentityCall.program P call).run db = (.ok (), db'))
    (hu : (db.verification_keys.map KeyRow.key).Nodup) :
    (db'.verification_keys.map KeyRow.key).Nodup ∧
      ∀ d k, db'.keyRow d k = (call.effects P d k).foldl KeyEffect.apply (db.keyRow d k) := by
  cases call with
  | upsert identity =>
    obtain ⟨row, rows, -, hdoc, hrows, -, hkeys⟩ := upsertIdentity_run hj h
    unfold Database.keyRow
    rw [hkeys]
    refine ⟨nodup_foldl_upsert rows hu, ?_⟩
    intro d k
    rw [find_foldl_upsert, keyRows_effects hrows (hj.id _ _ hdoc) (hj.key_id _ _ hdoc)]
    rfl
  | revoke revocation relayId duration =>
    obtain ⟨hash, db₁, hrun, hend⟩ := run_bind_ok.mp h
    cases hend
    obtain ⟨trust_id, key_id, time, ht, hk, htime, -, hkeys⟩ := insertRevocation_run hrun
    unfold Database.keyRow
    rw [hkeys, keys_marked]
    refine ⟨hu, ?_⟩
    intro d k
    rw [find_marked, IdentityCall.effects, ht, hk, htime]
    by_cases hdk : trust_id = d ∧ key_id = k
    · obtain ⟨rfl, rfl⟩ := hdk
      simp [Except.toOption]
    · have hne : ¬((.ok trust_id : Js JsString) = .ok d ∧ (.ok key_id : Js JsString) = .ok k) := by
        rintro ⟨h₁, h₂⟩
        exact hdk ⟨Except.ok.inj h₁, Except.ok.inj h₂⟩
      rw [if_neg hdk, if_neg hne]
      rfl

/-- The row of a key is what the calls about it made of it, one after the other. -/
theorem Completed.keys (hj : JsonbKeeps P) (h : Completed P calls db) :
    (db.verification_keys.map KeyRow.key).Nodup ∧
      ∀ d k, db.keyRow d k =
        (calls.flatMap (IdentityCall.effects P d k)).foldl KeyEffect.apply none := by
  induction h with
  | start _ hkeys =>
    simp only [Database.keyRow, hkeys]
    exact ⟨List.nodup_nil, fun _ _ => rfl⟩
  | call _ hrun ih =>
    obtain ⟨hu, hrow⟩ := program_keys hj hrun ih.1
    refine ⟨hu, ?_⟩
    intro d k
    rw [hrow, ih.2, List.flatMap_append, List.foldl_append, List.flatMap_singleton]
  | elsewhere _ _ hkeys ih =>
    simp only [Database.keyRow, hkeys]
    exact ih

theorem program_document (hj : JsonbKeeps P)
    (h : (IdentityCall.program P call).run db = (.ok (), db')) (d : JsString) :
    db'.document d = (call.stored P d).or (db.document d) := by
  cases call with
  | upsert identity =>
    obtain ⟨row, rows, hid, hdoc, -, hids, -⟩ := upsertIdentity_run hj h
    unfold Database.document
    rw [hids, find_upsertIdentityRow, IdentityCall.stored, hid, hdoc]
    by_cases hd : identity.id = d
    · rw [if_pos hd, if_pos hd]
      rfl
    · rw [if_neg hd, if_neg hd]
      rfl
  | revoke revocation relayId duration =>
    obtain ⟨hash, db₁, hrun, hend⟩ := run_bind_ok.mp h
    cases hend
    obtain ⟨_, _, _, -, -, -, hids, -⟩ := insertRevocation_run hrun
    unfold Database.document
    rw [hids]
    rfl

theorem Completed.document (hj : JsonbKeeps P) (h : Completed P calls db) (d : JsString) :
    db.document d = (calls.filterMap (IdentityCall.stored P d)).getLast? := by
  induction h with
  | start hids _ =>
    rw [Database.document, hids]
    rfl
  | call _ hrun ih =>
    rw [program_document hj hrun, ih, List.filterMap_append, List.getLast?_append]
    rw [List.filterMap_cons, List.filterMap_nil]
    split
    · next hs => rw [hs]; rfl
    · next hs => rw [hs]; rfl
  | elsewhere _ hids _ ih =>
    rw [Database.document, hids]
    exact ih

theorem Completed.jsonb (hj : JsonbKeeps P) (h : Completed P calls db)
    (hi : .upsert identity ∈ calls) : ∃ stored, P.jsonb identity = .ok stored := by
  induction h with
  | start => cases hi
  | call _ hrun ih =>
    rcases List.mem_append.mp hi with hi | hi
    · exact ih hi
    · cases List.mem_singleton.mp hi
      obtain ⟨row, rows, -, hdoc, -⟩ := upsertIdentity_run hj hrun
      exact ⟨_, hdoc⟩
  | elsewhere _ _ _ ih => exact ih hi

/-- A registered identity has a stored document, which is that of one of its registrations. -/
theorem Completed.document_stored (hj : JsonbKeeps P) (h : Completed P calls db)
    (hi : .upsert identity ∈ calls) : ∃ stored other, db.document identity.id = some stored ∧
      .upsert other ∈ calls ∧ other.id = identity.id ∧ P.jsonb other = .ok stored := by
  obtain ⟨stored, hstored⟩ := h.jsonb hj hi
  have hmem : stored ∈ calls.filterMap (IdentityCall.stored P identity.id) := by
    rw [List.mem_filterMap]
    refine ⟨_, hi, ?_⟩
    rw [IdentityCall.stored, if_pos rfl, hstored]
    rfl
  have hne := List.ne_nil_of_mem hmem
  obtain ⟨call, hcall, hlast⟩ := List.mem_filterMap.mp (List.getLast_mem hne)
  rw [h.document hj, List.getLast?_eq_some_getLast hne]
  cases call with
  | revoke _ _ _ => cases hlast
  | upsert other =>
    rw [IdentityCall.stored] at hlast
    split at hlast
    · next hid =>
      cases hok : P.jsonb other with
      | error e =>
        rw [hok] at hlast
        cases hlast
      | ok kept =>
        rw [hok] at hlast
        exact ⟨_, other, rfl, hcall, hid, hok.trans (congrArg _ (Option.some.inj hlast))⟩
    · cases hlast

/-- The document that is read back has the keys of the rows, or is as it was stored where there is
no row. -/
theorem getIdentity_run (hd : ClearText d) (hdoc : db.document d = some stored)
    (hu : (db.verification_keys.map KeyRow.key).Nodup) :
    ∃ identity, (P.getIdentity d).run db = (.ok (some identity), db) ∧
      ((∀ k, db.keyRow d k = none) ∧ identity = stored ∨
        ∀ k, findVerificationMethod identity k = (db.keyRow d k).map KeyRow.method) := by
  let keys := (db.verification_keys.filter fun row => row.trust_id == d).mergeSort
    fun a b => P.collation a.key_id b.key_id
  have hperm : keys.Perm (db.verification_keys.filter fun row => row.trust_id == d) :=
    List.mergeSort_perm _ _
  have hread : (P.getIdentity d).run db = (.ok (some (if keys.isEmpty then stored
      else { stored with verification_methods := keys.map KeyRow.method })), db) := by
    have hfirst : db.document <$> sqlText d = .ok (some stored) := by
      rw [hd, ← hdoc]
      rfl
    have hsecond : (do
        let trust_id ← sqlText d
        return (db.verification_keys.filter fun row => row.trust_id == trust_id).mergeSort
          fun a b => P.collation a.key_id b.key_id : Js (List KeyRow)) = .ok keys := by
      rw [hd]
      rfl
    rw [PostgresRepository.getIdentity, run_select_bind, hfirst]
    dsimp only
    rw [run_select_bind, hsecond]
    dsimp only
    split
    · rfl
    · rfl
  refine ⟨_, hread, ?_⟩
  by_cases hempty : keys.isEmpty = true
  · left
    rw [if_pos hempty]
    refine ⟨?_, rfl⟩
    intro k
    unfold Database.keyRow
    rw [List.find?_eq_none]
    intro row hrow hkey
    have hmem : row ∈ keys := by
      rw [hperm.mem_iff, List.mem_filter]
      rw [beq_iff_eq] at hkey
      exact ⟨hrow, by simpa using (Prod.mk.inj hkey).1⟩
    rw [List.isEmpty_iff.mp hempty] at hmem
    cases hmem
  · right
    intro k
    rw [if_neg hempty]
    have hone : ∀ a ∈ db.verification_keys.filter (fun row => row.trust_id == d),
        ∀ b ∈ db.verification_keys.filter (fun row => row.trust_id == d),
          (a.key_id == k) = true → (b.key_id == k) = true → a = b := by
      intro a ha b hb hka hkb
      simp only [List.mem_filter, beq_iff_eq] at ha hb hka hkb
      apply List.inj_on_of_nodup_map hu ha.1 hb.1
      rw [KeyRow.key, KeyRow.key, ha.2, hb.2, hka, hkb]
    have hfind : (keys.find? fun row => row.key_id == k) = db.keyRow d k := by
      rw [find_perm hperm hone, List.find?_filter, Database.keyRow]
      congr 1
      funext row
      rw [Bool.eq_iff_iff]
      simp [KeyRow.key]
    rw [← hfind]
    exact List.find?_map

theorem Completed.next (h : Completed P calls db) (c : IdentityCall)
    (hok : ((c.program P).run db).1 = .ok ()) :
    Completed P (calls ++ [c]) ((c.program P).run db).2 :=
  .call h (Prod.ext hok rfl)

end Histories

theorem samplePostgres_keeps (N : Noble) : JsonbKeeps (samplePostgres N) := by
  have hread : ∀ identity stored, (samplePostgres N).jsonb identity = .ok stored →
      (∀ s ∈ identity.id :: identity.verification_methods.map VerificationMethodV1.id,
        sqlText s = .ok s) ∧ stored = identity := by
    intro identity stored h
    simp only [samplePostgres] at h
    split at h
    · next hclear =>
      cases h
      exact ⟨hclear, rfl⟩
    · cases h
  refine ⟨?_, ?_, ?_⟩
  · intro identity stored h
    exact (hread identity stored h).1 _ List.mem_cons_self
  · intro identity stored h key hkey
    exact (hread identity stored h).1 _ (List.mem_cons_of_mem _ (List.mem_map_of_mem hkey))
  · intro identity stored h
    rw [(hread identity stored h).2]

end Continuity

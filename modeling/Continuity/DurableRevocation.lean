import Mathlib
import Continuity.DurableIdentity
import Continuity.RevokedVerdict

namespace Continuity
open Frames Statements Program
set_option autoImplicit true

/-- Every document of the identity lists the key, as active, without expiry and with one time of
creation. -/
def AlwaysActive (calls : List IdentityCall) (d : TrustID) (k : JsString) (created_at : RFC3339) :
    Prop :=
  ∀ identity, .upsert identity ∈ calls → identity.id = d →
    (∃ key ∈ identity.verification_methods, key.id = k) ∧
    ∀ key ∈ identity.verification_methods, key.id = k →
      key.status = .active ∧ key.expires_at = none ∧ key.created_at = created_at

/-- The time from which a call revokes the key. -/
def IdentityCall.revokedFrom (H : Host) (d : TrustID) (k : JsString) : IdentityCall → Option Int
  | .upsert _ => none
  | .revoke revocation _ _ =>
    if revocation.trust_id = d ∧ revocation.revoked_key = k then H.parse revocation.effective_at
    else none

/-- What a call sets the status of the key to: active, or revoked from a time on. The database may
take the names of a revocation for those of another key. -/
def IdentityCall.touch (H : Host) (d : TrustID) (k : JsString) : IdentityCall → Option (Option Int)
  | .upsert identity => if identity.id = d then some none else none
  | .revoke revocation _ _ =>
    if sqlText revocation.trust_id = .ok d ∧ sqlText revocation.revoked_key = .ok k then
      some (H.parse revocation.effective_at)
    else none

/-- The stored key is active exactly before every inserted revocation of it. -/
def Honoured (P : PostgresRepository) (db : Database) (calls : List IdentityCall) (d : TrustID)
    (k : JsString) (created : Int) : Prop :=
  ∃ identity key, (P.getIdentity d).run db = (.ok (some identity), db) ∧
    findVerificationMethod identity k = some key ∧
    ∀ timestamp at_, P.host.parse timestamp = some at_ → created ≤ at_ →
      (keyActiveAt P.host key timestamp = true ↔
        ¬∃ time ∈ calls.filterMap (IdentityCall.revokedFrom P.host d k), time ≤ at_)

/-- The call that last touched the key is a revocation, and none is from an earlier time on that
counts; or there is none at all. -/
def EarliestLast (times : List Int) (created : Int) (touches : List (Option Int)) : Prop :=
  match touches.getLast? with
  | some (some last) =>
    (∃ time ∈ times, time ≤ max last created) ∧ ∀ time ∈ times, last ≤ max time created
  | _ => times = []

/-- Some text stands for the time. -/
def Dated (H : Host) (time : Int) : Prop := ∃ timestamp, H.parse timestamp = some time

/-- The row of a key after a call that set its status. -/
structure RowHolds (P : PostgresRepository) (created_at : RFC3339) (row : KeyRow)
    (last : Option Int) : Prop where
  created : P.timestamptz created_at = .ok row.created_at
  expires : row.expires_at = none
  active : last = none → row.status = .active
  revoked : ∀ time, last = some time → row.status = .revoked ∧
    ∃ stored, row.revoked_at = some stored ∧ stored / 1000 = time ∧
      P.host.parse (toISOString time) = some time

/-- Being active until the last time is being active until each of the times, at every time that
has a date, exactly when the last one is the earliest that counts. -/
theorem until_last_iff {dated : Int → Prop} {times : List Int} {created : Int}
    {last : Option Int} (hdated : ∀ time ∈ times, dated (max time created))
    (hlast : ∀ time, last = some time → dated (max time created)) :
    (∀ at_, dated at_ → created ≤ at_ →
      ((∀ time, last = some time → at_ < time) ↔ ¬∃ time ∈ times, time ≤ at_)) ↔
    match last with
    | some last =>
      (∃ time ∈ times, time ≤ max last created) ∧ ∀ time ∈ times, last ≤ max time created
    | none => times = [] := by
  cases last with
  | none =>
    constructor
    · intro hall
      rw [List.eq_nil_iff_forall_not_mem]
      intro time hmem
      have hno := (hall _ (hdated time hmem) (le_max_right time created)).mp nofun
      exact hno ⟨time, hmem, le_max_left time created⟩
    · rintro rfl at_ - -
      simp
  | some last =>
    simp only [Option.some.injEq, forall_eq'] at hlast ⊢
    constructor
    · intro hall
      constructor
      · by_contra hno
        have hlt := (hall _ hlast (le_max_right last created)).mpr hno
        omega
      · intro time hmem
        by_contra hlt
        have hno := (hall _ (hdated time hmem) (le_max_right time created)).mp (by omega)
        exact hno ⟨time, hmem, le_max_left time created⟩
    · rintro ⟨⟨first, hfirst, hle⟩, hall⟩ at_ - hc
      constructor
      · rintro hlt ⟨time, hmem, htime⟩
        have := hall time hmem
        omega
      · intro hno
        by_contra hge
        exact hno ⟨first, hfirst, by omega⟩

section Rows

variable {P : PostgresRepository} {db : Database} {calls : List IdentityCall}

theorem keyRow_fields (h : P.keyRow trustId key = .ok row) :
    row.status = key.status ∧ P.timestamptz key.created_at = .ok row.created_at ∧
      P.sqlTime key.expires_at = .ok row.expires_at ∧ row.revoked_at = none := by
  simp only [PostgresRepository.keyRow, bind_eq_ok] at h
  obtain ⟨_, -, _, -, _, -, created_at, hc, expires_at, he, h⟩ := h
  cases h
  exact ⟨rfl, hc, he, rfl⟩

theorem listed_active (h : P.keyRow d key = .ok new) (hs : key.status = .active)
    (he : key.expires_at = none) (hc : key.created_at = created_at)
    (hrow : ∀ old, row = some old → P.timestamptz created_at = .ok old.created_at) :
    ∃ set, (KeyEffect.listed new).apply row = some set ∧ RowHolds P created_at set none := by
  obtain ⟨hstatus, hcreated, hexpires, -⟩ := keyRow_fields h
  rw [hc] at hcreated
  rw [he] at hexpires
  have hnone : new.expires_at = none := (Except.ok.inj hexpires).symm
  cases row with
  | none => exact ⟨new, rfl, hcreated, hnone, fun _ => hstatus.trans hs, nofun⟩
  | some old =>
    exact ⟨old.updated new, rfl, hrow old rfl, hnone, fun _ => hstatus.trans hs, nofun⟩

/-- However often a document lists the key, its row ends as active. -/
theorem effects_active {keys : List VerificationMethodV1} {row : Option KeyRow}
    (hkeys : ∀ key ∈ keys, key.status = .active ∧ key.expires_at = none ∧
      key.created_at = created_at ∧ ∃ new, P.keyRow d key = .ok new) (hne : keys ≠ [])
    (hrow : ∀ old, row = some old → P.timestamptz created_at = .ok old.created_at) :
    ∃ set, (keys.filterMap fun key => (P.keyRow d key).toOption.map .listed).foldl
      KeyEffect.apply row = some set ∧ RowHolds P created_at set none := by
  induction keys generalizing row with
  | nil => exact absurd rfl hne
  | cons key keys ih =>
    obtain ⟨hs, he, hc, new, hnew⟩ := hkeys key List.mem_cons_self
    have hfirst : (P.keyRow d key).toOption = some new := by
      rw [hnew]
      rfl
    obtain ⟨set, hset, hholds⟩ := listed_active hnew hs he hc hrow
    rw [List.filterMap_cons, hfirst]
    dsimp only [Option.map_some]
    rw [List.foldl_cons, hset]
    by_cases hlast : keys = []
    · subst hlast
      exact ⟨set, rfl, hholds⟩
    · apply ih (fun other ho => hkeys other (List.mem_cons_of_mem key ho)) hlast
      rintro old hold
      cases hold
      exact hholds.created

/-- The row of the key after the calls that touched it; before the first document there is none. -/
def RowAfter (P : PostgresRepository) (created_at : RFC3339) (row : Option KeyRow)
    (touches : List (Option Int)) : Prop :=
  match row with
  | none => none ∉ touches
  | some row => ∃ last, touches.getLast? = some last ∧ RowHolds P created_at row last

theorem RowAfter.listed (h : RowAfter P created_at row touches)
    (hrun : (P.upsertIdentity identity).run db = (.ok (), db')) (hj : JsonbKeeps P)
    (hactive : AlwaysActive [.upsert identity] identity.id k created_at) :
    RowAfter P created_at
      (((IdentityCall.upsert identity).effects P identity.id k).foldl KeyEffect.apply row)
      (touches ++ [none]) := by
  obtain ⟨-, rows, -, -, hrows, -, -⟩ := upsertIdentity_run hj hrun
  obtain ⟨⟨key, hkey, hid⟩, hkeys⟩ := hactive identity List.mem_cons_self rfl
  have hset : ∃ set, ((IdentityCall.upsert identity).effects P identity.id k).foldl
      KeyEffect.apply row = some set ∧ RowHolds P created_at set none := by
    rw [IdentityCall.effects, if_pos rfl]
    apply effects_active
    · intro other ho
      obtain ⟨ho, hoid⟩ := List.mem_filter.mp ho
      obtain ⟨hs, he, hc⟩ := hkeys other ho (by simpa using hoid)
      obtain ⟨row, -, hrow⟩ := mapM_mem hrows ho
      exact ⟨hs, he, hc, row, hrow⟩
    · exact List.ne_nil_of_mem (List.mem_filter.mpr ⟨hkey, by simpa using hid⟩)
    · rintro old rfl
      obtain ⟨last, -, hold⟩ := h
      exact hold.created
  obtain ⟨set, hset, hholds⟩ := hset
  rw [hset]
  exact ⟨none, List.getLast?_concat, hholds⟩

theorem RowAfter.revoked (h : RowAfter P created_at row touches)
    (htime : P.timestamptz effective_at = .ok stored) (hkept : KeptTime P effective_at) :
    RowAfter P created_at ((KeyEffect.revoked stored).apply row)
      (touches ++ [P.host.parse effective_at]) := by
  obtain ⟨hparse, hread⟩ := hkept stored htime
  rw [hparse]
  cases row with
  | none =>
    intro hmem
    rcases List.mem_append.mp hmem with hmem | hmem
    · exact h hmem
    · cases List.mem_singleton.mp hmem
  | some row =>
    obtain ⟨last, -, hrow⟩ := h
    refine ⟨some (stored / 1000), List.getLast?_concat, hrow.created, hrow.expires, nofun, ?_⟩
    rintro time ⟨⟩
    exact ⟨rfl, stored, rfl, rfl, hread⟩

/-- The row of the key holds what the last call about it set. -/
theorem Completed.row (hj : JsonbKeeps P) (h : Completed P calls db)
    (hactive : AlwaysActive calls d k created_at)
    (htimes : ∀ revocation relayId duration, .revoke revocation relayId duration ∈ calls →
      KeptTime P revocation.effective_at) :
    RowAfter P created_at (db.keyRow d k) (calls.filterMap (IdentityCall.touch P.host d k)) := by
  induction h with
  | start _ hkeys =>
    rw [Database.keyRow, hkeys]
    exact List.not_mem_nil
  | @call calls db db' call hcalls hrun ih =>
    have ih := ih (fun identity hi => hactive identity (List.mem_append_left _ hi))
      fun revocation relayId duration hr =>
        htimes revocation relayId duration (List.mem_append_left _ hr)
    have hu := (hcalls.keys hj).1
    rw [(program_keys hj hrun hu).2, List.filterMap_append]
    cases call with
    | upsert identity =>
      by_cases hd : identity.id = d
      · subst hd
        have htouch : [IdentityCall.upsert identity].filterMap
            (IdentityCall.touch P.host identity.id k) = [none] := by
          simp [IdentityCall.touch]
        rw [htouch]
        apply ih.listed hrun hj
        intro other ho
        exact hactive other (List.mem_append_right _ ho)
      · have htouch : [IdentityCall.upsert identity].filterMap
            (IdentityCall.touch P.host d k) = [] := by
          simp [IdentityCall.touch, hd]
        rw [htouch, List.append_nil, IdentityCall.effects, if_neg hd]
        exact ih
    | revoke revocation relayId duration =>
      obtain ⟨hash, db₁, hinsert, -⟩ := run_bind_ok.mp hrun
      obtain ⟨_, _, stored, -, -, hstored, -, -⟩ := insertRevocation_run hinsert
      have hkept := htimes revocation relayId duration
        (List.mem_append_right _ List.mem_cons_self)
      by_cases hdk : sqlText revocation.trust_id = .ok d ∧ sqlText revocation.revoked_key = .ok k
      · have htouch : [IdentityCall.revoke revocation relayId duration].filterMap
            (IdentityCall.touch P.host d k) = [P.host.parse revocation.effective_at] := by
          simp [IdentityCall.touch, hdk]
        rw [htouch, IdentityCall.effects, if_pos hdk, hstored]
        exact ih.revoked hstored hkept
      · have htouch : [IdentityCall.revoke revocation relayId duration].filterMap
            (IdentityCall.touch P.host d k) = [] := by
          rw [List.filterMap_cons, IdentityCall.touch, if_neg hdk]
          rfl
        rw [htouch, List.append_nil, IdentityCall.effects, if_neg hdk]
        exact ih
  | elsewhere _ _ hkeys ih =>
    rw [Database.keyRow, hkeys]
    exact ih hactive htimes

/-- From its creation on, the key of a row is active until the time that the last call set. -/
theorem RowHolds.active_iff {created at_ : Int} (h : RowHolds P created_at row last) (hkept : KeptTime P created_at)
    (hcreated : P.host.parse created_at = some created) (ht : P.host.parse timestamp = some at_)
    (hle : created ≤ at_) :
    keyActiveAt P.host row.method timestamp = true ↔ ∀ time, last = some time → at_ < time := by
  obtain ⟨hparse, hread⟩ := hkept _ h.created
  have hc : created = row.created_at / 1000 := Option.some.inj (hcreated.symm.trans hparse)
  rw [← hc] at hread
  have hcreate : P.host.parse row.method.created_at = some created := by
    rw [KeyRow.method, ← hc]
    exact hread
  have hexpires : row.method.expires_at = none := by
    rw [KeyRow.method, h.expires]
    rfl
  unfold keyActiveAt
  rw [ht, hcreate, hexpires]
  cases last with
  | none =>
    have hstatus : row.method.status = .active := h.active rfl
    simp [hstatus, hle, truthy]
  | some time =>
    obtain ⟨hs, stored, hrevoked, rfl, hback⟩ := h.revoked time rfl
    have hstatus : row.method.status = .revoked := hs
    have hrevoked : row.method.revoked_at = some (toISOString (stored / 1000)) := by
      rw [KeyRow.method, hrevoked]
      rfl
    have hne := toISOString_ne_nil (stored / 1000)
    simp [hstatus, hrevoked, hle, truthy, hne, laterThan, hback]

theorem dated_max (ha : P.host.parse s = some a) (hb : P.host.parse t = some b) :
    Dated P.host (max a b) := by
  rcases max_choice a b with h | h
  · exact ⟨s, ha.trans (congrArg some h.symm)⟩
  · exact ⟨t, hb.trans (congrArg some h.symm)⟩

/-- The key that is read back from a row. -/
theorem getIdentity_key (hj : JsonbKeeps P) (h : Completed P calls db)
    (hlisted : .upsert identity ∈ calls) (hrow : db.keyRow identity.id k = some row) :
    ∃ found, (P.getIdentity identity.id).run db = (.ok (some found), db) ∧
      findVerificationMethod found k = some row.method := by
  obtain ⟨stored, other, hdocument, -, hid, hstored⟩ := h.document_stored hj hlisted
  have hclear : ClearText identity.id := hid ▸ hj.id _ _ hstored
  obtain ⟨found, hrun, hkeys⟩ := getIdentity_run hclear hdocument (h.keys hj).1
  refine ⟨found, hrun, ?_⟩
  rcases hkeys with ⟨hnone, -⟩ | hkeys
  · rw [hnone] at hrow
    cases hrow
  · rw [hkeys, hrow]
    rfl

end Rows

/-- The times that the texts of the calls about a key stand for. -/
structure TimesKept (P : PostgresRepository) (calls : List IdentityCall) (created_at : RFC3339) :
    Prop where
  created_at : KeptTime P created_at
  effective_at : ∀ revocation relayId duration, .revoke revocation relayId duration ∈ calls →
    KeptTime P revocation.effective_at

/-- The durable store honours the earliest revocation of a key that its documents list as active
exactly where no document comes after a revocation and the last revocation is the earliest, up to
the creation of the key. -/
theorem getIdentity_honoured_iff {P : PostgresRepository} {db : Database}
    {calls : List IdentityCall} {created : Int} (hj : JsonbKeeps P) (h : Completed P calls db)
    (hlisted : ∃ identity, .upsert identity ∈ calls ∧ identity.id = d)
    (hactive : AlwaysActive calls d k created_at) (htimes : TimesKept P calls created_at)
    (hcreated : P.host.parse created_at = some created) :
    Honoured P db calls d k created ↔
      EarliestLast (calls.filterMap (IdentityCall.revokedFrom P.host d k)) created
        (calls.filterMap (IdentityCall.touch P.host d k)) := by
  obtain ⟨identity, hidentity, rfl⟩ := hlisted
  have hafter := h.row hj hactive htimes.effective_at
  obtain ⟨row, hrow⟩ : ∃ row, db.keyRow identity.id k = some row := by
    cases hrow : db.keyRow identity.id k with
    | some row => exact ⟨row, rfl⟩
    | none =>
      rw [hrow] at hafter
      refine absurd (List.mem_filterMap.mpr ⟨_, hidentity, ?_⟩) hafter
      rw [IdentityCall.touch, if_pos rfl]
  rw [hrow] at hafter
  obtain ⟨last, hlast, hholds⟩ := hafter
  obtain ⟨found, hrun, hkey⟩ := getIdentity_key hj h hidentity hrow
  have hkeys : Honoured P db calls identity.id k created ↔
      ∀ at_, Dated P.host at_ → created ≤ at_ →
        ((∀ time, last = some time → at_ < time) ↔
          ¬∃ time ∈ calls.filterMap (IdentityCall.revokedFrom P.host identity.id k),
            time ≤ at_) := by
    constructor
    · rintro ⟨found', key, hrun', hkey', hall⟩ at_ ⟨timestamp, ht⟩ hle
      rw [hrun] at hrun'
      cases hrun'
      rw [hkey] at hkey'
      cases hkey'
      rw [← hholds.active_iff htimes.created_at hcreated ht hle]
      exact hall timestamp at_ ht hle
    · intro hall
      refine ⟨found, row.method, hrun, hkey, ?_⟩
      intro timestamp at_ ht hle
      rw [hholds.active_iff htimes.created_at hcreated ht hle]
      exact hall at_ ⟨timestamp, ht⟩ hle
  have hdated : ∀ time ∈ calls.filterMap (IdentityCall.revokedFrom P.host identity.id k),
      Dated P.host (max time created) := by
    intro time hmem
    obtain ⟨call, -, hfrom⟩ := List.mem_filterMap.mp hmem
    cases call with
    | upsert _ => cases hfrom
    | revoke revocation relayId duration =>
      rw [IdentityCall.revokedFrom] at hfrom
      split at hfrom
      · exact dated_max hfrom hcreated
      · cases hfrom
  have hend : ∀ time, last = some time → Dated P.host (max time created) := by
    intro time ht
    obtain ⟨-, _, -, -, hread⟩ := hholds.revoked time ht
    exact dated_max hread hcreated
  rw [hkeys, until_last_iff hdated hend, EarliestLast, hlast]
  cases last with
  | none => rfl
  | some last => rfl

/-- The digests of Alice's document and of her later revocation. -/
def durableNoble : Noble :=
  let hash := bigEndian 32 0x413b8c2a1614b9e650e5235187bc7e5aa2488cf2432cea8cbc2a24f7cbc60df9
  recorded ([(domainMessage DOMAIN_TAGS.IDENTITY_V1 (valueBytes aliceIdentity.toJs),
      bigEndian 32 0xba0cb5033f8dbd29401740037ee21734aff8cf3c40a7a6112c14af28428124a6),
    (domainMessage DOMAIN_TAGS.REVOCATION_V1 (valueBytes (.obj (withoutSignature
      laterRevocation.toFields))), hash),
    (domainMessage DOMAIN_TAGS.COMMITMENT_V1 (hash ++ hexBytes laterRevocation.signature),
      bigEndian 32 0x3118f71fa77bc13eab54594fcc8ecd16ed4a1bfd7acc78c48611373f3f66381e)] ++ logDigests)
    [] longDigest

def durablePostgres : PostgresRepository := samplePostgres durableNoble

/-- Alice registers, and later revokes her key. -/
def revokedCalls : List IdentityCall :=
  [.upsert aliceIdentity, .revoke laterRevocation (js "did:tsl:relay:dev")
    (Nat.toPNat' 300000)]

/-- She registers once more. -/
def reactivatedCalls : List IdentityCall := revokedCalls ++ [.upsert aliceIdentity]

def afterCalls (calls : List IdentityCall) : Database :=
  calls.foldl (fun db call => ((call.program durablePostgres).run db).2) emptyDatabase

theorem revokedCalls_completed :
    Completed durablePostgres revokedCalls (afterCalls revokedCalls) := by
  have hstart : Completed durablePostgres [] emptyDatabase := .start rfl rfl
  exact (hstart.next _ (by decide +kernel)).next _ (by decide +kernel)

theorem alice_alwaysActive (hcalls : ∀ identity, .upsert identity ∈ calls → identity = aliceIdentity) :
    AlwaysActive calls (js "did:tsl:alice") (js "#k1") (js "2026-01-01T00:00:00Z") := by
  intro identity hi _
  rw [hcalls identity hi]
  refine ⟨⟨_, List.mem_cons_self, rfl⟩, ?_⟩
  intro key hkey _
  cases List.mem_singleton.mp hkey
  exact ⟨rfl, rfl, rfl⟩

/-- A document that comes after the revocation has the key active again. -/
theorem getIdentity_reactivated : ∃ db, Completed durablePostgres reactivatedCalls db ∧
    AlwaysActive reactivatedCalls (js "did:tsl:alice") (js "#k1") (js "2026-01-01T00:00:00Z") ∧
    durablePostgres.host.parse (js "2026-01-01T00:00:00Z") = some 1767225600000 ∧
    ¬Honoured durablePostgres db reactivatedCalls (js "did:tsl:alice") (js "#k1")
      1767225600000 := by
  refine ⟨_, revokedCalls_completed.next (.upsert aliceIdentity) (by decide +kernel), ?_,
    by decide +kernel, ?_⟩
  · apply alice_alwaysActive
    intro identity hi
    simp [reactivatedCalls, revokedCalls] at hi
    exact hi
  · rintro ⟨identity, key, hrun, hkey, hall⟩
    have hactive : (fun found => (found.bind fun identity =>
        findVerificationMethod identity (js "#k1")).map fun key =>
          keyActiveAt durablePostgres.host key (js "2026-05-25T00:00:05Z")) <$>
        ((durablePostgres.getIdentity (js "did:tsl:alice")).run
          (((IdentityCall.upsert aliceIdentity).program durablePostgres).run
            (afterCalls revokedCalls)).2).1 = .ok (some true) := by
      decide +kernel
    rw [hrun] at hactive
    have hkeyActive : keyActiveAt durablePostgres.host key (js "2026-05-25T00:00:05Z") = true := by
      simpa [Functor.map, Except.map, hkey] using hactive
    have hnone := (hall (js "2026-05-25T00:00:05Z") 1779667205000 (by decide +kernel)
      (by decide)).mp hkeyActive
    exact hnone ⟨1779667201000, by decide +kernel, by decide⟩

theorem getIdentity_honoured_iff_sample :
    Honoured durablePostgres (afterCalls revokedCalls) revokedCalls (js "did:tsl:alice")
      (js "#k1") 1767225600000 := by
  have hcreated : KeptTime durablePostgres (js "2026-01-01T00:00:00Z") := by
    intro time ht
    obtain rfl : (1767225600000000 : Int) = time :=
      Except.ok.inj ((by decide +kernel : _ = Except.ok _).symm.trans ht)
    decide +kernel
  have heffective : KeptTime durablePostgres laterRevocation.effective_at := by
    intro time ht
    obtain rfl : (1779667201000000 : Int) = time :=
      Except.ok.inj ((by decide +kernel : _ = Except.ok _).symm.trans ht)
    decide +kernel
  have hactive : AlwaysActive revokedCalls (js "did:tsl:alice") (js "#k1")
      (js "2026-01-01T00:00:00Z") := by
    apply alice_alwaysActive
    intro identity hi
    simp [revokedCalls] at hi
    exact hi
  have htimes : TimesKept durablePostgres revokedCalls (js "2026-01-01T00:00:00Z") := by
    refine ⟨hcreated, ?_⟩
    intro revocation relayId duration hr
    simp [revokedCalls] at hr
    rw [hr.1]
    exact heffective
  have htouches : revokedCalls.filterMap (IdentityCall.touch durablePostgres.host
      (js "did:tsl:alice") (js "#k1")) = [none, some 1779667201000] := by
    decide +kernel
  have hfrom : revokedCalls.filterMap (IdentityCall.revokedFrom durablePostgres.host
      (js "did:tsl:alice") (js "#k1")) = [1779667201000] := by
    decide +kernel
  have hiff : Honoured durablePostgres (afterCalls revokedCalls) revokedCalls
      (js "did:tsl:alice") (js "#k1") 1767225600000 ↔
      EarliestLast (revokedCalls.filterMap (IdentityCall.revokedFrom durablePostgres.host
        (js "did:tsl:alice") (js "#k1"))) 1767225600000
        (revokedCalls.filterMap (IdentityCall.touch durablePostgres.host (js "did:tsl:alice")
          (js "#k1"))) :=
    getIdentity_honoured_iff (samplePostgres_keeps durableNoble) revokedCalls_completed
      ⟨aliceIdentity, List.mem_cons_self, rfl⟩ hactive htimes (by decide +kernel)
  rw [hiff, htouches, hfrom]
  refine ⟨⟨_, List.mem_cons_self, by decide⟩, ?_⟩
  intro time ht
  cases List.mem_singleton.mp ht
  decide

end Continuity

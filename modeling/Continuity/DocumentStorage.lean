import Continuity.DurableRevocation

namespace Continuity
open Frames Statements Program
set_option autoImplicit true

/-- The time that ends a key by its status: none for an active one. -/
def statusEnd (H : Host) (key : VerificationMethodV1) : Option (WithTop Int) :=
  match key.status with
  | .active => some ⊤
  | .revoked =>
    if truthy key.revoked_at then (H.parse (key.revoked_at.getD [])).map WithTop.some else none
  | .expired => none

/-- The time at which a key expires. -/
def expiryEnd (H : Host) (key : VerificationMethodV1) : Option (WithTop Int) :=
  if truthy key.expires_at then (H.parse (key.expires_at.getD [])).map WithTop.some else some ⊤

def earlierEnd : WithTop Int → WithTop Int → WithTop Int
  | none, stop => stop
  | some stop, none => some stop
  | some stop, some stop' => some (if stop ≤ stop' then stop else stop')

def endsAfter (stop : WithTop Int) (at_ : Int) : Bool :=
  match stop with
  | none => true
  | some stop => at_ < stop

/-- The times at which a key is active: from the first on, and before the second. -/
def activeSpan (H : Host) (key : VerificationMethodV1) : Option (Int × WithTop Int) := do
  let created ← H.parse key.created_at
  let stopped ← statusEnd H key
  let expired ← expiryEnd H key
  let stop := earlierEnd stopped expired
  if endsAfter stop created then some (created, stop) else none

/-- The entries for a key in the documents of an identity. -/
def listings (documents : List IdentityDocumentV1) (d : TrustID) (k : JsString) :
    List VerificationMethodV1 :=
  (documents.filter fun document => document.id == d).flatMap fun document =>
    document.verification_methods.filter fun key => key.id == k

/-- What the rows make of the first and the last entry for a key. -/
def storedKey (first last : VerificationMethodV1) : VerificationMethodV1 :=
  { last with
    created_at := first.created_at
    revoked_at := none }

/-- No earlier document lists the key if the last one does not; if it does, its first entry for the
key is active at the times at which the stored one is. -/
def KeyKept (H : Host) (documents : List IdentityDocumentV1) (document : IdentityDocumentV1)
    (k : JsString) : Prop :=
  match findVerificationMethod document k with
  | none => listings documents document.id k = []
  | some key => ∀ first last, (listings documents document.id k).head? = some first →
    (listings documents document.id k).getLast? = some last →
      activeSpan H key = activeSpan H (storedKey first last)

/-- The identity that is read back has the keys of the document, active at the same times. -/
def Survives (P : PostgresRepository) (db : Database) (document : IdentityDocumentV1) : Prop :=
  ∃ found, (P.getIdentity document.id).run db = (.ok (some found), db) ∧
    ∀ k, match findVerificationMethod document k with
      | none => findVerificationMethod found k = none
      | some key => ∃ stored, findVerificationMethod found k = some stored ∧
        ∀ timestamp, keyActiveAt P.host stored timestamp = keyActiveAt P.host key timestamp

section Spans

variable {H : Host}

theorem endsAfter_iff : endsAfter stop at_ = true ↔ (at_ : WithTop Int) < stop := by
  cases stop with
  | top => simp [endsAfter]
  | coe stop => simp [endsAfter]

theorem earlierEnd_cases (a b : WithTop Int) :
    (earlierEnd a b = a ∧ a ≤ b) ∨ (earlierEnd a b = b ∧ b ≤ a) := by
  cases a with
  | top => exact .inr ⟨rfl, le_top⟩
  | coe a =>
    cases b with
    | top => exact .inl ⟨rfl, le_top⟩
    | coe b =>
      rcases Int.le_total a b with hle | hle
      · exact .inl ⟨congrArg WithTop.some (if_pos hle), WithTop.coe_le_coe.mpr hle⟩
      · refine .inr ⟨?_, WithTop.coe_le_coe.mpr hle⟩
        by_cases heq : a ≤ b
        · exact congrArg WithTop.some ((if_pos heq).trans (le_antisymm heq hle))
        · exact congrArg WithTop.some (if_neg heq)

theorem lt_earlierEnd_iff {at_ : WithTop Int} : at_ < earlierEnd a b ↔ at_ < a ∧ at_ < b := by
  rcases earlierEnd_cases a b with ⟨he, hle⟩ | ⟨he, hle⟩
  · rw [he]
    exact ⟨fun h => ⟨h, h.trans_le hle⟩, And.left⟩
  · rw [he]
    exact ⟨fun h => ⟨h.trans_le hle, h⟩, And.right⟩

theorem laterThan_iff : laterThan H limit at_ = true ↔
    ∃ stop, (H.parse limit).map WithTop.some = some stop ∧ (at_ : WithTop Int) < stop := by
  unfold laterThan
  cases H.parse limit with
  | none => simp
  | some limit => simp

theorem statusEnd_iff (key : VerificationMethodV1) (at_ : Int) :
    (match key.status with
      | .revoked => truthy key.revoked_at && laterThan H (key.revoked_at.getD []) at_
      | .active => true
      | .expired => false) = true ↔
      ∃ stop, statusEnd H key = some stop ∧ (at_ : WithTop Int) < stop := by
  unfold statusEnd
  cases key.status with
  | active => simp
  | expired => simp
  | revoked =>
    by_cases ht : truthy key.revoked_at = true
    · simp only [ht, Bool.true_and, if_true, laterThan_iff]
    · simp [ht]

theorem expiryEnd_iff (key : VerificationMethodV1) (at_ : Int) :
    (!truthy key.expires_at || laterThan H (key.expires_at.getD []) at_) = true ↔
      ∃ stop, expiryEnd H key = some stop ∧ (at_ : WithTop Int) < stop := by
  unfold expiryEnd
  by_cases ht : truthy key.expires_at = true
  · simp only [ht, Bool.not_true, Bool.false_or, if_true, laterThan_iff]
  · simp [ht]

theorem activeSpan_eq_some : activeSpan H key = some (created, stop) ↔
    H.parse key.created_at = some created ∧ ∃ stopped expired,
      statusEnd H key = some stopped ∧ expiryEnd H key = some expired ∧
      stop = earlierEnd stopped expired ∧ (created : WithTop Int) < stop := by
  simp only [activeSpan, Option.bind_eq_bind, Option.bind_eq_some_iff]
  constructor
  · rintro ⟨c, hc, stopped, hs, expired, he, h⟩
    split at h
    · next hlt =>
      cases h
      exact ⟨hc, stopped, expired, hs, he, rfl, endsAfter_iff.mp hlt⟩
    · cases h
  · rintro ⟨hc, stopped, expired, hs, he, rfl, hlt⟩
    exact ⟨created, hc, stopped, hs, expired, he, if_pos (endsAfter_iff.mpr hlt)⟩

theorem keyActiveAt_iff : keyActiveAt H key timestamp = true ↔
    ∃ at_ created stop, H.parse timestamp = some at_ ∧
      activeSpan H key = some (created, stop) ∧ created ≤ at_ ∧ (at_ : WithTop Int) < stop := by
  unfold keyActiveAt
  cases ht : H.parse timestamp with
  | none => simp
  | some at_ =>
    cases hc : H.parse key.created_at with
    | none => simp [activeSpan_eq_some, hc]
    | some created =>
      simp only [Bool.and_eq_true, decide_eq_true_eq]
      refine (and_congr (and_congr_right' (statusEnd_iff key at_)) (expiryEnd_iff key at_)).trans ?_
      constructor
      · rintro ⟨⟨hle, stopped, hs, hlt⟩, expired, he, hlt'⟩
        have hmin := lt_earlierEnd_iff.mpr ⟨hlt, hlt'⟩
        refine ⟨at_, created, _, rfl, activeSpan_eq_some.mpr
          ⟨hc, stopped, expired, hs, he, rfl, ?_⟩, hle, hmin⟩
        exact lt_of_le_of_lt (WithTop.coe_le_coe.mpr hle) hmin
      · rintro ⟨_, created', _, ⟨⟩, hspan, hle, hlt⟩
        obtain ⟨hc', stopped, expired, hs, he, rfl, -⟩ := activeSpan_eq_some.mp hspan
        cases Option.some.inj (hc.symm.trans hc')
        obtain ⟨hlt, hlt'⟩ := lt_earlierEnd_iff.mp hlt
        exact ⟨⟨hle, stopped, hs, hlt⟩, expired, he, hlt'⟩

/-- The ends of the time of activity are times of texts. -/
theorem activeSpan_dated (h : activeSpan H key = some (created, stop)) :
    Dated H created ∧ ∀ time : Int, stop = time → Dated H time := by
  obtain ⟨hc, stopped, expired, hs, he, rfl, -⟩ := activeSpan_eq_some.mp h
  refine ⟨⟨_, hc⟩, ?_⟩
  have hstatus : ∀ time : Int, stopped = time → Dated H time := by
    rintro time rfl
    unfold statusEnd at hs
    split at hs
    · cases hs
    · split at hs
      · obtain ⟨time', ht, he⟩ := Option.map_eq_some_iff.mp hs
        cases WithTop.coe_injective he
        exact ⟨_, ht⟩
      · cases hs
    · cases hs
  have hexpiry : ∀ time : Int, expired = time → Dated H time := by
    rintro time rfl
    unfold expiryEnd at he
    split at he
    · obtain ⟨time', ht, he⟩ := Option.map_eq_some_iff.mp he
      cases WithTop.coe_injective he
      exact ⟨_, ht⟩
    · cases he
  intro time ht
  rcases earlierEnd_cases stopped expired with ⟨hmin, -⟩ | ⟨hmin, -⟩
  · exact hstatus time (hmin.symm.trans ht)
  · exact hexpiry time (hmin.symm.trans ht)

/-- A key that is active whenever another is has a span around that of the other. -/
theorem activeSpan_within
    (hall : ∀ timestamp, keyActiveAt H a timestamp = true → keyActiveAt H b timestamp = true)
    (ha : activeSpan H a = some (created, stop)) :
    ∃ created' stop', activeSpan H b = some (created', stop') ∧ created' ≤ created ∧
      stop ≤ stop' := by
  have hactive : ∀ at_, Dated H at_ → created ≤ at_ → (at_ : WithTop Int) < stop →
      ∃ created' stop', activeSpan H b = some (created', stop') ∧ created' ≤ at_ ∧
        (at_ : WithTop Int) < stop' := by
    rintro at_ ⟨timestamp, ht⟩ hle hlt
    have hb := hall timestamp (keyActiveAt_iff.mpr ⟨at_, created, stop, ht, ha, hle, hlt⟩)
    obtain ⟨_, created', stop', ht', hspan, hle', hlt'⟩ := keyActiveAt_iff.mp hb
    cases Option.some.inj (ht.symm.trans ht')
    exact ⟨created', stop', hspan, hle', hlt'⟩
  obtain ⟨-, _, _, -, -, -, hstart⟩ := activeSpan_eq_some.mp ha
  obtain ⟨created', stop', hb, hle, hlt⟩ :=
    hactive created (activeSpan_dated ha).1 (le_refl created) hstart
  refine ⟨created', stop', hb, hle, ?_⟩
  by_contra hstop
  obtain ⟨time, rfl⟩ := WithTop.ne_top_iff_exists.mp (ne_top_of_lt (not_le.mp hstop))
  obtain ⟨_, _, hb', -, hlt'⟩ := hactive time ((activeSpan_dated hb).2 time rfl)
    (WithTop.coe_lt_coe.mp hlt).le (not_le.mp hstop)
  cases Option.some.inj (hb.symm.trans hb')
  exact lt_irrefl _ hlt'

theorem activeSpan_eq_iff : activeSpan H a = activeSpan H b ↔
    ∀ timestamp, keyActiveAt H a timestamp = keyActiveAt H b timestamp := by
  constructor
  · intro h timestamp
    rw [Bool.eq_iff_iff, keyActiveAt_iff, keyActiveAt_iff, h]
  · intro hall
    cases ha : activeSpan H a with
    | none =>
      cases hb : activeSpan H b with
      | none => rfl
      | some span =>
        obtain ⟨_, _, ha', -, -⟩ := activeSpan_within (fun t ht => (hall t).trans ht) hb
        cases ha.symm.trans ha'
    | some span =>
      obtain ⟨created, stop⟩ := span
      obtain ⟨created', stop', hb, hle, hstop⟩ :=
        activeSpan_within (fun t ht => (hall t).symm.trans ht) ha
      obtain ⟨_, _, ha', hle', hstop'⟩ := activeSpan_within (fun t ht => (hall t).trans ht) hb
      cases Option.some.inj (ha.symm.trans ha')
      rw [hb, le_antisymm hle' hle, le_antisymm hstop hstop']

end Spans

/-- The times that the texts in the documents of an identity stand for. -/
structure DocumentTimesKept (P : PostgresRepository) (documents : List IdentityDocumentV1)
    (d : TrustID) : Prop where
  empty : ∀ time, P.timestamptz [] ≠ .ok time
  created_at : ∀ k, ∀ key ∈ listings documents d k, KeptTime P key.created_at
  expires_at : ∀ k, ∀ key ∈ listings documents d k, ∀ text, key.expires_at = some text →
    KeptTime P text

section Rows

variable {P : PostgresRepository} {db : Database} {documents : List IdentityDocumentV1}

/-- The row of a key has the creation of its first entry and the rest of its last one. -/
theorem foldl_listed {keys : List VerificationMethodV1}
    (hok : ∀ key ∈ keys, ∃ row, P.keyRow d key = .ok row) (hne : keys ≠ []) :
    ∃ first last firstRow lastRow, keys.head? = some first ∧ keys.getLast? = some last ∧
      P.keyRow d first = .ok firstRow ∧ P.keyRow d last = .ok lastRow ∧
      (keys.filterMap fun key => (P.keyRow d key).toOption.map .listed).foldl
        KeyEffect.apply none = some (firstRow.updated lastRow) := by
  induction keys using List.reverseRecOn with
  | nil => exact absurd rfl hne
  | append_singleton keys key ih =>
    obtain ⟨row, hrow⟩ := hok key (List.mem_append_right _ List.mem_cons_self)
    have hlisted : [key].filterMap (fun key => (P.keyRow d key).toOption.map .listed) =
        [KeyEffect.listed row] := by
      rw [List.filterMap_cons, hrow]
      rfl
    rw [List.filterMap_append, hlisted, List.foldl_append]
    by_cases hkeys : keys = []
    · subst hkeys
      exact ⟨key, key, row, row, rfl, rfl, hrow, hrow, rfl⟩
    · obtain ⟨first, _, firstRow, _, hfirst, -, hfirstRow, -, hfold⟩ :=
        ih (fun other ho => hok other (List.mem_append_left _ ho)) hkeys
      rw [hfold]
      refine ⟨first, key, firstRow, row, ?_, List.getLast?_concat, hfirstRow, hrow, rfl⟩
      rw [List.head?_append, hfirst]
      rfl

theorem keyActiveAt_congr {H : Host} {a b : VerificationMethodV1} (hs : a.status = b.status)
    (hc : H.parse a.created_at = H.parse b.created_at) (hr : a.revoked_at = b.revoked_at)
    (he : expiryEnd H a = expiryEnd H b) (timestamp : RFC3339) :
    keyActiveAt H a timestamp = keyActiveAt H b timestamp := by
  apply activeSpan_eq_iff.mp
  rw [activeSpan, activeSpan, statusEnd, statusEnd, hs, hc, hr, he]

/-- The key of a row is active when the entries that the row comes from say so. -/
theorem method_active (hfirst : P.keyRow d first = .ok firstRow)
    (hlast : P.keyRow d last = .ok lastRow) (hcreated : KeptTime P first.created_at)
    (hexpires : ∀ text, last.expires_at = some text → KeptTime P text)
    (hempty : ∀ time, P.timestamptz [] ≠ .ok time) (timestamp : RFC3339) :
    keyActiveAt P.host (firstRow.updated lastRow).method timestamp =
      keyActiveAt P.host (storedKey first last) timestamp := by
  obtain ⟨-, hstored, -, hnone⟩ := keyRow_fields hfirst
  obtain ⟨hstatus, -, hexpiry, -⟩ := keyRow_fields hlast
  obtain ⟨hparse, hread⟩ := hcreated _ hstored
  apply keyActiveAt_congr hstatus
  · exact hread.trans hparse.symm
  · rw [KeyRow.method, KeyRow.updated, hnone]
    rfl
  · cases he : last.expires_at with
    | none =>
      rw [he] at hexpiry
      have hrow : lastRow.expires_at = none := (Except.ok.inj hexpiry).symm
      have hmethod : (firstRow.updated lastRow).method.expires_at = none := by
        rw [KeyRow.method, KeyRow.updated, hrow]
        rfl
      have hkey : (storedKey first last).expires_at = none := he
      rw [expiryEnd, expiryEnd, hmethod, hkey]
    | some text =>
      rw [he] at hexpiry
      obtain ⟨time, htime, hrow⟩ := map_eq_ok.mp hexpiry
      obtain ⟨hparse, hread⟩ := hexpires text he time htime
      have hmethod : (firstRow.updated lastRow).method.expires_at =
          some (toISOString (time / 1000)) := by
        rw [KeyRow.method, KeyRow.updated, ← hrow]
        rfl
      have hkey : (storedKey first last).expires_at = some text := he
      have hne : text ≠ [] := by
        rintro rfl
        exact hempty time htime
      have htext : truthy (some text) = true := truthy_iff.mpr ⟨text, rfl, hne⟩
      have hiso : truthy (some (toISOString (time / 1000))) = true :=
        truthy_iff.mpr ⟨_, rfl, toISOString_ne_nil _⟩
      rw [expiryEnd, expiryEnd, hmethod, hkey, if_pos hiso, if_pos htext, Option.getD_some,
        Option.getD_some, hread, hparse]

theorem effects_upserts (P : PostgresRepository) (documents : List IdentityDocumentV1)
    (d : TrustID) (k : JsString) :
    (documents.map IdentityCall.upsert).flatMap (IdentityCall.effects P d k) =
      (listings documents d k).filterMap fun key =>
        (P.keyRow d key).toOption.map .listed := by
  induction documents with
  | nil => rfl
  | cons document documents ih =>
    rw [List.map_cons, List.flatMap_cons, ih, IdentityCall.effects]
    unfold listings
    by_cases hd : document.id = d
    · rw [if_pos hd, List.filter_cons_of_pos (by simpa using hd), List.flatMap_cons,
        List.filterMap_append]
    · rw [if_neg hd, List.filter_cons_of_neg (by simpa using hd), List.nil_append]

theorem Completed.listed (hj : JsonbKeeps P) (h : Completed P calls db)
    (hi : .upsert identity ∈ calls) (hk : key ∈ identity.verification_methods) :
    ∃ row, P.keyRow identity.id key = .ok row := by
  induction h with
  | start => cases hi
  | call _ hrun ih =>
    rcases List.mem_append.mp hi with hi | hi
    · exact ih hi
    · cases List.mem_singleton.mp hi
      obtain ⟨row, rows, -, -, hrows, -, -⟩ := upsertIdentity_run hj hrun
      obtain ⟨row, -, hrow⟩ := mapM_mem hrows hk
      exact ⟨row, hrow⟩
  | elsewhere _ _ _ ih => exact ih hi

theorem mem_listings (h : key ∈ listings documents d k) :
    ∃ document ∈ documents, document.id = d ∧ key ∈ document.verification_methods ∧ key.id = k := by
  simpa [listings, and_assoc] using h

/-- The rows of a key after the documents of its identity. -/
theorem Completed.keyRow_documents (hj : JsonbKeeps P)
    (h : Completed P (documents.map IdentityCall.upsert) db) :
    db.keyRow d k = ((listings documents d k).filterMap fun key =>
      (P.keyRow d key).toOption.map .listed).foldl KeyEffect.apply none := by
  rw [(h.keys hj).2, effects_upserts]

theorem Completed.listings_ok (hj : JsonbKeeps P)
    (h : Completed P (documents.map IdentityCall.upsert) db) :
    ∀ key ∈ listings documents d k, ∃ row, P.keyRow d key = .ok row := by
  intro key hkey
  obtain ⟨document, hd, rfl, hmem, -⟩ := mem_listings hkey
  exact h.listed hj (List.mem_map_of_mem hd) hmem

/-- What is read back are the keys of the rows, also where there is no row. -/
theorem getIdentity_documents {document : IdentityDocumentV1} (hj : JsonbKeeps P)
    (h : Completed P (documents.map IdentityCall.upsert) db) (hd : document ∈ documents) :
    ∃ found, (P.getIdentity document.id).run db = (.ok (some found), db) ∧
      ∀ k, findVerificationMethod found k = (db.keyRow document.id k).map KeyRow.method := by
  have hi : .upsert document ∈ documents.map IdentityCall.upsert := List.mem_map_of_mem hd
  obtain ⟨stored, other, hdocument, ho, hid, hstored⟩ := h.document_stored hj hi
  have hclear : ClearText document.id := hid ▸ hj.id _ _ hstored
  obtain ⟨found, hrun, hkeys⟩ := getIdentity_run hclear hdocument (h.keys hj).1
  refine ⟨found, hrun, ?_⟩
  rcases hkeys with ⟨hnone, rfl⟩ | hkeys
  · intro k
    rw [hnone, findVerificationMethod, hj.methods _ _ hstored]
    apply List.find?_eq_none.mpr
    intro key hkey _
    have hlisted : key ∈ listings documents document.id key.id := by
      obtain ⟨_, ho', ⟨⟩⟩ := List.mem_map.mp ho
      simp only [listings, List.mem_flatMap, List.mem_filter]
      exact ⟨other, ⟨ho', by simpa using hid⟩, hkey, beq_self_eq_true _⟩
    obtain ⟨_, _, _, _, -, -, -, -, hrow⟩ :=
      foldl_listed (h.listings_ok hj) (List.ne_nil_of_mem hlisted)
    rw [← h.keyRow_documents hj, hnone] at hrow
    cases hrow
  · exact hkeys

end Rows

/-- A document survives storage exactly where no key of an earlier document is missing in it and
each of its keys is active at the times that its rows keep. -/
theorem getIdentity_survives_iff {P : PostgresRepository} {db : Database}
    {documents : List IdentityDocumentV1} {document : IdentityDocumentV1} (hj : JsonbKeeps P)
    (h : Completed P (documents.map IdentityCall.upsert) db)
    (hlast : (documents.filter fun other => other.id == document.id).getLast? = some document)
    (htimes : DocumentTimesKept P documents document.id) :
    Survives P db document ↔ ∀ k, KeyKept P.host documents document k := by
  obtain ⟨hmem, -⟩ := List.mem_filter.mp (List.mem_of_getLast? hlast)
  obtain ⟨found, hrun, hkeys⟩ := getIdentity_documents hj h hmem
  have hiff : Survives P db document ↔ ∀ k, match findVerificationMethod document k with
      | none => findVerificationMethod found k = none
      | some key => ∃ stored, findVerificationMethod found k = some stored ∧
        ∀ timestamp, keyActiveAt P.host stored timestamp = keyActiveAt P.host key timestamp := by
    constructor
    · rintro ⟨found', hrun', hall⟩
      rw [hrun] at hrun'
      cases hrun'
      exact hall
    · exact fun hall => ⟨found, hrun, hall⟩
  rw [hiff]
  apply forall_congr'
  intro k
  have hfold := h.keyRow_documents hj (d := document.id) (k := k)
  rw [KeyKept]
  cases hfind : findVerificationMethod document k with
  | none =>
    dsimp only
    rw [hkeys]
    by_cases hnil : listings documents document.id k = []
    · rw [hfold, hnil]
      simp
    · obtain ⟨_, _, _, _, -, -, -, -, hrow⟩ := foldl_listed (h.listings_ok hj) hnil
      rw [hfold, hrow]
      simp [hnil]
  | some key =>
    dsimp only
    have hid : (key.id == k) = true := by
      rw [findVerificationMethod] at hfind
      simpa using List.find?_some hfind
    have hlisted : key ∈ listings documents document.id k := by
      simp only [listings, List.mem_flatMap, List.mem_filter]
      exact ⟨document, ⟨hmem, beq_self_eq_true _⟩, List.mem_of_find?_eq_some hfind, hid⟩
    obtain ⟨first, last, firstRow, lastRow, hfirst, hlast, hfirstRow, hlastRow, hrow⟩ :=
      foldl_listed (h.listings_ok hj) (List.ne_nil_of_mem hlisted)
    have hactive := method_active hfirstRow hlastRow
      (htimes.created_at k first (List.mem_of_head? hfirst))
      (htimes.expires_at k last (List.mem_of_getLast? hlast)) htimes.empty
    rw [hkeys, hfold, hrow, hfirst, hlast]
    simp only [Option.map_some, Option.some.injEq, exists_eq_left', hactive]
    constructor
    · rintro hall _ _ rfl rfl
      exact activeSpan_eq_iff.mpr fun timestamp => (hall timestamp).symm
    · intro hspan timestamp
      exact (activeSpan_eq_iff.mp (hspan first last rfl rfl) timestamp).symm

/-- Alice's document after she has revoked her key. -/
def retiredIdentity : IdentityDocumentV1 :=
  { aliceIdentity with
    verification_methods := aliceIdentity.verification_methods.map fun key =>
      { key with
        status := .revoked
        revoked_at := some (js "2026-05-25T00:00:01Z") } }

def retiredPostgres : PostgresRepository :=
  samplePostgres (recorded [(domainMessage DOMAIN_TAGS.IDENTITY_V1
    (valueBytes retiredIdentity.toJs),
    bigEndian 32 0x57f15eb3f66861117d1e769ba464598d9b89757a1899d165ee6d94467b1001f0)] [] longDigest)

/-- The rows forget when the key was revoked: it was never active. -/
theorem getIdentity_retired : ∃ db,
    Completed retiredPostgres ([retiredIdentity].map IdentityCall.upsert) db ∧
      ¬Survives retiredPostgres db retiredIdentity := by
  have hstart : Completed retiredPostgres [] emptyDatabase := .start rfl rfl
  refine ⟨_, hstart.next (.upsert retiredIdentity) (by decide +kernel), ?_⟩
  rintro ⟨found, hrun, hkeys⟩
  have hinactive : (fun found => (found.bind fun identity =>
      findVerificationMethod identity (js "#k1")).map fun key =>
        keyActiveAt retiredPostgres.host key (js "2026-05-25T00:00:00Z")) <$>
      ((retiredPostgres.getIdentity retiredIdentity.id).run
        (((IdentityCall.upsert retiredIdentity).program retiredPostgres).run
          emptyDatabase).2).1 = .ok (some false) := by
    decide +kernel
  rw [hrun] at hinactive
  obtain ⟨key, hkey⟩ : ∃ key, findVerificationMethod retiredIdentity (js "#k1") = some key :=
    ⟨_, rfl⟩
  have hsame := hkeys (js "#k1")
  rw [hkey] at hsame
  obtain ⟨stored, hstored, hactive⟩ := hsame
  have hactive := hactive (js "2026-05-25T00:00:00Z")
  have hbefore : keyActiveAt retiredPostgres.host key (js "2026-05-25T00:00:00Z") = true := by
    cases hkey
    decide +kernel
  rw [hbefore] at hactive
  simp [Functor.map, Except.map, hstored, hactive] at hinactive

theorem getIdentity_survives_iff_sample :
    Survives durablePostgres (afterCalls [.upsert aliceIdentity]) aliceIdentity := by
  have hstart : Completed durablePostgres [] emptyDatabase := .start rfl rfl
  have hcompleted : Completed durablePostgres ([aliceIdentity].map IdentityCall.upsert)
      (afterCalls [.upsert aliceIdentity]) :=
    hstart.next (.upsert aliceIdentity) (by decide +kernel)
  have hentry : ∀ k, ∀ key ∈ listings [aliceIdentity] aliceIdentity.id k,
      key.created_at = js "2026-01-01T00:00:00Z" ∧ key.expires_at = none := by
    intro k key hkey
    obtain ⟨_, hdocument, -, hmem, -⟩ := mem_listings hkey
    cases List.mem_singleton.mp hdocument
    cases List.mem_singleton.mp hmem
    exact ⟨rfl, rfl⟩
  have htimes : DocumentTimesKept durablePostgres [aliceIdentity] aliceIdentity.id := by
    refine ⟨?_, ?_, ?_⟩
    · intro time ht
      have hempty : (durablePostgres.timestamptz []).toOption = none := by decide +kernel
      rw [ht] at hempty
      cases hempty
    · intro k key hkey time ht
      rw [(hentry k key hkey).1] at ht ⊢
      obtain rfl : (1767225600000000 : Int) = time :=
        Except.ok.inj ((by decide +kernel : _ = Except.ok _).symm.trans ht)
      decide +kernel
    · intro k key hkey text ht
      rw [(hentry k key hkey).2] at ht
      cases ht
  apply (getIdentity_survives_iff (samplePostgres_keeps _) hcompleted rfl htimes).mpr
  intro k
  by_cases hk : js "#k1" = k
  · subst hk
    rintro first last ⟨⟩ ⟨⟩
    rfl
  · have hnone : findVerificationMethod aliceIdentity k = none :=
      List.find?_cons_of_neg (by simpa [sampleKey] using hk)
    have hlistings : listings [aliceIdentity] aliceIdentity.id k = [] := by
      apply List.eq_nil_iff_forall_not_mem.mpr
      intro key hkey
      obtain ⟨_, hdocument, -, hmem, hid⟩ := mem_listings hkey
      cases List.mem_singleton.mp hdocument
      cases List.mem_singleton.mp hmem
      exact hk hid
    rw [KeyKept, hnone]
    exact hlistings

end Continuity

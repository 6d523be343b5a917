import Continuity.CheckpointChain
import Continuity.RelaySettlement

namespace Continuity
open Chains Collections Frames
set_option autoImplicit true

/-- The settled checkpoints of a shard, in the order in which they were settled. -/
def InMemoryRelayStore.settledOf (S : InMemoryRelayStore) (shard : JsString) :
    List BatchCheckpointV1 :=
  S.settledCheckpoints.values.filter fun checkpoint => checkpoint.shard == shard

/-- The key of the store under which a checkpoint belongs. -/
def segmentKey (H : Host) (checkpoint : BatchCheckpointV1) : JsString :=
  checkpointStoreKey H checkpoint.epoch_start_ms checkpoint.shard

/-- A segment without a settled checkpoint is submitted only for an epoch after all settled ones
of its shard, and while no other open segment of the shard is being submitted. -/
def ClosesInOrder (R : Relay) (s : RelaySystem) (entry : Moment × RelayAction) : Prop :=
  ∀ epoch shard, entry.2 = .beginSubmit epoch shard →
    s.store.settledCheckpoints.has (checkpointStoreKey R.host epoch shard) = false →
    (∀ checkpoint ∈ s.store.settledOf shard, checkpoint.epoch_start_ms.lt epoch = true) ∧
    ∀ call ∈ s.submitting, call.shard = shard →
      s.store.settledCheckpoints.has
        (checkpointStoreKey R.host call.epoch_start_ms call.shard) = false →
      call.epoch_start_ms.strictEq epoch = true

/-- A checkpoint on its way to the store names the settled one before it. -/
structure Submitted (R : Relay) (S : InMemoryRelayStore) (call : PendingCheckpoint)
    (checkpoint : BatchCheckpointV1) : Prop where
  key : segmentKey R.host checkpoint =
    checkpointStoreKey R.host call.epoch_start_ms call.shard
  hashed : ∃ hash, checkpointHash R.noble checkpoint = .ok hash
  below : LastBelow ZERO_HASH (checkpointLinks R.noble (S.settledOf checkpoint.shard))
    (checkpointLink R.noble checkpoint).key checkpoint.previous_checkpoint
  later : S.settledCheckpoints.has (segmentKey R.host checkpoint) = false →
    ∀ other ∈ S.settledOf checkpoint.shard,
      (checkpointLink R.noble other).key < (checkpointLink R.noble checkpoint).key

/-- The settled checkpoints of each shard are a chain, and those on their way go at its end. -/
structure ChainInvariant (R : Relay) (s : RelaySystem) : Prop where
  keyed : ∀ key checkpoint, s.store.settledCheckpoints.get? key = some checkpoint →
    segmentKey R.host checkpoint = key
  chained : ∀ shard, Chained R.noble (s.store.settledOf shard)
  submitting : ∀ call ∈ s.submitting, ∀ checkpoint, call.settled = .ok checkpoint →
    Submitted R s.store call checkpoint
  single : ∀ call ∈ s.submitting, ∀ other ∈ s.submitting, ∀ a b,
    call.settled = .ok a → other.settled = .ok b → a.shard = b.shard →
    s.store.settledCheckpoints.has (segmentKey R.host a) = false →
    s.store.settledCheckpoints.has (segmentKey R.host b) = false →
    (checkpointLink R.noble a).key = (checkpointLink R.noble b).key

section Links

variable {R : Relay} {S : InMemoryRelayStore}

theorem mem_settledOf {checkpoint : BatchCheckpointV1} : checkpoint ∈ S.settledOf shard ↔
    (∃ key, S.settledCheckpoints.get? key = some checkpoint) ∧ checkpoint.shard = shard := by
  simp [InMemoryRelayStore.settledOf, OrderedMap.mem_values]

/-- Checkpoints with hashes stand under one key only for one shard and epoch. -/
theorem segmentKey_unique (hn : NumberText H) (ha : ∃ hash, checkpointHash N a = .ok hash)
    (hb : ∃ hash, checkpointHash N b = .ok hash) (h : segmentKey H a = segmentKey H b) :
    (checkpointLink N a).key = (checkpointLink N b).key ∧ a.shard = b.shard := by
  obtain ⟨_, ha⟩ := ha
  obtain ⟨_, hb⟩ := hb
  obtain ⟨he, hs⟩ := checkpointStoreKey_unique hn h
  refine ⟨?_, hs⟩
  rw [checkpointHash_epoch ha, checkpointHash_epoch hb] at he
  rcases he with he | he <;> simpa [JsNumber.strictEq, JsNumber.ofInt, JsNumber.value?] using he

theorem segmentKey_congr (ha : ∃ hash, checkpointHash N a = .ok hash)
    (hb : ∃ hash, checkpointHash N b = .ok hash)
    (hk : (checkpointLink N a).key = (checkpointLink N b).key) (hs : a.shard = b.shard) :
    segmentKey H a = segmentKey H b := by
  obtain ⟨_, ha⟩ := ha
  obtain ⟨_, hb⟩ := hb
  rw [segmentKey, segmentKey, checkpointHash_epoch ha, checkpointHash_epoch hb, hk, hs]

/-- The hash of the last settled checkpoint before an epoch. -/
theorem previousCheckpointHash_below (h : Chained R.noble (S.settledOf shard))
    (hp : S.previousCheckpointHash R (.ofInt z) shard = .ok previous) :
    LastBelow ZERO_HASH (checkpointLinks R.noble (S.settledOf shard)) z previous := by
  let key (c : BatchCheckpointV1) : Int := (checkpointLink R.noble c).key
  let early := (S.settledOf shard).filter fun c => c.epoch_start_ms.lt (.ofInt z)
  have hfilter : (S.settledCheckpoints.values.filter fun c =>
      c.shard == shard && c.epoch_start_ms.lt (.ofInt z)) = early := by
    simp only [early, InMemoryRelayStore.settledOf, List.filter_filter, Bool.and_comm]
  have hepoch (c : BatchCheckpointV1) (hc : c ∈ S.settledOf shard) :
      c.epoch_start_ms = .ofInt (key c) := by
    obtain ⟨_, hh⟩ := h.hashed c hc
    exact checkpointHash_epoch hh
  have hearly (c : BatchCheckpointV1) : c ∈ early ↔ c ∈ S.settledOf shard ∧ key c < z := by
    simp only [early, List.mem_filter, and_congr_right_iff]
    intro hc
    rw [hepoch c hc, JsNumber.ofInt_lt, decide_eq_true_eq]
  have hkeys : (early.insertionSort fun left right =>
      right.epoch_start_ms.le left.epoch_start_ms = true).map key =
        (early.map key).insertionSort (· ≥ ·) := by
    apply List.map_insertionSort
    intro a ha b hb
    rw [hepoch a ((hearly a).mp ha).1, hepoch b ((hearly b).mp hb).1, JsNumber.ofInt_le,
      decide_eq_true_eq, ge_iff_le]
  have hsorted : ((early.insertionSort fun left right =>
      right.epoch_start_ms.le left.epoch_start_ms = true).map key).Pairwise (· ≥ ·) := by
    rw [hkeys]
    exact List.pairwise_insertionSort _ _
  unfold InMemoryRelayStore.previousCheckpointHash at hp
  simp only [hfilter] at hp
  have hmem (c : BatchCheckpointV1) := List.mem_insertionSort
    (fun left right : BatchCheckpointV1 => right.epoch_start_ms.le left.epoch_start_ms = true)
    (l := early) (x := c)
  generalize early.insertionSort (fun left right : BatchCheckpointV1 =>
    right.epoch_start_ms.le left.epoch_start_ms = true) = sorted at hp hsorted hmem
  cases sorted with
  | nil =>
    cases hp
    refine .inr ⟨?_, rfl⟩
    rintro link hl hlt
    obtain ⟨c, hc, rfl⟩ := List.mem_map.mp hl
    cases (hmem c).mpr ((hearly c).mpr ⟨hc, hlt⟩)
  | cons last rest =>
    obtain ⟨hc, hlt⟩ := (hearly last).mp ((hmem last).mp (by simp))
    refine .inl ⟨checkpointLink R.noble last, List.mem_map_of_mem hc, hlt, ?_, ?_⟩
    · rintro link hl hlt'
      obtain ⟨c, hc', rfl⟩ := List.mem_map.mp hl
      rcases List.mem_cons.mp ((hmem c).mpr ((hearly c).mpr ⟨hc', hlt'⟩)) with rfl | hr
      · exact le_rfl
      · exact (List.pairwise_cons.mp hsorted).1 (key c) (List.mem_map_of_mem hr)
    · exact (checkpointLink_digest hp).symm

/-- A new checkpoint names the settled one before it. -/
theorem unsignedCheckpoint_link (h : S.unsignedCheckpoint R epoch shard = .ok checkpoint) :
    checkpoint.epoch_start_ms = epoch ∧ checkpoint.shard = shard ∧
      S.previousCheckpointHash R epoch shard = .ok checkpoint.previous_checkpoint ∧
      ∃ hash, checkpointHash R.noble checkpoint = .ok hash := by
  simp only [InMemoryRelayStore.unsignedCheckpoint, bind_eq_ok] at h
  obtain ⟨_, -, _, -, _, -, _, -, _, hp, hash, hh, h⟩ := h
  cases h
  exact ⟨rfl, rfl, hp, hash, hh⟩

/-- A checkpoint that is settled again has the hash of the settled one. -/
theorem finishSubmitCheckpoint_agrees
    (h : S.finishSubmitCheckpoint R call = .ok (checkpoint, S'))
    (he : S.settledCheckpoints.get? (checkpointStoreKey R.host call.epoch_start_ms call.shard) =
      some existing) :
    checkpointHash R.noble existing = checkpointHash R.noble checkpoint := by
  obtain ⟨settled, hs, h⟩ := bind_eq_ok.mp h
  obtain ⟨conflict, hc, h⟩ := bind_eq_ok.mp h
  split at h
  · cases h
  · next hno =>
    cases h
    simp only [InMemoryRelayStore.settlesAnother, he, InMemoryRelayStore.conflictsWith,
      bind_eq_ok] at hc
    obtain ⟨old, hold, new, hnew, hc⟩ := hc
    cases hc
    rw [hold, hnew, not_ne_iff.mp fun hne => hno (bne_iff_ne.mpr hne)]

end Links

section Invariant

variable {R : Relay} {s t : RelaySystem}

theorem ChainInvariant.init (R : Relay) (resolver : MemoryTrustResolver) :
    ChainInvariant R (.idle (.blank resolver)) where
  keyed := by
    intro key checkpoint h
    cases h
  chained := fun _ => chained_nil R.noble
  submitting := by
    intro call h
    cases h
  single := by
    intro call h
    cases h

/-- A step that leaves the settled checkpoints alone and begins no submission. -/
theorem ChainInvariant.of_same (h : ChainInvariant R s)
    (hs : t.store.settledCheckpoints = s.store.settledCheckpoints)
    (hp : ∀ call ∈ t.submitting, call ∈ s.submitting) : ChainInvariant R t := by
  have ho (shard : JsString) : t.store.settledOf shard = s.store.settledOf shard := by
    rw [InMemoryRelayStore.settledOf, hs, InMemoryRelayStore.settledOf]
  refine ⟨?_, ?_, ?_, ?_⟩
  · rw [hs]
    exact h.keyed
  · intro shard
    rw [ho]
    exact h.chained shard
  · intro call hm checkpoint hc
    obtain ⟨hk, hh, hb, hl⟩ := h.submitting call (hp call hm) checkpoint hc
    exact ⟨hk, hh, by rw [ho]; exact hb, by rw [ho, hs]; exact hl⟩
  · rw [hs]
    intro call hm other hm'
    exact h.single call (hp call hm) other (hp other hm')

/-- The checkpoint of a segment that is submitted in order. -/
theorem ChainInvariant.checkpointFor (h : ChainInvariant R s)
    (hg : ClosesInOrder R s (m, .beginSubmit epoch shard))
    (hc : s.store.checkpointFor R epoch shard = .ok checkpoint)
    (backend : Js BatchCheckpointV1) :
    Submitted R s.store ⟨epoch, shard, backend⟩ checkpoint := by
  rcases checkpointFor_ok hc with hs | ⟨hs, unsigned, hu, hsign⟩
  · -- the settled checkpoint itself
    have hk := h.keyed _ checkpoint hs
    have hm : checkpoint ∈ s.store.settledOf checkpoint.shard := mem_settledOf.mpr ⟨⟨_, hs⟩, rfl⟩
    refine ⟨hk, (h.chained _).hashed _ hm, ?_, ?_⟩
    · exact (h.chained checkpoint.shard).linked _ (List.mem_map_of_mem hm)
    · intro hopen
      rw [hk, OrderedMap.has, hs] at hopen
      cases hopen
  · -- a new one after all settled ones
    obtain ⟨signature, rfl⟩ := signCheckpoint_ok hsign
    obtain ⟨he, hshard, hp, hash, hh⟩ := unsignedCheckpoint_link hu
    have hh' : checkpointHash R.noble { unsigned with relay_signature := signature } =
        .ok hash := by
      rw [← hh]
      exact checkpointHash_unsigned R.noble unsigned unsigned.checkpoint_identity_hash
        unsigned.settlement_tx signature
    have hz := checkpointHash_epoch hh
    subst hshard
    have hopen : s.store.settledCheckpoints.has
        (checkpointStoreKey R.host epoch unsigned.shard) = false := by
      rw [OrderedMap.has, hs]
      rfl
    obtain ⟨hlater, -⟩ := hg epoch unsigned.shard rfl hopen
    rw [← he, hz] at hp hlater
    refine ⟨by rw [segmentKey, he], ⟨hash, hh'⟩, ?_, ?_⟩
    · exact previousCheckpointHash_below (h.chained unsigned.shard) hp
    · intro _ other hm
      obtain ⟨_, ho⟩ := (h.chained unsigned.shard).hashed other hm
      have hlt := hlater other hm
      rw [checkpointHash_epoch ho, JsNumber.ofInt_lt, decide_eq_true_eq] at hlt
      exact hlt

theorem Submitted.settle (h : Submitted R S call checkpoint) (tx : Option JsString)
    (backend : Js BatchCheckpointV1) :
    Submitted R S ⟨call.epoch_start_ms, call.shard, backend⟩
      { checkpoint with settlement_tx := tx } := by
  have hx : checkpointHash R.noble { checkpoint with settlement_tx := tx } =
      checkpointHash R.noble checkpoint :=
    checkpointHash_unsigned R.noble checkpoint checkpoint.checkpoint_identity_hash tx
      checkpoint.relay_signature
  exact ⟨h.key, by rw [hx]; exact h.hashed, h.below, h.later⟩

/-- A submission in order, whatever the backend answers. -/
theorem ChainInvariant.submitted (h : ChainInvariant R s) (hn : NumberText R.host)
    (hg : ClosesInOrder R s (m, .beginSubmit epoch shard))
    (hc : s.store.checkpointFor R epoch shard = .ok checkpoint)
    {backend : Js BatchCheckpointV1} (hb : ∀ settled, backend = .ok settled →
      ∃ tx, settled = { checkpoint with settlement_tx := some tx }) :
    ChainInvariant R { s with submitting := s.submitting ++ [⟨epoch, shard, backend⟩] } := by
  have hnew (settled : BatchCheckpointV1) (hs : backend = .ok settled) :
      Submitted R s.store ⟨epoch, shard, backend⟩ settled := by
    obtain ⟨tx, rfl⟩ := hb settled hs
    exact (h.checkpointFor hg hc backend).settle (some tx) backend
  -- another open segment of the shard that is under way is the same segment
  have hsame (call : PendingCheckpoint) (hm : call ∈ s.submitting) (a b : BatchCheckpointV1)
      (ha : call.settled = .ok a) (hb : backend = .ok b) (hs : a.shard = b.shard)
      (hopen : s.store.settledCheckpoints.has (segmentKey R.host a) = false)
      (hopen' : s.store.settledCheckpoints.has (segmentKey R.host b) = false) :
      (checkpointLink R.noble a).key = (checkpointLink R.noble b).key := by
    have hA := h.submitting call hm a ha
    have hB := hnew b hb
    obtain ⟨-, hsa⟩ := checkpointStoreKey_unique hn hA.key
    obtain ⟨-, hsb⟩ := checkpointStoreKey_unique hn hB.key
    rw [hA.key] at hopen
    rw [hB.key] at hopen'
    have hshard : call.shard = shard := by rw [← hsa, hs, hsb]
    have he := (hg epoch shard rfl hopen').2 call hm hshard hopen
    refine (segmentKey_unique hn hA.hashed hB.hashed ?_).1
    rw [hA.key, hB.key, checkpointStoreKey, checkpointStoreKey, hn.same _ _ he, hshard]
  refine ⟨h.keyed, h.chained, ?_, ?_⟩
  · intro call hm settled hs
    rcases List.mem_append.mp hm with hm | hm
    · exact h.submitting call hm settled hs
    · rw [List.mem_singleton.mp hm] at hs ⊢
      exact hnew settled hs
  · intro call hm other hm' a b ha hb hs hopen hopen'
    rcases List.mem_append.mp hm with hm | hm <;> rcases List.mem_append.mp hm' with hm' | hm'
    · exact h.single call hm other hm' a b ha hb hs hopen hopen'
    · rw [List.mem_singleton.mp hm'] at hb
      exact hsame call hm a b ha hb hs hopen hopen'
    · rw [List.mem_singleton.mp hm] at ha
      exact (hsame other hm' b a hb ha hs.symm hopen' hopen).symm
    · rw [List.mem_singleton.mp hm] at ha
      rw [List.mem_singleton.mp hm'] at hb
      cases ha.symm.trans hb
      rfl

/-- A segment that had no settled checkpoint gets the last one of its shard. -/
theorem ChainInvariant.settled_new (h : ChainInvariant R s) (hn : NumberText R.host)
    (hm : call ∈ s.submitting) (hc : call.settled = .ok checkpoint)
    (hopen : s.store.settledCheckpoints.has (segmentKey R.host checkpoint) = false)
    (hp : ∀ other ∈ t.submitting, other ∈ s.submitting)
    (ht : t.store.settledCheckpoints =
      s.store.settledCheckpoints.set (segmentKey R.host checkpoint) checkpoint) :
    ChainInvariant R t := by
  have hsub := h.submitting call hm checkpoint hc
  have hvalues (shard : JsString) : t.store.settledOf shard = s.store.settledOf shard ++
      if checkpoint.shard = shard then [checkpoint] else [] := by
    rw [InMemoryRelayStore.settledOf, ht, OrderedMap.values_set_of_has _ hopen,
      List.filter_append, InMemoryRelayStore.settledOf]
    by_cases hs : checkpoint.shard = shard <;> simp [hs]
  have hstill (key : JsString) (hk : t.store.settledCheckpoints.has key = false) :
      key ≠ segmentKey R.host checkpoint ∧ s.store.settledCheckpoints.has key = false := by
    rw [ht, OrderedMap.has, OrderedMap.get?_set] at hk
    split at hk
    · cases hk
    · next hne => exact ⟨hne, hk⟩
  refine ⟨?_, ?_, ?_, ?_⟩
  · intro key settled hget
    rw [ht, OrderedMap.get?_set] at hget
    split at hget
    · next he =>
      cases hget
      exact he.symm
    · exact h.keyed key settled hget
  · intro shard
    rw [hvalues]
    split
    · next he =>
      subst he
      have hlater := hsub.later hopen
      refine (h.chained _).append hsub.hashed hsub.below ?_ ?_
      · intro next hnext hlt _
        exact absurd (hlater next hnext) hlt.not_gt
      · intro other ho
        exact (hlater other ho).ne
    · rw [List.append_nil]
      exact h.chained shard
  · intro other hother a ha
    have hA := h.submitting other (hp other hother) a ha
    refine ⟨hA.key, hA.hashed, ?_, ?_⟩
    · rw [hvalues]
      split
      · next he =>
        rw [checkpointLinks_append]
        apply hA.below.insert
        -- the checkpoint on its way is for the new epoch or for an earlier one
        by_cases ha' : s.store.settledCheckpoints.has (segmentKey R.host a) = false
        · exact (h.single other (hp other hother) call hm a checkpoint ha hc he.symm ha' hopen).le
        · rw [Bool.not_eq_false, OrderedMap.has] at ha'
          obtain ⟨existing, hex⟩ := Option.isSome_iff_exists.mp ha'
          have hmem : existing ∈ s.store.settledOf existing.shard :=
            mem_settledOf.mpr ⟨⟨_, hex⟩, rfl⟩
          obtain ⟨hk, hs⟩ := segmentKey_unique hn ((h.chained _).hashed existing hmem) hA.hashed
            (h.keyed _ existing hex)
          rw [hs, ← he] at hmem
          rw [← hk]
          exact (hsub.later hopen existing hmem).le
      · rw [List.append_nil]
        exact hA.below
    · intro hstay
      obtain ⟨hne, hopen'⟩ := hstill _ hstay
      intro b hb
      rw [hvalues] at hb
      rcases List.mem_append.mp hb with hb | hb
      · exact hA.later hopen' b hb
      · split at hb
        · next he =>
          have hk := h.single other (hp other hother) call hm a checkpoint ha hc he.symm hopen'
            hopen
          exact absurd (segmentKey_congr hA.hashed hsub.hashed hk he.symm) hne
        · cases hb
  · intro call' hm' other hm'' a b ha hb hs hopen' hopen''
    exact h.single call' (hp _ hm') other (hp _ hm'') a b ha hb hs (hstill _ hopen').2
      (hstill _ hopen'').2

/-- A segment that is settled again keeps its link. -/
theorem ChainInvariant.settled_again (h : ChainInvariant R s) (hn : NumberText R.host)
    (hm : call ∈ s.submitting) (hc : call.settled = .ok checkpoint)
    (he : s.store.settledCheckpoints.get? (segmentKey R.host checkpoint) = some existing)
    (hh : checkpointHash R.noble existing = checkpointHash R.noble checkpoint)
    (hp : ∀ other ∈ t.submitting, other ∈ s.submitting)
    (ht : t.store.settledCheckpoints =
      s.store.settledCheckpoints.set (segmentKey R.host checkpoint) checkpoint) :
    ChainInvariant R t := by
  have hsub := h.submitting call hm checkpoint hc
  have hmem : existing ∈ s.store.settledOf existing.shard := mem_settledOf.mpr ⟨⟨_, he⟩, rfl⟩
  have hexisting := (h.chained existing.shard).hashed existing hmem
  obtain ⟨hk, hs⟩ := segmentKey_unique hn hexisting hsub.hashed (h.keyed _ existing he)
  have hlink : checkpointLink R.noble existing = checkpointLink R.noble checkpoint := by
    have hbelow := (h.chained existing.shard).linked _ (List.mem_map_of_mem hmem)
    have hbelow' := hsub.below
    rw [← hs, ← hk] at hbelow'
    have hprev := hbelow.unique (Chained.injOn (h.chained _)) hbelow'
    simp only [checkpointLink, Link.mk.injEq] at hk hprev ⊢
    exact ⟨hk, by rw [hh], hprev⟩
  obtain ⟨before, after, hb, ha⟩ := OrderedMap.values_set_of_get? he checkpoint
  have hlinks (shard : JsString) : (t.store.settledOf shard).map (checkpointLink R.noble) =
      (s.store.settledOf shard).map (checkpointLink R.noble) := by
    rw [InMemoryRelayStore.settledOf, ht, ha, InMemoryRelayStore.settledOf, hb,
      List.filter_append, List.filter_append, List.filter_cons, List.filter_cons, hs]
    split <;> simp [hlink]
  have hset (shard : JsString) : checkpointLinks R.noble (t.store.settledOf shard) =
      checkpointLinks R.noble (s.store.settledOf shard) := by
    rw [checkpointLinks, hlinks, checkpointLinks]
  have hhas (key : JsString) :
      t.store.settledCheckpoints.has key = s.store.settledCheckpoints.has key := by
    rw [ht, OrderedMap.has, OrderedMap.get?_set, OrderedMap.has]
    split
    · next hkey => rw [hkey, he]; rfl
    · rfl
  have hget (key : JsString) (settled : BatchCheckpointV1)
      (hg : t.store.settledCheckpoints.get? key = some settled) :
      settled = checkpoint ∧ key = segmentKey R.host checkpoint ∨
        s.store.settledCheckpoints.get? key = some settled := by
    rw [ht, OrderedMap.get?_set] at hg
    split at hg
    · next hkey =>
      cases hg
      exact .inl ⟨rfl, hkey⟩
    · exact .inr hg
  refine ⟨?_, ?_, ?_, ?_⟩
  · intro key settled hg
    rcases hget key settled hg with ⟨rfl, rfl⟩ | hg
    · rfl
    · exact h.keyed key settled hg
  · intro shard
    refine (h.chained shard).congr (hlinks shard) ?_
    intro settled hm'
    obtain ⟨⟨key, hg⟩, hs'⟩ := mem_settledOf.mp hm'
    rcases hget key settled hg with ⟨rfl, -⟩ | hg
    · exact hsub.hashed
    · exact (h.chained shard).hashed settled (mem_settledOf.mpr ⟨⟨key, hg⟩, hs'⟩)
  · intro other hother a ha'
    have hA := h.submitting other (hp other hother) a ha'
    refine ⟨hA.key, hA.hashed, by rw [hset]; exact hA.below, ?_⟩
    intro hopen b hb'
    rw [hhas] at hopen
    have hb'' : checkpointLink R.noble b ∈
        (s.store.settledOf a.shard).map (checkpointLink R.noble) := by
      rw [← hlinks]
      exact List.mem_map_of_mem hb'
    obtain ⟨b', hmem', hlink'⟩ := List.mem_map.mp hb''
    rw [← hlink']
    exact hA.later hopen b' hmem'
  · simp only [hhas]
    intro call' hm' other hm''
    exact h.single call' (hp _ hm') other (hp _ hm'')

/-- One step that submits in order. -/
theorem ChainInvariant.step (h : ChainInvariant R s) (hn : NumberText R.host)
    (ha : m.AddsTransaction) (hg : ClosesInOrder R s (m, action)) :
    ChainInvariant R (s.stepIn R (m, action)) := by
  have ht : Transition (R.during m) s action (s.stepIn R (m, action)) := act_transition _ s action
  generalize s.stepIn R (m, action) = t at ht
  cases ht with
  | unchanged => exact h
  | resolved resolver => exact h.of_same rfl fun _ => id
  | begun hb => exact h.of_same rfl fun _ => id
  | refused => exact h.of_same rfl fun _ => id
  | logged hc hok =>
    obtain ⟨_, -, -, -, -, -, -, -, -, rfl⟩ := finishAcceptEvent_ok hok
    exact h.of_same rfl fun _ => id
  | receipt hok =>
    obtain ⟨_, -, -, rfl⟩ := acceptReceipt_ok hok
    exact h.of_same rfl fun _ => id
  | attestation hok =>
    obtain ⟨_, -, -, rfl⟩ := acceptAttestation_ok hok
    exact h.of_same rfl fun _ => id
  | revocation hok =>
    obtain ⟨_, -, -, rfl⟩ := acceptRevocation_ok hok
    exact h.of_same rfl fun _ => id
  | submitted hok =>
    obtain ⟨backend, checkpoint, hb, hc, rfl⟩ := beginSubmitCheckpoint_ok hok
    rw [checkpointFor_during] at hc
    apply h.submitted hn hg hc
    intro settled hs
    rw [Relay.during_backend hb] at hs
    exact ha checkpoint settled hs
  | unsettled => exact h.of_same rfl fun _ hm => List.mem_of_mem_eraseIdx hm
  | @settled n call checkpoint store hc hok =>
    have hm : call ∈ s.submitting := List.mem_of_getElem? hc
    have hp : ∀ other ∈ s.submitting.eraseIdx n, other ∈ s.submitting :=
      fun _ hm => List.mem_of_mem_eraseIdx hm
    obtain ⟨hs, rfl⟩ := finishSubmitCheckpoint_ok hok
    have hkey := (h.submitting call hm checkpoint hs).key
    cases he : s.store.settledCheckpoints.get? (segmentKey R.host checkpoint) with
    | none =>
      refine h.settled_new hn hm hs ?_ hp ?_
      · rw [OrderedMap.has, he]
        rfl
      · rw [hkey]
        rfl
    | some existing =>
      refine h.settled_again hn hm hs he ?_ hp ?_
      · rw [hkey] at he
        exact finishSubmitCheckpoint_agrees hok he
      · rw [hkey]
        rfl

end Invariant

section Consistency

variable {R : Relay}

/-- Where segments are closed in the order of their epochs, the settled checkpoints of a shard
have an accepted consistency proof in every state that is reached. -/
theorem settledCheckpoints_consistent (hn : NumberText R.host)
    (hcreate : InMemoryRelayStore.create R = .ok store)
    (hb : ∀ entry ∈ actions, entry.1.AddsTransaction)
    (hg : Guarded (RelaySystem.stepIn R) (ClosesInOrder R) (.idle store) actions)
    (hl : 2 ≤ ((run (RelaySystem.stepIn R) (.idle store) actions).store.settledOf shard).length) :
    ∃ proof, buildConsistencyProof R.noble
        ((run (RelaySystem.stepIn R) (.idle store) actions).store.settledOf shard) = .ok proof ∧
      verifyConsistencyProof proof = true := by
  obtain ⟨resolver, rfl⟩ := create_ok hcreate
  have hinv : ChainInvariant R (run (RelaySystem.stepIn R) (.idle (.blank resolver)) actions) := by
    refine run_guarded ?_ (hg.with_all hb) (ChainInvariant.init R resolver)
    rintro s ⟨m, action⟩ ⟨ha, hg⟩ hi
    exact hi.step hn ha hg
  have hshard : ∀ checkpoint ∈ (run (RelaySystem.stepIn R) (.idle (.blank resolver))
      actions).store.settledOf shard, checkpoint.shard = shard :=
    fun checkpoint hm => (mem_settledOf.mp hm).2
  exact (hinv.chained shard).consistent hl hshard

end Consistency

theorem closesInOrder_of_ne (h : ∀ epoch shard, action ≠ .beginSubmit epoch shard) :
    ClosesInOrder R s (m, action) :=
  fun epoch shard he => absurd he (h epoch shard)

theorem closesInOrder_of_idle (hs : s.submitting.length = 0)
    (hl : ((s.store.settledOf shard).all fun c => c.epoch_start_ms.lt epoch) = true) :
    ClosesInOrder R s (m, .beginSubmit epoch shard) := by
  rintro _ _ ⟨⟩ -
  refine ⟨List.all_eq_true.mp hl, ?_⟩
  intro call hm
  rw [List.eq_nil_of_length_eq_zero hs] at hm
  cases hm

/-- The checkpoint of the epoch after the sample segment, without events. -/
def laterCheckpoint (previous_checkpoint : Hex32) : BatchCheckpointV1 :=
  { segmentCheckpoint ZERO_HASH 0 with
    epoch_start_ms := .ofNat 1779667500000
    previous_checkpoint }

def chainDigests : List (Bytes × Bytes) :=
  settlementDigests ++
    checkpointDigests (laterCheckpoint ZERO_HASH)
      0x5f39d66144e269f8a0aba3b73d23a2f17c51b5a646c3e6f17a6efb03acdac5c3
      0x96b3c79016d6b6e4f7fba7f5054a3cb2220450d68c6af8a8e9ecd26e09b6a32d
      0x3329fa7d59b7765970efece0d01f16c80c36d305df9f4b8b2d0cefb201a71dc3
      0x0296f2f3f979a093f646085c630c98d3e7f128c7bf71f3e185187803778111f7 ++
    checkpointDigests (laterCheckpoint
        (hex32 0x0f01760eca0342c6062c76190e787c238cb62291980c67ec3b44c8dfada983af))
      0x8fbeb982815439a09b7f9d29009b8a38ee1cf43dc909536b39a41f69683303f7
      0x96b3c79016d6b6e4f7fba7f5054a3cb2220450d68c6af8a8e9ecd26e09b6a32d
      0x3329fa7d59b7765970efece0d01f16c80c36d305df9f4b8b2d0cefb201a71dc3
      0x0296f2f3f979a093f646085c630c98d3e7f128c7bf71f3e185187803778111f7

def chainRelay : Relay := settlingRelay (recorded chainDigests sampleSignatures longDigest)

/-- Two epochs of a shard, closed one after the other. -/
def closeEpochs (epochs : List Nat) : List (Moment × RelayAction) :=
  epochs.flatMap fun epoch =>
    [(sampleMoment, .beginSubmit (.ofNat epoch) (js "0daa")), (sampleMoment, .resumeSubmit 0)]

def closedState (epochs : List Nat) : RelaySystem :=
  run (RelaySystem.stepIn chainRelay) (.idle (.blank ⟨.empty⟩)) (closeEpochs epochs)

theorem closeEpochs_addTransaction (epochs : List Nat) :
    ∀ entry ∈ closeEpochs epochs, entry.1.AddsTransaction := by
  intro entry hm
  obtain ⟨epoch, -, he⟩ := List.mem_flatMap.mp hm
  have hmoment : entry.1 = sampleMoment := by
    simp only [List.mem_cons, List.not_mem_nil, or_false] at he
    rcases he with rfl | rfl <;> rfl
  rw [hmoment]
  exact sampleMoment_addsTransaction

theorem settledCheckpoints_consistent_sample :
    ((closedState [1779667200000, 1779667500000]).store.settledOf (js "0daa")).length = 2 ∧
      ∃ proof, buildConsistencyProof chainRelay.noble
          ((closedState [1779667200000, 1779667500000]).store.settledOf (js "0daa")) =
            .ok proof ∧
        verifyConsistencyProof proof = true := by
  have hlen : ((closedState [1779667200000, 1779667500000]).store.settledOf
      (js "0daa")).length = 2 := by
    decide +kernel
  refine ⟨hlen, settledCheckpoints_consistent (R := chainRelay) (numberText_ratText rfl) rfl
    (closeEpochs_addTransaction _) ?_ hlen.ge⟩
  exact ⟨closesInOrder_of_idle rfl rfl, closesInOrder_of_ne nofun,
    closesInOrder_of_idle (by decide +kernel) (by decide +kernel), closesInOrder_of_ne nofun,
    True.intro⟩

/-- The earlier epoch is closed after the later one, and both name no checkpoint before them. -/
theorem settledCheckpoints_reversed :
    InMemoryRelayStore.create chainRelay = .ok (.blank ⟨.empty⟩) ∧
      (∀ entry ∈ closeEpochs [1779667500000, 1779667200000], entry.1.AddsTransaction) ∧
      ((closedState [1779667500000, 1779667200000]).store.settledOf (js "0daa")).length = 2 ∧
      (verifyConsistencyProof <$> buildConsistencyProof chainRelay.noble
        ((closedState [1779667500000, 1779667200000]).store.settledOf (js "0daa"))) =
          .ok false := by
  refine ⟨rfl, closeEpochs_addTransaction _, ?_⟩
  decide +kernel

end Continuity

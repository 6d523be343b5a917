import Continuity.CanonicalInjective
import Continuity.Chains
import Continuity.Consistency

namespace Continuity
open Chains
set_option autoImplicit true

/-- A checkpoint as an entry of the hash chain of its shard. -/
def checkpointLink (N : Noble) (checkpoint : BatchCheckpointV1) : Link Int Hex32 where
  key := checkpoint.epoch_start_ms.toInt?.getD 0
  digest := (checkpointHash N checkpoint).toOption.getD []
  previous := checkpoint.previous_checkpoint

/-- The links of some checkpoints of one shard. -/
def checkpointLinks (N : Noble) (checkpoints : List BatchCheckpointV1) : Set (Link Int Hex32) :=
  {link | link ∈ checkpoints.map (checkpointLink N)}

/-- The checkpoints have hashes and different epochs, and name each other in that order. -/
structure Chained (N : Noble) (checkpoints : List BatchCheckpointV1) : Prop where
  hashed : ∀ checkpoint ∈ checkpoints, ∃ hash, checkpointHash N checkpoint = .ok hash
  epochs : (checkpoints.map fun checkpoint => (checkpointLink N checkpoint).key).Nodup
  linked : Linked ZERO_HASH (checkpointLinks N checkpoints)

theorem chained_nil (N : Noble) : Chained N [] :=
  ⟨fun _ h => absurd h List.not_mem_nil, List.nodup_nil, fun _ h => absurd h List.not_mem_nil⟩

theorem checkpointLink_digest {hash : Hex32} (h : checkpointHash N checkpoint = .ok hash) :
    (checkpointLink N checkpoint).digest = hash := by
  simp [checkpointLink, h, Except.toOption]

/-- A checkpoint that has a hash starts at an integral time. -/
theorem checkpointHash_epoch {hash : Hex32} (h : checkpointHash N checkpoint = .ok hash) :
    checkpoint.epoch_start_ms = .ofInt (checkpointLink N checkpoint).key := by
  obtain ⟨bytes, hb, -⟩ := bind_eq_ok.mp h
  have he : Encodable (.num checkpoint.epoch_start_ms) := by
    have hfields := encodableFields_iff.mp (canonicalBytes_encodable hb)
    exact hfields (js "epoch_start_ms", .num checkpoint.epoch_start_ms)
      (by simp [BatchCheckpointV1.toFields, withoutField, JsValue.isUndefined]; decide)
  obtain ⟨z, hz⟩ := JsNumber.eq_ofInt he.1 he.2
  simp [checkpointLink, hz]

section Growth

variable {checkpoints : List BatchCheckpointV1}

theorem checkpointLinks_append (N : Noble) (checkpoints : List BatchCheckpointV1)
    (checkpoint : BatchCheckpointV1) : checkpointLinks N (checkpoints ++ [checkpoint]) =
      insert (checkpointLink N checkpoint) (checkpointLinks N checkpoints) := by
  ext link
  simp [checkpointLinks, or_comm]

/-- A checkpoint that names the one before it and is named by the one after it. -/
theorem Chained.append (h : Chained N checkpoints)
    (hh : ∃ hash, checkpointHash N checkpoint = .ok hash)
    (hbelow : LastBelow ZERO_HASH (checkpointLinks N checkpoints)
      (checkpointLink N checkpoint).key checkpoint.previous_checkpoint)
    (habove : ∀ next ∈ checkpoints,
      (checkpointLink N checkpoint).key < (checkpointLink N next).key →
      (∀ other ∈ checkpoints, (checkpointLink N checkpoint).key < (checkpointLink N other).key →
        (checkpointLink N next).key ≤ (checkpointLink N other).key) →
      next.previous_checkpoint = (checkpointLink N checkpoint).digest)
    (hfresh : ∀ other ∈ checkpoints,
      (checkpointLink N other).key ≠ (checkpointLink N checkpoint).key) :
    Chained N (checkpoints ++ [checkpoint]) where
  hashed := by
    intro c hc
    rcases List.mem_append.mp hc with hc | hc
    · exact h.hashed c hc
    · rw [List.mem_singleton.mp hc]
      exact hh
  epochs := by
    rw [List.map_append, List.map_singleton, List.nodup_append]
    refine ⟨h.epochs, List.nodup_singleton _, ?_⟩
    intro key hk key' hk'
    obtain ⟨other, ho, rfl⟩ := List.mem_map.mp hk
    rw [List.mem_singleton.mp hk']
    exact hfresh other ho
  linked := by
    rw [checkpointLinks_append]
    refine h.linked.insert hbelow ?_ ?_
    · intro link hl hlt hleast
      obtain ⟨next, hn, rfl⟩ := List.mem_map.mp hl
      exact habove next hn hlt fun other ho => hleast _ (List.mem_map_of_mem ho)
    · intro link hl
      obtain ⟨other, ho, rfl⟩ := List.mem_map.mp hl
      exact hfresh other ho

theorem Chained.injOn (h : Chained N checkpoints) :
    Set.InjOn Link.key (checkpointLinks N checkpoints) := by
  intro a ha b hb hk
  obtain ⟨c, hc, rfl⟩ := List.mem_map.mp ha
  obtain ⟨d, hd, rfl⟩ := List.mem_map.mp hb
  rw [List.inj_on_of_nodup_map h.epochs hc hd hk]

/-- Only the links count. -/
theorem Chained.congr (h : Chained N checkpoints)
    (hm : others.map (checkpointLink N) = checkpoints.map (checkpointLink N))
    (hh : ∀ checkpoint ∈ others, ∃ hash, checkpointHash N checkpoint = .ok hash) :
    Chained N others where
  hashed := hh
  epochs := by
    have he := h.epochs
    rw [← Function.comp_def, ← List.map_map] at he ⊢
    rw [hm]
    exact he
  linked := by
    rw [checkpointLinks, hm]
    exact h.linked

/-- Up to an epoch the checkpoints are chained as well. -/
theorem Chained.upTo (h : Chained N checkpoints) {k : Int}
    (hp : others.Perm (checkpoints.filter fun c => (checkpointLink N c).key ≤ k)) :
    Chained N others where
  hashed c hc := h.hashed c (List.mem_of_mem_filter (hp.mem_iff.mp hc))
  epochs := (hp.map _).nodup_iff.mpr (h.epochs.sublist (List.filter_sublist.map _))
  linked := by
    have hlinks : checkpointLinks N others =
        {link | link ∈ checkpointLinks N checkpoints ∧ link.key ≤ k} := by
      ext link
      simp only [checkpointLinks, Set.mem_ofPred_eq, List.mem_map, hp.mem_iff, List.mem_filter,
        decide_eq_true_eq]
      constructor
      · rintro ⟨c, ⟨hc, hk⟩, rfl⟩
        exact ⟨⟨c, hc, rfl⟩, hk⟩
      · rintro ⟨⟨c, hc, rfl⟩, hk⟩
        exact ⟨c, ⟨hc, hk⟩, rfl⟩
    rw [hlinks]
    exact h.linked.upTo k

end Growth

section Order

variable {checkpoints : List BatchCheckpointV1}

theorem byEpoch_perm (checkpoints : List BatchCheckpointV1) :
    (byEpoch checkpoints).Perm checkpoints :=
  List.perm_insertionSort _ _

/-- Checkpoints with different epochs are sorted strictly. -/
theorem Chained.byEpoch_sorted (h : Chained N checkpoints) :
    ((byEpoch checkpoints).map (checkpointLink N)).Pairwise fun a b => a.key < b.key := by
  have hkeys : (byEpoch checkpoints).map (fun c => (checkpointLink N c).key) =
      (checkpoints.map fun c => (checkpointLink N c).key).insertionSort (· ≤ ·) := by
    apply List.map_insertionSort
    intro a ha b hb
    obtain ⟨_, hha⟩ := h.hashed a ha
    obtain ⟨_, hhb⟩ := h.hashed b hb
    rw [checkpointHash_epoch hha, checkpointHash_epoch hhb, JsNumber.ofInt_lt,
      decide_eq_false_iff_not, not_lt]
  have hle : ((byEpoch checkpoints).map fun c => (checkpointLink N c).key).Pairwise (· ≤ ·) := by
    rw [hkeys]
    exact List.pairwise_insertionSort _ _
  have hne : ((byEpoch checkpoints).map fun c => (checkpointLink N c).key).Pairwise (· ≠ ·) :=
    ((byEpoch_perm checkpoints).map _).nodup_iff.mpr h.epochs
  have hlt := hle.and hne
  rw [List.pairwise_map] at hlt ⊢
  exact hlt.imp fun h => lt_of_le_of_ne h.1 h.2

/-- In the order of their epochs the checkpoints are a hash chain. -/
theorem Chained.chainFrom (h : Chained N checkpoints) :
    ChainFrom ZERO_HASH ((byEpoch checkpoints).map (checkpointLink N)) := by
  apply h.linked.chainFrom h.byEpoch_sorted
  intro link
  exact ((byEpoch_perm checkpoints).map _).mem_iff

end Order

/-- The link that a proof has for a checkpoint. -/
def provedLink (N : Noble) (checkpoint : BatchCheckpointV1) : ConsistencyLink where
  checkpoint_hash := (checkpointLink N checkpoint).digest
  previous_checkpoint := checkpoint.previous_checkpoint
  epoch_start_ms := checkpoint.epoch_start_ms

theorem consistencyLink_eq {hash : Hex32} (h : checkpointHash N checkpoint = .ok hash) :
    consistencyLink N checkpoint = .ok (provedLink N checkpoint) := by
  rw [consistencyLink, h, provedLink, checkpointLink_digest h]
  rfl

/-- The links of a proof over a sorted hash chain hold. -/
theorem linksHold_of_chain {checkpoints : List BatchCheckpointV1}
    (hh : ∀ checkpoint ∈ checkpoints, ∃ hash, checkpointHash N checkpoint = .ok hash)
    (hs : (checkpoints.map (checkpointLink N)).Pairwise fun a b => a.key < b.key)
    (hc : ChainFrom d (checkpoints.map (checkpointLink N))) :
    linksHold (checkpoints.map (provedLink N)) = true := by
  induction checkpoints generalizing d with
  | nil => rfl
  | cons first rest ih =>
    obtain ⟨hbefore, hs⟩ := List.pairwise_cons.mp hs
    have hrest := ih (fun c hm => hh c (List.mem_cons_of_mem _ hm)) hs hc.2
    cases rest with
    | nil => rfl
    | cons second later =>
      obtain ⟨_, hfirst⟩ := hh first (by simp)
      obtain ⟨_, hsecond⟩ := hh second (by simp)
      have hprev : second.previous_checkpoint = (checkpointLink N first).digest := hc.2.1
      have hlt := hbefore (checkpointLink N second) (by simp)
      have hepoch : second.epoch_start_ms.le first.epoch_start_ms = false := by
        rw [checkpointHash_epoch hfirst, checkpointHash_epoch hsecond, JsNumber.ofInt_le]
        simpa using hlt
      simp only [List.map_cons] at hrest ⊢
      rw [linksHold, hrest]
      simp [provedLink, hprev, hepoch]

/-- A proof built of chained checkpoints of one shard is accepted. -/
theorem Chained.consistent {checkpoints : List BatchCheckpointV1} (h : Chained N checkpoints)
    (hl : 2 ≤ checkpoints.length)
    (hshard : ∀ checkpoint ∈ checkpoints, checkpoint.shard = shard) :
    ∃ proof, buildConsistencyProof N checkpoints = .ok proof ∧
      verifyConsistencyProof proof = true := by
  have hp := byEpoch_perm checkpoints
  have hsorted := h.byEpoch_sorted
  have hchain := h.chainFrom
  unfold buildConsistencyProof
  rw [if_neg (by omega)]
  generalize byEpoch checkpoints = ordered at hp hsorted hchain
  have hhash : ∀ c ∈ ordered, ∃ hash, checkpointHash N c = .ok hash :=
    fun c hc => h.hashed c (hp.mem_iff.mp hc)
  cases ordered with
  | nil => simp [← hp.length_eq] at hl
  | cons first rest =>
    have hall : ((first :: rest).all fun c => c.shard == first.shard) = true := by
      rw [List.all_eq_true]
      intro c hc
      rw [beq_iff_eq, hshard c (hp.mem_iff.mp hc), hshard first (hp.mem_iff.mp (by simp))]
    have hlast : rest.getLast?.getD first ∈ first :: rest := by
      cases hr : rest.getLast? with
      | none => simp
      | some last => exact List.mem_cons_of_mem _ (List.mem_of_getLast? hr)
    obtain ⟨from_checkpoint, hfrom⟩ := hhash first (by simp)
    obtain ⟨to_checkpoint, hto⟩ := hhash _ hlast
    have hchecked : (first :: rest).mapM (consistencyLink N) =
        .ok ((first :: rest).map (provedLink N)) := by
      apply mapM_eq_map
      intro c hc
      obtain ⟨_, hh⟩ := hhash c hc
      exact consistencyLink_eq hh
    dsimp only
    rw [hall, Bool.not_true, if_neg Bool.false_ne_true, hfrom, hto, hchecked]
    refine ⟨_, rfl, ?_⟩
    have hlen : 2 ≤ ((first :: rest).map (provedLink N)).length := by
      rw [List.length_map, hp.length_eq]
      exact hl
    have hends : ((first :: rest).map (provedLink N)).getLast?.map
        ConsistencyLink.checkpoint_hash = some to_checkpoint := by
      rw [List.getLast?_map, List.getLast?_cons, Option.map_map, Option.map_some,
        Function.comp, provedLink, checkpointLink_digest hto]
    have hstart : ((first :: rest).map (provedLink N)).head?.map
        ConsistencyLink.checkpoint_hash = some from_checkpoint := by
      rw [List.map_cons, List.head?_cons, Option.map_some, provedLink,
        checkpointLink_digest hfrom]
    simp only [verifyConsistencyProof, hstart, hends, linksHold_of_chain hhash hsorted hchain,
      decide_eq_true hlen, beq_self_eq_true, Bool.and_true]

end Continuity

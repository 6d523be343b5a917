import Continuity.AgeCircuit
import Continuity.JsonParse
import Continuity.PolicyMonotone
import Continuity.ZkProof

namespace Continuity
open HashTree
set_option autoImplicit true

/-- A public signal of a proof is read as a value. -/
def ReadsAs (text : JsString) (value : Signal) : Prop :=
  bigIntOfString text = .ok (value.val : Int)

theorem ReadsAs.unique (ha : ReadsAs text a) (hb : ReadsAs text b) : a = b := by
  have he := Except.ok.inj (ha.symm.trans hb)
  exact ZMod.val_injective _ (Int.ofNat.inj he)

instance : Decidable (ReadsAs text value) :=
  inferInstanceAs (Decidable (bigIntOfString text = .ok (value.val : Int)))

/-- The values of a list of public signals are the only ones. -/
theorem reads_unique (ha : List.Forall₂ ReadsAs texts as) (hb : List.Forall₂ ReadsAs texts bs) :
    as = bs := by
  induction ha generalizing bs with
  | nil =>
    cases hb
    rfl
  | cons h _ ih =>
    cases hb with
    | cons h' hb => rw [h.unique h', ih hb]

/-- The public signals of the circuit, in the order of their declarations. -/
def IdentityAgeThresholdProduction.publicSignals (s : IdentityAgeThresholdProduction depth) :
    List Signal :=
  [s.current_epoch_day, s.threshold_days, s.subject_hash, s.public_registry_root]

/-- What an age proof relies on: circomlib, a registry whose tree is hashed by Poseidon without
collisions among the inputs that anyone knows, and a verifier that accepts proofs under the key of
the circuit only for assignments that someone knows. -/
structure AgeSetting (key : JsValue) where
  lib : Circomlib
  groth16Verify : Groth16Verify
  known : Set (List Signal)
  registry : IdentityRegistry 16 (2 ^ 63)
  decomposes : lib.Decomposes
  injective : Set.InjOn lib.poseidon known
  registry_known : ∀ inputs ∈ registry.hashed lib, inputs ∈ known
  sound : ∀ signals proof, groth16Verify key signals proof = .ok true →
    ∃ s : IdentityAgeThresholdProduction 16, s.Constraints lib ∧
      (∀ inputs ∈ s.hashed, inputs ∈ known) ∧ List.Forall₂ ReadsAs signals s.publicSignals

/-- A signal is the hash of a subject in the field. -/
def SubjectSignal (N : Noble) (subject : TrustID) (value : Signal) : Prop :=
  ∃ text, subjectHashField N subject = .ok text ∧ ReadsAs text value

/-- The threshold of a proof as a number of days. -/
def ZkThresholdProofV1.days (proof : ZkThresholdProofV1) : Nat :=
  (proof.threshold.toInt?.getD 0).toNat

/-- An accepted proof shows a leaf for its subject, under the root among its public signals, that
is at least as old as its threshold. -/
def AgeShown (H : Host) (key : JsValue) (proof : ZkThresholdProofV1) (options : ZkOptions) : Prop :=
  ∀ E : AgeSetting key, verifyThresholdProofAsync H E.groth16Verify proof options = .ok true →
    ∃ groth16 current_epoch_day threshold_days subject_hash public_registry_root,
      proof.groth16 = some groth16 ∧
      List.Forall₂ ReadsAs groth16.public_signals
        [current_epoch_day, threshold_days, subject_hash, public_registry_root] ∧
      (public_registry_root = E.registry.root E.lib →
        ∃ slot < 2 ^ 16,
          SubjectSignal H.noble proof.subject (E.registry.leaf slot).subject_hash ∧
          (E.registry.leaf slot).creation_epoch_day.val + proof.days ≤ current_epoch_day.val)

/-- The public signals of a proof say its age by themselves. A difference of the days that no
creation day below `2^63` leaves within 64 bits belongs to no assignment. -/
def SignalsShowAge (N : Noble) (proof : ZkThresholdProofV1) : Prop :=
  ∃ groth16, proof.groth16 = some groth16 ∧
    ∀ current_epoch_day threshold_days subject_hash public_registry_root,
      List.Forall₂ ReadsAs groth16.public_signals
        [current_epoch_day, threshold_days, subject_hash, public_registry_root] →
      (current_epoch_day - threshold_days).val ≤ 2 ^ 63 + 2 ^ 64 - 2 →
      SubjectSignal N proof.subject subject_hash ∧
        proof.days + min (2 ^ 63 - 1) (current_epoch_day - threshold_days).val ≤
          current_epoch_day.val

section Texts

theorem digitValue_unit (h : isDigitUnit u = true) : digitValue u = some (u.toNat - 48) := by
  simp only [isDigitUnit, Bool.and_eq_true, decide_eq_true_eq] at h
  exact if_pos (by simpa [UInt16.le_iff_toNat_le] using h)

theorem digitsValue_units (acc : Nat) (h : ∀ u ∈ digits, isDigitUnit u = true) :
    digitsValue 10 acc digits =
      some (digits.foldl (fun acc u => acc * 10 + (u.toNat - 48)) acc) := by
  induction digits generalizing acc with
  | nil => rfl
  | cons u digits ih =>
    obtain ⟨hu, hrest⟩ := List.forall_mem_cons.mp h
    have hlt : u.toNat - 48 < 10 := by
      simp only [isDigitUnit, Bool.and_eq_true, decide_eq_true_eq] at hu
      omega
    simp only [digitsValue, digitValue_unit hu, if_pos hlt, List.foldl_cons]
    exact ih _ hrest

theorem digit_not_space (h : isDigitUnit u = true) : isWhiteSpace u = false := by
  simp only [isDigitUnit, Bool.and_eq_true, decide_eq_true_eq] at h
  simp [isWhiteSpace, UInt16.le_iff_toNat_le, ← UInt16.toNat_inj]
  omega

theorem trim_units (h : ∀ u ∈ digits, isDigitUnit u = true) : trim digits = digits := by
  have hdrop : ∀ {s : JsString}, (∀ u ∈ s, isDigitUnit u = true) →
      s.dropWhile isWhiteSpace = s := by
    intro s hs
    cases s with
    | nil => rfl
    | cons u s =>
      have hu := digit_not_space (hs u List.mem_cons_self)
      rw [List.dropWhile_cons_of_neg (by simp [hu])]
  rw [trim, hdrop h, hdrop (by simpa using h), List.reverse_reverse]

theorem stringToBigInt?_units (h : ∀ u ∈ digits, isDigitUnit u = true) (hne : digits ≠ []) :
    stringToBigInt? digits = (parseDigits 10 digits).map fun n => (n : Int) := by
  unfold stringToBigInt?
  -- No sign and no prefix of another base is a digit.
  split <;> first | rfl | simp_all [isDigitUnit]

/-- The decimal text of a number is read as that number. -/
theorem bigIntOfString_natText (n : Nat) : bigIntOfString (natText n) = .ok (n : Int) := by
  have hunits := natText_digits n
  have hne := natText_ne_nil n
  have hempty : (natText n).isEmpty = false := by simpa using hne
  have hdecimal := decimalValue_natText n
  rw [decimalValue] at hdecimal
  simp only [bigIntOfString, trim_units hunits, stringToBigInt?_units hunits hne, parseDigits,
    hempty, digitsValue_units 0 hunits, hdecimal]
  rfl

end Texts

theorem findM?_mem {p : α → Js Bool} (h : List.findM? p items = .ok (some item)) :
    item ∈ items := by
  induction items with
  | nil => cases h
  | cons a items ih =>
    rw [List.findM?, bind_eq_ok] at h
    obtain ⟨b, -, h⟩ := h
    cases b with
    | false => exact List.mem_cons_of_mem _ (ih h)
    | true =>
      obtain rfl := Option.some.inj (Except.ok.inj h)
      exact List.mem_cons_self

theorem manifestForProof_mem (h : manifestForProof N proof manifests = .ok (some manifest)) :
    manifest ∈ manifests.getD [] := findM?_mem h

section Calls

variable {H : Host} {groth16Verify : Groth16Verify} {proof : ZkThresholdProofV1}
  {options : ZkOptions} {groth16 : Groth16Proof} {key : JsValue}

/-- A verifier that accepts everything. -/
def acceptAll : Groth16Verify := fun _ _ _ => return true

theorem coalesce_truthy (h : value.toBool = true) : coalesce (some value) other = some value := by
  cases value <;> first | rfl | cases h

/-- Under the options of production the verifier is called with the key of the manifest, after
every other check. -/
theorem verifyUnderManifest_calls (hr : options.requireManifestKeyHash = true)
    (hkey : ∀ m, manifest = some m → m.verification_key = some key) :
    verifyUnderManifest H groth16Verify proof options groth16 manifest = .ok true ↔
      verifyUnderManifest H acceptAll proof options groth16 manifest = .ok true ∧
        groth16Verify key groth16.public_signals groth16.proof = .ok true := by
  unfold verifyUnderManifest
  simp only [allOf_true, List.forall_mem_cons, List.not_mem_nil, false_imp_iff, implies_true,
    and_true]
  have hcall : ∀ {verificationKey},
      keyHashIfRequired H options manifest verificationKey = .ok true →
        (coalesce (manifest.bind ZkCircuitReleaseManifestV1.verification_key)
          groth16.verification_key).getD .undefined = key := by
    intro verificationKey h
    unfold keyHashIfRequired at h
    rw [if_pos hr] at h
    cases manifest with
    | none => cases h
    | some m =>
      have hm := hkey m rfl
      simp only [hm, Option.any_some] at h
      split at h
      · cases h
      · next hb =>
        have hb : key.toBool = true := by simpa using hb
        rw [Option.bind_some, hm, coalesce_truthy hb, Option.getD_some]
  constructor
  · rintro ⟨h₁, h₂, h₃, h₄, h₅, h₆⟩
    rw [hcall h₃] at h₆
    exact ⟨⟨h₁, h₂, h₃, h₄, h₅, rfl⟩, h₆⟩
  · rintro ⟨⟨h₁, h₂, h₃, h₄, h₅, -⟩, h₆⟩
    refine ⟨h₁, h₂, h₃, h₄, h₅, ?_⟩
    rw [hcall h₃]
    exact h₆

theorem verifyThresholdProofAsync_calls (hr : options.requireManifestKeyHash = true)
    (hkey : ∀ m, manifestForProof H.noble proof options.manifests = .ok (some m) →
      m.verification_key = some key) (hg : proof.groth16 = some groth16) :
    verifyThresholdProofAsync H groth16Verify proof options = .ok true ↔
      verifyThresholdProofAsync H acceptAll proof options = .ok true ∧
        groth16Verify key groth16.public_signals groth16.proof = .ok true := by
  unfold verifyThresholdProofAsync verifyGroth16
  simp only [allOf_true, List.forall_mem_cons, List.not_mem_nil, false_imp_iff, implies_true,
    and_true, hg, bind_eq_ok]
  constructor
  · rintro ⟨h₁, h₂, h₃, h₄, h₅, manifest, hm, h⟩
    have hcall := (verifyUnderManifest_calls hr fun m he => hkey m (he ▸ hm)).mp h
    exact ⟨⟨h₁, h₂, h₃, h₄, h₅, manifest, hm, hcall.1⟩, hcall.2⟩
  · rintro ⟨⟨h₁, h₂, h₃, h₄, h₅, manifest, hm, h⟩, hverify⟩
    have hcall := (verifyUnderManifest_calls hr fun m he => hkey m (he ▸ hm)).mpr ⟨h, hverify⟩
    exact ⟨h₁, h₂, h₃, h₄, h₅, manifest, hm, hcall⟩

end Calls

section Soundness

variable {E : AgeSetting key}

theorem AgeSetting.collisionFree (E : AgeSetting key) {s : IdentityAgeThresholdProduction 16}
    (hs : ∀ inputs ∈ s.hashed, inputs ∈ E.known) :
    (poseidonScheme E.lib).CollisionFree (E.registry.hashed E.lib ++ s.hashed) := by
  intro a ha b hb he
  have hknown : ∀ n ∈ E.registry.hashed E.lib ++ s.hashed, n ∈ E.known := by
    intro n hn
    rcases List.mem_append.mp hn with hn | hn
    · exact E.registry_known n hn
    · exact hs n hn
  exact E.injective (hknown a ha) (hknown b hb) he

/-- The day a prover names is the day of its leaf, and leaves less than 64 bits of age above the
threshold. -/
theorem IdentityAgeThresholdProduction.Constraints.difference {lib : Circomlib}
    {s : IdentityAgeThresholdProduction depth} (hd : lib.Decomposes) (h : s.Constraints lib)
    (hday : s.creation_epoch_day.val < 2 ^ 63) :
    ∃ low < 2 ^ 64, (s.current_epoch_day - s.threshold_days).val =
      s.creation_epoch_day.val + low := by
  obtain ⟨low, hlow, hdays⟩ := h.days hd
  have hroom : 2 ^ 63 + 2 ^ 64 ≤ scalarOrder := by decide
  have hcast : s.current_epoch_day - s.threshold_days =
      ((s.creation_epoch_day.val + low : Nat) : Signal) := by
    push_cast
    rw [ZMod.natCast_zmod_val]
    linear_combination hdays
  refine ⟨low, hlow, ?_⟩
  rw [hcast, ZMod.val_natCast_of_lt (by omega)]

/-- A proof whose own signals say its age shows it in every setting. -/
theorem SignalsShowAge.shown {H : Host} {proof : ZkThresholdProofV1} {options : ZkOptions}
    (hr : options.requireManifestKeyHash = true)
    (hkey : ∀ m, manifestForProof H.noble proof options.manifests = .ok (some m) →
      m.verification_key = some key)
    (h : SignalsShowAge H.noble proof) : AgeShown H key proof options := by
  intro E hrun
  obtain ⟨groth16, hg, hsignals⟩ := h
  obtain ⟨-, hverify⟩ := (verifyThresholdProofAsync_calls hr hkey hg).mp hrun
  obtain ⟨s, hs, hknown, hreads⟩ := E.sound _ _ hverify
  refine ⟨groth16, _, _, _, _, hg, hreads, fun hroot => ?_⟩
  obtain ⟨hindex, hleaf⟩ := hs.registry_leaf E.registry hroot (E.collisionFree hknown)
  have hday : s.creation_epoch_day.val < 2 ^ 63 := by
    have hdated := E.registry.dated _ hindex
    rwa [hleaf] at hdated
  obtain ⟨low, hlow, hdiff⟩ := hs.difference E.decomposes hday
  obtain ⟨hsubject, hage⟩ := hsignals _ _ _ _ hreads (by omega)
  refine ⟨s.index, hindex, ?_, ?_⟩
  · rw [hleaf]
    exact hsubject
  · rw [hleaf]
    change s.creation_epoch_day.val + proof.days ≤ s.current_epoch_day.val
    omega

end Soundness

section Settings

/-- A hash whose trees over one leaf have a given root at a given height: each level has a digest
one below that of the level under it. -/
def descendingPoseidon (leaf : RegistryLeaf) (root : Signal) (inputs : List Signal) : Signal :=
  if inputs = leaf.inputs then root + 16
  else match inputs with
    | left :: _ => left - 1
    | [] => 0

def descendingLib (leaf : RegistryLeaf) (root : Signal) : Circomlib where
  poseidon := descendingPoseidon leaf root
  lessThan := LessDecomposed

theorem descendingDigest_eq (leaf : RegistryLeaf) (root : Signal) (height : Nat) :
    uniformDigest (descendingLib leaf root) leaf height = root + 16 - (height : Signal) := by
  induction height with
  | zero =>
    have hleaf : descendingPoseidon leaf root leaf.inputs = root + 16 := if_pos rfl
    rw [Nat.cast_zero, sub_zero, ← hleaf]
    rfl
  | succ height ih =>
    have hpair : ∀ digest, descendingPoseidon leaf root [digest, digest] = digest - 1 :=
      fun digest => if_neg (by simp [RegistryLeaf.inputs])
    have hstep : uniformDigest (descendingLib leaf root) leaf (height + 1) =
        uniformDigest (descendingLib leaf root) leaf height - 1 := hpair _
    rw [hstep, ih]
    push_cast
    ring

theorem descendingDigest_injective (leaf : RegistryLeaf) (root : Signal) : ∀ i ≤ 16, ∀ j ≤ 16,
    uniformDigest (descendingLib leaf root) leaf i =
      uniformDigest (descendingLib leaf root) leaf j → i = j := by
  intro i hi j hj h
  rw [descendingDigest_eq, descendingDigest_eq, sub_right_inj] at h
  have hroom : 17 ≤ scalarOrder := by decide
  have hval := congrArg ZMod.val h
  rwa [ZMod.val_natCast_of_lt (by omega), ZMod.val_natCast_of_lt (by omega)] at hval

/-- A setting with one leaf everywhere, whose verifier accepts one list of public signals. -/
def uniformSetting (lib : Circomlib) (hlib : lib.lessThan = LessDecomposed) (leaf : RegistryLeaf)
    (hday : leaf.creation_epoch_day.val < 2 ^ 63)
    (hd : ∀ i ≤ 16, ∀ j ≤ 16, uniformDigest lib leaf i = uniformDigest lib leaf j → i = j)
    (signals : List JsString) (current_epoch_day threshold_days : Signal)
    (hless : LessDecomposed 64 (current_epoch_day - leaf.creation_epoch_day) threshold_days 0)
    (hreads : List.Forall₂ ReadsAs signals
      [current_epoch_day, threshold_days, leaf.subject_hash, uniformDigest lib leaf 16]) :
    AgeSetting key where
  lib := lib
  groth16Verify _ texts _ := return texts == signals
  known := {inputs | ∃ height ≤ 16, inputs = (poseidonScheme lib).tower leaf.inputs height}
  registry := uniformRegistry leaf hday
  decomposes _ _ _ _ h := by rwa [hlib] at h
  injective := by
    rintro _ ⟨i, hi, rfl⟩ _ ⟨j, hj, rfl⟩ he
    rw [hd i hi j hj he]
  registry_known := complete_tower_inputs (poseidonScheme lib) leaf.inputs 16 0
  sound := by
    intro texts proof h
    have he : texts = signals := by simpa [pure, Except.pure] using h
    subst he
    refine ⟨uniformSignals lib leaf current_epoch_day threshold_days,
      uniformSignals_constraints (by rwa [hlib]), ?_, hreads⟩
    exact uniformSignals_hashed

/-- Public signals that belong to some assignment are accepted in a setting where every leaf has
their subject and the latest day that they leave. -/
theorem exists_setting (key : JsValue) {signals : List JsString}
    (hreads : List.Forall₂ ReadsAs signals
      [current_epoch_day, threshold_days, subject_hash, public_registry_root])
    (hdays : (current_epoch_day - threshold_days).val ≤ 2 ^ 63 + 2 ^ 64 - 2) :
    ∃ E : AgeSetting key, E.groth16Verify key signals = (fun _ => return true) ∧
      E.registry.root E.lib = public_registry_root ∧
      ∀ slot, (E.registry.leaf slot).subject_hash = subject_hash ∧
        (E.registry.leaf slot).creation_epoch_day.val =
          min (2 ^ 63 - 1) (current_epoch_day - threshold_days).val := by
  let leaf : RegistryLeaf := {
    subject_hash := subject_hash
    creation_epoch_day := (min (2 ^ 63 - 1) (current_epoch_day - threshold_days).val : Nat)
    registry_salt := 0 }
  have hroom : 2 ^ 63 ≤ scalarOrder := by decide
  have hval : leaf.creation_epoch_day.val =
      min (2 ^ 63 - 1) (current_epoch_day - threshold_days).val :=
    ZMod.val_natCast_of_lt (by omega)
  -- What the latest day leaves of the difference is within 64 bits.
  obtain ⟨low, hlow, hsum⟩ : ∃ low < 2 ^ 64, (current_epoch_day - threshold_days).val =
      leaf.creation_epoch_day.val + low :=
    ⟨(current_epoch_day - threshold_days).val - leaf.creation_epoch_day.val, by omega, by omega⟩
  have hless : LessDecomposed 64 (current_epoch_day - leaf.creation_epoch_day)
      threshold_days 0 := by
    have hcast := congrArg (fun n : Nat => (n : Signal)) hsum
    simp only [Nat.cast_add, ZMod.natCast_zmod_val] at hcast
    have hage : current_epoch_day - leaf.creation_epoch_day = threshold_days + (low : Signal) := by
      linear_combination hcast
    rw [hage]
    exact lessDecomposed_of_range _ hlow
  have hroot : uniformDigest (descendingLib leaf public_registry_root) leaf 16 =
      public_registry_root := by
    rw [descendingDigest_eq]
    push_cast
    ring
  let E : AgeSetting key := uniformSetting (descendingLib leaf public_registry_root) rfl leaf
    (by omega) (descendingDigest_injective _ _) signals current_epoch_day threshold_days hless
    (by rwa [hroot])
  refine ⟨E, ?_, ?_, fun _ => ⟨rfl, hval⟩⟩
  · funext proof
    change (return signals == signals : Js Bool) = _
    rw [beq_self_eq_true]
  · exact (complete_tower (poseidonScheme E.lib) leaf.inputs 16 0).trans hroot

end Settings

section Main

variable {H : Host} {proof : ZkThresholdProofV1} {options : ZkOptions} {key : JsValue}

theorem safe_natural {n : JsNumber} (hs : n.isSafeInteger = true)
    (hl : n.lt (.ofNat 0) = false) : ∃ z : Nat, n.toInt? = some (z : Int) ∧ z < 2 ^ 53 := by
  cases n with
  | fin q =>
    simp only [JsNumber.isSafeInteger, JsNumber.toInt?] at hs ⊢
    split at hs
    · next z hz =>
      split at hz
      · next hd =>
        obtain rfl := Option.some.inj hz
        have hnum : 0 ≤ q := by
          by_contra hneg
          simp [JsNumber.lt, JsNumber.le, JsNumber.strictEq, JsNumber.ofNat,
            JsNumber.value?] at hl
          exact hneg (le_of_eq (hl (decide_eq_true (le_of_not_ge hneg))).symm)
        have hz := Rat.num_nonneg.mpr hnum
        refine ⟨q.num.toNat, ?_, ?_⟩
        · rw [if_pos hd, Int.toNat_of_nonneg hz]
        · simp only [decide_eq_true_eq] at hs
          omega
      · cases hz
    · cases hs
  | negZero => exact ⟨0, rfl, by decide⟩
  | nan => cases hs
  | posInf => cases hs
  | negInf => cases hs

theorem thresholdText_reads (h : verifyThresholdProof N proof = .ok true)
    (ht : ReadsAs (thresholdText proof) value) : value.val = proof.days ∧ proof.days < 2 ^ 53 := by
  simp only [verifyThresholdProof, allOf_true, List.forall_mem_cons, pure_true] at h
  obtain ⟨-, hsafe, -⟩ := h
  obtain ⟨hs, hl⟩ := Bool.and_eq_true _ _ |>.mp hsafe
  obtain ⟨z, hz, hlt⟩ := safe_natural hs (by simpa using hl)
  have hdays : proof.days = z := by simp [ZkThresholdProofV1.days, hz]
  have htext : thresholdText proof = natText z := by
    rw [thresholdText, hz, Option.getD_some, intText, if_neg (by omega), Int.natAbs_natCast]
  rw [ReadsAs, htext, bigIntOfString_natText] at ht
  have hval := Int.ofNat.inj (Except.ok.inj ht)
  omega

/-- The threshold and the subject in their own places say the age. -/
theorem SignalsShowAge.of_places (h : verifyThresholdProof H.noble proof = .ok true)
    (hg : proof.groth16 = some groth16)
    (hs : subjectHashField H.noble proof.subject = .ok subject_hash)
    (hp : groth16.public_signals = [current_epoch_day, thresholdText proof, subject_hash, root]) :
    SignalsShowAge H.noble proof := by
  refine ⟨groth16, hg, ?_⟩
  intro current threshold subject _ hreads hdays
  rw [hp] at hreads
  simp only [List.forall₂_cons, List.forall₂_nil_left_iff, and_true] at hreads
  obtain ⟨-, ht, hsubject, -⟩ := hreads
  refine ⟨⟨subject_hash, hs, hsubject⟩, ?_⟩
  obtain ⟨hval, hlt⟩ := thresholdText_reads h ht
  have hroom : 2 ^ 53 + 2 ^ 63 + 2 ^ 64 ≤ scalarOrder := by decide
  have hsum : current = ((threshold.val + (current - threshold).val : Nat) : Signal) := by
    push_cast
    rw [ZMod.natCast_zmod_val, ZMod.natCast_zmod_val]
    ring
  have hcurrent : current.val = threshold.val + (current - threshold).val := by
    conv_lhs => rw [hsum]
    exact ZMod.val_natCast_of_lt (by omega)
  omega

/-- A proof that passes every check before the verifier shows its age, in every setting, exactly
when its own signals say it. -/
theorem verifyThresholdProofAsync_age_iff
    (hr : options.requireManifestKeyHash = true)
    (hkey : ∀ m, manifestForProof H.noble proof options.manifests = .ok (some m) →
      m.verification_key = some key)
    (hchecks : verifyThresholdProofAsync H acceptAll proof options = .ok true) :
    AgeShown H key proof options ↔ SignalsShowAge H.noble proof := by
  refine ⟨fun h => ?_, SignalsShowAge.shown hr hkey⟩
  cases hg : proof.groth16 with
  | none =>
    -- A hash fixture is accepted without any public signal.
    have hzero : ReadsAs (js "0") 0 := by decide +kernel
    obtain ⟨E, -⟩ := exists_setting key (.cons hzero (.cons hzero (.cons hzero (.cons hzero .nil))))
      (by decide +kernel)
    have hrun : verifyThresholdProofAsync H E.groth16Verify proof options = .ok true := by
      rw [← hchecks]
      unfold verifyThresholdProofAsync
      rw [hg]
    obtain ⟨groth16, _, _, _, _, hg', -⟩ := h E hrun
    rw [hg] at hg'
    cases hg'
  | some groth16 =>
    refine ⟨groth16, hg, ?_⟩
    intro current_epoch_day threshold_days subject_hash public_registry_root hreads hdays
    obtain ⟨E, hverify, hroot, hleaf⟩ := exists_setting key hreads hdays
    have hrun : verifyThresholdProofAsync H E.groth16Verify proof options = .ok true := by
      rw [verifyThresholdProofAsync_calls hr hkey hg, hverify]
      exact ⟨hchecks, rfl⟩
    obtain ⟨groth16', _, _, _, _, hg', hreads', hshown⟩ := h E hrun
    obtain rfl : groth16 = groth16' := Option.some.inj (hg.symm.trans hg')
    have hvalues := reads_unique hreads hreads'
    simp only [List.cons.injEq, and_true] at hvalues
    obtain ⟨rfl, rfl, rfl, rfl⟩ := hvalues
    obtain ⟨slot, -, hsubject, hage⟩ := hshown hroot.symm
    obtain ⟨hs, hd⟩ := hleaf slot
    rw [hs] at hsubject
    rw [hd] at hage
    exact ⟨hsubject, by omega⟩

end Main

section Sample

/-- A verification key with the generators in every place, for four public signals. -/
def ageVerificationKey : JsValue :=
  let generator := curvePoint ["1", "2", "1"]
  .obj [(js "protocol", .str (js "groth16")), (js "curve", .str (js "bn128")),
    (js "nPublic", .num (.ofNat 4)), (js "vk_alpha_1", generator),
    (js "vk_beta_2", secondGenerator), (js "vk_gamma_2", secondGenerator),
    (js "vk_delta_2", secondGenerator), (js "IC", .arr (List.replicate 5 generator))]

def ageManifest : ZkCircuitReleaseManifestV1 where
  circuit_id := js "tsl.identity_age_days.production_interface.v1"
  claim := js "identity_age_days"
  hash_suite := js "poseidon-bn254-v1"
  witness_interface := js "identity_age_days.production_witness.v1"
  verification_key_id := js "identity-age-vkey-v1"
  verification_key_hash := hex32
    0x9b3a060c1350d4c923fdf4d25c28b7b6d6a7b28d90dcfa58df7bccfcf4454683
  verification_key := some ageVerificationKey
  public_signal_schema := some []
  private_witness_schema := some [(js "required", textList
    [js "creation_proof", js "salt", js "registry_path"])]
  soundness_bits := some (.ofNat 128)
  privacy_notes := some [js "none"]
  status := .active
  signature_status := .externally_signed
  signature := some (js "0x11")
  others := ⟨[(js "type", .str (js "tsl.zk.circuit_release_manifest.v1")),
    (js "version", .str (js "1.0.0")), (js "circuit_hash", .str circuitDigest),
    (js "r1cs_hash", .str circuitDigest), (js "wasm_hash", .str circuitDigest),
    (js "zkey_hash", .str circuitDigest), (js "ceremony_transcript_hash", .str circuitDigest),
    (js "auditor", .str (js "did:tsl:auditor:test")),
    (js "reviewer", .str (js "did:tsl:reviewer:test")),
    (js "issued_at", .str (js "2026-05-25T00:00:00Z"))], by decide +kernel, by decide +kernel⟩

def ageManifestHash : Hex32 :=
  hex32 0x36b4e64c2d0510281048c7cd0e33327bbf59a1fca0ad3340160bfd2372fa0bae

def ageOptions : ZkOptions where
  require_registered_circuit := some true
  require_manifest_verification_key_hash := none
  reject_dev_circuits := some true
  manifests := some [ageManifest]
  registry := some {
    active_manifest_hashes := [ageManifestHash]
    revoked_manifest_hashes := []
    signature_status := .externally_signed
    signature := some (js "0x22")
    others := ⟨[(js "type", .str (js "tsl.zk.verification_key_registry.v1")),
      (js "registry_id", .str (js "zk-registry-test")),
      (js "issued_at", .str (js "2026-05-25T00:00:00Z"))], by decide +kernel, by decide +kernel⟩ }

/-- The public signals on day 20598 for the registry of alice. -/
def aliceSignals (threshold_days : Nat) : List JsString :=
  [js "20598", natText threshold_days,
    js "6181504558003890557814794433726157959365828253336300180688265461169138230685",
    js "5025280834365279260005571959723835216599663207098160832972790298440583709592"]

/-- A proof about the age of alice, with the public signals for some threshold. -/
def ageProof (threshold : Nat) (input_hash : Hex32) (threshold_days : Nat) :
    ZkThresholdProofV1 where
  type := js "tsl.zk.threshold_proof.v1"
  claim := js "identity_age_days"
  subject := js "did:tsl:alice"
  threshold := .ofNat threshold
  witness_commitment := hex32 0x5555555555555555555555555555555555555555555555555555555555555555
  public_input_hash := input_hash
  proof := hex32 0x6666666666666666666666666666666666666666666666666666666666666666
  circuit_id := some ageManifest.circuit_id
  verification_key_id := some ageManifest.verification_key_id
  public_signal_commitment := none
  release_manifest_hash := some ageManifestHash
  groth16 := membershipProof.groth16.map fun groth16 => { groth16 with
    proof := .obj [(js "pi_a", curvePoint ["1", "2", "1"]), (js "pi_b", secondGenerator),
      (js "pi_c", curvePoint ["1", "2", "1"]), (js "protocol", .str (js "groth16")),
      (js "curve", .str (js "bn128"))]
    public_signals := aliceSignals threshold_days
    verification_key := some ageVerificationKey }
  others := membershipProof.others

/-- An age of one day, under a threshold of one day. -/
def dayOldProof : ZkThresholdProofV1 :=
  ageProof 1 (hex32 0xaec542b736168e44635b642b359249bc4dd6e5908e5390fe6b49cdcad5dfc761) 1

/-- An age of 20598 days, the current day, under a threshold of none. -/
def overstatedProof : ZkThresholdProofV1 :=
  ageProof 20598 (hex32 0x3946d37a21ca87c13eabdac60aaca58d8131b0371bfc465303278dd06e66de59) 0

def inputDigest (proof : ZkThresholdProofV1) : Bytes × Bytes :=
  (domainMessage ZK_THRESHOLD_V1 (valueBytes (.obj [(js "claim", .str proof.claim),
    (js "subject", .str proof.subject), (js "threshold", .num proof.threshold),
    (js "witness_commitment", .str proof.witness_commitment)])),
    hexBytes proof.public_input_hash)

def ageHost : Host :=
  sampleHost (recorded [inputDigest dayOldProof, inputDigest overstatedProof,
    (domainMessage (js "tsl.zk.circuit_release_manifest.v1")
      (valueBytes (.obj ageManifest.toFields)), hexBytes ageManifestHash),
    (valueBytes ageVerificationKey, hexBytes ageManifest.verification_key_hash),
    (textEncode (js "did:tsl:alice"), bigEndian 32
      0x0daa9b8b453fb97ed5ea2d40497ddbf4837fc6d8faa09125149ec00bb164e59d)] [] fun _ =>
    List.replicate 32 255)

theorem aliceSignals_read {threshold_days : Nat} (h : threshold_days < 2 ^ 53) :
    List.Forall₂ ReadsAs (aliceSignals threshold_days)
      [20598, (threshold_days : Signal), aliceLeaf.subject_hash,
        uniformDigest aliceLib aliceLeaf 16] := by
  have hroom : 2 ^ 53 ≤ scalarOrder := by decide
  have hthreshold : ReadsAs (natText threshold_days) (threshold_days : Signal) := by
    rw [ReadsAs, bigIntOfString_natText, ZMod.val_natCast_of_lt (by omega)]
  rw [aliceDigest_eq le_rfl]
  exact .cons (by decide +kernel) (.cons hthreshold
    (.cons (by decide +kernel) (.cons (by decide +kernel) .nil)))

/-- The registry of alice, with a verifier for the public signals of one threshold. -/
def aliceSetting (threshold_days low : Nat) (h : threshold_days + low = 1) :
    AgeSetting ageVerificationKey :=
  uniformSetting aliceLib rfl aliceLeaf (by decide +kernel) aliceDigest_injective
    (aliceSignals threshold_days) 20598 (threshold_days : Signal)
    (by
      have hage : 20598 - aliceLeaf.creation_epoch_day =
          (threshold_days : Signal) + (low : Signal) := by
        rw [← Nat.cast_add, h]
        decide +kernel
      rw [hage]
      exact lessDecomposed_of_range _ (by omega))
    (aliceSignals_read (by omega))

theorem ageManifest_key (H : Host) (proof : ZkThresholdProofV1) :
    ∀ m, manifestForProof H.noble proof ageOptions.manifests = .ok (some m) →
      m.verification_key = some ageVerificationKey := by
  intro m hm
  obtain rfl : m = ageManifest := by simpa [ageOptions] using manifestForProof_mem hm
  rfl

theorem ageProofs_check :
    verifyThresholdProofAsync ageHost acceptAll dayOldProof ageOptions = .ok true ∧
      verifyThresholdProofAsync ageHost acceptAll overstatedProof ageOptions = .ok true := by
  refine ⟨?_, ?_⟩ <;> decide +kernel

/-- The setting of alice accepts the proof of an age of one day, which shows that age. -/
theorem verifyThresholdProofAsync_age_iff_sample :
    verifyThresholdProofAsync ageHost (aliceSetting 1 0 rfl).groth16Verify dayOldProof ageOptions =
        .ok true ∧
      AgeShown ageHost ageVerificationKey dayOldProof ageOptions := by
  have hkeys := ageManifest_key ageHost dayOldProof
  refine ⟨(verifyThresholdProofAsync_calls rfl hkeys rfl).mpr ⟨ageProofs_check.1, ?_⟩,
    (verifyThresholdProofAsync_age_iff rfl hkeys ageProofs_check.1).mpr ?_⟩
  · exact congrArg Except.ok (beq_self_eq_true (aliceSignals 1))
  · exact .of_places (by decide +kernel) rfl (by decide +kernel) rfl

/-- The threshold of the overstated proof is found at the current day. -/
theorem overstated_not_shown :
    overstatedProof.claim = js "identity_age_days" ∧
      isOn ageOptions.require_registered_circuit = true ∧
      isOn ageOptions.reject_dev_circuits = true ∧
      (∀ m, manifestForProof ageHost.noble overstatedProof ageOptions.manifests = .ok (some m) →
        m.verification_key = some ageVerificationKey) ∧
      ¬ AgeShown ageHost ageVerificationKey overstatedProof ageOptions := by
  have hkeys := ageManifest_key ageHost overstatedProof
  refine ⟨rfl, rfl, rfl, hkeys, fun h => ?_⟩
  have hrun : verifyThresholdProofAsync ageHost (aliceSetting 0 1 rfl).groth16Verify
      overstatedProof ageOptions = .ok true :=
    (verifyThresholdProofAsync_calls rfl hkeys rfl).mpr
      ⟨ageProofs_check.2, congrArg Except.ok (beq_self_eq_true (aliceSignals 0))⟩
  obtain ⟨groth16, _, _, _, _, hg, hreads, hshown⟩ := h _ hrun
  obtain rfl := Option.some.inj hg
  have hvalues := reads_unique (aliceSignals_read (by decide)) hreads
  simp only [List.cons.injEq, and_true] at hvalues
  obtain ⟨rfl, rfl, rfl, rfl⟩ := hvalues
  obtain ⟨slot, -, -, hage⟩ := hshown
    (complete_tower (poseidonScheme aliceLib) aliceLeaf.inputs 16 0).symm
  change aliceLeaf.creation_epoch_day.val + 20598 ≤ (20598 : Signal).val at hage
  exact absurd hage (by decide +kernel)

end Sample

end Continuity

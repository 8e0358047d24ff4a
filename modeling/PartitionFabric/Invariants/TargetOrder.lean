import Mathlib.Data.List.TakeWhile
import PartitionFabric.Invariants.Refusing
import PartitionFabric.Invariants.Undoing

/-!
The order in which a reconfiguration lists its target. The capacity of the target is summed up in a
vector that takes its dimensions from the first partition that describes any, so a heterogeneous
target may be accepted in one order and refused in another one.
-/

namespace PartitionFabric

section Summing

variable {desired : List PlannedPartition} {out : ResourceVector} {p : PlannedPartition}

/-- An amount that a dimension can hold. -/
def ResourceDimension.Holds (d : ResourceDimension) (n : ℕ) : Prop :=
  n < 2 ^ 64 ∧ (d.isShareDimension = true → n ≤ shareScale.toNat)

lemma ResourceDimension.Holds.mono {d : ResourceDimension} {m n : ℕ} (h : d.Holds n) (hle : m ≤ n) :
    d.Holds m :=
  ⟨lt_of_le_of_lt hle h.1, fun hd ↦ hle.trans (h.2 hd)⟩

/-- What the partitions of a target need of a dimension. -/
def totalAmount (desired : List PlannedPartition) (d : ResourceDimension) : ℕ :=
  (desired.map fun planned ↦ planned.resources.amount d).sum

/-- A vector carries every dimension of another one. -/
def ResourceVector.Covers (v w : ResourceVector) : Prop := w.mask &&& ~~~v.mask = 0

lemma ResourceVector.Covers.has {v w : ResourceVector} (h : v.Covers w) {d : ResourceDimension}
    (hd : w.has d = true) : v.has d = true := hasBit_of_subset h hd

/-- Two vectors that carry each other's dimensions carry the same ones. -/
lemma ResourceVector.Covers.antisymm {v w : ResourceVector} (h : v.Covers w) (h' : w.Covers v) :
    v.mask = w.mask := by
  unfold ResourceVector.Covers at h h'
  rw [← UInt32.toBitVec_inj] at h h' ⊢
  refine BitVec.eq_of_getLsbD_eq fun i hi ↦ ?_
  have hbit := congrArg (·.getLsbD i) h
  have hbit' := congrArg (·.getLsbD i) h'
  simp [hi] at hbit hbit'
  cases hv : v.mask.toBitVec.getLsbD i <;> cases hw : w.mask.toBitVec.getLsbD i <;> simp_all

lemma ResourceVector.covers_self (v : ResourceVector) : v.Covers v := UInt32.and_not_self

lemma ResourceVector.covers_of_empty {v w : ResourceVector} (h : w.empty = true) : v.Covers w := by
  have hmask : w.mask = 0 := by simpa [ResourceVector.empty] using h
  unfold ResourceVector.Covers
  rw [hmask]
  exact UInt32.zero_and

lemma ResourceVector.not_has_of_empty {v : ResourceVector} (h : v.empty = true)
    (d : ResourceDimension) : v.has d = false := by
  have hmask : v.mask = 0 := by simpa [ResourceVector.empty] using h
  simp [ResourceVector.has, hasBit, hmask]

/-- An amount fits on top of another one when the dimension can hold both. -/
lemma ResourceVector.fits_iff_holds {v w : ResourceVector} {d : ResourceDimension}
    (hv : v.has d = true) (hw : w.has d = true) :
    Fits (v.values d) d (w.values d) ↔ d.Holds (v.amount d + w.amount d) := by
  rw [amount_of_has hv, amount_of_has hw]
  exact Iff.rfl

lemma totalAmount_cons (d : ResourceDimension) :
    totalAmount (p :: desired) d = p.resources.amount d + totalAmount desired d := by
  unfold totalAmount
  rw [List.map_cons, List.sum_cons]

lemma totalAmount_of_none {d : ResourceDimension}
    (h : ¬∃ q ∈ desired, q.resources.has d = true) : totalAmount desired d = 0 := by
  unfold totalAmount
  rw [List.sum_eq_zero_iff]
  intro n hn
  obtain ⟨q, hq, rfl⟩ := List.mem_map.mp hn
  exact ResourceVector.amount_of_not_has (Bool.eq_false_iff.mpr fun hd ↦ h ⟨q, hq, hd⟩)

/-- What is summed up into a vector with dimensions has to be carried by it, and the sums of the
dimensions that occur have to be held by them. -/
lemma foldlM_addPlanned_isOk_iff (hout : out.empty = false) :
    (∃ sum, desired.foldlM addPlanned out = .ok sum) ↔
      (∀ q ∈ desired, out.Covers q.resources) ∧ ∀ d, (∃ q ∈ desired, q.resources.has d = true) →
        d.Holds (out.amount d + totalAmount desired d) := by
  induction desired generalizing out with
  | nil =>
    refine iff_of_true ⟨out, rfl⟩ ⟨fun q hq ↦ absurd hq List.not_mem_nil, ?_⟩
    rintro d ⟨q, hq, -⟩
    exact absurd hq List.not_mem_nil
  | cons q rest ih =>
    rw [List.foldlM_cons]
    by_cases hadds : out.Covers q.resources ∧ ∀ d, q.resources.has d = true →
        ResourceVector.Fits (out.values d) d (q.resources.values d)
    · obtain ⟨hcovers, hfits⟩ := hadds
      have hstep : addPlanned out q = .ok (out.plus q.resources) :=
        addPlanned_eq_ok.mpr (.inr ⟨hout, hcovers, hfits, rfl⟩)
      rw [hstep]
      change (∃ sum, rest.foldlM addPlanned (out.plus q.resources) = .ok sum) ↔ _
      rw [@ih (out.plus q.resources) hout, List.forall_mem_cons]
      have hamount (d : ResourceDimension) : (out.plus q.resources).amount d +
          totalAmount rest d = out.amount d + totalAmount (q :: rest) d := by
        rw [ResourceVector.amount_plus hcovers hfits, totalAmount_cons, Nat.add_assoc]
      constructor
      · rintro ⟨hrest, hholds⟩
        refine ⟨⟨hcovers, hrest⟩, fun d hd ↦ ?_⟩
        rw [← hamount]
        by_cases hlater : ∃ x ∈ rest, x.resources.has d = true
        · exact hholds d hlater
        · have hhas : q.resources.has d = true := by
            obtain ⟨x, hx, hd⟩ := hd
            rcases List.mem_cons.mp hx with rfl | hx
            · exact hd
            · exact absurd ⟨x, hx, hd⟩ hlater
          rw [totalAmount_of_none hlater, Nat.add_zero, ResourceVector.amount_plus hcovers hfits]
          exact (ResourceVector.fits_iff_holds (hcovers.has hhas) hhas).mp (hfits d hhas)
      · rintro ⟨⟨-, hrest⟩, hholds⟩
        refine ⟨hrest, fun d hd ↦ ?_⟩
        obtain ⟨x, hx, hd⟩ := hd
        rw [hamount]
        exact hholds d ⟨x, List.mem_cons_of_mem _ hx, hd⟩
    · have hstep : ∃ e, addPlanned out q = .error e := by
        cases hrun : addPlanned out q with
        | error e => exact ⟨e, rfl⟩
        | ok sum =>
          rcases addPlanned_eq_ok.mp hrun with ⟨hempty, -⟩ | ⟨-, hcovers, hfits, -⟩
          · cases hout.symm.trans hempty
          · exact absurd ⟨hcovers, hfits⟩ hadds
      obtain ⟨e, hstep⟩ := hstep
      rw [hstep]
      refine iff_of_false (by rintro ⟨sum, h⟩; cases h) fun h ↦ hadds ?_
      have hcovers := h.1 q List.mem_cons_self
      refine ⟨hcovers, fun d hd ↦ ?_⟩
      rw [ResourceVector.fits_iff_holds (hcovers.has hd) hd]
      refine (h.2 d ⟨q, List.mem_cons_self, hd⟩).mono ?_
      rw [totalAmount_cons, ← Nat.add_assoc]
      exact Nat.le_add_right _ _

/-- The resources of a target layout can be summed up. -/
def Sums (desired : List PlannedPartition) : Prop := ∃ sum, accumulate desired = .ok sum

/-- A dimension that two partitions of a target share cannot hold what the target needs of it. -/
def Overflows (desired : List PlannedPartition) : Prop :=
  ∃ d, 2 ≤ desired.countP (fun planned ↦ planned.resources.has d) ∧
    ¬d.Holds (totalAmount desired d)

/-- A partition carries every dimension that its target describes. -/
def Seeds (desired : List PlannedPartition) (p : PlannedPartition) : Prop :=
  ∀ q ∈ desired, p.resources.Covers q.resources

lemma foldlM_addPlanned_skip (hout : out.empty = true)
    (hall : ∀ q ∈ desired, q.resources.empty = true) :
    ∃ sum, desired.foldlM addPlanned out = .ok sum ∧ sum.empty = true := by
  induction desired generalizing out with
  | nil => exact ⟨out, rfl, hout⟩
  | cons q rest ih =>
    rw [List.forall_mem_cons] at hall
    have hstep : addPlanned out q = .ok q.resources := addPlanned_eq_ok.mpr (.inl ⟨hout, rfl⟩)
    rw [List.foldlM_cons, hstep]
    exact ih hall.1 hall.2

/-- The first partition with dimensions sets those of the sum. -/
lemma sums_seeded {skipped : List PlannedPartition}
    (hskipped : ∀ q ∈ skipped, q.resources.empty = true) (hp : p.resources.empty = false) :
    Sums (skipped ++ p :: desired) ↔
      Seeds (skipped ++ p :: desired) p ∧ ¬Overflows (skipped ++ p :: desired) := by
  obtain ⟨start, hskip, hstart⟩ := @foldlM_addPlanned_skip skipped {} rfl hskipped
  have hstep : addPlanned start p = .ok p.resources := addPlanned_eq_ok.mpr (.inl ⟨hstart, rfl⟩)
  have hrun : accumulate (skipped ++ p :: desired) = desired.foldlM addPlanned p.resources := by
    rw [accumulate_eq_foldlM, List.foldlM_append, hskip]
    change (p :: desired).foldlM addPlanned start = _
    rw [List.foldlM_cons, hstep]
    rfl
  have htotal (d : ResourceDimension) : totalAmount (skipped ++ p :: desired) d =
      p.resources.amount d + totalAmount desired d := by
    have hnone : totalAmount skipped d = 0 := totalAmount_of_none fun ⟨q, hq, hd⟩ ↦ by
      rw [ResourceVector.not_has_of_empty (hskipped q hq)] at hd
      cases hd
    rw [← totalAmount_cons, ← Nat.zero_add (totalAmount (p :: desired) d), ← hnone]
    unfold totalAmount
    rw [List.map_append, List.sum_append]
  have hcount (d : ResourceDimension) :
      (skipped ++ p :: desired).countP (fun planned ↦ planned.resources.has d) =
        (p :: desired).countP fun planned ↦ planned.resources.has d := by
    rw [List.countP_append, List.countP_eq_zero.mpr fun q hq ↦ ?_, Nat.zero_add]
    rw [ResourceVector.not_has_of_empty (hskipped q hq)]
    exact Bool.false_ne_true
  unfold Sums
  rw [hrun, foldlM_addPlanned_isOk_iff hp]
  unfold Seeds
  rw [List.forall_mem_append, List.forall_mem_cons]
  constructor
  · rintro ⟨hcovers, hholds⟩
    refine ⟨⟨fun q hq ↦ ResourceVector.covers_of_empty (hskipped q hq),
      ResourceVector.covers_self _, hcovers⟩, ?_⟩
    rintro ⟨d, htwice, hover⟩
    rw [hcount, List.countP_cons] at htwice
    have hlater : 0 < desired.countP fun planned ↦ planned.resources.has d := by
      split at htwice <;> omega
    rw [htotal] at hover
    exact hover (hholds d (List.countP_pos_iff.mp hlater))
  · rintro ⟨⟨-, -, hcovers⟩, hfits⟩
    refine ⟨hcovers, fun d hlater ↦ ?_⟩
    by_contra hover
    rw [← htotal] at hover
    refine hfits ⟨d, ?_, hover⟩
    obtain ⟨q, hq, hd⟩ := hlater
    have hpos : 0 < desired.countP fun planned ↦ planned.resources.has d :=
      List.countP_pos_iff.mpr ⟨q, hq, hd⟩
    rw [hcount, List.countP_cons, (hcovers q hq).has hd, if_pos rfl]
    omega

lemma sums_of_empty (hall : ∀ q ∈ desired, q.resources.empty = true) : Sums desired := by
  obtain ⟨sum, hsum, -⟩ := @foldlM_addPlanned_skip desired {} rfl hall
  exact ⟨sum, hsum⟩

/-- A target describes nothing, or one of its partitions decides whether it can be summed up. -/
lemma exists_seed (desired : List PlannedPartition) :
    (∀ q ∈ desired, q.resources.empty = true) ∨ ∃ p ∈ desired, p.resources.empty = false ∧
      (Sums desired ↔ Seeds desired p ∧ ¬Overflows desired) := by
  cases hfind : desired.find? fun q ↦ !q.resources.empty with
  | none =>
    rw [List.find?_eq_none] at hfind
    exact .inl fun q hq ↦ by simpa using hfind q hq
  | some p =>
    obtain ⟨hp, skipped, rest, rfl, hskipped⟩ := List.find?_eq_some_iff_append.mp hfind
    have hp : p.resources.empty = false := by simpa using hp
    have hskipped : ∀ q ∈ skipped, q.resources.empty = true := fun q hq ↦ by
      simpa using hskipped q hq
    exact .inr ⟨p, List.mem_append_right _ List.mem_cons_self, hp, sums_seeded hskipped hp⟩

lemma totalAmount_perm {desired' : List PlannedPartition} (h : desired'.Perm desired)
    (d : ResourceDimension) : totalAmount desired' d = totalAmount desired d :=
  (h.map _).sum_eq

lemma overflows_perm {desired' : List PlannedPartition} (h : desired'.Perm desired) :
    Overflows desired' ↔ Overflows desired := by
  unfold Overflows
  refine exists_congr fun d ↦ ?_
  rw [h.countP_eq, totalAmount_perm h]

lemma seeds_perm {desired' : List PlannedPartition} (h : desired'.Perm desired) :
    Seeds desired' p ↔ Seeds desired p :=
  forall_congr' fun _ ↦ imp_congr_left h.mem_iff

/-- The order of a target does not decide whether it can be summed up: it cannot be held in any
order, or all partitions that describe anything describe the same dimensions, or none of them
describes every dimension. -/
def AccumulatesAlike (desired : List PlannedPartition) : Prop :=
  Overflows desired ∨
    (∀ p ∈ desired, ∀ q ∈ desired, p.resources.empty = false → q.resources.empty = false →
      p.resources.mask = q.resources.mask) ∨
    ∀ p ∈ desired, p.resources.empty = false → ¬Seeds desired p

/-- Every partition of a target can be listed first. -/
lemma exists_perm_cons (hp : p ∈ desired) : ∃ rest, (p :: rest).Perm desired := by
  obtain ⟨l, r, rfl⟩ := List.append_of_mem hp
  exact ⟨l ++ r, List.perm_middle.symm⟩

lemma sums_perm_iff : (∀ desired', desired'.Perm desired → (Sums desired' ↔ Sums desired)) ↔
    AccumulatesAlike desired := by
  -- a partition that comes first decides on its own
  have hfirst : ∀ p ∈ desired, p.resources.empty = false → ∃ desired', desired'.Perm desired ∧
      (Sums desired' ↔ Seeds desired p ∧ ¬Overflows desired) := by
    intro p hp hdescribes
    obtain ⟨rest, hperm⟩ := exists_perm_cons hp
    refine ⟨p :: rest, hperm, ?_⟩
    rw [← seeds_perm hperm, ← overflows_perm hperm]
    exact @sums_seeded rest p [] (fun q hq ↦ absurd hq List.not_mem_nil) hdescribes
  constructor
  · intro h
    by_cases hover : Overflows desired
    · exact .inl hover
    · have hsums : ∀ p ∈ desired, p.resources.empty = false → (Seeds desired p ↔ Sums desired) := by
        intro p hp hdescribes
        obtain ⟨desired', hperm, hdecides⟩ := hfirst p hp hdescribes
        rw [← h desired' hperm, hdecides]
        exact (and_iff_left hover).symm
      by_cases hok : Sums desired
      · refine .inr (.inl fun p hp q hq hpdescribes hqdescribes ↦ ?_)
        have hpseeds := (hsums p hp hpdescribes).mpr hok
        have hqseeds := (hsums q hq hqdescribes).mpr hok
        exact (hpseeds q hq).antisymm (hqseeds p hp)
      · exact .inr (.inr fun p hp hdescribes ↦ fun hseeds ↦ hok ((hsums p hp hdescribes).mp hseeds))
  · intro h desired' hperm
    rcases exists_seed desired with hempty | ⟨p, hp, hpdescribes, hdecides⟩
    · have hempty' : ∀ q ∈ desired', q.resources.empty = true := fun q hq ↦
        hempty q (hperm.mem_iff.mp hq)
      exact iff_of_true (sums_of_empty hempty') (sums_of_empty hempty)
    rcases exists_seed desired' with hempty | ⟨q, hq, hqdescribes, hdecides'⟩
    · rw [hempty p (hperm.mem_iff.mpr hp)] at hpdescribes
      cases hpdescribes
    · rw [hdecides, hdecides', seeds_perm hperm, overflows_perm hperm]
      have hq := hperm.mem_iff.mp hq
      rcases h with hover | hsame | hnone
      · exact iff_of_false (fun h ↦ h.2 hover) fun h ↦ h.2 hover
      · have hmask : q.resources.mask = p.resources.mask := hsame q hq p hp hqdescribes hpdescribes
        unfold Seeds ResourceVector.Covers
        rw [hmask]
      · exact iff_of_false (fun h ↦ hnone q hq hqdescribes h.1) fun h ↦ hnone p hp hpdescribes h.1

/-- Two orders of a target that can both be summed up have the same sum. -/
lemma accumulate_perm {desired' : List PlannedPartition} (hperm : desired'.Perm desired)
    {sum sum' : ResourceVector} (h : accumulate desired = .ok sum)
    (h' : accumulate desired' = .ok sum') : sum'.has = sum.has ∧ sum'.get = sum.get := by
  refine ⟨funext fun d ↦ ?_, funext fun d ↦ ?_⟩
  · rw [Bool.eq_iff_iff, accumulate_has h', accumulate_has h]
    exact exists_congr fun q ↦ and_congr_left fun _ ↦ hperm.mem_iff
  · rw [← UInt64.toNat_inj]
    change sum'.amount d = sum.amount d
    rw [accumulate_amount h', accumulate_amount h]
    exact totalAmount_perm hperm d

end Summing

section Profiles

variable {s : FabricState} {accelerator : AcceleratorRecord}
  {desired desired' : List PlannedPartition} {p : PlannedPartition} {compute memory : UInt32}

/-- What a device refuses one partition of a target for. -/
def targetError (s : FabricState) (accelerator : AcceleratorRecord) (planned : PlannedPartition) :
    Option PlanOutcome :=
  match s.findProfile planned.profile with
  | none => some .capabilityUnknown
  | some profile =>
    if !accelerator.capability.supportsProfile profile.id then some .capabilityUnsupported
    else if !profile.backend.isEmpty && profile.backend ≠ accelerator.backend then
      some .policyRejected
    else none

/-- The slices that the known profiles of a target take. -/
def sliceTotal (s : FabricState) (count : PartitionProfile → UInt32)
    (desired : List PlannedPartition) : ℕ :=
  (desired.map fun planned ↦
    ((s.findProfile planned.profile).map fun profile ↦ (count profile).toNat).getD 0).sum

/-- The slices of a target can be counted. -/
structure SlicesFit (s : FabricState) (compute memory : UInt32) (desired : List PlannedPartition) :
    Prop where
  compute : compute.toNat + sliceTotal s (·.computeSliceCount) desired < 2 ^ 32
  memory : memory.toNat + sliceTotal s (·.memorySliceCount) desired < 2 ^ 32

lemma targetError_ne {e : PlanOutcome} (h : targetError s accelerator p = some e) :
    e ≠ .limitExceeded ∧ e ≠ .feasibleAfterReconfiguration := by
  unfold targetError at h
  split at h
  · obtain rfl := Option.some.inj h
    decide
  · split_ifs at h <;>
    · obtain rfl := Option.some.inj h
      decide

lemma not_gt_uint32Max_sub {a b : UInt32} : ¬a > uint32Max - b ↔ a.toNat + b.toNat < 2 ^ 32 := by
  have hb := UInt32.toNat_lt b
  have hmax : (uint32Max - b).toNat = 2 ^ 32 - 1 - b.toNat := by
    rw [UInt32.toNat_sub_of_le]
    · rfl
    · rw [UInt32.le_iff_toNat_le]
      exact Nat.le_of_lt_succ hb
  rw [gt_iff_lt, UInt32.lt_iff_toNat_lt, hmax]
  omega

lemma checkTarget_refused {e : PlanOutcome} (h : targetError s accelerator p = some e) :
    checkTarget s accelerator (p :: desired) compute memory = .error e := by
  unfold checkTarget
  unfold targetError at h
  cases hfind : s.findProfile p.profile with
  | none =>
    rw [hfind] at h
    obtain rfl := Option.some.inj h
    rfl
  | some profile =>
    rw [hfind] at h
    simp only at h ⊢
    split_ifs at h with hsupported hbackend
    · obtain rfl := Option.some.inj h
      rw [if_pos hsupported]
    · obtain rfl := Option.some.inj h
      rw [if_neg hsupported, if_pos hbackend]

/-- A partition that is not refused is counted, unless its slices are too many. -/
lemma checkTarget_counted (h : targetError s accelerator p = none) :
    ∃ profile, s.findProfile p.profile = some profile ∧
      checkTarget s accelerator (p :: desired) compute memory =
        if compute > uint32Max - profile.computeSliceCount ||
          memory > uint32Max - profile.memorySliceCount then .error .limitExceeded
        else checkTarget s accelerator desired (compute + profile.computeSliceCount)
          (memory + profile.memorySliceCount) := by
  unfold targetError at h
  cases hfind : s.findProfile p.profile with
  | none =>
    rw [hfind] at h
    cases h
  | some profile =>
    rw [hfind] at h
    simp only at h
    split_ifs at h with hsupported hbackend
    refine ⟨profile, rfl, ?_⟩
    rw [checkTarget, hfind]
    simp only
    rw [if_neg hsupported, if_neg hbackend]

lemma sliceTotal_cons {profile : PartitionProfile} (count : PartitionProfile → UInt32)
    (h : s.findProfile p.profile = some profile) :
    sliceTotal s count (p :: desired) = (count profile).toNat + sliceTotal s count desired := by
  unfold sliceTotal
  rw [List.map_cons, List.sum_cons, h]
  rfl

lemma toNat_add_of_lt32 {a b : UInt32} (h : a.toNat + b.toNat < 2 ^ 32) :
    (a + b).toNat = a.toNat + b.toNat := by
  rw [UInt32.toNat_add]
  exact Nat.mod_eq_of_lt h

/-- Slices that were counted already count like those that are still to come. -/
lemma slicesFit_cons {profile : PartitionProfile} (h : s.findProfile p.profile = some profile)
    (hcompute : compute.toNat + profile.computeSliceCount.toNat < 2 ^ 32)
    (hmemory : memory.toNat + profile.memorySliceCount.toNat < 2 ^ 32) :
    SlicesFit s (compute + profile.computeSliceCount) (memory + profile.memorySliceCount) desired ↔
      SlicesFit s compute memory (p :: desired) := by
  constructor <;> rintro ⟨hc, hm⟩ <;> constructor
  · rwa [sliceTotal_cons _ h, ← Nat.add_assoc, ← toNat_add_of_lt32 hcompute]
  · rwa [sliceTotal_cons _ h, ← Nat.add_assoc, ← toNat_add_of_lt32 hmemory]
  · rwa [sliceTotal_cons _ h, ← Nat.add_assoc, ← toNat_add_of_lt32 hcompute] at hc
  · rwa [sliceTotal_cons _ h, ← Nat.add_assoc, ← toNat_add_of_lt32 hmemory] at hm

/-- The partitions of a target up to the first refused one are counted, then that one decides. -/
lemma checkTarget_cases (s : FabricState) (accelerator : AcceleratorRecord)
    (desired : List PlannedPartition) (compute memory : UInt32) :
    (¬SlicesFit s compute memory (desired.takeWhile fun p ↦ (targetError s accelerator p).isNone) ∧
      checkTarget s accelerator desired compute memory = .error .limitExceeded) ∨
    SlicesFit s compute memory (desired.takeWhile fun p ↦ (targetError s accelerator p).isNone) ∧
      ((∃ e, desired.findSome? (targetError s accelerator) = some e ∧
        checkTarget s accelerator desired compute memory = .error e) ∨
      desired.findSome? (targetError s accelerator) = none ∧ ∃ c m,
        checkTarget s accelerator desired compute memory = .ok (c, m) ∧
        c.toNat = compute.toNat + sliceTotal s (·.computeSliceCount) desired ∧
        m.toNat = memory.toNat + sliceTotal s (·.memorySliceCount) desired) := by
  induction desired generalizing compute memory with
  | nil =>
    exact .inr ⟨⟨compute.toNat_lt, memory.toNat_lt⟩, .inr ⟨rfl, compute, memory, rfl, rfl, rfl⟩⟩
  | cons p rest ih =>
    cases herror : targetError s accelerator p with
    | some e =>
      rw [checkTarget_refused herror, List.takeWhile_cons_of_neg (by simp [herror]),
        List.findSome?_cons_of_isSome (by simp [herror])]
      exact .inr ⟨⟨compute.toNat_lt, memory.toNat_lt⟩, .inl ⟨e, herror, rfl⟩⟩
    | none =>
      obtain ⟨profile, hfind, hcounts⟩ :=
        @checkTarget_counted s accelerator rest p compute memory herror
      rw [hcounts, List.takeWhile_cons_of_pos (by simp [herror]),
        List.findSome?_cons_of_isNone (by simp [herror])]
      by_cases hfits : compute.toNat + profile.computeSliceCount.toNat < 2 ^ 32 ∧
          memory.toNat + profile.memorySliceCount.toNat < 2 ^ 32
      · obtain ⟨hcompute, hmemory⟩ := hfits
        have hroom : (compute > uint32Max - profile.computeSliceCount ||
            memory > uint32Max - profile.memorySliceCount) = false := by
          simp only [Bool.or_eq_false_iff, decide_eq_false_iff_not]
          exact ⟨not_gt_uint32Max_sub.mpr hcompute, not_gt_uint32Max_sub.mpr hmemory⟩
        rw [hroom, if_neg Bool.false_ne_true, ← slicesFit_cons hfind hcompute hmemory,
          sliceTotal_cons _ hfind, sliceTotal_cons _ hfind, ← Nat.add_assoc, ← Nat.add_assoc,
          ← toNat_add_of_lt32 hcompute, ← toNat_add_of_lt32 hmemory]
        exact ih _ _
      · refine .inl ⟨fun h ↦ hfits ?_, if_pos ?_⟩
        · have hc := h.compute
          have hm := h.memory
          rw [sliceTotal_cons _ hfind, ← Nat.add_assoc] at hc hm
          exact ⟨lt_of_le_of_lt (Nat.le_add_right _ _) hc, lt_of_le_of_lt (Nat.le_add_right _ _) hm⟩
        · simp only [Bool.or_eq_true, decide_eq_true_eq]
          by_contra hroom
          rw [not_or] at hroom
          exact hfits ⟨not_gt_uint32Max_sub.mp hroom.1, not_gt_uint32Max_sub.mp hroom.2⟩

/-- A device refuses the partitions of a target for one reason, and what is listed before them can
be counted. -/
def RefusesAlike (s : FabricState) (accelerator : AcceleratorRecord)
    (desired : List PlannedPartition) : Prop :=
  (∀ p ∈ desired, ∀ q ∈ desired, ∀ e e', targetError s accelerator p = some e →
    targetError s accelerator q = some e' → e = e') ∧
  SlicesFit s 0 0 (desired.filter fun p ↦ (targetError s accelerator p).isNone)

lemma sliceTotal_perm (count : PartitionProfile → UInt32) (h : desired'.Perm desired) :
    sliceTotal s count desired' = sliceTotal s count desired := (h.map _).sum_eq

lemma SlicesFit.perm (h : desired'.Perm desired) (hfits : SlicesFit s compute memory desired) :
    SlicesFit s compute memory desired' := by
  constructor
  · rw [sliceTotal_perm _ h]
    exact hfits.compute
  · rw [sliceTotal_perm _ h]
    exact hfits.memory

lemma SlicesFit.sublist (h : desired'.Sublist desired)
    (hfits : SlicesFit s compute memory desired) : SlicesFit s compute memory desired' := by
  have hle (count : PartitionProfile → UInt32) :
      sliceTotal s count desired' ≤ sliceTotal s count desired :=
    (h.map _).sum_le_sum fun _ _ ↦ Nat.zero_le _
  exact ⟨lt_of_le_of_lt (Nat.add_le_add_left (hle _) _) hfits.compute,
    lt_of_le_of_lt (Nat.add_le_add_left (hle _) _) hfits.memory⟩

/-- A refused partition decides about a target whose other refusals are the same. -/
lemma RefusesAlike.refuses (h : RefusesAlike s accelerator desired) (hperm : desired'.Perm desired)
    {e : PlanOutcome} (hp : p ∈ desired) (herror : targetError s accelerator p = some e) :
    checkTarget s accelerator desired' 0 0 = .error e := by
  rcases checkTarget_cases s accelerator desired' 0 0 with
    ⟨hover, -⟩ | ⟨-, ⟨e', hfind, hrun⟩ | ⟨hfind, -⟩⟩
  · refine absurd ?_ hover
    refine (h.2.perm (hperm.filter _)).sublist ?_
    have hsublist := (List.takeWhile_sublist (l := desired')
      fun p ↦ (targetError s accelerator p).isNone).filter
        fun p ↦ (targetError s accelerator p).isNone
    rwa [List.filter_eq_self.mpr fun q hq ↦ List.mem_takeWhile_imp
      (p := fun p ↦ (targetError s accelerator p).isNone) hq] at hsublist
  · obtain ⟨q, hq, herror'⟩ := List.exists_of_findSome?_eq_some hfind
    rw [hrun, h.1 p hp q (hperm.mem_iff.mp hq) e e' herror herror']
  · rw [List.findSome?_eq_none_iff] at hfind
    rw [hfind p (hperm.mem_iff.mpr hp)] at herror
    cases herror

/-- A target that is refused for one of its partitions is refused alike in every order. -/
lemma checkTarget_perm_refused {e : PlanOutcome} (hp : p ∈ desired)
    (herror : targetError s accelerator p = some e) :
    (∀ desired', desired'.Perm desired → checkTarget s accelerator desired' 0 0 =
      checkTarget s accelerator desired 0 0) ↔ RefusesAlike s accelerator desired := by
  constructor
  · intro h
    have hall : ∀ q ∈ desired, ∀ e, targetError s accelerator q = some e →
        checkTarget s accelerator desired 0 0 = .error e := by
      intro q hq e herror
      obtain ⟨rest, hperm⟩ := exists_perm_cons hq
      rw [← h _ hperm, checkTarget_refused herror]
    constructor
    · intro p hp q hq e e' herror herror'
      exact Except.error.inj ((hall p hp e herror).symm.trans (hall q hq e' herror'))
    · -- what is not refused is listed first
      have hperm := List.filter_append_perm (fun p ↦ (targetError s accelerator p).isNone) desired
      rcases checkTarget_cases s accelerator (desired.filter (fun p ↦
        (targetError s accelerator p).isNone) ++ desired.filter fun p ↦
          !(targetError s accelerator p).isNone) 0 0 with ⟨-, hrun⟩ | ⟨hfits, -⟩
      · rw [h _ hperm, hall p hp e herror] at hrun
        exact absurd (Except.error.inj hrun) (targetError_ne herror).1
      · rw [List.takeWhile_append_of_pos fun q hq ↦ (List.mem_filter.mp hq).2] at hfits
        exact hfits.sublist (List.sublist_append_left _ _)
  · intro h desired' hperm
    rw [h.refuses hperm hp herror, h.refuses (List.Perm.refl desired) hp herror]

/-- The slices of a target without refused partitions are summed up, or they are too many. -/
lemma checkTarget_accepted (h : ∀ p ∈ desired, targetError s accelerator p = none) :
    ¬SlicesFit s 0 0 desired ∧ checkTarget s accelerator desired 0 0 = .error .limitExceeded ∨
    SlicesFit s 0 0 desired ∧ ∃ c m, checkTarget s accelerator desired 0 0 = .ok (c, m) ∧
      c.toNat = sliceTotal s (·.computeSliceCount) desired ∧
      m.toNat = sliceTotal s (·.memorySliceCount) desired := by
  have hwhole : desired.takeWhile (fun p ↦ (targetError s accelerator p).isNone) = desired :=
    List.takeWhile_eq_self_iff.mpr fun p hp ↦ by rw [h p hp]; rfl
  have hcases := checkTarget_cases s accelerator desired 0 0
  rw [hwhole] at hcases
  rcases hcases with ⟨hover, hrun⟩ | ⟨hfits, ⟨e, hfind, -⟩ | ⟨-, c, m, hrun, hc, hm⟩⟩
  · exact .inl ⟨hover, hrun⟩
  · rw [List.findSome?_eq_none_iff.mpr h] at hfind
    cases hfind
  · refine .inr ⟨hfits, c, m, hrun, ?_, ?_⟩
    · rw [hc]
      exact Nat.zero_add _
    · rw [hm]
      exact Nat.zero_add _

/-- A target without refused partitions is counted alike in every order. -/
lemma checkTarget_perm_accepted (h : ∀ p ∈ desired, targetError s accelerator p = none)
    (hperm : desired'.Perm desired) :
    checkTarget s accelerator desired' 0 0 = checkTarget s accelerator desired 0 0 := by
  have h' : ∀ p ∈ desired', targetError s accelerator p = none := fun p hp ↦
    h p (hperm.mem_iff.mp hp)
  rcases checkTarget_accepted h with ⟨hover, hrun⟩ | ⟨hfits, c, m, hrun, hc, hm⟩ <;>
    rcases checkTarget_accepted h' with ⟨hover', hrun'⟩ | ⟨hfits', c', m', hrun', hc', hm'⟩
  · rw [hrun, hrun']
  · exact absurd (hfits'.perm hperm.symm) hover
  · exact absurd (hfits.perm hperm) hover'
  · have hcompute : c' = c := by
      rw [← UInt32.toNat_inj, hc, hc', sliceTotal_perm _ hperm]
    have hmemory : m' = m := by
      rw [← UInt32.toNat_inj, hm, hm', sliceTotal_perm _ hperm]
    rw [hrun, hrun', hcompute, hmemory]

/-- Two profiles exclude each other whichever of them is asked. -/
lemma PartitionProfile.conflictsWith_comm (profile other : PartitionProfile) :
    profile.conflictsWith other = other.conflictsWith profile := by
  unfold conflictsWith
  by_cases h : other.id = profile.id
  · rw [if_pos h, if_pos h.symm]
  · rw [if_neg h, if_neg (Ne.symm h), Bool.or_comm]

/-- Two partitions of a target have profiles that do not exclude each other. -/
def Coexist (s : FabricState) (p q : PlannedPartition) : Prop :=
  ∀ left right, s.findProfile p.profile = some left → s.findProfile q.profile = some right →
    left.conflictsWith right = false

lemma desiredConflicts_eq_false_iff :
    desiredConflicts s desired = false ↔ desired.Pairwise (Coexist s) := by
  induction desired with
  | nil => exact iff_of_true rfl List.Pairwise.nil
  | cons p rest ih =>
    rw [desiredConflicts, Bool.or_eq_false_iff, ih, List.pairwise_cons]
    refine and_congr_left fun _ ↦ ?_
    unfold Coexist
    cases s.findProfile p.profile with
    | none => exact iff_of_true rfl fun q hq left right h ↦ by cases h
    | some left =>
      simp only [List.any_eq_false, Bool.not_eq_true]
      refine forall_congr' fun q ↦ imp_congr_right fun _ ↦ ?_
      cases s.findProfile q.profile <;> simp

lemma desiredConflicts_perm (hperm : desired'.Perm desired) :
    desiredConflicts s desired' = desiredConflicts s desired := by
  have hsymm : ∀ p q, Coexist s p q → Coexist s q p := by
    intro p q h right left hright hleft
    rw [PartitionProfile.conflictsWith_comm]
    exact h left right hleft hright
  have hiff : desiredConflicts s desired' = false ↔ desiredConflicts s desired = false := by
    rw [desiredConflicts_eq_false_iff, desiredConflicts_eq_false_iff]
    exact hperm.pairwise_iff (hsymm _ _)
  cases h : desiredConflicts s desired <;> cases h' : desiredConflicts s desired' <;> simp_all

end Profiles

section Layouts

variable {s : FabricState} {accelerator : AcceleratorRecord} {ledger : CapacityLedger}
  {desired desired' : List PlannedPartition} {context : PartitionRequest} {now : UInt64}

/-- Whether the summed up resources of a target fit into what a device can use. -/
def checkCapacity (ledger : CapacityLedger) : Result ResourceVector → Except PlanOutcome Unit
  | .error _ => .error .limitExceeded
  | .ok target =>
    match ResourceVector.subAssign (ledger.bucket .unavailable) ledger.total with
    | (_, .error _) => .error .revalidationRequired
    | (usable, .ok _) => if target.isSubsetOf usable then .ok () else .error .insufficientCapacity

/-- The checks of a target on a device that takes targets of its size. -/
def checkLayout (s : FabricState) (accelerator : AcceleratorRecord) (ledger : CapacityLedger)
    (desired : List PlannedPartition) : Except PlanOutcome Unit := do
  let (compute, memory) ← checkTarget s accelerator desired 0 0
  if desiredConflicts s desired then .error .fragmented
  else if accelerator.capability.totalComputeSlices > 0 &&
      compute > accelerator.capability.totalComputeSlices then
    .error .physicallyImpossible
  else if accelerator.capability.totalMemorySlices > 0 &&
      memory > accelerator.capability.totalMemorySlices then
    .error .physicallyImpossible
  else checkCapacity ledger (accumulate desired)

/-- What a device refuses a target of a length for, whatever partitions it lists. -/
def sizeError (s : FabricState) (accelerator : AcceleratorRecord) (context : PartitionRequest)
    (length : ℕ) : Option PlanOutcome :=
  if length = 0 then some .invalidRequest
  else if length > s.limits.maxPartitionsPerAccelerator then some .limitExceeded
  else if !accelerator.capability.declaresSupported then some .capabilityUnsupported
  else if accelerator.capability.maxPartitionCount > 0 &&
      length > accelerator.capability.maxPartitionCount.toNat then
    some .maxPartitionCountReached
  else if !s.policy.allowDestructiveReconfiguration ||
      !context.allowDestructiveReconfiguration then
    some .policyRejected
  else none

lemma sizeError_ne {length : ℕ} {e : PlanOutcome}
    (h : sizeError s accelerator context length = some e) : e ≠ .feasibleAfterReconfiguration := by
  unfold sizeError at h
  split_ifs at h <;>
  · obtain rfl := Option.some.inj h
    decide

/-- Before the partitions of a target are looked at, only its length matters. -/
lemma checkReconfiguration_eq (s : FabricState) (accelerator : AcceleratorRecord)
    (ledger : CapacityLedger) (desired : List PlannedPartition) (context : PartitionRequest) :
    checkReconfiguration s accelerator ledger desired context =
      match sizeError s accelerator context desired.length with
      | some e => .error e
      | none => checkLayout s accelerator ledger desired := by
  have hempty : desired.isEmpty = decide (desired.length = 0) := by
    cases desired <;> simp
  unfold checkReconfiguration sizeError
  rw [hempty]
  simp only [decide_eq_true_eq]
  change (if _ then _ else if _ then _ else if _ then _ else if _ then _ else if _ then _ else
    checkLayout s accelerator ledger desired) = _
  split_ifs <;> rfl

/-- The slices of a target do not exceed those of a device. -/
structure Within (s : FabricState) (accelerator : AcceleratorRecord)
    (desired : List PlannedPartition) : Prop where
  compute : accelerator.capability.totalComputeSlices > 0 →
    sliceTotal s (·.computeSliceCount) desired ≤ accelerator.capability.totalComputeSlices.toNat
  memory : accelerator.capability.totalMemorySlices > 0 →
    sliceTotal s (·.memorySliceCount) desired ≤ accelerator.capability.totalMemorySlices.toNat

/-- The partitions of a target that are not refused have a place on the device together. -/
structure Placed (s : FabricState) (accelerator : AcceleratorRecord)
    (desired : List PlannedPartition) : Prop where
  accepted : ∀ p ∈ desired, targetError s accelerator p = none
  counted : SlicesFit s 0 0 desired
  coexist : desiredConflicts s desired = false
  within : Within s accelerator desired

/-- The comparison of counted slices with those of a device. -/
lemma gt_slices_iff {total count : UInt32} {n : ℕ} (h : count.toNat = n) :
    (decide (total > 0) && decide (count > total)) = true ↔ ¬(total > 0 → n ≤ total.toNat) := by
  rw [Bool.and_eq_true, decide_eq_true_eq, decide_eq_true_eq, Classical.not_imp, not_le, ← h]
  exact and_congr_right fun _ ↦ UInt32.lt_iff_toNat_lt

/-- A target whose partitions are not refused has no place, or its capacity decides. -/
lemma checkLayout_cases (ledger : CapacityLedger)
    (h : ∀ p ∈ desired, targetError s accelerator p = none) :
    (¬Placed s accelerator desired ∧ ∃ e, e ≠ .feasibleAfterReconfiguration ∧
      ∀ desired', desired'.Perm desired → checkLayout s accelerator ledger desired' = .error e) ∨
    Placed s accelerator desired ∧ ∀ desired', desired'.Perm desired →
      checkLayout s accelerator ledger desired' = checkCapacity ledger (accumulate desired') := by
  rcases checkTarget_accepted h with ⟨hover, hrun⟩ | ⟨hfits, c, m, hrun, hc, hm⟩
  · refine .inl ⟨fun hplaced ↦ hover hplaced.counted, .limitExceeded, by decide, ?_⟩
    intro desired' hperm
    unfold checkLayout
    rw [checkTarget_perm_accepted h hperm, hrun]
    rfl
  · have hlayout : ∀ desired', desired'.Perm desired → checkLayout s accelerator ledger desired' =
        if desiredConflicts s desired then .error .fragmented
        else if accelerator.capability.totalComputeSlices > 0 &&
            c > accelerator.capability.totalComputeSlices then .error .physicallyImpossible
        else if accelerator.capability.totalMemorySlices > 0 &&
            m > accelerator.capability.totalMemorySlices then .error .physicallyImpossible
        else checkCapacity ledger (accumulate desired') := by
      intro desired' hperm
      unfold checkLayout
      rw [checkTarget_perm_accepted h hperm, hrun, desiredConflicts_perm hperm]
      rfl
    cases hconflicts : desiredConflicts s desired with
    | true =>
      refine .inl ⟨fun hplaced ↦ ?_, .fragmented, by decide, fun desired' hperm ↦ ?_⟩
      · rw [hplaced.coexist] at hconflicts
        cases hconflicts
      · rw [hlayout desired' hperm, hconflicts, if_pos rfl]
    | false =>
      by_cases hcompute : accelerator.capability.totalComputeSlices > 0 →
          sliceTotal s (·.computeSliceCount) desired ≤
            accelerator.capability.totalComputeSlices.toNat
      · by_cases hmemory : accelerator.capability.totalMemorySlices > 0 →
            sliceTotal s (·.memorySliceCount) desired ≤
              accelerator.capability.totalMemorySlices.toNat
        · refine .inr ⟨⟨h, hfits, hconflicts, hcompute, hmemory⟩, fun desired' hperm ↦ ?_⟩
          rw [hlayout desired' hperm, hconflicts, if_neg Bool.false_ne_true,
            if_neg fun hgt ↦ (gt_slices_iff hc).mp hgt hcompute,
            if_neg fun hgt ↦ (gt_slices_iff hm).mp hgt hmemory]
        · refine .inl ⟨fun hplaced ↦ hmemory hplaced.within.memory, .physicallyImpossible,
            by decide, fun desired' hperm ↦ ?_⟩
          rw [hlayout desired' hperm, hconflicts, if_neg Bool.false_ne_true,
            if_pos ((gt_slices_iff hm).mpr hmemory), ite_self]
      · refine .inl ⟨fun hplaced ↦ hcompute hplaced.within.compute, .physicallyImpossible,
          by decide, fun desired' hperm ↦ ?_⟩
        rw [hlayout desired' hperm, hconflicts, if_neg Bool.false_ne_true,
          if_pos ((gt_slices_iff hc).mpr hcompute)]

/-- The check of the capacity never ends like one of a target that cannot be summed up. -/
lemma checkCapacity_ok_ne (sum : ResourceVector) :
    checkCapacity ledger (.ok sum) ≠ .error .limitExceeded := by
  intro h
  unfold checkCapacity at h
  simp only at h
  split at h
  · cases h
  · split_ifs at h
    cases h

lemma checkCapacity_ne (result : Result ResourceVector) :
    checkCapacity ledger result ≠ .error .feasibleAfterReconfiguration := by
  intro h
  unfold checkCapacity at h
  split at h
  · cases h
  · split at h
    · cases h
    · split_ifs at h
      cases h

/-- Two orders of a target fit alike when both or none can be summed up. -/
lemma checkCapacity_perm (ledger : CapacityLedger) (hperm : desired'.Perm desired) :
    checkCapacity ledger (accumulate desired') = checkCapacity ledger (accumulate desired) ↔
      (Sums desired' ↔ Sums desired) := by
  unfold Sums
  cases h : accumulate desired with
  | error e =>
    cases h' : accumulate desired' with
    | error e' => exact iff_of_true rfl (by simp)
    | ok sum' => exact iff_of_false (checkCapacity_ok_ne sum') (by simp)
  | ok sum =>
    cases h' : accumulate desired' with
    | error e' => exact iff_of_false (checkCapacity_ok_ne sum).symm (by simp)
    | ok sum' =>
      refine iff_of_true ?_ (by simp)
      obtain ⟨hhas, hget⟩ := accumulate_perm hperm h h'
      have hsubset (usable : ResourceVector) : sum'.isSubsetOf usable = sum.isSubsetOf usable := by
        rw [Bool.eq_iff_iff, ResourceVector.isSubsetOf_iff, ResourceVector.isSubsetOf_iff]
        refine forall_congr' fun d ↦ ?_
        have hvalue := congrFun hget d
        unfold ResourceVector.get at hvalue
        rw [hhas] at hvalue ⊢
        refine imp_congr_right fun hd ↦ ?_
        rw [if_pos hd, if_pos hd] at hvalue
        rw [hvalue]
      unfold checkCapacity
      simp only [hsubset]

lemma checkLayout_ne : checkLayout s accelerator ledger desired ≠
    .error .feasibleAfterReconfiguration := by
  intro h
  unfold checkLayout at h
  rcases checkTarget_cases s accelerator desired 0 0 with
    ⟨-, hrun⟩ | ⟨-, ⟨e, hfind, hrun⟩ | ⟨-, c, m, hrun, -⟩⟩
  · rw [hrun] at h
    cases h
  · obtain ⟨p, -, herror⟩ := List.exists_of_findSome?_eq_some hfind
    rw [hrun] at h
    exact absurd (Except.error.inj h) (targetError_ne herror).2
  · rw [hrun] at h
    change (if _ then _ else if _ then _ else if _ then _ else
      checkCapacity ledger (accumulate desired)) = _ at h
    split_ifs at h
    · cases h
    · cases h
    · cases h
    · exact checkCapacity_ne _ h

lemma checkReconfiguration_ne : checkReconfiguration s accelerator ledger desired context ≠
    .error .feasibleAfterReconfiguration := by
  rw [checkReconfiguration_eq]
  cases hsize : sizeError s accelerator context desired.length with
  | some e => exact fun h ↦ sizeError_ne hsize (Except.error.inj h)
  | none => exact checkLayout_ne

/-- A target that passes the checks can be summed up. -/
lemma sums_of_checkReconfiguration
    (h : checkReconfiguration s accelerator ledger desired context = .ok ()) : Sums desired := by
  rw [checkReconfiguration_eq] at h
  cases hsize : sizeError s accelerator context desired.length with
  | some e =>
    rw [hsize] at h
    cases h
  | none =>
    rw [hsize] at h
    simp only at h
    unfold checkLayout at h
    cases hrun : checkTarget s accelerator desired 0 0 with
    | error e =>
      rw [hrun] at h
      cases h
    | ok slices =>
      rw [hrun] at h
      change (if _ then _ else if _ then _ else if _ then _ else
        checkCapacity ledger (accumulate desired)) = _ at h
      cases hsum : accumulate desired with
      | ok sum => exact ⟨sum, hsum⟩
      | error e =>
        rw [hsum] at h
        split_ifs at h
        cases h

/-- The order of a target does not matter to a device: where it takes targets of this length, it
refuses partitions of the target alike, and what it has a place for is summed up alike. -/
def OrderIndifferent (s : FabricState) (accelerator : AcceleratorRecord)
    (desired : List PlannedPartition) (context : PartitionRequest) : Prop :=
  sizeError s accelerator context desired.length = none →
    ((∃ p ∈ desired, targetError s accelerator p ≠ none) → RefusesAlike s accelerator desired) ∧
    (Placed s accelerator desired → AccumulatesAlike desired)

/-- A target with a refused partition is refused with what its check ends with. -/
lemma checkLayout_refused {p : PlannedPartition} {e : PlanOutcome} (hp : p ∈ desired)
    (herror : targetError s accelerator p = some e) :
    ∃ e', checkTarget s accelerator desired 0 0 = .error e' ∧
      checkLayout s accelerator ledger desired = .error e' := by
  have hrefused : ∃ e', checkTarget s accelerator desired 0 0 = .error e' := by
    rcases checkTarget_cases s accelerator desired 0 0 with
      ⟨-, hrun⟩ | ⟨-, ⟨e', -, hrun⟩ | ⟨hfind, -⟩⟩
    · exact ⟨_, hrun⟩
    · exact ⟨e', hrun⟩
    · rw [List.findSome?_eq_none_iff.mp hfind p hp] at herror
      cases herror
  obtain ⟨e', hrun⟩ := hrefused
  refine ⟨e', hrun, ?_⟩
  unfold checkLayout
  rw [hrun]
  rfl

lemma checkReconfiguration_perm_iff :
    (∀ desired', desired'.Perm desired →
      checkReconfiguration s accelerator ledger desired' context =
        checkReconfiguration s accelerator ledger desired context) ↔
      OrderIndifferent s accelerator desired context := by
  unfold OrderIndifferent
  cases hsize : sizeError s accelerator context desired.length with
  | some e =>
    refine iff_of_true (fun desired' hperm ↦ ?_) fun h ↦ by cases h
    rw [checkReconfiguration_eq, checkReconfiguration_eq, hperm.length_eq, hsize]
  | none =>
    have hlayout : ∀ desired', desired'.Perm desired →
        checkReconfiguration s accelerator ledger desired' context =
          checkLayout s accelerator ledger desired' := by
      intro desired' hperm
      rw [checkReconfiguration_eq, hperm.length_eq, hsize]
    rw [forall_prop_of_true rfl]
    have hself := hlayout desired (List.Perm.refl desired)
    by_cases herrors : ∃ p ∈ desired, targetError s accelerator p ≠ none
    · obtain ⟨p, hp, herror⟩ := herrors
      obtain ⟨e, herror⟩ := Option.ne_none_iff_exists'.mp herror
      have hnever : ¬Placed s accelerator desired := fun h ↦ by
        rw [h.accepted p hp] at herror
        cases herror
      have hiff : (∀ desired', desired'.Perm desired →
          checkReconfiguration s accelerator ledger desired' context =
            checkReconfiguration s accelerator ledger desired context) ↔
            ∀ desired', desired'.Perm desired → checkTarget s accelerator desired' 0 0 =
              checkTarget s accelerator desired 0 0 := by
        obtain ⟨e₀, htarget₀, hlayout₀⟩ :=
          @checkLayout_refused s accelerator ledger desired p e hp herror
        refine forall_congr' fun desired' ↦ forall_congr' fun hperm ↦ ?_
        obtain ⟨e', htarget, hlayout'⟩ :=
          @checkLayout_refused s accelerator ledger desired' p e (hperm.mem_iff.mpr hp) herror
        rw [hlayout desired' hperm, hself, hlayout', hlayout₀, htarget, htarget₀]
        exact ⟨fun h ↦ congrArg _ (Except.error.inj h), fun h ↦ congrArg _ (Except.error.inj h)⟩
      rw [hiff, checkTarget_perm_refused hp herror]
      exact ⟨fun h ↦ ⟨fun _ ↦ h, fun h ↦ absurd h hnever⟩, fun h ↦
        h.1 ⟨p, hp, Option.ne_none_iff_exists'.mpr ⟨e, herror⟩⟩⟩
    · have haccepted : ∀ p ∈ desired, targetError s accelerator p = none := by
        intro p hp
        by_contra herror
        exact herrors ⟨p, hp, herror⟩
      rcases checkLayout_cases ledger haccepted with
        ⟨hnever, e, -, hrun⟩ | ⟨hplaced, hrun⟩
      · refine iff_of_true (fun desired' hperm ↦ ?_)
          ⟨fun h ↦ absurd h herrors, fun h ↦ absurd h hnever⟩
        rw [hlayout desired' hperm, hself, hrun desired' hperm,
          hrun desired (List.Perm.refl desired)]
      · have hiff : (∀ desired', desired'.Perm desired →
            checkReconfiguration s accelerator ledger desired' context =
              checkReconfiguration s accelerator ledger desired context) ↔
              ∀ desired', desired'.Perm desired → (Sums desired' ↔ Sums desired) := by
          refine forall_congr' fun desired' ↦ forall_congr' fun hperm ↦ ?_
          rw [hlayout desired' hperm, hself, hrun desired' hperm,
            hrun desired (List.Perm.refl desired), checkCapacity_perm ledger hperm]
        rw [hiff, sums_perm_iff]
        exact ⟨fun h ↦ ⟨fun hrefused ↦ absurd hrefused herrors, fun _ ↦ h⟩, fun h ↦ h.2 hplaced⟩

end Layouts

section Plans

variable {s t : FabricState} {id : AcceleratorId} {desired desired' : List PlannedPartition}
  {context : PartitionRequest} {now later : UInt64} {planId : PartitionPlanId}
  {accelerator : AcceleratorRecord} {ledger : CapacityLedger} {affected : List PartitionRecord}
  {hold : ResourceVector}

/-- A plan as it is registered under its identity. -/
def registeredAs (planId : PartitionPlanId) (plan : PartitionPlan) : PartitionPlan :=
  { plan with id := planId, generation := 1 }

/-- A state in which a plan is registered. -/
def withPlan (t : FabricState) (planId : PartitionPlanId) (plan : PartitionPlan) : FabricState :=
  { t with plans := t.plans.insert planId (registeredAs planId plan) }

/-- The outcome that the checks of a target end with. -/
def planOutcome : Except PlanOutcome Unit → PlanOutcome
  | .error outcome => outcome
  | .ok _ => .feasibleAfterReconfiguration

/-- The outcome of a plan for a known device is that of its checks. -/
lemma buildReconfigurationPlan_outcome (ha : s.findAccelerator id = some accelerator)
    (hl : s.findLedger id = some ledger) :
    (buildReconfigurationPlan s id desired context now).outcome =
      planOutcome (checkReconfiguration s accelerator ledger desired context) := by
  unfold buildReconfigurationPlan
  rw [ha, hl]
  simp only
  cases checkReconfiguration s accelerator ledger desired context <;> rfl

/-- The checks of two targets end alike exactly when they lead to the same outcome. -/
lemma planOutcome_inj : planOutcome (checkReconfiguration s accelerator ledger desired' context) =
      planOutcome (checkReconfiguration s accelerator ledger desired context) ↔
    checkReconfiguration s accelerator ledger desired' context =
      checkReconfiguration s accelerator ledger desired context := by
  refine ⟨fun h ↦ ?_, congrArg planOutcome⟩
  have hne := @checkReconfiguration_ne s accelerator ledger desired context
  have hne' := @checkReconfiguration_ne s accelerator ledger desired' context
  cases hrun : checkReconfiguration s accelerator ledger desired context <;>
    cases hrun' : checkReconfiguration s accelerator ledger desired' context <;>
    rw [hrun, hrun'] at h
  · exact congrArg _ h
  · rw [hrun] at hne
    exact absurd (congrArg _ h.symm) hne
  · rw [hrun'] at hne'
    exact absurd (congrArg _ h) hne'

/-- Feasible plans for two orders of a target are alike but for the order, and both orders can be
summed up. -/
lemma buildReconfigurationPlan_perm (hperm : desired'.Perm desired)
    (h : (buildReconfigurationPlan s id desired context now).outcome =
      .feasibleAfterReconfiguration)
    (h' : (buildReconfigurationPlan s id desired' context now).outcome =
      .feasibleAfterReconfiguration) :
    (buildReconfigurationPlan s id desired' context now).binding =
        (buildReconfigurationPlan s id desired context now).binding ∧
      (buildReconfigurationPlan s id desired' context now).terminal =
        (buildReconfigurationPlan s id desired context now).terminal ∧
      (buildReconfigurationPlan s id desired' context now).request =
        (buildReconfigurationPlan s id desired context now).request ∧ Sums desired := by
  unfold buildReconfigurationPlan at h h' ⊢
  cases ha : s.findAccelerator id with
  | none =>
    rw [ha] at h
    cases h
  | some accelerator =>
    cases hl : s.findLedger id with
    | none =>
      rw [ha, hl] at h
      cases h
    | some ledger =>
      have hne := @checkReconfiguration_ne s accelerator ledger desired context
      have hne' := @checkReconfiguration_ne s accelerator ledger desired' context
      rw [ha, hl] at h h'
      simp only at h h' ⊢
      cases hrun : checkReconfiguration s accelerator ledger desired context with
      | error e =>
        rw [hrun] at h hne
        exact absurd (congrArg _ h) hne
      | ok _ =>
        cases hrun' : checkReconfiguration s accelerator ledger desired' context with
        | error e =>
          rw [hrun'] at h' hne'
          exact absurd (congrArg _ h') hne'
        | ok _ =>
          refine ⟨rfl, rfl, ?_, sums_of_checkReconfiguration hrun⟩
          rw [hperm.length_eq]

lemma plannedPartitions_buildReconfigurationPlan (s : FabricState) (id : AcceleratorId)
    (desired : List PlannedPartition) (context : PartitionRequest) (now : UInt64) :
    (buildReconfigurationPlan s id desired context now).plannedPartitions = desired := by
  unfold buildReconfigurationPlan
  cases s.findAccelerator id with
  | none => rfl
  | some accelerator =>
    cases s.findLedger id with
    | none => rfl
    | some ledger =>
      simp only
      cases checkReconfiguration s accelerator ledger desired context <;> rfl

/-- A registered plan is carried out up to its hold. -/
def ReachesHoldOf (t : FabricState) (planId : PartitionPlanId) (plan : PartitionPlan)
    (later : UInt64) (accelerator : AcceleratorRecord) (affected : List PartitionRecord)
    (hold : ResourceVector) : Prop :=
  ReachesHold (withPlan t planId plan) planId later (registeredAs planId plan) accelerator affected
    hold

/-- Of two orders with the same outcome, one is carried out up to its hold like the other one. -/
lemma reachesHoldOf_perm (hperm : desired'.Perm desired)
    (houtcome : (buildReconfigurationPlan s id desired' context now).outcome =
      (buildReconfigurationPlan s id desired context now).outcome)
    (h : ReachesHoldOf t planId (buildReconfigurationPlan s id desired' context now) later
      accelerator affected hold) :
    ReachesHoldOf t planId (buildReconfigurationPlan s id desired context now) later accelerator
      affected hold := by
  have hfeasible' : (buildReconfigurationPlan s id desired' context now).outcome =
      .feasibleAfterReconfiguration := h.reconfigures
  have hfeasible := houtcome.symm.trans hfeasible'
  obtain ⟨hbinding, hterminal, hrequest, sum, hsum⟩ :=
    buildReconfigurationPlan_perm hperm hfeasible hfeasible'
  obtain ⟨target, held, htarget, hheld, hhold⟩ := h.needs
  have hplanned := plannedPartitions_buildReconfigurationPlan s id desired context now
  have hplanned' := plannedPartitions_buildReconfigurationPlan s id desired' context now
  generalize buildReconfigurationPlan s id desired context now = plan at *
  generalize buildReconfigurationPlan s id desired' context now = plan' at *
  have hcurrent (fresh : Bool) : validatePlanBinding (withPlan t planId plan)
      (registeredAs planId plan) later fresh = validatePlanBinding (withPlan t planId plan')
        (registeredAs planId plan') later fresh := by
    unfold validatePlanBinding registeredAs
    simp only [← hbinding, ← hterminal]
    rfl
  have hneeds : additionalCapacity sum held = .ok hold := by
    have htarget' : accumulate desired' = .ok target := by
      rw [← hplanned']
      exact htarget
    obtain ⟨hhas, hget⟩ := accumulate_perm hperm hsum htarget'
    unfold additionalCapacity at hhold ⊢
    rwa [hhas, hget] at hhold
  refine ⟨h.opened, KeyedMap.find?_insert_self _ _ _, hfeasible, ?_, ?_, ?_, h.replaces, sum, held,
    ?_, hheld, hneeds⟩
  · rw [hcurrent]
    exact h.current
  · change t.findAccelerator plan.binding.accelerator = some accelerator
    rw [← hbinding]
    exact h.device
  · change (t.policy.allowDestructiveReconfiguration &&
      plan.request.allowDestructiveReconfiguration) = true
    rw [← hrequest]
    exact h.permitted
  · change accumulate plan.plannedPartitions = _
    rw [hplanned, hsum]

/-- A reconfiguration is dispatched when it gets as far as its hold and is carried through. -/
lemma executeReconfiguration_isOk_iff (ht : Standing t) :
    (executeReconfiguration planId later t).2.isOk = true ↔
      ∃ plan accelerator affected hold l l',
        ReachesHold t planId later plan accelerator affected hold ∧
          CanHold t accelerator hold l l' ∧ GivesWay affected l' ∧
            CanRegister t (t.ids.next + 1 + 1) later := by
  rcases executeReconfiguration_cases t planId later with
    ⟨u, e, hrun, -, hnever⟩ | ⟨plan, accelerator, affected, hold, hreaches, hrun⟩
  · rw [hrun]
    refine iff_of_false (fun h ↦ by cases h) ?_
    rintro ⟨plan, accelerator, affected, hold, l, l', hreaches, -⟩
    exact hnever plan accelerator affected hold hreaches
  · rw [hrun]
    rcases dispatchReconfiguration_cases ht hreaches.replaces with
      ⟨u, e, hdispatch, -, hnever⟩ | ⟨l, l', hcan, ⟨hbreaks, u, e, r, hdispatch, -⟩ |
        ⟨hcarried, u, request, hdispatch, -⟩⟩
    · rw [hdispatch]
      refine iff_of_false (fun h ↦ by cases h) ?_
      rintro ⟨plan', accelerator', affected', hold', m, m', hreaches', hcan, -⟩
      obtain ⟨-, rfl, -, rfl⟩ := hreaches.unique hreaches'
      exact hnever m m' hcan
    · rw [hdispatch]
      refine iff_of_false (fun h ↦ by cases h) ?_
      rintro ⟨plan', accelerator', affected', hold', m, m', hreaches', hcan', hcarried⟩
      obtain ⟨-, rfl, rfl, rfl⟩ := hreaches.unique hreaches'
      obtain rfl := hcan.unique hcan'
      exact hbreaks hcarried
    · rw [hdispatch]
      exact iff_of_true rfl ⟨plan, accelerator, affected, hold, l, l', hreaches, hcan, hcarried⟩

/-- A plan whose reconfiguration is dispatched where that of another one is. -/
lemma isOk_of_reachesHoldOf {plan plan' : PartitionPlan} (ht : Standing t)
    (hreaches : ∀ accelerator affected hold,
      ReachesHoldOf t planId plan' later accelerator affected hold →
        ReachesHoldOf t planId plan later accelerator affected hold)
    (h : (executeReconfiguration planId later (withPlan t planId plan')).2.isOk = true) :
    (executeReconfiguration planId later (withPlan t planId plan)).2.isOk = true := by
  have hstanding (p : PartitionPlan) : Standing (withPlan t planId p) := ⟨ht.partitions, ht.live⟩
  rw [executeReconfiguration_isOk_iff (hstanding plan')] at h
  rw [executeReconfiguration_isOk_iff (hstanding plan)]
  obtain ⟨found, accelerator, affected, hold, l, l', hfound, hcan, hgives, hcanRegister⟩ := h
  obtain rfl := Option.some.inj ((KeyedMap.find?_insert_self _ _ _).symm.trans hfound.found)
  exact ⟨_, accelerator, affected, hold, l, l', hreaches _ _ _ hfound,
    ⟨hcan.planned, hcan.reserved, hcan.ledger, hcan.takes⟩, hgives, hcanRegister.room,
    hcanRegister.pending, hcanRegister.identity, hcanRegister.dispatched⟩

/-- Listing a target in another order changes neither the outcome of its plan, nor whether the plan
is carried out up to its hold in any later state, nor what is held, nor whether it is dispatched. -/
def TargetOrderIrrelevant (s : FabricState) (id : AcceleratorId) (desired : List PlannedPartition)
    (context : PartitionRequest) (now : UInt64) : Prop :=
  ∀ desired', desired'.Perm desired →
    (buildReconfigurationPlan s id desired' context now).outcome =
        (buildReconfigurationPlan s id desired context now).outcome ∧
      ∀ t planId later,
        (∀ accelerator affected hold,
          ReachesHoldOf t planId (buildReconfigurationPlan s id desired' context now) later
              accelerator affected hold ↔
            ReachesHoldOf t planId (buildReconfigurationPlan s id desired context now) later
              accelerator affected hold) ∧
        (fabric.Reachable anyOp t →
          ((executeReconfiguration planId later (withPlan t planId
              (buildReconfigurationPlan s id desired' context now))).2.isOk = true ↔
            (executeReconfiguration planId later (withPlan t planId
              (buildReconfigurationPlan s id desired context now))).2.isOk = true))

/-- The order of a target does not matter exactly when its device, if it is known, is indifferent
to it. -/
theorem target_order_iff (s : FabricState) (id : AcceleratorId) (desired : List PlannedPartition)
    (context : PartitionRequest) (now : UInt64) :
    TargetOrderIrrelevant s id desired context now ↔
      ∀ accelerator ledger, s.findAccelerator id = some accelerator →
        s.findLedger id = some ledger → OrderIndifferent s accelerator desired context := by
  constructor
  · intro h accelerator ledger ha hl
    rw [← @checkReconfiguration_perm_iff s accelerator ledger desired context]
    intro desired' hperm
    have houtcome := (h desired' hperm).1
    rw [buildReconfigurationPlan_outcome ha hl, buildReconfigurationPlan_outcome ha hl] at houtcome
    exact planOutcome_inj.mp houtcome
  · intro h desired' hperm
    have houtcome : (buildReconfigurationPlan s id desired' context now).outcome =
        (buildReconfigurationPlan s id desired context now).outcome := by
      cases ha : s.findAccelerator id with
      | none =>
        unfold buildReconfigurationPlan
        rw [ha]
      | some accelerator =>
        cases hl : s.findLedger id with
        | none =>
          unfold buildReconfigurationPlan
          rw [ha, hl]
        | some ledger =>
          rw [buildReconfigurationPlan_outcome ha hl, buildReconfigurationPlan_outcome ha hl]
          exact congrArg _ (checkReconfiguration_perm_iff.mpr (h accelerator ledger ha hl) desired'
            hperm)
    refine ⟨houtcome, fun t planId later ↦ ⟨fun accelerator affected hold ↦ ?_, fun ht ↦ ?_⟩⟩
    · exact ⟨reachesHoldOf_perm hperm houtcome, reachesHoldOf_perm hperm.symm houtcome.symm⟩
    · have hstanding := standing_of_reachable ht
      exact ⟨isOk_of_reachesHoldOf hstanding fun _ _ _ ↦ reachesHoldOf_perm hperm houtcome,
        isOk_of_reachesHoldOf hstanding fun _ _ _ ↦ reachesHoldOf_perm hperm.symm houtcome.symm⟩

end Plans

namespace Sample

/-- A device with compute is registered, and reconfigurations are permitted. -/
def computes : List Op :=
  [.registerBackendAccelerator computingDevice 1,
    .setPolicy { makeDefaultPolicy 1 with allowDestructiveReconfiguration := true }]

/-- A slice of memory, and one of memory and compute. -/
def heterogeneous : List PlannedPartition :=
  [target, { target with resources := computing 4 500000 }]

end Sample

/-- A target that is feasible in one order is refused in the other one. -/
theorem target_order_decides : ¬∀ s id desired context now, fabric.Reachable anyOp s →
    TargetOrderIrrelevant s id desired context now := by
  intro h
  let s := fabric.run Sample.computes Sample.opened
  have hs : fabric.Reachable anyOp s := System.Reachable.run (.initial ⟨_, _, rfl⟩) (by decide)
  let context : PartitionRequest :=
    { profile := Sample.profile.id, allowDestructiveReconfiguration := true }
  have hrefused : (buildReconfigurationPlan s 1 Sample.heterogeneous context 7).outcome =
      .limitExceeded := by decide +kernel
  have hfeasible : (buildReconfigurationPlan s 1 Sample.heterogeneous.reverse context 7).outcome =
      .feasibleAfterReconfiguration := by decide +kernel
  clear_value s context
  have houtcome := (h s 1 Sample.heterogeneous context 7 hs _ (List.reverse_perm _)).1
  rw [hrefused, hfeasible] at houtcome
  cases houtcome

end PartitionFabric

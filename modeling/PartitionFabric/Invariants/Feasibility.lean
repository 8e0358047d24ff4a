import PartitionFabric.Invariants.Reserving
import PartitionFabric.Invariants.Selection

/-!
The fragmentation analysis against the ledger: how many instances it finds room for, and whether
what it finds feasible can be reserved.
-/

namespace PartitionFabric

open Procedure

section Counting

lemma toNat_min (a b : UInt32) : (min a b).toNat = min a.toNat b.toNat := by
  change (if a ≤ b then a else b).toNat = _
  rw [min_def]
  simp only [UInt32.le_iff_toNat_le]
  split <;> rfl

lemma toNat_room (limit used : UInt32) : (room limit used).toNat = limit.toNat - used.toNat := by
  unfold room
  split
  · rename_i h
    exact UInt32.toNat_sub_of_le _ _ (UInt32.le_of_lt h)
  · rename_i h
    rw [gt_iff_lt, UInt32.lt_iff_toNat_lt, not_lt] at h
    exact (Nat.sub_eq_zero_of_le h).symm

/-- The loop over the dimensions finds the largest count whose demand a pool covers in each. -/
lemma le_instancesFittingLoop (pool per : ResourceVector) (ds : List ResourceDimension)
    (best : UInt32) (constrained : Bool) (k : ℕ) :
    k ≤ (instancesFittingLoop pool per ds best constrained).toNat ↔ k = 0 ∨ k ≤ best.toNat ∧
      (constrained = true ∨ ∃ d ∈ ds, 0 < per.amount d) ∧
      ∀ d ∈ ds, k * per.amount d ≤ pool.amount d := by
  induction ds generalizing best constrained with
  | nil =>
      cases constrained with
      | false => simp [instancesFittingLoop]
      | true =>
          simp only [instancesFittingLoop, if_true]
          constructor
          · exact fun h ↦ Or.inr ⟨h, Or.inl trivial, fun d hd ↦ absurd hd List.not_mem_nil⟩
          · rintro (rfl | h)
            · exact Nat.zero_le _
            · exact h.1
  | cons d rest ih =>
      unfold instancesFittingLoop
      by_cases hzero : per.amount d = 0
      · have hskip : (!per.has d || per.get d = 0) = true := by
          cases hd : per.has d with
          | false => rfl
          | true =>
              rw [ResourceVector.amount] at hzero
              simp [UInt64.toNat.inj (hzero.trans UInt64.toNat_zero.symm)]
        rw [if_pos hskip, ih]
        simp [hzero]
      · have hhas : per.has d = true := by
          cases hd : per.has d with
          | true => rfl
          | false => exact absurd (ResourceVector.amount_of_not_has hd) hzero
        have hpositive : 0 < per.amount d := Nat.pos_of_ne_zero hzero
        have hget : per.get d ≠ 0 := fun h ↦ hzero (by rw [ResourceVector.amount, h]; rfl)
        have hkeep : ¬ (!per.has d || per.get d = 0) = true := by simp [hhas, hget]
        rw [if_neg hkeep]
        have hdemand : (∃ e ∈ d :: rest, 0 < per.amount e) := ⟨d, List.mem_cons_self, hpositive⟩
        cases hpool : pool.has d with
        | false =>
            rw [if_pos (by rfl)]
            have hnone : pool.amount d = 0 := ResourceVector.amount_of_not_has hpool
            constructor
            · exact fun h ↦ Or.inl (Nat.le_zero.mp h)
            · rintro (rfl | ⟨-, -, hall⟩)
              · exact Nat.zero_le _
              · have hd := hall d List.mem_cons_self
                rw [hnone, Nat.le_zero, Nat.mul_eq_zero] at hd
                exact (hd.resolve_right hzero).le
        | true =>
            rw [if_neg (by simp)]
            have hfits : (pool.get d / per.get d).toNat = pool.amount d / per.amount d :=
              UInt64.toNat_div _ _
            have hcover : k ≤ pool.amount d / per.amount d ↔ k * per.amount d ≤ pool.amount d :=
              Nat.le_div_iff_mul_le hpositive
            by_cases hlarge : pool.get d / per.get d > uint32Max.toUInt64
            · have hmax : uint32Max.toNat < pool.amount d / per.amount d := by
                rw [gt_iff_lt, UInt64.lt_iff_toNat_lt, hfits] at hlarge
                simpa using hlarge
              rw [if_pos hlarge, ih]
              simp only [List.forall_mem_cons, hdemand, or_true, true_or, true_and]
              have hbest := best.toNat_lt
              have hle : k ≤ best.toNat → k * per.amount d ≤ pool.amount d := fun h ↦
                hcover.mp (by have : uint32Max.toNat = 2 ^ 32 - 1 := rfl; omega)
              tauto
            · have hsmall : pool.amount d / per.amount d < 2 ^ 32 := by
                rw [gt_iff_lt, UInt64.lt_iff_toNat_lt, not_lt, hfits] at hlarge
                have hmax : uint32Max.toUInt64.toNat = 2 ^ 32 - 1 := rfl
                omega
              have hcount : (pool.get d / per.get d).toUInt32.toNat =
                  pool.amount d / per.amount d := by
                rw [UInt64.toNat_toUInt32, hfits, Nat.mod_eq_of_lt hsmall]
              rw [if_neg hlarge, ih, toNat_min, hcount, le_min_iff, hcover]
              simp only [List.forall_mem_cons, hdemand, or_true, true_or, true_and]
              tauto

/-- Instances fit a pool when it covers their demand in every dimension and they demand
something. -/
lemma le_instancesFitting (pool per : ResourceVector) (k : ℕ) :
    k ≤ (instancesFitting pool per).toNat ↔ k = 0 ∨ k < 2 ^ 32 ∧ (∃ d, 0 < per.amount d) ∧
      ∀ d, k * per.amount d ≤ pool.amount d := by
  unfold instancesFitting
  rw [le_instancesFittingLoop]
  have hmax : k ≤ uint32Max.toNat ↔ k < 2 ^ 32 := by
    rw [show uint32Max.toNat = 2 ^ 32 - 1 from rfl]
    omega
  simp [hmax, ResourceDimension.mem_all]

lemma foldlM_isOk_iff {α β : Type} {step : β → α → Result β} {p : α → Prop}
    (hstep : ∀ out a, (∃ w, step out a = .ok w) ↔ p a) (l : List α) (out : β) :
    (∃ w, l.foldlM step out = .ok w) ↔ ∀ a ∈ l, p a := by
  induction l generalizing out with
  | nil => exact iff_of_true ⟨out, rfl⟩ fun a ha ↦ absurd ha List.not_mem_nil
  | cons a rest ih =>
      rw [List.foldlM_cons, List.forall_mem_cons, ← hstep out a]
      cases hrun : step out a with
      | error e =>
          refine iff_of_false ?_ ?_
          · rintro ⟨w, hw⟩
            cases hw
          · rintro ⟨⟨w, hw⟩, -⟩
            cases hw
      | ok w =>
          change (∃ w', rest.foldlM step w = .ok w') ↔ _
          rw [ih w]
          exact ⟨fun h ↦ ⟨⟨w, rfl⟩, h⟩, fun h ↦ h.2⟩

/-- A demand is representable when no dimension of it overflows. -/
lemma multiplyResource_isOk_iff (v : ResourceVector) (count : UInt32) :
    (∃ needed, multiplyResource v count = .ok needed) ↔
      ∀ d, count.toNat * v.amount d < 2 ^ 64 := by
  unfold multiplyResource
  by_cases hzero : count = 0
  · rw [if_pos hzero, hzero]
    exact iff_of_true ⟨_, rfl⟩ fun d ↦ by simp
  · have hpositive : 0 < count.toNat := Nat.pos_of_ne_zero fun h ↦ hzero (UInt32.toNat.inj h)
    rw [if_neg hzero, foldlM_isOk_iff (p := fun d ↦ count.toNat * v.amount d < 2 ^ 64)]
    · simp [ResourceDimension.mem_all]
    · intro out d
      have hdiv : (uint64Max / count.toUInt64).toNat = (2 ^ 64 - 1) / count.toNat := by
        rw [UInt64.toNat_div]
        rfl
      have hbound : ¬ v.get d > uint64Max / count.toUInt64 ↔
          count.toNat * v.amount d < 2 ^ 64 := by
        rw [gt_iff_lt, UInt64.lt_iff_toNat_lt, not_lt, hdiv, Nat.le_div_iff_mul_le hpositive,
          Nat.mul_comm, ResourceVector.amount]
        omega
      cases hd : v.has d with
      | false =>
          rw [ResourceVector.amount_of_not_has hd]
          exact iff_of_true ⟨out, rfl⟩ (by simp)
      | true =>
          rw [if_neg (by simp), ← hbound]
          by_cases hlarge : v.get d > uint64Max / count.toUInt64
          · have hne : v.get d ≠ 0 := fun h ↦ by
              rw [h] at hlarge
              exact absurd hlarge (UInt64.not_lt_zero)
            rw [if_pos (by simp [hne, hlarge])]
            refine iff_of_false ?_ (not_not.mpr hlarge)
            rintro ⟨w, hw⟩
            cases hw
          · rw [if_neg (by simp [hlarge])]
            exact iff_of_true ⟨_, rfl⟩ hlarge

end Counting

section Analysis

variable {s : FabricState} {a : AcceleratorRecord} {ledger : CapacityLedger}
  {request : PartitionRequest} {profile : PartitionProfile} {k : ℕ}

/-- The partitions that occupy a slot of a device. -/
def slotsUsed (s : FabricState) (a : AcceleratorRecord) : UInt32 :=
  (s.countPartitionsInStates a.id slotStates).toUInt32

/-- The analysis finds room for a number of further instances of a profile at once. -/
structure Accommodates (s : FabricState) (a : AcceleratorRecord) (ledger : CapacityLedger)
    (profile : PartitionProfile) (k : ℕ) : Prop where
  free : ∀ d, k * profile.resources.amount d ≤ (ledger.bucket .free).amount d
  slots : k ≤ a.capability.maxPartitionCount.toNat - (slotsUsed s a).toNat
  multiplicity : k ≤ (multiplicityCap s a profile (residentInstances s a.id profile.id)
    (slotsUsed s a)).1.toNat
  computeSlices : 0 < a.capability.totalComputeSlices → k * profile.computeSliceCount.toNat ≤
    a.capability.totalComputeSlices.toNat - (usedSlices s a.id true).toNat
  memorySlices : 0 < a.capability.totalMemorySlices → k * profile.memorySliceCount.toNat ≤
    a.capability.totalMemorySlices.toNat - (usedSlices s a.id false).toNat

lemma Accommodates.mono {m : ℕ} (h : Accommodates s a ledger profile k) (hm : m ≤ k) :
    Accommodates s a ledger profile m :=
  ⟨fun d ↦ (Nat.mul_le_mul_right _ hm).trans (h.free d), hm.trans h.slots,
    hm.trans h.multiplicity, fun hpos ↦ (Nat.mul_le_mul_right _ hm).trans (h.computeSlices hpos),
    fun hpos ↦ (Nat.mul_le_mul_right _ hm).trans (h.memorySlices hpos)⟩

lemma accommodates_zero : Accommodates s a ledger profile 0 :=
  ⟨fun d ↦ by simp, Nat.zero_le _, Nat.zero_le _, fun _ ↦ by simp, fun _ ↦ by simp⟩

lemma le_sliceBound (total used per count : UInt32) :
    k ≤ (sliceBound total used per count).toNat ↔ k ≤ count.toNat ∧
      (0 < total → k * per.toNat ≤ total.toNat - used.toNat) := by
  unfold sliceBound
  by_cases htotal : 0 < total
  · by_cases hper : 0 < per
    · have hpositive : 0 < per.toNat := UInt32.lt_iff_toNat_lt.mp hper
      rw [if_pos (by simp [htotal, hper]), toNat_min, le_min_iff, UInt32.toNat_div, toNat_room,
        Nat.le_div_iff_mul_le hpositive]
      simp [htotal]
    · have hzero : per.toNat = 0 := by
        rw [UInt32.lt_iff_toNat_lt] at hper
        exact Nat.eq_zero_of_not_pos hper
      rw [if_neg (by simp [hper])]
      simp [hzero]
  · rw [if_neg (by simp [htotal])]
    simp [htotal]

/-- The count that the analysis bounds by capacity, slots, multiplicity and slices. -/
def roomFor (s : FabricState) (a : AcceleratorRecord) (ledger : CapacityLedger)
    (profile : PartitionProfile) : UInt32 :=
  sliceBound a.capability.totalMemorySlices (usedSlices s a.id false) profile.memorySliceCount
    (sliceBound a.capability.totalComputeSlices (usedSlices s a.id true)
      profile.computeSliceCount
      (min (min (instancesFitting (ledger.bucket .free) profile.resources)
        (room a.capability.maxPartitionCount (slotsUsed s a)))
        (multiplicityCap s a profile (residentInstances s a.id profile.id) (slotsUsed s a)).1))

/-- The profile demands a positive amount of something. -/
def Demanding (profile : PartitionProfile) : Prop := ∃ d, 0 < profile.resources.amount d

lemma le_roomFor : k ≤ (roomFor s a ledger profile).toNat ↔
    k = 0 ∨ Demanding profile ∧ Accommodates s a ledger profile k := by
  unfold roomFor
  rw [le_sliceBound, le_sliceBound, toNat_min, toNat_min, le_min_iff, le_min_iff,
    le_instancesFitting, toNat_room]
  constructor
  · rintro ⟨⟨⟨⟨rfl | ⟨-, hdemands, hfree⟩, hslots⟩, hcap⟩, hcompute⟩, hmemory⟩
    · exact Or.inl rfl
    · exact Or.inr ⟨hdemands, hfree, hslots, hcap, hcompute, hmemory⟩
  · rintro (rfl | ⟨hdemands, h⟩)
    · simp
    · have hlt : k < 2 ^ 32 := by
        have hslots := h.slots
        have hmax := a.capability.maxPartitionCount.toNat_lt
        omega
      exact ⟨⟨⟨⟨Or.inr ⟨hlt, hdemands, h.free⟩, h.slots⟩, h.multiplicity⟩, h.computeSlices⟩,
        h.memorySlices⟩

/-- Looking for what could be recovered leaves what fits now as it was found. -/
lemma analyzeRecovery_now (ledger : CapacityLedger) (profile : PartitionProfile)
    (needed : ResourceVector) (report : FragmentationReport) :
    (analyzeRecovery ledger profile needed report).maxInstancesNow = report.maxInstancesNow ∧
      (analyzeRecovery ledger profile needed report).feasibleNow = report.feasibleNow := by
  unfold analyzeRecovery
  simp only
  split <;> exact ⟨rfl, rfl⟩

/-- What the analysis reports about instances that fit now. -/
theorem analyzeFragmentation_now (hprofile : s.findProfile request.profile = some profile)
    {needed : ResourceVector}
    (hneeded : multiplyResource profile.resources request.count = .ok needed) :
    (analyzeFragmentation s a ledger request).maxInstancesNow =
        (if profileConflictsWithResident s a.id profile then 0 else roomFor s a ledger profile) ∧
      (analyzeFragmentation s a ledger request).feasibleNow =
        (!profileConflictsWithResident s a.id profile &&
          decide (roomFor s a ledger profile ≥ request.count)) := by
  unfold analyzeFragmentation
  simp only [hprofile, hneeded, apply_ite FragmentationReport.maxInstancesNow,
    apply_ite FragmentationReport.feasibleNow, analyzeRecovery_now, ite_self]
  exact ⟨rfl, rfl⟩

/-- A demand that is not representable is reported as if nothing fitted. -/
lemma analyzeFragmentation_overflow (hprofile : s.findProfile request.profile = some profile)
    {e : Error} (hneeded : multiplyResource profile.resources request.count = .error e) :
    (analyzeFragmentation s a ledger request).maxInstancesNow = 0 ∧
      (analyzeFragmentation s a ledger request).feasibleNow = false := by
  unfold analyzeFragmentation
  simp only [hprofile, hneeded]
  exact ⟨trivial, trivial⟩

end Analysis

section Holders

variable {s : FabricState} {a : AcceleratorRecord} {profile : PartitionProfile} {k : ℕ}

/-- The partitions of a device that hold capacity. -/
def holders (s : FabricState) (a : AcceleratorRecord) : List PartitionRecord :=
  (s.partitionsOf a.id).filter fun r ↦ holdsCapacity r.state

/-- The partitions of a device that are not over. -/
def unfinished (s : FabricState) (a : AcceleratorRecord) : List PartitionRecord :=
  (s.partitionsOf a.id).filter fun r ↦ !isTerminalState r.state

/-- The slices of one kind that records take through their profiles. -/
def slicesTaken (s : FabricState) (count : PartitionProfile → UInt32)
    (records : List PartitionRecord) : ℕ :=
  (records.map fun r ↦ (s.findProfile r.profile).elim 0 fun profile ↦ (count profile).toNat).sum

/-- Some record has another profile that may not be resident beside the given one. -/
def excludes (s : FabricState) (profile : PartitionProfile) (records : List PartitionRecord) :
    Bool :=
  records.any fun r ↦
    r.profile ≠ profile.id && (s.findProfile r.profile).any profile.conflictsWith

/-- What is taken of a device besides its capacity. -/
structure Usage where
  slots : ℕ
  instances : ℕ
  computeSlices : ℕ
  memorySlices : ℕ

/-- What the partitions that hold capacity take. -/
def heldUsage (s : FabricState) (a : AcceleratorRecord) (profile : PartitionProfile) : Usage :=
  { slots := (holders s a).length
    instances := (holders s a).countP fun r ↦ r.profile = profile.id
    computeSlices := slicesTaken s PartitionProfile.computeSliceCount (holders s a)
    memorySlices := slicesTaken s PartitionProfile.memorySliceCount (holders s a) }

/-- What the analysis counts, in 32 bits: records that are not over take slices even when they hold
no capacity, and all of them but those in Unpartitioned are instances. -/
def countedUsage (s : FabricState) (a : AcceleratorRecord) (profile : PartitionProfile) : Usage :=
  { slots := (holders s a).length % 2 ^ 32
    instances := ((unfinished s a).countP fun r ↦
      r.profile = profile.id && r.state ≠ .unpartitioned) % 2 ^ 32
    computeSlices := slicesTaken s PartitionProfile.computeSliceCount (unfinished s a) % 2 ^ 32
    memorySlices := slicesTaken s PartitionProfile.memorySliceCount (unfinished s a) % 2 ^ 32 }

/-- A number of further instances of a profile fit a device at once of which so much is taken. -/
@[mk_iff]
structure FitsBeside (s : FabricState) (a : AcceleratorRecord) (ledger : CapacityLedger)
    (profile : PartitionProfile) (taken : Usage) (k : ℕ) : Prop where
  free : ∀ d, k * profile.resources.amount d ≤ (ledger.bucket .free).amount d
  slots : k ≤ a.capability.maxPartitionCount.toNat - taken.slots
  profileCap : 0 < profile.maxMultiplicity → k ≤ profile.maxMultiplicity.toNat - taken.instances
  ruleCap : ∀ rule ∈ a.capability.findRule profile.id, 0 < rule.maxInstances →
    k ≤ rule.maxInstances.toNat - taken.instances
  exclusive : ∀ rule ∈ a.capability.findRule profile.id, rule.requiresExclusiveDevice = true →
    0 < taken.slots → k = 0
  policyCap : 0 < s.policy.maxInstancesPerProfile →
    k ≤ s.policy.maxInstancesPerProfile.toNat - taken.instances
  computeSlices : 0 < a.capability.totalComputeSlices → k * profile.computeSliceCount.toNat ≤
    a.capability.totalComputeSlices.toNat - taken.computeSlices
  memorySlices : 0 < a.capability.totalMemorySlices → k * profile.memorySliceCount.toNat ≤
    a.capability.totalMemorySlices.toNat - taken.memorySlices

instance (s : FabricState) (a : AcceleratorRecord) (ledger : CapacityLedger)
    (profile : PartitionProfile) (taken : Usage) (k : ℕ) :
    Decidable (FitsBeside s a ledger profile taken k) :=
  decidable_of_iff' _ (fitsBeside_iff ..)

lemma FitsBeside.mono {ledger : CapacityLedger} {taken : Usage} {m : ℕ}
    (h : FitsBeside s a ledger profile taken k) (hm : m ≤ k) :
    FitsBeside s a ledger profile taken m :=
  ⟨fun d ↦ (Nat.mul_le_mul_right _ hm).trans (h.free d), hm.trans h.slots,
    fun hpos ↦ hm.trans (h.profileCap hpos), fun rule hr hpos ↦ hm.trans (h.ruleCap rule hr hpos),
    fun rule hr he hpos ↦ Nat.le_zero.mp (h.exclusive rule hr he hpos ▸ hm),
    fun hpos ↦ hm.trans (h.policyCap hpos),
    fun hpos ↦ (Nat.mul_le_mul_right _ hm).trans (h.computeSlices hpos),
    fun hpos ↦ (Nat.mul_le_mul_right _ hm).trans (h.memorySlices hpos)⟩

lemma fitsBeside_zero {ledger : CapacityLedger} {taken : Usage} :
    FitsBeside s a ledger profile taken 0 :=
  ⟨fun d ↦ by simp, Nat.zero_le _, fun _ ↦ Nat.zero_le _, fun _ _ _ ↦ Nat.zero_le _,
    fun _ _ _ _ ↦ rfl, fun _ ↦ Nat.zero_le _, fun _ ↦ by simp, fun _ ↦ by simp⟩

lemma toNat_slotsUsed : (slotsUsed s a).toNat = (holders s a).length % 2 ^ 32 := by
  have hstates : ∀ r : PartitionRecord, slotStates.contains r.state = holdsCapacity r.state := by
    intro r
    cases r.state <;> rfl
  unfold slotsUsed FabricState.countPartitionsInStates holders
  rw [List.countP_eq_length_filter, List.filter_congr fun r _ ↦ hstates r]
  exact UInt32.toNat_ofNat'

lemma toNat_residentInstances : (residentInstances s a.id profile.id).toNat =
    ((unfinished s a).countP fun r ↦
      r.profile = profile.id && r.state ≠ .unpartitioned) % 2 ^ 32 := by
  unfold residentInstances unfinished
  rw [List.countP_filter]
  refine UInt32.toNat_ofNat'.trans (congrArg (· % 2 ^ 32) (List.countP_congr fun r _ ↦ ?_))
  simp only [Bool.and_eq_true]
  tauto

/-- A running total that adds the slices of each unfinished record counts them all. -/
lemma toNat_foldl_slices (s : FabricState) (count : PartitionProfile → UInt32)
    {add : UInt32 → PartitionRecord → UInt32}
    (hadd : ∀ total r, (add total r).toNat = (total.toNat +
      slicesTaken s count ([r].filter fun r ↦ !isTerminalState r.state)) % 2 ^ 32)
    (records : List PartitionRecord) (total : UInt32) : (records.foldl add total).toNat =
      (total.toNat + slicesTaken s count (records.filter fun r ↦ !isTerminalState r.state)) %
        2 ^ 32 := by
  induction records generalizing total with
  | nil => exact (Nat.mod_eq_of_lt total.toNat_lt).symm
  | cons r rest ih =>
      rw [List.foldl_cons, ih, hadd, Nat.mod_add_mod, Nat.add_assoc]
      cases hover : isTerminalState r.state with
      | true => simp [hover, slicesTaken]
      | false => simp [hover, slicesTaken]

lemma toNat_usedSlices (compute : Bool) : (usedSlices s a.id compute).toNat =
    slicesTaken s (if compute then PartitionProfile.computeSliceCount
      else PartitionProfile.memorySliceCount) (unfinished s a) % 2 ^ 32 := by
  unfold usedSlices unfinished
  refine (toNat_foldl_slices s (if compute then PartitionProfile.computeSliceCount
    else PartitionProfile.memorySliceCount) (fun total r ↦ ?_) _ 0).trans ?_
  · cases hover : isTerminalState r.state with
    | true => simp [hover, slicesTaken]
    | false =>
        cases hprofile : s.findProfile r.profile with
        | none => simp [hover, hprofile, slicesTaken]
        | some found => cases compute <;> simp [hover, hprofile, slicesTaken]
  · rw [UInt32.toNat_zero, Nat.zero_add]

lemma le_capped {limit used cap : UInt32} :
    k ≤ (if limit > 0 then min cap (room limit used) else cap).toNat ↔
      k ≤ cap.toNat ∧ (0 < limit → k ≤ limit.toNat - used.toNat) := by
  by_cases hlimit : 0 < limit
  · rw [if_pos hlimit, toNat_min, le_min_iff, toNat_room]
    simp [hlimit]
  · rw [if_neg hlimit]
    simp [hlimit]

/-- The instances that the multiplicity caps allow. -/
lemma le_multiplicityCap {same used : UInt32} :
    k ≤ (multiplicityCap s a profile same used).1.toNat ↔ k < 2 ^ 32 ∧
      (0 < profile.maxMultiplicity → k ≤ profile.maxMultiplicity.toNat - same.toNat) ∧
      (∀ rule ∈ a.capability.findRule profile.id, 0 < rule.maxInstances →
        k ≤ rule.maxInstances.toNat - same.toNat) ∧
      (∀ rule ∈ a.capability.findRule profile.id, rule.requiresExclusiveDevice = true →
        0 < used.toNat → k = 0) ∧
      (0 < s.policy.maxInstancesPerProfile →
        k ≤ s.policy.maxInstancesPerProfile.toNat - same.toNat) := by
  have hfirst : k ≤ (if profile.maxMultiplicity > 0 then room profile.maxMultiplicity same
      else uint32Max).toNat ↔ k < 2 ^ 32 ∧
        (0 < profile.maxMultiplicity → k ≤ profile.maxMultiplicity.toNat - same.toNat) := by
    have hmax : uint32Max.toNat = 2 ^ 32 - 1 := rfl
    by_cases hlimit : 0 < profile.maxMultiplicity
    · have hbound := profile.maxMultiplicity.toNat_lt
      rw [if_pos hlimit, toNat_room]
      simp only [hlimit, true_implies]
      omega
    · rw [if_neg hlimit, hmax]
      simp only [hlimit, false_implies, and_true]
      omega
  have hused : used > 0 ↔ 0 < used.toNat := UInt32.lt_iff_toNat_lt
  unfold multiplicityCap
  cases a.capability.findRule profile.id with
  | none =>
      simp only [le_capped, hfirst]
      simp [and_assoc]
  | some rule =>
      by_cases hexclusive : rule.requiresExclusiveDevice = true ∧ 0 < used.toNat
      · have hnone : (rule.requiresExclusiveDevice && decide (used > 0)) = true := by
          rw [Bool.and_eq_true, decide_eq_true_eq, hused]
          exact hexclusive
        simp only [hnone, if_true, le_capped]
        constructor
        · rintro ⟨hzero, -⟩
          obtain rfl := Nat.le_zero.mp hzero
          simp
        · rintro ⟨-, -, -, hnone, -⟩
          obtain rfl := hnone rule rfl hexclusive.1 hexclusive.2
          simp
      · have hsome : (rule.requiresExclusiveDevice && decide (used > 0)) = false := by
          rw [Bool.eq_false_iff, ne_eq, Bool.and_eq_true, decide_eq_true_eq, hused]
          exact hexclusive
        simp only [hsome, Bool.false_eq_true, if_false, le_capped, hfirst, Option.mem_def,
          Option.some.injEq, forall_eq']
        tauto

lemma accommodates_iff {ledger : CapacityLedger} : Accommodates s a ledger profile k ↔
    FitsBeside s a ledger profile (countedUsage s a profile) k := by
  have hslots : (slotsUsed s a).toNat = (countedUsage s a profile).slots := toNat_slotsUsed
  have hinstances : (residentInstances s a.id profile.id).toNat =
      (countedUsage s a profile).instances := toNat_residentInstances
  have hcompute : (usedSlices s a.id true).toNat = (countedUsage s a profile).computeSlices :=
    toNat_usedSlices true
  have hmemory : (usedSlices s a.id false).toNat = (countedUsage s a profile).memorySlices :=
    toNat_usedSlices false
  constructor
  · intro h
    obtain ⟨-, hprofile, hrule, hexclusive, hpolicy⟩ := le_multiplicityCap.mp h.multiplicity
    rw [hinstances] at hprofile hrule hpolicy
    rw [hslots] at hexclusive
    exact ⟨h.free, hslots ▸ h.slots, hprofile, hrule, hexclusive, hpolicy,
      hcompute ▸ h.computeSlices, hmemory ▸ h.memorySlices⟩
  · intro h
    have hlt : k < 2 ^ 32 :=
      (h.slots.trans (Nat.sub_le _ _)).trans_lt a.capability.maxPartitionCount.toNat_lt
    refine ⟨h.free, hslots.symm ▸ h.slots, le_multiplicityCap.mpr ?_,
      hcompute.symm ▸ h.computeSlices, hmemory.symm ▸ h.memorySlices⟩
    rw [hinstances, hslots]
    exact ⟨hlt, h.profileCap, h.ruleCap, h.exclusive, h.policyCap⟩

lemma profileConflictsWithResident_eq :
    profileConflictsWithResident s a.id profile = excludes s profile (unfinished s a) := by
  unfold profileConflictsWithResident excludes unfinished
  rw [List.any_filter]
  simp only [Bool.and_assoc]

/-- Partitions that hold capacity are not over. -/
lemma excludes_unfinished (h : excludes s profile (holders s a) = true) :
    excludes s profile (unfinished s a) = true := by
  obtain ⟨r, hr, hconflicts⟩ := List.any_eq_true.mp h
  obtain ⟨hmem, hholds⟩ := List.mem_filter.mp hr
  refine List.any_eq_true.mpr ⟨r, List.mem_filter.mpr ⟨hmem, ?_⟩, hconflicts⟩
  revert hholds
  cases r.state <;> decide

/-- Where every record that is not over holds capacity, and 32 bits suffice, the analysis counts
what is held. -/
lemma countedUsage_eq (hall : ∀ r ∈ unfinished s a, holdsCapacity r.state = true)
    (hslots : (holders s a).length < 2 ^ 32)
    (hcompute : slicesTaken s PartitionProfile.computeSliceCount (holders s a) < 2 ^ 32)
    (hmemory : slicesTaken s PartitionProfile.memorySliceCount (holders s a) < 2 ^ 32) :
    unfinished s a = holders s a ∧ countedUsage s a profile = heldUsage s a profile := by
  have hrecords : unfinished s a = holders s a := by
    unfold unfinished holders
    refine List.filter_congr fun r hr ↦ ?_
    have hholds : (!isTerminalState r.state) = true → holdsCapacity r.state = true :=
      fun h ↦ hall r (List.mem_filter.mpr ⟨hr, h⟩)
    revert hholds
    cases r.state <;> decide
  have hinstances : ((unfinished s a).countP fun r ↦
      r.profile = profile.id && r.state ≠ .unpartitioned) =
      (holders s a).countP fun r ↦ r.profile = profile.id := by
    rw [hrecords]
    refine List.countP_congr fun r hr ↦ ?_
    have hstate : r.state ≠ .unpartitioned := fun h ↦ by
      have hholds := (List.mem_filter.mp hr).2
      rw [h] at hholds
      cases hholds
    simp [hstate]
  have hcount := (List.countP_le_length (p := fun r ↦ decide (r.profile = profile.id))
    (l := holders s a)).trans_lt hslots
  refine ⟨hrecords, ?_⟩
  unfold countedUsage heldUsage
  rw [hinstances, hrecords, Nat.mod_eq_of_lt hslots, Nat.mod_eq_of_lt hcount,
    Nat.mod_eq_of_lt hcompute, Nat.mod_eq_of_lt hmemory]

end Holders
section Holding

variable {l : CapacityLedger} {r needed : ResourceVector} {desired : List PlannedPartition}

/-- When the ledger can hold an amount. -/
lemma reserve_ok_iff : (CapacityLedger.reserve needed l).2 = success ↔
    needed.empty = false ∧ needed.mask &&& ~~~(l.buckets .free).mask = 0 ∧
      needed.mask &&& ~~~(l.buckets .reserved).mask = 0 ∧
      (∀ d, needed.has d = true → ResourceVector.Fits ((l.buckets .reserved).values d) d
        (needed.values d)) ∧
      ∀ d, needed.has d = true → needed.values d ≤ (l.buckets .free).values d := by
  constructor
  · intro h
    obtain ⟨hne, -, hfree, hreserved, hfits, hle, -⟩ :=
      reserve_eq_ok (Prod.ext rfl h : CapacityLedger.reserve needed l = (_, success))
    exact ⟨hne, hfree, hreserved, hfits, hle⟩
  · rintro ⟨hne, hfree, hreserved, hfits, hle⟩
    have hsubset : needed.isSubsetOf (l.buckets .free) = true :=
      ResourceVector.isSubsetOf_iff.mpr fun d hd ↦
        ⟨hasBit_of_subset hfree hd, hle d hd⟩
    have hmove := moveCapacity_eq_ok.mpr ⟨hsubset,
      ResourceVector.subAssign_eq_ok.mpr ⟨hfree, hle, rfl⟩,
      ResourceVector.addAssign_eq_ok.mpr ⟨hreserved, hfits, rfl⟩⟩
    unfold CapacityLedger.reserve
    rw [require_bind, hne]
    change (CapacityLedger.transfer .free .reserved needed l).2 = success
    exact CapacityLedger.transfer_isOk_iff.mpr ⟨_, hmove⟩

/-- Summing up equal needs gives a vector over their dimensions. -/
lemma addPlanned_mask {out sum : ResourceVector} {planned : PlannedPartition}
    (hresources : planned.resources = r) (hout : out.empty = true ∨ out.mask = r.mask)
    (h : addPlanned out planned = .ok sum) : sum.mask = r.mask := by
  rcases addPlanned_eq_ok.mp h with ⟨-, rfl⟩ | ⟨hempty, -, -, rfl⟩
  · rw [hresources]
  · exact hout.resolve_left (by simp [hempty])

lemma accumulate_mask (hall : ∀ planned ∈ desired, planned.resources = r) (hne : desired ≠ [])
    (h : accumulate desired = .ok needed) : needed.mask = r.mask := by
  have hloop : ∀ (desired : List PlannedPartition) (out : ResourceVector),
      (∀ planned ∈ desired, planned.resources = r) → out.mask = r.mask →
      desired.foldlM addPlanned out = .ok needed → needed.mask = r.mask := by
    intro desired
    induction desired with
    | nil =>
        intro out _ hout hrun
        obtain rfl := Except.ok.inj hrun
        exact hout
    | cons planned rest ih =>
        intro out hrest hout hrun
        rw [List.foldlM_cons] at hrun
        cases hstep : addPlanned out planned with
        | error e =>
            rw [hstep] at hrun
            cases hrun
        | ok sum =>
            rw [hstep] at hrun
            exact ih sum (fun p hp ↦ hrest p (List.mem_cons_of_mem _ hp))
              (addPlanned_mask (hrest planned List.mem_cons_self) (Or.inr hout) hstep) hrun
  obtain ⟨planned, rest, rfl⟩ := List.exists_cons_of_ne_nil hne
  rw [accumulate_eq_foldlM, List.foldlM_cons] at h
  have hfirst : addPlanned {} planned = .ok planned.resources := rfl
  rw [hfirst] at h
  refine hloop rest planned.resources (fun p hp ↦ hall p (List.mem_cons_of_mem _ hp)) ?_ h
  rw [hall planned List.mem_cons_self]

/-- Equal needs can be summed up when no share of the sum is beyond the whole device. -/
lemma accumulate_uniform (hall : ∀ planned ∈ desired, planned.resources = r)
    (hfits : ∀ d, r.has d = true → desired.length * r.amount d < 2 ^ 64 ∧
      (d.isShareDimension = true → desired.length * r.amount d ≤ shareScale.toNat)) :
    ∃ needed, accumulate desired = .ok needed := by
  have hloop : ∀ (desired : List PlannedPartition) (out : ResourceVector),
      (∀ planned ∈ desired, planned.resources = r) → out.mask = r.mask →
      (∀ d, r.has d = true → out.amount d + desired.length * r.amount d < 2 ^ 64 ∧
        (d.isShareDimension = true →
          out.amount d + desired.length * r.amount d ≤ shareScale.toNat)) →
      ∃ needed, desired.foldlM addPlanned out = .ok needed := by
    intro desired
    induction desired with
    | nil => exact fun out _ _ _ ↦ ⟨out, rfl⟩
    | cons planned rest ih =>
        intro out hrest hout hroom
        have hresources := hrest planned List.mem_cons_self
        have hstep : ∃ sum, addPlanned out planned = .ok sum ∧ sum.mask = r.mask ∧
            ∀ d, sum.amount d ≤ out.amount d + r.amount d := by
          cases hempty : out.empty with
          | true =>
              refine ⟨r, addPlanned_eq_ok.mpr (Or.inl ⟨hempty, hresources.symm⟩), rfl, fun d ↦ ?_⟩
              exact Nat.le_add_left _ _
          | false =>
              have hmask : planned.resources.mask &&& ~~~out.mask = 0 := by
                rw [hresources, hout]
                exact UInt32.and_not_self
              have hone : ∀ d, planned.resources.has d = true →
                  ResourceVector.Fits (out.values d) d (planned.resources.values d) := by
                intro d hd
                rw [hresources] at hd ⊢
                have hod : out.has d = true := by
                  rw [ResourceVector.has, hout]
                  exact hd
                obtain ⟨hlt, hshare⟩ := hroom d hd
                rw [ResourceVector.amount_of_has hod, ResourceVector.amount_of_has hd,
                  List.length_cons, Nat.add_mul, Nat.one_mul] at hlt hshare
                exact ⟨by omega, fun h ↦ by have := hshare h; omega⟩
              refine ⟨_, addPlanned_eq_ok.mpr (Or.inr ⟨hempty, hmask, hone, rfl⟩), hout,
                fun d ↦ ?_⟩
              rw [ResourceVector.amount_plus hmask hone, hresources]
        obtain ⟨sum, hsum, hmask, hle⟩ := hstep
        rw [List.foldlM_cons, hsum]
        refine ih sum (fun p hp ↦ hrest p (List.mem_cons_of_mem _ hp)) hmask fun d hd ↦ ?_
        obtain ⟨hlt, hshare⟩ := hroom d hd
        rw [List.length_cons, Nat.add_mul, Nat.one_mul] at hlt hshare
        have hbound := hle d
        exact ⟨by omega, fun h ↦ by have := hshare h; omega⟩
  cases desired with
  | nil => exact ⟨{}, rfl⟩
  | cons planned rest =>
      rw [accumulate_eq_foldlM, List.foldlM_cons]
      have hfirst : addPlanned {} planned = .ok r := by
        rw [← hall planned List.mem_cons_self]
        rfl
      rw [hfirst]
      refine hloop rest r (fun p hp ↦ hall p (List.mem_cons_of_mem _ hp)) rfl fun d hd ↦ ?_
      obtain ⟨hlt, hshare⟩ := hfits d hd
      rw [List.length_cons, Nat.add_mul, Nat.one_mul] at hlt hshare
      exact ⟨by omega, fun h ↦ by have := hshare h; omega⟩

/-- What holding a number of instances of a vector needs of a ledger besides free capacity. -/
@[mk_iff]
structure Holdable (l : CapacityLedger) (r : ResourceVector) (n : ℕ) : Prop where
  free : r.mask &&& ~~~(l.buckets .free).mask = 0
  reserved : r.mask &&& ~~~(l.buckets .reserved).mask = 0
  shares : ∀ d, r.has d = true → d.isShareDimension = true →
    (l.buckets .reserved).amount d + n * r.amount d ≤ shareScale.toNat

instance (l : CapacityLedger) (r : ResourceVector) (n : ℕ) : Decidable (Holdable l r n) :=
  decidable_of_iff' _ (holdable_iff ..)

lemma CapacityLedger.free_add_reserved_le (l : CapacityLedger) (d : ResourceDimension) :
    (l.buckets .free).amount d + (l.buckets .reserved).amount d ≤ l.sum d := by
  have hpair : ∑ b ∈ ({.free, .reserved} : Finset CapacityBucket), (l.buckets b).amount d =
      (l.buckets .free).amount d + (l.buckets .reserved).amount d :=
    Finset.sum_pair (by decide)
  rw [← hpair]
  exact Finset.sum_le_sum_of_subset (Finset.subset_univ _)

/-- Free capacity for a number of instances can be held exactly when both buckets carry their
dimensions and no reserved share exceeds the device. -/
lemma reserve_uniform_iff (hclosed : l.Balanced) (hne : r.empty = false)
    (hall : ∀ planned ∈ desired, planned.resources = r) (hsome : desired ≠ [])
    (hfree : ∀ d, desired.length * r.amount d ≤ (l.buckets .free).amount d) :
    (∃ needed, accumulate desired = .ok needed ∧ (CapacityLedger.reserve needed l).2 = success) ↔
      Holdable l r desired.length := by
  have hsum {needed : ResourceVector} (h : accumulate desired = .ok needed)
      (d : ResourceDimension) : needed.amount d = desired.length * r.amount d := by
    rw [accumulate_amount h, List.map_congr_left fun planned hp ↦ by rw [hall planned hp],
      List.map_const', List.sum_replicate, smul_eq_mul]
  constructor
  · rintro ⟨needed, hneeded, hreserve⟩
    have hmask := accumulate_mask hall hsome hneeded
    obtain ⟨-, hmaskFree, hmaskReserved, hfits, -⟩ := reserve_ok_iff.mp hreserve
    rw [hmask] at hmaskFree hmaskReserved
    refine ⟨hmaskFree, hmaskReserved, fun d hd hshare ↦ ?_⟩
    have hhas : needed.has d = true := by
      rw [ResourceVector.has, hmask]
      exact hd
    have hcarried : (l.buckets .reserved).has d = true := hasBit_of_subset hmaskReserved hd
    have hbound := (hfits d hhas).2 hshare
    rwa [← ResourceVector.amount_of_has hcarried, ← ResourceVector.amount_of_has hhas,
      hsum hneeded] at hbound
  · rintro ⟨hmaskFree, hmaskReserved, hshares⟩
    have hlt (d : ResourceDimension) : desired.length * r.amount d < 2 ^ 64 :=
      (hfree d).trans_lt (CapacityLedger.amount_lt _ _)
    obtain ⟨needed, hneeded⟩ := accumulate_uniform hall fun d hd ↦
      ⟨hlt d, fun hshare ↦ by have := hshares d hd hshare; omega⟩
    have hmask := accumulate_mask hall hsome hneeded
    have hhas {d : ResourceDimension} (hd : needed.has d = true) : r.has d = true := by
      rw [ResourceVector.has, ← hmask]
      exact hd
    refine ⟨needed, hneeded, reserve_ok_iff.mpr ⟨?_, hmask ▸ hmaskFree, hmask ▸ hmaskReserved,
      fun d hd ↦ ?_, fun d hd ↦ ?_⟩⟩
    · rw [ResourceVector.empty, hmask]
      exact hne
    · have hcarried : (l.buckets .reserved).has d = true := hasBit_of_subset hmaskReserved (hhas hd)
      have htotal : l.sum d = l.total.amount d := hclosed.closes d .reserved hcarried
      have hroom := l.free_add_reserved_le d
      have hmax := CapacityLedger.amount_lt l.total d
      have hdemand := hfree d
      unfold ResourceVector.Fits
      rw [← ResourceVector.amount_of_has hcarried, ← ResourceVector.amount_of_has hd, hsum hneeded]
      exact ⟨by omega, hshares d (hhas hd)⟩
    · have hcarried : (l.buckets .free).has d = true := hasBit_of_subset hmaskFree (hhas hd)
      rw [UInt64.le_iff_toNat_le, ← ResourceVector.amount_of_has hcarried,
        ← ResourceVector.amount_of_has hd, hsum hneeded]
      exact hfree d

end Holding

section Exactness

variable {s : FabricState} {a : AcceleratorRecord} {ledger : CapacityLedger}
  {request : PartitionRequest} {profile : PartitionProfile}

/-- What the analysis calls feasible now can be reserved. -/
def ReservesFeasible (ledger : CapacityLedger) (profile : PartitionProfile)
    (report : FragmentationReport) (count : UInt32) : Prop :=
  report.feasibleNow = true → ∀ desired : List PlannedPartition, desired.length = count.toNat →
    (∀ planned ∈ desired, planned.resources = profile.resources) →
    ∃ needed, accumulate desired = .ok needed ∧ (CapacityLedger.reserve needed ledger).2 = success

/-- The reported number of instances is the largest that fits beside the partitions that hold
capacity; none fits when one of them has a conflicting profile. -/
def CountsExactly (s : FabricState) (a : AcceleratorRecord) (ledger : CapacityLedger)
    (profile : PartitionProfile) (report : FragmentationReport) : Prop :=
  if excludes s profile (holders s a) then report.maxInstancesNow = 0
  else IsGreatest {k | FitsBeside s a ledger profile (heldUsage s a profile) k}
    report.maxInstancesNow.toNat

/-- The demand for all requested instances is representable in every dimension. -/
def Representable (profile : PartitionProfile) (count : UInt32) : Prop :=
  ∀ d, count.toNat * profile.resources.amount d < 2 ^ 64

lemma FitsBeside.representable {taken : Usage}
    (h : FitsBeside s a ledger profile taken request.count.toNat) :
    Representable profile request.count :=
  fun d ↦ (h.free d).trans_lt (CapacityLedger.amount_lt _ _)

lemma not_representable {count : UInt32} {e : Error}
    (h : multiplyResource profile.resources count = .error e) : ¬ Representable profile count := by
  intro hrepresentable
  obtain ⟨needed, hok⟩ := (multiplyResource_isOk_iff _ _).mpr hrepresentable
  rw [h] at hok
  cases hok

lemma feasibleNow_iff (hprofile : s.findProfile request.profile = some profile) :
    (analyzeFragmentation s a ledger request).feasibleNow = true ↔
      excludes s profile (unfinished s a) = false ∧ (request.count.toNat = 0 ∨
        Demanding profile ∧
          FitsBeside s a ledger profile (countedUsage s a profile) request.count.toNat) := by
  rw [← accommodates_iff, ← le_roomFor, ← profileConflictsWithResident_eq]
  cases hneeded : multiplyResource profile.resources request.count with
  | error e =>
      have hnot := not_representable hneeded
      rw [(analyzeFragmentation_overflow hprofile hneeded).2]
      refine iff_of_false (by decide) fun h ↦ hnot ?_
      rcases le_roomFor.mp h.2 with hzero | ⟨-, hfits⟩
      · exact fun d ↦ by simp [hzero]
      · exact (accommodates_iff.mp hfits).representable
  | ok needed =>
      rw [(analyzeFragmentation_now hprofile hneeded).2]
      simp [UInt32.le_iff_toNat_le]

/-- The largest member of a set that holds everything below its members. -/
lemma isGreatest_iff_of_mono {p : ℕ → Prop} (hmono : ∀ {k m : ℕ}, p k → m ≤ k → p m) (n : ℕ) :
    IsGreatest {m | p m} n ↔ ∀ k, p k ↔ k ≤ n :=
  ⟨fun h _ ↦ ⟨fun hk ↦ h.2 hk, fun hle ↦ hmono h.1 hle⟩,
    fun h ↦ ⟨(h n).mpr (le_refl n), fun k hk ↦ (h k).mp hk⟩⟩

/-- Where no resident conflicts, the reported count is exact when a profile of which one instance
fits has a positive and representable demand, and the same counts fit beside what the analysis
counts as beside what is held. -/
lemma countsExactly_iff (hprofile : s.findProfile request.profile = some profile) :
    CountsExactly s a ledger profile (analyzeFragmentation s a ledger request) ↔
      if excludes s profile (unfinished s a) then
        excludes s profile (holders s a) = true ∨
          ¬ FitsBeside s a ledger profile (heldUsage s a profile) 1
      else
        (FitsBeside s a ledger profile (heldUsage s a profile) 1 →
          Demanding profile ∧ Representable profile request.count) ∧
        (Demanding profile → Representable profile request.count →
          ∀ k, FitsBeside s a ledger profile (countedUsage s a profile) k ↔
            FitsBeside s a ledger profile (heldUsage s a profile) k) := by
  have hgreatest (n : ℕ) :
      IsGreatest {k | FitsBeside s a ledger profile (heldUsage s a profile) k} n ↔
        ∀ k, FitsBeside s a ledger profile (heldUsage s a profile) k ↔ k ≤ n :=
    isGreatest_iff_of_mono FitsBeside.mono n
  have hnone : IsGreatest {k | FitsBeside s a ledger profile (heldUsage s a profile) k} 0 ↔
      ¬ FitsBeside s a ledger profile (heldUsage s a profile) 1 := by
    rw [hgreatest]
    refine ⟨fun h hone ↦ absurd ((h 1).mp hone) (by decide), fun h k ↦ ⟨fun hk ↦ ?_, fun hk ↦ ?_⟩⟩
    · exact Nat.le_of_not_lt fun hpositive ↦ h (hk.mono hpositive)
    · obtain rfl := Nat.le_zero.mp hk
      exact fitsBeside_zero
  unfold CountsExactly
  cases hconflict : excludes s profile (unfinished s a) with
  | true =>
      have hzero : (analyzeFragmentation s a ledger request).maxInstancesNow = 0 := by
        cases hneeded : multiplyResource profile.resources request.count with
        | error e => exact (analyzeFragmentation_overflow hprofile hneeded).1
        | ok needed =>
            rw [(analyzeFragmentation_now hprofile hneeded).1, profileConflictsWithResident_eq,
              hconflict, if_pos rfl]
      rw [hzero, if_pos rfl, UInt32.toNat_zero, hnone]
      cases excludes s profile (holders s a) <;> simp
  | false =>
      have hfree : excludes s profile (holders s a) = false :=
        Bool.eq_false_iff.mpr fun h ↦ by rw [excludes_unfinished h] at hconflict; cases hconflict
      rw [hfree, if_neg Bool.false_ne_true, if_neg Bool.false_ne_true]
      cases hneeded : multiplyResource profile.resources request.count with
      | error e =>
          have hnot := not_representable hneeded
          rw [(analyzeFragmentation_overflow hprofile hneeded).1, UInt32.toNat_zero, hnone]
          exact ⟨fun h ↦ ⟨fun hone ↦ absurd hone h, fun _ hr ↦ absurd hr hnot⟩,
            fun h hone ↦ hnot (h.1 hone).2⟩
      | ok needed =>
          have hrepresentable : Representable profile request.count :=
            (multiplyResource_isOk_iff _ _).mp ⟨needed, hneeded⟩
          rw [(analyzeFragmentation_now hprofile hneeded).1, profileConflictsWithResident_eq,
            hconflict, if_neg Bool.false_ne_true, hgreatest]
          simp only [le_roomFor, accommodates_iff, hrepresentable, and_true, true_implies]
          constructor
          · refine fun h ↦ ⟨fun hone ↦ ?_, fun hdemands k ↦ ⟨fun hk ↦ ?_, fun hk ↦ ?_⟩⟩
            · exact (((h 1).mp hone).resolve_left Nat.one_ne_zero).1
            · exact (h k).mpr (Or.inr ⟨hdemands, hk⟩)
            · rcases (h k).mp hk with rfl | hfits
              · exact fitsBeside_zero
              · exact hfits.2
          · rintro ⟨hone, hsame⟩ k
            constructor
            · intro hk
              rcases Nat.eq_zero_or_pos k with rfl | hpositive
              · exact Or.inl rfl
              · have hdemands := hone (hk.mono hpositive)
                exact Or.inr ⟨hdemands, (hsame hdemands k).mpr hk⟩
            · rintro (rfl | ⟨hdemands, hk⟩)
              · exact fitsBeside_zero
              · exact (hsame hdemands k).mp hk

lemma Demanding.nonempty (h : Demanding profile) : profile.resources.empty = false := by
  obtain ⟨d, hd⟩ := h
  cases hempty : profile.resources.empty with
  | false => rfl
  | true =>
      have hmask : profile.resources.mask = 0 := by simpa [ResourceVector.empty] using hempty
      have hnone : profile.resources.has d = false := by simp [ResourceVector.has, hasBit, hmask]
      rw [ResourceVector.amount_of_not_has hnone] at hd
      exact absurd hd (Nat.lt_irrefl 0)

lemma reservesFeasible_iff (hprofile : s.findProfile request.profile = some profile)
    (hclosed : ledger.Balanced) :
    ReservesFeasible ledger profile (analyzeFragmentation s a ledger request) request.count ↔
      (excludes s profile (unfinished s a) = false →
        FitsBeside s a ledger profile (countedUsage s a profile) request.count.toNat →
          request.count ≠ 0 ∧
            (Demanding profile → Holdable ledger profile.resources request.count.toNat)) := by
  have hzero : request.count = 0 ↔ request.count.toNat = 0 :=
    ⟨fun h ↦ by rw [h]; rfl, fun h ↦ UInt32.toNat.inj h⟩
  unfold ReservesFeasible
  rw [feasibleNow_iff hprofile]
  constructor
  · intro h hconflict hfits
    have hne : request.count ≠ 0 := fun hnone ↦ by
      obtain ⟨needed, hneeded, hreserve⟩ := h ⟨hconflict, Or.inl (hzero.mp hnone)⟩ []
        (hzero.mp hnone).symm (fun p hp ↦ absurd hp List.not_mem_nil)
      obtain rfl := Except.ok.inj hneeded
      have hempty := (reserve_ok_iff.mp hreserve).1
      cases hempty
    refine ⟨hne, fun hdemands ↦ ?_⟩
    let desired := List.replicate request.count.toNat
      ({ resources := profile.resources } : PlannedPartition)
    have hlength : desired.length = request.count.toNat := List.length_replicate
    have hall : ∀ planned ∈ desired, planned.resources = profile.resources := fun planned hp ↦ by
      rw [List.eq_of_mem_replicate hp]
    have hsome : desired ≠ [] := fun hnil ↦ hne (hzero.mpr (by rw [← hlength, hnil]; rfl))
    have hreserved := h ⟨hconflict, Or.inr ⟨hdemands, hfits⟩⟩ desired hlength hall
    rw [← hlength]
    exact (reserve_uniform_iff hclosed hdemands.nonempty hall hsome
      (hlength.symm ▸ hfits.free)).mp hreserved
  · rintro h ⟨hconflict, hcount⟩ desired hlength hall
    have hne : request.count.toNat ≠ 0 := fun hnone ↦
      (h hconflict (by rw [hnone]; exact fitsBeside_zero)).1 (hzero.mpr hnone)
    obtain ⟨hdemands, hfits⟩ := hcount.resolve_left hne
    have hsome : desired ≠ [] := fun hnil ↦ hne (by rw [← hlength, hnil]; rfl)
    have hholdable := (h hconflict hfits).2 hdemands
    rw [← hlength] at hholdable
    exact (reserve_uniform_iff hclosed hdemands.nonempty hall hsome
      (hlength.symm ▸ hfits.free)).mpr hholdable

/-- The analysis agrees with the ledger and with the partitions that hold capacity exactly when a
request that fits asks for something, the free and the reserved bucket carry every dimension of its
profile without a share beyond the device, a profile of which one instance fits has a positive and
representable demand, and records without capacity change nothing: they rule out no instance that
fits, and their slices leave room for the same counts. -/
theorem feasibility_exact_iff (hprofile : s.findProfile request.profile = some profile)
    (hclosed : ledger.validate = success) :
    ReservesFeasible ledger profile (analyzeFragmentation s a ledger request) request.count ∧
        CountsExactly s a ledger profile (analyzeFragmentation s a ledger request) ↔
      if excludes s profile (unfinished s a) then
        excludes s profile (holders s a) = true ∨
          ¬ FitsBeside s a ledger profile (heldUsage s a profile) 1
      else
        (FitsBeside s a ledger profile (heldUsage s a profile) request.count.toNat →
          request.count ≠ 0 ∧
            (Demanding profile → Holdable ledger profile.resources request.count.toNat)) ∧
        (FitsBeside s a ledger profile (heldUsage s a profile) 1 →
          Demanding profile ∧ Representable profile request.count) ∧
        (Demanding profile → Representable profile request.count →
          ∀ k, FitsBeside s a ledger profile (countedUsage s a profile) k ↔
            FitsBeside s a ledger profile (heldUsage s a profile) k) := by
  rw [reservesFeasible_iff hprofile (CapacityLedger.validate_eq_ok.mp hclosed),
    countsExactly_iff hprofile]
  cases excludes s profile (unfinished s a) with
  | true => simp
  | false =>
      simp only [Bool.false_eq_true, if_false, true_implies]
      refine and_congr_left fun h ↦ ?_
      have hsame := h.2
      by_cases hdemands : Demanding profile
      · by_cases hrepresentable : Representable profile request.count
        · rw [hsame hdemands hrepresentable]
        · exact iff_of_true (fun h ↦ absurd h.representable hrepresentable)
            fun h ↦ absurd h.representable hrepresentable
      · simp only [hdemands, false_implies, and_true]
        refine ⟨fun h _ hzero ↦ h ?_ hzero, fun h _ hzero ↦ h ?_ hzero⟩
        · rw [hzero]
          exact fitsBeside_zero
        · rw [hzero]
          exact fitsBeside_zero

namespace Sample

/-- A slice that also describes a compute share of nothing. -/
def sparseProfile : PartitionProfile :=
  { Sample.profile with resources :=
      { memory 4 with
        mask := ResourceDimension.memoryBytes.bit ||| ResourceDimension.computeShare.bit } }

/-- A device that publishes memory only and a profile that also describes compute. -/
def sparse : FabricState :=
  fabric.run [.registerBackendAccelerator { device with profiles := [sparseProfile] } 1] opened

end Sample

/-- One slice is feasible and cannot be reserved: the ledger does not carry the compute share. -/
theorem feasible_not_reservable : ∃ a ledger, Sample.sparse.findAccelerator 1 = some a ∧
    Sample.sparse.findLedger 1 = some ledger ∧ ledger.validate = success ∧
    Sample.sparse.findProfile Sample.slice.profile = some Sample.sparseProfile ∧
    ¬ (ReservesFeasible ledger Sample.sparseProfile
        (analyzeFragmentation Sample.sparse a ledger Sample.slice) Sample.slice.count ∧
      CountsExactly Sample.sparse a ledger Sample.sparseProfile
        (analyzeFragmentation Sample.sparse a ledger Sample.slice)) := by
  let desired : List PlannedPartition := [{ resources := Sample.sparseProfile.resources }]
  have hprofile : Sample.sparse.findProfile Sample.slice.profile = some Sample.sparseProfile := by
    decide +kernel
  have hfound : (Sample.sparse.findAccelerator 1).any (fun a ↦
      (Sample.sparse.findLedger 1).any fun ledger ↦ ledger.validate.isOk &&
        (analyzeFragmentation Sample.sparse a ledger Sample.slice).feasibleNow &&
        !(CapacityLedger.reserve Sample.sparseProfile.resources ledger).2.isOk) = true := by
    decide +kernel
  obtain ⟨a, ha, hfound⟩ := (Option.any_eq_true _ _).mp hfound
  obtain ⟨ledger, hledger, hfound⟩ := (Option.any_eq_true _ _).mp hfound
  simp only [Bool.and_eq_true, Bool.not_eq_true'] at hfound
  obtain ⟨⟨hclosed, hfeasible⟩, hrefused⟩ := hfound
  refine ⟨a, ledger, ha, hledger, ?_, hprofile, fun h ↦ ?_⟩
  · cases hvalid : ledger.validate with
    | error e =>
        rw [hvalid] at hclosed
        cases hclosed
    | ok u => rfl
  · obtain ⟨needed, hneeded, hreserve⟩ := h.1 hfeasible desired rfl fun planned hp ↦ by
      rw [List.mem_singleton.mp hp]
    have hsum : accumulate desired = .ok Sample.sparseProfile.resources := rfl
    obtain rfl := Except.ok.inj (hsum.symm.trans hneeded)
    rw [hreserve] at hrefused
    cases hrefused

namespace Sample

/-- A device that cuts its memory in four. -/
def sliced : BackendAccelerator :=
  { device with capability := { capability with totalMemorySlices := 4 } }

/-- The creation of a slice is dispatched, its outcome is lost, and the device reports nothing:
partition 4 did not take effect. -/
def ineffective (device : BackendAccelerator) : FabricState := fabric.run
  [.registerBackendAccelerator device 1, .plan { profile := Sample.profile.id } 2, .reserve 2 3,
    .execute 3 4, .markAttemptOutcomeUnknown 5 [] 5, .reconcile 1 (layout []) 6] opened

/-- Two slices are reserved on the device that cuts its memory in four. -/
def halfTaken : FabricState := fabric.run
  [.registerBackendAccelerator sliced 1, .plan { profile := Sample.profile.id, count := 2 } 2,
    .reserve 2 3] opened

def slicePair : PartitionRequest := { slice with count := 2 }

end Sample

/-- Beside two reserved slices the analysis is exact for two more; beside a slice that did not take
effect it is not. -/
theorem feasibility_exact_iff_sliced : ∃ a ledger idle idleLedger,
    Sample.halfTaken.findAccelerator 1 = some a ∧ Sample.halfTaken.findLedger 1 = some ledger ∧
    (Sample.ineffective Sample.sliced).findAccelerator 1 = some idle ∧
    (Sample.ineffective Sample.sliced).findLedger 1 = some idleLedger ∧
    (ReservesFeasible ledger Sample.profile
        (analyzeFragmentation Sample.halfTaken a ledger Sample.slicePair) Sample.slicePair.count ∧
      CountsExactly Sample.halfTaken a ledger Sample.profile
        (analyzeFragmentation Sample.halfTaken a ledger Sample.slicePair)) ∧
    ¬ (ReservesFeasible idleLedger Sample.profile
        (analyzeFragmentation (Sample.ineffective Sample.sliced) idle idleLedger Sample.slice)
        Sample.slice.count ∧
      CountsExactly (Sample.ineffective Sample.sliced) idle idleLedger Sample.profile
        (analyzeFragmentation (Sample.ineffective Sample.sliced) idle idleLedger
          Sample.slice)) := by
  have hprofile : Sample.halfTaken.findProfile Sample.slicePair.profile =
      some Sample.profile := by
    decide +kernel
  have hidleProfile : (Sample.ineffective Sample.sliced).findProfile Sample.slice.profile =
      some Sample.profile := by
    decide +kernel
  have hdemands : Demanding Sample.profile := ⟨.memoryBytes, by decide⟩
  have hrepresentable : Representable Sample.profile Sample.slicePair.count ∧
      Representable Sample.profile Sample.slice.count := by
    unfold Representable
    decide
  have hexact : (Sample.halfTaken.findAccelerator 1).any (fun a ↦
      (Sample.halfTaken.findLedger 1).any fun ledger ↦ ledger.validate = success &&
        !excludes Sample.halfTaken Sample.profile (unfinished Sample.halfTaken a) &&
        (unfinished Sample.halfTaken a).all (holdsCapacity ·.state) &&
        (holders Sample.halfTaken a).length = 2 &&
        slicesTaken Sample.halfTaken PartitionProfile.computeSliceCount
          (holders Sample.halfTaken a) = 0 &&
        slicesTaken Sample.halfTaken PartitionProfile.memorySliceCount
          (holders Sample.halfTaken a) = 2 &&
        Holdable ledger Sample.profile.resources 2) = true := by
    decide +kernel
  have hidle : ((Sample.ineffective Sample.sliced).findAccelerator 1).any (fun a ↦
      ((Sample.ineffective Sample.sliced).findLedger 1).any fun ledger ↦
        ledger.validate = success &&
        !excludes (Sample.ineffective Sample.sliced) Sample.profile
          (unfinished (Sample.ineffective Sample.sliced) a) &&
        FitsBeside (Sample.ineffective Sample.sliced) a ledger Sample.profile
          (heldUsage (Sample.ineffective Sample.sliced) a Sample.profile) 4 &&
        !decide (FitsBeside (Sample.ineffective Sample.sliced) a ledger Sample.profile
          (countedUsage (Sample.ineffective Sample.sliced) a Sample.profile) 4)) = true := by
    decide +kernel
  obtain ⟨a, ha, hexact⟩ := (Option.any_eq_true _ _).mp hexact
  obtain ⟨ledger, hledger, hexact⟩ := (Option.any_eq_true _ _).mp hexact
  obtain ⟨idle, hidleDevice, hidle⟩ := (Option.any_eq_true _ _).mp hidle
  obtain ⟨idleLedger, hidleLedger, hidle⟩ := (Option.any_eq_true _ _).mp hidle
  simp only [Bool.and_eq_true, decide_eq_true_eq, Bool.not_eq_true', decide_eq_false_iff_not,
    List.all_eq_true] at hexact hidle
  obtain ⟨⟨⟨⟨⟨⟨hclosed, hfree⟩, hall⟩, hslots⟩, hcompute⟩, hmemory⟩, hholdable⟩ := hexact
  obtain ⟨⟨⟨hidleClosed, hidleFree⟩, hheld⟩, hcounted⟩ := hidle
  refine ⟨a, ledger, idle, idleLedger, ha, hledger, hidleDevice, hidleLedger,
    (feasibility_exact_iff hprofile hclosed).mpr ?_, fun h ↦ ?_⟩
  · have hsame := (@countedUsage_eq Sample.halfTaken a Sample.profile hall (by rw [hslots]; decide)
      (by rw [hcompute]; decide) (by rw [hmemory]; decide)).2
    rw [hfree, if_neg Bool.false_ne_true, hsame]
    exact ⟨fun _ ↦ ⟨by decide, fun _ ↦ hholdable⟩, fun _ ↦ ⟨hdemands, hrepresentable.1⟩,
      fun _ _ _ ↦ Iff.rfl⟩
  · have hiff := @feasibility_exact_iff _ idle _ _ _ hidleProfile hidleClosed
    rw [hidleFree, if_neg Bool.false_ne_true] at hiff
    exact hcounted (((hiff.mp h).2.2 hdemands hrepresentable.2 4).mpr hheld)

end Exactness

end PartitionFabric

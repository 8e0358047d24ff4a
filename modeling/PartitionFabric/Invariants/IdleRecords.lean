import PartitionFabric.Invariants.Feasibility
import PartitionFabric.Invariants.PlanUse

/-!
The fragmentation analysis against partition records that hold nothing. Retired and failed records
count nowhere; a record in Unpartitioned counts neither as a slot nor as an instance of its
profile, but its slices are in use and its profile may exclude the requested one.
-/

namespace PartitionFabric

section Records

/-- Another set of partition records. -/
def FabricState.withPartitions (s : FabricState) (records : KeyedMap PartitionId PartitionRecord) :
    FabricState :=
  { s with partitions := records }

/-- Two sets of records agree apart from records of one device in Unpartitioned, Retired or
Failed, which either of them may have or lack. -/
def AgreeBusy (id : AcceleratorId) (m m' : KeyedMap PartitionId PartitionRecord) : Prop :=
  ∀ k, (m.find? k).filter (fun r ↦ r.accelerator ≠ id || inLayout r) =
    (m'.find? k).filter fun r ↦ r.accelerator ≠ id || inLayout r

variable {s : FabricState} {records : KeyedMap PartitionId PartitionRecord} {id : AcceleratorId}

lemma agreeBusy_erase {m : KeyedMap PartitionId PartitionRecord} {p : PartitionId}
    (h : ∀ r, m.find? p = some r → r.accelerator = id ∧ inLayout r = false) :
    AgreeBusy id (m.erase p) m := by
  intro k
  rw [KeyedMap.find?_erase]
  by_cases hk : k = p
  · subst hk
    cases hr : m.find? k with
    | none => simp
    | some r =>
      obtain ⟨hid, hbusy⟩ := h r hr
      simp [Option.filter, hid, hbusy]
  · rw [if_neg hk]

/-- The busy records of the device are the same ones, in the same order. -/
lemma AgreeBusy.busy (h : AgreeBusy id records s.partitions) :
    ((s.withPartitions records).partitionsOf id).filter inLayout =
      (s.partitionsOf id).filter inLayout := by
  have hmaps : records.filter (fun _ r ↦ r.accelerator ≠ id || inLayout r) =
      s.partitions.filter fun _ r ↦ r.accelerator ≠ id || inLayout r :=
    KeyedMap.ext_find? fun k ↦ by rw [KeyedMap.find?_filter, KeyedMap.find?_filter, h k]
  have hvalues := congrArg KeyedMap.values hmaps
  rw [KeyedMap.values_filter, KeyedMap.values_filter] at hvalues
  have hbusy : ∀ l : List PartitionRecord,
      (l.filter fun r ↦ r.accelerator = id).filter inLayout =
        (l.filter fun r ↦ r.accelerator ≠ id || inLayout r).filter fun r ↦
          r.accelerator = id && inLayout r := by
    intro l
    rw [List.filter_filter, List.filter_filter]
    congr 1
    funext r
    by_cases hr : r.accelerator = id <;> simp [hr]
  unfold FabricState.partitionsOf
  rw [hbusy, hbusy]
  exact congrArg _ hvalues

/-- A count of records that only busy ones take part in. -/
lemma AgreeBusy.countP (h : AgreeBusy id records s.partitions) {p : PartitionRecord → Bool}
    (hp : ∀ r, p r = true → inLayout r = true) :
    ((s.withPartitions records).partitionsOf id).countP p = (s.partitionsOf id).countP p := by
  have hbusy : ∀ l : List PartitionRecord, l.countP p = (l.filter inLayout).countP p := by
    intro l
    rw [List.countP_filter]
    congr 1
    funext r
    by_cases hr : p r = true
    · rw [hr, hp r hr]
      rfl
    · rw [Bool.not_eq_true] at hr
      rw [hr]
      rfl
  rw [hbusy, h.busy, ← hbusy]

variable {a : AcceleratorRecord} {profile : PartitionProfile}

lemma slotsUsed_congr (h : AgreeBusy a.id records s.partitions) :
    slotsUsed (s.withPartitions records) a = slotsUsed s a := by
  unfold slotsUsed FabricState.countPartitionsInStates
  rw [h.countP]
  intro r hr
  unfold inLayout isTerminalState
  cases hstate : r.state <;> first | rfl | (rw [hstate] at hr; exact absurd hr (by decide))

lemma residentInstances_congr (h : AgreeBusy a.id records s.partitions) :
    residentInstances (s.withPartitions records) a.id profile.id =
      residentInstances s a.id profile.id := by
  unfold residentInstances
  rw [h.countP]
  intro r hr
  simp only [Bool.and_eq_true] at hr
  rw [inLayout, Bool.and_eq_true]
  exact ⟨hr.1.2, hr.2⟩

end Records

section Report

variable {s : FabricState} {a : AcceleratorRecord} {ledger : CapacityLedger}
  {request : PartitionRequest} {profile : PartitionProfile} {needed : ResourceVector}

/-- What stands in the way of a demand that slots and residents do not rule out. -/
def capacityObstacle (ledger : CapacityLedger) (needed : ResourceVector) : FragmentationClass :=
  if needed.isSubsetOf (ledger.bucket .free) then .profileShape
  else
    match ResourceVector.subAssign (ledger.bucket .unavailable) ledger.total with
    | (whole, .ok _) =>
      if needed.isSubsetOf whole then .trappedBehindActive else .exceedsDeviceCapacity
    | (_, .error _) => .exceedsDeviceCapacity

/-- The classification, from whether a resident conflicts and how many instances have room. -/
def classify (ledger : CapacityLedger) (needed : ResourceVector) (conflict : Bool)
    (instances slotsFree count : UInt32) : FragmentationClass :=
  if !conflict && decide (instances ≥ count) then .none
  else if slotsFree < count then .maxPartitionCount
  else if conflict then .incompatibleCombination
  else capacityObstacle ledger needed

lemma capacityObstacle_cases (ledger : CapacityLedger) (needed : ResourceVector) :
    capacityObstacle ledger needed = .profileShape ∨
      capacityObstacle ledger needed = .trappedBehindActive ∨
      capacityObstacle ledger needed = .exceedsDeviceCapacity := by
  unfold capacityObstacle
  split
  · exact .inl rfl
  · split
    · split
      · exact .inr (.inl rfl)
      · exact .inr (.inr rfl)
    · exact .inr (.inr rfl)

lemma capacityObstacle_ne_none (ledger : CapacityLedger) (needed : ResourceVector) :
    capacityObstacle ledger needed ≠ .none := by
  rcases capacityObstacle_cases ledger needed with h | h | h <;> rw [h] <;> decide

lemma analyzeRecovery_class (report : FragmentationReport) :
    (analyzeRecovery ledger profile needed report).partitionSlotsFree =
        report.partitionSlotsFree ∧
      (needed.isSubsetOf (ledger.bucket .free) = false →
        (analyzeRecovery ledger profile needed report).classification =
          capacityObstacle ledger needed) := by
  unfold analyzeRecovery capacityObstacle
  simp only
  constructor
  · split <;> rfl
  · intro hfree
    rw [hfree, if_neg Bool.false_ne_true]
    rcases ResourceVector.subAssign (ledger.bucket .unavailable) ledger.total with
      ⟨whole, e | u⟩
    · rfl
    · by_cases hwhole : needed.isSubsetOf whole = true <;> simp [hwhole, Except.isOk, Except.toBool]

/-- The slots and the classification that the analysis reports. -/
theorem analyzeFragmentation_class (hprofile : s.findProfile request.profile = some profile)
    (hneeded : multiplyResource profile.resources request.count = .ok needed) :
    (analyzeFragmentation s a ledger request).partitionSlotsFree =
        room a.capability.maxPartitionCount (slotsUsed s a) ∧
      (analyzeFragmentation s a ledger request).classification =
        classify ledger needed (profileConflictsWithResident s a.id profile)
          (roomFor s a ledger profile) (room a.capability.maxPartitionCount (slotsUsed s a))
          request.count := by
  constructor
  · unfold analyzeFragmentation
    simp only [hprofile, hneeded, apply_ite FragmentationReport.partitionSlotsFree,
      analyzeRecovery_class, ite_self]
    rfl
  · unfold analyzeFragmentation
    simp only [hprofile, hneeded, apply_ite FragmentationReport.classification]
    unfold roomFor slotsUsed classify
    generalize profileConflictsWithResident s a.id profile = conflict
    generalize sliceBound a.capability.totalMemorySlices _ _ _ = instances
    generalize room a.capability.maxPartitionCount _ = slots
    cases hfeasible : (!conflict && decide (instances ≥ request.count)) with
    | true => simp
    | false =>
      by_cases hslots : slots < request.count
      · simp [hslots]
      · cases conflict with
        | true => simp [hslots]
        | false =>
          have hobstacle := capacityObstacle_ne_none ledger needed
          cases hfree : needed.isSubsetOf (ledger.bucket .free) with
          | true => simp [hslots, capacityObstacle, hfree]
          | false =>
            simp only [hslots, Bool.false_eq_true, if_false,
              (analyzeRecovery_class _).2 hfree, hobstacle, decide_false, Bool.and_false, ite_self]

end Report

section Agreement

variable {s : FabricState} {records : KeyedMap PartitionId PartitionRecord}
  {a : AcceleratorRecord} {ledger : CapacityLedger} {request : PartitionRequest}
  {profile : PartitionProfile}

/-- A number of instances has room in the slices that the device publishes. -/
structure SlicesAdmit (s : FabricState) (a : AcceleratorRecord) (profile : PartitionProfile)
    (k : ℕ) : Prop where
  compute : 0 < a.capability.totalComputeSlices → k * profile.computeSliceCount.toNat ≤
    a.capability.totalComputeSlices.toNat - (usedSlices s a.id true).toNat
  memory : 0 < a.capability.totalMemorySlices → k * profile.memorySliceCount.toNat ≤
    a.capability.totalMemorySlices.toNat - (usedSlices s a.id false).toNat

/-- A number of instances that demand something has room in everything but the slices. -/
structure FitsBeyondSlices (s : FabricState) (a : AcceleratorRecord) (ledger : CapacityLedger)
    (profile : PartitionProfile) (k : ℕ) : Prop where
  demands : Demanding profile
  free : ∀ d, k * profile.resources.amount d ≤ (ledger.bucket .free).amount d
  slots : k ≤ a.capability.maxPartitionCount.toNat - (slotsUsed s a).toNat
  multiplicity : k ≤ (multiplicityCap s a profile (residentInstances s a.id profile.id)
    (slotsUsed s a)).1.toNat

lemma le_roomFor_iff {k : ℕ} : k ≤ (roomFor s a ledger profile).toNat ↔
    k = 0 ∨ FitsBeyondSlices s a ledger profile k ∧ SlicesAdmit s a profile k := by
  rw [le_roomFor]
  constructor
  · rintro (rfl | ⟨hdemands, h⟩)
    · exact .inl rfl
    · exact .inr ⟨⟨hdemands, h.free, h.slots, h.multiplicity⟩, ⟨h.computeSlices, h.memorySlices⟩⟩
  · rintro (rfl | ⟨h, hslices⟩)
    · exact .inl rfl
    · exact .inr ⟨h.demands, h.free, h.slots, h.multiplicity, hslices.compute, hslices.memory⟩

lemma slicesAdmit_zero : SlicesAdmit s a profile 0 := ⟨fun _ ↦ by simp, fun _ ↦ by simp⟩

/-- What does not hold anything takes no slot, no instance and no other bound than slices. -/
lemma fitsBeyondSlices_congr (h : AgreeBusy a.id records s.partitions) {k : ℕ} :
    FitsBeyondSlices (s.withPartitions records) a ledger profile k ↔
      FitsBeyondSlices s a ledger profile k := by
  have hcap : ∀ same used, multiplicityCap (s.withPartitions records) a profile same used =
      multiplicityCap s a profile same used := fun _ _ ↦ rfl
  constructor
  · rintro ⟨hdemands, hfree, hslots, hmultiplicity⟩
    rw [slotsUsed_congr h] at hslots
    rw [hcap, slotsUsed_congr h, residentInstances_congr h] at hmultiplicity
    exact ⟨hdemands, hfree, hslots, hmultiplicity⟩
  · rintro ⟨hdemands, hfree, hslots, hmultiplicity⟩
    refine ⟨hdemands, hfree, ?_, ?_⟩
    · rwa [slotsUsed_congr h]
    · rwa [hcap, slotsUsed_congr h, residentInstances_congr h]

/-- The same number of instances has room exactly when the slices admit the same of the numbers
that everything else admits. -/
lemma roomFor_eq_iff (h : AgreeBusy a.id records s.partitions) :
    roomFor (s.withPartitions records) a ledger profile = roomFor s a ledger profile ↔
      ∀ k, FitsBeyondSlices s a ledger profile k →
        (SlicesAdmit (s.withPartitions records) a profile k ↔ SlicesAdmit s a profile k) := by
  have hle {k : ℕ} : k ≤ (roomFor (s.withPartitions records) a ledger profile).toNat ↔
      k = 0 ∨ FitsBeyondSlices s a ledger profile k ∧
        SlicesAdmit (s.withPartitions records) a profile k := by
    rw [le_roomFor_iff, fitsBeyondSlices_congr h]
  constructor
  · intro heq k hfits
    rcases Nat.eq_zero_or_pos k with rfl | hpos
    · exact iff_of_true slicesAdmit_zero slicesAdmit_zero
    · have hone := @hle k
      rw [heq, le_roomFor_iff] at hone
      simpa [hpos.ne', hfits] using hone.symm
  · intro hall
    refine UInt32.toNat_inj.mp (Nat.le_antisymm ?_ ?_)
    · refine le_roomFor_iff.mpr ((hle.mp (le_refl _)).imp_right fun hfits ↦ ?_)
      exact ⟨hfits.1, (hall _ hfits.1).mp hfits.2⟩
    · refine hle.mpr ((le_roomFor_iff.mp (le_refl _)).imp_right fun hfits ↦ ?_)
      exact ⟨hfits.1, (hall _ hfits.1).mpr hfits.2⟩

/-- Two analyses say the same about what fits now and about what stands in the way. -/
structure SameReport (r r' : FragmentationReport) : Prop where
  instances : r.maxInstancesNow = r'.maxInstancesNow
  feasible : r.feasibleNow = r'.feasibleNow
  slots : r.partitionSlotsFree = r'.partitionSlotsFree
  classification : r.classification = r'.classification

/-- A conflict shows, unless the slots are short and nothing has room. -/
lemma classify_conflict_iff {needed : ResourceVector} {instances instances' slots count : UInt32} :
    (0 = instances' ∧ false = decide (instances' ≥ count) ∧
        classify ledger needed true instances slots count =
          classify ledger needed false instances' slots count) ↔
      slots < count ∧ instances' = 0 := by
  have hobstacle := capacityObstacle_cases ledger needed
  constructor
  · rintro ⟨rfl, hfeasible, hclass⟩
    refine ⟨?_, rfl⟩
    by_contra hslots
    unfold classify at hclass
    rw [← hfeasible, if_neg hslots, if_neg hslots] at hclass
    rcases hobstacle with h | h | h <;> simp [h] at hclass
  · rintro ⟨hslots, rfl⟩
    have hcount : ¬ (0 : UInt32) ≥ count := fun h ↦ by
      have hle : count.toNat ≤ (0 : UInt32).toNat := h
      have hlt : slots.toNat < count.toNat := hslots
      exact absurd hlt (by rw [Nat.le_zero.mp hle]; exact Nat.not_lt_zero _)
    refine ⟨rfl, (decide_eq_false hcount).symm, ?_⟩
    unfold classify
    simp only [decide_eq_false hcount, if_pos hslots, Bool.not_true, Bool.false_and, Bool.and_false,
      Bool.false_eq_true, if_false]

lemma sameReport_iff {r r' : FragmentationReport} : SameReport r r' ↔
    r.partitionSlotsFree = r'.partitionSlotsFree ∧ r.maxInstancesNow = r'.maxInstancesNow ∧
      r.feasibleNow = r'.feasibleNow ∧ r.classification = r'.classification :=
  ⟨fun h ↦ ⟨h.slots, h.instances, h.feasible, h.classification⟩,
    fun ⟨hslots, hinstances, hfeasible, hclass⟩ ↦ ⟨hinstances, hfeasible, hslots, hclass⟩⟩

/-- What an analysis reports, as a function of whether a resident conflicts and of how many
instances have room: a change of either shows, unless a conflict stays, or a conflict comes or goes
where the slots are short and nothing has room. -/
lemma classify_agrees_iff {needed : ResourceVector} {conflict conflict' : Bool}
    {instances instances' slots count : UInt32} :
    ((if conflict then 0 else instances) = (if conflict' then 0 else instances') ∧
        (!conflict && decide (instances ≥ count)) = (!conflict' && decide (instances' ≥ count)) ∧
        classify ledger needed conflict instances slots count =
          classify ledger needed conflict' instances' slots count) ↔
      (conflict = conflict' ∧ (conflict = true ∨ instances = instances')) ∨
      (conflict ≠ conflict' ∧ slots < count ∧ (conflict = false → instances = 0) ∧
        (conflict' = false → instances' = 0)) := by
  cases conflict with
  | true =>
    cases conflict' with
    | true => simp [classify]
    | false =>
      have h := @classify_conflict_iff ledger needed instances instances' slots count
      simp only [if_true, Bool.false_eq_true, if_false, Bool.not_true, Bool.false_and,
        Bool.not_false, Bool.true_and, h]
      simp
  | false =>
    cases conflict' with
    | true =>
      have h := @classify_conflict_iff ledger needed instances' instances slots count
      rw [eq_comm (b := if true then _ else _), eq_comm (b := !true && _),
        eq_comm (b := classify ledger needed true _ _ _)]
      simp only [if_true, Bool.false_eq_true, if_false, Bool.not_true, Bool.false_and,
        Bool.not_false, Bool.true_and, h]
      simp
    | false =>
      simp only [Bool.false_eq_true, if_false, Bool.not_false, Bool.true_and, true_and, false_or,
        ne_eq, not_true_eq_false, false_and, or_false]
      exact ⟨fun h ↦ h.1, fun h ↦ h ▸ ⟨rfl, rfl, rfl⟩⟩

/-- Not one instance has room. -/
lemma roomFor_eq_zero : roomFor s a ledger profile = 0 ↔
    ¬(FitsBeyondSlices s a ledger profile 1 ∧ SlicesAdmit s a profile 1) := by
  have hone : 1 ≤ (roomFor s a ledger profile).toNat ↔
      FitsBeyondSlices s a ledger profile 1 ∧ SlicesAdmit s a profile 1 := by
    rw [le_roomFor_iff]
    exact or_iff_right one_ne_zero
  rw [← hone, not_le, Nat.lt_one_iff]
  exact ⟨fun h ↦ by rw [h]; rfl, fun h ↦ UInt32.toNat_inj.mp h⟩

/-- The records of two states bear alike on a request: the same profiles stand against its profile
and, unless they do, the slices admit the same numbers of instances; or the slots are short anyway
and not one instance has room where nothing stands against the profile. -/
def BearAlike (s' s : FabricState) (a : AcceleratorRecord) (ledger : CapacityLedger)
    (profile : PartitionProfile) (count : ℕ) : Prop :=
  (profileConflictsWithResident s' a.id profile = profileConflictsWithResident s a.id profile ∧
    (profileConflictsWithResident s' a.id profile = true ∨
      ∀ k, FitsBeyondSlices s a ledger profile k →
        (SlicesAdmit s' a profile k ↔ SlicesAdmit s a profile k))) ∨
  (profileConflictsWithResident s' a.id profile ≠ profileConflictsWithResident s a.id profile ∧
    a.capability.maxPartitionCount.toNat - (slotsUsed s a).toNat < count ∧
    (profileConflictsWithResident s' a.id profile = false →
      ¬(FitsBeyondSlices s a ledger profile 1 ∧ SlicesAdmit s' a profile 1)) ∧
    (profileConflictsWithResident s a.id profile = false →
      ¬(FitsBeyondSlices s a ledger profile 1 ∧ SlicesAdmit s a profile 1)))

/-- The analysis does not notice records that hold nothing exactly when it knows the profile and
can represent the demand only of requests on which the records bear alike. -/
theorem idle_unnoticed_iff (h : AgreeBusy a.id records s.partitions) :
    SameReport (analyzeFragmentation (s.withPartitions records) a ledger request)
        (analyzeFragmentation s a ledger request) ↔
      ∀ profile, s.findProfile request.profile = some profile → Representable profile request.count →
        BearAlike (s.withPartitions records) s a ledger profile request.count.toNat := by
  cases hprofile : s.findProfile request.profile with
  | none =>
    have hprofile' : (s.withPartitions records).findProfile request.profile = none := hprofile
    refine iff_of_true ?_ (fun _ hsome ↦ absurd hsome (Option.some_ne_none _).symm)
    unfold analyzeFragmentation
    simp only [hprofile, hprofile']
    exact ⟨rfl, rfl, rfl, rfl⟩
  | some profile =>
    have hprofile' : (s.withPartitions records).findProfile request.profile = some profile :=
      hprofile
    simp only [Option.some.injEq, forall_eq']
    cases hneeded : multiplyResource profile.resources request.count with
    | error e =>
      refine iff_of_true ?_ fun hrep ↦ ?_
      · unfold analyzeFragmentation
        simp only [hprofile, hprofile', hneeded]
        exact ⟨rfl, rfl, rfl, rfl⟩
      · exact absurd hrep (not_representable hneeded)
    | ok needed =>
      have hrepresentable : Representable profile request.count :=
        (multiplyResource_isOk_iff _ _).mp ⟨needed, hneeded⟩
      rw [forall_prop_of_true hrepresentable]
      have hnow (t : FabricState) (ht : t.findProfile request.profile = some profile) :=
        @analyzeFragmentation_now t a ledger request profile ht needed hneeded
      have hclassified (t : FabricState) (ht : t.findProfile request.profile = some profile) :=
        @analyzeFragmentation_class t a ledger request profile needed ht hneeded
      obtain ⟨hinstances, hfeasible⟩ := hnow _ hprofile
      obtain ⟨hinstances', hfeasible'⟩ := hnow _ hprofile'
      obtain ⟨hslots, hclass⟩ := hclassified _ hprofile
      obtain ⟨hslots', hclass'⟩ := hclassified _ hprofile'
      have hroom : room a.capability.maxPartitionCount (slotsUsed s a) < request.count ↔
          a.capability.maxPartitionCount.toNat - (slotsUsed s a).toNat < request.count.toNat := by
        rw [UInt32.lt_iff_toNat_lt, toNat_room]
      rw [slotsUsed_congr h] at hslots' hclass'
      rw [sameReport_iff, hslots, hslots', hinstances, hinstances', hfeasible, hfeasible', hclass,
        hclass', eq_self_iff_true, true_and, classify_agrees_iff, roomFor_eq_iff h,
        roomFor_eq_zero, roomFor_eq_zero, fitsBeyondSlices_congr h, hroom]
      rfl

end Agreement

namespace Sample

lemma agreeBusy_ineffective {device : BackendAccelerator}
    (h : ((ineffective device).findPartition 4).all (fun r ↦
      r.accelerator = 1 && !inLayout r) = true) :
    AgreeBusy 1 ((ineffective device).partitions.erase 4) (ineffective device).partitions := by
  refine agreeBusy_erase fun r hr ↦ ?_
  rw [show (ineffective device).findPartition 4 = some r from hr] at h
  simpa using h

end Sample

/-- The record of a creation that did not take effect still takes a slice of the device. -/
theorem idle_noticed : ¬ ∀ s records a ledger request, fabric.Reachable anyOp s →
    s.findAccelerator a.id = some a → s.findLedger a.id = some ledger →
    AgreeBusy a.id records s.partitions →
    SameReport (analyzeFragmentation (s.withPartitions records) a ledger request)
      (analyzeFragmentation s a ledger request) := by
  intro h
  let s := Sample.ineffective Sample.sliced
  let records := s.partitions.erase 4
  have hs : fabric.Reachable anyOp s := System.Reachable.run (.initial ⟨_, _, rfl⟩) (by decide)
  have hfound : (s.findAccelerator 1).any (fun a ↦ (s.findLedger 1).any fun ledger ↦ a.id = 1 &&
      (analyzeFragmentation (s.withPartitions records) a ledger Sample.slice).maxInstancesNow ≠
        (analyzeFragmentation s a ledger Sample.slice).maxInstancesNow) = true := by
    decide +kernel
  obtain ⟨a, ha, hfound⟩ := (Option.any_eq_true _ _).mp hfound
  obtain ⟨ledger, hledger, hfound⟩ := (Option.any_eq_true _ _).mp hfound
  rw [Bool.and_eq_true, decide_eq_true_eq, decide_eq_true_eq] at hfound
  obtain ⟨hid, hdiffers⟩ := hfound
  have hagree : AgreeBusy 1 ((Sample.ineffective Sample.sliced).partitions.erase 4)
      (Sample.ineffective Sample.sliced).partitions :=
    Sample.agreeBusy_ineffective (by decide +kernel)
  rw [← hid] at ha hledger hagree
  exact hdiffers (h s records a ledger Sample.slice hs ha hledger hagree).instances

/-- On a device that does not count slices the same record is not noticed. -/
theorem idle_unnoticed_unsliced : ∃ a ledger,
    (Sample.ineffective Sample.device).findAccelerator 1 = some a ∧
    (Sample.ineffective Sample.device).findLedger 1 = some ledger ∧
    SameReport
      (analyzeFragmentation ((Sample.ineffective Sample.device).withPartitions
        ((Sample.ineffective Sample.device).partitions.erase 4)) a ledger Sample.slice)
      (analyzeFragmentation (Sample.ineffective Sample.device) a ledger Sample.slice) := by
  let s := Sample.ineffective Sample.device
  let records := s.partitions.erase 4
  have hprofile : s.findProfile Sample.slice.profile = some Sample.profile := by decide +kernel
  have hconflict : profileConflictsWithResident (s.withPartitions records) 1 Sample.profile =
      profileConflictsWithResident s 1 Sample.profile := by decide +kernel
  have hfound : (s.findAccelerator 1).any (fun a ↦ (s.findLedger 1).isSome && a.id = 1 &&
      a.capability.totalComputeSlices = 0 && a.capability.totalMemorySlices = 0) = true := by
    decide +kernel
  obtain ⟨a, ha, hfound⟩ := (Option.any_eq_true _ _).mp hfound
  simp only [Bool.and_eq_true, decide_eq_true_eq] at hfound
  obtain ⟨⟨⟨hledger, hid⟩, hcompute⟩, hmemory⟩ := hfound
  obtain ⟨ledger, hledger⟩ := Option.isSome_iff_exists.mp hledger
  have hagree : AgreeBusy 1 ((Sample.ineffective Sample.device).partitions.erase 4)
      (Sample.ineffective Sample.device).partitions :=
    Sample.agreeBusy_ineffective (by decide +kernel)
  rw [← hid] at hagree hconflict
  refine ⟨a, ledger, ha, hledger, (idle_unnoticed_iff hagree).mpr fun profile hp _ ↦ ?_⟩
  obtain rfl := Option.some.inj (hprofile.symm.trans hp)
  have hadmits : ∀ s k, SlicesAdmit s a Sample.profile k := fun s k ↦
    ⟨fun hpositive ↦ by rw [hcompute] at hpositive; exact absurd hpositive (by decide),
      fun hpositive ↦ by rw [hmemory] at hpositive; exact absurd hpositive (by decide)⟩
  exact .inl ⟨hconflict, .inr fun k _ ↦ iff_of_true (hadmits _ k) (hadmits _ k)⟩

end PartitionFabric

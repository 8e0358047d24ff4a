import Mathlib.Algebra.Order.BigOperators.Group.List
import PartitionFabric.Synthetic.Calls

/-!
Capacity of the synthetic devices: what creations and reconfigurations add up, and that a device is
never oversubscribed as long as the sums are those of its partitions.
-/

namespace PartitionFabric

namespace SyntheticBackend

section Sums

variable {total sum : ResourceVector} {v : ResourceVector} {vs : List ResourceVector}

lemma amount_of_empty (h : total.empty = true) (d : ResourceDimension) : total.amount d = 0 := by
  apply ResourceVector.amount_of_not_has
  unfold ResourceVector.has
  rw [beq_iff_eq.mp h]
  cases d <;> rfl

lemma amount_default (d : ResourceDimension) : ({} : ResourceVector).amount d = 0 :=
  amount_of_empty rfl d

/-- A total that can be extended grows by the amounts of the vector. -/
lemma amount_extend (h : extend total v = some sum) (d : ResourceDimension) :
    sum.amount d = total.amount d + v.amount d := by
  unfold extend at h
  split at h
  · rename_i hempty
    cases h
    rw [amount_of_empty hempty, Nat.zero_add]
  · rcases hadd : ResourceVector.addAssign v total with ⟨w, e | u⟩
    · simp only [hadd] at h
      cases h
    · simp only [hadd] at h
      cases h
      obtain ⟨hmask, hfits, rfl⟩ := ResourceVector.addAssign_eq_ok.mp hadd
      exact ResourceVector.amount_plus hmask hfits d

/-- Vectors that add up add up in every dimension. -/
lemma amount_accumulate (h : accumulate total vs = some sum) (d : ResourceDimension) :
    sum.amount d = total.amount d + (vs.map (·.amount d)).sum := by
  unfold accumulate at h
  induction vs generalizing total with
  | nil =>
    cases h
    rfl
  | cons v rest ih =>
    rw [List.foldlM_cons] at h
    obtain ⟨next, hnext, hrest⟩ := Option.bind_eq_some_iff.mp h
    rw [ih hrest, amount_extend hnext, List.map_cons, List.sum_cons, Nat.add_assoc]

lemma amount_le_of_isSubsetOf (h : v.isSubsetOf total = true) (d : ResourceDimension) :
    v.amount d ≤ total.amount d := by
  cases hd : v.has d with
  | false =>
    rw [ResourceVector.amount_of_not_has hd]
    exact Nat.zero_le _
  | true =>
    obtain ⟨htotal, hle⟩ := ResourceVector.isSubsetOf_iff.mp h d hd
    rw [ResourceVector.amount_of_has hd, ResourceVector.amount_of_has htotal]
    exact UInt64.le_iff_toNat_le.mp hle

/-- Slice counts whose sum does not wrap around. -/
def Fitting (slices : List UInt32) : Prop := (slices.map UInt32.toNat).sum < 2 ^ 32

instance (slices : List UInt32) : Decidable (Fitting slices) :=
  inferInstanceAs (Decidable (_ < _))

lemma toNat_sliceSum {slices : List UInt32} (h : Fitting slices) :
    (sliceSum slices).toNat = (slices.map UInt32.toNat).sum := by
  have hfold : ∀ (l : List UInt32) (n : UInt32), n.toNat + (l.map UInt32.toNat).sum < 2 ^ 32 →
      (l.foldl (· + ·) n).toNat = n.toNat + (l.map UInt32.toNat).sum := by
    intro l
    induction l with
    | nil => exact fun n _ ↦ rfl
    | cons m rest ih =>
      intro n hn
      rw [List.map_cons, List.sum_cons] at hn ⊢
      have hadd : (n + m).toNat = n.toNat + m.toNat := by
        rw [UInt32.toNat_add]
        exact Nat.mod_eq_of_lt (by omega)
      rw [List.foldl_cons, ih (n + m) (by omega), hadd, Nat.add_assoc]
  unfold sliceSum
  rw [hfold slices 0 (by simpa [Fitting] using h)]
  simp

end Sums

section Gauges

/-- The quantities that a device bounds. -/
inductive Gauge where
  | capacity (d : ResourceDimension)
  | computeSlices
  | memorySlices

namespace Gauge

/-- What a partition takes of a quantity. -/
def taken : Gauge → Partition → ℕ
  | capacity d, partition => partition.resources.amount d
  | computeSlices, partition => partition.computeSlices.toNat
  | memorySlices, partition => partition.memorySlices.toNat

/-- What a partition of a profile takes of a quantity. -/
def asked : Gauge → SyntheticProfileSpec → ℕ
  | capacity d, profile => profile.resources.amount d
  | computeSlices, profile => profile.computeSlices.toNat
  | memorySlices, profile => profile.memorySlices.toNat

/-- What a device has of a quantity. -/
def bound : Gauge → SyntheticDeviceSpec → ℕ
  | capacity d, spec => spec.physicalTotals.amount d
  | computeSlices, spec => spec.totalComputeSlices.toNat
  | memorySlices, spec => spec.totalMemorySlices.toNat

end Gauge

/-- The partitions of a device take no more than the device has of any quantity. -/
def Device.Within (device : Device) : Prop :=
  ∀ gauge : Gauge, (device.partitions.map gauge.taken).sum ≤ gauge.bound device.spec

variable {device after : Device} {profiles : List SyntheticProfileSpec}

/-- Taking partitions away keeps a device within its bounds. -/
lemma Device.Within.of_sublist (h : device.Within)
    (hpartitions : after.partitions.Sublist device.partitions) (hspec : after.spec = device.spec) :
    after.Within := by
  intro gauge
  rw [hspec]
  exact ((hpartitions.map gauge.taken).sum_le_sum fun _ _ ↦ Nat.zero_le _).trans (h gauge)

lemma within_of_empty (h : device.partitions = []) : device.Within := by
  intro gauge
  rw [h]
  exact Nat.zero_le _

lemma taken_partitionOf (gauge : Gauge) (profile : SyntheticProfileSpec) (domain : Text) :
    gauge.taken (device.partitionOf profile domain) = gauge.asked profile := by
  cases gauge <;> rfl

/-- New partitions take what their profiles ask for. -/
lemma taken_addPartitions (gauge : Gauge) (profiles : List SyntheticProfileSpec)
    (device : Device) :
    ((device.addPartitions profiles).partitions.map gauge.taken).sum =
      (device.partitions.map gauge.taken).sum + (profiles.map gauge.asked).sum := by
  unfold Device.addPartitions
  induction profiles generalizing device with
  | nil => rfl
  | cons profile rest ih =>
    rw [List.foldl_cons, ih]
    unfold Device.addPartition Device.push
    simp only [List.map_append, List.map_cons, List.map_nil, List.sum_append, List.sum_cons,
      List.sum_nil, taken_partitionOf]
    omega

lemma length_addPartitions (profiles : List SyntheticProfileSpec) (device : Device) :
    (device.addPartitions profiles).partitions.length =
      device.partitions.length + profiles.length := by
  unfold Device.addPartitions
  induction profiles generalizing device with
  | nil => rfl
  | cons profile rest ih =>
    rw [List.foldl_cons, ih]
    unfold Device.addPartition Device.push
    simp only [List.length_append, List.length_cons, List.length_nil]
    omega

/-- Removals only take partitions away. -/
lemma removeAll_sublist (ids : List Text) (device : Device) :
    (ids.foldl Device.remove device).partitions.Sublist device.partitions := by
  induction ids generalizing device with
  | nil => exact .refl _
  | cons id rest ih =>
    rw [List.foldl_cons]
    exact (ih (device.remove id)).trans List.filter_sublist

end Gauges

section Admission

variable {device : Device} {desired : List NativePartitionSpec}
  {profiles : List SyntheticProfileSpec}

/-- The published profiles that a request asks for. -/
def Device.requested (device : Device) (desired : List NativePartitionSpec) :
    List SyntheticProfileSpec :=
  desired.filterMap fun spec ↦ device.findProfile spec.vendorNativeProfile

lemma publishedProfile_ok {spec : NativePartitionSpec} {profile : SyntheticProfileSpec}
    (h : device.publishedProfile spec = .ok profile) :
    device.findProfile spec.vendorNativeProfile = some profile := by
  unfold Device.publishedProfile at h
  split at h
  · cases h
    assumption
  · cases h

lemma mapM_publishedProfile (h : desired.mapM device.publishedProfile = .ok profiles) :
    profiles = device.requested desired ∧ profiles.length = desired.length := by
  induction desired generalizing profiles with
  | nil =>
    cases h
    exact ⟨rfl, rfl⟩
  | cons spec rest ih =>
    rw [List.mapM_cons] at h
    obtain ⟨profile, hprofile, hothers⟩ := result_bind_eq_ok.mp h
    obtain ⟨others, hrest, hresult⟩ := result_bind_eq_ok.mp hothers
    cases hresult
    obtain ⟨hrequested, hlength⟩ := ih hrest
    unfold Device.requested
    rw [List.filterMap_cons, publishedProfile_ok hprofile]
    exact ⟨congrArg (profile :: ·) hrequested, congrArg (· + 1) hlength⟩

lemma assembleTarget_ok {target assembled : ResourceVector}
    (h : device.assembleTarget target desired = .ok (assembled, profiles)) :
    accumulate target (profiles.map SyntheticProfileSpec.resources) = some assembled ∧
      profiles = device.requested desired ∧ profiles.length = desired.length := by
  induction desired generalizing target profiles with
  | nil =>
    cases h
    exact ⟨rfl, rfl, rfl⟩
  | cons spec rest ih =>
    unfold Device.assembleTarget at h
    obtain ⟨profile, hprofile, hassembled⟩ := result_bind_eq_ok.mp h
    cases hextend : extend target profile.resources with
    | none =>
      rw [hextend] at hassembled
      cases hassembled
    | some next =>
      simp only [hextend] at hassembled
      obtain ⟨result, hrest, hresult⟩ := result_bind_eq_ok.mp hassembled
      cases hresult
      obtain ⟨hsum, hrequested, hlength⟩ := ih hrest
      refine ⟨?_, ?_, congrArg (· + 1) hlength⟩
      · unfold accumulate at hsum ⊢
        rw [List.map_cons, List.foldlM_cons, hextend]
        exact hsum
      · unfold Device.requested
        rw [List.filterMap_cons, publishedProfile_ok hprofile]
        exact congrArg (profile :: ·) hrequested

/-- What a creation that is admitted has checked. -/
lemma admitCreate_ok (h : device.admitCreate desired = .ok profiles) :
    profiles = device.requested desired ∧
      device.partitions.length + profiles.length ≤ device.spec.maxPartitionCount.toNat ∧
      device.holdsSlices
        (device.partitions.map Partition.computeSlices ++
          profiles.map SyntheticProfileSpec.computeSlices)
        (device.partitions.map Partition.memorySlices ++
          profiles.map SyntheticProfileSpec.memorySlices) = true ∧
      ∃ used, accumulate device.usedCapacity (profiles.map SyntheticProfileSpec.resources) =
        some used ∧ used.isSubsetOf device.spec.physicalTotals = true := by
  unfold Device.admitCreate at h
  split at h
  · cases h
  split at h
  · cases h
  rename_i hcount
  obtain ⟨found, hfound, hchecks⟩ := result_bind_eq_ok.mp h
  obtain ⟨hrequested, hlength⟩ := mapM_publishedProfile hfound
  split at hchecks
  · cases hchecks
  rename_i hslices
  split at hchecks
  · cases hchecks
  rename_i used hused
  split at hchecks
  · cases hchecks
  rename_i hsubset
  cases hchecks
  refine ⟨hrequested, ?_, by simpa using hslices, used, hused, by simpa using hsubset⟩
  rw [hlength]
  omega

/-- What a reconfiguration that is admitted has checked. -/
lemma admitReconfigure_ok (h : device.admitReconfigure desired = .ok profiles) :
    profiles = device.requested desired ∧
      profiles.length ≤ device.spec.maxPartitionCount.toNat ∧
      device.holdsSlices (profiles.map SyntheticProfileSpec.computeSlices)
        (profiles.map SyntheticProfileSpec.memorySlices) = true ∧
      ∃ target, accumulate {} (profiles.map SyntheticProfileSpec.resources) = some target ∧
        target.isSubsetOf device.spec.physicalTotals = true := by
  unfold Device.admitReconfigure at h
  split at h
  · cases h
  split at h
  · cases h
  rename_i hcount
  obtain ⟨⟨target, found⟩, hassemble, hchecks⟩ := result_bind_eq_ok.mp h
  obtain ⟨hsum, hrequested, hlength⟩ := assembleTarget_ok hassemble
  simp only at hchecks
  split at hchecks
  · cases hchecks
  rename_i hslices
  split at hchecks
  · cases hchecks
  rename_i hsubset
  cases hchecks
  refine ⟨hrequested, ?_, by simpa using hslices, target, hsum, by simpa using hsubset⟩
  rw [hlength]
  omega

lemma holdsSlices_iff {compute memory : List UInt32} :
    device.holdsSlices compute memory = true ↔
      (sliceSum compute).toNat ≤ device.spec.totalComputeSlices.toNat ∧
        (sliceSum memory).toNat ≤ device.spec.totalMemorySlices.toNat := by
  simp only [Device.holdsSlices, Bool.not_eq_true', Bool.or_eq_false_iff, decide_eq_false_iff_not,
    gt_iff_lt, UInt32.lt_iff_toNat_lt, Nat.not_lt]

/-- The partitions of a device and those that are requested add up as they are. -/
structure Device.Adds (device : Device) (desired : List NativePartitionSpec) : Prop where
  capacity : (accumulate {} (device.partitions.map Partition.resources)).isSome = true
  computeSlices : Fitting (device.partitions.map Partition.computeSlices ++
    (device.requested desired).map SyntheticProfileSpec.computeSlices)
  memorySlices : Fitting (device.partitions.map Partition.memorySlices ++
    (device.requested desired).map SyntheticProfileSpec.memorySlices)

instance : Decidable (device.Adds desired) :=
  decidable_of_iff (_ ∧ _ ∧ _)
    ⟨fun h ↦ ⟨h.1, h.2.1, h.2.2⟩, fun h ↦ ⟨h.capacity, h.computeSlices, h.memorySlices⟩⟩

/-- A creation that is admitted fits on the device when the sums are those of the partitions. -/
lemma within_create (h : device.admitCreate desired = .ok profiles) (hadds : device.Adds desired) :
    (device.addPartitions profiles).Within := by
  obtain ⟨hrequested, -, hslices, used, hused, hsubset⟩ := admitCreate_ok h
  obtain ⟨hcompute, hmemory⟩ := holdsSlices_iff.mp hslices
  have hfitsCompute := hadds.computeSlices
  have hfitsMemory := hadds.memorySlices
  rw [← hrequested] at hfitsCompute hfitsMemory
  intro gauge
  rw [taken_addPartitions, spec_addPartitions]
  cases gauge with
  | capacity d =>
    obtain ⟨total, htotal⟩ := Option.isSome_iff_exists.mp hadds.capacity
    have hbefore := amount_accumulate htotal d
    unfold Device.usedCapacity at hused
    rw [htotal] at hused
    have hafter := amount_accumulate hused d
    rw [amount_default, Nat.zero_add, List.map_map] at hbefore
    rw [Option.getD_some, hbefore, List.map_map] at hafter
    exact hafter ▸ amount_le_of_isSubsetOf hsubset d
  | computeSlices =>
    rw [toNat_sliceSum hfitsCompute, List.map_append, List.sum_append, List.map_map,
      List.map_map] at hcompute
    exact hcompute
  | memorySlices =>
    rw [toNat_sliceSum hfitsMemory, List.map_append, List.sum_append, List.map_map,
      List.map_map] at hmemory
    exact hmemory

/-- A reconfiguration that is admitted fits on the device when the sums are those of its target. -/
lemma within_reconfigure (h : device.admitReconfigure desired = .ok profiles)
    (hadds : device.cleared.Adds desired) : (device.cleared.addPartitions profiles).Within := by
  obtain ⟨hrequested, -, hslices, target, htarget, hsubset⟩ := admitReconfigure_ok h
  obtain ⟨hcompute, hmemory⟩ := holdsSlices_iff.mp hslices
  have hfitsCompute := hadds.computeSlices
  have hfitsMemory := hadds.memorySlices
  have hsame : device.cleared.requested desired = profiles := by
    unfold Device.requested Device.findProfile
    rw [hrequested, cleared_spec]
    rfl
  rw [hsame, cleared_partitions, List.map_nil, List.nil_append] at hfitsCompute hfitsMemory
  intro gauge
  rw [taken_addPartitions, spec_addPartitions, cleared_partitions, cleared_spec, List.map_nil,
    List.sum_nil, Nat.zero_add]
  cases gauge with
  | capacity d =>
    have hsum := amount_accumulate htarget d
    rw [amount_default, Nat.zero_add, List.map_map] at hsum
    exact hsum ▸ amount_le_of_isSubsetOf hsubset d
  | computeSlices =>
    rw [toNat_sliceSum hfitsCompute, List.map_map] at hcompute
    exact hcompute
  | memorySlices =>
    rw [toNat_sliceSum hfitsMemory, List.map_map] at hmemory
    exact hmemory

end Admission

section Runs

variable {backend : SyntheticBackend} {call : Call} {kind : MutationKind} {nowMs : UInt64}
  {request : PartitionMutationRequest} {device : Device} {applied : Application} {key : Text}

/-- The backend answered a mutation request and accepted it. -/
def Call.accepted (call : Call) (backend : SyntheticBackend) : Bool :=
  match call.mutation? with
  | some (kind, nowMs, request) =>
    match (perform kind nowMs request backend).2 with
    | .ok result => result.accepted
    | .error _ => false
  | none => false

/-- A creation or a reconfiguration. -/
def Call.assembles : Call → Bool
  | .createPartitions _ _ => true
  | .reconfigureLayout _ _ => true
  | _ => false

/-- Partitions come from requests alone, and those that are applied add up as they are. -/
def adds (backend : SyntheticBackend) : Call → Prop
  | .createPartitions _ request => ∀ device ∈ backend.find request.stableKey,
      creation.reaches backend.faults request device = true →
      (device.admitCreate request.desired).isOk = true → device.Adds request.desired
  | .reconfigureLayout _ request => ∀ device ∈ backend.find request.stableKey,
      reconfiguration.reaches backend.faults request device = true →
      (device.admitReconfigure request.desired).isOk = true →
      device.cleared.Adds request.desired
  | .externalCreate _ _ => False
  | .importState _ => False
  | .restart => False
  | _ => True

instance (backend : SyntheticBackend) (call : Call) : Decidable (backend.adds call) := by
  unfold adds
  cases call <;> infer_instance

/-- What is done after a mutation was applied only takes partitions away. -/
lemma finish_sublist (hkind : kind.Lawful) (nowMs token : UInt64) (faults : SyntheticFaults)
    (applied : Application) :
    (kind.finish nowMs token faults applied).1.partitions.Sublist applied.1.partitions := by
  unfold MutationKind.finish
  simp only
  rw [(hkind.settled _).2, record_partitions]
  rcases partitions_observed applied.1 faults with hsame | hempty
  · rw [hsame]
  · rw [hempty]
    exact List.nil_sublist _

/-- The partitions that a mutation leaves are some of those that it asks for and of those that were
there. -/
lemma applied_length (hcall : call.mutation? = some (kind, nowMs, request))
    (happly : kind.apply backend.faults request device = .ok applied) :
    if call.assembles = true then
      applied.1.partitions.length ≤ device.spec.maxPartitionCount.toNat
    else applied.1.partitions.length ≤ device.partitions.length := by
  cases call with
  | createPartitions nowMs' request' =>
    simp only [Call.mutation?, Option.some.injEq, Prod.mk.injEq] at hcall
    obtain ⟨rfl, rfl, rfl⟩ := hcall
    rw [creation_apply] at happly
    obtain ⟨profiles, hadmitted, hdevice, -⟩ := applyCreate_ok happly
    obtain ⟨-, hcount, -⟩ := admitCreate_ok hadmitted
    simp only [Call.assembles, if_true]
    rcases hdevice with hdevice | hdevice
    · rw [hdevice, counted_partitions, length_addPartitions]
      exact hcount
    · rw [hdevice, cleared_partitions]
      exact Nat.zero_le _
  | destroyPartitions nowMs' request' =>
    simp only [Call.mutation?, Option.some.injEq, Prod.mk.injEq] at hcall
    obtain ⟨rfl, rfl, rfl⟩ := hcall
    rw [destruction_apply] at happly
    simp only [Call.assembles, Bool.false_eq_true, if_false]
    rw [(applyDestroy_ok happly).1, counted_partitions]
    exact (removeAll_sublist _ _).length_le
  | reconfigureLayout nowMs' request' =>
    simp only [Call.mutation?, Option.some.injEq, Prod.mk.injEq] at hcall
    obtain ⟨rfl, rfl, rfl⟩ := hcall
    rw [reconfiguration_apply] at happly
    obtain ⟨profiles, hadmitted, hdevice, -⟩ := applyReconfigure_ok happly
    obtain ⟨-, hcount, -⟩ := admitReconfigure_ok hadmitted
    simp only [Call.assembles, if_true]
    rcases hdevice with hdevice | hdevice
    · rw [hdevice, counted_partitions, length_addPartitions, cleared_partitions, List.length_nil,
        Nat.zero_add]
      exact hcount
    · rw [hdevice, cleared_partitions]
      exact Nat.zero_le _
  | _ => cases hcall

/-- A mutation that is applied leaves its device within its bounds. -/
lemma applied_within (hcall : call.mutation? = some (kind, nowMs, request))
    (hmeets : backend.adds call) (hfind : backend.find request.stableKey = some device)
    (hreaches : kind.reaches backend.faults request device = true)
    (happly : kind.apply backend.faults request device = .ok applied) (hwithin : device.Within) :
    applied.1.Within := by
  cases call with
  | createPartitions nowMs' request' =>
    simp only [Call.mutation?, Option.some.injEq, Prod.mk.injEq] at hcall
    obtain ⟨rfl, rfl, rfl⟩ := hcall
    rw [creation_apply] at happly
    obtain ⟨profiles, hadmitted, hdevice, -⟩ := applyCreate_ok happly
    have hadds := hmeets device hfind hreaches (by rw [hadmitted]; rfl)
    have hcreated := within_create hadmitted hadds
    rcases hdevice with hdevice | hdevice
    · rw [hdevice]
      exact hcreated.of_sublist (by rw [counted_partitions]) (counted_spec _)
    · rw [hdevice]
      exact within_of_empty (cleared_partitions _)
  | destroyPartitions nowMs' request' =>
    simp only [Call.mutation?, Option.some.injEq, Prod.mk.injEq] at hcall
    obtain ⟨rfl, rfl, rfl⟩ := hcall
    rw [destruction_apply] at happly
    rw [(applyDestroy_ok happly).1]
    apply hwithin.of_sublist
    · rw [counted_partitions]
      exact removeAll_sublist _ _
    · rw [counted_spec, spec_removeAll]
  | reconfigureLayout nowMs' request' =>
    simp only [Call.mutation?, Option.some.injEq, Prod.mk.injEq] at hcall
    obtain ⟨rfl, rfl, rfl⟩ := hcall
    rw [reconfiguration_apply] at happly
    obtain ⟨profiles, hadmitted, hdevice, -⟩ := applyReconfigure_ok happly
    have hadds := hmeets device hfind hreaches (by rw [hadmitted]; rfl)
    have hrebuilt := within_reconfigure hadmitted hadds
    rcases hdevice with hdevice | hdevice
    · rw [hdevice]
      exact hrebuilt.of_sublist (by rw [counted_partitions]) (counted_spec _)
    · rw [hdevice]
      exact within_of_empty (cleared_partitions _)
  | _ => cases hcall

/-- Every device is within its bounds. -/
def AllWithin (backend : SyntheticBackend) : Prop :=
  ∀ key device, backend.find key = some device → device.Within

lemma allWithin_step (hwithin : backend.AllWithin) (hmeets : backend.adds call) :
    (synthetic.step call backend).AllWithin := by
  intro key after hafter
  have hchange := step_change call backend key
  rw [hafter] at hchange
  generalize hbefore : backend.find key = before at hchange
  cases hchange with
  | kept => exact hwithin key after hbefore
  | added spec => exact within_of_empty rfl
  | republished profiles maxPartitionCount supported reason device =>
    intro gauge
    cases gauge <;> exact hwithin key device hbefore _
  | reset device => exact within_of_empty rfl
  | shown present device => exact hwithin key device hbefore
  | externallyCreated => exact hmeets.elim
  | externallyDestroyed nativeId device =>
    exact (hwithin key device hbefore).of_sublist List.filter_sublist (remove_spec _ _)
  | queried nowMs device =>
    rcases partitions_observed device backend.faults with hsame | hempty
    · exact (hwithin key device hbefore).of_sublist (by rw [hsame]) (spec_observed _ _)
    · exact within_of_empty hempty
  | mutated _ kind nowMs request device applied hcall hkey hreaches happly =>
    subst hkey
    have hkind := lawful_of_mutation hcall
    have happlied := applied_within hcall hmeets hbefore hreaches happly (hwithin _ _ hbefore)
    exact happlied.of_sublist (finish_sublist hkind _ _ _ _) (spec_finish hkind _ _ _ _)
  | imported => exact hmeets.elim
  | restarted => exact hmeets.elim

/-- No device is oversubscribed in any state of a run whose sums are those of the partitions. -/
theorem allWithin_of_reachable (h : synthetic.Reachable adds backend) : backend.AllWithin := by
  refine h.invariant (fun s hinitial ↦ ?_) fun s op hs hop ↦ allWithin_step hs hop
  cases hinitial
  intro key device hfind
  cases hfind

/-- A mutation that was accepted leaves its device within its capacity and its slices. A creation or
a reconfiguration that was applied leaves it within the partition count that it publishes; after
any other mutation, and after the repetition of one, there are no more partitions than before. -/
theorem accepted_within (hcall : call.mutation? = some (kind, nowMs, request))
    (haccepted : call.accepted backend = true) :
    ∃ device after, backend.find request.stableKey = some device ∧
      (synthetic.step call backend).find request.stableKey = some after ∧
      (if call.assembles = true ∧ device.replay request.idempotencyToken = none then
        after.partitions.length ≤ after.spec.maxPartitionCount.toNat
      else after.partitions.length ≤ device.partitions.length) ∧
      (synthetic.Reachable adds backend → backend.adds call → after.Within) := by
  have hstep : synthetic.step call backend = (perform kind nowMs request backend).1 := by
    cases call <;> cases hcall <;> rfl
  have hkind := lawful_of_mutation hcall
  rw [hstep]
  unfold Call.accepted at haccepted
  simp only [hcall] at haccepted
  rcases perform_cases kind nowMs request backend with
    ⟨hsame, hreplayed⟩ | ⟨device, applied, hfind, hreaches, happly, hperform⟩
  · cases hresult : (perform kind nowMs request backend).2 with
    | error e =>
      rw [hresult] at haccepted
      cases haccepted
    | ok result =>
      rw [hresult] at haccepted
      obtain ⟨device, hfind, hreplay⟩ := hreplayed result hresult haccepted
      rw [hsame]
      refine ⟨device, device, hfind, hfind, ?_, fun hreach _ ↦ ?_⟩
      · simp [hreplay]
      · exact allWithin_of_reachable hreach _ _ hfind
  · have hspec := hkind.spec happly
    have hfinish := spec_finish hkind nowMs request.idempotencyToken backend.faults applied
    refine ⟨device, (kind.finish nowMs request.idempotencyToken backend.faults applied).1, hfind,
      ?_, ?_, fun hreach hmeets ↦ ?_⟩
    · rw [hperform]
      simp only [find_write, hfinish, hspec, key_of_find hfind, if_true]
    · have hlength := applied_length hcall happly
      have hle := (finish_sublist hkind nowMs request.idempotencyToken backend.faults
        applied).length_le
      simp only [MutationKind.replay_of_reaches hreaches, and_true]
      rw [hfinish, hspec]
      split at hlength
      · rw [if_pos ‹_›]
        exact hle.trans hlength
      · rw [if_neg ‹_›]
        exact hle.trans hlength
    · have hwithin := allWithin_of_reachable hreach _ _ hfind
      have happlied := applied_within hcall hmeets hfind hreaches happly hwithin
      exact happlied.of_sublist (finish_sublist hkind _ _ _ _) hfinish

/-- The totals and the profiles that a call brings in are valid. -/
def Call.valid : Call → Bool
  | .addDevice spec =>
    spec.physicalTotals.validateDimensions.isOk &&
      spec.profiles.all (·.resources.validateDimensions.isOk)
  | .mutateCapability _ profiles _ _ _ => profiles.all (·.resources.validateDimensions.isOk)
  | _ => true

namespace Sample

def memory (bytes : UInt64) : ResourceVector :=
  ⟨fun d ↦ if d = .memoryBytes then bytes else 0, ResourceDimension.memoryBytes.bit⟩

/-- Memory and a share of its bandwidth. -/
def wide (bytes : UInt64) : ResourceVector :=
  ⟨fun d ↦ if d = .memoryBytes then bytes else 1,
    ResourceDimension.memoryBytes.bit ||| ResourceDimension.memoryBandwidthShare.bit⟩

/-- Eight bytes with a share of their bandwidth. -/
def board : SyntheticDeviceSpec :=
  { key := "a", physicalTotals := { (wide 8) with values := fun _ ↦ 8 },
    profiles := [{ name := "narrow", resources := memory 1 },
      { name := "wide", resources := wide 3 }] }

def create (names : List Text) : Call :=
  .createPartitions 0
    { stableKey := "a", desired := names.map fun name ↦ { vendorNativeProfile := name } }

def destroy (ids : List Text) : Call :=
  .destroyPartitions 0 { stableKey := "a", removeNativeIds := ids }

/-- Three partitions on a device that then publishes that it holds one. -/
def shrunk : List Call :=
  [.addDevice board, create ["narrow", "narrow", "narrow"],
    .mutateCapability "a" board.profiles 1 true []]

/-- The first partition has every dimension, and it is destroyed. -/
def mismatched : List Call :=
  [.addDevice board, create ["wide", "narrow", "wide"], destroy ["a#1"]]

end Sample

/-- Two creations and a destruction come before the creation of two more partitions. -/
theorem accepted_within_filled :
    let backend := synthetic.run [.addDevice Sample.board, Sample.create ["wide", "narrow"],
      Sample.create ["narrow"], Sample.destroy ["a#2"]] {}
    ∃ device after, backend.find "a" = some device ∧ device.partitions.length = 2 ∧
      (synthetic.step (Sample.create ["narrow", "wide"]) backend).find "a" = some after ∧
      after.partitions.length = 4 ∧
      after.partitions.length ≤ after.spec.maxPartitionCount.toNat ∧ after.Within := by
  intro backend
  have haccepted : (Sample.create ["narrow", "wide"]).accepted backend = true := by
    decide +kernel
  have hbefore : (backend.find "a").all (fun device ↦ device.partitions.length = 2 &&
      (device.replay 0).isNone) = true := by decide +kernel
  have hafter : ((synthetic.step (Sample.create ["narrow", "wide"]) backend).find "a").all
      (fun after ↦ after.partitions.length = 4) = true := by decide +kernel
  obtain ⟨device, after, hdevice, hfind, hcount, hwithin⟩ := accepted_within rfl haccepted
  replace hdevice : backend.find "a" = some device := hdevice
  replace hfind : (synthetic.step (Sample.create ["narrow", "wide"]) backend).find "a" =
    some after := hfind
  rw [hdevice, Option.all_some, Bool.and_eq_true, decide_eq_true_eq] at hbefore
  rw [hfind, Option.all_some, decide_eq_true_eq] at hafter
  rw [if_pos ⟨rfl, Option.isNone_iff_eq_none.mp hbefore.2⟩] at hcount
  refine ⟨device, after, hdevice, hbefore.1, hfind, hafter, hcount, hwithin ?_ (by decide +kernel)⟩
  exact System.Reachable.run (.initial rfl) (by decide +kernel)

/-- A destruction is accepted beyond the partition count that a device has come to publish. -/
theorem count_beyond_published : ¬ ∀ (calls : List Call) (call : Call) (key : Text),
    (∀ call ∈ calls, call.valid = true) → synthetic.Follows adds (calls ++ [call]) {} →
    call.accepted (synthetic.run calls {}) = true →
    ∀ after ∈ (synthetic.step call (synthetic.run calls {})).find key,
      after.partitions.length ≤ after.spec.maxPartitionCount.toNat := by
  intro h
  have hbound := h Sample.shrunk (Sample.destroy ["a#1"]) "a" (by decide +kernel)
    (by decide +kernel) (by decide +kernel)
  revert hbound
  decide +kernel

/-- Without the first partition's dimensions the capacity in use is forgotten: ten of eight bytes
are taken. -/
example :
    ((synthetic.run (Sample.mismatched ++ [Sample.create ["wide", "wide"]]) {}).find "a").map
      (fun device ↦ (device.partitions.map (Gauge.capacity .memoryBytes).taken).sum) =
        some 10 := by
  decide +kernel

end Runs

end SyntheticBackend

end PartitionFabric

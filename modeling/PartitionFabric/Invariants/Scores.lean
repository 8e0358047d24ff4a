import Mathlib.Tactic.Linarith
import PartitionFabric.Invariants.IdleRecords

/-!
The raw terms of the ranking: how large they can get for a candidate that serves a request now,
after a drain or after a reconfiguration.
-/

namespace PartitionFabric

section Waste

variable {v : ResourceVector}

/-- The amount of a dimension that counts as one unit of waste. -/
def wasteUnit (d : ResourceDimension) : ℕ := if d.isShareDimension then 10000 else 1073741824

/-- The waste of a full device: every byte and every share is free. -/
def fullWaste : ℕ := 2 ^ 34 - 1 + 700

/-- No share is larger than the whole device. -/
def ResourceVector.WithinShares (v : ResourceVector) : Prop :=
  ∀ d, d.isShareDimension = true → v.amount d ≤ shareScale.toNat

/-- Waste adds up the whole units in every dimension. -/
lemma capacityWasteUnits_eq (v : ResourceVector) : capacityWasteUnits v =
    ((ResourceDimension.all.map fun d ↦ v.amount d / wasteUnit d).sum : ℕ) := by
  have hfold : ∀ (ds : List ResourceDimension) (units : ℕ),
      ds.foldl (fun (units : ℤ) d ↦
        if !v.has d then units
        else if d.isShareDimension then units + ((v.get d).toNat / 10000 : ℕ)
        else units + ((v.get d).toNat / 1073741824 : ℕ)) (units : ℤ) =
      ((units + (ds.map fun d ↦ v.amount d / wasteUnit d).sum : ℕ) : ℤ) := by
    intro ds
    induction ds with
    | nil => intro units; simp
    | cons d rest ih =>
        intro units
        have hstep : (if !v.has d then (units : ℤ)
            else if d.isShareDimension then units + ((v.get d).toNat / 10000 : ℕ)
            else units + ((v.get d).toNat / 1073741824 : ℕ)) =
            ((units + v.amount d / wasteUnit d : ℕ) : ℤ) := by
          unfold wasteUnit
          cases hhas : v.has d with
          | false => simp [ResourceVector.amount_of_not_has hhas]
          | true =>
              cases d.isShareDimension <;> simp [ResourceVector.amount]
        rw [List.foldl_cons, hstep, ih, List.map_cons, List.sum_cons, Nat.add_assoc]
  have h := hfold ResourceDimension.all 0
  rw [Nat.zero_add] at h
  exact h

lemma capacityWasteUnits_nonneg (v : ResourceVector) : 0 ≤ capacityWasteUnits v := by
  rw [capacityWasteUnits_eq]
  exact Int.natCast_nonneg _

/-- The shares of a device make up at most seven times a hundred units. -/
lemma capacityWasteUnits_le (h : v.WithinShares) :
    capacityWasteUnits v ≤ (v.amount .memoryBytes / 2 ^ 30 + 700 : ℕ) := by
  have hshare (d : ResourceDimension) (hd : d.isShareDimension = true) :
      v.amount d ≤ 1000000 := h d hd
  rw [capacityWasteUnits_eq, Int.ofNat_le]
  have h₀ := hshare .computeShare rfl
  have h₂ := hshare .memoryBandwidthShare rfl
  have h₃ := hshare .executionEngineShare rfl
  have h₄ := hshare .copyEngineShare rfl
  have h₅ := hshare .mediaEngineShare rfl
  have h₆ := hshare .cacheShare rfl
  have h₇ := hshare .dmaShare rfl
  simp only [ResourceDimension.all, wasteUnit, ResourceDimension.isShareDimension,
    ResourceDimension.index, List.map_cons, List.map_nil, List.sum_cons, List.sum_nil]
  norm_num
  omega

lemma le_capacityWasteUnits (d : ResourceDimension) :
    ((v.amount d / wasteUnit d : ℕ) : ℤ) ≤ capacityWasteUnits v := by
  rw [capacityWasteUnits_eq, Int.ofNat_le]
  exact List.single_le_sum (fun _ _ ↦ Nat.zero_le _) _
    (List.mem_map_of_mem (ResourceDimension.mem_all d))

end Waste

section Remaining

variable {free projected needed : ResourceVector} {v out w : ResourceVector} {count : UInt32}

lemma multiplyResource_mul_lt (h : multiplyResource v count = .ok needed) (d : ResourceDimension) :
    count.toNat * v.amount d < 2 ^ 64 :=
  (multiplyResource_isOk_iff v count).mp ⟨needed, h⟩ d

lemma has_or_bit (v : ResourceVector) (d e : ResourceDimension) (value : UInt64) :
    ResourceVector.has ⟨Function.update v.values d value, v.mask ||| d.bit⟩ e =
      (v.has e || decide (e = d)) :=
  hasBit_or_bit _ _ _

lemma amount_update (v : ResourceVector) (d e : ResourceDimension) (value : UInt64) :
    ResourceVector.amount ⟨Function.update v.values d value, v.mask ||| d.bit⟩ e =
      if e = d then value.toNat else v.amount e := by
  unfold ResourceVector.amount ResourceVector.get
  rw [has_or_bit]
  by_cases he : e = d
  · subst he
    simp
  · simp [he]

/-- The demand of several instances is the multiple of the demand of one. -/
lemma multiplyResource_amount (h : multiplyResource v count = .ok needed) (d : ResourceDimension) :
    needed.amount d = count.toNat * v.amount d := by
  have hlt := multiplyResource_mul_lt h
  unfold multiplyResource at h
  split at h
  · rename_i hzero
    obtain rfl := Except.ok.inj h
    rw [hzero]
    simp [ResourceVector.amount, ResourceVector.get, ResourceVector.has, hasBit]
  · have hloop : ∀ (ds : List ResourceDimension) (out : ResourceVector), ds.Nodup →
        (∀ e ∈ ds, out.amount e = 0) →
        ds.foldlM (fun out d ↦
          if !v.has d then .ok out
          else if v.get d ≠ 0 && v.get d > uint64Max / count.toUInt64 then
            failure .overflow "requested demand overflows a resource dimension" d.toText
          else .ok
            { values := Function.update out.values d (v.get d * count.toUInt64)
              mask := out.mask ||| d.bit }) out = (.ok needed : Result ResourceVector) →
        needed.amount d = if d ∈ ds then count.toNat * v.amount d else out.amount d := by
      intro ds
      induction ds with
      | nil =>
          intro out _ _ hout
          obtain rfl := Except.ok.inj hout
          simp
      | cons e rest ih =>
          intro out hnodup hclear hout
          obtain ⟨hfresh, hrest⟩ := List.nodup_cons.mp hnodup
          have hclear' := fun e' he' ↦ hclear e' (List.mem_cons_of_mem _ he')
          rw [List.foldlM_cons] at hout
          cases hhas : v.has e with
          | false =>
              rw [hhas] at hout
              rw [ih out hrest hclear' hout]
              by_cases hd : d = e
              · subst hd
                rw [if_neg hfresh, hclear d List.mem_cons_self,
                  ResourceVector.amount_of_not_has hhas]
                simp
              · simp [hd]
          | true =>
              rw [hhas] at hout
              by_cases hover : (v.get e ≠ 0 && v.get e > uint64Max / count.toUInt64) = true
              · rw [if_neg (by simp), if_pos hover] at hout
                cases hout
              · rw [if_neg (by simp), if_neg hover] at hout
                have hmul : (v.get e * count.toUInt64).toNat = count.toNat * v.amount e := by
                  rw [UInt64.toNat_mul, UInt32.toNat_toUInt64, Nat.mul_comm]
                  exact Nat.mod_eq_of_lt (hlt e)
                rw [ih _ hrest (fun e' he' ↦ ?_) hout]
                · rw [amount_update, hmul]
                  by_cases hd : d = e
                  · subst hd
                    simp [hfresh]
                  · simp [hd]
                · rw [amount_update, if_neg (fun h : e' = e ↦ hfresh (h ▸ he'))]
                  exact hclear' e' he'
    rw [hloop _ _ ResourceDimension.all_nodup (fun e _ ↦ ?_) h]
    · rw [if_pos (ResourceDimension.mem_all d)]
    · simp [ResourceVector.amount, ResourceVector.get, ResourceVector.has, hasBit]

end Remaining

section Projection

variable {s : FabricState} {a : AcceleratorRecord} {request : PartitionRequest}
  {profile : PartitionProfile} {ledger : CapacityLedger}

lemma empty_amount (d : ResourceDimension) : ({} : ResourceVector).amount d = 0 := by
  simp [ResourceVector.amount, ResourceVector.get, ResourceVector.has, hasBit]

/-- What remains is what the request leaves of the free capacity, or nothing when the free
capacity does not carry the demand. -/
lemma projectedCapacity_cases (hledger : s.findLedger a.id = some ledger) :
    projectedCapacity s a request profile = {} ∨
      ∀ d, (projectedCapacity s a request profile).amount d +
        request.count.toNat * profile.resources.amount d = (ledger.bucket .free).amount d := by
  unfold projectedCapacity
  simp only [hledger]
  cases hneeded : multiplyResource profile.resources request.count with
  | error e => exact Or.inl rfl
  | ok needed =>
      simp only
      rcases hsub : ResourceVector.subAssign needed (ledger.bucket .free) with ⟨projected, e | u⟩
      · exact Or.inl rfl
      · obtain ⟨hmask, hle, rfl⟩ := ResourceVector.subAssign_eq_ok.mp hsub
        refine Or.inr fun d ↦ ?_
        rw [← multiplyResource_amount hneeded]
        exact ResourceVector.amount_minus hmask hle d

/-- A demand beyond the free capacity leaves nothing to project. -/
lemma projectedCapacity_of_lacking {needed : ResourceVector}
    (hledger : s.findLedger a.id = some ledger)
    (hneeded : multiplyResource profile.resources request.count = .ok needed)
    (hlacks : needed.isSubsetOf (ledger.bucket .free) = false) :
    projectedCapacity s a request profile = {} := by
  unfold projectedCapacity
  simp only [hledger, hneeded]
  rcases hsub : ResourceVector.subAssign needed (ledger.bucket .free) with ⟨projected, e | u⟩
  · rfl
  · obtain ⟨hmask, hle, -⟩ := ResourceVector.subAssign_eq_ok.mp hsub
    have hsubset : needed.isSubsetOf (ledger.bucket .free) = true :=
      ResourceVector.isSubsetOf_iff.mpr fun d hd ↦ ⟨hasBit_of_subset hmask hd, hle d hd⟩
    rw [hsubset] at hlacks
    cases hlacks

lemma projectedCapacity_withinShares (hledger : s.findLedger a.id = some ledger)
    (hfree : (ledger.bucket .free).WithinShares) :
    (projectedCapacity s a request profile).WithinShares := by
  intro d hd
  have hcases : projectedCapacity s a request profile = {} ∨ _ := projectedCapacity_cases hledger
  rcases hcases with h | h
  · rw [h, empty_amount]
    exact Nat.zero_le _
  · have hamount := h d
    have hbound := hfree d hd
    omega

/-- Whatever is requested is not wasted: a billion instances cost at least one unit of waste. -/
lemma projectedCapacity_waste (hledger : s.findLedger a.id = some ledger)
    (hfree : (ledger.bucket .free).WithinShares) (hdemands : Demanding profile) :
    capacityWasteUnits (projectedCapacity s a request profile) +
      ((request.count.toNat / 2 ^ 30 : ℕ) : ℤ) ≤ fullWaste := by
  have hcount := request.count.toNat_lt
  have hwithin : (projectedCapacity s a request profile).WithinShares :=
    projectedCapacity_withinShares hledger hfree
  have hwaste := capacityWasteUnits_le hwithin
  have hcases : projectedCapacity s a request profile = {} ∨ _ := projectedCapacity_cases hledger
  rcases hcases with h | h
  · rw [h, empty_amount] at hwaste
    rw [h]
    unfold fullWaste
    omega
  · obtain ⟨d, hd⟩ := hdemands
    have hleft := h d
    have hleast : request.count.toNat ≤ request.count.toNat * profile.resources.amount d :=
      Nat.le_mul_of_pos_right _ hd
    have hbytes := h .memoryBytes
    have hmax : (ledger.bucket .free).amount .memoryBytes < 2 ^ 64 := UInt64.toNat_lt _
    unfold fullWaste
    cases hshare : d.isShareDimension with
    | true =>
        have hbound : (ledger.bucket .free).amount d ≤ 1000000 := hfree d hshare
        omega
    | false =>
        have hmemory : d = .memoryBytes := by cases d <;> first | rfl | cases hshare
        subst hmemory
        omega

/-- Room for a billion instances leaves at least one unit of waste. -/
lemma instancesFitting_waste {pool per : ResourceVector} (hpool : pool.WithinShares) :
    (((instancesFitting pool per).toNat / 2 ^ 30 : ℕ) : ℤ) ≤ capacityWasteUnits pool := by
  rcases (le_instancesFitting pool per _).mp (Nat.le_refl (instancesFitting pool per).toNat)
    with h | ⟨-, ⟨d, hd⟩, hfits⟩
  · rw [h]
    exact capacityWasteUnits_nonneg pool
  · have hleast : (instancesFitting pool per).toNat ≤ pool.amount d :=
      (Nat.le_mul_of_pos_right _ hd).trans (hfits d)
    have hwaste := le_capacityWasteUnits (v := pool) d
    cases hshare : d.isShareDimension with
    | true =>
        have hbound : pool.amount d ≤ 1000000 := hpool d hshare
        have hnonneg := capacityWasteUnits_nonneg pool
        omega
    | false =>
        have hunit : wasteUnit d = 2 ^ 30 := by
          unfold wasteUnit
          rw [hshare]
          rfl
        rw [hunit] at hwaste
        omega

/-- Nothing fits an empty pool. -/
lemma instancesFitting_empty (per : ResourceVector) : instancesFitting {} per = 0 := by
  refine UInt32.toNat.inj ?_
  rcases (le_instancesFitting {} per _).mp (Nat.le_refl (instancesFitting {} per).toNat)
    with h | ⟨-, ⟨d, hd⟩, hfits⟩
  · exact h
  · have hnone := hfits d
    rw [empty_amount, Nat.le_zero, Nat.mul_eq_zero] at hnone
    exact hnone.resolve_right hd.ne'

end Projection

section Recovery

variable {s : FabricState} {a : AcceleratorRecord} {request : PartitionRequest}
  {profile : PartitionProfile} {ledger : CapacityLedger} {needed : ResourceVector}

/-- Draining what is held would cover the demand. -/
def drainHelps (ledger : CapacityLedger) (needed : ResourceVector) : Bool :=
  let first := ResourceVector.addAssign (ledger.bucket .draining) (ledger.bucket .free)
  let recovered := match first.2 with
    | .ok _ => ResourceVector.addAssign (ledger.bucket .reconfigurationHeld) first.1
    | .error _ => first
  recovered.2.isOk && needed.isSubsetOf recovered.1

/-- The analysis looks for what could be recovered. -/
def seeksRecovery (s : FabricState) (a : AcceleratorRecord) (ledger : CapacityLedger)
    (profile : PartitionProfile) (count : UInt32) (needed : ResourceVector) : Bool :=
  !(!profileConflictsWithResident s a.id profile && decide (roomFor s a ledger profile ≥ count)) &&
    !decide (room a.capability.maxPartitionCount (slotsUsed s a) < count) &&
    !profileConflictsWithResident s a.id profile && !needed.isSubsetOf (ledger.bucket .free)

lemma analyzeRecovery_recovers {report : FragmentationReport}
    (hfree : report.freeCapacity = ledger.bucket .free)
    (hhelp : report.reconfigurationCanHelp = false)
    (hlacks : needed.isSubsetOf (ledger.bucket .free) = false) :
    (analyzeRecovery ledger profile needed report).feasibleAfterDrain =
        drainHelps ledger needed ∧
      (analyzeRecovery ledger profile needed report).reconfigurationCanHelp =
        (!drainHelps ledger needed &&
          decide (capacityObstacle ledger needed = .trappedBehindActive)) := by
  have hdrain : (analyzeRecovery ledger profile needed report).feasibleAfterDrain =
      drainHelps ledger needed := by
    unfold analyzeRecovery drainHelps
    rw [hfree]
    rcases ResourceVector.addAssign (ledger.bucket .draining) (ledger.bucket .free) with
      ⟨first, e | u⟩ <;> simp only <;> split <;> rfl
  refine ⟨hdrain, ?_⟩
  rw [← hdrain]
  unfold analyzeRecovery capacityObstacle
  rw [hlacks, if_neg Bool.false_ne_true]
  simp only
  rcases ResourceVector.subAssign (ledger.bucket .unavailable) ledger.total with ⟨whole, e | u⟩
  · simp [hhelp, Except.isOk, Except.toBool]
  · by_cases hwhole : needed.isSubsetOf whole = true
    · simp [hwhole, Except.isOk, Except.toBool]
    · simp [hwhole, hhelp]

/-- What the analysis finds to be recoverable. -/
lemma analyzeFragmentation_recovers (hprofile : s.findProfile request.profile = some profile)
    (hneeded : multiplyResource profile.resources request.count = .ok needed) :
    (analyzeFragmentation s a ledger request).feasibleAfterDrain =
        (seeksRecovery s a ledger profile request.count needed && drainHelps ledger needed) ∧
      (analyzeFragmentation s a ledger request).reconfigurationCanHelp =
        (seeksRecovery s a ledger profile request.count needed && (!drainHelps ledger needed &&
          decide (capacityObstacle ledger needed = .trappedBehindActive))) := by
  unfold analyzeFragmentation
  simp only [hprofile, hneeded, apply_ite FragmentationReport.feasibleAfterDrain,
    apply_ite FragmentationReport.reconfigurationCanHelp, ite_self]
  unfold seeksRecovery roomFor slotsUsed
  generalize profileConflictsWithResident s a.id profile = conflict
  generalize sliceBound a.capability.totalMemorySlices _ _ _ = instances
  generalize room a.capability.maxPartitionCount _ = slots
  cases hfeasible : (!conflict && decide (instances ≥ request.count)) with
  | true => simp
  | false =>
      by_cases hslots : slots < request.count
      · simp [hslots]
      · cases conflict with
        | true => simp [hslots]
        | false =>
            cases hlacks : needed.isSubsetOf (ledger.bucket .free) with
            | true => simp [hslots]
            | false =>
                simp only [hslots, Bool.false_eq_true, if_false, decide_false, Bool.not_false,
                  Bool.true_and]
                exact analyzeRecovery_recovers rfl rfl hlacks

/-- Only the search for recoverable capacity finds a demand feasible after a disruption. -/
lemma seeksRecovery_of_recoverable (hprofile : s.findProfile request.profile = some profile)
    (h : (analyzeFragmentation s a ledger request).feasibleAfterDrain = true ∨
      (analyzeFragmentation s a ledger request).reconfigurationCanHelp = true) :
    ∃ needed, multiplyResource profile.resources request.count = .ok needed ∧
      seeksRecovery s a ledger profile request.count needed = true := by
  cases hneeded : multiplyResource profile.resources request.count with
  | error e =>
      unfold analyzeFragmentation at h
      simp only [hprofile, hneeded, Bool.false_eq_true, or_self] at h
  | ok needed =>
      refine ⟨needed, rfl, ?_⟩
      rw [(analyzeFragmentation_recovers hprofile hneeded).1,
        (analyzeFragmentation_recovers hprofile hneeded).2] at h
      simp only [Bool.and_eq_true] at h
      exact h.elim And.left And.left

/-- The partitions of a device that would have to be drained. -/
def drainable (s : FabricState) (a : AcceleratorRecord) : List PartitionId :=
  ((s.partitionsOf a.id).filter fun record ↦
    record.state = .active || record.state = .degraded).map PartitionRecord.id

/-- What the analysis estimates for a demand that the device could hold. -/
lemma analyzeFragmentation_estimates (hprofile : s.findProfile request.profile = some profile)
    (hneeded : multiplyResource profile.resources request.count = .ok needed)
    (hholds : (analyzeFragmentation s a ledger request).classification ≠ .exceedsDeviceCapacity) :
    (analyzeFragmentation s a ledger request).partitionsToDrain =
        (drainable s a).insertionSort (· ≤ ·) ∧
      (analyzeFragmentation s a ledger request).estimatedPartitionMutations =
        ((drainable s a).length + request.count.toNat).toUInt32 ∧
      (analyzeFragmentation s a ledger request).estimatedReconfigurationDowntimeMs =
        a.capability.reconfigurationEstimateMs := by
  have hshape : ∃ report estimated : FragmentationReport,
      analyzeFragmentation s a ledger request =
        (if report.classification = .exceedsDeviceCapacity then report else estimated) ∧
      estimated.partitionsToDrain = (drainable s a).insertionSort (· ≤ ·) ∧
      estimated.estimatedPartitionMutations =
        ((drainable s a).length + request.count.toNat).toUInt32 ∧
      estimated.estimatedReconfigurationDowntimeMs = a.capability.reconfigurationEstimateMs := by
    unfold analyzeFragmentation
    simp only [hprofile, hneeded]
    exact ⟨_, _, rfl, rfl, rfl, rfl⟩
  obtain ⟨report, estimated, heq, hestimates⟩ := hshape
  rw [heq] at hholds ⊢
  split at hholds
  · rename_i hexceeds
    exact absurd hexceeds hholds
  · rename_i hfits
    rw [if_neg hfits]
    exact hestimates

end Recovery

section Terms

variable {s : FabricState} {request : PartitionRequest} {profile : PartitionProfile}
  {now : UInt64} {a : AcceleratorRecord} {outcome : PlanOutcome}

/-- The raw terms of a device that serves the request with an outcome, in ranking order. -/
def rawTerms (s : FabricState) (request : PartitionRequest) (profile : PartitionProfile)
    (a : AcceleratorRecord) (outcome : PlanOutcome) : List ℤ :=
  (scoreTerms s a request profile (deviceReport s request a) outcome).map PlanScoreTerm.raw

/-- The longest downtime estimate, in whole seconds. -/
def longestDowntime : ℕ := (2 ^ 64 - 1) / 1000

/-- The raw terms that a candidate can have. -/
inductive Attainable : List ℤ → Prop
  | now {waste stranded count health locality optionality : ℤ}
      (hwaste : 0 ≤ waste ∧ waste + count / 2 ^ 30 ≤ fullWaste)
      (hstranded : 0 ≤ stranded ∧ stranded ≤ 1) (hcount : 1 ≤ count ∧ count < 2 ^ 32)
      (hhealth : 0 ≤ health ∧ health ≤ 4) (hlocality : locality = 0 ∨ locality = 1)
      (hoptionality : 0 ≤ optionality ∧ optionality < 2 ^ 32 ∧ optionality / 2 ^ 30 ≤ waste) :
      Attainable [waste, stranded, 0, 0, count, health, locality, -optionality, 0, 0]
  | drained {count health locality : ℤ} (hcount : 1 ≤ count ∧ count < 2 ^ 32)
      (hhealth : 0 ≤ health ∧ health ≤ 4) (hlocality : locality = 0 ∨ locality = 1) :
      Attainable [0, 0, 0, 1, count, health, locality, 0, 0, 0]
  | reconfigured {count estimate health locality downtime live : ℤ}
      (hcount : 1 ≤ count ∧ count < 2 ^ 32) (hestimate : 0 ≤ estimate ∧ estimate < 2 ^ 32)
      (hhealth : 0 ≤ health ∧ health ≤ 4)
      -- a partition that keeps the request local is not drained
      (hlocality : locality = 0 ∧ estimate = count ∨ locality = 1)
      (hdowntime : 0 ≤ downtime ∧ downtime ≤ longestDowntime) (hlive : live = 0 ∨ live = 1) :
      Attainable [0, 0, 1, 0, count + estimate, health, locality, 0, downtime, live]

lemma healthPenalty_bounds (h : HealthState) : 0 ≤ healthPenalty h ∧ healthPenalty h ≤ 4 := by
  cases h <;> decide

lemma ite_bounds (p : Prop) [Decidable p] :
    0 ≤ (if p then 1 else 0 : ℤ) ∧ (if p then 1 else 0 : ℤ) ≤ 1 := by
  split <;> decide

lemma count_bounds (hcount : request.count ≠ 0) :
    1 ≤ (request.count.toNat : ℤ) ∧ (request.count.toNat : ℤ) < 2 ^ 32 := by
  have hlt := request.count.toNat_lt
  have hne : request.count.toNat ≠ 0 := fun h ↦ hcount (UInt32.toNat.inj h)
  omega

/-- The instances that a scan over some profiles finds room for. -/
def optionalityOver (s : FabricState) (pool : ResourceVector) (ids : List PartitionProfileId)
    (best : UInt32) : UInt32 :=
  ids.foldl (fun best id ↦
    match s.findProfile id with
    | none => best
    | some candidate => max best (instancesFitting pool candidate.resources)) best

lemma optionalityOver_of {P : UInt32 → Prop} {pool : ResourceVector}
    (hfits : ∀ per, P (instancesFitting pool per)) (ids : List PartitionProfileId)
    {best : UInt32} (hbest : P best) : P (optionalityOver s pool ids best) := by
  unfold optionalityOver
  induction ids generalizing best with
  | nil => exact hbest
  | cons id rest ih =>
      rw [List.foldl_cons]
      refine ih ?_
      cases s.findProfile id with
      | none => exact hbest
      | some candidate =>
          change P (if best ≤ instancesFitting pool candidate.resources then
            instancesFitting pool candidate.resources else best)
          split
          · exact hfits candidate.resources
          · exact hbest

/-- A request that fits now leaves as much waste as its instances do not use. -/
lemma attainable_now (hprofile : s.findProfile request.profile = some profile)
    (hcount : request.count ≠ 0) {ledger : CapacityLedger}
    (hledger : s.findLedger a.id = some ledger) (hfree : (ledger.bucket .free).WithinShares)
    (hnow : (deviceReport s request a).feasibleNow = true) :
    Attainable (rawTerms s request profile a .feasibleNow) := by
  have hreport : deviceReport s request a = analyzeFragmentation s a ledger request := by
    rw [deviceReport, hledger, Option.getD_some]
  have hdemands : Demanding profile := by
    rw [hreport, feasibleNow_iff hprofile] at hnow
    exact (hnow.2.resolve_left fun h ↦ hcount (UInt32.toNat.inj h)).1
  have hwithin : (projectedCapacity s a request profile).WithinShares :=
    projectedCapacity_withinShares hledger hfree
  have hwaste : capacityWasteUnits (projectedCapacity s a request profile) +
      ((request.count.toNat / 2 ^ 30 : ℕ) : ℤ) ≤ fullWaste :=
    projectedCapacity_waste hledger hfree hdemands
  have hoptionality : (((optionalityOver s (projectedCapacity s a request profile)
      a.capability.supportedProfiles 0).toNat / 2 ^ 30 : ℕ) : ℤ) ≤
        capacityWasteUnits (projectedCapacity s a request profile) :=
    optionalityOver_of (P := fun n ↦ ((n.toNat / 2 ^ 30 : ℕ) : ℤ) ≤
        capacityWasteUnits (projectedCapacity s a request profile))
      (fun per ↦ instancesFitting_waste hwithin) _ (capacityWasteUnits_nonneg _)
  have hlt := (optionalityOver s (projectedCapacity s a request profile)
    a.capability.supportedProfiles 0).toNat_lt
  have hnonneg := capacityWasteUnits_nonneg (projectedCapacity s a request profile)
  unfold rawTerms scoreTerms
  simp only [List.map_cons, List.map_nil, reduceCtorEq, decide_false, Bool.false_eq_true, if_false,
    Bool.false_and, Int.add_zero]
  refine .now ⟨hnonneg, ?_⟩ (ite_bounds _) (count_bounds hcount) (healthPenalty_bounds _) ?_
    ⟨Int.natCast_nonneg _, ?_, ?_⟩
  · omega
  · split <;> simp
  · change ((optionalityOver s (projectedCapacity s a request profile)
      a.capability.supportedProfiles 0).toNat : ℤ) < 2 ^ 32
    omega
  · change ((optionalityOver s (projectedCapacity s a request profile)
      a.capability.supportedProfiles 0).toNat : ℤ) / 2 ^ 30 ≤ _
    exact_mod_cast hoptionality

/-- A demand beyond the free capacity ranks without waste, remainder or optionality. -/
lemma rawTerms_of_lacking (hproject : projectedCapacity s a request profile = {}) :
    rawTerms s request profile a outcome =
      [0, 0, if outcome = .feasibleAfterReconfiguration then 1 else 0,
        if outcome = .feasibleAfterDrain then 1 else 0,
        request.count.toNat + if outcome = .feasibleAfterReconfiguration then
          ((deviceReport s request a).estimatedPartitionMutations.toNat : ℤ) else 0,
        healthPenalty a.health.state,
        if request.selector.localityDomain.isEmpty && !a.locality.name.isEmpty &&
          (deviceReport s request a).partitionsToDrain.isEmpty &&
          decide (residentInstances s a.id request.profile > 0) then 0 else 1,
        0,
        if outcome = .feasibleAfterReconfiguration then
          ((deviceReport s request a).estimatedReconfigurationDowntimeMs.toNat / 1000 : ℕ) else 0,
        if outcome = .feasibleAfterReconfiguration &&
          a.capability.liveReconfigurationSupported then 1 else 0] := by
  have hoptionality : optionalityOver s {} a.capability.supportedProfiles 0 = 0 :=
    optionalityOver_of (P := fun n ↦ n = 0) instancesFitting_empty _ rfl
  unfold rawTerms scoreTerms
  rw [hproject]
  simp only [List.map_cons, List.map_nil, List.cons.injEq, and_true, true_and]
  refine ⟨rfl, rfl, ?_⟩
  change -((optionalityOver s {} a.capability.supportedProfiles 0).toNat : ℤ) = 0
  rw [hoptionality]
  rfl

/-- A device that can be helped by reconfiguration is estimated as the analysis finds it. -/
lemma deviceReport_estimates (hprofile : s.findProfile request.profile = some profile)
    {ledger : CapacityLedger} (hledger : s.findLedger a.id = some ledger)
    (hhelp : (deviceReport s request a).reconfigurationCanHelp = true) :
    (deviceReport s request a).partitionsToDrain = (drainable s a).insertionSort (· ≤ ·) ∧
      (deviceReport s request a).estimatedPartitionMutations =
        ((drainable s a).length + request.count.toNat).toUInt32 ∧
      (deviceReport s request a).estimatedReconfigurationDowntimeMs =
        a.capability.reconfigurationEstimateMs := by
  rw [deviceReport, hledger, Option.getD_some] at hhelp ⊢
  obtain ⟨needed, hneeded, hseeks⟩ := seeksRecovery_of_recoverable hprofile (Or.inr hhelp)
  refine analyzeFragmentation_estimates hprofile hneeded ?_
  rw [(analyzeFragmentation_recovers hprofile hneeded).2] at hhelp
  simp only [Bool.and_eq_true, decide_eq_true_eq] at hhelp
  rw [(analyzeFragmentation_class hprofile hneeded).2]
  unfold seeksRecovery at hseeks
  simp only [Bool.and_eq_true, Bool.not_eq_true', decide_eq_false_iff_not] at hseeks
  obtain ⟨⟨⟨hroom, hslots⟩, hconflict⟩, -⟩ := hseeks
  unfold classify
  rw [hroom, hconflict, if_neg Bool.false_ne_true, if_neg hslots, if_neg Bool.false_ne_true,
    hhelp.2.2]
  decide

/-- The recoverable capacity was not free. -/
lemma projectedCapacity_of_recoverable (hprofile : s.findProfile request.profile = some profile)
    {ledger : CapacityLedger} (hledger : s.findLedger a.id = some ledger)
    (h : (deviceReport s request a).feasibleAfterDrain = true ∨
      (deviceReport s request a).reconfigurationCanHelp = true) :
    projectedCapacity s a request profile = {} := by
  rw [deviceReport, hledger, Option.getD_some] at h
  obtain ⟨needed, hneeded, hseeks⟩ := seeksRecovery_of_recoverable hprofile h
  unfold seeksRecovery at hseeks
  rw [Bool.and_eq_true, Bool.not_eq_true'] at hseeks
  exact projectedCapacity_of_lacking hledger hneeded hseeks.2

lemma attainable_drained (hprofile : s.findProfile request.profile = some profile)
    (hcount : request.count ≠ 0) {ledger : CapacityLedger}
    (hledger : s.findLedger a.id = some ledger)
    (hdrain : (deviceReport s request a).feasibleAfterDrain = true) :
    Attainable (rawTerms s request profile a .feasibleAfterDrain) := by
  rw [rawTerms_of_lacking (projectedCapacity_of_recoverable hprofile hledger (Or.inl hdrain))]
  simp only [reduceCtorEq, decide_false, Bool.false_and, Bool.false_eq_true, if_false, if_true,
    Int.add_zero]
  refine .drained (count_bounds hcount) (healthPenalty_bounds _) ?_
  split <;> simp

lemma attainable_reconfigured (hprofile : s.findProfile request.profile = some profile)
    (hcount : request.count ≠ 0) {ledger : CapacityLedger}
    (hledger : s.findLedger a.id = some ledger)
    (hhelp : (deviceReport s request a).reconfigurationCanHelp = true) :
    Attainable (rawTerms s request profile a .feasibleAfterReconfiguration) := by
  obtain ⟨hdrain, hmutations, hdowntime⟩ := deviceReport_estimates hprofile hledger hhelp
  rw [rawTerms_of_lacking (projectedCapacity_of_recoverable hprofile hledger (Or.inr hhelp)),
    hdrain, hmutations, hdowntime]
  simp only [reduceCtorEq, decide_true, Bool.true_and, if_false, if_true]
  have hmax := a.capability.reconfigurationEstimateMs.toNat_lt
  have hlt := ((drainable s a).length + request.count.toNat).toUInt32.toNat_lt
  refine .reconfigured (count_bounds hcount) ⟨Int.natCast_nonneg _, by omega⟩
    (healthPenalty_bounds _) ?_ ⟨Int.natCast_nonneg _, ?_⟩ ?_
  · split
    · rename_i hlocal
      refine Or.inl ⟨rfl, ?_⟩
      simp only [Bool.and_eq_true] at hlocal
      have hnone : drainable s a = [] := by
        rw [← List.length_eq_zero_iff, ← List.length_insertionSort (· ≤ ·),
          List.length_eq_zero_iff]
        exact List.isEmpty_iff.mp hlocal.1.2
      rw [hnone, List.length_nil, Nat.zero_add, Nat.toUInt32_eq, UInt32.ofNat_toNat]
    · exact Or.inr rfl
  · unfold longestDowntime
    omega
  · split <;> simp

/-- The raw terms of a serving device are among those that can occur. -/
theorem attainable_of_serves (hprofile : s.findProfile request.profile = some profile)
    (hcount : request.count ≠ 0)
    (hfree : ∀ ledger, s.findLedger a.id = some ledger → (ledger.bucket .free).WithinShares)
    (h : ServedBy s request profile now a outcome) :
    Attainable (rawTerms s request profile a outcome) := by
  obtain ⟨ledger, hledger⟩ := Option.isSome_iff_exists.mp h.ledger
  have hpermitted := h.permitted
  unfold permittedOutcome at hpermitted
  split at hpermitted
  · rename_i hnow
    obtain rfl := (Prod.mk.inj hpermitted).1
    exact attainable_now hprofile hcount hledger (hfree ledger hledger) hnow
  · split at hpermitted
    · rename_i hdrain
      obtain rfl := (Prod.mk.inj hpermitted).1
      simp only [Bool.and_eq_true] at hdrain
      exact attainable_drained hprofile hcount hledger hdrain.1.1
    · split at hpermitted
      · rename_i hhelp
        obtain rfl := (Prod.mk.inj hpermitted).1
        simp only [Bool.and_eq_true] at hhelp
        exact attainable_reconfigured hprofile hcount hledger hhelp.1.1
      · cases (Prod.mk.inj hpermitted).2

end Terms

end PartitionFabric

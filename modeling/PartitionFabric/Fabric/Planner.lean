import Mathlib.Data.UInt
import PartitionFabric.Model.State

/-!
The planner: hard constraints, fragmentation analysis and the deterministic ranking of the
eligible accelerators, and the plan bound to the best of them.
-/

namespace PartitionFabric

/-- The largest 32-bit value. -/
def uint32Max : UInt32 := 0xFFFFFFFF

/-- Saturating difference of two counts. -/
def room (limit used : UInt32) : UInt32 := if limit > used then limit - used else 0

/-- Checked per-dimension multiplication; a demand may exceed the share scale. -/
def multiplyResource (value : ResourceVector) (count : UInt32) : Result ResourceVector :=
  if count = 0 then .ok {}
  else ResourceDimension.all.foldlM (fun out d ↦
    if !value.has d then .ok out
    else if value.get d ≠ 0 && value.get d > uint64Max / count.toUInt64 then
      failure .overflow "requested demand overflows a resource dimension" d.toText
    else .ok
      { values := Function.update out.values d (value.get d * count.toUInt64)
        mask := out.mask ||| d.bit }) {}

/-- The largest number of instances that a pool accommodates in each required dimension. -/
def instancesFittingLoop (pool perInstance : ResourceVector) :
    List ResourceDimension → UInt32 → Bool → UInt32
  | [], best, constrained => if constrained then best else 0
  | d :: rest, best, constrained =>
    if !perInstance.has d || perInstance.get d = 0 then
      instancesFittingLoop pool perInstance rest best constrained
    else if !pool.has d then 0
    else
      let fits := pool.get d / perInstance.get d
      if fits > uint32Max.toUInt64 then instancesFittingLoop pool perInstance rest best true
      else instancesFittingLoop pool perInstance rest (min best fits.toUInt32) true

def instancesFitting (pool perInstance : ResourceVector) : UInt32 :=
  instancesFittingLoop pool perInstance ResourceDimension.all uint32Max false

/-- Remaining capacity in whole GiB and whole percent. -/
def capacityWasteUnits (free : ResourceVector) : ℤ :=
  ResourceDimension.all.foldl (fun units d ↦
    if !free.has d then units
    else if d.isShareDimension then units + ((free.get d).toNat / 10000 : ℕ)
    else units + ((free.get d).toNat / 1073741824 : ℕ)) 0

def healthPenalty : HealthState → ℤ
  | .healthy => 0
  | .recovering => 1
  | .degraded => 2
  | .unknown => 3
  | .unhealthy => 4

def outcomeForClassification : FragmentationClass → PlanOutcome
  | .none => .feasibleNow
  | .profileShape | .sliceNotContiguous | .engineGroup | .memorySegment
  | .incompatibleCombination | .strandedCapacity => .fragmented
  | .maxPartitionCount => .maxPartitionCountReached
  | .trappedBehindActive => .insufficientCapacity
  | .reconfigurationRequired | .exceedsDeviceCapacity => .physicallyImpossible

/-- Severity order of the headline failure; lower is reported first. -/
def failureSeverity : PlanOutcome → ℕ
  | .invalidRequest => 0
  | .limitExceeded => 1
  | .duplicateRequest => 2
  | .capabilityUnsupported => 3
  | .capabilityUnknown => 4
  | .policyRejected => 5
  | .isolationUnsatisfied => 6
  | .staleEvidence => 7
  | .revalidationRequired => 8
  | .maxPartitionCountReached => 9
  | .fragmented => 10
  | .insufficientCapacity => 11
  | .physicallyImpossible => 12
  | .noEligibleAccelerator => 13
  | _ => 14

def profileConflictsWithResident (s : FabricState) (accelerator : AcceleratorId)
    (profile : PartitionProfile) : Bool :=
  (s.partitionsOf accelerator).any fun record ↦
    !isTerminalState record.state && record.profile ≠ profile.id &&
      (s.findProfile record.profile).any profile.conflictsWith

def residentInstances (s : FabricState) (accelerator : AcceleratorId)
    (profile : PartitionProfileId) : UInt32 :=
  ((s.partitionsOf accelerator).countP fun record ↦
    record.profile = profile && !isTerminalState record.state &&
      record.state ≠ .unpartitioned).toUInt32

def usedSlices (s : FabricState) (accelerator : AcceleratorId) (compute : Bool) : UInt32 :=
  (s.partitionsOf accelerator).foldl (fun total record ↦
    if isTerminalState record.state then total
    else match s.findProfile record.profile with
      | none => total
      | some profile =>
        total + (if compute then profile.computeSliceCount else profile.memorySliceCount)) 0

/-- Whether some supported profile can be formed from a pool of capacity. -/
def anyProfileFits (s : FabricState) (accelerator : AcceleratorRecord) (slotsFree : UInt32)
    (pool : ResourceVector) : Bool :=
  slotsFree ≠ 0 && accelerator.capability.supportedProfiles.any fun id ↦
    (s.findProfile id).any fun profile ↦
      profile.resources.isSubsetOf pool &&
        !profileConflictsWithResident s accelerator.id profile

/-- The states in which a partition occupies a slot of its device. -/
def slotStates : List PartitionState :=
  [.reserved, .creating, .active, .draining, .reconfigurationRequired, .degraded,
    .revalidationRequired, .destroying, .offline]

/-- Sets the published dimensions to the sum of some buckets and counts the sums that are not
representable. -/
def bucketTotals (ledger : CapacityLedger) (buckets : List CapacityBucket)
    (present : ResourceDimension → Bool) : ResourceVector × ℕ :=
  ResourceDimension.all.foldl (fun (v, failures) d ↦
    if !ledger.total.has d || !present d then (v, failures)
    else match v.set d ((buckets.map fun b ↦ (ledger.bucket b).get d).sum) with
      | .ok v => (v, failures)
      | .error _ => (v, failures + 1)) ({}, 0)

/-- The number of further instances that multiplicity limits allow, with its blockers. -/
def multiplicityCap (s : FabricState) (accelerator : AcceleratorRecord)
    (profile : PartitionProfile) (sameProfile usedPartitions : UInt32) : UInt32 × List Text :=
  let cap := if profile.maxMultiplicity > 0 then room profile.maxMultiplicity sameProfile
    else uint32Max
  let (cap, blockers) := match accelerator.capability.findRule profile.id with
    | none => (cap, [])
    | some rule =>
      let cap := if rule.maxInstances > 0 then min cap (room rule.maxInstances sameProfile) else cap
      if rule.requiresExclusiveDevice && usedPartitions > 0 then
        (0, [("profile-requires-exclusive-device" : Text)])
      else (cap, [])
  let cap := if s.policy.maxInstancesPerProfile > 0 then
    min cap (room s.policy.maxInstancesPerProfile sameProfile) else cap
  (cap, blockers)

/-- Bounds an instance count by the free slices of one kind, when the device publishes them. -/
def sliceBound (total used perInstance : UInt32) (count : UInt32) : UInt32 :=
  if total > 0 && perInstance > 0 then min count (room total used / perInstance) else count

/-- What drain or reconfiguration could recover for a demand that exceeds the free capacity. -/
def analyzeRecovery (ledger : CapacityLedger) (profile : PartitionProfile)
    (needed : ResourceVector) (report : FragmentationReport) : FragmentationReport :=
  let first := ResourceVector.addAssign (ledger.bucket .draining) report.freeCapacity
  let recovered := match first.2 with
    | .ok _ => ResourceVector.addAssign (ledger.bucket .reconfigurationHeld) first.1
    | .error _ => first
  let drainHelps := recovered.2.isOk && needed.isSubsetOf recovered.1
  let report := { report with
    feasibleAfterDrain := drainHelps
    maxInstancesAfterDrain :=
      min (instancesFitting recovered.1 profile.resources) report.partitionSlotsFree }
  let whole := ResourceVector.subAssign (ledger.bucket .unavailable) ledger.total
  if whole.2.isOk && needed.isSubsetOf whole.1 then
    { report with
      destructiveReconfigurationRequired := true
      reconfigurationRequired := true
      reconfigurationCanHelp := !drainHelps
      classification := .trappedBehindActive }
  else { report with classification := .exceedsDeviceCapacity }

/-- Fragmentation analysis for one accelerator and one request. -/
def analyzeFragmentation (s : FabricState) (accelerator : AcceleratorRecord)
    (ledger : CapacityLedger) (request : PartitionRequest) : FragmentationReport :=
  let report : FragmentationReport :=
    { accelerator := accelerator.id
      acceleratorGeneration := accelerator.generation
      capabilityGeneration := accelerator.capability.generation
      profile := request.profile
      requestedCount := request.count
      freeCapacity := ledger.bucket .free }
  match s.findProfile request.profile with
  | none => { report with classification := .profileShape, blockers := ["profile-unknown"] }
  | some profile =>
    let (committed, overflows) := bucketTotals ledger
      [.active, .draining, .reconfigurationHeld] fun _ ↦ true
    let report := { report with
      profileSupported := accelerator.capability.supportsProfile profile.id
      capacityTrappedBehindActive := committed
      blockers := List.replicate overflows "committed-capacity-overflow" }
    match multiplyResource profile.resources request.count with
    | .error _ =>
      { report with
        classification := .profileShape
        blockers := report.blockers ++ [("request-magnitude-overflow" : Text)] }
    | .ok needed =>
      let used := (s.countPartitionsInStates accelerator.id slotStates).toUInt32
      let slotsFree := room accelerator.capability.maxPartitionCount used
      let same := residentInstances s accelerator.id profile.id
      let (cap, capBlockers) := multiplicityCap s accelerator profile same used
      let conflict := profileConflictsWithResident s accelerator.id profile
      let byCapacity := min (min (instancesFitting report.freeCapacity profile.resources)
        slotsFree) cap
      let byCapacity := sliceBound accelerator.capability.totalComputeSlices
        (usedSlices s accelerator.id true) profile.computeSliceCount byCapacity
      let byCapacity := sliceBound accelerator.capability.totalMemorySlices
        (usedSlices s accelerator.id false) profile.memorySliceCount byCapacity
      let aggregateOk := needed.isSubsetOf report.freeCapacity
      let report := { report with
        partitionSlotsFree := slotsFree
        maxInstancesNow := if conflict then 0 else byCapacity
        aggregateCapacitySufficient := aggregateOk
        feasibleNow := !conflict && byCapacity ≥ request.count
        blockers := report.blockers ++ capBlockers ++
          (if conflict then [("incompatible-profile-combination" : Text)] else []) }
      let report :=
        if report.feasibleNow then { report with classification := .none }
        else if slotsFree < request.count then
          { report with classification := .maxPartitionCount }
        else if conflict then { report with classification := .incompatibleCombination }
        else if aggregateOk then { report with classification := .profileShape }
        else analyzeRecovery ledger profile needed report
      if report.classification = .exceedsDeviceCapacity then report
      else
        let stranded := !report.freeCapacity.empty &&
          !anyProfileFits s accelerator slotsFree report.freeCapacity
        let (recoverable, failures) := bucketTotals ledger [.active, .draining] fun d ↦
          (ledger.bucket .active).has d || (ledger.bucket .draining).has d
        let toDrain := ((s.partitionsOf accelerator.id).filter fun record ↦
          record.state = .active || record.state = .degraded).map PartitionRecord.id
        { report with
          strandedCapacity := if stranded then report.freeCapacity else {}
          classification :=
            if stranded && !report.feasibleNow && report.classification = .none then
              .strandedCapacity
            else report.classification
          capacityRecoverableByReconfiguration := if failures = 0 then recoverable else {}
          blockingActivePartitions :=
            (s.countPartitionsInStates accelerator.id [.active, .draining]).toUInt32
          partitionsToDrain := toDrain.insertionSort (· ≤ ·)
          estimatedDrainMs := accelerator.capability.drainEstimateMs
          estimatedReconfigurationDowntimeMs := accelerator.capability.reconfigurationEstimateMs
          estimatedPartitionMutations := (toDrain.length + request.count.toNat).toUInt32 }

/-- The first hard constraint that an accelerator fails, apart from its capacity. -/
def hardRejection (s : FabricState) (request : PartitionRequest) (profile : PartitionProfile)
    (accelerator : AcceleratorRecord) (now : UInt64) : Option PlanOutcome :=
  let needFresh := s.policy.requireFreshEvidence || request.maxEvidenceAgeMs ≠ 0
  if !request.selector.admits accelerator.id then some .policyRejected
  else if !request.selector.backend.isEmpty && request.selector.backend ≠ accelerator.backend then
    some .policyRejected
  else if !request.selector.vendor.isEmpty &&
      request.selector.vendor ≠ accelerator.identifiers.vendor then
    some .policyRejected
  else if !request.selector.deviceFamily.isEmpty &&
      request.selector.deviceFamily ≠ accelerator.identifiers.model then
    some .policyRejected
  else if !request.selector.localityDomain.isEmpty &&
      request.selector.localityDomain ≠ accelerator.locality.name then
    some .policyRejected
  else if !accelerator.evidence.isObserved then some .revalidationRequired
  else if needFresh && !accelerator.evidence.isFreshAt now then some .staleEvidence
  else if !accelerator.isGovernableAt now needFresh then some .policyRejected
  else if accelerator.capability.support = .unknown ||
      !known accelerator.capability.generation then
    some .capabilityUnknown
  else if !accelerator.capability.declaresSupported then some .capabilityUnsupported
  else if !accelerator.capability.supportsProfile request.profile then some .capabilityUnsupported
  else if !profile.backend.isEmpty && profile.backend ≠ accelerator.backend then
    some .policyRejected
  else if !request.isolation.required.isSubsetOf accelerator.capability.isolation then
    some .isolationUnsatisfied
  else if s.policy.requireHealthyDevice && accelerator.health.stamp.isObserved &&
      accelerator.health.usableAt now && accelerator.health.state ≠ .healthy then
    some .policyRejected
  else none

/-- The outcome of an accelerator that could satisfy the request now, after drain or after
reconfiguration; it stays eligible when policy and request permit the disruption. -/
def permittedOutcome (s : FabricState) (request : PartitionRequest)
    (report : FragmentationReport) : PlanOutcome × Bool :=
  if report.feasibleNow then (.feasibleNow, true)
  else if report.feasibleAfterDrain && s.policy.allowDrain && request.allowDrain then
    (.feasibleAfterDrain, true)
  else if report.reconfigurationCanHelp && s.policy.allowDestructiveReconfiguration &&
      request.allowDestructiveReconfiguration then
    (.feasibleAfterReconfiguration, true)
  else (.policyRejected, false)

/-- The free capacity that would remain after serving the request. -/
def projectedCapacity (s : FabricState) (accelerator : AcceleratorRecord)
    (request : PartitionRequest) (profile : PartitionProfile) : ResourceVector :=
  let free := match s.findLedger accelerator.id with
    | some ledger => ledger.bucket .free
    | none => {}
  match multiplyResource profile.resources request.count with
  | .error _ => {}
  | .ok needed =>
    match ResourceVector.subAssign needed free with
    | (projected, .ok _) => projected
    | (_, .error _) => {}

/-- The ranking terms of an eligible candidate. -/
def scoreTerms (s : FabricState) (accelerator : AcceleratorRecord) (request : PartitionRequest)
    (profile : PartitionProfile) (report : FragmentationReport) (outcome : PlanOutcome) :
    List PlanScoreTerm :=
  let weights := s.policy.weights
  let projected := projectedCapacity s accelerator request profile
  let strandedAfter := !projected.empty && !anyProfileFits s accelerator
    (room report.partitionSlotsFree request.count) projected
  let optionality := accelerator.capability.supportedProfiles.foldl (fun best id ↦
    match s.findProfile id with
    | none => best
    | some candidate => max best (instancesFitting projected candidate.resources)) 0
  let consolidateLocality := request.selector.localityDomain.isEmpty &&
    !accelerator.locality.name.isEmpty && report.partitionsToDrain.isEmpty &&
    residentInstances s accelerator.id request.profile > 0
  let destructive := outcome = .feasibleAfterReconfiguration
  let mutations : ℤ := request.count.toNat +
    (if destructive then (report.estimatedPartitionMutations.toNat : ℤ) else 0)
  let term (subject : Text) (weight raw : ℤ) : PlanScoreTerm :=
    ⟨subject, weight, raw, weight * raw⟩
  [term "capacity_waste" weights.capacityWaste (capacityWasteUnits projected),
    term "stranded_remainder" weights.fragmentation (if strandedAfter then 1 else 0),
    term "destructive_reconfiguration" weights.destructiveReconfiguration
      (if destructive then 1 else 0),
    term "drain" weights.drain (if outcome = .feasibleAfterDrain then 1 else 0),
    term "mutation_count" weights.mutationCount mutations,
    term "health" weights.health (healthPenalty accelerator.health.state),
    term "locality" weights.locality (if consolidateLocality then 0 else 1),
    term "future_optionality" weights.futureOptionality (-(optionality.toNat : ℤ)),
    term "reconfiguration_cost" weights.reconfigurationCost
      (if destructive then (report.estimatedReconfigurationDowntimeMs.toNat / 1000 : ℕ) else 0),
    term "live_reconfiguration" weights.liveReconfigurationBonus
      (if destructive && accelerator.capability.liveReconfigurationSupported then 1 else 0)]

/-- Evaluates one accelerator: hard constraints first, ranking only for the eligible. -/
def evaluateCandidate (s : FabricState) (request : PartitionRequest) (profile : PartitionProfile)
    (now : UInt64) (accelerator : AcceleratorRecord) : CandidateEvaluation :=
  let rejected (outcome : PlanOutcome) : CandidateEvaluation :=
    { accelerator := accelerator.id
      acceleratorGeneration := accelerator.generation
      outcome := outcome
      fragmentation :=
        { accelerator := accelerator.id
          acceleratorGeneration := accelerator.generation
          profile := request.profile
          requestedCount := request.count } }
  match hardRejection s request profile accelerator now with
  | some outcome => rejected outcome
  | none =>
    match s.findLedger accelerator.id with
    | none => rejected .revalidationRequired
    | some ledger =>
      let report := analyzeFragmentation s accelerator ledger request
      let candidate : CandidateEvaluation :=
        { accelerator := accelerator.id
          acceleratorGeneration := accelerator.generation
          fragmentation := report }
      if report.feasibleNow || report.feasibleAfterDrain || report.reconfigurationCanHelp ||
          report.feasibleAfterReconfiguration then
        let (outcome, eligible) := permittedOutcome s request report
        if eligible then
          let terms := scoreTerms s accelerator request profile report outcome
          { candidate with
            eligible := true
            outcome := outcome
            score := ⟨(terms.map PlanScoreTerm.contribution).sum, terms⟩ }
        else { candidate with outcome := outcome }
      else { candidate with outcome := outcomeForClassification report.classification }

/-- The eligible candidate with the smallest score; the first of equals wins. -/
def bestEligible (candidates : List CandidateEvaluation) : Option CandidateEvaluation :=
  candidates.foldl (fun best candidate ↦
    if !candidate.eligible then best
    else match best with
      | none => some candidate
      | some b => if candidate.score.total < b.score.total then some candidate else some b) none

/-- The headline failure when no candidate is eligible. -/
def bestFailure (candidates : List CandidateEvaluation) : PlanOutcome :=
  (candidates.foldl (fun (best : Option (ℕ × PlanOutcome)) candidate ↦
    if candidate.eligible then best
    else
      let severity := failureSeverity candidate.outcome
      match best with
      | none => some (severity, candidate.outcome)
      | some b => if severity < b.1 then some (severity, candidate.outcome) else best) none).elim
    .noEligibleAccelerator Prod.snd

/-- Numbers the steps of a plan up to the configured bound and ties them to its device. -/
def pushSteps (s : FabricState) (binding : PlanBinding) (profile : PartitionProfileId)
    (steps : List PlanStep) : List PlanStep :=
  (steps.take s.limits.maxPlanSteps).mapIdx fun index step ↦
    { step with
      index := index.toUInt32
      accelerator := binding.accelerator
      acceleratorGeneration := binding.acceleratorGeneration
      acceleratorBoot := binding.acceleratorBoot
      profile := profile }

/-- What a plan schedules on its device. -/
def planSteps (request : PartitionRequest) (capability : PartitionCapability)
    (chosen : CandidateEvaluation) : List PlanStep :=
  let creatingDuringReconfiguration : Bool := chosen.outcome = .feasibleAfterReconfiguration
  [{ kind := .reserveCapacity, detail := "hold capacity against the reservation" }] ++
  (if chosen.outcome = .feasibleAfterDrain || creatingDuringReconfiguration then
    chosen.fragmentation.partitionsToDrain.flatMap fun partition ↦
      [{ kind := .beginDrain
         estimatedDurationMs := capability.drainEstimateMs
         detail := "reject new assignments and track outstanding work"
         partition := partition },
       { kind := .awaitDrainComplete
         estimatedDurationMs := capability.drainEstimateMs
         detail := "wait until destructive mutation is safe"
         partition := partition }]
  else []) ++
  (if creatingDuringReconfiguration then
    [{ kind := .reconfigureLayout
       destructive := true
       requiresReset := capability.requiresResetForReconfiguration
       estimatedDurationMs := capability.reconfigurationEstimateMs
       detail := "rebuild the physical layout under a registered attempt" }]
  else []) ++
  -- a plain creation does not inherit the reset and downtime cost of a layout change
  ((List.range request.count.toNat).map fun ordinal ↦
    { kind := .createPartition
      destructive := creatingDuringReconfiguration
      requiresReset := creatingDuringReconfiguration && capability.requiresResetForReconfiguration
      estimatedDurationMs :=
        if creatingDuringReconfiguration then capability.reconfigurationEstimateMs else 0
      detail := "create physical partition"
      plannedIndex := ordinal.toUInt32 }) ++
  [{ kind := .verifyPhysicalState
     detail := "rediscover the device and verify the requested geometry exists" },
   { kind := .commitAuthority
     detail := "publish authoritative logical state bound to fresh evidence" }]

/-- Full planning pass over a consistent state. -/
def buildPlan (s : FabricState) (request : PartitionRequest) (now : UInt64) : PartitionPlan :=
  let window := if request.maxEvidenceAgeMs ≠ 0 then request.maxEvidenceAgeMs
    else s.policy.maxEvidenceAgeMs
  let binding : PlanBinding :=
    { policyGeneration := s.policyGeneration
      coordinatorEpoch := s.coordinatorEpoch
      stateGeneration := s.stateGeneration
      plannedAtMs := now
      validUntilMs := if window = 0 then 0 else now + window }
  let plan : PartitionPlan :=
    { request := request
      requestDigest := requestDigest request
      createdAtMs := now
      binding := binding }
  match request.validate s.limits with
  | .error e =>
    { plan with outcome := if e.code = .limitExceeded then .limitExceeded else .invalidRequest }
  | .ok _ =>
    match s.findProfile request.profile with
    | none => { plan with outcome := .capabilityUnknown }
    | some profile =>
      let candidates := s.accelerators.values.map (evaluateCandidate s request profile now)
      match bestEligible candidates with
      | none =>
        -- a rejected plan carries no binding at all
        { plan with
          candidates := candidates
          outcome := bestFailure candidates
          binding := {} }
      | some best =>
        let chosen := (candidates.find? fun c ↦
          c.accelerator = best.accelerator && c.eligible).getD {}
        let accelerator := (s.findAccelerator best.accelerator).getD {}
        let binding := { binding with
          accelerator := best.accelerator
          acceleratorGeneration := accelerator.generation
          acceleratorBoot := accelerator.bootId
          capabilityGeneration := accelerator.capability.generation
          topologyGeneration := accelerator.topologyGeneration
          evidenceGeneration := accelerator.evidence.generation
          layout := (s.partitionsOf best.accelerator).map fun r ↦ (r.id, r.generation) }
        { plan with
          candidates := candidates
          outcome := chosen.outcome
          binding := binding
          steps := pushSteps s binding profile.id
            (planSteps request accelerator.capability chosen)
          plannedPartitions := (List.range request.count.toNat).map fun ordinal ↦
            { profile := profile.id
              profileGeneration := profile.generation
              resources := profile.resources
              ordinal := ordinal.toUInt32
              vendorNativeProfile := profile.vendorNative } }

end PartitionFabric

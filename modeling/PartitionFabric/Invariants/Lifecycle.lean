import PartitionFabric.Invariants.Reconciliation

/-!
Lifecycles along runs: what the evolution of one step says about the records and the attempts of
whole runs without imports.
-/

namespace PartitionFabric

open Procedure

variable {s t : FabricState}

/-- What an operation may do to the registry beyond what every operation may do. -/
def Op.scope : Op → Scope
  | .registerProfile _ => { publishes := fun _ _ _ ↦ True }
  | .registerBackendAccelerator _ _ =>
    { publishes := fun _ _ _ ↦ True
      topology := fun _ _ ↦ True
      replaces := fun _ ↦ True
      renumbers := fun _ ↦ True
      reincarnates := fun _ ↦ True }
  | .registerAccelerator record _ =>
    { totals := AcceptableTotals record.physicalTotals
      topology := fun _ _ ↦ True
      renumbers := fun _ ↦ True
      reincarnates := fun _ ↦ True
      forgets := fun _ ↦ True
      numbers := False }
  | .publishCapability _ _ => { topology := fun _ _ ↦ True }
  | .plan _ _ | .planOn _ _ _ | .planReconfiguration _ _ _ _ =>
    { plans := fun _ ↦ True, discards := fun _ ↦ True }
  | .createDestructionReservation _ _ => { plans := fun _ ↦ True, reserves := True }
  | .reserve _ _ => { reserves := True, evicts := fun _ ↦ True }
  | .bindReservation id _ _ _ _ => { binds := fun k ↦ k = id }
  | .applyMutationResult _ _ _ _ =>
    { natives := True, activates := True, resettles := fun _ ↦ True }
  | .registerAttempt _ _ _ _ _ | .execute _ _ => { registers := fun _ ↦ True }
  | .destroyPartition _ _ | .executeReconfiguration _ _ =>
    { registers := fun _ ↦ True, plans := fun _ ↦ True, reserves := True }
  | .reconcile id _ _ =>
    { natives := True
      activates := True
      decides := some id
      renumbers := fun k ↦ k = id
      reincarnates := fun k ↦ k = id }
  | .cancelDrain _ _ => { occupancy := True, activates := True }
  | .bindAssignment _ => { occupancy := True, numbers := False }
  | .beginDrain _ _ _ | .beginDrainAccelerator _ _ _ | .completeDrain _ _
  | .admitWorkload _ _ | .unbindAssignment _ _ => { occupancy := True }
  | .noteWorker _ _ => { workers := True, numbers := False }
  | .noteWorkerSeen _ _ _ | .fenceWorker _ _ _ _ => { workers := True }
  | .close _ => { workers := True, closes := True }
  | .reopen _ => { closes := True }
  | .advanceCoordinatorEpoch _ => { workers := True, epoch := True }
  | .installCoordinatorEpoch _ => { epoch := True }
  | _ => {}

/-- What a scope has to allow for an operation. -/
def Op.Within (π : Scope) (s : FabricState) : Op → Prop
  | .registerProfile profile => π.publishes profile.id profile.generation profile.resources
  | .registerBackendAccelerator accelerator _ => Reports π s accelerator
  | .registerAccelerator record _ => Admits π s record
  | .publishCapability capability _ =>
    π.topology capability.accelerator capability.topologyGeneration
  | .plan request now => π.AllowsRoom s request now ∧ π.AllowsPlan s fun s ↦ buildPlan s request now
  | .planOn id request now =>
    π.AllowsRoom s (request.narrow id) now ∧
      π.AllowsPlan s fun s ↦ buildPlan s (request.narrow id) now
  | .planReconfiguration id desired context now =>
    (s.closed = false → ∀ k, DropsPlan s k → π.discards k) ∧
      π.AllowsPlan s fun s ↦ buildReconfigurationPlan s id desired context now
  | .reserve planId now =>
    π.reserves ∧ (ReachesRoom s planId now → ∀ k, DropsReservation s k → π.evicts k)
  | .bindReservation id _ _ _ _ => π.binds id
  | .registerAttempt _ _ _ _ _ | .execute _ _ => ∀ a, π.registers a
  | .destroyPartition p now =>
    π.reserves ∧ (∀ a, π.registers a) ∧ π.AllowsDestruction s p now
  | .createDestructionReservation p now => π.reserves ∧ π.AllowsDestruction s p now
  | .executeReconfiguration planId now => π.reserves ∧ (∀ a, π.registers a) ∧
    ∀ plan accelerator affected, s.plans.find? planId = some plan →
      s.findAccelerator plan.binding.accelerator = some accelerator →
      replacedBy s accelerator.id = .ok affected → π.AllowsDestructive s accelerator affected now
  | .applyMutationResult key _ _ _ =>
    π.natives ∧ π.activates ∧ ∀ a, s.findAttempt key = some a → π.resettles a.reservation
  | .reconcile id observed _ => π.natives ∧ π.activates ∧ π.decides = some id ∧
    ∀ a, s.findAccelerator id = some a → showsReset observed a = true →
      π.renumbers id ∧ π.reincarnates id
  | .cancelDrain _ _ => π.occupancy ∧ π.activates
  | .bindAssignment assignment => π.occupancy ∧ (π.numbers → assignment.id < s.ids.next)
  | .beginDrain _ _ _ | .beginDrainAccelerator _ _ _ | .completeDrain _ _
  | .admitWorkload _ _ | .unbindAssignment _ _ => π.occupancy
  | .noteWorker worker _ => π.workers ∧ (π.numbers → worker.id < s.ids.next)
  | .noteWorkerSeen _ _ _ | .fenceWorker _ _ _ _ => π.workers
  | .close _ => π.workers ∧ π.closes
  | .reopen _ => π.closes
  | .advanceCoordinatorEpoch _ => π.workers ∧ π.epoch
  | .installCoordinatorEpoch epoch => s.coordinatorEpoch < epoch → π.epoch
  | .importDurableState _ _ => False
  | _ => True

/-- The states that a reconciliation leads partitions to before it decides attempts. -/
def Op.matched : Op → List PartitionState
  | .reconcile _ observed _ => (reconciledStates observed).1
  | _ => []

/-- The states that an operation leads partitions to; a reconciliation, once it decides attempts. -/
def Op.entered (s : FabricState) : Op → List PartitionState
  | .registerBackendAccelerator _ _ | .registerAccelerator _ _ | .publishCapability _ _
  | .createDestructionReservation _ _ | .markAttemptOutcomeUnknown _ _ _ =>
    [.revalidationRequired]
  | .releaseReservation _ _ _ | .fenceReservation _ _ _ | .close _ => [.retired]
  | .registerAttempt _ kind _ _ _ => kind.begun
  | .execute _ _ => [.creating, .retired]
  | .destroyPartition p _ => destructionStates s p
  | .executeReconfiguration _ _ => [.reconfigurationRequired]
  | .applyMutationResult key mutation observed _ => resultStates s key mutation observed
  | .beginDrain _ _ _ | .beginDrainAccelerator _ _ _ => [.draining]
  | .cancelDrain _ _ => [.active]
  | .noteWorker _ _ | .fenceWorker _ _ _ _ | .advanceCoordinatorEpoch _ =>
    [.revalidationRequired, .retired]
  | .reconcile _ observed _ => (reconciledStates observed).2
  | _ => []

/-- The devices that an operation may publish capability for. -/
def Op.Republishes (s : FabricState) : Op → AcceleratorId → Prop
  | .registerBackendAccelerator accelerator _, k => k = s.deviceOf accelerator
  | .registerAccelerator record _, k => k = record.id
  | .publishCapability capability _, k => k = capability.accelerator
  | _, _ => False

/-- The reservations that an operation may settle, by their keys, devices and worker incarnations;
those of the attempts that a reconciliation decides are left out. -/
def Op.Settles (s : FabricState) :
    Op → PartitionReservationId → AcceleratorId → WorkerId → WorkerBootId → Prop
  | .registerBackendAccelerator accelerator _, _, a, _, _ => a = s.deviceOf accelerator
  | .registerAccelerator record _, _, a, _, _ => a = record.id
  | .publishCapability capability _, _, a, _, _ => a = capability.accelerator
  | .releaseReservation id _ _, k, _, _, _ | .fenceReservation id _ _, k, _, _, _ => k = id
  | .execute id now, k, _, _, _ => k = id ∧ dispatchable s id now = false
  | .applyMutationResult key _ _ _, k, _, _, _ | .markAttemptOutcomeUnknown key _ _, k, _, _, _ =>
    ∃ attempt, s.findAttempt key = some attempt ∧ k = attempt.reservation
  | .noteWorker worker _, _, _, w, b => w = worker.id ∧ b ≠ worker.boot ∧
    ∃ previous, s.findWorker worker.id = some previous ∧ b = previous.boot
  | .fenceWorker worker boot _ _, _, _, w, b => w = worker ∧ b = boot
  | .advanceCoordinatorEpoch _, _, _, _, _ | .close _, _, _, _, _ => True
  | _, _, _, _, _ => False

/-- An operation may answer attempts in flight or give them up. -/
def Op.answers : Op → Prop
  | .applyMutationResult _ _ _ _ | .markAttemptOutcomeUnknown _ _ _ | .noteWorker _ _
  | .fenceWorker _ _ _ _ | .advanceCoordinatorEpoch _ | .close _ => True
  | _ => False

/-- What a scope that restricts transitions and settlements has to allow for an operation. -/
structure Op.Minds (π : Scope) (s : FabricState) (op : Op) : Prop where
  matched : ∀ a ∈ op.matched, π.enters a
  entered : ∀ a ∈ op.entered s, π.enters a
  republishes : ∀ k, op.Republishes s k → π.republishes k
  settles : ∀ k a w b, op.Settles s k a w b → π.settles k a w b
  answers : op.answers → π.answers
  decides : ∀ id observed now, op = .reconcile id observed now → Adjudicates π s id

lemma Op.Minds.disturbs {π : Scope} {op : Op} (h : op.Minds π s) {id : AcceleratorId}
    (hrepublishes : op.Republishes s id) (hsettles : ∀ k w b, op.Settles s k id w b)
    (henters : .revalidationRequired ∈ op.entered s) : Disturbs π id :=
  ⟨h.republishes id hrepublishes, fun k w b ↦ h.settles k id w b (hsettles k w b),
    h.entered _ henters⟩

lemma Op.Minds.dismisses {π : Scope} {op : Op} (h : op.Minds π s) {worker : WorkerId}
    {boot : WorkerBootId} (hsettles : ∀ k a, op.Settles s k a worker boot)
    (henters : op.entered s = [.revalidationRequired, .retired]) (hanswers : op.answers) :
    Dismisses π worker boot :=
  ⟨fun k a ↦ h.settles k a worker boot (hsettles k a), h.entered _ (by simp [henters]),
    h.entered _ (by simp [henters]), h.answers hanswers⟩

/-- Every operation evolves the registry within a scope that allows it. -/
theorem evolves_within {π : Scope} {op : Op} (h : op.Within π s) (hm : op.Minds π s) :
    Evolves π s.ids.next s (op.step s) := by
  have hfloor : s.ids.next ≤ s.ids.next := le_refl _
  cases op with
  | setPolicy policy => exact advances_setPolicy
  | registerProfile profile => exact advances_registerProfile h
  | registerBackendAccelerator accelerator now =>
      exact advances_ignore (advances_registerBackendAccelerator h
        (hm.disturbs rfl (fun _ _ _ ↦ rfl) (List.mem_singleton_self _)))
  | registerAccelerator record now =>
      exact advances_registerAccelerator h
        (hm.disturbs rfl (fun _ _ _ ↦ rfl) (List.mem_singleton_self _))
  | publishCapability capability now =>
      exact advances_ignore (advances_bind advances_checkOpen fun _ _ _ ↦
        advances_publishCapabilityLocked
          (hm.disturbs rfl (fun _ _ _ ↦ rfl) (List.mem_singleton_self _)) h)
  | updateHealth id health => exact advances_updateHealth
  | markEvidenceStale id => exact advances_markEvidenceStale
  | snapshot => exact advances_snapshot
  | allocateWorkerId => exact advances_ignore advances_allocateId
  | bindAcceleratorWorker id worker boot => exact advances_bindAcceleratorWorker
  | plan request now => exact advances_ignore (advances_plan h.1 hfloor h.2)
  | planOn id request now => exact advances_ignore (advances_planOn h.1 hfloor h.2)
  | planReconfiguration id desired context now =>
      exact advances_ignore (advances_planReconfiguration h.1 hfloor h.2)
  | discardPlan id => exact advances_discardPlan
  | reserve planId now => exact advances_ignore (advances_reserve h.1 h.2 hfloor)
  | bindReservation id worker boot epoch now => exact advances_bindReservation h
  | releaseReservation id reason now =>
      exact advances_releaseReservation (fun _ _ ↦ hm.settles _ _ _ _ rfl)
        (hm.entered _ (List.mem_singleton_self _))
  | fenceReservation id reason now =>
      exact advances_fenceReservation (fun _ _ ↦ hm.settles _ _ _ _ rfl)
        (hm.entered _ (List.mem_singleton_self _))
  | registerAttempt id kind worker boot now =>
      exact advances_ignore (advances_registerAttempt hfloor hm.entered fun _ _ _ a _ ↦ h a)
  | execute id now =>
      exact advances_ignore (advances_execute hfloor
        (fun hrefuses _ _ ↦ hm.settles _ _ _ _ ⟨rfl, hrefuses⟩)
        (hm.entered _ (by simp [Op.entered])) (hm.entered _ (by simp [Op.entered]))
        fun _ _ _ _ a _ ↦ h a)
  | destroyPartition p now =>
      exact advances_ignore (advances_destroyPartition h.1 hfloor h.2.2 hm.entered
        fun _ _ _ a _ ↦ h.2.1 a)
  | createDestructionReservation p now =>
      exact advances_ignore (advances_createDestructionReservation h.1 hfloor h.2
        (hm.entered _ (List.mem_singleton_self _)))
  | executeReconfiguration planId now =>
      exact advances_ignore (advances_executeReconfiguration h.1 hfloor h.2.2
        (hm.entered _ (List.mem_singleton_self _)) fun _ _ _ a _ ↦ h.2.1 a)
  | applyMutationResult key mutation observed now =>
      refine advances_ignore (advances_applyMutationResultLocked h.1 h.2.1 hfloor (fun a ha ↦ ?_)
        hm.entered)
      exact ⟨⟨hm.answers trivial, fun _ _ _ ↦ hm.settles _ _ _ _ ⟨a, ha, rfl⟩⟩, h.2.2 a ha⟩
  | markAttemptOutcomeUnknown key reason now =>
      refine advances_markAttemptOutcomeUnknown (fun a ha ↦ ?_)
        (hm.entered _ (List.mem_singleton_self _))
      exact ⟨hm.answers trivial, fun _ _ _ ↦ hm.settles _ _ _ _ ⟨a, ha, rfl⟩⟩
  | beginDrain p reason now =>
      exact advances_beginDrain h (hm.entered _ (List.mem_singleton_self _))
  | beginDrainAccelerator id reason now =>
      exact advances_beginDrainAccelerator h (hm.entered _ (List.mem_singleton_self _))
  | completeDrain p now => exact advances_completeDrain h
  | cancelDrain p now =>
      exact advances_cancelDrain h.1 h.2 (hm.entered _ (List.mem_singleton_self _))
  | admitWorkload requirement now => exact advances_ignore (advances_admitWorkload h)
  | bindAssignment assignment => exact advances_bindAssignment h.1 h.2
  | unbindAssignment id now => exact advances_unbindAssignment h
  | noteWorker worker now =>
      refine advances_noteWorker h.1 h.2 fun previous hprevious hboot ↦ ?_
      exact hm.dismisses (fun _ _ ↦ ⟨rfl, hboot, previous, hprevious, rfl⟩) rfl trivial
  | noteWorkerSeen worker boot atMs => exact advances_noteWorkerSeen h
  | fenceWorker worker boot reason now =>
      exact advances_fenceWorkerLocked h (hm.dismisses (fun _ _ ↦ ⟨rfl, rfl⟩) rfl trivial)
  | advanceCoordinatorEpoch now =>
      exact advances_ignore (advances_advanceCoordinatorEpoch h.1 h.2 fun _ _ ↦
        hm.dismisses (fun _ _ ↦ trivial) rfl trivial)
  | installCoordinatorEpoch epoch => exact advances_installCoordinatorEpoch h
  | reconcile id observed now =>
      exact advances_ignore (advances_reconcile h.1 h.2.1 h.2.2.1 (hm.decides id observed now rfl)
        hfloor h.2.2.2 hm.matched hm.entered)
  | importDurableState durable now => exact h.elim
  | close now =>
      exact advances_close h.1 h.2 (fun _ _ _ _ ↦ hm.settles _ _ _ _ trivial)
        (hm.entered _ (List.mem_singleton_self _)) (hm.answers trivial)
  | reopen now => exact advances_reopen h

lemma within_scope {op : Op} (h : op.isImport = false) (s : FabricState) :
    op.Within op.scope s := by
  cases op with
  | registerBackendAccelerator accelerator now =>
      exact ⟨fun _ _ ↦ trivial, trivial, fun _ ↦ trivial, fun _ ↦ Or.inr ⟨trivial, trivial⟩,
        trivial⟩
  | registerAccelerator record now =>
      exact ⟨fun ht ↦ ht, fun _ _ ↦ Or.inl trivial, trivial, trivial, fun _ ↦ trivial,
        fun _ _ ↦ Or.inl trivial, False.elim⟩
  | importDurableState durable now => exact absurd h (by simp [Op.isImport])
  | reconcile id observed now => exact ⟨trivial, trivial, rfl, fun _ _ _ ↦ ⟨rfl, rfl⟩⟩
  | bindReservation id worker boot epoch now => exact rfl
  | plan request now => exact ⟨fun _ _ _ _ ↦ trivial, fun _ _ ↦ trivial⟩
  | planOn id request now => exact ⟨fun _ _ _ _ ↦ trivial, fun _ _ ↦ trivial⟩
  | planReconfiguration id desired context now => exact ⟨fun _ _ _ ↦ trivial, fun _ _ ↦ trivial⟩
  | reserve planId now => exact ⟨trivial, fun _ _ _ ↦ trivial⟩
  | registerAttempt id kind worker boot now => exact fun _ ↦ trivial
  | execute id now => exact fun _ ↦ trivial
  | destroyPartition p now => exact ⟨trivial, fun _ ↦ trivial, fun _ _ _ _ _ _ ↦ trivial⟩
  | createDestructionReservation p now => exact ⟨trivial, fun _ _ _ _ _ _ ↦ trivial⟩
  | executeReconfiguration planId now =>
      exact ⟨trivial, fun _ ↦ trivial, fun _ _ _ _ _ _ _ _ ↦ trivial⟩
  | applyMutationResult key mutation observed now => exact ⟨trivial, trivial, fun _ _ ↦ trivial⟩
  | cancelDrain p now => exact ⟨trivial, trivial⟩
  | bindAssignment assignment => exact ⟨trivial, False.elim⟩
  | noteWorker worker now => exact ⟨trivial, False.elim⟩
  | close now => exact ⟨trivial, trivial⟩
  | advanceCoordinatorEpoch now => exact ⟨trivial, trivial⟩
  | installCoordinatorEpoch epoch => exact fun _ ↦ trivial
  | _ => exact trivial

/-- The scope of an operation with restrictions of transitions and settlements. -/
lemma Op.Within.restrict {op : Op} (h : op.Within op.scope s) (enters : PartitionState → Prop) :
    op.Within { op.scope with enters := enters } s := by
  cases op with
  | registerBackendAccelerator accelerator now =>
      exact ⟨h.profiles, h.topology, h.touched, h.fresh, h.incarnation⟩
  | registerAccelerator record now =>
      exact ⟨h.totals, h.capability, h.topology, h.published, h.absent, h.incarnation, h.numbered⟩
  | _ => exact h

/-- A scope that leaves the restrictions of transitions and settlements open. -/
structure Scope.Lenient (π : Scope) : Prop where
  enters : ∀ a, π.enters a
  settles : ∀ k a w b, π.settles k a w b
  republishes : ∀ k, π.republishes k
  answers : π.answers

lemma Scope.Lenient.minds {π : Scope} (h : π.Lenient) (s : FabricState) (op : Op) :
    op.Minds π s :=
  ⟨fun a _ ↦ h.enters a, fun a _ ↦ h.enters a, fun k _ ↦ h.republishes k,
    fun k a w b _ ↦ h.settles k a w b, fun _ ↦ h.answers, fun _ _ _ _ ↦
      ⟨fun _ _ _ _ _ _ _ _ ↦ h.settles _ _ _ _, fun _ _ _ _ _ ↦ h.settles _ _ _ _⟩⟩

lemma lenient_scope (op : Op) : op.scope.Lenient := by
  cases op <;> exact ⟨fun _ ↦ trivial, fun _ _ _ _ ↦ trivial, fun _ ↦ trivial, trivial⟩

/-- Every operation but an import evolves the registry within its scope. -/
theorem evolves_step {op : Op} (h : op.isImport = false) (s : FabricState) :
    Evolves op.scope s.ids.next s (op.step s) :=
  evolves_within (within_scope h s) ((lenient_scope op).minds s op)

namespace Sample

/-- A quantity of device memory. -/
def memory (bytes : UInt64) : ResourceVector :=
  { values := fun d ↦ if d = .memoryBytes then bytes else 0
    mask := ResourceDimension.memoryBytes.bit }

def profile : PartitionProfile :=
  { id := 1
    generation := 1
    name := "slice"
    vendorNative := "1g"
    backend := "synthetic"
    mechanism := .synthetic
    resources := memory 4
    memorySliceCount := 1 }

def evidence : EvidenceStamp :=
  { generation := 1
    provenance := .synthetic
    ttlMs := 1000000
    observed := true }

def capability : PartitionCapability :=
  { generation := 1
    support := .supported
    mechanism := .synthetic
    supportedProfiles := [profile.id]
    maxPartitionCount := 8
    exposedDimensions := [.memoryBytes]
    evidence := evidence }

/-- A device with room for four slices. -/
def device : BackendAccelerator :=
  { stableKey := "gpu"
    backend := "synthetic"
    physicalTotals := memory 16
    capability := capability
    profiles := [profile]
    bootId := 7
    evidence := evidence
    provenance := .synthetic }

def opened : FabricState := FabricState.opened {} 0

/-- Registers the device as 1, plans one slice as 2, reserves it as 3 with partition 4. -/
def reserved : List Op :=
  [.registerBackendAccelerator device 1, .plan { profile := profile.id } 2, .reserve 2 3]

/-- Dispatches the creation of the slice as attempt 5. -/
def dispatched : List Op := reserved ++ [.execute 3 4]

end Sample

/-- The guard of runs without imports. -/
abbrev withoutImports (_ : FabricState) (op : Op) : Prop := op.isImport = false

lemma indexed_opened (options : FabricOptions) (now : UInt64) :
    Indexed (FabricState.opened options now) := by
  refine ⟨?_, ?_, ?_, ?_⟩
  all_goals
    intro k r h
    exact absurd h (by simp [FabricState.opened])

lemma indexed_of_reachable (hs : fabric.Reachable withoutImports s) : Indexed s := by
  refine hs.invariant ?_ fun s op hi hop ↦ (evolves_step hop s).indexed hi
  rintro _ ⟨options, now, rfl⟩
  exact indexed_opened options now

/-- The attempt as one step leaves it, if it is still kept. -/
lemma attempt_step {op : Op} {key : PartitionAttemptId} {a' : PartitionAttempt}
    (hop : op.isImport = false) (hkey : key < s.ids.next)
    (ha' : (op.step s).findAttempt key = some a') :
    ∃ a, s.findAttempt key = some a ∧ AttemptEvolves op.scope a a' := by
  obtain ⟨a, ha | ⟨hnew, -⟩, hevolves⟩ := (evolves_step hop s).attempts key a' ha'
  · exact ⟨a, ha, hevolves⟩
  · exact absurd hkey (not_lt.mpr hnew)

/-- Attempts that were settled before keep their states. -/
structure SettledKept (s t : FabricState) : Prop where
  ids : s.ids.next ≤ t.ids.next
  kept : ∀ key a', key < s.ids.next → t.findAttempt key = some a' →
    ∃ a, s.findAttempt key = some a ∧ (attemptSettled a.state = true → a'.state = a.state)

instance : Std.Refl SettledKept := ⟨fun _ ↦ ⟨le_refl _, fun _ a _ ha ↦ ⟨a, ha, fun _ ↦ rfl⟩⟩⟩

instance : IsTrans FabricState SettledKept where
  trans s t u hst htu := by
    refine ⟨hst.ids.trans htu.ids, fun key a'' hkey ha'' ↦ ?_⟩
    obtain ⟨a', ha', h'⟩ := htu.kept key a'' (lt_of_lt_of_le hkey hst.ids) ha''
    obtain ⟨a, ha, h⟩ := hst.kept key a' hkey ha'
    exact ⟨a, ha, fun hsettled ↦ (h' (h hsettled ▸ hsettled)).trans (h hsettled)⟩

lemma AttemptEvolves.settled {π : Scope} {a a' : PartitionAttempt} (h : AttemptEvolves π a a')
    (hsettled : attemptSettled a.state = true) : a'.state = a.state := by
  rcases h.state with hsame | hflight | ⟨hunknown, -⟩
  · exact hsame
  · cases hstate : a.state <;> simp [hstate, attemptSettled, AttemptState.inFlight] at hsettled hflight
  · rw [hunknown] at hsettled
    exact absurd hsettled (by decide)

lemma settledKept_step {op : Op} (hop : op.isImport = false) (s : FabricState) :
    SettledKept s (op.step s) := by
  refine ⟨(evolves_step hop s).ids, fun key a' hkey ha' ↦ ?_⟩
  obtain ⟨a, ha, hevolves⟩ := attempt_step hop hkey ha'
  exact ⟨a, ha, hevolves.settled⟩

lemma settledKept_of_reaches (h : fabric.Reaches withoutImports s t) : SettledKept s t :=
  (h.related (I := fun _ ↦ True) (fun _ _ _ _ ↦ trivial)
    (fun s _ _ hop ↦ settledKept_step hop s) trivial).2

/-- Only a reconciliation may decide attempts, those of its own device. -/
lemma Op.scope_decides {op : Op} {id : AcceleratorId} (h : op.scope.decides = some id) :
    ∃ observed now, op = .reconcile id observed now := by
  cases op <;> simp only [Op.scope, reduceCtorEq, Option.some.injEq] at h
  subst h
  exact ⟨_, _, rfl⟩

/-- A result for an attempt that is settled or unknown changes nothing. -/
lemma applyMutationResult_settled {key : PartitionAttemptId} {attempt : PartitionAttempt}
    (ha : s.findAttempt key = some attempt)
    (h : attemptSettled attempt.state = true ∨ attempt.state = .outcomeUnknown)
    (mutation : Result BackendMutationResult) (observed : Option BackendLayout) (now : UInt64) :
    (applyMutationResultLocked key mutation observed now s).1 = s := by
  unfold applyMutationResultLocked
  rw [get_bind]
  simp only [ha]
  cases s.findReservation attempt.reservation with
  | none => rfl
  | some reservation =>
      simp only
      by_cases hsettled : attemptSettled attempt.state = true
      · rw [if_pos hsettled]
        rfl
      · rw [if_neg hsettled, if_pos (h.resolve_left hsettled)]
        rfl

/-- Attempts settle once: a settled attempt keeps its state for the rest of the run, an unknown
one is only decided by a reconciliation of its device, and late results change nothing. -/
theorem attempts_settle_once (hs : fabric.Reachable withoutImports s) {key : PartitionAttemptId}
    {attempt : PartitionAttempt} (ha : s.findAttempt key = some attempt) :
    (attemptSettled attempt.state = true → ∀ (t : FabricState) (attempt' : PartitionAttempt),
      fabric.Reaches withoutImports s t → t.findAttempt key = some attempt' →
      attempt'.state = attempt.state) ∧
    (attempt.state = .outcomeUnknown → ∀ (op : Op) (attempt' : PartitionAttempt),
      op.isImport = false → (op.step s).findAttempt key = some attempt' →
      attempt'.state = .outcomeUnknown ∨ attempt'.state = .reconciled ∧
        ∃ observed now, op = .reconcile attempt.accelerator observed now) ∧
    (attemptSettled attempt.state = true ∨ attempt.state = .outcomeUnknown →
      ∀ mutation observed now, (Op.applyMutationResult key mutation observed now).step s = s) := by
  have hkey := ((indexed_of_reachable hs).attempts key attempt ha).2
  refine ⟨fun hsettled t attempt' hreach ha' ↦ ?_, fun hunknown op attempt' hop ha' ↦ ?_,
    fun h mutation observed now ↦ applyMutationResult_settled ha h mutation observed now⟩
  · obtain ⟨a, ha₀, h⟩ := (settledKept_of_reaches hreach).kept key attempt' hkey ha'
    obtain rfl := Option.some.inj (ha₀.symm.trans ha)
    exact h hsettled
  · obtain ⟨a, ha₀, hevolves⟩ := attempt_step hop hkey ha'
    obtain rfl := Option.some.inj (ha₀.symm.trans ha)
    rcases hevolves.state with hsame | hflight | ⟨-, hreconciled, hdecides⟩
    · exact Or.inl (hsame.trans hunknown)
    · rw [hunknown] at hflight
      exact absurd hflight (by decide)
    · exact Or.inr ⟨hreconciled, Op.scope_decides hdecides⟩

theorem attempts_settle_once_unknown :
    let s := fabric.run (Sample.dispatched ++ [.markAttemptOutcomeUnknown 5 [] 5]) Sample.opened
    (s.findAttempt 5).map PartitionAttempt.state = some .outcomeUnknown ∧
    ∀ mutation observed now, (Op.applyMutationResult 5 mutation observed now).step s = s := by
  intro s
  have hunknown : (s.findAttempt 5).map PartitionAttempt.state = some .outcomeUnknown := by
    decide +kernel
  have hs : fabric.Reachable withoutImports s :=
    System.Reachable.run (.initial ⟨_, _, rfl⟩) (by decide)
  obtain ⟨attempt, ha, hstate⟩ := Option.map_eq_some_iff.mp hunknown
  exact ⟨hunknown, (attempts_settle_once hs ha).2.2 (Or.inr hstate)⟩

end PartitionFabric

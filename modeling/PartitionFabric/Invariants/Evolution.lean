import PartitionFabric.Fabric.Step
import PartitionFabric.Invariants.Planning

/-!
How one step may change the registry.

The relation says once what happens to the records, attempts, assignments and ledgers that exist
before a step; the invariants of whole runs are read off it. Identities at or above a floor were
handed out during the step and are free to appear and to disappear.
-/

namespace PartitionFabric

/-- What a step may do beyond what every step may do. -/
structure Scope where
  /-- Physical identities may be bound or cleared. -/
  natives : Prop := False
  /-- Assignments may be added and drains may progress. -/
  occupancy : Prop := False
  /-- The device whose ambiguous attempts may be decided. -/
  decides : Option AcceleratorId := none
  /-- The attempts that may be registered. -/
  registers : PartitionAttempt → Prop := fun _ ↦ False
  /-- The totals that the step registers are acceptable. -/
  totals : Prop := True
  /-- Worker records may change. -/
  workers : Prop := False
  /-- The coordinator epoch may advance. -/
  epoch : Prop := False
  /-- The reservations that may be bound to a worker incarnation. -/
  binds : PartitionReservationId → Prop := fun _ ↦ False
  /-- The reservations that may be settled although they are terminal. -/
  resettles : PartitionReservationId → Prop := fun _ ↦ False
  /-- The devices whose registration may be taken back. -/
  forgets : AcceleratorId → Prop := fun _ ↦ False
  /-- The devices whose identity may be given to another device. -/
  replaces : AcceleratorId → Prop := fun _ ↦ False
  /-- The devices whose capability may be numbered anew. -/
  renumbers : AcceleratorId → Prop := fun _ ↦ False
  /-- The topologies that a device may take. -/
  topology : AcceleratorId → TopologyGeneration → Prop := fun _ _ ↦ False
  /-- The generations and resources that a profile may be published with. -/
  publishes : PartitionProfileId → PartitionProfileGeneration → ResourceVector → Prop :=
    fun _ _ _ ↦ False
  /-- The plans that may be registered. -/
  plans : PartitionPlan → Prop := fun _ ↦ False
  /-- The registered plans that may be dropped. -/
  discards : PartitionPlanId → Prop := fun _ ↦ False
  /-- Reservations may be recorded. -/
  reserves : Prop := False
  /-- The recorded reservations that may be dropped. -/
  evicts : PartitionReservationId → Prop := fun _ ↦ False
  /-- Partitions may become active. -/
  activates : Prop := False
  /-- The devices whose incarnation may change. -/
  reincarnates : AcceleratorId → Prop := fun _ ↦ False
  /-- The identities that the step was given are ones the allocator has passed. -/
  numbers : Prop := True
  /-- The fabric may be closed or opened. -/
  closes : Prop := False
  /-- The states that partitions may be led to. -/
  enters : PartitionState → Prop := fun _ ↦ True
  /-- The reservations that may be settled, each with its device and its worker incarnation. -/
  settles : PartitionReservationId → AcceleratorId → WorkerId → WorkerBootId → Prop :=
    fun _ _ _ _ ↦ True
  /-- The devices whose capability may be published anew. -/
  republishes : AcceleratorId → Prop := fun _ ↦ True
  /-- Attempts in flight may be answered or given up. -/
  answers : Prop := True

/-- How a partition record may change. -/
structure RecordEvolves (π : Scope) (r r' : PartitionRecord) : Prop where
  id : r'.id = r.id
  accelerator : r'.accelerator = r.accelerator
  resources : r'.resources = r.resources
  generation : r.generation ≤ r'.generation
  legal : Legal π.enters r.state r'.state
  native : π.natives ∨ r'.nativeIdentity.nativeId = r.nativeIdentity.nativeId
  drain : π.occupancy ∨ r'.drain = r.drain ∨ r'.drain.state = .notDraining
  incarnation : r'.acceleratorGeneration = r.acceleratorGeneration ∧
    r'.acceleratorBoot = r.acceleratorBoot
  active : r'.state = .active → π.activates ∨ r.state = .active

/-- How an attempt may change: what it is about stays, and it settles once. -/
structure AttemptEvolves (π : Scope) (a a' : PartitionAttempt) : Prop where
  id : a'.id = a.id
  kind : a'.kind = a.kind
  reservation : a'.reservation = a.reservation
  accelerator : a'.accelerator = a.accelerator
  partitions : a'.partitions = a.partitions
  desired : a'.desired = a.desired
  state : a'.state = a.state ∨ a.state.inFlight = true ∨
    a.state = .outcomeUnknown ∧ a'.state = .reconciled ∧ π.decides = some a.accelerator
  flight : a'.state.inFlight = true → a' = a
  kept : π.answers ∨ (a.state.inFlight = true → a' = a)

/-- A record as a step creates it. -/
structure Fresh (π : Scope) (r : PartitionRecord) : Prop where
  native : π.natives ∨ r.nativeIdentity.nativeId = []
  drain : π.occupancy ∨ r.drain.state = .notDraining
  active : r.state = .active → π.activates

/-- Identified devices stand under their own identities. -/
def Named (s : FabricState) : Prop :=
  ∀ k a, s.accelerators.find? k = some a → valid a.id = true → a.id = k

/-- Records stand under their own identities, which the allocator has passed. -/
structure Indexed (s : FabricState) : Prop where
  partitions : ∀ k r, s.partitions.find? k = some r → r.id = k ∧ k < s.ids.next
  reservations : ∀ k r, s.reservations.find? k = some r → r.id = k ∧ k < s.ids.next
  attempts : ∀ k a, s.attempts.find? k = some a → a.id = k ∧ k < s.ids.next
  assignments : ∀ k a, s.assignments.find? k = some a → a.id = k

/-- Plans stand under their own identities, which the allocator has passed. -/
def Filed (s : FabricState) : Prop :=
  ∀ k p, s.plans.find? k = some p → p.id = k ∧ k < s.ids.next

/-- What the numbering of a registry depends on. -/
def identityPart (s : FabricState) :=
  (s.ids, s.partitions, s.reservations, s.plans, s.attempts, s.assignments, s.accelerators,
    s.workers, s.keyIndex)

/-- Every identity in use is one that the allocator has passed. -/
structure Numbered (s : FabricState) : Prop where
  partitions : s.partitions.Below s.ids.next
  reservations : s.reservations.Below s.ids.next
  plans : s.plans.Below s.ids.next
  attempts : s.attempts.Below s.ids.next
  assignments : s.assignments.Below s.ids.next
  accelerators : s.accelerators.Below s.ids.next
  workers : s.workers.Below s.ids.next
  keys : ∀ text id, s.keyIndex.find? text = some id → id < s.ids.next

lemma Numbered.of_keeps {s s' : FabricState} (h : Procedure.Keeps identityPart s s')
    (hs : Numbered s) : Numbered s' := by
  obtain ⟨hids, hpartitions, hreservations, hplans, hattempts, hassignments, haccelerators,
      hworkers, hkeys⟩ :
      s'.ids = s.ids ∧ s'.partitions = s.partitions ∧ s'.reservations = s.reservations ∧
      s'.plans = s.plans ∧ s'.attempts = s.attempts ∧ s'.assignments = s.assignments ∧
      s'.accelerators = s.accelerators ∧ s'.workers = s.workers ∧ s'.keyIndex = s.keyIndex := by
    simpa [Procedure.Keeps, identityPart] using h
  constructor
  · rw [hids, hpartitions]
    exact hs.partitions
  · rw [hids, hreservations]
    exact hs.reservations
  · rw [hids, hplans]
    exact hs.plans
  · rw [hids, hattempts]
    exact hs.attempts
  · rw [hids, hassignments]
    exact hs.assignments
  · rw [hids, haccelerators]
    exact hs.accelerators
  · rw [hids, hworkers]
    exact hs.workers
  · rw [hids, hkeys]
    exact hs.keys

/-- The allocator only moves forward. -/
lemma Numbered.allocate {s : FabricState} {ids : IdAllocator} (hs : Numbered s)
    (hle : s.ids.next ≤ ids.next) : Numbered { s with ids := ids } :=
  ⟨hs.partitions.mono hle, hs.reservations.mono hle, hs.plans.mono hle, hs.attempts.mono hle,
    hs.assignments.mono hle, hs.accelerators.mono hle, hs.workers.mono hle,
    fun text id h ↦ lt_of_lt_of_le (hs.keys text id h) hle⟩

/-- A plan that may be reserved binds an established generation of its device. -/
def PartitionPlan.Bound (plan : PartitionPlan) : Prop :=
  plan.feasible = true → plan.outcome ≠ .feasibleAfterReconfiguration →
    known plan.binding.acceleratorGeneration = true

/-- A device that was registered, or whose incarnation was observed. -/
def AcceleratorRecord.established (a : AcceleratorRecord) : Bool :=
  known a.generation || valid a.bootId

/-- Every ledger closes, and everything that may be reserved against has one. -/
structure Accounted (s : FabricState) : Prop where
  balanced : ∀ k l, s.ledgers.find? k = some l → l.Balanced
  ledgered : ∀ k a, s.accelerators.find? k = some a → a.established = true →
    ∃ l, s.ledgers.find? k = some l
  bound : ∀ k p, s.plans.find? k = some p → p.Bound

/-- How a device record may change: its generation never falls, and capability that is published
anew carries a greater generation. -/
structure DeviceEvolves (π : Scope) (k : AcceleratorId) (a a' : AcceleratorRecord) : Prop where
  generation : π.replaces k ∨ a.generation ≤ a'.generation
  capability : π.renumbers k ∨ a'.capability = a.capability ∨
    π.republishes k ∧ a.capability.generation < a'.capability.generation
  incarnation : π.reincarnates k ∨ a'.generation = a.generation ∧ a'.bootId = a.bootId

/-- The terms that a reservation was made on. -/
def PartitionReservation.terms (r : PartitionReservation) :=
  (r.plan, r.accelerator, r.acceleratorGeneration, r.acceleratorBoot, r.capabilityGeneration,
    r.policyGeneration, r.expiresAtMs, r.destructive)

/-- How a reservation may change: its authority and its terms stay, and it is settled once. -/
structure ReservationEvolves (π : Scope) (floor : UInt64) (k : PartitionReservationId)
    (r r' : PartitionReservation) : Prop where
  authority : π.binds k ∨ r'.coordinatorEpoch = r.coordinatorEpoch ∧ r'.worker = r.worker ∧
    r'.workerBoot = r.workerBoot
  lifecycle : π.resettles k ∨ reservationIsTerminal r.lifecycle = false ∨
    r'.lifecycle = r.lifecycle
  settled : (floor ≤ k ∨ π.binds k) ∨ π.settles k r.accelerator r.worker r.workerBoot ∨
    r'.lifecycle = r.lifecycle
  terms : floor ≤ k ∨ r'.terms = r.terms

/-- A reservation as a step creates it: under the current epoch and bound to no worker. -/
def FreshReservation (π : Scope) (s : FabricState) (k : PartitionReservationId)
    (r : PartitionReservation) : Prop :=
  π.binds k ∨ (π.epoch ∨ r.coordinatorEpoch = s.coordinatorEpoch) ∧ r.worker = 0 ∧
    r.workerBoot = 0

/-- What a plan was made under and for. -/
def PartitionPlan.grounds (p : PartitionPlan) :=
  (p.id, p.outcome, p.binding.acceleratorGeneration, p.binding.acceleratorBoot,
    p.binding.capabilityGeneration, p.binding.policyGeneration, p.binding.validUntilMs)

/-- How a registered plan may change: what it was made under stays. -/
structure PlanEvolves (p p' : PartitionPlan) : Prop where
  accelerator : p'.binding.accelerator = p.binding.accelerator
  coordinatorEpoch : p'.binding.coordinatorEpoch = p.binding.coordinatorEpoch
  topologyGeneration : p'.binding.topologyGeneration = p.binding.topologyGeneration
  plannedPartitions : p'.plannedPartitions = p.plannedPartitions
  terminal : p.terminal = true → p'.terminal = true
  grounds : p'.grounds = p.grounds

/-- How a step may change what authority rests on: the generations, the epoch, the workers, the
devices, the reservations, the profiles and the plans. -/
structure Tenure (π : Scope) (floor : UInt64) (s s' : FabricState) : Prop where
  policy : s.policyGeneration ≤ s'.policyGeneration
  state : s.stateGeneration ≤ s'.stateGeneration
  forward : s.coordinatorEpoch ≤ s'.coordinatorEpoch
  epoch : π.epoch ∨ s'.coordinatorEpoch = s.coordinatorEpoch
  workers : π.workers ∨ s'.workers = s.workers
  devices : ∀ k a, s.accelerators.find? k = some a →
    π.forgets k ∨ ∃ a', s'.accelerators.find? k = some a' ∧ DeviceEvolves π k a a'
  topologies : ∀ k a', s'.accelerators.find? k = some a' → π.topology k a'.topologyGeneration ∨
    ∃ a, s.accelerators.find? k = some a ∧ a'.topologyGeneration = a.topologyGeneration
  reservations : ∀ k r', s'.reservations.find? k = some r' →
    (floor ≤ k ∧ π.reserves) ∧ FreshReservation π s k r' ∨
      ∃ r, s.reservations.find? k = some r ∧ ReservationEvolves π floor k r r'
  kept : ∀ k r, s.reservations.find? k = some r →
    π.evicts k ∨ ∃ r', s'.reservations.find? k = some r'
  profiles : ∀ k q, s.profiles.find? k = some q → ∃ q', s'.profiles.find? k = some q'
  published : ∀ k q', s'.profiles.find? k = some q' →
    π.publishes k q'.generation q'.resources ∧ q'.id = k ∨
      ∃ q, s.profiles.find? k = some q ∧ q'.generation = q.generation ∧
        q'.resources = q.resources ∧ q'.id = q.id
  plans : ∀ k p', s'.plans.find? k = some p' →
    ∃ p, (s.plans.find? k = some p ∨ floor ≤ k ∧ π.plans p) ∧ PlanEvolves p p'
  planned : ∀ k, k < floor → ∀ p, s.plans.find? k = some p →
    π.discards k ∨ ∃ p', s'.plans.find? k = some p'
  closed : π.closes ∨ s'.closed = s.closed

/-- What authority rests on. -/
def authorityPart (s : FabricState) :=
  (s.policyGeneration, s.stateGeneration, s.coordinatorEpoch, s.workers, s.accelerators,
    s.reservations, s.profiles, s.plans, s.closed)

/-- How a step may change the registry, for identities below a floor. -/
structure Evolves (π : Scope) (floor : UInt64) (s s' : FabricState) : Prop where
  ids : s.ids.next ≤ s'.ids.next
  indexed : Indexed s → Indexed s'
  filed : Filed s → Filed s'
  named : Named s → Named s'
  partitions : ∀ k, k < floor →
    Option.Rel (RecordEvolves π) (s.partitions.find? k) (s'.partitions.find? k)
  origin : ∀ k r', s'.partitions.find? k = some r' → (r'.id = k ∧ Fresh π r') ∨
    ∃ r, s.partitions.find? k = some r ∧ RecordEvolves π r r'
  attempts : ∀ k a', s'.attempts.find? k = some a' →
    ∃ a, (s.attempts.find? k = some a ∨ floor ≤ k ∧ π.registers a) ∧ AttemptEvolves π a a'
  assignments : π.occupancy ∨
    ∀ k a, s'.assignments.find? k = some a → s.assignments.find? k = some a
  accounted : π.totals → Named s → Accounted s → Accounted s'
  numbered : π.numbers → Numbered s → Numbered s'
  tenure : Tenure π floor s s'

variable {π : Scope} {floor : UInt64} {s s' : FabricState}

lemma RecordEvolves.refl (r : PartitionRecord) : RecordEvolves π r r :=
  ⟨rfl, rfl, rfl, le_refl _, Legal.refl _, Or.inr rfl, Or.inr (Or.inl rfl), ⟨rfl, rfl⟩, Or.inr⟩

lemma RecordEvolves.trans {r r' r'' : PartitionRecord} (h : RecordEvolves π r r')
    (h' : RecordEvolves π r' r'') : RecordEvolves π r r'' := by
  refine ⟨h'.id.trans h.id, h'.accelerator.trans h.accelerator, h'.resources.trans h.resources,
    h.generation.trans h'.generation, h.legal.trans h'.legal, ?_, ?_,
    ⟨h'.incarnation.1.trans h.incarnation.1, h'.incarnation.2.trans h.incarnation.2⟩,
    fun hactive ↦ (h'.active hactive).elim Or.inl h.active⟩
  · rcases h'.native with hn | hn
    · exact Or.inl hn
    · exact h.native.imp_right hn.trans
  · rcases h'.drain with hd | hd | hd
    · exact Or.inl hd
    · rw [hd]
      exact h.drain
    · exact Or.inr (Or.inr hd)

lemma AttemptEvolves.refl (a : PartitionAttempt) : AttemptEvolves π a a :=
  ⟨rfl, rfl, rfl, rfl, rfl, rfl, Or.inl rfl, fun _ ↦ rfl, Or.inr fun _ ↦ rfl⟩

lemma AttemptEvolves.trans {a a' a'' : PartitionAttempt} (h : AttemptEvolves π a a')
    (h' : AttemptEvolves π a' a'') : AttemptEvolves π a a'' := by
  refine ⟨h'.id.trans h.id, h'.kind.trans h.kind, h'.reservation.trans h.reservation,
    h'.accelerator.trans h.accelerator, h'.partitions.trans h.partitions,
    h'.desired.trans h.desired, ?_, fun hflight ↦ ?_, ?_⟩
  rotate_left
  · obtain rfl := h'.flight hflight
    exact h.flight hflight
  · rcases h.kept with ha | hkept
    · exact Or.inl ha
    · refine h'.kept.imp_right fun hkept' hflight ↦ ?_
      obtain rfl := hkept hflight
      exact hkept' hflight
  rcases h.state with hs | hs | ⟨hs, hs', hd⟩
  · rcases h'.state with ht | ht | ⟨ht, ht', hd⟩
    · exact Or.inl (ht.trans hs)
    · exact Or.inr (Or.inl (hs ▸ ht))
    · exact Or.inr (Or.inr ⟨hs ▸ ht, ht', h.accelerator ▸ hd⟩)
  · exact Or.inr (Or.inl hs)
  · -- a decided attempt stays decided
    rcases h'.state with ht | ht | ⟨ht, -⟩
    · exact Or.inr (Or.inr ⟨hs, ht.trans hs', hd⟩)
    · rw [hs'] at ht
      exact absurd ht (by decide)
    · rw [hs'] at ht
      exact absurd ht (by decide)

lemma Fresh.evolve {r r' : PartitionRecord} (h : Fresh π r) (hr : RecordEvolves π r r') :
    Fresh π r' := by
  refine ⟨?_, ?_, fun hactive ↦ (hr.active hactive).elim id h.active⟩
  · rcases hr.native with hn | hn
    · exact Or.inl hn
    · exact h.native.imp_right hn.trans
  · rcases hr.drain with hd | hd | hd
    · exact Or.inl hd
    · rw [hd]
      exact h.drain
    · exact Or.inr hd

lemma DeviceEvolves.refl (k : AcceleratorId) (a : AcceleratorRecord) : DeviceEvolves π k a a :=
  ⟨Or.inr (le_refl _), Or.inr (Or.inl rfl), Or.inr ⟨rfl, rfl⟩⟩

lemma DeviceEvolves.trans {k : AcceleratorId} {a a' a'' : AcceleratorRecord}
    (h : DeviceEvolves π k a a') (h' : DeviceEvolves π k a' a'') : DeviceEvolves π k a a'' := by
  refine ⟨?_, ?_, ?_⟩
  · rcases h'.generation with hr | hle
    · exact Or.inl hr
    · exact h.generation.imp_right fun h ↦ h.trans hle
  rotate_left
  · rcases h'.incarnation with hr | ⟨hgeneration, hboot⟩
    · exact Or.inl hr
    · rw [hgeneration, hboot]
      exact h.incarnation
  rcases h.capability with hr | hsame | hlt
  · exact Or.inl hr
  · rw [← hsame]
    exact h'.capability
  · rcases h'.capability with hr | hsame | hlt'
    · exact Or.inl hr
    · exact Or.inr (Or.inr (hsame ▸ hlt))
    · exact Or.inr (Or.inr ⟨hlt.1, lt_trans hlt.2 hlt'.2⟩)

lemma ReservationEvolves.refl (k : PartitionReservationId) (r : PartitionReservation) :
    ReservationEvolves π floor k r r :=
  ⟨Or.inr ⟨rfl, rfl, rfl⟩, Or.inr (Or.inr rfl), Or.inr (Or.inr rfl), Or.inr rfl⟩

lemma ReservationEvolves.trans {k : PartitionReservationId} {r r' r'' : PartitionReservation}
    (h : ReservationEvolves π floor k r r') (h' : ReservationEvolves π floor k r' r'') :
    ReservationEvolves π floor k r r'' := by
  refine ⟨?_, ?_, ?_, ?_⟩
  · rcases h.authority with hb | ⟨hepoch, hworker, hboot⟩
    · exact Or.inl hb
    · rw [← hepoch, ← hworker, ← hboot]
      exact h'.authority
  · rcases h.lifecycle with hr | hlive | hsame
    · exact Or.inl hr
    · exact Or.inr (Or.inl hlive)
    · rw [← hsame]
      exact h'.lifecycle
  · rcases h.authority with hb | ⟨-, hworker, hboot⟩
    · exact Or.inl (Or.inr hb)
    · rcases h.terms with hk | hterms
      · exact Or.inl (Or.inl hk)
      · have haccelerator : r'.accelerator = r.accelerator :=
          congrArg (fun t ↦ t.2.1) hterms
        have hsettled := h'.settled
        rw [haccelerator, hworker, hboot] at hsettled
        rcases hsettled with hk | hs | hsame
        · exact Or.inl hk
        · exact Or.inr (Or.inl hs)
        · rw [hsame]
          exact h.settled
  · rcases h'.terms with hk | hterms
    · exact Or.inl hk
    · exact h.terms.imp_right hterms.trans

/-- A live reservation may be settled where the scope allows it. -/
lemma ReservationEvolves.settle {k : PartitionReservationId} {r r' : PartitionReservation}
    (hsettles : π.settles k r.accelerator r.worker r.workerBoot)
    (hlive : reservationIsTerminal r.lifecycle = false)
    (hepoch : r'.coordinatorEpoch = r.coordinatorEpoch) (hworker : r'.worker = r.worker)
    (hboot : r'.workerBoot = r.workerBoot) (hterms : r'.terms = r.terms) :
    ReservationEvolves π floor k r r' :=
  ⟨Or.inr ⟨hepoch, hworker, hboot⟩, Or.inr (Or.inl hlive), Or.inr (Or.inl hsettles),
    Or.inr hterms⟩

lemma FreshReservation.evolve {k : PartitionReservationId} {r r' : PartitionReservation}
    (h : FreshReservation π s k r) (hr : ReservationEvolves π floor k r r') :
    FreshReservation π s k r' := by
  rcases hr.authority with hb | ⟨hepoch, hworker, hboot⟩
  · exact Or.inl hb
  · unfold FreshReservation at h ⊢
    rwa [hepoch, hworker, hboot]

lemma PlanEvolves.identity {p p' : PartitionPlan} (h : PlanEvolves p p') : p'.id = p.id :=
  congrArg Prod.fst h.grounds

lemma PlanEvolves.refl (p : PartitionPlan) : PlanEvolves p p := ⟨rfl, rfl, rfl, rfl, id, rfl⟩

lemma PlanEvolves.trans {p p' p'' : PartitionPlan} (h : PlanEvolves p p')
    (h' : PlanEvolves p' p'') : PlanEvolves p p'' :=
  ⟨h'.accelerator.trans h.accelerator, h'.coordinatorEpoch.trans h.coordinatorEpoch,
    h'.topologyGeneration.trans h.topologyGeneration,
    h'.plannedPartitions.trans h.plannedPartitions, h'.terminal ∘ h.terminal,
    h'.grounds.trans h.grounds⟩

/-- A step that leaves everything alone that authority rests on. -/
lemma Tenure.of_keeps (h : Procedure.Keeps authorityPart s s') : Tenure π floor s s' := by
  obtain ⟨hpolicy, hstate, hepoch, hworkers, hdevices, hreservations, hprofiles, hplans,
      hclosed⟩ :
      s'.policyGeneration = s.policyGeneration ∧ s'.stateGeneration = s.stateGeneration ∧
      s'.coordinatorEpoch = s.coordinatorEpoch ∧ s'.workers = s.workers ∧
      s'.accelerators = s.accelerators ∧ s'.reservations = s.reservations ∧
      s'.profiles = s.profiles ∧ s'.plans = s.plans ∧ s'.closed = s.closed := by
    simpa [Procedure.Keeps, authorityPart] using h
  constructor
  · rw [hpolicy]
  · rw [hstate]
  · rw [hepoch]
  · exact Or.inr hepoch
  · exact Or.inr hworkers
  · intro k a ha
    exact Or.inr ⟨a, hdevices ▸ ha, .refl k a⟩
  · intro k a ha
    exact Or.inr ⟨a, hdevices ▸ ha, rfl⟩
  · intro k r hr
    exact Or.inr ⟨r, hreservations ▸ hr, .refl k r⟩
  · intro k r hr
    exact Or.inr ⟨r, hreservations ▸ hr⟩
  · intro k q hq
    exact ⟨q, hprofiles ▸ hq⟩
  · intro k q hq
    exact Or.inr ⟨q, hprofiles ▸ hq, rfl, rfl, rfl⟩
  · intro k p hp
    exact ⟨p, Or.inl (hplans ▸ hp), .refl p⟩
  · intro k _ p hp
    exact Or.inr ⟨p, hplans ▸ hp⟩
  · exact Or.inr hclosed

lemma Tenure.trans {t u : FabricState} (h : Tenure π floor s t) (h' : Tenure π floor t u) :
    Tenure π floor s u := by
  refine ⟨h.policy.trans h'.policy, h.state.trans h'.state, h.forward.trans h'.forward, ?_, ?_,
    ?_, ?_, ?_, ?_, ?_, ?_, ?_, ?_, ?_⟩
  · rcases h'.epoch with he | he
    · exact Or.inl he
    · exact h.epoch.imp_right he.trans
  · rcases h'.workers with hw | hw
    · exact Or.inl hw
    · exact h.workers.imp_right hw.trans
  · intro k a ha
    rcases h.devices k a ha with hf | ⟨b, hb, hab⟩
    · exact Or.inl hf
    · rcases h'.devices k b hb with hf | ⟨c, hc, hbc⟩
      · exact Or.inl hf
      · exact Or.inr ⟨c, hc, hab.trans hbc⟩
  · intro k c hc
    rcases h'.topologies k c hc with ht | ⟨b, hb, hcb⟩
    · exact Or.inl ht
    · rw [hcb]
      exact h.topologies k b hb
  · intro k r'' hr''
    rcases h'.reservations k r'' hr'' with ⟨hk, hfresh⟩ | ⟨r', hr', hevolves'⟩
    · refine Or.inl ⟨hk, ?_⟩
      rcases hfresh with hb | ⟨hepoch, hunbound⟩
      · exact Or.inl hb
      · refine Or.inr ⟨?_, hunbound⟩
        rcases h.epoch with he | he
        · exact Or.inl he
        · exact hepoch.imp_right fun hr ↦ hr.trans he
    · rcases h.reservations k r' hr' with ⟨hk, hfresh⟩ | ⟨r, hr, hevolves⟩
      · exact Or.inl ⟨hk, hfresh.evolve hevolves'⟩
      · exact Or.inr ⟨r, hr, hevolves.trans hevolves'⟩
  · intro k r hr
    rcases h.kept k r hr with he | ⟨r', hr'⟩
    · exact Or.inl he
    · exact h'.kept k r' hr'
  · intro k q hq
    obtain ⟨q', hq'⟩ := h.profiles k q hq
    exact h'.profiles k q' hq'
  · intro k q'' hq''
    rcases h'.published k q'' hq'' with hp | ⟨q', hq', hgeneration, hresources, hid⟩
    · exact Or.inl hp
    · rw [hgeneration, hresources, hid]
      exact h.published k q' hq'
  · intro k p'' hp''
    obtain ⟨p', hp' | hnew, hevolves'⟩ := h'.plans k p'' hp''
    · obtain ⟨p, hp, hevolves⟩ := h.plans k p' hp'
      exact ⟨p, hp, hevolves.trans hevolves'⟩
    · exact ⟨p', Or.inr hnew, hevolves'⟩
  · intro k hk p hp
    rcases h.planned k hk p hp with hd | ⟨p', hp'⟩
    · exact Or.inl hd
    · exact h'.planned k hk p' hp'
  · rcases h'.closed with hc | hc
    · exact Or.inl hc
    · exact h.closed.imp_right hc.trans

instance : Std.Refl (Evolves π floor) where
  refl s := by
    refine ⟨le_refl _, id, id, id, fun k _ ↦ ?_, fun k r hr ↦ Or.inr ⟨r, hr, .refl r⟩,
      fun k a h ↦ ⟨a, Or.inl h, .refl a⟩,
      Or.inr fun _ _ ↦ id, fun _ _ ↦ id, fun _ ↦ id, .of_keeps rfl⟩
    cases s.partitions.find? k with
    | none => exact .none
    | some r => exact .some (.refl r)

instance : IsTrans FabricState (Evolves π floor) where
  trans s t u h h' := by
    refine ⟨h.ids.trans h'.ids, h'.indexed ∘ h.indexed, h'.filed ∘ h.filed, h'.named ∘ h.named,
      fun k hk ↦ ?_,
      fun k r'' hr'' ↦ ?_, fun k a ha ↦ ?_, ?_,
      fun ht hn ↦ h'.accounted ht (h.named hn) ∘ h.accounted ht hn,
      fun hn ↦ h'.numbered hn ∘ h.numbered hn, h.tenure.trans h'.tenure⟩
    · have hst := h.partitions k hk
      have htu := h'.partitions k hk
      revert hst htu
      generalize s.partitions.find? k = x
      generalize t.partitions.find? k = y
      generalize u.partitions.find? k = z
      rintro (_ | hxy) (_ | hyz)
      · exact .some (RecordEvolves.trans ‹_› ‹_›)
      · exact .none
    · rcases h'.origin k r'' hr'' with hfresh | ⟨r', hr', hevolves'⟩
      · exact Or.inl hfresh
      · rcases h.origin k r' hr' with hfresh | ⟨r, hr, hevolves⟩
        · exact Or.inl ⟨hevolves'.id.trans hfresh.1, hfresh.2.evolve hevolves'⟩
        · exact Or.inr ⟨r, hr, hevolves.trans hevolves'⟩
    · obtain ⟨b, hb | hb, hba⟩ := h'.attempts k a ha
      · obtain ⟨c, hc, hcb⟩ := h.attempts k b hb
        exact ⟨c, hc, hcb.trans hba⟩
      · exact ⟨b, Or.inr hb, hba⟩
    · rcases h.assignments with ho | hst
      · exact Or.inl ho
      · exact h'.assignments.imp_right fun htu k a ha ↦ hst k a (htu k a ha)

/-- A step that leaves every related part of the registry alone. -/
lemma Evolves.of_eq (hp : s'.partitions = s.partitions) (hr : s'.reservations = s.reservations)
    (ha : s'.attempts = s.attempts) (hb : s'.assignments = s.assignments)
    (hi : s'.ids = s.ids) (hl : s'.ledgers = s.ledgers) (hc : s'.accelerators = s.accelerators)
    (hq : s'.plans = s.plans) (hn : π.numbers → Numbered s → Numbered s')
    (ht : Tenure π floor s s') : Evolves π floor s s' := by
  have hs := refl_of (Evolves π floor) s
  refine ⟨by rw [hi], fun h ↦ ⟨?_, ?_, ?_, ?_⟩, ?_, ?_, by rw [hp]; exact hs.partitions,
    by rw [hp]; exact hs.origin, by rw [ha]; exact hs.attempts, by rw [hb]; exact hs.assignments,
    fun _ _ h ↦ ⟨?_, ?_, ?_⟩, hn, ht⟩
  · rw [hp, hi]
    exact h.partitions
  · rw [hr, hi]
    exact h.reservations
  · rw [ha, hi]
    exact h.attempts
  · rw [hb]
    exact h.assignments
  · unfold Filed
    rw [hq, hi]
    exact fun h ↦ h
  · unfold Named
    rw [hc]
    exact fun h ↦ h
  · rw [hl]
    exact h.balanced
  · rw [hc, hl]
    exact h.ledgered
  · rw [hq]
    exact h.bound

lemma evolves_bump (s : FabricState) : Evolves π floor s s.bumpStateGeneration := by
  unfold FabricState.bumpStateGeneration
  cases hg : next s.stateGeneration with
  | error e => exact refl_of _ s
  | ok g =>
      have ht : Tenure π floor s s := .of_keeps rfl
      exact .of_eq rfl rfl rfl rfl rfl rfl rfl rfl (fun _ ↦ .of_keeps rfl)
        { ht with state := le_of_lt (lt_next hg) }

lemma evolves_workers {m : KeyedMap WorkerId WorkerRecord} (h : π.workers)
    (hn : π.numbers → s.workers.Below s.ids.next → m.Below s.ids.next) :
    Evolves π floor s { s with workers := m } := by
  have ht : Tenure π floor s s := .of_keeps rfl
  exact .of_eq rfl rfl rfl rfl rfl rfl rfl rfl
    (fun hπ hs ↦ { hs with workers := hn hπ hs.workers }) { ht with workers := Or.inl h }

lemma evolves_modifyWorker {key : WorkerId} {f : WorkerRecord → WorkerRecord} (h : π.workers) :
    Evolves π floor s { s with workers := s.workers.modify key f } :=
  evolves_workers h fun _ hs ↦ hs.modify f

lemma evolves_epoch {epoch : CoordinatorEpoch} (h : π.epoch) (hle : s.coordinatorEpoch ≤ epoch) :
    Evolves π floor s { s with coordinatorEpoch := epoch } := by
  have ht : Tenure π floor s s := .of_keeps rfl
  exact .of_eq rfl rfl rfl rfl rfl rfl rfl rfl (fun _ ↦ .of_keeps rfl)
    { ht with forward := hle, epoch := Or.inl h }

lemma evolves_closed {closed : Bool} {openedAtMs closedAtMs : UInt64} (h : π.closes) :
    Evolves π floor s
      { s with closed := closed, openedAtMs := openedAtMs, closedAtMs := closedAtMs } := by
  have ht : Tenure π floor s s := .of_keeps rfl
  exact .of_eq rfl rfl rfl rfl rfl rfl rfl rfl (fun _ ↦ .of_keeps rfl)
    { ht with closed := Or.inl h }

lemma evolves_policy {policy : PlanningPolicy} {generation : PolicyGeneration}
    (hle : s.policyGeneration ≤ generation) :
    Evolves π floor s { s with policy := policy, policyGeneration := generation } := by
  have ht : Tenure π floor s s := .of_keeps rfl
  exact .of_eq rfl rfl rfl rfl rfl rfl rfl rfl (fun _ ↦ .of_keeps rfl) { ht with policy := hle }

lemma evolves_insertProfile {profile : PartitionProfile}
    (h : π.publishes profile.id profile.generation profile.resources) :
    Evolves π floor s { s with profiles := s.profiles.insert profile.id profile } := by
  have ht : Tenure π floor s s := .of_keeps rfl
  refine .of_eq rfl rfl rfl rfl rfl rfl rfl rfl (fun _ ↦ .of_keeps rfl)
    { ht with profiles := fun k q hq ↦ ?_, published := fun k q' hq' ↦ ?_ }
  · rw [KeyedMap.find?_insert]
    split
    · exact ⟨profile, rfl⟩
    · exact ⟨q, hq⟩
  · rw [KeyedMap.find?_insert] at hq'
    split at hq'
    · rename_i hk
      subst hk
      obtain rfl := Option.some.inj hq'
      exact Or.inl ⟨h, rfl⟩
    · exact Or.inr ⟨q', hq', rfl, rfl, rfl⟩

/-- A profile may take on exclusions in every step. -/
lemma evolves_modifyProfile {key : PartitionProfileId} {f : PartitionProfile → PartitionProfile}
    (h : ∀ q, (f q).generation = q.generation ∧ (f q).resources = q.resources ∧ (f q).id = q.id) :
    Evolves π floor s { s with profiles := s.profiles.modify key f } := by
  have ht : Tenure π floor s s := .of_keeps rfl
  refine .of_eq rfl rfl rfl rfl rfl rfl rfl rfl (fun _ ↦ .of_keeps rfl)
    { ht with profiles := fun k q hq ↦ ?_, published := fun k q' hq' ↦ Or.inr ?_ }
  · rw [KeyedMap.find?_modify, hq]
    split
    · exact ⟨f q, rfl⟩
    · exact ⟨q, rfl⟩
  · rw [KeyedMap.find?_modify] at hq'
    split at hq'
    · obtain ⟨q, hq, rfl⟩ := Option.map_eq_some_iff.mp hq'
      exact ⟨q, hq, h q⟩
    · exact ⟨q', hq', rfl, rfl, rfl⟩

/-- Records may be replaced key by key as long as each change is an evolution. -/
lemma evolves_partitions {m : KeyedMap PartitionId PartitionRecord}
    (h : ∀ k, Option.Rel (RecordEvolves π) (s.partitions.find? k) (m.find? k)) :
    Evolves π floor s { s with partitions := m } := by
  have hback : ∀ k r', m.find? k = some r' →
      ∃ r, s.partitions.find? k = some r ∧ RecordEvolves π r r' := by
    intro k r' hr'
    have hk := h k
    rw [hr'] at hk
    cases hs : s.partitions.find? k with
    | none =>
        rw [hs] at hk
        cases hk
    | some r =>
        rw [hs] at hk
        cases hk with
        | some hrr => exact ⟨r, rfl, hrr⟩
  have hs := refl_of (Evolves π floor) s
  refine ⟨le_refl _, fun hi ↦ ⟨fun k r' hr' ↦ ?_, hi.reservations, hi.attempts, hi.assignments⟩, id, id,
    fun k _ ↦ h k, fun k r' hr' ↦ Or.inr (hback k r' hr'), hs.attempts, hs.assignments,
    fun _ _ hacc ↦ ⟨hacc.balanced, hacc.ledgered, hacc.bound⟩, fun _ hn ↦ { hn with
      partitions := hn.partitions.of_keys fun k r' hr' ↦ ?_ }, .of_keeps rfl⟩
  · obtain ⟨r, hr, hrr⟩ := hback k r' hr'
    obtain ⟨hid, hlt⟩ := hi.partitions k r hr
    exact ⟨hrr.id.trans hid, hlt⟩
  · obtain ⟨r, hr, -⟩ := hback k r' hr'
    exact ⟨r, hr⟩

lemma rel_modify {m : KeyedMap PartitionId PartitionRecord} {key : PartitionId}
    {f : PartitionRecord → PartitionRecord}
    (h : ∀ r, m.find? key = some r → RecordEvolves π r (f r)) (k : PartitionId) :
    Option.Rel (RecordEvolves π) (m.find? k) ((m.modify key f).find? k) := by
  rw [KeyedMap.find?_modify]
  by_cases hk : k = key
  · subst hk
    rw [if_pos rfl]
    cases hm : m.find? k with
    | none => exact .none
    | some r => exact .some (h r hm)
  · rw [if_neg hk]
    cases m.find? k with
    | none => exact .none
    | some r => exact .some (.refl r)

lemma evolves_modifyPartition {key : PartitionId} {f : PartitionRecord → PartitionRecord}
    (h : ∀ r, s.partitions.find? key = some r → RecordEvolves π r (f r)) :
    Evolves π floor s (s.modifyPartition key f) :=
  evolves_partitions (rel_modify h)

lemma evolves_insertPartition {key : PartitionId} {r : PartitionRecord} (hfloor : floor ≤ key)
    (hlt : key < s.ids.next) (hid : r.id = key) (hfresh : Fresh π r) :
    Evolves π floor s { s with partitions := s.partitions.insert key r } := by
  have hs := refl_of (Evolves π floor) s
  refine ⟨le_refl _, fun hi ↦ ⟨fun k r' hr' ↦ ?_, hi.reservations, hi.attempts, hi.assignments⟩, id, id,
    fun k hk ↦ ?_, fun k r' hr' ↦ ?_, hs.attempts, hs.assignments,
    fun _ _ hacc ↦ ⟨hacc.balanced, hacc.ledgered, hacc.bound⟩,
    fun _ hn ↦ { hn with partitions := hn.partitions.insert hlt r }, .of_keeps rfl⟩
  · rw [KeyedMap.find?_insert] at hr'
    split at hr'
    · rename_i hkey
      obtain rfl := Option.some.inj hr'
      exact ⟨hkey ▸ hid, hkey ▸ hlt⟩
    · exact hi.partitions k r' hr'
  · rw [KeyedMap.find?_insert_of_ne _ _ (ne_of_lt (lt_of_lt_of_le hk hfloor))]
    exact hs.partitions k hk
  · rw [KeyedMap.find?_insert] at hr'
    split at hr'
    · obtain rfl := Option.some.inj hr'
      exact Or.inl ⟨‹k = key› ▸ hid, hfresh⟩
    · exact hs.origin k r' hr'

lemma evolves_erasePartition {key : PartitionId} (hfloor : floor ≤ key) :
    Evolves π floor s { s with partitions := s.partitions.erase key } := by
  have hs := refl_of (Evolves π floor) s
  have hsub : ∀ k r, (s.partitions.erase key).find? k = some r → s.partitions.find? k = some r := by
    intro k r hr
    rw [KeyedMap.find?_erase] at hr
    split at hr
    · exact absurd hr (by simp)
    · exact hr
  refine ⟨le_refl _, fun hi ↦ ⟨fun k r hr ↦ hi.partitions k r (hsub k r hr), hi.reservations,
    hi.attempts, hi.assignments⟩, id, id, fun k hk ↦ ?_,
    fun k r hr ↦ hs.origin k r (hsub k r hr),
    hs.attempts, hs.assignments, fun _ _ hacc ↦ ⟨hacc.balanced, hacc.ledgered, hacc.bound⟩,
    fun _ hn ↦ { hn with partitions := hn.partitions.of_keys fun k r hr ↦ ⟨r, hsub k r hr⟩ },
    .of_keeps rfl⟩
  rw [KeyedMap.find?_erase, if_neg (ne_of_lt (lt_of_lt_of_le hk hfloor))]
  exact hs.partitions k hk

/-- Kept reservations may evolve; others may be dropped and new ones may appear above the floor
where the scope allows it. -/
lemma evolves_reservations {m : KeyedMap PartitionReservationId PartitionReservation}
    (h : ∀ k r, m.find? k = some r →
      (floor ≤ k ∧ r.id = k ∧ k < s.ids.next ∧ π.reserves ∧ FreshReservation π s k r) ∨
      ∃ r₀, s.reservations.find? k = some r₀ ∧ r.id = r₀.id ∧ ReservationEvolves π floor k r₀ r)
    (hkept : ∀ k r, s.reservations.find? k = some r → π.evicts k ∨ ∃ r', m.find? k = some r') :
    Evolves π floor s { s with reservations := m } := by
  have hs := refl_of (Evolves π floor) s
  have ht : ∀ k r, m.find? k = some r → (floor ≤ k ∧ π.reserves) ∧ FreshReservation π s k r ∨
      ∃ r₀, s.reservations.find? k = some r₀ ∧ ReservationEvolves π floor k r₀ r := by
    intro k r hr
    rcases h k r hr with ⟨hk, -, -, hreserves, hfresh⟩ | ⟨r₀, hr₀, -, hevolves⟩
    · exact Or.inl ⟨⟨hk, hreserves⟩, hfresh⟩
    · exact Or.inr ⟨r₀, hr₀, hevolves⟩
  refine ⟨le_refl _, fun hi ↦ ⟨hi.partitions, fun k r hr ↦ ?_, hi.attempts, hi.assignments⟩, id, id,
    hs.partitions, hs.origin, hs.attempts, hs.assignments,
    fun _ _ hacc ↦ ⟨hacc.balanced, hacc.ledgered, hacc.bound⟩,
    fun _ hn ↦ { hn with reservations := fun k r hr ↦ ?_ },
    { hs.tenure with reservations := ht, kept := hkept }⟩
  · rcases h k r hr with ⟨-, hid, hlt, -⟩ | ⟨r₀, hr₀, hid, -⟩
    · exact ⟨hid, hlt⟩
    · rw [hid]
      exact hi.reservations k r₀ hr₀
  · rcases h k r hr with ⟨-, -, hlt, -⟩ | ⟨r₀, hr₀, -⟩
    · exact hlt
    · exact hn.reservations k r₀ hr₀

lemma evolves_modifyReservation {key : PartitionReservationId}
    {f : PartitionReservation → PartitionReservation}
    (h : ∀ r, s.reservations.find? key = some r →
      (f r).id = r.id ∧ ReservationEvolves π floor key r (f r)) :
    Evolves π floor s (s.modifyReservation key f) := by
  refine evolves_reservations (fun k r hr ↦ Or.inr ?_) fun k r hr ↦ Or.inr ?_
  · rw [KeyedMap.find?_modify] at hr
    split at hr
    · rename_i hk
      subst hk
      obtain ⟨r₀, hr₀, rfl⟩ := Option.map_eq_some_iff.mp hr
      exact ⟨r₀, hr₀, h r₀ hr₀⟩
    · exact ⟨r, hr, rfl, .refl k r⟩
  · rw [KeyedMap.find?_modify, hr]
    split
    · exact ⟨f r, rfl⟩
    · exact ⟨r, rfl⟩

lemma evolves_insertReservation {key : PartitionReservationId} {r : PartitionReservation}
    (hfloor : floor ≤ key) (hid : r.id = key) (hlt : key < s.ids.next) (hreserves : π.reserves)
    (hfresh : FreshReservation π s key r) :
    Evolves π floor s { s with reservations := s.reservations.insert key r } := by
  refine evolves_reservations (fun k r' hr' ↦ ?_) fun k r' hr' ↦ Or.inr ?_
  · rw [KeyedMap.find?_insert] at hr'
    split at hr'
    · rename_i hk
      subst hk
      obtain rfl := Option.some.inj hr'
      exact Or.inl ⟨hfloor, hid, hlt, hreserves, hfresh⟩
    · exact Or.inr ⟨r', hr', rfl, .refl k r'⟩
  · rw [KeyedMap.find?_insert]
    split
    · exact ⟨r, rfl⟩
    · exact ⟨r', hr'⟩

/-- Attempts may be dropped, and kept ones may evolve. -/
lemma evolves_attempts {m : KeyedMap PartitionAttemptId PartitionAttempt}
    (h : ∀ k a', m.find? k = some a' →
      (floor ≤ k ∧ a'.id = k ∧ k < s.ids.next ∧ π.registers a') ∨
        ∃ a, s.attempts.find? k = some a ∧ AttemptEvolves π a a') :
    Evolves π floor s { s with attempts := m } := by
  have hs := refl_of (Evolves π floor) s
  refine ⟨le_refl _, fun hi ↦ ⟨hi.partitions, hi.reservations, fun k a' ha' ↦ ?_,
    hi.assignments⟩, id, id,
    hs.partitions, hs.origin, fun k a' ha' ↦ ?_, hs.assignments,
    fun _ _ hacc ↦ ⟨hacc.balanced, hacc.ledgered, hacc.bound⟩,
    fun _ hn ↦ { hn with attempts := fun k a' ha' ↦ ?_ }, .of_keeps rfl⟩
  rotate_left 2
  · rcases h k a' ha' with ⟨-, -, hlt, -⟩ | ⟨a, ha, -⟩
    · exact hlt
    · exact hn.attempts k a ha
  · rcases h k a' ha' with ⟨-, hid, hlt, -⟩ | ⟨a, ha, haa⟩
    · exact ⟨hid, hlt⟩
    · rw [haa.id]
      exact hi.attempts k a ha
  · rcases h k a' ha' with ⟨hfloor, -, -, hnew⟩ | ⟨a, ha, haa⟩
    · exact ⟨a', Or.inr ⟨hfloor, hnew⟩, .refl a'⟩
    · exact ⟨a, Or.inl ha, haa⟩

lemma evolves_modifyAttempt {key : PartitionAttemptId} {f : PartitionAttempt → PartitionAttempt}
    (h : ∀ a, s.attempts.find? key = some a → AttemptEvolves π a (f a)) :
    Evolves π floor s (s.modifyAttempt key f) := by
  refine evolves_attempts fun k a' ha' ↦ Or.inr ?_
  rw [KeyedMap.find?_modify] at ha'
  split at ha'
  · rename_i hk
    obtain ⟨a, ha, rfl⟩ := Option.map_eq_some_iff.mp ha'
    exact ⟨a, ha, h a (hk ▸ ha)⟩
  · exact ⟨a', ha', .refl a'⟩

lemma evolves_pruneAttempts : Evolves π floor s (pruneAttempts s) := by
  refine evolves_attempts fun k a' ha' ↦ Or.inr ⟨a', ?_, .refl a'⟩
  rcases KeyedMap.find?_prune (fun a : PartitionAttempt ↦ attemptSettled a.state)
    s.limits.maxAttemptHistory k with
    h | ⟨h, -⟩
  · exact h ▸ ha'
  · exact absurd (h.symm.trans ha') (by simp)

/-- Assignments may be dropped in every step. -/
lemma evolves_dropAssignments {m : KeyedMap PartitionAssignmentId PartitionAssignment}
    (h : ∀ k a, m.find? k = some a → s.assignments.find? k = some a) :
    Evolves π floor s { s with assignments := m } := by
  have hs := refl_of (Evolves π floor) s
  exact ⟨le_refl _, fun hi ↦ ⟨hi.partitions, hi.reservations, hi.attempts,
    fun k a ha ↦ hi.assignments k a (h k a ha)⟩, id, id, hs.partitions, hs.origin, hs.attempts,
    Or.inr h,
    fun _ _ hacc ↦ ⟨hacc.balanced, hacc.ledgered, hacc.bound⟩,
    fun _ hn ↦ { hn with assignments := hn.assignments.of_keys fun k a ha ↦ ⟨a, h k a ha⟩ },
    .of_keeps rfl⟩

lemma evolves_insertAssignment {key : PartitionAssignmentId} {a : PartitionAssignment}
    (ho : π.occupancy) (hid : a.id = key) (hlt : π.numbers → Numbered s → key < s.ids.next) :
    Evolves π floor s { s with assignments := s.assignments.insert key a } := by
  have hs := refl_of (Evolves π floor) s
  refine ⟨le_refl _, fun hi ↦ ⟨hi.partitions, hi.reservations, hi.attempts, fun k b hb ↦ ?_⟩, id, id,
    hs.partitions, hs.origin, hs.attempts, Or.inl ho,
    fun _ _ hacc ↦ ⟨hacc.balanced, hacc.ledgered, hacc.bound⟩,
    fun hπ hn ↦ { hn with assignments := hn.assignments.insert (hlt hπ hn) a }, .of_keeps rfl⟩
  rw [KeyedMap.find?_insert] at hb
  split at hb
  · rename_i hkey
    obtain rfl := Option.some.inj hb
    exact hkey ▸ hid
  · exact hi.assignments k b hb

/-- Plans may change in any way that keeps them bound to what they were made under; others may be
dropped where the scope allows it. -/
lemma evolves_plans {m : KeyedMap PartitionPlanId PartitionPlan}
    (h : Named s → (∀ k p, s.plans.find? k = some p → p.Bound) →
      ∀ k p, m.find? k = some p → p.Bound)
    (hplans : ∀ k p', m.find? k = some p' →
      ∃ p, (s.plans.find? k = some p ∨ (floor ≤ k ∧ p.id = k ∧ k < s.ids.next) ∧ π.plans p) ∧
        PlanEvolves p p')
    (hkept : ∀ k, k < floor → ∀ p, s.plans.find? k = some p →
      π.discards k ∨ ∃ p', m.find? k = some p') :
    Evolves π floor s { s with plans := m } := by
  have hs := refl_of (Evolves π floor) s
  refine ⟨le_refl _, fun hi ↦ ⟨hi.partitions, hi.reservations, hi.attempts, hi.assignments⟩,
    fun hfiled k p' hp' ↦ ?_, id, hs.partitions, hs.origin, hs.attempts, hs.assignments,
    fun _ hn hacc ↦ ⟨hacc.balanced, hacc.ledgered, h hn hacc.bound⟩,
    fun _ hn ↦ { hn with plans := fun k p' hp' ↦ ?_ },
    { hs.tenure with plans := fun k p' hp' ↦ ?_, planned := hkept }⟩
  · obtain ⟨p, hp, hevolves⟩ := hplans k p' hp'
    rw [hevolves.identity]
    rcases hp with hp | ⟨⟨-, hid, hlt⟩, -⟩
    · exact hfiled k p hp
    · exact ⟨hid, hlt⟩
  · obtain ⟨p, hp | ⟨⟨-, -, hlt⟩, -⟩, -⟩ := hplans k p' hp'
    · exact hn.plans k p hp
    · exact hlt
  · obtain ⟨p, hp, hevolves⟩ := hplans k p' hp'
    exact ⟨p, hp.imp_right fun hnew ↦ ⟨hnew.1.1, hnew.2⟩, hevolves⟩

lemma evolves_modifyPlan {key : PartitionPlanId} {f : PartitionPlan → PartitionPlan}
    (h : ∀ p, p.Bound → (f p).Bound) (hplans : ∀ p, PlanEvolves p (f p)) :
    Evolves π floor s { s with plans := s.plans.modify key f } := by
  refine evolves_plans (fun _ hall k p hp ↦ ?_) (fun k p' hp' ↦ ?_) fun k _ p hp ↦ Or.inr ?_
  · rw [KeyedMap.find?_modify] at hp
    split at hp
    · obtain ⟨q, hq, rfl⟩ := Option.map_eq_some_iff.mp hp
      exact h q (hall k q hq)
    · exact hall k p hp
  · rw [KeyedMap.find?_modify] at hp'
    split at hp'
    · obtain ⟨q, hq, rfl⟩ := Option.map_eq_some_iff.mp hp'
      exact ⟨q, Or.inl hq, hplans q⟩
    · exact ⟨p', Or.inl hp', .refl p'⟩
  · rw [KeyedMap.find?_modify, hp]
    split
    · exact ⟨f p, rfl⟩
    · exact ⟨p, rfl⟩

/-- A plan may be terminated in every step. -/
lemma evolves_terminatePlan {key : PartitionPlanId} :
    Evolves π floor s
      { s with plans := s.plans.modify key fun p ↦ { p with terminal := true } } :=
  evolves_modifyPlan (fun _ h ↦ h) fun _ ↦ ⟨rfl, rfl, rfl, rfl, fun _ ↦ rfl, rfl⟩

lemma evolves_terminatePlanWhen {key : PartitionPlanId} {test : PartitionPlan → Prop}
    [DecidablePred test] :
    Evolves π floor s
      { s with
        plans := s.plans.modify key fun p ↦ if test p then { p with terminal := true } else p } := by
  refine evolves_modifyPlan (fun p hp ↦ ?_) fun p ↦ ?_
  · split
    · exact hp
    · exact hp
  · split
    · exact ⟨rfl, rfl, rfl, rfl, fun _ ↦ rfl, rfl⟩
    · exact .refl p

lemma evolves_insertPlan {key : PartitionPlanId} {plan : PartitionPlan}
    (h : Named s → plan.Bound) (hfloor : floor ≤ key) (hid : plan.id = key) (hlt : key < s.ids.next)
    (hplan : π.plans plan) :
    Evolves π floor s { s with plans := s.plans.insert key plan } := by
  refine evolves_plans (fun hi hall k p hp ↦ ?_) (fun k p' hp' ↦ ?_) fun k _ p hp ↦ Or.inr ?_
  · rw [KeyedMap.find?_insert] at hp
    split at hp
    · obtain rfl := Option.some.inj hp
      exact h hi
    · exact hall k p hp
  · rw [KeyedMap.find?_insert] at hp'
    split at hp'
    · rename_i hk
      obtain rfl := Option.some.inj hp'
      exact ⟨_, Or.inr ⟨hk ▸ ⟨hfloor, hid, hlt⟩, hplan⟩, .refl _⟩
    · exact ⟨p', Or.inl hp', .refl p'⟩
  · rw [KeyedMap.find?_insert]
    split
    · exact ⟨plan, rfl⟩
    · exact ⟨p, hp⟩

/-- Plans may be dropped from the floor on, and others where the scope allows it. -/
lemma evolves_dropPlans {m : KeyedMap PartitionPlanId PartitionPlan}
    (h : ∀ k p, m.find? k = some p → s.plans.find? k = some p)
    (hkept : ∀ k, k < floor → ∀ p, s.plans.find? k = some p →
      π.discards k ∨ ∃ p', m.find? k = some p') :
    Evolves π floor s { s with plans := m } :=
  evolves_plans (fun _ hall k p hp ↦ hall k p (h k p hp))
    (fun k p hp ↦ ⟨p, Or.inl (h k p hp), .refl p⟩) hkept

lemma evolves_erasePlan {key : PartitionPlanId} (hfloor : floor ≤ key) :
    Evolves π floor s { s with plans := s.plans.erase key } := by
  refine evolves_dropPlans (fun k p hp ↦ ?_) fun k hk p hp ↦ Or.inr ?_
  · rw [KeyedMap.find?_erase] at hp
    split at hp
    · exact absurd hp (by simp)
    · exact hp
  · rw [KeyedMap.find?_erase, if_neg (ne_of_lt (lt_of_lt_of_le hk hfloor))]
    exact ⟨p, hp⟩

lemma evolves_prunePlans
    (h : ∀ k, s.plans.contains k = true → (prunePlans s).plans.find? k = none → π.discards k) :
    Evolves π floor s (prunePlans s) := by
  refine evolves_dropPlans (fun k p hp ↦ ?_) fun k _ p hp ↦ ?_
  rotate_left
  · cases hfind : (prunePlans s).plans.find? k with
    | none =>
        refine Or.inl (h k ?_ hfind)
        rw [KeyedMap.contains, hp]
        rfl
    | some p' => exact Or.inr ⟨p', hfind⟩
  rcases KeyedMap.find?_prune (fun plan : PartitionPlan ↦ plan.terminal)
    s.limits.maxPendingPlans k with h | ⟨h, -⟩
  · exact h ▸ hp
  · exact absurd (h.symm.trans hp) (by simp)

/-- How a map of device records may change. -/
structure DevicesEvolve (π : Scope) (s : FabricState)
    (m : KeyedMap AcceleratorId AcceleratorRecord) : Prop where
  devices : ∀ k a, s.accelerators.find? k = some a →
    π.forgets k ∨ ∃ a', m.find? k = some a' ∧ DeviceEvolves π k a a'
  topologies : ∀ k a', m.find? k = some a' → π.topology k a'.topologyGeneration ∨
    ∃ a, s.accelerators.find? k = some a ∧ a'.topologyGeneration = a.topologyGeneration

lemma DevicesEvolve.refl : DevicesEvolve π s s.accelerators :=
  ⟨fun k a ha ↦ Or.inr ⟨a, ha, .refl k a⟩, fun _ a ha ↦ Or.inr ⟨a, ha, rfl⟩⟩

/-- One device may be recorded anew. -/
lemma devicesEvolve_insert {key : AcceleratorId} {record : AcceleratorRecord}
    (h : ∀ a, s.accelerators.find? key = some a → DeviceEvolves π key a record)
    (ht : π.topology key record.topologyGeneration ∨
      ∃ a, s.accelerators.find? key = some a ∧
        record.topologyGeneration = a.topologyGeneration) :
    DevicesEvolve π s (s.accelerators.insert key record) := by
  refine ⟨fun k a ha ↦ Or.inr ?_, fun k a' ha' ↦ ?_⟩
  · rw [KeyedMap.find?_insert]
    split
    · rename_i hk
      subst hk
      exact ⟨record, rfl, h a ha⟩
    · exact ⟨a, ha, .refl k a⟩
  · rw [KeyedMap.find?_insert] at ha'
    split at ha'
    · rename_i hk
      subst hk
      obtain rfl := Option.some.inj ha'
      exact ht
    · exact Or.inr ⟨a', ha', rfl⟩

/-- A registration may be taken back where the scope allows it. -/
lemma devicesEvolve_erase {key : AcceleratorId} (h : π.forgets key) :
    DevicesEvolve π s (s.accelerators.erase key) := by
  refine ⟨fun k a ha ↦ ?_, fun k a' ha' ↦ Or.inr ⟨a', ?_, rfl⟩⟩
  · rw [KeyedMap.find?_erase]
    split
    · rename_i hk
      subst hk
      exact Or.inl h
    · exact Or.inr ⟨a, ha, .refl k a⟩
  · rw [KeyedMap.find?_erase] at ha'
    split at ha'
    · cases ha'
    · exact ha'

/-- Device records may change as long as no generation is established without a ledger. -/
lemma evolves_accelerators {m : KeyedMap AcceleratorId AcceleratorRecord}
    (h : ∀ k a, m.find? k = some a → (valid a.id = false ∧ a.established = false) ∨
      ∃ b, s.accelerators.find? k = some b ∧ a.id = b.id ∧
        (a.established = true → b.established = true)) (hd : DevicesEvolve π s m)
    (hn : π.numbers → Numbered s → m.Below s.ids.next) :
    Evolves π floor s { s with accelerators := m } := by
  have hs := refl_of (Evolves π floor) s
  refine ⟨le_refl _, fun hi ↦ ⟨hi.partitions, hi.reservations, hi.attempts, hi.assignments⟩, id,
    fun hn k a ha hvalid ↦ ?_, hs.partitions, hs.origin, hs.attempts, hs.assignments,
    fun _ _ hacc ↦ ⟨hacc.balanced, fun k a ha hknown ↦ ?_, hacc.bound⟩,
    fun hπ hs ↦ { hs with accelerators := hn hπ hs },
    { hs.tenure with devices := hd.devices, topologies := hd.topologies }⟩
  · rcases h k a ha with ⟨hno, -⟩ | ⟨b, hb, hid, -⟩
    · exact absurd (hno.symm.trans hvalid) (by decide)
    · exact hid.trans (hn k b hb (hid ▸ hvalid))
  · rcases h k a ha with ⟨-, hno⟩ | ⟨b, hb, -, hbk⟩
    · exact absurd (hno.symm.trans hknown) (by decide)
    · exact hacc.ledgered k b hb (hbk hknown)

lemma evolves_modifyAccelerator {key : AcceleratorId} {f : AcceleratorRecord → AcceleratorRecord}
    (h : ∀ a, s.accelerators.find? key = some a → (f a).id = a.id ∧
      ((f a).established = true → a.established = true))
    (hd : ∀ a, s.accelerators.find? key = some a → DeviceEvolves π key a (f a) ∧
      (π.topology key (f a).topologyGeneration ∨ (f a).topologyGeneration = a.topologyGeneration)) :
    Evolves π floor s (s.modifyAccelerator key f) := by
  refine evolves_accelerators (fun k a ha ↦ Or.inr ?_) ⟨fun k a ha ↦ Or.inr ?_, fun k a' ha' ↦ ?_⟩
    fun _ hs ↦ hs.accelerators.modify f
  · rw [KeyedMap.find?_modify] at ha
    split at ha
    · rename_i hk
      obtain ⟨b, hb, rfl⟩ := Option.map_eq_some_iff.mp ha
      exact ⟨b, hb, h b (hk ▸ hb)⟩
    · exact ⟨a, ha, rfl, id⟩
  · rw [KeyedMap.find?_modify]
    split
    · rename_i hk
      subst hk
      rw [ha]
      exact ⟨f a, rfl, (hd a ha).1⟩
    · exact ⟨a, ha, .refl k a⟩
  · rw [KeyedMap.find?_modify] at ha'
    split at ha'
    · rename_i hk
      subst hk
      obtain ⟨b, hb, rfl⟩ := Option.map_eq_some_iff.mp ha'
      exact (hd b hb).2.imp_right fun ht ↦ ⟨b, hb, ht⟩
    · exact Or.inr ⟨a', ha', rfl⟩

/-- A device may take on evidence and health in every step. -/
lemma evolves_annotateAccelerator {key : AcceleratorId}
    {f : AcceleratorRecord → AcceleratorRecord}
    (h : ∀ a, (f a).id = a.id ∧ (f a).generation = a.generation ∧ (f a).bootId = a.bootId ∧
      (f a).capability = a.capability ∧ (f a).topologyGeneration = a.topologyGeneration) :
    Evolves π floor s (s.modifyAccelerator key f) := by
  refine evolves_modifyAccelerator (fun a _ ↦ ?_) fun a _ ↦ ?_
  · obtain ⟨hid, hgeneration, hboot, -, -⟩ := h a
    refine ⟨hid, fun hf ↦ ?_⟩
    rwa [AcceleratorRecord.established, hgeneration, hboot] at hf
  · obtain ⟨-, hgeneration, hboot, hcapability, htopology⟩ := h a
    exact ⟨⟨Or.inr (le_of_eq hgeneration.symm), Or.inr (Or.inl hcapability),
      Or.inr ⟨hgeneration, hboot⟩⟩, Or.inr htopology⟩

lemma evolves_setLedger {key : AcceleratorId} {l l' : CapacityLedger}
    (hl : s.ledgers.find? key = some l) (h : l.Balanced → l'.Balanced) :
    Evolves π floor s (s.setLedger key l') := by
  have hs := refl_of (Evolves π floor) s
  refine ⟨le_refl _, fun hi ↦ ⟨hi.partitions, hi.reservations, hi.attempts, hi.assignments⟩, id, id,
    hs.partitions, hs.origin, hs.attempts, hs.assignments,
    fun _ _ hacc ↦ ⟨fun k l₁ hl₁ ↦ ?_, fun k a ha hknown ↦ ?_, hacc.bound⟩, fun _ ↦ .of_keeps rfl,
    .of_keeps rfl⟩
  · rw [FabricState.setLedger, KeyedMap.find?_insert] at hl₁
    split at hl₁
    · obtain rfl := Option.some.inj hl₁
      exact h (hacc.balanced key l hl)
    · exact hacc.balanced k l₁ hl₁
  · rw [FabricState.setLedger, KeyedMap.find?_insert]
    split
    · exact ⟨l', rfl⟩
    · exact hacc.ledgered k a ha hknown

end PartitionFabric

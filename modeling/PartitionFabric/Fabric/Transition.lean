import PartitionFabric.Model.State

/-!
The lifecycle transition of one partition record, moving its capacity along, and the small
record updates that every operation shares.
-/

namespace PartitionFabric

/-- Applies the capacity consequence of a lifecycle change; no bucket stands for free capacity. -/
def applyCapacityTransition (target : PartitionState) :
    Procedure Error (CapacityLedger × PartitionRecord) Unit := fun (ledger, record) ↦
  if stateKeepsCurrentBucket target then ((ledger, record), success)
  else if bucketForState target = record.heldBucket then ((ledger, record), success)
  else
    let source := record.heldBucket.getD .free
    let destination := (bucketForState target).getD .free
    match CapacityLedger.moveBetween source.raw destination.raw record.resources ledger with
    | (ledger', .ok _) =>
      ((ledger', { record with heldBucket := bucketForState target }), success)
    | (ledger', .error e) =>
      ((ledger', record),
        if record.heldBucket.isNone then
          failure .insufficientCapacity "capacity cannot be accounted for this partition"
            (decimal record.id.toNat)
        else .error e)

/-- Validates a lifecycle transition of the record under a key and applies its capacity
consequence. -/
def transitionPartition (now : UInt64) (key : PartitionId) (target : PartitionState)
    (reason : Text) : FabricM Unit := fun s ↦
  match s.findPartition key with
  | none => (s, success)
  | some record =>
    match validateTransition record.state target with
    | .error e =>
      (s, failure e.code e.message
        (record.state.toText ++ (" -> " : Text) ++ target.toText ++ (" (" : Text) ++
          decimal record.id.toNat ++ (")" : Text)))
    | .ok _ =>
      if record.state = target then (s, success)
      else
        match s.findLedger record.accelerator with
        | none =>
          (s, failure .corruptState "partition has no capacity ledger" (decimal record.id.toNat))
        | some ledger =>
          match applyCapacityTransition target (ledger, record) with
          | ((ledger', record'), .error e) =>
            ({ s with
                ledgers := s.ledgers.insert record.accelerator ledger'
                partitions := s.partitions.insert key record' }, .error e)
          | ((ledger', record'), .ok _) =>
            let moved := { record' with
              state := target
              lastTransitionAtMs := now
              lastTransitionReason := reason }
            ({ s with
                ledgers := s.ledgers.insert record.accelerator ledger'
                partitions := s.partitions.insert key moved },
              match moved.validate, ledger'.validate with
              | .error e, _ => .error e
              | .ok _, .error e =>
                failure .corruptState "accounting does not close after a transition"
                  (decimal record.id.toNat ++ (": " : Text) ++ e.toText)
              | .ok _, .ok _ => success)

/-- The capacity consequence of a transition that went through: the bucket is kept, or the
capacity moved to the bucket of the target state. -/
def CapacityFollows (target : PartitionState) (record : PartitionRecord)
    (ledger ledger' : CapacityLedger) (held : Option CapacityBucket) : Prop :=
  (stateKeepsCurrentBucket target = true ∨ bucketForState target = record.heldBucket) ∧
      ledger' = ledger ∧ held = record.heldBucket ∨
    stateKeepsCurrentBucket target = false ∧ held = bucketForState target ∧
      CapacityLedger.moveBetween (record.heldBucket.getD .free).raw
        ((bucketForState target).getD .free).raw record.resources ledger = (ledger', success)

lemma applyCapacityTransition_cases (target : PartitionState) (ledger : CapacityLedger)
    (record : PartitionRecord) :
    (∃ e, applyCapacityTransition target (ledger, record) = ((ledger, record), .error e)) ∨
      ∃ ledger' held, CapacityFollows target record ledger ledger' held ∧
        applyCapacityTransition target (ledger, record) =
          ((ledger', { record with heldBucket := held }), success) := by
  unfold applyCapacityTransition
  by_cases hkeep : stateKeepsCurrentBucket target = true
  · simp only [hkeep, if_true]
    exact Or.inr ⟨ledger, record.heldBucket, Or.inl ⟨Or.inl hkeep, rfl, rfl⟩, rfl⟩
  · by_cases hsame : bucketForState target = record.heldBucket
    · simp only [hkeep, hsame, if_true, Bool.false_eq_true, if_false]
      exact Or.inr ⟨ledger, record.heldBucket, Or.inl ⟨Or.inr hsame, rfl, rfl⟩, rfl⟩
    · simp only [hkeep, hsame, Bool.false_eq_true, if_false]
      rcases CapacityLedger.moveBetween_cases (record.heldBucket.getD .free).raw
        ((bucketForState target).getD .free).raw record.resources ledger with
        ⟨b, c, ledger', -, -, -, h, -⟩ | ⟨h, -⟩ | ⟨e, h⟩
      · rw [h]
        exact Or.inr ⟨ledger', bucketForState target,
          Or.inr ⟨by simpa using hkeep, rfl, h⟩, rfl⟩
      · rw [h]
        exact Or.inr ⟨ledger, bucketForState target,
          Or.inr ⟨by simpa using hkeep, rfl, h⟩, rfl⟩
      · rw [h]
        refine Or.inl ?_
        by_cases hnone : record.heldBucket.isNone = true
        · simp only [hnone, if_true]
          exact ⟨_, rfl⟩
        · simp only [hnone, Bool.false_eq_true, if_false]
          exact ⟨e, rfl⟩

/-- The state after a transition that went through. -/
def FabricState.transitioned (s : FabricState) (now : UInt64) (key : PartitionId)
    (record : PartitionRecord) (target : PartitionState) (reason : Text)
    (ledger : CapacityLedger) (held : Option CapacityBucket) : FabricState :=
  { s with
    ledgers := s.ledgers.insert record.accelerator ledger
    partitions := s.partitions.insert key { record with
      heldBucket := held
      state := target
      lastTransitionAtMs := now
      lastTransitionReason := reason } }

/-- A transition changes nothing, or it is allowed and moves the record with its capacity. -/
theorem transitionPartition_cases (now : UInt64) (key : PartitionId) (target : PartitionState)
    (reason : Text) (s : FabricState) :
    (transitionPartition now key target reason s).1 = s ∨
      ∃ record ledger ledger' held, s.partitions.find? key = some record ∧
        Allowed record.state target ∧ record.state ≠ target ∧
        s.ledgers.find? record.accelerator = some ledger ∧
        CapacityFollows target record ledger ledger' held ∧
        (transitionPartition now key target reason s).1 =
          s.transitioned now key record target reason ledger' held := by
  unfold transitionPartition
  cases hrecord : s.findPartition key with
  | none => exact Or.inl rfl
  | some record =>
      simp only
      cases hallowed : validateTransition record.state target with
      | error e => exact Or.inl rfl
      | ok u =>
          simp only
          by_cases hsame : record.state = target
          · rw [if_pos hsame]
            exact Or.inl rfl
          · rw [if_neg hsame]
            cases hledger : s.findLedger record.accelerator with
            | none => exact Or.inl rfl
            | some ledger =>
                simp only
                rcases applyCapacityTransition_cases target ledger record with
                  ⟨e, h⟩ | ⟨ledger', held, hfollows, h⟩
                · rw [h]
                  refine Or.inl ?_
                  simp only
                  rw [KeyedMap.insert_eq_self hledger, KeyedMap.insert_eq_self hrecord]
                · rw [h]
                  exact Or.inr ⟨record, ledger, ledger', held, hrecord, hallowed, hsame, hledger,
                    hfollows, rfl⟩

/-- Moves a partition whose physical state is unknown to revalidation. -/
def revalidateUnknown (now : UInt64) (reason : Text) (p : PartitionId) : FabricM Unit := do
  let s ← Procedure.get
  Procedure.when ((s.findPartition p).any fun record ↦ record.state ≠ .revalidationRequired)
    (Procedure.ignore (transitionPartition now p .revalidationRequired reason))

/-- Records the current generation as superseded and advances to the next one. -/
def PartitionRecord.supersede (record : PartitionRecord) : PartitionRecord :=
  let superseded := if known record.generation then
    record.supersededGenerations ++ [record.generation] else record.supersededGenerations
  match next record.generation with
  | .ok g => { record with supersededGenerations := superseded, generation := g }
  | .error _ => { record with supersededGenerations := superseded }

/-- Superseding touches the generations only. -/
lemma PartitionRecord.supersede_eq (record : PartitionRecord) : ∃ generation superseded,
    record.supersede =
      { record with generation := generation, supersededGenerations := superseded } := by
  unfold PartitionRecord.supersede
  cases next record.generation with
  | error e => exact ⟨record.generation, _, rfl⟩
  | ok g => exact ⟨g, _, rfl⟩

section Supersede

variable (record : PartitionRecord)

@[simp] lemma PartitionRecord.supersede_id : record.supersede.id = record.id := by
  obtain ⟨g, l, h⟩ := record.supersede_eq
  rw [h]

@[simp] lemma PartitionRecord.supersede_accelerator :
    record.supersede.accelerator = record.accelerator := by
  obtain ⟨g, l, h⟩ := record.supersede_eq
  rw [h]

@[simp] lemma PartitionRecord.supersede_resources :
    record.supersede.resources = record.resources := by
  obtain ⟨g, l, h⟩ := record.supersede_eq
  rw [h]

@[simp] lemma PartitionRecord.supersede_state : record.supersede.state = record.state := by
  obtain ⟨g, l, h⟩ := record.supersede_eq
  rw [h]

@[simp] lemma PartitionRecord.supersede_nativeIdentity :
    record.supersede.nativeIdentity = record.nativeIdentity := by
  obtain ⟨g, l, h⟩ := record.supersede_eq
  rw [h]

@[simp] lemma PartitionRecord.supersede_heldBucket :
    record.supersede.heldBucket = record.heldBucket := by
  obtain ⟨g, l, h⟩ := record.supersede_eq
  rw [h]

@[simp] lemma PartitionRecord.supersede_drain : record.supersede.drain = record.drain := by
  obtain ⟨g, l, h⟩ := record.supersede_eq
  rw [h]

end Supersede

/-- The freshness window that evidence stamped by the fabric carries. -/
def FabricState.evidenceTtl (s : FabricState) : UInt64 :=
  if s.policy.maxEvidenceAgeMs = 0 then 30000 else s.policy.maxEvidenceAgeMs

/-- Stamps fresh, generation-bound evidence on the record under a key. -/
def stampPartitionEvidence (now : UInt64) (key : PartitionId) (accelerator : AcceleratorRecord)
    (provenance : EvidenceProvenance) (source : Text) (s : FabricState) : FabricState :=
  let s := match next s.evidenceGeneration with
    | .ok g => { s with evidenceGeneration := g }
    | .error _ => s
  s.modifyPartition key fun record ↦
    { record with
      evidence :=
        { generation := s.evidenceGeneration
          provenance := provenance
          observedAtMs := now
          ttlMs := s.evidenceTtl
          source := if source.isEmpty then accelerator.backend else source
          observed := true }
      provenance := provenance }

/-- Fails on a closed instance. -/
def checkOpen : FabricM Unit := fun s ↦
  (s, if s.closed then failure .closed "runtime instance is closed" else success)

lemma checkOpen_closed {s : FabricState} (h : s.closed = true) :
    checkOpen s = (s, failure .closed "runtime instance is closed") := by
  rw [checkOpen, h]
  rfl

lemma checkOpen_opened {s : FabricState} (h : s.closed = false) : checkOpen s = (s, .ok ()) := by
  rw [checkOpen, h]
  rfl

/-- Completes an evidence stamp that carries no observation of its own. -/
def ensureEvidence (stamp : EvidenceStamp) (provenance : EvidenceProvenance) (source : Text)
    (ttlMs nowMs : UInt64) (generation : EvidenceGeneration) : EvidenceStamp :=
  if stamp.isObserved then
    if stamp.ttlMs = 0 then { stamp with ttlMs := ttlMs } else stamp
  else
    { observed := true
      generation := generation
      observedAtMs := nowMs
      ttlMs := ttlMs
      source := source
      provenance := if stamp.provenance = .unknown then provenance else stamp.provenance }

/-- Drops discarded plans while the registry exceeds its bound. -/
def prunePlans (s : FabricState) : FabricState :=
  { s with plans := s.plans.prune (fun plan ↦ plan.terminal) s.limits.maxPendingPlans }

/-- Drops settled attempts while the history exceeds its bound. -/
def pruneAttempts (s : FabricState) : FabricState :=
  { s with
    attempts := s.attempts.prune (fun attempt ↦ attemptSettled attempt.state)
      s.limits.maxAttemptHistory }

/-- Runs a ledger operation on the ledger of an accelerator; without one it does nothing. -/
def onLedger (id : AcceleratorId) (m : LedgerM Unit) : FabricM Unit := fun s ↦
  match s.findLedger id with
  | none => (s, success)
  | some ledger => (s.setLedger id (m ledger).1, (m ledger).2)

/-- Allocates the next identity. -/
def allocateId : FabricM UInt64 := fun s ↦
  match s.ids.allocate with
  | .ok (id, ids) => ({ s with ids := ids }, .ok id)
  | .error e => (s, .error e)

/-- An allocation fails, or hands out the allocator's position and moves past it. -/
theorem allocateId_cases (s : FabricState) :
    (∃ e, allocateId s = (s, .error e)) ∨
      ∃ ids, s.ids.next < ids.next ∧ allocateId s = ({ s with ids := ids }, .ok s.ids.next) := by
  unfold allocateId
  cases h : s.ids.allocate with
  | error e => exact Or.inl ⟨e, rfl⟩
  | ok p =>
      obtain ⟨id, ids⟩ := p
      obtain ⟨rfl, hlt⟩ := allocate_spec h
      exact Or.inr ⟨ids, hlt, rfl⟩

/-- An allocation is a step of a relation that disregards the identity counter. -/
theorem advances_allocateId_of {R : FabricState → FabricState → Prop} {s : FabricState}
    (h : ∀ ids, R s { s with ids := ids }) : Procedure.Advances R allocateId s := by
  unfold Procedure.Advances
  rcases allocateId_cases s with ⟨e, heq⟩ | ⟨ids, -, heq⟩
  · rw [heq]
    exact h s.ids
  · rw [heq]
    exact h ids

end PartitionFabric

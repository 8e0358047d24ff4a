import PartitionFabric.Fabric.Reservation

/-!
Closing and reopening an instance, worker incarnations and the coordinator epoch.
-/

namespace PartitionFabric

/-- Releases one capacity-holding reservation of an instance that closes. -/
def closeReservation (now : UInt64) (key : PartitionReservationId) : FabricM Unit := do
  let s ← Procedure.get
  match s.findReservation key with
  | none => pure ()
  | some reservation =>
    Procedure.when reservation.holdsCapacity do
      Procedure.ignore (onLedger reservation.accelerator
        (CapacityLedger.releaseReserved reservation.resources))
      Procedure.modify (settleReservation key .released
        "runtime closed before the reservation was committed" now)

/-- Returns the capacity that a record still names to the free bucket, whatever comes of it. -/
def releaseHeld (record : PartitionRecord) : FabricM Unit :=
  match record.heldBucket with
  | none => pure ()
  | some bucket => Procedure.ignore (onLedger record.accelerator
      (CapacityLedger.moveBetween bucket.raw CapacityBucket.free.raw record.resources))

/-- Retires one partition whose creation was never verified. -/
def closePartition (now : UInt64) (key : PartitionId) : FabricM Unit := do
  let s ← Procedure.get
  match s.findPartition key with
  | none => pure ()
  | some record =>
    Procedure.when (record.state = .reserved || record.state = .creating ||
        record.state = .planPending) do
      releaseHeld record
      Procedure.modify fun s ↦ s.modifyPartition key fun r ↦
        r.retire now "runtime closed before creation was verified"

/-- An attempt that was registered or dispatched and not yet answered. -/
def AttemptState.inFlight (state : AttemptState) : Bool :=
  state = .registered || state = .dispatched

/-- Classifies one pending attempt of an instance that closes. -/
def closeAttempt (now : UInt64) (key : PartitionAttemptId) (s : FabricState) : FabricState :=
  s.modifyAttempt key fun attempt ↦
    if attempt.state.inFlight then
      { attempt with
        state := .outcomeUnknown
        settledAtMs := now
        detail := "runtime closed while the attempt was in flight" }
    else attempt

/-- Verifies that every ledger closes exactly. -/
def verifyAccounting (s : FabricState) : Status :=
  s.ledgers.entries.forM fun (id, ledger) ↦
    match ledger.validate with
    | .ok _ => success
    | .error e =>
      failure .corruptState
        (("capacity accounting does not close for accelerator " : Text) ++ decimal id.toNat)
        e.toText

/-- Stops accepting work and resolves pending reservations, partitions and attempts. -/
def close (now : UInt64) : FabricM Unit := do
  let s ← Procedure.get
  Procedure.when (!s.closed) do
    s.reservations.keys.forM (closeReservation now)
    s.partitions.keys.forM (closePartition now)
    s.attempts.keys.forM fun key ↦ Procedure.modify (closeAttempt now key)
    s.workers.keys.forM fun key ↦ Procedure.modify fun s ↦
      { s with workers := s.workers.modify key fun w ↦ { w with alive := false } }
    Procedure.modify fun s ↦ { s with closed := true, closedAtMs := now }
    Procedure.modify FabricState.bumpStateGeneration
    let s ← Procedure.get
    match s.ledgers.values.find? fun ledger ↦ !ledger.validate.isOk with
    | none => pure ()
    | some ledger =>
      Procedure.throw (makeError .corruptState "capacity accounting does not close after shutdown"
        (match ledger.validate with
          | .ok _ => []
          | .error e => e.toText))

def reopen (now : UInt64) : FabricM Unit := do
  Procedure.modify fun s ↦ { s with closed := false, openedAtMs := now }
  Procedure.modify FabricState.bumpStateGeneration

/-- Turns an unsettled attempt into an explicit unknown outcome when a test of it holds. -/
def loseAttempt (now : UInt64) (detail : Text) (lost : PartitionAttempt → Bool)
    (key : PartitionAttemptId) : FabricM Unit := do
  let s ← Procedure.get
  match s.findAttempt key with
  | none => pure ()
  | some attempt =>
    Procedure.when (!attemptSettled attempt.state && lost attempt) do
      Procedure.modify fun s ↦ s.modifyAttempt key fun a ↦
        { a with state := .outcomeUnknown, settledAtMs := now, detail := detail }
      attempt.partitions.forM (revalidateUnknown now detail)

/-- Fences a live reservation when a test of it holds; a failure leaves it as it is. -/
def fenceReservationWhen (now : UInt64) (reason : Text) (lost : PartitionReservation → Bool)
    (key : PartitionReservationId) : FabricM Unit := do
  let s ← Procedure.get
  match s.findReservation key with
  | none => pure ()
  | some reservation =>
    Procedure.when (!reservationIsTerminal reservation.lifecycle && lost reservation)
      (Procedure.ignore (fenceReservationLocked key reason now))

def isWorkerBound (worker : WorkerId) (boot : WorkerBootId) (r : PartitionReservation) : Bool :=
  r.worker = worker && r.workerBoot = boot

/-- Fences a worker incarnation with its reservations and its unsettled attempts. -/
def fenceWorkerLocked (worker : WorkerId) (boot : WorkerBootId) (now : UInt64) (reason : Text) :
    FabricM Unit := do
  let s ← Procedure.get
  match s.findWorker worker with
  | none => Procedure.throw (makeError .notFound "worker is not registered" (decimal worker.toNat))
  | some record =>
    Procedure.when (record.boot = boot) do
      Procedure.modify fun s ↦
        { s with
          workers := s.workers.modify worker fun w ↦
            { w with fenced := true, alive := false, fencedAtMs := now, fenceReason := reason } }
      s.reservations.keys.forM (fenceReservationWhen now
        (("owning worker incarnation was fenced: " : Text) ++ reason) (isWorkerBound worker boot))
      s.attempts.keys.forM (loseAttempt now
        "worker incarnation died or was fenced before acknowledging"
        fun attempt ↦ attempt.worker = worker && attempt.workerBoot = boot)
      Procedure.modify FabricState.bumpStateGeneration

def fenceWorker (worker : WorkerId) (boot : WorkerBootId) (reason : Text) (now : UInt64) :
    FabricM Unit := fenceWorkerLocked worker boot now reason

/-- Fences the incarnation that a registering worker replaces. -/
def fencePrevious (existing : Option WorkerRecord) (worker : WorkerRecord) (now : UInt64) :
    FabricM Unit :=
  match existing with
  | none => pure ()
  | some previous => Procedure.when (previous.boot ≠ worker.boot) do
      Procedure.modify fun s ↦
        { s with
          workers := s.workers.modify worker.id fun w ↦
            { w with
              fenced := true
              alive := false
              fencedAtMs := now
              fenceReason := "worker reincarnated under a fresh boot identity" } }
      Procedure.ignore (fenceWorkerLocked worker.id previous.boot now
        "worker reincarnated under a fresh boot identity")

/-- Registers a worker incarnation; a replacement fences the previous boot identity. -/
def noteWorker (worker : WorkerRecord) (now : UInt64) : FabricM Unit := do
  Procedure.require (valid worker.id && valid worker.boot)
    (makeError .invalidArgument
      "worker registration requires both a worker identity and a boot identity")
  let s ← Procedure.get
  let existing := s.findWorker worker.id
  Procedure.require (!(existing.isNone && s.workers.size ≥ s.limits.maxWorkers))
    (makeError .limitExceeded "worker registry is full")
  fencePrevious existing worker now
  Procedure.modify fun s ↦
    { s with
      workers := s.workers.insert worker.id { worker with coordinatorEpoch := s.coordinatorEpoch } }
  Procedure.modify FabricState.bumpStateGeneration

def noteWorkerSeen (worker : WorkerId) (boot : WorkerBootId) (atMs : UInt64) : FabricM Unit := do
  let s ← Procedure.get
  match s.findWorker worker with
  | none => Procedure.throw (makeError .notFound "worker is not registered" (decimal worker.toNat))
  | some record => do
    Procedure.require (record.boot = boot)
      (makeError .staleWorker "worker boot identity is not current" (hex boot))
    Procedure.modify fun s ↦
      { s with
        workers := s.workers.modify worker fun w ↦ { w with lastSeenMs := atMs, alive := true } }

/-- Advances the coordinator epoch; everything bound to an older epoch loses authority. -/
def advanceCoordinatorEpoch (now : UInt64) : FabricM CoordinatorEpoch := do
  let s ← Procedure.get
  let epoch ← Procedure.lift (next s.coordinatorEpoch)
  Procedure.modify fun s ↦ { s with coordinatorEpoch := epoch }
  s.reservations.keys.forM (fenceReservationWhen now
    "coordinator epoch advanced; reservations from an older epoch lose authority"
    fun r ↦ r.coordinatorEpoch ≠ epoch)
  s.attempts.keys.forM (loseAttempt now
    "coordinator epoch advanced while this attempt was in flight"
    fun attempt ↦ attempt.coordinatorEpoch ≠ epoch)
  s.workers.keys.forM fun key ↦ Procedure.modify fun s ↦
    { s with
      workers := s.workers.modify key fun w ↦
        if w.coordinatorEpoch ≠ epoch then { w with alive := false } else w }
  Procedure.modify FabricState.bumpStateGeneration
  pure epoch

def installCoordinatorEpoch (epoch : CoordinatorEpoch) : FabricM Unit := do
  let s ← Procedure.get
  Procedure.require (s.coordinatorEpoch ≤ epoch)
    (makeError .generationRegression "coordinator epoch would regress" (decimal epoch.toNat))
  Procedure.modify fun s ↦ { s with coordinatorEpoch := epoch }
  Procedure.modify FabricState.bumpStateGeneration

end PartitionFabric

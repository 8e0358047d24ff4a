import Mathlib.Data.List.Lex
import Mathlib.Order.Basic

/-!
Texts, errors, identities and generations shared by every part of the fabric.
-/

instance instLinearOrderUInt64 : LinearOrder UInt64 where
  le_refl := UInt64.le_refl
  le_trans _ _ _ := UInt64.le_trans
  lt_iff_le_not_ge a b := by
    rw [UInt64.lt_iff_toNat_lt, UInt64.le_iff_toNat_le, UInt64.le_iff_toNat_le]
    omega
  le_antisymm _ _ := UInt64.le_antisymm
  le_total := UInt64.le_total
  toDecidableLE := inferInstance
  toDecidableEq := inferInstance
  toDecidableLT := inferInstance

instance instLinearOrderUInt8 : LinearOrder UInt8 where
  le_refl := UInt8.le_refl
  le_trans _ _ _ := UInt8.le_trans
  lt_iff_le_not_ge a b := by
    rw [UInt8.lt_iff_toNat_lt, UInt8.le_iff_toNat_le, UInt8.le_iff_toNat_le]
    omega
  le_antisymm _ _ := UInt8.le_antisymm
  le_total := UInt8.le_total
  toDecidableLE := inferInstance
  toDecidableEq := inferInstance
  toDecidableLT := inferInstance

namespace PartitionFabric

/-- A byte string. -/
abbrev Text := List UInt8

instance : Coe String Text := ⟨fun s ↦ s.toUTF8.data.toList⟩

/-- The canonical decimal rendering of an unsigned number. -/
def decimal (n : ℕ) : Text := (Nat.toDigits 10 n).map (fun c ↦ c.toNat.toUInt8)

/-- The sixteen hexadecimal digits of a 64-bit value. -/
def hex (value : UInt64) : Text :=
  (List.range 16).map fun i ↦
    ((value.toNat >>> (4 * (15 - i))) % 16).digitChar.toNat.toUInt8

inductive ErrorCode where
  | ok | invalidRequest | invalidArgument | notFound | alreadyExists | unsupportedCapability
  | unknownCapability | staleGeneration | stalePlan | staleReservation | staleWorker
  | staleCoordinatorEpoch | staleEvidence | stalePartitionGeneration | invalidTransition
  | insufficientCapacity | fragmented | isolationMismatch | reconfigurationRequired
  | drainRequired | policyRejected | reservationConflict | deviceUnavailable | backendFailure
  | persistenceCorruption | protocolViolation | ambiguousCompletion | reconciliationRequired
  | revalidationRequired | overflow | underflow | limitExceeded | closed | busy | cancelled
  | capabilityChanged | policyChanged | generationRegression | corruptState | fenced | internal
deriving DecidableEq, Repr

/-- The stable machine-readable name of a code. -/
def ErrorCode.toText : ErrorCode → Text
  | .ok => "ok"
  | .invalidRequest => "invalid_request"
  | .invalidArgument => "invalid_argument"
  | .notFound => "not_found"
  | .alreadyExists => "already_exists"
  | .unsupportedCapability => "unsupported_capability"
  | .unknownCapability => "unknown_capability"
  | .staleGeneration => "stale_generation"
  | .stalePlan => "stale_plan"
  | .staleReservation => "stale_reservation"
  | .staleWorker => "stale_worker"
  | .staleCoordinatorEpoch => "stale_coordinator_epoch"
  | .staleEvidence => "stale_evidence"
  | .stalePartitionGeneration => "stale_partition_generation"
  | .invalidTransition => "invalid_transition"
  | .insufficientCapacity => "insufficient_capacity"
  | .fragmented => "fragmented"
  | .isolationMismatch => "isolation_mismatch"
  | .reconfigurationRequired => "reconfiguration_required"
  | .drainRequired => "drain_required"
  | .policyRejected => "policy_rejected"
  | .reservationConflict => "reservation_conflict"
  | .deviceUnavailable => "device_unavailable"
  | .backendFailure => "backend_failure"
  | .persistenceCorruption => "persistence_corruption"
  | .protocolViolation => "protocol_violation"
  | .ambiguousCompletion => "ambiguous_completion"
  | .reconciliationRequired => "reconciliation_required"
  | .revalidationRequired => "revalidation_required"
  | .overflow => "overflow"
  | .underflow => "underflow"
  | .limitExceeded => "limit_exceeded"
  | .closed => "closed"
  | .busy => "busy"
  | .cancelled => "cancelled"
  | .capabilityChanged => "capability_changed"
  | .policyChanged => "policy_changed"
  | .generationRegression => "generation_regression"
  | .corruptState => "corrupt_state"
  | .fenced => "fenced"
  | .internal => "internal"

structure Error where
  code : ErrorCode := .internal
  message : Text
  detail : Text := []
deriving DecidableEq, Repr

def Error.toText (e : Error) : Text :=
  e.code.toText ++ (if e.message.isEmpty then [] else (": " : Text) ++ e.message) ++
    (if e.detail.isEmpty then [] else (" [" : Text) ++ e.detail ++ ("]" : Text))

abbrev Result (α : Type) := Except Error α

abbrev Status := Result Unit

def makeError (code : ErrorCode) (message : Text) (detail : Text := []) : Error :=
  ⟨code, message, detail⟩

def success : Status := .ok ()

def failure {α : Type} (code : ErrorCode) (message : Text) (detail : Text := []) : Result α :=
  .error (makeError code message detail)

@[simp] lemma failure_ne_ok {α : Type} (c : ErrorCode) (m d : Text) (a : α) :
    (failure c m d : Result α) ≠ .ok a := by
  simp [failure]

abbrev AcceleratorId := UInt64
abbrev PartitionId := UInt64
abbrev PartitionProfileId := UInt64
abbrev PartitionPlanId := UInt64
abbrev PartitionReservationId := UInt64
abbrev PartitionAssignmentId := UInt64
abbrev PartitionAttemptId := UInt64
abbrev IsolationPolicyId := UInt64
abbrev WorkerId := UInt64
abbrev ReconciliationId := UInt64

abbrev AcceleratorBootId := UInt64
abbrev WorkerBootId := UInt64

abbrev AcceleratorGeneration := UInt64
abbrev PartitionGeneration := UInt64
abbrev PartitionProfileGeneration := UInt64
abbrev PartitionPlanGeneration := UInt64
abbrev CapabilityGeneration := UInt64
abbrev TopologyGeneration := UInt64
abbrev PolicyGeneration := UInt64
abbrev IsolationPolicyGeneration := UInt64
abbrev CoordinatorEpoch := UInt64
abbrev EvidenceGeneration := UInt64
abbrev SnapshotGeneration := UInt64
abbrev StateGeneration := UInt64

/-- The largest value of a 64-bit counter. -/
def uint64Max : UInt64 := 0xFFFFFFFFFFFFFFFF

/-- An identity other than the reserved zero. -/
def valid (id : UInt64) : Bool := id != 0

/-- A generation that has been established. -/
def known (generation : UInt64) : Bool := generation != 0

/-- Checked successor of a generation. -/
def next (generation : UInt64) : Result UInt64 :=
  if generation = uint64Max then
    failure .overflow "generation counter exhausted" (decimal generation.toNat)
  else .ok (generation + 1)

/-- Monotonic identity allocator; zero is never handed out. -/
structure IdAllocator where
  next : UInt64 := 1
deriving DecidableEq, Repr

/-- Hands out the next identity together with the advanced allocator. -/
def IdAllocator.allocate (ids : IdAllocator) : Result (UInt64 × IdAllocator) :=
  if ids.next = uint64Max then failure .overflow "identity space exhausted"
  else .ok (ids.next, ⟨ids.next + 1⟩)

/-- Restores the allocator after a durable reload; it only moves forward. -/
def IdAllocator.restoreFloor (ids : IdAllocator) (persistedNext : UInt64) : Result IdAllocator :=
  if persistedNext < ids.next then
    failure .generationRegression "persisted identity counter is behind the live allocator"
      (decimal persistedNext.toNat ++ (" < " : Text) ++ decimal ids.next.toNat)
  else .ok ⟨persistedNext⟩

lemma toNat_add_one {n : UInt64} (h : n ≠ uint64Max) : (n + 1).toNat = n.toNat + 1 := by
  have hlt := UInt64.toNat_lt n
  have hne : n.toNat ≠ 18446744073709551615 := fun heq ↦ h (UInt64.toNat_inj.mp heq)
  rw [UInt64.toNat_add]
  simp only [UInt64.toNat_one]
  omega

lemma lt_add_one {n : UInt64} (h : n ≠ uint64Max) : n < n + 1 := by
  rw [UInt64.lt_iff_toNat_lt, toNat_add_one h]
  omega

lemma lt_next {g g' : UInt64} (h : next g = .ok g') : g < g' := by
  unfold next at h
  split at h
  · exact absurd h (failure_ne_ok _ _ _ _)
  · rename_i hne
    rw [← Except.ok.inj h]
    exact lt_add_one hne

/-- An allocation returns the allocator's old position and advances past it. -/
theorem allocate_spec {ids ids' : IdAllocator} {id : UInt64}
    (h : ids.allocate = .ok (id, ids')) :
    id = ids.next ∧ ids.next < ids'.next := by
  unfold IdAllocator.allocate at h
  split at h
  · exact absurd h (failure_ne_ok _ _ _ _)
  · rename_i hne
    obtain ⟨rfl, rfl⟩ := Prod.mk.inj (Except.ok.inj h)
    exact ⟨rfl, lt_add_one hne⟩

/-- A result behind another one is returned when both are. -/
lemma result_bind_eq_ok {α β : Type} {m : Result α} {f : α → Result β} {b : β} :
    (m >>= f) = .ok b ↔ ∃ a, m = .ok a ∧ f a = .ok b := by
  cases m with
  | error e => simp [bind, Except.bind]
  | ok a => simp [bind, Except.bind]

/-- A check that is followed by another result succeeds when both do. -/
lemma check_bind_eq_ok {α : Type} {status : Status} {f : Unit → Result α} {a : α} :
    (status >>= f) = .ok a ↔ status = .ok () ∧ f () = .ok a :=
  result_bind_eq_ok.trans ⟨fun ⟨_, h⟩ ↦ h, fun h ↦ ⟨(), h⟩⟩

/-- A loop of checks succeeds when every check does. -/
theorem forM_eq_ok {ι : Type} {l : List ι} {check : ι → Status} :
    l.forM check = .ok () ↔ ∀ i ∈ l, check i = .ok () := by
  induction l with
  | nil => simp [pure, Except.pure]
  | cons i rest ih =>
      change (check i >>= fun _ ↦ rest.forM check) = .ok () ↔ _
      rw [List.forall_mem_cons, ← ih]
      cases hi : check i with
      | error e => simp [bind, Except.bind]
      | ok u => simp [bind, Except.bind]

end PartitionFabric

import PartitionFabric.Invariants.Dispatching
import PartitionFabric.Invariants.Fencing
import PartitionFabric.Invariants.Identities
import PartitionFabric.Persistence.Store

/-!
A fabric in a process that saves it, dies, is started again and loads what was saved.

Only what is in the file survives a death. Whatever is found there was exported by some instance
before, so that its identities are counted, and a fabric that loads it goes on counting from there.
-/

namespace PartitionFabric

open Procedure Mortal

section Operations

variable (os : Filing) (store : PersistenceStore)

/-- Exports the state and saves it. -/
def FabricState.save (s : FabricState) (now : UInt64) : FileM Unit :=
  store.save os (exportDurableState s now) s.limits

/-- Loads a state and imports it; that there is none is no failure. -/
def loadFabric (files : Files) (now : UInt64) : FabricM Unit := do
  let s ← Procedure.get
  match store.load os s.limits files with
  | .error e => if e.code = .notFound then pure () else Procedure.throw e
  | .ok durable => do
    let _ ← importDurableState durable now
    pure ()

end Operations

/-- A process with a fabric, its files, and every fabric that was to be saved so far. -/
structure Host where
  fabric : FabricState
  files : Files := {}
  savers : List FabricState := []

/-- What happens to a process with a fabric. Where it dies, another one is started with options of
its own. -/
inductive HostAction where
  | operate (op : Op)
  | save (os : Filing) (life : ℕ) (now : UInt64) (restart : FabricOptions)
  | load (os : Filing) (now : UInt64)
  | remove (os : Filing) (life : ℕ) (now : UInt64) (restart : FabricOptions)
  | restart (options : FabricOptions) (now : UInt64)

namespace Host

/-- The fabric after a procedure that the process may have died in. -/
def surviving (ended : Except (Halt Error) Unit) (restart : FabricOptions) (now : UInt64)
    (s : FabricState) : FabricState :=
  match ended with
  | .error .died => FabricState.opened restart now
  | _ => s

def step (store : PersistenceStore) : HostAction → Host → Host
  | .operate op, h => { h with fabric := op.step h.fabric }
  | .save os life now restart, h =>
    let ended := returning (h.fabric.save os store now) ⟨h.files, life⟩
    { fabric := surviving ended.2 restart now h.fabric
      files := ended.1.state
      savers := h.savers ++ [h.fabric] }
  | .load os now, h => { h with fabric := (loadFabric os store h.files now h.fabric).1 }
  | .remove os life now restart, h =>
    let ended := returning (store.remove os) ⟨h.files, life⟩
    { h with fabric := surviving ended.2 restart now h.fabric, files := ended.1.state }
  | .restart options now, h => { h with fabric := FabricState.opened options now }

end Host

/-- A process with a fabric, where nothing was saved before. -/
def host (store : PersistenceStore) : System Host HostAction where
  initial h := h.files.target = none ∧ h.savers = [] ∧
    ∃ options now, h.fabric = FabricState.opened options now
  step := Host.step store

section Titles

variable {s t : FabricState} {d : DurableState} {now : UInt64}

/-- Every record stands under its own identity. -/
structure Titled (s : FabricState) : Prop where
  partitions : ∀ k r, s.partitions.find? k = some r → r.id = k
  reservations : ∀ k r, s.reservations.find? k = some r → r.id = k
  attempts : ∀ k a, s.attempts.find? k = some a → a.id = k
  assignments : ∀ k a, s.assignments.find? k = some a → a.id = k
  accelerators : Named s
  workers : ∀ k w, s.workers.find? k = some w → w.id = k

lemma titled_insert {α : Type} {m : KeyedMap UInt64 α} {title : α → UInt64}
    (h : ∀ k v, m.find? k = some v → title v = k) (v : α) :
    ∀ k w, (m.insert (title v) v).find? k = some w → title w = k := by
  intro k w hw
  rw [KeyedMap.find?_insert] at hw
  split at hw
  · rename_i hk
    rw [← Option.some.inj hw, hk]
  · exact h k w hw

lemma titled_modify {α : Type} {m : KeyedMap UInt64 α} {title : α → UInt64} {f : α → α}
    (h : ∀ k v, m.find? k = some v → title v = k) (hf : ∀ v, title (f v) = title v) (k : UInt64) :
    ∀ k' w, (m.modify k f).find? k' = some w → title w = k' := by
  intro k' w hw
  rw [KeyedMap.find?_modify] at hw
  split at hw
  · obtain ⟨v, hv, rfl⟩ := Option.map_eq_some_iff.mp hw
    rw [hf, h k' v hv]
  · exact h k' w hw

/-- What the titles of a registry depend on. -/
def titledPart (s : FabricState) :=
  (s.partitions, s.reservations, s.attempts, s.assignments, s.accelerators, s.workers)

lemma Titled.of_keeps (h : Keeps titledPart s t) : Preserves Titled s t := by
  intro hs
  obtain ⟨hpartitions, hreservations, hattempts, hassignments, haccelerators, hworkers⟩ :
      t.partitions = s.partitions ∧ t.reservations = s.reservations ∧ t.attempts = s.attempts ∧
        t.assignments = s.assignments ∧ t.accelerators = s.accelerators ∧
        t.workers = s.workers := by
    simpa [Keeps, titledPart] using h
  refine ⟨?_, ?_, ?_, ?_, ?_, ?_⟩
  · rw [hpartitions]; exact hs.partitions
  · rw [hreservations]; exact hs.reservations
  · rw [hattempts]; exact hs.attempts
  · rw [hassignments]; exact hs.assignments
  · unfold Named; rw [haccelerators]; exact hs.accelerators
  · rw [hworkers]; exact hs.workers

lemma titled_restoreRegistry (d : DurableState) (s : FabricState) :
    Titled (d.restoreRegistry s) := by
  refine ⟨?_, ?_, ?_, ?_, fun k a ha _ ↦ ?_, ?_⟩
  on_goal 5 =>
    rcases KeyedMap.find?_foldl_insert ha with ⟨a, -, rfl, rfl⟩ | hnone
    · rfl
    · cases hnone
  all_goals
    intro k v hv
    cases hv

lemma titled_onLedger {id : AcceleratorId} {op : LedgerM Unit} :
    Advances (Preserves Titled) (onLedger id op) s := by
  unfold Advances onLedger
  cases s.findLedger id with
  | none => exact refl_of _ s
  | some ledger => exact Titled.of_keeps rfl

lemma titled_insertPartition (r : PartitionRecord) :
    Preserves Titled s { s with partitions := s.partitions.insert r.id r } := fun hs ↦
  { hs with partitions := titled_insert hs.partitions r }

lemma titled_insertReservation (r : PartitionReservation) :
    Preserves Titled s { s with reservations := s.reservations.insert r.id r } := fun hs ↦
  { hs with reservations := titled_insert hs.reservations r }

lemma titled_insertAttempt (a : PartitionAttempt) :
    Preserves Titled s { s with attempts := s.attempts.insert a.id a } := fun hs ↦
  { hs with attempts := titled_insert hs.attempts a }

lemma titled_restorePartition {report : ReconciliationReport} {r : PartitionRecord} :
    Advances (Preserves Titled) (restorePartition now report r) s := by
  refine advances_ite (fun _ ↦ ?_) fun _ ↦ ?_
  · have hinsert := titled_insertPartition (s := s) { r with
      state := .revalidationRequired
      lastTransitionAtMs := now
      lastTransitionReason := "conservative revalidation after restart" }
    exact advances_modify_bind hinsert (advances_pure _ _)
  · exact advances_modify_bind (titled_insertPartition r) (advances_pure _ _)

lemma titled_retireRestored {p : PartitionId} : Preserves Titled s (retireRestored now p s) :=
  fun hs ↦ { hs with
    partitions := titled_modify hs.partitions (fun r ↦ by split <;> rfl) p }

lemma titled_releaseRestored {reservation : PartitionReservation} :
    Advances (Preserves Titled) (releaseRestored now reservation) s := by
  refine advances_get_bind (advances_when fun _ ↦ ?_)
  refine advances_bind (advances_attempt titled_onLedger) fun t status _ ↦ ?_
  cases status with
  | error e => exact advances_throw _ _
  | ok u => exact advances_forM fun _ _ _ _ ↦ advances_modify titled_retireRestored

lemma titled_restoreReservation {report : ReconciliationReport} {r : PartitionReservation} :
    Advances (Preserves Titled) (restoreReservation now report r) s := by
  refine advances_ite (fun _ ↦ ?_) fun _ ↦ ?_
  · exact advances_modify_bind (titled_insertReservation r) (advances_pure _ _)
  · refine advances_bind titled_releaseRestored fun t _ _ ↦ ?_
    have hinsert := titled_insertReservation (s := t) { r with
      lifecycle := .fenced
      reason := "restart invalidated live reservation authority"
      updatedAtMs := now }
    exact advances_modify_bind hinsert (advances_pure _ _)

lemma titled_restoreAttempt {report : ReconciliationReport} {a : PartitionAttempt} :
    Advances (Preserves Titled) (restoreAttempt now report a) s := by
  refine advances_ite (fun _ ↦ ?_) fun _ ↦ ?_
  · exact advances_modify_bind (titled_insertAttempt a) (advances_pure _ _)
  · have hinsert := titled_insertAttempt (s := s) { a with
      state := .outcomeUnknown
      settledAtMs := now
      detail := "restart invalidated in-flight attempt authority; reconciliation required" }
    exact advances_modify_bind hinsert (advances_pure _ _)

lemma titled_restoreAssignment {report : ReconciliationReport} {a : PartitionAssignment} :
    Advances (Preserves Titled) (restoreAssignment report a) s := by
  refine advances_get_bind (advances_ite (fun _ ↦ ?_) fun _ ↦ advances_pure _ _)
  refine advances_modify_bind (fun hs ↦ ?_) (advances_pure _ _)
  exact { hs with assignments := titled_insert hs.assignments a }

lemma titled_restoreWorkers (d : DurableState) (now : UInt64) :
    Preserves Titled s
      { s with workers := d.workers.foldl (fun m w ↦ m.insert w.id (restoreWorker now w)) ∅ } := by
  refine fun hs ↦ { hs with workers := fun k w hw ↦ ?_ }
  rcases KeyedMap.find?_foldl_insert hw with ⟨w, -, rfl, rfl⟩ | hnone
  · rfl
  · cases hnone

/-- An import files every record under its identity. -/
lemma titled_import (hs : Titled s) : Titled (importDurableState d now s).1 := by
  cases hvalid : d.validateImport s.stateGeneration with
  | error e =>
    rw [import_refused hvalid]
    exact hs
  | ok u =>
    unfold importDurableState
    rw [get_bind, hvalid]
    have hrest : Advances (Preserves Titled) (do
        restoreCounters d
        let id ← reportIdentity
        let report ← d.partitions.foldlM (restorePartition now) { id := id }
        let report ← d.reservations.foldlM (restoreReservation now) report
        let report ← d.attempts.foldlM (restoreAttempt now) report
        let report ← d.assignments.foldlM restoreAssignment report
        Procedure.modify fun s ↦
          { s with workers := d.workers.foldl (fun m w ↦ m.insert w.id (restoreWorker now w)) ∅ }
        Procedure.modify FabricState.bumpStateGeneration
        pure report) (d.restoreRegistry s) := by
      refine advances_bind ?_ fun _ _ _ ↦ ?_
      · refine advances_get_bind (advances_lift_bind fun _ _ ↦ ?_)
        refine advances_modify_bind (Titled.of_keeps rfl) (advances_lift_bind fun _ _ ↦ ?_)
        exact advances_modify (Titled.of_keeps rfl)
      refine advances_bind (advances_reportIdentity_of fun _ ↦ Titled.of_keeps rfl) fun _ _ _ ↦ ?_
      refine advances_bind (advances_foldlM fun _ _ _ _ _ ↦ titled_restorePartition) fun _ _ _ ↦ ?_
      refine advances_bind (advances_foldlM fun _ _ _ _ _ ↦ titled_restoreReservation)
        fun _ _ _ ↦ ?_
      refine advances_bind (advances_foldlM fun _ _ _ _ _ ↦ titled_restoreAttempt) fun _ _ _ ↦ ?_
      refine advances_bind (advances_foldlM fun _ _ _ _ _ ↦ titled_restoreAssignment)
        fun _ _ _ ↦ ?_
      refine advances_modify_bind (titled_restoreWorkers d now) ?_
      exact advances_modify_bind (bump_of fun _ ↦ Titled.of_keeps rfl) (advances_pure _ _)
    exact hrest (titled_restoreRegistry d s)

/-- The worker records stand under the identities of their workers. -/
def WorkersTitled (s : FabricState) : Prop := ∀ k w, s.workers.find? k = some w → w.id = k

lemma WorkersTitled.of_workers (h : t.workers = s.workers) (hs : WorkersTitled s) :
    WorkersTitled t := by
  unfold WorkersTitled
  rw [h]
  exact hs

lemma bearsLoss_workersTitled : BearsLoss (Preserves WorkersTitled) where
  keeps s t h hs := hs.of_workers h
  life s k f hf hs := titled_modify hs (fun w ↦ by rcases hf w with h | h <;> rw [h]) k

lemma workersTitled_step {op : Op} (himport : op.isImport = false) (hs : WorkersTitled s) :
    WorkersTitled (op.step s) := by
  cases op with
  | noteWorker worker now =>
    rcases noteWorker_cases worker now s with ⟨⟨e, h⟩, -⟩ | ⟨-, h⟩
    · change WorkersTitled (noteWorker worker now s).1
      rw [h]
      exact hs
    · intro k w hw
      replace hw := (h k).symm.trans hw
      split at hw
      · rename_i hk
        rw [← Option.some.inj hw, hk]
      · exact hs k w hw
  | noteWorkerSeen worker boot atMs =>
    change WorkersTitled (noteWorkerSeen worker boot atMs s).1
    rcases noteWorkerSeen_cases worker boot atMs s with h | ⟨r, -, -, h⟩
    · rw [h]
      exact hs
    · rw [h]
      refine titled_modify hs ?_ worker
      exact fun _ ↦ rfl
  | fenceWorker worker boot reason now =>
    change WorkersTitled (fenceWorkerLocked worker boot now reason s).1
    rcases workers_fenceWorkerLocked worker boot now reason s with ⟨h, -⟩ | ⟨-, h⟩
    · exact hs.of_workers h
    · unfold WorkersTitled
      rw [h]
      refine titled_modify hs ?_ worker
      exact fun _ ↦ rfl
  | advanceCoordinatorEpoch now =>
    exact advances_ignore (advances_workers_advanceCoordinatorEpoch bearsLoss_workersTitled) hs
  | close now => exact advances_workers_close bearsLoss_workersTitled hs
  | importDurableState d now => cases himport
  | _ => exact hs.of_workers ((evolves_step rfl s).tenure.workers.resolve_left id)

/-- One operation on a numbered registry keeps every record under its identity. -/
theorem titled_step (op : Op) (hn : Numbered s) (hs : Titled s) : Titled (op.step s) := by
  cases himport : op.isImport with
  | true =>
    cases op with
    | importDurableState d now => exact titled_import hs
    | _ => cases himport
  | false =>
    have hindexed : Indexed s :=
      ⟨fun k r h ↦ ⟨hs.partitions k r h, hn.partitions k r h⟩,
        fun k r h ↦ ⟨hs.reservations k r h, hn.reservations k r h⟩,
        fun k a h ↦ ⟨hs.attempts k a h, hn.attempts k a h⟩, hs.assignments⟩
    have hevolves := evolves_step himport s
    have hindexed := hevolves.indexed hindexed
    exact ⟨fun k r h ↦ (hindexed.partitions k r h).1, fun k r h ↦ (hindexed.reservations k r h).1,
      fun k a h ↦ (hindexed.attempts k a h).1, hindexed.assignments,
      hevolves.named hs.accelerators, workersTitled_step himport hs.workers⟩

end Titles

section Exports

variable {s : FabricState} {d : DurableState} {now : UInt64}

/-- An identity of a numbered registry that is empty or not is never beyond the counter. -/
lemma below_of_titled {α : Type} {m : KeyedMap UInt64 α} {title : α → UInt64} {n : UInt64}
    (hbelow : m.Below n) (h : ∀ k v, m.find? k = some v → title v = k) :
    ∀ v ∈ m.values, title v < n := by
  intro v hv
  obtain ⟨k, hk⟩ := KeyedMap.mem_values.mp hv
  rw [h k v hk]
  exact hbelow k v hk

lemma accelerator_below (hn : Numbered s) (hs : Named s) {k : AcceleratorId}
    {a : AcceleratorRecord} (ha : s.accelerators.find? k = some a) : a.id < s.ids.next := by
  have hk := hn.accelerators k a ha
  cases hvalid : valid a.id with
  | true => rwa [hs k a ha hvalid]
  | false =>
    have hzero : a.id = 0 := by simpa [valid] using hvalid
    rw [hzero]
    exact lt_of_le_of_lt (UInt64.zero_le) hk

/-- What a numbered fabric exports is counted. -/
theorem counted_export (hn : Numbered s) (hs : Titled s) (now : UInt64) :
    (exportDurableState s now).Counted where
  partitions := below_of_titled hn.partitions hs.partitions
  reservations := below_of_titled hn.reservations hs.reservations
  attempts := below_of_titled hn.attempts hs.attempts
  assignments := below_of_titled hn.assignments hs.assignments
  accelerators := by
    intro a ha
    obtain ⟨k, hk⟩ := KeyedMap.mem_values.mp ha
    exact accelerator_below hn hs.accelerators hk
  workers := below_of_titled hn.workers hs.workers
  keys := by
    rintro ⟨id, text⟩ hentry
    obtain ⟨⟨key, record⟩, hmem, hstored⟩ := List.mem_filterMap.mp hentry
    obtain ⟨_, -, heq⟩ := Option.map_eq_some_iff.mp hstored
    obtain ⟨rfl, -⟩ := Prod.mk.inj heq
    exact accelerator_below hn hs.accelerators (KeyedMap.find?_eq_some_iff_mem.mpr hmem)

lemma DurableState.Counted.stored (h : d.Counted) : d.stored.Counted :=
  ⟨h.partitions, h.reservations, h.attempts, h.assignments, h.accelerators, h.workers, h.keys⟩

end Exports

namespace Host

variable {store : PersistenceStore} {h : Host}

/-- An operation of a caller keeps the numbering; nothing else restricts what happens. -/
def KeepsNumbering (h : Host) : HostAction → Prop
  | .operate op => PartitionFabric.KeepsNumbering h.fabric op
  | _ => True

/-- The file holds what a fabric exported. -/
def HoldsExport (files : Files) (s : FabricState) : Prop :=
  ∃ bytes now, files.target = some bytes ∧
    PersistenceStore.encode (exportDurableState s now) s.limits = .ok bytes

/-- What runs of a host keep: the file, if it is there, is the export of a fabric that was saved. -/
structure Consistent (h : Host) : Prop where
  reachable : PartitionFabric.fabric.Reachable PartitionFabric.KeepsNumbering h.fabric
  titled : Titled h.fabric
  savers : ∀ s ∈ h.savers,
    PartitionFabric.fabric.Reachable PartitionFabric.KeepsNumbering s ∧ Titled s
  file : h.files.target ≠ none → ∃ s ∈ h.savers, HoldsExport h.files s

lemma titled_opened (options : FabricOptions) (now : UInt64) :
    Titled (FabricState.opened options now) := by
  constructor
  all_goals
    intro k v hv
    cases hv

/-- A new instance over files that are consistent. -/
lemma Consistent.restarted (hh : h.Consistent) (options : FabricOptions) (now : UInt64) :
    Consistent { h with fabric := FabricState.opened options now } :=
  ⟨.initial ⟨options, now, rfl⟩, titled_opened options now, hh.savers, hh.file⟩

/-- A procedure on the files leaves the fabric, or a new instance where the process died. -/
lemma Consistent.surviving (hh : h.Consistent) (ended : Except (Halt Error) Unit)
    (restart : FabricOptions) (now : UInt64) :
    Consistent { h with fabric := surviving ended restart now h.fabric } := by
  rcases ended with (_ | e) | u
  · exact hh.restarted restart now
  · exact hh
  · exact hh

/-- What is loaded from a file is what the fabric exported that it holds. -/
lemma HoldsExport.loaded {os : Filing} {limits : Limits} {files : Files} {s : FabricState}
    {d : DurableState} (hfile : HoldsExport files s) (hload : store.load os limits files = .ok d) :
    ∃ now, d = (exportDurableState s now).stored := by
  obtain ⟨bytes, htarget, hdecode⟩ := PersistenceStore.load_eq_ok hload
  obtain ⟨bytes', now, htarget', hencode⟩ := hfile
  obtain rfl := Option.some.inj (htarget'.symm.trans htarget)
  exact ⟨now, ((decode_encoded_iff hencode).mp hdecode).2.2.symm⟩

/-- What is loaded from a consistent host was exported by a fabric that was saved. -/
lemma Consistent.loaded {os : Filing} {limits : Limits} {d : DurableState} (hh : h.Consistent)
    (hload : store.load os limits h.files = .ok d) :
    ∃ s ∈ h.savers, HoldsExport h.files s ∧ d.Counted ∧ d.nextIdentity = s.ids.next := by
  obtain ⟨bytes, htarget, -⟩ := PersistenceStore.load_eq_ok hload
  obtain ⟨s, hs, hholds⟩ := hh.file (by simp [htarget])
  obtain ⟨now, rfl⟩ := hholds.loaded hload
  obtain ⟨hreachable, htitled⟩ := hh.savers s hs
  exact ⟨s, hs, hholds,
    (counted_export (numbered_of_reachable hreachable) htitled now).stored, rfl⟩

lemma loadFabric_imported {os : Filing} {store : PersistenceStore} {files : Files} {now : UInt64}
    {d : DurableState} {s t : FabricState} {report : ReconciliationReport}
    (hload : store.load os s.limits files = .ok d)
    (himport : importDurableState d now s = (t, .ok report)) :
    loadFabric os store files now s = (t, .ok ()) := by
  unfold loadFabric
  rw [get_bind, hload]
  exact bind_ok himport

/-- A load leaves the fabric alone, or imports what the store holds. -/
lemma loadFabric_cases (os : Filing) (store : PersistenceStore) (files : Files) (now : UInt64)
    (s : FabricState) :
    (loadFabric os store files now s).1 = s ∨
      ∃ d, store.load os s.limits files = .ok d ∧
        (loadFabric os store files now s).1 = (importDurableState d now s).1 := by
  unfold loadFabric
  rw [get_bind]
  cases store.load os s.limits files with
  | error e =>
    left
    dsimp only
    split
    · rfl
    · rfl
  | ok d =>
    refine .inr ⟨d, rfl, ?_⟩
    dsimp only
    rcases himport : importDurableState d now s with ⟨t, e | report⟩
    · rw [bind_error himport]
    · rw [bind_ok himport]
      rfl

/-- A save replaces the file by the export of the fabric, or it leaves it as it was. -/
lemma Consistent.saved (hh : h.Consistent) (os : Filing) (life : ℕ) (now : UInt64) :
    Consistent { h with
      files := (Mortal.returning (h.fabric.save os store now) ⟨h.files, life⟩).1.state
      savers := h.savers ++ [h.fabric] } := by
  obtain ⟨q, r, hrun, hcases⟩ := PersistenceStore.returning_save_cases os store
    (exportDurableState h.fabric now) h.fabric.limits ⟨h.files, life⟩
  refine ⟨hh.reachable, hh.titled, fun s hs ↦ ?_, fun hsome ↦ ?_⟩
  · rcases List.mem_append.mp hs with hbefore | hnow
    · exact hh.savers s hbefore
    · obtain rfl := List.mem_singleton.mp hnow
      exact ⟨hh.reachable, hh.titled⟩
  · unfold FabricState.save HoldsExport at *
    simp only [hrun] at hsome ⊢
    rcases hcases with ⟨hkept, -⟩ | ⟨bytes, hencode, htarget, -⟩
    · rw [hkept] at hsome ⊢
      obtain ⟨s, hs, hholds⟩ := hh.file hsome
      exact ⟨s, List.mem_append_left _ hs, hholds⟩
    · exact ⟨h.fabric, List.mem_append_right _ (List.mem_singleton.mpr rfl), bytes, now, htarget,
        hencode⟩

lemma Consistent.removed (hh : h.Consistent) (os : Filing) (life : ℕ) :
    Consistent { h with
      files := (Mortal.returning (store.remove os) ⟨h.files, life⟩).1.state } := by
  obtain ⟨q, r, hrun, hcases⟩ := PersistenceStore.returning_remove_cases os store ⟨h.files, life⟩
  refine ⟨hh.reachable, hh.titled, hh.savers, fun hsome ↦ ?_⟩
  unfold HoldsExport
  simp only [hrun] at hsome ⊢
  rcases hcases with hgone | ⟨hkept, -⟩
  · exact absurd hgone hsome
  · rw [hkept] at hsome ⊢
    exact hh.file hsome

/-- One action keeps a host consistent. -/
theorem consistent_step (action : HostAction) (hh : h.Consistent)
    (hop : h.KeepsNumbering action) : (step store action h).Consistent := by
  have hn : Numbered h.fabric := numbered_of_reachable hh.reachable
  cases action with
  | operate op =>
    exact ⟨.step op hh.reachable hop, titled_step op hn hh.titled, hh.savers, hh.file⟩
  | save os life now restart => exact (hh.saved os life now).surviving _ restart now
  | load os now =>
    rcases loadFabric_cases os store h.files now h.fabric with hkept | ⟨d, hload, himport⟩
    · have hsame : step store (.load os now) h = h := by rw [step, hkept]
      rw [hsame]
      exact hh
    · have hstep : (loadFabric os store h.files now h.fabric).1 =
          Op.step (.importDurableState d now) h.fabric := himport
      obtain ⟨s, -, -, hcounted, -⟩ := hh.loaded hload
      have hguard : PartitionFabric.KeepsNumbering h.fabric (.importDurableState d now) :=
        fun _ ↦ hcounted
      refine ⟨?_, ?_, hh.savers, hh.file⟩
      · rw [step, hstep]
        exact hh.reachable.step (.importDurableState d now) hguard
      · rw [step, hstep]
        exact titled_step (.importDurableState d now) hn hh.titled
  | remove os life now restart => exact (hh.removed os life).surviving _ restart now
  | restart options now => exact hh.restarted options now

theorem consistent_of_reachable (hh : (host store).Reachable KeepsNumbering h) : h.Consistent := by
  refine hh.invariant ?_ fun h action hc hop ↦ consistent_step action hc hop
  rintro ⟨fabric, files, savers⟩ ⟨hnone, hempty, options, now, rfl⟩
  obtain rfl : savers = [] := hempty
  exact ⟨.initial ⟨options, now, rfl⟩, titled_opened options now, List.forall_mem_nil _,
    fun hsome ↦ absurd hnone hsome⟩

end Host

namespace Sample

/-- A fabric with a worker. -/
def staffed : FabricState :=
  fabric.run [.allocateWorkerId, .noteWorker { id := 1, boot := 7 } 3] opened

/-- A fabric is saved and hands out another identity; the process dies in the save behind, and
another one is started. -/
def interruption : List HostAction :=
  [.save { pieces := [64, 512] } 20 5 {}, .operate .allocateWorkerId,
    .save { pieces := [64, 512] } 2 6 {}]

/-- The fabric gets a worker before the interruption. -/
def interrupted : List HostAction :=
  .operate .allocateWorkerId :: .operate (.noteWorker { id := 1, boot := 7 } 3) :: interruption

/-- The file that a fabric is saved in. -/
def savedFile (s : FabricState) (now : UInt64) : List UInt8 :=
  PersistenceStore.container persistenceFormatVersion ((exportDurableState s now).encode {}).content

lemma encode_staffed :
    PersistenceStore.encode (exportDurableState staffed 5) {} = .ok (savedFile staffed 5) := by
  have hvalid : (exportDurableState staffed 5).validateDecoded {} = success := by decide +kernel
  have hfits : ((exportDurableState staffed 5).encode {}).Fits 1048576 :=
    ⟨by decide +kernel, by decide +kernel⟩
  have hlength : ((exportDurableState staffed 5).encode {}).content.length ≤ maxPayloadBytes := by
    decide +kernel
  exact PersistenceStore.encode_eq_ok_iff.mpr ⟨hvalid, hfits, hlength, rfl⟩

lemma encode_numbering :
    PersistenceStore.encode (exportDurableState (Op.allocateWorkerId.step staffed) 6) {} =
      .ok (savedFile (Op.allocateWorkerId.step staffed) 6) := by
  have hvalid : (exportDurableState (Op.allocateWorkerId.step staffed) 6).validateDecoded {} =
      success := by
    decide +kernel
  have hfits : ((exportDurableState (Op.allocateWorkerId.step staffed) 6).encode {}).Fits 1048576 :=
    ⟨by decide +kernel, by decide +kernel⟩
  have hlength : ((exportDurableState (Op.allocateWorkerId.step staffed) 6).encode
      {}).content.length ≤ maxPayloadBytes := by
    decide +kernel
  exact PersistenceStore.encode_eq_ok_iff.mpr ⟨hvalid, hfits, hlength, rfl⟩

/-- A file that two pieces hold is written by a process that lives on. -/
lemma returning_written {data : List UInt8} (h : data.length ≤ 576) (files : Files) :
    returning (writeFileAtomic { pieces := [64, 512] } "fabric.state" data) ⟨files, 20⟩ =
      (⟨⟨some data, none⟩, 15⟩, .ok ()) := by
  have hpieces : ([] ++ data.take 64) ++ (data.drop 64).take 512 = data := by
    have hlast : (data.drop 64).take 512 = data.drop 64 := by
      refine List.take_of_length_le ?_
      rw [List.length_drop]
      omega
    rw [List.nil_append, hlast, List.take_append_drop]
  have hwrite : writeTemporary { pieces := [64, 512] } "fabric.state" "fabric.state.tmp" data
      ⟨files, 20⟩ = (⟨⟨files.target, some (([] ++ data.take 64) ++ (data.drop 64).take 512)⟩, 17⟩,
        .ok ()) := rfl
  rw [hpieces] at hwrite
  have hatomic : writeFileAtomic { pieces := [64, 512] } "fabric.state" data ⟨files, 20⟩ =
      (⟨⟨some data, none⟩, 16⟩, .ok ()) := by
    unfold writeFileAtomic
    refine (bind_ok hwrite).trans ?_
    have hsize : temporarySize { pieces := [64, 512] }
        (⟨files.target, some data⟩ : Files) = data.length := rfl
    rw [get_bind, if_neg (not_not.mpr hsize)]
    rfl
  exact (bind_ok hatomic).trans rfl

end Sample

namespace Host

/-- A fabric whose state can be encoded is saved as it is encoded. -/
lemma step_save {os : Filing} {life : ℕ} {now : UInt64} {restart : FabricOptions} {h : Host}
    {data : List UInt8} (hpath : store.path.isEmpty = false)
    (hencode : PersistenceStore.encode (exportDurableState h.fabric now) h.fabric.limits =
      .ok data) :
    step store (.save os life now restart) h =
      { fabric := surviving (returning (writeFileAtomic os store.path data) ⟨h.files, life⟩).2
          restart now h.fabric
        files := (returning (writeFileAtomic os store.path data) ⟨h.files, life⟩).1.state
        savers := h.savers ++ [h.fabric] } := by
  have hsave : h.fabric.save os store now = writeFileAtomic os store.path data := by
    unfold FabricState.save PersistenceStore.save
    rw [hencode, hpath]
    rfl
  rw [← hsave]
  rfl

lemma step_written (h : Host) {data : List UInt8} (hlength : data.length ≤ 576)
    (hencode : PersistenceStore.encode (exportDurableState h.fabric 5) h.fabric.limits =
      .ok data) :
    step { path := "fabric.state" } (.save { pieces := [64, 512] } 20 5 {}) h =
      { fabric := h.fabric
        files := ⟨some data, none⟩
        savers := h.savers ++ [h.fabric] } := by
  rw [step_save rfl hencode, Sample.returning_written hlength]
  rfl

lemma step_cut (h : Host) {data : List UInt8}
    (hencode : PersistenceStore.encode (exportDurableState h.fabric 6) h.fabric.limits =
      .ok data) :
    step { path := "fabric.state" } (.save { pieces := [64, 512] } 2 6 {}) h =
      { fabric := FabricState.opened {} 6
        files := ⟨h.files.target, some ([] ++ data.take 64)⟩
        savers := h.savers ++ [h.fabric] } := by
  rw [step_save rfl hencode]
  rfl

/-- A process saves its fabric, hands out another identity and dies over its second file. -/
lemma run_interruption {s t : FabricState} {data data' : List UInt8} (hlength : data.length ≤ 576)
    (h : PersistenceStore.encode (exportDurableState s 5) s.limits = .ok data)
    (ht : Op.allocateWorkerId.step s = t)
    (h' : PersistenceStore.encode (exportDurableState t 6) t.limits = .ok data') :
    (host { path := "fabric.state" }).run Sample.interruption { fabric := s } =
      { fabric := FabricState.opened {} 6
        files := ⟨some data, some ([] ++ data'.take 64)⟩
        savers := [s, t] } := by
  have hfirst : (host { path := "fabric.state" }).step (.save { pieces := [64, 512] } 20 5 {})
      { fabric := s } = ⟨s, ⟨some data, none⟩, [s]⟩ := step_written ⟨s, {}, []⟩ hlength h
  have hsecond : (host { path := "fabric.state" }).step (.operate .allocateWorkerId)
      ⟨s, ⟨some data, none⟩, [s]⟩ = ⟨t, ⟨some data, none⟩, [s]⟩ := by
    rw [← ht]
    rfl
  rw [Sample.interruption, System.run, hfirst, System.run, hsecond, System.run]
  exact step_cut ⟨t, ⟨some data, none⟩, [s]⟩ h'

end Host

end PartitionFabric

import PartitionFabric.Invariants.Assignments
import PartitionFabric.Invariants.Restart

/-!
Identities: the allocator hands out none that a record already stands under, as long as the
identities that callers choose are ones it has passed.
-/

namespace PartitionFabric

open Procedure

variable {s : FabricState} {now : UInt64}

/-- No record of any kind stands under the identity. -/
structure Unused (s : FabricState) (id : UInt64) : Prop where
  partitions : s.partitions.find? id = none
  reservations : s.reservations.find? id = none
  plans : s.plans.find? id = none
  attempts : s.attempts.find? id = none
  assignments : s.assignments.find? id = none
  accelerators : s.accelerators.find? id = none
  workers : s.workers.find? id = none

lemma absent_of_below {α : Type} {m : KeyedMap UInt64 α} {n k : UInt64} (h : m.Below n)
    (hk : n ≤ k) : m.find? k = none := by
  cases hfind : m.find? k with
  | none => rfl
  | some v => exact absurd (h k v hfind) (not_lt.mpr hk)

lemma Numbered.unused {id : UInt64} (h : Numbered s) (hid : s.ids.next ≤ id) : Unused s id :=
  ⟨absent_of_below h.partitions hid, absent_of_below h.reservations hid,
    absent_of_below h.plans hid, absent_of_below h.attempts hid,
    absent_of_below h.assignments hid, absent_of_below h.accelerators hid,
    absent_of_below h.workers hid⟩

/-- The next identity that the allocator hands out is one that no record stands under. -/
def AllocatesUnused (s : FabricState) : Prop :=
  ∀ id, (allocateId s).2 = .ok id → Unused s id

lemma Numbered.allocatesUnused (h : Numbered s) : AllocatesUnused s := by
  intro id hid
  rcases allocateId_cases s with ⟨e, heq⟩ | ⟨ids, -, heq⟩
  · rw [heq] at hid
    cases hid
  · rw [heq] at hid
    obtain rfl := Except.ok.inj hid
    exact h.unused (le_refl _)

/-- Every identity in a durable state is below its identity counter. -/
structure DurableState.Counted (d : DurableState) : Prop where
  partitions : ∀ r ∈ d.partitions, r.id < d.nextIdentity
  reservations : ∀ r ∈ d.reservations, r.id < d.nextIdentity
  attempts : ∀ a ∈ d.attempts, a.id < d.nextIdentity
  assignments : ∀ a ∈ d.assignments, a.id < d.nextIdentity
  accelerators : ∀ a ∈ d.accelerators, a.id < d.nextIdentity
  workers : ∀ w ∈ d.workers, w.id < d.nextIdentity
  keys : ∀ entry ∈ d.acceleratorKeys, entry.1 < d.nextIdentity

/-- A step that brings a caller's identity in brings one that the allocator has passed: a device or
a worker that the registry has room for, an assignment that is bound, an import. -/
def KeepsNumbering (s : FabricState) : Op → Prop
  | .registerAccelerator record _ => s.closed = false → record.validate s.limits = success →
    s.accelerators.size < s.limits.maxAccelerators → record.id < s.ids.next
  | .noteWorker worker _ => valid worker.id = true → valid worker.boot = true →
    s.workers.size < s.limits.maxWorkers → worker.id < s.ids.next
  | .bindAssignment assignment => ∀ record ∈ s.findPartition assignment.partition,
    bindable s assignment record = true → assignment.id < s.ids.next
  | .importDurableState durable _ =>
    durable.validateImport s.stateGeneration = success → durable.Counted
  | _ => True

section Import

variable {d : DurableState}

/-- The registry is numbered, and the allocator has passed the durable counter. -/
def Recounted (d : DurableState) (s : FabricState) : Prop :=
  Numbered s ∧ d.nextIdentity ≤ s.ids.next

lemma Recounted.of_keeps {s t : FabricState} (h : Keeps identityPart s t) :
    Preserves (Recounted d) s t := by
  intro hs
  have hids : t.ids = s.ids := (Prod.mk.inj h).1
  exact ⟨hs.1.of_keeps h, by rw [hids]; exact hs.2⟩

lemma recounted_reportIdentity : Advances (Preserves (Recounted d)) reportIdentity s := by
  refine advances_bind (advances_attempt ?_) fun t status _ ↦ ?_
  · unfold Advances
    rcases allocateId_cases s with ⟨e, h⟩ | ⟨ids, hlt, h⟩
    · rw [h]
      exact refl_of _ s
    · rw [h]
      exact fun hs ↦ ⟨hs.1.allocate hlt.le, hs.2.trans hlt.le⟩
  · cases status with
    | error e => exact advances_pure _ _
    | ok id => exact advances_pure _ _

lemma recounted_insertPartition {r : PartitionRecord} (h : r.id < d.nextIdentity) :
    Preserves (Recounted d) s { s with partitions := s.partitions.insert r.id r } := fun hs ↦
  ⟨{ hs.1 with partitions := hs.1.partitions.insert (lt_of_lt_of_le h hs.2) r }, hs.2⟩

lemma recounted_restorePartition {report : ReconciliationReport} {r : PartitionRecord}
    (h : r.id < d.nextIdentity) :
    Advances (Preserves (Recounted d)) (restorePartition now report r) s := by
  refine advances_ite (fun _ ↦ ?_) fun _ ↦ ?_
  · have hinsert := recounted_insertPartition (s := s) (d := d) (r := { r with
      state := .revalidationRequired
      lastTransitionAtMs := now
      lastTransitionReason := "conservative revalidation after restart" }) h
    exact advances_modify_bind hinsert (advances_pure _ _)
  · exact advances_modify_bind (recounted_insertPartition h) (advances_pure _ _)

lemma recounted_retireRestored {p : PartitionId} :
    Preserves (Recounted d) s (retireRestored now p s) := fun hs ↦
  ⟨{ hs.1 with partitions := hs.1.partitions.modify _ }, hs.2⟩

lemma recounted_onLedger {id : AcceleratorId} {op : LedgerM Unit} :
    Advances (Preserves (Recounted d)) (onLedger id op) s := by
  unfold Advances onLedger
  cases s.findLedger id with
  | none => exact refl_of _ s
  | some ledger => exact Recounted.of_keeps rfl

lemma recounted_releaseRestored {reservation : PartitionReservation} :
    Advances (Preserves (Recounted d)) (releaseRestored now reservation) s := by
  refine advances_get_bind (advances_when fun _ ↦ ?_)
  refine advances_bind (advances_attempt recounted_onLedger) fun t status _ ↦ ?_
  cases status with
  | error e => exact advances_throw _ _
  | ok u => exact advances_forM fun _ _ _ _ ↦ advances_modify recounted_retireRestored

lemma recounted_insertReservation {r : PartitionReservation} (h : r.id < d.nextIdentity) :
    Preserves (Recounted d) s { s with reservations := s.reservations.insert r.id r } := fun hs ↦
  ⟨{ hs.1 with reservations := hs.1.reservations.insert (lt_of_lt_of_le h hs.2) r }, hs.2⟩

lemma recounted_restoreReservation {report : ReconciliationReport} {r : PartitionReservation}
    (h : r.id < d.nextIdentity) :
    Advances (Preserves (Recounted d)) (restoreReservation now report r) s := by
  refine advances_ite (fun _ ↦ ?_) fun _ ↦ ?_
  · exact advances_modify_bind (recounted_insertReservation h) (advances_pure _ _)
  · refine advances_bind recounted_releaseRestored fun t _ _ ↦ ?_
    have hinsert := recounted_insertReservation (s := t) (d := d) (r := { r with
      lifecycle := .fenced
      reason := "restart invalidated live reservation authority"
      updatedAtMs := now }) h
    exact advances_modify_bind hinsert (advances_pure _ _)

lemma recounted_insertAttempt {a : PartitionAttempt} (h : a.id < d.nextIdentity) :
    Preserves (Recounted d) s { s with attempts := s.attempts.insert a.id a } := fun hs ↦
  ⟨{ hs.1 with attempts := hs.1.attempts.insert (lt_of_lt_of_le h hs.2) a }, hs.2⟩

lemma recounted_restoreAttempt {report : ReconciliationReport} {a : PartitionAttempt}
    (h : a.id < d.nextIdentity) :
    Advances (Preserves (Recounted d)) (restoreAttempt now report a) s := by
  refine advances_ite (fun _ ↦ ?_) fun _ ↦ ?_
  · exact advances_modify_bind (recounted_insertAttempt h) (advances_pure _ _)
  · have hinsert := recounted_insertAttempt (s := s) (d := d) (a := { a with
      state := .outcomeUnknown
      settledAtMs := now
      detail := "restart invalidated in-flight attempt authority; reconciliation required" }) h
    exact advances_modify_bind hinsert (advances_pure _ _)

lemma recounted_restoreAssignment {report : ReconciliationReport} {a : PartitionAssignment}
    (h : a.id < d.nextIdentity) :
    Advances (Preserves (Recounted d)) (restoreAssignment report a) s := by
  refine advances_get_bind (advances_ite (fun _ ↦ ?_) fun _ ↦ advances_pure _ _)
  refine advances_modify_bind (fun hs ↦ ?_) (advances_pure _ _)
  exact ⟨{ hs.1 with
    assignments := hs.1.assignments.insert (lt_of_lt_of_le h hs.2) a }, hs.2⟩

lemma below_restored {α β : Type} {n : UInt64} {l : List β} {key : β → UInt64} {value : β → α}
    (h : ∀ x ∈ l, key x < n) :
    (l.foldl (fun m x ↦ m.insert (key x) (value x)) (∅ : KeyedMap UInt64 α)).Below n := by
  intro k v hv
  rcases KeyedMap.find?_foldl_insert hv with ⟨x, hx, rfl, -⟩ | hnone
  · exact h x hx
  · cases hnone

/-- A restored registry is numbered by any allocator that has passed the durable counter and the
plans that survive. -/
lemma numbered_restoreRegistry {ids : IdAllocator} (h : d.Counted)
    (hs : s.plans.Below s.ids.next)
    (hle : d.nextIdentity ≤ ids.next) (hids : s.ids.next ≤ ids.next) :
    Numbered { d.restoreRegistry s with ids := ids } := by
  refine ⟨KeyedMap.below_empty _, KeyedMap.below_empty _, hs.mono hids,
    KeyedMap.below_empty _, KeyedMap.below_empty _, (below_restored h.accelerators).mono hle,
    KeyedMap.below_empty _, fun text id hfind ↦ ?_⟩
  rcases KeyedMap.find?_foldl_insert hfind with ⟨entry, hentry, -, rfl⟩ | hnone
  · exact lt_of_lt_of_le (h.keys entry hentry) hle
  · cases hnone

/-- The counters are restored before anything that may fail except the allocator itself, which
refuses a counter that it has passed. -/
lemma recounted_restoreCounters (h : d.Counted) (hs : s.plans.Below s.ids.next) :
    Numbered (restoreCounters d (d.restoreRegistry s)).1 ∧
      ∀ t u, restoreCounters d (d.restoreRegistry s) = (t, .ok u) → Recounted d t := by
  unfold restoreCounters
  rw [get_bind]
  cases hfloor : s.ids.restoreFloor d.nextIdentity with
  | error e =>
    have hrun : (d.restoreRegistry s).ids.restoreFloor d.nextIdentity = .error e := hfloor
    have hlt : d.nextIdentity < s.ids.next := by
      unfold IdAllocator.restoreFloor at hfloor
      split at hfloor
      · assumption
      · cases hfloor
    rw [hrun]
    exact ⟨numbered_restoreRegistry h hs hlt.le (le_refl _), fun t u heq ↦ by cases heq⟩
  | ok ids =>
    have hrun : (d.restoreRegistry s).ids.restoreFloor d.nextIdentity = .ok ids := hfloor
    unfold IdAllocator.restoreFloor at hfloor
    split at hfloor
    · cases hfloor
    rename_i hge
    obtain rfl := Except.ok.inj hfloor
    let base : FabricState := { d.restoreRegistry s with ids := ⟨d.nextIdentity⟩ }
    have hnumbered : Numbered base := numbered_restoreRegistry h hs (le_refl _) (not_lt.mp hge)
    rw [hrun]
    cases hgeneration : next d.stateGeneration with
    | error e => exact ⟨Numbered.of_keeps (s := base) rfl hnumbered, fun t u heq ↦ by cases heq⟩
    | ok generation =>
      refine ⟨Numbered.of_keeps (s := base) rfl hnumbered, fun t u heq ↦ ?_⟩
      obtain rfl := (Prod.mk.inj heq).1
      exact ⟨Numbered.of_keeps (s := base) rfl hnumbered, le_refl _⟩

/-- An import of a counted state that is not refused leaves a numbered registry, when the plans that
survive it are numbered; when it succeeds, the allocator has passed the durable counter. -/
lemma recounted_imported {u : Unit} (hs : s.plans.Below s.ids.next) (hcounted : d.Counted)
    (hvalid : d.validateImport s.stateGeneration = .ok u) :
    Numbered (importDurableState d now s).1 ∧
      ∀ t report, importDurableState d now s = (t, .ok report) → Recounted d t := by
  unfold importDurableState
  rw [get_bind, hvalid]
  obtain ⟨hfailed, hdone⟩ := recounted_restoreCounters hcounted hs
  change Numbered ((restoreCounters d >>= _) (d.restoreRegistry s)).1 ∧
    ∀ t report, (restoreCounters d >>= _) (d.restoreRegistry s) = (t, .ok report) → Recounted d t
  cases hcounters : restoreCounters d (d.restoreRegistry s) with
  | mk t status =>
    rw [hcounters] at hfailed
    cases status with
    | error e =>
      rw [bind_error hcounters]
      refine ⟨hfailed, fun _ _ h ↦ ?_⟩
      cases h
    | ok u =>
      rw [bind_ok hcounters]
      suffices hrest : Advances (Preserves (Recounted d)) _ t from
        ⟨(hrest (hdone t u hcounters)).1, fun _ _ h ↦ hrest.of_run h (hdone t u hcounters)⟩
      refine advances_bind recounted_reportIdentity fun _ _ _ ↦ ?_
      refine advances_bind (advances_foldlM fun _ r hr _ _ ↦
        recounted_restorePartition (hcounted.partitions r hr)) fun _ _ _ ↦ ?_
      refine advances_bind (advances_foldlM fun _ r hr _ _ ↦
        recounted_restoreReservation (hcounted.reservations r hr)) fun _ _ _ ↦ ?_
      refine advances_bind (advances_foldlM fun _ a ha _ _ ↦
        recounted_restoreAttempt (hcounted.attempts a ha)) fun _ _ _ ↦ ?_
      refine advances_bind (advances_foldlM fun _ a ha _ _ ↦
        recounted_restoreAssignment (hcounted.assignments a ha)) fun _ _ _ ↦ ?_
      refine advances_modify_bind (fun hv ↦ ⟨{ hv.1 with workers := ?_ }, hv.2⟩) ?_
      · exact (below_restored hcounted.workers).mono hv.2
      · exact advances_modify_bind (bump_of fun _ ↦ Recounted.of_keeps rfl) (advances_pure _ _)

lemma numbered_imported {u : Unit} (hs : s.plans.Below s.ids.next) (hcounted : d.Counted)
    (hvalid : d.validateImport s.stateGeneration = .ok u) :
    Numbered (importDurableState d now s).1 :=
  (recounted_imported hs hcounted hvalid).1

/-- An import of a counted state keeps the registry numbered. -/
lemma numbered_import (hs : Numbered s)
    (h : d.validateImport s.stateGeneration = success → d.Counted) :
    Numbered (importDurableState d now s).1 := by
  cases hvalid : d.validateImport s.stateGeneration with
  | error e =>
    rw [import_refused hvalid]
    exact hs
  | ok u => exact numbered_imported hs.plans (h hvalid) hvalid

end Import

section Steps

/-- A registration of a device under an identity that the allocator has not passed changes nothing
unless the fabric is open, the record is valid and there is room. -/
lemma registerAccelerator_refused {record : AcceleratorRecord}
    (habsent : s.accelerators.find? record.id = none)
    (h : ¬ (s.closed = false ∧ record.validate s.limits = success ∧
      s.accelerators.size < s.limits.maxAccelerators)) :
    (registerAccelerator record now s).1 = s := by
  have hnone : s.findAccelerator record.id = none := habsent
  unfold registerAccelerator
  cases hclosed : s.closed with
  | true =>
    rw [bind_error (checkOpen_closed hclosed)]
  | false =>
    rw [bind_ok (checkOpen_opened hclosed), get_bind]
    cases hvalid : record.validate s.limits with
    | error e => rfl
    | ok u =>
      have hfull : ¬ s.accelerators.size < s.limits.maxAccelerators := fun hroom ↦
        h ⟨hclosed, hvalid, hroom⟩
      have hroom : (!((none : Option AcceleratorRecord).isNone &&
          s.accelerators.size ≥ s.limits.maxAccelerators)) = false := by
        simpa using not_lt.mp hfull
      change (((require _ _ : FabricM Unit) >>= _) s).1 = s
      rw [hnone, require_bind, Option.any_none, Bool.not_false, if_pos rfl, require_bind, hroom]
      rfl

lemma noteWorker_refused {worker : WorkerRecord} (habsent : s.workers.find? worker.id = none)
    (h : ¬ (valid worker.id = true ∧ valid worker.boot = true ∧
      s.workers.size < s.limits.maxWorkers)) :
    (noteWorker worker now s).1 = s := by
  have hnone : s.findWorker worker.id = none := habsent
  unfold noteWorker
  rw [require_bind]
  cases hvalid : valid worker.id && valid worker.boot with
  | false => rfl
  | true =>
    obtain ⟨hid, hboot⟩ := Bool.and_eq_true_iff.mp hvalid
    have hfull : ¬ s.workers.size < s.limits.maxWorkers := fun hroom ↦ h ⟨hid, hboot, hroom⟩
    have hroom : (!((none : Option WorkerRecord).isNone &&
        s.workers.size ≥ s.limits.maxWorkers)) = false := by
      simpa using not_lt.mp hfull
    rw [if_pos rfl, get_bind, hnone, require_bind, hroom]
    rfl

/-- What an operation may do, when the identities it was given are ones the allocator has passed. -/
def Op.numbering (op : Op) : Scope := { op.scope with numbers := True }

lemma lenient_numbering (op : Op) : op.numbering.Lenient :=
  ⟨(lenient_scope op).enters, (lenient_scope op).settles, (lenient_scope op).republishes,
    (lenient_scope op).answers⟩

lemma numbered_of_within {op : Op} (hs : Numbered s) (h : op.Within op.numbering s) :
    Numbered (op.step s) :=
  (evolves_within h ((lenient_numbering op).minds s op)).numbered trivial hs

lemma numbered_registerAccelerator {record : AcceleratorRecord} (hs : Numbered s)
    (hop : KeepsNumbering s (.registerAccelerator record now)) :
    Numbered ((Op.registerAccelerator record now).step s) := by
  by_cases hid : record.id < s.ids.next
  · refine numbered_of_within hs ?_
    exact ⟨fun ht ↦ ht, fun _ _ ↦ .inl trivial, trivial, trivial, fun _ ↦ trivial,
      fun _ _ ↦ .inl trivial, fun _ ↦ hid⟩
  · have hrefused : (registerAccelerator record now s).1 = s := by
      refine registerAccelerator_refused (absent_of_below hs.accelerators (not_lt.mp hid)) ?_
      rintro ⟨hopen, hvalid, hroom⟩
      exact hid (hop hopen hvalid hroom)
    change Numbered (registerAccelerator record now s).1
    rwa [hrefused]

lemma numbered_noteWorker {worker : WorkerRecord} (hs : Numbered s)
    (hop : KeepsNumbering s (.noteWorker worker now)) :
    Numbered ((Op.noteWorker worker now).step s) := by
  by_cases hid : worker.id < s.ids.next
  · exact numbered_of_within hs ⟨trivial, fun _ ↦ hid⟩
  · have hrefused : (noteWorker worker now s).1 = s := by
      refine noteWorker_refused (absent_of_below hs.workers (not_lt.mp hid)) ?_
      rintro ⟨hvalid, hboot, hroom⟩
      exact hid (hop hvalid hboot hroom)
    change Numbered (noteWorker worker now s).1
    rwa [hrefused]

lemma numbered_bindAssignment {assignment : PartitionAssignment} (hs : Numbered s)
    (hop : KeepsNumbering s (.bindAssignment assignment)) :
    Numbered ((Op.bindAssignment assignment).step s) := by
  have hbinds : BindsOne assignment s (Op.step (.bindAssignment assignment) s) :=
    bindsOne_bindAssignment
  rcases hbinds with heq | ⟨record, hrecord, hbindable, -⟩
  · rwa [heq]
  · exact numbered_of_within hs ⟨trivial, fun _ ↦ hop record hrecord hbindable⟩

lemma numbered_step {op : Op} (hs : Numbered s) (hop : KeepsNumbering s op) :
    Numbered (op.step s) := by
  cases op with
  | registerAccelerator record now => exact numbered_registerAccelerator hs hop
  | noteWorker worker now => exact numbered_noteWorker hs hop
  | bindAssignment assignment => exact numbered_bindAssignment hs hop
  | importDurableState durable now => exact numbered_import hs hop
  | _ => exact (evolves_step rfl s).numbered trivial hs

lemma numbered_opened (options : FabricOptions) (now : UInt64) :
    Numbered (FabricState.opened options now) :=
  ⟨KeyedMap.below_empty _, KeyedMap.below_empty _, KeyedMap.below_empty _,
    KeyedMap.below_empty _, KeyedMap.below_empty _, KeyedMap.below_empty _,
    KeyedMap.below_empty _, fun _ _ h ↦ by cases h⟩

lemma numbered_of_reachable (hs : fabric.Reachable KeepsNumbering s) : Numbered s := by
  refine hs.invariant ?_ fun s op hn hop ↦ numbered_step hn hop
  rintro _ ⟨options, now, rfl⟩
  exact numbered_opened options now

end Steps

/-- In every run whose callers choose identities that the allocator has passed, the allocator hands
out no identity that a record stands under, neither next nor later in the same operation. -/
theorem identities_never_reused (hs : fabric.Reachable KeepsNumbering s) :
    AllocatesUnused s ∧ ∀ id, s.ids.next ≤ id → Unused s id :=
  ⟨(numbered_of_reachable hs).allocatesUnused, fun _ ↦ (numbered_of_reachable hs).unused⟩

namespace Sample

/-- A workload on the created slice, under the identity that the allocator hands out next. -/
def ahead : PartitionAssignment := { late with id := 6 }

/-- The same workload, under an identity that the allocator has passed. -/
def behind : PartitionAssignment := { late with id := 5 }

end Sample

/-- The identity of an assignment that a caller chose is handed out again. -/
theorem chosen_identity_reused :
    ¬ ∀ s, fabric.Reachable anyOp s → AllocatesUnused s := by
  intro h
  let s := fabric.run (Sample.created ++ [.bindAssignment Sample.ahead]) Sample.opened
  have hs : fabric.Reachable anyOp s :=
    System.Reachable.run (.initial ⟨_, _, rfl⟩) (by decide)
  have hbound : (s.assignments.find? 6).isSome = true := by decide +kernel
  have hnext : (allocateId s).2.toOption = some 6 := by decide +kernel
  have hid : (allocateId s).2 = .ok 6 := by
    cases halloc : (allocateId s).2 with
    | error e =>
      rw [halloc] at hnext
      cases hnext
    | ok id =>
      rw [halloc] at hnext
      rw [Option.some.inj hnext]
  rw [(h s hs 6 hid).assignments] at hbound
  cases hbound

theorem identities_never_reused_behind :
    let s := fabric.run (Sample.created ++ [.bindAssignment Sample.behind]) Sample.opened
    s.assignments.contains 5 = true ∧ AllocatesUnused s ∧ ∀ id, s.ids.next ≤ id → Unused s id := by
  intro s
  have hpassed : Sample.behind.id < (fabric.run Sample.created Sample.opened).ids.next := by
    decide +kernel
  have hs : fabric.Reachable KeepsNumbering s := by
    refine System.Reachable.run (.initial ⟨_, _, rfl⟩) (System.follows_append.mpr ⟨?_, ?_, trivial⟩)
    · exact ⟨trivial, trivial, trivial, trivial, trivial, trivial⟩
    · exact fun _ _ _ ↦ hpassed
  exact ⟨by decide +kernel, identities_never_reused hs⟩

end PartitionFabric

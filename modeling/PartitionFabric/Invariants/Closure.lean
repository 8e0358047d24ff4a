import PartitionFabric.Invariants.Lifecycle

/-!
Closure of the capacity accounting: of one ledger under every sequence of its operations, and of
every ledger of a fabric in every reachable state, imports included.
-/

namespace PartitionFabric

open Procedure

/-- The operations of a capacity ledger. -/
inductive LedgerOp where
  | initializeTotals (totals : ResourceVector)
  | reserve (amount : ResourceVector)
  | reserveFromReconfigurationHeld (amount : ResourceVector)
  | commitReserved (amount : ResourceVector) (draining : Bool)
  | releaseReserved (amount : ResourceVector)
  | releaseCommitted (amount : ResourceVector) (wasDraining : Bool)
  | beginDrain (amount : ResourceVector)
  | cancelDrain (amount : ResourceVector)
  | holdForReconfiguration (amount : ResourceVector)
  | releaseReconfigurationHold (amount : ResourceVector)
  | moveBetween (source target : UInt8) (amount : ResourceVector)
  | markUnavailable (amount : ResourceVector)

namespace LedgerOp

def perform : LedgerOp → LedgerM Unit
  | initializeTotals totals => CapacityLedger.initializeTotals totals
  | reserve amount => CapacityLedger.reserve amount
  | reserveFromReconfigurationHeld amount => CapacityLedger.reserveFromReconfigurationHeld amount
  | commitReserved amount draining => CapacityLedger.commitReserved amount draining
  | releaseReserved amount => CapacityLedger.releaseReserved amount
  | releaseCommitted amount wasDraining => CapacityLedger.releaseCommitted amount wasDraining
  | beginDrain amount => CapacityLedger.beginDrain amount
  | cancelDrain amount => CapacityLedger.cancelDrain amount
  | holdForReconfiguration amount => CapacityLedger.holdForReconfiguration amount
  | releaseReconfigurationHold amount => CapacityLedger.releaseReconfigurationHold amount
  | moveBetween source target amount => CapacityLedger.moveBetween source target amount
  | markUnavailable amount => CapacityLedger.markUnavailable amount

/-- The buckets that an operation moves capacity between, and the amount. -/
def route : LedgerOp → Option (CapacityBucket × CapacityBucket × ResourceVector)
  | initializeTotals _ => none
  | reserve amount => some (.free, .reserved, amount)
  | reserveFromReconfigurationHeld amount => some (.reconfigurationHeld, .reserved, amount)
  | commitReserved amount draining =>
    some (.reserved, if draining then .draining else .active, amount)
  | releaseReserved amount => some (.reserved, .free, amount)
  | releaseCommitted amount wasDraining =>
    some (if wasDraining then .draining else .active, .free, amount)
  | beginDrain amount => some (.active, .draining, amount)
  | cancelDrain amount => some (.draining, .active, amount)
  | holdForReconfiguration amount => some (.free, .reconfigurationHeld, amount)
  | releaseReconfigurationHold amount => some (.reconfigurationHeld, .free, amount)
  | moveBetween source target amount =>
    match CapacityBucket.ofRaw? source, CapacityBucket.ofRaw? target with
    | some s, some t => some (s, t, amount)
    | _, _ => none
  | markUnavailable amount => some (.free, .unavailable, amount)

/-- What a successful operation does: it establishes acceptable totals, or it moves exactly its
amount between two buckets, or it is a move of a bucket onto itself. -/
inductive Effect (op : LedgerOp) (l l' : CapacityLedger) : Prop where
  | established (totals : ResourceVector) : op = .initializeTotals totals →
      AcceptableTotals totals → l'.Divides totals → Effect op l l'
  | moved (source target : CapacityBucket) (amount : ResourceVector) :
      op.route = some (source, target, amount) → source ≠ target →
      CapacityLedger.Moved source target amount l l' → Effect op l l'
  | same (bucket : CapacityBucket) (amount : ResourceVector) :
      op.route = some (bucket, bucket, amount) → l' = l → Effect op l l'

/-- A successful operation has its effect, and a failing one leaves the ledger as it is. -/
def Exact (op : LedgerOp) (l : CapacityLedger) : Prop :=
  (∃ l', op.perform l = (l', success) ∧ op.Effect l l') ∨ ∃ e, op.perform l = (l, .error e)

lemma exact_transfer {op : LedgerOp} {source target : CapacityBucket} {amount : ResourceVector}
    (hperform : op.perform = CapacityLedger.transfer source target amount)
    (hroute : op.route = some (source, target, amount)) (hne : source ≠ target)
    (l : CapacityLedger) : op.Exact l := by
  unfold Exact
  rw [hperform]
  rcases CapacityLedger.transfer_spec hne amount l with ⟨l', h, hmoved⟩ | ⟨e, h⟩
  · exact Or.inl ⟨l', h, .moved source target amount hroute hne hmoved⟩
  · exact Or.inr ⟨e, h⟩

theorem exact (op : LedgerOp) (l : CapacityLedger) : op.Exact l := by
  cases op with
  | initializeTotals totals =>
      rcases CapacityLedger.initializeTotals_spec totals l with ⟨l', h, hdiv, hok⟩ | ⟨h, -⟩
      · exact Or.inl ⟨l', h, .established totals rfl hok hdiv⟩
      · exact Or.inr h
  | reserve amount =>
      cases hempty : amount.empty with
      | true =>
          refine Or.inr ⟨makeError .invalidArgument "reservation amount is empty", ?_⟩
          rw [perform, CapacityLedger.reserve, require_bind, hempty]
          rfl
      | false =>
          have hrun : CapacityLedger.reserve amount l =
              CapacityLedger.transfer .free .reserved amount l := by
            rw [CapacityLedger.reserve, require_bind, hempty]
            rfl
          have hne : CapacityBucket.free ≠ .reserved := by decide
          unfold Exact
          rw [perform, hrun]
          rcases CapacityLedger.transfer_spec hne amount l with ⟨l', h, hmoved⟩ | ⟨e, h⟩
          · exact Or.inl ⟨l', h, .moved .free .reserved amount rfl hne hmoved⟩
          · exact Or.inr ⟨e, h⟩
  | reserveFromReconfigurationHeld amount => exact exact_transfer rfl rfl (by decide) l
  | commitReserved amount draining => exact exact_transfer rfl rfl (by cases draining <;> decide) l
  | releaseReserved amount => exact exact_transfer rfl rfl (by decide) l
  | releaseCommitted amount wasDraining =>
      exact exact_transfer rfl rfl (by cases wasDraining <;> decide) l
  | beginDrain amount => exact exact_transfer rfl rfl (by decide) l
  | cancelDrain amount => exact exact_transfer rfl rfl (by decide) l
  | holdForReconfiguration amount => exact exact_transfer rfl rfl (by decide) l
  | releaseReconfigurationHold amount => exact exact_transfer rfl rfl (by decide) l
  | moveBetween source target amount =>
      rcases CapacityLedger.moveBetween_cases source target amount l with
        ⟨b, c, l', hbc, hb, hc, h, hmoved⟩ | ⟨h, b, hb, hc⟩ | h
      · exact Or.inl ⟨l', h, .moved b c amount (by simp [route, hb, hc]) hbc hmoved⟩
      · exact Or.inl ⟨l, h, .same b amount (by simp [route, hb, hc]) rfl⟩
      · exact Or.inr h
  | markUnavailable amount => exact exact_transfer rfl rfl (by decide) l

end LedgerOp

/-- A ledger as a system: it starts from acceptable totals and moves by its operations. -/
def ledger : System CapacityLedger LedgerOp where
  initial l := ∃ totals start, AcceptableTotals totals ∧
    CapacityLedger.initializeTotals totals start = (l, success)
  step op l := (op.perform l).1

/-- The six buckets carry the dimensions of the totals and divide them exactly. -/
def CapacityLedger.Closed (l : CapacityLedger) : Prop :=
  AcceptableTotals l.total ∧ l.Divides l.total

lemma LedgerOp.Effect.closed {op : LedgerOp} {l l' : CapacityLedger} (h : op.Effect l l')
    (hl : l.Closed) : l'.Closed := by
  cases h with
  | established totals _ hok hdiv => exact ⟨hdiv.total ▸ hok, hdiv.total ▸ hdiv⟩
  | moved source target amount _ hne hmoved =>
      exact ⟨hmoved.total ▸ hl.1, hmoved.total ▸ hmoved.divides hne hl.2⟩
  | same bucket amount _ heq => exact heq ▸ hl

lemma closed_of_reachable {l : CapacityLedger} (h : ledger.Reachable (fun _ _ ↦ True) l) :
    l.Closed := by
  refine h.invariant ?_ fun l op hl _ ↦ ?_
  · rintro l ⟨totals, start, hok, hinit⟩
    rcases CapacityLedger.initializeTotals_spec totals start with ⟨l', h, hdiv, -⟩ | ⟨-, hnot⟩
    · obtain rfl := (Prod.mk.inj (h.symm.trans hinit)).1
      exact ⟨hdiv.total ▸ hok, hdiv.total ▸ hdiv⟩
    · exact absurd hok hnot
  · change (op.perform l).1.Closed
    rcases op.exact l with ⟨l', h, heffect⟩ | ⟨e, h⟩
    · rw [h]
      exact heffect.closed hl
    · rw [h]
      exact hl

/-- Every ledger of a state closes, under devices that stand under their own identities. -/
structure AccountsClose (s : FabricState) : Prop where
  named : Named s
  accounted : Accounted s

/-- A step that keeps the accounts closed. -/
def KeepsClosed (s t : FabricState) : Prop := AccountsClose s → AccountsClose t

instance : Std.Refl KeepsClosed := ⟨fun _ h ↦ h⟩

instance : IsTrans FabricState KeepsClosed := ⟨fun _ _ _ h h' ↦ h' ∘ h⟩

variable {s t : FabricState}

lemma Evolves.keepsClosed {π : Scope} {floor : UInt64} (h : Evolves π floor s t)
    (ht : π.totals) : KeepsClosed s t :=
  fun hs ↦ ⟨h.named hs.named, h.accounted ht hs.named hs.accounted⟩

/-- Nothing in the state carries live authority, and records stand under their identities. -/
structure Dormant (s : FabricState) : Prop where
  partitions : ∀ k r, s.partitions.find? k = some r → r.id = k ∧ r.state ≠ .active
  assignments : ∀ k, s.assignments.find? k = none
  attempts : ∀ k a, s.attempts.find? k = some a → a.state.inFlight = false

/-- A step that restores records: it touches neither devices nor plans, keeps balanced ledgers
balanced and brings back no authority. -/
structure Restores (s t : FabricState) : Prop where
  accelerators : t.accelerators = s.accelerators
  plans : t.plans = s.plans
  dormant : Dormant s → Dormant t
  balanced : (∀ k l, s.ledgers.find? k = some l → l.Balanced) →
    ∀ k l, t.ledgers.find? k = some l → l.Balanced
  ledgered : ∀ k l, s.ledgers.find? k = some l → ∃ l', t.ledgers.find? k = some l'

instance : Std.Refl Restores :=
  ⟨fun _ ↦ ⟨rfl, rfl, fun h ↦ h, fun h ↦ h, fun _ l hl ↦ ⟨l, hl⟩⟩⟩

instance : IsTrans FabricState Restores where
  trans s t u hst htu := by
    refine ⟨htu.accelerators.trans hst.accelerators, htu.plans.trans hst.plans,
      htu.dormant ∘ hst.dormant, htu.balanced ∘ hst.balanced, fun k l hl ↦ ?_⟩
    obtain ⟨l', hl'⟩ := hst.ledgered k l hl
    exact htu.ledgered k l' hl'

lemma Restores.of_eq (hc : t.accelerators = s.accelerators) (hl : t.ledgers = s.ledgers)
    (hq : t.plans = s.plans) (hd : Dormant s → Dormant t) : Restores s t := by
  refine ⟨hc, hq, hd, ?_, ?_⟩
  · rw [hl]
    exact fun h ↦ h
  · rw [hl]
    exact fun _ l h ↦ ⟨l, h⟩

lemma Restores.keepsClosed (h : Restores s t) : KeepsClosed s t := by
  intro hs
  refine ⟨?_, h.balanced hs.accounted.balanced, fun k a ha hestablished ↦ ?_, ?_⟩
  · unfold Named
    rw [h.accelerators]
    exact hs.named
  · rw [h.accelerators] at ha
    obtain ⟨l, hl⟩ := hs.accounted.ledgered k a ha hestablished
    exact h.ledgered k l hl
  · rw [h.plans]
    exact hs.accounted.bound

lemma restores_release {id : AcceleratorId} {amount : ResourceVector} :
    Advances Restores (onLedger id (CapacityLedger.releaseReserved amount)) s := by
  unfold Advances onLedger
  cases h : s.findLedger id with
  | none => exact refl_of _ s
  | some l =>
      change Restores s (s.setLedger id _)
      refine ⟨rfl, rfl, fun h ↦ ⟨h.partitions, h.assignments, h.attempts⟩,
        fun hall k l' hl' ↦ ?_, fun k l' hl' ↦ ?_⟩
      · rw [FabricState.setLedger, KeyedMap.find?_insert] at hl'
        split at hl'
        · obtain rfl := Option.some.inj hl'
          exact CapacityLedger.transfer_balanced (by decide) amount (hall id l h)
        · exact hall k l' hl'
      · rw [FabricState.setLedger, KeyedMap.find?_insert]
        split
        · exact ⟨_, rfl⟩
        · exact ⟨l', hl'⟩

lemma corruption_eq_ok {status : Status} {detail : Text}
    (h : corruption status detail = .ok ()) : status = .ok () := by
  cases status with
  | ok u => rfl
  | error e => exact absurd h (failure_ne_ok _ _ _ _)

/-- Both checks of a list of distinct records hold of each of them. -/
lemma checkDistinct_eq_ok {α : Type} {identity : α → UInt64} {first second : α → Status}
    {duplicate : Text} {seen : List UInt64} {l : List α}
    (h : checkDistinct identity first second duplicate seen l = .ok ()) :
    ∀ x ∈ l, first x = .ok () ∧ second x = .ok () := by
  induction l generalizing seen with
  | nil => simp
  | cons x rest ih =>
      unfold checkDistinct at h
      obtain ⟨hfirst, h⟩ := check_bind_eq_ok.mp h
      split at h
      · exact absurd h (failure_ne_ok _ _ _ _)
      · obtain ⟨hsecond, h⟩ := check_bind_eq_ok.mp h
        intro y hy
        rcases List.mem_cons.mp hy with rfl | hy
        · exact ⟨hfirst, hsecond⟩
        · exact ih h y hy

/-- What the validation of a decoded state says about its ledgers. -/
lemma validateDecoded_ledgers {d : DurableState} {limits : Limits}
    (h : d.validateDecoded limits = success) :
    (∀ entry ∈ d.ledgers, entry.2.Balanced) ∧
      ∀ record ∈ d.accelerators, ∃ entry ∈ d.ledgers, entry.1 = record.id := by
  unfold DurableState.validateDecoded at h
  split at h
  · exact absurd h (failure_ne_ok _ _ _ _)
  · split at h
    · exact absurd h (failure_ne_ok _ _ _ _)
    · obtain ⟨hrecords, -⟩ := check_bind_eq_ok.mp h
      obtain ⟨-, hrecords⟩ := check_bind_eq_ok.mp hrecords
      obtain ⟨-, hrecords⟩ := check_bind_eq_ok.mp hrecords
      obtain ⟨hrestores, hrecords⟩ := check_bind_eq_ok.mp hrecords
      obtain ⟨howned, -⟩ := check_bind_eq_ok.mp hrecords
      refine ⟨fun entry hentry ↦ ?_, fun record hrecord ↦ ?_⟩
      · exact CapacityLedger.validate_eq_ok.mp
          (corruption_eq_ok (checkDistinct_eq_ok hrestores entry hentry).2)
      · have hhas := forM_eq_ok.mp howned record hrecord
        unfold DurableState.checkHasLedger at hhas
        split at hhas
        · rename_i hany
          simpa [DurableState.hasLedger] using hany
        · exact absurd hhas (failure_ne_ok _ _ _ _)

/-- The registry of a validated durable state is closed. -/
lemma keepsClosed_restoreRegistry {d : DurableState} {limits : Limits}
    (h : d.validateDecoded limits = success) : KeepsClosed s (d.restoreRegistry s) := by
  obtain ⟨hbalanced, howned⟩ := validateDecoded_ledgers h
  have hdevice : ∀ k a, (d.restoreRegistry s).accelerators.find? k = some a →
      ∃ record ∈ d.accelerators, record.id = k ∧ DurableState.restoreAccelerator record = a :=
    fun k a ha ↦ (KeyedMap.find?_foldl_insert ha).resolve_right (by simp)
  intro hs
  refine ⟨fun k a ha _ ↦ ?_, fun k l hl ↦ ?_, fun k a ha _ ↦ ?_, hs.accounted.bound⟩
  · obtain ⟨record, -, hid, rfl⟩ := hdevice k a ha
    exact hid
  · obtain ⟨entry, hentry, -, rfl⟩ :=
      (KeyedMap.find?_foldl_insert hl).resolve_right (by simp)
    exact hbalanced entry hentry
  · obtain ⟨record, hrecord, rfl, -⟩ := hdevice k a ha
    obtain ⟨entry, hentry, hkey⟩ := howned record hrecord
    exact KeyedMap.exists_foldl_insert (Or.inl ⟨entry, hentry, hkey⟩)

lemma dormant_restoreRegistry (d : DurableState) (s : FabricState) :
    Dormant (d.restoreRegistry s) :=
  ⟨fun _ _ h ↦ absurd h (by simp [DurableState.restoreRegistry]), fun _ ↦ rfl,
    fun _ _ h ↦ absurd h (by simp [DurableState.restoreRegistry])⟩

/-- A step that leaves devices, ledgers, plans, records, assignments and attempts alone. -/
lemma Restores.of_frame (hc : t.accelerators = s.accelerators) (hl : t.ledgers = s.ledgers)
    (hq : t.plans = s.plans) (hp : t.partitions = s.partitions)
    (hb : t.assignments = s.assignments) (ha : t.attempts = s.attempts) : Restores s t := by
  refine .of_eq hc hl hq fun h ↦ ⟨?_, ?_, ?_⟩
  · rw [hp]
    exact h.partitions
  · rw [hb]
    exact h.assignments
  · rw [ha]
    exact h.attempts

lemma restores_insertPartition (record : PartitionRecord) (h : record.state ≠ .active) :
    Restores s { s with partitions := s.partitions.insert record.id record } := by
  refine .of_eq rfl rfl rfl fun hd ↦ ⟨fun k r hr ↦ ?_, hd.assignments, hd.attempts⟩
  rw [KeyedMap.find?_insert] at hr
  split at hr
  · rename_i hk
    obtain rfl := Option.some.inj hr
    exact ⟨hk.symm, h⟩
  · exact hd.partitions k r hr

lemma restores_insertAttempt (attempt : PartitionAttempt) (h : attempt.state.inFlight = false) :
    Restores s { s with attempts := s.attempts.insert attempt.id attempt } := by
  refine .of_eq rfl rfl rfl fun hd ↦ ⟨hd.partitions, hd.assignments, fun k a ha ↦ ?_⟩
  rw [KeyedMap.find?_insert] at ha
  split at ha
  · obtain rfl := Option.some.inj ha
    exact h
  · exact hd.attempts k a ha

lemma restores_restoreCounters {d : DurableState} :
    Advances Restores (restoreCounters d) s := by
  refine advances_get_bind (advances_lift_bind fun _ _ ↦ ?_)
  refine advances_modify_bind (.of_frame rfl rfl rfl rfl rfl rfl) (advances_lift_bind fun _ _ ↦ ?_)
  exact advances_modify (.of_frame rfl rfl rfl rfl rfl rfl)

lemma restores_reportIdentity : Advances Restores reportIdentity s :=
  advances_reportIdentity_of fun _ ↦ .of_frame rfl rfl rfl rfl rfl rfl

lemma restores_restorePartition {now : UInt64} {report : ReconciliationReport}
    {record : PartitionRecord} :
    Advances Restores (restorePartition now report record) s := by
  refine advances_ite (fun _ ↦ ?_) fun hkeep ↦ ?_
  · exact advances_modify_bind
      (restores_insertPartition { record with
        state := .revalidationRequired
        lastTransitionAtMs := now
        lastTransitionReason := "conservative revalidation after restart" } (by simp))
      (advances_pure _ _)
  · refine advances_modify_bind (restores_insertPartition record fun hactive ↦ ?_) (advances_pure _ _)
    exact hkeep (by rw [needsRevalidation, hactive]; decide)

lemma restores_retireRestored {now : UInt64} {p : PartitionId} :
    Restores s (retireRestored now p s) := by
  refine .of_eq rfl rfl rfl fun hd ↦ ⟨fun k r hr ↦ ?_, hd.assignments, hd.attempts⟩
  rw [retireRestored, FabricState.modifyPartition, KeyedMap.find?_modify] at hr
  split at hr
  · obtain ⟨r₀, hr₀, rfl⟩ := Option.map_eq_some_iff.mp hr
    split
    · exact ⟨(hd.partitions k r₀ hr₀).1, by simp⟩
    · exact hd.partitions k r₀ hr₀
  · exact hd.partitions k r hr

lemma restores_releaseRestored {now : UInt64} {reservation : PartitionReservation} :
    Advances Restores (releaseRestored now reservation) s := by
  refine advances_get_bind (advances_when fun _ ↦ ?_)
  refine advances_bind (advances_attempt restores_release) fun t status _ ↦ ?_
  cases status with
  | error e => exact advances_throw _ _
  | ok u => exact advances_forM fun _ _ _ _ ↦ advances_modify restores_retireRestored

lemma restores_restoreReservation {now : UInt64} {report : ReconciliationReport}
    {reservation : PartitionReservation} :
    Advances Restores (restoreReservation now report reservation) s := by
  refine advances_ite (fun _ ↦ ?_) fun _ ↦ ?_
  · exact advances_modify_bind (.of_frame rfl rfl rfl rfl rfl rfl) (advances_pure _ _)
  · refine advances_bind restores_releaseRestored fun _ _ _ ↦ ?_
    exact advances_modify_bind (.of_frame rfl rfl rfl rfl rfl rfl) (advances_pure _ _)

lemma restores_restoreAttempt {now : UInt64} {report : ReconciliationReport}
    {attempt : PartitionAttempt} :
    Advances Restores (restoreAttempt now report attempt) s := by
  refine advances_ite (fun hsettled ↦ ?_) fun _ ↦ ?_
  · refine advances_modify_bind (restores_insertAttempt attempt ?_) (advances_pure _ _)
    cases hstate : attempt.state <;> simp_all [attemptSettled, AttemptState.inFlight]
  · exact advances_modify_bind
      (restores_insertAttempt { attempt with
        state := .outcomeUnknown
        settledAtMs := now
        detail := "restart invalidated in-flight attempt authority; reconciliation required" } rfl)
      (advances_pure _ _)

lemma restores_restoreAssignment {report : ReconciliationReport}
    {assignment : PartitionAssignment} :
    Advances Restores (restoreAssignment report assignment) s := by
  refine advances_get_bind (advances_ite (fun hactive ↦ ?_) fun _ ↦ advances_pure _ _)
  refine advances_modify_bind (.of_eq rfl rfl rfl fun hd ↦ ?_) (advances_pure _ _)
  -- no restored partition is active
  obtain ⟨r, hr, hstate⟩ := (Option.any_eq_true _ _).mp hactive
  exact absurd (by simpa using hstate) (hd.partitions _ r hr).2

/-- An import replaces the registry and then touches only ledgers, or it changes nothing. -/
lemma import_cases (d : DurableState) (now : UInt64) (s : FabricState) :
    (importDurableState d now s).1 = s ∨
      Restores (d.restoreRegistry s) (importDurableState d now s).1 := by
  cases hvalid : d.validateImport s.stateGeneration with
  | error e =>
      left
      unfold importDurableState
      rw [get_bind, hvalid]
      rfl
  | ok u =>
      right
      unfold importDurableState
      rw [get_bind, hvalid]
      refine advances_bind restores_restoreCounters fun _ _ _ ↦ ?_
      refine advances_bind restores_reportIdentity fun _ _ _ ↦ ?_
      refine advances_bind (advances_foldlM fun _ _ _ _ _ ↦ restores_restorePartition)
        fun _ _ _ ↦ ?_
      refine advances_bind (advances_foldlM fun _ _ _ _ _ ↦ restores_restoreReservation)
        fun _ _ _ ↦ ?_
      refine advances_bind (advances_foldlM fun _ _ _ _ _ ↦ restores_restoreAttempt)
        fun _ _ _ ↦ ?_
      refine advances_bind (advances_foldlM fun _ _ _ _ _ ↦ restores_restoreAssignment)
        fun t _ _ ↦ ?_
      refine advances_modify_bind (.of_frame rfl rfl rfl rfl rfl rfl) ?_
      exact advances_modify_bind (bump_of fun _ ↦ .of_frame rfl rfl rfl rfl rfl rfl)
        (advances_pure _ _)

lemma keepsClosed_import {d : DurableState} {limits : Limits} {now : UInt64}
    (h : d.validateDecoded limits = success) :
    KeepsClosed s (importDurableState d now s).1 := by
  rcases import_cases d now s with hsame | hrestores
  · rw [hsame]
    exact refl_of _ s
  · exact trans_of _ (keepsClosed_restoreRegistry h) hrestores.keepsClosed

/-- Explicit registrations carry acceptable totals, and imports come from the decoder. -/
def Admissible : Op → Prop
  | .registerAccelerator record _ => AcceptableTotals record.physicalTotals
  | .importDurableState durable _ => ∃ limits, durable.validateDecoded limits = success
  | _ => True

lemma keepsClosed_step {op : Op} (h : Admissible op) (s : FabricState) :
    KeepsClosed s (op.step s) := by
  by_cases himport : op.isImport = false
  · refine (evolves_step himport s).keepsClosed ?_
    cases op <;> first | exact h | exact trivial
  · cases op <;> simp only [Op.isImport, not_true_eq_false, Bool.true_eq_false, not_false_eq_true]
      at himport
    obtain ⟨limits, hvalid⟩ := h
    exact keepsClosed_import hvalid

lemma accountsClose_of_reachable (hs : fabric.Reachable (fun _ op ↦ Admissible op) s) :
    AccountsClose s := by
  refine hs.invariant ?_ fun s op hclosed hop ↦ keepsClosed_step hop s hclosed
  rintro _ ⟨options, now, rfl⟩
  refine ⟨?_, ?_, ?_, ?_⟩
  all_goals
    intro k r h
    exact absurd h (by simp [FabricState.opened])

lemma verifyAccounting_eq_ok (h : AccountsClose s) : verifyAccounting s = success := by
  refine forM_eq_ok.mpr fun entry hentry ↦ ?_
  obtain ⟨id, l⟩ := entry
  have hfind := KeyedMap.find?_eq_some_iff_mem.mpr hentry
  simp only [CapacityLedger.validate_eq_ok.mpr (h.accounted.balanced id l hfind)]
  rfl

/-- Every operation on a ledger that started from acceptable totals is exact and keeps the six
buckets dividing the totals, and the accounting of every reachable fabric verifies. -/
theorem ledger_closure :
    (∀ l, ledger.Reachable (fun _ _ ↦ True) l →
      (∀ b, (l.buckets b).mask = l.total.mask) ∧
      (∀ d, ∑ b, (l.buckets b).amount d = l.total.amount d ∧ l.total.amount d < 2 ^ 64) ∧
      ∀ op : LedgerOp, op.Exact l) ∧
    ∀ s, fabric.Reachable (fun _ op ↦ Admissible op) s → verifyAccounting s = success := by
  refine ⟨fun l hl ↦ ?_, fun s hs ↦ verifyAccounting_eq_ok (accountsClose_of_reachable hs)⟩
  obtain ⟨-, hdiv⟩ := closed_of_reachable hl
  exact ⟨hdiv.mask, fun d ↦ ⟨hdiv.sum d, CapacityLedger.amount_lt _ d⟩, fun op ↦ op.exact l⟩

theorem ledger_closure_reserved :
    let l := ledger.run [.reserve (Sample.memory 4), .moveBetween 2 9 (Sample.memory 4)]
      (CapacityLedger.initializeTotals (Sample.memory 16) {}).1
    (∀ b, (l.buckets b).mask = l.total.mask) ∧
      verifyAccounting (fabric.run Sample.dispatched Sample.opened) = success := by
  intro l
  have hl : ledger.Reachable (fun _ _ ↦ True) l :=
    System.Reachable.run
      (.initial ⟨Sample.memory 16, {}, ⟨by decide +kernel, by decide +kernel⟩, by decide +kernel⟩)
      ⟨trivial, trivial, trivial⟩
  refine ⟨(ledger_closure.1 l hl).1, ledger_closure.2 _ ?_⟩
  exact System.Reachable.run (.initial ⟨_, _, rfl⟩) ⟨trivial, trivial, trivial, trivial, trivial⟩

end PartitionFabric

import PartitionFabric.Invariants.MutationValidity
import PartitionFabric.Invariants.Retention
import PartitionFabric.Invariants.Standing

/-!
How a reconfiguration is dispatched: checks that move nothing, a hold of capacity, the transition of
every partition it replaces, and the registration of its attempt.

Nothing of it is rolled back, so that a failure after the hold leaves the hold and the partitions
that were already moved behind.
-/

namespace PartitionFabric

open Procedure

variable {s t : FabricState} {planId : PartitionPlanId} {plan : PartitionPlan}
  {accelerator : AcceleratorRecord} {affected : List PartitionRecord} {hold : ResourceVector}
  {now : UInt64} {l l' : CapacityLedger}

section Checks

/-- No ledger and no partition changed, and no reservation holds capacity that did not before. -/
structure Traceless (s t : FabricState) : Prop where
  ledgers : t.ledgers = s.ledgers
  partitions : t.partitions = s.partitions
  reservations : ∀ k r, t.findReservation k = some r → r.holdsCapacity = true →
    s.findReservation k = some r

lemma Traceless.of_eq (hledgers : t.ledgers = s.ledgers) (hpartitions : t.partitions = s.partitions)
    (hreservations : t.reservations = s.reservations) : Traceless s t := by
  refine ⟨hledgers, hpartitions, fun k r hr _ ↦ ?_⟩
  rwa [FabricState.findReservation, ← hreservations]

/-- A reconfiguration passes every check up to its hold. -/
structure ReachesHold (s : FabricState) (planId : PartitionPlanId) (now : UInt64)
    (plan : PartitionPlan) (accelerator : AcceleratorRecord) (affected : List PartitionRecord)
    (hold : ResourceVector) : Prop where
  opened : s.closed = false
  found : s.plans.find? planId = some plan
  reconfigures : plan.outcome = .feasibleAfterReconfiguration
  current : validatePlanBinding s plan now s.policy.requireFreshEvidence = success
  device : s.findAccelerator plan.binding.accelerator = some accelerator
  permitted : (s.policy.allowDestructiveReconfiguration &&
    plan.request.allowDestructiveReconfiguration) = true
  replaces : replacedBy s accelerator.id = .ok affected
  needs : ∃ target held, accumulate plan.plannedPartitions = .ok target ∧
    liveCapacity ((s.findLedger accelerator.id).getD {}) = .ok held ∧
    additionalCapacity target held = .ok hold

/-- A reconfiguration is refused before it holds anything, or it is dispatched. -/
lemma executeReconfiguration_cases (s : FabricState) (planId : PartitionPlanId) (now : UInt64) :
    (∃ t e, executeReconfiguration planId now s = (t, .error e) ∧ Traceless s t ∧
      ∀ plan accelerator affected hold,
        ¬ReachesHold s planId now plan accelerator affected hold) ∨
    ∃ plan accelerator affected hold, ReachesHold s planId now plan accelerator affected hold ∧
      executeReconfiguration planId now s =
        dispatchReconfiguration planId plan accelerator affected hold now s := by
  unfold executeReconfiguration
  have hsame : Traceless s s := .of_eq rfl rfl rfl
  rcases Bool.eq_false_or_eq_true s.closed with hclosed | hclosed
  · rw [bind_error (checkOpen_closed hclosed)]
    refine Or.inl ⟨s, _, rfl, hsame, fun _ _ _ _ h ↦ ?_⟩
    exact absurd (hclosed.symm.trans h.opened) (by decide)
  · rw [bind_ok (checkOpen_opened hclosed), get_bind]
    cases hplan : s.plans.find? planId with
    | none =>
      refine Or.inl ⟨s, _, rfl, hsame, fun _ _ _ _ h ↦ ?_⟩
      cases hplan.symm.trans h.found
    | some plan =>
      have hthis {plan' : PartitionPlan} {accelerator : AcceleratorRecord}
          {affected : List PartitionRecord} {hold : ResourceVector}
          (h : ReachesHold s planId now plan' accelerator affected hold) : plan' = plan :=
        Option.some.inj (h.found.symm.trans hplan)
      simp only [require_bind]
      cases houtcome : decide (plan.outcome = .feasibleAfterReconfiguration) with
      | false =>
        refine Or.inl ⟨s, _, rfl, hsame, fun plan' _ _ _ h ↦ ?_⟩
        obtain rfl := hthis h
        exact of_decide_eq_false houtcome h.reconfigures
      | true =>
        rw [if_pos rfl]
        cases hbinding : validatePlanBinding s plan now s.policy.requireFreshEvidence with
        | error e =>
          refine Or.inl ⟨_, e, rfl, .of_eq rfl rfl rfl, fun plan' _ _ _ h ↦ ?_⟩
          obtain rfl := hthis h
          cases hbinding.symm.trans h.current
        | ok u =>
          simp only
          cases hdevice : s.findAccelerator plan.binding.accelerator with
          | none =>
            refine Or.inl ⟨s, _, rfl, hsame, fun plan' _ _ _ h ↦ ?_⟩
            obtain rfl := hthis h
            cases hdevice.symm.trans h.device
          | some accelerator =>
            have hits {accelerator' : AcceleratorRecord} {affected : List PartitionRecord}
                {hold : ResourceVector}
                (h : ReachesHold s planId now plan accelerator' affected hold) :
                accelerator' = accelerator := Option.some.inj (h.device.symm.trans hdevice)
            simp only [require_bind]
            cases hpermitted : (s.policy.allowDestructiveReconfiguration &&
                plan.request.allowDestructiveReconfiguration) with
            | false =>
              refine Or.inl ⟨s, _, rfl, hsame, fun plan' _ _ _ h ↦ ?_⟩
              obtain rfl := hthis h
              cases hpermitted.symm.trans h.permitted
            | true =>
              rw [if_pos rfl]
              cases hreplaces : replacedBy s accelerator.id with
              | error e =>
                refine Or.inl ⟨s, e, rfl, hsame, fun plan' _ _ _ h ↦ ?_⟩
                obtain rfl := hthis h
                obtain rfl := hits h
                cases hreplaces.symm.trans h.replaces
              | ok affected =>
                cases htarget : accumulate plan.plannedPartitions with
                | error e =>
                  refine Or.inl ⟨s, e, rfl, hsame, fun plan' _ _ _ h ↦ ?_⟩
                  obtain rfl := hthis h
                  obtain ⟨target, held, h, -⟩ := h.needs
                  cases htarget.symm.trans h
                | ok target =>
                  cases hheld : liveCapacity ((s.findLedger accelerator.id).getD {}) with
                  | error e =>
                    refine Or.inl ⟨s, e, rfl, hsame, fun plan' _ _ _ h ↦ ?_⟩
                    obtain rfl := hthis h
                    obtain rfl := hits h
                    obtain ⟨target', held, -, h, -⟩ := h.needs
                    cases hheld.symm.trans h
                  | ok held =>
                    cases hhold : additionalCapacity target held with
                    | error e =>
                      refine Or.inl ⟨s, e, ?_, hsame, fun plan' _ _ _ h ↦ ?_⟩
                      · change (Procedure.lift (additionalCapacity target held) >>= _) s = _
                        rw [hhold]
                        rfl
                      · obtain rfl := hthis h
                        obtain rfl := hits h
                        obtain ⟨target', held', ht, hh, h⟩ := h.needs
                        obtain rfl := Except.ok.inj (htarget.symm.trans ht)
                        obtain rfl := Except.ok.inj (hheld.symm.trans hh)
                        cases hhold.symm.trans h
                    | ok hold =>
                      refine Or.inr ⟨plan, accelerator, affected, hold, ⟨hclosed, hplan,
                        of_decide_eq_true houtcome, hbinding, hdevice, hpermitted, hreplaces,
                        target, held, htarget, hheld, hhold⟩, ?_⟩
                      change (Procedure.lift (additionalCapacity target held) >>= _) s = _
                      rw [hhold]
                      rfl

end Checks

section Hold

/-- The additional capacity moves from free to reserved, if there is any to hold. -/
def TakesHold (hold : ResourceVector) (l l' : CapacityLedger) : Prop :=
  hold.empty = true ∧ l' = l ∨
    hold.empty = false ∧ CapacityLedger.reserve hold l = (l', success)

/-- There are identities for a plan and a reservation, and the hold can be taken. -/
structure CanHold (s : FabricState) (accelerator : AcceleratorRecord) (hold : ResourceVector)
    (l l' : CapacityLedger) : Prop where
  planned : s.ids.next ≠ uint64Max
  reserved : s.ids.next + 1 ≠ uint64Max
  ledger : s.findLedger accelerator.id = some l
  takes : TakesHold hold l l'

/-- What a destructive reservation leaves behind. -/
structure HeldBy (s t : FabricState) (accelerator : AcceleratorRecord)
    (affected : List PartitionRecord) (l' : CapacityLedger) (r : PartitionReservation) : Prop where
  ids : t.ids.next = s.ids.next + 1 + 1
  ledgers : t.ledgers = s.ledgers.insert accelerator.id l'
  partitions : t.partitions = s.partitions
  reservations : t.reservations = s.reservations.insert r.id r
  accelerators : t.accelerators = s.accelerators
  attempts : t.attempts = s.attempts
  limits : t.limits = s.limits
  id : r.id = s.ids.next + 1
  active : r.lifecycle = .active
  accelerator : r.accelerator = accelerator.id

lemma allocateId_eq (h : s.ids.next ≠ uint64Max) :
    allocateId s = ({ s with ids := ⟨s.ids.next + 1⟩ }, .ok s.ids.next) := by
  unfold allocateId IdAllocator.allocate
  rw [if_neg h]

lemma allocateId_exhausted (h : s.ids.next = uint64Max) : ∃ e, allocateId s = (s, .error e) := by
  unfold allocateId IdAllocator.allocate
  rw [if_pos h]
  exact ⟨_, rfl⟩

/-- The hold is taken, or its plan is taken back and nothing else has changed. -/
lemma holdCapacity_cases {id : AcceleratorId} (hold : ResourceVector) (plan : PartitionPlanId)
    (hl : s.findLedger id = some l) :
    (∃ l', TakesHold hold l l' ∧ holdCapacity id hold plan s = (s.setLedger id l', .ok ())) ∨
      (∃ e, holdCapacity id hold plan s =
        ({ s with plans := s.plans.erase plan }, .error e)) ∧ ∀ l', ¬TakesHold hold l l' := by
  unfold holdCapacity
  have hkept : s.setLedger id l = s := by
    unfold FabricState.setLedger
    rw [KeyedMap.insert_eq_self hl]
  cases hempty : hold.empty with
  | true =>
    refine Or.inl ⟨l, Or.inl ⟨hempty, rfl⟩, ?_⟩
    rw [hkept]
    rfl
  | false =>
    rw [Bool.not_false, when_true]
    cases hreserve : CapacityLedger.reserve hold l with
    | mk l' status =>
      have hrun : Procedure.attempt (onLedger id (CapacityLedger.reserve hold)) s =
          (s.setLedger id l', .ok status) := by
        rw [attempt_apply, onLedger_eq hl, hreserve]
      rw [bind_ok hrun]
      cases status with
      | ok u => exact Or.inl ⟨l', Or.inr ⟨hempty, hreserve⟩, rfl⟩
      | error e =>
        obtain rfl := reserve_eq_error hreserve
        rw [hkept]
        refine Or.inr ⟨⟨e, rfl⟩, fun m hm ↦ ?_⟩
        rcases hm with ⟨hnot, -⟩ | ⟨-, htaken⟩
        · cases hempty.symm.trans hnot
        · cases hreserve.symm.trans htaken

/-- A destructive reservation holds its capacity, or it leaves nothing. -/
lemma createDestructiveReservationLocked_cases (s : FabricState) (accelerator : AcceleratorRecord)
    (affected : List PartitionRecord) (hold : ResourceVector) (now : UInt64) :
    (∃ t e, createDestructiveReservationLocked accelerator affected hold now s = (t, .error e) ∧
      Traceless s t ∧ ∀ l l', ¬CanHold s accelerator hold l l') ∨
    ∃ l l' r t, CanHold s accelerator hold l l' ∧
      createDestructiveReservationLocked accelerator affected hold now s = (t, .ok r) ∧
      HeldBy s t accelerator affected l' r := by
  unfold createDestructiveReservationLocked
  by_cases hplanned : s.ids.next = uint64Max
  · obtain ⟨e, halloc⟩ := allocateId_exhausted hplanned
    rw [bind_error halloc]
    exact Or.inl ⟨s, e, rfl, .of_eq rfl rfl rfl, fun _ _ h ↦ h.planned hplanned⟩
  · rw [bind_ok (allocateId_eq hplanned)]
    let u : FabricState := { s with ids := ⟨s.ids.next + 1⟩ }
    by_cases hreserved : u.ids.next = uint64Max
    · obtain ⟨e, halloc⟩ := allocateId_exhausted hreserved
      rw [bind_error halloc]
      exact Or.inl ⟨u, e, rfl, .of_eq rfl rfl rfl, fun _ _ h ↦ h.reserved hreserved⟩
    · rw [bind_ok (allocateId_eq hreserved)]
      simp only [get_bind, modify_bind, require_bind]
      let v : FabricState := { u with ids := ⟨u.ids.next + 1⟩ }
      let w : FabricState := { v with
        plans := v.plans.insert s.ids.next (destructivePlan v accelerator affected s.ids.next now) }
      cases hl : s.findLedger accelerator.id with
      | none =>
        have hcontains : s.ledgers.contains accelerator.id = false := by
          change (s.findLedger accelerator.id).isSome = false
          rw [hl]
          rfl
        rw [hcontains, if_neg Bool.false_ne_true]
        refine Or.inl ⟨w, _, rfl, .of_eq rfl rfl rfl, fun l l' h ↦ ?_⟩
        cases hl.symm.trans h.ledger
      | some l =>
        have hcontains : s.ledgers.contains accelerator.id = true := by
          change (s.findLedger accelerator.id).isSome = true
          rw [hl]
          rfl
        rw [hcontains, if_pos rfl]
        have hlw : w.findLedger accelerator.id = some l := hl
        rcases holdCapacity_cases hold s.ids.next hlw with
          ⟨l', htakes, hrun⟩ | ⟨⟨e, hrun⟩, hnever⟩
        · rw [bind_ok hrun]
          simp only [modify_bind]
          refine Or.inr ⟨l, l', _, _, ⟨hplanned, hreserved, hl, htakes⟩, rfl, ?_⟩
          obtain ⟨generation, hbump⟩ := bumpStateGeneration_eq _
          rw [hbump]
          exact ⟨rfl, rfl, rfl, rfl, rfl, rfl, rfl, rfl, rfl, rfl⟩
        · rw [bind_error hrun]
          refine Or.inl ⟨_, e, rfl, .of_eq rfl rfl rfl, fun m l' h ↦ ?_⟩
          obtain rfl := Option.some.inj (hl.symm.trans h.ledger)
          exact hnever l' h.takes

end Hold

section Moving

variable {r : PartitionRecord} {target : PartitionState} {k : PartitionId}

/-- A record may be moved to a state, its capacity is accounted for there, and both the record and
the ledger are valid afterwards. -/
def Moves (target : PartitionState) (r : PartitionRecord) (l l' : CapacityLedger) : Prop :=
  ∃ r', Allowed r.state target ∧
    applyCapacityTransition target (l, r) = ((l', r'), success) ∧
    ({ r' with state := target } : PartitionRecord).validate = success ∧ l'.validate = success

/-- The ledger after a move is determined by the one before. -/
lemma Moves.unique {m : CapacityLedger} (h : Moves target r l l') (hm : Moves target r l m) :
    l' = m := by
  obtain ⟨r', -, hrun, -⟩ := h
  obtain ⟨r'', -, hrun', -⟩ := hm
  exact (Prod.mk.inj (Prod.mk.inj (hrun.symm.trans hrun')).1).1

/-- The result of a transition that went through for one record. -/
structure MovedTo (s t : FabricState) (k : PartitionId) (r : PartitionRecord)
    (target : PartitionState) (l' : CapacityLedger) : Prop where
  ledger : t.findLedger r.accelerator = some l'
  partition : (t.findPartition k).map PartitionRecord.state = some target
  others : ∀ j, j ≠ k → t.findPartition j = s.findPartition j

/-- A transition goes through exactly when the record moves. -/
lemma transitionPartition_iff (now : UInt64) (reason : Text) (hr : s.findPartition k = some r)
    (hne : r.state ≠ target) (hl : s.findLedger r.accelerator = some l) :
    (∃ t l', Moves target r l l' ∧ transitionPartition now k target reason s = (t, success) ∧
      MovedTo s t k r target l') ∨
    (∃ t e, transitionPartition now k target reason s = (t, .error e)) ∧
      ∀ l', ¬Moves target r l l' := by
  unfold transitionPartition
  rw [hr]
  simp only
  cases hallowed : validateTransition r.state target with
  | error e =>
    refine Or.inr ⟨⟨s, _, rfl⟩, fun l' h ↦ ?_⟩
    obtain ⟨r', h, -⟩ := h
    cases hallowed.symm.trans h
  | ok u =>
    simp only
    rw [if_neg hne, hl]
    simp only
    rcases hrun : applyCapacityTransition target (l, r) with ⟨⟨l', r'⟩, e | u⟩
    · refine Or.inr ⟨⟨_, e, rfl⟩, fun m h ↦ ?_⟩
      obtain ⟨r'', -, h, -⟩ := h
      cases hrun.symm.trans h
    · have honly {m : CapacityLedger} {r'' : PartitionRecord}
          (h : applyCapacityTransition target (l, r) = ((m, r''), success)) : l' = m ∧ r' = r'' :=
        Prod.mk.inj (Prod.mk.inj (hrun.symm.trans h)).1
      simp only
      split
      · rename_i e hinvalid
        refine Or.inr ⟨⟨_, e, rfl⟩, fun m h ↦ ?_⟩
        obtain ⟨r'', -, h, hvalid, -⟩ := h
        obtain ⟨rfl, rfl⟩ := honly h
        cases hvalid.symm.trans hinvalid
      · rename_i e hvalid hopen
        refine Or.inr ⟨⟨_, _, rfl⟩, fun m h ↦ ?_⟩
        obtain ⟨r'', -, h, -, hclosed⟩ := h
        obtain ⟨rfl, rfl⟩ := honly h
        cases hclosed.symm.trans hopen
      · rename_i v w hvalid hclosed
        refine Or.inl ⟨_, l', ⟨r', hallowed, hrun, hvalid, hclosed⟩, rfl,
          KeyedMap.find?_insert_self _ _ _, ?_, fun j hj ↦ KeyedMap.find?_insert_of_ne _ _ hj⟩
        rw [FabricState.findPartition, KeyedMap.find?_insert_self]
        rfl

/-- Only ledgers and partitions differ. -/
def Relocates (s t : FabricState) : Prop :=
  ∃ ledgers partitions, t = { s with ledgers := ledgers, partitions := partitions }

instance : Std.Refl Relocates := ⟨fun s ↦ ⟨s.ledgers, s.partitions, rfl⟩⟩

instance : IsTrans FabricState Relocates where
  trans s t u hst htu := by
    obtain ⟨ledgers, partitions, rfl⟩ := hst
    obtain ⟨ledgers', partitions', rfl⟩ := htu
    exact ⟨ledgers', partitions', rfl⟩

lemma relocates_transition {reason : Text} :
    Advances Relocates (transitionPartition now k target reason) s := by
  unfold Advances
  rcases transitionPartition_cases now k target reason s with hsame |
    ⟨record, ledger, ledger', held, -, -, -, -, -, hmoved⟩
  · rw [hsame]
    exact refl_of _ s
  · rw [hmoved]
    exact ⟨_, _, rfl⟩

/-- Records move one after another to a state that requires reconfiguration; those that are there
already stay. -/
def GivesWay : List PartitionRecord → CapacityLedger → Prop
  | [], _ => True
  | r :: rest, l => r.state = .reconfigurationRequired ∧ GivesWay rest l ∨
      r.state ≠ .reconfigurationRequired ∧
        ∃ l', Moves .reconfigurationRequired r l l' ∧ GivesWay rest l'

lemma givesWay_cons {rest : List PartitionRecord} : GivesWay (r :: rest) l ↔
    r.state = .reconfigurationRequired ∧ GivesWay rest l ∨
      r.state ≠ .reconfigurationRequired ∧
        ∃ l', Moves .reconfigurationRequired r l l' ∧ GivesWay rest l' := Iff.rfl

/-- A transition to the state a record is in already changes nothing. -/
lemma transitionPartition_same (now : UInt64) (reason : Text) (hr : s.findPartition k = some r)
    (hstate : r.state = .reconfigurationRequired) :
    transitionPartition now k .reconfigurationRequired reason s = (s, success) := by
  unfold transitionPartition
  rw [hr]
  simp only [hstate]
  rfl

/-- Every record of a list is in a state that requires reconfiguration, and no other record changed. -/
structure AllMoved (s t : FabricState) (records : List PartitionRecord) : Prop where
  moved : ∀ r ∈ records,
    (t.findPartition r.id).map PartitionRecord.state = some .reconfigurationRequired
  others : ∀ j, j ∉ records.map PartitionRecord.id → t.findPartition j = s.findPartition j

/-- The partitions that are replaced can all be moved, or the loop over them fails. -/
lemma forM_transition_iff {id : AcceleratorId} {records : List PartitionRecord} (now : UInt64)
    (reason : Text) (hnodup : (records.map PartitionRecord.id).Nodup)
    (hfound : ∀ r ∈ records, s.findPartition r.id = some r ∧ r.accelerator = id)
    (hl : s.findLedger id = some l) :
    (GivesWay records l ∧ ∃ t, (records.forM fun r ↦
        transitionPartition now r.id .reconfigurationRequired reason : FabricM Unit) s =
          (t, .ok ()) ∧ AllMoved s t records) ∨
    ¬GivesWay records l ∧ ∃ t e, (records.forM fun r ↦
      transitionPartition now r.id .reconfigurationRequired reason : FabricM Unit) s =
        (t, .error e) := by
  induction records generalizing s l with
  | nil =>
    exact Or.inl ⟨trivial, s, rfl, fun r hr ↦ absurd hr List.not_mem_nil, fun _ _ ↦ rfl⟩
  | cons r rest ih =>
    rw [List.map_cons, List.nodup_cons] at hnodup
    obtain ⟨hr, hid⟩ := hfound r List.mem_cons_self
    have hrest (q : PartitionRecord) (hq : q ∈ rest) : q.id ≠ r.id := fun h ↦
      hnodup.1 (h ▸ List.mem_map_of_mem hq)
    -- what one step and the rest of the loop do to the whole list
    have hall {t u : FabricState} (ht : (t.findPartition r.id).map PartitionRecord.state =
        some .reconfigurationRequired) (hothers : ∀ j, j ≠ r.id →
          t.findPartition j = s.findPartition j) (hu : AllMoved t u rest) :
        AllMoved s u (r :: rest) := by
      refine ⟨fun q hq ↦ ?_, fun j hj ↦ ?_⟩
      · rcases List.mem_cons.mp hq with rfl | hq
        · rw [hu.others _ hnodup.1]
          exact ht
        · exact hu.moved q hq
      · rw [List.map_cons, List.mem_cons, not_or] at hj
        rw [hu.others j hj.2, hothers j hj.1]
    have hcons : ((r :: rest).forM fun r ↦
        transitionPartition now r.id .reconfigurationRequired reason : FabricM Unit) s =
          (transitionPartition now r.id .reconfigurationRequired reason >>= fun _ ↦ rest.forM fun r ↦
            transitionPartition now r.id .reconfigurationRequired reason) s := rfl
    by_cases hstate : r.state = .reconfigurationRequired
    · have hstep := transitionPartition_same now reason hr hstate
      have hloop : ((r :: rest).forM fun r ↦
          transitionPartition now r.id .reconfigurationRequired reason : FabricM Unit) s =
            (rest.forM fun r ↦
              transitionPartition now r.id .reconfigurationRequired reason : FabricM Unit) s := by
        rw [hcons, bind_ok hstep]
      have hway : GivesWay (r :: rest) l ↔ GivesWay rest l := by
        rw [givesWay_cons]
        exact ⟨fun h ↦ h.elim And.right fun h ↦ absurd hstate h.1, fun h ↦ Or.inl ⟨hstate, h⟩⟩
      rw [hloop, hway]
      refine (ih hnodup.2 (fun q hq ↦ hfound q (List.mem_cons_of_mem _ hq)) hl).imp_left ?_
      rintro ⟨hy, t, hrun, ht⟩
      refine ⟨hy, t, hrun, hall (t := s) ?_ (fun _ _ ↦ rfl) ht⟩
      rw [hr, Option.map_some, hstate]
    · subst hid
      rcases transitionPartition_iff now reason hr hstate hl with
        ⟨t, l', hmoves, hstep, ht⟩ | ⟨⟨t, e, hstep⟩, hnever⟩
      · have hloop : ((r :: rest).forM fun r ↦
            transitionPartition now r.id .reconfigurationRequired reason : FabricM Unit) s =
              (rest.forM fun r ↦
                transitionPartition now r.id .reconfigurationRequired reason : FabricM Unit) t := by
          rw [hcons, bind_ok hstep]
        have hway : GivesWay (r :: rest) l ↔ GivesWay rest l' := by
          rw [givesWay_cons]
          constructor
          · rintro (⟨h, -⟩ | ⟨-, m, hm, hy⟩)
            · exact absurd h hstate
            · rwa [hmoves.unique hm]
          · exact fun h ↦ Or.inr ⟨hstate, l', hmoves, h⟩
        rw [hloop, hway]
        have hfound' : ∀ q ∈ rest, t.findPartition q.id = some q ∧ q.accelerator = r.accelerator :=
          fun q hq ↦ by
            obtain ⟨hq', hid⟩ := hfound q (List.mem_cons_of_mem _ hq)
            exact ⟨(ht.others q.id (hrest q hq)).trans hq', hid⟩
        refine (ih hnodup.2 hfound' ht.ledger).imp_left ?_
        rintro ⟨hy, u, hrun, hu⟩
        exact ⟨hy, u, hrun, hall ht.partition ht.others hu⟩
      · refine Or.inr ⟨fun hy ↦ ?_, t, e, ?_⟩
        · rcases givesWay_cons.mp hy with ⟨h, -⟩ | ⟨-, m, hm, -⟩
          · exact hstate h
          · exact hnever m hm
        · rw [hcons, bind_error hstep]

end Moving

section Registering

variable {r : PartitionReservation}

/-- The attempts that are left once room is made for one more. -/
def attemptsLeft (s : FabricState) : KeyedMap PartitionAttemptId PartitionAttempt :=
  if s.attempts.size ≥ s.limits.maxAttemptHistory then (pruneAttempts s).attempts else s.attempts

/-- An attempt may be registered under an identity: there is room for it in the history and among
the attempts in flight, the identity can be handed out, and the time of dispatch is a time. -/
structure CanRegister (s : FabricState) (next now : UInt64) : Prop where
  room : (attemptsLeft s).size < s.limits.maxAttemptHistory
  pending : (attemptsLeft s).values.countP (fun a ↦ !attemptSettled a.state) <
    s.limits.maxPendingAttempts
  identity : next ≠ uint64Max
  dispatched : now ≠ 0

/-- What the registration of a reconfiguration attempt leaves behind. -/
structure RegisteredFor (s t : FabricState) (key : PartitionReservationId)
    (r : PartitionReservation) (a : PartitionAttempt) (now : UInt64) : Prop where
  ledgers : t.ledgers = s.ledgers
  partitions : t.partitions = s.partitions
  accelerators : t.accelerators = s.accelerators
  reservations : t.reservations = s.reservations.modify key fun r ↦
    { r with attempt := a.id, updatedAtMs := now }
  recorded : t.findAttempt a.id = some a
  kind : a.kind = .reconfigureLayout
  reservation : a.reservation = r.id
  accelerator : a.accelerator = r.accelerator
  state : a.state = .dispatched

lemma makeAttemptRoom_eq (s : FabricState) :
    ∃ status, makeAttemptRoom s = ({ s with attempts := attemptsLeft s }, status) ∧
      (status = success ↔ (attemptsLeft s).size < s.limits.maxAttemptHistory) := by
  unfold attemptsLeft
  by_cases hfull : s.attempts.size ≥ s.limits.maxAttemptHistory
  · rw [if_pos hfull]
    unfold makeAttemptRoom
    rw [get_bind, decide_eq_true hfull, when_true, modify_bind, get_bind]
    change ∃ status, require (decide ((pruneAttempts s).attempts.size <
      s.limits.maxAttemptHistory)) _ (pruneAttempts s) = _ ∧ _
    cases hroom : decide ((pruneAttempts s).attempts.size < s.limits.maxAttemptHistory) with
    | true => exact ⟨success, rfl, iff_of_true rfl (of_decide_eq_true hroom)⟩
    | false => exact ⟨_, rfl, iff_of_false (fun h ↦ by cases h) (of_decide_eq_false hroom)⟩
  · rw [if_neg hfull, makeAttemptRoom_room (not_le.mp hfull)]
    exact ⟨success, rfl, iff_of_true rfl (not_le.mp hfull)⟩

/-- A reconfiguration attempt that names its identities is valid when it was dispatched at a time. -/
lemma validate_attemptFor {id : PartitionAttemptId} (hid : valid id = true)
    (hr : valid r.id = true) : (attemptFor s r .reconfigureLayout 0 0 id now).validate = success ↔
      now ≠ 0 := by
  unfold PartitionAttempt.validate attemptFor
  simp only [hid, hr, Bool.not_true, Bool.false_eq_true, if_false, attemptSettled,
    Bool.false_and, decide_true, Bool.true_and, decide_eq_true_eq]
  split
  · rename_i hzero
    exact iff_of_false (fun h ↦ by cases h) (not_not_intro hzero)
  · rename_i hzero
    exact iff_of_true rfl hzero

/-- A reconfiguration attempt is registered, or its registration fails without a trace in the
reservations. -/
lemma registerAttemptLocked_cases (s : FabricState) (key : PartitionReservationId) (now : UInt64)
    (hr : valid r.id = true) (hnext : valid s.ids.next = true) :
    (CanRegister s s.ids.next now ∧ ∃ t a,
      registerAttemptLocked key r .reconfigureLayout 0 0 now s = (t, .ok a) ∧
        RegisteredFor s t key r a now) ∨
    ¬CanRegister s s.ids.next now ∧ ∃ t e,
      registerAttemptLocked key r .reconfigureLayout 0 0 now s = (t, .error e) ∧
        t.reservations = s.reservations := by
  obtain ⟨status, hmade, hstatus⟩ := makeAttemptRoom_eq s
  let u : FabricState := { s with attempts := attemptsLeft s }
  have hroom : makeAttemptRoom s = (u, status) := hmade
  unfold registerAttemptLocked
  cases status with
  | error e =>
    rw [bind_error hroom]
    refine Or.inr ⟨fun h ↦ ?_, u, e, rfl, rfl⟩
    cases hstatus.mpr h.room
  | ok v =>
    rw [bind_ok hroom]
    simp only [get_bind, require_bind]
    cases hpending : decide ((attemptsLeft s).values.countP (fun a ↦ !attemptSettled a.state) <
        s.limits.maxPendingAttempts) with
    | false =>
      exact Or.inr ⟨fun h ↦ of_decide_eq_false hpending h.pending, u, _, rfl, rfl⟩
    | true =>
      rw [if_pos rfl]
      by_cases hmax : s.ids.next = uint64Max
      · obtain ⟨e, halloc⟩ := allocateId_exhausted (s := u) hmax
        rw [bind_error halloc]
        exact Or.inr ⟨fun h ↦ h.identity hmax, u, e, rfl, rfl⟩
      · let w : FabricState := { u with ids := ⟨s.ids.next + 1⟩ }
        have halloc : allocateId u = (w, .ok s.ids.next) := allocateId_eq (s := u) hmax
        rw [bind_ok halloc]
        let a := attemptFor w r .reconfigureLayout 0 0 s.ids.next now
        change (CanRegister s s.ids.next now ∧ ∃ t x, (Procedure.lift a.validate >>= _) w =
            (t, .ok x) ∧ RegisteredFor s t key r x now) ∨
          ¬CanRegister s s.ids.next now ∧ ∃ t e, (Procedure.lift a.validate >>= _) w =
            (t, .error e) ∧ t.reservations = s.reservations
        have hvalidated : a.validate = success ↔ now ≠ 0 := validate_attemptFor hnext hr
        cases hvalid : a.validate with
        | error e =>
          rw [hvalid] at hvalidated
          refine Or.inr ⟨fun h ↦ ?_, w, e, rfl, rfl⟩
          cases hvalidated.mpr h.dispatched
        | ok v =>
          rw [hvalid] at hvalidated
          let x : FabricState := { w with attempts := w.attempts.insert s.ids.next a }
          obtain ⟨generation, hbump⟩ := bumpStateGeneration_eq
            (x.modifyReservation key fun r ↦ { r with attempt := s.ids.next, updatedAtMs := now })
          refine Or.inl ⟨⟨hstatus.mp rfl, of_decide_eq_true hpending, hmax, hvalidated.mp rfl⟩,
            (x.modifyReservation key fun r ↦
              { r with attempt := s.ids.next, updatedAtMs := now }).bumpStateGeneration, a, rfl, ?_⟩
          rw [hbump]
          exact ⟨rfl, rfl, rfl, rfl, KeyedMap.find?_insert_self _ _ _, rfl, rfl, rfl, rfl⟩

lemma CanRegister.congr {next : UInt64} (hattempts : t.attempts = s.attempts)
    (hlimits : t.limits = s.limits) : CanRegister t next now ↔ CanRegister s next now := by
  have hleft : attemptsLeft t = attemptsLeft s := by
    unfold attemptsLeft pruneAttempts
    rw [hattempts, hlimits]
  constructor
  · intro h
    refine ⟨?_, ?_, h.identity, h.dispatched⟩
    · rw [← hleft, ← hlimits]
      exact h.room
    · rw [← hleft, ← hlimits]
      exact h.pending
  · intro h
    refine ⟨?_, ?_, h.identity, h.dispatched⟩
    · rw [hleft, hlimits]
      exact h.room
    · rw [hleft, hlimits]
      exact h.pending

end Registering

section Dispatching

lemma replacedBy_eq {id : AcceleratorId} (h : replacedBy s id = .ok affected) :
    affected = (s.partitionsOf id).filter inLayout := by
  unfold replacedBy at h
  simp only at h
  split at h
  · exact absurd h (failure_ne_ok _ _ _ _)
  · exact (Except.ok.inj h).symm

/-- A reconfiguration replaces the partitions in the layout of its device. -/
lemma mem_replacedBy_iff {id : AcceleratorId} {r : PartitionRecord}
    (h : replacedBy s id = .ok affected) : r ∈ affected ↔
      (∃ k, s.findPartition k = some r) ∧ r.accelerator = id ∧ inLayout r = true := by
  rw [replacedBy_eq h, List.mem_filter, mem_partitionsOf, and_assoc]
  rfl

/-- The partitions that a reconfiguration replaces stand under distinct identities of their own. -/
lemma replacedBy_standing (hs : Standing s) {id : AcceleratorId}
    (h : replacedBy s id = .ok affected) : (affected.map PartitionRecord.id).Nodup ∧
      ∀ r ∈ affected, s.findPartition r.id = some r ∧ r.accelerator = id := by
  constructor
  · have hsublist : affected.Sublist s.partitions.values := by
      rw [replacedBy_eq h]
      exact List.filter_sublist.trans List.filter_sublist
    have hnodup : (s.partitions.values.map PartitionRecord.id).Nodup := by
      rw [KeyedMap.map_values_eq_keys hs.partitions]
      exact KeyedMap.keys_nodup _
    exact hnodup.sublist (hsublist.map _)
  · intro r hr
    obtain ⟨⟨k, hk⟩, hid, -⟩ := (mem_replacedBy_iff h).mp hr
    refine ⟨?_, hid⟩
    rw [hs.partitions k r hk]
    exact hk

lemma valid_add_one {n : UInt64} (h : n ≠ uint64Max) : valid (n + 1) = true := by
  have hlt : n < n + 1 := lt_add_one h
  have hne : n + 1 ≠ 0 := fun hzero ↦ by
    rw [hzero] at hlt
    exact absurd hlt (not_lt.mpr UInt64.zero_le)
  simpa [valid] using hne

/-- What a dispatched reconfiguration leaves behind. -/
structure DispatchedBy (s t : FabricState) (accelerator : AcceleratorRecord)
    (affected : List PartitionRecord) (l' : CapacityLedger) (request : PartitionMutationRequest) :
    Prop where
  accelerators : t.accelerators = s.accelerators
  attempt : ∃ a r, t.findAttempt request.attempt = some a ∧ a.kind = .reconfigureLayout ∧
    a.state = .dispatched ∧ a.accelerator = accelerator.id ∧
    t.findReservation a.reservation = some r ∧ r.lifecycle = .active
  moved : AllMoved s t affected
  unmoved : (∀ r ∈ affected, r.state = .reconfigurationRequired) →
    t.ledgers = s.ledgers.insert accelerator.id l' ∧ t.partitions = s.partitions

lemma forM_transition_same {records : List PartitionRecord} (now : UInt64) (reason : Text)
    (hfound : ∀ r ∈ records, s.findPartition r.id = some r)
    (hstate : ∀ r ∈ records, r.state = .reconfigurationRequired) :
    (records.forM fun r ↦ transitionPartition now r.id .reconfigurationRequired reason :
      FabricM Unit) s = (s, .ok ()) := by
  induction records with
  | nil => rfl
  | cons r rest ih =>
    have hstep := transitionPartition_same now reason
      (hfound r List.mem_cons_self) (hstate r List.mem_cons_self)
    change (transitionPartition now r.id .reconfigurationRequired reason >>= fun _ ↦ rest.forM fun r ↦
      transitionPartition now r.id .reconfigurationRequired reason) s = _
    rw [bind_ok hstep]
    exact ih (fun q hq ↦ hfound q (List.mem_cons_of_mem _ hq))
      fun q hq ↦ hstate q (List.mem_cons_of_mem _ hq)

/-- Looking a stable key up never fails. -/
lemma stableKeyOf_eq (id : AcceleratorId) (s : FabricState) :
    ∃ keys key, stableKeyOf id s = ({ s with stableKeys := keys }, .ok key) := by
  unfold stableKeyOf
  cases s.stableKeys.find? id with
  | none => exact ⟨_, _, rfl⟩
  | some key => exact ⟨s.stableKeys, key, rfl⟩

/-- A dispatch leaves nothing, or it holds capacity; then it goes through, or it leaves a live
reservation behind. -/
lemma dispatchReconfiguration_cases (hs : Standing s)
    (hreplaces : replacedBy s accelerator.id = .ok affected) :
    (∃ t e, dispatchReconfiguration planId plan accelerator affected hold now s = (t, .error e) ∧
      Traceless s t ∧ ∀ l l', ¬CanHold s accelerator hold l l') ∨
    ∃ l l', CanHold s accelerator hold l l' ∧
      (¬(GivesWay affected l' ∧ CanRegister s (s.ids.next + 1 + 1) now) ∧
          (∃ t e r, dispatchReconfiguration planId plan accelerator affected hold now s =
            (t, .error e) ∧ t.findReservation (s.ids.next + 1) = some r ∧ r.lifecycle = .active) ∨
        (GivesWay affected l' ∧ CanRegister s (s.ids.next + 1 + 1) now) ∧
          ∃ t request, dispatchReconfiguration planId plan accelerator affected hold now s =
            (t, .ok request) ∧ DispatchedBy s t accelerator affected l' request) := by
  unfold dispatchReconfiguration
  rcases createDestructiveReservationLocked_cases s accelerator affected hold now with
    ⟨t, e, hrun, ht, hnever⟩ | ⟨l, l', r, u, hcan, hrun, hu⟩
  · rw [bind_error hrun]
    exact Or.inl ⟨t, e, rfl, ht, hnever⟩
  · rw [bind_ok hrun, modify_bind]
    let stored : PartitionReservation := { r with
      plan := plan.id
      planGeneration := plan.generation
      plannedMutations := (plan.plannedPartitions.length + affected.length).toUInt32 }
    let v : FabricState := u.modifyReservation r.id fun _ ↦ stored
    have hstored : v.findReservation (s.ids.next + 1) = some stored := by
      change (u.reservations.modify r.id _).find? _ = _
      rw [KeyedMap.find?_modify, if_pos hu.id.symm, hu.reservations, hu.id,
        KeyedMap.find?_insert_self]
      rfl
    obtain ⟨hnodup, hfound⟩ := replacedBy_standing hs hreplaces
    have hfoundv (q : PartitionRecord) (hq : q ∈ affected) :
        v.findPartition q.id = some q ∧ q.accelerator = accelerator.id := by
      obtain ⟨hq', hid⟩ := hfound q hq
      refine ⟨?_, hid⟩
      rw [FabricState.findPartition]
      change u.partitions.find? q.id = some q
      rw [hu.partitions]
      exact hq'
    have hledger : v.findLedger accelerator.id = some l' := by
      change u.ledgers.find? _ = _
      rw [hu.ledgers, KeyedMap.find?_insert_self]
    refine Or.inr ⟨l, l', hcan, ?_⟩
    have hframe : Advances Relocates (affected.forM fun record ↦
        transitionPartition now record.id .reconfigurationRequired
          "device-wide reconfiguration attempt registered" : FabricM Unit) v :=
      advances_forM fun _ _ _ _ ↦ relocates_transition
    rcases forM_transition_iff now
      "device-wide reconfiguration attempt registered" hnodup hfoundv hledger with
      ⟨hway, w, hloop, hmoved⟩ | ⟨hstuck, w, e, hloop⟩
    · obtain ⟨ledgers, partitions, hw⟩ := hframe.of_run hloop
      rw [bind_ok hloop]
      have hattempts : w.attempts = s.attempts := by rw [hw]; exact hu.attempts
      have hlimits : w.limits = s.limits := by rw [hw]; exact hu.limits
      have hnext : w.ids.next = s.ids.next + 1 + 1 := by rw [hw]; exact hu.ids
      have hvalid : valid stored.id = true := by
        change valid r.id = true
        rw [hu.id]
        exact valid_add_one hcan.planned
      have hidentity : valid w.ids.next = true := by
        rw [hnext]
        exact valid_add_one hcan.reserved
      have hregister := registerAttemptLocked_cases w r.id now hvalid hidentity
      rw [hnext, CanRegister.congr hattempts hlimits] at hregister
      rcases hregister with ⟨hcanRegister, x, a, hrun, hx⟩ | ⟨hcannot, x, e, hrun, hx⟩
      · rw [bind_ok hrun]
        refine Or.inr ⟨⟨hway, hcanRegister⟩, ?_⟩
        obtain ⟨keys, stableKey, hkey⟩ := stableKeyOf_eq accelerator.id x
        rw [bind_ok hkey, get_bind, modify_bind]
        refine ⟨_, _, rfl, ?_, ?_, ?_, fun hstate ↦ ?_⟩
        · change x.accelerators = s.accelerators
          rw [hx.accelerators, hw]
          exact hu.accelerators
        · refine ⟨a, { stored with attempt := a.id, updatedAtMs := now }, hx.recorded, hx.kind,
            hx.state, hx.accelerator.trans hu.accelerator, ?_, hu.active⟩
          change x.reservations.find? a.reservation = _
          rw [hx.reservation, hx.reservations, KeyedMap.find?_modify, if_pos rfl]
          have hfind : w.reservations.find? r.id = some stored := by
            rw [hu.id, hw]
            exact hstored
          exact congrArg (Option.map _) hfind
        · refine ⟨fun q hq ↦ ?_, fun j hj ↦ ?_⟩
          · change (x.partitions.find? q.id).map _ = _
            rw [hx.partitions]
            exact hmoved.moved q hq
          · change x.partitions.find? j = _
            rw [hx.partitions]
            refine (hmoved.others j hj).trans ?_
            change u.partitions.find? j = _
            rw [hu.partitions]
            rfl
        · have hsame := forM_transition_same now "device-wide reconfiguration attempt registered"
            (fun q hq ↦ (hfoundv q hq).1) hstate
          obtain rfl : v = w := (Prod.mk.inj (hsame.symm.trans hloop)).1
          constructor
          · change x.ledgers = _
            rw [hx.ledgers]
            exact hu.ledgers
          · change x.partitions = _
            rw [hx.partitions]
            exact hu.partitions
      · rw [bind_error hrun]
        refine Or.inl ⟨fun h ↦ hcannot h.2, x, e, stored, rfl, ?_, hu.active⟩
        rw [FabricState.findReservation, hx, hw]
        exact hstored
    · obtain ⟨ledgers, partitions, hw⟩ := hframe.of_run hloop
      rw [bind_error hloop]
      refine Or.inl ⟨fun h ↦ hstuck h.1, w, e, stored, rfl, ?_, hu.active⟩
      rw [hw]
      exact hstored

end Dispatching

section Failing

/-- What a reconfiguration reaches its hold with is determined. -/
lemma ReachesHold.unique {plan' : PartitionPlan} {accelerator' : AcceleratorRecord}
    {affected' : List PartitionRecord} {hold' : ResourceVector}
    (h : ReachesHold s planId now plan accelerator affected hold)
    (h' : ReachesHold s planId now plan' accelerator' affected' hold') :
    plan' = plan ∧ accelerator' = accelerator ∧ affected' = affected ∧ hold' = hold := by
  obtain rfl := Option.some.inj (h.found.symm.trans h'.found)
  obtain rfl := Option.some.inj (h.device.symm.trans h'.device)
  obtain rfl := Except.ok.inj (h.replaces.symm.trans h'.replaces)
  obtain ⟨target, held, htarget, hheld, hhold⟩ := h.needs
  obtain ⟨target', held', htarget', hheld', hhold'⟩ := h'.needs
  obtain rfl := Except.ok.inj (htarget.symm.trans htarget')
  obtain rfl := Except.ok.inj (hheld.symm.trans hheld')
  exact ⟨rfl, rfl, rfl, Except.ok.inj (hhold'.symm.trans hhold)⟩

/-- The ledger after a hold is determined by the one before. -/
lemma CanHold.unique {m m' : CapacityLedger} (h : CanHold s accelerator hold l l')
    (h' : CanHold s accelerator hold m m') : m' = l' := by
  obtain rfl := Option.some.inj (h.ledger.symm.trans h'.ledger)
  rcases h.takes with ⟨hempty, rfl⟩ | ⟨hempty, hreserve⟩ <;>
    rcases h'.takes with ⟨hempty', rfl⟩ | ⟨hempty', hreserve'⟩
  · rfl
  · cases hempty.symm.trans hempty'
  · cases hempty.symm.trans hempty'
  · exact (Prod.mk.inj (hreserve'.symm.trans hreserve)).1

/-- A reconfiguration that ends with an error before its dispatch leaves no trace. -/
def FailsCleanly (s : FabricState) (planId : PartitionPlanId) (now : UInt64) : Prop :=
  ∀ t e, executeReconfiguration planId now s = (t, .error e) → Traceless s t

/-- Where the hold of a reconfiguration can be taken, its partitions can be moved and its attempt can
be registered. -/
def CarriedThrough (s : FabricState) (planId : PartitionPlanId) (now : UInt64) : Prop :=
  ∀ plan accelerator affected hold l l', ReachesHold s planId now plan accelerator affected hold →
    CanHold s accelerator hold l l' →
      GivesWay affected l' ∧ CanRegister s (s.ids.next + 1 + 1) now

/-- A live reservation under an identity that is still to be handed out is a trace. -/
lemma Standing.not_traceless (hs : Standing s) (hplanned : s.ids.next ≠ uint64Max)
    {r : PartitionReservation} (hr : t.findReservation (s.ids.next + 1) = some r)
    (hactive : r.lifecycle = .active) : ¬Traceless s t := by
  intro ht
  have hholds : r.holdsCapacity = true := by
    unfold PartitionReservation.holdsCapacity
    rw [hactive]
    rfl
  have hlive : reservationIsTerminal r.lifecycle = false := by
    rw [hactive]
    rfl
  have hbelow := hs.live _ r (ht.reservations _ r hr hholds) hlive
  exact absurd (lt_add_one hplanned) (not_lt_of_gt hbelow)

/-- A reconfiguration fails cleanly exactly when nothing can fail after its hold. -/
theorem fails_cleanly_iff (hs : fabric.Reachable anyOp s) :
    FailsCleanly s planId now ↔ CarriedThrough s planId now := by
  have hstanding := standing_of_reachable hs
  unfold FailsCleanly CarriedThrough
  rcases executeReconfiguration_cases s planId now with
    ⟨t, e, hrun, ht, hnever⟩ | ⟨plan, accelerator, affected, hold, hreaches, hrun⟩
  · rw [hrun]
    refine iff_of_true (fun u e' h ↦ ?_) fun plan' _ _ _ _ _ h _ ↦ absurd h (hnever _ _ _ _)
    obtain rfl := (Prod.mk.inj h).1
    exact ht
  · rw [hrun]
    rcases dispatchReconfiguration_cases hstanding hreaches.replaces with
      ⟨t, e, hdispatch, ht, hnever⟩ | ⟨l, l', hcan, ⟨hbreaks, t, e, r, hdispatch, hr, hactive⟩ |
        ⟨hcarried, t, request, hdispatch, -⟩⟩
    · rw [hdispatch]
      refine iff_of_true (fun u e' h ↦ ?_) fun plan' accelerator' affected' hold' m m' h hhold ↦ ?_
      · obtain rfl := (Prod.mk.inj h).1
        exact ht
      · obtain ⟨-, rfl, -, rfl⟩ := hreaches.unique h
        exact absurd hhold (hnever m m')
    · rw [hdispatch]
      refine iff_of_false (fun h ↦ ?_) fun h ↦ hbreaks (h plan _ _ _ l l' hreaches hcan)
      exact hstanding.not_traceless hcan.planned hr hactive (h t e rfl)
    · rw [hdispatch]
      refine iff_of_true (fun u e' h ↦ ?_) fun plan' accelerator' affected' hold' m m' h hhold ↦ ?_
      · cases (Prod.mk.inj h).2
      · obtain ⟨-, rfl, rfl, rfl⟩ := hreaches.unique h
        obtain rfl := hcan.unique hhold
        exact hcarried

end Failing

namespace Sample

/-- A target layout of one slice. -/
def target : PlannedPartition :=
  { profile := profile.id
    profileGeneration := 1
    resources := memory 4 }

/-- Reconfigurations are permitted, and one to the target layout is planned. -/
def reconfigures : List Op :=
  [.setPolicy { makeDefaultPolicy 1 with allowDestructiveReconfiguration := true },
    .planReconfiguration 1 [target]
      { profile := profile.id, allowDestructiveReconfiguration := true } 7]

/-- Whether two states agree in a bucket of a device. -/
def sameBucket (s t : FabricState) (id : AcceleratorId) (b : CapacityBucket)
    (d : ResourceDimension) : Bool :=
  (s.findLedger id).map (fun l ↦ (l.buckets b).get d) =
    (t.findLedger id).map (fun l ↦ (l.buckets b).get d)

end Sample

/-- A reconfiguration of a drained slice can be carried through. -/
theorem fails_cleanly_drained :
    let s := fabric.run (Sample.drained ++ Sample.reconfigures) Sample.opened
    s.plans.contains 6 = true ∧ (FailsCleanly s 6 8 ↔ CarriedThrough s 6 8) := by
  intro s
  have hs : fabric.Reachable anyOp s := System.Reachable.run (.initial ⟨_, _, rfl⟩) (by decide)
  exact ⟨by decide +kernel, fails_cleanly_iff hs⟩

/-- A reconfiguration fails at a partition that is reserved, after it took its hold. -/
theorem reconfiguration_leaves_hold :
    ¬∀ s planId now, fabric.Reachable anyOp s → FailsCleanly s planId now := by
  intro h
  let s := fabric.run (Sample.reserved ++ Sample.reconfigures) Sample.opened
  have hs : fabric.Reachable anyOp s := System.Reachable.run (.initial ⟨_, _, rfl⟩) (by decide)
  have hfails : (executeReconfiguration 5 8 s).2.isOk = false := by decide +kernel
  have hheld : Sample.sameBucket s (executeReconfiguration 5 8 s).1 1 .reserved .memoryBytes =
      false := by decide +kernel
  have hclean := h s 5 8 hs
  clear_value s
  cases hrun : executeReconfiguration 5 8 s with
  | mk t status =>
    rw [hrun] at hfails hheld
    cases status with
    | ok request => cases hfails
    | error e =>
      have hledgers := (hclean t e hrun).ledgers
      unfold Sample.sameBucket FabricState.findLedger at hheld
      rw [hledgers] at hheld
      simp at hheld

end PartitionFabric

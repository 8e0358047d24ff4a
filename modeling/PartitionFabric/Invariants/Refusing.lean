import PartitionFabric.Invariants.Reconfiguring

/-!
What a reconfiguration that the backend refused leaves behind: the failure settles its attempt and
its reservation, and it gives neither the hold nor the partitions back.
-/

namespace PartitionFabric

open Procedure

section Amounts

variable {target held hold v w : ResourceVector}

/-- Setting distinct dimensions one after another. -/
lemma foldlM_set {value : ResourceDimension → UInt64} {ds : List ResourceDimension}
    (hds : ds.Nodup) (h : ds.foldlM (fun v d ↦ v.set d (value d)) v = .ok w) (d : ResourceDimension) :
    w.has d = (v.has d || decide (d ∈ ds)) ∧ w.values d = if d ∈ ds then value d else v.values d := by
  induction ds generalizing v with
  | nil =>
    obtain rfl := Except.ok.inj h
    simp
  | cons e ds ih =>
    obtain ⟨he, hds⟩ := List.nodup_cons.mp hds
    rw [List.foldlM_cons] at h
    cases hset : v.set e (value e) with
    | error err =>
      rw [hset] at h
      cases h
    | ok u =>
      rw [hset] at h
      obtain ⟨hhas, hvalue⟩ := ih hds h
      have hu : u = ⟨Function.update v.values e (value e), v.mask ||| e.bit⟩ := by
        unfold ResourceVector.set at hset
        split at hset
        · cases hset
        · exact (Except.ok.inj hset).symm
      subst hu
      constructor
      · rw [hhas, ResourceVector.has, hasBit_or_bit]
        by_cases hd : d = e <;> simp [ResourceVector.has, hd]
      · rw [hvalue]
        by_cases hd : d = e
        · subst hd
          simp [he]
        · simp [hd]

/-- There is nothing to hold exactly when live partitions hold as much as the target layout needs. -/
lemma additionalCapacity_zero_iff (h : additionalCapacity target held = .ok hold) :
    (∀ d, hold.has d = true → hold.values d = 0) ↔
      ∀ d, target.has d = true → target.get d ≤ held.get d := by
  have hset (d : ResourceDimension) := foldlM_set (ResourceDimension.all_nodup.filter _) h d
  have hmem (d : ResourceDimension) : d ∈ ResourceDimension.all.filter target.has ↔
      target.has d = true := by
    rw [List.mem_filter]
    exact and_iff_right d.mem_all
  refine forall_congr' fun d ↦ ?_
  obtain ⟨hhas, hvalue⟩ := hset d
  have hhas' : hold.has d = target.has d := by
    have hnone : ({} : ResourceVector).has d = false := by simp [ResourceVector.has, hasBit]
    rw [hhas, hnone, Bool.false_or]
    exact Bool.eq_iff_iff.mpr (decide_eq_true_iff.trans (hmem d))
  rw [hhas']
  refine imp_congr_right fun hd ↦ ?_
  rw [hvalue, if_pos ((hmem d).mpr hd)]
  by_cases hmore : target.get d > held.get d
  · rw [if_pos hmore]
    refine iff_of_false (fun hzero ↦ ?_) (not_le.mpr hmore)
    rw [UInt64.sub_eq_iff_eq_add, zero_add] at hzero
    exact absurd hmore (by rw [hzero]; exact lt_irrefl _)
  · rw [if_neg hmore]
    exact iff_of_true rfl (not_lt.mp hmore)

end Amounts

section Refusal

variable {s t u : FabricState} {planId : PartitionPlanId} {plan : PartitionPlan}
  {accelerator : AcceleratorRecord} {affected : List PartitionRecord} {hold : ResourceVector}
  {l l' : CapacityLedger} {now later : UInt64} {result : BackendMutationResult}
  {observed : Option BackendLayout} {outcome : MutationOutcome} {key : PartitionAttemptId}

/-- Dispatches a reconfiguration and applies what the backend answered. -/
def completeReconfiguration (planId : PartitionPlanId) (now : UInt64)
    (result : BackendMutationResult) (observed : Option BackendLayout) (later : UInt64) :
    FabricM MutationOutcome := do
  let request ← executeReconfiguration planId now
  applyMutationResultLocked request.attempt (.ok result) observed later

/-- The device is as it was before a reconfiguration: its partitions are in the states they were in,
its ledger is the same, and the reservation of the reconfiguration holds nothing. -/
structure Restored (s u : FabricState) (id : AcceleratorId) (reservation : PartitionReservationId) :
    Prop where
  partitions : ∀ k r, s.findPartition k = some r → r.accelerator = id → inLayout r = true →
    (u.findPartition k).map PartitionRecord.state = some r.state
  ledger : u.findLedger id = s.findLedger id
  released : ∀ r, u.findReservation reservation = some r → r.holdsCapacity = false

/-- A reconfiguration with nothing to give back: the device is found under its own identity, every
partition of its layout requires reconfiguration already, and its live partitions hold as much as
the target layout needs. -/
structure Inert (s : FabricState) (plan : PartitionPlan) (accelerator : AcceleratorRecord) : Prop where
  registered : s.findAccelerator accelerator.id ≠ none
  required : ∀ k r, s.findPartition k = some r → r.accelerator = accelerator.id →
    inLayout r = true → r.state = .reconfigurationRequired
  covered : ∀ target held, accumulate plan.plannedPartitions = .ok target →
    liveCapacity ((s.findLedger accelerator.id).getD {}) = .ok held →
      ∀ d, target.has d = true → target.get d ≤ held.get d

/-- A reconfiguration under a plan has nothing to give back. -/
def MovesNothing (s : FabricState) (planId : PartitionPlanId) : Prop :=
  ∀ plan accelerator, s.plans.find? planId = some plan →
    s.findAccelerator plan.binding.accelerator = some accelerator → Inert s plan accelerator

/-- What the refusal of a reconfiguration leaves behind. -/
structure RefusedBy (t u : FabricState) (a : PartitionAttempt) (outcome : MutationOutcome) :
    Prop where
  ledgers : u.ledgers = t.ledgers
  partitions : u.partitions = t.partitions
  failed : t.findAccelerator a.accelerator ≠ none → ∀ r, u.findReservation a.reservation = some r →
    r.lifecycle = .failed
  kept : t.findAccelerator a.accelerator = none → u.reservations = t.reservations
  accelerator : outcome.accelerator = a.accelerator
  reservation : outcome.reservation = a.reservation

/-- A reconfiguration that failed without effect settles its attempt and its reservation only. -/
lemma refusedBy_failMutation {a : PartitionAttempt} {r : PartitionReservation} {detail : Text}
    {pending : MutationOutcome} (hkind : a.kind = .reconfigureLayout)
    (hdevice : t.findAccelerator a.accelerator ≠ none)
    (haccelerator : pending.accelerator = a.accelerator)
    (hreservation : pending.reservation = a.reservation)
    (hrun : failMutation key a r detail later pending t = (u, .ok outcome)) :
    RefusedBy t u a outcome := by
  let settled := settleReservation a.reservation .failed detail later
    (settleAttempt key .failed detail later t)
  obtain ⟨generation, hbump⟩ := bumpStateGeneration_eq settled
  have hend : failMutation key a r detail later pending t =
      (settled.bumpStateGeneration, .ok { pending with state := .failed, message := detail }) := by
    unfold failMutation
    rw [hkind]
    rfl
  rw [hbump] at hend
  obtain ⟨rfl, hout⟩ := Prod.mk.inj (hend.symm.trans hrun)
  obtain rfl := Except.ok.inj hout
  refine ⟨rfl, rfl, fun _ r' hr' ↦ ?_, fun h ↦ absurd h hdevice, haccelerator, hreservation⟩
  change (t.reservations.modify a.reservation _).find? a.reservation = some r' at hr'
  rw [KeyedMap.find?_modify, if_pos rfl] at hr'
  obtain ⟨r'', -, rfl⟩ := Option.map_eq_some_iff.mp hr'
  rfl

/-- The refusal of a reconfiguration in flight. -/
lemma refusedBy_applyMutationResultLocked {a : PartitionAttempt} {r : PartitionReservation}
    (ha : t.findAttempt key = some a) (hkind : a.kind = .reconfigureLayout)
    (hstate : a.state = .dispatched) (hr : t.findReservation a.reservation = some r)
    (haccepted : result.accepted = false) (hambiguous : result.ambiguous = false)
    (hrun : applyMutationResultLocked key (.ok result) observed later t = (u, .ok outcome)) :
    RefusedBy t u a outcome := by
  unfold applyMutationResultLocked at hrun
  rw [get_bind, ha] at hrun
  simp only [hr, hstate] at hrun
  cases hdevice : t.findAccelerator a.accelerator with
  | none =>
    rw [hdevice] at hrun
    cases hrun
    exact ⟨rfl, rfl, fun h ↦ absurd hdevice h, fun _ ↦ rfl, rfl, rfl⟩
  | some accelerator =>
    rw [hdevice] at hrun
    have hverify : verifyMutation t a r result observed =
        ⟨false, false, ("backend rejected the reconfiguration: " : Text) ++ result.detail⟩ := by
      unfold verifyMutation
      rw [hkind]
      unfold verifyReconfiguration
      rw [haccepted, hambiguous]
      rfl
    change settleMutation key a r accelerator result observed later _ t = _ at hrun
    unfold settleMutation at hrun
    rw [get_bind, hverify] at hrun
    change failMutation key a r _ later _ t = _ at hrun
    exact refusedBy_failMutation hkind (by rw [hdevice]; exact Option.some_ne_none _) rfl rfl hrun

/-- What a hold leaves of the ledger is the ledger exactly when there was nothing to hold. -/
lemma TakesHold.eq_self_iff (h : TakesHold hold l l') :
    l' = l ↔ ∀ d, hold.has d = true → hold.values d = 0 := by
  rcases h with ⟨hempty, rfl⟩ | ⟨-, hreserve⟩
  · refine iff_of_true rfl fun d hd ↦ ?_
    have hmask : hold.mask = 0 := by simpa [ResourceVector.empty] using hempty
    simp [ResourceVector.has, hasBit, hmask] at hd
  · exact reserve_eq_self_iff hreserve

/-- A refusal restores the device exactly when the reconfiguration had nothing to give back. -/
theorem refusal_restores_iff (hs : fabric.Reachable anyOp s) (haccepted : result.accepted = false)
    (hambiguous : result.ambiguous = false)
    (hrun : completeReconfiguration planId now result observed later s = (u, .ok outcome)) :
    Restored s u outcome.accelerator outcome.reservation ↔ MovesNothing s planId := by
  have hstanding := standing_of_reachable hs
  obtain ⟨t, request, hexecute, happly⟩ := bind_eq_ok.mp hrun
  rcases executeReconfiguration_cases s planId now with
    ⟨t', e, hfails, -⟩ | ⟨plan, accelerator, affected, hold, hreaches, hdispatch⟩
  · cases hfails.symm.trans hexecute
  rcases dispatchReconfiguration_cases hstanding hreaches.replaces with
    ⟨t', e, hfails, -⟩ | ⟨l, l', hcan, ⟨-, t', e, r, hfails, -⟩ | ⟨-, t', request', hok, hby⟩⟩
  · cases (hdispatch.trans hfails).symm.trans hexecute
  · cases (hdispatch.trans hfails).symm.trans hexecute
  obtain ⟨rfl, hrequest⟩ := Prod.mk.inj ((hdispatch.trans hok).symm.trans hexecute)
  obtain rfl := Except.ok.inj hrequest
  obtain ⟨a, r, ha, hkind, hstate, hid, hr, hactive⟩ := hby.attempt
  have hrefused := refusedBy_applyMutationResultLocked ha hkind hstate hr haccepted hambiguous happly
  rw [hrefused.accelerator, hrefused.reservation, hid]
  -- the conditions concern the plan and the device of this dispatch
  have hinert : MovesNothing s planId ↔ Inert s plan accelerator := by
    constructor
    · intro h
      exact h plan accelerator hreaches.found hreaches.device
    · intro h plan' accelerator' hplan hdevice
      obtain rfl := Option.some.inj (hreaches.found.symm.trans hplan)
      obtain rfl := Option.some.inj (hreaches.device.symm.trans hdevice)
      exact h
  have hregistered : t'.findAccelerator a.accelerator = s.findAccelerator accelerator.id := by
    rw [hid, FabricState.findAccelerator, hby.accelerators]
    rfl
  have hcovered : l' = l ↔ ∀ target held, accumulate plan.plannedPartitions = .ok target →
      liveCapacity ((s.findLedger accelerator.id).getD {}) = .ok held →
        ∀ d, target.has d = true → target.get d ≤ held.get d := by
    obtain ⟨target, held, htarget, hheld, hhold⟩ := hreaches.needs
    rw [hcan.takes.eq_self_iff, additionalCapacity_zero_iff hhold]
    refine ⟨fun h target' held' ht hh ↦ ?_, fun h ↦ h target held htarget hheld⟩
    obtain rfl := Except.ok.inj (htarget.symm.trans ht)
    obtain rfl := Except.ok.inj (hheld.symm.trans hh)
    exact h
  rw [hinert]
  constructor
  · intro h
    have hrequired : ∀ q ∈ affected, q.state = .reconfigurationRequired := by
      intro q hq
      obtain ⟨hfound, hof, hlayout⟩ := (mem_replacedBy_iff hreaches.replaces).mp hq
      obtain ⟨k, hk⟩ := hfound
      have hback := h.partitions k q hk hof hlayout
      have hmoved := hby.moved.moved q hq
      rw [hstanding.partitions k q hk, FabricState.findPartition] at hmoved
      rw [FabricState.findPartition, hrefused.partitions, hmoved] at hback
      exact (Option.some.inj hback).symm
    refine ⟨fun hnone ↦ ?_, fun k q hk hof hlayout ↦ ?_, hcovered.mp ?_⟩
    · have hkept := hrefused.kept (hregistered.trans hnone)
      rw [FabricState.findReservation, ← hkept] at hr
      have hholds := h.released r hr
      rw [PartitionReservation.holdsCapacity, hactive] at hholds
      cases hholds
    · exact hrequired q ((mem_replacedBy_iff hreaches.replaces).mpr ⟨⟨k, hk⟩, hof, hlayout⟩)
    · have hledger := h.ledger
      rw [FabricState.findLedger, hrefused.ledgers, (hby.unmoved hrequired).1,
        KeyedMap.find?_insert_self, hcan.ledger] at hledger
      exact Option.some.inj hledger
  · intro h
    have hrequired : ∀ q ∈ affected, q.state = .reconfigurationRequired := by
      intro q hq
      obtain ⟨⟨k, hk⟩, hof, hlayout⟩ := (mem_replacedBy_iff hreaches.replaces).mp hq
      exact h.required k q hk hof hlayout
    obtain ⟨hledgers, hpartitions⟩ := hby.unmoved hrequired
    refine ⟨fun k q hk _ _ ↦ ?_, ?_, fun r' hr' ↦ ?_⟩
    · rw [FabricState.findPartition, hrefused.partitions, hpartitions]
      exact congrArg (Option.map _) hk
    · rw [FabricState.findLedger, hrefused.ledgers, hledgers, KeyedMap.find?_insert_self,
        hcovered.mpr h.covered]
      exact hcan.ledger.symm
    · rw [PartitionReservation.holdsCapacity,
        hrefused.failed (fun hnone ↦ h.registered (hregistered.symm.trans hnone)) r' hr']
      rfl

end Refusal

namespace Sample

/-- What a backend answers that applied nothing. -/
def refusal : BackendMutationResult := {}

/-- A reconfiguration to one slice is refused, so that the drained slice requires reconfiguration,
and the same reconfiguration is planned again. -/
def refusedOnce : List Op :=
  drained ++ reconfigures ++ [.executeReconfiguration 6 8, .applyMutationResult 9 (.ok refusal) none 9,
    .planReconfiguration 1 [target]
      { profile := profile.id, allowDestructiveReconfiguration := true } 10]

/-- The state of a partition, as far as a state records it. -/
def stateOf (s : FabricState) (k : PartitionId) : Option PartitionState :=
  (s.findPartition k).map PartitionRecord.state

end Sample

/-- A second refusal finds the slice as the first one left it. -/
theorem refusal_restores_required :
    let s := fabric.run Sample.refusedOnce Sample.opened
    ∃ u outcome, completeReconfiguration 10 11 Sample.refusal none 12 s = (u, .ok outcome) ∧
      (Restored s u outcome.accelerator outcome.reservation ↔ MovesNothing s 10) := by
  intro s
  have hs : fabric.Reachable anyOp s := System.Reachable.run (.initial ⟨_, _, rfl⟩) (by decide)
  have hok : (completeReconfiguration 10 11 Sample.refusal none 12 s).2.isOk = true := by
    decide +kernel
  cases hrun : completeReconfiguration 10 11 Sample.refusal none 12 s with
  | mk u status =>
    rw [hrun] at hok
    cases status with
    | error e => cases hok
    | ok outcome => exact ⟨u, outcome, rfl, refusal_restores_iff hs rfl rfl hrun⟩

/-- A refused reconfiguration leaves a drained slice in a state that requires reconfiguration. -/
theorem refusal_keeps_slice : ¬∀ s u planId now later result observed outcome,
    fabric.Reachable anyOp s → result.accepted = false → result.ambiguous = false →
      completeReconfiguration planId now result observed later s = (u, .ok outcome) →
        Restored s u outcome.accelerator outcome.reservation := by
  intro h
  let s := fabric.run (Sample.drained ++ Sample.reconfigures) Sample.opened
  have hs : fabric.Reachable anyOp s := System.Reachable.run (.initial ⟨_, _, rfl⟩) (by decide)
  have hok : (completeReconfiguration 6 8 Sample.refusal none 9 s).2.map
      MutationOutcome.accelerator = .ok 1 := by decide +kernel
  have hbefore : (s.findPartition 4).map (fun r ↦ (r.state, r.accelerator, inLayout r)) =
      some (.draining, 1, true) := by decide +kernel
  have hafter : Sample.stateOf (completeReconfiguration 6 8 Sample.refusal none 9 s).1 4 =
      some .reconfigurationRequired := by decide +kernel
  clear_value s
  cases hrun : completeReconfiguration 6 8 Sample.refusal none 9 s with
  | mk u status =>
    rw [hrun] at hok hafter
    cases status with
    | error e => cases hok
    | ok outcome =>
      have haccelerator : outcome.accelerator = 1 := Except.ok.inj hok
      obtain ⟨r, hr, hfields⟩ := Option.map_eq_some_iff.mp hbefore
      obtain ⟨hstate, hrest⟩ := Prod.mk.inj hfields
      obtain ⟨hdevice, hlayout⟩ := Prod.mk.inj hrest
      have hrestored := h s u 6 8 9 Sample.refusal none outcome hs rfl rfl hrun
      rw [haccelerator] at hrestored
      have hback := hrestored.partitions 4 r hr hdevice hlayout
      cases (hstate ▸ hback).symm.trans hafter

end PartitionFabric

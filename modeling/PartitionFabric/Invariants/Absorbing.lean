import PartitionFabric.Invariants.Publication

/-!
How the result of a mutation settles its attempt and the reservation behind it, and when a
terminal reservation keeps its lifecycle along runs.
-/

namespace PartitionFabric

open Procedure

variable {s t : FabricState} {key : PartitionAttemptId} {now : UInt64}

section Settlement

/-- An attempt is not in flight any more, and what a reservation has become meets a condition. -/
structure SettledAs (key : PartitionAttemptId) (id : PartitionReservationId)
    (Q : ReservationLifecycle → Prop) (s : FabricState) : Prop where
  attempt : ∃ a, s.findAttempt key = some a ∧ a.state.inFlight = false
  reservation : ∃ r, s.findReservation id = some r ∧ Q r.lifecycle

variable {id : PartitionReservationId} {Q : ReservationLifecycle → Prop} {a : PartitionAttempt}
  {r : PartitionReservation}

lemma SettledAs.of_keeps (h : Keeps commitments s t) (hs : SettledAs key id Q s) :
    SettledAs key id Q t := by
  obtain ⟨hattempts, hreservations⟩ := Prod.mk.inj h
  obtain ⟨⟨a, ha, hstate⟩, r, hr, hQ⟩ := hs
  refine ⟨⟨a, ?_, hstate⟩, r, ?_, hQ⟩
  · rw [FabricState.findAttempt, hattempts]
    exact ha
  · rw [FabricState.findReservation, hreservations]
    exact hr

lemma SettledAs.mono {P : ReservationLifecycle → Prop} (hs : SettledAs key id P s)
    (h : ∀ x, P x → Q x) : SettledAs key id Q s := by
  obtain ⟨ha, r, hr, hP⟩ := hs
  exact ⟨ha, r, hr, h _ hP⟩

/-- What follows a settlement and keeps the commitments ends in a settled state. -/
lemma settled_bind {α β : Type} {m : FabricM α} {f : α → FabricM β}
    (hm : SettledAs key id Q (m s).1) (hf : ∀ x t, Advances (Keeps commitments) (f x) t) :
    SettledAs key id Q ((m >>= f) s).1 := by
  refine bind_fst (fun t e ht ↦ ?_) fun t x ht ↦ ?_
  · rwa [ht] at hm
  · rw [ht] at hm
    exact hm.of_keeps (hf x t)

lemma settled_settleAttempt {state : AttemptState} {detail : Text}
    (ha : s.findAttempt key = some a) (hr : s.findReservation id = some r)
    (hstate : state.inFlight = false) (hQ : Q r.lifecycle) :
    SettledAs key id Q (settleAttempt key state detail now s) := by
  refine ⟨⟨{ a with state := state, settledAtMs := now, detail := detail }, ?_, hstate⟩, r, hr, hQ⟩
  rw [FabricState.findAttempt, settleAttempt, FabricState.modifyAttempt, KeyedMap.find?_modify,
    if_pos rfl, show s.attempts.find? key = some a from ha]
  rfl

lemma SettledAs.modifyReservation {f : PartitionReservation → PartitionReservation}
    {P : ReservationLifecycle → Prop} (hs : SettledAs key id P s)
    (h : ∀ r, P r.lifecycle → Q (f r).lifecycle) :
    SettledAs key id Q (s.modifyReservation id f) := by
  obtain ⟨ha, r, hr, hP⟩ := hs
  refine ⟨ha, f r, ?_, h r hP⟩
  rw [FabricState.findReservation, FabricState.modifyReservation, KeyedMap.find?_modify, if_pos rfl,
    show s.reservations.find? id = some r from hr]
  rfl

lemma keeps_bump : Keeps commitments s s.bumpStateGeneration := bump_of fun _ ↦ rfl

end Settlement

section Succeeding

lemma never_publishCreated (e : CommitEvidence) (desired : List PlannedPartition)
    (l : List (PartitionId × ℕ)) (claimed : List Text) (s : FabricState) :
    Meets (fun _ ↦ False) (fun _ _ ↦ True) (publishCreated e desired l claimed) s := by
  induction l generalizing claimed s with
  | nil => exact meets_pure trivial
  | cons entry rest ih =>
    obtain ⟨p, index⟩ := entry
    unfold publishCreated
    apply meets_get_bind
    cases s.findPartition p with
    | none => exact ih claimed s
    | some record =>
      apply meets_modify_bind
      apply meets_modify_bind
      refine meets_ignore_bind fun t ↦ ?_
      apply meets_modify_bind
      exact ih _ _

lemma never_retireDestroyed (now : UInt64) (p : PartitionId) (s : FabricState) :
    Meets (fun _ ↦ False) (fun _ _ ↦ True) (retireDestroyed now p) s := by
  refine meets_attempt_bind_of_forall fun status t ↦ ?_
  cases status <;> exact trivial

lemma never_commitPartitions (e : CommitEvidence) (attempt : PartitionAttempt) (s : FabricState) :
    Meets (fun _ ↦ False) (fun _ _ ↦ True) (commitPartitions e attempt) s := by
  unfold commitPartitions
  cases attempt.kind with
  | createPartition => exact never_publishCreated ..
  | destroyPartition => exact meets_forM (fun p _ t _ ↦ never_retireDestroyed e.now p t) trivial
  | reconfigureLayout => exact meets_pure trivial

lemma never_recordReconfigured (e : CommitEvidence) (l : List PlannedPartition)
    (claimed : List Text) (ids : List PartitionId) (s : FabricState) :
    Meets (fun _ ↦ False) (fun _ _ ↦ True) (recordReconfigured e l claimed ids) s := by
  induction l generalizing claimed ids s with
  | nil => exact meets_pure trivial
  | cons planned rest ih =>
    unfold recordReconfigured
    apply meets_get_bind
    cases s.findProfile planned.profile with
    | none => exact ih claimed ids s
    | some profile =>
      refine meets_attempt_bind_of_forall fun status t ↦ ?_
      cases status with
      | error err => exact meets_pure trivial
      | ok id =>
        apply meets_modify_bind
        apply meets_modify_bind
        apply meets_modify_bind
        exact ih _ _ _

lemma never_replaceRecords (e : CommitEvidence) (attempt : PartitionAttempt) (plan : PartitionPlan)
    (working : CapacityLedger) (s : FabricState) :
    Meets (fun _ ↦ False) (fun _ _ ↦ True) (replaceRecords e attempt plan working) s := by
  apply meets_modify_bind
  have hloop (t : FabricState) : Meets (fun _ ↦ False) (fun _ _ ↦ True)
      (attempt.partitions.forM fun p ↦ Procedure.modify (retireReplaced e.now p) : FabricM Unit) t :=
    meets_forM (Q := fun _ _ ↦ True) (fun _ _ _ _ ↦ trivial) trivial
  refine meets_bind (hloop _) fun _ t _ ↦ ?_
  apply meets_modify_bind
  exact never_recordReconfigured ..

end Succeeding

section Results

variable {a : PartitionAttempt} {r : PartitionReservation} {detail : Text}
  {outcome : MutationOutcome}

lemma found_of_keeps (h : Keeps commitments s t) (ha : s.findAttempt key = some a)
    (hr : s.findReservation a.reservation = some r) :
    t.findAttempt key = some a ∧ t.findReservation a.reservation = some r := by
  obtain ⟨hattempts, hreservations⟩ := Prod.mk.inj h
  rw [FabricState.findAttempt, FabricState.findReservation, hattempts, hreservations]
  exact ⟨ha, hr⟩

lemma settled_committed (ha : s.findAttempt key = some a)
    (hr : s.findReservation a.reservation = some r) :
    SettledAs key a.reservation (· = .committed)
      (commitReservation a.reservation now
        (settleAttempt key .succeeded detail now s)).bumpStateGeneration := by
  have hsettled : SettledAs key a.reservation (fun _ ↦ True)
      (settleAttempt key .succeeded detail now s) := settled_settleAttempt ha hr rfl trivial
  have hcommitted : SettledAs key a.reservation (· = .committed)
      (commitReservation a.reservation now (settleAttempt key .succeeded detail now s)) :=
    hsettled.modifyReservation fun _ _ ↦ rfl
  exact hcommitted.of_keeps keeps_bump

lemma settled_commitMutation {e : CommitEvidence} (ha : s.findAttempt key = some a)
    (hr : s.findReservation a.reservation = some r) :
    SettledAs key a.reservation (· = .committed) (commitMutation e key a detail outcome s).1 := by
  have hkept : Meets (fun _ ↦ False) (fun _ t ↦ Keeps commitments s t) (commitPartitions e a) s :=
    (never_commitPartitions e a s).mono keeps_commitPartitions fun _ _ _ h ↦ h
  have hall : Meets (SettledAs key a.reservation (· = .committed))
      (fun _ t ↦ SettledAs key a.reservation (· = .committed) t)
      (commitMutation e key a detail outcome) s := by
    refine meets_bind hkept.of_never fun _ t ht ↦ ?_
    obtain ⟨ha', hr'⟩ := found_of_keeps ht ha hr
    exact settled_committed ha' hr'
  exact hall.fst fun _ _ h ↦ h

lemma settled_commitReconfiguration {e : CommitEvidence} {plan : PartitionPlan}
    {working : CapacityLedger} (ha : s.findAttempt key = some a)
    (hr : s.findReservation a.reservation = some r) :
    SettledAs key a.reservation (· = .committed)
      (commitReconfiguration e key a plan working detail outcome s).1 := by
  have hkept : Meets (fun _ ↦ False) (fun _ t ↦ Keeps commitments s t)
      (replaceRecords e a plan working) s :=
    (never_replaceRecords e a plan working s).mono keeps_replaceRecords fun _ _ _ h ↦ h
  have hall : Meets (SettledAs key a.reservation (· = .committed))
      (fun _ t ↦ SettledAs key a.reservation (· = .committed) t)
      (commitReconfiguration e key a plan working detail outcome) s := by
    refine meets_bind hkept.of_never fun _ t ht ↦ ?_
    obtain ⟨ha', hr'⟩ := found_of_keeps ht ha hr
    exact settled_committed ha' hr'
  exact hall.fst fun _ _ h ↦ h

lemma settled_failAttempt (ha : s.findAttempt key = some a)
    (hr : s.findReservation a.reservation = some r) :
    SettledAs key a.reservation (· = r.lifecycle) (failAttempt key detail now outcome s).1 :=
  settled_settleAttempt ha hr rfl rfl

/-- A verified reconfiguration commits its reservation or, when its accounting does not close,
leaves it alone. -/
lemma settled_settleReconfiguration {e : CommitEvidence} (ha : s.findAttempt key = some a)
    (hr : s.findReservation a.reservation = some r) :
    SettledAs key a.reservation (fun x ↦ x = .committed ∨ x = r.lifecycle)
      (settleReconfiguration e key a r detail outcome s).1 := by
  have hfail (detail : Text) : SettledAs key a.reservation (fun x ↦ x = .committed ∨ x = r.lifecycle)
      (failAttempt key detail e.now outcome s).1 := settled_settleAttempt ha hr rfl (.inr rfl)
  unfold settleReconfiguration
  rw [get_bind]
  cases s.findLedger a.accelerator with
  | none => exact hfail _
  | some ledger =>
    cases s.plans.find? r.plan with
    | none => exact hfail _
    | some plan =>
      simp only
      rcases replaceLayout s a r plan ledger with ⟨working, err | _⟩
      · simp only
        refine settled_bind (hfail _) fun outcome t ↦ ?_
        refine advances_bind (advances_forM fun _ _ _ _ ↦ advances_ignore keeps_transition)
          fun _ _ _ ↦ ?_
        exact advances_modify_bind keeps_bump (advances_pure ..)
      · exact (settled_commitReconfiguration ha hr).mono fun _ ↦ .inl

lemma settled_loseMutation (ha : s.findAttempt key = some a)
    (hr : s.findReservation a.reservation = some r) :
    SettledAs key a.reservation
      (fun x ↦ reservationIsTerminal r.lifecycle = true → x = r.lifecycle)
      (loseMutation key a detail now outcome s).1 := by
  have hsettled : SettledAs key a.reservation (· = r.lifecycle)
      (settleAttempt key .outcomeUnknown detail now s) := settled_settleAttempt ha hr rfl rfl
  have hfenced (reason : Text) : SettledAs key a.reservation
      (fun x ↦ reservationIsTerminal r.lifecycle = true → x = r.lifecycle)
      (fenceUnknown a.reservation reason now (settleAttempt key .outcomeUnknown detail now s)) := by
    refine hsettled.modifyReservation fun q hq hterminal ↦ ?_
    rw [hq, if_pos hterminal]
    exact hq
  unfold loseMutation
  rw [modify_bind]
  refine settled_bind (m := Procedure.modify _) (hfenced _) fun _ t ↦ ?_
  refine advances_bind (advances_forM fun p _ t _ ↦ ?_) fun _ _ _ ↦ ?_
  · apply advances_get_bind
    apply advances_when
    intro _
    exact advances_ignore keeps_transition
  · exact advances_modify_bind keeps_bump (advances_pure ..)

lemma holdsCapacity_of_terminal (h : reservationIsTerminal r.lifecycle = true) :
    r.holdsCapacity = false := by
  unfold PartitionReservation.holdsCapacity
  cases hr : r.lifecycle <;> simp [hr, reservationIsTerminal, reservationHoldsCapacity] at h ⊢

/-- A refused creation makes its reservation active again only while it holds capacity. -/
lemma settled_reclaimCreation (hs : SettledAs key a.reservation (fun _ ↦ True) s)
    (hlive : reservationIsTerminal r.lifecycle = false) :
    SettledAs key a.reservation (fun x ↦ reservationIsTerminal r.lifecycle = true → x = .failed)
      (reclaimCreation a now s).1 := by
  have hkept : Meets (fun _ ↦ False) (fun _ t ↦ SettledAs key a.reservation (fun _ ↦ True) t)
      (a.partitions.forM fun p ↦ Procedure.ignore (transitionPartition now p .reserved
        "mutation failed without effect")) s :=
    meets_forM (Q := fun _ ↦ SettledAs key a.reservation fun _ ↦ True)
      (fun p _ t ht ↦ ht.of_keeps (advances_ignore keeps_transition)) hs
  have hall : Meets
      (SettledAs key a.reservation fun x ↦ reservationIsTerminal r.lifecycle = true → x = .failed)
      (fun _ ↦ SettledAs key a.reservation fun x ↦
        reservationIsTerminal r.lifecycle = true → x = .failed) (reclaimCreation a now) s := by
    refine meets_bind hkept.of_never fun _ t ht ↦ ?_
    refine ht.modifyReservation fun q _ hterminal ↦ ?_
    rw [hlive] at hterminal
    cases hterminal
  exact hall.fst fun _ _ h ↦ h

lemma settled_failMutation (ha : s.findAttempt key = some a)
    (hr : s.findReservation a.reservation = some r) :
    SettledAs key a.reservation (fun x ↦ reservationIsTerminal r.lifecycle = true → x = .failed)
      (failMutation key a r detail now outcome s).1 := by
  have hsettled : SettledAs key a.reservation (fun _ ↦ True)
      (settleAttempt key .failed detail now s) := settled_settleAttempt ha hr rfl trivial
  have hfailed : SettledAs key a.reservation (· = .failed)
      (settleReservation a.reservation .failed detail now
        (settleAttempt key .failed detail now s)) := hsettled.modifyReservation fun _ _ ↦ rfl
  unfold failMutation
  rw [modify_bind, modify_bind]
  refine settled_bind ?_ fun _ t ↦ ?_
  · cases hcase : a.kind = .createPartition && r.holdsCapacity with
    | false => exact hfailed.mono fun _ h _ ↦ h
    | true =>
      refine settled_reclaimCreation (hfailed.mono fun _ _ ↦ trivial) ?_
      cases hterminal : reservationIsTerminal r.lifecycle with
      | false => rfl
      | true =>
        rw [holdsCapacity_of_terminal hterminal, Bool.and_false] at hcase
        cases hcase
  · refine advances_bind (advances_when fun _ ↦ advances_forM fun _ _ _ _ ↦
      advances_ignore keeps_transition) fun _ _ _ ↦ ?_
    exact advances_modify_bind keeps_bump (advances_pure ..)

/-- What the result of a mutation may make of a terminal reservation. -/
def Resettled (r : PartitionReservation) (v : Verification) (x : ReservationLifecycle) : Prop :=
  reservationIsTerminal r.lifecycle = true → x = r.lifecycle ∨ v.verified = true ∧ x = .committed ∨
    v.verified = false ∧ v.ambiguous = false ∧ x = .failed

/-- A result settles an attempt in flight, and what becomes of its reservation depends on the
verification alone. -/
theorem settled_applyMutationResultLocked (ha : s.findAttempt key = some a)
    (hr : s.findReservation a.reservation = some r) (hflight : a.state.inFlight = true)
    (mutation : Result BackendMutationResult) (observed : Option BackendLayout) (now : UInt64) :
    SettledAs key a.reservation
      (Resettled r (verifyMutation s a r (mutationReport mutation) observed))
      (applyMutationResultLocked key mutation observed now s).1 := by
  have hsettled : attemptSettled a.state = false ∧ a.state ≠ .outcomeUnknown := by
    cases hstate : a.state <;> simp [hstate, AttemptState.inFlight, attemptSettled] at hflight ⊢
  unfold applyMutationResultLocked
  rw [get_bind]
  simp only [ha, hr, hsettled.1, hsettled.2, Bool.false_eq_true, if_false]
  cases s.findAccelerator a.accelerator with
  | none => exact (settled_failAttempt ha hr).mono fun _ h _ ↦ .inl h
  | some accelerator =>
    simp only [settleMutation, get_bind]
    generalize verifyMutation s a r (mutationReport mutation) observed = v
    cases hverified : v.verified with
    | true =>
      rw [if_pos rfl]
      split
      · refine (settled_settleReconfiguration ha hr).mono fun x h _ ↦ ?_
        exact h.elim (fun hx ↦ .inr (.inl ⟨hverified, hx⟩)) .inl
      · exact (settled_commitMutation ha hr).mono fun x hx _ ↦ .inr (.inl ⟨hverified, hx⟩)
    | false =>
      rw [if_neg Bool.false_ne_true]
      cases hambiguous : v.ambiguous with
      | true => exact (settled_loseMutation ha hr).mono fun x hx hterminal ↦ .inl (hx hterminal)
      | false =>
        refine (settled_failMutation ha hr).mono fun x hx hterminal ↦ ?_
        exact .inr (.inr ⟨hverified, hambiguous, hx hterminal⟩)

lemma settled_of_not_inFlight (h : a.state.inFlight = false) :
    attemptSettled a.state = true ∨ a.state = .outcomeUnknown := by
  cases hstate : a.state <;> simp [hstate, AttemptState.inFlight, attemptSettled] at h ⊢

end Results

section Absorbing

/-- A definite result of an attempt in flight finds a reservation that is not terminal yet, or one
that is already what the result makes it. -/
def SettlesLive (s : FabricState) : Op → Prop
  | .applyMutationResult key mutation observed _ => ∀ a r, s.findAttempt key = some a →
      s.findReservation a.reservation = some r → a.state.inFlight = true →
      reservationIsTerminal r.lifecycle = true →
      ((verifyMutation s a r (mutationReport mutation) observed).verified = true →
        r.lifecycle = .committed) ∧
      ((verifyMutation s a r (mutationReport mutation) observed).verified = false →
        (verifyMutation s a r (mutationReport mutation) observed).ambiguous = false →
        r.lifecycle = .failed)
  | .importDurableState _ _ => False
  | _ => True

lemma SettlesLive.withoutImport {op : Op} (h : SettlesLive s op) : op.isImport = false := by
  cases op with
  | importDurableState d now => exact h.elim
  | _ => rfl

/-- Reservations that were terminal before keep their lifecycles. -/
structure TerminalKept (s t : FabricState) : Prop where
  ids : s.ids.next ≤ t.ids.next
  kept : ∀ k r', k < s.ids.next → t.findReservation k = some r' →
    ∃ r, s.findReservation k = some r ∧
      (reservationIsTerminal r.lifecycle = true → r'.lifecycle = r.lifecycle)

instance : Std.Refl TerminalKept := ⟨fun _ ↦ ⟨le_refl _, fun _ r _ hr ↦ ⟨r, hr, fun _ ↦ rfl⟩⟩⟩

instance : IsTrans FabricState TerminalKept where
  trans s t u hst htu := by
    refine ⟨hst.ids.trans htu.ids, fun k r'' hk hr'' ↦ ?_⟩
    obtain ⟨r', hr', h'⟩ := htu.kept k r'' (lt_of_lt_of_le hk hst.ids) hr''
    obtain ⟨r, hr, h⟩ := hst.kept k r' hk hr'
    exact ⟨r, hr, fun hterminal ↦ (h' (h hterminal ▸ hterminal)).trans (h hterminal)⟩

/-- Within a scope that resettles nothing of interest, terminal reservations are kept. -/
lemma Evolves.terminal {π : Scope} {k : PartitionReservationId} {r' : PartitionReservation}
    (h : Evolves π s.ids.next s t) (hk : k < s.ids.next) (hπ : ¬π.resettles k)
    (hr' : t.findReservation k = some r') :
    ∃ r, s.findReservation k = some r ∧
      (reservationIsTerminal r.lifecycle = true → r'.lifecycle = r.lifecycle) := by
  rcases h.tenure.reservations k r' hr' with ⟨⟨hnew, -⟩, -⟩ | ⟨r, hr, hevolves⟩
  · exact absurd hk (not_lt.mpr hnew)
  · refine ⟨r, hr, fun hterminal ↦ ?_⟩
    rcases hevolves.lifecycle with hresettles | hlive | hsame
    · exact absurd hresettles hπ
    · rw [hterminal] at hlive
      cases hlive
    · exact hsame

/-- A result does nothing, or its attempt is in flight under a known reservation. -/
lemma applyMutationResultLocked_idle (key : PartitionAttemptId)
    (mutation : Result BackendMutationResult) (observed : Option BackendLayout) (now : UInt64)
    (s : FabricState) :
    (applyMutationResultLocked key mutation observed now s).1 = s ∨
      ∃ a r, s.findAttempt key = some a ∧ s.findReservation a.reservation = some r ∧
        a.state.inFlight = true := by
  cases ha : s.findAttempt key with
  | none =>
    refine .inl ?_
    unfold applyMutationResultLocked
    rw [get_bind]
    simp only [ha]
    rfl
  | some a =>
    cases hflight : a.state.inFlight with
    | false => exact .inl (applyMutationResult_settled ha (settled_of_not_inFlight hflight) ..)
    | true =>
      cases hr : s.findReservation a.reservation with
      | none =>
        refine .inl ?_
        unfold applyMutationResultLocked
        rw [get_bind]
        simp only [ha, hr]
        rfl
      | some r => exact .inr ⟨a, r, rfl, hr, hflight⟩

lemma terminalKept_applyMutationResult {mutation : Result BackendMutationResult}
    {observed : Option BackendLayout}
    (hop : SettlesLive s (.applyMutationResult key mutation observed now)) :
    TerminalKept s ((Op.applyMutationResult key mutation observed now).step s) := by
  refine ⟨(evolves_step rfl s).ids, fun k r' hk hr' ↦ ?_⟩
  change (applyMutationResultLocked key mutation observed now s).1.findReservation k = some r' at hr'
  rcases applyMutationResultLocked_idle key mutation observed now s with
    hidle | ⟨a, r, ha, hr, hflight⟩
  · rw [hidle] at hr'
    exact ⟨r', hr', fun _ ↦ rfl⟩
  · by_cases hk' : k = a.reservation
    · -- the reservation of the attempt: what the verification makes of it, it already is
      subst hk'
      obtain ⟨q, hq, hresettled⟩ :=
        (settled_applyMutationResultLocked ha hr hflight mutation observed now).reservation
      obtain rfl := Option.some.inj (hq.symm.trans hr')
      refine ⟨r, hr, fun hterminal ↦ ?_⟩
      obtain ⟨hcommitted, hfailed⟩ := hop a r ha hr hflight hterminal
      rcases hresettled hterminal with h | ⟨hv, h⟩ | ⟨hv, hambiguous, h⟩
      · exact h
      · exact h.trans (hcommitted hv).symm
      · exact h.trans (hfailed hv hambiguous).symm
    · let π : Scope :=
        { natives := True, activates := True, resettles := fun k ↦ k = a.reservation }
      have hwithin : (Op.applyMutationResult key mutation observed now).Within π s := by
        refine ⟨trivial, trivial, fun a' ha' ↦ ?_⟩
        rw [Option.some.inj (ha'.symm.trans ha)]
      have hlenient : π.Lenient :=
        ⟨fun _ ↦ trivial, fun _ _ _ _ ↦ trivial, fun _ ↦ trivial, trivial⟩
      exact (evolves_within hwithin (hlenient.minds s _)).terminal hk hk' hr'

lemma terminalKept_step {op : Op} (hop : SettlesLive s op) : TerminalKept s (op.step s) := by
  cases op with
  | applyMutationResult key mutation observed now => exact terminalKept_applyMutationResult hop
  | importDurableState d now => exact hop.elim
  | _ => exact ⟨(evolves_step rfl s).ids, fun k r' hk hr' ↦ (evolves_step rfl s).terminal hk id hr'⟩

/-- A terminal reservation keeps its lifecycle as long as no definite result arrives for an attempt
of it that is still in flight. -/
theorem terminal_reservation_absorbing (hs : fabric.Reachable SettlesLive s)
    {k : PartitionReservationId} {r r' : PartitionReservation}
    (hr : s.findReservation k = some r) (hterminal : reservationIsTerminal r.lifecycle = true)
    (ht : fabric.Reaches SettlesLive s t) (hr' : t.findReservation k = some r') :
    r'.lifecycle = r.lifecycle := by
  have hindexed : Indexed s :=
    indexed_of_reachable (hs.mono fun _ _ hop ↦ hop.withoutImport)
  have hkept : TerminalKept s t :=
    (ht.related (I := fun _ ↦ True) (fun _ _ _ _ ↦ trivial)
      (fun _ _ _ hop ↦ terminalKept_step hop) trivial).2
  obtain ⟨q, hq, h⟩ := hkept.kept k r' (hindexed.reservations k r hr).2 hr'
  obtain rfl := Option.some.inj (hq.symm.trans hr)
  exact h hterminal

/-- A released reservation stays released when its device is reconciled. -/
theorem terminal_reservation_absorbing_released :
    let s := fabric.run (Sample.reserved ++ [.releaseReservation 3 [] 4]) Sample.opened
    let t := (Op.reconcile 1 (Sample.layout []) 5).step s
    (s.findReservation 3).map PartitionReservation.lifecycle = some .released ∧
      ∀ r', t.findReservation 3 = some r' → r'.lifecycle = .released := by
  intro s t
  have hs : fabric.Reachable SettlesLive s :=
    .run (.initial ⟨_, _, rfl⟩) ⟨trivial, trivial, trivial, trivial, trivial⟩
  have hreleased : (s.findReservation 3).map PartitionReservation.lifecycle = some .released := by
    decide +kernel
  refine ⟨hreleased, fun r' hr' ↦ ?_⟩
  clear_value s
  obtain ⟨r, hr, hlifecycle⟩ := Option.map_eq_some_iff.mp hreleased
  have hterminal : reservationIsTerminal r.lifecycle = true := by
    rw [hlifecycle]
    rfl
  have ht : fabric.Reaches SettlesLive s t :=
    .step (Op.reconcile 1 (Sample.layout []) 5) .refl trivial
  exact (terminal_reservation_absorbing hs hr hterminal ht hr').trans hlifecycle

/-- A reservation is fenced while its creation is in flight; the late result commits it. -/
theorem fenced_reservation_committed :
    ¬∀ s t k r r', fabric.Reachable withoutImports s → s.findReservation k = some r →
      reservationIsTerminal r.lifecycle = true → fabric.Reaches withoutImports s t →
      t.findReservation k = some r' → r'.lifecycle = r.lifecycle := by
  intro h
  let s := fabric.run (Sample.dispatched ++ [.fenceReservation 3 [] 5]) Sample.opened
  let t := Sample.lateResult.step s
  have hs : fabric.Reachable withoutImports s := .run (.initial ⟨_, _, rfl⟩) (by decide)
  have hfenced : (s.findReservation 3).map PartitionReservation.lifecycle = some .fenced := by
    decide +kernel
  have hcommitted : (t.findReservation 3).map PartitionReservation.lifecycle = some .committed := by
    decide +kernel
  clear_value s
  have ht : fabric.Reaches withoutImports s t := .step Sample.lateResult .refl rfl
  obtain ⟨r, hr, hlifecycle⟩ := Option.map_eq_some_iff.mp hfenced
  obtain ⟨r', hr', hlifecycle'⟩ := Option.map_eq_some_iff.mp hcommitted
  have hterminal : reservationIsTerminal r.lifecycle = true := by
    rw [hlifecycle]
    rfl
  have hsame := h s t 3 r r' hs hr hterminal ht hr'
  rw [hlifecycle, hlifecycle'] at hsame
  cases hsame

end Absorbing

end PartitionFabric

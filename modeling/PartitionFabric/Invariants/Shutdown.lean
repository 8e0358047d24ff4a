import PartitionFabric.Invariants.Absorbing
import PartitionFabric.Invariants.Assignments
import PartitionFabric.Invariants.ReconcileValidity
import PartitionFabric.Invariants.Restart

/-!
Closed instances: everything pending was settled by the close, no operation but a reopening or
an import makes anything pending again, and what a closed instance may still grant.
-/

namespace PartitionFabric

open Procedure

variable {s t : FabricState} {now : UInt64}

/-- Every reservation is terminal and no attempt is in flight. -/
structure Resting (s : FabricState) : Prop where
  reservations : ∀ k r, s.findReservation k = some r → reservationIsTerminal r.lifecycle = true
  attempts : ∀ k a, s.findAttempt k = some a → a.state.inFlight = false

section Resting

variable {π : Scope} {floor : UInt64}

/-- What is at rest stays at rest where nothing is reserved, settled anew or dispatched. -/
lemma Resting.evolve (hs : Resting s) (h : Evolves π floor s t) (hreserves : ¬π.reserves)
    (hresettles : ∀ k, ¬π.resettles k) (hreg : ∀ a, ¬π.registers a) : Resting t := by
  refine ⟨fun k r' hr' ↦ ?_, fun k a' ha' ↦ ?_⟩
  · rcases h.tenure.reservations k r' hr' with ⟨⟨-, hnew⟩, -⟩ | ⟨r, hr, hevolves⟩
    · exact absurd hnew hreserves
    · have hterminal := hs.reservations k r hr
      rcases hevolves.lifecycle with hresettle | hlive | hsame
      · exact absurd hresettle (hresettles k)
      · rw [hterminal] at hlive
        cases hlive
      · rwa [hsame]
  · obtain ⟨a, ha, hevolves⟩ := h.attempts k a' ha'
    cases hflight : a'.state.inFlight with
    | false => rfl
    | true =>
      obtain rfl := hevolves.flight hflight
      rcases ha with hold | ⟨-, hnew⟩
      · exact (hs.attempts k a' hold).symm.trans hflight |>.symm
      · exact absurd hnew (hreg a')

lemma Conservative.resting (h : Conservative s) : Resting s := by
  refine ⟨h.reservations, fun k a ha ↦ ?_⟩
  rcases h.attempts k a ha with hsettled | hunknown
  · cases hstate : a.state <;> simp_all [attemptSettled, AttemptState.inFlight]
  · rw [hunknown]
    rfl

/-- What an operation may do while everything is at rest. -/
def Op.resting (op : Op) : Scope :=
  { op.scope with
    registers := fun _ ↦ False
    plans := fun _ ↦ False
    reserves := False
    resettles := fun _ ↦ False }

/-- A procedure that fails and changes nothing. -/
def Refuses {α : Type} (m : FabricM α) (s : FabricState) : Prop := ∃ e, m s = (s, .error e)

lemma Refuses.bind {α β : Type} {m : FabricM α} {f : α → FabricM β} (h : Refuses m s) :
    Refuses (m >>= f) s := by
  obtain ⟨e, he⟩ := h
  exact ⟨e, bind_error he⟩

lemma Refuses.step {α : Type} {m : FabricM α} (h : Refuses m s) :
    (Procedure.ignore m s).1 = s := by
  obtain ⟨e, he⟩ := h
  unfold Procedure.ignore
  rw [he]

lemma refuses_checkOpen (h : s.closed = true) : Refuses checkOpen s := ⟨_, checkOpen_closed h⟩

lemma refuses_plan {request : PartitionRequest} (h : s.closed = true) :
    Refuses (plan request now) s := (refuses_checkOpen h).bind

lemma refuses_reserveDestruction {p : PartitionId} {stale : Text} (h : s.closed = true) :
    Refuses (reserveDestruction p now stale) s := (refuses_checkOpen h).bind

/-- A closed instance at rest refuses or ignores everything that would make work pending. -/
lemma evolves_resting {op : Op} (hclosed : s.closed = true) (hs : Resting s)
    (hop : op.isImport = false) : Evolves op.resting s.ids.next s (op.step s) := by
  have hrefused (h : op.step s = s) : Evolves op.resting s.ids.next s (op.step s) := by
    rw [h]
    exact refl_of _ s
  have hopen : Refuses checkOpen s := refuses_checkOpen hclosed
  cases op with
  | plan request now => exact hrefused (refuses_plan hclosed).step
  | planOn id request now => exact hrefused (refuses_plan hclosed).bind.step
  | planReconfiguration id desired context now => exact hrefused hopen.bind.step
  | reserve planId now => exact hrefused hopen.bind.step
  | execute id now => exact hrefused hopen.bind.step
  | destroyPartition p now => exact hrefused (refuses_reserveDestruction hclosed).bind.step
  | createDestructionReservation p now =>
    exact hrefused (refuses_reserveDestruction hclosed).bind.step
  | executeReconfiguration planId now => exact hrefused hopen.bind.step
  | registerAttempt id kind worker boot now =>
    refine advances_ignore (advances_registerAttempt (le_refl _) (fun _ _ ↦ trivial)
      fun r hr hactive _ _ ↦ ?_)
    have hterminal := hs.reservations id r hr
    rw [hactive] at hterminal
    cases hterminal
  | applyMutationResult key mutation observed now =>
    rcases applyMutationResultLocked_idle key mutation observed now s with
      hidle | ⟨a, r, ha, -, hflight⟩
    · exact hrefused hidle
    · rw [hs.attempts key a ha] at hflight
      cases hflight
  | importDurableState durable now => cases hop
  | _ => exact evolves_step hop s

end Resting

section Closing

/-- A reservation is settled by the close, or was before. -/
lemma terminal_of_holdsCapacity {r : PartitionReservation} (h : r.holdsCapacity = false) :
    reservationIsTerminal r.lifecycle = true := by
  unfold PartitionReservation.holdsCapacity reservationHoldsCapacity at h
  cases hlifecycle : r.lifecycle <;> rw [hlifecycle] at h <;> first | rfl | cases h

lemma meets_closeReservation {key : PartitionReservationId} {rest : List PartitionReservationId}
    (h : ∀ k r, s.findReservation k = some r → k ∈ key :: rest ∨
      reservationIsTerminal r.lifecycle = true) :
    Meets (fun _ ↦ False) (fun _ t ↦ ∀ k r, t.findReservation k = some r → k ∈ rest ∨
      reservationIsTerminal r.lifecycle = true) (closeReservation now key) s := by
  apply meets_get_bind
  cases hkey : s.findReservation key with
  | none =>
    refine meets_pure fun k r hr ↦ ?_
    rcases h k r hr with hmem | hterminal
    · rcases List.mem_cons.mp hmem with rfl | hrest
      · rw [hkey] at hr
        cases hr
      · exact Or.inl hrest
    · exact Or.inr hterminal
  | some reservation =>
    apply meets_when
    · intro _
      have hledger : Advances (Keeps FabricState.reservations) (onLedger reservation.accelerator
          (CapacityLedger.releaseReserved reservation.resources)) s := by
        unfold Advances onLedger
        cases s.findLedger reservation.accelerator with
        | none => rfl
        | some ledger => rfl
      change ∀ k r, (settleReservation key .released
        "runtime closed before the reservation was committed" now
        (onLedger reservation.accelerator
          (CapacityLedger.releaseReserved reservation.resources) s).1).findReservation k = some r → _
      intro k r hr
      rw [FabricState.findReservation, settleReservation, FabricState.modifyReservation,
        KeyedMap.find?_modify] at hr
      split at hr
      · obtain ⟨r₀, -, rfl⟩ := Option.map_eq_some_iff.mp hr
        exact Or.inr rfl
      · rename_i hne
        rw [show (onLedger reservation.accelerator (CapacityLedger.releaseReserved
          reservation.resources) s).1.reservations = s.reservations from hledger] at hr
        exact (h k r hr).imp_left fun hmem ↦ (List.mem_cons.mp hmem).resolve_left hne
    · intro hidle k r hr
      rcases h k r hr with hmem | hterminal
      · rcases List.mem_cons.mp hmem with rfl | hrest
        · obtain rfl := Option.some.inj (hkey.symm.trans hr)
          exact Or.inr (terminal_of_holdsCapacity hidle)
        · exact Or.inl hrest
      · exact Or.inr hterminal

/-- What retiring the unverified partitions of a closing instance leaves alone. -/
lemma meets_closePartition {f : FabricState → Prop} {key : PartitionId}
    (hf : ∀ t u : FabricState, u.reservations = t.reservations → u.attempts = t.attempts → f t → f u)
    (hs : f s) : Meets (fun _ ↦ False) (fun _ t ↦ f t) (closePartition now key) s := by
  apply meets_get_bind
  cases s.findPartition key with
  | none => exact meets_pure hs
  | some record =>
    apply meets_when
    · intro _
      unfold releaseHeld
      cases record.heldBucket with
      | none => exact hf s _ rfl rfl hs
      | some bucket =>
        have hledger : Advances (Keeps fun t : FabricState ↦ (t.reservations, t.attempts))
            (onLedger record.accelerator (CapacityLedger.moveBetween bucket.raw
              CapacityBucket.free.raw record.resources)) s := by
          unfold Advances onLedger
          cases s.findLedger record.accelerator with
          | none => rfl
          | some ledger => rfl
        obtain ⟨hreservations, hattempts⟩ := Prod.mk.inj hledger
        exact hf s _ hreservations hattempts hs
    · exact fun _ ↦ hs

lemma closeAttempt_rests {key k : PartitionAttemptId} {rest : List PartitionAttemptId}
    {a : PartitionAttempt}
    (h : ∀ k a, s.findAttempt k = some a → k ∈ key :: rest ∨ a.state.inFlight = false)
    (ha : (closeAttempt now key s).findAttempt k = some a) :
    k ∈ rest ∨ a.state.inFlight = false := by
  rw [FabricState.findAttempt, closeAttempt, FabricState.modifyAttempt, KeyedMap.find?_modify] at ha
  split at ha
  · obtain ⟨a₀, -, rfl⟩ := Option.map_eq_some_iff.mp ha
    right
    split
    · rfl
    · rename_i hidle
      simpa using hidle
  · rename_i hne
    exact (h k a ha).imp_left fun hmem ↦ (List.mem_cons.mp hmem).resolve_left hne

lemma Resting.of_eq (hs : Resting s) (hreservations : t.reservations = s.reservations)
    (hattempts : t.attempts = s.attempts) : Resting t := by
  refine ⟨fun k r hr ↦ hs.reservations k r ?_, fun k a ha ↦ hs.attempts k a ?_⟩
  · rwa [FabricState.findReservation, ← hreservations]
  · rwa [FabricState.findAttempt, ← hattempts]

lemma Resting.bump (hs : Resting s) : Resting s.bumpStateGeneration := by
  obtain ⟨generation, hbump⟩ := bumpStateGeneration_eq s
  rw [hbump]
  exact hs.of_eq rfl rfl

lemma attempts_closeReservation {key : PartitionReservationId} :
    Advances (Keeps FabricState.attempts) (closeReservation now key) s := by
  refine advances_get_bind ?_
  cases s.findReservation key with
  | none => exact advances_pure _ _
  | some reservation =>
    refine advances_when fun _ ↦ advances_bind (advances_ignore ?_) fun _ _ _ ↦ advances_modify rfl
    unfold Advances onLedger
    cases s.findLedger reservation.accelerator with
    | none => rfl
    | some ledger => rfl

/-- What is left to settle before the attempts of the keys: the attempts, which are those of the
instance that closes. -/
structure Settling (s : FabricState) (keys : List PartitionReservationId) (t : FabricState) :
    Prop where
  reservations : ∀ k r, t.findReservation k = some r →
    k ∈ keys ∨ reservationIsTerminal r.lifecycle = true
  attempts : t.attempts = s.attempts

lemma Settling.of_eq {keys : List PartitionReservationId} {u : FabricState}
    (h : Settling s keys t) (hreservations : u.reservations = t.reservations)
    (hattempts : u.attempts = t.attempts) : Settling s keys u := by
  refine ⟨fun k r hr ↦ h.reservations k r ?_, hattempts.trans h.attempts⟩
  rwa [FabricState.findReservation, ← hreservations]

lemma settling_reservations : Meets (fun _ ↦ False) (fun _ t ↦ Settling s [] t)
    (s.reservations.keys.forM (closeReservation now)) s := by
  refine meets_forM (Q := fun keys t ↦ Settling s keys t) (fun key keys t ht ↦ ?_) ?_
  · refine (meets_closeReservation ht.reservations).mono attempts_closeReservation ?_
    exact fun _ u hreservations hattempts ↦ ⟨hreservations, Eq.trans hattempts ht.attempts⟩
  · exact ⟨fun k r hr ↦ Or.inl (KeyedMap.mem_keys.mpr ⟨r, hr⟩), rfl⟩

lemma settling_partitions {keys : List PartitionId} (h : Settling s [] t) :
    Meets (fun _ ↦ False) (fun _ u ↦ Settling s [] u) (keys.forM (closePartition now)) t :=
  meets_forM (Q := fun _ u ↦ Settling s [] u)
    (fun _ _ _ hu ↦ meets_closePartition (fun _ _ hr ha hu ↦ hu.of_eq hr ha) hu) h

lemma resting_attempts (h : Settling s [] t) : Meets (fun _ ↦ False) (fun _ u ↦ Resting u)
    (s.attempts.keys.forM fun key ↦ Procedure.modify (closeAttempt now key) : FabricM Unit) t := by
  refine (meets_forM (Q := fun keys u ↦ u.reservations = t.reservations ∧
    ∀ k a, u.findAttempt k = some a → k ∈ keys ∨ a.state.inFlight = false)
    (fun key keys u hu ↦ ?_) ⟨rfl, fun k a ha ↦ ?_⟩).mono (R := fun _ _ ↦ True) trivial ?_
  · exact ⟨hu.1, fun k a ha ↦ closeAttempt_rests hu.2 ha⟩
  · rw [FabricState.findAttempt, h.attempts] at ha
    exact Or.inl (KeyedMap.mem_keys.mpr ⟨a, ha⟩)
  · rintro - u ⟨hreservations, hattempts⟩ -
    refine ⟨fun k r hr ↦ ?_, fun k a ha ↦ (hattempts k a ha).resolve_left (by simp)⟩
    rw [FabricState.findReservation, hreservations] at hr
    exact (h.reservations k r hr).resolve_left (by simp)

lemma resting_workers {keys : List WorkerId} (h : Resting s) :
    Meets (fun _ ↦ False) (fun _ t ↦ Resting t) (keys.forM fun key ↦ Procedure.modify fun s ↦
      { s with workers := s.workers.modify key fun w ↦ { w with alive := false } } :
        FabricM Unit) s :=
  meets_forM (Q := fun _ t ↦ Resting t) (fun _ _ _ ht ↦ ht.of_eq rfl rfl) h

/-- A close settles everything that is pending. -/
lemma resting_close (hopen : s.closed = false) : Resting (close now s).1 := by
  suffices h : Meets Resting (fun _ t ↦ Resting t) (close now) s from h.fst fun _ _ h ↦ h
  have hwork : (!s.closed) = true := by
    rw [hopen]
    rfl
  refine meets_get_bind (meets_when (fun _ ↦ ?_) fun hclosed ↦ by rw [hwork] at hclosed; cases hclosed)
  refine meets_bind settling_reservations.of_never fun _ t ht ↦ ?_
  refine meets_bind (settling_partitions ht).of_never fun _ u hu ↦ ?_
  refine meets_bind (resting_attempts hu).of_never fun _ v hv ↦ ?_
  refine meets_bind (resting_workers hv).of_never fun _ w hw ↦ ?_
  have hclosed : Resting
      ({ w with closed := true, closedAtMs := now } : FabricState).bumpStateGeneration :=
    Resting.bump (hw.of_eq rfl rfl)
  refine meets_modify_bind (meets_modify_bind (meets_get_bind ?_))
  split
  · exact meets_pure hclosed
  · exact hclosed

lemma closed_reopen : (reopen now s).1.closed = false := by
  change FabricState.closed (FabricState.bumpStateGeneration _) = false
  obtain ⟨generation, hbump⟩ := bumpStateGeneration_eq _
  rw [hbump]

/-- A step from a state whose pending work is settled once it is closed leads to such a state. -/
lemma closedRests_step {op : Op} (hs : s.closed = true → Resting s)
    (hclosed : (op.step s).closed = true) : Resting (op.step s) := by
  have hkept (hop : op.isImport = false) (hsame : (op.step s).closed = s.closed) :
      Resting (op.step s) := by
    rw [hsame] at hclosed
    exact (hs hclosed).evolve (evolves_resting hclosed (hs hclosed) hop) id (fun _ ↦ id) fun _ ↦ id
  cases op with
  | close now =>
    cases hopen : s.closed with
    | false => exact resting_close hopen
    | true =>
      exact (hs hopen).evolve (evolves_resting hopen (hs hopen) rfl) id (fun _ ↦ id) fun _ ↦ id
  | reopen now =>
    rw [show (Op.reopen now).step s = (reopen now s).1 from rfl, closed_reopen] at hclosed
    cases hclosed
  | importDurableState durable now =>
    cases hvalid : durable.validateImport s.stateGeneration with
    | error e =>
      have hsame : (Op.importDurableState durable now).step s = s :=
        Refuses.step ⟨e, import_refused hvalid⟩
      rw [hsame] at hclosed ⊢
      exact hs hclosed
    | ok u => exact (conservative_validated hvalid).resting
  | _ => exact hkept rfl ((evolves_step rfl s).tenure.closed.resolve_left id)

/-- In every reachable closed state everything is at rest. -/
theorem resting_of_closed (hs : fabric.Reachable anyOp s) (hclosed : s.closed = true) :
    Resting s := by
  refine hs.invariant (I := fun s ↦ s.closed = true → Resting s) ?_
    (fun s op hrests _ hclosed ↦ closedRests_step hrests hclosed) hclosed
  rintro _ ⟨options, now, rfl⟩ hopened
  cases hopened

end Closing

end PartitionFabric

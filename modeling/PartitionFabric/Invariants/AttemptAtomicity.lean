import PartitionFabric.Invariants.Atomicity
import PartitionFabric.Invariants.Reconfiguring

/-!
The registration of an attempt moves its partitions one after another and is validated last: which
failures leave the registry as it was.
-/

namespace PartitionFabric

open Procedure

variable {s t u : FabricState} {target : PartitionState} {r : PartitionRecord}
  {l l' : CapacityLedger} {now : UInt64} {reason : Text} {p : PartitionId}

section Entry

/-- A partition of a mutation and, for a creation, the generation it is expected in. -/
abbrev Entry := PartitionId × Option PartitionGeneration

def PartitionRecord.ExpectedBy (r : PartitionRecord) (entry : Entry) : Bool :=
  entry.2.all (r.generation = ·)

/-- The record of an entry is written in a new state: it is the expected one, the transition is
allowed and its capacity can follow. -/
structure Starts (target : PartitionState) (s : FabricState) (entry : Entry) (r : PartitionRecord)
    (l : CapacityLedger) : Prop where
  record : s.findPartition entry.1 = some r
  expected : r.ExpectedBy entry = true
  allowed : Allowed r.state target
  other : r.state ≠ target
  ledger : s.findLedger r.accelerator = some l
  funded : r.Funded target l

/-- One step of the loop over the partitions of a mutation. -/
def beginEntry (target : PartitionState) (reason : Text) (now : UInt64) (entry : Entry) :
    FabricM Unit := do
  let s ← Procedure.get
  match s.findPartition entry.1 with
  | none =>
    Procedure.throw (makeError .stalePartitionGeneration
      "reserved partition identity is no longer known" (decimal entry.1.toNat))
  | some record => do
    Procedure.require (record.ExpectedBy entry)
      (makeError .stalePartitionGeneration "reserved partition generation is no longer current"
        (decimal entry.1.toNat))
    transitionPartition now entry.1 target reason

/-- What the step writes for an entry that starts. -/
structure Started (target : PartitionState) (s t : FabricState) (entry : Entry)
    (r : PartitionRecord) (l : CapacityLedger) : Prop where
  partition : (t.findPartition entry.1).map PartitionRecord.state = some target
  others : ∀ p, p ≠ entry.1 → t.findPartition p = s.findPartition p
  ledgers : ∃ l' held, CapacityFollows target r l l' held ∧
    t.ledgers = s.ledgers.insert r.accelerator l'
  relocates : Relocates s t

lemma CapacityFollows.unique {m : CapacityLedger} {held held' : Option CapacityBucket}
    (h : CapacityFollows target r l l' held) (hm : CapacityFollows target r l m held') :
    l' = m := by
  -- a move from a bucket to itself leaves the ledger alone
  have hstill {m : CapacityLedger} (hsame : bucketForState target = r.heldBucket)
      (hmove : CapacityLedger.moveBetween (r.heldBucket.getD .free).raw
        ((bucketForState target).getD .free).raw r.resources l = (m, success)) : l = m := by
    rw [hsame] at hmove
    unfold CapacityLedger.moveBetween at hmove
    rw [CapacityBucket.ofRaw?_raw] at hmove
    simp only [if_true] at hmove
    exact (Prod.mk.inj hmove).1
  rcases h with ⟨hkeep, rfl, -⟩ | ⟨hleaves, -, hmove⟩
  · rcases hm with ⟨-, rfl, -⟩ | ⟨hleaves, -, hmove⟩
    · rfl
    · rcases hkeep with hkeep | hsame
      · rw [hkeep] at hleaves
        cases hleaves
      · exact hstill hsame hmove
  · rcases hm with ⟨hkeep, rfl, -⟩ | ⟨-, -, hmove'⟩
    · rcases hkeep with hkeep | hsame
      · rw [hkeep] at hleaves
        cases hleaves
      · exact (hstill hsame hmove).symm
    · exact (Prod.mk.inj (hmove.symm.trans hmove')).1

variable {entry : Entry}

/-- A transition to a transient state is not repeated. -/
lemma not_allowed_self (htransient : isTransientState target = true) : ¬Allowed target target := by
  intro h
  unfold Allowed validateTransition isIdempotentTransition at h
  rw [htransient] at h
  simp [failure, success] at h

/-- A transition to a transient state that does not start changes nothing and fails. -/
lemma transition_not_started (htransient : isTransientState target = true)
    (hr : s.findPartition p = some r)
    (h : ∀ l, s.findLedger r.accelerator = some l → Allowed r.state target → r.state ≠ target →
      ¬r.Funded target l) (now : UInt64) (reason : Text) :
    ∃ e, transitionPartition now p target reason s = (s, .error e) := by
  unfold transitionPartition
  rw [hr]
  simp only
  cases hallowed : validateTransition r.state target with
  | error e => exact ⟨_, rfl⟩
  | ok v =>
      have hne : r.state ≠ target := by
        rintro hsame
        rw [hsame] at hallowed
        exact not_allowed_self htransient hallowed
      simp only
      rw [if_neg hne]
      cases hl : s.findLedger r.accelerator with
      | none => exact ⟨_, rfl⟩
      | some l =>
          simp only
          rcases applyCapacityTransition_cases target l r with ⟨e, hrun⟩ | ⟨l', held, hfollows, -⟩
          · rw [hrun]
            simp only
            rw [KeyedMap.insert_eq_self hl, KeyedMap.insert_eq_self hr]
            exact ⟨e, rfl⟩
          · exact absurd hfollows.funded (h l hl hallowed hne)

/-- An entry starts and its step succeeds exactly when the record is coherent in the new state and
the ledger closes; an entry that does not start fails and changes nothing. -/
lemma beginEntry_cases (htransient : isTransientState target = true) (reason : Text) (now : UInt64)
    (entry : Entry) (s : FabricState) :
    (∃ r l, Starts target s entry r l ∧ Started target s (beginEntry target reason now entry s).1
        entry r l ∧ ((beginEntry target reason now entry s).2 = success ↔
          (r.restated target).Coherent ∧ l.Balanced)) ∨
      (∀ r l, ¬Starts target s entry r l) ∧
        ∃ e, beginEntry target reason now entry s = (s, .error e) := by
  unfold beginEntry
  rw [get_bind]
  cases hr : s.findPartition entry.1 with
  | none => exact Or.inr ⟨fun r l h ↦ (by cases hr.symm.trans h.record), _, rfl⟩
  | some r =>
      simp only [require_bind]
      cases hexpected : r.ExpectedBy entry with
      | false =>
          refine Or.inr ⟨fun r' l h ↦ ?_, _, rfl⟩
          obtain rfl := Option.some.inj (hr.symm.trans h.record)
          cases hexpected.symm.trans h.expected
      | true =>
          rw [if_pos rfl]
          by_cases hstarts : ∃ l, Starts target s entry r l
          · obtain ⟨l, h⟩ := hstarts
            obtain ⟨hmoved, hresult⟩ :=
              transitionPartition_moved now reason hr h.allowed h.other h.ledger h.funded
            refine Or.inl ⟨r, l, h, ?_, hresult⟩
            rcases transitionPartition_cases now entry.1 target reason s with
              hsame | ⟨r', m, m', held, hr', -, -, hm, hfollows, hrun⟩
            · rw [hsame, hr] at hmoved
              exact absurd (Option.some.inj hmoved) h.other
            · obtain rfl := Option.some.inj (hr.symm.trans hr')
              obtain rfl := Option.some.inj (h.ledger.symm.trans hm)
              refine ⟨hmoved, fun p hp ↦ ?_, ⟨m', held, hfollows, ?_⟩, relocates_transition⟩
              · rw [hrun]
                exact KeyedMap.find?_insert_of_ne _ _ hp
              · rw [hrun]
                rfl
          · refine Or.inr ⟨fun r' l h ↦ ?_, ?_⟩
            · obtain rfl := Option.some.inj (hr.symm.trans h.record)
              exact hstarts ⟨l, h⟩
            · exact transition_not_started htransient hr (fun l hl hallowed hne hfunded ↦
                hstarts ⟨l, hr, hexpected, hallowed, hne, hl, hfunded⟩) now reason

end Entry

section Loop

/-- The entries are written one after another: each record is the expected one, may be moved, its
capacity follows it, it is coherent in the new state, and its ledger closes. -/
def Begins (target : PartitionState) (s : FabricState) :
    List Entry → KeyedMap AcceleratorId CapacityLedger → Prop
  | [], _ => True
  | entry :: rest, ledgers => ∃ r l l' held, s.findPartition entry.1 = some r ∧
      r.ExpectedBy entry = true ∧ Allowed r.state target ∧
      ledgers.find? r.accelerator = some l ∧ CapacityFollows target r l l' held ∧
      (r.restated target).Coherent ∧ l.Balanced ∧
      Begins target s rest (ledgers.insert r.accelerator l')

variable {entries : List Entry} {ledgers : KeyedMap AcceleratorId CapacityLedger}

lemma begins_congr (h : ∀ entry ∈ entries, t.findPartition entry.1 = s.findPartition entry.1) :
    Begins target t entries ledgers ↔ Begins target s entries ledgers := by
  induction entries generalizing ledgers with
  | nil => exact Iff.rfl
  | cons entry rest ih =>
      have hrest (ledgers : KeyedMap AcceleratorId CapacityLedger) :
          Begins target t rest ledgers ↔ Begins target s rest ledgers :=
        ih fun entry hentry ↦ h entry (List.mem_cons_of_mem _ hentry)
      unfold Begins
      rw [h entry List.mem_cons_self]
      simp only [hrest]

/-- An entry that is written was in another state before. -/
lemma Begins.other (htransient : isTransientState target = true)
    (h : Begins target s entries ledgers) {entry : Entry} (hentry : entry ∈ entries) :
    (s.findPartition entry.1).map PartitionRecord.state ≠ some target := by
  induction entries generalizing ledgers with
  | nil => cases hentry
  | cons first rest ih =>
      obtain ⟨r, l, l', held, hr, -, hallowed, -, -, -, -, hrest⟩ := h
      rcases List.mem_cons.mp hentry with rfl | hentry
      · rw [hr, Option.map_some]
        intro hstate
        rw [Option.some.inj hstate] at hallowed
        exact not_allowed_self htransient hallowed
      · exact ih hrest hentry

/-- The loop succeeds exactly when no partition is listed twice and every entry is written. -/
lemma forM_beginEntry_iff (htransient : isTransientState target = true) (reason : Text)
    (now : UInt64) (entries : List Entry) (s : FabricState) :
    (entries.forM (beginEntry target reason now) s).2 = success ↔
      (entries.map Prod.fst).Nodup ∧ Begins target s entries s.ledgers := by
  induction entries generalizing s with
  | nil => exact iff_of_true rfl ⟨List.nodup_nil, trivial⟩
  | cons entry rest ih =>
      have hcons : (entry :: rest).forM (beginEntry target reason now) s =
          (beginEntry target reason now entry >>= fun _ ↦
            rest.forM (beginEntry target reason now)) s := rfl
      rw [hcons, List.map_cons, List.nodup_cons]
      rcases beginEntry_cases htransient reason now entry s with
        ⟨r, l, hstarts, hstarted, hresult⟩ | ⟨hnever, e, hrun⟩
      · cases hrun : beginEntry target reason now entry s with
        | mk t result =>
            rw [hrun] at hstarted hresult
            -- what follows the entry does not see the record that was written
            have hrest (hmem : entry.1 ∉ rest.map Prod.fst)
                (ledgers : KeyedMap AcceleratorId CapacityLedger) :
                Begins target t rest ledgers ↔ Begins target s rest ledgers :=
              begins_congr fun other hother ↦ hstarted.others other.1 fun hsame ↦
                hmem (hsame ▸ List.mem_map_of_mem hother)
            obtain ⟨m, held, hfollows, hledgers⟩ := hstarted.ledgers
            cases result with
            | error e =>
                rw [bind_error hrun]
                refine iff_of_false (fun h ↦ by cases h) ?_
                rintro ⟨-, r', l', -, -, hr', -, -, hl', -, hcoherent, hbalanced, -⟩
                obtain rfl := Option.some.inj (hstarts.record.symm.trans hr')
                obtain rfl := Option.some.inj (hstarts.ledger.symm.trans hl')
                cases hresult.mpr ⟨hcoherent, hbalanced⟩
            | ok u =>
                rw [bind_ok hrun, ih t]
                obtain ⟨hcoherent, hbalanced⟩ := hresult.mp rfl
                constructor
                · rintro ⟨hnodup, hbegins⟩
                  have hmem : entry.1 ∉ rest.map Prod.fst := by
                    intro hmem
                    obtain ⟨other, hother, hsame⟩ := List.mem_map.mp hmem
                    refine hbegins.other htransient hother ?_
                    rw [hsame]
                    exact hstarted.partition
                  rw [hrest hmem, hledgers] at hbegins
                  exact ⟨⟨hmem, hnodup⟩, r, l, m, held, hstarts.record, hstarts.expected,
                    hstarts.allowed, hstarts.ledger, hfollows, hcoherent, hbalanced, hbegins⟩
                · rintro ⟨⟨hmem, hnodup⟩, r', l', m', held', hr', -, -, hl', hfollows', -, -,
                    hbegins⟩
                  obtain rfl := Option.some.inj (hstarts.record.symm.trans hr')
                  obtain rfl := Option.some.inj (hstarts.ledger.symm.trans hl')
                  rw [hrest hmem, hledgers, hfollows.unique hfollows']
                  exact ⟨hnodup, hbegins⟩
      · rw [bind_error hrun]
        refine iff_of_false (fun h ↦ by cases h) ?_
        rintro ⟨-, r, l, l', held, hr, hexpected, hallowed, hl, hfollows, -, -, -⟩
        refine hnever r l ⟨hr, hexpected, hallowed, fun hsame ↦ ?_, hl, hfollows.funded⟩
        rw [hsame] at hallowed
        exact not_allowed_self htransient hallowed

/-- A partition that was written stays in the new state. -/
def WrittenIn (target : PartitionState) (p : PartitionId) (s : FabricState) : Prop :=
  (s.findPartition p).map PartitionRecord.state = some target

lemma written_beginEntry (htransient : isTransientState target = true) {entry : Entry} :
    Advances (Preserves (WrittenIn target p)) (beginEntry target reason now entry) s := by
  intro hwritten
  rcases beginEntry_cases htransient reason now entry s with
    ⟨r, l, hstarts, hstarted, -⟩ | ⟨-, e, hrun⟩
  · by_cases hp : p = entry.1
    · subst hp
      exact hstarted.partition
    · unfold WrittenIn
      rw [hstarted.others p hp]
      exact hwritten
  · rw [hrun]
    exact hwritten

/-- The first entry starts. -/
def StartsFirst (target : PartitionState) (s : FabricState) (entries : List Entry) : Prop :=
  ∃ entry ∈ entries.head?, ∃ r l, Starts target s entry r l

/-- Where the first entry starts a record has changed when the loop ends, however it ends. -/
lemma StartsFirst.changes (htransient : isTransientState target = true)
    (h : StartsFirst target s entries) (reason : Text) (now : UInt64) :
    ∃ p r, s.findPartition p = some r ∧ r.state ≠ target ∧
      WrittenIn target p (entries.forM (beginEntry target reason now) s).1 := by
  obtain ⟨entry, hentry, r, l, hstarts⟩ := h
  refine ⟨entry.1, r, hstarts.record, hstarts.other, ?_⟩
  cases entries with
  | nil => cases hentry
  | cons first rest =>
      obtain rfl : first = entry := Option.some.inj hentry
      rcases beginEntry_cases htransient reason now first s with
        ⟨r', l', -, hstarted, -⟩ | ⟨hnever, -⟩
      · refine bind_fst (fun t e hrun ↦ ?_) fun t u hrun ↦ ?_
        · rw [hrun] at hstarted
          exact hstarted.partition
        · rw [hrun] at hstarted
          exact (advances_forM fun _ _ _ _ ↦ written_beginEntry htransient :
            Advances (Preserves (WrittenIn target first.1)) _ t) hstarted.partition
      · exact absurd hstarts (hnever r l)

/-- Where the first entry does not start the loop changes nothing. -/
lemma forM_beginEntry_still (htransient : isTransientState target = true)
    (h : ¬StartsFirst target s entries) (reason : Text) (now : UInt64) :
    (entries.forM (beginEntry target reason now) s).1 = s := by
  cases entries with
  | nil => rfl
  | cons entry rest =>
      rcases beginEntry_cases htransient reason now entry s with
        ⟨r, l, hstarts, -⟩ | ⟨-, e, hrun⟩
      · exact absurd ⟨entry, rfl, r, l, hstarts⟩ h
      · change ((beginEntry target reason now entry >>= fun _ ↦
          rest.forM (beginEntry target reason now)) s).1 = s
        rw [bind_error hrun]

end Loop

section Registration

/-- The partitions that an attempt moves, a creation with the generations it was reserved for. -/
def entriesOf (reservation : PartitionReservation) : AttemptKind → List Entry
  | .createPartition => reservation.partitions.zipIdx.map fun e ↦
      (e.1, some (reservation.partitionGenerations.getD e.2 0))
  | .destroyPartition => reservation.partitions.map fun p ↦ (p, none)
  | .reconfigureLayout => []

/-- The state that a registered attempt leaves its partitions in. -/
def AttemptKind.moving : AttemptKind → PartitionState
  | .destroyPartition => .destroying
  | _ => .creating

def AttemptKind.movingReason : AttemptKind → Text
  | .destroyPartition => "physical destruction attempt registered"
  | _ => "physical creation attempt registered"

lemma transient_moving (kind : AttemptKind) : isTransientState kind.moving = true := by
  cases kind <;> rfl

variable {reservation : PartitionReservation} {kind : AttemptKind} {key : PartitionReservationId}
  {worker : WorkerId} {boot : WorkerBootId}

/-- A loop over the images of a list. -/
lemma forM_map_eq {ι κ : Type} (g : ι → κ) (body : κ → FabricM PUnit) (l : List ι) :
    (l.map g).forM body = l.forM fun i ↦ body (g i) := by
  induction l with
  | nil => rfl
  | cons i rest ih =>
      change (body (g i) >>= fun _ ↦ (rest.map g).forM body) = _
      rw [ih]
      rfl

lemma beginMutation_eq : beginMutation reservation kind now =
    (entriesOf reservation kind).forM (beginEntry kind.moving kind.movingReason now) := by
  cases kind with
  | createPartition =>
      change _ = (List.map _ _).forM _
      rw [forM_map_eq]
      unfold beginMutation
      congr 1
  | destroyPartition =>
      change _ = (List.map _ _).forM _
      rw [forM_map_eq]
      unfold beginMutation
      congr 1
  | reconfigureLayout => rfl

/-- There is room for another attempt, in the history and among those in flight, and for its
identity. -/
structure AttemptAdmitted (s : FabricState) : Prop where
  room : (attemptsLeft s).size < s.limits.maxAttemptHistory
  pending : (attemptsLeft s).values.countP (fun a ↦ !attemptSettled a.state) <
    s.limits.maxPendingAttempts
  identity : s.ids.next ≠ uint64Max

/-- The whole registration goes through: every partition is moved and the attempt is valid. -/
structure AttemptCompletes (s : FabricState) (reservation : PartitionReservation)
    (kind : AttemptKind) (now : UInt64) : Prop where
  distinct : ((entriesOf reservation kind).map Prod.fst).Nodup
  begins : Begins kind.moving s (entriesOf reservation kind) s.ledgers
  identity : valid s.ids.next = true
  bound : valid reservation.id = true
  dispatched : now ≠ 0

/-- The registry is as before, apart from settled attempts and identities. -/
structure SparesRegistry (s t : FabricState) : Prop where
  partitions : t.partitions = s.partitions
  ledgers : t.ledgers = s.ledgers
  reservations : t.reservations = s.reservations
  attempts : ∀ k a, attemptSettled a.state = false →
    (t.findAttempt k = some a ↔ s.findAttempt k = some a)

/-- A registration that fails leaves the registry as it was. -/
def RegistrationAtomic (s : FabricState) (key : PartitionReservationId)
    (reservation : PartitionReservation) (kind : AttemptKind) (now : UInt64) : Prop :=
  ∀ worker boot t e, registerAttemptLocked key reservation kind worker boot now s = (t, .error e) →
    SparesRegistry s t

lemma attemptsLeft_unsettled {k : PartitionAttemptId} {a : PartitionAttempt}
    (ha : attemptSettled a.state = false) :
    (attemptsLeft s).find? k = some a ↔ s.attempts.find? k = some a := by
  unfold attemptsLeft
  split
  · rcases KeyedMap.find?_prune (m := s.attempts) (fun a ↦ attemptSettled a.state)
      s.limits.maxAttemptHistory k with hsame | ⟨hgone, b, hb, hsettled⟩
    · exact Eq.congr_left hsame
    · change ((s.attempts.prune _ _).find? k = some a ↔ _)
      rw [hgone, hb]
      refine iff_of_false (fun h ↦ by cases h) fun h ↦ ?_
      obtain rfl := Option.some.inj h
      rw [ha] at hsettled
      cases hsettled
  · exact Iff.rfl

/-- The state in which the partitions are moved. -/
def FabricState.roomed (s : FabricState) : FabricState :=
  { s with
    attempts := attemptsLeft s
    ids := ⟨s.ids.next + 1⟩ }

lemma spares_attemptsLeft (ids : IdAllocator) :
    SparesRegistry s { s with attempts := attemptsLeft s, ids := ids } :=
  ⟨rfl, rfl, rfl, fun _ _ ha ↦ attemptsLeft_unsettled ha⟩

/-- What follows the moves. -/
def recordAttempt (key : PartitionReservationId) (reservation : PartitionReservation)
    (kind : AttemptKind) (worker : WorkerId) (boot : WorkerBootId) (id : PartitionAttemptId)
    (now : UInt64) : FabricM PartitionAttempt := do
  let s ← Procedure.get
  let attempt := attemptFor s reservation kind worker boot id now
  Procedure.lift attempt.validate
  Procedure.modify fun s ↦ { s with attempts := s.attempts.insert id attempt }
  Procedure.modify fun s ↦ s.modifyReservation key fun r ↦
    { r with attempt := id, updatedAtMs := now }
  Procedure.modify FabricState.bumpStateGeneration
  pure attempt

/-- Without room nothing is moved; with it the registration is the loop and what follows it. -/
lemma registerAttemptLocked_eq :
    (AttemptAdmitted s ∧ registerAttemptLocked key reservation kind worker boot now s =
      ((entriesOf reservation kind).forM (beginEntry kind.moving kind.movingReason now) >>= fun _ ↦
        recordAttempt key reservation kind worker boot s.ids.next now) s.roomed) ∨
    ¬AttemptAdmitted s ∧ ∃ t e,
      registerAttemptLocked key reservation kind worker boot now s = (t, .error e) ∧
        SparesRegistry s t := by
  obtain ⟨status, hmade, hstatus⟩ := makeAttemptRoom_eq s
  let u : FabricState := { s with attempts := attemptsLeft s }
  have hroom : makeAttemptRoom s = (u, status) := hmade
  unfold registerAttemptLocked
  cases status with
  | error e =>
      rw [bind_error hroom]
      refine Or.inr ⟨fun h ↦ ?_, u, e, rfl, spares_attemptsLeft s.ids⟩
      cases hstatus.mpr h.room
  | ok v =>
      rw [bind_ok hroom]
      simp only [get_bind, require_bind]
      cases hpending : decide ((attemptsLeft s).values.countP (fun a ↦ !attemptSettled a.state) <
          s.limits.maxPendingAttempts) with
      | false =>
          exact Or.inr ⟨fun h ↦ of_decide_eq_false hpending h.pending, u, _, rfl,
            spares_attemptsLeft s.ids⟩
      | true =>
          rw [if_pos rfl]
          by_cases hmax : s.ids.next = uint64Max
          · obtain ⟨e, halloc⟩ := allocateId_exhausted (s := u) hmax
            rw [bind_error halloc]
            exact Or.inr ⟨fun h ↦ h.identity hmax, u, e, rfl, spares_attemptsLeft s.ids⟩
          · have halloc : allocateId u = (s.roomed, .ok s.ids.next) := allocateId_eq (s := u) hmax
            rw [bind_ok halloc, beginMutation_eq]
            exact Or.inl ⟨⟨hstatus.mp rfl, of_decide_eq_true hpending, hmax⟩, rfl⟩

lemma validate_attemptFor_iff {id : PartitionAttemptId} :
    (attemptFor s reservation kind worker boot id now).validate = success ↔
      valid id = true ∧ valid reservation.id = true ∧ now ≠ 0 := by
  unfold PartitionAttempt.validate attemptFor
  cases hid : valid id <;> cases hbound : valid reservation.id <;>
    by_cases hzero : now = 0 <;> simp [hzero, attemptSettled, success, failure]

/-- The attempt is recorded exactly when it is valid; a failure changes nothing. -/
lemma recordAttempt_cases (id : PartitionAttemptId) (t : FabricState) :
    (∃ a, (recordAttempt key reservation kind worker boot id now t).2 = .ok a ∧
        valid id = true ∧ valid reservation.id = true ∧ now ≠ 0) ∨
      (∃ e, recordAttempt key reservation kind worker boot id now t = (t, .error e)) ∧
        ¬(valid id = true ∧ valid reservation.id = true ∧ now ≠ 0) := by
  unfold recordAttempt
  rw [get_bind, ← @validate_attemptFor_iff t now reservation kind worker boot]
  cases hvalid : (attemptFor t reservation kind worker boot id now).validate with
  | ok u => exact Or.inl ⟨_, rfl, rfl⟩
  | error e => exact Or.inr ⟨⟨e, rfl⟩, fun h ↦ by cases h⟩

/-- Recording the attempt leaves the partitions alone. -/
lemma recordAttempt_partitions {id : PartitionAttemptId} :
    Advances (Keeps FabricState.partitions)
      (recordAttempt key reservation kind worker boot id now) t := by
  refine advances_get_bind (advances_lift_bind fun _ _ ↦ ?_)
  refine advances_modify_bind rfl (advances_modify_bind rfl ?_)
  exact advances_modify_bind (bump_of fun _ ↦ rfl) (advances_pure _ _)

/-- Making room changes nothing that the entries are compared with. -/
lemma startsFirst_roomed {entries : List Entry} :
    StartsFirst target s.roomed entries ↔ StartsFirst target s entries := by
  have hentry (entry : Entry) (r : PartitionRecord) (l : CapacityLedger) :
      Starts target s.roomed entry r l ↔ Starts target s entry r l :=
    ⟨fun h ↦ ⟨h.record, h.expected, h.allowed, h.other, h.ledger, h.funded⟩,
      fun h ↦ ⟨h.record, h.expected, h.allowed, h.other, h.ledger, h.funded⟩⟩
  unfold StartsFirst
  simp only [hentry]

/-- The loop of a registration succeeds exactly when no partition is listed twice and every one is
moved. -/
lemma moves_roomed_iff (now : UInt64) : ((entriesOf reservation kind).forM
    (beginEntry kind.moving kind.movingReason now) s.roomed).2 = success ↔
      ((entriesOf reservation kind).map Prod.fst).Nodup ∧
        Begins kind.moving s (entriesOf reservation kind) s.ledgers := by
  rw [forM_beginEntry_iff (transient_moving kind)]
  exact and_congr_right fun _ ↦ begins_congr fun _ _ ↦ rfl

/-- Where the first partition starts its record is in a new state after the registration. -/
lemma registration_writes (hadmitted : AttemptAdmitted s)
    (hfirst : StartsFirst kind.moving s (entriesOf reservation kind)) (key : PartitionReservationId)
    (worker : WorkerId) (boot : WorkerBootId) (now : UInt64) :
    ∃ p r, s.findPartition p = some r ∧ r.state ≠ kind.moving ∧
      WrittenIn kind.moving p (registerAttemptLocked key reservation kind worker boot now s).1 := by
  rcases @registerAttemptLocked_eq s now reservation kind key worker boot with
    ⟨-, hrun⟩ | ⟨hrefused, -⟩
  · obtain ⟨p, r, hr, hother, hwritten⟩ := (startsFirst_roomed.mpr hfirst).changes
      (transient_moving kind) kind.movingReason now
    refine ⟨p, r, hr, hother, ?_⟩
    rw [hrun]
    refine bind_fst (fun u e hu ↦ ?_) fun u x hu ↦ ?_
    · rw [hu] at hwritten
      exact hwritten
    · rw [hu] at hwritten
      unfold WrittenIn FabricState.findPartition
      rw [show _ = u.partitions from recordAttempt_partitions]
      exact hwritten
  · exact absurd hadmitted hrefused

lemma registration_changes (hadmitted : AttemptAdmitted s)
    (hfirst : StartsFirst kind.moving s (entriesOf reservation kind)) (key : PartitionReservationId)
    (worker : WorkerId) (boot : WorkerBootId) (now : UInt64) :
    (registerAttemptLocked key reservation kind worker boot now s).1.partitions ≠ s.partitions := by
  obtain ⟨p, r, hr, hother, hwritten⟩ := registration_writes hadmitted hfirst key worker boot now
  intro hsame
  unfold WrittenIn FabricState.findPartition at hwritten
  rw [hsame, show s.partitions.find? p = some r from hr] at hwritten
  exact hother (Option.some.inj hwritten)

/-- A registration that succeeds has moved every partition and recorded a valid attempt. -/
lemma completes_of_registered {a : PartitionAttempt}
    (h : registerAttemptLocked key reservation kind worker boot now s = (t, .ok a)) :
    AttemptCompletes s reservation kind now := by
  rcases @registerAttemptLocked_eq s now reservation kind key worker boot with
    ⟨-, hrun⟩ | ⟨-, t', e, hrun, -⟩
  · obtain ⟨u, x, hmoved, hrecorded⟩ := bind_eq_ok.mp (hrun.symm.trans h)
    obtain ⟨hnodup, hbegins⟩ := (moves_roomed_iff now).mp (congrArg Prod.snd hmoved)
    rcases @recordAttempt_cases now reservation kind key worker boot s.ids.next u with
      ⟨-, -, hid, hbound, hdispatched⟩ | ⟨⟨e, herror⟩, -⟩
    · exact ⟨hnodup, hbegins, hid, hbound, hdispatched⟩
    · cases (Prod.mk.inj (herror.symm.trans hrecorded)).2
  · cases (Prod.mk.inj (hrun.symm.trans h)).2

/-- A registration that is admitted and would go through does not fail. -/
lemma AttemptCompletes.succeeds (h : AttemptCompletes s reservation kind now)
    (hadmitted : AttemptAdmitted s) (key : PartitionReservationId) (worker : WorkerId)
    (boot : WorkerBootId) :
    ∃ t a, registerAttemptLocked key reservation kind worker boot now s = (t, .ok a) := by
  rcases @registerAttemptLocked_eq s now reservation kind key worker boot with
    ⟨-, hrun⟩ | ⟨hrefused, -⟩
  · have hsuccess := (moves_roomed_iff now).mpr ⟨h.distinct, h.begins⟩
    cases hmoved : (entriesOf reservation kind).forM
        (beginEntry kind.moving kind.movingReason now) s.roomed with
    | mk u result =>
        rw [hmoved] at hsuccess
        obtain rfl : result = success := hsuccess
        rw [hrun, bind_ok hmoved]
        rcases @recordAttempt_cases now reservation kind key worker boot s.ids.next u with
          ⟨a, hok, -⟩ | ⟨-, hnever⟩
        · exact ⟨_, a, Prod.ext rfl hok⟩
        · exact absurd ⟨h.identity, h.bound, h.dispatched⟩ hnever
  · exact absurd hadmitted hrefused

/-- Where the first partition does not start a registration that fails has only made room. -/
lemma registration_still {e : Error} (hfirst : ¬StartsFirst kind.moving s (entriesOf reservation kind))
    (h : registerAttemptLocked key reservation kind worker boot now s = (t, .error e)) :
    SparesRegistry s t := by
  rcases @registerAttemptLocked_eq s now reservation kind key worker boot with
    ⟨-, hrun⟩ | ⟨-, t', e', hrun, hspares⟩
  · have hspares : SparesRegistry s s.roomed := spares_attemptsLeft ⟨s.ids.next + 1⟩
    have hstill := forM_beginEntry_still (transient_moving kind)
      (startsFirst_roomed.not.mpr hfirst) kind.movingReason now
    cases hmoved : (entriesOf reservation kind).forM
        (beginEntry kind.moving kind.movingReason now) s.roomed with
    | mk u result =>
        rw [hmoved] at hstill
        obtain rfl : u = s.roomed := hstill
        cases result with
        | error e' =>
            rw [hrun, bind_error hmoved] at h
            obtain rfl := (Prod.mk.inj h).1
            exact hspares
        | ok x =>
            rw [hrun, bind_ok hmoved] at h
            rcases @recordAttempt_cases now reservation kind key worker boot s.ids.next s.roomed
              with ⟨a, hok, -⟩ | ⟨⟨e', herror⟩, -⟩
            · rw [h] at hok
              cases hok
            · obtain rfl := (Prod.mk.inj (herror.symm.trans h)).1
              exact hspares
  · obtain rfl := (Prod.mk.inj (hrun.symm.trans h)).1
    exact hspares

/-- A registration fails atomically unless it starts to move its partitions and then fails: it has
room for the attempt and its first partition starts, while a later partition is listed twice or
cannot be moved, a record is not coherent in the new state, a ledger does not close, or the attempt
is not valid. -/
theorem registration_atomic_iff : RegistrationAtomic s key reservation kind now ↔
    (AttemptAdmitted s → StartsFirst kind.moving s (entriesOf reservation kind) →
      AttemptCompletes s reservation kind now) := by
  constructor
  · intro hatomic hadmitted hfirst
    cases hrun : registerAttemptLocked key reservation kind 0 0 now s with
    | mk t result =>
        cases result with
        | ok a => exact completes_of_registered hrun
        | error e =>
            have hchanged := registration_changes hadmitted hfirst key 0 0 now
            rw [hrun] at hchanged
            exact absurd (hatomic 0 0 t e hrun).partitions hchanged
  · intro h worker boot t e hrun
    by_cases hfirst : StartsFirst kind.moving s (entriesOf reservation kind)
    · by_cases hadmitted : AttemptAdmitted s
      · obtain ⟨t', a, hok⟩ := (h hadmitted hfirst).succeeds hadmitted key worker boot
        cases (Prod.mk.inj (hok.symm.trans hrun)).2
      · rcases @registerAttemptLocked_eq s now reservation kind key worker boot with
          ⟨hroom, -⟩ | ⟨-, t', e', hrun', hspares⟩
        · exact absurd hroom hadmitted
        · obtain rfl := (Prod.mk.inj (hrun'.symm.trans hrun)).1
          exact hspares
    · exact registration_still hfirst hrun

end Registration

namespace Sample

/-- The destruction of the slice is reserved as 7; then a workload occupies the slice and its drain
begins. -/
def occupiedAgain : List Op :=
  created ++ [.createDestructionReservation 4 6, .bindAssignment late, .beginDrain 4 [] 7]

end Sample

/-- The registration of a destruction attempt for a slice that drains fails and leaves the slice in
destruction, with no attempt for it. -/
theorem registration_not_atomic : ¬∀ s key reservation kind now, fabric.Reachable anyOp s →
    s.findReservation key = some reservation →
      RegistrationAtomic s key reservation kind now := by
  intro h
  let s := fabric.run Sample.occupiedAgain Sample.opened
  have hreachable : fabric.Reachable anyOp s :=
    System.Reachable.run (.initial ⟨_, _, rfl⟩) (by decide)
  have hbefore : (s.findPartition 4).map PartitionRecord.state = some .draining := by decide +kernel
  have hfails : (s.findReservation 7).any (fun reservation ↦
      let run := registerAttemptLocked 7 reservation .destroyPartition 0 0 8 s
      !run.2.isOk && (run.1.findPartition 4).map PartitionRecord.state = some .destroying) = true := by
    decide +kernel
  clear_value s
  obtain ⟨reservation, hfind, hrun⟩ := (Option.any_eq_true _ _).mp hfails
  simp only [Bool.and_eq_true, decide_eq_true_eq] at hrun
  have hatomic := h s 7 reservation .destroyPartition 8 hreachable hfind
  generalize hresult : registerAttemptLocked 7 reservation .destroyPartition 0 0 8 s = run at hrun
  obtain ⟨t, result⟩ := run
  cases result with
  | ok a => cases hrun.1
  | error e =>
      have hsame := (hatomic 0 0 t e hresult).partitions
      have hafter := hrun.2
      unfold FabricState.findPartition at hafter
      rw [hsame] at hafter
      cases hbefore.symm.trans hafter

end PartitionFabric

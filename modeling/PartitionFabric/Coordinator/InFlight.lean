import PartitionFabric.Coordinator.Dispatching

/-!
What a dispatch that was not sent leaves behind: the attempt it registered, the partitions it
moved, and the caller it registered to wait.
-/

namespace PartitionFabric

open CoordinatorState Procedure

variable {s t u : FabricState} {c : CoordinatorState} {p q : PartitionId} {now : UInt64}
  {reason : Text} {target : PartitionState}

section Revalidating

/-- A partition whose ledger is there to move its capacity in. -/
def Backed (p : PartitionId) (s : FabricState) : Prop :=
  ∃ r, s.findPartition p = some r ∧ (s.findLedger r.accelerator).isSome = true

lemma backed_transition :
    Advances (Preserves (Backed p)) (transitionPartition now q target reason) s := by
  rintro ⟨r, hr, hl⟩
  rcases transitionPartition_cases now q target reason s with hsame |
    ⟨record, ledger, ledger', held, hrecord, -, -, -, -, hmoved⟩
  · rw [hsame]
    exact ⟨r, hr, hl⟩
  · rw [hmoved]
    have hledgers (id : AcceleratorId) (h : (s.findLedger id).isSome = true) :
        ((s.transitioned now q record target reason ledger' held).findLedger id).isSome = true := by
      unfold FabricState.findLedger FabricState.transitioned
      rw [KeyedMap.find?_insert]
      split
      · rfl
      · exact h
    by_cases hp : p = q
    · subst hp
      obtain rfl := Option.some.inj (hr.symm.trans hrecord)
      exact ⟨_, KeyedMap.find?_insert_self _ _ _, hledgers _ hl⟩
    · exact ⟨r, (KeyedMap.find?_insert_of_ne _ _ hp).trans hr, hledgers _ hl⟩

/-- A partition that a lost creation has still to revalidate, or has revalidated. -/
def Revalidates (p : PartitionId) (s : FabricState) : Prop :=
  Backed p s ∧ (WrittenIn .creating p s ∨ WrittenIn .revalidationRequired p s)

/-- No step of a revalidation writes another state. -/
lemma transition_writes {q : PartitionId} (p : PartitionId) (h : WrittenIn target p
    (transitionPartition now q .revalidationRequired reason s).1) :
    WrittenIn target p s ∨ target = .revalidationRequired := by
  rcases transitionPartition_cases now q .revalidationRequired reason s with hsame |
    ⟨record, ledger, ledger', held, -, -, -, -, -, hmoved⟩
  · rw [hsame] at h
    exact .inl h
  · rw [hmoved] at h
    by_cases hp : p = q
    · subst hp
      unfold WrittenIn FabricState.findPartition FabricState.transitioned at h
      rw [KeyedMap.find?_insert_self] at h
      exact .inr (Option.some.inj h).symm
    · refine .inl ?_
      unfold WrittenIn FabricState.findPartition FabricState.transitioned at h
      rw [KeyedMap.find?_insert_of_ne _ _ hp] at h
      exact h

/-- One step of a revalidation: it always succeeds. -/
lemma revalidateUnknown_eq (now : UInt64) (reason : Text) (p : PartitionId) (s : FabricState) :
    revalidateUnknown now reason p s = ((revalidateUnknown now reason p s).1, .ok ()) := by
  refine Prod.ext rfl ?_
  unfold revalidateUnknown
  rw [get_bind]
  cases (s.findPartition p).any fun record ↦ record.state ≠ .revalidationRequired <;> rfl

lemma revalidateUnknown_cases (now : UInt64) (reason : Text) (p : PartitionId) (s : FabricState) :
    ((revalidateUnknown now reason p s).1 = s ∧
        ∀ r, s.findPartition p = some r → r.state = .revalidationRequired) ∨
      (∃ r, s.findPartition p = some r ∧ r.state ≠ .revalidationRequired) ∧
        (revalidateUnknown now reason p s).1 =
          (transitionPartition now p .revalidationRequired reason s).1 := by
  unfold revalidateUnknown
  rw [get_bind]
  cases hany : (s.findPartition p).any fun record ↦ record.state ≠ .revalidationRequired with
  | true =>
    obtain ⟨r, hr, hne⟩ := (Option.any_eq_true _ _).mp hany
    exact .inr ⟨⟨r, hr, of_decide_eq_true hne⟩, rfl⟩
  | false =>
    refine .inl ⟨rfl, fun r hr ↦ ?_⟩
    rw [hr] at hany
    simpa using hany

lemma backed_revalidateUnknown :
    Advances (Preserves (Backed p)) (revalidateUnknown now reason q) s := by
  intro hp
  rcases revalidateUnknown_cases now reason q s with ⟨hsame, -⟩ | ⟨-, hmoved⟩
  · rw [hsame]
    exact hp
  · rw [hmoved]
    exact backed_transition hp

lemma revalidateUnknown_writes
    (h : WrittenIn target p (revalidateUnknown now reason q s).1) :
    WrittenIn target p s ∨ target = .revalidationRequired := by
  rcases revalidateUnknown_cases now reason q s with ⟨hsame, -⟩ | ⟨-, hmoved⟩
  · rw [hsame] at h
    exact .inl h
  · rw [hmoved] at h
    exact transition_writes p h

/-- A loop of revalidations writes no other state either. -/
lemma forM_revalidateUnknown_writes (l : List PartitionId) (hother : target ≠ .revalidationRequired)
    (h : WrittenIn target p (l.forM (revalidateUnknown now reason) s).1) : WrittenIn target p s := by
  induction l generalizing s with
  | nil => exact h
  | cons q rest ih =>
    have hcons : (q :: rest).forM (revalidateUnknown now reason) s =
        rest.forM (revalidateUnknown now reason) (revalidateUnknown now reason q s).1 :=
      bind_ok (revalidateUnknown_eq now reason q s)
    rw [hcons] at h
    exact (revalidateUnknown_writes (ih h)).resolve_right hother

/-- A step of another partition leaves a partition alone. -/
lemma revalidateUnknown_other (hpq : p ≠ q) :
    (revalidateUnknown now reason q s).1.findPartition p = s.findPartition p := by
  rcases revalidateUnknown_cases now reason q s with ⟨hsame, -⟩ | ⟨-, hmoved⟩
  · rw [hsame]
  · rw [hmoved]
    rcases transitionPartition_cases now q .revalidationRequired reason s with hsame |
      ⟨record, ledger, ledger', held, -, -, -, -, -, hmoved⟩
    · rw [hsame]
    · rw [hmoved]
      exact KeyedMap.find?_insert_of_ne _ _ hpq

/-- What is revalidated stays so. -/
lemma written_revalidateUnknown :
    Advances (Preserves (WrittenIn .revalidationRequired p)) (revalidateUnknown now reason q) s := by
  intro hp
  by_cases hpq : p = q
  · subst hpq
    rcases revalidateUnknown_cases now reason p s with ⟨hsame, -⟩ | ⟨⟨r, hr, hne⟩, -⟩
    · rw [hsame]
      exact hp
    · unfold WrittenIn at hp
      rw [hr] at hp
      exact absurd (Option.some.inj hp) hne
  · unfold WrittenIn
    rw [revalidateUnknown_other hpq]
    exact hp

/-- A created partition whose ledger is there is revalidated by its own step. -/
lemma revalidateUnknown_self (hp : Revalidates p s) :
    WrittenIn .revalidationRequired p (revalidateUnknown now reason p s).1 := by
  obtain ⟨⟨r, hr, hl⟩, hstate⟩ := hp
  obtain ⟨l, hl⟩ := Option.isSome_iff_exists.mp hl
  unfold WrittenIn at hstate
  rw [hr, Option.map_some, Option.some.injEq, Option.some.injEq] at hstate
  rcases hstate with hstate | hstate
  · rcases revalidateUnknown_cases now reason p s with ⟨-, hnever⟩ | ⟨-, hmoved⟩
    · cases hstate.symm.trans (hnever r hr)
    · rw [hmoved]
      refine (transitionPartition_moved now reason hr ?_ ?_ hl (.inl rfl)).1
      · rw [hstate]
        decide
      · rw [hstate]
        decide
  · exact written_revalidateUnknown
      ((congrArg (Option.map PartitionRecord.state) hr).trans (congrArg some hstate))

lemma revalidates_revalidateUnknown :
    Advances (Preserves (Revalidates p)) (revalidateUnknown now reason q) s := by
  intro hp
  refine ⟨backed_revalidateUnknown hp.1, ?_⟩
  by_cases hpq : p = q
  · subst hpq
    exact .inr (revalidateUnknown_self hp)
  · unfold WrittenIn
    rw [revalidateUnknown_other hpq]
    exact hp.2

/-- A loop of revalidations revalidates the created partitions in its list. -/
lemma forM_revalidateUnknown_revalidates (l : List PartitionId) (hp : Revalidates p s)
    (hmem : p ∈ l) : WrittenIn .revalidationRequired p (l.forM (revalidateUnknown now reason) s).1 := by
  induction l generalizing s with
  | nil => cases hmem
  | cons q rest ih =>
    have hcons : (q :: rest).forM (revalidateUnknown now reason) s =
        rest.forM (revalidateUnknown now reason) (revalidateUnknown now reason q s).1 :=
      bind_ok (revalidateUnknown_eq now reason q s)
    rw [hcons]
    have hnext : Revalidates p (revalidateUnknown now reason q s).1 :=
      revalidates_revalidateUnknown hp
    by_cases hrest : p ∈ rest
    · exact ih hnext hrest
    · obtain rfl : p = q := (List.mem_cons.mp hmem).resolve_right hrest
      exact (advances_forM fun _ _ _ _ ↦ written_revalidateUnknown :
        Advances (Preserves (WrittenIn .revalidationRequired p)) _ _) (revalidateUnknown_self hp)

end Revalidating

section Registered

variable {entries : List Entry} {reservation : PartitionReservation} {kind : AttemptKind}
  {key : PartitionReservationId} {worker : WorkerId} {boot : WorkerBootId} {a : PartitionAttempt}

lemma backed_beginEntry {entry : Entry} :
    Advances (Preserves (Backed p)) (beginEntry target reason now entry) s := by
  refine advances_get_bind ?_
  cases s.findPartition entry.1 with
  | none => exact advances_throw _ _
  | some record => exact advances_require_bind fun _ ↦ backed_transition

/-- What a completed loop over the partitions of an attempt leaves. -/
structure AllBegun (target : PartitionState) (s t : FabricState) (entries : List Entry) : Prop where
  begun : ∀ p ∈ entries.map Prod.fst, WrittenIn target p t ∧ Backed p t
  others : ∀ p, p ∉ entries.map Prod.fst → t.findPartition p = s.findPartition p
  relocates : Relocates s t

lemma forM_beginEntry_begun (htransient : isTransientState target = true)
    (h : entries.forM (beginEntry target reason now) s = (t, .ok ())) :
    AllBegun target s t entries := by
  induction entries generalizing s with
  | nil =>
    obtain rfl := (Prod.mk.inj h).1
    exact ⟨fun p hp ↦ absurd hp List.not_mem_nil, fun _ _ ↦ rfl, refl_of _ _⟩
  | cons entry rest ih =>
    obtain ⟨u, x, hstep, hloop⟩ := bind_eq_ok.mp h
    rcases beginEntry_cases htransient reason now entry s with
      ⟨r, l, hstarts, hstarted, -⟩ | ⟨-, e, hrun⟩
    · rw [hstep] at hstarted
      have hrest := ih hloop
      have hbacked : Backed entry.1 s :=
        ⟨r, hstarts.record, Option.isSome_iff_exists.mpr ⟨l, hstarts.ledger⟩⟩
      have hu : Backed entry.1 u := (backed_beginEntry : Advances (Preserves (Backed entry.1))
        (beginEntry target reason now entry) s).of_run hstep hbacked
      refine ⟨fun p hp ↦ ?_, fun p hp ↦ ?_, trans_of _ hstarted.relocates hrest.relocates⟩
      · rcases List.mem_cons.mp hp with rfl | hp
        · have hw : Advances (Preserves (WrittenIn target entry.1))
              (rest.forM (beginEntry target reason now)) u :=
            advances_forM fun _ _ _ _ ↦ written_beginEntry htransient
          have hb : Advances (Preserves (Backed entry.1))
              (rest.forM (beginEntry target reason now)) u :=
            advances_forM fun _ _ _ _ ↦ backed_beginEntry
          exact ⟨hw.of_run hloop hstarted.partition, hb.of_run hloop hu⟩
        · exact hrest.begun p hp
      · rw [List.map_cons, List.mem_cons, not_or] at hp
        rw [hrest.others p hp.2, hstarted.others p hp.1]
    · cases (Prod.mk.inj (hrun.symm.trans hstep)).2

/-- What a successful registration leaves. -/
structure RegisteredAs (s t : FabricState) (reservation : PartitionReservation)
    (kind : AttemptKind) (a : PartitionAttempt) : Prop where
  id : a.id = s.ids.next
  sort : a.kind = kind
  partitions : a.partitions = reservation.partitions
  state : a.state = .dispatched
  recorded : t.findAttempt a.id = some a
  plans : t.plans = s.plans
  stableKeys : t.stableKeys = s.stableKeys
  begun : ∀ p ∈ (entriesOf reservation kind).map Prod.fst, WrittenIn kind.moving p t ∧ Backed p t
  others : ∀ p, p ∉ (entriesOf reservation kind).map Prod.fst → t.findPartition p = s.findPartition p

/-- What recording an attempt leaves. -/
lemma recordAttempt_ok {id : PartitionAttemptId}
    (h : recordAttempt key reservation kind worker boot id now u = (t, .ok a)) :
    a = attemptFor u reservation kind worker boot id now ∧ t.findAttempt id = some a ∧
      t.partitions = u.partitions ∧ t.ledgers = u.ledgers ∧ t.plans = u.plans ∧
      t.stableKeys = u.stableKeys := by
  unfold recordAttempt at h
  rw [get_bind] at h
  obtain ⟨v, x, hvalid, hrecorded⟩ := bind_eq_ok.mp h
  obtain rfl : u = v := (Prod.mk.inj hvalid).1
  simp only [modify_bind] at hrecorded
  obtain ⟨rfl, ha⟩ := Prod.mk.inj hrecorded
  obtain rfl := Except.ok.inj ha
  obtain ⟨generation, hbump⟩ := bumpStateGeneration_eq
    (({ u with attempts := u.attempts.insert id (attemptFor u reservation kind worker boot id now) } :
      FabricState).modifyReservation key fun r ↦ { r with attempt := id, updatedAtMs := now })
  rw [hbump]
  exact ⟨rfl, KeyedMap.find?_insert_self _ _ _, rfl, rfl, rfl, rfl⟩

lemma registeredAs_of_ok
    (h : registerAttemptLocked key reservation kind worker boot now s = (t, .ok a)) :
    RegisteredAs s t reservation kind a := by
  rcases @registerAttemptLocked_eq s now reservation kind key worker boot with
    ⟨-, hrun⟩ | ⟨-, t', e, hrun, -⟩
  · obtain ⟨u, x, hmoved, hrecorded⟩ := bind_eq_ok.mp (hrun.symm.trans h)
    obtain ⟨hbegun, hothers, ledgers, partitions, hu⟩ :=
      forM_beginEntry_begun (transient_moving kind) hmoved
    obtain ⟨ha, hfound, hpartitions, hledgers, hplans, hkeys⟩ := recordAttempt_ok hrecorded
    have hid : a.id = s.ids.next := by rw [ha]; rfl
    refine ⟨hid, by rw [ha]; rfl, by rw [ha]; rfl, by rw [ha]; rfl, hid ▸ hfound, ?_, ?_,
      fun p hp ↦ ?_, fun p hp ↦ ?_⟩
    · rw [hplans, hu]
      rfl
    · rw [hkeys, hu]
      rfl
    · unfold WrittenIn Backed FabricState.findPartition FabricState.findLedger
      rw [hpartitions, hledgers]
      exact hbegun p hp
    · rw [FabricState.findPartition, hpartitions]
      exact hothers p hp
  · cases (Prod.mk.inj (hrun.symm.trans h)).2

/-- The partitions that an attempt moves, unless it reconfigures. -/
lemma entriesOf_partitions (hkind : kind ≠ .reconfigureLayout) :
    (entriesOf reservation kind).map Prod.fst = reservation.partitions := by
  cases kind with
  | createPartition =>
    unfold entriesOf
    rw [List.map_map]
    exact List.zipIdx_map_fst _ _
  | destroyPartition =>
    unfold entriesOf
    rw [List.map_map]
    exact List.map_id _
  | reconfigureLayout => exact absurd rfl hkind

end Registered

section Losing

variable {reservation : PartitionReservation} {kind : AttemptKind} {key : PartitionReservationId}
  {worker : WorkerId} {boot : WorkerBootId} {a : PartitionAttempt}

lemma forM_revalidateUnknown_eq (now : UInt64) (reason : Text) (l : List PartitionId)
    (s : FabricState) : l.forM (revalidateUnknown now reason) s =
      ((l.forM (revalidateUnknown now reason) s).1, .ok ()) := by
  induction l generalizing s with
  | nil => rfl
  | cons q rest ih =>
    have hcons : (q :: rest).forM (revalidateUnknown now reason) s =
        rest.forM (revalidateUnknown now reason) (revalidateUnknown now reason q s).1 :=
      bind_ok (revalidateUnknown_eq now reason q s)
    rw [hcons]
    exact ih _

lemma relocates_revalidateUnknown : Advances Relocates (revalidateUnknown now reason p) s := by
  refine advances_get_bind (advances_when fun _ ↦ ?_)
  exact advances_ignore relocates_transition

/-- The end of a lost attempt: it is in flight no more, and its partitions are revalidated unless
it destroys them. -/
structure LostAs (s t : FabricState) (id : PartitionAttemptId) (a : PartitionAttempt) : Prop where
  settled : ∃ b, t.findAttempt id = some b ∧ b.state = .outcomeUnknown
  destroyed : a.kind = .destroyPartition → t.partitions = s.partitions
  revalidated : a.kind ≠ .destroyPartition → ∃ now detail u, u.partitions = s.partitions ∧
    u.ledgers = s.ledgers ∧
      t.partitions = (a.partitions.forM (revalidateUnknown now detail) u).1.partitions

lemma markAttemptOutcomeUnknown_lost {id : PartitionAttemptId} (ha : s.findAttempt id = some a)
    (hopen : attemptSettled a.state = false) (reason : Text) (now : UInt64) :
    LostAs s (markAttemptOutcomeUnknown id reason now s).1 id a := by
  unfold markAttemptOutcomeUnknown
  rw [get_bind]
  simp only [ha, hopen, Bool.not_false, when_true, modify_bind]
  generalize (if reason.isEmpty then _ else reason : Text) = detail
  generalize hu : fenceUnknown a.reservation detail now
    (settleAttempt id .outcomeUnknown detail now s) = u
  have hsettled : u.attempts.find? id =
      some { a with state := .outcomeUnknown, settledAtMs := now, detail := detail } := by
    rw [← hu]
    change (s.attempts.modify id _).find? id = _
    rw [KeyedMap.find?_modify, if_pos rfl, show s.attempts.find? id = some a from ha]
    rfl
  have hpartitions : u.partitions = s.partitions := by rw [← hu]; rfl
  have hledgers : u.ledgers = s.ledgers := by rw [← hu]; rfl
  have hbump (v : FabricState) (h : v.attempts = u.attempts) :
      v.bumpStateGeneration.findAttempt id =
        some { a with state := .outcomeUnknown, settledAtMs := now, detail := detail } := by
    obtain ⟨generation, heq⟩ := bumpStateGeneration_eq v
    rw [heq, ← hsettled, ← h]
    rfl
  by_cases hkind : a.kind = .destroyPartition
  · rw [decide_eq_false (not_not_intro hkind), when_false, bind_ok (pure_apply _ _)]
    refine ⟨⟨_, hbump u rfl, rfl⟩, fun _ ↦ ?_, fun h ↦ absurd hkind h⟩
    exact bump_partitions.trans hpartitions
  · rw [decide_eq_true hkind, when_true, bind_ok (forM_revalidateUnknown_eq now detail _ u)]
    have hrelocates : Advances Relocates (a.partitions.forM (revalidateUnknown now detail)) u :=
      advances_forM fun _ _ _ _ ↦ relocates_revalidateUnknown
    obtain ⟨ledgers, partitions, hv⟩ := hrelocates
    refine ⟨⟨_, hbump _ (by rw [hv]), rfl⟩, fun h ↦ absurd h hkind, fun _ ↦ ?_⟩
    exact ⟨now, detail, u, hpartitions, hledgers, bump_partitions⟩

/-- Where an attempt is moved, nothing was in the state that it moves its partitions to. -/
lemma AttemptCompletes.unwritten (h : AttemptCompletes s reservation kind now)
    (hp : p ∈ (entriesOf reservation kind).map Prod.fst) : ¬WrittenIn kind.moving p s := by
  obtain ⟨entry, hentry, rfl⟩ := List.mem_map.mp hp
  exact h.begins.other (transient_moving kind) hentry

/-- Nothing is left in creation or destruction that was not there before. -/
def NothingMoved (s t : FabricState) : Prop :=
  ∀ p target, target = .creating ∨ target = .destroying → WrittenIn target p t → WrittenIn target p s

lemma nothingMoved_of_partitions (h : t.partitions = s.partitions) : NothingMoved s t := by
  intro p target _ hp
  unfold WrittenIn FabricState.findPartition at *
  rwa [h] at hp

/-- A registered attempt that is lost leaves no partition in motion unless it destroys one. -/
lemma lost_nothingMoved_iff (hcompletes : AttemptCompletes s reservation kind now)
    (hreg : RegisteredAs s t reservation kind a) (hlost : LostAs t u a.id a) :
    NothingMoved s u ↔ (kind = .destroyPartition → reservation.partitions = []) := by
  constructor
  · intro hmoved hkind
    subst hkind
    have hpartitions := hlost.destroyed hreg.sort
    refine List.eq_nil_iff_forall_not_mem.mpr fun p hp ↦ ?_
    have hentry : p ∈ (entriesOf reservation .destroyPartition).map Prod.fst := by
      rwa [entriesOf_partitions (by decide)]
    refine hcompletes.unwritten hentry (hmoved p .destroying (.inr rfl) ?_)
    unfold WrittenIn FabricState.findPartition
    rw [hpartitions]
    exact (hreg.begun p hentry).1
  · intro hempty p target htarget hp
    have hother : target ≠ .revalidationRequired := by
      rintro rfl
      rcases htarget with h | h <;> cases h
    -- a partition outside the attempt is as it was before the registration
    have houtside (hnot : p ∉ (entriesOf reservation kind).map Prod.fst)
        (ht : WrittenIn target p t) : WrittenIn target p s := by
      unfold WrittenIn at *
      rwa [hreg.others p hnot] at ht
    by_cases hkind : kind = .destroyPartition
    · refine houtside ?_ ?_
      · rw [entriesOf_partitions (by rw [hkind]; decide), hempty hkind]
        exact List.not_mem_nil
      · unfold WrittenIn FabricState.findPartition at *
        rwa [hlost.destroyed (hreg.sort.trans hkind)] at hp
    · obtain ⟨now', detail, v, hvp, hvl, hu⟩ :=
        hlost.revalidated (by rw [hreg.sort]; exact hkind)
      have hloop : WrittenIn target p (a.partitions.forM (revalidateUnknown now' detail) v).1 := by
        unfold WrittenIn FabricState.findPartition at *
        rwa [← hu]
      by_cases hmem : p ∈ (entriesOf reservation kind).map Prod.fst
      · have hcreate : kind = .createPartition := by
          cases kind with
          | createPartition => rfl
          | destroyPartition => exact absurd rfl hkind
          | reconfigureLayout => exact absurd hmem List.not_mem_nil
        obtain ⟨hwritten, hbacked⟩ := hreg.begun p hmem
        have hpending : Revalidates p v := by
          unfold Revalidates Backed WrittenIn FabricState.findPartition FabricState.findLedger
          rw [hvp, hvl]
          rw [hcreate] at hwritten
          exact ⟨hbacked, .inl hwritten⟩
        have hlisted : p ∈ a.partitions := by
          have hneither : kind ≠ .reconfigureLayout := by
            rw [hcreate]
            decide
          rw [hreg.partitions, ← entriesOf_partitions hneither]
          exact hmem
        have hend : WrittenIn .revalidationRequired p
            (a.partitions.forM (revalidateUnknown now' detail) v).1 :=
          forM_revalidateUnknown_revalidates _ hpending hlisted
        exact absurd (Option.some.inj (hloop.symm.trans hend)) hother
      · refine houtside hmem ?_
        have hv := forM_revalidateUnknown_writes _ hother hloop
        unfold WrittenIn FabricState.findPartition at *
        rwa [hvp] at hv

end Losing

section Dispatch

variable {id : PartitionReservationId} {kind : AttemptKind} {sends : Transport}
  {reservation : PartitionReservation} {a : PartitionAttempt}

/-- A reservation that a dispatch registers an attempt for. -/
structure Dispatchable (c : CoordinatorState) (id : PartitionReservationId)
    (reservation : PartitionReservation) : Prop where
  found : c.fabric.findReservation id = some reservation
  bound : (valid reservation.worker && valid reservation.workerBoot) = true
  active : reservation.lifecycle = .active

/-- The attempt that a dispatch registers, if it comes to that. -/
def registeredAttempt (c : CoordinatorState) (id : PartitionReservationId) (kind : AttemptKind)
    (now : UInt64) : Option PartitionAttempt :=
  (c.fabric.findReservation id).bind fun reservation ↦
    if valid reservation.worker && valid reservation.workerBoot then
      (registerAttempt id kind reservation.worker reservation.workerBoot now c.fabric).2.toOption
    else none

/-- A dispatch left nothing in flight: the attempt that it registered is not dispatched any more,
it left no partition in creation or destruction, and no caller is registered for the attempt. -/
structure NothingInFlight (c c' : CoordinatorState) (registered : Option PartitionAttempt) :
    Prop where
  attempt : ∀ a ∈ registered, ∀ b, c'.fabric.findAttempt a.id = some b → b.state ≠ .dispatched
  partitions : NothingMoved c.fabric c'.fabric
  waiting : ∀ a ∈ registered, c'.waiting.find? a.id = none

/-- A dispatch that ends in an error or with nothing sent leaves nothing in flight. -/
def UnsentLeavesNothing (c : CoordinatorState) (sends : Transport) (id : PartitionReservationId)
    (kind : AttemptKind) (now : UInt64) : Prop :=
  ((∃ e, (Coordinator.dispatchMutation sends id kind now c).2 = .error e) ∨
      ∃ outcome, (Coordinator.dispatchMutation sends id kind now c).2 = .ok (.unsent outcome)) →
    NothingInFlight c (Coordinator.dispatchMutation sends id kind now c).1
      (registeredAttempt c id kind now)

/-- A session of the worker, the backend key of the device and the plan are there. -/
structure Reaches (c : CoordinatorState) (reservation : PartitionReservation) (i : SessionId) :
    Prop where
  session : c.findSession reservation.worker reservation.workerBoot = some i
  key : (c.fabric.stableKeys.find? reservation.accelerator).isSome = true
  plan : (c.fabric.plans.find? reservation.plan).isSome = true

/-- A dispatch cleans up after itself: a registration that fails has not moved a partition; with
everything there, the table of callers has room and the request goes through; with something
missing, the attempt destroys nothing and no caller is registered under its identity already. -/
structure CleanDispatch (c : CoordinatorState) (sends : Transport)
    (reservation : PartitionReservation) (kind : AttemptKind) (now : UInt64) : Prop where
  unregistered : ¬AttemptCompletes c.fabric reservation kind now →
    ¬StartsFirst kind.moving c.fabric (entriesOf reservation kind)
  reached : AttemptCompletes c.fabric reservation kind now → ∀ i, Reaches c reservation i →
    c.waiting.size < c.limits.maxPendingAttempts * 4 ∧ sends i = success
  missing : AttemptCompletes c.fabric reservation kind now → (∀ i, ¬Reaches c reservation i) →
    (kind = .destroyPartition → reservation.partitions = []) ∧
      c.waiting.find? c.fabric.ids.next = none

/-- Without a reservation to dispatch nothing happens. -/
lemma dispatchMutation_refused (h : ∀ reservation, ¬Dispatchable c id reservation)
    (sends : Transport) (kind : AttemptKind) (now : UInt64) :
    (∃ e, Coordinator.dispatchMutation sends id kind now c = (c, .error e)) ∧
      registeredAttempt c id kind now = none := by
  unfold Coordinator.dispatchMutation registeredAttempt
  rw [get_bind]
  cases hr : c.fabric.findReservation id with
  | none => exact ⟨⟨_, rfl⟩, rfl⟩
  | some reservation =>
    simp only [require_bind, Option.bind_some]
    cases hbound : valid reservation.worker && valid reservation.workerBoot with
    | false => exact ⟨⟨_, rfl⟩, rfl⟩
    | true =>
      have hinactive : decide (reservation.lifecycle = .active) = false :=
        decide_eq_false fun hactive ↦ h reservation ⟨hr, hbound, hactive⟩
      have hrun : ∃ e, registerAttempt id kind reservation.worker reservation.workerBoot now
          c.fabric = (c.fabric, .error e) := by
        unfold registerAttempt
        rw [get_bind]
        simp only [hr, require_bind, hinactive, Bool.false_eq_true, if_false]
        exact ⟨_, rfl⟩
      obtain ⟨e, hrun⟩ := hrun
      rw [if_pos rfl, if_pos rfl, bind_error (onFabric_error hrun), hrun]
      exact ⟨⟨e, rfl⟩, rfl⟩

/-- With one, an attempt is registered and dispatched. -/
lemma Dispatchable.dispatchMutation_eq (h : Dispatchable c id reservation) (sends : Transport)
    (kind : AttemptKind) (now : UInt64) :
    Coordinator.dispatchMutation sends id kind now c =
        (onFabric (registerAttemptLocked id reservation kind reservation.worker
          reservation.workerBoot now) >>= fun attempt ↦
            dispatchAttempt sends id kind reservation attempt now) c ∧
      registeredAttempt c id kind now = (registerAttemptLocked id reservation kind
        reservation.worker reservation.workerBoot now c.fabric).2.toOption := by
  have hrun : registerAttempt id kind reservation.worker reservation.workerBoot now c.fabric =
      registerAttemptLocked id reservation kind reservation.worker reservation.workerBoot now
        c.fabric := by
    unfold registerAttempt
    rw [get_bind]
    simp only [h.found, require_bind, h.active, decide_true, if_true]
  unfold Coordinator.dispatchMutation registeredAttempt
  rw [get_bind]
  simp only [h.found, require_bind, h.bound, if_true, Option.bind_some, hrun, and_true]
  rw [bind_apply, bind_apply]
  unfold onFabric
  rw [hrun]

/-- Something that the request needs is missing: the attempt is lost and nothing is sent. -/
lemma dispatchAttempt_missing (h : ∀ i, ¬Reaches c reservation i) (sends : Transport)
    (id : PartitionReservationId) (kind : AttemptKind) (a : PartitionAttempt) (now : UInt64) :
    ∃ reason outcome, dispatchAttempt sends id kind reservation a now c =
      ({ c with fabric := (markAttemptOutcomeUnknown a.id reason now c.fabric).1 },
        .ok (.unsent outcome)) := by
  unfold dispatchAttempt
  rw [get_bind]
  cases hsession : c.findSession reservation.worker reservation.workerBoot with
  | none => exact ⟨_, _, rfl⟩
  | some i =>
    simp only
    cases hkey : c.fabric.stableKeys.find? reservation.accelerator with
    | none => exact ⟨_, _, rfl⟩
    | some key =>
      simp only
      cases hplan : c.fabric.plans.find? reservation.plan with
      | none => exact ⟨_, _, rfl⟩
      | some plan =>
        exact absurd ⟨hsession, by rw [hkey]; rfl, by rw [hplan]; rfl⟩ (h i)

/-- How a dispatch for which everything is there may end. -/
structure SentOver (c c' : CoordinatorState) (sends : Transport) (i : SessionId)
    (a : PartitionAttempt) (result : Result Dispatch) : Prop where
  sent : c.waiting.size < c.limits.maxPendingAttempts * 4 → sends i = success →
    ∃ frame, result = .ok (.awaiting i frame)
  full : ¬c.waiting.size < c.limits.maxPendingAttempts * 4 → c' = c ∧ ∃ e, result = .error e
  failed : c.waiting.size < c.limits.maxPendingAttempts * 4 → sends i ≠ success →
    (∃ outcome, result = .ok (.unsent outcome)) ∧ (c'.waiting.find? a.id).isSome = true

lemma dispatchAttempt_reached {i : SessionId} (h : Reaches c reservation i) (sends : Transport)
    (id : PartitionReservationId) (kind : AttemptKind) (a : PartitionAttempt) (now : UInt64) :
    SentOver c (dispatchAttempt sends id kind reservation a now c).1 sends i a
      (dispatchAttempt sends id kind reservation a now c).2 := by
  obtain ⟨key, hkey⟩ := Option.isSome_iff_exists.mp h.key
  obtain ⟨plan, hplan⟩ := Option.isSome_iff_exists.mp h.plan
  have hrun : dispatchAttempt sends id kind reservation a now c =
      sendMutation sends i id kind reservation a key plan now c := by
    unfold dispatchAttempt
    rw [get_bind]
    simp only [h.session, hkey, hplan]
  rw [hrun]
  unfold sendMutation
  rw [get_bind]
  simp only [require_bind, modify_bind]
  by_cases hroom : c.waiting.size < c.limits.maxPendingAttempts * 4
  · rw [decide_eq_true hroom, if_pos rfl]
    cases hsend : sends i with
    | ok u => exact ⟨fun _ _ ↦ ⟨_, rfl⟩, fun h ↦ absurd hroom h, fun _ h ↦ absurd hsend h⟩
    | error e =>
      refine ⟨fun _ h ↦ (by cases hsend.symm.trans h), fun h ↦ absurd hroom h,
        fun _ _ ↦ ⟨⟨_, rfl⟩, ?_⟩⟩
      change ((KeyedMap.insert _ a.id _).find? a.id).isSome = true
      rw [KeyedMap.find?_insert_self]
      rfl
  · rw [decide_eq_false hroom, if_neg Bool.false_ne_true]
    exact ⟨fun h ↦ absurd h hroom, fun _ ↦ ⟨rfl, _, rfl⟩, fun h ↦ absurd h hroom⟩

/-- What is looked up is the same before and after the registration of the attempt. -/
lemma RegisteredAs.reaches_iff (h : RegisteredAs c.fabric t reservation kind a) {i : SessionId} :
    Reaches { c with fabric := t } reservation i ↔ Reaches c reservation i := by
  constructor
  · rintro ⟨hsession, hkey, hplan⟩
    exact ⟨hsession, h.stableKeys ▸ hkey, h.plans ▸ hplan⟩
  · rintro ⟨hsession, hkey, hplan⟩
    exact ⟨hsession, h.stableKeys.symm ▸ hkey, h.plans.symm ▸ hplan⟩

/-- A dispatch whose registration fails and spares the registry leaves nothing in flight. -/
lemma unsent_spared {e : Error} (h : Dispatchable c id reservation)
    (hrun : registerAttemptLocked id reservation kind reservation.worker reservation.workerBoot now
      c.fabric = (t, .error e)) (hspares : SparesRegistry c.fabric t) :
    UnsentLeavesNothing c sends id kind now := by
  obtain ⟨hdispatch, hregistered⟩ := h.dispatchMutation_eq sends kind now
  rw [bind_error (onFabric_error hrun)] at hdispatch
  rw [hrun] at hregistered
  unfold UnsentLeavesNothing
  rw [hdispatch, hregistered]
  intro _
  exact ⟨fun a ha ↦ (by cases ha), nothingMoved_of_partitions hspares.partitions,
    fun a ha ↦ (by cases ha)⟩

/-- A dispatch that registers no attempt leaves nothing in flight unless it moved a partition. -/
lemma unsent_unregistered {e : Error} (h : Dispatchable c id reservation)
    (hadmitted : AttemptAdmitted c.fabric)
    (hrun : registerAttemptLocked id reservation kind reservation.worker reservation.workerBoot now
      c.fabric = (t, .error e)) :
    UnsentLeavesNothing c sends id kind now ↔
      ¬StartsFirst kind.moving c.fabric (entriesOf reservation kind) := by
  constructor
  · intro hleaves hfirst
    obtain ⟨p, r, hr, hother, hwritten⟩ := registration_writes hadmitted hfirst id
      reservation.worker reservation.workerBoot now
    rw [hrun] at hwritten
    obtain ⟨hdispatch, -⟩ := h.dispatchMutation_eq sends kind now
    rw [bind_error (onFabric_error hrun)] at hdispatch
    have hnothing := hleaves (.inl ⟨e, by rw [hdispatch]⟩)
    have htarget : kind.moving = .creating ∨ kind.moving = .destroying := by cases kind <;> decide
    have hbefore := hnothing.partitions p kind.moving htarget (by rwa [hdispatch])
    unfold WrittenIn at hbefore
    rw [hr] at hbefore
    exact hother (Option.some.inj hbefore)
  · exact fun hfirst ↦ unsent_spared h hrun (registration_still hfirst hrun)

/-- A dispatch that registers an attempt for which something is missing. -/
lemma unsent_missing (h : Dispatchable c id reservation)
    (hrun : registerAttemptLocked id reservation kind reservation.worker reservation.workerBoot now
      c.fabric = (t, .ok a)) (hmissing : ∀ i, ¬Reaches c reservation i) :
    UnsentLeavesNothing c sends id kind now ↔
      (kind = .destroyPartition → reservation.partitions = []) ∧
        c.waiting.find? c.fabric.ids.next = none := by
  have hreg := registeredAs_of_ok hrun
  obtain ⟨hdispatch, hregistered⟩ := h.dispatchMutation_eq sends kind now
  obtain ⟨reason, outcome, hlost⟩ := dispatchAttempt_missing (c := { c with fabric := t })
    (fun i hi ↦ hmissing i (hreg.reaches_iff.mp hi)) sends id kind a now
  rw [bind_ok (onFabric_ok hrun), hlost] at hdispatch
  rw [hrun] at hregistered
  have hend := markAttemptOutcomeUnknown_lost hreg.recorded (by rw [hreg.state]; rfl) reason now
  have hmoved := lost_nothingMoved_iff (completes_of_registered hrun) hreg hend
  unfold UnsentLeavesNothing
  rw [hdispatch, hregistered, ← hmoved, ← hreg.id]
  constructor
  · intro hleaves
    have hnothing := hleaves (.inr ⟨outcome, rfl⟩)
    exact ⟨hnothing.partitions, hnothing.waiting a rfl⟩
  · rintro ⟨hpartitions, hwaiting⟩ -
    refine ⟨fun a' ha b hb ↦ ?_, hpartitions, fun a' ha ↦ ?_⟩
    · obtain rfl := Option.some.inj ha
      obtain ⟨b', hb', hstate⟩ := hend.settled
      obtain rfl := Option.some.inj (hb'.symm.trans hb)
      rw [hstate]
      decide
    · obtain rfl := Option.some.inj ha
      exact hwaiting

/-- A dispatch that registers an attempt for which everything is there. -/
lemma unsent_reached {i : SessionId} (h : Dispatchable c id reservation)
    (hrun : registerAttemptLocked id reservation kind reservation.worker reservation.workerBoot now
      c.fabric = (t, .ok a)) (hreaches : Reaches c reservation i) :
    UnsentLeavesNothing c sends id kind now ↔
      c.waiting.size < c.limits.maxPendingAttempts * 4 ∧ sends i = success := by
  have hreg := registeredAs_of_ok hrun
  obtain ⟨hdispatch, hregistered⟩ := h.dispatchMutation_eq sends kind now
  have hsent := dispatchAttempt_reached (c := { c with fabric := t }) (hreg.reaches_iff.mpr hreaches)
    sends id kind a now
  rw [bind_ok (onFabric_ok hrun)] at hdispatch
  rw [← hdispatch] at hsent
  rw [hrun] at hregistered
  unfold UnsentLeavesNothing
  rw [hregistered]
  constructor
  · intro hleaves
    by_cases hroom : c.waiting.size < c.limits.maxPendingAttempts * 4
    · refine ⟨hroom, ?_⟩
      by_contra hsend
      obtain ⟨⟨outcome, hunsent⟩, hwaits⟩ := hsent.failed hroom hsend
      rw [(hleaves (.inr ⟨outcome, hunsent⟩)).waiting a rfl] at hwaits
      cases hwaits
    · obtain ⟨hsame, e, herror⟩ := hsent.full hroom
      have hnothing := (hleaves (.inl ⟨e, herror⟩)).attempt a rfl a
      rw [hsame] at hnothing
      exact absurd hreg.state (hnothing hreg.recorded)
  · rintro ⟨hroom, hsend⟩ hunsent
    obtain ⟨frame, hawaits⟩ := hsent.sent hroom hsend
    rw [hawaits] at hunsent
    rcases hunsent with ⟨e, h⟩ | ⟨outcome, h⟩ <;> cases h

/-- A dispatch that ends in an error or with nothing sent leaves nothing in flight exactly when it
is refused before a partition is moved, cleans up, or has room to wait and is not refused by the
connection. -/
theorem dispatch_leaves_nothing_iff : UnsentLeavesNothing c sends id kind now ↔
    ∀ reservation, Dispatchable c id reservation → AttemptAdmitted c.fabric →
      CleanDispatch c sends reservation kind now := by
  by_cases hnone : ∀ reservation, ¬Dispatchable c id reservation
  · refine iff_of_true (fun _ ↦ ?_) fun reservation h ↦ absurd h (hnone reservation)
    obtain ⟨⟨e, hrun⟩, hregistered⟩ := dispatchMutation_refused hnone sends kind now
    rw [hrun, hregistered]
    exact ⟨fun a ha ↦ (by cases ha), fun _ _ _ hp ↦ hp, fun a ha ↦ (by cases ha)⟩
  push Not at hnone
  obtain ⟨reservation, h⟩ := hnone
  have honly : (∀ reservation', Dispatchable c id reservation' → AttemptAdmitted c.fabric →
      CleanDispatch c sends reservation' kind now) ↔
        (AttemptAdmitted c.fabric → CleanDispatch c sends reservation kind now) := by
    refine ⟨fun hall ↦ hall reservation h, fun hclean reservation' h' ↦ ?_⟩
    obtain rfl := Option.some.inj (h.found.symm.trans h'.found)
    exact hclean
  rw [honly]
  cases hrun : registerAttemptLocked id reservation kind reservation.worker reservation.workerBoot
      now c.fabric with
  | mk t result =>
    cases result with
    | error e =>
      by_cases hadmitted : AttemptAdmitted c.fabric
      · have hfails : ¬AttemptCompletes c.fabric reservation kind now := fun hcompletes ↦ by
          obtain ⟨t', a, hok⟩ := hcompletes.succeeds hadmitted id reservation.worker
            reservation.workerBoot
          cases (Prod.mk.inj (hok.symm.trans hrun)).2
        rw [unsent_unregistered h hadmitted hrun, forall_prop_of_true hadmitted]
        exact ⟨fun hfirst ↦ ⟨fun _ ↦ hfirst, fun hc ↦ absurd hc hfails, fun hc ↦ absurd hc hfails⟩,
          fun hclean ↦ hclean.unregistered hfails⟩
      · refine iff_of_true (unsent_spared h hrun ?_) fun hc ↦ absurd hc hadmitted
        rcases @registerAttemptLocked_eq c.fabric now reservation kind id reservation.worker
          reservation.workerBoot with ⟨hroom, -⟩ | ⟨-, t', e', hrefused, hspares⟩
        · exact absurd hroom hadmitted
        · obtain rfl := (Prod.mk.inj (hrefused.symm.trans hrun)).1
          exact hspares
    | ok a =>
      have hcompletes := completes_of_registered hrun
      have hadmitted : AttemptAdmitted c.fabric := by
        rcases @registerAttemptLocked_eq c.fabric now reservation kind id reservation.worker
          reservation.workerBoot with ⟨hroom, -⟩ | ⟨-, t', e, hrefused, -⟩
        · exact hroom
        · cases (Prod.mk.inj (hrefused.symm.trans hrun)).2
      rw [forall_prop_of_true hadmitted]
      by_cases hreaches : ∃ i, Reaches c reservation i
      · obtain ⟨i, hi⟩ := hreaches
        rw [unsent_reached h hrun hi]
        refine ⟨fun hsent ↦ ⟨fun hn ↦ absurd hcompletes hn, fun _ j hj ↦ ?_, fun _ hno ↦
          absurd hi (hno i)⟩, fun hclean ↦ hclean.reached hcompletes i hi⟩
        obtain rfl := Option.some.inj (hi.session.symm.trans hj.session)
        exact hsent
      · have hmissing : ∀ i, ¬Reaches c reservation i := fun i hi ↦ hreaches ⟨i, hi⟩
        rw [unsent_missing h hrun hmissing]
        exact ⟨fun hlost ↦ ⟨fun hn ↦ absurd hcompletes hn, fun _ j hj ↦ absurd hj (hmissing j),
          fun _ _ ↦ hlost⟩, fun hclean ↦ hclean.missing hcompletes hmissing⟩

end Dispatch

namespace Sample

/-- A worker registers, and a slice is reserved for it. -/
def reservedForWorker : List Event :=
  [.accept, .receive 0 (registration 7 8) 1, .operate (.registerBackendAccelerator device 1),
    .operate (.plan { profile := profile.id } 2), .operate (.reserve 2 3),
    .operate (.bindReservation 3 7 8 1 3)]

/-- A connection over which nothing goes through. -/
def broken : Transport := fun _ ↦ failure .closed "connection is closed"

def isUnsent : Result Dispatch → Bool
  | .ok (.unsent _) => true
  | _ => false

lemma eq_of_isUnsent {result : Result Dispatch} (h : isUnsent result = true) :
    ∃ outcome, result = .ok (.unsent outcome) := by
  match result, h with
  | .ok (.unsent outcome), _ => exact ⟨outcome, rfl⟩

end Sample

/-- A request that does not go through leaves its caller in the table. -/
theorem unsent_left_waiting : ¬∀ c sends id kind now, coordinator.Reachable (fun _ _ ↦ True) c →
    UnsentLeavesNothing c sends id kind now := by
  intro h
  let c := coordinator.run Sample.reservedForWorker (CoordinatorState.created {} 0)
  have hc : coordinator.Reachable (fun _ _ ↦ True) c := .run (.initial ⟨_, _, rfl⟩) (by decide)
  have hwaits : ((Coordinator.dispatchMutation Sample.broken 3 .createPartition 4 c).1.waiting.find?
      5).isSome = true := by decide +kernel
  have hunsent : Sample.isUnsent
      (Coordinator.dispatchMutation Sample.broken 3 .createPartition 4 c).2 = true := by
    decide +kernel
  have hregistered : ((registeredAttempt c 3 .createPartition 4).map PartitionAttempt.id) =
      some 5 := by decide +kernel
  have hleaves := h c Sample.broken 3 .createPartition 4 hc
  unfold UnsentLeavesNothing at hleaves
  clear_value c
  obtain ⟨a, ha, hid⟩ := Option.map_eq_some_iff.mp hregistered
  have hnothing := hleaves (.inr (Sample.eq_of_isUnsent hunsent))
  rw [← hid, hnothing.waiting a ha] at hwaits
  cases hwaits

end PartitionFabric

import PartitionFabric.Invariants.Passes
import PartitionFabric.Invariants.Publication

/-!
The transitions that one step makes: every operation changes a record along one transition of the
table at most, and a reconciliation along one before it decides attempts and one after.
-/

namespace PartitionFabric

open Procedure

variable {s t : FabricState} {op : Op} {p : PartitionId} {r : PartitionRecord}

/-- Below the floor of a step every record stays, and its transitions are composed. -/
lemma Evolves.legal {π : Scope} {floor : UInt64} (h : Evolves π floor s t) (hp : p < floor)
    (hr : s.findPartition p = some r) :
    ∃ r', t.findPartition p = some r' ∧ Legal π.enters r.state r'.state := by
  have hrel := h.partitions p hp
  rw [show s.partitions.find? p = some r from hr] at hrel
  cases hr' : t.partitions.find? p with
  | none =>
      rw [hr'] at hrel
      cases hrel
  | some r' =>
      rw [hr'] at hrel
      cases hrel with
      | some hevolves => exact ⟨r', hr', hevolves.legal⟩

section Survey

/-- The part of a reconciliation that compares the records of a device with its layout. -/
def survey (id : AcceleratorId) (observed : BackendLayout) (now : UInt64) :
    FabricM (Observation × Pass) := do
  let s ← Procedure.get
  match s.findAccelerator id with
  | none => Procedure.throw (makeError .notFound "accelerator is not registered" (decimal id.toNat))
  | some accelerator => do
    Procedure.lift (validateBackendLayout observed s.limits)
    let reportId ← allocateId
    let report : ReconciliationReport :=
      { id := reportId
        accelerator := id
        acceleratorGeneration := accelerator.generation
        capabilityGeneration := accelerator.capability.generation
        devicePresent := observed.devicePresent }
    let (o, report) ← Observation.noteReset ⟨id, accelerator, observed, now⟩ report
    let s ← Procedure.get
    let pass ← s.partitions.keys.foldlM o.matchRecord ⟨[], o.noteDevice report⟩
    pure (o, pass)

/-- The part of a reconciliation that decides attempts and records what nothing explains. -/
def concludeSurvey (surveyed : Observation × Pass) : FabricM ReconciliationReport := do
  let s ← Procedure.get
  let pass ← s.attempts.keys.foldlM surveyed.1.resolveAttempt surveyed.2
  let report ← surveyed.1.recordUnexpected pass.claimed surveyed.1.layout.partitions pass.report
  Procedure.modify surveyed.1.refreshEvidence
  Procedure.modify FabricState.bumpStateGeneration
  pure report

variable {id : AcceleratorId} {observed : BackendLayout} {now : UInt64}

/-- A reconciliation of a device that is present surveys it, and then concludes what it found. -/
lemma reconcile_eq (hpresent : observed.devicePresent = true) :
    reconcile id observed now = survey id observed now >>= concludeSurvey := by
  funext s
  unfold reconcile survey concludeSurvey
  rw [get_bind, bind_assoc, get_bind]
  cases s.findAccelerator id with
  | none => rfl
  | some accelerator =>
      simp only [hpresent, if_true, Observation.reconcilePresent, Observation.reconcilePasses,
        bind_assoc]
      rfl

variable {o : Observation} {pass : Pass} {key : PartitionId}

/-- On whichever way a comparison takes, it leads its record to one state at most. -/
lemma steered_matchRecord (o : Observation) (pass : Pass) (key : PartitionId) (floor : UInt64)
    (s : FabricState) : ∃ x ∈ matchedStates,
      Advances (Evolves { activates := True, enters := (· ∈ [x]) } floor)
        (o.matchRecord pass key) s := by
  unfold matchedStates Observation.matchRecord
  cases hrecord : (s.findPartition key).filter fun r ↦ r.accelerator = o.id && inLayout r with
  | none =>
      refine ⟨.retired, by simp, advances_get_bind ?_⟩
      rw [hrecord]
      exact advances_pure _ _
  | some record =>
      have hfind := (Option.filter_eq_some_iff.mp hrecord).1
      by_cases hunnamed : record.nativeIdentity.nativeId.isEmpty = true
      · refine ⟨.revalidationRequired, by simp, advances_get_bind ?_⟩
        rw [hrecord]
        refine advances_ite (fun _ ↦ ?_) fun hnamed ↦ absurd hunnamed hnamed
        exact advances_revalidateUncorrelated (List.mem_singleton_self _)
      · cases hobserved : observedNative o.layout record.nativeIdentity.nativeId with
        | none =>
            refine ⟨.retired, by simp, advances_get_bind ?_⟩
            rw [hrecord]
            refine advances_ite (fun h ↦ absurd h hunnamed) fun _ ↦ ?_
            rw [hobserved]
            exact advances_retireMissing hfind (List.mem_singleton_self _)
        | some native =>
            -- a record that was offline is left to revalidation, not adopted at once
            by_cases hadopts : record.state = .revalidationRequired ∧
                Observation.profileMatches s record native = true
            · refine ⟨.active, by simp, advances_get_bind ?_⟩
              rw [hrecord]
              refine advances_ite (fun h ↦ absurd h hunnamed) fun _ ↦ ?_
              rw [hobserved]
              refine advances_ite (fun _ ↦ ?_) fun h ↦ absurd hadopts.2 h
              refine advances_confirmMatched trivial (fun hoffline ↦ ?_)
                fun _ ↦ List.mem_singleton_self _
              rw [hadopts.1] at hoffline
              cases hoffline
            · refine ⟨.revalidationRequired, by simp, advances_get_bind ?_⟩
              rw [hrecord]
              refine advances_ite (fun h ↦ absurd h hunnamed) fun _ ↦ ?_
              rw [hobserved]
              refine advances_ite (fun hmatches ↦ ?_) fun _ ↦
                advances_fenceChanged (List.mem_singleton_self _)
              exact advances_confirmMatched trivial (fun _ ↦ List.mem_singleton_self _)
                fun hstate ↦ absurd ⟨hstate, hmatches⟩ hadopts

/-- What holds between the comparisons: the records that are left are as they were, and the others
made one transition at most. -/
structure Steering (s₀ : FabricState) (keys : List PartitionId) (s : FabricState) : Prop where
  untouched : ∀ p ∈ keys, s.partitions.find? p = s₀.partitions.find? p
  changed : ∀ p r, s₀.findPartition p = some r →
    ∃ r', s.findPartition p = some r' ∧ Changes matchedStates r.state r'.state
  indexed : Indexed s
  nodup : keys.Nodup

variable {s₀ : FabricState} {keys : List PartitionId}

lemma Steering.done (h : Steering s₀ keys s) : Steering s₀ [] s :=
  ⟨fun _ hp ↦ absurd hp List.not_mem_nil, h.changed, h.indexed, List.nodup_nil⟩

lemma steering_matchRecord (h : Steering s₀ (key :: keys) s) :
    Steering s₀ keys (o.matchRecord pass key s).1 := by
  obtain ⟨hkey, hnodup⟩ := List.nodup_cons.mp h.nodup
  have hlocal : Localized key AnyChange s (o.matchRecord pass key s).1 := localized_matchRecord
  obtain ⟨x, hx, hsteered⟩ := steered_matchRecord o pass key s.ids.next s
  refine ⟨fun p hp ↦ ?_, fun p r hr ↦ ?_, hsteered.indexed h.indexed, hnodup⟩
  · have hne : p ≠ key := fun heq ↦ hkey (heq ▸ hp)
    exact (hlocal.others p hne).trans (h.untouched p (List.mem_cons_of_mem _ hp))
  · by_cases hp : p = key
    · subst hp
      have hr' : s.findPartition p = some r := (h.untouched p List.mem_cons_self).trans hr
      obtain ⟨r', hr', hlegal⟩ := hsteered.legal (h.indexed.partitions p r hr').2 hr'
      refine ⟨r', hr', (hlegal.changes (unchained_singleton x)).mono ?_⟩
      simpa using hx
    · obtain ⟨r', hr', hchanges⟩ := h.changed p r hr
      exact ⟨r', (hlocal.others p hp).trans hr', hchanges⟩

lemma steering_initial (hi : Indexed t) (h : t.partitions = s.partitions) :
    Steering s t.partitions.keys t := by
  refine ⟨fun p _ ↦ by rw [h], fun p r hr ↦ ⟨r, ?_, .refl _⟩, hi, KeyedMap.keys_nodup _⟩
  rw [FabricState.findPartition, h]
  exact hr

/-- The comparisons lead every record along one transition at most. -/
lemma steering_comparisons {report : ReconciliationReport} (hi : Indexed t)
    (h : t.partitions = s.partitions) :
    Meets (Steering s []) (fun _ u ↦ Steering s [] u)
      (t.partitions.keys.foldlM o.matchRecord ⟨[], report⟩) t :=
  meets_foldlM (Q := fun keys _ u ↦ Steering s keys u)
    (fun _ _ _ _ hu ↦ meets_of_advances (R := fun _ u ↦ Steering s _ u)
      (steering_matchRecord hu) (fun _ hv ↦ hv.done) fun _ _ hv ↦ hv) (steering_initial hi h)

/-- So they do once a new incarnation of the device is recorded. -/
lemma steering_noteReset {report : ReconciliationReport} (hi : Indexed t)
    (h : t.partitions = s.partitions)
    (hfind : t.accelerators.find? o.id = some o.accelerator) :
    Meets (Steering s []) (fun surveyed u ↦ surveyed.1.id = o.id ∧ Steering s [] u) (do
      let (o, report) ← o.noteReset report
      let s ← Procedure.get
      let pass ← s.partitions.keys.foldlM o.matchRecord ⟨[], o.noteDevice report⟩
      pure (o, pass)) t := by
  let π : Scope := { renumbers := fun _ ↦ True, reincarnates := fun _ ↦ True }
  have hevolves : Advances (Evolves π 0) (o.noteReset report) t :=
    advances_noteReset hfind fun _ ↦ ⟨trivial, trivial⟩
  unfold Meets
  cases hrun : o.noteReset report t with
  | mk u result =>
      unfold Advances at hevolves
      rw [hrun] at hevolves
      cases result with
      | error e =>
          rw [bind_error hrun, noteReset_error hrun]
          exact (steering_initial hi h).done
      | ok entry =>
          rw [bind_ok hrun]
          obtain ⟨hid, -, hsame⟩ := noteReset_same u entry hrun
          apply meets_get_bind
          apply meets_bind (steering_comparisons (hevolves.indexed hi) (hsame.partitions.trans h))
          intro pass v hv
          exact meets_pure ⟨hid, hv⟩

/-- A survey leads every record along one transition at most. -/
lemma steering_survey (id : AcceleratorId) (observed : BackendLayout) (now : UInt64)
    (hi : Indexed s) :
    Meets (Steering s []) (fun surveyed t ↦ surveyed.1.id = id ∧ Steering s [] t)
      (survey id observed now) s := by
  have hidle : Steering s [] s := (steering_initial hi rfl).done
  have hallocates : Advances (Evolves {} 0) allocateId s := advances_allocateId
  apply meets_get_bind
  cases hfind : s.findAccelerator id with
  | none => exact hidle
  | some accelerator =>
      cases hvalid : validateBackendLayout observed s.limits with
      | error e => exact hidle
      | ok u =>
          unfold Advances at hallocates
          change Meets _ _ (allocateId >>= fun _ ↦ _) s
          unfold Meets
          rcases allocateId_cases s with ⟨e, h⟩ | ⟨ids, -, h⟩
          · rw [bind_error h]
            exact hidle
          · rw [bind_ok h]
            rw [h] at hallocates
            exact steering_noteReset (o := ⟨id, accelerator, observed, now⟩)
              (hallocates.indexed hi) rfl hfind

/-- What concludes a survey leads records only to the states that attempts are decided with. -/
lemma advances_concludeSurvey {π : Scope} {floor : UInt64} {surveyed : Observation × Pass}
    (hn : π.natives) (hactive : π.activates) (hd : π.decides = some surveyed.1.id)
    (hs : Adjudicates π s surveyed.1.id) (hfloor : floor ≤ s.ids.next)
    (henters : ∀ a ∈ resolvedStates, π.enters a) :
    Advances (Evolves π floor) (concludeSurvey surveyed) s := by
  apply advances_get_bind
  refine advances_bind_of (advances_foldlM fun _ _ _ t hst ↦
    advances_resolveAttempt hn hactive hd (hs.of_evolves hst) henters) fun t pass _ hst ↦ ?_
  refine advances_bind (advances_recordUnexpected hn hactive (hfloor.trans hst.ids))
    fun _ _ _ ↦ ?_
  refine advances_modify_bind evolves_refreshEvidence ?_
  exact advances_bind advances_bump fun _ _ _ ↦ advances_pure _ _

end Survey

section Steps

/-- The registry between the two parts of an operation: a reconciliation of a device that is
present first surveys it, and every other operation has one part only. -/
def Op.midway (s : FabricState) : Op → FabricState
  | .reconcile id observed now =>
    if observed.devicePresent then (survey id observed now s).1 else s
  | _ => s

lemma unchained_nil : Unchained [] := fun _ ha ↦ absurd ha List.not_mem_nil

lemma unchained_begun (kind : AttemptKind) : Unchained kind.begun := by
  cases kind <;> decide

lemma unchained_committed (kind : AttemptKind) : Unchained kind.committed := by
  cases kind <;> decide

lemma unchained_failed (kind : AttemptKind) : Unchained kind.failed := by
  cases kind <;> decide

lemma unchained_resultStates (s : FabricState) (key : PartitionAttemptId)
    (mutation : Result BackendMutationResult) (observed : Option BackendLayout) :
    Unchained (resultStates s key mutation observed) := by
  unfold resultStates
  cases s.findAttempt key with
  | none => exact unchained_nil
  | some attempt =>
      simp only
      cases s.findReservation attempt.reservation with
      | none => exact unchained_nil
      | some reservation =>
          simp only
          split
          · exact unchained_committed _
          · split
            · exact unchained_singleton _
            · exact unchained_failed _

/-- No part of an operation can chain two transitions of the table. -/
lemma unchained_entered (s : FabricState) (op : Op) : Unchained (op.entered s) := by
  cases op with
  | registerAttempt id kind worker boot now => exact unchained_begun kind
  | destroyPartition p now =>
      change Unchained (destructionStates s p)
      unfold destructionStates
      split <;> exact unchained_singleton _
  | applyMutationResult key mutation observed now =>
      exact unchained_resultStates s key mutation observed
  | reconcile id observed now =>
      change Unchained (reconciledStates observed).2
      unfold reconciledStates
      split <;> decide
  | _ =>
      simp only [Op.entered]
      decide

/-- The one transition of an operation of one part. -/
lemma changes_of_matched (hop : op.isImport = false) (hmatched : op.matched = [])
    (hi : Indexed s) (hr : s.findPartition p = some r) :
    ∃ r', (op.step s).findPartition p = some r' ∧ Changes (op.entered s) r.state r'.state := by
  have hscope := lenient_scope op
  have hminds : op.Minds { op.scope with enters := (· ∈ op.entered s) } s := by
    refine ⟨fun a ha ↦ ?_, fun a ha ↦ ha, fun k _ ↦ hscope.republishes k,
      fun k a w b _ ↦ hscope.settles k a w b, fun _ ↦ hscope.answers, fun _ _ _ _ ↦ ?_⟩
    · rw [hmatched] at ha
      cases ha
    · exact ⟨fun _ _ _ _ _ _ _ _ ↦ hscope.settles _ _ _ _,
        fun _ _ _ _ _ ↦ hscope.settles _ _ _ _⟩
  have hstep := evolves_within ((within_scope hop s).restrict _) hminds
  obtain ⟨r', hr', hlegal⟩ := hstep.legal (hi.partitions p r hr).2 hr
  exact ⟨r', hr', hlegal.changes (unchained_entered s op)⟩

/-- The two transitions of a reconciliation of a device that is present. -/
lemma changes_reconcile {observed : BackendLayout} (id : AcceleratorId) (now : UInt64)
    (hpresent : observed.devicePresent = true) (hi : Indexed s) (hr : s.findPartition p = some r) :
    ∃ m r', (survey id observed now s).1.findPartition p = some m ∧
      (reconcile id observed now s).1.findPartition p = some r' ∧
      Changes matchedStates r.state m.state ∧ Changes resolvedStates m.state r'.state := by
  have hsurvey := steering_survey id observed now hi
  rw [reconcile_eq hpresent]
  unfold Meets at hsurvey
  cases hrun : survey id observed now s with
  | mk t result =>
      rw [hrun] at hsurvey
      cases result with
      | error e =>
          rw [bind_error hrun]
          obtain ⟨m, hm, hchanges⟩ := hsurvey.changed p r hr
          exact ⟨m, m, hm, hm, hchanges, .refl _⟩
      | ok surveyed =>
          rw [bind_ok hrun]
          obtain ⟨hid, hsteered⟩ := hsurvey
          obtain ⟨m, hm, hchanges⟩ := hsteered.changed p r hr
          let π : Scope :=
            { natives := True
              activates := True
              decides := some id
              enters := (· ∈ resolvedStates) }
          have hconclude : Advances (Evolves π t.ids.next) (concludeSurvey surveyed) t :=
            advances_concludeSurvey trivial trivial (by rw [hid])
              ⟨fun _ _ _ _ _ _ _ _ ↦ trivial, fun _ _ _ _ _ ↦ trivial⟩ (le_refl _) fun _ ha ↦ ha
          obtain ⟨r', hr', hlegal⟩ := hconclude.legal (hsteered.indexed.partitions p m hm).2 hm
          exact ⟨m, r', hm, hr', hchanges, hlegal.changes (by decide)⟩

/-- The changes that an operation makes to one record: from how it was to how it is midway, and
from there to how it is afterwards, each along one transition of the table at most. -/
lemma changes_step (hop : op.isImport = false) (hi : Indexed s) (hr : s.findPartition p = some r) :
    ∃ m r', (op.midway s).findPartition p = some m ∧ (op.step s).findPartition p = some r' ∧
      Changes op.matched r.state m.state ∧ Changes (op.entered s) m.state r'.state := by
  have hsingle (hmatched : op.matched = []) (hmidway : op.midway s = s) :
      ∃ m r', (op.midway s).findPartition p = some m ∧ (op.step s).findPartition p = some r' ∧
        Changes op.matched r.state m.state ∧ Changes (op.entered s) m.state r'.state := by
    obtain ⟨r', hr', hchanges⟩ := changes_of_matched hop hmatched hi hr
    exact ⟨r, r', by rw [hmidway, hr], hr', .refl _, hchanges⟩
  cases op with
  | reconcile id observed now =>
      by_cases hpresent : observed.devicePresent = true
      · have h := changes_reconcile id now hpresent hi hr
        simp only [Op.midway, Op.matched, Op.entered, reconciledStates, if_pos hpresent]
        exact h
      · refine hsingle ?_ ?_
        · simp only [Op.matched, reconciledStates, if_neg hpresent]
        · simp only [Op.midway, if_neg hpresent]
  | _ => exact hsingle rfl rfl

end Steps

section Runs

/-- Retired records are kept, and kept retired. -/
def StaysRetired (s t : FabricState) : Prop :=
  ∀ p r, s.findPartition p = some r → r.state = .retired →
    ∃ r', t.findPartition p = some r' ∧ r'.state = .retired

instance : Std.Refl StaysRetired := ⟨fun _ _ r hr hretired ↦ ⟨r, hr, hretired⟩⟩

instance : IsTrans FabricState StaysRetired where
  trans s t u hst htu p r hr hretired := by
    obtain ⟨r', hr', hretired'⟩ := hst p r hr hretired
    exact htu p r' hr' hretired'

lemma staysRetired_step (hop : op.isImport = false) (hi : Indexed s) :
    StaysRetired s (op.step s) := by
  intro p r hr hretired
  obtain ⟨m, r', -, hr', hfirst, hsecond⟩ := changes_step hop hi hr
  rw [hretired] at hfirst
  rw [hfirst.eq_retired] at hsecond
  exact ⟨r', hr', hsecond.eq_retired⟩

lemma staysRetired_of_reaches (hi : Indexed s) (h : fabric.Reaches withoutImports s t) :
    StaysRetired s t :=
  (h.related (fun s _ hi hop ↦ (evolves_step hop s).indexed hi)
    (fun _ _ hi hop ↦ staysRetired_step hop hi) hi).2

namespace Sample

/-- The device of the created slice is gone. -/
def lost : List Op := created ++ [.reconcile 1 { layout [] with devicePresent := false } 6]

/-- The device is back and shows the slice. -/
def found : Op := .reconcile 1 (layout ["a"]) 7

end Sample

/-- Every step keeps every partition record and changes its state along one allowed transition at
most, into one of the states of the operation; a reconciliation does so twice, once where it
compares the record with the layout and once where it decides attempts. A retired record stays
retired for the rest of the run. -/
theorem lifecycle_legality (hs : fabric.Reachable withoutImports s) {p : PartitionId}
    {r : PartitionRecord} (hr : s.findPartition p = some r) :
    (∀ op : Op, op.isImport = false → ∃ m r', (op.midway s).findPartition p = some m ∧
      (op.step s).findPartition p = some r' ∧ Changes op.matched r.state m.state ∧
      Changes (op.entered s) m.state r'.state) ∧
    (r.state = .retired → ∀ (t : FabricState) (r' : PartitionRecord),
      fabric.Reaches withoutImports s t → t.findPartition p = some r' → r'.state = .retired) := by
  have hi := indexed_of_reachable hs
  refine ⟨fun op hop ↦ changes_step hop hi hr, fun hretired t r' hreach hr' ↦ ?_⟩
  obtain ⟨q, hq, hstays⟩ := staysRetired_of_reaches hi hreach p r hr hretired
  rwa [← Option.some.inj (hq.symm.trans hr')]

/-- A partition whose device was gone is left to revalidation by the comparison with the layout
that shows it again, and stays there; a released one stays retired. -/
theorem lifecycle_legality_offline :
    let s := fabric.run Sample.lost Sample.opened
    let u := fabric.run (Sample.reserved ++ [.releaseReservation 3 [] 4]) Sample.opened
    ((s.findPartition 4).map PartitionRecord.state = some .offline ∧
      ((Sample.found.midway s).findPartition 4).map PartitionRecord.state =
        some .revalidationRequired ∧
      ∃ r', (Sample.found.step s).findPartition 4 = some r' ∧
        Changes resolvedStates .revalidationRequired r'.state) ∧
    (u.findPartition 4).map PartitionRecord.state = some .retired ∧
      ∀ t r', fabric.Reaches withoutImports u t → t.findPartition 4 = some r' →
        r'.state = .retired := by
  intro s u
  have hoffline : (s.findPartition 4).map PartitionRecord.state = some .offline := by
    decide +kernel
  have hmidway : ((Sample.found.midway s).findPartition 4).map PartitionRecord.state =
      some .revalidationRequired := by decide +kernel
  have hretired : (u.findPartition 4).map PartitionRecord.state = some .retired := by
    decide +kernel
  have hs : fabric.Reachable withoutImports s :=
    System.Reachable.run (.initial ⟨_, _, rfl⟩) (by decide)
  have hu : fabric.Reachable withoutImports u :=
    System.Reachable.run (.initial ⟨_, _, rfl⟩) (by decide)
  refine ⟨⟨hoffline, hmidway, ?_⟩, hretired, ?_⟩
  · obtain ⟨r, hr, -⟩ := Option.map_eq_some_iff.mp hoffline
    obtain ⟨m, r', hm, hr', -, hsecond⟩ := (lifecycle_legality hs hr).1 Sample.found rfl
    rw [hm] at hmidway
    exact ⟨r', hr', Option.some.inj hmidway ▸ hsecond⟩
  · obtain ⟨r, hr, hstate⟩ := Option.map_eq_some_iff.mp hretired
    exact (lifecycle_legality hu hr).2 hstate

end Runs

end PartitionFabric

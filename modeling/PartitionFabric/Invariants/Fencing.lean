import PartitionFabric.Invariants.Lifecycle

/-!
Worker incarnations along runs: what each operation does to the worker records, and when a fenced
or superseded boot identity stays out of authority.
-/

namespace PartitionFabric

open Procedure

variable {s t : FabricState} {now : UInt64} {reason : Text}

section Frames

lemma keeps_workers {α : Type} {m : FabricM α} {π : Scope} {n : UInt64} (hπ : ¬π.workers)
    (h : Advances (Evolves π n) m s) : Advances (Keeps FabricState.workers) m s :=
  h.tenure.workers.resolve_left hπ

/-- A worker record out of authority. -/
def WorkerRecord.fence (record : WorkerRecord) (now : UInt64) (reason : Text) : WorkerRecord :=
  { record with fenced := true, alive := false, fencedAtMs := now, fenceReason := reason }

/-- Fencing touches the record of a worker only when the boot identity is current. -/
lemma workers_fenceWorkerLocked (worker : WorkerId) (boot : WorkerBootId) (now : UInt64)
    (reason : Text) (s : FabricState) :
    (fenceWorkerLocked worker boot now reason s).1.workers = s.workers ∧
        (∀ r, s.findWorker worker = some r → r.boot ≠ boot) ∨
      (∃ r, s.findWorker worker = some r ∧ r.boot = boot) ∧
        (fenceWorkerLocked worker boot now reason s).1.workers =
          s.workers.modify worker (·.fence now reason) := by
  unfold fenceWorkerLocked
  rw [get_bind]
  cases hr : s.findWorker worker with
  | none => exact .inl ⟨rfl, fun r hr' ↦ by cases hr'⟩
  | some record =>
    simp only
    by_cases hboot : record.boot = boot
    · refine .inr ⟨⟨record, rfl, hboot⟩, ?_⟩
      rw [decide_eq_true hboot, when_true, modify_bind]
      have hrest (u : FabricState) : Advances (Keeps FabricState.workers) (do
          s.reservations.keys.forM (fenceReservationWhen now
            (("owning worker incarnation was fenced: " : Text) ++ reason)
            (isWorkerBound worker boot))
          s.attempts.keys.forM (loseAttempt now
            "worker incarnation died or was fenced before acknowledging"
            fun attempt ↦ attempt.worker = worker && attempt.workerBoot = boot)
          Procedure.modify FabricState.bumpStateGeneration) u := by
        apply keeps_workers (π := {}) (n := 0) id
        refine advances_bind (advances_forM fun _ _ _ _ ↦
          advances_fenceReservationWhen (fun _ _ ↦ trivial) trivial) fun _ _ _ ↦ ?_
        exact advances_bind (advances_forM fun _ _ _ _ ↦ advances_loseAttempt trivial trivial)
          fun _ _ _ ↦ advances_bump
      exact hrest _
    · refine .inl ⟨?_, fun r hr' ↦ Option.some.inj hr' ▸ hboot⟩
      rw [decide_eq_false hboot]
      rfl

lemma findWorker_fenceWorkerLocked_of_ne {worker k : WorkerId} (hk : k ≠ worker)
    (boot : WorkerBootId) :
    (fenceWorkerLocked worker boot now reason s).1.workers.find? k = s.workers.find? k := by
  rcases workers_fenceWorkerLocked worker boot now reason s with ⟨h, -⟩ | ⟨-, h⟩
  · rw [h]
  · rw [h, KeyedMap.find?_modify_of_ne _ _ hk]

lemma findWorker_fencePrevious_of_ne {worker : WorkerRecord} {k : WorkerId} (hk : k ≠ worker.id)
    (existing : Option WorkerRecord) (now : UInt64) (s : FabricState) :
    (fencePrevious existing worker now s).1.workers.find? k = s.workers.find? k := by
  unfold fencePrevious
  cases existing with
  | none => rfl
  | some previous =>
    by_cases hboot : previous.boot = worker.boot
    · simp [hboot]
    · simp only [ne_eq, hboot, not_false_eq_true, decide_true, when_true, modify_bind, ignore_apply]
      rw [findWorker_fenceWorkerLocked_of_ne hk, KeyedMap.find?_modify_of_ne _ _ hk]

lemma fencePrevious_ok (existing : Option WorkerRecord) (worker : WorkerRecord) (now : UInt64)
    (s : FabricState) : ∃ t, fencePrevious existing worker now s = (t, .ok ()) := by
  unfold fencePrevious
  cases existing with
  | none => exact ⟨s, rfl⟩
  | some previous =>
    by_cases hboot : previous.boot = worker.boot
    · exact ⟨s, by simp [hboot]⟩
    · exact ⟨_, by simp only [ne_eq, hboot, not_false_eq_true, decide_true, when_true]; rfl⟩

/-- A registration is refused, as invalid or because a new worker has no room, or it replaces the
record of its own worker. -/
theorem noteWorker_cases (worker : WorkerRecord) (now : UInt64) (s : FabricState) :
    (∃ e, noteWorker worker now s = (s, .error e)) ∧
        ((valid worker.id && valid worker.boot) = true → s.findWorker worker.id = none) ∨
      (noteWorker worker now s).2 = .ok () ∧
        ∀ k, (noteWorker worker now s).1.findWorker k =
          if k = worker.id then some { worker with coordinatorEpoch := s.coordinatorEpoch }
          else s.findWorker k := by
  unfold noteWorker
  rw [require_bind]
  split
  · rw [get_bind]
    simp only [require_bind]
    split
    · obtain ⟨t, ht⟩ := fencePrevious_ok (s.findWorker worker.id) worker now s
      have hepoch : t.coordinatorEpoch = s.coordinatorEpoch := by
        have h : Advances (Evolves { workers := True } 0)
            (fencePrevious (s.findWorker worker.id) worker now) s :=
          advances_fencePrevious trivial fun _ _ _ ↦
            ⟨fun _ _ ↦ trivial, trivial, trivial, trivial⟩
        exact (h.of_run ht).tenure.epoch.resolve_left id
      refine .inr ?_
      rw [bind_ok ht]
      refine ⟨rfl, fun k ↦ ?_⟩
      rw [modify_bind, modify_apply, FabricState.findWorker, bump_workers, KeyedMap.find?_insert,
        hepoch]
      split
      · rfl
      · rename_i hk
        have hkept := findWorker_fencePrevious_of_ne hk (s.findWorker worker.id) now s
        rw [ht] at hkept
        exact hkept
    · rename_i hfull
      refine .inl ⟨⟨_, rfl⟩, fun _ ↦ ?_⟩
      simp only [Bool.not_eq_true', Bool.and_eq_false_iff, not_or] at hfull
      simpa using hfull.1
  · rename_i hinvalid
    exact .inl ⟨⟨_, rfl⟩, fun hvalid ↦ absurd hvalid hinvalid⟩

lemma noteWorkerSeen_cases (worker : WorkerId) (boot : WorkerBootId) (atMs : UInt64)
    (s : FabricState) :
    (noteWorkerSeen worker boot atMs s).1 = s ∨
      ∃ r, s.findWorker worker = some r ∧ r.boot = boot ∧
        (noteWorkerSeen worker boot atMs s).1 =
          { s with
            workers := s.workers.modify worker fun w ↦
              { w with lastSeenMs := atMs, alive := true } } := by
  unfold noteWorkerSeen
  rw [get_bind]
  cases hr : s.findWorker worker with
  | none => exact .inl rfl
  | some record =>
    simp only [require_bind]
    split
    · rename_i hboot
      exact .inr ⟨record, rfl, by simpa using hboot, rfl⟩
    · exact .inl rfl

/-- A relation that nothing but the worker records matters to, and not whether they are alive. -/
structure BearsLoss (R : FabricState → FabricState → Prop) : Prop where
  keeps : ∀ s t, t.workers = s.workers → R s t
  life : ∀ s k (f : WorkerRecord → WorkerRecord),
    (∀ w, f w = w ∨ f w = { w with alive := false }) →
    R s { s with workers := s.workers.modify k f }

variable {R : FabricState → FabricState → Prop} [Std.Refl R] [IsTrans FabricState R]

omit [Std.Refl R] [IsTrans FabricState R] in
lemma BearsLoss.advances {α : Type} {m : FabricM α} (hR : BearsLoss R)
    (h : Advances (Evolves {} 0) m s) : Advances R m s :=
  hR.keeps _ _ (keeps_workers (π := {}) (n := 0) id h)

/-- A close takes life from the worker records and nothing else. -/
lemma advances_workers_close (hR : BearsLoss R) : Advances R (close now) s := by
  apply advances_get_bind
  apply advances_when
  intro _
  refine advances_bind (hR.advances (advances_forM fun _ _ _ _ ↦
    advances_closeReservation fun _ _ ↦ trivial)) fun t _ _ ↦ ?_
  refine advances_bind (hR.advances (advances_forM fun _ _ _ _ ↦ advances_closePartition trivial))
    fun t _ _ ↦ ?_
  refine advances_bind (advances_forM fun _ _ _ _ ↦ advances_modify (hR.keeps _ _ rfl))
    fun t _ _ ↦ ?_
  refine advances_bind (advances_forM fun _ _ _ _ ↦ advances_modify
    (hR.life _ _ _ fun _ ↦ .inr rfl)) fun t _ _ ↦ ?_
  refine advances_modify_bind (hR.keeps _ _ rfl) ?_
  refine advances_modify_bind (hR.keeps _ _ bump_workers) ?_
  apply advances_get_bind
  split
  · exact advances_pure ..
  · exact advances_throw ..

lemma advances_workers_advanceCoordinatorEpoch (hR : BearsLoss R) :
    Advances R (advanceCoordinatorEpoch now) s := by
  apply advances_get_bind
  apply advances_lift_bind
  intro epoch _
  refine advances_modify_bind (hR.keeps _ _ rfl) ?_
  refine advances_bind (hR.advances (advances_forM fun _ _ _ _ ↦
    advances_fenceReservationWhen (fun _ _ ↦ trivial) trivial)) fun t _ _ ↦ ?_
  refine advances_bind (hR.advances (advances_forM fun _ _ _ _ ↦
    advances_loseAttempt trivial trivial)) fun t _ _ ↦ ?_
  refine advances_bind (advances_forM fun _ _ _ _ ↦ advances_modify
    (hR.life _ _ _ fun w ↦ ?_)) fun t _ _ ↦ ?_
  · split
    · exact .inr rfl
    · exact .inl rfl
  · refine advances_modify_bind (hR.keeps _ _ bump_workers) ?_
    exact advances_pure ..

end Frames

section Permanence

/-- The record that a worker has under a boot identity satisfies a property. -/
def Incarnation (P : WorkerRecord → Prop) (w : WorkerId) (b : WorkerBootId) (s : FabricState) :
    Prop :=
  ∀ r, s.findWorker w = some r → r.boot = b → P r

/-- Whatever record a worker has under a boot identity, it is fenced and not alive. -/
def OutOfAuthority (w : WorkerId) (b : WorkerBootId) : FabricState → Prop :=
  Incarnation (fun r ↦ r.fenced = true ∧ r.alive = false) w b

/-- The registered incarnation of a worker has a boot identity and is fenced. -/
def IsFenced (w : WorkerId) (b : WorkerBootId) (s : FabricState) : Prop :=
  ∃ r, s.findWorker w = some r ∧ r.boot = b ∧ r.fenced = true

/-- An incarnation is registered and not fenced. -/
def InAuthority (s : FabricState) (w : WorkerId) (b : WorkerBootId) : Prop :=
  ∃ r, s.findWorker w = some r ∧ r.boot = b ∧ r.fenced = false

/-- Another boot identity takes the place of the registered one. -/
def Superseded (w : WorkerId) (b : WorkerBootId) (s t : FabricState) : Prop :=
  (∃ r, s.findWorker w = some r ∧ r.boot = b) ∧ ∃ r', t.findWorker w = some r' ∧ r'.boot ≠ b

/-- A step takes a boot identity out of authority. -/
def Retires (w : WorkerId) (b : WorkerBootId) (s t : FabricState) : Prop :=
  ¬IsFenced w b s ∧ IsFenced w b t ∨ Superseded w b s t

/-- A step does not bring a boot identity back: it is registered only as fenced and dead, and no
heartbeat arrives for it while it is the registered one. -/
def SparesBoot (w : WorkerId) (b : WorkerBootId) (s : FabricState) : Op → Prop
  | .noteWorker worker _ => worker.id = w → worker.boot = b →
      worker.fenced = true ∧ worker.alive = false
  | .noteWorkerSeen worker boot _ => worker = w → boot = b →
      ∀ r, s.findWorker w = some r → r.boot ≠ b
  | .importDurableState _ _ => False
  | _ => True

/-- A property of worker records that the loss of authority establishes and that the loss of life
keeps. -/
structure Yields (P : WorkerRecord → Prop) : Prop where
  fenced : ∀ r : WorkerRecord, r.fenced = true → r.alive = false → P r
  dead : ∀ r : WorkerRecord, P r → P { r with alive := false }

variable {P : WorkerRecord → Prop} {w : WorkerId} {b : WorkerBootId} {op : Op}

lemma Incarnation.of_workers (h : t.workers = s.workers) (hs : Incarnation P w b s) :
    Incarnation P w b t := by
  intro r hr
  rw [FabricState.findWorker, h] at hr
  exact hs r hr

lemma incarnation_modify {k : WorkerId} {f : WorkerRecord → WorkerRecord}
    (h : ∀ r, (f r).boot = r.boot ∧ (P r → P (f r))) :
    Preserves (Incarnation P w b) s { s with workers := s.workers.modify k f } := by
  intro hs r' hr' hb
  rw [FabricState.findWorker, KeyedMap.find?_modify] at hr'
  split at hr'
  · obtain ⟨r, hr, rfl⟩ := Option.map_eq_some_iff.mp hr'
    exact (h r).2 (hs r hr ((h r).1.symm.trans hb))
  · exact hs r' hr' hb

lemma bearsLoss_incarnation (hP : Yields P) : BearsLoss (Preserves (Incarnation P w b)) where
  keeps s t h hs := hs.of_workers h
  life s k f hf := incarnation_modify fun r ↦ by
    rcases hf r with h | h
    · rw [h]
      exact ⟨rfl, id⟩
    · rw [h]
      exact ⟨rfl, hP.dead r⟩

/-- One step that spares a boot identity keeps what is known of its record. -/
theorem incarnation_step (hP : Yields P) (hop : SparesBoot w b s op) (hs : Incarnation P w b s) :
    Incarnation P w b (op.step s) := by
  cases op with
  | noteWorker worker now =>
    rcases noteWorker_cases worker now s with ⟨⟨e, h⟩, -⟩ | ⟨-, h⟩
    · change Incarnation P w b (noteWorker worker now s).1
      rw [h]
      exact hs
    · intro r hr hb
      replace hr := (h w).symm.trans hr
      split at hr
      · rename_i hk
        obtain rfl := Option.some.inj hr
        obtain ⟨hfenced, halive⟩ := hop hk.symm hb
        exact hP.fenced _ hfenced halive
      · exact hs r hr hb
  | noteWorkerSeen worker boot atMs =>
    change Incarnation P w b (noteWorkerSeen worker boot atMs s).1
    rcases noteWorkerSeen_cases worker boot atMs s with h | ⟨r₀, hr₀, hboot, h⟩
    · rw [h]
      exact hs
    · rw [h]
      intro r hr hb
      rw [FabricState.findWorker, KeyedMap.find?_modify] at hr
      split at hr
      · rename_i hk
        subst hk
        obtain ⟨r₁, hr₁, rfl⟩ := Option.map_eq_some_iff.mp hr
        obtain rfl := Option.some.inj (hr₀.symm.trans hr₁)
        have hnot : r₀.boot ≠ b := hop rfl (hboot.symm.trans hb) r₀ hr₀
        exact absurd hb hnot
      · exact hs r hr hb
  | fenceWorker worker boot reason now =>
    change Incarnation P w b (fenceWorkerLocked worker boot now reason s).1
    rcases workers_fenceWorkerLocked worker boot now reason s with ⟨h, -⟩ | ⟨-, h⟩
    · exact hs.of_workers h
    · have hmodify := incarnation_modify (P := P) (w := w) (b := b) (s := s) (k := worker)
        (f := (·.fence now reason)) fun r ↦ ⟨rfl, fun _ ↦ hP.fenced _ rfl rfl⟩
      exact (hmodify hs).of_workers h
  | advanceCoordinatorEpoch now =>
      exact advances_ignore
        (advances_workers_advanceCoordinatorEpoch (bearsLoss_incarnation hP)) hs
  | close now => exact advances_workers_close (bearsLoss_incarnation hP) hs
  | importDurableState d now => exact hop.elim
  | _ => exact hs.of_workers ((evolves_step rfl s).tenure.workers.resolve_left id)

lemma yields_outOfAuthority : Yields fun r ↦ r.fenced = true ∧ r.alive = false :=
  ⟨fun _ hf ha ↦ ⟨hf, ha⟩, fun _ h ↦ ⟨h.1, rfl⟩⟩

lemma yields_deadWhenFenced : Yields fun r ↦ r.fenced = true → r.alive = false :=
  ⟨fun _ _ ha _ ↦ ha, fun _ _ _ ↦ rfl⟩

/-- A boot identity that a step takes out of authority is fenced and dead after it. -/
lemma outOfAuthority_of_retires (hop : SparesBoot w b s op) (h : Retires w b s (op.step s)) :
    OutOfAuthority w b (op.step s) := by
  rcases h with ⟨hbefore, r', hr', -, hfenced⟩ | ⟨-, r', hr', hother⟩
  · have hdead : Incarnation (fun r ↦ r.fenced = true → r.alive = false) w b (op.step s) := by
      refine incarnation_step yields_deadWhenFenced hop fun r hr hb hf ↦ ?_
      exact absurd ⟨r, hr, hb, hf⟩ hbefore
    intro r hr hb
    obtain rfl := Option.some.inj (hr'.symm.trans hr)
    exact ⟨hfenced, hdead _ hr hb hfenced⟩
  · intro r hr hb
    obtain rfl := Option.some.inj (hr'.symm.trans hr)
    exact absurd hb hother

/-- A boot identity that was fenced or superseded stays fenced and dead as long as no registration
and no heartbeat brings it back. -/
theorem fenced_boot_stays_out (hop : SparesBoot w b s op) (h : Retires w b s (op.step s))
    (ht : fabric.Reaches (SparesBoot w b) (op.step s) t) : OutOfAuthority w b t := by
  induction ht with
  | refl => exact outOfAuthority_of_retires hop h
  | step op _ hop ih => exact incarnation_step yields_outOfAuthority hop ih

lemma isFenced_iff : IsFenced w b s ↔
    (s.findWorker w).any (fun r ↦ r.boot = b && r.fenced) = true := by
  simp [IsFenced, Option.any_eq_true]

end Permanence

namespace Sample

/-- A live incarnation of the first worker. -/
def incarnation (boot : WorkerBootId) : Op := .noteWorker { id := 1, boot := boot, alive := true } 1

end Sample

/-- The first boot identity of a worker is fenced; it stays so when a second one registers. -/
theorem fenced_boot_stays_out_replaced :
    let s := fabric.run [Sample.incarnation 1] Sample.opened
    let fence := Op.fenceWorker 1 1 [] 2
    Retires 1 1 s (fence.step s) ∧
      OutOfAuthority 1 1 (fabric.run [Sample.incarnation 2] (fence.step s)) := by
  intro s fence
  have hbefore : (s.findWorker 1).any (fun r ↦ r.boot = 1 && r.fenced) = false := by
    decide +kernel
  have hafter : ((fence.step s).findWorker 1).any (fun r ↦ r.boot = 1 && r.fenced) = true := by
    decide +kernel
  have hretires : Retires 1 1 s (fence.step s) := by
    refine .inl ⟨?_, isFenced_iff.mpr hafter⟩
    rw [isFenced_iff, hbefore]
    exact Bool.false_ne_true
  have hspares : SparesBoot 1 1 s fence := trivial
  refine ⟨hretires, fenced_boot_stays_out hspares hretires (.step (Sample.incarnation 2) .refl ?_)⟩
  intro _ hboot
  cases hboot

/-- The steps that workers take. -/
def Op.concernsWorkers : Op → Bool
  | .noteWorker _ _ | .noteWorkerSeen _ _ _ | .fenceWorker _ _ _ _
  | .registerBackendAccelerator _ _ => true
  | _ => false

/-- A fenced incarnation registers again and is in authority. -/
theorem fenced_boot_registers_again :
    ¬∀ (s : FabricState) (op : Op) w b t, fabric.Reachable (fun _ op ↦ op.concernsWorkers = true) s →
      op.concernsWorkers = true → Retires w b s (op.step s) →
      fabric.Reaches (fun _ op ↦ op.concernsWorkers = true) (op.step s) t →
      OutOfAuthority w b t := by
  intro h
  let s := fabric.run [Sample.incarnation 1] Sample.opened
  let t := (Op.fenceWorker 1 1 [] 2).step s
  let u := (Sample.incarnation 1).step t
  have hs : fabric.Reachable (fun _ op ↦ op.concernsWorkers = true) s :=
    .run (.initial ⟨_, _, rfl⟩) (by decide)
  have hu : fabric.Reaches (fun _ op ↦ op.concernsWorkers = true) t u :=
    .step (Sample.incarnation 1) .refl rfl
  have hbefore : (s.findWorker 1).any (fun r ↦ r.boot = 1 && r.fenced) = false := by
    decide +kernel
  have hafter : (t.findWorker 1).any (fun r ↦ r.boot = 1 && r.fenced) = true := by
    decide +kernel
  have hlater : (u.findWorker 1).map (fun r ↦ (r.boot, r.fenced)) = some (1, false) := by
    decide +kernel
  have hretires : Retires 1 1 s t := by
    refine .inl ⟨?_, isFenced_iff.mpr hafter⟩
    rw [isFenced_iff, hbefore]
    exact Bool.false_ne_true
  have hout := h s (.fenceWorker 1 1 [] 2) 1 1 u hs rfl hretires hu
  obtain ⟨r, hr, hstate⟩ := Option.map_eq_some_iff.mp hlater
  obtain ⟨hboot, hfenced⟩ := Prod.mk.inj hstate
  rw [(hout r hr hboot).1] at hfenced
  cases hfenced

end PartitionFabric

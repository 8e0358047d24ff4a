import PartitionFabric.Invariants.Publication

/-!
The generations of the registry along runs: which steps keep every counter from falling, and what
a changed capability is numbered with.
-/

namespace PartitionFabric

open Procedure

variable {s t u : FabricState} {op : Op}

/-- No generation falls from one state to another, and a capability that was published is the same
later or carries a strictly greater generation. -/
structure Advanced (s t : FabricState) : Prop where
  policy : s.policyGeneration ≤ t.policyGeneration
  epoch : s.coordinatorEpoch ≤ t.coordinatorEpoch
  state : s.stateGeneration ≤ t.stateGeneration
  devices : ∀ k a, s.findAccelerator k = some a → ∃ a', t.findAccelerator k = some a' ∧
    a.generation ≤ a'.generation ∧ a.capability.generation ≤ a'.capability.generation ∧
    (known a.capability.generation = true →
      a'.capability = a.capability ∨ a.capability.generation < a'.capability.generation)
  partitions : ∀ k r, s.findPartition k = some r →
    ∃ r', t.findPartition k = some r' ∧ r.generation ≤ r'.generation

instance : Std.Refl Advanced where
  refl _ :=
    { policy := le_refl _
      epoch := le_refl _
      state := le_refl _
      devices := fun _ a ha ↦ ⟨a, ha, le_refl _, le_refl _, fun _ ↦ .inl rfl⟩
      partitions := fun _ r hr ↦ ⟨r, hr, le_refl _⟩ }

instance : IsTrans FabricState Advanced where
  trans s t u hst htu := by
    refine ⟨hst.policy.trans htu.policy, hst.epoch.trans htu.epoch, hst.state.trans htu.state,
      fun k a ha ↦ ?_, fun k r hr ↦ ?_⟩
    · obtain ⟨a', ha', hgen, hle, hcap⟩ := hst.devices k a ha
      obtain ⟨a'', ha'', hgen', hle', hcap'⟩ := htu.devices k a' ha'
      refine ⟨a'', ha'', hgen.trans hgen', hle.trans hle', fun hknown ↦ ?_⟩
      rcases hcap hknown with hsame | hlt
      · rw [hsame] at hcap'
        exact hcap' hknown
      · exact .inr (lt_of_lt_of_le hlt hle')
    · obtain ⟨r', hr', hle⟩ := hst.partitions k r hr
      obtain ⟨r'', hr'', hle'⟩ := htu.partitions k r' hr'
      exact ⟨r'', hr'', hle.trans hle'⟩

/-- The device under an identity has no published capability. -/
def Unpublished (s : FabricState) (k : AcceleratorId) : Prop :=
  ∀ a, s.findAccelerator k = some a → known a.capability.generation = false

/-- A step overwrites no device of another key and no published capability: a new stable key gets
an identity that no device has, an explicit registration brings the registered capability or one
with a greater generation, and a reconciliation that finds a reset finds no published capability. -/
def KeepsGenerations (s : FabricState) : Op → Prop
  | .registerBackendAccelerator accelerator _ =>
    s.keyIndex.find? accelerator.stableKey = none → s.findAccelerator s.ids.next = none
  | .registerAccelerator record _ => ∀ a, s.findAccelerator record.id = some a →
    known a.capability.generation = true →
    record.capability = a.capability ∨ a.capability.generation < record.capability.generation
  | .reconcile id observed _ => ∀ a, s.findAccelerator id = some a →
    showsReset observed a = true → known a.capability.generation = false
  | .importDurableState _ _ => False
  | _ => True

/-- What a step that keeps the generations may do; the attempts of one device may be decided. -/
def steady (s : FabricState) (decided : Option AcceleratorId) : Scope :=
  { natives := True
    occupancy := True
    decides := decided
    registers := fun _ ↦ True
    totals := False
    workers := True
    epoch := True
    binds := fun _ ↦ True
    resettles := fun _ ↦ True
    forgets := fun k ↦ s.findAccelerator k = none
    renumbers := Unpublished s
    topology := fun _ _ ↦ True
    publishes := fun _ _ _ ↦ True
    plans := fun _ ↦ True
    discards := fun _ ↦ True
    reserves := True
    evicts := fun _ ↦ True
    activates := True
    reincarnates := fun _ ↦ True
    numbers := False
    closes := True }

lemma lenient_steady (s : FabricState) (d : Option AcceleratorId) : (steady s d).Lenient :=
  ⟨fun _ ↦ trivial, fun _ _ _ _ ↦ trivial, fun _ ↦ trivial, trivial⟩

lemma within_steady (h : KeepsGenerations s op) : ∃ d, op.Within (steady s d) s := by
  cases op with
  | registerBackendAccelerator accelerator now =>
    refine ⟨none, fun _ _ ↦ trivial, trivial, fun _ ↦ trivial, fun hnew ↦ .inl ?_, trivial⟩
    unfold FabricState.deviceOf
    rw [hnew]
    exact h hnew
  | registerAccelerator record now =>
    refine ⟨none, fun ht ↦ ht.elim, fun a ha ↦ ?_, trivial, trivial, id,
      fun _ _ ↦ .inl trivial, False.elim⟩
    cases hknown : known a.capability.generation with
    | true => exact .inr (h a ha hknown)
    | false =>
      refine .inl fun a' ha' ↦ ?_
      obtain rfl := Option.some.inj (ha.symm.trans ha')
      exact hknown
  | reconcile id observed now =>
    refine ⟨some id, trivial, trivial, rfl, fun a ha hreset ↦ ⟨fun a' ha' ↦ ?_, trivial⟩⟩
    obtain rfl := Option.some.inj (ha.symm.trans ha')
    exact h a ha hreset
  | importDurableState durable now => exact h.elim
  | plan request now => exact ⟨none, fun _ _ _ _ ↦ trivial, fun _ _ ↦ trivial⟩
  | planOn id request now => exact ⟨none, fun _ _ _ _ ↦ trivial, fun _ _ ↦ trivial⟩
  | planReconfiguration id desired context now =>
    exact ⟨none, fun _ _ _ ↦ trivial, fun _ _ ↦ trivial⟩
  | reserve planId now => exact ⟨none, trivial, fun _ _ _ ↦ trivial⟩
  | registerAttempt id kind worker boot now => exact ⟨none, fun _ ↦ trivial⟩
  | execute id now => exact ⟨none, fun _ ↦ trivial⟩
  | destroyPartition p now => exact ⟨none, trivial, fun _ ↦ trivial, fun _ _ _ _ _ _ ↦ trivial⟩
  | createDestructionReservation p now => exact ⟨none, trivial, fun _ _ _ _ _ _ ↦ trivial⟩
  | executeReconfiguration planId now =>
    exact ⟨none, trivial, fun _ ↦ trivial, fun _ _ _ _ _ _ _ _ ↦ trivial⟩
  | applyMutationResult key mutation observed now =>
    exact ⟨none, trivial, trivial, fun _ _ ↦ trivial⟩
  | cancelDrain p now => exact ⟨none, trivial, trivial⟩
  | bindAssignment assignment => exact ⟨none, trivial, False.elim⟩
  | noteWorker worker now => exact ⟨none, trivial, False.elim⟩
  | close now => exact ⟨none, trivial, trivial⟩
  | advanceCoordinatorEpoch now => exact ⟨none, trivial, trivial⟩
  | installCoordinatorEpoch epoch => exact ⟨none, fun _ ↦ trivial⟩
  | _ => exact ⟨none, trivial⟩

lemma KeepsGenerations.withoutImport (h : KeepsGenerations s op) : op.isImport = false := by
  cases op with
  | importDurableState durable now => exact h.elim
  | _ => rfl

/-- A capability that was not published has the least generation. -/
lemma le_of_unknown {g g' : UInt64} (h : known g = false) : g ≤ g' := by
  have hzero : g = 0 := by simpa [known] using h
  rw [hzero]
  exact UInt64.zero_le

/-- What a device of a step that keeps the generations becomes. -/
lemma DeviceEvolves.advanced {d : Option AcceleratorId} {k : AcceleratorId}
    {a a' : AcceleratorRecord} (ha : s.findAccelerator k = some a)
    (h : DeviceEvolves (steady s d) k a a') :
    a.generation ≤ a'.generation ∧ a.capability.generation ≤ a'.capability.generation ∧
      (known a.capability.generation = true →
        a'.capability = a.capability ∨ a.capability.generation < a'.capability.generation) := by
  refine ⟨h.generation.resolve_left id, ?_, fun hknown ↦ ?_⟩
  · rcases h.capability with hunpublished | hsame | ⟨-, hlt⟩
    · exact le_of_unknown (hunpublished a ha)
    · rw [hsame]
    · exact le_of_lt hlt
  · rcases h.capability with hunpublished | hsame | ⟨-, hlt⟩
    · rw [hunpublished a ha] at hknown
      cases hknown
    · exact .inl hsame
    · exact .inr hlt

theorem advanced_step (hi : Indexed s) (h : KeepsGenerations s op) : Advanced s (op.step s) := by
  obtain ⟨d, hwithin⟩ := within_steady h
  have hevolves := evolves_within hwithin ((lenient_steady s d).minds s op)
  refine ⟨hevolves.tenure.policy, hevolves.tenure.forward, hevolves.tenure.state,
    fun k a ha ↦ ?_, fun k r hr ↦ ?_⟩
  · rcases hevolves.tenure.devices k a ha with hforgotten | ⟨a', ha', hdevice⟩
    · exact absurd (ha.symm.trans hforgotten) (Option.some_ne_none a)
    · exact ⟨a', ha', hdevice.advanced ha⟩
  · have hrel := hevolves.partitions k (hi.partitions k r hr).2
    rw [show s.partitions.find? k = some r from hr] at hrel
    cases hr' : (op.step s).partitions.find? k with
    | none =>
      rw [hr'] at hrel
      cases hrel
    | some r' =>
      rw [hr'] at hrel
      cases hrel with
      | some hrecord => exact ⟨r', hr', hrecord.generation⟩

/-- As long as no step overwrites a device or a published capability, no generation falls and every
capability published after a change carries a greater generation than all before it. -/
theorem generations_never_regress (hs : fabric.Reachable KeepsGenerations s)
    (ht : fabric.Reaches KeepsGenerations s t) : Advanced s t := by
  have hindexed : Indexed s :=
    indexed_of_reachable (hs.mono fun _ _ hop ↦ hop.withoutImport)
  have hkept : ∀ s op, Indexed s → KeepsGenerations s op → Indexed (op.step s) := by
    intro s op hi hop
    obtain ⟨d, hwithin⟩ := within_steady hop
    exact (evolves_within hwithin ((lenient_steady s d).minds s op)).indexed hi
  have hstep : ∀ s op, Indexed s → KeepsGenerations s op → Advanced s (op.step s) :=
    fun _ _ hi hop ↦ advanced_step hi hop
  exact (ht.related hkept hstep hindexed).2

/-- A device that its backend reports again after a reset is numbered on. -/
theorem generations_never_regress_reset :
    let s := fabric.run [.registerBackendAccelerator Sample.device 1] Sample.opened
    let t := (Op.registerBackendAccelerator { Sample.device with bootId := 8 } 2).step s
    Advanced s t ∧ (s.findAccelerator 1).map (fun a ↦ a.capability.generation) = some 1 ∧
      (t.findAccelerator 1).map (fun a ↦ a.capability.generation) = some 2 := by
  intro s t
  have hs : fabric.Reachable KeepsGenerations s :=
    .run (.initial ⟨_, _, rfl⟩) ⟨fun _ ↦ rfl, trivial⟩
  have hknown : s.keyIndex.find? Sample.device.stableKey = some 1 := by
    decide +kernel
  have hbefore : (s.findAccelerator 1).map (fun a ↦ a.capability.generation) = some 1 := by
    decide +kernel
  have hafter : (t.findAccelerator 1).map (fun a ↦ a.capability.generation) = some 2 := by
    decide +kernel
  refine ⟨?_, hbefore, hafter⟩
  clear_value s
  have ht : fabric.Reaches KeepsGenerations s t := by
    refine .step (Op.registerBackendAccelerator { Sample.device with bootId := 8 } 2) .refl ?_
    intro hnew
    exact absurd (hknown.symm.trans hnew) (Option.some_ne_none 1)
  exact generations_never_regress hs ht

/-- A reconciliation that finds a reset forgets the generation of the capability. -/
theorem capability_generation_forgotten :
    ¬∀ s t, fabric.Reachable withoutImports s → fabric.Reaches withoutImports s t →
      Advanced s t := by
  intro h
  let s := fabric.run [.registerBackendAccelerator Sample.device 1] Sample.opened
  let reset := Op.reconcile 1 { Sample.layout [] with bootId := 8 } 2
  let t := reset.step s
  have hs : fabric.Reachable withoutImports s := .run (.initial ⟨_, _, rfl⟩) (by decide)
  have hbefore : (s.findAccelerator 1).map (fun a ↦ a.capability.generation) = some 1 := by
    decide +kernel
  have hafter : (t.findAccelerator 1).map (fun a ↦ a.capability.generation) = some 0 := by
    decide +kernel
  clear_value s
  have ht : fabric.Reaches withoutImports s t := .step reset .refl rfl
  obtain ⟨a, ha, hgeneration⟩ := Option.map_eq_some_iff.mp hbefore
  obtain ⟨a', ha', -, hle, -⟩ := (h s t hs ht).devices 1 a ha
  rw [ha'] at hafter
  have hforgotten : a'.capability.generation = 0 := Option.some.inj hafter
  rw [hgeneration, hforgotten] at hle
  exact absurd hle (by decide)

end PartitionFabric

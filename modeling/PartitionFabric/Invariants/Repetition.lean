import PartitionFabric.Invariants.Stability

/-!
Reconciling twice in a row with one layout of a present device: the second call changes nothing but
the evidence where the first one settles the device.
-/

namespace PartitionFabric

open Procedure

variable {s t : FabricState} {id : AcceleratorId} {observed : BackendLayout} {now : UInt64}
  {report : ReconciliationReport}

/-- After one reconciliation that settles the device, the registry mirrors the layout, or no
identity is left and no second reconciliation starts. -/
lemma mirrors_reconcile (hs : SettlesAtOnce s id observed)
    (hpolicy : s.policy.allowExternalAdoption = false) (hpresent : observed.devicePresent = true)
    (hrun : reconcile id observed now s = (t, .ok report)) :
    (Mirrors t id observed ∨ t.ids.next = uint64Max) ∧ t.policy = s.policy := by
  obtain ⟨accelerator, ids, hfind, hlayout, ⟨hmax, hids⟩, hpasses⟩ := reconcile_eq_ok hpresent hrun
  obtain ⟨hvacant, hs⟩ := hs
  have hvacant' : Vacant { s with ids := ids } observed.partitions.length :=
    hvacant.allocate hmax hids fun _ _ ↦ rfl
  have hsettles : SettlesUnder { s with ids := ids } id (demandsIdentity accelerator observed)
      observed := (hs accelerator hfind).of_same
    ⟨rfl, rfl, rfl, rfl, hids.symm ▸ (lt_add_one hmax).le⟩
  exact mirrors_reconcilePresent (s := { s with ids := ids })
    (o := ⟨id, accelerator, observed, now⟩) hlayout hpolicy hfind hvacant' hsettles t report hpasses

lemma reconcile_exhausted (hpresent : observed.devicePresent = true)
    (h : s.ids.next = uint64Max) : reconcile id observed now s ≠ (t, .ok report) := by
  intro hrun
  obtain ⟨accelerator, ids, -, -, ⟨hmax, -⟩, -⟩ := reconcile_eq_ok hpresent hrun
  exact hmax h

/-- Of two reconciliations in a row with one layout, the second reports nothing missing and nothing
unexpected, and leaves the ledgers and the partitions' states, generations and native identities as
the first one left them. -/
def Stable (s : FabricState) (id : AcceleratorId) (observed : BackendLayout) : Prop :=
  ∀ now now' t u report report', s.policy.allowExternalAdoption = false →
    observed.devicePresent = true → reconcile id observed now s = (t, .ok report) →
      reconcile id observed now' t = (u, .ok report') →
        report'.counts = (0, 0) ∧ u.ledgers = t.ledgers ∧ ∀ p,
          (u.findPartition p).map PartitionRecord.lasting =
            (t.findPartition p).map PartitionRecord.lasting

lemma eq_ok_of_toOption {ε α : Type} {x : Except ε α} {a : α} (h : x.toOption = some a) :
    x = .ok a := by
  cases x with
  | error e => cases h
  | ok b => rw [Option.some.inj h]

end PartitionFabric

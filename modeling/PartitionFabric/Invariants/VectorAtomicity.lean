import Mathlib.Data.UInt
import PartitionFabric.Core.Resource

/-!
Vector arithmetic as a whole: when a sum or a difference that fails leaves its left vector alone,
and that a difference undoes a sum.
-/

namespace PartitionFabric

namespace ResourceVector

section Loops

variable {op : ResourceDimension → VectorM Unit} {guard : UInt32 → UInt64 → ResourceDimension → Prop}
  {g : UInt64 → ResourceDimension → UInt64}

/-- An operation on one dimension that checks it before it writes it. -/
structure Checked (op : ResourceDimension → VectorM Unit)
    (guard : UInt32 → UInt64 → ResourceDimension → Prop)
    (g : UInt64 → ResourceDimension → UInt64) : Prop where
  ok : ∀ v d w, op d v = (w, .ok ()) ↔
    guard v.mask (v.values d) d ∧ w = ⟨Function.update v.values d (g (v.values d) d), v.mask⟩
  fail : ∀ v d w e, op d v = (w, .error e) → w = v

/-- Once a dimension that changes is done, every dimension can be done. -/
def Whole (guard : UInt32 → UInt64 → ResourceDimension → Prop)
    (g : UInt64 → ResourceDimension → UInt64) (ds : List ResourceDimension) (v : ResourceVector) :
    Prop :=
  ∀ d ∈ ds, g (v.values d) d ≠ v.values d →
    (∀ e ∈ ds, e.index ≤ d.index → guard v.mask (v.values e) e) →
    ∀ e ∈ ds, guard v.mask (v.values e) e

/-- The loop writes no dimension that it does not visit. -/
lemma Checked.other (h : Checked op guard g) {d : ResourceDimension} {ds : List ResourceDimension}
    (hd : d ∉ ds) (v : ResourceVector) : (ds.forM op v).1.values d = v.values d := by
  induction ds generalizing v with
  | nil => rfl
  | cons e rest ih =>
      obtain ⟨hne, hrest⟩ := not_or.mp (mt List.mem_cons.mpr hd)
      change ((op e >>= fun _ ↦ rest.forM op) v).1.values d = v.values d
      rcases hrun : op e v with ⟨w, er | u⟩
      · rw [Procedure.bind_error hrun, h.fail v e w er hrun]
      · obtain ⟨-, rfl⟩ := (h.ok v e w).mp hrun
        rw [Procedure.bind_ok hrun, ih hrest]
        exact Function.update_of_ne hne _ _

/-- A vector that differs in a dimension is only left alone by a loop that does not fail. -/
lemma Checked.atomic_of_written (h : Checked op guard g) {v w : ResourceVector}
    {d : ResourceDimension} {rest : List ResourceDimension} (hd : d ∉ rest)
    (hwritten : w.values d ≠ v.values d) (hrest : rest.Nodup) :
    (∀ x e, rest.forM op w = (x, .error e) → x = v) ↔
      ∀ e ∈ rest, guard w.mask (w.values e) e := by
  have hpointwise := forM_pointwise guard g h.ok rest hrest w
  constructor
  · intro hatomic
    rcases hend : rest.forM op w with ⟨x, er | u⟩
    · have hsame := h.other hd w
      rw [hend, hatomic x er hend] at hsame
      exact absurd hsame.symm hwritten
    · exact ((hpointwise x).mp hend).1
  · intro hall x er hend
    rw [(hpointwise _).mpr ⟨hall, rfl⟩] at hend
    cases hend

/-- A loop over the dimensions that fails leaves the vector alone exactly when it is whole. -/
theorem Checked.atomic_iff (h : Checked op guard g) {ds : List ResourceDimension}
    (hds : ds.Pairwise fun d e ↦ d.index < e.index) (v : ResourceVector) :
    (∀ w e, ds.forM op v = (w, .error e) → w = v) ↔ Whole guard g ds v := by
  induction ds generalizing v with
  | nil =>
      refine iff_of_true (fun w e hrun ↦ ?_) (fun d hd ↦ absurd hd List.not_mem_nil)
      cases hrun
  | cons d rest ih =>
      obtain ⟨hfirst, hrest⟩ := List.pairwise_cons.mp hds
      have hnodup : d ∉ rest := fun hmem ↦ Nat.lt_irrefl _ (hfirst d hmem)
      change (∀ w e, (op d >>= fun _ ↦ rest.forM op) v = (w, .error e) → w = v) ↔ _
      rcases hrun : op d v with ⟨w', er | u⟩
      · -- the first dimension fails, and nothing is written
        have hfailed : ¬ guard v.mask (v.values d) d := fun hguard ↦ by
          rw [(h.ok v d _).mpr ⟨hguard, rfl⟩] at hrun
          cases hrun
        rw [Procedure.bind_error hrun]
        refine iff_of_true (fun w e heq ↦ ?_) (fun d' hd' _ hall ↦ absurd (hall d
          List.mem_cons_self ?_) hfailed)
        · rw [← (Prod.mk.inj heq).1]
          exact h.fail v d w' er hrun
        · rcases List.mem_cons.mp hd' with rfl | hd'
          · exact Nat.le_refl _
          · exact (hfirst d' hd').le
      · obtain ⟨hguard, hw⟩ := (h.ok v d w').mp hrun
        rw [Procedure.bind_ok hrun]
        by_cases hchange : g (v.values d) d = v.values d
        · -- the first dimension is written back as it was
          have hsame : w' = v := by rw [hw, hchange, Function.update_eq_self]
          rw [hsame, ih hrest v]
          constructor
          · intro hwhole d' hd' hchanges hall
            rcases List.mem_cons.mp hd' with rfl | hd'
            · exact absurd hchange hchanges
            · have hothers := hwhole d' hd' hchanges fun e he ↦ hall e (List.mem_cons_of_mem _ he)
              exact List.forall_mem_cons.mpr ⟨hguard, hothers⟩
          · intro hwhole d' hd' hchanges hall
            exact (List.forall_mem_cons.mp (hwhole d' (List.mem_cons_of_mem _ hd') hchanges
              (List.forall_mem_cons.mpr ⟨fun _ ↦ hguard, hall⟩))).2
        · -- the first dimension is written, so the rest must not fail
          have hself : w'.values d ≠ v.values d := by
            rw [hw]
            simpa using hchange
          rw [h.atomic_of_written hnodup hself (hrest.imp fun hlt heq ↦ by simp [heq] at hlt)]
          have hkeep : ∀ e ∈ rest, guard w'.mask (w'.values e) e ↔ guard v.mask (v.values e) e := by
            intro e he
            have hne : e ≠ d := fun heq ↦ hnodup (heq ▸ he)
            rw [hw]
            simp only [Function.update_of_ne hne]
          constructor
          · intro hall _ _ _ _
            exact List.forall_mem_cons.mpr ⟨hguard, fun e he ↦ (hkeep e he).mp (hall e he)⟩
          · intro hwhole e he
            have hall := hwhole d List.mem_cons_self hchange (List.forall_mem_cons.mpr
              ⟨fun _ ↦ hguard, fun e he hle ↦ absurd (hfirst e he) (Nat.not_lt.mpr hle)⟩)
            exact (hkeep e he).mpr (hall e (List.mem_cons_of_mem _ he))

end Loops

section Arithmetic

variable {v other : ResourceVector} {op : ResourceDimension → VectorM Unit}
  {g : UInt64 → ResourceDimension → UInt64}

lemma add_fails {d : ResourceDimension} {amount : UInt64} {w : ResourceVector} {e : Error}
    (h : add d amount v = (w, .error e)) : w = v := by
  unfold add at h
  split_ifs at h <;> cases h <;> rfl

lemma sub_fails {d : ResourceDimension} {amount : UInt64} {w : ResourceVector} {e : Error}
    (h : sub d amount v = (w, .error e)) : w = v := by
  unfold sub at h
  split_ifs at h <;> cases h <;> rfl

lemma addStep_checked (other : ResourceVector) :
    Checked (fun d ↦ Procedure.when (other.has d) (add d (other.values d)))
      (fun m x d ↦ other.has d = true → hasBit m d = true ∧ Fits x d (other.values d))
      (fun x d ↦ if other.has d then x + other.values d else x) where
  ok := addStep_eq_ok other
  fail v d w e h := by
    cases hd : other.has d with
    | true =>
        rw [hd, Procedure.when_true] at h
        exact add_fails h
    | false =>
        rw [hd, Procedure.when_false] at h
        cases h

lemma subStep_checked (other : ResourceVector) :
    Checked (fun d ↦ Procedure.when (other.has d) (sub d (other.values d)))
      (fun m x d ↦ other.has d = true → hasBit m d = true ∧ other.values d ≤ x)
      (fun x d ↦ if other.has d then x - other.values d else x) where
  ok := subStep_eq_ok other
  fail v d w e h := by
    cases hd : other.has d with
    | true =>
        rw [hd, Procedure.when_true] at h
        exact sub_fails h
    | false =>
        rw [hd, Procedure.when_false] at h
        cases h

lemma all_ordered : ResourceDimension.all.Pairwise fun d e ↦ d.index < e.index := by decide

/-- Once everything up to a dimension to which something is added fits, everything fits. -/
def AddsWhole (v other : ResourceVector) : Prop :=
  ∀ d, other.has d = true → other.values d ≠ 0 →
    (∀ e, e.index ≤ d.index → other.has e = true → Fits (v.values e) e (other.values e)) →
    ∀ e, other.has e = true → Fits (v.values e) e (other.values e)

/-- Once everything up to a dimension from which something is subtracted is covered, everything
is covered. -/
def SubtractsWhole (v other : ResourceVector) : Prop :=
  ∀ d, other.has d = true → other.values d ≠ 0 →
    (∀ e, e.index ≤ d.index → other.has e = true → other.values e ≤ v.values e) →
    ∀ e, other.has e = true → other.values e ≤ v.values e

/-- Over compatible dimension sets only the fit of the values decides. -/
lemma whole_iff {fits : UInt64 → ResourceDimension → Prop} (hmask : other.mask &&& ~~~v.mask = 0)
    (hg : ∀ x d, g x d ≠ x ↔ other.has d = true ∧ other.values d ≠ 0) :
    Whole (fun m x d ↦ other.has d = true → hasBit m d = true ∧ fits x d) g
        ResourceDimension.all v ↔
      ∀ d, other.has d = true → other.values d ≠ 0 →
        (∀ e, e.index ≤ d.index → other.has e = true → fits (v.values e) e) →
        ∀ e, other.has e = true → fits (v.values e) e := by
  have hhas : ∀ d, other.has d = true → hasBit v.mask d = true :=
    fun d hd ↦ hasBit_of_subset hmask hd
  unfold Whole
  simp only [ResourceDimension.mem_all, true_implies, hg, and_imp]
  constructor
  · intro hwhole d hd hne hall e he
    exact (hwhole d hd hne (fun e hle he ↦ ⟨hhas e he, hall e hle he⟩) e he).2
  · intro hwhole d hd hne hall e he
    exact ⟨hhas e he, hwhole d hd hne (fun e hle he ↦ (hall e hle he).2) e he⟩

/-- A check before the loop leaves the vector alone. -/
lemma require_atomic_iff {c : Bool} {er : Error} {ds : List ResourceDimension} :
    (∀ w e, (Procedure.require c er >>= fun _ ↦ ds.forM op) v = (w, .error e) → w = v) ↔
      (c = true → ∀ w e, ds.forM op v = (w, .error e) → w = v) := by
  cases c with
  | true =>
      rw [Procedure.require_bind, if_pos rfl]
      exact ⟨fun h _ ↦ h, fun h ↦ h rfl⟩
  | false =>
      rw [Procedure.require_bind, if_neg Bool.false_ne_true]
      exact iff_of_true (fun w e h ↦ (Prod.mk.inj h).1.symm) fun h ↦ by cases h

lemma addAssign_atomic_iff : (∀ w e, addAssign other v = (w, .error e) → w = v) ↔
    (other.mask &&& ~~~v.mask = 0 → AddsWhole v other) := by
  have hchanges : ∀ (x : UInt64) d, (if other.has d then x + other.values d else x) ≠ x ↔
      other.has d = true ∧ other.values d ≠ 0 := by
    intro x d
    cases other.has d <;> simp
  change (∀ w e, (Procedure.require (other.mask &&& ~~~v.mask == 0) _ >>= _) v = _ → _) ↔ _
  rw [require_atomic_iff, beq_iff_eq, (addStep_checked other).atomic_iff all_ordered v]
  exact forall_congr' fun hmask ↦ whole_iff hmask hchanges

lemma subAssign_atomic_iff : (∀ w e, subAssign other v = (w, .error e) → w = v) ↔
    (other.mask &&& ~~~v.mask = 0 → SubtractsWhole v other) := by
  have hchanges : ∀ (x : UInt64) d, (if other.has d then x - other.values d else x) ≠ x ↔
      other.has d = true ∧ other.values d ≠ 0 := by
    intro x d
    cases other.has d <;> simp [sub_eq_self]
  change (∀ w e, (Procedure.require (other.mask &&& ~~~v.mask == 0) _ >>= _) v = _ → _) ↔ _
  rw [require_atomic_iff, beq_iff_eq, (subStep_checked other).atomic_iff all_ordered v]
  exact forall_congr' fun hmask ↦ whole_iff hmask hchanges

/-- A sum that succeeded can be subtracted again. -/
theorem subAssign_addAssign {w : ResourceVector} (h : addAssign other v = (w, .ok ())) :
    subAssign other w = (v, .ok ()) := by
  obtain ⟨hmask, hfits, rfl⟩ := addAssign_eq_ok.mp h
  refine subAssign_eq_ok.mpr ⟨hmask, fun d hd ↦ ?_, ?_⟩
  · simp only [plus, hd, if_true]
    rw [UInt64.le_iff_toNat_le, toNat_add_of_lt (hfits d hd).1]
    exact Nat.le_add_left _ _
  · have hvalues : (v.plus other).minus other = ⟨v.values, v.mask⟩ := by
      unfold minus plus
      congr 1
      funext d
      by_cases hd : other.has d = true <;> simp [hd]
    exact hvalues.symm

/-- Vector arithmetic is all-or-nothing exactly when nothing is written before a dimension that
does not fit; a sum can always be undone. -/
theorem arithmetic_atomic_iff :
    (∀ w e, addAssign other v = (w, .error e) → w = v) ∧
        (∀ w e, subAssign other v = (w, .error e) → w = v) ∧
        (∀ w, addAssign other v = (w, .ok ()) → subAssign other w = (v, .ok ())) ↔
      (other.mask &&& ~~~v.mask = 0 → AddsWhole v other ∧ SubtractsWhole v other) := by
  rw [addAssign_atomic_iff, subAssign_atomic_iff]
  exact ⟨fun h hmask ↦ ⟨h.1 hmask, h.2.1 hmask⟩,
    fun h ↦ ⟨fun hmask ↦ (h hmask).1, fun hmask ↦ (h hmask).2, fun _ ↦ subAssign_addAssign⟩⟩

namespace Sample

/-- A full memory without compute. -/
def fullMemory : ResourceVector :=
  ⟨fun d ↦ if d = .memoryBytes then uint64Max else 0,
    ResourceDimension.computeShare.bit ||| ResourceDimension.memoryBytes.bit⟩

/-- A unit of compute and of memory. -/
def unit : ResourceVector :=
  ⟨fun _ ↦ 1, ResourceDimension.computeShare.bit ||| ResourceDimension.memoryBytes.bit⟩

end Sample

/-- The compute share is added before the memory overflows. -/
theorem addAssign_partly : ¬ ∀ w e,
    addAssign Sample.unit Sample.fullMemory = (w, .error e) → w = Sample.fullMemory := by
  intro h
  have hfails : (addAssign Sample.unit Sample.fullMemory).2.isOk = false := by decide +kernel
  have hwritten : (addAssign Sample.unit Sample.fullMemory).1.values .computeShare ≠
      Sample.fullMemory.values .computeShare := by decide +kernel
  rcases hrun : addAssign Sample.unit Sample.fullMemory with ⟨w, e | u⟩
  · rw [hrun, h w e hrun] at hwritten
    exact hwritten rfl
  · rw [hrun] at hfails
    cases hfails

end Arithmetic

end ResourceVector

end PartitionFabric

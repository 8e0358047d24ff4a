import PartitionFabric.Foundation.Matching
import PartitionFabric.Fabric.Reconcile
import PartitionFabric.Invariants.Publication

/-!
When an observed layout is told to match the desired one: the specs are served in order by the first
observed partition left, which is a matching wherever it succeeds, and which may miss one where a
spec that asks for little comes before one that asks for more.
-/

namespace PartitionFabric

variable {layout : BackendLayout} {desired : List NativePartitionSpec}

lemma serveSpecs_eq_firstFit (unused : List BackendNativePartition) :
    serveSpecs desired unused = firstFit NativePartitionSpec.admits desired unused := by
  induction desired generalizing unused with
  | nil => rfl
  | cons spec rest ih => rw [serveSpecs, firstFit, ih]

/-- A layout is told to match exactly when the observed partitions and the specs correspond one to
one, and to satisfy specs when each of them has an observed partition of its own. -/
def MatchesFaithfully (layout : BackendLayout) (desired : List NativePartitionSpec) : Prop :=
  (layoutMatchesExactly layout desired = true ↔
    Paired NativePartitionSpec.admits desired layout.partitions) ∧
  (desired ≠ [] → (layoutSatisfies layout desired = true ↔
    Assignable NativePartitionSpec.admits desired layout.partitions))

/-- Matching is exact when no spec is given an observed partition that the specs after it cannot do
without. -/
theorem matches_faithfully_iff : MatchesFaithfully layout desired ↔
    Unstarved NativePartitionSpec.admits desired layout.partitions := by
  have hsatisfies : desired ≠ [] → (layoutSatisfies layout desired = true ↔
      firstFit NativePartitionSpec.admits desired layout.partitions = true) := by
    intro hdesired
    rw [layoutSatisfies, serveSpecs_eq_firstFit, List.isEmpty_eq_false_iff.mpr hdesired,
      Bool.not_false, Bool.true_and]
  constructor
  · rintro ⟨-, h⟩
    cases desired with
    | nil => trivial
    | cons spec rest =>
        rw [← firstFit_iff_assignable_iff, ← hsatisfies (List.cons_ne_nil _ _)]
        exact h (List.cons_ne_nil _ _)
  · intro h
    have hfits := firstFit_iff_assignable_iff.mpr h
    refine ⟨?_, fun hdesired ↦ (hsatisfies hdesired).trans hfits⟩
    rw [paired_iff, ← hfits, layoutMatchesExactly, serveSpecs_eq_firstFit, Bool.and_eq_true,
      decide_eq_true_eq]

lemma equal_iff {v w : ResourceVector} : v.equal w = true ↔
    v.mask = w.mask ∧ ∀ d, v.has d = true → v.values d = w.values d := by
  simp only [ResourceVector.equal, Bool.and_eq_true, beq_iff_eq, List.all_eq_true,
    ResourceDimension.mem_all, true_implies, Bool.or_eq_true, Bool.not_eq_true']
  refine and_congr_right fun _ ↦ forall_congr' fun d ↦ ?_
  cases v.has d <;> simp

lemma equal_symm {v w : ResourceVector} (h : v.equal w = true) : w.equal v = true := by
  obtain ⟨hmask, hvalues⟩ := equal_iff.mp h
  refine equal_iff.mpr ⟨hmask.symm, fun d hd ↦ (hvalues d ?_).symm⟩
  rwa [ResourceVector.has, hmask]

lemma equal_trans {u v w : ResourceVector} (h : u.equal v = true) (h' : v.equal w = true) :
    u.equal w = true := by
  obtain ⟨hmask, hvalues⟩ := equal_iff.mp h
  obtain ⟨hmask', hvalues'⟩ := equal_iff.mp h'
  refine equal_iff.mpr ⟨hmask.trans hmask', fun d hd ↦ (hvalues d hd).trans (hvalues' d ?_)⟩
  rwa [ResourceVector.has, ← hmask]

/-- Specs that name a native profile and resources are matched exactly in every order. -/
theorem matches_faithfully_of_named (h : ∀ spec ∈ desired,
    spec.vendorNativeProfile.isEmpty = false ∧ spec.resources.empty = false) :
    MatchesFaithfully layout desired := by
  rw [matches_faithfully_iff]
  apply unstarved_of_widening
  refine List.pairwise_iff_forall_sublist.mpr ?_
  intro spec spec' hsublist
  obtain ⟨hnamed, hsized⟩ := h spec (hsublist.subset (by simp))
  obtain ⟨hnamed', hsized'⟩ := h spec' (hsublist.subset (by simp))
  rintro ⟨p, -, hp, hp'⟩ q - hq
  simp only [NativePartitionSpec.admits, hnamed, hsized, hnamed', hsized', Bool.false_or,
    Bool.and_eq_true, decide_eq_true_eq] at hp hp' hq ⊢
  exact ⟨hq.1.trans (hp.1.symm.trans hp'.1), equal_trans hq.2 (equal_trans (equal_symm hp.2) hp'.2)⟩

namespace Sample

/-- A spec that any observed partition answers, and one for a profile of its own. -/
def anyThenNamed : List NativePartitionSpec := [{}, { vendorNativeProfile := "1g" }]

/-- The device with a slice of that profile in front of one of another. -/
def mixed : BackendLayout :=
  { Sample.layout ["a"] with
    partitions := [native "a", { native "b" with vendorNativeProfile := "2g" }] }

end Sample

/-- The spec that asks for nothing takes the one partition that the other could use. -/
theorem matches_unfaithfully : ¬ ∀ layout desired, MatchesFaithfully layout desired := by
  intro h
  have hexact : layoutMatchesExactly Sample.mixed Sample.anyThenNamed = false := by decide +kernel
  have hpaired : Paired NativePartitionSpec.admits Sample.anyThenNamed Sample.mixed.partitions :=
    ⟨(Equiv.swap 0 1 : Equiv.Perm (Fin 2)), by decide +kernel⟩
  rw [(h Sample.mixed Sample.anyThenNamed).1.mpr hpaired] at hexact
  cases hexact

end PartitionFabric

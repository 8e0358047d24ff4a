import Mathlib.Data.List.Sort
import Mathlib.Data.Prod.Basic
import PartitionFabric.Codec.Payload

/-!
Canonical explanations: what is left of the order in which factors were added.
-/

namespace PartitionFabric

/-- The comparator of the canonical order. The sequence number takes no part. -/
def ExplanationFactor.before (lhs rhs : ExplanationFactor) : Bool :=
  if lhs.code ≠ rhs.code then lhs.code.ctorIdx < rhs.code.ctorIdx
  else if lhs.subject ≠ rhs.subject then lhs.subject < rhs.subject
  else if lhs.detail ≠ rhs.detail then lhs.detail < rhs.detail
  else lhs.magnitude < rhs.magnitude

/-- Factors numbered by their positions. -/
def Explanation.renumber (factors : List ExplanationFactor) : List ExplanationFactor :=
  factors.mapIdx fun index factor ↦ { factor with sequence := index.toUInt32 }

/-- The first factors up to a bound, where no bound is zero. -/
def Explanation.truncate (maxFactors : ℕ) (factors : List ExplanationFactor) :
    List ExplanationFactor :=
  if 0 < maxFactors ∧ maxFactors < factors.length then factors.take maxFactors else factors

/-- A stable sort, the bound, and new sequence numbers. -/
def Explanation.canonicalize (explanation : Explanation) (maxFactors : ℕ) : Explanation :=
  let sorted := explanation.factors.insertionSort fun lhs rhs ↦ ¬ rhs.before lhs
  { explanation with factors := renumber (truncate maxFactors sorted) }

namespace ExplanationFactor

section Order

/-- What the comparator looks at. -/
def key (factor : ExplanationFactor) : ℕ × Text × Text × ℤ :=
  (factor.code.ctorIdx, factor.subject, factor.detail, factor.magnitude)

/-- The lexicographic order of keys. -/
def KeyBefore : ℕ × Text × Text × ℤ → ℕ × Text × Text × ℤ → Prop :=
  Prod.Lex (· < ·) (Prod.Lex (· < ·) (Prod.Lex (· < ·) (· < ·)))

instance : Std.Trichotomous (α := Text) (· < ·) :=
  ⟨fun _ _ hab hba ↦ List.le_antisymm (List.not_lt.1 hba) (List.not_lt.1 hab)⟩

instance : IsTrans Text (· < ·) := ⟨fun _ _ _ hab hbc ↦ List.lt_trans hab hbc⟩

instance : Std.Asymm (α := Text) (· < ·) := ⟨fun _ _ hab hba ↦ List.lt_asymm hab hba⟩

lemma code_eq_iff (c d : ExplanationCode) : c = d ↔ c.ctorIdx = d.ctorIdx := by
  constructor
  · rintro rfl
    rfl
  · intro h
    rw [← c.ofNat_ctorIdx, h, d.ofNat_ctorIdx]

lemma before_iff (lhs rhs : ExplanationFactor) :
    lhs.before rhs = true ↔ KeyBefore lhs.key rhs.key := by
  unfold before KeyBefore key
  simp only [Prod.lex_iff, ne_eq, code_eq_iff]
  by_cases hcode : lhs.code.ctorIdx = rhs.code.ctorIdx
  · by_cases hsubject : lhs.subject = rhs.subject
    · by_cases hdetail : lhs.detail = rhs.detail
      · simp [hcode, hsubject, hdetail]
      · simp [hcode, hsubject, hdetail]
    · simp [hcode, hsubject]
  · simp [hcode]

instance : Std.Trichotomous KeyBefore :=
  inferInstanceAs (Std.Trichotomous (Prod.Lex _ (Prod.Lex _ (Prod.Lex _ _))))

instance : IsTrans _ KeyBefore :=
  inferInstanceAs (IsTrans _ (Prod.Lex _ (Prod.Lex _ (Prod.Lex _ _))))

instance : Std.Asymm KeyBefore :=
  inferInstanceAs (Std.Asymm (Prod.Lex _ (Prod.Lex _ (Prod.Lex _ _))))

@[simp] lemma unnumbered_key (factor : ExplanationFactor) : factor.unnumbered.key = factor.key :=
  rfl

/-- Factors of one key differ in their positions only. -/
lemma unnumbered_eq_of_key {lhs rhs : ExplanationFactor} (h : lhs.key = rhs.key) :
    lhs.unnumbered = rhs.unnumbered := by
  cases lhs
  cases rhs
  simp only [key, Prod.mk.injEq, ← code_eq_iff] at h
  obtain ⟨rfl, rfl, rfl, rfl⟩ := h
  rfl

/-- The relation that the sort works with. -/
def NotAfter (lhs rhs : ExplanationFactor) : Prop := ¬ rhs.before lhs = true

instance : DecidableRel NotAfter := fun lhs rhs ↦ inferInstanceAs (Decidable (¬ rhs.before lhs))

lemma notAfter_iff (lhs rhs : ExplanationFactor) :
    NotAfter lhs rhs ↔ ¬ KeyBefore rhs.key lhs.key := by
  rw [NotAfter, before_iff]

instance : Std.Total NotAfter := by
  constructor
  intro lhs rhs
  rw [notAfter_iff, notAfter_iff]
  by_cases h : KeyBefore rhs.key lhs.key
  · exact .inr (Std.Asymm.asymm _ _ h)
  · exact .inl h

/-- Factors neither of which is after the other differ in their positions only. -/
lemma unnumbered_eq_of_notAfter {lhs rhs : ExplanationFactor} (h : NotAfter lhs rhs)
    (h' : NotAfter rhs lhs) : lhs.unnumbered = rhs.unnumbered := by
  rw [notAfter_iff] at h h'
  exact unnumbered_eq_of_key (Std.Trichotomous.trichotomous _ _ h' h)

instance : IsTrans _ NotAfter := by
  constructor
  intro a b c hab hbc
  rw [notAfter_iff] at hab hbc ⊢
  intro hca
  by_cases h : KeyBefore a.key b.key
  · exact hbc (IsTrans.trans _ _ _ hca h)
  · have hkey := Std.Trichotomous.trichotomous (r := KeyBefore) _ _ h hab
    exact hbc (hkey ▸ hca)

end Order

end ExplanationFactor

namespace Explanation

open ExplanationFactor

section Parts

@[simp] lemma length_renumber (factors : List ExplanationFactor) :
    (renumber factors).length = factors.length := List.length_mapIdx

/-- New numbers depend on the positions, not on the old numbers. -/
lemma renumber_unnumbered (factors : List ExplanationFactor) :
    renumber (factors.map unnumbered) = renumber factors := by
  apply List.ext_getElem?
  intro index
  simp [renumber, unnumbered, Function.comp_def]

lemma unnumbered_renumber (factors : List ExplanationFactor) :
    (renumber factors).map unnumbered = factors.map unnumbered := by
  apply List.ext_getElem?
  intro index
  simp only [renumber, List.getElem?_map, List.getElem?_mapIdx, Option.map_map]
  rfl

/-- Renumbering again changes nothing. -/
lemma renumber_renumber (factors : List ExplanationFactor) :
    renumber (renumber factors) = renumber factors := by
  rw [← renumber_unnumbered, unnumbered_renumber, renumber_unnumbered]

lemma truncate_map (maxFactors : ℕ) (f : ExplanationFactor → ExplanationFactor)
    (factors : List ExplanationFactor) :
    truncate maxFactors (factors.map f) = (truncate maxFactors factors).map f := by
  unfold truncate
  rw [List.length_map]
  split
  · exact List.map_take.symm
  · rfl

lemma truncate_sublist (maxFactors : ℕ) (factors : List ExplanationFactor) :
    (truncate maxFactors factors).Sublist factors := by
  unfold truncate
  split
  · exact List.take_sublist _ _
  · exact .refl _

lemma length_truncate (maxFactors : ℕ) (factors : List ExplanationFactor) :
    (truncate maxFactors factors).length =
      if 0 < maxFactors then min maxFactors factors.length else factors.length := by
  unfold truncate
  split_ifs
  · rw [List.length_take]
  · omega
  · omega
  · rfl

/-- A list within the bound stays as it is. -/
lemma truncate_eq_self {maxFactors : ℕ} {factors : List ExplanationFactor}
    (h : 0 < maxFactors → factors.length ≤ maxFactors) :
    truncate maxFactors factors = factors := by
  unfold truncate
  rw [if_neg]
  rintro ⟨hpos, hlt⟩
  have := h hpos
  omega

end Parts

section Sorting

lemma notAfter_unnumbered (lhs rhs : ExplanationFactor) :
    NotAfter lhs.unnumbered rhs.unnumbered ↔ NotAfter lhs rhs := by
  simp only [notAfter_iff, unnumbered_key]

lemma pairwise_unnumbered (factors : List ExplanationFactor) :
    (factors.map unnumbered).Pairwise NotAfter ↔ factors.Pairwise NotAfter := by
  rw [List.pairwise_map]
  simp only [notAfter_unnumbered]

/-- The order of a list is that of its numbered form. -/
lemma pairwise_renumber (factors : List ExplanationFactor) :
    (renumber factors).Pairwise NotAfter ↔ factors.Pairwise NotAfter := by
  rw [← pairwise_unnumbered, unnumbered_renumber, pairwise_unnumbered]

/-- Without their positions, sorted lists of the same factors are equal. -/
lemma sorted_unique {first second : List ExplanationFactor}
    (hfirst : first.Pairwise NotAfter) (hsecond : second.Pairwise NotAfter)
    (hperm : (first.map unnumbered).Perm (second.map unnumbered)) :
    first.map unnumbered = second.map unnumbered := by
  have hfirst' : (first.map unnumbered).Pairwise NotAfter := (pairwise_unnumbered _).2 hfirst
  have hsecond' : (second.map unnumbered).Pairwise NotAfter := (pairwise_unnumbered _).2 hsecond
  apply hperm.eq_of_pairwise _ hfirst' hsecond'
  intro lhs rhs hlhs hrhs h h'
  obtain ⟨_, -, rfl⟩ := List.mem_map.1 hlhs
  obtain ⟨_, -, rfl⟩ := List.mem_map.1 hrhs
  exact unnumbered_eq_of_notAfter h h'

end Sorting

section Canonical

lemma canonicalize_factors (explanation : Explanation) (maxFactors : ℕ) :
    (explanation.canonicalize maxFactors).factors =
      renumber (truncate maxFactors (explanation.factors.insertionSort NotAfter)) :=
  rfl

lemma canonicalize_sorted (explanation : Explanation) (maxFactors : ℕ) :
    (explanation.canonicalize maxFactors).factors.Pairwise NotAfter := by
  rw [canonicalize_factors, pairwise_renumber]
  exact (List.pairwise_insertionSort _ _).sublist (truncate_sublist _ _)

lemma canonicalize_length (explanation : Explanation) (maxFactors : ℕ) :
    (explanation.canonicalize maxFactors).factors.length =
      if 0 < maxFactors then min maxFactors explanation.factors.length
      else explanation.factors.length := by
  rw [canonicalize_factors, length_renumber, length_truncate, List.length_insertionSort]

/-- A second pass with the same bound changes nothing. -/
lemma canonicalize_idem (explanation : Explanation) (maxFactors : ℕ) :
    (explanation.canonicalize maxFactors).canonicalize maxFactors =
      explanation.canonicalize maxFactors := by
  have hsorted := canonicalize_sorted explanation maxFactors
  have hlength := canonicalize_length explanation maxFactors
  have hfactors : ((explanation.canonicalize maxFactors).canonicalize maxFactors).factors =
      (explanation.canonicalize maxFactors).factors := by
    rw [canonicalize_factors, hsorted.insertionSort_eq, truncate_eq_self, canonicalize_factors,
      renumber_renumber]
    intro hpos
    rw [hlength, if_pos hpos]
    exact min_le_left _ _
  unfold canonicalize at hfactors ⊢
  simp only at hfactors ⊢
  rw [hfactors]

/-- The factors kept are some of those given. -/
lemma canonicalize_subperm (explanation : Explanation) (maxFactors : ℕ) :
    ((explanation.canonicalize maxFactors).factors.map unnumbered).Subperm
      (explanation.factors.map unnumbered) := by
  rw [canonicalize_factors, unnumbered_renumber]
  have hsub := ((truncate_sublist maxFactors
    (explanation.factors.insertionSort NotAfter)).map unnumbered).subperm
  exact hsub.trans ((List.perm_insertionSort _ _).map _).subperm

/-- Only the factors count, neither their order nor their numbers. -/
lemma canonicalize_congr {first second : Explanation} (maxFactors : ℕ)
    (h : (first.factors.map unnumbered).Perm (second.factors.map unnumbered)) :
    (first.canonicalize maxFactors).factors = (second.canonicalize maxFactors).factors := by
  have hperm : ((first.factors.insertionSort NotAfter).map unnumbered).Perm
      ((second.factors.insertionSort NotAfter).map unnumbered) :=
    (((List.perm_insertionSort _ _).map _).trans h).trans
      ((List.perm_insertionSort _ _).map _).symm
  have heq := sorted_unique (List.pairwise_insertionSort _ _) (List.pairwise_insertionSort _ _)
    hperm
  rw [canonicalize_factors, canonicalize_factors, ← renumber_unnumbered, ← truncate_map, heq,
    truncate_map, renumber_unnumbered]

/-- Canonical explanations are sorted, numbered by position and within a positive bound, a second
pass with the same bound leaves them alone, and neither the order nor the numbers of the factors
given to the first pass are left in them. -/
theorem canonicalize_canonical (explanation : Explanation) (maxFactors : ℕ) :
    (explanation.canonicalize maxFactors).factors.Pairwise
        (fun lhs rhs ↦ ¬ rhs.before lhs = true) ∧
      (∀ (index : ℕ) (factor : ExplanationFactor),
        (explanation.canonicalize maxFactors).factors[index]? = some factor →
          factor.sequence = index.toUInt32) ∧
      (explanation.canonicalize maxFactors).factors.length =
        (if 0 < maxFactors then min maxFactors explanation.factors.length
          else explanation.factors.length) ∧
      ((explanation.canonicalize maxFactors).factors.map unnumbered).Subperm
        (explanation.factors.map unnumbered) ∧
      (explanation.canonicalize maxFactors).canonicalize maxFactors =
        explanation.canonicalize maxFactors ∧
      ∀ other : Explanation,
        (other.factors.map unnumbered).Perm (explanation.factors.map unnumbered) →
          (other.canonicalize maxFactors).factors =
            (explanation.canonicalize maxFactors).factors := by
  refine ⟨canonicalize_sorted _ _, ?_, canonicalize_length _ _, canonicalize_subperm _ _,
    canonicalize_idem _ _, fun other h ↦ canonicalize_congr maxFactors h⟩
  intro index factor hfactor
  rw [canonicalize_factors, renumber, List.getElem?_mapIdx] at hfactor
  obtain ⟨_, -, rfl⟩ := Option.map_eq_some_iff.1 hfactor
  rfl

/-- A bound of zero is no bound. -/
theorem canonicalize_unbounded :
    ¬ ∀ (explanation : Explanation) (maxFactors : ℕ),
      (explanation.canonicalize maxFactors).factors.length ≤ maxFactors := by
  intro h
  have hone := h { factors := [{ code := .candidateChosen }] } 0
  revert hone
  decide

end Canonical

end Explanation

end PartitionFabric

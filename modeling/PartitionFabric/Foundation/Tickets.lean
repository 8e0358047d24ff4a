import Mathlib.Data.List.Flatten
import Mathlib.Data.List.Perm.Subperm
import Mathlib.Order.Basic

/-!
Tickets that are handed out in increasing order and passed from one holder to another.

A ticket that was handed out once is held at most once as long as holders only pass on or throw
away what they hold; where it is and in which order it moves does not matter.
-/

open List

/-- What the holders hold altogether: no ticket twice, and none that was not handed out. -/
structure Issued {ι : Type} [Preorder ι] (next : ι) (held : List ι) : Prop where
  once : held.Nodup
  below : ∀ i ∈ held, i < next

namespace Issued

variable {ι : Type} [Preorder ι] {next next' i : ι} {held held' : List ι}

lemma nil (next : ι) : Issued next ([] : List ι) := ⟨nodup_nil, forall_mem_nil _⟩

/-- Tickets may be passed on and thrown away. -/
lemma pass (h : Issued next held) (hheld : held' <+~ held) (hnext : next ≤ next') :
    Issued next' held' := by
  obtain ⟨same, hperm, hsub⟩ := hheld
  exact ⟨hperm.nodup_iff.mp (hsub.nodup h.once),
    fun j hj ↦ lt_of_lt_of_le (h.below j (hsub.subset (hperm.mem_iff.mpr hj))) hnext⟩

/-- The next ticket may be handed out. -/
lemma handOut (h : Issued next held) (hi : next ≤ i) (hnext : i < next') :
    Issued next' (i :: held) := by
  refine ⟨nodup_cons.mpr ⟨fun hmem ↦ ?_, h.once⟩, forall_mem_cons.mpr ⟨hnext, fun j hj ↦ ?_⟩⟩
  · exact absurd (lt_of_lt_of_le (h.below i hmem) hi) (lt_irrefl i)
  · exact (lt_of_lt_of_le (h.below j hj) hi).trans hnext

end Issued

namespace List

variable {α β γ : Type} {f : α → α} {g : α → List β}

/-- A holder that keeps what it holds may change in other ways. -/
lemma flatMap_modify_of_eq (h : ∀ a, g (f a) = g a) (l : List α) (i : ℕ) :
    (l.modify i f).flatMap g = l.flatMap g := by
  induction l generalizing i with
  | nil => rw [modify_nil]
  | cons a rest ih =>
    cases i with
    | zero => rw [modify_zero_cons, flatMap_cons, flatMap_cons, h]
    | succ i => rw [modify_succ_cons, flatMap_cons, flatMap_cons, ih]

/-- One holder gets something more. -/
lemma flatMap_modify_subperm {t : List β} (h : ∀ a, g (f a) = g a ++ t) (l : List α) (i : ℕ) :
    (l.modify i f).flatMap g <+~ t ++ l.flatMap g := by
  induction l generalizing i with
  | nil =>
    rw [modify_nil]
    exact (nil_sublist _).subperm
  | cons a rest ih =>
    cases i with
    | zero =>
      rw [modify_zero_cons, flatMap_cons, flatMap_cons, h, append_assoc]
      exact perm_append_comm_assoc _ _ _ |>.subperm
    | succ i =>
      rw [modify_succ_cons, flatMap_cons, flatMap_cons]
      exact (Subperm.append (Subperm.refl _) (ih i)).trans (perm_append_comm_assoc _ _ _).subperm

/-- What is chosen by a narrower choice is part of what is chosen by a wider one. -/
lemma map_filterMap_sublist {p : α → Option β} {q : α → Option γ} {k : β → γ}
    (h : ∀ a b, p a = some b → q a = some (k b)) (l : List α) :
    ((l.filterMap p).map k).Sublist (l.filterMap q) := by
  induction l with
  | nil => exact Sublist.refl []
  | cons a rest ih =>
    cases hp : p a with
    | none =>
      rw [filterMap_cons_none hp]
      refine ih.trans ?_
      exact (sublist_cons_self a rest).filterMap q
    | some b =>
      rw [filterMap_cons_some hp, filterMap_cons_some (h a b hp), map_cons]
      exact ih.cons_cons _

end List

import Mathlib.Order.Defs.Unbundled

/-!
Systems that move by operations, their guarded runs and the rules of invariants along them.
-/

/-- Initial states, and the state that an operation leads to. -/
structure System (σ ο : Type) where
  initial : σ → Prop
  step : ο → σ → σ

namespace System

variable {σ ο : Type} {S : System σ ο} {guard strong : σ → ο → Prop} {s t : σ}

/-- The states of runs whose steps all meet a guard. -/
inductive Reachable (S : System σ ο) (guard : σ → ο → Prop) : σ → Prop where
  | initial {s : σ} : S.initial s → Reachable S guard s
  | step {s : σ} (op : ο) : Reachable S guard s → guard s op → Reachable S guard (S.step op s)

/-- The states that runs lead to from a given one when their steps all meet a guard. -/
inductive Reaches (S : System σ ο) (guard : σ → ο → Prop) (s : σ) : σ → Prop where
  | refl : Reaches S guard s s
  | step {t : σ} (op : ο) : Reaches S guard s t → guard t op → Reaches S guard s (S.step op t)

lemma Reachable.mono (h : Reachable S strong s) (hguard : ∀ t op, strong t op → guard t op) :
    Reachable S guard s := by
  induction h with
  | initial hs => exact .initial hs
  | step op _ hop ih => exact .step op ih (hguard _ _ hop)

lemma Reachable.reaches (hs : Reachable S guard s) (h : Reaches S guard s t) :
    Reachable S guard t := by
  induction h with
  | refl => exact hs
  | step op _ hop ih => exact .step op ih hop

/-- The state after a list of operations. -/
def run (S : System σ ο) : List ο → σ → σ
  | [], s => s
  | op :: ops, s => S.run ops (S.step op s)

/-- Every operation of a list meets the guard in the state it is performed in. -/
def Follows (S : System σ ο) (guard : σ → ο → Prop) : List ο → σ → Prop
  | [], _ => True
  | op :: ops, s => guard s op ∧ S.Follows guard ops (S.step op s)

instance [∀ s op, Decidable (guard s op)] : ∀ (ops : List ο) (s : σ),
    Decidable (S.Follows guard ops s)
  | [], _ => isTrue trivial
  | op :: ops, s =>
    have := instDecidableFollows ops (S.step op s)
    inferInstanceAs (Decidable (guard s op ∧ S.Follows guard ops (S.step op s)))

lemma Follows.mono {ops : List ο} (h : S.Follows strong ops s)
    (hguard : ∀ t op, strong t op → guard t op) : S.Follows guard ops s := by
  induction ops generalizing s with
  | nil => exact trivial
  | cons op ops ih => exact ⟨hguard s op h.1, ih h.2⟩

lemma follows_append {ops ops' : List ο} :
    S.Follows guard (ops ++ ops') s ↔
      S.Follows guard ops s ∧ S.Follows guard ops' (S.run ops s) := by
  induction ops generalizing s with
  | nil => simp [Follows, run]
  | cons op ops ih => exact (and_congr_right fun _ ↦ ih).trans and_assoc.symm

lemma Reachable.run {ops : List ο} (hs : Reachable S guard s) (h : S.Follows guard ops s) :
    Reachable S guard (S.run ops s) := by
  induction ops generalizing s with
  | nil => exact hs
  | cons op ops ih => exact ih (.step op hs h.1) h.2

/-- An invariant that holds initially and that guarded steps keep holds in every reached state. -/
theorem Reachable.invariant {I : σ → Prop} (hinit : ∀ s, S.initial s → I s)
    (hstep : ∀ s op, I s → guard s op → I (S.step op s)) (h : Reachable S guard s) : I s := by
  induction h with
  | initial hs => exact hinit _ hs
  | step op _ hop ih => exact hstep _ op ih hop

/-- A preorder that every guarded step from an invariant state respects relates the ends of a
run. -/
theorem Reaches.related {R : σ → σ → Prop} [Std.Refl R] [IsTrans σ R] {I : σ → Prop}
    (hkeep : ∀ s op, I s → guard s op → I (S.step op s))
    (hstep : ∀ s op, I s → guard s op → R s (S.step op s)) (hs : I s)
    (h : Reaches S guard s t) : I t ∧ R s t := by
  induction h with
  | refl => exact ⟨hs, refl_of R s⟩
  | step op _ hop ih =>
      exact ⟨hkeep _ op ih.1 hop, trans_of R ih.2 (hstep _ op ih.1 hop)⟩

end System

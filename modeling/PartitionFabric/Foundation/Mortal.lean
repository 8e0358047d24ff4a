import PartitionFabric.Foundation.Procedure

/-!
Procedures of a process that may die between two of its effects.

What a process changes outside of itself it changes by single effects. Where it dies before an
effect, that one and all later ones do not happen, and nobody learns how the procedure would have
ended.
-/

/-- How a procedure of a process ends other than by returning. -/
inductive Halt (ε : Type) where
  | died
  | failed (e : ε)
deriving DecidableEq

/-- A state outside of a process, and the number of effects that the process lives to see. -/
structure Mortal (σ : Type) where
  state : σ
  life : ℕ

/-- A procedure of a process that may die. -/
abbrev MortalM (ε σ α : Type) : Type := Procedure (Halt ε) (Mortal σ) α

namespace Mortal

variable {ε σ τ α β : Type} {view : σ → τ}

/-- One change of the state outside. -/
def effect (g : σ → σ) : MortalM ε σ Unit := fun p ↦
  match p.life with
  | 0 => (p, .error .died)
  | n + 1 => (⟨g p.state, n⟩, .ok ())

def fail (e : ε) : MortalM ε σ α := Procedure.throw (.failed e)

def check (c : Bool) (e : ε) : MortalM ε σ Unit := Procedure.require c (.failed e)

def lift (r : Except ε α) : MortalM ε σ α := Procedure.lift (r.mapError .failed)

/-- Runs a procedure and returns how it ended, unless the process died. -/
def outcome (m : MortalM ε σ α) : MortalM ε σ (Except ε α) := fun p ↦
  match m p with
  | (q, .ok a) => (q, .ok (.ok a))
  | (q, .error (.failed e)) => (q, .ok (.error e))
  | (q, .error .died) => (q, .error .died)

/-- A procedure after which the process has to live until it returns. -/
def returning (m : MortalM ε σ α) : MortalM ε σ α := do
  let a ← m
  effect id
  pure a

/-- A procedure never changes a view of the state. -/
def Spares (view : σ → τ) (m : MortalM ε σ α) : Prop := ∀ p, view (m p).1.state = view p.state

namespace Spares

lemma pure (a : α) : Spares view (Pure.pure a : MortalM ε σ α) := fun _ ↦ rfl

lemma fail (e : ε) : Spares view (Mortal.fail e : MortalM ε σ α) := fun _ ↦ rfl

lemma check (c : Bool) (e : ε) : Spares view (Mortal.check c e : MortalM ε σ Unit) := fun _ ↦ rfl

lemma lift (r : Except ε α) : Spares view (Mortal.lift r : MortalM ε σ α) := fun _ ↦ rfl

lemma effect {g : σ → σ} (h : ∀ s, view (g s) = view s) :
    Spares view (Mortal.effect g : MortalM ε σ Unit) := by
  rintro ⟨s, life⟩
  cases life with
  | zero => rfl
  | succ n => exact h s

lemma bind {m : MortalM ε σ α} {f : α → MortalM ε σ β} (hm : Spares view m)
    (hf : ∀ a, Spares view (f a)) : Spares view (m >>= f) := by
  intro p
  have hview := hm p
  rw [Procedure.bind_apply]
  rcases hrun : m p with ⟨q, e | a⟩
  · rw [hrun] at hview
    exact hview
  · rw [hrun] at hview
    exact (hf a q).trans hview

lemma get_bind {f : Mortal σ → MortalM ε σ β} (hf : ∀ p, Spares view (f p)) :
    Spares view (Procedure.get >>= f) := fun p ↦ hf p p

lemma ite {c : Prop} [Decidable c] {m m' : MortalM ε σ α} (h : Spares view m)
    (h' : Spares view m') : Spares view (if c then m else m') := by
  split
  · exact h
  · exact h'

lemma outcome {m : MortalM ε σ α} (h : Spares view m) : Spares view (Mortal.outcome m) := by
  intro p
  have hview := h p
  unfold Mortal.outcome
  rcases hrun : m p with ⟨q, (_ | e) | a⟩ <;> rw [hrun] at hview <;> exact hview

/-- The view after a run. -/
lemma of_run {m : MortalM ε σ α} (h : Spares view m) {p q : Mortal σ} {r : Except (Halt ε) α}
    (hrun : m p = (q, r)) : view q.state = view p.state := by
  have hview := h p
  rwa [hrun] at hview

end Spares

/-- A procedure fails for no state; its process may die in it. -/
def Unfailing (m : MortalM ε σ α) : Prop := ∀ p e, (m p).2 ≠ .error (.failed e)

namespace Unfailing

lemma pure (a : α) : Unfailing (Pure.pure a : MortalM ε σ α) := by
  rintro p e ⟨⟩

lemma check {c : Bool} (h : c = true) (e : ε) :
    Unfailing (Mortal.check c e : MortalM ε σ Unit) := by
  subst h
  rintro p e' ⟨⟩

lemma effect (g : σ → σ) : Unfailing (Mortal.effect g : MortalM ε σ Unit) := by
  rintro ⟨s, life⟩ e
  cases life with
  | zero => rintro ⟨⟩
  | succ n => rintro ⟨⟩

lemma bind {m : MortalM ε σ α} {f : α → MortalM ε σ β} (hm : Unfailing m)
    (hf : ∀ a, Unfailing (f a)) : Unfailing (m >>= f) := by
  intro p e
  rcases hrun : m p with ⟨q, e' | a⟩
  · have h := hm p e
    rw [hrun] at h
    rw [Procedure.bind_error hrun]
    exact fun heq ↦ h (congrArg _ (Except.error.inj heq))
  · rw [Procedure.bind_ok hrun]
    exact hf a q e

end Unfailing

/-- An effect happens, or the process dies before it. -/
lemma effect_cases (g : σ → σ) (p : Mortal σ) :
    (effect g : MortalM ε σ Unit) p = (p, .error .died) ∨
      ∃ n, (effect g : MortalM ε σ Unit) p = (⟨g p.state, n⟩, .ok ()) := by
  obtain ⟨s, life⟩ := p
  cases life with
  | zero => exact .inl rfl
  | succ n => exact .inr ⟨n, rfl⟩

/-- What a procedure ended with before its process returned from it. -/
lemma returning_cases (m : MortalM ε σ α) (p : Mortal σ) :
    ∃ q, (m p).1.state = q.state ∧
      (returning m p = (q, (m p).2) ∨
        ((m p).2.isOk = true ∧ returning m p = (q, .error .died))) := by
  unfold returning
  rcases hrun : m p with ⟨q, e | a⟩
  · exact ⟨q, rfl, .inl (Procedure.bind_error hrun)⟩
  · rw [Procedure.bind_ok hrun]
    rcases @effect_cases ε σ id q with h | ⟨n, h⟩
    · exact ⟨q, rfl, .inr ⟨rfl, Procedure.bind_error h⟩⟩
    · exact ⟨⟨q.state, n⟩, rfl, .inl (Procedure.bind_ok h)⟩

end Mortal

import PartitionFabric.Foundation.System

/-!
Runs that are observed, and the simulation of a system by a relation over the same observations.
-/

/-- A relation leads from one state to another by a list of labels. -/
inductive Trace {τ ε : Type} (step : ε → τ → τ → Prop) : List ε → τ → τ → Prop where
  | nil {s : τ} : Trace step [] s s
  | cons {e : ε} {rest : List ε} {s t u : τ} : step e s t → Trace step rest t u →
      Trace step (e :: rest) s u

namespace System

variable {σ τ ο ε : Type} {S : System σ ο} {see : ο → σ → ε} {abstract : ε → τ → τ → Prop}
  {R : σ → τ → Prop}

/-- What is observed of a list of operations. -/
def observations (S : System σ ο) (see : ο → σ → ε) : List ο → σ → List ε
  | [], _ => []
  | op :: ops, s => see op s :: S.observations see ops (S.step op s)

/-- A run is explained by the abstract relation when each of its steps is, from related states to
related states. -/
theorem trace_of_simulation
    (hstep : ∀ op s a, R s a → ∃ b, abstract (see op s) a b ∧ R (S.step op s) b)
    (ops : List ο) {s : σ} {a : τ} (h : R s a) :
    ∃ b, Trace abstract (S.observations see ops s) a b ∧ R (S.run ops s) b := by
  induction ops generalizing s a with
  | nil => exact ⟨a, .nil, h⟩
  | cons op ops ih =>
    obtain ⟨b, hab, hb⟩ := hstep op s a h
    obtain ⟨c, htrace, hc⟩ := ih hb
    exact ⟨c, .cons hab htrace, hc⟩

end System

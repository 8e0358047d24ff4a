import PartitionFabric.Foundation.Procedure

/-!
The errors that a check or a procedure may end with, as a property that all of them share.
-/

namespace Except

variable {ε α β ι : Type} {P : ε → Prop}

/-- An error, if there is one, has a property. -/
def Blames (P : ε → Prop) (r : Except ε α) : Prop := ∀ e, r = .error e → P e

lemma blames_ok (a : α) : Blames P (.ok a : Except ε α) := by
  intro e h
  cases h

lemma blames_error {e : ε} (h : P e) : Blames P (.error e : Except ε α) := by
  intro e' heq
  cases heq
  exact h

lemma blames_ite {c : Prop} [Decidable c] {r r' : Except ε α} (h : Blames P r)
    (h' : Blames P r') : Blames P (if c then r else r') := by
  by_cases hc : c
  · rwa [if_pos hc]
  · rwa [if_neg hc]

lemma blames_bind {r : Except ε α} {f : α → Except ε β} (h : Blames P r)
    (hf : ∀ a, Blames P (f a)) : Blames P (r >>= f) := by
  cases r with
  | error e => exact blames_error (h e rfl)
  | ok a => exact hf a

lemma blames_forM {l : List ι} {check : ι → Except ε PUnit} (h : ∀ i ∈ l, Blames P (check i)) :
    Blames P (l.forM check) := by
  induction l with
  | nil => exact blames_ok _
  | cons i rest ih =>
      exact blames_bind (h i List.mem_cons_self) fun _ ↦
        ih fun j hj ↦ h j (List.mem_cons_of_mem _ hj)

end Except

namespace Procedure

variable {ε σ α β ι : Type} {P : ε → Prop} {s : σ}

/-- An error that a run ends with has a property. -/
def Raises (P : ε → Prop) (m : Procedure ε σ α) (s : σ) : Prop := (m s).2.Blames P

lemma Raises.imp {Q : ε → Prop} {m : Procedure ε σ α} (h : Raises P m s) (hpq : ∀ e, P e → Q e) :
    Raises Q m s := fun e he ↦ hpq e (h e he)

lemma raises_pure (a : α) : Raises P (pure a : Procedure ε σ α) s := Except.blames_ok a

lemma raises_modify (g : σ → σ) : Raises P (modify g : Procedure ε σ Unit) s :=
  Except.blames_ok ()

lemma raises_throw {e : ε} (h : P e) : Raises P (throw e : Procedure ε σ α) s :=
  Except.blames_error h

lemma raises_lift {r : Except ε α} (h : r.Blames P) : Raises P (lift r : Procedure ε σ α) s := h

lemma raises_require {c : Bool} {e : ε} (h : P e) :
    Raises P (require c e : Procedure ε σ Unit) s :=
  Except.blames_ite (Except.blames_ok ()) (Except.blames_error h)

lemma raises_bind {m : Procedure ε σ α} {f : α → Procedure ε σ β} (hm : Raises P m s)
    (hf : ∀ a t, Raises P (f a) t) : Raises P (m >>= f) s := by
  unfold Raises at *
  rw [bind_apply]
  rcases h : m s with ⟨t, e | a⟩
  · rw [h] at hm
    exact Except.blames_error (hm e rfl)
  · exact hf a t

lemma raises_get_bind {f : σ → Procedure ε σ β} (h : Raises P (f s) s) :
    Raises P (get >>= f) s := h

lemma raises_when {c : Bool} {m : Procedure ε σ Unit} (h : Raises P m s) :
    Raises P (when c m) s := by
  cases c
  · exact raises_pure ()
  · exact h

lemma raises_forM {l : List ι} {body : ι → Procedure ε σ PUnit}
    (h : ∀ i ∈ l, ∀ t, Raises P (body i) t) : Raises P (l.forM body) s := by
  induction l generalizing s with
  | nil => exact raises_pure _
  | cons i rest ih =>
      exact raises_bind (h i List.mem_cons_self s) fun _ _ ↦
        ih fun j hj ↦ h j (List.mem_cons_of_mem _ hj)

end Procedure

import Mathlib.Data.Nat.Notation
import Mathlib.Logic.Relation
import Mathlib.Order.Defs.Unbundled

/-!
State-passing computations that may fail and keep their state when they do.

A procedure is judged by a relation between its start and end states, whether it succeeds or
fails; for a preorder the judgements compose along sequencing, branching and iteration.
-/

/-- A computation over a state that ends with a value or an error. -/
def Procedure (ε σ α : Type) : Type := σ → σ × Except ε α

namespace Procedure

variable {ε σ α β ι : Type}

instance : Monad (Procedure ε σ) where
  pure a := fun s ↦ (s, .ok a)
  bind m f := fun s ↦
    match m s with
    | (t, .ok a) => f a t
    | (t, .error e) => (t, .error e)

/-- The current state. -/
def get : Procedure ε σ σ := fun s ↦ (s, .ok s)

/-- Rewrites the state. -/
def modify (g : σ → σ) : Procedure ε σ Unit := fun s ↦ (g s, .ok ())

/-- Ends with an error and leaves the state alone. -/
def throw (e : ε) : Procedure ε σ α := fun s ↦ (s, .error e)

/-- Ends with an error unless a test holds. -/
def require (c : Bool) (e : ε) : Procedure ε σ Unit := fun s ↦ (s, if c then .ok () else .error e)

/-- Returns a value or an error that was computed without the state. -/
def lift (r : Except ε α) : Procedure ε σ α := fun s ↦ (s, r)

/-- Runs a procedure only when a test holds. -/
def when (c : Bool) (m : Procedure ε σ Unit) : Procedure ε σ Unit := if c then m else pure ()

/-- Runs a procedure and returns how it ended. -/
def attempt (m : Procedure ε σ α) : Procedure ε σ (Except ε α) := fun s ↦ ((m s).1, .ok (m s).2)

/-- Runs a procedure and disregards how it ended. -/
def ignore (m : Procedure ε σ α) : Procedure ε σ Unit := fun s ↦ ((m s).1, .ok ())

@[simp] lemma pure_apply (a : α) (s : σ) : (pure a : Procedure ε σ α) s = (s, .ok a) := rfl

lemma bind_apply (m : Procedure ε σ α) (f : α → Procedure ε σ β) (s : σ) :
    (m >>= f) s = match m s with
      | (t, .ok a) => f a t
      | (t, .error e) => (t, .error e) := rfl

lemma bind_ok {m : Procedure ε σ α} {f : α → Procedure ε σ β} {s t : σ} {a : α}
    (h : m s = (t, .ok a)) : (m >>= f) s = f a t := by
  rw [bind_apply, h]

lemma bind_error {m : Procedure ε σ α} {f : α → Procedure ε σ β} {s t : σ} {e : ε}
    (h : m s = (t, .error e)) : (m >>= f) s = (t, .error e) := by
  rw [bind_apply, h]

@[simp] lemma get_apply (s : σ) : (get : Procedure ε σ σ) s = (s, .ok s) := rfl

@[simp] lemma modify_apply (g : σ → σ) (s : σ) :
    (modify g : Procedure ε σ Unit) s = (g s, .ok ()) := rfl

@[simp] lemma throw_apply (e : ε) (s : σ) : (throw e : Procedure ε σ α) s = (s, .error e) := rfl

@[simp] lemma lift_apply (r : Except ε α) (s : σ) : (lift r : Procedure ε σ α) s = (s, r) := rfl

@[simp] lemma attempt_apply (m : Procedure ε σ α) (s : σ) :
    attempt m s = ((m s).1, .ok (m s).2) := rfl

@[simp] lemma ignore_apply (m : Procedure ε σ α) (s : σ) : ignore m s = ((m s).1, .ok ()) := rfl

@[simp] lemma when_true (m : Procedure ε σ Unit) : when true m = m := rfl

@[simp] lemma when_false (m : Procedure ε σ Unit) : when false m = pure () := rfl

@[simp] lemma get_bind (f : σ → Procedure ε σ β) (s : σ) : (get >>= f) s = f s s := rfl

@[simp] lemma modify_bind (g : σ → σ) (f : Unit → Procedure ε σ β) (s : σ) :
    (modify g >>= f) s = f () (g s) := rfl

@[simp] lemma throw_bind (e : ε) (f : α → Procedure ε σ β) (s : σ) :
    (throw e >>= f) s = (s, .error e) := rfl

lemma bind_assoc {γ : Type} (m : Procedure ε σ α) (f : α → Procedure ε σ β) (g : β → Procedure ε σ γ) :
    (m >>= f) >>= g = m >>= fun a ↦ f a >>= g := by
  funext s
  simp only [bind_apply]
  rcases m s with ⟨t, e | a⟩
  · rfl
  · rfl

lemma bind_pure (m : Procedure ε σ α) : (m >>= fun a ↦ pure a) = m := by
  funext s
  rcases h : m s with ⟨t, e | a⟩
  · rw [bind_error h]
  · rw [bind_ok h, pure_apply]

/-- A loop of rewrites succeeds. -/
lemma forM_modify (g : ι → σ → σ) (l : List ι) (s : σ) :
    (l.forM (fun i ↦ modify (g i)) : Procedure ε σ PUnit) s =
      (l.foldl (fun t i ↦ g i t) s, .ok ()) := by
  induction l generalizing s with
  | nil => rfl
  | cons i rest ih => exact ih (g i s)

/-- A loop whose rounds are independent: each succeeds and acts on an observation of the state in a
way of its own, as long as it was not visited. -/
theorem forM_observed {τ : Type} {s : σ} (body : ι → Procedure ε σ PUnit) (observe : σ → τ)
    (act : ι → τ → τ) (Unvisited : ι → σ → Prop) {l : List ι} (hl : l.Nodup)
    (hbody : ∀ i t, Unvisited i t → (body i t).2 = .ok () ∧ observe (body i t).1 = act i (observe t) ∧
      ∀ j, j ≠ i → Unvisited j t → Unvisited j (body i t).1)
    (hs : ∀ i ∈ l, Unvisited i s) :
    (l.forM body s).2 = .ok () ∧
      observe (l.forM body s).1 = l.foldl (fun o i ↦ act i o) (observe s) ∧
        ∀ j, j ∉ l → Unvisited j s → Unvisited j (l.forM body s).1 := by
  induction l generalizing s with
  | nil => exact ⟨rfl, rfl, fun _ _ hj ↦ hj⟩
  | cons i rest ih =>
    obtain ⟨hi, hrest⟩ := List.nodup_cons.mp hl
    obtain ⟨hok, hact, hothers⟩ := hbody i s (hs i (List.mem_cons_self ..))
    have hrun : ((i :: rest).forM body) s = rest.forM body (body i s).1 := by
      change (body i >>= fun _ ↦ rest.forM body) s = _
      exact bind_ok (Prod.ext rfl hok)
    obtain ⟨hend, hobserved, hlast⟩ := ih hrest (s := (body i s).1) fun j hj ↦
      hothers j (by rintro rfl; exact hi hj) (hs j (List.mem_cons_of_mem i hj))
    rw [hrun]
    refine ⟨hend, ?_, fun j hj hunvisited ↦ ?_⟩
    · rw [hobserved, hact, List.foldl_cons]
    · obtain ⟨hji, hjrest⟩ := not_or.mp (mt List.mem_cons.mpr hj)
      exact hlast j hjrest (hothers j hji hunvisited)

/-- Repeats a step on its value a number of times, as long as a test holds. -/
def repeatWhile (test : α → Bool) (step : α → Procedure ε σ α) : ℕ → α → Procedure ε σ α
  | 0, a => pure a
  | n + 1, a => if test a then step a >>= repeatWhile test step n else pure a

lemma repeatWhile_succ {test : α → Bool} {a : α} (h : test a = true)
    (step : α → Procedure ε σ α) (n : ℕ) :
    repeatWhile test step (n + 1) a = step a >>= repeatWhile test step n := by
  rw [repeatWhile, if_pos h]

lemma repeatWhile_stop {test : α → Bool} {a : α} (h : test a = false)
    (step : α → Procedure ε σ α) (n : ℕ) : repeatWhile test step n a = pure a := by
  cases n with
  | zero => rfl
  | succ n => rw [repeatWhile, if_neg (by simp [h])]

/-- A successful sequence is a success of the first procedure followed by one of the second. -/
theorem bind_eq_ok {m : Procedure ε σ α} {f : α → Procedure ε σ β} {s u : σ} {b : β} :
    (m >>= f) s = (u, .ok b) ↔ ∃ t a, m s = (t, .ok a) ∧ f a t = (u, .ok b) := by
  rw [bind_apply]
  constructor
  · intro h
    split at h
    · rename_i t a hm
      exact ⟨t, a, hm, h⟩
    · simp at h
  · rintro ⟨t, a, hm, h⟩
    rw [hm]
    exact h

/-- The end state of a sequence has a property when the first procedure ends with it on an error and
the second one does after a success. -/
theorem bind_fst {P : σ → Prop} {m : Procedure ε σ α} {f : α → Procedure ε σ β} {s : σ}
    (herror : ∀ t e, m s = (t, .error e) → P t) (hok : ∀ t a, m s = (t, .ok a) → P (f a t).1) :
    P ((m >>= f) s).1 := by
  rw [bind_apply]
  rcases h : m s with ⟨t, e | a⟩
  · exact herror t e h
  · exact hok t a h

theorem require_bind (c : Bool) (e : ε) (f : Unit → Procedure ε σ β) (s : σ) :
    (require c e >>= f) s = if c then f () s else (s, .error e) := by
  cases c <;> rfl

lemma require_eq_ok {c : Bool} {e : ε} {s t : σ} {u : Unit}
    (h : (require c e : Procedure ε σ Unit) s = (t, .ok u)) : s = t ∧ c = true := by
  cases c
  · exact absurd (Prod.mk.inj h).2 (by simp)
  · exact ⟨(Prod.mk.inj h).1, rfl⟩

/-- Every success of a procedure leaves a value and a state that meet a postcondition. -/
def Ensures (Q : α → σ → Prop) (m : Procedure ε σ α) (s : σ) : Prop :=
  ∀ t a, m s = (t, .ok a) → Q a t

section Postcondition

variable {Q : α → σ → Prop}

lemma ensures_pure {a : α} {s : σ} (h : Q a s) : Ensures Q (pure a : Procedure ε σ α) s := by
  intro t b heq
  obtain ⟨rfl, hb⟩ := Prod.mk.inj heq
  exact Except.ok.inj hb ▸ h

lemma ensures_throw (e : ε) (s : σ) : Ensures Q (throw e : Procedure ε σ α) s := by
  intro t b heq
  exact absurd heq (by simp)

lemma ensures_bind {m : Procedure ε σ β} {f : β → Procedure ε σ α} {s : σ}
    (h : ∀ t b, m s = (t, .ok b) → Ensures Q (f b) t) : Ensures Q (m >>= f) s := by
  intro u a hu
  obtain ⟨t, b, hm, hf⟩ := bind_eq_ok.mp hu
  exact h t b hm u a hf

lemma ensures_get_bind {f : σ → Procedure ε σ α} {s : σ} (h : Ensures Q (f s) s) :
    Ensures Q (get >>= f) s := h

lemma ensures_modify_bind {g : σ → σ} {f : Unit → Procedure ε σ α} {s : σ}
    (h : Ensures Q (f ()) (g s)) : Ensures Q (modify g >>= f) s := h

end Postcondition

/-- The end state of a procedure is related to its start state. -/
def Advances (R : σ → σ → Prop) (m : Procedure ε σ α) (s : σ) : Prop := R s (m s).1

/-- The relation that a run establishes. -/
lemma Advances.of_run {R : σ → σ → Prop} {m : Procedure ε σ α} {s t : σ} {r : Except ε α}
    (h : Advances R m s) (hrun : m s = (t, r)) : R s t := by
  unfold Advances at h
  rwa [hrun] at h

section Preorder

variable {R : σ → σ → Prop} [Std.Refl R] [IsTrans σ R]

omit [IsTrans σ R] in
lemma advances_pure (a : α) (s : σ) : Advances R (pure a : Procedure ε σ α) s := refl_of R s

omit [IsTrans σ R] in
lemma advances_throw (e : ε) (s : σ) : Advances R (throw e : Procedure ε σ α) s := refl_of R s

omit [IsTrans σ R] in
lemma advances_lift (r : Except ε α) (s : σ) : Advances R (lift r : Procedure ε σ α) s :=
  refl_of R s

omit [Std.Refl R] [IsTrans σ R] in
lemma advances_modify {g : σ → σ} {s : σ} (h : R s (g s)) :
    Advances R (modify g : Procedure ε σ Unit) s := h

omit [Std.Refl R] in
/-- Sequencing: the second procedure continues from the state and value of a success. -/
theorem advances_bind {m : Procedure ε σ α} {f : α → Procedure ε σ β} {s : σ}
    (hm : Advances R m s) (hf : ∀ t a, m s = (t, .ok a) → Advances R (f a) t) :
    Advances R (m >>= f) s := by
  unfold Advances at *
  rw [bind_apply]
  rcases h : m s with ⟨t, e | a⟩
  · rw [h] at hm
    exact hm
  · rw [h] at hm
    exact trans_of R hm (hf t a h)

omit [Std.Refl R] in
/-- Sequencing with the relation that the first procedure established. -/
theorem advances_bind_of {m : Procedure ε σ α} {f : α → Procedure ε σ β} {s : σ}
    (hm : Advances R m s) (hf : ∀ t a, m s = (t, .ok a) → R s t → Advances R (f a) t) :
    Advances R (m >>= f) s := by
  refine advances_bind hm fun t a h ↦ hf t a h ?_
  have hst : (m s).1 = t := by rw [h]
  exact hst ▸ hm

omit [Std.Refl R] [IsTrans σ R] in
lemma advances_get_bind {f : σ → Procedure ε σ β} {s : σ} (h : Advances R (f s) s) :
    Advances R (get >>= f) s := h

omit [Std.Refl R] in
lemma advances_modify_bind {g : σ → σ} {f : Unit → Procedure ε σ β} {s : σ}
    (hg : R s (g s)) (hf : Advances R (f ()) (g s)) : Advances R (modify g >>= f) s :=
  trans_of R hg hf

omit [Std.Refl R] in
/-- Two rewrites may be judged together when the state between them is not to be. -/
lemma advances_modify_modify_bind {f g : σ → σ} {k : Unit → Procedure ε σ β} {s : σ}
    (h : R s (g (f s))) (hk : Advances R (k ()) (g (f s))) :
    Advances R (modify f >>= fun _ ↦ modify g >>= k) s :=
  trans_of R h hk

omit [Std.Refl R] in
/-- A rewrite followed by a procedure that may use what the rewrite established. -/
lemma advances_modify_bind_of {g : σ → σ} {f : Unit → Procedure ε σ β} {s : σ}
    (hg : R s (g s)) (hf : R s (g s) → Advances R (f ()) (g s)) :
    Advances R (modify g >>= f) s :=
  trans_of R hg (hf hg)

omit [IsTrans σ R] in
lemma advances_require_bind {c : Bool} {e : ε} {f : Unit → Procedure ε σ β} {s : σ}
    (h : c = true → Advances R (f ()) s) : Advances R (require c e >>= f) s := by
  unfold Advances
  rw [require_bind]
  cases c
  · exact refl_of R s
  · exact h rfl

omit [IsTrans σ R] in
lemma advances_lift_bind {r : Except ε α} {f : α → Procedure ε σ β} {s : σ}
    (h : ∀ a, r = .ok a → Advances R (f a) s) : Advances R (lift r >>= f) s := by
  cases r with
  | error e => exact refl_of R s
  | ok a => exact h a rfl

omit [IsTrans σ R] in
lemma advances_when {c : Bool} {m : Procedure ε σ Unit} {s : σ}
    (h : c = true → Advances R m s) : Advances R (when c m) s := by
  cases c
  · exact refl_of R s
  · exact h rfl

omit [Std.Refl R] [IsTrans σ R] in
lemma advances_ite {c : Prop} [Decidable c] {m m' : Procedure ε σ α} {s : σ}
    (h : c → Advances R m s) (h' : ¬ c → Advances R m' s) :
    Advances R (if c then m else m') s := by
  by_cases hc : c
  · rw [if_pos hc]
    exact h hc
  · rw [if_neg hc]
    exact h' hc

omit [Std.Refl R] [IsTrans σ R] in
lemma advances_attempt {m : Procedure ε σ α} {s : σ} (h : Advances R m s) :
    Advances R (attempt m) s := h

omit [Std.Refl R] [IsTrans σ R] in
lemma advances_ignore {m : Procedure ε σ α} {s : σ} (h : Advances R m s) :
    Advances R (ignore m) s := h

/-- A loop advances when each of its rounds does from every state reached so far. -/
theorem advances_forM {l : List ι} {body : ι → Procedure ε σ PUnit} {s : σ}
    (h : ∀ i ∈ l, ∀ t, R s t → Advances R (body i) t) : Advances R (l.forM body) s := by
  suffices hgen : ∀ l' ⊆ l, ∀ t, R s t → Advances R (l'.forM body) t from
    hgen l (List.Subset.refl l) s (refl_of R s)
  intro l'
  induction l' with
  | nil => exact fun _ t _ ↦ refl_of R t
  | cons i rest ih =>
      intro hsub t ht
      have hi := h i (hsub List.mem_cons_self) t ht
      refine advances_bind hi fun u _ hu ↦ ?_
      refine ih (fun j hj ↦ hsub (List.mem_cons_of_mem _ hj)) u (trans_of R ht ?_)
      have : (body i t).1 = u := by rw [hu]
      exact this ▸ hi

/-- A loop with an accumulator advances when each of its rounds does. -/
theorem advances_foldlM {l : List ι} {body : β → ι → Procedure ε σ β} {b : β} {s : σ}
    (h : ∀ b, ∀ i ∈ l, ∀ t, R s t → Advances R (body b i) t) :
    Advances R (l.foldlM body b) s := by
  suffices hgen : ∀ l' ⊆ l, ∀ b t, R s t → Advances R (l'.foldlM body b) t from
    hgen l (List.Subset.refl l) b s (refl_of R s)
  intro l'
  induction l' with
  | nil => exact fun _ _ t _ ↦ refl_of R t
  | cons i rest ih =>
      intro hsub b t ht
      have hi := h b i (hsub List.mem_cons_self) t ht
      refine advances_bind hi fun u a hu ↦ ?_
      refine ih (fun j hj ↦ hsub (List.mem_cons_of_mem _ hj)) a u (trans_of R ht ?_)
      have : (body b i t).1 = u := by rw [hu]
      exact this ▸ hi

/-- A repetition advances when its step does. -/
theorem advances_repeatWhile {test : α → Bool} {step : α → Procedure ε σ α}
    (h : ∀ a s, Advances R (step a) s) (n : ℕ) (a : α) (s : σ) :
    Advances R (repeatWhile test step n a) s := by
  induction n generalizing a s with
  | zero => exact refl_of R s
  | succ n ih =>
      cases htest : test a with
      | true =>
          rw [repeatWhile_succ htest]
          exact advances_bind (h a s) fun t b _ ↦ ih b t
      | false =>
          rw [repeatWhile_stop htest]
          exact refl_of R s

end Preorder

/-- A projection of the state stays as it is. -/
def Keeps {τ : Type} (f : σ → τ) (s t : σ) : Prop := f t = f s

instance {τ : Type} (f : σ → τ) : Std.Refl (Keeps f) := ⟨fun _ ↦ rfl⟩

instance {τ : Type} (f : σ → τ) : IsTrans σ (Keeps f) := ⟨fun _ _ _ h h' ↦ h'.trans h⟩

/-- A property of the state carries over. -/
def Preserves (P : σ → Prop) (s t : σ) : Prop := P s → P t

instance (P : σ → Prop) : Std.Refl (Preserves P) := ⟨fun _ h ↦ h⟩

instance (P : σ → Prop) : IsTrans σ (Preserves P) := ⟨fun _ _ _ h h' hs ↦ h' (h hs)⟩

/-- What a success leaves behind has every property that the procedure preserves. -/
lemma Preserves.of_ok {P : σ → Prop} {m : Procedure ε σ α} {s t : σ} {a : α}
    (h : Advances (Preserves P) m s) (hs : P s) (hm : m s = (t, .ok a)) : P t := by
  have ht := h hs
  rw [hm] at ht
  exact ht

section Meets

variable {I : σ → Prop}

/-- A success satisfies a postcondition, and a failure leaves a state with a property. -/
def Meets (I : σ → Prop) (Q : α → σ → Prop) (m : Procedure ε σ α) (s : σ) : Prop :=
  match m s with
  | (t, .ok a) => Q a t
  | (t, .error _) => I t

lemma meets_pure {Q : α → σ → Prop} {a : α} {s : σ} (h : Q a s) :
    Meets I Q (pure a : Procedure ε σ α) s := h

lemma meets_bind {Q : β → σ → Prop} {P : α → σ → Prop} {m : Procedure ε σ α}
    {f : α → Procedure ε σ β} {s : σ} (hm : Meets I P m s)
    (hf : ∀ a t, P a t → Meets I Q (f a) t) : Meets I Q (m >>= f) s := by
  unfold Meets at hm ⊢
  rw [bind_apply]
  cases hrun : m s with
  | mk t result =>
      rw [hrun] at hm
      cases result with
      | error e => exact hm
      | ok a => exact hf a t hm

lemma meets_get_bind {Q : β → σ → Prop} {f : σ → Procedure ε σ β} {s : σ}
    (h : Meets I Q (f s) s) : Meets I Q (get >>= f) s := h

lemma meets_modify_bind {Q : β → σ → Prop} {g : σ → σ} {f : Unit → Procedure ε σ β} {s : σ}
    (h : Meets I Q (f ()) (g s)) : Meets I Q (modify g >>= f) s := h

/-- What a procedure changes is enough to know, whether it succeeds or fails. -/
lemma meets_of_advances {Q : α → σ → Prop} {R : σ → σ → Prop} {m : Procedure ε σ α} {s : σ}
    (h : Advances R m s) (hI : ∀ t, R s t → I t) (hQ : ∀ a t, R s t → Q a t) :
    Meets I Q m s := by
  unfold Advances at h
  unfold Meets
  cases hrun : m s with
  | mk t result =>
      rw [hrun] at h
      cases result with
      | error e => exact hI t h
      | ok a => exact hQ a t h

lemma meets_attempt_bind {Q : β → σ → Prop} {R : σ → σ → Prop} {m : Procedure ε σ α}
    {f : Except ε α → Procedure ε σ β} {s : σ} (h : Advances R m s)
    (hf : ∀ status t, R s t → Meets I Q (f status) t) : Meets I Q (attempt m >>= f) s :=
  hf (m s).2 (m s).1 h

/-- A postcondition may be weakened with what the procedure is known to change. -/
lemma Meets.mono {Q P : α → σ → Prop} {R : σ → σ → Prop} {m : Procedure ε σ α} {s : σ}
    (h : Meets I P m s) (hR : Advances R m s) (hQ : ∀ a t, P a t → R s t → Q a t) :
    Meets I Q m s := by
  unfold Advances at hR
  unfold Meets at h ⊢
  cases hrun : m s with
  | mk t result =>
      rw [hrun] at h hR
      cases result with
      | error e => exact h
      | ok a => exact hQ a t h hR

/-- The outcome of an attempt does not matter. -/
lemma meets_attempt_bind_of_forall {Q : β → σ → Prop} {m : Procedure ε σ α}
    {f : Except ε α → Procedure ε σ β} {s : σ} (hf : ∀ status t, Meets I Q (f status) t) :
    Meets I Q (attempt m >>= f) s :=
  hf (m s).2 (m s).1

/-- A procedure that never fails leaves no failure to account for. -/
lemma Meets.of_never {Q : α → σ → Prop} {m : Procedure ε σ α} {s : σ}
    (h : Meets (fun _ ↦ False) Q m s) : Meets I Q m s := by
  unfold Meets at h ⊢
  cases hrun : m s with
  | mk t result =>
      rw [hrun] at h
      cases result with
      | error e => exact h.elim
      | ok a => exact h

lemma meets_when {Q : Unit → σ → Prop} {c : Bool} {m : Procedure ε σ Unit} {s : σ}
    (h : c = true → Meets I Q m s) (hskip : c = false → Q () s) : Meets I Q (when c m) s := by
  cases c with
  | true => exact h rfl
  | false => exact hskip rfl

lemma meets_ignore_bind {Q : β → σ → Prop} {m : Procedure ε σ α} {f : Unit → Procedure ε σ β} {s : σ}
    (hf : ∀ t, Meets I Q (f ()) t) : Meets I Q (ignore m >>= f) s :=
  hf (m s).1

lemma Meets.fst {Q : α → σ → Prop} {m : Procedure ε σ α} {s : σ} (h : Meets I Q m s)
    (hQ : ∀ a t, Q a t → I t) : I (m s).1 := by
  unfold Meets at h
  cases hrun : m s with
  | mk t result =>
      rw [hrun] at h
      cases result with
      | error e => exact h
      | ok a => exact hQ a t h

/-- A loop with an accumulator: an invariant that speaks of the elements still to come. -/
theorem meets_foldlM {Q : List ι → β → σ → Prop} {body : β → ι → Procedure ε σ β} {l : List ι}
    {b : β} {s : σ}
    (h : ∀ i rest b s, Q (i :: rest) b s → Meets I (Q rest) (body b i) s) (hs : Q l b s) :
    Meets I (Q []) (l.foldlM body b) s := by
  induction l generalizing b s with
  | nil => exact hs
  | cons i rest ih => exact meets_bind (h i rest b s hs) fun b' t ht ↦ ih ht

/-- A loop without one. -/
theorem meets_forM {Q : List ι → σ → Prop} {body : ι → Procedure ε σ PUnit} {l : List ι} {s : σ}
    (h : ∀ i rest s, Q (i :: rest) s → Meets I (fun _ ↦ Q rest) (body i) s) (hs : Q l s) :
    Meets I (fun _ ↦ Q []) (l.forM body) s := by
  induction l generalizing s with
  | nil => exact hs
  | cons i rest ih => exact meets_bind (h i rest s hs) fun _ t ht ↦ ih ht

end Meets

end Procedure

import PartitionFabric.Foundation.Wire

/-!
Readers that do not look beyond what they read.

A reader may check that enough bytes are left, and may fail for the lack of them. A reader that
succeeds would have succeeded with the same value had more bytes followed; those it leaves. What
such a reader consumes to the end is therefore a prefix-free set of byte strings.
-/

namespace Wire

variable {ε α β : Type}

/-- A reader that succeeds takes the same value from a longer stream and leaves the bytes that
were added to it. -/
class Framed (m : Reader ε α) : Prop where
  extends_ok : ∀ {b rest : List UInt8} {a : α}, m b = (rest, .ok a) →
    ∀ c, m (b ++ c) = (rest ++ c, .ok a)

namespace Framed

instance pure (a : α) : Framed (Pure.pure a : Reader ε α) := by
  constructor
  intro b rest a' h c
  obtain ⟨rfl, ha⟩ := Prod.mk.inj h
  obtain rfl := Except.ok.inj ha
  rfl

instance throw (e : ε) : Framed (Procedure.throw e : Reader ε α) := by
  constructor
  intro b rest a h
  cases (Prod.mk.inj h).2

instance require (c : Bool) (e : ε) : Framed (Procedure.require c e : Reader ε Unit) := by
  constructor
  intro b rest a h c
  obtain ⟨rfl, ha⟩ := Prod.mk.inj h
  rw [← ha]
  rfl

instance lift (r : Except ε α) : Framed (Procedure.lift r : Reader ε α) := by
  constructor
  intro b rest a h c
  obtain ⟨rfl, rfl⟩ := Prod.mk.inj h
  rfl

/-- What is read next starts where the first reader stopped, with more bytes behind it. -/
instance bind {m : Reader ε α} {f : α → Reader ε β} [hm : Framed m] [hf : ∀ a, Framed (f a)] :
    Framed (m >>= f) := by
  constructor
  intro b rest a h c
  rw [Procedure.bind_apply] at h
  cases hfirst : m b with
  | mk middle result =>
    rw [hfirst] at h
    cases result with
    | error e => cases (Prod.mk.inj h).2
    | ok a' =>
      rw [Procedure.bind_ok (hm.extends_ok hfirst c)]
      exact (hf a').extends_ok h c

/-- A check that enough bytes are left is passed with more of them. -/
theorem room {m : Reader ε α} [hm : Framed m] (k : ℕ) (e : ε) :
    Framed (Procedure.get >>= fun stream ↦
      Procedure.require (decide (k ≤ stream.length)) e >>= fun _ ↦ m : Reader ε α) := by
  constructor
  intro b rest a h c
  rw [Procedure.get_bind, Procedure.require_bind] at h ⊢
  by_cases hk : k ≤ b.length
  · rw [if_pos (by simpa using hk)] at h
    rw [if_pos (by simpa using Nat.le_add_right_of_le hk)]
    exact hm.extends_ok h c
  · rw [if_neg (by simpa using hk)] at h
    cases (Prod.mk.inj h).2

instance readByte (e : ε) : Framed (readByte e) := by
  constructor
  intro b rest a h c
  cases b with
  | nil => cases (Prod.mk.inj h).2
  | cons value tail =>
    obtain ⟨rfl, ha⟩ := Prod.mk.inj h
    obtain rfl := Except.ok.inj ha
    rfl

instance readNumber (e : ε) (k : ℕ) : Framed (readNumber e k) := by
  induction k with
  | zero => exact Framed.pure 0
  | succ k ih =>
    unfold Wire.readNumber
    infer_instance

instance readBlock (e : ε) (k : ℕ) : Framed (readBlock e k) := by
  constructor
  intro b rest a h c
  unfold Wire.readBlock at h ⊢
  by_cases hk : k ≤ b.length
  · rw [if_pos hk] at h
    obtain ⟨rfl, ha⟩ := Prod.mk.inj h
    obtain rfl := Except.ok.inj ha
    rw [if_pos (by simpa using Nat.le_add_right_of_le hk), List.drop_append_of_le_length hk,
      List.take_append_of_le_length hk]
  · rw [if_neg hk] at h
    cases (Prod.mk.inj h).2

instance readTimes (each : Reader ε α) [Framed each] (k : ℕ) : Framed (readTimes each k) := by
  induction k with
  | zero => exact Framed.pure []
  | succ k ih =>
    unfold Wire.readTimes
    infer_instance

end Framed

/-- No byte string of a set has another of them as a proper prefix or as a proper extension. -/
def PrefixFree (accepted : List UInt8 → Prop) : Prop :=
  ∀ b, accepted b → (∀ p, p <+: b → p ≠ b → ¬accepted p) ∧ ∀ c, c ≠ [] → ¬accepted (b ++ c)

/-- It is enough that nothing is accepted with more bytes behind it. -/
lemma prefixFree_of_extension {accepted : List UInt8 → Prop}
    (h : ∀ b, accepted b → ∀ c, c ≠ [] → ¬accepted (b ++ c)) : PrefixFree accepted := by
  refine fun b hb ↦ ⟨?_, h b hb⟩
  rintro p ⟨c, rfl⟩ hne hp
  exact h p hp c (by simpa using hne) hb

lemma PrefixFree.mono {accepted narrower : List UInt8 → Prop} (h : PrefixFree accepted)
    (hle : ∀ b, narrower b → accepted b) : PrefixFree narrower := by
  refine prefixFree_of_extension fun b hb c hc hbc ↦ ?_
  exact (h b (hle b hb)).2 c hc (hle _ hbc)

/-- What a reader consumes to the end is prefix-free. -/
theorem Framed.prefixFree (m : Reader ε α) [hm : Framed m] :
    PrefixFree fun b ↦ ∃ a, m b = ([], .ok a) := by
  refine prefixFree_of_extension ?_
  rintro b ⟨a, ha⟩ c hc ⟨a', ha'⟩
  have hlonger := hm.extends_ok ha c
  rw [List.nil_append] at hlonger
  exact hc (Prod.mk.inj (hlonger.symm.trans ha')).1

end Wire

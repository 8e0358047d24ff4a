import PartitionFabric.Foundation.Wire

/-!
Readers that go on after an error.

Such a reader keeps the first error of its stream and hands out values of no account from then on.
One judgement relates it to a reader that stops: both return the same value and leave the same
bytes until the second one stops, and then the first one has kept the same error.
-/

namespace Wire

variable {ε α β : Type}

/-- A stream with the first error that was met on it. -/
structure Stream (ε : Type) where
  rest : List UInt8
  error : Option ε := none

def Stream.ok (s : Stream ε) : Bool := s.error.isNone

/-- Keeps an error unless there is one. -/
def Stream.fail (s : Stream ε) (e : ε) : Stream ε := if s.ok then { s with error := some e } else s

/-- A reader that goes on after an error. -/
abbrev StickyReader (ε α : Type) := StateM (Stream ε) α

namespace Sticky

/-- Returns a value without reading once there is an error. -/
def unlessFailed (a : α) (m : StickyReader ε α) : StickyReader ε α := fun s ↦
  if s.ok then m s else (a, s)

/-- Goes on when a test holds and keeps an error otherwise. -/
def require (c : Bool) (e : ε) (a : α) (m : StickyReader ε α) : StickyReader ε α := fun s ↦
  if c then m s else (a, s.fail e)

/-- Keeps the error of a check and goes on. -/
def check (r : Except ε Unit) : StickyReader ε Unit := fun s ↦
  match r with
  | .ok _ => ((), s)
  | .error e => ((), s.fail e)

def byte (e : ε) : StickyReader ε UInt8 := fun s ↦
  if s.ok then
    match s.rest with
    | [] => (0, s.fail e)
    | b :: rest => (b, { s with rest })
  else (0, s)

/-- Reads a number of a given width, byte by byte. -/
def number (e : ε) : ℕ → StickyReader ε ℕ
  | 0 => pure 0
  | k + 1 => do
    let b ← byte e
    let high ← number e k
    pure (b.toNat + 256 * high)

/-- Reads a number of bytes at once. -/
def block (e : ε) (k : ℕ) : StickyReader ε (List UInt8) := fun s ↦
  if k ≤ s.rest.length then (s.rest.take k, { s with rest := s.rest.drop k }) else ([], s.fail e)

/-- Reads a fixed number of elements. -/
def times (each : StickyReader ε α) : ℕ → StickyReader ε (List α)
  | 0 => pure []
  | k + 1 => do
    let a ← each
    let rest ← times each k
    pure (a :: rest)

/-- Reads elements until there is an error; the element that meets it is kept. -/
def whileOk (each : StickyReader ε α) : ℕ → StickyReader ε (List α)
  | 0 => pure []
  | k + 1 => unlessFailed [] do
    let a ← each
    let rest ← whileOk each k
    pure (a :: rest)

/-- The elements that are read one after the other, as long as a test of the stream holds. -/
def reached (test : Stream ε → Bool) (each : StickyReader ε α) : ℕ → Stream ε → List α
  | 0, _ => []
  | k + 1, s => if test s then (each s).1 :: reached test each k (each s).2 else []

lemma reached_succ {test : Stream ε → Bool} {s : Stream ε} (h : test s = true)
    (each : StickyReader ε α) (k : ℕ) :
    reached test each (k + 1) s = (each s).1 :: reached test each k (each s).2 := by
  rw [reached, if_pos h]

lemma reached_stop {test : Stream ε → Bool} {s : Stream ε} (h : test s = false)
    (each : StickyReader ε α) (k : ℕ) : reached test each k s = [] := by
  cases k with
  | zero => rfl
  | succ k => rw [reached, if_neg (by simp [h])]

end Sticky

/-- A reader that goes on does what a reader that stops does, for as long as that one reads. -/
structure Follows (m : StickyReader ε α) (r : Reader ε α) : Prop where
  reads : ∀ {b rest a}, r b = (rest, .ok a) → m ⟨b, none⟩ = (a, ⟨rest, none⟩)
  fails : ∀ {b t e}, r b = (t, .error e) → (m ⟨b, none⟩).2.error = some e
  stuck : ∀ {s}, s.ok = false → (m s).2.error = s.error

namespace Follows

lemma fail_of_not_ok {s : Stream ε} (h : s.ok = false) (e : ε) : s.fail e = s := by
  simp [Stream.fail, h]

lemma ok_of_error {s t : Stream ε} (h : s.error = t.error) : s.ok = t.ok := by
  rw [Stream.ok, Stream.ok, h]

lemma not_ok_of_error {s : Stream ε} {e : ε} (h : s.error = some e) : s.ok = false := by
  simp [Stream.ok, h]

lemma pure (a : α) : Follows (Pure.pure a : StickyReader ε α) (Pure.pure a) := by
  constructor
  · intro b rest a' h
    cases h
    rfl
  · intro b t e h
    cases h
  · intro s _
    rfl

/-- Sequencing. -/
theorem bind {m : StickyReader ε α} {r : Reader ε α} {f : α → StickyReader ε β}
    {g : α → Reader ε β} (hm : Follows m r) (hf : ∀ a, Follows (f a) (g a)) :
    Follows (m >>= f) (r >>= g) := by
  constructor
  · intro b rest a h
    obtain ⟨t, x, hr, hg⟩ := Procedure.bind_eq_ok.mp h
    change f (m ⟨b, none⟩).1 (m ⟨b, none⟩).2 = _
    rw [hm.reads hr]
    exact (hf x).reads hg
  · intro b t e h
    change (f (m ⟨b, none⟩).1 (m ⟨b, none⟩).2).2.error = _
    rcases hr : r b with ⟨t', e' | x⟩
    · rw [Procedure.bind_error hr] at h
      have he := (Prod.mk.inj h).2
      have hfailed := hm.fails hr
      rw [(hf _).stuck (not_ok_of_error hfailed), hfailed, Except.error.inj he]
    · rw [Procedure.bind_ok hr] at h
      rw [hm.reads hr]
      exact (hf x).fails h
  · intro s hs
    change (f (m s).1 (m s).2).2.error = _
    have hfirst := hm.stuck hs
    rw [(hf _).stuck ((ok_of_error hfirst).trans hs), hfirst]

theorem unlessFailed {m : StickyReader ε α} {r : Reader ε α} (a : α) (h : Follows m r) :
    Follows (Sticky.unlessFailed a m) r := by
  constructor
  · intro b rest x hr
    exact h.reads hr
  · intro b t e hr
    exact h.fails hr
  · intro s hs
    rw [Sticky.unlessFailed, hs]
    rfl

theorem require {m : StickyReader ε α} {r : Reader ε α} (c : Bool) (e : ε) (a : α)
    (h : Follows m r) :
    Follows (Sticky.require c e a m) (Procedure.require c e >>= fun _ ↦ r) := by
  cases c with
  | true => exact ⟨h.reads, h.fails, h.stuck⟩
  | false =>
    constructor
    · intro b rest x hr
      cases hr
    · intro b t e' hr
      cases hr
      rfl
    · intro s hs
      change (s.fail e).error = _
      rw [fail_of_not_ok hs]

theorem check (r : Except ε Unit) : Follows (Sticky.check r) (Procedure.lift r) := by
  cases r with
  | ok u =>
    constructor
    · intro b rest x hr
      cases hr
      rfl
    · intro b t e hr
      cases hr
    · intro s _
      rfl
  | error e =>
    constructor
    · intro b rest x hr
      cases hr
    · intro b t e' hr
      cases hr
      rfl
    · intro s hs
      change (s.fail e).error = _
      rw [fail_of_not_ok hs]

theorem byte (e : ε) : Follows (Sticky.byte e) (readByte e) := by
  constructor
  · intro b rest x hr
    cases b with
    | nil => cases hr
    | cons first tail =>
      cases hr
      rfl
  · intro b t e' hr
    cases b with
    | nil =>
      cases hr
      rfl
    | cons first tail => cases hr
  · intro s hs
    rw [Sticky.byte, hs]
    rfl

theorem number (e : ε) (k : ℕ) : Follows (Sticky.number e k) (readNumber e k) := by
  induction k with
  | zero => exact pure 0
  | succ k ih => exact (byte e).bind fun b ↦ ih.bind fun high ↦ pure _

/-- A block is read from a stream without an error. -/
theorem block (e : ε) (k : ℕ) : Follows (Sticky.unlessFailed [] (Sticky.block e k))
    (readBlock e k) := by
  constructor
  · intro b rest x hr
    change Sticky.block e k ⟨b, none⟩ = _
    unfold readBlock at hr
    unfold Sticky.block
    split at hr
    · cases hr
      exact if_pos ‹_›
    · cases hr
  · intro b t e' hr
    change (Sticky.block e k ⟨b, none⟩).2.error = _
    unfold readBlock at hr
    unfold Sticky.block
    split at hr
    · cases hr
    · cases hr
      rw [if_neg ‹_›]
      rfl
  · intro s hs
    rw [Sticky.unlessFailed, hs]
    rfl

theorem times {m : StickyReader ε α} {r : Reader ε α} (h : Follows m r) (k : ℕ) :
    Follows (Sticky.times m k) (readTimes r k) := by
  induction k with
  | zero => exact pure []
  | succ k ih => exact h.bind fun a ↦ ih.bind fun rest ↦ pure _

theorem whileOk {m : StickyReader ε α} {r : Reader ε α} (h : Follows m r) (k : ℕ) :
    Follows (Sticky.whileOk m k) (readTimes r k) := by
  induction k with
  | zero => exact pure []
  | succ k ih => exact unlessFailed [] (h.bind fun a ↦ ih.bind fun rest ↦ pure _)

end Follows

end Wire

import PartitionFabric.Foundation.Procedure
import Mathlib.Data.List.Basic
import Mathlib.Algebra.Order.Group.Nat
import Mathlib.Tactic.Ring

/-!
Byte streams that are written through a bound and read back.

A writer runs a script of chunks and stops for good at the first chunk that is refused or does
not fit. A reader consumes bytes from the front. One judgement relates a reader to a script: it
returns the scripted value when everything was written and its own checks hold, and it fails when
they do not or when the script was cut short. The judgement composes along sequencing and lists.
-/

namespace Wire

/-- The bytes of a number, least significant first. -/
def littleEndian : ℕ → ℕ → List UInt8
  | 0, _ => []
  | k + 1, v => v.toUInt8 :: littleEndian k (v / 256)

/-- The number that bytes denote, least significant first. -/
def ofLittleEndian : List UInt8 → ℕ
  | [] => 0
  | b :: rest => b.toNat + 256 * ofLittleEndian rest

@[simp] lemma length_littleEndian (k v : ℕ) : (littleEndian k v).length = k := by
  induction k generalizing v with
  | zero => rfl
  | succ k ih => simp [littleEndian, ih]

lemma toNat_toUInt8 (v : ℕ) : v.toUInt8.toNat = v % 256 := by
  simp

@[simp] lemma ofLittleEndian_littleEndian (k v : ℕ) :
    ofLittleEndian (littleEndian k v) = v % 256 ^ k := by
  induction k generalizing v with
  | zero => simp [littleEndian, ofLittleEndian, Nat.mod_one]
  | succ k ih =>
      rw [littleEndian, ofLittleEndian, ih, toNat_toUInt8, pow_succ, mul_comm (256 ^ k) 256,
        Nat.mod_mul]

/-- Only the digits that are written matter. -/
lemma littleEndian_mod (k v : ℕ) : littleEndian k (v % 256 ^ k) = littleEndian k v := by
  induction k generalizing v with
  | zero => rfl
  | succ k ih =>
      have hlow : (v % 256 ^ (k + 1)).toUInt8 = v.toUInt8 := by
        apply UInt8.toNat_inj.mp
        rw [toNat_toUInt8, toNat_toUInt8, pow_succ']
        exact Nat.mod_mul_right_mod v 256 (256 ^ k)
      have hhigh : v % 256 ^ (k + 1) / 256 = v / 256 % 256 ^ k := by
        rw [pow_succ', Nat.mod_mul_right_div_self]
      rw [littleEndian, littleEndian, hlow, hhigh, ih]

lemma ofLittleEndian_lt (bs : List UInt8) : ofLittleEndian bs < 256 ^ bs.length := by
  induction bs with
  | nil => simp [ofLittleEndian]
  | cons b rest ih =>
      have hb := UInt8.toNat_lt b
      rw [ofLittleEndian, List.length_cons, pow_succ]
      omega

@[simp] lemma littleEndian_ofLittleEndian (bs : List UInt8) :
    littleEndian bs.length (ofLittleEndian bs) = bs := by
  induction bs with
  | nil => rfl
  | cons b rest ih =>
      have hb := UInt8.toNat_lt b
      have hlow : (b.toNat + 256 * ofLittleEndian rest).toUInt8 = b := by
        apply UInt8.toNat_inj.mp
        rw [toNat_toUInt8]
        omega
      have hhigh : (b.toNat + 256 * ofLittleEndian rest) / 256 = ofLittleEndian rest := by
        omega
      rw [ofLittleEndian, List.length_cons, littleEndian, hlow, hhigh, ih]

/-- The number that the bytes at an offset denote. -/
def numberAt (data : List UInt8) (offset width : ℕ) : ℕ :=
  ofLittleEndian ((data.drop offset).take width)

lemma numberAt_lt (data : List UInt8) (offset width : ℕ) :
    numberAt data offset width < 256 ^ width := by
  have h := ofLittleEndian_lt ((data.drop offset).take width)
  apply lt_of_lt_of_le h
  apply Nat.pow_le_pow_right (by decide)
  exact List.length_take_le _ _

/-- A number depends only on the bytes up to its end. -/
lemma numberAt_congr {data data' : List UInt8} {offset width : ℕ}
    (h : data.take (offset + width) = data'.take (offset + width)) :
    numberAt data offset width = numberAt data' offset width := by
  have hslice : ∀ l : List UInt8,
      (l.drop offset).take width = (l.take (offset + width)).drop offset := by
    intro l
    rw [List.drop_take, Nat.add_sub_cancel_left]
  rw [numberAt, numberAt, hslice, hslice, h]

/-- A field in front of the offset is skipped. -/
lemma numberAt_skip {k offset : ℕ} (v : ℕ) (rest : List UInt8) (width : ℕ) (h : k ≤ offset) :
    numberAt (littleEndian k v ++ rest) offset width = numberAt rest (offset - k) width := by
  rw [numberAt, List.drop_append, List.drop_of_length_le (by simpa using h), length_littleEndian,
    List.nil_append]
  rfl

/-- The field at the offset is read. -/
lemma numberAt_here (k v : ℕ) (rest : List UInt8) :
    numberAt (littleEndian k v ++ rest) 0 k = v % 256 ^ k := by
  rw [numberAt, List.drop_zero, List.take_left' (length_littleEndian k v)]
  exact ofLittleEndian_littleEndian k v

/-- The bytes up to the end of a field are the earlier ones and those of its number. -/
lemma take_numberAt {data : List UInt8} {offset width : ℕ} (h : offset + width ≤ data.length) :
    data.take (offset + width) =
      data.take offset ++ littleEndian width (numberAt data offset width) := by
  have hlen : ((data.drop offset).take width).length = width := by
    rw [List.length_take, List.length_drop]
    omega
  have hback := littleEndian_ofLittleEndian ((data.drop offset).take width)
  rw [hlen] at hback
  rw [numberAt, hback, List.take_add]

/-- One write: single bytes in order, a block that is written whole or not at all, the length of
a list, or bytes that the writer refuses. -/
inductive Chunk (ε : Type) where
  | bytes (b : List UInt8)
  | block (b : List UInt8)
  | count (n : ℕ)
  | reject (e : ε) (b : List UInt8)

namespace Chunk

variable {ε : Type}

/-- The bytes of a chunk. -/
def content : Chunk ε → List UInt8
  | bytes b => b
  | block b => b
  | count n => littleEndian 4 n
  | reject _ b => b

/-- What a chunk writes when there is not. -/
def cut (n : ℕ) : Chunk ε → List UInt8
  | bytes b => b.take n
  | count c => (littleEndian 4 c).take n
  | _ => []

def accepted : Chunk ε → Bool
  | reject _ _ => false
  | _ => true

/-- The length that a chunk writes. -/
def length? : Chunk ε → Option ℕ
  | count n => some n
  | _ => none

end Chunk

abbrev Script (ε : Type) := List (Chunk ε)

namespace Script

variable {ε : Type}

/-- The bytes of a script. -/
def content (s : Script ε) : List UInt8 := s.flatMap Chunk.content

/-- What a script writes into a given room before it stops. -/
def emitted : ℕ → Script ε → List UInt8
  | _, [] => []
  | n, c :: rest =>
    if c.accepted ∧ c.content.length ≤ n then
      c.content ++ emitted (n - c.content.length) rest
    else c.cut n

/-- Nothing is refused and there is room for everything. -/
def Fits (n : ℕ) (s : Script ε) : Prop :=
  (∀ c ∈ s, c.accepted = true) ∧ s.content.length ≤ n

instance (n : ℕ) (s : Script ε) : Decidable (s.Fits n) := inferInstanceAs (Decidable (_ ∧ _))

/-- Every length in the script is one that four bytes carry. -/
def Counted (s : Script ε) : Prop := ∀ n, Chunk.count n ∈ s → n < 2 ^ 32

instance (s : Script ε) : Decidable s.Counted :=
  decidable_of_iff (∀ c ∈ s, ∀ n ∈ c.length?, n < 2 ^ 32) <| by
    constructor
    · intro h n hn
      exact h _ hn n rfl
    · intro h c hc n hn
      cases c with
      | count k => exact Option.some.inj hn ▸ h k hc
      | _ => simp [Chunk.length?] at hn

@[simp] lemma content_nil : Script.content ([] : Script ε) = [] := rfl

@[simp] lemma content_cons (c : Chunk ε) (s : Script ε) :
    Script.content (c :: s) = c.content ++ s.content := rfl

@[simp] lemma content_append (s t : Script ε) : (s ++ t).content = s.content ++ t.content := by
  simp [content]

lemma fits_append {n : ℕ} {s t : Script ε} :
    Fits n (s ++ t) ↔ Fits n s ∧ Fits (n - s.content.length) t := by
  unfold Fits
  rw [List.forall_mem_append, content_append, List.length_append]
  constructor
  · rintro ⟨⟨hs, ht⟩, hlen⟩
    exact ⟨⟨hs, by omega⟩, ht, by omega⟩
  · rintro ⟨⟨hs, hlen⟩, ht, hrest⟩
    exact ⟨⟨hs, ht⟩, by omega⟩

lemma fits_cons {n : ℕ} {c : Chunk ε} {s : Script ε} :
    Fits n (c :: s) ↔
      (c.accepted = true ∧ c.content.length ≤ n) ∧ Fits (n - c.content.length) s := by
  rw [show c :: s = [c] ++ s from rfl, fits_append]
  simp [Fits]

lemma fits_nil (n : ℕ) : Fits n ([] : Script ε) := by simp [Fits]

lemma counted_append {s t : Script ε} : Counted (s ++ t) ↔ Counted s ∧ Counted t := by
  unfold Counted
  simp only [List.mem_append]
  constructor
  · intro h
    exact ⟨fun n hn ↦ h n (Or.inl hn), fun n hn ↦ h n (Or.inr hn)⟩
  · rintro ⟨hs, ht⟩ n (hn | hn)
    · exact hs n hn
    · exact ht n hn

/-- A script that fits is written whole. -/
lemma emitted_of_fits {n : ℕ} {s : Script ε} (h : Fits n s) : emitted n s = s.content := by
  induction s generalizing n with
  | nil => rfl
  | cons c rest ih =>
      obtain ⟨hc, hrest⟩ := fits_cons.mp h
      rw [emitted, if_pos hc, ih hrest]
      rfl

lemma emitted_append {n : ℕ} {s : Script ε} (t : Script ε) (h : Fits n s) :
    emitted n (s ++ t) = s.content ++ emitted (n - s.content.length) t := by
  induction s generalizing n with
  | nil => rfl
  | cons c rest ih =>
      obtain ⟨hc, hrest⟩ := fits_cons.mp h
      rw [List.cons_append, emitted, if_pos hc, ih hrest, content_cons, List.length_append,
        Nat.sub_sub, List.append_assoc]

lemma emitted_append_of_not_fits {n : ℕ} {s : Script ε} (t : Script ε) (h : ¬ Fits n s) :
    emitted n (s ++ t) = emitted n s := by
  induction s generalizing n with
  | nil => exact absurd (fits_nil n) h
  | cons c rest ih =>
      rw [List.cons_append, emitted, emitted]
      by_cases hc : c.accepted = true ∧ c.content.length ≤ n
      · rw [if_pos hc, if_pos hc]
        rw [ih fun hrest ↦ h (fits_cons.mpr ⟨hc, hrest⟩)]
      · rw [if_neg hc, if_neg hc]

end Script

variable {ε α β : Type}

/-- A reader of bytes from the front of a stream. -/
abbrev Reader (ε α : Type) := Procedure ε (List UInt8) α

/-- A reader ends with an error. -/
def Fails (m : Reader ε α) (b : List UInt8) : Prop := ∃ t e, m b = (t, .error e)

lemma fails_bind {m : Reader ε α} {f : α → Reader ε β} {b : List UInt8} (h : Fails m b) :
    Fails (m >>= f) b := by
  obtain ⟨t, e, h⟩ := h
  exact ⟨t, e, Procedure.bind_error h⟩

lemma fails_bind_of_ok {m : Reader ε α} {f : α → Reader ε β} {b rest : List UInt8} {a : α}
    (h : m b = (rest, .ok a)) (hf : Fails (f a) rest) : Fails (m >>= f) b := by
  obtain ⟨t, e, hf⟩ := hf
  exact ⟨t, e, (Procedure.bind_ok h).trans hf⟩

/-- Reading what a script wrote returns a value exactly when a condition holds; a script that was
cut short is noticed. -/
structure Reads (m : Reader ε α) (s : Script ε) (P : Prop) (a : α) : Prop where
  accepts : ∀ n < 2 ^ 32, s.Fits n → P → ∀ rest, m (s.content ++ rest) = (rest, .ok a)
  refuses : ∀ n < 2 ^ 32, s.Fits n → ¬ P → ∀ rest, Fails m (s.content ++ rest)
  notices : ∀ n < 2 ^ 32, s.Counted → ¬ s.Fits n → Fails m (s.emitted n)

namespace Reads

lemma congr {m : Reader ε α} {s : Script ε} {P Q : Prop} {a : α} (h : Reads m s P a)
    (hPQ : P ↔ Q) : Reads m s Q a :=
  propext hPQ ▸ h

/-- A condition may be replaced by one that is the same for everything that can be written. -/
lemma of_fits {m : Reader ε α} {s : Script ε} {P Q : Prop} {a : α} (h : Reads m s P a)
    (hPQ : ∀ n, s.Fits n → (P ↔ Q)) : Reads m s Q a := by
  constructor
  · intro n hn hfits hQ
    exact h.accepts n hn hfits ((hPQ n hfits).mpr hQ)
  · intro n hn hfits hQ
    exact h.refuses n hn hfits (fun hP ↦ hQ ((hPQ n hfits).mp hP))
  · exact h.notices

lemma pure (a : α) : Reads (Pure.pure a : Reader ε α) [] True a := by
  refine ⟨fun n _ _ _ rest ↦ rfl, fun n _ _ h ↦ absurd trivial h, fun n _ _ h ↦ ?_⟩
  exact absurd (Script.fits_nil n) h

/-- Sequencing: what is read next comes from the rest of the script. -/
theorem bind {m : Reader ε α} {f : α → Reader ε β} {s t : Script ε} {P Q : Prop} {a : α} {b : β}
    (hm : Reads m s P a) (hf : Reads (f a) t Q b) : Reads (m >>= f) (s ++ t) (P ∧ Q) b := by
  constructor
  · intro n hn hfits hPQ rest
    obtain ⟨hs, ht⟩ := Script.fits_append.mp hfits
    rw [Script.content_append, List.append_assoc, Procedure.bind_ok (hm.accepts n hn hs hPQ.1 _)]
    exact hf.accepts _ (by omega) ht hPQ.2 rest
  · intro n hn hfits hPQ rest
    obtain ⟨hs, ht⟩ := Script.fits_append.mp hfits
    rw [Script.content_append, List.append_assoc]
    by_cases hP : P
    · apply fails_bind_of_ok (hm.accepts n hn hs hP _)
      exact hf.refuses _ (by omega) ht (fun hQ ↦ hPQ ⟨hP, hQ⟩) rest
    · exact fails_bind (hm.refuses n hn hs hP _)
  · intro n hn hcounted hfits
    obtain ⟨hcs, hct⟩ := Script.counted_append.mp hcounted
    by_cases hs : s.Fits n
    · have ht : ¬ t.Fits (n - s.content.length) := fun ht ↦ hfits (Script.fits_append.mpr ⟨hs, ht⟩)
      rw [Script.emitted_append t hs]
      by_cases hP : P
      · apply fails_bind_of_ok (hm.accepts n hn hs hP _)
        exact hf.notices _ (by omega) hct ht
      · exact fails_bind (hm.refuses n hn hs hP _)
    · rw [Script.emitted_append_of_not_fits t hs]
      exact fails_bind (hm.notices n hn hcs hs)

/-- Sequencing over the fields of a record. -/
theorem field {m : Reader ε α} {f : α → Reader ε β} {s : Script ε} {rest : List (Script ε)}
    {P Q : Prop} {a : α} {b : β} (hm : Reads m s P a) (hf : Reads (f a) rest.flatten Q b) :
    Reads (m >>= f) (List.flatten (s :: rest)) (P ∧ Q) b :=
  hm.bind hf

/-- A field that is always read back. -/
theorem plain {m : Reader ε α} {f : α → Reader ε β} {s : Script ε} {rest : List (Script ε)}
    {Q : Prop} {a : α} {b : β} (hm : Reads m s True a) (hf : Reads (f a) rest.flatten Q b) :
    Reads (m >>= f) (List.flatten (s :: rest)) Q b :=
  (hm.bind hf).congr ⟨And.right, And.intro trivial⟩

/-- A check of the value that was read. -/
theorem check {f : Unit → Reader ε β} {s : Script ε} {c : Bool} (e : ε) {Q : Prop} {b : β}
    (hf : Reads (f ()) s Q b) : Reads (Procedure.require c e >>= f) s (c = true ∧ Q) b := by
  have hcheck : Reads (Procedure.require c e) [] (c = true) () := by
    constructor
    · intro n _ _ hc rest
      rw [hc]
      rfl
    · intro n _ _ hc rest
      rw [Bool.not_eq_true] at hc
      rw [hc]
      exact ⟨rest, e, rfl⟩
    · intro n _ _ h
      exact absurd (Script.fits_nil n) h
  exact hcheck.bind hf

/-- A check whose outcome was computed without the stream; what follows it may rely on it. -/
theorem lift {r : Except ε Unit} {f : Unit → Reader ε β} {s : Script ε} {Q : Prop} {b : β}
    (hf : r = .ok () → Reads (f ()) s Q b) : Reads (Procedure.lift r >>= f) s (r = .ok () ∧ Q) b := by
  cases r with
  | error e =>
      have hfails : ∀ stream, Fails ((Procedure.lift (.error e) : Reader ε Unit) >>= f) stream :=
        fun stream ↦ ⟨stream, e, rfl⟩
      constructor
      · rintro n _ _ ⟨hok, -⟩
        simp at hok
      · intro n _ _ _ rest
        exact hfails _
      · intro n _ _ _
        exact hfails _
  | ok u => exact (hf rfl).congr (by simp)

/-- A check that enough bytes are left for what is read next. -/
theorem room {m : Reader ε α} {s : Script ε} {k : ℕ} (e : ε) {P : Prop} {a : α}
    (hm : Reads m s P a) (hk : k ≤ s.content.length) :
    Reads (Procedure.get >>= fun stream ↦ Procedure.require (decide (k ≤ stream.length)) e >>= fun _ ↦ m)
      s P a := by
  have hfails : ∀ b, Fails m b →
      Fails (Procedure.get >>= fun stream ↦
        Procedure.require (decide (k ≤ stream.length)) e >>= fun _ ↦ m) b := by
    intro b hb
    obtain ⟨t, e', hb⟩ := hb
    by_cases hlen : k ≤ b.length
    · refine ⟨t, e', ?_⟩
      rw [Procedure.get_bind, Procedure.require_bind, if_pos (by simpa using hlen)]
      exact hb
    · refine ⟨b, e, ?_⟩
      rw [Procedure.get_bind, Procedure.require_bind, if_neg (by simpa using hlen)]
  constructor
  · intro n hn hfits hP rest
    have hlen : k ≤ (s.content ++ rest).length := by
      rw [List.length_append]
      omega
    rw [Procedure.get_bind, Procedure.require_bind, if_pos (by simpa using hlen)]
    exact hm.accepts n hn hfits hP rest
  · intro n hn hfits hP rest
    exact hfails _ (hm.refuses n hn hfits hP rest)
  · intro n hn hcounted hfits
    exact hfails _ (hm.notices n hn hcounted hfits)

lemma map {m : Reader ε α} {s : Script ε} {P : Prop} {a : α} (hm : Reads m s P a) (f : α → β) :
    Reads (m >>= fun x ↦ Pure.pure (f x)) s P (f a) := by
  have hlast : Reads (Pure.pure (f a) : Reader ε β) [] True (f a) := Reads.pure (f a)
  have h := Reads.bind (f := fun x ↦ (Pure.pure (f x) : Reader ε β)) hm hlast
  rw [List.append_nil] at h
  exact h.congr ⟨And.left, fun hP ↦ ⟨hP, trivial⟩⟩

end Reads

/-- Reads one byte. -/
def readByte (e : ε) : Reader ε UInt8 := fun stream ↦
  match stream with
  | [] => ([], .error e)
  | b :: rest => (rest, .ok b)

/-- Reads a number of a given width, byte by byte. -/
def readNumber (e : ε) : ℕ → Reader ε ℕ
  | 0 => pure 0
  | k + 1 => do
    let b ← readByte e
    let high ← readNumber e k
    pure (b.toNat + 256 * high)

lemma readNumber_append (e : ε) (bs rest : List UInt8) :
    readNumber e bs.length (bs ++ rest) = (rest, .ok (ofLittleEndian bs)) := by
  induction bs with
  | nil => rfl
  | cons b bs ih =>
      have hb : readByte e (b :: bs ++ rest) = (bs ++ rest, .ok b) := rfl
      rw [List.length_cons, readNumber, Procedure.bind_ok hb, Procedure.bind_ok ih]
      rfl

lemma readNumber_short (e : ε) {k : ℕ} {bs : List UInt8} (h : bs.length < k) :
    Fails (readNumber e k) bs := by
  induction k generalizing bs with
  | zero => exact absurd h (Nat.not_lt_zero _)
  | succ k ih =>
      cases bs with
      | nil => exact ⟨[], e, rfl⟩
      | cons b bs =>
          have hb : readByte e (b :: bs) = (bs, .ok b) := rfl
          have hshort : bs.length < k := by simpa using h
          exact fails_bind_of_ok hb (fails_bind (ih hshort))

/-- A chunk that writes a number byte by byte is read back. -/
theorem reads_width (e : ε) {c : Chunk ε} {k v : ℕ} (hcontent : c.content = littleEndian k v)
    (haccepted : c.accepted = true) (hcut : ∀ n, c.cut n = (littleEndian k v).take n)
    (hv : v < 256 ^ k) : Reads (readNumber e k) [c] True v := by
  have hscript : Script.content [c] = littleEndian k v := by simp [hcontent]
  constructor
  · intro n _ _ _ rest
    have h := readNumber_append e (littleEndian k v) rest
    rw [length_littleEndian, ofLittleEndian_littleEndian, Nat.mod_eq_of_lt hv] at h
    rw [hscript]
    exact h
  · intro n _ _ h
    exact absurd trivial h
  · intro n _ _ h
    have hn : n < k := by
      by_contra hle
      apply h
      constructor
      · simpa using haccepted
      · rw [hscript, length_littleEndian]
        omega
    apply readNumber_short
    rw [Script.emitted, if_neg]
    · simp [hcut, hn]
    · rintro ⟨-, hlen⟩
      rw [hcontent, length_littleEndian] at hlen
      omega

theorem reads_number (e : ε) {k v : ℕ} (hv : v < 256 ^ k) :
    Reads (readNumber e k) [Chunk.bytes (littleEndian k v)] True v :=
  reads_width e rfl rfl (fun _ ↦ rfl) hv

/-- A length is read back when four bytes carry it. -/
theorem reads_count (e : ε) {c : ℕ} (hc : c < 2 ^ 32) :
    Reads (readNumber e 4) [Chunk.count c] True c :=
  reads_width e rfl rfl (fun _ ↦ rfl) (by simpa using hc)

/-- Reads a number of bytes at once. -/
def readBlock (e : ε) (k : ℕ) : Reader ε (List UInt8) := fun stream ↦
  if k ≤ stream.length then (stream.drop k, .ok (stream.take k)) else (stream, .error e)

theorem reads_block (e : ε) (b : List UInt8) :
    Reads (readBlock e b.length) [Chunk.block b] True b := by
  have hscript : Script.content [(Chunk.block b : Chunk ε)] = b := by simp [Chunk.content]
  constructor
  · intro n _ _ _ rest
    rw [hscript, readBlock, if_pos (by simp), List.drop_left, List.take_left]
  · intro n _ _ h
    exact absurd trivial h
  · intro n _ _ h
    have hn : n < b.length := by
      by_contra hle
      apply h
      constructor
      · simp [Chunk.accepted]
      · rw [hscript]
        omega
    have hemitted : Script.emitted n [(Chunk.block b : Chunk ε)] = [] := by
      rw [Script.emitted, if_neg]
      · rfl
      · rintro ⟨-, hlen⟩
        change b.length ≤ n at hlen
        omega
    refine ⟨[], e, ?_⟩
    rw [hemitted, readBlock, if_neg]
    simp only [List.length_nil]
    omega

/-- Reads a fixed number of elements. -/
def readTimes (each : Reader ε α) : ℕ → Reader ε (List α)
  | 0 => pure []
  | k + 1 => do
    let a ← each
    let rest ← readTimes each k
    pure (a :: rest)

/-- The elements of a list are read one after the other, each as an image of itself. -/
theorem reads_times_map {each : Reader ε β} {enc : α → Script ε} {P : α → Prop} {g : α → β}
    {l : List α} (h : ∀ a ∈ l, Reads each (enc a) (P a) (g a)) :
    Reads (readTimes each l.length) (l.flatMap enc) (∀ a ∈ l, P a) (l.map g) := by
  induction l with
  | nil => exact (Reads.pure []).congr (by simp)
  | cons a rest ih =>
      have hrest := ih fun b hb ↦ h b (List.mem_cons_of_mem _ hb)
      have hall := Reads.bind
        (f := fun x ↦ readTimes each rest.length >>= fun l ↦ (Pure.pure (x :: l) : Reader ε _))
        (h a List.mem_cons_self) (hrest.map (g a :: ·))
      exact hall.congr (by simp)

/-- The elements of a list are read back. -/
theorem reads_times {each : Reader ε α} {enc : α → Script ε} {P : α → Prop} {l : List α}
    (h : ∀ a ∈ l, Reads each (enc a) (P a) a) :
    Reads (readTimes each l.length) (l.flatMap enc) (∀ a ∈ l, P a) l := by
  have hmap := reads_times_map (g := id) h
  rw [List.map_id] at hmap
  exact hmap

end Wire

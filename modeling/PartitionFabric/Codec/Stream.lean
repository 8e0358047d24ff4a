import PartitionFabric.Codec.Writer
import PartitionFabric.Foundation.Wire
import Mathlib.Tactic.NormNum

/-!
The bounded writer and the bounded reader that durable state and protocol messages share.

What an encoder writes does not depend on the writer, so an encoder is the script of its writes
and the writer runs it. After its first failure a reader returns nothing that is used, so a
decoder stops there.
-/

namespace PartitionFabric

open Wire (Chunk Reads littleEndian)

/-- The writes of an encoder, in order. -/
abbrev Script := Wire.Script Error

/-- A decoder. -/
abbrev ReadM := Wire.Reader Error

namespace Write

def u8 (value : UInt8) : Script := [.bytes [value]]

def u16 (value : UInt16) : Script := [.bytes (littleEndian 2 value.toNat)]

def u32 (value : UInt32) : Script := [.bytes (littleEndian 4 value.toNat)]

def u64 (value : UInt64) : Script := [.bytes (littleEndian 8 value.toNat)]

/-- A signed number is written as its two's complement. -/
def i64 (value : ℤ) : Script := [.bytes (littleEndian 8 (value % 2 ^ 64).toNat)]

def boolean (value : Bool) : Script := u8 (if value then 1 else 0)

/-- Length-prefixed text. -/
def text (value : Text) (maxLen : ℕ) : Script :=
  if value.length > maxLen || value.length > ByteWriter.maxTextBytes then
    [.reject (makeError .limitExceeded "text field exceeds its configured bound"
      (decimal value.length ++ (" > " : Text) ++ decimal maxLen))
      (littleEndian 4 value.length ++ value)]
  else if !isValidUtf8 value then
    [.reject (makeError .invalidArgument "text field is not valid UTF-8")
      (littleEndian 4 value.length ++ value)]
  else [.bytes (littleEndian 4 value.length), .block value]

/-- A length-prefixed list. -/
def list {α : Type} (each : α → Script) (values : List α) : Script :=
  .count values.length :: values.flatMap each

/-- The position of an enumerator among those of its type. -/
def enum {α : Type} [DecidableEq α] (all : List α) (value : α) : Script :=
  u8 (all.idxOf value).toUInt8

end Write

namespace Read

def truncated : Error :=
  makeError .protocolViolation "truncated message: read past the end of the buffer"

def u8 : ReadM UInt8 := do
  let value ← Wire.readNumber truncated 1
  pure value.toUInt8

def u16 : ReadM UInt16 := do
  let value ← Wire.readNumber truncated 2
  pure value.toUInt16

def u32 : ReadM UInt32 := do
  let value ← Wire.readNumber truncated 4
  pure value.toUInt32

def u64 : ReadM UInt64 := do
  let value ← Wire.readNumber truncated 8
  pure value.toUInt64

def i64 : ReadM ℤ := do
  let value ← Wire.readNumber truncated 8
  pure value.toUInt64.toInt64.toInt

def boolean : ReadM Bool := do
  let raw ← u8
  Procedure.require (raw ≤ 1)
    (makeError .protocolViolation "boolean field is not 0 or 1" (decimal raw.toNat))
  pure (raw == 1)

/-- Reads a text of a declared length. -/
def textOf (maxLen declared : ℕ) : ReadM Text := do
  Procedure.require (declared ≤ maxLen && declared ≤ ByteWriter.maxTextBytes)
    (makeError .limitExceeded "declared text length exceeds its configured bound"
      (decimal declared ++ (" > " : Text) ++ decimal maxLen))
  let out ← Wire.readBlock (makeError .protocolViolation
    "declared text length exceeds the remaining bytes" (decimal declared)) declared
  Procedure.require (isValidUtf8 out) (makeError .invalidArgument "text field is not valid UTF-8")
  pure out

def text (maxLen : ℕ) : ReadM Text := do
  let declared ← Wire.readNumber truncated 4
  textOf maxLen declared

/-- Reads a declared number of elements; counts that the remaining bytes cannot hold are
refused. -/
def listOf {α : Type} (maxCount minElementBytes : ℕ) (each : ReadM α) (declared : ℕ) :
    ReadM (List α) := do
  Procedure.require (declared ≤ maxCount)
    (makeError .limitExceeded "declared element count exceeds the configured bound"
      (decimal declared ++ (" > " : Text) ++ decimal maxCount))
  let remaining ← Procedure.get
  Procedure.require (declared * minElementBytes ≤ remaining.length)
    (makeError .protocolViolation "declared element count cannot fit in the remaining bytes"
      (decimal declared))
  Wire.readTimes each declared

/-- Reads a bounded list. -/
def list {α : Type} (maxCount minElementBytes : ℕ) (each : ReadM α) : ReadM (List α) := do
  let declared ← Wire.readNumber truncated 4
  listOf maxCount minElementBytes each declared

/-- Reads an enumerator by its position. -/
def enum {α : Type} (all : List α) (what : Text) : ReadM α := do
  let raw ← u8
  match all[raw.toNat]? with
  | some value => pure value
  | none => Procedure.throw (makeError .protocolViolation
      (("invalid " : Text) ++ what ++ (" value" : Text)) (decimal raw.toNat))

end Read

namespace ByteWriter

/-- Performs one write. -/
def write (w : ByteWriter) : Chunk Error → ByteWriter
  | .bytes b => b.foldl u8 w
  | .block b => if w.ok then (w.reserveFor b.length).push b else w
  | .count n => w.u32 n.toUInt32
  | .reject e _ => w.fail e

/-- Performs the writes of a script. -/
def run (w : ByteWriter) (s : Script) : ByteWriter := s.foldl write w

@[simp] lemma run_nil (w : ByteWriter) : w.run [] = w := rfl

@[simp] lemma run_cons (w : ByteWriter) (c : Chunk Error) (s : Script) :
    w.run (c :: s) = (w.write c).run s := rfl

@[simp] lemma run_append (w : ByteWriter) (s t : Script) :
    w.run (s ++ t) = (w.run s).run t := by
  simp [run]

/-- What is left of the bound. -/
def left (w : ByteWriter) : ℕ := w.bound - w.buffer.length

/-- A writer that has not failed and is within its bound. -/
structure Healthy (w : ByteWriter) : Prop where
  ok : w.ok = true
  within : w.buffer.length ≤ w.bound

lemma fail_of_ok {w : ByteWriter} (h : w.ok = true) (e : Error) :
    (w.fail e).ok = false ∧ (w.fail e).buffer = w.buffer := by
  rw [fail, if_pos h]
  exact ⟨rfl, rfl⟩

lemma reserveFor_eq {w : ByteWriter} {k : ℕ} (h : w.Healthy) (hk : k ≤ w.left) :
    w.reserveFor k = w := by
  have hwithin := h.within
  unfold left at hk
  rw [reserveFor, if_neg]
  simp only [Bool.or_eq_true, decide_eq_true_eq, not_or, not_lt]
  constructor <;> omega

lemma reserveFor_fails {w : ByteWriter} {k : ℕ} (h : w.Healthy) (hk : w.left < k) :
    (w.reserveFor k).ok = false ∧ (w.reserveFor k).buffer = w.buffer := by
  unfold left at hk
  rw [reserveFor, if_pos]
  · exact fail_of_ok h.ok _
  · simp only [Bool.or_eq_true, decide_eq_true_eq]
    omega

/-- What a write does to a healthy writer: everything was written and it is still healthy, or only
a part was and it has failed. -/
structure Wrote (w w' : ByteWriter) (whole part : List UInt8) (fits : Prop) : Prop where
  accepts : fits → w'.Healthy ∧ w'.bound = w.bound ∧ w'.buffer = w.buffer ++ whole
  refuses : ¬ fits → w'.ok = false ∧ w'.buffer = w.buffer ++ part

lemma Wrote.of_iff {w w' : ByteWriter} {whole part : List UInt8} {P Q : Prop}
    (h : Wrote w w' whole part P) (hPQ : P ↔ Q) : Wrote w w' whole part Q :=
  propext hPQ ▸ h

lemma u8_of_not_ok {w : ByteWriter} (h : w.ok = false) (value : UInt8) : w.u8 value = w := by
  rw [u8, h]
  rfl

lemma foldl_u8_of_not_ok {w : ByteWriter} (h : w.ok = false) (b : List UInt8) :
    b.foldl u8 w = w := by
  induction b with
  | nil => rfl
  | cons value rest ih => rw [List.foldl_cons, u8_of_not_ok h, ih]

/-- A failed writer ignores everything. -/
lemma write_of_not_ok {w : ByteWriter} (h : w.ok = false) (c : Chunk Error) : w.write c = w := by
  cases c with
  | bytes b => exact foldl_u8_of_not_ok h b
  | block b =>
      rw [write, h]
      rfl
  | count n => exact foldl_u8_of_not_ok h _
  | reject e b =>
      rw [write, fail, h]
      rfl

lemma run_of_not_ok {w : ByteWriter} (h : w.ok = false) (s : Script) : w.run s = w := by
  induction s with
  | nil => rfl
  | cons c rest ih => rw [run_cons, write_of_not_ok h, ih]

lemma wrote_block {w : ByteWriter} (h : w.Healthy) (b : List UInt8) :
    Wrote w ((w.reserveFor b.length).push b) b [] (b.length ≤ w.left) := by
  constructor
  · intro hfits
    rw [reserveFor_eq h hfits, push, if_pos h.ok]
    have hwithin := h.within
    unfold left at hfits
    refine ⟨⟨h.ok, ?_⟩, rfl, rfl⟩
    change (w.buffer ++ b).length ≤ w.bound
    rw [List.length_append]
    omega
  · intro hfits
    obtain ⟨hfailed, hbuffer⟩ := reserveFor_fails h (Nat.lt_of_not_le hfits)
    rw [push, hfailed]
    exact ⟨hfailed, by simpa using hbuffer⟩

lemma wrote_u8 {w : ByteWriter} (h : w.Healthy) (value : UInt8) :
    Wrote w (w.u8 value) [value] [] (1 ≤ w.left) := by
  rw [u8, if_pos h.ok]
  exact wrote_block h [value]

lemma left_of_wrote {w w' : ByteWriter} {b : List UInt8} (hbound : w'.bound = w.bound)
    (hbuffer : w'.buffer = w.buffer ++ b) : w'.left = w.left - b.length := by
  rw [left, left, hbound, hbuffer, List.length_append]
  omega

lemma wrote_bytes {w : ByteWriter} (h : w.Healthy) (b : List UInt8) :
    Wrote w (b.foldl u8 w) b (b.take w.left) (b.length ≤ w.left) := by
  induction b generalizing w with
  | nil =>
      constructor
      · intro _
        exact ⟨h, rfl, (List.append_nil _).symm⟩
      · intro hfits
        exact absurd (Nat.zero_le _) hfits
  | cons value rest ih =>
      rw [List.foldl_cons]
      have hfirst := wrote_u8 h value
      by_cases hroom : 1 ≤ w.left
      · obtain ⟨hhealthy, hbound, hbuffer⟩ := hfirst.accepts hroom
        have hleft : (w.u8 value).left = w.left - 1 := left_of_wrote hbound hbuffer
        have hrest := ih hhealthy
        rw [hleft] at hrest
        constructor
        · intro hfits
          rw [List.length_cons] at hfits
          obtain ⟨hhealthy', hbound', hbuffer'⟩ := hrest.accepts (by omega)
          refine ⟨hhealthy', hbound'.trans hbound, ?_⟩
          rw [hbuffer', hbuffer, List.append_assoc]
          rfl
        · intro hfits
          rw [List.length_cons] at hfits
          obtain ⟨hfailed, hbuffer'⟩ := hrest.refuses (by omega)
          refine ⟨hfailed, ?_⟩
          have htake : (value :: rest).take w.left = value :: rest.take (w.left - 1) := by
            conv_lhs => rw [show w.left = (w.left - 1) + 1 by omega]
            rfl
          rw [hbuffer', hbuffer, htake, List.append_assoc]
          rfl
      · obtain ⟨hfailed, hbuffer⟩ := hfirst.refuses hroom
        have hzero : w.left = 0 := by omega
        rw [foldl_u8_of_not_ok hfailed]
        constructor
        · intro hfits
          rw [List.length_cons] at hfits
          omega
        · intro _
          rw [hzero]
          exact ⟨hfailed, hbuffer⟩

/-- Both ways of writing a number give the same bytes. -/
lemma littleEndian_eq (k v : ℕ) : ByteWriter.littleEndian k v = Wire.littleEndian k v := by
  induction k generalizing v with
  | zero => rfl
  | succ k ih =>
      have hshift : ∀ i, (v >>> (8 * (i + 1))) = (v / 256) >>> (8 * i) := by
        intro i
        rw [show 8 * (i + 1) = 8 + 8 * i by ring, Nat.shiftRight_add, Nat.shiftRight_eq_div_pow v 8]
      rw [Wire.littleEndian, ← ih, ByteWriter.littleEndian, ByteWriter.littleEndian,
        List.range_succ_eq_map, List.map_cons, List.map_map]
      simp only [Function.comp_def, Nat.succ_eq_add_one, hshift, mul_zero, Nat.shiftRight_zero]

lemma littleEndian_count (n : ℕ) :
    ByteWriter.littleEndian 4 n.toUInt32.toNat = Wire.littleEndian 4 n := by
  have hmod : n.toUInt32.toNat = n % 256 ^ 4 := by simp
  rw [littleEndian_eq, hmod]
  exact Wire.littleEndian_mod 4 n

/-- What one write does. -/
lemma wrote_write {w : ByteWriter} (h : w.Healthy) (c : Chunk Error) :
    Wrote w (w.write c) c.content (c.cut w.left)
      (c.accepted = true ∧ c.content.length ≤ w.left) := by
  cases c with
  | bytes b => exact (wrote_bytes h b).of_iff (by simp [Chunk.accepted, Chunk.content])
  | block b =>
      rw [write, if_pos h.ok]
      exact (wrote_block h b).of_iff (by simp [Chunk.accepted, Chunk.content])
  | count n =>
      have hbytes := wrote_bytes h (Wire.littleEndian 4 n)
      have hwrite : w.write (.count n) = (Wire.littleEndian 4 n).foldl u8 w := by
        rw [write, u32, littleEndian_count]
      rw [hwrite]
      exact hbytes.of_iff (by simp [Chunk.accepted, Chunk.content])
  | reject e b =>
      constructor
      · rintro ⟨haccepted, -⟩
        exact absurd haccepted (by simp [Chunk.accepted])
      · intro _
        obtain ⟨hfailed, hbuffer⟩ := fail_of_ok h.ok e
        exact ⟨hfailed, hbuffer.trans (List.append_nil _).symm⟩

/-- What a whole script does. -/
theorem wrote_run {w : ByteWriter} (h : w.Healthy) (s : Script) :
    Wrote w (w.run s) s.content (s.emitted w.left) (s.Fits w.left) := by
  induction s generalizing w with
  | nil =>
      constructor
      · intro _
        exact ⟨h, rfl, (List.append_nil _).symm⟩
      · intro hfits
        exact absurd (Wire.Script.fits_nil _) hfits
  | cons c rest ih =>
      rw [run_cons]
      have hfirst := wrote_write h c
      by_cases hc : c.accepted = true ∧ c.content.length ≤ w.left
      · obtain ⟨hhealthy, hbound, hbuffer⟩ := hfirst.accepts hc
        have hrest := ih hhealthy
        rw [left_of_wrote hbound hbuffer] at hrest
        constructor
        · intro hfits
          obtain ⟨-, hfits⟩ := Wire.Script.fits_cons.mp hfits
          obtain ⟨hhealthy', hbound', hbuffer'⟩ := hrest.accepts hfits
          refine ⟨hhealthy', hbound'.trans hbound, ?_⟩
          rw [hbuffer', hbuffer, List.append_assoc, Wire.Script.content_cons]
        · intro hfits
          obtain ⟨hfailed, hbuffer'⟩ :=
            hrest.refuses fun hrestFits ↦ hfits (Wire.Script.fits_cons.mpr ⟨hc, hrestFits⟩)
          refine ⟨hfailed, ?_⟩
          rw [hbuffer', hbuffer, List.append_assoc, Wire.Script.emitted, if_pos hc]
      · obtain ⟨hfailed, hbuffer⟩ := hfirst.refuses hc
        rw [run_of_not_ok hfailed]
        constructor
        · intro hfits
          exact absurd (Wire.Script.fits_cons.mp hfits).1 hc
        · intro _
          rw [Wire.Script.emitted, if_neg hc]
          exact ⟨hfailed, hbuffer⟩

end ByteWriter

section Primitives

lemma reads_u8 (v : UInt8) : Reads Read.u8 (Write.u8 v) True v := by
  have hnumber := (Wire.reads_number Read.truncated (k := 1) (v := v.toNat)
    (UInt8.toNat_lt v)).map Nat.toUInt8
  have hbytes : littleEndian 1 v.toNat = [v] := by simp [littleEndian]
  have hback : v.toNat.toUInt8 = v := UInt8.ofNat_toNat
  rw [hbytes, hback] at hnumber
  exact hnumber

lemma reads_u16 (v : UInt16) : Reads Read.u16 (Write.u16 v) True v := by
  have hnumber := (Wire.reads_number Read.truncated (k := 2) (v := v.toNat)
    (UInt16.toNat_lt v)).map Nat.toUInt16
  have hback : v.toNat.toUInt16 = v := UInt16.ofNat_toNat
  rw [hback] at hnumber
  exact hnumber

lemma reads_u32 (v : UInt32) : Reads Read.u32 (Write.u32 v) True v := by
  have hnumber := (Wire.reads_number Read.truncated (k := 4) (v := v.toNat)
    (UInt32.toNat_lt v)).map Nat.toUInt32
  have hback : v.toNat.toUInt32 = v := UInt32.ofNat_toNat
  rw [hback] at hnumber
  exact hnumber

lemma reads_u64 (v : UInt64) : Reads Read.u64 (Write.u64 v) True v := by
  have hnumber := (Wire.reads_number Read.truncated (k := 8) (v := v.toNat)
    (UInt64.toNat_lt v)).map Nat.toUInt64
  have hback : v.toNat.toUInt64 = v := UInt64.ofNat_toNat
  rw [hback] at hnumber
  exact hnumber

/-- The range of a signed 64-bit number. -/
def Fits64 (v : ℤ) : Prop := -2 ^ 63 ≤ v ∧ v < 2 ^ 63

instance (v : ℤ) : Decidable (Fits64 v) := inferInstanceAs (Decidable (_ ∧ _))

lemma toInt_of_fits64 {v : ℤ} (h : Fits64 v) :
    (v % 2 ^ 64).toNat.toUInt64.toInt64.toInt = v := by
  obtain ⟨hlow, hhigh⟩ := h
  have hvalue : (v % 2 ^ 64).toNat.toUInt64.toInt64 = Int64.ofInt v := by
    rw [← Int64.toBitVec_inj]
    apply BitVec.eq_of_toNat_eq
    simp
    omega
  rw [hvalue, Int64.toInt_ofInt_of_le hlow hhigh]

lemma reads_i64 {v : ℤ} (h : Fits64 v) : Reads Read.i64 (Write.i64 v) True v := by
  have hlt : (v % 2 ^ 64).toNat < 256 ^ 8 := by omega
  have hnumber := (Wire.reads_number Read.truncated hlt).map fun x ↦ x.toUInt64.toInt64.toInt
  rw [toInt_of_fits64 h] at hnumber
  exact hnumber

lemma reads_boolean (v : Bool) : Reads Read.boolean (Write.boolean v) True v := by
  have hcheck : Reads (Pure.pure v : ReadM Bool) [] True v := Reads.pure v
  cases v with
  | false => exact ((reads_u8 0).bind (Reads.check _ hcheck)).congr (by simp)
  | true => exact ((reads_u8 1).bind (Reads.check _ hcheck)).congr (by simp)

/-- The enumerators of a type are read back. -/
lemma reads_enum {α : Type} [DecidableEq α] {all : List α} (what : Text) {v : α} (hv : v ∈ all)
    (hall : all.length ≤ 256) : Reads (Read.enum all what) (Write.enum all v) True v := by
  have hindex : all.idxOf v < all.length := List.idxOf_lt_length_of_mem hv
  have hraw : (all.idxOf v).toUInt8.toNat = all.idxOf v := by
    rw [Wire.toNat_toUInt8]
    exact Nat.mod_eq_of_lt (by omega)
  have hfind : all[(all.idxOf v).toUInt8.toNat]? = some v := by
    rw [hraw, List.getElem?_eq_getElem hindex, List.getElem_idxOf hindex]
  have hlast : Reads (match all[(all.idxOf v).toUInt8.toNat]? with
      | some value => (pure value : ReadM α)
      | none => Procedure.throw (makeError .protocolViolation
          (("invalid " : Text) ++ what ++ (" value" : Text))
          (decimal (all.idxOf v).toUInt8.toNat))) [] True v := by
    rw [hfind]
    exact Reads.pure v
  exact ((reads_u8 _).bind hlast).congr (by simp)

end Primitives

section Texts

variable {maxLen : ℕ} {value : Text}

/-- A text that a writer with a given bound accepts. -/
def Writable (maxLen : ℕ) (value : Text) : Prop :=
  value.length ≤ maxLen ∧ value.length ≤ ByteWriter.maxTextBytes ∧ isValidUtf8 value = true

instance (maxLen : ℕ) (value : Text) : Decidable (Writable maxLen value) :=
  inferInstanceAs (Decidable (_ ∧ _))

lemma text_of_writable (h : Writable maxLen value) :
    Write.text value maxLen = [.bytes (littleEndian 4 value.length), .block value] := by
  obtain ⟨hmax, htext, hutf⟩ := h
  rw [Write.text, if_neg, if_neg]
  · simpa using hutf
  · simp only [Bool.or_eq_true, decide_eq_true_eq]
    omega

lemma text_of_not_writable (h : ¬ Writable maxLen value) :
    ∃ e, Write.text value maxLen = [.reject e (littleEndian 4 value.length ++ value)] := by
  unfold Write.text
  split
  · exact ⟨_, rfl⟩
  · rename_i hlong
    simp only [Bool.or_eq_true, decide_eq_true_eq, not_or, not_lt] at hlong
    rw [if_pos]
    · exact ⟨_, rfl⟩
    · by_contra hutf
      exact h ⟨hlong.1, hlong.2, by simpa using hutf⟩

@[simp] lemma content_text (value : Text) (maxLen : ℕ) :
    (Write.text value maxLen).content = littleEndian 4 value.length ++ value := by
  by_cases h : Writable maxLen value
  · rw [text_of_writable h]
    simp [Chunk.content]
  · obtain ⟨e, he⟩ := text_of_not_writable h
    rw [he]
    simp [Chunk.content]

/-- The chunks of a text are accepted exactly when the text is writable. -/
lemma accepted_text (value : Text) (maxLen : ℕ) :
    (∀ c ∈ Write.text value maxLen, c.accepted = true) ↔ Writable maxLen value := by
  by_cases h : Writable maxLen value
  · rw [text_of_writable h]
    simp [Chunk.accepted, h]
  · obtain ⟨e, he⟩ := text_of_not_writable h
    rw [he]
    simp [Chunk.accepted, h]

/-- A text is read back when the reader's bound admits it. -/
theorem reads_text (value : Text) (maxLen readerMax : ℕ) :
    Reads (Read.text readerMax) (Write.text value maxLen) (value.length ≤ readerMax) value := by
  by_cases h : Writable maxLen value
  · rw [text_of_writable h]
    obtain ⟨-, htext, hutf⟩ := h
    unfold ByteWriter.maxTextBytes at htext
    have hlen : value.length < 256 ^ 4 := by omega
    have hdone : Reads (Procedure.require (isValidUtf8 value)
        (makeError .invalidArgument "text field is not valid UTF-8") >>= fun _ ↦
          (pure value : ReadM Text)) [] (isValidUtf8 value = true ∧ True) value :=
      Reads.check _ (Reads.pure value)
    have hbody : Reads (Read.textOf readerMax value.length) [.block value]
        (value.length ≤ readerMax) value := by
      apply Reads.congr (Reads.check _ ((Wire.reads_block _ value).bind hdone))
      simp [hutf, ByteWriter.maxTextBytes, htext]
    exact ((Wire.reads_number Read.truncated hlen).bind hbody).congr (by simp)
  · obtain ⟨e, he⟩ := text_of_not_writable h
    rw [he]
    have hfits : ∀ n, ¬ Wire.Script.Fits n
        [(Chunk.reject e (littleEndian 4 value.length ++ value) : Chunk Error)] := by
      intro n hfits
      have hrejected := hfits.1 _ List.mem_cons_self
      simp [Chunk.accepted] at hrejected
    constructor
    · intro n _ hn
      exact absurd hn (hfits n)
    · intro n _ hn
      exact absurd hn (hfits n)
    · intro n _ _ _
      have hemitted : Wire.Script.emitted n
          [(Chunk.reject e (littleEndian 4 value.length ++ value) : Chunk Error)] = [] := by
        rw [Wire.Script.emitted, if_neg]
        · rfl
        · simp [Chunk.accepted]
      rw [hemitted]
      exact Wire.fails_bind (Wire.readNumber_short _ (by simp))

/-- A text is always read back when the reader admits what the writer does. -/
theorem reads_text_within (value : Text) {maxLen readerMax : ℕ} (h : maxLen ≤ readerMax) :
    Reads (Read.text readerMax) (Write.text value maxLen) True value := by
  apply (reads_text value maxLen readerMax).of_fits
  intro n hfits
  have hwritable := (accepted_text value maxLen).mp hfits.1
  simp only [iff_true]
  exact hwritable.1.trans h

end Texts

section Lists

variable {α : Type} {each : ReadM α} {enc : α → Script} {P : α → Prop} {l : List α}

lemma length_le_content {minBytes : ℕ} (hmin : ∀ a ∈ l, minBytes ≤ (enc a).content.length) :
    l.length * minBytes ≤ (Wire.Script.content (l.flatMap enc)).length := by
  induction l with
  | nil => simp
  | cons a rest ih =>
      have ha := hmin a List.mem_cons_self
      have hrest := ih fun b hb ↦ hmin b (List.mem_cons_of_mem _ hb)
      rw [List.flatMap_cons, Wire.Script.content_append, List.length_append, List.length_cons,
        Nat.add_mul, one_mul]
      omega

/-- A length and what follows it: a list whose length four bytes cannot carry never fits. -/
theorem reads_length {β : Type} {f : ℕ → ReadM β} {Q : Prop} {b : β}
    (hlong : l.length ≤ (Wire.Script.content (l.flatMap enc)).length)
    (h : l.length < 2 ^ 32 → Reads (f l.length) (l.flatMap enc) Q b) :
    Reads (Wire.readNumber Read.truncated 4 >>= f) (Write.list enc l) Q b := by
  by_cases hlen : l.length < 2 ^ 32
  · exact ((Wire.reads_count Read.truncated hlen).bind (h hlen)).congr (by simp)
  · have hfits : ∀ n < 2 ^ 32, ¬ Wire.Script.Fits n (Write.list enc l) := by
      intro n hn hfits
      have hle := hfits.2
      rw [Write.list, Wire.Script.content_cons, List.length_append] at hle
      omega
    constructor
    · intro n hn hfit
      exact absurd hfit (hfits n hn)
    · intro n hn hfit
      exact absurd hfit (hfits n hn)
    · intro n _ hcounted
      exact absurd (hcounted _ List.mem_cons_self) hlen

/-- A list is read as the images of its elements when the reader's bound admits its length and its
elements are. -/
theorem reads_list_map {β : Type} {each : ReadM β} {g : α → β} {minBytes : ℕ} (maxCount : ℕ)
    (hpos : 0 < minBytes) (hmin : ∀ a ∈ l, minBytes ≤ (enc a).content.length)
    (h : ∀ a ∈ l, Reads each (enc a) (P a) (g a)) :
    Reads (Read.list maxCount minBytes each) (Write.list enc l)
      (l.length ≤ maxCount ∧ ∀ a ∈ l, P a) (l.map g) := by
  have hcontent := length_le_content hmin
  have hmul : l.length ≤ l.length * minBytes := Nat.le_mul_of_pos_right _ hpos
  have hbody : Reads (Read.listOf maxCount minBytes each l.length) (l.flatMap enc)
      (l.length ≤ maxCount ∧ ∀ a ∈ l, P a) (l.map g) := by
    apply Reads.congr (Reads.check _ ((Wire.reads_times_map h).room _ hcontent))
    simp
  exact reads_length (hmul.trans hcontent) fun _ ↦ hbody

/-- A list is read back when the reader's bound admits its length and its elements are. -/
theorem reads_list {minBytes : ℕ} (maxCount : ℕ) (hpos : 0 < minBytes)
    (hmin : ∀ a ∈ l, minBytes ≤ (enc a).content.length)
    (h : ∀ a ∈ l, Reads each (enc a) (P a) a) :
    Reads (Read.list maxCount minBytes each) (Write.list enc l)
      (l.length ≤ maxCount ∧ ∀ a ∈ l, P a) l := by
  have hlist := reads_list_map (g := id) maxCount hpos hmin h
  rw [List.map_id] at hlist
  exact hlist

end Lists

end PartitionFabric

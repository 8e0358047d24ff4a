import PartitionFabric.Codec.Records
import PartitionFabric.Foundation.Sticky

/-!
The bounded reader as it is: its first error is kept, and reading goes on.

A decoder that stops at the first error returns what a decoder over this reader returns without
one.
-/

namespace PartitionFabric

open Wire (Follows)

/-- The bytes that are left, and the first error. -/
abbrev ByteReader := Wire.Stream Error

/-- A decoder that goes on after an error. -/
abbrev ByteReaderM := Wire.StickyReader Error

namespace ByteReader

def u8 : ByteReaderM UInt8 := do
  let value ← Wire.Sticky.number Read.truncated 1
  pure value.toUInt8

def u32 : ByteReaderM UInt32 := do
  let value ← Wire.Sticky.number Read.truncated 4
  pure value.toUInt32

def u64 : ByteReaderM UInt64 := do
  let value ← Wire.Sticky.number Read.truncated 8
  pure value.toUInt64

def boolean : ByteReaderM Bool := do
  let raw ← u8
  Wire.Sticky.unlessFailed false <| Wire.Sticky.require (raw ≤ 1)
    (makeError .protocolViolation "boolean field is not 0 or 1" (decimal raw.toNat)) false
    (pure (raw == 1))

/-- Reads a text of a declared length. -/
def textOf (maxLen declared : ℕ) : ByteReaderM Text :=
  Wire.Sticky.require (declared ≤ maxLen && declared ≤ ByteWriter.maxTextBytes)
    (makeError .limitExceeded "declared text length exceeds its configured bound"
      (decimal declared ++ (" > " : Text) ++ decimal maxLen)) [] do
    let out ← Wire.Sticky.unlessFailed [] (Wire.Sticky.block (makeError .protocolViolation
      "declared text length exceeds the remaining bytes" (decimal declared)) declared)
    Wire.Sticky.require (isValidUtf8 out)
      (makeError .invalidArgument "text field is not valid UTF-8") [] (pure out)

def text (maxLen : ℕ) : ByteReaderM Text := Wire.Sticky.unlessFailed [] do
  let declared ← Wire.Sticky.number Read.truncated 4
  Wire.Sticky.unlessFailed [] (textOf maxLen declared)

/-- The dimensions of a vector are checked after it was read. -/
def resources : ByteReaderM ResourceVector := do
  let mask ← u32
  let raw ← Wire.Sticky.times u64 8
  Wire.Sticky.check (ResourceVector.ofRaw mask raw).validateDimensions
  pure (ResourceVector.ofRaw mask raw)

/-- The end of a message: no error, and nothing left. -/
def finish (reader : ByteReader) : Status :=
  match reader.error with
  | some e => .error e
  | none =>
    if reader.rest.isEmpty then success
    else failure .protocolViolation "message carries trailing bytes" (decimal reader.rest.length)

section Follows

lemma follows_u8 : Follows u8 Read.u8 := (Follows.number _ 1).bind fun _ ↦ Follows.pure _

lemma follows_u32 : Follows u32 Read.u32 := (Follows.number _ 4).bind fun _ ↦ Follows.pure _

lemma follows_u64 : Follows u64 Read.u64 := (Follows.number _ 8).bind fun _ ↦ Follows.pure _

lemma follows_boolean : Follows boolean Read.boolean :=
  follows_u8.bind fun _ ↦ .unlessFailed _ (.require _ _ _ (.pure _))

lemma follows_textOf (maxLen declared : ℕ) :
    Follows (textOf maxLen declared) (Read.textOf maxLen declared) :=
  .require _ _ _ ((Follows.block _ declared).bind fun _ ↦ .require _ _ _ (.pure _))

lemma follows_text (maxLen : ℕ) : Follows (text maxLen) (Read.text maxLen) :=
  .unlessFailed _ ((Follows.number _ 4).bind fun declared ↦
    .unlessFailed _ (follows_textOf maxLen declared))

lemma follows_resources : Follows resources decodeResources :=
  follows_u32.bind fun _ ↦ (Follows.times follows_u64 8).bind fun _ ↦
    (Follows.check _).bind fun _ ↦ Follows.pure _

end Follows

end ByteReader

end PartitionFabric

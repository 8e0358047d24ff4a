import PartitionFabric.Codec.Reader
import PartitionFabric.Codec.Container
import PartitionFabric.Synthetic.Backend

/-!
Checkpoints of the synthetic backend: what an export writes, and how an import applies device after
device while it reads.
-/

namespace PartitionFabric

namespace SyntheticBackend

def syntheticMagic : List UInt8 := [65, 80, 70, 83, 89, 78, 49, 0]

def syntheticFormatVersion : UInt32 := 1

section Export

/-- Texts are written under the bound of the default limits. -/
def Partition.encode (partition : Partition) : Script :=
  List.flatten
    [Write.text partition.nativeId ({} : Limits).maxMetadataBytes,
      Write.text partition.instanceUuid ({} : Limits).maxMetadataBytes,
      Write.text partition.vendorNative ({} : Limits).maxMetadataBytes,
      Write.u64 partition.profile,
      partition.resources.encode,
      Write.u32 partition.computeSlices,
      Write.u32 partition.memorySlices,
      Write.text partition.isolationDomain ({} : Limits).maxMetadataBytes,
      Write.u32 partition.isolation.mask,
      Write.boolean partition.live]

def Device.encode (device : Device) : Script :=
  List.flatten
    [Write.text device.spec.key ({} : Limits).maxMetadataBytes,
      Write.u64 device.boot,
      Write.boolean device.present,
      Write.u64 device.nextPartitionIndex,
      Write.list Partition.encode device.partitions]

/-- Neither the tokens nor the mutation counts are written. -/
def encode (backend : SyntheticBackend) : Script :=
  List.flatten
    [Write.u32 syntheticFormatVersion,
      Write.list Device.encode backend.devices.values]

def exportState (backend : SyntheticBackend) : Result (List UInt8) :=
  let writer := ByteWriter.run { bound := ({} : Limits).maxFrameBytes } backend.encode
  match writer.error with
  | some e => .error e
  | none => .ok (syntheticMagic ++ writer.buffer)

end Export

section Import

/-- What a payload says of one device before its partitions. -/
structure DeviceHeader where
  key : Text
  boot : AcceleratorBootId
  present : Bool
  nextPartitionIndex : UInt64
  partitionCount : UInt32

/-- What a payload says of one device. -/
structure DeviceImage where
  header : DeviceHeader
  partitions : List Partition

def readHeader : ByteReaderM DeviceHeader := do
  let key ← ByteReader.text 256
  let boot ← ByteReader.u64
  let present ← ByteReader.boolean
  let nextPartitionIndex ← ByteReader.u64
  let partitionCount ← ByteReader.u32
  pure { key, boot, present, nextPartitionIndex, partitionCount }

def readPartition : ByteReaderM Partition := do
  let nativeId ← ByteReader.text 256
  let instanceUuid ← ByteReader.text 256
  let vendorNative ← ByteReader.text 256
  let profile ← ByteReader.u64
  let resources ← ByteReader.resources
  let computeSlices ← ByteReader.u32
  let memorySlices ← ByteReader.u32
  let isolationDomain ← ByteReader.text 256
  let mask ← ByteReader.u32
  let live ← ByteReader.boolean
  pure { nativeId, instanceUuid, vendorNative, profile, resources, computeSlices, memorySlices,
         isolationDomain, isolation := { mask }, live }

/-- A configured device takes on what the payload says of it; other devices are skipped. -/
def restore (backend : SyntheticBackend) (image : DeviceImage) : SyntheticBackend :=
  match backend.find image.header.key with
  | none => backend
  | some device => backend.write { device with
      boot := image.header.boot
      present := image.header.present
      nextPartitionIndex :=
        if image.header.nextPartitionIndex = 0 then 1 else image.header.nextPartitionIndex
      partitions := image.partitions }

def tooManyPartitions : Error :=
  makeError .limitExceeded "synthetic state declares too many partitions"

/-- Reads a device; its partitions only while there is no error. -/
def readImage : ByteReaderM DeviceImage := do
  let header ← readHeader
  let partitions ← Wire.Sticky.whileOk readPartition header.partitionCount.toNat
  pure { header, partitions }

/-- Reads and restores one device; it is restored with what was read of it even when its last
fields were not. -/
def importDevice (reader : ByteReader) : SyntheticM ByteReader := do
  Procedure.require ((readHeader reader).1.partitionCount ≤ 512) tooManyPartitions
  Procedure.modify fun backend ↦ backend.restore (readImage reader).1
  pure (readImage reader).2

/-- Reads and restores device after device while there is no error. -/
def importDevices : ℕ → ByteReader → SyntheticM ByteReader :=
  Procedure.repeatWhile Wire.Stream.ok importDevice

/-- The version of a payload, and the reader behind it. -/
def readVersion (bytes : List UInt8) : UInt32 × ByteReader :=
  ByteReader.u32 { rest := bytes.drop 8 }

/-- The number of devices of a payload, and the reader behind it. -/
def readDeviceCount (bytes : List UInt8) : UInt32 × ByteReader :=
  ByteReader.u32 (readVersion bytes).2

/-- Nothing may be left of a payload. -/
def finishImport (reader : ByteReader) : SyntheticM Unit :=
  match ByteReader.finish reader with
  | .ok _ => pure ()
  | .error e => Procedure.throw (makeError .invalidArgument "synthetic state payload is malformed"
      e.toText)

def importState (bytes : List UInt8) : SyntheticM Unit := do
  Procedure.require (16 ≤ bytes.length)
    (makeError .invalidArgument "synthetic state payload is truncated")
  Procedure.require (bytes.take 8 == syntheticMagic)
    (makeError .invalidArgument "synthetic state payload has invalid magic")
  Procedure.require ((readVersion bytes).1 == syntheticFormatVersion)
    (makeError .invalidArgument "synthetic state payload has an unsupported version"
      (decimal (readVersion bytes).1.toNat))
  Procedure.require ((readDeviceCount bytes).1 ≤ 64)
    (makeError .limitExceeded "synthetic state payload declares too many devices")
  let reader ← importDevices (readDeviceCount bytes).1.toNat (readDeviceCount bytes).2
  finishImport reader

end Import

end SyntheticBackend

end PartitionFabric

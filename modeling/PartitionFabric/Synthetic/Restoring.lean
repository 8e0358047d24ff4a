import PartitionFabric.Codec.RoundTrip
import PartitionFabric.Synthetic.Calls

/-!
When a checkpoint of the synthetic backend restores what it was taken of, and when an import that
fails leaves every device as it was.
-/

namespace PartitionFabric

open Wire (Reads Follows)

namespace SyntheticBackend

section Grammar

/-- Reads what a payload says of one device before its partitions. -/
def decodeHeader : ReadM DeviceHeader := do
  let key ← Read.text 256
  let boot ← Read.u64
  let present ← Read.boolean
  let nextPartitionIndex ← Read.u64
  let partitionCount ← Read.u32
  pure { key, boot, present, nextPartitionIndex, partitionCount }

def decodePartition : ReadM Partition := do
  let nativeId ← Read.text 256
  let instanceUuid ← Read.text 256
  let vendorNative ← Read.text 256
  let profile ← Read.u64
  let resources ← decodeResources
  let computeSlices ← Read.u32
  let memorySlices ← Read.u32
  let isolationDomain ← Read.text 256
  let mask ← Read.u32
  let live ← Read.boolean
  pure { nativeId, instanceUuid, vendorNative, profile, resources, computeSlices, memorySlices,
         isolationDomain, isolation := { mask }, live }

/-- Reads the partitions behind a header. -/
def decodePartitions (header : DeviceHeader) : ReadM DeviceImage := do
  Procedure.require (header.partitionCount ≤ 512) tooManyPartitions
  let partitions ← Wire.readTimes decodePartition header.partitionCount.toNat
  pure { header, partitions }

def decodeImage : ReadM DeviceImage := decodeHeader >>= decodePartitions

/-- Reads the devices of a payload behind its magic. -/
def decodeImages : ReadM (List DeviceImage) := do
  let version ← Read.u32
  Procedure.require (version == syntheticFormatVersion)
    (makeError .invalidArgument "synthetic state payload has an unsupported version"
      (decimal version.toNat))
  let count ← Read.u32
  Procedure.require (count ≤ 64)
    (makeError .limitExceeded "synthetic state payload declares too many devices")
  Wire.readTimes decodeImage count.toNat

/-- A payload that says something of devices, and nothing else. -/
structure Payload (bytes : List UInt8) (images : List DeviceImage) : Prop where
  size : 16 ≤ bytes.length
  magic : bytes.take 8 = syntheticMagic
  body : decodeImages (bytes.drop 8) = ([], .ok images)

lemma follows_header : Follows readHeader decodeHeader :=
  (ByteReader.follows_text 256).bind fun _ ↦ ByteReader.follows_u64.bind fun _ ↦
    ByteReader.follows_boolean.bind fun _ ↦ ByteReader.follows_u64.bind fun _ ↦
      ByteReader.follows_u32.bind fun _ ↦ Follows.pure _

lemma follows_partition : Follows readPartition decodePartition :=
  (ByteReader.follows_text 256).bind fun _ ↦ (ByteReader.follows_text 256).bind fun _ ↦
    (ByteReader.follows_text 256).bind fun _ ↦ ByteReader.follows_u64.bind fun _ ↦
      ByteReader.follows_resources.bind fun _ ↦ ByteReader.follows_u32.bind fun _ ↦
        ByteReader.follows_u32.bind fun _ ↦ (ByteReader.follows_text 256).bind fun _ ↦
          ByteReader.follows_u32.bind fun _ ↦ ByteReader.follows_boolean.bind fun _ ↦
            Follows.pure _

lemma follows_image : Follows readImage (decodeHeader >>= fun header ↦
    Wire.readTimes decodePartition header.partitionCount.toNat >>= fun partitions ↦
      pure { header, partitions }) :=
  follows_header.bind fun header ↦
    (follows_partition.whileOk header.partitionCount.toNat).bind fun _ ↦ Follows.pure _

end Grammar

section Reading

variable {backend : SyntheticBackend} {b rest : List UInt8} {reader : ByteReader}

/-- An import that met an error, which it may have kept to itself. -/
def Stuck (result : Except Error ByteReader) : Prop :=
  ∀ reader, result = .ok reader → reader.ok = false

lemma stuck_error (e : Error) : Stuck (.error e) := by
  intro reader h
  cases h

lemma stuck_ok (h : reader.ok = false) : Stuck (.ok reader) := by
  intro other hother
  rw [← Except.ok.inj hother]
  exact h

lemma importDevice_apply (reader : ByteReader) (backend : SyntheticBackend) :
    importDevice reader backend =
      if (readHeader reader).1.partitionCount ≤ 512 then
        (backend.restore (readImage reader).1, .ok (readImage reader).2)
      else (backend, .error tooManyPartitions) := by
  unfold importDevice
  rw [Procedure.require_bind]
  by_cases hle : (readHeader reader).1.partitionCount ≤ 512
  · rw [if_pos (decide_eq_true hle), if_pos hle, Procedure.modify_bind, Procedure.pure_apply]
  · rw [if_neg (by simpa using hle), if_neg hle]

lemma importDevices_stuck (h : reader.ok = false) (n : ℕ) (backend : SyntheticBackend) :
    importDevices n reader backend = (backend, .ok reader) := by
  rw [importDevices, Procedure.repeatWhile_stop h, Procedure.pure_apply]

lemma stuck_importDevices (h : reader.ok = false) (n : ℕ) (backend : SyntheticBackend) :
    Stuck (importDevices n reader backend).2 := by
  rw [importDevices_stuck h]
  exact stuck_ok h

/-- A device that can be read is restored. -/
lemma importDevice_reads {image : DeviceImage} (h : decodeImage b = (rest, .ok image)) :
    importDevice ⟨b, none⟩ backend = (backend.restore image, .ok ⟨rest, none⟩) := by
  obtain ⟨t, header, hheader, hpartitions⟩ := Procedure.bind_eq_ok.mp h
  obtain ⟨t', u, hcount, hlist⟩ := Procedure.bind_eq_ok.mp hpartitions
  obtain ⟨rfl, hle⟩ := Procedure.require_eq_ok hcount
  have himage := follows_image.reads (Procedure.bind_eq_ok.mpr ⟨t, header, hheader, hlist⟩)
  rw [importDevice_apply, follows_header.reads hheader, if_pos (by simpa using hle), himage]

/-- A device that cannot be read leaves an error. -/
lemma importDevice_fails {t : List UInt8} {e : Error} (h : decodeImage b = (t, .error e)) :
    Stuck (importDevice ⟨b, none⟩ backend).2 := by
  rw [importDevice_apply]
  split
  · rename_i hle
    apply stuck_ok
    rcases hheader : decodeHeader b with ⟨t', e' | header⟩
    · exact Follows.not_ok_of_error (follows_image.fails (Procedure.bind_error hheader))
    · rw [follows_header.reads hheader] at hle
      rw [decodeImage, Procedure.bind_ok hheader, decodePartitions, Procedure.require_bind,
        if_pos (by simpa using hle)] at h
      apply Follows.not_ok_of_error
      apply follows_image.fails
      rw [Procedure.bind_ok hheader]
      exact h
  · exact stuck_error _

/-- Devices that can be read are restored one after the other. -/
lemma importDevices_reads {n : ℕ} {images : List DeviceImage}
    (h : Wire.readTimes decodeImage n b = (rest, .ok images)) :
    importDevices n ⟨b, none⟩ backend = (images.foldl restore backend, .ok ⟨rest, none⟩) := by
  induction n generalizing b images backend with
  | zero =>
    cases h
    rfl
  | succ n ih =>
    obtain ⟨t, image, himage, htail⟩ := Procedure.bind_eq_ok.mp h
    obtain ⟨t', others, hothers, hresult⟩ := Procedure.bind_eq_ok.mp htail
    cases hresult
    rw [importDevices, Procedure.repeatWhile_succ rfl,
      Procedure.bind_ok (importDevice_reads himage)]
    exact ih hothers

/-- Devices that cannot all be read leave an error. -/
lemma importDevices_fails {n : ℕ} {t : List UInt8} {e : Error}
    (h : Wire.readTimes decodeImage n b = (t, .error e)) :
    Stuck (importDevices n ⟨b, none⟩ backend).2 := by
  induction n generalizing b backend with
  | zero => cases h
  | succ n ih =>
    rw [importDevices, Procedure.repeatWhile_succ rfl]
    rcases himage : decodeImage b with ⟨t', e' | image⟩
    · have hstuck : Stuck (importDevice ⟨b, none⟩ backend).2 := importDevice_fails himage
      rcases hrun : importDevice ⟨b, none⟩ backend with ⟨after, e'' | reader⟩
      · rw [Procedure.bind_error hrun]
        exact stuck_error _
      · rw [hrun] at hstuck
        have hfailed := hstuck reader rfl
        rw [Procedure.bind_ok hrun, Procedure.repeatWhile_stop hfailed, Procedure.pure_apply]
        exact stuck_ok hfailed
    · rw [Procedure.bind_ok (importDevice_reads himage)]
      apply ih
      rw [Wire.readTimes, Procedure.bind_ok himage] at h
      rcases htail : Wire.readTimes decodeImage n t' with ⟨t'', e'' | others⟩
      · rw [Procedure.bind_error htail] at h
        exact h
      · rw [Procedure.bind_ok htail] at h
        cases h

/-- A reader is at the end of a message. -/
lemma finish_eq_ok {u : Unit} :
    ByteReader.finish reader = .ok u ↔ reader.error = none ∧ reader.rest = [] := by
  unfold ByteReader.finish
  cases herror : reader.error with
  | some e => simp
  | none =>
    cases hrest : reader.rest with
    | nil => simp [success]
    | cons first tail => simp [failure_ne_ok]

lemma finishImport_apply (reader : ByteReader) (backend : SyntheticBackend) :
    (finishImport reader backend).1 = backend ∧
      ((finishImport reader backend).2 = .ok () ↔ reader.error = none ∧ reader.rest = []) := by
  unfold finishImport
  cases hfinish : ByteReader.finish reader with
  | ok u => exact ⟨rfl, iff_of_true rfl (finish_eq_ok.mp hfinish)⟩
  | error e =>
    refine ⟨rfl, iff_of_false (fun h ↦ ?_) fun h ↦ ?_⟩
    · cases h
    · rw [finish_eq_ok (u := ()) |>.mpr h] at hfinish
      cases hfinish

/-- The checks in front of the devices of a payload. -/
def opens (bytes : List UInt8) : Bool :=
  16 ≤ bytes.length && bytes.take 8 == syntheticMagic &&
    (readVersion bytes).1 == syntheticFormatVersion && (readDeviceCount bytes).1 ≤ 64

/-- Behind its first checks an import reads devices to the end. -/
lemma importState_of_opens {bytes : List UInt8} (h : opens bytes = true)
    (backend : SyntheticBackend) :
    importState bytes backend =
      (importDevices (readDeviceCount bytes).1.toNat (readDeviceCount bytes).2 >>=
        finishImport) backend := by
  simp only [opens, Bool.and_eq_true] at h
  obtain ⟨⟨⟨hsize, hmagic⟩, hversion⟩, hcount⟩ := h
  unfold importState
  rw [Procedure.require_bind, if_pos hsize, Procedure.require_bind, if_pos hmagic,
    Procedure.require_bind, if_pos hversion, Procedure.require_bind, if_pos hcount]

lemma importState_of_not_opens {bytes : List UInt8} (h : opens bytes = false)
    (backend : SyntheticBackend) :
    ∃ e, importState bytes backend = (backend, .error e) := by
  unfold importState
  simp only [Procedure.require_bind]
  split
  · rename_i hsize
    split
    · rename_i hmagic
      split
      · rename_i hversion
        split
        · rename_i hcount
          simp [opens, hsize, hmagic, hversion, hcount] at h
        · exact ⟨_, rfl⟩
      · exact ⟨_, rfl⟩
    · exact ⟨_, rfl⟩
  · exact ⟨_, rfl⟩

/-- An error that the reader has kept is found at the end. -/
lemma finishImport_of_stuck {m : SyntheticM ByteReader} (h : Stuck (m backend).2) :
    ((m >>= finishImport) backend).2 ≠ .ok () := by
  rcases hrun : m backend with ⟨after, e | reader⟩
  · rw [Procedure.bind_error hrun]
    exact fun heq ↦ by cases heq
  · rw [hrun] at h
    rw [Procedure.bind_ok hrun]
    intro hend
    have hnone := ((finishImport_apply reader after).2.mp hend).1
    have hfailed := h reader rfl
    rw [Wire.Stream.ok, hnone] at hfailed
    cases hfailed

/-- A payload is imported by restoring its devices one after the other. -/
theorem importState_of_payload {bytes : List UInt8} {images : List DeviceImage}
    (h : Payload bytes images) (backend : SyntheticBackend) :
    importState bytes backend = (images.foldl restore backend, .ok ()) := by
  obtain ⟨t, version, hversion, hchecked⟩ := Procedure.bind_eq_ok.mp h.body
  obtain ⟨_, _, hsupported, hcounted⟩ := Procedure.bind_eq_ok.mp hchecked
  obtain ⟨t', count, hcount, hbounded⟩ := Procedure.bind_eq_ok.mp hcounted
  obtain ⟨_, _, hwithin, htimes⟩ := Procedure.bind_eq_ok.mp hbounded
  obtain ⟨rfl, hversionOk⟩ := Procedure.require_eq_ok hsupported
  obtain ⟨rfl, hcountOk⟩ := Procedure.require_eq_ok hwithin
  have hreadVersion : readVersion bytes = (version, ⟨t, none⟩) :=
    ByteReader.follows_u32.reads hversion
  have hreadCount : readDeviceCount bytes = (count, ⟨t', none⟩) := by
    rw [readDeviceCount, hreadVersion]
    exact ByteReader.follows_u32.reads hcount
  have hopens : opens bytes = true := by
    simp only [opens, hreadVersion, hreadCount, hversionOk, hcountOk, h.magic, h.size,
      decide_true, beq_self_eq_true, Bool.and_self]
  rw [importState_of_opens hopens, hreadCount, Procedure.bind_ok (importDevices_reads htimes)]
  obtain ⟨hsame, hok⟩ := finishImport_apply ⟨[], none⟩ (images.foldl restore backend)
  exact Prod.ext hsame (hok.mpr ⟨rfl, rfl⟩)

/-- What is imported without an error is a payload. -/
theorem payload_of_importState {bytes : List UInt8} {backend : SyntheticBackend}
    (h : (importState bytes backend).2 = .ok ()) : ∃ images, Payload bytes images := by
  cases hopens : opens bytes with
  | false =>
    obtain ⟨e, he⟩ := importState_of_not_opens hopens backend
    rw [he] at h
    cases h
  | true =>
    rw [importState_of_opens hopens] at h
    simp only [opens, Bool.and_eq_true, decide_eq_true_eq, beq_iff_eq] at hopens
    obtain ⟨⟨⟨hsize, hmagic⟩, hversionOk⟩, hcountOk⟩ := hopens
    rcases hversion : Read.u32 (bytes.drop 8) with ⟨t, e | version⟩
    · have hfails : (readVersion bytes).2.error = some e := ByteReader.follows_u32.fails hversion
      have hstuck := (ByteReader.follows_u32.stuck (Follows.not_ok_of_error hfails)).trans hfails
      have hreader : (readDeviceCount bytes).2.ok = false := Follows.not_ok_of_error hstuck
      exact absurd h (finishImport_of_stuck (stuck_importDevices hreader _ backend))
    have hreadVersion : readVersion bytes = (version, ⟨t, none⟩) :=
      ByteReader.follows_u32.reads hversion
    rcases hcount : Read.u32 t with ⟨t', e | count⟩
    · have hfails : (readDeviceCount bytes).2.error = some e := by
        rw [readDeviceCount, hreadVersion]
        exact ByteReader.follows_u32.fails hcount
      have hreader : (readDeviceCount bytes).2.ok = false := Follows.not_ok_of_error hfails
      exact absurd h (finishImport_of_stuck (stuck_importDevices hreader _ backend))
    have hreadCount : readDeviceCount bytes = (count, ⟨t', none⟩) := by
      rw [readDeviceCount, hreadVersion]
      exact ByteReader.follows_u32.reads hcount
    rw [hreadCount] at h hcountOk
    rw [hreadVersion] at hversionOk
    rcases htimes : Wire.readTimes decodeImage count.toNat t' with ⟨t'', e | images⟩
    · exact absurd h (finishImport_of_stuck (importDevices_fails htimes))
    · rw [Procedure.bind_ok (importDevices_reads htimes)] at h
      have hrest : t'' = [] := ((finishImport_apply _ _).2.mp h).2
      refine ⟨images, hsize, hmagic, ?_⟩
      rw [decodeImages, Procedure.bind_ok hversion, Procedure.require_bind,
        if_pos (beq_iff_eq.mpr hversionOk), Procedure.bind_ok hcount, Procedure.require_bind,
        if_pos (decide_eq_true hcountOk), htimes, hrest]

/-- The next device of a payload is read and restored. -/
def continues (reader : ByteReader) : Bool :=
  reader.ok && (readHeader reader).1.partitionCount ≤ 512

/-- The devices of a payload that an import reaches before the first error, the one that meets it
included as it is read. -/
def reachedImages (bytes : List UInt8) : List DeviceImage :=
  if opens bytes then
    Wire.Sticky.reached continues readImage (readDeviceCount bytes).1.toNat
      (readDeviceCount bytes).2
  else []

lemma importDevices_fst (n : ℕ) (reader : ByteReader) (backend : SyntheticBackend) :
    (importDevices n reader backend).1 =
      (Wire.Sticky.reached continues readImage n reader).foldl restore backend := by
  unfold importDevices
  induction n generalizing reader backend with
  | zero => rfl
  | succ n ih =>
    cases hok : reader.ok with
    | false =>
      have hstop : continues reader = false := by rw [continues, hok, Bool.false_and]
      rw [Procedure.repeatWhile_stop hok, Wire.Sticky.reached_stop hstop]
      rfl
    | true =>
      rw [Procedure.repeatWhile_succ hok]
      by_cases hle : (readHeader reader).1.partitionCount ≤ 512
      · have hgo : continues reader = true := by
          rw [continues, hok, Bool.true_and, decide_eq_true hle]
        have hrun := importDevice_apply reader backend
        rw [if_pos hle] at hrun
        rw [Procedure.bind_ok hrun, ih, Wire.Sticky.reached_succ hgo, List.foldl_cons]
      · have hstop : continues reader = false := by
          rw [continues, hok, Bool.true_and, decide_eq_false hle]
        have hrun := importDevice_apply reader backend
        rw [if_neg hle] at hrun
        rw [Procedure.bind_error hrun, Wire.Sticky.reached_stop hstop, List.foldl_nil]

/-- An import restores the devices that it reaches, whether it fails or not. -/
theorem importState_fst (bytes : List UInt8) (backend : SyntheticBackend) :
    (importState bytes backend).1 = (reachedImages bytes).foldl restore backend := by
  unfold reachedImages
  cases hopens : opens bytes with
  | false =>
    obtain ⟨e, he⟩ := importState_of_not_opens hopens backend
    rw [he]
    rfl
  | true =>
    rw [importState_of_opens hopens, if_pos rfl, ← importDevices_fst]
    rcases hrun : importDevices (readDeviceCount bytes).1.toNat (readDeviceCount bytes).2 backend
      with ⟨after, e | reader⟩
    · rw [Procedure.bind_error hrun]
    · rw [Procedure.bind_ok hrun]
      exact (finishImport_apply reader after).1

end Reading

section Contents

variable {backend : SyntheticBackend} {device : Device} {key : Text}

/-- The boot identity, the presence, the next index and the partitions of a device. -/
abbrev Content := AcceleratorBootId × Bool × UInt64 × List Partition

/-- What a checkpoint holds of a device. -/
def Device.content (device : Device) : Content :=
  (device.boot, device.present, device.nextPartitionIndex, device.partitions)

/-- What a restored device holds. -/
def DeviceImage.content (image : DeviceImage) : Content :=
  (image.header.boot, image.header.present,
    if image.header.nextPartitionIndex = 0 then 1 else image.header.nextPartitionIndex,
    image.partitions)

lemma content_restoredFrom (device : Device) (image : DeviceImage) :
    (device.restoredFrom image).content = image.content := by
  unfold Device.content Device.restoredFrom DeviceImage.content
  rfl

/-- What the last record of a key says. -/
def lastImage (key : Text) (images : List DeviceImage) : Option DeviceImage :=
  images.reverse.find? (·.header.key = key)

/-- The last record of a key decides what its device holds. -/
lemma content_restoreAll (images : List DeviceImage) (backend : SyntheticBackend) (key : Text) :
    ((images.foldl restore backend).find key).map Device.content =
      (backend.find key).map fun device ↦
        ((lastImage key images).map DeviceImage.content).getD device.content := by
  induction images using List.reverseRecOn with
  | nil => rfl
  | append_singleton images image ih =>
    unfold lastImage at ih ⊢
    rw [List.foldl_append, List.foldl_cons, List.foldl_nil, find_restore, List.reverse_append,
      List.reverse_singleton, List.singleton_append, List.find?_cons]
    by_cases hkey : key = image.header.key
    · rw [if_pos hkey, decide_eq_true hkey.symm, Option.map_map]
      cases hbefore : backend.find key with
      | none =>
        rw [hbefore] at ih
        rw [Option.map_none, Option.map_eq_none_iff] at ih
        rw [ih]
        rfl
      | some device =>
        rw [hbefore] at ih
        obtain ⟨after, hafter, -⟩ := Option.map_eq_some_iff.mp ih
        rw [hafter]
        exact congrArg some (content_restoredFrom after image)
    · rw [if_neg hkey, decide_eq_false (Ne.symm hkey)]
      exact ih

/-- The devices of two backends hold the same. -/
def SameContents (backend after : SyntheticBackend) : Prop :=
  ∀ key, (after.find key).map Device.content = (backend.find key).map Device.content

/-- Every configured device already is what the last record that is read of it says. -/
def Settled (bytes : List UInt8) (backend : SyntheticBackend) : Prop :=
  ∀ key device image, backend.find key = some device →
    lastImage key (reachedImages bytes) = some image → device.content = image.content

/-- A failing import leaves the devices alone exactly when it read nothing new of any of them. -/
theorem importState_atomic_iff (bytes : List UInt8) (backend : SyntheticBackend) :
    ((importState bytes backend).2 ≠ .ok () → SameContents backend (importState bytes backend).1) ↔
      (∃ images, Payload bytes images) ∨ Settled bytes backend := by
  have hpayload : (importState bytes backend).2 = .ok () ↔ ∃ images, Payload bytes images := by
    constructor
    · exact payload_of_importState
    · rintro ⟨images, himages⟩
      rw [importState_of_payload himages]
  have hsettled : SameContents backend (importState bytes backend).1 ↔ Settled bytes backend := by
    unfold SameContents Settled
    simp only [importState_fst, content_restoreAll]
    refine forall_congr' fun key ↦ ?_
    cases hfind : backend.find key with
    | none => simp
    | some device =>
      cases hlast : lastImage key (reachedImages bytes) with
      | none => simp
      | some image => simp [eq_comm]
  rw [← hpayload, ← hsettled, or_iff_not_imp_left]

end Contents

section Checkpoints

/-- The texts and the resources of a partition are ones that an import accepts. -/
structure Partition.Readable (partition : Partition) : Prop where
  nativeId : partition.nativeId.length ≤ 256
  instanceUuid : partition.instanceUuid.length ≤ 256
  vendorNative : partition.vendorNative.length ≤ 256
  resources : partition.resources.Readable
  isolationDomain : partition.isolationDomain.length ≤ 256

instance (partition : Partition) : Decidable partition.Readable :=
  decidable_of_iff (_ ∧ _ ∧ _ ∧ partition.resources.validateDimensions = success ∧ _)
    ⟨fun h ↦ ⟨h.1, h.2.1, h.2.2.1, h.2.2.2.1, h.2.2.2.2⟩, fun h ↦
      ⟨h.nativeId, h.instanceUuid, h.vendorNative, h.resources, h.isolationDomain⟩⟩

/-- The key and the partitions of a device are ones that an import accepts. -/
structure Device.Readable (device : Device) : Prop where
  key : device.spec.key.length ≤ 256
  count : device.partitions.length ≤ 512
  partitions : ∀ partition ∈ device.partitions, partition.Readable

instance (device : Device) : Decidable device.Readable :=
  decidable_of_iff (_ ∧ _ ∧ _)
    ⟨fun h ↦ ⟨h.1, h.2.1, h.2.2⟩, fun h ↦ ⟨h.key, h.count, h.partitions⟩⟩

/-- What a checkpoint says of a device. -/
def Device.image (device : Device) : DeviceImage where
  header :=
    { key := device.spec.key
      boot := device.boot
      present := device.present
      nextPartitionIndex := device.nextPartitionIndex
      partitionCount := device.partitions.length.toUInt32 }
  partitions := device.partitions

lemma reads_partition (partition : Partition) :
    Reads decodePartition partition.encode partition.Readable partition := by
  apply Reads.congr
  · unfold decodePartition Partition.encode
    iterate 3 apply Reads.field (reads_text _ _ 256)
    apply Reads.plain (reads_u64 _)
    apply Reads.field (reads_resources _)
    iterate 2 apply Reads.plain (reads_u32 _)
    apply Reads.field (reads_text _ _ 256)
    apply Reads.plain (reads_u32 _)
    apply Reads.plain (reads_boolean _)
    exact Reads.pure _
  · constructor
    · rintro ⟨h1, h2, h3, h4, h5, -⟩
      exact ⟨h1, h2, h3, h4, h5⟩
    · intro h
      exact ⟨h.nativeId, h.instanceUuid, h.vendorNative, h.resources, h.isolationDomain, trivial⟩

lemma one_le_text (value : Text) (maxLen : ℕ) : 1 ≤ (Write.text value maxLen).content.length := by
  rw [content_text, List.length_append, Wire.length_littleEndian]
  omega

/-- A counted list is read when its elements are and its count is admitted. -/
lemma reads_counted {α β γ : Type} {each : ReadM β} {enc : α → Script} {P : α → Prop} {g : α → β}
    {l : List α} (bound : UInt32) (e : Error) (finish : UInt32 → List β → γ)
    (hmin : ∀ a ∈ l, 1 ≤ (enc a).content.length) (h : ∀ a ∈ l, Reads each (enc a) (P a) (g a)) :
    Reads (Read.u32 >>= fun count ↦ Procedure.require (count ≤ bound) e >>= fun _ ↦
        Wire.readTimes each count.toNat >>= fun values ↦ pure (finish count values))
      (Write.list enc l) (l.length ≤ bound.toNat ∧ ∀ a ∈ l, P a)
      (finish l.length.toUInt32 (l.map g)) := by
  have hlong := length_le_content hmin
  rw [Nat.mul_one] at hlong
  unfold Read.u32
  rw [Procedure.bind_assoc]
  apply reads_length hlong
  intro hlen
  have hcount : l.length.toUInt32.toNat = l.length := by
    rw [UInt32.toNat_ofNat']
    exact Nat.mod_eq_of_lt hlen
  change Reads (Procedure.require (l.length.toUInt32 ≤ bound) e >>= fun _ ↦
    Wire.readTimes each l.length.toUInt32.toNat >>= fun values ↦
      pure (finish l.length.toUInt32 values)) _ _ _
  rw [hcount]
  apply Reads.congr (Reads.check e ((Wire.reads_times_map h).map _))
  rw [decide_eq_true_eq, UInt32.le_iff_toNat_le, hcount]

lemma reads_image (device : Device) :
    Reads decodeImage device.encode device.Readable device.image := by
  have hmin : ∀ partition ∈ device.partitions, 1 ≤ partition.encode.content.length :=
    fun partition _ ↦ le_content_flatten _ (one_le_text _ _)
  have hlist := reads_counted 512 tooManyPartitions
    (fun count partitions ↦ (⟨⟨device.spec.key, device.boot, device.present,
      device.nextPartitionIndex, count⟩, partitions⟩ : DeviceImage)) hmin
    fun partition _ ↦ reads_partition partition
  rw [List.map_id'] at hlist
  apply Reads.congr
  · unfold decodeImage decodeHeader Device.encode
    simp only [Procedure.bind_assoc]
    apply Reads.field (reads_text _ _ 256)
    apply Reads.plain (reads_u64 _)
    apply Reads.plain (reads_boolean _)
    apply Reads.plain (reads_u64 _)
    rw [List.flatten_singleton]
    exact hlist
  · constructor
    · rintro ⟨hkey, hcount, hpartitions⟩
      exact ⟨hkey, hcount, hpartitions⟩
    · intro h
      exact ⟨h.key, h.count, h.partitions⟩

lemma reads_images (backend : SyntheticBackend) :
    Reads decodeImages backend.encode
      (backend.devices.values.length ≤ 64 ∧ ∀ device ∈ backend.devices.values, device.Readable)
      (backend.devices.values.map Device.image) := by
  have hmin : ∀ device ∈ backend.devices.values, 1 ≤ device.encode.content.length :=
    fun device _ ↦ le_content_flatten _ (one_le_text _ _)
  have hlist := reads_counted 64
    (makeError .limitExceeded "synthetic state payload declares too many devices")
    (fun _ images ↦ images) hmin fun device _ ↦ reads_image device
  simp only [Procedure.bind_pure] at hlist
  apply Reads.congr
  · unfold decodeImages encode
    apply Reads.plain (reads_u32 _)
    apply Reads.check
    rw [List.flatten_singleton]
    exact hlist
  · constructor
    · rintro ⟨-, h⟩
      exact h
    · intro h
      exact ⟨rfl, h⟩

/-- An export succeeds when what it writes fits, and returns that behind its magic. -/
lemma exportState_eq_ok_iff {backend : SyntheticBackend} {bytes : List UInt8} :
    exportState backend = .ok bytes ↔ backend.encode.Fits ({} : Limits).maxFrameBytes ∧
      bytes = syntheticMagic ++ backend.encode.content := by
  have hwrote := ByteWriter.wrote_run
    (w := { bound := ({} : Limits).maxFrameBytes }) ⟨rfl, Nat.zero_le _⟩ backend.encode
  unfold exportState
  by_cases hfits : backend.encode.Fits ({} : Limits).maxFrameBytes
  · obtain ⟨hhealthy, -, hbuffer⟩ := hwrote.accepts hfits
    have herror := Option.isNone_iff_eq_none.mp hhealthy.ok
    simp only [herror, hbuffer, hfits, true_and]
    exact ⟨fun h ↦ (Except.ok.inj h).symm, fun h ↦ by rw [h]; rfl⟩
  · obtain ⟨hfailed, -⟩ := hwrote.refuses hfits
    refine iff_of_false (fun h ↦ ?_) fun h ↦ hfits h.1
    simp only at h
    split at h
    · cases h
    · rename_i hnone
      rw [ByteWriter.ok, hnone] at hfailed
      cases hfailed

/-- Everything that a checkpoint holds comes back from it. -/
structure Restorable (backend : SyntheticBackend) : Prop where
  count : backend.devices.values.length ≤ 64
  readable : ∀ device ∈ backend.devices.values, device.Readable
  index : ∀ device ∈ backend.devices.values, device.nextPartitionIndex ≠ 0

instance (backend : SyntheticBackend) : Decidable backend.Restorable :=
  decidable_of_iff (_ ∧ _ ∧ _) ⟨fun h ↦ ⟨h.1, h.2.1, h.2.2⟩, fun h ↦ ⟨h.count, h.readable, h.index⟩⟩

/-- The same devices are configured. -/
def Configured (backend target : SyntheticBackend) : Prop :=
  ∀ key, (target.find key).map Device.spec = (backend.find key).map Device.spec

variable {backend : SyntheticBackend} {device : Device} {key : Text} {bytes : List UInt8}

/-- An exported state is read back as it was written, or not at all. -/
lemma payload_exported (h : exportState backend = .ok bytes) (images : List DeviceImage) :
    Payload bytes images ↔ (backend.devices.values.length ≤ 64 ∧
      ∀ device ∈ backend.devices.values, device.Readable) ∧
        images = backend.devices.values.map Device.image := by
  obtain ⟨hfits, rfl⟩ := exportState_eq_ok_iff.mp h
  have hbound : ({} : Limits).maxFrameBytes < 2 ^ 32 := by decide
  have hdrop : (syntheticMagic ++ backend.encode.content).drop 8 = backend.encode.content := rfl
  have hreads := reads_images backend
  constructor
  · intro hpayload
    have hbody := hpayload.body
    rw [hdrop] at hbody
    by_cases hreadable : backend.devices.values.length ≤ 64 ∧
        ∀ device ∈ backend.devices.values, device.Readable
    · have haccepts := hreads.accepts _ hbound hfits hreadable []
      rw [List.append_nil, hbody] at haccepts
      exact ⟨hreadable, Except.ok.inj (Prod.mk.inj haccepts).2⟩
    · obtain ⟨t, e, hfails⟩ := hreads.refuses _ hbound hfits hreadable []
      rw [List.append_nil, hbody] at hfails
      cases hfails
  · rintro ⟨hreadable, rfl⟩
    have haccepts := hreads.accepts _ hbound hfits hreadable []
    rw [List.append_nil] at haccepts
    refine ⟨?_, rfl, by rw [hdrop, haccepts]⟩
    have hcontent : 8 ≤ backend.encode.content.length := by
      unfold encode Write.list
      simp only [List.flatten_cons, List.flatten_nil, Wire.Script.content_append,
        Wire.Script.content_cons, Wire.Chunk.content, List.length_append, length_u32,
        Wire.length_littleEndian]
      omega
    have hmagic : syntheticMagic.length = 8 := rfl
    rw [List.length_append, hmagic]
    omega

/-- A checkpoint has one record of each device. -/
lemma lastImage_exported (h : backend.find key = some device) :
    lastImage key (backend.devices.values.map Device.image) = some device.image := by
  have hmem : device ∈ backend.devices.values := KeyedMap.mem_values.mpr ⟨key, h⟩
  unfold lastImage
  cases hlast : (backend.devices.values.map Device.image).reverse.find? (·.header.key = key) with
  | none =>
    have hnone := List.find?_eq_none.mp hlast device.image
      (List.mem_reverse.mpr (List.mem_map_of_mem hmem))
    have hkey : device.image.header.key = key := key_of_find h
    exact absurd hkey (by simpa using hnone)
  | some image =>
    have hkey : image.header.key = key := by simpa using List.find?_some hlast
    obtain ⟨other, hother, rfl⟩ :=
      List.mem_map.mp (List.mem_reverse.mp (List.mem_of_find?_eq_some hlast))
    obtain ⟨own, hfind⟩ := KeyedMap.mem_values.mp hother
    have hown : own = key := (key_of_find hfind).symm.trans hkey
    rw [hown] at hfind
    rw [Option.some.inj (hfind.symm.trans h)]

lemma content_image (h : device.image.content = device.content) :
    device.nextPartitionIndex ≠ 0 := by
  intro hzero
  have hindex := congrArg (fun content ↦ content.2.2.1) h
  simp [DeviceImage.content, Device.image, Device.content, hzero] at hindex

lemma image_content (h : device.nextPartitionIndex ≠ 0) :
    device.image.content = device.content := by
  unfold DeviceImage.content Device.image Device.content
  rw [if_neg h]

/-- An exported state comes back in every backend with the same devices exactly when it is
restorable. -/
theorem restores_iff (h : exportState backend = .ok bytes) :
    (∀ target, Configured backend target → (importState bytes target).2 = .ok () ∧
        SameContents backend (importState bytes target).1) ↔ backend.Restorable := by
  constructor
  · intro hrestores
    obtain ⟨hok, hsame⟩ := hrestores backend fun _ ↦ rfl
    obtain ⟨images, hpayload⟩ := payload_of_importState hok
    obtain ⟨⟨hcount, hreadable⟩, rfl⟩ := (payload_exported h images).mp hpayload
    refine ⟨hcount, hreadable, fun device hdevice ↦ ?_⟩
    obtain ⟨key, hfind⟩ := KeyedMap.mem_values.mp hdevice
    have hcontent := hsame key
    rw [importState_of_payload hpayload, content_restoreAll,
      show backend.find key = some device from hfind, lastImage_exported hfind] at hcontent
    exact content_image (Option.some.inj hcontent)
  · intro hrestorable target hconfigured
    have hpayload := (payload_exported h _).mpr
      ⟨⟨hrestorable.count, hrestorable.readable⟩, rfl⟩
    rw [importState_of_payload hpayload]
    refine ⟨rfl, fun key ↦ ?_⟩
    have hspec := hconfigured key
    rw [content_restoreAll]
    cases hfind : backend.find key with
    | none =>
      rw [hfind, Option.map_none, Option.map_eq_none_iff] at hspec
      rw [hspec]
      rfl
    | some device =>
      rw [hfind] at hspec
      obtain ⟨other, hother, -⟩ := Option.map_eq_some_iff.mp hspec
      have hindex := hrestorable.index device (KeyedMap.mem_values.mpr ⟨key, hfind⟩)
      rw [hother, lastImage_exported hfind]
      exact congrArg some (image_content hindex)

/-- Checkpoints restore what they were taken of exactly when the state is restorable, and an import
that fails leaves the devices alone exactly when the payload is well formed or says nothing new of
any of them as far as it is read. -/
theorem checkpoints_faithful_iff (backend : SyntheticBackend) :
    (∀ bytes, exportState backend = .ok bytes →
      ((∀ target, Configured backend target → (importState bytes target).2 = .ok () ∧
        SameContents backend (importState bytes target).1) ↔ backend.Restorable)) ∧
    ∀ bytes, ((importState bytes backend).2 ≠ .ok () →
        SameContents backend (importState bytes backend).1) ↔
      (∃ images, Payload bytes images) ∨ Settled bytes backend :=
  ⟨fun _ ↦ restores_iff, fun bytes ↦ importState_atomic_iff bytes backend⟩

namespace Sample

def narrowSpec : SyntheticDeviceSpec :=
  { key := "a", profiles := [{ name := "p", resources := { values := fun _ ↦ 1, mask := 2 } }]
    physicalTotals := { values := fun _ ↦ 8, mask := 2 } }

/-- A key that is as long as a key may be. -/
def longKey : Text := List.replicate 256 97

/-- A device with one partition. -/
def partitioned (key : Text) : SyntheticBackend :=
  synthetic.run
    [.addDevice { narrowSpec with key },
      .createPartitions 0 { stableKey := key, desired := [{ vendorNativeProfile := "p" }] }]
    constructed

/-- The same device without a partition. -/
def empty : SyntheticBackend := synthetic.run [.addDevice narrowSpec] constructed

/-- A checkpoint with a byte behind it. -/
def trailing : List UInt8 := syntheticMagic ++ (partitioned "a").encode.content ++ [0]

lemma fits_partitioned : (partitioned "a").encode.Fits ({} : Limits).maxFrameBytes :=
  ⟨by decide +kernel, by decide +kernel⟩

lemma fits_longKey : (partitioned longKey).encode.Fits ({} : Limits).maxFrameBytes :=
  ⟨by decide +kernel, by decide +kernel⟩

lemma not_readable_longKey : ¬ ∀ device ∈ (partitioned longKey).devices.values,
    device.Readable := by
  decide +kernel

end Sample

theorem checkpoints_faithful_partitioned : ∃ bytes,
    exportState (Sample.partitioned "a") = .ok bytes ∧
      ∀ target, Configured (Sample.partitioned "a") target →
        (importState bytes target).2 = .ok () ∧
          SameContents (Sample.partitioned "a") (importState bytes target).1 := by
  have hexport := exportState_eq_ok_iff.mpr ⟨Sample.fits_partitioned, rfl⟩
  have hrestorable : (Sample.partitioned "a").Restorable := by decide +kernel
  exact ⟨_, hexport, ((checkpoints_faithful_iff _).1 _ hexport).mpr hrestorable⟩

/-- A device with a long key cannot be restored from its own checkpoint, and a byte behind a
checkpoint is found when the device is already changed. -/
theorem checkpoints_unfaithful :
    (¬ ∀ (backend target : SyntheticBackend) (bytes : List UInt8),
      exportState backend = .ok bytes → Configured backend target →
        (importState bytes target).2 = .ok ()) ∧
    ¬ ∀ (backend : SyntheticBackend) (bytes : List UInt8),
      (importState bytes backend).2 ≠ .ok () →
        SameContents backend (importState bytes backend).1 := by
  constructor
  · intro h
    have hexport := exportState_eq_ok_iff.mpr ⟨Sample.fits_longKey, rfl⟩
    obtain ⟨images, himages⟩ := payload_of_importState (h _ _ _ hexport fun _ ↦ rfl)
    obtain ⟨⟨-, hreadable⟩, -⟩ := (payload_exported hexport images).mp himages
    exact Sample.not_readable_longKey hreadable
  · intro h
    have hfails : (importState Sample.trailing Sample.empty).2.isOk = false := by decide +kernel
    have hsame := h Sample.empty Sample.trailing (fun hok ↦ by rw [hok] at hfails; cases hfails)
      "a"
    revert hsame
    decide +kernel

end Checkpoints

end SyntheticBackend

end PartitionFabric

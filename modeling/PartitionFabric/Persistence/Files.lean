import PartitionFabric.Core.Basic
import PartitionFabric.Foundation.Mortal
import Mathlib.Algebra.GroupWithZero.Nat
import Mathlib.Data.List.DropRight
import Mathlib.Order.MinMax

/-!
Files that are replaced as a whole, and the paths they stand under.

A process writes a temporary sibling of a file piece by piece and renames it when it has the right
size. It may die between any two of these effects.
-/

namespace PartitionFabric

section Paths

def pathSeparator : UInt8 := 0x2f

def isAbsolute (path : Text) : Bool := path.head? = some pathSeparator

/-- The last component of a path. -/
def filename (path : Text) : Text := path.rtakeWhile fun c ↦ c ≠ pathSeparator

/-- A path without its last component and the separators before it. -/
def parentPath (path : Text) : Text :=
  let front := path.rdropWhile fun c ↦ c ≠ pathSeparator
  let trimmed := front.rdropWhile fun c ↦ c = pathSeparator
  if trimmed.isEmpty then front.take 1 else trimmed

def joinPath (base leaf : Text) : Text :=
  if isAbsolute leaf then leaf
  else if base.isEmpty || base.getLast? = some pathSeparator then base ++ leaf
  else base ++ [pathSeparator] ++ leaf

/-- A relative path must not leave the directory it starts from. -/
def isPathSafe (path : Text) : Bool :=
  !path.isEmpty && path.length ≤ 4096 && !path.contains 0 &&
    (isAbsolute path || !(path.splitOn pathSeparator).contains "..")

lemma isEmpty_of_isPathSafe {path : Text} (h : isPathSafe path = true) : path.isEmpty = false := by
  unfold isPathSafe at h
  simp only [Bool.and_eq_true, Bool.not_eq_true'] at h
  exact h.1.1.1

end Paths

/-- A file and its temporary sibling, where they exist. -/
structure Files where
  target : Option (List UInt8) := none
  temporary : Option (List UInt8) := none
deriving DecidableEq

/-- What the operating system makes of the calls for files: which of them succeed, in which pieces
what is written reaches the file, and the text of its errors. -/
structure Filing where
  createsDirectory : Bool := true
  opens : Bool := true
  pieces : List ℕ := []
  flushes : Bool := true
  measures : Bool := true
  renames : Bool := true
  removesTarget : Bool := true
  removesTemporary : Bool := true
  finds : Bool := true
  reads : Bool := true
  readsToEnd : Bool := true
  message : Text := []

abbrev FileM (α : Type) : Type := MortalM Error Files α

open Mortal

variable (os : Filing)

def fileExists (content : Option (List UInt8)) : Bool := os.finds && content.isSome

def removeFile (path : Text) (removes : Bool) (erase : Files → Files) : FileM Unit := do
  check (isPathSafe path) (makeError .invalidArgument "refusing to remove an unsafe path" path)
  check removes (makeError .internal "could not remove file" (path ++ (": " : Text) ++ os.message))
  effect erase

def readFile (path : Text) (content : Option (List UInt8)) : Result (List UInt8) :=
  if !isPathSafe path then failure .invalidArgument "refusing to read an unsafe path" path
  else match os.reads, content with
    | true, some data =>
      if os.readsToEnd then .ok data else failure .internal "read failed" path
    | _, _ => failure .notFound "could not open file" path

/-- What is written reaches the temporary file in pieces, some of it perhaps never. -/
def writePieces : List ℕ → List UInt8 → FileM Unit
  | [], _ => pure ()
  | n :: rest, data => do
    effect fun files ↦ { files with temporary := files.temporary.map (· ++ data.take n) }
    writePieces rest (data.drop n)

/-- Everything that precedes the check of the temporary file. -/
def writeTemporary (path temporary : Text) (data : List UInt8) : FileM Unit := do
  check (isPathSafe path) (makeError .invalidArgument "refusing to write an unsafe path" path)
  check ((parentPath path).isEmpty || os.createsDirectory)
    (makeError .internal "could not create the target directory" (parentPath path))
  check os.opens (makeError .internal "could not open the temporary file" temporary)
  effect fun files ↦ { files with temporary := some [] }
  writePieces os.pieces data
  check os.flushes (makeError .internal "could not write the temporary file" temporary)

/-- The size of the temporary file, as far as it can be determined. -/
def temporarySize (files : Files) : ℕ :=
  if os.measures then (files.temporary.getD []).length else 0

def removeTemporary (temporary : Text) : FileM (Result Unit) :=
  outcome (removeFile os temporary os.removesTemporary fun files ↦ { files with temporary := none })

def writeFileAtomic (path : Text) (data : List UInt8) : FileM Unit := do
  let temporary := joinPath (parentPath path) (filename path ++ (".tmp" : Text))
  writeTemporary os path temporary data
  let p ← Procedure.get
  let size := temporarySize os p.state
  if size ≠ data.length then
    let _ ← removeTemporary os temporary
    fail (makeError .internal "temporary file size does not match the payload"
      (decimal size ++ (" != " : Text) ++ decimal data.length))
  else if os.renames then
    effect fun files ↦ { target := files.temporary, temporary := none }
  else
    let _ ← removeTemporary os temporary
    fail (makeError .internal "atomic replacement failed" os.message)

section Spec

variable {os} {path temporary : Text} {data : List UInt8}

lemma spares_writePieces (pieces : List ℕ) (data : List UInt8) :
    Mortal.Spares Files.target (writePieces pieces data) := by
  induction pieces generalizing data with
  | nil => exact Mortal.Spares.pure ()
  | cons n rest ih =>
    refine Mortal.Spares.bind (Mortal.Spares.effect ?_) fun _ ↦ ih (data.drop n)
    exact fun _ ↦ rfl

lemma spares_writeTemporary :
    Mortal.Spares Files.target (writeTemporary os path temporary data) := by
  refine (Mortal.Spares.check _ _).bind fun _ ↦ (Mortal.Spares.check _ _).bind fun _ ↦ ?_
  refine (Mortal.Spares.check _ _).bind fun _ ↦ ?_
  refine Mortal.Spares.bind (Mortal.Spares.effect ?_) fun _ ↦ ?_
  · exact fun _ ↦ rfl
  · exact (spares_writePieces _ _).bind fun _ ↦ Mortal.Spares.check _ _

lemma spares_removeFile {τ : Type} {view : Files → τ} {removes : Bool} {erase : Files → Files}
    (h : ∀ files, view (erase files) = view files) :
    Mortal.Spares view (removeFile os path removes erase) :=
  (Mortal.Spares.check _ _).bind fun _ ↦ (Mortal.Spares.check _ _).bind fun _ ↦
    Mortal.Spares.effect h

lemma spares_removeTemporary : Mortal.Spares Files.target (removeTemporary os temporary) :=
  Mortal.Spares.outcome <| spares_removeFile <| by
    intro files
    rfl

/-- A file is removed, or it is not because the call fails or the process dies. -/
lemma removeFile_cases (removes : Bool) (erase : Files → Files) (p : Mortal Files) :
    (∃ n, removeFile os path removes erase p = (⟨erase p.state, n⟩, .ok ())) ∨
      ∃ e, removeFile os path removes erase p = (p, .error e) ∧
        ∀ f, e = .failed f → f.code ≠ .notFound := by
  unfold removeFile
  rw [check, Procedure.require_bind]
  split
  · rw [check, Procedure.require_bind]
    split
    · rcases @effect_cases Error Files erase p with h | ⟨n, h⟩
      · refine .inr ⟨.died, h, ?_⟩
        rintro _ ⟨⟩
      · exact .inl ⟨n, h⟩
    · refine .inr ⟨_, rfl, ?_⟩
      rintro _ ⟨⟩ h
      cases h
  · refine .inr ⟨_, rfl, ?_⟩
    rintro _ ⟨⟩ h
    cases h

/-- The temporary file holds a part of what was to be written. -/
lemma ensures_writePieces (pieces : List ℕ) (data : List UInt8) {p : Mortal Files}
    {written : List UInt8} (hp : p.state.temporary = some written) :
    Procedure.Ensures (fun _ q ↦ q.state.temporary = some (written ++ data.take pieces.sum))
      (writePieces pieces data) p := by
  induction pieces generalizing data written p with
  | nil => exact Procedure.ensures_pure (by rw [hp, List.sum_nil, List.take_zero, List.append_nil])
  | cons n rest ih =>
    refine Procedure.ensures_bind fun q _ hq ↦ ?_
    rcases @effect_cases Error Files (fun files ↦
      { files with temporary := files.temporary.map (· ++ data.take n) }) p with h | ⟨life, h⟩
    · rw [h] at hq
      cases hq
    · obtain ⟨rfl, -⟩ := Prod.mk.inj (h.symm.trans hq)
      have hq : Option.map (· ++ data.take n) p.state.temporary =
          some (written ++ data.take n) := by
        rw [hp, Option.map_some]
      intro u a hu
      rw [ih (data.drop n) hq u a hu, List.append_assoc, List.sum_cons, List.take_add]

lemma ensures_writeTemporary {p : Mortal Files} :
    Procedure.Ensures (fun _ q ↦ q.state.temporary = some (data.take os.pieces.sum))
      (writeTemporary os path temporary data) p := by
  unfold writeTemporary
  refine Procedure.ensures_bind fun _ _ _ ↦ Procedure.ensures_bind fun _ _ _ ↦ ?_
  refine Procedure.ensures_bind fun q _ _ ↦ Procedure.ensures_bind fun r _ hr ↦ ?_
  rcases @effect_cases Error Files (fun files ↦ { files with temporary := some [] }) q with
    h | ⟨life, h⟩
  · rw [h] at hr
    cases hr
  · obtain ⟨rfl, -⟩ := Prod.mk.inj (h.symm.trans hr)
    refine Procedure.ensures_bind fun t u ht v _ hv ↦ ?_
    have hwritten := ensures_writePieces os.pieces data rfl t u ht
    obtain ⟨rfl, -⟩ := Procedure.require_eq_ok hv
    exact hwritten

/-- A temporary file of the right size holds everything. -/
lemma temporary_of_size {files : Files} {k : ℕ} (htemporary : files.temporary = some (data.take k))
    (hsize : temporarySize os files = data.length) : files.temporary = some data := by
  unfold temporarySize at hsize
  rw [htemporary] at hsize ⊢
  split at hsize
  · have hlength : (data.take k).length = data.length := hsize
    rw [List.length_take, min_eq_right_iff] at hlength
    rw [List.take_of_length_le hlength]
  · rw [List.eq_nil_of_length_eq_zero hsize.symm, List.take_nil]

/-- A write that withdraws its temporary file fails and leaves the file as it was. -/
lemma withdraw_fails (os : Filing) (temporary : Text) (e : Error) (p : Mortal Files) :
    ∃ q e', (removeTemporary os temporary >>= fun _ ↦ (fail e : FileM Unit)) p = (q, .error e') ∧
      q.state.target = p.state.target := by
  rcases hrun : removeTemporary os temporary p with ⟨q, e' | a⟩
  · exact ⟨q, e', Procedure.bind_error hrun, spares_removeTemporary.of_run hrun⟩
  · exact ⟨q, .failed e, Procedure.bind_ok hrun, spares_removeTemporary.of_run hrun⟩

/-- The file is replaced as a whole when the write succeeds; when it fails, and when the process
dies, the file is what it was. -/
theorem writeFileAtomic_cases (p : Mortal Files) :
    (∃ q, writeFileAtomic os path data p = (q, .ok ()) ∧ q.state.target = some data) ∨
      ∃ q e, writeFileAtomic os path data p = (q, .error e) ∧
        q.state.target = p.state.target := by
  unfold writeFileAtomic
  dsimp only
  generalize joinPath (parentPath path) (filename path ++ (".tmp" : Text)) = temporary
  rcases hrun : writeTemporary os path temporary data p with ⟨q, e | u⟩
  · exact .inr ⟨q, e, Procedure.bind_error hrun, spares_writeTemporary.of_run hrun⟩
  · have hkept : q.state.target = p.state.target := spares_writeTemporary.of_run hrun
    have hk := ensures_writeTemporary q u hrun
    rw [Procedure.bind_ok hrun, Procedure.get_bind]
    by_cases hsize : temporarySize os q.state = data.length
    · rw [if_neg (not_not.mpr hsize)]
      split
      · rcases @effect_cases Error Files (fun files ↦
          { target := files.temporary, temporary := none }) q with h | ⟨n, h⟩
        · exact .inr ⟨q, .died, h, hkept⟩
        · exact .inl ⟨_, h, temporary_of_size hk hsize⟩
      · obtain ⟨v, e, hv, htarget⟩ := withdraw_fails os temporary _ q
        exact .inr ⟨v, e, hv, htarget.trans hkept⟩
    · rw [if_pos hsize]
      obtain ⟨v, e, hv, htarget⟩ := withdraw_fails os temporary _ q
      exact .inr ⟨v, e, hv, htarget.trans hkept⟩

/-- The operating system finds a file that is there, and reads it. -/
structure Filing.Reads (os : Filing) : Prop where
  finds : os.finds = true
  reads : os.reads = true
  readsToEnd : os.readsToEnd = true

instance (os : Filing) : Decidable os.Reads :=
  decidable_of_iff (_ ∧ _ ∧ _)
    ⟨fun h ↦ ⟨h.1, h.2.1, h.2.2⟩, fun h ↦ ⟨h.finds, h.reads, h.readsToEnd⟩⟩

lemma readFile_reads (hpath : isPathSafe path = true) (hos : os.Reads) (data : List UInt8) :
    readFile os path (some data) = .ok data := by
  unfold readFile
  rw [hpath, hos.reads, hos.readsToEnd]
  rfl

/-- The operating system writes a file of a size. -/
structure Filing.Writes (os : Filing) (size : ℕ) : Prop where
  createsDirectory : os.createsDirectory = true
  opens : os.opens = true
  pieces : size ≤ os.pieces.sum
  flushes : os.flushes = true
  measures : os.measures = true
  renames : os.renames = true

instance (os : Filing) (size : ℕ) : Decidable (os.Writes size) :=
  decidable_of_iff (_ ∧ _ ∧ size ≤ os.pieces.sum ∧ _ ∧ _ ∧ _)
    ⟨fun h ↦ ⟨h.1, h.2.1, h.2.2.1, h.2.2.2.1, h.2.2.2.2.1, h.2.2.2.2.2⟩, fun h ↦
      ⟨h.createsDirectory, h.opens, h.pieces, h.flushes, h.measures, h.renames⟩⟩

lemma Filing.Writes.mono {size larger : ℕ} (h : os.Writes larger) (hle : size ≤ larger) :
    os.Writes size :=
  { h with pieces := hle.trans h.pieces }

lemma unfailing_writePieces (pieces : List ℕ) (data : List UInt8) :
    Unfailing (writePieces pieces data) := by
  induction pieces generalizing data with
  | nil => exact Unfailing.pure ()
  | cons n rest ih => exact (Unfailing.effect _).bind fun _ ↦ ih (data.drop n)

lemma unfailing_writeTemporary (hpath : isPathSafe path = true) {size : ℕ} (hos : os.Writes size) :
    Unfailing (writeTemporary os path temporary data) := by
  refine (Unfailing.check hpath _).bind fun _ ↦ ?_
  refine (Unfailing.check (by rw [hos.createsDirectory, Bool.or_true]) _).bind fun _ ↦ ?_
  refine (Unfailing.check hos.opens _).bind fun _ ↦ (Unfailing.effect _).bind fun _ ↦ ?_
  exact (unfailing_writePieces _ _).bind fun _ ↦ Unfailing.check hos.flushes _

/-- The temporary file has the right size where the operating system writes what it is given. -/
lemma size_of_writes (hos : os.Writes data.length) {files : Files}
    (hwritten : files.temporary = some (data.take os.pieces.sum)) :
    temporarySize os files = data.length := by
  rw [temporarySize, if_pos hos.measures, hwritten, List.take_of_length_le hos.pieces,
    Option.getD_some]

lemma unfailing_writeFileAtomic (hpath : isPathSafe path = true) (hos : os.Writes data.length) :
    Unfailing (writeFileAtomic os path data) := by
  intro p e
  unfold writeFileAtomic
  dsimp only
  generalize joinPath (parentPath path) (filename path ++ (".tmp" : Text)) = temporary
  have hfirst : (writeTemporary os path temporary data p).2 ≠ .error (.failed e) :=
    unfailing_writeTemporary hpath hos p e
  rcases hrun : writeTemporary os path temporary data p with ⟨q, e' | u⟩
  · rw [hrun] at hfirst
    rw [Procedure.bind_error hrun]
    exact fun heq ↦ hfirst (congrArg _ (Except.error.inj heq))
  · have hsize := size_of_writes hos (ensures_writeTemporary q u hrun)
    rw [Procedure.bind_ok hrun, Procedure.get_bind, if_neg (not_not.mpr hsize),
      if_pos hos.renames]
    exact Unfailing.effect _ q e

/-- Where the operating system writes what it is given, only the death of the process keeps the
file from being replaced. -/
theorem writeFileAtomic_writes (hpath : isPathSafe path = true) (hos : os.Writes data.length)
    (p : Mortal Files) :
    ∃ q, (writeFileAtomic os path data p = (q, .ok ()) ∧ q.state.target = some data) ∨
      (writeFileAtomic os path data p = (q, .error .died) ∧ q.state.target = p.state.target) := by
  obtain ⟨q, h, htarget⟩ | ⟨q, e, h, htarget⟩ :=
    @writeFileAtomic_cases os path data p
  · exact ⟨q, .inl ⟨h, htarget⟩⟩
  · cases e with
    | died => exact ⟨q, .inr ⟨h, htarget⟩⟩
    | failed e => exact absurd (congrArg Prod.snd h) (unfailing_writeFileAtomic hpath hos p e)

end Spec

end PartitionFabric

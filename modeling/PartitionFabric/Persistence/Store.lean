import PartitionFabric.Codec.Durability
import PartitionFabric.Foundation.Errors
import PartitionFabric.Foundation.Simulation
import PartitionFabric.Persistence.Files

/-!
The durable store: a register for one durable state, kept in a file that is replaced as a whole.

The register is what the store promises. Where the file system refuses something, the file is too
large or the process dies, a call may fail or never return; the register then holds what it held,
or what the call that nobody saw returning was to store.
-/

namespace PartitionFabric

open Mortal

structure PersistenceStore where
  path : Text := []
deriving DecidableEq

namespace PersistenceStore

def unconfigured : Error :=
  makeError .invalidArgument "persistence path has not been configured"

variable (os : Filing) (store : PersistenceStore)

def save (state : DurableState) (limits : Limits) : FileM Unit := do
  check (!store.path.isEmpty) unconfigured
  let encoded ← lift (encode state limits)
  writeFileAtomic os store.path encoded

def load (limits : Limits) (files : Files) : Result DurableState :=
  if store.path.isEmpty then .error unconfigured
  else do
    let contents ← readFile os store.path files.target
    decode contents limits

/-- How a removal ends by how the two files were removed; a file that is not there is no failure. -/
def removed (status temporary : Result Unit) : FileM Unit :=
  match temporary, status with
  | .error e, status => if e.code ≠ .notFound then fail e else settled status
  | .ok _, status => settled status
where
  settled : Result Unit → FileM Unit
    | .error e => if e.code ≠ .notFound then fail e else pure ()
    | .ok _ => pure ()

/-- Removes the file and its temporary sibling. -/
def remove : FileM Unit := do
  check (!store.path.isEmpty) unconfigured
  let status ← outcome (removeFile os store.path os.removesTarget fun files ↦
    { files with target := none })
  let temporary ← outcome (removeFile os (store.path ++ (".tmp" : Text)) os.removesTemporary
    fun files ↦ { files with temporary := none })
  removed status temporary

end PersistenceStore

/-- A call of a store that a process may die in, with what the file system makes of it. -/
inductive StoreCall where
  | save (state : DurableState) (inRange : state.policy.weights.InRange) (limits : Limits)
      (os : Filing) (life : ℕ)
  | load (limits : Limits) (os : Filing)
  | remove (os : Filing) (life : ℕ)

/-- What is seen of a call: what was to be stored or may be read, and how the call ended. -/
inductive StoreEvent where
  | saved (state : DurableState) (outcome : Except (Halt Error) Unit)
  | loaded (limits : Limits) (opened : Bool) (outcome : Result DurableState)
  | removed (outcome : Except (Halt Error) Unit)

namespace StoreCall

variable (store : PersistenceStore)

/-- The files after a call. -/
def step : StoreCall → Files → Files
  | save state _ limits os life, files =>
    (returning (store.save os state limits) ⟨files, life⟩).1.state
  | load _ _, files => files
  | remove os life, files => (returning (store.remove os) ⟨files, life⟩).1.state

def see : StoreCall → Files → StoreEvent
  | save state _ limits os life, files =>
    .saved state (returning (store.save os state limits) ⟨files, life⟩).2
  | load limits os, files => .loaded limits os.reads (store.load os limits files)
  | remove os life, files => .removed (returning (store.remove os) ⟨files, life⟩).2

end StoreCall

/-- A store over files, where there is no file yet. -/
def durableStore (store : PersistenceStore) : System Files StoreCall where
  initial files := files.target = none
  step := StoreCall.step store

/-- What a register for one durable state may do, by what is seen of it. -/
def registerStep : StoreEvent → Option DurableState → Option DurableState → Prop
  | .saved state (.ok _), _, content => content = some state
  | .saved _ (.error (.failed _)), before, content => content = before
  | .saved state (.error .died), before, content => content = before ∨ content = some state
  | .loaded limits _ (.ok state), before, content =>
    before = some state ∧ state.Readable limits ∧ content = before
  | .loaded limits opened (.error e), before, content => content = before ∧
      (e.code = .notFound → opened = true → before = none) ∧
      (e.code = .persistenceCorruption → ∃ state, before = some state ∧
        ¬ (state.Readable limits ∧ state.validateDecoded limits = success))
  | .removed (.ok _), _, content => content = none
  | .removed (.error _), before, content => content = before ∨ content = none

/-- A file is the container of a durable state, written under some limits. -/
def Encloses (bytes : List UInt8) (state : DurableState) : Prop :=
  state.policy.weights.InRange ∧ ∃ limits, PersistenceStore.encode state limits = .ok bytes

/-- The file is there exactly when the register holds something, and encloses it. -/
def Files.Holds (files : Files) (content : Option DurableState) : Prop :=
  Option.Rel Encloses files.target content

namespace PersistenceStore

variable {os : Filing} {store : PersistenceStore} {state : DurableState} {limits : Limits}
  {files : Files}

/-- A save that succeeds leaves the encoding of the state; any other leaves the file as it was. -/
theorem save_cases (os : Filing) (store : PersistenceStore) (state : DurableState)
    (limits : Limits) (p : Mortal Files) :
    (∃ q bytes, store.save os state limits p = (q, .ok ()) ∧ encode state limits = .ok bytes ∧
      q.state.target = some bytes) ∨
    ∃ q e, store.save os state limits p = (q, .error e) ∧ q.state.target = p.state.target := by
  unfold save
  rw [check, Procedure.require_bind]
  split
  · cases hencode : encode state limits with
    | error e => exact .inr ⟨p, .failed e, rfl, rfl⟩
    | ok bytes =>
      rcases @writeFileAtomic_cases os store.path bytes p with
        ⟨q, hrun, htarget⟩ | ⟨q, e, hrun, htarget⟩
      · exact .inl ⟨q, bytes, hrun, rfl, htarget⟩
      · exact .inr ⟨q, e, hrun, htarget⟩
  · exact .inr ⟨p, .failed unconfigured, rfl, rfl⟩

/-- What becomes of the file when a state is saved, whether or not the caller learns of it. -/
lemma returning_save_cases (os : Filing) (store : PersistenceStore) (state : DurableState)
    (limits : Limits) (p : Mortal Files) :
    ∃ q r, returning (store.save os state limits) p = (q, r) ∧
      ((q.state.target = p.state.target ∧ r.isOk = false) ∨
        ∃ bytes, encode state limits = .ok bytes ∧ q.state.target = some bytes ∧
          (r = .ok () ∨ r = .error .died)) := by
  obtain ⟨q, hq, hreturned⟩ := returning_cases (store.save os state limits) p
  rcases save_cases os store state limits p with
    ⟨t, bytes, hrun, hencode, htarget⟩ | ⟨t, e, hrun, htarget⟩
  · rw [hrun] at hq hreturned
    have hbytes : q.state.target = some bytes := by rw [← hq, htarget]
    rcases hreturned with h | ⟨-, h⟩
    · exact ⟨q, _, h, .inr ⟨bytes, hencode, hbytes, .inl rfl⟩⟩
    · exact ⟨q, _, h, .inr ⟨bytes, hencode, hbytes, .inr rfl⟩⟩
  · rw [hrun] at hq hreturned
    have hkept : q.state.target = p.state.target := by rw [← hq, htarget]
    rcases hreturned with h | ⟨hok, -⟩
    · exact ⟨q, _, h, .inl ⟨hkept, rfl⟩⟩
    · cases hok

lemma spares_settled (status : Result Unit) :
    Mortal.Spares Files.target (removed.settled status) := by
  cases status with
  | error e => exact Mortal.Spares.ite (Mortal.Spares.fail e) (Mortal.Spares.pure ())
  | ok u => exact Mortal.Spares.pure ()

lemma spares_removed (status temporary : Result Unit) :
    Mortal.Spares Files.target (removed status temporary) := by
  cases temporary with
  | error e => exact Mortal.Spares.ite (Mortal.Spares.fail e) (spares_settled status)
  | ok u => exact spares_settled status

/-- A file that could not be removed is reported. -/
lemma removed_error {e : Error} (hcode : e.code ≠ .notFound) (temporary : Result Unit)
    (p : Mortal Files) : (removed (.error e) temporary p).2.isOk = false := by
  have hsettled : (removed.settled (.error e) p).2.isOk = false := by
    change ((if e.code ≠ .notFound then fail e else pure () : FileM Unit) p).2.isOk = false
    rw [if_pos hcode]
    rfl
  cases temporary with
  | error e' =>
    change ((if e'.code ≠ .notFound then fail e' else removed.settled (.error e) : FileM Unit)
      p).2.isOk = false
    split
    · rfl
    · exact hsettled
  | ok u => exact hsettled

/-- What follows on the removal of the file concerns its temporary sibling only. -/
lemma spares_sibling (os : Filing) (store : PersistenceStore) (status : Result Unit) :
    Mortal.Spares Files.target (outcome (removeFile os (store.path ++ (".tmp" : Text))
      os.removesTemporary fun files ↦ { files with temporary := none }) >>= removed status) := by
  refine Mortal.Spares.bind (Mortal.Spares.outcome (spares_removeFile ?_)) (spares_removed status)
  exact fun _ ↦ rfl

/-- A removal leaves no file, or it does not succeed and leaves the file as it was. -/
theorem remove_cases (os : Filing) (store : PersistenceStore) (p : Mortal Files) :
    (store.remove os p).1.state.target = none ∨
      (store.remove os p).1.state.target = p.state.target ∧ (store.remove os p).2.isOk = false := by
  unfold remove
  rw [check, Procedure.require_bind]
  split
  · rcases @removeFile_cases os store.path os.removesTarget
      (fun files ↦ { files with target := none }) p with ⟨n, hremoved⟩ | ⟨e, hkept, hcode⟩
    · left
      have hfirst : outcome (removeFile os store.path os.removesTarget fun files ↦
          { files with target := none }) p =
            (⟨{ p.state with target := none }, n⟩, .ok (.ok ())) := by
        rw [outcome, hremoved]
      rw [Procedure.bind_ok hfirst]
      exact spares_sibling os store (.ok ()) _
    · right
      cases e with
      | died =>
        have hfirst : outcome (removeFile os store.path os.removesTarget fun files ↦
            { files with target := none }) p = (p, .error .died) := by
          rw [outcome, hkept]
        rw [Procedure.bind_error hfirst]
        exact ⟨rfl, rfl⟩
      | failed f =>
        have hfirst : outcome (removeFile os store.path os.removesTarget fun files ↦
            { files with target := none }) p = (p, .ok (.error f)) := by
          rw [outcome, hkept]
        rw [Procedure.bind_ok hfirst]
        refine ⟨spares_sibling os store (.error f) p, ?_⟩
        rw [Procedure.bind_apply]
        split
        · exact removed_error (hcode f rfl) _ _
        · rfl
  · exact .inr ⟨rfl, rfl⟩

/-- What becomes of the file when it is removed, whether or not the caller learns of it. -/
lemma returning_remove_cases (os : Filing) (store : PersistenceStore) (p : Mortal Files) :
    ∃ q r, returning (store.remove os) p = (q, r) ∧
      (q.state.target = none ∨ q.state.target = p.state.target ∧ r.isOk = false) := by
  obtain ⟨q, hq, hreturned⟩ := returning_cases (store.remove os) p
  have hcases := remove_cases os store p
  rw [hq] at hcases
  rcases hreturned with h | ⟨hok, h⟩
  · exact ⟨q, _, h, hcases⟩
  · refine ⟨q, _, h, hcases.imp_right fun hkept ↦ ?_⟩
    rw [hok] at hkept
    cases hkept.2

/-- What cannot be decoded is reported as corrupt. -/
lemma decode_blames (bytes : List UInt8) (limits : Limits) :
    (decode bytes limits).Blames fun e ↦ e.code = .persistenceCorruption := by
  unfold decode
  iterate 8 refine Except.blames_ite (Except.blames_error rfl) ?_
  split
  · exact Except.blames_error rfl
  · split
    · exact Except.blames_error rfl
    · exact Except.blames_ok _

/-- What is read of a file, and why nothing is. -/
lemma readFile_cases (os : Filing) (path : Text) (content : Option (List UInt8)) :
    (∃ data, content = some data ∧ readFile os path content = .ok data) ∨
      ∃ e, readFile os path content = .error e ∧ e.code ≠ .persistenceCorruption ∧
        (e.code = .notFound → os.reads = true → content = none) := by
  unfold readFile
  split
  · exact .inr ⟨_, rfl, by rintro ⟨⟩, by rintro ⟨⟩⟩
  · split
    · split
      · exact .inl ⟨_, rfl, rfl⟩
      · exact .inr ⟨_, rfl, by rintro ⟨⟩, by rintro ⟨⟩⟩
    · rename_i hnone
      refine .inr ⟨_, rfl, by rintro ⟨⟩, fun _ hreads ↦ ?_⟩
      exact Option.eq_none_iff_forall_ne_some.mpr fun data ↦ hnone data hreads

/-- What is loaded is what the file decodes as. -/
lemma load_eq_ok {loaded : DurableState} (h : store.load os limits files = .ok loaded) :
    ∃ bytes, files.target = some bytes ∧ decode bytes limits = .ok loaded := by
  unfold load at h
  split at h
  · cases h
  · rcases readFile_cases os store.path files.target with
      ⟨data, htarget, hread⟩ | ⟨e, hread, -, -⟩
    · rw [hread] at h
      exact ⟨data, htarget, h⟩
    · rw [hread] at h
      cases h

variable {content : Option DurableState}

/-- Loading reads the register. -/
theorem load_register (os : Filing) (store : PersistenceStore) (limits : Limits)
    (h : files.Holds content) :
    registerStep (.loaded limits os.reads (store.load os limits files)) content content := by
  unfold load
  split
  · exact ⟨rfl, by rintro ⟨⟩, by rintro ⟨⟩⟩
  · rcases readFile_cases os store.path files.target with
      ⟨data, htarget, hread⟩ | ⟨e, hread, hintact, hmissing⟩
    · rw [hread]
      change registerStep (.loaded limits os.reads (decode data limits)) content content
      unfold Files.Holds at h
      rw [htarget] at h
      obtain ⟨state, rfl, hrange, writing, hencode⟩ :
          ∃ state, content = some state ∧ Encloses data state := by
        cases h with
        | some hstate => exact ⟨_, rfl, hstate⟩
      have hstored : state.stored = state := DurableState.stored_of_inRange hrange
      cases hdecode : decode data limits with
      | error e =>
        have hcode : e.code = .persistenceCorruption := decode_blames data limits e hdecode
        refine ⟨rfl, fun hmissing ↦ ?_, fun _ ↦ ⟨state, rfl, ?_⟩⟩
        · rw [hcode] at hmissing
          cases hmissing
        · rintro ⟨hreadable, hvalid⟩
          rw [← hstored] at hreadable hvalid
          rw [(decode_encoded_iff hencode).mpr ⟨hreadable, hvalid, rfl⟩] at hdecode
          cases hdecode
      | ok loaded =>
        obtain ⟨hreadable, -, rfl⟩ := (decode_encoded_iff hencode).mp hdecode
        rw [hstored] at hreadable ⊢
        exact ⟨rfl, hreadable, rfl⟩
    · rw [hread]
      refine ⟨rfl, fun hcode hreads ↦ ?_, fun hcode ↦ absurd hcode hintact⟩
      have hnone := hmissing hcode hreads
      unfold Files.Holds at h
      rw [hnone] at h
      cases h
      rfl

end PersistenceStore

section Register

variable {files : Files} {content : Option DurableState}

lemma registerStep_save (store : PersistenceStore) {state : DurableState}
    (hrange : state.policy.weights.InRange) (limits : Limits) (os : Filing) (life : ℕ)
    (h : files.Holds content) :
    ∃ content', registerStep (.saved state (returning (store.save os state limits)
        ⟨files, life⟩).2) content content' ∧
      (returning (store.save os state limits) ⟨files, life⟩).1.state.Holds content' := by
  obtain ⟨q, r, hrun, hcases⟩ :=
    PersistenceStore.returning_save_cases os store state limits ⟨files, life⟩
  rw [hrun]
  unfold Files.Holds at h ⊢
  rcases hcases with ⟨hkept, hfailed⟩ | ⟨bytes, hencode, htarget, hended⟩
  · refine ⟨content, ?_, by rw [hkept]; exact h⟩
    rcases r with (_ | e) | u
    · exact .inl rfl
    · exact rfl
    · cases hfailed
  · refine ⟨some state, ?_, by rw [htarget]; exact .some ⟨hrange, limits, hencode⟩⟩
    rcases hended with rfl | rfl
    · exact rfl
    · exact .inr rfl

lemma registerStep_remove (store : PersistenceStore) (os : Filing) (life : ℕ)
    (h : files.Holds content) :
    ∃ content', registerStep (.removed (returning (store.remove os) ⟨files, life⟩).2) content
        content' ∧
      (returning (store.remove os) ⟨files, life⟩).1.state.Holds content' := by
  obtain ⟨q, r, hrun, hcases⟩ := PersistenceStore.returning_remove_cases os store ⟨files, life⟩
  rw [hrun]
  unfold Files.Holds at h ⊢
  rcases hcases with hgone | ⟨hkept, hfailed⟩
  · refine ⟨none, ?_, by rw [hgone]; exact .none⟩
    cases r with
    | error e => exact .inr rfl
    | ok u => exact rfl
  · refine ⟨content, ?_, by rw [hkept]; exact h⟩
    cases r with
    | error e => exact .inl rfl
    | ok u => cases hfailed

end Register

/-- One call of a store does what the register may do by what is seen of it. -/
theorem registerStep_see (store : PersistenceStore) (call : StoreCall) (files : Files)
    (content : Option DurableState) (h : files.Holds content) :
    ∃ content', registerStep (call.see store files) content content' ∧
      (call.step store files).Holds content' := by
  cases call with
  | save state hrange limits os life => exact registerStep_save store hrange limits os life h
  | load limits os => exact ⟨content, PersistenceStore.load_register os store limits h, h⟩
  | remove os life => exact registerStep_remove store os life h

/-- However the calls of a store succeed, fail or die at any of their effects, a store is a
register for one durable state. -/
theorem store_refines_register (store : PersistenceStore) (calls : List StoreCall)
    (stale : Option (List UInt8)) :
    ∃ content,
      Trace registerStep ((durableStore store).observations (StoreCall.see store) calls
        { target := none, temporary := stale }) none content ∧
      ((durableStore store).run calls { target := none, temporary := stale }).Holds content :=
  System.trace_of_simulation (registerStep_see store) calls Option.Rel.none

end PartitionFabric

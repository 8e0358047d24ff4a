import PartitionFabric.Invariants.DrainGate
import PartitionFabric.Invariants.Passes
import PartitionFabric.Invariants.PlanUse
import PartitionFabric.Invariants.Validity

/-!
A transition of a partition moves its capacity and writes the record before either is validated, so
a failure leaves them as they were only where nothing had been written yet.
-/

namespace PartitionFabric

open Procedure

section Transition

variable {s : FabricState} {key : PartitionId} {target : PartitionState} {r : PartitionRecord}
  {l l' : CapacityLedger} {now : UInt64} {reason : Text}

/-- A bucket can give an amount to another one: it covers the amount, and the other one carries its
dimensions and has room for it. -/
structure CapacityLedger.CanMove (l : CapacityLedger) (source target : CapacityBucket)
    (amount : ResourceVector) : Prop where
  covered : amount.isSubsetOf (l.buckets source) = true
  given : amount.mask &&& ~~~(l.buckets source).mask = 0
  carried : amount.mask &&& ~~~(l.buckets target).mask = 0
  fits : ∀ d, amount.has d = true →
    ResourceVector.Fits ((l.buckets target).values d) d (amount.values d)

lemma moveCapacity_isOk_iff {b c : CapacityBucket} {amount : ResourceVector} :
    (∃ p, moveCapacity (l.buckets b) (l.buckets c) amount = .ok p) ↔ l.CanMove b c amount := by
  constructor
  · rintro ⟨⟨v, w⟩, h⟩
    obtain ⟨hcovered, hsub, hadd⟩ := moveCapacity_eq_ok.mp h
    obtain ⟨hgiven, -, -⟩ := ResourceVector.subAssign_eq_ok.mp hsub
    obtain ⟨hcarried, hfits, -⟩ := ResourceVector.addAssign_eq_ok.mp hadd
    exact ⟨hcovered, hgiven, hcarried, hfits⟩
  · intro h
    have hle : ∀ d, amount.has d = true → amount.values d ≤ (l.buckets b).values d :=
      fun d hd ↦ (ResourceVector.isSubsetOf_iff.mp h.covered d hd).2
    exact ⟨_, moveCapacity_eq_ok.mpr ⟨h.covered,
      ResourceVector.subAssign_eq_ok.mpr ⟨h.given, hle, rfl⟩,
      ResourceVector.addAssign_eq_ok.mpr ⟨h.carried, h.fits, rfl⟩⟩⟩

/-- A move between buckets goes through when they are one or the capacity can move. -/
lemma moveBetween_isOk_iff (b c : CapacityBucket) (amount : ResourceVector) :
    (CapacityLedger.moveBetween b.raw c.raw amount l).2 = success ↔
      b = c ∨ l.CanMove b c amount := by
  rw [← moveCapacity_isOk_iff]
  unfold CapacityLedger.moveBetween
  simp only [CapacityBucket.ofRaw?_raw]
  by_cases hsame : b = c
  · rw [if_pos hsame]
    exact iff_of_true rfl (Or.inl hsame)
  · rw [if_neg hsame]
    rw [CapacityLedger.transfer_isOk_iff]
    exact (or_iff_right hsame).symm

/-- The record under another state, with the bucket that is authoritative there. -/
def PartitionRecord.restated (r : PartitionRecord) (target : PartitionState) : PartitionRecord :=
  r.moved target r.lastTransitionAtMs r.lastTransitionReason

/-- The capacity of a record can follow it to another state: it stays where it is, or its bucket can
give it to the one of that state. -/
def PartitionRecord.Funded (r : PartitionRecord) (target : PartitionState) (l : CapacityLedger) :
    Prop :=
  stateKeepsCurrentBucket target = true ∨
    (r.heldBucket.getD .free) = ((bucketForState target).getD .free) ∨
      l.CanMove (r.heldBucket.getD .free) ((bucketForState target).getD .free) r.resources

lemma CapacityFollows.funded {held : Option CapacityBucket}
    (h : CapacityFollows target r l l' held) : r.Funded target l := by
  rcases h with ⟨hkeeps | hsame, -, -⟩ | ⟨-, -, hmove⟩
  · exact Or.inl hkeeps
  · exact Or.inr (Or.inl (by rw [hsame]))
  · exact Or.inr ((moveBetween_isOk_iff _ _ _).mp (congrArg Prod.snd hmove))

lemma PartitionRecord.Funded.moves (h : r.Funded target l) : ∃ l' r',
    applyCapacityTransition target (l, r) = ((l', r'), success) := by
  unfold applyCapacityTransition
  by_cases hkeep : stateKeepsCurrentBucket target = true
  · exact ⟨l, r, by simp only [hkeep, if_true]⟩
  · simp only [hkeep, Bool.false_eq_true, if_false]
    by_cases hsame : bucketForState target = r.heldBucket
    · exact ⟨l, r, by rw [if_pos hsame]⟩
    · have hmove := (moveBetween_isOk_iff _ _ _).mpr (h.resolve_left hkeep)
      rw [if_neg hsame]
      split
      · exact ⟨_, _, rfl⟩
      · rename_i l' e hrun
        rw [hrun] at hmove
        cases hmove

/-- A ledger closes after a move exactly when it did before. -/
lemma CapacityLedger.Moved.balanced_iff {b c : CapacityBucket} {amount : ResourceVector}
    (h : CapacityLedger.Moved b c amount l l') (hne : b ≠ c) : l'.Balanced ↔ l.Balanced := by
  refine ⟨fun hl ↦ ?_, h.balanced hne⟩
  have hhas : ∀ d b, (l.buckets b).has d = (l'.buckets b).has d := fun d b ↦ by
    simp [ResourceVector.has, h.mask b]
  refine ⟨h.total ▸ hl.nonempty, fun d b hb ↦ ?_, fun d b hb ↦ ?_⟩
  · rw [← h.total]
    exact hl.published d b (hhas d b ▸ hb)
  · rw [← h.total, ← h.sum_eq hne]
    exact hl.closes d b (hhas d b ▸ hb)

lemma CapacityFollows.balanced_iff {held : Option CapacityBucket}
    (h : CapacityFollows target r l l' held) : l'.Balanced ↔ l.Balanced := by
  rcases h with ⟨-, rfl, -⟩ | ⟨-, -, hmove⟩
  · exact Iff.rfl
  · rcases CapacityLedger.moveBetween_cases (r.heldBucket.getD .free).raw
      ((bucketForState target).getD .free).raw r.resources l with
      ⟨b, c, m, hne, -, -, hrun, hmoved⟩ | ⟨hrun, -⟩ | ⟨e, hrun⟩
    · obtain ⟨rfl, -⟩ := Prod.mk.inj (hmove.symm.trans hrun)
      exact hmoved.balanced_iff hne
    · obtain ⟨rfl, -⟩ := Prod.mk.inj (hmove.symm.trans hrun)
      exact Iff.rfl
    · cases (Prod.mk.inj (hmove.symm.trans hrun)).2

/-- A transition whose capacity moved has written the record. It succeeds when the record is
coherent in its new state and the ledger closes. -/
lemma transitionPartition_moved (now : UInt64) (reason : Text)
    (hr : s.findPartition key = some r) (hallowed : Allowed r.state target)
    (hne : r.state ≠ target) (hl : s.findLedger r.accelerator = some l) (hfunded : r.Funded target l) :
    ((transitionPartition now key target reason s).1.findPartition key).map PartitionRecord.state =
        some target ∧
      ((transitionPartition now key target reason s).2 = success ↔
        (r.restated target).Coherent ∧ l.Balanced) := by
  obtain ⟨l', r', hrun⟩ := hfunded.moves
  obtain ⟨ledger, held, hfollows, hrun'⟩ :=
    (applyCapacityTransition_cases target l r).resolve_left (by
      rintro ⟨e, herror⟩
      cases (Prod.mk.inj (hrun.symm.trans herror)).2)
  have hheld := hfollows.held_eq
  unfold transitionPartition
  rw [hr]
  simp only
  rw [show validateTransition r.state target = success from hallowed]
  simp only [success]
  rw [if_neg hne, hl]
  simp only
  rw [hrun']
  simp only [success]
  constructor
  · rw [FabricState.findPartition, KeyedMap.find?_insert_self]
    rfl
  · have hcoherent : (r.moved target now reason).validate = .ok () ↔
        (r.restated target).Coherent := by
      rw [PartitionRecord.validate_eq_ok]
      exact ⟨fun h ↦ ⟨h.identified, h.dated, h.housed, h.drained⟩,
        fun h ↦ ⟨h.identified, h.dated, h.housed, h.drained⟩⟩
    have hmoved : ({ r with
        heldBucket := held
        state := target
        lastTransitionAtMs := now
        lastTransitionReason := reason } : PartitionRecord) = r.moved target now reason := by
      rw [hheld]
      rfl
    rw [hmoved, ← hcoherent, ← hfollows.balanced_iff, ← CapacityLedger.validate_eq_ok]
    split
    · rename_i e hinvalid
      rw [hinvalid]
      simp
    · rename_i e hvalid hopen
      rw [hvalid, hopen]
      simp [failure]
    · rename_i hvalid hclosed
      rw [hvalid, hclosed]
      simp

/-- A failed transition leaves the record and its ledger as they were. -/
def TransitionAtomic (s : FabricState) (key : PartitionId) (target : PartitionState) : Prop :=
  ∀ now reason t e, transitionPartition now key target reason s = (t, .error e) →
    t.findPartition key = s.findPartition key ∧
      ∀ r, s.findPartition key = some r → t.findLedger r.accelerator = s.findLedger r.accelerator

/-- A transition is atomic unless it is allowed and its capacity can follow, while the record is not
coherent in the new state or the ledger does not close. -/
theorem transition_atomic_iff : TransitionAtomic s key target ↔
    ∀ r l, s.findPartition key = some r → Allowed r.state target → r.state ≠ target →
      s.findLedger r.accelerator = some l → r.Funded target l →
        (r.restated target).Coherent ∧ l.Balanced := by
  constructor
  · intro h r l hr hallowed hne hl hfunded
    obtain ⟨hmoved, hresult⟩ := transitionPartition_moved 0 [] hr hallowed hne hl hfunded
    by_contra hinvalid
    cases hrun : transitionPartition 0 key target [] s with
    | mk t result =>
        rw [hrun] at hmoved hresult
        cases result with
        | ok u => exact hinvalid (hresult.mp rfl)
        | error e =>
            obtain ⟨hsame, -⟩ := h 0 [] t e hrun
            rw [hsame, hr] at hmoved
            exact hne (Option.some.inj hmoved)
  · intro h now reason t e hrun
    rcases transitionPartition_cases now key target reason s with
      hsame | ⟨r, l, l', held, hr, hallowed, hne, hl, hfollows, -⟩
    · rw [hrun] at hsame
      obtain rfl : t = s := hsame
      exact ⟨rfl, fun _ _ ↦ rfl⟩
    · obtain ⟨-, hresult⟩ := transitionPartition_moved now reason hr hallowed hne hl hfollows.funded
      have hsuccess := hresult.mpr (h r l hr hallowed hne hl hfollows.funded)
      rw [hrun] at hsuccess
      cases hsuccess

end Transition

namespace Sample

/-- A workload occupies the slice while its drain begins. -/
def draining : List Op := created ++ [.bindAssignment late, .beginDrain 4 [] 7]

end Sample

/-- A slice whose drain waits for its workload is recorded as awaiting revalidation by a transition
that fails. -/
theorem transition_not_atomic : ¬ ∀ s key target, TransitionAtomic s key target := by
  intro h
  let s := fabric.run Sample.draining Sample.opened
  have hbefore : (s.findPartition 4).map PartitionRecord.state = some .draining := by decide +kernel
  have hafter : ((transitionPartition 8 4 .revalidationRequired [] s).1.findPartition 4).map
      PartitionRecord.state = some .revalidationRequired := by decide +kernel
  have hfails : (transitionPartition 8 4 .revalidationRequired [] s).2 ≠ success := by
    decide +kernel
  clear_value s
  cases hrun : transitionPartition 8 4 .revalidationRequired [] s with
  | mk t result =>
      rw [hrun] at hafter hfails
      cases result with
      | ok u => exact hfails rfl
      | error e =>
          obtain ⟨hsame, -⟩ := h s 4 .revalidationRequired 8 [] t e hrun
          rw [hsame, hbefore] at hafter
          cases hafter

end PartitionFabric

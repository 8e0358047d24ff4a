import PartitionFabric.Core.Resource
import PartitionFabric.Foundation.Procedure
import Mathlib.Algebra.BigOperators.Fin
import Mathlib.Algebra.Order.BigOperators.Group.Finset

/-!
The capacity ledger of one accelerator: six buckets whose sum is the physical total in every
governed dimension, and the moves of capacity between them.
-/

namespace PartitionFabric

inductive CapacityBucket where
  | unavailable | free | reserved | active | draining | reconfigurationHeld
deriving DecidableEq, Repr

namespace CapacityBucket

/-- The buckets in the order of their indices. -/
def all : List CapacityBucket :=
  [unavailable, free, reserved, active, draining, reconfigurationHeld]

/-- The enumerator of a bucket. -/
def raw : CapacityBucket → UInt8
  | unavailable => 0
  | free => 1
  | reserved => 2
  | active => 3
  | draining => 4
  | reconfigurationHeld => 5

/-- The bucket of an enumerator; the values from `Count` on name none. -/
def ofRaw? (raw : UInt8) : Option CapacityBucket := all[raw.toNat]?

lemma mem_all (b : CapacityBucket) : b ∈ all := by cases b <;> decide

lemma all_nodup : all.Nodup := by decide

instance : Fintype CapacityBucket := ⟨⟨all, all_nodup⟩, mem_all⟩

@[simp] lemma ofRaw?_raw (b : CapacityBucket) : ofRaw? b.raw = some b := by cases b <;> rfl

end CapacityBucket

/-- Lists the dimensions in which a source bucket falls short of an amount. -/
def describeShortfall (source amount : ResourceVector) : Text :=
  ResourceDimension.all.foldl (fun detail d ↦
    if !amount.has d || amount.get d ≤ source.get d then detail
    else (if detail.isEmpty then [] else detail ++ (", " : Text)) ++ d.toText ++
      (" needs " : Text) ++ decimal (amount.get d).toNat ++ (" has " : Text) ++
      decimal (source.get d).toNat) []

/-- Takes an amount from one vector and adds it to another, or changes neither. -/
def moveCapacity (source target amount : ResourceVector) :
    Result (ResourceVector × ResourceVector) :=
  if !amount.isSubsetOf source then
    failure .insufficientCapacity "capacity is not available in the source bucket"
      (describeShortfall source amount)
  else
    match ResourceVector.subAssign amount source with
    | (_, .error e) => .error e
    | (updatedSource, .ok _) =>
      match ResourceVector.addAssign amount target with
      | (_, .error e) => .error e
      | (updatedTarget, .ok _) => .ok (updatedSource, updatedTarget)

lemma moveCapacity_eq_ok {s t a s' t' : ResourceVector} :
    moveCapacity s t a = .ok (s', t') ↔ a.isSubsetOf s = true ∧
      ResourceVector.subAssign a s = (s', .ok ()) ∧
        ResourceVector.addAssign a t = (t', .ok ()) := by
  unfold moveCapacity
  cases hsub : a.isSubsetOf s with
  | false => simp
  | true =>
      simp only [Bool.not_true, Bool.false_eq_true, if_false, true_and]
      rcases ResourceVector.subAssign a s with ⟨x, e | u⟩
      · simp
      · rcases ResourceVector.addAssign a t with ⟨y, e | u⟩
        · simp
        · simp

/-- A move between valid vectors leaves valid vectors. -/
lemma moveCapacity_valid {s t a s' t' : ResourceVector} (h : moveCapacity s t a = .ok (s', t'))
    (hs : s.validateDimensions = success) (ht : t.validateDimensions = success) :
    s'.validateDimensions = success ∧ t'.validateDimensions = success := by
  obtain ⟨-, hsub, hadd⟩ := moveCapacity_eq_ok.mp h
  obtain ⟨-, hle, rfl⟩ := ResourceVector.subAssign_eq_ok.mp hsub
  obtain ⟨-, hfits, rfl⟩ := ResourceVector.addAssign_eq_ok.mp hadd
  exact ⟨ResourceVector.validateDimensions_minus hle hs,
    ResourceVector.validateDimensions_plus hfits ht⟩

/-- A vector without dimensions is valid. -/
lemma ResourceVector.validateDimensions_empty :
    ({} : ResourceVector).validateDimensions = success := rfl

lemma ResourceVector.validateDimensions_unset (b : CapacityBucket) :
    ((fun _ ↦ {} : CapacityBucket → ResourceVector) b).validateDimensions = success :=
  validateDimensions_empty

/-- Physical totals and the buckets they are divided into. The totals are only ever established
from a valid vector, and buckets only change by checked arithmetic on valid vectors: no share of a
ledger is beyond the whole device. -/
structure CapacityLedger where
  buckets : CapacityBucket → ResourceVector := fun _ ↦ {}
  total : ResourceVector := {}
  validBuckets : ∀ b, (buckets b).validateDimensions = success := by
    exact ResourceVector.validateDimensions_unset
  validTotal : total.validateDimensions = success := by
    exact ResourceVector.validateDimensions_empty
deriving DecidableEq, Inhabited

/-- A ledger operation. -/
abbrev LedgerM := Procedure Error CapacityLedger

namespace CapacityLedger

protected lemma ext {l l' : CapacityLedger} (hbuckets : l.buckets = l'.buckets)
    (htotal : l.total = l'.total) : l = l' := by
  cases l
  cases l'
  obtain rfl := hbuckets
  obtain rfl := htotal
  rfl

def bucket (ledger : CapacityLedger) (b : CapacityBucket) : ResourceVector := ledger.buckets b

/-- The ledger with a valid vector in place of one bucket. -/
def withBucket (ledger : CapacityLedger) (b : CapacityBucket) (v : ResourceVector)
    (hv : v.validateDimensions = success) : CapacityLedger where
  buckets := Function.update ledger.buckets b v
  total := ledger.total
  validBuckets := by
    intro c
    by_cases hc : c = b
    · rw [hc, Function.update_self]
      exact hv
    · rw [Function.update_of_ne hc]
      exact ledger.validBuckets c
  validTotal := ledger.validTotal

/-- Moves an amount between two distinct buckets. -/
def transfer (source target : CapacityBucket) (amount : ResourceVector) : LedgerM Unit :=
  fun ledger ↦
    match h : moveCapacity (ledger.buckets source) (ledger.buckets target) amount with
    | .ok (s, t) =>
      have hvalid := moveCapacity_valid h (ledger.validBuckets source) (ledger.validBuckets target)
      ((ledger.withBucket source s hvalid.1).withBucket target t hvalid.2, success)
    | .error e => (ledger, .error e)

/-- The running sum of one dimension over the buckets that carry it. -/
def bucketSum (ledger : CapacityLedger) (d : ResourceDimension) : Result (Option UInt64) :=
  CapacityBucket.all.foldlM (fun acc b ↦
    if !(ledger.buckets b).has d then .ok acc
    else
      let sum := acc.getD 0
      let value := (ledger.buckets b).get d
      if sum > uint64Max - value then
        failure .overflow "ledger bucket sum overflows" d.toText
      else .ok (some (sum + value))) none

/-- Whether one dimension closes exactly. -/
def checkDimension (ledger : CapacityLedger) (d : ResourceDimension) : Status := do
  match ← ledger.bucketSum d with
  | none => success
  | some sum =>
    if !ledger.total.has d then
      failure .corruptState "a bucket holds a dimension the device does not publish" d.toText
    else if sum ≠ ledger.total.get d then
      failure .corruptState "capacity does not close for a dimension"
        (d.toText ++ (": buckets=" : Text) ++ decimal sum.toNat ++ (" total=" : Text) ++
          decimal (ledger.total.get d).toNat)
    else success

/-- Whether every dimension closes exactly. -/
def validate (ledger : CapacityLedger) : Status :=
  if ledger.total.empty then failure .corruptState "ledger has no physical totals"
  else ResourceDimension.all.forM ledger.checkDimension

/-- Sets one dimension of one bucket. -/
def setBucket (b : CapacityBucket) (d : ResourceDimension) (value : UInt64) : LedgerM Unit :=
  fun ledger ↦
    match h : (ledger.buckets b).set d value with
    | .ok updated =>
      (ledger.withBucket b updated
        (ResourceVector.validateDimensions_set h (ledger.validBuckets b)), success)
    | .error e => (ledger, .error e)

/-- Establishes physical totals: every bucket carries the full dimension set, all of it free. -/
def initializeTotals (totals : ResourceVector) : LedgerM Unit :=
  if h : totals.validateDimensions = success then do
    Procedure.require (!totals.empty) (makeError .invalidArgument "physical totals are empty")
    Procedure.modify fun _ ↦ { total := totals, validTotal := h }
    ResourceDimension.all.forM fun d ↦ Procedure.when (totals.has d) do
      CapacityBucket.all.forM fun b ↦ setBucket b d 0
      setBucket .free d (totals.get d)
    let ledger ← Procedure.get
    Procedure.lift ledger.validate
  else Procedure.lift totals.validateDimensions

def reserve (amount : ResourceVector) : LedgerM Unit := do
  Procedure.require (!amount.empty) (makeError .invalidArgument "reservation amount is empty")
  transfer .free .reserved amount

def reserveFromReconfigurationHeld (amount : ResourceVector) : LedgerM Unit :=
  transfer .reconfigurationHeld .reserved amount

def commitReserved (amount : ResourceVector) (draining : Bool) : LedgerM Unit :=
  transfer .reserved (if draining then .draining else .active) amount

def releaseReserved (amount : ResourceVector) : LedgerM Unit := transfer .reserved .free amount

def releaseCommitted (amount : ResourceVector) (wasDraining : Bool) : LedgerM Unit :=
  transfer (if wasDraining then .draining else .active) .free amount

def beginDrain (amount : ResourceVector) : LedgerM Unit := transfer .active .draining amount

def cancelDrain (amount : ResourceVector) : LedgerM Unit := transfer .draining .active amount

def holdForReconfiguration (amount : ResourceVector) : LedgerM Unit :=
  transfer .free .reconfigurationHeld amount

def releaseReconfigurationHold (amount : ResourceVector) : LedgerM Unit :=
  transfer .reconfigurationHeld .free amount

/-- Moves capacity between two buckets given by their enumerators. -/
def moveBetween (source target : UInt8) (amount : ResourceVector) : LedgerM Unit :=
  match CapacityBucket.ofRaw? source, CapacityBucket.ofRaw? target with
  | some s, some t => if s = t then Procedure.lift success else transfer s t amount
  | _, _ => Procedure.throw (makeError .invalidArgument "capacity bucket out of range")

def markUnavailable (amount : ResourceVector) : LedgerM Unit :=
  transfer .free .unavailable amount

/-- The capacity of a dimension over all buckets. -/
def sum (ledger : CapacityLedger) (d : ResourceDimension) : ℕ :=
  ∑ b, (ledger.buckets b).amount d

/-- What a move of capacity between two buckets does to the ledger. -/
structure Moved (source target : CapacityBucket) (amount : ResourceVector)
    (l l' : CapacityLedger) : Prop where
  total : l'.total = l.total
  mask : ∀ b, (l'.buckets b).mask = (l.buckets b).mask
  taken : ∀ d, (l'.buckets source).amount d + amount.amount d = (l.buckets source).amount d
  added : ∀ d, (l'.buckets target).amount d = (l.buckets target).amount d + amount.amount d
  other : ∀ b, b ≠ source → b ≠ target → l'.buckets b = l.buckets b

/-- A transfer puts what a move of its amount leaves into the two buckets. -/
lemma transfer_of_ok {source target : CapacityBucket} {amount x y : ResourceVector}
    {l : CapacityLedger}
    (h : moveCapacity (l.buckets source) (l.buckets target) amount = .ok (x, y)) :
    ∃ l', transfer source target amount l = (l', success) ∧ l'.total = l.total ∧
      l'.buckets = Function.update (Function.update l.buckets source x) target y := by
  unfold transfer
  split
  · rename_i x' y' heq
    obtain ⟨rfl, rfl⟩ := Prod.mk.inj (Except.ok.inj (heq.symm.trans h))
    exact ⟨_, rfl, rfl, rfl⟩
  · rename_i heq
    cases heq.symm.trans h

lemma transfer_of_error {source target : CapacityBucket} {amount : ResourceVector} {e : Error}
    {l : CapacityLedger}
    (h : moveCapacity (l.buckets source) (l.buckets target) amount = .error e) :
    transfer source target amount l = (l, .error e) := by
  unfold transfer
  split
  · rename_i heq
    cases heq.symm.trans h
  · rename_i heq
    obtain rfl := Except.error.inj (heq.symm.trans h)
    rfl

/-- A transfer succeeds exactly where its amount can be moved. -/
lemma transfer_isOk_iff {source target : CapacityBucket} {amount : ResourceVector}
    {l : CapacityLedger} : (transfer source target amount l).2 = success ↔
      ∃ p, moveCapacity (l.buckets source) (l.buckets target) amount = .ok p := by
  cases hmove : moveCapacity (l.buckets source) (l.buckets target) amount with
  | error e =>
      rw [transfer_of_error hmove]
      simp [success]
  | ok p =>
      obtain ⟨l', h, -⟩ := transfer_of_ok hmove
      rw [h]
      simp

/-- A transfer moves exactly the amount or changes nothing. -/
theorem transfer_spec {source target : CapacityBucket} (hne : source ≠ target)
    (amount : ResourceVector) (l : CapacityLedger) :
    (∃ l', transfer source target amount l = (l', success) ∧ Moved source target amount l l') ∨
      ∃ e, transfer source target amount l = (l, .error e) := by
  cases hmove : moveCapacity (l.buckets source) (l.buckets target) amount with
  | error e => exact Or.inr ⟨e, transfer_of_error hmove⟩
  | ok p =>
      obtain ⟨s', t'⟩ := p
      obtain ⟨-, hs, ht⟩ := moveCapacity_eq_ok.mp hmove
      obtain ⟨hsmask, hle, rfl⟩ := ResourceVector.subAssign_eq_ok.mp hs
      obtain ⟨htmask, hfits, rfl⟩ := ResourceVector.addAssign_eq_ok.mp ht
      obtain ⟨l', hrun, htotal, hbuckets⟩ := transfer_of_ok hmove
      refine Or.inl ⟨l', hrun, htotal, fun b ↦ ?_, fun d ↦ ?_, fun d ↦ ?_, fun b hs ht ↦ ?_⟩
      all_goals rw [hbuckets]
      · by_cases hbt : b = target
        · subst hbt
          simp
        · by_cases hbs : b = source
          · subst hbs
            simp [hbt]
          · simp [hbt, hbs]
      · simpa [hne] using ResourceVector.amount_minus hsmask hle d
      · simpa using ResourceVector.amount_plus htmask hfits d
      · simp [hs, ht]

/-- Moving capacity between buckets keeps its sum. -/
lemma Moved.sum_eq {source target : CapacityBucket} {amount : ResourceVector}
    {l l' : CapacityLedger} (h : Moved source target amount l l') (hne : source ≠ target)
    (d : ResourceDimension) : l'.sum d = l.sum d := by
  have hsplit (m : CapacityLedger) : m.sum d = (m.buckets source).amount d +
      ((m.buckets target).amount d +
        ∑ b ∈ (Finset.univ.erase source).erase target, (m.buckets b).amount d) := by
    have ht : target ∈ Finset.univ.erase source := by simp [Ne.symm hne]
    rw [sum, ← Finset.add_sum_erase _ _ (Finset.mem_univ source),
      ← Finset.add_sum_erase _ _ ht]
  have hrest : ∑ b ∈ (Finset.univ.erase source).erase target, (l'.buckets b).amount d =
      ∑ b ∈ (Finset.univ.erase source).erase target, (l.buckets b).amount d := by
    refine Finset.sum_congr rfl fun b hb ↦ ?_
    simp only [Finset.mem_erase] at hb
    rw [h.other b hb.2.1 hb.1]
  have hs := h.taken d
  have ht := h.added d
  rw [hsplit l, hsplit l', hrest]
  omega

lemma bucketSum_fold {ledger : CapacityLedger} {d : ResourceDimension} {bs : List CapacityBucket}
    {acc r : Option UInt64}
    (h : bs.foldlM (fun acc b ↦
      if !(ledger.buckets b).has d then .ok acc
      else
        let sum := acc.getD 0
        let value := (ledger.buckets b).get d
        if sum > uint64Max - value then
          failure .overflow "ledger bucket sum overflows" d.toText
        else .ok (some (sum + value))) acc = (.ok r : Result (Option UInt64))) :
    (r.getD 0).toNat = (acc.getD 0).toNat + (bs.map fun b ↦ (ledger.buckets b).amount d).sum ∧
      (r.isSome ↔ acc.isSome ∨ ∃ b ∈ bs, (ledger.buckets b).has d = true) := by
  induction bs generalizing acc with
  | nil =>
      obtain rfl := Except.ok.inj h
      simp
  | cons b bs ih =>
      rw [List.foldlM_cons] at h
      by_cases hb : (ledger.buckets b).has d = true
      · simp only [hb, Bool.not_true, Bool.false_eq_true, if_false] at h
        split at h
        · simp [failure, bind, Except.bind] at h
        · rename_i hlt
          have hlt' := ResourceVector.not_gt_max_sub.mp hlt
          obtain ⟨hsum, hsome⟩ := ih h
          refine ⟨?_, by simp [hsome, hb]⟩
          rw [hsum, Option.getD_some, ResourceVector.toNat_add_of_lt hlt', List.map_cons,
            List.sum_cons, ResourceVector.amount]
          omega
      · simp only [Bool.not_eq_true] at hb
        simp only [hb, Bool.not_false, if_true] at h
        obtain ⟨hsum, hsome⟩ := ih h
        refine ⟨?_, by simp [hsome, hb]⟩
        rw [hsum, List.map_cons, List.sum_cons, ResourceVector.amount_of_not_has hb, Nat.zero_add]

lemma bucketSum_fold_ok (ledger : CapacityLedger) (d : ResourceDimension)
    (bs : List CapacityBucket) (acc : Option UInt64)
    (h : (acc.getD 0).toNat + (bs.map fun b ↦ (ledger.buckets b).amount d).sum < 2 ^ 64) :
    ∃ r, bs.foldlM (fun acc b ↦
      if !(ledger.buckets b).has d then .ok acc
      else
        let sum := acc.getD 0
        let value := (ledger.buckets b).get d
        if sum > uint64Max - value then
          failure .overflow "ledger bucket sum overflows" d.toText
        else .ok (some (sum + value))) acc = (.ok r : Result (Option UInt64)) := by
  induction bs generalizing acc with
  | nil => exact ⟨acc, rfl⟩
  | cons b bs ih =>
      rw [List.map_cons, List.sum_cons] at h
      rw [List.foldlM_cons]
      by_cases hb : (ledger.buckets b).has d = true
      · have hlt : (acc.getD 0).toNat + ((ledger.buckets b).get d).toNat < 2 ^ 64 := by
          change (acc.getD 0).toNat + (ledger.buckets b).amount d < 2 ^ 64
          omega
        simp only [hb, Bool.not_true, Bool.false_eq_true, if_false,
          ResourceVector.not_gt_max_sub.mpr hlt]
        refine ih _ ?_
        rw [Option.getD_some, ResourceVector.toNat_add_of_lt hlt]
        change (acc.getD 0).toNat + (ledger.buckets b).amount d + _ < 2 ^ 64
        omega
      · simp only [Bool.not_eq_true] at hb
        simp only [hb, Bool.not_false, if_true]
        exact ih _ (by omega)

lemma sum_eq_list_sum (ledger : CapacityLedger) (d : ResourceDimension) :
    ledger.sum d = (CapacityBucket.all.map fun b ↦ (ledger.buckets b).amount d).sum := rfl

/-- Every dimension carried by a bucket is published and closes exactly. -/
structure Balanced (ledger : CapacityLedger) : Prop where
  nonempty : ledger.total.empty = false
  published : ∀ d b, (ledger.buckets b).has d = true → ledger.total.has d = true
  closes : ∀ d b, (ledger.buckets b).has d = true → ledger.sum d = ledger.total.amount d

lemma amount_lt (v : ResourceVector) (d : ResourceDimension) : v.amount d < 2 ^ 64 :=
  UInt64.toNat_lt _

lemma sum_eq_zero {ledger : CapacityLedger} {d : ResourceDimension}
    (h : ∀ b, (ledger.buckets b).has d = false) : ledger.sum d = 0 :=
  Finset.sum_eq_zero fun b _ ↦ ResourceVector.amount_of_not_has (h b)

lemma checkDimension_eq_ok {ledger : CapacityLedger} {d : ResourceDimension} :
    ledger.checkDimension d = .ok () ↔ ∀ b, (ledger.buckets b).has d = true →
      ledger.total.has d = true ∧ ledger.sum d = ledger.total.amount d := by
  unfold checkDimension
  cases hsum : ledger.bucketSum d with
  | error e =>
      have hge : ¬ ledger.sum d < 2 ^ 64 := fun hlt ↦ by
        obtain ⟨r, hr⟩ := bucketSum_fold_ok ledger d CapacityBucket.all none
          (by simpa [sum_eq_list_sum] using hlt)
        exact absurd (hsum.symm.trans hr) (by simp)
      constructor
      · intro h
        cases h
      · intro h
        by_cases hb : ∃ b, (ledger.buckets b).has d = true
        · obtain ⟨b, hb⟩ := hb
          exact absurd ((h b hb).2 ▸ amount_lt _ d) hge
        · simp only [not_exists, Bool.not_eq_true] at hb
          exact absurd (sum_eq_zero hb ▸ by decide) hge
  | ok r =>
      obtain ⟨hvalue, hsome⟩ := bucketSum_fold hsum
      rw [← sum_eq_list_sum] at hvalue
      cases r with
      | none =>
          have hnone : ∀ b, (ledger.buckets b).has d = false := fun b ↦ by
            have := mt hsome.mpr (by simp)
            simp only [not_or, not_exists, not_and, Bool.not_eq_true] at this
            exact this.2 b b.mem_all
          simp [bind, Except.bind, success, hnone]
      | some total =>
          obtain ⟨b, -, hb⟩ : ∃ b ∈ CapacityBucket.all, (ledger.buckets b).has d = true := by
            simpa using hsome
          have hvalue' : total.toNat = ledger.sum d := by simpa using hvalue
          have hiff : total = ledger.total.get d ↔ ledger.sum d = ledger.total.amount d := by
            rw [← UInt64.toNat_inj, hvalue', ResourceVector.amount]
          simp only [bind, Except.bind, Bool.not_eq_true']
          split_ifs with hhas hne
          · simp only [failure_ne_ok, false_iff, not_forall]
            exact ⟨b, hb, by simp [hhas]⟩
          · simp only [failure_ne_ok, false_iff, not_forall]
            exact ⟨b, hb, fun h ↦ hne (hiff.mpr h.2)⟩
          · simp only [success, true_iff]
            exact fun _ _ ↦ ⟨by simpa using hhas, hiff.mp (not_not.mp hne)⟩

/-- The ledger's own validation accepts exactly the balanced ledgers. -/
theorem validate_eq_ok {ledger : CapacityLedger} : ledger.validate = .ok () ↔ ledger.Balanced := by
  have hdims : ledger.validate = .ok () ↔
      ledger.total.empty = false ∧ ∀ d, ledger.checkDimension d = .ok () := by
    unfold validate
    cases hempty : ledger.total.empty with
    | true => simp
    | false =>
        simp only [Bool.false_eq_true, if_false, true_and]
        exact forM_eq_ok.trans ⟨fun h d ↦ h d d.mem_all, fun h d _ ↦ h d⟩
  rw [hdims]
  constructor
  · rintro ⟨hempty, hcheck⟩
    exact ⟨hempty, fun d b hb ↦ (checkDimension_eq_ok.mp (hcheck d) b hb).1,
      fun d b hb ↦ (checkDimension_eq_ok.mp (hcheck d) b hb).2⟩
  · intro h
    exact ⟨h.nonempty, fun d ↦ checkDimension_eq_ok.mpr fun b hb ↦
      ⟨h.published d b hb, h.closes d b hb⟩⟩

/-- Balance depends on the totals, the dimension sets and the sums only. -/
lemma Moved.balanced {source target : CapacityBucket} {amount : ResourceVector}
    {l l' : CapacityLedger} (h : Moved source target amount l l') (hne : source ≠ target)
    (hl : l.Balanced) : l'.Balanced := by
  have hhas : ∀ d b, (l'.buckets b).has d = (l.buckets b).has d := fun d b ↦ by
    simp [ResourceVector.has, h.mask b]
  refine ⟨by rw [h.total]; exact hl.nonempty, fun d b hb ↦ ?_, fun d b hb ↦ ?_⟩
  · rw [h.total]
    exact hl.published d b (hhas d b ▸ hb)
  · rw [h.total, h.sum_eq hne]
    exact hl.closes d b (hhas d b ▸ hb)

lemma transfer_balanced {source target : CapacityBucket} (hne : source ≠ target)
    (amount : ResourceVector) {l : CapacityLedger} (hl : l.Balanced) :
    (transfer source target amount l).1.Balanced := by
  rcases transfer_spec hne amount l with ⟨l', h, hmoved⟩ | ⟨e, h⟩
  · rw [h]
    exact hmoved.balanced hne hl
  · rw [h]
    exact hl

/-- A move between enumerated buckets transfers, succeeds on one bucket, or changes nothing. -/
theorem moveBetween_cases (source target : UInt8) (amount : ResourceVector)
    (l : CapacityLedger) :
    (∃ b c l', b ≠ c ∧ CapacityBucket.ofRaw? source = some b ∧
        CapacityBucket.ofRaw? target = some c ∧
        moveBetween source target amount l = (l', success) ∧ Moved b c amount l l') ∨
      (moveBetween source target amount l = (l, success) ∧
        ∃ b, CapacityBucket.ofRaw? source = some b ∧ CapacityBucket.ofRaw? target = some b) ∨
      ∃ e, moveBetween source target amount l = (l, .error e) := by
  unfold moveBetween
  cases hb : CapacityBucket.ofRaw? source with
  | none => exact Or.inr (Or.inr ⟨_, rfl⟩)
  | some b =>
      cases hc : CapacityBucket.ofRaw? target with
      | none => exact Or.inr (Or.inr ⟨_, rfl⟩)
      | some c =>
          by_cases hbc : b = c
          · simp only [hbc, if_true]
            exact Or.inr (Or.inl ⟨rfl, c, rfl, rfl⟩)
          · simp only [hbc, if_false]
            rcases transfer_spec hbc amount l with ⟨l', h, hmoved⟩ | ⟨e, h⟩
            · exact Or.inl ⟨b, c, l', hbc, rfl, rfl, h, hmoved⟩
            · exact Or.inr (Or.inr ⟨e, h⟩)

lemma moveBetween_balanced (source target : UInt8) (amount : ResourceVector)
    {l : CapacityLedger} (hl : l.Balanced) : (moveBetween source target amount l).1.Balanced := by
  rcases moveBetween_cases source target amount l with
    ⟨b, c, l', hbc, -, -, h, hmoved⟩ | ⟨h, -⟩ | ⟨e, h⟩
  · rw [h]
    exact hmoved.balanced hbc hl
  · rw [h]
    exact hl
  · rw [h]
    exact hl

/-- A ledger divides the given totals: every bucket carries their dimensions, and the buckets
sum to them. -/
structure Divides (ledger : CapacityLedger) (totals : ResourceVector) : Prop where
  total : ledger.total = totals
  mask : ∀ b, (ledger.buckets b).mask = totals.mask
  sum : ∀ d, ledger.sum d = totals.amount d

lemma Moved.divides {source target : CapacityBucket} {amount totals : ResourceVector}
    {l l' : CapacityLedger} (h : Moved source target amount l l') (hne : source ≠ target)
    (hl : l.Divides totals) : l'.Divides totals :=
  ⟨h.total.trans hl.total, fun b ↦ (h.mask b).trans (hl.mask b),
    fun d ↦ (h.sum_eq hne d).trans (hl.sum d)⟩

lemma Divides.balanced {ledger : CapacityLedger} {totals : ResourceVector}
    (h : ledger.Divides totals) (hne : totals.empty = false) : ledger.Balanced := by
  refine ⟨by rw [h.total]; exact hne, fun d b hb ↦ ?_, fun d b _ ↦ ?_⟩
  · rw [h.total]
    simpa [ResourceVector.has, h.mask b] using hb
  · rw [h.total]
    exact h.sum d

/-- The buckets with the listed dimensions of the totals already distributed. -/
def distributed (totals : ResourceVector) (ds : List ResourceDimension) (b : CapacityBucket) :
    ResourceVector where
  values e := if b = .free ∧ e ∈ ds ∧ totals.has e = true then totals.values e else 0
  mask := ds.foldl (fun m e ↦ if totals.has e then m ||| e.bit else m) 0

/-- An operation succeeds, keeps the totals and leaves the given buckets. -/
def Fills (op : LedgerM Unit) (l : CapacityLedger) (buckets : CapacityBucket → ResourceVector) :
    Prop :=
  ∃ l', op l = (l', success) ∧ l'.total = l.total ∧ l'.buckets = buckets

lemma Fills.bind {op next : LedgerM Unit} {l : CapacityLedger}
    {bs bs' : CapacityBucket → ResourceVector} (h : Fills op l bs)
    (hnext : ∀ l' : CapacityLedger, l'.buckets = bs → Fills next l' bs') :
    Fills (op >>= fun _ ↦ next) l bs' := by
  obtain ⟨l', hop, htotal, hbuckets⟩ := h
  obtain ⟨l'', hrest, htotal', hbuckets'⟩ := hnext l' hbuckets
  refine ⟨l'', ?_, htotal'.trans htotal, hbuckets'⟩
  rw [Procedure.bind_ok hop]
  exact hrest

lemma fills_setBucket {b : CapacityBucket} {d : ResourceDimension} {value : UInt64}
    (h : d.isShareDimension = true → value ≤ shareScale) (l : CapacityLedger) :
    Fills (setBucket b d value) l (Function.update l.buckets b
      ⟨Function.update (l.buckets b).values d value, (l.buckets b).mask ||| d.bit⟩) := by
  have hset : (l.buckets b).set d value =
      .ok ⟨Function.update (l.buckets b).values d value, (l.buckets b).mask ||| d.bit⟩ := by
    unfold ResourceVector.set
    rw [if_neg]
    simp only [Bool.and_eq_true, decide_eq_true_eq, not_and, gt_iff_lt, not_lt]
    exact h
  unfold Fills setBucket
  split
  · rename_i updated heq
    obtain rfl := Except.ok.inj (heq.symm.trans hset)
    exact ⟨_, rfl, rfl, rfl⟩
  · rename_i heq
    cases heq.symm.trans hset

lemma fills_forM_setBucket {bs : List CapacityBucket} (hbs : bs.Nodup) (d : ResourceDimension)
    (l : CapacityLedger) :
    Fills (bs.forM fun b ↦ setBucket b d 0) l fun b ↦ if b ∈ bs then
      ⟨Function.update (l.buckets b).values d 0, (l.buckets b).mask ||| d.bit⟩
      else l.buckets b := by
  induction bs generalizing l with
  | nil => exact ⟨l, rfl, rfl, rfl⟩
  | cons b bs ih =>
      obtain ⟨hb, hrest⟩ := List.nodup_cons.mp hbs
      refine Fills.bind (fills_setBucket (fun _ ↦ UInt64.zero_le) l) fun l' hl' ↦ ?_
      have hfills := ih hrest l'
      rw [hl'] at hfills
      convert hfills using 1
      funext c
      by_cases hc : c = b
      · subst hc
        simp [hb]
      · simp [hc]

/-- One round of the initialisation distributes one more dimension. -/
lemma distribute_step {totals : ResourceVector} {ds : List ResourceDimension}
    {d : ResourceDimension} (hd : d ∉ ds)
    (hshare : totals.has d = true → d.isShareDimension = true → totals.values d ≤ shareScale)
    {l : CapacityLedger} (hl : l.buckets = distributed totals ds) :
    Fills (Procedure.when (totals.has d) do
      CapacityBucket.all.forM fun b ↦ setBucket b d 0
      setBucket .free d (totals.get d)) l (distributed totals (ds ++ [d])) := by
  cases hhas : totals.has d with
  | false =>
      refine ⟨l, rfl, rfl, hl.trans ?_⟩
      funext b
      unfold distributed
      congr 1
      · funext e
        by_cases he : e = d
        · subst he
          simp [hd, hhas]
        · simp [he]
      · simp [hhas]
  | true =>
      have hget : totals.get d = totals.values d := by simp [ResourceVector.get, hhas]
      refine Fills.bind (fills_forM_setBucket CapacityBucket.all_nodup d l) fun l' hl' ↦ ?_
      rw [hget]
      have hfills := fills_setBucket (b := .free) (hshare hhas) l'
      rw [hl', hl] at hfills
      convert hfills using 1
      funext b
      unfold distributed
      by_cases hb : b = .free
      · subst hb
        simp only [CapacityBucket.mem_all, if_true, Function.update_self, true_and,
          List.foldl_append, List.foldl_cons, List.foldl_nil, hhas, UInt32.or_assoc,
          UInt32.or_self, Function.update_idem]
        congr 1
        funext e
        by_cases he : e = d
        · subst he
          simp [hhas]
        · simp [he]
      · simp only [CapacityBucket.mem_all, if_true, Function.update_of_ne hb, hb, false_and,
          if_false, List.foldl_append, List.foldl_cons, List.foldl_nil, hhas]
        congr 1
        funext e
        by_cases he : e = d
        · subst he
          simp
        · simp [he]

/-- The initialisation distributes every dimension of the totals. -/
lemma distribute_all {totals : ResourceVector} {ds rest : List ResourceDimension}
    (hnodup : (ds ++ rest).Nodup)
    (hshare : ∀ d, totals.has d = true → d.isShareDimension = true →
      totals.values d ≤ shareScale)
    {l : CapacityLedger} (hl : l.buckets = distributed totals ds) :
    Fills (rest.forM fun d ↦ Procedure.when (totals.has d) do
      CapacityBucket.all.forM fun b ↦ setBucket b d 0
      setBucket .free d (totals.get d)) l (distributed totals (ds ++ rest)) := by
  induction rest generalizing ds l with
  | nil => exact ⟨l, rfl, rfl, by rw [List.append_nil, hl]⟩
  | cons d rest ih =>
      have hd : d ∉ ds := fun h ↦ (List.disjoint_of_nodup_append hnodup) h List.mem_cons_self
      have hnodup' : ((ds ++ [d]) ++ rest).Nodup := by simpa using hnodup
      refine Fills.bind (distribute_step hd (hshare d) hl) fun l' hl' ↦ ?_
      have hfills := ih hnodup' hl'
      rw [List.append_assoc, List.singleton_append] at hfills
      exact hfills

lemma hasBit_fold (totals : ResourceVector) (ds : List ResourceDimension) (m : UInt32)
    (d : ResourceDimension) :
    hasBit (ds.foldl (fun m e ↦ if totals.has e then m ||| e.bit else m) m) d =
      (hasBit m d || (decide (d ∈ ds) && totals.has d)) := by
  induction ds generalizing m with
  | nil => simp
  | cons e ds ih =>
      rw [List.foldl_cons, ih]
      by_cases he : totals.has e = true
      · by_cases hd : d = e
        · subst hd
          simp [he, hasBit_or_bit]
        · simp [he, hasBit_or_bit, hd]
      · by_cases hd : d = e
        · subst hd
          simp [he]
        · simp [he, hd]

lemma fold_defined (totals : ResourceVector) (ds : List ResourceDimension) {m : UInt32}
    (hm : m &&& ~~~validDimensionMask = 0) :
    ds.foldl (fun m e ↦ if totals.has e then m ||| e.bit else m) m &&&
      ~~~validDimensionMask = 0 := by
  induction ds generalizing m with
  | nil => exact hm
  | cons e ds ih =>
      rw [List.foldl_cons]
      split_ifs
      · exact ih (or_bit_defined hm e)
      · exact ih hm

/-- A ledger over which its totals are fully distributed divides them. -/
lemma distributed_divides {l : CapacityLedger}
    (hl : l.buckets = distributed l.total ResourceDimension.all) : l.Divides l.total := by
  have hdefined := (ResourceVector.validateDimensions_eq_ok.mp l.validTotal).1
  have hmask : ∀ b, (l.buckets b).mask = l.total.mask := fun b ↦ by
    rw [hl]
    refine mask_ext (fold_defined l.total _ (by decide)) hdefined fun d ↦ ?_
    change hasBit (List.foldl _ 0 _) d = _
    rw [hasBit_fold]
    have hzero : hasBit 0 d = false := by cases d <;> decide
    simp [hzero, ResourceDimension.mem_all, ResourceVector.has]
  refine ⟨rfl, hmask, fun d ↦ ?_⟩
  have hother : ∀ b, b ≠ .free → (l.buckets b).amount d = 0 := fun b hb ↦ by
    rw [hl]
    simp [ResourceVector.amount, ResourceVector.get, distributed, hb]
  rw [sum, Finset.sum_eq_single CapacityBucket.free (fun b _ hb ↦ hother b hb) (by simp)]
  have hhas : (l.buckets .free).has d = l.total.has d := by
    rw [ResourceVector.has, hmask, ResourceVector.has]
  cases hd : l.total.has d with
  | false => rw [ResourceVector.amount_of_not_has (hhas.trans hd),
      ResourceVector.amount_of_not_has hd]
  | true =>
      rw [ResourceVector.amount_of_has (hhas.trans hd), ResourceVector.amount_of_has hd, hl]
      simp [distributed, ResourceDimension.mem_all, hd]

/-- Acceptable totals replace the ledger by one that divides them; others change nothing. -/
theorem initializeTotals_spec (totals : ResourceVector) (l : CapacityLedger) :
    (∃ l', initializeTotals totals l = (l', success) ∧ l'.Divides totals ∧
        totals.validateDimensions = success ∧ totals.empty = false) ∨
      (∃ e, initializeTotals totals l = (l, .error e)) ∧
        ¬ (totals.validateDimensions = success ∧ totals.empty = false) := by
  unfold initializeTotals
  split_ifs with hdims
  · cases hempty : totals.empty with
    | true =>
        refine Or.inr ⟨⟨makeError .invalidArgument "physical totals are empty", ?_⟩, by simp⟩
        rw [Procedure.require_bind]
        rfl
    | false =>
        obtain ⟨-, hshare⟩ := ResourceVector.validateDimensions_eq_ok.mp hdims
        let start : CapacityLedger := { total := totals, validTotal := hdims }
        have hstart : start.buckets = distributed totals [] := by
          funext b
          simp [start, distributed]
        obtain ⟨l', hrun, htotal, hbuckets⟩ := @distribute_all totals [] ResourceDimension.all
          (by simpa using ResourceDimension.all_nodup) hshare start hstart
        obtain rfl : l'.total = totals := htotal
        have hdiv : l'.Divides l'.total := distributed_divides (by rw [hbuckets, List.nil_append])
        refine Or.inl ⟨l', ?_, hdiv, hdims, rfl⟩
        change ((ResourceDimension.all.forM fun d ↦ Procedure.when (l'.total.has d) do
            CapacityBucket.all.forM fun b ↦ setBucket b d 0
            setBucket .free d (l'.total.get d)) >>= fun _ ↦
          Procedure.get >>= fun ledger ↦ Procedure.lift ledger.validate) start = _
        rw [Procedure.bind_ok hrun, Procedure.get_bind, Procedure.lift_apply,
          validate_eq_ok.mpr (hdiv.balanced hempty)]
        rfl
  · refine Or.inr ⟨?_, fun h ↦ hdims h.1⟩
    cases hfails : totals.validateDimensions with
    | error e => exact ⟨e, rfl⟩
    | ok u => exact absurd hfails hdims

end CapacityLedger

end PartitionFabric

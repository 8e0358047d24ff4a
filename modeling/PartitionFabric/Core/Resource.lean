import PartitionFabric.Core.Basic
import PartitionFabric.Foundation.Procedure
import Mathlib.Data.Fintype.Basic
import Mathlib.Data.Fintype.Pi
import Mathlib.Tactic.IntervalCases

/-!
Sparse capacity vectors over the portable dimensions, with checked per-dimension arithmetic.
-/

namespace PartitionFabric

inductive ResourceDimension where
  | computeShare | memoryBytes | memoryBandwidthShare | executionEngineShare
  | copyEngineShare | mediaEngineShare | cacheShare | dmaShare
deriving DecidableEq, Repr

namespace ResourceDimension

def index : ResourceDimension → ℕ
  | computeShare => 0
  | memoryBytes => 1
  | memoryBandwidthShare => 2
  | executionEngineShare => 3
  | copyEngineShare => 4
  | mediaEngineShare => 5
  | cacheShare => 6
  | dmaShare => 7

/-- The dimensions in the order of their indices. -/
def all : List ResourceDimension :=
  [computeShare, memoryBytes, memoryBandwidthShare, executionEngineShare,
    copyEngineShare, mediaEngineShare, cacheShare, dmaShare]

def toText : ResourceDimension → Text
  | computeShare => "compute_share"
  | memoryBytes => "memory_bytes"
  | memoryBandwidthShare => "memory_bandwidth_share"
  | executionEngineShare => "execution_engine_share"
  | copyEngineShare => "copy_engine_share"
  | mediaEngineShare => "media_engine_share"
  | cacheShare => "cache_share"
  | dmaShare => "dma_share"

/-- A parts-per-million share rather than a byte quantity. -/
def isShareDimension (d : ResourceDimension) : Bool := d.index != 1

def bit (d : ResourceDimension) : UInt32 := 1 <<< d.index.toUInt32

lemma mem_all (d : ResourceDimension) : d ∈ all := by cases d <;> decide

lemma all_nodup : all.Nodup := by decide

lemma index_lt (d : ResourceDimension) : d.index < 8 := by cases d <;> decide

instance : Fintype ResourceDimension := ⟨⟨all, all_nodup⟩, mem_all⟩

lemma bit_toBitVec (d : ResourceDimension) : d.bit.toBitVec = BitVec.twoPow 32 d.index := by
  cases d <;> rfl

end ResourceDimension

/-- Parts-per-million denominator of every share dimension. -/
def shareScale : UInt64 := 1000000

/-- The mask of all defined dimensions. -/
def validDimensionMask : UInt32 := ((1 : UInt32) <<< 8) - 1

/-- Whether a presence mask names a dimension. -/
def hasBit (mask : UInt32) (d : ResourceDimension) : Bool := (mask &&& d.bit) != 0

lemma hasBit_eq_getLsbD (mask : UInt32) (d : ResourceDimension) :
    hasBit mask d = mask.toBitVec.getLsbD d.index := by
  have hne : (BitVec.twoPow 32 d.index) ≠ 0#32 := by cases d <;> decide
  have hzero : (mask &&& d.bit) = 0 ↔ mask.toBitVec.getLsbD d.index = false := by
    rw [← UInt32.toBitVec_inj, UInt32.toBitVec_and, d.bit_toBitVec, BitVec.and_twoPow]
    cases mask.toBitVec.getLsbD d.index
    · simp
    · simpa using hne
  rw [hasBit, Bool.eq_iff_iff, bne_iff_ne, ne_eq, hzero, Bool.not_eq_false]

/-- A mask without bits outside another one names only its dimensions. -/
lemma hasBit_of_subset {m m' : UInt32} (h : m &&& ~~~m' = 0) {d : ResourceDimension}
    (hd : hasBit m d = true) : hasBit m' d = true := by
  rw [hasBit_eq_getLsbD] at hd ⊢
  have hbit : (m &&& ~~~m').toBitVec.getLsbD d.index = false := by simp [h]
  have hlt : d.index < 32 := d.index_lt.trans (by decide)
  rw [UInt32.toBitVec_and, BitVec.getLsbD_and, hd, Bool.true_and, UInt32.toBitVec_not,
    BitVec.getLsbD_not, decide_eq_true hlt, Bool.true_and] at hbit
  simpa using hbit

lemma hasBit_or_bit (m : UInt32) (d e : ResourceDimension) :
    hasBit (m ||| d.bit) e = (hasBit m e || decide (e = d)) := by
  rw [hasBit_eq_getLsbD, hasBit_eq_getLsbD, UInt32.toBitVec_or, BitVec.getLsbD_or, d.bit_toBitVec]
  congr 1
  cases d <;> cases e <;> decide

lemma index_surjective {i : ℕ} (h : i < 8) : ∃ d : ResourceDimension, d.index = i := by
  interval_cases i
  · exact ⟨.computeShare, rfl⟩
  · exact ⟨.memoryBytes, rfl⟩
  · exact ⟨.memoryBandwidthShare, rfl⟩
  · exact ⟨.executionEngineShare, rfl⟩
  · exact ⟨.copyEngineShare, rfl⟩
  · exact ⟨.mediaEngineShare, rfl⟩
  · exact ⟨.cacheShare, rfl⟩
  · exact ⟨.dmaShare, rfl⟩

lemma getLsbD_of_defined {m : UInt32} (h : m &&& ~~~validDimensionMask = 0) {i : ℕ}
    (hi : 8 ≤ i) (hlt : i < 32) : m.toBitVec.getLsbD i = false := by
  have hbit : (m &&& ~~~validDimensionMask).toBitVec.getLsbD i = false := by simp [h]
  have hmask : (~~~validDimensionMask).toBitVec.getLsbD i = true := by
    interval_cases i <;> decide
  rw [UInt32.toBitVec_and, BitVec.getLsbD_and, hmask, Bool.and_true] at hbit
  exact hbit

/-- Masks of defined dimensions are determined by the dimensions they name. -/
lemma mask_ext {m m' : UInt32} (hm : m &&& ~~~validDimensionMask = 0)
    (hm' : m' &&& ~~~validDimensionMask = 0) (h : ∀ d, hasBit m d = hasBit m' d) : m = m' := by
  rw [← UInt32.toBitVec_inj]
  refine BitVec.eq_of_getLsbD_eq fun i hi ↦ ?_
  by_cases hlt : i < 8
  · obtain ⟨d, rfl⟩ := index_surjective hlt
    simpa [hasBit_eq_getLsbD] using h d
  · rw [getLsbD_of_defined hm (Nat.le_of_not_lt hlt) hi,
      getLsbD_of_defined hm' (Nat.le_of_not_lt hlt) hi]

lemma or_bit_defined {m : UInt32} (hm : m &&& ~~~validDimensionMask = 0)
    (d : ResourceDimension) : (m ||| d.bit) &&& ~~~validDimensionMask = 0 := by
  have hd : d.bit &&& ~~~validDimensionMask = 0 := by cases d <;> decide
  rw [← UInt32.toBitVec_inj] at hm hd ⊢
  simp only [UInt32.toBitVec_and, UInt32.toBitVec_or] at hm hd ⊢
  rw [BitVec.and_or_distrib_right, hm, hd]
  rfl

/-- A sparse vector of capacity values: a value per dimension and a presence mask. -/
structure ResourceVector where
  values : ResourceDimension → UInt64 := fun _ ↦ 0
  mask : UInt32 := 0
deriving DecidableEq, Inhabited

/-- An in-place operation on a capacity vector. -/
abbrev VectorM := Procedure Error ResourceVector

namespace ResourceVector

def has (v : ResourceVector) (d : ResourceDimension) : Bool := hasBit v.mask d

def get (v : ResourceVector) (d : ResourceDimension) : UInt64 :=
  if v.has d then v.values d else 0

def empty (v : ResourceVector) : Bool := v.mask == 0

/-- Sets a dimension, making it present; an oversized share is rejected. -/
def set (v : ResourceVector) (d : ResourceDimension) (value : UInt64) : Result ResourceVector :=
  if d.isShareDimension && value > shareScale then
    failure .invalidArgument "share exceeds the whole device and is not representable"
      (d.toText ++ ("=" : Text) ++ decimal value.toNat)
  else .ok ⟨Function.update v.values d value, v.mask ||| d.bit⟩

/-- Every present dimension is present in the other vector and no larger there. -/
def isSubsetOf (v other : ResourceVector) : Bool :=
  ResourceDimension.all.all fun d ↦
    !v.has d || (other.has d && v.values d ≤ other.values d)

def add (d : ResourceDimension) (amount : UInt64) : VectorM Unit := fun v ↦
  if !v.has d then
    (v, failure .invalidArgument "dimension is not present in the vector" d.toText)
  else if v.values d > uint64Max - amount then
    (v, failure .overflow "resource addition overflows" d.toText)
  else if d.isShareDimension && v.values d + amount > shareScale then
    (v, failure .overflow "share addition exceeds the whole device" d.toText)
  else ({ v with values := Function.update v.values d (v.values d + amount) }, success)

def sub (d : ResourceDimension) (amount : UInt64) : VectorM Unit := fun v ↦
  if !v.has d then
    (v, failure .invalidArgument "dimension is not present in the vector" d.toText)
  else if v.values d < amount then
    (v, failure .underflow "resource subtraction underflows"
      (d.toText ++ ("=" : Text) ++ decimal (v.values d).toNat ++ (" - " : Text) ++
        decimal amount.toNat))
  else ({ v with values := Function.update v.values d (v.values d - amount) }, success)

/-- Adds a vector dimension by dimension and stops at the first that does not fit. -/
def addAssign (other : ResourceVector) : VectorM Unit := do
  let v ← Procedure.get
  Procedure.require (other.mask &&& ~~~v.mask == 0)
    (makeError .invalidArgument "cannot add vectors with incompatible dimension sets")
  ResourceDimension.all.forM fun d ↦ Procedure.when (other.has d) (add d (other.values d))

/-- Subtracts a vector dimension by dimension and stops at the first that underflows. -/
def subAssign (other : ResourceVector) : VectorM Unit := do
  let v ← Procedure.get
  Procedure.require (other.mask &&& ~~~v.mask == 0)
    (makeError .invalidArgument "cannot subtract vectors with incompatible dimension sets")
  ResourceDimension.all.forM fun d ↦ Procedure.when (other.has d) (sub d (other.values d))

/-- No bits outside the defined range, and every share within the whole device. -/
def validateDimensions (v : ResourceVector) : Status :=
  if v.mask &&& ~~~validDimensionMask ≠ 0 then
    failure .invalidArgument "resource vector carries undefined dimensions"
      (decimal v.mask.toNat)
  else ResourceDimension.all.forM fun d ↦
    if v.has d && d.isShareDimension && v.values d > shareScale then
      failure .invalidArgument "share dimension exceeds the whole device"
        (d.toText ++ ("=" : Text) ++ decimal (v.values d).toNat)
    else success

/-- Equality of the presence masks and of the present values. -/
def equal (v other : ResourceVector) : Bool :=
  v.mask == other.mask &&
    ResourceDimension.all.all fun d ↦ !v.has d || v.values d == other.values d

/-- The capacity of a dimension as a number; absent dimensions count nothing. -/
def amount (v : ResourceVector) (d : ResourceDimension) : ℕ := (v.get d).toNat

/-- A dimension-wise update run over distinct dimensions acts on each of them once. -/
lemma forM_pointwise {op : ResourceDimension → VectorM Unit}
    (guard : UInt32 → UInt64 → ResourceDimension → Prop)
    (g : UInt64 → ResourceDimension → UInt64)
    (hop : ∀ v d w, op d v = (w, .ok ()) ↔
      guard v.mask (v.values d) d ∧ w = ⟨Function.update v.values d (g (v.values d) d), v.mask⟩)
    (ds : List ResourceDimension) (hds : ds.Nodup) (v w : ResourceVector) :
    ds.forM op v = (w, .ok ()) ↔
      (∀ d ∈ ds, guard v.mask (v.values d) d) ∧
        w = ⟨fun d ↦ if d ∈ ds then g (v.values d) d else v.values d, v.mask⟩ := by
  induction ds generalizing v with
  | nil => simp [List.forM, eq_comm]
  | cons d ds ih =>
      obtain ⟨hd, hrest⟩ := List.nodup_cons.mp hds
      -- the values of the remaining dimensions are those of the original vector
      have hkeep : ∀ e ∈ ds, Function.update v.values d (g (v.values d) d) e = v.values e :=
        fun e he ↦ Function.update_of_ne (fun h : e = d ↦ hd (h ▸ he)) _ _
      have hvalues : (fun e ↦ if e ∈ ds then
          g (Function.update v.values d (g (v.values d) d) e) e
          else Function.update v.values d (g (v.values d) d) e) =
          fun e ↦ if e ∈ d :: ds then g (v.values e) e else v.values e := by
        funext e
        by_cases he : e ∈ ds
        · simp [he, hkeep e he]
        · by_cases hed : e = d
          · subst hed
            simp [he]
          · simp [he, hed]
      change (op d >>= fun _ ↦ ds.forM op) v = (w, .ok ()) ↔ _
      rw [Procedure.bind_eq_ok, List.forall_mem_cons]
      constructor
      · rintro ⟨v', ⟨⟩, hv, hds'⟩
        obtain ⟨hguard, rfl⟩ := (hop v d v').mp hv
        obtain ⟨hall, rfl⟩ := (ih hrest _).mp hds'
        refine ⟨⟨hguard, fun e he ↦ by simpa [hkeep e he] using hall e he⟩, ?_⟩
        rw [hvalues]
      · rintro ⟨⟨hguard, hall⟩, rfl⟩
        refine ⟨_, (), (hop v d _).mpr ⟨hguard, rfl⟩, (ih hrest _).mpr ⟨fun e he ↦ ?_, ?_⟩⟩
        · simpa [hkeep e he] using hall e he
        · rw [hvalues]

/-- An amount that can be added to a value of a dimension. -/
def Fits (value : UInt64) (d : ResourceDimension) (amount : UInt64) : Prop :=
  value.toNat + amount.toNat < 2 ^ 64 ∧
    (d.isShareDimension = true → value.toNat + amount.toNat ≤ shareScale.toNat)

lemma toNat_add_of_lt {a b : UInt64} (h : a.toNat + b.toNat < 2 ^ 64) :
    (a + b).toNat = a.toNat + b.toNat := by
  rw [UInt64.toNat_add]
  exact Nat.mod_eq_of_lt h

lemma not_gt_max_sub {a b : UInt64} : ¬ a > uint64Max - b ↔ a.toNat + b.toNat < 2 ^ 64 := by
  have hb := UInt64.toNat_lt b
  have hmax : (uint64Max - b).toNat = 2 ^ 64 - 1 - b.toNat := by
    rw [UInt64.toNat_sub_of_le]
    · rfl
    · rw [UInt64.le_iff_toNat_le]
      exact Nat.le_of_lt_succ hb
  rw [gt_iff_lt, UInt64.lt_iff_toNat_lt, hmax]
  omega

lemma add_eq_ok {v w : ResourceVector} {d : ResourceDimension} {amount : UInt64} :
    add d amount v = (w, .ok ()) ↔ v.has d = true ∧ Fits (v.values d) d amount ∧
      w = ⟨Function.update v.values d (v.values d + amount), v.mask⟩ := by
  unfold add
  split_ifs with hhas hover hshare
  · simp_all
  · have hnot : ¬ Fits (v.values d) d amount := fun h ↦ not_gt_max_sub.mpr h.1 hover
    simp [hnot]
  · have hlt := not_gt_max_sub.mp hover
    have hnot : ¬ Fits (v.values d) d amount := fun h ↦ by
      simp only [Bool.and_eq_true, decide_eq_true_eq, gt_iff_lt, UInt64.lt_iff_toNat_lt,
        toNat_add_of_lt hlt] at hshare
      exact absurd (h.2 hshare.1) (Nat.not_le.mpr hshare.2)
    simp [hnot]
  · have hlt := not_gt_max_sub.mp hover
    have hfits : Fits (v.values d) d amount := by
      refine ⟨hlt, fun hd ↦ ?_⟩
      simpa [hd, UInt64.lt_iff_toNat_lt, toNat_add_of_lt hlt] using hshare
    simp only [Bool.not_eq_true', Bool.not_eq_false] at hhas
    simp [hhas, hfits, success, eq_comm]

lemma sub_eq_ok {v w : ResourceVector} {d : ResourceDimension} {amount : UInt64} :
    sub d amount v = (w, .ok ()) ↔ v.has d = true ∧ amount ≤ v.values d ∧
      w = ⟨Function.update v.values d (v.values d - amount), v.mask⟩ := by
  unfold sub
  split_ifs with hhas hunder
  · simp_all
  · simp [not_le.mpr hunder]
  · simp only [Bool.not_eq_true', Bool.not_eq_false] at hhas
    simp [hhas, not_lt.mp hunder, success, eq_comm]

/-- The sum of two vectors over the dimensions of the second. -/
def plus (v other : ResourceVector) : ResourceVector :=
  ⟨fun d ↦ if other.has d then v.values d + other.values d else v.values d, v.mask⟩

/-- The difference of two vectors over the dimensions of the second. -/
def minus (v other : ResourceVector) : ResourceVector :=
  ⟨fun d ↦ if other.has d then v.values d - other.values d else v.values d, v.mask⟩

/-- Adding one dimension of a vector. -/
lemma addStep_eq_ok (other v : ResourceVector) (d : ResourceDimension) (w : ResourceVector) :
    Procedure.when (other.has d) (add d (other.values d)) v = (w, .ok ()) ↔
      (other.has d = true → hasBit v.mask d = true ∧ Fits (v.values d) d (other.values d)) ∧
        w = ⟨Function.update v.values d
          (if other.has d then v.values d + other.values d else v.values d), v.mask⟩ := by
  cases hd : other.has d with
  | true =>
      rw [Procedure.when_true, add_eq_ok, if_pos rfl]
      exact ⟨fun h ↦ ⟨fun _ ↦ ⟨h.1, h.2.1⟩, h.2.2⟩, fun h ↦ ⟨(h.1 rfl).1, (h.1 rfl).2, h.2⟩⟩
  | false =>
      rw [Procedure.when_false, Procedure.pure_apply, if_neg Bool.false_ne_true,
        Function.update_eq_self]
      exact ⟨fun h ↦ ⟨fun h' ↦ absurd h' Bool.false_ne_true, (Prod.mk.inj h).1.symm⟩,
        fun h ↦ by rw [h.2]⟩

/-- Subtracting one dimension of a vector. -/
lemma subStep_eq_ok (other v : ResourceVector) (d : ResourceDimension) (w : ResourceVector) :
    Procedure.when (other.has d) (sub d (other.values d)) v = (w, .ok ()) ↔
      (other.has d = true → hasBit v.mask d = true ∧ other.values d ≤ v.values d) ∧
        w = ⟨Function.update v.values d
          (if other.has d then v.values d - other.values d else v.values d), v.mask⟩ := by
  cases hd : other.has d with
  | true =>
      rw [Procedure.when_true, sub_eq_ok, if_pos rfl]
      exact ⟨fun h ↦ ⟨fun _ ↦ ⟨h.1, h.2.1⟩, h.2.2⟩, fun h ↦ ⟨(h.1 rfl).1, (h.1 rfl).2, h.2⟩⟩
  | false =>
      rw [Procedure.when_false, Procedure.pure_apply, if_neg Bool.false_ne_true,
        Function.update_eq_self]
      exact ⟨fun h ↦ ⟨fun h' ↦ absurd h' Bool.false_ne_true, (Prod.mk.inj h).1.symm⟩,
        fun h ↦ by rw [h.2]⟩

theorem addAssign_eq_ok {v other w : ResourceVector} :
    addAssign other v = (w, .ok ()) ↔ other.mask &&& ~~~v.mask = 0 ∧
      (∀ d, other.has d = true → Fits (v.values d) d (other.values d)) ∧ w = v.plus other := by
  change (Procedure.require (other.mask &&& ~~~v.mask == 0) _ >>= _) v = _ ↔ _
  rw [Procedure.require_bind]
  split_ifs with hmask
  · have hmask' : other.mask &&& ~~~v.mask = 0 := beq_iff_eq.mp hmask
    rw [forM_pointwise
      (fun m x d ↦ other.has d = true → hasBit m d = true ∧ Fits x d (other.values d))
      (fun x d ↦ if other.has d then x + other.values d else x) (addStep_eq_ok other) _
      ResourceDimension.all_nodup]
    simp only [ResourceDimension.mem_all, if_true, true_implies, hmask', true_and, plus]
    refine and_congr_left fun _ ↦ ⟨fun h d hd ↦ (h d hd).2, fun h d hd ↦ ⟨?_, h d hd⟩⟩
    exact hasBit_of_subset hmask' hd
  · have hmask' : ¬ other.mask &&& ~~~v.mask = 0 := fun h ↦ hmask (beq_iff_eq.mpr h)
    simp [hmask']

theorem subAssign_eq_ok {v other w : ResourceVector} :
    subAssign other v = (w, .ok ()) ↔ other.mask &&& ~~~v.mask = 0 ∧
      (∀ d, other.has d = true → other.values d ≤ v.values d) ∧ w = v.minus other := by
  change (Procedure.require (other.mask &&& ~~~v.mask == 0) _ >>= _) v = _ ↔ _
  rw [Procedure.require_bind]
  split_ifs with hmask
  · have hmask' : other.mask &&& ~~~v.mask = 0 := beq_iff_eq.mp hmask
    rw [forM_pointwise
      (fun m x d ↦ other.has d = true → hasBit m d = true ∧ other.values d ≤ x)
      (fun x d ↦ if other.has d then x - other.values d else x) (subStep_eq_ok other) _
      ResourceDimension.all_nodup]
    simp only [ResourceDimension.mem_all, if_true, true_implies, hmask', true_and, minus]
    refine and_congr_left fun _ ↦ ⟨fun h d hd ↦ (h d hd).2, fun h d hd ↦ ⟨?_, h d hd⟩⟩
    exact hasBit_of_subset hmask' hd
  · have hmask' : ¬ other.mask &&& ~~~v.mask = 0 := fun h ↦ hmask (beq_iff_eq.mpr h)
    simp [hmask']

lemma isSubsetOf_iff {v other : ResourceVector} :
    v.isSubsetOf other = true ↔
      ∀ d, v.has d = true → other.has d = true ∧ v.values d ≤ other.values d := by
  simp only [isSubsetOf, List.all_eq_true, ResourceDimension.mem_all, true_implies,
    Bool.or_eq_true, Bool.not_eq_true', Bool.and_eq_true, decide_eq_true_eq]
  refine forall_congr' fun d ↦ ?_
  cases v.has d <;> simp

@[simp] lemma plus_mask (v other : ResourceVector) : (v.plus other).mask = v.mask := rfl

@[simp] lemma minus_mask (v other : ResourceVector) : (v.minus other).mask = v.mask := rfl

lemma amount_of_not_has {v : ResourceVector} {d : ResourceDimension} (h : v.has d = false) :
    v.amount d = 0 := by
  simp [amount, get, h]

lemma amount_of_has {v : ResourceVector} {d : ResourceDimension} (h : v.has d = true) :
    v.amount d = (v.values d).toNat := by
  simp [amount, get, h]

lemma amount_plus {v other : ResourceVector} (hmask : other.mask &&& ~~~v.mask = 0)
    (hfits : ∀ d, other.has d = true → Fits (v.values d) d (other.values d))
    (d : ResourceDimension) : (v.plus other).amount d = v.amount d + other.amount d := by
  cases ho : other.has d with
  | true =>
      have hv : v.has d = true := hasBit_of_subset hmask ho
      have hp : (v.plus other).has d = true := hv
      rw [amount_of_has hp, amount_of_has hv, amount_of_has ho]
      simp [plus, ho, toNat_add_of_lt (hfits d ho).1]
  | false =>
      have hvalue : (v.plus other).values d = v.values d := by simp [plus, ho]
      have hsame : (v.plus other).amount d = v.amount d := by
        rw [amount, get, hvalue]
        rfl
      rw [hsame, amount_of_not_has ho, Nat.add_zero]

lemma amount_minus {v other : ResourceVector} (hmask : other.mask &&& ~~~v.mask = 0)
    (hle : ∀ d, other.has d = true → other.values d ≤ v.values d)
    (d : ResourceDimension) : (v.minus other).amount d + other.amount d = v.amount d := by
  cases ho : other.has d with
  | true =>
      have hv : v.has d = true := hasBit_of_subset hmask ho
      have hm : (v.minus other).has d = true := hv
      have hle' := UInt64.le_iff_toNat_le.mp (hle d ho)
      rw [amount_of_has hm, amount_of_has hv, amount_of_has ho]
      simp only [minus, ho, if_true, UInt64.toNat_sub_of_le _ _ (hle d ho)]
      omega
  | false =>
      have hvalue : (v.minus other).values d = v.values d := by simp [minus, ho]
      have hsame : (v.minus other).amount d = v.amount d := by
        rw [amount, get, hvalue]
        rfl
      rw [hsame, amount_of_not_has ho, Nat.add_zero]

lemma validateDimensions_eq_ok {v : ResourceVector} :
    v.validateDimensions = .ok () ↔ v.mask &&& ~~~validDimensionMask = 0 ∧
      ∀ d, v.has d = true → d.isShareDimension = true → v.values d ≤ shareScale := by
  unfold validateDimensions
  split_ifs with hmask
  · simp [hmask]
  · rw [not_not] at hmask
    rw [forM_eq_ok]
    simp only [hmask, true_and, ResourceDimension.mem_all, true_implies]
    refine forall_congr' fun d ↦ ?_
    split_ifs with hbad
    · simp only [Bool.and_eq_true, decide_eq_true_eq, gt_iff_lt] at hbad
      simp [hbad.1.1, hbad.1.2, hbad.2]
    · simpa [success] using hbad

/-- A vector over the same dimensions with no larger share is valid with the vector. -/
lemma validateDimensions_of_le {v w : ResourceVector} (hmask : w.mask = v.mask)
    (hle : ∀ d, v.has d = true → d.isShareDimension = true →
      w.values d ≤ v.values d ∨ w.values d ≤ shareScale)
    (h : v.validateDimensions = success) : w.validateDimensions = success := by
  obtain ⟨hdefined, hshares⟩ := validateDimensions_eq_ok.mp h
  refine validateDimensions_eq_ok.mpr ⟨hmask ▸ hdefined, fun d hd hshare ↦ ?_⟩
  have hhas : v.has d = true := by
    rw [has, ← hmask]
    exact hd
  rcases hle d hhas hshare with hvalue | hvalue
  · exact hvalue.trans (hshares d hhas hshare)
  · exact hvalue

lemma validateDimensions_minus {v other : ResourceVector}
    (hle : ∀ d, other.has d = true → other.values d ≤ v.values d)
    (h : v.validateDimensions = success) : (v.minus other).validateDimensions = success := by
  refine validateDimensions_of_le (minus_mask v other) (fun d _ _ ↦ Or.inl ?_) h
  cases ho : other.has d with
  | true =>
    simp only [minus, ho, if_true, UInt64.le_iff_toNat_le, UInt64.toNat_sub_of_le _ _ (hle d ho)]
    omega
  | false => simp [minus, ho]

lemma validateDimensions_plus {v other : ResourceVector}
    (hfits : ∀ d, other.has d = true → Fits (v.values d) d (other.values d))
    (h : v.validateDimensions = success) : (v.plus other).validateDimensions = success := by
  refine validateDimensions_of_le (plus_mask v other) (fun d _ hshare ↦ ?_) h
  cases ho : other.has d with
  | true =>
    obtain ⟨hlt, hscale⟩ := hfits d ho
    refine Or.inr ?_
    simp only [plus, ho, if_true, UInt64.le_iff_toNat_le, toNat_add_of_lt hlt]
    exact hscale hshare
  | false => exact Or.inl (by simp [plus, ho])

/-- A dimension can only be set to a value that a valid vector may have there. -/
lemma validateDimensions_set {v w : ResourceVector} {d : ResourceDimension} {value : UInt64}
    (hset : v.set d value = .ok w) (h : v.validateDimensions = success) :
    w.validateDimensions = success := by
  obtain ⟨hdefined, hshares⟩ := validateDimensions_eq_ok.mp h
  unfold set at hset
  split at hset
  · cases hset
  · rename_i hscale
    obtain rfl := Except.ok.inj hset
    refine validateDimensions_eq_ok.mpr ⟨or_bit_defined hdefined d, fun e he hshare ↦ ?_⟩
    by_cases hed : e = d
    · subst hed
      simpa [hshare] using hscale
    · have hhas : v.has e = true := by simpa [has, hasBit_or_bit, hed] using he
      simpa [hed] using hshares e hhas hshare

end ResourceVector

end PartitionFabric

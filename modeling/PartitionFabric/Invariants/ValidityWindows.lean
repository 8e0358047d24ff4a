import PartitionFabric.Invariants.PlanUse
import PartitionFabric.Invariants.Reconfiguring
import PartitionFabric.Invariants.Selection

/-!
The validity windows of plans. The end of a window is a 64-bit sum of the time and the window, and
zero stands for no end at all; the sum is not checked for a carry.
-/

namespace PartitionFabric

open Procedure

variable {s : FabricState} {request : PartitionRequest} {now short long : UInt64}

section Windows

/-- A request with a window of its own; zero leaves the window to the policy. -/
def PartitionRequest.withWindow (request : PartitionRequest) (window : UInt64) :
    PartitionRequest :=
  { request with maxEvidenceAgeMs := window }

/-- A state whose policy has this window. -/
def FabricState.withWindow (s : FabricState) (window : UInt64) : FabricState :=
  { s with policy := { s.policy with maxEvidenceAgeMs := window } }

/-- The binding of the longer window holds whenever the one of the shorter window does, and neither
is expired when it is made. -/
structure Outlasts (now : UInt64) (shorter longer : PlanBinding) : Prop where
  monotone : ∀ t, shorter.expiredAt t = false → longer.expiredAt t = false
  shorter : shorter.expiredAt now = false
  longer : longer.expiredAt now = false

/-- The end of the window is at most the time at which the clock wraps. -/
def InTime (now window : UInt64) : Prop := now.toNat + window.toNat ≤ 2 ^ 64

lemma expiredAt_iff {binding : PlanBinding} {t : UInt64} :
    binding.expiredAt t = true ↔ binding.validUntilMs ≠ 0 ∧ binding.validUntilMs < t := by
  simp [PlanBinding.expiredAt]

lemma outlasts_unbounded {shorter longer : PlanBinding} (hshorter : shorter.validUntilMs = 0)
    (hlonger : longer.validUntilMs = 0) : Outlasts now shorter longer := by
  constructor <;> simp [PlanBinding.expiredAt, hshorter, hlonger]

/-- The sum of a time and a non-zero window that ends in time: it did not wrap, or it became the
zero that stands for no end. -/
lemma toNat_end {window : UInt64} (h : InTime now window) (hend : now + window ≠ 0) :
    (now + window).toNat = now.toNat + window.toNat := by
  unfold InTime at h
  rw [UInt64.toNat_add]
  rw [Ne, ← UInt64.toNat_inj, UInt64.toNat_add, UInt64.toNat_zero] at hend
  omega

/-- Two windows are ordered like their lengths exactly when the longer one ends in time. -/
theorem outlasts_iff {shorter longer : PlanBinding} (hpos : short ≠ 0) (hle : short ≤ long)
    (hshorter : shorter.validUntilMs = now + short) (hlonger : longer.validUntilMs = now + long) :
    Outlasts now shorter longer ↔ InTime now long := by
  have hlongpos : long ≠ 0 := by
    rintro rfl
    exact hpos (UInt64.le_zero_iff.mp hle)
  have hle' : short.toNat ≤ long.toNat := hle
  have hnow {binding : PlanBinding} {window : UInt64} (hwindow : window ≠ 0)
      (h : binding.validUntilMs = now + window) :
      binding.expiredAt now = false ↔ InTime now window :=
    expiredAt_now binding window now (by rw [h, if_neg hwindow])
  constructor
  · intro h
    exact (hnow hlongpos hlonger).mp h.longer
  · intro hlong
    have hshort : InTime now short := by
      unfold InTime at hlong ⊢
      omega
    refine ⟨fun t ht ↦ ?_, (hnow hpos hshorter).mpr hshort, (hnow hlongpos hlonger).mpr hlong⟩
    rw [← Bool.not_eq_true, expiredAt_iff, hlonger]
    rintro ⟨hend, hpassed⟩
    -- a longer window that has an end comes after the end of the shorter one
    have hendshort : now + short ≠ 0 := by
      intro hzero
      have hlongend := toNat_end hlong hend
      have hlt := (now + long).toNat_lt
      rw [← UInt64.toNat_inj, UInt64.toNat_add, UInt64.toNat_zero] at hzero
      have hshortpos : 0 < short.toNat :=
        Nat.pos_of_ne_zero fun h ↦ hpos (UInt64.toNat_inj.mp h)
      omega
    have hexpired : shorter.expiredAt t = true := by
      rw [expiredAt_iff, hshorter]
      refine ⟨hendshort, ?_⟩
      rw [UInt64.lt_iff_toNat_lt, toNat_end hlong hend] at hpassed
      rw [UInt64.lt_iff_toNat_lt, toNat_end hshort hendshort]
      omega
    rw [hexpired] at ht
    cases ht

/-- The same for bindings whose end is dropped together. -/
lemma outlasts_or_iff {dropped : Prop} {shorter longer : PlanBinding} (hpos : short ≠ 0)
    (hle : short ≤ long)
    (hdropped : dropped → shorter.validUntilMs = 0 ∧ longer.validUntilMs = 0)
    (hkept : ¬dropped → shorter.validUntilMs = now + short ∧ longer.validUntilMs = now + long) :
    Outlasts now shorter longer ↔ dropped ∨ InTime now long := by
  by_cases h : dropped
  · exact iff_of_true (outlasts_unbounded (hdropped h).1 (hdropped h).2) (Or.inl h)
  · rw [outlasts_iff hpos hle (hkept h).1 (hkept h).2]
    exact ⟨Or.inr, fun hor ↦ hor.resolve_left h⟩

end Windows

section Planning

/-- A valid request for a registered profile that no device serves: its plan carries no binding. -/
def Unserved (s : FabricState) (request : PartitionRequest) (now : UInt64) : Prop :=
  request.validate s.limits = success ∧ ∃ profile, s.findProfile request.profile = some profile ∧
    ∀ key a, s.accelerators.find? key = some a → ∀ o, ¬ServedBy s request profile now a o

lemma unserved_iff_none {profile : PartitionProfile}
    (hvalid : request.validate s.limits = success)
    (hprofile : s.findProfile request.profile = some profile) :
    Unserved s request now ↔ bestEligible (candidatesFor s request profile now) = none := by
  rw [best_none_iff]
  constructor
  · rintro ⟨-, profile', hprofile', hnone⟩ c hc
    obtain rfl := Option.some.inj (hprofile.symm.trans hprofile')
    obtain ⟨key, a, ha, rfl⟩ := mem_candidatesFor.mp hc
    rw [← Bool.not_eq_true, eligible_iff_serves]
    exact hnone key a ha _
  · intro hall
    refine ⟨hvalid, profile, hprofile, fun key a ha o hserves ↦ ?_⟩
    have hrejected := hall _ (mem_candidatesFor.mpr ⟨key, a, ha, rfl⟩)
    rw [hserves.eligible] at hrejected
    cases hrejected

/-- The end of a plan's window: none if no device serves the request. -/
lemma buildPlan_validUntil (s : FabricState) (request : PartitionRequest) (now : UInt64) :
    (Unserved s request now → (buildPlan s request now).binding.validUntilMs = 0) ∧
      (¬Unserved s request now → (buildPlan s request now).binding.validUntilMs =
        if planWindow s request = 0 then 0 else now + planWindow s request) := by
  cases hvalid : request.validate s.limits with
  | error e =>
    have hserved : ¬Unserved s request now := fun h ↦ by cases hvalid.symm.trans h.1
    refine ⟨fun h ↦ absurd h hserved, fun _ ↦ ?_⟩
    unfold buildPlan
    simp only [hvalid]
    rfl
  | ok u =>
    cases hprofile : s.findProfile request.profile with
    | none =>
      have hserved : ¬Unserved s request now := by
        rintro ⟨-, profile, hprofile', -⟩
        cases hprofile.symm.trans hprofile'
      refine ⟨fun h ↦ absurd h hserved, fun _ ↦ ?_⟩
      unfold buildPlan
      simp only [hvalid, hprofile]
      rfl
    | some profile =>
      rw [unserved_iff_none hvalid hprofile]
      cases hbest : bestEligible (candidatesFor s request profile now) with
      | none =>
        refine ⟨fun _ ↦ ?_, fun h ↦ absurd rfl h⟩
        rw [(buildPlan_of_none hvalid hprofile hbest).2.2]
      | some best =>
        refine ⟨fun h ↦ (Option.some_ne_none _ h).elim, fun _ ↦ ?_⟩
        unfold candidatesFor at hbest
        unfold buildPlan
        simp only [hvalid, hprofile, hbest]
        rfl

/-- The candidates do not depend on how long a non-zero window of the request is. -/
lemma servedBy_withWindow {profile : PartitionProfile} {a : AcceleratorRecord} {o : PlanOutcome}
    (hshort : short ≠ 0) (hlong : long ≠ 0) :
    ServedBy s (request.withWindow short) profile now a o ↔
      ServedBy s (request.withWindow long) profile now a o := by
  have hone {w w' : UInt64} (hw : w ≠ 0) (hw' : w' ≠ 0)
      (h : ServedBy s (request.withWindow w) profile now a o) :
      ServedBy s (request.withWindow w') profile now a o := by
    refine ⟨?_, h.ledger, h.permitted⟩
    have hmeets := h.constraints
    refine ⟨hmeets.admitted, hmeets.backend, hmeets.vendor, hmeets.family, hmeets.locality,
      hmeets.observed, fun _ ↦ hmeets.fresh (.inr hw), ?_, hmeets.known, hmeets.supported,
      hmeets.published, hmeets.profileBackend, hmeets.isolation, hmeets.healthy⟩
    have hgovernable := hmeets.governable
    simpa [PartitionRequest.withWindow, hw, hw'] using hgovernable
  exact ⟨hone hshort hlong, hone hlong hshort⟩

lemma unserved_withWindow (hshort : short ≠ 0) (hlong : long ≠ 0) :
    Unserved s (request.withWindow short) now ↔ Unserved s (request.withWindow long) now := by
  unfold Unserved
  simp only [servedBy_withWindow hshort hlong]
  rfl

lemma analyzeFragmentation_withWindow (window : UInt64) (a : AcceleratorRecord)
    (ledger : CapacityLedger) :
    analyzeFragmentation (s.withWindow window) a ledger request =
      analyzeFragmentation s a ledger request := by
  have hprofile : ∀ id, (s.withWindow window).findProfile id = s.findProfile id := fun _ ↦ rfl
  have hpartitions : ∀ id, (s.withWindow window).partitionsOf id = s.partitionsOf id :=
    fun _ ↦ rfl
  have hcount : ∀ id states, (s.withWindow window).countPartitionsInStates id states =
      s.countPartitionsInStates id states := fun _ _ ↦ rfl
  have hcap : ∀ profile same used, multiplicityCap (s.withWindow window) a profile same used =
      multiplicityCap s a profile same used := fun _ _ _ ↦ rfl
  have hresident : ∀ id profile, residentInstances (s.withWindow window) id profile =
      residentInstances s id profile := fun _ _ ↦ rfl
  have hslices : ∀ id compute, usedSlices (s.withWindow window) id compute =
      usedSlices s id compute := fun _ _ ↦ rfl
  have hconflict : ∀ id profile, profileConflictsWithResident (s.withWindow window) id profile =
      profileConflictsWithResident s id profile := fun _ _ ↦ rfl
  have hfits : ∀ slots pool, anyProfileFits (s.withWindow window) a slots pool =
      anyProfileFits s a slots pool := fun _ _ ↦ rfl
  unfold analyzeFragmentation
  simp only [hprofile, hpartitions, hcount, hcap, hresident, hslices, hconflict, hfits]

/-- The window of the policy plays no part in who serves a request. -/
lemma servedBy_policy (window : UInt64) {profile : PartitionProfile} {a : AcceleratorRecord}
    {o : PlanOutcome} :
    ServedBy (s.withWindow window) request profile now a o ↔
      ServedBy s request profile now a o := by
  have hmeets : MeetsConstraints (s.withWindow window) request profile now a ↔
      MeetsConstraints s request profile now a := by
    rw [← hardRejection_eq_none, ← hardRejection_eq_none]
    rfl
  have hreport : deviceReport (s.withWindow window) request a = deviceReport s request a :=
    analyzeFragmentation_withWindow window a _
  constructor
  · intro h
    exact ⟨hmeets.mp h.constraints, h.ledger, by rw [← hreport]; exact h.permitted⟩
  · intro h
    exact ⟨hmeets.mpr h.constraints, h.ledger, by rw [hreport]; exact h.permitted⟩

lemma unserved_policy (window : UInt64) :
    Unserved (s.withWindow window) request now ↔ Unserved s request now := by
  unfold Unserved
  simp only [servedBy_policy]
  rfl

end Planning

section Reconfiguration

/-- The end of the window of a reconfiguration plan: none if its device has no record or no
ledger. -/
lemma buildReconfigurationPlan_validUntil (s : FabricState) (id : AcceleratorId)
    (desired : List PlannedPartition) (context : PartitionRequest) (now : UInt64) :
    (s.findAccelerator id = none ∨ s.findLedger id = none →
        (buildReconfigurationPlan s id desired context now).binding.validUntilMs = 0) ∧
      (¬(s.findAccelerator id = none ∨ s.findLedger id = none) →
        (buildReconfigurationPlan s id desired context now).binding.validUntilMs =
          if planWindow s context = 0 then 0 else now + planWindow s context) := by
  unfold buildReconfigurationPlan
  cases hdevice : s.findAccelerator id with
  | none => exact ⟨fun _ ↦ rfl, fun h ↦ absurd (Or.inl rfl) h⟩
  | some accelerator =>
    cases hledger : s.findLedger id with
    | none => exact ⟨fun _ ↦ rfl, fun h ↦ absurd (Or.inr rfl) h⟩
    | some ledger =>
      refine ⟨fun h ↦ by simp at h, fun _ ↦ ?_⟩
      simp only
      cases checkReconfiguration s accelerator ledger desired context <;> rfl

end Reconfiguration

section Destruction

/-- A hold that is taken leaves the plans alone. -/
lemma holdCapacity_plans {id : AcceleratorId} {hold : ResourceVector} {plan : PartitionPlanId}
    {u : Unit} {t : FabricState} (h : holdCapacity id hold plan s = (t, .ok u))
    (hledger : s.ledgers.contains id = true) : t.plans = s.plans := by
  obtain ⟨l, hl⟩ := Option.isSome_iff_exists.mp hledger
  rcases holdCapacity_cases hold plan (show s.findLedger id = some l from hl) with
    ⟨l', -, hrun⟩ | ⟨⟨e, hrun⟩, -⟩
  · obtain ⟨rfl, -⟩ := Prod.mk.inj (hrun.symm.trans h)
    rfl
  · cases (Prod.mk.inj (hrun.symm.trans h)).2

/-- A destructive reservation leaves its plan stored, made out under the policy of the state. -/
lemma createDestructiveReservationLocked_planned {accelerator : AcceleratorRecord}
    {affected : List PartitionRecord} {hold : ResourceVector} :
    Ensures (fun r t ↦ ∃ v : FabricState, v.policy = s.policy ∧ t.plans.find? r.plan =
        some (destructivePlan v accelerator affected r.plan now))
      (createDestructiveReservationLocked accelerator affected hold now) s := by
  refine ensures_bind fun t planId hplanId ↦ ensures_bind fun v id hid ↦ ensures_get_bind ?_
  obtain ⟨-, -, ids, rfl⟩ := allocateId_eq_ok hplanId
  obtain ⟨-, -, ids', rfl⟩ := allocateId_eq_ok hid
  refine ensures_modify_bind (ensures_bind fun w _ hledger ↦ ensures_bind fun x _ hheld ↦ ?_)
  obtain ⟨rfl, hcontains⟩ := require_eq_ok hledger
  have hplans := holdCapacity_plans hheld hcontains
  refine ensures_modify_bind (ensures_modify_bind (ensures_pure ⟨{ s with ids := ids' }, rfl, ?_⟩))
  rw [bump_plans]
  change x.plans.find? planId = _
  rw [hplans]
  exact KeyedMap.find?_insert_self _ _ _

end Destruction

/-- The planners whose window is a parameter: the one of the request or of the context, or the one
of the policy when these have none. -/
inductive WindowedPlanner where
  | request (request : PartitionRequest)
  | policy (request : PartitionRequest)
  | reconfigurationContext (id : AcceleratorId) (desired : List PlannedPartition)
      (context : PartitionRequest)
  | reconfigurationPolicy (id : AcceleratorId) (desired : List PlannedPartition)
      (context : PartitionRequest)

namespace WindowedPlanner

/-- The plan built with a window. -/
def build (s : FabricState) (now window : UInt64) : WindowedPlanner → PartitionPlan
  | .request request => buildPlan s (request.withWindow window) now
  | .policy request => buildPlan (s.withWindow window) (request.withWindow 0) now
  | .reconfigurationContext id desired context =>
    buildReconfigurationPlan s id desired (context.withWindow window) now
  | .reconfigurationPolicy id desired context =>
    buildReconfigurationPlan (s.withWindow window) id desired (context.withWindow 0) now

/-- The planner refuses before it sets a window, or drops the binding with the window. -/
def Drops (s : FabricState) (now window : UInt64) : WindowedPlanner → Prop
  | .request request => Unserved s (request.withWindow window) now
  | .policy request => Unserved s (request.withWindow 0) now
  | .reconfigurationContext id _ _ | .reconfigurationPolicy id _ _ =>
    s.findAccelerator id = none ∨ s.findLedger id = none

lemma drops_congr (planner : WindowedPlanner) (hshort : short ≠ 0) (hlong : long ≠ 0) :
    planner.Drops s now short ↔ planner.Drops s now long := by
  cases planner with
  | request request => exact unserved_withWindow hshort hlong
  | _ => exact Iff.rfl

/-- The end of the window that a planner sets. -/
lemma build_validUntil (planner : WindowedPlanner) (s : FabricState) (now : UInt64)
    {window : UInt64} (hwindow : window ≠ 0) :
    (planner.Drops s now window → (planner.build s now window).binding.validUntilMs = 0) ∧
      (¬planner.Drops s now window →
        (planner.build s now window).binding.validUntilMs = now + window) := by
  have hown {request : PartitionRequest} :
      planWindow s (request.withWindow window) = window := if_pos hwindow
  have hpolicy {request : PartitionRequest} :
      planWindow (s.withWindow window) (request.withWindow 0) = window :=
    if_neg (by simp [PartitionRequest.withWindow])
  cases planner with
  | request request =>
    have h := buildPlan_validUntil s (request.withWindow window) now
    rwa [hown, if_neg hwindow] at h
  | policy request =>
    have h := buildPlan_validUntil (s.withWindow window) (request.withWindow 0) now
    rwa [hpolicy, if_neg hwindow, unserved_policy] at h
  | reconfigurationContext id desired context =>
    have h := buildReconfigurationPlan_validUntil s id desired (context.withWindow window) now
    rwa [hown, if_neg hwindow] at h
  | reconfigurationPolicy id desired context =>
    have h := buildReconfigurationPlan_validUntil (s.withWindow window) id desired
      (context.withWindow 0) now
    rwa [hpolicy, if_neg hwindow] at h

end WindowedPlanner

/-- A longer non-zero window gives a binding that lasts at least as long, and neither is expired
when it is made, exactly when the planner sets no window at all or the longer window ends before
the clock wraps; for destructive reservations exactly when it ends before the clock wraps. -/
theorem windows_monotone_iff (s : FabricState) (now : UInt64) (hpos : short ≠ 0)
    (hle : short ≤ long) :
    (∀ planner : WindowedPlanner, Outlasts now (planner.build s now short).binding
        (planner.build s now long).binding ↔ planner.Drops s now long ∨ InTime now long) ∧
      ∀ accelerator affected hold t₁ r₁ t₂ r₂,
        createDestructiveReservationLocked accelerator affected hold now (s.withWindow short) =
          (t₁, .ok r₁) →
        createDestructiveReservationLocked accelerator affected hold now (s.withWindow long) =
          (t₂, .ok r₂) →
        ∃ p₁ p₂, t₁.plans.find? r₁.plan = some p₁ ∧ t₂.plans.find? r₂.plan = some p₂ ∧
          (Outlasts now p₁.binding p₂.binding ↔ InTime now long) := by
  have hlong : long ≠ 0 := by
    rintro rfl
    exact hpos (UInt64.le_zero_iff.mp hle)
  constructor
  · intro planner
    have hshorter := planner.build_validUntil s now hpos
    have hlonger := planner.build_validUntil s now hlong
    rw [planner.drops_congr hpos hlong] at hshorter
    exact outlasts_or_iff hpos hle (fun h ↦ ⟨hshorter.1 h, hlonger.1 h⟩)
      fun h ↦ ⟨hshorter.2 h, hlonger.2 h⟩
  · intro accelerator affected hold t₁ r₁ t₂ r₂ hrun₁ hrun₂
    obtain ⟨v₁, hpolicy₁, hplan₁⟩ := createDestructiveReservationLocked_planned t₁ r₁ hrun₁
    obtain ⟨v₂, hpolicy₂, hplan₂⟩ := createDestructiveReservationLocked_planned t₂ r₂ hrun₂
    refine ⟨_, _, hplan₁, hplan₂, outlasts_iff hpos hle ?_ ?_⟩
    · have hwindow : v₁.policy.maxEvidenceAgeMs = short := by rw [hpolicy₁]; rfl
      simp only [destructivePlan, hwindow]
      exact if_neg hpos
    · have hwindow : v₂.policy.maxEvidenceAgeMs = long := by rw [hpolicy₂]; rfl
      simp only [destructivePlan, hwindow]
      exact if_neg hlong

/-- A window that reaches past the end of the clock: its plan is expired when it is built. -/
theorem window_wraps :
    ¬∀ (s : FabricState) (now short long : UInt64), short ≠ 0 → short ≤ long →
      (∀ planner : WindowedPlanner, Outlasts now (planner.build s now short).binding
        (planner.build s now long).binding) ∧
      ∀ accelerator affected hold t₁ r₁ t₂ r₂,
        createDestructiveReservationLocked accelerator affected hold now (s.withWindow short) =
          (t₁, .ok r₁) →
        createDestructiveReservationLocked accelerator affected hold now (s.withWindow long) =
          (t₂, .ok r₂) →
        ∃ p₁ p₂, t₁.plans.find? r₁.plan = some p₁ ∧ t₂.plans.find? r₂.plan = some p₂ ∧
          Outlasts now p₁.binding p₂.binding := by
  intro h
  have houtlasts := (h Sample.registered 2 1 uint64Max (by decide) (by decide)).1
    (.request Sample.slice)
  have hexpired : ((WindowedPlanner.request Sample.slice).build Sample.registered 2
      uint64Max).binding.expiredAt 2 = true := by decide +kernel
  rw [houtlasts.longer] at hexpired
  cases hexpired

/-- Two short windows on a registered device are ordered like their lengths. -/
theorem windows_monotone_registered :
    Outlasts 2 ((WindowedPlanner.request Sample.slice).build Sample.registered 2 1).binding
        ((WindowedPlanner.request Sample.slice).build Sample.registered 2 5).binding ∧
      Outlasts 2 ((WindowedPlanner.policy Sample.slice).build Sample.registered 2 1).binding
        ((WindowedPlanner.policy Sample.slice).build Sample.registered 2 5).binding := by
  have hmonotone := (@windows_monotone_iff 1 5 Sample.registered 2 (by decide) (by decide)).1
  exact ⟨(hmonotone (.request Sample.slice)).mpr (.inr (by unfold InTime; decide)),
    (hmonotone (.policy Sample.slice)).mpr (.inr (by unfold InTime; decide))⟩

end PartitionFabric

import PartitionFabric.Invariants.PlanLimits
import PartitionFabric.Invariants.Scores

/-!
Whether the scores of the candidates fit signed 64-bit integers: exactly under moderate weights,
which the validation of a policy does not demand.
-/

namespace PartitionFabric

section Range

/-- The value of a signed 64-bit integer. -/
def FitsInt64 (x : ℤ) : Prop := -2 ^ 63 ≤ x ∧ x < 2 ^ 63

instance (x : ℤ) : Decidable (FitsInt64 x) := inferInstanceAs (Decidable (_ ∧ _))

/-- The weights of the ranking terms in ranking order. -/
def PlanningWeights.ranked (w : PlanningWeights) : List ℤ :=
  [w.capacityWaste, w.fragmentation, w.destructiveReconfiguration, w.drain, w.mutationCount,
    w.health, w.locality, w.futureOptionality, w.reconfigurationCost, w.liveReconfigurationBonus]

/-- The contribution of every raw term. -/
def PlanningWeights.contributions (w : PlanningWeights) (raws : List ℤ) : List ℤ :=
  List.zipWith (· * ·) w.ranked raws

/-- The running totals of a list, from nothing to the sum. -/
def runningTotals (l : List ℤ) : List ℤ := l.scanl (· + ·) 0

/-- Every raw term, every contribution and every running total fits a signed 64-bit integer. -/
structure ScoreFits (score : PlanScore) : Prop where
  raws : ∀ term ∈ score.terms, FitsInt64 term.raw
  contributions : ∀ term ∈ score.terms, FitsInt64 term.contribution
  totals : ∀ total ∈ runningTotals (score.terms.map PlanScoreTerm.contribution), FitsInt64 total

/-- Under these weights no plan of any state for any request overflows in its scores. -/
def ScoresFit (w : PlanningWeights) : Prop :=
  ∀ s request now, s.policy.weights = w → s.policy.validate = .ok () →
    ∀ c ∈ (buildPlan s request now).candidates, ScoreFits c.score

/-- The weights keep the scores of every candidate small, however it serves the request. -/
structure Moderate (w : PlanningWeights) : Prop where
  -- every billion of created instances uses up a unit of the waste
  now : ∀ j : ℤ, 0 ≤ j → j < 4 → w.capacityWaste * (fullWaste - j) + w.fragmentation +
    w.mutationCount * ((j + 1) * 2 ^ 30 - 1) + w.health * 4 + max w.locality 0 < 2 ^ 63
  optionality : w.futureOptionality * (2 ^ 32 - 1) ≤ 2 ^ 63
  -- room for every further billion of instances is a unit of waste
  remaining : ∀ k : ℤ, 0 ≤ k → k < 4 → -2 ^ 63 ≤ w.capacityWaste * k + w.mutationCount +
    min w.locality 0 - w.futureOptionality * ((k + 1) * 2 ^ 30 - 1)
  drained : w.drain + w.mutationCount * (2 ^ 32 - 1) + w.health * 4 + max w.locality 0 < 2 ^ 63
  drainedLeast : -2 ^ 63 ≤ w.drain + w.mutationCount + min w.locality 0
  reconfigured : w.destructiveReconfiguration + w.mutationCount * (2 ^ 33 - 2) + w.health * 4 +
    max w.locality 0 + max w.reconfigurationCost 0 * longestDowntime +
    max w.liveReconfigurationBonus 0 < 2 ^ 63
  reconfiguredLeast : -2 ^ 63 ≤ w.destructiveReconfiguration + w.mutationCount +
    min w.mutationCount w.locality + min w.reconfigurationCost 0 * longestDowntime +
    min w.liveReconfigurationBonus 0
  downtime : -2 ^ 63 ≤ w.reconfigurationCost * longestDowntime

/-- The weights that a policy may carry: signed 64-bit integers, six of them not negative. -/
structure PlanningWeights.Accepted (w : PlanningWeights) : Prop where
  representable : ∀ weight ∈ w.ranked, FitsInt64 weight
  capacityWaste : 0 ≤ w.capacityWaste
  fragmentation : 0 ≤ w.fragmentation
  destructiveReconfiguration : 0 ≤ w.destructiveReconfiguration
  mutationCount : 0 ≤ w.mutationCount
  health : 0 ≤ w.health
  futureOptionality : 0 ≤ w.futureOptionality

end Range

section Sufficiency

variable {w : PlanningWeights} {raws : List ℤ}

/-- What the weights make of the raw terms of a candidate fits. -/
structure TermsFit (w : PlanningWeights) (raws : List ℤ) : Prop where
  terms : ∀ raw ∈ raws, FitsInt64 raw
  contributions : ∀ x ∈ w.contributions raws, FitsInt64 x
  totals : ∀ total ∈ runningTotals (w.contributions raws), FitsInt64 total

lemma attainable_fits (h : Attainable raws) : ∀ raw ∈ raws, FitsInt64 raw := by
  unfold FitsInt64
  cases h with
  | now hwaste hstranded hcount hhealth hlocality hoptionality =>
      unfold fullWaste at hwaste
      simp only [List.forall_mem_cons, List.not_mem_nil, false_implies, implies_true, and_true]
      omega
  | drained hcount hhealth hlocality =>
      simp only [List.forall_mem_cons, List.not_mem_nil, false_implies, implies_true, and_true]
      omega
  | reconfigured hcount hestimate hhealth hlocality hdowntime hlive =>
      unfold longestDowntime at hdowntime
      simp only [List.forall_mem_cons, List.not_mem_nil, false_implies, implies_true, and_true]
      omega

lemma mul_bounds {weight raw b c : ℤ} (hweight : 0 ≤ weight) (hraw : b ≤ raw ∧ raw ≤ c) :
    weight * b ≤ weight * raw ∧ weight * raw ≤ weight * c :=
  ⟨mul_le_mul_of_nonneg_left hraw.1 hweight, mul_le_mul_of_nonneg_left hraw.2 hweight⟩

lemma mul_bounds_signed (weight : ℤ) {raw c : ℤ} (hraw : 0 ≤ raw ∧ raw ≤ c) :
    min weight 0 * c ≤ weight * raw ∧ weight * raw ≤ max weight 0 * c := by
  rcases le_total 0 weight with hsign | hsign
  · rw [min_eq_right hsign, max_eq_left hsign, zero_mul]
    exact ⟨mul_nonneg hsign hraw.1, mul_le_mul_of_nonneg_left hraw.2 hsign⟩
  · rw [min_eq_left hsign, max_eq_right hsign, zero_mul]
    exact ⟨mul_le_mul_of_nonpos_left hraw.2 hsign, mul_nonpos_of_nonpos_of_nonneg hsign hraw.1⟩

/-- Everything adds up along the ranking, term by term. -/
lemma forall_runningTotals_cons {P : ℤ → Prop} {x : ℤ} {rest : List ℤ} (start : ℤ) :
    (∀ total ∈ (x :: rest).scanl (· + ·) start, P total) ↔
      P start ∧ ∀ total ∈ rest.scanl (· + ·) (start + x), P total := by
  rw [List.scanl_cons, List.forall_mem_cons]

lemma forall_runningTotals_nil {P : ℤ → Prop} (start : ℤ) :
    (∀ total ∈ ([] : List ℤ).scanl (· + ·) start, P total) ↔ P start := by
  rw [List.scanl_nil, List.forall_mem_singleton]

/-- A request that fits now: waste and count exclude each other, and so do room and its lack. -/
lemma fits_now (hw : w.Accepted) (hmoderate : Moderate w)
    {waste stranded count health locality optionality : ℤ}
    (hwaste : 0 ≤ waste ∧ waste + count / 2 ^ 30 ≤ fullWaste)
    (hstranded : 0 ≤ stranded ∧ stranded ≤ 1) (hcount : 1 ≤ count ∧ count < 2 ^ 32)
    (hhealth : 0 ≤ health ∧ health ≤ 4) (hlocality : locality = 0 ∨ locality = 1)
    (hoptionality : 0 ≤ optionality ∧ optionality < 2 ^ 32 ∧ optionality / 2 ^ 30 ≤ waste) :
    (∀ x ∈ w.contributions [waste, stranded, 0, 0, count, health, locality, -optionality, 0, 0],
        FitsInt64 x) ∧
      ∀ total ∈ runningTotals (w.contributions
        [waste, stranded, 0, 0, count, health, locality, -optionality, 0, 0]),
        FitsInt64 total := by
  have hmost := hmoderate.now (count / 2 ^ 30) (by omega) (by omega)
  have hleast := hmoderate.remaining (optionality / 2 ^ 30) (by omega) (by omega)
  have hfull := hmoderate.optionality
  have h₁ := mul_bounds (b := optionality / 2 ^ 30) hw.capacityWaste
    ⟨hoptionality.2.2, show waste ≤ fullWaste - count / 2 ^ 30 by omega⟩
  have h₂ := mul_bounds hw.fragmentation hstranded
  have h₅ := mul_bounds (c := (count / 2 ^ 30 + 1) * 2 ^ 30 - 1) hw.mutationCount
    ⟨hcount.1, by omega⟩
  have h₆ := mul_bounds hw.health hhealth
  have h₈ := mul_bounds (c := (optionality / 2 ^ 30 + 1) * 2 ^ 30 - 1) hw.futureOptionality
    ⟨hoptionality.1, by omega⟩
  have h₈' := mul_bounds (c := 2 ^ 32 - 1) hw.futureOptionality
    ⟨hoptionality.1, by omega⟩
  have h₁' := mul_nonneg hw.capacityWaste hwaste.1
  have hcharge := hw.mutationCount
  have hrep := hw.representable
  simp only [PlanningWeights.ranked, PlanningWeights.contributions, runningTotals,
    List.zipWith_cons_cons, List.zipWith_nil_right, List.forall_mem_cons, List.not_mem_nil,
    false_implies, implies_true, and_true, forall_runningTotals_cons, forall_runningTotals_nil,
    FitsInt64, mul_zero, mul_one, mul_neg] at hrep h₂ h₅ h₈ h₈' ⊢
  rcases hlocality with rfl | rfl
  · simp only [mul_zero]
    omega
  · simp only [mul_one]
    omega

/-- A request that waits for a drain leaves nothing to rank by capacity. -/
lemma fits_drained (hw : w.Accepted) (hmoderate : Moderate w) {count health locality : ℤ}
    (hcount : 1 ≤ count ∧ count < 2 ^ 32) (hhealth : 0 ≤ health ∧ health ≤ 4)
    (hlocality : locality = 0 ∨ locality = 1) :
    (∀ x ∈ w.contributions [0, 0, 0, 1, count, health, locality, 0, 0, 0], FitsInt64 x) ∧
      ∀ total ∈ runningTotals (w.contributions [0, 0, 0, 1, count, health, locality, 0, 0, 0]),
        FitsInt64 total := by
  have hmost := hmoderate.drained
  have hleast := hmoderate.drainedLeast
  -- the drain weight may be negative, so what it is added to is bounded by the other disruption
  have hcharge := hmoderate.reconfigured
  have hdestructive := hw.destructiveReconfiguration
  have hdowntime : 0 ≤ max w.reconfigurationCost 0 * longestDowntime :=
    mul_nonneg (le_max_right _ _) (Int.natCast_nonneg _)
  have h₅ := mul_bounds (c := 2 ^ 32 - 1) hw.mutationCount ⟨hcount.1, by omega⟩
  have h₆ := mul_bounds hw.health hhealth
  have hpositive := hw.mutationCount
  have hrep := hw.representable
  simp only [PlanningWeights.ranked, PlanningWeights.contributions, runningTotals,
    List.zipWith_cons_cons, List.zipWith_nil_right, List.forall_mem_cons, List.not_mem_nil,
    false_implies, implies_true, and_true, forall_runningTotals_cons, forall_runningTotals_nil,
    FitsInt64, mul_zero, mul_one] at hrep h₅ h₆ ⊢
  rcases hlocality with rfl | rfl
  · simp only [mul_zero]
    omega
  · simp only [mul_one]
    omega

/-- A request that reconfigures pays for the estimated mutations and the downtime. -/
lemma fits_reconfigured (hw : w.Accepted) (hmoderate : Moderate w)
    {count estimate health locality downtime live : ℤ}
    (hcount : 1 ≤ count ∧ count < 2 ^ 32) (hestimate : 0 ≤ estimate ∧ estimate < 2 ^ 32)
    (hhealth : 0 ≤ health ∧ health ≤ 4)
    (hlocality : locality = 0 ∧ estimate = count ∨ locality = 1)
    (hdowntime : 0 ≤ downtime ∧ downtime ≤ longestDowntime) (hlive : live = 0 ∨ live = 1) :
    (∀ x ∈ w.contributions
        [0, 0, 1, 0, count + estimate, health, locality, 0, downtime, live], FitsInt64 x) ∧
      ∀ total ∈ runningTotals (w.contributions
        [0, 0, 1, 0, count + estimate, health, locality, 0, downtime, live]),
        FitsInt64 total := by
  have hmost := hmoderate.reconfigured
  have hleast := hmoderate.reconfiguredLeast
  have hslow := hmoderate.downtime
  have hpositive := hw.mutationCount
  have hdestructive := hw.destructiveReconfiguration
  have h₆ := mul_bounds hw.health hhealth
  have h₉ := mul_bounds_signed w.reconfigurationCost hdowntime
  have hlongest : 0 ≤ max w.reconfigurationCost 0 * longestDowntime :=
    mul_nonneg (le_max_right _ _) (Int.natCast_nonneg _)
  have hcost : -2 ^ 63 ≤ w.reconfigurationCost * downtime := by
    rcases le_total 0 w.reconfigurationCost with hsign | hsign
    · have hnonneg := mul_nonneg hsign hdowntime.1
      omega
    · rw [min_eq_left hsign] at h₉
      omega
  -- without partitions to drain every instance is counted twice
  have h₅ : w.mutationCount + (if locality = 0 then w.mutationCount else 0) ≤
      w.mutationCount * (count + estimate) ∧
      w.mutationCount * (count + estimate) ≤ w.mutationCount * (2 ^ 33 - 2) := by
    have hbounds := mul_bounds (b := 1) (c := 2 ^ 33 - 2) hw.mutationCount
      ⟨show 1 ≤ count + estimate by omega, by omega⟩
    rcases hlocality with ⟨hlocal, hsame⟩ | hremote
    · have htwice := mul_le_mul_of_nonneg_left (show 2 ≤ count + estimate by omega)
        hw.mutationCount
      rw [if_pos hlocal]
      exact ⟨by omega, hbounds.2⟩
    · rw [if_neg (by omega)]
      exact ⟨by omega, hbounds.2⟩
  have hrep := hw.representable
  simp only [PlanningWeights.ranked, PlanningWeights.contributions, runningTotals,
    List.zipWith_cons_cons, List.zipWith_nil_right, List.forall_mem_cons, List.not_mem_nil,
    false_implies, implies_true, and_true, forall_runningTotals_cons, forall_runningTotals_nil,
    FitsInt64, mul_zero, mul_one] at hrep h₆ ⊢
  rcases hlocality with ⟨rfl, -⟩ | rfl
  · rw [if_pos rfl] at h₅
    rcases hlive with rfl | rfl <;> simp only [mul_zero, mul_one] <;> omega
  · rw [if_neg one_ne_zero] at h₅
    rcases hlive with rfl | rfl <;> simp only [mul_zero, mul_one] <;> omega

/-- Under moderate weights no candidate overflows. -/
theorem fits_of_moderate (hw : w.Accepted) (hmoderate : Moderate w) (h : Attainable raws) :
    TermsFit w raws := by
  have hterms := attainable_fits h
  cases h with
  | now hwaste hstranded hcount hhealth hlocality hoptionality =>
      obtain ⟨hcontributions, htotals⟩ :=
        fits_now hw hmoderate hwaste hstranded hcount hhealth hlocality hoptionality
      exact ⟨hterms, hcontributions, htotals⟩
  | drained hcount hhealth hlocality =>
      obtain ⟨hcontributions, htotals⟩ := fits_drained hw hmoderate hcount hhealth hlocality
      exact ⟨hterms, hcontributions, htotals⟩
  | reconfigured hcount hestimate hhealth hlocality hdowntime hlive =>
      obtain ⟨hcontributions, htotals⟩ :=
        fits_reconfigured hw hmoderate hcount hestimate hhealth hlocality hdowntime hlive
      exact ⟨hterms, hcontributions, htotals⟩

end Sufficiency

section Candidates

variable {s : FabricState} {request : PartitionRequest} {profile : PartitionProfile}
  {now : UInt64} {a : AcceleratorRecord} {outcome : PlanOutcome} {w : PlanningWeights}

lemma scoreTerms_contributions :
    (scoreTerms s a request profile (deviceReport s request a) outcome).map
        PlanScoreTerm.contribution =
      s.policy.weights.contributions (rawTerms s request profile a outcome) := rfl

/-- The score of a candidate fits when the weights make its raw terms fit. -/
lemma scoreFits_iff (total : ℤ) :
    ScoreFits ⟨total, scoreTerms s a request profile (deviceReport s request a) outcome⟩ ↔
      TermsFit s.policy.weights (rawTerms s request profile a outcome) := by
  constructor
  · intro h
    refine ⟨?_, ?_, ?_⟩
    · intro raw hraw
      obtain ⟨term, hterm, rfl⟩ := List.mem_map.mp hraw
      exact h.raws term hterm
    · intro x hx
      rw [← scoreTerms_contributions] at hx
      obtain ⟨term, hterm, rfl⟩ := List.mem_map.mp hx
      exact h.contributions term hterm
    · exact h.totals
  · intro h
    refine ⟨?_, ?_, h.totals⟩
    · intro term hterm
      exact h.terms _ (List.mem_map_of_mem hterm)
    · intro term hterm
      exact h.contributions _ (List.mem_map_of_mem hterm)

/-- A candidate that is not eligible has no score. -/
lemma score_of_ineligible (h : (evaluateCandidate s request profile now a).eligible = false) :
    (evaluateCandidate s request profile now a).score = {} := by
  revert h
  unfold evaluateCandidate
  split
  · exact fun _ ↦ rfl
  · split
    · exact fun _ ↦ rfl
    · simp only
      split
      · split
        · exact fun h ↦ by cases h
        · exact fun _ ↦ rfl
      · exact fun _ ↦ rfl

/-- The candidates of a plan are the devices, evaluated for a valid request of a known profile. -/
lemma mem_candidates {c : CandidateEvaluation} :
    c ∈ (buildPlan s request now).candidates ↔ request.validate s.limits = success ∧
      ∃ profile, s.findProfile request.profile = some profile ∧
        c ∈ candidatesFor s request profile now := by
  unfold buildPlan candidatesFor
  cases hvalid : request.validate s.limits with
  | error e => simp [success]
  | ok u =>
      cases hprofile : s.findProfile request.profile with
      | none => simp
      | some profile =>
          simp only [success, true_and, Option.some.injEq, exists_eq_left']
          split <;> rfl

/-- The other weights of a policy that a state is planned under. -/
def FabricState.weighing (s : FabricState) (w : PlanningWeights) : FabricState :=
  { s with policy := { s.policy with weights := w } }

lemma multiplicityCap_weighing (same used : UInt32) :
    multiplicityCap (s.weighing w) a profile same used = multiplicityCap s a profile same used :=
  rfl

lemma anyProfileFits_weighing (slots : UInt32) (pool : ResourceVector) :
    anyProfileFits (s.weighing w) a slots pool = anyProfileFits s a slots pool := rfl

lemma usedSlices_weighing (id : AcceleratorId) (compute : Bool) :
    usedSlices (s.weighing w) id compute = usedSlices s id compute := rfl

/-- The analysis does not read the weights. -/
lemma deviceReport_weighing : deviceReport (s.weighing w) request a = deviceReport s request a := by
  have hledger : (s.weighing w).findLedger a.id = s.findLedger a.id := rfl
  have hprofile : (s.weighing w).findProfile request.profile = s.findProfile request.profile := rfl
  have hpartitions : (s.weighing w).partitionsOf a.id = s.partitionsOf a.id := rfl
  have hcount (states : List PartitionState) :
      (s.weighing w).countPartitionsInStates a.id states =
        s.countPartitionsInStates a.id states := rfl
  have hresident (id : PartitionProfileId) :
      residentInstances (s.weighing w) a.id id = residentInstances s a.id id := rfl
  have hconflict (profile : PartitionProfile) :
      profileConflictsWithResident (s.weighing w) a.id profile =
        profileConflictsWithResident s a.id profile := rfl
  unfold deviceReport analyzeFragmentation
  simp only [hledger, hprofile, hpartitions, hcount, hresident, hconflict,
    multiplicityCap_weighing, anyProfileFits_weighing, usedSlices_weighing]

/-- The raw terms do not depend on the weights. -/
lemma rawTerms_weighing :
    rawTerms (s.weighing w) request profile a outcome = rawTerms s request profile a outcome := by
  have hprofile (id : PartitionProfileId) :
      (s.weighing w).findProfile id = s.findProfile id := rfl
  have hproject : projectedCapacity (s.weighing w) a request profile =
      projectedCapacity s a request profile := rfl
  have hresident (id : PartitionProfileId) :
      residentInstances (s.weighing w) a.id id = residentInstances s a.id id := rfl
  unfold rawTerms scoreTerms
  simp only [List.map_cons, List.map_nil, deviceReport_weighing, hprofile, hproject, hresident,
    anyProfileFits_weighing]

/-- Whether a device serves a request does not depend on the weights. -/
lemma serves_weighing (h : ServedBy s request profile now a outcome) :
    ServedBy (s.weighing w) request profile now a outcome :=
  ⟨⟨h.constraints.admitted, h.constraints.backend, h.constraints.vendor, h.constraints.family,
      h.constraints.locality, h.constraints.observed, h.constraints.fresh,
      h.constraints.governable, h.constraints.known, h.constraints.supported,
      h.constraints.published, h.constraints.profileBackend, h.constraints.isolation,
      h.constraints.healthy⟩, h.ledger, by rw [deviceReport_weighing]; exact h.permitted⟩

/-- Under weights that fit every score, those of a serving device fit. -/
lemma termsFit_of_serves (hfit : ScoresFit w) (hpolicy : (s.weighing w).policy.validate = .ok ())
    (hvalid : request.validate s.limits = success)
    (hprofile : s.findProfile request.profile = some profile) {key : AcceleratorId}
    (ha : s.accelerators.find? key = some a) (h : ServedBy s request profile now a outcome) :
    TermsFit w (rawTerms s request profile a outcome) := by
  have hscore := hfit (s.weighing w) request now rfl hpolicy
    (evaluateCandidate (s.weighing w) request profile now a)
    (mem_candidates.mpr ⟨hvalid, profile, hprofile, mem_candidatesFor.mpr ⟨key, a, ha, rfl⟩⟩)
  rw [evaluateCandidate_of_serves (serves_weighing h), scoreFits_iff, rawTerms_weighing] at hscore
  exact hscore

/-- Under moderate weights no plan overflows. -/
theorem scoresFit_of_moderate (hw : w.Accepted) (hmoderate : Moderate w) : ScoresFit w := by
  rintro s request now rfl - c hc
  obtain ⟨hvalid, profile, hprofile, hc⟩ := mem_candidates.mp hc
  obtain ⟨key, a, -, rfl⟩ := mem_candidatesFor.mp hc
  cases hel : (evaluateCandidate s request profile now a).eligible with
  | false =>
      rw [score_of_ineligible hel]
      exact ⟨fun term hterm ↦ absurd hterm List.not_mem_nil,
        fun term hterm ↦ absurd hterm List.not_mem_nil, by decide⟩
  | true =>
      have hserves := eligible_iff_serves.mp hel
      rw [evaluateCandidate_of_serves hserves, scoreFits_iff]
      refine fits_of_moderate hw hmoderate (attainable_of_serves hprofile
        (count_ne_zero_of_validate hvalid) (fun ledger _ d hd ↦ ?_) hserves)
      have hshare := (ResourceVector.validateDimensions_eq_ok.mp (ledger.validBuckets .free)).2 d
      cases hhas : (ledger.bucket .free).has d with
      | false =>
          rw [ResourceVector.amount_of_not_has hhas]
          exact Nat.zero_le _
      | true =>
          rw [ResourceVector.amount_of_has hhas]
          exact UInt64.le_iff_toNat_le.mp (hshare hhas hd)

end Candidates

section Necessity

/-- A capacity of memory alone. -/
def memoryOf (n : UInt64) : ResourceVector :=
  ⟨fun d ↦ if d = .memoryBytes then n else 0, ResourceDimension.memoryBytes.bit⟩

lemma memoryOf_valid (n : UInt64) : (memoryOf n).validateDimensions = .ok () := by
  rw [ResourceVector.validateDimensions_eq_ok]
  have hmask : ResourceDimension.memoryBytes.bit &&& ~~~validDimensionMask = 0 := by decide
  refine ⟨hmask, fun d _ hd ↦ ?_⟩
  have hother : d ≠ .memoryBytes := fun h ↦ by
    rw [h] at hd
    cases hd
  change (if d = .memoryBytes then n else 0) ≤ shareScale
  rw [if_neg hother]
  decide

/-- The largest capacity that a vector can hold. -/
def wholeDevice : ResourceVector :=
  ⟨fun d ↦ if d.isShareDimension then shareScale else uint64Max, validDimensionMask⟩

lemma wholeDevice_valid : wholeDevice.validateDimensions = .ok () := by
  rw [ResourceVector.validateDimensions_eq_ok]
  have hmask : validDimensionMask &&& ~~~validDimensionMask = 0 := by decide
  refine ⟨hmask, fun d _ hd ↦ ?_⟩
  change (if d.isShareDimension then shareScale else uint64Max) ≤ shareScale
  rw [if_pos hd]

/-- A ledger whose whole capacity is in one bucket. -/
def heldIn (b : CapacityBucket) (v : ResourceVector) (hv : v.validateDimensions = success) :
    CapacityLedger where
  buckets other := if other = b then v else { v with values := fun _ ↦ 0 }
  total := v
  validBuckets other := by
    split
    · exact hv
    · rw [success, ResourceVector.validateDimensions_eq_ok] at hv ⊢
      exact ⟨hv.1, fun d _ _ ↦ UInt64.zero_le⟩
  validTotal := hv

/-- A ledger whose memory is all in one bucket. -/
def memoryIn (b : CapacityBucket) (n : UInt64) : CapacityLedger :=
  heldIn b (memoryOf n) (memoryOf_valid n)

/-- A profile of a single byte. -/
def byteProfile : PartitionProfile := { id := 1, resources := memoryOf 1 }

/-- A device that offers the profile of a single byte. -/
def byteDevice (slots : UInt32) (health : HealthState) (downtime : UInt64) : AcceleratorRecord :=
  { id := 1
    generation := 1
    physicalTotals := memoryOf 1
    capability :=
      { generation := 1
        support := .supported
        supportedProfiles := [1]
        maxPartitionCount := slots
        liveReconfigurationSupported := true
        reconfigurationEstimateMs := downtime }
    locality := { name := "rack" }
    health := { state := health }
    evidence := { generation := 1, observed := true } }

/-- A fabric of one device, under a policy that permits every disruption. -/
def stage (ledger : CapacityLedger) (a : AcceleratorRecord)
    (records : KeyedMap PartitionId PartitionRecord) : FabricState :=
  { limits := { maxPartitionsPerAccelerator := 2 ^ 32, maxPartitions := 2 ^ 32 }
    policy := { allowDestructiveReconfiguration := true, requireFreshEvidence := false }
    accelerators := (∅ : KeyedMap AcceleratorId AcceleratorRecord).insert 1 a
    ledgers := (∅ : KeyedMap AcceleratorId CapacityLedger).insert 1 ledger
    profiles := (∅ : KeyedMap PartitionProfileId PartitionProfile).insert 1 byteProfile
    partitions := records }

/-- A request for some instances of the profile of a single byte. -/
def byteRequest (count : UInt32) : PartitionRequest :=
  { profile := 1, count := count, allowDestructiveReconfiguration := true }

/-- A partition that is planned on the device and keeps the request local. -/
def planned : KeyedMap PartitionId PartitionRecord :=
  (∅ : KeyedMap PartitionId PartitionRecord).insert 1
    { id := 1, accelerator := 1, profile := 1, state := .planPending }

/-- The device serves the request and has these raw terms. -/
def ServesWith (ledger : CapacityLedger) (a : AcceleratorRecord)
    (records : KeyedMap PartitionId PartitionRecord) (count : UInt32) (outcome : PlanOutcome)
    (raws : List ℤ) : Prop :=
  (byteRequest count).validate (stage ledger a records).limits = success ∧
    hardRejection (stage ledger a records) (byteRequest count) byteProfile a 0 = none ∧
    permittedOutcome (stage ledger a records) (byteRequest count)
      (deviceReport (stage ledger a records) (byteRequest count) a) = (outcome, true) ∧
    rawTerms (stage ledger a records) (byteRequest count) byteProfile a outcome = raws

instance (ledger : CapacityLedger) (a : AcceleratorRecord)
    (records : KeyedMap PartitionId PartitionRecord) (count : UInt32) (outcome : PlanOutcome)
    (raws : List ℤ) : Decidable (ServesWith ledger a records count outcome raws) :=
  inferInstanceAs (Decidable (_ ∧ _ ∧ _ ∧ _))

/-- The whole device is free: much waste, many instances, and no slot left for a further one. -/
lemma serves_full : ∀ j : Fin 4,
    ServesWith (heldIn .free wholeDevice wholeDevice_valid)
      (byteDevice (UInt32.ofNat ((j + 1) * 2 ^ 30 - 1)) .unhealthy 0) ∅
      (UInt32.ofNat ((j + 1) * 2 ^ 30 - 1)) .feasibleNow
      [fullWaste - (j : ℕ), 1, 0, 0, (((j : ℕ) : ℤ) + 1) * 2 ^ 30 - 1, 4, 1, -(2 ^ 32 - 1), 0, 0] := by
  decide +kernel

/-- A little memory is free: little waste and much room. -/
lemma serves_spare : ∀ (k : Fin 4) (near : Bool),
    ServesWith (memoryIn .free (UInt64.ofNat ((k + 1) * 2 ^ 30))) (byteDevice 8 .healthy 0)
      (if near then planned else ∅) 1 .feasibleNow
      [(k : ℕ), 0, 0, 0, 1, 0, if near then 0 else 1, -((((k : ℕ) : ℤ) + 1) * 2 ^ 30 - 1), 0, 0] := by
  decide +kernel

/-- The memory is to be drained. -/
lemma serves_draining :
    ServesWith (memoryIn .draining 4294967295) (byteDevice 4294967295 .unhealthy 0) ∅
        4294967295 .feasibleAfterDrain [0, 0, 0, 1, 4294967295, 4, 1, 0, 0, 0] ∧
      ServesWith (memoryIn .draining 4294967295) (byteDevice 4294967295 .healthy 0) ∅ 1
        .feasibleAfterDrain [0, 0, 0, 1, 1, 0, 1, 0, 0, 0] := by
  decide +kernel

/-- The memory is in use. -/
lemma serves_busy : ∀ near slow : Bool,
    ServesWith (memoryIn .active 4294967295)
        (byteDevice 4294967295 .unhealthy (if slow then uint64Max else 0))
        (if near then planned else ∅) 4294967295 .feasibleAfterReconfiguration
        [0, 0, 1, 0, 8589934590, 4, if near then 0 else 1, 0, if slow then longestDowntime else 0,
          1] ∧
      ServesWith (memoryIn .active 4294967295)
        (byteDevice 4294967295 .healthy (if slow then uint64Max else 0))
        (if near then planned else ∅) 1 .feasibleAfterReconfiguration
        [0, 0, 1, 0, 2, 0, if near then 0 else 1, 0, if slow then longestDowntime else 0, 1] := by
  decide +kernel

/-- One reserved partition of the device and a number of active ones. -/
def crowdEntries (n : ℕ) : List (PartitionId × PartitionRecord) :=
  (0, { accelerator := 1, profile := 1, state := .reserved }) ::
    (List.range n).map fun i ↦
      (UInt64.ofNat (i + 1), { accelerator := 1, profile := 1, state := .active })

lemma crowdEntries_sorted {n : ℕ} (h : n < 2 ^ 64) :
    (crowdEntries n).Pairwise fun p q ↦ p.1 < q.1 := by
  have hkey {i : ℕ} (hi : i < n) : (UInt64.ofNat (i + 1)).toNat = i + 1 :=
    Nat.mod_eq_of_lt (by omega)
  unfold crowdEntries
  rw [List.pairwise_cons, List.pairwise_map]
  constructor
  · intro e he
    obtain ⟨i, hi, rfl⟩ := List.mem_map.mp he
    rw [UInt64.lt_iff_toNat_lt, hkey (List.mem_range.mp hi)]
    exact Nat.succ_pos i
  · refine List.pairwise_lt_range.imp_of_mem fun hi hj hlt ↦ ?_
    rw [UInt64.lt_iff_toNat_lt, hkey (List.mem_range.mp hi), hkey (List.mem_range.mp hj)]
    omega

lemma crowdEntries_values (n : ℕ) : (crowdEntries n).map Prod.snd =
    { accelerator := 1, profile := 1, state := .reserved } ::
      List.replicate n { accelerator := 1, profile := 1, state := .active } := by
  unfold crowdEntries
  rw [List.map_cons, List.map_map, List.cons.injEq, List.eq_replicate_iff, List.length_map,
    List.length_range]
  refine ⟨rfl, rfl, fun r hr ↦ ?_⟩
  obtain ⟨i, -, rfl⟩ := List.mem_map.mp hr
  rfl

/-- As many partitions as a 32-bit counter takes for none. -/
def crowd : KeyedMap PartitionId PartitionRecord :=
  ⟨crowdEntries (2 ^ 32 - 1), crowdEntries_sorted (by norm_num)⟩

variable {ledger : CapacityLedger} {a : AcceleratorRecord}

lemma partitionsOf_crowd : (stage ledger a crowd).partitionsOf 1 =
    { accelerator := 1, profile := 1, state := .reserved } ::
      List.replicate (2 ^ 32 - 1) { accelerator := 1, profile := 1, state := .active } := by
  have hvalues : (stage ledger a crowd).partitions.values =
      (crowdEntries (2 ^ 32 - 1)).map Prod.snd := rfl
  unfold FabricState.partitionsOf
  rw [hvalues, crowdEntries_values, List.filter_cons_of_pos (by decide), List.filter_replicate,
    if_pos (by decide)]

lemma slotsUsed_crowd (ha : a.id = 1) : slotsUsed (stage ledger a crowd) a = 0 := by
  unfold slotsUsed FabricState.countPartitionsInStates
  rw [ha, partitionsOf_crowd, List.countP_cons_of_pos (by decide), List.countP_replicate,
    if_pos (by decide)]
  decide

lemma drainable_crowd (ha : a.id = 1) :
    (drainable (stage ledger a crowd) a).length = 2 ^ 32 - 1 := by
  unfold drainable
  rw [ha, partitionsOf_crowd, List.filter_cons_of_neg (by decide), List.filter_replicate,
    if_pos (by decide), List.length_map, List.length_replicate]

lemma conflicts_crowd (ha : a.id = 1) :
    profileConflictsWithResident (stage ledger a crowd) a.id byteProfile = false := by
  unfold profileConflictsWithResident
  rw [ha, partitionsOf_crowd, List.any_eq_false]
  intro r hr
  rcases List.mem_cons.mp hr with rfl | hr
  · simp [byteProfile]
  · rw [List.eq_of_mem_replicate hr]
    simp [byteProfile]

/-- What the analysis needs of a device whose memory is in use. -/
lemma busy_needs : ∃ needed, multiplyResource (memoryOf 1) 1 = .ok needed ∧
    needed.isSubsetOf ((memoryIn .active 1).bucket .free) = false ∧
    drainHelps (memoryIn .active 1) needed = false ∧
    capacityObstacle (memoryIn .active 1) needed = .trappedBehindActive := by
  have hany : (multiplyResource (memoryOf 1) 1).toOption.any (fun needed ↦
      !needed.isSubsetOf ((memoryIn .active 1).bucket .free) &&
        !drainHelps (memoryIn .active 1) needed &&
        decide (capacityObstacle (memoryIn .active 1) needed = .trappedBehindActive)) =
      true := by decide +kernel
  cases hneeded : multiplyResource (memoryOf 1) 1 with
  | error e =>
      rw [hneeded] at hany
      cases hany
  | ok needed =>
      rw [hneeded] at hany
      simp only [Except.toOption, Option.any_some, Bool.and_eq_true, Bool.not_eq_true',
        decide_eq_true_eq] at hany
      exact ⟨needed, rfl, hany.1.1, hany.1.2, hany.2⟩

/-- The device of the crowd, whose only slot counts as free. -/
def crowdedDevice (downtime : UInt64) : AcceleratorRecord := byteDevice 1 .healthy downtime

def crowded (downtime : UInt64) : FabricState :=
  stage (memoryIn .active 1) (crowdedDevice downtime) crowd

/-- Nothing fits the crowded device now, but a reconfiguration would help. -/
lemma deviceReport_crowded (downtime : UInt64) :
    (deviceReport (crowded downtime) (byteRequest 1) (crowdedDevice downtime)).feasibleNow =
        false ∧
      (deviceReport (crowded downtime) (byteRequest 1)
        (crowdedDevice downtime)).feasibleAfterDrain = false ∧
      (deviceReport (crowded downtime) (byteRequest 1)
        (crowdedDevice downtime)).reconfigurationCanHelp = true := by
  obtain ⟨needed, hneeded, hlacks, hdrainHelps, hobstacle⟩ := busy_needs
  have hprofile : (crowded downtime).findProfile (byteRequest 1).profile = some byteProfile := rfl
  have hroom : ¬ roomFor (crowded downtime) (crowdedDevice downtime)
      (memoryIn .active 1) byteProfile ≥ (byteRequest 1).count := by
    intro h
    rcases le_roomFor.mp (UInt32.le_iff_toNat_le.mp h) with hzero | ⟨-, hfits⟩
    · exact absurd hzero (by decide)
    · exact absurd (hfits.free .memoryBytes) (by decide +kernel)
  have hslots : ¬ room (crowdedDevice downtime).capability.maxPartitionCount
      (slotsUsed (crowded downtime) (crowdedDevice downtime)) < (byteRequest 1).count := by
    rw [crowded, slotsUsed_crowd rfl]
    exact (by decide : ¬ room 1 0 < 1)
  have hconflict : profileConflictsWithResident (crowded downtime) (crowdedDevice downtime).id
      byteProfile = false := conflicts_crowd rfl
  have hseeks : seeksRecovery (crowded downtime) (crowdedDevice downtime)
      (memoryIn .active 1) byteProfile (byteRequest 1).count needed = true := by
    unfold seeksRecovery
    rw [hconflict, hlacks, decide_eq_false hroom, decide_eq_false hslots]
    rfl
  have hreport : deviceReport (crowded downtime) (byteRequest 1) (crowdedDevice downtime) =
      analyzeFragmentation (crowded downtime) (crowdedDevice downtime)
        (memoryIn .active 1) (byteRequest 1) := rfl
  rw [hreport, (analyzeFragmentation_now hprofile hneeded).2,
    (analyzeFragmentation_recovers hprofile hneeded).1,
    (analyzeFragmentation_recovers hprofile hneeded).2, hseeks, hdrainHelps, hobstacle,
    decide_eq_false hroom, Bool.and_false]
  exact ⟨rfl, rfl, rfl⟩

/-- The memory is in use by so many partitions that the estimated mutations wrap to none. -/
lemma serves_crowded (downtime : UInt64) :
    ServesWith (memoryIn .active 1) (crowdedDevice downtime) crowd 1
      .feasibleAfterReconfiguration
      [0, 0, 1, 0, 1, 0, 1, 0, (downtime.toNat / 1000 : ℕ), 1] := by
  obtain ⟨hnow, hdrain, hhelp⟩ := deviceReport_crowded downtime
  have hprofile : (crowded downtime).findProfile (byteRequest 1).profile = some byteProfile := rfl
  have hledger : (crowded downtime).findLedger (crowdedDevice downtime).id =
      some (memoryIn .active 1) := rfl
  have hcount : (drainable (crowded downtime) (crowdedDevice downtime)).length = 2 ^ 32 - 1 :=
    drainable_crowd rfl
  obtain ⟨htoDrain, hmutations, hdowntime⟩ := deviceReport_estimates hprofile hledger hhelp
  have hsome : ((drainable (crowded downtime) (crowdedDevice downtime)).insertionSort
      (· ≤ ·)).isEmpty = false := by
    rw [List.isEmpty_eq_false_iff, ← List.length_pos_iff, List.length_insertionSort, hcount]
    norm_num
  have hmutations : (deviceReport (crowded downtime) (byteRequest 1)
      (crowdedDevice downtime)).estimatedPartitionMutations = 0 := by
    rw [hmutations, hcount]
    decide
  have hpassed : hardRejection (crowded 0) (byteRequest 1) byteProfile (crowdedDevice 0) 0 =
      none := by decide +kernel
  refine ⟨rfl, hpassed, ?_, ?_⟩
  · change permittedOutcome (crowded downtime) (byteRequest 1) (deviceReport (crowded downtime)
      (byteRequest 1) (crowdedDevice downtime)) = _
    unfold permittedOutcome
    rw [hnow, hdrain, hhelp]
    rfl
  · change rawTerms (crowded downtime) (byteRequest 1) byteProfile (crowdedDevice downtime) _ = _
    rw [rawTerms_of_lacking (projectedCapacity_of_recoverable hprofile hledger (Or.inr hhelp)),
      htoDrain, hmutations, hdowntime, hsome, Bool.and_false, Bool.false_and]
    rfl

variable {w : PlanningWeights} {records : KeyedMap PartitionId PartitionRecord} {count : UInt32}
  {outcome : PlanOutcome} {raws : List ℤ}

/-- Weights that fit every score fit those of a staged device. -/
lemma ServesWith.fits (h : ServesWith ledger a records count outcome raws) (ha : a.id = 1)
    (hw : w.Accepted) (hfit : ScoresFit w) : TermsFit w raws := by
  obtain ⟨hvalid, hpassed, hpermitted, rfl⟩ := h
  have hfound : (stage ledger a records).findLedger 1 = some ledger :=
    KeyedMap.find?_insert_self _ _ _
  have hpolicy : ((stage ledger a records).weighing w).policy.validate = .ok () := by
    have hsigns : ¬ (w.fragmentation < 0 || w.capacityWaste < 0 || w.mutationCount < 0 ||
        w.health < 0 || w.futureOptionality < 0) = true := by
      simp [hw.capacityWaste, hw.fragmentation, hw.mutationCount, hw.health,
        hw.futureOptionality]
    have hweights : ((stage ledger a records).weighing w).policy.weights = w := rfl
    unfold PlanningPolicy.validate
    rw [hweights, if_neg (of_decide_eq_false rfl), if_neg (of_decide_eq_false rfl),
      if_neg (of_decide_eq_false rfl), if_neg (not_lt.mpr hw.destructiveReconfiguration),
      if_neg hsigns, if_neg (of_decide_eq_false rfl), if_neg (of_decide_eq_false rfl),
      if_neg (of_decide_eq_false rfl)]
    rfl
  have hserved : ServedBy (stage ledger a records) _ _ 0 _ _ :=
    ⟨hardRejection_eq_none.mp hpassed, by rw [ha, hfound]; rfl, hpermitted⟩
  exact termsFit_of_serves hfit hpolicy hvalid (KeyedMap.find?_insert_self _ _ _)
    (KeyedMap.find?_insert_self _ _ _) hserved

/-- Weights under which no score overflows keep requests that fit now small. -/
lemma now_of_scoresFit (hw : w.Accepted) (hfit : ScoresFit w) {j : ℤ} (hj : 0 ≤ j) (hlt : j < 4) :
    w.capacityWaste * (fullWaste - j) + w.fragmentation +
      w.mutationCount * ((j + 1) * 2 ^ 30 - 1) + w.health * 4 + max w.locality 0 < 2 ^ 63 := by
  obtain ⟨n, rfl⟩ := Int.eq_ofNat_of_zero_le hj
  have hserves := serves_full ⟨n, by omega⟩
  have htotals := (hserves.fits rfl hw hfit).totals
  simp only [PlanningWeights.ranked, PlanningWeights.contributions, runningTotals,
    List.zipWith_cons_cons, List.zipWith_nil_right, forall_runningTotals_cons,
    forall_runningTotals_nil, FitsInt64, mul_zero, mul_one] at htotals
  omega

lemma remaining_of_scoresFit (hw : w.Accepted) (hfit : ScoresFit w) {k : ℤ} (hk : 0 ≤ k)
    (hlt : k < 4) : -2 ^ 63 ≤ w.capacityWaste * k + w.mutationCount + min w.locality 0 -
      w.futureOptionality * ((k + 1) * 2 ^ 30 - 1) := by
  obtain ⟨n, rfl⟩ := Int.eq_ofNat_of_zero_le hk
  have hbounds (near : Bool) :=
    ((serves_spare ⟨n, by omega⟩ near).fits rfl hw hfit).totals
  have hnear := hbounds true
  have hfar := hbounds false
  simp only [PlanningWeights.ranked, PlanningWeights.contributions, runningTotals,
    List.zipWith_cons_cons, List.zipWith_nil_right, forall_runningTotals_cons,
    forall_runningTotals_nil, FitsInt64, mul_zero, mul_one, mul_neg, if_true,
    Bool.false_eq_true, if_false] at hnear hfar
  omega

lemma optionality_of_scoresFit (hw : w.Accepted) (hfit : ScoresFit w) :
    w.futureOptionality * (2 ^ 32 - 1) ≤ 2 ^ 63 := by
  have hserves := (serves_spare 3 true).fits rfl hw hfit
  have hcontribution := hserves.contributions (w.futureOptionality * -(2 ^ 32 - 1)) (by
    simp [PlanningWeights.ranked, PlanningWeights.contributions])
  rw [FitsInt64, mul_neg] at hcontribution
  omega

lemma drained_of_scoresFit (hw : w.Accepted) (hfit : ScoresFit w) :
    w.drain + w.mutationCount * (2 ^ 32 - 1) + w.health * 4 + max w.locality 0 < 2 ^ 63 ∧
      -2 ^ 63 ≤ w.drain + w.mutationCount + min w.locality 0 := by
  have hmost := (serves_draining.1.fits rfl hw hfit).totals
  have hleast := (serves_draining.2.fits rfl hw hfit).totals
  simp only [PlanningWeights.ranked, PlanningWeights.contributions, runningTotals,
    List.zipWith_cons_cons, List.zipWith_nil_right, forall_runningTotals_cons,
    forall_runningTotals_nil, FitsInt64, mul_zero, mul_one] at hmost hleast
  omega

lemma reconfigured_of_scoresFit (hw : w.Accepted) (hfit : ScoresFit w) :
    w.destructiveReconfiguration + w.mutationCount * (2 ^ 33 - 2) + w.health * 4 +
        max w.locality 0 + max w.reconfigurationCost 0 * longestDowntime +
        max w.liveReconfigurationBonus 0 < 2 ^ 63 := by
  have hbounds (near slow : Bool) :=
    ((serves_busy near slow).1.fits rfl hw hfit).totals
  have h₁ := hbounds false false
  have h₂ := hbounds false true
  have h₃ := hbounds true false
  have h₄ := hbounds true true
  simp only [PlanningWeights.ranked, PlanningWeights.contributions, runningTotals,
    List.zipWith_cons_cons, List.zipWith_nil_right, forall_runningTotals_cons,
    forall_runningTotals_nil, FitsInt64, mul_zero, mul_one, if_true, Bool.false_eq_true,
    if_false] at h₁ h₂ h₃ h₄
  rcases le_total 0 w.reconfigurationCost with hsign | hsign
  · rw [max_eq_left hsign]
    omega
  · rw [max_eq_right hsign, zero_mul]
    omega

lemma reconfiguredLeast_of_scoresFit (hw : w.Accepted) (hfit : ScoresFit w) :
    -2 ^ 63 ≤ w.destructiveReconfiguration + w.mutationCount + min w.mutationCount w.locality +
        min w.reconfigurationCost 0 * longestDowntime + min w.liveReconfigurationBonus 0 ∧
      -2 ^ 63 ≤ w.reconfigurationCost * longestDowntime := by
  have hbounds (slow : Bool) :=
    (serves_busy true slow).2.fits rfl hw hfit
  have hcrowd (downtime : UInt64) :=
    ((serves_crowded downtime).fits rfl hw hfit).totals
  have h₁ := (hbounds false).totals
  have h₂ := (hbounds true).totals
  have h₃ := hcrowd 0
  have h₄ := hcrowd uint64Max
  have hlongest : uint64Max.toNat / 1000 = longestDowntime := rfl
  have hslow := (hbounds true).contributions (w.reconfigurationCost * longestDowntime) (by
    simp [PlanningWeights.ranked, PlanningWeights.contributions])
  simp only [PlanningWeights.ranked, PlanningWeights.contributions, runningTotals,
    List.zipWith_cons_cons, List.zipWith_nil_right, forall_runningTotals_cons,
    forall_runningTotals_nil, FitsInt64, mul_zero, mul_one, if_true, Bool.false_eq_true,
    if_false, hlongest, UInt64.toNat_zero, Nat.zero_div, Nat.cast_zero] at h₁ h₂ h₃ h₄ hslow
  refine ⟨?_, hslow.1⟩
  rcases le_total 0 w.reconfigurationCost with hsign | hsign
  · rw [min_eq_right hsign, zero_mul]
    omega
  · rw [min_eq_left hsign]
    omega

/-- Weights under which no score overflows are moderate. -/
theorem moderate_of_scoresFit (hw : w.Accepted) (hfit : ScoresFit w) : Moderate w :=
  { now := fun _ ↦ now_of_scoresFit hw hfit
    optionality := optionality_of_scoresFit hw hfit
    remaining := fun _ ↦ remaining_of_scoresFit hw hfit
    drained := (drained_of_scoresFit hw hfit).1
    drainedLeast := (drained_of_scoresFit hw hfit).2
    reconfigured := reconfigured_of_scoresFit hw hfit
    reconfiguredLeast := (reconfiguredLeast_of_scoresFit hw hfit).1
    downtime := (reconfiguredLeast_of_scoresFit hw hfit).2 }

end Necessity

section Exactness

variable {p : PlanningPolicy}

lemma accepted_of_validate (hpolicy : p.validate = .ok ())
    (hrepresentable : ∀ weight ∈ p.weights.ranked, FitsInt64 weight) : p.weights.Accepted := by
  unfold PlanningPolicy.validate at hpolicy
  split_ifs at hpolicy with h₁ h₂ h₃ hdestructive hsigns h₆ h₇ h₈
  all_goals first | exact absurd hpolicy (failure_ne_ok _ _ _ _) | skip
  simp only [Bool.or_eq_true, decide_eq_true_eq, not_or, not_lt] at hsigns
  obtain ⟨⟨⟨⟨hfragmentation, hwaste⟩, hmutations⟩, hhealth⟩, hoptionality⟩ := hsigns
  exact ⟨hrepresentable, hwaste, hfragmentation, not_lt.mp hdestructive, hmutations, hhealth,
    hoptionality⟩

/-- The scores of an accepted policy fit signed 64-bit integers in every state and for every
request exactly when its weights are moderate. -/
theorem scores_fit_iff (hpolicy : p.validate = .ok ())
    (hrepresentable : ∀ weight ∈ p.weights.ranked, FitsInt64 weight) :
    ScoresFit p.weights ↔ Moderate p.weights := by
  have hw := accepted_of_validate hpolicy hrepresentable
  exact ⟨moderate_of_scoresFit hw, scoresFit_of_moderate hw⟩

/-- The shipped weights are moderate. -/
theorem scores_fit_default : ScoresFit (makeDefaultPolicy 1).weights := by
  refine (scores_fit_iff (p := makeDefaultPolicy 1) rfl (by decide)).mpr
    ⟨?_, ?_, ?_, ?_, ?_, ?_, ?_, ?_⟩
  · intro j hj hlt
    interval_cases j <;> decide
  · decide
  · intro k hk hlt
    interval_cases k <;> decide
  · decide
  · decide
  · decide
  · decide
  · decide

namespace Sample

/-- A policy that counts mutations heavily. -/
def heavyPolicy : PlanningPolicy :=
  { makeDefaultPolicy 1 with weights := { mutationCount := 2 ^ 62 } }

/-- One device is registered under the heavy policy. -/
def heavy : List Op := [.setPolicy heavyPolicy, .registerBackendAccelerator device 1]

/-- Two slices on whichever device is best. -/
def pair : PartitionRequest := { profile := Sample.profile.id, count := 2 }

end Sample

/-- Two mutations under an accepted policy overflow the score. -/
theorem scores_overflow : ∃ s, fabric.Reachable anyOp s ∧
    s.policy.validate = .ok () ∧ (∀ weight ∈ s.policy.weights.ranked, FitsInt64 weight) ∧
    ∃ c ∈ (buildPlan s Sample.pair 2).candidates, c.eligible = true ∧ ¬ ScoreFits c.score := by
  let s := fabric.run Sample.heavy Sample.opened
  have hs : fabric.Reachable anyOp s :=
    System.Reachable.run (.initial ⟨_, _, rfl⟩) (by decide)
  have hpolicy : s.policy.validate = .ok () ∧
      ∀ weight ∈ s.policy.weights.ranked, FitsInt64 weight := by decide +kernel
  have hany : (buildPlan s Sample.pair 2).candidates.any (fun c ↦ c.eligible &&
      c.score.terms.any fun term ↦ decide (term.contribution = 2 ^ 63)) = true := by
    decide +kernel
  obtain ⟨c, hc, hany⟩ := List.any_eq_true.mp hany
  obtain ⟨hel, hany⟩ := Bool.and_eq_true_iff.mp hany
  obtain ⟨term, hterm, hlarge⟩ := List.any_eq_true.mp hany
  refine ⟨s, hs, hpolicy.1, hpolicy.2, c, hc, hel, fun h ↦ ?_⟩
  have hfits := (h.contributions term hterm).2
  rw [of_decide_eq_true hlarge] at hfits
  exact lt_irrefl _ hfits

end Exactness

end PartitionFabric

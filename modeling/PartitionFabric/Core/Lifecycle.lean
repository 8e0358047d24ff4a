import PartitionFabric.Core.Accounting
import Mathlib.Logic.Relation

/-!
The lifecycle of a logical partition: its states, the legal transitions and the ledger bucket
that is authoritative in each state.
-/

namespace PartitionFabric

inductive PartitionState where
  | discovered | unpartitioned | planPending | reserved | creating | active | draining
  | reconfigurationRequired | destroying | revalidationRequired | degraded | offline | retired
  | failed
deriving DecidableEq, Repr

namespace PartitionState

def toText : PartitionState → Text
  | discovered => "DISCOVERED"
  | unpartitioned => "UNPARTITIONED"
  | planPending => "PLAN_PENDING"
  | reserved => "RESERVED"
  | creating => "CREATING"
  | active => "ACTIVE"
  | draining => "DRAINING"
  | reconfigurationRequired => "RECONFIGURATION_REQUIRED"
  | destroying => "DESTROYING"
  | revalidationRequired => "REVALIDATION_REQUIRED"
  | degraded => "DEGRADED"
  | offline => "OFFLINE"
  | retired => "RETIRED"
  | failed => "FAILED"

/-- The transition matrix: the states that may follow a state. -/
def transitionTable : PartitionState → List PartitionState
  | discovered => [discovered, unpartitioned, planPending, revalidationRequired, offline, retired,
      failed]
  | unpartitioned => [unpartitioned, discovered, planPending, reserved, revalidationRequired,
      offline, degraded, retired, failed]
  | planPending => [planPending, reserved, unpartitioned, revalidationRequired, failed, offline,
      retired]
  | reserved => [reserved, creating, active, unpartitioned, revalidationRequired, destroying,
      failed, offline, retired]
  -- a creation that the backend refused without applying anything returns to its reservation
  | creating => [active, reserved, failed, revalidationRequired, offline, retired, destroying]
  | active => [active, draining, destroying, reconfigurationRequired, degraded, offline, failed,
      retired, revalidationRequired]
  | draining => [draining, active, destroying, reconfigurationRequired, degraded, offline, failed,
      retired, revalidationRequired]
  | reconfigurationRequired => [reconfigurationRequired, draining, active, destroying,
      revalidationRequired, offline, failed, retired]
  | destroying => [retired, failed, revalidationRequired, offline]
  | revalidationRequired => [revalidationRequired, active, unpartitioned, degraded, draining,
      reconfigurationRequired, destroying, offline, failed, retired]
  | degraded => [degraded, active, draining, destroying, revalidationRequired, offline, failed,
      retired]
  | offline => [offline, revalidationRequired, retired, failed]
  | retired => []
  | failed => [retired]

end PartitionState

open PartitionState

def isTerminalState (state : PartitionState) : Bool := state = .retired || state = .failed

/-- Mid-transaction states, in which repeating a transition is not idempotent. -/
def isTransientState : PartitionState → Bool
  | .planPending | .reserved | .creating | .destroying => true
  | _ => false

def holdsCapacity : PartitionState → Bool
  | .reserved | .creating | .active | .draining | .reconfigurationRequired | .degraded
  | .revalidationRequired | .destroying | .offline => true
  | _ => false

def allowsNewAssignment (state : PartitionState) : Bool := state = .active

def isLiveState : PartitionState → Bool
  | .active | .draining | .degraded | .reconfigurationRequired | .revalidationRequired => true
  | _ => false

def requiresRevalidationAfterRestart (state : PartitionState) : Bool :=
  holdsCapacity state || isLiveState state

def isIdempotentTransition (source target : PartitionState) : Bool :=
  source = target && !isTransientState source

/-- Validates a lifecycle transition. -/
def validateTransition (source target : PartitionState) : Status :=
  if source = target then
    if isIdempotentTransition source target then success
    else failure .invalidTransition "repeating this transition is not idempotent"
      (source.toText ++ (" -> " : Text) ++ target.toText)
  else if isTerminalState source && source ≠ .failed then
    failure .invalidTransition "retired authority can never be resurrected"
      (source.toText ++ (" -> " : Text) ++ target.toText)
  else if target ∉ source.transitionTable then
    failure .invalidTransition "illegal partition lifecycle transition"
      (source.toText ++ (" -> " : Text) ++ target.toText)
  else success

/-- The states that keep whichever bucket already holds the partition's capacity. -/
def stateKeepsCurrentBucket : PartitionState → Bool
  | .revalidationRequired | .offline | .destroying => true
  | _ => false

/-- The bucket that is authoritative for a partition state; none holds no capacity. -/
def bucketForState : PartitionState → Option CapacityBucket
  | .reserved | .creating => some .reserved
  | .active | .degraded => some .active
  | .draining => some .draining
  | .reconfigurationRequired => some .reconfigurationHeld
  | _ => none

/-- One transition that the validation allows. -/
def Allowed (source target : PartitionState) : Prop := validateTransition source target = success

instance (source target : PartitionState) : Decidable (Allowed source target) :=
  decidable_of_iff ((validateTransition source target).isOk = true) <| by
    unfold Allowed
    cases validateTransition source target <;> simp [success, Except.isOk, Except.toBool]

/-- A composition of allowed transitions into states that may be entered. -/
def Legal (enters : PartitionState → Prop) : PartitionState → PartitionState → Prop :=
  Relation.ReflTransGen fun a b ↦ Allowed a b ∧ enters b

section Composition

variable {enters : PartitionState → Prop} {a b c : PartitionState}

lemma Legal.refl (a : PartitionState) : Legal enters a a := Relation.ReflTransGen.refl

lemma Legal.trans (h : Legal enters a b) (h' : Legal enters b c) : Legal enters a c :=
  Relation.ReflTransGen.trans h h'

lemma Legal.single (h : Allowed a b) (hb : enters b) : Legal enters a b :=
  Relation.ReflTransGen.single ⟨h, hb⟩

/-- Retirement is allowed from every state. -/
lemma allowed_retired (a : PartitionState) : Allowed a .retired := by
  cases a <;> decide

lemma Allowed.eq_retired (h : Allowed .retired b) : b = .retired := by
  cases b <;> first | rfl | exact absurd h (by decide)

lemma Legal.eq_retired (h : Legal enters .retired b) : b = .retired := by
  induction h with
  | refl => rfl
  | tail _ hstep ih =>
      obtain rfl := ih
      exact hstep.1.eq_retired

/-- A state that stays, or that one allowed transition changes to one of some states. -/
def Changes (targets : List PartitionState) (a b : PartitionState) : Prop :=
  b = a ∨ b ∈ targets ∧ Allowed a b

lemma Changes.refl {targets : List PartitionState} (a : PartitionState) : Changes targets a a :=
  .inl rfl

lemma Changes.eq_retired {targets : List PartitionState} (h : Changes targets .retired b) :
    b = .retired :=
  h.elim id fun hchange ↦ hchange.2.eq_retired

lemma Changes.mono {targets targets' : List PartitionState} (h : Changes targets a b)
    (hsub : targets ⊆ targets') : Changes targets' a b :=
  h.imp_right fun hchange ↦ ⟨hsub hchange.1, hchange.2⟩

/-- No transition leads from one of some states to another one of them, unless it retires. -/
def Unchained (targets : List PartitionState) : Prop :=
  ∀ a ∈ targets, ∀ b ∈ targets, Allowed a b → b = a ∨ b = .retired

instance (targets : List PartitionState) : Decidable (Unchained targets) :=
  inferInstanceAs (Decidable (∀ a ∈ targets, ∀ b ∈ targets, Allowed a b → b = a ∨ b = .retired))

lemma unchained_singleton (x : PartitionState) : Unchained [x] := by
  intro a ha b hb _
  rw [List.mem_singleton.mp ha, List.mem_singleton.mp hb]
  exact .inl rfl

/-- Into states that are apart, a composition of transitions is one transition at most. -/
theorem Legal.changes {targets : List PartitionState} (h : Legal (· ∈ targets) a b)
    (hunchained : Unchained targets) : Changes targets a b := by
  induction h with
  | refl => exact .refl a
  | @tail b c _ hstep ih =>
    obtain ⟨hallowed, hc⟩ := hstep
    rcases ih with rfl | ⟨hb, hfirst⟩
    · exact .inr ⟨hc, hallowed⟩
    · rcases hunchained b hb c hc hallowed with rfl | rfl
      · exact .inr ⟨hc, hfirst⟩
      · exact .inr ⟨hc, allowed_retired a⟩

end Composition

end PartitionFabric

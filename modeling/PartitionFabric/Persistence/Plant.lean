import PartitionFabric.Coordinator.Incarnation
import PartitionFabric.Synthetic.Restoring

/-!
Synthetic hardware behind worker processes that come and go.

The hardware lives in the memory of a process, and only its file is left when the process is gone.
A worker saves the hardware before it answers for a mutation, so that the next process finds every
mutation that was answered for.
-/

namespace PartitionFabric

open Procedure

namespace Agent

variable {β : Type} {ε α : Type} {backend : AcceleratorBackend β} {env : Surroundings}
  {x : Files × Text × β} {a c : Agent β}

section Resting

/-- What outlasts an incarnation, with the hardware itself. -/
def physical (a : Agent β) : Files × Text × β := (a.files, a.deviceStatePath, a.hardware)

abbrev Rests (x : Files × Text × β) : Agent β → Agent β → Prop := Preserves fun a ↦ a.physical = x

lemma rests_send (env : Surroundings) (frame : Frame) (a : Agent β) :
    Advances (Rests x) (send env frame) a := by
  have hnumbered : (numbered frame a).1.physical = a.physical := by
    unfold numbered
    split <;> rfl
  intro ha
  unfold send
  split
  · cases env.link with
    | ok u => exact hnumbered.trans ha
    | error e => exact hnumbered.trans ha
  · exact ha

lemma rests_deliver (env : Surroundings) (frame : Frame) (a : Agent β) :
    Advances (Rests x) (deliver env frame) a := by
  have hsend : Advances (Rests x) (send env frame) a := rests_send env frame a
  intro ha
  have hafter := hsend ha
  unfold deliver
  rcases hrun : send env frame a with ⟨b, e | u⟩
  · rw [hrun] at hafter
    exact hafter
  · rw [hrun] at hafter
    exact hafter

lemma rests_vanish (a : Agent β) : Advances (Rests x) vanish a := by
  intro ha
  rcases vanish_cases a with h | h
  · rw [h]
    exact ha
  · rw [h]
    exact ha

/-- A question that leaves the hardware as it is. -/
lemma rests_onHardware {m : Procedure Error β α} (hm : (m x.2.2).1 = x.2.2) (a : Agent β) :
    Advances (Rests x) (onHardware m : Procedure ε (Agent β) (Result α)) a := by
  rintro rfl
  exact congrArg (fun hardware ↦ (a.files, a.deviceStatePath, hardware)) hm

/-- Questions leave the hardware as it is. -/
def Steady (backend : AcceleratorBackend β) (hardware : β) : Prop :=
  backend.Spares (· = hardware)

variable (hsteady : Steady backend x.2.2)
include hsteady

lemma rests_discover (a : Agent β) :
    Advances (Rests x)
      (onHardware (backend.discover env.now) :
        Procedure ε (Agent β) (Result (List BackendAccelerator))) a :=
  rests_onHardware (hsteady.discover _ _ rfl) a

lemma rests_queryLayout (key : Text) (a : Agent β) :
    Advances (Rests x)
      (onHardware (backend.queryLayout env.now key) :
        Procedure ε (Agent β) (Result BackendLayout)) a :=
  rests_onHardware (hsteady.queryLayout _ _ _ rfl) a

lemma rests_discovered (a : Agent β) : Advances (Rests x) (discovered backend env) a := by
  refine advances_bind (rests_discover hsteady a) fun b devices _ ↦ ?_
  cases devices with
  | ok devices => exact advances_pure _ _
  | error e => exact advances_throw _ _

lemma rests_queryLayouts (devices : List BackendAccelerator) (a : Agent β) :
    Advances (Rests x) (queryLayouts backend env devices) a := by
  induction devices generalizing a with
  | nil => exact advances_pure _ _
  | cons device rest ih =>
    refine advances_bind (rests_queryLayout hsteady _ a) fun b _ _ ↦ ?_
    exact advances_bind (ih b) fun _ _ _ ↦ advances_pure _ _

lemma rests_republishEvidence (reply : Result Frame) (a : Agent β) :
    Advances (Rests x) (republishEvidence backend env reply) a := by
  refine advances_get_bind (advances_require_bind fun _ ↦ ?_)
  refine advances_bind (rests_discovered hsteady a) fun b _ _ ↦ ?_
  refine advances_bind (rests_queryLayouts hsteady _ b) fun c _ _ ↦ ?_
  refine advances_bind (rests_send env _ c) fun d _ _ ↦ ?_
  exact advances_lift_bind fun _ _ ↦ fun h ↦ h

lemma rests_register (options : WorkerOptions) (reply : Result Frame) (a : Agent β) :
    Advances (Rests x) (register backend env options reply) a := by
  refine advances_bind (rests_discovered hsteady a) fun b _ _ ↦ advances_get_bind ?_
  refine advances_bind (rests_send env _ b) fun c _ _ ↦ advances_lift_bind fun _ _ ↦ ?_
  exact advances_require_bind fun _ ↦ fun h ↦ h

lemma rests_answerQuery (request : QueryRequestMessage) (a : Agent β) :
    Advances (Rests x) (answerQuery backend env request) a := by
  unfold answerQuery
  split
  · refine advances_bind (rests_queryLayout hsteady _ a) fun b layout _ ↦ ?_
    cases layout with
    | ok layout => exact advances_pure _ _
    | error e => exact advances_pure _ _
  · refine advances_bind (rests_discover hsteady a) fun b devices _ ↦ ?_
    cases devices with
    | ok devices => exact advances_pure _ _
    | error e => exact advances_pure _ _
  · exact advances_pure _ _

lemma rests_serveQueryRequest (frame : Frame) (request : QueryRequestMessage) (a : Agent β) :
    Advances (Rests x) (serveQueryRequest backend env frame request) a := by
  refine advances_bind (rests_answerQuery hsteady request a) fun b _ _ ↦ ?_
  exact advances_get_bind (rests_deliver env _ b)

omit hsteady

lemma rests_introduce (options : WorkerOptions) (reply : Result Frame) (a : Agent β) :
    Advances (Rests x) (introduce backend env options reply) a := by
  refine advances_get_bind (advances_bind (rests_send env _ a) fun b _ _ ↦ ?_)
  refine advances_lift_bind fun _ _ ↦ advances_require_bind fun _ ↦ ?_
  refine advances_modify_bind (fun h ↦ h) (advances_get_bind ?_)
  exact fun h ↦ h

lemma rests_expect {r : Result α} {serve : α → AgentM β Unit}
    (h : ∀ message, Advances (Rests x) (serve message) a) :
    Advances (Rests x) (expect r >>= serve) a := by
  cases r with
  | error e => exact fun h ↦ h
  | ok message => exact h message

lemma rests_serveFence (fence : FenceMessage) (a : Agent β) :
    Advances (Rests x) (serveFence env fence) a := by
  refine advances_modify_bind ?_ (advances_get_bind (rests_deliver env _ _))
  unfold fencedBy
  split
  · exact fun h ↦ h
  · exact fun h ↦ h

lemma rests_serveHeartbeat (a : Agent β) : Advances (Rests x) (serveHeartbeat env) a :=
  rests_send env _ a

end Resting

section Saving

/-- Saving changes nothing but the files. -/
lemma tryCheckpoint_fst (backend : AcceleratorBackend β) (env : Surroundings) (c : Agent β) :
    ∃ files, (tryCheckpoint backend env c).1 = { c with files := files } := by
  have hcheckpoint : ∃ files, (checkpoint backend env c).1 = { c with files := files } := by
    unfold checkpoint
    split
    · exact ⟨c.files, rfl⟩
    · split
      · exact ⟨c.files, rfl⟩
      · split
        · exact ⟨c.files, rfl⟩
        · exact ⟨_, rfl⟩
  obtain ⟨files, h⟩ := hcheckpoint
  refine ⟨files, ?_⟩
  unfold tryCheckpoint
  rcases hrun : checkpoint backend env c with ⟨d, (_ | e) | u⟩ <;> rw [hrun] at h <;> exact h

/-- What follows on saving leaves the hardware as it is. -/
lemma hardware_saved {k : Unit → AgentM β Unit} (hk : ∀ x d, Advances (Rests x) (k ()) d)
    (c : Agent β) : ((tryCheckpoint backend env >>= k) c).1.hardware = c.hardware := by
  obtain ⟨files, hsaved⟩ := tryCheckpoint_fst backend env c
  rcases hrun : tryCheckpoint backend env c with ⟨d, e | u⟩
  · rw [hrun] at hsaved
    rw [bind_error hrun, hsaved]
  · rw [hrun] at hsaved
    have h := hk d.physical d rfl
    simp only [physical, Prod.mk.injEq] at h
    have hd : d = { c with files := files } := hsaved
    rw [bind_ok hrun, h.2.2, hd]

variable {S : Option (List UInt8) → β → Prop}

/-- Saving ends with a file that stands for the hardware, unless the process dies over it. -/
def Saves (S : Option (List UInt8) → β → Prop) (backend : AcceleratorBackend β)
    (env : Surroundings) (c : Agent β) : Prop :=
  ((tryCheckpoint backend env c).2 = .ok () ∧
      S (tryCheckpoint backend env c).1.files.target c.hardware) ∨
    (tryCheckpoint backend env c).2 = .error .died ∧
      (S (tryCheckpoint backend env c).1.files.target c.hardware ∨
        (tryCheckpoint backend env c).1.files.target = c.files.target)

/-- The file stands for the hardware, or the process died before it sent anything and the file is
the one that it was. -/
def Outlasts (S : Option (List UInt8) → β → Prop) (a : Agent β)
    (out : Agent β × Except Ending Unit) : Prop :=
  S out.1.files.target out.1.hardware ∨
    out.2 = .error .died ∧ out.1.sent = a.sent ∧ out.1.files.target = a.files.target

lemma Outlasts.rests {m : AgentM β Unit} (ha : S a.files.target a.hardware)
    (hm : Advances (Rests a.physical) m a) : Outlasts S a (m a) := by
  have h := hm rfl
  simp only [physical, Prod.mk.injEq] at h
  left
  rw [h.1, h.2.2]
  exact ha

/-- What becomes of hardware that is asked for a mutation at most. -/
def Worked (backend : AcceleratorBackend β) (hardware after : β) : Prop :=
  after = hardware ∨ ∃ kind now request, after = (backend.mutate kind now request hardware).1

/-- A procedure that asks for a mutation at most, saves, and leaves the hardware alone behind
that. -/
structure Saving (backend : AcceleratorBackend β) (env : Surroundings) (m : AgentM β Unit)
    (a c : Agent β) : Prop where
  path : c.deviceStatePath = a.deviceStatePath
  sent : c.sent = a.sent
  files : c.files = a.files
  worked : Worked backend a.hardware c.hardware
  run : ∃ k : Unit → AgentM β Unit, (∀ x d, Advances (Rests x) (k ()) d) ∧
    m a = (tryCheckpoint backend env >>= k) c

lemma Saving.hardware {m : AgentM β Unit} (hm : Saving backend env m a c) :
    (m a).1.hardware = c.hardware := by
  obtain ⟨k, hk, hrun⟩ := hm.run
  rw [hrun, hardware_saved hk]

lemma Outlasts.saves {m : AgentM β Unit} (hm : Saving backend env m a c)
    (hsaves : c.hardware = (m a).1.hardware → Saves S backend env c) : Outlasts S a (m a) := by
  have hsaves : Saves S backend env c := hsaves hm.hardware.symm
  obtain ⟨k, hk, hrun⟩ := hm.run
  obtain ⟨files, hsaved⟩ := tryCheckpoint_fst backend env c
  unfold Saves at hsaves
  rw [hrun]
  rcases hfirst : tryCheckpoint backend env c with ⟨d, e | u⟩
  · rw [hfirst] at hsaves hsaved
    subst hsaved
    rw [bind_error hfirst]
    obtain ⟨⟨⟩, -⟩ | ⟨hdied, hfile⟩ := hsaves
    rcases hfile with hstands | hfile
    · exact .inl hstands
    · exact .inr ⟨hdied, hm.sent, hfile.trans (congrArg Files.target hm.files)⟩
  · rw [hfirst] at hsaves hsaved
    subst hsaved
    rw [bind_ok hfirst]
    obtain ⟨-, hstands⟩ | ⟨⟨⟩, -⟩ := hsaves
    have h := hk _ { c with files := files } rfl
    simp only [physical, Prod.mk.injEq] at h
    left
    rw [h.1, h.2.2]
    exact hstands

variable {frame : Frame}

/-- A mutation that is refused leaves the hardware alone. -/
lemma rests_serveMutationRequest (request : MutationRequestMessage)
    (hrefuses : (a.fenced || frame.coordinatorEpoch != a.epoch) = true) :
    Advances (Rests x) (serveMutationRequest backend env frame request) a := by
  refine advances_get_bind ?_
  rw [if_pos hrefuses]
  exact rests_deliver env _ a

/-- A mutation that is performed is saved before anything is sent. -/
lemma saving_serveMutationRequest (request : MutationRequestMessage)
    (hserves : (a.fenced || frame.coordinatorEpoch != a.epoch) = false) :
    ∃ c, Saving backend env (serveMutationRequest backend env frame request) a c := by
  obtain ⟨c, reply, hcall⟩ : ∃ c reply, callMutation backend env request a = (c, .ok reply) :=
    ⟨_, _, rfl⟩
  have hc := (Prod.mk.inj hcall).1
  refine ⟨c, by rw [← hc], by rw [← hc], by rw [← hc], .inr ⟨request.kind, env.now,
    request.request, by rw [← hc]⟩, fun _ ↦ (vanish >>= fun _ ↦ pure reply) >>=
    fun reply ↦ deliver env (a.serveMutation frame request reply), fun x d ↦ ?_, ?_⟩
  · refine advances_bind (advances_bind (rests_vanish d) fun _ _ _ ↦ advances_pure _ _) ?_
    exact fun e reply _ ↦ rests_deliver env _ e
  · unfold serveMutationRequest
    rw [get_bind, if_neg (by rw [hserves]; exact Bool.false_ne_true)]
    unfold performMutation
    rw [bind_assoc, bind_ok hcall, bind_assoc]

lemma saving_serveShutdown (a : Agent β) :
    Saving backend env (serveShutdown backend env) a { a with shutdown := true } :=
  ⟨rfl, rfl, rfl, .inl rfl, fun _ ↦
    modify (fun a ↦ { a with connected := false, channelOpen := false }) >>=
      fun _ ↦ throw (.returned success), fun _ _ h ↦ h, rfl⟩

lemma saving_serveLost {e : Error} (h : (e.code = .closed || e.code = .deviceUnavailable) = true)
    (a : Agent β) :
    Saving backend env (serveLost backend env e) a { a with connected := false } := by
  refine ⟨rfl, rfl, rfl, .inl rfl, fun _ ↦ throw (.returned success), fun _ _ h ↦ h, ?_⟩
  unfold serveLost
  rw [modify_bind, if_pos h]

lemma saving_stop (h : a.connected = true) :
    Saving backend env (stop backend env) a { a with connected := false, shutdown := true } := by
  refine ⟨rfl, rfl, rfl, .inl rfl, fun _ ↦ modify fun a ↦ { a with channelOpen := false },
    fun _ _ h ↦ h, ?_⟩
  unfold stop
  rw [get_bind, if_pos h, modify_bind]

lemma hardware_stop (a : Agent β) : (stop backend env a).1.hardware = a.hardware := by
  by_cases h : a.connected = true
  · exact (saving_stop h).hardware
  · unfold stop
    rw [get_bind, if_neg h]
    rfl

/-- A turn of the loop leaves the hardware alone, or it saves it. -/
lemma serve_cases (backend : AcceleratorBackend β) (env : Surroundings) (received : Result Frame)
    (hsteady : Steady backend a.hardware) :
    ∃ m : AgentM β Unit, serve backend env received a = m a ∧
      (Advances (Rests a.physical) m a ∨ ∃ c, Saving backend env m a c) := by
  cases received with
  | error e =>
    refine ⟨serveLost backend env e, rfl, ?_⟩
    by_cases hended : (e.code = .closed || e.code = .deviceUnavailable) = true
    · exact .inr ⟨_, saving_serveLost hended a⟩
    · refine .inl (advances_modify_bind (fun h ↦ h) ?_)
      rw [if_neg hended]
      exact advances_throw _ _
  | ok frame =>
    refine ⟨serveFrame backend env frame, rfl, ?_⟩
    unfold serveFrame
    cases htype : frame.type
    case mutationRequest =>
      cases hunpack :
          (unpackPayload .mutationRequest frame.payload : Result MutationRequestMessage) with
      | error e => exact .inl fun h ↦ h
      | ok request =>
        cases hserves : (a.fenced || frame.coordinatorEpoch != a.epoch) with
        | true => exact .inl (rests_serveMutationRequest request hserves)
        | false => exact .inr (saving_serveMutationRequest request hserves)
    case queryRequest =>
      exact .inl (rests_expect fun request ↦ rests_serveQueryRequest hsteady frame request a)
    case fenceWorker => exact .inl (rests_expect fun fence ↦ rests_serveFence fence a)
    case heartbeat => exact .inl (rests_expect fun _ ↦ rests_serveHeartbeat a)
    case errorResponse => exact .inl (rests_expect fun _ ↦ advances_pure _ _)
    case shutdown => exact .inr ⟨_, saving_serveShutdown a⟩
    all_goals exact .inl fun h ↦ h

/-- What a call of a worker that serves does to its file and its hardware. -/
structure Tends (S : Option (List UInt8) → β → Prop) (backend : AcceleratorBackend β)
    (a : Agent β) (out : Agent β × Except Ending Unit) : Prop where
  path : out.1.deviceStatePath = a.deviceStatePath
  worked : Worked backend a.hardware out.1.hardware
  outlasts : Outlasts S a out

lemma Tends.rests {m : AgentM β Unit} (ha : S a.files.target a.hardware)
    (hm : Advances (Rests a.physical) m a) : Tends S backend a (m a) := by
  have h := hm rfl
  simp only [physical, Prod.mk.injEq] at h
  exact ⟨h.2.1, .inl h.2.2, .rests ha hm⟩

lemma Tends.saves {m : AgentM β Unit} (hm : Saving backend env m a c)
    (hsaves : c.hardware = (m a).1.hardware → Saves S backend env c) :
    Tends S backend a (m a) := by
  refine ⟨?_, hm.hardware ▸ hm.worked, .saves hm hsaves⟩
  obtain ⟨k, hk, hrun⟩ := hm.run
  obtain ⟨files, hsaved⟩ := tryCheckpoint_fst backend env c
  rw [hrun]
  rcases hfirst : tryCheckpoint backend env c with ⟨d, e | u⟩
  · rw [hfirst] at hsaved
    have hd : d = { c with files := files } := hsaved
    rw [bind_error hfirst, hd]
    exact hm.path
  · rw [hfirst] at hsaved
    have hd : d = { c with files := files } := hsaved
    have h := hk d.physical d rfl
    simp only [physical, Prod.mk.injEq] at h
    rw [bind_ok hfirst, h.2.1, hd]
    exact hm.path

/-- Saving succeeds or the process dies when a call has led to some hardware. -/
def Savable (S : Option (List UInt8) → β → Prop) (backend : AcceleratorBackend β)
    (env : Surroundings) (a : Agent β) (after : β) : Prop :=
  ∀ c : Agent β, c.deviceStatePath = a.deviceStatePath → Worked backend a.hardware c.hardware →
    c.hardware = after → Saves S backend env c

/-- A turn of the loop. -/
theorem serve_tends (received : Result Frame) (ha : S a.files.target a.hardware)
    (hsteady : Steady backend a.hardware)
    (hsaves : Savable S backend env a (serve backend env received a).1.hardware) :
    Tends S backend a (serve backend env received a) := by
  obtain ⟨m, hserve, hm | ⟨c, hm⟩⟩ := serve_cases backend env received hsteady
  · rw [hserve]
    exact .rests ha hm
  · rw [hserve] at hsaves ⊢
    exact .saves hm (hsaves c hm.path hm.worked)

theorem serveForever_tends (received : Result Frame) (ha : S a.files.target a.hardware)
    (hsteady : Steady backend a.hardware)
    (hsaves : Savable S backend env a (serveForever backend [(env, received)] a).1.hardware) :
    Tends S backend a (serveForever backend [(env, received)] a) := by
  by_cases hserves : a.connected = true ∧ ¬ a.shutdown = true
  · have hserve : serveForever backend [(env, received)] a = serve backend env received a := by
      unfold serveForever serveAll serveAll
      rw [get_bind, if_pos hserves.1, get_bind, if_neg hserves.2]
      exact congrFun (bind_pure _) a
    rw [hserve] at hsaves ⊢
    exact serve_tends received ha hsteady hsaves
  · refine .rests ha (advances_get_bind ?_)
    split
    · refine advances_get_bind ?_
      rw [if_pos (not_not.mp fun h ↦ hserves ⟨‹_›, h⟩)]
      exact fun h ↦ h
    · exact advances_throw _ _

theorem stop_tends (ha : S a.files.target a.hardware)
    (hsaves : Savable S backend env a (stop backend env a).1.hardware) :
    Tends S backend a (stop backend env a) := by
  by_cases hconnected : a.connected = true
  · exact .saves (saving_stop hconnected) (hsaves _ rfl (.inl rfl))
  · refine .rests ha (advances_get_bind ?_)
    rw [if_neg hconnected]
    exact advances_pure _ _

/-- The hardware of an incarnation is what its file stands for. -/
structure Stands (S : Option (List UInt8) → β → Prop) (path : Text) (hardware : β) (a : Agent β) :
    Prop where
  path : a.deviceStatePath = path
  hardware : a.hardware = hardware
  file : S a.files.target a.hardware

variable {path : Text} {hardware : β}

lemma stands_of_rests {m : AgentM β α}
    (h : ∀ x : Files × Text × β, x.2.2 = hardware → Advances (Rests x) m a) :
    Advances (Preserves (Stands S path hardware)) m a := by
  intro ha
  have hrests := h a.physical ha.hardware rfl
  simp only [physical, Prod.mk.injEq] at hrests
  obtain ⟨hfiles, hpath, hhardware⟩ := hrests
  exact ⟨hpath.trans ha.path, hhardware.trans ha.hardware, by rw [hfiles, hhardware]; exact ha.file⟩

lemma stands_demandCheckpoint
    (hsaves : ∀ c : Agent β, c.deviceStatePath = path → c.hardware = hardware →
      Saves S backend env c) (a : Agent β) :
    Advances (Preserves (Stands S path hardware)) (demandCheckpoint backend env) a := by
  intro ha
  have hsame : (demandCheckpoint backend env a).1 = (tryCheckpoint backend env a).1 := by
    unfold demandCheckpoint tryCheckpoint
    rcases checkpoint backend env a with ⟨b, (_ | e) | u⟩ <;> rfl
  have hsaved := hsaves a ha.path ha.hardware
  unfold Saves at hsaved
  obtain ⟨files, hfiles⟩ := tryCheckpoint_fst backend env a
  rw [hsame, hfiles]
  rw [hfiles] at hsaved
  refine ⟨ha.path, ha.hardware, ?_⟩
  rcases hsaved with ⟨-, hstands⟩ | ⟨-, hstands | hkept⟩
  · exact hstands
  · exact hstands
  · have hkept : files.target = a.files.target := hkept
    change S files.target a.hardware
    rw [hkept]
    exact ha.file

/-- A start asks for no mutation, and saves the hardware as it is. -/
theorem start_tends (options : WorkerOptions) (met : Reception) (ha : S a.files.target a.hardware)
    (hsteady : Steady backend a.hardware)
    (hsaves : Savable S backend env a a.hardware) :
    Tends S backend a (start backend env options met a) := by
  have h : Advances (Preserves (Stands S a.deviceStatePath a.hardware))
      (start backend env options met) a := by
    refine advances_get_bind (advances_require_bind fun _ ↦ advances_lift_bind fun _ _ ↦ ?_)
    refine advances_modify_bind (fun h ↦ ⟨h.path, h.hardware, h.file⟩) ?_
    refine advances_bind (stands_of_rests fun x _ ↦ rests_introduce options met.hello _) ?_
    intro b _ _
    refine advances_bind (stands_of_rests fun x hx ↦
      rests_register (hx ▸ hsteady) options met.registration b) fun c _ _ ↦ ?_
    refine advances_bind (stands_demandCheckpoint (fun c hpath hhardware ↦
      hsaves c hpath (.inl hhardware) hhardware) c) fun d _ _ ↦ ?_
    refine advances_bind (stands_of_rests fun x hx ↦
      rests_republishEvidence (hx ▸ hsteady) met.evidence d) fun e _ _ ↦ ?_
    exact fun h ↦ h
  have hstands := h ⟨rfl, rfl, ha⟩
  exact ⟨hstands.path, .inl hstands.hardware, .inl hstands.file⟩

end Saving

end Agent

namespace SyntheticBackend

variable {backend devices hardware : SyntheticBackend}

section Hosting

lemma write_eq_self {device : Device} (h : backend.find device.spec.key = some device) :
    backend.write device = backend := by
  obtain ⟨devices, faults, keyed⟩ := backend
  unfold write
  simp only [SyntheticBackend.mk.injEq, and_true]
  exact KeyedMap.insert_eq_self h

/-- A query changes nothing unless a reset is pending. -/
lemma queryLayout_quiet (h : backend.faults.silentDeviceReset = false) (now : UInt64) (key : Text) :
    (queryLayout now key backend).1 = backend := by
  unfold queryLayout
  cases hfind : backend.find key with
  | none =>
    obtain ⟨e, he⟩ := lookup_bind_none hfind _
    rw [he]
  | some device =>
    rw [lookup_bind_some hfind, Procedure.get_bind, Procedure.require_bind]
    split
    · have hobserved : device.observed backend.faults = device := by
        rw [Device.observed, h]
        rfl
      have hfaults : observedFaults backend.faults = backend.faults := by
        rw [observedFaults, ← h]
      change ({ backend with faults := observedFaults backend.faults } : SyntheticBackend).write
        (device.observed backend.faults) = backend
      rw [hobserved, hfaults]
      apply write_eq_self
      rw [key_of_find hfind]
      exact hfind
    · rfl

/-- A backend with the devices that a process is configured with, and no reset pending. -/
structure Hosted (devices backend : SyntheticBackend) : Prop where
  configured : Configured devices backend
  quiet : backend.faults.silentDeviceReset = false

lemma Hosted.perform {kind : MutationKind} (hkind : kind.Lawful) (h : Hosted devices backend)
    (now : UInt64) (request : PartitionMutationRequest) :
    Hosted devices (perform kind now request backend).1 := by
  obtain ⟨hsame, -⟩ | ⟨device, applied, hfind, -, happly, hrun⟩ :=
    perform_cases kind now request backend
  · rw [hsame]
    exact h
  · rw [hrun]
    refine ⟨fun key ↦ ?_, ?_⟩
    · have hspec := hkind.spec happly
      rw [← h.configured key]
      simp only [find_write, find_faults, spec_observed, spec_finish hkind, hspec,
        key_of_find hfind]
      split
      · rename_i hkey
        rw [hkey, hfind, Option.map_some, Option.map_some, spec_finish hkind, hspec]
      · rfl
    · rw [faults_write, faults_write]
      rfl

lemma Hosted.mutate {discovery : UInt64 → SyntheticBackend → Result (List BackendAccelerator)}
    (h : Hosted devices backend) (kind : AttemptKind) (now : UInt64)
    (request : PartitionMutationRequest) :
    Hosted devices ((SyntheticBackend.hardware discovery).mutate kind now request backend).1 := by
  cases kind with
  | createPartition => exact h.perform creation_lawful now request
  | destroyPartition => exact h.perform destruction_lawful now request
  | reconfigureLayout => exact h.perform reconfiguration_lawful now request

lemma faults_importState (bytes : List UInt8) (backend : SyntheticBackend) :
    (importState bytes backend).1.faults = backend.faults := by
  rw [importState_fst]
  induction reachedImages bytes generalizing backend with
  | nil => rfl
  | cons image rest ih =>
    rw [List.foldl_cons, ih]
    unfold restore
    split
    · rfl
    · exact faults_write _ _

lemma Hosted.importState (h : Hosted devices backend) (bytes : List UInt8) :
    Hosted devices (importState bytes backend).1 := by
  refine ⟨fun key ↦ ?_, (congrArg _ (faults_importState bytes backend)).trans h.quiet⟩
  have hkept := congrArg (Option.map Prod.fst) (kept_importState bytes backend key)
  simp only [Option.map_map] at hkept
  exact hkept.trans (h.configured key)

end Hosting

section Recording

/-- What a process begins with that finds a file, or none. -/
def reloaded (devices : SyntheticBackend) : Option (List UInt8) → Result SyntheticBackend
  | none => .ok devices
  | some data => (SyntheticBackend.importState data devices).2.map fun _ ↦
      (SyntheticBackend.importState data devices).1

/-- A process that begins with a file, or with none, has what some hardware holds. -/
def Recorded (devices : SyntheticBackend) (content : Option (List UInt8))
    (hardware : SyntheticBackend) : Prop :=
  ∃ found, devices.reloaded content = .ok found ∧ SameContents hardware found

/-- The hardware can be stored, and comes back from where it is. -/
structure Storable (backend : SyntheticBackend) : Prop where
  restorable : backend.Restorable
  fits : backend.encode.Fits ({} : Limits).maxFrameBytes

instance (backend : SyntheticBackend) : Decidable backend.Storable :=
  decidable_of_iff (_ ∧ _) ⟨fun h ↦ ⟨h.1, h.2⟩, fun h ↦ ⟨h.restorable, h.fits⟩⟩

/-- As much as a checkpoint takes. -/
def checkpointBytes : ℕ := syntheticMagic.length + ({} : Limits).maxFrameBytes

lemma Storable.exported (h : backend.Storable) :
    ∃ data, exportState backend = .ok data ∧ data.length ≤ checkpointBytes := by
  refine ⟨_, exportState_eq_ok_iff.mpr ⟨h.fits, rfl⟩, ?_⟩
  rw [List.length_append]
  exact Nat.add_le_add_left h.fits.2 _

lemma Storable.recorded (h : backend.Storable) (hhosted : Hosted devices backend)
    {data : List UInt8} (hexport : exportState backend = .ok data) :
    Recorded devices (some data) backend := by
  obtain ⟨hok, hsame⟩ := (restores_iff hexport).mpr h.restorable devices
    fun key ↦ (hhosted.configured key).symm
  exact ⟨_, by rw [reloaded, hok]; rfl, hsame⟩

variable {discovery : UInt64 → SyntheticBackend → Result (List BackendAccelerator)}
  {env : Surroundings} {c : Agent SyntheticBackend}

/-- Where the operating system writes what it is given, saving ends with a file that the hardware
comes back from, unless the process dies over it. -/
lemma saves_storable (hpath : isPathSafe c.deviceStatePath = true)
    (hos : env.os.Writes checkpointBytes) (hhosted : Hosted devices c.hardware)
    (hstorable : c.hardware.Storable) :
    Agent.Saves (Recorded devices) (SyntheticBackend.hardware discovery) env c := by
  obtain ⟨data, hexport, hlength⟩ := hstorable.exported
  have hrecorded := hstorable.recorded hhosted hexport
  have hplace := isEmpty_of_isPathSafe hpath
  have hcheckpoint : Agent.checkpoint (SyntheticBackend.hardware discovery) env c =
      ({ c with files := (Mortal.returning
          (writeFileAtomic env.os c.deviceStatePath data) ⟨c.files, env.life⟩).1.state },
        (Mortal.returning
          (writeFileAtomic env.os c.deviceStatePath data) ⟨c.files, env.life⟩).2) := by
    unfold Agent.checkpoint
    rw [hplace]
    simp only [SyntheticBackend.hardware, hexport]
    rfl
  unfold Agent.Saves Agent.tryCheckpoint
  rw [hcheckpoint]
  obtain ⟨q, hq, hreturn⟩ :=
    Mortal.returning_cases (writeFileAtomic env.os c.deviceStatePath data) ⟨c.files, env.life⟩
  obtain ⟨r, hwrite⟩ := writeFileAtomic_writes hpath (hos.mono hlength) ⟨c.files, env.life⟩
  rcases hwrite with ⟨hrun, htarget⟩ | ⟨hrun, htarget⟩
  · rw [hrun] at hq hreturn
    have hfile : Recorded devices q.state.target c.hardware := by
      rw [← hq, htarget]
      exact hrecorded
    rcases hreturn with hreturn | ⟨-, hreturn⟩
    · rw [hreturn]
      exact .inl ⟨rfl, hfile⟩
    · rw [hreturn]
      exact .inr ⟨rfl, .inl hfile⟩
  · rw [hrun] at hq hreturn
    rcases hreturn with hreturn | ⟨⟨⟩, -⟩
    rw [hreturn]
    exact .inr ⟨rfl, .inr (by rw [← hq]; exact htarget)⟩

end Recording

end SyntheticBackend

section Plants

open SyntheticBackend

/-- The calls of a worker that its process makes. -/
inductive WorkerCall where
  | start (options : WorkerOptions) (env : Surroundings) (met : Reception)
  | serve (env : Surroundings) (received : Result Frame)
  | stop (env : Surroundings)

namespace WorkerCall

def env : WorkerCall → Surroundings
  | start _ env _ => env
  | serve env _ => env
  | stop env => env

def run {β : Type} (backend : AcceleratorBackend β) : WorkerCall → AgentM β Unit
  | start options env met => Agent.start backend env options met
  | serve env received => Agent.serveForever backend [(env, received)]
  | stop env => Agent.stop backend env

end WorkerCall

/-- A machine with synthetic hardware: no process runs, or one does. -/
inductive Plant where
  | idle (files : Files)
  | running (a : Agent SyntheticBackend)

/-- What happens on the machine: a process begins, its worker is called, or it is gone. -/
inductive PlantAction where
  | create (options : WorkerOptions) (entropy : UInt64) (os : Filing)
  | call (call : WorkerCall)
  | perish

namespace Plant

variable (discovery : UInt64 → SyntheticBackend → Result (List BackendAccelerator)) (path : Text)
  (devices : SyntheticBackend)

/-- A process over the files, with the devices that every process is configured with. -/
def create (options : WorkerOptions) (entropy : UInt64) (os : Filing) (files : Files) :
    Result (Agent SyntheticBackend) :=
  Agent.create (SyntheticBackend.hardware discovery) { options with deviceStatePath := path }
    entropy os files devices

/-- A process runs unless it could not be created. -/
def begun (files : Files) : Result (Agent SyntheticBackend) → Plant
  | .ok a => .running a
  | .error _ => .idle files

/-- A process goes on running behind a call unless it is gone. -/
def behind : Agent SyntheticBackend × Except Ending Unit → Plant
  | (b, .error .died) => .idle b.files
  | (b, .error (.exited _)) => .idle b.files
  | (b, _) => .running b

def step : PlantAction → Plant → Plant
  | .create options entropy os, .idle files =>
    begun files (create discovery path devices options entropy os files)
  | .call call, .running a => behind (call.run (SyntheticBackend.hardware discovery) a)
  | .perish, .running a => .idle a.files
  | _, p => p

end Plant

/-- A machine on which nothing was saved before. -/
def plant (discovery : UInt64 → SyntheticBackend → Result (List BackendAccelerator)) (path : Text)
    (devices : SyntheticBackend) : System Plant PlantAction where
  initial p := ∃ temporary, p = .idle { target := none, temporary := temporary }
  step := Plant.step discovery path devices

namespace Plant

variable {discovery : UInt64 → SyntheticBackend → Result (List BackendAccelerator)} {path : Text}
  {devices : SyntheticBackend} {a : Agent SyntheticBackend} {p : Plant}

/-- The operating system does what it is asked for, and the hardware can be stored before a call
and behind it. The process may die over a call. -/
def Calls (discovery : UInt64 → SyntheticBackend → Result (List BackendAccelerator))
    (a : Agent SyntheticBackend) (call : WorkerCall) : Prop :=
  call.env.os.Writes checkpointBytes ∧ a.hardware.Storable ∧
    (call.run (SyntheticBackend.hardware discovery) a).1.hardware.Storable

instance (a : Agent SyntheticBackend) (call : WorkerCall) : Decidable (Calls discovery a call) :=
  inferInstanceAs (Decidable (_ ∧ _))

def Works (discovery : UInt64 → SyntheticBackend → Result (List BackendAccelerator)) :
    Plant → PlantAction → Prop
  | _, .create _ _ os => os.Reads
  | .running a, .call call => Calls discovery a call
  | _, _ => True

instance : ∀ p action, Decidable (Works discovery p action)
  | _, .create _ _ os => inferInstanceAs (Decidable os.Reads)
  | .running a, .call call => inferInstanceAs (Decidable (Calls discovery a call))
  | .idle _, .call _ => isTrue trivial
  | .idle _, .perish => isTrue trivial
  | .running _, .perish => isTrue trivial

/-- The files are those of hardware as it is configured; a process that runs has that hardware. -/
def Sound (path : Text) (devices : SyntheticBackend) : Plant → Prop
  | .idle files => ∃ found, devices.reloaded files.target = .ok found
  | .running a => a.deviceStatePath = path ∧ Hosted devices a.hardware ∧
      Recorded devices a.files.target a.hardware

/-- The hardware that a process begins with is read off its file. -/
lemma resumed_reloads (hpath : isPathSafe path = true) (options : WorkerOptions) {os : Filing}
    (hos : os.Reads) (files : Files) :
    Agent.resumed (SyntheticBackend.hardware discovery) { options with deviceStatePath := path } os
      files devices = devices.reloaded files.target := by
  unfold Agent.resumed
  rw [isEmpty_of_isPathSafe hpath, if_neg Bool.false_ne_true]
  cases htarget : files.target with
  | none =>
    change (if fileExists os none then _ else _) = _
    rw [if_neg (by rw [fileExists, hos.finds]; exact Bool.false_ne_true)]
    rfl
  | some data =>
    change (if fileExists os (some data) then _ else _) = _
    rw [if_pos (by rw [fileExists, hos.finds]; rfl), readFile_reads hpath hos]
    rfl

/-- A process that begins finds what the files hold. -/
lemma create_reloads (hpath : isPathSafe path = true) (options : WorkerOptions) (entropy : UInt64)
    {os : Filing} (hos : os.Reads) {files : Files} {found : SyntheticBackend}
    (hfound : devices.reloaded files.target = .ok found)
    (hlimits : options.limits.validate = success) :
    ∃ c, create discovery path devices options entropy os files = .ok c ∧
      c.deviceStatePath = path ∧ c.files = files ∧ c.hardware = found := by
  unfold create Agent.create
  split
  · rename_i e he
    rw [hlimits] at he
    cases he
  · rw [resumed_reloads hpath options hos, hfound]
    exact ⟨_, rfl, rfl, rfl, rfl⟩

/-- No process begins under limits that are not valid. -/
lemma create_refused (options : WorkerOptions) (entropy : UInt64) (os : Filing) (files : Files)
    {e : Error} (hlimits : options.limits.validate = .error e) :
    create discovery path devices options entropy os files = .error e := by
  unfold create Agent.create
  split
  · rename_i e' he
    rw [hlimits] at he
    cases he
    rfl
  · rename_i hvalid
    rw [hlimits] at hvalid
    cases hvalid

lemma hosted_reloaded (hquiet : devices.faults.silentDeviceReset = false)
    {content : Option (List UInt8)} {found : SyntheticBackend}
    (h : devices.reloaded content = .ok found) : Hosted devices found := by
  have hdevices : Hosted devices devices := ⟨fun _ ↦ rfl, hquiet⟩
  unfold reloaded at h
  cases content with
  | none =>
    cases h
    exact hdevices
  | some data =>
    have h : (SyntheticBackend.importState data devices).2.map
        (fun _ ↦ (SyntheticBackend.importState data devices).1) = .ok found := h
    cases hok : (SyntheticBackend.importState data devices).2 with
    | error e =>
      rw [hok] at h
      cases h
    | ok u =>
      rw [hok] at h
      cases h
      exact hdevices.importState data

/-- Hardware without a pending reset is only changed by mutations. -/
lemma steady_hosted {hardware : SyntheticBackend} (h : Hosted devices hardware) :
    Agent.Steady (SyntheticBackend.hardware discovery) hardware where
  discover _ _ h := h
  queryLayout now key backend := by
    rintro rfl
    exact queryLayout_quiet h.quiet now key

lemma hosted_worked {hardware after : SyntheticBackend} (h : Hosted devices hardware)
    (hworked : Agent.Worked (SyntheticBackend.hardware discovery) hardware after) :
    Hosted devices after := by
  rcases hworked with hsame | ⟨kind, now, request, hmutated⟩
  · rw [hsame]
    exact h
  · rw [hmutated]
    exact h.mutate kind now request

/-- What a call does to the file and the hardware of a process. -/
lemma call_tends (hpath : isPathSafe path = true) (ha : (Plant.running a).Sound path devices)
    (call : WorkerCall) (hcall : Calls discovery a call) :
    Agent.Tends (Recorded devices) (SyntheticBackend.hardware discovery) a
      (call.run (SyntheticBackend.hardware discovery) a) := by
  obtain ⟨hplace, hhosted, hrecorded⟩ := ha
  obtain ⟨hos, hbefore, hafter⟩ := hcall
  have hsteady : Agent.Steady (SyntheticBackend.hardware discovery) a.hardware :=
    steady_hosted hhosted
  have hsaves {after : SyntheticBackend} (hafter : after.Storable) :
      Agent.Savable (Recorded devices) (SyntheticBackend.hardware discovery) call.env a after := by
    intro c hc hworked heq
    exact saves_storable (by rw [hc, hplace, hpath]) hos (hosted_worked hhosted hworked)
      (heq ▸ hafter)
  cases call with
  | start options env met => exact Agent.start_tends options met hrecorded hsteady (hsaves hbefore)
  | serve env received => exact Agent.serveForever_tends received hrecorded hsteady (hsaves hafter)
  | stop env => exact Agent.stop_tends hrecorded (hsaves hafter)

/-- A process that begins has the hardware that its files stand for. -/
lemma sound_create (hpath : isPathSafe path = true)
    (hquiet : devices.faults.silentDeviceReset = false) (options : WorkerOptions) (entropy : UInt64)
    {os : Filing} (hos : os.Reads) {files : Files} (hp : (idle files).Sound path devices) :
    (begun files (create discovery path devices options entropy os files)).Sound path devices := by
  obtain ⟨found, hfound⟩ := hp
  cases hlimits : options.limits.validate with
  | error e =>
    rw [create_refused options entropy os files hlimits]
    exact ⟨found, hfound⟩
  | ok u =>
    obtain ⟨c, hcreate, hplace, hfiles, rfl⟩ :
        ∃ c, create discovery path devices options entropy os files = .ok c ∧
          c.deviceStatePath = path ∧ c.files = files ∧ c.hardware = found :=
      create_reloads hpath options entropy hos hfound hlimits
    rw [hcreate]
    exact ⟨hplace, hosted_reloaded hquiet hfound, c.hardware, by rw [hfiles, hfound], fun _ ↦ rfl⟩

/-- A call that a process dies over leaves the files with what they stood for before, or with the
hardware as it is behind the call. -/
lemma sound_behind (ha : (running a).Sound path devices)
    {out : Agent SyntheticBackend × Except Ending Unit}
    (htends : Agent.Tends (Recorded devices) (SyntheticBackend.hardware discovery) a out) :
    (behind out).Sound path devices := by
  obtain ⟨hplace, hhosted, before, hbefore, -⟩ := ha
  have hafter := hosted_worked hhosted htends.worked
  obtain ⟨b, r⟩ := out
  rcases htends.outlasts with ⟨found, hreload, hcontents⟩ | ⟨hdied, -, hfile⟩
  · have hidle : (idle b.files).Sound path devices := ⟨found, hreload⟩
    have hrunning : (running b).Sound path devices :=
      ⟨htends.path.trans hplace, hafter, found, hreload, hcontents⟩
    rcases r with (_ | _ | _) | _
    · exact hrunning
    · exact hidle
    · exact hidle
    · exact hrunning
  · obtain rfl : r = .error .died := hdied
    have hfile : b.files.target = a.files.target := hfile
    exact ⟨before, by rw [hfile]; exact hbefore⟩

/-- Every action keeps the files those of the hardware. -/
lemma sound_step (hpath : isPathSafe path = true)
    (hquiet : devices.faults.silentDeviceReset = false)
    (action : PlantAction) (hp : p.Sound path devices) (haction : Works discovery p action) :
    (step discovery path devices action p).Sound path devices := by
  cases action with
  | create options entropy os =>
    cases p with
    | running a => exact hp
    | idle files => exact sound_create hpath hquiet options entropy haction hp
  | call call =>
    cases p with
    | idle files => exact hp
    | running a => exact sound_behind hp (call_tends hpath hp call haction)
  | perish =>
    cases p with
    | idle files => exact hp
    | running a =>
      obtain ⟨-, -, found, hfound, -⟩ := hp
      exact ⟨found, hfound⟩

theorem sound_of_reachable (hpath : isPathSafe path = true)
    (hquiet : devices.faults.silentDeviceReset = false)
    (hp : (plant discovery path devices).Reachable (Works discovery) p) :
    p.Sound path devices := by
  refine System.Reachable.invariant ?_ (fun p action hp haction ↦
    sound_step hpath hquiet action hp haction) hp
  rintro p ⟨temporary, rfl⟩
  exact ⟨devices, rfl⟩

/-- Every process that begins over the files has what the hardware holds. -/
def Recovers (discovery : UInt64 → SyntheticBackend → Result (List BackendAccelerator))
    (path : Text) (devices : SyntheticBackend) (files : Files) (hardware : SyntheticBackend) :
    Prop :=
  ∀ (options : WorkerOptions) (entropy : UInt64) (os : Filing),
    options.limits.validate = success → os.Reads →
      ∃ c, create discovery path devices options entropy os files = .ok c ∧
        SameContents hardware c.hardware

lemma recovers_of_recorded (hpath : isPathSafe path = true) {files : Files}
    {hardware : SyntheticBackend} (h : Recorded devices files.target hardware) :
    Recovers discovery path devices files hardware := by
  intro options entropy os hlimits hos
  obtain ⟨found, hfound, hsame⟩ := h
  obtain ⟨c, hcreate, -, -, rfl⟩ := create_reloads hpath options entropy hos hfound hlimits
  exact ⟨c, hcreate, hsame⟩

/-- Whatever processes have run on a machine and wherever they died, a process that is killed now
is followed by one that finds the same hardware. Over a call it may die as well: the next process
then finds the hardware as the call left it, and as it was before only if nothing was answered
yet. -/
theorem restart_recovers (hpath : isPathSafe path = true)
    (hquiet : devices.faults.silentDeviceReset = false)
    (hp : (plant discovery path devices).Reachable (Works discovery) (.running a)) :
    Recovers discovery path devices a.files a.hardware ∧
      ∀ call, Calls discovery a call → ∀ b r,
        call.run (SyntheticBackend.hardware discovery) a = (b, r) →
          Recovers discovery path devices b.files b.hardware ∨
            r = .error .died ∧ b.sent = a.sent ∧
              Recovers discovery path devices b.files a.hardware := by
  have hsound := sound_of_reachable hpath hquiet hp
  refine ⟨recovers_of_recorded hpath hsound.2.2, fun call hcall b r hrun ↦ ?_⟩
  have houtlasts := (call_tends hpath hsound call hcall).outlasts
  rw [hrun] at houtlasts
  rcases houtlasts with hrecorded | ⟨hdied, hsent, hfile⟩
  · exact .inl (recovers_of_recorded hpath hrecorded)
  · refine .inr ⟨hdied, hsent, recovers_of_recorded hpath ?_⟩
    have hfile : b.files.target = a.files.target := hfile
    rw [hfile]
    exact hsound.2.2

end Plant

namespace Sample

/-- There is room for a checkpoint. -/
def roomy : Surroundings := { os := { pieces := [checkpointBytes] } }

/-- The bytes of a message. -/
def contents (t : Payload) (m : t.Message) : List UInt8 := (t.encodePayload {} m).content

/-- The coordinator accepts the worker and its evidence. -/
def accepting : Reception where
  hello := .ok
    { type := .helloAck
      payload := contents .helloAck { accepted := true, epoch := 1 } }
  registration := .ok
    { type := .registerAck
      payload := contents .registerAck { accepted := true } }
  evidence := .ok
    { type := .evidenceAck
      payload := contents .evidenceAck { accepted := true } }

/-- The request for a partition on the device. -/
def demanding (attempt : PartitionAttemptId) : Frame :=
  let message : MutationRequestMessage :=
    { attempt := attempt
      reservation := 3
      request :=
        { stableKey := "a"
          idempotencyToken := attempt
          desired := [{ vendorNativeProfile := "p" }] } }
  { type := .mutationRequest
    coordinatorEpoch := 1
    payload := contents .mutationRequest message }

/-- A process begins over no file, registers its worker and creates a partition. -/
def begins : List PlantAction :=
  [.create { workerId := 7, workerBoot := 8 } 0 {}, .call (.start {} roomy accepting),
    .call (.serve roomy (.ok (demanding 5)))]

/-- A machine with one device. -/
def machine : System Plant PlantAction :=
  plant (fun _ _ ↦ .ok []) "device.state" SyntheticBackend.Sample.empty

/-- A second creation, over which the process dies while it writes the file. -/
def fatal : WorkerCall := .serve { roomy with life := 1 } (.ok (demanding 6))

/-- How many partitions the devices have, each. -/
def counts (backend : SyntheticBackend) : List ℕ :=
  backend.devices.values.map fun device ↦ device.partitions.length

/-- The process is gone. -/
def isDied : Except Ending Unit → Bool
  | .error .died => true
  | _ => false

lemma eq_of_isDied {r : Except Ending Unit} (h : isDied r = true) : r = .error .died := by
  unfold isDied at h
  split at h
  · rfl
  · cases h

/-- A process has answered for one creation, and it dies over the other one. -/
def Succumbs (a : Agent SyntheticBackend) : Prop :=
  Plant.Calls (fun _ _ ↦ .ok []) a fatal ∧ counts a.hardware = [1] ∧ a.sent.length = 4 ∧
    counts (fatal.run Sample.hardware a).1.hardware = [2] ∧
      isDied (fatal.run Sample.hardware a).2 = true

instance (a : Agent SyntheticBackend) : Decidable (Succumbs a) :=
  inferInstanceAs (Decidable (_ ∧ _))

def succumbs : Plant → Bool
  | .idle _ => false
  | .running a => decide (Succumbs a)

end Sample

namespace Plant

/-- The process dies over its second creation; the first one is on file and was answered, the
second one is neither. -/
theorem restart_recovers_created : ∃ a b : Agent SyntheticBackend,
    Sample.counts a.hardware = [1] ∧ a.sent.length = 4 ∧ Sample.counts b.hardware = [2] ∧
      Sample.fatal.run Sample.hardware a = (b, .error .died) ∧
      Recovers (fun _ _ ↦ .ok []) "device.state" SyntheticBackend.Sample.empty a.files a.hardware ∧
      (Recovers (fun _ _ ↦ .ok []) "device.state" SyntheticBackend.Sample.empty b.files b.hardware ∨
        b.sent = a.sent ∧
          Recovers (fun _ _ ↦ .ok []) "device.state" SyntheticBackend.Sample.empty b.files
            a.hardware) := by
  have hpath : isPathSafe ("device.state" : Text) = true := by decide +kernel
  have hquiet : SyntheticBackend.Sample.empty.faults.silentDeviceReset = false := by decide +kernel
  have hp : Sample.machine.Reachable (Works fun _ _ ↦ .ok [])
      (Sample.machine.run Sample.begins (.idle {})) :=
    .run (.initial ⟨none, rfl⟩) (by decide +kernel)
  have hlast : Sample.succumbs (Sample.machine.run Sample.begins (.idle {})) = true := by
    decide +kernel
  cases hbegun : Sample.machine.run Sample.begins (.idle {}) with
  | idle files =>
    rw [hbegun] at hlast
    cases hlast
  | running a =>
    rw [hbegun] at hp hlast
    obtain ⟨hcall, hcount, hsent, hafter, hdied⟩ := of_decide_eq_true hlast
    have hrun : Sample.fatal.run Sample.hardware a =
        ((Sample.fatal.run Sample.hardware a).1, .error .died) :=
      Prod.ext rfl (Sample.eq_of_isDied hdied)
    obtain ⟨hkilled, hcalls⟩ := restart_recovers hpath hquiet hp
    exact ⟨a, _, hcount, hsent, hafter, hrun, hkilled,
      (hcalls _ hcall _ _ hrun).imp_right And.right⟩

end Plant

end Plants

end PartitionFabric

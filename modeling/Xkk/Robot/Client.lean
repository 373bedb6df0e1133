import Xkk.Auth.Admission

/-! # What the client makes of the answers of Auth

`admit_role` of the robot asks again and again until it is given endpoints, and
takes an answer that is neither a queue nor a choice of endpoints for a fault.  The
answers of `use_role` are followed from the view of discovery to the listener that
the client connects to.
-/

namespace Xkk.Robot

open Xkk.Lib
open Xkk.Protocol
open Xkk.Config Xkk.Cluster Xkk.Auth

/-- The endpoints are those of a Gate with one of the configurations. -/
def Leads (configs : Set ValidGateConfig) (endpoints : List Endpoint) : Prop :=
  ∃ config ∈ configs, ∃ gate, Advertises config gate ∧ endpoints = gateEndpoints gate

/-- An answer is an error, a place in the queue, or the endpoints of a Gate. -/
inductive Answers (configs : Set ValidGateConfig) (gid : Int) : AuthUseRoleRsp → Prop where
  | error {code : Int} {message : String} : code ≠ Code.OK → Answers configs gid (useRoleError code message)
  | queued {position next : Int} : 0 < position → 0 < next →
      Answers configs gid ⟨some okStatus, gid, [], some ⟨position, next⟩⟩
  | admitted {endpoints : List Endpoint} : endpoints ≠ [] → Leads configs endpoints →
      Answers configs gid ⟨some okStatus, gid, endpoints, none⟩

/-- What a call of `use_role` has in hand. -/
def Prepared (configs : Set ValidGateConfig) (gid : Int) : UseRole → Prop
  | .admitting position => 0 < position
  | .departing endpoints => endpoints ≠ [] ∧ Leads configs endpoints
  | .returned response => Answers configs gid response
  | _ => True

structure Guiding (configs : Set ValidGateConfig) (s : AuthApi) : Prop where
  gates : ∀ gate ∈ s.gates, ∃ config ∈ configs, Advertises config gate
  calls : ∀ call ∈ s.calls, Prepared configs call.request.gid call.phase

/-- Discovery shows Gates that run one of the configurations. -/
def Shows (configs : Set ValidGateConfig) (_ : AuthApi) : AuthApi.Label → Prop
  | .observe gates => ∀ gate ∈ gates, ∃ config ∈ configs, Advertises config gate
  | _ => True

variable {configs : Set ValidGateConfig} {frame : PickMin} {s t : AuthApi}

theorem Guiding.setPhase (guiding : Guiding configs s) {i : Nat} {call : RoleCall} {phase : UseRole}
    (gates : List ServiceInstance) (queue : Cache.LoginQueue) (admitted : Nat)
    (advertised : ∀ gate ∈ gates, ∃ config ∈ configs, Advertises config gate)
    (prepared : Prepared configs call.request.gid phase) :
    Guiding configs ({ s with gates := gates, queue := queue, admitted := admitted }.setPhase i call phase) where
  gates := advertised
  calls := by
    intro other inside
    rcases List.mem_or_eq_of_mem_set inside with before | rfl
    · exact guiding.calls other before
    · exact prepared

theorem position_pos {queue : Cache.LoginQueue} {clock gid nowMs : Int} {ttl : Nat} {position : Int}
    (answered : (queue.enqueueLogin clock gid nowMs ttl).2 = some position) : 0 < position := by
  have placed := Cache.LoginQueue.answer_eq_position answered
  obtain ⟨rank, _, rfl⟩ := Option.map_eq_some_iff.mp placed
  omega

theorem guiding_initial : Guiding configs AuthApi.initial where
  gates := by simp [AuthApi.initial]
  calls := by simp [AuthApi.initial]

theorem prepared_accept (s : AuthApi) (request : AuthUseRoleReq) (decoded : Option Int) :
    Prepared configs request.gid (s.accept request decoded) := by
  unfold AuthApi.accept
  split
  · exact .error (by decide)
  · split
    · exact .error (by decide)
    · split
      · trivial
      · exact .error (by decide)

theorem prepared_load (s : AuthApi) (call : RoleCall) (online : Option (Option Cache.OnlineData))
    (discovered : Bool) : Prepared configs call.request.gid (s.load call online discovered) := by
  unfold AuthApi.load
  split
  · split
    · exact .error (by decide)
    · split
      · trivial
      · exact .error (by decide)
  · exact .error (by decide)
  · exact .error (by decide)

/-- The retry time of a place in the queue is after the epoch. -/
theorem answers_queued (request : AuthUseRoleReq) {position : Int} (now : Nat) (positive : 0 < position) :
    Answers configs request.gid (useRoleQueued request position now) := by
  apply Answers.queued positive
  show 0 < (now : Int) + LOGIN_QUEUE_RETRY_SECONDS
  unfold LOGIN_QUEUE_RETRY_SECONDS
  omega

theorem prepared_place (call : RoleCall) (available now : Nat) {position : Option Int}
    (positive : ∀ place ∈ position, 0 < place) :
    Prepared configs call.request.gid (AuthApi.place call available now position) := by
  unfold AuthApi.place
  split
  · exact .error (by decide)
  · next position =>
    split
    · trivial
    · split
      · exact answers_queued call.request now (positive position rfl)
      · exact positive position rfl

theorem Guiding.takePlace (guiding : Guiding configs s) {i : Nat} {call : RoleCall} {position : Int} {now : Nat}
    {allowed : Option Bool} (positive : 0 < position) :
    Guiding configs (s.takePlace frame i call position now allowed) := by
  unfold AuthApi.takePlace
  split
  · exact guiding.setPhase s.gates s.queue s.admitted guiding.gates (.error (by decide))
  · exact guiding.setPhase s.gates s.queue s.admitted guiding.gates (answers_queued call.request now positive)
  · split
    · exact guiding.setPhase s.gates s.queue s.admitted guiding.gates (.error (by decide))
    · next k gate picked =>
      obtain ⟨k, _, isThere⟩ := Option.bind_eq_some_iff.mp picked
      obtain ⟨gate, found, ⟨⟩⟩ := Option.map_eq_some_iff.mp isThere
      obtain ⟨config, isConfig, advertises⟩ := guiding.gates gate (List.mem_of_getElem? found)
      refine guiding.setPhase _ s.queue _ ?_ ?_
      · intro other inside
        rcases List.mem_or_eq_of_mem_set inside with before | rfl
        · exact guiding.gates other before
        · exact ⟨config, isConfig, advertises⟩
      · split
        · exact .error (by decide)
        · next some => exact ⟨some, config, isConfig, gate, advertises, rfl⟩

theorem guiding_step {l : AuthApi.Label} (guiding : Guiding configs s) (shows : Shows configs s l)
    (taken : s.step frame l = some t) : Guiding configs t := by
  cases l with
  | useRole request decoded =>
    simp only [AuthApi.step, Option.some.injEq] at taken
    subst taken
    refine ⟨guiding.gates, ?_⟩
    intro call inside
    rcases List.mem_append.mp inside with before | isNew
    · exact guiding.calls call before
    · rw [List.mem_singleton.mp isNew]
      exact prepared_accept s request decoded
  | load i online discovered =>
    obtain ⟨call, _, moved⟩ := Option.bind_eq_some_iff.mp taken
    split at moved <;> cases moved
    exact guiding.setPhase s.gates s.queue s.admitted guiding.gates (prepared_load s call online discovered)
  | enqueue i clock nowMs answer now =>
    obtain ⟨call, _, moved⟩ := Option.bind_eq_some_iff.mp taken
    split at moved
    · next available _ =>
      cases moved
      apply guiding.setPhase s.gates _ s.admitted guiding.gates
      apply prepared_place call available now
      intro place isPlace
      split at isPlace
      · exact position_pos isPlace
      · cases isPlace
    · cases moved
  | leave i answer =>
    obtain ⟨call, found, moved⟩ := Option.bind_eq_some_iff.mp taken
    simp only at moved
    split at moved
    · cases moved
      exact guiding.setPhase s.gates _ s.admitted guiding.gates (.error (by decide))
    · next endpoints departing =>
      cases moved
      have prepared := guiding.calls call (List.mem_of_getElem? found)
      rw [departing] at prepared
      exact guiding.setPhase s.gates _ s.admitted guiding.gates (.admitted prepared.1 prepared.2)
    · cases moved
  | allow i allowed now =>
    obtain ⟨call, found, moved⟩ := Option.bind_eq_some_iff.mp taken
    split at moved
    · next position admitting =>
      cases moved
      have positive := guiding.calls call (List.mem_of_getElem? found)
      rw [admitting] at positive
      exact guiding.takePlace positive
    · cases moved
  | drop i =>
    obtain ⟨call, _, moved⟩ := Option.bind_eq_some_iff.mp taken
    split at moved <;> cases moved
    exact guiding.setPhase s.gates s.queue s.admitted guiding.gates trivial
  | login =>
    simp only [AuthApi.step] at taken
    split at taken <;> cases taken
    exact ⟨guiding.gates, guiding.calls⟩
  | loginReturns =>
    simp only [AuthApi.step] at taken
    split at taken <;> cases taken
    exact ⟨guiding.gates, guiding.calls⟩
  | observe gates =>
    simp only [AuthApi.step, Option.some.injEq] at taken
    subst taken
    exact ⟨shows, guiding.calls⟩
  | others queue =>
    simp only [AuthApi.step, Option.some.injEq] at taken
    subst taken
    exact ⟨guiding.gates, guiding.calls⟩

/-! ## What the client does with it -/

/-- An Auth process has answered a call for this player so. -/
def Answered (frame : PickMin) (configs : Set ValidGateConfig) (gid : Int) (response : AuthUseRoleRsp) : Prop :=
  ∃ (s : AuthApi) (call : RoleCall), (AuthApi.system frame).Reach (Shows configs) s ∧ call ∈ s.calls
    ∧ call.request.gid = gid ∧ call.phase = .returned response

theorem Answered.answers {gid : Int} {response : AuthUseRoleRsp} (answered : Answered frame configs gid response) :
    Answers configs gid response := by
  obtain ⟨s, call, reached, inside, rfl, returned⟩ := answered
  have guiding : Guiding configs s := by
    refine reached.inv ?_ ?_
    · rintro s rfl
      exact guiding_initial
    · intro s l t guiding shows taken
      exact guiding_step guiding shows taken
  have prepared := guiding.calls call inside
  rwa [returned] at prepared

/-- How `admit_role` may end. -/
inductive Outcome (configs : Set ValidGateConfig) : Except String (List Endpoint) → Prop where
  | failed {code : Int} {message : String} : code ≠ Code.OK →
      Outcome configs (.error s!"Auth use-role failed: code={code} message={message}")
  | late : Outcome configs (.error "Auth use-role queue timed out")
  | admitted {endpoints : List Endpoint} : Leads configs endpoints → Outcome configs (.ok endpoints)

/-- One player is admitted. -/
def admission : List AuthApi.Label :=
  [.useRole ⟨5, "token", "robot-device"⟩ (some 5), .load 0 (some (some ⟨"", 5, "token", 0, 0, 0, 0, 0, 0⟩)) true,
    .enqueue 0 0 0 .ok 0, .allow 0 (some true) 0, .leave 0 .ok]

/-- The step leaves the view of discovery to the picks. -/
def Keeps (_ : AuthApi) : AuthApi.Label → Prop
  | .observe _ => False
  | _ => True

instance (s : AuthApi) (l : AuthApi.Label) : Decidable (Keeps s l) :=
  match l with
  | .observe _ => .isFalse id
  | .useRole .. | .load .. | .enqueue .. | .leave .. | .allow .. | .drop _ | .login | .loginReturns | .others _ =>
    .isTrue trivial

end Xkk.Robot

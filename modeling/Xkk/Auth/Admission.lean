import Mathlib.Data.List.MinMax
import Xkk.Auth.Account
import Xkk.Cache.LoginQueue
import Xkk.Cluster.Endpoints

/-! # The admission of a role

`use_role` of one Auth process.  A call takes a permit, compares the token with
Redis, adds up what the discovered Gates have room for, asks Redis for its place in
the login queue and, if that place is within the room, for leave of the rate
limiter; then it picks a Gate and counts the player there.  The sum and the count
are made on the view of discovery, which is replaced from time to time; between
them stand two answers of Redis, and the other calls.
-/

namespace Xkk.Auth

open Xkk.Lib
open Xkk.Protocol
open Xkk.Cluster (ServiceInstance Endpoint gateEndpoints)

def HTTP_INFLIGHT_CAPACITY : Nat := 1024
def GATE_PLAYER_CAPACITY : Nat := 10000
def LOGIN_QUEUE_CAPACITY : Int := 100000
def LOGIN_QUEUE_RETRY_SECONDS : Int := 3
/-- Nanoseconds. -/
def LOGIN_QUEUE_ENTRY_TTL : Nat := 30 * 10 ^ 9

structure AuthUseRoleReq where
  gid : Int
  token : String
  deviceId : String
deriving DecidableEq, Repr

structure LoginQueue where
  position : Int
  nextRequestTime : Int
deriving DecidableEq, Repr

structure AuthUseRoleRsp where
  status : Option Status
  gid : Int
  endpoints : List Endpoint
  queue : Option LoginQueue
deriving DecidableEq, Repr

def useRoleError (errorCode : Int) (message : String) : AuthUseRoleRsp :=
  ⟨some (errorStatus errorCode message), 0, [], none⟩

/-- The answer to a player who has to wait. -/
def useRoleQueued (request : AuthUseRoleReq) (position : Int) (now : Nat) : AuthUseRoleRsp :=
  ⟨some okStatus, request.gid, [], some ⟨position, now + LOGIN_QUEUE_RETRY_SECONDS⟩⟩

/-! ## The Gates -/

def eligible (gate : ServiceInstance) : Bool := gate.enable && gate.healthy

/-- What the Gate has room for. -/
def vacancy (gate : ServiceInstance) : Nat :=
  if eligible gate then GATE_PLAYER_CAPACITY - gate.onlineCount else 0

def available (gates : List ServiceInstance) : Nat := Pool.total vacancy gates

/-- `pick_min_online_discovered_and_increment` of the framework, apart from its
    increment: an enabled healthy instance with the fewest players. -/
structure PickMin where
  pick : List ServiceInstance → Option Nat
  lowest : ∀ gates i, pick gates = some i → ∃ gate : ServiceInstance, gates[i]? = some gate ∧ eligible gate = true
    ∧ ∀ other ∈ gates, eligible other = true → gate.onlineCount ≤ other.onlineCount

/-- The first of the eligible instances with the lowest count. -/
def PickMin.first : PickMin where
  pick gates := ((gates.zipIdx.filter fun entry => eligible entry.1).argmin (·.1.onlineCount)).map (·.2)
  lowest := by
    intro gates i picked
    obtain ⟨entry, chosen, rfl⟩ := Option.map_eq_some_iff.mp picked
    obtain ⟨member, isEligible⟩ := List.mem_filter.mp (List.argmin_mem chosen)
    refine ⟨entry.1, List.mem_zipIdx_iff_getElem?.mp member, isEligible, ?_⟩
    intro other inside allowed
    obtain ⟨k, there⟩ := List.mem_iff_getElem?.mp inside
    have listed : (other, k) ∈ gates.zipIdx.filter fun entry => eligible entry.1 :=
      List.mem_filter.mpr ⟨List.mem_zipIdx_iff_getElem?.mpr there, allowed⟩
    exact List.le_of_mem_argmin (f := fun entry : ServiceInstance × Nat => entry.1.onlineCount) listed chosen

/-! ## Calls -/

inductive UseRole where
  | loading
  | enqueueing (available : Nat)
  | leaving                                   -- the queue is full
  | admitting (position : Int)
  | departing (endpoints : List Endpoint)
  | returned (response : AuthUseRoleRsp)
  | dropped                                   -- the client went away
deriving DecidableEq, Repr

/-- The call has its permit. -/
def UseRole.holds : UseRole → Bool
  | .returned _ | .dropped => false
  | _ => true

/-- The call found room, and has not counted its player yet. -/
def UseRole.carries : UseRole → Bool
  | .enqueueing available => 0 < available
  | .admitting _ => true
  | _ => false

structure RoleCall where
  request : AuthUseRoleReq
  phase : UseRole
deriving DecidableEq, Repr

structure AuthApi where
  gates : List ServiceInstance
  queue : Cache.LoginQueue
  logins : Nat                  -- the permits that calls of `login` hold
  calls : List RoleCall
  room : Nat                    -- what the view of discovery had room for when it came
  admitted : Nat                -- the players counted on it since

namespace AuthApi

def holding (s : AuthApi) : Nat := Pool.total (fun call => if call.phase.holds then 1 else 0) s.calls

def carrying (s : AuthApi) : Nat := Pool.total (fun call => if call.phase.carries then 1 else 0) s.calls

inductive Label where
  | useRole (request : AuthUseRoleReq) (decoded : Option Int)      -- what the token decodes to
  | load (i : Nat) (online : Option (Option Cache.OnlineData)) (discovered : Bool)
  | enqueue (i : Nat) (clock nowMs : Int) (answer : Answer) (now : Nat)
  | leave (i : Nat) (answer : Answer)
  | allow (i : Nat) (allowed : Option Bool) (now : Nat)
  | drop (i : Nat)
  | login
  | loginReturns
  | observe (gates : List ServiceInstance)       -- discovery, or the counts in Redis
  | others (queue : Cache.LoginQueue)            -- the other Auth processes

def setPhase (s : AuthApi) (i : Nat) (call : RoleCall) (phase : UseRole) : AuthApi :=
  { s with calls := s.calls.set i { call with phase := phase } }

/-- The checks before the first await. -/
def accept (s : AuthApi) (request : AuthUseRoleReq) (decoded : Option Int) : UseRole :=
  if s.logins + s.holding = HTTP_INFLIGHT_CAPACITY then
    .returned (useRoleError Code.OVERLOADED "Auth request capacity exhausted")
  else if request.gid ≤ 0 ∨ request.token.isEmpty ∨ request.deviceId.utf8ByteSize < 8 then
    .returned (useRoleError Code.INVALID_ARGUMENT "invalid role request")
  else if decoded = some request.gid then .loading
  else .returned (useRoleError Code.UNAUTHENTICATED "token verification failed")

/-- From the online state to the sum over the Gates; `none` is an error of Redis,
    and `discovered` is whether discovery answers. -/
def load (s : AuthApi) (call : RoleCall) (online : Option (Option Cache.OnlineData)) (discovered : Bool) : UseRole :=
  match online with
  | some (some online) =>
    if online.token ≠ call.request.token then
      .returned (useRoleError Code.UNAUTHENTICATED "token state mismatch")
    else if discovered then .enqueueing (available s.gates)
    else .returned (useRoleError Code.TEMPORARILY_UNAVAILABLE "Gate unavailable")
  | some none => .returned (useRoleError Code.UNAUTHENTICATED "token state mismatch")
  | none => .returned (useRoleError Code.INTERNAL "online state load failed")

/-- What the call does with the position that the queue answers. -/
def place (call : RoleCall) (available : Nat) (now : Nat) : Option Int → UseRole
  | none => .returned (useRoleError Code.INTERNAL "login queue failed")
  | some position =>
    if position > LOGIN_QUEUE_CAPACITY then .leaving
    else if available = 0 ∨ position > available then .returned (useRoleQueued call.request position now)
    else .admitting position

/-- From the answer of the limiter to the endpoints of the Gate. -/
def takePlace (frame : PickMin) (s : AuthApi) (i : Nat) (call : RoleCall) (position : Int) (now : Nat) :
    Option Bool → AuthApi
  | none => s.setPhase i call (.returned (useRoleError Code.INTERNAL "role admission failed"))
  | some false => s.setPhase i call (.returned (useRoleQueued call.request position now))
  | some true =>
    match (frame.pick s.gates).bind fun k => s.gates[k]?.map fun gate => (k, gate) with
    | none => s.setPhase i call (.returned (useRoleError Code.TEMPORARILY_UNAVAILABLE "Gate unavailable"))
    | some (k, gate) =>
      { s with
        gates := s.gates.set k { gate with onlineCount := gate.onlineCount + 1 }
        admitted := s.admitted + 1 }.setPhase i call
        (if gateEndpoints gate = [] then
          .returned (useRoleError Code.TEMPORARILY_UNAVAILABLE "Gate endpoint unavailable")
        else .departing (gateEndpoints gate))

def step (frame : PickMin) (s : AuthApi) : Label → Option AuthApi
  | .useRole request decoded => some { s with calls := s.calls ++ [⟨request, s.accept request decoded⟩] }
  | .load i online discovered =>
    s.calls[i]?.bind fun call =>
      if call.phase = .loading then some (s.setPhase i call (s.load call online discovered)) else none
  | .enqueue i clock nowMs answer now =>
    s.calls[i]?.bind fun call => match call.phase with
      | .enqueueing available =>
        let (queue, position) := s.queue.enqueueLogin clock call.request.gid nowMs LOGIN_QUEUE_ENTRY_TTL
        some ({ s with queue := if answer.applied then queue else s.queue }.setPhase i call
          (place call available now (if answer = Answer.ok then position else none)))
      | _ => none
  | .leave i answer =>
    s.calls[i]?.bind fun call =>
      -- a failed removal is logged, or not looked at
      let left := { s with queue := if answer.applied then s.queue.leaveLoginQueue call.request.gid else s.queue }
      match call.phase with
      | .leaving => some (left.setPhase i call (.returned (useRoleError Code.OVERLOADED "login queue is full")))
      | .departing endpoints =>
        some (left.setPhase i call (.returned ⟨some okStatus, call.request.gid, endpoints, none⟩))
      | _ => none
  | .allow i allowed now =>
    s.calls[i]?.bind fun call => match call.phase with
      | .admitting position => some (s.takePlace frame i call position now allowed)
      | _ => none
  | .drop i =>
    s.calls[i]?.bind fun call => if call.phase.holds then some (s.setPhase i call .dropped) else none
  | .login => if s.logins + s.holding = HTTP_INFLIGHT_CAPACITY then none else some { s with logins := s.logins + 1 }
  | .loginReturns => if s.logins = 0 then none else some { s with logins := s.logins - 1 }
  | .observe gates => some { s with gates := gates, room := available gates, admitted := 0 }
  | .others queue => some { s with queue := queue }

def initial : AuthApi := ⟨[], .empty, 0, [], 0, 0⟩

def system (frame : PickMin) : System AuthApi Label := .ofFun (· = initial) (step frame)

/-! ## How many players are counted on one view -/

/-- Until the room is used up the view shows what is left of it; after that it shows
    none, and only the calls that found room before are admitted. -/
structure Booked (s : AuthApi) : Prop where
  permits : s.logins + s.holding ≤ HTTP_INFLIGHT_CAPACITY
  left : s.admitted ≤ s.room → available s.gates + s.admitted = s.room
  full : s.room ≤ s.admitted →
    available s.gates = 0 ∧ s.admitted + s.carrying ≤ s.room + HTTP_INFLIGHT_CAPACITY

variable {frame : PickMin} {s t : AuthApi}

theorem carrying_le_holding (s : AuthApi) : s.carrying ≤ s.holding := by
  apply Pool.total_le_total
  intro call
  cases call.phase <;> simp [UseRole.carries, UseRole.holds]
  split <;> omega

theorem holding_set {i : Nat} {call : RoleCall} (phase : UseRole) (found : s.calls[i]? = some call) :
    (s.setPhase i call phase).holding + (if call.phase.holds then 1 else 0)
      = s.holding + (if phase.holds then 1 else 0) :=
  Pool.total_set (fun call => if call.phase.holds then 1 else 0) { call with phase := phase } found

theorem carrying_set {i : Nat} {call : RoleCall} (phase : UseRole) (found : s.calls[i]? = some call) :
    (s.setPhase i call phase).carrying + (if call.phase.carries then 1 else 0)
      = s.carrying + (if phase.carries then 1 else 0) :=
  Pool.total_set (fun call => if call.phase.carries then 1 else 0) { call with phase := phase } found

/-- A call moves on without a pick. -/
theorem Booked.setPhase (booked : Booked s) {i : Nat} {call : RoleCall} {phase : UseRole} (queue : Cache.LoginQueue)
    (found : s.calls[i]? = some call) (held : phase.holds = true → call.phase.holds = true)
    (carried : phase.carries = true → call.phase.carries = true ∨ 0 < available s.gates) :
    Booked ({ s with queue := queue }.setPhase i call phase) where
  permits := by
    have permits := booked.permits
    have moved := holding_set phase found
    change s.logins + (s.setPhase i call phase).holding ≤ _
    cases holds : phase.holds with
    | true =>
      rw [holds, held holds] at moved
      omega
    | false =>
      simp only [holds, Bool.false_eq_true, if_false] at moved
      omega
  left := booked.left
  full := by
    intro used
    obtain ⟨none, bounded⟩ := booked.full used
    refine ⟨none, ?_⟩
    have moved := carrying_set phase found
    change s.admitted + (s.setPhase i call phase).carrying ≤ s.room + _
    cases carries : phase.carries with
    | true =>
      rcases carried carries with before | room
      · rw [carries, before] at moved
        omega
      · omega
    | false =>
      simp only [carries, Bool.false_eq_true, if_false] at moved
      omega

/-- A pick takes one from the room, as long as there is some. -/
theorem available_set (frame : PickMin) {gates : List ServiceInstance} {k : Nat} {gate : ServiceInstance}
    (picked : frame.pick gates = some k) (found : gates[k]? = some gate) :
    available (gates.set k { gate with onlineCount := gate.onlineCount + 1 }) = available gates - 1 := by
  obtain ⟨lowest, isLowest, isEligible, fewest⟩ := frame.lowest gates k picked
  obtain rfl := Option.some.inj (found.symm.trans isLowest)
  have moved := Pool.total_set vacancy { gate with onlineCount := gate.onlineCount + 1 } found
  change available (gates.set k _) + vacancy gate = available gates + _ at moved
  have before : vacancy gate = GATE_PLAYER_CAPACITY - gate.onlineCount := if_pos isEligible
  have after : vacancy { gate with onlineCount := gate.onlineCount + 1 }
      = GATE_PLAYER_CAPACITY - (gate.onlineCount + 1) := if_pos isEligible
  by_cases full : GATE_PLAYER_CAPACITY ≤ gate.onlineCount
  · -- no other Gate has room either
    have none : available gates = 0 := by
      by_contra some
      obtain ⟨i, other, there, room⟩ := Pool.exists_weight (Nat.pos_of_ne_zero some)
      unfold vacancy at room
      split at room
      · next allowed =>
        have := fewest other (List.mem_of_getElem? there) allowed
        omega
      · omega
    omega
  · have := Pool.weight_le_total vacancy found
    change _ ≤ available gates at this
    omega

theorem Booked.takePlace (booked : Booked s) {i : Nat} {call : RoleCall} {position : Int} {now : Nat}
    {allowed : Option Bool} (found : s.calls[i]? = some call) (admitting : call.phase = .admitting position) :
    Booked (s.takePlace frame i call position now allowed) := by
  have holds : call.phase.holds = true := by simp [admitting, UseRole.holds]
  have carries : call.phase.carries = true := by simp [admitting, UseRole.carries]
  unfold AuthApi.takePlace
  split
  · exact booked.setPhase s.queue found (fun _ => holds) (fun _ => .inl carries)
  · exact booked.setPhase s.queue found (fun _ => holds) (fun _ => .inl carries)
  · split
    · exact booked.setPhase s.queue found (fun _ => holds) (fun _ => .inl carries)
    · next k gate picked =>
      obtain ⟨k, isPicked, isThere⟩ := Option.bind_eq_some_iff.mp picked
      obtain ⟨gate, isGate, ⟨⟩⟩ := Option.map_eq_some_iff.mp isThere
      have fewer := available_set frame isPicked isGate
      -- the call that counted its player does not carry one any more
      have lighter : ∀ phase : UseRole, phase.carries = false → Booked ({ s with
          gates := s.gates.set k { gate with onlineCount := gate.onlineCount + 1 }
          admitted := s.admitted + 1 }.setPhase i call phase) := by
        intro phase carriesNot
        have heldSame := holding_set phase found
        have carriedSame := carrying_set phase found
        simp only [holds, carries, carriesNot, if_true, Bool.false_eq_true, if_false] at heldSame carriedSame
        have permits := booked.permits
        have below := carrying_le_holding s
        have left := booked.left
        have full := booked.full
        refine ⟨?_, ?_, ?_⟩
        · change s.logins + (s.setPhase i call phase).holding ≤ _
          split at heldSame <;> omega
        · change s.admitted + 1 ≤ s.room → available (s.gates.set k _) + (s.admitted + 1) = s.room
          omega
        · change s.room ≤ s.admitted + 1 → available (s.gates.set k _) = 0
            ∧ s.admitted + 1 + (s.setPhase i call phase).carrying ≤ s.room + _
          omega
      apply lighter
      split <;> rfl

theorem booked_initial : Booked initial where
  permits := Nat.zero_le _
  left := by simp [initial, available]
  full := by simp [initial, available, carrying]

/-- A call that enters found a permit, or has been answered. -/
theorem accept_light (s : AuthApi) (request : AuthUseRoleReq) (decoded : Option Int) :
    ((s.accept request decoded).holds = true → s.logins + s.holding ≠ HTTP_INFLIGHT_CAPACITY)
    ∧ (s.accept request decoded).carries = false := by
  unfold accept
  split
  · simp [UseRole.holds, UseRole.carries]
  · next room =>
    refine ⟨fun _ => room, ?_⟩
    split
    · rfl
    · split <;> rfl

theorem booked_step {l : Label} (booked : Booked s) (taken : s.step frame l = some t) : Booked t := by
  cases l with
  | useRole request decoded =>
    simp only [step, Option.some.injEq] at taken
    subst taken
    have permits := booked.permits
    obtain ⟨holds, carries⟩ := accept_light s request decoded
    refine ⟨?_, booked.left, ?_⟩
    · change s.logins + holding { s with calls := s.calls ++ [⟨request, s.accept request decoded⟩] } ≤ _
      simp only [holding, Pool.total_append, Pool.total_cons, Pool.total_nil] at permits holds ⊢
      split
      · next isHeld =>
        have := holds isHeld
        omega
      · omega
    · intro used
      refine ⟨(booked.full used).1, ?_⟩
      have bounded := (booked.full used).2
      change s.admitted + carrying { s with calls := s.calls ++ [⟨request, s.accept request decoded⟩] } ≤ s.room + _
      simpa [carrying, carries] using bounded
  | load i online discovered =>
    obtain ⟨call, found, moved⟩ := Option.bind_eq_some_iff.mp taken
    split at moved <;> cases moved
    next loading =>
      refine booked.setPhase s.queue found (fun _ => by simp [loading, UseRole.holds]) ?_
      intro carries
      refine .inr ?_
      unfold load at carries
      split at carries
      · split at carries
        · cases carries
        · split at carries
          · simpa [UseRole.carries] using carries
          · cases carries
      · cases carries
      · cases carries
  | enqueue i clock nowMs answer now =>
    obtain ⟨call, found, moved⟩ := Option.bind_eq_some_iff.mp taken
    split at moved
    · next available enqueueing =>
      cases moved
      refine booked.setPhase _ found (fun _ => by simp [enqueueing, UseRole.holds]) ?_
      intro carries
      refine .inl ?_
      unfold place at carries
      split at carries
      · cases carries
      · split at carries
        · cases carries
        · split at carries
          · cases carries
          · next room => simpa [enqueueing, UseRole.carries, Nat.pos_iff_ne_zero] using (not_or.mp room).1
    · cases moved
  | leave i answer =>
    obtain ⟨call, found, moved⟩ := Option.bind_eq_some_iff.mp taken
    simp only at moved
    split at moved
    · cases moved
      exact booked.setPhase _ found (by simp [UseRole.holds]) (by simp [UseRole.carries])
    · cases moved
      exact booked.setPhase _ found (by simp [UseRole.holds]) (by simp [UseRole.carries])
    · cases moved
  | allow i allowed now =>
    obtain ⟨call, found, moved⟩ := Option.bind_eq_some_iff.mp taken
    split at moved
    · next position admitting =>
      cases moved
      exact booked.takePlace found admitting
    · cases moved
  | drop i =>
    obtain ⟨call, found, moved⟩ := Option.bind_eq_some_iff.mp taken
    split at moved <;> cases moved
    exact booked.setPhase s.queue found (by simp [UseRole.holds]) (by simp [UseRole.carries])
  | login =>
    simp only [step] at taken
    split at taken <;> cases taken
    next room =>
      have permits := booked.permits
      refine ⟨?_, booked.left, booked.full⟩
      change s.logins + 1 + s.holding ≤ _
      omega
  | loginReturns =>
    simp only [step] at taken
    split at taken <;> cases taken
    have permits := booked.permits
    refine ⟨?_, booked.left, booked.full⟩
    change s.logins - 1 + s.holding ≤ _
    omega
  | observe gates =>
    simp only [step, Option.some.injEq] at taken
    subst taken
    have permits := booked.permits
    have below := carrying_le_holding s
    refine ⟨permits, fun _ => rfl, ?_⟩
    change available gates ≤ 0 → available gates = 0 ∧ 0 + s.carrying ≤ available gates + _
    omega
  | others queue =>
    simp only [step, Option.some.injEq] at taken
    subst taken
    exact ⟨booked.permits, booked.left, booked.full⟩

/-- However the calls interleave, an Auth process counts at most
    `HTTP_INFLIGHT_CAPACITY` players more on a view of discovery than the view had
    room for, and while it counts fewer the view shows what is left. -/
theorem admissions_within_room (reached : (system frame).Reach System.Any s) :
    s.admitted ≤ s.room + HTTP_INFLIGHT_CAPACITY
    ∧ (s.admitted ≤ s.room → available s.gates + s.admitted = s.room)
    ∧ (s.room ≤ s.admitted → available s.gates = 0) := by
  have booked : Booked s := by
    refine reached.inv ?_ ?_
    · rintro s rfl
      exact booked_initial
    · intro s l t booked _ taken
      exact booked_step booked taken
  refine ⟨?_, booked.left, fun used => (booked.full used).1⟩
  by_cases used : s.room ≤ s.admitted
  · have := (booked.full used).2
    omega
  · omega

/-- A Gate with room for one player, and two calls. -/
def lastPlace : List Label :=
  [.observe [⟨1, true, true, 9999, "gate", AList.insert "tcp_port" "3201" ∅⟩],
    .useRole ⟨5, "token", "robot-device"⟩ (some 5), .load 0 (some (some ⟨"", 5, "token", 0, 0, 0, 0, 0, 0⟩)) true,
    .useRole ⟨6, "other", "robot-device"⟩ (some 6), .load 1 (some (some ⟨"", 6, "other", 0, 0, 0, 0, 0, 0⟩)) true,
    .enqueue 0 0 0 .ok 0, .allow 0 (some true) 0, .leave 0 .ok, .enqueue 1 0 0 .ok 0, .allow 1 (some true) 0]

/-- The second call had found the room that the first one took. -/
theorem lastPlace_within_room : ∃ s : AuthApi, s.room = 1 ∧ s.admitted = 2 ∧ available s.gates = 0 := by
  have run : ∃ s, System.follow System.Any (step .first) initial lastPlace = some s ∧ s.room = 1 ∧ s.admitted = 2 := by
    decide +kernel
  obtain ⟨s, followed, room, admitted⟩ := run
  have reached : (system .first).Reach System.Any s := System.reach_of_follow rfl followed
  exact ⟨s, room, admitted, (admissions_within_room reached).2.2 (by omega)⟩

end AuthApi

end Xkk.Auth

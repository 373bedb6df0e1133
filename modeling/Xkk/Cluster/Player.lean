import Xkk.Gate.Session
import Xkk.Lib.Pool
import Xkk.Lib.Transition

/-! # One player over all Gates

The sessions of one player at any number of Gates, the Logic instance that owns
the player, and the Redis record.  Every handler is cut at the points where
other code can run: each lock-protected section of a session table, each Redis
command and each message is one step.

A session is a connection at a Gate.  `gate_id` and `session_id` together
identify it; Redis compares the `session_id` alone.
-/

namespace Xkk.Cluster

open Xkk.Lib Xkk.Gate

abbrev GateId := Int

structure Sess where
  gate : GateId
  id : SessionId
deriving DecidableEq, Repr

/-- What a `ClientSession` is here: whose it is and whether it has a connection. -/
structure Slot where
  sess : Sess
  active : Bool
deriving DecidableEq, Repr

/-! ## Handlers of a connection -/

inductive Phase where
  | verifying
  | authorizing (arc : Nat)      -- `authorize_reconnect` holds the `Arc`
  | awaiting                     -- the `LogicLoginReq` was sent
  | granted                      -- Logic answered, nothing is bound yet
  | completing (arc : Nat)       -- `complete_reconnect` holds the `Arc`
  | installed                    -- `save_online` is still to come
  | replaying
  | done
deriving DecidableEq, Repr

/-- `handle_login`, or `handle_reconnect` with the session that it resumes. -/
structure Handler where
  sess : Sess
  previous : Option SessionId
  phase : Phase
deriving DecidableEq, Repr

/-- Logic was asked and the session is not in the table yet. -/
def Phase.pending : Phase → Bool
  | .awaiting | .granted | .completing _ => true
  | _ => false

/-- The session has not reached the table. -/
def Phase.early : Phase → Bool
  | .verifying | .authorizing _ | .awaiting | .granted | .completing _ => true
  | _ => false

/-! ## Other work at a Gate -/

/-- `kick` is `kick_session` when `remote`, and then Logic waits for its answer;
    otherwise it is `kick_local`. -/
inductive Task where
  | disconnect (sess : Sess)
  | disconnectArc (sess : Sess) (arc : Nat)
  | kick (sess : Sess) (remote : Bool)
  | kickArc (sess : Sess) (remote : Bool) (arc : Nat)
  | kickRemove (sess : Sess) (remote : Bool) (arc : Nat)
  | logout (sess : Sess)
  | logoutArc (sess : Sess) (arc : Nat)
  | invalidate (sess : Sess)
  | notify (sess : Sess) (logout : Bool)     -- the `LogicDisconnectNtf` is still to be sent
  | clear (sess : Sess) (remote : Bool)      -- `clear_gate_by_session` is still to come
  | done
deriving DecidableEq, Repr

/-- A login command in the player's execution domain. -/
structure Command where
  sess : Sess
  old : Option Sess
  waits : Bool               -- for the answer to its `KickSessionReq`
deriving DecidableEq, Repr

structure State where
  arcs : List Slot
  table : GateId → Option Nat
  handlers : List Handler
  tasks : List Task
  requests : List (Sess × Bool)      -- `LogicLoginReq`, with its `reconnect` flag
  responses : List (Sess × Bool)     -- `LogicLoginRsp`, with whether its status is OK
  kicks : List Sess
  answers : List Sess
  notices : List Sess                -- `LogicDisconnectNtf`
  session : Option Sess              -- `PlayerState.session`
  busy : Option Command
  owners : List Sess                 -- executed logins whose `set_logic_owner` is under way
  undos : List Sess
  redis : Option Sess                -- `gsid` and `sess`
  -- what has happened so far
  used : List Sess
  executed : List Sess
  saved : List Sess

namespace State

def initial : State where
  arcs := []
  table := fun _ => none
  handlers := []
  tasks := []
  requests := []
  responses := []
  kicks := []
  answers := []
  notices := []
  session := none
  busy := none
  owners := []
  undos := []
  redis := none
  used := []
  executed := []
  saved := []

/-- The table of the session's Gate holds it, with a connection. -/
def Live (s : State) (x : Sess) : Prop := (s.table x.gate).bind (s.arcs[·]?) = some ⟨x, true⟩

instance (s : State) (x : Sess) : Decidable (s.Live x) :=
  inferInstanceAs (Decidable (_ = _))

def setPhase (s : State) (i : Nat) (h : Handler) (phase : Phase) : State :=
  { s with handlers := s.handlers.set i { h with phase := phase } }

def setTask (s : State) (i : Nat) (task : Task) : State := { s with tasks := s.tasks.set i task }

def spawn (s : State) (task : Task) : State := { s with tasks := s.tasks ++ [task] }

def setTable (s : State) (gate : GateId) (arc : Option Nat) : State :=
  { s with table := Function.update s.table gate arc }

def setArc (s : State) (arc : Nat) (slot : Slot) : State := { s with arcs := s.arcs.set arc slot }

/-- `clear_gate_by_session`.  Session ids are compared exactly here; the script
    compares them as doubles, which are the same for ids below `2 ^ 53`. -/
def clearRedis (s : State) (x : Sess) : State :=
  if s.redis.any (·.id = x.id) then { s with redis := none } else s

/-! ## The steps of a handler -/

/-- `sessions.get`, at the two places where `handle_reconnect` needs it. -/
def fetch (s : State) (i : Nat) (h : Handler) : Option State :=
  match h.phase, h.previous with
  | .verifying, some _ => (s.table h.sess.gate).map fun arc => s.setPhase i h (.authorizing arc)
  | .granted, some _ =>
    match s.table h.sess.gate with
    | some arc => some (s.setPhase i h (.completing arc))
    | none => some (s.setPhase i h .done)
  | _, _ => none

/-- The checks passed; the request leaves. -/
def request (s : State) (i : Nat) (h : Handler) : Option State :=
  match h.phase, h.previous with
  | .verifying, none =>
    some { s.setPhase i h .awaiting with requests := s.requests ++ [(h.sess, false)] }
  | .authorizing arc, some previous =>
    if s.arcs[arc]?.any (·.sess = ⟨h.sess.gate, previous⟩) then
      some { s.setPhase i h .awaiting with requests := s.requests ++ [(h.sess, true)] }
    else none
  | _, _ => none

def receive (s : State) (i : Nat) (h : Handler) : Option State :=
  if h.phase = .awaiting then
    (s.responses.find? (·.1 = h.sess)).map fun response =>
      { s.setPhase i h (if response.2 then .granted else .done) with
        responses := s.responses.erase response }
  else none

/-- `install_login`; `bind_user` succeeded. -/
def install (s : State) (i : Nat) (h : Handler) : Option State :=
  if h.phase = .granted ∧ h.previous = none then
    some { (s.setPhase i h .installed).setTable h.sess.gate (some s.arcs.length) with
      arcs := s.arcs ++ [⟨h.sess, true⟩] }
  else none

/-- `complete_reconnect` under the session lock.  Its other checks depend on the
    stream; `passes` is their result. -/
def complete (s : State) (i : Nat) (h : Handler) (passes : Bool) : Option State :=
  match h.phase, h.previous with
  | .completing arc, some previous =>
    s.arcs[arc]?.map fun slot =>
      if slot.sess = ⟨h.sess.gate, previous⟩ ∧ passes = true then
        (s.setPhase i h .installed).setArc arc ⟨h.sess, true⟩
      else s.setPhase i h .done
  | _, _ => none

def save (s : State) (i : Nat) (h : Handler) (ok : Bool) : Option State :=
  if h.phase = .installed then
    if ok then
      some { s.setPhase i h (if h.previous = none then .done else .replaying) with
        redis := some h.sess
        saved := s.saved ++ [h.sess] }
    else some ((s.setPhase i h .done).spawn (.kick h.sess false))
  else none

def replay (s : State) (i : Nat) (h : Handler) (ok : Bool) : Option State :=
  if h.phase = .replaying then
    some (if ok then s.setPhase i h .done else (s.setPhase i h .done).spawn (.kick h.sess false))
  else none

/-! ## The steps of the other work -/

/-- `kick` found nothing to kick. -/
def missKick (s : State) (i : Nat) (x : Sess) (remote : Bool) : State :=
  if remote then { s.setTask i .done with answers := s.answers ++ [x] } else s.setTask i (.clear x false)

def advance (s : State) (i : Nat) : Task → Option State
  | .disconnect x =>
    match s.table x.gate with
    | none => some (s.setTask i .done)
    | some arc => some (s.setTask i (.disconnectArc x arc))
  | .disconnectArc x arc =>
    s.arcs[arc]?.map fun slot =>
      if slot = ⟨x, true⟩ then (s.setArc arc ⟨x, false⟩).setTask i (.notify x false)
      else s.setTask i .done
  | .kick x remote =>
    match s.table x.gate with
    | none => some (s.missKick i x remote)
    | some arc => some (s.setTask i (.kickArc x remote arc))
  | .kickArc x remote arc =>
    s.arcs[arc]?.map fun slot =>
      if slot.sess = x then (s.setArc arc ⟨x, false⟩).setTask i (.kickRemove x remote arc)
      else s.missKick i x remote
  | .kickRemove x remote arc =>
    -- `Arc::ptr_eq`: only the entry itself is compared, not its session
    if s.table x.gate = some arc then
      some ((s.setTable x.gate none).setTask i (.clear x remote))
    else some (s.setTask i (.clear x remote))
  | .logout x =>
    match s.table x.gate with
    | none => some (s.setTask i .done)
    | some arc => some (s.setTask i (.logoutArc x arc))
  | .logoutArc x arc =>
    s.arcs[arc]?.map fun slot =>
      if slot = ⟨x, true⟩ then s.setTask i (.invalidate x) else s.setTask i .done
  | .invalidate x =>
    if ((s.table x.gate).bind (s.arcs[·]?)).any (·.sess = x) then
      some ((s.setTable x.gate none).setTask i (.notify x true))
    else some (s.setTask i (.notify x true))
  | .notify x _ => some { s.setTask i (.clear x false) with notices := s.notices ++ [x] }
  | .clear x remote =>
    let t := (s.clearRedis x).setTask i .done
    some (if remote then { t with answers := t.answers ++ [x] } else t)
  | .done => none

/-- A logout runs in the connection's worker, which is aborted when the
    connection closes.  A logout that has told Logic clears the record here without
    being aborted any more. -/
def abort (s : State) (i : Nat) : Task → Option State
  | .logout _ | .logoutArc _ _ | .notify _ true => some (s.setTask i .done)
  | _ => none

/-! ## The steps of Logic -/

/-- A login command reads the recorded session and kicks it. -/
def start (s : State) (k : Nat) (x : Sess) (reconnect : Bool) : Option State :=
  match s.busy with
  | some _ => none
  | none =>
    let waits := !reconnect && s.session.any (· ≠ x)
    some { s with
      requests := s.requests.eraseIdx k
      busy := some ⟨x, s.session, waits⟩
      kicks := s.kicks ++ (if waits then s.session.toList else []) }

def execute (s : State) (c : Command) : Option State :=
  if c.waits then none
  else
    some { s with
      session := some c.sess
      busy := none
      owners := s.owners ++ [c.sess]
      executed := s.executed ++ [c.sess] }

/-- `PlayerState::disconnect`. -/
def forget (s : State) (x : Sess) : State :=
  if s.session = some x then { s with session := none } else s

end State

/-! ## Runs -/

inductive Label where
  | login (sess : Sess)
  | reconnect (sess : Sess) (previous : SessionId)
  | giveUp (i : Nat)                  -- abort, RPC timeout, failed check or failed `bind_user`
  | fetch (i : Nat)
  | request (i : Nat)
  | receive (i : Nat)
  | install (i : Nat)
  | complete (i : Nat) (passes : Bool)
  | save (i : Nat) (ok : Bool)
  | replay (i : Nat) (ok : Bool)
  | close (sess : Sess)
  | logout (sess : Sess)
  | deliverKick (k : Nat)
  | task (i : Nat)
  | abort (i : Nat)
  | prune (gate : GateId)
  | start (k : Nat)
  | refuse (k : Nat)                  -- the Logic runtime does not accept the login
  | answered
  | timeout
  | execute
  | owner (k : Nat) (ok : Bool)
  | undo (k : Nat) (accepted : Bool)
  | notice (k : Nat) (accepted : Bool)
  | dropResponse (k : Nat)
  | dropAnswer (k : Nat)

namespace State

def connect (s : State) (x : Sess) (previous : Option SessionId) : Option State :=
  if x ∈ s.used then none
  else some { s with handlers := s.handlers ++ [⟨x, previous, .verifying⟩], used := s.used ++ [x] }

def step (s : State) : Label → Option State
  | .login x => s.connect x none
  | .reconnect x previous => s.connect x (some previous)
  | .giveUp i =>
    s.handlers[i]?.bind fun h => if h.phase = .done then none else some (s.setPhase i h .done)
  | .fetch i => s.handlers[i]?.bind (s.fetch i)
  | .request i => s.handlers[i]?.bind (s.request i)
  | .receive i => s.handlers[i]?.bind (s.receive i)
  | .install i => s.handlers[i]?.bind (s.install i)
  | .complete i passes => s.handlers[i]?.bind (s.complete i · passes)
  | .save i ok => s.handlers[i]?.bind (s.save i · ok)
  | .replay i ok => s.handlers[i]?.bind (s.replay i · ok)
  | .close x => some (s.spawn (.disconnect x))
  | .logout x => some (s.spawn (.logout x))
  | .deliverKick k =>
    s.kicks[k]?.map fun x => { s with kicks := s.kicks.eraseIdx k }.spawn (.kick x true)
  | .task i => s.tasks[i]?.bind (s.advance i)
  | .abort i => s.tasks[i]?.bind (s.abort i)
  | .prune gate =>
    ((s.table gate).bind (s.arcs[·]?)).bind fun slot =>
      if slot.active then none else some (s.setTable gate none)
  | .start k => s.requests[k]?.bind fun request => s.start k request.1 request.2
  | .refuse k =>
    s.requests[k]?.map fun request =>
      { s with requests := s.requests.eraseIdx k, responses := s.responses ++ [(request.1, false)] }
  | .answered =>
    s.busy.bind fun c => c.old.bind fun old =>
      if c.waits ∧ old ∈ s.answers then
        some { s with busy := some { c with waits := false }, answers := s.answers.erase old }
      else none
  | .timeout =>
    s.busy.bind fun c => if c.waits then some { s with busy := some { c with waits := false } } else none
  | .execute => s.busy.bind s.execute
  | .owner k ok =>
    s.owners[k]?.map fun x =>
      let t := { s with owners := s.owners.eraseIdx k }
      if ok then { t with responses := t.responses ++ [(x, true)] } else { t with undos := t.undos ++ [x] }
  | .undo k accepted =>
    s.undos[k]?.bind fun x =>
      let t := { s with undos := s.undos.eraseIdx k, responses := s.responses ++ [(x, false)] }
      if accepted then if s.busy = none then some (t.forget x) else none else some t
  | .notice k accepted =>
    s.notices[k]?.bind fun x =>
      let t := { s with notices := s.notices.eraseIdx k }
      if accepted then if s.busy = none then some (t.forget x) else none else some t
  | .dropResponse k =>
    s.responses[k]?.bind fun response =>
      if s.handlers.any fun h => h.sess = response.1 ∧ h.phase = .awaiting then none
      else some { s with responses := s.responses.eraseIdx k }
  | .dropAnswer k =>
    s.answers[k]?.bind fun x =>
      if s.busy.any fun c => c.waits ∧ c.old = some x then none
      else some { s with answers := s.answers.eraseIdx k }

def system : System State Label := .ofFun (· = .initial) step

/-- No handler is running and no message is in flight. -/
structure Quiet (s : State) : Prop where
  handlers : ∀ h ∈ s.handlers, h.phase = .done
  tasks : ∀ task ∈ s.tasks, task = .done
  requests : s.requests = []
  responses : s.responses = []
  kicks : s.kicks = []
  answers : s.answers = []
  notices : s.notices = []
  busy : s.busy = none
  owners : s.owners = []
  undos : s.undos = []

instance (s : State) : Decidable s.Quiet :=
  decidable_of_iff
    ((∀ h ∈ s.handlers, h.phase = .done) ∧ (∀ task ∈ s.tasks, task = .done) ∧ s.requests = []
      ∧ s.responses = [] ∧ s.kicks = [] ∧ s.answers = [] ∧ s.notices = [] ∧ s.busy = none
      ∧ s.owners = [] ∧ s.undos = [])
    ⟨fun ⟨h, t, r, p, k, a, n, b, o, u⟩ => ⟨h, t, r, p, k, a, n, b, o, u⟩,
      fun q => ⟨q.handlers, q.tasks, q.requests, q.responses, q.kicks, q.answers, q.notices, q.busy,
        q.owners, q.undos⟩⟩

end State

end Xkk.Cluster

import Mathlib.Data.List.MinMax
import Xkk.Cache.Online
import Xkk.Lib.Pool
import Xkk.Lib.Table
import Xkk.Lib.Transition

/-! # Which Logic a login goes to

A Gate sends a login to the Logic that the online record names, and picks one
for a record that names none.  The owner is written by Logic and by the Gates
and cleared by nobody, so it outlives the instance.

`selectLogic` is compared with the rules for it, first for any record and any
snapshot of discovery, then along the runs of the cluster: the records in Redis,
the handlers with their copies of a record, the requests that are on their way
to Logic, and what discovery knows.
-/

namespace Xkk.Cluster.Routing

open Xkk.Lib Xkk.Cache

/-! ## Discovery -/

/-- An instance as a Gate sees it; `healthy` and `connected` are the comparisons
of `healthy` with `ServiceStatus::Health` and of `net_status` with
`NetStatus::Connected`. -/
structure ServiceInstance where
  enable : Bool
  healthy : Bool
  connected : Bool
  online : Nat
deriving DecidableEq, Repr

/-- The Logic instances by their ids. -/
abbrev Discovery := Table.Map Int ServiceInstance

def serviceInstance (discovery : Discovery) (logicId : Int) : Option ServiceInstance :=
  discovery.lookup logicId

def ServiceInstance.ready (instance_ : ServiceInstance) : Bool :=
  instance_.enable && instance_.healthy && instance_.connected

/-- The instances that a Gate may pick from. -/
def ServiceInstance.pickable (instance_ : ServiceInstance) : Bool := instance_.healthy && instance_.connected

def Available (discovery : Discovery) : Prop :=
  ∃ logicId instance_, serviceInstance discovery logicId = some instance_ ∧ instance_.pickable = true

/-- A healthy connected instance with the fewest players. -/
def Lowest (discovery : Discovery) (logicId : Int) : Prop :=
  ∃ instance_, serviceInstance discovery logicId = some instance_ ∧ instance_.pickable = true
    ∧ ∀ other rival, serviceInstance discovery other = some rival → rival.pickable = true →
        instance_.online ≤ rival.online

/-- `pick_min_online_and_increment` of the framework, apart from its increment. -/
structure PickMin where
  pick : Discovery → Option Int
  lowest : ∀ discovery logicId, pick discovery = some logicId → Lowest discovery logicId
  some : ∀ discovery, Available discovery → (pick discovery).isSome = true

/-- The first entry with the lowest count is one that may be picked. -/
def PickMin.first : PickMin where
  pick discovery := ((discovery.entries.filter (·.2.pickable)).argmin (·.2.online)).map (·.1)
  lowest := by
    intro discovery logicId picked
    obtain ⟨entry, chosen, rfl⟩ := Option.map_eq_some_iff.mp picked
    obtain ⟨member, pickable⟩ := List.mem_filter.mp (List.argmin_mem chosen)
    refine ⟨entry.2, AList.mem_lookup_iff.mpr member, pickable, ?_⟩
    intro other rival found allowed
    have listed : (⟨other, rival⟩ : Sigma fun _ : Int => ServiceInstance)
        ∈ discovery.entries.filter (·.2.pickable) :=
      List.mem_filter.mpr ⟨AList.mem_lookup_iff.mp found, allowed⟩
    exact List.le_of_mem_argmin (f := fun e : Sigma fun _ : Int => ServiceInstance => e.2.online) listed chosen
  some := by
    rintro discovery ⟨logicId, instance_, found, allowed⟩
    rw [Option.isSome_map, Option.isSome_iff_ne_none, ne_eq, List.argmin_eq_none]
    intro empty
    have listed : (⟨logicId, instance_⟩ : Sigma fun _ : Int => ServiceInstance)
        ∈ discovery.entries.filter (·.2.pickable) :=
      List.mem_filter.mpr ⟨AList.mem_lookup_iff.mp found, allowed⟩
    rw [empty] at listed
    cases listed

/-! ## Selection -/

def selectLogic (frame : PickMin) (discovery : Discovery) (online : OnlineData) : Option Int :=
  if online.logicId = 0 then frame.pick discovery
  else
    match serviceInstance discovery online.logicId with
    | none => none
    | some instance_ => if instance_.ready then some online.logicId else none

/-- The routing rules.  An owner that is still in discovery is waited for; one
that was removed is a stale route. -/
structure Follows (discovery : Discovery) (logicId : Int) (answer : Option Int) : Prop where
  owner : ∀ instance_, logicId ≠ 0 → serviceInstance discovery logicId = some instance_ →
    answer = if instance_.ready then some logicId else none
  stale : logicId = 0 ∨ serviceInstance discovery logicId = none → Available discovery →
    ∃ chosen, answer = some chosen ∧ Lowest discovery chosen

theorem selectLogic_owner (frame : PickMin) {discovery : Discovery} {online : OnlineData}
    {instance_ : ServiceInstance} (owned : online.logicId ≠ 0)
    (found : serviceInstance discovery online.logicId = some instance_) :
    selectLogic frame discovery online = if instance_.ready then some online.logicId else none := by
  simp only [selectLogic, if_neg owned, found]

theorem selectLogic_unowned (frame : PickMin) {discovery : Discovery} {online : OnlineData}
    (unowned : online.logicId = 0) : selectLogic frame discovery online = frame.pick discovery :=
  if_pos unowned

theorem selectLogic_removed (frame : PickMin) {discovery : Discovery} {online : OnlineData}
    (owned : online.logicId ≠ 0) (removed : serviceInstance discovery online.logicId = none) :
    selectLogic frame discovery online = none := by
  simp only [selectLogic, if_neg owned, removed]

/-- The rules are kept unless the owner is gone and another Logic is there. -/
theorem selectLogic_follows_iff (frame : PickMin) (discovery : Discovery) (online : OnlineData) :
    Follows discovery online.logicId (selectLogic frame discovery online)
      ↔ online.logicId = 0 ∨ (serviceInstance discovery online.logicId).isSome = true
        ∨ ¬ Available discovery := by
  constructor
  · intro follows
    by_cases unowned : online.logicId = 0
    · exact .inl unowned
    cases found : serviceInstance discovery online.logicId with
    | some instance_ => exact .inr (.inl rfl)
    | none =>
      refine .inr (.inr fun available => ?_)
      obtain ⟨chosen, answered, _⟩ := follows.stale (.inr found) available
      rw [selectLogic_removed frame unowned found] at answered
      cases answered
  · intro condition
    refine ⟨fun instance_ owned found => selectLogic_owner frame owned found, ?_⟩
    intro stale available
    by_cases unowned : online.logicId = 0
    · obtain ⟨chosen, picked⟩ := Option.isSome_iff_exists.mp (frame.some discovery available)
      rw [selectLogic_unowned frame unowned]
      exact ⟨chosen, picked, frame.lowest discovery chosen picked⟩
    · -- the owner is not in discovery, and still the condition holds
      exfalso
      rcases stale with zero | removed
      · exact unowned zero
      rcases condition with zero | present | unavailable
      · exact unowned zero
      · rw [removed] at present
        cases present
      · exact unavailable available

/-! ## The cluster -/

/-- `handle_login` and `handle_reconnect`, from the record that they have
loaded.  While it waits for Logic, the copy names the instance that was asked. -/
inductive Phase where
  | loaded (online : OnlineData)
  | calling (online : OnlineData)
  | done
deriving DecidableEq, Repr

/-- The copy of the record that the handler holds. -/
def Phase.copy : Phase → Option OnlineData
  | .loaded online | .calling online => some online
  | .done => none

structure Handler where
  gid : Int
  reconnect : Bool
  phase : Phase
deriving DecidableEq, Repr

structure State where
  redis : Redis
  discovery : Discovery
  handlers : List Handler
  requests : List (Int × Int)        -- logins that were sent to a Logic: the player and the instance

/-- What a handler learns before it writes the record back. -/
structure Binding where
  session : Int
  loginTime : Int
  publicId : Int
  gateId : Int
deriving DecidableEq, Repr

inductive Label where
  | setToken (gid : Int) (account token : String)
  | verify (gid : Int) (token : String) (reconnect : Bool)
  | select (i : Nat)                 -- a login picks its Logic, or is refused
  | resume (i : Nat)                 -- a reconnect finds the owner of its session in the record
  | giveUp (i : Nat)                 -- every other way out
  | own (gid logicId : Int)          -- Logic serves a request and takes the player over
  | save (i : Nat) (binding : Binding)
  | clearGate (gid session logoutTime : Int)
  | expire (gid : Int)
  | announce (logicId : Int) (instance_ : ServiceInstance)
  | remove (logicId : Int)

namespace State

def setPhase (s : State) (i : Nat) (h : Handler) (phase : Phase) : State :=
  { s with handlers := s.handlers.set i { h with phase := phase } }

def verifyOnline (s : State) (gid : Int) (token : String) : Option OnlineData :=
  match loadOnline s.redis gid with
  | .ok (some online) => if online.gid = gid ∧ online.token = token then some online else none
  | .ok none | .error _ => none

/-- The increment of `pick_min_online_and_increment`. -/
def increment (discovery : Discovery) (logicId : Int) : Discovery :=
  match serviceInstance discovery logicId with
  | some instance_ => discovery.insert logicId { instance_ with online := instance_.online + 1 }
  | none => discovery

/-- The login is sent to the Logic that the copy names. -/
def request (s : State) (i : Nat) (h : Handler) (online : OnlineData) : State :=
  { s.setPhase i h (.calling online) with requests := s.requests ++ [(h.gid, online.logicId)] }

def select (frame : PickMin) (s : State) (i : Nat) (h : Handler) : Option State :=
  match h.phase, h.reconnect with
  | .loaded online, false =>
    match selectLogic frame s.discovery online with
    | none => some (s.setPhase i h .done)
    | some logicId =>
      let discovery := if online.logicId = 0 then increment s.discovery logicId else s.discovery
      some { s.request i h { online with logicId := logicId } with discovery := discovery }
  | _, _ => none

def resume (s : State) (i : Nat) (h : Handler) : Option State :=
  match h.phase, h.reconnect with
  | .loaded online, true => some (s.request i h online)
  | _, _ => none

def save (s : State) (i : Nat) (h : Handler) (binding : Binding) : Option State :=
  match h.phase with
  | .calling online =>
    match saveOnline s.redis { online with
        session := binding.session, loginTime := binding.loginTime, logoutTime := 0,
        publicId := binding.publicId, gateId := binding.gateId } with
    | .ok redis => some { s.setPhase i h .done with redis := redis }
    | .error _ => some (s.setPhase i h .done)
  | .loaded _ | .done => none

def step (frame : PickMin) (s : State) : Label → Option State
  | .setToken gid account token =>
    (setToken s.redis gid account token).toOption.map fun redis => { s with redis := redis }
  | .verify gid token reconnect =>
    (s.verifyOnline gid token).map fun online =>
      { s with handlers := s.handlers ++ [⟨gid, reconnect, .loaded online⟩] }
  | .select i => s.handlers[i]?.bind (s.select frame i)
  | .resume i => s.handlers[i]?.bind (s.resume i)
  | .giveUp i => s.handlers[i]?.map (s.setPhase i · .done)
  | .own gid logicId =>
    if (gid, logicId) ∈ s.requests then
      (setLogicOwner s.redis gid logicId).toOption.map fun redis => { s with redis := redis }
    else none
  | .save i binding => s.handlers[i]?.bind (s.save i · binding)
  | .clearGate gid session logoutTime =>
    some { s with redis := (clearGateBySession s.redis gid session logoutTime).1 }
  | .expire gid => some { s with redis := Function.update s.redis gid .absent }
  | .announce logicId instance_ => some { s with discovery := s.discovery.insert logicId instance_ }
  | .remove logicId => some { s with discovery := s.discovery.erase logicId }

/-- Nothing is recorded and nobody has logged in yet. -/
def Fresh (s : State) : Prop := s.redis = (fun _ => .absent) ∧ s.handlers = [] ∧ s.requests = []

def system (frame : PickMin) : System State Label := .ofFun Fresh (step frame)

/-! ## Who names an instance -/

/-- A record that may decide where a login goes: one in Redis, or the copy of a
handler. -/
def Held (s : State) (online : OnlineData) : Prop :=
  (∃ gid, loadOnline s.redis gid = .ok (some online)) ∨ ∃ h ∈ s.handlers, h.phase = .loaded online

/-- The instance is named by a record, by a handler or by a request. -/
inductive Names (s : State) (logicId : Int) : Prop
  | record (gid : Int) : (s.redis gid).lsid = some logicId → Names s logicId
  | copy {h : Handler} {online : OnlineData} : h ∈ s.handlers → h.phase.copy = some online →
      online.logicId = logicId → Names s logicId
  | request (gid : Int) : (gid, logicId) ∈ s.requests → Names s logicId

/-- An instance is removed only when nothing names it. -/
def Keeps (s : State) : Label → Prop
  | .remove logicId => ¬ s.Names logicId
  | _ => True

/-- Every instance that is named is in discovery. -/
def Known (s : State) : Prop :=
  ∀ logicId, logicId ≠ 0 → s.Names logicId → (serviceInstance s.discovery logicId).isSome = true

variable {s t : State} {frame : PickMin}

theorem Names.of_redis {redis : Redis} {logicId : Int} (named : Names { s with redis := redis } logicId)
    (records : ∀ gid, (redis gid).lsid = some logicId → s.Names logicId) : s.Names logicId := by
  cases named with
  | record gid recorded => exact records gid recorded
  | copy member held same => exact .copy member held same
  | request gid member => exact .request gid member

theorem Names.of_discovery {discovery : Discovery} {logicId : Int}
    (named : Names { s with discovery := discovery } logicId) : s.Names logicId := by
  cases named with
  | record gid recorded => exact .record gid recorded
  | copy member held same => exact .copy member held same
  | request gid member => exact .request gid member

theorem Names.of_setPhase {i : Nat} {h : Handler} {phase : Phase} {logicId : Int}
    (named : (s.setPhase i h phase).Names logicId) :
    s.Names logicId ∨ ∃ online, phase.copy = some online ∧ online.logicId = logicId := by
  cases named with
  | record gid recorded => exact .inl (.record gid recorded)
  | @copy other online member held same =>
    rcases List.mem_or_eq_of_mem_set member with old | new
    · exact .inl (.copy old held same)
    · rw [new] at held
      exact .inr ⟨online, held, same⟩
  | request gid member => exact .inl (.request gid member)

theorem Names.of_request {i : Nat} {h : Handler} {online : OnlineData} {logicId : Int}
    (named : (s.request i h online).Names logicId) : s.Names logicId ∨ logicId = online.logicId := by
  cases named with
  | record gid recorded => exact .inl (.record gid recorded)
  | copy member held same =>
    have here : (s.setPhase i h (.calling online)).Names logicId := .copy member held same
    rcases here.of_setPhase with old | ⟨copied, held, same⟩
    · exact .inl old
    · obtain rfl := Option.some.inj held
      exact .inr same.symm
  | request gid member =>
    rcases List.mem_append.mp member with old | new
    · exact .inl (.request gid old)
    · exact .inr (Prod.ext_iff.mp (List.mem_singleton.mp new)).2

theorem ok_of_toOption {ε α : Type} {result : Except ε α} {value : α}
    (found : result.toOption = some value) : result = .ok value := by
  cases result with
  | error _ => cases found
  | ok _ => exact congrArg Except.ok (Option.some.inj found)

/-- A step keeps what is named in discovery, and what it names for the first
time is there. -/
theorem Known.step (known : Known s)
    (names : ∀ logicId, logicId ≠ 0 → t.Names logicId →
      s.Names logicId ∨ (serviceInstance t.discovery logicId).isSome = true)
    (present : ∀ logicId, s.Names logicId → (serviceInstance s.discovery logicId).isSome = true →
      (serviceInstance t.discovery logicId).isSome = true) : Known t := by
  intro logicId nonzero named
  rcases names logicId nonzero named with old | found
  · exact present logicId old (known logicId nonzero old)
  · exact found

theorem Known.redis (known : Known s) {redis : Redis}
    (records : ∀ logicId, logicId ≠ 0 → ∀ gid, (redis gid).lsid = some logicId → s.Names logicId) :
    Known { s with redis := redis } := by
  refine known.step ?_ fun _ _ found => found
  intro logicId nonzero named
  exact .inl (named.of_redis (records logicId nonzero))

/-- One record is written, and its owner was named before. -/
theorem Known.write (known : Known s) (gid : Int) {hash : GamerHash}
    (owner : ∀ logicId, hash.lsid = some logicId → s.Names logicId) :
    Known { s with redis := Function.update s.redis gid hash } := by
  apply known.redis
  intro logicId _ other recorded
  by_cases same : other = gid
  · rw [same, Function.update_self] at recorded
    exact owner logicId recorded
  · rw [Function.update_of_ne same] at recorded
    exact .record other recorded

theorem Known.done (known : Known s) (i : Nat) (h : Handler) : Known (s.setPhase i h .done) := by
  refine known.step ?_ fun _ _ found => found
  intro logicId _ named
  rcases named.of_setPhase with old | ⟨online, none, _⟩
  · exact .inl old
  · cases none

theorem Known.request (known : Known s) (i : Nat) (h : Handler) {online : OnlineData}
    (present : online.logicId ≠ 0 → (serviceInstance s.discovery online.logicId).isSome = true) :
    Known (s.request i h online) := by
  refine known.step ?_ fun _ _ found => found
  intro logicId nonzero named
  rcases named.of_request with old | rfl
  · exact .inl old
  · exact .inr (present nonzero)

theorem isSome_insert {discovery : Discovery} {logicId other : Int} (instance_ : ServiceInstance)
    (found : (serviceInstance discovery other).isSome = true) :
    (serviceInstance (discovery.insert logicId instance_) other).isSome = true := by
  by_cases same : other = logicId
  · rw [same, serviceInstance, AList.lookup_insert]
    rfl
  · rw [serviceInstance, AList.lookup_insert_ne same]
    exact found

theorem isSome_increment {discovery : Discovery} {logicId other : Int}
    (found : (serviceInstance discovery other).isSome = true) :
    (serviceInstance (increment discovery logicId) other).isSome = true := by
  rw [increment]
  split
  · exact isSome_insert _ found
  · exact found

theorem Known.discovery (known : Known s) {discovery : Discovery}
    (present : ∀ logicId, s.Names logicId → (serviceInstance s.discovery logicId).isSome = true →
      (serviceInstance discovery logicId).isSome = true) : Known { s with discovery := discovery } := by
  refine known.step ?_ present
  intro logicId _ named
  exact .inl named.of_discovery

/-- Whatever is selected is in discovery. -/
theorem selectLogic_present {discovery : Discovery} {online : OnlineData} {logicId : Int}
    (selected : selectLogic frame discovery online = some logicId) :
    (serviceInstance discovery logicId).isSome = true := by
  by_cases unowned : online.logicId = 0
  · rw [selectLogic_unowned frame unowned] at selected
    obtain ⟨instance_, found, _⟩ := frame.lowest discovery logicId selected
    rw [found]
    rfl
  · cases found : serviceInstance discovery online.logicId with
    | none =>
      rw [selectLogic_removed frame unowned found] at selected
      cases selected
    | some instance_ =>
      rw [selectLogic_owner frame unowned found, Option.ite_none_right_eq_some] at selected
      obtain rfl := Option.some.inj selected.2
      rw [found]
      rfl

theorem verifyOnline_loaded {gid : Int} {token : String} {online : OnlineData}
    (verified : s.verifyOnline gid token = some online) : loadOnline s.redis gid = .ok (some online) := by
  rw [verifyOnline] at verified
  split at verified
  next loaded =>
    rw [Option.ite_none_right_eq_some] at verified
    obtain rfl := Option.some.inj verified.2
    exact loaded
  next => cases verified
  next => cases verified

theorem names_loaded {gid : Int} {online : OnlineData} (loaded : loadOnline s.redis gid = .ok (some online))
    (nonzero : online.logicId ≠ 0) : s.Names online.logicId := by
  have owner := (loadOnline_ok loaded).2
  cases recorded : (s.redis gid).lsid with
  | none =>
    rw [recorded] at owner
    exact absurd owner nonzero
  | some logicId =>
    rw [recorded] at owner
    exact .record gid (by rw [recorded, owner]; rfl)

theorem known_select (known : Known s) {i : Nat} {h : Handler} (taken : s.select frame i h = some t) :
    Known t := by
  rw [State.select] at taken
  split at taken
  next online isLoaded _ =>
    split at taken
    next =>
      obtain rfl := Option.some.inj taken
      exact known.done i h
    next logicId selected =>
      obtain rfl := Option.some.inj taken
      have requested : Known (s.request i h { online with logicId := logicId }) :=
        known.request i h fun _ => selectLogic_present selected
      apply requested.discovery
      intro other _ found
      split
      · exact isSome_increment found
      · exact found
  next => cases taken

theorem known_resume (known : Known s) {i : Nat} {h : Handler} (found : s.handlers[i]? = some h)
    (taken : s.resume i h = some t) : Known t := by
  rw [State.resume] at taken
  split at taken
  next online isLoaded _ =>
    obtain rfl := Option.some.inj taken
    apply known.request i h
    intro nonzero
    have held : h.phase.copy = some online := by rw [isLoaded]; rfl
    exact known online.logicId nonzero (.copy (List.mem_of_getElem? found) held rfl)
  next => cases taken

theorem known_save (known : Known s) {i : Nat} {h : Handler} {binding : Binding}
    (found : s.handlers[i]? = some h) (taken : s.save i h binding = some t) : Known t := by
  rw [State.save] at taken
  split at taken
  next online isCalling =>
    split at taken
    next redis saved =>
      obtain rfl := Option.some.inj taken
      have written : Known { s with redis := redis } := by
        rw [saveOnline_ok saved]
        apply known.write
        intro logicId recorded
        have held : h.phase.copy = some online := by rw [isCalling]; rfl
        exact .copy (List.mem_of_getElem? found) held (Option.some.inj recorded)
      exact written.done i h
    next =>
      obtain rfl := Option.some.inj taken
      exact known.done i h
  next => cases taken
  next => cases taken

theorem known_step (known : Known s) {label : Label} (keeps : s.Keeps label)
    (taken : s.step frame label = some t) : Known t := by
  cases label with
  | setToken gid account token =>
    obtain ⟨redis, set, rfl⟩ := Option.map_eq_some_iff.mp taken
    rw [setToken_ok (ok_of_toOption set)]
    apply known.write
    intro logicId recorded
    exact .record gid recorded
  | verify gid token reconnect =>
    obtain ⟨online, verified, rfl⟩ := Option.map_eq_some_iff.mp taken
    refine known.step ?_ fun _ _ found => found
    intro logicId nonzero named
    cases named with
    | record other recorded => exact .inl (.record other recorded)
    | copy member held same =>
      rcases List.mem_append.mp member with old | new
      · exact .inl (.copy old held same)
      · rw [List.mem_singleton.mp new] at held
        obtain rfl := Option.some.inj held
        subst same
        exact .inl (names_loaded (verifyOnline_loaded verified) nonzero)
    | request other member => exact .inl (.request other member)
  | select i =>
    obtain ⟨h, _, taken⟩ := Option.bind_eq_some_iff.mp taken
    exact known_select known taken
  | resume i =>
    obtain ⟨h, found, taken⟩ := Option.bind_eq_some_iff.mp taken
    exact known_resume known found taken
  | giveUp i =>
    obtain ⟨h, _, rfl⟩ := Option.map_eq_some_iff.mp taken
    exact known.done i h
  | own gid logicId =>
    rw [State.step, Option.ite_none_right_eq_some] at taken
    obtain ⟨requested, taken⟩ := taken
    obtain ⟨redis, set, rfl⟩ := Option.map_eq_some_iff.mp taken
    rw [setLogicOwner_ok (ok_of_toOption set)]
    apply known.write
    intro other recorded
    obtain rfl := Option.some.inj recorded
    exact .request gid requested
  | save i binding =>
    obtain ⟨h, found, taken⟩ := Option.bind_eq_some_iff.mp taken
    exact known_save known found taken
  | clearGate gid session logoutTime =>
    obtain rfl := Option.some.inj taken
    apply known.redis
    intro logicId _ other recorded
    rw [(clearGateBySession_keeps s.redis gid session logoutTime other).2] at recorded
    exact .record other recorded
  | expire gid =>
    obtain rfl := Option.some.inj taken
    apply known.write
    intro logicId recorded
    cases recorded
  | announce logicId instance_ =>
    obtain rfl := Option.some.inj taken
    apply known.discovery
    intro other _ found
    exact isSome_insert instance_ found
  | remove logicId =>
    obtain rfl := Option.some.inj taken
    apply known.discovery
    intro other named found
    have differ : other ≠ logicId := by
      rintro rfl
      exact keeps named
    rw [serviceInstance, AList.lookup_erase_ne differ]
    exact found

theorem known_of_reach (reached : (system frame).Reach Keeps s) : Known s := by
  apply reached.inv
  · rintro s ⟨redis, handlers, requests⟩ logicId _ named
    cases named with
    | record gid recorded =>
      rw [redis] at recorded
      cases recorded
    | copy member _ _ =>
      rw [handlers] at member
      cases member
    | request gid member =>
      rw [requests] at member
      cases member
  · intro s label t known keeps taken
    exact known_step known keeps taken

theorem Held.names {online : OnlineData} (held : s.Held online) (nonzero : online.logicId ≠ 0) :
    s.Names online.logicId := by
  rcases held with ⟨gid, loaded⟩ | ⟨h, member, isLoaded⟩
  · exact names_loaded loaded nonzero
  · exact .copy member (by rw [isLoaded]; rfl) rfl

end State

/-- Selection follows the rules exactly when the owner is in discovery, or there
is none, or no Logic could be picked.  Along runs that remove no instance while
it is named, it always does, and a login that finds no Logic although one is
available waits for an owner that is still there. -/
theorem selectLogic_follows_rules (frame : PickMin) :
    (∀ discovery online,
      Follows discovery online.logicId (selectLogic frame discovery online)
        ↔ online.logicId = 0 ∨ (serviceInstance discovery online.logicId).isSome = true
          ∨ ¬ Available discovery)
    ∧ ∀ s, (State.system frame).Reach State.Keeps s → ∀ online, s.Held online →
        Follows s.discovery online.logicId (selectLogic frame s.discovery online)
        ∧ (Available s.discovery → selectLogic frame s.discovery online = none →
            ∃ instance_, serviceInstance s.discovery online.logicId = some instance_
              ∧ instance_.ready = false) := by
  refine ⟨selectLogic_follows_iff frame, ?_⟩
  intro s reached online held
  have present : online.logicId = 0 ∨ (serviceInstance s.discovery online.logicId).isSome = true := by
    by_cases unowned : online.logicId = 0
    · exact .inl unowned
    · exact .inr (State.known_of_reach reached online.logicId unowned (held.names unowned))
  have follows : Follows s.discovery online.logicId (selectLogic frame s.discovery online) :=
    (selectLogic_follows_iff frame s.discovery online).mpr (present.imp_right .inl)
  refine ⟨follows, ?_⟩
  intro available refused
  by_cases unowned : online.logicId = 0
  · obtain ⟨chosen, answered, _⟩ := follows.stale (.inl unowned) available
    rw [refused] at answered
    cases answered
  · obtain ⟨instance_, found⟩ := Option.isSome_iff_exists.mp (present.resolve_left unowned)
    refine ⟨instance_, found, ?_⟩
    have answer := follows.owner instance_ unowned found
    rw [refused] at answer
    by_contra ready
    rw [if_pos (Bool.not_eq_false _ ▸ ready)] at answer
    cases answer

/-- Two instances; player 7 logs in and is placed on the emptier one. -/
def placed : List Label :=
  [.announce 1 ⟨true, true, true, 0⟩, .announce 2 ⟨true, true, true, 5⟩, .setToken 7 "hero" "t",
    .verify 7 "t" false, .select 0, .own 7 1, .save 0 ⟨8, 100, 3, 4⟩]

def empty : State := ⟨fun _ => .absent, ∅, [], []⟩

/-- Nothing is removed from discovery. -/
def Stable (_ : State) : Label → Prop
  | .remove _ => False
  | _ => True

instance (s : State) (label : Label) : Decidable (Stable s label) :=
  match label with
  | .remove _ => .isFalse id
  | .setToken .. | .verify .. | .select _ | .resume _ | .giveUp _ | .own .. | .save .. | .clearGate ..
  | .expire _ | .announce .. => .isTrue trivial

theorem Stable.keeps (s : State) (label : Label) (stable : Stable s label) : s.Keeps label := by
  cases label with
  | remove _ => cases stable
  | setToken _ _ _ | verify _ _ _ | select _ | resume _ | giveUp _ | own _ _ | save _ _ | clearGate _ _ _
  | expire _ | announce _ _ => trivial

theorem placed_follows :
    ∃ s : State, ∃ online : OnlineData, online.logicId = 1 ∧ s.Held online
      ∧ Follows s.discovery online.logicId (selectLogic .first s.discovery online) := by
  have run : ∃ s, System.follow Stable (State.step .first) empty (placed ++ [.verify 7 "t" false]) = some s
      ∧ s.handlers[1]? = some ⟨7, false, .loaded ⟨"hero", 7, "t", 8, 100, 0, 3, 4, 1⟩⟩ := by
    decide +kernel
  obtain ⟨s, followed, loaded⟩ := run
  have reached : (State.system .first).Reach State.Keeps s :=
    (System.reach_of_follow ⟨rfl, rfl, rfl⟩ followed).mono Stable.keeps
  have held : s.Held ⟨"hero", 7, "t", 8, 100, 0, 3, 4, 1⟩ := .inr ⟨_, List.mem_of_getElem? loaded, rfl⟩
  exact ⟨s, _, rfl, held, ((selectLogic_follows_rules .first).2 s reached _ held).1⟩

/-- Instance 1 is removed and the player logs in again: there is an instance for
it, and it is refused. -/
theorem displaced_refused :
    ∃ s : State, (State.system .first).Reach System.Any s
      ∧ ∃ online : OnlineData, s.Held online ∧ Available s.discovery
        ∧ serviceInstance s.discovery online.logicId = none
        ∧ selectLogic .first s.discovery online = none
        ∧ ¬ Follows s.discovery online.logicId (selectLogic .first s.discovery online) := by
  have run : ∃ s, System.follow System.Any (State.step .first) empty
        (placed ++ [.remove 1, .verify 7 "t" false]) = some s
      ∧ s.handlers[1]? = some ⟨7, false, .loaded ⟨"hero", 7, "t", 8, 100, 0, 3, 4, 1⟩⟩
      ∧ serviceInstance s.discovery 1 = none
      ∧ serviceInstance s.discovery 2 = some ⟨true, true, true, 5⟩ := by
    decide +kernel
  obtain ⟨s, followed, loaded, removed, other⟩ := run
  have available : Available s.discovery := ⟨2, _, other, rfl⟩
  refine ⟨s, System.reach_of_follow ⟨rfl, rfl, rfl⟩ followed, ⟨"hero", 7, "t", 8, 100, 0, 3, 4, 1⟩,
    .inr ⟨_, List.mem_of_getElem? loaded, rfl⟩, available, removed,
    selectLogic_removed .first (by decide) removed, ?_⟩
  intro follows
  rcases (selectLogic_follows_iff .first s.discovery _).mp follows with zero | present | unavailable
  · cases zero
  · rw [removed] at present
    cases present
  · exact unavailable available

end Xkk.Cluster.Routing

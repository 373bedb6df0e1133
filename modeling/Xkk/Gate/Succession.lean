import Xkk.Gate.Entries

/-! # Which session is current

`kick`, `disconnect` and `invalidate` name a session id.  They may come late: by
then the player may have logged in again, which puts another `Arc` in the map, or
have resumed, which keeps the `Arc` and changes the id behind it.

Every operation is run one lock-protected section at a time.  `disconnect`,
`kick` and `invalidate` compare ids under the lock that they change; the second
section of `kick` compares `Arc`s, and `Matching` is what it takes for granted.
-/

namespace Xkk.Gate

open Xkk.Lib

/-- Where an operation of the table stands. -/
inductive Succession.Call where
  | reconnect (gid : Gid) (arc : Nat) (previous : SessionId) (conn : Connection) (seq ack : UInt32)
  | disconnect (gid : Gid) (arc : Nat) (sessionId : SessionId)
  | kick (kick : Kick)
  | done
deriving DecidableEq, Repr

/-- The session id that the operation names. -/
def Succession.Call.names : Succession.Call → Option SessionId
  | .disconnect _ _ sessionId | .kick (.lock _ _ sessionId) | .kick (.remove _ _ sessionId _) => some sessionId
  | .reconnect .. | .kick .done | .done => none

structure Succession (B : Type) where
  sessions : ClientSessions B
  calls : List Succession.Call
  closed : List Connection

namespace Succession

variable {M B : Type}

def new : Succession B := ⟨.new, [], []⟩

inductive Label (M : Type) where
  | installLogin (gid : Gid) (conn : Connection) (routes : Routes) (clientSeq : UInt32)
  | completeReconnect (gid : Gid) (previous : SessionId) (conn : Connection) (seq ack : UInt32)
  | disconnect (gid : Gid) (sessionId : SessionId)
  | kick (gid : Gid) (sessionId : SessionId)
  | invalidate (gid : Gid) (sessionId : SessionId)
  | pruneExpired (now : Nat)
  | drain
  | tick (i : Nat) (message : M) (now : Nat)

/-- An operation clones the `Arc` of its player, if there is one. -/
def fetch (s : Succession B) (gid : Gid) (call : Nat → Call) : Option (Succession B) :=
  (s.sessions.get gid).map fun arc => { s with calls := s.calls ++ [call arc] }

/-- The next section of an operation, with the connection that it closes. -/
def advance (wire : Wire M B) (config : SessionConfig) (s : ClientSessions B) (message : M) (now : Nat) :
    Call → Option (ClientSessions B × Option Connection × Call)
  | .reconnect _ arc previous conn seq ack =>
    s.arcs[arc]?.map fun session =>
      (s.store arc (session.completeReconnect previous conn seq ack now config).2, none, .done)
  | .disconnect _ arc sessionId =>
    s.arcs[arc]?.map fun session => (s.store arc (session.disconnect sessionId now).2, none, .done)
  | .kick kick =>
    (s.advanceKick wire config message now kick).map fun (sessions, closing, next) =>
      (sessions, closing, .kick next)
  | .done => none

def step (wire : Wire M B) (config : SessionConfig) (s : Succession B) : Label M → Option (Succession B)
  | .installLogin gid conn routes clientSeq =>
    some { s with sessions := (s.sessions.installLogin gid conn routes clientSeq).2 }
  | .completeReconnect gid previous conn seq ack => s.fetch gid (.reconnect gid · previous conn seq ack)
  | .disconnect gid sessionId => s.fetch gid (.disconnect gid · sessionId)
  | .kick gid sessionId => s.fetch gid fun arc => .kick (.lock gid arc sessionId)
  | .invalidate gid sessionId => some { s with sessions := (s.sessions.invalidate gid sessionId).2 }
  | .pruneExpired now => some { s with sessions := s.sessions.pruneExpired now config }
  | .drain => some { s with sessions := s.sessions.drain, closed := s.closed ++ s.sessions.draining }
  | .tick i message now =>
    s.calls[i]?.bind fun call =>
      (advance wire config s.sessions message now call).map fun (sessions, closing, next) =>
        ⟨sessions, s.calls.set i next, s.closed ++ closing.toList⟩

def system (wire : Wire M B) (config : ValidSessionConfig) : System (Succession B) (Label M) :=
  .ofFun (· = .new) (step wire config.toSessionConfig)

/-! ## Harm -/

/-- The session id that the operation of the step names. -/
def names (s : Succession B) : Label M → Option SessionId
  | .invalidate _ sessionId => some sessionId
  | .tick i _ _ => s.calls[i]?.bind Call.names
  | _ => none

/-- The step deactivates, removes and closes nothing but `sessionId`. -/
structure Confined (sessionId : SessionId) (s t : Succession B) : Prop where
  deactivates : ∀ (arc : Nat) (session : ClientSession B), s.sessions.arcs[arc]? = some session →
    session.active = true → t.sessions.activeArc arc = false → session.sessionId = sessionId
  removes : ∀ (gid : Gid) (arc : Nat) (session : ClientSession B), s.sessions.get gid = some arc →
    t.sessions.get gid ≠ some arc → s.sessions.arcs[arc]? = some session → session.sessionId = sessionId
  closes : ∀ conn ∈ t.closed, conn ∉ s.closed → conn.sessionId = sessionId
    ∧ ∀ (arc : Nat) (session : ClientSession B), s.sessions.arcs[arc]? = some session →
      session.conn = some conn → session.sessionId = sessionId

/-- The player, the `Arc` and the id of the session that the step makes current. -/
def madeCurrent (config : SessionConfig) (s : Succession B) : Label M → Option (Gid × Nat × SessionId)
  | .installLogin gid conn _ _ => some (gid, s.sessions.arcs.length, conn.sessionId)
  | .tick i _ now =>
    match s.calls[i]? with
    | some (.reconnect gid arc previous conn seq ack) =>
      -- a reconnect may complete on an `Arc` that has left the map, and makes nothing current
      if s.sessions.get gid = some arc ∧ s.sessions.arcs[arc]?.any (fun session =>
          (session.completeReconnect previous conn seq ack now config).1.isOk) then
        some (gid, arc, conn.sessionId)
      else none
    | _ => none
  | _ => none

/-- The session is in the map, under its id, and active. -/
def Current (gid : Gid) (arc : Nat) (sessionId : SessionId) (s : ClientSessions B) : Prop :=
  s.get gid = some arc ∧ ∃ session : ClientSession B, s.arcs[arc]? = some session
    ∧ session.sessionId = sessionId ∧ session.active = true

/-- The step names the session, makes another one of the player current, or drains. -/
def Ends (config : SessionConfig) (gid : Gid) (sessionId : SessionId) (s : Succession B) (l : Label M) : Prop :=
  s.names l = some sessionId ∨ (s.madeCurrent config l).any (·.1 = gid) ∨ l = .drain

/-- Steps that meet `C` are meant: no operation harms a session it does not name,
    and a session that was made current stays so. -/
structure Unharmed (wire : Wire M B) (config : ValidSessionConfig) (C : Succession B → Label M → Prop)
    (s : Succession B) : Prop where
  confined : ∀ l t sessionId, C s l → (system wire config).step s l t → s.names l = some sessionId →
    Confined sessionId s t
  stays : ∀ l t gid arc sessionId, C s l → (system wire config).step s l t →
    s.madeCurrent config.toSessionConfig l = some (gid, arc, sessionId) → ∀ u,
    (system wire config).Run (fun s l => C s l ∧ ¬ Ends config.toSessionConfig gid sessionId s l) t u →
    Current gid arc sessionId u.sessions

/-- The second section of a `kick` finds under its `Arc` the id that it was
    called for, if the `Arc` is still in the map. -/
def Matching (s : Succession B) : Label M → Prop
  | .tick i _ _ => ∀ call ∈ s.calls[i]?, match call with
    | .kick (.remove gid arc sessionId _) => s.sessions.get gid = some arc →
      s.sessions.arcs[arc]?.any (·.sessionId = sessionId) = true
    | _ => True
  | _ => True

instance (s : Succession B) (l : Label M) : Decidable (s.Matching l) :=
  match l with
  | .tick i _ _ => match found : s.calls[i]? with
    | some (.kick (.remove gid arc sessionId _)) =>
      decidable_of_iff (s.sessions.get gid = some arc →
        s.sessions.arcs[arc]?.any (·.sessionId = sessionId) = true) (by simp [Matching, found])
    | some (.kick (.lock ..)) | some (.kick .done) | some (.reconnect ..) | some (.disconnect ..) | some .done
    | none => .isTrue (by simp [Matching, found])
  | .installLogin .. | .completeReconnect .. | .disconnect .. | .kick .. | .invalidate .. | .pruneExpired _
  | .drain => .isTrue trivial

/-! ## What a section can do -/

/-- The sections by what they do to the session that they lock, or to the map. -/
inductive Advances (config : SessionConfig) (now : Nat) (s : ClientSessions B) :
    Call → ClientSessions B → Option Connection → Call → Prop
  | refused {gid : Gid} {arc : Nat} {previous : SessionId} {conn : Connection} {seq ack : UInt32}
      {old session : ClientSession B} : s.arcs[arc]? = some old → old.Same session →
      Advances config now s (.reconnect gid arc previous conn seq ack) (s.store arc session) none .done
  | resumed {gid : Gid} {arc : Nat} {previous : SessionId} {conn : Connection} {seq ack : UInt32}
      {old session : ClientSession B} : s.arcs[arc]? = some old →
      (old.completeReconnect previous conn seq ack now config).1.isOk = true →
      session.sessionId = conn.sessionId → session.conn = some conn →
      Advances config now s (.reconnect gid arc previous conn seq ack) (s.store arc session) none .done
  -- `disconnect` and the first section of `kick` find another id, or nothing to unbind
  | missed {call next : Call} {arc : Nat} {old : ClientSession B} : s.arcs[arc]? = some old →
      next = .done ∨ next = .kick .done → Advances config now s call (s.store arc old) none next
  | unbound {gid : Gid} {arc : Nat} {sessionId : SessionId} {old session : ClientSession B} :
      s.arcs[arc]? = some old → old.sessionId = sessionId → old.Unbound session →
      Advances config now s (.disconnect gid arc sessionId) (s.store arc session) none .done
  | taken {gid : Gid} {arc : Nat} {sessionId : SessionId} {old session : ClientSession B} :
      s.arcs[arc]? = some old → old.sessionId = sessionId → old.Unbound session →
      Advances config now s (.kick (.lock gid arc sessionId)) (s.store arc session) none
        (.kick (.remove gid arc sessionId old.conn))
  | passed {gid : Gid} {arc : Nat} {sessionId : SessionId} {conn : Option Connection} : s.get gid ≠ some arc →
      Advances config now s (.kick (.remove gid arc sessionId conn)) s conn (.kick .done)
  | removed {gid : Gid} {arc : Nat} {sessionId : SessionId} {conn : Option Connection} : s.get gid = some arc →
      Advances config now s (.kick (.remove gid arc sessionId conn)) { s with players := s.players.erase gid } conn
        (.kick .done)

theorem advances_of_advance {wire : Wire M B} {config : SessionConfig} {s t : ClientSessions B} {message : M}
    {now : Nat} {call next : Call} {closing : Option Connection}
    (moved : advance wire config s message now call = some (t, closing, next)) :
    Advances config now s call t closing next := by
  cases call with
  | reconnect gid arc previous conn seq ack =>
    simp only [advance, Option.map_eq_some_iff] at moved
    obtain ⟨session, found, result⟩ := moved
    cases result
    rcases session.completeReconnect_binds previous conn seq ack now config with
      ⟨_, same⟩ | ⟨⟨resumed, ok⟩, id, bound⟩
    · exact .refused found same
    · exact .resumed found (by simp [ok, Except.isOk, Except.toBool]) id bound
  | disconnect gid arc sessionId =>
    simp only [advance, Option.map_eq_some_iff] at moved
    obtain ⟨session, found, result⟩ := moved
    cases result
    rcases session.disconnect_unbinds sessionId now with ⟨_, same⟩ | ⟨id, _, _, unbound⟩
    · rw [same]
      exact .missed found (.inl rfl)
    · exact .unbound found id unbound
  | kick kick =>
    cases kick with
    | lock gid arc sessionId =>
      simp only [advance, ClientSessions.advanceKick, Option.map_map, Option.map_eq_some_iff] at moved
      obtain ⟨session, found, result⟩ := moved
      rcases session.kick_unbinds wire sessionId message now config with ⟨_, same⟩ | ⟨id, answer, unbound⟩
      · simp only [Function.comp_apply, same] at result
        cases result
        exact .missed found (.inr rfl)
      · simp only [Function.comp_apply, answer] at result
        cases result
        exact .taken found id unbound
    | remove gid arc sessionId conn =>
      cases moved
      rcases s.removeKicked_cases gid arc with ⟨elsewhere, same⟩ | ⟨entry, removed⟩
      · rw [same]
        exact .passed elsewhere
      · rw [removed]
        exact .removed entry
    | done => cases moved
  | done => cases moved

/-! ## Every operation holds the `Arc` of its player -/

def Call.Owned (owner : Nat → Gid) (arcs : Nat) : Call → Prop
  | .reconnect gid arc _ _ _ _ | .disconnect gid arc _ | .kick (.lock gid arc _) => arc < arcs ∧ owner arc = gid
  | .kick (.remove gid arc sessionId conn) =>
    (arc < arcs ∧ owner arc = gid) ∧ ∀ c, conn = some c → c.sessionId = sessionId
  | .kick .done | .done => True

structure Tracked (owner : Nat → Gid) (s : Succession B) : Prop where
  sound : s.sessions.Sound owner
  calls : ∀ (i : Nat) (call : Call), s.calls[i]? = some call → call.Owned owner s.sessions.arcs.length

variable {owner : Nat → Gid} {s t : Succession B} {config : SessionConfig}

/-- A new `Arc` gets its owner; those that the operations hold keep theirs. -/
theorem Call.Owned.extend {arcs : Nat} {call : Call} (owned : call.Owned owner arcs) (gid : Gid) :
    call.Owned (Function.update owner arcs gid) (arcs + 1) := by
  have keeps : ∀ (other : Gid) (arc : Nat), arc < arcs ∧ owner arc = other →
      arc < arcs + 1 ∧ Function.update owner arcs gid arc = other := by
    rintro other arc ⟨inside, isOwner⟩
    refine ⟨by omega, ?_⟩
    rw [Function.update_of_ne (by omega)]
    exact isOwner
  cases call with
  | reconnect other arc previous conn seq ack => exact keeps other arc owned
  | disconnect other arc sessionId => exact keeps other arc owned
  | kick kick =>
    cases kick with
    | lock other arc sessionId => exact keeps other arc owned
    | remove other arc sessionId conn => exact ⟨keeps other arc owned.1, owned.2⟩
    | done => trivial
  | done => trivial

theorem Tracked.fetch (tracked : Tracked owner s) {gid : Gid} {call : Nat → Call}
    (taken : s.fetch gid call = some t)
    (owned : ∀ arc, arc < s.sessions.arcs.length ∧ owner arc = gid →
      (call arc).Owned owner s.sessions.arcs.length) : Tracked owner t := by
  simp only [Succession.fetch, Option.map_eq_some_iff] at taken
  obtain ⟨arc, found, rfl⟩ := taken
  refine ⟨tracked.sound, ?_⟩
  intro i other there
  rcases Pool.get_append_cases there with ⟨_, rfl⟩ | ⟨_, there⟩
  · exact owned arc (tracked.sound.entries gid arc found)
  · exact tracked.calls i other there

/-- An operation moves on: the `Arc`s are the same ones. -/
theorem Tracked.move (tracked : Tracked owner s) (i : Nat) {sessions : ClientSessions B} {next : Call}
    {closed : List Connection} (sound : sessions.Sound owner)
    (same : sessions.arcs.length = s.sessions.arcs.length)
    (owned : next.Owned owner s.sessions.arcs.length) :
    Tracked owner ⟨sessions, s.calls.set i next, closed⟩ := by
  refine ⟨sound, ?_⟩
  intro j other there
  change other.Owned owner sessions.arcs.length
  rw [same]
  rcases Pool.get_set_cases there with ⟨_, rfl⟩ | ⟨_, there⟩
  · exact owned
  · exact tracked.calls j other there

theorem Tracked.advance (tracked : Tracked owner s) {i now : Nat} {call next : Call} {sessions : ClientSessions B}
    {closing : Option Connection} (there : s.calls[i]? = some call)
    (advances : Advances config now s.sessions call sessions closing next) (closed : List Connection) :
    Tracked owner ⟨sessions, s.calls.set i next, closed⟩ := by
  have owned := tracked.calls i call there
  have stored : ∀ (arc : Nat) (session : ClientSession B),
      (s.sessions.store arc session).arcs.length = s.sessions.arcs.length := by
    intro arc session
    simp [ClientSessions.store]
  cases advances with
  | refused found same => exact tracked.move i (tracked.sound.store_same found same) (stored _ _) trivial
  | resumed found _ id bound =>
    refine tracked.move i ?_ (stored _ _) trivial
    apply tracked.sound.store
    intro c isBound
    rw [bound] at isBound
    obtain rfl := Option.some.inj isBound
    exact id.symm
  | missed found ended =>
    refine tracked.move i (tracked.sound.store_same found (.refl _)) (stored _ _) ?_
    cases ended with
    | inl done =>
      rw [done]
      trivial
    | inr done =>
      rw [done]
      trivial
  | unbound found _ unbound => exact tracked.move i (tracked.sound.store_unbound _ unbound.2) (stored _ _) trivial
  | taken found id unbound =>
    refine tracked.move i (tracked.sound.store_unbound _ unbound.2) (stored _ _) ⟨owned, ?_⟩
    -- the connection that was taken carries the id that the kick names
    intro c bound
    rw [← id]
    exact tracked.sound.marks _ _ c found bound
  | passed _ => exact tracked.move i tracked.sound rfl trivial
  | removed _ =>
    refine tracked.move i ?_ rfl trivial
    exact tracked.sound.restrict fun _ _ found => (ClientSessions.lookup_of_erase found).2

theorem Tracked.step (tracked : Tracked owner s) (wire : Wire M B) {l : Label M}
    (taken : s.step wire config l = some t) : ∃ owner, Tracked owner t := by
  cases l with
  | installLogin gid conn routes clientSeq =>
    obtain rfl := Option.some.inj taken
    refine ⟨_, tracked.sound.installLogin gid conn routes clientSeq, ?_⟩
    intro i call there
    change call.Owned _ (s.sessions.arcs ++ [_]).length
    rw [List.length_append, List.length_singleton]
    exact (tracked.calls i call there).extend gid
  | completeReconnect gid previous conn seq ack => exact ⟨owner, tracked.fetch taken fun _ owned => owned⟩
  | disconnect gid sessionId => exact ⟨owner, tracked.fetch taken fun _ owned => owned⟩
  | kick gid sessionId => exact ⟨owner, tracked.fetch taken fun _ owned => owned⟩
  | invalidate gid sessionId =>
    obtain rfl := Option.some.inj taken
    refine ⟨owner, tracked.sound.invalidate gid sessionId, ?_⟩
    rcases s.sessions.invalidate_cases gid sessionId with same | ⟨_, _, _, _, _, removed⟩
    · simp only [same]
      exact tracked.calls
    · simp only [removed]
      exact tracked.calls
  | pruneExpired now =>
    obtain rfl := Option.some.inj taken
    exact ⟨owner, tracked.sound.pruneExpired now config, tracked.calls⟩
  | drain =>
    obtain rfl := Option.some.inj taken
    refine ⟨owner, tracked.sound.drain, ?_⟩
    simpa [ClientSessions.drain] using tracked.calls
  | tick i message now =>
    simp only [Succession.step, Option.bind_eq_some_iff, Option.map_eq_some_iff] at taken
    obtain ⟨call, there, ⟨sessions, closing, next⟩, advanced, rfl⟩ := taken
    exact ⟨owner, tracked.advance there (advances_of_advance advanced) _⟩

theorem tracked_of_reach {wire : Wire M B} {config : ValidSessionConfig} {C : Succession B → Label M → Prop}
    (reached : (system wire config).Reach C s) : ∃ owner, Tracked owner s := by
  apply reached.inv
  · rintro _ rfl
    refine ⟨fun _ => 0, .new, ?_⟩
    intro i call there
    cases there
  · rintro s l t ⟨owner, tracked⟩ _ taken
    exact tracked.step wire taken

/-! ## What a step does to a current session -/

variable {gid : Gid} {arc : Nat} {sessionId : SessionId} {table : ClientSessions B}

/-- A section on a session spares the current one, if it leaves id and activity. -/
theorem Current.store (current : Current gid arc sessionId table) {other : Nat} {old session : ClientSession B}
    (found : table.arcs[other]? = some old)
    (spares : other = arc → old.sessionId = sessionId → session.sessionId = sessionId ∧ session.conn = old.conn) :
    Current gid arc sessionId (table.store other session) := by
  obtain ⟨here, held, behind, id, active⟩ := current
  refine ⟨here, ?_⟩
  by_cases same : other = arc
  · subst same
    obtain rfl := Option.some.inj (found.symm.trans behind)
    obtain ⟨id', conn⟩ := spares rfl id
    refine ⟨session, Pool.get_set_self session found, id', ?_⟩
    rw [ClientSession.active, conn]
    exact active
  · exact ⟨held, (Pool.get_set_ne session same).trans behind, id, active⟩

/-- A section on the map spares it, if it keeps its entry. -/
theorem Current.restrict (current : Current gid arc sessionId table) {players : Table.Map Gid Nat}
    (kept : players.lookup gid = table.players.lookup gid) :
    Current gid arc sessionId { table with players := players } :=
  ⟨kept.trans current.1, current.2⟩

theorem Current.erase (current : Current gid arc sessionId table) {other : Gid} (differ : other ≠ gid) :
    Current gid arc sessionId { table with players := table.players.erase other } :=
  current.restrict (AList.lookup_erase_ne differ.symm)

theorem Current.advance (current : Current gid arc sessionId s.sessions) (tracked : Tracked owner s)
    {i : Nat} {call next : Call} {message : M} {now : Nat} {sessions : ClientSessions B}
    {closing : Option Connection} (there : s.calls[i]? = some call)
    (matching : s.Matching (.tick i message now : Label M))
    (spared : ¬ Ends config gid sessionId s (.tick i message now : Label M))
    (advances : Advances config now s.sessions call sessions closing next) : Current gid arc sessionId sessions := by
  have owned := tracked.calls i call there
  have isOwner := (tracked.sound.entries gid arc current.1).2
  have differs : ∀ id, call.names = some id → id ≠ sessionId := by
    rintro id named rfl
    apply spared
    apply Or.inl
    simp only [names, there, Option.bind_some]
    exact named
  cases advances with
  | refused found same =>
    apply current.store found
    intro _ id
    exact ⟨same.1.trans id, same.2⟩
  | @resumed other held previous conn seq ack old session found ok _ _ =>
    apply current.store found
    rintro rfl id
    -- a reconnect that completes on this `Arc` makes its own session current
    exfalso
    apply spared
    apply Or.inr
    apply Or.inl
    have owner : other = gid := owned.2.symm.trans isOwner
    subst owner
    simp [madeCurrent, there, current.1, found, ok]
  | missed found _ =>
    apply current.store found
    intro _ id
    exact ⟨id, rfl⟩
  | unbound found matched _ =>
    apply current.store found
    intro _ id
    exact absurd (matched.symm.trans id) (differs _ rfl)
  | taken found matched _ =>
    apply current.store found
    intro _ id
    exact absurd (matched.symm.trans id) (differs _ rfl)
  | passed _ => exact current
  | removed entry =>
    apply current.erase
    -- the entry that goes has the id that the kick names
    rintro rfl
    obtain rfl := Option.some.inj (entry.symm.trans current.1)
    have found := matching _ there entry
    obtain ⟨session, behind, isId, _⟩ := current.2
    simp only [behind, Option.any_some, decide_eq_true_eq] at found
    exact differs _ rfl (found.symm.trans isId)

theorem Current.step (current : Current gid arc sessionId s.sessions) (tracked : Tracked owner s)
    (wire : Wire M B) {l : Label M} (matching : s.Matching l) (spared : ¬ Ends config gid sessionId s l)
    (taken : s.step wire config l = some t) : Current gid arc sessionId t.sessions := by
  have fetched : ∀ {other : Gid} {call : Nat → Call}, s.fetch other call = some t →
      Current gid arc sessionId t.sessions := by
    intro other call taken
    simp only [Succession.fetch, Option.map_eq_some_iff] at taken
    obtain ⟨_, _, rfl⟩ := taken
    exact current
  cases l with
  | installLogin other conn routes clientSeq =>
    obtain rfl := Option.some.inj taken
    have differ : other ≠ gid := by
      rintro rfl
      apply spared
      simp [Ends, madeCurrent]
    obtain ⟨here, session, behind, id, active⟩ := current
    refine ⟨?_, session, Pool.get_append_of_some _ behind, id, active⟩
    exact (AList.lookup_insert_ne differ.symm).trans here
  | completeReconnect other previous conn seq ack => exact fetched taken
  | disconnect other id => exact fetched taken
  | kick other id => exact fetched taken
  | invalidate other id =>
    obtain rfl := Option.some.inj taken
    rcases s.sessions.invalidate_cases other id with same | ⟨held, session, entry, behind, isId, removed⟩
    · simp only [same]
      exact current
    -- the id was compared under the lock of the map, so the entry is the one that was named
    · simp only [removed]
      apply current.erase
      rintro rfl
      obtain rfl := Option.some.inj (entry.symm.trans current.1)
      obtain ⟨_, behind', isId', _⟩ := current.2
      obtain rfl := Option.some.inj (behind.symm.trans behind')
      apply spared
      exact .inl (congrArg some (isId.symm.trans isId'))
  | pruneExpired now =>
    obtain rfl := Option.some.inj taken
    -- only entries that are not active expire
    apply current.restrict
    obtain ⟨here, session, behind, _, active⟩ := current
    refine (Table.lookup_retain.mpr ⟨here, ?_⟩).trans here.symm
    simp [behind, active]
  | drain => exact absurd (.inr (.inr rfl)) spared
  | tick i message now =>
    simp only [Succession.step, Option.bind_eq_some_iff, Option.map_eq_some_iff] at taken
    obtain ⟨call, there, ⟨sessions, closing, next⟩, advanced, rfl⟩ := taken
    exact current.advance tracked there matching spared (advances_of_advance advanced)

theorem current_of_made {wire : Wire M B} {l : Label M} (taken : s.step wire config l = some t)
    (made : s.madeCurrent config l = some (gid, arc, sessionId)) : Current gid arc sessionId t.sessions := by
  cases l with
  | installLogin other conn routes clientSeq =>
    obtain rfl := Option.some.inj taken
    cases made
    exact ⟨AList.lookup_insert .., _, Pool.get_append_self .., rfl, rfl⟩
  | tick i message now =>
    simp only [Succession.step, Option.bind_eq_some_iff, Option.map_eq_some_iff] at taken
    obtain ⟨call, there, ⟨sessions, closing, next⟩, advanced, rfl⟩ := taken
    cases call with
    | reconnect other held previous conn seq ack =>
      simp only [madeCurrent, there, Option.ite_none_right_eq_some] at made
      obtain ⟨⟨entry, ok⟩, same⟩ := made
      cases same
      simp only [Succession.advance, Option.map_eq_some_iff] at advanced
      obtain ⟨session, found, result⟩ := advanced
      cases result
      refine ⟨entry, _, Pool.get_set_self _ found, ?_⟩
      rcases session.completeReconnect_binds previous conn seq ack now config with
        ⟨⟨error, failed⟩, _⟩ | ⟨_, id, bound⟩
      · simp [found, failed, Except.isOk, Except.toBool] at ok
      · refine ⟨id, ?_⟩
        rw [ClientSession.active, bound]
        rfl
    | disconnect other held id => simp [madeCurrent, there] at made
    | kick kick => simp [madeCurrent, there] at made
    | done => cases advanced
  | completeReconnect other previous conn seq ack => cases made
  | disconnect other id => cases made
  | kick other id => cases made
  | invalidate other id => cases made
  | pruneExpired now => cases made
  | drain => cases made

/-! ## Operations act on the sessions that they name -/

/-- A section on one session, which it leaves alone or which has the id. -/
theorem confined_store {other : Nat} {old session : ClientSession B} (calls : List Call)
    (found : s.sessions.arcs[other]? = some old) (named : session.conn = old.conn ∨ old.sessionId = sessionId) :
    Confined sessionId s ⟨s.sessions.store other session, calls, s.closed⟩ where
  deactivates := by
    intro arc held behind active inactive
    by_cases same : other = arc
    · subst same
      obtain rfl := Option.some.inj (found.symm.trans behind)
      -- the section has kept the connection, or acted on the session that was named
      rcases named with conn | id
      · rw [ClientSessions.activeArc_store_self session found, ClientSession.active, conn] at inactive
        rw [ClientSession.active, inactive] at active
        cases active
      · exact id
    · rw [ClientSessions.activeArc_store_ne session same, ClientSessions.activeArc_eq behind, active] at inactive
      cases inactive
  removes := by
    intro gid arc held here gone
    exact absurd here gone
  closes := by
    intro conn isClosed wasOpen
    exact absurd isClosed wasOpen

/-- A section that leaves the table as it is. -/
theorem confined_quiet {calls : List Call} {closed : List Connection}
    (closes : ∀ conn ∈ closed, conn ∉ s.closed → conn.sessionId = sessionId
      ∧ ∀ (arc : Nat) (session : ClientSession B), s.sessions.arcs[arc]? = some session →
        session.conn = some conn → session.sessionId = sessionId) :
    Confined sessionId s ⟨s.sessions, calls, closed⟩ where
  deactivates := by
    intro arc session behind active inactive
    rw [ClientSessions.activeArc_eq behind, active] at inactive
    cases inactive
  removes := by
    intro gid arc session here gone
    exact absurd here gone
  closes := closes

/-- A section on the map that removes the entry of a session with the id. -/
theorem confined_erase {gid : Gid} {arc : Nat} {session : ClientSession B} (calls : List Call)
    {closed : List Connection} (entry : s.sessions.get gid = some arc)
    (behind : s.sessions.arcs[arc]? = some session) (id : session.sessionId = sessionId)
    (closes : ∀ conn ∈ closed, conn ∉ s.closed → conn.sessionId = sessionId
      ∧ ∀ (arc : Nat) (session : ClientSession B), s.sessions.arcs[arc]? = some session →
        session.conn = some conn → session.sessionId = sessionId) :
    Confined sessionId s ⟨{ s.sessions with players := s.sessions.players.erase gid }, calls, closed⟩ where
  deactivates := by
    intro other held behind active inactive
    have same := ClientSessions.activeArc_eq behind
    rw [active] at same
    exact absurd (same.symm.trans inactive) (by simp)
  removes := by
    intro other held found here gone isBehind
    by_cases same : other = gid
    · subst same
      obtain rfl := Option.some.inj (entry.symm.trans here)
      obtain rfl := Option.some.inj (behind.symm.trans isBehind)
      exact id
    · exact absurd ((AList.lookup_erase_ne same).trans here) gone
  closes := closes

theorem confined_advance (tracked : Tracked owner s) {i : Nat} {call next : Call} {message : M}
    {now : Nat} {sessions : ClientSessions B} {closing : Option Connection} (there : s.calls[i]? = some call)
    (matching : s.Matching (.tick i message now : Label M)) (named : call.names = some sessionId)
    (advances : Advances config now s.sessions call sessions closing next) :
    Confined sessionId s ⟨sessions, s.calls.set i next, s.closed ++ closing.toList⟩ := by
  have owned := tracked.calls i call there
  -- the connection that a kick closes was taken from the session that it names
  have closes : ∀ {gid : Gid} {arc : Nat} {conn : Option Connection},
      call = .kick (.remove gid arc sessionId conn) → ∀ c ∈ s.closed ++ conn.toList, c ∉ s.closed →
      c.sessionId = sessionId ∧ ∀ (arc : Nat) (session : ClientSession B), s.sessions.arcs[arc]? = some session →
        session.conn = some c → session.sessionId = sessionId := by
    rintro gid arc conn rfl c isClosed wasOpen
    rcases List.mem_append.mp isClosed with before | closing
    · exact absurd before wasOpen
    · have mark := owned.2 c (Option.mem_toList.mp closing)
      refine ⟨mark, ?_⟩
      intro arc session behind bound
      exact (tracked.sound.marks arc session c behind bound).symm.trans mark
  cases advances with
  | refused _ _ => cases named
  | resumed _ _ _ _ => cases named
  | missed found _ =>
    rw [Option.toList_none, List.append_nil]
    exact confined_store _ found (.inl rfl)
  | unbound found id _ =>
    cases named
    rw [Option.toList_none, List.append_nil]
    exact confined_store _ found (.inr id)
  | taken found id _ =>
    cases named
    rw [Option.toList_none, List.append_nil]
    exact confined_store _ found (.inr id)
  | passed _ =>
    cases named
    exact confined_quiet (closes rfl)
  | @removed _ arc _ _ entry =>
    cases named
    -- here only the `Arc` was compared, and `Matching` has to say that the id is the same
    have found := matching _ there entry
    obtain ⟨session, behind⟩ : ∃ session, s.sessions.arcs[arc]? = some session :=
      ⟨_, List.getElem?_eq_getElem owned.1.1⟩
    simp only [behind, Option.any_some, decide_eq_true_eq] at found
    exact confined_erase _ entry behind found (closes rfl)

theorem confined_step (tracked : Tracked owner s) (wire : Wire M B) {l : Label M} (matching : s.Matching l)
    (taken : s.step wire config l = some t) (named : s.names l = some sessionId) : Confined sessionId s t := by
  cases l with
  | invalidate gid id =>
    cases named
    obtain rfl := Option.some.inj taken
    rcases s.sessions.invalidate_cases gid sessionId with same | ⟨arc, session, entry, behind, id, removed⟩
    · simp only [same]
      exact confined_quiet fun _ isClosed wasOpen => absurd isClosed wasOpen
    · simp only [removed]
      exact confined_erase _ entry behind id fun _ isClosed wasOpen => absurd isClosed wasOpen
  | tick i message now =>
    simp only [Succession.step, Option.bind_eq_some_iff, Option.map_eq_some_iff] at taken
    obtain ⟨call, there, ⟨sessions, closing, next⟩, advanced, rfl⟩ := taken
    simp only [names, there, Option.bind_some] at named
    exact confined_advance tracked there matching named (advances_of_advance advanced)
  | installLogin gid conn routes clientSeq => cases named
  | completeReconnect gid previous conn seq ack => cases named
  | disconnect gid id => cases named
  | kick gid id => cases named
  | pruneExpired now => cases named
  | drain => cases named

/-- As long as every `kick` that removes its `Arc` finds the id it was called for,
    late events harm no newer session. -/
theorem newer_session_unharmed (wire : Wire M B) (config : ValidSessionConfig) {s : Succession B}
    (reached : (system wire config).Reach Matching s) : Unharmed wire config Matching s where
  confined := by
    intro l t sessionId matching taken named
    obtain ⟨owner, tracked⟩ := tracked_of_reach reached
    exact confined_step tracked wire matching taken named
  stays := by
    intro l t gid arc sessionId matching taken made u run
    have weaker : ∀ (s : Succession B) (l : Label M),
        Matching s l ∧ ¬ Ends config.toSessionConfig gid sessionId s l →
        Matching s l := fun _ _ both => both.1
    have after := reached.step matching taken
    -- every state of the run is reachable, so its operations hold the `Arc`s of their players
    induction run with
    | refl => exact current_of_made taken made
    | step before allowed next ih =>
      obtain ⟨owner, tracked⟩ := tracked_of_reach (after.run (before.mono weaker))
      exact ih.step tracked wire allowed.1 allowed.2 next

/-- No step puts an entry back. -/
theorem older_step {wire : Wire M B} {l : Label M} (taken : s.step wire config l = some t) :
    s.sessions.Older t.sessions := by
  have fetched : ∀ {gid : Gid} {call : Nat → Call}, s.fetch gid call = some t → s.sessions.Older t.sessions := by
    intro gid call taken
    simp only [fetch, Option.map_eq_some_iff] at taken
    obtain ⟨_, _, rfl⟩ := taken
    exact .refl _
  cases l with
  | installLogin gid conn routes clientSeq =>
    obtain rfl := Option.some.inj taken
    exact ClientSessions.older_installLogin ..
  | completeReconnect gid previous conn seq ack => exact fetched taken
  | disconnect gid id => exact fetched taken
  | kick gid id => exact fetched taken
  | invalidate gid id =>
    obtain rfl := Option.some.inj taken
    exact ClientSessions.older_invalidate ..
  | pruneExpired now =>
    obtain rfl := Option.some.inj taken
    exact ClientSessions.older_restrict fun _ _ found => (Table.lookup_retain.mp found).1
  | drain =>
    obtain rfl := Option.some.inj taken
    exact ClientSessions.older_drain _
  | tick i message now =>
    simp only [step, Option.bind_eq_some_iff, Option.map_eq_some_iff] at taken
    obtain ⟨call, _, ⟨sessions, closing, next⟩, advanced, rfl⟩ := taken
    cases advances_of_advance advanced with
    | refused _ _ => exact ClientSessions.older_store ..
    | resumed _ _ _ _ => exact ClientSessions.older_store ..
    | missed _ _ => exact ClientSessions.older_store ..
    | unbound _ _ _ => exact ClientSessions.older_store ..
    | taken _ _ _ => exact ClientSessions.older_store ..
    | passed _ => exact .refl _
    | removed _ => exact ClientSessions.older_restrict fun _ _ found => (ClientSessions.lookup_of_erase found).2

/-- A player resumes on connection 8; a kick of its session on connection 7 comes
    late. -/
def lateKick : List (Label Unit) :=
  [.installLogin 1 ⟨7⟩ ⟨1, 2⟩ 0, .disconnect 1 7, .tick 0 () 0, .completeReconnect 1 7 ⟨8⟩ 1 0, .tick 1 () 1,
    .kick 1 7]

theorem lateKick_unharmed :
    ∃ s : Succession Unit, s.names (.tick 2 () 2 : Label Unit) = some 7 ∧ s.sessions.activeArc 0 = true
      ∧ Unharmed Gateway.blankWire .hardLimits Matching s := by
  have run : ∃ s, System.follow Matching (step Gateway.blankWire SessionConfig.HARD_LIMITS) new lateKick = some s
      ∧ s.names (.tick 2 () 2 : Label Unit) = some 7 ∧ s.sessions.activeArc 0 = true := by
    decide +kernel
  obtain ⟨s, followed, named, active⟩ := run
  have reached : (system Gateway.blankWire .hardLimits).Reach Matching s := System.reach_of_follow rfl followed
  exact ⟨s, named, active, newer_session_unharmed Gateway.blankWire .hardLimits reached⟩

/-- The kick takes the connection, the player resumes behind the same `Arc`, and
    the kick is about to remove that `Arc`. -/
def resumeInKick : List (Label Unit) :=
  [.installLogin 1 ⟨7⟩ ⟨1, 2⟩ 0, .kick 1 7, .tick 0 () 0, .completeReconnect 1 7 ⟨8⟩ 1 0, .tick 1 () 1]

theorem resumed_session_removed :
    ¬ ∀ s : Succession Unit, (system Gateway.blankWire .hardLimits).Reach System.Any s →
      Unharmed Gateway.blankWire .hardLimits System.Any s := by
  intro unharmed
  have run : ∃ s, System.follow System.Any (step Gateway.blankWire SessionConfig.HARD_LIMITS) new resumeInKick
      = some s ∧ s.names (.tick 0 () 2 : Label Unit) = some 7 ∧ s.sessions.get 1 = some 0
      ∧ (∃ session, s.sessions.arcs[0]? = some session ∧ session.sessionId = 8)
      ∧ ∃ t, s.step Gateway.blankWire SessionConfig.HARD_LIMITS (.tick 0 () 2) = some t ∧ t.sessions.get 1 = none := by
    decide +kernel
  obtain ⟨s, followed, named, entry, ⟨session, behind, id⟩, t, taken, gone⟩ := run
  have reached : (system Gateway.blankWire .hardLimits).Reach System.Any s := System.reach_of_follow rfl followed
  have confined := (unharmed s reached).confined _ _ _ trivial taken named
  have same := confined.removes 1 0 session entry (by simp [gone]) behind
  rw [id] at same
  cases same

end Succession

end Xkk.Gate

import Xkk.Gate.OnlineCount

/-! # The entries of the session table

What the concurrent users of the table have in common.  A section that locks one
session keeps its id and its connection, takes the connection away, or binds the
session to another connection; a section that locks the map adds or removes
entries.  An `Arc` is inserted once, for one player, so it has an owner, and an
active session carries the id of its connection.
-/

namespace Xkk.Gate

open Xkk.Lib

namespace ClientSession

variable {M B : Type}

/-- The id and the connection are as before. -/
def Same (s t : ClientSession B) : Prop := t.sessionId = s.sessionId ∧ t.conn = s.conn

/-- The id is as before and the connection is gone. -/
def Unbound (s t : ClientSession B) : Prop := t.sessionId = s.sessionId ∧ t.conn = none

theorem Same.refl (s : ClientSession B) : Same s s := ⟨rfl, rfl⟩

theorem encode_same (wire : Wire M B) (s : ClientSession B) (msgid : MsgId) (message : M)
    (now : Nat) (config : SessionConfig) : Same s (s.encode wire msgid message now config).2 := by
  have room : ∀ s : ClientSession B, (s.makeRoom now config).sessionId = s.sessionId := by
    intro s
    unfold makeRoom evictOldest
    simp only
    split
    · split <;> rfl
    · rfl
  refine ⟨?_, s.encode_conn wire msgid message now config⟩
  simp only [encode]
  split
  · rfl
  · split
    · exact room _
    · rfl

/-- `complete_reconnect` fails and binds nothing, or binds the new connection. -/
theorem completeReconnect_binds (s : ClientSession B) (previous : SessionId) (conn : Connection)
    (seq ack : UInt32) (now : Nat) (config : SessionConfig) :
    ((∃ error, (s.completeReconnect previous conn seq ack now config).1 = .error error)
      ∧ Same s (s.completeReconnect previous conn seq ack now config).2)
    ∨ ((∃ resumed, (s.completeReconnect previous conn seq ack now config).1 = .ok resumed)
      ∧ (s.completeReconnect previous conn seq ack now config).2.sessionId = conn.sessionId
      ∧ (s.completeReconnect previous conn seq ack now config).2.conn = some conn) := by
  rcases s.completeReconnect_cases previous conn seq ack now config with
    ⟨_, result⟩ | ⟨_, _, result⟩ | ⟨_, _, result⟩
  · rw [result]
    exact .inl ⟨⟨_, rfl⟩, rfl, rfl⟩
  · rw [result]
    exact .inl ⟨⟨_, rfl⟩, rfl, rfl⟩
  · rw [result]
    exact .inr ⟨⟨_, rfl⟩, rfl, rfl⟩

/-- `disconnect` acts on an active session of that id only. -/
theorem disconnect_unbinds (s : ClientSession B) (sessionId : SessionId) (now : Nat) :
    (¬ (s.sessionId = sessionId ∧ s.active = true) ∧ s.disconnect sessionId now = (none, s))
    ∨ (s.sessionId = sessionId ∧ s.active = true ∧ (s.disconnect sessionId now).1 = some s.routes
      ∧ Unbound s (s.disconnect sessionId now).2) := by
  unfold disconnect
  by_cases mismatch : s.sessionId ≠ sessionId ∨ s.active = false
  · rw [if_pos mismatch]
    apply Or.inl
    refine ⟨?_, rfl⟩
    rintro ⟨same, active⟩
    rcases mismatch with differ | inactive
    · exact differ same
    · rw [active] at inactive
      cases inactive
  · rw [if_neg mismatch]
    obtain ⟨same, active⟩ := not_or.mp mismatch
    exact .inr ⟨not_not.mp same, by simpa using active, rfl, rfl, rfl⟩

/-- The first section of `kick` acts on a session of that id only. -/
theorem kick_unbinds (wire : Wire M B) (s : ClientSession B) (sessionId : SessionId) (message : M)
    (now : Nat) (config : SessionConfig) :
    (s.sessionId ≠ sessionId ∧ s.kick wire sessionId message now config = (none, s))
    ∨ (s.sessionId = sessionId ∧ (s.kick wire sessionId message now config).1 = some s.active
      ∧ Unbound s (s.kick wire sessionId message now config).2) := by
  unfold kick
  by_cases mismatch : s.sessionId ≠ sessionId
  · exact .inl ⟨mismatch, if_pos mismatch⟩
  · rw [if_neg mismatch]
    apply Or.inr
    refine ⟨not_not.mp mismatch, ?_⟩
    cases bound : s.conn with
    | none => simp [active, bound, Unbound]
    | some c =>
      -- `kick` takes the connection first and encodes its notice afterwards
      have same := encode_same wire { s with conn := none } .kickNtf message now config
      simp only [Option.isSome_some, if_true]
      exact ⟨by simp [active, bound], same.1, same.2⟩

end ClientSession

/-! ## Kicking and draining -/

/-- Where a `kick` stands: before its section under the session lock, or before
    the one under the lock of the map. -/
inductive Kick where
  | lock (gid : Gid) (arc : Nat) (sessionId : SessionId)
  | remove (gid : Gid) (arc : Nat) (sessionId : SessionId) (conn : Option Connection)
  | done
deriving DecidableEq, Repr

namespace ClientSessions

variable {M B : Type}

/-- One section of a `kick`, with the connection that it closes. -/
def advanceKick (wire : Wire M B) (config : SessionConfig) (s : ClientSessions B) (message : M) (now : Nat) :
    Kick → Option (ClientSessions B × Option Connection × Kick)
  | .lock gid arc sessionId =>
    s.arcs[arc]?.map fun session =>
      let (result, kicked) := session.kick wire sessionId message now config
      (s.store arc kicked, none, if result.isSome then .remove gid arc sessionId session.conn else .done)
  | .remove gid arc _ conn => some (s.removeKicked gid arc, conn, .done)
  | .done => none

/-- The `Arc` is in the map. -/
def mapped (s : ClientSessions B) (arc : Nat) : Bool := s.players.entries.any (·.2 = arc)

/-- The connections that `drain` closes. -/
def draining (s : ClientSessions B) : List Connection :=
  s.players.entries.filterMap fun entry => s.arcs[entry.2]?.bind (·.conn)

def drain (s : ClientSessions B) : ClientSessions B where
  arcs := s.arcs.mapIdx fun arc session => if s.mapped arc then { session with conn := none } else session
  players := ∅

variable {s : ClientSessions B}

/-! ## Owners and marks -/

structure Sound (owner : Nat → Gid) (s : ClientSessions B) : Prop where
  entries : ∀ gid arc, s.get gid = some arc → arc < s.arcs.length ∧ owner arc = gid
  -- an active session carries the id of its connection
  marks : ∀ (arc : Nat) (session : ClientSession B) (conn : Connection), s.arcs[arc]? = some session →
    session.conn = some conn → conn.sessionId = session.sessionId

variable {owner : Nat → Gid}

theorem Sound.new : Sound owner (.new : ClientSessions B) where
  entries := by
    intro gid arc found
    cases found
  marks := by
    intro arc session conn found
    cases found

/-- Sessions may be replaced as long as their marks are right. -/
theorem Sound.store (sound : Sound owner s) (arc : Nat) {session : ClientSession B}
    (mark : ∀ conn, session.conn = some conn → conn.sessionId = session.sessionId) :
    Sound owner (s.store arc session) where
  entries := by
    intro gid other found
    obtain ⟨inside, owned⟩ := sound.entries gid other found
    exact ⟨by simpa [ClientSessions.store] using inside, owned⟩
  marks := by
    intro other replaced conn found bound
    rcases Pool.get_set_cases found with ⟨rfl, rfl⟩ | ⟨_, found⟩
    · exact mark conn bound
    · exact sound.marks other replaced conn found bound

theorem Sound.store_same (sound : Sound owner s) {arc : Nat} {old session : ClientSession B}
    (found : s.arcs[arc]? = some old) (same : old.Same session) : Sound owner (s.store arc session) := by
  apply sound.store
  intro conn bound
  rw [same.1]
  exact sound.marks arc old conn found (same.2 ▸ bound)

theorem Sound.store_unbound (sound : Sound owner s) (arc : Nat) {session : ClientSession B}
    (unbound : session.conn = none) : Sound owner (s.store arc session) := by
  apply sound.store
  intro conn bound
  rw [unbound] at bound
  cases bound

/-- Removing entries keeps the rest as it was. -/
theorem Sound.restrict (sound : Sound owner s) {players : Table.Map Gid Nat}
    (kept : ∀ gid arc, players.lookup gid = some arc → s.get gid = some arc) :
    Sound owner { s with players := players } where
  entries := fun gid arc found => sound.entries gid arc (kept gid arc found)
  marks := sound.marks

theorem lookup_of_erase {players : Table.Map Gid Nat} {gid other : Gid} {arc : Nat}
    (found : (players.erase gid).lookup other = some arc) : other ≠ gid ∧ players.lookup other = some arc := by
  by_cases same : other = gid
  · rw [same, AList.lookup_erase] at found
    cases found
  · exact ⟨same, by rwa [AList.lookup_erase_ne same] at found⟩

theorem removeKicked_cases (s : ClientSessions B) (gid : Gid) (arc : Nat) :
    (s.get gid ≠ some arc ∧ s.removeKicked gid arc = s)
    ∨ (s.get gid = some arc ∧ s.removeKicked gid arc = { s with players := s.players.erase gid }) := by
  unfold removeKicked
  by_cases current : s.get gid = some arc
  · exact .inr ⟨current, if_pos current⟩
  · exact .inl ⟨current, if_neg current⟩

theorem invalidate_cases (s : ClientSessions B) (gid : Gid) (sessionId : SessionId) :
    (s.invalidate gid sessionId).2 = s
    ∨ (∃ arc session, s.get gid = some arc ∧ s.arcs[arc]? = some session ∧ session.sessionId = sessionId
      ∧ (s.invalidate gid sessionId).2 = { s with players := s.players.erase gid }) := by
  unfold invalidate
  cases entry : s.get gid with
  | none => exact .inl rfl
  | some arc =>
    cases behind : s.arcs[arc]? with
    | none => simp [behind]
    | some session =>
      by_cases same : session.sessionId = sessionId
      · apply Or.inr
        exact ⟨arc, session, rfl, behind, same, by simp [behind, same]⟩
      · apply Or.inl
        simp [behind, same]

/-- The `Arc` of a login belongs to its player from then on. -/
theorem Sound.installLogin (sound : Sound owner s) (gid : Gid) (conn : Connection) (routes : Routes)
    (clientSeq : UInt32) :
    Sound (Function.update owner s.arcs.length gid) (s.installLogin gid conn routes clientSeq).2 where
  entries := by
    intro other arc found
    have inserted : (s.players.insert gid s.arcs.length).lookup other = some arc := found
    change arc < (s.arcs ++ [_]).length ∧ _
    rw [List.length_append, List.length_singleton]
    by_cases same : other = gid
    · subst same
      rw [AList.lookup_insert] at inserted
      obtain rfl := Option.some.inj inserted
      exact ⟨by omega, Function.update_self ..⟩
    · rw [AList.lookup_insert_ne same] at inserted
      obtain ⟨inside, owned⟩ := sound.entries other arc inserted
      refine ⟨by omega, ?_⟩
      rw [Function.update_of_ne (by omega)]
      exact owned
  marks := by
    intro arc session bound found isBound
    rcases Pool.get_append_cases found with ⟨_, rfl⟩ | ⟨_, found⟩
    · obtain rfl := Option.some.inj isBound
      rfl
    · exact sound.marks arc session bound found isBound

theorem drain_arcs {arc : Nat} {session : ClientSession B} (found : s.drain.arcs[arc]? = some session) :
    ∃ old, s.arcs[arc]? = some old ∧ (old.Same session ∨ (s.mapped arc = true ∧ old.Unbound session)) := by
  simp only [drain, List.getElem?_mapIdx, Option.map_eq_some_iff] at found
  obtain ⟨old, found, rfl⟩ := found
  refine ⟨old, found, ?_⟩
  cases mapped : s.mapped arc with
  | true => exact .inr ⟨rfl, by simp [ClientSession.Unbound]⟩
  | false => exact .inl (by simp [ClientSession.Same])

theorem Sound.drain (sound : Sound owner s) : Sound owner s.drain where
  entries := by
    intro gid arc found
    cases found
  marks := by
    intro arc session conn found bound
    obtain ⟨old, found, same | ⟨_, unbound⟩⟩ := drain_arcs found
    · rw [same.1]
      exact sound.marks arc old conn found (same.2 ▸ bound)
    · rw [unbound.2] at bound
      cases bound

theorem Sound.pruneExpired (sound : Sound owner s) (now : Nat) (config : SessionConfig) :
    Sound owner (s.pruneExpired now config) :=
  sound.restrict fun _ _ found => (Table.lookup_retain.mp found).1

theorem Sound.removeKicked (sound : Sound owner s) (gid : Gid) (arc : Nat) :
    Sound owner (s.removeKicked gid arc) := by
  rcases s.removeKicked_cases gid arc with ⟨_, same⟩ | ⟨_, removed⟩
  · rw [same]
    exact sound
  · rw [removed]
    exact sound.restrict fun _ _ found => (lookup_of_erase found).2

theorem Sound.invalidate (sound : Sound owner s) (gid : Gid) (sessionId : SessionId) :
    Sound owner (s.invalidate gid sessionId).2 := by
  rcases s.invalidate_cases gid sessionId with same | ⟨_, _, _, _, _, removed⟩
  · rw [same]
    exact sound
  · rw [removed]
    exact sound.restrict fun _ _ found => (lookup_of_erase found).2

/-! ## Entries are not put back -/

/-- Entries of `t` that are not new were there in `s`. -/
def Older (s t : ClientSessions B) : Prop :=
  s.arcs.length ≤ t.arcs.length ∧
    ∀ gid arc, t.get gid = some arc → arc < s.arcs.length → s.get gid = some arc

theorem Older.refl (s : ClientSessions B) : Older s s := ⟨Nat.le_refl _, fun _ _ found _ => found⟩

theorem older_store (s : ClientSessions B) (arc : Nat) (session : ClientSession B) : Older s (s.store arc session) :=
  ⟨by simp [store], fun _ _ found _ => found⟩

theorem older_restrict {players : Table.Map Gid Nat}
    (kept : ∀ gid arc, players.lookup gid = some arc → s.get gid = some arc) :
    Older s { s with players := players } :=
  ⟨Nat.le_refl _, fun gid arc found _ => kept gid arc found⟩

theorem older_invalidate (s : ClientSessions B) (gid : Gid) (sessionId : SessionId) :
    Older s (s.invalidate gid sessionId).2 := by
  rcases s.invalidate_cases gid sessionId with same | ⟨_, _, _, _, _, removed⟩
  · rw [same]
    exact .refl s
  · rw [removed]
    exact older_restrict fun _ _ found => (lookup_of_erase found).2

theorem older_installLogin (s : ClientSessions B) (gid : Gid) (conn : Connection) (routes : Routes)
    (clientSeq : UInt32) : Older s (s.installLogin gid conn routes clientSeq).2 := by
  refine ⟨by simp [installLogin], ?_⟩
  intro other arc found inside
  have inserted : (s.players.insert gid s.arcs.length).lookup other = some arc := found
  by_cases same : other = gid
  · subst same
    -- the entry holds the new `Arc`, which was not there before
    rw [AList.lookup_insert] at inserted
    have isNew := Option.some.inj inserted
    omega
  · rwa [AList.lookup_insert_ne same] at inserted

theorem older_drain (s : ClientSessions B) : Older s s.drain := by
  refine ⟨by simp [drain], ?_⟩
  intro gid arc found _
  cases found

/-! ## Connections in the table -/

/-- The player has an entry, and its session is bound to the connection. -/
def Bound (s : ClientSessions B) (gid : Gid) (arc : Nat) (conn : Connection) : Prop :=
  s.get gid = some arc ∧ ∃ session : ClientSession B, s.arcs[arc]? = some session ∧ session.conn = some conn

variable {gid : Gid} {arc : Nat} {conn : Connection}

/-- After a section on one session, an entry is as before or is that session. -/
theorem Bound.of_store {other : Nat} {session : ClientSession B}
    (bound : (s.store other session).Bound gid arc conn) :
    (arc = other ∧ session.conn = some conn ∧ s.get gid = some arc) ∨ (arc ≠ other ∧ s.Bound gid arc conn) := by
  obtain ⟨entry, held, found, isBound⟩ := bound
  rcases Pool.get_set_cases found with ⟨rfl, rfl⟩ | ⟨differ, found⟩
  · exact .inl ⟨rfl, isBound, entry⟩
  · exact .inr ⟨Ne.symm differ, entry, held, found, isBound⟩

theorem Bound.of_store_same {other : Nat} {old session : ClientSession B} (found : s.arcs[other]? = some old)
    (same : old.Same session) (bound : (s.store other session).Bound gid arc conn) : s.Bound gid arc conn := by
  rcases bound.of_store with ⟨rfl, isBound, entry⟩ | ⟨_, before⟩
  · exact ⟨entry, old, found, same.2 ▸ isBound⟩
  · exact before

theorem Bound.of_store_unbound {other : Nat} {session : ClientSession B} (unbound : session.conn = none)
    (bound : (s.store other session).Bound gid arc conn) : arc ≠ other ∧ s.Bound gid arc conn := by
  rcases bound.of_store with ⟨_, isBound, _⟩ | before
  · rw [unbound] at isBound
    cases isBound
  · exact before

theorem Bound.of_restrict {players : Table.Map Gid Nat}
    (kept : ∀ gid arc, players.lookup gid = some arc → s.get gid = some arc)
    (bound : ({ s with players := players } : ClientSessions B).Bound gid arc conn) : s.Bound gid arc conn :=
  ⟨kept gid arc bound.1, bound.2⟩

theorem Bound.of_removeKicked {other : Gid} {held : Nat} (bound : (s.removeKicked other held).Bound gid arc conn) :
    s.Bound gid arc conn := by
  rcases s.removeKicked_cases other held with ⟨_, same⟩ | ⟨_, removed⟩
  · rwa [same] at bound
  · rw [removed] at bound
    exact bound.of_restrict fun _ _ found => (lookup_of_erase found).2

theorem Bound.of_invalidate {other : Gid} {sessionId : SessionId}
    (bound : (s.invalidate other sessionId).2.Bound gid arc conn) : s.Bound gid arc conn := by
  rcases s.invalidate_cases other sessionId with same | ⟨_, _, _, _, _, removed⟩
  · rwa [same] at bound
  · rw [removed] at bound
    exact bound.of_restrict fun _ _ found => (lookup_of_erase found).2

theorem Bound.of_pruneExpired {now : Nat} {config : SessionConfig}
    (bound : (s.pruneExpired now config).Bound gid arc conn) : s.Bound gid arc conn :=
  bound.of_restrict fun _ _ found => (Table.lookup_retain.mp found).1

/-- After a login, an entry is as before or is the new one. -/
theorem Bound.of_installLogin {other : Gid} {isNew : Connection} {routes : Routes} {clientSeq : UInt32}
    (sound : Sound owner s) (bound : (s.installLogin other isNew routes clientSeq).2.Bound gid arc conn) :
    (gid = other ∧ arc = s.arcs.length ∧ conn = isNew) ∨ s.Bound gid arc conn := by
  obtain ⟨entry, session, found, isBound⟩ := bound
  have inserted : (s.players.insert other s.arcs.length).lookup gid = some arc := entry
  by_cases same : gid = other
  · subst same
    rw [AList.lookup_insert] at inserted
    obtain rfl := Option.some.inj inserted
    obtain rfl := Option.some.inj ((Pool.get_append_self ..).symm.trans found)
    exact .inl ⟨rfl, rfl, (Option.some.inj isBound).symm⟩
  · rw [AList.lookup_insert_ne same] at inserted
    have inside := (sound.entries gid arc inserted).1
    refine .inr ⟨inserted, session, ?_, isBound⟩
    rwa [show (s.installLogin other isNew routes clientSeq).2.arcs = s.arcs ++ [_] from rfl,
      List.getElem?_append_left inside] at found

/-- What a section of a `kick` does to the table: it binds nothing. -/
theorem advanceKick_unbinds {wire : Wire M B} {config : SessionConfig} {message : M} {now : Nat} {kick next : Kick}
    {closing : Option Connection} {t : ClientSessions B}
    (taken : s.advanceKick wire config message now kick = some (t, closing, next)) :
    (Sound owner s → Sound owner t) ∧ t.arcs.length = s.arcs.length
      ∧ ∀ gid arc conn, t.Bound gid arc conn → s.Bound gid arc conn := by
  cases kick with
  | lock other held sessionId =>
    simp only [advanceKick, Option.map_eq_some_iff] at taken
    obtain ⟨session, found, result⟩ := taken
    cases result
    rcases session.kick_unbinds wire sessionId message now config with ⟨_, same⟩ | ⟨_, _, unbound⟩
    · simp only [same]
      exact ⟨fun sound => sound.store_same found (.refl session), by simp [store],
        fun _ _ _ bound => bound.of_store_same found (.refl session)⟩
    · exact ⟨fun sound => sound.store_unbound held unbound.2, by simp [store],
        fun _ _ _ bound => (bound.of_store_unbound unbound.2).2⟩
  | remove other held sessionId conn =>
    cases taken
    refine ⟨fun sound => sound.removeKicked other held, ?_, fun _ _ _ bound => bound.of_removeKicked⟩
    rcases s.removeKicked_cases other held with ⟨_, same⟩ | ⟨_, removed⟩
    · rw [same]
    · rw [removed]
  | done => cases taken

end ClientSessions

end Xkk.Gate

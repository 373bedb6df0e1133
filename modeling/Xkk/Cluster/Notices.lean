import Mathlib.Data.List.Count
import Mathlib.Data.List.Perm.Basic
import Xkk.Cache.Online
import Xkk.Gate.Refusal
import Xkk.Gate.Stream
import Xkk.Public.Retention

/-! # Notices of new mails

When `send_mail` has put a mail into a mailbox, `notify_mail` looks up where the
player is and sends the mail to that Gate, which pushes it to the client.  Nothing is
locked along the way: the player may have logged in elsewhere since, the notice may
be lost or arrive late, and at the Gate the session may change between
`current_session` and `send`.

`Bindings` is the session table of a Gate, one section under a lock at a time, with
the owner of each session and the connections that its logins and reconnects have
brought.
-/

namespace Xkk.Gate

open Xkk.Lib

variable {M B : Type}

/-! ## The sessions of a Gate -/

/-- What a call can do to the connection of a session. -/
theorem Call.exec_rebinds (wire : Wire M B) (config : SessionConfig) (s : ClientSession B) (call : Call M) :
    s.Same (call.exec wire config s).2 ∨ s.Unbound (call.exec wire config s).2
    ∨ ∃ previous conn seq ack now, call = .completeReconnect previous conn seq ack now
      ∧ (call.exec wire config s).2.sessionId = conn.sessionId ∧ (call.exec wire config s).2.conn = some conn := by
  have pruned : ∀ now ttl, s.Same (s.pruneOutbox now ttl) := fun _ _ => ⟨rfl, rfl⟩
  have accepted : ∀ sessionId seq ack now, s.Same (s.acceptSequence sessionId seq ack now config.resumeTtl).2 := by
    intro sessionId seq ack now
    rcases s.acceptSequence_cases sessionId seq ack now config.resumeTtl with ⟨_, same⟩ | ⟨_, _, _, accepted⟩
    · rw [same]
      exact .refl s
    · rw [accepted]
      exact ⟨rfl, rfl⟩
  cases call with
  | send sessionId msgid message now =>
    apply Or.inl
    simp only [exec, ClientSession.send]
    split
    · exact .refl s
    · split
      · exact .refl s
      · have same := ClientSession.encode_same wire s msgid message now config
        split
        next encoded => rwa [encoded] at same
        next encoded => rwa [encoded] at same
  | acceptRequest sessionId seq ack now =>
    obtain ⟨times, rated⟩ := s.acceptRequest_snd sessionId seq ack now config
    have same := accepted sessionId seq ack now
    apply Or.inl
    simp only [exec, rated]
    exact ⟨same.1, same.2⟩
  | acceptSequence sessionId seq ack now => exact .inl (accepted sessionId seq ack now)
  | currentSession now => exact .inl (.refl s)
  | disconnect sessionId now =>
    rcases s.disconnect_unbinds sessionId now with ⟨_, same⟩ | ⟨_, _, _, unbound⟩
    · apply Or.inl
      simp only [exec, same]
      exact .refl s
    · exact .inr (.inl unbound)
  | kick sessionId message now =>
    rcases s.kick_unbinds wire sessionId message now config with ⟨_, same⟩ | ⟨_, _, unbound⟩
    · apply Or.inl
      simp only [exec, same]
      exact .refl s
    · exact .inr (.inl unbound)
  | authorizeReconnect previous clientSeq ack now =>
    apply Or.inl
    rcases s.authorizeReconnect_cases previous clientSeq ack now config with ⟨_, same⟩ | ⟨_, _, _, authorized⟩
    · simp only [exec, same]
      exact .refl s
    · simp only [exec, authorized]
      exact ⟨rfl, rfl⟩
  | completeReconnect previous conn clientSeq ack now =>
    rcases s.completeReconnect_binds previous conn clientSeq ack now config with
      ⟨_, same⟩ | ⟨_, sessionId, bound⟩
    · exact .inl same
    · exact .inr (.inr ⟨previous, conn, clientSeq, ack, now, rfl, sessionId, bound⟩)

/-- A message goes to the connection of a session under the id that was asked for. -/
theorem ClientSession.send_ok {wire : Wire M B} {s : ClientSession B} {sessionId : SessionId} {msgid : MsgId}
    {message : M} {now : Nat} {config : SessionConfig} {sent : Connection × B}
    (ok : (s.send wire sessionId msgid message now config).1 = .ok sent) :
    s.sessionId = sessionId ∧ s.conn = some sent.1 := by
  cases bound : s.conn with
  | none => simp [send, bound] at ok
  | some conn =>
    by_cases same : s.sessionId = sessionId
    · cases encoded : s.encode wire msgid message now config with
      | mk payload after =>
        cases payload with
        | none => simp [send, bound, same, encoded] at ok
        | some payload =>
          simp only [send, bound, same, encoded, ne_eq, not_true_eq_false, if_false] at ok
          obtain rfl := Except.ok.inj ok
          exact ⟨same, rfl⟩
    · simp [send, bound, same] at ok

/-- The sessions, the player for whom each was made, and the connections that were
    presented for a player by a login or a reconnect. -/
structure Bindings (B : Type) where
  sessions : ClientSessions B
  owner : Nat → Gid
  presented : List (Gid × Connection)

namespace Bindings

/-- One section; a call is made on a session that its caller has looked up before. -/
inductive Act (M : Type) where
  | installLogin (gid : Gid) (conn : Connection) (routes : Routes) (clientSeq : UInt32)
  | call (arc : Nat) (call : Call M)
  | removeKicked (gid : Gid) (arc : Nat)
  | invalidate (gid : Gid) (sessionId : SessionId)
  | pruneExpired (now : Nat)
  | drain

/-- The connection that a call presents. -/
def presents : Call M → Option Connection
  | .completeReconnect _ conn _ _ _ => some conn
  | _ => none

def act (wire : Wire M B) (config : SessionConfig) (s : Bindings B) : Act M → Option (Bindings B)
  | .installLogin gid conn routes clientSeq =>
    some {
      sessions := (s.sessions.installLogin gid conn routes clientSeq).2
      owner := Function.update s.owner s.sessions.arcs.length gid
      presented := s.presented ++ [(gid, conn)] }
  | .call arc call => s.sessions.arcs[arc]?.map fun session =>
    { s with
      sessions := s.sessions.store arc (call.exec wire config session).2
      presented := s.presented ++ (presents call).toList.map (s.owner arc, ·) }
  | .removeKicked gid arc => some { s with sessions := s.sessions.removeKicked gid arc }
  | .invalidate gid sessionId => some { s with sessions := (s.sessions.invalidate gid sessionId).2 }
  | .pruneExpired now => some { s with sessions := s.sessions.pruneExpired now config }
  | .drain => some { s with sessions := s.sessions.drain }

/-- A session is bound to a connection that was presented for its owner. -/
structure Owned (s : Bindings B) : Prop where
  sound : ClientSessions.Sound s.owner s.sessions
  bound : ∀ (arc : Nat) (session : ClientSession B) (conn : Connection), s.sessions.arcs[arc]? = some session →
    session.conn = some conn → (s.owner arc, conn) ∈ s.presented

variable {s t : Bindings B}

theorem Owned.restrict (owned : Owned s) {players : Table.Map Gid Nat}
    (kept : ∀ gid arc, players.lookup gid = some arc → s.sessions.get gid = some arc) :
    Owned { s with sessions := { s.sessions with players := players } } where
  sound := owned.sound.restrict kept
  bound := owned.bound

theorem Owned.call (owned : Owned s) (wire : Wire M B) (config : SessionConfig) {arc : Nat}
    {session : ClientSession B} (found : s.sessions.arcs[arc]? = some session) (call : Call M) :
    Owned { s with
      sessions := s.sessions.store arc (call.exec wire config session).2
      presented := s.presented ++ (presents call).toList.map (s.owner arc, ·) } := by
  have elsewhere : ∀ (after : ClientSession B) (presented : List (Gid × Connection)),
      (∀ conn, after.conn = some conn → (s.owner arc, conn) ∈ s.presented ++ presented) →
      ∀ (other : Nat) (held : ClientSession B) (conn : Connection),
        (s.sessions.store arc after).arcs[other]? = some held → held.conn = some conn →
        (s.owner other, conn) ∈ s.presented ++ presented := by
    intro after presented here other held conn behind isBound
    rcases Pool.get_set_cases behind with ⟨rfl, rfl⟩ | ⟨_, behind⟩
    · exact here conn isBound
    · exact List.mem_append_left _ (owned.bound other held conn behind isBound)
  rcases call.exec_rebinds wire config session with same | unbound | ⟨_, conn, _, _, _, rfl, sessionId, isConn⟩
  · refine ⟨owned.sound.store_same found same, elsewhere _ _ ?_⟩
    intro conn isBound
    exact List.mem_append_left _ (owned.bound arc session conn found (same.2 ▸ isBound))
  · refine ⟨owned.sound.store_unbound arc unbound.2, elsewhere _ _ ?_⟩
    intro conn isBound
    rw [unbound.2] at isBound
    cases isBound
  · refine ⟨owned.sound.store arc ?_, elsewhere _ _ ?_⟩
    · intro other isBound
      rw [isConn] at isBound
      obtain rfl := Option.some.inj isBound
      exact sessionId.symm
    · intro other isBound
      rw [isConn] at isBound
      obtain rfl := Option.some.inj isBound
      simp [presents]

theorem Owned.act (owned : Owned s) {wire : Wire M B} {config : SessionConfig} {act : Act M}
    (taken : s.act wire config act = some t) : Owned t := by
  cases act with
  | installLogin gid conn routes clientSeq =>
    obtain rfl := Option.some.inj taken
    refine ⟨owned.sound.installLogin gid conn routes clientSeq, ?_⟩
    intro arc session other found isBound
    rcases Pool.get_append_cases found with ⟨rfl, rfl⟩ | ⟨inside, found⟩
    · obtain rfl := Option.some.inj isBound
      simp
    · show (Function.update s.owner s.sessions.arcs.length gid arc, other) ∈ s.presented ++ [(gid, conn)]
      rw [Function.update_of_ne (Nat.ne_of_lt inside)]
      exact List.mem_append_left _ (owned.bound arc session other found isBound)
  | call arc call =>
    obtain ⟨session, found, rfl⟩ := Option.map_eq_some_iff.mp taken
    exact owned.call wire config found call
  | removeKicked gid arc =>
    obtain rfl := Option.some.inj taken
    rcases s.sessions.removeKicked_cases gid arc with ⟨_, same⟩ | ⟨_, removed⟩
    · rw [same]
      exact owned
    · rw [removed]
      exact owned.restrict fun _ _ found => (ClientSessions.lookup_of_erase found).2
  | invalidate gid sessionId =>
    obtain rfl := Option.some.inj taken
    rcases s.sessions.invalidate_cases gid sessionId with same | ⟨_, _, _, _, _, removed⟩
    · rw [same]
      exact owned
    · rw [removed]
      exact owned.restrict fun _ _ found => (ClientSessions.lookup_of_erase found).2
  | pruneExpired now =>
    obtain rfl := Option.some.inj taken
    exact owned.restrict fun _ _ found => (Table.lookup_retain.mp found).1
  | drain =>
    obtain rfl := Option.some.inj taken
    refine ⟨owned.sound.drain, ?_⟩
    intro arc session conn found isBound
    obtain ⟨old, before, same | ⟨_, unbound⟩⟩ := ClientSessions.drain_arcs found
    · exact owned.bound arc old conn before (same.2 ▸ isBound)
    · rw [unbound.2] at isBound
      cases isBound

/-- Sessions are not taken away from their owners. -/
structure Later (s t : Bindings B) : Prop where
  length : s.sessions.arcs.length ≤ t.sessions.arcs.length
  owner : ∀ arc < s.sessions.arcs.length, t.owner arc = s.owner arc
  presented : s.presented ⊆ t.presented

theorem Later.refl (s : Bindings B) : Later s s := ⟨le_refl _, fun _ _ => rfl, List.Subset.refl _⟩

theorem act_later {wire : Wire M B} {config : SessionConfig} {act : Act M}
    (taken : s.act wire config act = some t) : Later s t := by
  cases act with
  | installLogin gid conn routes clientSeq =>
    obtain rfl := Option.some.inj taken
    refine ⟨by simp [ClientSessions.installLogin], ?_, List.subset_append_left _ _⟩
    intro arc inside
    exact Function.update_of_ne (Nat.ne_of_lt inside) ..
  | call arc call =>
    obtain ⟨session, found, rfl⟩ := Option.map_eq_some_iff.mp taken
    exact ⟨by simp [ClientSessions.store], fun _ _ => rfl, List.subset_append_left _ _⟩
  | removeKicked gid arc =>
    obtain rfl := Option.some.inj taken
    rcases s.sessions.removeKicked_cases gid arc with ⟨_, same⟩ | ⟨_, removed⟩
    · exact ⟨by rw [same], fun _ _ => rfl, List.Subset.refl _⟩
    · exact ⟨by rw [removed], fun _ _ => rfl, List.Subset.refl _⟩
  | invalidate gid sessionId =>
    obtain rfl := Option.some.inj taken
    rcases s.sessions.invalidate_cases gid sessionId with same | ⟨_, _, _, _, _, removed⟩
    · exact ⟨by rw [same], fun _ _ => rfl, List.Subset.refl _⟩
    · exact ⟨by rw [removed], fun _ _ => rfl, List.Subset.refl _⟩
  | pruneExpired now =>
    obtain rfl := Option.some.inj taken
    exact ⟨le_refl _, fun _ _ => rfl, List.Subset.refl _⟩
  | drain =>
    obtain rfl := Option.some.inj taken
    exact ⟨by simp [ClientSessions.drain], fun _ _ => rfl, List.Subset.refl _⟩

end Bindings

end Xkk.Gate

namespace Xkk.Cluster

open Xkk.Lib Xkk.Protocol Xkk.Cache Xkk.Gate Xkk.Public

variable {M B : Type}

/-! ## From Public to the client -/

/-- A `MailPushNtf` on its way to a Gate. -/
structure MailPush where
  gateId : Int
  gid : Gid
  mail : Mail
deriving DecidableEq, Repr

/-- Where `push_mail` stands: it has looked up a session in `current_session`, has the
    id of it, or has looked one up in `send`. -/
inductive PushPhase where
  | looking (arc : Nat)
  | found (sessionId : SessionId)
  | sending (sessionId : SessionId) (arc : Nat)
deriving DecidableEq, Repr

def PushPhase.arc : PushPhase → Option Nat
  | .looking arc | .sending _ arc => some arc
  | .found _ => none

structure Pushing where
  gateId : Int
  gid : Gid
  mail : Mail
  phase : PushPhase
deriving DecidableEq, Repr

/-- A `MailInfoNtf` that was given to a connection. -/
structure Pushed where
  gateId : Int
  gid : Gid
  mail : Mail
  sessionId : SessionId
  conn : Connection
deriving DecidableEq, Repr

/-- `accepted` are the mails for which `send_mail` has answered OK, also one that a
    full mailbox has drained at once; `notifying` are those whose `notify_mail` waits
    for the online data. -/
structure Notices (B : Type) where
  mailboxes : Int → PublicPlayer
  used : List Int
  accepted : List (Gid × Mail)
  notifying : List (Gid × Mail)
  messages : List MailPush
  gates : Int → Bindings B
  pushing : List Pushing
  pushed : List Pushed

namespace Notices

inductive Label (M : Type) where
  | sendMail (gid : Gid) (message : Option Mail) (mailId now : Int)
  | change (gid : Gid) (player : PublicPlayer)       -- the mailbox has other requests
  | notify (i : Nat) (online : Except OnlineError (Option OnlineData))
  | lose (k : Nat)
  | act (gateId : Int) (act : Bindings.Act M)
  | arrive (k : Nat)
  | current (j : Nat)
  | fetch (j : Nat)
  | push (j : Nat) (now : Nat)

/-- The message of `notify_mail`. -/
def mailPush (gid : Gid) (mail : Mail) : Except OnlineError (Option OnlineData) → Option MailPush
  | .ok (some online) => if online.gateId ≤ 0 ∨ online.session ≤ 0 then none else some ⟨online.gateId, gid, mail⟩
  | _ => none

def setPhase (s : Notices B) (j : Nat) (p : Pushing) (phase : PushPhase) : Notices B :=
  { s with pushing := s.pushing.set j { p with phase := phase } }

def giveUp (s : Notices B) (j : Nat) : Notices B := { s with pushing := s.pushing.eraseIdx j }

/-- `notice` is the `MailInfoNtf` of a single mail. -/
def send (wire : Wire M B) (config : SessionConfig) (notice : Mail → M) (s : Notices B) (j : Nat) (p : Pushing)
    (sessionId : SessionId) (arc now : Nat) (session : ClientSession B) : Option (Notices B) :=
  ((s.gates p.gateId).act wire config (.call arc (.send sessionId .mailInfoNtf (notice p.mail) now))).map
    fun gate =>
      { s.giveUp j with
        gates := Function.update s.gates p.gateId gate
        pushed := s.pushed ++
          ((session.send wire sessionId .mailInfoNtf (notice p.mail) now config).1.toOption.map fun sent =>
            ⟨p.gateId, p.gid, p.mail, sessionId, sent.1⟩).toList }

def step (order : UnstableSort Mail Mail.mailId) (wire : Wire M B) (config : SessionConfig) (notice : Mail → M)
    (s : Notices B) : Label M → Option (Notices B)
  | .sendMail gid message mailId now =>
    let (outcome, player) := (s.mailboxes gid).sendMail order gid message mailId now
    let accepted := outcome.toOption.toList.map (gid, ·)
    some { s with
      mailboxes := Function.update s.mailboxes gid player
      used := s.used ++ [mailId]
      accepted := s.accepted ++ accepted
      notifying := s.notifying ++ accepted }
  | .change gid player => some { s with mailboxes := Function.update s.mailboxes gid player }
  | .notify i online => s.notifying[i]?.map fun (gid, mail) =>
    { s with
      notifying := s.notifying.eraseIdx i
      messages := s.messages ++ (mailPush gid mail online).toList }
  | .lose k => s.messages[k]?.map fun _ => { s with messages := s.messages.eraseIdx k }
  | .act gateId act => ((s.gates gateId).act wire config act).map fun gate =>
    { s with gates := Function.update s.gates gateId gate }
  | .arrive k => s.messages[k]?.map fun m =>
    { s with
      messages := s.messages.eraseIdx k
      pushing := s.pushing ++ ((s.gates m.gateId).sessions.get m.gid).toList.map fun arc =>
        ⟨m.gateId, m.gid, m.mail, .looking arc⟩ }
  | .current j => s.pushing[j]?.bind fun p =>
    match p.phase with
    | .looking arc => (s.gates p.gateId).sessions.arcs[arc]?.map fun session =>
      if session.active then s.setPhase j p (.found session.sessionId) else s.giveUp j
    | _ => none
  | .fetch j => s.pushing[j]?.bind fun p =>
    match p.phase with
    | .found sessionId =>
      match (s.gates p.gateId).sessions.get p.gid with
      | some arc => some (s.setPhase j p (.sending sessionId arc))
      | none => some (s.giveUp j)
    | _ => none
  | .push j now => s.pushing[j]?.bind fun p =>
    match p.phase with
    | .sending sessionId arc =>
      (s.gates p.gateId).sessions.arcs[arc]?.bind (s.send wire config notice j p sessionId arc now)
    | _ => none

/-- Nothing is under way and no client is connected. -/
def initial (mailboxes : Int → PublicPlayer) (used : List Int) : Notices B where
  mailboxes := mailboxes
  used := used
  accepted := []
  notifying := []
  messages := []
  gates _ := ⟨.new, fun _ => 0, []⟩
  pushing := []
  pushed := []

def system (order : UnstableSort Mail Mail.mailId) (wire : Wire M B) (config : SessionConfig)
    (notice : Mail → M) : System (Notices B) (Label M) :=
  .ofFun (fun s => ∃ mailboxes used, used.Nodup ∧ s = initial mailboxes used) (step order wire config notice)

/-- `new_mail_id` returns an id that has not been used. -/
def Fresh (s : Notices B) : Label M → Prop
  | .sendMail _ _ mailId _ => mailId ∉ s.used
  | _ => True

instance (s : Notices B) (l : Label M) : Decidable (Fresh s l) :=
  match l with
  | .sendMail _ _ mailId _ => inferInstanceAs (Decidable (mailId ∉ s.used))
  | .change .. | .notify .. | .lose _ | .act .. | .arrive _ | .current _ | .fetch _ | .push .. => .isTrue trivial

/-! ## One notice for a mail -/

section counting

variable {α : Type} {p : α → Bool} {l : List α} {i : Nat} {a b : α}

theorem countP_erase (p : α → Bool) (found : l[i]? = some a) :
    (l.eraseIdx i).countP p + (if p a then 1 else 0) = l.countP p := by
  obtain ⟨inside, rfl⟩ := List.getElem?_eq_some_iff.mp found
  rw [← (List.getElem_cons_eraseIdx_perm inside).countP_eq p, List.countP_cons]

theorem countP_set_same (found : l[i]? = some a) (same : p b = p a) : (l.set i b).countP p = l.countP p := by
  obtain ⟨inside, rfl⟩ := List.getElem?_eq_some_iff.mp found
  rw [(List.set_perm_cons_eraseIdx inside b).countP_eq p, List.countP_cons, same, countP_erase p found]

end counting

/-- How many notices there are under the id of a mail. -/
def tokens (s : Notices B) (mailId : Int) : Nat :=
  s.notifying.countP (·.2.mailId = mailId) + s.messages.countP (·.mail.mailId = mailId)
    + s.pushing.countP (·.mail.mailId = mailId) + s.pushed.countP (·.mail.mailId = mailId)

/-- Every notice is of a mail that was accepted for its player, and a push works on
    sessions of this player. -/
structure Sound (s : Notices B) : Prop where
  gates : ∀ gateId, (s.gates gateId).Owned
  notifying : ∀ notice ∈ s.notifying, notice ∈ s.accepted
  messages : ∀ m ∈ s.messages, (m.gid, m.mail) ∈ s.accepted
  pushing : ∀ p ∈ s.pushing, (p.gid, p.mail) ∈ s.accepted
  held : ∀ p ∈ s.pushing, ∀ arc ∈ p.phase.arc,
    arc < (s.gates p.gateId).sessions.arcs.length ∧ (s.gates p.gateId).owner arc = p.gid
  pushed : ∀ p ∈ s.pushed, (p.gid, p.mail) ∈ s.accepted
    ∧ (p.gid, p.conn) ∈ (s.gates p.gateId).presented ∧ p.conn.sessionId = p.sessionId
  distinct : s.used.Nodup
  once : ∀ mailId, s.tokens mailId ≤ s.used.count mailId

variable {s t : Notices B}

theorem sound_initial {mailboxes : Int → PublicPlayer} {used : List Int} (distinct : used.Nodup) :
    Sound (initial mailboxes used : Notices B) where
  gates := fun _ => ⟨ClientSessions.Sound.new, fun _ _ _ found => by cases found⟩
  notifying := by simp [initial]
  messages := by simp [initial]
  pushing := by simp [initial]
  held := by simp [initial]
  pushed := by simp [initial]
  distinct := distinct
  once := by simp [initial, tokens]

/-- The sections of a Gate go on under the pushes. -/
theorem Sound.setGate (sound : Sound s) {gateId : Int} {gate : Bindings B} (owned : gate.Owned)
    (later : (s.gates gateId).Later gate) : Sound { s with gates := Function.update s.gates gateId gate } := by
  have grows : ∀ other, (s.gates other).Later (Function.update s.gates gateId gate other) := by
    intro other
    by_cases same : other = gateId
    · subst same
      rw [Function.update_self]
      exact later
    · rw [Function.update_of_ne same]
      exact Bindings.Later.refl _
  exact { sound with
    gates := by
      intro other
      by_cases same : other = gateId
      · subst same
        show (Function.update s.gates other gate other).Owned
        rw [Function.update_self]
        exact owned
      · show (Function.update s.gates gateId gate other).Owned
        rw [Function.update_of_ne same]
        exact sound.gates other
    held := by
      intro p member arc isArc
      obtain ⟨inside, owner⟩ := sound.held p member arc isArc
      have later := grows p.gateId
      exact ⟨lt_of_lt_of_le inside later.length, (later.owner arc inside).trans owner⟩
    pushed := by
      intro p member
      obtain ⟨accepted, presented, marked⟩ := sound.pushed p member
      exact ⟨accepted, (grows p.gateId).presented presented, marked⟩ }

/-- `send_mail` gives the mail its id. -/
theorem sendMail_id (order : UnstableSort Mail Mail.mailId) {p after : PublicPlayer} {gid : Gid}
    {message : Option Mail} {mailId now : Int} {mail : Mail}
    (sent : p.sendMail order gid message mailId now = (.ok mail, after)) : mail.mailId = mailId := by
  cases message with
  | none => cases sent
  | some message =>
    rw [PublicPlayer.sendMail] at sent
    by_cases invalid : invalidMail gid message = true
    · simp [invalid] at sent
    · rw [if_neg invalid, PublicPlayer.update] at sent
      rcases postMail_cases order p.mails message mailId now with ⟨_, refused⟩ | ⟨_, _, _, posted⟩
      · rw [refused] at sent
        cases sent
      · rw [posted] at sent
        cases sent
        rfl

/-- At most one mail is accepted under a new id. -/
theorem Sound.accept (sound : Sound s) {mailId : Int} (fresh : mailId ∉ s.used) {mailboxes : Int → PublicPlayer}
    {accepted : List (Gid × Mail)} (one : accepted.length ≤ 1)
    (ids : ∀ notice ∈ accepted, notice.2.mailId = mailId) :
    Sound { s with
      mailboxes := mailboxes
      used := s.used ++ [mailId]
      accepted := s.accepted ++ accepted
      notifying := s.notifying ++ accepted } := by
  have kept : s.accepted ⊆ s.accepted ++ accepted := List.subset_append_left _ _
  exact { sound with
    notifying := by
      intro notice member
      rcases List.mem_append.mp member with old | new
      · exact kept (sound.notifying notice old)
      · exact List.mem_append_right _ new
    messages := fun m member => kept (sound.messages m member)
    pushing := fun p member => kept (sound.pushing p member)
    pushed := by
      intro p member
      obtain ⟨isAccepted, rest⟩ := sound.pushed p member
      exact ⟨kept isAccepted, rest⟩
    distinct := by
      refine List.nodup_append.mpr ⟨sound.distinct, List.nodup_singleton _, ?_⟩
      rintro a member b new rfl
      exact fresh (List.mem_singleton.mp new ▸ member)
    once := by
      intro id
      have once := sound.once id
      have added : accepted.countP (·.2.mailId = id) ≤ [mailId].count id := by
        by_cases same : id = mailId
        · subst same
          rw [List.count_singleton_self]
          exact le_trans List.countP_le_length one
        · have none : accepted.countP (·.2.mailId = id) = 0 := by
            rw [List.countP_eq_zero]
            intro notice member isId
            exact same ((of_decide_eq_true isId).symm.trans (ids notice member))
          omega
      simp only [tokens, List.countP_append, List.count_append] at once ⊢
      omega }

/-! ## Steps -/

section steps

variable {order : UnstableSort Mail Mail.mailId} {wire : Wire M B} {config : SessionConfig} {notice : Mail → M}

theorem Sound.sendMail (sound : Sound s) {gid : Gid} {message : Option Mail} {mailId now : Int}
    (fresh : mailId ∉ s.used)
    (taken : s.step order wire config notice (.sendMail gid message mailId now) = some t) : Sound t := by
  obtain rfl := Option.some.inj taken
  apply sound.accept fresh
  · cases ((s.mailboxes gid).sendMail order gid message mailId now).1 <;> simp [Except.toOption]
  · intro accepted member
    change accepted ∈
      ((s.mailboxes gid).sendMail order gid message mailId now).1.toOption.toList.map (gid, ·) at member
    cases sent : (s.mailboxes gid).sendMail order gid message mailId now with
    | mk outcome player =>
      rw [sent] at member
      cases outcome with
      | error status => simp [Except.toOption] at member
      | ok mail =>
        obtain rfl : accepted = (gid, mail) := by simpa [Except.toOption] using member
        exact sendMail_id order sent

/-- A push gives up. -/
theorem Sound.giveUp (sound : Sound s) (j : Nat) : Sound (s.giveUp j) :=
  { sound with
    pushing := fun p member => sound.pushing p (List.mem_of_mem_eraseIdx member)
    held := fun p member => sound.held p (List.mem_of_mem_eraseIdx member)
    once := by
      intro id
      have fewer := (s.pushing.eraseIdx_sublist j).countP_le (p := fun p : Pushing => p.mail.mailId = id)
      have once := sound.once id
      simp only [tokens, Notices.giveUp] at once fewer ⊢
      omega }

theorem Sound.setPhase (sound : Sound s) {j : Nat} {p : Pushing} (found : s.pushing[j]? = some p)
    {phase : PushPhase}
    (held : ∀ arc ∈ phase.arc,
      arc < (s.gates p.gateId).sessions.arcs.length ∧ (s.gates p.gateId).owner arc = p.gid) :
    Sound (s.setPhase j p phase) :=
  { sound with
    pushing := by
      intro other member
      rcases List.mem_or_eq_of_mem_set member with old | rfl
      · exact sound.pushing other old
      · exact sound.pushing p (List.mem_of_getElem? found)
    held := by
      intro other member
      rcases List.mem_or_eq_of_mem_set member with old | rfl
      · exact sound.held other old
      · exact held
    once := by
      intro id
      have same : (s.pushing.set j { p with phase := phase }).countP (·.mail.mailId = id)
          = s.pushing.countP (·.mail.mailId = id) := countP_set_same found rfl
      have once := sound.once id
      simp only [tokens, Notices.setPhase, same] at once ⊢
      exact once }

theorem Sound.notify (sound : Sound s) {i : Nat} {online : Except OnlineError (Option OnlineData)}
    (taken : s.step order wire config notice (.notify i online) = some t) : Sound t := by
  obtain ⟨⟨gid, mail⟩, found, rfl⟩ := Option.map_eq_some_iff.mp taken
  have accepted := sound.notifying _ (List.mem_of_getElem? found)
  have isPush : ∀ m ∈ mailPush gid mail online, m.gid = gid ∧ m.mail = mail := by
    intro m isPush
    cases online with
    | error _ => cases isPush
    | ok online =>
      cases online with
      | none => cases isPush
      | some online =>
        rw [mailPush] at isPush
        by_cases offline : online.gateId ≤ 0 ∨ online.session ≤ 0
        · rw [if_pos offline] at isPush
          cases isPush
        · rw [if_neg offline] at isPush
          obtain rfl := Option.some.inj isPush
          exact ⟨rfl, rfl⟩
  exact { sound with
    notifying := fun other member => sound.notifying other (List.mem_of_mem_eraseIdx member)
    messages := by
      intro m member
      rcases List.mem_append.mp member with old | new
      · exact sound.messages m old
      · obtain ⟨isGid, isMail⟩ := isPush m (Option.mem_toList.mp new)
        rw [isGid, isMail]
        exact accepted
    once := by
      intro id
      have once := sound.once id
      have removed := countP_erase (fun notice : Gid × Mail => decide (notice.2.mailId = id)) found
      have sent : (mailPush gid mail online).toList.countP (·.mail.mailId = id)
          ≤ if mail.mailId = id then 1 else 0 := by
        cases push : mailPush gid mail online with
        | none => simp
        | some m => simp [(isPush m push).2]
      simp only [tokens, List.countP_append, decide_eq_true_eq] at once removed ⊢
      omega }

theorem Sound.arrive (sound : Sound s) {k : Nat}
    (taken : s.step order wire config notice (.arrive k) = some t) : Sound t := by
  obtain ⟨m, found, rfl⟩ := Option.map_eq_some_iff.mp taken
  have accepted := sound.messages m (List.mem_of_getElem? found)
  have isPush : ∀ p ∈ ((s.gates m.gateId).sessions.get m.gid).toList.map fun arc =>
      (⟨m.gateId, m.gid, m.mail, .looking arc⟩ : Pushing),
      ∃ arc, (s.gates m.gateId).sessions.get m.gid = some arc ∧ p = ⟨m.gateId, m.gid, m.mail, .looking arc⟩ := by
    intro p member
    obtain ⟨arc, isArc, rfl⟩ := List.mem_map.mp member
    exact ⟨arc, Option.mem_toList.mp isArc, rfl⟩
  exact { sound with
    messages := fun other member => sound.messages other (List.mem_of_mem_eraseIdx member)
    pushing := by
      intro p member
      rcases List.mem_append.mp member with old | new
      · exact sound.pushing p old
      · obtain ⟨arc, _, rfl⟩ := isPush p new
        exact accepted
    held := by
      intro p member arc isArc
      rcases List.mem_append.mp member with old | new
      · exact sound.held p old arc isArc
      · obtain ⟨arc', entry, rfl⟩ := isPush p new
        obtain rfl := Option.some.inj isArc
        exact (sound.gates m.gateId).sound.entries m.gid arc' entry
    once := by
      intro id
      have once := sound.once id
      have removed := countP_erase (fun m : MailPush => decide (m.mail.mailId = id)) found
      have pushed : (((s.gates m.gateId).sessions.get m.gid).toList.map fun arc =>
          (⟨m.gateId, m.gid, m.mail, .looking arc⟩ : Pushing)).countP (·.mail.mailId = id)
          ≤ if m.mail.mailId = id then 1 else 0 := by
        cases (s.gates m.gateId).sessions.get m.gid with
        | none => simp
        | some arc => simp
      simp only [tokens, List.countP_append, decide_eq_true_eq] at once removed ⊢
      omega }

theorem Sound.push (sound : Sound s) {j : Nat} {p : Pushing} (found : s.pushing[j]? = some p)
    {sessionId : SessionId} {arc now : Nat} (sending : p.phase = .sending sessionId arc)
    {session : ClientSession B} (behind : (s.gates p.gateId).sessions.arcs[arc]? = some session)
    (taken : s.send wire config notice j p sessionId arc now session = some t) : Sound t := by
  obtain ⟨gate, acted, rfl⟩ := Option.map_eq_some_iff.mp taken
  have accepted := sound.pushing p (List.mem_of_getElem? found)
  obtain ⟨inside, owner⟩ := sound.held p (List.mem_of_getElem? found) arc (by rw [sending]; rfl)
  have owned := (sound.gates p.gateId).act acted
  have later := Bindings.act_later acted
  have left : Sound { s.giveUp j with gates := Function.update s.gates p.gateId gate } :=
    (sound.giveUp j).setGate owned later
  cases sent : (session.send wire sessionId .mailInfoNtf (notice p.mail) now config).1 with
  | error error =>
    show Sound { s.giveUp j with
      gates := Function.update s.gates p.gateId gate
      pushed := s.pushed ++ [] }
    rw [List.append_nil]
    exact left
  | ok given =>
    obtain ⟨isId, isConn⟩ := ClientSession.send_ok sent
    have bound := (sound.gates p.gateId).bound arc session given.1 behind isConn
    have marked := (sound.gates p.gateId).sound.marks arc session given.1 behind isConn
    exact { left with
      pushed := by
        intro other member
        rcases List.mem_append.mp member with old | new
        · exact left.pushed other old
        · obtain rfl := List.mem_singleton.mp new
          refine ⟨accepted, ?_, marked.trans isId⟩
          show (p.gid, given.1) ∈ (Function.update s.gates p.gateId gate p.gateId).presented
          rw [Function.update_self]
          exact later.presented (owner ▸ bound)
      once := by
        intro id
        have once := sound.once id
        have removed := countP_erase (fun p : Pushing => decide (p.mail.mailId = id)) found
        have pushed : [Pushed.mk p.gateId p.gid p.mail sessionId given.1].countP (·.mail.mailId = id)
            = if p.mail.mailId = id then 1 else 0 := by simp [List.countP_singleton]
        show s.notifying.countP (·.2.mailId = id) + s.messages.countP (·.mail.mailId = id)
            + (s.pushing.eraseIdx j).countP (·.mail.mailId = id)
            + (s.pushed ++ [Pushed.mk p.gateId p.gid p.mail sessionId given.1]).countP (·.mail.mailId = id)
          ≤ s.used.count id
        simp only [tokens, decide_eq_true_eq] at once removed
        rw [List.countP_append, pushed]
        omega }

theorem Sound.step (sound : Sound s) {l : Label M} (fresh : Fresh s l)
    (taken : s.step order wire config notice l = some t) : Sound t := by
  cases l with
  | sendMail gid message mailId now => exact sound.sendMail fresh taken
  | change gid player =>
    obtain rfl := Option.some.inj taken
    exact { sound with }
  | notify i online => exact sound.notify taken
  | lose k =>
    obtain ⟨m, found, rfl⟩ := Option.map_eq_some_iff.mp taken
    exact { sound with
      messages := fun other member => sound.messages other (List.mem_of_mem_eraseIdx member)
      once := by
        intro id
        have once := sound.once id
        have removed := countP_erase (fun m : MailPush => decide (m.mail.mailId = id)) found
        simp only [tokens] at once ⊢
        omega }
  | act gateId act =>
    obtain ⟨gate, acted, rfl⟩ := Option.map_eq_some_iff.mp taken
    exact sound.setGate ((sound.gates gateId).act acted) (Bindings.act_later acted)
  | arrive k => exact sound.arrive taken
  | current j =>
    obtain ⟨p, found, taken⟩ := Option.bind_eq_some_iff.mp taken
    split at taken
    next arc looking =>
      obtain ⟨session, _, rfl⟩ := Option.map_eq_some_iff.mp taken
      split
      · exact sound.setPhase found (by simp [PushPhase.arc])
      · exact sound.giveUp j
    next => cases taken
  | fetch j =>
    obtain ⟨p, found, taken⟩ := Option.bind_eq_some_iff.mp taken
    split at taken
    next sessionId isFound =>
      split at taken
      next arc entry =>
        obtain rfl := Option.some.inj taken
        apply sound.setPhase found
        intro other isArc
        obtain rfl := Option.some.inj isArc
        exact (sound.gates p.gateId).sound.entries p.gid arc entry
      next =>
        obtain rfl := Option.some.inj taken
        exact sound.giveUp j
    next => cases taken
  | push j now =>
    obtain ⟨p, found, taken⟩ := Option.bind_eq_some_iff.mp taken
    split at taken
    next sessionId arc sending =>
      obtain ⟨session, behind, taken⟩ := Option.bind_eq_some_iff.mp taken
      exact sound.push found sending behind taken
    next => cases taken

theorem sound_of_reach (reached : (system order wire config notice).Reach Fresh s) : Sound s := by
  refine reached.inv ?_ (fun s l t sound fresh taken => sound.step fresh taken)
  rintro _ ⟨mailboxes, used, distinct, rfl⟩
  exact sound_initial distinct

/-- A notice is of a mail that `send_mail` has accepted for a player, goes to a
    connection that a login or a reconnect has presented for this player, and there is
    no second one. -/
theorem notices_reach_owner (reached : (system order wire config notice).Reach Fresh s) :
    (∀ p ∈ s.pushed, (p.gid, p.mail) ∈ s.accepted ∧ (p.gid, p.conn) ∈ (s.gates p.gateId).presented
      ∧ p.conn.sessionId = p.sessionId)
    ∧ (s.pushed.map (·.mail.mailId)).Nodup := by
  have sound := sound_of_reach reached
  refine ⟨sound.pushed, ?_⟩
  rw [List.nodup_iff_count_le_one]
  intro mailId
  have counted : (s.pushed.map (·.mail.mailId)).count mailId = s.pushed.countP (·.mail.mailId = mailId) := by
    rw [List.count, List.countP_map]
    apply List.countP_congr
    intro p _
    simp
  have once := sound.once mailId
  have used := List.nodup_iff_count_le_one.mp sound.distinct mailId
  rw [tokens] at once
  omega

end steps

/-- A player logs in again while a first notice is at the Gate; only the second notice
    is pushed, to the new connection. -/
def loginAgain : List (Label Unit) :=
  let online : OnlineData := ⟨"ann", 5, "token", 7, 1, 0, 1, 1, 1⟩
  let mail : Mail := ⟨0, "hello", "", 0, 0, 0, []⟩
  [.act 1 (.installLogin 5 ⟨7⟩ ⟨1, 2⟩ 0), .sendMail 5 (some mail) 21 100, .sendMail 5 (some mail) 22 101,
    .notify 0 (.ok (some online)), .notify 0 (.ok (some online)), .arrive 0, .current 0,
    .act 1 (.installLogin 5 ⟨8⟩ ⟨1, 2⟩ 0), .fetch 0, .push 0 200, .arrive 0, .current 0, .fetch 0, .push 0 200]

theorem loginAgain_pushed : ∃ s : Notices CsHead, s.pushed.map (·.mail.mailId) = [22]
    ∧ ∀ p ∈ s.pushed, (p.gid, p.conn) ∈ (s.gates p.gateId).presented := by
  have run : ∃ s, System.follow Fresh (step (.merge Mail Mail.mailId) Stream.headWire .HARD_LIMITS fun _ => ())
        (initial (fun _ => ⟨[], false⟩) []) loginAgain = some s
      ∧ s.pushed.map (·.mail.mailId) = [22] ∧ s.pushed.map (·.conn) = [⟨8⟩] := by
    decide +kernel
  obtain ⟨s, followed, mails, _⟩ := run
  have reached : (system (.merge Mail Mail.mailId) Stream.headWire .HARD_LIMITS fun _ => ()).Reach Fresh s :=
    System.reach_of_follow ⟨_, [], List.nodup_nil, rfl⟩ followed
  exact ⟨s, mails, fun p member => ((notices_reach_owner reached).1 p member).2.1⟩

end Notices

end Xkk.Cluster

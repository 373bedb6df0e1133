import Xkk.Gate.Forward

/-! # The packets of one connection

`on_packet` puts the packets of a connection into the mailbox of its worker, which
has room for `CLIENT_MAILBOX_CAPACITY` of them; the worker takes them out one by
one and runs `handle_packet`.  A packet that finds no room closes the connection,
and so does one that `handle_packet` does not want.

A `Line` is one connection.  What the network calls, the other handlers of the
Gate and its shutdown do to the connection may come at any moment.
-/

namespace Xkk.Gate

open Xkk.Lib

def CLIENT_MAILBOX_CAPACITY : Nat := 64

/-! ## `handle_packet` -/

/-- The parts of the wire library that read a packet. -/
structure ClientWire (F : Type) where
  decode : F → Option CsHead        -- `CsPacket::decode`
  decodes : MsgId → F → Bool        -- whether the body is a message of this id

namespace MsgId

def all : List MsgId :=
  [playerInfoReq, playerInfoRsp, useItemReq, useItemRsp, mailListReq, mailListRsp, mailReadReq, mailReadRsp,
    mailDeleteReq, mailDeleteRsp, mailClaimReq, mailClaimRsp, mailInfoNtf, addItemsReq, addItemsRsp,
    removeItemsReq, removeItemsRsp, checkItemsReq, checkItemsRsp, sendMailReq, sendMailRsp, mailPushNtf,
    authLoginReq, authLoginRsp, authUseRoleReq, authUseRoleRsp, gamerInfoReq, gamerInfoRsp, ackNtf, pingReq,
    pingRsp, loginReq, loginRsp, reconnectReq, reconnectRsp, logoutReq, logoutRsp, kickNtf, logicLoginReq,
    logicLoginRsp, logicDisconnectNtf, kickSessionReq, kickSessionRsp]

def fromU16 (value : UInt16) : Option MsgId := all.find? (·.asU16 = value)

theorem fromU16_asU16 (msgid : MsgId) : fromU16 msgid.asU16 = some msgid := by
  cases msgid <;> rfl

end MsgId

inductive RouteTarget where
  | toGate | toLogic | toPublic
deriving DecidableEq, Repr

def routeTarget : MsgId → Option RouteTarget
  | .pingReq | .loginReq | .reconnectReq | .logoutReq => some .toGate
  | .playerInfoReq | .useItemReq => some .toLogic
  | .mailListReq | .mailReadReq | .mailDeleteReq | .mailClaimReq => some .toPublic
  | _ => none

def ForwardKind.requestMsgid : ForwardKind → MsgId
  | .playerInfo => .playerInfoReq
  | .useItem => .useItemReq
  | .mailList => .mailListReq
  | .mailRead => .mailReadReq
  | .mailDelete => .mailDeleteReq
  | .mailClaim => .mailClaimReq

/-- The handler that `handle_packet` calls. -/
inductive Handling where
  | rejected                      -- none: the connection is closed
  | ack | ping | login | reconnect | logout
  | forward (target : RouteTarget) (kind : ForwardKind)
deriving DecidableEq, Repr

def handlePacket {F : Type} (wire : ClientWire F) (frame : F) : Handling :=
  match (wire.decode frame).bind fun head => MsgId.fromU16 head.msgid with
  | none => .rejected
  | some msgid =>
    -- each handler decodes the body first
    let decoded (handling : Handling) : Handling := if wire.decodes msgid frame then handling else .rejected
    match msgid with
    | .ackNtf => decoded .ack
    | .pingReq => decoded .ping
    | .loginReq => decoded .login
    | .reconnectReq => decoded .reconnect
    | .logoutReq => decoded .logout
    | .playerInfoReq => decoded (.forward .toLogic .playerInfo)
    | .useItemReq => decoded (.forward .toLogic .useItem)
    | .mailListReq => decoded (.forward .toPublic .mailList)
    | .mailReadReq => decoded (.forward .toPublic .mailRead)
    | .mailDeleteReq => decoded (.forward .toPublic .mailDelete)
    | .mailClaimReq => decoded (.forward .toPublic .mailClaim)
    | _ => .rejected

namespace Handling

/-- The handler binds the connection to a player. -/
def enters : Handling → Bool
  | .login | .reconnect => true
  | _ => false

/-- The handler is for a player. -/
def needsUser : Handling → Bool
  | .ack | .logout | .forward .. => true
  | _ => false

/-- The connection is closed before the handler has done anything. -/
def refuses (userId : Option Gid) (handling : Handling) : Bool :=
  handling = .rejected || (handling.needsUser && userId.isNone) || (handling.enters && userId.isSome)

end Handling

/-- What `debug_assert` says of the routes in `forward`. -/
theorem handlePacket_route {F : Type} {wire : ClientWire F} {frame : F} {target : RouteTarget}
    {kind : ForwardKind} (forwards : handlePacket wire frame = .forward target kind) :
    routeTarget kind.requestMsgid = some target := by
  unfold handlePacket at forwards
  split at forwards
  next => cases forwards
  next msgid _ =>
    cases msgid <;> simp only [reduceCtorEq] at forwards <;> split at forwards <;> cases forwards <;> rfl

/-! ## Lines -/

/-- Where the task of the worker stands. -/
inductive Reading (F : Type) where
  | receiving
  | checking (frame : F)          -- it has the frame, and looks whether the connection is closed
  | handling (frame : F)
  | ended
deriving DecidableEq, Repr

def Reading.hasEnded {F : Type} : Reading F → Bool
  | .ended => true
  | _ => false

structure Line (F : Type) where
  draining : Bool
  registered : Bool          -- the worker is in the map
  held : Bool                -- `shutdown` has taken it out
  isClosed : Bool
  aborted : Bool
  userId : Option Gid
  offers : List F            -- each `on_packet` that has the sender and has not sent yet
  mailbox : List F
  reading : Reading F
  arrived : List F           -- what `on_packet` is done with, oldest first
  served : List F            -- what a handler has gone to work on, oldest first
deriving DecidableEq, Repr

namespace Line

variable {F : Type}

inductive Label (F : Type) where
  | onPacket (frame : F)
  | trySend (i : Nat)
  | receive
  | look
  | bind (gid : Gid)
  | finish (close : Bool)
  | close
  | onDisconnected
  | cancel                   -- an aborted task ends at an await
  | hangUp                   -- no sender is left
  | shutdown
  | takeWorker
  | closeWorker
  | dropSender
deriving DecidableEq, Repr

/-- After `on_connected`, of a Gate that is draining or not. -/
def connected (draining : Bool) : Line F where
  draining := draining
  registered := !draining
  held := false
  isClosed := draining
  aborted := false
  userId := none
  offers := []
  mailbox := []
  reading := if draining then .ended else .receiving
  arrived := []
  served := []

def refuse (s : Line F) (frame : F) : Line F := { s with isClosed := true, arrived := s.arrived ++ [frame] }

/-- The mailbox is dropped with the task. -/
def stop (s : Line F) : Line F := { s with mailbox := [], reading := .ended }

/-- `try_send` fails when there is no room, and when the task has ended. -/
def offer (s : Line F) (frame : F) : Line F :=
  if s.mailbox.length = CLIENT_MAILBOX_CAPACITY ∨ s.reading.hasEnded then s.refuse frame
  else { s with mailbox := s.mailbox ++ [frame], arrived := s.arrived ++ [frame] }

def handle (wire : ClientWire F) (s : Line F) (frame : F) : Line F :=
  if (handlePacket wire frame).refuses s.userId then { s with isClosed := true, reading := .receiving }
  else { s with reading := .handling frame, served := s.served ++ [frame] }

def step (wire : ClientWire F) (s : Line F) : Label F → Option (Line F)
  | .onPacket frame =>
    if s.draining then some (s.refuse frame)
    else if s.registered then some { s with offers := s.offers ++ [frame] }
    else some (s.refuse frame)
  | .trySend i => s.offers[i]?.map fun frame => { s with offers := s.offers.eraseIdx i }.offer frame
  | .receive => match s.reading, s.mailbox with
    | .receiving, frame :: rest =>
      if s.aborted then none else some { s with mailbox := rest, reading := .checking frame }
    | _, _ => none
  | .look => match s.reading with
    | .checking frame => some (if s.isClosed then s.stop else s.handle wire frame)
    | _ => none
  | .bind gid => match s.reading with
    | .handling frame =>
      if (handlePacket wire frame).enters ∧ s.userId = none then some { s with userId := some gid } else none
    | _ => none
  | .finish close => match s.reading with
    | .handling _ => some { s with reading := .receiving, isClosed := s.isClosed || close }
    | _ => none
  | .close => some { s with isClosed := true }
  | .onDisconnected =>
    some { s with isClosed := true, registered := false, aborted := s.aborted || s.registered }
  | .cancel => match s.reading with
    | .receiving | .handling _ => if s.aborted then some s.stop else none
    | _ => none
  | .hangUp => match s.reading, s.mailbox with
    | .receiving, [] => if s.registered ∨ s.held ∨ s.offers ≠ [] then none else some s.stop
    | _, _ => none
  | .shutdown => some { s with draining := true }
  | .takeWorker => if s.draining ∧ s.registered then some { s with registered := false, held := true } else none
  | .closeWorker => if s.held then some { s with isClosed := true } else none
  -- every connection was closed before the first sender is dropped
  | .dropSender => if s.held ∧ s.isClosed then some { s with held := false } else none

def system (wire : ClientWire F) : System (Line F) (Label F) :=
  .ofFun (fun s => ∃ draining, s = connected draining) (step wire)

/-! ## Order -/

/-- The packet that the worker has taken and not gone to work on. -/
def hand : Reading F → List F
  | .checking frame => [frame]
  | _ => []

/-- A handler may work on the packet after those that came before. -/
def Follows (wire : ClientWire F) (before : List F) (frame : F) : Prop :=
  handlePacket wire frame ≠ .rejected
    ∧ ((handlePacket wire frame).needsUser = true → ∃ entry ∈ before, (handlePacket wire entry).enters = true)

structure Orderly (wire : ClientWire F) (s : Line F) : Prop where
  room : s.mailbox.length ≤ CLIENT_MAILBOX_CAPACITY
  first : s.served <+: s.arrived
  waiting : s.isClosed = false → s.arrived = s.served ++ (hand s.reading ++ s.mailbox)
  alive : s.isClosed = false → s.aborted = false ∧ s.reading ≠ .ended ∧ (s.registered = true ∨ s.held = true)
  user : s.userId.isSome = true → ∃ entry ∈ s.served, (handlePacket wire entry).enters = true
  serving : ∀ frame, s.reading = .handling frame → frame ∈ s.served
  follows : ∀ before frame after, s.served = before ++ frame :: after → Follows wire before frame

variable {wire : ClientWire F} {s t : Line F}

theorem Orderly.connected (wire : ClientWire F) (draining : Bool) : Orderly wire (connected draining) where
  room := Nat.zero_le _
  first := List.prefix_rfl
  waiting := by cases draining <;> simp [Line.connected, hand]
  alive := by cases draining <;> simp [Line.connected]
  user := by simp [Line.connected]
  serving := by cases draining <;> simp [Line.connected]
  follows := by simp [Line.connected]

/-- The connection is closed; nothing goes on but what is in a handler. -/
theorem Orderly.closed (orderly : Orderly wire s) (isClosed : t.isClosed = true)
    (room : t.mailbox.length ≤ CLIENT_MAILBOX_CAPACITY) (first : s.arrived <+: t.arrived)
    (served : t.served = s.served) (userId : t.userId = s.userId)
    (serving : ∀ frame, t.reading = .handling frame → s.reading = .handling frame) :
    Orderly wire t where
  room := room
  first := served ▸ orderly.first.trans first
  waiting := by simp [isClosed]
  alive := by simp [isClosed]
  user := by
    rw [userId, served]
    exact orderly.user
  serving := by
    intro frame handling
    rw [served]
    exact orderly.serving frame (serving frame handling)
  follows := by
    rw [served]
    exact orderly.follows

theorem Orderly.refuse (orderly : Orderly wire s) (frame : F) : Orderly wire (s.refuse frame) :=
  orderly.closed rfl orderly.room (List.prefix_append _ _) rfl rfl fun _ => id

theorem Orderly.offer (orderly : Orderly wire s) (frame : F) (offers : List F) :
    Orderly wire ({ s with offers := offers }.offer frame) := by
  unfold Line.offer
  split
  case isTrue => exact orderly.closed rfl orderly.room (List.prefix_append _ _) rfl rfl fun _ => id
  case isFalse hasRoom =>
    have room := orderly.room
    rw [not_or] at hasRoom
    exact { orderly with
      room := by
        have free : s.mailbox.length ≠ CLIENT_MAILBOX_CAPACITY := hasRoom.1
        simp only [List.length_append, List.length_singleton]
        omega
      first := orderly.first.trans (List.prefix_append _ _)
      waiting := by
        intro isOpen
        have waiting := orderly.waiting isOpen
        simp only [waiting, List.append_assoc]
      alive := orderly.alive
      user := orderly.user
      serving := orderly.serving
      follows := orderly.follows }

/-- The worker goes to work on the packet that is next in the order of arrival. -/
theorem Orderly.handle (orderly : Orderly wire s) {frame : F} (checking : s.reading = .checking frame)
    (isOpen : s.isClosed = false) : Orderly wire (s.handle wire frame) := by
  have waiting := orderly.waiting isOpen
  unfold Line.handle
  split
  case isTrue refused =>
    exact orderly.closed rfl orderly.room List.prefix_rfl rfl rfl (by simp)
  case isFalse accepted =>
    have follows : Follows wire s.served frame := by
      simp only [Handling.refuses, Bool.or_eq_true, decide_eq_true_eq, Bool.and_eq_true, not_or,
        not_and] at accepted
      refine ⟨accepted.1.1, ?_⟩
      intro needsUser
      have named := accepted.1.2 needsUser
      exact orderly.user (by simpa [Option.isNone_iff_eq_none, Option.isSome_iff_ne_none] using named)
    exact {
      room := orderly.room
      first := by
        rw [waiting, checking]
        exact ⟨s.mailbox, by simp [hand]⟩
      waiting := by
        intro _
        rw [waiting, checking]
        simp [hand]
      alive := by
        intro _
        obtain ⟨aborted, _, registered⟩ := orderly.alive isOpen
        exact ⟨aborted, by simp, registered⟩
      user := by
        intro named
        obtain ⟨entry, isEntry, enters⟩ := orderly.user named
        exact ⟨entry, List.mem_append_left _ isEntry, enters⟩
      serving := by
        intro other handling
        cases handling
        exact List.mem_append_right _ List.mem_cons_self
      follows := by
        intro before other after split
        rcases List.append_eq_append_iff.mp split with ⟨middle, isBefore, rest⟩ | ⟨middle, isServed, rest⟩
        · -- the packet is the new one, or there would be one after it
          cases middle with
          | nil =>
            obtain ⟨rfl, rfl⟩ : other = frame ∧ after = [] := by simpa using rest.symm
            rw [isBefore, List.append_nil]
            exact follows
          | cons head tail => simp at rest
        · cases middle with
          | nil =>
            obtain ⟨rfl, rfl⟩ : other = frame ∧ after = [] := by simpa using rest
            rw [List.append_nil] at isServed
            exact isServed ▸ follows
          | cons head tail =>
            obtain ⟨rfl, rfl⟩ : other = head ∧ after = tail ++ [frame] := by simpa using rest
            exact orderly.follows before other tail isServed }

theorem Orderly.step (orderly : Orderly wire s) {l : Label F} (taken : s.step wire l = some t) :
    Orderly wire t := by
  cases l with
  | onPacket frame =>
    simp only [Line.step] at taken
    split at taken
    next =>
      obtain rfl := Option.some.inj taken
      exact orderly.refuse frame
    next =>
      split at taken <;> obtain rfl := Option.some.inj taken
      next => exact { orderly with }
      next => exact orderly.refuse frame
  | trySend i =>
    obtain ⟨frame, _, rfl⟩ := Option.map_eq_some_iff.mp taken
    exact orderly.offer frame _
  | receive =>
    simp only [Line.step] at taken
    split at taken
    next frame rest receiving mailbox =>
      rw [Option.ite_none_left_eq_some] at taken
      obtain ⟨_, taken⟩ := taken
      obtain rfl := Option.some.inj taken
      have room := orderly.room
      rw [mailbox, List.length_cons] at room
      exact { orderly with
        room := Nat.le_of_succ_le room
        waiting := by
          intro isOpen
          have waiting := orderly.waiting isOpen
          rw [mailbox, receiving] at waiting
          exact waiting
        alive := by
          intro isOpen
          obtain ⟨aborted, _, registered⟩ := orderly.alive isOpen
          exact ⟨aborted, by simp, registered⟩
        serving := by simp }
    next => cases taken
  | look =>
    simp only [Line.step] at taken
    split at taken
    next frame checking =>
      obtain rfl := Option.some.inj taken
      cases isClosed : s.isClosed with
      | true => exact orderly.closed isClosed (Nat.zero_le _) List.prefix_rfl rfl rfl (by simp [stop])
      | false => exact orderly.handle checking isClosed
    next => cases taken
  | bind gid =>
    simp only [Line.step] at taken
    split at taken
    next frame handling =>
      rw [Option.ite_none_right_eq_some] at taken
      obtain ⟨⟨enters, _⟩, taken⟩ := taken
      obtain rfl := Option.some.inj taken
      exact { orderly with user := fun _ => ⟨frame, orderly.serving frame handling, enters⟩ }
    next => cases taken
  | finish close =>
    simp only [Line.step] at taken
    split at taken
    next frame handling =>
      obtain rfl := Option.some.inj taken
      exact { orderly with
        waiting := by
          intro isOpen
          obtain ⟨isOpen, _⟩ := Bool.or_eq_false_iff.mp isOpen
          have waiting := orderly.waiting isOpen
          rw [handling] at waiting
          exact waiting
        alive := by
          intro isOpen
          obtain ⟨isOpen, _⟩ := Bool.or_eq_false_iff.mp isOpen
          obtain ⟨aborted, _, registered⟩ := orderly.alive isOpen
          exact ⟨aborted, by simp, registered⟩
        serving := by simp }
    next => cases taken
  | close =>
    obtain rfl := Option.some.inj taken
    exact orderly.closed rfl orderly.room List.prefix_rfl rfl rfl fun _ => id
  | onDisconnected =>
    obtain rfl := Option.some.inj taken
    exact orderly.closed rfl orderly.room List.prefix_rfl rfl rfl fun _ => id
  | cancel =>
    simp only [Line.step] at taken
    split at taken
    case h_3 => cases taken
    all_goals
      rw [Option.ite_none_right_eq_some] at taken
      obtain ⟨aborted, taken⟩ := taken
      obtain rfl := Option.some.inj taken
      have isClosed : s.isClosed = true := by
        by_contra isOpen
        have alive := orderly.alive (Bool.eq_false_of_not_eq_true isOpen)
        rw [alive.1] at aborted
        cases aborted
      exact orderly.closed isClosed (Nat.zero_le _) List.prefix_rfl rfl rfl (by simp [stop])
  | hangUp =>
    simp only [Line.step] at taken
    split at taken
    next =>
      rw [Option.ite_none_left_eq_some, not_or, not_or] at taken
      obtain ⟨⟨unregistered, unheld, _⟩, taken⟩ := taken
      obtain rfl := Option.some.inj taken
      have isClosed : s.isClosed = true := by
        by_contra isOpen
        rcases (orderly.alive (Bool.eq_false_of_not_eq_true isOpen)).2.2 with registered | held
        · exact unregistered registered
        · exact unheld held
      exact orderly.closed isClosed (Nat.zero_le _) List.prefix_rfl rfl rfl (by simp [stop])
    next => cases taken
  | shutdown =>
    obtain rfl := Option.some.inj taken
    exact { orderly with }
  | takeWorker =>
    simp only [Line.step, Option.ite_none_right_eq_some] at taken
    obtain ⟨_, taken⟩ := taken
    obtain rfl := Option.some.inj taken
    exact { orderly with
      alive := by
        intro isOpen
        obtain ⟨aborted, alive, _⟩ := orderly.alive isOpen
        exact ⟨aborted, alive, .inr rfl⟩ }
  | closeWorker =>
    simp only [Line.step, Option.ite_none_right_eq_some] at taken
    obtain ⟨_, taken⟩ := taken
    obtain rfl := Option.some.inj taken
    exact orderly.closed rfl orderly.room List.prefix_rfl rfl rfl fun _ => id
  | dropSender =>
    simp only [Line.step, Option.ite_none_right_eq_some] at taken
    obtain ⟨⟨_, isClosed⟩, taken⟩ := taken
    obtain rfl := Option.some.inj taken
    exact orderly.closed isClosed orderly.room List.prefix_rfl rfl rfl fun _ => id

/-- On a closed connection no handler goes to work. -/
theorem closed_step {l : Label F} (isClosed : s.isClosed = true) (taken : s.step wire l = some t) :
    t.isClosed = true ∧ t.served = s.served := by
  cases l with
  | onPacket frame =>
    simp only [Line.step] at taken
    split at taken
    next =>
      obtain rfl := Option.some.inj taken
      exact ⟨rfl, rfl⟩
    next => split at taken <;> obtain rfl := Option.some.inj taken <;> simp [refuse, isClosed]
  | trySend i =>
    obtain ⟨frame, _, rfl⟩ := Option.map_eq_some_iff.mp taken
    unfold Line.offer
    split <;> simp [refuse, isClosed]
  | receive =>
    simp only [Line.step] at taken
    split at taken
    next =>
      rw [Option.ite_none_left_eq_some] at taken
      obtain rfl := Option.some.inj taken.2
      exact ⟨isClosed, rfl⟩
    next => cases taken
  | look =>
    simp only [Line.step, isClosed, if_true] at taken
    split at taken
    next =>
      obtain rfl := Option.some.inj taken
      exact ⟨isClosed, rfl⟩
    next => cases taken
  | bind gid =>
    simp only [Line.step] at taken
    split at taken
    next =>
      rw [Option.ite_none_right_eq_some] at taken
      obtain rfl := Option.some.inj taken.2
      exact ⟨isClosed, rfl⟩
    next => cases taken
  | finish close =>
    simp only [Line.step] at taken
    split at taken
    next =>
      obtain rfl := Option.some.inj taken
      exact ⟨by simp [isClosed], rfl⟩
    next => cases taken
  | cancel =>
    simp only [Line.step] at taken
    split at taken
    case h_3 => cases taken
    all_goals
      rw [Option.ite_none_right_eq_some] at taken
      obtain rfl := Option.some.inj taken.2
      exact ⟨isClosed, rfl⟩
  | hangUp =>
    simp only [Line.step] at taken
    split at taken
    next =>
      rw [Option.ite_none_left_eq_some] at taken
      obtain rfl := Option.some.inj taken.2
      exact ⟨isClosed, rfl⟩
    next => cases taken
  | close | onDisconnected | shutdown =>
    obtain rfl := Option.some.inj taken
    exact ⟨by simp [isClosed], rfl⟩
  | takeWorker | closeWorker | dropSender =>
    simp only [Line.step, Option.ite_none_right_eq_some] at taken
    obtain rfl := Option.some.inj taken.2
    exact ⟨by simp [isClosed], rfl⟩

/-- A wire whose packets are heads. -/
def heads : ClientWire CsHead := ⟨some, fun _ _ => true⟩

end Line

end Xkk.Gate

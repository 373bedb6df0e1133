import Xkk.Logic.Vault

/-! # The Logic Runtime

`enqueue`, the runner `run_gid` of a player, and `shutdown`.  A section under the
lock of a directory shard is one step when nothing else can see its middle;
`enqueue` and the end of `retire_or_take_next` update atomic counters while they
hold the lock, so they are cut there, and `locks` says who holds which shard.
The atomics of `Admission` are those of `AdmissionPool`; the `enqueue` call `i`
acquires as its holder `i`.
-/

namespace Xkk.Logic

open Xkk.Lib

inductive RuntimeState where
  | running
  | draining
  | stopped
deriving DecidableEq, Repr

inductive ShutdownError (E : Type) where
  | persistence (error : E)
  | dirtyPlayers (count : Nat)

def mixI64 (value : Int64) : UInt64 :=
  let value := value.toUInt64
  let value := (value ^^^ (value >>> 30)) * 0xbf58476d1ce4e5b9
  let value := (value ^^^ (value >>> 27)) * 0x94d049bb133111eb
  value ^^^ (value >>> 31)

/-- The shard of a player. -/
@[irreducible] def LogicConfig.directory (config : LogicConfig) (gid : Gid) : UInt64 :=
  mixI64 gid &&& (config.shards - 1)

/-- A slot of the directory with its mailbox; `gid` is the player it was made for. -/
structure KeySlot (P A R : Type) where
  gid : Gid
  queue : List (Envelope P A R)
  inflightCalls : UInt64
  inflightKib : UInt64

def KeySlot.release {P A R : Type} (slot : KeySlot P A R) (retainedKib : UInt64) : KeySlot P A R :=
  { slot with
    inflightCalls := slot.inflightCalls - 1
    inflightKib := slot.inflightKib - retainedKib }

inductive EnqueuePhase where
  | calling
  -- the directory lock is held
  | acquiring (slot : Nat) (spawnRunner : Bool)
  | counting (slot : Nat)
  -- the lock is free again
  | spawning (slot : Nat)
  | accepted
  | rejected (reason : RejectReason)
deriving DecidableEq, Repr

structure Enqueue (P A R : Type) where
  gid : Gid
  retainedKib : UInt64
  command : Command P A R
  phase : EnqueuePhase

inductive RunnerPhase (P A R E : Type) [LogicState P] where
  | taking
  | serving (envelope : Envelope P A R) (stage : Stage P A R E)
  | completing (envelope : Envelope P A R)
  -- `finish_envelope` drops the permit and notifies
  | dropping (id : Nat) (next : Option (Envelope P A R))
  | droppingKib (id : Nat) (next : Option (Envelope P A R))
  | notifying (next : Option (Envelope P A R))
  -- `retire_or_take_next`
  | retiring
  | inserting (c : Nat)
  | checking
  | leaving
  | done

structure Runner (P A R E : Type) [LogicState P] where
  gid : Gid
  slot : Nat
  player : Option Nat
  phase : RunnerPhase P A R E

inductive LockHolder where
  | enqueue (i : Nat)
  | runner (i : Nat)
deriving DecidableEq, Repr

/-- `notified` is the number of wakeups when the `Notified` future was created. -/
inductive ShutdownPhase (E : Type) where
  | start
  | closing
  | exchanging
  | inflight (notified : Option Nat)
  | active (notified : Option Nat)
  | subscribing
  | waiting (notified : Nat)
  | flush
  | flushing (savers : List Nat)
  | dirtyPlayers
  | dirtySlots (players : Nat)
  | storing
  | returned (result : Except (ShutdownError E) Unit)

/-- `flushed` is what `cache.flush` returned. -/
structure Shutdown (E : Type) where
  phase : ShutdownPhase E
  flushed : Option (Except E Unit)

structure Runtime (P A R E : Type) [LogicState P] where
  pool : AdmissionPool.State
  directory : Gid → Option Nat
  locks : UInt64 → Option LockHolder
  slots : List (KeySlot P A R)
  enqueues : List (Enqueue P A R)
  runners : List (Runner P A R E)
  queued : Nat
  activeGids : Nat
  vault : Vault P R E
  state : RuntimeState
  wakeups : Nat                                -- `notify_waiters` calls
  shutdowns : List (Shutdown E)
  faults : List Fault
  -- what has happened so far, by player
  accepted : Gid → List Nat
  started : Gid → List Nat
  outcomes : Gid → List (Nat × Outcome R E)

namespace Runtime

variable {P A R E : Type} [LogicState P]

def initial (config : ValidConfig) : Runtime P A R E where
  pool := AdmissionPool.initial config
  directory := fun _ => none
  locks := fun _ => none
  slots := []
  enqueues := []
  runners := []
  queued := 0
  activeGids := 0
  vault := .initial
  state := .running
  wakeups := 0
  shutdowns := []
  faults := []
  accepted := fun _ => []
  started := fun _ => []
  outcomes := fun _ => []

def fault (s : Runtime P A R E) (fault : Fault) : Runtime P A R E :=
  { s with faults := s.faults ++ [fault] }

/-! ## `enqueue` -/

def setEnqueue (s : Runtime P A R E) (i : Nat) (e : Enqueue P A R) (phase : EnqueuePhase) :
    Runtime P A R E :=
  { s with enqueues := s.enqueues.set i { e with phase := phase } }

/-- `try_use` and `try_use_preloaded` -/
def tryUse (s : Runtime P A R E) (gid : Gid) (retainedKib : UInt64) (command : Command P A R) :
    Option (Runtime P A R E) :=
  (AdmissionPool.step s.pool (.acquire (max retainedKib 1))).map fun pool =>
    { s with pool := pool, enqueues := s.enqueues ++ [⟨gid, max retainedKib 1, command, .calling⟩] }

/-- The bounds of one mailbox leave no room. -/
def full (config : LogicConfig) (slot : KeySlot P A R) (retainedKib : UInt64) : Bool :=
  slot.inflightCalls ≥ config.maxCallsPerGid || retainedKib > config.maxKibPerGid - slot.inflightKib

/-- Take the directory lock, find or insert the slot and test its bounds. -/
def lock (config : LogicConfig) (s : Runtime P A R E) (i : Nat) (e : Enqueue P A R) :
    Option (Runtime P A R E) :=
  if e.phase = .calling ∧ s.locks (config.directory e.gid) = none then
    match s.directory e.gid with
    | some m =>
      s.slots[m]?.map fun slot =>
        if full config slot e.retainedKib then s.setEnqueue i e (.rejected .gid)
        else
          { s.setEnqueue i e (.acquiring m false) with
            locks := Function.update s.locks (config.directory e.gid) (some (.enqueue i)) }
    | none =>
      -- a slot that is rejected is removed again before the lock is released
      if full config (⟨e.gid, [], 0, 0⟩ : KeySlot P A R) e.retainedKib then
        some (s.setEnqueue i e (.rejected .gid))
      else
        some { s.setEnqueue i e (.acquiring s.slots.length true) with
          locks := Function.update s.locks (config.directory e.gid) (some (.enqueue i))
          slots := s.slots ++ [⟨e.gid, [], 0, 0⟩]
          directory := Function.update s.directory e.gid (some s.slots.length) }
  else none

/-- One atomic operation of `Admission::acquire`. -/
def acquire (s : Runtime P A R E) (i : Nat) (e : Enqueue P A R) (spurious : Bool) :
    Option (Runtime P A R E) :=
  match e.phase with
  | .acquiring _ _ =>
    (AdmissionPool.step s.pool (.tick i spurious)).map fun pool => { s with pool := pool }
  | _ => none

def unlock (config : LogicConfig) (s : Runtime P A R E) (gid : Gid) : Runtime P A R E :=
  { s with locks := Function.update s.locks (config.directory gid) none }

/-- The mailbox accepts the command. -/
def push (s : Runtime P A R E) (i : Nat) (e : Enqueue P A R) (m : Nat) (slot : KeySlot P A R) :
    Runtime P A R E :=
  { s with
    slots := s.slots.set m
      { slot with
        inflightCalls := slot.inflightCalls + 1
        inflightKib := slot.inflightKib + e.retainedKib
        queue := slot.queue ++ [⟨i, e.command, e.retainedKib⟩] }
    queued := s.queued + 1
    accepted := Function.update s.accepted e.gid (s.accepted e.gid ++ [i]) }

/-- What `enqueue` does with the result of `acquire`. -/
def acquired (config : LogicConfig) (s : Runtime P A R E) (i : Nat) (e : Enqueue P A R) :
    Option (Runtime P A R E) :=
  match e.phase with
  | .acquiring m spawnRunner =>
    match (s.pool.holders[i]?).map AdmissionPool.Holder.phase with
    | some (.acquiring .permit) =>
      s.slots[m]?.map fun slot =>
        if spawnRunner then (s.push i e m slot).setEnqueue i e (.counting m)
        else ((s.push i e m slot).setEnqueue i e .accepted).unlock config e.gid
    | some (.acquiring (.rejected reason)) =>
      let removed : Runtime P A R E :=
        if spawnRunner then { s with directory := Function.update s.directory e.gid none } else s
      some ((removed.setEnqueue i e (.rejected reason)).unlock config e.gid)
    | _ => none
  | _ => none

def count (config : LogicConfig) (s : Runtime P A R E) (i : Nat) (e : Enqueue P A R) :
    Option (Runtime P A R E) :=
  match e.phase with
  | .counting m =>
    some ({ s.setEnqueue i e (.spawning m) with activeGids := s.activeGids + 1 }.unlock config e.gid)
  | _ => none

def spawn (s : Runtime P A R E) (i : Nat) (e : Enqueue P A R) : Option (Runtime P A R E) :=
  match e.phase with
  | .spawning m =>
    some { s.setEnqueue i e .accepted with runners := s.runners ++ [⟨e.gid, m, none, .taking⟩] }
  | _ => none

/-! ## `run_gid` -/

def setRunner (s : Runtime P A R E) (i : Nat) (r : Runner P A R E) (phase : RunnerPhase P A R E) :
    Runtime P A R E :=
  { s with runners := s.runners.set i { r with phase := phase } }

def dequeue (s : Runtime P A R E) (gid : Gid) (m : Nat) (slot : KeySlot P A R)
    (envelope : Envelope P A R) (rest : List (Envelope P A R)) : Runtime P A R E :=
  { s with
    slots := s.slots.set m { slot with queue := rest }
    queued := s.queued - 1
    started := Function.update s.started gid (s.started gid ++ [envelope.id]) }

/-- `pop_front` of the mailbox, and the count of the queued commands. -/
def pop (s : Runtime P A R E) (gid : Gid) (m : Nat) (slot : KeySlot P A R) :
    Option (Runtime P A R E × Envelope P A R) :=
  match slot.queue with
  | [] => none
  | envelope :: rest => some (s.dequeue gid m slot envelope rest, envelope)

/-- `take_next` -/
def takeNext (s : Runtime P A R E) (i : Nat) (r : Runner P A R E) : Option (Runtime P A R E) :=
  if s.directory r.gid = some r.slot then
    s.slots[r.slot]?.map fun slot =>
      match s.pop r.gid r.slot slot with
      | some (popped, envelope) => popped.setRunner i r (.serving envelope .loading)
      | none => s.fault .emptyMailbox
  else some (s.fault .lostDirectorySlot)

def serve (config : LogicConfig) (s : Runtime P A R E) (i : Nat) (r : Runner P A R E)
    (envelope : Envelope P A R) (stage : Stage P A R E) (choice : Choice P A E) :
    Option (Runtime P A R E) :=
  (s.vault.serve config.maxDirtyPlayers.toNat i r.gid envelope r.player stage choice).map
    fun (vault, player, next) =>
      { s.setRunner i { r with player := player } (.serving envelope next) with vault := vault }

/-- The caller receives the outcome. -/
def finish (s : Runtime P A R E) (i : Nat) (r : Runner P A R E) (envelope : Envelope P A R)
    (outcome : Outcome R E) : Runtime P A R E :=
  { s.setRunner i r (.completing envelope) with
    outcomes := Function.update s.outcomes r.gid (s.outcomes r.gid ++ [(envelope.id, outcome)]) }

/-- `complete_and_take_next` -/
def completeAndTakeNext (s : Runtime P A R E) (i : Nat) (r : Runner P A R E)
    (envelope : Envelope P A R) : Option (Runtime P A R E) :=
  if s.directory r.gid = some r.slot then
    s.slots[r.slot]?.map fun slot =>
      match s.pop r.gid r.slot (slot.release envelope.retainedKib) with
      | some (popped, next) => popped.setRunner i r (.dropping envelope.id (some next))
      | none =>
        { s with slots := s.slots.set r.slot (slot.release envelope.retainedKib) }.setRunner i r
          (.dropping envelope.id none)
  else some (s.fault .lostDirectorySlot)

/-- The loop of `run_gid` goes on with `next`, or the runner retires. -/
def goOn (s : Runtime P A R E) (i : Nat) (r : Runner P A R E) (next : Option (Envelope P A R)) :
    Runtime P A R E :=
  match next with
  | some envelope => s.setRunner i r (.serving envelope .loading)
  | none => s.setRunner i r .retiring

/-- `cache.peek` in `retire_or_take_next`. -/
def peek (s : Runtime P A R E) (i : Nat) (r : Runner P A R E) : Runtime P A R E :=
  match r.player with
  | none => s.setRunner i r .checking
  | some c =>
    match s.vault.cache r.gid with
    | some resident =>
      if resident = c then s.setRunner i r .checking else s.fault .differentGeneration
    | none => s.setRunner i r (.inserting c)

/-- The second look at the mailbox in `retire_or_take_next`.  When the slot is
    removed the lock is held until the waiters were notified. -/
def retireOrTakeNext (config : LogicConfig) (s : Runtime P A R E) (i : Nat) (r : Runner P A R E) :
    Option (Runtime P A R E) :=
  match s.directory r.gid with
  | none => some (s.fault .slotDisappeared)
  | some m =>
    if m = r.slot then
      s.slots[r.slot]?.map fun slot =>
        match s.pop r.gid r.slot slot with
        | some (popped, envelope) => popped.setRunner i r (.serving envelope .loading)
        | none =>
          if slot.inflightCalls = 0 ∧ slot.inflightKib = 0 then
            { s.setRunner i r .leaving with
              directory := Function.update s.directory r.gid none
              locks := Function.update s.locks (config.directory r.gid) (some (.runner i))
              activeGids := s.activeGids - 1 }
          else s.fault .inflightAtRetirement
    else some (s.fault .lostDirectorySlot)

/-- The next step of a runner; `ok` is the result of `set_i64`. -/
def run (config : LogicConfig) (s : Runtime P A R E) (i : Nat) (r : Runner P A R E)
    (choice : Choice P A E) (ok : Bool) : Option (Runtime P A R E) :=
  let free := s.locks (config.directory r.gid) = none
  match r.phase with
  | .taking => if free then s.takeNext i r else none
  | .serving envelope (.finishing outcome) => some (s.finish i r envelope outcome)
  | .serving envelope stage => s.serve config i r envelope stage choice
  | .completing envelope => if free then s.completeAndTakeNext i r envelope else none
  | .dropping id next =>
    (AdmissionPool.step s.pool (.drop id)).map fun pool =>
      { s.setRunner i r (.droppingKib id next) with pool := pool }
  | .droppingKib id next =>
    (AdmissionPool.step s.pool (.tick id false)).map fun pool =>
      { s.setRunner i r (.notifying next) with pool := pool }
  | .notifying next => some { s.goOn i r next with wakeups := s.wakeups + 1 }
  | .retiring => some (s.peek i r)
  | .inserting c =>
    some { s.setRunner i r .checking with vault := s.vault.setResident r.gid c ok }
  | .checking => if free then s.retireOrTakeNext config i r else none
  | .leaving => some ({ s.setRunner i r .done with wakeups := s.wakeups + 1 }.unlock config r.gid)
  | .done => none

/-! ## `shutdown` -/

def setShutdown (s : Runtime P A R E) (j : Nat) (d : Shutdown E) (phase : ShutdownPhase E) :
    Runtime P A R E :=
  { s with shutdowns := s.shutdowns.set j { d with phase := phase } }

/-- The drain condition was not met. -/
def undrained (s : Runtime P A R E) (j : Nat) (d : Shutdown E) : Option Nat → Runtime P A R E
  | none => s.setShutdown j d .subscribing
  | some notified => s.setShutdown j d (.waiting notified)

/-- `cache.flush` calls the savers for every dirty resident player. -/
def flush (s : Runtime P A R E) (j : Nat) (d : Shutdown E) (batches : List (List Nat)) :
    Option (Runtime P A R E) :=
  let dirty := (List.range s.vault.cells.length).filter fun c =>
    s.vault.cells[c]?.any fun cell => cell.dirty && s.vault.cache cell.gid = some c
  if dirty ⊆ batches.flatten then
    (batches.foldlM (fun (vault : Vault P R E) batch => vault.startSaver batch false) s.vault).map
      fun vault =>
        { s.setShutdown j d (.flushing (List.range' s.vault.savers.length batches.length)) with
          vault := vault }
  else none

/-- The first failure of the savers that `flush` has called, or `Ok` when all are done. -/
def flushResult (vault : Vault P R E) : List Nat → Option (Except E Unit)
  | [] => some (.ok ())
  | k :: rest =>
    vault.savers[k]?.bind fun saver =>
      match saver.phase with
      | .done (.ok _) => flushResult vault rest
      | .done (.error error) => some (.error error)
      | _ => none

def shut (s : Runtime P A R E) (j : Nat) (d : Shutdown E) (batches : List (List Nat)) :
    Option (Runtime P A R E) :=
  match d.phase with
  | .start =>
    some (if s.state = .stopped then s.setShutdown j d (.returned (.ok ()))
      else s.setShutdown j d .closing)
  | .closing =>
    (AdmissionPool.step s.pool .close).map fun pool =>
      { s.setShutdown j d .exchanging with pool := pool }
  | .exchanging =>
    some { s.setShutdown j d (.inflight none) with
      state := if s.state = .running then .draining else s.state }
  | .inflight notified =>
    some (if s.pool.admission.inflightCalls = 0 then s.setShutdown j d (.active notified)
      else s.undrained j d notified)
  | .active notified =>
    some (if s.activeGids = 0 then s.setShutdown j d .flush else s.undrained j d notified)
  | .subscribing => some (s.setShutdown j d (.inflight (some s.wakeups)))
  | .waiting notified =>
    if notified < s.wakeups then some (s.setShutdown j d (.inflight none)) else none
  | .flush => s.flush j d batches
  | .flushing savers =>
    (flushResult s.vault savers).map fun result =>
      match result with
      | .ok _ => s.setShutdown j { d with flushed := some result } .dirtyPlayers
      | .error error =>
        s.setShutdown j { d with flushed := some result } (.returned (.error (.persistence error)))
  | .dirtyPlayers => some (s.setShutdown j d (.dirtySlots s.vault.dirtyPlayers))
  | .dirtySlots players =>
    let dirty := max players s.vault.dirtySlots
    some (if dirty ≠ 0 then s.setShutdown j d (.returned (.error (.dirtyPlayers dirty)))
      else s.setShutdown j d .storing)
  | .storing => some { s.setShutdown j d (.returned (.ok ())) with state := .stopped }
  | .returned _ => none

/-! ## Runs -/

inductive Label (P A R E : Type) [LogicState P] where
  | tryUse (gid : Gid) (retainedKib : UInt64) (command : Command P A R)
  | lock (i : Nat)
  | acquire (i : Nat) (spurious : Bool)
  | acquired (i : Nat)
  | count (i : Nat)
  | spawn (i : Nat)
  | run (i : Nat) (choice : Choice P A E) (ok : Bool)
  | startSaver (entries : List Nat) (evicts : Bool)
  | save (k : Nat) (choice : Choice P A E)
  | evict (gid : Gid)
  | evicted (k : Nat) (gid : Gid)
  | shutdown
  | shut (j : Nat) (batches : List (List Nat))

def step (config : LogicConfig) (s : Runtime P A R E) : Label P A R E → Option (Runtime P A R E)
  | .tryUse gid retainedKib command => s.tryUse gid retainedKib command
  | .lock i => s.enqueues[i]?.bind (s.lock config i)
  | .acquire i spurious => s.enqueues[i]?.bind (s.acquire i · spurious)
  | .acquired i => s.enqueues[i]?.bind (s.acquired config i)
  | .count i => s.enqueues[i]?.bind (s.count config i)
  | .spawn i => s.enqueues[i]?.bind (s.spawn i)
  | .run i choice ok => s.runners[i]?.bind (s.run config i · choice ok)
  | .startSaver entries evicts =>
    (s.vault.startSaver entries evicts).map fun vault => { s with vault := vault }
  | .save k choice =>
    s.vault.savers[k]?.bind fun saver =>
      (s.vault.save k saver saver.phase choice).map fun vault => { s with vault := vault }
  | .evict gid => (s.vault.evict gid).map fun vault => { s with vault := vault }
  | .evicted k gid => (s.vault.evicted k gid).map fun vault => { s with vault := vault }
  | .shutdown => some { s with shutdowns := s.shutdowns ++ [⟨.start, none⟩] }
  | .shut j batches => s.shutdowns[j]?.bind (s.shut j · batches)

def system (P A R E : Type) [LogicState P] (config : ValidConfig) :
    System (Runtime P A R E) (Label P A R E) :=
  .ofFun (· = initial config) (step config.toLogicConfig)

/-! ## A small player

For schedules that are written out. -/

structure Purse where
  coins : Nat
  unsaved : Bool
deriving DecidableEq, Repr

instance : LogicState Purse where
  isDirty := Purse.unsaved

def Purse.empty : Clean Purse := ⟨⟨0, false⟩, rfl⟩

def Purse.earn : Command Purse Unit Unit := .use fun purse => ((), ⟨purse.coins + 1, true⟩)

abbrev PurseRuntime := Runtime Purse Unit Unit Unit

abbrev PurseLabel := Label Purse Unit Unit Unit

/-- The `enqueue` call `i` runs to its end; `spawns` says that it inserts the slot. -/
def enqueueAll (i : Nat) (spawns : Bool) : List PurseLabel :=
  [.lock i, .acquire i false, .acquire i false, .acquire i false, .acquire i false, .acquire i false,
    .acquired i] ++ if spawns then [.count i, .spawn i] else []

/-- The runner `i` makes `n` steps that need no answer from outside. -/
def proceed (i n : Nat) : List PurseLabel := List.replicate n (.run i .go true)

end Runtime

end Xkk.Logic

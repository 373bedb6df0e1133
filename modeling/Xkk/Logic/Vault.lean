import Mathlib.Data.Finset.Card
import Mathlib.Data.Finset.Insert
import Mathlib.Data.List.Sort
import Xkk.Logic.Admission

/-! # Player cells, dirty slots and savers

What the runners of the Logic Runtime share: the `PlayerCell`s with their save
gates, `DirtyAdmission`, the dirty registry of the statistics, the cache and the
savers that the cache calls.

One command of a player passes through the stages of `Stage`; `Vault.serve` is
one step of it.  Between two stages other runners and savers can move.  What
comes from outside (the cache, the loader, a preload, a saver) is a `Choice`.

A failed assertion is recorded as a `Fault`; the task stays where it is.
-/

namespace Xkk.Logic

open Xkk.Lib

abbrev Gid := Int64

class LogicState (P : Type) where
  isDirty : P → Bool

/-- What a loader returns: `PlayerCell::new` asserts that it is clean. -/
structure Clean (P : Type) [LogicState P] where
  state : P
  clean : LogicState.isDirty state = false

inductive LogicCallError (E : Type) where
  | load (error : E)
  | preload (error : E)
  | persistence (error : E)
  | dirtyCapacity
  | runtimeStopped

/-- The callbacks are always configured, so these are the two that occur. -/
inductive CacheError (E : Type) where
  | load (error : E)
  | save (error : E)

def mapCacheError {E : Type} : CacheError E → LogicCallError E
  | .load error => .load error
  | .save error => .persistence error

/-- What the caller of a command receives. -/
inductive Outcome (R E : Type) where
  | completed (value : R) (persistence : Except E Unit)
  | failed (error : LogicCallError E)

/-- `TypedCommand` and `TypedPreloadedCommand`. -/
inductive Command (P A R : Type) where
  | use (logic : P → R × P)
  | usePreloaded (logic : P → A → R × P)

/-- `id` is the number of the `enqueue` call, and of its permit in the admission
    pool. -/
structure Envelope (P A R : Type) where
  id : Nat
  command : Command P A R
  retainedKib : UInt64

inductive Fault where
  -- assertions on the directory and the mailbox
  | lostDirectorySlot
  | emptyMailbox
  | slotDisappeared
  | inflightAtRetirement
  -- assertions on the dirty slots
  | noReservation
  | secondSlot
  | dirtyWithoutSlot
  | slotUnderflow
  -- the assertion on the resident player
  | differentGeneration
deriving DecidableEq, Repr

inductive GateHolder where
  | runner (i : Nat)
  | saver (k : Nat)
deriving DecidableEq, Repr

/-- The index of a cell stands for its `id`. -/
structure PlayerCell (P : Type) where
  gid : Gid
  state : P
  saveGate : Option GateHolder
  dirtySlot : Bool

def PlayerCell.dirty {P : Type} [LogicState P] (cell : PlayerCell P) : Bool :=
  LogicState.isDirty cell.state

/-! ## Stages of a command -/

/-- What `refresh_dirty` returns to: `finish_logic` or `save_one`. -/
inductive After (R E : Type) where
  | logic (permit : Bool) (value : R)
  | save (value : R) (result : Except E Unit)

inductive Onward (R E : Type) where
  | save (value : R)
  | release (outcome : Outcome R E)

/-- `permit` says whether the runner holds an active `DirtyPermit`. -/
inductive Stage (P A R E : Type) [LogicState P] where
  | loading
  | fetched (state : Clean P)                -- the loader has read the store
  | gating
  | gated                                    -- `save_gate` is held from here on
  | reserved (permit : Bool)
  | preloading (permit : Bool) (logic : P → A → R × P) (seen : P)
  | ready (permit : Bool) (logic : P → R × P)
  | executed (permit : Bool) (value : R)
  | refreshing (after : After R E)
  | marking (dirty : Bool) (after : After R E)
  | dropping (permit : Bool) (onward : Onward R E)
  | saving (value : R)
  | releasing (outcome : Outcome R E)
  | finishing (outcome : Outcome R E)        -- `save_gate` is free again

inductive Choice (P A E : Type) [LogicState P] where
  | go
  | cacheError (error : CacheError E)
  | fetched (state : Clean P)
  | preloaded (value : A)
  | preloadFailed (error : E)
  /-- The saver leaves `state` behind; `wrote` says that the store has the player. -/
  | saved (state : P) (wrote : Bool) (result : Except E Unit)
  | returned (result : Except E Unit)        -- the batch saver is through its players

/-! ## Savers -/

inductive SaverPhase (E : Type) where
  | locking (next : Nat)                     -- the gates before `next` are held
  | saving (todo dirty : List Nat)
  | refreshing (todo : List Nat) (result : Except E Unit)
  | marking (cell : Nat) (dirty : Bool) (todo : List Nat) (result : Except E Unit)
  | done (result : Except E Unit)

/-- The batch saver; with one entry it is the cache fallback saver.  `evicts`
    says that the cache called it to evict its entry. -/
structure Saver (E : Type) where
  entries : List Nat
  evicts : Bool
  phase : SaverPhase E

/-- A command that was executed, and the state it ran on. -/
structure Execution (P R : Type) where
  id : Nat
  logic : P → R × P
  on : P

structure Vault (P R E : Type) where
  cells : List (PlayerCell P)
  dirtySlots : Nat
  dirtySince : Finset Nat
  dirtyPlayers : Nat
  cache : Gid → Option Nat          -- what `get_i64` and `peek` see
  savers : List (Saver E)
  faults : List Fault
  -- what has happened so far
  executions : Gid → List (Execution P R)
  first : Gid → Option P            -- the state that was loaded first
  stored : Gid → Option P           -- the state that was written last, or loaded first

namespace Vault

variable {P A R E : Type} [LogicState P]

def initial : Vault P R E where
  cells := []
  dirtySlots := 0
  dirtySince := ∅
  dirtyPlayers := 0
  cache := fun _ => none
  savers := []
  faults := []
  executions := fun _ => []
  first := fun _ => none
  stored := fun _ => none

def setCell (v : Vault P R E) (c : Nat) (cell : PlayerCell P) : Vault P R E :=
  { v with cells := v.cells.set c cell }

def fault (v : Vault P R E) (fault : Fault) : Vault P R E := { v with faults := v.faults ++ [fault] }

/-- `StatsInner::mark_dirty` -/
def markDirty (v : Vault P R E) (c : Nat) (dirty : Bool) : Vault P R E :=
  if dirty then
    if c ∈ v.dirtySince then v
    else { v with dirtySince := insert c v.dirtySince, dirtyPlayers := v.dirtyPlayers + 1 }
  else
    if c ∈ v.dirtySince then
      { v with dirtySince := v.dirtySince.erase c, dirtyPlayers := v.dirtyPlayers - 1 }
    else v

/-! ## The steps of a command -/

/-- `DirtyAdmission::release`, by the drop of a permit. -/
def dropPermit (v : Vault P R E) : Option (Vault P R E) :=
  if v.dirtySlots = 0 then none else some { v with dirtySlots := v.dirtySlots - 1 }

/-- The first part of `refresh_dirty`: the slot of a clean player is released. -/
def refreshSlot (v : Vault P R E) (c : Nat) (cell : PlayerCell P) : Except Fault (Vault P R E × Bool) :=
  if cell.dirty then
    if cell.dirtySlot then .ok (v, true) else .error .dirtyWithoutSlot
  else if cell.dirtySlot then
    if v.dirtySlots = 0 then .error .slotUnderflow
    else .ok ({ v.setCell c { cell with dirtySlot := false } with dirtySlots := v.dirtySlots - 1 }, false)
  else .ok (v, false)

/-- The first part of `finish_logic`: what happens to the cell and the permit. -/
def commitSlot (cell : PlayerCell P) (permit : Bool) : Except Fault (PlayerCell P × Bool) :=
  if cell.dirty && !cell.dirtySlot then
    if permit then .ok ({ cell with dirtySlot := true }, false) else .error .noReservation
  else if permit && cell.dirty then .error .secondSlot
  else .ok (cell, permit)

/-- `cache.get_i64`, up to the loader. -/
def load (v : Vault P R E) (gid : Gid) :
    Choice P A E → Option (Option Nat × Stage P A R E)
  | .go => (v.cache gid).map fun c => (some c, .gating)
  | .cacheError error => some (none, .finishing (.failed (mapCacheError error)))
  | .fetched state => if v.cache gid = none then some (none, .fetched state) else none
  | _ => none

/-- `PlayerCell::new`, and the cache keeps what was loaded. -/
def insertLoaded (v : Vault P R E) (gid : Gid) (state : Clean P) : Vault P R E :=
  { v with
    cells := v.cells ++ [⟨gid, state.state, none, false⟩]
    cache := Function.update v.cache gid (some v.cells.length)
    first := if v.first gid = none then Function.update v.first gid (some state.state) else v.first
    stored := if v.first gid = none then Function.update v.stored gid (some state.state) else v.stored }

def write (v : Vault P R E) (gid : Gid) (state : P) (wrote : Bool) : Vault P R E :=
  if wrote then { v with stored := Function.update v.stored gid (some state) } else v

/-- A step of a stage at which the runner has its player `c`. -/
def serveCell (max : Nat) (v : Vault P R E) (me : Nat) (envelope : Envelope P A R) (c : Nat)
    (cell : PlayerCell P) : Stage P A R E → Choice P A E → Option (Vault P R E × Stage P A R E)
  | .loading, .go => some (v, .gating)
  | .gating, .go =>
    if cell.saveGate = none then
      some (v.setCell c { cell with saveGate := some (.runner me) }, .gated)
    else none
  | .gated, .go =>
    if cell.dirtySlot then some (v, .reserved false)
    else if v.dirtySlots < max then some ({ v with dirtySlots := v.dirtySlots + 1 }, .reserved true)
    else some (v, .releasing (.failed .dirtyCapacity))
  | .reserved permit, .go =>
    match envelope.command with
    | .use logic => some (v, .ready permit logic)
    | .usePreloaded logic => some (v, .preloading permit logic cell.state)
  | .preloading permit logic _, .preloaded value => some (v, .ready permit (logic · value))
  | .preloading permit _ _, .preloadFailed error =>
    some (v, .dropping permit (.release (.failed (.preload error))))
  | .ready permit logic, .go =>
    let result := logic cell.state
    some ({ v.setCell c { cell with state := result.2 } with
      executions := Function.update v.executions cell.gid
        (v.executions cell.gid ++ [⟨envelope.id, logic, cell.state⟩]) }, .executed permit result.1)
  | .executed permit value, .go =>
    match commitSlot cell permit with
    | .ok (committed, rest) => some (v.setCell c committed, .refreshing (.logic rest value))
    | .error fault => some (v.fault fault, .executed permit value)
  | .refreshing after, .go =>
    match v.refreshSlot c cell with
    | .ok (refreshed, dirty) => some (refreshed, .marking dirty after)
    | .error fault => some (v.fault fault, .refreshing after)
  | .marking dirty (.logic permit value), .go =>
    some (v.markDirty c dirty,
      .dropping permit (if dirty then .save value else .release (.completed value (.ok ()))))
  | .marking dirty (.save value result), .go =>
    some (v.markDirty c dirty, .releasing (.completed value result))
  | .dropping permit onward, .go =>
    let next := match onward with
      | .save value => .saving value
      | .release outcome => .releasing outcome
    if permit then
      match v.dropPermit with
      | some dropped => some (dropped, next)
      | none => some (v.fault .slotUnderflow, .dropping permit onward)
    else some (v, next)
  | .saving value, .go =>
    -- `save_one` returns at once for a clean player
    if cell.dirty then none else some (v, .releasing (.completed value (.ok ())))
  | .saving value, .saved state wrote result =>
    if cell.dirty then
      some ((v.write cell.gid cell.state wrote).setCell c { cell with state := state },
        .refreshing (.save value result))
    else none
  | .releasing outcome, .go =>
    some (v.setCell c { cell with saveGate := none }, .finishing outcome)
  | _, _ => none

/-- One step of the loop body of `run_gid`, up to the answer to the caller. -/
def serve (max : Nat) (v : Vault P R E) (me : Nat) (gid : Gid) (envelope : Envelope P A R) :
    Option Nat → Stage P A R E → Choice P A E → Option (Vault P R E × Option Nat × Stage P A R E)
  | none, .loading, choice => (v.load gid choice).map fun (player, stage) => (v, player, stage)
  | none, .fetched state, .go => some (v.insertLoaded gid state, some v.cells.length, .gating)
  | none, _, _ => none
  | some c, stage, choice =>
    v.cells[c]?.bind fun cell =>
      (v.serveCell max me envelope c cell stage choice).map fun (v', stage') => (v', some c, stage')

/-! ## The steps of a saver -/

def setSaver (v : Vault P R E) (k : Nat) (saver : Saver E) (phase : SaverPhase E) : Vault P R E :=
  { v with savers := v.savers.set k { saver with phase := phase } }

/-- The gates go out of scope. -/
def openGates (v : Vault P R E) (k : Nat) : Vault P R E :=
  { v with
    cells := v.cells.map fun cell =>
      if cell.saveGate = some (.saver k) then { cell with saveGate := none } else cell }

/-- One step of the batch saver over the entries of `saver`. -/
def save (v : Vault P R E) (k : Nat) (saver : Saver E) :
    SaverPhase E → Choice P A E → Option (Vault P R E)
  | .locking next, .go =>
    match saver.entries[next]? with
    | some c =>
      v.cells[c]?.bind fun cell =>
        if cell.saveGate = none then
          some ((v.setCell c { cell with saveGate := some (.saver k) }).setSaver k saver
            (.locking (next + 1)))
        else none
    | none =>
      let dirty := saver.entries.filter fun c => v.cells[c]?.any PlayerCell.dirty
      if dirty = [] then some ((v.openGates k).setSaver k saver (.done (.ok ())))
      else some (v.setSaver k saver (.saving dirty dirty))
  | .saving (c :: todo) dirty, .saved state wrote _ =>
    v.cells[c]?.map fun cell =>
      ((v.write cell.gid cell.state wrote).setCell c { cell with state := state }).setSaver k saver
        (.saving todo dirty)
  | .saving [] dirty, .returned result => some (v.setSaver k saver (.refreshing dirty result))
  | .refreshing (c :: todo) result, .go =>
    v.cells[c]?.map fun cell =>
      match v.refreshSlot c cell with
      | .ok (refreshed, isDirty) => refreshed.setSaver k saver (.marking c isDirty todo result)
      | .error fault => v.fault fault
  | .refreshing [] result, .go => some ((v.openGates k).setSaver k saver (.done result))
  | .marking c isDirty todo result, .go =>
    some ((v.markDirty c isDirty).setSaver k saver (.refreshing todo result))
  | _, _ => none

/-- The cache calls a saver for some cells, sorted by their gids. -/
def startSaver (v : Vault P R E) (entries : List Nat) (evicts : Bool) : Option (Vault P R E) :=
  let gids := entries.filterMap fun c => v.cells[c]?.map PlayerCell.gid
  if gids.length = entries.length ∧ gids.Pairwise (· ≤ ·) then
    some { v with savers := v.savers ++ [⟨entries, evicts, .locking 0⟩] }
  else none

/-! ## The cache -/

/-- A clean entry is evicted or expires. -/
def evict (v : Vault P R E) (gid : Gid) : Option (Vault P R E) :=
  (v.cache gid).bind fun c => v.cells[c]?.bind fun cell =>
    if cell.dirty then none else some { v with cache := Function.update v.cache gid none }

/-- The saver of an evicted entry returned `Ok`. -/
def evicted (v : Vault P R E) (k : Nat) (gid : Gid) : Option (Vault P R E) :=
  v.savers[k]?.bind fun saver =>
    match saver.phase with
    | .done (.ok _) =>
      if saver.evicts ∧ (v.cache gid).any (· ∈ saver.entries) then
        some { v with cache := Function.update v.cache gid none }
      else none
    | _ => none

/-- `set_i64` makes the player resident exactly when it returns `Ok`. -/
def setResident (v : Vault P R E) (gid : Gid) (c : Nat) (ok : Bool) : Vault P R E :=
  if ok then { v with cache := Function.update v.cache gid (some c) } else v

end Vault

end Xkk.Logic

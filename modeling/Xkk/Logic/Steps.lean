import Xkk.Logic.Runtime

/-! # What a step of the runtime can do

`Runtime.Step` lists the outcomes of `Runtime.step` with the conditions under
which they occur.  Every invariant is proved by cases on it.  `Vault.Serves` and
`Vault.Saves` do the same for the steps of a command and of a saver.
-/

namespace Xkk.Logic

open Xkk.Lib

variable {P A R E : Type} [LogicState P]

/-! ## The vault -/

/-- Where the drop of the permit leads. -/
def Onward.stage : Onward R E → Stage P A R E
  | .save value => .saving value
  | .release outcome => .releasing outcome

namespace Vault

variable {max : Nat} {v v' : Vault P R E} {c : Nat} {cell : PlayerCell P}

/-- `refresh_dirty` leaves everything as it is, or releases the slot of a clean
    player. -/
theorem refreshSlot_cases {dirty : Bool} (isOk : v.refreshSlot c cell = .ok (v', dirty)) :
    dirty = cell.dirty ∧ (v' = v
      ∨ cell.dirty = false ∧ cell.dirtySlot = true
        ∧ v' = { v.setCell c { cell with dirtySlot := false } with dirtySlots := v.dirtySlots - 1 }) := by
  unfold refreshSlot at isOk
  cases isDirty : cell.dirty with
  | true =>
    simp only [isDirty, if_true] at isOk
    split at isOk <;> cases isOk
    exact ⟨rfl, .inl rfl⟩
  | false =>
    simp only [isDirty, Bool.false_eq_true, if_false] at isOk
    split at isOk
    · next owns =>
      split at isOk <;> cases isOk
      exact ⟨rfl, .inr ⟨rfl, owns, rfl⟩⟩
    · cases isOk
      exact ⟨rfl, .inl rfl⟩

/-- The steps of a command whose runner has its player `c`. -/
inductive Serves (max : Nat) (v : Vault P R E) (me : Nat) (envelope : Envelope P A R) (c : Nat)
    (cell : PlayerCell P) : Stage P A R E → Choice P A E → Vault P R E → Stage P A R E → Prop
  | loaded : Serves max v me envelope c cell .loading .go v .gating
  | gate : cell.saveGate = none → Serves max v me envelope c cell .gating .go
      (v.setCell c { cell with saveGate := some (.runner me) }) .gated
  | slotted : cell.dirtySlot = true → Serves max v me envelope c cell .gated .go v (.reserved false)
  | reserve : cell.dirtySlot = false → v.dirtySlots < max → Serves max v me envelope c cell .gated .go
      { v with dirtySlots := v.dirtySlots + 1 } (.reserved true)
  | capacity : cell.dirtySlot = false → Serves max v me envelope c cell .gated .go v
      (.releasing (.failed .dirtyCapacity))
  | use {permit : Bool} {logic : P → R × P} : envelope.command = .use logic →
      Serves max v me envelope c cell (.reserved permit) .go v (.ready permit logic)
  | preload {permit : Bool} {logic : P → A → R × P} : envelope.command = .usePreloaded logic →
      Serves max v me envelope c cell (.reserved permit) .go v (.preloading permit logic cell.state)
  | preloaded {permit : Bool} {logic : P → A → R × P} {seen : P} (value : A) :
      Serves max v me envelope c cell (.preloading permit logic seen) (.preloaded value) v
        (.ready permit (logic · value))
  | preloadFailed {permit : Bool} {logic : P → A → R × P} {seen : P} (error : E) :
      Serves max v me envelope c cell (.preloading permit logic seen) (.preloadFailed error) v
        (.dropping permit (.release (.failed (.preload error))))
  | execute {permit : Bool} {logic : P → R × P} : Serves max v me envelope c cell (.ready permit logic) .go
      { v.setCell c { cell with state := (logic cell.state).2 } with
        executions := Function.update v.executions cell.gid
          (v.executions cell.gid ++ [⟨envelope.id, logic, cell.state⟩]) }
      (.executed permit (logic cell.state).1)
  | commit {permit rest : Bool} {value : R} {committed : PlayerCell P} :
      commitSlot cell permit = .ok (committed, rest) →
      Serves max v me envelope c cell (.executed permit value) .go (v.setCell c committed)
        (.refreshing (.logic rest value))
  | commitFault {permit : Bool} {value : R} {fault : Fault} : commitSlot cell permit = .error fault →
      Serves max v me envelope c cell (.executed permit value) .go (v.fault fault) (.executed permit value)
  | refresh {after : After R E} {refreshed : Vault P R E} {dirty : Bool} :
      v.refreshSlot c cell = .ok (refreshed, dirty) →
      Serves max v me envelope c cell (.refreshing after) .go refreshed (.marking dirty after)
  | refreshFault {after : After R E} {fault : Fault} : v.refreshSlot c cell = .error fault →
      Serves max v me envelope c cell (.refreshing after) .go (v.fault fault) (.refreshing after)
  | markLogic {dirty permit : Bool} {value : R} :
      Serves max v me envelope c cell (.marking dirty (.logic permit value)) .go (v.markDirty c dirty)
        (.dropping permit (if dirty then .save value else .release (.completed value (.ok ()))))
  | markSave {dirty : Bool} {value : R} {result : Except E Unit} :
      Serves max v me envelope c cell (.marking dirty (.save value result)) .go (v.markDirty c dirty)
        (.releasing (.completed value result))
  | drop {onward : Onward R E} : v.dirtySlots ≠ 0 → Serves max v me envelope c cell (.dropping true onward) .go
      { v with dirtySlots := v.dirtySlots - 1 } onward.stage
  | dropFault {onward : Onward R E} : v.dirtySlots = 0 → Serves max v me envelope c cell (.dropping true onward) .go
      (v.fault .slotUnderflow) (.dropping true onward)
  | onward {onward : Onward R E} : Serves max v me envelope c cell (.dropping false onward) .go v onward.stage
  | clean {value : R} : cell.dirty = false → Serves max v me envelope c cell (.saving value) .go v
      (.releasing (.completed value (.ok ())))
  | saved {value : R} {state : P} {wrote : Bool} {result : Except E Unit} : cell.dirty = true →
      Serves max v me envelope c cell (.saving value) (.saved state wrote result)
        ((v.write cell.gid cell.state wrote).setCell c { cell with state := state })
        (.refreshing (.save value result))
  | release {outcome : Outcome R E} : Serves max v me envelope c cell (.releasing outcome) .go
      (v.setCell c { cell with saveGate := none }) (.finishing outcome)

theorem serves_of_serveCell {me : Nat} {envelope : Envelope P A R} {stage stage' : Stage P A R E}
    {choice : Choice P A E} (taken : v.serveCell max me envelope c cell stage choice = some (v', stage')) :
    Serves max v me envelope c cell stage choice v' stage' := by
  unfold serveCell at taken
  split at taken
  case h_1 =>
    cases taken
    exact .loaded
  case h_2 =>
    split at taken <;> cases taken
    next isFree => exact .gate isFree
  case h_3 =>
    split at taken
    · next owns =>
      cases taken
      exact .slotted owns
    · next owns =>
      split at taken <;> cases taken
      · next room => exact .reserve (by simpa using owns) room
      · exact .capacity (by simpa using owns)
  case h_4 permit =>
    split at taken <;> cases taken
    · next isUse => exact .use isUse
    · next isPreloaded => exact .preload isPreloaded
  case h_5 value =>
    cases taken
    exact .preloaded value
  case h_6 error =>
    cases taken
    exact .preloadFailed error
  case h_7 =>
    cases taken
    exact .execute
  case h_8 =>
    split at taken <;> cases taken
    · next isCommitted => exact .commit isCommitted
    · next isFault => exact .commitFault isFault
  case h_9 =>
    split at taken <;> cases taken
    · next isRefreshed => exact .refresh isRefreshed
    · next isFault => exact .refreshFault isFault
  case h_10 =>
    cases taken
    exact .markLogic
  case h_11 =>
    cases taken
    exact .markSave
  case h_12 permit onward =>
    cases permit with
    | false =>
      cases onward <;> cases taken <;> exact .onward
    | true =>
      simp only [if_true, dropPermit] at taken
      by_cases empty : v.dirtySlots = 0
      · simp only [empty, if_true] at taken
        cases taken
        exact .dropFault empty
      · simp only [empty, if_false] at taken
        cases onward <;> cases taken <;> exact .drop empty
  case h_13 =>
    split at taken <;> cases taken
    next isClean => exact .clean (by simpa using isClean)
  case h_14 =>
    split at taken <;> cases taken
    next isDirty => exact .saved isDirty
  case h_15 =>
    cases taken
    exact .release
  case h_16 => cases taken

/-- The steps of a saver. -/
inductive Saves (v : Vault P R E) (k : Nat) (saver : Saver E) : Choice P A E → Vault P R E → Prop
  | lock {next c : Nat} {cell : PlayerCell P} : saver.phase = .locking next → saver.entries[next]? = some c →
      v.cells[c]? = some cell → cell.saveGate = none →
      Saves v k saver .go
        ((v.setCell c { cell with saveGate := some (.saver k) }).setSaver k saver (.locking (next + 1)))
  | allClean {next : Nat} : saver.phase = .locking next → saver.entries[next]? = none →
      Saves v k saver .go ((v.openGates k).setSaver k saver (.done (.ok ())))
  | locked {next : Nat} {dirty : List Nat} : saver.phase = .locking next → saver.entries[next]? = none →
      dirty = (saver.entries.filter fun c => v.cells[c]?.any PlayerCell.dirty) →
      Saves v k saver .go (v.setSaver k saver (.saving dirty dirty))
  | saved {c : Nat} {todo dirty : List Nat} {cell : PlayerCell P} {state : P} {wrote : Bool}
      {result : Except E Unit} : saver.phase = .saving (c :: todo) dirty → v.cells[c]? = some cell →
      Saves v k saver (.saved state wrote result)
        (((v.write cell.gid cell.state wrote).setCell c { cell with state := state }).setSaver k saver
          (.saving todo dirty))
  | returned {dirty : List Nat} {result : Except E Unit} : saver.phase = .saving [] dirty →
      Saves v k saver (.returned result) (v.setSaver k saver (.refreshing dirty result))
  | refresh {c : Nat} {todo : List Nat} {result : Except E Unit} {cell : PlayerCell P}
      {refreshed : Vault P R E} {isDirty : Bool} : saver.phase = .refreshing (c :: todo) result →
      v.cells[c]? = some cell → v.refreshSlot c cell = .ok (refreshed, isDirty) →
      Saves v k saver .go (refreshed.setSaver k saver (.marking c isDirty todo result))
  | refreshFault {c : Nat} {todo : List Nat} {result : Except E Unit} {cell : PlayerCell P} {fault : Fault} :
      saver.phase = .refreshing (c :: todo) result → v.cells[c]? = some cell →
      v.refreshSlot c cell = .error fault → Saves v k saver .go (v.fault fault)
  | refreshed {result : Except E Unit} : saver.phase = .refreshing [] result →
      Saves v k saver .go ((v.openGates k).setSaver k saver (.done result))
  | mark {c : Nat} {isDirty : Bool} {todo : List Nat} {result : Except E Unit} :
      saver.phase = .marking c isDirty todo result →
      Saves v k saver .go ((v.markDirty c isDirty).setSaver k saver (.refreshing todo result))

theorem saves_of_save {k : Nat} {saver : Saver E} {choice : Choice P A E}
    (taken : v.save k saver saver.phase choice = some v') : Saves v k saver choice v' := by
  unfold save at taken
  split at taken
  case h_1 next isPhase =>
    split at taken
    · next entry =>
      simp only [Option.bind_eq_some_iff, Option.ite_none_right_eq_some, Option.some.injEq] at taken
      obtain ⟨cell, found, isFree, rfl⟩ := taken
      exact .lock isPhase entry found isFree
    · next entry =>
      dsimp only at taken
      split at taken <;> cases taken
      · exact .allClean isPhase entry
      · exact .locked isPhase entry rfl
  case h_2 isPhase =>
    obtain ⟨cell, found, rfl⟩ := Option.map_eq_some_iff.mp taken
    exact .saved isPhase found
  case h_3 isPhase =>
    cases taken
    exact .returned isPhase
  case h_4 isPhase =>
    obtain ⟨cell, found, rfl⟩ := Option.map_eq_some_iff.mp taken
    split
    · next isRefreshed => exact .refresh isPhase found isRefreshed
    · next isFault => exact .refreshFault isPhase found isFault
  case h_5 isPhase =>
    cases taken
    exact .refreshed isPhase
  case h_6 isPhase =>
    cases taken
    exact .mark isPhase
  case h_7 => cases taken

end Vault

namespace Runtime

/-- The steps of `shutdown` that only read. -/
inductive ShutMove (s : Runtime P A R E) (d : Shutdown E) : Shutdown E → Prop
  | stopped : d.phase = .start → s.state = .stopped → ShutMove s d { d with phase := .returned (.ok ()) }
  | begin : d.phase = .start → s.state ≠ .stopped → ShutMove s d { d with phase := .closing }
  | noCalls {notified : Option Nat} : d.phase = .inflight notified →
      s.pool.admission.inflightCalls = 0 → ShutMove s d { d with phase := .active notified }
  | drained {notified : Option Nat} : d.phase = .active notified → s.activeGids = 0 →
      ShutMove s d { d with phase := .flush }
  | undrained {phase : ShutdownPhase E} :
      (∃ notified, d.phase = .inflight notified ∨ d.phase = .active notified) →
      (phase = .subscribing ∨ ∃ notified, phase = .waiting notified) →
      ShutMove s d { d with phase := phase }
  | subscribe : d.phase = .subscribing → ShutMove s d { d with phase := .inflight (some s.wakeups) }
  | wake {notified : Nat} : d.phase = .waiting notified → notified < s.wakeups →
      ShutMove s d { d with phase := .inflight none }
  | flushed {savers : List Nat} : d.phase = .flushing savers →
      flushResult s.vault savers = some (.ok ()) →
      ShutMove s d { phase := .dirtyPlayers, flushed := some (.ok ()) }
  | flushFailed {savers : List Nat} {error : E} : d.phase = .flushing savers →
      flushResult s.vault savers = some (.error error) →
      ShutMove s d { phase := .returned (.error (.persistence error)), flushed := some (.error error) }
  | players : d.phase = .dirtyPlayers →
      ShutMove s d { d with phase := .dirtySlots s.vault.dirtyPlayers }
  | dirty {players : Nat} : d.phase = .dirtySlots players → max players s.vault.dirtySlots ≠ 0 →
      ShutMove s d { d with phase := .returned (.error (.dirtyPlayers (max players s.vault.dirtySlots))) }
  | clean {players : Nat} : d.phase = .dirtySlots players → players = 0 → s.vault.dirtySlots = 0 →
      ShutMove s d { d with phase := .storing }

inductive Step (config : LogicConfig) (s : Runtime P A R E) : Runtime P A R E → Prop
  -- `enqueue`
  | tryUse {gid : Gid} {retainedKib : UInt64} {command : Command P A R} {pool : AdmissionPool.State} :
      AdmissionPool.step s.pool (.acquire (max retainedKib 1)) = some pool →
      Step config s { s with
        pool := pool, enqueues := s.enqueues ++ [⟨gid, max retainedKib 1, command, .calling⟩] }
  | full {i : Nat} {e : Enqueue P A R} : s.enqueues[i]? = some e → e.phase = .calling →
      Step config s (s.setEnqueue i e (.rejected .gid))
  | lock {i m : Nat} {e : Enqueue P A R} {slot : KeySlot P A R} :
      s.enqueues[i]? = some e → e.phase = .calling → s.locks (config.directory e.gid) = none →
      s.directory e.gid = some m → s.slots[m]? = some slot → full config slot e.retainedKib = false →
      Step config s { s.setEnqueue i e (.acquiring m false) with
        locks := Function.update s.locks (config.directory e.gid) (some (.enqueue i)) }
  | lockNew {i : Nat} {e : Enqueue P A R} :
      s.enqueues[i]? = some e → e.phase = .calling → s.locks (config.directory e.gid) = none →
      s.directory e.gid = none →
      full config (⟨e.gid, [], 0, 0⟩ : KeySlot P A R) e.retainedKib = false →
      Step config s { s.setEnqueue i e (.acquiring s.slots.length true) with
        locks := Function.update s.locks (config.directory e.gid) (some (.enqueue i))
        slots := s.slots ++ [⟨e.gid, [], 0, 0⟩]
        directory := Function.update s.directory e.gid (some s.slots.length) }
  | acquire {i m : Nat} {spawnRunner spurious : Bool} {e : Enqueue P A R}
      {pool : AdmissionPool.State} :
      s.enqueues[i]? = some e → e.phase = .acquiring m spawnRunner →
      AdmissionPool.step s.pool (.tick i spurious) = some pool →
      Step config s { s with pool := pool }
  | push {i m : Nat} {spawnRunner : Bool} {e : Enqueue P A R} {slot : KeySlot P A R}
      {holder : AdmissionPool.Holder} :
      s.enqueues[i]? = some e → e.phase = .acquiring m spawnRunner →
      s.pool.holders[i]? = some holder → holder.phase = .acquiring .permit →
      s.slots[m]? = some slot →
      Step config s (if spawnRunner then (s.push i e m slot).setEnqueue i e (.counting m)
        else ((s.push i e m slot).setEnqueue i e .accepted).unlock config e.gid)
  | refuse {i m : Nat} {spawnRunner : Bool} {e : Enqueue P A R} {reason : RejectReason}
      {holder : AdmissionPool.Holder} :
      s.enqueues[i]? = some e → e.phase = .acquiring m spawnRunner →
      s.pool.holders[i]? = some holder → holder.phase = .acquiring (.rejected reason) →
      Step config s (Runtime.unlock config (Runtime.setEnqueue
        (if spawnRunner then { s with directory := Function.update s.directory e.gid none } else s)
        i e (.rejected reason)) e.gid)
  | count {i m : Nat} {e : Enqueue P A R} : s.enqueues[i]? = some e → e.phase = .counting m →
      Step config s
        ({ s.setEnqueue i e (.spawning m) with activeGids := s.activeGids + 1 }.unlock config e.gid)
  | spawn {i m : Nat} {e : Enqueue P A R} : s.enqueues[i]? = some e → e.phase = .spawning m →
      Step config s
        { s.setEnqueue i e .accepted with runners := s.runners ++ [⟨e.gid, m, none, .taking⟩] }
  -- `run_gid`
  | take {i : Nat} {r : Runner P A R E} {slot : KeySlot P A R} {envelope : Envelope P A R}
      {rest : List (Envelope P A R)} :
      s.runners[i]? = some r → r.phase = .taking ∨ r.phase = .checking →
      s.locks (config.directory r.gid) = none → s.directory r.gid = some r.slot →
      s.slots[r.slot]? = some slot → slot.queue = envelope :: rest →
      Step config s
        ((s.dequeue r.gid r.slot slot envelope rest).setRunner i r (.serving envelope .loading))
  | serve {i : Nat} {r : Runner P A R E} {envelope : Envelope P A R} {stage stage' : Stage P A R E}
      {choice : Choice P A E} {vault : Vault P R E} {player : Option Nat} :
      s.runners[i]? = some r → r.phase = .serving envelope stage →
      s.vault.serve config.maxDirtyPlayers.toNat i r.gid envelope r.player stage choice
        = some (vault, player, stage') →
      Step config s { s with
        vault := vault
        runners := s.runners.set i { r with player := player, phase := .serving envelope stage' } }
  | finish {i : Nat} {r : Runner P A R E} {envelope : Envelope P A R} {outcome : Outcome R E} :
      s.runners[i]? = some r → r.phase = .serving envelope (.finishing outcome) →
      Step config s (s.finish i r envelope outcome)
  | completeNext {i : Nat} {r : Runner P A R E} {envelope next : Envelope P A R}
      {slot : KeySlot P A R} {rest : List (Envelope P A R)} :
      s.runners[i]? = some r → r.phase = .completing envelope →
      s.locks (config.directory r.gid) = none → s.directory r.gid = some r.slot →
      s.slots[r.slot]? = some slot → slot.queue = next :: rest →
      Step config s ((s.dequeue r.gid r.slot (slot.release envelope.retainedKib) next rest).setRunner
        i r (.dropping envelope.id (some next)))
  | completeLast {i : Nat} {r : Runner P A R E} {envelope : Envelope P A R} {slot : KeySlot P A R} :
      s.runners[i]? = some r → r.phase = .completing envelope →
      s.locks (config.directory r.gid) = none → s.directory r.gid = some r.slot →
      s.slots[r.slot]? = some slot → slot.queue = [] →
      Step config s ({ s with
        slots := s.slots.set r.slot (slot.release envelope.retainedKib) }.setRunner
        i r (.dropping envelope.id none))
  | drop {i id : Nat} {r : Runner P A R E} {next : Option (Envelope P A R)}
      {pool : AdmissionPool.State} :
      s.runners[i]? = some r → r.phase = .dropping id next →
      AdmissionPool.step s.pool (.drop id) = some pool →
      Step config s { s.setRunner i r (.droppingKib id next) with pool := pool }
  | dropKib {i id : Nat} {r : Runner P A R E} {next : Option (Envelope P A R)}
      {pool : AdmissionPool.State} :
      s.runners[i]? = some r → r.phase = .droppingKib id next →
      AdmissionPool.step s.pool (.tick id false) = some pool →
      Step config s { s.setRunner i r (.notifying next) with pool := pool }
  | notifyNext {i : Nat} {r : Runner P A R E} {envelope : Envelope P A R} :
      s.runners[i]? = some r → r.phase = .notifying (some envelope) →
      Step config s { s.setRunner i r (.serving envelope .loading) with wakeups := s.wakeups + 1 }
  | notifyLast {i : Nat} {r : Runner P A R E} :
      s.runners[i]? = some r → r.phase = .notifying none →
      Step config s { s.setRunner i r .retiring with wakeups := s.wakeups + 1 }
  | peek {i : Nat} {r : Runner P A R E} :
      s.runners[i]? = some r → r.phase = .retiring → (∀ c ∈ r.player, s.vault.cache r.gid = some c) →
      Step config s (s.setRunner i r .checking)
  | peekNone {i c : Nat} {r : Runner P A R E} :
      s.runners[i]? = some r → r.phase = .retiring → r.player = some c → s.vault.cache r.gid = none →
      Step config s (s.setRunner i r (.inserting c))
  | insert {i c : Nat} {r : Runner P A R E} (ok : Bool) :
      s.runners[i]? = some r → r.phase = .inserting c →
      Step config s { s.setRunner i r .checking with vault := s.vault.setResident r.gid c ok }
  | retire {i : Nat} {r : Runner P A R E} {slot : KeySlot P A R} :
      s.runners[i]? = some r → r.phase = .checking → s.locks (config.directory r.gid) = none →
      s.directory r.gid = some r.slot → s.slots[r.slot]? = some slot → slot.queue = [] →
      Step config s { s.setRunner i r .leaving with
        directory := Function.update s.directory r.gid none
        locks := Function.update s.locks (config.directory r.gid) (some (.runner i))
        activeGids := s.activeGids - 1 }
  | leave {i : Nat} {r : Runner P A R E} : s.runners[i]? = some r → r.phase = .leaving →
      Step config s ({ s.setRunner i r .done with wakeups := s.wakeups + 1 }.unlock config r.gid)
  -- assertions
  | lostSlot {i : Nat} {r : Runner P A R E} :
      s.runners[i]? = some r →
      r.phase = .taking ∨ (∃ envelope, r.phase = .completing envelope) ∨ r.phase = .checking →
      s.directory r.gid ≠ some r.slot →
      Step config s (s.fault .lostDirectorySlot)
  | slotDisappeared {i : Nat} {r : Runner P A R E} :
      s.runners[i]? = some r → r.phase = .checking → s.directory r.gid = none →
      Step config s (s.fault .slotDisappeared)
  | emptyMailbox {i : Nat} {r : Runner P A R E} {slot : KeySlot P A R} :
      s.runners[i]? = some r → r.phase = .taking → s.slots[r.slot]? = some slot → slot.queue = [] →
      Step config s (s.fault .emptyMailbox)
  | inflightAtRetirement {i : Nat} {r : Runner P A R E} {slot : KeySlot P A R} :
      s.runners[i]? = some r → r.phase = .checking → s.slots[r.slot]? = some slot → slot.queue = [] →
      ¬ (slot.inflightCalls = 0 ∧ slot.inflightKib = 0) →
      Step config s (s.fault .inflightAtRetirement)
  | differentGeneration {i c resident : Nat} {r : Runner P A R E} :
      s.runners[i]? = some r → r.phase = .retiring → r.player = some c →
      s.vault.cache r.gid = some resident → resident ≠ c →
      Step config s (s.fault .differentGeneration)
  -- the cache
  | startSaver {entries : List Nat} {evicts : Bool} {vault : Vault P R E} :
      s.vault.startSaver entries evicts = some vault → Step config s { s with vault := vault }
  | save {k : Nat} {saver : Saver E} {choice : Choice P A E} {vault : Vault P R E} :
      s.vault.savers[k]? = some saver → s.vault.save k saver saver.phase choice = some vault →
      Step config s { s with vault := vault }
  | evict {gid : Gid} {c : Nat} {cell : PlayerCell P} :
      s.vault.cache gid = some c → s.vault.cells[c]? = some cell → cell.dirty = false →
      Step config s { s with vault := { s.vault with cache := Function.update s.vault.cache gid none } }
  | evicted {gid : Gid} {k c : Nat} {saver : Saver E} :
      s.vault.savers[k]? = some saver → saver.phase = .done (.ok ()) → saver.evicts = true →
      s.vault.cache gid = some c → c ∈ saver.entries →
      Step config s { s with vault := { s.vault with cache := Function.update s.vault.cache gid none } }
  -- `shutdown`
  | shutdown : Step config s { s with shutdowns := s.shutdowns ++ [⟨.start, none⟩] }
  | shutMove {j : Nat} {d d' : Shutdown E} : s.shutdowns[j]? = some d → ShutMove s d d' →
      Step config s { s with shutdowns := s.shutdowns.set j d' }
  | close {j : Nat} {d : Shutdown E} {pool : AdmissionPool.State} :
      s.shutdowns[j]? = some d → d.phase = .closing → AdmissionPool.step s.pool .close = some pool →
      Step config s { s.setShutdown j d .exchanging with pool := pool }
  | exchange {j : Nat} {d : Shutdown E} : s.shutdowns[j]? = some d → d.phase = .exchanging →
      Step config s { s.setShutdown j d (.inflight none) with
        state := if s.state = .running then .draining else s.state }
  | flush {j : Nat} {d : Shutdown E} {batches : List (List Nat)} {vault : Vault P R E}
      {savers : List Nat} :
      s.shutdowns[j]? = some d → d.phase = .flush →
      batches.foldlM (fun (vault : Vault P R E) batch => vault.startSaver batch false) s.vault
        = some vault →
      Step config s { s.setShutdown j d (.flushing savers) with vault := vault }
  | store {j : Nat} {d : Shutdown E} : s.shutdowns[j]? = some d → d.phase = .storing →
      Step config s { s.setShutdown j d (.returned (.ok ())) with state := .stopped }

variable {config : LogicConfig} {s t : Runtime P A R E}

theorem pop_cases (gid : Gid) (m : Nat) (slot : KeySlot P A R) :
    (slot.queue = [] ∧ s.pop gid m slot = none)
      ∨ ∃ envelope rest, slot.queue = envelope :: rest
        ∧ s.pop gid m slot = some (s.dequeue gid m slot envelope rest, envelope) := by
  unfold Runtime.pop
  cases queue : slot.queue with
  | nil => exact .inl ⟨rfl, rfl⟩
  | cons envelope rest => exact .inr ⟨envelope, rest, rfl, rfl⟩

/-! ## `enqueue` -/

theorem lock_sound {i : Nat} {e : Enqueue P A R} (found : s.enqueues[i]? = some e)
    (taken : s.lock config i e = some t) : Step config s t := by
  unfold Runtime.lock at taken
  split at taken
  case isFalse => cases taken
  case isTrue allowed =>
    obtain ⟨calling, isFree⟩ := allowed
    split at taken
    case h_1 m mapped =>
      obtain ⟨slot, there, rfl⟩ := Option.map_eq_some_iff.mp taken
      split
      · exact .full found calling
      case isFalse room => exact .lock found calling isFree mapped there (by simpa using room)
    case h_2 unmapped =>
      split at taken
      · obtain rfl := Option.some.inj taken
        exact .full found calling
      case isFalse room =>
        obtain rfl := Option.some.inj taken
        exact .lockNew found calling isFree unmapped (by simpa using room)

theorem admit_sound {i : Nat} {e : Enqueue P A R} (found : s.enqueues[i]? = some e)
    (taken : s.acquired config i e = some t) : Step config s t := by
  unfold Runtime.acquired at taken
  split at taken
  case h_2 => cases taken
  case h_1 m spawnRunner acquiring =>
    split at taken
    case h_1 granted =>
      obtain ⟨holder, isHolder, granted⟩ := Option.map_eq_some_iff.mp granted
      obtain ⟨slot, there, rfl⟩ := Option.map_eq_some_iff.mp taken
      exact .push found acquiring isHolder granted there
    case h_2 reason rejected =>
      obtain ⟨holder, isHolder, rejected⟩ := Option.map_eq_some_iff.mp rejected
      obtain rfl := Option.some.inj taken
      exact .refuse found acquiring isHolder rejected
    case h_3 => cases taken

/-- Only the directory, the mailboxes and the `enqueue` calls have changed. -/
structure Unmoved (s t : Runtime P A R E) : Prop where
  pool : t.pool = s.pool
  active : t.activeGids = s.activeGids
  runners : t.runners = s.runners
  wakeups : t.wakeups = s.wakeups
  shutdowns : t.shutdowns = s.shutdowns
  vault : t.vault = s.vault

theorem lock_unmoved {i : Nat} {e : Enqueue P A R} (taken : s.lock config i e = some t) : Unmoved s t := by
  unfold Runtime.lock at taken
  split at taken
  case isFalse => cases taken
  case isTrue =>
    split at taken
    case h_1 =>
      obtain ⟨slot, _, rfl⟩ := Option.map_eq_some_iff.mp taken
      split <;> exact ⟨rfl, rfl, rfl, rfl, rfl, rfl⟩
    case h_2 =>
      split at taken <;> obtain rfl := Option.some.inj taken <;> exact ⟨rfl, rfl, rfl, rfl, rfl, rfl⟩

theorem acquired_unmoved {i : Nat} {e : Enqueue P A R} (taken : s.acquired config i e = some t) :
    Unmoved s t := by
  unfold Runtime.acquired at taken
  split at taken
  case h_1 =>
    split at taken
    case h_1 =>
      obtain ⟨slot, _, rfl⟩ := Option.map_eq_some_iff.mp taken
      split <;> exact ⟨rfl, rfl, rfl, rfl, rfl, rfl⟩
    case h_2 =>
      obtain rfl := Option.some.inj taken
      split <;> exact ⟨rfl, rfl, rfl, rfl, rfl, rfl⟩
    case h_3 => cases taken
  case h_2 => cases taken

/-! ## `run_gid` -/

/-- The steps of `run_gid`, for one runner. -/
inductive Runs (config : LogicConfig) (s : Runtime P A R E) (i : Nat) (r : Runner P A R E)
    (choice : Choice P A E) (ok : Bool) : Runtime P A R E → Prop
  | take {slot : KeySlot P A R} {envelope : Envelope P A R} {rest : List (Envelope P A R)} :
      r.phase = .taking ∨ r.phase = .checking →
      s.locks (config.directory r.gid) = none → s.directory r.gid = some r.slot →
      s.slots[r.slot]? = some slot → slot.queue = envelope :: rest →
      Runs config s i r choice ok
        ((s.dequeue r.gid r.slot slot envelope rest).setRunner i r (.serving envelope .loading))
  | serve {envelope : Envelope P A R} {stage stage' : Stage P A R E} {vault : Vault P R E}
      {player : Option Nat} : r.phase = .serving envelope stage →
      s.vault.serve config.maxDirtyPlayers.toNat i r.gid envelope r.player stage choice
        = some (vault, player, stage') →
      Runs config s i r choice ok { s with
        vault := vault
        runners := s.runners.set i { r with player := player, phase := .serving envelope stage' } }
  | finish {envelope : Envelope P A R} {outcome : Outcome R E} :
      r.phase = .serving envelope (.finishing outcome) →
      Runs config s i r choice ok (s.finish i r envelope outcome)
  | completeNext {envelope next : Envelope P A R} {slot : KeySlot P A R} {rest : List (Envelope P A R)} :
      r.phase = .completing envelope →
      s.locks (config.directory r.gid) = none → s.directory r.gid = some r.slot →
      s.slots[r.slot]? = some slot → slot.queue = next :: rest →
      Runs config s i r choice ok ((s.dequeue r.gid r.slot (slot.release envelope.retainedKib) next rest).setRunner
        i r (.dropping envelope.id (some next)))
  | completeLast {envelope : Envelope P A R} {slot : KeySlot P A R} :
      r.phase = .completing envelope →
      s.locks (config.directory r.gid) = none → s.directory r.gid = some r.slot →
      s.slots[r.slot]? = some slot → slot.queue = [] →
      Runs config s i r choice ok ({ s with
        slots := s.slots.set r.slot (slot.release envelope.retainedKib) }.setRunner
        i r (.dropping envelope.id none))
  | drop {id : Nat} {next : Option (Envelope P A R)} {pool : AdmissionPool.State} : r.phase = .dropping id next →
      AdmissionPool.step s.pool (.drop id) = some pool →
      Runs config s i r choice ok { s.setRunner i r (.droppingKib id next) with pool := pool }
  | dropKib {id : Nat} {next : Option (Envelope P A R)} {pool : AdmissionPool.State} :
      r.phase = .droppingKib id next →
      AdmissionPool.step s.pool (.tick id false) = some pool →
      Runs config s i r choice ok { s.setRunner i r (.notifying next) with pool := pool }
  | notifyNext {envelope : Envelope P A R} : r.phase = .notifying (some envelope) →
      Runs config s i r choice ok { s.setRunner i r (.serving envelope .loading) with wakeups := s.wakeups + 1 }
  | notifyLast : r.phase = .notifying none →
      Runs config s i r choice ok { s.setRunner i r .retiring with wakeups := s.wakeups + 1 }
  | peek : r.phase = .retiring → (∀ c ∈ r.player, s.vault.cache r.gid = some c) →
      Runs config s i r choice ok (s.setRunner i r .checking)
  | peekNone {c : Nat} : r.phase = .retiring → r.player = some c →
      s.vault.cache r.gid = none → Runs config s i r choice ok (s.setRunner i r (.inserting c))
  | insert {c : Nat} : r.phase = .inserting c →
      Runs config s i r choice ok { s.setRunner i r .checking with vault := s.vault.setResident r.gid c ok }
  | retire {slot : KeySlot P A R} : r.phase = .checking →
      s.locks (config.directory r.gid) = none →
      s.directory r.gid = some r.slot → s.slots[r.slot]? = some slot → slot.queue = [] →
      Runs config s i r choice ok { s.setRunner i r .leaving with
        directory := Function.update s.directory r.gid none
        locks := Function.update s.locks (config.directory r.gid) (some (.runner i))
        activeGids := s.activeGids - 1 }
  | leave : r.phase = .leaving →
      Runs config s i r choice ok ({ s.setRunner i r .done with wakeups := s.wakeups + 1 }.unlock config r.gid)
  -- assertions
  | lostSlot :
      r.phase = .taking ∨ (∃ envelope, r.phase = .completing envelope) ∨ r.phase = .checking →
      s.directory r.gid ≠ some r.slot → Runs config s i r choice ok (s.fault .lostDirectorySlot)
  | slotDisappeared : r.phase = .checking → s.directory r.gid = none →
      Runs config s i r choice ok (s.fault .slotDisappeared)
  | emptyMailbox {slot : KeySlot P A R} : r.phase = .taking →
      s.slots[r.slot]? = some slot → slot.queue = [] → Runs config s i r choice ok (s.fault .emptyMailbox)
  | inflightAtRetirement {slot : KeySlot P A R} : r.phase = .checking →
      s.slots[r.slot]? = some slot → slot.queue = [] → ¬ (slot.inflightCalls = 0 ∧ slot.inflightKib = 0) →
      Runs config s i r choice ok (s.fault .inflightAtRetirement)
  | differentGeneration {c resident : Nat} : r.phase = .retiring →
      r.player = some c → s.vault.cache r.gid = some resident → resident ≠ c →
      Runs config s i r choice ok (s.fault .differentGeneration)

variable {i : Nat} {r : Runner P A R E} {choice : Choice P A E} {ok : Bool}

theorem takeNext_runs (taking : r.phase = .taking) (isFree : s.locks (config.directory r.gid) = none)
    (taken : s.takeNext i r = some t) : Runs config s i r choice ok t := by
  unfold Runtime.takeNext at taken
  split at taken
  case isFalse lost =>
    obtain rfl := Option.some.inj taken
    exact .lostSlot (.inl taking) lost
  case isTrue mapped =>
    obtain ⟨slot, there, rfl⟩ := Option.map_eq_some_iff.mp taken
    cases pop_cases (s := s) r.gid r.slot slot with
    | inl empty =>
      rw [empty.2]
      exact .emptyMailbox taking there empty.1
    | inr some =>
      obtain ⟨envelope, rest, queue, popped⟩ := some
      rw [popped]
      exact .take (.inl taking) isFree mapped there queue

theorem completeAndTakeNext_runs {envelope : Envelope P A R} (completing : r.phase = .completing envelope)
    (isFree : s.locks (config.directory r.gid) = none)
    (taken : s.completeAndTakeNext i r envelope = some t) : Runs config s i r choice ok t := by
  unfold Runtime.completeAndTakeNext at taken
  split at taken
  case isFalse lost =>
    obtain rfl := Option.some.inj taken
    exact .lostSlot (.inr (.inl ⟨envelope, completing⟩)) lost
  case isTrue mapped =>
    obtain ⟨slot, there, rfl⟩ := Option.map_eq_some_iff.mp taken
    cases pop_cases (s := s) r.gid r.slot (slot.release envelope.retainedKib) with
    | inl empty =>
      rw [empty.2]
      exact .completeLast completing isFree mapped there empty.1
    | inr some =>
      obtain ⟨next, rest, queue, popped⟩ := some
      rw [popped]
      exact .completeNext completing isFree mapped there queue

theorem peek_runs (retiring : r.phase = .retiring) : Runs config s i r choice ok (s.peek i r) := by
  unfold Runtime.peek
  split
  case h_1 noPlayer =>
    apply Runs.peek retiring
    simp [noPlayer]
  case h_2 c player =>
    split
    case h_1 resident isResident =>
      split
      case isTrue same =>
        apply Runs.peek retiring
        simp [player, isResident, same]
      case isFalse differ => exact .differentGeneration retiring player isResident differ
    case h_2 absent => exact .peekNone retiring player absent

theorem retireOrTakeNext_runs (checking : r.phase = .checking)
    (isFree : s.locks (config.directory r.gid) = none)
    (taken : s.retireOrTakeNext config i r = some t) : Runs config s i r choice ok t := by
  unfold Runtime.retireOrTakeNext at taken
  split at taken
  case h_1 gone =>
    obtain rfl := Option.some.inj taken
    exact .slotDisappeared checking gone
  case h_2 m mapped =>
    split at taken
    case isFalse lost =>
      obtain rfl := Option.some.inj taken
      refine .lostSlot (.inr (.inr checking)) ?_
      simpa [mapped] using lost
    case isTrue same =>
      subst same
      obtain ⟨slot, there, rfl⟩ := Option.map_eq_some_iff.mp taken
      cases pop_cases (s := s) r.gid r.slot slot with
      | inr some =>
        obtain ⟨envelope, rest, queue, popped⟩ := some
        rw [popped]
        exact .take (.inr checking) isFree mapped there queue
      | inl empty =>
        rw [empty.2]
        dsimp only
        split
        · exact .retire checking isFree mapped there empty.1
        case isFalse inflight => exact .inflightAtRetirement checking there empty.1 inflight

theorem runs_of_run (taken : s.run config i r choice ok = some t) : Runs config s i r choice ok t := by
  unfold Runtime.run at taken
  dsimp only at taken
  split at taken
  case h_1 taking =>
    simp only [Option.ite_none_right_eq_some] at taken
    exact takeNext_runs taking taken.1 taken.2
  case h_2 envelope outcome finishing =>
    obtain rfl := Option.some.inj taken
    exact .finish finishing
  case h_3 envelope stage _ serving =>
    simp only [Runtime.serve, Option.map_eq_some_iff] at taken
    obtain ⟨⟨vault, player, next⟩, served, rfl⟩ := taken
    exact .serve serving served
  case h_4 envelope completing =>
    simp only [Option.ite_none_right_eq_some] at taken
    exact completeAndTakeNext_runs completing taken.1 taken.2
  case h_5 id next dropping =>
    obtain ⟨pool, dropped, rfl⟩ := Option.map_eq_some_iff.mp taken
    exact .drop dropping dropped
  case h_6 id next dropping =>
    obtain ⟨pool, dropped, rfl⟩ := Option.map_eq_some_iff.mp taken
    exact .dropKib dropping dropped
  case h_7 next notifying =>
    obtain rfl := Option.some.inj taken
    cases next with
    | some envelope => exact .notifyNext notifying
    | none => exact .notifyLast notifying
  case h_8 retiring =>
    obtain rfl := Option.some.inj taken
    exact peek_runs retiring
  case h_9 c inserting =>
    obtain rfl := Option.some.inj taken
    exact .insert inserting
  case h_10 checking =>
    simp only [Option.ite_none_right_eq_some] at taken
    exact retireOrTakeNext_runs checking taken.1 taken.2
  case h_11 leaving =>
    obtain rfl := Option.some.inj taken
    exact .leave leaving
  case h_12 => cases taken

/-- A step of a runner is a step of the runtime. -/
theorem Runs.sound (isRunner : s.runners[i]? = some r) (runs : Runs config s i r choice ok t) :
    Step config s t := by
  cases runs with
  | take either isFree mapped there queue => exact .take isRunner either isFree mapped there queue
  | serve serving served => exact .serve isRunner serving served
  | finish finishing => exact .finish isRunner finishing
  | completeNext completing isFree mapped there queue =>
    exact .completeNext isRunner completing isFree mapped there queue
  | completeLast completing isFree mapped there queue =>
    exact .completeLast isRunner completing isFree mapped there queue
  | drop dropping dropped => exact .drop isRunner dropping dropped
  | dropKib dropping dropped => exact .dropKib isRunner dropping dropped
  | notifyNext notifying => exact .notifyNext isRunner notifying
  | notifyLast notifying => exact .notifyLast isRunner notifying
  | peek retiring resident => exact .peek isRunner retiring resident
  | peekNone retiring player absent => exact .peekNone isRunner retiring player absent
  | insert inserting => exact .insert ok isRunner inserting
  | retire checking isFree mapped there queue => exact .retire isRunner checking isFree mapped there queue
  | leave leaving => exact .leave isRunner leaving
  | lostSlot either lost => exact .lostSlot isRunner either lost
  | slotDisappeared checking gone => exact .slotDisappeared isRunner checking gone
  | emptyMailbox taking there queue => exact .emptyMailbox isRunner taking there queue
  | inflightAtRetirement checking there queue inflight =>
    exact .inflightAtRetirement isRunner checking there queue inflight
  | differentGeneration retiring player isResident differ =>
    exact .differentGeneration isRunner retiring player isResident differ

/-! ## `shutdown` -/

theorem undrained_sound {j : Nat} {d : Shutdown E} (found : s.shutdowns[j]? = some d)
    {notified : Option Nat} (reading : d.phase = .inflight notified ∨ d.phase = .active notified) :
    Step config s (s.undrained j d notified) := by
  cases notified with
  | none => exact .shutMove found (.undrained ⟨_, reading⟩ (.inl rfl))
  | some notified => exact .shutMove found (.undrained ⟨_, reading⟩ (.inr ⟨notified, rfl⟩))

theorem shut_sound {j : Nat} {d : Shutdown E} {batches : List (List Nat)}
    (found : s.shutdowns[j]? = some d) (taken : s.shut j d batches = some t) : Step config s t := by
  unfold Runtime.shut at taken
  split at taken
  case h_1 start =>
    obtain rfl := Option.some.inj taken
    split
    case isTrue stopped => exact .shutMove found (.stopped start stopped)
    case isFalse running => exact .shutMove found (.begin start running)
  case h_2 closing =>
    obtain ⟨pool, closed, rfl⟩ := Option.map_eq_some_iff.mp taken
    exact .close found closing closed
  case h_3 exchanging =>
    obtain rfl := Option.some.inj taken
    exact .exchange found exchanging
  case h_4 notified reading =>
    obtain rfl := Option.some.inj taken
    split
    case isTrue zero => exact .shutMove found (.noCalls reading zero)
    case isFalse => exact undrained_sound found (.inl reading)
  case h_5 notified reading =>
    obtain rfl := Option.some.inj taken
    split
    case isTrue zero => exact .shutMove found (.drained reading zero)
    case isFalse => exact undrained_sound found (.inr reading)
  case h_6 subscribing =>
    obtain rfl := Option.some.inj taken
    exact .shutMove found (.subscribe subscribing)
  case h_7 notified waiting =>
    simp only [Option.ite_none_right_eq_some, Option.some.injEq] at taken
    obtain ⟨woken, rfl⟩ := taken
    exact .shutMove found (.wake waiting woken)
  case h_8 flush =>
    simp only [Runtime.flush, Option.ite_none_right_eq_some, Option.map_eq_some_iff] at taken
    obtain ⟨_, vault, started, rfl⟩ := taken
    exact .flush found flush started
  case h_9 savers flushing =>
    obtain ⟨result, isResult, rfl⟩ := Option.map_eq_some_iff.mp taken
    cases result with
    | ok value => exact .shutMove found (.flushed flushing isResult)
    | error error => exact .shutMove found (.flushFailed flushing isResult)
  case h_10 reading =>
    obtain rfl := Option.some.inj taken
    exact .shutMove found (.players reading)
  case h_11 players reading =>
    obtain rfl := Option.some.inj taken
    split
    case isTrue dirty => exact .shutMove found (.dirty reading dirty)
    case isFalse clean =>
      have zero : max players s.vault.dirtySlots = 0 := by simpa using clean
      exact .shutMove found (.clean reading (by omega) (by omega))
  case h_12 storing =>
    obtain rfl := Option.some.inj taken
    exact .store found storing
  case h_13 => cases taken

theorem step_sound {l : Label P A R E} (taken : s.step config l = some t) : Step config s t := by
  cases l with
  | tryUse gid retainedKib command =>
    simp only [Runtime.step, Runtime.tryUse, Option.map_eq_some_iff] at taken
    obtain ⟨pool, acquired, rfl⟩ := taken
    exact .tryUse acquired
  | lock i =>
    obtain ⟨e, found, taken⟩ := Option.bind_eq_some_iff.mp taken
    exact lock_sound found taken
  | acquire i spurious =>
    obtain ⟨e, found, taken⟩ := Option.bind_eq_some_iff.mp taken
    unfold Runtime.acquire at taken
    split at taken
    case h_1 m spawnRunner acquiring =>
      obtain ⟨pool, ticked, rfl⟩ := Option.map_eq_some_iff.mp taken
      exact .acquire found acquiring ticked
    case h_2 => cases taken
  | acquired i =>
    obtain ⟨e, found, taken⟩ := Option.bind_eq_some_iff.mp taken
    exact admit_sound found taken
  | count i =>
    obtain ⟨e, found, taken⟩ := Option.bind_eq_some_iff.mp taken
    unfold Runtime.count at taken
    split at taken
    case h_1 m counting =>
      obtain rfl := Option.some.inj taken
      exact .count found counting
    case h_2 => cases taken
  | spawn i =>
    obtain ⟨e, found, taken⟩ := Option.bind_eq_some_iff.mp taken
    unfold Runtime.spawn at taken
    split at taken
    case h_1 m spawning =>
      obtain rfl := Option.some.inj taken
      exact .spawn found spawning
    case h_2 => cases taken
  | run i choice ok =>
    obtain ⟨r, isRunner, taken⟩ := Option.bind_eq_some_iff.mp taken
    exact (runs_of_run taken).sound isRunner
  | startSaver entries evicts =>
    obtain ⟨vault, started, rfl⟩ := Option.map_eq_some_iff.mp taken
    exact .startSaver started
  | save k choice =>
    simp only [Runtime.step, Option.bind_eq_some_iff, Option.map_eq_some_iff] at taken
    obtain ⟨saver, isSaver, vault, saved, rfl⟩ := taken
    exact .save isSaver saved
  | evict gid =>
    simp only [Runtime.step, Vault.evict, Option.map_eq_some_iff, Option.bind_eq_some_iff,
      Option.ite_none_left_eq_some, Option.some.injEq] at taken
    obtain ⟨vault, ⟨c, resident, cell, found, clean, rfl⟩, rfl⟩ := taken
    exact .evict resident found (by simpa using clean)
  | evicted k gid =>
    simp only [Runtime.step, Vault.evicted, Option.map_eq_some_iff, Option.bind_eq_some_iff] at taken
    obtain ⟨vault, ⟨saver, isSaver, removed⟩, rfl⟩ := taken
    split at removed
    case h_1 done =>
      simp only [Option.ite_none_right_eq_some, Option.some.injEq] at removed
      obtain ⟨⟨evicts, among⟩, rfl⟩ := removed
      obtain ⟨c, resident, member⟩ := (Option.any_eq_true _ _).mp among
      exact .evicted isSaver done evicts resident (of_decide_eq_true member)
    case h_2 => cases removed
  | shutdown =>
    obtain rfl := Option.some.inj taken
    exact .shutdown
  | shut j batches =>
    obtain ⟨d, found, taken⟩ := Option.bind_eq_some_iff.mp taken
    exact shut_sound found taken

/-- What every step keeps holds in every reachable state. -/
theorem Step.inv {I : Runtime P A R E → Prop} {config : ValidConfig}
    {C : Runtime P A R E → Label P A R E → Prop} (initial : I (Runtime.initial config))
    (keeps : ∀ s t, I s → Step config.toLogicConfig s t → I t)
    (reached : (system P A R E config).Reach C s) : I s := by
  refine reached.inv ?_ ?_
  · intro s isInitial
    cases isInitial
    exact initial
  · intro s l t inv _ taken
    exact keeps s t inv (step_sound taken)

end Runtime

end Xkk.Logic

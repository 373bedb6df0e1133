import Xkk.Lib.FlaggedWord
import Xkk.Lib.Pool
import Xkk.Lib.Transition

/-! # Global admission of the Logic Runtime

`Admission` bounds the calls and the KiB that the whole runtime retains.  One
64-bit word packs the closed flag over the call count, a second word holds the
KiB.  `acquire` is a loop of single atomic operations, and so is the drop of a
`GlobalPermit`; here each atomic operation is one step, the local position of
an `acquire` between two of them is an `AcquirePhase`, and any number of
acquires, drops and `close` calls interleave.

* `Admission.acquireStep`, `dropCalls`, `dropKib`, `close`: the operations.
* `Accounted`: what the two words count, in every reachable state.
* `closed_run`: nothing is admitted after `close`.
-/

namespace Xkk.Logic

open Xkk.Lib
open Xkk.Lib.FlaggedWord (flagged count)

/-! ## Configuration -/

inductive RejectReason where
  | calls
  | kib
  | gid
  | draining
deriving DecidableEq, Repr

def ADMISSION_CLOSED : UInt64 := FlaggedWord.flagBit

def ADMISSION_COUNT_MASK : UInt64 := ADMISSION_CLOSED - 1

/-- `usize` fields are 64-bit words, `ttl` is a number of nanoseconds. -/
structure LogicConfig where
  residentCapacity : UInt64
  ttl : Nat
  shards : UInt64
  batchSaveCount : UInt64
  maxDirtyPlayers : UInt64
  maxInflightCalls : UInt64
  maxInflightKib : UInt64
  maxCallsPerGid : UInt64
  maxKibPerGid : UInt64
deriving DecidableEq, Repr

def isPowerOfTwo (n : UInt64) : Bool := n != 0 && n &&& (n - 1) == 0

namespace LogicConfig

def HARD_LIMITS : LogicConfig where
  residentCapacity := 100000
  ttl := 24 * 60 * 60 * 1000000000
  shards := 128
  batchSaveCount := 1000
  maxDirtyPlayers := 100000
  maxInflightCalls := 100000
  maxInflightKib := 256 * 1024
  maxCallsPerGid := 64
  maxKibPerGid := 1024

/-- The assertions of `validate`, in their order. -/
def validate (config : LogicConfig) : Bool :=
  config.residentCapacity > 0 && config.ttl > 0 && isPowerOfTwo config.shards
    && config.batchSaveCount > 0 && config.maxDirtyPlayers > 0
    && (config.maxInflightCalls > 0 && config.maxInflightCalls ≤ ADMISSION_COUNT_MASK)
    && config.maxInflightKib > 0 && config.maxCallsPerGid > 0 && config.maxKibPerGid > 0

end LogicConfig

/-- A configuration that `LogicRuntime::new` accepts. -/
structure ValidConfig extends LogicConfig where
  valid : toLogicConfig.validate = true

def ValidConfig.hardLimits : ValidConfig := ⟨LogicConfig.HARD_LIMITS, by decide⟩

theorem ValidConfig.maxInflightCalls_lt (config : ValidConfig) :
    config.maxInflightCalls.toNat < 2 ^ 63 := by
  have valid := config.valid
  simp only [LogicConfig.validate, Bool.and_eq_true, decide_eq_true_eq] at valid
  have mask : config.maxInflightCalls.toNat ≤ ADMISSION_COUNT_MASK.toNat :=
    UInt64.le_iff_toNat_le.mp valid.1.1.1.2.2
  have value : ADMISSION_COUNT_MASK.toNat = 2 ^ 63 - 1 := by decide
  omega

/-! ## The two words -/

structure Admission where
  calls : UInt64
  kib : UInt64
  maxCalls : UInt64
  maxKib : UInt64
deriving DecidableEq, Repr

/-- Where an `acquire` stands between two of its atomic operations. -/
inductive AcquirePhase where
  | start                          -- about to load `calls`
  | loaded (current : UInt64)      -- passed both tests, about to compare-exchange
  | won                            -- owns a call slot, about to load `kib`
  | kibLoaded (current : UInt64)   -- inside `fetch_update`
  | giveBack                       -- KiB refused, about to return the call slot
  | added                          -- KiB taken, about to read the high-water mark
  | permit                         -- returned a `GlobalPermit` that is alive
  | rejected (reason : RejectReason)
deriving DecidableEq, Repr

namespace Admission

def new (config : LogicConfig) : Admission where
  calls := 0
  kib := 0
  maxCalls := config.maxInflightCalls
  maxKib := config.maxInflightKib

/-- `checked_add(retained_kib).filter(|&next| next <= max_kib)` -/
def nextKib (a : Admission) (current retained : UInt64) : Option UInt64 :=
  if current.toNat + retained.toNat < 2 ^ 64 ∧ current + retained ≤ a.maxKib then
    some (current + retained)
  else none

/-- The effect of a compare-exchange from `calls` to `calls + 1` that succeeds. -/
def takeCalls (a : Admission) : Admission := { a with calls := a.calls + 1 }

/-- One atomic operation of `acquire`.  `spurious` is the failure that a weak
    compare-exchange is allowed to report although the values agree. -/
def acquireStep (a : Admission) (retained : UInt64) (spurious : Bool) :
    AcquirePhase → Option (Admission × AcquirePhase)
  | .start =>
    if a.calls &&& ADMISSION_CLOSED != 0 then some (a, .rejected .draining)
    else if a.calls ≥ a.maxCalls then some (a, .rejected .calls)
    else some (a, .loaded a.calls)
  | .loaded current =>
    if a.calls = current ∧ spurious = false then some (a.takeCalls, .won)
    else some (a, .start)
  | .won => some (a, .kibLoaded a.kib)
  | .kibLoaded current =>
    match a.nextKib current retained with
    | none => some (a, .giveBack)
    | some next =>
      if a.kib = current ∧ spurious = false then some ({ a with kib := next }, .added)
      else some (a, .kibLoaded a.kib)
  | .giveBack => some ({ a with calls := a.calls - 1 }, .rejected .kib)
  | .added => some (a, .permit)
  | .permit => none
  | .rejected _ => none

/-- The first operation of `GlobalPermit::drop`. -/
def dropCalls (a : Admission) : Admission := { a with calls := a.calls - 1 }

/-- The second operation of `GlobalPermit::drop`. -/
def dropKib (a : Admission) (retained : UInt64) : Admission := { a with kib := a.kib - retained }

def close (a : Admission) : Admission := { a with calls := a.calls ||| ADMISSION_CLOSED }

def inflightCalls (a : Admission) : UInt64 := a.calls &&& ADMISSION_COUNT_MASK

/-- The closed bit of `calls`. -/
def closed (a : Admission) : Bool := flagged a.calls

/-- The low 63 bits of `calls`. -/
def inflight (a : Admission) : Nat := count a.calls

theorem inflightCalls_toNat (a : Admission) : a.inflightCalls.toNat = a.inflight := rfl

end Admission

namespace AcquirePhase

/-- The call slots an `acquire` in this phase owns: it has won its
    compare-exchange and not given the slot back. -/
def slots : AcquirePhase → Nat
  | .won | .kibLoaded _ | .giveBack | .added | .permit => 1
  | .start | .loaded _ | .rejected _ => 0

/-- Whether the KiB of this `acquire` are part of `kib`. -/
def holdsKib : AcquirePhase → Bool
  | .added | .permit => true
  | _ => false

/-- What a value read from `calls` is known to satisfy once it passed the two
    tests of the loop. -/
def Passed (maxCalls : UInt64) : AcquirePhase → Prop
  | .loaded current => flagged current = false ∧ count current < maxCalls.toNat
  | _ => True

end AcquirePhase

/-! ## What one operation does

Each case of `acquireStep` either leaves both words alone, or takes a call
slot, or returns one, or takes the KiB. -/

namespace Admission

variable {a b : Admission} {retained : UInt64} {spurious : Bool} {phase next : AcquirePhase}

theorem nextKib_eq_some {current kib : UInt64} (h : a.nextKib current retained = some kib) :
    kib.toNat = current.toNat + retained.toNat ∧ kib.toNat ≤ a.maxKib.toNat := by
  simp only [nextKib] at h
  split at h
  next room =>
    cases h
    refine ⟨?_, UInt64.le_iff_toNat_le.mp room.2⟩
    rw [UInt64.toNat_add, Nat.mod_eq_of_lt room.1]
  next => cases h

/-- What one atomic operation of `acquire` can do. -/
theorem acquireStep_cases (h : a.acquireStep retained spurious phase = some (b, next)) :
    (b = a ∧ next.slots = phase.slots ∧ next.holdsKib = phase.holdsKib
      ∧ (∀ current, next = .loaded current →
          current = a.calls ∧ a.closed = false ∧ a.calls < a.maxCalls))
    ∨ (phase = .loaded a.calls ∧ next = .won ∧ b = a.takeCalls)
    ∨ (phase = .giveBack ∧ next = .rejected .kib ∧ b = a.dropCalls)
    ∨ (∃ kib, phase = .kibLoaded a.kib ∧ next = .added ∧ a.nextKib a.kib retained = some kib
      ∧ b = { a with kib := kib }) := by
  cases phase with
  | start =>
    simp only [acquireStep] at h
    split at h
    next => cases h; exact .inl ⟨rfl, rfl, rfl, by simp⟩
    next clear =>
      split at h
      next => cases h; exact .inl ⟨rfl, rfl, rfl, by simp⟩
      next room =>
        cases h
        refine .inl ⟨rfl, rfl, rfl, ?_⟩
        intro current same
        cases same
        exact ⟨rfl, by simpa [closed, flagged, ADMISSION_CLOSED] using clear,
          UInt64.not_le.mp room⟩
  | loaded current =>
    simp only [acquireStep] at h
    split at h
    next same =>
      obtain ⟨rfl, _⟩ := same
      cases h
      exact .inr (.inl ⟨rfl, rfl, rfl⟩)
    next => cases h; exact .inl ⟨rfl, rfl, rfl, by simp⟩
  | won => cases h; exact .inl ⟨rfl, rfl, rfl, by simp⟩
  | kibLoaded current =>
    simp only [acquireStep] at h
    cases kib : a.nextKib current retained with
    | none => simp only [kib] at h; cases h; exact .inl ⟨rfl, rfl, rfl, by simp⟩
    | some value =>
      simp only [kib] at h
      split at h
      next same =>
        obtain ⟨rfl, _⟩ := same
        cases h
        exact .inr (.inr (.inr ⟨value, rfl, rfl, kib, rfl⟩))
      next => cases h; exact .inl ⟨rfl, rfl, rfl, by simp⟩
  | giveBack => cases h; exact .inr (.inr (.inl ⟨rfl, rfl, rfl⟩))
  | added => cases h; exact .inl ⟨rfl, rfl, rfl, by simp⟩
  | permit => cases h
  | rejected reason => cases h

/-- Winning the compare-exchange counts one more call and is impossible once
    the word is closed. -/
theorem takeCalls_spec (small : a.maxCalls.toNat < 2 ^ 63)
    (passed : AcquirePhase.Passed a.maxCalls (.loaded a.calls)) :
    a.closed = false ∧ a.takeCalls.closed = false ∧ a.takeCalls.inflight = a.inflight + 1
      ∧ a.takeCalls.inflight ≤ a.maxCalls.toNat := by
  obtain ⟨clear, room⟩ := passed
  obtain ⟨stillClear, counted⟩ := FlaggedWord.add_one clear (by omega)
  exact ⟨clear, stillClear, counted, by change count (a.calls + 1) ≤ _; omega⟩

theorem dropCalls_spec (positive : 0 < a.inflight) :
    a.dropCalls.closed = a.closed ∧ a.dropCalls.inflight + 1 = a.inflight := by
  obtain ⟨flag, counted⟩ := FlaggedWord.sub_one positive
  refine ⟨flag, ?_⟩
  change count (a.calls - 1) + 1 = count a.calls
  change 0 < count a.calls at positive
  omega

theorem close_spec (a : Admission) : a.close.closed = true ∧ a.close.inflight = a.inflight :=
  FlaggedWord.or_flagBit a.calls

end Admission

/-! ## Interleaved acquires, drops and closes -/

namespace AdmissionPool

inductive HolderPhase where
  | acquiring (phase : AcquirePhase)
  | dropping      -- `calls` returned, `kib` not yet
  | dropped
deriving DecidableEq, Repr

/-- One `acquire` call and the permit it returned. -/
structure Holder where
  retained : UInt64
  phase : HolderPhase
deriving DecidableEq, Repr

structure State where
  admission : Admission
  holders : List Holder
deriving DecidableEq, Repr

inductive Label where
  | acquire (retained : UInt64)
  | tick (i : Nat) (spurious : Bool)
  | drop (i : Nat)
  | close
deriving DecidableEq, Repr

def initial (config : ValidConfig) : State :=
  { admission := .new config.toLogicConfig, holders := [] }

/-- The next atomic operation of the holder `i`, if it has one. -/
def tick (s : State) (i : Nat) (spurious : Bool) : Option State :=
  match s.holders[i]? with
  | none => none
  | some holder =>
    match holder.phase with
    | .acquiring phase =>
      (s.admission.acquireStep holder.retained spurious phase).map fun (admission, next) =>
        { admission := admission, holders := s.holders.set i { holder with phase := .acquiring next } }
    | .dropping =>
      some { admission := s.admission.dropKib holder.retained
             holders := s.holders.set i { holder with phase := .dropped } }
    | .dropped => none

/-- A live permit goes out of scope. -/
def drop (s : State) (i : Nat) : Option State :=
  match s.holders[i]? with
  | some ⟨retained, .acquiring .permit⟩ =>
    some { admission := s.admission.dropCalls, holders := s.holders.set i ⟨retained, .dropping⟩ }
  | _ => none

def step (s : State) : Label → Option State
  | .acquire retained => some { s with holders := s.holders ++ [⟨retained, .acquiring .start⟩] }
  | .tick i spurious => tick s i spurious
  | .drop i => drop s i
  | .close => some { s with admission := s.admission.close }

def system (config : ValidConfig) : System State Label :=
  .ofFun (· = initial config) step

namespace Holder

def slots (h : Holder) : Nat :=
  match h.phase with
  | .acquiring phase => phase.slots
  | _ => 0

def live (h : Holder) : Bool := h.phase = .acquiring .permit

/-- An acquire that owns a call slot and has neither returned its permit nor
    given the slot back. -/
def pending (h : Holder) : Bool :=
  match h.phase with
  | .acquiring .won | .acquiring (.kibLoaded _) | .acquiring .giveBack | .acquiring .added => true
  | _ => false

/-- The KiB of this holder that are part of the word `kib`. -/
def countedKib (h : Holder) : Nat :=
  match h.phase with
  | .acquiring phase => if phase.holdsKib then h.retained.toNat else 0
  | .dropping => h.retained.toNat
  | .dropped => 0

def liveKib (h : Holder) : Nat := if h.live then h.retained.toNat else 0

theorem slots_eq (h : Holder) :
    h.slots = (if h.live then 1 else 0) + (if h.pending then 1 else 0) := by
  obtain ⟨retained, phase⟩ := h
  cases phase with
  | acquiring phase => cases phase <;> rfl
  | dropping | dropped => rfl

theorem liveKib_le (h : Holder) : h.liveKib ≤ h.countedKib := by
  obtain ⟨retained, phase⟩ := h
  cases phase with
  | acquiring phase => cases phase <;> simp [liveKib, live, countedKib, AcquirePhase.holdsKib]
  | dropping | dropped => simp [liveKib, live]

end Holder

/-- The number of live permits. -/
def livePermits (s : State) : Nat := s.holders.countP Holder.live

/-- The number of acquires between their compare-exchange and their return. -/
def pendingAcquires (s : State) : Nat := s.holders.countP Holder.pending

theorem total_slots (holders : List Holder) :
    Pool.total Holder.slots holders = holders.countP Holder.live + holders.countP Holder.pending := by
  induction holders with
  | nil => rfl
  | cons head tail ih =>
    simp only [Pool.total_cons, List.countP_cons, ih, Holder.slots_eq]
    omega

/-- What the two words count.  `passed` carries the value read by an acquire
    over the gap between its load and its compare-exchange. -/
structure Accounted (config : ValidConfig) (s : State) : Prop where
  maxCalls : s.admission.maxCalls = config.maxInflightCalls
  maxKib : s.admission.maxKib = config.maxInflightKib
  calls : s.admission.inflight = Pool.total Holder.slots s.holders
  callsLe : s.admission.inflight ≤ config.maxInflightCalls.toNat
  kib : s.admission.kib.toNat = Pool.total Holder.countedKib s.holders
  kibLe : s.admission.kib.toNat ≤ config.maxInflightKib.toNat
  passed : ∀ (i : Nat) h phase, s.holders[i]? = some h → h.phase = .acquiring phase →
    phase.Passed config.maxInflightCalls

theorem accounted_initial (config : ValidConfig) : Accounted config (initial config) where
  maxCalls := rfl
  maxKib := rfl
  calls := by
    change count 0 = 0
    simp
  callsLe := by
    change count 0 ≤ _
    simp
  kib := rfl
  kibLe := Nat.zero_le _
  passed := by intro i h phase found; simp [initial] at found

theorem accounted_acquiring {config : ValidConfig} {s : State} (inv : Accounted config s)
    {i : Nat} {h : Holder} {phase next : AcquirePhase} {spurious : Bool} {admission : Admission}
    (found : s.holders[i]? = some h) (acquiring : h.phase = .acquiring phase)
    (taken : s.admission.acquireStep h.retained spurious phase = some (admission, next)) :
    Accounted config
      { admission := admission, holders := s.holders.set i { h with phase := .acquiring next } } := by
  have small := config.maxInflightCalls_lt
  have slotsMove := Pool.total_set Holder.slots { h with phase := .acquiring next } found
  have kibMove := Pool.total_set Holder.countedKib { h with phase := .acquiring next } found
  have hslots : h.slots = phase.slots := by simp [Holder.slots, acquiring]
  have hkib : h.countedKib = if phase.holdsKib then h.retained.toNat else 0 := by
    simp [Holder.countedKib, acquiring]
  simp only [hslots, hkib] at slotsMove kibMove
  have others : ∀ p : AcquirePhase, p.Passed config.maxInflightCalls →
      ∀ (j : Nat) k phase', (s.holders.set i { h with phase := .acquiring p })[j]? = some k →
        k.phase = .acquiring phase' → phase'.Passed config.maxInflightCalls := by
    intro p hp j k phase' foundj acquiringj
    rcases Pool.get_set_cases foundj with ⟨rfl, rfl⟩ | ⟨_, old⟩
    · cases acquiringj; exact hp
    · exact inv.passed j k phase' old acquiringj
  have calls := inv.calls
  have kib := inv.kib
  rcases Admission.acquireStep_cases taken with
    ⟨rfl, sameSlots, sameKib, loads⟩ | ⟨rfl, rfl, rfl⟩ | ⟨rfl, rfl, rfl⟩ |
      ⟨kib', rfl, rfl, room, rfl⟩
  · -- neither word moves; only a load that passed both tests is worth remembering
    simp only [Holder.slots, Holder.countedKib, sameSlots, sameKib] at slotsMove kibMove
    refine ⟨inv.maxCalls, inv.maxKib, by dsimp only; omega, inv.callsLe, by dsimp only; omega,
      inv.kibLe, others next ?_⟩
    cases next with
    | loaded current =>
      obtain ⟨rfl, clear, room⟩ := loads current rfl
      refine ⟨clear, ?_⟩
      have value := FlaggedWord.toNat_eq s.admission.calls
      have unflagged : flagged s.admission.calls = false := clear
      have lt := UInt64.lt_iff_toNat_lt.mp room
      rw [inv.maxCalls] at lt
      simp only [unflagged, Bool.false_eq_true, if_false] at value
      omega
    | _ => trivial
  · -- the compare-exchange succeeds: one more slot
    have passed := inv.passed i h _ found acquiring
    rw [← inv.maxCalls] at small passed
    obtain ⟨_, _, counted, room⟩ := Admission.takeCalls_spec small passed
    simp only [Holder.slots, Holder.countedKib, AcquirePhase.slots, AcquirePhase.holdsKib,
      Bool.false_eq_true, if_false] at slotsMove kibMove
    refine ⟨inv.maxCalls, inv.maxKib, by dsimp only; omega, ?_, ?_, inv.kibLe,
      others .won trivial⟩
    · rw [← inv.maxCalls]
      exact room
    · change s.admission.kib.toNat = _
      dsimp only
      omega
  · -- the slot is given back after the KiB were refused
    have positive : 0 < s.admission.inflight := by
      have weight := Pool.weight_le_total Holder.slots found
      simp only [hslots, AcquirePhase.slots] at weight
      omega
    obtain ⟨_, counted⟩ := Admission.dropCalls_spec positive
    simp only [Holder.slots, Holder.countedKib, AcquirePhase.slots, AcquirePhase.holdsKib,
      Bool.false_eq_true, if_false] at slotsMove kibMove
    refine ⟨inv.maxCalls, inv.maxKib, by dsimp only; omega, ?_, ?_, inv.kibLe,
      others (.rejected .kib) trivial⟩
    · have := inv.callsLe
      dsimp only
      omega
    · change s.admission.kib.toNat = _
      dsimp only
      omega
  · -- the KiB are added
    obtain ⟨value, bound⟩ := Admission.nextKib_eq_some room
    simp only [Holder.slots, Holder.countedKib, AcquirePhase.slots, AcquirePhase.holdsKib,
      Bool.false_eq_true, if_false, if_true] at slotsMove kibMove
    refine ⟨inv.maxCalls, inv.maxKib, ?_, inv.callsLe, by dsimp only; omega,
      by rw [inv.maxKib] at bound; exact bound, others .added trivial⟩
    change s.admission.inflight = _
    dsimp only
    omega

theorem accounted_dropping {config : ValidConfig} {s : State} (inv : Accounted config s)
    {i : Nat} {h : Holder} (found : s.holders[i]? = some h) (dropping : h.phase = .dropping) :
    h.retained.toNat ≤ s.admission.kib.toNat ∧
    Accounted config { admission := s.admission.dropKib h.retained
                       holders := s.holders.set i { h with phase := .dropped } } := by
  have slotsMove := Pool.total_set Holder.slots { h with phase := .dropped } found
  have kibMove := Pool.total_set Holder.countedKib { h with phase := .dropped } found
  simp only [Holder.slots, Holder.countedKib, dropping] at slotsMove kibMove
  have enough : h.retained.toNat ≤ s.admission.kib.toNat := by
    rw [inv.kib]
    have weight := Pool.weight_le_total Holder.countedKib found
    simpa [Holder.countedKib, dropping] using weight
  have value : (s.admission.dropKib h.retained).kib.toNat =
      s.admission.kib.toNat - h.retained.toNat :=
    UInt64.toNat_sub_of_le _ _ (UInt64.le_iff_toNat_le.mpr enough)
  have kib := inv.kib
  refine ⟨enough, inv.maxCalls, inv.maxKib, ?_, inv.callsLe, by dsimp only; omega, ?_, ?_⟩
  · have calls := inv.calls
    change s.admission.inflight = _
    dsimp only
    omega
  · have := inv.kibLe
    dsimp only
    omega
  · intro j k phase foundj acquiring
    rcases Pool.get_set_cases foundj with ⟨rfl, rfl⟩ | ⟨_, old⟩
    · cases acquiring
    · exact inv.passed j k phase old acquiring

theorem accounted_drop {config : ValidConfig} {s : State} (inv : Accounted config s)
    {i : Nat} {retained : UInt64} (found : s.holders[i]? = some ⟨retained, .acquiring .permit⟩) :
    0 < s.admission.inflight ∧
    Accounted config { admission := s.admission.dropCalls
                       holders := s.holders.set i ⟨retained, .dropping⟩ } := by
  have slotsMove := Pool.total_set Holder.slots ⟨retained, .dropping⟩ found
  have kibMove := Pool.total_set Holder.countedKib ⟨retained, .dropping⟩ found
  simp only [Holder.slots, Holder.countedKib, AcquirePhase.slots, AcquirePhase.holdsKib,
    if_true] at slotsMove kibMove
  have positive : 0 < s.admission.inflight := by
    rw [inv.calls]
    have weight := Pool.weight_le_total Holder.slots found
    simp only [Holder.slots, AcquirePhase.slots] at weight
    omega
  obtain ⟨_, counted⟩ := Admission.dropCalls_spec positive
  have calls := inv.calls
  refine ⟨positive, inv.maxCalls, inv.maxKib, by dsimp only; omega, ?_, ?_, inv.kibLe, ?_⟩
  · have := inv.callsLe
    dsimp only
    omega
  · have kib := inv.kib
    change s.admission.kib.toNat = _
    dsimp only
    omega
  · intro j k phase foundj acquiring
    rcases Pool.get_set_cases foundj with ⟨rfl, rfl⟩ | ⟨_, old⟩
    · cases acquiring
    · exact inv.passed j k phase old acquiring

/-! ## Inversion of the steps -/

/-- What a step of the pool can be. -/
theorem step_cases {s t : State} {l : Label} (taken : step s l = some t) :
    (∃ retained, l = .acquire retained ∧
      t = { s with holders := s.holders ++ [⟨retained, .acquiring .start⟩] })
    ∨ (∃ i spurious h phase admission next, l = .tick i spurious ∧ s.holders[i]? = some h
      ∧ h.phase = .acquiring phase
      ∧ s.admission.acquireStep h.retained spurious phase = some (admission, next)
      ∧ t = { admission := admission
              holders := s.holders.set i { h with phase := .acquiring next } })
    ∨ (∃ i spurious h, l = .tick i spurious ∧ s.holders[i]? = some h ∧ h.phase = .dropping
      ∧ t = { admission := s.admission.dropKib h.retained
              holders := s.holders.set i { h with phase := .dropped } })
    ∨ (∃ i retained, l = .drop i ∧ s.holders[i]? = some ⟨retained, .acquiring .permit⟩
      ∧ t = { admission := s.admission.dropCalls, holders := s.holders.set i ⟨retained, .dropping⟩ })
    ∨ (l = .close ∧ t = { s with admission := s.admission.close }) := by
  cases l with
  | acquire retained => cases taken; exact .inl ⟨retained, rfl, rfl⟩
  | tick i spurious =>
    simp only [step, tick] at taken
    split at taken
    next => cases taken
    next h found =>
      split at taken
      next phase acquiring =>
        simp only [Option.map_eq_some_iff] at taken
        obtain ⟨⟨admission, next⟩, acquired, rfl⟩ := taken
        exact .inr (.inl ⟨i, spurious, h, phase, admission, next, rfl, found, acquiring, acquired, rfl⟩)
      next dropping =>
        cases taken
        exact .inr (.inr (.inl ⟨i, spurious, h, rfl, found, dropping, rfl⟩))
      next => cases taken
  | drop i =>
    simp only [step, drop] at taken
    split at taken
    next retained found =>
      cases taken
      exact .inr (.inr (.inr (.inl ⟨i, retained, rfl, found, rfl⟩)))
    next => cases taken
  | close => cases taken; exact .inr (.inr (.inr (.inr ⟨rfl, rfl⟩)))

/-- A live permit stays until it is dropped. -/
theorem permit_kept {s t : State} {l : Label} {i : Nat} {h : Holder} (taken : step s l = some t)
    (found : s.holders[i]? = some h) (live : h.phase = .acquiring .permit) (kept : l ≠ .drop i) :
    t.holders[i]? = some h := by
  obtain ⟨retained, _, rfl⟩ | ⟨j, spurious, h', phase, admission, next, _, found', acquiring, acquired, rfl⟩
    | ⟨j, spurious, h', _, found', dropping, rfl⟩ | ⟨j, retained, isDrop, found', rfl⟩ | ⟨_, rfl⟩ :=
    step_cases taken
  · exact Pool.get_append_of_some _ found
  · rw [Pool.get_set_ne]
    · exact found
    · intro same
      subst same
      rw [found] at found'
      obtain rfl := Option.some.inj found'
      rw [live] at acquiring
      cases acquiring
      cases acquired
  · rw [Pool.get_set_ne]
    · exact found
    · intro same
      subst same
      rw [found] at found'
      obtain rfl := Option.some.inj found'
      rw [live] at dropping
      cases dropping
  · rw [Pool.get_set_ne]
    · exact found
    · intro same
      exact kept (by rw [isDrop, same])
  · exact found

/-- One operation of a holder moves that holder only, and a live permit has no operation. -/
theorem tick_apart {s t : State} {i : Nat} {spurious : Bool} (taken : step s (.tick i spurious) = some t) :
    (∀ j, i ≠ j → t.holders[j]? = s.holders[j]?)
    ∧ (s.holders[i]?).map Holder.phase ≠ some (.acquiring .permit) := by
  obtain ⟨_, isAcquire, _⟩ | ⟨j, _, h, phase, admission, next, isTick, found, acquiring, acquired, rfl⟩
    | ⟨j, _, h, isTick, found, dropping, rfl⟩ | ⟨_, _, isDrop, _⟩ | ⟨isClose, _⟩ := step_cases taken
  · cases isAcquire
  · cases isTick
    refine ⟨fun j differ => Pool.get_set_ne _ differ, ?_⟩
    rw [found, Option.map_some, acquiring]
    intro live
    cases live
    cases acquired
  · cases isTick
    refine ⟨fun j differ => Pool.get_set_ne _ differ, ?_⟩
    rw [found, Option.map_some, dropping]
    intro live
    cases live
  · cases isDrop
  · cases isClose

theorem accounted_step {config : ValidConfig} {s t : State} {l : Label} (inv : Accounted config s)
    (taken : step s l = some t) : Accounted config t := by
  rcases step_cases taken with
    ⟨retained, rfl, rfl⟩ | ⟨i, spurious, h, phase, admission, next, rfl, found, acquiring, acquired, rfl⟩ |
      ⟨i, spurious, h, rfl, found, dropping, rfl⟩ | ⟨i, retained, rfl, found, rfl⟩ | ⟨rfl, rfl⟩
  · refine ⟨inv.maxCalls, inv.maxKib, ?_, inv.callsLe, ?_, inv.kibLe, ?_⟩
    · simp [inv.calls, Holder.slots, AcquirePhase.slots]
    · simp [inv.kib, Holder.countedKib, AcquirePhase.holdsKib]
    · intro j k phase found acquiring
      rcases Pool.get_append_cases found with ⟨_, rfl⟩ | ⟨_, old⟩
      · cases acquiring; trivial
      · exact inv.passed j k phase old acquiring
  · exact accounted_acquiring inv found acquiring acquired
  · exact (accounted_dropping inv found dropping).2
  · exact (accounted_drop inv found).2
  · obtain ⟨_, counted⟩ := s.admission.close_spec
    refine ⟨inv.maxCalls, inv.maxKib, ?_, ?_, inv.kib, inv.kibLe, inv.passed⟩
    · exact counted.trans inv.calls
    · exact counted ▸ inv.callsLe

theorem accounted_reach {config : ValidConfig} {s : State}
    (reached : (system config).Reach System.Any s) : Accounted config s := by
  apply reached.inv (I := Accounted config)
  · rintro _ rfl
    exact accounted_initial config
  · intro _ _ _ inv _ taken
    exact accounted_step inv taken

/-! ## After `close` -/

/-- The holder `i` exists and has won its compare-exchange, now or earlier. -/
def hasWon (s : State) (i : Nat) : Bool :=
  match s.holders[i]? with
  | some ⟨_, .acquiring phase⟩ => phase.slots = 1
  | some _ => true
  | none => false

/-- A closed word stays closed, its count never grows, and whoever has not won
    a slot yet never wins one. -/
theorem closed_step {config : ValidConfig} {s t : State} {l : Label} (inv : Accounted config s)
    (isClosed : s.admission.closed = true) (taken : step s l = some t) :
    t.admission.closed = true ∧ t.admission.inflight ≤ s.admission.inflight
      ∧ ∀ i, hasWon t i = true → hasWon s i = true := by
  rcases step_cases taken with
    ⟨retained, rfl, rfl⟩ | ⟨i, spurious, h, phase, admission, next, rfl, found, acquiring, acquired, rfl⟩ |
      ⟨i, spurious, h, rfl, found, dropping, rfl⟩ | ⟨i, retained, rfl, found, rfl⟩ | ⟨rfl, rfl⟩
  · refine ⟨isClosed, Nat.le_refl _, ?_⟩
    intro j won
    simp only [hasWon] at won ⊢
    cases found : (s.holders ++ [(⟨retained, .acquiring .start⟩ : Holder)])[j]? with
    | none => simp [found] at won
    | some k =>
      rcases Pool.get_append_cases found with ⟨_, rfl⟩ | ⟨_, old⟩
      · simp [found, AcquirePhase.slots] at won
      · rw [found] at won
        rwa [old]
  · have sameOthers : ∀ p, p.slots = phase.slots →
        ∀ j, hasWon { admission := admission, holders :=
          s.holders.set i { h with phase := .acquiring p } } j = true → hasWon s j = true := by
      intro p same j won
      simp only [hasWon] at won ⊢
      by_cases atI : i = j
      · subst atI
        obtain ⟨retained, hphase⟩ := h
        cases acquiring
        rw [Pool.get_set_self _ found] at won
        rw [found]
        simp only [same] at won
        exact won
      · rwa [Pool.get_set_ne _ atI] at won
    rcases Admission.acquireStep_cases acquired with
      ⟨rfl, sameSlots, _, _⟩ | ⟨rfl, rfl, rfl⟩ | ⟨rfl, rfl, rfl⟩ | ⟨kib, rfl, rfl, _, rfl⟩
    · exact ⟨isClosed, Nat.le_refl _, sameOthers next sameSlots⟩
    · -- the value that the loser read had the flag clear, so the exchange cannot succeed now
      have passed := inv.passed i h _ found acquiring
      have clear : s.admission.closed = false := passed.1
      rw [clear] at isClosed
      cases isClosed
    · have positive : 0 < s.admission.inflight := by
        rw [inv.calls]
        have weight := Pool.weight_le_total Holder.slots found
        simp only [Holder.slots, acquiring, AcquirePhase.slots] at weight
        omega
      obtain ⟨flag, counted⟩ := Admission.dropCalls_spec positive
      refine ⟨flag.trans isClosed, by dsimp only; omega, ?_⟩
      intro j won
      simp only [hasWon] at won ⊢
      by_cases atI : i = j
      · subst atI
        rw [Pool.get_set_self _ found] at won
        simp [AcquirePhase.slots] at won
      · rwa [Pool.get_set_ne _ atI] at won
    · exact ⟨isClosed, Nat.le_refl _, sameOthers .added rfl⟩
  · refine ⟨isClosed, Nat.le_refl _, ?_⟩
    intro j won
    simp only [hasWon] at won ⊢
    by_cases atI : i = j
    · subst atI
      obtain ⟨retained, hphase⟩ := h
      cases dropping
      rw [found]
    · rwa [Pool.get_set_ne _ atI] at won
  · obtain ⟨positive, _⟩ := accounted_drop inv found
    obtain ⟨flag, counted⟩ := Admission.dropCalls_spec positive
    refine ⟨flag.trans isClosed, by dsimp only; omega, ?_⟩
    intro j won
    simp only [hasWon] at won ⊢
    by_cases atI : i = j
    · subst atI
      rw [found]
      rfl
    · rwa [Pool.get_set_ne _ atI] at won
  · obtain ⟨flag, counted⟩ := s.admission.close_spec
    exact ⟨flag, Nat.le_of_eq counted, fun _ won => won⟩

theorem closed_run {config : ValidConfig} {s t : State} (reached : (system config).Reach System.Any s)
    (isClosed : s.admission.closed = true) (run : (system config).Run System.Any s t) :
    t.admission.closed = true ∧ t.admission.inflight ≤ s.admission.inflight
      ∧ ∀ i, hasWon t i = true → hasWon s i = true := by
  refine System.Run.inv_with (J := Accounted config)
    (I := fun t => t.admission.closed = true ∧ t.admission.inflight ≤ s.admission.inflight
      ∧ ∀ i, hasWon t i = true → hasWon s i = true)
    (fun _ => accounted_reach) ?_ reached run ⟨isClosed, Nat.le_refl _, fun _ won => won⟩
  intro u l v inv ⟨closedU, countU, wonU⟩ _ taken
  obtain ⟨closedV, countV, wonV⟩ := closed_step inv closedU taken
  exact ⟨closedV, Nat.le_trans countV countU, fun i won => wonU i (wonV i won)⟩

/-! ## The main result -/

/-- The step executes `calls.fetch_sub(1)`. -/
def subtractsCall (s : State) : Label → Bool
  | .drop _ => true
  | .tick i _ => s.holders[i]?.any (·.phase = .acquiring .giveBack)
  | _ => false

/-- The step executes `kib.fetch_sub` with the amount that is returned. -/
def subtractsKib (s : State) : Label → Option UInt64
  | .tick i _ => (s.holders[i]?.filter (·.phase = .dropping)).map Holder.retained
  | _ => none

theorem subtractsCall_exact {config : ValidConfig} {s t : State} {l : Label}
    (inv : Accounted config s) (taken : step s l = some t) (subtracts : subtractsCall s l = true) :
    0 < s.admission.inflight ∧ t.admission.closed = s.admission.closed
      ∧ t.admission.inflight + 1 = s.admission.inflight := by
  rcases step_cases taken with
    ⟨retained, rfl, rfl⟩ | ⟨i, spurious, h, phase, admission, next, rfl, found, acquiring, acquired, rfl⟩ |
      ⟨i, spurious, h, rfl, found, dropping, rfl⟩ | ⟨i, retained, rfl, found, rfl⟩ | ⟨rfl, rfl⟩
  · cases subtracts
  · simp only [subtractsCall, found, Option.any_some, acquiring, HolderPhase.acquiring.injEq,
      decide_eq_true_eq] at subtracts
    subst subtracts
    have positive : 0 < s.admission.inflight := by
      rw [inv.calls]
      have weight := Pool.weight_le_total Holder.slots found
      simp only [Holder.slots, acquiring, AcquirePhase.slots] at weight
      omega
    cases acquired
    exact ⟨positive, Admission.dropCalls_spec positive⟩
  · simp [subtractsCall, found, dropping] at subtracts
  · obtain ⟨positive, _⟩ := accounted_drop inv found
    exact ⟨positive, Admission.dropCalls_spec positive⟩
  · cases subtracts

theorem subtractsKib_exact {config : ValidConfig} {s t : State} {l : Label} {amount : UInt64}
    (inv : Accounted config s) (taken : step s l = some t) (subtracts : subtractsKib s l = some amount) :
    t.admission.kib.toNat + amount.toNat = s.admission.kib.toNat := by
  rcases step_cases taken with
    ⟨retained, rfl, rfl⟩ | ⟨i, spurious, h, phase, admission, next, rfl, found, acquiring, acquired, rfl⟩ |
      ⟨i, spurious, h, rfl, found, dropping, rfl⟩ | ⟨i, retained, rfl, found, rfl⟩ | ⟨rfl, rfl⟩
  · cases subtracts
  · simp [subtractsKib, found, acquiring] at subtracts
  · simp only [subtractsKib, found, Option.filter_some, dropping, decide_true, if_true,
      Option.map_some, Option.some.injEq] at subtracts
    subst subtracts
    obtain ⟨enough, _⟩ := accounted_dropping inv found dropping
    have value : (s.admission.dropKib h.retained).kib.toNat =
        s.admission.kib.toNat - h.retained.toNat :=
      UInt64.toNat_sub_of_le _ _ (UInt64.le_iff_toNat_le.mpr enough)
    dsimp only
    omega
  · cases subtracts
  · cases subtracts

/-- Global admission over every interleaving of single atomic operations: the
    two words count exactly what is retained and stay within their bounds, no
    subtraction borrows, and `close` is final. -/
theorem admission_is_exact_and_bounded {config : ValidConfig} {s : State}
    (reached : (system config).Reach System.Any s) :
    s.admission.inflight ≤ config.maxInflightCalls.toNat
    ∧ s.admission.inflight = livePermits s + pendingAcquires s
    ∧ s.admission.kib.toNat ≤ config.maxInflightKib.toNat
    ∧ Pool.total Holder.liveKib s.holders ≤ s.admission.kib.toNat
    ∧ (∀ l t, step s l = some t →
        (subtractsCall s l = true → 0 < s.admission.inflight
          ∧ t.admission.closed = s.admission.closed
          ∧ t.admission.inflight + 1 = s.admission.inflight)
        ∧ (∀ amount, subtractsKib s l = some amount →
          t.admission.kib.toNat + amount.toNat = s.admission.kib.toNat))
    ∧ (s.admission.closed = true → ∀ t, (system config).Run System.Any s t →
        t.admission.closed = true ∧ t.admission.inflight ≤ s.admission.inflight
        ∧ ∀ i, hasWon s i = false → t.holders[i]?.any Holder.live = false) := by
  have inv := accounted_reach reached
  refine ⟨inv.callsLe, ?_, inv.kibLe, ?_, ?_, ?_⟩
  · rw [inv.calls, total_slots]
    rfl
  · rw [inv.kib]
    exact Pool.total_le_total _ Holder.liveKib_le
  · intro l t taken
    exact ⟨subtractsCall_exact inv taken, fun amount => subtractsKib_exact inv taken⟩
  · intro isClosed t run
    obtain ⟨stays, count, won⟩ := closed_run reached isClosed run
    refine ⟨stays, count, ?_⟩
    intro i notWon
    by_contra live
    have winner : hasWon t i = true := by
      simp only [Bool.not_eq_false, Option.any_eq_true] at live
      obtain ⟨h, found, isLive⟩ := live
      obtain ⟨retained, phase⟩ := h
      simp only [Holder.live, decide_eq_true_eq] at isLive
      subst isLive
      simp [hasWon, found, AcquirePhase.slots]
    rw [won i winner] at notWon
    cases notWon

/-- A schedule in which one permit is alive, one acquire is refused for KiB and
    still holds its call slot, and the word has been closed. -/
def closingSchedule : List Label :=
  [.acquire 1, .acquire 300000, .tick 0 false, .tick 0 true, .tick 0 false, .tick 0 false,
    .tick 0 false, .tick 0 false, .tick 0 false, .tick 1 false, .tick 1 false, .tick 1 false,
    .tick 1 false, .close]

def closingState : State where
  admission := { calls := ADMISSION_CLOSED + 2, kib := 1, maxCalls := 100000, maxKib := 262144 }
  holders := [⟨1, .acquiring .permit⟩, ⟨300000, .acquiring .giveBack⟩]

theorem closingState_accounted :
    closingState.admission.inflight = livePermits closingState + pendingAcquires closingState
    ∧ closingState.admission.closed = true := by
  have followed : System.follow System.Any step (initial .hardLimits) closingSchedule = some closingState := by
    decide
  have reached : (system .hardLimits).Reach System.Any closingState :=
    System.reach_of_follow rfl followed
  exact ⟨(admission_is_exact_and_bounded reached).2.1, by decide⟩

end AdmissionPool

end Xkk.Logic

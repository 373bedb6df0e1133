import Xkk.Logic.Steps

/-! # What the save gate protects

`DirtyAdmission.slots` counts the cells that own a slot and the permits that are
not committed yet.  Whoever changes a player, its slot or its entry in the dirty
registry holds the player's save gate, so the three agree whenever the gate is
free.  `Stage.Agrees` and `Saver.Agrees` say what is known while it is held, and
`Slotted.serve` that each stage of a command keeps it.
-/

set_option linter.unusedSectionVars false

namespace Xkk.Logic

open Xkk.Lib

variable {P A R E : Type} [LogicState P]

/-- The player, its slot and the registry say the same. -/
def PlayerCell.Settled (cell : PlayerCell P) (marked : Bool) : Prop :=
  cell.dirty = cell.dirtySlot ∧ cell.dirtySlot = marked

def Vault.marked (v : Vault P R E) (c : Nat) : Bool := decide (c ∈ v.dirtySince)

/-- The number of cells that own a slot. -/
def Vault.ownedSlots (v : Vault P R E) : Nat := Pool.total (fun cell => cell.dirtySlot.toNat) v.cells

/-! ## What is known while a gate is held -/

def After.permit : After R E → Bool
  | .logic permit _ => permit
  | .save _ _ => false

/-- The runner holds an active `DirtyPermit`. -/
def Stage.permit : Stage P A R E → Bool
  | .reserved permit | .preloading permit _ _ | .ready permit _ | .executed permit _
  | .dropping permit _ => permit
  | .refreshing after | .marking _ after => after.permit
  | .loading | .fetched _ | .gating | .gated | .saving _ | .releasing _ | .finishing _ => false

/-- The runner holds the save gate of its player. -/
def Stage.holdsGate : Stage P A R E → Bool
  | .loading | .fetched _ | .gating | .finishing _ => false
  | _ => true

def Stage.Agrees (cell : PlayerCell P) (marked : Bool) : Stage P A R E → Prop
  | .gated | .dropping _ _ | .saving _ | .releasing _ => cell.Settled marked
  | .reserved permit | .preloading permit _ _ | .ready permit _ =>
    cell.Settled marked ∧ permit = !cell.dirtySlot
  | .executed permit _ => cell.dirtySlot = marked ∧ permit = !cell.dirtySlot
  | .refreshing after =>
    (cell.dirty = true → cell.dirtySlot = true) ∧ (after.permit = true → cell.dirty = false)
  | .marking dirty after =>
    cell.dirty = dirty ∧ cell.dirtySlot = dirty ∧ (after.permit = true → dirty = false)
  | .loading | .fetched _ | .gating | .finishing _ => True

@[simp] theorem Onward.permit_stage (onward : Onward R E) : (onward.stage : Stage P A R E).permit = false := by
  cases onward <;> rfl

@[simp] theorem Onward.holdsGate_stage (onward : Onward R E) :
    (onward.stage : Stage P A R E).holdsGate = true := by
  cases onward <;> rfl

theorem Onward.stage_agrees (onward : Onward R E) {cell : PlayerCell P} {marked : Bool}
    (settled : cell.Settled marked) : (onward.stage : Stage P A R E).Agrees cell marked := by
  cases onward <;> exact settled

def Runner.permit (r : Runner P A R E) : Bool :=
  match r.phase with
  | .serving _ stage => stage.permit
  | _ => false

/-- The cell whose gate the runner holds, and how far it is. -/
def Runner.held (r : Runner P A R E) : Option (Nat × Stage P A R E) :=
  match r.phase, r.player with
  | .serving _ stage, some c => if stage.holdsGate then some (c, stage) else none
  | _, _ => none

/-- What the runner `i` knows about the cell whose gate it holds. -/
def Runner.Agrees (r : Runner P A R E) (v : Vault P R E) (i : Nat) : Prop :=
  ∀ c stage, r.held = some (c, stage) →
    ∃ cell, v.cells[c]? = some cell ∧ cell.saveGate = some (.runner i)
      ∧ stage.Agrees cell (v.marked c)

def Saver.held (saver : Saver E) : List Nat :=
  match saver.phase with
  | .locking next => saver.entries.take next
  | .saving _ _ | .refreshing _ _ | .marking _ _ _ _ => saver.entries
  | .done _ => []

def SaverPhase.Agrees (c : Nat) (cell : PlayerCell P) (marked : Bool) : SaverPhase E → Prop
  | .locking _ | .done _ => cell.Settled marked
  | .saving _ dirty =>
    if c ∈ dirty then cell.dirtySlot = true ∧ marked = true else cell.Settled marked
  | .refreshing todo _ =>
    if c ∈ todo then cell.dirty = true → cell.dirtySlot = true else cell.Settled marked
  | .marking d dirty todo _ =>
    if c = d then cell.dirty = dirty ∧ cell.dirtySlot = dirty
    else if c ∈ todo then cell.dirty = true → cell.dirtySlot = true else cell.Settled marked

/-- The cells that a saver still works on are its own. -/
def Saver.Within (saver : Saver E) : Prop :=
  match saver.phase with
  | .saving todo dirty => (∀ c ∈ todo, c ∈ dirty) ∧ ∀ c ∈ dirty, c ∈ saver.entries
  | .refreshing todo _ => ∀ c ∈ todo, c ∈ saver.entries
  | .marking c _ todo _ => c ∈ saver.entries ∧ ∀ d ∈ todo, d ∈ saver.entries
  | .locking _ | .done _ => True

def Saver.Agrees (saver : Saver E) (v : Vault P R E) (k : Nat) : Prop :=
  ∀ c ∈ saver.held, ∃ cell, v.cells[c]? = some cell ∧ cell.saveGate = some (.saver k)
    ∧ saver.phase.Agrees c cell (v.marked c)

structure Slotted (max : Nat) (v : Vault P R E) (runners : List (Runner P A R E)) : Prop where
  counted : v.dirtySlots = v.ownedSlots + Pool.total (fun r => r.permit.toNat) runners
  bounded : v.dirtySlots ≤ max
  registered : v.dirtyPlayers = v.dirtySince.card
  known : ∀ c ∈ v.dirtySince, c < v.cells.length
  free : ∀ (c : Nat) cell, v.cells[c]? = some cell → cell.saveGate = none → cell.Settled (v.marked c)
  runners : ∀ (i : Nat) r, runners[i]? = some r → r.Agrees v i
  savers : ∀ (k : Nat) saver, v.savers[k]? = some saver → saver.Agrees v k ∧ saver.Within
  -- a gate is held by nobody else
  heldBySaver : ∀ (c : Nat) cell k, v.cells[c]? = some cell → cell.saveGate = some (.saver k) →
    ∃ saver, v.savers[k]? = some saver ∧ c ∈ saver.held
  noFault : v.faults = []

theorem slotted_initial {max : Nat} :
    Slotted max (Vault.initial : Vault P R E) ([] : List (Runner P A R E)) where
  counted := rfl
  bounded := Nat.zero_le _
  registered := rfl
  known := by intro c member; simp [Vault.initial] at member
  free := by intro c cell found; simp [Vault.initial] at found
  runners := by intro i r found; simp at found
  savers := by intro k saver found; simp [Vault.initial] at found
  heldBySaver := by intro c cell k found; simp [Vault.initial] at found
  noFault := rfl

/-! ## Steps that touch one cell -/

/-- At most the cell `c` and its mark have changed. -/
structure Vault.Touches (v v' : Vault P R E) (c : Nat) (cell' : PlayerCell P) : Prop where
  self : v'.cells[c]? = some cell'
  others : ∀ d, d ≠ c → v'.cells[d]? = v.cells[d]?
  marks : ∀ d, d ≠ c → v'.marked d = v.marked d

variable {max : Nat} {v v' : Vault P R E} {runners : List (Runner P A R E)}
  {c : Nat} {cell cell' : PlayerCell P}

theorem Vault.touches_of (found : v.cells[c]? = some cell) (cells : v'.cells = v.cells.set c cell')
    (marks : ∀ d, d ≠ c → v'.marked d = v.marked d) : Vault.Touches v v' c cell' where
  self := by
    rw [cells]
    exact Pool.get_set_self _ found
  others := by
    intro d differ
    rw [cells]
    exact Pool.get_set_ne _ differ.symm
  marks := marks

/-- Whoever holds another gate does not notice. -/
theorem Runner.Agrees.touch {r : Runner P A R E} {i : Nat} (agrees : r.Agrees v i)
    (found : v.cells[c]? = some cell) (foreign : cell.saveGate ≠ some (.runner i))
    (touches : Vault.Touches v v' c cell') : r.Agrees v' i := by
  intro d stage held
  obtain ⟨other, there, gate, agreed⟩ := agrees d stage held
  have differ : d ≠ c := by
    intro same
    subst same
    rw [found] at there
    obtain rfl := Option.some.inj there
    exact foreign gate
  refine ⟨other, ?_, gate, ?_⟩
  · rw [touches.others d differ]
    exact there
  · rw [touches.marks d differ]
    exact agreed

theorem Saver.Agrees.touch {saver : Saver E} {k : Nat} (agrees : saver.Agrees v k)
    (found : v.cells[c]? = some cell) (foreign : cell.saveGate ≠ some (.saver k))
    (touches : Vault.Touches v v' c cell') : saver.Agrees v' k := by
  intro d held
  obtain ⟨other, there, gate, agreed⟩ := agrees d held
  have differ : d ≠ c := by
    intro same
    subst same
    rw [found] at there
    obtain rfl := Option.some.inj there
    exact foreign gate
  refine ⟨other, ?_, gate, ?_⟩
  · rw [touches.others d differ]
    exact there
  · rw [touches.marks d differ]
    exact agreed

theorem Slotted.free_touch (inv : Slotted max v runners) (touches : Vault.Touches v v' c cell')
    (own : cell'.saveGate = none → cell'.Settled (v'.marked c)) :
    ∀ (d : Nat) other, v'.cells[d]? = some other → other.saveGate = none →
      other.Settled (v'.marked d) := by
  intro d other there isFree
  by_cases same : d = c
  · subst same
    rw [touches.self] at there
    obtain rfl := Option.some.inj there
    exact own isFree
  · rw [touches.others d same] at there
    rw [touches.marks d same]
    exact inv.free d other there isFree

theorem Slotted.known_touch (inv : Slotted max v runners) (touches : Vault.Touches v v' c cell') :
    ∀ d ∈ v'.dirtySince, d < v'.cells.length := by
  intro d member
  by_cases same : d = c
  · subst same
    exact Pool.lt_length touches.self
  · have before : d ∈ v.dirtySince := by
      have := touches.marks d same
      simp only [Vault.marked, member, decide_true] at this
      simpa using this.symm
    have inside := inv.known d before
    have there := touches.others d same
    rw [List.getElem?_eq_getElem inside] at there
    exact Pool.lt_length there

/-- A runner takes, uses or frees the gate of its player. -/
theorem Slotted.runnerStep (inv : Slotted max v runners) {i : Nat} {r r' : Runner P A R E}
    (isRunner : runners[i]? = some r) (found : v.cells[c]? = some cell)
    (before : cell.saveGate = none ∨ cell.saveGate = some (.runner i))
    (after : cell'.saveGate = none ∨ cell'.saveGate = some (.runner i))
    (cells : v'.cells = v.cells.set c cell') (marks : ∀ d, d ≠ c → v'.marked d = v.marked d)
    (savers : v'.savers = v.savers) (faults : v'.faults = v.faults)
    (slots : v'.dirtySlots + cell.dirtySlot.toNat + r.permit.toNat
      = v.dirtySlots + cell'.dirtySlot.toNat + r'.permit.toNat)
    (bounded : v'.dirtySlots ≤ max) (registered : v'.dirtyPlayers = v'.dirtySince.card)
    (own : cell'.saveGate = none → cell'.Settled (v'.marked c)) (agrees : r'.Agrees v' i) :
    Slotted max v' (runners.set i r') := by
  have touches := Vault.touches_of found cells marks
  have notSaver : ∀ k, cell.saveGate ≠ some (.saver k) := by
    intro k gate
    cases before with
    | inl none => rw [none] at gate; cases gate
    | inr mine => rw [mine] at gate; cases gate
  refine {
    counted := ?_, bounded := bounded, registered := registered, known := inv.known_touch touches,
    free := inv.free_touch touches own, runners := ?_, savers := ?_, heldBySaver := ?_,
    noFault := faults.trans inv.noFault }
  · have total := Pool.total_set (fun r : Runner P A R E => r.permit.toNat) r' isRunner
    have owned := Pool.total_set (fun cell : PlayerCell P => cell.dirtySlot.toNat) cell' found
    have counted := inv.counted
    simp only [Vault.ownedSlots] at counted ⊢
    rw [cells]
    omega
  · intro j other there
    cases Pool.get_set_cases there with
    | inl same =>
      obtain ⟨rfl, rfl⟩ := same
      exact agrees
    | inr differ =>
      obtain ⟨ne, there⟩ := differ
      refine (inv.runners j other there).touch found ?_ touches
      intro gate
      cases before with
      | inl none => rw [none] at gate; cases gate
      | inr mine =>
        rw [mine] at gate
        cases gate
        exact ne rfl
  · intro k saver there
    rw [savers] at there
    obtain ⟨agreed, within⟩ := inv.savers k saver there
    exact ⟨agreed.touch found (notSaver k) touches, within⟩
  · intro d other k there gate
    rw [savers]
    by_cases same : d = c
    · subst same
      rw [touches.self] at there
      obtain rfl := Option.some.inj there
      cases after with
      | inl none => rw [none] at gate; cases gate
      | inr mine => rw [mine] at gate; cases gate
    · rw [touches.others d same] at there
      exact inv.heldBySaver d other k there gate

/-! ## Steps that touch no cell -/

/-- Only the cache or the histories have changed. -/
theorem Slotted.frame (inv : Slotted max v runners) (cells : v'.cells = v.cells)
    (dirtySlots : v'.dirtySlots = v.dirtySlots) (dirtySince : v'.dirtySince = v.dirtySince)
    (dirtyPlayers : v'.dirtyPlayers = v.dirtyPlayers) (savers : v'.savers = v.savers)
    (faults : v'.faults = v.faults) : Slotted max v' runners := by
  obtain ⟨counted, bounded, registered, known, free, ofRunners, ofSavers, heldBySaver, noFault⟩ := inv
  cases v
  cases v'
  simp only at cells dirtySlots dirtySince dirtyPlayers savers faults
  subst cells dirtySlots dirtySince dirtyPlayers savers faults
  exact ⟨counted, bounded, registered, known, free, ofRunners, ofSavers, heldBySaver, noFault⟩

/-- A runner that holds neither a gate nor a permit moves on. -/
theorem Slotted.setRunner (inv : Slotted max v runners) {i : Nat} {r r' : Runner P A R E}
    (isRunner : runners[i]? = some r) (permit : r'.permit = r.permit) (held : r'.held = none) :
    Slotted max v (runners.set i r') := by
  refine { inv with counted := ?_, runners := ?_ }
  · have total := Pool.total_set (fun r : Runner P A R E => r.permit.toNat) r' isRunner
    have counted := inv.counted
    simp only [permit] at total
    omega
  · intro j other there
    cases Pool.get_set_cases there with
    | inl same =>
      obtain ⟨rfl, rfl⟩ := same
      intro c stage holds
      rw [held] at holds
      cases holds
    | inr differ => exact inv.runners j other differ.2

theorem Slotted.spawn (inv : Slotted max v runners) {r : Runner P A R E} (permit : r.permit = false)
    (held : r.held = none) : Slotted max v (runners ++ [r]) := by
  refine { inv with counted := ?_, runners := ?_ }
  · have counted := inv.counted
    simp only [Pool.total_append, Pool.total_cons, Pool.total_nil, permit, Bool.toNat_false]
    omega
  · intro j other there
    cases Pool.get_append_cases there with
    | inl new =>
      obtain ⟨_, rfl⟩ := new
      intro c stage holds
      rw [held] at holds
      cases holds
    | inr old => exact inv.runners j other old.2

/-! ## The parts of a step -/

theorem Vault.marked_markDirty (v : Vault P R E) (c d : Nat) (dirty : Bool) :
    (v.markDirty c dirty).marked d = if d = c then dirty else v.marked d := by
  unfold Vault.markDirty Vault.marked
  by_cases present : c ∈ v.dirtySince
  · by_cases same : d = c
    · subst same
      cases dirty <;> simp [present]
    · cases dirty <;> simp [present, same]
  · by_cases same : d = c
    · subst same
      cases dirty <;> simp [present]
    · cases dirty <;> simp [present, same]

theorem Vault.markDirty_cells (v : Vault P R E) (c : Nat) (dirty : Bool) :
    (v.markDirty c dirty).cells = v.cells ∧ (v.markDirty c dirty).dirtySlots = v.dirtySlots
      ∧ (v.markDirty c dirty).savers = v.savers ∧ (v.markDirty c dirty).faults = v.faults := by
  unfold Vault.markDirty
  split <;> split <;> exact ⟨rfl, rfl, rfl, rfl⟩

/-- `dirty_players` keeps counting the registry. -/
theorem Vault.markDirty_registered (registered : v.dirtyPlayers = v.dirtySince.card) (c : Nat)
    (dirty : Bool) : (v.markDirty c dirty).dirtyPlayers = (v.markDirty c dirty).dirtySince.card := by
  unfold Vault.markDirty
  split
  · split
    · exact registered
    case isFalse absent =>
      simp only [Finset.card_insert_of_notMem absent]
      omega
  · split
    case isTrue present =>
      simp only [Finset.card_erase_of_mem present]
      omega
    · exact registered

theorem Vault.write_frame (v : Vault P R E) (gid : Gid) (state : P) (wrote : Bool) :
    v.write gid state wrote = { v with stored := (v.write gid state wrote).stored } := by
  unfold Vault.write
  split <;> rfl

theorem Vault.write_cache (v : Vault P R E) (gid : Gid) (state : P) (wrote : Bool) :
    (v.write gid state wrote).cache = v.cache := by
  rw [write_frame]

theorem Vault.write_first (v : Vault P R E) (gid : Gid) (state : P) (wrote : Bool) :
    (v.write gid state wrote).first = v.first := by
  rw [write_frame]

theorem Vault.write_executions (v : Vault P R E) (gid : Gid) (state : P) (wrote : Bool) :
    (v.write gid state wrote).executions = v.executions := by
  rw [write_frame]

/-- Other players stay as they are stored. -/
theorem Vault.write_stored_ne (v : Vault P R E) {gid other : Gid} (state : P) (wrote : Bool)
    (differ : other ≠ gid) : (v.write gid state wrote).stored other = v.stored other := by
  unfold Vault.write
  split
  · exact Function.update_of_ne differ ..
  · rfl

/-- Writing the store is none of the vault's business. -/
theorem Vault.write_rest (v : Vault P R E) (gid : Gid) (state : P) (wrote : Bool) :
    (v.write gid state wrote).cells = v.cells ∧ (v.write gid state wrote).dirtySlots = v.dirtySlots
      ∧ (v.write gid state wrote).dirtySince = v.dirtySince
      ∧ (v.write gid state wrote).dirtyPlayers = v.dirtyPlayers
      ∧ (v.write gid state wrote).savers = v.savers ∧ (v.write gid state wrote).faults = v.faults := by
  rw [write_frame]
  exact ⟨rfl, rfl, rfl, rfl, rfl, rfl⟩

/-- What the first part of `refresh_dirty` does to a player whose dirtiness has its slot. -/
theorem Vault.refreshSlot_ok (slotted : cell.dirty = true → cell.dirtySlot = true)
    (positive : cell.dirtySlot = true → 0 < v.dirtySlots) :
    ∃ v', v.refreshSlot c cell = .ok (v', cell.dirty)
      ∧ (v' = v ∧ cell.dirtySlot = cell.dirty
        ∨ v' = { v.setCell c { cell with dirtySlot := false } with dirtySlots := v.dirtySlots - 1 }
          ∧ cell.dirty = false ∧ cell.dirtySlot = true) := by
  unfold Vault.refreshSlot
  cases isDirty : cell.dirty with
  | true =>
    have owns := slotted isDirty
    exact ⟨v, by simp [owns], .inl ⟨rfl, owns⟩⟩
  | false =>
    cases owns : cell.dirtySlot with
    | false => exact ⟨v, by simp, .inl ⟨rfl, rfl⟩⟩
    | true =>
      have enough := positive owns
      refine ⟨_, ?_, .inr ⟨rfl, rfl, rfl⟩⟩
      simp only [Bool.false_eq_true, if_false, if_true]
      rw [if_neg (by omega)]

/-- What `finish_logic` does with the permit of a player that had its slot or a permit. -/
theorem Vault.commitSlot_ok {permit : Bool} (reserved : permit = !cell.dirtySlot) :
    (commitSlot cell permit = .ok ({ cell with dirtySlot := true }, false)
        ∧ cell.dirty = true ∧ permit = true)
      ∨ (commitSlot cell permit = .ok (cell, permit)
        ∧ (cell.dirty = true → cell.dirtySlot = true) ∧ (permit = true → cell.dirty = false)) := by
  unfold Vault.commitSlot
  cases isDirty : cell.dirty with
  | false => exact .inr ⟨by simp, by simp, by simp⟩
  | true =>
    cases owns : cell.dirtySlot with
    | false =>
      rw [owns] at reserved
      subst reserved
      exact .inl ⟨by simp, rfl, rfl⟩
    | true =>
      rw [owns] at reserved
      subst reserved
      exact .inr ⟨by simp, by simp, by simp⟩

theorem Slotted.slot_le (inv : Slotted max v runners) (found : v.cells[c]? = some cell) :
    cell.dirtySlot.toNat ≤ v.dirtySlots := by
  have weight := Pool.weight_le_total (fun cell : PlayerCell P => cell.dirtySlot.toNat) found
  have counted := inv.counted
  simp only [Vault.ownedSlots] at counted
  omega

/-- In a state where the slots agree, `refresh_dirty` raises no fault. -/
theorem Slotted.refreshSlot_ok (inv : Slotted max v runners) (found : v.cells[c]? = some cell)
    (slotted : cell.dirty = true → cell.dirtySlot = true) :
    ∃ v', v.refreshSlot c cell = .ok (v', cell.dirty)
      ∧ (v' = v ∧ cell.dirtySlot = cell.dirty
        ∨ v' = { v.setCell c { cell with dirtySlot := false } with dirtySlots := v.dirtySlots - 1 }
          ∧ cell.dirty = false ∧ cell.dirtySlot = true) := by
  have atMost := inv.slot_le found
  apply Vault.refreshSlot_ok slotted
  intro owns
  rw [owns, Bool.toNat_true] at atMost
  omega

theorem Slotted.permit_le (inv : Slotted max v runners) {i : Nat} {r : Runner P A R E}
    (isRunner : runners[i]? = some r) : r.permit.toNat ≤ v.dirtySlots := by
  have weight := Pool.weight_le_total (fun r : Runner P A R E => r.permit.toNat) isRunner
  have counted := inv.counted
  omega

/-! ## The steps of a runner -/

theorem Runner.agrees_of {r : Runner P A R E} {i : Nat} {envelope : Envelope P A R}
    {stage : Stage P A R E} (cell : PlayerCell P) (found : v.cells[c]? = some cell)
    (gate : stage.holdsGate = true → cell.saveGate = some (.runner i))
    (agrees : stage.Agrees cell (v.marked c)) :
    Runner.Agrees { r with player := some c, phase := .serving envelope stage } v i := by
  intro d other held
  simp only [Runner.held] at held
  split at held
  case isTrue holds =>
    cases held
    exact ⟨cell, found, gate holds, agrees⟩
  case isFalse => cases held

section Serve

variable {i : Nat} {r : Runner P A R E} {envelope : Envelope P A R} {stage stage' : Stage P A R E}

/-- The runner is at a stage with its player `c`. -/
structure At (v : Vault P R E) (runners : List (Runner P A R E)) (i : Nat) (r : Runner P A R E)
    (envelope : Envelope P A R) (stage : Stage P A R E) (c : Nat) (cell : PlayerCell P) : Prop where
  isRunner : runners[i]? = some r
  phase : r.phase = .serving envelope stage
  player : r.player = some c
  found : v.cells[c]? = some cell

theorem At.permit (here : At v runners i r envelope stage c cell) : r.permit = stage.permit := by
  rw [Runner.permit, here.phase]

theorem Slotted.at (inv : Slotted max v runners) (here : At v runners i r envelope stage c cell)
    (holds : stage.holdsGate = true) :
    cell.saveGate = some (.runner i) ∧ stage.Agrees cell (v.marked c) := by
  have held : r.held = some (c, stage) := by
    simp only [Runner.held, here.phase, here.player, holds, if_true]
  obtain ⟨there, found, gate, agrees⟩ := inv.runners i r here.isRunner c stage held
  rw [here.found] at found
  obtain rfl := Option.some.inj found
  exact ⟨gate, agrees⟩

/-- A step under the gate that keeps the registry. -/
theorem Slotted.underGate (inv : Slotted max v runners)
    (here : At v runners i r envelope stage c cell) (holds : stage.holdsGate = true)
    (next : Stage P A R E) (cell' : PlayerCell P) (slots : Nat)
    (cells : v'.cells = v.cells.set c cell') (dirtySlots : v'.dirtySlots = slots)
    (dirtySince : v'.dirtySince = v.dirtySince) (dirtyPlayers : v'.dirtyPlayers = v.dirtyPlayers)
    (savers : v'.savers = v.savers) (faults : v'.faults = v.faults)
    (balance : slots + cell.dirtySlot.toNat + stage.permit.toNat
      = v.dirtySlots + cell'.dirtySlot.toNat + next.permit.toNat)
    (bounded : slots ≤ max)
    (gate : if next.holdsGate then cell'.saveGate = cell.saveGate
      else cell'.saveGate = none ∧ cell'.Settled (v.marked c))
    (agrees : next.Agrees cell' (v.marked c)) :
    Slotted max v' (runners.set i { r with player := some c, phase := .serving envelope next }) := by
  obtain ⟨mine, _⟩ := inv.at here holds
  have marked : ∀ d, v'.marked d = v.marked d := by
    intro d
    rw [Vault.marked, dirtySince]
    rfl
  have either : cell'.saveGate = none ∨ cell'.saveGate = some (.runner i) := by
    split at gate
    · exact .inr (gate.trans mine)
    · exact .inl gate.1
  refine inv.runnerStep here.isRunner here.found (.inr mine) either cells (fun d _ => marked d)
    savers faults ?_ ?_ ?_ ?_ ?_
  · rw [here.permit, dirtySlots]
    exact balance
  · rw [dirtySlots]
    exact bounded
  · rw [dirtyPlayers, dirtySince]
    exact inv.registered
  · intro isFree
    rw [marked]
    split at gate
    · rw [gate, mine] at isFree
      cases isFree
    · exact gate.2
  · refine Runner.agrees_of cell' ?_ ?_ ?_
    · rw [cells]
      exact Pool.get_set_self _ here.found
    · intro isHeld
      rw [isHeld, if_pos rfl] at gate
      exact gate.trans mine
    · rw [marked]
      exact agrees

/-- The second part of `refresh_dirty`. -/
theorem Slotted.mark (inv : Slotted max v runners) {dirty : Bool} {after : After R E}
    (here : At v runners i r envelope (.marking dirty after) c cell) (next : Stage P A R E)
    (permit : next.permit = after.permit)
    (settled : ∀ marked, cell.Settled marked → next.Agrees cell marked) :
    Slotted max (v.markDirty c dirty)
      (runners.set i { r with player := some c, phase := .serving envelope next }) := by
  obtain ⟨mine, isDirty, owns, _⟩ := inv.at here rfl
  obtain ⟨cells, dirtySlots, savers, faults⟩ := v.markDirty_cells c dirty
  have unchanged : (v.markDirty c dirty).cells = v.cells.set c cell := by
    rw [cells, Pool.set_self here.found]
  have nowMarked : (v.markDirty c dirty).marked c = dirty := by
    rw [Vault.marked_markDirty, if_pos rfl]
  refine inv.runnerStep here.isRunner here.found (.inr mine) (.inr mine) unchanged ?_ savers faults
    ?_ ?_ (Vault.markDirty_registered inv.registered c dirty) ?_ ?_
  · intro d differ
    rw [Vault.marked_markDirty, if_neg differ]
  · rw [here.permit, dirtySlots]
    change _ + after.permit.toNat = _ + next.permit.toNat
    rw [permit]
  · rw [dirtySlots]
    exact inv.bounded
  · intro isFree
    rw [mine] at isFree
    cases isFree
  · refine Runner.agrees_of cell ?_ (fun _ => mine) ?_
    · rw [cells]
      exact here.found
    · rw [nowMarked]
      exact settled dirty ⟨isDirty.trans owns.symm, owns⟩

theorem Slotted.serveCell {me : Nat} {choice : Choice P A E} (inv : Slotted max v runners)
    (here : At v runners me r envelope stage c cell)
    (taken : v.serveCell max me envelope c cell stage choice = some (v', stage')) :
    Slotted max v' (runners.set me { r with player := some c, phase := .serving envelope stage' }) := by
  have unchanged : v.cells = v.cells.set c cell := (Pool.set_self here.found).symm
  have bounded := inv.bounded
  cases Vault.serves_of_serveCell taken with
  | loaded =>
    refine inv.setRunner here.isRunner ?_ rfl
    rw [here.permit]
    rfl
  | gate isFree =>
    have settled := inv.free c cell here.found isFree
    refine inv.runnerStep here.isRunner here.found (.inl isFree) (.inr rfl) rfl (fun _ _ => rfl)
      rfl rfl ?_ bounded inv.registered (by rintro ⟨⟩) ?_
    · rw [here.permit]
      rfl
    · exact Runner.agrees_of _ (Pool.get_set_self _ here.found) (fun _ => rfl) settled
  | slotted owns =>
    obtain ⟨_, settled⟩ := inv.at here rfl
    exact inv.underGate here rfl (.reserved false) cell v.dirtySlots unchanged rfl rfl rfl rfl rfl
      rfl bounded rfl ⟨settled, by simp [owns]⟩
  | reserve none room =>
    obtain ⟨_, settled⟩ := inv.at here rfl
    refine inv.underGate here rfl (.reserved true) cell (v.dirtySlots + 1) unchanged rfl rfl rfl
      rfl rfl ?_ room rfl ⟨settled, by simp [none]⟩
    simp only [Stage.permit, Bool.toNat_true, Bool.toNat_false]
    omega
  | capacity _ =>
    obtain ⟨_, settled⟩ := inv.at here rfl
    exact inv.underGate here rfl (.releasing (.failed .dirtyCapacity)) cell v.dirtySlots unchanged
      rfl rfl rfl rfl rfl rfl bounded rfl settled
  | @use permit logic _ =>
    obtain ⟨_, agrees⟩ := inv.at here rfl
    exact inv.underGate here rfl (.ready permit logic) cell v.dirtySlots unchanged rfl rfl rfl rfl rfl
      rfl bounded rfl agrees
  | @preload permit logic _ =>
    obtain ⟨_, agrees⟩ := inv.at here rfl
    exact inv.underGate here rfl (.preloading permit logic cell.state) cell v.dirtySlots unchanged rfl
      rfl rfl rfl rfl rfl bounded rfl agrees
  | @preloaded permit logic seen value =>
    obtain ⟨_, agrees⟩ := inv.at here rfl
    exact inv.underGate here rfl (.ready permit _) cell v.dirtySlots unchanged rfl rfl rfl rfl rfl
      rfl bounded rfl agrees
  | @preloadFailed permit logic seen error =>
    obtain ⟨_, agrees⟩ := inv.at here rfl
    exact inv.underGate here rfl (.dropping permit _) cell v.dirtySlots unchanged rfl rfl rfl rfl
      rfl rfl bounded rfl agrees.1
  | @execute permit logic =>
    -- from here on the player may be dirty while its slot is still a permit
    obtain ⟨_, ⟨_, owns⟩, reserved⟩ := inv.at here rfl
    exact inv.underGate here rfl (.executed permit _) { cell with state := (logic cell.state).2 }
      v.dirtySlots rfl rfl rfl rfl rfl rfl rfl bounded rfl ⟨owns, reserved⟩
  | @commit permit rest value committed isCommitted =>
    obtain ⟨_, owns, reserved⟩ := inv.at here rfl
    cases Vault.commitSlot_ok reserved with
    | inl commits =>
      obtain ⟨result, isDirty, hasPermit⟩ := commits
      rw [result] at isCommitted
      cases isCommitted
      have clear : cell.dirtySlot = false := by simpa [hasPermit] using reserved
      refine inv.underGate here rfl (.refreshing (.logic false value)) { cell with dirtySlot := true }
        v.dirtySlots rfl rfl rfl rfl rfl rfl ?_ bounded rfl ⟨fun _ => rfl, by rintro ⟨⟩⟩
      simp [Stage.permit, After.permit, clear, hasPermit]
    | inr keeps =>
      obtain ⟨result, slotted, unused⟩ := keeps
      rw [result] at isCommitted
      cases isCommitted
      exact inv.underGate here rfl (.refreshing (.logic permit value)) cell v.dirtySlots rfl rfl rfl rfl
        rfl rfl rfl bounded rfl ⟨slotted, unused⟩
  | commitFault isFault =>
    obtain ⟨_, owns, reserved⟩ := inv.at here rfl
    obtain ⟨result, _⟩ | ⟨result, _⟩ := Vault.commitSlot_ok reserved
    · rw [result] at isFault
      cases isFault
    · rw [result] at isFault
      cases isFault
  | @refresh after refreshed dirty isRefreshed =>
    obtain ⟨_, slotted, unused⟩ := inv.at here rfl
    have atMost := inv.slot_le here.found
    obtain ⟨refreshed, result, either⟩ := inv.refreshSlot_ok here.found slotted
    rw [result] at isRefreshed
    cases isRefreshed
    cases either with
    | inl same =>
      obtain ⟨rfl, agrees⟩ := same
      exact inv.underGate here rfl (.marking cell.dirty after) cell _ unchanged rfl rfl rfl rfl rfl
        rfl bounded rfl ⟨rfl, agrees, unused⟩
    | inr released =>
      obtain ⟨rfl, isClean, owns⟩ := released
      rw [isClean]
      refine inv.underGate here rfl (.marking false after) { cell with dirtySlot := false }
        (v.dirtySlots - 1) rfl rfl rfl rfl rfl rfl ?_ (by omega) rfl ⟨isClean, rfl, fun _ => rfl⟩
      rw [owns, Bool.toNat_true] at atMost
      simp only [Stage.permit, owns, Bool.toNat_true, Bool.toNat_false]
      omega
  | refreshFault isFault =>
    obtain ⟨_, slotted, _⟩ := inv.at here rfl
    obtain ⟨refreshed, result, _⟩ := inv.refreshSlot_ok here.found slotted
    rw [result] at isFault
    cases isFault
  | markLogic => exact inv.mark here _ rfl (fun _ settled => settled)
  | markSave => exact inv.mark here _ rfl (fun _ settled => settled)
  | @drop onward positive =>
    obtain ⟨_, settled⟩ := inv.at here rfl
    refine inv.underGate here rfl onward.stage cell (v.dirtySlots - 1) unchanged rfl rfl rfl rfl rfl ?_
      (by omega) (by simp) (onward.stage_agrees settled)
    rw [Onward.permit_stage]
    simp only [Stage.permit, Bool.toNat_true, Bool.toNat_false]
    omega
  | @dropFault onward empty =>
    -- the permit that is dropped is counted
    have counted := inv.permit_le here.isRunner
    rw [here.permit, empty] at counted
    simp [Stage.permit] at counted
  | @onward onward =>
    obtain ⟨_, settled⟩ := inv.at here rfl
    refine inv.underGate here rfl onward.stage cell v.dirtySlots unchanged rfl rfl rfl rfl rfl ?_
      bounded (by simp) (onward.stage_agrees settled)
    rw [Onward.permit_stage]
    rfl
  | clean _ =>
    obtain ⟨_, settled⟩ := inv.at here rfl
    exact inv.underGate here rfl (.releasing _) cell v.dirtySlots unchanged rfl rfl rfl rfl rfl rfl
      bounded rfl settled
  | @saved value state wrote result isDirty =>
    obtain ⟨_, isSettled, _⟩ := inv.at here rfl
    have slotted : cell.dirtySlot = true := isSettled.symm.trans isDirty
    have written := v.write_rest cell.gid cell.state wrote
    refine inv.underGate here rfl (.refreshing (.save value result)) { cell with state := state }
      v.dirtySlots ?_ written.2.1 written.2.2.1 written.2.2.2.1 written.2.2.2.2.1
      written.2.2.2.2.2 rfl bounded rfl ⟨fun _ => slotted, by rintro ⟨⟩⟩
    exact congrArg (List.set · c { cell with state := state }) written.1
  | @release outcome =>
    obtain ⟨_, settled⟩ := inv.at here rfl
    exact inv.underGate here rfl (.finishing outcome) { cell with saveGate := none } v.dirtySlots rfl
      rfl rfl rfl rfl rfl rfl bounded ⟨rfl, settled⟩ trivial

end Serve

/-- A new player is clean and owns nothing. -/
theorem Slotted.insertLoaded (inv : Slotted max v runners) (gid : Gid) (state : Clean P) :
    Slotted max (v.insertLoaded gid state) runners := by
  have old : ∀ {d : Nat} {other : PlayerCell P},
      (v.cells ++ [⟨gid, state.state, none, false⟩])[d]? = some other →
      other.saveGate ≠ none ∨ d < v.cells.length → v.cells[d]? = some other := by
    intro d other there either
    cases Pool.get_append_cases there with
    | inl new =>
      obtain ⟨rfl, rfl⟩ := new
      cases either with
      | inl held => exact absurd rfl held
      | inr inside => omega
    | inr before => exact before.2
  refine { inv with counted := ?_, known := ?_, free := ?_, runners := ?_, savers := ?_, heldBySaver := ?_ }
  · refine inv.counted.trans ?_
    simp [Vault.ownedSlots, Vault.insertLoaded]
  · intro c member
    have inside := inv.known c member
    change c < (v.cells ++ [_]).length
    simp only [List.length_append, List.length_singleton]
    omega
  · intro c cell there isFree
    cases Pool.get_append_cases there with
    | inl new =>
      obtain ⟨rfl, rfl⟩ := new
      refine ⟨state.clean, ?_⟩
      -- an index that does not exist yet is not in the registry
      have absent : v.cells.length ∉ v.dirtySince := by
        intro member
        exact Nat.lt_irrefl _ (inv.known _ member)
      simp [Vault.marked, Vault.insertLoaded, absent]
    | inr before => exact inv.free c cell before.2 isFree
  · intro i r there c stage held
    obtain ⟨cell, found, gate, agrees⟩ := inv.runners i r there c stage held
    exact ⟨cell, Pool.get_append_of_some _ found, gate, agrees⟩
  · intro k saver there
    obtain ⟨agrees, within⟩ := inv.savers k saver there
    refine ⟨?_, within⟩
    intro c held
    obtain ⟨cell, found, gate, agreed⟩ := agrees c held
    exact ⟨cell, Pool.get_append_of_some _ found, gate, agreed⟩
  · intro c cell k there gate
    exact inv.heldBySaver c cell k (old there (.inl (by simp [gate]))) gate

theorem Slotted.serve {me : Nat} {r : Runner P A R E} {envelope : Envelope P A R}
    {stage stage' : Stage P A R E} {choice : Choice P A E} {player : Option Nat}
    (inv : Slotted max v runners) (isRunner : runners[me]? = some r)
    (phase : r.phase = .serving envelope stage)
    (taken : v.serve max me r.gid envelope r.player stage choice = some (v', player, stage')) :
    Slotted max v' (runners.set me { r with player := player, phase := .serving envelope stage' }) := by
  have permit : r.permit = stage.permit := by rw [Runner.permit, phase]
  cases isPlayer : r.player with
  | some c =>
    rw [isPlayer] at taken
    simp only [Vault.serve, Option.bind_eq_some_iff, Option.map_eq_some_iff] at taken
    obtain ⟨cell, found, ⟨w, next⟩, served, same⟩ := taken
    cases same
    exact inv.serveCell ⟨isRunner, phase, isPlayer, found⟩ served
  | none =>
    rw [isPlayer] at taken
    cases stage with
    | loading =>
      simp only [Vault.serve, Option.map_eq_some_iff] at taken
      obtain ⟨⟨loaded, next⟩, got, same⟩ := taken
      cases same
      -- whether it is resident, was fetched or failed: nothing is held yet
      have waiting : next.permit = false ∧ next.holdsGate = false := by
        cases choice <;> simp only [Vault.load, Option.map_eq_some_iff, Option.some.injEq,
          Option.ite_none_right_eq_some, Prod.mk.injEq, reduceCtorEq] at got
        · obtain ⟨_, _, _, rfl⟩ := got
          exact ⟨rfl, rfl⟩
        · obtain ⟨_, rfl⟩ := got
          exact ⟨rfl, rfl⟩
        · obtain ⟨_, _, rfl⟩ := got
          exact ⟨rfl, rfl⟩
      refine inv.setRunner isRunner ?_ ?_
      · rw [permit]
        exact waiting.1
      · simp only [Runner.held]
        cases loaded with
        | none => rfl
        | some c => simp [waiting.2]
    | fetched state =>
      cases choice <;> cases taken
      refine (inv.insertLoaded r.gid state).setRunner isRunner ?_ rfl
      rw [permit]
      rfl
    | _ => cases taken

end Xkk.Logic

import Xkk.Logic.SaveGate

/-! # Savers and the dirty slots

The cache fallback saver and the batch saver take the gates of their players one
after the other, save, refresh and mark each of them, and open all gates at the
end.  Each of these steps keeps `Slotted`.
-/

set_option linter.unusedSectionVars false

namespace Xkk.Logic

open Xkk.Lib

variable {P A R E : Type} [LogicState P] {max : Nat} {v v' : Vault P R E} {runners : List (Runner P A R E)}
  {c : Nat} {cell cell' : PlayerCell P}

section Save

variable {k : Nat} {saver : Saver E} {phase : SaverPhase E}

theorem Slotted.startSaver {entries : List Nat} {evicts : Bool} (inv : Slotted max v runners)
    (taken : v.startSaver entries evicts = some v') : Slotted max v' runners := by
  simp only [Vault.startSaver, Option.ite_none_right_eq_some, Option.some.injEq] at taken
  obtain ⟨_, rfl⟩ := taken
  refine { inv with savers := ?_, heldBySaver := ?_ }
  · intro j other there
    cases Pool.get_append_cases there with
    | inl new =>
      obtain ⟨_, rfl⟩ := new
      refine ⟨?_, trivial⟩
      intro c held
      simp [Saver.held] at held
    | inr old => exact inv.savers j other old.2
  · intro c cell j found gate
    obtain ⟨other, there, held⟩ := inv.heldBySaver c cell j found gate
    exact ⟨other, Pool.get_append_of_some _ there, held⟩

/-- The saver `k` works on the cell `c`; the gates that it holds stay closed. -/
theorem Slotted.saverStep (inv : Slotted max v runners) (cell' : PlayerCell P)
    (phase : SaverPhase E) (isSaver : v.savers[k]? = some saver) (found : v.cells[c]? = some cell)
    (before : cell.saveGate = none ∨ cell.saveGate = some (.saver k))
    (after : cell'.saveGate = some (.saver k)) (cells : v'.cells = v.cells.set c cell')
    (marks : ∀ d, d ≠ c → v'.marked d = v.marked d)
    (savers : v'.savers = v.savers.set k { saver with phase := phase })
    (faults : v'.faults = v.faults)
    (slots : v'.dirtySlots + cell.dirtySlot.toNat = v.dirtySlots + cell'.dirtySlot.toNat)
    (bounded : v'.dirtySlots ≤ max) (registered : v'.dirtyPlayers = v'.dirtySince.card)
    (within : Saver.Within { saver with phase := phase })
    (held : ∀ d, d ∈ Saver.held { saver with phase := phase } ↔ d ∈ saver.held ∨ d = c)
    (others : ∀ d, d ≠ c → ∀ other marked, saver.phase.Agrees d other marked →
      phase.Agrees d (other : PlayerCell P) marked)
    (own : phase.Agrees c cell' (v'.marked c)) : Slotted max v' runners := by
  have touches := Vault.touches_of found cells marks
  refine {
    counted := ?_, bounded := bounded, registered := registered, known := inv.known_touch touches,
    free := inv.free_touch touches ?_, runners := ?_, savers := ?_, heldBySaver := ?_,
    noFault := faults.trans inv.noFault }
  · have owned := Pool.total_set (fun cell : PlayerCell P => cell.dirtySlot.toNat) cell' found
    have counted := inv.counted
    simp only [Vault.ownedSlots] at counted ⊢
    rw [cells]
    omega
  · intro isFree
    rw [after] at isFree
    cases isFree
  · intro i r there
    refine (inv.runners i r there).touch found ?_ touches
    intro gate
    cases before with
    | inl none => rw [none] at gate; cases gate
    | inr mine => rw [mine] at gate; cases gate
  · rw [savers]
    intro j other there
    cases Pool.get_set_cases there with
    | inl same =>
      obtain ⟨rfl, rfl⟩ := same
      refine ⟨?_, within⟩
      intro d isHeld
      by_cases same : d = c
      · subst same
        exact ⟨cell', touches.self, after, own⟩
      · have was : d ∈ saver.held := by
          cases (held d).mp isHeld with
          | inl was => exact was
          | inr new => exact absurd new same
        obtain ⟨behind, inside, gate, agrees⟩ := (inv.savers k saver isSaver).1 d was
        refine ⟨behind, ?_, gate, ?_⟩
        · rw [touches.others d same]
          exact inside
        · rw [touches.marks d same]
          exact others d same behind _ agrees
    | inr differ =>
      obtain ⟨ne, there⟩ := differ
      obtain ⟨agrees, inside⟩ := inv.savers j other there
      refine ⟨agrees.touch found ?_ touches, inside⟩
      intro gate
      cases before with
      | inl none => rw [none] at gate; cases gate
      | inr mine =>
        rw [mine] at gate
        cases gate
        exact ne rfl
  · rw [savers]
    intro d other j there gate
    by_cases isCell : d = c
    · subst isCell
      rw [touches.self] at there
      obtain rfl := Option.some.inj there
      rw [after] at gate
      cases gate
      exact ⟨_, Pool.get_set_self _ isSaver, (held d).mpr (.inr rfl)⟩
    · rw [touches.others d isCell] at there
      obtain ⟨holds, isHolder, isHeld⟩ := inv.heldBySaver d other j there gate
      by_cases mine : k = j
      · subst mine
        rw [isSaver] at isHolder
        obtain rfl := Option.some.inj isHolder
        exact ⟨_, Pool.get_set_self _ isSaver, (held d).mpr (.inl isHeld)⟩
      · exact ⟨holds, by rw [Pool.get_set_ne _ mine]; exact isHolder, isHeld⟩

/-- The saver moves on without touching a cell. -/
theorem Slotted.setSaver (inv : Slotted max v runners) (isSaver : v.savers[k]? = some saver)
    (within : Saver.Within { saver with phase := phase })
    (held : Saver.held { saver with phase := phase } = saver.held)
    (agrees : ∀ d cell marked, saver.phase.Agrees d cell marked →
      v.cells[d]? = some cell → phase.Agrees d cell marked) :
    Slotted max (v.setSaver k saver phase) runners := by
  refine { inv with savers := ?_, heldBySaver := ?_ }
  · intro j other there
    cases Pool.get_set_cases there with
    | inl same =>
      obtain ⟨rfl, rfl⟩ := same
      refine ⟨?_, within⟩
      intro d isHeld
      rw [held] at isHeld
      obtain ⟨cell, found, gate, agreed⟩ := (inv.savers k saver isSaver).1 d isHeld
      exact ⟨cell, found, gate, agrees d cell _ agreed found⟩
    | inr differ => exact inv.savers j other differ.2
  · intro d cell j found gate
    obtain ⟨holds, isHolder, isHeld⟩ := inv.heldBySaver d cell j found gate
    by_cases mine : k = j
    · subst mine
      rw [isSaver] at isHolder
      obtain rfl := Option.some.inj isHolder
      exact ⟨_, Pool.get_set_self _ isSaver, held.symm ▸ isHeld⟩
    · exact ⟨holds, by rw [Vault.setSaver, Pool.get_set_ne _ mine]; exact isHolder, isHeld⟩

theorem Vault.get_openGates {other : PlayerCell P} {d : Nat}
    (there : (v.openGates k).cells[d]? = some other) :
    ∃ cell, v.cells[d]? = some cell ∧ other.dirtySlot = cell.dirtySlot ∧ other.dirty = cell.dirty
      ∧ (cell.saveGate = some (.saver k) ∧ other.saveGate = none
        ∨ cell.saveGate ≠ some (.saver k) ∧ other = cell) := by
  simp only [Vault.openGates, List.getElem?_map, Option.map_eq_some_iff] at there
  obtain ⟨cell, found, same⟩ := there
  refine ⟨cell, found, ?_⟩
  split at same
  case isTrue mine =>
    subst same
    exact ⟨rfl, rfl, .inl ⟨mine, rfl⟩⟩
  case isFalse other =>
    subst same
    exact ⟨rfl, rfl, .inr ⟨other, rfl⟩⟩

theorem Vault.openGates_get {d : Nat} (found : v.cells[d]? = some cell)
    (foreign : cell.saveGate ≠ some (.saver k)) : (v.openGates k).cells[d]? = some cell := by
  simp only [Vault.openGates, List.getElem?_map, found, Option.map_some, foreign, if_false]

theorem Vault.openGates_slots (v : Vault P R E) (k : Nat) :
    (v.openGates k).ownedSlots = v.ownedSlots := by
  simp only [Vault.ownedSlots, Vault.openGates, Pool.total, List.map_map]
  congr 1
  apply List.map_congr_left
  intro cell _
  simp only [Function.comp]
  split <;> rfl

/-- The saver returns: whatever it held is settled. -/
theorem Slotted.closeSaver (inv : Slotted max v runners) (isSaver : v.savers[k]? = some saver)
    (settled : ∀ d cell marked, saver.phase.Agrees d cell marked → v.cells[d]? = some cell →
      d ∈ saver.held → cell.Settled marked) (result : Except E Unit) :
    Slotted max ((v.openGates k).setSaver k saver (.done result)) runners := by
  refine { inv with counted := ?_, known := ?_, free := ?_, runners := ?_, savers := ?_, heldBySaver := ?_ }
  · exact inv.counted.trans (congrArg (· + _) (v.openGates_slots k).symm)
  · intro c member
    have inside := inv.known c member
    change c < (v.cells.map _).length
    rwa [List.length_map]
  · intro c other there isFree
    obtain ⟨cell, found, slot, dirty, either⟩ := Vault.get_openGates there
    have before : cell.Settled (v.marked c) := by
      cases either with
      | inl mine =>
        obtain ⟨holder, isHolder, held⟩ := inv.heldBySaver c cell k found mine.1
        rw [isSaver] at isHolder
        obtain rfl := Option.some.inj isHolder
        obtain ⟨behind, inside, _, agrees⟩ := (inv.savers k saver isSaver).1 c held
        rw [found] at inside
        obtain rfl := Option.some.inj inside
        exact settled c cell _ agrees found held
      | inr others =>
        obtain ⟨_, rfl⟩ := others
        exact inv.free c other found isFree
    exact ⟨by rw [dirty, slot]; exact before.1, by rw [slot]; exact before.2⟩
  · intro i r there c stage held
    obtain ⟨cell, found, gate, agrees⟩ := inv.runners i r there c stage held
    exact ⟨cell, Vault.openGates_get found (by simp [gate]), gate, agrees⟩
  · intro j other there
    cases Pool.get_set_cases there with
    | inl same =>
      obtain ⟨rfl, rfl⟩ := same
      refine ⟨?_, trivial⟩
      intro d held
      cases held
    | inr differ =>
      obtain ⟨ne, there⟩ := differ
      obtain ⟨agrees, within⟩ := inv.savers j other there
      refine ⟨?_, within⟩
      intro d held
      obtain ⟨cell, found, gate, agreed⟩ := agrees d held
      refine ⟨cell, Vault.openGates_get found ?_, gate, agreed⟩
      rw [gate]
      intro same
      cases same
      exact ne rfl
  · intro c other j there gate
    obtain ⟨cell, found, _, _, either⟩ := Vault.get_openGates there
    cases either with
    | inl mine =>
      rw [mine.2] at gate
      cases gate
    | inr others =>
      obtain ⟨foreign, rfl⟩ := others
      obtain ⟨holder, isHolder, held⟩ := inv.heldBySaver c other j found gate
      refine ⟨holder, ?_, held⟩
      change (v.savers.set k _)[j]? = some holder
      rw [Pool.get_set_ne]
      · exact isHolder
      · rintro rfl
        exact foreign gate

/-- A cell of a saver that holds all its gates. -/
theorem Slotted.savedCell (inv : Slotted max v runners) (isSaver : v.savers[k]? = some saver)
    (held : c ∈ saver.held) (found : v.cells[c]? = some cell) :
    cell.saveGate = some (.saver k) ∧ saver.phase.Agrees c cell (v.marked c) := by
  obtain ⟨behind, inside, gate, agrees⟩ := (inv.savers k saver isSaver).1 c held
  rw [found] at inside
  obtain rfl := Option.some.inj inside
  exact ⟨gate, agrees⟩

/-! ## The steps of a saver -/

theorem Slotted.saveLock {next : Nat} (inv : Slotted max v runners) (isSaver : v.savers[k]? = some saver)
    (isPhase : saver.phase = .locking next) (entry : saver.entries[next]? = some c)
    (found : v.cells[c]? = some cell) (isFree : cell.saveGate = none) :
    Slotted max
      ((v.setCell c { cell with saveGate := some (.saver k) }).setSaver k saver (.locking (next + 1))) runners := by
  refine inv.saverStep _ _ isSaver found (.inl isFree) rfl rfl (fun _ _ => rfl) rfl rfl rfl inv.bounded
    inv.registered trivial ?_ ?_ (inv.free c cell found isFree)
  · intro d
    simp only [Saver.held, isPhase, List.take_add_one, entry, Option.toList_some, List.mem_append,
      List.mem_singleton]
  · intro d _ other marked agreed
    rw [isPhase] at agreed
    exact agreed

/-- All gates are held, and some of the players are dirty. -/
theorem Slotted.saveLocked {next : Nat} (inv : Slotted max v runners) (isSaver : v.savers[k]? = some saver)
    (isPhase : saver.phase = .locking next) (entry : saver.entries[next]? = none) {dirty : List Nat}
    (isDirty : dirty = saver.entries.filter fun c => v.cells[c]?.any PlayerCell.dirty) :
    Slotted max (v.setSaver k saver (.saving dirty dirty)) runners := by
  subst isDirty
  have all : saver.held = saver.entries := by
    simp only [Saver.held, isPhase]
    exact List.take_of_length_le (List.getElem?_eq_none_iff.mp entry)
  refine inv.setSaver isSaver ?_ all.symm ?_
  · refine ⟨fun c member => member, ?_⟩
    intro c member
    exact (List.mem_filter.mp member).1
  · intro d cell marked agreed found
    rw [isPhase] at agreed
    obtain ⟨isSettled, owns⟩ := agreed
    simp only [SaverPhase.Agrees, List.mem_filter, found, Option.any_some]
    split
    case isTrue isDirty => exact ⟨isSettled.symm.trans isDirty.2,
      owns.symm.trans (isSettled.symm.trans isDirty.2)⟩
    case isFalse => exact ⟨isSettled, owns⟩

/-- A saver that holds all its gates goes on with one of them. -/
theorem Saver.held_iff (before : saver.held = saver.entries)
    (after : Saver.held { saver with phase := phase } = saver.entries) (member : c ∈ saver.entries) (d : Nat) :
    d ∈ Saver.held { saver with phase := phase } ↔ d ∈ saver.held ∨ d = c := by
  rw [before, after]
  refine ⟨.inl, ?_⟩
  rintro (isEntry | rfl)
  · exact isEntry
  · exact member

theorem Slotted.saveOne {todo dirty : List Nat} (inv : Slotted max v runners) (isSaver : v.savers[k]? = some saver)
    (isPhase : saver.phase = .saving (c :: todo) dirty) (found : v.cells[c]? = some cell) (state : P)
    (wrote : Bool) :
    Slotted max
      (((v.write cell.gid cell.state wrote).setCell c { cell with state := state }).setSaver k saver
        (.saving todo dirty)) runners := by
  have within := (inv.savers k saver isSaver).2
  have isHeld : saver.held = saver.entries := by simp only [Saver.held, isPhase]
  simp only [Saver.Within, isPhase] at within
  have isDirty : c ∈ dirty := within.1 c List.mem_cons_self
  have inside : c ∈ saver.entries := within.2 c isDirty
  obtain ⟨gate, agreed⟩ := inv.savedCell isSaver (isHeld ▸ inside) found
  obtain ⟨cells, dirtySlots, dirtySince, dirtyPlayers, savers, faults⟩ :=
    v.write_rest cell.gid cell.state wrote
  refine inv.saverStep { cell with state := state } (.saving todo dirty)
    isSaver found (.inr gate) gate ?_ ?_ ?_ faults ?_ ?_ ?_ ?_ (Saver.held_iff isHeld rfl inside) ?_ ?_
  · exact congrArg (List.set · c { cell with state := state }) cells
  · intro d _
    change decide (d ∈ (v.write cell.gid cell.state wrote).dirtySince) = _
    rw [dirtySince]
    rfl
  · exact congrArg (List.set · k { saver with phase := .saving todo dirty }) savers
  · exact congrArg (· + cell.dirtySlot.toNat) dirtySlots
  · exact dirtySlots.trans_le inv.bounded
  · exact dirtyPlayers.trans (inv.registered.trans (congrArg Finset.card dirtySince).symm)
  · exact ⟨fun d member => within.1 d (List.mem_cons_of_mem _ member), within.2⟩
  · intro d _ other marked before
    rw [isPhase] at before
    exact before
  · rw [isPhase] at agreed
    simp only [SaverPhase.Agrees, isDirty, if_true] at agreed ⊢
    change _ ∧ decide (c ∈ (v.write cell.gid cell.state wrote).dirtySince) = true
    rw [dirtySince]
    exact agreed

/-- The store has answered: every player that was dirty has to be refreshed. -/
theorem Slotted.saveReturned {dirty : List Nat} (inv : Slotted max v runners) (isSaver : v.savers[k]? = some saver)
    (isPhase : saver.phase = .saving [] dirty) (result : Except E Unit) :
    Slotted max (v.setSaver k saver (.refreshing dirty result)) runners := by
  have within := (inv.savers k saver isSaver).2
  simp only [Saver.Within, isPhase] at within
  refine inv.setSaver isSaver within.2 ?_ ?_
  · simp only [Saver.held, isPhase]
  · intro d cell marked agreed _
    rw [isPhase] at agreed
    simp only [SaverPhase.Agrees] at agreed ⊢
    split
    case isTrue isTodo =>
      rw [if_pos isTodo] at agreed
      exact fun _ => agreed.1
    case isFalse notTodo =>
      rw [if_neg notTodo] at agreed
      exact agreed

/-- A player in `refreshing` has the slot that its dirtiness needs. -/
theorem Slotted.refreshing_slot {todo : List Nat} {result : Except E Unit} (inv : Slotted max v runners)
    (isSaver : v.savers[k]? = some saver) (isPhase : saver.phase = .refreshing (c :: todo) result)
    (found : v.cells[c]? = some cell) :
    cell.saveGate = some (.saver k) ∧ (cell.dirty = true → cell.dirtySlot = true) := by
  have within := (inv.savers k saver isSaver).2
  have isHeld : saver.held = saver.entries := by simp only [Saver.held, isPhase]
  simp only [Saver.Within, isPhase] at within
  obtain ⟨gate, agreed⟩ := inv.savedCell isSaver (isHeld ▸ within c List.mem_cons_self) found
  rw [isPhase] at agreed
  simp only [SaverPhase.Agrees, List.mem_cons, true_or, if_true] at agreed
  exact ⟨gate, agreed⟩

theorem Slotted.saveRefresh {todo : List Nat} {result : Except E Unit} {refreshed : Vault P R E} {isDirty : Bool}
    (inv : Slotted max v runners) (isSaver : v.savers[k]? = some saver)
    (isPhase : saver.phase = .refreshing (c :: todo) result) (found : v.cells[c]? = some cell)
    (isRefreshed : v.refreshSlot c cell = .ok (refreshed, isDirty)) :
    Slotted max (refreshed.setSaver k saver (.marking c isDirty todo result)) runners := by
  have bounded := inv.bounded
  have within := (inv.savers k saver isSaver).2
  have isHeld : saver.held = saver.entries := by simp only [Saver.held, isPhase]
  simp only [Saver.Within, isPhase] at within
  have inside := within c List.mem_cons_self
  obtain ⟨gate, agreed⟩ := inv.refreshing_slot isSaver isPhase found
  obtain ⟨_, isResult, either⟩ := inv.refreshSlot_ok found agreed
  rw [isResult] at isRefreshed
  cases isRefreshed
  have others : ∀ d, d ≠ c → ∀ other marked, saver.phase.Agrees d other marked →
      SaverPhase.Agrees d (other : PlayerCell P) marked (.marking c cell.dirty todo result) := by
    intro d differ other marked before
    rw [isPhase] at before
    simpa [SaverPhase.Agrees, differ] using before
  have stillWithin : Saver.Within { saver with phase := .marking c cell.dirty todo result } :=
    ⟨inside, fun d member => within d (List.mem_cons_of_mem _ member)⟩
  cases either with
  | inl unchanged =>
    obtain ⟨rfl, owns⟩ := unchanged
    refine inv.saverStep _ _ isSaver found (.inr gate) gate (Pool.set_self found).symm
      (fun _ _ => rfl) rfl rfl rfl bounded inv.registered stillWithin (Saver.held_iff isHeld rfl inside) others ?_
    simp [SaverPhase.Agrees, owns]
  | inr released =>
    obtain ⟨rfl, isClean, owns⟩ := released
    have atMost := inv.slot_le found
    rw [owns, Bool.toNat_true] at atMost
    refine inv.saverStep { cell with dirtySlot := false } _ isSaver found (.inr gate) gate rfl (fun _ _ => rfl)
      rfl rfl ?_ ?_ inv.registered stillWithin (Saver.held_iff isHeld rfl inside) others ?_
    · change v.dirtySlots - 1 + cell.dirtySlot.toNat = v.dirtySlots + 0
      rw [owns, Bool.toNat_true]
      omega
    · change v.dirtySlots - 1 ≤ max
      omega
    · simp only [SaverPhase.Agrees, if_true, isClean]
      exact ⟨isClean, trivial⟩

theorem Slotted.saveMark {isDirty : Bool} {todo : List Nat} {result : Except E Unit} (inv : Slotted max v runners)
    (isSaver : v.savers[k]? = some saver) (isPhase : saver.phase = .marking c isDirty todo result) :
    Slotted max ((v.markDirty c isDirty).setSaver k saver (.refreshing todo result)) runners := by
  obtain ⟨agrees, within⟩ := inv.savers k saver isSaver
  have isHeld : saver.held = saver.entries := by simp only [Saver.held, isPhase]
  simp only [Saver.Within, isPhase] at within
  obtain ⟨cell, found, gate, agreed⟩ := agrees c (isHeld ▸ within.1)
  rw [isPhase] at agreed
  simp only [SaverPhase.Agrees, if_true] at agreed
  obtain ⟨cells, dirtySlots, savers, faults⟩ := v.markDirty_cells c isDirty
  have nowMarked : (v.markDirty c isDirty).marked c = isDirty := by
    rw [Vault.marked_markDirty, if_pos rfl]
  refine inv.saverStep cell (.refreshing todo result) isSaver found (.inr gate)
    gate ?_ ?_ ?_ faults ?_ ?_ ?_ within.2 (Saver.held_iff isHeld rfl within.1) ?_ ?_
  · exact cells.trans (Pool.set_self found).symm
  · intro d differ
    change (v.markDirty c isDirty).marked d = _
    rw [Vault.marked_markDirty, if_neg differ]
  · exact congrArg (List.set · k { saver with phase := .refreshing todo result }) savers
  · exact congrArg (· + cell.dirtySlot.toNat) dirtySlots
  · exact dirtySlots.trans_le inv.bounded
  · exact Vault.markDirty_registered inv.registered c isDirty
  · intro d differ other marked before
    rw [isPhase] at before
    simpa [SaverPhase.Agrees, differ] using before
  · change SaverPhase.Agrees c cell ((v.markDirty c isDirty).marked c) _
    rw [nowMarked]
    simp only [SaverPhase.Agrees]
    -- an entry may be named twice, and is refreshed once more then
    split
    · intro nowDirty
      rw [agreed.2, ← agreed.1]
      exact nowDirty
    · exact ⟨agreed.1.trans agreed.2.symm, agreed.2⟩

theorem Slotted.save {choice : Choice P A E} (inv : Slotted max v runners)
    (isSaver : v.savers[k]? = some saver) (taken : v.save k saver saver.phase choice = some v') :
    Slotted max v' runners := by
  cases Vault.saves_of_save taken with
  | lock isPhase entry found isFree => exact inv.saveLock isSaver isPhase entry found isFree
  | allClean isPhase entry =>
    refine inv.closeSaver isSaver ?_ _
    intro d cell marked agreed _ _
    rw [isPhase] at agreed
    exact agreed
  | locked isPhase entry isDirty => exact inv.saveLocked isSaver isPhase entry isDirty
  | saved isPhase found => exact inv.saveOne isSaver isPhase found _ _
  | returned isPhase => exact inv.saveReturned isSaver isPhase _
  | refresh isPhase found isRefreshed => exact inv.saveRefresh isSaver isPhase found isRefreshed
  | refreshFault isPhase found isFault =>
    obtain ⟨_, agreed⟩ := inv.refreshing_slot isSaver isPhase found
    obtain ⟨_, isResult, _⟩ := inv.refreshSlot_ok found agreed
    rw [isResult] at isFault
    cases isFault
  | refreshed isPhase =>
    refine inv.closeSaver isSaver ?_ _
    intro d cell marked agreed _ _
    rw [isPhase] at agreed
    simp only [SaverPhase.Agrees, List.not_mem_nil, if_false] at agreed
    exact agreed
  | mark isPhase => exact inv.saveMark isSaver isPhase

end Save

end Xkk.Logic

import Xkk.Logic.SaverSlots

/-! # Dirty slots

`Slotted` holds in every reachable state.  It follows that only the holder of a
gate changes its player, and that a command which fails before its execution
leaves its player and the counters as they were.
-/

set_option linter.unusedSectionVars false

namespace Xkk.Logic

open Xkk.Lib

variable {P A R E : Type} [LogicState P] {max : Nat} {v v' : Vault P R E} {runners : List (Runner P A R E)}
  {c : Nat} {cell cell' : PlayerCell P}

/-! ## Runs -/

namespace Runtime

variable {config : LogicConfig} {s t : Runtime P A R E}

/-- The slots of the whole runtime are accounted for. -/
def SlotsAgree (config : LogicConfig) (s : Runtime P A R E) : Prop :=
  Slotted config.maxDirtyPlayers.toNat s.vault s.runners

/-- A runner that is not serving a command moves on. -/
theorem SlotsAgree.move (inv : SlotsAgree config s) {i : Nat} {r : Runner P A R E}
    (isRunner : s.runners[i]? = some r) (idle : r.permit = false)
    (phase : RunnerPhase P A R E) (permit : Runner.permit { r with phase := phase } = false)
    (held : Runner.held { r with phase := phase } = none) :
    Slotted config.maxDirtyPlayers.toNat s.vault (s.runners.set i { r with phase := phase }) :=
  inv.setRunner isRunner (permit.trans idle.symm) held

theorem held_loading (r : Runner P A R E) (envelope : Envelope P A R) :
    Runner.held ({ r with phase := .serving envelope .loading } : Runner P A R E) = none := by
  cases player : r.player with
  | none => simp [Runner.held]
  | some c => simp [Runner.held, Stage.holdsGate]

/-- `flush` starts savers and does nothing else. -/
theorem slotted_flush {max : Nat} {batches : List (List Nat)} {runners : List (Runner P A R E)} :
    ∀ {v v' : Vault P R E}, Slotted max v runners →
      batches.foldlM (fun (vault : Vault P R E) batch => vault.startSaver batch false) v = some v' →
      Slotted max v' runners := by
  induction batches with
  | nil =>
    intro v v' inv started
    cases started
    exact inv
  | cons batch rest ih =>
    intro v v' inv started
    simp only [List.foldlM_cons, Option.bind_eq_bind, Option.bind_eq_some_iff] at started
    obtain ⟨next, first, others⟩ := started
    exact ih (inv.startSaver first) others

theorem SlotsAgree.step (inv : SlotsAgree config s) (taken : Step config s t) :
    SlotsAgree config t := by
  cases taken with
  | tryUse | full | lock | lockNew | acquire | count | shutdown | shutMove | close | exchange
  | store => exact inv
  | lostSlot | slotDisappeared | emptyMailbox | inflightAtRetirement | differentGeneration => exact inv
  | push => split <;> exact inv
  | refuse =>
    split
    · exact inv
    · exact inv
  | spawn found spawning => exact Slotted.spawn inv rfl rfl
  | @take i r slot envelope rest isRunner waiting =>
    have idle : r.permit = false := by
      cases waiting with
      | inl taking => rw [Runner.permit, taking]
      | inr checking => rw [Runner.permit, checking]
    exact inv.move isRunner idle _ rfl (held_loading r envelope)
  | serve isRunner serving served => exact Slotted.serve inv isRunner serving served
  | finish isRunner finishing =>
    exact inv.move isRunner (by rw [Runner.permit, finishing]; rfl) _ rfl rfl
  | completeNext isRunner completing => exact inv.move isRunner (by rw [Runner.permit, completing]) _ rfl rfl
  | completeLast isRunner completing => exact inv.move isRunner (by rw [Runner.permit, completing]) _ rfl rfl
  | drop isRunner dropping => exact inv.move isRunner (by rw [Runner.permit, dropping]) _ rfl rfl
  | dropKib isRunner dropping => exact inv.move isRunner (by rw [Runner.permit, dropping]) _ rfl rfl
  | notifyNext isRunner notifying =>
    exact inv.move isRunner (by rw [Runner.permit, notifying]) _ rfl (held_loading _ _)
  | notifyLast isRunner notifying => exact inv.move isRunner (by rw [Runner.permit, notifying]) _ rfl rfl
  | peek isRunner retiring => exact inv.move isRunner (by rw [Runner.permit, retiring]) _ rfl rfl
  | peekNone isRunner retiring => exact inv.move isRunner (by rw [Runner.permit, retiring]) _ rfl rfl
  | insert ok isRunner inserting =>
    have moved := inv.move isRunner (by rw [Runner.permit, inserting]) .checking rfl rfl
    refine Slotted.frame moved ?_ ?_ ?_ ?_ ?_ ?_ <;> (cases ok <;> rfl)
  | retire isRunner checking => exact inv.move isRunner (by rw [Runner.permit, checking]) _ rfl rfl
  | leave isRunner leaving => exact inv.move isRunner (by rw [Runner.permit, leaving]) _ rfl rfl
  | startSaver started => exact Slotted.startSaver inv started
  | save isSaver saved => exact Slotted.save inv isSaver saved
  | evict | evicted => exact Slotted.frame inv rfl rfl rfl rfl rfl rfl
  | flush _ _ started => exact slotted_flush inv started

theorem slotsAgree_reach {config : ValidConfig} {C : Runtime P A R E → Label P A R E → Prop}
    (reached : (system P A R E config).Reach C s) : SlotsAgree config.toLogicConfig s :=
  Step.inv slotted_initial (fun _ _ inv taken => inv.step taken) reached

end Runtime

/-! ## Only the holder of a gate changes its player -/

/-- A runner changes no cell but its own. -/
theorem Vault.serveCell_touches {me : Nat} {envelope : Envelope P A R} {stage stage' : Stage P A R E}
    {choice : Choice P A E} (found : v.cells[c]? = some cell)
    (taken : v.serveCell max me envelope c cell stage choice = some (v', stage')) :
    ∃ cell', Vault.Touches v v' c cell' := by
  have same : ∀ w : Vault P R E, w.cells = v.cells → w.dirtySince = v.dirtySince →
      ∃ cell', Vault.Touches v w c cell' := by
    intro w cells dirtySince
    refine ⟨cell, Vault.touches_of found (cells.trans (Pool.set_self found).symm) ?_⟩
    intro d _
    rw [Vault.marked, dirtySince]
    rfl
  have set : ∀ (w : Vault P R E) cell', w.cells = v.cells.set c cell' → w.dirtySince = v.dirtySince →
      ∃ cell', Vault.Touches v w c cell' := by
    intro w cell' cells dirtySince
    refine ⟨cell', Vault.touches_of found cells ?_⟩
    intro d _
    rw [Vault.marked, dirtySince]
    rfl
  have marks : ∀ dirty, ∃ cell', Vault.Touches v (v.markDirty c dirty) c cell' := by
    intro dirty
    refine ⟨cell, Vault.touches_of found ?_ ?_⟩
    · rw [(v.markDirty_cells c dirty).1, Pool.set_self found]
    · intro d differ
      rw [Vault.marked_markDirty, if_neg differ]
  cases Vault.serves_of_serveCell taken with
  | loaded => exact same _ rfl rfl
  | gate _ => exact set _ _ rfl rfl
  | slotted _ => exact same _ rfl rfl
  | reserve _ _ => exact same _ rfl rfl
  | capacity _ => exact same _ rfl rfl
  | use _ => exact same _ rfl rfl
  | preload _ => exact same _ rfl rfl
  | preloaded _ => exact same _ rfl rfl
  | preloadFailed _ => exact same _ rfl rfl
  | execute => exact set _ _ rfl rfl
  | commit _ => exact set _ _ rfl rfl
  | commitFault _ => exact same _ rfl rfl
  | refresh isRefreshed =>
    obtain ⟨_, rfl | ⟨_, _, rfl⟩⟩ := Vault.refreshSlot_cases isRefreshed
    · exact same _ rfl rfl
    · exact set _ _ rfl rfl
  | refreshFault _ => exact same _ rfl rfl
  | markLogic => exact marks _
  | markSave => exact marks _
  | drop _ => exact same _ rfl rfl
  | dropFault _ => exact same _ rfl rfl
  | onward => exact same _ rfl rfl
  | clean _ => exact same _ rfl rfl
  | @saved value state wrote result _ =>
    obtain ⟨cells, _, dirtySince, _⟩ := v.write_rest cell.gid cell.state wrote
    exact set _ { cell with state := state } (congrArg (List.set · c _) cells) dirtySince
  | release => exact set _ _ rfl rfl

/-- A player whose gate a runner holds is out of the reach of a saver. -/
theorem Slotted.save_foreign {i k : Nat} {saver : Saver E} {choice : Choice P A E}
    (inv : Slotted max v runners) (isSaver : v.savers[k]? = some saver)
    (taken : v.save k saver saver.phase choice = some v') (found : v.cells[c]? = some cell)
    (gate : cell.saveGate = some (.runner i)) :
    v'.cells[c]? = some cell ∧ v'.marked c = v.marked c := by
  obtain ⟨_, within⟩ := inv.savers k saver isSaver
  -- it is none of the cells that the saver holds or may lock
  have apart : ∀ (d : Nat) other, v.cells[d]? = some other →
      other.saveGate = none ∨ d ∈ saver.held → c ≠ d := by
    intro d other there either same
    subst same
    rw [found] at there
    obtain rfl := Option.some.inj there
    cases either with
    | inl isFree =>
      rw [gate] at isFree
      cases isFree
    | inr held =>
      have mine := (inv.savedCell isSaver held found).1
      rw [gate] at mine
      cases mine
  have set : ∀ (w : Vault P R E) (d : Nat) other', c ≠ d → w.cells = v.cells.set d other' →
      w.cells[c]? = some cell := by
    intro w d other' differ cells
    rw [cells, Pool.get_set_ne _ differ.symm]
    exact found
  have opened : (v.openGates k).cells[c]? = some cell :=
    Vault.openGates_get found (by simp [gate])
  cases Vault.saves_of_save taken with
  | @lock next d other _ _ there isFree => exact ⟨set _ d _ (apart d other there (.inl isFree)) rfl, rfl⟩
  | allClean _ _ => exact ⟨opened, rfl⟩
  | locked _ _ _ => exact ⟨found, rfl⟩
  | @saved d todo dirty other state wrote result isPhase there =>
    simp only [Saver.Within, isPhase] at within
    have inside : d ∈ saver.held := by
      simp only [Saver.held, isPhase]
      exact within.2 d (within.1 d List.mem_cons_self)
    obtain ⟨cells, _, dirtySince, _⟩ := v.write_rest other.gid other.state wrote
    refine ⟨set _ d { other with state := state } (apart d other there (.inr inside))
      (congrArg (List.set · d _) cells), ?_⟩
    change decide (c ∈ (v.write other.gid other.state wrote).dirtySince) = _
    rw [dirtySince]
    rfl
  | returned _ => exact ⟨found, rfl⟩
  | @refresh d todo result other refreshed isDirty isPhase there isRefreshed =>
    simp only [Saver.Within, isPhase] at within
    have inside : d ∈ saver.held := by
      simp only [Saver.held, isPhase]
      exact within d List.mem_cons_self
    have differ := apart d other there (.inr inside)
    obtain ⟨_, rfl | ⟨_, _, rfl⟩⟩ := Vault.refreshSlot_cases isRefreshed
    · exact ⟨found, rfl⟩
    · exact ⟨set _ d _ differ rfl, rfl⟩
  | refreshFault _ _ _ => exact ⟨found, rfl⟩
  | refreshed _ => exact ⟨opened, rfl⟩
  | @mark d isDirty todo result isPhase =>
    simp only [Saver.Within, isPhase] at within
    have inside : d ∈ saver.held := by
      simp only [Saver.held, isPhase]
      exact within.1
    obtain ⟨other, there, _⟩ := (inv.savers k saver isSaver).1 d inside
    have differ := apart d other there (.inr inside)
    constructor
    · simp only [Vault.setSaver, (v.markDirty_cells d isDirty).1]
      exact found
    · change (v.markDirty d isDirty).marked c = v.marked c
      rw [Vault.marked_markDirty, if_neg differ]

/-- Nor can another runner reach it. -/
theorem Slotted.serve_foreign {i me : Nat} {r : Runner P A R E} {envelope : Envelope P A R}
    {stage stage' : Stage P A R E} {choice : Choice P A E} {player : Option Nat}
    (inv : Slotted max v runners) (isRunner : runners[me]? = some r)
    (phase : r.phase = .serving envelope stage)
    (taken : v.serve max me r.gid envelope r.player stage choice = some (v', player, stage'))
    (found : v.cells[c]? = some cell) (gate : cell.saveGate = some (.runner i)) (differ : me ≠ i) :
    v'.cells[c]? = some cell ∧ v'.marked c = v.marked c := by
  cases isPlayer : r.player with
  | none =>
    rw [isPlayer] at taken
    cases stage with
    | loading =>
      simp only [Vault.serve, Option.map_eq_some_iff] at taken
      obtain ⟨_, _, same⟩ := taken
      cases same
      exact ⟨found, rfl⟩
    | fetched state =>
      cases choice <;> cases taken
      exact ⟨Pool.get_append_of_some _ found, rfl⟩
    | _ => cases taken
  | some d =>
    rw [isPlayer] at taken
    simp only [Vault.serve, Option.bind_eq_some_iff, Option.map_eq_some_iff] at taken
    obtain ⟨other, there, ⟨w, next⟩, served, same⟩ := taken
    cases same
    obtain ⟨other', touches⟩ := Vault.serveCell_touches there served
    by_cases own : c = d
    · -- without the gate the runner can only wait for it
      subst own
      rw [found] at there
      obtain rfl := Option.some.inj there
      cases holds : stage.holdsGate with
      | true =>
        have mine := (inv.at ⟨isRunner, phase, isPlayer, found⟩ holds).1
        rw [gate] at mine
        cases mine
        exact absurd rfl differ
      | false =>
        cases Vault.serves_of_serveCell served with
        | loaded => exact ⟨found, rfl⟩
        | gate isFree =>
          rw [gate] at isFree
          cases isFree
        | _ => cases holds
    · refine ⟨?_, touches.marks c own⟩
      rw [touches.others c own]
      exact found

theorem Vault.startSaver_rest {entries : List Nat} {evicts : Bool}
    (taken : v.startSaver entries evicts = some v') :
    v'.cells = v.cells ∧ v'.dirtySince = v.dirtySince ∧ v'.cache = v.cache ∧ v'.stored = v.stored
      ∧ v'.executions = v.executions ∧ v'.dirtySlots = v.dirtySlots := by
  simp only [Vault.startSaver, Option.ite_none_right_eq_some, Option.some.injEq] at taken
  obtain ⟨_, rfl⟩ := taken
  exact ⟨rfl, rfl, rfl, rfl, rfl, rfl⟩

theorem Vault.flush_rest {batches : List (List Nat)} :
    ∀ {v v' : Vault P R E},
      batches.foldlM (fun (vault : Vault P R E) batch => vault.startSaver batch false) v = some v' →
      v'.cells = v.cells ∧ v'.dirtySince = v.dirtySince ∧ v'.cache = v.cache ∧ v'.stored = v.stored
        ∧ v'.executions = v.executions ∧ v'.dirtySlots = v.dirtySlots := by
  induction batches with
  | nil =>
    intro v v' started
    cases started
    exact ⟨rfl, rfl, rfl, rfl, rfl, rfl⟩
  | cons batch rest ih =>
    intro v v' started
    simp only [List.foldlM_cons, Option.bind_eq_bind, Option.bind_eq_some_iff] at started
    obtain ⟨next, first, others⟩ := started
    obtain ⟨cells, since, cache, stored, executions, slots⟩ := Vault.startSaver_rest first
    obtain ⟨cells', since', cache', stored', executions', slots'⟩ := ih others
    exact ⟨cells'.trans cells, since'.trans since, cache'.trans cache, stored'.trans stored,
      executions'.trans executions, slots'.trans slots⟩

/-! ## Commands that fail -/

/-- The gate is held and the command has not been executed, or will not be. -/
def Stage.unexecuted : Stage P A R E → Bool
  | .gated | .reserved _ | .preloading _ _ _ | .ready _ _ => true
  | .dropping _ (.release (.failed _)) | .releasing (.failed _) => true
  | _ => false

theorem Stage.holdsGate_of_unexecuted {stage : Stage P A R E} (before : stage.unexecuted = true) :
    stage.holdsGate = true := by
  cases stage with
  | loading | fetched | gating | finishing => cases before
  | _ => rfl

/-- As long as the command is not executed nothing happens to its player. -/
theorem Vault.serveCell_unexecuted {me : Nat} {envelope : Envelope P A R} {stage stage' : Stage P A R E}
    {choice : Choice P A E} (before : stage.unexecuted = true) (after : stage'.unexecuted = true)
    (taken : v.serveCell max me envelope c cell stage choice = some (v', stage')) :
    v'.cells = v.cells ∧ v'.dirtySince = v.dirtySince := by
  cases Vault.serves_of_serveCell taken with
  | slotted _ => exact ⟨rfl, rfl⟩
  | reserve _ _ => exact ⟨rfl, rfl⟩
  | capacity _ => exact ⟨rfl, rfl⟩
  | use _ => exact ⟨rfl, rfl⟩
  | preload _ => exact ⟨rfl, rfl⟩
  | preloaded _ => exact ⟨rfl, rfl⟩
  | preloadFailed _ => exact ⟨rfl, rfl⟩
  | drop _ => exact ⟨rfl, rfl⟩
  | dropFault _ => exact ⟨rfl, rfl⟩
  | onward => exact ⟨rfl, rfl⟩
  -- these execute the command or come after its execution
  | execute => cases after
  | release => cases after
  | _ => cases before

namespace Runtime

variable {config : LogicConfig} {s t : Runtime P A R E}

/-- The runner `i` holds the gate of `c` for a command that has not been executed. -/
def Unexecuted (i c : Nat) (s : Runtime P A R E) : Prop :=
  ∃ r envelope stage, s.runners[i]? = some r ∧ r.phase = .serving envelope stage
    ∧ r.player = some c ∧ stage.unexecuted = true

theorem SlotsAgree.unexecuted_step (inv : SlotsAgree config s) {i c : Nat} (before : Unexecuted i c s)
    (after : Unexecuted i c t) (taken : Step config s t) :
    t.vault.cells[c]? = s.vault.cells[c]? ∧ t.vault.marked c = s.vault.marked c := by
  obtain ⟨r, envelope, stage, isRunner, serving, player, unexecuted⟩ := before
  have held : r.held = some (c, stage) := by
    simp only [Runner.held, serving, player, Stage.holdsGate_of_unexecuted unexecuted, if_true]
  obtain ⟨cell, found, gate, _⟩ := inv.runners i r isRunner c stage held
  cases taken with
  | @serve j other _ _ _ _ _ _ isOther otherServing served =>
    by_cases same : j = i
    · subst same
      rw [isRunner] at isOther
      obtain rfl := Option.some.inj isOther
      rw [serving] at otherServing
      cases otherServing
      rw [player] at served
      simp only [Vault.serve, Option.bind_eq_some_iff, Option.map_eq_some_iff] at served
      obtain ⟨there, isThere, ⟨w, next⟩, moved, same⟩ := served
      cases same
      -- the runner's own step: it is still before the execution
      obtain ⟨r', envelope', stage', isRunner', serving', _, unexecuted'⟩ := after
      have moves := Pool.get_set_self
        ({ r with player := some c, phase := .serving envelope next } : Runner P A R E) isRunner
      change (s.runners.set j _)[j]? = some r' at isRunner'
      rw [moves] at isRunner'
      obtain rfl := Option.some.inj isRunner'
      cases serving'
      obtain ⟨cells, since⟩ := Vault.serveCell_unexecuted unexecuted unexecuted' moved
      dsimp only
      rw [cells, Vault.marked, since]
      exact ⟨rfl, rfl⟩
    · obtain ⟨stays, marked⟩ := Slotted.serve_foreign inv isOther otherServing served found gate same
      exact ⟨stays.trans found.symm, marked⟩
  | save isSaver saved =>
    obtain ⟨stays, marked⟩ := Slotted.save_foreign inv isSaver saved found gate
    exact ⟨stays.trans found.symm, marked⟩
  | startSaver started =>
    obtain ⟨cells, since, _⟩ := Vault.startSaver_rest started
    dsimp only
    rw [cells, Vault.marked, since]
    exact ⟨rfl, rfl⟩
  | flush _ _ started =>
    obtain ⟨cells, since, _⟩ := Vault.flush_rest started
    dsimp only
    rw [cells, Vault.marked, since]
    exact ⟨rfl, rfl⟩
  | insert ok => cases ok <;> exact ⟨rfl, rfl⟩
  | @push _ _ spawnRunner => cases spawnRunner <;> exact ⟨rfl, rfl⟩
  | @refuse _ _ spawnRunner => cases spawnRunner <;> exact ⟨rfl, rfl⟩
  | _ => exact ⟨rfl, rfl⟩

/-- The slots and permits of everybody but the runner `i` and its player `c`. -/
def othersSlots (s : Runtime P A R E) (i c : Nat) : Nat :=
  (s.vault.cells.eraseIdx c).countP PlayerCell.dirtySlot + (s.runners.eraseIdx i).countP Runner.permit

theorem countP_eraseIdx_add {α : Type} (p : α → Bool) {l : List α} {i : Nat} {a : α}
    (found : l[i]? = some a) : (l.eraseIdx i).countP p + (p a).toNat = l.countP p := by
  obtain ⟨inside, same⟩ := List.getElem?_eq_some_iff.mp found
  have split := (List.getElem_cons_eraseIdx_perm inside).countP_eq p
  rw [same, List.countP_cons] at split
  cases isP : p a <;> simp [isP] at split ⊢ <;> exact split

theorem total_toNat {α : Type} (p : α → Bool) (l : List α) :
    Pool.total (fun a => (p a).toNat) l = l.countP p := by
  induction l with
  | nil => rfl
  | cons head tail ih =>
    simp only [Pool.total_cons, List.countP_cons, ih]
    cases p head <;> simp [Nat.add_comm]

theorem SlotsAgree.counted_own (inv : SlotsAgree config s) {i c : Nat} {r : Runner P A R E}
    {cell : PlayerCell P} (isRunner : s.runners[i]? = some r) (found : s.vault.cells[c]? = some cell) :
    s.vault.dirtySlots = s.othersSlots i c + cell.dirtySlot.toNat + r.permit.toNat := by
  have counted := Slotted.counted inv
  have cells := countP_eraseIdx_add PlayerCell.dirtySlot found
  have runners := countP_eraseIdx_add Runner.permit isRunner
  simp only [Vault.ownedSlots, total_toNat] at counted
  simp only [othersSlots]
  omega

theorem SlotsAgree.unexecuted_run {config : ValidConfig} {i c : Nat}
    (reached : (system P A R E config).Reach System.Any s)
    (run : (system P A R E config).Run (fun u _ => Unexecuted i c u) s t) (stop : Unexecuted i c t) :
    t.vault.cells[c]? = s.vault.cells[c]? ∧ t.vault.marked c = s.vault.marked c := by
  have anywhere : ∀ {u}, (system P A R E config).Run (fun u _ => Unexecuted i c u) s u →
      SlotsAgree config.toLogicConfig u := by
    intro u before
    exact slotsAgree_reach (reached.run (before.mono (fun _ _ _ => trivial)))
  induction run with
  | refl => exact ⟨rfl, rfl⟩
  | step before isUnexecuted taken ih =>
    obtain ⟨cells, marked⟩ := ih isUnexecuted
    obtain ⟨cells', marked'⟩ := (anywhere before).unexecuted_step isUnexecuted stop (step_sound taken)
    exact ⟨cells'.trans cells, marked'.trans marked⟩

/-- Dirty slots over every interleaving of runners and savers: the counters are
    exact, the player agrees with them whenever its gate is free, no assertion
    fires, and a command that fails before its execution changes nothing. -/
theorem dirty_slots_agree {config : ValidConfig}
    (reached : (system P A R E config).Reach System.Any s) :
    s.vault.dirtySlots = s.vault.cells.countP PlayerCell.dirtySlot + s.runners.countP Runner.permit
    ∧ s.vault.dirtySlots ≤ config.maxDirtyPlayers.toNat
    ∧ s.vault.dirtyPlayers = s.vault.dirtySince.card
    ∧ (∀ (c : Nat) cell, s.vault.cells[c]? = some cell → cell.saveGate = none →
        (cell.dirty = true ↔ cell.dirtySlot = true)
        ∧ (cell.dirtySlot = true ↔ c ∈ s.vault.dirtySince))
    ∧ s.vault.faults = []
    ∧ ∀ (i c : Nat) (r r' : Runner P A R E) (envelope envelope' : Envelope P A R) error t,
        s.runners[i]? = some r → r.phase = .serving envelope .gated → r.player = some c →
        (system P A R E config).Run (fun u _ => Unexecuted i c u) s t →
        t.runners[i]? = some r' → r'.phase = .serving envelope' (.releasing (.failed error)) →
        r'.player = some c →
        t.vault.cells[c]? = s.vault.cells[c]?
        ∧ (c ∈ t.vault.dirtySince ↔ c ∈ s.vault.dirtySince)
        ∧ t.vault.dirtySlots + s.othersSlots i c = s.vault.dirtySlots + t.othersSlots i c := by
  have inv := slotsAgree_reach reached
  have counted := Slotted.counted inv
  simp only [Vault.ownedSlots, total_toNat] at counted
  refine ⟨counted, Slotted.bounded inv, Slotted.registered inv, ?_, Slotted.noFault inv, ?_⟩
  · intro c cell found isFree
    obtain ⟨dirty, owns⟩ := Slotted.free inv c cell found isFree
    refine ⟨by rw [dirty], ?_⟩
    rw [owns, Vault.marked, decide_eq_true_eq]
  · intro i c r r' envelope envelope' error t isRunner gated player run isRunner' releasing player'
    have stop : Unexecuted i c t := ⟨r', envelope', _, isRunner', releasing, player', rfl⟩
    obtain ⟨cells, marked⟩ := SlotsAgree.unexecuted_run reached run stop
    have inv' := slotsAgree_reach (reached.run (run.mono (fun _ _ _ => trivial)))
    have held : r.held = some (c, .gated) := by simp [Runner.held, gated, player, Stage.holdsGate]
    obtain ⟨cell, found, _⟩ := Slotted.runners inv i r isRunner c .gated held
    refine ⟨cells, ?_, ?_⟩
    · simp only [Vault.marked, decide_eq_decide] at marked
      exact marked
    · have before := inv.counted_own isRunner found
      have after := inv'.counted_own isRunner' (cells.trans found)
      simp only [Runner.permit, gated, releasing, Stage.permit, Bool.toNat_false] at before after
      omega

/-- A player earns a coin and the save fails. -/
def failedSave : List PurseLabel :=
  [.tryUse 7 1 Purse.earn] ++ enqueueAll 0 true ++ proceed 0 1 ++ [.run 0 (.fetched Purse.empty) true]
    ++ proceed 0 9 ++ [.run 0 (.saved ⟨1, true⟩ false (.error ())) true] ++ proceed 0 3

theorem failedSave_slots_agree :
    ∃ s : PurseRuntime, s.vault.dirtySlots = 1
      ∧ s.vault.dirtySlots = s.vault.cells.countP PlayerCell.dirtySlot + s.runners.countP Runner.permit := by
  have run : ∃ s, System.follow System.Any (step LogicConfig.HARD_LIMITS) (initial .hardLimits) failedSave
      = some s ∧ s.vault.dirtySlots = 1 := by
    decide +kernel
  obtain ⟨s, followed, one⟩ := run
  have reached : (system Purse Unit Unit Unit .hardLimits).Reach System.Any s :=
    System.reach_of_follow rfl followed
  exact ⟨s, one, (dirty_slots_agree reached).1⟩

end Runtime

end Xkk.Logic

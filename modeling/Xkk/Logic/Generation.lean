import Xkk.Logic.Directory
import Xkk.Logic.DirtySlots

/-! # The generation of a player

Most steps leave the players, the store and the cache alone (`Vault.Quiet`).
`Vault.serveCell_cases` and `Vault.save_cases` list those that do not: a command
is executed, or a saver has looked at a player.

A runner keeps the cell that it got from the cache.  Only the runner of a player
inserts into the cache under the player's gid, and there is one, so the cache
never holds another generation (`Located`).
-/

set_option linter.unusedSectionVars false

namespace Xkk.Logic

open Xkk.Lib

variable {P A R E : Type} [LogicState P] {max : Nat} {v v' : Vault P R E} {c : Nat}
  {cell cell' : PlayerCell P}

/-! ## Steps that leave the players alone -/

def PlayerCell.player (cell : PlayerCell P) : Gid × P := (cell.gid, cell.state)

structure Vault.Quiet (v v' : Vault P R E) : Prop where
  players : v'.cells.map PlayerCell.player = v.cells.map PlayerCell.player
  cache : v'.cache = v.cache
  first : v'.first = v.first
  stored : v'.stored = v.stored
  executions : v'.executions = v.executions

theorem Vault.Quiet.refl (v : Vault P R E) : Vault.Quiet v v := ⟨rfl, rfl, rfl, rfl, rfl⟩

theorem Vault.Quiet.symm (quiet : Vault.Quiet v v') : Vault.Quiet v' v :=
  ⟨quiet.players.symm, quiet.cache.symm, quiet.first.symm, quiet.stored.symm, quiet.executions.symm⟩

theorem Vault.Quiet.trans {w : Vault P R E} (first : Vault.Quiet v v') (second : Vault.Quiet v' w) :
    Vault.Quiet v w where
  players := second.players.trans first.players
  cache := second.cache.trans first.cache
  first := second.first.trans first.first
  stored := second.stored.trans first.stored
  executions := second.executions.trans first.executions

/-- A gate or a slot changes hands. -/
theorem Vault.Quiet.ofCell (found : v.cells[c]? = some cell) (cells : v'.cells = v.cells.set c cell')
    (player : cell'.player = cell.player) (cache : v'.cache = v.cache) (first : v'.first = v.first)
    (stored : v'.stored = v.stored) (executions : v'.executions = v.executions) :
    Vault.Quiet v v' where
  players := by
    rw [cells, List.map_set, player]
    apply Pool.set_self
    rw [List.getElem?_map, found]
    rfl
  cache := cache
  first := first
  stored := stored
  executions := executions

theorem Vault.markDirty_quiet (v : Vault P R E) (c : Nat) (dirty : Bool) :
    Vault.Quiet v (v.markDirty c dirty) := by
  unfold Vault.markDirty
  split <;> split <;> exact ⟨rfl, rfl, rfl, rfl, rfl⟩

theorem Vault.refreshSlot_quiet {dirty : Bool} (found : v.cells[c]? = some cell)
    (taken : v.refreshSlot c cell = .ok (v', dirty)) : Vault.Quiet v v' := by
  obtain ⟨_, rfl | ⟨_, _, rfl⟩⟩ := Vault.refreshSlot_cases taken
  · exact .refl _
  · exact .ofCell found rfl rfl rfl rfl rfl rfl

theorem Vault.commitSlot_player {permit rest : Bool}
    (taken : Vault.commitSlot cell permit = .ok (cell', rest)) : cell'.player = cell.player := by
  unfold Vault.commitSlot at taken
  split at taken
  · split at taken
    · cases taken
      rfl
    · cases taken
  · split at taken
    · cases taken
    · cases taken
      rfl

/-! ## The stages of a command -/

def Outcome.isCompleted : Outcome R E → Bool
  | .completed _ _ => true
  | .failed _ => false

/-- The command has been executed. -/
def Stage.ran : Stage P A R E → Bool
  | .executed _ _ | .refreshing _ | .marking _ _ | .saving _ | .dropping _ (.save _) => true
  | .dropping _ (.release outcome) | .releasing outcome | .finishing outcome => outcome.isCompleted
  | .loading | .fetched _ | .gating | .gated | .reserved _ | .preloading _ _ _ | .ready _ _ => false

/-- What the caller will receive, when this is known already. -/
def Stage.outcome : Stage P A R E → Option (Outcome R E)
  | .dropping _ (.release outcome) | .releasing outcome | .finishing outcome => some outcome
  | _ => none

/-- A command that fails does so with one of the errors of `run_gid`. -/
def Outcome.Served : Outcome R E → Prop
  | .failed .runtimeStopped => False
  | _ => True

def Stage.Served (stage : Stage P A R E) : Prop := ∀ outcome ∈ stage.outcome, outcome.Served

/-- How many stages may still follow. -/
def Stage.rank : Stage P A R E → Nat
  | .loading => 16
  | .fetched _ => 15
  | .gating => 14
  | .gated => 13
  | .reserved _ => 12
  | .preloading _ _ _ => 11
  | .ready _ _ => 10
  | .executed _ _ => 9
  | .refreshing (.logic _ _) => 8
  | .marking _ (.logic _ _) => 7
  | .dropping _ _ => 6
  | .saving _ => 5
  | .refreshing (.save _ _) => 4
  | .marking _ (.save _ _) => 3
  | .releasing _ => 2
  | .finishing _ => 1

def Stage.isFetched : Stage P A R E → Bool
  | .fetched _ => true
  | _ => false

/-- The command moves on, unless an assertion has failed. -/
structure Stage.Advances (v v' : Vault P R E) (stage stage' : Stage P A R E) : Prop where
  served : stage.Served → stage'.Served
  loaded : stage'.isFetched = false
  rank : v'.faults = v.faults → stage'.rank < stage.rank

theorem Stage.Advances.plain {stage stage' : Stage P A R E} (undecided : stage'.outcome = none)
    (loaded : stage'.isFetched = false) (rank : stage'.rank < stage.rank) : Stage.Advances v v' stage stage' where
  served := by
    intro _ outcome member
    rw [undecided] at member
    cases member
  loaded := loaded
  rank := fun _ => rank

theorem Stage.Advances.answers {stage stage' : Stage P A R E} {outcome : Outcome R E}
    (decided : stage'.outcome = some outcome) (loaded : stage'.isFetched = false) (served : outcome.Served)
    (rank : stage'.rank < stage.rank) : Stage.Advances v v' stage stage' where
  served := by
    intro _ other member
    rw [decided] at member
    obtain rfl := Option.some.inj member
    exact served
  loaded := loaded
  rank := fun _ => rank

theorem Vault.fault_ne (v : Vault P R E) (fault : Fault) : (v.fault fault).faults ≠ v.faults := by
  simp [Vault.fault]

theorem Stage.Advances.onward {permit : Bool} (onward : Onward R E) :
    Stage.Advances v v' (.dropping permit onward : Stage P A R E) onward.stage := by
  cases onward with
  | save value => exact .plain rfl rfl (by simp [Onward.stage, Stage.rank])
  | release outcome => exact ⟨fun served => served, rfl, fun _ => by simp [Onward.stage, Stage.rank]⟩

theorem Vault.Serves.advances {me : Nat} {envelope : Envelope P A R} {stage stage' : Stage P A R E}
    {choice : Choice P A E} (serves : Vault.Serves max v me envelope c cell stage choice v' stage') :
    Stage.Advances v v' stage stage' := by
  have stays : ∀ fault (stage : Stage P A R E), stage.isFetched = false →
      Stage.Advances v (v.fault fault) stage stage := by
    intro fault stage loaded
    exact ⟨fun served => served, loaded, fun same => absurd same (v.fault_ne fault)⟩
  cases serves with
  | loaded => exact .plain rfl rfl (by simp [Stage.rank])
  | gate _ => exact .plain rfl rfl (by simp [Stage.rank])
  | slotted _ => exact .plain rfl rfl (by simp [Stage.rank])
  | reserve _ _ => exact .plain rfl rfl (by simp [Stage.rank])
  | capacity _ => exact .answers rfl rfl trivial (by simp [Stage.rank])
  | use _ => exact .plain rfl rfl (by simp [Stage.rank])
  | preload _ => exact .plain rfl rfl (by simp [Stage.rank])
  | preloaded _ => exact .plain rfl rfl (by simp [Stage.rank])
  | preloadFailed _ => exact .answers rfl rfl trivial (by simp [Stage.rank])
  | execute => exact .plain rfl rfl (by simp [Stage.rank])
  | commit _ => exact .plain rfl rfl (by simp [Stage.rank])
  | commitFault _ => exact stays _ _ rfl
  | @refresh after _ _ _ =>
    refine .plain rfl rfl ?_
    cases after <;> simp [Stage.rank]
  | refreshFault _ => exact stays _ _ rfl
  | @markLogic dirty permit value =>
    cases dirty with
    | true => exact .plain rfl rfl (by simp [Stage.rank])
    | false => exact .answers rfl rfl trivial (by simp [Stage.rank])
  | markSave => exact .answers rfl rfl trivial (by simp [Stage.rank])
  | @drop onward _ => exact .onward onward
  | dropFault _ => exact stays _ _ rfl
  | @onward onward => exact .onward onward
  | clean _ => exact .answers rfl rfl trivial (by simp [Stage.rank])
  | saved _ => exact .plain rfl rfl (by simp [Stage.rank])
  | release => exact ⟨fun served => served, rfl, fun _ => by simp [Stage.rank]⟩

theorem Onward.ran_stage (onward : Onward R E) (permit : Bool) :
    (onward.stage : Stage P A R E).ran = (Stage.dropping permit onward : Stage P A R E).ran := by
  cases onward <;> rfl

theorem Vault.serveCell_cases {me : Nat} {envelope : Envelope P A R} {stage stage' : Stage P A R E}
    {choice : Choice P A E} (found : v.cells[c]? = some cell)
    (taken : v.serveCell max me envelope c cell stage choice = some (v', stage')) :
    Stage.Advances v v' stage stage' ∧
    ((Vault.Quiet v v' ∧ stage'.ran = stage.ran)
    ∨ (∃ permit logic, stage = .ready permit logic ∧ stage' = .executed permit (logic cell.state).1
        ∧ v' = { v.setCell c { cell with state := (logic cell.state).2 } with
            executions := Function.update v.executions cell.gid
              (v.executions cell.gid ++ [⟨envelope.id, logic, cell.state⟩]) })
    ∨ (∃ value state wrote result, stage = .saving value ∧ choice = .saved state wrote result
        ∧ cell.dirty = true ∧ stage' = .refreshing (.save value result)
        ∧ v' = (v.write cell.gid cell.state wrote).setCell c { cell with state := state })) := by
  have serves := Vault.serves_of_serveCell taken
  refine ⟨serves.advances, ?_⟩
  have quiet : ∀ fault, Vault.Quiet v (v.fault fault) := by
    intro fault
    exact ⟨rfl, rfl, rfl, rfl, rfl⟩
  cases serves with
  | loaded => exact .inl ⟨.refl v, rfl⟩
  | gate _ => exact .inl ⟨.ofCell found rfl rfl rfl rfl rfl rfl, rfl⟩
  | slotted _ => exact .inl ⟨.refl v, rfl⟩
  | reserve _ _ => exact .inl ⟨⟨rfl, rfl, rfl, rfl, rfl⟩, rfl⟩
  | capacity _ => exact .inl ⟨.refl v, rfl⟩
  | use _ => exact .inl ⟨.refl v, rfl⟩
  | preload _ => exact .inl ⟨.refl v, rfl⟩
  | preloaded _ => exact .inl ⟨.refl v, rfl⟩
  | preloadFailed _ => exact .inl ⟨.refl v, rfl⟩
  | @execute permit logic => exact .inr (.inl ⟨permit, logic, rfl, rfl, rfl⟩)
  | commit isCommitted =>
    exact .inl ⟨.ofCell found rfl (Vault.commitSlot_player isCommitted) rfl rfl rfl rfl, rfl⟩
  | commitFault _ => exact .inl ⟨quiet _, rfl⟩
  | refresh isRefreshed => exact .inl ⟨Vault.refreshSlot_quiet found isRefreshed, rfl⟩
  | refreshFault _ => exact .inl ⟨quiet _, rfl⟩
  | @markLogic dirty permit value =>
    refine .inl ⟨v.markDirty_quiet c dirty, ?_⟩
    cases dirty <;> rfl
  | markSave => exact .inl ⟨v.markDirty_quiet c _, rfl⟩
  | @drop onward _ => exact .inl ⟨⟨rfl, rfl, rfl, rfl, rfl⟩, onward.ran_stage true⟩
  | dropFault _ => exact .inl ⟨quiet _, rfl⟩
  | @onward onward => exact .inl ⟨.refl v, onward.ran_stage false⟩
  | clean _ => exact .inl ⟨.refl v, rfl⟩
  | @saved value state wrote result isDirty =>
    exact .inr (.inr ⟨value, state, wrote, result, rfl, rfl, isDirty, rfl, rfl⟩)
  | release => exact .inl ⟨.ofCell found rfl rfl rfl rfl rfl rfl, rfl⟩

/-! ## The steps of a saver -/

theorem Vault.save_cases {k : Nat} {saver : Saver E} {choice : Choice P A E}
    (taken : v.save k saver saver.phase choice = some v') :
    Vault.Quiet v v'
    ∨ ∃ c todo dirty cell state wrote result, saver.phase = .saving (c :: todo) dirty
        ∧ choice = .saved state wrote result ∧ v.cells[c]? = some cell
        ∧ v' = ((v.write cell.gid cell.state wrote).setCell c { cell with state := state }).setSaver
            k saver (.saving todo dirty) := by
  have opened : Vault.Quiet v (v.openGates k) := by
    refine ⟨?_, rfl, rfl, rfl, rfl⟩
    simp only [Vault.openGates, List.map_map]
    apply List.map_congr_left
    intro cell _
    simp only [Function.comp_apply]
    split <;> rfl
  cases Vault.saves_of_save taken with
  | lock _ _ found _ => exact .inl (.ofCell found rfl rfl rfl rfl rfl rfl)
  | allClean _ _ => exact .inl (opened.trans ⟨rfl, rfl, rfl, rfl, rfl⟩)
  | locked _ _ _ => exact .inl ⟨rfl, rfl, rfl, rfl, rfl⟩
  | @saved c todo dirty cell state wrote result isPhase found =>
    exact .inr ⟨c, todo, dirty, cell, state, wrote, result, isPhase, rfl, found, rfl⟩
  | returned _ => exact .inl ⟨rfl, rfl, rfl, rfl, rfl⟩
  | refresh _ found isRefreshed =>
    exact .inl ((Vault.refreshSlot_quiet found isRefreshed).trans ⟨rfl, rfl, rfl, rfl, rfl⟩)
  | refreshFault _ _ _ => exact .inl ⟨rfl, rfl, rfl, rfl, rfl⟩
  | refreshed _ => exact .inl (opened.trans ⟨rfl, rfl, rfl, rfl, rfl⟩)
  | mark _ => exact .inl ((v.markDirty_quiet _ _).trans ⟨rfl, rfl, rfl, rfl, rfl⟩)

theorem Vault.startSaver_quiet {entries : List Nat} {evicts : Bool}
    (taken : v.startSaver entries evicts = some v') : Vault.Quiet v v' := by
  simp only [Vault.startSaver, Option.ite_none_right_eq_some, Option.some.injEq] at taken
  obtain ⟨_, rfl⟩ := taken
  exact ⟨rfl, rfl, rfl, rfl, rfl⟩

theorem Vault.flush_quiet {batches : List (List Nat)} :
    ∀ {v v' : Vault P R E},
      batches.foldlM (fun (vault : Vault P R E) batch => vault.startSaver batch false) v = some v' →
      Vault.Quiet v v' := by
  induction batches with
  | nil =>
    intro v v' started
    cases started
    exact .refl v
  | cons batch rest ih =>
    intro v v' started
    simp only [List.foldlM_cons, Option.bind_eq_bind, Option.bind_eq_some_iff] at started
    obtain ⟨next, first, others⟩ := started
    exact (Vault.startSaver_quiet first).trans (ih others)

/-! ## The player of a runner -/

theorem Vault.serve_cases {me : Nat} {gid : Gid} {envelope : Envelope P A R} {player player' : Option Nat}
    {stage stage' : Stage P A R E} {choice : Choice P A E}
    (taken : v.serve max me gid envelope player stage choice = some (v', player', stage')) :
    (∃ c cell, player = some c ∧ player' = some c ∧ v.cells[c]? = some cell
      ∧ v.serveCell max me envelope c cell stage choice = some (v', stage'))
    ∨ (player = none ∧ stage = .loading ∧ v' = v
      ∧ ((∃ c, v.cache gid = some c ∧ player' = some c ∧ stage' = .gating)
        ∨ (∃ error, player' = none ∧ stage' = .finishing (.failed (mapCacheError error)))
        ∨ (∃ state, choice = .fetched state ∧ v.cache gid = none ∧ player' = none
          ∧ stage' = .fetched state)))
    ∨ (∃ state, player = none ∧ stage = .fetched state ∧ v' = v.insertLoaded gid state
      ∧ player' = some v.cells.length ∧ stage' = .gating) := by
  cases player with
  | some c =>
    simp only [Vault.serve, Option.bind_eq_some_iff, Option.map_eq_some_iff] at taken
    obtain ⟨cell, found, ⟨w, next⟩, served, same⟩ := taken
    cases same
    exact .inl ⟨c, cell, rfl, rfl, found, served⟩
  | none =>
    cases stage with
    | loading =>
      simp only [Vault.serve, Option.map_eq_some_iff] at taken
      obtain ⟨⟨loaded, next⟩, isLoaded, same⟩ := taken
      cases same
      refine .inr (.inl ⟨rfl, rfl, rfl, ?_⟩)
      cases choice with
      | go =>
        obtain ⟨c, resident, same⟩ := Option.map_eq_some_iff.mp isLoaded
        cases same
        exact .inl ⟨c, resident, rfl, rfl⟩
      | cacheError error =>
        cases isLoaded
        exact .inr (.inl ⟨error, rfl, rfl⟩)
      | fetched state =>
        simp only [Vault.load, Option.ite_none_right_eq_some, Option.some.injEq] at isLoaded
        obtain ⟨absent, same⟩ := isLoaded
        cases same
        exact .inr (.inr ⟨state, rfl, absent, rfl, rfl⟩)
      | _ => cases isLoaded
    | fetched state =>
      cases choice <;> cases taken
      exact .inr (.inr ⟨state, rfl, rfl, rfl, rfl, rfl⟩)
    | _ => cases taken

/-- From the gate on the runner has its player. -/
def Stage.placed : Stage P A R E → Option Nat → Prop
  | .loading, _ | .finishing _, _ => True
  | .fetched _, player => player = none
  | _, player => player.isSome = true

theorem Stage.placed_of_loaded {stage : Stage P A R E} (c : Nat) (loaded : stage.isFetched = false) :
    stage.placed (some c) ∧ ∀ state, stage ≠ .fetched state := by
  cases stage with
  | fetched => cases loaded
  | _ => exact ⟨by simp [Stage.placed], by simp⟩

def Vault.gids (v : Vault P R E) : List Gid := v.cells.map PlayerCell.gid

theorem Vault.Quiet.gids (quiet : Vault.Quiet v v') : v'.gids = v.gids := by
  have firsts := congrArg (List.map Prod.fst) quiet.players
  simpa [Vault.gids, PlayerCell.player, Function.comp_def] using firsts

theorem Vault.gids_setCell (state : P) (found : v.cells[c]? = some cell)
    (cells : v'.cells = v.cells.set c { cell with state := state }) : v'.gids = v.gids := by
  simp only [Vault.gids, cells, List.map_set]
  apply Pool.set_self
  rw [List.getElem?_map, found]
  rfl

/-- A command keeps the gids and the cache. -/
theorem Vault.serveCell_located {me : Nat} {envelope : Envelope P A R} {stage stage' : Stage P A R E}
    {choice : Choice P A E} (found : v.cells[c]? = some cell)
    (taken : v.serveCell max me envelope c cell stage choice = some (v', stage')) :
    v'.gids = v.gids ∧ v'.cache = v.cache := by
  obtain ⟨_, quiet | ⟨permit, logic, _, _, rfl⟩ | ⟨value, state, wrote, result, _, _, _, _, rfl⟩⟩ :=
    Vault.serveCell_cases found taken
  · exact ⟨quiet.1.gids, quiet.1.cache⟩
  · exact ⟨Vault.gids_setCell _ found rfl, rfl⟩
  · refine ⟨Vault.gids_setCell state found ?_, v.write_cache cell.gid cell.state wrote⟩
    simp only [Vault.setCell, (v.write_rest cell.gid cell.state wrote).1]

theorem Vault.save_located {k : Nat} {saver : Saver E} {choice : Choice P A E}
    (taken : v.save k saver saver.phase choice = some v') : v'.gids = v.gids ∧ v'.cache = v.cache := by
  obtain quiet | ⟨c, todo, dirty, cell, state, wrote, result, _, _, found, rfl⟩ := Vault.save_cases taken
  · exact ⟨quiet.gids, quiet.cache⟩
  · constructor
    · apply Vault.gids_setCell state found
      simp only [Vault.setSaver, Vault.setCell, (v.write_rest cell.gid cell.state wrote).1]
    · exact v.write_cache cell.gid cell.state wrote

namespace Runtime

variable {config : LogicConfig} {s t : Runtime P A R E}

structure Located (s : Runtime P A R E) : Prop where
  cache : ∀ gid c, s.vault.cache gid = some c → s.vault.gids[c]? = some gid
  player : ∀ (i : Nat) r c, s.runners[i]? = some r → r.player = some c →
    s.vault.gids[c]? = some r.gid
  generation : ∀ (i : Nat) r c resident, s.runners[i]? = some r → r.phase.owns = true →
    r.player = some c → s.vault.cache r.gid = some resident → resident = c
  inserting : ∀ (i : Nat) r c, s.runners[i]? = some r → r.phase = .inserting c → r.player = some c
  placed : ∀ (i : Nat) r envelope stage, s.runners[i]? = some r → r.phase = .serving envelope stage →
    stage.placed r.player
  -- nobody else loads the player
  fetched : ∀ (i : Nat) r envelope state, s.runners[i]? = some r →
    r.phase = .serving envelope (.fetched state) → s.vault.cache r.gid = none

theorem located_initial (config : ValidConfig) :
    Located (Runtime.initial config : Runtime P A R E) where
  cache := by intro gid c resident; cases resident
  player := by intro i r c found; simp [Runtime.initial] at found
  generation := by intro i r c resident found; simp [Runtime.initial] at found
  inserting := by intro i r c found; simp [Runtime.initial] at found
  placed := by intro i r envelope stage found; simp [Runtime.initial] at found
  fetched := by intro i r envelope state found; simp [Runtime.initial] at found

theorem Located.cell_of (located : Located s) {i c : Nat} {r : Runner P A R E} (isRunner : s.runners[i]? = some r)
    (player : r.player = some c) : ∃ cell, s.vault.cells[c]? = some cell ∧ cell.gid = r.gid := by
  have ofRunner := located.player i r c isRunner player
  rw [Vault.gids, List.getElem?_map] at ofRunner
  exact Option.map_eq_some_iff.mp ofRunner

theorem Located.gid_of (located : Located s) {i c : Nat} {r : Runner P A R E} {cell : PlayerCell P}
    (isRunner : s.runners[i]? = some r) (player : r.player = some c) (found : s.vault.cells[c]? = some cell) :
    cell.gid = r.gid := by
  obtain ⟨other, there, isGid⟩ := located.cell_of isRunner player
  rw [found] at there
  rw [Option.some.inj there]
  exact isGid

/-- The vault loses at most an entry of its cache. -/
theorem Located.frame (inv : Located s) (runners : t.runners = s.runners)
    (gids : t.vault.gids = s.vault.gids)
    (cache : ∀ gid, t.vault.cache gid = s.vault.cache gid ∨ t.vault.cache gid = none) : Located t where
  cache := by
    intro gid c resident
    rw [gids]
    cases cache gid with
    | inl same => exact inv.cache gid c (same ▸ resident)
    | inr gone =>
      rw [gone] at resident
      cases resident
  player := by rw [runners, gids]; exact inv.player
  generation := by
    rw [runners]
    intro i r c resident isRunner owns player there
    cases cache r.gid with
    | inl same => exact inv.generation i r c resident isRunner owns player (same ▸ there)
    | inr gone =>
      rw [gone] at there
      cases there
  inserting := by rw [runners]; exact inv.inserting
  placed := by rw [runners]; exact inv.placed
  fetched := by
    rw [runners]
    intro i r envelope state isRunner fetched
    cases cache r.gid with
    | inl same =>
      rw [same]
      exact inv.fetched i r envelope state isRunner fetched
    | inr gone => exact gone

/-- A runner moves on with the player that it has. -/
theorem Located.setRunner (inv : Located s) {i : Nat} {r r' : Runner P A R E}
    (isRunner : s.runners[i]? = some r) (runners : t.runners = s.runners.set i r')
    (gids : t.vault.gids = s.vault.gids) (cache : t.vault.cache = s.vault.cache)
    (gid : r'.gid = r.gid) (player : r'.player = r.player)
    (owns : r'.phase.owns = true → r.phase.owns = true)
    (inserting : ∀ c, r'.phase = .inserting c → r'.player = some c)
    (placed : ∀ envelope stage, r'.phase = .serving envelope stage → stage.placed r'.player
      ∧ ∀ state, stage = .fetched state → s.vault.cache r'.gid = none) : Located t where
  cache := by rw [gids, cache]; exact inv.cache
  player := by
    rw [runners, gids]
    intro j other c there isPlayer
    cases Pool.get_set_cases there with
    | inl same =>
      obtain ⟨rfl, rfl⟩ := same
      rw [gid]
      exact inv.player i r c isRunner (player ▸ isPlayer)
    | inr differ => exact inv.player j other c differ.2 isPlayer
  generation := by
    rw [runners, cache]
    intro j other c resident there isOwner isPlayer
    cases Pool.get_set_cases there with
    | inl same =>
      obtain ⟨rfl, rfl⟩ := same
      rw [gid]
      exact inv.generation i r c resident isRunner (owns isOwner) (player ▸ isPlayer)
    | inr differ => exact inv.generation j other c resident differ.2 isOwner isPlayer
  inserting := by
    rw [runners]
    intro j other c there isInserting
    cases Pool.get_set_cases there with
    | inl same =>
      obtain ⟨rfl, rfl⟩ := same
      exact inserting c isInserting
    | inr differ => exact inv.inserting j other c differ.2 isInserting
  placed := by
    rw [runners]
    intro j other envelope stage there serving
    cases Pool.get_set_cases there with
    | inl same =>
      obtain ⟨rfl, rfl⟩ := same
      exact (placed envelope stage serving).1
    | inr differ => exact inv.placed j other envelope stage differ.2 serving
  fetched := by
    rw [runners, cache]
    intro j other envelope state there serving
    cases Pool.get_set_cases there with
    | inl same =>
      obtain ⟨rfl, rfl⟩ := same
      exact (placed envelope _ serving).2 state rfl
    | inr differ => exact inv.fetched j other envelope state differ.2 serving

theorem Located.spawn (inv : Located s) {r : Runner P A R E} (noPlayer : r.player = none)
    (taking : r.phase = .taking) (vault : t.vault = s.vault) (runners : t.runners = s.runners ++ [r]) :
    Located t where
  cache := by rw [vault]; exact inv.cache
  player := by
    rw [runners, vault]
    intro j other c there isPlayer
    cases Pool.get_append_cases there with
    | inl new =>
      obtain ⟨_, rfl⟩ := new
      rw [noPlayer] at isPlayer
      cases isPlayer
    | inr old => exact inv.player j other c old.2 isPlayer
  generation := by
    rw [runners, vault]
    intro j other c resident there isOwner isPlayer
    cases Pool.get_append_cases there with
    | inl new =>
      obtain ⟨_, rfl⟩ := new
      rw [noPlayer] at isPlayer
      cases isPlayer
    | inr old => exact inv.generation j other c resident old.2 isOwner isPlayer
  inserting := by
    rw [runners]
    intro j other c there isInserting
    cases Pool.get_append_cases there with
    | inl new =>
      obtain ⟨_, rfl⟩ := new
      rw [taking] at isInserting
      cases isInserting
    | inr old => exact inv.inserting j other c old.2 isInserting
  placed := by
    rw [runners]
    intro j other envelope stage there serving
    cases Pool.get_append_cases there with
    | inl new =>
      obtain ⟨_, rfl⟩ := new
      rw [taking] at serving
      cases serving
    | inr old => exact inv.placed j other envelope stage old.2 serving
  fetched := by
    rw [runners, vault]
    intro j other envelope state there serving
    cases Pool.get_append_cases there with
    | inl new =>
      obtain ⟨_, rfl⟩ := new
      rw [taking] at serving
      cases serving
    | inr old => exact inv.fetched j other envelope state old.2 serving

/-- The player of a gid comes into the cache through the runner of that gid. -/
theorem Located.insert (inv : Located s) (owned : Owned config s) {i c : Nat} {r r' : Runner P A R E}
    (isRunner : s.runners[i]? = some r) (owns : r.phase.owns = true)
    (runners : t.runners = s.runners.set i r')
    (cache : t.vault.cache = Function.update s.vault.cache r.gid (some c))
    (gids : ∀ (d : Nat) gid, s.vault.gids[d]? = some gid → t.vault.gids[d]? = some gid)
    (own : t.vault.gids[c]? = some r.gid) (gid : r'.gid = r.gid) (player : r'.player = some c)
    (inserting : ∀ d, r'.phase ≠ .inserting d)
    (placed : ∀ envelope stage, r'.phase = .serving envelope stage →
      stage.placed r'.player ∧ ∀ state, stage ≠ .fetched state) : Located t where
  cache := by
    rw [cache]
    intro g d resident
    by_cases same : g = r.gid
    · rw [same, Function.update_self] at resident
      obtain rfl := Option.some.inj resident
      rw [same]
      exact own
    · rw [Function.update_of_ne same] at resident
      exact gids d g (inv.cache g d resident)
  player := by
    rw [runners]
    intro j other d there isPlayer
    cases Pool.get_set_cases there with
    | inl same =>
      obtain ⟨rfl, rfl⟩ := same
      rw [player] at isPlayer
      obtain rfl := Option.some.inj isPlayer
      rw [gid]
      exact own
    | inr differ => exact gids d _ (inv.player j other d differ.2 isPlayer)
  generation := by
    rw [runners, cache]
    intro j other d resident there isOwner isPlayer isResident
    cases Pool.get_set_cases there with
    | inl same =>
      obtain ⟨rfl, rfl⟩ := same
      rw [gid, Function.update_self] at isResident
      rw [player] at isPlayer
      exact (Option.some.inj isResident).symm.trans (Option.some.inj isPlayer)
    | inr differ =>
      rw [Function.update_of_ne] at isResident
      · exact inv.generation j other d resident differ.2 isOwner isPlayer isResident
      · intro same
        exact differ.1 (owned.runner_unique isRunner differ.2 owns isOwner same.symm)
  inserting := by
    rw [runners]
    intro j other d there isInserting
    cases Pool.get_set_cases there with
    | inl same =>
      obtain ⟨rfl, rfl⟩ := same
      exact absurd isInserting (inserting d)
    | inr differ => exact inv.inserting j other d differ.2 isInserting
  placed := by
    rw [runners]
    intro j other envelope stage there serving
    cases Pool.get_set_cases there with
    | inl same =>
      obtain ⟨rfl, rfl⟩ := same
      exact (placed envelope stage serving).1
    | inr differ => exact inv.placed j other envelope stage differ.2 serving
  fetched := by
    rw [runners, cache]
    intro j other envelope state there serving
    cases Pool.get_set_cases there with
    | inl same =>
      obtain ⟨rfl, rfl⟩ := same
      exact absurd rfl ((placed envelope _ serving).2 state)
    | inr differ =>
      rw [Function.update_of_ne]
      · exact inv.fetched j other envelope state differ.2 serving
      · intro same
        have isOwner : other.phase.owns = true := by rw [serving]; rfl
        exact differ.1 (owned.runner_unique isRunner differ.2 owns isOwner same.symm)

/-- The runner takes the player that the cache holds. -/
theorem Located.hit (inv : Located s) {i c : Nat} {r : Runner P A R E} {envelope : Envelope P A R}
    (resident : s.vault.cache r.gid = some c) :
    Located { s with
      runners := s.runners.set i { r with player := some c, phase := .serving envelope .gating } } where
  cache := inv.cache
  player := by
    intro j other d there isPlayer
    cases Pool.get_set_cases there with
    | inl same =>
      obtain ⟨rfl, rfl⟩ := same
      obtain rfl := Option.some.inj isPlayer
      exact inv.cache r.gid c resident
    | inr differ => exact inv.player j other d differ.2 isPlayer
  generation := by
    intro j other d resident' there isOwner isPlayer isResident
    cases Pool.get_set_cases there with
    | inl same =>
      obtain ⟨rfl, rfl⟩ := same
      obtain rfl := Option.some.inj isPlayer
      exact Option.some.inj (isResident.symm.trans resident)
    | inr differ => exact inv.generation j other d resident' differ.2 isOwner isPlayer isResident
  inserting := by
    intro j other d there isInserting
    cases Pool.get_set_cases there with
    | inl same =>
      obtain ⟨rfl, rfl⟩ := same
      cases isInserting
    | inr differ => exact inv.inserting j other d differ.2 isInserting
  placed := by
    intro j other envelope stage there serving
    cases Pool.get_set_cases there with
    | inl same =>
      obtain ⟨rfl, rfl⟩ := same
      cases serving
      rfl
    | inr differ => exact inv.placed j other envelope stage differ.2 serving
  fetched := by
    intro j other envelope state there serving
    cases Pool.get_set_cases there with
    | inl same =>
      obtain ⟨rfl, rfl⟩ := same
      cases serving
    | inr differ => exact inv.fetched j other envelope state differ.2 serving

theorem Located.serve (inv : Located s) (owned : Owned config s) {i max : Nat} {r : Runner P A R E}
    {envelope : Envelope P A R} {stage stage' : Stage P A R E} {choice : Choice P A E}
    {vault : Vault P R E} {player : Option Nat} (isRunner : s.runners[i]? = some r)
    (serving : r.phase = .serving envelope stage)
    (served : s.vault.serve max i r.gid envelope r.player stage choice = some (vault, player, stage')) :
    Located { s with
      vault := vault
      runners := s.runners.set i { r with player := player, phase := .serving envelope stage' } } := by
  have owns : r.phase.owns = true := by rw [serving]; rfl
  obtain ⟨c, cell, isPlayer, rfl, found, served⟩ | ⟨noPlayer, rfl, rfl, loaded⟩
    | ⟨state, noPlayer, rfl, rfl, rfl, rfl⟩ := Vault.serve_cases served
  · obtain ⟨gids, cache⟩ := Vault.serveCell_located found served
    obtain ⟨placed, noFetch⟩ := Stage.placed_of_loaded c (Vault.serveCell_cases found served).1.loaded
    refine inv.setRunner isRunner rfl gids cache rfl isPlayer.symm (fun _ => owns) ?_ ?_
    · intro d isInserting
      cases isInserting
    · intro envelope' stage'' same
      cases same
      exact ⟨placed, fun state isFetched => absurd isFetched (noFetch state)⟩
  · obtain ⟨c, resident, rfl, rfl⟩ | ⟨error, rfl, rfl⟩ | ⟨state, _, absent, rfl, rfl⟩ := loaded
    · exact inv.hit resident
    · refine inv.setRunner isRunner rfl rfl rfl rfl noPlayer.symm (fun _ => owns) ?_ ?_
      · intro d isInserting
        cases isInserting
      · intro envelope' stage'' same
        cases same
        exact ⟨trivial, fun state isFetched => by cases isFetched⟩
    · refine inv.setRunner isRunner rfl rfl rfl rfl noPlayer.symm (fun _ => owns) ?_ ?_
      · intro d isInserting
        cases isInserting
      · intro envelope' stage'' same
        cases same
        exact ⟨rfl, fun _ _ => absent⟩
  · refine inv.insert owned isRunner owns rfl rfl ?_ ?_ rfl rfl ?_ ?_
    · intro d gid isGid
      simp only [Vault.insertLoaded, Vault.gids, List.map_append, List.map_cons, List.map_nil]
      exact Pool.get_append_of_some _ isGid
    · simp [Vault.insertLoaded, Vault.gids]
    · intro d isInserting
      cases isInserting
    · intro envelope' stage'' same
      cases same
      exact ⟨rfl, fun _ isFetched => by cases isFetched⟩

/-- A runner moves on and neither loads nor inserts. -/
theorem Located.move (inv : Located s) {i : Nat} {r : Runner P A R E} {phase : RunnerPhase P A R E}
    (isRunner : s.runners[i]? = some r) (runners : t.runners = s.runners.set i { r with phase := phase })
    (vault : t.vault = s.vault) (owns : phase.owns = true → r.phase.owns = true)
    (inserting : ∀ c, phase = .inserting c → r.player = some c)
    (serving : ∀ envelope stage, phase = .serving envelope stage → stage = .loading) : Located t := by
  refine inv.setRunner isRunner runners (by rw [vault]) (by rw [vault]) rfl rfl owns inserting ?_
  intro envelope stage isServing
  rw [serving envelope stage isServing]
  exact ⟨trivial, fun state isFetched => by cases isFetched⟩

theorem Located.step (inv : Located s) (owned : Owned config s) (taken : Step config s t) :
    Located t := by
  cases taken with
  | spawn found spawning => exact inv.spawn rfl rfl rfl rfl
  | take isRunner either =>
    refine inv.move isRunner rfl rfl ?_ (by simp) ?_
    · intro _
      cases either with
      | inl taking => rw [taking]; rfl
      | inr checking => rw [checking]; rfl
    · intro envelope stage same
      cases same
      rfl
  | serve isRunner serving served => exact inv.serve owned isRunner serving served
  | finish isRunner finishing =>
    exact inv.move isRunner rfl rfl (fun _ => by rw [finishing]; rfl) (by simp) (by simp)
  | completeNext isRunner completing =>
    exact inv.move isRunner rfl rfl (fun _ => by rw [completing]; rfl) (by simp) (by simp)
  | completeLast isRunner completing =>
    exact inv.move isRunner rfl rfl (fun _ => by rw [completing]; rfl) (by simp) (by simp)
  | drop isRunner dropping =>
    exact inv.move isRunner rfl rfl (fun _ => by rw [dropping]; rfl) (by simp) (by simp)
  | dropKib isRunner dropping =>
    exact inv.move isRunner rfl rfl (fun _ => by rw [dropping]; rfl) (by simp) (by simp)
  | notifyNext isRunner notifying =>
    refine inv.move isRunner rfl rfl (fun _ => by rw [notifying]; rfl) (by simp) ?_
    intro envelope stage same
    cases same
    rfl
  | notifyLast isRunner notifying =>
    exact inv.move isRunner rfl rfl (fun _ => by rw [notifying]; rfl) (by simp) (by simp)
  | peek isRunner retiring =>
    exact inv.move isRunner rfl rfl (fun _ => by rw [retiring]; rfl) (by simp) (by simp)
  | peekNone isRunner retiring player =>
    refine inv.move isRunner rfl rfl (fun _ => by rw [retiring]; rfl) ?_ (by simp)
    intro c same
    cases same
    exact player
  | @insert i c r ok isRunner inserting =>
    have player := inv.inserting i r c isRunner inserting
    have owns : r.phase.owns = true := by rw [inserting]; rfl
    cases ok with
    | false => exact inv.move isRunner rfl rfl (fun _ => owns) (by simp) (by simp)
    | true =>
      exact inv.insert owned isRunner owns rfl rfl (fun _ _ same => same)
        (inv.player i r c isRunner player) rfl player (by simp) (by simp)
  | retire isRunner checking =>
    exact inv.move isRunner rfl rfl (fun _ => by rw [checking]; rfl) (by simp) (by simp)
  | leave isRunner leaving => exact inv.move isRunner rfl rfl (by simp [RunnerPhase.owns]) (by simp) (by simp)
  | startSaver started =>
    have quiet := Vault.startSaver_quiet started
    exact inv.frame rfl quiet.gids (fun gid => .inl (congrFun quiet.cache gid))
  | save isSaver saved =>
    obtain ⟨gids, cache⟩ := Vault.save_located saved
    exact inv.frame rfl gids (fun gid => .inl (congrFun cache gid))
  | @evict gone =>
    refine inv.frame rfl rfl ?_
    intro gid
    by_cases same : gid = gone
    · exact .inr (by rw [same]; exact Function.update_self ..)
    · exact .inl (Function.update_of_ne same ..)
  | @evicted gone =>
    refine inv.frame rfl rfl ?_
    intro gid
    by_cases same : gid = gone
    · exact .inr (by rw [same]; exact Function.update_self ..)
    · exact .inl (Function.update_of_ne same ..)
  | flush found flushing started =>
    have quiet := Vault.flush_quiet started
    exact inv.frame rfl quiet.gids (fun gid => .inl (congrFun quiet.cache gid))
  | push =>
    refine inv.frame ?_ ?_ ?_
    all_goals split <;> first | rfl | exact fun _ => .inl rfl
  | refuse =>
    refine inv.frame ?_ ?_ ?_
    all_goals split <;> first | rfl | exact fun _ => .inl rfl
  | _ => exact inv.frame rfl rfl (fun _ => .inl rfl)

end Runtime

end Xkk.Logic

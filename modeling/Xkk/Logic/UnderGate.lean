import Xkk.Logic.Submission

/-! # Under the save gate

Whoever changes a player holds its save gate.  So while a runner waits for a
preload or a saver nobody else changes its player: the command runs on the state
that its builder has seen (`Stage.Follows`), and what is saved is what the command
has left.
-/

set_option linter.unusedSectionVars false

namespace Xkk.Logic

open Xkk.Lib

variable {P A R E : Type} [LogicState P]

/-! ## Whoever moves -/

/-- A saver moves itself only. -/
theorem Vault.save_savers {v v' : Vault P R E} {k j : Nat} {saver : Saver E} {choice : Choice P A E}
    (taken : v.save k saver saver.phase choice = some v') (differ : k ≠ j) :
    v'.savers[j]? = v.savers[j]? := by
  have set : ∀ (w : Vault P R E) (phase : SaverPhase E), w.savers = v.savers →
      (w.setSaver k saver phase).savers[j]? = v.savers[j]? := by
    intro w phase same
    simp only [Vault.setSaver, same]
    exact Pool.get_set_ne _ differ
  cases Vault.saves_of_save taken with
  | saved => exact set _ _ (v.write_rest _ _ _).2.2.2.2.1
  | refresh _ _ isRefreshed => exact set _ _ (Vault.refreshSlot_savers isRefreshed)
  | refreshFault => rfl
  | mark => exact set _ _ (v.markDirty_cells _ _).2.2.1
  | _ => exact set _ _ rfl

theorem Vault.flush_savers {batches : List (List Nat)} {k : Nat} {saver : Saver E} :
    ∀ {v v' : Vault P R E}, v.savers[k]? = some saver →
      batches.foldlM (fun (vault : Vault P R E) batch => vault.startSaver batch false) v = some v' →
      v'.savers[k]? = some saver := by
  induction batches with
  | nil =>
    intro v v' isSaver started
    cases started
    exact isSaver
  | cons batch rest ih =>
    intro v v' isSaver started
    simp only [List.foldlM_cons, Option.bind_eq_bind, Option.bind_eq_some_iff, Vault.startSaver,
      Option.ite_none_right_eq_some, Option.some.injEq] at started
    obtain ⟨next, ⟨_, rfl⟩, others⟩ := started
    exact ih (Pool.get_append_of_some _ isSaver) others

/-- The step is one of the holder. -/
def GateHolder.acts : GateHolder → Runtime.Label P A R E → Bool
  | .runner i, .run j _ _ => i = j
  | .saver k, .save j _ => k = j
  | _, _ => false

/-! ## Whoever saves -/

/-- The player that the runner saves. -/
def Runner.saves (r : Runner P A R E) : Option Nat :=
  match r.phase with
  | .serving _ (.saving _) => r.player
  | _ => none

/-- The players that the saver still has to save. -/
def Saver.todo (saver : Saver E) : List Nat :=
  match saver.phase with
  | .saving todo _ => todo
  | _ => []

theorem Runner.saves_iff {r : Runner P A R E} {c : Nat} :
    r.saves = some c ↔ ∃ envelope value, r.phase = .serving envelope (.saving value) ∧ r.player = some c := by
  unfold Runner.saves
  constructor
  · intro saves
    split at saves
    · next envelope value serving => exact ⟨envelope, value, serving, saves⟩
    · cases saves
  · rintro ⟨envelope, value, serving, player⟩
    rw [serving]
    exact player

theorem Saver.mem_todo {saver : Saver E} {c : Nat} (member : c ∈ saver.todo) :
    ∃ todo dirty, saver.phase = .saving todo dirty ∧ c ∈ todo := by
  unfold Saver.todo at member
  split at member
  · next todo dirty saving => exact ⟨todo, dirty, saving, member⟩
  · cases member

namespace Runtime

variable {config : LogicConfig} {s t : Runtime P A R E} {l : Label P A R E} {holder : GateHolder} {c : Nat}
  {cell : PlayerCell P}

/-- The players in the hands of the saver that the holder has called. -/
def saving (s : Runtime P A R E) : GateHolder → List Nat
  | .runner i => ((s.runners[i]?).bind Runner.saves).toList
  | .saver k => ((s.vault.savers[k]?).map Saver.todo).getD []

theorem mem_saving_runner {i : Nat} :
    c ∈ s.saving (.runner i) ↔ ∃ r, s.runners[i]? = some r ∧ r.saves = some c := by
  simp [saving, Option.bind_eq_some_iff]

theorem mem_saving_saver {k : Nat} :
    c ∈ s.saving (.saver k) ↔ ∃ saver, s.vault.savers[k]? = some saver ∧ c ∈ saver.todo := by
  cases there : s.vault.savers[k]? with
  | none => simp [saving, there]
  | some saver => simp [saving, there]

theorem SlotsAgree.gate_of_saving (agree : SlotsAgree config s) (member : c ∈ s.saving holder) :
    ∃ cell, s.vault.cells[c]? = some cell ∧ cell.saveGate = some holder := by
  cases holder with
  | runner i =>
    obtain ⟨r, isRunner, saves⟩ := mem_saving_runner.mp member
    obtain ⟨envelope, value, serving, player⟩ := Runner.saves_iff.mp saves
    have held : r.held = some (c, .saving value) := by
      simp only [Runner.held, serving, player]
      rfl
    obtain ⟨cell, found, gate, _⟩ := Slotted.runners agree i r isRunner c _ held
    exact ⟨cell, found, gate⟩
  | saver k =>
    obtain ⟨saver, isSaver, member⟩ := mem_saving_saver.mp member
    obtain ⟨todo, dirty, phase, member⟩ := Saver.mem_todo member
    exact Slotted.gate_of_todo agree isSaver phase member

/-- The step ends the call of a saver, which leaves the state behind. -/
def Label.saved : Label P A R E → Option P
  | .run _ (.saved state _ _) _ | .save _ (.saved state _ _) => some state
  | _ => none

/-- What a step can do to the players. -/
inductive PlayerStep (s t : Runtime P A R E) : Label P A R E → Prop
  | quiet {l : Label P A R E} : t.vault.cells.map PlayerCell.player = s.vault.cells.map PlayerCell.player →
      t.vault.executions = s.vault.executions → PlayerStep s t l
  | loaded {i : Nat} {choice : Choice P A E} {ok : Bool} {r : Runner P A R E} {envelope : Envelope P A R}
      {state : Clean P} : s.runners[i]? = some r → r.phase = .serving envelope (.fetched state) →
      t.runners[i]? = some { r with player := some s.vault.cells.length, phase := .serving envelope .gating } →
      t.vault.cells = s.vault.cells ++ [⟨r.gid, state.state, none, false⟩] →
      t.vault.executions = s.vault.executions → PlayerStep s t (.run i choice ok)
  | executed {i : Nat} {choice : Choice P A E} {ok permit : Bool} {r : Runner P A R E}
      {envelope : Envelope P A R} {logic : P → R × P} {c : Nat} {cell : PlayerCell P} :
      At s.vault s.runners i r envelope (.ready permit logic) c cell →
      t.vault.cells = s.vault.cells.set c { cell with state := (logic cell.state).2 } →
      t.vault.executions = Function.update s.vault.executions cell.gid
        (s.vault.executions cell.gid ++ [⟨envelope.id, logic, cell.state⟩]) →
      PlayerStep s t (.run i choice ok)
  | saved {l : Label P A R E} {holder : GateHolder} {c : Nat} {cell : PlayerCell P} {state : P} :
      (s.saving holder).head? = some c → s.vault.cells[c]? = some cell → holder.acts l = true →
      l.saved = some state → t.vault.cells = s.vault.cells.set c { cell with state := state } →
      t.vault.executions = s.vault.executions → PlayerStep s t l

theorem players_step (taken : s.step config l = some t) : PlayerStep s t l := by
  cases step_moves taken with
  | submit _ _ vault | rest _ _ vault | spawn _ _ vault | pass _ _ _ vault | evict _ _ _ _ _ vault
  | evicted _ _ _ vault => exact .quiet (by rw [vault]) (by rw [vault])
  | insert _ _ _ _ vault =>
    have resident : ∀ (gid : Gid) (c : Nat) (ok : Bool), (s.vault.setResident gid c ok).cells = s.vault.cells
        ∧ (s.vault.setResident gid c ok).executions = s.vault.executions := by
      intro gid c ok
      unfold Vault.setResident
      split <;> exact ⟨rfl, rfl⟩
    exact .quiet (by rw [vault, (resident _ _ _).1]) (by rw [vault, (resident _ _ _).2])
  | quiet _ _ quiet => exact .quiet quiet.players quiet.executions
  | @serve i choice ok r envelope stage stage' player t isRunner serving served _ runners =>
    obtain ⟨c, cell, isPlayer, _, found, moved⟩ | ⟨_, _, vault, _⟩ | ⟨state, _, rfl, vault, rfl, rfl⟩ :=
      Vault.serve_cases served
    · obtain ⟨_, ⟨quiet, _⟩ | ⟨permit, logic, rfl, _, vault⟩
        | ⟨value, state, wrote, result, rfl, rfl, _, _, vault⟩⟩ := Vault.serveCell_cases found moved
      · exact .quiet quiet.players quiet.executions
      · exact .executed ⟨isRunner, serving, isPlayer, found⟩ (by rw [vault]; rfl) (by rw [vault])
      · have head : (s.saving (.runner i)).head? = some c := by
          simp [saving, isRunner, Runner.saves, serving, isPlayer]
        refine .saved head found (by simp [GateHolder.acts]) rfl ?_ ?_
        · rw [vault]
          exact congrArg (List.set · c _) (s.vault.write_rest cell.gid cell.state wrote).1
        · rw [vault]
          exact s.vault.write_executions cell.gid cell.state wrote
    · exact .quiet (by rw [vault]) (by rw [vault])
    · refine .loaded isRunner serving ?_ (by rw [vault]; rfl) (by rw [vault]; rfl)
      rw [runners]
      exact Pool.get_set_self _ isRunner
  | @save k choice saver t isSaver saved _ _ =>
    obtain quiet | ⟨c, todo, dirty, cell, state, wrote, result, phase, rfl, found, vault⟩ := Vault.save_cases saved
    · exact .quiet quiet.players quiet.executions
    · have head : (s.saving (.saver k)).head? = some c := by
        simp [saving, isSaver, Saver.todo, phase]
      refine .saved head found (by simp [GateHolder.acts]) rfl ?_ ?_
      · rw [vault]
        exact congrArg (List.set · c _) (s.vault.write_rest cell.gid cell.state wrote).1
      · rw [vault]
        exact s.vault.write_executions cell.gid cell.state wrote

/-- A player is what the step has made of it. -/
theorem PlayerStep.player (step : PlayerStep s t l) (found : s.vault.cells[c]? = some cell) :
    ∃ cell', t.vault.cells[c]? = some cell' ∧ cell'.gid = cell.gid ∧ (cell'.state = cell.state
      ∨ (∃ i choice ok r envelope permit logic, l = .run i choice ok
        ∧ At s.vault s.runners i r envelope (.ready permit logic) c cell
        ∧ t.vault.executions cell.gid
          = s.vault.executions cell.gid ++ [⟨envelope.id, logic, cell.state⟩])
      ∨ (∃ holder, (s.saving holder).head? = some c ∧ holder.acts l = true ∧ l.saved = some cell'.state)) := by
  cases step with
  | quiet players _ =>
    have same := congrArg (·[c]?) players
    simp only [List.getElem?_map, found, Option.map_some, Option.map_eq_some_iff] at same
    obtain ⟨cell', there, player⟩ := same
    simp only [PlayerCell.player, Prod.mk.injEq] at player
    exact ⟨cell', there, player.1, .inl player.2⟩
  | loaded _ _ _ cells =>
    refine ⟨cell, ?_, rfl, .inl rfl⟩
    rw [cells]
    exact Pool.get_append_of_some _ found
  | @executed i choice ok permit r envelope logic d other here cells executions =>
    by_cases same : d = c
    · subst same
      have there := here.found
      rw [found] at there
      obtain rfl := Option.some.inj there
      refine ⟨{ cell with state := (logic cell.state).2 }, ?_, rfl, .inr (.inl ?_)⟩
      · rw [cells]
        exact Pool.get_set_self _ found
      · refine ⟨i, choice, ok, r, envelope, permit, logic, rfl, here, ?_⟩
        rw [executions]
        exact Function.update_self ..
    · refine ⟨cell, ?_, rfl, .inl rfl⟩
      rw [cells, Pool.get_set_ne _ same]
      exact found
  | @saved _ holder d other state head there acts isSaved cells executions =>
    by_cases same : d = c
    · subst same
      rw [found] at there
      obtain rfl := Option.some.inj there
      refine ⟨{ cell with state := state }, ?_, rfl, .inr (.inr ⟨holder, head, acts, isSaved⟩)⟩
      rw [cells]
      exact Pool.get_set_self _ found
    · refine ⟨cell, ?_, rfl, .inl rfl⟩
      rw [cells, Pool.get_set_ne _ same]
      exact found

/-- Every player was there, or has just been loaded. -/
theorem PlayerStep.origin {cell' : PlayerCell P} (step : PlayerStep s t l) (there : t.vault.cells[c]? = some cell') :
    (∃ cell, s.vault.cells[c]? = some cell ∧ cell.gid = cell'.gid)
    ∨ ∃ i choice ok r envelope state, l = .run i choice ok ∧ s.runners[i]? = some r
      ∧ r.phase = .serving envelope (.fetched state) ∧ cell'.gid = r.gid
      ∧ t.runners[i]? = some { r with player := some c, phase := .serving envelope .gating } := by
  have set : ∀ {d : Nat} {other : PlayerCell P} {state : P}, s.vault.cells[d]? = some other →
      t.vault.cells = s.vault.cells.set d { other with state := state } →
      ∃ cell, s.vault.cells[c]? = some cell ∧ cell.gid = cell'.gid := by
    intro d other state found cells
    rw [cells] at there
    cases Pool.get_set_cases there with
    | inl same =>
      obtain ⟨rfl, rfl⟩ := same
      exact ⟨other, found, rfl⟩
    | inr differ => exact ⟨cell', differ.2, rfl⟩
  cases step with
  | quiet players _ =>
    have same := congrArg (·[c]?) players
    simp only [List.getElem?_map, there, Option.map_some] at same
    obtain ⟨cell, found, player⟩ := Option.map_eq_some_iff.mp same.symm
    simp only [PlayerCell.player, Prod.mk.injEq] at player
    exact .inl ⟨cell, found, player.1⟩
  | @loaded i choice ok r envelope state isRunner serving after cells _ =>
    rw [cells] at there
    cases Pool.get_append_cases there with
    | inl new =>
      obtain ⟨rfl, rfl⟩ := new
      exact .inr ⟨i, choice, ok, r, envelope, state, rfl, isRunner, serving, rfl, after⟩
    | inr before => exact .inl ⟨cell', before.2, rfl⟩
  | executed here cells _ => exact .inl (set here.found cells)
  | saved _ found _ _ cells _ => exact .inl (set found cells)

/-- Only the holder of the gate changes the player. -/
theorem SlotsAgree.foreign_step (agree : SlotsAgree config s) (taken : s.step config l = some t)
    (found : s.vault.cells[c]? = some cell) (gate : cell.saveGate = some holder)
    (foreign : holder.acts l = false) :
    ∃ cell', t.vault.cells[c]? = some cell' ∧ cell'.gid = cell.gid ∧ cell'.state = cell.state := by
  obtain ⟨cell', there, gid, same | ⟨i, choice, ok, r, envelope, permit, logic, rfl, here, _⟩
    | ⟨other, head, acts, _⟩⟩ := (players_step taken).player found
  · exact ⟨cell', there, gid, same⟩
  · -- a runner that is not the holder has another player
    have mine := (Slotted.at agree here rfl).1
    rw [gate] at mine
    cases mine
    simp [GateHolder.acts] at foreign
  · obtain ⟨_, there', gate'⟩ := agree.gate_of_saving (List.mem_of_head? head)
    rw [found] at there'
    obtain rfl := Option.some.inj there'
    rw [gate] at gate'
    cases gate'
    simp [foreign] at acts

theorem executions_step (taken : s.step config l = some t) {gid : Gid} {execution : Execution P R}
    (member : execution ∈ s.vault.executions gid) : execution ∈ t.vault.executions gid := by
  cases players_step taken with
  | quiet _ executions | loaded _ _ _ _ executions | saved _ _ _ _ _ executions =>
    rw [executions]
    exact member
  | @executed _ _ _ _ _ _ _ _ other _ _ executions =>
    rw [executions]
    by_cases mine : gid = other.gid
    · subst mine
      simp [member]
    · rw [Function.update_of_ne mine]
      exact member

/-- The runners that do not move stay as they are; a new one takes its first command. -/
theorem runners_step (taken : s.step config l = some t) {i : Nat} (foreign : (GateHolder.runner i).acts l = false) :
    t.runners[i]? = s.runners[i]? ∨ s.runners[i]? = none ∧ ∃ r, t.runners[i]? = some r ∧ r.phase = .taking := by
  have other : ∀ {j : Nat} {choice : Choice P A E} {ok : Bool}, l = .run j choice ok → j ≠ i := by
    rintro j choice ok rfl rfl
    simp [GateHolder.acts] at foreign
  cases step_moves taken with
  | submit _ runners => exact .inl (by rw [runners])
  | rest _ runners => exact .inl (by rw [runners])
  | spawn _ runners =>
    rw [runners]
    cases there : s.runners[i]? with
    | some r => exact .inl (Pool.get_append_of_some _ there)
    | none =>
      cases new : (s.runners ++ [_])[i]? with
      | none => exact .inl rfl
      | some r =>
        refine .inr ⟨rfl, r, rfl, ?_⟩
        rcases Pool.get_append_cases new with ⟨_, rfl⟩ | ⟨_, before⟩
        · rfl
        · rw [there] at before
          cases before
  | pass _ _ runners => exact .inl (by rw [runners, Pool.get_set_ne _ (other rfl)])
  | serve _ _ _ _ runners => exact .inl (by rw [runners, Pool.get_set_ne _ (other rfl)])
  | insert _ _ _ runners => exact .inl (by rw [runners, Pool.get_set_ne _ (other rfl)])
  | quiet _ runners => exact .inl (by rw [runners])
  | save _ _ _ runners => exact .inl (by rw [runners])
  | evict _ _ _ _ runners => exact .inl (by rw [runners])
  | evicted _ _ runners => exact .inl (by rw [runners])

/-- A runner stays with its player. -/
theorem runner_step (taken : s.step config l = some t) {i : Nat} {r : Runner P A R E}
    (isRunner : s.runners[i]? = some r) :
    ∃ r', t.runners[i]? = some r' ∧ r'.gid = r.gid ∧ ∀ c, r.player = some c → r'.player = some c := by
  have set : ∀ {j : Nat} {r₀ r₁ : Runner P A R E}, s.runners[j]? = some r₀ → t.runners = s.runners.set j r₁ →
      r₁.gid = r₀.gid → (∀ c, r₀.player = some c → r₁.player = some c) →
      ∃ r', t.runners[i]? = some r' ∧ r'.gid = r.gid ∧ ∀ c, r.player = some c → r'.player = some c := by
    intro j r₀ r₁ isOther runners gid player
    rw [runners]
    by_cases same : j = i
    · subst same
      rw [isRunner] at isOther
      obtain rfl := Option.some.inj isOther
      exact ⟨r₁, Pool.get_set_self _ isRunner, gid, player⟩
    · exact ⟨r, by rw [Pool.get_set_ne _ same]; exact isRunner, rfl, fun _ player => player⟩
  cases step_moves taken with
  | submit _ runners | rest _ runners | quiet _ runners | save _ _ _ runners | evict _ _ _ _ runners
  | evicted _ _ runners => exact ⟨r, by rw [runners]; exact isRunner, rfl, fun _ player => player⟩
  | spawn _ runners =>
    exact ⟨r, by rw [runners]; exact Pool.get_append_of_some _ isRunner, rfl, fun _ player => player⟩
  | pass isOther _ runners => exact set isOther runners rfl fun _ player => player
  | insert isOther _ _ runners => exact set isOther runners rfl fun _ player => player
  | serve isOther _ served _ runners =>
    refine set isOther runners rfl ?_
    intro c player
    obtain ⟨d, _, isPlayer, isPlayer', _⟩ | ⟨noPlayer, _⟩ | ⟨_, noPlayer, _⟩ := Vault.serve_cases served
    · exact isPlayer'.trans (isPlayer.symm.trans player)
    · rw [noPlayer] at player
      cases player
    · rw [noPlayer] at player
      cases player

/-- Every player was loaded by a runner. -/
def Loaded (s : Runtime P A R E) : Prop :=
  ∀ (c : Nat) cell, s.vault.cells[c]? = some cell →
    ∃ (i : Nat) (r : Runner P A R E), s.runners[i]? = some r ∧ r.gid = cell.gid ∧ r.player = some c

theorem Loaded.step (inv : s.Loaded) (taken : s.step config l = some t) : t.Loaded := by
  intro c cell' there
  obtain ⟨cell, found, gid⟩ | ⟨i, _, _, r, envelope, _, _, _, _, gid, isRunner⟩ := (players_step taken).origin there
  · obtain ⟨i, r, isRunner, same, player⟩ := inv c cell found
    obtain ⟨r', isRunner', gid', player'⟩ := runner_step taken isRunner
    exact ⟨i, r', isRunner', gid'.trans (same.trans gid), player' c player⟩
  · exact ⟨i, _, isRunner, gid.symm, rfl⟩

/-- A runner has loaded its player only when the loader has returned. -/
theorem fetched_step (taken : s.step config l = some t) {i : Nat} {r : Runner P A R E} {envelope : Envelope P A R}
    {state : Clean P} (isRunner : t.runners[i]? = some r) (fetched : r.phase = .serving envelope (.fetched state)) :
    s.runners[i]? = some r
    ∨ ∃ ok r₀, l = .run i (.fetched state) ok ∧ s.runners[i]? = some r₀ ∧ r₀.gid = r.gid := by
  cases foreign : (GateHolder.runner i).acts l with
  | false =>
    obtain same | ⟨_, r', there, taking⟩ := runners_step taken foreign
    · exact .inl (same.symm.trans isRunner)
    · rw [isRunner] at there
      obtain rfl := Option.some.inj there
      rw [fetched] at taking
      cases taking
  | true =>
    cases l with
    | run j choice ok =>
      obtain rfl : i = j := by simpa [GateHolder.acts] using foreign
      obtain ⟨r₀, isRunner₀, _⟩ := Option.bind_eq_some_iff.mp taken
      cases step_moves taken with
      | rest _ runners | quiet _ runners => exact .inl (runners ▸ isRunner)
      | spawn _ runners =>
        rw [runners, Pool.get_append_of_some _ isRunner₀] at isRunner
        exact .inl (isRunner₀.trans isRunner)
      | pass there _ runners _ passes =>
        rw [runners, Pool.get_set_self _ there] at isRunner
        cases isRunner
        cases passes.serving _ _ fetched
      | insert there _ _ runners =>
        rw [runners, Pool.get_set_self _ there] at isRunner
        cases isRunner
        cases fetched
      | @serve _ _ _ r₁ _ stage₁ stage' player _ there serving served _ runners =>
        rw [runners, Pool.get_set_self _ there] at isRunner
        cases isRunner
        cases fetched
        obtain ⟨c, cell, _, _, _, moved⟩ | ⟨_, _, _, loaded⟩ | ⟨_, _, _, _, _, isGating⟩ := Vault.serve_cases served
        · -- no stage that has its player leads back to the loader
          have loaded := (Vault.serves_of_serveCell moved).advances.loaded
          cases loaded
        · obtain ⟨_, _, _, isGating⟩ | ⟨_, _, isFinishing⟩ | ⟨state, rfl, _, _, same⟩ := loaded
          · cases isGating
          · cases isFinishing
          · cases same
            exact .inr ⟨ok, r₁, rfl, there, rfl⟩
        · cases isGating
    | _ => cases foreign

/-- A saver that does not move stays as it is. -/
theorem savers_step (taken : s.step config l = some t) {k : Nat} {saver : Saver E}
    (isSaver : s.vault.savers[k]? = some saver) (foreign : (GateHolder.saver k).acts l = false) :
    t.vault.savers[k]? = some saver := by
  have same : t.vault.savers = s.vault.savers → t.vault.savers[k]? = some saver := by
    intro savers
    rw [savers]
    exact isSaver
  cases l with
  | tryUse gid retainedKib command =>
    simp only [Runtime.step, Runtime.tryUse, Option.map_eq_some_iff] at taken
    obtain ⟨pool, _, rfl⟩ := taken
    exact isSaver
  | lock i =>
    obtain ⟨e, _, taken⟩ := Option.bind_eq_some_iff.mp taken
    exact same (by rw [(lock_unmoved taken).vault])
  | acquired i =>
    obtain ⟨e, _, taken⟩ := Option.bind_eq_some_iff.mp taken
    exact same (by rw [(acquired_unmoved taken).vault])
  | acquire i spurious =>
    obtain ⟨e, _, taken⟩ := Option.bind_eq_some_iff.mp taken
    unfold Runtime.acquire at taken
    split at taken
    case h_1 =>
      obtain ⟨pool, _, rfl⟩ := Option.map_eq_some_iff.mp taken
      exact isSaver
    case h_2 => cases taken
  | count i =>
    obtain ⟨e, _, taken⟩ := Option.bind_eq_some_iff.mp taken
    unfold Runtime.count at taken
    split at taken <;> cases taken
    exact isSaver
  | spawn i =>
    obtain ⟨e, _, taken⟩ := Option.bind_eq_some_iff.mp taken
    unfold Runtime.spawn at taken
    split at taken <;> cases taken
    exact isSaver
  | run i choice ok =>
    obtain ⟨r, _, taken⟩ := Option.bind_eq_some_iff.mp taken
    cases runs_of_run taken with
    | serve _ served =>
      obtain ⟨d, other, _, _, _, moved⟩ | ⟨_, _, vault, _⟩ | ⟨state, _, _, vault, _⟩ := Vault.serve_cases served
      · exact same (Vault.serveCell_rest moved).1
      · exact same (by rw [vault])
      · exact same (by rw [vault]; rfl)
    | insert _ =>
      apply same
      change (s.vault.setResident r.gid _ ok).savers = _
      unfold Vault.setResident
      split <;> rfl
    | _ => exact isSaver
  | startSaver entries evicts =>
    simp only [Runtime.step, Vault.startSaver, Option.map_eq_some_iff, Option.ite_none_right_eq_some,
      Option.some.injEq] at taken
    obtain ⟨_, ⟨_, rfl⟩, rfl⟩ := taken
    exact Pool.get_append_of_some _ isSaver
  | save j choice =>
    have differ : j ≠ k := by
      rintro rfl
      simp [GateHolder.acts] at foreign
    simp only [Runtime.step, Option.bind_eq_some_iff, Option.map_eq_some_iff] at taken
    obtain ⟨other, _, vault, saved, rfl⟩ := taken
    exact (Vault.save_savers saved differ).trans isSaver
  | evict gid =>
    simp only [Runtime.step, Vault.evict, Option.map_eq_some_iff, Option.bind_eq_some_iff,
      Option.ite_none_left_eq_some, Option.some.injEq] at taken
    obtain ⟨vault, ⟨_, _, _, _, _, rfl⟩, rfl⟩ := taken
    exact isSaver
  | evicted j gid =>
    simp only [Runtime.step, Vault.evicted, Option.map_eq_some_iff, Option.bind_eq_some_iff] at taken
    obtain ⟨vault, ⟨_, _, removed⟩, rfl⟩ := taken
    split at removed
    case h_1 =>
      simp only [Option.ite_none_right_eq_some, Option.some.injEq] at removed
      obtain ⟨_, rfl⟩ := removed
      exact isSaver
    case h_2 => cases removed
  | shutdown =>
    cases taken
    exact isSaver
  | shut j batches =>
    obtain ⟨d, _, taken⟩ := Option.bind_eq_some_iff.mp taken
    obtain ⟨_, _, unchanged | started⟩ := shut_players taken
    · exact same (by rw [unchanged])
    · exact Vault.flush_savers isSaver started

end Runtime

/-! ## From the preload to the save -/

/-- The command has a builder. -/
def Command.preloads : Command P A R → Bool
  | .use _ => false
  | .usePreloaded _ => true

/-- The command was executed. -/
def Execution.Of (execution : Execution P R) (envelope : Envelope P A R) : Prop :=
  execution.id = envelope.id ∧ envelope.command.Becomes execution.logic

/-- What is known about the player under the gate: it is as the builder has seen it
    until the command runs, and then as the command has left it until it is saved. -/
def Stage.Follows (seen : Option (Nat × P)) (executions : List (Execution P R)) (envelope : Envelope P A R)
    (state : P) : Stage P A R E → Prop
  | .preloading _ _ p => seen = some (envelope.id, p) ∧ state = p
  | .ready _ _ => envelope.command.preloads = true → seen = some (envelope.id, state)
  | .executed _ value | .refreshing (.logic _ value) | .marking _ (.logic _ value) | .dropping _ (.save value)
  | .saving value =>
    ∃ execution ∈ executions, execution.Of envelope ∧ execution.logic execution.on = (value, state)
  | _ => True

/-- What the builders of the runner have seen last. -/
def Stage.notice (id : Nat) (seen : Option (Nat × P)) : Stage P A R E → Option (Nat × P)
  | .preloading _ _ p => some (id, p)
  | _ => seen

def Runner.notice (r : Runner P A R E) (seen : Option (Nat × P)) : Option (Nat × P) :=
  match r.phase with
  | .serving envelope stage => stage.notice envelope.id seen
  | _ => seen

section Follows

variable {seen : Option (Nat × P)} {executions executions' : List (Execution P R)} {envelope : Envelope P A R}
  {state : P} {stage : Stage P A R E}

theorem Stage.Follows.notice (follows : stage.Follows seen executions envelope state) :
    stage.Follows (stage.notice envelope.id seen) executions envelope state := by
  cases stage with
  | preloading => exact ⟨rfl, follows.2⟩
  | _ => exact follows

theorem Stage.Follows.mono (follows : stage.Follows seen executions envelope state)
    (more : ∀ execution ∈ executions, execution ∈ executions') :
    stage.Follows seen executions' envelope state := by
  have run : ∀ {value : R},
      (∃ execution ∈ executions, execution.Of envelope ∧ execution.logic execution.on = (value, state)) →
      ∃ execution ∈ executions', execution.Of envelope ∧ execution.logic execution.on = (value, state) := by
    rintro value ⟨execution, member, isOf⟩
    exact ⟨execution, more execution member, isOf⟩
  cases stage with
  | executed | saving => exact run follows
  | refreshing after | marking _ after =>
    cases after with
    | logic => exact run follows
    | save => trivial
  | dropping _ onward =>
    cases onward with
    | save => exact run follows
    | release => trivial
  | _ => exact follows

theorem Stage.follows_of_free (free : stage.holdsGate = false) :
    stage.Follows seen executions envelope state := by
  cases stage with
  | loading | fetched | gating | finishing => trivial
  | _ => cases free

theorem Onward.follows {permit : Bool} {onward : Onward R E}
    (follows : (Stage.dropping permit onward : Stage P A R E).Follows seen executions envelope state) :
    (onward.stage : Stage P A R E).Follows seen executions envelope state := by
  cases onward with
  | save => exact follows
  | release => trivial

/-- The step of a command. -/
theorem Vault.Serves.follows {max me c : Nat} {v v' : Vault P R E} {cell : PlayerCell P} {stage' : Stage P A R E}
    {choice : Choice P A E} (found : v.cells[c]? = some cell)
    (serves : Vault.Serves max v me envelope c cell stage choice v' stage') (runs : stage.Runs envelope.command)
    (follows : stage.Follows seen (v.executions cell.gid) envelope cell.state) :
    ∃ cell', v'.cells[c]? = some cell' ∧ cell'.gid = cell.gid
      ∧ stage'.Follows (stage'.notice envelope.id seen) (v'.executions cell.gid) envelope cell'.state := by
  have set : ∀ other : PlayerCell P, (v.setCell c other).cells[c]? = some other := by
    intro other
    exact Pool.get_set_self other found
  cases serves with
  | gate => exact ⟨_, set _, rfl, trivial⟩
  | use isUse =>
    refine ⟨cell, found, rfl, ?_⟩
    simp [Stage.Follows, isUse, Command.preloads]
  | preload => exact ⟨cell, found, rfl, rfl, rfl⟩
  | preloaded value =>
    refine ⟨cell, found, rfl, fun _ => ?_⟩
    rw [follows.2]
    exact follows.1
  | @execute permit logic =>
    refine ⟨_, set _, rfl, ⟨envelope.id, logic, cell.state⟩, ?_, ⟨rfl, runs⟩, rfl⟩
    simp
  | @commit permit rest value committed isCommitted =>
    have player := Vault.commitSlot_player isCommitted
    simp only [PlayerCell.player, Prod.mk.injEq] at player
    refine ⟨committed, set _, player.1, ?_⟩
    rw [player.2]
    exact follows
  | @refresh after refreshed dirty isRefreshed =>
    have quiet := Vault.refreshSlot_quiet found isRefreshed
    obtain ⟨cell', there, gid, state⟩ := quiet.cell found
    refine ⟨cell', there, gid, ?_⟩
    rw [quiet.executions, state]
    cases after <;> exact follows
  | @markLogic dirty permit value =>
    have quiet := v.markDirty_quiet c dirty
    obtain ⟨cell', there, gid, state⟩ := quiet.cell found
    refine ⟨cell', there, gid, ?_⟩
    rw [quiet.executions, state]
    cases dirty with
    | true => exact follows
    | false => trivial
  | markSave =>
    obtain ⟨cell', there, gid, _⟩ := (v.markDirty_quiet c _).cell found
    exact ⟨cell', there, gid, trivial⟩
  | @drop onward =>
    refine ⟨cell, found, rfl, ?_⟩
    exact (Onward.follows follows).notice
  | @onward onward =>
    refine ⟨cell, found, rfl, ?_⟩
    exact (Onward.follows follows).notice
  | @saved value state wrote result =>
    refine ⟨{ cell with state := state }, ?_, rfl, trivial⟩
    exact Pool.get_set_self _ (by rw [(v.write_rest cell.gid cell.state wrote).1]; exact found)
  | release => exact ⟨_, set _, rfl, trivial⟩
  | commitFault | refreshFault | dropFault => exact ⟨cell, found, rfl, follows⟩
  | _ => exact ⟨cell, found, rfl, trivial⟩

end Follows

namespace Runtime

variable {config : LogicConfig} {s t : Runtime P A R E} {l : Label P A R E} {holder : GateHolder} {c : Nat}
  {cell : PlayerCell P}

/-- Every runner knows its player. -/
def Followed (s : Runtime P A R E) (seen : Nat → Option (Nat × P)) : Prop :=
  ∀ i r envelope stage c cell, At s.vault s.runners i r envelope stage c cell →
    stage.Follows (seen i) (s.vault.executions cell.gid) envelope cell.state

/-- What the runner has seen after a step. -/
def notice (t : Runtime P A R E) (seen : Nat → Option (Nat × P)) : Label P A R E → Nat → Option (Nat × P)
  | .run i _ _ =>
    match t.runners[i]? with
    | some r => Function.update seen i (r.notice (seen i))
    | none => seen
  | _ => seen

theorem notice_of_ne {seen : Nat → Option (Nat × P)} {i : Nat} (foreign : (GateHolder.runner i).acts l = false) :
    t.notice seen l i = seen i := by
  cases l with
  | run j choice ok =>
    have differ : i ≠ j := by simpa [GateHolder.acts] using foreign
    cases there : t.runners[j]? with
    | none => simp only [notice, there]
    | some r => simp only [notice, there, Function.update_of_ne differ]
  | _ => rfl

theorem notice_self {seen : Nat → Option (Nat × P)} {i : Nat} {choice : Choice P A E} {ok : Bool}
    {r : Runner P A R E} {envelope : Envelope P A R} {stage : Stage P A R E} (isRunner : t.runners[i]? = some r)
    (serving : r.phase = .serving envelope stage) :
    t.notice seen (.run i choice ok) i = stage.notice envelope.id (seen i) := by
  simp [notice, isRunner, Runner.notice, serving]

/-- How a runner that has its player came to its stage. -/
inductive ServingFrom (config : LogicConfig) (s t : Runtime P A R E) (l : Label P A R E) (i : Nat)
    (r : Runner P A R E) (envelope : Envelope P A R) (stage : Stage P A R E) (c : Nat) : Prop
  | unmoved : s.runners[i]? = some r → (GateHolder.runner i).acts l = false ∨ Vault.Quiet s.vault t.vault →
      ServingFrom config s t l i r envelope stage c
  -- the command is a new one, or its player has just been found
  | starts : stage = .loading ∨ stage = .gating → ServingFrom config s t l i r envelope stage c
  | serves {r₀ : Runner P A R E} {stage₀ : Stage P A R E} {choice : Choice P A E} {ok : Bool} {cell : PlayerCell P} :
      l = .run i choice ok → At s.vault s.runners i r₀ envelope stage₀ c cell →
      Vault.Serves config.maxDirtyPlayers.toNat s.vault i envelope c cell stage₀ choice t.vault stage →
      ServingFrom config s t l i r envelope stage c

theorem serving_step {i : Nat} {r : Runner P A R E} {envelope : Envelope P A R} {stage : Stage P A R E}
    (taken : s.step config l = some t) (here : At t.vault t.runners i r envelope stage c cell) :
    ServingFrom config s t l i r envelope stage c := by
  have isRunner := here.isRunner
  cases foreign : (GateHolder.runner i).acts l with
  | false =>
    obtain same | ⟨_, r', there, taking⟩ := runners_step taken foreign
    · exact .unmoved (same.symm.trans isRunner) (.inl foreign)
    · rw [there] at isRunner
      cases isRunner
      have serving := here.phase
      rw [taking] at serving
      cases serving
  | true =>
    cases l with
    | run j choice ok =>
      obtain rfl : i = j := by simpa [GateHolder.acts] using foreign
      obtain ⟨r₀, isRunner₀, _⟩ := Option.bind_eq_some_iff.mp taken
      cases step_moves taken with
      | rest _ runners vault => exact .unmoved (runners ▸ isRunner) (.inr (vault ▸ .refl _))
      | spawn _ runners vault =>
        rw [runners, Pool.get_append_of_some _ isRunner₀] at isRunner
        exact .unmoved (isRunner₀.trans isRunner) (.inr (vault ▸ .refl _))
      | quiet _ runners quiet => exact .unmoved (runners ▸ isRunner) (.inr quiet)
      | pass there _ runners _ passes =>
        rw [runners, Pool.get_set_self _ there] at isRunner
        cases isRunner
        exact .starts (.inl (passes.serving envelope stage here.phase))
      | insert there _ _ runners =>
        rw [runners, Pool.get_set_self _ there] at isRunner
        cases isRunner
        cases here.phase
      | serve there serving served _ runners =>
        rw [runners, Pool.get_set_self _ there] at isRunner
        cases isRunner
        have isServing := here.phase
        cases isServing
        have isPlayer' := here.player
        obtain ⟨d, old, isPlayer, rfl, found, moved⟩ | ⟨_, _, _, loaded⟩ | ⟨_, _, _, _, _, rfl⟩ :=
          Vault.serve_cases served
        · cases isPlayer'
          exact .serves rfl ⟨there, serving, isPlayer, found⟩ (Vault.serves_of_serveCell moved)
        · obtain ⟨_, _, _, rfl⟩ | ⟨_, rfl, _⟩ | ⟨_, _, _, rfl, _⟩ := loaded
          · exact .starts (.inr rfl)
          · cases isPlayer'
          · cases isPlayer'
        · exact .starts (.inr rfl)
    | _ => cases foreign

/-- Nobody moves the player of a runner that waits. -/
theorem Followed.unmoved {seen : Nat → Option (Nat × P)} {i : Nat} {r : Runner P A R E} {envelope : Envelope P A R}
    {stage : Stage P A R E} (followed : s.Followed seen) (agree : SlotsAgree config s)
    (taken : s.step config l = some t) (here : At t.vault t.runners i r envelope stage c cell)
    (isRunner : s.runners[i]? = some r)
    (still : (GateHolder.runner i).acts l = false ∨ Vault.Quiet s.vault t.vault) :
    stage.Follows (seen i) (t.vault.executions cell.gid) envelope cell.state := by
  cases holds : stage.holdsGate with
  | false => exact Stage.follows_of_free holds
  | true =>
    cases still with
    | inl foreign =>
      -- the runner holds the gate
      have held : r.held = some (c, stage) := by
        simp only [Runner.held, here.phase, here.player, holds, if_true]
      obtain ⟨old, found, gate, _⟩ := Slotted.runners agree i r isRunner c stage held
      obtain ⟨cell', there, gid, state⟩ := agree.foreign_step taken found gate foreign
      rw [here.found] at there
      obtain rfl := Option.some.inj there
      have before := followed i r envelope stage c old ⟨isRunner, here.phase, here.player, found⟩
      rw [gid, state]
      exact before.mono fun execution member => executions_step taken member
    | inr quiet =>
      obtain ⟨old, found, gid, state⟩ := quiet.symm.cell here.found
      have before := followed i r envelope stage c old ⟨isRunner, here.phase, here.player, found⟩
      rw [quiet.executions, ← gid, ← state]
      exact before

theorem Followed.step {seen : Nat → Option (Nat × P)} (followed : s.Followed seen) (agree : SlotsAgree config s)
    (submitted : s.Submitted) (taken : s.step config l = some t) : t.Followed (t.notice seen l) := by
  intro i r envelope stage c cell here
  -- the runner notices something when it moves
  have noticed : stage.Follows (seen i) (t.vault.executions cell.gid) envelope cell.state →
      stage.Follows (t.notice seen l i) (t.vault.executions cell.gid) envelope cell.state := by
    intro follows
    cases foreign : (GateHolder.runner i).acts l with
    | false =>
      rw [notice_of_ne foreign]
      exact follows
    | true =>
      cases l with
      | run j choice ok =>
        obtain rfl : i = j := by simpa [GateHolder.acts] using foreign
        rw [notice_self here.isRunner here.phase]
        exact follows.notice
      | _ => cases foreign
  cases serving_step taken here with
  | unmoved isRunner still => exact noticed (followed.unmoved agree taken here isRunner still)
  | starts first =>
    obtain rfl | rfl := first
    · trivial
    · trivial
  | @serves r₀ stage₀ choice ok old isRun there serves =>
    subst isRun
    obtain ⟨cell', found, gid, follows⟩ := serves.follows there.found
      (submitted.stage i r₀ _ stage₀ there.isRunner there.phase) (followed i r₀ _ stage₀ c old there)
    rw [here.found] at found
    obtain rfl := Option.some.inj found
    rw [notice_self here.isRunner here.phase, gid]
    exact follows

/-- While the saver of a dirty player runs, its caller waits. -/
theorem not_acts_of_saving (taken : s.step config l = some t) (unsaved : l.saved = none)
    (member : c ∈ s.saving holder) (found : s.vault.cells[c]? = some cell) (dirty : cell.dirty = true) :
    holder.acts l = false := by
  cases holder with
  | runner i =>
    obtain ⟨r, isRunner, saves⟩ := mem_saving_runner.mp member
    obtain ⟨envelope, value, serving, player⟩ := Runner.saves_iff.mp saves
    cases l with
    | run j choice ok =>
      by_cases same : i = j
      · subst same
        simp only [Runtime.step, isRunner, Option.bind_some] at taken
        simp only [Runtime.run, serving, Runtime.serve, player, Vault.serve, found, Option.bind_some] at taken
        cases choice with
        | go => simp [Vault.serveCell, dirty] at taken
        | saved => cases unsaved
        | _ => simp [Vault.serveCell] at taken
      · simpa [GateHolder.acts] using same
    | _ => rfl
  | saver k =>
    obtain ⟨saver, isSaver, member⟩ := mem_saving_saver.mp member
    obtain ⟨todo, isDirty, phase, member⟩ := Saver.mem_todo member
    cases l with
    | save j choice =>
      by_cases same : k = j
      · subst same
        simp only [Runtime.step, isSaver, Option.bind_some, phase] at taken
        obtain ⟨d, rest, rfl⟩ := List.exists_cons_of_ne_nil (List.ne_nil_of_mem member)
        cases choice with
        | saved => cases unsaved
        | _ => simp [Vault.save] at taken
      · simpa [GateHolder.acts] using same
    | _ => rfl

theorem saving_of_foreign (taken : s.step config l = some t) (foreign : holder.acts l = false)
    (member : c ∈ s.saving holder) : c ∈ t.saving holder := by
  cases holder with
  | runner i =>
    obtain ⟨r, isRunner, saves⟩ := mem_saving_runner.mp member
    obtain same | ⟨absent, _⟩ := runners_step taken foreign
    · exact mem_saving_runner.mpr ⟨r, same.trans isRunner, saves⟩
    · rw [absent] at isRunner
      cases isRunner
  | saver k =>
    obtain ⟨saver, isSaver, member⟩ := mem_saving_saver.mp member
    exact mem_saving_saver.mpr ⟨saver, savers_step taken isSaver foreign, member⟩

theorem acts_unique {other : GateHolder} (acts : holder.acts l = true) (acts' : other.acts l = true) :
    holder = other := by
  cases holder <;> cases other <;> cases l <;> simp_all [GateHolder.acts]

/-- The saver that the holder has called returns: it has changed its player, and
    the others wait on. -/
theorem saved_step {state : P} (taken : s.step config l = some t) (acts : holder.acts l = true)
    (isSaved : l.saved = some state) (head : (s.saving holder).head? = some c)
    (found : s.vault.cells[c]? = some cell) :
    t.vault.cells = s.vault.cells.set c { cell with state := state }
      ∧ t.vault.executions = s.vault.executions ∧ ∀ d ∈ s.saving holder, d ≠ c → d ∈ t.saving holder := by
  cases holder with
  | runner i =>
    obtain ⟨r, isRunner, saves⟩ := mem_saving_runner.mp (List.mem_of_head? head)
    obtain ⟨envelope, value, serving, player⟩ := Runner.saves_iff.mp saves
    cases l with
    | run j choice ok =>
      obtain rfl : i = j := by simpa [GateHolder.acts] using acts
      cases choice with
      | saved left wrote result =>
        obtain rfl := Option.some.inj isSaved
        simp only [Runtime.step, isRunner, Option.bind_some, Runtime.run, serving, Runtime.serve, player,
          Vault.serve, found, Vault.serveCell] at taken
        split at taken
        · cases taken
          refine ⟨?_, s.vault.write_executions _ _ wrote, ?_⟩
          · exact congrArg (List.set · c _) (s.vault.write_rest cell.gid cell.state wrote).1
          · intro d member differ
            simp only [saving, isRunner, Option.bind_some, saves, Option.toList_some, List.mem_singleton] at member
            exact absurd member differ
        · cases taken
      | _ => cases isSaved
    | _ => cases acts
  | saver k =>
    obtain ⟨saver, isSaver, member⟩ := mem_saving_saver.mp (List.mem_of_head? head)
    obtain ⟨todo, dirty, phase, _⟩ := Saver.mem_todo member
    have isTodo : s.saving (.saver k) = todo := by simp [saving, isSaver, Saver.todo, phase]
    rw [isTodo] at head
    obtain ⟨rest, rfl⟩ := List.head?_eq_some_iff.mp head
    cases l with
    | save j choice =>
      obtain rfl : k = j := by simpa [GateHolder.acts] using acts
      cases choice with
      | saved left wrote result =>
        obtain rfl := Option.some.inj isSaved
        simp only [Runtime.step, isSaver, Option.bind_some, phase, Vault.save, found, Option.map_some,
          Option.some.injEq] at taken
        subst taken
        refine ⟨?_, s.vault.write_executions _ _ wrote, ?_⟩
        · exact congrArg (List.set · c _) (s.vault.write_rest cell.gid cell.state wrote).1
        · intro d member differ
          rw [isTodo] at member
          have isSaver' : ((s.vault.write cell.gid cell.state wrote).savers.set k
              { saver with phase := .saving rest dirty })[k]? = some { saver with phase := .saving rest dirty } := by
            rw [(s.vault.write_rest cell.gid cell.state wrote).2.2.2.2.1]
            exact Pool.get_set_self _ isSaver
          refine mem_saving_saver.mpr ⟨_, isSaver', ?_⟩
          exact (List.mem_cons.mp member).resolve_left differ
      | _ => cases isSaved
    | _ => cases acts

end Runtime

end Xkk.Logic

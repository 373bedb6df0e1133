import Xkk.Logic.Persistence

/-! # What a caller is told

From the execution of a command to the answer of its caller: the answer carries
the value of the command, and it reports a save only when the store has what the
command has left.
-/

set_option linter.unusedSectionVars false

namespace Xkk.Logic

open Xkk.Lib

section Runtime

variable {P A R E : Type} [LogicState P]

/-- What the caller will be told about a command that was executed. -/
def Stage.report : Stage P A R E → Option (R × Except E Unit)
  | .refreshing (.save value result) | .marking _ (.save value result)
  | .dropping _ (.release (.completed value result)) | .releasing (.completed value result)
  | .finishing (.completed value result) => some (value, result)
  | _ => none

/-- The next step of the runner executes a command. -/
def RunnerPhase.executes : RunnerPhase P A R E → Bool
  | .serving _ (.ready _ _) => true
  | _ => false

theorem Onward.report_stage (onward : Onward R E) (permit : Bool) :
    (onward.stage : Stage P A R E).report = (Stage.dropping permit onward : Stage P A R E).report := by
  cases onward with
  | save => rfl
  | release outcome => cases outcome <;> rfl

theorem Vault.Serves.not_ready {max me c : Nat} {v v' : Vault P R E} {cell : PlayerCell P}
    {envelope : Envelope P A R} {stage stage' : Stage P A R E} {choice : Choice P A E}
    {told : R × Except E Unit} (serves : Vault.Serves max v me envelope c cell stage choice v' stage')
    (report : stage'.report = some told) (permit : Bool) (logic : P → R × P) : stage ≠ .ready permit logic := by
  rintro rfl
  cases serves
  cases report

/-- A report comes from a player that was clean, or from the saver. -/
theorem Vault.Serves.reports {max me c : Nat} {v v' : Vault P R E} {cell : PlayerCell P} {envelope : Envelope P A R}
    {stage stage' : Stage P A R E} {choice : Choice P A E} {seen : Option (Nat × P)} {value : R}
    {result : Except E Unit} (serves : Vault.Serves max v me envelope c cell stage choice v' stage')
    (agrees : stage.holdsGate = true → stage.Agrees cell (v.marked c))
    (follows : stage.Follows seen (v.executions cell.gid) envelope cell.state)
    (report : stage'.report = some (value, result)) :
    stage.report = some (value, result)
    ∨ (result = .ok () ∧ cell.dirty = false
      ∧ ∃ execution ∈ v.executions cell.gid, execution.Of envelope
        ∧ execution.logic execution.on = (value, cell.state))
    ∨ stage = .saving value ∧ ∃ state wrote, choice = .saved state wrote result := by
  cases serves with
  | @refresh after =>
    cases after with
    | logic => cases report
    | save => exact .inl report
  | refreshFault => exact .inl report
  | @markLogic dirty permit value' =>
    cases dirty with
    | true => cases report
    | false =>
      cases report
      exact .inr (.inl ⟨rfl, (agrees rfl).1, follows⟩)
  | markSave => exact .inl report
  | @drop onward => exact .inl ((onward.report_stage true).symm.trans report)
  | @onward onward => exact .inl ((onward.report_stage false).symm.trans report)
  | dropFault => exact .inl report
  | clean isClean =>
    cases report
    exact .inr (.inl ⟨rfl, isClean, follows⟩)
  | @saved value' state wrote result' _ =>
    cases report
    exact .inr (.inr ⟨rfl, state, wrote, rfl⟩)
  | @release outcome =>
    cases outcome with
    | completed => exact .inl report
    | failed => cases report
  | _ => cases report

namespace Runtime

variable {config : ValidConfig} {s t : Runtime P A R E} {l : Label P A R E} {i c : Nat} {r : Runner P A R E}
  {cell : PlayerCell P}

/-- While the runner of a player is elsewhere, no command of the player is executed. -/
theorem Serving.idle_step (inv : Serving config s) (taken : s.step config.toLogicConfig l = some t)
    (isRunner : s.runners[i]? = some r) (owns : r.phase.owns = true) (elsewhere : r.phase.executes = false) :
    t.vault.executions r.gid = s.vault.executions r.gid
    ∧ ∀ (c : Nat) cell, s.vault.cells[c]? = some cell → cell.gid = r.gid →
      ∃ cell', t.vault.cells[c]? = some cell' ∧ cell'.gid = cell.gid ∧ (cell'.state = cell.state
        ∨ ∃ holder, (s.saving holder).head? = some c ∧ holder.acts l = true ∧ l.saved = some cell'.state) := by
  -- whoever executes a command of the player would be its runner
  have nobody : ∀ {j d : Nat} {r' : Runner P A R E} {envelope : Envelope P A R} {permit : Bool}
      {logic : P → R × P} {other : PlayerCell P},
      At s.vault s.runners j r' envelope (.ready permit logic) d other → other.gid ≠ r.gid := by
    intro j d r' envelope permit logic other here isGid
    have ofRunner := inv.served.located.gid_of here.isRunner here.player here.found
    have same : r.gid = r'.gid := isGid.symm.trans ofRunner
    have owns' : r'.phase.owns = true := by rw [here.phase]; rfl
    obtain ⟨rfl, rfl⟩ := inv.served.owned.runner_eq isRunner here.isRunner owns owns' same
    rw [here.phase] at elsewhere
    cases elsewhere
  constructor
  · cases players_step taken with
    | quiet _ executions | loaded _ _ _ _ executions | saved _ _ _ _ _ executions => rw [executions]
    | executed here _ executions => rw [executions, Function.update_of_ne (nobody here).symm]
  · intro c cell found isGid
    obtain ⟨cell', there, gid, same | ⟨_, _, _, _, _, _, _, _, here, _⟩ | saved⟩ := (players_step taken).player found
    · exact ⟨cell', there, gid, .inl same⟩
    · exact absurd isGid (nobody here)
    · exact ⟨cell', there, gid, .inr saved⟩

/-! ## The numbers of the commands -/

theorem Serving.started_prefix (inv : Serving config s) (gid : Gid) : s.started gid <+: s.accepted gid := by
  obtain ⟨_, keeps, _⟩ := inv.history gid
  exact ⟨_, keeps.accepted.symm⟩

theorem Serving.executed_nodup (inv : Serving config s) (gid : Gid) : (s.executed gid).Nodup := by
  have started := (inv.served.numbered.nodup gid).sublist (inv.started_prefix gid).sublist
  exact started.sublist (inv.executed_of gid).1

/-- Whatever is executed was pushed into the mailbox of its player. -/
theorem Serving.pushed (inv : Serving config s) {gid : Gid} {id : Nat} (member : id ∈ s.executed gid) :
    ∃ e, s.enqueues[id]? = some e ∧ e.gid = gid ∧ e.phase.pushed = true := by
  have started := (inv.executed_of gid).1.subset member
  exact inv.served.numbered.pushed gid id ((inv.started_prefix gid).subset started)

/-- The command of a runner was executed when the runner is past its execution. -/
theorem Serving.unran (inv : Serving config s) {envelope : Envelope P A R} {stage : Stage P A R E}
    (isRunner : s.runners[i]? = some r) (serving : r.phase = .serving envelope stage) (unran : stage.ran = false) :
    envelope.id ∉ s.executed r.gid := by
  have owns : r.phase.owns = true := by rw [serving]; rfl
  have keeps := (inv.served.dispatched.runner i r isRunner owns).1
  simp only [serving, RunnerPhase.hands, unran] at keeps
  have started : s.started r.gid = s.answered r.gid ++ [envelope.id] := keeps.started
  have executed : s.executed r.gid = ((s.outcomes r.gid).filter (·.2.isCompleted)).map Prod.fst ++ [] :=
    keeps.executed
  have nodup := (inv.served.numbered.nodup r.gid).sublist (inv.started_prefix r.gid).sublist
  rw [started, List.nodup_append] at nodup
  intro member
  rw [executed, List.append_nil] at member
  obtain ⟨answer, isAnswer, same⟩ := List.mem_map.mp member
  have answered : envelope.id ∈ s.answered r.gid :=
    List.mem_map.mpr ⟨answer, (List.mem_filter.mp isAnswer).1, same⟩
  exact nodup.2.2 _ answered _ (List.mem_singleton_self _) rfl

/-- The player's runner has a report for its caller. -/
def Reporting (s : Runtime P A R E) (gid : Gid) : Prop :=
  ∃ (i : Nat) (r : Runner P A R E) (envelope : Envelope P A R) (stage : Stage P A R E) (told : R × Except E Unit),
    s.runners[i]? = some r ∧ r.gid = gid ∧ r.phase = .serving envelope stage ∧ stage.report = some told

/-- Whoever has a report has its player. -/
def Placed (s : Runtime P A R E) : Prop :=
  ∀ (i : Nat) r envelope stage told, s.runners[i]? = some r → r.phase = .serving envelope stage →
    stage.report = some told → r.player.isSome = true

theorem Placed.step (placed : s.Placed) (taken : s.step config.toLogicConfig l = some t) : t.Placed := by
  intro i r envelope stage told isRunner serving report
  have unmoved : t.runners = s.runners → r.player.isSome = true := by
    intro runners
    rw [runners] at isRunner
    exact placed i r envelope stage told isRunner serving report
  -- one runner has moved
  have moved : ∀ {j : Nat} {r' : Runner P A R E}, t.runners = s.runners.set j r' →
      (∀ envelope stage, r'.phase = .serving envelope stage → stage.report = some told → r'.player.isSome = true) →
      r.player.isSome = true := by
    intro j r' runners own
    rw [runners] at isRunner
    cases Pool.get_set_cases isRunner with
    | inl same =>
      obtain ⟨rfl, rfl⟩ := same
      exact own envelope stage serving report
    | inr differ => exact placed i r envelope stage told differ.2 serving report
  cases step_moves taken with
  | submit _ runners | rest _ runners | quiet _ runners | save _ _ _ runners | evict _ _ _ _ runners
  | evicted _ _ runners => exact unmoved runners
  | spawn _ runners =>
    rw [runners] at isRunner
    cases Pool.get_append_cases isRunner with
    | inl new =>
      rw [new.2] at serving
      cases serving
    | inr before => exact placed i r envelope stage told before.2 serving report
  | pass _ _ runners _ passes =>
    refine moved runners ?_
    intro envelope stage serving report
    rw [passes.serving envelope stage serving] at report
    cases report
  | insert _ _ _ runners =>
    refine moved runners ?_
    intro envelope stage serving
    cases serving
  | serve _ _ served _ runners =>
    refine moved runners ?_
    intro envelope stage serving report
    cases serving
    obtain ⟨d, cell, isPlayer, rfl, _⟩ | ⟨_, _, _, loaded⟩ | ⟨_, _, _, _, _, rfl⟩ := Vault.serve_cases served
    · rfl
    · obtain ⟨_, _, _, rfl⟩ | ⟨_, _, _, rfl⟩ | ⟨_, _, _, _, rfl⟩ := loaded
      · cases report
      · cases report
      · cases report
    · cases report

/-- Where the report of a runner comes from. -/
def ReportedFrom (s t : Runtime P A R E) (l : Label P A R E) (i c : Nat) (envelope : Envelope P A R)
    (cell' : PlayerCell P) (value : R) (result : Except E Unit) : Prop :=
  ∃ r₀ stage₀ cell, At s.vault s.runners i r₀ envelope stage₀ c cell ∧ cell'.gid = cell.gid
    ∧ t.vault.executions cell.gid = s.vault.executions cell.gid
    ∧ (cell'.state = cell.state
      ∨ ∃ holder, (s.saving holder).head? = some c ∧ holder.acts l = true ∧ l.saved = some cell'.state)
    ∧ (stage₀.report = some (value, result)
      ∨ (result = .ok () ∧ cell.dirty = false
        ∧ ∃ execution ∈ s.vault.executions cell.gid, execution.Of envelope
          ∧ execution.logic execution.on = (value, cell.state))
      ∨ stage₀ = .saving value ∧ ∃ state wrote ok, l = .run i (.saved state wrote result) ok)

theorem reported_step {seen : Nat → Option (Nat × P)} {envelope : Envelope P A R} {stage : Stage P A R E}
    {cell' : PlayerCell P} {value : R} {result : Except E Unit} (inv : Serving config s) (followed : s.Followed seen)
    (taken : s.step config.toLogicConfig l = some t) (here : At t.vault t.runners i r envelope stage c cell')
    (report : stage.report = some (value, result)) : ReportedFrom s t l i c envelope cell' value result := by
  -- the player before the step
  have before : ∀ {r₀ : Runner P A R E} {stage₀ : Stage P A R E} {cell : PlayerCell P},
      At s.vault s.runners i r₀ envelope stage₀ c cell → (∀ permit logic, stage₀ ≠ .ready permit logic) →
      cell'.gid = cell.gid ∧ t.vault.executions cell.gid = s.vault.executions cell.gid
        ∧ (cell'.state = cell.state
          ∨ ∃ holder, (s.saving holder).head? = some c ∧ holder.acts l = true ∧ l.saved = some cell'.state) := by
    intro r₀ stage₀ cell there elsewhere
    have owns : r₀.phase.owns = true := by rw [there.phase]; rfl
    have idle : r₀.phase.executes = false := by
      rw [there.phase]
      cases stage₀ with
      | ready permit logic => exact absurd rfl (elsewhere permit logic)
      | _ => rfl
    obtain ⟨executions, cells⟩ := inv.idle_step taken there.isRunner owns idle
    have isGid := inv.served.located.gid_of there.isRunner there.player there.found
    obtain ⟨after, found', gid, state⟩ := cells c cell there.found isGid
    rw [here.found] at found'
    obtain rfl := Option.some.inj found'
    exact ⟨gid, isGid ▸ executions, state⟩
  cases serving_step taken here with
  | unmoved isRunner _ =>
    obtain ⟨cell, found, _⟩ := inv.served.located.cell_of isRunner here.player
    have there : At s.vault s.runners i r envelope stage c cell := ⟨isRunner, here.phase, here.player, found⟩
    obtain ⟨gid, executions, state⟩ := before there (by rintro permit logic rfl; cases report)
    exact ⟨r, stage, cell, there, gid, executions, state, .inl report⟩
  | starts first =>
    obtain rfl | rfl := first
    · cases report
    · cases report
  | @serves r₀ stage₀ choice ok cell isRun there serves =>
    obtain ⟨gid, executions, state⟩ := before there (serves.not_ready report)
    refine ⟨r₀, stage₀, cell, there, gid, executions, state, ?_⟩
    obtain same | clean | ⟨saving, left, wrote, rfl⟩ := serves.reports
      (fun holds => (Slotted.at inv.agree there holds).2) (followed i r₀ _ _ c cell there) report
    · exact .inl same
    · exact .inr (.inl clean)
    · exact .inr (.inr ⟨saving, left, wrote, ok, isRun⟩)

end Runtime

end Runtime

namespace Persisting

variable {A R : Type} {config : ValidConfig} {x y : Persisting A R}

/-- What the report of a command rests on: the player has what the command has left,
    and when the report is good the player is clean and what was written is stored. -/
def Report (x : Persisting A R) (stored : Persisting A R → Gid → Items → Prop) (envelope : Envelope PlayerState A R)
    (cell : PlayerCell PlayerState) (value : R) (result : Except PlayerError Unit) : Prop :=
  ∃ execution ∈ x.runtime.vault.executions cell.gid, execution.Of envelope
    ∧ (execution.logic execution.on).1 = value ∧ (execution.logic execution.on).2.items = cell.state.items
    ∧ (result = .ok () → cell.dirty = false
      ∧ ((execution.logic execution.on).2.dirty = true → stored x cell.gid cell.state.items))

def Reported (stored : Persisting A R → Gid → Items → Prop) (x : Persisting A R) : Prop :=
  ∀ i r envelope stage c cell value result, At x.runtime.vault x.runtime.runners i r envelope stage c cell →
    stage.report = some (value, result) → x.Report stored envelope cell value result

section Step

variable {stored : Persisting A R → Gid → Items → Prop} {envelope : Envelope PlayerState A R}
  {cell cell' : PlayerCell PlayerState} {value : R} {result : Except PlayerError Unit}

theorem Report.keep (report : x.Report stored envelope cell value result) (gid : cell'.gid = cell.gid)
    (executions : y.runtime.vault.executions cell.gid = x.runtime.vault.executions cell.gid)
    (items : cell'.state.items = cell.state.items) (clean : cell.dirty = false → cell'.dirty = false)
    (keeps : stored x cell.gid cell.state.items → stored y cell.gid cell.state.items) :
    y.Report stored envelope cell' value result := by
  obtain ⟨execution, member, isOf, isValue, left, good⟩ := report
  refine ⟨execution, by rw [gid, executions]; exact member, isOf, isValue, left.trans items.symm, ?_⟩
  intro isOk
  rw [gid, items]
  exact ⟨clean (good isOk).1, fun wrote => keeps ((good isOk).2 wrote)⟩

/-- The command has left the player clean. -/
theorem Report.unwritten {execution : Execution PlayerState R} (gid : cell'.gid = cell.gid)
    (executions : y.runtime.vault.executions cell.gid = x.runtime.vault.executions cell.gid)
    (items : cell'.state.items = cell.state.items) (clean : cell'.dirty = false) (before : cell.dirty = false)
    (member : execution ∈ x.runtime.vault.executions cell.gid) (isOf : execution.Of envelope)
    (ran : execution.logic execution.on = (value, cell.state)) : y.Report stored envelope cell' value result := by
  refine ⟨execution, by rw [gid, executions]; exact member, isOf, by rw [ran], by rw [ran]; exact items.symm, ?_⟩
  intro _
  refine ⟨clean, fun wrote => ?_⟩
  rw [ran] at wrote
  rw [PlayerCell.dirty] at before
  exact absurd (wrote.symm.trans before) (by decide)

end Step

/-- What the saver of the player `d` does to the player `c`. -/
theorem ended_player {holder : GateHolder} {c d : Nat} {cell cell' other : PlayerCell PlayerState}
    {state : PlayerState} {wrote : Bool} {result : Except PlayerError Unit}
    (head : (x.runtime.saving holder).head? = some d) (isCell : x.runtime.vault.cells[d]? = some other)
    (advanced : x.advance config.toLogicConfig (holder.saved state wrote result) = some y)
    (before : x.runtime.vault.cells[c]? = some cell) (after : y.runtime.vault.cells[c]? = some cell') :
    cell' = cell ∧ d ≠ c ∨ d = c ∧ cell = other ∧ cell' = { other with state := state } := by
  obtain ⟨cells, _⟩ :=
    Runtime.saved_step (advance_runtime advanced).1 (acts_saved.mpr rfl) saved_saved head isCell
  rw [cells] at after
  cases Pool.get_set_cases after with
  | inl same =>
    obtain ⟨rfl, rfl⟩ := same
    rw [isCell] at before
    exact .inr ⟨rfl, (Option.some.inj before).symm, rfl⟩
  | inr differ =>
    rw [differ.2] at before
    exact .inl ⟨Option.some.inj before, differ.1⟩

theorem Reported.step {stored : Persisting A R → Gid → Items → Prop} {l : Label A R} (reported : Reported stored x)
    (inv : Persisted config x) (taken : x.step config.toLogicConfig l = some y)
    (keeps : ∀ gid items, x.runtime.Reporting gid → stored x gid items → stored y gid items)
    (starts : ∀ holder c cell, l = .clear holder → (x.runtime.saving holder).head? = some c →
      x.runtime.vault.cells[c]? = some cell → stored y cell.gid cell.state.items) : Reported stored y := by
  have reporting : ∀ {i c : Nat} {r : Runner PlayerState A R PlayerError} {envelope : Envelope PlayerState A R}
      {stage : Stage PlayerState A R PlayerError} {cell : PlayerCell PlayerState}
      {told : R × Except PlayerError Unit}, At x.runtime.vault x.runtime.runners i r envelope stage c cell →
      stage.report = some told → x.runtime.Reporting cell.gid := by
    intro i c r envelope stage cell told there report
    have isGid := inv.serving.served.located.gid_of there.isRunner there.player there.found
    exact ⟨i, r, envelope, stage, told, there.isRunner, isGid.symm, there.phase, report⟩
  intro i r envelope stage c cell' value result here report
  -- nothing has happened to the runtime
  have waits : y.runtime = x.runtime → y.Report stored envelope cell' value result := by
    intro same
    rw [same] at here
    exact (reported i r envelope stage c cell' value result here report).keep rfl (by rw [same]) rfl id
      (keeps _ _ (reporting here report))
  cases steps_of_step taken with
  | find | create | snapshot | write => exact waits rfl
  | advance unsaved _ advanced =>
    have stepped := (advance_runtime advanced).1
    obtain ⟨r₀, stage₀, cell, there, gid, executions, same | ⟨_, _, _, isSaved⟩, origin⟩ :=
      Runtime.reported_step inv.serving inv.followed stepped here report
    · have items : cell'.state.items = cell.state.items := by rw [same]
      have clean : cell'.dirty = cell.dirty := by rw [PlayerCell.dirty, PlayerCell.dirty, same]
      obtain before | ⟨_, isClean, execution, member, isOf, ran⟩ | ⟨_, _, _, _, rfl⟩ := origin
      · exact (reported i r₀ envelope stage₀ c cell value result there before).keep gid executions items
          (fun isClean => clean.trans isClean)
          (keeps _ _ (reporting there before))
      · exact .unwritten gid executions items (clean.trans isClean) isClean member isOf ran
      · cases unsaved
    · rw [isSaved] at unsaved
      cases unsaved
  | @ended _ holder d other state result' z head isCell left advanced =>
    have stepped := (advance_runtime advanced).1
    obtain ⟨r₀, stage₀, cell, there, gid, executions, _, origin⟩ :=
      Runtime.reported_step inv.serving inv.followed stepped here report
    -- the saver leaves the items alone
    have left' : state.items = other.state.items ∧ (other.dirty = false → state.dirty = false) := by
      obtain ⟨_, _, rfl, _⟩ | ⟨rfl, _⟩ := left
      · exact ⟨rfl, fun _ => rfl⟩
      · exact ⟨rfl, id⟩
    have after := ended_player head isCell advanced there.found here.found
    have kept : cell'.state.items = cell.state.items ∧ (cell.dirty = false → cell'.dirty = false) := by
      obtain ⟨rfl, _⟩ | ⟨_, rfl, rfl⟩ := after
      · exact ⟨rfl, id⟩
      · exact left'
    obtain before | ⟨_, isClean, execution, member, isOf, ran⟩ | ⟨rfl, _, _, _, isRun⟩ := origin
    · exact (reported i r₀ envelope stage₀ c cell value result there before).keep gid executions kept.1 kept.2
        (keeps _ _ (reporting there before))
    · exact .unwritten gid executions kept.1 (kept.2 isClean) isClean member isOf ran
    · -- the saver of the runner itself
      cases holder with
      | saver k => cases isRun
      | runner j =>
        simp only [GateHolder.saved, Runtime.Label.run.injEq, Choice.saved.injEq] at isRun
        obtain ⟨rfl, ⟨_, _, rfl⟩, _⟩ := isRun
        have isHead : (x.runtime.saving (.runner j)).head? = some c := by
          simp [Runtime.saving, there.isRunner, Runner.saves, there.phase, there.player]
        obtain rfl := Option.some.inj (head.symm.trans isHead)
        obtain ⟨_, differ⟩ | ⟨_, rfl, rfl⟩ := after
        · exact absurd rfl differ
        · obtain ⟨execution, member, isOf, ran⟩ := inv.followed j r₀ envelope _ d cell there
          refine ⟨execution, ?_, isOf, by rw [ran], by rw [ran]; exact left'.1.symm, fun isOk => ?_⟩
          · rw [gid]
            exact executions ▸ member
          · obtain ⟨isClear, _, rfl, _⟩ | ⟨_, error, isError⟩ := left
            · exact ⟨rfl, fun _ => starts _ d cell isClear head isCell⟩
            · rw [isOk] at isError
              cases isError

theorem Reported.mono {stored stored' : Persisting A R → Gid → Items → Prop} (reported : Reported stored x)
    (weaker : ∀ gid items, stored x gid items → stored' x gid items) : Reported stored' x := by
  intro i r envelope stage c cell value result here report
  obtain ⟨execution, member, isOf, isValue, items, good⟩ := reported i r envelope stage c cell value result here report
  refine ⟨execution, member, isOf, isValue, items, fun isOk => ⟨(good isOk).1, fun dirty => ?_⟩⟩
  exact weaker _ _ ((good isOk).2 dirty)

theorem reported_initial {stored : Persisting A R → Gid → Items → Prop} (documents : Gid → Option Items) :
    Reported stored (initial config documents) := by
  intro i r envelope stage c cell value result here
  have isRunner := here.isRunner
  simp [initial, Runtime.initial] at isRunner

theorem reported_reach {C : Persisting A R → Label A R → Prop} (reached : (system A R config).Reach C x) :
    Reported (fun _ _ _ => True) x := by
  refine reached.inv_with (J := Persisted config) (fun _ => persisted_reach) ?_ ?_
  · rintro x ⟨documents, rfl⟩
    exact reported_initial documents
  · intro x l y inv reported _ taken
    exact reported.step inv taken (fun _ _ _ _ => trivial) (fun _ _ _ _ _ _ => trivial)

/-! ## What is stored -/

/-- The store has the items, and no generation of the player is unsaved. -/
def Stored (player : Gid) (x : Persisting A R) (gid : Gid) (items : Items) : Prop :=
  gid = player → x.documents gid = some items
    ∧ ∀ (d : Nat) other, x.runtime.vault.cells[d]? = some other → other.gid = gid → other.dirty = false

/-- The saver clears the dirty flag of what it has written. -/
theorem Persisted.clear (inv : Persisted config x) {holder : GateHolder} {c : Nat} {cell : PlayerCell PlayerState}
    (taken : x.step config.toLogicConfig (.clear holder) = some y)
    (head : (x.runtime.saving holder).head? = some c) (found : x.runtime.vault.cells[c]? = some cell) :
    (∃ save, x.saves c = some save ∧ save.written = true ∧ save.data = cell.state.items) ∧ cell.dirty = true
      ∧ y.documents = x.documents
      ∧ y.runtime.vault.cells = x.runtime.vault.cells.set c
        { cell with state := { cell.state with dirty := false } } := by
  simp only [Persisting.step, Persisting.clear, head, found, Option.bind_some, Option.ite_none_right_eq_some] at taken
  obtain ⟨isWritten, taken⟩ := taken
  obtain ⟨z, advanced, rfl⟩ := Option.map_eq_some_iff.mp taken
  obtain ⟨stepped, documents, _⟩ := advance_runtime advanced
  obtain ⟨cells, _⟩ := Runtime.saved_step stepped (acts_saved.mpr rfl) saved_saved head found
  obtain ⟨save, isSave, isWritten⟩ := (Option.any_eq_true _ _).mp isWritten
  obtain ⟨_, cell₁, _, found₁, dirty, data⟩ := inv.snapped c save isSave
  rw [found] at found₁
  obtain rfl := Option.some.inj found₁
  exact ⟨⟨save, isSave, isWritten, data.symm⟩, dirty, documents, cells⟩

theorem Stored.starts {player : Gid} {holder : GateHolder} {c : Nat} {cell : PlayerCell PlayerState}
    {l : Label A R} (inv : Persisted config x) (written : Written player x) (undivided : Undivided player x l)
    (taken : x.step config.toLogicConfig (.clear holder) = some y)
    (head : (x.runtime.saving holder).head? = some c) (found : x.runtime.vault.cells[c]? = some cell) :
    Stored player y cell.gid cell.state.items := by
  obtain ⟨⟨save, isSave, isWritten, data⟩, dirty, documents, cells⟩ := inv.clear taken head found
  rintro rfl
  constructor
  · rw [documents, ← data]
    exact written c cell save found rfl isSave isWritten
  · intro d other there isGid
    rw [cells] at there
    cases Pool.get_set_cases there with
    | inl same =>
      rw [same.2]
      rfl
    | inr differ =>
      -- a second unsaved generation
      apply Bool.eq_false_iff.mpr
      intro dirty'
      exact differ.1 (undivided c d cell other found differ.2 rfl isGid dirty dirty')

/-- No other runner loads a player whose runner has a report. -/
theorem Persisted.reporting_alone (inv : Persisted config x) {gid : Gid} (reporting : x.runtime.Reporting gid)
    {j : Nat} {r' : Runner PlayerState A R PlayerError} {envelope' : Envelope PlayerState A R}
    {stage' : Stage PlayerState A R PlayerError} (isRunner' : x.runtime.runners[j]? = some r')
    (serving' : r'.phase = .serving envelope' stage') (silent : stage'.report = none) : r'.gid ≠ gid := by
  obtain ⟨i, r, envelope, stage, told, isRunner, rfl, serving, report⟩ := reporting
  intro same
  have owns : r.phase.owns = true := by rw [serving]; rfl
  have owns' : r'.phase.owns = true := by rw [serving']; rfl
  obtain ⟨rfl, rfl⟩ := inv.serving.served.owned.runner_eq isRunner isRunner' owns owns' same.symm
  rw [serving] at serving'
  cases serving'
  rw [silent] at report
  cases report

/-- The players stay clean while the runner has a report. -/
theorem Persisted.clean_step (inv : Persisted config x) {gid : Gid} {l : Label A R}
    (reporting : x.runtime.Reporting gid) (taken : x.step config.toLogicConfig l = some y)
    (clean : ∀ (d : Nat) other, x.runtime.vault.cells[d]? = some other → other.gid = gid → other.dirty = false)
    (d : Nat) (other' : PlayerCell PlayerState) (there : y.runtime.vault.cells[d]? = some other')
    (isGid : other'.gid = gid) : other'.dirty = false := by
  have reports := reporting
  obtain ⟨i, r, envelope, stage, told, isRunner, rfl, serving, report⟩ := reports
  have owns : r.phase.owns = true := by rw [serving]; rfl
  have idle : r.phase.executes = false := by
    rw [serving]
    cases stage with
    | ready => cases report
    | _ => rfl
  -- a step of the runtime
  have moved : ∀ {l' : Runtime.Label PlayerState A R PlayerError} {z : Persisting A R},
      x.runtime.step config.toLogicConfig l' = some z.runtime → z.runtime.vault.cells[d]? = some other' →
      ∃ other, x.runtime.vault.cells[d]? = some other ∧ other.dirty = false ∧ (other'.state = other.state
        ∨ ∃ holder, (x.runtime.saving holder).head? = some d ∧ holder.acts l' = true
          ∧ l'.saved = some other'.state) := by
    intro l' z stepped after
    obtain ⟨other, found, gid⟩ | ⟨j, _, _, r', _, _, _, isRunner', fetched, gid, _⟩ :=
      (Runtime.players_step stepped).origin after
    · obtain ⟨same, found', _, state⟩ := (inv.serving.idle_step stepped isRunner owns idle).2 d other found
        (gid.trans isGid)
      rw [after] at found'
      obtain rfl := Option.some.inj found'
      exact ⟨other, found, clean d other found (gid.trans isGid), state⟩
    · exact absurd (gid.symm.trans isGid) (inv.reporting_alone reporting isRunner' fetched rfl)
  cases steps_of_step taken with
  | find | create | snapshot | write => exact clean d other' there isGid
  | advance unsaved _ advanced =>
    obtain ⟨other, _, isClean, same | ⟨_, _, _, isSaved⟩⟩ := moved (advance_runtime advanced).1 there
    · rw [PlayerCell.dirty, same]
      exact isClean
    · rw [isSaved] at unsaved
      cases unsaved
  | @ended _ holder c cell state _ z head found left advanced =>
    obtain ⟨other, found', isClean, same | ⟨holder', head', acts, isSaved⟩⟩ :=
      moved (advance_runtime advanced).1 there
    · rw [PlayerCell.dirty, same]
      exact isClean
    · obtain rfl := acts_saved.mp acts
      obtain rfl := Option.some.inj (head.symm.trans head')
      rw [found] at found'
      obtain rfl := Option.some.inj found'
      rw [saved_saved] at isSaved
      rw [PlayerCell.dirty, ← Option.some.inj isSaved]
      obtain ⟨_, _, rfl, _⟩ | ⟨rfl, _⟩ := left
      · rfl
      · exact isClean

theorem Stored.keeps {player gid : Gid} {items : Items} {l : Label A R} (inv : Persisted config x)
    (taken : x.step config.toLogicConfig l = some y) (reporting : x.runtime.Reporting gid)
    (stored : Stored player x gid items) : Stored player y gid items := by
  intro isPlayer
  obtain ⟨document, clean⟩ := stored isPlayer
  refine ⟨?_, fun d other there isGid => inv.clean_step reporting taken clean d other there isGid⟩
  cases steps_of_step taken with
  | advance _ _ advanced =>
    rw [(advance_runtime advanced).2.1]
    exact document
  | ended _ _ _ advanced =>
    rw [(advance_runtime advanced).2.1]
    exact document
  | find | snapshot => exact document
  | @create i r loading _ =>
    obtain ⟨isRunner, envelope, serving⟩ := loadingRunner_eq loading
    have differ := inv.reporting_alone reporting isRunner serving rfl
    simpa only [Function.update_of_ne differ.symm] using document
  | @write d other save found isSave =>
    have differ : gid ≠ other.gid := by
      rintro rfl
      obtain ⟨_, cell, _, found', dirty, _⟩ := inv.snapped d save isSave
      rw [found] at found'
      obtain rfl := Option.some.inj found'
      rw [clean d other found rfl] at dirty
      cases dirty
    simpa only [Function.update_of_ne differ] using document

theorem stored_reach {player : Gid} (reached : (system A R config).Reach (Undivided player) x) :
    Reported (Stored player) x := by
  refine reached.inv_with (J := fun x => Persisted config x ∧ Written player x)
    (fun _ reached => ⟨persisted_reach reached, written_reach reached⟩) ?_ ?_
  · rintro x ⟨documents, rfl⟩
    exact reported_initial documents
  · intro x l y inv reported undivided taken
    refine reported.step inv.1 taken (fun _ _ reporting stored => stored.keeps inv.1 taken reporting) ?_
    rintro holder c cell rfl head found
    exact Stored.starts inv.1 inv.2 undivided taken head found

/-- There was never a second unsaved generation of the player. -/
def Whole (config : ValidConfig) (player : Gid) (x : Persisting A R) : Prop :=
  OneRunner player x ∨ (system A R config).Reach (Undivided player) x

theorem reported_documents (reached : (system A R config).Reach System.Any x) (player : Gid) :
    Reported (fun x gid items => gid = player → Whole config player x → x.documents gid = some items) x := by
  by_cases whole : Whole config player x
  · have undivided : (system A R config).Reach (Undivided player) x := by
      cases whole with
      | inl one => exact one.reach reached
      | inr undivided => exact undivided
    refine (stored_reach undivided).mono ?_
    intro gid items stored isPlayer _
    exact (stored isPlayer).1
  · refine (reported_reach reached).mono ?_
    intro gid items _ _ isWhole
    exact absurd isWhole whole

/-! ## A run with one command -/

/-- The player has the same items in every generation that was in memory. -/
def SameItems (x y : Persisting A R) (gid : Gid) (ofCell : Nat → Prop) : Prop :=
  ∀ (c : Nat) cell, x.runtime.vault.cells[c]? = some cell → cell.gid = gid → ofCell c →
    ∃ cell', y.runtime.vault.cells[c]? = some cell' ∧ cell'.gid = gid ∧ cell'.state.items = cell.state.items

/-- The command was executed on the player `c`. -/
structure Ran (x y : Persisting A R) (gid : Gid) (execution : Execution PlayerState R) (c : Nat) : Prop where
  before : ∀ cell, x.runtime.vault.cells[c]? = some cell → cell.gid = gid →
    cell.state.items = execution.on.items
  after : ∃ cell', y.runtime.vault.cells[c]? = some cell' ∧ cell'.gid = gid
    ∧ cell'.state.items = (execution.logic execution.on).2.items
  others : SameItems x y gid (· ≠ c)

theorem SameItems.trans {z : Persisting A R} {gid : Gid} {ofCell : Nat → Prop} (first : SameItems x z gid ofCell)
    (second : SameItems z y gid (fun _ => True)) : SameItems x y gid ofCell := by
  intro c cell found isGid isOf
  obtain ⟨cell', there, isGid', items⟩ := first c cell found isGid isOf
  obtain ⟨cell'', there', isGid'', items'⟩ := second c cell' there isGid' trivial
  exact ⟨cell'', there', isGid'', items'.trans items⟩

/-- A step that executes no command of the player leaves its items alone. -/
theorem idle_items {l : Label A R} {gid : Gid} (taken : x.step config.toLogicConfig l = some y)
    (idle : y.runtime.vault.executions gid = x.runtime.vault.executions gid) :
    SameItems x y gid (fun _ => True) := by
  intro c cell found isGid _
  -- the state of the player is what it was
  have kept : ∀ cell' : PlayerCell PlayerState, y.runtime.vault.cells[c]? = some cell' → cell'.gid = cell.gid →
      cell'.state.items = cell.state.items → ∃ cell', y.runtime.vault.cells[c]? = some cell' ∧ cell'.gid = gid
        ∧ cell'.state.items = cell.state.items :=
    fun cell' there same items => ⟨cell', there, same.trans isGid, items⟩
  cases steps_of_step taken with
  | find | create | snapshot | write => exact kept cell found rfl rfl
  | advance unsaved _ advanced =>
    obtain ⟨cell', there, same, state | ⟨_, _, _, _, _, _, _, _, _, appended⟩ | ⟨_, _, _, isSaved⟩⟩ :=
      (Runtime.players_step (advance_runtime advanced).1).player found
    · exact kept cell' there same (by rw [state])
    · rw [isGid, idle] at appended
      simp at appended
    · rw [isSaved] at unsaved
      cases unsaved
  | @ended _ holder d other state _ z head isCell left advanced =>
    obtain ⟨cells, _⟩ := Runtime.saved_step (advance_runtime advanced).1 (acts_saved.mpr rfl) saved_saved head isCell
    have items : state.items = other.state.items := by
      obtain ⟨_, _, rfl, _⟩ | ⟨rfl, _⟩ := left
      · rfl
      · rfl
    by_cases same : d = c
    · subst same
      rw [found] at isCell
      obtain rfl := Option.some.inj isCell
      refine kept { cell with state := state } ?_ rfl items
      change z.runtime.vault.cells[d]? = _
      rw [cells]
      exact Pool.get_set_self _ found
    · refine kept cell ?_ rfl rfl
      change z.runtime.vault.cells[c]? = _
      rw [cells, Pool.get_set_ne _ same]
      exact found

/-- A step executes a command of the player, or leaves its items alone. -/
theorem items_step {l : Label A R} (taken : x.step config.toLogicConfig l = some y) (gid : Gid) :
    (y.runtime.vault.executions gid = x.runtime.vault.executions gid ∧ SameItems x y gid (fun _ => True))
    ∨ ∃ execution c cell, x.runtime.vault.cells[c]? = some cell ∧ cell.gid = gid ∧ cell.state = execution.on
      ∧ y.runtime.vault.executions gid = x.runtime.vault.executions gid ++ [execution]
      ∧ y.runtime.vault.cells = x.runtime.vault.cells.set c
        { cell with state := (execution.logic execution.on).2 } := by
  have idle : y.runtime.vault.executions gid = x.runtime.vault.executions gid →
      y.runtime.vault.executions gid = x.runtime.vault.executions gid ∧ SameItems x y gid (fun _ => True) :=
    fun same => ⟨same, idle_items taken same⟩
  obtain same | ⟨l, stepped⟩ := runtime_step taken
  · exact .inl (idle (by rw [same]))
  · cases Runtime.players_step stepped with
    | quiet _ executions | loaded _ _ _ _ executions | saved _ _ _ _ _ executions =>
      exact .inl (idle (by rw [executions]))
    | @executed _ _ _ _ _ envelope logic c cell here cells executions =>
      by_cases isGid : gid = cell.gid
      · subst isGid
        refine .inr ⟨⟨envelope.id, logic, cell.state⟩, c, cell, here.found, rfl, rfl, ?_, cells⟩
        rw [executions, Function.update_self]
      · exact .inl (idle (by rw [executions, Function.update_of_ne isGid]))

/-- After the command nothing has happened to the items. -/
theorem Ran.trans {z : Persisting A R} {gid : Gid} {execution : Execution PlayerState R} {c : Nat}
    (ran : Ran x z gid execution c) (same : SameItems z y gid (fun _ => True)) : Ran x y gid execution c := by
  obtain ⟨cell', there, isGid, items⟩ := ran.after
  obtain ⟨cell'', there', isGid', items'⟩ := same c cell' there isGid trivial
  exact ⟨ran.before, ⟨cell'', there', isGid', items'.trans items⟩, ran.others.trans same⟩

/-- The first command of a run. -/
theorem SameItems.ran {z : Persisting A R} {gid : Gid} {execution : Execution PlayerState R} {c : Nat}
    {cell : PlayerCell PlayerState} (same : SameItems x z gid (fun _ => True))
    (found : z.runtime.vault.cells[c]? = some cell) (isGid : cell.gid = gid) (on : cell.state = execution.on)
    (cells : y.runtime.vault.cells = z.runtime.vault.cells.set c
      { cell with state := (execution.logic execution.on).2 }) : Ran x y gid execution c where
  before := by
    intro first found' isGid'
    obtain ⟨cell', there, _, items⟩ := same c first found' isGid' trivial
    rw [found] at there
    obtain rfl := Option.some.inj there
    rw [← items, on]
  after := by
    refine ⟨{ cell with state := (execution.logic execution.on).2 }, ?_, isGid, rfl⟩
    rw [cells]
    exact Pool.get_set_self _ found
  others := by
    intro d other found' isGid' differ
    obtain ⟨other', there, isGid'', items⟩ := same d other found' isGid' trivial
    refine ⟨other', ?_, isGid'', items⟩
    rw [cells, Pool.get_set_ne _ differ.symm]
    exact there

/-- What a run does to the items of a player, when it executes at most one command. -/
theorem items_run {C : Persisting A R → Label A R → Prop} (run : (system A R config).Run C x y) (gid : Gid) :
    ∃ executions, y.runtime.vault.executions gid = x.runtime.vault.executions gid ++ executions
      ∧ (executions = [] → SameItems x y gid (fun _ => True))
      ∧ ∀ execution, executions = [execution] → ∃ c, Ran x y gid execution c := by
  induction run with
  | refl =>
    refine ⟨[], (List.append_nil _).symm, fun _ c cell found isGid _ => ⟨cell, found, isGid, rfl⟩, ?_⟩
    intro execution single
    cases single
  | step _ _ taken ih =>
    obtain ⟨executions, appended, none, one⟩ := ih
    obtain ⟨idle, same⟩ | ⟨execution, c, cell, found, isGid, on, last, cells⟩ := items_step taken gid
    · refine ⟨executions, idle.trans appended, fun isNil => (none isNil).trans same, ?_⟩
      intro execution single
      obtain ⟨c, ran⟩ := one execution single
      exact ⟨c, ran.trans same⟩
    · refine ⟨executions ++ [execution], by rw [last, appended, List.append_assoc], ?_, ?_⟩
      · intro isNil
        simp at isNil
      · intro other single
        obtain ⟨rfl, isLast⟩ := List.append_eq_singleton_iff.mp single |>.resolve_right (by simp)
        obtain rfl : execution = other := by simpa using isLast
        exact ⟨c, (none rfl).ran found isGid on cells⟩

theorem placed_reach {C : Persisting A R → Label A R → Prop} (reached : (system A R config).Reach C x) :
    x.runtime.Placed := by
  refine reached.inv (I := fun x => x.runtime.Placed) ?_ ?_
  · rintro x ⟨documents, rfl⟩ i r envelope stage told isRunner
    simp [initial, Runtime.initial] at isRunner
  · intro x l y placed _ taken
    obtain same | ⟨l, stepped⟩ := runtime_step taken
    · rw [same]
      exact placed
    · exact placed.step stepped

/-- A run in which no other command of the player is executed. -/
theorem alone_run {gid : Gid} {id : Nat} (reached : (system A R config).Reach System.Any x)
    (run : (system A R config).Run System.Any x y)
    (alone : ∀ execution ∈ (y.runtime.vault.executions gid).drop (x.runtime.vault.executions gid).length,
      execution.id = id) :
    (id ∉ y.runtime.executed gid → SameItems x y gid (fun _ => True))
    ∧ (id ∉ x.runtime.executed gid → ∀ execution ∈ y.runtime.vault.executions gid, execution.id = id →
      ∃ c, Ran x y gid execution c) := by
  obtain ⟨executions, appended, none, one⟩ := items_run run gid
  have nodup := (persisted_reach (reached.run run)).serving.executed_nodup gid
  simp only [Runtime.executed, appended, List.drop_left, List.map_append] at nodup alone ⊢
  have distinct := (List.nodup_append.mp nodup).2.1
  match executions with
  | [] =>
    refine ⟨fun _ => none rfl, ?_⟩
    intro unran execution member isId
    rw [List.append_nil] at member
    exact absurd (List.mem_map.mpr ⟨execution, member, isId⟩) unran
  | [first] =>
    have isFirst : first.id = id := alone first (List.mem_singleton_self _)
    refine ⟨fun unran => absurd ?_ unran, ?_⟩
    · simp [isFirst]
    · intro unran execution member isId
      cases List.mem_append.mp member with
      | inl before => exact absurd (List.mem_map.mpr ⟨execution, before, isId⟩) unran
      | inr new =>
        obtain rfl := List.mem_singleton.mp new
        exact one execution rfl
  | first :: second :: rest =>
    -- two executions would have one number
    have isFirst := alone first (by simp)
    have isSecond := alone second (by simp)
    simp [isFirst, isSecond] at distinct

end Persisting

end Xkk.Logic

import Xkk.Logic.Submission

/-! # Writes and cache residency

A runner keeps its player while the cache may evict it, and puts it back before
it removes its slot; `retire_or_take_next` ignores whether that has worked.  Every
executed command runs on the state that the earlier ones have left as long as a
dirty player is never dropped there (`Faithful`).

`content` is what a player is apart from its dirty flag: what a saver writes and
a loader reads.
-/

set_option linter.unusedSectionVars false

namespace Xkk.Logic

open Xkk.Lib

variable {P A R E : Type} [LogicState P]

/-! ## What the callbacks and the commands promise -/

variable {D : Type} (content : P → D)

/-- What a command writes depends on the content of the player only, and a player
    that it leaves clean is as it was. -/
structure Respects (logic : P → R × P) : Prop where
  writes : ∀ p q, content p = content q → content (logic p).2 = content (logic q).2
  clean : ∀ p, LogicState.isDirty (logic p).2 = false → LogicState.isDirty p = false ∧ content (logic p).2 = content p

/-- A saver leaves the content alone, and clears the dirty flag of a player only
    after it has written it. -/
structure Saves (before after : P) (wrote : Bool) : Prop where
  keeps : content after = content before
  clean : LogicState.isDirty after = false → wrote = true

/-- The state after a list of commands. -/
def replay (executions : List (Execution P R)) (p : P) : P :=
  executions.foldl (fun p execution => (execution.logic p).2) p

namespace Runtime

/-- A run that loses no write: the loader returns what is stored, commands and
    savers keep their promises, `set_i64` does not refuse a dirty player, and when
    the cache drops an entry that is dirty again its runner has not looked yet. -/
def Faithful (s : Runtime P A R E) : Label P A R E → Prop
  | .tryUse _ _ command => ∀ logic, command.Becomes logic → Respects content logic
  | .run i choice ok => ∀ r, s.runners[i]? = some r →
      (∀ state, choice = .fetched state → ∀ p ∈ s.vault.stored r.gid, content state.state = content p)
      ∧ (∀ state wrote result, choice = .saved state wrote result → ∀ c ∈ r.player, ∀ cell ∈ s.vault.cells[c]?,
          Saves content cell.state state wrote)
      ∧ (∀ c, r.phase = .inserting c → ∀ cell ∈ s.vault.cells[c]?, cell.dirty = true → ok = true)
  | .save k choice => ∀ saver c todo dirty, s.vault.savers[k]? = some saver →
      saver.phase = .saving (c :: todo) dirty → ∀ state wrote result, choice = .saved state wrote result →
        ∀ cell ∈ s.vault.cells[c]?, Saves content cell.state state wrote
  | .evicted _ gid => ∀ c ∈ s.vault.cache gid, ∀ cell ∈ s.vault.cells[c]?, cell.dirty = true →
      ∃ (i : Nat) (r : Runner P A R E), s.runners[i]? = some r ∧ r.player = some c ∧ r.phase.keeps = true
  | _ => True

/-! ## The invariant -/

variable {s t : Runtime P A R E}

/-- The cell is resident, or a runner of the player has it. -/
def Current (s : Runtime P A R E) (gid : Gid) (c : Nat) : Prop :=
  s.vault.cache gid = some c
  ∨ ∃ (i : Nat) (r : Runner P A R E), s.runners[i]? = some r ∧ r.gid = gid ∧ r.player = some c
    ∧ r.phase.owns = true

/-- The cell is resident, or a runner has it that will look before it goes. -/
def Keeps (s : Runtime P A R E) (gid : Gid) (c : Nat) : Prop :=
  s.vault.cache gid = some c
  ∨ ∃ (i : Nat) (r : Runner P A R E), s.runners[i]? = some r ∧ r.gid = gid ∧ r.player = some c
    ∧ r.phase.keeps = true

/-- The player has the writes of all commands that were executed. -/
def Caught (s : Runtime P A R E) (gid : Gid) (p : P) : Prop :=
  ∀ q, s.vault.first gid = some q → content p = content (replay (s.vault.executions gid) q)

structure Resident (s : Runtime P A R E) : Prop where
  history : ∀ gid (n : Nat) execution, (s.vault.executions gid)[n]? = some execution →
    ∃ p, s.vault.first gid = some p
      ∧ content execution.on = content (replay ((s.vault.executions gid).take n) p)
  loaded : ∀ (c : Nat) cell, s.vault.cells[c]? = some cell → (s.vault.first cell.gid).isSome = true
  unloaded : ∀ gid, s.vault.first gid = none → s.vault.executions gid = []
  stored : ∀ gid, (s.vault.first gid).isSome = true → (s.vault.stored gid).isSome = true
  current : ∀ (c : Nat) cell, s.vault.cells[c]? = some cell → s.Current cell.gid c →
    s.Caught content cell.gid cell.state
  dirty : ∀ (c : Nat) cell, s.vault.cells[c]? = some cell → cell.dirty = true → s.Keeps cell.gid c
  saved : ∀ gid p, s.vault.stored gid = some p →
    (∃ (c : Nat) (cell : PlayerCell P), s.vault.cells[c]? = some cell ∧ cell.gid = gid ∧ cell.dirty = true)
    ∨ s.Caught content gid p
  fetched : ∀ (i : Nat) r envelope state, s.runners[i]? = some r →
    r.phase = .serving envelope (.fetched state) → s.Caught content r.gid state.state

theorem Keeps.current {gid : Gid} {c : Nat} (keeps : s.Keeps gid c) : s.Current gid c := by
  cases keeps with
  | inl resident => exact .inl resident
  | inr held =>
    obtain ⟨i, r, isRunner, same, player, keeps⟩ := held
    exact .inr ⟨i, r, isRunner, same, player, RunnerPhase.owns_of_keeps keeps⟩

/-- There is one generation of a player. -/
theorem Served.current_unique {config : ValidConfig} (inv : Served config s) {gid : Gid} {c d : Nat}
    (first : s.Current gid c) (second : s.Current gid d) : c = d := by
  cases first with
  | inl resident =>
    cases second with
    | inl resident' =>
      rw [resident] at resident'
      exact Option.some.inj resident'
    | inr held =>
      obtain ⟨i, r, isRunner, rfl, player, owns⟩ := held
      exact inv.located.generation i r d c isRunner owns player resident
  | inr held =>
    obtain ⟨i, r, isRunner, rfl, player, owns⟩ := held
    cases second with
    | inl resident => exact (inv.located.generation i r c d isRunner owns player resident).symm
    | inr held' =>
      obtain ⟨j, r', isRunner', same, player', owns'⟩ := held'
      obtain ⟨rfl, rfl⟩ := inv.owned.runner_eq isRunner isRunner' owns owns' same.symm
      rw [player] at player'
      exact Option.some.inj player'

variable {content : P → D}

theorem Caught.congr {gid : Gid} {p : P} (caught : s.Caught content gid p)
    (first : t.vault.first gid = s.vault.first gid)
    (executions : t.vault.executions gid = s.vault.executions gid) : t.Caught content gid p := by
  intro q loaded
  rw [executions]
  exact caught q (first ▸ loaded)

/-- The players stay as they are; runners or cache entries may go. -/
theorem Resident.quiet (inv : Resident content s)
    (players : t.vault.cells.map PlayerCell.player = s.vault.cells.map PlayerCell.player)
    (first : t.vault.first = s.vault.first) (stored : t.vault.stored = s.vault.stored)
    (executions : t.vault.executions = s.vault.executions)
    (current : ∀ gid c, t.Current gid c → s.Current gid c)
    (keeps : ∀ (c : Nat) cell, s.vault.cells[c]? = some cell → cell.dirty = true → s.Keeps cell.gid c →
      t.Keeps cell.gid c)
    (fetched : ∀ (i : Nat) r envelope state, t.runners[i]? = some r →
      r.phase = .serving envelope (.fetched state) → s.Caught content r.gid state.state) :
    Resident content t := by
  have caught : ∀ {gid p}, s.Caught content gid p → t.Caught content gid p :=
    fun known => known.congr (congrFun first _) (congrFun executions _)
  have back : ∀ {c : Nat} {cell' : PlayerCell P}, t.vault.cells[c]? = some cell' →
      ∃ cell, s.vault.cells[c]? = some cell ∧ cell.gid = cell'.gid ∧ cell.state = cell'.state := by
    intro c cell' there
    have same := congrArg (·[c]?) players
    simp only [List.getElem?_map, there, Option.map_some] at same
    obtain ⟨cell, found, player⟩ := Option.map_eq_some_iff.mp same.symm
    simp only [PlayerCell.player, Prod.mk.injEq] at player
    exact ⟨cell, found, player.1, player.2⟩
  refine ⟨?_, ?_, ?_, ?_, ?_, ?_, ?_, ?_⟩
  · rw [executions, first]
    exact inv.history
  · intro c cell' there
    obtain ⟨cell, found, gid, _⟩ := back there
    rw [first, ← gid]
    exact inv.loaded c cell found
  · rw [executions, first]
    exact inv.unloaded
  · rw [first, stored]
    exact inv.stored
  · intro c cell' there isCurrent
    obtain ⟨cell, found, gid, state⟩ := back there
    rw [← gid] at isCurrent ⊢
    rw [← state]
    exact caught (inv.current c cell found (current _ _ isCurrent))
  · intro c cell' there isDirty
    obtain ⟨cell, found, gid, state⟩ := back there
    rw [PlayerCell.dirty, ← state] at isDirty
    rw [← gid]
    exact keeps c cell found isDirty (inv.dirty c cell found isDirty)
  · intro gid p isStored
    rw [stored] at isStored
    obtain ⟨c, cell, found, same, isDirty⟩ | known := inv.saved gid p isStored
    · have there := congrArg (·[c]?) players
      simp only [List.getElem?_map, found, Option.map_some] at there
      obtain ⟨cell', there, player⟩ := Option.map_eq_some_iff.mp there
      simp only [PlayerCell.player, Prod.mk.injEq] at player
      refine .inl ⟨c, cell', there, player.1.trans same, ?_⟩
      rw [PlayerCell.dirty, player.2]
      exact isDirty
    · exact .inr (caught known)
  · intro i r envelope state isRunner isFetched
    exact caught (fetched i r envelope state isRunner isFetched)

section Runner

variable {i : Nat} {r r' : Runner P A R E}

theorem Current.of_set (runners : t.runners = s.runners.set i r')
    (cache : t.vault.cache = s.vault.cache)
    (own : ∀ c, r'.player = some c → r'.phase.owns = true → s.Current r'.gid c) (gid : Gid) (c : Nat)
    (isCurrent : t.Current gid c) : s.Current gid c := by
  cases isCurrent with
  | inl resident => exact .inl (cache ▸ resident)
  | inr held =>
    obtain ⟨j, other, there, same, player, owns⟩ := held
    rw [runners] at there
    cases Pool.get_set_cases there with
    | inl itself =>
      rw [itself.2] at same player owns
      rw [← same]
      exact own c player owns
    | inr apart => exact .inr ⟨j, other, apart.2, same, player, owns⟩

theorem Keeps.set {gid : Gid} {c : Nat} (isKept : s.Keeps gid c) (isRunner : s.runners[i]? = some r)
    (runners : t.runners = s.runners.set i r') (cache : t.vault.cache = s.vault.cache) (same : r'.gid = r.gid)
    (own : r.gid = gid → r.player = some c → r.phase.keeps = true →
      (r'.player = some c ∧ r'.phase.keeps = true) ∨ s.vault.cache gid = some c) : t.Keeps gid c := by
  cases isKept with
  | inl resident => exact .inl (cache ▸ resident)
  | inr held =>
    obtain ⟨j, other, there, isGid, player, keeps⟩ := held
    by_cases itself : i = j
    · subst itself
      rw [isRunner] at there
      obtain rfl := Option.some.inj there
      cases own isGid player keeps with
      | inl stays =>
        refine .inr ⟨i, r', ?_, same.trans isGid, stays.1, stays.2⟩
        rw [runners]
        exact Pool.get_set_self _ isRunner
      | inr resident => exact .inl (cache ▸ resident)
    · refine .inr ⟨j, other, ?_, isGid, player, keeps⟩
      rw [runners, Pool.get_set_ne _ itself]
      exact there

theorem Resident.fetched_set (inv : Resident content s) (runners : t.runners = s.runners.set i r')
    (own : ∀ envelope state, r'.phase = .serving envelope (.fetched state) →
      s.Caught content r'.gid state.state) (j : Nat) (other : Runner P A R E) (envelope : Envelope P A R)
    (state : Clean P) (there : t.runners[j]? = some other)
    (isFetched : other.phase = .serving envelope (.fetched state)) :
    s.Caught content other.gid state.state := by
  rw [runners] at there
  cases Pool.get_set_cases there with
  | inl itself =>
    rw [itself.2] at isFetched ⊢
    exact own envelope state isFetched
  | inr apart => exact inv.fetched j other envelope state apart.2 isFetched

/-- The runner `i` moves on and the players stay as they are. -/
theorem Resident.pass (inv : Resident content s) (isRunner : s.runners[i]? = some r)
    (runners : t.runners = s.runners.set i r') (vault : Vault.Quiet s.vault t.vault) (same : r'.gid = r.gid)
    (owns : ∀ c, r'.player = some c → r'.phase.owns = true → s.Current r'.gid c)
    (keeps : ∀ c, r.player = some c → r.phase.keeps = true →
      (r'.player = some c ∧ r'.phase.keeps = true) ∨ s.vault.cache r.gid = some c)
    (fetched : ∀ envelope state, r'.phase = .serving envelope (.fetched state) →
      s.Caught content r'.gid state.state) : Resident content t := by
  refine inv.quiet vault.players vault.first vault.stored vault.executions
    (Current.of_set runners vault.cache owns) ?_ (inv.fetched_set runners fetched)
  intro c cell found isDirty isKept
  refine isKept.set isRunner runners vault.cache same ?_
  intro isGid player isKeeping
  rw [← isGid]
  exact keeps c player isKeeping

/-- A player is saved, or a saver has tried. -/
theorem Resident.save (inv : Resident content s) {c : Nat} {cell : PlayerCell P} {state : P}
    {wrote : Bool} (found : s.vault.cells[c]? = some cell)
    (isDirty : cell.dirty = true) (saves : Saves content cell.state state wrote)
    (cells : t.vault.cells = s.vault.cells.set c { cell with state := state })
    (first : t.vault.first = s.vault.first) (executions : t.vault.executions = s.vault.executions)
    (stored : t.vault.stored = (s.vault.write cell.gid cell.state wrote).stored)
    (current : ∀ gid c, t.Current gid c → s.Current gid c)
    (keeps : ∀ gid c, s.Keeps gid c → t.Keeps gid c)
    (fetched : ∀ (i : Nat) r envelope state, t.runners[i]? = some r →
      r.phase = .serving envelope (.fetched state) → s.Caught content r.gid state.state) :
    Resident content t := by
  have caught : ∀ {gid p}, s.Caught content gid p → t.Caught content gid p :=
    fun known => known.congr (congrFun first _) (congrFun executions _)
  have kept := inv.dirty c cell found isDirty
  have known := inv.current c cell found kept.current
  have there : t.vault.cells[c]? = some { cell with state := state } := by
    rw [cells]
    exact Pool.get_set_self _ found
  refine ⟨?_, ?_, ?_, ?_, ?_, ?_, ?_, ?_⟩
  · rw [executions, first]
    exact inv.history
  · intro d other isOther
    rw [cells] at isOther
    rw [first]
    cases Pool.get_set_cases isOther with
    | inl itself =>
      rw [itself.2]
      exact inv.loaded c cell found
    | inr apart => exact inv.loaded d other apart.2
  · rw [executions, first]
    exact inv.unloaded
  · intro gid isLoaded
    rw [first] at isLoaded
    rw [stored]
    by_cases same : gid = cell.gid
    · subst same
      cases wrote with
      | true => simp [Vault.write]
      | false => exact inv.stored cell.gid isLoaded
    · rw [s.vault.write_stored_ne _ _ same]
      exact inv.stored gid isLoaded
  · intro d other isOther isCurrent
    rw [cells] at isOther
    cases Pool.get_set_cases isOther with
    | inl itself =>
      rw [itself.2]
      refine caught ?_
      intro q isFirst
      rw [saves.keeps]
      exact known q isFirst
    | inr apart => exact caught (inv.current d other apart.2 (current _ _ isCurrent))
  · intro d other isOther stillDirty
    rw [cells] at isOther
    cases Pool.get_set_cases isOther with
    | inl itself =>
      obtain ⟨rfl, rfl⟩ := itself
      exact keeps _ _ kept
    | inr apart => exact keeps _ _ (inv.dirty d other apart.2 stillDirty)
  · intro gid p isStored
    rw [stored] at isStored
    by_cases same : gid = cell.gid
    · subst same
      cases wrote with
      | true =>
        simp only [Vault.write, if_true, Function.update_self, Option.some.injEq] at isStored
        subst isStored
        exact .inr (caught known)
      | false =>
        refine .inl ⟨c, { cell with state := state }, there, rfl, ?_⟩
        cases stillDirty : LogicState.isDirty state with
        | true => exact stillDirty
        | false => cases saves.clean stillDirty
    · rw [s.vault.write_stored_ne _ _ same] at isStored
      obtain ⟨d, other, isOther, isGid, dirty⟩ | known := inv.saved gid p isStored
      · refine .inl ⟨d, other, ?_, isGid, dirty⟩
        rw [cells, Pool.get_set_ne]
        · exact isOther
        · intro equal
          subst equal
          rw [found] at isOther
          obtain rfl := Option.some.inj isOther
          exact same isGid.symm
      · exact .inr (caught known)
  · intro i r envelope state isRunner isFetched
    exact caught (fetched i r envelope state isRunner isFetched)

theorem replay_append (executions : List (Execution P R)) (execution : Execution P R) (p : P) :
    replay (executions ++ [execution]) p = (execution.logic (replay executions p)).2 := by
  simp [replay]

/-- The runner executes its command. -/
theorem Resident.execute {config : ValidConfig} (inv : Resident content s) (served : Served config s)
    {c id : Nat} {cell : PlayerCell P} {logic : P → R × P} (respects : Respects content logic)
    (isRunner : s.runners[i]? = some r) (owns : r.phase.owns = true) (isPlayer : r.player = some c)
    (found : s.vault.cells[c]? = some cell) (isGid : cell.gid = r.gid)
    (runners : t.runners = s.runners.set i r') (same : r'.gid = r.gid) (player : r'.player = some c)
    (keeps : r'.phase.keeps = true) (fetched : ∀ envelope state, r'.phase ≠ .serving envelope (.fetched state))
    (cells : t.vault.cells = s.vault.cells.set c { cell with state := (logic cell.state).2 })
    (cache : t.vault.cache = s.vault.cache) (first : t.vault.first = s.vault.first)
    (stored : t.vault.stored = s.vault.stored)
    (executions : t.vault.executions = Function.update s.vault.executions cell.gid
      (s.vault.executions cell.gid ++ [⟨id, logic, cell.state⟩])) : Resident content t := by
  have isCurrent : s.Current cell.gid c := .inr ⟨i, r, isRunner, isGid.symm, isPlayer, owns⟩
  have known := inv.current c cell found isCurrent
  obtain ⟨p, isFirst⟩ := Option.isSome_iff_exists.mp (inv.loaded c cell found)
  have own : t.vault.executions cell.gid = s.vault.executions cell.gid ++ [⟨id, logic, cell.state⟩] := by
    rw [executions, Function.update_self]
  have others : ∀ {gid}, gid ≠ cell.gid → t.vault.executions gid = s.vault.executions gid := by
    intro gid differ
    rw [executions, Function.update_of_ne differ]
  have written : t.Caught content cell.gid (logic cell.state).2 := by
    intro q loaded
    rw [first] at loaded
    rw [own, replay_append]
    exact respects.writes _ _ (known q loaded)
  have caught : ∀ {gid p}, gid ≠ cell.gid → s.Caught content gid p → t.Caught content gid p :=
    fun differ before => before.congr (congrFun first _) (others differ)
  have current := Current.of_set runners cache
    (fun d isD _ => by
      rw [player] at isD
      obtain rfl := Option.some.inj isD
      rw [same, ← isGid]
      exact isCurrent)
  have there : t.vault.cells[c]? = some { cell with state := (logic cell.state).2 } := by
    rw [cells]
    exact Pool.get_set_self _ found
  refine ⟨?_, ?_, ?_, ?_, ?_, ?_, ?_, ?_⟩
  · intro gid n execution isExecution
    rw [first]
    by_cases equal : gid = cell.gid
    · subst equal
      rw [own] at isExecution ⊢
      cases Pool.get_append_cases isExecution with
      | inl new =>
        refine ⟨p, isFirst, ?_⟩
        rw [new.1, new.2, List.take_left]
        exact known p isFirst
      | inr before =>
        rw [List.take_append_of_le_length (Nat.le_of_lt before.1)]
        exact inv.history _ n execution before.2
    · rw [others equal] at isExecution ⊢
      exact inv.history gid n execution isExecution
  · intro d other isOther
    rw [cells] at isOther
    rw [first]
    cases Pool.get_set_cases isOther with
    | inl itself =>
      rw [itself.2]
      exact inv.loaded c cell found
    | inr apart => exact inv.loaded d other apart.2
  · intro gid none
    rw [first] at none
    rw [others]
    · exact inv.unloaded gid none
    · intro equal
      rw [equal, isFirst] at none
      cases none
  · rw [first, stored]
    exact inv.stored
  · intro d other isOther otherCurrent
    rw [cells] at isOther
    cases Pool.get_set_cases isOther with
    | inl itself =>
      rw [itself.2]
      exact written
    | inr apart =>
      have before := current _ _ otherCurrent
      refine caught ?_ (inv.current d other apart.2 before)
      intro equal
      rw [equal] at before
      exact apart.1 (served.current_unique isCurrent before)
  · intro d other isOther isDirty
    rw [cells] at isOther
    cases Pool.get_set_cases isOther with
    | inl itself =>
      obtain ⟨rfl, rfl⟩ := itself
      refine .inr ⟨i, r', ?_, same.trans isGid.symm, player, keeps⟩
      rw [runners]
      exact Pool.get_set_self _ isRunner
    | inr apart =>
      refine (inv.dirty d other apart.2 isDirty).set isRunner runners cache same ?_
      intro _ isD _
      rw [isPlayer] at isD
      exact absurd (Option.some.inj isD) apart.1
  · intro gid q isStored
    rw [stored] at isStored
    by_cases equal : gid = cell.gid
    · subst equal
      cases isDirty : LogicState.isDirty (logic cell.state).2 with
      | true => exact .inl ⟨c, _, there, rfl, isDirty⟩
      | false =>
        -- a command that leaves its player clean has not written
        obtain ⟨wasClean, unchanged⟩ := respects.clean cell.state isDirty
        obtain ⟨d, other, isOther, sameGid, dirty⟩ | before := inv.saved _ q isStored
        · have kept := inv.dirty d other isOther dirty
          rw [sameGid] at kept
          obtain rfl := served.current_unique isCurrent kept.current
          rw [found] at isOther
          obtain rfl := Option.some.inj isOther
          rw [PlayerCell.dirty, wasClean] at dirty
          cases dirty
        · refine .inr ?_
          intro q' loaded
          have before := before q' (first ▸ loaded)
          rw [← written q' loaded, unchanged, before]
          exact (known q' (first ▸ loaded)).symm
    · obtain ⟨d, other, isOther, sameGid, dirty⟩ | before := inv.saved gid q isStored
      · refine .inl ⟨d, other, ?_, sameGid, dirty⟩
        rw [cells, Pool.get_set_ne]
        · exact isOther
        · intro sameCell
          subst sameCell
          rw [found] at isOther
          obtain rfl := Option.some.inj isOther
          exact equal sameGid.symm
      · exact .inr (caught equal before)
  · intro j other envelope state isOther isFetched
    rw [runners] at isOther
    cases Pool.get_set_cases isOther with
    | inl itself =>
      rw [itself.2] at isFetched
      exact absurd isFetched (fetched envelope state)
    | inr apart =>
      refine caught ?_ (inv.fetched j other envelope state apart.2 isFetched)
      intro equal
      have otherOwns : other.phase.owns = true := by rw [isFetched]; rfl
      exact apart.1 (served.owned.runner_unique isRunner apart.2 owns otherOwns (isGid.symm.trans equal.symm))

/-- The loader has returned and the player becomes resident. -/
theorem Resident.insertLoaded {config : ValidConfig} (inv : Resident content s) (served : Served config s)
    {state : Clean P} {envelope : Envelope P A R} (isRunner : s.runners[i]? = some r)
    (isFetched : r.phase = .serving envelope (.fetched state)) (noPlayer : r.player = none)
    (runners : t.runners = s.runners.set i r') (same : r'.gid = r.gid)
    (player : r'.player = some s.vault.cells.length)
    (fetched : ∀ envelope state, r'.phase ≠ .serving envelope (.fetched state))
    (vault : t.vault = s.vault.insertLoaded r.gid state) : Resident content t := by
  have owns : r.phase.owns = true := by rw [isFetched]; rfl
  have absent := served.located.fetched i r envelope state isRunner isFetched
  have known := inv.fetched i r envelope state isRunner isFetched
  -- nobody else has the player
  have vacant : ∀ c, ¬ s.Current r.gid c := by
    intro c isCurrent
    cases isCurrent with
    | inl resident =>
      rw [absent] at resident
      cases resident
    | inr held =>
      obtain ⟨j, other, there, isGid, isPlayer, otherOwns⟩ := held
      obtain ⟨rfl, rfl⟩ := served.owned.runner_eq isRunner there owns otherOwns isGid.symm
      rw [noPlayer] at isPlayer
      cases isPlayer
  have cells : t.vault.cells = s.vault.cells ++ [⟨r.gid, state.state, none, false⟩] := by rw [vault]; rfl
  have cache : t.vault.cache = Function.update s.vault.cache r.gid (some s.vault.cells.length) := by rw [vault]; rfl
  have executions : t.vault.executions = s.vault.executions := by rw [vault]; rfl
  have others : ∀ {gid}, gid ≠ r.gid → t.vault.first gid = s.vault.first gid
      ∧ t.vault.stored gid = s.vault.stored gid := by
    intro gid differ
    simp only [vault, Vault.insertLoaded]
    split <;> simp [differ]
  have own : (s.vault.first r.gid = none ∧ t.vault.first r.gid = some state.state
        ∧ t.vault.stored r.gid = some state.state)
      ∨ (t.vault.first r.gid = s.vault.first r.gid ∧ t.vault.stored r.gid = s.vault.stored r.gid
        ∧ (s.vault.first r.gid).isSome = true) := by
    simp only [vault, Vault.insertLoaded]
    cases isFirst : s.vault.first r.gid with
    | none => exact .inl (by simp)
    | some p => exact .inr (by simp [isFirst])
  have written : t.Caught content r.gid state.state := by
    intro q isFirst
    rw [executions]
    obtain ⟨none, new, _⟩ | ⟨unchanged, _, _⟩ := own
    · rw [new] at isFirst
      obtain rfl := Option.some.inj isFirst
      rw [inv.unloaded r.gid none]
      rfl
    · exact known q (unchanged ▸ isFirst)
  have caught : ∀ {gid p}, gid ≠ r.gid → s.Caught content gid p → t.Caught content gid p :=
    fun differ before => before.congr (others differ).1 (congrFun executions _)
  have loaded : ∀ {gid}, (s.vault.first gid).isSome = true → t.vault.first gid = s.vault.first gid := by
    intro gid isLoaded
    by_cases equal : gid = r.gid
    · subst equal
      obtain ⟨none, _, _⟩ | ⟨unchanged, _, _⟩ := own
      · rw [none] at isLoaded
        cases isLoaded
      · exact unchanged
    · exact (others equal).1
  refine ⟨?_, ?_, ?_, ?_, ?_, ?_, ?_, ?_⟩
  · intro gid n execution isExecution
    rw [executions] at isExecution ⊢
    obtain ⟨p, isFirst, ran⟩ := inv.history gid n execution isExecution
    refine ⟨p, ?_, ran⟩
    rw [loaded (by rw [isFirst]; rfl)]
    exact isFirst
  · intro c cell there
    rw [cells] at there
    cases Pool.get_append_cases there with
    | inl new =>
      rw [new.2]
      obtain ⟨_, isFirst, _⟩ | ⟨unchanged, _, isLoaded⟩ := own
      · rw [isFirst]
        rfl
      · rw [unchanged]
        exact isLoaded
    | inr before =>
      have isLoaded := inv.loaded c cell before.2
      rw [loaded isLoaded]
      exact isLoaded
  · intro gid none
    rw [executions]
    cases isLoaded : s.vault.first gid with
    | none => exact inv.unloaded gid isLoaded
    | some p =>
      rw [loaded (by rw [isLoaded]; rfl), isLoaded] at none
      cases none
  · intro gid isLoaded
    by_cases equal : gid = r.gid
    · subst equal
      obtain ⟨_, _, isStored⟩ | ⟨_, isStored, wasLoaded⟩ := own
      · rw [isStored]
        rfl
      · rw [isStored]
        exact inv.stored _ wasLoaded
    · rw [(others equal).1] at isLoaded
      rw [(others equal).2]
      exact inv.stored gid isLoaded
  · intro c cell there isCurrent
    rw [cells] at there
    cases Pool.get_append_cases there with
    | inl new =>
      rw [new.2]
      exact written
    | inr before =>
      have differ : cell.gid ≠ r.gid := by
        intro equal
        rw [equal] at isCurrent
        cases isCurrent with
        | inl resident =>
          rw [cache, Function.update_self] at resident
          have isLast := Option.some.inj resident
          omega
        | inr held =>
          obtain ⟨j, other, isOther, isGid, isPlayer, otherOwns⟩ := held
          rw [runners] at isOther
          cases Pool.get_set_cases isOther with
          | inl itself =>
            rw [itself.2, player] at isPlayer
            have isLast := Option.some.inj isPlayer
            omega
          | inr apart => exact vacant c (.inr ⟨j, other, apart.2, isGid, isPlayer, otherOwns⟩)
      refine caught differ (inv.current c cell before.2 ?_)
      cases isCurrent with
      | inl resident =>
        rw [cache, Function.update_of_ne differ] at resident
        exact .inl resident
      | inr held =>
        obtain ⟨j, other, isOther, isGid, isPlayer, otherOwns⟩ := held
        rw [runners] at isOther
        cases Pool.get_set_cases isOther with
        | inl itself =>
          rw [itself.2, same] at isGid
          exact absurd isGid.symm differ
        | inr apart => exact .inr ⟨j, other, apart.2, isGid, isPlayer, otherOwns⟩
  · intro c cell there isDirty
    rw [cells] at there
    cases Pool.get_append_cases there with
    | inl new =>
      rw [new.2, PlayerCell.dirty, state.clean] at isDirty
      cases isDirty
    | inr before =>
      have kept := inv.dirty c cell before.2 isDirty
      have differ : cell.gid ≠ r.gid := by
        intro equal
        rw [equal] at kept
        exact vacant c kept.current
      cases kept with
      | inl resident =>
        refine .inl ?_
        rw [cache, Function.update_of_ne differ]
        exact resident
      | inr held =>
        obtain ⟨j, other, isOther, isGid, isPlayer, keeps⟩ := held
        refine .inr ⟨j, other, ?_, isGid, isPlayer, keeps⟩
        rw [runners, Pool.get_set_ne]
        · exact isOther
        · intro itself
          subst itself
          rw [isRunner] at isOther
          obtain rfl := Option.some.inj isOther
          exact differ isGid.symm
  · intro gid p isStored
    by_cases equal : gid = r.gid
    · subst equal
      obtain ⟨_, _, new⟩ | ⟨unchanged, before, _⟩ := own
      · rw [new] at isStored
        obtain rfl := Option.some.inj isStored
        exact .inr written
      · rw [before] at isStored
        obtain ⟨d, other, isOther, isGid, dirty⟩ | known := inv.saved _ p isStored
        · refine .inl ⟨d, other, ?_, isGid, dirty⟩
          rw [cells]
          exact Pool.get_append_of_some _ isOther
        · exact .inr (known.congr unchanged (congrFun executions _))
    · rw [(others equal).2] at isStored
      obtain ⟨d, other, isOther, isGid, dirty⟩ | known := inv.saved gid p isStored
      · refine .inl ⟨d, other, ?_, isGid, dirty⟩
        rw [cells]
        exact Pool.get_append_of_some _ isOther
      · exact .inr (caught equal known)
  · intro j other envelope' state' isOther isFetched'
    rw [runners] at isOther
    cases Pool.get_set_cases isOther with
    | inl itself =>
      rw [itself.2] at isFetched'
      exact absurd isFetched' (fetched envelope' state')
    | inr apart =>
      refine caught ?_ (inv.fetched j other envelope' state' apart.2 isFetched')
      intro equal
      have otherOwns : other.phase.owns = true := by rw [isFetched']; rfl
      exact apart.1 (served.owned.runner_unique isRunner apart.2 owns otherOwns equal.symm)

end Runner

/-- The cache drops an entry. -/
theorem Resident.evict (inv : Resident content s) {gid : Gid}
    (runners : t.runners = s.runners)
    (vault : t.vault = { s.vault with cache := Function.update s.vault.cache gid none })
    (kept : ∀ (c : Nat) cell, s.vault.cache gid = some c → s.vault.cells[c]? = some cell → cell.dirty = true →
      ∃ (i : Nat) (r : Runner P A R E), s.runners[i]? = some r ∧ r.gid = gid ∧ r.player = some c
        ∧ r.phase.keeps = true) : Resident content t := by
  have cache : t.vault.cache = Function.update s.vault.cache gid none := by rw [vault]
  refine inv.quiet (by rw [vault]) (by rw [vault]) (by rw [vault]) (by rw [vault]) ?_ ?_ ?_
  · intro gid' c isCurrent
    cases isCurrent with
    | inl resident =>
      rw [cache] at resident
      by_cases same : gid' = gid
      · rw [same, Function.update_self] at resident
        cases resident
      · rw [Function.update_of_ne same] at resident
        exact .inl resident
    | inr held =>
      rw [runners] at held
      exact .inr held
  · intro c cell found isDirty isKept
    cases isKept with
    | inl resident =>
      by_cases same : cell.gid = gid
      · rw [same] at resident
        have held := kept c cell resident found isDirty
        rw [← runners, ← same] at held
        exact .inr held
      · refine .inl ?_
        rw [cache, Function.update_of_ne same]
        exact resident
    | inr held =>
      rw [← runners] at held
      exact .inr held
  · rw [runners]
    exact inv.fetched

/-- The runner has put its player back, or it was refused. -/
theorem Resident.insert {config : ValidConfig} (inv : Resident content s) (served : Served config s) {i c : Nat}
    {r : Runner P A R E} {ok : Bool} (isRunner : s.runners[i]? = some r) (inserting : r.phase = .inserting c)
    (runners : t.runners = s.runners.set i { r with phase := .checking })
    (vault : t.vault = s.vault.setResident r.gid c ok)
    (accepted : ∀ cell, s.vault.cells[c]? = some cell → cell.dirty = true → ok = true) : Resident content t := by
  have isPlayer := served.located.inserting i r c isRunner inserting
  have owns : r.phase.owns = true := by rw [inserting]; rfl
  have own : s.Current r.gid c := .inr ⟨i, r, isRunner, rfl, isPlayer, owns⟩
  have cache : ∀ gid d, t.vault.cache gid = some d → s.Current gid d := by
    intro gid d resident
    rw [vault] at resident
    unfold Vault.setResident at resident
    split at resident
    · by_cases same : gid = r.gid
      · subst same
        simp only [Function.update_self, Option.some.injEq] at resident
        rw [← resident]
        exact own
      · simp only [Function.update_of_ne same] at resident
        exact .inl resident
    · exact .inl resident
  have rest : t.vault.cells = s.vault.cells ∧ t.vault.first = s.vault.first ∧ t.vault.stored = s.vault.stored
      ∧ t.vault.executions = s.vault.executions := by
    rw [vault]
    unfold Vault.setResident
    split <;> exact ⟨rfl, rfl, rfl, rfl⟩
  refine inv.quiet (by rw [rest.1]) rest.2.1 rest.2.2.1 rest.2.2.2 ?_ ?_ ?_
  · intro gid d isCurrent
    cases isCurrent with
    | inl resident => exact cache gid d resident
    | inr held =>
      obtain ⟨j, other, there, same, player, otherOwns⟩ := held
      rw [runners] at there
      cases Pool.get_set_cases there with
      | inl itself =>
        rw [itself.2] at same player
        exact .inr ⟨i, r, isRunner, same, player, owns⟩
      | inr apart => exact .inr ⟨j, other, apart.2, same, player, otherOwns⟩
  · intro d cell found isDirty isKept
    -- the player of the runner is resident now
    have inserted : cell.gid = r.gid → d = c → t.Keeps cell.gid d := by
      intro same equal
      subst equal
      refine .inl ?_
      rw [vault, accepted cell found isDirty, same]
      simp [Vault.setResident]
    by_cases same : cell.gid = r.gid
    · have isCurrent := isKept.current
      rw [same] at isCurrent
      exact inserted same (served.current_unique isCurrent own)
    · cases isKept with
      | inl resident =>
        refine .inl ?_
        rw [vault]
        unfold Vault.setResident
        split
        · simp only [Function.update_of_ne same]
          exact resident
        · exact resident
      | inr held =>
        obtain ⟨j, other, there, isGid, player, keeps⟩ := held
        refine .inr ⟨j, other, ?_, isGid, player, keeps⟩
        rw [runners, Pool.get_set_ne]
        · exact there
        · intro itself
          subst itself
          rw [isRunner] at there
          obtain rfl := Option.some.inj there
          exact same isGid.symm
  · exact inv.fetched_set runners (by simp)

/-- All that holds in a run that loses no write. -/
structure Residing (config : ValidConfig) (content : P → D) (s : Runtime P A R E) : Prop where
  serving : Serving config s
  submitted : Submitted s
  ordered : s.vault.Ordered
  promised : ∀ command ∈ s.commands, ∀ logic, command.Becomes logic → Respects content logic
  resident : Resident content s

theorem Moves.promised {config : LogicConfig} {l : Label P A R E} (moves : Moves config s l t)
    (before : ∀ command ∈ s.commands, ∀ logic, command.Becomes logic → Respects content logic)
    (allowed : Faithful content s l) :
    ∀ command ∈ t.commands, ∀ logic, command.Becomes logic → Respects content logic := by
  unfold Runtime.commands at before ⊢
  cases moves with
  | submit commands =>
    rw [commands]
    intro command member
    rw [List.mem_append, List.mem_singleton] at member
    cases member with
    | inl old => exact before command old
    | inr new =>
      rw [new]
      exact allowed
  | rest commands | spawn commands =>
    rw [commands]
    exact before
  | pass _ same | serve _ _ _ same | insert _ _ same | quiet same | save _ _ same | evict _ _ _ same
  | evicted _ same =>
    rw [same]
    exact before

theorem Resident.frame (inv : Resident content s) (runners : t.runners = s.runners)
    (vault : Vault.Quiet s.vault t.vault) : Resident content t := by
  have same : ∀ gid c, t.Current gid c ↔ s.Current gid c := by
    intro gid c
    simp only [Runtime.Current, runners, vault.cache]
  have kept : ∀ gid c, t.Keeps gid c ↔ s.Keeps gid c := by
    intro gid c
    simp only [Runtime.Keeps, runners, vault.cache]
  refine inv.quiet vault.players vault.first vault.stored vault.executions (fun gid c => (same gid c).mp)
    (fun c cell _ _ keeps => (kept _ _).mpr keeps) ?_
  rw [runners]
  exact inv.fetched

theorem Resident.spawn (inv : Resident content s) {r : Runner P A R E} (noPlayer : r.player = none)
    (taking : r.phase = .taking) (runners : t.runners = s.runners ++ [r]) (vault : t.vault = s.vault) :
    Resident content t := by
  refine inv.quiet (by rw [vault]) (by rw [vault]) (by rw [vault]) (by rw [vault]) ?_ ?_ ?_
  · intro gid c isCurrent
    unfold Runtime.Current at isCurrent
    rw [vault, runners] at isCurrent
    cases isCurrent with
    | inl resident => exact .inl resident
    | inr held =>
      obtain ⟨j, other, there, same, player, owns⟩ := held
      cases Pool.get_append_cases there with
      | inl new =>
        rw [new.2, noPlayer] at player
        cases player
      | inr before => exact .inr ⟨j, other, before.2, same, player, owns⟩
  · intro c cell _ _ isKept
    unfold Runtime.Keeps
    rw [vault, runners]
    cases isKept with
    | inl resident => exact .inl resident
    | inr held =>
      obtain ⟨j, other, there, same, player, keeps⟩ := held
      exact .inr ⟨j, other, Pool.get_append_of_some _ there, same, player, keeps⟩
  · intro j other envelope state there isFetched
    rw [runners] at there
    cases Pool.get_append_cases there with
    | inl new =>
      rw [new.2, taking] at isFetched
      cases isFetched
    | inr before => exact inv.fetched j other envelope state before.2 isFetched

theorem Located.cell_gid (located : Located s) {i c : Nat} {r : Runner P A R E} {cell : PlayerCell P}
    (isRunner : s.runners[i]? = some r) (isPlayer : r.player = some c) (found : s.vault.cells[c]? = some cell) :
    cell.gid = r.gid := by
  have gid := located.player i r c isRunner isPlayer
  simp only [Vault.gids, List.getElem?_map, found, Option.map_some, Option.some.injEq] at gid
  exact gid

theorem Residing.serve {config : ValidConfig} (inv : Residing config content s) {i : Nat} {choice : Choice P A E}
    {ok : Bool} {r : Runner P A R E} {envelope : Envelope P A R} {stage stage' : Stage P A R E}
    {player : Option Nat} (allowed : Faithful content s (.run i choice ok)) (isRunner : s.runners[i]? = some r)
    (serving : r.phase = .serving envelope stage)
    (taken : s.vault.serve config.maxDirtyPlayers.toNat i r.gid envelope r.player stage choice
      = some (t.vault, player, stage'))
    (runners : t.runners = s.runners.set i { r with player := player, phase := .serving envelope stage' }) :
    Resident content t := by
  have served := inv.serving.served
  have resident := inv.resident
  have owns : r.phase.owns = true := by rw [serving]; rfl
  obtain ⟨c, cell, isPlayer, rfl, found, moved⟩ | ⟨noPlayer, rfl, vault, loaded⟩
    | ⟨state, noPlayer, rfl, vault, rfl, rfl⟩ := Vault.serve_cases taken
  · have isGid := served.located.cell_gid isRunner isPlayer found
    have isCurrent : s.Current r.gid c := .inr ⟨i, r, isRunner, rfl, isPlayer, owns⟩
    obtain ⟨advances, cases⟩ := Vault.serveCell_cases found moved
    have noFetch : ∀ envelope' state, (RunnerPhase.serving envelope stage' : RunnerPhase P A R E)
        ≠ .serving envelope' (.fetched state) := by
      intro envelope' state same
      cases same
      cases advances.loaded
    have current : ∀ d, some c = some d → (RunnerPhase.serving envelope stage' : RunnerPhase P A R E).owns = true →
        s.Current r.gid d := by
      intro d same _
      obtain rfl := Option.some.inj same
      exact isCurrent
    have kept : ∀ d, r.player = some d → r.phase.keeps = true →
        (some c = some d ∧ (RunnerPhase.serving envelope stage' : RunnerPhase P A R E).keeps = true)
          ∨ s.vault.cache r.gid = some d := by
      intro d isD _
      exact .inl ⟨isPlayer.symm.trans isD, rfl⟩
    obtain ⟨quiet, _⟩ | ⟨permit, logic, rfl, _, vault⟩
      | ⟨value, state, wrote, result, rfl, rfl, isDirty, _, vault⟩ := cases
    · exact resident.pass isRunner runners quiet rfl current kept
        (fun envelope' state same => absurd same (noFetch envelope' state))
    · have hands := inv.submitted.hands i r isRunner
      rw [serving] at hands
      have runs := inv.submitted.stage i r envelope _ isRunner serving
      have respects := inv.promised envelope.command (hands envelope List.mem_cons_self) logic runs
      exact resident.execute served respects isRunner owns isPlayer found isGid runners rfl rfl rfl noFetch
        (by rw [vault]; rfl) (by rw [vault]; rfl) (by rw [vault]; rfl) (by rw [vault]; rfl) (by rw [vault])
    · have saves := (allowed r isRunner).2.1 state wrote result rfl c isPlayer cell found
      have cells : t.vault.cells = s.vault.cells.set c { cell with state := state } := by
        rw [vault]
        simp only [Vault.setCell, (s.vault.write_rest cell.gid cell.state wrote).1]
      have rest : t.vault.cache = s.vault.cache ∧ t.vault.first = s.vault.first
          ∧ t.vault.executions = s.vault.executions := by
        rw [vault]
        exact ⟨s.vault.write_cache .., s.vault.write_first .., s.vault.write_executions ..⟩
      refine resident.save found isDirty saves cells rest.2.1 rest.2.2 (by rw [vault]; rfl)
        (Current.of_set runners rest.1 current) ?_ (resident.fetched_set runners ?_)
      · intro gid d isKept
        refine isKept.set isRunner runners rest.1 rfl ?_
        intro same isD keeps
        rw [← same]
        exact kept d isD keeps
      · exact fun envelope' state same => absurd same (noFetch envelope' state)
  · have quiet : Vault.Quiet s.vault t.vault := vault ▸ Vault.Quiet.refl s.vault
    have kept : ∀ {player' : Option Nat} {phase : RunnerPhase P A R E}, ∀ d, r.player = some d →
        r.phase.keeps = true → (player' = some d ∧ phase.keeps = true) ∨ s.vault.cache r.gid = some d := by
      intro player' phase d isPlayer
      rw [noPlayer] at isPlayer
      cases isPlayer
    obtain ⟨c, hit, rfl, rfl⟩ | ⟨error, rfl, rfl⟩ | ⟨state, rfl, absent, rfl, rfl⟩ := loaded
    · refine resident.pass isRunner runners quiet rfl ?_ kept (by simp)
      intro d same _
      obtain rfl := Option.some.inj same
      exact .inl hit
    · exact resident.pass isRunner runners quiet rfl (by simp) kept (by simp)
    · refine resident.pass isRunner runners quiet rfl (by simp) kept ?_
      intro envelope' state' same
      cases same
      -- the store has every write, since nobody has the player
      intro q isFirst
      obtain ⟨p, isStored⟩ := Option.isSome_iff_exists.mp (resident.stored r.gid (by rw [isFirst]; rfl))
      rw [(allowed r isRunner).1 state rfl p isStored]
      obtain ⟨d, other, isOther, sameGid, isDirty⟩ | known := resident.saved r.gid p isStored
      · exfalso
        have isKept := resident.dirty d other isOther isDirty
        rw [sameGid] at isKept
        cases isKept with
        | inl hit =>
          rw [absent] at hit
          cases hit
        | inr held =>
          obtain ⟨j, r', isRunner', isGid, isPlayer, keeps⟩ := held
          obtain ⟨rfl, rfl⟩ := served.owned.runner_eq isRunner isRunner' owns (RunnerPhase.owns_of_keeps keeps)
            isGid.symm
          rw [noPlayer] at isPlayer
          cases isPlayer
      · exact known q isFirst
  · exact resident.insertLoaded served isRunner serving noPlayer runners rfl rfl (by simp) vault

theorem Residing.moves {config : ValidConfig} (inv : Residing config content s) {l : Label P A R E}
    (allowed : Faithful content s l) (moves : Moves config.toLogicConfig s l t) : Resident content t := by
  have served := inv.serving.served
  have resident := inv.resident
  cases moves with
  | submit _ runners vault => exact resident.frame runners (vault ▸ Vault.Quiet.refl s.vault)
  | rest _ runners vault => exact resident.frame runners (vault ▸ Vault.Quiet.refl s.vault)
  | spawn _ runners vault => exact resident.spawn rfl rfl runners vault
  | @pass i choice ok r phase _ isRunner _ runners vault passes =>
    refine resident.pass isRunner runners (vault ▸ Vault.Quiet.refl s.vault) rfl ?_ ?_ ?_
    · intro c player owns
      exact .inr ⟨i, r, isRunner, rfl, player, passes.owns owns⟩
    · intro c player keeps
      cases passes.keeps keeps with
      | inl stays => exact .inl ⟨player, stays⟩
      | inr hit => exact .inr (hit c player)
    · intro envelope state isFetched
      cases passes.serving envelope _ isFetched
  | serve isRunner serving taken _ runners => exact inv.serve allowed isRunner serving taken runners
  | @insert i c choice ok r _ isRunner inserting _ runners vault =>
    exact resident.insert served isRunner inserting runners vault
      (fun cell found => (allowed r isRunner).2.2 c inserting cell found)
  | quiet _ runners vault => exact resident.frame runners vault
  | @save k choice saver _ isSaver taken _ runners =>
    obtain quiet | ⟨c, todo, unsaved, cell, state, wrote, result, saving, rfl, found, vault⟩ :=
      Vault.save_cases taken
    · exact resident.frame runners quiet
    · have saves := allowed saver c todo unsaved isSaver saving state wrote result rfl cell found
      have ordered := inv.ordered k saver isSaver
      simp only [Saver.Ordered, saving] at ordered
      obtain ⟨other, there, isDirty⟩ := ordered.2 c List.mem_cons_self
      rw [found] at there
      obtain rfl := Option.some.inj there
      have cells : t.vault.cells = s.vault.cells.set c { cell with state := state } := by
        rw [vault]
        simp only [Vault.setSaver, Vault.setCell, (s.vault.write_rest cell.gid cell.state wrote).1]
      have rest : t.vault.cache = s.vault.cache ∧ t.vault.first = s.vault.first
          ∧ t.vault.executions = s.vault.executions := by
        rw [vault]
        exact ⟨s.vault.write_cache .., s.vault.write_first .., s.vault.write_executions ..⟩
      refine resident.save found isDirty saves cells rest.2.1 rest.2.2 (by rw [vault]; rfl) ?_ ?_ ?_
      · intro gid d isCurrent
        unfold Runtime.Current at isCurrent
        rw [rest.1, runners] at isCurrent
        exact isCurrent
      · intro gid d isKept
        unfold Runtime.Keeps
        rw [rest.1, runners]
        exact isKept
      · rw [runners]
        exact resident.fetched
  | @evict gid c cell _ hit found clean _ runners vault =>
    refine resident.evict runners vault ?_
    intro d other hit' found' isDirty
    rw [hit] at hit'
    obtain rfl := Option.some.inj hit'
    rw [found] at found'
    obtain rfl := Option.some.inj found'
    rw [clean] at isDirty
    cases isDirty
  | @evicted k c gid _ hit _ runners vault =>
    refine resident.evict runners vault ?_
    intro d other hit' found isDirty
    obtain ⟨i, r, isRunner, isPlayer, keeps⟩ := allowed d hit' other found isDirty
    refine ⟨i, r, isRunner, ?_, isPlayer, keeps⟩
    have ofRunner := served.located.player i r d isRunner isPlayer
    rw [served.located.cache gid d hit'] at ofRunner
    exact (Option.some.inj ofRunner).symm

theorem Residing.step {config : ValidConfig} (inv : Residing config content s) {l : Label P A R E}
    (allowed : Faithful content s l) (taken : s.step config.toLogicConfig l = some t) :
    Residing config content t where
  serving := inv.serving.step (step_sound taken)
  submitted := inv.submitted.step (step_sound taken)
  ordered := ordered_step inv.ordered inv.serving.agree (step_sound taken)
  promised := (step_moves taken).promised inv.promised allowed
  resident := inv.moves allowed (step_moves taken)

theorem residing_initial (config : ValidConfig) (content : P → D) :
    Residing config content (Runtime.initial config : Runtime P A R E) where
  serving := serving_initial config
  submitted := ⟨by intro m slot there; simp [Runtime.initial] at there,
    by intro i r there; simp [Runtime.initial] at there,
    by intro i r envelope stage there; simp [Runtime.initial] at there⟩
  ordered := by intro k saver there; simp [Runtime.initial, Vault.initial] at there
  promised := by intro command member; simp [Runtime.commands, Runtime.initial] at member
  resident := by
    refine ⟨?_, ?_, ?_, ?_, ?_, ?_, ?_, ?_⟩
    all_goals intros; simp_all [Runtime.initial, Vault.initial]

theorem residing_reach {config : ValidConfig} (reached : (system P A R E config).Reach (Faithful content) s) :
    Residing config content s := by
  refine reached.inv ?_ (fun s l t inv allowed taken => inv.step allowed taken)
  intro s isInitial
  cases isInitial
  exact residing_initial config content

/-! ## The main result -/

/-- In every run in which a dirty player is not refused by `set_i64` nor dropped
    after its runner has looked, for every schedule of commands, evictions and
    failing saves: each command runs on the state that the earlier commands of the
    player have made of the state loaded first, every dirty cell is resident or has
    a live runner, and the runner never finds another generation in the cache. -/
theorem no_write_is_lost {config : ValidConfig} {content : P → D}
    (reached : (system P A R E config).Reach (Faithful content) s) :
    (∀ gid (n : Nat) execution, (s.vault.executions gid)[n]? = some execution →
      ∃ p, s.vault.first gid = some p
        ∧ content execution.on = content (replay ((s.vault.executions gid).take n) p))
    ∧ (∀ (c : Nat) cell, s.vault.cells[c]? = some cell → cell.dirty = true →
      s.vault.cache cell.gid = some c
      ∨ ∃ (i : Nat) (r : Runner P A R E), s.runners[i]? = some r ∧ r.player = some c ∧ r.phase.alive = true)
    ∧ Fault.differentGeneration ∉ s.faults := by
  have inv := residing_reach reached
  refine ⟨inv.resident.history, ?_, ?_⟩
  · intro c cell found isDirty
    obtain hit | ⟨i, r, isRunner, _, isPlayer, keeps⟩ := inv.resident.dirty c cell found isDirty
    · exact .inl hit
    · refine .inr ⟨i, r, isRunner, isPlayer, ?_⟩
      cases phase : r.phase with
      | done =>
        rw [phase] at keeps
        cases keeps
      | _ => rfl
  · rw [inv.serving.noFault]
    simp

/-- The steps of a schedule in which nothing is refused: both commands have been
    submitted, every fetch reads what is stored and every save keeps its promise. -/
def Purse.Faithful (s : PurseRuntime) : PurseLabel → Prop
  | .run i (.fetched state) ok => ok = true
      ∧ ∀ r ∈ s.runners[i]?, ∀ p ∈ s.vault.stored r.gid, state.state.coins = p.coins
  | .run i (.saved state wrote _) ok => ok = true ∧ ∀ r ∈ s.runners[i]?, ∀ c ∈ r.player,
      ∀ cell ∈ s.vault.cells[c]?, state.coins = cell.state.coins ∧ (state.unsaved = false → wrote = true)
  | .run _ _ ok => ok = true
  | .tryUse _ _ _ | .save _ _ | .evicted _ _ => False
  | _ => True

instance (s : PurseRuntime) (l : PurseLabel) : Decidable (Purse.Faithful s l) := by
  cases l with
  | run i choice ok => cases choice <;> unfold Purse.Faithful <;> infer_instance
  | _ => unfold Purse.Faithful; infer_instance

theorem Purse.Faithful.faithful {s : PurseRuntime} {l : PurseLabel} (allowed : Purse.Faithful s l) :
    Runtime.Faithful Purse.coins s l := by
  cases l with
  | run i choice ok =>
    intro r isRunner
    cases choice with
    | fetched state =>
      refine ⟨?_, by simp, fun _ _ _ _ _ => allowed.1⟩
      intro other same p isStored
      cases same
      exact allowed.2 r isRunner p isStored
    | saved state wrote result =>
      refine ⟨by simp, ?_, fun _ _ _ _ _ => allowed.1⟩
      intro state' wrote' result' same c isPlayer cell found
      cases same
      obtain ⟨keeps, clean⟩ := allowed.2 r isRunner c isPlayer cell found
      exact ⟨keeps, clean⟩
    | _ => exact ⟨by simp, by simp, fun _ _ _ _ _ => allowed⟩
  | tryUse | save | evicted => cases allowed
  | _ => trivial

theorem Purse.earn_respects (logic : Purse → Unit × Purse) (becomes : Purse.earn.Becomes logic) :
    Respects Purse.coins logic := by
  cases becomes
  exact ⟨fun p q same => by simp [same], fun p clean => by simp [LogicState.isDirty] at clean⟩

/-- The player is evicted while its runner has it, the save fails, the runner puts
    it back, and the second command runs on the resident player. -/
def earnUnsaved : List PurseLabel :=
  enqueueAll 0 true ++ proceed 0 1 ++ [.run 0 (.fetched Purse.empty) true] ++ proceed 0 1 ++ [.evict 7]
    ++ proceed 0 8 ++ [.run 0 (.saved ⟨1, true⟩ false (.error ())) true] ++ proceed 0 12
    ++ enqueueAll 1 true ++ proceed 1 7

theorem earnUnsaved_not_lost :
    ∃ s : PurseRuntime, (s.vault.executions 7).length = 2
      ∧ ∀ (n : Nat) execution, (s.vault.executions 7)[n]? = some execution →
        ∃ p, s.vault.first 7 = some p ∧ execution.on.coins = (replay ((s.vault.executions 7).take n) p).coins := by
  have run : ∃ s : PurseRuntime, ((initial .hardLimits : PurseRuntime).step LogicConfig.HARD_LIMITS
        (.tryUse 7 1 Purse.earn)).bind (fun s => (s.step LogicConfig.HARD_LIMITS (.tryUse 7 1 Purse.earn)).bind
          (fun s => System.follow Purse.Faithful (step LogicConfig.HARD_LIMITS) s earnUnsaved)) = some s
      ∧ (s.vault.executions 7).length = 2 := by
    decide +kernel
  obtain ⟨s, followed, executed⟩ := run
  obtain ⟨s1, first, followed⟩ := Option.bind_eq_some_iff.mp followed
  obtain ⟨s2, second, followed⟩ := Option.bind_eq_some_iff.mp followed
  have earns : ∀ u : PurseRuntime, Runtime.Faithful Purse.coins u (.tryUse 7 1 Purse.earn) :=
    fun _ => Purse.earn_respects
  have rest : (system Purse Unit Unit Unit .hardLimits).Run (Runtime.Faithful Purse.coins) s2 s :=
    (System.run_of_follow followed).mono (fun _ _ allowed => Purse.Faithful.faithful allowed)
  have reached : (system Purse Unit Unit Unit .hardLimits).Reach (Runtime.Faithful Purse.coins) s := by
    have submitted : (system Purse Unit Unit Unit .hardLimits).Reach (Runtime.Faithful Purse.coins) s1 :=
      (System.Reach.of_init rfl).step (earns _) first
    exact (submitted.step (earns s1) second).run rest
  exact ⟨s, executed, (no_write_is_lost reached).1 7⟩

/-- The same, but `set_i64` refuses the player. -/
def earnRefused : List PurseLabel :=
  [.tryUse 7 1 Purse.earn, .tryUse 7 1 Purse.earn] ++ enqueueAll 0 true ++ proceed 0 1
    ++ [.run 0 (.fetched Purse.empty) true] ++ proceed 0 1 ++ [.evict 7] ++ proceed 0 8
    ++ [.run 0 (.saved ⟨1, true⟩ false (.error ())) true] ++ proceed 0 9 ++ [.run 0 .go false] ++ proceed 0 2
    ++ enqueueAll 1 true ++ proceed 1 1 ++ [.run 1 (.fetched Purse.empty) true] ++ proceed 1 5

theorem earnRefused_lost :
    ∃ s : PurseRuntime, (system Purse Unit Unit Unit .hardLimits).Reach System.Any s
      ∧ (∃ cell ∈ s.vault.cells[0]?, cell.gid = 7 ∧ cell.dirty = true) ∧ s.vault.cache 7 ≠ some 0
      ∧ (∀ r ∈ s.runners, r.player = some 0 → r.phase.alive = false)
      ∧ ∃ p ∈ s.vault.first 7, ∃ execution ∈ (s.vault.executions 7)[1]?,
        execution.on.coins ≠ (replay ((s.vault.executions 7).take 1) p).coins := by
  have run : ∃ s, System.follow System.Any (step LogicConfig.HARD_LIMITS) (initial .hardLimits) earnRefused
      = some s ∧ (∃ cell ∈ s.vault.cells[0]?, cell.gid = 7 ∧ cell.dirty = true) ∧ s.vault.cache 7 ≠ some 0
      ∧ (∀ r ∈ s.runners, r.player = some 0 → r.phase.alive = false)
      ∧ ∃ p ∈ s.vault.first 7, ∃ execution ∈ (s.vault.executions 7)[1]?,
        execution.on.coins ≠ (replay ((s.vault.executions 7).take 1) p).coins := by
    decide +kernel
  obtain ⟨s, followed, lost⟩ := run
  exact ⟨s, System.reach_of_follow rfl followed, lost⟩

end Runtime

end Xkk.Logic

import Xkk.Logic.Permits

/-! # Who holds a lock or a gate

A directory lock is held by an `enqueue` in its locked section or by a runner
that is leaving, and the save gate of a player by the runner of the player or by
a saver.  So nobody waits for a task that is gone.
-/

set_option linter.unusedSectionVars false

namespace Xkk.Logic

open Xkk.Lib

variable {P A R E : Type} [LogicState P]

namespace Runtime

variable {config : LogicConfig} {s t : Runtime P A R E}

/-! ## Directory locks -/

/-- The holder is in the section that the lock of this shard protects. -/
def Locks (config : LogicConfig) (s : Runtime P A R E) (shard : UInt64) : LockHolder → Prop
  | .enqueue i => ∃ e, s.enqueues[i]? = some e ∧ e.phase.locks = true ∧ config.directory e.gid = shard
  | .runner i => ∃ r, s.runners[i]? = some r ∧ r.phase = .leaving ∧ config.directory r.gid = shard

def LocksHeld (config : LogicConfig) (s : Runtime P A R E) : Prop :=
  ∀ shard holder, s.locks shard = some holder → s.Locks config shard holder

/-- An `enqueue` moves on; when it leaves its locked section it releases the lock. -/
theorem LocksHeld.setEnqueue (inv : LocksHeld config s) {i : Nat} {e e' : Enqueue P A R}
    (found : s.enqueues[i]? = some e) (enqueues : t.enqueues = s.enqueues.set i e')
    (runners : ∀ (j : Nat) r, s.runners[j]? = some r → t.runners[j]? = some r) (gid : e'.gid = e.gid)
    (locks : ∀ shard holder, t.locks shard = some holder →
      s.locks shard = some holder ∧ (holder = .enqueue i → e'.phase.locks = true)
      ∨ holder = .enqueue i ∧ shard = config.directory e.gid ∧ e'.phase.locks = true) :
    LocksHeld config t := by
  have own : e'.phase.locks = true → t.Locks config (config.directory e.gid) (.enqueue i) := by
    intro isLock
    refine ⟨e', ?_, isLock, by rw [gid]⟩
    rw [enqueues]
    exact Pool.get_set_self _ found
  intro shard holder held
  obtain ⟨before, stays⟩ | ⟨rfl, rfl, isLock⟩ := locks shard holder held
  · have was := inv shard holder before
    cases holder with
    | enqueue j =>
      obtain ⟨other, there, isLock, isShard⟩ := was
      by_cases same : i = j
      · subst same
        rw [found] at there
        obtain rfl := Option.some.inj there
        rw [← isShard]
        exact own (stays rfl)
      · refine ⟨other, ?_, isLock, isShard⟩
        rw [enqueues, Pool.get_set_ne _ same]
        exact there
    | runner j =>
      obtain ⟨r, there, leaving, isShard⟩ := was
      exact ⟨r, runners j r there, leaving, isShard⟩
  · exact own isLock

/-- A runner moves on and is not in a locked section. -/
theorem LocksHeld.setRunner (inv : LocksHeld config s) {i : Nat} {r r' : Runner P A R E}
    (isRunner : s.runners[i]? = some r) (inside : r.phase ≠ .leaving)
    (runners : t.runners = s.runners.set i r') (enqueues : t.enqueues = s.enqueues)
    (locks : t.locks = s.locks) : LocksHeld config t := by
  intro shard holder held
  rw [locks] at held
  have was := inv shard holder held
  cases holder with
  | enqueue j =>
    rw [Runtime.Locks, enqueues]
    exact was
  | runner j =>
    obtain ⟨other, there, leaving, isShard⟩ := was
    refine ⟨other, ?_, leaving, isShard⟩
    rw [runners, Pool.get_set_ne]
    · exact there
    · intro same
      subst same
      rw [isRunner] at there
      obtain rfl := Option.some.inj there
      exact inside leaving

/-- An `enqueue` takes the lock of its shard. -/
theorem LocksHeld.lock (inv : LocksHeld config s) {i : Nat} {e e' : Enqueue P A R}
    (found : s.enqueues[i]? = some e) (isLock : e'.phase.locks = true)
    (enqueues : t.enqueues = s.enqueues.set i e') (runners : t.runners = s.runners) (gid : e'.gid = e.gid)
    (locks : t.locks = Function.update s.locks (config.directory e.gid) (some (.enqueue i))) :
    LocksHeld config t := by
  refine inv.setEnqueue found enqueues (fun _ _ there => runners ▸ there) gid ?_
  intro shard holder held
  rw [locks] at held
  by_cases same : shard = config.directory e.gid
  · rw [same, Function.update_self] at held
    exact .inr ⟨(Option.some.inj held).symm, same, isLock⟩
  · rw [Function.update_of_ne same] at held
    exact .inl ⟨held, fun _ => isLock⟩

/-- An `enqueue` leaves its locked section. -/
theorem LocksHeld.unlock (inv : LocksHeld config s) {i : Nat} {e e' : Enqueue P A R}
    (found : s.enqueues[i]? = some e) (enqueues : t.enqueues = s.enqueues.set i e')
    (runners : t.runners = s.runners) (gid : e'.gid = e.gid)
    (locks : t.locks = Function.update s.locks (config.directory e.gid) none) : LocksHeld config t := by
  refine inv.setEnqueue found enqueues (fun _ _ there => runners ▸ there) gid ?_
  intro shard holder held
  rw [locks] at held
  by_cases same : shard = config.directory e.gid
  · rw [same, Function.update_self] at held
    cases held
  · rw [Function.update_of_ne same] at held
    refine .inl ⟨held, ?_⟩
    -- it holds no lock but the one of its shard
    rintro rfl
    obtain ⟨other, there, _, isShard⟩ := inv shard _ held
    rw [found] at there
    obtain rfl := Option.some.inj there
    exact absurd isShard.symm same

/-- An `enqueue` moves on outside of its locked section. -/
theorem LocksHeld.pass (inv : LocksHeld config s) {i : Nat} {e e' : Enqueue P A R}
    (found : s.enqueues[i]? = some e) (unlocked : e.phase.locks = false)
    (enqueues : t.enqueues = s.enqueues.set i e')
    (runners : ∀ (j : Nat) r, s.runners[j]? = some r → t.runners[j]? = some r) (gid : e'.gid = e.gid)
    (locks : t.locks = s.locks) : LocksHeld config t := by
  refine inv.setEnqueue found enqueues runners gid ?_
  intro shard holder held
  rw [locks] at held
  refine .inl ⟨held, ?_⟩
  rintro rfl
  obtain ⟨other, there, isLock, _⟩ := inv shard _ held
  rw [found] at there
  obtain rfl := Option.some.inj there
  rw [unlocked] at isLock
  cases isLock

theorem LocksHeld.retire (inv : LocksHeld config s) {i : Nat} {r : Runner P A R E}
    (isRunner : s.runners[i]? = some r) (checking : r.phase = .checking)
    (runners : t.runners = s.runners.set i { r with phase := .leaving }) (enqueues : t.enqueues = s.enqueues)
    (locks : t.locks = Function.update s.locks (config.directory r.gid) (some (.runner i))) :
    LocksHeld config t := by
  have moved : LocksHeld config { t with locks := s.locks } :=
    inv.setRunner isRunner (by rw [checking]; simp) runners enqueues rfl
  intro shard holder held
  rw [locks] at held
  by_cases same : shard = config.directory r.gid
  · rw [same, Function.update_self] at held
    obtain rfl := Option.some.inj held
    refine ⟨{ r with phase := .leaving }, ?_, rfl, same.symm⟩
    rw [runners]
    exact Pool.get_set_self _ isRunner
  · rw [Function.update_of_ne same] at held
    have was := moved shard holder held
    cases holder with
    | enqueue j => exact was
    | runner j => exact was

theorem LocksHeld.leave (inv : LocksHeld config s) {i : Nat} {r r' : Runner P A R E}
    (isRunner : s.runners[i]? = some r) (runners : t.runners = s.runners.set i r')
    (enqueues : t.enqueues = s.enqueues)
    (locks : t.locks = Function.update s.locks (config.directory r.gid) none) : LocksHeld config t := by
  intro shard holder held
  rw [locks] at held
  by_cases same : shard = config.directory r.gid
  · rw [same, Function.update_self] at held
    cases held
  · rw [Function.update_of_ne same] at held
    have was := inv shard holder held
    cases holder with
    | enqueue j =>
      rw [Runtime.Locks, enqueues]
      exact was
    | runner j =>
      obtain ⟨other, there, isLeaving, isShard⟩ := was
      refine ⟨other, ?_, isLeaving, isShard⟩
      rw [runners, Pool.get_set_ne]
      · exact there
      · intro atI
        subst atI
        rw [isRunner] at there
        obtain rfl := Option.some.inj there
        exact same isShard.symm

theorem LocksHeld.step (inv : LocksHeld config s) (taken : Step config s t) :
    LocksHeld config t := by
  cases taken with
  | tryUse =>
    intro shard holder held
    have was := inv shard holder held
    cases holder with
    | enqueue j =>
      obtain ⟨e, there, rest⟩ := was
      exact ⟨e, Pool.get_append_of_some _ there, rest⟩
    | runner j => exact was
  | full found calling => exact inv.pass found (by rw [calling]; rfl) rfl (fun _ _ there => there) rfl rfl
  | lock found calling => exact inv.lock found rfl rfl rfl rfl rfl
  | lockNew found calling => exact inv.lock found rfl rfl rfl rfl rfl
  | @push i m spawnRunner e slot holder found acquiring =>
    cases spawnRunner with
    | true =>
      -- the section goes on until the new slot is counted
      exact inv.setEnqueue found rfl (fun _ _ there => there) rfl
        (fun shard holder held => .inl ⟨held, fun _ => rfl⟩)
    | false => exact inv.unlock found rfl rfl rfl rfl
  | @refuse i m spawnRunner e reason holder found acquiring =>
    cases spawnRunner with
    | true => exact inv.unlock found rfl rfl rfl rfl
    | false => exact inv.unlock found rfl rfl rfl rfl
  | count found counting => exact inv.unlock found rfl rfl rfl rfl
  | spawn found spawning =>
    exact inv.pass found (by rw [spawning]; rfl) rfl (fun _ _ there => Pool.get_append_of_some _ there) rfl rfl
  | take isRunner either =>
    refine inv.setRunner isRunner ?_ rfl rfl rfl
    cases either with
    | inl taking => rw [taking]; simp
    | inr checking => rw [checking]; simp
  | serve isRunner serving => exact inv.setRunner isRunner (by rw [serving]; simp) rfl rfl rfl
  | finish isRunner finishing => exact inv.setRunner isRunner (by rw [finishing]; simp) rfl rfl rfl
  | completeNext isRunner completing => exact inv.setRunner isRunner (by rw [completing]; simp) rfl rfl rfl
  | completeLast isRunner completing => exact inv.setRunner isRunner (by rw [completing]; simp) rfl rfl rfl
  | drop isRunner dropping => exact inv.setRunner isRunner (by rw [dropping]; simp) rfl rfl rfl
  | dropKib isRunner dropping => exact inv.setRunner isRunner (by rw [dropping]; simp) rfl rfl rfl
  | notifyNext isRunner notifying => exact inv.setRunner isRunner (by rw [notifying]; simp) rfl rfl rfl
  | notifyLast isRunner notifying => exact inv.setRunner isRunner (by rw [notifying]; simp) rfl rfl rfl
  | peek isRunner retiring => exact inv.setRunner isRunner (by rw [retiring]; simp) rfl rfl rfl
  | peekNone isRunner retiring => exact inv.setRunner isRunner (by rw [retiring]; simp) rfl rfl rfl
  | insert ok isRunner inserting => exact inv.setRunner isRunner (by rw [inserting]; simp) rfl rfl rfl
  | retire isRunner checking => exact inv.retire isRunner checking rfl rfl rfl
  | leave isRunner leaving => exact inv.leave isRunner rfl rfl rfl
  | _ =>
    intro shard holder held
    have was := inv shard holder held
    cases holder with
    | enqueue j => exact was
    | runner j => exact was

/-- The next step of the holder of a lock. -/
def LockHolder.next : LockHolder → List (Label P A R E)
  | .enqueue i => [.acquire i false, .acquired i, .count i]
  | .runner i => [.run i .go true]

/-- Whoever holds a lock can go on without waiting for anybody. -/
theorem Served.holder_goes {config : ValidConfig} (served : Served config s)
    (locksHeld : LocksHeld config.toLogicConfig s) {shard : UInt64} {holder : LockHolder}
    (held : s.locks shard = some holder) :
    ∃ label ∈ LockHolder.next holder, (s.step config.toLogicConfig label).isSome = true := by
  have isHolder := locksHeld shard holder held
  cases holder with
  | runner i =>
    obtain ⟨r, isRunner, leaving, _⟩ := isHolder
    refine ⟨.run i .go true, by simp [LockHolder.next], ?_⟩
    simp [Runtime.step, isRunner, Runtime.run, leaving]
  | enqueue i =>
    obtain ⟨e, found, isLock, _⟩ := isHolder
    cases phase : e.phase with
    | counting m =>
      refine ⟨.count i, by simp [LockHolder.next], ?_⟩
      simp [Runtime.step, found, Runtime.count, phase]
    | acquiring m spawnRunner =>
      obtain ⟨holding, holds, admits⟩ := served.permitted.enqueue i e found
      rw [phase] at admits
      obtain ⟨acquire, rfl⟩ := admits
      obtain ⟨h, there, isPhase⟩ := Option.map_eq_some_iff.mp holds
      have mapped := served.owned.ofEnqueue i e m found (by rw [phase]; rfl)
      have known := served.owned.slots e.gid m mapped
      rw [List.getElem?_map, Option.map_eq_some_iff] at known
      obtain ⟨slot, isSlot, _⟩ := known
      have ticks : (s.pool.admission.acquireStep h.retained false acquire).isSome = true →
          ∃ label ∈ LockHolder.next (.enqueue i), (s.step config.toLogicConfig label).isSome = true := by
        intro moves
        refine ⟨.acquire i false, by simp [LockHolder.next], ?_⟩
        simp [Runtime.step, found, Runtime.acquire, phase, AdmissionPool.step, AdmissionPool.tick, there,
          isPhase, moves]
      have answers : ∀ {result : AdmissionPool.HolderPhase}, h.phase = result →
          (result = .acquiring .permit ∨ ∃ reason, result = .acquiring (.rejected reason)) →
          ∃ label ∈ LockHolder.next (.enqueue i), (s.step config.toLogicConfig label).isSome = true := by
        intro result isResult either
        refine ⟨.acquired i, by simp [LockHolder.next], ?_⟩
        obtain rfl | ⟨reason, rfl⟩ := either
        · simp [Runtime.step, found, Runtime.acquired, phase, there, isResult, isSlot]
        · simp [Runtime.step, found, Runtime.acquired, phase, there, isResult]
      cases acquire with
      | permit => exact answers isPhase (.inl rfl)
      | rejected reason => exact answers isPhase (.inr ⟨reason, rfl⟩)
      | start =>
        apply ticks
        simp only [Admission.acquireStep]
        split
        · rfl
        · split <;> rfl
      | loaded current =>
        apply ticks
        simp only [Admission.acquireStep]
        split <;> rfl
      | kibLoaded current =>
        apply ticks
        simp only [Admission.acquireStep]
        split
        · rfl
        · split <;> rfl
      | won | giveBack | added => exact ticks rfl
    | _ =>
      rw [phase] at isLock
      cases isLock

/-! ## Save gates -/

/-- The runner that a gate names holds it. -/
def GatesHeld (s : Runtime P A R E) : Prop :=
  ∀ (c : Nat) cell i, s.vault.cells[c]? = some cell → cell.saveGate = some (.runner i) →
    ∃ r stage, s.runners[i]? = some r ∧ r.held = some (c, stage)

theorem GatesHeld.setRunner (inv : GatesHeld s) {i : Nat} {r r' : Runner P A R E}
    (isRunner : s.runners[i]? = some r) (runners : t.runners = s.runners.set i r')
    (vault : t.vault.cells = s.vault.cells) (held : r'.held = r.held) : GatesHeld t := by
  intro c cell j found gate
  rw [vault] at found
  obtain ⟨other, stage, there, isHeld⟩ := inv c cell j found gate
  by_cases same : i = j
  · subst same
    rw [isRunner] at there
    obtain rfl := Option.some.inj there
    refine ⟨r', stage, ?_, held.trans isHeld⟩
    rw [runners]
    exact Pool.get_set_self _ isRunner
  · refine ⟨other, stage, ?_, isHeld⟩
    rw [runners, Pool.get_set_ne _ same]
    exact there

/-- A vault step that gives no gate to a runner. -/
theorem GatesHeld.frame (inv : GatesHeld s)
    (runners : ∀ (j : Nat) r, s.runners[j]? = some r → t.runners[j]? = some r)
    (gates : ∀ (c : Nat) cell' i, t.vault.cells[c]? = some cell' → cell'.saveGate = some (.runner i) →
      ∃ cell, s.vault.cells[c]? = some cell ∧ cell.saveGate = some (.runner i)) : GatesHeld t := by
  intro c cell' i found gate
  obtain ⟨cell, before, gate⟩ := gates c cell' i found gate
  obtain ⟨r, stage, there, isHeld⟩ := inv c cell i before gate
  exact ⟨r, stage, runners i r there, isHeld⟩

end Runtime

/-- What a runner that does not hold its gate afterwards has done. -/
theorem Vault.serveCell_unheld {max me c : Nat} {v v' : Vault P R E} {cell : PlayerCell P}
    {envelope : Envelope P A R} {stage stage' : Stage P A R E} {choice : Choice P A E}
    (unheld : stage'.holdsGate = false)
    (taken : v.serveCell max me envelope c cell stage choice = some (v', stage')) :
    v' = v ∧ stage.holdsGate = false ∨ v' = v.setCell c { cell with saveGate := none } := by
  cases Vault.serves_of_serveCell taken with
  | loaded => exact .inl ⟨rfl, rfl⟩
  | release => exact .inr rfl
  | drop _ => simp at unheld
  | onward => simp at unheld
  | _ => cases unheld

/-- A saver takes gates and opens them. -/
theorem Vault.save_gates {k : Nat} {v v' : Vault P R E} {saver : Saver E} {choice : Choice P A E}
    (taken : v.save k saver saver.phase choice = some v') {c i : Nat} {cell' : PlayerCell P}
    (found' : v'.cells[c]? = some cell') (gate : cell'.saveGate = some (.runner i)) :
    ∃ cell, v.cells[c]? = some cell ∧ cell.saveGate = some (.runner i) := by
  have set : ∀ {d : Nat} {cell other : PlayerCell P}, v.cells[d]? = some cell →
      (v.cells.set d other)[c]? = some cell' → other.saveGate = cell.saveGate ∨ other.saveGate = some (.saver k) →
      ∃ cell, v.cells[c]? = some cell ∧ cell.saveGate = some (.runner i) := by
    intro d cell other there isSet gates
    cases Pool.get_set_cases isSet with
    | inr differ => exact ⟨cell', differ.2, gate⟩
    | inl same =>
      obtain ⟨rfl, rfl⟩ := same
      cases gates with
      | inl unchanged => exact ⟨cell, there, unchanged.symm.trans gate⟩
      | inr own =>
        rw [own] at gate
        cases gate
  have opened : (v.openGates k).cells[c]? = some cell' →
      ∃ cell, v.cells[c]? = some cell ∧ cell.saveGate = some (.runner i) := by
    intro isOpen
    simp only [Vault.openGates, List.getElem?_map, Option.map_eq_some_iff] at isOpen
    obtain ⟨cell, there, rfl⟩ := isOpen
    split at gate
    · cases gate
    · exact ⟨cell, there, gate⟩
  cases Vault.saves_of_save taken with
  | lock _ _ there _ => exact set there found' (.inr rfl)
  | allClean _ _ => exact opened found'
  | locked _ _ _ => exact ⟨cell', found', gate⟩
  | @saved d todo dirty cell state wrote result _ there =>
    simp only [Vault.setSaver, Vault.setCell, (v.write_rest cell.gid cell.state wrote).1] at found'
    exact set there found' (.inl rfl)
  | returned _ => exact ⟨cell', found', gate⟩
  | refresh _ there isRefreshed =>
    obtain ⟨_, rfl | ⟨_, _, rfl⟩⟩ := Vault.refreshSlot_cases isRefreshed
    · exact ⟨cell', found', gate⟩
    · exact set there found' (.inl rfl)
  | refreshFault _ _ _ => exact ⟨cell', found', gate⟩
  | refreshed _ => exact opened found'
  | @mark d isDirty todo result _ =>
    simp only [Vault.setSaver, (v.markDirty_cells d isDirty).1] at found'
    exact ⟨cell', found', gate⟩

namespace Runtime

variable {config : LogicConfig} {s t : Runtime P A R E}

/-- Whoever holds the gate of another player is another runner, and does not move. -/
theorem GatesHeld.elsewhere (inv : GatesHeld s) {i j c d : Nat} {r : Runner P A R E} {envelope : Envelope P A R}
    {stage : Stage P A R E} {other : PlayerCell P} (isRunner : s.runners[i]? = some r)
    (serving : r.phase = .serving envelope stage) (isPlayer : r.player = some c) (differ : d ≠ c)
    (found : s.vault.cells[d]? = some other) (isGate : other.saveGate = some (.runner j)) (r' : Runner P A R E) :
    ∃ holder stage, (s.runners.set i r')[j]? = some holder ∧ holder.held = some (d, stage) := by
  obtain ⟨holder, at_, isHolder, isHeld⟩ := inv d other j found isGate
  have apart : i ≠ j := by
    intro same
    subst same
    rw [isRunner] at isHolder
    obtain rfl := Option.some.inj isHolder
    simp only [Runner.held, serving, isPlayer] at isHeld
    split at isHeld
    · cases isHeld
      exact differ rfl
    · cases isHeld
  refine ⟨holder, at_, ?_, isHeld⟩
  rw [Pool.get_set_ne _ apart]
  exact isHolder

theorem GatesHeld.serve (inv : GatesHeld s) {i : Nat} {r : Runner P A R E}
    {envelope : Envelope P A R} {stage stage' : Stage P A R E} {choice : Choice P A E}
    {vault : Vault P R E} {player : Option Nat} (isRunner : s.runners[i]? = some r)
    (serving : r.phase = .serving envelope stage)
    (agree : SlotsAgree config { s with
      vault := vault
      runners := s.runners.set i { r with player := player, phase := .serving envelope stage' } })
    (served : s.vault.serve config.maxDirtyPlayers.toNat i r.gid envelope r.player stage choice
      = some (vault, player, stage')) :
    GatesHeld { s with
      vault := vault
      runners := s.runners.set i { r with player := player, phase := .serving envelope stage' } } := by
  have self : (s.runners.set i { r with player := player, phase := .serving envelope stage' })[i]?
      = some { r with player := player, phase := .serving envelope stage' } := Pool.get_set_self _ isRunner
  obtain ⟨c, cell, isPlayer, rfl, found, served⟩ | ⟨noPlayer, rfl, rfl, loaded⟩
    | ⟨state, noPlayer, rfl, rfl, rfl, rfl⟩ := Vault.serve_cases served
  · obtain ⟨cell', touches⟩ := Vault.serveCell_touches found served
    cases holds : stage'.holdsGate with
    | true =>
      have gate := (Slotted.at agree ⟨self, rfl, rfl, touches.self⟩ holds).1
      intro d other j there isGate
      by_cases mine : d = c
      · subst mine
        rw [touches.self] at there
        obtain rfl := Option.some.inj there
        rw [gate] at isGate
        cases isGate
        exact ⟨_, stage', self, by simp only [Runner.held, holds, if_true]⟩
      · have before : s.vault.cells[d]? = some other := (touches.others d mine).symm.trans there
        exact inv.elsewhere isRunner serving isPlayer mine before isGate _
    | false =>
      obtain ⟨rfl, unheld⟩ | rfl := Vault.serveCell_unheld holds served
      · refine inv.setRunner isRunner rfl rfl ?_
        simp [Runner.held, serving, isPlayer, unheld, holds]
      · intro d other j there isGate
        cases Pool.get_set_cases there with
        | inl same =>
          obtain ⟨rfl, rfl⟩ := same
          cases isGate
        | inr differ =>
          exact inv.elsewhere isRunner serving isPlayer differ.1.symm differ.2 isGate _
  · refine inv.setRunner isRunner rfl rfl ?_
    obtain ⟨c, _, rfl, rfl⟩ | ⟨error, rfl, rfl⟩ | ⟨state, _, _, rfl, rfl⟩ := loaded
    · simp [Runner.held, serving, noPlayer, Stage.holdsGate]
    · simp [Runner.held, serving, noPlayer]
    · simp [Runner.held, serving, noPlayer]
  · have moved : GatesHeld { s with
        runners := s.runners.set i
          { r with player := some s.vault.cells.length, phase := .serving envelope .gating } } := by
      refine inv.setRunner isRunner rfl rfl ?_
      simp [Runner.held, serving, noPlayer, Stage.holdsGate]
    intro d other j there isGate
    cases Pool.get_append_cases there with
    | inl new =>
      obtain ⟨_, rfl⟩ := new
      cases isGate
    | inr old => exact moved d other j old.2 isGate

theorem GatesHeld.step (inv : GatesHeld s) (agree : SlotsAgree config t) (taken : Step config s t) :
    GatesHeld t := by
  have unheld : ∀ {r : Runner P A R E} {phase : RunnerPhase P A R E},
      (∀ envelope stage, r.phase = .serving envelope stage → stage.holdsGate = false) →
      (∀ envelope stage, phase = .serving envelope stage → stage.holdsGate = false) →
      Runner.held { r with phase := phase } = r.held := by
    intro r phase before after
    have none : ∀ r : Runner P A R E, (∀ envelope stage, r.phase = .serving envelope stage →
        stage.holdsGate = false) → r.held = none := by
      intro r away
      unfold Runner.held
      split
      case h_1 envelope stage c serving _ => simp [away envelope stage serving]
      case h_2 => rfl
    rw [none _ after, none _ before]
  cases taken with
  | spawn =>
    exact inv.frame (fun _ _ there => Pool.get_append_of_some _ there)
      (fun c cell i found gate => ⟨cell, found, gate⟩)
  | take isRunner either =>
    refine inv.setRunner isRunner rfl rfl (unheld ?_ ?_)
    · intro envelope stage serving
      cases either with
      | inl taking => rw [taking] at serving; cases serving
      | inr checking => rw [checking] at serving; cases serving
    · intro envelope stage serving
      cases serving
      rfl
  | serve isRunner serving served => exact inv.serve isRunner serving agree served
  | finish isRunner finishing =>
    refine inv.setRunner isRunner rfl rfl (unheld ?_ (by simp))
    intro envelope stage serving
    rw [finishing] at serving
    cases serving
    rfl
  | completeNext isRunner completing =>
    exact inv.setRunner isRunner rfl rfl (unheld (by simp [completing]) (by simp))
  | completeLast isRunner completing =>
    exact inv.setRunner isRunner rfl rfl (unheld (by simp [completing]) (by simp))
  | drop isRunner dropping => exact inv.setRunner isRunner rfl rfl (unheld (by simp [dropping]) (by simp))
  | dropKib isRunner dropping => exact inv.setRunner isRunner rfl rfl (unheld (by simp [dropping]) (by simp))
  | notifyNext isRunner notifying =>
    refine inv.setRunner isRunner rfl rfl (unheld (by simp [notifying]) ?_)
    intro envelope stage serving
    cases serving
    rfl
  | notifyLast isRunner notifying =>
    exact inv.setRunner isRunner rfl rfl (unheld (by simp [notifying]) (by simp))
  | peek isRunner retiring => exact inv.setRunner isRunner rfl rfl (unheld (by simp [retiring]) (by simp))
  | peekNone isRunner retiring => exact inv.setRunner isRunner rfl rfl (unheld (by simp [retiring]) (by simp))
  | insert ok isRunner inserting =>
    refine inv.setRunner isRunner rfl ?_ (unheld (by simp [inserting]) (by simp))
    simp only [Vault.setResident]
    split <;> rfl
  | retire isRunner checking => exact inv.setRunner isRunner rfl rfl (unheld (by simp [checking]) (by simp))
  | leave isRunner leaving => exact inv.setRunner isRunner rfl rfl (unheld (by simp [leaving]) (by simp))
  | startSaver started =>
    refine inv.frame (fun _ _ there => there) ?_
    intro c cell i found gate
    rw [(Vault.startSaver_rest started).1] at found
    exact ⟨cell, found, gate⟩
  | save isSaver saved =>
    exact inv.frame (fun _ _ there => there) (fun c cell i found gate => Vault.save_gates saved found gate)
  | flush found flushing started =>
    refine inv.frame (fun _ _ there => there) ?_
    intro c cell i found gate
    rw [(Vault.flush_rest started).1] at found
    exact ⟨cell, found, gate⟩
  | push =>
    split
    · exact inv
    · exact inv
  | refuse =>
    split
    · exact inv
    · exact inv
  | _ => exact inv

end Runtime

end Xkk.Logic

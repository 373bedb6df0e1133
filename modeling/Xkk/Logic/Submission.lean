import Xkk.Logic.Serialization

/-! # Labels, submitted commands and savers

`Step` does not say which label a step has.  `Moves` does, for what a step can do
to the players, the runners and the submitted commands.  What a runner executes
was submitted (`Submitted`), and a saver writes players that are dirty
(`Vault.Ordered`).
-/

set_option linter.unusedSectionVars false

namespace Xkk.Logic

open Xkk.Lib

variable {P A R E : Type} [LogicState P]

/-- The runner has not yet looked whether its player is resident, or has it in its
    hands to put it back. -/
def RunnerPhase.keeps : RunnerPhase P A R E → Bool
  | .checking | .leaving | .done => false
  | _ => true

theorem RunnerPhase.owns_of_keeps {phase : RunnerPhase P A R E} (keeps : phase.keeps = true) :
    phase.owns = true := by
  cases phase with
  | checking | leaving | done => cases keeps
  | _ => rfl

/-- The commands that the runner still has to serve. -/
def RunnerPhase.envelopes : RunnerPhase P A R E → List (Envelope P A R)
  | .serving envelope _ => [envelope]
  | .dropping _ next | .droppingKib _ next | .notifying next => next.toList
  | .taking | .completing _ | .retiring | .inserting _ | .checking | .leaving | .done => []

/-- What `execute` runs for the command. -/
def Command.Becomes (logic : P → R × P) : Command P A R → Prop
  | .use run => logic = run
  | .usePreloaded run => ∃ value, logic = (run · value)

def Stage.Runs (command : Command P A R) : Stage P A R E → Prop
  | .preloading _ logic _ => command = .usePreloaded logic
  | .ready _ logic => command.Becomes logic
  | _ => True

theorem Vault.refreshSlot_savers {v v' : Vault P R E} {c : Nat} {cell : PlayerCell P} {dirty : Bool}
    (taken : v.refreshSlot c cell = .ok (v', dirty)) : v'.savers = v.savers := by
  obtain ⟨_, rfl | ⟨_, _, rfl⟩⟩ := Vault.refreshSlot_cases taken
  · rfl
  · rfl

theorem Onward.stage_runs (onward : Onward R E) (command : Command P A R) :
    (onward.stage : Stage P A R E).Runs command := by
  cases onward <;> trivial

/-- A runner starts no saver, and what it runs comes from its command. -/
theorem Vault.serveCell_rest {max me c : Nat} {v v' : Vault P R E} {cell : PlayerCell P}
    {envelope : Envelope P A R} {stage stage' : Stage P A R E} {choice : Choice P A E}
    (taken : v.serveCell max me envelope c cell stage choice = some (v', stage')) :
    v'.savers = v.savers ∧ (stage.Runs envelope.command → stage'.Runs envelope.command) := by
  cases Vault.serves_of_serveCell taken with
  | use isUse =>
    refine ⟨rfl, fun _ => ?_⟩
    simp only [Stage.Runs, isUse, Command.Becomes]
  | preload isPreloaded => exact ⟨rfl, fun _ => isPreloaded⟩
  | preloaded value =>
    refine ⟨rfl, fun runs => ?_⟩
    simp only [Stage.Runs] at runs
    simp only [Stage.Runs, runs, Command.Becomes]
    exact ⟨value, rfl⟩
  | refresh isRefreshed => exact ⟨Vault.refreshSlot_savers isRefreshed, fun _ => trivial⟩
  | markLogic => exact ⟨(v.markDirty_cells c _).2.2.1, fun _ => trivial⟩
  | markSave => exact ⟨(v.markDirty_cells c _).2.2.1, fun _ => trivial⟩
  | @drop onward _ => exact ⟨rfl, fun _ => onward.stage_runs _⟩
  | @onward onward => exact ⟨rfl, fun _ => onward.stage_runs _⟩
  | @saved value state wrote result _ =>
    exact ⟨(v.write_rest cell.gid cell.state wrote).2.2.2.2.1, fun _ => trivial⟩
  | _ => exact ⟨rfl, fun _ => trivial⟩

namespace Runtime

variable {s t : Runtime P A R E}

/-! ## What a step does to the players -/

/-- A runner goes on without touching its player. -/
structure Passes (s : Runtime P A R E) (r : Runner P A R E) (phase : RunnerPhase P A R E) : Prop where
  owns : phase.owns = true → r.phase.owns = true
  serving : ∀ envelope stage, phase = .serving envelope stage → stage = .loading
  keeps : r.phase.keeps = true → phase.keeps = true ∨ ∀ c ∈ r.player, s.vault.cache r.gid = some c

/-- What a step with its label can do to the players, the runners and the submitted
    commands. -/
inductive Moves (config : LogicConfig) (s : Runtime P A R E) : Label P A R E → Runtime P A R E → Prop
  | submit {gid : Gid} {retainedKib : UInt64} {command : Command P A R} {t : Runtime P A R E} :
      t.enqueues.map Enqueue.command = s.enqueues.map Enqueue.command ++ [command] →
      t.runners = s.runners → t.vault = s.vault → Moves config s (.tryUse gid retainedKib command) t
  | rest {l : Label P A R E} {t : Runtime P A R E} :
      t.enqueues.map Enqueue.command = s.enqueues.map Enqueue.command →
      t.runners = s.runners → t.vault = s.vault → Moves config s l t
  | spawn {l : Label P A R E} {gid : Gid} {m : Nat} {t : Runtime P A R E} :
      t.enqueues.map Enqueue.command = s.enqueues.map Enqueue.command →
      t.runners = s.runners ++ [⟨gid, m, none, .taking⟩] → t.vault = s.vault → Moves config s l t
  | pass {i : Nat} {choice : Choice P A E} {ok : Bool} {r : Runner P A R E} {phase : RunnerPhase P A R E}
      {t : Runtime P A R E} :
      s.runners[i]? = some r → t.enqueues = s.enqueues → t.runners = s.runners.set i { r with phase := phase } →
      t.vault = s.vault → Passes s r phase → Moves config s (.run i choice ok) t
  | serve {i : Nat} {choice : Choice P A E} {ok : Bool} {r : Runner P A R E} {envelope : Envelope P A R}
      {stage stage' : Stage P A R E} {player : Option Nat} {t : Runtime P A R E} :
      s.runners[i]? = some r → r.phase = .serving envelope stage →
      s.vault.serve config.maxDirtyPlayers.toNat i r.gid envelope r.player stage choice
        = some (t.vault, player, stage') →
      t.enqueues = s.enqueues →
      t.runners = s.runners.set i { r with player := player, phase := .serving envelope stage' } →
      Moves config s (.run i choice ok) t
  | insert {i c : Nat} {choice : Choice P A E} {ok : Bool} {r : Runner P A R E} {t : Runtime P A R E} :
      s.runners[i]? = some r → r.phase = .inserting c → t.enqueues = s.enqueues →
      t.runners = s.runners.set i { r with phase := .checking } →
      t.vault = s.vault.setResident r.gid c ok → Moves config s (.run i choice ok) t
  | quiet {l : Label P A R E} {t : Runtime P A R E} :
      t.enqueues = s.enqueues → t.runners = s.runners → Vault.Quiet s.vault t.vault → Moves config s l t
  | save {k : Nat} {choice : Choice P A E} {saver : Saver E} {t : Runtime P A R E} :
      s.vault.savers[k]? = some saver → s.vault.save k saver saver.phase choice = some t.vault →
      t.enqueues = s.enqueues → t.runners = s.runners → Moves config s (.save k choice) t
  | evict {gid : Gid} {c : Nat} {cell : PlayerCell P} {t : Runtime P A R E} :
      s.vault.cache gid = some c → s.vault.cells[c]? = some cell → cell.dirty = false →
      t.enqueues = s.enqueues → t.runners = s.runners →
      t.vault = { s.vault with cache := Function.update s.vault.cache gid none } →
      Moves config s (.evict gid) t
  | evicted {k c : Nat} {gid : Gid} {t : Runtime P A R E} :
      s.vault.cache gid = some c → t.enqueues = s.enqueues → t.runners = s.runners →
      t.vault = { s.vault with cache := Function.update s.vault.cache gid none } →
      Moves config s (.evicted k gid) t

variable {config : LogicConfig}

theorem commands_setEnqueue {i : Nat} {e : Enqueue P A R} (found : s.enqueues[i]? = some e)
    (phase : EnqueuePhase) : (s.enqueues.set i { e with phase := phase }).map Enqueue.command
      = s.enqueues.map Enqueue.command := by
  rw [List.map_set]
  apply Pool.set_self
  rw [List.getElem?_map, found]
  rfl

theorem lock_moves {i : Nat} {e : Enqueue P A R} {l : Label P A R E} (found : s.enqueues[i]? = some e)
    (taken : s.lock config i e = some t) : Moves config s l t := by
  unfold Runtime.lock at taken
  split at taken
  case isFalse => cases taken
  case isTrue =>
    split at taken
    case h_1 =>
      obtain ⟨slot, there, rfl⟩ := Option.map_eq_some_iff.mp taken
      split <;> exact .rest (commands_setEnqueue found _) rfl rfl
    case h_2 =>
      split at taken
      all_goals
        obtain rfl := Option.some.inj taken
        exact .rest (commands_setEnqueue found _) rfl rfl

theorem admit_moves {i : Nat} {e : Enqueue P A R} {l : Label P A R E} (found : s.enqueues[i]? = some e)
    (taken : s.acquired config i e = some t) : Moves config s l t := by
  unfold Runtime.acquired at taken
  split at taken
  case h_2 => cases taken
  case h_1 m spawnRunner acquiring =>
    split at taken
    case h_1 =>
      obtain ⟨slot, there, rfl⟩ := Option.map_eq_some_iff.mp taken
      split <;> exact .rest (commands_setEnqueue found _) rfl rfl
    case h_2 =>
      obtain rfl := Option.some.inj taken
      cases spawnRunner <;> exact .rest (commands_setEnqueue found _) rfl rfl
    case h_3 => cases taken

theorem Passes.of_keeps {r : Runner P A R E} {phase : RunnerPhase P A R E} (owns : r.phase.owns = true)
    (keeps : phase.keeps = true) (serving : ∀ envelope stage, phase = .serving envelope stage → stage = .loading) :
    Passes s r phase :=
  ⟨fun _ => owns, serving, fun _ => .inl keeps⟩

theorem run_passes {i : Nat} {r : Runner P A R E} {choice : Choice P A E} {ok : Bool}
    (isRunner : s.runners[i]? = some r) (taken : s.run config i r choice ok = some t) :
    Moves config s (.run i choice ok) t := by
  have loads : ∀ envelope : Envelope P A R, ∀ other (stage : Stage P A R E),
      (RunnerPhase.serving envelope .loading : RunnerPhase P A R E) = .serving other stage → stage = .loading := by
    intro envelope other stage same
    cases same
    rfl
  cases runs_of_run taken with
  | @take slot envelope rest either _ _ _ _ =>
    refine .pass isRunner rfl rfl rfl (.of_keeps ?_ rfl (loads envelope))
    cases either with
    | inl taking => rw [taking]; rfl
    | inr checking => rw [checking]; rfl
  | serve serving served => exact .serve isRunner serving served rfl rfl
  | finish finishing => exact .pass isRunner rfl rfl rfl (.of_keeps (by rw [finishing]; rfl) rfl (by simp))
  | completeNext completing _ _ _ _ =>
    exact .pass isRunner rfl rfl rfl (.of_keeps (by rw [completing]; rfl) rfl (by simp))
  | completeLast completing _ _ _ _ =>
    exact .pass isRunner rfl rfl rfl (.of_keeps (by rw [completing]; rfl) rfl (by simp))
  | drop dropping _ => exact .pass isRunner rfl rfl rfl (.of_keeps (by rw [dropping]; rfl) rfl (by simp))
  | dropKib dropping _ => exact .pass isRunner rfl rfl rfl (.of_keeps (by rw [dropping]; rfl) rfl (by simp))
  | @notifyNext envelope notifying =>
    exact .pass isRunner rfl rfl rfl (.of_keeps (by rw [notifying]; rfl) rfl (loads envelope))
  | notifyLast notifying => exact .pass isRunner rfl rfl rfl (.of_keeps (by rw [notifying]; rfl) rfl (by simp))
  | peek retiring resident =>
    -- the player is resident, so the runner may let go of it
    exact .pass isRunner rfl rfl rfl ⟨fun _ => by rw [retiring]; rfl, by simp, fun _ => .inr resident⟩
  | peekNone retiring _ _ => exact .pass isRunner rfl rfl rfl (.of_keeps (by rw [retiring]; rfl) rfl (by simp))
  | insert inserting => exact .insert isRunner inserting rfl rfl rfl
  | retire checking _ _ _ _ =>
    refine .pass isRunner rfl rfl rfl ⟨fun _ => by rw [checking]; rfl, by simp, ?_⟩
    rw [checking]
    intro isFalse
    cases isFalse
  | leave leaving =>
    refine .pass isRunner rfl rfl rfl ⟨?_, by simp, ?_⟩
    · intro isFalse
      cases isFalse
    · rw [leaving]
      intro isFalse
      cases isFalse
  | lostSlot _ _ => exact .rest rfl rfl rfl
  | slotDisappeared _ _ => exact .rest rfl rfl rfl
  | emptyMailbox _ _ _ => exact .rest rfl rfl rfl
  | inflightAtRetirement _ _ _ _ => exact .rest rfl rfl rfl
  | differentGeneration _ _ _ _ => exact .rest rfl rfl rfl

/-- `shutdown` starts savers, if anything. -/
theorem shut_players {j : Nat} {d : Shutdown E} {batches : List (List Nat)} (taken : s.shut j d batches = some t) :
    t.enqueues = s.enqueues ∧ t.runners = s.runners ∧ (t.vault = s.vault
      ∨ batches.foldlM (fun (vault : Vault P R E) batch => vault.startSaver batch false) s.vault
        = some t.vault) := by
  unfold Runtime.shut at taken
  split at taken
  case h_2 =>
    obtain ⟨pool, _, rfl⟩ := Option.map_eq_some_iff.mp taken
    exact ⟨rfl, rfl, .inl rfl⟩
  case h_7 =>
    simp only [Option.ite_none_right_eq_some, Option.some.injEq] at taken
    obtain ⟨_, rfl⟩ := taken
    exact ⟨rfl, rfl, .inl rfl⟩
  case h_8 =>
    simp only [Runtime.flush, Option.ite_none_right_eq_some, Option.map_eq_some_iff] at taken
    obtain ⟨_, vault, started, rfl⟩ := taken
    exact ⟨rfl, rfl, .inr started⟩
  case h_9 =>
    obtain ⟨result, _, rfl⟩ := Option.map_eq_some_iff.mp taken
    cases result <;> exact ⟨rfl, rfl, .inl rfl⟩
  case h_4 notified _ =>
    obtain rfl := Option.some.inj taken
    cases notified <;> split <;> exact ⟨rfl, rfl, .inl rfl⟩
  case h_5 notified _ =>
    obtain rfl := Option.some.inj taken
    cases notified <;> split <;> exact ⟨rfl, rfl, .inl rfl⟩
  case h_13 => cases taken
  all_goals
    obtain rfl := Option.some.inj taken
    first
      | exact ⟨rfl, rfl, .inl rfl⟩
      | split <;> exact ⟨rfl, rfl, .inl rfl⟩

theorem shut_moves {j : Nat} {d : Shutdown E} {batches : List (List Nat)} {l : Label P A R E}
    (taken : s.shut j d batches = some t) : Moves config s l t := by
  obtain ⟨enqueues, runners, same | started⟩ := shut_players taken
  · exact .rest (by rw [enqueues]) runners same
  · exact .quiet enqueues runners (Vault.flush_quiet started)

theorem step_moves {l : Label P A R E} (taken : s.step config l = some t) : Moves config s l t := by
  cases l with
  | tryUse gid retainedKib command =>
    simp only [Runtime.step, Runtime.tryUse, Option.map_eq_some_iff] at taken
    obtain ⟨pool, _, rfl⟩ := taken
    exact .submit (by simp) rfl rfl
  | lock i =>
    obtain ⟨e, found, taken⟩ := Option.bind_eq_some_iff.mp taken
    exact lock_moves found taken
  | acquire i spurious =>
    obtain ⟨e, found, taken⟩ := Option.bind_eq_some_iff.mp taken
    unfold Runtime.acquire at taken
    split at taken
    case h_1 =>
      obtain ⟨pool, _, rfl⟩ := Option.map_eq_some_iff.mp taken
      exact .rest rfl rfl rfl
    case h_2 => cases taken
  | acquired i =>
    obtain ⟨e, found, taken⟩ := Option.bind_eq_some_iff.mp taken
    exact admit_moves found taken
  | count i =>
    obtain ⟨e, found, taken⟩ := Option.bind_eq_some_iff.mp taken
    unfold Runtime.count at taken
    split at taken
    case h_1 =>
      obtain rfl := Option.some.inj taken
      exact .rest (commands_setEnqueue found _) rfl rfl
    case h_2 => cases taken
  | spawn i =>
    obtain ⟨e, found, taken⟩ := Option.bind_eq_some_iff.mp taken
    unfold Runtime.spawn at taken
    split at taken
    case h_1 =>
      obtain rfl := Option.some.inj taken
      exact .spawn (commands_setEnqueue found _) rfl rfl
    case h_2 => cases taken
  | run i choice ok =>
    obtain ⟨r, isRunner, taken⟩ := Option.bind_eq_some_iff.mp taken
    exact run_passes isRunner taken
  | startSaver entries evicts =>
    obtain ⟨vault, started, rfl⟩ := Option.map_eq_some_iff.mp taken
    exact .quiet rfl rfl (Vault.startSaver_quiet started)
  | save k choice =>
    simp only [Runtime.step, Option.bind_eq_some_iff, Option.map_eq_some_iff] at taken
    obtain ⟨saver, isSaver, vault, saved, rfl⟩ := taken
    exact .save isSaver saved rfl rfl
  | evict gid =>
    simp only [Runtime.step, Vault.evict, Option.map_eq_some_iff, Option.bind_eq_some_iff,
      Option.ite_none_left_eq_some, Option.some.injEq] at taken
    obtain ⟨vault, ⟨c, resident, cell, found, clean, rfl⟩, rfl⟩ := taken
    exact .evict resident found (by simpa using clean) rfl rfl rfl
  | evicted k gid =>
    simp only [Runtime.step, Vault.evicted, Option.map_eq_some_iff, Option.bind_eq_some_iff] at taken
    obtain ⟨vault, ⟨saver, isSaver, removed⟩, rfl⟩ := taken
    split at removed
    case h_1 =>
      simp only [Option.ite_none_right_eq_some, Option.some.injEq] at removed
      obtain ⟨⟨_, among⟩, rfl⟩ := removed
      obtain ⟨c, resident, _⟩ := (Option.any_eq_true _ _).mp among
      exact .evicted resident rfl rfl rfl
    case h_2 => cases removed
  | shutdown =>
    obtain rfl := Option.some.inj taken
    exact .rest rfl rfl rfl
  | shut j batches =>
    obtain ⟨d, _, taken⟩ := Option.bind_eq_some_iff.mp taken
    exact shut_moves taken

/-! ## What runs was submitted -/

def commands (s : Runtime P A R E) : List (Command P A R) := s.enqueues.map Enqueue.command

structure Submitted (s : Runtime P A R E) : Prop where
  queued : ∀ (m : Nat) slot, s.slots[m]? = some slot → ∀ envelope ∈ slot.queue, envelope.command ∈ s.commands
  hands : ∀ (i : Nat) r, s.runners[i]? = some r → ∀ envelope ∈ r.phase.envelopes, envelope.command ∈ s.commands
  stage : ∀ (i : Nat) r envelope stage, s.runners[i]? = some r → r.phase = .serving envelope stage →
    stage.Runs envelope.command

theorem Submitted.frame (inv : Submitted s) (slots : t.slots = s.slots) (runners : t.runners = s.runners)
    (commands : ∀ command ∈ s.commands, command ∈ t.commands) : Submitted t where
  queued := by
    rw [slots]
    exact fun m slot there envelope member => commands _ (inv.queued m slot there envelope member)
  hands := by
    rw [runners]
    exact fun i r isRunner envelope member => commands _ (inv.hands i r isRunner envelope member)
  stage := by
    rw [runners]
    exact inv.stage

/-- The queue of one mailbox changes. -/
theorem Submitted.queue (inv : Submitted s) {m : Nat} {slot' : KeySlot P A R}
    (commands : ∀ command ∈ s.commands, command ∈ t.commands) (slots : t.slots = s.slots.set m slot')
    (member : ∀ envelope ∈ slot'.queue, envelope.command ∈ t.commands) (n : Nat) (slot : KeySlot P A R)
    (there : t.slots[n]? = some slot) : ∀ envelope ∈ slot.queue, envelope.command ∈ t.commands := by
  rw [slots] at there
  cases Pool.get_set_cases there with
  | inl itself =>
    rw [itself.2]
    exact member
  | inr apart => exact fun envelope among => commands _ (inv.queued n slot apart.2 envelope among)

/-- A runner moves, and the queues have no new commands. -/
theorem Submitted.runner (inv : Submitted s) {i : Nat} {r' : Runner P A R E}
    (runners : t.runners = s.runners.set i r') (commands : t.commands = s.commands)
    (queued : ∀ (m : Nat) slot, t.slots[m]? = some slot → ∀ envelope ∈ slot.queue, envelope.command ∈ s.commands)
    (hands : ∀ envelope ∈ r'.phase.envelopes, envelope.command ∈ s.commands)
    (stage : ∀ envelope stage, r'.phase = .serving envelope stage → stage.Runs envelope.command) :
    Submitted t where
  queued := by
    rw [commands]
    exact queued
  hands := by
    rw [runners, commands]
    intro j other there
    cases Pool.get_set_cases there with
    | inl itself =>
      rw [itself.2]
      exact hands
    | inr apart => exact inv.hands j other apart.2
  stage := by
    rw [runners]
    intro j other envelope stage' there serving
    cases Pool.get_set_cases there with
    | inl itself =>
      rw [itself.2] at serving
      exact stage envelope stage' serving
    | inr apart => exact inv.stage j other envelope stage' apart.2 serving

theorem serve_runs {max i : Nat} {gid : Gid} {envelope : Envelope P A R} {player player' : Option Nat}
    {stage stage' : Stage P A R E} {choice : Choice P A E} {vault : Vault P R E}
    (served : s.vault.serve max i gid envelope player stage choice = some (vault, player', stage'))
    (runs : stage.Runs envelope.command) : stage'.Runs envelope.command := by
  obtain ⟨c, cell, _, _, _, served⟩ | ⟨_, _, _, ⟨_, _, _, rfl⟩ | ⟨_, _, rfl⟩ | ⟨_, _, _, _, rfl⟩⟩
    | ⟨_, _, _, _, _, rfl⟩ := Vault.serve_cases served
  · exact (Vault.serveCell_rest served).2 runs
  all_goals trivial

/-- A runner takes the first command of a queue into its hands. -/
theorem Submitted.dequeue (inv : Submitted s) (gid : Gid) {i m : Nat} {r : Runner P A R E}
    {slot slot' : KeySlot P A R} {first : Envelope P A R} {rest : List (Envelope P A R)}
    {phase : RunnerPhase P A R E} (there : s.slots[m]? = some slot) (queue : slot.queue = first :: rest)
    (hands : phase.envelopes = [first])
    (stage : ∀ envelope stage, phase = .serving envelope stage → stage.Runs envelope.command) :
    Submitted ((s.dequeue gid m slot' first rest).setRunner i r phase) := by
  have queued := inv.queued m slot there
  rw [queue] at queued
  refine inv.runner rfl rfl (inv.queue (fun _ member => member) rfl ?_) ?_ stage
  · exact fun other member => queued other (List.mem_cons_of_mem _ member)
  · intro other member
    rw [hands] at member
    rw [List.mem_singleton.mp member]
    exact queued first List.mem_cons_self

/-- The mailbox accepts a command that was submitted. -/
theorem Submitted.push (inv : Submitted s) {i m : Nat} {e : Enqueue P A R} {slot : KeySlot P A R}
    (found : s.enqueues[i]? = some e) (there : s.slots[m]? = some slot)
    (commands : ∀ command ∈ s.commands, command ∈ t.commands)
    (slots : t.slots = (s.push i e m slot).slots) (runners : t.runners = s.runners) : Submitted t := by
  have submitted : e.command ∈ s.commands := List.mem_map_of_mem (List.mem_of_getElem? found)
  refine ⟨inv.queue commands slots ?_, ?_, ?_⟩
  · intro envelope member
    apply commands
    cases List.mem_append.mp member with
    | inl before => exact inv.queued m slot there envelope before
    | inr new =>
      rw [List.mem_singleton.mp new]
      exact submitted
  · rw [runners]
    exact fun j r isRunner envelope member => commands _ (inv.hands j r isRunner envelope member)
  · rw [runners]
    exact inv.stage

/-- A runner starts with nothing in its hands. -/
theorem Submitted.spawn (inv : Submitted s) {gid : Gid} {m : Nat} (slots : t.slots = s.slots)
    (commands : ∀ command ∈ s.commands, command ∈ t.commands)
    (runners : t.runners = s.runners ++ [⟨gid, m, none, .taking⟩]) : Submitted t where
  queued := by
    rw [slots]
    exact fun n slot there envelope member => commands _ (inv.queued n slot there envelope member)
  hands := by
    rw [runners]
    intro j r isRunner
    cases Pool.get_append_cases isRunner with
    | inl new =>
      rw [new.2]
      intro envelope member
      cases member
    | inr before => exact fun envelope member => commands _ (inv.hands j r before.2 envelope member)
  stage := by
    rw [runners]
    intro j r envelope stage isRunner serving
    cases Pool.get_append_cases isRunner with
    | inl new =>
      rw [new.2] at serving
      cases serving
    | inr before => exact inv.stage j r envelope stage before.2 serving

theorem Submitted.step (inv : Submitted s) (taken : Step config s t) : Submitted t := by
  have loads : ∀ {envelope : Envelope P A R} (other : Envelope P A R) (stage : Stage P A R E),
      (RunnerPhase.serving envelope .loading : RunnerPhase P A R E) = .serving other stage →
      stage.Runs other.command := by
    intro envelope other stage same
    cases same
    trivial
  have kept : ∀ {i : Nat} {e : Enqueue P A R}, s.enqueues[i]? = some e → ∀ phase, ∀ command ∈ s.commands,
      command ∈ (s.enqueues.set i { e with phase := phase }).map Enqueue.command := by
    intro i e found phase command member
    rw [commands_setEnqueue found]
    exact member
  cases taken with
  | tryUse acquired =>
    refine inv.frame rfl rfl ?_
    intro command member
    simp only [Runtime.commands, List.map_append, List.mem_append]
    exact .inl member
  | full found | lock found => exact inv.frame rfl rfl (kept found _)
  | @lockNew i e found =>
    refine ⟨?_, fun j r isRunner envelope member => kept found _ _ (inv.hands j r isRunner envelope member),
      inv.stage⟩
    intro m slot there
    cases Pool.get_append_cases there with
    | inl new =>
      rw [new.2]
      intro envelope member
      cases member
    | inr before => exact fun envelope member => kept found _ _ (inv.queued m slot before.2 envelope member)
  | @push i m spawnRunner e slot holder found acquiring isHolder granted there =>
    cases spawnRunner with
    | true => exact inv.push found there (kept found _) rfl rfl
    | false => exact inv.push found there (kept found _) rfl rfl
  | refuse found => split <;> exact inv.frame rfl rfl (kept found _)
  | count found => exact inv.frame rfl rfl (kept found _)
  | spawn found => exact inv.spawn rfl (kept found _) rfl
  | @take i r slot envelope rest isRunner either isFree mapped there queue =>
    exact inv.dequeue r.gid there queue rfl loads
  | @serve i r envelope stage stage' choice vault player isRunner serving served =>
    have hands := inv.hands i r isRunner
    rw [serving] at hands
    refine inv.runner rfl rfl inv.queued hands ?_
    intro other stage'' same
    cases same
    exact serve_runs served (inv.stage i r envelope stage isRunner serving)
  | @completeNext i r envelope next slot rest isRunner completing isFree mapped there queue =>
    exact inv.dequeue r.gid there queue rfl (by simp)
  | @completeLast i r envelope slot isRunner completing isFree mapped there queue =>
    exact inv.runner rfl rfl (inv.queue (fun _ member => member) rfl (inv.queued r.slot slot there))
      (by simp [RunnerPhase.envelopes]) (by simp)
  | @drop i id r next pool isRunner dropping | @dropKib i id r next pool isRunner dropping =>
    have hands := inv.hands i r isRunner
    rw [dropping] at hands
    exact inv.runner rfl rfl inv.queued hands (by simp)
  | @notifyNext i r envelope isRunner notifying =>
    have hands := inv.hands i r isRunner
    rw [notifying] at hands
    exact inv.runner rfl rfl inv.queued hands loads
  | finish isRunner | notifyLast isRunner | peek isRunner | peekNone isRunner | insert ok isRunner
  | retire isRunner | leave isRunner =>
    exact inv.runner rfl rfl inv.queued (by simp [RunnerPhase.envelopes]) (by simp)
  | _ => exact inv.frame rfl rfl (fun _ member => member)

/-! ## A saver writes dirty players -/

end Runtime

section Savers

variable {max k : Nat} {v v' : Vault P R E} {runners : List (Runner P A R E)} {saver saver' : Saver E}

/-- The players that a saver still has to write are dirty, and each is listed once:
    it could not lock the same gate twice. -/
def Saver.Ordered (saver : Saver E) (v : Vault P R E) : Prop :=
  match saver.phase with
  | .locking next => (saver.entries.take next).Nodup
  | .saving todo _ => todo.Nodup ∧ ∀ c ∈ todo, ∃ cell, v.cells[c]? = some cell ∧ cell.dirty = true
  | _ => True

def Vault.Ordered (v : Vault P R E) : Prop :=
  ∀ (k : Nat) saver, v.savers[k]? = some saver → saver.Ordered v

/-- The dirty players whose gates the saver `k` holds stay dirty. -/
def Vault.Steady (v v' : Vault P R E) (k : Nat) : Prop :=
  ∀ (c : Nat) cell, v.cells[c]? = some cell → cell.saveGate = some (.saver k) → cell.dirty = true →
    ∃ cell', v'.cells[c]? = some cell' ∧ cell'.dirty = true

theorem Vault.Quiet.cell (quiet : Vault.Quiet v v') {c : Nat} {cell : PlayerCell P}
    (found : v.cells[c]? = some cell) :
    ∃ cell', v'.cells[c]? = some cell' ∧ cell'.gid = cell.gid ∧ cell'.state = cell.state := by
  have same := congrArg (·[c]?) quiet.players
  simp only [List.getElem?_map, found, Option.map_some, Option.map_eq_some_iff] at same
  obtain ⟨cell', there, player⟩ := same
  simp only [PlayerCell.player, Prod.mk.injEq] at player
  exact ⟨cell', there, player.1, player.2⟩

theorem Vault.Quiet.steady (quiet : Vault.Quiet v v') (k : Nat) : Vault.Steady v v' k := by
  intro c cell found _ dirty
  obtain ⟨cell', there, _, state⟩ := quiet.cell found
  refine ⟨cell', there, ?_⟩
  rw [PlayerCell.dirty, state]
  exact dirty

theorem Slotted.gate_of_todo (inv : Slotted max v runners) (isSaver : v.savers[k]? = some saver)
    {todo dirty : List Nat} (saving : saver.phase = .saving todo dirty) {c : Nat} (member : c ∈ todo) :
    ∃ cell, v.cells[c]? = some cell ∧ cell.saveGate = some (.saver k) := by
  obtain ⟨agrees, within⟩ := inv.savers k saver isSaver
  simp only [Saver.Within, saving] at within
  obtain ⟨cell, found, gate, _⟩ := agrees c (by
    simp only [Saver.held, saving]
    exact within.2 c (within.1 c member))
  exact ⟨cell, found, gate⟩

theorem Saver.Ordered.steady (ordered : saver.Ordered v) (inv : Slotted max v runners)
    (isSaver : v.savers[k]? = some saver) (stays : Vault.Steady v v' k) : saver.Ordered v' := by
  unfold Saver.Ordered at ordered ⊢
  cases phase : saver.phase with
  | locking next =>
    rw [phase] at ordered
    exact ordered
  | saving todo unsaved =>
    rw [phase] at ordered
    refine ⟨ordered.1, ?_⟩
    intro c member
    obtain ⟨cell, found, dirty⟩ := ordered.2 c member
    obtain ⟨other, there, gate⟩ := inv.gate_of_todo isSaver phase member
    rw [found] at there
    obtain rfl := Option.some.inj there
    exact stays c cell found gate dirty
  | _ => trivial

/-- The saver `k` makes a step, or a new one is started. -/
theorem Vault.Ordered.set (ordered : v.Ordered) (inv : Slotted max v runners)
    (savers : v'.savers = v.savers.set k saver') (own : saver'.Ordered v')
    (stays : ∀ j, k ≠ j → Vault.Steady v v' j) : v'.Ordered := by
  intro j other there
  rw [savers] at there
  cases Pool.get_set_cases there with
  | inl itself =>
    rw [itself.2]
    exact own
  | inr apart => exact (ordered j other apart.2).steady inv apart.2 (stays j apart.1)

theorem Vault.Ordered.same (ordered : v.Ordered) (inv : Slotted max v runners)
    (savers : v'.savers = v.savers) (stays : ∀ j, Vault.Steady v v' j) : v'.Ordered := by
  intro j other there
  rw [savers] at there
  exact (ordered j other there).steady inv there (stays j)

theorem Vault.Ordered.startSaver {entries : List Nat} {evicts : Bool} (ordered : v.Ordered)
    (taken : v.startSaver entries evicts = some v') : v'.Ordered := by
  simp only [Vault.startSaver, Option.ite_none_right_eq_some, Option.some.injEq] at taken
  obtain ⟨_, rfl⟩ := taken
  intro j other there
  cases Pool.get_append_cases there with
  | inl new =>
    rw [new.2]
    simp [Saver.Ordered]
  | inr before => exact ordered j other before.2

theorem Vault.Ordered.flush {batches : List (List Nat)} :
    ∀ {v v' : Vault P R E}, v.Ordered →
      batches.foldlM (fun (vault : Vault P R E) batch => vault.startSaver batch false) v = some v' → v'.Ordered := by
  induction batches with
  | nil =>
    intro v v' ordered started
    cases started
    exact ordered
  | cons batch rest ih =>
    intro v v' ordered started
    simp only [List.foldlM_cons, Option.bind_eq_bind, Option.bind_eq_some_iff] at started
    obtain ⟨next, first, others⟩ := started
    exact ih (ordered.startSaver first) others

theorem Vault.Ordered.save {choice : Choice P A E} (ordered : v.Ordered) (inv : Slotted max v runners)
    (isSaver : v.savers[k]? = some saver) (taken : v.save k saver saver.phase choice = some v') :
    v'.Ordered := by
  have own := ordered k saver isSaver
  have calm : ∀ {phase : SaverPhase E}, Vault.Quiet v v' → v'.savers = v.savers.set k { saver with phase := phase } →
      ({ saver with phase := phase } : Saver E).Ordered v' → v'.Ordered :=
    fun quiet savers next => ordered.set inv savers next (fun j _ => quiet.steady j)
  have quiet : (∀ c todo dirty, saver.phase ≠ .saving (c :: todo) dirty) → Vault.Quiet v v' := by
    intro unsaved
    obtain quiet | ⟨c, todo, dirty, _, _, _, _, isPhase, _⟩ := Vault.save_cases taken
    · exact quiet
    · exact absurd isPhase (unsaved c todo dirty)
  cases Vault.saves_of_save taken with
  | @lock next c cell isPhase entry found isFree =>
    refine calm (quiet (by simp [isPhase])) rfl ?_
    simp only [Saver.Ordered, isPhase] at own ⊢
    -- a gate that is free is none of those that are held
    have fresh : c ∉ saver.entries.take next := by
      intro member
      have held : c ∈ saver.held := by simpa [Saver.held, isPhase] using member
      obtain ⟨other, there, gate, _⟩ := (inv.savers k saver isSaver).1 c held
      rw [found] at there
      obtain rfl := Option.some.inj there
      rw [isFree] at gate
      cases gate
    rw [List.take_add_one, entry, Option.toList_some, List.nodup_append]
    refine ⟨own, List.nodup_singleton c, ?_⟩
    intro d member e isLast same
    rw [List.mem_singleton] at isLast
    subst isLast same
    exact fresh member
  | allClean isPhase _ => exact calm (quiet (by simp [isPhase])) rfl trivial
  | @locked next dirty isPhase entry isDirty =>
    simp only [Saver.Ordered, isPhase] at own
    rw [List.take_of_length_le (List.getElem?_eq_none_iff.mp entry)] at own
    subst isDirty
    refine calm (quiet (by simp [isPhase])) rfl ⟨own.filter _, ?_⟩
    intro c member
    rw [List.mem_filter] at member
    obtain ⟨cell, found, dirty⟩ := (Option.any_eq_true _ _).mp member.2
    exact ⟨cell, found, dirty⟩
  | @saved c todo unsaved cell state wrote result isPhase found =>
    simp only [Saver.Ordered, isPhase, List.nodup_cons] at own
    obtain ⟨other, there, gate⟩ := inv.gate_of_todo isSaver isPhase List.mem_cons_self
    rw [found] at there
    obtain rfl := Option.some.inj there
    have cells : (((v.write cell.gid cell.state wrote).setCell c { cell with state := state }).setSaver k
        saver (.saving todo unsaved)).cells = v.cells.set c { cell with state := state } := by
      simp only [Vault.setSaver, Vault.setCell, (v.write_rest cell.gid cell.state wrote).1]
    have savers : (((v.write cell.gid cell.state wrote).setCell c { cell with state := state }).setSaver k
        saver (.saving todo unsaved)).savers = v.savers.set k { saver with phase := .saving todo unsaved } := by
      simp only [Vault.setSaver, Vault.setCell, (v.write_rest cell.gid cell.state wrote).2.2.2.2.1]
    refine ordered.set inv savers ⟨own.1.2, ?_⟩ ?_
    · intro d member
      obtain ⟨other, there, dirty⟩ := own.2 d (List.mem_cons_of_mem _ member)
      refine ⟨other, ?_, dirty⟩
      rw [cells, Pool.get_set_ne]
      · exact there
      · intro same
        subst same
        exact own.1.1 member
    · -- the gate of the player is not held by another saver
      intro j differ d other there gate' dirty
      refine ⟨other, ?_, dirty⟩
      rw [cells, Pool.get_set_ne]
      · exact there
      · intro same
        subst same
        rw [found] at there
        obtain rfl := Option.some.inj there
        rw [gate] at gate'
        cases gate'
        exact differ rfl
  | returned isPhase => exact calm (quiet (by simp [isPhase])) rfl trivial
  | @refresh c todo result cell refreshed isDirty isPhase _ isRefreshed =>
    have savers : (refreshed.setSaver k saver (.marking c isDirty todo result)).savers =
        v.savers.set k { saver with phase := .marking c isDirty todo result } := by
      rw [← Vault.refreshSlot_savers isRefreshed]
      rfl
    exact calm (quiet (by simp [isPhase])) savers trivial
  | refreshFault isPhase _ _ =>
    have quiet := quiet (by simp [isPhase])
    exact ordered.same inv rfl (fun j => quiet.steady j)
  | refreshed isPhase => exact calm (quiet (by simp [isPhase])) rfl trivial
  | @mark c isDirty todo result isPhase =>
    have savers : ((v.markDirty c isDirty).setSaver k saver (.refreshing todo result)).savers =
        v.savers.set k { saver with phase := .refreshing todo result } := by
      simp only [Vault.setSaver, (v.markDirty_cells c isDirty).2.2.1]
    exact calm (quiet (by simp [isPhase])) savers trivial

end Savers

namespace Runtime

variable {config : LogicConfig} {s t : Runtime P A R E}

theorem ordered_step (ordered : s.vault.Ordered) (agree : SlotsAgree config s) (taken : Step config s t) :
    t.vault.Ordered := by
  cases taken with
  | @serve i r envelope stage stage' choice vault player isRunner serving served =>
    obtain ⟨c, cell, isPlayer, rfl, found, served⟩ | ⟨_, _, rfl, _⟩ | ⟨state, _, _, rfl, _, _⟩ :=
      Vault.serve_cases served
    · have savers := (Vault.serveCell_rest served).1
      refine ordered.same agree savers ?_
      -- a saver does not hold the gate that the runner holds
      have apart : ∀ {state : P}, stage.holdsGate = true →
          vault.cells = s.vault.cells.set c { cell with state := state } →
          ∀ j, Vault.Steady s.vault vault j := by
        intro state holds cells j d other there gate dirty
        refine ⟨other, ?_, dirty⟩
        rw [cells, Pool.get_set_ne]
        · exact there
        · intro same
          subst same
          rw [found] at there
          obtain rfl := Option.some.inj there
          have mine := (Slotted.at agree ⟨isRunner, serving, isPlayer, found⟩ holds).1
          rw [gate] at mine
          cases mine
      obtain ⟨quiet, _⟩ | ⟨permit, logic, rfl, _, rfl⟩ | ⟨value, state, wrote, result, rfl, _, _, _, rfl⟩ :=
        (Vault.serveCell_cases found served).2
      · exact fun j => quiet.steady j
      · exact apart rfl rfl
      · have cells : ((s.vault.write cell.gid cell.state wrote).setCell c { cell with state := state }).cells
            = s.vault.cells.set c { cell with state := state } := by
          simp only [Vault.setCell, (s.vault.write_rest cell.gid cell.state wrote).1]
        exact apart rfl cells
    · exact ordered
    · refine ordered.same agree rfl ?_
      intro j d other there _ dirty
      exact ⟨other, Pool.get_append_of_some _ there, dirty⟩
  | insert ok =>
    change (s.vault.setResident _ _ ok).Ordered
    unfold Vault.setResident
    split <;> exact ordered
  | startSaver started => exact ordered.startSaver started
  | save isSaver saved => exact ordered.save agree isSaver saved
  | flush found flushing started => exact ordered.flush started
  | push => split <;> exact ordered
  | refuse => split <;> exact ordered
  | _ => exact ordered

end Runtime

end Xkk.Logic

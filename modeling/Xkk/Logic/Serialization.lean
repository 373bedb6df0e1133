import Xkk.Logic.Holders

/-! # The commands of a player

What the callers of the runtime can rely on: the commands of a player are served
one at a time in the order in which they were accepted, each gets one outcome,
and none is left behind.  For the last part `work` counts the steps that are left
for the commands of a player; every step of its runner makes it smaller.
-/

set_option linter.unusedSectionVars false

namespace Xkk.Logic

open Xkk.Lib

variable {P A R E : Type} [LogicState P]

/-- How many steps of the runner may follow before it needs the next command. -/
def RunnerPhase.rank : RunnerPhase P A R E → Nat
  | .dropping _ (some _) => 27
  | .droppingKib _ (some _) => 26
  | .notifying (some _) => 25
  | .serving _ stage => 8 + stage.rank
  | .completing _ => 8
  | .dropping _ none => 7
  | .droppingKib _ none => 6
  | .notifying none => 5
  | .retiring => 4
  | .inserting _ => 3
  | .checking => 2
  | .taking | .leaving => 1
  | .done => 0

def EnqueuePhase.rank : EnqueuePhase → Nat
  | .counting _ => 3
  | .spawning _ => 2
  | .calling | .acquiring _ _ | .accepted | .rejected _ => 0

def Runner.work (gid : Gid) (r : Runner P A R E) : Nat := if r.gid = gid then r.phase.rank else 0

def Enqueue.work (gid : Gid) (e : Enqueue P A R) : Nat := if e.gid = gid then e.phase.rank else 0

/-- The answers from outside that a stage waits for. -/
def Stage.Hears : Stage P A R E → Choice P A E → Prop
  | .loading, .fetched _ | .loading, .cacheError _ => True
  | .preloading _ _ _, .preloaded _ | .preloading _ _ _, .preloadFailed _ => True
  | .saving _, .saved _ _ _ => True
  | _, _ => False

/-- The stage waits for the loader, a preload or a saver. -/
def Stage.asks : Stage P A R E → Bool
  | .loading | .preloading _ _ _ | .saving _ => true
  | _ => false

namespace Runtime

variable {config : ValidConfig} {s t : Runtime P A R E}

/-! ## Mailboxes outside of the directory -/

/-- A slot that is not in the directory has an empty mailbox. -/
def Filed (s : Runtime P A R E) : Prop :=
  ∀ (m : Nat) slot, s.slots[m]? = some slot → slot.queue ≠ [] → s.directory slot.gid = some m

theorem Filed.set (inv : Filed s) {m : Nat} {slot slot' : KeySlot P A R}
    (mapped : s.directory slot.gid = some m) (gid : slot'.gid = slot.gid)
    (slots : t.slots = s.slots.set m slot') (directory : t.directory = s.directory) : Filed t := by
  intro n other found nonempty
  rw [slots] at found
  rw [directory]
  cases Pool.get_set_cases found with
  | inl same =>
    obtain ⟨rfl, rfl⟩ := same
    rw [gid]
    exact mapped
  | inr differ => exact inv n other differ.2 nonempty

/-- The slot that goes has an empty mailbox. -/
theorem Filed.remove (inv : Filed s) {gid : Gid} (isEmpty : (s.desk gid).queue = [])
    (slots : t.slots = s.slots) (directory : t.directory = Function.update s.directory gid none) :
    Filed t := by
  intro m slot found nonempty
  rw [slots] at found
  have mapped := inv m slot found nonempty
  rw [directory, Function.update_of_ne]
  · exact mapped
  · intro same
    rw [same] at mapped
    rw [Desk.queue, desk_mailbox mapped found] at isEmpty
    exact nonempty isEmpty

theorem Filed.step (inv : Filed s) (served : Served config s) (taken : Step config.toLogicConfig s t) :
    Filed t := by
  have slotGid : ∀ {gid : Gid} {m : Nat} {slot : KeySlot P A R}, s.directory gid = some m →
      s.slots[m]? = some slot → slot.gid = gid := by
    intro gid m slot mapped there
    exact (served.owned.mailbox_gid (desk_mailbox mapped there)).1
  have set : ∀ {u : Runtime P A R E} {gid : Gid} {m : Nat} {slot slot' : KeySlot P A R},
      s.directory gid = some m → s.slots[m]? = some slot → u.slots = s.slots.set m slot' →
      slot'.gid = slot.gid → u.directory = s.directory → Filed u := by
    intro u gid m slot slot' mapped there slots same directory
    refine inv.set ?_ same slots directory
    rw [slotGid mapped there]
    exact mapped
  cases taken with
  | @lockNew i e found calling isFree unmapped =>
    intro m slot there nonempty
    cases Pool.get_append_cases there with
    | inl new =>
      obtain ⟨_, rfl⟩ := new
      exact absurd rfl nonempty
    | inr old =>
      have mapped := inv m slot old.2 nonempty
      change Function.update s.directory _ _ _ = _
      rw [Function.update_of_ne]
      · exact mapped
      · intro same
        rw [same, unmapped] at mapped
        cases mapped
  | @push i m spawnRunner e slot holder found acquiring isHolder granted there =>
    have mapped := served.owned.ofEnqueue i e m found (by rw [acquiring]; rfl)
    cases spawnRunner with
    | true => exact set mapped there rfl rfl rfl
    | false => exact set mapped there rfl rfl rfl
  | @refuse i m spawnRunner e reason holder found acquiring =>
    cases spawnRunner with
    | false => exact inv
    | true =>
      have expected := served.dispatched.enqueue i e found
      rw [acquiring] at expected
      exact inv.remove (expected.1 rfl) rfl rfl
  | take isRunner either isFree mapped there queue => exact set mapped there rfl rfl rfl
  | completeNext isRunner completing isFree mapped there queue => exact set mapped there rfl rfl rfl
  | completeLast isRunner completing isFree mapped there => exact set mapped there rfl rfl rfl
  | retire isRunner checking isFree mapped there queue =>
    refine inv.remove ?_ rfl rfl
    rw [Desk.queue, desk_mailbox mapped there]
    exact queue
  | _ => exact inv

/-! ## Outcomes -/

/-- Every outcome is one that `run_gid` gives. -/
structure Answering (s : Runtime P A R E) : Prop where
  stage : ∀ (i : Nat) r envelope stage, s.runners[i]? = some r → r.phase = .serving envelope stage →
    stage.Served
  outcomes : ∀ gid, ∀ answer ∈ s.outcomes gid, answer.2.Served

theorem Answering.setRunner (inv : Answering s) {i : Nat} {r' : Runner P A R E}
    (runners : t.runners = s.runners.set i r') (outcomes : t.outcomes = s.outcomes)
    (stage : ∀ envelope stage, r'.phase = .serving envelope stage → stage.Served) : Answering t where
  stage := by
    rw [runners]
    intro j other envelope stage' there serving
    cases Pool.get_set_cases there with
    | inl same =>
      obtain ⟨rfl, rfl⟩ := same
      exact stage envelope stage' serving
    | inr differ => exact inv.stage j other envelope stage' differ.2 serving
  outcomes := by rw [outcomes]; exact inv.outcomes

theorem served_loading : (Stage.loading : Stage P A R E).Served := by
  intro outcome member
  cases member

theorem Answering.serve (inv : Answering s) {i max : Nat} {r : Runner P A R E} {envelope : Envelope P A R}
    {stage stage' : Stage P A R E} {choice : Choice P A E} {vault : Vault P R E} {player : Option Nat}
    (isRunner : s.runners[i]? = some r) (serving : r.phase = .serving envelope stage)
    (taken : s.vault.serve max i r.gid envelope r.player stage choice = some (vault, player, stage')) :
    stage'.Served := by
  have before := inv.stage i r envelope stage isRunner serving
  obtain ⟨c, cell, _, _, found, taken⟩ | ⟨_, rfl, _, loaded⟩ | ⟨state, _, rfl, _, _, rfl⟩ :=
    Vault.serve_cases taken
  · exact (Vault.serveCell_cases found taken).1.served before
  · obtain ⟨c, _, _, rfl⟩ | ⟨error, _, rfl⟩ | ⟨state, _, _, _, rfl⟩ := loaded
    · intro outcome member
      cases member
    · intro outcome member
      obtain rfl := Option.some.inj member
      cases error <;> trivial
    · intro outcome member
      cases member
  · intro outcome member
    cases member

theorem Answering.step (inv : Answering s) (taken : Step config.toLogicConfig s t) : Answering t := by
  cases taken with
  | spawn found spawning =>
    refine { inv with stage := ?_ }
    intro j r envelope stage there serving
    cases Pool.get_append_cases there with
    | inl new =>
      obtain ⟨_, rfl⟩ := new
      cases serving
    | inr old => exact inv.stage j r envelope stage old.2 serving
  | take =>
    refine inv.setRunner rfl rfl ?_
    intro envelope stage serving
    cases serving
    exact served_loading
  | serve isRunner serving taken =>
    refine inv.setRunner rfl rfl ?_
    intro envelope stage same
    cases same
    exact inv.serve isRunner serving taken
  | @finish i r envelope outcome isRunner finishing =>
    have answered := inv.stage i r envelope _ isRunner finishing outcome rfl
    have moved : Answering (s.setRunner i r (.completing envelope)) :=
      inv.setRunner rfl rfl (by simp)
    refine { moved with outcomes := ?_ }
    intro gid answer member
    change answer ∈ Function.update s.outcomes _ _ _ at member
    by_cases same : gid = r.gid
    · subst same
      rw [Function.update_self, List.mem_append, List.mem_singleton] at member
      cases member with
      | inl before => exact inv.outcomes r.gid answer before
      | inr isNew =>
        subst isNew
        exact answered
    · rw [Function.update_of_ne same] at member
      exact inv.outcomes gid answer member
  | completeNext => exact inv.setRunner rfl rfl (by simp)
  | completeLast => exact inv.setRunner rfl rfl (by simp)
  | drop => exact inv.setRunner rfl rfl (by simp)
  | dropKib => exact inv.setRunner rfl rfl (by simp)
  | notifyNext =>
    refine inv.setRunner rfl rfl ?_
    intro envelope stage serving
    cases serving
    exact served_loading
  | notifyLast => exact inv.setRunner rfl rfl (by simp)
  | peek => exact inv.setRunner rfl rfl (by simp)
  | peekNone => exact inv.setRunner rfl rfl (by simp)
  | insert => exact inv.setRunner rfl rfl (by simp)
  | retire => exact inv.setRunner rfl rfl (by simp)
  | leave => exact inv.setRunner rfl rfl (by simp)
  | push =>
    split
    · exact ⟨inv.stage, inv.outcomes⟩
    · exact ⟨inv.stage, inv.outcomes⟩
  | refuse =>
    split
    · exact ⟨inv.stage, inv.outcomes⟩
    · exact ⟨inv.stage, inv.outcomes⟩
  | _ => exact ⟨inv.stage, inv.outcomes⟩

/-! ## Assertions -/

/-- No assertion of a runner fires. -/
theorem Served.noFault (served : Served config s) (before : s.faults = [])
    (taken : Step config.toLogicConfig s t) : t.faults = [] := by
  have ofRunner : ∀ {i : Nat} {r : Runner P A R E}, s.runners[i]? = some r → r.phase.owns = true →
      s.directory r.gid = some r.slot := fun isRunner owns => served.owned.ofRunner _ _ isRunner owns
  have mailbox : ∀ {i : Nat} {r : Runner P A R E} {slot : KeySlot P A R}, s.runners[i]? = some r →
      r.phase.owns = true → s.slots[r.slot]? = some slot → (s.desk r.gid).mailbox = some slot :=
    fun isRunner owns there => desk_mailbox (ofRunner isRunner owns) there
  cases taken with
  | @lostSlot i r isRunner phase lost =>
    have owns : r.phase.owns = true := by
      obtain taking | ⟨envelope, completing⟩ | checking := phase
      · rw [taking]; rfl
      · rw [completing]; rfl
      · rw [checking]; rfl
    exact absurd (ofRunner isRunner owns) lost
  | @slotDisappeared i r isRunner checking gone =>
    have mapped := ofRunner isRunner (by rw [checking]; rfl)
    rw [gone] at mapped
    cases mapped
  | @emptyMailbox i r slot isRunner taking there isEmpty =>
    have owns : r.phase.owns = true := by rw [taking]; rfl
    refine absurd ?_ ((served.dispatched.runner i r isRunner owns).2 taking)
    rw [Desk.queue, mailbox isRunner owns there]
    exact isEmpty
  | @inflightAtRetirement i r slot isRunner checking there isEmpty inflight =>
    have owns : r.phase.owns = true := by rw [checking]; rfl
    have keeps := (served.dispatched.runner i r isRunner owns).1
    rw [checking] at keeps
    have calls := keeps.calls slot (mailbox isRunner owns there)
    have kib := (keeps.kib slot (mailbox isRunner owns there)).1
    rw [isEmpty] at calls kib
    exact absurd ⟨UInt64.toNat_inj.mp calls, UInt64.toNat_inj.mp kib⟩ inflight
  | @differentGeneration i c resident r isRunner retiring player isResident differ =>
    have owns : r.phase.owns = true := by rw [retiring]; rfl
    exact absurd (served.located.generation i r c resident isRunner owns player isResident) differ
  | push =>
    split
    · exact before
    · exact before
  | refuse =>
    split
    · exact before
    · exact before
  | _ => exact before

/-! ## Progress -/

/-- A bound on the steps that are left for the commands of a player.  A queued
    command weighs more than all phases of a runner. -/
def work (s : Runtime P A R E) (gid : Gid) : Nat :=
  32 * (s.desk gid).queue.length + Pool.total (Runner.work gid) s.runners
    + Pool.total (Enqueue.work gid) s.enqueues

/-- The step brings the commands of the player forward, or does not touch its runner. -/
def Lowers (s t : Runtime P A R E) (gid : Gid) : Prop :=
  t.work gid < s.work gid
    ∨ t.work gid ≤ s.work gid ∧ ∀ (i : Nat) r, s.runners[i]? = some r → r.gid = gid → t.runners[i]? = some r

theorem Lowers.frame {gid : Gid} (runners : t.runners = s.runners)
    (enqueues : Pool.total (Enqueue.work gid) t.enqueues ≤ Pool.total (Enqueue.work gid) s.enqueues)
    (queue : (t.desk gid).queue.length ≤ (s.desk gid).queue.length) : Lowers s t gid := by
  refine .inr ⟨?_, by intro i r found _; rw [runners]; exact found⟩
  simp only [Runtime.work, runners]
  omega

/-- An `enqueue` moves on and no command is added. -/
theorem Lowers.setEnqueue {gid : Gid} {i : Nat} {e e' : Enqueue P A R} (found : s.enqueues[i]? = some e)
    (enqueues : t.enqueues = s.enqueues.set i e') (runners : t.runners = s.runners)
    (same : e'.gid = e.gid) (rank : e'.phase.rank ≤ e.phase.rank)
    (queue : (t.desk gid).queue.length ≤ (s.desk gid).queue.length) : Lowers s t gid := by
  refine .frame runners ?_ queue
  have total := Pool.total_set (Enqueue.work gid) e' found
  have less : e'.work gid ≤ e.work gid := by
    simp only [Enqueue.work, same]
    split <;> omega
  rw [enqueues]
  omega

theorem Lowers.setRunner {gid : Gid} {i : Nat} {r r' : Runner P A R E} (isRunner : s.runners[i]? = some r)
    (runners : t.runners = s.runners.set i r') (enqueues : t.enqueues = s.enqueues)
    (same : r'.gid = r.gid) (others : ∀ gid, gid ≠ r.gid → (t.desk gid).mailbox = (s.desk gid).mailbox)
    (less : 32 * (t.desk r.gid).queue.length + r'.phase.rank
      < 32 * (s.desk r.gid).queue.length + r.phase.rank) : Lowers s t gid := by
  have total := Pool.total_set (Runner.work gid) r' isRunner
  by_cases mine : gid = r.gid
  · refine .inl ?_
    subst mine
    have before : r.work r.gid = r.phase.rank := by simp [Runner.work]
    have after : r'.work r.gid = r'.phase.rank := by simp [Runner.work, same]
    simp only [Runtime.work, runners, enqueues]
    omega
  · refine .inr ⟨?_, ?_⟩
    · have before : r.work gid = 0 := by simp [Runner.work, Ne.symm mine]
      have after : r'.work gid = 0 := by simp [Runner.work, same, Ne.symm mine]
      simp only [Runtime.work, runners, enqueues, Desk.queue, others gid mine]
      omega
    · intro j other there isGid
      rw [runners, Pool.get_set_ne]
      · exact there
      · intro atJ
        subst atJ
        rw [isRunner] at there
        obtain rfl := Option.some.inj there
        exact mine isGid.symm

/-- The runner moves on with what it has in its hands. -/
theorem Lowers.move {gid : Gid} {i : Nat} {r r' : Runner P A R E} (isRunner : s.runners[i]? = some r)
    (runners : t.runners = s.runners.set i r') (enqueues : t.enqueues = s.enqueues)
    (same : r'.gid = r.gid) (mailbox : ∀ gid, (t.desk gid).mailbox = (s.desk gid).mailbox)
    (less : r'.phase.rank < r.phase.rank) : Lowers s t gid := by
  refine .setRunner isRunner runners enqueues same (fun gid _ => mailbox gid) ?_
  simp only [Desk.queue, mailbox]
  omega

theorem serve_rank {max me : Nat} {gid : Gid} {envelope : Envelope P A R} {player player' : Option Nat}
    {stage stage' : Stage P A R E} {choice : Choice P A E} {v v' : Vault P R E}
    (taken : v.serve max me gid envelope player stage choice = some (v', player', stage'))
    (faults : v'.faults = v.faults) : stage'.rank < stage.rank := by
  obtain ⟨c, cell, _, _, found, taken⟩ | ⟨_, rfl, _, loaded⟩ | ⟨state, _, rfl, _, _, rfl⟩ :=
    Vault.serve_cases taken
  · exact (Vault.serveCell_cases found taken).1.rank faults
  · obtain ⟨c, _, _, rfl⟩ | ⟨error, _, rfl⟩ | ⟨state, _, _, _, rfl⟩ := loaded
    · simp [Stage.rank]
    · simp [Stage.rank]
    · simp [Stage.rank]
  · simp [Stage.rank]

theorem Served.lowers (served : Served config s) (quiet : s.vault.faults = []) (quiet' : t.vault.faults = [])
    (taken : Step config.toLogicConfig s t) {gid : Gid} (accepted : t.accepted gid = s.accepted gid) :
    Lowers s t gid := by
  -- the runner takes a command out of its mailbox
  have popped : ∀ {u : Runtime P A R E} {i : Nat} {r : Runner P A R E} {phase : RunnerPhase P A R E}
      {slot slot' : KeySlot P A R}, s.runners[i]? = some r → s.directory r.gid = some r.slot →
      s.slots[r.slot]? = some slot → u.runners = s.runners.set i { r with phase := phase } →
      u.enqueues = s.enqueues → u.directory = s.directory → u.slots = s.slots.set r.slot slot' →
      32 * slot'.queue.length + phase.rank < 32 * slot.queue.length + r.phase.rank → Lowers s u gid := by
    intro u i r phase slot slot' isRunner mapped there runners enqueues directory slots less
    refine .setRunner isRunner runners enqueues rfl ?_ ?_
    · intro g differ
      simp only [Runtime.desk, directory, slots]
      exact served.owned.mailbox_set_ne _ mapped differ
    · have after : (u.desk r.gid).mailbox = some slot' := by
        simp only [Runtime.desk, directory, slots]
        exact mailbox_set_self _ mapped there
      simp only [Desk.queue, after, desk_mailbox mapped there, Option.elim_some]
      exact less
  -- a slot goes with its mailbox
  have removed : ∀ {u : Runtime P A R E} {g : Gid}, u.directory = Function.update s.directory g none →
      u.slots = s.slots → (u.desk gid).queue.length ≤ (s.desk gid).queue.length := by
    intro u g directory slots
    by_cases same : gid = g
    · simp [Desk.queue, Runtime.desk, directory, same]
    · simp only [Desk.queue, Runtime.desk, directory, slots, Function.update_of_ne same]
      omega
  cases taken with
  | @tryUse _ _ _ pool _ =>
    refine .frame rfl ?_ (Nat.le_refl _)
    simp [Enqueue.work, EnqueuePhase.rank]
  | full found calling => exact .setEnqueue found rfl rfl rfl (Nat.zero_le _) (Nat.le_refl _)
  | lock found calling => exact .setEnqueue found rfl rfl rfl (Nat.zero_le _) (Nat.le_refl _)
  | @lockNew i e found calling isFree unmapped =>
    refine .setEnqueue found rfl rfl rfl (Nat.zero_le _) ?_
    by_cases same : gid = e.gid
    · simp [Desk.queue, Runtime.desk, Runtime.setEnqueue, same]
    · simp only [Desk.queue, Runtime.desk, Runtime.setEnqueue, Function.update_of_ne same]
      cases mapped : s.directory gid with
      | none => simp
      | some m =>
        have known := served.owned.slots gid m mapped
        have inside := Pool.lt_length known
        rw [List.length_map] at inside
        simp only [Option.bind_some, List.getElem?_append_left inside]
        omega
  | acquire => exact .frame rfl (Nat.le_refl _) (Nat.le_refl _)
  | @push i m spawnRunner e slot holder found acquiring isHolder granted there =>
    have mapped := served.owned.ofEnqueue i e m found (by rw [acquiring]; rfl)
    have differ : gid ≠ e.gid := by
      intro same
      subst same
      cases spawnRunner with
      | true => simp [Runtime.push, Runtime.setEnqueue] at accepted
      | false => simp [Runtime.push, Runtime.setEnqueue, Runtime.unlock] at accepted
    have untouched : ∀ {u : Runtime P A R E} {e' : Enqueue P A R}, u.directory = s.directory →
        u.slots = (s.push i e m slot).slots → u.runners = s.runners →
        u.enqueues = s.enqueues.set i e' → e'.gid = e.gid → Lowers s u gid := by
      intro u e' directory slots runners enqueues same
      refine .frame runners ?_ ?_
      · have total := Pool.total_set (Enqueue.work gid) e' found
        have before : e.work gid = 0 := by simp [Enqueue.work, differ.symm]
        have after : e'.work gid = 0 := by simp [Enqueue.work, same, differ.symm]
        rw [enqueues]
        omega
      · simp only [Desk.queue, Runtime.desk, directory, slots, Runtime.push,
          served.owned.mailbox_set_ne _ mapped differ]
        omega
    cases spawnRunner with
    | true => exact untouched rfl rfl rfl rfl rfl
    | false => exact untouched rfl rfl rfl rfl rfl
  | @refuse i m spawnRunner e reason holder found acquiring =>
    cases spawnRunner with
    | true => exact .setEnqueue found rfl rfl rfl (Nat.zero_le _) (removed rfl rfl)
    | false => exact .setEnqueue found rfl rfl rfl (Nat.zero_le _) (Nat.le_refl _)
  | count found counting =>
    refine .setEnqueue found rfl rfl rfl ?_ (Nat.le_refl _)
    rw [counting]
    simp [EnqueuePhase.rank]
  | @spawn i m e found spawning =>
    refine .inr ⟨?_, fun j r there _ => Pool.get_append_of_some _ there⟩
    have total := Pool.total_set (Enqueue.work gid) { e with phase := .accepted } found
    have handed : Runner.work gid (⟨e.gid, m, none, .taking⟩ : Runner P A R E)
        + Enqueue.work gid { e with phase := .accepted } ≤ e.work gid := by
      simp only [Runner.work, Enqueue.work, spawning, EnqueuePhase.rank, RunnerPhase.rank]
      split <;> omega
    change 32 * (s.desk gid).queue.length + Pool.total (Runner.work gid) (s.runners ++ [_])
      + Pool.total (Enqueue.work gid) (s.enqueues.set i { e with phase := .accepted }) ≤ s.work gid
    simp only [Runtime.work, Pool.total_append, Pool.total_cons, Pool.total_nil]
    omega
  | take isRunner either isFree mapped there queue =>
    refine popped isRunner mapped there rfl rfl rfl rfl ?_
    simp only [queue, List.length_cons, RunnerPhase.rank, Stage.rank]
    omega
  | serve isRunner serving served' =>
    refine .move isRunner rfl rfl rfl (fun _ => rfl) ?_
    have less := serve_rank served' (quiet'.trans quiet.symm)
    rw [serving]
    simp only [RunnerPhase.rank]
    omega
  | finish isRunner finishing =>
    refine .move isRunner rfl rfl rfl (fun _ => rfl) ?_
    rw [finishing]
    simp [RunnerPhase.rank, Stage.rank]
  | completeNext isRunner completing isFree mapped there queue =>
    refine popped isRunner mapped there rfl rfl rfl rfl ?_
    simp only [queue, List.length_cons, completing, RunnerPhase.rank]
    omega
  | completeLast isRunner completing isFree mapped there queue =>
    refine popped isRunner mapped there rfl rfl rfl rfl ?_
    simp [KeySlot.release, completing, RunnerPhase.rank]
  | @drop i id r next pool isRunner dropping =>
    refine .move isRunner rfl rfl rfl (fun _ => rfl) ?_
    rw [dropping]
    cases next <;> simp [RunnerPhase.rank]
  | @dropKib i id r next pool isRunner dropping =>
    refine .move isRunner rfl rfl rfl (fun _ => rfl) ?_
    rw [dropping]
    cases next <;> simp [RunnerPhase.rank]
  | notifyNext isRunner notifying =>
    refine .move isRunner rfl rfl rfl (fun _ => rfl) ?_
    rw [notifying]
    simp [RunnerPhase.rank, Stage.rank]
  | notifyLast isRunner notifying =>
    refine .move isRunner rfl rfl rfl (fun _ => rfl) ?_
    rw [notifying]
    simp [RunnerPhase.rank]
  | peek isRunner retiring =>
    refine .move isRunner rfl rfl rfl (fun _ => rfl) ?_
    rw [retiring]
    simp [RunnerPhase.rank]
  | peekNone isRunner retiring =>
    refine .move isRunner rfl rfl rfl (fun _ => rfl) ?_
    rw [retiring]
    simp [RunnerPhase.rank]
  | insert ok isRunner inserting =>
    refine .move isRunner rfl rfl rfl (fun _ => rfl) ?_
    rw [inserting]
    simp [RunnerPhase.rank]
  | @retire i r slot isRunner checking isFree mapped there queue =>
    refine .setRunner isRunner rfl rfl rfl ?_ ?_
    · intro g differ
      simp only [Runtime.desk, Runtime.setRunner, Function.update_of_ne differ]
    · rw [checking]
      simp [Desk.queue, Runtime.desk, Runtime.setRunner, RunnerPhase.rank]
  | leave isRunner leaving =>
    refine .move isRunner rfl rfl rfl (fun _ => rfl) ?_
    rw [leaving]
    simp [RunnerPhase.rank]
  | _ => exact .frame rfl (Nat.le_refl _) (Nat.le_refl _)

/-- A runner that makes a step moves, unless an assertion fails. -/
theorem run_moves {config : LogicConfig} {i : Nat} {r : Runner P A R E} {choice : Choice P A E} {ok : Bool}
    (isRunner : s.runners[i]? = some r) (faults : t.faults = s.faults)
    (vaultFaults : t.vault.faults = s.vault.faults) (taken : s.run config i r choice ok = some t) :
    t.runners[i]? ≠ some r ∧ t.accepted = s.accepted := by
  have moves : ∀ {u : Runtime P A R E} {r' : Runner P A R E}, u.runners = s.runners.set i r' →
      r'.phase ≠ r.phase → u.accepted = s.accepted → u.runners[i]? ≠ some r ∧ u.accepted = s.accepted := by
    intro u r' runners differ accepted
    refine ⟨?_, accepted⟩
    rw [runners, Pool.get_set_self _ isRunner]
    intro same
    rw [Option.some.inj same] at differ
    exact differ rfl
  have fails : ∀ {u : Runtime P A R E} {fault : Fault}, u = s.fault fault → u.faults ≠ s.faults := by
    intro u fault same
    simp [same, Runtime.fault]
  cases runs_of_run taken with
  | take either _ _ _ _ =>
    refine moves rfl ?_ rfl
    cases either with
    | inl taking => simp [taking]
    | inr checking => simp [checking]
  | serve serving served =>
    refine moves rfl ?_ rfl
    rw [serving]
    intro same
    have less := serve_rank served vaultFaults
    simp only [RunnerPhase.serving.injEq, true_and] at same
    rw [same] at less
    exact Nat.lt_irrefl _ less
  | finish finishing => exact moves rfl (by simp [finishing]) rfl
  | completeNext completing _ _ _ _ => exact moves rfl (by simp [completing]) rfl
  | completeLast completing _ _ _ _ => exact moves rfl (by simp [completing]) rfl
  | drop dropping _ => exact moves rfl (by simp [dropping]) rfl
  | dropKib dropping _ => exact moves rfl (by simp [dropping]) rfl
  | notifyNext notifying => exact moves rfl (by simp [notifying]) rfl
  | notifyLast notifying => exact moves rfl (by simp [notifying]) rfl
  | peek retiring _ => exact moves rfl (by simp [retiring]) rfl
  | peekNone retiring _ _ => exact moves rfl (by simp [retiring]) rfl
  | insert inserting => exact moves rfl (by simp [inserting]) rfl
  | retire checking _ _ _ _ => exact moves rfl (by simp [checking]) rfl
  | leave leaving => exact moves rfl (by simp [leaving]) rfl
  | lostSlot _ _ => exact absurd faults (fails rfl)
  | slotDisappeared _ _ => exact absurd faults (fails rfl)
  | emptyMailbox _ _ _ => exact absurd faults (fails rfl)
  | inflightAtRetirement _ _ _ _ => exact absurd faults (fails rfl)
  | differentGeneration _ _ _ _ => exact absurd faults (fails rfl)

/-- The runner can go on by itself or with any answer that it waits for, or it
    waits for a lock whose holder can go on, or for a saver that holds its gate. -/
inductive Goes (config : LogicConfig) (s : Runtime P A R E) (i : Nat) (r : Runner P A R E) : Prop
  | itself (moves : (s.run config i r .go true).isSome = true)
  | answered (envelope : Envelope P A R) (stage : Stage P A R E) (serving : r.phase = .serving envelope stage)
      (asks : stage.asks = true)
      (moves : ∀ choice, stage.Hears choice → (s.run config i r choice true).isSome = true)
  | locked (holder : LockHolder) (held : s.locks (config.directory r.gid) = some holder)
      (moves : ∃ label ∈ LockHolder.next holder, (s.step config label).isSome = true)
  | gated (envelope : Envelope P A R) (c k : Nat) (saver : Saver E)
      (serving : r.phase = .serving envelope .gating) (player : r.player = some c)
      (isSaver : s.vault.savers[k]? = some saver) (held : c ∈ saver.held)

/-- With its player a command can always go on. -/
theorem serveCell_goes (max me : Nat) (v : Vault P R E) (c : Nat) (cell : PlayerCell P)
    (envelope : Envelope P A R) (stage : Stage P A R E) (loaded : stage.isFetched = false)
    (unfinished : ∀ outcome, stage ≠ .finishing outcome) :
    (v.serveCell max me envelope c cell stage .go).isSome = true
    ∨ (stage.asks = true
      ∧ ∀ choice, stage.Hears choice → (v.serveCell max me envelope c cell stage choice).isSome = true)
    ∨ (stage = .gating ∧ cell.saveGate ≠ none) := by
  cases stage with
  | fetched state => cases loaded
  | finishing outcome => exact absurd rfl (unfinished outcome)
  | gating =>
    cases gate : cell.saveGate with
    | none => exact .inl (by simp [Vault.serveCell, gate])
    | some holder => exact .inr (.inr ⟨rfl, by simp⟩)
  | gated =>
    refine .inl ?_
    simp only [Vault.serveCell]
    split
    · rfl
    · split <;> rfl
  | reserved permit =>
    refine .inl ?_
    simp only [Vault.serveCell]
    split <;> rfl
  | preloading permit logic seen =>
    refine .inr (.inl ⟨rfl, ?_⟩)
    intro choice hears
    cases choice with
    | preloaded value => rfl
    | preloadFailed error => rfl
    | _ => cases hears
  | executed permit value =>
    refine .inl ?_
    simp only [Vault.serveCell]
    split <;> rfl
  | refreshing after =>
    refine .inl ?_
    simp only [Vault.serveCell]
    split <;> rfl
  | marking dirty after => cases after <;> exact .inl rfl
  | dropping permit onward =>
    refine .inl ?_
    simp only [Vault.serveCell]
    split
    · split <;> rfl
    · rfl
  | saving value =>
    cases isDirty : cell.dirty with
    | false => exact .inl (by simp [Vault.serveCell, isDirty])
    | true =>
      refine .inr (.inl ⟨rfl, ?_⟩)
      intro choice hears
      cases choice with
      | saved state wrote result => simp [Vault.serveCell, isDirty]
      | _ => cases hears
  | loading | ready | releasing => exact .inl rfl

/-- Only a saver keeps a runner from the gate of its player. -/
theorem Served.gate_of_saver (served : Served config s) (agree : SlotsAgree config.toLogicConfig s)
    (gates : GatesHeld s) {i c : Nat} {r : Runner P A R E} {envelope : Envelope P A R}
    {cell : PlayerCell P} (isRunner : s.runners[i]? = some r) (gating : r.phase = .serving envelope .gating)
    (player : r.player = some c) (found : s.vault.cells[c]? = some cell) (held : cell.saveGate ≠ none) :
    ∃ (k : Nat) (saver : Saver E), s.vault.savers[k]? = some saver ∧ c ∈ saver.held := by
  cases gate : cell.saveGate with
  | none => exact absurd gate held
  | some holder =>
    cases holder with
    | saver k =>
      obtain ⟨saver, isSaver, isHeld⟩ := Slotted.heldBySaver agree c cell k found gate
      exact ⟨k, saver, isSaver, isHeld⟩
    | runner j =>
      -- the holder would be the runner itself, which does not hold its gate yet
      obtain ⟨other, stage, there, isHeld⟩ := gates c cell j found gate
      have facts : other.player = some c ∧ other.phase.owns = true := by
        unfold Runner.held at isHeld
        split at isHeld
        case h_1 envelope stage d serving isPlayer =>
          split at isHeld
          · cases isHeld
            exact ⟨isPlayer, by rw [serving]; rfl⟩
          · cases isHeld
        case h_2 => cases isHeld
      have mine := served.located.player i r c isRunner player
      have theirs := served.located.player j other c there facts.1
      rw [mine] at theirs
      obtain ⟨rfl, rfl⟩ := served.owned.runner_eq isRunner there (by rw [gating]; rfl) facts.2
        (Option.some.inj theirs)
      simp [Runner.held, gating, player, Stage.holdsGate] at isHeld

/-- A runner that has a command is never stuck by itself. -/
theorem Served.goes_serving (served : Served config s) (agree : SlotsAgree config.toLogicConfig s)
    (gates : GatesHeld s) {i : Nat} {r : Runner P A R E}
    {envelope : Envelope P A R} {stage : Stage P A R E} (isRunner : s.runners[i]? = some r)
    (phase : r.phase = .serving envelope stage) : Goes config.toLogicConfig s i r := by
  have placed := served.located.placed i r envelope stage isRunner phase
  by_cases finishing : ∃ outcome, stage = .finishing outcome
  case pos =>
    obtain ⟨outcome, rfl⟩ := finishing
    exact .itself (by simp [Runtime.run, phase])
  case neg =>
    have unfinished : ∀ outcome, stage ≠ .finishing outcome := by
      intro outcome same
      exact finishing ⟨outcome, same⟩
    have isStage : ∀ choice : Choice P A E, s.run config.toLogicConfig i r choice true
        = s.serve config.toLogicConfig i r envelope stage choice := by
      intro choice
      simp only [Runtime.run, phase]
    cases isPlayer : r.player with
    | none =>
      rw [isPlayer] at placed
      cases stage with
      | loading =>
        cases cached : s.vault.cache r.gid with
        | some c =>
          refine .itself ?_
          rw [isStage]
          simp [Runtime.serve, isPlayer, Vault.serve, Vault.load, cached]
        | none =>
          refine .answered envelope .loading phase rfl ?_
          intro choice hears
          rw [isStage]
          cases choice with
          | fetched state => simp [Runtime.serve, isPlayer, Vault.serve, Vault.load, cached]
          | cacheError error => simp [Runtime.serve, isPlayer, Vault.serve, Vault.load]
          | _ => cases hears
      | fetched state =>
        refine .itself ?_
        rw [isStage]
        simp [Runtime.serve, isPlayer, Vault.serve]
      | finishing outcome => exact absurd rfl (unfinished outcome)
      | _ => cases placed
    | some c =>
      have known := served.located.player i r c isRunner isPlayer
      rw [Vault.gids, List.getElem?_map, Option.map_eq_some_iff] at known
      obtain ⟨cell, found, _⟩ := known
      have loaded : stage.isFetched = false := by
        rw [isPlayer] at placed
        cases stage with
        | fetched => cases placed
        | _ => rfl
      have moves : ∀ {choice : Choice P A E}, (s.vault.serveCell config.maxDirtyPlayers.toNat i envelope c
          cell stage choice).isSome = true → (s.run config.toLogicConfig i r choice true).isSome = true := by
        intro choice goes
        rw [isStage]
        simp only [Runtime.serve, isPlayer, Vault.serve, found, Option.bind_some, Option.isSome_map]
        exact goes
      obtain goes | ⟨asks, hears⟩ | ⟨rfl, held⟩ :=
        serveCell_goes config.maxDirtyPlayers.toNat i s.vault c cell envelope stage loaded unfinished
      · exact .itself (moves goes)
      · exact .answered envelope stage phase asks (fun choice heard => moves (hears choice heard))
      · obtain ⟨k, saver, isSaver, isHeld⟩ :=
          served.gate_of_saver agree gates isRunner phase isPlayer found held
        exact .gated envelope c k saver phase isPlayer isSaver isHeld

theorem Served.goes (served : Served config s) (agree : SlotsAgree config.toLogicConfig s)
    (gates : GatesHeld s) (locks : LocksHeld config.toLogicConfig s) {i : Nat} {r : Runner P A R E}
    (isRunner : s.runners[i]? = some r) (alive : r.phase.alive = true) : Goes config.toLogicConfig s i r := by
  have mailbox : r.phase.owns = true → s.directory r.gid = some r.slot
      ∧ ∃ slot, s.slots[r.slot]? = some slot := by
    intro owns
    have mapped := served.owned.ofRunner i r isRunner owns
    have known := served.owned.slots r.gid r.slot mapped
    rw [List.getElem?_map, Option.map_eq_some_iff] at known
    obtain ⟨slot, there, _⟩ := known
    exact ⟨mapped, slot, there⟩
  cases isFree : s.locks (config.directory r.gid) with
  | some holder => exact .locked holder isFree (served.holder_goes locks isFree)
  | none =>
    cases phase : r.phase with
    | done =>
      rw [phase] at alive
      cases alive
    | taking =>
      obtain ⟨mapped, slot, there⟩ := mailbox (by rw [phase]; rfl)
      exact .itself (by simp [Runtime.run, phase, isFree, Runtime.takeNext, mapped, there])
    | serving envelope stage => exact served.goes_serving agree gates isRunner phase
    | completing envelope =>
      obtain ⟨mapped, slot, there⟩ := mailbox (by rw [phase]; rfl)
      exact .itself (by simp [Runtime.run, phase, isFree, Runtime.completeAndTakeNext, mapped, there])
    | dropping id next =>
      have holds := served.permitted.live i r id isRunner (by rw [phase]; simp [RunnerPhase.live])
      obtain ⟨⟨retained, isPhase⟩, isHolder, same⟩ := Option.map_eq_some_iff.mp holds
      cases same
      exact .itself (by simp [Runtime.run, phase, AdmissionPool.step, AdmissionPool.drop, isHolder])
    | droppingKib id next =>
      have holds := served.permitted.half i r id isRunner (by rw [phase]; simp [RunnerPhase.half])
      obtain ⟨⟨retained, isPhase⟩, isHolder, same⟩ := Option.map_eq_some_iff.mp holds
      cases same
      exact .itself (by simp [Runtime.run, phase, AdmissionPool.step, AdmissionPool.tick, isHolder])
    | checking =>
      obtain ⟨mapped, slot, there⟩ := mailbox (by rw [phase]; rfl)
      exact .itself (by simp [Runtime.run, phase, isFree, Runtime.retireOrTakeNext, mapped, there])
    | notifying next => exact .itself (by simp [Runtime.run, phase])
    | retiring => exact .itself (by simp [Runtime.run, phase])
    | inserting c => exact .itself (by simp [Runtime.run, phase])
    | leaving => exact .itself (by simp [Runtime.run, phase])

/-! ## The main result -/

def answered (s : Runtime P A R E) (gid : Gid) : List Nat := (s.outcomes gid).map Prod.fst

def executed (s : Runtime P A R E) (gid : Gid) : List Nat := (s.vault.executions gid).map Execution.id

/-- An outcome is final. -/
theorem outcomes_step (taken : Step config.toLogicConfig s t) (gid : Gid) : s.outcomes gid <+: t.outcomes gid := by
  cases taken with
  | @finish i r envelope outcome =>
    change _ <+: Function.update s.outcomes _ _ gid
    by_cases same : gid = r.gid
    · subst same
      rw [Function.update_self]
      exact List.prefix_append ..
    · rw [Function.update_of_ne same]
  | push => split <;> exact List.prefix_rfl
  | refuse => split <;> exact List.prefix_rfl
  | _ => exact List.prefix_rfl

theorem outcomes_run (run : (system P A R E config).Run System.Any s t) (gid : Gid) :
    s.outcomes gid <+: t.outcomes gid := by
  refine run.inv (I := fun t => s.outcomes gid <+: t.outcomes gid) ?_ List.prefix_rfl
  intro u l w before _ taken
  exact before.trans (outcomes_step (step_sound taken) gid)

/-- The slot of the directory has an owner. -/
theorem Owned.owner (owned : Owned config.toLogicConfig s) {gid : Gid} {m : Nat}
    (mapped : s.directory gid = some m) :
    (∃ (i : Nat) (e : Enqueue P A R), s.enqueues[i]? = some e ∧ e.gid = gid ∧ e.phase.owns = true)
    ∨ ∃ (i : Nat) (r : Runner P A R E), s.runners[i]? = some r ∧ r.gid = gid ∧ r.phase.owns = true := by
  have one := owned.owners gid
  simp only [mapped, Option.isSome_some, if_true, Runtime.owners] at one
  by_cases enqueued : 0 < Pool.total (Enqueue.owner gid) s.enqueues
  · obtain ⟨i, e, found, positive⟩ := Pool.exists_weight enqueued
    simp only [Enqueue.owner] at positive
    split at positive
    case isTrue owns => exact .inl ⟨i, e, found, owns.2, owns.1⟩
    case isFalse => omega
  · have running : 0 < Pool.total (Runner.owner gid) s.runners := by omega
    obtain ⟨i, r, found, positive⟩ := Pool.exists_weight running
    simp only [Runner.owner] at positive
    split at positive
    case isTrue owns => exact .inr ⟨i, r, found, owns.2, owns.1⟩
    case isFalse => omega

/-- A mailbox that is not empty has a runner, or an `enqueue` that is about to spawn it. -/
theorem Served.attended (served : Served config s) {gid : Gid} (nonempty : (s.desk gid).queue ≠ []) :
    ∃ m, s.directory gid = some m
      ∧ ((∃ (i : Nat) (e : Enqueue P A R), s.enqueues[i]? = some e ∧ e.gid = gid
            ∧ (e.phase = .counting m ∨ e.phase = .spawning m))
        ∨ ∃ (i : Nat) (r : Runner P A R E), s.runners[i]? = some r ∧ r.gid = gid ∧ r.slot = m
            ∧ r.phase.owns = true) := by
  cases mapped : s.directory gid with
  | none => simp [Desk.queue, Runtime.desk, mapped] at nonempty
  | some m =>
    refine ⟨m, rfl, ?_⟩
    obtain ⟨i, e, found, rfl, owns⟩ | ⟨i, r, found, rfl, owns⟩ := served.owned.owner mapped
    · have expected := served.dispatched.enqueue i e found
      have isSlot : ∀ n, e.phase.slot = some n → n = m := by
        intro n slot
        have there := served.owned.ofEnqueue i e n found slot
        rw [mapped] at there
        exact (Option.some.inj there).symm
      refine .inl ⟨i, e, found, rfl, ?_⟩
      cases phase : e.phase with
      | acquiring n spawnRunner =>
        rw [phase] at owns expected
        exact absurd (expected.1 owns) nonempty
      | counting n =>
        rw [isSlot n (by rw [phase]; rfl)]
        exact .inl rfl
      | spawning n =>
        rw [isSlot n (by rw [phase]; rfl)]
        exact .inr rfl
      | _ =>
        rw [phase] at owns
        cases owns
    · have there := served.owned.ofRunner i r found owns
      rw [mapped] at there
      exact .inr ⟨i, r, found, rfl, (Option.some.inj there).symm, owns⟩

/-- What all invariants say together. -/
structure Serving (config : ValidConfig) (s : Runtime P A R E) : Prop where
  served : Served config s
  agree : SlotsAgree config.toLogicConfig s
  locks : LocksHeld config.toLogicConfig s
  gates : GatesHeld s
  filed : Filed s
  answering : Answering s
  noFault : s.faults = []

theorem serving_initial (config : ValidConfig) :
    Serving config (Runtime.initial config : Runtime P A R E) where
  served := served_initial config
  agree := slotted_initial
  locks := by intro shard holder held; cases held
  gates := by intro c cell i found; simp [Runtime.initial, Vault.initial] at found
  filed := by intro m slot found; simp [Runtime.initial] at found
  answering := ⟨by intro i r envelope stage found; simp [Runtime.initial] at found,
    by intro gid answer member; cases member⟩
  noFault := rfl

theorem Serving.step (inv : Serving config s) (taken : Step config.toLogicConfig s t) : Serving config t where
  served := inv.served.step taken
  agree := inv.agree.step taken
  locks := inv.locks.step taken
  gates := inv.gates.step (inv.agree.step taken) taken
  filed := inv.filed.step inv.served taken
  answering := inv.answering.step taken
  noFault := inv.served.noFault inv.noFault taken

theorem serving_reach {C : Runtime P A R E → Label P A R E → Prop}
    (reached : (system P A R E config).Reach C s) : Serving config s :=
  Step.inv (serving_initial config) (fun _ _ inv taken => inv.step taken) reached

theorem Serving.lowers (inv : Serving config s) {label : Label P A R E}
    (taken : s.step config.toLogicConfig label = some t) {gid : Gid}
    (accepted : t.accepted gid = s.accepted gid) : Lowers s t gid :=
  inv.served.lowers (Slotted.noFault inv.agree) (Slotted.noFault (inv.agree.step (step_sound taken)))
    (step_sound taken) accepted

/-- A step of its runner brings the player's commands forward. -/
theorem Serving.run_lowers (inv : Serving config s) {i : Nat} {r : Runner P A R E} {choice : Choice P A E}
    {ok : Bool} (isRunner : s.runners[i]? = some r)
    (taken : s.step config.toLogicConfig (.run i choice ok) = some t) : t.work r.gid < s.work r.gid := by
  have next := inv.step (step_sound taken)
  have run : s.run config.toLogicConfig i r choice ok = some t := by
    simpa [Runtime.step, isRunner] using taken
  obtain ⟨moved, accepted⟩ := run_moves isRunner (next.noFault.trans inv.noFault.symm)
    ((Slotted.noFault next.agree).trans (Slotted.noFault inv.agree).symm) run
  cases inv.lowers taken (congrFun accepted r.gid) with
  | inl less => exact less
  | inr unmoved => exact absurd (unmoved.2 i r isRunner rfl) moved

/-- The history of one player. -/
theorem Serving.history (inv : Serving config s) (gid : Gid) :
    ∃ h : Hands P A R, (s.desk gid).Keeps config.toLogicConfig h ∧ h.pending.length ≤ 1
      ∧ (h.ran = [] ∨ h.ran = h.pending.map Envelope.id)
      ∧ (s.Unserved gid → h = .empty) := by
  by_cases unserved : s.Unserved gid
  · exact ⟨.empty, inv.served.dispatched.idle gid unserved, by simp [Hands.empty], .inl rfl, fun _ => rfl⟩
  · have served := unserved
    simp only [Runtime.Unserved, not_forall, not_not] at served
    obtain ⟨i, r, isRunner, owns, same⟩ := served
    subst same
    refine ⟨_, (inv.served.dispatched.runner i r isRunner owns).1, ?_, ?_, fun none => absurd none unserved⟩
    · cases r.phase with
      | dropping id next | droppingKib id next | notifying next => cases next <;> simp [RunnerPhase.hands]
      | _ => simp [RunnerPhase.hands, Hands.empty]
    · cases r.phase with
      | serving envelope stage => cases ran : stage.ran <;> simp [RunnerPhase.hands, ran]
      | _ => exact .inl rfl

/-- Executed commands were started, and those that failed were not executed. -/
theorem Serving.executed_of (inv : Serving config s) (gid : Gid) :
    (s.executed gid).Sublist (s.started gid)
    ∧ (∀ id outcome, (id, outcome) ∈ s.outcomes gid → (id ∈ s.executed gid ↔ outcome.isCompleted = true)) := by
  obtain ⟨h, keeps, _, ran, _⟩ := inv.history gid
  have started : s.started gid = s.answered gid ++ h.pending.map Envelope.id := keeps.started
  have executed : s.executed gid
      = ((s.outcomes gid).filter (·.2.isCompleted)).map Prod.fst ++ h.ran := keeps.executed
  have accepted : s.accepted gid = s.started gid ++ (s.desk gid).queue.map Envelope.id := keeps.accepted
  have nodup := inv.served.numbered.nodup gid
  rw [accepted, List.nodup_append] at nodup
  have distinct := nodup.1
  rw [started, List.nodup_append] at distinct
  obtain ⟨once, _, apart⟩ := distinct
  refine ⟨?_, ?_⟩
  · rw [executed, started]
    apply List.Sublist.append
    · exact List.filter_sublist.map Prod.fst
    · cases ran with
      | inl none => rw [none]; exact List.nil_sublist _
      | inr all => rw [all]
  · intro id outcome member
    have isAnswered : id ∈ s.answered gid := List.mem_map_of_mem member
    rw [executed, List.mem_append, List.mem_map]
    constructor
    · intro either
      cases either with
      | inl completed =>
        obtain ⟨other, isOther, same⟩ := completed
        rw [List.mem_filter] at isOther
        -- the numbers of the answers are distinct, so it is the same answer
        have equal : other = (id, outcome) :=
          List.inj_on_of_nodup_map once isOther.1 member same
        rw [equal] at isOther
        exact isOther.2
      | inr running =>
        exfalso
        cases ran with
        | inl none =>
          rw [none] at running
          cases running
        | inr all =>
          rw [all] at running
          exact apart id isAnswered id running rfl
    · intro completed
      exact .inl ⟨(id, outcome), List.mem_filter.mpr ⟨member, completed⟩, rfl⟩

/-- Whose turn it is when a command of the player has no outcome yet. -/
theorem Serving.responsible (inv : Serving config s) {gid : Gid} (open' : s.answered gid ≠ s.accepted gid) :
    (∃ (i : Nat) (e : Enqueue P A R), s.enqueues[i]? = some e ∧ e.gid = gid
      ∧ ((s.step config.toLogicConfig (.count i)).isSome = true
        ∨ (s.step config.toLogicConfig (.spawn i)).isSome = true))
    ∨ ∃ (i : Nat) (r : Runner P A R E), s.runners[i]? = some r ∧ r.gid = gid ∧ r.phase.owns = true
      ∧ Goes config.toLogicConfig s i r := by
  have goes : ∀ {i : Nat} {r : Runner P A R E}, s.runners[i]? = some r → r.phase.owns = true →
      Goes config.toLogicConfig s i r := by
    intro i r isRunner owns
    refine inv.served.goes inv.agree inv.gates inv.locks isRunner ?_
    cases phase : r.phase with
    | done =>
      rw [phase] at owns
      cases owns
    | _ => rfl
  by_cases unserved : s.Unserved gid
  · have keeps := inv.served.dispatched.idle gid unserved
    have nonempty : (s.desk gid).queue ≠ [] := by
      intro isEmpty
      have accepted : s.accepted gid = s.started gid ++ (s.desk gid).queue.map Envelope.id := keeps.accepted
      have started : s.started gid = s.answered gid ++ [] := keeps.started
      rw [isEmpty, started] at accepted
      exact open' (by simpa using accepted.symm)
    obtain ⟨m, _, ⟨i, e, found, isGid, phase⟩ | ⟨i, r, found, isGid, _, owns⟩⟩ := inv.served.attended nonempty
    · refine .inl ⟨i, e, found, isGid, ?_⟩
      cases phase with
      | inl counting => exact .inl (by simp [Runtime.step, found, Runtime.count, counting])
      | inr spawning => exact .inr (by simp [Runtime.step, found, Runtime.spawn, spawning])
    · exact .inr ⟨i, r, found, isGid, owns, goes found owns⟩
  · simp only [Runtime.Unserved, not_forall, not_not] at unserved
    obtain ⟨i, r, isRunner, owns, same⟩ := unserved
    exact .inr ⟨i, r, isRunner, same, owns, goes isRunner owns⟩

/-- Commands of a player over every interleaving of enqueues, runners, savers and
    shutdowns.  One runner is alive at most.  The commands are started in the order
    of their acceptance, each after the outcome of the one before it.  A command
    has one outcome at most: it was executed once, or it failed and is never
    executed.  When the directory has no slot of the player all its commands have
    their outcome; until then somebody can bring them forward, and each step of the
    runner leaves less to do.  No assertion of a runner fires. -/
theorem commands_served_once_in_order {config : ValidConfig}
    (reached : (system P A R E config).Reach System.Any s) :
    (∀ (i j : Nat) r r', s.runners[i]? = some r → s.runners[j]? = some r' →
      r.phase.alive = true → r'.phase.alive = true → r.gid = r'.gid → i = j)
    ∧ (∀ gid, (s.accepted gid).Nodup ∧ s.started gid <+: s.accepted gid
      ∧ s.answered gid <+: s.started gid ∧ (s.started gid).length ≤ (s.answered gid).length + 1
      ∧ (s.executed gid).Sublist (s.started gid)
      ∧ (s.directory gid = none → s.answered gid = s.accepted gid))
    ∧ (∀ gid id outcome, (id, outcome) ∈ s.outcomes gid →
      (outcome.isCompleted = true → id ∈ s.executed gid)
      ∧ ∀ error, outcome = .failed error → error ≠ .runtimeStopped
        ∧ ∀ t, (system P A R E config).Run System.Any s t →
          (id, outcome) ∈ t.outcomes gid ∧ id ∉ t.executed gid)
    ∧ (∀ (m : Nat) slot, s.slots[m]? = some slot → slot.queue ≠ [] →
      s.directory slot.gid = some m
      ∧ ((∃ (i : Nat) (e : Enqueue P A R), s.enqueues[i]? = some e ∧ e.gid = slot.gid
          ∧ (e.phase = .counting m ∨ e.phase = .spawning m))
        ∨ ∃ (i : Nat) (r : Runner P A R E), s.runners[i]? = some r ∧ r.gid = slot.gid ∧ r.slot = m
          ∧ r.phase.owns = true))
    ∧ s.faults = []
    ∧ (∀ gid, s.answered gid ≠ s.accepted gid →
      (∃ (i : Nat) (e : Enqueue P A R), s.enqueues[i]? = some e ∧ e.gid = gid
        ∧ ((s.step config.toLogicConfig (.count i)).isSome = true
          ∨ (s.step config.toLogicConfig (.spawn i)).isSome = true))
      ∨ ∃ (i : Nat) (r : Runner P A R E), s.runners[i]? = some r ∧ r.gid = gid ∧ r.phase.owns = true
        ∧ Goes config.toLogicConfig s i r)
    ∧ (∀ label t gid, s.step config.toLogicConfig label = some t → t.accepted gid = s.accepted gid →
      t.work gid ≤ s.work gid)
    ∧ ∀ (i : Nat) r choice ok t, s.runners[i]? = some r →
      s.step config.toLogicConfig (.run i choice ok) = some t → t.work r.gid < s.work r.gid := by
  have inv := serving_reach reached
  refine ⟨?_, ?_, ?_, ?_, inv.noFault, fun gid => inv.responsible, ?_, ?_⟩
  · intro i j r r' first second alive alive' same
    exact inv.served.owned.alive_unique first second alive alive' same
  · intro gid
    obtain ⟨h, keeps, atMost, _, idle⟩ := inv.history gid
    have started : s.started gid = s.answered gid ++ h.pending.map Envelope.id := keeps.started
    have accepted : s.accepted gid = s.started gid ++ (s.desk gid).queue.map Envelope.id := keeps.accepted
    refine ⟨inv.served.numbered.nodup gid, ?_, ?_, ?_, (inv.executed_of gid).1, ?_⟩
    · rw [accepted]
      exact List.prefix_append ..
    · rw [started]
      exact List.prefix_append ..
    · rw [started, List.length_append, List.length_map]
      omega
    · intro unmapped
      have unserved : s.Unserved gid := by
        intro i r isRunner owns same
        have mapped := inv.served.owned.ofRunner i r isRunner owns
        rw [same, unmapped] at mapped
        cases mapped
      have isEmpty : (s.desk gid).queue = [] := by simp [Desk.queue, Runtime.desk, unmapped]
      rw [accepted, started, idle unserved, isEmpty]
      simp [Hands.empty]
  · intro gid id outcome member
    refine ⟨((inv.executed_of gid).2 id outcome member).mpr, ?_⟩
    intro error failed
    subst failed
    refine ⟨?_, ?_⟩
    · intro stopped
      subst stopped
      exact inv.answering.outcomes gid _ member
    · intro t run
      have later := serving_reach (reached.run run)
      have still := (outcomes_run run gid).subset member
      refine ⟨still, ?_⟩
      intro ran
      have completed := ((later.executed_of gid).2 id _ still).mp ran
      cases completed
  · intro m slot there nonempty
    have mapped := inv.filed m slot there nonempty
    refine ⟨mapped, ?_⟩
    have isQueue : (s.desk slot.gid).queue ≠ [] := by
      rw [Desk.queue, desk_mailbox mapped there]
      exact nonempty
    obtain ⟨n, isMapped, attended⟩ := inv.served.attended isQueue
    rw [mapped] at isMapped
    obtain rfl := Option.some.inj isMapped
    exact attended
  · intro label t gid taken accepted
    cases inv.lowers taken accepted with
    | inl less => exact Nat.le_of_lt less
    | inr unmoved => exact unmoved.1
  · intro i r choice ok t isRunner taken
    exact inv.run_lowers isRunner taken

/-- A player earns two coins; the second command arrives while the first one is saved. -/
def twoCoins : List PurseLabel :=
  [.tryUse 7 1 Purse.earn] ++ enqueueAll 0 true ++ proceed 0 1 ++ [.run 0 (.fetched Purse.empty) true]
    ++ proceed 0 9 ++ [.tryUse 7 1 Purse.earn] ++ enqueueAll 1 false
    ++ [.run 0 (.saved ⟨1, false⟩ true (.ok ())) true] ++ proceed 0 17
    ++ [.run 0 (.saved ⟨2, false⟩ true (.ok ())) true] ++ proceed 0 11

theorem twoCoins_served :
    ∃ s : PurseRuntime, s.accepted 7 = [0, 1] ∧ s.answered 7 = [0, 1] ∧ s.directory 7 = none
      ∧ (s.executed 7).Sublist (s.started 7) ∧ s.faults = [] := by
  have run : ∃ s, System.follow System.Any (step LogicConfig.HARD_LIMITS) (initial .hardLimits) twoCoins
      = some s ∧ s.accepted 7 = [0, 1] ∧ s.answered 7 = [0, 1] ∧ s.directory 7 = none := by
    decide +kernel
  obtain ⟨s, followed, accepted, answers, unmapped⟩ := run
  have reached : (system Purse Unit Unit Unit .hardLimits).Reach System.Any s :=
    System.reach_of_follow rfl followed
  obtain ⟨_, history, _, _, noFault, _⟩ := commands_served_once_in_order reached
  exact ⟨s, accepted, answers, unmapped, (history 7).2.2.2.2.1, noFault⟩

end Runtime

end Xkk.Logic

import Xkk.Logic.Shutdown
import Xkk.Logic.Sections

/-! # The budgets of the mailboxes

A command is counted three times: by the mailbox of its player, by its permit and
by the statistics.  `mailboxes` are the slots in the directory; `inHand` is the
command that the runner of a player has taken and that its mailbox still counts.
-/

set_option linter.unusedSectionVars false

namespace Xkk.Logic

open Xkk.Lib

variable {P A R E : Type} [LogicState P]

/-- A runner has one command in hand at most. -/
theorem RunnerPhase.charged_eq (phase : RunnerPhase P A R E) :
    ∃ current : Option (Envelope P A R), phase.hands.charged = current.toList := by
  cases phase with
  | serving envelope stage | completing envelope => exact ⟨some envelope, rfl⟩
  | dropping id next | droppingKib id next | notifying next => exact ⟨next, rfl⟩
  | _ => exact ⟨none, rfl⟩

/-- What a mailbox counts has its permit. -/
theorem RunnerPhase.charged_live {phase : RunnerPhase P A R E} {envelope : Envelope P A R}
    (member : envelope ∈ phase.hands.charged) : envelope.id ∈ phase.live := by
  cases phase with
  | dropping id next =>
    exact List.mem_cons_of_mem id (List.mem_map_of_mem member)
  | droppingKib id next | notifying next => exact List.mem_map_of_mem member
  | serving current stage | completing current =>
    obtain rfl := List.mem_singleton.mp member
    exact List.mem_singleton_self _
  | _ => cases member

/-- What a mailbox counts outside of its queue has been taken from the queue. -/
theorem Desk.Keeps.charged_started {config : LogicConfig} {d : Desk P A R} {phase : RunnerPhase P A R E}
    (keeps : d.Keeps config phase.hands) {envelope : Envelope P A R}
    (member : envelope ∈ phase.hands.charged) : envelope.id ∈ d.started := by
  have pending : envelope ∈ phase.hands.pending → envelope.id ∈ d.started := by
    intro isPending
    rw [keeps.started]
    exact List.mem_append_right _ (List.mem_map_of_mem isPending)
  cases phase with
  | completing current =>
    obtain rfl := List.mem_singleton.mp member
    rw [keeps.started]
    exact List.mem_append_left _ (keeps.unreleased envelope.id (List.mem_singleton_self _))
  | serving | dropping | droppingKib | notifying => exact pending member
  | _ => cases member

namespace Runtime

variable {config : LogicConfig} {s t : Runtime P A R E}

/-! ## Mailboxes -/

/-- The slots in the directory. -/
def mailboxes (s : Runtime P A R E) : List (KeySlot P A R) :=
  Pool.pick (fun slot m => s.directory slot.gid = some m) s.slots

/-- The command that the runner of the player is processing. -/
def inHand (s : Runtime P A R E) (gid : Gid) : List (Envelope P A R) :=
  s.runners.flatMap fun r => if r.gid = gid then r.phase.hands.charged else []

theorem Owned.mem_mailboxes (owned : Owned config s) {slot : KeySlot P A R} :
    slot ∈ s.mailboxes ↔ (s.desk slot.gid).mailbox = some slot := by
  rw [mailboxes, Pool.mem_pick]
  constructor
  · intro picked
    obtain ⟨m, there, mapped⟩ := picked
    exact desk_mailbox (of_decide_eq_true mapped) there
  · intro mailbox
    obtain ⟨_, m, mapped, there⟩ := owned.mailbox_gid mailbox
    exact ⟨m, there, decide_eq_true mapped⟩

/-- The directory has one slot for a player. -/
theorem nodup_mailboxes (s : Runtime P A R E) : (s.mailboxes.map KeySlot.gid).Nodup := by
  apply Pool.nodup_pick
  intro m n slot slot' _ _ mapped mapped' same
  have first := of_decide_eq_true mapped
  have second := of_decide_eq_true mapped'
  rw [same, second] at first
  exact (Option.some.inj first).symm

theorem Owned.mapped_iff (owned : Owned config s) {gid : Gid} :
    gid ∈ s.mailboxes.map KeySlot.gid ↔ (s.directory gid).isSome = true := by
  rw [List.mem_map]
  constructor
  · intro listed
    obtain ⟨slot, member, same⟩ := listed
    obtain ⟨_, m, mapped, _⟩ := owned.mailbox_gid (owned.mem_mailboxes.mp member)
    rw [← same, mapped]
    rfl
  · intro isMapped
    obtain ⟨m, mapped⟩ := Option.isSome_iff_exists.mp isMapped
    have known := owned.slots gid m mapped
    rw [List.getElem?_map] at known
    obtain ⟨slot, there, same⟩ := Option.map_eq_some_iff.mp known
    have mailbox := desk_mailbox mapped there
    rw [← same] at mailbox
    exact ⟨slot, owned.mem_mailboxes.mpr mailbox, same⟩

theorem Owned.inHand_runner (owned : Owned config s) {i : Nat} {r : Runner P A R E}
    (isRunner : s.runners[i]? = some r) (owns : r.phase.owns = true) :
    s.inHand r.gid = r.phase.hands.charged := by
  have single := Pool.flatMap_single
    (f := fun other : Runner P A R E => if other.gid = r.gid then other.phase.hands.charged else [])
    isRunner ?_
  · rw [inHand, single, if_pos rfl]
  · intro j other there differ
    by_cases same : other.gid = r.gid
    · cases owns' : other.phase.owns with
      | true => exact absurd (owned.runner_unique isRunner there owns owns' same.symm) differ
      | false =>
        rw [if_pos same, RunnerPhase.hands_of_not_owns owns']
        rfl
    · exact if_neg same

theorem inHand_idle {gid : Gid} (unserved : s.Unserved gid) : s.inHand gid = [] := by
  rw [inHand, List.flatMap_eq_nil_iff]
  intro r member
  obtain ⟨i, isRunner⟩ := List.mem_iff_getElem?.mp member
  by_cases same : r.gid = gid
  · cases owns : r.phase.owns with
    | true => exact absurd same (unserved i r isRunner owns)
    | false =>
      rw [if_pos same, RunnerPhase.hands_of_not_owns owns]
      rfl
  · exact if_neg same

/-- The desk of a player is kept by whoever has its command in hand. -/
theorem Dispatched.keeps_inHand (inv : Dispatched config s) (owned : Owned config s) (gid : Gid) :
    (∃ (i : Nat) (r : Runner P A R E), s.runners[i]? = some r ∧ r.phase.owns = true ∧ r.gid = gid
      ∧ (s.desk gid).Keeps config r.phase.hands ∧ s.inHand gid = r.phase.hands.charged)
    ∨ (s.desk gid).Keeps config .empty ∧ s.inHand gid = [] := by
  by_cases unserved : s.Unserved gid
  · exact .inr ⟨inv.idle gid unserved, inHand_idle unserved⟩
  · simp only [Runtime.Unserved, not_forall, not_not] at unserved
    obtain ⟨i, r, isRunner, owns, same⟩ := unserved
    subst same
    exact .inl ⟨i, r, isRunner, owns, rfl, (inv.runner i r isRunner owns).1, owned.inHand_runner isRunner owns⟩

/-! ## Bounds -/

/-- What a mailbox counts with the command in hand. -/
theorem Served.counts {config : ValidConfig} (served : Served config s) {gid : Gid} {slot : KeySlot P A R}
    (mailbox : (s.desk gid).mailbox = some slot) :
    slot.inflightCalls.toNat = slot.queue.length + (s.inHand gid).length
    ∧ slot.inflightKib.toNat = kibs slot.queue + kibs (s.inHand gid)
    ∧ slot.inflightKib.toNat ≤ config.maxKibPerGid.toNat := by
  cases served.dispatched.keeps_inHand served.owned gid with
  | inl busy =>
    obtain ⟨i, r, _, _, _, keeps, inHand⟩ := busy
    rw [inHand]
    exact ⟨keeps.calls slot mailbox, keeps.kib slot mailbox⟩
  | inr idle =>
    rw [idle.2]
    exact ⟨idle.1.calls slot mailbox, idle.1.kib slot mailbox⟩

theorem Served.inHand_le {config : ValidConfig} (served : Served config s) (gid : Gid) :
    (s.inHand gid).length ≤ 1 := by
  cases served.dispatched.keeps_inHand served.owned gid with
  | inl busy =>
    obtain ⟨i, r, _, _, _, _, inHand⟩ := busy
    obtain ⟨current, charged⟩ := r.phase.charged_eq
    rw [inHand, charged]
    cases current with
    | none => exact Nat.zero_le 1
    | some envelope => exact Nat.le_refl 1
  | inr idle =>
    rw [idle.2]
    exact Nat.zero_le 1

/-- The runner that completes a command finds it in the counts of its mailbox. -/
theorem Served.completes {config : ValidConfig} (served : Served config s) {i : Nat} {r : Runner P A R E}
    {envelope : Envelope P A R} (isRunner : s.runners[i]? = some r)
    (completing : r.phase = .completing envelope) :
    ∃ slot ∈ s.mailboxes, s.slots[r.slot]? = some slot ∧ 1 ≤ slot.inflightCalls
      ∧ envelope.retainedKib ≤ slot.inflightKib := by
  have owns : r.phase.owns = true := by rw [completing]; rfl
  have mapped := served.owned.ofRunner i r isRunner owns
  have known := served.owned.slots r.gid r.slot mapped
  rw [List.getElem?_map] at known
  obtain ⟨slot, there, isGid⟩ := Option.map_eq_some_iff.mp known
  have mailbox := desk_mailbox mapped there
  obtain ⟨calls, kib, _⟩ := served.counts mailbox
  rw [served.owned.inHand_runner isRunner owns, completing] at calls kib
  simp only [RunnerPhase.hands, List.length_cons, List.length_nil, kibs, Pool.total_cons,
    Pool.total_nil] at calls kib
  rw [← isGid] at mailbox
  refine ⟨slot, served.owned.mem_mailboxes.mpr mailbox, there, ?_, ?_⟩
  · rw [UInt64.le_iff_toNat_le, UInt64.toNat_one]
    omega
  · rw [UInt64.le_iff_toNat_le]
    omega

/-- No mailbox counts more calls than a player may have. -/
def Bounded (config : LogicConfig) (s : Runtime P A R E) : Prop :=
  ∀ slot ∈ s.slots, slot.inflightCalls.toNat ≤ config.maxCallsPerGid.toNat

theorem Bounded.set (inv : Bounded config s) {m : Nat} {slot : KeySlot P A R}
    (slots : t.slots = s.slots.set m slot)
    (bounded : slot.inflightCalls.toNat ≤ config.maxCallsPerGid.toNat) : Bounded config t := by
  intro other member
  rw [slots] at member
  cases List.mem_or_eq_of_mem_set member with
  | inl old => exact inv other old
  | inr new =>
    subst new
    exact bounded

/-- The room that was there under the lock is still there at the push. -/
theorem Served.room {config : ValidConfig} (served : Served config s) {i m : Nat} {spawnRunner : Bool}
    {e : Enqueue P A R} {slot : KeySlot P A R} (found : s.enqueues[i]? = some e)
    (acquiring : e.phase = .acquiring m spawnRunner) (there : s.slots[m]? = some slot) :
    full config.toLogicConfig slot e.retainedKib = false := by
  have mapped := served.owned.ofEnqueue i e m found (by rw [acquiring]; rfl)
  have expected := served.dispatched.enqueue i e found
  rw [acquiring] at expected
  obtain ⟨_, expectedSlot, mailbox, room⟩ := expected
  rw [desk_mailbox mapped there] at mailbox
  obtain rfl := Option.some.inj mailbox
  exact room

/-- A completion lowers the calls of the mailbox. -/
theorem Served.release_le {config : ValidConfig} (served : Served config s) {i : Nat} {r : Runner P A R E}
    {envelope : Envelope P A R} {slot : KeySlot P A R} (isRunner : s.runners[i]? = some r)
    (completing : r.phase = .completing envelope) (mapped : s.directory r.gid = some r.slot)
    (there : s.slots[r.slot]? = some slot) :
    (slot.release envelope.retainedKib).inflightCalls.toNat ≤ slot.inflightCalls.toNat := by
  have keeps := (served.dispatched.runner i r isRunner (by rw [completing]; rfl)).1
  rw [completing] at keeps
  have released := Desk.Keeps.release keeps (desk_mailbox mapped there)
  have calls := keeps.calls slot (desk_mailbox mapped there)
  omega

theorem Bounded.step {config : ValidConfig} (inv : Bounded config.toLogicConfig s)
    (served : Served config s) (taken : Step config.toLogicConfig s t) :
    Bounded config.toLogicConfig t := by
  cases taken with
  | lockNew found calling isFree unmapped =>
    intro slot member
    cases List.mem_append.mp member with
    | inl old => exact inv slot old
    | inr new =>
      obtain rfl := List.mem_singleton.mp new
      exact Nat.zero_le _
  | @push i m spawnRunner e slot holder found acquiring isHolder granted there =>
    have room := served.room found acquiring there
    simp only [Runtime.full, ge_iff_le, gt_iff_lt, Bool.or_eq_false_iff, decide_eq_false_iff_not,
      UInt64.le_iff_toNat_le, not_le] at room
    have small := config.maxCallsPerGid.toNat_lt
    have next : (slot.inflightCalls + 1).toNat = slot.inflightCalls.toNat + 1 := by
      rw [UInt64.toNat_add, UInt64.toNat_one, Nat.mod_eq_of_lt (by omega)]
    have bounded : (slot.inflightCalls + 1).toNat ≤ config.maxCallsPerGid.toNat := by omega
    cases spawnRunner with
    | true => exact inv.set rfl bounded
    | false => exact inv.set rfl bounded
  | @refuse i m spawnRunner e reason holder found acquiring =>
    cases spawnRunner with
    | true => exact inv
    | false => exact inv
  | @take i r slot envelope rest isRunner either isFree mapped there queue =>
    exact inv.set rfl (inv slot (List.mem_of_getElem? there))
  | completeNext isRunner completing isFree mapped there queue =>
    have less := served.release_le isRunner completing mapped there
    exact inv.set rfl (Nat.le_trans less (inv _ (List.mem_of_getElem? there)))
  | completeLast isRunner completing isFree mapped there =>
    have less := served.release_le isRunner completing mapped there
    exact inv.set rfl (Nat.le_trans less (inv _ (List.mem_of_getElem? there)))
  | _ => exact inv

/-! ## Permits -/

/-- The commands that the mailbox of a player counts have different numbers and
    live permits. -/
theorem Served.counted_permits {config : ValidConfig} (served : Served config s) (gid : Gid) :
    (((s.desk gid).queue ++ s.inHand gid).map Envelope.id).Nodup
    ∧ ∀ envelope ∈ (s.desk gid).queue ++ s.inHand gid,
      envelope.id ∈ s.accepted gid ∧ s.Holds envelope.id (.acquiring .permit) := by
  have nodup := served.numbered.nodup gid
  have queued : ∀ envelope ∈ (s.desk gid).queue,
      envelope.id ∈ s.accepted gid ∧ s.Holds envelope.id (.acquiring .permit) := by
    intro envelope member
    exact ⟨served.dispatched.queue_accepted member, served.permitted.queued gid envelope member⟩
  cases served.dispatched.keeps_inHand served.owned gid with
  | inl busy =>
    obtain ⟨i, r, isRunner, owns, same, keeps, inHand⟩ := busy
    have accepted : s.accepted gid = s.started gid ++ (s.desk gid).queue.map Envelope.id := keeps.accepted
    have started : ∀ envelope ∈ r.phase.hands.charged, envelope.id ∈ s.started gid :=
      fun envelope member => keeps.charged_started member
    rw [accepted, List.nodup_append] at nodup
    rw [inHand]
    refine ⟨?_, ?_⟩
    · rw [List.map_append, List.nodup_append]
      refine ⟨nodup.2.1, ?_, ?_⟩
      · obtain ⟨current, charged⟩ := r.phase.charged_eq
        rw [charged]
        cases current with
        | none => exact List.nodup_nil
        | some envelope => exact List.nodup_singleton _
      · intro id isQueued id' isCharged equal
        obtain ⟨envelope, member, isId⟩ := List.mem_map.mp isCharged
        have before := started envelope member
        rw [isId] at before
        exact nodup.2.2 id' before id isQueued equal.symm
    · intro envelope member
      cases List.mem_append.mp member with
      | inl isQueued => exact queued envelope isQueued
      | inr isCharged =>
        refine ⟨?_, served.permitted.live i r _ isRunner (RunnerPhase.charged_live isCharged)⟩
        rw [accepted]
        exact List.mem_append_left _ (started envelope isCharged)
  | inr idle =>
    have accepted : s.accepted gid = s.started gid ++ (s.desk gid).queue.map Envelope.id := idle.1.accepted
    rw [accepted, List.nodup_append] at nodup
    rw [idle.2, List.append_nil]
    exact ⟨nodup.2.1, queued⟩

/-- The numbers of all commands that some mailbox counts. -/
def counted (s : Runtime P A R E) : List Nat :=
  s.mailboxes.flatMap fun slot => ((s.desk slot.gid).queue ++ s.inHand slot.gid).map Envelope.id

theorem Served.counted_nodup {config : ValidConfig} (served : Served config s) : s.counted.Nodup := by
  rw [counted, List.nodup_flatMap]
  refine ⟨fun slot _ => (served.counted_permits slot.gid).1, ?_⟩
  have players := List.pairwise_map.mp s.nodup_mailboxes
  refine players.imp ?_
  intro slot slot' differ id first second
  obtain ⟨envelope, member, isId⟩ := List.mem_map.mp first
  obtain ⟨envelope', member', isId'⟩ := List.mem_map.mp second
  have mine := ((served.counted_permits slot.gid).2 envelope member).1
  have theirs := ((served.counted_permits slot'.gid).2 envelope' member').1
  rw [isId] at mine
  rw [isId'] at theirs
  exact differ (served.numbered.same_gid mine theirs)

theorem Served.counted_length {config : ValidConfig} (served : Served config s) :
    s.counted.length = Pool.total (fun slot => slot.inflightCalls.toNat) s.mailboxes := by
  rw [counted, List.length_flatMap]
  apply Pool.total_congr
  intro slot member
  have mailbox := served.owned.mem_mailboxes.mp member
  obtain ⟨calls, _⟩ := served.counts mailbox
  rw [calls, List.length_map, List.length_append, Desk.queue, mailbox]
  rfl

/-- Every call that a mailbox counts has a permit of its own. -/
theorem Served.calls_le_permits {config : ValidConfig} (served : Served config s) :
    Pool.total (fun slot => slot.inflightCalls.toNat) s.mailboxes
      ≤ AdmissionPool.livePermits s.pool := by
  rw [← served.counted_length]
  apply Pool.length_le_countP served.counted_nodup
  intro id member
  obtain ⟨slot, _, isCounted⟩ := List.mem_flatMap.mp member
  obtain ⟨envelope, inMailbox, isId⟩ := List.mem_map.mp isCounted
  have held := ((served.counted_permits slot.gid).2 envelope inMailbox).2
  rw [isId] at held
  obtain ⟨holder, there, permit⟩ := Option.map_eq_some_iff.mp held
  exact ⟨holder, there, decide_eq_true permit⟩

/-! ## Statistics -/

/-- `queued` counts the commands in the queues. -/
def Tallied (s : Runtime P A R E) : Prop :=
  s.queued = Pool.total (fun slot => slot.queue.length) s.slots

theorem Tallied.set (inv : Tallied s) {m : Nat} {slot slot' : KeySlot P A R}
    (there : s.slots[m]? = some slot) (slots : t.slots = s.slots.set m slot')
    (queued : t.queued + slot.queue.length = s.queued + slot'.queue.length) : Tallied t := by
  have total := Pool.total_set (fun slot : KeySlot P A R => slot.queue.length) slot' there
  simp only [Tallied, slots] at inv ⊢
  omega

/-- The first command leaves its queue. -/
theorem Tallied.dequeue (inv : Tallied s) (gid : Gid) {m : Nat} {slot slot' : KeySlot P A R}
    {envelope : Envelope P A R} {rest : List (Envelope P A R)} (there : s.slots[m]? = some slot)
    (queue : slot.queue = envelope :: rest) :
    Tallied (s.dequeue gid m slot' envelope rest) := by
  refine inv.set there rfl ?_
  have some := Pool.weight_le_total (fun slot : KeySlot P A R => slot.queue.length) there
  have tally := inv
  simp only [Tallied] at tally
  simp only [queue, List.length_cons, Runtime.dequeue] at some ⊢
  omega

theorem Tallied.step (inv : Tallied s) (taken : Step config s t) : Tallied t := by
  cases taken with
  | lockNew =>
    simp only [Tallied, Pool.total_append, Pool.total_cons, Pool.total_nil, List.length_nil] at inv ⊢
    exact inv
  | @push i m spawnRunner e slot holder found acquiring isHolder granted there =>
    have pushed : Tallied (s.push i e m slot) := by
      refine inv.set there rfl ?_
      simp only [Runtime.push, List.length_append, List.length_cons, List.length_nil]
      omega
    cases spawnRunner with
    | true => exact pushed
    | false => exact pushed
  | @refuse i m spawnRunner e reason holder found acquiring =>
    cases spawnRunner with
    | true => exact inv
    | false => exact inv
  | @take i r slot envelope rest isRunner either isFree mapped there queue =>
    exact inv.dequeue r.gid there queue
  | @completeNext i r envelope next slot rest isRunner completing isFree mapped there queue =>
    exact inv.dequeue r.gid there queue
  | completeLast isRunner completing isFree mapped there queue => exact inv.set there rfl rfl
  | _ => exact inv

/-- Slots outside of the directory have empty queues. -/
theorem Tallied.mailboxes (inv : Tallied s) (filed : Filed s) :
    s.queued = Pool.total (fun slot => slot.queue.length) s.mailboxes := by
  rw [inv, Runtime.mailboxes, Pool.total_pick]
  intro m slot there unmapped
  by_cases isEmpty : slot.queue = []
  · rw [isEmpty]
    rfl
  · exact absurd (filed m slot there isEmpty) (of_decide_eq_false unmapped)

/-- The slots of the directory are counted by their owners. -/
theorem Owned.length_mailboxes (owned : Owned config s) :
    s.mailboxes.length = Pool.total (fun e => e.phase.owns.toNat) s.enqueues
      + Pool.total (fun r => r.phase.owns.toNat) s.runners := by
  have enqueues : ∀ e ∈ s.enqueues, e.phase.owns = true → e.gid ∈ s.mailboxes.map KeySlot.gid := by
    intro e member owns
    obtain ⟨i, found⟩ := List.mem_iff_getElem?.mp member
    have isSlot : ∃ m, e.phase.slot = some m := by
      cases phase : e.phase with
      | acquiring m spawnRunner | counting m | spawning m => exact ⟨m, rfl⟩
      | calling | accepted | rejected =>
        rw [phase] at owns
        cases owns
    obtain ⟨m, isSlot⟩ := isSlot
    rw [owned.mapped_iff, owned.ofEnqueue i e m found isSlot]
    rfl
  have runners : ∀ r ∈ s.runners, r.phase.owns = true → r.gid ∈ s.mailboxes.map KeySlot.gid := by
    intro r member owns
    obtain ⟨i, isRunner⟩ := List.mem_iff_getElem?.mp member
    rw [owned.mapped_iff, owned.ofRunner i r isRunner owns]
    rfl
  calc s.mailboxes.length
      = Pool.total (fun _ => 1) (s.mailboxes.map KeySlot.gid) := by rw [Pool.total_one, List.length_map]
    _ = Pool.total s.owners (s.mailboxes.map KeySlot.gid) := by
        apply Pool.total_congr
        intro gid member
        rw [owned.owners gid, owned.mapped_iff.mp member]
        rfl
    _ = Pool.total (fun gid => Pool.total (Enqueue.owner gid) s.enqueues) (s.mailboxes.map KeySlot.gid)
        + Pool.total (fun gid => Pool.total (Runner.owner gid) s.runners) (s.mailboxes.map KeySlot.gid) :=
        Pool.total_add ..
    _ = _ := by
        congr 1
        · exact Pool.total_keys s.nodup_mailboxes enqueues
        · exact Pool.total_keys s.nodup_mailboxes runners

/-- While no lock is held `active_gids` is the number of slots. -/
theorem Counted.mailboxes (inv : Counted s) (owned : Owned config s) (unlocked : ∀ shard, s.locks shard = none) :
    s.activeGids = s.mailboxes.length := by
  have same : Pool.total (fun e : Enqueue P A R => e.phase.owns.toNat) s.enqueues
      = Pool.total (fun e : Enqueue P A R => e.phase.spawns.toNat) s.enqueues := by
    apply Pool.total_congr
    intro e member
    obtain ⟨i, found⟩ := List.mem_iff_getElem?.mp member
    have free : e.phase.locks = false := by
      cases locks : e.phase.locks with
      | false => rfl
      | true =>
        have held := owned.enqueueLocks i e found locks
        rw [unlocked] at held
        cases held
    cases phase : e.phase with
    | acquiring | counting =>
      rw [phase] at free
      cases free
    | _ => rfl
  rw [owned.length_mailboxes, same]
  exact inv

/-! ## All together -/

/-- What the mailboxes, the permits and the statistics count, over every interleaving
    of enqueues, runners, savers and shutdowns.  A mailbox counts its queue and the
    command that its runner is processing, within the bounds of a player; so the
    subtractions of `enqueue` and of `complete_and_take_next` do not underflow.  The
    calls of all mailboxes have permits of their own.  `queued` is the length of all
    queues and, while no lock is held, `active_gids` the number of slots.  A rejected
    `enqueue` leaves nothing behind. -/
theorem mailbox_budgets {config : ValidConfig} (reached : (system P A R E config).Reach System.Any s) :
    (s.mailboxes.map KeySlot.gid).Nodup
    ∧ (∀ gid, gid ∈ s.mailboxes.map KeySlot.gid ↔ (s.directory gid).isSome = true)
    ∧ (∀ slot ∈ s.mailboxes, (s.inHand slot.gid).length ≤ 1
      ∧ slot.inflightCalls.toNat = slot.queue.length + (s.inHand slot.gid).length
      ∧ slot.inflightKib.toNat = kibs slot.queue + kibs (s.inHand slot.gid)
      ∧ slot.inflightCalls ≤ config.maxCallsPerGid ∧ slot.inflightKib ≤ config.maxKibPerGid)
    ∧ (∀ (i : Nat) r envelope, s.runners[i]? = some r → r.phase = .completing envelope →
      ∃ slot ∈ s.mailboxes, s.slots[r.slot]? = some slot ∧ 1 ≤ slot.inflightCalls
        ∧ envelope.retainedKib ≤ slot.inflightKib)
    ∧ Pool.total (fun slot => slot.inflightCalls.toNat) s.mailboxes ≤ AdmissionPool.livePermits s.pool
    ∧ s.queued = Pool.total (fun slot => slot.queue.length) s.mailboxes
    ∧ ((∀ shard, s.locks shard = none) → s.activeGids = s.mailboxes.length)
    ∧ ∀ (i : Nat) e, s.enqueues[i]? = some e → LeavesNothing config s i e.gid := by
  have shutting := shutting_reach reached
  have served := shutting.serving.served
  have bounded : Bounded config.toLogicConfig s := by
    refine reached.inv_with (I := fun s => Bounded config.toLogicConfig s) (J := Served config)
      (fun _ => served_reach) ?_ ?_
    · intro s isInit
      subst isInit
      intro slot member
      cases member
    · intro s label t served before _ taken
      exact before.step served (step_sound taken)
  have tallied : Tallied s :=
    Step.inv (I := Tallied) (show Tallied (initial config) from rfl) (fun _ _ inv taken => inv.step taken) reached
  refine ⟨s.nodup_mailboxes, fun gid => served.owned.mapped_iff, ?_, ?_, served.calls_le_permits,
    tallied.mailboxes shutting.serving.filed, shutting.settling.counted.mailboxes served.owned,
    fun i e found => leavesNothing reached found⟩
  · intro slot member
    have mailbox := served.owned.mem_mailboxes.mp member
    obtain ⟨calls, kib, kibBounded⟩ := served.counts mailbox
    obtain ⟨_, m, _, there⟩ := served.owned.mailbox_gid mailbox
    refine ⟨served.inHand_le slot.gid, calls, kib, ?_, ?_⟩
    · rw [UInt64.le_iff_toNat_le]
      exact bounded slot (List.mem_of_getElem? there)
    · rw [UInt64.le_iff_toNat_le]
      exact kibBounded
  · intro i r envelope isRunner completing
    exact served.completes isRunner completing

/-- A player has a command in hand and one queued when the runtime is shut down, and
    another player calls. -/
def callAfterClose : List PurseLabel :=
  [.tryUse 7 1 Purse.earn] ++ enqueueAll 0 true ++ proceed 0 1 ++ [.tryUse 7 3 Purse.earn]
    ++ enqueueAll 1 false ++ [.shutdown, .shut 0 [], .shut 0 [], .tryUse 9 1 Purse.earn]

theorem callAfterClose_budgeted :
    ∃ s u v w : PurseRuntime, (s.mailboxes.map KeySlot.gid = [7] ∧ s.queued = 1)
      ∧ Pool.total (fun slot => slot.inflightCalls.toNat) s.mailboxes = 2
      ∧ 2 ≤ AdmissionPool.livePermits s.pool
      ∧ s.step LogicConfig.HARD_LIMITS (.lock 2) = some u ∧ u.directory 9 = some 1
      ∧ (system Purse Unit Unit Unit .hardLimits).Run System.Any u v
      ∧ v.step LogicConfig.HARD_LIMITS (.acquired 2) = some w
      ∧ SameMailbox s w 9 ∧ SamePermits v w := by
  have run : ∃ s : PurseRuntime, System.follow System.Any (step LogicConfig.HARD_LIMITS) (initial .hardLimits)
      callAfterClose = some s
      ∧ (s.mailboxes.map KeySlot.gid = [7] ∧ s.queued = 1)
      ∧ Pool.total (fun slot => slot.inflightCalls.toNat) s.mailboxes = 2
      ∧ (s.enqueues[2]?).map Enqueue.gid = some 9
      ∧ ∃ u, s.step LogicConfig.HARD_LIMITS (.lock 2) = some u ∧ u.directory 9 = some 1
      ∧ ∃ v, System.follow System.Any (step LogicConfig.HARD_LIMITS) u
        [.tryUse 7 1 Purse.earn, .acquire 2 false] = some v
      ∧ ∃ w, v.step LogicConfig.HARD_LIMITS (.acquired 2) = some w
      ∧ (w.enqueues[2]?).map Enqueue.phase = some (.rejected .draining) := by
    decide +kernel
  obtain ⟨s, followed, mailboxes, calls, isPlayer, u, locked, inserted, v, followed', w, refused, phase⟩ := run
  have reached : (system Purse Unit Unit Unit .hardLimits).Reach System.Any s :=
    System.reach_of_follow rfl followed
  have section' : (system Purse Unit Unit Unit .hardLimits).Run System.Any u v :=
    System.run_of_follow followed'
  obtain ⟨e, found, isGid⟩ := Option.map_eq_some_iff.mp isPlayer
  obtain ⟨e', found', isRejected⟩ := Option.map_eq_some_iff.mp phase
  obtain ⟨_, _, _, _, permits, _, _, nothing⟩ := mailbox_budgets reached
  obtain ⟨_, leaves⟩ := nothing 2 e found u locked
  obtain ⟨same, _, _, samePermits, _⟩ := leaves v w section' refused ⟨e', _, found', isRejected⟩
  rw [calls] at permits
  rw [isGid] at same
  exact ⟨s, u, v, w, mailboxes, calls, permits, locked, inserted, section', refused, same, samePermits⟩

end Runtime

end Xkk.Logic

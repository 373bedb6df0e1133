import Xkk.Logic.ItemBag
import Xkk.Logic.Reports

/-! # Calls that change items

The handlers of `UseItemReq`, `AddItemsReq` and `RemoveItemsReq`.  A handler checks
the route of its request, submits one command, and `await_logic` makes one status
of whatever can go wrong on the way: a rejected call, a failed load, a full pool of
dirty slots, a refusal of the command itself, or a failed save after the command.
-/

namespace Xkk.Logic

open Xkk.Lib Xkk.Protocol

inductive ItemReq where
  | useItem (itemId n : Int)
  | addItems (gid : Gid) (items : List Item)
  | removeItems (gid : Gid) (items : List Item)
deriving DecidableEq

/-- What a command returns; those of the other handlers return an `R`. -/
inductive Rsp (R : Type) where
  | useItem (rsp : PlayerState.UseItemRsp)
  | addItems (rsp : PlayerState.AddItemsRsp)
  | removeItems (rsp : PlayerState.RemoveItemsRsp)
  | other (rsp : R)
deriving DecidableEq

variable {A R : Type}

def Rsp.status : Rsp R → Option Status
  | .useItem rsp => rsp.status
  | .addItems rsp => rsp.status
  | .removeItems rsp => rsp.status
  | .other _ => none

def validContextGid (head : RpcHead) : Option Gid :=
  if head.gid.toNat < 2 ^ 63 ∧ 0 < head.gid.toInt64 ∧ 0 < head.playerSession then some head.gid.toInt64
  else none

/-- The gid of the request, and the one in the head if the caller has set it. -/
def requestGid (head : RpcHead) (gid : Gid) (message : String) : Except Status Gid :=
  if gid ≤ 0 ∨ (head.gid ≠ 0 ∧ head.gid ≠ gid.toUInt64) then
    .error (errorStatus Code.INVALID_ARGUMENT message)
  else .ok gid

namespace ItemReq

def route (head : RpcHead) : ItemReq → Except Status Gid
  | .useItem _ _ =>
    match validContextGid head with
    | none => .error (errorStatus Code.INVALID_ARGUMENT "missing player route")
    | some gid => .ok gid
  | .addItems gid _ => requestGid head gid "invalid add-items route"
  | .removeItems gid _ => requestGid head gid "invalid remove-items route"

/-- What the command does to the player.  A `remove_items` that panics is left out:
    it needs sums that wrap. -/
def logic (hash : HashOrder) (p : PlayerState) : ItemReq → Rsp R × PlayerState
  | .useItem itemId n =>
    let (rsp, q) := p.useItem itemId n
    (.useItem rsp, q)
  | .addItems _ items =>
    let (rsp, q) := p.addItems hash items
    (.addItems rsp, q)
  | .removeItems _ items =>
    match p.removeItems hash items with
    | some (rsp, q) => (.removeItems rsp, q)
    | none => (.removeItems ⟨none, []⟩, p)

def command (hash : HashOrder) (req : ItemReq) : Command PlayerState A (Rsp R) := .use (req.logic hash ·)

/-- The response of the handler. -/
def respond : ItemReq → Except Status (Rsp R) → Rsp R
  | _, .ok response => response
  | .useItem _ _, .error status => .useItem ⟨some status, none⟩
  | .addItems _ _, .error status => .addItems ⟨some status, []⟩
  | .removeItems _ _, .error status => .removeItems ⟨some status, []⟩

/-- The route was refused, or the runtime has answered. -/
def answer (req : ItemReq) (told : Except Status (Except RejectReason (Outcome (Rsp R) PlayerError))) : Rsp R :=
  req.respond (told.bind awaitLogic)

/-! ## The request as a change of the bag -/

def items : ItemReq → List Item
  | .useItem itemId n => [⟨itemId, n, 0⟩]
  | .addItems _ items | .removeItems _ items => items

/-- The count that the request asks for. -/
def result (req : ItemReq) (before : Items) (itemId : Int) : Int :=
  match req with
  | .addItems _ _ => PlayerState.count before itemId + PlayerState.total req.items itemId
  | .useItem _ _ | .removeItems _ _ => PlayerState.count before itemId - PlayerState.total req.items itemId

/-- The sums of the request and the resulting counts are `i64`s. -/
structure Fits (req : ItemReq) (before : Items) : Prop where
  sums : PlayerState.SumsFit req.items
  counts : ∀ itemId, -2 ^ 63 ≤ req.result before itemId ∧ req.result before itemId < 2 ^ 63

def Applied (req : ItemReq) (before after : Items) : Prop :=
  ∀ itemId, PlayerState.count after itemId = req.result before itemId

theorem respond_status (req : ItemReq) (status : Status) :
    (req.respond (.error status) : Rsp R).status = some status := by
  cases req <;> rfl

theorem route_error {head : RpcHead} {req : ItemReq} {status : Status} (refused : req.route head = .error status) :
    ∃ message, status = errorStatus Code.INVALID_ARGUMENT message := by
  cases req with
  | useItem itemId n =>
    simp only [route] at refused
    split at refused
    · exact ⟨_, (Except.error.inj refused).symm⟩
    · cases refused
  | addItems gid items | removeItems gid items =>
    simp only [route, requestGid] at refused
    split at refused
    · exact ⟨_, (Except.error.inj refused).symm⟩
    · cases refused

/-- What `await_logic` makes of an error is not OK. -/
theorem awaitLogic_error {told : Except RejectReason (Outcome (Rsp R) PlayerError)} {status : Status}
    (failed : awaitLogic told = .error status) : some status ≠ some okStatus := by
  have isError : status.code ≠ Code.OK := by
    obtain reason | ⟨_, error | _⟩ | error := told
    · cases failed
      cases reason <;> decide
    · cases failed
      exact (by decide : Code.INTERNAL ≠ Code.OK)
    · cases failed
    · cases failed
      cases error with
      | dirtyCapacity | runtimeStopped => decide
      | load | preload | persistence => exact (by decide : Code.INTERNAL ≠ Code.OK)
  intro same
  exact isError (congrArg Status.code (Option.some.inj same))

/-! ## The commands -/

section Commands

variable {hash : HashOrder} {p : PlayerState}

/-- The command was refused and has left the player alone, or it was carried out. -/
def Decided (req : ItemReq) (p : PlayerState) (ran : Rsp R × PlayerState) : Prop :=
  (ran.1.status ≠ some okStatus ∧ ran.2 = p)
  ∨ (ran.1.status = some okStatus ∧ ran.2.dirty = true ∧ req.Applied p.items ran.2.items)

theorem useItem_decided (itemId n : Int) :
    (ItemReq.useItem itemId n).Decided p ((ItemReq.useItem itemId n).logic hash p : Rsp R × PlayerState) := by
  simp only [logic, PlayerState.useItem]
  split
  · exact .inl ⟨errorStatus_ne_ok (by decide) _, rfl⟩
  · split
    · exact .inl ⟨errorStatus_ne_ok (by decide) _, rfl⟩
    · refine .inr ⟨rfl, rfl, ?_⟩
      intro other
      simp only [result, items, PlayerState.total_singleton]
      by_cases same : itemId = other
      · subst same
        rw [PlayerState.count_setRemaining, if_pos rfl]
      · rw [PlayerState.count, PlayerState.lookup_setRemaining_ne (Ne.symm same), if_neg same, Int.sub_zero,
          PlayerState.count]

theorem addItems_decided {gid : Gid} {items : List Item} (fits : (ItemReq.addItems gid items).Fits p.items) :
    (ItemReq.addItems gid items).Decided p ((ItemReq.addItems gid items).logic hash p : Rsp R × PlayerState) := by
  cases form : PlayerState.wellFormed items with
  | false =>
    simp only [logic, PlayerState.addItems_invalid hash p form]
    exact .inl ⟨errorStatus_ne_ok (by decide) _, rfl⟩
  | true =>
    have sums : PlayerState.SumsFit items := fits.sums
    -- the resulting counts leave room for every change
    have room : p.Fits items := by
      intro itemId amount found
      obtain ⟨_, rfl⟩ := PlayerState.lookup_aggregateItems found
      have inside := fits.counts itemId
      simp only [result, ItemReq.items] at inside
      rw [PlayerState.amount_eq_total sums, PlayerState.checkedAdd, if_pos inside]
      rfl
    have counts := PlayerState.count_addItems sums hash form room
    refine .inr ⟨(PlayerState.addItems_ok_iff hash p items).mpr ⟨form, room⟩, ?_, counts⟩
    simp only [logic, PlayerState.addItems_ok hash form room]

theorem removeItems_decided {gid : Gid} {items : List Item} (fits : (ItemReq.removeItems gid items).Fits p.items) :
    (ItemReq.removeItems gid items).Decided p
      ((ItemReq.removeItems gid items).logic hash p : Rsp R × PlayerState) := by
  cases form : PlayerState.wellFormed items with
  | false =>
    simp only [logic, PlayerState.removeItems_invalid hash p form]
    exact .inl ⟨errorStatus_ne_ok (by decide) _, rfl⟩
  | true =>
    by_cases covered : p.Covered items
    · have room : ∀ itemId, PlayerState.count p.items itemId - PlayerState.total items itemId < 2 ^ 63 :=
        fun itemId => (fits.counts itemId).2
      obtain ⟨rsp, q, ran, isOk, _, dirty, counts⟩ :=
        PlayerState.removeItems_taken form fits.sums room covered hash
      simp only [logic, ran]
      exact .inr ⟨isOk, dirty, counts⟩
    · simp only [logic, PlayerState.removeItems_short hash form covered]
      exact .inl ⟨errorStatus_ne_ok (by decide) _, rfl⟩

theorem logic_decided {req : ItemReq} (fits : req.Fits p.items) :
    req.Decided p (req.logic hash p : Rsp R × PlayerState) := by
  cases req with
  | useItem itemId n => exact useItem_decided itemId n
  | addItems gid items => exact addItems_decided fits
  | removeItems gid items => exact removeItems_decided fits

end Commands

end ItemReq

namespace Persisting

/-! ## A call -/

/-- The result of the call `id`: it was rejected, or the runner is about to send the
    outcome to the caller. -/
def Answers (y : Persisting A R) (gid : Gid) (id : Nat) (command : Command PlayerState A R) :
    Except RejectReason (Outcome R PlayerError) → Prop
  | .error reason => ∃ e, y.runtime.enqueues[id]? = some e ∧ e.phase = .rejected reason
  | .ok outcome => ∃ (i : Nat) (r : Runner PlayerState A R PlayerError) (envelope : Envelope PlayerState A R),
      y.runtime.runners[i]? = some r ∧ r.gid = gid ∧ r.phase = .serving envelope (.finishing outcome)
        ∧ envelope.id = id ∧ envelope.command = command

/-- The handler is called in `x` and answers in `y`, and no other command of the player
    is executed in between. -/
inductive Handled (config : ValidConfig) (hash : HashOrder) (head : RpcHead) (req : ItemReq) (gid : Gid)
    (x y : Persisting A (Rsp R)) : Except Status (Except RejectReason (Outcome (Rsp R) PlayerError)) → Prop
  | refused {status : Status} : req.route head = .error status →
      (system A (Rsp R) config).Run System.Any x y →
      y.runtime.vault.executions gid = x.runtime.vault.executions gid →
      Handled config hash head req gid x y (.error status)
  | called {retainedKib : UInt64} {z : Persisting A (Rsp R)}
      {told : Except RejectReason (Outcome (Rsp R) PlayerError)} : req.route head = .ok gid →
      x.step config.toLogicConfig (.runtime (.tryUse gid retainedKib (req.command hash))) = some z →
      (system A (Rsp R) config).Run System.Any z y →
      y.Answers gid x.runtime.enqueues.length (req.command hash) told →
      (∀ execution ∈ (y.runtime.vault.executions gid).drop (x.runtime.vault.executions gid).length,
        execution.id = x.runtime.enqueues.length) →
      Handled config hash head req gid x y (.ok told)

/-- One generation of the player has got the items that the request asks for, and the
    others were left alone. -/
def Changed (req : ItemReq) (x y : Persisting A (Rsp R)) (gid : Gid) (after : Items) : Prop :=
  ∃ execution c, Ran x y gid execution c ∧ (execution.logic execution.on).2.items = after
    ∧ req.Applied execution.on.items after

/-- A command that leaves its player alone. -/
theorem Ran.same {x y : Persisting A R} {gid : Gid} {execution : Execution PlayerState R} {c : Nat}
    (ran : Ran x y gid execution c) (idle : (execution.logic execution.on).2 = execution.on) :
    SameItems x y gid (fun _ => True) := by
  intro d cell found isGid _
  by_cases same : d = c
  · subst same
    obtain ⟨cell', there, isGid', items⟩ := ran.after
    refine ⟨cell', there, isGid', ?_⟩
    rw [items, idle, ran.before cell found isGid]
  · exact ran.others d cell found isGid same

section Call

variable {config : ValidConfig} {x y : Persisting A R} {gid : Gid} {id : Nat} {command : Command PlayerState A R}

/-- A call that is rejected or fails was not executed. -/
theorem Answers.unran {told : Except RejectReason (Outcome R PlayerError)} (inv : Persisted config y)
    (answers : y.Answers gid id command told)
    (failed : ∀ outcome, told = .ok outcome → outcome.isCompleted = false) :
    id ∉ y.runtime.executed gid := by
  cases told with
  | error reason =>
    obtain ⟨e, found, rejected⟩ := answers
    intro member
    obtain ⟨e', found', _, pushed⟩ := inv.serving.pushed member
    rw [found] at found'
    obtain rfl := Option.some.inj found'
    rw [rejected] at pushed
    cases pushed
  | ok outcome =>
    obtain ⟨i, r, envelope, isRunner, rfl, serving, rfl, _⟩ := answers
    exact inv.serving.unran isRunner serving (failed outcome rfl)

/-- A call that is completed was executed, and the answer reports its execution. -/
theorem Answers.ran {stored : Persisting A R → Gid → Items → Prop} {value : R}
    {result : Except PlayerError Unit} (inv : Persisted config y) (placed : y.runtime.Placed)
    (reported : Reported stored y) (answers : y.Answers gid id command (.ok (.completed value result))) :
    ∃ execution ∈ y.runtime.vault.executions gid, execution.id = id ∧ command.Becomes execution.logic
      ∧ (execution.logic execution.on).1 = value
      ∧ (result = .ok () → (execution.logic execution.on).2.dirty = true →
        stored y gid (execution.logic execution.on).2.items) := by
  obtain ⟨i, r, envelope, isRunner, rfl, serving, rfl, rfl⟩ := answers
  obtain ⟨c, player⟩ := Option.isSome_iff_exists.mp (placed i r envelope _ _ isRunner serving rfl)
  obtain ⟨cell, found, isGid⟩ := inv.serving.served.located.cell_of isRunner player
  obtain ⟨execution, member, isOf, isValue, items, good⟩ :=
    reported i r envelope _ c cell value result ⟨isRunner, serving, player, found⟩ rfl
  rw [isGid] at member good
  refine ⟨execution, member, isOf.1, isOf.2, isValue, ?_⟩
  intro isOk dirty
  rw [items]
  exact (good isOk).2 dirty

end Call

section Handler

variable {config : ValidConfig} {hash : HashOrder} {head : RpcHead} {req : ItemReq} {gid : Gid}
  {x y : Persisting A (Rsp R)}

/-- A handler that does not answer OK has left the items of its player alone, unless the
    save after the command has failed: the answer is that error then, and the items are
    in memory what the request asks for.  A handler that answers OK has made the change,
    and the store has it, when one runner has served the player or there was never a
    second unsaved generation of it. -/
theorem refused_item_call_without_effect {told : Except Status (Except RejectReason (Outcome (Rsp R) PlayerError))}
    (reached : (system A (Rsp R) config).Reach System.Any x) (handled : Handled config hash head req gid x y told)
    (fits : ∀ execution ∈ y.runtime.vault.executions gid, execution.id = x.runtime.enqueues.length →
      req.Fits execution.on.items) :
    ((req.answer told).status ≠ some okStatus → SameItems x y gid (fun _ => True)
      ∨ ∃ value error after, told = .ok (.ok (.completed value (.error error))) ∧ value.status = some okStatus
        ∧ (req.answer told).status = some (errorStatus Code.INTERNAL error) ∧ Changed req x y gid after)
    ∧ ((req.answer told).status = some okStatus → ∃ after, Changed req x y gid after
      ∧ (Whole config gid y → y.documents gid = some after)) := by
  cases handled with
  | @refused status noRoute run idle =>
    obtain ⟨executions, appended, same, _⟩ := items_run run gid
    have none : executions = [] := by simpa [idle] using appended
    refine ⟨fun _ => .inl (same none), ?_⟩
    intro isOk
    obtain ⟨message, rfl⟩ := ItemReq.route_error noRoute
    rw [ItemReq.answer, Except.bind, ItemReq.respond_status] at isOk
    exact absurd isOk (errorStatus_ne_ok (by decide) _)
  | @called retainedKib z told _ submitted rest answers alone =>
    have run : (system A (Rsp R) config).Run System.Any x y :=
      (System.Run.step .refl trivial submitted).trans rest
    have inv := persisted_reach (reached.run run)
    obtain ⟨unran, ran⟩ := alone_run reached run alone
    have fresh : x.runtime.enqueues.length ∉ x.runtime.executed gid := by
      intro member
      obtain ⟨e, found, _⟩ := (persisted_reach reached).serving.pushed member
      exact Nat.lt_irrefl _ (Pool.lt_length found)
    -- whatever is not completed has not run
    have idle : (∀ outcome, told = .ok outcome → outcome.isCompleted = false) →
        SameItems x y gid (fun _ => True) :=
      fun failed => unran (answers.unran inv failed)
    have notOk : ∀ {status : Status}, awaitLogic told = .error status →
        (req.answer (.ok told)).status = some status ∧ some status ≠ some okStatus := by
      intro status failed
      refine ⟨?_, ItemReq.awaitLogic_error failed⟩
      rw [ItemReq.answer, Except.bind, failed, ItemReq.respond_status]
    obtain reason | ⟨value, result⟩ | error := told
    · obtain ⟨isStatus, notOk⟩ := notOk rfl
      refine ⟨fun _ => .inl (idle (by intro outcome isOutcome; cases isOutcome)), fun isOk => ?_⟩
      exact absurd (isStatus.symm.trans isOk) notOk
    · obtain ⟨execution, member, isId, becomes, isValue, stored⟩ :=
        answers.ran inv (placed_reach (reached.run run)) (reported_documents (reached.run run) gid)
      obtain ⟨c, ranAt⟩ := ran fresh execution member isId
      have decided : req.Decided execution.on (execution.logic execution.on) := by
        rw [becomes]
        exact ItemReq.logic_decided (fits execution member isId)
      cases result with
      | error error =>
        obtain ⟨isStatus, notOk⟩ := notOk rfl
        refine ⟨fun _ => ?_, fun isOk => absurd (isStatus.symm.trans isOk) notOk⟩
        obtain ⟨_, idle⟩ | ⟨isOk, _, applied⟩ := decided
        · exact .inl (ranAt.same idle)
        · exact .inr ⟨value, error, _, rfl, isValue ▸ isOk, isStatus, execution, c, ranAt, rfl, applied⟩
      | ok _ =>
        have isAnswer : req.answer (.ok (.ok (.completed value (.ok ())))) = (execution.logic execution.on).1 := by
          rw [isValue]
          cases req <;> rfl
        rw [isAnswer]
        obtain ⟨notOk, idle⟩ | ⟨isOk, dirty, applied⟩ := decided
        · exact ⟨fun _ => .inl (ranAt.same idle), fun isOk => absurd isOk notOk⟩
        · refine ⟨fun notOk => absurd isOk notOk, fun _ => ⟨_, ⟨execution, c, ranAt, rfl, applied⟩, ?_⟩⟩
          exact stored rfl dirty rfl
    · obtain ⟨isStatus, notOk⟩ := notOk rfl
      refine ⟨fun _ => .inl (idle (by intro outcome isOutcome; cases isOutcome; rfl)), fun isOk => ?_⟩
      exact absurd (isStatus.symm.trans isOk) notOk

end Handler

/-! ## A schedule -/

section Schedule

variable {config : ValidConfig} {x y z : Persisting A R} {gid : Gid} {command : Command PlayerState A R}

theorem commands_call {retainedKib : UInt64}
    (taken : x.step config.toLogicConfig (.runtime (.tryUse gid retainedKib command)) = some y) :
    y.runtime.commands = x.runtime.commands ++ [command] := by
  simp only [Persisting.step, Option.ite_none_right_eq_some] at taken
  have stepped := (advance_runtime taken.2).1
  simp only [Runtime.step, Runtime.tryUse, Option.map_eq_some_iff] at stepped
  obtain ⟨pool, _, isRuntime⟩ := stepped
  rw [← isRuntime]
  simp [Runtime.commands]

/-- A submitted command is not forgotten. -/
theorem commands_run {C : Persisting A R → Label A R → Prop} (run : (system A R config).Run C x y) :
    x.runtime.commands <+: y.runtime.commands := by
  refine run.inv (I := fun y => x.runtime.commands <+: y.runtime.commands) ?_ (List.prefix_refl _)
  intro y l z before _ taken
  refine before.trans ?_
  obtain same | ⟨l, stepped⟩ := runtime_step taken
  · rw [same]
  · unfold Runtime.commands
    cases Runtime.step_moves stepped with
    | submit commands =>
      rw [commands]
      exact List.prefix_append _ _
    | rest commands | spawn commands => rw [commands]
    | pass _ enqueues | serve _ _ _ enqueues | insert _ _ enqueues | quiet enqueues | save _ _ enqueues
    | evict _ _ _ enqueues | evicted _ enqueues => rw [enqueues]

/-- The commands after a call, when nothing else was submitted. -/
theorem commands_of_call {C : Persisting A R → Label A R → Prop} {retainedKib : UInt64}
    (taken : x.step config.toLogicConfig (.runtime (.tryUse gid retainedKib command)) = some z)
    (run : (system A R config).Run C z y)
    (single : y.runtime.enqueues.length = x.runtime.enqueues.length + 1) :
    y.runtime.commands = x.runtime.commands ++ [command] := by
  rw [← commands_call taken]
  symm
  apply (commands_run run).eq_of_length
  rw [commands_call taken]
  simp [Runtime.commands, single]

/-- The runner has the answer of the command, when all commands are the same. -/
theorem Answers.of_commands {id i : Nat} {outcome : Outcome R PlayerError} {r : Runner PlayerState A R PlayerError}
    {envelope : Envelope PlayerState A R} (inv : Persisted config y)
    (commands : ∀ other ∈ y.runtime.commands, other = command) (isRunner : y.runtime.runners[i]? = some r)
    (isGid : r.gid = gid) (serving : r.phase = .serving envelope (.finishing outcome)) (isId : envelope.id = id) :
    y.Answers gid id command (.ok outcome) := by
  refine ⟨i, r, envelope, isRunner, isGid, serving, isId, commands _ ?_⟩
  refine inv.submitted.hands i r isRunner envelope ?_
  simp [serving, RunnerPhase.envelopes]

end Schedule

/-- Five pieces of an item. -/
def grant : ItemReq := .addItems 7 [⟨1, 5, 0⟩]

def callsGrant : Label Unit (Rsp Unit) := .runtime (.tryUse 7 1 (grant.command .inserted))

/-- The call `i` goes into the mailbox. -/
def accepts (i : Nat) : List (Label Unit (Rsp Unit)) :=
  .runtime (.lock i) :: List.replicate 5 (.runtime (.acquire i false)) ++ [.runtime (.acquired i)]

def goes (n : Nat) : List (Label Unit (Rsp Unit)) := List.replicate n (.runtime (.run 0 .go true))

/-- The first grant to a new player, up to its answer. -/
def granted : List (Label Unit (Rsp Unit)) :=
  accepts 0 ++ [.runtime (.count 0), .runtime (.spawn 0)] ++ goes 1 ++ [.find 0, .create 0, .loaded 0] ++ goes 9
    ++ [.snapshot (.runner 0) 0, .write 0, .clear (.runner 0)] ++ goes 4

/-- A second grant, with the steps of the saver. -/
def regranted (saves : List (Label Unit (Rsp Unit))) : List (Label Unit (Rsp Unit)) :=
  accepts 1 ++ goes 13 ++ saves ++ goes 3

/-- The call, the status of its command and the error of the save that the runner sends. -/
def sends (r : Runner PlayerState Unit (Rsp Unit) PlayerError) : Option (Nat × Option Status × Option PlayerError) :=
  match r.phase with
  | .serving envelope (.finishing (.completed value (.ok _))) => some (envelope.id, value.status, none)
  | .serving envelope (.finishing (.completed value (.error error))) => some (envelope.id, value.status, some error)
  | _ => none

theorem sends_eq {r : Runner PlayerState Unit (Rsp Unit) PlayerError} {id : Nat} {status : Option Status}
    {failure : Option PlayerError} (isSent : sends r = some (id, status, failure)) :
    ∃ envelope value, r.phase = .serving envelope (.finishing (.completed value (failure.elim (.ok ()) .error)))
      ∧ envelope.id = id ∧ value.status = status := by
  unfold sends at isSent
  split at isSent
  · next envelope value _ serving =>
    cases isSent
    exact ⟨envelope, value, serving, rfl, rfl⟩
  · next envelope value error serving =>
    cases isSent
    exact ⟨envelope, value, serving, rfl, rfl⟩
  · cases isSent

theorem grant_fits {items : Items} (five : items.entries = [⟨1, 5⟩]) : grant.Fits items where
  sums := PlayerState.sumsFit_singleton (by decide) (by decide)
  counts := by
    intro itemId
    have count : PlayerState.count items itemId = if itemId = 1 then 5 else 0 := by
      by_cases same : itemId = 1
      · subst same
        simp [PlayerState.count, AList.lookup, five]
      · rw [PlayerState.count, AList.lookup, five, List.dlookup_cons_ne [] ⟨1, 5⟩ same, if_neg same]
        rfl
    simp only [ItemReq.result, grant, ItemReq.items, PlayerState.total_singleton, count]
    split <;> split <;> decide

/-- The player has five pieces, and the first call is answered. -/
def GrantedOnce (x : Persisting Unit (Rsp Unit)) : Prop :=
  x.runtime.enqueues.length = 1 ∧ (x.runtime.vault.executions 7).length = 1
  ∧ ∃ cell, x.runtime.vault.cells[0]? = some cell ∧ cell.gid = 7 ∧ PlayerState.count cell.state.items 1 = 5

/-- The player has ten, and the runner sends the second answer. -/
def GrantedTwice (failure : Option PlayerError) (y : Persisting Unit (Rsp Unit)) : Prop :=
  y.runtime.enqueues.length = 2 ∧ y.runtime.runners.length = 1
  ∧ (∀ execution ∈ (y.runtime.vault.executions 7).drop 1, execution.id = 1)
  ∧ (∀ execution ∈ y.runtime.vault.executions 7, execution.id = 1 → execution.on.items.entries = [⟨1, 5⟩])
  ∧ (∃ cell, y.runtime.vault.cells[0]? = some cell ∧ PlayerState.count cell.state.items 1 = 10)
  ∧ ∃ r, y.runtime.runners[0]? = some r ∧ r.gid = 7 ∧ sends r = some (1, some okStatus, failure)

instance (x : Persisting Unit (Rsp Unit)) : Decidable (GrantedOnce x) :=
  inferInstanceAs (Decidable (_ ∧ _))

instance (failure : Option PlayerError) (y : Persisting Unit (Rsp Unit)) : Decidable (GrantedTwice failure y) :=
  inferInstanceAs (Decidable (_ ∧ _))

/-- The schedule of the two grants. -/
def Scheduled (failure : Option PlayerError) (saves : List (Label Unit (Rsp Unit))) : Prop :=
  ∃ x₀, (initial .hardLimits fun _ => none).step LogicConfig.HARD_LIMITS callsGrant = some x₀
    ∧ ∃ x, System.follow System.Any (step LogicConfig.HARD_LIMITS) x₀ granted = some x ∧ GrantedOnce x
    ∧ ∃ z, x.step LogicConfig.HARD_LIMITS callsGrant = some z
    ∧ ∃ y, System.follow System.Any (step LogicConfig.HARD_LIMITS) z (regranted saves) = some y
      ∧ GrantedTwice failure y

theorem scheduled_stored : Scheduled none [.snapshot (.runner 0) 0, .write 0, .clear (.runner 0)] := by
  unfold Scheduled
  decide +kernel

theorem scheduled_unavailable :
    Scheduled (some "unavailable") [.snapshot (.runner 0) 0, .giveUp (.runner 0) "unavailable"] := by
  unfold Scheduled
  decide +kernel

/-- The second grant as a call of the handler. -/
theorem Scheduled.handled {failure : Option PlayerError} {saves : List (Label Unit (Rsp Unit))}
    (scheduled : Scheduled failure saves) :
    ∃ (x y : Persisting Unit (Rsp Unit)) (value : Rsp Unit),
      (system Unit (Rsp Unit) .hardLimits).Reach System.Any x ∧ GrantedOnce x ∧ GrantedTwice failure y
      ∧ value.status = some okStatus
      ∧ Handled .hardLimits .inserted ⟨0, 0⟩ grant 7 x y
        (.ok (.ok (.completed value (failure.elim (.ok ()) .error))))
      ∧ ∀ execution ∈ y.runtime.vault.executions 7, execution.id = x.runtime.enqueues.length →
        grant.Fits execution.on.items := by
  obtain ⟨x₀, first, x, followed, once, z, second, y, followed', twice⟩ := scheduled
  have run : (system Unit (Rsp Unit) .hardLimits).Run System.Any x₀ x := System.run_of_follow followed
  have run' : (system Unit (Rsp Unit) .hardLimits).Run System.Any z y := System.run_of_follow followed'
  have start : (system Unit (Rsp Unit) .hardLimits).Reach System.Any (initial .hardLimits fun _ => none) :=
    .of_init ⟨_, rfl⟩
  have reached := (start.step trivial first).run run
  have inv := persisted_reach ((reached.step trivial second).run run')
  have ⟨called, executed, _⟩ := once
  have ⟨called', _, alone, five, _, r, isRunner, isGid, isSent⟩ := twice
  -- both commands are the same
  have commands : ∀ other ∈ y.runtime.commands, other = grant.command .inserted := by
    rw [commands_of_call second run' (by rw [called, called']), commands_of_call first run (by rw [called]; rfl)]
    simp [Runtime.commands, initial, Runtime.initial]
  obtain ⟨envelope, value, serving, isId, isOk⟩ := sends_eq isSent
  have answers := Answers.of_commands inv commands isRunner isGid serving isId
  refine ⟨x, y, value, reached, once, twice, isOk, ?_, ?_⟩
  · rw [← called] at answers
    refine .called rfl second run' answers ?_
    rw [called, executed]
    exact alone
  · rw [called]
    exact fun execution member isId => grant_fits (five execution member isId)

/-- A second grant is stored on top of the first. -/
theorem second_grant_stored :
    ∃ (x y : Persisting Unit (Rsp Unit)) (value : Rsp Unit) (after : Items),
      Handled .hardLimits .inserted ⟨0, 0⟩ grant 7 x y (.ok (.ok (.completed value (.ok ()))))
      ∧ (grant.answer (.ok (.ok (.completed value (.ok ()))))).status = some okStatus
      ∧ Changed grant x y 7 after ∧ y.documents 7 = some after := by
  obtain ⟨x, y, value, reached, _, twice, isOk, handled, fits⟩ := scheduled_stored.handled
  obtain ⟨after, changed, stored⟩ := (refused_item_call_without_effect reached handled fits).2 isOk
  have one : OneRunner 7 y := by
    intro i j r r' isRunner isRunner' _ _
    have first := Pool.lt_length isRunner
    have second := Pool.lt_length isRunner'
    have single := twice.2.1
    omega
  exact ⟨x, y, value, after, handled, isOk, changed, stored (.inl one)⟩

/-- The save of a second grant fails: the caller is told so, and the player has it. -/
theorem unsaved_grant_kept :
    ¬ ∀ (config : ValidConfig) (hash : HashOrder) (head : RpcHead) (req : ItemReq) (gid : Gid)
        (x y : Persisting Unit (Rsp Unit))
        (told : Except Status (Except RejectReason (Outcome (Rsp Unit) PlayerError))),
      (system Unit (Rsp Unit) config).Reach System.Any x → Handled config hash head req gid x y told →
      (∀ execution ∈ y.runtime.vault.executions gid, execution.id = x.runtime.enqueues.length →
        req.Fits execution.on.items) →
      ((req.answer told).status ≠ some okStatus → SameItems x y gid (fun _ => True))
      ∧ ((req.answer told).status = some okStatus → ∃ after, Changed req x y gid after
        ∧ y.documents gid = some after) := by
  intro all
  obtain ⟨x, y, value, reached, once, twice, isOk, handled, fits⟩ := scheduled_unavailable.handled
  obtain ⟨_, _, cell, found, isGid, five⟩ := once
  obtain ⟨_, _, _, _, ⟨cell', there, ten⟩, _⟩ := twice
  have same := (all _ _ _ _ _ _ _ _ reached handled fits).1 (errorStatus_ne_ok (by decide) _)
  obtain ⟨other, there', _, items⟩ := same 0 cell found isGid trivial
  rw [there] at there'
  obtain rfl := Option.some.inj there'
  rw [items, five] at ten
  cases ten

end Persisting

end Xkk.Logic

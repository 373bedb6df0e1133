import Xkk.Lib.Table
import Xkk.Logic.Vault
import Xkk.Protocol.Messages

/-! # The state of a player in Logic

`PlayerState` is what the Logic service keeps in its runtime: the items of the
player, the session in which the player is, and the dirty flag.  The profile is
left out, nothing here reads it.

A map is iterated in an order that its hasher decides; `HashOrder` is any such
order.
-/

namespace Xkk.Logic

open Xkk.Lib Xkk.Protocol

structure PlayerSession where
  gateId : Int
  sessionId : Int
deriving DecidableEq, Repr

abbrev Items := Table.Map Int Int

structure PlayerState where
  items : Items
  session : Option PlayerSession
  dirty : Bool
deriving DecidableEq

instance : LogicState PlayerState where
  isDirty p := p.dirty

/-- The order in which the entries of a map are visited. -/
structure HashOrder where
  order : List (Sigma fun _ : Int => Int) → List (Sigma fun _ : Int => Int)
  perm : ∀ l, (order l).Perm l

def HashOrder.inserted : HashOrder := ⟨id, fun _ => .refl _⟩

/-! ## Calls -/

def rejectStatus : RejectReason → Status
  | .calls => errorStatus Code.OVERLOADED "Logic call capacity exhausted"
  | .kib => errorStatus Code.OVERLOADED "Logic retained bytes exhausted"
  | .gid => errorStatus Code.OVERLOADED "Logic player mailbox exhausted"
  | .draining => errorStatus Code.OVERLOADED "Logic is draining"

/-- The text of an error of the store. -/
abbrev PlayerError := String

def callStatus : LogicCallError PlayerError → Status
  | .dirtyCapacity => errorStatus Code.OVERLOADED "Logic dirty-player capacity exhausted"
  | .runtimeStopped => errorStatus Code.TEMPORARILY_UNAVAILABLE "Logic stopped"
  | .load error => errorStatus Code.INTERNAL ("logic player load failed: " ++ error)
  | .preload error => errorStatus Code.INTERNAL ("logic player preload failed: " ++ error)
  | .persistence error => errorStatus Code.INTERNAL ("logic player persistence failed: " ++ error)

/-- A result is reported only when the player could be saved. -/
def awaitLogic {R : Type} : Except RejectReason (Outcome R PlayerError) → Except Status R
  | .error reason => .error (rejectStatus reason)
  | .ok (.failed error) => .error (callStatus error)
  | .ok (.completed _ (.error error)) => .error (errorStatus Code.INTERNAL error)
  | .ok (.completed value (.ok _)) => .ok value

namespace PlayerState

/-! ## Sessions -/

/-- `became_online`; the rest of the `LoginResult` is the response. -/
def login (p : PlayerState) (gateId sessionId : Int) : Bool × PlayerState :=
  (p.session.isNone, { p with session := some ⟨gateId, sessionId⟩ })

def disconnect (p : PlayerState) (gateId sessionId : Int) : Bool × PlayerState :=
  let isCurrent := p.session.any fun current => current.gateId = gateId ∧ current.sessionId = sessionId
  (isCurrent, if isCurrent then { p with session := none } else p)

/-! ## Items -/

structure AddItemsRsp where
  status : Option Status
  items : List Item
deriving DecidableEq, Repr

def count (items : Items) (itemId : Int) : Int := (items.lookup itemId).getD 0

def aggregateItems (items : List Item) : Items :=
  items.foldl (fun sums item => sums.insert item.itemId (wrapI64 (count sums item.itemId + item.count))) ∅

/-- A request whose ids and counts are all positive. -/
def wellFormed (items : List Item) : Bool :=
  !items.isEmpty && !items.any fun item => item.itemId ≤ 0 || item.count ≤ 0

/-- `checked_add` -/
def checkedAdd (a b : Int) : Option Int :=
  if -2 ^ 63 ≤ a + b ∧ a + b < 2 ^ 63 then some (a + b) else none

/-- The loop of `add_items`: it stops at the first overflow, and keeps what it has
    inserted. -/
def applyChanges : List (Sigma fun _ : Int => Int) → Items → Bool × Items
  | [], items => (true, items)
  | ⟨itemId, amount⟩ :: rest, items =>
    match checkedAdd (count items itemId) amount with
    | none => (false, items)
    | some next => applyChanges rest (items.insert itemId next)

def addItems (hash : HashOrder) (p : PlayerState) (items : List Item) : AddItemsRsp × PlayerState :=
  if wellFormed items then
    let changes := hash.order (aggregateItems items).entries
    match applyChanges changes p.items with
    | (false, partly) =>
      (⟨some (errorStatus Code.CONFLICT "item count overflow"), []⟩, { p with items := partly })
    | (true, added) =>
      (⟨some okStatus, changes.map fun change => ⟨change.1, count added change.1, change.2⟩⟩,
        { p with items := added, dirty := true })
  else (⟨some (errorStatus Code.INVALID_ARGUMENT "invalid add-items request"), []⟩, p)

/-- Every count has room for its change. -/
def Fits (p : PlayerState) (items : List Item) : Prop :=
  ∀ itemId amount, (aggregateItems items).lookup itemId = some amount →
    (checkedAdd (count p.items itemId) amount).isSome = true

instance (p : PlayerState) (items : List Item) : Decidable (p.Fits items) :=
  decidable_of_iff (∀ e ∈ (aggregateItems items).entries, (checkedAdd (count p.items e.1) e.2).isSome = true)
    ⟨fun all itemId amount found => all ⟨itemId, amount⟩ (AList.mem_lookup_iff.mp found),
      fun all e member => all e.1 e.2 (AList.mem_lookup_iff.mpr member)⟩

/-- The loop runs through exactly when every change fits. -/
theorem applyChanges_fst {changes : List (Sigma fun _ : Int => Int)} (keys : changes.NodupKeys) (items : Items) :
    (applyChanges changes items).1 = true ↔
      ∀ e ∈ changes, (checkedAdd (count items e.1) e.2).isSome = true := by
  induction changes generalizing items with
  | nil => simp [applyChanges]
  | cons e rest ih =>
    obtain ⟨itemId, amount⟩ := e
    obtain ⟨absent, restKeys⟩ := List.nodupKeys_cons.mp keys
    rw [applyChanges]
    cases sum : checkedAdd (count items itemId) amount with
    | none => simp [sum]
    | some next =>
      -- the other keys are looked up past the insertion
      have elsewhere : ∀ e ∈ rest, count (items.insert itemId next) e.1 = count items e.1 := by
        intro e member
        have differ : e.1 ≠ itemId := by
          intro same
          have key : e.1 ∈ rest.keys := List.mem_keys_of_mem member
          exact absent (same ▸ key)
        rw [count, AList.lookup_insert_ne differ, count]
      simp only [ih restKeys, List.forall_mem_cons, sum, Option.isSome_some, true_and]
      constructor
      · intro all e member
        rw [← elsewhere e member]
        exact all e member
      · intro all e member
        rw [elsewhere e member]
        exact all e member

/-- Whatever the order of the map, `add_items` answers OK exactly when the request
    is well formed and fits. -/
theorem addItems_ok_iff (hash : HashOrder) (p : PlayerState) (items : List Item) :
    (p.addItems hash items).1.status = some okStatus ↔ wellFormed items = true ∧ p.Fits items := by
  have visits : (hash.order (aggregateItems items).entries).Perm (aggregateItems items).entries :=
    hash.perm _
  have keys : (hash.order (aggregateItems items).entries).NodupKeys :=
    (List.perm_nodupKeys visits).mpr (aggregateItems items).nodupKeys
  have fits : (applyChanges (hash.order (aggregateItems items).entries) p.items).1 = true ↔ p.Fits items := by
    rw [applyChanges_fst keys]
    constructor
    · intro all itemId amount found
      exact all ⟨itemId, amount⟩ (visits.mem_iff.mpr (AList.mem_lookup_iff.mp found))
    · intro all e member
      exact all e.1 e.2 (AList.mem_lookup_iff.mpr (visits.mem_iff.mp member))
  cases form : wellFormed items with
  | false => simp [addItems, form, okStatus, errorStatus, Code.INVALID_ARGUMENT, Code.OK]
  | true =>
    rw [← fits]
    cases ran : applyChanges (hash.order (aggregateItems items).entries) p.items with
    | mk through added =>
      cases through with
      | false => simp [addItems, form, ran, okStatus, errorStatus, Code.CONFLICT, Code.OK]
      | true => simp [addItems, form, ran]

end PlayerState

end Xkk.Logic

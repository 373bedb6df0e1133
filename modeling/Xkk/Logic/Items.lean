import Xkk.Logic.PlayerState
import Mathlib.Algebra.Order.BigOperators.Group.List
import Mathlib.Algebra.Order.Group.Int

/-! # The items of a player

`use_item`, `remove_items` and `check_items` beside the `add_items` of
`PlayerState`.  A request may name an item several times; `aggregate_items` sums
its counts in 64-bit arithmetic before anything is checked.

The abstract view of the items is a bag: `count` of every id.  `total` is the
mathematical sum that a request asks for, and where the sums fit into an `i64`
the operations add it to the bag and take it away.
-/

namespace Xkk.Logic

open Xkk.Lib Xkk.Protocol

/-- A change of a map of items, as the iteration visits it. -/
abbrev Change := Sigma fun _ : Int => Int

/-- The map is visited from a given entry on. -/
def HashOrder.first (entries : List Change) (change : Change) (member : change ∈ entries) : HashOrder where
  order l := if l = entries then change :: entries.erase change else l
  perm := by
    intro l
    split
    · next same =>
      rw [same]
      exact (List.perm_cons_erase member).symm
    · exact .refl _

theorem errorStatus_ne_ok {code : Int} (notOk : code ≠ Code.OK) (message : String) :
    some (errorStatus code message) ≠ some okStatus := by
  intro same
  exact notOk (congrArg Status.code (Option.some.inj same))

namespace PlayerState

structure UseItemRsp where
  status : Option Status
  item : Option Item
deriving DecidableEq, Repr

structure RemoveItemsRsp where
  status : Option Status
  items : List Item
deriving DecidableEq, Repr

structure CheckItemsRsp where
  status : Option Status
  enough : Bool
deriving DecidableEq, Repr

/-- An entry disappears when nothing remains of it. -/
def setRemaining (items : Items) (itemId remaining : Int) : Items :=
  if remaining = 0 then items.erase itemId else items.insert itemId remaining

def useItem (p : PlayerState) (itemId n : Int) : UseItemRsp × PlayerState :=
  if itemId ≤ 0 ∨ n ≤ 0 then
    (⟨some (errorStatus Code.INVALID_ARGUMENT "invalid item request"), none⟩, p)
  else
    let current := count p.items itemId
    if current < n then
      (⟨some (errorStatus Code.INSUFFICIENT_ITEMS "insufficient items"), some ⟨itemId, current, 0⟩⟩, p)
    else
      let remaining := current - n
      (⟨some okStatus, some ⟨itemId, remaining, -n⟩⟩,
        { p with items := setRemaining p.items itemId remaining, dirty := true })

/-- The loop of `remove_items`: `none` where it indexes an item that is not there. -/
def takeChanges : List Change → Items → Option (Items × List Item)
  | [], items => some (items, [])
  | ⟨itemId, amount⟩ :: rest, items =>
    match items.lookup itemId with
    | none => none
    | some current =>
      let remaining := wrapI64 (current - amount)
      (takeChanges rest (setRemaining items itemId remaining)).map fun (items, result) =>
        (items, ⟨itemId, remaining, wrapI64 (-amount)⟩ :: result)

/-- `none` where the call panics. -/
def removeItems (hash : HashOrder) (p : PlayerState) (items : List Item) :
    Option (RemoveItemsRsp × PlayerState) :=
  if wellFormed items then
    let changes := hash.order (aggregateItems items).entries
    if changes.any fun change => count p.items change.1 < change.2 then
      some (⟨some (errorStatus Code.INSUFFICIENT_ITEMS "insufficient items"), []⟩, p)
    else
      (takeChanges changes p.items).map fun (left, result) =>
        (⟨some okStatus, result⟩, { p with items := left, dirty := true })
  else some (⟨some (errorStatus Code.INVALID_ARGUMENT "invalid remove-items request"), []⟩, p)

def checkItems (p : PlayerState) (items : List Item) : CheckItemsRsp :=
  if wellFormed items then
    ⟨some okStatus, (aggregateItems items).entries.all fun change => count p.items change.1 ≥ change.2⟩
  else ⟨some (errorStatus Code.INVALID_ARGUMENT "invalid check-items request"), false⟩

/-! ## The bag -/

/-- How many pieces of an item a request asks for. -/
def total (items : List Item) (itemId : Int) : Int :=
  ((items.filter fun item => item.itemId = itemId).map Item.count).sum

/-- Two maps with the same entries. -/
def SameItems (a b : Items) : Prop := ∀ itemId, a.lookup itemId = b.lookup itemId

/-- Every count is a positive `i64`. -/
def Stocked (items : Items) : Prop :=
  ∀ itemId n, items.lookup itemId = some n → 0 < n ∧ n < 2 ^ 63

/-- The sums of the request are `i64`s. -/
def SumsFit (items : List Item) : Prop :=
  ∀ itemId, -2 ^ 63 ≤ total items itemId ∧ total items itemId < 2 ^ 63

theorem SameItems.refl (items : Items) : SameItems items items := fun _ => rfl

theorem SameItems.count {a b : Items} (same : SameItems a b) (itemId : Int) :
    count a itemId = count b itemId := by
  rw [PlayerState.count, PlayerState.count, same]

section Maps

variable {items : Items} {itemId other n : Int}

theorem count_of_lookup (found : items.lookup itemId = some n) : count items itemId = n := by
  rw [count, found, Option.getD_some]

theorem count_insert (items : Items) (itemId n : Int) : count (items.insert itemId n) itemId = n := by
  rw [count, AList.lookup_insert, Option.getD_some]

theorem count_insert_ne (differ : other ≠ itemId) :
    count (items.insert itemId n) other = count items other := by
  rw [count, AList.lookup_insert_ne differ, count]

theorem lookup_setRemaining_ne (differ : other ≠ itemId) :
    (setRemaining items itemId n).lookup other = items.lookup other := by
  unfold setRemaining
  split
  · exact AList.lookup_erase_ne differ
  · exact AList.lookup_insert_ne differ

theorem count_setRemaining (items : Items) (itemId n : Int) :
    count (setRemaining items itemId n) itemId = n := by
  unfold setRemaining
  split
  · next none =>
    rw [count, AList.lookup_erase, none]
    rfl
  · exact count_insert ..

theorem Stocked.nonneg (stocked : Stocked items) (itemId : Int) : 0 ≤ count items itemId := by
  cases found : items.lookup itemId with
  | none => simp [count, found]
  | some n =>
    rw [count_of_lookup found]
    exact Int.le_of_lt (stocked itemId n found).1

theorem Stocked.lt (stocked : Stocked items) (itemId : Int) : count items itemId < 2 ^ 63 := by
  cases found : items.lookup itemId with
  | none => simp [count, found]
  | some n =>
    rw [count_of_lookup found]
    exact (stocked itemId n found).2

/-- An item that is counted is there. -/
theorem lookup_of_count_pos (positive : 0 < count items itemId) :
    items.lookup itemId = some (count items itemId) := by
  cases found : items.lookup itemId with
  | none => simp [count, found] at positive
  | some n => rw [count_of_lookup found]

/-- In a stocked map the counts say everything. -/
theorem Stocked.lookup_eq (stocked : Stocked items) (itemId : Int) :
    items.lookup itemId = if count items itemId = 0 then none else some (count items itemId) := by
  cases found : items.lookup itemId with
  | none => simp [count, found]
  | some n =>
    have positive := (stocked itemId n found).1
    rw [count_of_lookup found, if_neg (by omega)]

theorem Stocked.same {items' : Items} (stocked : Stocked items) (stocked' : Stocked items')
    (counts : ∀ itemId, count items itemId = count items' itemId) : SameItems items items' := by
  intro itemId
  rw [stocked.lookup_eq, stocked'.lookup_eq, counts]

theorem Stocked.insert (stocked : Stocked items) (positive : 0 < n) (fits : n < 2 ^ 63) :
    Stocked (items.insert itemId n) := by
  intro other m found
  by_cases same : other = itemId
  · rw [same, AList.lookup_insert] at found
    obtain rfl := Option.some.inj found
    exact ⟨positive, fits⟩
  · rw [AList.lookup_insert_ne same] at found
    exact stocked other m found

theorem Stocked.setRemaining (stocked : Stocked items) (nonneg : 0 ≤ n) (fits : n < 2 ^ 63) :
    Stocked (setRemaining items itemId n) := by
  unfold PlayerState.setRemaining
  split
  · intro other m found
    by_cases same : other = itemId
    · rw [same, AList.lookup_erase] at found
      cases found
    · rw [AList.lookup_erase_ne same] at found
      exact stocked other m found
  · exact stocked.insert (by omega) fits

end Maps

/-! ## Sums -/

theorem wrapI64_ge (n : Int) : -2 ^ 63 ≤ wrapI64 n := by
  have bound := Int.le_bmod (x := n) (m := 2 ^ 64) (by decide)
  rw [wrapI64]
  omega

theorem wrapI64_lt (n : Int) : wrapI64 n < 2 ^ 63 := by
  have bound := Int.bmod_lt (x := n) (m := 2 ^ 64) (by decide)
  rw [wrapI64]
  omega

theorem wrapI64_of_fits {n : Int} (ge : -2 ^ 63 ≤ n) (lt : n < 2 ^ 63) : wrapI64 n = n := by
  refine Int.bmod_eq_of_le ?_ ?_
  · omega
  · omega

theorem total_append (items : List Item) (item : Item) (itemId : Int) :
    total (items ++ [item]) itemId = total items itemId + if item.itemId = itemId then item.count else 0 := by
  rw [total, List.filter_append, List.map_append, List.sum_append, total]
  by_cases same : item.itemId = itemId
  · simp [same]
  · simp [same]

theorem aggregateItems_append (items : List Item) (item : Item) :
    aggregateItems (items ++ [item]) = (aggregateItems items).insert item.itemId
      (wrapI64 (count (aggregateItems items) item.itemId + item.count)) := by
  rw [aggregateItems, List.foldl_append]
  rfl

/-- `aggregate_items` computes every sum modulo `2 ^ 64`. -/
theorem count_aggregateItems (items : List Item) (itemId : Int) :
    count (aggregateItems items) itemId = wrapI64 (total items itemId) := by
  induction items using List.reverseRecOn with
  | nil => rfl
  | append_singleton items item ih =>
    rw [aggregateItems_append, total_append]
    by_cases same : item.itemId = itemId
    · subst same
      rw [count_insert, ih, if_pos rfl, wrapI64, wrapI64, wrapI64, Int.bmod_add_bmod]
    · rw [count_insert_ne (Ne.symm same), ih, if_neg same, Int.add_zero]

theorem mem_aggregateItems (items : List Item) (itemId : Int) :
    itemId ∈ aggregateItems items ↔ itemId ∈ items.map Item.itemId := by
  induction items using List.reverseRecOn with
  | nil => simp [aggregateItems]
  | append_singleton items item ih =>
    rw [aggregateItems_append, AList.mem_insert, ih, List.map_append, List.mem_append]
    simp only [List.map_cons, List.map_nil, List.mem_singleton]
    exact Or.comm

theorem lookup_aggregateItems {items : List Item} {itemId amount : Int}
    (found : (aggregateItems items).lookup itemId = some amount) :
    itemId ∈ items.map Item.itemId ∧ amount = wrapI64 (total items itemId) := by
  refine ⟨?_, ?_⟩
  · rw [← mem_aggregateItems, ← AList.lookup_isSome, found]
    rfl
  · rw [← count_aggregateItems, count_of_lookup found]

theorem lookup_aggregateItems_of_mem {items : List Item} {itemId : Int}
    (named : itemId ∈ items.map Item.itemId) :
    (aggregateItems items).lookup itemId = some (wrapI64 (total items itemId)) := by
  obtain ⟨amount, found⟩ := Option.isSome_iff_exists.mp
    (AList.lookup_isSome.mpr ((mem_aggregateItems items itemId).mpr named))
  rw [found, (lookup_aggregateItems found).2]

theorem total_of_not_mem {items : List Item} {itemId : Int} (unnamed : itemId ∉ items.map Item.itemId) :
    total items itemId = 0 := by
  have none : (items.filter fun item => item.itemId = itemId) = [] := by
    refine List.filter_eq_nil_iff.mpr ?_
    intro item member same
    refine unnamed (List.mem_map.mpr ⟨item, member, ?_⟩)
    simpa using same
  rw [total, none]
  rfl

theorem wellFormed_iff {items : List Item} :
    wellFormed items = true ↔ items ≠ [] ∧ ∀ item ∈ items, 0 < item.itemId ∧ 0 < item.count := by
  simp only [wellFormed, Bool.and_eq_true, Bool.not_eq_true', List.isEmpty_eq_false_iff, ne_eq,
    List.any_eq_false, Bool.or_eq_true, decide_eq_true_eq, not_or, not_le]

/-- A request that passes the checks asks for at least one piece of what it names. -/
theorem total_pos {items : List Item} (form : wellFormed items = true) {itemId : Int}
    (named : itemId ∈ items.map Item.itemId) : 0 < total items itemId := by
  obtain ⟨item, member, rfl⟩ := List.mem_map.mp named
  have positive : ∀ n ∈ (items.filter fun other => other.itemId = item.itemId).map Item.count, 0 < n := by
    intro n isCount
    obtain ⟨other, there, rfl⟩ := List.mem_map.mp isCount
    exact ((wellFormed_iff.mp form).2 other (List.mem_filter.mp there).1).2
  have inside : item ∈ items.filter fun other => other.itemId = item.itemId :=
    List.mem_filter.mpr ⟨member, by simp⟩
  exact List.sum_pos _ positive (List.ne_nil_of_mem (List.mem_map_of_mem inside))

theorem total_nonneg {items : List Item} (form : wellFormed items = true) (itemId : Int) :
    0 ≤ total items itemId := by
  by_cases named : itemId ∈ items.map Item.itemId
  · exact Int.le_of_lt (total_pos form named)
  · rw [total_of_not_mem named]

/-! ## Adding -/

theorem checkedAdd_eq_some {a b c : Int} (added : checkedAdd a b = some c) :
    c = a + b ∧ -2 ^ 63 ≤ c ∧ c < 2 ^ 63 := by
  simp only [checkedAdd, Option.ite_none_right_eq_some, Option.some.injEq] at added
  obtain ⟨⟨ge, lt⟩, rfl⟩ := added
  exact ⟨rfl, ge, lt⟩

section Adding

variable {changes : List Change} {items : Items} {itemId amount : Int}

/-- The loop does not touch what it does not name. -/
theorem applyChanges_lookup_ne (absent : itemId ∉ changes.keys) (items : Items) :
    (applyChanges changes items).2.lookup itemId = items.lookup itemId := by
  induction changes generalizing items with
  | nil => rfl
  | cons change rest ih =>
    obtain ⟨other, amount⟩ := change
    obtain ⟨differ, absent⟩ := not_or.mp (fun member => absent (List.mem_cons.mpr member))
    rw [applyChanges]
    cases checkedAdd (count items other) amount with
    | none => rfl
    | some next => exact (ih absent _).trans (AList.lookup_insert_ne differ)

/-- What is counted later is counted past an insertion of another item. -/
theorem count_rest {rest : List Change} {other next : Int} (absent : other ∉ rest.keys)
    {change : Change} (member : change ∈ rest) :
    count (items.insert other next) change.1 = count items change.1 := by
  refine count_insert_ne ?_
  intro same
  have key : change.1 ∈ rest.keys := List.mem_keys_of_mem member
  exact absent (same ▸ key)

/-- An entry after the loop is the old one, or its change was applied. -/
theorem applyChanges_lookup (keys : changes.NodupKeys) (items : Items) (itemId : Int) :
    (applyChanges changes items).2.lookup itemId = items.lookup itemId
    ∨ ∃ amount next, (⟨itemId, amount⟩ : Change) ∈ changes
      ∧ checkedAdd (count items itemId) amount = some next
      ∧ (applyChanges changes items).2.lookup itemId = some next := by
  induction changes generalizing items with
  | nil => exact .inl rfl
  | cons change rest ih =>
    obtain ⟨other, amount⟩ := change
    obtain ⟨absent, restKeys⟩ := List.nodupKeys_cons.mp keys
    rw [applyChanges]
    cases sum : checkedAdd (count items other) amount with
    | none => exact .inl rfl
    | some next =>
      by_cases same : itemId = other
      · subst same
        refine .inr ⟨amount, next, List.mem_cons_self, sum, ?_⟩
        rw [applyChanges_lookup_ne absent, AList.lookup_insert]
      · obtain old | ⟨amount', next', member, sum', found⟩ := ih restKeys (items.insert other next)
        · exact .inl (old.trans (AList.lookup_insert_ne same))
        · rw [count_insert_ne same] at sum'
          exact .inr ⟨amount', next', List.mem_cons_of_mem _ member, sum', found⟩

/-- When the loop runs through, every change was applied. -/
theorem applyChanges_done (keys : changes.NodupKeys) (through : (applyChanges changes items).1 = true)
    (member : (⟨itemId, amount⟩ : Change) ∈ changes) :
    (applyChanges changes items).2.lookup itemId = some (count items itemId + amount) := by
  induction changes generalizing items with
  | nil => cases member
  | cons change rest ih =>
    obtain ⟨other, first⟩ := change
    obtain ⟨absent, restKeys⟩ := List.nodupKeys_cons.mp keys
    rw [applyChanges] at through ⊢
    cases sum : checkedAdd (count items other) first with
    | none => simp [sum] at through
    | some next =>
      simp only [sum] at through ⊢
      cases List.mem_cons.mp member with
      | inl isFirst =>
        cases isFirst
        rw [applyChanges_lookup_ne absent, AList.lookup_insert, (checkedAdd_eq_some sum).1]
      | inr later =>
        rw [ih restKeys through later, count_rest absent later]

end Adding

/-- The changes that a request makes, in the order of the map. -/
def changesOf (hash : HashOrder) (items : List Item) : List Change :=
  hash.order (aggregateItems items).entries

theorem changesOf_nodupKeys (hash : HashOrder) (items : List Item) : (changesOf hash items).NodupKeys :=
  (List.perm_nodupKeys (hash.perm _)).mpr (aggregateItems items).nodupKeys

theorem mem_changesOf {hash : HashOrder} {items : List Item} {itemId amount : Int} :
    (⟨itemId, amount⟩ : Change) ∈ changesOf hash items ↔
      (aggregateItems items).lookup itemId = some amount := by
  rw [changesOf, (hash.perm _).mem_iff]
  exact AList.mem_lookup_iff.symm

theorem mem_keys_changesOf {hash : HashOrder} {items : List Item} {itemId : Int} :
    itemId ∈ (changesOf hash items).keys ↔ itemId ∈ items.map Item.itemId := by
  rw [← mem_aggregateItems]
  exact (hash.perm _).map Sigma.fst |>.mem_iff

/-- The loop of `add_items` runs through exactly when every change fits. -/
theorem applyChanges_fits (hash : HashOrder) (p : PlayerState) (items : List Item) :
    (applyChanges (changesOf hash items) p.items).1 = true ↔ p.Fits items := by
  rw [applyChanges_fst (changesOf_nodupKeys hash items)]
  constructor
  · intro all itemId amount found
    exact all ⟨itemId, amount⟩ (mem_changesOf.mpr found)
  · intro all change member
    exact all change.1 change.2 (mem_changesOf.mp member)

theorem addItems_invalid (hash : HashOrder) (p : PlayerState) {items : List Item}
    (form : wellFormed items = false) : p.addItems hash items =
      (⟨some (errorStatus Code.INVALID_ARGUMENT "invalid add-items request"), []⟩, p) := by
  simp [addItems, form]

theorem addItems_conflict (hash : HashOrder) {p : PlayerState} {items : List Item}
    (form : wellFormed items = true) (overflow : ¬ p.Fits items) : p.addItems hash items =
      (⟨some (errorStatus Code.CONFLICT "item count overflow"), []⟩,
        { p with items := (applyChanges (changesOf hash items) p.items).2 }) := by
  have stopped := mt (applyChanges_fits hash p items).mp overflow
  simp only [addItems, form, if_true]
  rw [← changesOf]
  generalize applyChanges (changesOf hash items) p.items = ran at stopped ⊢
  obtain ⟨through, partly⟩ := ran
  cases through with
  | false => rfl
  | true => exact absurd rfl stopped

theorem addItems_ok (hash : HashOrder) {p : PlayerState} {items : List Item}
    (form : wellFormed items = true) (fits : p.Fits items) : p.addItems hash items =
      (⟨some okStatus, (changesOf hash items).map fun change =>
          ⟨change.1, count (applyChanges (changesOf hash items) p.items).2 change.1, change.2⟩⟩,
        { p with items := (applyChanges (changesOf hash items) p.items).2, dirty := true }) := by
  have through := (applyChanges_fits hash p items).mpr fits
  simp only [addItems, form, if_true]
  rw [← changesOf]
  generalize applyChanges (changesOf hash items) p.items = ran at through ⊢
  obtain ⟨_, added⟩ := ran
  obtain rfl := through
  rfl

/-! ## All or nothing -/

/-- A refused `add_items` leaves the items and the dirty flag alone, and an accepted
    one has applied every change and marked the player dirty. -/
structure AllOrNothing (hash : HashOrder) (p : PlayerState) (items : List Item) : Prop where
  refused : (p.addItems hash items).1.status ≠ some okStatus →
    SameItems (p.addItems hash items).2.items p.items ∧ (p.addItems hash items).2.dirty = p.dirty
  accepted : (p.addItems hash items).1.status = some okStatus →
    (p.addItems hash items).2.dirty = true
    ∧ ∀ itemId amount, (aggregateItems items).lookup itemId = some amount →
      (p.addItems hash items).2.items.lookup itemId = some (count p.items itemId + amount)

/-- A change whose sum is zero, of an item that is there. -/
def Idle (p : PlayerState) (itemId amount : Int) : Prop :=
  amount = 0 ∧ (p.items.lookup itemId).isSome = true

/-- A map may be visited from the change that would be lost. -/
theorem addItems_first (p : PlayerState) {items : List Item} (form : wellFormed items = true)
    (overflow : ¬ p.Fits items) {itemId amount next : Int}
    (found : (aggregateItems items).lookup itemId = some amount)
    (sum : checkedAdd (count p.items itemId) amount = some next) :
    ∃ hash, (p.addItems hash items).2.items.lookup itemId = some next := by
  have member : (⟨itemId, amount⟩ : Change) ∈ (aggregateItems items).entries :=
    AList.mem_lookup_iff.mp found
  refine ⟨.first _ _ member, ?_⟩
  rw [addItems_conflict _ form overflow]
  have keys := changesOf_nodupKeys (.first _ _ member) items
  have visits : changesOf (.first _ _ member) items =
      ⟨itemId, amount⟩ :: (aggregateItems items).entries.erase ⟨itemId, amount⟩ := if_pos rfl
  rw [visits] at keys ⊢
  simp only [applyChanges, sum]
  rw [applyChanges_lookup_ne (List.nodupKeys_cons.mp keys).1, AList.lookup_insert]

/-- Whatever the order of the map, `add_items` is all or nothing exactly when the
    request is refused as invalid, every change fits, or no change fits but for those
    that change nothing. -/
theorem add_items_all_or_nothing_iff (p : PlayerState) (items : List Item) :
    (∀ hash, AllOrNothing hash p items) ↔
      (wellFormed items = true → p.Fits items ∨ ∀ itemId amount,
        (aggregateItems items).lookup itemId = some amount →
        (checkedAdd (count p.items itemId) amount).isSome = true → p.Idle itemId amount) := by
  constructor
  · intro all form
    by_cases fits : p.Fits items
    · exact .inl fits
    · refine .inr ?_
      intro itemId amount found room
      obtain ⟨next, sum⟩ := Option.isSome_iff_exists.mp room
      -- visited first, the change is applied although another one overflows
      obtain ⟨hash, applied⟩ := addItems_first p form fits found sum
      have refused : (p.addItems hash items).1.status ≠ some okStatus := by
        rw [addItems_conflict hash form fits]
        exact errorStatus_ne_ok (by decide) _
      rw [((all hash).refused refused).1 itemId] at applied
      have same := count_of_lookup applied
      have isSum := (checkedAdd_eq_some sum).1
      exact ⟨by omega, by rw [applied]; rfl⟩
  · intro condition hash
    cases form : wellFormed items with
    | false =>
      have invalid := addItems_invalid hash p form
      constructor
      · rw [invalid]
        exact fun _ => ⟨.refl _, rfl⟩
      · rw [invalid]
        exact fun isOk => absurd isOk (errorStatus_ne_ok (by decide) _)
    | true =>
      by_cases fits : p.Fits items
      · have done := addItems_ok hash form fits
        constructor
        · rw [done]
          exact fun refused => absurd rfl refused
        · rw [done]
          refine fun _ => ⟨rfl, ?_⟩
          intro itemId amount found
          exact applyChanges_done (changesOf_nodupKeys hash items)
            ((applyChanges_fits hash p items).mpr fits) (mem_changesOf.mpr found)
      · have conflict := addItems_conflict hash form fits
        have idle := (condition form).resolve_left fits
        constructor
        · rw [conflict]
          refine fun _ => ⟨?_, rfl⟩
          intro itemId
          obtain old | ⟨amount, next, member, sum, found⟩ :=
            applyChanges_lookup (changesOf_nodupKeys hash items) p.items itemId
          · exact old
          · obtain ⟨zero, there⟩ := idle itemId amount (mem_changesOf.mp member) (by rw [sum]; rfl)
            obtain ⟨n, isThere⟩ := Option.isSome_iff_exists.mp there
            have isSum := (checkedAdd_eq_some sum).1
            rw [count_of_lookup isThere, zero, Int.add_zero] at isSum
            exact found.trans (isSum ▸ isThere.symm)
        · rw [conflict]
          exact fun isOk => absurd isOk (errorStatus_ne_ok (by decide) _)

/-- The change of item 1 is applied before the one of item 2 overflows. -/
theorem grant_half_applied :
    ¬ ∀ (p : PlayerState) (items : List Item) (hash : HashOrder), AllOrNothing hash p items := by
  intro all
  have refused := (all ⟨(∅ : Items).insert 2 (2 ^ 63 - 1) |>.insert 1 5, none, false⟩
    [⟨2, 1, 0⟩, ⟨1, 1, 0⟩] .inserted).refused (by decide +kernel)
  have kept := refused.1 1
  revert kept
  decide +kernel

/-! ## Removing -/

/-- Removing amounts that are there takes each of them off its count. -/
theorem takeChanges_spec {changes : List Change} (keys : changes.NodupKeys) {items : Items}
    (covered : ∀ change ∈ changes, 0 < change.2 ∧ change.2 ≤ count items change.1
      ∧ count items change.1 - change.2 < 2 ^ 63) :
    ∃ left result, takeChanges changes items = some (left, result) ∧ (Stocked items → Stocked left)
      ∧ ∀ itemId, count left itemId = count items itemId - (changes.dlookup itemId).getD 0 := by
  induction changes generalizing items with
  | nil => exact ⟨items, [], rfl, id, by simp⟩
  | cons change rest ih =>
    obtain ⟨other, amount⟩ := change
    obtain ⟨absent, restKeys⟩ := List.nodupKeys_cons.mp keys
    obtain ⟨positive, enough, below⟩ := covered _ List.mem_cons_self
    simp only at positive enough below
    have there := lookup_of_count_pos (Int.lt_of_lt_of_le positive enough)
    have exact_ : wrapI64 (count items other - amount) = count items other - amount :=
      wrapI64_of_fits (by omega) below
    have elsewhere : ∀ itemId, itemId ≠ other →
        count (setRemaining items other (count items other - amount)) itemId = count items itemId := by
      intro itemId differ
      rw [count, lookup_setRemaining_ne differ, count]
    have restCovered : ∀ change ∈ rest, 0 < change.2
        ∧ change.2 ≤ count (setRemaining items other (count items other - amount)) change.1
        ∧ count (setRemaining items other (count items other - amount)) change.1 - change.2 < 2 ^ 63 := by
      intro change member
      have differ : change.1 ≠ other := by
        intro same
        have key : change.1 ∈ rest.keys := List.mem_keys_of_mem member
        exact absent (same ▸ key)
      rw [elsewhere _ differ]
      exact covered change (List.mem_cons_of_mem _ member)
    obtain ⟨left, result, ran, stockedLeft, counts⟩ := ih restKeys restCovered
    refine ⟨left, ⟨other, count items other - amount, wrapI64 (-amount)⟩ :: result, ?_, ?_, ?_⟩
    · simp only [takeChanges, there, exact_, ran, Option.map_some]
    · intro stocked
      exact stockedLeft (stocked.setRemaining (by omega) below)
    · intro itemId
      rw [counts]
      by_cases same : itemId = other
      · subst same
        rw [count_setRemaining, List.dlookup_eq_none.mpr absent, List.dlookup_cons_eq]
        simp
      · rw [elsewhere itemId same, List.dlookup_cons_ne _ _ same]

theorem dlookup_changesOf (hash : HashOrder) (items : List Item) (itemId : Int) :
    ((changesOf hash items).dlookup itemId).getD 0 = wrapI64 (total items itemId) := by
  rw [List.perm_dlookup itemId (changesOf_nodupKeys hash items) (hash.perm _), ← count_aggregateItems]
  rfl

/-- No wrapped sum is larger than its count. -/
def Covered (p : PlayerState) (items : List Item) : Prop :=
  ∀ itemId amount, (aggregateItems items).lookup itemId = some amount → amount ≤ count p.items itemId

theorem removeItems_invalid (hash : HashOrder) (p : PlayerState) {items : List Item}
    (form : wellFormed items = false) : p.removeItems hash items =
      some (⟨some (errorStatus Code.INVALID_ARGUMENT "invalid remove-items request"), []⟩, p) := by
  simp [removeItems, form]

theorem any_short_iff (hash : HashOrder) (p : PlayerState) (items : List Item) :
    ((changesOf hash items).any fun change => count p.items change.1 < change.2) = true ↔
      ¬ p.Covered items := by
  simp only [List.any_eq_true, decide_eq_true_eq, Covered, not_forall, not_le, exists_prop]
  constructor
  · rintro ⟨⟨itemId, amount⟩, member, short⟩
    exact ⟨itemId, amount, mem_changesOf.mp member, short⟩
  · rintro ⟨itemId, amount, found, short⟩
    exact ⟨⟨itemId, amount⟩, mem_changesOf.mpr found, short⟩

theorem removeItems_short (hash : HashOrder) {p : PlayerState} {items : List Item}
    (form : wellFormed items = true) (short : ¬ p.Covered items) : p.removeItems hash items =
      some (⟨some (errorStatus Code.INSUFFICIENT_ITEMS "insufficient items"), []⟩, p) := by
  simp only [removeItems, form, if_true]
  exact if_pos ((any_short_iff hash p items).mpr short)

theorem removeItems_covered (hash : HashOrder) {p : PlayerState} {items : List Item}
    (form : wellFormed items = true) (covered : p.Covered items) : p.removeItems hash items =
      (takeChanges (changesOf hash items) p.items).map fun (left, result) =>
        (⟨some okStatus, result⟩, { p with items := left, dirty := true }) := by
  simp only [removeItems, form, if_true]
  exact if_neg (fun short => (any_short_iff hash p items).mp short covered)

theorem checkItems_enough_iff (p : PlayerState) (items : List Item) :
    (p.checkItems items).enough = true ↔ wellFormed items = true ∧ p.Covered items := by
  unfold checkItems
  cases form : wellFormed items with
  | false => simp
  | true =>
    simp only [if_true, List.all_eq_true, decide_eq_true_eq, true_and]
    constructor
    · intro all itemId amount found
      exact all ⟨itemId, amount⟩ (AList.mem_lookup_iff.mp found)
    · intro all change member
      exact all change.1 change.2 (AList.mem_lookup_iff.mpr member)

/-! ## The operations on the bag -/

section Bag

variable {p : PlayerState} {items : List Item}

/-- Where the sums fit, the aggregated amount of a named item is its sum. -/
theorem amount_eq_total (sums : SumsFit items) (itemId : Int) :
    wrapI64 (total items itemId) = total items itemId :=
  wrapI64_of_fits (sums itemId).1 (sums itemId).2

theorem fits_iff (form : wellFormed items = true) (sums : SumsFit items) (stocked : Stocked p.items) :
    p.Fits items ↔ ∀ itemId, count p.items itemId + total items itemId < 2 ^ 63 := by
  constructor
  · intro fits itemId
    by_cases named : itemId ∈ items.map Item.itemId
    · have found := lookup_aggregateItems_of_mem named
      rw [amount_eq_total sums] at found
      obtain ⟨next, sum⟩ := Option.isSome_iff_exists.mp (fits itemId _ found)
      obtain ⟨rfl, _, lt⟩ := checkedAdd_eq_some sum
      exact lt
    · rw [total_of_not_mem named, Int.add_zero]
      exact stocked.lt itemId
  · intro room itemId amount found
    obtain ⟨_, rfl⟩ := lookup_aggregateItems found
    have here := room itemId
    have nonneg := stocked.nonneg itemId
    have asked := total_nonneg form itemId
    rw [amount_eq_total sums, checkedAdd, if_pos (by omega)]
    rfl

theorem covered_iff (sums : SumsFit items) (stocked : Stocked p.items) :
    p.Covered items ↔ ∀ itemId, total items itemId ≤ count p.items itemId := by
  constructor
  · intro covered itemId
    by_cases named : itemId ∈ items.map Item.itemId
    · have found := lookup_aggregateItems_of_mem named
      rw [amount_eq_total sums] at found
      exact covered itemId _ found
    · rw [total_of_not_mem named]
      exact stocked.nonneg itemId
  · intro enough itemId amount found
    obtain ⟨_, rfl⟩ := lookup_aggregateItems found
    rw [amount_eq_total sums]
    exact enough itemId

/-- `add_items` keeps every count positive, also where it stops half-way. -/
theorem Stocked.addItems (form : wellFormed items = true) (sums : SumsFit items) (stocked : Stocked p.items)
    (hash : HashOrder) : Stocked (p.addItems hash items).2.items := by
  have applied : Stocked (applyChanges (changesOf hash items) p.items).2 := by
    intro itemId n found
    obtain old | ⟨amount, next, member, sum, isNext⟩ :=
      applyChanges_lookup (changesOf_nodupKeys hash items) p.items itemId
    · rw [old] at found
      exact stocked itemId n found
    · rw [isNext] at found
      obtain rfl := Option.some.inj found
      obtain ⟨named, rfl⟩ := lookup_aggregateItems (mem_changesOf.mp member)
      obtain ⟨isSum, _, lt⟩ := checkedAdd_eq_some sum
      rw [amount_eq_total sums] at isSum
      have positive := total_pos form named
      have nonneg := stocked.nonneg itemId
      exact ⟨by omega, lt⟩
  by_cases fits : p.Fits items
  · rw [addItems_ok hash form fits]
    exact applied
  · rw [addItems_conflict hash form fits]
    exact applied

theorem count_addItems (sums : SumsFit items) (hash : HashOrder)
    (form : wellFormed items = true) (fits : p.Fits items) (itemId : Int) :
    count (p.addItems hash items).2.items itemId = count p.items itemId + total items itemId := by
  rw [addItems_ok hash form fits]
  by_cases named : itemId ∈ items.map Item.itemId
  · have found := lookup_aggregateItems_of_mem named
    rw [amount_eq_total sums] at found
    exact count_of_lookup (applyChanges_done (changesOf_nodupKeys hash items)
      ((applyChanges_fits hash p items).mpr fits) (mem_changesOf.mpr found))
  · rw [count, applyChanges_lookup_ne (mt mem_keys_changesOf.mp named), total_of_not_mem named,
      Int.add_zero, count]

/-- `remove_items` of what is there takes the sums off the counts. -/
theorem removeItems_taken (form : wellFormed items = true) (sums : SumsFit items)
    (room : ∀ itemId, count p.items itemId - total items itemId < 2 ^ 63) (covered : p.Covered items)
    (hash : HashOrder) :
    ∃ rsp q, p.removeItems hash items = some (rsp, q) ∧ rsp.status = some okStatus
      ∧ (Stocked p.items → Stocked q.items) ∧ q.dirty = true
      ∧ ∀ itemId, count q.items itemId = count p.items itemId - total items itemId := by
  obtain ⟨left, result, ran, stockedLeft, counts⟩ :=
    takeChanges_spec (changesOf_nodupKeys hash items) (by
      intro change member
      have found := mem_changesOf.mp member
      obtain ⟨named, same⟩ := lookup_aggregateItems found
      have enough := covered _ _ found
      rw [amount_eq_total sums] at same
      rw [same] at enough ⊢
      exact ⟨total_pos form named, enough, room change.1⟩)
  refine ⟨⟨some okStatus, result⟩, { p with items := left, dirty := true }, ?_, rfl, stockedLeft, rfl, ?_⟩
  · rw [removeItems_covered hash form covered, ran]
    rfl
  · intro itemId
    rw [counts, dlookup_changesOf, amount_eq_total sums]

/-- `remove_items` of what is there takes the sums off the bag. -/
theorem removeItems_bag (form : wellFormed items = true) (sums : SumsFit items) (stocked : Stocked p.items)
    (covered : p.Covered items) (hash : HashOrder) :
    ∃ rsp q, p.removeItems hash items = some (rsp, q) ∧ rsp.status = some okStatus ∧ Stocked q.items
      ∧ q.dirty = true ∧ ∀ itemId, count q.items itemId = count p.items itemId - total items itemId := by
  have room : ∀ itemId, count p.items itemId - total items itemId < 2 ^ 63 := by
    intro itemId
    have below := stocked.lt itemId
    have asked := total_nonneg form itemId
    omega
  obtain ⟨rsp, q, ran, isOk, stockedLeft, rest⟩ := removeItems_taken form sums room covered hash
  exact ⟨rsp, q, ran, isOk, stockedLeft stocked, rest⟩

end Bag

/-! ## Exact arithmetic -/

/-- The three operations compute with the mathematical sums of a request.  The
    answer of `add_items` indexes what it has added, and `remove_items` indexes what
    it takes: neither may miss. -/
structure ExactItems (hash : HashOrder) (p : PlayerState) (items : List Item) : Prop where
  added : (p.addItems hash items).1.status = some okStatus →
    ∀ itemId, count (p.addItems hash items).2.items itemId = count p.items itemId + total items itemId
  indexed : ∀ item ∈ (p.addItems hash items).1.items,
    (p.addItems hash items).2.items.lookup item.itemId = some item.count
  addedPositive : ∀ itemId n, (p.addItems hash items).2.items.lookup itemId = some n → 0 < n
  returns : (p.removeItems hash items).isSome = true
  removed : ∀ rsp q, p.removeItems hash items = some (rsp, q) → rsp.status = some okStatus →
    ∀ itemId, count q.items itemId = count p.items itemId - total items itemId
  removedPositive : ∀ rsp q, p.removeItems hash items = some (rsp, q) →
    ∀ itemId n, q.items.lookup itemId = some n → 0 < n
  enough : (p.checkItems items).enough = true ↔ ∀ itemId, total items itemId ≤ count p.items itemId

/-- All three operations refuse the wrapped sums, and none of these takes a count to
    zero or below. -/
def Spared (p : PlayerState) (items : List Item) : Prop :=
  (∃ itemId, count p.items itemId < wrapI64 (total items itemId))
  ∧ (∃ itemId, 2 ^ 63 ≤ count p.items itemId + wrapI64 (total items itemId))
  ∧ ∀ itemId ∈ items.map Item.itemId, 0 < count p.items itemId + wrapI64 (total items itemId)

section Exact

variable {p : PlayerState} {items : List Item}

/-- A sum that is not zero belongs to an item of the request. -/
theorem named_of_wrapped (itemId : Int) (nonzero : wrapI64 (total items itemId) ≠ 0) :
    itemId ∈ items.map Item.itemId := by
  by_contra unnamed
  rw [total_of_not_mem unnamed] at nonzero
  exact nonzero rfl

theorem not_fits_of_large (stocked : Stocked p.items) {itemId : Int}
    (large : 2 ^ 63 ≤ count p.items itemId + wrapI64 (total items itemId)) : ¬ p.Fits items := by
  intro fits
  have below := stocked.lt itemId
  have named : itemId ∈ items.map Item.itemId := named_of_wrapped itemId (by omega)
  obtain ⟨next, sum⟩ := Option.isSome_iff_exists.mp (fits itemId _ (lookup_aggregateItems_of_mem named))
  obtain ⟨isSum, _, lt⟩ := checkedAdd_eq_some sum
  omega

theorem indexed_addItems (hash : HashOrder) (form : wellFormed items = true) :
    ∀ item ∈ (p.addItems hash items).1.items,
      (p.addItems hash items).2.items.lookup item.itemId = some item.count := by
  by_cases fits : p.Fits items
  · rw [addItems_ok hash form fits]
    intro item member
    obtain ⟨⟨itemId, amount⟩, isChange, rfl⟩ := List.mem_map.mp member
    have done := applyChanges_done (changesOf_nodupKeys hash items)
      ((applyChanges_fits hash p items).mpr fits) isChange
    simp only
    rw [count_of_lookup done, done]
  · rw [addItems_conflict hash form fits]
    intro item member
    cases member

/-- Sums that fit are computed exactly. -/
theorem exact_of_sumsFit (stocked : Stocked p.items) (form : wellFormed items = true) (sums : SumsFit items)
    (hash : HashOrder) : ExactItems hash p items := by
  have positive : ∀ {q : Items}, Stocked q → ∀ itemId n, q.lookup itemId = some n → 0 < n :=
    fun stocked itemId n found => (stocked itemId n found).1
  have accepted := addItems_ok_iff hash p items
  by_cases covered : p.Covered items
  · obtain ⟨rsp, q, ran, _, stockedLeft, _, counts⟩ := removeItems_bag form sums stocked covered hash
    refine {
      added := fun isOk => count_addItems sums hash form (accepted.mp isOk).2
      indexed := indexed_addItems hash form
      addedPositive := positive (stocked.addItems form sums hash)
      returns := by rw [ran]; rfl
      removed := ?_
      removedPositive := ?_
      enough := by rw [checkItems_enough_iff, covered_iff sums stocked]; exact and_iff_right form }
    · intro rsp' q' ran' _
      cases ran.symm.trans ran'
      exact counts
    · intro rsp' q' ran'
      cases ran.symm.trans ran'
      exact positive stockedLeft
  · have short := removeItems_short hash form covered
    refine {
      added := fun isOk => count_addItems sums hash form (accepted.mp isOk).2
      indexed := indexed_addItems hash form
      addedPositive := positive (stocked.addItems form sums hash)
      returns := by rw [short]; rfl
      removed := ?_
      removedPositive := ?_
      enough := by rw [checkItems_enough_iff, covered_iff sums stocked]; exact and_iff_right form }
    · intro rsp q ran isOk
      cases short.symm.trans ran
      exact absurd isOk (errorStatus_ne_ok (by decide) _)
    · intro rsp q ran
      cases short.symm.trans ran
      exact positive stocked

/-- A request that all three operations refuse is answered as the sums demand. -/
theorem exact_of_spared (stocked : Stocked p.items) (form : wellFormed items = true)
    (spared : p.Spared items) (hash : HashOrder) : ExactItems hash p items := by
  obtain ⟨⟨short, isShort⟩, ⟨large, isLarge⟩, kept⟩ := spared
  have uncovered : ¬ p.Covered items := by
    intro covered
    have nonneg := stocked.nonneg short
    have named : short ∈ items.map Item.itemId := named_of_wrapped short (by omega)
    exact absurd (covered short _ (lookup_aggregateItems_of_mem named)) (by omega)
  have overflow := not_fits_of_large stocked isLarge
  have refused := addItems_conflict hash form overflow
  have returned := removeItems_short hash form uncovered
  refine {
    added := ?_
    indexed := indexed_addItems hash form
    addedPositive := ?_
    returns := by rw [returned]; rfl
    removed := ?_
    removedPositive := ?_
    enough := ?_ }
  · rw [refused]
    exact fun isOk => absurd isOk (errorStatus_ne_ok (by decide) _)
  · rw [refused]
    intro itemId n found
    obtain old | ⟨amount, next, member, sum, isNext⟩ :=
      applyChanges_lookup (changesOf_nodupKeys hash items) p.items itemId
    · exact (stocked itemId n (old.symm.trans found)).1
    · obtain rfl := Option.some.inj (isNext.symm.trans found)
      obtain ⟨named, rfl⟩ := lookup_aggregateItems (mem_changesOf.mp member)
      rw [(checkedAdd_eq_some sum).1]
      exact kept itemId named
  · intro rsp q ran isOk
    cases returned.symm.trans ran
    exact absurd isOk (errorStatus_ne_ok (by decide) _)
  · intro rsp q ran itemId n found
    cases returned.symm.trans ran
    exact (stocked itemId n found).1
  · rw [checkItems_enough_iff]
    refine ⟨fun both => absurd both.2 uncovered, ?_⟩
    intro enough
    -- sums that are covered fit, so the short one is not short
    have below := stocked.lt short
    have nonneg := total_nonneg form short
    have here := enough short
    rw [wrapI64_of_fits (by omega) (by omega)] at isShort
    omega

/-- Where a sum does not fit, exact answers are refusals. -/
theorem spared_of_exact (stocked : Stocked p.items) (form : wellFormed items = true)
    {itemId : Int} (large : 2 ^ 63 ≤ total items itemId) (exact_ : ∀ hash, ExactItems hash p items) :
    p.Spared items := by
  have overflow : ∃ other, 2 ^ 63 ≤ count p.items other + wrapI64 (total items other) := by
    by_contra none
    simp only [not_exists, not_le] at none
    have fits : p.Fits items := by
      intro other amount found
      obtain ⟨_, rfl⟩ := lookup_aggregateItems found
      have ge := wrapI64_ge (total items other)
      have nonneg := stocked.nonneg other
      rw [checkedAdd, if_pos ⟨by omega, none other⟩]
      rfl
    have isOk := (addItems_ok_iff .inserted p items).mpr ⟨form, fits⟩
    have claimed := (exact_ .inserted).added isOk itemId
    have named : itemId ∈ items.map Item.itemId := by
      by_contra unnamed
      rw [total_of_not_mem unnamed] at large
      omega
    have done := applyChanges_done (changesOf_nodupKeys .inserted items)
      ((applyChanges_fits .inserted p items).mpr fits)
      (mem_changesOf.mpr (lookup_aggregateItems_of_mem named))
    rw [addItems_ok .inserted form fits, count_of_lookup done] at claimed
    have lt := wrapI64_lt (total items itemId)
    omega
  refine ⟨?_, overflow, ?_⟩
  · have notEnough : ¬ (wellFormed items = true ∧ p.Covered items) := by
      rw [← checkItems_enough_iff, (exact_ .inserted).enough]
      intro enough
      have below := stocked.lt itemId
      have here := enough itemId
      omega
    have uncovered : ¬ p.Covered items := fun covered => notEnough ⟨form, covered⟩
    simp only [Covered, not_forall, not_le] at uncovered
    obtain ⟨other, amount, found, short⟩ := uncovered
    obtain ⟨_, rfl⟩ := lookup_aggregateItems found
    exact ⟨other, short⟩
  · intro other named
    by_contra dropped
    have ge := wrapI64_ge (total items other)
    have nonneg := stocked.nonneg other
    obtain ⟨big, isBig⟩ := overflow
    have unfit := not_fits_of_large stocked isBig
    have sum : checkedAdd (count p.items other) (wrapI64 (total items other)) =
        some (count p.items other + wrapI64 (total items other)) := by
      rw [checkedAdd, if_pos ⟨by omega, by omega⟩]
    obtain ⟨hash, applied⟩ := addItems_first p form unfit (lookup_aggregateItems_of_mem named) sum
    exact dropped ((exact_ hash).addedPositive other _ applied)

end Exact

/-- On a stocked player the three operations compute exactly if and only if every
    sum of the request is an `i64`, or the wrapped sums are refused by all three
    without taking a count to zero or below. -/
theorem item_arithmetic_exact_iff {p : PlayerState} {items : List Item} (stocked : Stocked p.items)
    (form : wellFormed items = true) :
    (∀ hash, ExactItems hash p items) ↔
      (∀ itemId, total items itemId < 2 ^ 63) ∨ p.Spared items := by
  constructor
  · intro all
    by_cases sums : ∀ itemId, total items itemId < 2 ^ 63
    · exact .inl sums
    · simp only [not_forall, not_lt] at sums
      obtain ⟨itemId, large⟩ := sums
      exact .inr (spared_of_exact stocked form large all)
  · intro condition hash
    cases condition with
    | inl lt =>
      refine exact_of_sumsFit stocked form (fun itemId => ⟨?_, lt itemId⟩) hash
      have nonneg := total_nonneg form itemId
      omega
    | inr spared => exact exact_of_spared stocked form spared hash

/-- Two and three pieces of an item, added to five and taken from them. -/
theorem five_pieces_exact :
    let p : PlayerState := ⟨(∅ : Items).insert 1 5, none, false⟩
    let items : List Item := [⟨1, 2, 0⟩, ⟨1, 3, 0⟩]
    (p.addItems .inserted items).1.status = some okStatus
      ∧ count (p.addItems .inserted items).2.items 1 = 5 + 5
      ∧ (p.removeItems .inserted items).isSome = true := by
  have stocked : Stocked ((∅ : Items).insert 1 5) := by
    refine Stocked.insert ?_ (by decide) (by decide)
    intro itemId n found
    cases found
  have small : ∀ itemId, total [⟨1, 2, 0⟩, ⟨1, 3, 0⟩] itemId < 2 ^ 63 := by
    intro itemId
    by_cases same : 1 = itemId
    · subst same
      decide
    · simp [total, same]
  have all := (item_arithmetic_exact_iff (p := ⟨(∅ : Items).insert 1 5, none, false⟩) stocked
    (show wellFormed [⟨1, 2, 0⟩, ⟨1, 3, 0⟩] = true by decide)).mpr (.inl small) .inserted
  have isOk : ((⟨(∅ : Items).insert 1 5, none, false⟩ : PlayerState).addItems .inserted
      [⟨1, 2, 0⟩, ⟨1, 3, 0⟩]).1.status = some okStatus := by decide +kernel
  exact ⟨isOk, all.added isOk 1, all.returns⟩

/-- Two halves of `2 ^ 63` sum up to a negative amount, and the item is not there. -/
theorem wrapped_removal_panics :
    ¬ ∀ (p : PlayerState) (items : List Item), Stocked p.items → wellFormed items = true →
      (∀ item ∈ items, item.count < 2 ^ 63) → ∀ hash, ExactItems hash p items := by
  intro all
  have returns := (all ⟨∅, none, false⟩ [⟨1, 2 ^ 62, 0⟩, ⟨1, 2 ^ 62, 0⟩]
    (by intro itemId n found; cases found) (by decide) (by decide) .inserted).returns
  revert returns
  decide +kernel

end PlayerState

end Xkk.Logic

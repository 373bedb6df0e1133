import Xkk.Lib.Transition
import Xkk.Logic.Items

/-! # Items as a bag

A fresh player and every run of `use_item`, `add_items` and `remove_items` on
requests whose sums are `i64`s.  The invariant is that every stored count is
positive: then the map is the bag of its counts, and the operations are addition
and subtraction of the sums of a request.
-/

namespace Xkk.Logic

open Xkk.Lib Xkk.Protocol

namespace PlayerState

/-- `PlayerState::new` of `default_player`. -/
def fresh : PlayerState := ⟨∅, none, false⟩

inductive ItemOp where
  | use (itemId n : Int)
  | add (hash : HashOrder) (items : List Item)
  | remove (hash : HashOrder) (items : List Item)

/-- The player after the operation; `none` where it panics. -/
def ItemOp.apply (p : PlayerState) : ItemOp → Option PlayerState
  | .use itemId n => some (p.useItem itemId n).2
  | .add hash items => some (p.addItems hash items).2
  | .remove hash items => (p.removeItems hash items).map Prod.snd

/-- The sums of the request are `i64`s. -/
def ItemOp.SumsFit : ItemOp → Prop
  | .use itemId n => PlayerState.SumsFit [⟨itemId, n, 0⟩]
  | .add _ items | .remove _ items => PlayerState.SumsFit items

def itemSystem : System PlayerState ItemOp := .ofFun (· = fresh) ItemOp.apply

/-- The counts are positive `i64`s of items with positive ids. -/
structure Bag (items : Items) : Prop where
  stocked : Stocked items
  ids : ∀ itemId n, items.lookup itemId = some n → 0 < itemId

theorem bag_empty : Bag ∅ where
  stocked := by intro itemId n found; cases found
  ids := by intro itemId n found; cases found

section

variable {p : PlayerState} {items : List Item}

theorem Bag.addItems (bag : Bag p.items) (sums : SumsFit items) (hash : HashOrder) :
    Bag (p.addItems hash items).2.items := by
  cases form : wellFormed items with
  | false =>
    rw [addItems_invalid hash p form]
    exact bag
  | true =>
    refine ⟨bag.stocked.addItems form sums hash, ?_⟩
    have applied : ∀ itemId n,
        (applyChanges (changesOf hash items) p.items).2.lookup itemId = some n → 0 < itemId := by
      intro itemId n found
      obtain old | ⟨amount, next, member, _, _⟩ :=
        applyChanges_lookup (changesOf_nodupKeys hash items) p.items itemId
      · exact bag.ids itemId n (old.symm.trans found)
      · obtain ⟨item, isItem, rfl⟩ := List.mem_map.mp (lookup_aggregateItems (mem_changesOf.mp member)).1
        exact ((wellFormed_iff.mp form).2 item isItem).1
    by_cases fits : p.Fits items
    · rw [addItems_ok hash form fits]
      exact applied
    · rw [addItems_conflict hash form fits]
      exact applied

/-- `remove_items` returns: it takes the sums off the bag, or refuses and leaves the
    player alone. -/
theorem removeItems_cases (stocked : Stocked p.items) (sums : SumsFit items) (hash : HashOrder) :
    ∃ rsp q, p.removeItems hash items = some (rsp, q)
      ∧ ((rsp.status = some okStatus ∧ wellFormed items = true ∧ p.Covered items ∧ Stocked q.items
          ∧ ∀ itemId, count q.items itemId = count p.items itemId - total items itemId)
        ∨ (rsp.status ≠ some okStatus ∧ ¬ (wellFormed items = true ∧ p.Covered items) ∧ q = p)) := by
  cases form : wellFormed items with
  | false =>
    refine ⟨_, _, removeItems_invalid hash p form, .inr ⟨errorStatus_ne_ok (by decide) _, ?_, rfl⟩⟩
    rintro ⟨⟨⟩, _⟩
  | true =>
    by_cases covered : p.Covered items
    · obtain ⟨rsp, q, ran, isOk, stockedLeft, _, counts⟩ := removeItems_bag form sums stocked covered hash
      exact ⟨rsp, q, ran, .inl ⟨isOk, rfl, covered, stockedLeft, counts⟩⟩
    · refine ⟨_, _, removeItems_short hash form covered, .inr ⟨errorStatus_ne_ok (by decide) _, ?_, rfl⟩⟩
      exact fun both => covered both.2

/-- What is left over was there. -/
theorem Bag.less (bag : Bag p.items) {left : Items} (stocked : Stocked left)
    (fewer : ∀ itemId, count left itemId ≤ count p.items itemId) : Bag left := by
  refine ⟨stocked, ?_⟩
  intro itemId n found
  have positive := (stocked itemId n found).1
  have here := fewer itemId
  rw [count_of_lookup found] at here
  exact bag.ids itemId _ (lookup_of_count_pos (Int.lt_of_lt_of_le positive here))

theorem Bag.removeItems (bag : Bag p.items) (sums : SumsFit items) {hash : HashOrder} {rsp : RemoveItemsRsp}
    {q : PlayerState} (ran : p.removeItems hash items = some (rsp, q)) : Bag q.items := by
  obtain ⟨rsp', q', ran', ⟨_, form, _, stocked, counts⟩ | ⟨_, _, rfl⟩⟩ :=
    removeItems_cases bag.stocked sums hash
  · cases ran.symm.trans ran'
    refine bag.less stocked ?_
    intro itemId
    have asked := total_nonneg form itemId
    rw [counts]
    omega
  · cases ran.symm.trans ran'
    exact bag

/-! ## One item -/

theorem total_singleton (itemId n other : Int) :
    total [⟨itemId, n, 0⟩] other = if itemId = other then n else 0 := by
  by_cases same : itemId = other
  · simp [total, same]
  · simp [total, same]

theorem sumsFit_singleton {itemId n : Int} (ge : -2 ^ 63 ≤ n) (lt : n < 2 ^ 63) :
    SumsFit [⟨itemId, n, 0⟩] := by
  intro other
  rw [total_singleton]
  split
  · exact ⟨ge, lt⟩
  · decide

/-- `use_item` answers and leaves the bag as `remove_items` of the single item. -/
theorem useItem_cases (stocked : Stocked p.items) (itemId n : Int) :
    (wellFormed [⟨itemId, n, 0⟩] = true ∧ n ≤ count p.items itemId
      ∧ (p.useItem itemId n).1.status = some okStatus ∧ Stocked (p.useItem itemId n).2.items
      ∧ ∀ other, count (p.useItem itemId n).2.items other =
        count p.items other - total [⟨itemId, n, 0⟩] other)
    ∨ (¬ (wellFormed [⟨itemId, n, 0⟩] = true ∧ n ≤ count p.items itemId)
      ∧ (p.useItem itemId n).1.status ≠ some okStatus ∧ (p.useItem itemId n).2 = p) := by
  have form : wellFormed [⟨itemId, n, 0⟩] = true ↔ 0 < itemId ∧ 0 < n := by
    rw [wellFormed_iff]
    simp
  unfold useItem
  by_cases invalid : itemId ≤ 0 ∨ n ≤ 0
  · rw [if_pos invalid]
    refine .inr ⟨?_, errorStatus_ne_ok (by decide) _, rfl⟩
    rw [form]
    omega
  · rw [if_neg invalid]
    by_cases short : count p.items itemId < n
    · dsimp only
      rw [if_pos short]
      refine .inr ⟨?_, errorStatus_ne_ok (by decide) _, rfl⟩
      omega
    · dsimp only
      rw [if_neg short]
      have below := stocked.lt itemId
      refine .inl ⟨form.mpr (by omega), by omega, rfl, stocked.setRemaining (by omega) (by omega), ?_⟩
      intro other
      rw [total_singleton]
      by_cases same : itemId = other
      · subst same
        rw [count_setRemaining, if_pos rfl]
      · rw [count, lookup_setRemaining_ne (Ne.symm same), if_neg same, Int.sub_zero, count]

theorem Bag.useItem (bag : Bag p.items) (itemId n : Int) : Bag (p.useItem itemId n).2.items := by
  obtain ⟨form, _, _, stocked, counts⟩ | ⟨_, _, same⟩ := useItem_cases bag.stocked itemId n
  · refine bag.less stocked ?_
    intro other
    have asked := total_nonneg form other
    rw [counts]
    omega
  · rw [same]
    exact bag

end

theorem bag_reach {p : PlayerState} (reached : itemSystem.Reach (fun _ op => op.SumsFit) p) :
    Bag p.items := by
  refine reached.inv (I := fun p => Bag p.items) ?_ ?_
  · rintro _ rfl
    exact bag_empty
  · intro p op q bag sums taken
    cases op with
    | use itemId n =>
      cases taken
      exact bag.useItem itemId n
    | add hash items =>
      cases taken
      exact bag.addItems sums hash
    | remove hash items =>
      obtain ⟨⟨rsp, _⟩, ran, rfl⟩ := Option.map_eq_some_iff.mp taken
      exact bag.removeItems sums ran

/-! ## The laws -/

/-- Two requests for the same pieces: in another order, or split in another way over
    repeated ids. -/
structure SameRequest (items items' : List Item) : Prop where
  form : wellFormed items = wellFormed items'
  totals : ∀ itemId, total items itemId = total items' itemId

/-- One count may be asked for in two parts. -/
theorem SameRequest.of_split (before after : List Item) (itemId change : Int) {a b : Int} (first : 0 < a)
    (second : 0 < b) : SameRequest (before ++ ⟨itemId, a, change⟩ :: ⟨itemId, b, change⟩ :: after)
      (before ++ ⟨itemId, a + b, change⟩ :: after) where
  form := by
    rw [Bool.eq_iff_iff, wellFormed_iff, wellFormed_iff]
    simp only [List.forall_mem_append, List.forall_mem_cons, ne_eq, List.append_eq_nil_iff, reduceCtorEq,
      and_false, not_false_eq_true, true_and, first, second, Int.add_pos first second, and_true]
    tauto
  totals := by
    intro other
    by_cases same : itemId = other
    · simp [total, same, Int.add_assoc]
    · simp [total, same]

section

variable {p : PlayerState} {items items' : List Item}

theorem SameRequest.fits_iff (same : SameRequest items items') (form : wellFormed items = true)
    (sums : SumsFit items) (sums' : SumsFit items') (stocked : Stocked p.items) :
    p.Fits items ↔ p.Fits items' := by
  rw [PlayerState.fits_iff form sums stocked, PlayerState.fits_iff (same.form ▸ form) sums' stocked]
  exact forall_congr' fun itemId => by rw [same.totals]

theorem SameRequest.covered_iff (same : SameRequest items items') (sums : SumsFit items)
    (sums' : SumsFit items') (stocked : Stocked p.items) : p.Covered items ↔ p.Covered items' := by
  rw [PlayerState.covered_iff sums stocked, PlayerState.covered_iff sums' stocked]
  exact forall_congr' fun itemId => by rw [same.totals]

theorem SameRequest.addItems_ok_iff (same : SameRequest items items') (sums : SumsFit items)
    (sums' : SumsFit items') (stocked : Stocked p.items) (hash hash' : HashOrder) :
    (p.addItems hash items).1.status = some okStatus ↔
      (p.addItems hash' items').1.status = some okStatus := by
  rw [PlayerState.addItems_ok_iff, PlayerState.addItems_ok_iff, ← same.form]
  exact and_congr_right fun form => same.fits_iff form sums sums' stocked

theorem SameRequest.addItems (same : SameRequest items items') (sums : SumsFit items)
    (sums' : SumsFit items') (stocked : Stocked p.items) (hash hash' : HashOrder)
    (isOk : (p.addItems hash items).1.status = some okStatus) :
    SameItems (p.addItems hash items).2.items (p.addItems hash' items').2.items := by
  obtain ⟨form, fits⟩ := (PlayerState.addItems_ok_iff hash p items).mp isOk
  have form' : wellFormed items' = true := same.form ▸ form
  have fits' := (same.fits_iff form sums sums' stocked).mp fits
  refine (stocked.addItems form sums hash).same (stocked.addItems form' sums' hash') ?_
  intro itemId
  rw [count_addItems sums hash form fits, count_addItems sums' hash' form' fits', same.totals]

theorem SameRequest.removeItems (same : SameRequest items items') (sums : SumsFit items)
    (sums' : SumsFit items') (stocked : Stocked p.items) {hash hash' : HashOrder} {rsp rsp' : RemoveItemsRsp}
    {q q' : PlayerState} (ran : p.removeItems hash items = some (rsp, q))
    (ran' : p.removeItems hash' items' = some (rsp', q')) : SameItems q.items q'.items := by
  have alike : (wellFormed items = true ∧ p.Covered items) ↔ (wellFormed items' = true ∧ p.Covered items') := by
    rw [same.form]
    exact and_congr_right fun _ => same.covered_iff sums sums' stocked
  obtain ⟨_, _, ran₁, case₁⟩ := removeItems_cases stocked sums hash
  cases ran.symm.trans ran₁
  obtain ⟨_, _, ran₂, case₂⟩ := removeItems_cases stocked sums' hash'
  cases ran'.symm.trans ran₂
  obtain ⟨_, form, covered, left, counts⟩ | ⟨_, refused, rfl⟩ := case₁
  · obtain ⟨_, _, _, left', counts'⟩ | ⟨_, refused', _⟩ := case₂
    · refine left.same left' ?_
      intro itemId
      rw [counts, counts', same.totals]
    · exact absurd (alike.mp ⟨form, covered⟩) refused'
  · obtain ⟨_, form', covered', _⟩ | ⟨_, _, rfl⟩ := case₂
    · exact absurd (alike.mpr ⟨form', covered'⟩) refused
    · exact .refl _

/-- A removal that succeeded is undone by adding the same. -/
theorem addItems_removeItems (stocked : Stocked p.items) (sums : SumsFit items) {hash : HashOrder}
    {rsp : RemoveItemsRsp} {q : PlayerState} (ran : p.removeItems hash items = some (rsp, q))
    (isOk : rsp.status = some okStatus) (hash' : HashOrder) :
    SameItems (q.addItems hash' items).2.items p.items := by
  obtain ⟨_, _, ran', ⟨_, form, _, left, counts⟩ | ⟨notOk, _⟩⟩ := removeItems_cases stocked sums hash
  · cases ran.symm.trans ran'
    have fits : q.Fits items := by
      rw [PlayerState.fits_iff form sums left]
      intro itemId
      have below := stocked.lt itemId
      rw [counts]
      omega
    refine (left.addItems form sums hash').same stocked ?_
    intro itemId
    rw [count_addItems sums hash' form fits, counts, Int.sub_add_cancel]
  · cases ran.symm.trans ran'
    exact absurd isOk notOk

/-- An addition that succeeded is undone by removing the same. -/
theorem removeItems_addItems (stocked : Stocked p.items) (sums : SumsFit items) {hash : HashOrder}
    (isOk : (p.addItems hash items).1.status = some okStatus) (hash' : HashOrder) :
    ∃ rsp q, (p.addItems hash items).2.removeItems hash' items = some (rsp, q) ∧ SameItems q.items p.items := by
  obtain ⟨form, fits⟩ := (PlayerState.addItems_ok_iff hash p items).mp isOk
  have added := stocked.addItems form sums hash
  have counts := count_addItems sums hash form fits
  have covered : (p.addItems hash items).2.Covered items := by
    rw [PlayerState.covered_iff sums added]
    intro itemId
    have nonneg := stocked.nonneg itemId
    rw [counts]
    omega
  obtain ⟨rsp, q, ran, _, left, _, counts'⟩ := removeItems_bag form sums added covered hash'
  refine ⟨rsp, q, ran, left.same stocked ?_⟩
  intro itemId
  rw [counts', counts, Int.add_sub_cancel]

/-- `use_item` is `remove_items` of the single item. -/
theorem useItem_eq_removeItems (stocked : Stocked p.items) (hash : HashOrder) {itemId n : Int}
    (ge : -2 ^ 63 ≤ n) (lt : n < 2 ^ 63) :
    ∃ rsp q, p.removeItems hash [⟨itemId, n, 0⟩] = some (rsp, q)
      ∧ SameItems (p.useItem itemId n).2.items q.items := by
  have sums : SumsFit [⟨itemId, n, 0⟩] := sumsFit_singleton ge lt
  have enough : p.Covered [⟨itemId, n, 0⟩] ↔ n ≤ count p.items itemId := by
    rw [PlayerState.covered_iff sums stocked]
    constructor
    · intro covered
      have here := covered itemId
      rwa [total_singleton, if_pos rfl] at here
    · intro here other
      rw [total_singleton]
      split
      · next same => exact same ▸ here
      · exact stocked.nonneg other
  obtain ⟨rsp, q, ran, removal⟩ := removeItems_cases stocked sums hash
  refine ⟨rsp, q, ran, ?_⟩
  rw [enough] at removal
  obtain ⟨_, form, covered, left, counts⟩ | ⟨_, refused, rfl⟩ := removal
  · obtain ⟨_, _, _, used, counts'⟩ | ⟨refused, _⟩ := useItem_cases stocked itemId n
    · refine used.same left ?_
      intro other
      rw [counts', counts]
    · exact absurd ⟨form, covered⟩ refused
  · obtain ⟨form, covered, _⟩ | ⟨_, _, same⟩ := useItem_cases stocked itemId n
    · exact absurd ⟨form, covered⟩ refused
    · rw [same]
      exact .refl _

end

/-- In every state that a run from a fresh player reaches, and for every request
    whose sums are `i64`s: the stored counts are positive `i64`s of positive ids;
    `check_items` answers enough exactly when `remove_items` succeeds; neither the
    order of a request nor the way it splits its counts matters; a removal that
    succeeded is undone by adding and an addition that succeeded by removing; and
    `use_item` does what `remove_items` does with the single item. -/
theorem items_form_a_bag {p : PlayerState} (reached : itemSystem.Reach (fun _ op => op.SumsFit) p) :
    (∀ itemId n, p.items.lookup itemId = some n → 0 < itemId ∧ 1 ≤ n ∧ n ≤ 2 ^ 63 - 1)
    ∧ (∀ hash items, SumsFit items → ∃ rsp q, p.removeItems hash items = some (rsp, q)
      ∧ ((p.checkItems items).enough = true ↔ rsp.status = some okStatus))
    ∧ (∀ hash hash' items items', SumsFit items → SumsFit items' → SameRequest items items' →
      ((p.addItems hash items).1.status = some okStatus ↔ (p.addItems hash' items').1.status = some okStatus)
      ∧ ((p.addItems hash items).1.status = some okStatus →
        SameItems (p.addItems hash items).2.items (p.addItems hash' items').2.items)
      ∧ ∀ rsp q rsp' q', p.removeItems hash items = some (rsp, q) →
        p.removeItems hash' items' = some (rsp', q') → SameItems q.items q'.items)
    ∧ (∀ hash hash' items, SumsFit items → ∀ rsp q, p.removeItems hash items = some (rsp, q) →
      rsp.status = some okStatus → SameItems (q.addItems hash' items).2.items p.items)
    ∧ (∀ hash hash' items, SumsFit items → (p.addItems hash items).1.status = some okStatus →
      ∃ rsp q, (p.addItems hash items).2.removeItems hash' items = some (rsp, q) ∧ SameItems q.items p.items)
    ∧ ∀ hash itemId n, -2 ^ 63 ≤ n → n < 2 ^ 63 →
      ∃ rsp q, p.removeItems hash [⟨itemId, n, 0⟩] = some (rsp, q)
        ∧ SameItems (p.useItem itemId n).2.items q.items := by
  have bag := bag_reach reached
  have stocked := bag.stocked
  refine ⟨?_, ?_, ?_, ?_, ?_, ?_⟩
  · intro itemId n found
    have bounds := stocked itemId n found
    exact ⟨bag.ids itemId n found, by omega, by omega⟩
  · intro hash items sums
    obtain ⟨rsp, q, ran, ⟨isOk, form, covered, _⟩ | ⟨notOk, short, _⟩⟩ := removeItems_cases stocked sums hash
    · exact ⟨rsp, q, ran, fun _ => isOk, fun _ => (checkItems_enough_iff p items).mpr ⟨form, covered⟩⟩
    · exact ⟨rsp, q, ran, fun enough => absurd ((checkItems_enough_iff p items).mp enough) short,
        fun isOk => absurd isOk notOk⟩
  · intro hash hash' items items' sums sums' same
    exact ⟨same.addItems_ok_iff sums sums' stocked hash hash', same.addItems sums sums' stocked hash hash',
      fun rsp q rsp' q' => same.removeItems sums sums' stocked⟩
  · intro hash hash' items sums rsp q ran isOk
    exact addItems_removeItems stocked sums ran isOk hash'
  · intro hash hash' items sums isOk
    exact removeItems_addItems stocked sums isOk hash'
  · intro hash itemId n ge lt
    exact useItem_eq_removeItems stocked hash ge lt

/-- A player who was given five pieces; three of them are taken at once or in two parts. -/
theorem five_pieces_in_a_bag :
    ∃ p : PlayerState, count p.items 1 = 5
      ∧ ∀ rsp q rsp' q', p.removeItems .inserted [⟨1, 2, 0⟩, ⟨1, 1, 0⟩] = some (rsp, q) →
        p.removeItems .inserted [⟨1, 3, 0⟩] = some (rsp', q') → SameItems q.items q'.items := by
  have sums : ∀ {items : List Item}, (∀ item ∈ items, item.itemId = 1) →
      -2 ^ 63 ≤ total items 1 → total items 1 < 2 ^ 63 → SumsFit items := by
    intro items only ge lt itemId
    by_cases same : itemId = 1
    · rw [same]
      exact ⟨ge, lt⟩
    · have unnamed : itemId ∉ items.map Item.itemId := by
        intro named
        obtain ⟨item, member, rfl⟩ := List.mem_map.mp named
        exact same (only item member)
      rw [total_of_not_mem unnamed]
      decide
  have given : itemSystem.Reach (fun _ op => op.SumsFit)
      (fresh.addItems .inserted [⟨1, 5, 0⟩]).2 := by
    refine (System.Reach.of_init rfl).step (l := .add .inserted [⟨1, 5, 0⟩]) ?_ rfl
    exact sums (by decide) (by decide) (by decide)
  obtain ⟨_, _, alike, _⟩ := items_form_a_bag given
  refine ⟨(fresh.addItems .inserted [⟨1, 5, 0⟩]).2, by decide +kernel, ?_⟩
  have same : SameRequest [⟨1, 2, 0⟩, ⟨1, 1, 0⟩] [⟨1, 3, 0⟩] :=
    .of_split [] [] 1 0 (by decide) (by decide)
  exact (alike .inserted .inserted _ _ (sums (by decide) (by decide) (by decide))
    (sums (by decide) (by decide) (by decide)) same).2.2

/-- A removal that is refused is not undone by adding. -/
theorem refused_removal_then_added :
    ¬ ∀ p, itemSystem.Reach (fun _ op => op.SumsFit) p → ∀ hash hash' items, SumsFit items →
      ∀ rsp q, p.removeItems hash items = some (rsp, q) →
        SameItems (q.addItems hash' items).2.items p.items := by
  intro all
  have restored := all fresh (.of_init rfl) .inserted .inserted [⟨1, 1, 0⟩]
    (sumsFit_singleton (by decide) (by decide))
    ⟨some (errorStatus Code.INSUFFICIENT_ITEMS "insufficient items"), []⟩ fresh rfl 1
  revert restored
  decide +kernel

end PlayerState

end Xkk.Logic

import Mathlib.Data.List.Induction
import Xkk.Lib.Table

/-! # Tables that expire as a whole

A table has one deadline for all of its entries.  Each put sets the deadline anew,
and when it has passed every entry is gone.  `Standing` tells from the history
alone which entries the table has.
-/

namespace Xkk.Lib.Lease

universe u

structure Leased (K V : Type u) where
  entries : Table.Map K V
  deadline : Nat

inductive Event (K V : Type u) where
  | put (time : Nat) (key : K) (value : V) (ttl : Nat)
  | drop (time : Nat) (key : K)
deriving DecidableEq, Repr

variable {K V K' V' : Type u}

def Event.time : Event K V → Nat
  | .put time _ _ _ | .drop time _ => time

def Event.key : Event K V → K
  | .put _ key _ _ | .drop _ key => key

/-- What a table has at the time `now`. -/
def Leased.read (t : Leased K V) (now : Nat) : Table.Map K V := if now < t.deadline then t.entries else ∅

section

variable [DecidableEq K] [DecidableEq K']

def Leased.apply (t : Leased K V) : Event K V → Leased K V
  | .put time key value ttl => ⟨(t.read time).insert key value, time + ttl⟩
  | .drop time key => ⟨(t.read time).erase key, t.deadline⟩

def replay (history : List (Event K V)) : Leased K V := history.foldl Leased.apply ⟨∅, 0⟩

theorem replay_append (history : List (Event K V)) (event : Event K V) :
    replay (history ++ [event]) = (replay history).apply event := by
  simp [replay]

end

/-! ## The entries of a history -/

/-- From `deadline` on to `now` no deadline passes before the next put. -/
def Unbroken (deadline : Nat) : List (Event K V) → Nat → Prop
  | [], now => now < deadline
  | .put time _ _ ttl :: rest, now => time < deadline ∧ Unbroken (time + ttl) rest now
  | .drop _ _ :: rest, now => Unbroken deadline rest now

/-- The last event of the key is a put of the value, and no deadline has passed
    since. -/
def Standing (history : List (Event K V)) (now : Nat) (key : K) (value : V) : Prop :=
  ∃ before time ttl after, history = before ++ .put time key value ttl :: after
    ∧ (∀ event ∈ after, event.key ≠ key) ∧ Unbroken (time + ttl) after now

theorem unbroken_append_put {deadline time ttl now : Nat} {key : K} {value : V} {after : List (Event K V)} :
    Unbroken deadline (after ++ [.put time key value ttl]) now ↔
      Unbroken deadline after time ∧ now < time + ttl := by
  induction after generalizing deadline with
  | nil => rfl
  | cons event rest ih => cases event <;> simp [Unbroken, ih, and_assoc]

theorem unbroken_append_drop {deadline time now : Nat} {key : K} {after : List (Event K V)} :
    Unbroken deadline (after ++ [.drop time key]) now ↔ Unbroken deadline after now := by
  induction after generalizing deadline with
  | nil => rfl
  | cons event rest ih => cases event <;> simp [Unbroken, ih]

theorem standing_nil {now : Nat} {key : K} {value : V} : ¬ Standing [] now key value := by
  rintro ⟨before, time, ttl, after, split, _⟩
  simp at split

theorem standing_append_put {history : List (Event K V)} {time ttl now : Nat} {key put : K} {value new : V} :
    Standing (history ++ [.put time put new ttl]) now key value ↔
      now < time + ttl ∧ (key = put ∧ value = new ∨ key ≠ put ∧ Standing history time key value) := by
  constructor
  · rintro ⟨before, start, length, after, split, untouched, unbroken⟩
    rcases after.eq_nil_or_concat' with rfl | ⟨rest, last, rfl⟩
    · obtain ⟨_, same⟩ := List.append_inj' split rfl
      cases same
      exact ⟨unbroken, .inl ⟨rfl, rfl⟩⟩
    · rw [← List.cons_append, ← List.append_assoc] at split
      obtain ⟨rfl, same⟩ := List.append_inj' split rfl
      cases same
      obtain ⟨unbroken, fresh⟩ := unbroken_append_put.mp unbroken
      have other : put ≠ key := untouched (.put time put new ttl) (by simp)
      exact ⟨fresh, .inr ⟨other.symm, before, start, length, rest, rfl,
        fun event inside => untouched event (List.mem_append_left _ inside), unbroken⟩⟩
  · rintro ⟨fresh, ⟨rfl, rfl⟩ | ⟨other, before, start, length, after, rfl, untouched, unbroken⟩⟩
    · exact ⟨history, time, ttl, [], rfl, by simp, fresh⟩
    · refine ⟨before, start, length, after ++ [.put time put new ttl], by simp, ?_,
        unbroken_append_put.mpr ⟨unbroken, fresh⟩⟩
      intro event inside
      rcases List.mem_append.mp inside with old | last
      · exact untouched event old
      · rw [List.mem_singleton.mp last]
        exact other.symm

theorem standing_append_drop {history : List (Event K V)} {time now : Nat} {key dropped : K} {value : V} :
    Standing (history ++ [.drop time dropped]) now key value ↔
      key ≠ dropped ∧ Standing history now key value := by
  constructor
  · rintro ⟨before, start, length, after, split, untouched, unbroken⟩
    rcases after.eq_nil_or_concat' with rfl | ⟨rest, last, rfl⟩
    · obtain ⟨_, same⟩ := List.append_inj' split rfl
      cases same
    · rw [← List.cons_append, ← List.append_assoc] at split
      obtain ⟨rfl, same⟩ := List.append_inj' split rfl
      cases same
      have other : dropped ≠ key := untouched (.drop time dropped) (by simp)
      exact ⟨other.symm, before, start, length, rest, rfl,
        fun event inside => untouched event (List.mem_append_left _ inside), unbroken_append_drop.mp unbroken⟩
  · rintro ⟨other, before, start, length, after, rfl, untouched, unbroken⟩
    refine ⟨before, start, length, after ++ [.drop time dropped], by simp, ?_,
      unbroken_append_drop.mpr unbroken⟩
    intro event inside
    rcases List.mem_append.mp inside with old | last
    · exact untouched event old
    · rw [List.mem_singleton.mp last]
      exact other.symm

/-- Events in the order of their times, none of them later than `now`. -/
structure Timed (history : List (Event K V)) (now : Nat) : Prop where
  ordered : history.Pairwise fun first second => first.time ≤ second.time
  past : ∀ event ∈ history, event.time ≤ now

theorem Timed.later {history : List (Event K V)} {now later : Nat} (timed : Timed history now)
    (le : now ≤ later) : Timed history later :=
  ⟨timed.ordered, fun event inside => Nat.le_trans (timed.past event inside) le⟩

theorem Timed.append {history : List (Event K V)} {event : Event K V} (timed : Timed history event.time) :
    Timed (history ++ [event]) event.time where
  ordered := by
    rw [List.pairwise_append]
    refine ⟨timed.ordered, List.pairwise_singleton _ _, ?_⟩
    intro first inside second last
    rw [List.mem_singleton.mp last]
    exact timed.past first inside
  past := by
    intro other inside
    rcases List.mem_append.mp inside with old | last
    · exact timed.past other old
    · rw [List.mem_singleton.mp last]

/-- All but the last event of a history came no later than the last one. -/
theorem Timed.initial {history : List (Event K V)} {event : Event K V} {now : Nat}
    (timed : Timed (history ++ [event]) now) : Timed history event.time where
  ordered := (List.pairwise_append.mp timed.ordered).1
  past other inside := (List.pairwise_append.mp timed.ordered).2.2 other inside event (by simp)

/-- A put of this ttl, or no put. -/
def Event.Lasts (ttl : Nat) : Event K V → Prop
  | .put _ _ _ other => other = ttl
  | .drop _ _ => True

/-- When every put has the same ttl, none breaks the time of an earlier one. -/
theorem unbroken_of_uniform {ttl start now : Nat} {after : List (Event K V)} (timed : Timed after now)
    (later : ∀ event ∈ after, start ≤ event.time) (uniform : ∀ event ∈ after, event.Lasts ttl)
    (fresh : now < start + ttl) : Unbroken (start + ttl) after now := by
  induction after generalizing start with
  | nil => exact fresh
  | cons event rest ih =>
    obtain ⟨first, ordered⟩ := List.pairwise_cons.mp timed.ordered
    have restTimed : Timed rest now :=
      ⟨ordered, fun event inside => timed.past event (List.mem_cons_of_mem _ inside)⟩
    have restUniform : ∀ event ∈ rest, event.Lasts ttl :=
      fun event inside => uniform event (List.mem_cons_of_mem _ inside)
    cases event with
    | put time key value other =>
      obtain rfl : other = ttl := uniform _ List.mem_cons_self
      have begun : start ≤ time := later _ List.mem_cons_self
      have past : time ≤ now := timed.past _ List.mem_cons_self
      exact ⟨by omega, ih restTimed first restUniform (by omega)⟩
    | drop time key =>
      exact ih restTimed (fun event inside => later event (List.mem_cons_of_mem _ inside)) restUniform fresh

/-- The entries of a table are those that stand in its history. -/
theorem lookup_replay [DecidableEq K] {history : List (Event K V)} {now : Nat} (timed : Timed history now)
    (key : K) (value : V) : ((replay history).read now).lookup key = some value ↔ Standing history now key value := by
  induction history using List.reverseRecOn generalizing now with
  | nil => simp [replay, Leased.read, standing_nil]
  | append_singleton history event ih =>
    rw [replay_append]
    cases event with
    | put time put new ttl =>
      have initial : ((replay history).read time).lookup key = some value ↔ Standing history time key value :=
        ih timed.initial
      rw [standing_append_put, Leased.apply, Leased.read]
      by_cases fresh : now < time + ttl
      · by_cases same : key = put
        · subst same
          simp [fresh, eq_comm]
        · simp [fresh, same, AList.lookup_insert_ne same, initial]
      · simp [fresh]
    | drop time dropped =>
      have le : time ≤ now := timed.past (.drop time dropped) (by simp)
      rw [standing_append_drop]
      by_cases same : key = dropped
      · subst same
        simp only [Leased.apply, Leased.read]
        by_cases fresh : now < (replay history).deadline <;> simp [fresh]
      · rw [← ih (timed.initial.later le)]
        simp only [Leased.apply, Leased.read]
        by_cases fresh : now < (replay history).deadline
        · have earlier : time < (replay history).deadline := by omega
          simp [fresh, same, AList.lookup_erase_ne same, earlier]
        · simp [fresh, same]

/-! ## Other keys and values -/

def Event.map (key : K → K') (value : V → V') : Event K V → Event K' V'
  | .put time k v ttl => .put time (key k) (value v) ttl
  | .drop time k => .drop time (key k)

variable {key : K → K'} {value : V → V'}

theorem unbroken_map {deadline now : Nat} {history : List (Event K V)} :
    Unbroken deadline (history.map (Event.map key value)) now ↔ Unbroken deadline history now := by
  induction history generalizing deadline with
  | nil => rfl
  | cons event rest ih => cases event <;> simp [Event.map, Unbroken, ih]

theorem map_key (event : Event K V) : (event.map key value).key = key event.key := by
  cases event <;> rfl

theorem Timed.map {history : List (Event K V)} {now : Nat} (timed : Timed history now) :
    Timed (history.map (Event.map key value)) now := by
  have same : ∀ event : Event K V, (event.map key value).time = event.time := by
    intro event
    cases event <;> rfl
  refine ⟨?_, ?_⟩
  · rw [List.pairwise_map]
    simpa only [same] using timed.ordered
  · intro event inside
    obtain ⟨old, isOld, rfl⟩ := List.mem_map.mp inside
    rw [same]
    exact timed.past old isOld

/-- Keys and values may be written otherwise, as long as they can be told apart. -/
theorem standing_map (keys : Function.Injective key) {history : List (Event K V)} {now : Nat} {k : K}
    {text : V'} :
    Standing (history.map (Event.map key value)) now (key k) text ↔
      ∃ v, text = value v ∧ Standing history now k v := by
  constructor
  · rintro ⟨before, time, ttl, after, split, untouched, unbroken⟩
    obtain ⟨before', rest, rfl, rfl, isRest⟩ := List.map_eq_append_iff.mp split
    obtain ⟨event, after', rfl, isEvent, rfl⟩ := List.map_eq_cons_iff.mp isRest
    cases event with
    | drop time k => cases isEvent
    | put start k' v length =>
      simp only [Event.map, Event.put.injEq] at isEvent
      obtain ⟨rfl, same, rfl, rfl⟩ := isEvent
      obtain rfl := keys same
      refine ⟨v, rfl, before', start, length, after', rfl, ?_, unbroken_map.mp unbroken⟩
      intro event inside isKey
      apply untouched _ (List.mem_map_of_mem inside)
      rw [map_key, isKey]
  · rintro ⟨v, rfl, before, time, ttl, after, rfl, untouched, unbroken⟩
    refine ⟨before.map (Event.map key value), time, ttl, after.map (Event.map key value),
      by simp [Event.map], ?_, unbroken_map.mpr unbroken⟩
    intro event inside
    obtain ⟨old, isOld, rfl⟩ := List.mem_map.mp inside
    rw [map_key]
    exact fun same => untouched old isOld (keys same)

end Xkk.Lib.Lease

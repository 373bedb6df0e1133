import Mathlib.Logic.Function.Basic
import Xkk.Lib.Transition
import Xkk.Persist.Stores

/-! # Loading and saving the players of Logic

The loader of the Logic service reads the document of a player, or creates the
player and saves it first.  Commands change the items of a player that is in
memory, the saver writes the player, and the cache forgets players.  Each
command of Mongo is one step, and may fail.  A player that is forgotten has no saver
under way.

What the runtime relies on is shown here of the real documents: a load returns
what was written last, the document of a player is always readable, and
normalization changes nothing that Logic has written itself.
-/

namespace Xkk.Logic

open Xkk.Lib Xkk.Persist

def defaultPlayer (gid : Int) : PlayerData where
  gid := gid
  profile := some ⟨gid, s!"Player{gid}", 1, 0, 0⟩
  items := ∅

def normalizePlayer (gid : Int) (data : PlayerData) : PlayerData :=
  let profile := data.profile.getD ⟨gid, s!"Player{gid}", 1, 0, 0⟩
  { data with gid := gid, profile := some { profile with gid := gid } }

inductive Residence where
  | absent
  | creating                        -- the loader has found no document
  | resident (data : PlayerData)

/-- `written` is what the store has applied, in order. -/
structure Residents where
  store : Collection
  players : Int → Residence
  written : List PlayerData

namespace Residents

section

variable {E : Type} (xmongo : Xmongo E) (hash : HashOrder)

def initial : Residents := ⟨[], fun _ => .absent, []⟩

def set (s : Residents) (gid : Int) (residence : Residence) : Residents :=
  { s with players := Function.update s.players gid residence }

/-- `PlayerStore::save` -/
def write (s : Residents) (data : PlayerData) (answer : Auth.Answer) : Residents :=
  match saveModel (Persist.players xmongo hash) s.store data with
  | .ok saved =>
    if answer.applied then { s with store := saved, written := s.written ++ [data] } else s
  | .error _ => s

/-- The loader up to the answer of `find_one`. -/
def find (s : Residents) (gid : Int) (ok : Bool) : Option Residents :=
  match s.players gid with
  | .absent =>
    if ok then
      match loadModel (Persist.players xmongo hash) s.store (.int64 gid) with
      | .ok (some data) => some (s.set gid (.resident (normalizePlayer gid data)))
      | .ok none => some (s.set gid .creating)
      | .error _ => some s
    else some s
  | _ => none

/-- The rest of the loader, for a player without a document. -/
def create (s : Residents) (gid : Int) (answer : Auth.Answer) : Option Residents :=
  match s.players gid with
  | .creating =>
    let t := s.write xmongo hash (defaultPlayer gid) answer
    some (t.set gid (if answer = .ok then .resident (defaultPlayer gid) else .absent))
  | _ => none

/-- A command of the player leaves other items. -/
def change (s : Residents) (gid : Int) (items : Items) : Option Residents :=
  match s.players gid with
  | .resident data => some (s.set gid (.resident { data with items := items }))
  | _ => none

def save (s : Residents) (gid : Int) (answer : Auth.Answer) : Option Residents :=
  match s.players gid with
  | .resident data => some (s.write xmongo hash data answer)
  | _ => none

def evict (s : Residents) (gid : Int) : Option Residents :=
  match s.players gid with
  | .resident _ => some (s.set gid .absent)
  | _ => none

inductive Label where
  | find (gid : Int) (ok : Bool)
  | create (gid : Int) (answer : Auth.Answer)
  | change (gid : Int) (items : Items)
  | save (gid : Int) (answer : Auth.Answer)
  | evict (gid : Int)

def step (s : Residents) : Label → Option Residents
  | .find gid ok => s.find xmongo hash gid ok
  | .create gid answer => s.create xmongo hash gid answer
  | .change gid items => s.change gid items
  | .save gid answer => s.save xmongo hash gid answer
  | .evict gid => s.evict gid

def system : System Residents Label := .ofFun (· = .initial) (step xmongo hash)

/-- The ids of the items are 32-bit integers. -/
def TypedStep (_ : Residents) : Label → Prop
  | .change _ items => Typed items
  | _ => True

instance (s : Residents) (label : Label) : Decidable (TypedStep s label) := by
  cases label with
  | change _ items => exact inferInstanceAs (Decidable (∀ itemId ∈ items.keys, Decimal.Fits 32 itemId))
  | _ => exact .isTrue trivial

end

@[simp] theorem set_players_self (s : Residents) (gid : Int) (residence : Residence) :
    (s.set gid residence).players gid = residence := Function.update_self ..

theorem set_players_ne (s : Residents) {gid other : Int} (differ : other ≠ gid) (residence : Residence) :
    (s.set gid residence).players other = s.players other := Function.update_of_ne differ ..

/-! ## What is in memory and in the store -/

/-- A player as the loader leaves it. -/
structure Formed (gid : Int) (data : PlayerData) : Prop where
  ofGid : data.gid = gid
  profile : ∃ profile, data.profile = some profile ∧ profile.gid = gid
  typed : Typed data.items

theorem formed_default (gid : Int) : Formed gid (defaultPlayer gid) where
  ofGid := rfl
  profile := ⟨_, rfl, rfl⟩
  typed := fun itemId member => absurd member (AList.notMem_empty itemId)

/-- What was written well is left as it is. -/
theorem Formed.normalize {gid : Int} {value data : PlayerData} (formed : Formed gid value) (same : value.Same data) :
    normalizePlayer gid data = data := by
  obtain ⟨profile, isProfile, isGid⟩ := formed.profile
  have read : data.profile = some profile := same.profile ▸ isProfile
  have own : data.gid = gid := same.gid.symm.trans formed.ofGid
  have named : { profile with gid := gid } = profile := by rw [← isGid]
  rw [normalizePlayer, read, Option.getD_some, named, ← read, ← own]

theorem Formed.of_same {gid : Int} {value data : PlayerData} (formed : Formed gid value) (same : value.Same data) :
    Formed gid data where
  ofGid := same.gid.symm.trans formed.ofGid
  profile := same.profile ▸ formed.profile
  typed := by
    intro itemId member
    apply formed.typed
    rw [← AList.lookup_isSome] at member ⊢
    rw [same.items]
    exact member

section

variable {E : Type} {xmongo : Xmongo E} {hash : HashOrder} {s t : Residents}

structure Kept (xmongo : Xmongo E) (hash : HashOrder) (s : Residents) : Prop where
  store : s.store = writeAll (Persist.players xmongo hash) [] s.written
  written : ∀ value ∈ s.written, Formed value.gid value
  resident : ∀ gid data, s.players gid = .resident data → Formed gid data
  creating : ∀ gid, s.players gid = .creating →
    lastSaved (Persist.players xmongo hash) (.int64 gid) s.written = none

theorem kept_initial : Kept xmongo hash initial where
  store := rfl
  written := by intro value member; cases member
  resident := by intro gid data found; cases found
  creating := by intro gid found; cases found

theorem named_other {gid other : Int} (data : PlayerData) (apart : other ≠ gid) (own : data.gid = gid) :
    named (.int64 other) ((Persist.players xmongo hash).document data) = false := by
  have test := named_player hash other data
  rw [own, decide_eq_false apart] at test
  exact test

/-- Another place changes, and nothing is written. -/
theorem Kept.set (kept : Kept xmongo hash s) (gid : Int) {residence : Residence}
    (resident : ∀ data, residence = .resident data → Formed gid data)
    (creating : residence = .creating → lastSaved (Persist.players xmongo hash) (.int64 gid) s.written = none) :
    Kept xmongo hash (s.set gid residence) where
  store := kept.store
  written := kept.written
  resident := by
    intro other data found
    by_cases same : other = gid
    · subst same
      rw [set_players_self] at found
      exact resident data found
    · rw [set_players_ne s same] at found
      exact kept.resident other data found
  creating := by
    intro other found
    by_cases same : other = gid
    · subst same
      rw [set_players_self] at found
      exact creating found
    · rw [set_players_ne s same] at found
      exact kept.creating other found

/-- A player is written; no player that is being created has a document. -/
theorem Kept.write (kept : Kept xmongo hash s) {gid : Int} {data : PlayerData} (formed : Formed gid data)
    (answer : Auth.Answer) (apart : ∀ other, s.players other = .creating → other ≠ gid) :
    Kept xmongo hash (s.write xmongo hash data answer) := by
  rw [Residents.write, saveModel_eq]
  simp only
  split
  next =>
    refine ⟨?_, ?_, kept.resident, ?_⟩
    · rw [kept.store, ← writeAll_append]
    · intro value member
      cases List.mem_append.mp member with
      | inl before => exact kept.written value before
      | inr last =>
        rw [List.mem_singleton.mp last]
        rw [formed.ofGid]
        exact formed
    · intro other found
      rw [lastSaved_append, named_other data (apart other found) formed.ofGid, if_neg Bool.false_ne_true]
      exact kept.creating other found
  next => exact kept

theorem loadModel_kept (kept : Kept xmongo hash s) (gid : Int) :
    (lastSaved (Persist.players xmongo hash) (.int64 gid) s.written = none
      ∧ loadModel (Persist.players xmongo hash) s.store (.int64 gid) = .ok none)
    ∨ ∃ value data, lastSaved (Persist.players xmongo hash) (.int64 gid) s.written = some value
      ∧ loadModel (Persist.players xmongo hash) s.store (.int64 gid) = .ok (some data)
      ∧ Formed gid value ∧ value.Same data := by
  cases last : lastSaved (Persist.players xmongo hash) (.int64 gid) s.written with
  | none =>
    refine .inl ⟨rfl, ?_⟩
    rw [kept.store, loadModel_unwritten _ last]
    rfl
  | some value =>
    have formed := kept.written value (mem_of_lastSaved last)
    have isNamed : decide (gid = value.gid) = true := by
      rw [← named_player hash gid value]
      exact named_of_lastSaved last
    have own : gid = value.gid := of_decide_eq_true isNamed
    obtain ⟨data, read, same⟩ := player_round_trip xmongo hash formed.typed
    refine .inr ⟨value, data, rfl, ?_, own ▸ formed, same⟩
    rw [kept.store, loadModel_written _ last]
    exact congrArg (some <$> ·) read

theorem kept_find (kept : Kept xmongo hash s) {gid : Int} {ok : Bool} (taken : s.find xmongo hash gid ok = some t) :
    Kept xmongo hash t := by
  unfold find at taken
  split at taken
  next =>
    split at taken
    next =>
      rcases loadModel_kept kept gid with ⟨never, missing⟩ | ⟨value, data, _, found, formed, same⟩
      · simp only [missing, Option.some.injEq] at taken
        subst taken
        exact kept.set gid (by intro data isResident; cases isResident) (fun _ => never)
      · simp only [found, Option.some.injEq] at taken
        subst taken
        refine kept.set gid ?_ (by intro isCreating; cases isCreating)
        intro loaded isResident
        cases isResident
        rw [formed.normalize same]
        exact formed.of_same same
    next =>
      cases taken
      exact kept
  next => cases taken

theorem kept_create (kept : Kept xmongo hash s) {gid : Int} {answer : Auth.Answer}
    (taken : s.create xmongo hash gid answer = some t) : Kept xmongo hash t := by
  unfold create at taken
  split at taken
  next isCreating =>
    cases taken
    -- the place is left before the document is written
    have left : Kept xmongo hash (s.set gid .absent) :=
      kept.set gid (by intro data isResident; cases isResident) (by intro isCreating; cases isCreating)
    have saved := left.write (formed_default gid) answer (by
      intro other found same
      subst same
      rw [set_players_self] at found
      cases found)
    have same : (s.write xmongo hash (defaultPlayer gid) answer).set gid
          (if answer = .ok then .resident (defaultPlayer gid) else .absent)
        = ((s.set gid .absent).write xmongo hash (defaultPlayer gid) answer).set gid
          (if answer = .ok then .resident (defaultPlayer gid) else .absent) := by
      simp only [Residents.write, saveModel_eq]
      split
      · simp only [Residents.set, Function.update_idem]
      · simp only [Residents.set, Function.update_idem]
    rw [same]
    refine saved.set gid ?_ ?_
    · intro data isResident
      split at isResident
      next => cases isResident; exact formed_default gid
      next => cases isResident
    · intro isCreating
      split at isCreating <;> cases isCreating
  next => cases taken

theorem kept_step (kept : Kept xmongo hash s) {label : Label} (typed : TypedStep s label)
    (taken : s.step xmongo hash label = some t) : Kept xmongo hash t := by
  cases label with
  | find gid ok => exact kept_find kept taken
  | create gid answer => exact kept_create kept taken
  | change gid items =>
    simp only [step, change] at taken
    split at taken
    next data found =>
      cases taken
      have formed := kept.resident gid data found
      refine kept.set gid ?_ (by intro isCreating; cases isCreating)
      intro changed isResident
      cases isResident
      exact ⟨formed.ofGid, formed.profile, typed⟩
    next => cases taken
  | save gid answer =>
    simp only [step, save] at taken
    split at taken
    next data found =>
      cases taken
      refine kept.write (kept.resident gid data found) answer ?_
      intro other isCreating same
      rw [same, found] at isCreating
      cases isCreating
    next => cases taken
  | evict gid =>
    simp only [step, evict] at taken
    split at taken
    next =>
      cases taken
      exact kept.set gid (by intro data isResident; cases isResident) (by intro isCreating; cases isCreating)
    next => cases taken

theorem kept_reach (reached : (system xmongo hash).Reach TypedStep s) : Kept xmongo hash s := by
  apply reached.inv
  · intro s isInitial
    rw [show s = initial from isInitial]
    exact kept_initial
  · intro s label t kept typed taken
    exact kept_step kept typed taken

/-- Players in memory carry their gid and a profile; a load that Mongo answers
    finds exactly what was written last for the player, and creates a player only
    when nothing was ever written for it. -/
theorem load_returns_written (reached : (system xmongo hash).Reach TypedStep s) (gid : Int) :
    (∀ data, s.players gid = .resident data →
      data.gid = gid ∧ ∃ profile, data.profile = some profile ∧ profile.gid = gid)
    ∧ (s.players gid = .creating →
      lastSaved (Persist.players xmongo hash) (.int64 gid) s.written = none)
    ∧ ∀ t, s.step xmongo hash (.find gid true) = some t →
      (∀ value, lastSaved (Persist.players xmongo hash) (.int64 gid) s.written = some value →
        ∃ data, t.players gid = .resident data ∧ value.Same data)
      ∧ (lastSaved (Persist.players xmongo hash) (.int64 gid) s.written = none → t.players gid = .creating) := by
  have kept := kept_reach reached
  refine ⟨?_, kept.creating gid, ?_⟩
  · intro data found
    have formed := kept.resident gid data found
    exact ⟨formed.ofGid, formed.profile⟩
  · intro t taken
    simp only [step, find] at taken
    split at taken
    next =>
      rcases loadModel_kept kept gid with ⟨never, missing⟩ | ⟨value, data, last, found, formed, same⟩
      · simp only [if_true, missing, Option.some.injEq] at taken
        subst taken
        rw [never]
        exact ⟨(by intro value isSome; cases isSome), fun _ => set_players_self ..⟩
      · simp only [if_true, found, Option.some.injEq] at taken
        subst taken
        rw [last]
        refine ⟨?_, by intro isNone; cases isNone⟩
        intro written isWritten
        cases isWritten
        refine ⟨normalizePlayer gid data, set_players_self .., ?_⟩
        rw [formed.normalize same]
        exact same
    next => cases taken

end

def savedAndForgotten : List Label :=
  [.find 5 true, .create 5 .ok, .change 5 (AList.singleton 7 3), .save 5 .ok, .change 5 ∅, .evict 5]

theorem savedAndForgotten_reloaded :
    ∃ s t data, (system Xmongo.strict .inserted).Reach TypedStep s
      ∧ s.step Xmongo.strict .inserted (.find 5 true) = some t
      ∧ t.players 5 = .resident data ∧ data.items.lookup 7 = some 3 := by
  have run : ∃ s, System.follow TypedStep (step Xmongo.strict .inserted) initial savedAndForgotten = some s
      ∧ (s.step Xmongo.strict .inserted (.find 5 true)).isSome = true
      ∧ ((lastSaved (Persist.players Xmongo.strict .inserted) (.int64 5) s.written).bind
        fun value => value.items.lookup 7) = some 3 := by
    decide +kernel
  obtain ⟨s, followed, enabled, items⟩ := run
  obtain ⟨t, taken⟩ := Option.isSome_iff_exists.mp enabled
  obtain ⟨value, last, three⟩ := Option.bind_eq_some_iff.mp items
  have reached : (system Xmongo.strict .inserted).Reach TypedStep s := System.reach_of_follow rfl followed
  obtain ⟨data, resident, same⟩ := ((load_returns_written reached 5).2.2 t taken).1 value last
  exact ⟨s, t, data, reached, taken, resident, by rw [← same.items, three]⟩

end Residents

end Xkk.Logic

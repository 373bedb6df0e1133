import Mathlib.Logic.Function.Basic
import Xkk.Lib.Transition

/-! # Write-back of the Public player data

An update changes the aggregate of a player under its lock, sets the dirty flag
and registers the gid in the dirty set.  `flush_dirty` collects the registered
gids, has the cache call the batch saver for those that are dirty, and then
removes the registration of the players that are clean.  One task runs the
flushes one after the other, and the last one comes after it has ended.

`PublicPlayers` runs updates beside the flushes.  The cache is what the code
assumes of it: it looks at the keys, calls the batch saver for those whose value
is dirty, in batches of any size, and returns when the saver has returned.  No
entry leaves it.
-/

namespace Xkk.Persist

open Xkk.Lib

/-- `version` counts the updates that have reported a change. -/
structure PublicPlayer (D : Type) where
  data : D
  dirty : Bool
  version : Nat
deriving DecidableEq, Repr

structure Snapshot (D : Type) where
  gid : Int
  version : Nat
  data : D
deriving DecidableEq, Repr

/-- What an update has left, and whether it has reported a change. -/
structure Left (D : Type) where
  data : D
  changed : Bool
deriving DecidableEq, Repr

inductive FlushPhase (D : Type) where
  | collecting (shard : Nat)
  -- `flush_keys` has yet to look at `pending`, and has found `entries` dirty
  | flushing (pending entries : List Int)
  -- the batch saver has yet to visit `todo`, and has the snapshots `taken`
  | saving (pending todo : List Int) (taken : List (Snapshot D))
  | unregistering (todo : List Int)
  | returned (ok : Bool)
deriving DecidableEq, Repr

def FlushPhase.taken {D : Type} : FlushPhase D → List (Snapshot D)
  | .saving _ _ taken => taken
  | .collecting _ | .flushing _ _ | .unregistering _ | .returned _ => []

/-- A `flush_dirty`; `disturbed` says that an update section has run since it
    started, or was running then. -/
structure Flush (D : Type) where
  gids : List Int
  phase : FlushPhase D
  disturbed : Bool
deriving DecidableEq, Repr

/-- Where `PublicApplication` is. -/
inductive Mode where
  | running
  | stopping                -- the periodic task is awaited
  | finishing               -- the last flush runs
  | stopped
deriving DecidableEq, Repr

structure PublicPlayers (D : Type) where
  players : Int → Option (PublicPlayer D)
  updating : List Int                       -- sections between the flag and the registration
  dirty : List Int
  flush : Option (Flush D)
  mode : Mode
  handed : List (Snapshot D)                -- what was given to the store
  left : Int → List (Left D)                -- what the updates of each player have left

/-- The shards of the concurrent set, which are visited one after the other. -/
structure Sharding where
  shards : Nat
  shard : Int → Nat
  below : ∀ gid, shard gid < shards

namespace PublicPlayers

variable {D : Type}

def initial : PublicPlayers D where
  players := fun _ => none
  updating := []
  dirty := []
  flush := none
  mode := .running
  handed := []
  left := fun _ => []

def setPlayer (s : PublicPlayers D) (gid : Int) (p : PublicPlayer D) : PublicPlayers D :=
  { s with players := Function.update s.players gid (some p) }

def isDirty (s : PublicPlayers D) (gid : Int) : Bool := (s.players gid).any (·.dirty)

def setFlush (s : PublicPlayers D) (f : Flush D) (phase : FlushPhase D) : PublicPlayers D :=
  { s with flush := some { f with phase := phase } }

/-- What the batch saver holds and has not given to the store yet. -/
def taken (s : PublicPlayers D) : List (Snapshot D) := (s.flush.map (·.phase.taken)).getD []

/-! ## Updates -/

/-- `get_i64` loads a player that is not resident. -/
def load (s : PublicPlayers D) (gid : Int) (data : D) : Option (PublicPlayers D) :=
  if 0 < gid ∧ s.players gid = none then some (s.setPlayer gid ⟨data, false, 0⟩) else none

/-- A flush that is running does not see everything any more. -/
def disturb (s : PublicPlayers D) : PublicPlayers D :=
  { s with flush := s.flush.map fun f : Flush D => { f with disturbed := true } }

/-- The section keeps the lock until the gid is registered. -/
def enter (s : PublicPlayers D) (gid : Int) : PublicPlayers D :=
  { s.disturb with updating := s.updating ++ [gid] }

/-- `PublicPlayer::update` up to the dirty flag; without a change it ends here. -/
def update (s : PublicPlayers D) (gid : Int) (data : D) (changed : Bool) : Option (PublicPlayers D) :=
  if gid ∈ s.updating then none
  else
    (s.players gid).map fun p =>
      if changed then (s.enter gid).setPlayer gid ⟨data, true, p.version + 1⟩
      else s.disturb.setPlayer gid { p with data := data }

def record (s : PublicPlayers D) (gid : Int) (data : D) (changed : Bool) : PublicPlayers D :=
  { s with left := Function.update s.left gid (s.left gid ++ [⟨data, changed⟩]) }

/-- `on_dirty`, and the lock is released. -/
def register (s : PublicPlayers D) (gid : Int) : Option (PublicPlayers D) :=
  if gid ∈ s.updating then
    some { s with updating := s.updating.erase gid, dirty := s.dirty.insert gid }
  else none

/-! ## The flush -/

/-- The periodic task, or `shutdown` after it. -/
def start (s : PublicPlayers D) : Option (PublicPlayers D) :=
  let t := { s with flush := some ⟨[], .collecting 0, !s.updating.isEmpty⟩ }
  match s.flush, s.mode with
  | none, .running => some t
  | none, .stopping => some { t with mode := .finishing }
  | _, _ => none

def takeDirtySnapshot (s : PublicPlayers D) (gid : Int) : Option (PublicPlayers D × Option (Snapshot D)) :=
  if gid ∈ s.updating then none
  else
    match s.players gid with
    | some p =>
      if p.dirty then some (s.setPlayer gid { p with dirty := false }, some ⟨gid, p.version, p.data⟩)
      else some (s, none)
    | none => some (s, none)

/-- A player that is no longer resident loses its registration too. -/
def removeRegistrationIfClean (s : PublicPlayers D) (gid : Int) : Option (PublicPlayers D) :=
  if gid ∈ s.updating then none
  else if s.isDirty gid then some s
  else some { s with dirty := s.dirty.filter (· ≠ gid) }

/-- The next step of the flush. -/
def advance (sharding : Sharding) (s : PublicPlayers D) (f : Flush D) : FlushPhase D → Option (PublicPlayers D)
  | .collecting shard =>
    if shard < sharding.shards then
      let found := s.dirty.filter fun gid => sharding.shard gid = shard
      some (s.setFlush { f with gids := f.gids ++ found } (.collecting (shard + 1)))
    else if f.gids.isEmpty then some (s.setFlush f (.returned true))
    else some (s.setFlush f (.flushing f.gids []))
  | .flushing (gid :: pending) entries =>
    some (s.setFlush f (.flushing pending (if s.isDirty gid then entries ++ [gid] else entries)))
  | .flushing [] [] => some (s.setFlush f (.unregistering f.gids))
  | .flushing [] (gid :: entries) => some (s.setFlush f (.saving [] (gid :: entries) []))
  | .saving pending (gid :: todo) taken =>
    (s.takeDirtySnapshot gid).map fun (t, snapshot) =>
      t.setFlush f (.saving pending todo (taken ++ snapshot.toList))
  | .saving pending [] taken =>
    some { s.setFlush f (.flushing pending []) with handed := s.handed ++ taken }
  | .unregistering (gid :: todo) =>
    (s.removeRegistrationIfClean gid).map fun t => t.setFlush f (.unregistering todo)
  | .unregistering [] => some (s.setFlush f (.returned true))
  | .returned _ =>
    some { s with flush := none, mode := if s.mode = .finishing then .stopped else s.mode }

/-- The cache calls the batch saver before it has looked at every key. -/
def callSaver (s : PublicPlayers D) (f : Flush D) : FlushPhase D → Option (PublicPlayers D)
  | .flushing pending (gid :: entries) => some (s.setFlush f (.saving pending (gid :: entries) []))
  | _ => none

/-- `flush_keys` returns an error. -/
def failFlush (s : PublicPlayers D) (f : Flush D) : FlushPhase D → Option (PublicPlayers D)
  | .flushing _ _ => some (s.setFlush f (.returned false))
  | _ => none

/-! ## Runs -/

inductive Label (D : Type) where
  | load (gid : Int) (data : D)
  | update (gid : Int) (data : D) (changed : Bool)
  | register (gid : Int)
  | start
  | advance
  | callSaver
  | failFlush
  | stop
deriving DecidableEq, Repr

def step (sharding : Sharding) (s : PublicPlayers D) : Label D → Option (PublicPlayers D)
  | .load gid data => s.load gid data
  | .update gid data changed => (s.update gid data changed).map (·.record gid data changed)
  | .register gid => s.register gid
  | .start => s.start
  | .advance => s.flush.bind fun f => s.advance sharding f f.phase
  | .callSaver => s.flush.bind fun f => s.callSaver f f.phase
  | .failFlush => s.flush.bind fun f => s.failFlush f f.phase
  | .stop => if s.mode = .running then some { s with mode := .stopping } else none

def system (sharding : Sharding) : System (PublicPlayers D) (Label D) :=
  .ofFun (· = .initial) (step sharding)

/-! ## Nothing is forgotten -/

/-- Every snapshot that was taken, in the order in which it was. -/
def snapshots (s : PublicPlayers D) : List (Snapshot D) := s.handed ++ s.taken

structure Sound (s : PublicPlayers D) : Prop where
  registered : ∀ gid p, s.players gid = some p → p.dirty = true → gid ∉ s.updating → gid ∈ s.dirty
  covered : ∀ gid p, s.players gid = some p → p.dirty = true ∨ p.version = 0
    ∨ ∃ snapshot ∈ s.snapshots, snapshot.gid = gid ∧ snapshot.version = p.version
  -- a dirty player has changed since its last snapshot
  behind : ∀ snapshot ∈ s.snapshots, ∃ p, s.players snapshot.gid = some p
    ∧ snapshot.version ≤ p.version ∧ (p.dirty = true → snapshot.version < p.version)
  ordered : s.snapshots.Pairwise fun first later => first.gid = later.gid → first.version < later.version

variable {s t : PublicPlayers D}

theorem sound_initial : Sound (initial : PublicPlayers D) where
  registered := by intro gid p found; cases found
  covered := by intro gid p found; cases found
  behind := by intro snapshot member; cases member
  ordered := .nil

/-- A step of the flush that touches no player. -/
theorem Sound.congr (sound : Sound s) (players : t.players = s.players) (updating : t.updating = s.updating)
    (dirty : t.dirty = s.dirty) (snapshots : t.snapshots = s.snapshots) : Sound t where
  registered := by
    rw [players, updating, dirty]
    exact sound.registered
  covered := by
    rw [players, snapshots]
    exact sound.covered
  behind := by
    rw [players, snapshots]
    exact sound.behind
  ordered := by
    rw [snapshots]
    exact sound.ordered

theorem snapshots_setFlush {f : Flush D} (flush : s.flush = some f) {phase : FlushPhase D}
    (same : phase.taken = f.phase.taken) (g : Flush D) : (s.setFlush g phase).snapshots = s.snapshots := by
  simp [snapshots, taken, setFlush, flush, same]

theorem Sound.with_idle (sound : Sound s) {f : Flush D} (flush : s.flush = some f) {phase : FlushPhase D}
    (none : f.phase.taken = []) (none' : phase.taken = []) (g : Flush D) : Sound (s.setFlush g phase) :=
  sound.congr rfl rfl rfl (snapshots_setFlush flush (none'.trans none.symm) g)

theorem Sound.with_phase (sound : Sound s) {f : Flush D} (flush : s.flush = some f) {phase : FlushPhase D}
    (same : phase.taken = f.phase.taken) (g : Flush D) : Sound (s.setFlush g phase) :=
  sound.congr rfl rfl rfl (snapshots_setFlush flush same g)

/-- A step that changes one player, and may take a snapshot of it. -/
theorem Sound.with_player (sound : Sound s) (gid : Int) (q : PublicPlayer D)
    (players : t.players = s.players) (dirty : t.dirty = s.dirty)
    (updating : ∀ g ∈ s.updating, g ∈ t.updating)
    (kept : ∀ snapshot ∈ s.snapshots, snapshot ∈ t.snapshots)
    (others : ∀ snapshot ∈ t.snapshots, snapshot.gid ≠ gid → snapshot ∈ s.snapshots)
    (registered : q.dirty = true → gid ∉ t.updating → gid ∈ s.dirty)
    (covered : q.dirty = true ∨ q.version = 0
      ∨ ∃ snapshot ∈ t.snapshots, snapshot.gid = gid ∧ snapshot.version = q.version)
    (behind : ∀ snapshot ∈ t.snapshots, snapshot.gid = gid →
      snapshot.version ≤ q.version ∧ (q.dirty = true → snapshot.version < q.version))
    (ordered : t.snapshots.Pairwise fun first later => first.gid = later.gid → first.version < later.version) :
    Sound (t.setPlayer gid q) where
  registered := by
    intro g p found isDirty free
    change g ∈ t.dirty
    rw [dirty]
    by_cases here : g = gid
    · subst here
      simp only [setPlayer, Function.update_self, Option.some.injEq] at found
      subst found
      exact registered isDirty free
    · simp only [setPlayer, Function.update_of_ne here, players] at found
      exact sound.registered g p found isDirty fun busy => free (updating g busy)
  covered := by
    intro g p found
    by_cases here : g = gid
    · subst here
      simp only [setPlayer, Function.update_self, Option.some.injEq] at found
      subst found
      exact covered
    · simp only [setPlayer, Function.update_of_ne here, players] at found
      rcases sound.covered g p found with isDirty | unchanged | ⟨snapshot, member, same⟩
      · exact .inl isDirty
      · exact .inr (.inl unchanged)
      · exact .inr (.inr ⟨snapshot, kept snapshot member, same⟩)
  behind := by
    intro snapshot member
    by_cases here : snapshot.gid = gid
    · refine ⟨q, ?_, behind snapshot member here⟩
      simp only [here, setPlayer, Function.update_self]
    · obtain ⟨p, found, bound⟩ := sound.behind snapshot (others snapshot member here)
      refine ⟨p, ?_, bound⟩
      simp only [setPlayer, Function.update_of_ne here, players]
      exact found
  ordered := ordered

/-- The player of a snapshot is the one that is found now. -/
theorem Sound.behind_player (sound : Sound s) {gid : Int} {p : PublicPlayer D}
    (found : s.players gid = some p) : ∀ snapshot ∈ s.snapshots, snapshot.gid = gid →
      snapshot.version ≤ p.version ∧ (p.dirty = true → snapshot.version < p.version) := by
  intro snapshot member here
  obtain ⟨q, foundQ, bound⟩ := sound.behind snapshot member
  rw [here, found] at foundQ
  obtain rfl := Option.some.inj foundQ
  exact bound

theorem Sound.load (sound : Sound s) {gid : Int} {data : D} (taken : s.load gid data = some t) : Sound t := by
  simp only [PublicPlayers.load, Option.ite_none_right_eq_some] at taken
  obtain ⟨⟨_, absent⟩, same⟩ := taken
  obtain rfl := Option.some.inj same
  apply sound.with_player gid _ rfl rfl (fun _ busy => busy) (fun _ member => member) (fun _ member _ => member)
  · intro isDirty
    cases isDirty
  · exact .inr (.inl rfl)
  · -- a player that is not resident has no snapshots
    intro snapshot member here
    obtain ⟨p, found, _⟩ := sound.behind snapshot member
    rw [here, absent] at found
    cases found
  · exact sound.ordered

@[simp] theorem snapshots_disturb (s : PublicPlayers D) : s.disturb.snapshots = s.snapshots := by
  cases flush : s.flush with
  | none => simp [snapshots, taken, disturb, flush]
  | some f => simp [snapshots, taken, disturb, flush]

@[simp] theorem snapshots_enter (s : PublicPlayers D) (gid : Int) : (s.enter gid).snapshots = s.snapshots :=
  snapshots_disturb s

/-- The section of an update. -/
theorem Sound.update (sound : Sound s) {gid : Int} {data : D} {changed : Bool}
    (taken : s.update gid data changed = some t) : Sound t := by
  simp only [PublicPlayers.update, Option.ite_none_left_eq_some, Option.map_eq_some_iff] at taken
  obtain ⟨_, p, found, rfl⟩ := taken
  have bound := sound.behind_player found
  cases changed with
  | false =>
    change Sound (s.disturb.setPlayer gid _)
    apply sound.with_player (t := s.disturb) gid { p with data := data } rfl rfl (fun _ busy => busy)
    · simp
    · simp +contextual
    · exact sound.registered gid p found
    · rw [snapshots_disturb]
      exact sound.covered gid p found
    · rw [snapshots_disturb]
      exact bound
    · rw [snapshots_disturb]
      exact sound.ordered
  | true =>
    change Sound ((s.enter gid).setPlayer gid _)
    apply sound.with_player (t := s.enter gid) gid ⟨data, true, p.version + 1⟩ rfl rfl
    · intro g busy
      exact List.mem_append_left _ busy
    · simp
    · simp +contextual
    · intro _ free
      exact absurd (List.mem_append_right _ (List.mem_singleton.mpr rfl)) free
    · exact .inl rfl
    · rw [snapshots_enter]
      intro snapshot member here
      have le := (bound snapshot member here).1
      exact ⟨Nat.le_succ_of_le le, fun _ => Nat.lt_succ_of_le le⟩
    · rw [snapshots_enter]
      exact sound.ordered

theorem Sound.register (sound : Sound s) {gid : Int} (taken : s.register gid = some t) : Sound t := by
  simp only [PublicPlayers.register, Option.ite_none_right_eq_some] at taken
  obtain ⟨_, same⟩ := taken
  obtain rfl := Option.some.inj same
  refine { sound with registered := ?_ }
  intro g p found isDirty free
  by_cases here : g = gid
  · rw [here]
    exact List.mem_insert_self
  · apply List.mem_insert_of_mem
    apply sound.registered g p found isDirty
    intro busy
    exact free ((List.mem_erase_of_ne here).mpr busy)

/-- The saver takes a snapshot of a player, or finds it clean. -/
theorem Sound.snapshot (sound : Sound s) {f : Flush D} {pending todo : List Int} {taken : List (Snapshot D)}
    {gid : Int} (flush : s.flush = some f) (phase : f.phase = .saving pending (gid :: todo) taken)
    {after : PublicPlayers D × Option (Snapshot D)} (result : s.takeDirtySnapshot gid = some after) :
    Sound (after.1.setFlush f (.saving pending todo (taken ++ after.2.toList))) := by
  have before : s.snapshots = s.handed ++ taken := by simp [snapshots, PublicPlayers.taken, flush, phase,
    FlushPhase.taken]
  have idle : Sound (s.setFlush f (.saving pending todo (taken ++ []))) :=
    sound.with_phase flush (by rw [phase, List.append_nil]; rfl) f
  unfold takeDirtySnapshot at result
  split at result
  case isTrue => cases result
  case isFalse =>
    split at result
    case h_2 =>
      obtain rfl := Option.some.inj result
      exact idle
    case h_1 p found =>
      split at result
      case isFalse =>
        obtain rfl := Option.some.inj result
        exact idle
      case isTrue isDirty =>
        obtain rfl := Option.some.inj result
        have bound := sound.behind_player found
        have now : (s.setFlush f (.saving pending todo (taken ++ [⟨gid, p.version, p.data⟩]))).snapshots =
            s.snapshots ++ [⟨gid, p.version, p.data⟩] := by
          rw [before, List.append_assoc]
          rfl
        change Sound (PublicPlayers.setPlayer
          (s.setFlush f (.saving pending todo (taken ++ [⟨gid, p.version, p.data⟩]))) gid { p with dirty := false })
        apply sound.with_player
          (t := s.setFlush f (.saving pending todo (taken ++ [(⟨gid, p.version, p.data⟩ : Snapshot D)]))) gid
          { p with dirty := false } rfl rfl (fun _ busy => busy)
        · intro snapshot member
          rw [now]
          exact List.mem_append_left _ member
        · intro snapshot member elsewhere
          rw [now] at member
          rcases List.mem_append.mp member with old | new
          · exact old
          · rw [List.mem_singleton.mp new] at elsewhere
            exact absurd rfl elsewhere
        · intro stillDirty
          cases stillDirty
        · apply Or.inr
          apply Or.inr
          refine ⟨⟨gid, p.version, p.data⟩, ?_, rfl, rfl⟩
          rw [now]
          exact List.mem_append_right _ (List.mem_singleton.mpr rfl)
        · intro snapshot member here
          refine ⟨?_, fun stillDirty => by cases stillDirty⟩
          rw [now] at member
          rcases List.mem_append.mp member with old | new
          · exact (bound snapshot old here).1
          · have same : snapshot = ⟨gid, p.version, p.data⟩ := List.mem_singleton.mp new
            simp [same]
        · rw [now]
          apply List.pairwise_append.mpr
          refine ⟨sound.ordered, List.pairwise_singleton _ _, ?_⟩
          intro snapshot member last isLast same
          rw [List.mem_singleton.mp isLast] at same ⊢
          exact (bound snapshot member same).2 isDirty

theorem Sound.unregister (sound : Sound s) {gid : Int} (result : s.removeRegistrationIfClean gid = some t) :
    Sound t ∧ t.flush = s.flush := by
  unfold removeRegistrationIfClean at result
  split at result
  case isTrue => cases result
  case isFalse =>
    split at result
    case isTrue =>
      obtain rfl := Option.some.inj result
      exact ⟨sound, rfl⟩
    case isFalse clean =>
      obtain rfl := Option.some.inj result
      refine ⟨{ sound with registered := ?_ }, rfl⟩
      intro g p found isDirty free
      apply List.mem_filter.mpr
      refine ⟨sound.registered g p found isDirty free, ?_⟩
      simp only [ne_eq, decide_eq_true_eq]
      intro here
      subst here
      apply clean
      rw [PublicPlayers.isDirty, found]
      exact isDirty

theorem Sound.advance (sharding : Sharding) (sound : Sound s) {f : Flush D} (flush : s.flush = some f)
    (result : s.advance sharding f f.phase = some t) : Sound t := by
  cases phase : f.phase with
  | collecting shard =>
    have none : f.phase.taken = [] := by rw [phase]; rfl
    simp only [phase, PublicPlayers.advance] at result
    split at result
    · obtain rfl := Option.some.inj result
      exact sound.with_idle flush none (by rfl) _
    · split at result
      · obtain rfl := Option.some.inj result
        exact sound.with_idle flush none (by rfl) _
      · obtain rfl := Option.some.inj result
        exact sound.with_idle flush none (by rfl) _
  | flushing pending entries =>
    have none : f.phase.taken = [] := by rw [phase]; rfl
    rw [phase] at result
    cases pending with
    | cons gid pending =>
      obtain rfl := Option.some.inj result
      exact sound.with_idle flush none (by rfl) _
    | nil =>
      cases entries with
      | nil =>
        obtain rfl := Option.some.inj result
        exact sound.with_idle flush none (by rfl) _
      | cons gid entries =>
        obtain rfl := Option.some.inj result
        exact sound.with_idle flush none (by rfl) _
  | saving pending todo taken =>
    rw [phase] at result
    cases todo with
    | cons gid todo =>
      obtain ⟨after, snapshot, rfl⟩ := Option.map_eq_some_iff.mp result
      exact sound.snapshot flush phase snapshot
    | nil =>
      obtain rfl := Option.some.inj result
      refine sound.congr ?_ ?_ ?_ ?_ <;> try rfl
      simp [snapshots, PublicPlayers.taken, setFlush, flush, phase, FlushPhase.taken]
  | unregistering todo =>
    have none : f.phase.taken = [] := by rw [phase]; rfl
    rw [phase] at result
    cases todo with
    | cons gid todo =>
      obtain ⟨after, removed, rfl⟩ := Option.map_eq_some_iff.mp result
      obtain ⟨sound', flush'⟩ := sound.unregister removed
      exact sound'.with_idle (flush'.trans flush) none (by rfl) _
    | nil =>
      obtain rfl := Option.some.inj result
      exact sound.with_idle flush none (by rfl) _
  | returned ok =>
    rw [phase] at result
    obtain rfl := Option.some.inj result
    refine sound.congr ?_ ?_ ?_ ?_ <;> try rfl
    simp [snapshots, PublicPlayers.taken, flush, phase, FlushPhase.taken]

theorem Sound.start (sound : Sound s) (result : s.start = some t) : Sound t := by
  unfold PublicPlayers.start at result
  cases flush : s.flush with
  | some f => simp [flush] at result
  | none =>
    have same : ∀ f : Flush D, f.phase.taken = [] → ∀ mode : Mode,
        snapshots { s with flush := some f, mode := mode } = s.snapshots := by
      intro f none mode
      simp [snapshots, taken, flush, none]
    cases mode : s.mode with
    | running =>
      simp only [flush, mode] at result
      obtain rfl := Option.some.inj result
      exact { sound.congr (t := { s with flush := some ⟨[], .collecting 0, !s.updating.isEmpty⟩ }) rfl rfl rfl
        (same _ rfl s.mode) with }
    | stopping =>
      simp only [flush, mode] at result
      obtain rfl := Option.some.inj result
      exact { sound.congr (t := { s with flush := some ⟨[], .collecting 0, !s.updating.isEmpty⟩,
                                         mode := .finishing }) rfl rfl rfl (same _ rfl .finishing) with }
    | finishing => simp [flush, mode] at result
    | stopped => simp [flush, mode] at result

theorem sound_step (sharding : Sharding) (sound : Sound s) {l : Label D} (taken : s.step sharding l = some t) :
    Sound t := by
  cases l with
  | load gid data => exact sound.load taken
  | update gid data changed =>
    obtain ⟨u, updated, rfl⟩ := Option.map_eq_some_iff.mp taken
    exact (sound.update updated).congr rfl rfl rfl rfl
  | register gid => exact sound.register taken
  | start => exact sound.start taken
  | advance =>
    obtain ⟨f, flush, taken⟩ := Option.bind_eq_some_iff.mp taken
    exact sound.advance sharding flush taken
  | callSaver =>
    obtain ⟨f, flush, taken⟩ := Option.bind_eq_some_iff.mp taken
    unfold callSaver at taken
    split at taken
    case h_1 phase =>
      obtain rfl := Option.some.inj taken
      exact sound.with_idle flush (by rw [phase]; rfl) (by rfl) f
    case h_2 => cases taken
  | failFlush =>
    obtain ⟨f, flush, taken⟩ := Option.bind_eq_some_iff.mp taken
    unfold failFlush at taken
    split at taken
    case h_1 phase =>
      obtain rfl := Option.some.inj taken
      exact sound.with_idle flush (by rw [phase]; rfl) (by rfl) f
    case h_2 => cases taken
  | stop =>
    simp only [step, Option.ite_none_right_eq_some] at taken
    obtain ⟨_, same⟩ := taken
    obtain rfl := Option.some.inj same
    exact { sound with }

/-! ## A flush without updates -/

/-- How far a flush that nothing disturbs has come. -/
def Progress (sharding : Sharding) (s : PublicPlayers D) (gids : List Int) : FlushPhase D → Prop
  | .collecting shard => ∀ gid ∈ s.dirty, sharding.shard gid < shard → gid ∈ gids
  | .flushing pending entries =>
    (∀ gid, s.isDirty gid = true → gid ∈ pending ∨ gid ∈ entries) ∧ ∀ gid ∈ s.dirty, gid ∈ gids
  | .saving pending todo _ =>
    (∀ gid, s.isDirty gid = true → gid ∈ pending ∨ gid ∈ todo) ∧ ∀ gid ∈ s.dirty, gid ∈ gids
  | .unregistering todo => (∀ gid, s.isDirty gid = false) ∧ ∀ gid ∈ s.dirty, gid ∈ todo
  | .returned true => (∀ gid, s.isDirty gid = false) ∧ s.dirty = []
  | .returned false => True

def Undisturbed (sharding : Sharding) (s : PublicPlayers D) : Prop :=
  ∀ f ∈ s.flush, f.disturbed = false → s.updating = [] ∧ s.Progress sharding f.gids f.phase

theorem Progress.congr {sharding : Sharding} {gids : List Int} {phase : FlushPhase D}
    (progress : s.Progress sharding gids phase) (isDirty : ∀ gid, t.isDirty gid = s.isDirty gid)
    (dirty : t.dirty = s.dirty) : t.Progress sharding gids phase := by
  cases phase with
  | returned ok =>
    cases ok with
    | true => simpa only [Progress, isDirty, dirty] using progress
    | false => trivial
  | collecting shard => simpa only [Progress, dirty] using progress
  | flushing pending entries => simpa only [Progress, isDirty, dirty] using progress
  | saving pending todo taken => simpa only [Progress, isDirty, dirty] using progress
  | unregistering todo => simpa only [Progress, isDirty, dirty] using progress

/-- The flush moves on by itself. -/
theorem Undisturbed.with_phase {sharding : Sharding} (quiet : s.Undisturbed sharding) {f : Flush D}
    (flush : s.flush = some f) {phase : FlushPhase D} {g : Flush D} (same : g.disturbed = f.disturbed)
    (onward : s.Progress sharding f.gids f.phase → s.Progress sharding g.gids phase) :
    (s.setFlush g phase).Undisturbed sharding := by
  intro _ isFlush undisturbed
  cases isFlush
  obtain ⟨idle, progress⟩ := quiet f flush (same.symm.trans undisturbed)
  exact ⟨idle, (onward progress).congr (fun _ => rfl) rfl⟩

theorem isDirty_iff {gid : Int} :
    s.isDirty gid = true ↔ ∃ p, s.players gid = some p ∧ p.dirty = true := by
  simp [isDirty, Option.any_eq_true]

/-- Without an update under way every dirty player is registered. -/
theorem Sound.registered_of_idle (sound : Sound s) (idle : s.updating = []) {gid : Int}
    (isDirty : s.isDirty gid = true) : gid ∈ s.dirty := by
  obtain ⟨p, found, dirty⟩ := isDirty_iff.mp isDirty
  exact sound.registered gid p found dirty (by simp [idle])

theorem isDirty_setPlayer (s : PublicPlayers D) (gid : Int) (p : PublicPlayer D) (g : Int) :
    (s.setPlayer gid p).isDirty g = if g = gid then p.dirty else s.isDirty g := by
  by_cases here : g = gid
  · simp [isDirty, setPlayer, here]
  · simp [isDirty, setPlayer, here]

theorem Undisturbed.load {sharding : Sharding} (quiet : s.Undisturbed sharding) {gid : Int} {data : D}
    (taken : s.load gid data = some t) : t.Undisturbed sharding := by
  simp only [PublicPlayers.load, Option.ite_none_right_eq_some] at taken
  obtain ⟨⟨_, absent⟩, same⟩ := taken
  obtain rfl := Option.some.inj same
  intro f flush undisturbed
  obtain ⟨idle, progress⟩ := quiet f flush undisturbed
  refine ⟨idle, progress.congr ?_ rfl⟩
  intro g
  rw [isDirty_setPlayer]
  split
  case isTrue here => simp [isDirty, here, absent]
  case isFalse => rfl

theorem Undisturbed.update {sharding : Sharding} {gid : Int} {data : D} {changed : Bool}
    (taken : s.update gid data changed = some t) : t.Undisturbed sharding := by
  simp only [PublicPlayers.update, Option.ite_none_left_eq_some, Option.map_eq_some_iff] at taken
  obtain ⟨_, p, _, rfl⟩ := taken
  intro f flush undisturbed
  have disturbed : f ∈ s.disturb.flush := by
    cases changed with
    | true => exact flush
    | false => exact flush
  obtain ⟨g, _, rfl⟩ := Option.map_eq_some_iff.mp disturbed
  cases undisturbed

theorem Undisturbed.register {sharding : Sharding} (quiet : s.Undisturbed sharding) {gid : Int}
    (taken : s.register gid = some t) : t.Undisturbed sharding := by
  simp only [PublicPlayers.register, Option.ite_none_right_eq_some] at taken
  obtain ⟨busy, same⟩ := taken
  obtain rfl := Option.some.inj same
  intro f flush undisturbed
  obtain ⟨idle, _⟩ := quiet f flush undisturbed
  rw [idle] at busy
  cases busy

theorem Undisturbed.start {sharding : Sharding} (result : s.start = some t) : t.Undisturbed sharding := by
  have fresh : t.updating = s.updating ∧ t.flush = some ⟨[], .collecting 0, !s.updating.isEmpty⟩ := by
    unfold PublicPlayers.start at result
    split at result
    · obtain rfl := Option.some.inj result
      exact ⟨rfl, rfl⟩
    · obtain rfl := Option.some.inj result
      exact ⟨rfl, rfl⟩
    · cases result
  obtain ⟨updating, flush⟩ := fresh
  intro f isFlush undisturbed
  rw [flush] at isFlush
  cases isFlush
  constructor
  · simpa [updating] using undisturbed
  · intro gid _ early
    exact absurd early (Nat.not_lt_zero _)

theorem Undisturbed.snapshot {sharding : Sharding} (quiet : s.Undisturbed sharding) {f : Flush D}
    {pending todo : List Int} {taken : List (Snapshot D)} {gid : Int} (flush : s.flush = some f)
    (phase : f.phase = .saving pending (gid :: todo) taken) {after : PublicPlayers D × Option (Snapshot D)}
    (result : s.takeDirtySnapshot gid = some after) :
    (after.1.setFlush f (.saving pending todo (taken ++ after.2.toList))).Undisturbed sharding := by
  -- the player is clean afterwards, the others are as they were
  have cleaned : after.1.updating = s.updating ∧ after.1.dirty = s.dirty
      ∧ ∀ g, after.1.isDirty g = true → g ≠ gid ∧ s.isDirty g = true := by
    unfold takeDirtySnapshot at result
    split at result
    case isTrue => cases result
    case isFalse =>
      split at result
      case h_2 absent =>
        obtain rfl := Option.some.inj result
        refine ⟨rfl, rfl, fun g isDirty => ⟨?_, isDirty⟩⟩
        rintro rfl
        simp [isDirty_iff, absent] at isDirty
      case h_1 p found =>
        split at result
        case isFalse clean =>
          obtain rfl := Option.some.inj result
          refine ⟨rfl, rfl, fun g isDirty => ⟨?_, isDirty⟩⟩
          rintro rfl
          obtain ⟨q, foundQ, dirty⟩ := isDirty_iff.mp isDirty
          rw [found] at foundQ
          cases foundQ
          exact clean dirty
        case isTrue =>
          obtain rfl := Option.some.inj result
          refine ⟨rfl, rfl, ?_⟩
          intro g isDirty
          rw [isDirty_setPlayer] at isDirty
          by_cases here : g = gid
          · rw [if_pos here] at isDirty
            cases isDirty
          · rw [if_neg here] at isDirty
            exact ⟨here, isDirty⟩
  obtain ⟨updating, dirty, onlyOthers⟩ := cleaned
  intro _ isFlush undisturbed
  cases isFlush
  obtain ⟨idle, progress⟩ := quiet f flush undisturbed
  rw [phase] at progress
  refine ⟨updating.trans idle, ?_, ?_⟩
  · intro g isDirty
    obtain ⟨elsewhere, wasDirty⟩ := onlyOthers g isDirty
    rcases progress.1 g wasDirty with isPending | toVisit
    · exact .inl isPending
    · exact .inr ((List.mem_cons.mp toVisit).resolve_left elsewhere)
  · intro g member
    exact progress.2 g (dirty ▸ member)

theorem Undisturbed.unregister {sharding : Sharding} (quiet : s.Undisturbed sharding) {f : Flush D}
    {todo : List Int} {gid : Int} (flush : s.flush = some f) (phase : f.phase = .unregistering (gid :: todo))
    {after : PublicPlayers D} (result : s.removeRegistrationIfClean gid = some after) :
    (after.setFlush f (.unregistering todo)).Undisturbed sharding := by
  intro _ isFlush undisturbed
  cases isFlush
  obtain ⟨idle, progress⟩ := quiet f flush undisturbed
  rw [phase] at progress
  obtain ⟨clean, within⟩ := progress
  unfold removeRegistrationIfClean at result
  rw [if_neg (by simp [idle]), if_neg (by simp [clean gid])] at result
  obtain rfl := Option.some.inj result
  refine ⟨idle, clean, ?_⟩
  intro g member
  obtain ⟨registered, elsewhere⟩ := List.mem_filter.mp member
  exact (List.mem_cons.mp (within g registered)).resolve_left (by simpa using elsewhere)

theorem Undisturbed.advance {sharding : Sharding} (sound : Sound s) (quiet : s.Undisturbed sharding)
    {f : Flush D} (flush : s.flush = some f) (result : s.advance sharding f f.phase = some t) :
    t.Undisturbed sharding := by
  cases phase : f.phase with
  | collecting shard =>
    simp only [phase, PublicPlayers.advance] at result
    split at result
    case isTrue =>
      obtain rfl := Option.some.inj result
      apply quiet.with_phase flush (by rfl)
      rw [phase]
      intro progress gid registered early
      apply List.mem_append.mpr
      rcases Nat.lt_succ_iff_lt_or_eq.mp early with before | here
      · exact .inl (progress gid registered before)
      · exact .inr (List.mem_filter.mpr ⟨registered, decide_eq_true here⟩)
    case isFalse past =>
      -- every shard was visited
      have all : s.Progress sharding f.gids f.phase → ∀ gid ∈ s.dirty, gid ∈ f.gids := by
        rw [phase]
        intro progress gid registered
        exact progress gid registered (Nat.lt_of_lt_of_le (sharding.below gid) (Nat.le_of_not_lt past))
      split at result
      case isTrue none =>
        obtain rfl := Option.some.inj result
        intro _ isFlush undisturbed
        cases isFlush
        obtain ⟨idle, progress⟩ := quiet f flush undisturbed
        have empty : s.dirty = [] := by
          apply List.eq_nil_iff_forall_not_mem.mpr
          intro gid registered
          have collected := all progress gid registered
          rw [List.isEmpty_iff.mp none] at collected
          cases collected
        refine ⟨idle, ?_, empty⟩
        intro gid
        change s.isDirty gid = false
        by_contra isDirty
        have registered := sound.registered_of_idle idle (by simpa using isDirty)
        rw [empty] at registered
        cases registered
      case isFalse =>
        obtain rfl := Option.some.inj result
        intro _ isFlush undisturbed
        cases isFlush
        obtain ⟨idle, progress⟩ := quiet f flush undisturbed
        refine ⟨idle, ?_, all progress⟩
        intro gid isDirty
        exact .inl (all progress gid (sound.registered_of_idle idle isDirty))
  | flushing pending entries =>
    rw [phase] at result
    cases pending with
    | cons gid pending =>
      obtain rfl := Option.some.inj result
      apply quiet.with_phase flush rfl
      rw [phase]
      intro progress
      refine ⟨?_, progress.2⟩
      intro g isDirty
      rcases progress.1 g isDirty with isPending | found
      · rcases List.mem_cons.mp isPending with rfl | later
        · rw [if_pos isDirty]
          exact .inr (List.mem_append_right _ (List.mem_singleton.mpr rfl))
        · exact .inl later
      · apply Or.inr
        split
        · exact List.mem_append_left _ found
        · exact found
    | nil =>
      cases entries with
      | nil =>
        obtain rfl := Option.some.inj result
        apply quiet.with_phase flush rfl
        rw [phase]
        intro progress
        refine ⟨?_, progress.2⟩
        intro gid
        by_contra isDirty
        rcases progress.1 gid (by simpa using isDirty) with member | member
        · cases member
        · cases member
      | cons gid entries =>
        obtain rfl := Option.some.inj result
        apply quiet.with_phase flush rfl
        rw [phase]
        exact id
  | saving pending todo taken =>
    rw [phase] at result
    cases todo with
    | cons gid todo =>
      obtain ⟨after, snapshot, rfl⟩ := Option.map_eq_some_iff.mp result
      exact quiet.snapshot flush phase snapshot
    | nil =>
      obtain rfl := Option.some.inj result
      intro _ isFlush undisturbed
      cases isFlush
      obtain ⟨idle, progress⟩ := quiet f flush undisturbed
      rw [phase] at progress
      exact ⟨idle, progress⟩
  | unregistering todo =>
    rw [phase] at result
    cases todo with
    | cons gid todo =>
      obtain ⟨after, removed, rfl⟩ := Option.map_eq_some_iff.mp result
      exact quiet.unregister flush phase removed
    | nil =>
      obtain rfl := Option.some.inj result
      apply quiet.with_phase flush rfl
      rw [phase]
      intro progress
      refine ⟨progress.1, ?_⟩
      apply List.eq_nil_iff_forall_not_mem.mpr
      intro gid registered
      cases progress.2 gid registered
  | returned ok =>
    rw [phase] at result
    obtain rfl := Option.some.inj result
    intro f isFlush
    cases isFlush

theorem undisturbed_step (sharding : Sharding) (sound : Sound s) (quiet : s.Undisturbed sharding)
    {l : Label D} (taken : s.step sharding l = some t) : t.Undisturbed sharding := by
  cases l with
  | load gid data => exact quiet.load taken
  | update gid data changed =>
    obtain ⟨u, updated, rfl⟩ := Option.map_eq_some_iff.mp taken
    exact (Undisturbed.update updated : u.Undisturbed sharding)
  | register gid => exact quiet.register taken
  | start => exact Undisturbed.start taken
  | advance =>
    obtain ⟨f, flush, taken⟩ := Option.bind_eq_some_iff.mp taken
    exact quiet.advance sound flush taken
  | callSaver =>
    obtain ⟨f, flush, taken⟩ := Option.bind_eq_some_iff.mp taken
    unfold callSaver at taken
    split at taken
    case h_1 phase =>
      obtain rfl := Option.some.inj taken
      apply quiet.with_phase flush rfl
      rw [phase]
      exact id
    case h_2 => cases taken
  | failFlush =>
    obtain ⟨f, flush, taken⟩ := Option.bind_eq_some_iff.mp taken
    unfold failFlush at taken
    split at taken
    case h_1 phase =>
      obtain rfl := Option.some.inj taken
      apply quiet.with_phase flush rfl
      intro _
      trivial
    case h_2 => cases taken
  | stop =>
    simp only [step, Option.ite_none_right_eq_some] at taken
    obtain ⟨_, same⟩ := taken
    obtain rfl := Option.some.inj same
    intro f flush undisturbed
    obtain ⟨idle, progress⟩ := quiet f flush undisturbed
    exact ⟨idle, progress.congr (fun _ => rfl) rfl⟩

theorem sound_of_reach {sharding : Sharding} (reached : (system sharding).Reach System.Any s) : Sound s := by
  apply reached.inv
  · rintro _ rfl
    exact sound_initial
  · intro s l t sound _ taken
    exact sound_step sharding sound taken

theorem undisturbed_of_reach {sharding : Sharding} (reached : (system sharding).Reach System.Any s) :
    s.Undisturbed sharding := by
  apply reached.inv_with (fun _ => sound_of_reach)
  · rintro _ rfl f flush
    cases flush
  · intro s l t sound quiet _ taken
    exact undisturbed_step sharding sound quiet taken

/-! ## What the updates have left -/

/-- What a step does to the players, their updates and the snapshots. -/
inductive Moves (s t : PublicPlayers D) : Label D → Prop
  | idle (label : Label D) (players : t.players = s.players) (left : t.left = s.left)
      (snapshots : t.snapshots = s.snapshots) : Moves s t label
  | load (gid : Int) (data : D) (missing : s.players gid = none)
      (players : t.players = Function.update s.players gid (some ⟨data, false, 0⟩))
      (left : t.left = s.left) (snapshots : t.snapshots = s.snapshots) : Moves s t (.load gid data)
  | update (gid : Int) (data : D) (changed : Bool) (p : PublicPlayer D) (found : s.players gid = some p)
      (players : t.players = Function.update s.players gid
        (some (if changed then ⟨data, true, p.version + 1⟩ else { p with data := data })))
      (left : t.left = Function.update s.left gid (s.left gid ++ [⟨data, changed⟩]))
      (snapshots : t.snapshots = s.snapshots) : Moves s t (.update gid data changed)
  | snapshot (gid : Int) (p : PublicPlayer D) (found : s.players gid = some p) (dirty : p.dirty = true)
      (players : t.players = Function.update s.players gid (some { p with dirty := false }))
      (left : t.left = s.left) (snapshots : t.snapshots = s.snapshots ++ [⟨gid, p.version, p.data⟩]) :
      Moves s t .advance

theorem snapshots_eq {f : Flush D} (flush : s.flush = some f) : s.snapshots = s.handed ++ f.phase.taken := by
  simp only [snapshots, taken, flush, Option.map_some, Option.getD_some]

theorem moves_advance (sharding : Sharding) {f : Flush D} (flush : s.flush = some f)
    (result : s.advance sharding f f.phase = some t) : Moves s t .advance := by
  have onward : ∀ (g : Flush D) (phase : FlushPhase D), phase.taken = f.phase.taken →
      (s.setFlush g phase).snapshots = s.snapshots := by
    intro g phase same
    rw [snapshots_eq flush, ← same]
    rfl
  cases phase : f.phase with
  | collecting shard =>
    rw [phase] at onward
    simp only [phase, advance] at result
    split at result
    next => cases result; exact .idle _ rfl rfl (onward _ _ rfl)
    next =>
      split at result
      next => cases result; exact .idle _ rfl rfl (onward _ _ rfl)
      next => cases result; exact .idle _ rfl rfl (onward _ _ rfl)
  | flushing pending entries =>
    rw [phase] at onward result
    cases pending with
    | cons gid pending => cases result; exact .idle _ rfl rfl (onward _ _ rfl)
    | nil =>
      cases entries with
      | nil => cases result; exact .idle _ rfl rfl (onward _ _ rfl)
      | cons gid entries => cases result; exact .idle _ rfl rfl (onward _ _ rfl)
  | saving pending todo held =>
    rw [phase] at onward result
    cases todo with
    | nil =>
      cases result
      refine .idle _ rfl rfl ?_
      rw [snapshots_eq flush, phase]
      simp [snapshots, taken, setFlush, FlushPhase.taken]
    | cons gid todo =>
      obtain ⟨after, taking, rfl⟩ := Option.map_eq_some_iff.mp result
      unfold takeDirtySnapshot at taking
      split at taking
      next => cases taking
      next =>
        split at taking
        next p found =>
          split at taking
          next dirty =>
            cases taking
            refine .snapshot gid p found dirty rfl rfl ?_
            rw [snapshots_eq flush, phase]
            simp [snapshots, taken, setFlush, setPlayer, FlushPhase.taken]
          next =>
            cases taking
            exact .idle _ rfl rfl (onward _ _ (by simp [FlushPhase.taken]))
        next =>
          cases taking
          exact .idle _ rfl rfl (onward _ _ (by simp [FlushPhase.taken]))
  | unregistering todo =>
    rw [phase] at onward result
    cases todo with
    | nil => cases result; exact .idle _ rfl rfl (onward _ _ rfl)
    | cons gid todo =>
      obtain ⟨after, removed, rfl⟩ := Option.map_eq_some_iff.mp result
      unfold removeRegistrationIfClean at removed
      split at removed
      next => cases removed
      next =>
        split at removed
        next => cases removed; exact .idle _ rfl rfl (onward _ _ rfl)
        next => cases removed; exact .idle _ rfl rfl (onward _ _ rfl)
  | returned ok =>
    rw [phase] at result
    cases result
    refine .idle _ rfl rfl ?_
    rw [snapshots_eq flush, phase]
    simp [snapshots, taken, FlushPhase.taken]

theorem moves_step (sharding : Sharding) {label : Label D} (result : s.step sharding label = some t) :
    Moves s t label := by
  cases label with
  | load gid data =>
    simp only [step, load, Option.ite_none_right_eq_some] at result
    obtain ⟨⟨_, missing⟩, same⟩ := result
    cases same
    exact .load gid data missing rfl rfl rfl
  | update gid data changed =>
    obtain ⟨u, updated, rfl⟩ := Option.map_eq_some_iff.mp result
    simp only [update, Option.ite_none_left_eq_some, Option.map_eq_some_iff] at updated
    obtain ⟨_, p, found, rfl⟩ := updated
    cases changed with
    | true => exact .update gid data true p found rfl rfl (snapshots_enter s gid)
    | false => exact .update gid data false p found rfl rfl (snapshots_disturb s)
  | register gid =>
    simp only [step, register, Option.ite_none_right_eq_some] at result
    obtain ⟨_, same⟩ := result
    cases same
    exact .idle _ rfl rfl rfl
  | start =>
    simp only [step, start] at result
    split at result
    next flush _ => cases result; exact .idle _ rfl rfl (by simp [snapshots, taken, flush, FlushPhase.taken])
    next flush _ => cases result; exact .idle _ rfl rfl (by simp [snapshots, taken, flush, FlushPhase.taken])
    next => cases result
  | advance =>
    obtain ⟨f, flush, advanced⟩ := Option.bind_eq_some_iff.mp result
    exact moves_advance sharding flush advanced
  | callSaver =>
    obtain ⟨f, flush, called⟩ := Option.bind_eq_some_iff.mp result
    unfold callSaver at called
    split at called
    next phase =>
      cases called
      refine .idle _ rfl rfl ?_
      rw [snapshots_eq flush, phase]
      rfl
    next => cases called
  | failFlush =>
    obtain ⟨f, flush, failed⟩ := Option.bind_eq_some_iff.mp result
    unfold failFlush at failed
    split at failed
    next phase =>
      cases failed
      refine .idle _ rfl rfl ?_
      rw [snapshots_eq flush, phase]
      rfl
    next => cases failed
  | stop =>
    simp only [step, Option.ite_none_right_eq_some] at result
    obtain ⟨_, same⟩ := result
    cases same
    exact .idle _ rfl rfl rfl

/-- An update has left the data, and up to it `n` updates have reported a change. -/
def LeftAfter (left : List (Left D)) (n : Nat) (data : D) : Prop :=
  ∃ i last, left[i]? = some last ∧ last.data = data ∧ (left.take (i + 1)).countP (·.changed) = n

theorem LeftAfter.append {left : List (Left D)} {n : Nat} {data : D} (after : LeftAfter left n data)
    (more : List (Left D)) : LeftAfter (left ++ more) n data := by
  obtain ⟨i, last, found, isData, count⟩ := after
  have inside := (List.getElem?_eq_some_iff.mp found).1
  refine ⟨i, last, ?_, isData, ?_⟩
  · rw [List.getElem?_append_left inside, found]
  · rw [List.take_append_of_le_length inside, count]

theorem LeftAfter.last {left : List (Left D)} {last : Left D} (isLast : left.getLast? = some last) :
    LeftAfter left (left.countP (·.changed)) last.data := by
  obtain ⟨front, rfl⟩ := List.getLast?_eq_some_iff.mp isLast
  refine ⟨front.length, last, by simp, rfl, ?_⟩
  rw [List.take_of_length_le (by simp)]

/-- A player has what its last update has left, and a snapshot what an update had left
    when it was taken. -/
structure Logged (s : PublicPlayers D) : Prop where
  absent : ∀ gid, s.players gid = none → s.left gid = []
  current : ∀ gid p, s.players gid = some p → p.version = (s.left gid).countP (·.changed)
    ∧ ∀ last ∈ (s.left gid).getLast?, last.data = p.data
  dirty : ∀ gid p, s.players gid = some p → p.dirty = true → s.left gid ≠ []
  content : ∀ snapshot ∈ s.snapshots, LeftAfter (s.left snapshot.gid) snapshot.version snapshot.data

theorem logged_initial : Logged (initial : PublicPlayers D) where
  absent := by intro gid _; rfl
  current := by intro gid p found; cases found
  dirty := by intro gid p found; cases found
  content := by intro snapshot member; cases member

/-- The player whose entry is replaced, or another one that stays. -/
theorem update_cases {players : Int → Option (PublicPlayer D)} {gid other : Int} {new p : PublicPlayer D}
    (found : Function.update players gid (some new) other = some p) :
    (other = gid ∧ p = new) ∨ (other ≠ gid ∧ players other = some p) := by
  by_cases same : other = gid
  · subst same
    rw [Function.update_self] at found
    exact .inl ⟨rfl, (Option.some.inj found).symm⟩
  · rw [Function.update_of_ne same] at found
    exact .inr ⟨same, found⟩

theorem absent_of_update {players : Int → Option (PublicPlayer D)} {gid other : Int} {new : PublicPlayer D}
    (missing : Function.update players gid (some new) other = none) : other ≠ gid ∧ players other = none := by
  by_cases same : other = gid
  · subst same
    rw [Function.update_self] at missing
    cases missing
  · rw [Function.update_of_ne same] at missing
    exact ⟨same, missing⟩

theorem Logged.move (logged : Logged s) {label : Label D} (moves : Moves s t label) : Logged t := by
  cases moves with
  | idle _ players left snapshots =>
    exact ⟨by rw [players, left]; exact logged.absent, by rw [players, left]; exact logged.current,
      by rw [players, left]; exact logged.dirty, by rw [snapshots, left]; exact logged.content⟩
  | load gid data missing players left snapshots =>
    refine ⟨?_, ?_, ?_, by rw [snapshots, left]; exact logged.content⟩
    · intro other gone
      rw [players] at gone
      rw [left]
      exact logged.absent other (absent_of_update gone).2
    · intro other p found
      rw [players] at found
      rw [left]
      rcases update_cases found with ⟨rfl, rfl⟩ | ⟨_, before⟩
      · simp [logged.absent other missing]
      · exact logged.current other p before
    · intro other p found isDirty
      rw [players] at found
      rw [left]
      rcases update_cases found with ⟨rfl, rfl⟩ | ⟨_, before⟩
      · cases isDirty
      · exact logged.dirty other p before isDirty
  | update gid data changed p isPlayer players left snapshots =>
    refine ⟨?_, ?_, ?_, ?_⟩
    · intro other gone
      rw [players] at gone
      obtain ⟨differ, before⟩ := absent_of_update gone
      rw [left, Function.update_of_ne differ]
      exact logged.absent other before
    · intro other q found
      rw [players] at found
      rw [left]
      rcases update_cases found with ⟨rfl, rfl⟩ | ⟨differ, before⟩
      · have counted := (logged.current other p isPlayer).1
        rw [Function.update_self, List.countP_append]
        cases changed with
        | true => simp [counted]
        | false => simp [counted]
      · rw [Function.update_of_ne differ]
        exact logged.current other q before
    · intro other q found isDirty
      rw [players] at found
      rw [left]
      rcases update_cases found with ⟨rfl, rfl⟩ | ⟨differ, before⟩
      · rw [Function.update_self]
        exact List.append_ne_nil_of_right_ne_nil _ (List.cons_ne_nil _ _)
      · rw [Function.update_of_ne differ]
        exact logged.dirty other q before isDirty
    · intro snapshot member
      rw [snapshots] at member
      have content := logged.content snapshot member
      rw [left]
      by_cases here : snapshot.gid = gid
      · rw [here, Function.update_self, ← here]
        exact content.append _
      · rw [Function.update_of_ne here]
        exact content
  | snapshot gid p isPlayer isDirty players left snapshots =>
    refine ⟨?_, ?_, ?_, ?_⟩
    · intro other gone
      rw [players] at gone
      rw [left]
      exact logged.absent other (absent_of_update gone).2
    · intro other q found
      rw [players] at found
      rw [left]
      rcases update_cases found with ⟨rfl, rfl⟩ | ⟨_, before⟩
      · exact logged.current other p isPlayer
      · exact logged.current other q before
    · intro other q found stillDirty
      rw [players] at found
      rw [left]
      rcases update_cases found with ⟨rfl, rfl⟩ | ⟨_, before⟩
      · cases stillDirty
      · exact logged.dirty other q before stillDirty
    · intro snapshot member
      rw [snapshots] at member
      rw [left]
      rcases List.mem_append.mp member with old | new
      · exact logged.content snapshot old
      · -- a dirty player has updates, and its data is from the last of them
        obtain ⟨last, isLast⟩ := Option.isSome_iff_exists.mp
          (List.getLast?_isSome.mpr (logged.dirty gid p isPlayer isDirty))
        obtain ⟨counted, isData⟩ := logged.current gid p isPlayer
        rw [List.mem_singleton.mp new, counted, ← isData last isLast]
        exact LeftAfter.last isLast

theorem logged_of_reach {sharding : Sharding} (reached : (system sharding).Reach System.Any s) : Logged s := by
  apply reached.inv
  · rintro _ rfl
    exact logged_initial
  · intro s l t logged _ taken
    exact logged.move (moves_step sharding taken)

/-! ## What the write-back promises -/

/-- The `n`th update that has reported a change is in one of the snapshots. -/
def Contained (snapshots : List (Snapshot D)) (gid : Int) (n : Nat) : Prop :=
  ∃ snapshot ∈ snapshots, snapshot.gid = gid ∧ n ≤ snapshot.version

/-- Updates count as kept when they are in one of `snapshots`. -/
structure Remembers (snapshots : List (Snapshot D)) (s : PublicPlayers D) : Prop where
  -- the data and the version of a player are those of its updates, also in a snapshot
  current : ∀ gid p, s.players gid = some p → p.version = (s.left gid).countP (·.changed)
    ∧ ∀ last ∈ (s.left gid).getLast?, last.data = p.data
  content : ∀ snapshot ∈ snapshots, LeftAfter (s.left snapshot.gid) snapshot.version snapshot.data
  registered : ∀ gid p, s.players gid = some p → p.dirty = true → gid ∉ s.updating → gid ∈ s.dirty
  kept : ∀ gid p, s.players gid = some p → ∀ n, 0 < n → n ≤ p.version →
    Contained snapshots gid n ∨ p.dirty = true
  inOrder : s.handed.Pairwise fun first later => first.gid = later.gid → first.version < later.version
  flushed : ∀ f ∈ s.flush, f.phase = .returned true → f.disturbed = false →
    (∀ gid p, s.players gid = some p → p.dirty = false) ∧ s.dirty = []

/-- An update stays registered until a saver has it, with what it has left; the store
    gets the snapshots of a player in order, and a flush that runs alone leaves
    nothing behind. -/
theorem write_back_remembers (sharding : Sharding) {s : PublicPlayers D}
    (reached : (system sharding).Reach System.Any s) : s.Remembers s.snapshots where
  current := (logged_of_reach reached).current
  content := (logged_of_reach reached).content
  registered := (sound_of_reach reached).registered
  kept := by
    intro gid p found n positive le
    rcases (sound_of_reach reached).covered gid p found with isDirty | unchanged | ⟨snapshot, member, here, same⟩
    · exact .inr isDirty
    · omega
    · exact .inl ⟨snapshot, member, here, by omega⟩
  inOrder := (List.pairwise_append.mp (sound_of_reach reached).ordered).1
  flushed := by
    intro f flush phase undisturbed
    obtain ⟨_, progress⟩ := undisturbed_of_reach reached f flush undisturbed
    rw [phase] at progress
    refine ⟨?_, progress.2⟩
    intro gid p found
    have clean := progress.1 gid
    rw [isDirty, found] at clean
    exact clean

def oneShard : Sharding := ⟨1, fun _ => 0, fun _ => Nat.zero_lt_one⟩

/-- A player is updated, and a flush gets as far as its snapshot. -/
def updateAndSnapshot : List (Label Nat) :=
  [.load 5 0, .update 5 3 true, .register 5, .start, .advance, .advance, .advance, .advance, .advance]

theorem updateAndSnapshot_not_handed :
    ¬ ∀ s : PublicPlayers Nat, (system oneShard).Reach System.Any s → s.Remembers s.handed := by
  intro remembers
  have halfway : ∃ s, System.follow System.Any (step oneShard) initial updateAndSnapshot = some s
      ∧ s.players 5 = some ⟨3, false, 1⟩ ∧ s.handed = [] := by
    decide +kernel
  obtain ⟨s, followed, found, nothing⟩ := halfway
  have kept := (remembers s (System.reach_of_follow rfl followed)).kept 5 _ found 1 Nat.one_pos (Nat.le_refl _)
  rw [nothing] at kept
  rcases kept with ⟨snapshot, member, _⟩ | isDirty
  · cases member
  · cases isDirty

/-- The flush hands over its snapshot, removes the registration and returns. -/
def updateAndFlush : List (Label Nat) := updateAndSnapshot ++ [.advance, .advance, .advance, .advance]

theorem updateAndFlush_remembers : ∃ s : PublicPlayers Nat, s.handed = [⟨5, 1, 3⟩] ∧ s.dirty = []
    ∧ s.Remembers s.snapshots := by
  have run : ∃ s, System.follow System.Any (step oneShard) initial updateAndFlush = some s
      ∧ s.handed = [⟨5, 1, 3⟩] ∧ s.dirty = [] := by
    decide +kernel
  obtain ⟨s, followed, handed, dirty⟩ := run
  exact ⟨s, handed, dirty, write_back_remembers oneShard (System.reach_of_follow rfl followed)⟩

end PublicPlayers

end Xkk.Persist

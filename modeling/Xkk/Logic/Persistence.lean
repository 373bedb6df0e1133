import Xkk.Logic.PlayerState
import Xkk.Logic.UnderGate

/-! # Commands, preloads and saves

The runtime takes the call of a loader or a saver as one step.  Those of the Logic
service make several: the loader creates the document that it has not found, the
saver takes a snapshot of the player under the mutex, writes it to the store and
clears the dirty flag under the mutex again.  `Persisting` runs these steps among
those of the runtime, and records what the builder of a preload has seen.
-/

set_option linter.unusedSectionVars false

namespace Xkk.Logic

open Xkk.Lib

/-- What the loader has found. -/
inductive Loader where
  | absent
  | loaded (data : Items)
deriving DecidableEq

/-- A call of the saver, from its snapshot on. -/
structure Save where
  data : Items
  written : Bool

structure Persisting (A R : Type) where
  runtime : Runtime PlayerState A R PlayerError
  documents : Gid → Option Items
  loaders : Nat → Option Loader               -- by runner
  saves : Nat → Option Save                   -- by player
  seen : Nat → Option (Nat × PlayerState)     -- by runner, the last command with a builder

/-- The call of the saver returns. -/
def GateHolder.saved {A R : Type} (state : PlayerState) (wrote : Bool) (result : Except PlayerError Unit) :
    GateHolder → Runtime.Label PlayerState A R PlayerError
  | .runner i => .run i (.saved state wrote result) true
  | .saver k => .save k (.saved state wrote result)

/-- The runner whose loader has returned. -/
def Runtime.Label.fetched {A R : Type} : Runtime.Label PlayerState A R PlayerError → Option Nat
  | .run i (.fetched _) _ => some i
  | _ => none

namespace Persisting

variable {A R : Type}

def initial (config : ValidConfig) (documents : Gid → Option Items) : Persisting A R where
  runtime := .initial config
  documents := documents
  loaders := fun _ => none
  saves := fun _ => none
  seen := fun _ => none

inductive Label (A R : Type) where
  | runtime (l : Runtime.Label PlayerState A R PlayerError)
  -- the loader that the cache has called for the runner `i`
  | find (i : Nat)
  | create (i : Nat)
  | loaded (i : Nat)
  -- the saver
  | snapshot (holder : GateHolder) (c : Nat)
  | write (c : Nat)
  | clear (holder : GateHolder)
  | giveUp (holder : GateHolder) (error : PlayerError)

/-- A step of the runtime; with the answer of the cache the loader is through. -/
def advance (config : LogicConfig) (x : Persisting A R) (l : Runtime.Label PlayerState A R PlayerError) :
    Option (Persisting A R) :=
  (x.runtime.step config l).map fun runtime =>
    { x with
      runtime := runtime
      loaders := match l with
        | .run i _ _ => Function.update x.loaders i none
        | _ => x.loaders
      seen := runtime.notice x.seen l }

/-- The runner whose player is being loaded. -/
def loadingRunner (x : Persisting A R) (i : Nat) : Option (Runner PlayerState A R PlayerError) :=
  (x.runtime.runners[i]?).filter fun r =>
    match r.phase, r.player with
    | .serving _ .loading, none => (x.runtime.vault.cache r.gid).isNone
    | _, _ => false

/-- `players.load` -/
def find (x : Persisting A R) (i : Nat) : Option (Persisting A R) :=
  (x.loadingRunner i).map fun r =>
    { x with
      loaders := Function.update x.loaders i <| some <|
        match x.documents r.gid with
        | none => .absent
        | some data => .loaded data }

/-- `players.save` of the default player, which has no items. -/
def create (x : Persisting A R) (i : Nat) : Option (Persisting A R) :=
  (x.loadingRunner i).bind fun r =>
    if x.loaders i = some .absent then
      some { x with
        documents := Function.update x.documents r.gid (some ∅)
        loaders := Function.update x.loaders i (some (.loaded ∅)) }
    else none

/-- `PlayerState::new`: the loader returns what it has found or created. -/
def loaded (config : LogicConfig) (x : Persisting A R) (i : Nat) : Option (Persisting A R) :=
  match x.loaders i with
  | some (.loaded data) => x.advance config (.run i (.fetched ⟨⟨data, none, false⟩, rfl⟩) true)
  | _ => none

/-- `player.with(|state| state.data.clone())` -/
def snapshot (x : Persisting A R) (holder : GateHolder) (c : Nat) : Option (Persisting A R) :=
  (x.runtime.vault.cells[c]?).bind fun cell =>
    if c ∈ x.runtime.saving holder ∧ cell.dirty ∧ (x.saves c).isNone then
      some { x with saves := Function.update x.saves c (some ⟨cell.state.items, false⟩) }
    else none

/-- `players.save(&data)`: the store applies the write. -/
def write (x : Persisting A R) (c : Nat) : Option (Persisting A R) :=
  (x.saves c).bind fun save => (x.runtime.vault.cells[c]?).map fun cell =>
    { x with
      documents := Function.update x.documents cell.gid (some save.data)
      saves := Function.update x.saves c (some { save with written := true }) }

/-- The saver of the player `c` returns to its caller. -/
def ended (config : LogicConfig) (x : Persisting A R) (holder : GateHolder) (c : Nat) (state : PlayerState)
    (result : Except PlayerError Unit) : Option (Persisting A R) :=
  (x.advance config (holder.saved state ((x.saves c).any Save.written) result)).map fun y =>
    { y with saves := Function.update y.saves c none }

/-- `player.with_mut(|state| state.dirty = false)`, after the store has answered. -/
def clear (config : LogicConfig) (x : Persisting A R) (holder : GateHolder) : Option (Persisting A R) :=
  ((x.runtime.saving holder).head?).bind fun c => (x.runtime.vault.cells[c]?).bind fun cell =>
    if (x.saves c).any Save.written then
      x.ended config holder c { cell.state with dirty := false } (.ok ())
    else none

/-- The write has failed, whether the store has applied it or not. -/
def giveUp (config : LogicConfig) (x : Persisting A R) (holder : GateHolder) (error : PlayerError) :
    Option (Persisting A R) :=
  ((x.runtime.saving holder).head?).bind fun c => (x.runtime.vault.cells[c]?).bind fun cell =>
    x.ended config holder c cell.state (.error error)

def step (config : LogicConfig) (x : Persisting A R) : Label A R → Option (Persisting A R)
  | .runtime l => if l.saved.isNone ∧ l.fetched.isNone then x.advance config l else none
  | .find i => x.find i
  | .create i => x.create i
  | .loaded i => x.loaded config i
  | .snapshot holder c => x.snapshot holder c
  | .write c => x.write c
  | .clear holder => x.clear config holder
  | .giveUp holder error => x.giveUp config holder error

def system (A R : Type) (config : ValidConfig) : System (Persisting A R) (Label A R) :=
  .ofFun (fun x => ∃ documents, x = initial config documents) (step config.toLogicConfig)

variable {config : ValidConfig} {x y : Persisting A R} {l : Runtime.Label PlayerState A R PlayerError}

theorem advance_runtime (taken : x.advance config.toLogicConfig l = some y) :
    x.runtime.step config.toLogicConfig l = some y.runtime ∧ y.documents = x.documents ∧ y.saves = x.saves
      ∧ y.seen = y.runtime.notice x.seen l
      ∧ ∀ i, y.loaders i = x.loaders i ∧ (GateHolder.runner i).acts l = false ∨ y.loaders i = none := by
  obtain ⟨runtime, stepped, rfl⟩ := Option.map_eq_some_iff.mp taken
  refine ⟨stepped, rfl, rfl, rfl, fun i => ?_⟩
  cases l with
  | run j choice ok =>
    by_cases same : i = j
    · subst same
      exact .inr (Function.update_self ..)
    · refine .inl ⟨Function.update_of_ne same _ _, ?_⟩
      simpa [GateHolder.acts] using same
  | _ => exact .inl ⟨rfl, rfl⟩

/-! ## What a step can do -/

@[simp] theorem acts_saved {holder other : GateHolder} {state : PlayerState} {wrote : Bool}
    {result : Except PlayerError Unit} :
    other.acts (holder.saved state wrote result : Runtime.Label PlayerState A R PlayerError) = true
      ↔ other = holder := by
  cases holder <;> cases other <;> simp [GateHolder.acts, GateHolder.saved]

@[simp] theorem saved_saved {holder : GateHolder} {state : PlayerState} {wrote : Bool}
    {result : Except PlayerError Unit} :
    (holder.saved state wrote result : Runtime.Label PlayerState A R PlayerError).saved = some state := by
  cases holder <;> rfl

@[simp] theorem fetched_saved {holder : GateHolder} {state : PlayerState} {wrote : Bool}
    {result : Except PlayerError Unit} :
    (holder.saved state wrote result : Runtime.Label PlayerState A R PlayerError).fetched = none := by
  cases holder <;> rfl

inductive Steps (config : LogicConfig) (x : Persisting A R) : Label A R → Persisting A R → Prop
  -- the runtime moves, or a loader has returned
  | advance {l : Label A R} {l' : Runtime.Label PlayerState A R PlayerError} {y : Persisting A R} :
      l'.saved = none → (∀ i ∈ l'.fetched, ∃ data, x.loaders i = some (.loaded data)) →
      x.advance config l' = some y → Steps config x l y
  | find {i : Nat} {r : Runner PlayerState A R PlayerError} : x.loadingRunner i = some r →
      Steps config x (.find i) { x with
        loaders := Function.update x.loaders i <| some <|
          match x.documents r.gid with
          | none => .absent
          | some data => .loaded data }
  | create {i : Nat} {r : Runner PlayerState A R PlayerError} : x.loadingRunner i = some r →
      x.loaders i = some .absent →
      Steps config x (.create i) { x with
        documents := Function.update x.documents r.gid (some ∅)
        loaders := Function.update x.loaders i (some (.loaded ∅)) }
  | snapshot {holder : GateHolder} {c : Nat} {cell : PlayerCell PlayerState} :
      x.runtime.vault.cells[c]? = some cell → c ∈ x.runtime.saving holder → cell.dirty = true →
      Steps config x (.snapshot holder c)
        { x with saves := Function.update x.saves c (some ⟨cell.state.items, false⟩) }
  | write {c : Nat} {cell : PlayerCell PlayerState} {save : Save} :
      x.runtime.vault.cells[c]? = some cell → x.saves c = some save →
      Steps config x (.write c) { x with
        documents := Function.update x.documents cell.gid (some save.data)
        saves := Function.update x.saves c (some { save with written := true }) }
  -- a saver has returned
  | ended {l : Label A R} {holder : GateHolder} {c : Nat} {cell : PlayerCell PlayerState} {state : PlayerState}
      {result : Except PlayerError Unit} {y : Persisting A R} :
      (x.runtime.saving holder).head? = some c → x.runtime.vault.cells[c]? = some cell →
      (l = .clear holder ∧ (∃ save, x.saves c = some save ∧ save.written = true)
          ∧ state = { cell.state with dirty := false } ∧ result = .ok ()
        ∨ state = cell.state ∧ ∃ error, result = .error error) →
      x.advance config (holder.saved state ((x.saves c).any Save.written) result) = some y →
      Steps config x l { y with saves := Function.update y.saves c none }

theorem steps_of_step {config : LogicConfig} {l : Label A R} (taken : x.step config l = some y) :
    Steps config x l y := by
  cases l with
  | runtime l =>
    simp only [Persisting.step, Option.ite_none_right_eq_some, Option.isNone_iff_eq_none] at taken
    obtain ⟨⟨unsaved, unfetched⟩, advanced⟩ := taken
    exact .advance unsaved (by simp [unfetched]) advanced
  | find i =>
    obtain ⟨r, loading, rfl⟩ := Option.map_eq_some_iff.mp taken
    exact .find loading
  | create i =>
    obtain ⟨r, loading, created⟩ := Option.bind_eq_some_iff.mp taken
    simp only [Option.ite_none_right_eq_some, Option.some.injEq] at created
    obtain ⟨absent, rfl⟩ := created
    exact .create loading absent
  | loaded i =>
    simp only [Persisting.step, Persisting.loaded] at taken
    split at taken
    · next data isLoader =>
      refine .advance rfl ?_ taken
      intro j isFetched
      obtain rfl := Option.some.inj isFetched
      exact ⟨data, isLoader⟩
    · cases taken
  | snapshot holder c =>
    obtain ⟨cell, found, snapped⟩ := Option.bind_eq_some_iff.mp taken
    simp only [Option.ite_none_right_eq_some, Option.some.injEq] at snapped
    obtain ⟨⟨member, dirty, _⟩, rfl⟩ := snapped
    exact .snapshot found member dirty
  | write c =>
    obtain ⟨save, isSave, written⟩ := Option.bind_eq_some_iff.mp taken
    obtain ⟨cell, found, rfl⟩ := Option.map_eq_some_iff.mp written
    exact .write found isSave
  | clear holder =>
    obtain ⟨c, head, taken⟩ := Option.bind_eq_some_iff.mp taken
    obtain ⟨cell, found, taken⟩ := Option.bind_eq_some_iff.mp taken
    simp only [Option.ite_none_right_eq_some] at taken
    obtain ⟨isWritten, taken⟩ := taken
    obtain ⟨z, advanced, rfl⟩ := Option.map_eq_some_iff.mp taken
    exact .ended head found (.inl ⟨rfl, (Option.any_eq_true _ _).mp isWritten, rfl, rfl⟩) advanced
  | giveUp holder error =>
    obtain ⟨c, head, taken⟩ := Option.bind_eq_some_iff.mp taken
    obtain ⟨cell, found, taken⟩ := Option.bind_eq_some_iff.mp taken
    obtain ⟨z, advanced, rfl⟩ := Option.map_eq_some_iff.mp taken
    exact .ended head found (.inr ⟨rfl, error, rfl⟩) advanced

/-! ## Documents -/

/-- What is known while the loader has not returned. -/
def Finds (x : Persisting A R) (gid : Gid) : Loader → Prop
  | .absent => ∀ (c : Nat) cell, x.runtime.vault.cells[c]? = some cell → cell.gid ≠ gid
  | .loaded _ => (x.documents gid).isSome = true

/-- Whoever is in memory is in the store. -/
structure Documented (x : Persisting A R) : Prop where
  cells : ∀ (c : Nat) cell, x.runtime.vault.cells[c]? = some cell → (x.documents cell.gid).isSome = true
  fetched : ∀ (i : Nat) r envelope state, x.runtime.runners[i]? = some r →
    r.phase = .serving envelope (.fetched state) → (x.documents r.gid).isSome = true
  loading : ∀ (i : Nat) loader, x.loaders i = some loader → ∃ r envelope, x.runtime.runners[i]? = some r
    ∧ r.phase = .serving envelope .loading ∧ x.Finds r.gid loader

/-- The store forgets nobody. -/
theorem Documented.frame (inv : x.Documented) (runtime : y.runtime = x.runtime) (loaders : y.loaders = x.loaders)
    (documents : ∀ gid, (x.documents gid).isSome = true → (y.documents gid).isSome = true) : y.Documented where
  cells := by
    rw [runtime]
    intro c cell found
    exact documents _ (inv.cells c cell found)
  fetched := by
    rw [runtime]
    intro i r envelope state isRunner fetched
    exact documents _ (inv.fetched i r envelope state isRunner fetched)
  loading := by
    rw [runtime, loaders]
    intro i loader isLoader
    obtain ⟨r, envelope, isRunner, serving, finds⟩ := inv.loading i loader isLoader
    refine ⟨r, envelope, isRunner, serving, ?_⟩
    cases loader with
    | absent =>
      unfold Finds
      rw [runtime]
      exact finds
    | loaded => exact documents _ finds

theorem Documented.advance (inv : x.Documented) (serving : Runtime.Serving config x.runtime)
    (loads : ∀ i ∈ l.fetched, ∃ data, x.loaders i = some (.loaded data))
    (taken : x.advance config.toLogicConfig l = some y) : y.Documented := by
  obtain ⟨stepped, documents, _, _, loaders⟩ := advance_runtime taken
  refine ⟨?_, ?_, ?_⟩
  · intro c cell' there
    rw [documents]
    obtain ⟨cell, found, gid⟩ | ⟨i, choice, ok, r, envelope, state, _, isRunner, fetched, gid, _⟩ :=
      (Runtime.players_step stepped).origin there
    · rw [← gid]
      exact inv.cells c cell found
    · rw [gid]
      exact inv.fetched i r envelope state isRunner fetched
  · intro i r envelope state isRunner fetched
    rw [documents]
    obtain before | ⟨ok, r₀, rfl, before, gid⟩ := Runtime.fetched_step stepped isRunner fetched
    · exact inv.fetched i r envelope state before fetched
    · obtain ⟨data, isLoader⟩ := loads i rfl
      obtain ⟨r', _, isRunner', _, finds⟩ := inv.loading i _ isLoader
      rw [before] at isRunner'
      obtain rfl := Option.some.inj isRunner'
      rw [← gid]
      exact finds
  · intro i loader isLoader
    obtain ⟨same, foreign⟩ | gone := loaders i
    · rw [same] at isLoader
      obtain ⟨r, envelope, isRunner, loading, finds⟩ := inv.loading i loader isLoader
      obtain unmoved | ⟨absent, _⟩ := Runtime.runners_step stepped foreign
      · refine ⟨r, envelope, unmoved.trans isRunner, loading, ?_⟩
        cases loader with
        | absent =>
          intro c cell' there isGid
          obtain ⟨cell, found, gid⟩ | ⟨j, choice, ok, r', envelope', state, _, isRunner', fetched, gid, _⟩ :=
            (Runtime.players_step stepped).origin there
          · exact finds c cell found (gid.trans isGid)
          · -- two runners would own the player
            have owns : r.phase.owns = true := by rw [loading]; rfl
            have owns' : r'.phase.owns = true := by rw [fetched]; rfl
            obtain ⟨rfl, rfl⟩ := serving.served.owned.runner_eq isRunner isRunner' owns owns' (isGid.symm.trans gid)
            rw [loading] at fetched
            cases fetched
        | loaded data =>
          unfold Finds
          rw [documents]
          exact finds
      · rw [absent] at isRunner
        cases isRunner
    · rw [gone] at isLoader
      cases isLoader

/-! ## Snapshots -/

/-- The player is in the hands of a saver, and as it was at the snapshot. -/
def Snapped (x : Persisting A R) (c : Nat) (save : Save) : Prop :=
  ∃ holder cell, c ∈ x.runtime.saving holder ∧ x.runtime.vault.cells[c]? = some cell ∧ cell.dirty = true
    ∧ cell.state.items = save.data

/-- Whoever holds another gate leaves the player alone. -/
theorem Snapped.foreign {c : Nat} {save : Save} (serving : Runtime.Serving config x.runtime)
    (stepped : x.runtime.step config.toLogicConfig l = some y.runtime) {holder : GateHolder}
    {cell : PlayerCell PlayerState} (member : c ∈ x.runtime.saving holder)
    (found : x.runtime.vault.cells[c]? = some cell) (dirty : cell.dirty = true)
    (data : cell.state.items = save.data) (foreign : holder.acts l = false) : y.Snapped c save := by
  obtain ⟨held, there, gate⟩ := serving.agree.gate_of_saving member
  rw [found] at there
  obtain rfl := Option.some.inj there
  obtain ⟨cell', there', _, state⟩ := serving.agree.foreign_step stepped found gate foreign
  refine ⟨holder, cell', Runtime.saving_of_foreign stepped foreign member, there', ?_, ?_⟩
  · rw [PlayerCell.dirty, state]
    exact dirty
  · rw [state]
    exact data

theorem Snapped.advance {c : Nat} {save : Save} (snapped : x.Snapped c save)
    (serving : Runtime.Serving config x.runtime) (unsaved : l.saved = none)
    (stepped : x.runtime.step config.toLogicConfig l = some y.runtime) : y.Snapped c save := by
  obtain ⟨holder, cell, member, found, dirty, data⟩ := snapped
  have foreign := Runtime.not_acts_of_saving stepped unsaved member found dirty
  exact Snapped.foreign serving stepped member found dirty data foreign

/-- Another saver returns. -/
theorem Snapped.ended {c d : Nat} {save : Save} {state : PlayerState} {other : GateHolder}
    {saved : PlayerCell PlayerState} (snapped : x.Snapped c save) (serving : Runtime.Serving config x.runtime)
    (stepped : x.runtime.step config.toLogicConfig l = some y.runtime) (acts : other.acts l = true)
    (isSaved : l.saved = some state) (head : (x.runtime.saving other).head? = some d)
    (isCell : x.runtime.vault.cells[d]? = some saved) (differ : c ≠ d) : y.Snapped c save := by
  obtain ⟨holder, cell, member, found, dirty, data⟩ := snapped
  cases foreign : holder.acts l with
  | false => exact Snapped.foreign serving stepped member found dirty data foreign
  | true =>
    -- one saver saves both players
    obtain rfl := Runtime.acts_unique foreign acts
    obtain ⟨cells, _, others⟩ := Runtime.saved_step stepped acts isSaved head isCell
    refine ⟨holder, cell, others c member differ, ?_, dirty, data⟩
    rw [cells, Pool.get_set_ne _ differ.symm]
    exact found

/-- What holds in every run. -/
structure Persisted (config : ValidConfig) (x : Persisting A R) : Prop where
  serving : Runtime.Serving config x.runtime
  submitted : x.runtime.Submitted
  documented : x.Documented
  followed : x.runtime.Followed x.seen
  snapped : ∀ c save, x.saves c = some save → x.Snapped c save

theorem persisted_initial (config : ValidConfig) (documents : Gid → Option Items) :
    Persisted config (initial config documents : Persisting A R) where
  serving := Runtime.serving_initial config
  submitted := ⟨by intro m slot there; simp [initial, Runtime.initial] at there,
    by intro i r there; simp [initial, Runtime.initial] at there,
    by intro i r envelope stage there; simp [initial, Runtime.initial] at there⟩
  documented := by
    refine ⟨?_, ?_, ?_⟩
    · intro c cell found
      simp [initial, Runtime.initial, Vault.initial] at found
    · intro i r envelope state isRunner
      simp [initial, Runtime.initial] at isRunner
    · intro i loader isLoader
      cases isLoader
  followed := by
    intro i r envelope stage c cell here
    have isRunner := here.isRunner
    simp [initial, Runtime.initial] at isRunner
  snapped := by
    intro c save isSave
    cases isSave

theorem Persisted.advance (inv : Persisted config x) (unsaved : l.saved = none)
    (loads : ∀ i ∈ l.fetched, ∃ data, x.loaders i = some (.loaded data))
    (taken : x.advance config.toLogicConfig l = some y) : Persisted config y := by
  obtain ⟨stepped, documents, saves, seen, _⟩ := advance_runtime taken
  refine ⟨inv.serving.step (Runtime.step_sound stepped), inv.submitted.step (Runtime.step_sound stepped),
    inv.documented.advance inv.serving loads taken, ?_, ?_⟩
  · rw [seen]
    exact inv.followed.step inv.serving.agree inv.submitted stepped
  · intro c save isSave
    rw [saves] at isSave
    exact (inv.snapped c save isSave).advance inv.serving unsaved stepped

theorem Persisted.ended (inv : Persisted config x) {holder : GateHolder} {c : Nat} {state : PlayerState}
    {wrote : Bool} {result : Except PlayerError Unit} {cell : PlayerCell PlayerState}
    (head : (x.runtime.saving holder).head? = some c) (found : x.runtime.vault.cells[c]? = some cell)
    (advanced : x.advance config.toLogicConfig (holder.saved state wrote result) = some y) :
    Persisted config { y with saves := Function.update y.saves c none } := by
  obtain ⟨stepped, documents, saves, seen, _⟩ := advance_runtime advanced
  have documented := inv.documented.advance inv.serving (by simp) advanced
  refine ⟨inv.serving.step (Runtime.step_sound stepped), inv.submitted.step (Runtime.step_sound stepped),
    ⟨documented.cells, documented.fetched, documented.loading⟩, ?_, ?_⟩
  · change y.runtime.Followed y.seen
    rw [seen]
    exact inv.followed.step inv.serving.agree inv.submitted stepped
  · intro d save isSave
    have differ : d ≠ c := by
      rintro rfl
      simp at isSave
    simp only [Function.update_of_ne differ, saves] at isSave
    exact (inv.snapped d save isSave).ended inv.serving stepped (acts_saved.mpr rfl) saved_saved head found differ

theorem loadingRunner_eq {i : Nat} {r : Runner PlayerState A R PlayerError} (loading : x.loadingRunner i = some r) :
    x.runtime.runners[i]? = some r ∧ ∃ envelope, r.phase = .serving envelope .loading := by
  obtain ⟨isRunner, allowed⟩ := Option.filter_eq_some_iff.mp loading
  refine ⟨isRunner, ?_⟩
  split at allowed
  · next envelope serving _ => exact ⟨envelope, serving⟩
  · cases allowed

theorem Documented.find (inv : x.Documented) {i : Nat} {r : Runner PlayerState A R PlayerError}
    (loading : x.loadingRunner i = some r) :
    Documented { x with
      loaders := Function.update x.loaders i <| some <|
        match x.documents r.gid with
        | none => .absent
        | some data => .loaded data } := by
  obtain ⟨isRunner, envelope, serving⟩ := loadingRunner_eq loading
  refine ⟨inv.cells, inv.fetched, ?_⟩
  intro j loader isLoader
  by_cases same : j = i
  · subst same
    refine ⟨r, envelope, isRunner, serving, ?_⟩
    simp only [Function.update_self, Option.some.injEq] at isLoader
    subst isLoader
    cases document : x.documents r.gid with
    | none =>
      -- whoever is in memory is in the store
      intro c cell found gid
      have there := inv.cells c cell found
      rw [gid, document] at there
      cases there
    | some data =>
      simp only [Finds, document]
      rfl
  · simp only [Function.update_of_ne same] at isLoader
    exact inv.loading j loader isLoader

theorem isSome_update {documents : Gid → Option Items} {gid g : Gid} {data : Items}
    (isSome : (documents g).isSome = true) : (Function.update documents gid (some data) g).isSome = true := by
  by_cases same : g = gid
  · subst same
    simp
  · rwa [Function.update_of_ne same]

theorem Documented.create (inv : x.Documented) {i : Nat} {r : Runner PlayerState A R PlayerError}
    (loading : x.loadingRunner i = some r) :
    Documented { x with
      documents := Function.update x.documents r.gid (some ∅)
      loaders := Function.update x.loaders i (some (.loaded ∅)) } := by
  obtain ⟨isRunner, envelope, serving⟩ := loadingRunner_eq loading
  refine ⟨?_, ?_, ?_⟩
  · intro c cell found
    exact isSome_update (inv.cells c cell found)
  · intro j other envelope state isOther fetched
    exact isSome_update (inv.fetched j other envelope state isOther fetched)
  · intro j loader isLoader
    by_cases same : j = i
    · subst same
      simp only [Function.update_self, Option.some.injEq] at isLoader
      subst isLoader
      refine ⟨r, envelope, isRunner, serving, ?_⟩
      simp [Finds]
    · simp only [Function.update_of_ne same] at isLoader
      obtain ⟨other, envelope', isOther, loading', finds⟩ := inv.loading j loader isLoader
      refine ⟨other, envelope', isOther, loading', ?_⟩
      cases loader with
      | absent => exact finds
      | loaded data => exact isSome_update finds

theorem Persisted.step (inv : Persisted config x) {l : Label A R} (taken : x.step config.toLogicConfig l = some y) :
    Persisted config y := by
  cases steps_of_step taken with
  | advance unsaved loads advanced => exact inv.advance unsaved loads advanced
  | find loading => exact ⟨inv.serving, inv.submitted, inv.documented.find loading, inv.followed, inv.snapped⟩
  | create loading _ => exact ⟨inv.serving, inv.submitted, inv.documented.create loading, inv.followed, inv.snapped⟩
  | @snapshot holder c cell found member dirty =>
    refine ⟨inv.serving, inv.submitted, inv.documented.frame rfl rfl (fun _ isSome => isSome), inv.followed, ?_⟩
    intro d save isSave
    by_cases same : d = c
    · subst same
      simp only [Function.update_self, Option.some.injEq] at isSave
      subst isSave
      exact ⟨holder, cell, member, found, dirty, rfl⟩
    · simp only [Function.update_of_ne same] at isSave
      exact inv.snapped d save isSave
  | @write c cell save found isSave =>
    refine ⟨inv.serving, inv.submitted, inv.documented.frame rfl rfl (fun _ => isSome_update), inv.followed, ?_⟩
    intro d other isOther
    by_cases same : d = c
    · subst same
      simp only [Function.update_self, Option.some.injEq] at isOther
      subst isOther
      exact inv.snapped d save isSave
    · simp only [Function.update_of_ne same] at isOther
      exact inv.snapped d other isOther
  | ended head found _ advanced => exact inv.ended head found advanced

theorem persisted_reach {C : Persisting A R → Label A R → Prop} (reached : (system A R config).Reach C x) :
    Persisted config x := by
  refine reached.inv ?_ ?_
  · rintro x ⟨documents, rfl⟩
    exact persisted_initial config documents
  · intro x l y inv _ taken
    exact inv.step taken

/-! ## One generation -/

/-- The runtime takes a step of its own, or waits for a loader or a saver. -/
theorem runtime_step {l : Label A R} (taken : x.step config.toLogicConfig l = some y) :
    y.runtime = x.runtime ∨ ∃ l, x.runtime.step config.toLogicConfig l = some y.runtime := by
  cases steps_of_step taken with
  | advance _ _ advanced => exact .inr ⟨_, (advance_runtime advanced).1⟩
  | ended _ _ _ advanced => exact .inr ⟨_, (advance_runtime advanced).1⟩
  | _ => exact .inl rfl

/-- At most one generation of the player is unsaved. -/
def Undivided (gid : Gid) (x : Persisting A R) (_ : Label A R) : Prop :=
  ∀ (c d : Nat) cell other, x.runtime.vault.cells[c]? = some cell → x.runtime.vault.cells[d]? = some other →
    cell.gid = gid → other.gid = gid → cell.dirty = true → other.dirty = true → c = d

/-- One runner has served the player so far. -/
def OneRunner (gid : Gid) (x : Persisting A R) : Prop :=
  ∀ (i j : Nat) r r', x.runtime.runners[i]? = some r → x.runtime.runners[j]? = some r' → r.gid = gid → r'.gid = gid →
    i = j

theorem OneRunner.before {gid : Gid} {l : Label A R} (one : OneRunner gid y)
    (taken : x.step config.toLogicConfig l = some y) : OneRunner gid x := by
  obtain same | ⟨l, stepped⟩ := runtime_step taken
  · unfold OneRunner
    rw [← same]
    exact one
  · intro i j r r' isRunner isRunner' gid gid'
    obtain ⟨_, there, same, _⟩ := Runtime.runner_step stepped isRunner
    obtain ⟨_, there', same', _⟩ := Runtime.runner_step stepped isRunner'
    exact one i j _ _ there there' (same.trans gid) (same'.trans gid')

theorem loaded_reach {C : Persisting A R → Label A R → Prop} (reached : (system A R config).Reach C x) :
    x.runtime.Loaded := by
  refine reached.inv (I := fun x => x.runtime.Loaded) ?_ ?_
  · rintro x ⟨documents, rfl⟩ c cell found
    simp [initial, Runtime.initial, Vault.initial] at found
  · intro x l y inv _ taken
    obtain same | ⟨l, stepped⟩ := runtime_step taken
    · rw [same]
      exact inv
    · exact inv.step stepped

/-- A runner has one player. -/
theorem OneRunner.undivided {gid : Gid} (one : OneRunner gid x) (loaded : x.runtime.Loaded) (l : Label A R) :
    Undivided gid x l := by
  intro c d cell other found found' isGid isGid' _ _
  obtain ⟨i, r, isRunner, same, player⟩ := loaded c cell found
  obtain ⟨j, r', isRunner', same', player'⟩ := loaded d other found'
  obtain rfl := one i j r r' isRunner isRunner' (same.trans isGid) (same'.trans isGid')
  rw [isRunner] at isRunner'
  obtain rfl := Option.some.inj isRunner'
  rw [player] at player'
  exact Option.some.inj player'

theorem OneRunner.reach {gid : Gid} (one : OneRunner gid x) (reached : (system A R config).Reach System.Any x) :
    (system A R config).Reach (Undivided gid) x := by
  obtain ⟨origin, isInitial, run⟩ := reached
  induction run with
  | refl => exact .of_init isInitial
  | @step x y l run _ taken ih =>
    have before := one.before taken
    exact (ih before).step (before.undivided (loaded_reach ⟨origin, isInitial, run⟩) l) taken

/-- The store has what a saver has written. -/
def Written (gid : Gid) (x : Persisting A R) : Prop :=
  ∀ (c : Nat) cell save, x.runtime.vault.cells[c]? = some cell → cell.gid = gid → x.saves c = some save →
    save.written = true → x.documents gid = some save.data

/-- The store is left alone. -/
theorem Written.advance {gid : Gid} (written : Written gid x) (inv : Persisted config x)
    (stepped : x.runtime.step config.toLogicConfig l = some y.runtime) (documents : y.documents = x.documents)
    (saves : ∀ c save, y.saves c = some save → x.saves c = some save) : Written gid y := by
  intro c cell' save there isGid isSave isWritten
  have before := saves c save isSave
  obtain ⟨holder, cell, _, found, _⟩ := inv.snapped c save before
  obtain ⟨cell'', there', same, _⟩ := (Runtime.players_step stepped).player found
  rw [there] at there'
  obtain rfl := Option.some.inj there'
  rw [documents]
  exact written c cell save found (same.symm.trans isGid) before isWritten

theorem Written.step {gid : Gid} {l : Label A R} (written : Written gid x) (inv : Persisted config x)
    (undivided : Undivided gid x l) (taken : x.step config.toLogicConfig l = some y) : Written gid y := by
  cases steps_of_step taken with
  | advance _ _ advanced =>
    obtain ⟨stepped, documents, saves, _⟩ := advance_runtime advanced
    exact written.advance inv stepped documents (fun _ _ isSave => by rwa [saves] at isSave)
  | find _ => exact written
  | @create i r loading absent =>
    obtain ⟨r', _, isRunner', _, finds⟩ := inv.documented.loading i _ absent
    have isRunner := (loadingRunner_eq loading).1
    rw [isRunner] at isRunner'
    obtain rfl := Option.some.inj isRunner'
    intro c cell save found isGid isSave isWritten
    -- a player that is loaded for the first time has no other generation
    have differ : gid ≠ r.gid := isGid ▸ finds c cell found
    simp only [Function.update_of_ne differ]
    exact written c cell save found isGid isSave isWritten
  | @snapshot holder d other _ _ _ =>
    intro c cell save found isGid isSave isWritten
    by_cases same : c = d
    · subst same
      simp only [Function.update_self, Option.some.injEq] at isSave
      subst isSave
      cases isWritten
    · simp only [Function.update_of_ne same] at isSave
      exact written c cell save found isGid isSave isWritten
  | @write d other save' found' isSave' =>
    intro c cell save found isGid isSave isWritten
    by_cases same : c = d
    · subst same
      rw [found] at found'
      obtain rfl := Option.some.inj found'
      simp only [Function.update_self, Option.some.injEq] at isSave
      subst isSave
      simp [isGid]
    · simp only [Function.update_of_ne same] at isSave
      -- two savers would have two unsaved generations
      have differ : gid ≠ other.gid := by
        intro isGid'
        obtain ⟨_, cell₁, _, found₁, dirty, _⟩ := inv.snapped c save isSave
        obtain ⟨_, cell₂, _, found₂, dirty', _⟩ := inv.snapped d save' isSave'
        rw [found] at found₁
        rw [found'] at found₂
        obtain rfl := Option.some.inj found₁
        obtain rfl := Option.some.inj found₂
        exact same (undivided c d cell other found found' isGid isGid'.symm dirty dirty')
      simp only [Function.update_of_ne differ]
      exact written c cell save found isGid isSave isWritten
  | @ended _ holder c _ _ _ z _ _ _ advanced =>
    obtain ⟨stepped, documents, saves, _⟩ := advance_runtime advanced
    refine written.advance inv stepped documents ?_
    intro d save isSave
    have differ : d ≠ c := by
      rintro rfl
      simp at isSave
    simpa only [Function.update_of_ne differ, saves] using isSave

theorem written_reach {gid : Gid} (reached : (system A R config).Reach (Undivided gid) x) : Written gid x := by
  refine reached.inv_with (J := Persisted config) (fun _ => persisted_reach) ?_ ?_
  · rintro x ⟨documents, rfl⟩ c cell save found
    simp [initial, Runtime.initial, Vault.initial] at found
  · intro x l y inv written undivided taken
    exact written.step inv undivided taken

/-! ## The main result -/

/-- A command that has a builder runs on what the builder has seen. -/
theorem Persisted.executed (inv : Persisted config x) (stepped : x.runtime.step config.toLogicConfig l = some y.runtime)
    {gid : Gid} {execution : Execution PlayerState R}
    (appended : y.runtime.vault.executions gid = x.runtime.vault.executions gid ++ [execution]) :
    ∃ (i : Nat) (r : Runner PlayerState A R PlayerError) (envelope : Envelope PlayerState A R)
        (stage : Stage PlayerState A R PlayerError), x.runtime.runners[i]? = some r
      ∧ r.gid = gid ∧ r.phase = .serving envelope stage ∧ execution.id = envelope.id
      ∧ envelope.command.Becomes execution.logic
      ∧ (envelope.command.preloads = true → x.seen i = some (execution.id, execution.on)) := by
  have unchanged : y.runtime.vault.executions = x.runtime.vault.executions → False := by
    intro executions
    rw [executions] at appended
    simp at appended
  cases Runtime.players_step stepped with
  | quiet _ executions | loaded _ _ _ _ executions | saved _ _ _ _ _ executions =>
    exact absurd executions unchanged
  | @executed i _ _ permit r envelope logic c cell here _ executions =>
    have isGid : gid = cell.gid := by
      apply Decidable.byContradiction
      intro differ
      rw [executions, Function.update_of_ne differ] at appended
      simp at appended
    subst isGid
    rw [executions, Function.update_self] at appended
    have isExecution := List.append_cancel_left appended
    simp only [List.cons.injEq, and_true] at isExecution
    subst isExecution
    have isGid := inv.serving.served.located.gid_of here.isRunner here.player here.found
    exact ⟨i, r, envelope, _, here.isRunner, isGid.symm, here.phase, rfl,
      inv.submitted.stage i r envelope _ here.isRunner here.phase,
      inv.followed i r envelope _ c cell here⟩

/-- The store gets what the command has left. -/
theorem Persisted.written (inv : Persisted config x) {c i : Nat} {r : Runner PlayerState A R PlayerError}
    {envelope : Envelope PlayerState A R} {value : R} (taken : x.write c = some y)
    (isRunner : x.runtime.runners[i]? = some r) (saving : r.phase = .serving envelope (.saving value))
    (player : r.player = some c) :
    ∃ execution ∈ x.runtime.vault.executions r.gid, execution.id = envelope.id
      ∧ (execution.logic execution.on).1 = value
      ∧ y.documents r.gid = some (execution.logic execution.on).2.items := by
  obtain ⟨save, isSave, taken⟩ := Option.bind_eq_some_iff.mp taken
  obtain ⟨cell, found, rfl⟩ := Option.map_eq_some_iff.mp taken
  obtain ⟨_, other, _, there, _, data⟩ := inv.snapped c save isSave
  rw [found] at there
  obtain rfl := Option.some.inj there
  have isGid := inv.serving.served.located.gid_of isRunner player found
  obtain ⟨execution, member, isOf, result⟩ := inv.followed i r envelope _ c cell ⟨isRunner, saving, player, found⟩
  rw [isGid] at member
  refine ⟨execution, member, isOf.1, by rw [result], ?_⟩
  rw [result, isGid]
  simp [data]

/-- Only the saver clears the dirty flag, and it has written the player as it is. -/
theorem Persisted.cleared (inv : Persisted config x) {l : Label A R} (taken : x.step config.toLogicConfig l = some y)
    {c : Nat} {cell cell' : PlayerCell PlayerState} (found : x.runtime.vault.cells[c]? = some cell)
    (there : y.runtime.vault.cells[c]? = some cell') (dirty : cell.dirty = true) (clean : cell'.dirty = false)
    (idle : (y.runtime.vault.executions cell.gid).length = (x.runtime.vault.executions cell.gid).length) :
    ∃ holder save, l = .clear holder ∧ x.saves c = some save ∧ save.written = true
      ∧ save.data = cell.state.items ∧ cell'.state.items = cell.state.items ∧ y.documents = x.documents := by
  have changed : cell'.state = cell.state → False := by
    intro same
    rw [PlayerCell.dirty, same] at clean
    rw [PlayerCell.dirty, clean] at dirty
    cases dirty
  cases steps_of_step taken with
  | advance unsaved _ advanced =>
    obtain ⟨cell₁, there₁, _, same | ⟨_, _, _, _, envelope, _, _, _, _, appended⟩ | ⟨holder, _, _, isSaved⟩⟩ :=
      (Runtime.players_step (advance_runtime advanced).1).player found
    · rw [there] at there₁
      obtain rfl := Option.some.inj there₁
      exact absurd same changed
    · rw [appended] at idle
      simp at idle
    · rw [isSaved] at unsaved
      cases unsaved
  | find | create | snapshot | write =>
    rw [found] at there
    obtain rfl := Option.some.inj there
    exact absurd rfl changed
  | @ended _ holder d other state _ z head isCell left advanced =>
    obtain ⟨stepped, documents, _⟩ := advance_runtime advanced
    obtain ⟨cells, _⟩ := Runtime.saved_step stepped (acts_saved.mpr rfl) saved_saved head isCell
    change z.runtime.vault.cells[c]? = some cell' at there
    rw [cells] at there
    cases Pool.get_set_cases there with
    | inl same =>
      obtain ⟨rfl, rfl⟩ := same
      rw [found] at isCell
      obtain rfl := Option.some.inj isCell
      obtain ⟨rfl, ⟨save, isSave, isWritten⟩, rfl, _⟩ | ⟨unchanged, _⟩ := left
      · obtain ⟨_, cell₁, _, found₁, _, data⟩ := inv.snapped _ save isSave
        rw [found] at found₁
        obtain rfl := Option.some.inj found₁
        exact ⟨holder, save, rfl, isSave, isWritten, data.symm, rfl, documents⟩
      · exact absurd unchanged changed
    | inr differ =>
      rw [found] at differ
      obtain rfl := Option.some.inj differ.2
      exact absurd rfl changed

/-- A command is atomic with its preload and its save, for every schedule of the
    runners and the savers.  A command with a builder runs on the state that its
    builder has seen, so a login replaces the session that it has kicked.  What is
    written after a command is what the command has left.  And only a saver clears
    the dirty flag, after it has written the player as it is in memory: the
    document is equal to it then, when one runner has served the player, or more
    generally when there was never a second unsaved generation of it. -/
theorem command_atomic_with_preload_and_save {l : Label A R} (reached : (system A R config).Reach System.Any x)
    (taken : x.step config.toLogicConfig l = some y) :
    (∀ gid execution, y.runtime.vault.executions gid = x.runtime.vault.executions gid ++ [execution] →
      ∃ (i : Nat) (r : Runner PlayerState A R PlayerError) (envelope : Envelope PlayerState A R)
          (stage : Stage PlayerState A R PlayerError), x.runtime.runners[i]? = some r
        ∧ r.gid = gid ∧ r.phase = .serving envelope stage ∧ execution.id = envelope.id
        ∧ envelope.command.Becomes execution.logic
        ∧ (envelope.command.preloads = true → x.seen i = some (execution.id, execution.on)))
    ∧ (∀ (c i : Nat) r envelope value, l = .write c → x.runtime.runners[i]? = some r →
      r.phase = .serving envelope (.saving value) → r.player = some c →
      ∃ execution ∈ x.runtime.vault.executions r.gid, execution.id = envelope.id
        ∧ (execution.logic execution.on).1 = value
        ∧ y.documents r.gid = some (execution.logic execution.on).2.items)
    ∧ ∀ (c : Nat) cell cell', x.runtime.vault.cells[c]? = some cell → y.runtime.vault.cells[c]? = some cell' →
      cell.dirty = true → cell'.dirty = false →
      (y.runtime.vault.executions cell.gid).length = (x.runtime.vault.executions cell.gid).length →
      ∃ holder save, l = .clear holder ∧ x.saves c = some save ∧ save.written = true
        ∧ save.data = cell.state.items ∧ cell'.state.items = cell.state.items
        ∧ (OneRunner cell.gid x ∨ (system A R config).Reach (Undivided cell.gid) x →
          y.documents cell.gid = some cell'.state.items) := by
  have inv := persisted_reach reached
  refine ⟨?_, ?_, ?_⟩
  · intro gid execution appended
    obtain same | ⟨l, stepped⟩ := runtime_step taken
    · rw [same] at appended
      simp at appended
    · exact inv.executed stepped appended
  · rintro c i r envelope value rfl isRunner saving player
    exact inv.written taken isRunner saving player
  · intro c cell cell' found there dirty clean idle
    obtain ⟨holder, save, isClear, isSave, isWritten, data, items, documents⟩ :=
      inv.cleared taken found there dirty clean idle
    refine ⟨holder, save, isClear, isSave, isWritten, data, items, fun alone => ?_⟩
    have undivided : (system A R config).Reach (Undivided cell.gid) x := by
      cases alone with
      | inl one => exact one.reach reached
      | inr undivided => exact undivided
    rw [documents, items, ← data]
    exact written_reach undivided c cell save found rfl isSave isWritten

/-- Gives the amount that the preload has returned. -/
def give : Command PlayerState Int Unit :=
  .usePreloaded fun p amount => ((), { p with items := p.items.insert 1 amount, dirty := true })

/-- The runner `i` makes `n` steps that need no answer from outside. -/
def proceed (i n : Nat) : List (Label Int Unit) := List.replicate n (.runtime (.run i .go true))

/-- The enqueue call `i` runs to its end and its runner takes the command. -/
def enqueueAll (i : Nat) : List (Label Int Unit) :=
  .runtime (.lock i) :: List.replicate 5 (.runtime (.acquire i false))
    ++ [.runtime (.acquired i), .runtime (.count i), .runtime (.spawn i)] ++ proceed i 1

/-- The runner `i` has the gate and the preload returns `amount`, up to the saver. -/
def giving (i : Nat) (amount : Int) : List (Label Int Unit) :=
  proceed i 2 ++ [.runtime (.run i (.preloaded amount) true)] ++ proceed i 5

/-- A new player is created, five items are given, and the store has them. -/
def givesFive : List (Label Int Unit) :=
  .runtime (.tryUse 7 1 give) :: enqueueAll 0 ++ [.find 0, .create 0, .loaded 0] ++ proceed 0 2 ++ giving 0 5
    ++ [.snapshot (.runner 0) 0, .write 0]

theorem givesFive_stored :
    ∃ x y : Persisting Int Unit, (system Int Unit .hardLimits).Reach System.Any x
      ∧ x.step LogicConfig.HARD_LIMITS (.clear (.runner 0)) = some y
      ∧ ∃ cell, y.runtime.vault.cells[0]? = some cell ∧ cell.dirty = false
        ∧ cell.state.items.lookup 1 = some 5 ∧ y.documents 7 = some cell.state.items := by
  have run : ∃ x : Persisting Int Unit, System.follow System.Any (step LogicConfig.HARD_LIMITS)
        (initial .hardLimits fun _ => none) givesFive = some x
      ∧ x.runtime.runners.length = 1
      ∧ ∃ cell, x.runtime.vault.cells[0]? = some cell ∧ (cell.gid = 7 ∧ cell.dirty = true)
      ∧ ∃ y, x.step LogicConfig.HARD_LIMITS (.clear (.runner 0)) = some y
      ∧ (y.runtime.vault.executions 7).length = (x.runtime.vault.executions 7).length
      ∧ ∃ cell', y.runtime.vault.cells[0]? = some cell' ∧ cell'.dirty = false
        ∧ cell'.state.items.lookup 1 = some 5 := by
    decide +kernel
  obtain ⟨x, followed, single, cell, found, ⟨isGid, dirty⟩, y, taken, idle, cell', there, clean, five⟩ := run
  have reached : (system Int Unit .hardLimits).Reach System.Any x := System.reach_of_follow ⟨_, rfl⟩ followed
  have one : OneRunner cell.gid x := by
    intro i j r r' isRunner isRunner' _ _
    have first := Pool.lt_length isRunner
    have second := Pool.lt_length isRunner'
    omega
  rw [← isGid] at idle
  obtain ⟨_, _, _, _, _, _, _, stored⟩ :=
    (command_atomic_with_preload_and_save reached taken).2.2 0 cell cell' found there dirty clean idle
  exact ⟨x, y, reached, taken, cell', there, clean, five, isGid ▸ stored (.inl one)⟩

/-- The save of the first command fails, its player leaves the cache while the batch
    saver waits for the gate, and `set_i64` refuses it.  The next runner loads the
    player again and writes seven items; then the batch saver, which is late, writes
    the five of the generation before. -/
def savesLate : List (Label Int Unit) :=
  .runtime (.tryUse 7 1 give) :: .runtime (.tryUse 7 1 give) :: enqueueAll 0 ++ [.find 0, .create 0, .loaded 0]
    ++ proceed 0 2 ++ [.runtime (.startSaver [0] false), .runtime (.evict 7)] ++ giving 0 5
    ++ [.snapshot (.runner 0) 0, .giveUp (.runner 0) "database is unavailable"] ++ proceed 0 9
    ++ [.runtime (.run 0 .go false)] ++ proceed 0 2
    ++ [.runtime (.save 0 .go), .runtime (.save 0 .go), .snapshot (.saver 0) 0]
    ++ enqueueAll 1 ++ [.find 1, .loaded 1] ++ proceed 1 2 ++ giving 1 7
    ++ [.snapshot (.runner 1) 1, .write 1, .write 0]

/-- The document is not the player when the saver clears the dirty flag, though the
    runners of the player have served it one after the other. -/
theorem savesLate_document :
    ∃ x y : Persisting Int Unit, (system Int Unit .hardLimits).Reach System.Any x
      ∧ x.step LogicConfig.HARD_LIMITS (.clear (.runner 1)) = some y
      ∧ (∃ r ∈ x.runtime.runners[0]?, r.phase.alive = false) ∧ x.runtime.runners.length = 2
      ∧ (∃ cell ∈ x.runtime.vault.cells[1]?, cell.gid = 7 ∧ cell.dirty = true)
      ∧ ∃ cell ∈ y.runtime.vault.cells[1]?, cell.dirty = false
        ∧ (y.runtime.vault.executions 7).length = (x.runtime.vault.executions 7).length
        ∧ cell.state.items.lookup 1 = some 7
        ∧ ∃ items ∈ y.documents 7, items.lookup 1 = some 5 ∧ items ≠ cell.state.items := by
  have run : ∃ x : Persisting Int Unit, System.follow System.Any (step LogicConfig.HARD_LIMITS)
        (initial .hardLimits fun _ => none) savesLate = some x
      ∧ ∃ y, x.step LogicConfig.HARD_LIMITS (.clear (.runner 1)) = some y
      ∧ (∃ r ∈ x.runtime.runners[0]?, r.phase.alive = false) ∧ x.runtime.runners.length = 2
      ∧ (∃ cell ∈ x.runtime.vault.cells[1]?, cell.gid = 7 ∧ cell.dirty = true)
      ∧ ∃ cell ∈ y.runtime.vault.cells[1]?, cell.dirty = false
        ∧ (y.runtime.vault.executions 7).length = (x.runtime.vault.executions 7).length
        ∧ cell.state.items.lookup 1 = some 7
        ∧ ∃ items ∈ y.documents 7, items.lookup 1 = some 5 := by
    decide +kernel
  obtain ⟨x, followed, y, taken, retired, two, dirty, cell, there, clean, idle, seven, items, stored, five⟩ := run
  refine ⟨x, y, System.reach_of_follow ⟨_, rfl⟩ followed, taken, retired, two, dirty, cell, there, clean, idle, seven,
    items, stored, five, ?_⟩
  rintro rfl
  rw [five] at seven
  cases seven

end Persisting

end Xkk.Logic

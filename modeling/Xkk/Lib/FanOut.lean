import Mathlib.Data.List.Nodup
import Xkk.Lib.Pool
import Xkk.Lib.Transition

/-! # Jobs that run side by side, a bounded number at a time

A loop spawns one task for each of its jobs.  At the limit it first joins a task
that has ended, and after the last job it joins the rest.  A task makes the calls
of its job one after the other.

Whatever the order of the steps, a job's calls are made once and in their order.
-/

namespace Xkk.Lib

universe u v

structure FanOut (α : Type u) (κ : Type v) where
  pending : List α
  running : List (α × List κ)    -- with the calls that the task has still to make
  made : List (α × κ)

namespace FanOut

variable {α : Type u} {κ : Type v}

def start (jobs : List α) : FanOut α κ := ⟨jobs, [], []⟩

inductive Label where
  | spawn
  | call (i : Nat)
  | join (i : Nat)
deriving DecidableEq, Repr

/-- The loop waits for a task: it is at the limit, or has no job left. -/
def Joining (limit : Nat) (s : FanOut α κ) : Prop := s.pending = [] ∨ s.running.length = limit

instance (limit : Nat) (s : FanOut α κ) : Decidable (s.Joining limit) :=
  match pending : s.pending with
  | [] => .isTrue (.inl pending)
  | _ :: _ => decidable_of_iff (s.running.length = limit) (by simp [Joining, pending])

def step (limit : Nat) (script : α → List κ) (s : FanOut α κ) : Label → Option (FanOut α κ)
  | .spawn => match s.pending with
    | [] => none
    | job :: rest =>
      if s.running.length = limit then none
      else some { s with pending := rest, running := s.running ++ [(job, script job)] }
  | .call i => match s.running[i]? with
    | some (job, call :: rest) =>
      some { s with running := s.running.set i (job, rest), made := s.made ++ [(job, call)] }
    | _ => none
  | .join i => match s.running[i]? with
    | some (_, []) => if s.Joining limit then some { s with running := s.running.eraseIdx i } else none
    | _ => none

def Finished (s : FanOut α κ) : Prop := s.pending = [] ∧ s.running = []

variable [DecidableEq α]

/-- The calls made for a job, in their order. -/
def madeFor (s : FanOut α κ) (job : α) : List κ := (s.made.filter (·.1 = job)).map (·.2)

/-! ## Every call once and in order -/

/-- Every job has its calls behind it or ahead of it. -/
structure Sound (limit : Nat) (script : α → List κ) (jobs : List α) (s : FanOut α κ) : Prop where
  bounded : s.running.length ≤ limit
  distinct : (s.pending ++ s.running.map (·.1)).Nodup
  known : ∀ job ∈ s.pending ++ s.running.map (·.1), job ∈ jobs
  mine : ∀ made ∈ s.made, made.1 ∈ jobs
  waiting : ∀ job ∈ s.pending, s.madeFor job = []
  running : ∀ job rest, (job, rest) ∈ s.running → s.madeFor job ++ rest = script job
  joined : ∀ job ∈ jobs, job ∉ s.pending → job ∉ s.running.map (·.1) → s.madeFor job = script job

variable {limit : Nat} {script : α → List κ} {jobs : List α} {s t : FanOut α κ}

theorem Sound.start (distinct : jobs.Nodup) : Sound limit script jobs (.start jobs) where
  bounded := Nat.zero_le _
  distinct := by simpa [FanOut.start] using distinct
  known := by simp [FanOut.start]
  mine := by simp [FanOut.start]
  waiting := by simp [FanOut.start, madeFor]
  running := by simp [FanOut.start]
  joined := by
    intro job isJob unspawned
    exact absurd isJob unspawned

/-- A job has one task. -/
theorem Sound.index (sound : Sound limit script jobs s) {i j : Nat} {job : α} {left rest : List κ}
    (first : s.running[i]? = some (job, left)) (second : s.running[j]? = some (job, rest)) : i = j := by
  have distinct := (List.nodup_append.mp sound.distinct).2.1
  apply (List.getElem?_inj (by simpa using Pool.lt_length first) distinct).mp
  simp [first, second]

/-- The first job gets its task. -/
theorem Sound.spawn (sound : Sound limit script jobs s) {job : α} {rest : List α}
    (pending : s.pending = job :: rest) (room : s.running.length ≠ limit) :
    Sound limit script jobs { s with pending := rest, running := s.running ++ [(job, script job)] } := by
  have unmade : s.madeFor job = [] := sound.waiting job (by simp [pending])
  have distinct := sound.distinct
  have known := sound.known
  rw [pending] at distinct known
  refine ⟨?_, ?_, ?_, sound.mine, ?_, ?_, ?_⟩
  · have bounded := sound.bounded
    simp only [List.length_append, List.length_singleton]
    omega
  · have moved : (rest ++ (s.running ++ [(job, script job)]).map (·.1)).Perm
        (job :: rest ++ s.running.map (·.1)) := by
      simp only [List.map_append, List.map_cons, List.map_nil, ← List.append_assoc]
      exact List.perm_append_singleton ..
    exact moved.nodup_iff.mpr distinct
  · intro other inside
    apply known other
    simp only [List.map_append, List.map_cons, List.map_nil, List.mem_append, List.mem_cons] at inside ⊢
    tauto
  · intro other inside
    exact sound.waiting other (by simp [pending, inside])
  · intro other left inside
    rcases List.mem_append.mp inside with before | isNew
    · exact sound.running other left before
    · simp only [List.mem_singleton, Prod.mk.injEq] at isNew
      obtain ⟨rfl, rfl⟩ := isNew
      show s.madeFor other ++ script other = script other
      rw [unmade, List.nil_append]
  · intro other isJob unspawned notRunning
    simp only [List.map_append, List.map_cons, List.map_nil, List.mem_append, List.mem_singleton, not_or]
      at notRunning
    apply sound.joined other isJob _ notRunning.1
    simp [pending, notRunning.2, unspawned]

/-- A task makes its next call. -/
theorem Sound.call (sound : Sound limit script jobs s) {i : Nat} {job : α} {call : κ} {rest : List κ}
    (found : s.running[i]? = some (job, call :: rest)) :
    Sound limit script jobs
      { s with running := s.running.set i (job, rest), made := s.made ++ [(job, call)] } := by
  have inside : (job, call :: rest) ∈ s.running := List.mem_of_getElem? found
  have names : (s.running.set i (job, rest)).map (·.1) = s.running.map (·.1) := by
    rw [List.map_set]
    exact Pool.set_self (by simp [found])
  have other : ∀ name, name ≠ job →
      madeFor { s with running := s.running.set i (job, rest), made := s.made ++ [(job, call)] } name
        = s.madeFor name := by
    intro name differ
    simp [madeFor, List.filter_append, Ne.symm differ]
  have self : madeFor { s with running := s.running.set i (job, rest), made := s.made ++ [(job, call)] } job
      = s.madeFor job ++ [call] := by
    simp [madeFor, List.filter_append]
  -- the job runs, so it is not among the others
  have apart := List.nodup_append.mp sound.distinct
  have isRunning : job ∈ s.running.map (·.1) := List.mem_map_of_mem inside
  refine ⟨?_, ?_, ?_, ?_, ?_, ?_, ?_⟩
  · simpa using sound.bounded
  · simpa only [names] using sound.distinct
  · simpa only [names] using sound.known
  · intro made isMade
    rcases List.mem_append.mp isMade with before | isNew
    · exact sound.mine made before
    · rw [List.mem_singleton.mp isNew]
      exact sound.known job (List.mem_append_right _ isRunning)
  · intro name isPending
    rw [other name (apart.2.2 name isPending job isRunning)]
    exact sound.waiting name isPending
  · intro name left isLeft
    obtain ⟨j, there⟩ := List.mem_iff_getElem?.mp isLeft
    rcases Pool.get_set_cases there with ⟨_, same⟩ | ⟨differ, before⟩
    · simp only [Prod.mk.injEq] at same
      obtain ⟨rfl, rfl⟩ := same
      rw [self, List.append_assoc]
      exact sound.running name _ inside
    · have names : name ≠ job := by
        rintro rfl
        exact differ (sound.index found before)
      rw [other name names]
      exact sound.running name left (List.mem_of_getElem? before)
  · intro name isJob unspawned notRunning
    rw [names] at notRunning
    have differ : name ≠ job := by
      rintro rfl
      exact notRunning isRunning
    rw [other name differ]
    exact sound.joined name isJob unspawned notRunning

/-- A task that has made all its calls is joined. -/
theorem Sound.join (sound : Sound limit script jobs s) {i : Nat} {job : α}
    (found : s.running[i]? = some (job, [])) :
    Sound limit script jobs { s with running := s.running.eraseIdx i } := by
  have fewer := List.eraseIdx_sublist s.running i
  have names := fewer.map (·.1)
  refine ⟨?_, ?_, ?_, sound.mine, sound.waiting, ?_, ?_⟩
  · exact Nat.le_trans fewer.length_le sound.bounded
  · exact sound.distinct.sublist (names.append_left _)
  · intro other inside
    exact sound.known other ((names.append_left _).subset inside)
  · intro other left inside
    exact sound.running other left (fewer.subset inside)
  · intro other isJob unspawned notRunning
    show s.madeFor other = script other
    by_cases same : other = job
    · subst same
      simpa using sound.running other [] (List.mem_of_getElem? found)
    · apply sound.joined other isJob unspawned
      intro isRunning
      obtain ⟨⟨name, left⟩, inside, rfl⟩ := List.mem_map.mp isRunning
      apply notRunning
      obtain ⟨j, there⟩ := List.mem_iff_getElem?.mp inside
      refine List.mem_map_of_mem (List.mem_eraseIdx_iff_getElem?.mpr ⟨j, ?_, there⟩)
      rintro rfl
      rw [found] at there
      simp only [Option.some.injEq, Prod.mk.injEq] at there
      exact same there.1.symm

theorem Sound.step (sound : Sound limit script jobs s) {l : Label} (taken : s.step limit script l = some t) :
    Sound limit script jobs t := by
  cases l with
  | spawn =>
    simp only [FanOut.step] at taken
    split at taken
    · cases taken
    · next job rest pending =>
      split at taken
      · cases taken
      · next room =>
        cases taken
        exact sound.spawn pending room
  | call i =>
    simp only [FanOut.step] at taken
    split at taken
    · next job call rest found =>
      cases taken
      exact sound.call found
    · cases taken
  | join i =>
    simp only [FanOut.step] at taken
    split at taken
    · next job found =>
      split at taken
      · cases taken
        exact sound.join found
      · cases taken
    · cases taken

/-- When the loop has ended, every job has all its calls behind it. -/
theorem Sound.finished (sound : Sound limit script jobs s) (finished : s.Finished) {job : α}
    (isJob : job ∈ jobs) : s.madeFor job = script job := by
  apply sound.joined job isJob
  · simp [finished.1]
  · simp [finished.2]

/-! ## The loop ends -/

/-- The steps that are left. -/
def left (script : α → List κ) (s : FanOut α κ) : Nat :=
  Pool.total (fun job => (script job).length + 2) s.pending
    + Pool.total (fun task => task.2.length + 1) s.running

omit [DecidableEq α] in
/-- Some step is always possible that takes one off. -/
theorem exists_step (script : α → List κ) (positive : 0 < limit) (unfinished : ¬ s.Finished) :
    ∃ l t, s.step limit script l = some t ∧ t.left script < s.left script := by
  by_cases spawning : s.Joining limit
  · -- some task is there: it calls, or can be joined
    cases running : s.running with
    | nil =>
      rcases spawning with none | full
      · exact absurd ⟨none, running⟩ unfinished
      · simp [running] at full
        omega
    | cons task rest =>
      obtain ⟨job, calls⟩ := task
      cases calls with
      | nil =>
        refine ⟨.join 0, { s with running := rest }, by simp [FanOut.step, running, spawning], ?_⟩
        simp [left, running]
      | cons call calls =>
        refine ⟨.call 0, { s with running := (job, calls) :: rest, made := s.made ++ [(job, call)] }, ?_, ?_⟩
        · simp [FanOut.step, running]
        · simp [left, running]
  · simp only [Joining, not_or] at spawning
    cases pending : s.pending with
    | nil => exact absurd pending spawning.1
    | cons job rest =>
      refine ⟨.spawn, { s with pending := rest, running := s.running ++ [(job, script job)] }, ?_, ?_⟩
      · simp [FanOut.step, pending, spawning.2]
      · simp only [left, pending, Pool.total_append, Pool.total_cons, Pool.total_nil]
        omega

end FanOut

end Xkk.Lib

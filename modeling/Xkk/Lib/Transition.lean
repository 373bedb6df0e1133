import Mathlib.Data.List.Basic

/-! # Labelled transition systems and their runs

A concurrent component is a set of states with an initial condition and one
step relation whose labels name who moves and what the environment answers.
Every order of steps is a run, so a statement about all runs is a statement
about all interleavings.

`Run` and `Reach` carry a side condition on the steps that are taken.  The
condition `fun _ _ => True` gives the plain runs; a stronger one restricts the
schedules, or what the environment may answer.
-/

namespace Xkk.Lib

universe u v

/-- A labelled transition system over states `σ` and labels `ι`. -/
structure System (σ : Type u) (ι : Type v) where
  init : σ → Prop
  step : σ → ι → σ → Prop

namespace System

variable {σ : Type u} {ι : Type v}

/-- The condition that allows every step. -/
def Any : σ → ι → Prop := fun _ _ => True

instance (s : σ) (l : ι) : Decidable (Any s l) := .isTrue trivial

/-- `S.Run C s t`: some sequence of steps leads from `s` to `t`, and each of
    them meets `C` in the state in which it is taken. -/
inductive Run (S : System σ ι) (C : σ → ι → Prop) (s : σ) : σ → Prop
  | refl : Run S C s s
  | step {t u : σ} {l : ι} : Run S C s t → C t l → S.step t l u → Run S C s u

/-- `S.Reach C t`: some run from an initial state leads to `t`. -/
def Reach (S : System σ ι) (C : σ → ι → Prop) (t : σ) : Prop :=
  ∃ s, S.init s ∧ S.Run C s t

variable {S : System σ ι} {C D : σ → ι → Prop}

/-! ## Composition -/

theorem Run.trans {s t u : σ} (first : S.Run C s t) (second : S.Run C t u) : S.Run C s u := by
  induction second with
  | refl => exact first
  | step _ allowed taken ih => exact .step ih allowed taken

theorem Run.mono (weaker : ∀ s l, C s l → D s l) {s t : σ} (run : S.Run C s t) : S.Run D s t := by
  induction run with
  | refl => exact .refl
  | step _ allowed taken ih => exact .step ih (weaker _ _ allowed) taken

theorem Reach.of_init {s : σ} (initial : S.init s) : S.Reach C s := ⟨s, initial, .refl⟩

theorem Reach.run {s t : σ} (reached : S.Reach C s) (run : S.Run C s t) : S.Reach C t := by
  obtain ⟨origin, initial, before⟩ := reached
  exact ⟨origin, initial, before.trans run⟩

theorem Reach.step {s t : σ} {l : ι} (reached : S.Reach C s) (allowed : C s l)
    (taken : S.step s l t) : S.Reach C t :=
  reached.run (.step .refl allowed taken)

theorem Reach.mono (weaker : ∀ s l, C s l → D s l) {t : σ} (reached : S.Reach C t) :
    S.Reach D t := by
  obtain ⟨origin, initial, run⟩ := reached
  exact ⟨origin, initial, run.mono weaker⟩

/-! ## Invariants -/

/-- What every allowed step keeps, every run keeps. -/
theorem Run.inv {I : σ → Prop}
    (keeps : ∀ s l t, I s → C s l → S.step s l t → I t)
    {s t : σ} (run : S.Run C s t) (start : I s) : I t := by
  induction run with
  | refl => exact start
  | step _ allowed taken ih => exact keeps _ _ _ ih allowed taken

/-- What holds initially and is kept by every allowed step holds in every
    reachable state. -/
theorem Reach.inv {I : σ → Prop} (initial : ∀ s, S.init s → I s)
    (keeps : ∀ s l t, I s → C s l → S.step s l t → I t)
    {t : σ} (reached : S.Reach C t) : I t := by
  obtain ⟨origin, isInit, run⟩ := reached
  exact run.inv keeps (initial origin isInit)

/-- An invariant may be proved with the help of one that is already known to
    hold in every reachable state. -/
theorem Reach.inv_with {I J : σ → Prop} (known : ∀ s, S.Reach C s → J s)
    (initial : ∀ s, S.init s → I s)
    (keeps : ∀ s l t, J s → I s → C s l → S.step s l t → I t)
    {t : σ} (reached : S.Reach C t) : I t := by
  obtain ⟨origin, isInit, run⟩ := reached
  induction run with
  | refl => exact initial origin isInit
  | step before allowed taken ih =>
    exact keeps _ _ _ (known _ ⟨origin, isInit, before⟩) ih allowed taken

/-- A run of a reachable state visits reachable states only, so a relation
    between its two ends may rest on an invariant. -/
theorem Run.inv_with {I J : σ → Prop} (known : ∀ s, S.Reach C s → J s)
    (keeps : ∀ s l t, J s → I s → C s l → S.step s l t → I t)
    {s t : σ} (reached : S.Reach C s) (run : S.Run C s t) (start : I s) : I t := by
  induction run with
  | refl => exact start
  | step before allowed taken ih =>
    exact keeps _ _ _ (known _ (reached.run before)) ih allowed taken

/-! ## Systems given by a step function -/

/-- The system of a partial step function: `none` means that the label is not
    enabled in that state. -/
def ofFun (init : σ → Prop) (step : σ → ι → Option σ) : System σ ι where
  init := init
  step s l t := step s l = some t

/-- Follow a schedule, given as the list of its labels, as long as each step
    is allowed. -/
def follow (C : σ → ι → Prop) [∀ s l, Decidable (C s l)] (step : σ → ι → Option σ) :
    σ → List ι → Option σ
  | s, [] => some s
  | s, l :: ls => if C s l then (step s l).bind (follow C step · ls) else none

theorem run_of_follow {init : σ → Prop} [∀ s l, Decidable (C s l)] {step : σ → ι → Option σ}
    {labels : List ι} :
    ∀ {s t : σ}, follow C step s labels = some t → (ofFun init step).Run C s t := by
  induction labels with
  | nil =>
    intro s t followed
    simp only [follow, Option.some.injEq] at followed
    subst followed
    exact .refl
  | cons l ls ih =>
    intro s t followed
    simp only [follow, Option.ite_none_right_eq_some, Option.bind_eq_some_iff] at followed
    obtain ⟨allowed, next, taken, rest⟩ := followed
    exact (Run.step .refl allowed taken).trans (ih rest)

/-- A schedule that can be followed from an initial state ends in a reachable
    state. -/
theorem reach_of_follow {init : σ → Prop} [∀ s l, Decidable (C s l)] {step : σ → ι → Option σ}
    {labels : List ι} {s t : σ} (initial : init s) (followed : follow C step s labels = some t) :
    (ofFun init step).Reach C t :=
  ⟨s, initial, run_of_follow followed⟩

end System

end Xkk.Lib

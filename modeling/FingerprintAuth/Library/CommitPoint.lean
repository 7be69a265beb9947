/-
Calls that take several steps, seen as calls that take one.

A machine with fine steps is compared with a machine with coarse steps. Each fine
step says which coarse actions it commits, most of them none: a call is committed by
one of its own steps, so the committed actions are in an order in which the calls
could have been made one after the other. The simulation rule reduces the comparison
of whole runs to one fine step.
-/

import FingerprintAuth.Library.StepMachine

set_option autoImplicit false

namespace StepMachine

universe u v w x

variable {φ : Type u} {α : Type v} {σ : Type w} {β : Type x}

def committed (step : φ → α → φ) (commits : φ → α → List β) : φ → List α → List β
  | _, [] => []
  | state, action :: rest => commits state action ++ committed step commits (step state action) rest

section Rules

variable {step : φ → α → φ} {commits : φ → α → List β} {coarse : σ → β → σ}

theorem committed_append (start : φ) (first second : List α) :
    committed step commits start (first ++ second) =
      committed step commits start first ++
        committed step commits (run step start first) second := by
  induction first generalizing start with
  | nil => rfl
  | cons action rest ih =>
      simp only [List.cons_append, committed, run_cons, ih, List.append_assoc]

/-- The simulation rule: what relates the two machines after every fine step and the
coarse steps it commits relates them at the end of every run. -/
theorem committed_related (related : φ → σ → Prop)
    (kept : ∀ state abstract action, related state abstract →
      related (step state action) (run coarse abstract (commits state action)))
    {start : φ} {abstract : σ} (initially : related start abstract) (actions : List α) :
    related (run step start actions) (run coarse abstract (committed step commits start actions)) := by
  induction actions generalizing start abstract with
  | nil => exact initially
  | cons action rest ih =>
      rw [run_cons, committed, run_append]
      exact ih (kept start abstract action initially)

end Rules

end StepMachine

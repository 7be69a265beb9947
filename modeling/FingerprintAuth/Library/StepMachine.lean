/-
Runs of a deterministic machine whose every step is driven by a labelled action.

The environment's answers are part of the action, so a run is a list of actions
and nothing else. The file gives the vocabulary of whole-run statements (a
predicate in every state of a run, a condition on every step of a run), the
induction rules that reduce them to one step, and the deletion of idle steps.
-/

set_option autoImplicit false

namespace StepMachine

universe u v w

variable {σ : Type u} {α : Type v} {β : Type w}

/-- The state a run ends in. -/
def run (step : σ → α → σ) (start : σ) (actions : List α) : σ :=
  actions.foldl step start

/-- `holds` is true of every state of the run, the first and the last included. -/
def Always (step : σ → α → σ) (holds : σ → Prop) : σ → List α → Prop
  | state, [] => holds state
  | state, action :: rest => holds state ∧ Always step holds (step state action) rest

/-- `condition` is true of every step of the run, at the state the step starts in. -/
def EachStep (step : σ → α → σ) (condition : σ → α → Prop) : σ → List α → Prop
  | _, [] => True
  | state, action :: rest => condition state action ∧ EachStep step condition (step state action) rest

def Reachable (step : σ → α → σ) (start finish : σ) : Prop :=
  ∃ actions, run step start actions = finish

section Runs

variable (step : σ → α → σ)

@[simp]
theorem run_nil (start : σ) : run step start [] = start := rfl

@[simp]
theorem run_cons (start : σ) (action : α) (rest : List α) :
    run step start (action :: rest) = run step (step start action) rest := rfl

theorem run_append (start : σ) (first second : List α) :
    run step start (first ++ second) = run step (run step start first) second := by
  simp only [run, List.foldl_append]

theorem run_snoc (start : σ) (actions : List α) (action : α) :
    run step start (actions ++ [action]) = step (run step start actions) action := by
  rw [run_append, run_cons, run_nil]

theorem run_reachable (start : σ) (actions : List α) :
    Reachable step start (run step start actions) := ⟨actions, rfl⟩

variable {step}

/-- The invariant rule: true at the start and kept by every step. -/
theorem Reachable.invariant (holds : σ → Prop) {start finish : σ}
    (reached : Reachable step start finish) (initially : holds start)
    (kept : ∀ state action, holds state → holds (step state action)) : holds finish := by
  obtain ⟨actions, rfl⟩ := reached
  induction actions generalizing start with
  | nil => exact initially
  | cons action rest ih => exact ih (kept start action initially)

theorem Always.first {holds : σ → Prop} {start : σ} {actions : List α}
    (always : Always step holds start actions) : holds start := by
  cases actions with
  | nil => exact always
  | cons action rest => exact always.1

theorem always_append {holds : σ → Prop} {start : σ} {first second : List α} :
    Always step holds start (first ++ second) ↔
      Always step holds start first ∧ Always step holds (run step start first) second := by
  induction first generalizing start with
  | nil =>
      constructor
      · intro always
        exact ⟨always.first, always⟩
      · intro both
        exact both.2
  | cons action rest ih =>
      simp only [List.cons_append, Always, run_cons, ih, and_assoc]

theorem always_iff_cut {holds : σ → Prop} {start : σ} {actions : List α} :
    Always step holds start actions ↔
      ∀ before after, actions = before ++ after → holds (run step start before) := by
  constructor
  · intro always before after split
    subst split
    exact (always_append.mp always).2.first
  · intro everywhere
    induction actions generalizing start with
    | nil => exact everywhere [] [] rfl
    | cons action rest ih =>
        refine ⟨everywhere [] (action :: rest) rfl, ih ?_⟩
        intro before after split
        exact everywhere (action :: before) after (by rw [split]; rfl)

theorem Always.last {holds : σ → Prop} {start : σ} {actions : List α}
    (always : Always step holds start actions) : holds (run step start actions) :=
  always_iff_cut.mp always actions [] (List.append_nil actions).symm

theorem eachStep_append {condition : σ → α → Prop} {start : σ} {first second : List α} :
    EachStep step condition start (first ++ second) ↔
      EachStep step condition start first ∧
        EachStep step condition (run step start first) second := by
  induction first generalizing start with
  | nil => simp only [List.nil_append, EachStep, true_and, run_nil]
  | cons action rest ih =>
      simp only [List.cons_append, EachStep, run_cons, ih, and_assoc]

theorem eachStep_iff_split {condition : σ → α → Prop} {start : σ} {actions : List α} :
    EachStep step condition start actions ↔
      ∀ before action after, actions = before ++ action :: after →
        condition (run step start before) action := by
  constructor
  · intro each before action after split
    subst split
    exact (eachStep_append.mp each).2.1
  · intro everywhere
    induction actions generalizing start with
    | nil => trivial
    | cons action rest ih =>
        refine ⟨everywhere [] action rest rfl, ih ?_⟩
        intro before next after split
        exact everywhere (action :: before) next after (by rw [split]; rfl)

theorem always_of_eachStep (holds : σ → Prop) {condition : σ → α → Prop}
    (kept : ∀ state action, holds state → condition state action → holds (step state action))
    {start : σ} (initially : holds start) {actions : List α}
    (each : EachStep step condition start actions) : Always step holds start actions := by
  induction actions generalizing start with
  | nil => exact initially
  | cons action rest ih => exact ⟨initially, ih (kept start action initially each.1) each.2⟩

/-- The exactness rule: where one step from a good state is good exactly when it
meets the condition, a whole run is good exactly when all its steps meet it. The
invariant `sound` is free of the condition and may be used by the step; `allowed`
restricts the actions of the run. -/
theorem always_iff_eachStep (sound : σ → Prop) (allowed : α → Prop)
    {condition : σ → α → Prop} {holds : σ → Prop}
    (soundKept : ∀ state action, sound state → sound (step state action))
    (exact_step : ∀ state action, allowed action → sound state → holds state →
      (holds (step state action) ↔ condition state action))
    {start : σ} (soundStart : sound start) (initially : holds start) (actions : List α)
    (all : ∀ action, action ∈ actions → allowed action) :
    Always step holds start actions ↔ EachStep step condition start actions := by
  induction actions generalizing start with
  | nil => exact iff_of_true initially trivial
  | cons action rest ih =>
      have one := exact_step start action (all action List.mem_cons_self) soundStart initially
      have others : ∀ action, action ∈ rest → allowed action :=
        fun action member => all action (List.mem_cons_of_mem _ member)
      constructor
      · rintro ⟨_, later⟩
        have good := later.first
        exact ⟨one.mp good, (ih (soundKept start action soundStart) good others).mp later⟩
      · rintro ⟨met, later⟩
        have good := one.mpr met
        exact ⟨initially, (ih (soundKept start action soundStart) good others).mpr later⟩

/-- What holds at the end of a run has held all along or since some step of it. -/
theorem always_or_onset (holds : σ → Prop) {start : σ} {actions : List α}
    (finally_ : holds (run step start actions)) :
    Always step holds start actions ∨
      ∃ before action after, actions = before ++ action :: after ∧
        ¬holds (run step start before) ∧
        Always step holds (step (run step start before) action) after := by
  induction actions generalizing start with
  | nil => exact Or.inl finally_
  | cons action rest ih =>
      rcases ih finally_ with since | ⟨before, onset, after, split, absent, since⟩
      · by_cases first : holds start
        · exact Or.inl ⟨first, since⟩
        · exact Or.inr ⟨[], action, rest, rfl, first, since⟩
      · refine Or.inr ⟨action :: before, onset, after, ?_, absent, since⟩
        rw [split]
        rfl

end Runs

/-! ### Deleting idle steps -/

structure Record (σ : Type u) (α : Type v) (β : Type w) where
  before : σ
  action : α
  output : β
  after : σ

def trace (step : σ → α → σ) (output : σ → α → β) : σ → List α → List (Record σ α β)
  | _, [] => []
  | state, action :: rest =>
      ⟨state, action, output state action, step state action⟩ ::
        trace step output (step state action) rest

/-- The run without the steps that `idle` marks, each judged at its own state. -/
def withoutIdle (step : σ → α → σ) (idle : σ → α → Bool) : σ → List α → List α
  | _, [] => []
  | state, action :: rest =>
      if idle state action then withoutIdle step idle (step state action) rest
      else action :: withoutIdle step idle (step state action) rest

/-- Deleting steps that change nothing deletes their records and no others: each
step that stays starts in the same state, gives the same output and ends in the
same state. -/
theorem trace_withoutIdle {step : σ → α → σ} {idle : σ → α → Bool} (output : σ → α → β)
    (still : ∀ state action, idle state action = true → step state action = state)
    (start : σ) (actions : List α) :
    trace step output start (withoutIdle step idle start actions) =
      (trace step output start actions).filter
        (fun record => !idle record.before record.action) := by
  induction actions generalizing start with
  | nil => rfl
  | cons action rest ih =>
      cases marked : idle start action with
      | true =>
          have same := still start action marked
          simp only [withoutIdle, trace, marked, if_true, List.filter_cons, Bool.not_true,
            Bool.false_eq_true, if_false, same]
          exact ih start
      | false =>
          simp only [withoutIdle, trace, marked, Bool.false_eq_true, if_false, List.filter_cons,
            Bool.not_false, if_true]
          rw [ih]

end StepMachine

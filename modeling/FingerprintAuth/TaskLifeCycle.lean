/-
The life of a task object, as the log of a run tells it.

A task is created after a successful `acquire`, enabled at most once and first of
all, switched on and off only while it is enabled, disabled exactly once before the
manager lets it go, and left alone from then on. Acquiring and releasing the library
balance against the objects alive.
-/

import FingerprintAuth.ManagerRuns
import FingerprintAuth.Library.SubjectLog
import Mathlib.Data.List.Chain

set_option autoImplicit false

universe u

namespace FingerprintAuth

/-- `abandoned` is a task the manager no longer refers to. -/
inductive TaskStage where
  | unborn
  | created
  | refused
  | enabled
  | disabled
  | abandoned
  | destroyed
deriving DecidableEq, Repr

def TaskStage.next : TaskStage → Event → Option TaskStage
  | .unborn, .created _ => some .created
  | .created, .call _ (.enableSensorIllumination _ _ result) =>
      if result = .success then some .enabled else some .refused
  | .created, .dropped _ => some .abandoned
  | .refused, .dropped _ => some .abandoned
  | .enabled, .call _ (.turnOnSensorIllumination _ _) => some .enabled
  | .enabled, .call _ (.turnOffSensorIllumination _) => some .enabled
  | .enabled, .call _ (.disableSensorIllumination _) => some .disabled
  | .disabled, .dropped _ => some .abandoned
  | .abandoned, .destroyed _ _ => some .destroyed
  | _, _ => none

namespace Event

def about : Event → Option TaskId
  | .acquire _ => none
  | .release => none
  | .created task => some task
  | .call task _ => some task
  | .dropped task => some task
  | .destroyed task _ => some task

def isSuccessfulAcquire : Event → Bool
  | .acquire .success => true
  | _ => false

def isRelease : Event → Bool
  | .release => true
  | _ => false

end Event

def stageAfter (task : TaskId) (log : List Event) : Option TaskStage :=
  SubjectLog.stageFrom Event.about TaskStage.next task .unborn log

/-- A creation comes right after a successful `acquire`. -/
def CreatesOnlyAcquired (earlier later : Event) : Prop :=
  ∀ task, later = .created task → earlier = .acquire .success

namespace SensorIlluminationManager

variable {E : Type u}

/-- The stage of a task as the state shows it. -/
def stageOf (manager : SensorIlluminationManager E) (task : TaskId) : TaskStage :=
  if manager.taskInProc = some task then .enabled
  else if task ∈ manager.tasks.live then .abandoned
  else if task < manager.tasks.next then .destroyed
  else .unborn

structure Recorded (manager : SensorIlluminationManager E) : Prop where
  stages : ∀ task, stageAfter task manager.log = some (manager.stageOf task)
  balance : manager.log.countP Event.isSuccessfulAcquire =
    manager.log.countP Event.isRelease + manager.tasks.live.card
  creations : (Event.release :: manager.log).IsChain CreatesOnlyAcquired

theorem new_recorded : (new : SensorIlluminationManager E).Recorded where
  stages := fun _ => rfl
  balance := rfl
  creations := List.isChain_singleton _

private theorem recorded_extend {manager after : SensorIlluminationManager E} (target : TaskId)
    (more : List Event) (recorded : manager.Recorded) (log : after.log = manager.log ++ more)
    (only : ∀ event, event ∈ more → event.about = none ∨ event.about = some target)
    (others : ∀ task, task ≠ target → after.stageOf task = manager.stageOf task)
    (own : SubjectLog.stageFrom Event.about TaskStage.next target (manager.stageOf target) more =
      some (after.stageOf target))
    (counts : more.countP Event.isSuccessfulAcquire + manager.tasks.live.card =
      more.countP Event.isRelease + after.tasks.live.card)
    (chained : more.IsChain CreatesOnlyAcquired)
    (first : ∀ task, more.head? ≠ some (.created task)) : after.Recorded where
  stages := by
    intro task
    have extended := SubjectLog.stageFrom_extend Event.about TaskStage.next task
      (recorded.stages task) more
    rw [log]
    by_cases same : task = target
    · rw [same] at extended ⊢
      exact extended.trans own
    · rw [others task same]
      refine extended.trans (SubjectLog.stageFrom_of_other _ _ _ _ _ ?_)
      intro event member about
      rcases only event member with nobody | hit
      · rw [nobody] at about
        cases about
      · rw [hit] at about
        exact same (Option.some.inj about).symm
  balance := by
    have before := recorded.balance
    rw [log, List.countP_append, List.countP_append]
    omega
  creations := by
    rw [log, ← List.cons_append]
    apply recorded.creations.append chained
    intro earlier _ later head task created
    rw [created] at head
    exact absurd head (first task)

private theorem recorded_silent {manager after : SensorIlluminationManager E}
    (recorded : manager.Recorded) (log : after.log = manager.log)
    (session : after.taskInProc = manager.taskInProc)
    (live : after.tasks.live = manager.tasks.live) (next : after.tasks.next = manager.tasks.next) :
    after.Recorded where
  stages := by
    intro task
    unfold stageOf
    rw [log, session, live, next]
    exact recorded.stages task
  balance := by
    rw [log, live]
    exact recorded.balance
  creations := by
    rw [log]
    exact recorded.creations

private theorem stageOf_congr {manager after : SensorIlluminationManager E} {task : TaskId}
    (session : after.taskInProc = some task ↔ manager.taskInProc = some task)
    (live : task ∈ after.tasks.live ↔ task ∈ manager.tasks.live)
    (born : task < after.tasks.next ↔ task < manager.tasks.next) :
    after.stageOf task = manager.stageOf task := by
  unfold stageOf
  simp only [session, live, born]

section Reaches

variable {manager : SensorIlluminationManager E} {task : TaskId} {reached : Option TaskStage}

private theorem stageOf_session (session : manager.taskInProc = some task) :
    manager.stageOf task = .enabled :=
  if_pos session

private theorem stageOf_live (elsewhere : manager.taskInProc ≠ some task)
    (live : task ∈ manager.tasks.live) : manager.stageOf task = .abandoned := by
  unfold stageOf
  rw [if_neg elsewhere, if_pos live]

private theorem reaches_session (session : manager.taskInProc = some task)
    (told : reached = some .enabled) : reached = some (manager.stageOf task) := by
  rw [told, stageOf_session session]

private theorem reaches_live (elsewhere : manager.taskInProc ≠ some task)
    (live : task ∈ manager.tasks.live) (told : reached = some .abandoned) :
    reached = some (manager.stageOf task) := by
  rw [told, stageOf_live elsewhere live]

private theorem reaches_dead (elsewhere : manager.taskInProc ≠ some task)
    (dead : task ∉ manager.tasks.live) (born : task < manager.tasks.next)
    (told : reached = some .destroyed) : reached = some (manager.stageOf task) := by
  unfold stageOf
  rw [told, if_neg elsewhere, if_neg dead, if_pos born]

end Reaches

private theorem stageOf_free {manager after : SensorIlluminationManager E} {target task : TaskId}
    (different : task ≠ target)
    (session : after.taskInProc = some task ↔ manager.taskInProc = some task)
    (freed : after.tasks.live = manager.tasks.live.erase target)
    (next : after.tasks.next = manager.tasks.next) :
    after.stageOf task = manager.stageOf task := by
  apply stageOf_congr session
  · rw [freed, Finset.mem_erase]
    exact and_iff_right different
  · rw [next]

private theorem stageOf_next (manager : SensorIlluminationManager E) (inv : manager.Inv) :
    manager.stageOf manager.tasks.next = .unborn := by
  have fresh := manager.tasks.next_notMem_live
  have elsewhere : manager.taskInProc ≠ some manager.tasks.next := fun session =>
    fresh (inv.sessionLive _ session)
  unfold stageOf
  rw [if_neg elsewhere, if_neg fresh, if_neg (Nat.lt_irrefl _)]

private theorem open_recorded (manager after : SensorIlluminationManager E) (executor : E)
    (param : EnableSensorIlluminationParam) (environment : Environment) (result : ResultCode)
    (inv : manager.Inv) (recorded : manager.Recorded)
    (effect : OpenEffect manager executor param environment after result) : after.Recorded := by
  have fresh := manager.tasks.next_notMem_live
  have unborn := manager.stageOf_next inv
  cases effect with
  | busy taken => exact recorded
  | notAcquired vacant closed unaccepted =>
      apply recorded_extend manager.tasks.next [.acquire .generalError] recorded rfl
      · simp [Event.about]
      · intro task _
        rfl
      · rfl
      · rfl
      · exact List.isChain_singleton _
      · simp
  | noTask vacant available unmade unaccepted =>
      apply recorded_extend manager.tasks.next [.acquire .success, .release] recorded rfl
      · simp [Event.about]
      · intro task _
        rfl
      · rfl
      · rfl
      · simp [CreatesOnlyAcquired]
      · simp
  | rejected object calls vacant available made unaccepted sound off nobody asked =>
      have elsewhere : manager.taskInProc ≠ some manager.tasks.next := by
        rw [vacant.2]
        simp
      have dead : manager.tasks.next ∉
          ((manager.tasks.alloc object).free manager.tasks.next).live := by
        rw [ObjectHeap.alloc_free_live]
        exact fresh
      apply recorded_extend manager.tasks.next _ recorded rfl
      · rcases asked with none | ⟨callResult, failed, one⟩
        · simp [none, Event.about]
        · simp [one, Event.about]
      · intro task different
        apply stageOf_congr
        · exact Iff.rfl
        · rw [ObjectHeap.alloc_free_live]
        · rw [ObjectHeap.free_next, ObjectHeap.alloc_next, Nat.lt_succ_iff_lt_or_eq]
          exact or_iff_left different
      · refine reaches_dead elsewhere dead (Nat.lt_succ_self _) ?_
        rw [unborn]
        rcases asked with none | ⟨callResult, failed, one⟩
        · simp [none, SubjectLog.stageFrom, Event.about, TaskStage.next]
        · simp [one, SubjectLog.stageFrom, Event.about, TaskStage.next, failed]
      · rw [ObjectHeap.alloc_free_live]
        rcases asked with none | ⟨callResult, failed, one⟩
        · subst none
          rfl
        · subst one
          rfl
      · rcases asked with none | ⟨callResult, failed, one⟩
        · simp [none, CreatesOnlyAcquired]
        · simp [one, CreatesOnlyAcquired]
      · simp
  | opened object vacant accepted enabled =>
      apply recorded_extend manager.tasks.next _ recorded rfl
      · simp [Event.about]
      · intro task different
        apply stageOf_congr
        · rw [vacant.2]
          simp [Ne.symm different]
        · rw [ObjectHeap.alloc_live, Finset.mem_insert]
          exact or_iff_right different
        · rw [ObjectHeap.alloc_next, Nat.lt_succ_iff_lt_or_eq]
          exact or_iff_left different
      · refine reaches_session rfl ?_
        rw [unborn]
        simp [SubjectLog.stageFrom, Event.about, TaskStage.next]
      · have more := manager.tasks.alloc_card object
        simp only [List.countP_cons, List.countP_nil, Event.isSuccessfulAcquire, Event.isRelease,
          Bool.false_eq_true, if_true, if_false]
        omega
      · simp [CreatesOnlyAcquired]
      · simp

private theorem end_recorded (manager after : SensorIlluminationManager E) (target : TaskId)
    (inv : manager.Inv) (recorded : manager.Recorded)
    (session : manager.taskInProc = some target) (effect : EndEffect manager target after) :
    after.Recorded := by
  have live := inv.sessionLive target session
  have serving := stageOf_session session
  have notOthers : ∀ task, task ≠ target → manager.taskInProc ≠ some task := by
    intro task different
    rw [session]
    intro equal
    exact different (Option.some.inj equal).symm
  cases effect with
  | held holder =>
      apply recorded_extend target _ recorded rfl
      · simp [Event.about]
      · intro task different
        apply stageOf_congr
        · exact iff_of_false (by simp) (notOthers task different)
        · exact Iff.rfl
        · exact Iff.rfl
      · refine reaches_live (Option.some_ne_none _).symm live ?_
        rw [serving]
        simp [SubjectLog.stageFrom, Event.about, TaskStage.next]
      · rfl
      · simp [CreatesOnlyAcquired]
      · simp
  | freed nobody =>
      apply recorded_extend target _ recorded rfl
      · simp [Event.about]
      · intro task different
        exact stageOf_free different (iff_of_false (by simp) (notOthers task different)) rfl rfl
      · refine reaches_dead (Option.some_ne_none _).symm (Finset.notMem_erase target _)
          (manager.tasks.bounded target live) ?_
        rw [serving]
        simp [SubjectLog.stageFrom, Event.about, TaskStage.next]
      · have fewer := manager.tasks.free_card live
        simp only [ObjectHeap.free_live, ObjectHeap.modify_live] at fewer ⊢
        simp only [List.countP_cons, List.countP_nil, Event.isSuccessfulAcquire, Event.isRelease,
          Bool.false_eq_true, if_true, if_false]
        omega
      · simp [CreatesOnlyAcquired]
      · simp

private theorem drop_recorded (manager after : SensorIlluminationManager E) (target : TaskId)
    (timerId : TimerId) (recorded : manager.Recorded)
    (effect : DropEffect manager target timerId after) : after.Recorded := by
  cases effect with
  | elsewhere other => exact recorded
  | kept returned remains => exact recorded_silent recorded rfl rfl rfl rfl
  | last returned live abandoned nobody =>
      apply recorded_extend target _ recorded rfl
      · simp [Event.about]
      · intro task different
        exact stageOf_free different Iff.rfl rfl rfl
      · refine reaches_dead abandoned (Finset.notMem_erase target _)
          (manager.tasks.bounded target live) ?_
        rw [stageOf_live abandoned live]
        simp [SubjectLog.stageFrom, Event.about, TaskStage.next]
      · have fewer := manager.tasks.free_card live
        simp only [ObjectHeap.free_live, ObjectHeap.modify_live] at fewer ⊢
        simp only [List.countP_cons, List.countP_nil, Event.isSuccessfulAcquire, Event.isRelease,
          Bool.false_eq_true, if_true, if_false]
        omega
      · simp [CreatesOnlyAcquired]
      · simp

private theorem turn_recorded (manager after : SensorIlluminationManager E) (target : TaskId)
    (call : TaskCall) (recorded : manager.Recorded) (session : manager.taskInProc = some target)
    (turns : (∃ answer result, call = .turnOnSensorIllumination answer result) ∨
      ∃ result, call = .turnOffSensorIllumination result)
    (log : after.log = manager.log ++ [.call target call])
    (sameSession : after.taskInProc = manager.taskInProc)
    (live : after.tasks.live = manager.tasks.live) (next : after.tasks.next = manager.tasks.next) :
    after.Recorded := by
  have serving := stageOf_session session
  have same : ∀ task, after.stageOf task = manager.stageOf task := by
    intro task
    unfold stageOf
    rw [sameSession, live, next]
  apply recorded_extend target [.call target call] recorded log
  · simp [Event.about]
  · intro task _
    exact same task
  · rw [same, serving]
    rcases turns with ⟨answer, result, as⟩ | ⟨result, as⟩
    · simp [as, SubjectLog.stageFrom, Event.about, TaskStage.next]
    · simp [as, SubjectLog.stageFrom, Event.about, TaskStage.next]
  · rw [live]
    rfl
  · exact List.isChain_singleton _
  · simp

section Runs

variable [DecidableEq E]

theorem step_recorded (manager : SensorIlluminationManager E) (action : ManagerAction E)
    (inv : manager.Inv) (recorded : manager.Recorded) : (manager.step action).Recorded := by
  have effect := manager.step_effect action inv
  generalize manager.step action = after at effect ⊢
  cases effect with
  | idle => exact recorded
  | enable executor command environment _ result named effect =>
      exact open_recorded manager after executor _ environment result inv recorded effect
  | turnOn executor command environment task named owner session =>
      exact turn_recorded manager _ task _ recorded session (Or.inl ⟨_, _, rfl⟩) rfl rfl rfl rfl
  | turnOff executor command environment task named owner session =>
      exact turn_recorded manager _ task _ recorded session (Or.inr ⟨_, rfl⟩) rfl rfl rfl rfl
  | disable executor command environment task _ named owner session effect =>
      exact end_recorded manager after task inv recorded session effect
  | disconnect executor task _ owner session effect =>
      exact end_recorded manager after task inv recorded session effect
  | screen isOn => exact recorded_silent recorded rfl rfl rfl rfl
  | callback _ task taskAction named live => exact recorded_silent recorded rfl rfl rfl rfl
  | expired task timerId dead => exact recorded_silent recorded rfl rfl rfl rfl
  | dropSelf task timerId _ effect => exact drop_recorded manager after task timerId recorded effect

theorem run_recorded (actions : List (ManagerAction E)) :
    (StepMachine.run step (new : SensorIlluminationManager E) actions).Recorded := by
  have both := (StepMachine.run_reachable step new actions).invariant
    (fun manager : SensorIlluminationManager E => manager.Inv ∧ manager.Recorded)
    ⟨new_inv, new_recorded⟩
    (fun manager action good =>
      ⟨step_inv manager action good.1, step_recorded manager action good.1 good.2⟩)
  exact both.2

/-- In every state between two operations each task has come along its stages, each
creation follows a successful `acquire`, and the successful `acquire` calls not yet
released are as many as the tasks alive. -/
theorem life_cycle_and_balance (actions : List (ManagerAction E)) :
    (∀ task, stageAfter task (StepMachine.run step (new : SensorIlluminationManager E) actions).log =
      some ((StepMachine.run step new actions).stageOf task)) ∧
    (∀ before task after,
      (StepMachine.run step (new : SensorIlluminationManager E) actions).log =
        before ++ .created task :: after →
      ∃ earlier, before = earlier ++ [.acquire .success]) ∧
    (StepMachine.run step (new : SensorIlluminationManager E) actions).log.countP
        Event.isSuccessfulAcquire =
      (StepMachine.run step (new : SensorIlluminationManager E) actions).log.countP
          Event.isRelease +
        (StepMachine.run step (new : SensorIlluminationManager E) actions).tasks.live.card := by
  have recorded := run_recorded (E := E) actions
  refine ⟨recorded.stages, ?_, recorded.balance⟩
  intro before task after split
  have creations := recorded.creations
  rw [split, ← List.cons_append] at creations
  have acquired := creations.rel_getLast_head_of_append (by simp) (by simp) task rfl
  rcases List.eq_nil_or_concat before with none | ⟨earlier, last, as⟩
  · subst none
    cases acquired
  · rw [List.concat_eq_append] at as
    subst as
    refine ⟨earlier, ?_⟩
    simp at acquired
    rw [acquired]

end Runs

end SensorIlluminationManager

end FingerprintAuth

/-
The timeout of a light gets there.

While a light is on, its timer comes nearer to taking it off and never falls back: it
is dispatched, it takes hold of the task, it runs. So the light ends in every run in
which the timer's thread has its three turns, whatever falls between them.
-/

import FingerprintAuth.IlluminationSafety
import FingerprintAuth.Library.Milestones

set_option autoImplicit false

universe u

namespace FingerprintAuth

namespace SensorIlluminationTask

def timeoutStage (task : SensorIlluminationTask) (timerId : TimerId) : Nat :=
  match task.timer.status timerId with
  | .dispatched .dispatched => 1
  | .dispatched .holding => 2
  | _ => 0

private theorem timeoutStage_lt (task : SensorIlluminationTask) (timerId : TimerId) :
    task.timeoutStage timerId < 3 := by
  unfold timeoutStage
  split <;> omega

private theorem timeoutStage_congr {first second : SensorIlluminationTask} {timerId : TimerId}
    (same : second.timer.status timerId = first.timer.status timerId) :
    first.timeoutStage timerId ≤ second.timeoutStage timerId := by
  unfold timeoutStage
  rw [same]

theorem timeoutStage_le_step (task : SensorIlluminationTask) (action : TaskAction)
    (timerId : TimerId) (sound : task.Sound) (on : task.isIlluminationOn = true)
    (stays : (task.step action).isIlluminationOn = true) :
    task.timeoutStage timerId ≤ (task.step action).timeoutStage timerId := by
  cases action with
  | turnOnSensorIllumination monitor answer =>
      have effect := turnOnSensorIllumination_effect task monitor answer
      simp only [step]
      generalize (task.turnOnSensorIllumination monitor answer).1 = after at effect ⊢
      generalize (task.turnOnSensorIllumination monitor answer).2 = result at effect
      cases effect with
      | still result reason => exact le_rfl
      | drawFailed drawn drawResult off failed draw => rw [on] at off; cases off
      | noScreen drawn off draw absent => rw [on] at off; cases off
      | lit drawn node screen screenOn off draw nodePresent screenPresent =>
          rw [on] at off
          cases off
  | turnOffSensorIllumination =>
      rw [step, turnOff_isIlluminationOn task sound] at stays
      cases stays
  | disableSensorIllumination monitor =>
      have dark := turnOff_isIlluminationOn task sound
      simp only [step, disableSensorIllumination] at stays
      rw [dark] at stays
      cases stays
  | dispatch target =>
      by_cases same : timerId = target
      · subst same
        simp only [step, dispatchTimer, timeoutStage, OneShotTimer.dispatch_status, if_true]
        cases task.timer.status timerId with
        | idle => exact le_rfl
        | registered => exact Nat.zero_le _
        | dispatched progress => exact le_rfl
      · apply timeoutStage_congr
        simp only [step, dispatchTimer, OneShotTimer.dispatch_status, if_neg same]
  | lockSelf target =>
      simp only [step, lockSelf]
      split
      · rename_i dispatched
        by_cases same : timerId = target
        · subst same
          simp only [timeoutStage, OneShotTimer.advance_status, if_true, dispatched]
          exact Nat.le_succ 1
        · apply timeoutStage_congr
          simp only [OneShotTimer.advance_status, if_neg same]
      · exact le_rfl
  | onDisplayTimeOut target =>
      by_cases holding : task.timer.status target = .dispatched .holding
      · rw [step, runDisplayTimeOut_dark task target sound holding] at stays
        cases stays
      · rw [step, runDisplayTimeOut_of_not_holding task target holding]
  | dropSelf target =>
      simp only [step, dropSelf]
      split
      · rename_i returned
        by_cases same : timerId = target
        · subst same
          simp only [timeoutStage, OneShotTimer.retire_status, if_true, returned]
          exact Nat.zero_le _
        · apply timeoutStage_congr
          simp only [OneShotTimer.retire_status, if_neg same]
      · exact le_rfl

section Turns

variable {task : SensorIlluminationTask} {timerId : TimerId}

private theorem dispatchTimer_stage (awaited : task.Awaited timerId) :
    1 ≤ (task.dispatchTimer timerId).timeoutStage timerId := by
  simp only [timeoutStage, dispatchTimer, OneShotTimer.dispatch_status, if_true]
  rcases awaited with registered | running
  · rw [registered]
    exact le_rfl
  · cases status : task.timer.status timerId with
    | idle => rw [status] at running; cases running
    | registered => exact le_rfl
    | dispatched progress =>
        cases progress with
        | dispatched => exact le_rfl
        | holding => exact Nat.le_succ 1
        | returned => rw [status] at running; cases running

private theorem lockSelf_stage (behind : 1 ≤ task.timeoutStage timerId) :
    2 ≤ (task.lockSelf timerId).timeoutStage timerId := by
  by_cases dispatched : task.timer.status timerId = .dispatched .dispatched
  · simp only [lockSelf, timeoutStage, OneShotTimer.advance_status, if_true,
      dispatched]
    exact le_rfl
  · rw [lockSelf, if_neg dispatched]
    unfold timeoutStage at behind ⊢
    split at behind
    · contradiction
    · exact le_rfl
    · omega

private theorem holding_of_stage (behind : 2 ≤ task.timeoutStage timerId) :
    task.timer.status timerId = .dispatched .holding := by
  unfold timeoutStage at behind
  split at behind
  · omega
  · assumption
  · omega

end Turns

end SensorIlluminationTask

namespace SensorIlluminationManager

variable {E : Type u} [DecidableEq E]

/-- The task is lit and `timerId` is to take its light off. -/
def LitFor (task : TaskId) (timerId : TimerId) (manager : SensorIlluminationManager E) : Prop :=
  (manager.tasks.value task).isIlluminationOn = true ∧
    (manager.tasks.value task).currTimerId = timerId

def timeoutOf (task : TaskId) (timerId : TimerId) : List (ManagerAction E) :=
  [.dispatch task timerId, .lockSelf task timerId, .onDisplayTimeOut task timerId]

private theorem stage_le_step (manager : SensorIlluminationManager E) (action : ManagerAction E)
    (task : TaskId) (timerId : TimerId) (inv : manager.Inv) (lit : manager.LitFor task timerId)
    (stays : (manager.step action).LitFor task timerId) :
    (manager.tasks.value task).timeoutStage timerId ≤
      ((manager.step action).tasks.value task).timeoutStage timerId := by
  rcases step_lit manager action inv task stays.1 with same | ⟨taskAction, changed, _⟩
  · rw [same]
  · have staysOn := stays.1
    rw [changed] at staysOn ⊢
    exact SensorIlluminationTask.timeoutStage_le_step _ taskAction timerId (inv.sound task) lit.1
      staysOn

private theorem timeout_milestones (task : TaskId) (timerId : TimerId) :
    StepMachine.Milestones (step (E := E)) Inv (LitFor task timerId)
      (fun manager => (manager.tasks.value task).timeoutStage timerId)
      (timeoutOf task timerId) where
  soundKept := step_inv
  kept := fun manager action inv lit stays =>
    stage_le_step manager action task timerId inv lit stays
  lifted := by
    intro manager action k found inv lit stays behind
    -- a lit task is alive, so the turns of its timer's thread reach it
    have live := inv.sessionLive task (inv.session_of_lit lit.1)
    match k, found with
    | 0, found =>
        cases found
        have awaited := (inv.sound task).awaited lit.1
        rw [lit.2] at awaited
        simp only [step, dispatchTimer, if_pos live, onTask, ObjectHeap.modify_value, if_true]
        exact SensorIlluminationTask.dispatchTimer_stage awaited
    | 1, found =>
        cases found
        simp only [step, lockSelf, if_pos live, onTask, ObjectHeap.modify_value, if_true]
        exact SensorIlluminationTask.lockSelf_stage behind
    | 2, found =>
        cases found
        have holding := SensorIlluminationTask.holding_of_stage behind
        have dark := SensorIlluminationTask.runDisplayTimeOut_dark _ timerId (inv.sound task) holding
        have stillOn := stays.1
        simp only [step, onDisplayTimeOut, onTask, ObjectHeap.modify_value, if_true] at stillOn
        rw [dark] at stillOn
        cases stillOn
  ahead := fun manager _ _ => SensorIlluminationTask.timeoutStage_lt _ timerId

/-- However a light came on and whatever happens meanwhile, it has been off by the time
that its timer's thread has had its turns. -/
theorem light_ends (before later : List (ManagerAction E)) (task : TaskId)
    (turns : (timeoutOf task
      ((StepMachine.run step (new : SensorIlluminationManager E) before).tasks.value
        task).currTimerId).Sublist later) :
    ∃ first rest, later = first ++ rest ∧
      ((StepMachine.run step new (before ++ first)).tasks.value task).isIlluminationOn = false := by
  have inv := run_inv (E := E) before
  by_contra never
  have lit : ∀ first rest, later = first ++ rest →
      ((StepMachine.run step new (before ++ first)).tasks.value task).isIlluminationOn = true := by
    intro first rest split
    rw [← Bool.not_eq_false]
    intro off
    exact never ⟨first, rest, split, off⟩
  obtain ⟨first, rest, split, left⟩ := (timeout_milestones task _).leaves inv turns
  apply left
  rw [← StepMachine.run_append]
  refine ⟨lit first rest split, ?_⟩
  have always : StepMachine.Always step
      (fun manager : SensorIlluminationManager E =>
        (manager.tasks.value task).isIlluminationOn = true)
      (StepMachine.run step new before) first := by
    rw [StepMachine.always_iff_cut]
    intro part more cut
    rw [← StepMachine.run_append]
    exact lit part (more ++ rest) (by rw [split, cut, List.append_assoc])
  rw [StepMachine.run_append]
  exact (run_keeps_timer _ first inv task always).1

/-- Another `TURN_ON` in between does not win the light more time. -/
theorem light_ends_despite_turnOn :
    ∃ first rest,
      (.dispatch 0 1 :: commanded .turnOnSensorIllumination :: .lockSelf 0 1 ::
        commanded .turnOnSensorIllumination :: [.onDisplayTimeOut 0 1] :
          List (ManagerAction Nat)) = first ++ rest ∧
      ((StepMachine.run step new ([commanded .enableSensorIllumination,
        commanded .turnOnSensorIllumination] ++ first)).tasks.value 0).isIlluminationOn = false := by
  refine light_ends [commanded .enableSensorIllumination, commanded .turnOnSensorIllumination] _ 0 ?_
  have current : ((StepMachine.run step (new : SensorIlluminationManager Nat)
      [commanded .enableSensorIllumination, commanded .turnOnSensorIllumination]).tasks.value
        0).currTimerId = 1 := by decide
  rw [current, timeoutOf]
  refine .cons_cons _ (.cons _ (.cons_cons _ (.cons _ (.cons_cons _ .slnil))))

end SensorIlluminationManager

end FingerprintAuth

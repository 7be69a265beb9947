/-
Which steps change whether a callback holds a reference to its task. Only locking
the weak pointer takes one and only the callback's return lets one go; whatever the
manager does to the task leaves the callbacks' references alone.
-/

import FingerprintAuth.TaskRuns

set_option autoImplicit false

namespace FingerprintAuth

namespace SensorIlluminationTask

def Holds (task : SensorIlluminationTask) (timerId : TimerId) : Prop :=
  (task.timer.status timerId).running CallbackProgress.holdsReference = true

theorem hasHolder_iff (task : SensorIlluminationTask) :
    task.hasHolder = true ↔ ∃ timerId, task.Holds timerId :=
  task.timer.anyRunning_iff CallbackProgress.holdsReference

theorem hasHolder_congr {first second : SensorIlluminationTask}
    (same : ∀ timerId, first.Holds timerId ↔ second.Holds timerId) :
    first.hasHolder = second.hasHolder := by
  rw [Bool.eq_iff_iff, hasHolder_iff, hasHolder_iff]
  exact exists_congr same

theorem holds_unregister (task : SensorIlluminationTask) (target timerId : TimerId) :
    ((task.timer.unregister target).status timerId).running CallbackProgress.holdsReference =
      (task.timer.status timerId).running CallbackProgress.holdsReference := by
  rw [OneShotTimer.unregister_status]
  split
  · exact TimerStatus.running_cancel _ _
  · rfl

theorem turnOff_holds (task : SensorIlluminationTask) (timerId : TimerId) :
    task.turnOffSensorIllumination.1.Holds timerId ↔ task.Holds timerId := by
  have effect := turnOffSensorIllumination_effect task
  generalize task.turnOffSensorIllumination.1 = after at effect ⊢
  generalize task.turnOffSensorIllumination.2 = result at effect
  cases effect with
  | still result reason => exact Iff.rfl
  | noScreen on absent =>
      unfold Holds
      rw [holds_unregister task task.currTimerId timerId]
  | dark node screen on nodePresent screenPresent =>
      unfold Holds
      rw [holds_unregister task task.currTimerId timerId]

theorem turnOff_hasHolder (task : SensorIlluminationTask) :
    task.turnOffSensorIllumination.1.hasHolder = task.hasHolder :=
  hasHolder_congr (turnOff_holds task)

theorem disable_hasHolder (task : SensorIlluminationTask) (monitor : ScreenStateMonitor) :
    (task.disableSensorIllumination monitor).1.hasHolder = task.hasHolder :=
  turnOff_hasHolder task

theorem enable_keeps (task : SensorIlluminationTask) (centerX centerY radius color : UInt32)
    (answer : EnableAnswer) :
    (task.enableSensorIllumination centerX centerY radius color answer).1.timer = task.timer ∧
      (task.enableSensorIllumination centerX centerY radius color answer).1.destructCallback =
        task.destructCallback := by
  have effect := enableSensorIllumination_effect task centerX centerY radius color answer
  generalize (task.enableSensorIllumination centerX centerY radius color answer).1 = after
    at effect ⊢
  generalize (task.enableSensorIllumination centerX centerY radius color answer).2 = result
    at effect
  cases effect with
  | refused createdNodes => exact ⟨rfl, rfl⟩
  | drawn display centerXInPx centerYInPx prepared final drawResult director shown convertedX
      convertedY preparedAs draw =>
      rw [draw.frame, preparedAs]
      exact ⟨rfl, rfl⟩

theorem dispatchTimer_hasHolder (task : SensorIlluminationTask) (target : TimerId) :
    (task.dispatchTimer target).hasHolder = task.hasHolder := by
  apply hasHolder_congr
  intro timerId
  unfold Holds dispatchTimer
  simp only [OneShotTimer.dispatch_status]
  split
  · cases task.timer.status timerId with
    | idle => exact Iff.rfl
    | registered => exact Iff.rfl
    | dispatched progress => exact Iff.rfl
  · exact Iff.rfl

theorem holds_of_holding (task : SensorIlluminationTask) (timerId : TimerId)
    (holding : task.timer.status timerId = .dispatched .holding) : task.Holds timerId := by
  unfold Holds
  rw [holding]
  rfl

theorem runDisplayTimeOut_returned (task : SensorIlluminationTask) (timerId : TimerId)
    (holds : task.Holds timerId) :
    (task.runDisplayTimeOut timerId).timer.status timerId = .dispatched .returned := by
  unfold runDisplayTimeOut
  split
  · have still : task.onDisplayTimeOut.Holds timerId := (turnOff_holds task timerId).mpr holds
    unfold Holds at still
    simp only [OneShotTimer.advance_status, if_true]
    cases status : task.onDisplayTimeOut.timer.status timerId with
    | idle => rw [status] at still; cases still
    | registered => rw [status] at still; cases still
    | dispatched progress => rfl
  · rename_i elsewhere
    unfold Holds at holds
    cases status : task.timer.status timerId with
    | idle => rw [status] at holds; cases holds
    | registered => rw [status] at holds; cases holds
    | dispatched progress =>
        cases progress with
        | dispatched => rw [status] at holds; cases holds
        | holding => exact absurd status elsewhere
        | returned => rfl

theorem runDisplayTimeOut_holds (task : SensorIlluminationTask) (target timerId : TimerId) :
    (task.runDisplayTimeOut target).Holds timerId ↔ task.Holds timerId := by
  by_cases same : timerId = target
  · subst same
    constructor
    · intro after
      apply Classical.byContradiction
      intro before
      have elsewhere : task.timer.status timerId ≠ .dispatched .holding := fun holding =>
        before (holds_of_holding task timerId holding)
      rw [runDisplayTimeOut_of_not_holding task timerId elsewhere] at after
      exact before after
    · intro before
      unfold Holds
      rw [runDisplayTimeOut_returned task timerId before]
      rfl
  · unfold runDisplayTimeOut
    split
    · refine Iff.trans ?_ (turnOff_holds task timerId)
      unfold Holds
      simp only [OneShotTimer.advance_status, if_neg same]
      exact Iff.rfl
    · exact Iff.rfl

theorem runDisplayTimeOut_hasHolder (task : SensorIlluminationTask) (target : TimerId) :
    (task.runDisplayTimeOut target).hasHolder = task.hasHolder :=
  hasHolder_congr (runDisplayTimeOut_holds task target)

theorem stopTimer_holds (task : SensorIlluminationTask) (timerId : TimerId) :
    task.stopTimer.Holds timerId ↔ task.Holds timerId := by
  unfold Holds stopTimer
  simp only [OneShotTimer.shutdown_status, TimerStatus.running_cancel]
  rw [holds_unregister task task.currTimerId timerId]

theorem stopTimer_hasHolder (task : SensorIlluminationTask) :
    task.stopTimer.hasHolder = task.hasHolder :=
  hasHolder_congr (stopTimer_holds task)

/-- Locking takes a reference and lets none go. -/
theorem lockSelf_hasHolder (task : SensorIlluminationTask) (target : TimerId)
    (holder : task.hasHolder = true) : (task.lockSelf target).hasHolder = true := by
  rw [hasHolder_iff] at holder ⊢
  obtain ⟨timerId, holds⟩ := holder
  refine ⟨timerId, ?_⟩
  unfold lockSelf
  split
  · unfold Holds at holds ⊢
    simp only [OneShotTimer.advance_status]
    split
    · rename_i dispatched same
      rw [same, dispatched]
      rfl
    · exact holds
  · exact holds

theorem holds_of_dropSelf (task : SensorIlluminationTask) (target timerId : TimerId)
    (holds : (task.dropSelf target).Holds timerId) : task.Holds timerId := by
  unfold dropSelf at holds
  split at holds
  · exact task.timer.running_of_retire holds
  · exact holds

theorem dropSelf_own (task : SensorIlluminationTask) (timerId : TimerId)
    (returned : task.timer.status timerId = .dispatched .returned) :
    ¬(task.dropSelf timerId).Holds timerId := by
  unfold dropSelf Holds
  rw [if_pos returned]
  simp only [OneShotTimer.retire_status, if_true, TimerStatus.running_retire, Bool.false_eq_true,
    not_false_eq_true]

/-! ### The rest of the object -/

theorem stopTimer_sound (task : SensorIlluminationTask) (sound : task.Sound)
    (off : task.isIlluminationOn = false) : task.stopTimer.Sound := by
  refine sound_of_timer task (task.timer.unregister task.currTimerId).shutdown sound rfl ?_ ?_
  · intro timerId registered
    rw [OneShotTimer.shutdown_status] at registered
    exact absurd registered (TimerStatus.cancel_ne_registered _)
  · intro on
    rw [off] at on
    cases on

theorem turnOff_destructCallback (task : SensorIlluminationTask) :
    task.turnOffSensorIllumination.1.destructCallback = task.destructCallback := by
  have effect := turnOffSensorIllumination_effect task
  generalize task.turnOffSensorIllumination.1 = after at effect ⊢
  generalize task.turnOffSensorIllumination.2 = result at effect
  cases effect <;> rfl

theorem step_destructCallback (task : SensorIlluminationTask) (action : TaskAction) :
    (task.step action).destructCallback = task.destructCallback := by
  cases action with
  | turnOnSensorIllumination monitor answer =>
      have effect := turnOnSensorIllumination_effect task monitor answer
      simp only [step]
      generalize (task.turnOnSensorIllumination monitor answer).1 = after at effect ⊢
      generalize (task.turnOnSensorIllumination monitor answer).2 = result at effect
      cases effect with
      | still result reason => rfl
      | drawFailed drawn drawResult off failed draw => rw [draw.frame]
      | noScreen drawn off draw absent =>
          simp only
          rw [draw.frame]
      | lit drawn node screen screenOn off draw nodePresent screenPresent =>
          simp only
          rw [draw.frame]
  | turnOffSensorIllumination => exact turnOff_destructCallback task
  | disableSensorIllumination monitor => exact turnOff_destructCallback task
  | dispatch timerId => rfl
  | lockSelf timerId =>
      simp only [step, lockSelf]
      split <;> rfl
  | onDisplayTimeOut timerId =>
      simp only [step, runDisplayTimeOut]
      split
      · exact turnOff_destructCallback task
      · rfl
  | dropSelf timerId =>
      simp only [step, dropSelf]
      split <;> rfl

end SensorIlluminationTask

end FingerprintAuth

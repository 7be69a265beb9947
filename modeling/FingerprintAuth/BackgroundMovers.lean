/-
Steps outside the manager's calls, and what they can be moved past.

A screen event or a callback's step reads and writes one task's timer, the light it
takes off, and the screen monitor. So it can be moved past the sections of a command
that concern another task, and, while the session still refers to its task, past the
section that disables it. The manager's log is left out: it is the one thing in which
the order of such steps shows.
-/

import FingerprintAuth.CommandProgress

set_option autoImplicit false

universe u

namespace FingerprintAuth

namespace SensorIlluminationManager

variable {E : Type u}

/-! ### Managers up to their logs -/

/-- The manager as the source has it, without the log. -/
def quiet (manager : SensorIlluminationManager E) : SensorIlluminationManager E :=
  { manager with log := [] }

theorem eq_of_quiet {first second : SensorIlluminationManager E}
    (same : first.quiet = second.quiet) : second = { first with log := second.log } := by
  obtain ⟨executor, task, serviceEx, monitor, tasks, log⟩ := first
  obtain ⟨executor', task', serviceEx', monitor', tasks', log'⟩ := second
  simp only [quiet, mk.injEq] at same
  obtain ⟨rfl, rfl, rfl, rfl, rfl, _⟩ := same
  rfl

@[simp]
theorem record_quiet (manager : SensorIlluminationManager E) (event : Event) :
    (manager.record event).quiet = manager.quiet := rfl

theorem destroy_quiet (manager : SensorIlluminationManager E) (task : TaskId) (thread : Thread) :
    (manager.destroy task thread).quiet =
      { manager.quiet with
        monitor := manager.monitor.unsubscribe
        tasks := (manager.tasks.modify task SensorIlluminationTask.stopTimer).free task } := by
  unfold destroy
  simp only
  split <;> rfl

theorem releaseReference_quiet (manager : SensorIlluminationManager E) (task : TaskId)
    (thread : Thread) :
    (manager.releaseReference task thread).quiet =
      if task ∈ manager.tasks.live ∧ manager.isReferenced task = false then
        { manager.quiet with
          monitor := manager.monitor.unsubscribe
          tasks := (manager.tasks.modify task SensorIlluminationTask.stopTimer).free task }
      else manager.quiet := by
  unfold releaseReference
  split
  · exact destroy_quiet manager task thread
  · rfl

theorem dropReference_quiet (manager : SensorIlluminationManager E) (task : TaskId) :
    (manager.dropReference task).quiet =
      if manager.taskInProc ≠ some task ∧ task ∈ manager.tasks.live ∧
          (manager.tasks.value task).hasHolder = false then
        { manager.quiet with
          monitor := manager.monitor.unsubscribe
          tasks := (manager.tasks.modify task SensorIlluminationTask.stopTimer).free task }
      else manager.quiet := by
  unfold dropReference
  by_cases session : manager.taskInProc = some task
  · rw [if_pos session, if_neg (fun all => all.1 session)]
  · rw [if_neg session, releaseReference_quiet]
    have referenced : (manager.record (.dropped task)).isReferenced task =
        (manager.tasks.value task).hasHolder := by
      simp [isReferenced, record, session]
    rw [referenced]
    simp only [record, ne_eq, session, not_false_eq_true, true_and]
    rfl

/-! ### Steps between the sections of a command -/

def lastReference (session : Option TaskId) (tasks : ObjectHeap SensorIlluminationTask)
    (task : TaskId) (timerId : TimerId) : Prop :=
  task ∈ tasks.live ∧ session ≠ some task ∧
    ((tasks.value task).dropSelf timerId).hasHolder = false

instance (session : Option TaskId) (tasks : ObjectHeap SensorIlluminationTask) (task : TaskId)
    (timerId : TimerId) : Decidable (lastReference session tasks task timerId) :=
  inferInstanceAs (Decidable (_ ∧ _ ∧ _))

def tasksAfter (session : Option TaskId) (tasks : ObjectHeap SensorIlluminationTask) :
    ManagerAction E → ObjectHeap SensorIlluminationTask
  | .dispatch task timerId =>
      if task ∈ tasks.live then tasks.modify task (fun object => object.dispatchTimer timerId)
      else tasks
  | .lockSelf task timerId =>
      if task ∈ tasks.live then tasks.modify task (fun object => object.lockSelf timerId)
      else tasks.modify task (fun object => { object with timer := object.timer.retire timerId })
  | .onDisplayTimeOut task timerId =>
      tasks.modify task (fun object => object.runDisplayTimeOut timerId)
  | .dropSelf task timerId =>
      if (tasks.value task).timer.status timerId = .dispatched .returned then
        if lastReference session tasks task timerId then
          (tasks.modify task (fun object => (object.dropSelf timerId).stopTimer)).free task
        else tasks.modify task (fun object => object.dropSelf timerId)
      else tasks
  | _ => tasks

def monitorAfter (session : Option TaskId) (tasks : ObjectHeap SensorIlluminationTask)
    (monitor : ScreenStateMonitor) : ManagerAction E → ScreenStateMonitor
  | .setScreenOn isOn => monitor.setScreenOn isOn
  | .dropSelf task timerId =>
      if (tasks.value task).timer.status timerId = .dispatched .returned ∧
          lastReference session tasks task timerId then monitor.unsubscribe
      else monitor
  | _ => monitor

variable [DecidableEq E]

theorem background_quiet (manager : SensorIlluminationManager E) (action : ManagerAction E)
    (background : action.isCall = false) :
    (manager.step action).quiet =
      { manager.quiet with
        monitor := monitorAfter manager.taskInProc manager.tasks manager.monitor action
        tasks := tasksAfter manager.taskInProc manager.tasks action } := by
  cases action with
  | processSaCommand executor command environment => cases background
  | onHdiDisconnect executor => cases background
  | setScreenOn isOn => rfl
  | dispatch task timerId =>
      simp only [step, dispatchTimer, tasksAfter, monitorAfter]
      split <;> rfl
  | lockSelf task timerId =>
      simp only [step, lockSelf, tasksAfter, monitorAfter]
      split <;> rfl
  | onDisplayTimeOut task timerId => rfl
  | dropSelf task timerId =>
      simp only [step, dropSelf, tasksAfter, monitorAfter]
      by_cases returned : (manager.tasks.value task).timer.status timerId = .dispatched .returned
      · simp only [returned, true_and, if_true]
        rw [releaseReference_quiet]
        have last : (task ∈ (manager.onTask task
              (fun object => object.dropSelf timerId)).tasks.live ∧
            (manager.onTask task (fun object => object.dropSelf timerId)).isReferenced task =
              false) ↔ lastReference manager.taskInProc manager.tasks task timerId := by
          simp [onTask, isReferenced, lastReference]
        by_cases none_ : lastReference manager.taskInProc manager.tasks task timerId
        · rw [if_pos (last.mpr none_), if_pos none_, if_pos none_]
          simp only [onTask, quiet, ObjectHeap.modify_modify]
        · rw [if_neg (fun all => none_ (last.mp all)), if_neg none_, if_neg none_]
          rfl
      · simp only [returned, false_and, if_false]
        rfl

theorem background_congr {first second : SensorIlluminationManager E}
    (same : first.quiet = second.quiet) (action : ManagerAction E)
    (background : action.isCall = false) :
    (first.step action).quiet = (second.step action).quiet := by
  rw [background_quiet first action background, background_quiet second action background]
  rw [eq_of_quiet same]
  rfl

theorem background_keeps (manager : SensorIlluminationManager E) (action : ManagerAction E)
    (background : action.isCall = false) :
    (manager.step action).executorInProc = manager.executorInProc ∧
      (manager.step action).taskInProc = manager.taskInProc ∧
      (manager.step action).serviceEx = manager.serviceEx := by
  have same := background_quiet manager action background
  have executor := congrArg executorInProc same
  have task := congrArg taskInProc same
  have library := congrArg serviceEx same
  exact ⟨executor, task, library⟩

end SensorIlluminationManager

/-! ### Disabling and the callbacks of the same task -/

namespace SensorIlluminationTask

/-- The task as `disableSensorIllumination` leaves it. -/
def disabled (task : SensorIlluminationTask) : SensorIlluminationTask :=
  (task.disableSensorIllumination {}).1

theorem disableSensorIllumination_eq_disabled (task : SensorIlluminationTask)
    (monitor : ScreenStateMonitor) :
    (task.disableSensorIllumination monitor).1 = task.disabled := rfl

theorem turnOff_of_lit (task : SensorIlluminationTask) (sound : task.Sound)
    (on : task.isIlluminationOn = true) :
    task.turnOffSensorIllumination.1 =
      { task with
        timer := task.timer.unregister task.currTimerId
        attached := []
        isIlluminationOn := false } := by
  obtain ⟨node, screen, nodePresent, screenPresent, attached⟩ := sound.lit on
  simp only [turnOffSensorIllumination, nodePresent, on, Bool.true_eq_false, if_false,
    screenPresent, detachToDisplay, attached]
  simp

theorem turnOff_of_dark (task : SensorIlluminationTask) (off : task.isIlluminationOn = false) :
    task.turnOffSensorIllumination.1 = task := by
  unfold turnOffSensorIllumination
  split
  · rfl
  · rw [if_pos off]

theorem disabled_of_lit (task : SensorIlluminationTask) (sound : task.Sound)
    (on : task.isIlluminationOn = true) :
    task.disabled =
      { task with
        rsSurfaceNode := none
        timer := task.timer.unregister task.currTimerId
        attached := []
        isIlluminationOn := false } := by
  simp only [disabled, disableSensorIllumination, turnOff_of_lit task sound on]

theorem disabled_of_dark (task : SensorIlluminationTask) (off : task.isIlluminationOn = false) :
    task.disabled = { task with rsSurfaceNode := none } := by
  simp only [disabled, disableSensorIllumination, turnOff_of_dark task off]

theorem disabled_dispatched_iff (task : SensorIlluminationTask) (sound : task.Sound)
    (timerId : TimerId) (progress : CallbackProgress) :
    task.disabled.timer.status timerId = .dispatched progress ↔
      task.timer.status timerId = .dispatched progress := by
  cases light : task.isIlluminationOn with
  | false => rw [disabled_of_dark task light]
  | true =>
      rw [disabled_of_lit task sound light]
      simp only [OneShotTimer.unregister_status]
      split
      · cases task.timer.status timerId <;> simp [TimerStatus.cancel]
      · rfl

theorem disabled_dispatchTimer (task : SensorIlluminationTask) (sound : task.Sound)
    (timerId : TimerId) (registered : task.disabled.timer.status timerId = .registered) :
    task.disabled.dispatchTimer timerId = (task.dispatchTimer timerId).disabled := by
  cases light : task.isIlluminationOn with
  | false =>
      rw [disabled_of_dark task light, disabled_of_dark (task.dispatchTimer timerId) light]
      rfl
  | true =>
      have after := dispatchTimer_sound task timerId sound
      rw [disabled_of_lit task sound light] at registered ⊢
      rw [disabled_of_lit (task.dispatchTimer timerId) after light]
      simp only [dispatchTimer]
      rw [OneShotTimer.unregister_dispatch _ _ _ _ registered]

private theorem disabled_timer (task : SensorIlluminationTask) (sound : task.Sound)
    (change : OneShotTimer CallbackProgress → OneShotTimer CallbackProgress)
    (after : ({ task with timer := change task.timer } : SensorIlluminationTask).Sound)
    (commutes : change (task.timer.unregister task.currTimerId) =
      (change task.timer).unregister task.currTimerId) :
    { task.disabled with timer := change task.disabled.timer } =
      ({ task with timer := change task.timer } : SensorIlluminationTask).disabled := by
  rcases Bool.eq_false_or_eq_true task.isIlluminationOn with on | off
  · rw [disabled_of_lit task sound on, disabled_of_lit _ after on]
    simp only [commutes]
  · rw [disabled_of_dark task off, disabled_of_dark { task with timer := change task.timer } off]

theorem disabled_lockSelf (task : SensorIlluminationTask) (sound : task.Sound)
    (timerId : TimerId) : task.disabled.lockSelf timerId = (task.lockSelf timerId).disabled := by
  have after := lockSelf_sound task timerId sound
  unfold lockSelf at after ⊢
  simp only [disabled_dispatched_iff task sound]
  split
  · rename_i dispatched
    rw [if_pos dispatched] at after
    exact disabled_timer task sound (fun timer => timer.advance timerId .holding) after
      (OneShotTimer.unregister_advance ..)
  · rfl

theorem disabled_dropSelf (task : SensorIlluminationTask) (sound : task.Sound)
    (timerId : TimerId) : task.disabled.dropSelf timerId = (task.dropSelf timerId).disabled := by
  have after := dropSelf_sound task timerId sound
  unfold dropSelf at after ⊢
  simp only [disabled_dispatched_iff task sound]
  split
  · rename_i returned
    rw [if_pos returned] at after
    exact disabled_timer task sound (fun timer => timer.retire timerId) after
      (OneShotTimer.unregister_retire ..)
  · rfl

/-- A callback that finds the node gone has nothing to switch off; one that comes
first has left nothing to switch off. -/
theorem disabled_runDisplayTimeOut (task : SensorIlluminationTask) (sound : task.Sound)
    (timerId : TimerId) :
    task.disabled.runDisplayTimeOut timerId = (task.runDisplayTimeOut timerId).disabled := by
  unfold runDisplayTimeOut onDisplayTimeOut
  simp only [disabled_dispatched_iff task sound]
  split
  · rcases Bool.eq_false_or_eq_true task.isIlluminationOn with on | off
    · have still : task.disabled.turnOffSensorIllumination.1 = task.disabled :=
        turnOff_of_dark _ (by rw [disabled_of_lit task sound on])
      simp only [still, turnOff_of_lit task sound on]
      rw [disabled_of_lit task sound on, disabled_of_dark _ rfl]
    · have still : task.disabled.turnOffSensorIllumination.1 = task.disabled :=
        turnOff_of_dark _ (by rw [disabled_of_dark task off]; exact off)
      simp only [still, turnOff_of_dark task off]
      rw [disabled_of_dark task off,
        disabled_of_dark { task with timer := task.timer.advance timerId .returned } off]
  · rfl

end SensorIlluminationTask

/-! ### Sections of a command and the steps between them -/

def ManagerAction.callbackOf {E : Type u} : ManagerAction E → Option TaskId
  | .dispatch task _ => some task
  | .lockSelf task _ => some task
  | .onDisplayTimeOut task _ => some task
  | .dropSelf task _ => some task
  | _ => none

namespace SensorIlluminationManager

variable {E : Type u}

section Elsewhere

variable (session seated : Option TaskId) (tasks : ObjectHeap SensorIlluminationTask)
  (task : TaskId) (action : ManagerAction E)

private theorem lastReference_elsewhere (changed : ObjectHeap SensorIlluminationTask)
    {other : TaskId} (timerId : TimerId) (different : other ≠ task)
    (sessions : ∀ other, other ≠ task → (seated = some other ↔ session = some other))
    (sameValue : changed.value other = tasks.value other)
    (sameLive : other ∈ changed.live ↔ other ∈ tasks.live) :
    lastReference seated changed other timerId ↔ lastReference session tasks other timerId := by
  unfold lastReference
  rw [sameValue, sameLive, ne_eq, ne_eq, sessions other different]

theorem tasksAfter_modify (change : SensorIlluminationTask → SensorIlluminationTask)
    (elsewhere : action.callbackOf ≠ some task)
    (sessions : ∀ other, other ≠ task → (seated = some other ↔ session = some other)) :
    tasksAfter seated (tasks.modify task change) action =
      (tasksAfter session tasks action).modify task change := by
  cases action with
  | processSaCommand executor command environment => rfl
  | onHdiDisconnect executor => rfl
  | setScreenOn isOn => rfl
  | dispatch other timerId =>
      have different : other ≠ task := fun same => elsewhere (congrArg some same)
      simp only [tasksAfter]
      by_cases live : other ∈ tasks.live
      · rw [if_pos live, if_pos (by exact live)]
        exact tasks.modify_comm different.symm _ _
      · rw [if_neg live, if_neg (by exact live)]
  | lockSelf other timerId =>
      have different : other ≠ task := fun same => elsewhere (congrArg some same)
      simp only [tasksAfter]
      by_cases live : other ∈ tasks.live
      · rw [if_pos live, if_pos (by exact live)]
        exact tasks.modify_comm different.symm _ _
      · rw [if_neg live, if_neg (by exact live)]
        exact tasks.modify_comm different.symm _ _
  | onDisplayTimeOut other timerId =>
      have different : other ≠ task := fun same => elsewhere (congrArg some same)
      simp only [tasksAfter]
      exact tasks.modify_comm different.symm _ _
  | dropSelf other timerId =>
      have different : other ≠ task := fun same => elsewhere (congrArg some same)
      have value : (tasks.modify task change).value other = tasks.value other := if_neg different
      have last := lastReference_elsewhere session seated tasks task (tasks.modify task change)
        timerId different sessions value Iff.rfl
      simp only [tasksAfter, value, last]
      split
      · split
        · rw [tasks.modify_comm different.symm, ObjectHeap.modify_free]
        · exact tasks.modify_comm different.symm _ _
      · rfl

theorem tasksAfter_seated (elsewhere : action.callbackOf ≠ some task)
    (sessions : ∀ other, other ≠ task → (seated = some other ↔ session = some other)) :
    tasksAfter seated tasks action = tasksAfter session tasks action := by
  have moved := tasksAfter_modify session seated tasks task action id elsewhere sessions
  rw [tasks.modify_same task id rfl, ObjectHeap.modify_same _ task id rfl] at moved
  exact moved

theorem tasksAfter_value (elsewhere : action.callbackOf ≠ some task) :
    (tasksAfter session tasks action).value task = tasks.value task ∧
      (task ∈ (tasksAfter session tasks action).live ↔ task ∈ tasks.live) := by
  cases action with
  | processSaCommand executor command environment => exact ⟨rfl, Iff.rfl⟩
  | onHdiDisconnect executor => exact ⟨rfl, Iff.rfl⟩
  | setScreenOn isOn => exact ⟨rfl, Iff.rfl⟩
  | dispatch other timerId =>
      have different : task ≠ other := fun same => elsewhere (congrArg some same.symm)
      simp only [tasksAfter]
      split
      · exact ⟨if_neg different, Iff.rfl⟩
      · exact ⟨rfl, Iff.rfl⟩
  | lockSelf other timerId =>
      have different : task ≠ other := fun same => elsewhere (congrArg some same.symm)
      simp only [tasksAfter]
      split
      · exact ⟨if_neg different, Iff.rfl⟩
      · exact ⟨if_neg different, Iff.rfl⟩
  | onDisplayTimeOut other timerId =>
      have different : task ≠ other := fun same => elsewhere (congrArg some same.symm)
      exact ⟨if_neg different, Iff.rfl⟩
  | dropSelf other timerId =>
      have different : task ≠ other := fun same => elsewhere (congrArg some same.symm)
      simp only [tasksAfter]
      split
      · split
        · refine ⟨if_neg different, ?_⟩
          simp only [ObjectHeap.free_live, ObjectHeap.modify_live, Finset.mem_erase, ne_eq,
            different, not_false_eq_true, true_and]
        · exact ⟨if_neg different, Iff.rfl⟩
      · exact ⟨rfl, Iff.rfl⟩

theorem tasksAfter_free (elsewhere : action.callbackOf ≠ some task) :
    tasksAfter session (tasks.free task) action = (tasksAfter session tasks action).free task := by
  cases action with
  | processSaCommand executor command environment => rfl
  | onHdiDisconnect executor => rfl
  | setScreenOn isOn => rfl
  | dispatch other timerId =>
      have different : other ≠ task := fun same => elsewhere (congrArg some same)
      simp only [tasksAfter, ObjectHeap.free_live, Finset.mem_erase, ne_eq, different,
        not_false_eq_true, true_and]
      split <;> rfl
  | lockSelf other timerId =>
      have different : other ≠ task := fun same => elsewhere (congrArg some same)
      simp only [tasksAfter, ObjectHeap.free_live, Finset.mem_erase, ne_eq, different,
        not_false_eq_true, true_and]
      split <;> rfl
  | onDisplayTimeOut other timerId => rfl
  | dropSelf other timerId =>
      have different : other ≠ task := fun same => elsewhere (congrArg some same)
      have live : other ∈ (tasks.free task).live ↔ other ∈ tasks.live := by
        simp only [ObjectHeap.free_live, Finset.mem_erase, ne_eq, different, not_false_eq_true,
          true_and]
      have last := lastReference_elsewhere session session tasks task (tasks.free task) timerId
        different (fun _ _ => Iff.rfl) rfl live
      simp only [tasksAfter, ObjectHeap.free_value, last]
      split
      · split
        · rw [← ObjectHeap.modify_free]
          exact ObjectHeap.free_comm _ task other
        · rfl
      · rfl

theorem monitorAfter_elsewhere (monitor : ScreenStateMonitor)
    (changed : ObjectHeap SensorIlluminationTask) (elsewhere : action.callbackOf ≠ some task)
    (sessions : ∀ other, other ≠ task → (seated = some other ↔ session = some other))
    (value : ∀ other, other ≠ task → changed.value other = tasks.value other)
    (live : ∀ other, other ≠ task → (other ∈ changed.live ↔ other ∈ tasks.live)) :
    monitorAfter seated changed monitor action = monitorAfter session tasks monitor action := by
  cases action with
  | dropSelf other timerId =>
      have different : other ≠ task := fun same => elsewhere (congrArg some same)
      have last := lastReference_elsewhere session seated tasks task changed timerId different
        sessions (value other different) (live other different)
      simp only [monitorAfter, value other different, last]
  | processSaCommand executor command environment => rfl
  | onHdiDisconnect executor => rfl
  | setScreenOn isOn => rfl
  | dispatch other timerId => rfl
  | lockSelf other timerId => rfl
  | onDisplayTimeOut other timerId => rfl

theorem monitorAfter_unsubscribe (monitor : ScreenStateMonitor) :
    monitorAfter session tasks monitor.unsubscribe action =
      (monitorAfter session tasks monitor action).unsubscribe := by
  cases action with
  | dropSelf other timerId =>
      simp only [monitorAfter]
      split <;> rfl
  | processSaCommand executor command environment => rfl
  | onHdiDisconnect executor => rfl
  | setScreenOn isOn => rfl
  | dispatch other timerId => rfl
  | lockSelf other timerId => rfl
  | onDisplayTimeOut other timerId => rfl

end Elsewhere

/-- While the session refers to a task, the section that disables it can be moved past
the steps of callbacks, its own included. -/
theorem tasksAfter_disabled (tasks : ObjectHeap SensorIlluminationTask) (task : TaskId)
    (action : ManagerAction E) (live : task ∈ tasks.live) (sound : (tasks.value task).Sound)
    (effective : LockedManager.ineffective
      (tasks.modify task SensorIlluminationTask.disabled) action = false) :
    tasksAfter (some task) (tasks.modify task SensorIlluminationTask.disabled) action =
      (tasksAfter (some task) tasks action).modify task SensorIlluminationTask.disabled := by
  by_cases own : action.callbackOf = some task
  case neg =>
    exact tasksAfter_modify (some task) (some task) tasks task action
      SensorIlluminationTask.disabled own (fun _ _ => Iff.rfl)
  cases action with
  | processSaCommand executor command environment => cases own
  | onHdiDisconnect executor => cases own
  | setScreenOn isOn => cases own
  | dispatch other timerId =>
      obtain rfl : other = task := Option.some.inj own
      have registered : (tasks.value other).disabled.timer.status timerId = .registered := by
        simpa [LockedManager.ineffective] using effective
      simp only [tasksAfter]
      rw [if_pos live, if_pos (by exact live), ObjectHeap.modify_modify, ObjectHeap.modify_modify]
      exact tasks.modify_congr other
        (SensorIlluminationTask.disabled_dispatchTimer _ sound timerId registered)
  | lockSelf other timerId =>
      obtain rfl : other = task := Option.some.inj own
      simp only [tasksAfter]
      rw [if_pos live, if_pos (by exact live), ObjectHeap.modify_modify, ObjectHeap.modify_modify]
      exact tasks.modify_congr other (SensorIlluminationTask.disabled_lockSelf _ sound timerId)
  | onDisplayTimeOut other timerId =>
      obtain rfl : other = task := Option.some.inj own
      simp only [tasksAfter, ObjectHeap.modify_modify]
      exact tasks.modify_congr other
        (SensorIlluminationTask.disabled_runDisplayTimeOut _ sound timerId)
  | dropSelf other timerId =>
      obtain rfl : other = task := Option.some.inj own
      have value : (tasks.modify other SensorIlluminationTask.disabled).value other =
          (tasks.value other).disabled := if_pos rfl
      have kept : ∀ heap, ¬lastReference (some other) heap other timerId := fun _ last =>
        last.2.1 rfl
      simp only [tasksAfter, value, if_neg (kept _),
        SensorIlluminationTask.disabled_dispatched_iff _ sound]
      split
      · rw [ObjectHeap.modify_modify, ObjectHeap.modify_modify]
        exact tasks.modify_congr other (SensorIlluminationTask.disabled_dropSelf _ sound timerId)
      · rfl

theorem monitorAfter_disabled (tasks : ObjectHeap SensorIlluminationTask) (task : TaskId)
    (action : ManagerAction E) (monitor : ScreenStateMonitor) :
    monitorAfter (some task) (tasks.modify task SensorIlluminationTask.disabled) monitor action =
      monitorAfter (some task) tasks monitor action := by
  by_cases own : action.callbackOf = some task
  case neg =>
    exact monitorAfter_elsewhere (some task) (some task) tasks task action monitor _ own
      (fun _ _ => Iff.rfl) (fun _ different => if_neg different) (fun _ _ => Iff.rfl)
  cases action with
  | dropSelf other timerId =>
      obtain rfl : other = task := Option.some.inj own
      have kept : ∀ heap, ¬lastReference (some other) heap other timerId := fun _ last =>
        last.2.1 rfl
      simp only [monitorAfter, kept, and_false, if_false]
  | processSaCommand executor command environment => cases own
  | onHdiDisconnect executor => cases own
  | setScreenOn isOn => cases own
  | dispatch other timerId => rfl
  | lockSelf other timerId => rfl
  | onDisplayTimeOut other timerId => rfl

/-! ### Steps that find their callback elsewhere -/

theorem ineffective_quiet [DecidableEq E] (manager : SensorIlluminationManager E)
    (action : ManagerAction E)
    (ineffective : LockedManager.ineffective manager.tasks action = true) :
    (manager.step action).quiet = manager.quiet := by
  have background : action.isCall = false := by
    cases action <;> first | rfl | cases ineffective
  have still : tasksAfter manager.taskInProc manager.tasks action = manager.tasks ∧
      monitorAfter manager.taskInProc manager.tasks manager.monitor action = manager.monitor := by
    cases action with
    | processSaCommand executor command environment => cases ineffective
    | onHdiDisconnect executor => cases ineffective
    | setScreenOn isOn => cases ineffective
    | dispatch task timerId =>
        have other : (manager.tasks.value task).timer.status timerId ≠ .registered := by
          simpa [LockedManager.ineffective] using ineffective
        refine ⟨?_, rfl⟩
        simp only [tasksAfter]
        split
        · apply manager.tasks.modify_same
          simp only [SensorIlluminationTask.dispatchTimer,
            OneShotTimer.dispatch_same _ timerId _ other]
        · rfl
    | lockSelf task timerId =>
        have idle : ((manager.tasks.value task).timer.status timerId).running (fun _ => true) =
            false := by
          simpa [LockedManager.ineffective] using ineffective
        refine ⟨?_, rfl⟩
        simp only [tasksAfter]
        split
        · apply manager.tasks.modify_same
          apply if_neg
          intro dispatched
          rw [dispatched] at idle
          cases idle
        · apply manager.tasks.modify_same
          simp only [OneShotTimer.retire_same _ timerId idle]
    | onDisplayTimeOut task timerId =>
        have other : (manager.tasks.value task).timer.status timerId ≠ .dispatched .holding := by
          simpa [LockedManager.ineffective] using ineffective
        refine ⟨?_, rfl⟩
        simp only [tasksAfter]
        apply manager.tasks.modify_same
        exact SensorIlluminationTask.runDisplayTimeOut_of_not_holding _ timerId other
    | dropSelf task timerId =>
        have other : (manager.tasks.value task).timer.status timerId ≠ .dispatched .returned := by
          simpa [LockedManager.ineffective] using ineffective
        exact ⟨if_neg other, if_neg (fun both => other both.1)⟩
  rw [background_quiet manager action background, still.1, still.2]
  rfl

theorem elsewhere_of_effective (tasks : ObjectHeap SensorIlluminationTask) (task : TaskId)
    (action : ManagerAction E) (unused : (tasks.value task).timer = OneShotTimer.new)
    (effective : LockedManager.ineffective tasks action = false) :
    action.callbackOf ≠ some task := by
  intro own
  cases action with
  | processSaCommand executor command environment => cases own
  | onHdiDisconnect executor => cases own
  | setScreenOn isOn => cases own
  | dispatch other timerId =>
      obtain rfl : other = task := Option.some.inj own
      rw [LockedManager.ineffective, unused] at effective
      cases effective
  | lockSelf other timerId =>
      obtain rfl : other = task := Option.some.inj own
      rw [LockedManager.ineffective, unused] at effective
      cases effective
  | onDisplayTimeOut other timerId =>
      obtain rfl : other = task := Option.some.inj own
      rw [LockedManager.ineffective, unused] at effective
      cases effective
  | dropSelf other timerId =>
      obtain rfl : other = task := Option.some.inj own
      rw [LockedManager.ineffective, unused] at effective
      cases effective

end SensorIlluminationManager

end FingerprintAuth

/-
What holds of the manager between two steps, and what a command, a disconnect or a
callback can do to it.

The invariant ties the two session fields together and says who refers to which
task object. From a state that meets it, each operation ends in one of a few ways,
listed with the state it ends in; every later argument about a run goes by cases on
these lists.
-/

import FingerprintAuth.SensorIlluminationManager
import FingerprintAuth.TaskReferences

set_option autoImplicit false

universe u

namespace FingerprintAuth

namespace SensorIlluminationManager

variable {E : Type u}

structure Inv (manager : SensorIlluminationManager E) : Prop where
  paired : manager.executorInProc = none ↔ manager.taskInProc = none
  library : manager.serviceEx.Consistent
  sessionLive : ∀ task, manager.taskInProc = some task → task ∈ manager.tasks.live
  referenced : ∀ task, task ∈ manager.tasks.live → manager.isReferenced task = true
  heldLive : ∀ task, (manager.tasks.value task).hasHolder = true → task ∈ manager.tasks.live
  callbackSet : ∀ task, task ∈ manager.tasks.live →
    (manager.tasks.value task).destructCallback = true
  sound : ∀ task, (manager.tasks.value task).Sound
  off : ∀ task, manager.taskInProc ≠ some task →
    (manager.tasks.value task).isIlluminationOn = false

theorem new_inv : (new : SensorIlluminationManager E).Inv where
  paired := iff_of_true rfl rfl
  library := rfl
  sessionLive := by intro task session; cases session
  referenced := by
    intro task live
    exact absurd live (Finset.notMem_empty task)
  heldLive := by intro task holder; cases holder
  callbackSet := by
    intro task live
    exact absurd live (Finset.notMem_empty task)
  sound := fun _ => SensorIlluminationTask.new_sound
  off := fun _ _ => rfl

theorem isReferenced_iff (manager : SensorIlluminationManager E) (task : TaskId) :
    manager.isReferenced task = true ↔
      manager.taskInProc = some task ∨ (manager.tasks.value task).hasHolder = true := by
  unfold isReferenced
  rw [Bool.or_eq_true, beq_iff_eq]

theorem Inv.holder {manager : SensorIlluminationManager E} (inv : manager.Inv) {task : TaskId}
    (live : task ∈ manager.tasks.live) (elsewhere : manager.taskInProc ≠ some task) :
    (manager.tasks.value task).hasHolder = true := by
  rcases (manager.isReferenced_iff task).mp (inv.referenced task live) with session | holder
  · exact absurd session elsewhere
  · exact holder

theorem Inv.session {manager : SensorIlluminationManager E} (inv : manager.Inv) {executor : E}
    (owner : manager.executorInProc = some executor) : ∃ task, manager.taskInProc = some task := by
  cases session : manager.taskInProc with
  | some task => exact ⟨task, rfl⟩
  | none =>
      rw [inv.paired.mpr session] at owner
      cases owner

/-- Only the task of the session is ever lit. -/
theorem Inv.session_of_lit {manager : SensorIlluminationManager E} (inv : manager.Inv)
    {task : TaskId} (on : (manager.tasks.value task).isIlluminationOn = true) :
    manager.taskInProc = some task := by
  by_contra elsewhere
  rw [inv.off task elsewhere] at on
  cases on

/-! ### Opening a session -/

/-- Which answers let an `ENABLE` open a session when there is none. -/
def enableAccepted (manager : SensorIlluminationManager E) (param : EnableSensorIlluminationParam)
    (environment : Environment) : Bool :=
  (manager.serviceEx.isOpened || environment.dlopen) && environment.factory == .made &&
    decide (param.centerX < maxXYValue) && decide (param.centerY < maxXYValue) &&
    decide (param.radius < maxRadiusLen) &&
    SensorIlluminationTask.enableSucceeds param.centerX param.centerY environment.enable

theorem made_of_accepted {manager : SensorIlluminationManager E}
    {param : EnableSensorIlluminationParam} {environment : Environment}
    (accepted : manager.enableAccepted param environment = true) : environment.factory = .made := by
  simp only [enableAccepted, Bool.and_eq_true, beq_iff_eq] at accepted
  exact accepted.1.1.1.1.2

def enabledTask (param : EnableSensorIlluminationParam) (environment : Environment) :
    SensorIlluminationTask × ResultCode :=
  SensorIlluminationTask.new.registerDestructCallback.enableSensorIllumination param.centerX
    param.centerY param.radius param.color environment.enable

inductive OpenEffect (manager : SensorIlluminationManager E) (executor : E)
    (param : EnableSensorIlluminationParam) (environment : Environment) :
    SensorIlluminationManager E → ResultCode → Prop
  | busy (taken : manager.executorInProc ≠ none ∨ manager.taskInProc ≠ none) :
      OpenEffect manager executor param environment manager .generalError
  | notAcquired (vacant : manager.executorInProc = none ∧ manager.taskInProc = none)
      (closed : (manager.serviceEx.isOpened || environment.dlopen) = false)
      (unaccepted : manager.enableAccepted param environment = false) :
      OpenEffect manager executor param environment
        { manager with
          serviceEx := (manager.serviceEx.acquire environment.dlopen).1
          log := manager.log ++ [.acquire .generalError] } .generalError
  | noTask (vacant : manager.executorInProc = none ∧ manager.taskInProc = none)
      (available : (manager.serviceEx.isOpened || environment.dlopen) = true)
      (unmade : environment.factory ≠ .made)
      (unaccepted : manager.enableAccepted param environment = false) :
      OpenEffect manager executor param environment
        { manager with
          serviceEx := (manager.serviceEx.acquire environment.dlopen).1
          monitor :=
            if environment.factory = .setupThrows then
              manager.monitor.subscribe environment.subscribe
            else manager.monitor
          log := manager.log ++ [.acquire .success, .release] } .generalError
  | rejected (task : SensorIlluminationTask) (calls : List Event)
      (vacant : manager.executorInProc = none ∧ manager.taskInProc = none)
      (available : (manager.serviceEx.isOpened || environment.dlopen) = true)
      (made : environment.factory = .made)
      (unaccepted : manager.enableAccepted param environment = false)
      (sound : task.Sound) (off : task.isIlluminationOn = false) (nobody : task.hasHolder = false)
      (asked : calls = [] ∨ ∃ result, result ≠ .success ∧
        calls = [.call manager.tasks.next
          (.enableSensorIllumination param environment.enable result)]) :
      OpenEffect manager executor param environment
        { manager with
          serviceEx := (manager.serviceEx.acquire environment.dlopen).1
          monitor := (manager.monitor.subscribe environment.subscribe).unsubscribe
          tasks := (manager.tasks.alloc task).free manager.tasks.next
          log := manager.log ++ ([.acquire .success, .created manager.tasks.next] ++ calls ++
            [.dropped manager.tasks.next, .destroyed manager.tasks.next .caller, .release]) }
        .generalError
  | opened (task : SensorIlluminationTask)
      (vacant : manager.executorInProc = none ∧ manager.taskInProc = none)
      (accepted : manager.enableAccepted param environment = true)
      (enabled : enabledTask param environment = (task, .success)) :
      OpenEffect manager executor param environment
        { manager with
          executorInProc := some executor
          taskInProc := some manager.tasks.next
          serviceEx := (manager.serviceEx.acquire environment.dlopen).1
          monitor := manager.monitor.subscribe environment.subscribe
          tasks := manager.tasks.alloc task
          log := manager.log ++ [.acquire .success, .created manager.tasks.next,
            .call manager.tasks.next
              (.enableSensorIllumination param environment.enable .success)] }
        .success

/-- A new task on which the manager gives up: nobody refers to it, so its
destructor runs where the manager lets go. -/
private theorem dropReference_new (manager : SensorIlluminationManager E)
    (task : SensorIlluminationTask) (monitor : ScreenStateMonitor) (serviceEx : ServiceExManager)
    (log : List Event) (vacant : manager.taskInProc = none) (nobody : task.hasHolder = false)
    (callback : task.destructCallback = true) :
    ({ manager with
        serviceEx := serviceEx
        monitor := monitor
        tasks := manager.tasks.alloc task
        log := log } : SensorIlluminationManager E).dropReference manager.tasks.next =
      { manager with
        serviceEx := serviceEx
        monitor := monitor.unsubscribe
        tasks := (manager.tasks.alloc task.stopTimer).free manager.tasks.next
        log := log ++ [.dropped manager.tasks.next, .destroyed manager.tasks.next .caller,
          .release] } := by
  have unreferenced : ({ manager with
      serviceEx := serviceEx
      monitor := monitor
      tasks := manager.tasks.alloc task
      log := log ++ [.dropped manager.tasks.next] } : SensorIlluminationManager E).isReferenced
        manager.tasks.next = false := by
    simp [isReferenced, vacant, nobody]
  unfold dropReference
  rw [if_neg (by simp [vacant])]
  unfold releaseReference
  rw [if_pos ⟨by simp [record], unreferenced⟩]
  simp [destroy, record, release, callback]

theorem enabledTask_sound (param : EnableSensorIlluminationParam)
    (environment : Environment) :
    (enabledTask param environment).1.Sound ∧
      (enabledTask param environment).1.isIlluminationOn = false :=
  SensorIlluminationTask.enable_sound SensorIlluminationTask.new.registerDestructCallback
    param.centerX param.centerY param.radius param.color environment.enable
    SensorIlluminationTask.registerDestructCallback_sound rfl rfl

theorem enabledTask_references (param : EnableSensorIlluminationParam)
    (environment : Environment) :
    (enabledTask param environment).1.hasHolder = false ∧
      (enabledTask param environment).1.destructCallback = true := by
  have keeps := SensorIlluminationTask.enable_keeps
    SensorIlluminationTask.new.registerDestructCallback param.centerX param.centerY param.radius
    param.color environment.enable
  refine ⟨?_, keeps.2⟩
  unfold SensorIlluminationTask.hasHolder enabledTask
  rw [keeps.1]
  rfl

private theorem getSensorIlluminationTask_unmade (manager : SensorIlluminationManager E)
    (environment : Environment) (handle : manager.serviceEx.handle = true)
    (unmade : environment.factory ≠ .made) :
    manager.getSensorIlluminationTask environment =
      ({ manager with
          monitor :=
            if environment.factory = .setupThrows then
              manager.monitor.subscribe environment.subscribe
            else manager.monitor }, none) := by
  unfold getSensorIlluminationTask
  rw [if_neg (by simp [handle])]
  cases factory : environment.factory with
  | noSymbol => rfl
  | outOfMemory => rfl
  | setupThrows => rfl
  | made => exact absurd factory unmade

private theorem givenUp_effect (manager : SensorIlluminationManager E) (executor : E)
    (param : EnableSensorIlluminationParam) (environment : Environment)
    (task : SensorIlluminationTask) (calls : List Event)
    (vacant : manager.executorInProc = none ∧ manager.taskInProc = none)
    (available : (manager.serviceEx.isOpened || environment.dlopen) = true)
    (made : environment.factory = .made)
    (unaccepted : manager.enableAccepted param environment = false)
    (sound : task.Sound) (off : task.isIlluminationOn = false) (nobody : task.hasHolder = false)
    (callback : task.destructCallback = true)
    (asked : calls = [] ∨ ∃ result, result ≠ .success ∧
      calls = [.call manager.tasks.next
        (.enableSensorIllumination param environment.enable result)]) :
    OpenEffect manager executor param environment
      (({ manager with
          serviceEx := (manager.serviceEx.acquire environment.dlopen).1
          monitor := manager.monitor.subscribe environment.subscribe
          tasks := manager.tasks.alloc task
          log := manager.log ++ ([.acquire .success, .created manager.tasks.next] ++ calls) } :
        SensorIlluminationManager E).dropReference manager.tasks.next)
      .generalError := by
  rw [dropReference_new manager task _ _ _ vacant.2 nobody callback]
  have ended : OpenEffect manager executor param environment _ .generalError :=
    .rejected task.stopTimer calls vacant available made unaccepted
      (SensorIlluminationTask.stopTimer_sound task sound off) off
      ((SensorIlluminationTask.stopTimer_hasHolder task).trans nobody) asked
  simpa only [List.append_assoc] using ended

private theorem enableTask_effect (manager : SensorIlluminationManager E) (executor : E)
    (param : EnableSensorIlluminationParam) (environment : Environment)
    (vacant : manager.executorInProc = none ∧ manager.taskInProc = none)
    (available : (manager.serviceEx.isOpened || environment.dlopen) = true)
    (made : environment.factory = .made) (start : SensorIlluminationManager E)
    (startAs : start =
      { manager with
        serviceEx := (manager.serviceEx.acquire environment.dlopen).1
        monitor := manager.monitor.subscribe environment.subscribe
        tasks := manager.tasks.alloc SensorIlluminationTask.new
        log := manager.log ++ [.acquire .success, .created manager.tasks.next] }) :
    OpenEffect manager executor param environment
      ((start.enableTask executor manager.tasks.next param environment).1.dropReference
        manager.tasks.next)
      (start.enableTask executor manager.tasks.next param environment).2 := by
  have registered : start.onTask manager.tasks.next SensorIlluminationTask.registerDestructCallback =
      { manager with
        serviceEx := (manager.serviceEx.acquire environment.dlopen).1
        monitor := manager.monitor.subscribe environment.subscribe
        tasks := manager.tasks.alloc SensorIlluminationTask.new.registerDestructCallback
        log := manager.log ++ [.acquire .success, .created manager.tasks.next] } := by
    rw [startAs]
    simp [onTask]
  have outOfRange : manager.enableAccepted param environment = false →
      OpenEffect manager executor param environment
        ((start.onTask manager.tasks.next
          SensorIlluminationTask.registerDestructCallback).dropReference manager.tasks.next)
        .generalError := by
    intro unaccepted
    rw [registered]
    exact givenUp_effect manager executor param environment
      SensorIlluminationTask.new.registerDestructCallback [] vacant available made unaccepted
      SensorIlluminationTask.registerDestructCallback_sound rfl rfl rfl (Or.inl rfl)
  unfold enableTask
  by_cases inX : param.centerX < maxXYValue
  case neg =>
    simp only [inX, not_false_eq_true, if_true]
    exact outOfRange (by simp [enableAccepted, inX])
  by_cases inY : param.centerY < maxXYValue
  case neg =>
    simp only [inX, inY, not_true_eq_false, not_false_eq_true, if_true, if_false]
    exact outOfRange (by simp [enableAccepted, inY])
  by_cases inRadius : param.radius < maxRadiusLen
  case neg =>
    simp only [inX, inY, inRadius, not_true_eq_false, not_false_eq_true, if_true, if_false]
    exact outOfRange (by simp [enableAccepted, inRadius])
  simp only [inX, inY, inRadius, not_true_eq_false, if_false]
  have object : (start.onTask manager.tasks.next
      SensorIlluminationTask.registerDestructCallback).tasks.value manager.tasks.next =
        SensorIlluminationTask.new.registerDestructCallback := by
    rw [registered]
    simp
  have asEnabled : SensorIlluminationTask.new.registerDestructCallback.enableSensorIllumination
      param.centerX param.centerY param.radius param.color environment.enable =
        enabledTask param environment := rfl
  have accepts : (enabledTask param environment).2 = .success ↔
      manager.enableAccepted param environment = true := by
    have succeeds := SensorIlluminationTask.enableSensorIllumination_success_iff
      SensorIlluminationTask.new.registerDestructCallback param.centerX param.centerY param.radius
      param.color environment.enable rfl
    rw [asEnabled] at succeeds
    simp [enableAccepted, succeeds, available, made, inX, inY, inRadius]
  have sound := enabledTask_sound param environment
  have references := enabledTask_references param environment
  rw [object, registered, asEnabled]
  generalize outcomeAs : enabledTask param environment = outcome at accepts sound references
  obtain ⟨enabled, enableResultCode⟩ := outcome
  simp only at accepts sound references
  by_cases succeeded : enableResultCode = .success
  · subst succeeded
    have ended : OpenEffect manager executor param environment _ .success :=
      .opened enabled vacant (accepts.mp rfl) outcomeAs
    simpa [onTask, record, dropReference] using ended
  · have unaccepted : manager.enableAccepted param environment = false := by
      rw [← Bool.not_eq_true, ← accepts]
      exact succeeded
    have ended := givenUp_effect manager executor param environment enabled
      [.call manager.tasks.next
        (.enableSensorIllumination param environment.enable enableResultCode)]
      vacant available made unaccepted sound.1 sound.2 references.1 references.2
      (Or.inr ⟨enableResultCode, succeeded, rfl⟩)
    simp only [succeeded, if_false, onTask, record, ObjectHeap.alloc_modify]
    simpa using ended

theorem enableSensorIllumination_effect (manager : SensorIlluminationManager E) (executor : E)
    (param : SaCommandParam) (environment : Environment) (inv : manager.Inv) :
    OpenEffect manager executor param.enableSensorIllumination environment
      (manager.enableSensorIllumination executor param environment).1
      (manager.enableSensorIllumination executor param environment).2 := by
  unfold enableSensorIllumination
  cases owner : manager.executorInProc with
  | some other => exact .busy (Or.inl (by simp [owner]))
  | none =>
      have session := inv.paired.mp owner
      have vacant : manager.executorInProc = none ∧ manager.taskInProc = none := ⟨owner, session⟩
      simp only [session, Option.isSome_none, Bool.false_eq_true, if_false]
      have acquired := manager.serviceEx.acquire_success_iff environment.dlopen
      have handle := manager.serviceEx.acquire_handle environment.dlopen inv.library
      have results := manager.serviceEx.acquire_result environment.dlopen
      cases available : manager.serviceEx.isOpened || environment.dlopen with
      | false =>
          have failed : (manager.serviceEx.acquire environment.dlopen).2 = .generalError := by
            rcases results with succeeded | failed
            · rw [acquired.mp succeeded] at available
              cases available
            · exact failed
          have unaccepted :
              manager.enableAccepted param.enableSensorIllumination environment = false := by
            simp [enableAccepted, available]
          simp only [acquire, record, failed, reduceCtorEq, if_false]
          exact .notAcquired vacant available unaccepted
      | true =>
          have succeeded := acquired.mpr available
          have opened := handle succeeded
          simp only [acquire, record, succeeded, if_true]
          by_cases made : environment.factory = .made
          · simp only [getSensorIlluminationTask, opened, Bool.true_eq_false, if_false, made]
            exact enableTask_effect manager executor param.enableSensorIllumination environment
              vacant available made _ (by simp [record])
          · rw [getSensorIlluminationTask_unmade _ environment opened made]
            have unaccepted :
                manager.enableAccepted param.enableSensorIllumination environment = false := by
              simp [enableAccepted, made]
            have ended : OpenEffect manager executor param.enableSensorIllumination environment _
                .generalError := .noTask vacant available made unaccepted
            simpa [release, record] using ended

/-! ### Ending a session -/

inductive EndEffect (manager : SensorIlluminationManager E) (task : TaskId) :
    SensorIlluminationManager E → Prop
  | held (holder : (manager.tasks.value task).hasHolder = true) :
      EndEffect manager task
        { manager with
          executorInProc := none
          taskInProc := none
          monitor := manager.monitor.unsubscribe
          tasks := manager.tasks.modify task
            (fun object => (object.disableSensorIllumination manager.monitor).1)
          log := manager.log ++ [.call task (.disableSensorIllumination .success), .dropped task] }
  | freed (nobody : (manager.tasks.value task).hasHolder = false) :
      EndEffect manager task
        { manager with
          executorInProc := none
          taskInProc := none
          monitor := manager.monitor.unsubscribe
          tasks := (manager.tasks.modify task
            (fun object => (object.disableSensorIllumination manager.monitor).1.stopTimer)).free task
          log := manager.log ++ [.call task (.disableSensorIllumination .success), .dropped task,
            .destroyed task .caller, .release] }

theorem endSession_effect (manager : SensorIlluminationManager E) (task : TaskId)
    (inv : manager.Inv) (session : manager.taskInProc = some task) :
    EndEffect manager task manager.endSession := by
  have live := inv.sessionLive task session
  have holders := SensorIlluminationTask.disable_hasHolder (manager.tasks.value task)
    manager.monitor
  have callback : ((manager.tasks.value task).disableSensorIllumination
      manager.monitor).1.destructCallback = true :=
    (SensorIlluminationTask.turnOff_destructCallback _).trans (inv.callbackSet task live)
  have written := manager.tasks.modify_const task
    (fun object => (object.disableSensorIllumination manager.monitor).1)
  unfold endSession
  simp only [session, onTask, record, dropReference, reduceCtorEq, if_false, releaseReference,
    written, ObjectHeap.modify_live, live, true_and, isReferenced, ObjectHeap.modify_value, if_true,
    holders]
  cases holder : (manager.tasks.value task).hasHolder with
  | true =>
      have ended := EndEffect.held holder
      simpa using ended
  | false =>
      have ended := EndEffect.freed holder
      simpa [destroy, record, release, callback] using ended

/-! ### A callback's return -/

inductive DropEffect (manager : SensorIlluminationManager E) (task : TaskId) (timerId : TimerId) :
    SensorIlluminationManager E → Prop
  | elsewhere (other : (manager.tasks.value task).timer.status timerId ≠ .dispatched .returned) :
      DropEffect manager task timerId manager
  | kept (returned : (manager.tasks.value task).timer.status timerId = .dispatched .returned)
      (remains : manager.taskInProc = some task ∨
        ((manager.tasks.value task).dropSelf timerId).hasHolder = true) :
      DropEffect manager task timerId
        { manager with
          tasks := manager.tasks.modify task (fun object => object.dropSelf timerId) }
  | last (returned : (manager.tasks.value task).timer.status timerId = .dispatched .returned)
      (live : task ∈ manager.tasks.live) (abandoned : manager.taskInProc ≠ some task)
      (nobody : ((manager.tasks.value task).dropSelf timerId).hasHolder = false) :
      DropEffect manager task timerId
        { manager with
          monitor := manager.monitor.unsubscribe
          tasks := (manager.tasks.modify task
            (fun object => (object.dropSelf timerId).stopTimer)).free task
          log := manager.log ++ [.destroyed task .timerThread, .release] }

theorem holds_of_returned (task : SensorIlluminationTask) (timerId : TimerId)
    (returned : task.timer.status timerId = .dispatched .returned) : task.hasHolder = true := by
  rw [SensorIlluminationTask.hasHolder_iff]
  refine ⟨timerId, ?_⟩
  unfold SensorIlluminationTask.Holds
  rw [returned]
  rfl

theorem dropSelf_effect (manager : SensorIlluminationManager E) (task : TaskId) (timerId : TimerId)
    (inv : manager.Inv) : DropEffect manager task timerId (manager.dropSelf task timerId) := by
  unfold dropSelf
  by_cases returned : (manager.tasks.value task).timer.status timerId = .dispatched .returned
  · have live := inv.heldLive task (holds_of_returned _ timerId returned)
    have callback : ((manager.tasks.value task).dropSelf timerId).destructCallback = true :=
      (SensorIlluminationTask.step_destructCallback _ (.dropSelf timerId)).trans
        (inv.callbackSet task live)
    simp only [returned, if_true, onTask, releaseReference, ObjectHeap.modify_live, live, true_and,
      isReferenced, ObjectHeap.modify_value]
    by_cases session : manager.taskInProc = some task
    · have ended := DropEffect.kept returned (Or.inl session)
      simpa [session] using ended
    · cases holder : ((manager.tasks.value task).dropSelf timerId).hasHolder with
      | true =>
          have ended := DropEffect.kept returned (Or.inr holder)
          simpa [holder] using ended
      | false =>
          have ended := DropEffect.last returned live session holder
          simpa [session, holder, destroy, record, release, callback] using ended
  · rw [if_neg returned]
    exact .elsewhere returned

/-! ### Every step -/

def callbackStep : ManagerAction E → Option (TaskId × TaskAction)
  | .dispatch task timerId => some (task, .dispatch timerId)
  | .lockSelf task timerId => some (task, .lockSelf timerId)
  | .onDisplayTimeOut task timerId => some (task, .onDisplayTimeOut timerId)
  | _ => none

theorem callbackStep_cases {action : ManagerAction E} {task : TaskId} {taskAction : TaskAction}
    (named : callbackStep action = some (task, taskAction)) :
    ∃ timerId, taskAction = .dispatch timerId ∨ taskAction = .lockSelf timerId ∨
      taskAction = .onDisplayTimeOut timerId := by
  cases action with
  | dispatch target timerId =>
      cases named
      exact ⟨timerId, Or.inl rfl⟩
  | lockSelf target timerId =>
      cases named
      exact ⟨timerId, Or.inr (Or.inl rfl)⟩
  | onDisplayTimeOut target timerId =>
      cases named
      exact ⟨timerId, Or.inr (Or.inr rfl)⟩
  | processSaCommand executor command environment => cases named
  | onHdiDisconnect executor => cases named
  | setScreenOn isOn => cases named
  | dropSelf target timerId => cases named

inductive StepEffect (manager : SensorIlluminationManager E) :
    ManagerAction E → SensorIlluminationManager E → Prop
  | idle (action : ManagerAction E) : StepEffect manager action manager
  | enable (executor : E) (command : SaCommand) (environment : Environment)
      (after : SensorIlluminationManager E) (result : ResultCode)
      (named : command.id = .enableSensorIllumination)
      (effect : OpenEffect manager executor command.param.enableSensorIllumination environment after
        result) :
      StepEffect manager (.processSaCommand (some executor) command environment) after
  | turnOn (executor : E) (command : SaCommand) (environment : Environment) (task : TaskId)
      (named : command.id = .turnOnSensorIllumination)
      (owner : manager.executorInProc = some executor) (session : manager.taskInProc = some task) :
      StepEffect manager (.processSaCommand (some executor) command environment)
        { manager with
          tasks := manager.tasks.modify task (fun object =>
            object.step (.turnOnSensorIllumination manager.monitor environment.draw))
          log := manager.log ++ [.call task (.turnOnSensorIllumination environment.draw
            ((manager.tasks.value task).turnOnSensorIllumination manager.monitor
              environment.draw).2)] }
  | turnOff (executor : E) (command : SaCommand) (environment : Environment) (task : TaskId)
      (named : command.id = .turnOffSensorIllumination)
      (owner : manager.executorInProc = some executor) (session : manager.taskInProc = some task) :
      StepEffect manager (.processSaCommand (some executor) command environment)
        { manager with
          tasks := manager.tasks.modify task (fun object => object.step .turnOffSensorIllumination)
          log := manager.log ++ [.call task (.turnOffSensorIllumination
            (manager.tasks.value task).turnOffSensorIllumination.2)] }
  | disable (executor : E) (command : SaCommand) (environment : Environment) (task : TaskId)
      (after : SensorIlluminationManager E)
      (named : command.id = .disableSensorIllumination)
      (owner : manager.executorInProc = some executor) (session : manager.taskInProc = some task)
      (effect : EndEffect manager task after) :
      StepEffect manager (.processSaCommand (some executor) command environment) after
  | disconnect (executor : E) (task : TaskId) (after : SensorIlluminationManager E)
      (owner : manager.executorInProc = some executor) (session : manager.taskInProc = some task)
      (effect : EndEffect manager task after) :
      StepEffect manager (.onHdiDisconnect (some executor)) after
  | screen (isOn : Bool) :
      StepEffect manager (.setScreenOn isOn)
        { manager with monitor := manager.monitor.setScreenOn isOn }
  | callback (action : ManagerAction E) (task : TaskId) (taskAction : TaskAction)
      (named : callbackStep action = some (task, taskAction))
      (live : task ∈ manager.tasks.live) :
      StepEffect manager action
        { manager with
          tasks := manager.tasks.modify task (fun object => object.step taskAction) }
  | expired (task : TaskId) (timerId : TimerId) (dead : task ∉ manager.tasks.live) :
      StepEffect manager (.lockSelf task timerId)
        { manager with
          tasks := manager.tasks.modify task
            (fun object => { object with timer := object.timer.retire timerId }) }
  | dropSelf (task : TaskId) (timerId : TimerId) (after : SensorIlluminationManager E)
      (effect : DropEffect manager task timerId after) :
      StepEffect manager (.dropSelf task timerId) after

theorem withTask_of_owner [DecidableEq E] (manager : SensorIlluminationManager E) (executor : E)
    (operation : SensorIlluminationTask → SensorIlluminationTask × ResultCode)
    (call : ResultCode → TaskCall) (task : TaskId) (owner : manager.executorInProc = some executor)
    (session : manager.taskInProc = some task) :
    (manager.withTask executor operation call).1 =
      { manager with
        tasks := manager.tasks.modify task (fun object => (operation object).1)
        log := manager.log ++ [.call task (call (operation (manager.tasks.value task)).2)] } := by
  have written := manager.tasks.modify_const task (fun object => (operation object).1)
  unfold withTask
  rw [if_neg (not_not.mpr owner)]
  simp only [session, onTask, record, written]
  split <;> rfl

theorem withTask_of_other [DecidableEq E] (manager : SensorIlluminationManager E) (executor : E)
    (operation : SensorIlluminationTask → SensorIlluminationTask × ResultCode)
    (call : ResultCode → TaskCall) (other : manager.executorInProc ≠ some executor) :
    manager.withTask executor operation call = (manager, .generalError) := if_pos other

theorem processSaCommand_effect [DecidableEq E] (manager : SensorIlluminationManager E)
    (executor : Option E) (command : SaCommand) (environment : Environment) (inv : manager.Inv) :
    StepEffect manager (.processSaCommand executor command environment)
      (manager.processSaCommand executor command environment).1 := by
  cases executor with
  | none => exact .idle _
  | some executor =>
      simp only [processSaCommand]
      cases named : command.id with
      | enableSensorIllumination =>
          exact .enable executor command environment _ _ named
            (enableSensorIllumination_effect manager executor command.param environment inv)
      | disableSensorIllumination =>
          simp only [disableSensorIllumination]
          by_cases owner : manager.executorInProc = some executor
          · obtain ⟨task, session⟩ := inv.session owner
            rw [if_neg (not_not.mpr owner)]
            exact .disable executor command environment task _ named owner session
              (endSession_effect manager task inv session)
          · rw [if_pos owner]
            exact .idle _
      | turnOnSensorIllumination =>
          simp only [turnOnSensorIllumination]
          by_cases owner : manager.executorInProc = some executor
          · obtain ⟨task, session⟩ := inv.session owner
            rw [manager.withTask_of_owner executor _ _ task owner session]
            exact .turnOn executor command environment task named owner session
          · rw [manager.withTask_of_other executor _ _ owner]
            exact .idle _
      | turnOffSensorIllumination =>
          simp only [turnOffSensorIllumination]
          by_cases owner : manager.executorInProc = some executor
          · obtain ⟨task, session⟩ := inv.session owner
            rw [manager.withTask_of_owner executor _ _ task owner session]
            exact .turnOff executor command environment task named owner session
          · rw [manager.withTask_of_other executor _ _ owner]
            exact .idle _
      | other id => exact .idle _

theorem step_effect [DecidableEq E] (manager : SensorIlluminationManager E)
    (action : ManagerAction E) (inv : manager.Inv) :
    StepEffect manager action (manager.step action) := by
  cases action with
  | processSaCommand executor command environment =>
      exact processSaCommand_effect manager executor command environment inv
  | onHdiDisconnect executor =>
      cases executor with
      | none => exact .idle _
      | some executor =>
          simp only [step, onHdiDisconnect]
          by_cases owner : manager.executorInProc = some executor
          · obtain ⟨task, session⟩ := inv.session owner
            rw [if_neg (not_not.mpr owner)]
            exact .disconnect executor task _ owner session
              (endSession_effect manager task inv session)
          · rw [if_pos owner]
            exact .idle _
  | setScreenOn isOn => exact .screen isOn
  | dispatch task timerId =>
      simp only [step, dispatchTimer]
      by_cases live : task ∈ manager.tasks.live
      · rw [if_pos live]
        exact .callback (.dispatch task timerId) task (.dispatch timerId) rfl live
      · rw [if_neg live]
        exact .idle _
  | lockSelf task timerId =>
      simp only [step, lockSelf]
      by_cases live : task ∈ manager.tasks.live
      · rw [if_pos live]
        exact .callback (.lockSelf task timerId) task (.lockSelf timerId) rfl live
      · rw [if_neg live]
        exact .expired task timerId live
  | onDisplayTimeOut task timerId =>
      by_cases live : task ∈ manager.tasks.live
      · exact .callback (.onDisplayTimeOut task timerId) task (.onDisplayTimeOut timerId) rfl live
      · -- a callback that waits for the lock of a task holds a reference to it
        have elsewhere : (manager.tasks.value task).timer.status timerId ≠ .dispatched .holding := by
          intro holding
          apply live
          apply inv.heldLive task
          rw [SensorIlluminationTask.hasHolder_iff]
          refine ⟨timerId, ?_⟩
          unfold SensorIlluminationTask.Holds
          rw [holding]
          rfl
        have same : manager.onDisplayTimeOut task timerId = manager := by
          unfold onDisplayTimeOut onTask
          rw [manager.tasks.modify_same task (fun object => object.runDisplayTimeOut timerId)
            (SensorIlluminationTask.runDisplayTimeOut_of_not_holding _ timerId elsewhere)]
        simp only [step, same]
        exact .idle _
  | dropSelf task timerId =>
      exact .dropSelf task timerId _ (dropSelf_effect manager task timerId inv)

end SensorIlluminationManager

end FingerprintAuth

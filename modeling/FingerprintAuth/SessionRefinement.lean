/-
The manager is the service that its users know.

What the owner of a session needs of its task is a few members; every operation of the
task treats them as the service treats the session. The objects themselves, who refers
to them and which timers are on their way make no difference to any answer.
-/

import FingerprintAuth.IlluminationSession
import FingerprintAuth.ManagerRuns
import FingerprintAuth.Library.CommitPoint

set_option autoImplicit false

universe u

namespace FingerprintAuth

namespace SensorIlluminationTask

variable {E : Type u}

/-- The task as the owner of its session knows it. -/
def asSession (task : SensorIlluminationTask) (executor : E) : IlluminationSession E :=
  { executor := executor
    hasScreen := task.defaultScreenId.isSome
    brightness := task.brightness
    lit := task.isIlluminationOn }

theorem DrawEffect.asSession {task drawn : SensorIlluminationTask} {answer : DrawAnswer}
    {result : ResultCode} (effect : DrawEffect task answer drawn result)
    (present : task.rsSurface.isSome = true) (executor : E) :
    drawn.asSession executor = (task.asSession executor).ask answer := by
  cases effect with
  | refused reason =>
      rcases reason with absent | invalid
      · rw [absent] at present
        cases present
      · exact (if_pos invalid).symm
  | kept present valid same =>
      rw [IlluminationSession.ask, if_neg valid, same]
      rfl
  | failed alpha present valid different => rw [IlluminationSession.ask, if_neg valid]; rfl
  | completed alpha api present valid different painted found =>
      rw [IlluminationSession.ask, if_neg valid]
      rfl

theorem turnOn_asSession (task : SensorIlluminationTask) (monitor : ScreenStateMonitor)
    (answer : DrawAnswer) (executor : E) (sound : task.Sound)
    (node : task.rsSurfaceNode.isSome = true) :
    (task.asSession executor).turnOn monitor.getScreenOn answer =
      ((task.turnOnSensorIllumination monitor answer).1.asSession executor,
        (task.turnOnSensorIllumination monitor answer).2) := by
  have present := sound.surface node
  have effect := drawSurfaceNode_effect task answer
  have drawnAs := effect.asSession present executor
  have frame := effect.frame
  have succeeds : (task.drawSurfaceNode answer).2 = .success ↔
      (task.asSession executor).draws answer = true := by
    rw [drawSurfaceNode_success_iff, drawSucceeds, present, Bool.true_and]
    rfl
  obtain ⟨nodeId, nodeAs⟩ := Option.isSome_iff_exists.mp node
  unfold turnOnSensorIllumination IlluminationSession.turnOn
  rw [nodeAs]
  cases screenOn : monitor.getScreenOn with
  | false => rfl
  | true =>
      cases on : task.isIlluminationOn with
      | true =>
          have lit : true = false ∨ (task.asSession executor).lit = true := Or.inr on
          rw [if_pos lit]
          rfl
      | false =>
          have dark : ¬(true = false ∨ (task.asSession executor).lit = true) := by
            simp [asSession, on]
          rw [if_neg dark]
          simp only [Bool.true_eq_false, Bool.false_eq_true, if_false]
          generalize task.drawSurfaceNode answer = outcome at frame drawnAs succeeds
          obtain ⟨drawn, drawResult⟩ := outcome
          simp only at frame drawnAs succeeds
          have sameScreen : drawn.defaultScreenId = task.defaultScreenId := by rw [frame]
          have screenAs : (task.asSession executor).hasScreen = task.defaultScreenId.isSome := rfl
          dsimp only
          by_cases succeeded : drawResult = .success
          · have draws := succeeds.mp succeeded
            rw [if_pos succeeded]
            cases screen : task.defaultScreenId with
            | none =>
                have unshown : ¬((task.asSession executor).draws answer = true ∧
                    (task.asSession executor).hasScreen = true) := by
                  simp [screenAs, screen]
                rw [if_neg unshown, ← drawnAs]
                simp only [asSession, sameScreen, screen]
            | some screenId =>
                have shown : (task.asSession executor).draws answer = true ∧
                    (task.asSession executor).hasScreen = true := by
                  simp [screenAs, screen, draws]
                rw [if_pos shown, ← drawnAs]
                simp only [asSession, attachToDisplay, sameScreen, screen]
          · have unshown : ¬((task.asSession executor).draws answer = true ∧
                (task.asSession executor).hasScreen = true) :=
              fun both => succeeded (succeeds.mpr both.1)
            rw [if_neg succeeded, if_neg unshown, drawnAs]

theorem turnOff_asSession (task : SensorIlluminationTask) (executor : E) (sound : task.Sound) :
    task.turnOffSensorIllumination.1.asSession executor = (task.asSession executor).turnOff := by
  have dark := turnOff_isIlluminationOn task sound
  have effect := turnOffSensorIllumination_effect task
  unfold asSession IlluminationSession.turnOff
  rw [dark]
  generalize task.turnOffSensorIllumination = outcome at effect
  obtain ⟨after, result⟩ := outcome
  cases effect with
  | still result reason => rfl
  | noScreen on absent => rfl
  | dark node screen on nodePresent screenPresent => rfl

theorem turnOff_succeeds (task : SensorIlluminationTask) (sound : task.Sound)
    (node : task.rsSurfaceNode.isSome = true) : task.turnOffSensorIllumination.2 = .success := by
  have effect := turnOffSensorIllumination_effect task
  generalize task.turnOffSensorIllumination = outcome at effect ⊢
  obtain ⟨after, result⟩ := outcome
  cases effect with
  | still result reason =>
      rcases reason with ⟨absent, _⟩ | ⟨_, success⟩
      · rw [absent] at node
        cases node
      · exact success
  | noScreen on absent =>
      obtain ⟨_, screen, _, present, _⟩ := sound.lit on
      rw [absent] at present
      cases present
  | dark node screen on nodePresent screenPresent => rfl

/-! ### The node -/

theorem turnOn_node (task : SensorIlluminationTask) (monitor : ScreenStateMonitor)
    (answer : DrawAnswer) :
    (task.turnOnSensorIllumination monitor answer).1.rsSurfaceNode = task.rsSurfaceNode := by
  have effect := turnOnSensorIllumination_effect task monitor answer
  generalize task.turnOnSensorIllumination monitor answer = outcome at effect ⊢
  obtain ⟨after, result⟩ := outcome
  cases effect with
  | still result reason => rfl
  | drawFailed drawn drawResult off failed draw => rw [draw.frame]
  | noScreen drawn off draw absent =>
      simp only
      rw [draw.frame]
  | lit drawn node screen screenOn off draw nodePresent screenPresent =>
      simp only
      rw [draw.frame]

theorem turnOff_node (task : SensorIlluminationTask) :
    task.turnOffSensorIllumination.1.rsSurfaceNode = task.rsSurfaceNode := by
  have effect := turnOffSensorIllumination_effect task
  generalize task.turnOffSensorIllumination = outcome at effect ⊢
  obtain ⟨after, result⟩ := outcome
  cases effect <;> rfl

theorem runDisplayTimeOut_node (task : SensorIlluminationTask) (timerId : TimerId) :
    (task.runDisplayTimeOut timerId).rsSurfaceNode = task.rsSurfaceNode := by
  unfold runDisplayTimeOut
  split
  · exact turnOff_node task
  · rfl

theorem enable_asSession (task : SensorIlluminationTask) (centerX centerY radius color : UInt32)
    (answer : EnableAnswer) (executor : E)
    (enabled : (task.enableSensorIllumination centerX centerY radius color answer).2 = .success) :
    (task.enableSensorIllumination centerX centerY radius color answer).1.rsSurfaceNode.isSome =
        true ∧
      (task.enableSensorIllumination centerX centerY radius color answer).1.asSession executor =
        { executor := executor
          hasScreen := answer.defaultScreenId.isSome
          brightness := answer.draw.brightness
          lit := task.isIlluminationOn } := by
  have effect := enableSensorIllumination_effect task centerX centerY radius color answer
  generalize task.enableSensorIllumination centerX centerY radius color answer = outcome
    at effect enabled ⊢
  obtain ⟨after, result⟩ := outcome
  simp only at enabled effect ⊢
  generalize asked : result = answered at effect
  cases effect with
  | refused createdNodes =>
      rw [enabled] at asked
      cases asked
  | drawn display centerXInPx centerYInPx prepared _ drawResult director shown convertedX
      convertedY preparedAs draw =>
      have drawn : drawResult = .success := by
        by_contra failed
        rw [if_neg failed, enabled] at asked
        cases asked
      subst drawn
      have present : prepared.rsSurface.isSome = true := by
        rw [preparedAs]
        rfl
      have node : prepared.rsSurfaceNode.isSome = true := by
        rw [preparedAs]
        rfl
      have asSession := draw.asSession present executor
      have frame := draw.frame
      constructor
      · rw [frame]
        exact node
      · rw [asSession, IlluminationSession.ask, if_neg draw.valid, preparedAs]
        rfl

end SensorIlluminationTask

namespace SensorIlluminationManager

variable {E : Type u}

/-- The manager as its users know it. -/
def asService (manager : SensorIlluminationManager E) : IlluminationService E :=
  { session :=
      match manager.executorInProc, manager.taskInProc with
      | some executor, some task => some ((manager.tasks.value task).asSession executor)
      | _, _ => none
    monitor := manager.monitor
    serviceEx := manager.serviceEx }

/-- What an action is to the users. Of a callback they notice the timeout, and the end
of a task that nobody has any more. -/
def observed (manager : SensorIlluminationManager E) :
    ManagerAction E → List (IlluminationAction E)
  | .processSaCommand none _ _ => []
  | .processSaCommand (some executor) command environment =>
      [.command executor command environment]
  | .onHdiDisconnect none => []
  | .onHdiDisconnect (some executor) => [.disconnect executor]
  | .setScreenOn isOn => [.screen isOn]
  | .dispatch _ _ => []
  | .lockSelf _ _ => []
  | .onDisplayTimeOut task timerId =>
      if manager.taskInProc = some task ∧
          (manager.tasks.value task).timer.status timerId = .dispatched .holding then [.timeout]
      else []
  | .dropSelf task timerId =>
      if (manager.tasks.value task).timer.status timerId = .dispatched .returned ∧
          manager.taskInProc ≠ some task ∧
          ((manager.tasks.value task).dropSelf timerId).hasHolder = false then [.leftover]
      else []

def Equipped (manager : SensorIlluminationManager E) : Prop :=
  ∀ task, manager.taskInProc = some task →
    (manager.tasks.value task).rsSurfaceNode.isSome = true

theorem asService_vacant {manager : SensorIlluminationManager E}
    (vacant : manager.taskInProc = none) : manager.asService.session = none := by
  unfold asService
  rw [vacant]
  cases manager.executorInProc <;> rfl

theorem asService_session {manager : SensorIlluminationManager E} {executor : E} {task : TaskId}
    (owner : manager.executorInProc = some executor) (session : manager.taskInProc = some task) :
    manager.asService.session = some ((manager.tasks.value task).asSession executor) := by
  unfold asService
  rw [owner, session]

theorem asService_congr {first second : SensorIlluminationManager E}
    (owner : second.executorInProc = first.executorInProc)
    (session : second.taskInProc = first.taskInProc)
    (monitor : second.monitor = first.monitor) (serviceEx : second.serviceEx = first.serviceEx)
    (view : ∀ task, first.taskInProc = some task → ∀ executor : E,
      (second.tasks.value task).asSession executor = (first.tasks.value task).asSession executor) :
    second.asService = first.asService := by
  unfold asService
  rw [owner, session, monitor, serviceEx]
  cases first.executorInProc with
  | none => rfl
  | some executor =>
      cases running : first.taskInProc with
      | none => rfl
      | some task =>
          simp only
          rw [view task running executor]

theorem asService_modify {manager : SensorIlluminationManager E} {executor : E} {task : TaskId}
    (owner : manager.executorInProc = some executor) (session : manager.taskInProc = some task)
    (change : SensorIlluminationTask → SensorIlluminationTask) (log : List Event) :
    ({ manager with
        tasks := manager.tasks.modify task change
        log := log } : SensorIlluminationManager E).asService =
      { manager.asService with
        session := some ((change (manager.tasks.value task)).asSession executor) } := by
  unfold asService
  simp only [owner, session, ObjectHeap.modify_value, if_true]

/-! ### Opening a session -/

private theorem enabledTask_asSession (param : EnableSensorIlluminationParam)
    (environment : Environment) (executor : E)
    (enabled : (enabledTask param environment).2 = .success) :
    (enabledTask param environment).1.rsSurfaceNode.isSome = true ∧
      (enabledTask param environment).1.asSession executor =
        { executor := executor
          hasScreen := environment.enable.defaultScreenId.isSome
          brightness := environment.enable.draw.brightness
          lit := false } :=
  SensorIlluminationTask.enable_asSession SensorIlluminationTask.new.registerDestructCallback
    param.centerX param.centerY param.radius param.color environment.enable executor enabled

private theorem enable_asService (manager : SensorIlluminationManager E) (executor : E)
    (param : EnableSensorIlluminationParam) (environment : Environment) (inv : manager.Inv)
    {after : SensorIlluminationManager E} {result : ResultCode}
    (effect : OpenEffect manager executor param environment after result) :
    manager.asService.enable executor param environment = (after.asService, result) := by
  have opened := manager.serviceEx.acquire_isOpened environment.dlopen
  have usable : (manager.serviceEx.isOpened || environment.dlopen) = true →
      (manager.serviceEx.acquire environment.dlopen).1.isOpened ≠ false := by
    intro available
    rw [opened, available]
    decide
  have accepts : (manager.serviceEx.isOpened || environment.dlopen) = true →
      environment.factory = .made →
      IlluminationService.accepts param environment.enable =
        manager.enableAccepted param environment := by
    intro available made
    simp [IlluminationService.accepts, enableAccepted, available, made]
  unfold IlluminationService.enable
  cases effect with
  | busy taken =>
      obtain ⟨owner, owned⟩ : ∃ owner, manager.executorInProc = some owner := by
        rw [← Option.ne_none_iff_exists']
        intro ownerless
        rcases taken with some_ | some_
        · exact some_ ownerless
        · exact some_ (inv.paired.mp ownerless)
      obtain ⟨task, session⟩ := inv.session owned
      rw [if_pos (by rw [asService_session owned session]; rfl)]
  | notAcquired vacant closed unaccepted =>
      have none_ := asService_vacant vacant.2
      rw [none_, if_neg (by simp)]
      have shut : (manager.serviceEx.acquire environment.dlopen).1.isOpened = false := by
        rw [opened, closed]
      simp only [asService, vacant, shut, if_true]
  | noTask vacant available unmade unaccepted =>
      rw [asService_vacant vacant.2, if_neg (by simp)]
      simp only [asService, vacant, if_neg (usable available)]
      cases factory : environment.factory with
      | noSymbol => simp
      | outOfMemory => simp
      | setupThrows => simp
      | made => exact absurd factory unmade
  | rejected object calls vacant available made unaccepted sound off nobody asked =>
      rw [asService_vacant vacant.2, if_neg (by simp)]
      have refused := (accepts available made).trans unaccepted
      simp only [asService, vacant, if_neg (usable available), made, refused, Bool.false_eq_true,
        if_false]
  | opened object vacant accepted enabled =>
      rw [asService_vacant vacant.2, if_neg (by simp)]
      have made := made_of_accepted accepted
      have available : (manager.serviceEx.isOpened || environment.dlopen) = true := by
        simp only [enableAccepted, Bool.and_eq_true] at accepted
        exact accepted.1.1.1.1.1
      have granted := (accepts available made).trans accepted
      have view := (enabledTask_asSession param environment executor (by rw [enabled])).2
      rw [enabled] at view
      simp only [asService, vacant, if_neg (usable available), made, granted, if_true,
        ObjectHeap.alloc_value, view]

/-! ### Commands of the owner -/

private theorem end_asService {manager after : SensorIlluminationManager E} {task : TaskId}
    (effect : EndEffect manager task after) : after.asService = manager.asService.endSession := by
  cases effect <;> rfl

section Steps

variable [DecidableEq E]

theorem forOwner_of_other (manager : SensorIlluminationManager E) (executor : E)
    (operation : IlluminationSession E → IlluminationService E × ResultCode) (inv : manager.Inv)
    (other : manager.executorInProc ≠ some executor) :
    manager.asService.forOwner executor operation = (manager.asService, .generalError) := by
  unfold IlluminationService.forOwner
  cases owned : manager.executorInProc with
  | none => rw [asService_vacant (inv.paired.mp owned)]
  | some owner =>
      obtain ⟨task, session⟩ := inv.session owned
      rw [asService_session owned session]
      simp only
      rw [if_neg]
      intro same
      rw [owned] at other
      exact other (congrArg some same)

theorem forOwner_of_owner {manager : SensorIlluminationManager E} {executor : E} {task : TaskId}
    (owner : manager.executorInProc = some executor) (session : manager.taskInProc = some task)
    (operation : IlluminationSession E → IlluminationService E × ResultCode) :
    manager.asService.forOwner executor operation =
      operation ((manager.tasks.value task).asSession executor) := by
  unfold IlluminationService.forOwner
  rw [asService_session owner session]
  exact if_pos rfl

private theorem withTask_asService {manager : SensorIlluminationManager E} {executor : E}
    {task : TaskId} (owner : manager.executorInProc = some executor)
    (session : manager.taskInProc = some task)
    (operation : SensorIlluminationTask → SensorIlluminationTask × ResultCode)
    (call : ResultCode → TaskCall)
    (plain : (operation (manager.tasks.value task)).2 = .success ∨
      (operation (manager.tasks.value task)).2 = .generalError) :
    ((manager.withTask executor operation call).1.asService,
        (manager.withTask executor operation call).2) =
      ({ manager.asService with
          session := some ((operation (manager.tasks.value task)).1.asSession executor) },
        (operation (manager.tasks.value task)).2) := by
  have changed := manager.withTask_of_owner executor operation call task owner session
  have answered : (manager.withTask executor operation call).2 =
      (operation (manager.tasks.value task)).2 := by
    unfold withTask
    rw [if_neg (not_not.mpr owner)]
    simp only [session]
    rcases plain with success | failure
    · rw [success]
      rfl
    · rw [failure]
      rfl
  rw [changed, answered, asService_modify owner session]

private theorem turnOn_result (task : SensorIlluminationTask) (monitor : ScreenStateMonitor)
    (answer : DrawAnswer) :
    (task.turnOnSensorIllumination monitor answer).2 = .success ∨
      (task.turnOnSensorIllumination monitor answer).2 = .generalError := by
  have effect := SensorIlluminationTask.turnOnSensorIllumination_effect task monitor answer
  generalize task.turnOnSensorIllumination monitor answer = outcome at effect ⊢
  obtain ⟨after, result⟩ := outcome
  cases effect with
  | still result reason =>
      rcases reason with ⟨_, failure⟩ | ⟨_, success⟩
      · exact Or.inr failure
      · exact Or.inl success
  | drawFailed drawn drawResult off failed draw => exact Or.inr rfl
  | noScreen drawn off draw absent => exact Or.inr rfl
  | lit drawn node screen screenOn off draw nodePresent screenPresent => exact Or.inl rfl

/-- A command has the same answer and the same effect for the service. -/
theorem process_asService (manager : SensorIlluminationManager E) (executor : E)
    (command : SaCommand) (environment : Environment) (inv : manager.Inv)
    (equipped : manager.Equipped) :
    manager.asService.process executor command environment =
      ((manager.processSaCommand (some executor) command environment).1.asService,
        (manager.processSaCommand (some executor) command environment).2) := by
  unfold processSaCommand IlluminationService.process
  cases named : command.id with
  | enableSensorIllumination =>
      simp only
      exact enable_asService manager executor _ environment inv
        (enableSensorIllumination_effect manager executor command.param environment inv)
  | disableSensorIllumination =>
      simp only [disableSensorIllumination]
      by_cases owner : manager.executorInProc = some executor
      · obtain ⟨task, session⟩ := inv.session owner
        rw [forOwner_of_owner owner session, if_neg (not_not.mpr owner)]
        have ended := end_asService (endSession_effect manager task inv session)
        simp only [ended]
      · rw [forOwner_of_other manager executor _ inv owner, if_pos owner]
  | turnOnSensorIllumination =>
      simp only [turnOnSensorIllumination]
      by_cases owner : manager.executorInProc = some executor
      · obtain ⟨task, session⟩ := inv.session owner
        rw [forOwner_of_owner owner session,
          withTask_asService owner session _ _ (turnOn_result _ manager.monitor environment.draw)]
        have mirrored := SensorIlluminationTask.turnOn_asSession (manager.tasks.value task)
          manager.monitor environment.draw executor (inv.sound task) (equipped task session)
        have sameMonitor : manager.asService.monitor = manager.monitor := rfl
        simp only [sameMonitor, mirrored]
      · rw [forOwner_of_other manager executor _ inv owner, manager.withTask_of_other _ _ _ owner]
  | turnOffSensorIllumination =>
      simp only [turnOffSensorIllumination]
      by_cases owner : manager.executorInProc = some executor
      · obtain ⟨task, session⟩ := inv.session owner
        have succeeds := SensorIlluminationTask.turnOff_succeeds (manager.tasks.value task)
          (inv.sound task) (equipped task session)
        rw [forOwner_of_owner owner session,
          withTask_asService owner session _ _ (Or.inl succeeds), succeeds,
          SensorIlluminationTask.turnOff_asSession _ executor (inv.sound task)]
      · rw [forOwner_of_other manager executor _ inv owner, manager.withTask_of_other _ _ _ owner]
  | other id => rfl

/-! ### Every step -/

omit [DecidableEq E] in
private theorem modify_unnoticed (manager : SensorIlluminationManager E) (task : TaskId)
    (change : SensorIlluminationTask → SensorIlluminationTask)
    (unnoticed : manager.taskInProc = some task → ∀ executor : E,
      (change (manager.tasks.value task)).asSession executor =
        (manager.tasks.value task).asSession executor) :
    (manager.onTask task change).asService = manager.asService := by
  refine @asService_congr E manager _ rfl rfl rfl rfl ?_
  intro other session executor
  simp only [onTask, ObjectHeap.modify_value]
  by_cases same : other = task
  · rw [if_pos same, same]
    rw [same] at session
    exact unnoticed session executor
  · rw [if_neg same]

private theorem onDisplayTimeOut_asService (manager : SensorIlluminationManager E) (task : TaskId)
    (timerId : TimerId) (inv : manager.Inv) :
    (manager.onDisplayTimeOut task timerId).asService =
      StepMachine.run IlluminationService.step manager.asService
        (manager.observed (.onDisplayTimeOut task timerId)) := by
  have sound := inv.sound task
  simp only [observed]
  by_cases holding : (manager.tasks.value task).timer.status timerId = .dispatched .holding
  · by_cases session : manager.taskInProc = some task
    · have dark : ∀ executor : E, ((manager.tasks.value task).runDisplayTimeOut timerId).asSession
          executor = ((manager.tasks.value task).asSession executor).turnOff := by
        intro executor
        rw [← SensorIlluminationTask.turnOff_asSession _ executor sound,
          SensorIlluminationTask.runDisplayTimeOut, if_pos holding]
        rfl
      obtain ⟨executor, owner⟩ : ∃ executor, manager.executorInProc = some executor := by
        rw [← Option.ne_none_iff_exists']
        intro ownerless
        rw [inv.paired.mp ownerless] at session
        cases session
      have changed := asService_modify owner session
        (fun object => object.runDisplayTimeOut timerId) manager.log
      rw [if_pos ⟨session, holding⟩, StepMachine.run_cons, StepMachine.run_nil]
      simp only [IlluminationService.step, asService_session owner session, Option.map_some]
      rw [← dark executor]
      exact changed
    · rw [if_neg (fun both => session both.1), StepMachine.run_nil]
      exact modify_unnoticed manager task _ (fun same => absurd same session)
  · rw [if_neg (fun both => holding both.2), StepMachine.run_nil]
    apply modify_unnoticed manager task
    intro _ executor
    rw [SensorIlluminationTask.runDisplayTimeOut_of_not_holding _ timerId holding]

private theorem dropSelf_asService (manager : SensorIlluminationManager E) (task : TaskId)
    (timerId : TimerId) (inv : manager.Inv) :
    (manager.dropSelf task timerId).asService =
      StepMachine.run IlluminationService.step manager.asService
        (manager.observed (.dropSelf task timerId)) := by
  have effect := dropSelf_effect manager task timerId inv
  have view : ∀ executor : E, ((manager.tasks.value task).dropSelf timerId).asSession executor =
      (manager.tasks.value task).asSession executor := by
    intro executor
    unfold SensorIlluminationTask.dropSelf
    split <;> rfl
  simp only [observed]
  generalize manager.dropSelf task timerId = after at effect ⊢
  cases effect with
  | elsewhere other =>
      rw [if_neg (fun all => other all.1)]
      rfl
  | kept returned remains =>
      have staying : ¬(manager.taskInProc ≠ some task ∧
          ((manager.tasks.value task).dropSelf timerId).hasHolder = false) := by
        rintro ⟨abandoned, nobody⟩
        rcases remains with session | holder
        · exact abandoned session
        · rw [nobody] at holder
          cases holder
      rw [if_neg (fun all => staying all.2)]
      exact modify_unnoticed manager task _ (fun _ => view)
  | last returned live abandoned nobody =>
      rw [if_pos ⟨returned, abandoned, nobody⟩, StepMachine.run_cons, StepMachine.run_nil]
      have unseen : ({ manager with
          tasks := (manager.tasks.modify task
            (fun object => (object.dropSelf timerId).stopTimer)).free task
          log := manager.log ++ [.destroyed task .timerThread, .release] } :
          SensorIlluminationManager E).asService = manager.asService := by
        refine @asService_congr E manager _ rfl rfl rfl rfl ?_
        intro other session executor
        have different : other ≠ task := by
          intro same
          rw [same] at session
          exact abandoned session
        simp only [ObjectHeap.free_value, ObjectHeap.modify_value, if_neg different]
      rw [← unseen]
      rfl

theorem step_asService (manager : SensorIlluminationManager E) (action : ManagerAction E)
    (inv : manager.Inv) (equipped : manager.Equipped) :
    (manager.step action).asService =
      StepMachine.run IlluminationService.step manager.asService (manager.observed action) := by
  cases action with
  | processSaCommand executor command environment =>
      cases executor with
      | none => rfl
      | some executor =>
          have processed := process_asService manager executor command environment inv equipped
          simp only [observed, StepMachine.run_cons, StepMachine.run_nil, IlluminationService.step,
            processed]
          rfl
  | onHdiDisconnect executor =>
      cases executor with
      | none => rfl
      | some executor =>
          simp only [observed, StepMachine.run_cons, StepMachine.run_nil, IlluminationService.step,
            step, onHdiDisconnect]
          by_cases owner : manager.executorInProc = some executor
          · obtain ⟨task, session⟩ := inv.session owner
            rw [forOwner_of_owner owner session, if_neg (not_not.mpr owner)]
            exact end_asService (endSession_effect manager task inv session)
          · rw [forOwner_of_other manager executor _ inv owner, if_pos owner]
  | setScreenOn isOn => rfl
  | dispatch task timerId =>
      simp only [step, dispatchTimer, observed, StepMachine.run_nil]
      split
      · exact modify_unnoticed manager task _ (fun _ _ => rfl)
      · rfl
  | lockSelf task timerId =>
      simp only [step, lockSelf, observed, StepMachine.run_nil]
      split
      · apply modify_unnoticed manager task
        intro _ executor
        unfold SensorIlluminationTask.lockSelf
        split <;> rfl
      · exact modify_unnoticed manager task _ (fun _ _ => rfl)
  | onDisplayTimeOut task timerId => exact onDisplayTimeOut_asService manager task timerId inv
  | dropSelf task timerId => exact dropSelf_asService manager task timerId inv

omit [DecidableEq E] in
private theorem modify_equipped {manager after : SensorIlluminationManager E}
    (equipped : manager.Equipped) (task : TaskId)
    (change : SensorIlluminationTask → SensorIlluminationTask)
    (keeps : (change (manager.tasks.value task)).rsSurfaceNode =
      (manager.tasks.value task).rsSurfaceNode)
    (session : after.taskInProc = manager.taskInProc)
    (value : after.tasks.value = (manager.tasks.modify task change).value) : after.Equipped := by
  intro other running
  rw [session] at running
  rw [value, ObjectHeap.modify_value]
  by_cases same : other = task
  · rw [if_pos same, same, keeps, ← same]
    exact equipped other running
  · rw [if_neg same]
    exact equipped other running

omit [DecidableEq E] in
private theorem vacant_equipped {manager : SensorIlluminationManager E}
    (vacant : manager.taskInProc = none) : manager.Equipped := by
  intro task session
  rw [vacant] at session
  cases session

omit [DecidableEq E] in
theorem new_equipped : (new : SensorIlluminationManager E).Equipped := vacant_equipped rfl

theorem step_equipped (manager : SensorIlluminationManager E) (action : ManagerAction E)
    (inv : manager.Inv) (equipped : manager.Equipped) : (manager.step action).Equipped := by
  have effect := manager.step_effect action inv
  generalize manager.step action = after at effect ⊢
  cases effect with
  | idle => exact equipped
  | enable executor command environment _ result named effect =>
      cases effect with
      | busy taken => exact equipped
      | notAcquired vacant closed unaccepted => exact vacant_equipped vacant.2
      | noTask vacant available unmade unaccepted => exact vacant_equipped vacant.2
      | rejected object calls vacant available made unaccepted sound off nobody asked =>
          exact vacant_equipped vacant.2
      | opened object vacant accepted enabled =>
          intro task session
          simp only [Option.some.injEq] at session
          have node := (enabledTask_asSession command.param.enableSensorIllumination environment
            executor (by rw [enabled])).1
          rw [enabled] at node
          simp only [ObjectHeap.alloc_value, session, if_true]
          exact node
  | turnOn executor command environment task named owner session =>
      exact modify_equipped equipped task _
        (SensorIlluminationTask.turnOn_node _ manager.monitor environment.draw) rfl rfl
  | turnOff executor command environment task named owner session =>
      exact modify_equipped equipped task _ (SensorIlluminationTask.turnOff_node _) rfl rfl
  | disable executor command environment task _ named owner session effect =>
      cases effect <;> exact vacant_equipped rfl
  | disconnect executor task _ owner session effect =>
      cases effect <;> exact vacant_equipped rfl
  | screen isOn => exact equipped
  | callback _ task taskAction named live =>
      refine modify_equipped equipped task _ ?_ rfl rfl
      obtain ⟨timerId, dispatched | locked | ran⟩ := callbackStep_cases named
      · rw [dispatched]
        rfl
      · rw [locked, SensorIlluminationTask.step, SensorIlluminationTask.lockSelf]
        split <;> rfl
      · rw [ran]
        exact SensorIlluminationTask.runDisplayTimeOut_node _ timerId
  | expired task timerId dead => exact modify_equipped equipped task _ rfl rfl rfl
  | dropSelf task timerId _ effect =>
      have keeps : ((manager.tasks.value task).dropSelf timerId).rsSurfaceNode =
          (manager.tasks.value task).rsSurfaceNode := by
        unfold SensorIlluminationTask.dropSelf
        split <;> rfl
      cases effect with
      | elsewhere other => exact equipped
      | kept returned remains =>
          exact modify_equipped equipped task (fun object => object.dropSelf timerId) keeps rfl rfl
      | last returned live abandoned nobody =>
          exact modify_equipped equipped task
            (fun object => (object.dropSelf timerId).stopTimer) keeps rfl rfl

structure Refines (manager : SensorIlluminationManager E) (service : IlluminationService E) :
    Prop where
  inv : manager.Inv
  equipped : manager.Equipped
  same : manager.asService = service

theorem run_refines (actions : List (ManagerAction E)) :
    (StepMachine.run step (new : SensorIlluminationManager E) actions).Refines
      (StepMachine.run IlluminationService.step IlluminationService.new
        (StepMachine.committed step observed new actions)) := by
  refine StepMachine.committed_related Refines ?_ ⟨new_inv, new_equipped, rfl⟩ actions
  intro manager service action refines
  refine ⟨step_inv manager action refines.inv,
    step_equipped manager action refines.inv refines.equipped, ?_⟩
  rw [← refines.same]
  exact step_asService manager action refines.inv refines.equipped

/-- Task objects, references and timers make no difference: in every run the manager is
the service after the commands, disconnects, screen events and timeouts of the run, and
it answers the next command as the service does. -/
theorem refines_service (actions : List (ManagerAction E)) :
    (StepMachine.run step (new : SensorIlluminationManager E) actions).asService =
        StepMachine.run IlluminationService.step IlluminationService.new
          (StepMachine.committed step observed new actions) ∧
      ∀ executor command environment,
        ((StepMachine.run step (new : SensorIlluminationManager E) actions).processSaCommand
            (some executor) command environment).2 =
          ((StepMachine.run IlluminationService.step IlluminationService.new
            (StepMachine.committed step observed new actions)).process executor command
              environment).2 := by
  have refines := run_refines (E := E) actions
  refine ⟨refines.same, ?_⟩
  intro executor command environment
  rw [← refines.same, process_asService _ executor command environment refines.inv
    refines.equipped]

end Steps

end SensorIlluminationManager

end FingerprintAuth

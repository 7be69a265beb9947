/-
A command of the manager taken apart.

A command or a disconnect holds the manager's lock from its first check to its
return, but its parts are guarded by other locks or by none, so that screen events
and callbacks fall between them. Here each part is a step of its own: an `ENABLE`
acquires the library, creates the task, enables it, and then fills the session fields
or lets the task go; the end of a session disables the task, unsubscribes, and lets
the task go. Switching on and off are one section under the task's lock.
-/

import FingerprintAuth.ManagerRuns
import FingerprintAuth.Library.CommitPoint

set_option autoImplicit false

universe u

namespace FingerprintAuth

inductive EnableStage where
  | acquire
  | create
  | enable (task : TaskId)
  | seat (task : TaskId)
  | discard (task : TaskId)
deriving DecidableEq, Repr

inductive EndStage where
  | disable (task : TaskId)
  | unsubscribe (task : TaskId)
  | drop (task : TaskId)
deriving DecidableEq, Repr

inductive EndingCall (E : Type u) where
  | disable (executor : E) (command : SaCommand) (environment : Environment)
  | disconnect (executor : E)

namespace EndingCall

variable {E : Type u}

def action : EndingCall E → ManagerAction E
  | .disable executor command environment =>
      .processSaCommand (some executor) command environment
  | .disconnect executor => .onHdiDisconnect (some executor)

def answer : EndingCall E → Option ResultCode
  | .disable _ _ _ => some .success
  | .disconnect _ => none

end EndingCall

inductive CallInside (E : Type u) where
  | enabling (executor : E) (command : SaCommand) (environment : Environment) (stage : EnableStage)
  | ending (call : EndingCall E) (stage : EndStage)

/-- `returned` lists what the calls have answered, in the order of their returns. A
disconnect answers nothing. -/
structure LockedManager (E : Type u) where
  manager : SensorIlluminationManager E
  inside : Option (CallInside E)
  returned : List (Option ResultCode)

/-- `enter` is the first section of a call and `proceed` the next section of the call
inside. -/
inductive LockedAction (E : Type u) where
  | enter (call : ManagerAction E)
  | proceed
  | background (action : ManagerAction E)

def SensorIlluminationTask.tryEnable (task : SensorIlluminationTask)
    (param : EnableSensorIlluminationParam) (environment : Environment) :
    SensorIlluminationTask × Bool :=
  let task := task.registerDestructCallback
  if ¬param.centerX < maxXYValue then (task, false)
  else if ¬param.centerY < maxXYValue then (task, false)
  else if ¬param.radius < maxRadiusLen then (task, false)
  else
    let (enabled, enableResultCode) :=
      task.enableSensorIllumination param.centerX param.centerY param.radius param.color
        environment.enable
    (enabled, enableResultCode = .success)

theorem SensorIlluminationTask.tryEnable_timer (task : SensorIlluminationTask)
    (param : EnableSensorIlluminationParam) (environment : Environment) :
    (task.tryEnable param environment).1.timer = task.timer := by
  unfold SensorIlluminationTask.tryEnable
  split
  · rfl
  split
  · rfl
  split
  · rfl
  exact (SensorIlluminationTask.enable_keeps task.registerDestructCallback param.centerX
    param.centerY param.radius param.color environment.enable).1

namespace SensorIlluminationManager

variable {E : Type u}

def tryEnable (manager : SensorIlluminationManager E) (task : TaskId)
    (param : EnableSensorIlluminationParam) (environment : Environment) :
    SensorIlluminationManager E × Bool :=
  let manager := manager.onTask task SensorIlluminationTask.registerDestructCallback
  if ¬param.centerX < maxXYValue then (manager, false)
  else if ¬param.centerY < maxXYValue then (manager, false)
  else if ¬param.radius < maxRadiusLen then (manager, false)
  else
    let (enabled, enableResultCode) :=
      (manager.tasks.value task).enableSensorIllumination param.centerX param.centerY param.radius
        param.color environment.enable
    let manager := manager.onTask task (fun _ => enabled)
    let manager :=
      manager.record
        (.call task (.enableSensorIllumination param environment.enable enableResultCode))
    (manager, enableResultCode = .success)

def seat (manager : SensorIlluminationManager E) (executor : E) (task : TaskId) :
    SensorIlluminationManager E :=
  { manager with
    executorInProc := some executor
    taskInProc := some task }

theorem enableTask_eq (manager : SensorIlluminationManager E) (executor : E) (task : TaskId)
    (param : EnableSensorIlluminationParam) (environment : Environment) :
    manager.enableTask executor task param environment =
      if (manager.tryEnable task param environment).2 then
        ((manager.tryEnable task param environment).1.seat executor task, .success)
      else ((manager.tryEnable task param environment).1, .generalError) := by
  unfold enableTask tryEnable
  by_cases inX : param.centerX < maxXYValue
  case neg => simp [inX]
  by_cases inY : param.centerY < maxXYValue
  case neg => simp [inX, inY]
  by_cases inRadius : param.radius < maxRadiusLen
  case neg => simp [inX, inY, inRadius]
  simp only [inX, inY, inRadius, not_true_eq_false, if_false, decide_eq_true_eq]
  split <;> rfl

end SensorIlluminationManager

namespace LockedManager

variable {E : Type u}

def new : LockedManager E :=
  { manager := SensorIlluminationManager.new
    inside := none
    returned := [] }

def leave (locked : LockedManager E) (manager : SensorIlluminationManager E)
    (answer : Option ResultCode) : LockedManager E :=
  { manager := manager
    inside := none
    returned := locked.returned ++ [answer] }

def goOn (locked : LockedManager E) (manager : SensorIlluminationManager E)
    (inside : CallInside E) : LockedManager E :=
  { locked with
    manager := manager
    inside := some inside }

def enterEnable (locked : LockedManager E) (executor : E) (command : SaCommand)
    (environment : Environment) : LockedManager E :=
  if locked.manager.executorInProc.isSome then locked.leave locked.manager (some .generalError)
  else if locked.manager.taskInProc.isSome then locked.leave locked.manager (some .generalError)
  else locked.goOn locked.manager (.enabling executor command environment .acquire)

def enterEnd (locked : LockedManager E) (call : EndingCall E) : LockedManager E :=
  let manager : SensorIlluminationManager E := { locked.manager with executorInProc := none }
  match manager.taskInProc with
  | none => locked.leave manager call.answer
  | some task => locked.goOn manager (.ending call (.disable task))

def proceedEnable (locked : LockedManager E) (executor : E) (command : SaCommand)
    (environment : Environment) : EnableStage → LockedManager E
  | .acquire =>
      let (manager, acquireRet) := locked.manager.acquire environment.dlopen
      if acquireRet = .success then
        locked.goOn manager (.enabling executor command environment .create)
      else locked.leave manager (some .generalError)
  | .create =>
      match locked.manager.getSensorIlluminationTask environment with
      | (manager, none) => locked.leave manager.release (some .generalError)
      | (manager, some task) =>
          locked.goOn manager (.enabling executor command environment (.enable task))
  | .enable task =>
      let (manager, enabled) :=
        locked.manager.tryEnable task command.param.enableSensorIllumination environment
      locked.goOn manager
        (.enabling executor command environment (if enabled then .seat task else .discard task))
  | .seat task => locked.leave (locked.manager.seat executor task) (some .success)
  | .discard task => locked.leave (locked.manager.dropReference task) (some .generalError)

/-- `DisableSensorIllumination` of the task is taken apart at the call of
`Unsubscribe`. -/
def proceedEnd (locked : LockedManager E) (call : EndingCall E) : EndStage → LockedManager E
  | .disable task =>
      locked.goOn
        (locked.manager.onTask task
          (fun object => (object.disableSensorIllumination locked.manager.monitor).1))
        (.ending call (.unsubscribe task))
  | .unsubscribe task =>
      locked.goOn
        (({ locked.manager with monitor := locked.manager.monitor.unsubscribe } :
          SensorIlluminationManager E).record (.call task (.disableSensorIllumination .success)))
        (.ending call (.drop task))
  | .drop task =>
      locked.leave
        (({ locked.manager with taskInProc := none } :
          SensorIlluminationManager E).dropReference task) call.answer

def proceed (locked : LockedManager E) : LockedManager E :=
  match locked.inside with
  | none => locked
  | some (.enabling executor command environment stage) =>
      locked.proceedEnable executor command environment stage
  | some (.ending call stage) => locked.proceedEnd call stage

variable [DecidableEq E]

/-- The first section of a call that has got the lock. -/
def enterUnlocked (locked : LockedManager E) : ManagerAction E → LockedManager E
  | .processSaCommand none _ _ => locked.leave locked.manager (some .generalError)
  | .processSaCommand (some executor) command environment =>
      match command.id with
      | .enableSensorIllumination => locked.enterEnable executor command environment
      | .disableSensorIllumination =>
          if locked.manager.executorInProc ≠ some executor then
            locked.leave locked.manager (some .generalError)
          else locked.enterEnd (.disable executor command environment)
      | .turnOnSensorIllumination =>
          let (manager, result) := locked.manager.turnOnSensorIllumination executor environment
          locked.leave manager (some result)
      | .turnOffSensorIllumination =>
          let (manager, result) := locked.manager.turnOffSensorIllumination executor
          locked.leave manager (some result)
      | .other _ => locked.leave locked.manager (some .generalError)
  | .onHdiDisconnect none => locked.leave locked.manager none
  | .onHdiDisconnect (some executor) =>
      if locked.manager.executorInProc ≠ some executor then locked.leave locked.manager none
      else locked.enterEnd (.disconnect executor)
  | _ => locked

def enter (locked : LockedManager E) (call : ManagerAction E) : LockedManager E :=
  if locked.inside.isSome then locked else locked.enterUnlocked call

end LockedManager

def ManagerAction.isCall {E : Type u} : ManagerAction E → Bool
  | .processSaCommand _ _ _ => true
  | .onHdiDisconnect _ => true
  | _ => false

namespace LockedManager

variable {E : Type u} [DecidableEq E]

def step (locked : LockedManager E) : LockedAction E → LockedManager E
  | .enter call => locked.enter call
  | .proceed => locked.proceed
  | .background action =>
      if action.isCall then locked
      else { locked with manager := locked.manager.step action }

/-! ### Where a call is committed -/

def enterCommits (locked : LockedManager E) (call : ManagerAction E) : List (ManagerAction E) :=
  if locked.inside.isSome then []
  else if ¬call.isCall then []
  else if (locked.enterUnlocked call).inside.isSome then []
  else [call]

/-- An `ENABLE` is committed where it fails to acquire the library or where it
creates the task, and the end of a session where it lets the task go. -/
def proceedCommits (locked : LockedManager E) : List (ManagerAction E) :=
  match locked.inside with
  | none => []
  | some (.enabling executor command environment stage) =>
      match stage with
      | .acquire =>
          if (locked.manager.acquire environment.dlopen).2 = .success then []
          else [.processSaCommand (some executor) command environment]
      | .create => [.processSaCommand (some executor) command environment]
      | _ => []
  | some (.ending call stage) =>
      match stage with
      | .drop _ => [call.action]
      | _ => []

def enters (locked : LockedManager E) : LockedAction E → List (ManagerAction E)
  | .enter call => if locked.inside.isSome then [] else if call.isCall then [call] else []
  | _ => []

def uncounted (locked : LockedManager E) : List (ManagerAction E) :=
  match locked.inside with
  | none => []
  | some (.enabling executor command environment stage) =>
      match stage with
      | .acquire => [.processSaCommand (some executor) command environment]
      | .create => [.processSaCommand (some executor) command environment]
      | _ => []
  | some (.ending call _) => [call.action]

/-- A callback's step that finds its callback elsewhere does nothing. -/
def ineffective (tasks : ObjectHeap SensorIlluminationTask) : ManagerAction E → Bool
  | .dispatch task timerId => (tasks.value task).timer.status timerId != .registered
  | .lockSelf task timerId => !((tasks.value task).timer.status timerId).running (fun _ => true)
  | .onDisplayTimeOut task timerId =>
      (tasks.value task).timer.status timerId != .dispatched .holding
  | .dropSelf task timerId => (tasks.value task).timer.status timerId != .dispatched .returned
  | _ => false

def commits (locked : LockedManager E) : LockedAction E → List (ManagerAction E)
  | .enter call => locked.enterCommits call
  | .proceed => locked.proceedCommits
  | .background action =>
      if action.isCall then []
      else if ineffective locked.manager.tasks action then []
      else [action]

end LockedManager

structure AnsweringManager (E : Type u) where
  manager : SensorIlluminationManager E
  answers : List (Option ResultCode)

namespace AnsweringManager

variable {E : Type u}

def new : AnsweringManager E :=
  { manager := SensorIlluminationManager.new
    answers := [] }

def step [DecidableEq E] (answering : AnsweringManager E) (action : ManagerAction E) :
    AnsweringManager E :=
  { manager := answering.manager.step action
    answers :=
      if action.isCall then answering.answers ++ [answering.manager.result action]
      else answering.answers }

theorem run_manager [DecidableEq E] (answering : AnsweringManager E)
    (actions : List (ManagerAction E)) :
    (StepMachine.run step answering actions).manager =
      StepMachine.run SensorIlluminationManager.step answering.manager actions := by
  induction actions generalizing answering with
  | nil => rfl
  | cons action rest ih => exact ih (answering.step action)

end AnsweringManager

end FingerprintAuth

/-
The manager of sensor illuminations: which executor has the session, the task that
serves it, and every task object still alive.

A command or a disconnect runs under the manager's lock and is one step here. The
steps of display-timeout callbacks fall between them. A callback that gets the
task's lock inside a command does what it would have done just before it: the task
is dark by then, and the reference it drops is not the last one.
-/

import FingerprintAuth.ServiceExManager
import FingerprintAuth.TaskRuns
import FingerprintAuth.Library.ObjectHeap

set_option autoImplicit false

universe u

namespace FingerprintAuth

abbrev TaskId := Nat

def maxRadiusLen : UInt32 := 300
def maxXYValue : UInt32 := 1000

inductive TaskCall where
  | enableSensorIllumination (param : EnableSensorIlluminationParam) (answer : EnableAnswer)
      (result : ResultCode)
  | turnOnSensorIllumination (answer : DrawAnswer) (result : ResultCode)
  | turnOffSensorIllumination (result : ResultCode)
  | disableSensorIllumination (result : ResultCode)
deriving DecidableEq, Repr

inductive Thread where
  | caller
  | timerThread
deriving DecidableEq, Repr

/-- What the log of a run records. `dropped` is the manager's last reference to a
task going out of scope. -/
inductive Event where
  | acquire (result : ResultCode)
  | release
  | created (task : TaskId)
  | call (task : TaskId) (call : TaskCall)
  | dropped (task : TaskId)
  | destroyed (task : TaskId) (thread : Thread)
deriving DecidableEq, Repr

structure Environment where
  dlopen : Bool
  factory : TaskFactory
  subscribe : SubscribeAnswer
  enable : EnableAnswer
  draw : DrawAnswer
deriving DecidableEq, Repr

/-- The manager together with the singletons it drives. `log` is not in the source;
no operation reads it. -/
structure SensorIlluminationManager (E : Type u) where
  executorInProc : Option E
  taskInProc : Option TaskId
  serviceEx : ServiceExManager
  monitor : ScreenStateMonitor
  tasks : ObjectHeap SensorIlluminationTask
  log : List Event

namespace SensorIlluminationManager

variable {E : Type u}

def new : SensorIlluminationManager E :=
  { executorInProc := none
    taskInProc := none
    serviceEx := {}
    monitor := {}
    tasks := ObjectHeap.empty SensorIlluminationTask.new
    log := [] }

def record (manager : SensorIlluminationManager E) (event : Event) : SensorIlluminationManager E :=
  { manager with log := manager.log ++ [event] }

def onTask (manager : SensorIlluminationManager E) (task : TaskId)
    (change : SensorIlluminationTask → SensorIlluminationTask) : SensorIlluminationManager E :=
  { manager with tasks := manager.tasks.modify task change }

/-! ### The extension library -/

def acquire (manager : SensorIlluminationManager E) (dlopen : Bool) :
    SensorIlluminationManager E × ResultCode :=
  let (serviceEx, result) := manager.serviceEx.acquire dlopen
  (({ manager with serviceEx := serviceEx } : SensorIlluminationManager E).record (.acquire result),
    result)

/-- The library is not closed. -/
def release (manager : SensorIlluminationManager E) : SensorIlluminationManager E :=
  manager.record .release

def getSensorIlluminationTask (manager : SensorIlluminationManager E) (environment : Environment) :
    SensorIlluminationManager E × Option TaskId :=
  if manager.serviceEx.handle = false then (manager, none)
  else
    match environment.factory with
    | .noSymbol => (manager, none)
    | .outOfMemory => (manager, none)
    | .setupThrows =>
        ({ manager with monitor := manager.monitor.subscribe environment.subscribe }, none)
    | .made =>
        let task := manager.tasks.next
        let manager : SensorIlluminationManager E :=
          { manager with
            monitor := manager.monitor.subscribe environment.subscribe
            tasks := manager.tasks.alloc SensorIlluminationTask.new }
        (manager.record (.created task), some task)

/-! ### References -/

def isReferenced (manager : SensorIlluminationManager E) (task : TaskId) : Bool :=
  manager.taskInProc == some task || (manager.tasks.value task).hasHolder

/-- The destructor, on the thread that let the last reference go. -/
def destroy (manager : SensorIlluminationManager E) (task : TaskId) (thread : Thread) :
    SensorIlluminationManager E :=
  let callback := (manager.tasks.value task).destructCallback
  let manager : SensorIlluminationManager E :=
    { manager with
      monitor := manager.monitor.unsubscribe
      tasks := (manager.tasks.modify task SensorIlluminationTask.stopTimer).free task }
  let manager := manager.record (.destroyed task thread)
  if callback then manager.release else manager

/-- A reference was let go on this thread. -/
def releaseReference (manager : SensorIlluminationManager E) (task : TaskId) (thread : Thread) :
    SensorIlluminationManager E :=
  if task ∈ manager.tasks.live ∧ manager.isReferenced task = false then
    manager.destroy task thread
  else manager

/-- A reference of the manager goes out of scope. -/
def dropReference (manager : SensorIlluminationManager E) (task : TaskId) :
    SensorIlluminationManager E :=
  if manager.taskInProc = some task then manager
  else (manager.record (.dropped task)).releaseReference task .caller

/-! ### Commands -/

/-- The part of `enableSensorIllumination` that holds the new task in a local
pointer. -/
def enableTask (manager : SensorIlluminationManager E) (executor : E) (task : TaskId)
    (param : EnableSensorIlluminationParam) (environment : Environment) :
    SensorIlluminationManager E × ResultCode :=
  let manager := manager.onTask task SensorIlluminationTask.registerDestructCallback
  if ¬param.centerX < maxXYValue then (manager, .generalError)
  else if ¬param.centerY < maxXYValue then (manager, .generalError)
  else if ¬param.radius < maxRadiusLen then (manager, .generalError)
  else
    let (enabled, enableResultCode) :=
      (manager.tasks.value task).enableSensorIllumination param.centerX param.centerY param.radius
        param.color environment.enable
    let manager := manager.onTask task (fun _ => enabled)
    let manager :=
      manager.record
        (.call task (.enableSensorIllumination param environment.enable enableResultCode))
    if enableResultCode = .success then
      ({ manager with
          executorInProc := some executor
          taskInProc := some task }, .success)
    else (manager, .generalError)

def enableSensorIllumination (manager : SensorIlluminationManager E) (executor : E)
    (param : SaCommandParam) (environment : Environment) :
    SensorIlluminationManager E × ResultCode :=
  if manager.executorInProc.isSome then (manager, .generalError)
  else if manager.taskInProc.isSome then (manager, .generalError)
  else
    let (manager, acquireRet) := manager.acquire environment.dlopen
    if acquireRet = .success then
      match manager.getSensorIlluminationTask environment with
      | (manager, none) => (manager.release, .generalError)
      | (manager, some task) =>
          let (manager, result) :=
            manager.enableTask executor task param.enableSensorIllumination environment
          (manager.dropReference task, result)
    else (manager, .generalError)

/-- What a `DISABLE` of the owner and a disconnect of the owner have in common. -/
def endSession (manager : SensorIlluminationManager E) : SensorIlluminationManager E :=
  let manager : SensorIlluminationManager E := { manager with executorInProc := none }
  match manager.taskInProc with
  | none => manager
  | some task =>
      let (disabled, monitor, disableResultCode) :=
        (manager.tasks.value task).disableSensorIllumination manager.monitor
      let manager := manager.onTask task (fun _ => disabled)
      let manager : SensorIlluminationManager E := { manager with monitor := monitor }
      let manager := manager.record (.call task (.disableSensorIllumination disableResultCode))
      ({ manager with taskInProc := none } : SensorIlluminationManager E).dropReference task

section Commands

variable [DecidableEq E]

def disableSensorIllumination (manager : SensorIlluminationManager E) (executor : E) :
    SensorIlluminationManager E × ResultCode :=
  if manager.executorInProc ≠ some executor then (manager, .generalError)
  else (manager.endSession, .success)

/-- The two commands that go to the task of a running session. -/
def withTask (manager : SensorIlluminationManager E) (executor : E)
    (operation : SensorIlluminationTask → SensorIlluminationTask × ResultCode)
    (call : ResultCode → TaskCall) : SensorIlluminationManager E × ResultCode :=
  if manager.executorInProc ≠ some executor then (manager, .generalError)
  else
    match manager.taskInProc with
    | none => (manager, .generalError)
    | some task =>
        let (changed, resultCode) := operation (manager.tasks.value task)
        let manager := manager.onTask task (fun _ => changed)
        let manager := manager.record (.call task (call resultCode))
        if resultCode = .success then (manager, .success) else (manager, .generalError)

def turnOnSensorIllumination (manager : SensorIlluminationManager E) (executor : E)
    (environment : Environment) : SensorIlluminationManager E × ResultCode :=
  manager.withTask executor
    (fun task => task.turnOnSensorIllumination manager.monitor environment.draw)
    (.turnOnSensorIllumination environment.draw)

def turnOffSensorIllumination (manager : SensorIlluminationManager E) (executor : E) :
    SensorIlluminationManager E × ResultCode :=
  manager.withTask executor SensorIlluminationTask.turnOffSensorIllumination
    .turnOffSensorIllumination

def processSaCommand (manager : SensorIlluminationManager E) (executor : Option E)
    (command : SaCommand) (environment : Environment) : SensorIlluminationManager E × ResultCode :=
  match executor with
  | none => (manager, .generalError)
  | some executor =>
      match command.id with
      | .enableSensorIllumination =>
          manager.enableSensorIllumination executor command.param environment
      | .disableSensorIllumination => manager.disableSensorIllumination executor
      | .turnOnSensorIllumination => manager.turnOnSensorIllumination executor environment
      | .turnOffSensorIllumination => manager.turnOffSensorIllumination executor
      | .other _ => (manager, .generalError)

def onHdiDisconnect (manager : SensorIlluminationManager E) (executor : Option E) :
    SensorIlluminationManager E :=
  match executor with
  | none => manager
  | some executor =>
      if manager.executorInProc ≠ some executor then manager else manager.endSession

end Commands

/-! ### Steps of callbacks -/

def dispatchTimer (manager : SensorIlluminationManager E) (task : TaskId) (timerId : TimerId) :
    SensorIlluminationManager E :=
  if task ∈ manager.tasks.live then manager.onTask task (fun object => object.dispatchTimer timerId)
  else manager

/-- The pointer to a destroyed task does not lock and the callback returns. -/
def lockSelf (manager : SensorIlluminationManager E) (task : TaskId) (timerId : TimerId) :
    SensorIlluminationManager E :=
  if task ∈ manager.tasks.live then manager.onTask task (fun object => object.lockSelf timerId)
  else
    manager.onTask task (fun object => { object with timer := object.timer.retire timerId })

def onDisplayTimeOut (manager : SensorIlluminationManager E) (task : TaskId) (timerId : TimerId) :
    SensorIlluminationManager E :=
  manager.onTask task (fun object => object.runDisplayTimeOut timerId)

def dropSelf (manager : SensorIlluminationManager E) (task : TaskId) (timerId : TimerId) :
    SensorIlluminationManager E :=
  if (manager.tasks.value task).timer.status timerId = .dispatched .returned then
    (manager.onTask task (fun object => object.dropSelf timerId)).releaseReference task .timerThread
  else manager

/-! ### Runs -/

end SensorIlluminationManager

inductive ManagerAction (E : Type u) where
  | processSaCommand (executor : Option E) (command : SaCommand) (environment : Environment)
  | onHdiDisconnect (executor : Option E)
  | setScreenOn (isOn : Bool)
  | dispatch (task : TaskId) (timerId : TimerId)
  | lockSelf (task : TaskId) (timerId : TimerId)
  | onDisplayTimeOut (task : TaskId) (timerId : TimerId)
  | dropSelf (task : TaskId) (timerId : TimerId)

def ManagerAction.finishesCallback {E : Type u} : ManagerAction E → Bool
  | .lockSelf _ _ => true
  | .onDisplayTimeOut _ _ => true
  | .dropSelf _ _ => true
  | _ => false

namespace SensorIlluminationManager

variable {E : Type u} [DecidableEq E]

def step (manager : SensorIlluminationManager E) :
    ManagerAction E → SensorIlluminationManager E
  | .processSaCommand executor command environment =>
      (manager.processSaCommand executor command environment).1
  | .onHdiDisconnect executor => manager.onHdiDisconnect executor
  | .setScreenOn isOn => { manager with monitor := manager.monitor.setScreenOn isOn }
  | .dispatch task timerId => manager.dispatchTimer task timerId
  | .lockSelf task timerId => manager.lockSelf task timerId
  | .onDisplayTimeOut task timerId => manager.onDisplayTimeOut task timerId
  | .dropSelf task timerId => manager.dropSelf task timerId

def result (manager : SensorIlluminationManager E) : ManagerAction E → Option ResultCode
  | .processSaCommand executor command environment =>
      some (manager.processSaCommand executor command environment).2
  | _ => none

end SensorIlluminationManager

end FingerprintAuth

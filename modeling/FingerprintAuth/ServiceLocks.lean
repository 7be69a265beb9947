/-
The locks that the service's functions take, and whether its threads can block one
another for ever.

Each definition here is a function of the source cut down to its lock guards and to
the calls that lead to others; a branch or a loop of the source is left open. The
thread of a task's timer counts as a lock that a callback holds while it runs and that
the destructor waits for. The function-local instances of the singletons are guarded
by the compiler. Calls that leave the component take none of its locks.
-/

import FingerprintAuth.SensorIlluminationManager
import FingerprintAuth.Library.LockOrder

set_option autoImplicit false

universe u

namespace FingerprintAuth

open LockOrder

inductive LeafSingleton where
  | saCommandManager
  | serviceExManager
  | screenStateMonitor
  | eventSubscriber
deriving DecidableEq, Repr

inductive ServiceLock where
  | fingerprintAuthService
  | fingerprintAuthDriverHdi
  | sensorIlluminationInstance
  | saCommandManager
  | sensorIlluminationManager
  | timerThread (task : TaskId)
  | serviceExManager
  | sensorIlluminationTask (task : TaskId)
  | screenStateMonitor
  | eventSubscriber
  | leafInstance (of : LeafSingleton)
deriving DecidableEq, Repr

namespace ServiceLock

def rank : ServiceLock → Nat
  | .fingerprintAuthService => 0
  | .fingerprintAuthDriverHdi => 0
  | .sensorIlluminationInstance => 0
  | .saCommandManager => 1
  | .sensorIlluminationManager => 2
  | .timerThread _ => 3
  | .serviceExManager => 4
  | .sensorIlluminationTask _ => 5
  | .screenStateMonitor => 6
  | .eventSubscriber => 7
  | .leafInstance _ => 8

def isRecursive : ServiceLock → Bool
  | .serviceExManager => true
  | .sensorIlluminationTask _ => true
  | _ => false

def discipline : Discipline ServiceLock := ⟨rank, isRecursive⟩

end ServiceLock

abbrev ServiceCode : Type := Code ServiceLock

namespace ServiceCode

def guarded (lock : ServiceLock) (body : ServiceCode) : ServiceCode :=
  .locked ⟨lock, .exclusive⟩ body

def sharedGuarded (lock : ServiceLock) (body : ServiceCode) : ServiceCode :=
  .locked ⟨lock, .shared⟩ body

def optional (body : ServiceCode) : ServiceCode := .either .skip body

/-- The first call of a `GetInstance` initializes the singleton. -/
def getInstance (of : LeafSingleton) : ServiceCode :=
  optional (guarded (.leafInstance of) .skip)

/-! ### Screen events -/

namespace EventSubscriber

def unsubscribe : ServiceCode := getInstance .eventSubscriber

def subscribe : ServiceCode := .andThen unsubscribe (getInstance .eventSubscriber)

def setCallback : ServiceCode := guarded .eventSubscriber .skip

def getCallback : ServiceCode := guarded .eventSubscriber .skip

end EventSubscriber

namespace ScreenStateMonitor

def subscribe : ServiceCode :=
  guarded .screenStateMonitor <| optional <|
    .andThen (getInstance .eventSubscriber) <| optional <|
      .andThen EventSubscriber.setCallback EventSubscriber.subscribe

def unsubscribe : ServiceCode := guarded .screenStateMonitor EventSubscriber.unsubscribe

def setScreenOn : ServiceCode := guarded .screenStateMonitor .skip

def getScreenOn : ServiceCode := guarded .screenStateMonitor .skip

end ScreenStateMonitor

/-- The handler of an event. The callback takes the monitor's lock only after it has
given back the subscriber's. -/
def EventSubscriber.onReceiveEvent : ServiceCode :=
  optional <| .andThen (getInstance .eventSubscriber) <| optional <|
    .andThen getCallback <| optional <|
      .andThen (getInstance .screenStateMonitor) ScreenStateMonitor.setScreenOn

/-! ### The extension library -/

namespace ServiceExManager

def acquire : ServiceCode :=
  .andThen (getInstance .serviceExManager) (guarded .serviceExManager .skip)

def release : ServiceCode :=
  .andThen (getInstance .serviceExManager) (guarded .serviceExManager .skip)

/-- The task is constructed under the library's lock. -/
def getSensorIlluminationTask : ServiceCode :=
  .andThen (getInstance .serviceExManager) <| guarded .serviceExManager <| optional <|
    .andThen (getInstance .screenStateMonitor) ScreenStateMonitor.subscribe

end ServiceExManager

/-! ### The task -/

namespace SensorIlluminationTask

variable (task : TaskId)

def enableSensorIllumination : ServiceCode := guarded (.sensorIlluminationTask task) .skip

def turnOnSensorIllumination : ServiceCode :=
  guarded (.sensorIlluminationTask task) <| optional <|
    .andThen (getInstance .screenStateMonitor) ScreenStateMonitor.getScreenOn

def turnOffSensorIllumination : ServiceCode := guarded (.sensorIlluminationTask task) .skip

def disableSensorIllumination : ServiceCode :=
  guarded (.sensorIlluminationTask task) <|
    .andThen (turnOffSensorIllumination task) <|
      .andThen (getInstance .screenStateMonitor) ScreenStateMonitor.unsubscribe

/-- The shutdown of the timer waits for the callback that its thread runs. -/
def destruct : ServiceCode :=
  .andThen (.andThen (getInstance .screenStateMonitor) ScreenStateMonitor.unsubscribe) <|
    .andThen (guarded (.timerThread task) .skip) (optional ServiceExManager.release)

/-- A display-timeout callback on the timer's thread. The last reference to the task
is dropped on the thread that held it last. -/
def displayTimeOut (lastReference : Bool) : ServiceCode :=
  guarded (.timerThread task) <| optional <|
    .andThen (turnOffSensorIllumination task) <|
      match lastReference with
      | true => destruct task
      | false => .skip

end SensorIlluminationTask

/-! ### The manager -/

namespace SensorIlluminationManager

def enableSensorIllumination (task : TaskId) : ServiceCode :=
  optional <| .andThen ServiceExManager.acquire <| optional <|
    .andThen ServiceExManager.getSensorIlluminationTask <|
      .either ServiceExManager.release <|
        .andThen (optional (SensorIlluminationTask.enableSensorIllumination task))
          (optional (SensorIlluminationTask.destruct task))

def endSession (task : TaskId) : ServiceCode :=
  optional <| .andThen (SensorIlluminationTask.disableSensorIllumination task)
    (optional (SensorIlluminationTask.destruct task))

def turnOnSensorIllumination (task : TaskId) : ServiceCode :=
  optional (SensorIlluminationTask.turnOnSensorIllumination task)

def turnOffSensorIllumination (task : TaskId) : ServiceCode :=
  optional (SensorIlluminationTask.turnOffSensorIllumination task)

def processSaCommand : ServiceCode :=
  optional <| guarded .sensorIlluminationManager <| .choose fun task =>
    optional <| .either (enableSensorIllumination task) <| .either (endSession task) <|
      .either (turnOnSensorIllumination task) (turnOffSensorIllumination task)

def onHdiDisconnect : ServiceCode :=
  optional <| guarded .sensorIlluminationManager <| .choose fun task => optional (endSession task)

end SensorIlluminationManager

/-! ### The registry and the driver -/

namespace SaCommandManager

def registerSaCommandProcessor : ServiceCode := optional (guarded .saCommandManager .skip)

def unregisterSaCommandProcessor : ServiceCode := optional (guarded .saCommandManager .skip)

def processSaCommands : ServiceCode :=
  sharedGuarded .saCommandManager (.rounds SensorIlluminationManager.processSaCommand)

def onHdiDisconnect : ServiceCode :=
  sharedGuarded .saCommandManager (.rounds SensorIlluminationManager.onHdiDisconnect)

end SaCommandManager

/-- The manager registers itself while its instance is initialized. -/
def SensorIlluminationManager.getInstance : ServiceCode :=
  optional <| guarded .sensorIlluminationInstance <| optional <|
    .andThen (ServiceCode.getInstance .saCommandManager) SaCommandManager.registerSaCommandProcessor

namespace FingerprintAllInOneExecutorHdi

def onHdiDisconnect : ServiceCode :=
  .andThen (getInstance .saCommandManager) SaCommandManager.onHdiDisconnect

def onSaCommands : ServiceCode :=
  .andThen (getInstance .saCommandManager) SaCommandManager.processSaCommands

end FingerprintAllInOneExecutorHdi

namespace FingerprintAuthDriverHdi

def getExecutorList : ServiceCode := optional (guarded .fingerprintAuthDriverHdi .skip)

def onHdiDisconnect : ServiceCode :=
  guarded .fingerprintAuthDriverHdi (.rounds FingerprintAllInOneExecutorHdi.onHdiDisconnect)

end FingerprintAuthDriverHdi

def FingerprintAuthService.getInstance : ServiceCode :=
  optional (guarded .fingerprintAuthService .skip)

end ServiceCode

/-- Where threads enter the component. -/
inductive ServiceEntry where
  | serviceInstance
  | sensorIlluminationInstance
  | registerSaCommandProcessor
  | unregisterSaCommandProcessor
  | getExecutorList
  | onHdiDisconnect
  | onSaCommands
  | onReceiveEvent
  | displayTimeOut (task : TaskId) (lastReference : Bool)
deriving DecidableEq, Repr

namespace ServiceEntry

def code : ServiceEntry → ServiceCode
  | .serviceInstance => ServiceCode.FingerprintAuthService.getInstance
  | .sensorIlluminationInstance => ServiceCode.SensorIlluminationManager.getInstance
  | .registerSaCommandProcessor => ServiceCode.SaCommandManager.registerSaCommandProcessor
  | .unregisterSaCommandProcessor => ServiceCode.SaCommandManager.unregisterSaCommandProcessor
  | .getExecutorList => ServiceCode.FingerprintAuthDriverHdi.getExecutorList
  | .onHdiDisconnect => ServiceCode.FingerprintAuthDriverHdi.onHdiDisconnect
  | .onSaCommands => ServiceCode.FingerprintAllInOneExecutorHdi.onSaCommands
  | .onReceiveEvent => ServiceCode.EventSubscriber.onReceiveEvent
  | .displayTimeOut task lastReference =>
      ServiceCode.SensorIlluminationTask.displayTimeOut task lastReference

/-- A callback that destroys its task. -/
def DestroysTask (entry : ServiceEntry) : Prop := ∃ task, entry = .displayTimeOut task true

end ServiceEntry

/-! ### Order -/

namespace ServiceCode

open Discipline ServiceLock

section Order

variable {level : Nat}

private theorem optional_above {body : ServiceCode} (above : discipline.OrdersAbove level body) :
    discipline.OrdersAbove level (optional body) :=
  .either .skip above

private theorem getInstance_above (of : LeafSingleton) :
    discipline.OrdersAbove 8 (getInstance of) :=
  optional_above (.locked_above le_rfl .skip)

private theorem unsubscribeEvents_above :
    discipline.OrdersAbove 8 EventSubscriber.unsubscribe :=
  getInstance_above _

private theorem subscribeEvents_above : discipline.OrdersAbove 8 EventSubscriber.subscribe :=
  .andThen unsubscribeEvents_above (getInstance_above _)

private theorem callback_above : discipline.OrdersAbove 7 (guarded .eventSubscriber .skip) :=
  .locked_above le_rfl .skip

private theorem subscribe_above : discipline.OrdersAbove 6 ScreenStateMonitor.subscribe := by
  refine OrdersAbove.locked_above le_rfl ?_
  apply optional_above
  apply OrdersAbove.andThen ((getInstance_above _).mono (by decide))
  apply optional_above
  exact .andThen callback_above (subscribeEvents_above.mono (by decide))

private theorem unsubscribe_above : discipline.OrdersAbove 6 ScreenStateMonitor.unsubscribe :=
  .locked_above le_rfl (unsubscribeEvents_above.mono (by decide))

private theorem screenOn_above : discipline.OrdersAbove 6 (guarded .screenStateMonitor .skip) :=
  .locked_above le_rfl .skip

private theorem onReceiveEvent_above :
    discipline.OrdersAbove 6 EventSubscriber.onReceiveEvent := by
  have instances : ∀ of, discipline.OrdersAbove 6 (getInstance of) :=
    fun of => (getInstance_above of).mono (by decide)
  apply optional_above
  apply OrdersAbove.andThen (instances _)
  apply optional_above
  apply OrdersAbove.andThen (callback_above.mono (by decide))
  exact optional_above (.andThen (instances _) screenOn_above)

private theorem library_above :
    discipline.OrdersAbove 4
      (.andThen (getInstance .serviceExManager) (guarded .serviceExManager .skip)) :=
  .andThen ((getInstance_above _).mono (by decide)) (.locked_above le_rfl .skip)

private theorem getSensorIlluminationTask_above :
    discipline.OrdersAbove 4 ServiceExManager.getSensorIlluminationTask := by
  apply OrdersAbove.andThen ((getInstance_above _).mono (by decide))
  refine OrdersAbove.locked_above le_rfl ?_
  apply optional_above
  exact .andThen ((getInstance_above _).mono (by decide)) (subscribe_above.mono (by decide))

section Task

variable (task : TaskId)

private theorem taskGuarded_above :
    discipline.OrdersAbove 5 (guarded (.sensorIlluminationTask task) .skip) :=
  .locked_above le_rfl .skip

private theorem turnOn_above :
    discipline.OrdersAbove 5 (SensorIlluminationTask.turnOnSensorIllumination task) := by
  refine OrdersAbove.locked_above le_rfl ?_
  apply optional_above
  exact .andThen ((getInstance_above _).mono (show 6 ≤ 8 by decide)) screenOn_above

private theorem disable_above :
    discipline.OrdersAbove 5 (SensorIlluminationTask.disableSensorIllumination task) := by
  refine OrdersAbove.locked le_rfl ?_
  intro held below
  have lower : ∀ other, other ∈ (⟨.sensorIlluminationTask task, .exclusive⟩ : Hold ServiceLock) :: held →
      discipline.rank other.lock < 6 := by
    intro other member
    rcases List.mem_cons.mp member with same | earlier
    · rw [same]
      exact Nat.lt_succ_self 5
    · have less := below other earlier
      omega
  refine ⟨⟨Or.inl ⟨rfl, rfl, List.mem_cons_self⟩, trivial⟩, ?_⟩
  exact OrdersAbove.andThen ((getInstance_above _).mono (by decide)) unsubscribe_above _ lower

private theorem destruct_above :
    discipline.OrdersAbove 3 (SensorIlluminationTask.destruct task) := by
  apply OrdersAbove.andThen
  · exact .andThen ((getInstance_above _).mono (by decide)) (unsubscribe_above.mono (by decide))
  · exact .andThen (.locked_above le_rfl .skip) (optional_above (library_above.mono (by decide)))

private theorem displayTimeOut_above :
    discipline.OrdersAbove 3 (SensorIlluminationTask.displayTimeOut task false) := by
  refine OrdersAbove.locked_above le_rfl ?_
  exact optional_above (.andThen ((taskGuarded_above task).mono (show 4 ≤ 5 by decide)) .skip)

private theorem enable_above :
    discipline.OrdersAbove 3 (SensorIlluminationManager.enableSensorIllumination task) := by
  have library := library_above.mono (show 3 ≤ 4 by decide)
  apply optional_above
  apply OrdersAbove.andThen library
  apply optional_above
  apply OrdersAbove.andThen (getSensorIlluminationTask_above.mono (by decide))
  apply OrdersAbove.either library
  exact .andThen (optional_above ((taskGuarded_above task).mono (by decide)))
    (optional_above (destruct_above task))

private theorem endSession_above :
    discipline.OrdersAbove 3 (SensorIlluminationManager.endSession task) :=
  optional_above (.andThen ((disable_above task).mono (by decide))
    (optional_above (destruct_above task)))

end Task

private theorem processSaCommand_above :
    discipline.OrdersAbove 2 SensorIlluminationManager.processSaCommand := by
  apply optional_above
  refine OrdersAbove.locked_above le_rfl ?_
  apply OrdersAbove.choose
  intro task
  apply optional_above
  apply OrdersAbove.either (enable_above task)
  apply OrdersAbove.either (endSession_above task)
  apply OrdersAbove.either
  · exact optional_above ((turnOn_above task).mono (by decide))
  · exact optional_above ((taskGuarded_above task).mono (by decide))

private theorem processorDisconnect_above :
    discipline.OrdersAbove 2 SensorIlluminationManager.onHdiDisconnect := by
  apply optional_above
  refine OrdersAbove.locked_above le_rfl ?_
  exact .choose fun task => optional_above (endSession_above task)

private theorem register_above :
    discipline.OrdersAbove 1 (optional (guarded .saCommandManager .skip)) :=
  optional_above (.locked_above le_rfl .skip)

private theorem managerInstance_above :
    discipline.OrdersAbove 0 SensorIlluminationManager.getInstance := by
  apply optional_above
  refine OrdersAbove.locked_above le_rfl ?_
  exact optional_above (.andThen ((getInstance_above _).mono (by decide)) register_above)

private theorem onSaCommands_above :
    discipline.OrdersAbove 1 FingerprintAllInOneExecutorHdi.onSaCommands :=
  .andThen ((getInstance_above _).mono (by decide))
    (.locked_above le_rfl (.rounds processSaCommand_above))

private theorem executorDisconnect_above :
    discipline.OrdersAbove 1 FingerprintAllInOneExecutorHdi.onHdiDisconnect :=
  .andThen ((getInstance_above _).mono (by decide))
    (.locked_above le_rfl (.rounds processorDisconnect_above))

private theorem driverDisconnect_above :
    discipline.OrdersAbove 0 FingerprintAuthDriverHdi.onHdiDisconnect :=
  .locked_above le_rfl (.rounds executorDisconnect_above)

end Order

end ServiceCode

namespace ServiceEntry

open Discipline ServiceLock

theorem code_ordered (entry : ServiceEntry) (spares : ¬entry.DestroysTask) :
    discipline.OrdersAbove 0 entry.code := by
  cases entry with
  | serviceInstance => exact ServiceCode.optional_above (.locked_above le_rfl .skip)
  | sensorIlluminationInstance => exact ServiceCode.managerInstance_above
  | registerSaCommandProcessor => exact ServiceCode.register_above.mono (by decide)
  | unregisterSaCommandProcessor => exact ServiceCode.register_above.mono (by decide)
  | getExecutorList => exact ServiceCode.optional_above (.locked_above le_rfl .skip)
  | onHdiDisconnect => exact ServiceCode.driverDisconnect_above
  | onSaCommands => exact ServiceCode.onSaCommands_above.mono (by decide)
  | onReceiveEvent => exact ServiceCode.onReceiveEvent_above.mono (by decide)
  | displayTimeOut task lastReference =>
      cases lastReference with
      | true => exact absurd ⟨task, rfl⟩ spares
      | false => exact (ServiceCode.displayTimeOut_above task).mono (by decide)

/-- Such a callback waits for its own thread. -/
theorem code_blocksItself (entry : ServiceEntry) (destroys : entry.DestroysTask) :
    CanBlockItself discipline [] entry.code := by
  obtain ⟨task, rfl⟩ := destroys
  refine CanBlockItself.inside (CanBlockItself.right (CanBlockItself.inSecond ?_))
  refine CanBlockItself.inSecond (CanBlockItself.inFirst (CanBlockItself.here ?_))
  refine ⟨?_, _, List.mem_cons_self, rfl⟩
  intro reenters
  cases reenters.2.1

end ServiceEntry

/-! ### Deadlocks -/

section Deadlocks

variable {ι : Type u} [Fintype ι] [DecidableEq ι]

/-- Threads about to go through their entries, each along one of the ways that the code
allows. -/
def Entering (entries : ι → List ServiceEntry) (start : ι → LockOrder.Thread ServiceLock) : Prop :=
  ∀ i, (start i).held = [] ∧
    (Code.sequence ((entries i).map ServiceEntry.code)).Trace (start i).todo

def CanDeadlock (preferWriters : Bool) (entries : ι → List ServiceEntry) : Prop :=
  ∃ start finish, Entering entries start ∧
    Reaches ServiceLock.discipline preferWriters start finish ∧
    Deadlocked ServiceLock.discipline preferWriters finish

theorem destroysTask_of_canDeadlock {preferWriters : Bool} {entries : ι → List ServiceEntry}
    (can : CanDeadlock preferWriters entries) :
    ∃ i entry, entry ∈ entries i ∧ entry.DestroysTask := by
  obtain ⟨start, finish, entering, reached, deadlocked⟩ := can
  by_contra spares
  push Not at spares
  have orderly : Orderly ServiceLock.discipline start := by
    constructor
    · intro i
      obtain ⟨free, trace⟩ := entering i
      rw [free]
      apply Discipline.ordersTrace_of_orders trace
      apply Discipline.orders_sequence
      intro code member
      obtain ⟨entry, entryMember, rfl⟩ := List.mem_map.mp member
      exact entry.code_ordered (spares i entry entryMember) [] (fun _ none_ => nomatch none_)
    · intro i j _ own member
      rw [(entering i).1] at member
      cases member
  exact orderly.not_deadlocked reached deadlocked

theorem canDeadlock_of_destroysTask {preferWriters : Bool} {entries : ι → List ServiceEntry}
    {i : ι} {entry : ServiceEntry} (member : entry ∈ entries i)
    (destroysTask : entry.DestroysTask) : CanDeadlock preferWriters entries := by
  obtain ⟨actions, trace, blocks⟩ := CanBlockItself.sequence
    (List.mem_map_of_mem (f := ServiceEntry.code) member) (entry.code_blocksItself destroysTask)
  have others : ∀ j, ∃ todo,
      (Code.sequence ((entries j).map ServiceEntry.code)).Trace todo ∧
        (j = i → SelfBlocking ServiceLock.discipline [] todo) := by
    intro j
    by_cases same : j = i
    · subst same
      exact ⟨actions, trace, fun _ => blocks⟩
    · obtain ⟨todo, runs⟩ := (Code.sequence ((entries j).map ServiceEntry.code)).exists_trace
      exact ⟨todo, runs, fun equal => absurd equal same⟩
  choose todo runs doomed using others
  let start : ι → LockOrder.Thread ServiceLock := fun j => ⟨[], todo j⟩
  obtain ⟨finish, reached, deadlocked⟩ : ∃ finish,
      Reaches ServiceLock.discipline preferWriters start finish ∧
        Deadlocked ServiceLock.discipline preferWriters finish :=
    exists_deadlocked i (doomed i rfl)
  exact ⟨start, finish, fun j => ⟨rfl, runs j⟩, reached, deadlocked⟩

/-- Whatever the threads of the service do at the same time, they can block one another
for ever exactly if one of them is a timer's, in a callback that destroys its task; and
every other entry point takes its locks in order. -/
theorem canDeadlock_iff_destroysTask (preferWriters : Bool) (entries : ι → List ServiceEntry) :
    (CanDeadlock preferWriters entries ↔
      ∃ i entry, entry ∈ entries i ∧ entry.DestroysTask) ∧
    ∀ entry : ServiceEntry, ¬entry.DestroysTask →
      ServiceLock.discipline.OrdersAbove 0 entry.code := by
  refine ⟨⟨destroysTask_of_canDeadlock, ?_⟩, ServiceEntry.code_ordered⟩
  rintro ⟨i, entry, member, destroysTask⟩
  exact canDeadlock_of_destroysTask member destroysTask

end Deadlocks

end FingerprintAuth

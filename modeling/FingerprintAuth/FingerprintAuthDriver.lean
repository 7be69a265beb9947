/-
The driver service: the executors it has handed out, the batches of commands that
arrive through their callbacks, and the disconnect of the driver.

A batch is delivered command by command and a disconnect executor by executor, and
anything may happen in between, except what waits for the driver's own lock.
Processors other than the illumination manager have a state of their own and touch
nothing else.
-/

import FingerprintAuth.SaCommandManager
import FingerprintAuth.SensorIlluminationManager

set_option autoImplicit false

universe u v w

namespace FingerprintAuth

structure Processors (E : Type u) (P : Type v) (O : Type w) where
  sensorIllumination : P
  processOther : P → O → Option E → SaCommand → O × ResultCode
  disconnectOther : P → O → Option E → O

structure ProcessorState (E : Type u) (O : Type w) where
  illumination : SensorIlluminationManager E
  others : O

namespace Processors

variable {E : Type u} {P : Type v} {O : Type w} [DecidableEq E] [LinearOrder P]

def processSaCommand (processors : Processors E P O) (executor : Option E)
    (state : ProcessorState E O) (processor : P) (command : SaCommand × Environment) :
    ProcessorState E O × ResultCode :=
  if processor = processors.sensorIllumination then
    let (illumination, result) :=
      state.illumination.processSaCommand executor command.1 command.2
    ({ state with illumination := illumination }, result)
  else
    let (others, result) := processors.processOther processor state.others executor command.1
    ({ state with others := others }, result)

def onHdiDisconnect (processors : Processors E P O) (executor : Option E)
    (state : ProcessorState E O) (processor : P) : ProcessorState E O :=
  if processor = processors.sensorIllumination then
    { state with illumination := state.illumination.onHdiDisconnect executor }
  else { state with others := processors.disconnectOther processor state.others executor }

omit [DecidableEq E] in
def createSensorIlluminationManager (processors : Processors E P O) :
    SaCommandManager SaCommandId P :=
  SaCommandManager.empty.registerSaCommandProcessor
    [.enableSensorIllumination, .disableSensorIllumination, .turnOnSensorIllumination,
      .turnOffSensorIllumination]
    (some processors.sensorIllumination)

end Processors

namespace FingerprintAllInOneExecutorHdi

variable {E : Type u} {P : Type v} {O : Type w} [DecidableEq E] [LinearOrder P]

def onHdiDisconnect (processors : Processors E P O) (registry : SaCommandManager SaCommandId P)
    (state : ProcessorState E O) (executor : E) : ProcessorState E O :=
  registry.onHdiDisconnect (processors.onHdiDisconnect (some executor)) state

/-- What `SaCommandCallback::OnSaCommands` returns on the result of the commands. -/
def answerOf (result : ResultCode) : HdfStatus :=
  if result ≠ .success then .failure else .success

/-- `SaCommandCallback::OnSaCommands`, undisturbed. -/
def onSaCommands (processors : Processors E P O) (registry : SaCommandManager SaCommandId P)
    (executor : E) (state : ProcessorState E O) (commands : List (SaCommand × Environment)) :
    ProcessorState E O × HdfStatus :=
  let (state, result) := registry.processSaCommands (fun command => command.1.id)
    (processors.processSaCommand (some executor)) state commands
  (state, answerOf result)

end FingerprintAllInOneExecutorHdi

namespace FingerprintAuthDriverHdi

section Disconnect

variable {E : Type u} {P : Type v} {O : Type w} [DecidableEq E] [LinearOrder P]

def disconnectExecutor (processors : Processors E P O) (registry : SaCommandManager SaCommandId P)
    (state : ProcessorState E O) : Option E → ProcessorState E O
  | none => state
  | some executor =>
      FingerprintAllInOneExecutorHdi.onHdiDisconnect processors registry state executor

def onHdiDisconnect (processors : Processors E P O) (registry : SaCommandManager SaCommandId P)
    (fingerprintAuthExecutorList : List (Option E)) (state : ProcessorState E O) :
    List (Option E) × ProcessorState E O :=
  ([], fingerprintAuthExecutorList.foldl (disconnectExecutor processors registry) state)

end Disconnect

/-- What becomes of one proxy of the interface's list. -/
inductive ProxyAnswer where
  | null
  | makeShareFailed
  | made
deriving DecidableEq, Repr

inductive InterfaceAnswer where
  | noAdapter
  | noInterface
  | failed
  | list (proxies : List ProxyAnswer)
deriving DecidableEq, Repr

def makeExecutors (next : Nat) : List ProxyAnswer → Nat × List (Option Nat)
  | [] => (next, [])
  | .null :: rest => makeExecutors next rest
  | .makeShareFailed :: rest => makeExecutors next rest
  | .made :: rest =>
      let (last, executors) := makeExecutors (next + 1) rest
      (last, some next :: executors)

end FingerprintAuthDriverHdi

/-- A batch of `OnSaCommands` that has not returned yet. Batches are numbered as they
arrive. -/
structure Batch where
  number : Nat
  executor : Nat
  commands : List SaCommand

/-- `disconnecting` is what the loop of a disconnect in progress has still to visit;
the driver's lock is held meanwhile. `answers` is what the batches have returned. -/
structure DriverService (O : Type w) where
  nextExecutor : Nat
  fingerprintAuthExecutorList : List (Option Nat)
  disconnecting : Option (List (Option Nat))
  nextBatch : Nat
  batches : List Batch
  answers : List (Nat × HdfStatus)
  state : ProcessorState Nat O

inductive DriverAction where
  | getExecutorList (answer : FingerprintAuthDriverHdi.InterfaceAnswer)
  | onHdiDisconnect
  | disconnectNext
  | onSaCommands (executor : Nat) (commands : List SaCommand)
  | processNext (batch : Nat) (environment : Environment)
  | background (action : ManagerAction Nat)

def ManagerAction.isBackground {E : Type u} : ManagerAction E → Bool
  | .processSaCommand _ _ _ => false
  | .onHdiDisconnect _ => false
  | _ => true

namespace DriverService

variable {P : Type v} {O : Type w} [LinearOrder P]

def new (others : O) : DriverService O :=
  { nextExecutor := 0
    fingerprintAuthExecutorList := []
    disconnecting := none
    nextBatch := 0
    batches := []
    answers := []
    state := { illumination := SensorIlluminationManager.new, others := others } }

def getExecutorList (service : DriverService O) :
    FingerprintAuthDriverHdi.InterfaceAnswer → DriverService O
  | .noAdapter => service
  | .noInterface => service
  | .failed => service
  | .list proxies =>
      if service.disconnecting.isSome then service
      else
        let (next, executors) :=
          FingerprintAuthDriverHdi.makeExecutors service.nextExecutor proxies
        { service with
          nextExecutor := next
          fingerprintAuthExecutorList := executors }

def onHdiDisconnect (service : DriverService O) : DriverService O :=
  if service.disconnecting.isSome then service
  else { service with disconnecting := some service.fingerprintAuthExecutorList }

def disconnectNext (processors : Processors Nat P O) (registry : SaCommandManager SaCommandId P)
    (service : DriverService O) : DriverService O :=
  match service.disconnecting with
  | none => service
  | some [] =>
      { service with
        fingerprintAuthExecutorList := []
        disconnecting := none }
  | some (executor :: rest) =>
      { service with
        disconnecting := some rest
        state :=
          FingerprintAuthDriverHdi.disconnectExecutor processors registry service.state executor }

/-- Only executors that were handed out have a callback. -/
def onSaCommands (service : DriverService O) (executor : Nat) (commands : List SaCommand) :
    DriverService O :=
  if executor < service.nextExecutor then
    { service with
      nextBatch := service.nextBatch + 1
      batches := service.batches ++
        [{ number := service.nextBatch, executor := executor, commands := commands }] }
  else service

def returnBatch (service : DriverService O) (index number : Nat) (result : ResultCode) :
    DriverService O :=
  { service with
    batches := service.batches.eraseIdx index
    answers := service.answers ++ [(number, FingerprintAllInOneExecutorHdi.answerOf result)] }

def processNext (processors : Processors Nat P O) (registry : SaCommandManager SaCommandId P)
    (service : DriverService O) (index : Nat) (environment : Environment) : DriverService O :=
  match service.batches[index]? with
  | none => service
  | some batch =>
      match batch.commands with
      | [] => service.returnBatch index batch.number .success
      | command :: rest =>
          let (state, result) :=
            registry.processSaCommand (fun command => command.1.id)
              (processors.processSaCommand (some batch.executor)) service.state
              (command, environment)
          let service := { service with state := state }
          if result = .success then
            { service with batches := service.batches.set index { batch with commands := rest } }
          else service.returnBatch index batch.number .generalError

def background (service : DriverService O) (action : ManagerAction Nat) : DriverService O :=
  if action.isBackground then
    { service with
      state := { service.state with illumination := service.state.illumination.step action } }
  else service

def step (processors : Processors Nat P O) (registry : SaCommandManager SaCommandId P)
    (service : DriverService O) : DriverAction → DriverService O
  | .getExecutorList answer => service.getExecutorList answer
  | .onHdiDisconnect => service.onHdiDisconnect
  | .disconnectNext => service.disconnectNext processors registry
  | .onSaCommands executor commands => service.onSaCommands executor commands
  | .processNext index environment => service.processNext processors registry index environment
  | .background action => service.background action

/-! ### Operations that nothing interrupts -/

private theorem run_disconnectNext (processors : Processors Nat P O)
    (registry : SaCommandManager SaCommandId P) (executors : List (Option Nat))
    (service : DriverService O) (remaining : service.disconnecting = some executors) :
    StepMachine.run (step processors registry) service
        (List.replicate (executors.length + 1) .disconnectNext) =
      { service with
        fingerprintAuthExecutorList := []
        disconnecting := none
        state := executors.foldl
          (FingerprintAuthDriverHdi.disconnectExecutor processors registry) service.state } := by
  induction executors generalizing service with
  | nil => simp [step, disconnectNext, remaining]
  | cons head tail ih =>
      rw [List.length_cons, List.replicate_succ, StepMachine.run_cons]
      have one : service.step processors registry .disconnectNext =
          { service with
            disconnecting := some tail
            state := FingerprintAuthDriverHdi.disconnectExecutor processors registry
              service.state head } := by
        simp only [step, disconnectNext, remaining]
      rw [one, ih _ rfl]
      rfl

theorem run_onHdiDisconnect (processors : Processors Nat P O)
    (registry : SaCommandManager SaCommandId P) (service : DriverService O)
    (unlocked : service.disconnecting = none) :
    StepMachine.run (step processors registry) service
        (.onHdiDisconnect ::
          List.replicate (service.fingerprintAuthExecutorList.length + 1) .disconnectNext) =
      { service with
        fingerprintAuthExecutorList :=
          (FingerprintAuthDriverHdi.onHdiDisconnect processors registry
            service.fingerprintAuthExecutorList service.state).1
        state :=
          (FingerprintAuthDriverHdi.onHdiDisconnect processors registry
            service.fingerprintAuthExecutorList service.state).2 } := by
  have begun : service.step processors registry .onHdiDisconnect =
      { service with disconnecting := some service.fingerprintAuthExecutorList } := by
    simp [step, onHdiDisconnect, unlocked]
  rw [StepMachine.run_cons, begun,
    run_disconnectNext processors registry service.fingerprintAuthExecutorList _ rfl]
  simp [FingerprintAuthDriverHdi.onHdiDisconnect, unlocked]

private theorem run_absent (processors : Processors Nat P O)
    (registry : SaCommandManager SaCommandId P) (service : DriverService O) (index : Nat)
    (absent : service.batches[index]? = none) (environments : List Environment) :
    StepMachine.run (step processors registry) service
      (environments.map (.processNext index)) = service := by
  induction environments with
  | nil => rfl
  | cons head tail ih =>
      have still : service.step processors registry (.processNext index head) = service := by
        simp only [step, processNext, absent]
      rw [List.map_cons, StepMachine.run_cons, still, ih]

/-- A batch whose commands follow one another, and which then returns, is the call as a
whole. -/
theorem run_processNext (processors : Processors Nat P O)
    (registry : SaCommandManager SaCommandId P) (number executor : Nat) (earlier : List Batch)
    (commands : List (SaCommand × Environment)) (last : Environment) (service : DriverService O)
    (newest : service.batches = earlier ++
      [{ number := number, executor := executor, commands := commands.map Prod.fst }]) :
    StepMachine.run (step processors registry) service
        ((commands.map Prod.snd ++ [last]).map (.processNext earlier.length)) =
      { service with
        batches := earlier
        answers := service.answers ++
          [(number, (FingerprintAllInOneExecutorHdi.onSaCommands processors registry executor
            service.state commands).2)]
        state := (FingerprintAllInOneExecutorHdi.onSaCommands processors registry executor
          service.state commands).1 } := by
  have erased : ∀ batch : Batch, (earlier ++ [batch]).eraseIdx earlier.length = earlier := by
    intro batch
    rw [List.eraseIdx_append_of_length_le (Nat.le_refl _), Nat.sub_self]
    exact List.append_nil earlier
  induction commands generalizing service with
  | nil =>
      have found : service.batches[earlier.length]? =
          some { number := number, executor := executor, commands := [] } := by
        rw [newest]
        exact List.getElem?_concat_length
      simp only [List.map_nil, List.nil_append, List.map_cons, StepMachine.run_cons,
        StepMachine.run_nil, step, processNext, found, returnBatch]
      rw [newest, erased]
      rfl
  | cons head tail ih =>
      have found : service.batches[earlier.length]? = some
          { number := number, executor := executor, commands := head.1 :: tail.map Prod.fst } := by
        rw [newest]
        exact List.getElem?_concat_length
      rw [List.map_cons, List.cons_append, List.map_cons, StepMachine.run_cons]
      simp only [FingerprintAllInOneExecutorHdi.onSaCommands, SaCommandManager.processSaCommands]
      generalize delivered : registry.processSaCommand (fun command => command.1.id)
        (processors.processSaCommand (some executor)) service.state head = outcome
      obtain ⟨state, result⟩ := outcome
      by_cases succeeded : result = .success
      · have one : service.step processors registry (.processNext earlier.length head.2) =
            { service with
              batches := earlier ++
                [{ number := number, executor := executor, commands := tail.map Prod.fst }]
              state := state } := by
          simp only [step, processNext, found, delivered, if_pos succeeded]
          rw [newest]
          simp
        rw [if_pos succeeded, one, ih _ rfl]
        rfl
      · -- the batch has returned, and the rest of its commands is not processed
        have one : service.step processors registry (.processNext earlier.length head.2) =
            { service with
              batches := earlier
              answers := service.answers ++
                [(number, FingerprintAllInOneExecutorHdi.answerOf .generalError)]
              state := state } := by
          simp only [step, processNext, found, delivered, if_neg succeeded, returnBatch]
          rw [newest, erased]
        rw [if_neg succeeded, one, run_absent processors registry _ _ (by simp)]

end DriverService

end FingerprintAuth

/-
Batches of commands that run at the same time.

Every batch that a driver sends is followed from the moment it is accepted to its
answer, while other batches, disconnects, timers and screen events come in between. A
batch stops at its first failure whatever the others do, and the illumination manager
sees nothing but the commands of all batches, one after the other, and the notices of
disconnects.
-/

import FingerprintAuth.CommandProgress
import FingerprintAuth.OrphanedSession
import FingerprintAuth.Library.CommitPoint
import FingerprintAuth.Library.ScriptLedger
import Mathlib.Data.List.ReduceOption

set_option autoImplicit false

universe u v w

namespace FingerprintAuth

namespace Processors

variable {E : Type u} {P : Type v} {O : Type w} [LinearOrder P]

theorem createSensorIlluminationManager_handlers (processors : Processors E P O)
    (id : SaCommandId) :
    (∃ other, id = .other other ∧
        processors.createSensorIlluminationManager.commandId2Processors id = none) ∨
      ∃ set, processors.createSensorIlluminationManager.commandId2Processors id = some set ∧
        set.toList = [processors.sensorIllumination] := by
  cases id with
  | enableSensorIllumination => exact Or.inr ⟨_, rfl, rfl⟩
  | disableSensorIllumination => exact Or.inr ⟨_, rfl, rfl⟩
  | turnOnSensorIllumination => exact Or.inr ⟨_, rfl, rfl⟩
  | turnOffSensorIllumination => exact Or.inr ⟨_, rfl, rfl⟩
  | other other => exact Or.inl ⟨other, rfl, rfl⟩

theorem createSensorIlluminationManager_passes [DecidableEq E] (processors : Processors E P O)
    (executor : E) (state : ProcessorState E O) (command : SaCommand) (environment : Environment) :
    (processors.createSensorIlluminationManager.processSaCommand (fun command => command.1.id)
        (processors.processSaCommand (some executor)) state (command, environment)).2 = .success ↔
      (state.illumination.processSaCommand (some executor) command environment).2 = .success := by
  unfold SaCommandManager.processSaCommand
  simp only
  rcases processors.createSensorIlluminationManager_handlers command.id with
    ⟨other, named, absent⟩ | ⟨set, entry, one⟩
  · rw [absent]
    simp only [SensorIlluminationManager.processSaCommand, named]
  · rw [entry]
    simp only [one, SaCommandManager.processWith, processSaCommand, if_true]
    by_cases succeeded : (state.illumination.processSaCommand (some executor) command
        environment).2 = .success
    · rw [if_pos succeeded]
      exact iff_of_true rfl succeeded
    · rw [if_neg succeeded]
      exact iff_of_false (fun failed => ResultCode.noConfusion failed) succeeded

end Processors

def Batch.script (batch : Batch) : FailStop.OpenScript (Nat × SaCommand) :=
  { number := batch.number
    remaining := batch.commands.map (Prod.mk batch.executor) }

def ManagerAction.command {E : Type u} : ManagerAction E → Option (Option E × SaCommand)
  | .processSaCommand executor command _ => some (executor, command)
  | _ => none

namespace DriverService

variable {P : Type v} {O : Type w} [LinearOrder P]

def accepts (service : DriverService O) : DriverAction → List (List (Nat × SaCommand))
  | .onSaCommands executor commands =>
      if executor < service.nextExecutor then [commands.map (Prod.mk executor)] else []
  | _ => []

/-- What a step of the service does to the illumination manager. -/
def managerActions (service : DriverService O) : DriverAction → List (ManagerAction Nat)
  | .disconnectNext =>
      match service.disconnecting with
      | some (executor :: _) => [.onHdiDisconnect executor]
      | _ => []
  | .processNext index environment =>
      match (service.batches[index]?).map (fun batch => (batch.executor, batch.commands)) with
      | some (executor, command :: _) => [.processSaCommand (some executor) command environment]
      | _ => []
  | .background action => if action.isBackground then [action] else []
  | _ => []

def passes (processors : Processors Nat P O) (service : DriverService O) (index : Nat)
    (environment : Environment) : Bool :=
  match (service.batches[index]?).map (fun batch => (batch.executor, batch.commands)) with
  | some (executor, command :: _) =>
      decide ((processors.createSensorIlluminationManager.processSaCommand
        (fun command => command.1.id) (processors.processSaCommand (some executor)) service.state
        (command, environment)).2 = .success)
  | _ => true

end DriverService

/-- The service with the account of its batches, which is not in the source. -/
structure AccountedService (O : Type w) where
  service : DriverService O
  ledger : FailStop.Ledger (Nat × SaCommand)

namespace AccountedService

variable {P : Type v} {O : Type w} [LinearOrder P]

def new (others : O) : AccountedService O :=
  { service := DriverService.new others
    ledger := .empty }

def step (processors : Processors Nat P O) (accounted : AccountedService O)
    (action : DriverAction) : AccountedService O :=
  { service :=
      accounted.service.step processors processors.createSensorIlluminationManager action
    ledger :=
      match action with
      | .processNext index environment =>
          accounted.ledger.next index (accounted.service.passes processors index environment)
      | _ => (accounted.service.accepts action).foldl FailStop.Ledger.start accounted.ledger }

/-- The account has the batches that are open in the service, and `OnSaCommands` has
returned to the driver what the account tells of the others. -/
structure Booked (accounted : AccountedService O) : Prop where
  running : accounted.service.batches.map Batch.script = accounted.ledger.running
  numbered : accounted.service.nextBatch = accounted.ledger.begun.length
  returned : accounted.service.answers = accounted.ledger.ended.map (fun told =>
    (told.1, if told.2 then HdfStatus.success else HdfStatus.failure))

/-- The account is true of the service, and of the manager that these actions drive. -/
structure Explained (accounted : AccountedService O) (actions : List (ManagerAction Nat)) :
    Prop where
  booked : accounted.Booked
  illumination : accounted.service.state.illumination =
    StepMachine.run SensorIlluminationManager.step SensorIlluminationManager.new actions
  delivered : actions.filterMap ManagerAction.command =
    accounted.ledger.performed.map (fun entry => (some entry.2.1.1, entry.2.1.2))
  answered :
    (StepMachine.run AnsweringManager.step AnsweringManager.new actions).answers.reduceOption.map
        (fun result => decide (result = .success)) =
      accounted.ledger.performed.map (fun entry => entry.2.2)

end AccountedService

namespace AccountedService

variable {P : Type v} {O : Type w}

private theorem Explained.silent {accounted : AccountedService O}
    {actions : List (ManagerAction Nat)} (explained : accounted.Explained actions)
    {after : AccountedService O} {action : ManagerAction Nat}
    (silent : ∀ executor command environment,
      action ≠ .processSaCommand executor command environment)
    (booked : after.Booked)
    (performed : after.ledger.performed = accounted.ledger.performed)
    (illumination : after.service.state.illumination =
      accounted.service.state.illumination.step action) :
    after.Explained (actions ++ [action]) where
  booked := booked
  illumination := by
    rw [StepMachine.run_snoc, ← explained.illumination]
    exact illumination
  delivered := by
    have none_asked : action.command = none := by
      cases action with
      | processSaCommand executor command environment =>
          exact absurd rfl (silent executor command environment)
      | _ => rfl
    rw [List.filterMap_append, performed, explained.delivered, List.filterMap_cons, none_asked,
      List.filterMap_nil, List.append_nil]
  answered := by
    rw [performed, ← explained.answered, StepMachine.run_snoc, AnsweringManager.step]
    cases action with
    | processSaCommand executor command environment =>
        exact absurd rfl (silent executor command environment)
    | onHdiDisconnect executor =>
        simp only [ManagerAction.isCall, if_true, SensorIlluminationManager.result,
          List.reduceOption_append, List.reduceOption_cons_of_none, List.reduceOption_nil,
          List.append_nil]
    | _ => rfl

private theorem Explained.idle {accounted : AccountedService O}
    {actions : List (ManagerAction Nat)} (explained : accounted.Explained actions)
    {after : AccountedService O}
    (booked : after.Booked)
    (performed : after.ledger.performed = accounted.ledger.performed)
    (illumination : after.service.state.illumination = accounted.service.state.illumination) :
    after.Explained (actions ++ []) where
  booked := booked
  illumination := by
    rw [illumination, List.append_nil]
    exact explained.illumination
  delivered := by
    rw [performed, List.append_nil]
    exact explained.delivered
  answered := by
    rw [performed, List.append_nil]
    exact explained.answered

private theorem Explained.command {accounted : AccountedService O}
    {actions : List (ManagerAction Nat)} (explained : accounted.Explained actions)
    {after : AccountedService O} {number executor : Nat} {command : SaCommand}
    {environment : Environment} {passed : Bool}
    (booked : after.Booked)
    (performed : after.ledger.performed =
      accounted.ledger.performed ++ [(number, (executor, command), passed)])
    (illumination : after.service.state.illumination =
      (accounted.service.state.illumination.processSaCommand (some executor) command
        environment).1)
    (answer : passed = true ↔ (accounted.service.state.illumination.processSaCommand
      (some executor) command environment).2 = .success) :
    after.Explained (actions ++ [.processSaCommand (some executor) command environment]) where
  booked := booked
  illumination := by
    rw [StepMachine.run_snoc, ← explained.illumination]
    exact illumination
  delivered := by
    rw [List.filterMap_append, performed, explained.delivered, List.map_append]
    rfl
  answered := by
    have manager : (StepMachine.run AnsweringManager.step AnsweringManager.new actions).manager =
        accounted.service.state.illumination :=
      (AnsweringManager.run_manager _ actions).trans explained.illumination.symm
    have same : decide ((accounted.service.state.illumination.processSaCommand (some executor)
        command environment).2 = .success) = passed := by
      rw [Bool.eq_iff_iff, decide_eq_true_iff]
      exact answer.symm
    rw [performed, List.map_append, ← explained.answered, StepMachine.run_snoc,
      AnsweringManager.step]
    simp only [ManagerAction.isCall, if_true, SensorIlluminationManager.result, manager,
      List.reduceOption_append, List.reduceOption_cons_of_some, List.reduceOption_nil,
      List.map_append, List.map_cons, List.map_nil, same]

variable [LinearOrder P]

private theorem Explained.script {accounted : AccountedService O}
    {actions : List (ManagerAction Nat)} (explained : accounted.Explained actions) (index : Nat) :
    accounted.ledger.running[index]? = (accounted.service.batches[index]?).map Batch.script := by
  rw [← explained.booked.running, List.getElem?_map]

private theorem disconnectNext_explained (processors : Processors Nat P O)
    (accounted : AccountedService O) (actions : List (ManagerAction Nat))
    (explained : accounted.Explained actions) :
    (accounted.step processors .disconnectNext).Explained
      (actions ++ accounted.service.managerActions .disconnectNext) := by
  simp only [step, DriverService.step, DriverService.disconnectNext,
    DriverService.managerActions, DriverService.accepts, List.foldl_nil]
  cases accounted.service.disconnecting with
  | none => exact explained.idle explained.booked rfl rfl
  | some executors =>
      cases executors with
      | nil => exact explained.idle { explained.booked with } rfl rfl
      | cons executor rest =>
          have told := FingerprintAuthDriverHdi.disconnectExecutor_illumination processors
            processors.createSensorIlluminationManager
            processors.createSensorIlluminationManager_registered executor
            accounted.service.state
          refine explained.silent ?_ { explained.booked with } rfl told
          intro other command environment call
          cases call

private theorem onSaCommands_explained (processors : Processors Nat P O)
    (accounted : AccountedService O) (actions : List (ManagerAction Nat))
    (explained : accounted.Explained actions) (executor : Nat) (commands : List SaCommand) :
    (accounted.step processors (.onSaCommands executor commands)).Explained
      (actions ++ accounted.service.managerActions (.onSaCommands executor commands)) := by
  simp only [step, DriverService.step, DriverService.onSaCommands,
    DriverService.managerActions, DriverService.accepts]
  by_cases handedOut : executor < accounted.service.nextExecutor
  · rw [if_pos handedOut, if_pos handedOut]
    refine explained.idle ?_ rfl rfl
    simp only [List.foldl_cons, List.foldl_nil, FailStop.Ledger.start]
    exact
      { running := by
          rw [List.map_append, explained.booked.running, ← explained.booked.numbered]
          rfl
        numbered := by
          rw [List.length_append, ← explained.booked.numbered]
          rfl
        returned := explained.booked.returned }
  · rw [if_neg handedOut, if_neg handedOut]
    exact explained.idle explained.booked rfl rfl

private theorem processNext_explained (processors : Processors Nat P O)
    (accounted : AccountedService O) (actions : List (ManagerAction Nat))
    (explained : accounted.Explained actions) (index : Nat) (environment : Environment) :
    (accounted.step processors (.processNext index environment)).Explained
      (actions ++ accounted.service.managerActions (.processNext index environment)) := by
  have script := explained.script index
  cases found : accounted.service.batches[index]? with
  | none =>
      rw [found, Option.map_none] at script
      simp only [step, DriverService.step, DriverService.processNext,
        DriverService.managerActions, FailStop.Ledger.next, found, script, Option.map_none]
      exact explained.idle explained.booked rfl rfl
  | some batch =>
      obtain ⟨number, executor, commands⟩ := batch
      rw [found, Option.map_some, Batch.script] at script
      cases commands with
      | nil =>
          simp only [step, DriverService.step, DriverService.processNext,
            DriverService.managerActions, FailStop.Ledger.next, found, script, Option.map_some,
            List.map_nil]
          refine explained.idle ?_ rfl rfl
          exact
            { running := by
                simp only [DriverService.returnBatch, FailStop.Ledger.finish,
                  ← List.eraseIdx_map, explained.booked.running]
              numbered := explained.booked.numbered
              returned := by
                simp only [DriverService.returnBatch, FailStop.Ledger.finish, List.map_append,
                  explained.booked.returned]
                rfl }
      | cons command rest =>
          have processed := processors.createSensorIlluminationManager_process executor
            accounted.service.state command environment
          have passes := processors.createSensorIlluminationManager_passes executor
            accounted.service.state command environment
          simp only [step, DriverService.step, DriverService.processNext,
            DriverService.managerActions, DriverService.passes, FailStop.Ledger.next, found,
            script, Option.map_some, List.map_cons]
          generalize processors.createSensorIlluminationManager.processSaCommand
            (fun command => command.1.id) (processors.processSaCommand (some executor))
            accounted.service.state (command, environment) = outcome at processed passes ⊢
          obtain ⟨state, result⟩ := outcome
          simp only at processed passes ⊢
          by_cases succeeded : result = .success
          · simp only [if_pos succeeded, decide_eq_true succeeded, if_true]
            refine explained.command ?_ rfl processed (iff_of_true rfl (passes.mp succeeded))
            exact
              { running := by
                  simp only [FailStop.Ledger.advance, List.map_set, explained.booked.running]
                  rfl
                numbered := explained.booked.numbered
                returned := explained.booked.returned }
          · simp only [if_neg succeeded, decide_eq_false succeeded, Bool.false_eq_true, if_false]
            refine explained.command ?_ rfl processed
              (iff_of_false Bool.false_ne_true (fun passed => succeeded (passes.mpr passed)))
            exact
              { running := by
                  simp only [DriverService.returnBatch, FailStop.Ledger.abort,
                    ← List.eraseIdx_map, explained.booked.running]
                numbered := explained.booked.numbered
                returned := by
                  simp only [DriverService.returnBatch, FailStop.Ledger.abort, List.map_append,
                    explained.booked.returned]
                  rfl }

private theorem background_explained (processors : Processors Nat P O)
    (accounted : AccountedService O) (actions : List (ManagerAction Nat))
    (explained : accounted.Explained actions) (action : ManagerAction Nat) :
    (accounted.step processors (.background action)).Explained
      (actions ++ accounted.service.managerActions (.background action)) := by
  simp only [step, DriverService.step, DriverService.background, DriverService.managerActions,
    DriverService.accepts, List.foldl_nil]
  by_cases background : action.isBackground = true
  · rw [if_pos background, if_pos background]
    refine explained.silent ?_ { explained.booked with } rfl rfl
    intro executor command environment call
    rw [call] at background
    cases background
  · rw [if_neg background, if_neg background]
    exact explained.idle explained.booked rfl rfl

private theorem step_explained (processors : Processors Nat P O)
    (accounted : AccountedService O) (actions : List (ManagerAction Nat))
    (explained : accounted.Explained actions) (action : DriverAction) :
    (accounted.step processors action).Explained
      (actions ++ accounted.service.managerActions action) := by
  cases action with
  | getExecutorList answer =>
      refine explained.idle ?_ rfl ?_
      · cases answer with
        | list proxies =>
            simp only [step, DriverService.step, DriverService.getExecutorList]
            split <;> exact { explained.booked with }
        | _ => exact explained.booked
      · cases answer with
        | list proxies =>
            simp only [step, DriverService.step, DriverService.getExecutorList]
            split <;> rfl
        | _ => rfl
  | onHdiDisconnect =>
      refine explained.idle ?_ rfl ?_
      · simp only [step, DriverService.step, DriverService.onHdiDisconnect]
        split <;> exact { explained.booked with }
      · simp only [step, DriverService.step, DriverService.onHdiDisconnect]
        split <;> rfl
  | disconnectNext => exact disconnectNext_explained processors accounted actions explained
  | onSaCommands executor commands =>
      exact onSaCommands_explained processors accounted actions explained executor commands
  | processNext index environment =>
      exact processNext_explained processors accounted actions explained index environment
  | background action => exact background_explained processors accounted actions explained action

private theorem step_ledger_inv (processors : Processors Nat P O)
    (accounted : AccountedService O) (inv : accounted.ledger.Inv) (action : DriverAction) :
    (accounted.step processors action).ledger.Inv := by
  have started : ((accounted.service.accepts action).foldl FailStop.Ledger.start
      accounted.ledger).Inv := by
    cases action with
    | onSaCommands executor commands =>
        simp only [DriverService.accepts]
        split
        · exact FailStop.Ledger.start_inv _ _ inv
        · exact inv
    | _ => exact inv
  cases action with
  | processNext index environment => exact FailStop.Ledger.next_inv _ _ _ inv
  | _ => exact started

private theorem step_begun (processors : Processors Nat P O) (accounted : AccountedService O)
    (action : DriverAction) :
    (accounted.step processors action).ledger.begun =
      accounted.ledger.begun ++ accounted.service.accepts action := by
  cases action with
  | processNext index environment =>
      exact (FailStop.Ledger.next_begun _ _ _).trans (List.append_nil _).symm
  | onSaCommands executor commands =>
      simp only [step, DriverService.accepts]
      split
      · rfl
      · exact (List.append_nil _).symm
  | _ => exact (List.append_nil _).symm

private theorem run_accounts (processors : Processors Nat P O) (others : O)
    (actions : List DriverAction) :
    (StepMachine.run (step processors) (new others) actions).service =
        StepMachine.run (DriverService.step processors processors.createSensorIlluminationManager)
          (DriverService.new others) actions ∧
      (StepMachine.run (step processors) (new others) actions).ledger.begun =
        StepMachine.committed
          (DriverService.step processors processors.createSensorIlluminationManager)
          DriverService.accepts (DriverService.new others) actions ∧
      (StepMachine.run (step processors) (new others) actions).ledger.Inv ∧
      (StepMachine.run (step processors) (new others) actions).Explained
        (StepMachine.committed
          (DriverService.step processors processors.createSensorIlluminationManager)
          DriverService.managerActions (DriverService.new others) actions) := by
  induction actions using List.reverseRecOn with
  | nil =>
      refine ⟨rfl, rfl, FailStop.Ledger.empty_inv, ?_⟩
      exact
        { booked :=
            { running := rfl
              numbered := rfl
              returned := rfl }
          illumination := rfl
          delivered := rfl
          answered := rfl }
  | append_singleton before action ih =>
      obtain ⟨service, begun, inv, explained⟩ := ih
      rw [StepMachine.run_snoc, StepMachine.run_snoc, StepMachine.committed_append,
        StepMachine.committed_append, ← service, ← begun]
      refine ⟨rfl, ?_, step_ledger_inv processors _ inv action, ?_⟩
      · rw [step_begun, StepMachine.committed, StepMachine.committed, List.append_nil]
      · rw [StepMachine.committed, StepMachine.committed, List.append_nil]
        exact step_explained processors _ _ explained action

/-- In every run, and whatever comes between its commands: every batch accepted has its
account, in which it stops right after its first failure and is answered once, and the
illumination manager has been driven by exactly the commands performed, of all batches,
in that order, and by notices of disconnects and steps of its own. -/
theorem batches_fail_stop (processors : Processors Nat P O) (others : O)
    (actions : List DriverAction) :
    (StepMachine.run (step processors) (new others) actions).service =
        StepMachine.run (DriverService.step processors processors.createSensorIlluminationManager)
          (DriverService.new others) actions ∧
      (StepMachine.run (step processors) (new others) actions).ledger.begun =
        StepMachine.committed
          (DriverService.step processors processors.createSensorIlluminationManager)
          DriverService.accepts (DriverService.new others) actions ∧
      (∀ number items,
        (StepMachine.run (step processors) (new others) actions).ledger.begun[number]? =
            some items →
          (StepMachine.run (step processors) (new others) actions).ledger.Account number items) ∧
      (StepMachine.run (step processors) (new others) actions).Explained
        (StepMachine.committed
          (DriverService.step processors processors.createSensorIlluminationManager)
          DriverService.managerActions (DriverService.new others) actions) := by
  obtain ⟨service, begun, inv, explained⟩ := run_accounts processors others actions
  exact ⟨service, begun, inv.accounted, explained⟩

end AccountedService

end FingerprintAuth

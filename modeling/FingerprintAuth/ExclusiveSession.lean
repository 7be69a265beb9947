/-
Sessions are exclusive.

The owner kept by the manager is the holder of a lease that a successful `ENABLE`
grants and a `DISABLE` or a disconnect of the holder gives back. While it is held,
whatever another executor sends is refused and leaves no trace.
-/

import FingerprintAuth.ManagerRuns
import FingerprintAuth.Library.ExclusiveLease

set_option autoImplicit false

universe u

namespace FingerprintAuth

namespace SensorIlluminationManager

open ExclusiveLease (LeaseEvent HoldsLease holderAfter)

variable {E : Type u}

private theorem open_lease (manager after : SensorIlluminationManager E) (executor : E)
    (param : EnableSensorIlluminationParam) (environment : Environment) (result : ResultCode)
    (effect : OpenEffect manager executor param environment after result) :
    after.executorInProc =
      if result = .success then some executor else manager.executorInProc := by
  cases effect <;> rfl

private theorem end_lease (manager after : SensorIlluminationManager E) (task : TaskId)
    (effect : EndEffect manager task after) : after.executorInProc = none := by
  cases effect <;> rfl

variable [DecidableEq E]

/-- What an action means for the lease: an `ENABLE` grants it if it returns
success. -/
def leaseEvent (manager : SensorIlluminationManager E) : ManagerAction E → LeaseEvent E
  | .processSaCommand (some executor) command environment =>
      match command.id with
      | .enableSensorIllumination =>
          if (manager.enableSensorIllumination executor command.param environment).2 = .success then
            .grant executor
          else .other
      | .disableSensorIllumination => .giveBack executor
      | _ => .other
  | .onHdiDisconnect (some executor) => .giveBack executor
  | _ => .other

def leaseEvents (actions : List (ManagerAction E)) : List (LeaseEvent E) :=
  (StepMachine.trace step leaseEvent new actions).map StepMachine.Record.output

/-- A command or a disconnect of an executor that does not have the session which
is running. -/
def isForeign (manager : SensorIlluminationManager E) : ManagerAction E → Bool
  | .processSaCommand (some executor) _ _ =>
      manager.executorInProc.isSome && manager.executorInProc != some executor
  | .onHdiDisconnect (some executor) =>
      manager.executorInProc.isSome && manager.executorInProc != some executor
  | _ => false

/-! ### The owner follows the lease -/

private theorem withTask_lease (manager : SensorIlluminationManager E) (executor : E)
    (operation : SensorIlluminationTask → SensorIlluminationTask × ResultCode)
    (call : ResultCode → TaskCall) :
    (manager.withTask executor operation call).1.executorInProc = manager.executorInProc := by
  unfold withTask
  split
  · rfl
  · split
    · rfl
    · simp only
      split <;> rfl

theorem step_lease (manager : SensorIlluminationManager E) (action : ManagerAction E)
    (inv : manager.Inv) :
    (manager.step action).executorInProc =
      ExclusiveLease.next manager.executorInProc (manager.leaseEvent action) := by
  cases action with
  | processSaCommand executor command environment =>
      cases executor with
      | none => rfl
      | some executor =>
          cases named : command.id with
          | enableSensorIllumination =>
              have effect := open_lease manager _ executor _ environment _
                (enableSensorIllumination_effect manager executor command.param environment inv)
              simp only [step, processSaCommand, leaseEvent, named, effect]
              split <;> rfl
          | disableSensorIllumination =>
              simp only [step, processSaCommand, leaseEvent, named, disableSensorIllumination,
                ExclusiveLease.next]
              by_cases owner : manager.executorInProc = some executor
              · obtain ⟨task, session⟩ := inv.session owner
                rw [if_neg (not_not.mpr owner), if_pos owner]
                exact end_lease manager _ task (endSession_effect manager task inv session)
              · rw [if_pos owner, if_neg owner]
          | turnOnSensorIllumination =>
              simp only [step, processSaCommand, leaseEvent, named, turnOnSensorIllumination]
              exact withTask_lease manager executor _ _
          | turnOffSensorIllumination =>
              simp only [step, processSaCommand, leaseEvent, named, turnOffSensorIllumination]
              exact withTask_lease manager executor _ _
          | other id =>
              simp only [step, processSaCommand, leaseEvent, named]
              rfl
  | onHdiDisconnect executor =>
      cases executor with
      | none => rfl
      | some executor =>
          simp only [step, onHdiDisconnect, leaseEvent, ExclusiveLease.next]
          by_cases owner : manager.executorInProc = some executor
          · obtain ⟨task, session⟩ := inv.session owner
            rw [if_neg (not_not.mpr owner), if_pos owner]
            exact end_lease manager _ task (endSession_effect manager task inv session)
          · rw [if_pos owner, if_neg owner]
  | setScreenOn isOn => rfl
  | dispatch task timerId =>
      simp only [step, dispatchTimer]
      split <;> rfl
  | lockSelf task timerId =>
      simp only [step, lockSelf]
      split <;> rfl
  | onDisplayTimeOut task timerId => rfl
  | dropSelf task timerId =>
      have effect := dropSelf_effect manager task timerId inv
      simp only [step, leaseEvent, ExclusiveLease.next]
      generalize manager.dropSelf task timerId = after at effect ⊢
      cases effect <;> rfl

theorem run_lease (start : SensorIlluminationManager E) (actions : List (ManagerAction E))
    (inv : start.Inv) :
    (StepMachine.run step start actions).executorInProc =
      holderAfter start.executorInProc
        ((StepMachine.trace step leaseEvent start actions).map StepMachine.Record.output) := by
  induction actions generalizing start with
  | nil => rfl
  | cons action rest ih =>
      rw [StepMachine.run_cons, ih (start.step action) (step_inv start action inv),
        step_lease start action inv]
      rfl

/-! ### Other executors leave no trace -/

theorem other_refused (manager : SensorIlluminationManager E) (owner other : E)
    (command : SaCommand) (environment : Environment)
    (owned : manager.executorInProc = some owner) (different : other ≠ owner) :
    manager.processSaCommand (some other) command environment = (manager, .generalError) := by
  have notOwner : manager.executorInProc ≠ some other := by
    rw [owned]
    intro same
    exact different (Option.some.inj same).symm
  unfold processSaCommand
  cases command.id with
  | enableSensorIllumination =>
      simp only [enableSensorIllumination]
      rw [if_pos (by rw [owned]; rfl)]
  | disableSensorIllumination => exact if_pos notOwner
  | turnOnSensorIllumination => exact manager.withTask_of_other other _ _ notOwner
  | turnOffSensorIllumination => exact manager.withTask_of_other other _ _ notOwner
  | other id => rfl

theorem other_disconnect (manager : SensorIlluminationManager E) (other : E)
    (notOwner : manager.executorInProc ≠ some other) :
    manager.onHdiDisconnect (some other) = manager := if_pos notOwner

private theorem foreign_still (manager : SensorIlluminationManager E) (action : ManagerAction E)
    (foreign : manager.isForeign action = true) : manager.step action = manager := by
  cases action with
  | processSaCommand executor command environment =>
      cases executor with
      | none => rfl
      | some executor =>
          simp only [isForeign, Bool.and_eq_true, bne_iff_ne] at foreign
          obtain ⟨owner, owned⟩ := Option.isSome_iff_exists.mp foreign.1
          have different : executor ≠ owner := by
            intro same
            rw [same] at foreign
            exact foreign.2 owned
          simp only [step]
          rw [manager.other_refused owner executor command environment owned different]
  | onHdiDisconnect executor =>
      cases executor with
      | none => rfl
      | some executor =>
          simp only [isForeign, Bool.and_eq_true, bne_iff_ne] at foreign
          exact manager.other_disconnect executor foreign.2
  | setScreenOn isOn => cases foreign
  | dispatch task timerId => cases foreign
  | lockSelf task timerId => cases foreign
  | onDisplayTimeOut task timerId => cases foreign
  | dropSelf task timerId => cases foreign

/-- The owner is the executor whose `ENABLE` last returned success and who has neither
sent `DISABLE` nor disconnected since; whatever others send meanwhile is refused and
changes nothing; and without it the run has the same states and gives the same
results. -/
theorem exclusive_sessions (actions : List (ManagerAction E)) :
    ((StepMachine.run step (new : SensorIlluminationManager E) actions).executorInProc = none ↔
      (StepMachine.run step (new : SensorIlluminationManager E) actions).taskInProc = none) ∧
    (∀ executor, (StepMachine.run step new actions).executorInProc = some executor ↔
      HoldsLease (leaseEvents actions) executor) ∧
    (∀ owner other command environment,
      (StepMachine.run step new actions).executorInProc = some owner → other ≠ owner →
      (StepMachine.run step new actions).processSaCommand (some other) command environment =
          (StepMachine.run step new actions, .generalError) ∧
        (StepMachine.run step new actions).onHdiDisconnect (some other) =
          StepMachine.run step new actions) ∧
    StepMachine.trace step result (new : SensorIlluminationManager E)
        (StepMachine.withoutIdle step isForeign new actions) =
      (StepMachine.trace step result new actions).filter
        (fun record => !isForeign record.before record.action) := by
  have inv := run_inv (E := E) actions
  refine ⟨inv.paired, ?_, ?_, ?_⟩
  · intro executor
    rw [run_lease new actions new_inv]
    exact ExclusiveLease.holderAfter_none_iff _ executor
  · intro owner other command environment owned different
    refine ⟨other_refused _ owner other command environment owned different, ?_⟩
    apply other_disconnect
    rw [owned]
    intro same
    exact different (Option.some.inj same).symm
  · exact StepMachine.trace_withoutIdle result foreign_still new actions

end SensorIlluminationManager

end FingerprintAuth

/-
The display is lit exactly while somebody wants it lit.

The light is a lease too: a `TURN_ON` that is answered with success while the screen is
on grants it, and a `TURN_OFF`, a `DISABLE` or a disconnect of the same executor gives it
back, as does a timeout of the session's task. That is so for the service as its users
know it, the manager is that service, and the render service shows what the manager's
tasks believe; so the history alone tells what the display shows.
-/

import FingerprintAuth.RenderService
import FingerprintAuth.SessionRefinement

set_option autoImplicit false

universe u

namespace FingerprintAuth

open ExclusiveLease (LeaseEvent HoldsLease holderAfter)

namespace SensorIlluminationManager

variable {E : Type u} [DecidableEq E]

def mandate (manager : SensorIlluminationManager E) : ManagerAction E → LeaseEvent E
  | .processSaCommand (some executor) command environment =>
      match command.id with
      | .turnOnSensorIllumination =>
          if (manager.processSaCommand (some executor) command environment).2 = .success ∧
              manager.monitor.getScreenOn = true then .grant executor
          else .other
      | .turnOffSensorIllumination => .giveBack executor
      | .disableSensorIllumination => .giveBack executor
      | _ => .other
  | .onHdiDisconnect (some executor) => .giveBack executor
  | .onDisplayTimeOut task timerId =>
      if manager.taskInProc = some task ∧
          (manager.tasks.value task).timer.status timerId = .dispatched .holding then
        match manager.executorInProc with
        | some executor => .giveBack executor
        | none => .other
      else .other
  | _ => .other

def mandates (actions : List (ManagerAction E)) : List (LeaseEvent E) :=
  (StepMachine.trace step mandate new actions).map StepMachine.Record.output

private theorem step_mandate (manager : SensorIlluminationManager E) (action : ManagerAction E)
    (inv : manager.Inv) (equipped : manager.Equipped) :
    (manager.step action).asService.litBy =
      ExclusiveLease.next manager.asService.litBy (manager.mandate action) := by
  rw [step_asService manager action inv equipped]
  have one := fun observed => IlluminationService.step_litBy manager.asService observed
  cases action with
  | processSaCommand executor command environment =>
      cases executor with
      | none => rfl
      | some executor =>
          have processed := process_asService manager executor command environment inv equipped
          have same : manager.asService.mandate (.command executor command environment) =
              manager.mandate (.processSaCommand (some executor) command environment) := by
            simp only [IlluminationService.mandate, mandate, processed]
            rfl
          rw [← same]
          exact one (.command executor command environment)
  | onHdiDisconnect executor =>
      cases executor with
      | none => rfl
      | some executor => exact one (.disconnect executor)
  | setScreenOn isOn => exact one (.screen isOn)
  | dispatch task timerId => rfl
  | lockSelf task timerId => rfl
  | onDisplayTimeOut task timerId =>
      simp only [observed, mandate]
      by_cases ends : manager.taskInProc = some task ∧
          (manager.tasks.value task).timer.status timerId = .dispatched .holding
      · rw [if_pos ends, if_pos ends]
        have owner : manager.asService.owner = manager.executorInProc := by
          unfold IlluminationService.owner asService
          rw [ends.1]
          cases manager.executorInProc <;> rfl
        have same := one .timeout
        simp only [IlluminationService.mandate, owner] at same
        exact same
      · rw [if_neg ends, if_neg ends]
        rfl
  | dropSelf task timerId =>
      simp only [observed, mandate]
      split
      · exact one .leftover
      · rfl

private theorem run_mandate (start : SensorIlluminationManager E)
    (actions : List (ManagerAction E)) (inv : start.Inv) (equipped : start.Equipped) :
    (StepMachine.run step start actions).asService.litBy =
      holderAfter start.asService.litBy
        ((StepMachine.trace step mandate start actions).map StepMachine.Record.output) := by
  induction actions generalizing start with
  | nil => rfl
  | cons action rest ih =>
      have later := ih (start.step action) (step_inv start action inv)
        (step_equipped start action inv equipped)
      rw [StepMachine.run_cons, later, step_mandate start action inv equipped]
      rfl

omit [DecidableEq E] in
private theorem litBy_eq_some_iff {manager : SensorIlluminationManager E} (inv : manager.Inv)
    (executor : E) :
    manager.asService.litBy = some executor ↔
      manager.executorInProc = some executor ∧
        ∃ task, (manager.tasks.value task).isIlluminationOn = true := by
  cases owned : manager.executorInProc with
  | none =>
      rw [IlluminationService.litBy_vacant (asService_vacant (inv.paired.mp owned))]
      simp
  | some owner =>
      obtain ⟨task, session⟩ := inv.session owned
      rw [IlluminationService.litBy_session (asService_session owned session)]
      have shining : (∃ task, (manager.tasks.value task).isIlluminationOn = true) ↔
          (manager.tasks.value task).isIlluminationOn = true := by
        constructor
        · rintro ⟨other, on⟩
          have same := inv.session_of_lit on
          rw [session] at same
          rw [Option.some.inj same]
          exact on
        · intro on
          exact ⟨task, on⟩
      rw [shining]
      cases on : (manager.tasks.value task).isIlluminationOn with
      | false => simp [SensorIlluminationTask.asSession, on]
      | true => simp [SensorIlluminationTask.asSession, on]

theorem lit_iff_mandated (actions : List (ManagerAction E)) (executor : E) :
    (StepMachine.run step (new : SensorIlluminationManager E) actions).executorInProc =
          some executor ∧
        (∃ task, ((StepMachine.run step (new : SensorIlluminationManager E)
          actions).tasks.value task).isIlluminationOn = true) ↔
      HoldsLease (mandates actions) executor := by
  rw [← litBy_eq_some_iff (run_inv actions), run_mandate new actions new_inv new_equipped]
  exact ExclusiveLease.holderAfter_none_iff _ executor

end SensorIlluminationManager

namespace RenderedManager

variable {E : Type u}

theorem Inv.attached_iff {rendered : RenderedManager E} (inv : rendered.Inv) (task : TaskId) :
    (rendered.views task).nodes.told.attached ≠ [] ↔
      (rendered.manager.tasks.value task).isIlluminationOn = true := by
  have sound := inv.manager.sound task
  cases on : (rendered.manager.tasks.value task).isIlluminationOn with
  | false =>
      refine iff_of_false (not_not.mpr ?_) Bool.false_ne_true
      by_cases live : task ∈ rendered.manager.tasks.live
      · exact (inv.agrees task live).attached.trans (sound.dark on)
      · exact inv.detached task live
  | true =>
      refine iff_of_true ?_ rfl
      have live := inv.manager.sessionLive task (inv.manager.session_of_lit on)
      obtain ⟨node, screen, _, _, attached⟩ := sound.lit on
      rw [(inv.agrees task live).attached, attached]
      exact List.cons_ne_nil _ _

variable [DecidableEq E]

/-- Whether a display shows a light, and whose, can be told from the commands and their
answers, the disconnects, the screen events and the timeouts; and there is never more
than one, nor one that is nobody's. -/
theorem display_lit_iff_mandated (actions : List (ManagerAction E)) :
    (∀ executor, (StepMachine.run step (new : RenderedManager E)
            actions).manager.executorInProc = some executor ∧
          (∃ task, ((StepMachine.run step (new : RenderedManager E) actions).views
            task).nodes.told.attached ≠ []) ↔
        HoldsLease (SensorIlluminationManager.mandates actions) executor) ∧
      ∀ task, ((StepMachine.run step (new : RenderedManager E) actions).views
          task).nodes.told.attached ≠ [] →
        (StepMachine.run step (new : RenderedManager E) actions).manager.taskInProc = some task ∧
          (∃ link, ((StepMachine.run step (new : RenderedManager E) actions).views
            task).nodes.told.attached = [link]) ∧
          ∃ executor, HoldsLease (SensorIlluminationManager.mandates actions) executor := by
  have inv := run_inv (E := E) actions
  have runs := run_manager (new : RenderedManager E) actions
  have mandated := SensorIlluminationManager.lit_iff_mandated actions
  generalize StepMachine.run step (new : RenderedManager E) actions = rendered at inv runs ⊢
  change rendered.manager = StepMachine.run SensorIlluminationManager.step
    SensorIlluminationManager.new actions at runs
  rw [← runs] at mandated
  constructor
  · intro executor
    rw [← mandated executor]
    simp only [inv.attached_iff]
  · intro task attached
    have on := (inv.attached_iff task).mp attached
    obtain ⟨node, screen, _, _, attachedAs⟩ := (inv.manager.sound task).lit on
    have session := inv.manager.session_of_lit on
    refine ⟨session, ⟨(node, screen), ?_⟩, ?_⟩
    · rw [(inv.agrees task (inv.manager.sessionLive task session)).attached, attachedAs]
    · -- a session has an owner, and the owner of a lit one holds the mandate
      cases owned : rendered.manager.executorInProc with
      | none =>
          rw [inv.manager.paired.mp owned] at session
          cases session
      | some executor => exact ⟨executor, (mandated executor).mp ⟨owned, task, on⟩⟩

end RenderedManager

end FingerprintAuth

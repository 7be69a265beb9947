/-
A disconnect of the driver, end to end.

The driver tells every executor on its list, each executor tells the registry, the
registry every processor, and the illumination manager ends the session of the
executor named. Of all these calls at most one finds the session's owner.
-/

import FingerprintAuth.ExclusiveSession
import FingerprintAuth.FingerprintAuthDriver

set_option autoImplicit false

universe u v w

namespace FingerprintAuth

/-! ### After a session -/

namespace SensorIlluminationManager

variable {E : Type u} [DecidableEq E]

private theorem step_retired (manager : SensorIlluminationManager E) (action : ManagerAction E)
    (inv : manager.Inv) (task : TaskId) (born : task < manager.tasks.next)
    (retired : manager.taskInProc ≠ some task) :
    task < (manager.step action).tasks.next ∧ (manager.step action).taskInProc ≠ some task := by
  have effect := manager.step_effect action inv
  generalize manager.step action = after at effect ⊢
  have cleared : (none : Option TaskId) ≠ some task := by simp
  cases effect with
  | idle => exact ⟨born, retired⟩
  | enable executor command environment _ result named effect =>
      cases effect with
      | busy taken => exact ⟨born, retired⟩
      | notAcquired vacant closed unaccepted => exact ⟨born, retired⟩
      | noTask vacant available unmade unaccepted => exact ⟨born, retired⟩
      | rejected object calls vacant available made unaccepted sound off nobody asked =>
          exact ⟨Nat.lt_succ_of_lt born, retired⟩
      | opened object vacant accepted enabled =>
          refine ⟨Nat.lt_succ_of_lt born, ?_⟩
          intro session
          exact Nat.ne_of_lt born (Option.some.inj session).symm
  | turnOn executor command environment target named owner session => exact ⟨born, retired⟩
  | turnOff executor command environment target named owner session => exact ⟨born, retired⟩
  | disable executor command environment target _ named owner session effect =>
      cases effect with
      | held holder => exact ⟨born, cleared⟩
      | freed nobody => exact ⟨born, cleared⟩
  | disconnect executor target _ owner session effect =>
      cases effect with
      | held holder => exact ⟨born, cleared⟩
      | freed nobody => exact ⟨born, cleared⟩
  | screen isOn => exact ⟨born, retired⟩
  | callback _ target taskAction named live => exact ⟨born, retired⟩
  | expired target timerId dead => exact ⟨born, retired⟩
  | dropSelf target timerId _ effect =>
      cases effect with
      | elsewhere other => exact ⟨born, retired⟩
      | kept returned remains => exact ⟨born, retired⟩
      | last returned live abandoned nobody => exact ⟨born, retired⟩

theorem run_retired_dark (start : SensorIlluminationManager E) (actions : List (ManagerAction E))
    (inv : start.Inv) (task : TaskId) (born : task < start.tasks.next)
    (retired : start.taskInProc ≠ some task) :
    ((StepMachine.run step start actions).tasks.value task).isIlluminationOn = false := by
  induction actions generalizing start with
  | nil => exact inv.off task retired
  | cons action rest ih =>
      have kept := step_retired start action inv task born retired
      exact ih (start.step action) (step_inv start action inv) kept.1 kept.2

omit [DecidableEq E] in
theorem endSession_owner (manager : SensorIlluminationManager E) (task : TaskId)
    (inv : manager.Inv) (session : manager.taskInProc = some task) :
    manager.endSession.executorInProc = none ∧ manager.endSession.taskInProc = none := by
  have effect := endSession_effect manager task inv session
  generalize manager.endSession = after at effect ⊢
  cases effect with
  | held holder => exact ⟨rfl, rfl⟩
  | freed nobody => exact ⟨rfl, rfl⟩

/-! ### The loops -/

theorem foldl_onHdiDisconnect_of_absent (manager : SensorIlluminationManager E)
    (executors : List (Option E))
    (absent : ∀ owner, manager.executorInProc = some owner → some owner ∉ executors) :
    executors.foldl onHdiDisconnect manager = manager := by
  induction executors with
  | nil => rfl
  | cons head tail ih =>
      have still : manager.onHdiDisconnect head = manager := by
        cases head with
        | none => rfl
        | some executor =>
            apply other_disconnect
            intro owned
            exact absent executor owned List.mem_cons_self
      rw [List.foldl_cons, still]
      apply ih
      intro owner owned member
      exact absent owner owned (List.mem_cons_of_mem _ member)

theorem foldl_onHdiDisconnect_of_owner (manager : SensorIlluminationManager E)
    (executors : List (Option E)) (inv : manager.Inv) (owner : E)
    (owned : manager.executorInProc = some owner) (member : some owner ∈ executors) :
    executors.foldl onHdiDisconnect manager = manager.endSession := by
  obtain ⟨task, session⟩ := inv.session owned
  have vacant := (endSession_owner manager task inv session).1
  induction executors with
  | nil => cases member
  | cons head tail ih =>
      rw [List.foldl_cons]
      by_cases same : head = some owner
      · have ended : manager.onHdiDisconnect head = manager.endSession := by
          rw [same]
          exact if_neg (not_not.mpr owned)
        rw [ended]
        apply foldl_onHdiDisconnect_of_absent
        intro later laterOwned
        rw [vacant] at laterOwned
        cases laterOwned
      · have still : manager.onHdiDisconnect head = manager := by
          cases head with
          | none => rfl
          | some executor =>
              apply other_disconnect
              rw [owned]
              intro equal
              exact same equal.symm
        rw [still]
        rcases List.mem_cons.mp member with first | later
        · exact absurd first.symm same
        · exact ih later

end SensorIlluminationManager

namespace Processors

variable {E : Type u} {P : Type v} {O : Type w} [DecidableEq E] [LinearOrder P]

/-- Processors other than the illumination manager leave it alone, and it is visited
once. -/
theorem foldl_onHdiDisconnect (processors : Processors E P O) (executor : Option E)
    (visited : List P) (state : ProcessorState E O) (once : visited.Nodup) :
    (visited.foldl (processors.onHdiDisconnect executor) state).illumination =
      if processors.sensorIllumination ∈ visited then
        state.illumination.onHdiDisconnect executor
      else state.illumination := by
  induction visited generalizing state with
  | nil => rfl
  | cons head tail ih =>
      obtain ⟨notAgain, onceTail⟩ := List.nodup_cons.mp once
      rw [List.foldl_cons, ih _ onceTail]
      by_cases own : head = processors.sensorIllumination
      · rw [own] at notAgain ⊢
        rw [if_neg notAgain, if_pos List.mem_cons_self]
        simp only [onHdiDisconnect, if_true]
      · have untouched : (processors.onHdiDisconnect executor state head).illumination =
            state.illumination := by
          simp only [onHdiDisconnect, if_neg own]
        have sameTest : processors.sensorIllumination ∈ head :: tail ↔
            processors.sensorIllumination ∈ tail := by
          rw [List.mem_cons]
          exact or_iff_right (Ne.symm own)
        simp only [untouched, sameTest]

end Processors

namespace FingerprintAuthDriverHdi

variable {E : Type u} {P : Type v} {O : Type w} [DecidableEq E] [LinearOrder P]

theorem disconnectExecutor_illumination (processors : Processors E P O)
    (registry : SaCommandManager SaCommandId P)
    (registered : processors.sensorIllumination ∈ registry.processors)
    (executor : Option E) (state : ProcessorState E O) :
    (disconnectExecutor processors registry state executor).illumination =
      state.illumination.onHdiDisconnect executor := by
  cases executor with
  | none => rfl
  | some executor =>
      refine (processors.foldl_onHdiDisconnect (some executor) registry.processors.toList
        state registry.processors.nodup).trans ?_
      exact if_pos registered

theorem onHdiDisconnect_illumination (processors : Processors E P O)
    (registry : SaCommandManager SaCommandId P)
    (registered : processors.sensorIllumination ∈ registry.processors)
    (executors : List (Option E)) (state : ProcessorState E O) :
    (onHdiDisconnect processors registry executors state).2.illumination =
      executors.foldl SensorIlluminationManager.onHdiDisconnect state.illumination := by
  unfold onHdiDisconnect
  simp only
  induction executors generalizing state with
  | nil => rfl
  | cons head tail ih =>
      rw [List.foldl_cons, List.foldl_cons, ih,
        disconnectExecutor_illumination processors registry registered]

end FingerprintAuthDriverHdi

/-! ### The whole disconnect -/

def Event.isDisableOf (task : TaskId) : Event → Bool
  | .call called (.disableSensorIllumination _) => called == task
  | _ => false

namespace SensorIlluminationManager

variable {E : Type u}

/-- The session of the task was ended by one call to `DisableSensorIllumination`, and
its light is off for good. -/
structure EndedOnce [DecidableEq E] (before after : SensorIlluminationManager E)
    (task : TaskId) : Prop where
  disabledOnce : ∃ more, after.log = before.log ++ more ∧
    more.countP (Event.isDisableOf task) = 1
  dark : (after.tasks.value task).isIlluminationOn = false
  detached : (after.tasks.value task).attached = []
  staysDark : ∀ later,
    ((StepMachine.run step after later).tasks.value task).isIlluminationOn = false
  noOwner : after.executorInProc = none
  noTask : after.taskInProc = none

theorem endSession_endedOnce [DecidableEq E] (manager : SensorIlluminationManager E)
    (task : TaskId) (inv : manager.Inv) (session : manager.taskInProc = some task)
    (invAfter : manager.endSession.Inv) : EndedOnce manager manager.endSession task := by
  obtain ⟨noOwner, noTask⟩ := endSession_owner manager task inv session
  have retired : manager.endSession.taskInProc ≠ some task := by
    rw [noTask]
    simp
  have dark := invAfter.off task retired
  have effect := endSession_effect manager task inv session
  have live := inv.sessionLive task session
  refine ⟨?_, dark, (invAfter.sound task).dark dark, ?_, noOwner, noTask⟩
  · generalize manager.endSession = after at effect
    cases effect with
    | held holder =>
        refine ⟨_, rfl, ?_⟩
        simp [Event.isDisableOf]
    | freed nobody =>
        refine ⟨_, rfl, ?_⟩
        simp [Event.isDisableOf]
  · intro later
    apply run_retired_dark _ later invAfter task _ retired
    have born := manager.tasks.bounded task live
    generalize manager.endSession = after at effect
    cases effect with
    | held holder => exact born
    | freed nobody => exact born

end SensorIlluminationManager

namespace FingerprintAuthDriverHdi

variable {E : Type u} {P : Type v} {O : Type w} [DecidableEq E] [LinearOrder P]

/-- A disconnect of the driver ends the session of an executor on its list, once and
for good, and touches no other session. -/
theorem disconnect_ends_own_session (processors : Processors E P O)
    (registry : SaCommandManager SaCommandId P)
    (registered : processors.sensorIllumination ∈ registry.processors)
    (executors : List (Option E)) (state : ProcessorState E O)
    (reached : StepMachine.Reachable SensorIlluminationManager.step SensorIlluminationManager.new
      state.illumination) :
    (onHdiDisconnect processors registry executors state).1 = [] ∧
    (∀ owner, state.illumination.executorInProc = some owner → some owner ∈ executors →
      ∃ task, state.illumination.taskInProc = some task ∧
        SensorIlluminationManager.EndedOnce state.illumination
          (onHdiDisconnect processors registry executors state).2.illumination task) ∧
    ((∀ owner, state.illumination.executorInProc = some owner → some owner ∉ executors) →
      (onHdiDisconnect processors registry executors state).2.illumination =
        state.illumination) := by
  have inv : state.illumination.Inv :=
    reached.invariant SensorIlluminationManager.Inv SensorIlluminationManager.new_inv
      SensorIlluminationManager.step_inv
  rw [onHdiDisconnect_illumination processors registry registered]
  refine ⟨rfl, ?_, ?_⟩
  · intro owner owned member
    obtain ⟨task, session⟩ := inv.session owned
    refine ⟨task, session, ?_⟩
    rw [SensorIlluminationManager.foldl_onHdiDisconnect_of_owner _ executors inv owner owned member]
    apply SensorIlluminationManager.endSession_endedOnce _ task inv session
    have invAfter := SensorIlluminationManager.step_inv _ (.onHdiDisconnect (some owner)) inv
    have ended : state.illumination.step (.onHdiDisconnect (some owner)) =
        state.illumination.endSession := if_neg (not_not.mpr owned)
    rw [ended] at invAfter
    exact invAfter
  · intro absent
    exact SensorIlluminationManager.foldl_onHdiDisconnect_of_absent _ executors absent

/-- Executor 1 has the session and is told twice, beside a null entry, another
executor and another processor. -/
theorem disconnect_ends_session_of_listed_owner :
    SensorIlluminationManager.EndedOnce
      (StepMachine.run SensorIlluminationManager.step SensorIlluminationManager.new
        [SensorIlluminationManager.commanded .enableSensorIllumination])
      (onHdiDisconnect
        { sensorIllumination := 7
          processOther := fun _ calls _ _ => (calls, .success)
          disconnectOther := fun _ calls _ => calls + 1 }
        ((SaCommandManager.empty.registerSaCommandProcessor [.enableSensorIllumination]
          (some 7)).registerSaCommandProcessor [] (some 3))
        [none, some 1, some 2, some 1]
        { illumination := StepMachine.run SensorIlluminationManager.step
            SensorIlluminationManager.new
            [SensorIlluminationManager.commanded .enableSensorIllumination]
          others := 0 }).2.illumination 0 := by
  obtain ⟨_, ended, _⟩ := disconnect_ends_own_session
    { sensorIllumination := 7
      processOther := fun _ calls _ _ => (calls, .success)
      disconnectOther := fun _ calls _ => calls + 1 }
    ((SaCommandManager.empty.registerSaCommandProcessor [.enableSensorIllumination]
      (some 7)).registerSaCommandProcessor [] (some 3))
    (by decide) [none, some 1, some 2, some 1]
    { illumination := StepMachine.run SensorIlluminationManager.step
        SensorIlluminationManager.new
        [SensorIlluminationManager.commanded .enableSensorIllumination]
      others := 0 }
    (StepMachine.run_reachable _ _ _)
  obtain ⟨task, session, endedOnce⟩ := ended 1 (by decide) (by decide)
  have same : task = 0 := (Option.some.inj session).symm
  rw [same] at endedOnce
  exact endedOnce

end FingerprintAuthDriverHdi

end FingerprintAuth

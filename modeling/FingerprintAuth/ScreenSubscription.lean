/-
When the process is subscribed to the screen events.

Each task's constructor subscribes; ending a session and every destructor
unsubscribe. The one flag is as needed exactly as long as no callback destroys the
task of an earlier session during a later one, and no constructor that throws after
subscribing is the only one to have asked.
-/

import FingerprintAuth.ManagerRuns

set_option autoImplicit false

universe u

namespace FingerprintAuth

def ManagerAction.SubscribeSucceeds {E : Type u} : ManagerAction E → Prop
  | .processSaCommand _ _ environment => environment.subscribe.subscribed = true
  | _ => True

namespace SensorIlluminationManager

variable {E : Type u}

def SubscribedAsNeeded (manager : SensorIlluminationManager E) : Prop :=
  (manager.taskInProc ≠ none → manager.monitor.isSubscribing = true) ∧
    (manager.tasks.live = ∅ → manager.monitor.isSubscribing = false)

/-- This `ENABLE` runs into a constructor that throws. -/
def ConstructorThrows (manager : SensorIlluminationManager E) (environment : Environment) : Prop :=
  manager.executorInProc = none ∧
    (manager.serviceEx.isOpened || environment.dlopen) = true ∧ environment.factory = .setupThrows

/-- The return of this callback destroys a task that has no session. -/
def DestroysLeftover (manager : SensorIlluminationManager E) (task : TaskId) (timerId : TimerId) :
    Prop :=
  (manager.tasks.value task).timer.status timerId = .dispatched .returned ∧
    manager.taskInProc ≠ some task ∧ ((manager.tasks.value task).dropSelf timerId).hasHolder = false

/-- A leftover task is destroyed only while there is no session, and a constructor
throws only while some task is alive. -/
def KeepsSubscription (manager : SensorIlluminationManager E) : ManagerAction E → Prop
  | .processSaCommand (some _) command environment =>
      command.id = .enableSensorIllumination → manager.ConstructorThrows environment →
        manager.tasks.live ≠ ∅
  | .dropSelf task timerId => manager.DestroysLeftover task timerId → manager.taskInProc = none
  | _ => True

theorem new_subscribedAsNeeded : (new : SensorIlluminationManager E).SubscribedAsNeeded :=
  ⟨fun session => absurd rfl session, fun _ => rfl⟩

private theorem open_subscribed_iff (manager after : SensorIlluminationManager E) (executor : E)
    (param : EnableSensorIlluminationParam) (environment : Environment) (result : ResultCode)
    (succeeds : environment.subscribe.subscribed = true) (inv : manager.Inv)
    (needed : manager.SubscribedAsNeeded)
    (effect : OpenEffect manager executor param environment after result) :
    after.SubscribedAsNeeded ↔
      (manager.ConstructorThrows environment → manager.tasks.live ≠ ∅) := by
  have subscribed := manager.monitor.subscribe_isSubscribing environment.subscribe succeeds
  cases effect with
  | busy taken =>
      refine iff_of_true needed ?_
      rintro ⟨vacant, _, _⟩
      rcases taken with owned | busy
      · exact absurd vacant owned
      · exact absurd (inv.paired.mp vacant) busy
  | notAcquired vacant closed unaccepted =>
      refine iff_of_true needed ?_
      rintro ⟨_, available, _⟩
      rw [closed] at available
      cases available
  | noTask vacant available unmade unaccepted =>
      by_cases throws : environment.factory = .setupThrows
      · unfold SubscribedAsNeeded
        simp only [if_pos throws, subscribed, Bool.true_eq_false, imp_false]
        constructor
        · intro after _
          exact after.2
        · intro alive
          exact ⟨fun _ => trivial, alive ⟨vacant.1, available, throws⟩⟩
      · refine iff_of_true ?_ (fun thrown => absurd thrown.2.2 throws)
        simpa only [SubscribedAsNeeded, if_neg throws] using needed
  | rejected object calls vacant available made unaccepted sound off nobody asked =>
      refine iff_of_true ⟨fun session => absurd vacant.2 session, fun _ => rfl⟩ ?_
      rintro ⟨_, _, throws⟩
      rw [made] at throws
      cases throws
  | opened object vacant accepted enabled =>
      refine iff_of_true ⟨fun _ => subscribed, ?_⟩ ?_
      · intro nobody
        exact absurd nobody (Finset.insert_ne_empty _ _)
      · rintro ⟨_, _, throws⟩
        rw [made_of_accepted accepted] at throws
        cases throws

private theorem end_subscribed (manager after : SensorIlluminationManager E) (target : TaskId)
    (effect : EndEffect manager target after) : after.SubscribedAsNeeded := by
  cases effect with
  | held holder => exact ⟨fun session => absurd rfl session, fun _ => rfl⟩
  | freed nobody => exact ⟨fun session => absurd rfl session, fun _ => rfl⟩

private theorem drop_subscribed_iff (manager after : SensorIlluminationManager E) (task : TaskId)
    (timerId : TimerId) (needed : manager.SubscribedAsNeeded)
    (effect : DropEffect manager task timerId after) :
    after.SubscribedAsNeeded ↔
      (manager.DestroysLeftover task timerId → manager.taskInProc = none) := by
  cases effect with
  | elsewhere other =>
      refine iff_of_true needed ?_
      rintro ⟨returned, _, _⟩
      exact absurd returned other
  | kept returned remains =>
      refine iff_of_true needed ?_
      rintro ⟨_, abandoned, nobody⟩
      rcases remains with session | holder
      · exact absurd session abandoned
      · rw [nobody] at holder
        cases holder
  | last returned live abandoned nobody =>
      constructor
      · intro after _
        by_contra session
        have still := after.1 session
        rw [ScreenStateMonitor.unsubscribe_isSubscribing] at still
        cases still
      · intro vacant
        have none := vacant ⟨returned, abandoned, nobody⟩
        exact ⟨fun session => absurd none session, fun _ => rfl⟩

private theorem other_subscribed (manager after : SensorIlluminationManager E)
    (action : ManagerAction E) (needed : manager.SubscribedAsNeeded)
    (notEnable : ∀ executor command environment,
      action = .processSaCommand (some executor) command environment →
        command.id ≠ .enableSensorIllumination)
    (notReturn : ∀ task timerId, action ≠ .dropSelf task timerId)
    (effect : StepEffect manager action after) : after.SubscribedAsNeeded := by
  cases effect with
  | idle => exact needed
  | enable executor command environment _ result named effect =>
      exact absurd named (notEnable executor command environment rfl)
  | turnOn executor command environment task named owner session => exact needed
  | turnOff executor command environment task named owner session => exact needed
  | disable executor command environment task _ named owner session effect =>
      exact end_subscribed manager after task effect
  | disconnect executor task _ owner session effect =>
      exact end_subscribed manager after task effect
  | screen isOn => exact needed
  | callback _ task taskAction named live => exact needed
  | expired task timerId dead => exact needed
  | dropSelf task timerId _ effect => exact absurd rfl (notReturn task timerId)

section Runs

variable [DecidableEq E]

theorem step_subscribed_iff (manager : SensorIlluminationManager E) (action : ManagerAction E)
    (succeeds : action.SubscribeSucceeds) (inv : manager.Inv)
    (needed : manager.SubscribedAsNeeded) :
    (manager.step action).SubscribedAsNeeded ↔ manager.KeepsSubscription action := by
  have other := other_subscribed manager (manager.step action) action needed
  have effect := manager.step_effect action inv
  cases action with
  | processSaCommand executor command environment =>
      cases executor with
      | none => exact iff_of_true needed trivial
      | some executor =>
          by_cases named : command.id = .enableSensorIllumination
          · have opened := enableSensorIllumination_effect manager executor command.param
              environment inv
            have exactly := open_subscribed_iff manager _ executor _ environment _ succeeds inv
              needed opened
            simp only [step, processSaCommand, named, KeepsSubscription, true_imp_iff]
            exact exactly
          · refine iff_of_true (other ?_ ?_ effect) (fun enable => absurd enable named)
            · intro issuer issued answers same
              cases same
              exact named
            · intro task timerId same
              cases same
  | onHdiDisconnect executor =>
      refine iff_of_true (other ?_ ?_ effect) trivial
      · intro issuer issued answers same
        cases same
      · intro task timerId same
        cases same
  | setScreenOn isOn => exact iff_of_true needed trivial
  | dispatch task timerId =>
      refine iff_of_true (other ?_ ?_ effect) trivial
      · intro issuer issued answers same
        cases same
      · intro other timer same
        cases same
  | lockSelf task timerId =>
      refine iff_of_true (other ?_ ?_ effect) trivial
      · intro issuer issued answers same
        cases same
      · intro other timer same
        cases same
  | onDisplayTimeOut task timerId => exact iff_of_true needed trivial
  | dropSelf task timerId =>
      exact drop_subscribed_iff manager _ task timerId needed
        (dropSelf_effect manager task timerId inv)

/-- Where the subscribe calls succeed, the process is subscribed as needed in every
state of a run exactly when each step keeps the subscription. -/
theorem always_subscribed_iff_keepsSubscription (actions : List (ManagerAction E))
    (succeed : ∀ action, action ∈ actions → action.SubscribeSucceeds) :
    StepMachine.Always step SubscribedAsNeeded new actions ↔
      StepMachine.EachStep step KeepsSubscription new actions :=
  StepMachine.always_iff_eachStep Inv ManagerAction.SubscribeSucceeds step_inv
    (fun manager action succeeds inv needed =>
      step_subscribed_iff manager action succeeds inv needed)
    new_inv new_subscribedAsNeeded actions succeed

end Runs

theorem single_session_subscribed_as_needed :
    StepMachine.Always step SubscribedAsNeeded new
      [commanded .enableSensorIllumination, commanded .disableSensorIllumination] := by
  refine (always_subscribed_iff_keepsSubscription
    [commanded .enableSensorIllumination, commanded .disableSensorIllumination] ?_).mpr ?_
  · intro action member
    simp only [List.mem_cons, List.not_mem_nil, or_false] at member
    rcases member with same | same
    · rw [same]
      rfl
    · rw [same]
      rfl
  · refine ⟨?_, ?_, trivial⟩
    · rintro _ ⟨_, _, throws⟩
      cases throws
    · intro named
      cases named

/-- The task of the first session outlives it through a callback, and its destructor
ends the subscription of the second session. -/
theorem leftover_ends_later_subscription :
    ¬StepMachine.Always step SubscribedAsNeeded new
      [commanded .enableSensorIllumination, commanded .turnOnSensorIllumination, .dispatch 0 1,
        .lockSelf 0 1, commanded .disableSensorIllumination, commanded .enableSensorIllumination,
        .onDisplayTimeOut 0 1, .dropSelf 0 1] := by
  intro always
  have subscribed := always.last.1 (by decide)
  exact absurd subscribed (by decide)

end SensorIlluminationManager

end FingerprintAuth

/-
Which illumination a display timeout ends.

The callback carries no timer id: it takes the task's lock whenever it gets it and
switches off whatever is on. `TurnOff` and `TurnOn` cancel the current timer first,
which stops it only while it has not been dispatched. So a timeout ends its own
illumination in every run in which no callback is waiting when the light goes on,
and in no other kind of run can that be relied on.
-/

import FingerprintAuth.TaskRuns

set_option autoImplicit false

namespace FingerprintAuth

namespace SensorIlluminationTask

/-- A new task after a successful `enableSensorIllumination`. -/
def Enabled (task : SensorIlluminationTask) : Prop :=
  ∃ centerX centerY radius color answer,
    new.registerDestructCallback.enableSensorIllumination centerX centerY radius color answer =
      (task, .success)

theorem Enabled.sound {task : SensorIlluminationTask} (enabled : task.Enabled) :
    task.Sound ∧ task.isIlluminationOn = false := by
  obtain ⟨centerX, centerY, radius, color, answer, result⟩ := enabled
  have kept := enable_sound new.registerDestructCallback centerX centerY radius color answer
    registerDestructCallback_sound rfl rfl
  rw [result] at kept
  exact kept

/-- Whenever a display timeout takes a light off that a step of the run had put on,
the callback is that of the timer which this step registered. -/
def TimeoutEndsOwnLight (start : SensorIlluminationTask) (actions : List TaskAction) : Prop :=
  ∀ before turnOn during timerId after,
    actions = before ++ turnOn :: (during ++ .onDisplayTimeOut timerId :: after) →
    (StepMachine.run step start before).isIlluminationOn = false →
    StepMachine.Always step (fun task => task.isIlluminationOn = true)
      (step (StepMachine.run step start before) turnOn) during →
    (step (StepMachine.run step (step (StepMachine.run step start before) turnOn) during)
      (.onDisplayTimeOut timerId)).isIlluminationOn = false →
    timerId = (step (StepMachine.run step start before) turnOn).currTimerId

/-- When the light goes on, no callback is waiting to run `OnDisplayTimeOut`. -/
def NoCallbackWaiting (task : SensorIlluminationTask) : TaskAction → Prop
  | .turnOnSensorIllumination monitor answer =>
      task.lights monitor answer = true →
        ∀ timerId, (task.timer.status timerId).running CallbackProgress.beforeTimeOut = false
  | _ => True

def OnlyOwnCallback (task : SensorIlluminationTask) : Prop :=
  task.isIlluminationOn = true → ∀ timerId,
    (task.timer.status timerId).running CallbackProgress.beforeTimeOut = true →
      timerId = task.currTimerId

private theorem onlyOwnCallback_of_dark {task : SensorIlluminationTask}
    (off : task.isIlluminationOn = false) : task.OnlyOwnCallback := by
  intro on
  rw [off] at on
  cases on

private theorem turnOn_onlyOwnCallback (task : SensorIlluminationTask)
    (monitor : ScreenStateMonitor) (answer : DrawAnswer) (own : task.OnlyOwnCallback)
    (clear : task.NoCallbackWaiting (.turnOnSensorIllumination monitor answer)) :
    (task.turnOnSensorIllumination monitor answer).1.OnlyOwnCallback := by
  have effect := turnOnSensorIllumination_effect task monitor answer
  have lights := (lights_iff task monitor answer).mpr
  generalize (task.turnOnSensorIllumination monitor answer).1 = after at effect lights ⊢
  generalize (task.turnOnSensorIllumination monitor answer).2 = result at effect
  cases effect with
  | still result reason => exact own
  | drawFailed drawn drawResult off failed draw =>
      apply onlyOwnCallback_of_dark
      rw [draw.frame]
      exact off
  | noScreen drawn off draw absent =>
      apply onlyOwnCallback_of_dark
      change drawn.isIlluminationOn = false
      rw [draw.frame]
      exact off
  | lit drawn node screen screenOn off draw nodePresent screenPresent =>
      have nobody := clear (lights ⟨off, rfl⟩)
      intro _ timerId running
      simp only [OneShotTimer.register_status, OneShotTimer.unregister_status] at running
      split at running
      · cases running
      · split at running
        · rw [TimerStatus.running_cancel, nobody timerId] at running
          cases running
        · rw [nobody timerId] at running
          cases running

private theorem dispatchTimer_onlyOwnCallback (task : SensorIlluminationTask) (target : TimerId)
    (sound : task.Sound) (own : task.OnlyOwnCallback) :
    (task.dispatchTimer target).OnlyOwnCallback := by
  intro on timerId running
  simp only [dispatchTimer, OneShotTimer.dispatch_status] at running
  split at running
  · cases before : task.timer.status timerId with
    | idle => rw [before] at running; cases running
    | registered => exact sound.onlyCurrent timerId before
    | dispatched progress =>
        rw [before] at running
        exact own on timerId (by rw [before]; exact running)
  · exact own on timerId running

private theorem lockSelf_onlyOwnCallback (task : SensorIlluminationTask) (target : TimerId)
    (own : task.OnlyOwnCallback) : (task.lockSelf target).OnlyOwnCallback := by
  unfold lockSelf
  split
  · rename_i dispatched
    intro on timerId running
    simp only [OneShotTimer.advance_status] at running
    split at running
    · rename_i same
      subst same
      exact own on timerId (by rw [dispatched]; rfl)
    · exact own on timerId running
  · exact own

private theorem dropSelf_onlyOwnCallback (task : SensorIlluminationTask) (target : TimerId)
    (own : task.OnlyOwnCallback) : (task.dropSelf target).OnlyOwnCallback := by
  unfold dropSelf
  split
  · intro on timerId running
    exact own on timerId (task.timer.running_of_retire running)
  · exact own

private theorem step_onlyOwnCallback (task : SensorIlluminationTask) (action : TaskAction)
    (sound : task.Sound) (own : task.OnlyOwnCallback) (clear : task.NoCallbackWaiting action) :
    (task.step action).OnlyOwnCallback := by
  cases action with
  | turnOnSensorIllumination monitor answer =>
      exact turnOn_onlyOwnCallback task monitor answer own clear
  | turnOffSensorIllumination =>
      exact onlyOwnCallback_of_dark (turnOff_isIlluminationOn task sound)
  | disableSensorIllumination monitor =>
      exact onlyOwnCallback_of_dark (turnOff_isIlluminationOn task sound)
  | dispatch timerId => exact dispatchTimer_onlyOwnCallback task timerId sound own
  | lockSelf timerId => exact lockSelf_onlyOwnCallback task timerId own
  | onDisplayTimeOut timerId =>
      by_cases holding : task.timer.status timerId = .dispatched .holding
      · exact onlyOwnCallback_of_dark (runDisplayTimeOut_dark task timerId sound holding)
      · simp only [step]
        rw [runDisplayTimeOut_of_not_holding task timerId holding]
        exact own
  | dropSelf timerId => exact dropSelf_onlyOwnCallback task timerId own

theorem run_keeps_timer (start : SensorIlluminationTask) (actions : List TaskAction)
    (sound : start.Sound)
    (lit : StepMachine.Always step (fun task => task.isIlluminationOn = true) start actions) :
    (StepMachine.run step start actions).currTimerId = start.currTimerId ∧
      (StepMachine.run step start actions).timer.nextId = start.timer.nextId := by
  induction actions generalizing start with
  | nil => exact ⟨rfl, rfl⟩
  | cons action rest ih =>
      obtain ⟨on, later⟩ := lit
      have one := step_keeps_timer start action sound on later.first
      have others := ih (step start action) (step_sound start action sound) later
      rw [StepMachine.run_cons]
      exact ⟨others.1.trans one.1, others.2.trans one.2⟩

theorem run_sound (start : SensorIlluminationTask) (actions : List TaskAction)
    (sound : start.Sound) : (StepMachine.run step start actions).Sound :=
  (StepMachine.run_reachable step start actions).invariant Sound sound step_sound

private theorem endsOwnLight_of_clear (start : SensorIlluminationTask) (enabled : start.Enabled)
    (actions : List TaskAction)
    (clear : StepMachine.EachStep step NoCallbackWaiting start actions) :
    TimeoutEndsOwnLight start actions := by
  intro before turnOn during timerId after split off lit ended
  obtain ⟨soundStart, offStart⟩ := enabled.sound
  have both := StepMachine.always_of_eachStep (fun task => task.Sound ∧ task.OnlyOwnCallback)
    (fun task action good met =>
      ⟨step_sound task action good.1, step_onlyOwnCallback task action good.1 good.2 met⟩)
    ⟨soundStart, onlyOwnCallback_of_dark offStart⟩ clear
  rw [split] at both
  -- the state in which the callback gets the lock
  have atTimeOut := (StepMachine.always_append.mp (StepMachine.always_append.mp both).2.2).2.first
  have on := lit.last
  have soundLit : (step (StepMachine.run step start before) turnOn).Sound :=
    step_sound _ turnOn (run_sound start before soundStart)
  have sameTimer := (run_keeps_timer _ during soundLit lit).1
  rw [← sameTimer]
  refine atTimeOut.2 on timerId ?_
  by_cases holding :
      (StepMachine.run step (step (StepMachine.run step start before) turnOn) during).timer.status
        timerId = .dispatched .holding
  · rw [holding]
    rfl
  · have same := runDisplayTimeOut_of_not_holding _ timerId holding
    change (runDisplayTimeOut _ timerId).isIlluminationOn = false at ended
    rw [same, on] at ended
    cases ended

private theorem eachStep_of_finishing (start : SensorIlluminationTask)
    (callbacks : List TaskAction)
    (finishing : ∀ action, action ∈ callbacks → action.finishesCallback = true) :
    StepMachine.EachStep step NoCallbackWaiting start callbacks := by
  rw [StepMachine.eachStep_iff_split]
  intro before action after split
  have member : action ∈ callbacks := by rw [split]; simp
  have finishes := finishing action member
  cases action with
  | turnOnSensorIllumination monitor answer => cases finishes
  | turnOffSensorIllumination => trivial
  | disableSensorIllumination monitor => trivial
  | dispatch timerId => trivial
  | lockSelf timerId => trivial
  | onDisplayTimeOut timerId => trivial
  | dropSelf timerId => trivial

private theorem waiting_callback_runs (task : SensorIlluminationTask) (timerId : TimerId)
    (waiting : (task.timer.status timerId).running CallbackProgress.beforeTimeOut = true) :
    (task.lockSelf timerId).timer.status timerId = .dispatched .holding := by
  unfold lockSelf
  cases before : task.timer.status timerId with
  | idle => rw [before] at waiting; cases waiting
  | registered => rw [before] at waiting; cases waiting
  | dispatched progress =>
      cases progress with
      | dispatched =>
          rw [if_pos rfl]
          simp only [OneShotTimer.advance_status, if_true, before]
          rfl
      | holding =>
          rw [if_neg (by simp)]
          exact before
      | returned => rw [before] at waiting; cases waiting

/-- The timer of a new light is another one than that of a callback still waiting:
cancelling and registering touch no dispatched callback. -/
private theorem turnOn_keeps_waiting (task : SensorIlluminationTask) (monitor : ScreenStateMonitor)
    (answer : DrawAnswer) (timerId : TimerId) (off : task.isIlluminationOn = false)
    (on : (task.turnOnSensorIllumination monitor answer).1.isIlluminationOn = true)
    (waiting : (task.timer.status timerId).running CallbackProgress.beforeTimeOut = true) :
    (task.turnOnSensorIllumination monitor answer).1.currTimerId = task.timer.nextId ∧
      ((task.turnOnSensorIllumination monitor answer).1.timer.status timerId).running
        CallbackProgress.beforeTimeOut = true := by
  have effect := turnOnSensorIllumination_effect task monitor answer
  generalize (task.turnOnSensorIllumination monitor answer).2 = result at effect
  generalize (task.turnOnSensorIllumination monitor answer).1 = lit at effect on ⊢
  cases effect with
  | still result reason =>
      rw [off] at on
      cases on
  | drawFailed drawn drawResult _ failed draw =>
      rw [draw.frame] at on
      exact absurd on (by simp [off])
  | noScreen drawn _ draw absent =>
      have drawnOff : drawn.isIlluminationOn = false := by
        rw [draw.frame]
        exact off
      exact absurd on (by simp [drawnOff])
  | lit drawn node screen screenOn _ draw nodePresent screenPresent =>
      refine ⟨rfl, ?_⟩
      have old : timerId ≠ (task.timer.unregister task.currTimerId).nextId :=
        Nat.ne_of_lt (task.timer.lt_nextId_of_running waiting)
      simp only [OneShotTimer.register_status, OneShotTimer.unregister_status, if_neg old]
      split
      · rw [TimerStatus.running_cancel]
        exact waiting
      · exact waiting

private theorem clear_of_endsOwnLight (start : SensorIlluminationTask) (enabled : start.Enabled)
    (before : List TaskAction) (action : TaskAction)
    (ends : ∀ callbacks, (∀ step, step ∈ callbacks → step.finishesCallback = true) →
      TimeoutEndsOwnLight start (before ++ [action] ++ callbacks)) :
    (StepMachine.run step start before).NoCallbackWaiting action := by
  obtain ⟨soundStart, _⟩ := enabled.sound
  have sound := run_sound start before soundStart
  cases action with
  | turnOnSensorIllumination monitor answer =>
      intro lights timerId
      rw [← Bool.not_eq_true]
      intro waiting
      obtain ⟨off, on⟩ := (lights_iff _ monitor answer).mp lights
      have stillWaiting := turnOn_keeps_waiting _ monitor answer timerId off on waiting
      have litSound := turnOn_sound _ monitor answer sound
      have claimed := ends [.lockSelf timerId, .onDisplayTimeOut timerId] (by
        intro step member
        simp only [List.mem_cons, List.not_mem_nil, or_false] at member
        rcases member with same | same <;> rw [same] <;> rfl)
      have own := claimed before (.turnOnSensorIllumination monitor answer) [.lockSelf timerId]
        timerId [] (by simp) off
      simp only [step, StepMachine.run_cons, StepMachine.run_nil, StepMachine.Always] at own
      generalize (StepMachine.run step start before) = task at *
      generalize (task.turnOnSensorIllumination monitor answer).1 = lit at *
      have known := task.timer.lt_nextId_of_running waiting
      have locked := waiting_callback_runs lit timerId stillWaiting.2
      have lockedOn : (lit.lockSelf timerId).isIlluminationOn = true := by
        unfold lockSelf
        split <;> exact on
      have ended := runDisplayTimeOut_dark (lit.lockSelf timerId) timerId
        (lockSelf_sound lit timerId litSound) locked
      have same := own ⟨on, lockedOn⟩ ended
      rw [stillWaiting.1] at same
      exact Nat.ne_of_lt known same
  | turnOffSensorIllumination => trivial
  | disableSensorIllumination monitor => trivial
  | dispatch timerId => trivial
  | lockSelf timerId => trivial
  | onDisplayTimeOut timerId => trivial
  | dropSelf timerId => trivial

/-- The light of an enabled task goes on only when no callback waits exactly when
every timeout ends its own light: in the run, and in each of its beginnings followed
by the steps of callbacks already dispatched. -/
theorem noCallbackWaiting_iff_timeoutEndsOwnLight (start : SensorIlluminationTask)
    (enabled : start.Enabled) (actions : List TaskAction) :
    StepMachine.EachStep step NoCallbackWaiting start actions ↔
      ∀ before after, actions = before ++ after →
        ∀ callbacks, (∀ action, action ∈ callbacks → action.finishesCallback = true) →
          TimeoutEndsOwnLight start (before ++ callbacks) := by
  constructor
  · intro clear before after split callbacks finishing
    rw [split, StepMachine.eachStep_append] at clear
    apply endsOwnLight_of_clear start enabled
    rw [StepMachine.eachStep_append]
    exact ⟨clear.1, eachStep_of_finishing _ callbacks finishing⟩
  · intro ends
    rw [StepMachine.eachStep_iff_split]
    intro before action after split
    apply clear_of_endsOwnLight start enabled
    intro callbacks finishing
    exact ends (before ++ [action]) after (by rw [split]; simp) callbacks finishing

/-! ### A late callback -/

def brightScreen : ScreenStateMonitor := { isSubscribing := true, isOn := true }

def enabledTask : SensorIlluminationTask :=
  (new.registerDestructCallback.enableSensorIllumination 500 500 200 4294967295 grantedEnable).1

def singleLight : List TaskAction :=
  [.turnOnSensorIllumination brightScreen (drawnAt 4), .dispatch 1, .lockSelf 1,
    .onDisplayTimeOut 1]

theorem singleLight_ended_by_own_timeout : TimeoutEndsOwnLight enabledTask singleLight := by
  have clear : StepMachine.EachStep step NoCallbackWaiting enabledTask singleLight :=
    ⟨fun _ _ => rfl, trivial, trivial, trivial, trivial⟩
  exact (noCallbackWaiting_iff_timeoutEndsOwnLight enabledTask
    ⟨500, 500, 200, 4294967295, grantedEnable, rfl⟩ singleLight).mp clear singleLight [] rfl [] (by
      intro action member
      cases member)

/-- The first timer's callback is dispatched, the light goes off and on again, and
then the callback gets the lock. -/
theorem late_callback_ends_later_light :
    ¬TimeoutEndsOwnLight enabledTask
      [.turnOnSensorIllumination brightScreen (drawnAt 4), .dispatch 1, .lockSelf 1,
        .turnOffSensorIllumination, .turnOnSensorIllumination brightScreen (drawnAt 4),
        .onDisplayTimeOut 1] := by
  intro ends
  have same := ends
    [.turnOnSensorIllumination brightScreen (drawnAt 4), .dispatch 1, .lockSelf 1,
      .turnOffSensorIllumination]
    (.turnOnSensorIllumination brightScreen (drawnAt 4)) [] 1 [] rfl rfl rfl rfl
  exact absurd same (by decide)

end SensorIlluminationTask

end FingerprintAuth

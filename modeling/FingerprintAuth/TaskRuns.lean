/-
Runs of one enabled task against its own timer thread.

A display timeout is dispatched by the timer, locks its weak pointer, waits for the
task's lock inside `OnDisplayTimeOut`, and lets its reference go. Each of these is a
step of its own, and the calls of the task's owner fall anywhere between them.
-/

import FingerprintAuth.TaskEffects
import FingerprintAuth.Library.StepMachine

set_option autoImplicit false

namespace FingerprintAuth

inductive TaskAction where
  | turnOnSensorIllumination (monitor : ScreenStateMonitor) (answer : DrawAnswer)
  | turnOffSensorIllumination
  | disableSensorIllumination (monitor : ScreenStateMonitor)
  | dispatch (timerId : TimerId)
  | lockSelf (timerId : TimerId)
  | onDisplayTimeOut (timerId : TimerId)
  | dropSelf (timerId : TimerId)

def TaskAction.finishesCallback : TaskAction → Bool
  | .lockSelf _ => true
  | .onDisplayTimeOut _ => true
  | .dropSelf _ => true
  | _ => false

namespace SensorIlluminationTask

def dispatchTimer (task : SensorIlluminationTask) (timerId : TimerId) : SensorIlluminationTask :=
  { task with timer := task.timer.dispatch timerId .dispatched }

/-- `weak_self.lock()`. -/
def lockSelf (task : SensorIlluminationTask) (timerId : TimerId) : SensorIlluminationTask :=
  if task.timer.status timerId = .dispatched .dispatched then
    { task with timer := task.timer.advance timerId .holding }
  else task

def runDisplayTimeOut (task : SensorIlluminationTask) (timerId : TimerId) :
    SensorIlluminationTask :=
  if task.timer.status timerId = .dispatched .holding then
    let task := task.onDisplayTimeOut
    { task with timer := task.timer.advance timerId .returned }
  else task

theorem runDisplayTimeOut_of_not_holding (task : SensorIlluminationTask) (timerId : TimerId)
    (elsewhere : task.timer.status timerId ≠ .dispatched .holding) :
    task.runDisplayTimeOut timerId = task := if_neg elsewhere

/-- The callback returns and its copy of `self` goes out of scope. -/
def dropSelf (task : SensorIlluminationTask) (timerId : TimerId) : SensorIlluminationTask :=
  if task.timer.status timerId = .dispatched .returned then
    { task with timer := task.timer.retire timerId }
  else task

def step (task : SensorIlluminationTask) : TaskAction → SensorIlluminationTask
  | .turnOnSensorIllumination monitor answer => (task.turnOnSensorIllumination monitor answer).1
  | .turnOffSensorIllumination => task.turnOffSensorIllumination.1
  | .disableSensorIllumination monitor => (task.disableSensorIllumination monitor).1
  | .dispatch timerId => task.dispatchTimer timerId
  | .lockSelf timerId => task.lockSelf timerId
  | .onDisplayTimeOut timerId => task.runDisplayTimeOut timerId
  | .dropSelf timerId => task.dropSelf timerId

/-- The timer is registered, or it was dispatched and its callback has not run. -/
def Awaited (task : SensorIlluminationTask) (timerId : TimerId) : Prop :=
  task.timer.status timerId = .registered ∨
    (task.timer.status timerId).running CallbackProgress.beforeTimeOut = true

def hasHolder (task : SensorIlluminationTask) : Bool :=
  task.timer.anyRunning CallbackProgress.holdsReference

/-- What holds of a task at every moment of its life. The light is on exactly while
one node is attached, and then the current timer has yet to take it off. -/
structure Sound (task : SensorIlluminationTask) : Prop where
  lit : task.isIlluminationOn = true → ∃ node screen,
    task.rsSurfaceNode = some node ∧ task.defaultScreenId = some screen ∧
      task.attached = [(node, screen)]
  dark : task.isIlluminationOn = false → task.attached = []
  awaited : task.isIlluminationOn = true → task.Awaited task.currTimerId
  onlyCurrent : ∀ timerId, task.timer.status timerId = .registered → timerId = task.currTimerId
  known : task.currTimerId < task.timer.nextId
  director : task.rsSurfaceNode.isSome = true → task.rsUIDirector = true
  surface : task.rsSurfaceNode.isSome = true → task.rsSurface.isSome = true

theorem new_sound : new.Sound where
  lit := by intro on; cases on
  dark := by intro _; rfl
  awaited := by intro on; cases on
  onlyCurrent := by intro timerId registered; cases registered
  known := by decide
  director := by intro present; cases present
  surface := by intro present; cases present

theorem registerDestructCallback_sound : new.registerDestructCallback.Sound :=
  ⟨new_sound.lit, new_sound.dark, new_sound.awaited, new_sound.onlyCurrent, new_sound.known,
    new_sound.director, new_sound.surface⟩

/-! ### Every operation keeps a task sound -/

theorem DrawEffect.surface_isSome {task drawn : SensorIlluminationTask} {answer : DrawAnswer}
    {result : ResultCode} (effect : DrawEffect task answer drawn result)
    (present : task.rsSurface.isSome = true) : drawn.rsSurface.isSome = true := by
  cases effect with
  | refused reason => exact present
  | kept present valid same => exact present
  | failed alpha present valid different => exact present
  | completed alpha api present valid different painted found => rfl

theorem DrawEffect.sound {task drawn : SensorIlluminationTask} {answer : DrawAnswer}
    {result : ResultCode} (effect : DrawEffect task answer drawn result) (sound : task.Sound) :
    drawn.Sound := by
  have keeps : task.rsSurfaceNode.isSome = true → drawn.rsSurface.isSome = true :=
    fun present => effect.surface_isSome (sound.surface present)
  rw [effect.frame]
  exact ⟨sound.lit, sound.dark, sound.awaited, sound.onlyCurrent, sound.known, sound.director,
    keeps⟩

/-- After cancelling the current timer and registering a new one, the new one is the only
timer registered. -/
theorem registered_after_rearm (task : SensorIlluminationTask) (sound : task.Sound)
    (timerId : TimerId)
    (registered : (task.timer.unregister task.currTimerId).register.status timerId = .registered) :
    timerId = task.timer.nextId := by
  simp only [OneShotTimer.register_status, OneShotTimer.unregister_status] at registered
  split at registered
  · rename_i new
    exact new
  · split at registered
    · exact absurd registered (TimerStatus.cancel_ne_registered _)
    · rename_i other
      exact absurd (sound.onlyCurrent timerId registered) other

theorem turnOn_sound (task : SensorIlluminationTask) (monitor : ScreenStateMonitor)
    (answer : DrawAnswer) (sound : task.Sound) :
    (task.turnOnSensorIllumination monitor answer).1.Sound := by
  have effect := turnOnSensorIllumination_effect task monitor answer
  generalize (task.turnOnSensorIllumination monitor answer).1 = after at effect ⊢
  generalize (task.turnOnSensorIllumination monitor answer).2 = result at effect
  cases effect with
  | still result reason => exact sound
  | drawFailed drawn drawResult off failed draw => exact draw.sound sound
  | noScreen drawn off draw absent =>
      have drawnSound := draw.sound sound
      have sameOn : drawn.isIlluminationOn = false := by rw [draw.frame]; exact off
      exact
        { lit := by intro on; exact absurd on (by simp [sameOn])
          dark := drawnSound.dark
          awaited := by intro on; exact absurd on (by simp [sameOn])
          onlyCurrent := registered_after_rearm task sound
          known := Nat.lt_succ_self task.timer.nextId
          director := drawnSound.director
          surface := drawnSound.surface }
  | lit drawn node screen screenOn off draw nodePresent screenPresent =>
      have drawnSound := draw.sound sound
      have sameNode : drawn.rsSurfaceNode = some node := by rw [draw.frame]; exact nodePresent
      have sameScreen : drawn.defaultScreenId = some screen := by
        rw [draw.frame]
        exact screenPresent
      have alone : (node, screen) :: task.attached = [(node, screen)] := by
        rw [sound.dark off]
      exact
        { lit := fun _ => ⟨node, screen, sameNode, sameScreen, alone⟩
          dark := by intro impossible; cases impossible
          awaited := by
            intro _
            exact Or.inl (if_pos rfl)
          onlyCurrent := registered_after_rearm task sound
          known := Nat.lt_succ_self task.timer.nextId
          director := drawnSound.director
          surface := drawnSound.surface }

theorem registered_after_unregister (task : SensorIlluminationTask) (sound : task.Sound)
    (timerId : TimerId) :
    (task.timer.unregister task.currTimerId).status timerId ≠ .registered := by
  intro registered
  rw [OneShotTimer.unregister_status] at registered
  by_cases current : timerId = task.currTimerId
  · rw [if_pos current] at registered
    exact TimerStatus.cancel_ne_registered _ registered
  · rw [if_neg current] at registered
    exact current (sound.onlyCurrent timerId registered)

theorem turnOff_sound (task : SensorIlluminationTask) (sound : task.Sound) :
    task.turnOffSensorIllumination.1.Sound := by
  have effect := turnOffSensorIllumination_effect task
  generalize task.turnOffSensorIllumination.1 = after at effect ⊢
  generalize task.turnOffSensorIllumination.2 = result at effect
  cases effect with
  | still result reason => exact sound
  | noScreen on absent =>
      obtain ⟨node, screen, _, screenPresent, _⟩ := sound.lit on
      rw [absent] at screenPresent
      cases screenPresent
  | dark node screen on nodePresent screenPresent =>
      obtain ⟨litNode, litScreen, litNodePresent, litScreenPresent, attached⟩ := sound.lit on
      have sameNode : litNode = node := Option.some.inj (litNodePresent.symm.trans nodePresent)
      have sameScreen : litScreen = screen :=
        Option.some.inj (litScreenPresent.symm.trans screenPresent)
      subst sameNode
      subst sameScreen
      exact
        { lit := by intro on; cases on
          dark := by
            intro _
            simp [attached]
          awaited := by intro on; cases on
          onlyCurrent := fun timerId registered =>
            absurd registered (registered_after_unregister task sound timerId)
          known := sound.known
          director := sound.director
          surface := sound.surface }

theorem turnOff_isIlluminationOn (task : SensorIlluminationTask) (sound : task.Sound) :
    task.turnOffSensorIllumination.1.isIlluminationOn = false := by
  have effect := turnOffSensorIllumination_effect task
  generalize task.turnOffSensorIllumination.1 = after at effect ⊢
  generalize task.turnOffSensorIllumination.2 = result at effect
  cases effect with
  | still result reason =>
      rcases reason with ⟨noNode, _⟩ | ⟨off, _⟩
      · cases on : task.isIlluminationOn with
        | false => rfl
        | true =>
            obtain ⟨node, screen, nodePresent, _, _⟩ := sound.lit on
            rw [noNode] at nodePresent
            cases nodePresent
      · exact off
  | noScreen on absent =>
      obtain ⟨node, screen, _, screenPresent, _⟩ := sound.lit on
      rw [absent] at screenPresent
      cases screenPresent
  | dark node screen on nodePresent screenPresent => rfl

theorem runDisplayTimeOut_dark (task : SensorIlluminationTask) (timerId : TimerId)
    (sound : task.Sound) (holding : task.timer.status timerId = .dispatched .holding) :
    (task.runDisplayTimeOut timerId).isIlluminationOn = false := by
  unfold runDisplayTimeOut
  rw [if_pos holding]
  exact turnOff_isIlluminationOn task sound

theorem disable_sound (task : SensorIlluminationTask) (monitor : ScreenStateMonitor)
    (sound : task.Sound) : (task.disableSensorIllumination monitor).1.Sound := by
  have offSound := turnOff_sound task sound
  have off := turnOff_isIlluminationOn task sound
  exact
    { lit := by
        intro on
        exact absurd on (by simp [disableSensorIllumination, off])
      dark := offSound.dark
      awaited := by
        intro on
        exact absurd on (by simp [disableSensorIllumination, off])
      onlyCurrent := offSound.onlyCurrent
      known := offSound.known
      director := by intro present; cases present
      surface := by intro present; cases present }

/-- A change of the timer alone keeps a task sound if it registers nothing and lets
the current timer go only when the light is off. -/
theorem sound_of_timer (task : SensorIlluminationTask) (timer : OneShotTimer CallbackProgress)
    (sound : task.Sound) (sameNext : timer.nextId = task.timer.nextId)
    (registers : ∀ timerId, timer.status timerId = .registered →
      task.timer.status timerId = .registered)
    (awaits : task.isIlluminationOn = true → task.Awaited task.currTimerId →
      ({ task with timer := timer } : SensorIlluminationTask).Awaited task.currTimerId) :
    ({ task with timer := timer } : SensorIlluminationTask).Sound where
  lit := sound.lit
  dark := sound.dark
  awaited := fun on => awaits on (sound.awaited on)
  onlyCurrent := fun timerId registered => sound.onlyCurrent timerId (registers timerId registered)
  known := by
    change task.currTimerId < timer.nextId
    rw [sameNext]
    exact sound.known
  director := sound.director
  surface := sound.surface

theorem dispatchTimer_sound (task : SensorIlluminationTask) (timerId : TimerId)
    (sound : task.Sound) : (task.dispatchTimer timerId).Sound := by
  refine sound_of_timer task (task.timer.dispatch timerId .dispatched) sound rfl ?_ ?_
  · intro other registered
    simp only [OneShotTimer.dispatch_status] at registered
    split at registered
    · cases before : task.timer.status other with
      | registered => rfl
      | idle => rw [before] at registered; cases registered
      | dispatched progress => rw [before] at registered; cases registered
    · exact registered
  · intro _ awaited
    simp only [Awaited, OneShotTimer.dispatch_status] at awaited ⊢
    split
    · rcases awaited with registered | running
      · rw [registered]
        exact Or.inr rfl
      · cases before : task.timer.status task.currTimerId with
        | idle => rw [before] at running; cases running
        | registered => exact Or.inr rfl
        | dispatched progress => rw [before] at running; exact Or.inr running
    · exact awaited

theorem lockSelf_sound (task : SensorIlluminationTask) (timerId : TimerId) (sound : task.Sound) :
    (task.lockSelf timerId).Sound := by
  unfold lockSelf
  split
  · rename_i dispatched
    refine sound_of_timer task (task.timer.advance timerId .holding) sound rfl ?_ ?_
    · intro other registered
      exact task.timer.registered_of_advance registered
    · intro _ awaited
      simp only [Awaited, OneShotTimer.advance_status] at awaited ⊢
      split
      · rename_i same
        rw [same, dispatched]
        exact Or.inr rfl
      · exact awaited
  · exact sound

theorem runDisplayTimeOut_sound (task : SensorIlluminationTask) (timerId : TimerId)
    (sound : task.Sound) : (task.runDisplayTimeOut timerId).Sound := by
  unfold runDisplayTimeOut
  split
  · have offSound := turnOff_sound task sound
    have off := turnOff_isIlluminationOn task sound
    refine sound_of_timer task.onDisplayTimeOut
      (task.onDisplayTimeOut.timer.advance timerId .returned) offSound rfl ?_ ?_
    · intro other registered
      exact task.onDisplayTimeOut.timer.registered_of_advance registered
    · intro on
      exact absurd on (by simp [onDisplayTimeOut, off])
  · exact sound

theorem dropSelf_sound (task : SensorIlluminationTask) (timerId : TimerId) (sound : task.Sound) :
    (task.dropSelf timerId).Sound := by
  unfold dropSelf
  split
  · rename_i returned
    refine sound_of_timer task (task.timer.retire timerId) sound rfl ?_ ?_
    · intro other registered
      exact task.timer.registered_of_retire registered
    · intro _ awaited
      simp only [Awaited, OneShotTimer.retire_status] at awaited ⊢
      split
      · rename_i same
        rw [same, returned] at awaited
        rcases awaited with registered | running
        · cases registered
        · cases running
      · exact awaited
  · exact sound

theorem step_sound (task : SensorIlluminationTask) (action : TaskAction) (sound : task.Sound) :
    (task.step action).Sound := by
  cases action with
  | turnOnSensorIllumination monitor answer => exact turnOn_sound task monitor answer sound
  | turnOffSensorIllumination => exact turnOff_sound task sound
  | disableSensorIllumination monitor => exact disable_sound task monitor sound
  | dispatch timerId => exact dispatchTimer_sound task timerId sound
  | lockSelf timerId => exact lockSelf_sound task timerId sound
  | onDisplayTimeOut timerId => exact runDisplayTimeOut_sound task timerId sound
  | dropSelf timerId => exact dropSelf_sound task timerId sound

/-- No step replaces the timer of a light that it leaves on: a further `TurnOn`
neither cancels it nor registers another. -/
theorem step_keeps_timer (task : SensorIlluminationTask) (action : TaskAction)
    (sound : task.Sound) (on : task.isIlluminationOn = true)
    (stays : (task.step action).isIlluminationOn = true) :
    (task.step action).currTimerId = task.currTimerId ∧
      (task.step action).timer.nextId = task.timer.nextId := by
  cases action with
  | turnOnSensorIllumination monitor answer =>
      have effect := turnOnSensorIllumination_effect task monitor answer
      simp only [step]
      generalize (task.turnOnSensorIllumination monitor answer).1 = after at effect ⊢
      generalize (task.turnOnSensorIllumination monitor answer).2 = result at effect
      cases effect with
      | still result reason => exact ⟨rfl, rfl⟩
      | drawFailed drawn drawResult off failed draw => rw [on] at off; cases off
      | noScreen drawn off draw absent => rw [on] at off; cases off
      | lit drawn node screen screenOn off draw nodePresent screenPresent =>
          rw [on] at off
          cases off
  | turnOffSensorIllumination =>
      have dark := turnOff_isIlluminationOn task sound
      simp only [step] at stays
      rw [dark] at stays
      cases stays
  | disableSensorIllumination monitor =>
      have dark := turnOff_isIlluminationOn task sound
      simp only [step, disableSensorIllumination] at stays
      rw [dark] at stays
      cases stays
  | dispatch timerId => exact ⟨rfl, rfl⟩
  | lockSelf timerId =>
      simp only [step, lockSelf]
      split <;> exact ⟨rfl, rfl⟩
  | onDisplayTimeOut timerId =>
      by_cases holding : task.timer.status timerId = .dispatched .holding
      · have dark := runDisplayTimeOut_dark task timerId sound holding
        simp only [step] at stays
        rw [dark] at stays
        cases stays
      · simp only [step]
        rw [runDisplayTimeOut_of_not_holding task timerId holding]
        exact ⟨rfl, rfl⟩
  | dropSelf timerId =>
      simp only [step, dropSelf]
      split <;> exact ⟨rfl, rfl⟩

/-- Only switching on puts the light on, and the timer it registers is the current one from
then on. -/
theorem step_lights (task : SensorIlluminationTask) (action : TaskAction) (sound : task.Sound)
    (off : task.isIlluminationOn = false) (on : (task.step action).isIlluminationOn = true) :
    (∃ monitor answer, action = .turnOnSensorIllumination monitor answer) ∧
      (task.step action).currTimerId = task.timer.nextId ∧
      (task.step action).timer.nextId = task.timer.nextId + 1 := by
  cases action with
  | turnOnSensorIllumination monitor answer =>
      refine ⟨⟨monitor, answer, rfl⟩, ?_⟩
      have effect := turnOnSensorIllumination_effect task monitor answer
      simp only [step] at on ⊢
      generalize (task.turnOnSensorIllumination monitor answer).1 = after at effect on ⊢
      generalize (task.turnOnSensorIllumination monitor answer).2 = result at effect
      cases effect with
      | still result reason => rw [off] at on; cases on
      | drawFailed drawn drawResult _ failed draw =>
          rw [draw.frame] at on
          exact absurd on (by simp [off])
      | noScreen drawn _ draw absent =>
          have drawnOff : drawn.isIlluminationOn = false := by rw [draw.frame]; exact off
          exact absurd on (by simp [drawnOff])
      | lit drawn node screen screenOn _ draw nodePresent screenPresent => exact ⟨rfl, rfl⟩
  | turnOffSensorIllumination =>
      rw [step, turnOff_isIlluminationOn task sound] at on
      cases on
  | disableSensorIllumination monitor =>
      have dark := turnOff_isIlluminationOn task sound
      simp only [step, disableSensorIllumination] at on
      rw [dark] at on
      cases on
  | dispatch timerId =>
      exact absurd on (by simp [step, dispatchTimer, off])
  | lockSelf timerId =>
      simp only [step, lockSelf] at on
      split at on <;> exact absurd on (by simp [off])
  | onDisplayTimeOut timerId =>
      by_cases holding : task.timer.status timerId = .dispatched .holding
      · rw [step, runDisplayTimeOut_dark task timerId sound holding] at on
        cases on
      · rw [step, runDisplayTimeOut_of_not_holding task timerId holding, off] at on
        cases on
  | dropSelf timerId =>
      simp only [step, dropSelf] at on
      split at on <;> exact absurd on (by simp [off])

theorem enable_sound (task : SensorIlluminationTask) (centerX centerY radius color : UInt32)
    (answer : EnableAnswer) (sound : task.Sound) (off : task.isIlluminationOn = false)
    (bare : task.rsSurfaceNode = none) :
    (task.enableSensorIllumination centerX centerY radius color answer).1.Sound ∧
      (task.enableSensorIllumination centerX centerY radius color answer).1.isIlluminationOn =
        false := by
  have effect := enableSensorIllumination_effect task centerX centerY radius color answer
  generalize (task.enableSensorIllumination centerX centerY radius color answer).1 = after
    at effect ⊢
  generalize (task.enableSensorIllumination centerX centerY radius color answer).2 = result
    at effect
  cases effect with
  | refused createdNodes =>
      refine ⟨?_, off⟩
      exact
        { lit := by intro on; exact absurd on (by simp [off])
          dark := sound.dark
          awaited := sound.awaited
          onlyCurrent := sound.onlyCurrent
          known := sound.known
          director := by intro present; simp [bare] at present
          surface := sound.surface }
  | drawn display centerXInPx centerYInPx prepared final drawResult director shown convertedX
      convertedY preparedAs draw =>
      have preparedOff : prepared.isIlluminationOn = false := by rw [preparedAs]; exact off
      have preparedSound : prepared.Sound := by
        rw [preparedAs]
        exact
          { lit := by intro on; exact absurd on (by simp [off])
            dark := sound.dark
            awaited := by intro on; exact absurd on (by simp [off])
            onlyCurrent := sound.onlyCurrent
            known := sound.known
            director := fun _ => director
            surface := fun _ => rfl }
      refine ⟨draw.sound preparedSound, ?_⟩
      rw [draw.frame]
      exact preparedOff

/-! ### Answers that stop nothing -/

def drawnAt (brightness : UInt32) : DrawAnswer :=
  { brightness := brightness
    undefinedConversion := 0
    surfaceFrame := true
    skSurface := true
    canvas := some .skia }

def grantedEnable : EnableAnswer :=
  { defaultScreenId := some 0
    rsUIDirector := true
    rsSurfaceNode := true
    defaultDisplay := some { width := 1000, height := 2000 }
    rsSurface := true
    renderContext := true
    draw := drawnAt 4 }

end SensorIlluminationTask

end FingerprintAuth

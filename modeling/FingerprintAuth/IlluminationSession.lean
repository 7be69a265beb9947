/-
The illumination service as its users know it.

There is one session at a time, with what its owner needs of it, beside the record of
the screen and the extension library. Task objects, references to them and timers do
not occur: a timeout just happens, and so does the end of a task that nobody has any
more. The manager is judged against this account.
-/

import FingerprintAuth.SensorIlluminationManager
import FingerprintAuth.TaskEffects
import FingerprintAuth.Library.ExclusiveLease
import FingerprintAuth.Library.StepMachine

set_option autoImplicit false

universe u

namespace FingerprintAuth

structure IlluminationSession (E : Type u) where
  executor : E
  /-- There was a default screen when the session was opened. -/
  hasScreen : Bool
  /-- The brightness that a frame was asked for last. -/
  brightness : UInt32
  lit : Bool

structure IlluminationService (E : Type u) where
  session : Option (IlluminationSession E)
  monitor : ScreenStateMonitor
  serviceEx : ServiceExManager

inductive IlluminationAction (E : Type u) where
  | command (executor : E) (command : SaCommand) (environment : Environment)
  | disconnect (executor : E)
  | screen (isOn : Bool)
  | timeout
  /-- A task that outlived its session is destroyed. -/
  | leftover

namespace IlluminationSession

variable {E : Type u}

def draws (session : IlluminationSession E) (answer : DrawAnswer) : Bool :=
  answer.brightness != invalidBrightness &&
    (answer.brightness == session.brightness ||
      ((getBackgroundAlpha answer.undefinedConversion answer.brightness.toInt32).isSome &&
        answer.surfaceFrame && answer.skSurface && answer.canvas.isSome))

/-- The brightness counts as asked for even if no frame comes of it. -/
def ask (session : IlluminationSession E) (answer : DrawAnswer) : IlluminationSession E :=
  if answer.brightness = invalidBrightness then session
  else { session with brightness := answer.brightness }

def turnOn (session : IlluminationSession E) (screenOn : Bool) (answer : DrawAnswer) :
    IlluminationSession E × ResultCode :=
  if screenOn = false ∨ session.lit = true then (session, .success)
  else if session.draws answer = true ∧ session.hasScreen = true then
    ({ session.ask answer with lit := true }, .success)
  else (session.ask answer, .generalError)

def turnOff (session : IlluminationSession E) : IlluminationSession E :=
  { session with lit := false }

end IlluminationSession

namespace IlluminationService

variable {E : Type u}

def new : IlluminationService E :=
  { session := none
    monitor := {}
    serviceEx := {} }

def owner (service : IlluminationService E) : Option E :=
  service.session.map IlluminationSession.executor

/-- The executor whose light is on. -/
def litBy (service : IlluminationService E) : Option E :=
  (service.session.filter IlluminationSession.lit).map IlluminationSession.executor

def accepts (param : EnableSensorIlluminationParam) (answer : EnableAnswer) : Bool :=
  decide (param.centerX < maxXYValue) && decide (param.centerY < maxXYValue) &&
    decide (param.radius < maxRadiusLen) &&
    SensorIlluminationTask.enableSucceeds param.centerX param.centerY answer

/-- A refused task takes its subscription with it, and a constructor that throws leaves
it behind. -/
def enable (service : IlluminationService E) (executor : E)
    (param : EnableSensorIlluminationParam) (environment : Environment) :
    IlluminationService E × ResultCode :=
  if service.session.isSome then (service, .generalError)
  else
    let service := { service with serviceEx := (service.serviceEx.acquire environment.dlopen).1 }
    if service.serviceEx.isOpened = false then (service, .generalError)
    else
      let subscribed := service.monitor.subscribe environment.subscribe
      match environment.factory with
      | .noSymbol => (service, .generalError)
      | .outOfMemory => (service, .generalError)
      | .setupThrows => ({ service with monitor := subscribed }, .generalError)
      | .made =>
          if accepts param environment.enable then
            ({ service with
                monitor := subscribed
                session := some
                  { executor := executor
                    hasScreen := environment.enable.defaultScreenId.isSome
                    brightness := environment.enable.draw.brightness
                    lit := false } }, .success)
          else ({ service with monitor := subscribed.unsubscribe }, .generalError)

def endSession (service : IlluminationService E) : IlluminationService E :=
  { service with
    session := none
    monitor := service.monitor.unsubscribe }

section Commands

variable [DecidableEq E]

def forOwner (service : IlluminationService E) (executor : E)
    (operation : IlluminationSession E → IlluminationService E × ResultCode) :
    IlluminationService E × ResultCode :=
  match service.session with
  | none => (service, .generalError)
  | some session =>
      if session.executor = executor then operation session else (service, .generalError)

def process (service : IlluminationService E) (executor : E) (command : SaCommand)
    (environment : Environment) : IlluminationService E × ResultCode :=
  match command.id with
  | .enableSensorIllumination =>
      service.enable executor command.param.enableSensorIllumination environment
  | .disableSensorIllumination =>
      service.forOwner executor (fun _ => (service.endSession, .success))
  | .turnOnSensorIllumination =>
      service.forOwner executor (fun session =>
        let (session, result) := session.turnOn service.monitor.getScreenOn environment.draw
        ({ service with session := some session }, result))
  | .turnOffSensorIllumination =>
      service.forOwner executor (fun session =>
        ({ service with session := some session.turnOff }, .success))
  | .other _ => (service, .generalError)

def step (service : IlluminationService E) : IlluminationAction E → IlluminationService E
  | .command executor command environment => (service.process executor command environment).1
  | .disconnect executor =>
      (service.forOwner executor (fun _ => (service.endSession, .success))).1
  | .screen isOn => { service with monitor := service.monitor.setScreenOn isOn }
  | .timeout => { service with session := service.session.map IlluminationSession.turnOff }
  | .leftover => { service with monitor := service.monitor.unsubscribe }

end Commands

/-! ### Who wants the light -/

section Mandate

open ExclusiveLease (LeaseEvent)

variable [DecidableEq E]

/-- What an action says about the light: a `TURN_ON` that is answered with success while
the screen is on asks for it. -/
def mandate (service : IlluminationService E) : IlluminationAction E → LeaseEvent E
  | .command executor command environment =>
      match command.id with
      | .turnOnSensorIllumination =>
          if (service.process executor command environment).2 = .success ∧
              service.monitor.getScreenOn = true then .grant executor
          else .other
      | .turnOffSensorIllumination => .giveBack executor
      | .disableSensorIllumination => .giveBack executor
      | _ => .other
  | .disconnect executor => .giveBack executor
  | .timeout =>
      match service.owner with
      | some executor => .giveBack executor
      | none => .other
  | _ => .other

omit [DecidableEq E] in
theorem litBy_vacant {service : IlluminationService E} (vacant : service.session = none) :
    service.litBy = none := by
  rw [litBy, vacant]
  rfl

omit [DecidableEq E] in
theorem litBy_session {service : IlluminationService E} {session : IlluminationSession E}
    (running : service.session = some session) :
    service.litBy = if session.lit then some session.executor else none := by
  rw [litBy, running]
  cases lit : session.lit with
  | false => simp [lit]
  | true => simp [lit]

private theorem giveBack_litBy {service : IlluminationService E}
    {session : IlluminationSession E} (running : service.session = some session) (executor : E) :
    ExclusiveLease.next service.litBy (.giveBack executor) =
      if session.executor = executor then none else service.litBy := by
  rw [ExclusiveLease.next, litBy_session running]
  cases session.lit with
  | false => simp
  | true => simp

/-- Whoever is not the owner changes nothing, and nothing about the light. -/
private theorem forOwner_giveBack (service : IlluminationService E) (executor : E)
    (operation : IlluminationSession E → IlluminationService E × ResultCode)
    (dark : ∀ session, service.session = some session → (operation session).1.litBy = none) :
    (service.forOwner executor operation).1.litBy =
      ExclusiveLease.next service.litBy (.giveBack executor) := by
  unfold forOwner
  cases running : service.session with
  | none =>
      rw [litBy_vacant running]
      rfl
  | some session =>
      rw [giveBack_litBy running]
      by_cases owns : session.executor = executor
      · simp only [if_pos owns]
        exact dark session running
      · simp only [if_neg owns]

omit [DecidableEq E] in
private theorem enable_litBy (service : IlluminationService E) (executor : E)
    (param : EnableSensorIlluminationParam) (environment : Environment) :
    (service.enable executor param environment).1.litBy = service.litBy := by
  unfold enable
  cases running : service.session with
  | some session => rfl
  | none =>
      have vacant := litBy_vacant running
      simp only [Option.isSome_none, Bool.false_eq_true, if_false]
      split
      · exact vacant.symm
      · cases environment.factory with
        | noSymbol => exact vacant.symm
        | outOfMemory => exact vacant.symm
        | setupThrows => exact vacant.symm
        | made =>
            simp only
            split
            · exact vacant.symm
            · exact vacant.symm

private theorem turnOn_litBy (service : IlluminationService E) (executor : E)
    (command : SaCommand) (environment : Environment)
    (named : command.id = .turnOnSensorIllumination) :
    (service.process executor command environment).1.litBy =
      if (service.process executor command environment).2 = .success ∧
          service.monitor.getScreenOn = true then some executor
      else service.litBy := by
  simp only [process, named, forOwner]
  cases running : service.session with
  | none => simp
  | some session =>
      by_cases owns : session.executor = executor
      · simp only [if_pos owns, litBy_session running]
        by_cases still : service.monitor.getScreenOn = false ∨ session.lit = true
        · rcases still with screenOff | on
          · simp [IlluminationSession.turnOn, screenOff, litBy_session]
          · simp [IlluminationSession.turnOn, on, litBy, owns]
        · obtain ⟨screenOn, off⟩ := not_or.mp still
          rw [Bool.not_eq_false] at screenOn
          rw [Bool.not_eq_true] at off
          have asked : (session.ask environment.draw).executor = session.executor ∧
              (session.ask environment.draw).lit = session.lit := by
            unfold IlluminationSession.ask
            split <;> exact ⟨rfl, rfl⟩
          by_cases shown : session.draws environment.draw = true ∧ session.hasScreen = true
          · simp [IlluminationSession.turnOn, screenOn, off, shown, litBy, asked, owns]
          · simp [IlluminationSession.turnOn, screenOn, off, shown, litBy, asked]
      · simp [if_neg owns]

theorem step_litBy (service : IlluminationService E) (action : IlluminationAction E) :
    (service.step action).litBy = ExclusiveLease.next service.litBy (service.mandate action) := by
  cases action with
  | command executor command environment =>
      simp only [step, mandate]
      cases named : command.id with
      | enableSensorIllumination =>
          simp only [process, named]
          exact enable_litBy service executor _ environment
      | disableSensorIllumination =>
          simp only [process, named]
          exact forOwner_giveBack service executor _ (fun _ _ => rfl)
      | turnOnSensorIllumination =>
          simp only
          rw [turnOn_litBy service executor command environment named]
          split <;> rfl
      | turnOffSensorIllumination =>
          simp only [process, named]
          exact forOwner_giveBack service executor _ (fun _ _ => rfl)
      | other id =>
          simp only [process, named]
          rfl
  | disconnect executor => exact forOwner_giveBack service executor _ (fun _ _ => rfl)
  | screen isOn => rfl
  | timeout =>
      simp only [step, mandate, owner]
      cases running : service.session with
      | none =>
          rw [litBy_vacant running]
          rfl
      | some session =>
          simp only [Option.map_some]
          rw [giveBack_litBy running, if_pos rfl]
          rfl
  | leftover => rfl

end Mandate

end IlluminationService

end FingerprintAuth

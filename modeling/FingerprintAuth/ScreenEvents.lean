/-
The screen, the common events about it, and the monitor's calls cut where the event
service answers.

`Subscribe` and `Unsubscribe` hold the monitor's lock from their first step to their
last. An event is published to the subscription, handed to `OnReceiveEvent`, and then
waits there for the lock, whatever becomes of the subscription meanwhile. Events that
are handed over may take the lock in any order.
-/

import FingerprintAuth.ScreenStateMonitor
import FingerprintAuth.Library.InFlight
import FingerprintAuth.Library.StepMachine

set_option autoImplicit false

namespace FingerprintAuth

inductive MonitorCall where
  | subscribeUnsubscribing
  | subscribeSubscribing
  | subscribeReading
  | unsubscribeUnsubscribing
deriving DecidableEq, Repr

/-- A change of the screen that is published. The source does not number its events. -/
structure ScreenEvent where
  number : Nat
  isOn : Bool
deriving DecidableEq, Repr

structure ScreenService where
  screenOn : Bool
  monitor : ScreenStateMonitor
  /-- Whether the static subscriber could be made. -/
  hasInstance : Bool
  hasCallback : Bool
  subscribed : Bool
  nextEvent : Nat
  /-- Published events that are not yet handed to `OnReceiveEvent`, oldest first. -/
  published : List ScreenEvent
  /-- Events that wait for the lock in `OnReceiveEvent`, in the order of their arrival. -/
  received : List ScreenEvent
  call : Option MonitorCall
deriving DecidableEq, Repr

inductive ScreenAction where
  | changeScreen (isOn : Bool)
  | onReceiveEvent
  | setScreenOn (event : Nat)
  | subscribe
  | unsubscribe
  | unSubscribeCommonEventReturns (ok : Bool)
  | subscribeCommonEventReturns (ok : Bool)
  | isScreenOnReturns
deriving DecidableEq, Repr

namespace ScreenService

def new (screenOn hasInstance : Bool) : ScreenService :=
  { screenOn := screenOn
    monitor := {}
    hasInstance := hasInstance
    hasCallback := false
    subscribed := false
    nextEvent := 0
    published := []
    received := []
    call := none }

def changeScreen (service : ScreenService) (isOn : Bool) : ScreenService :=
  let service := { service with screenOn := isOn }
  if service.subscribed then
    { service with
      nextEvent := service.nextEvent + 1
      published := service.published ++ [{ number := service.nextEvent, isOn := isOn }] }
  else service

/-- The event reaches the lock only through the instance and its callback. -/
def onReceiveEvent (service : ScreenService) : ScreenService :=
  match service.published with
  | [] => service
  | event :: rest =>
      { service with
        published := rest
        received :=
          if service.hasInstance && service.hasCallback then service.received ++ [event]
          else service.received }

def setScreenOn (service : ScreenService) (event : Nat) : ScreenService :=
  match service.call, service.received[event]? with
  | none, some taken =>
      { service with
        monitor := service.monitor.setScreenOn taken.isOn
        received := service.received.eraseIdx event }
  | _, _ => service

def subscribe (service : ScreenService) : ScreenService :=
  match service.call with
  | some _ => service
  | none =>
      if service.monitor.isSubscribing then service
      else if ¬service.hasInstance then service
      else
        { service with
          hasCallback := true
          call := some .subscribeUnsubscribing }

def unsubscribe (service : ScreenService) : ScreenService :=
  match service.call with
  | some _ => service
  | none => { service with call := some .unsubscribeUnsubscribing }

/-- A subscription that ends takes the events with it that are not handed over. -/
def endSubscription (service : ScreenService) (ok : Bool) : ScreenService :=
  if ok then
    { service with
      subscribed := false
      published := [] }
  else service

/-- The failure of the call is only logged. -/
def unSubscribeCommonEventReturns (service : ScreenService) (ok : Bool) : ScreenService :=
  match service.call with
  | some .subscribeUnsubscribing =>
      { service.endSubscription ok with call := some .subscribeSubscribing }
  | some .unsubscribeUnsubscribing =>
      { service.endSubscription ok with
        monitor := service.monitor.unsubscribe
        call := none }
  | _ => service

def subscribeCommonEventReturns (service : ScreenService) (ok : Bool) : ScreenService :=
  match service.call with
  | some .subscribeSubscribing =>
      if ok then
        { service with
          subscribed := true
          monitor := { service.monitor with isSubscribing := true }
          call := some .subscribeReading }
      else { service with call := none }
  | _ => service

def isScreenOnReturns (service : ScreenService) : ScreenService :=
  match service.call with
  | some .subscribeReading =>
      { service with
        monitor := { service.monitor with isOn := service.screenOn }
        call := none }
  | _ => service

def step (service : ScreenService) : ScreenAction → ScreenService
  | .changeScreen isOn => service.changeScreen isOn
  | .onReceiveEvent => service.onReceiveEvent
  | .setScreenOn event => service.setScreenOn event
  | .subscribe => service.subscribe
  | .unsubscribe => service.unsubscribe
  | .unSubscribeCommonEventReturns ok => service.unSubscribeCommonEventReturns ok
  | .subscribeCommonEventReturns ok => service.subscribeCommonEventReturns ok
  | .isScreenOnReturns => service.isScreenOnReturns

theorem changeScreen_monitor (service : ScreenService) (isOn : Bool) :
    (service.changeScreen isOn).monitor = service.monitor := by
  simp only [changeScreen]
  split <;> rfl

/-! ### Uninterrupted calls -/

/-- Without other steps in between the parts of `Subscribe` are the call as a whole. -/
theorem run_subscribe (service : ScreenService) (free : service.call = none)
    (made : service.hasInstance = true) (unsubscribeOk subscribeOk : Bool) :
    (StepMachine.run step service
        [.subscribe, .unSubscribeCommonEventReturns unsubscribeOk,
          .subscribeCommonEventReturns subscribeOk, .isScreenOnReturns]).monitor =
      service.monitor.subscribe ⟨subscribeOk, some service.screenOn⟩ := by
  cases already : service.monitor.isSubscribing with
  | true =>
      simp [step, subscribe, unSubscribeCommonEventReturns, subscribeCommonEventReturns,
        isScreenOnReturns, ScreenStateMonitor.subscribe, free, already]
  | false =>
      cases unsubscribeOk <;> cases subscribeOk <;>
        simp [step, subscribe, unSubscribeCommonEventReturns, subscribeCommonEventReturns,
          isScreenOnReturns, endSubscription, ScreenStateMonitor.subscribe, free, already, made]

theorem run_unsubscribe (service : ScreenService) (free : service.call = none) (ok : Bool) :
    (StepMachine.run step service
        [.unsubscribe, .unSubscribeCommonEventReturns ok]).monitor =
      service.monitor.unsubscribe := by
  simp [step, unsubscribe, unSubscribeCommonEventReturns, free]

end ScreenService

end FingerprintAuth

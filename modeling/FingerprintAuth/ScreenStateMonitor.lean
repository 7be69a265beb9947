/-
The process-wide record of whether the screen is on, kept current by common events
while it is subscribed to them.
-/

set_option autoImplicit false

namespace FingerprintAuth

structure ScreenStateMonitor where
  isSubscribing : Bool := false
  isOn : Bool := false
deriving DecidableEq, Repr

/-- What the system answers while `subscribe` runs. `isScreenOn` is `none` in a
build without the power manager, where the monitor makes no initial reading. -/
structure SubscribeAnswer where
  subscribed : Bool
  isScreenOn : Option Bool
deriving DecidableEq, Repr

namespace ScreenStateMonitor

def subscribe (monitor : ScreenStateMonitor) (answer : SubscribeAnswer) : ScreenStateMonitor :=
  if monitor.isSubscribing then monitor
  else if answer.subscribed then
    { isSubscribing := true
      isOn := answer.isScreenOn.getD monitor.isOn }
  else monitor

/-- A failing unsubscribe call is only logged. -/
def unsubscribe (monitor : ScreenStateMonitor) : ScreenStateMonitor :=
  { monitor with isSubscribing := false }

def setScreenOn (monitor : ScreenStateMonitor) (isOn : Bool) : ScreenStateMonitor :=
  { monitor with isOn := isOn }

def getScreenOn (monitor : ScreenStateMonitor) : Bool := monitor.isOn

@[simp]
theorem unsubscribe_isSubscribing (monitor : ScreenStateMonitor) :
    monitor.unsubscribe.isSubscribing = false := rfl

@[simp]
theorem unsubscribe_unsubscribe (monitor : ScreenStateMonitor) :
    monitor.unsubscribe.unsubscribe = monitor.unsubscribe := rfl

theorem subscribe_isSubscribing (monitor : ScreenStateMonitor) (answer : SubscribeAnswer)
    (succeeds : answer.subscribed = true) : (monitor.subscribe answer).isSubscribing = true := by
  unfold subscribe
  cases already : monitor.isSubscribing with
  | true =>
      rw [if_pos rfl]
      exact already
  | false => simp [succeeds]

end ScreenStateMonitor

end FingerprintAuth

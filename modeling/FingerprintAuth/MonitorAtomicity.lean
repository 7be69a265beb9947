/-
The monitor's calls are atomic, and no event is lost or comes twice.

A call holds the monitor's lock while it waits for the event service and the power
manager, and events and changes of the screen fall in between. Each call counts as made
where it lets go of the lock, with the answers it has got by then; that is how the rest
of the service uses the monitor. `Subscribe` marks the monitor before it asks for the
screen, which nobody can see who has to wait for the lock. A change of the screen during a
subscription lands once, or goes down with the subscription, or is still on its way.
-/

import FingerprintAuth.ScreenMirror
import FingerprintAuth.Library.CommitPoint
import Mathlib.Data.List.Induction
import Mathlib.Data.List.Perm.Basic

set_option autoImplicit false

namespace FingerprintAuth

inductive MonitorRequest where
  | subscribe
  | unsubscribe
  | setScreenOn (isOn : Bool)
deriving DecidableEq, Repr

inductive MonitorOperation where
  | subscribe (answer : SubscribeAnswer)
  | unsubscribe
  | setScreenOn (isOn : Bool)
deriving DecidableEq, Repr

def MonitorOperation.request : MonitorOperation → MonitorRequest
  | .subscribe _ => .subscribe
  | .unsubscribe => .unsubscribe
  | .setScreenOn isOn => .setScreenOn isOn

def MonitorOperation.landed : MonitorOperation → Option Bool
  | .setScreenOn isOn => some isOn
  | _ => none

def ScreenStateMonitor.perform (monitor : ScreenStateMonitor) :
    MonitorOperation → ScreenStateMonitor
  | .subscribe answer => monitor.subscribe answer
  | .unsubscribe => monitor.unsubscribe
  | .setScreenOn isOn => monitor.setScreenOn isOn

namespace ScreenService

/-- A `Subscribe` that ends without a subscription, or that finds one. -/
def notSubscribed : MonitorOperation := .subscribe ⟨false, none⟩

/-! ### What a step is about -/

def begun (service : ScreenService) : ScreenAction → List MonitorRequest
  | .setScreenOn event =>
      match service.call, service.received[event]? with
      | none, some taken => [.setScreenOn taken.isOn]
      | _, _ => []
  | .subscribe => if service.call = none then [.subscribe] else []
  | .unsubscribe => if service.call = none then [.unsubscribe] else []
  | _ => []

def operations (service : ScreenService) : ScreenAction → List MonitorOperation
  | .setScreenOn event =>
      match service.call, service.received[event]? with
      | none, some taken => [.setScreenOn taken.isOn]
      | _, _ => []
  | .subscribe =>
      if service.call = none ∧ (service.monitor.isSubscribing = true ∨ service.hasInstance = false)
      then [notSubscribed]
      else []
  | .unSubscribeCommonEventReturns _ =>
      if service.call = some .unsubscribeUnsubscribing then [.unsubscribe] else []
  | .subscribeCommonEventReturns ok =>
      if service.call = some .subscribeSubscribing ∧ ok = false then [notSubscribed] else []
  | .isScreenOnReturns =>
      if service.call = some .subscribeReading then [.subscribe ⟨true, some service.screenOn⟩]
      else []
  | _ => []

/-- The request that holds the lock. -/
def inside (service : ScreenService) : List MonitorRequest :=
  match service.call with
  | none => []
  | some .unsubscribeUnsubscribing => [.unsubscribe]
  | some _ => [.subscribe]

/-- The monitor without what the call inside has done to it. -/
def outside (service : ScreenService) : ScreenStateMonitor :=
  if service.call = some .subscribeReading then { service.monitor with isSubscribing := false }
  else service.monitor

def changed (service : ScreenService) : ScreenAction → List ScreenEvent
  | .changeScreen isOn =>
      if service.subscribed then [{ number := service.nextEvent, isOn := isOn }] else []
  | _ => []

def landed (service : ScreenService) : ScreenAction → List ScreenEvent
  | .setScreenOn event =>
      match service.call, service.received[event]? with
      | none, some taken => [taken]
      | _, _ => []
  | _ => []

def dropped (service : ScreenService) : ScreenAction → List ScreenEvent
  | .unSubscribeCommonEventReturns ok =>
      if ok = true ∧ (service.call = some .subscribeUnsubscribing ∨
        service.call = some .unsubscribeUnsubscribing) then service.published
      else []
  | _ => []

/-! ### What the steps add up to -/

structure Ledger where
  begun : List MonitorRequest
  operations : List MonitorOperation
  changed : List ScreenEvent
  landed : List ScreenEvent
  dropped : List ScreenEvent

def Ledger.extend (ledger : Ledger) (service : ScreenService) (action : ScreenAction) : Ledger :=
  { begun := ledger.begun ++ service.begun action
    operations := ledger.operations ++ service.operations action
    changed := ledger.changed ++ service.changed action
    landed := ledger.landed ++ service.landed action
    dropped := ledger.dropped ++ service.dropped action }

def ledgerOf (start : ScreenService) (actions : List ScreenAction) : Ledger :=
  { begun := StepMachine.committed step begun start actions
    operations := StepMachine.committed step operations start actions
    changed := StepMachine.committed step changed start actions
    landed := StepMachine.committed step landed start actions
    dropped := StepMachine.committed step dropped start actions }

theorem ledgerOf_snoc (start : ScreenService) (actions : List ScreenAction)
    (action : ScreenAction) :
    ledgerOf start (actions ++ [action]) =
      (ledgerOf start actions).extend (StepMachine.run step start actions) action := by
  simp only [ledgerOf, Ledger.extend, StepMachine.committed_append, StepMachine.committed,
    List.append_nil]

/-- The monitor is what the calls made of it, every request was served or is being
served, and every event is accounted for. -/
structure Balanced (service : ScreenService) (ledger : Ledger) : Prop where
  sound : service.Sound
  outside : service.outside = StepMachine.run ScreenStateMonitor.perform {} ledger.operations
  served : ledger.begun = ledger.operations.map MonitorOperation.request ++ service.inside
  taken : ledger.operations.filterMap MonitorOperation.landed =
    ledger.landed.map ScreenEvent.isOn
  numbered : ledger.changed.map ScreenEvent.number = List.range service.nextEvent
  conserved : ∀ event, ledger.changed.count event =
    ledger.landed.count event + ledger.dropped.count event + service.received.count event +
      service.published.count event

theorem new_balanced (screenOn hasInstance : Bool) :
    (new screenOn hasInstance).Balanced (ledgerOf (new screenOn hasInstance) []) where
  sound := new_sound screenOn hasInstance
  outside := rfl
  served := rfl
  taken := rfl
  numbered := rfl
  conserved := fun _ => rfl

/-! ### Every step -/

section Steps

variable {service : ScreenService} {ledger : Ledger}

private theorem operations_landed (service : ScreenService) (action : ScreenAction) :
    (service.operations action).filterMap MonitorOperation.landed =
      (service.landed action).map ScreenEvent.isOn := by
  cases action with
  | setScreenOn event =>
      simp only [operations, landed]
      split <;> rfl
  | subscribe =>
      simp only [operations, landed]
      split <;> rfl
  | unSubscribeCommonEventReturns ok =>
      simp only [operations, landed]
      split <;> rfl
  | subscribeCommonEventReturns ok =>
      simp only [operations, landed]
      split <;> rfl
  | isScreenOnReturns =>
      simp only [operations, landed]
      split <;> rfl
  | _ => rfl

private theorem step_nextEvent (service : ScreenService) (action : ScreenAction) :
    List.range (service.step action).nextEvent =
      List.range service.nextEvent ++ (service.changed action).map ScreenEvent.number := by
  cases action with
  | changeScreen isOn =>
      simp only [step, changeScreen, changed]
      split
      · exact List.range_succ
      · exact (List.append_nil _).symm
  | _ =>
      refine Eq.trans ?_ (List.append_nil _).symm
      congr 1
      simp only [step, onReceiveEvent, setScreenOn, subscribe, unsubscribe,
        unSubscribeCommonEventReturns, subscribeCommonEventReturns, isScreenOnReturns,
        endSubscription]
      repeat' split
      all_goals rfl

private theorem Balanced.extend (balanced : service.Balanced ledger) {action : ScreenAction}
    (outside : (service.step action).outside =
      StepMachine.run ScreenStateMonitor.perform service.outside (service.operations action))
    (served : service.inside ++ service.begun action =
      (service.operations action).map MonitorOperation.request ++ (service.step action).inside)
    (conserved : ∀ event, (service.changed action).count event + service.received.count event +
        service.published.count event =
      (service.landed action).count event + (service.dropped action).count event +
        (service.step action).received.count event +
        (service.step action).published.count event) :
    (service.step action).Balanced (ledger.extend service action) where
  sound := step_sound balanced.sound action
  outside := by
    rw [outside, balanced.outside, Ledger.extend, StepMachine.run_append]
  served := by
    rw [Ledger.extend, balanced.served, List.map_append, List.append_assoc, List.append_assoc,
      served]
  taken := by
    rw [Ledger.extend, List.filterMap_append, List.map_append, balanced.taken, operations_landed]
  numbered := by
    rw [Ledger.extend, List.map_append, balanced.numbered, step_nextEvent]
  conserved := by
    intro event
    have before := balanced.conserved event
    have now := conserved event
    simp only [Ledger.extend, List.count_append]
    omega

private theorem Balanced.beside (balanced : service.Balanced ledger) {action : ScreenAction}
    (monitor : (service.step action).monitor = service.monitor)
    (call : (service.step action).call = service.call)
    (begun : service.begun action = []) (operations : service.operations action = [])
    (landed : service.landed action = [])
    (conserved : ∀ event, (service.changed action).count event + service.received.count event +
        service.published.count event =
      (service.dropped action).count event + (service.step action).received.count event +
        (service.step action).published.count event) :
    (service.step action).Balanced (ledger.extend service action) := by
  have inside : (service.step action).inside = service.inside := by
    unfold ScreenService.inside
    rw [call]
  apply balanced.extend
  · rw [operations, ScreenService.outside, ScreenService.outside, call, monitor]
    rfl
  · rw [begun, operations, inside, List.append_nil]
    rfl
  · intro event
    rw [landed, conserved event, List.count_nil, Nat.zero_add]

private theorem Balanced.idle (balanced : service.Balanced ledger) {action : ScreenAction}
    (same : service.step action = service) (begun : service.begun action = [])
    (operations : service.operations action = []) (changed : service.changed action = [])
    (landed : service.landed action = []) (dropped : service.dropped action = []) :
    (service.step action).Balanced (ledger.extend service action) := by
  refine balanced.beside ?_ ?_ begun operations landed ?_
  · rw [same]
  · rw [same]
  · intro event
    rw [changed, dropped, same]

private theorem changeScreen_balanced (balanced : service.Balanced ledger) (isOn : Bool) :
    (service.step (.changeScreen isOn)).Balanced (ledger.extend service (.changeScreen isOn)) := by
  have call : (service.changeScreen isOn).call = service.call := by
    simp only [changeScreen]
    split <;> rfl
  refine balanced.beside (service.changeScreen_monitor isOn) call rfl rfl rfl ?_
  intro event
  simp only [step, changeScreen, changed, dropped]
  split
  · simp only [List.count_append, List.count_nil]
    omega
  · simp only [List.count_nil]

private theorem onReceiveEvent_balanced (balanced : service.Balanced ledger) :
    (service.step .onReceiveEvent).Balanced (ledger.extend service .onReceiveEvent) := by
  cases events : service.published with
  | nil =>
      have same : service.step .onReceiveEvent = service := onReceiveEvent_of_nil events
      exact balanced.idle same rfl rfl rfl rfl rfl
  | cons event rest =>
      have moved := onReceiveEvent_of_cons balanced.sound events
      change service.step .onReceiveEvent = _ at moved
      apply balanced.beside
      · rw [moved]
      · rw [moved]
      · rfl
      · rfl
      · rfl
      · intro other
        rw [moved, events]
        simp only [changed, dropped, List.count_nil, List.count_append, List.count_cons]
        omega

private theorem setScreenOn_balanced (balanced : service.Balanced ledger) (event : Nat) :
    (service.step (.setScreenOn event)).Balanced (ledger.extend service (.setScreenOn event)) := by
  cases free : service.call with
  | some call =>
      have same : service.step (.setScreenOn event) = service := by
        simp only [step, setScreenOn, free]
      exact balanced.idle same (by simp only [begun, free]) (by simp only [operations, free]) rfl
        (by simp only [landed, free]) rfl
  | none =>
      cases waiting : service.received[event]? with
      | none =>
          have same : service.step (.setScreenOn event) = service := by
            simp only [step, setScreenOn, free, waiting]
          exact balanced.idle same (by simp only [begun, free, waiting])
            (by simp only [operations, free, waiting]) rfl (by simp only [landed, free, waiting])
            rfl
      | some taken =>
          have after : service.step (.setScreenOn event) =
              { service with
                monitor := service.monitor.setScreenOn taken.isOn
                received := service.received.eraseIdx event } := by
            simp only [step, setScreenOn, free, waiting]
          have operation : service.operations (.setScreenOn event) =
              [.setScreenOn taken.isOn] := by
            simp only [operations, free, waiting]
          have request : service.begun (.setScreenOn event) = [.setScreenOn taken.isOn] := by
            simp only [begun, free, waiting]
          have lands : service.landed (.setScreenOn event) = [taken] := by
            simp only [landed, free, waiting]
          apply balanced.extend
          · rw [after, operation]
            simp only [outside, free, reduceCtorEq, if_false]
            rfl
          · rw [operation, request, after]
            simp only [inside, free]
            rfl
          · intro other
            obtain ⟨within, here⟩ := List.getElem?_eq_some_iff.mp waiting
            have moved := (List.getElem_cons_eraseIdx_perm within).count_eq other
            rw [here, List.count_cons] at moved
            rw [after, lands]
            simp only [changed, dropped, List.count_nil, List.count_cons]
            omega

private theorem subscribe_balanced (balanced : service.Balanced ledger) :
    (service.step .subscribe).Balanced (ledger.extend service .subscribe) := by
  cases free : service.call with
  | some call =>
      have same : service.step .subscribe = service := by simp only [step, subscribe, free]
      exact balanced.idle same (by simp [begun, free]) (by simp [operations, free]) rfl rfl rfl
  | none =>
      have request : service.begun .subscribe = [.subscribe] := if_pos free
      have nobody : service.inside = [] := by simp only [inside, free]
      by_cases ends : service.monitor.isSubscribing = true ∨ service.hasInstance = false
      · -- the call is over at once
        have same : service.step .subscribe = service := by
          rcases ends with already | unmade
          · simp [step, subscribe, free, already]
          · simp [step, subscribe, free, unmade]
        have operation : service.operations .subscribe = [notSubscribed] := if_pos ⟨free, ends⟩
        apply balanced.extend
        · rw [operation, same]
          simp [notSubscribed, ScreenStateMonitor.perform, ScreenStateMonitor.subscribe]
        · rw [request, operation, same, nobody]
          rfl
        · intro event
          rw [same]
          simp [changed, landed, dropped]
      · obtain ⟨notSubscribing, made⟩ := not_or.mp ends
        rw [Bool.not_eq_true] at notSubscribing
        rw [Bool.not_eq_false] at made
        have entered : service.step .subscribe =
            { service with
              hasCallback := true
              call := some .subscribeUnsubscribing } := by
          simp [step, subscribe, free, notSubscribing, made]
        have operation : service.operations .subscribe = [] := if_neg (fun both => ends both.2)
        apply balanced.extend
        · rw [operation, entered]
          simp [outside, free]
        · rw [request, operation, entered, nobody]
          rfl
        · intro event
          rw [entered]
          simp [changed, landed, dropped]

private theorem unsubscribe_balanced (balanced : service.Balanced ledger) :
    (service.step .unsubscribe).Balanced (ledger.extend service .unsubscribe) := by
  cases free : service.call with
  | some call =>
      have same : service.step .unsubscribe = service := by simp only [step, unsubscribe, free]
      exact balanced.idle same (by simp [begun, free]) rfl rfl rfl rfl
  | none =>
      have request : service.begun .unsubscribe = [.unsubscribe] := if_pos free
      have nobody : service.inside = [] := by simp only [inside, free]
      have entered : service.step .unsubscribe =
          { service with call := some .unsubscribeUnsubscribing } := by
        simp only [step, unsubscribe, free]
      apply balanced.extend
      · rw [entered]
        simp [outside, operations, free]
      · rw [request, entered, nobody]
        rfl
      · intro event
        rw [entered]
        simp [changed, landed, dropped]

private theorem endSubscription_counts (service : ScreenService) (ok : Bool)
    (event : ScreenEvent) :
    service.published.count event =
      (if ok then service.published else []).count event +
        (service.endSubscription ok).published.count event := by
  cases ok <;> simp [endSubscription]

private theorem unSubscribeCommonEventReturns_balanced (balanced : service.Balanced ledger)
    (ok : Bool) :
    (service.step (.unSubscribeCommonEventReturns ok)).Balanced
      (ledger.extend service (.unSubscribeCommonEventReturns ok)) := by
  have counts := service.endSubscription_counts ok
  have kept : (service.endSubscription ok).monitor = service.monitor ∧
      (service.endSubscription ok).received = service.received := by
    cases ok <;> exact ⟨rfl, rfl⟩
  by_cases subscribing : service.call = some .subscribeUnsubscribing
  · have left : service.step (.unSubscribeCommonEventReturns ok) =
        { service.endSubscription ok with call := some .subscribeSubscribing } := by
      simp only [step, unSubscribeCommonEventReturns, subscribing]
    have operation : service.operations (.unSubscribeCommonEventReturns ok) = [] := by
      simp [operations, subscribing]
    apply balanced.extend
    · rw [operation, left]
      simp [outside, subscribing, kept.1]
    · rw [operation, left]
      simp only [inside, subscribing]
      rfl
    · intro event
      rw [left]
      simp only [changed, landed, dropped, subscribing, true_or, and_true, kept.2, counts event,
        List.count_nil]
      omega
  · by_cases unsubscribing : service.call = some .unsubscribeUnsubscribing
    · have left : service.step (.unSubscribeCommonEventReturns ok) =
          { service.endSubscription ok with
            monitor := service.monitor.unsubscribe
            call := none } := by
        simp only [step, unSubscribeCommonEventReturns, unsubscribing]
      have operation : service.operations (.unSubscribeCommonEventReturns ok) =
          [.unsubscribe] := if_pos unsubscribing
      apply balanced.extend
      · rw [operation, left]
        simp [outside, unsubscribing, ScreenStateMonitor.perform]
      · rw [operation, left]
        simp only [inside, unsubscribing]
        rfl
      · intro event
        rw [left]
        simp only [changed, landed, dropped, unsubscribing, or_true, and_true, kept.2,
          counts event, List.count_nil]
        omega
    · have same : service.step (.unSubscribeCommonEventReturns ok) = service := by
        rw [step, unSubscribeCommonEventReturns]
        split
        · exact absurd ‹_› subscribing
        · exact absurd ‹_› unsubscribing
        · rfl
      exact balanced.idle same rfl (if_neg unsubscribing) rfl rfl
        (if_neg (fun ends => ends.2.elim subscribing unsubscribing))

private theorem subscribeCommonEventReturns_balanced (balanced : service.Balanced ledger)
    (ok : Bool) :
    (service.step (.subscribeCommonEventReturns ok)).Balanced
      (ledger.extend service (.subscribeCommonEventReturns ok)) := by
  by_cases calling : service.call = some .subscribeSubscribing
  · have fresh := (balanced.sound.before_subscribed (Or.inr calling)).1
    cases ok with
    | true =>
        have left : service.step (.subscribeCommonEventReturns true) =
            { service with
              subscribed := true
              monitor := { service.monitor with isSubscribing := true }
              call := some .subscribeReading } := by
          simp only [step, subscribeCommonEventReturns, calling, if_true]
        have operation : service.operations (.subscribeCommonEventReturns true) = [] := by
          simp [operations]
        apply balanced.extend
        · rw [operation, left]
          simp [outside, calling, ← fresh]
        · rw [operation, left]
          simp only [inside, calling]
          rfl
        · intro event
          rw [left]
          simp [changed, landed, dropped]
    | false =>
        have left : service.step (.subscribeCommonEventReturns false) =
            { service with call := none } := by
          simp only [step, subscribeCommonEventReturns, calling, Bool.false_eq_true, if_false]
        have operation : service.operations (.subscribeCommonEventReturns false) =
            [notSubscribed] := if_pos ⟨calling, rfl⟩
        apply balanced.extend
        · rw [operation, left]
          simp [outside, calling, notSubscribed, ScreenStateMonitor.perform,
            ScreenStateMonitor.subscribe]
        · rw [operation, left]
          simp only [inside, calling]
          rfl
        · intro event
          rw [left]
          simp [changed, landed, dropped]
  · have same : service.step (.subscribeCommonEventReturns ok) = service := by
      rw [step, subscribeCommonEventReturns]
      split
      · exact absurd ‹_› calling
      · rfl
    exact balanced.idle same rfl (if_neg (fun both => calling both.1)) rfl rfl rfl

private theorem isScreenOnReturns_balanced (balanced : service.Balanced ledger) :
    (service.step .isScreenOnReturns).Balanced (ledger.extend service .isScreenOnReturns) := by
  by_cases calling : service.call = some .subscribeReading
  · have marked := balanced.sound.subscribing_of_reading calling
    have left : service.step .isScreenOnReturns =
        { service with
          monitor := { service.monitor with isOn := service.screenOn }
          call := none } := by
      simp only [step, isScreenOnReturns, calling]
    have operation : service.operations .isScreenOnReturns =
        [.subscribe ⟨true, some service.screenOn⟩] := if_pos calling
    apply balanced.extend
    · rw [operation, left]
      simp [outside, calling, ScreenStateMonitor.perform, ScreenStateMonitor.subscribe, marked]
    · rw [operation, left]
      simp only [inside, calling]
      rfl
    · intro event
      rw [left]
      simp [changed, landed, dropped]
  · have same : service.step .isScreenOnReturns = service := by
      rw [step, isScreenOnReturns]
      split
      · exact absurd ‹_› calling
      · rfl
    exact balanced.idle same rfl (if_neg calling) rfl rfl rfl

theorem step_balanced (balanced : service.Balanced ledger) (action : ScreenAction) :
    (service.step action).Balanced (ledger.extend service action) := by
  cases action with
  | changeScreen isOn => exact changeScreen_balanced balanced isOn
  | onReceiveEvent => exact onReceiveEvent_balanced balanced
  | setScreenOn event => exact setScreenOn_balanced balanced event
  | subscribe => exact subscribe_balanced balanced
  | unsubscribe => exact unsubscribe_balanced balanced
  | unSubscribeCommonEventReturns ok => exact unSubscribeCommonEventReturns_balanced balanced ok
  | subscribeCommonEventReturns ok => exact subscribeCommonEventReturns_balanced balanced ok
  | isScreenOnReturns => exact isScreenOnReturns_balanced balanced

end Steps

theorem run_balanced (screenOn hasInstance : Bool) (actions : List ScreenAction) :
    (StepMachine.run step (new screenOn hasInstance) actions).Balanced
      (ledgerOf (new screenOn hasInstance) actions) := by
  induction actions using List.reverseRecOn with
  | nil => exact new_balanced screenOn hasInstance
  | append_singleton actions action ih =>
      rw [StepMachine.run_snoc, ledgerOf_snoc]
      exact step_balanced ih action

/-- Whenever no call is inside, the monitor is what the calls make of it one after the
other, each taken at the step that lets go of the lock; the calls are those that got the
lock, in that order, up to the one that still holds it; and each event published is in
exactly one place: taken by a `SetScreenOn`, gone with a subscription, or on its way. -/
theorem monitor_atomic (screenOn hasInstance : Bool) (actions : List ScreenAction) :
    ((StepMachine.run step (new screenOn hasInstance) actions).inside = [] →
        (StepMachine.run step (new screenOn hasInstance) actions).monitor =
          StepMachine.run ScreenStateMonitor.perform {}
            (ledgerOf (new screenOn hasInstance) actions).operations) ∧
      (ledgerOf (new screenOn hasInstance) actions).begun =
        (ledgerOf (new screenOn hasInstance) actions).operations.map MonitorOperation.request ++
          (StepMachine.run step (new screenOn hasInstance) actions).inside ∧
      (ledgerOf (new screenOn hasInstance) actions).operations.filterMap
          MonitorOperation.landed =
        (ledgerOf (new screenOn hasInstance) actions).landed.map ScreenEvent.isOn ∧
      ((ledgerOf (new screenOn hasInstance) actions).changed.map ScreenEvent.number).Nodup ∧
      (ledgerOf (new screenOn hasInstance) actions).changed.Perm
        ((ledgerOf (new screenOn hasInstance) actions).landed ++
          (ledgerOf (new screenOn hasInstance) actions).dropped ++
          (StepMachine.run step (new screenOn hasInstance) actions).received ++
          (StepMachine.run step (new screenOn hasInstance) actions).published) := by
  have balanced := run_balanced screenOn hasInstance actions
  refine ⟨?_, balanced.served, balanced.taken, ?_, ?_⟩
  · intro nobody
    rw [← balanced.outside, outside, if_neg]
    intro reading
    rw [inside, reading] at nobody
    cases nobody
  · rw [balanced.numbered]
    exact List.nodup_range
  · rw [List.perm_iff_count]
    intro event
    simp only [List.count_append]
    exact balanced.conserved event

end ScreenService

end FingerprintAuth

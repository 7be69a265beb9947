/-
Whether the monitor's flag mirrors the screen.

While the monitor is subscribed the newest event on its way is about the screen as it
is, so the flag settles to the screen when the events land in order. Two steps can
break this. `Subscribe` reads the screen while an event handed over under an earlier
subscription still waits for the lock, and the stale event lands after the reading; or
the newest event takes the lock before an older one.
-/

import FingerprintAuth.ScreenEvents
import Mathlib.Data.List.InsertIdx

set_option autoImplicit false

namespace FingerprintAuth

namespace ScreenService

/-- No call is in progress and no event is on its way. -/
def Quiet (service : ScreenService) : Prop :=
  service.call = none ∧ service.published = [] ∧ service.received = []

/-- While it is subscribed and all is quiet, the monitor answers the screen's state. -/
def Mirrors (service : ScreenService) : Prop :=
  service.monitor.isSubscribing = true → service.Quiet →
    service.monitor.getScreenOn = service.screenOn

/-- What the flag settles to when the events on their way land in order. -/
def settledOn (service : ScreenService) : Bool :=
  InFlight.settled service.monitor.isOn
    ((service.received ++ service.published).map ScreenEvent.isOn)

def Settles (service : ScreenService) : Prop :=
  service.monitor.isSubscribing = true → service.call = none →
    service.settledOn = service.screenOn

/-- A reading by `Subscribe` that finds no event still to be handed over finds the
newest event that waits for the lock, if any, in agreement with the screen. An event
that takes the lock as the newest of all leaves behind none that disagrees. -/
def KeepsMirror (service : ScreenService) : ScreenAction → Prop
  | .isScreenOnReturns =>
      service.call = some .subscribeReading → service.published = [] →
        InFlight.settled service.screenOn (service.received.map ScreenEvent.isOn) =
          service.screenOn
  | .setScreenOn event =>
      service.monitor.isSubscribing = true → service.call = none → service.published = [] →
        event + 1 = service.received.length →
        InFlight.settled service.screenOn (service.received.dropLast.map ScreenEvent.isOn) =
          service.screenOn
  | _ => True

structure Sound (service : ScreenService) : Prop where
  subscribed_of_subscribing : service.monitor.isSubscribing = true → service.subscribed = true
  subscribing_of_reading : service.call = some .subscribeReading →
    service.monitor.isSubscribing = true
  ready_of_subscribed : service.subscribed = true →
    service.hasInstance = true ∧ service.hasCallback = true
  before_subscribed : service.call = some .subscribeUnsubscribing ∨
    service.call = some .subscribeSubscribing →
      service.monitor.isSubscribing = false ∧
        service.hasInstance = true ∧ service.hasCallback = true
  published_of_not_subscribed : service.subscribed = false → service.published = []
  newest_published :
    InFlight.settled service.screenOn (service.published.map ScreenEvent.isOn) = service.screenOn

theorem new_sound (screenOn hasInstance : Bool) : (new screenOn hasInstance).Sound := by
  constructor <;> simp [new]

theorem new_settles (screenOn hasInstance : Bool) : (new screenOn hasInstance).Settles := by
  intro subscribing
  cases subscribing

/-! ### The subscription in each step -/

section Steps

variable {service : ScreenService}

theorem Sound.ready_of_published (sound : service.Sound) {event : ScreenEvent}
    {rest : List ScreenEvent}
    (some_ : service.published = event :: rest) :
    service.hasInstance = true ∧ service.hasCallback = true := by
  cases subscribed : service.subscribed with
  | true => exact sound.ready_of_subscribed subscribed
  | false =>
      have none_ := sound.published_of_not_subscribed subscribed
      rw [some_] at none_
      cases none_

theorem onReceiveEvent_of_nil (none_ : service.published = []) :
    service.onReceiveEvent = service := by
  rw [onReceiveEvent, none_]

theorem onReceiveEvent_of_cons (sound : service.Sound) {event : ScreenEvent} {rest : List ScreenEvent}
    (some_ : service.published = event :: rest) :
    service.onReceiveEvent =
      { service with
        published := rest
        received := service.received ++ [event] } := by
  obtain ⟨made, set⟩ := sound.ready_of_published some_
  simp only [onReceiveEvent, some_, made, set, Bool.and_self, if_true]

theorem changeScreen_of_subscribed (subscribed : service.subscribed = true) (isOn : Bool) :
    service.changeScreen isOn =
      { service with
        screenOn := isOn
        nextEvent := service.nextEvent + 1
        published := service.published ++ [{ number := service.nextEvent, isOn := isOn }] } := by
  simp only [changeScreen, subscribed, if_true]

theorem changeScreen_sound (sound : service.Sound) (isOn : Bool) :
    (service.changeScreen isOn).Sound := by
  cases subscribed : service.subscribed with
  | true =>
      rw [changeScreen_of_subscribed subscribed]
      refine { sound with
        published_of_not_subscribed := ?_
        newest_published := ?_ }
      · intro unsubscribed
        exact absurd (subscribed.symm.trans unsubscribed) (by decide)
      · rw [List.map_append]
        exact InFlight.settled_snoc _ _ _
  | false =>
      have none_ := sound.published_of_not_subscribed subscribed
      have changed : service.changeScreen isOn = { service with screenOn := isOn } := by
        simp only [changeScreen, subscribed, Bool.false_eq_true, if_false]
      rw [changed]
      refine { sound with newest_published := ?_ }
      rw [none_]
      rfl

theorem onReceiveEvent_sound (sound : service.Sound) : service.onReceiveEvent.Sound := by
  cases events : service.published with
  | nil =>
      rw [onReceiveEvent_of_nil events]
      exact sound
  | cons event rest =>
      rw [onReceiveEvent_of_cons sound events]
      have newest := sound.newest_published
      rw [events, List.map_cons, InFlight.settled_cons] at newest
      refine { sound with
        published_of_not_subscribed := ?_
        newest_published := ?_ }
      · intro unsubscribed
        have none_ := sound.published_of_not_subscribed unsubscribed
        rw [events] at none_
        cases none_
      · cases rest with
        | nil => rfl
        | cons next later => exact newest

theorem setScreenOn_sound (sound : service.Sound) (event : Nat) :
    (service.setScreenOn event).Sound := by
  unfold setScreenOn
  split
  · exact { sound with }
  · exact sound

theorem subscribe_sound (sound : service.Sound) : service.subscribe.Sound := by
  unfold subscribe
  split
  · exact sound
  split
  · exact sound
  split
  · exact sound
  · rename_i notSubscribing made
    rw [Bool.not_eq_true] at notSubscribing
    rw [Bool.not_eq_true, Bool.not_eq_false] at made
    exact { sound with
      subscribing_of_reading := nofun
      ready_of_subscribed := fun _ => ⟨made, rfl⟩
      before_subscribed := fun _ => ⟨notSubscribing, made, rfl⟩ }

theorem unsubscribe_sound (sound : service.Sound) : service.unsubscribe.Sound := by
  unfold unsubscribe
  split
  · exact sound
  · exact { sound with
      subscribing_of_reading := nofun
      before_subscribed := nofun }

theorem endSubscription_sound (sound : service.Sound) (ok : Bool) (monitor : ScreenStateMonitor)
    (call : Option MonitorCall) (uncounted : monitor.isSubscribing = false)
    (notReading : call ≠ some .subscribeReading)
    (ready : call = some .subscribeUnsubscribing ∨ call = some .subscribeSubscribing →
      service.hasInstance = true ∧ service.hasCallback = true) :
    { service.endSubscription ok with
      monitor := monitor
      call := call }.Sound := by
  have notSubscribing : ¬monitor.isSubscribing = true := by
    rw [uncounted]
    decide
  cases ok with
  | false =>
      exact { sound with
        subscribed_of_subscribing := fun subscribing => absurd subscribing notSubscribing
        subscribing_of_reading := fun reading => absurd reading notReading
        before_subscribed := fun calling => ⟨uncounted, ready calling⟩ }
  | true =>
      exact {
        subscribed_of_subscribing := fun subscribing => absurd subscribing notSubscribing
        subscribing_of_reading := fun reading => absurd reading notReading
        ready_of_subscribed := nofun
        before_subscribed := fun calling => ⟨uncounted, ready calling⟩
        published_of_not_subscribed := fun _ => rfl
        newest_published := rfl }

theorem unSubscribeCommonEventReturns_sound (sound : service.Sound) (ok : Bool) :
    (service.unSubscribeCommonEventReturns ok).Sound := by
  unfold unSubscribeCommonEventReturns
  split
  · rename_i calling
    have before := sound.before_subscribed (Or.inl calling)
    have sameMonitor : (service.endSubscription ok).monitor = service.monitor := by
      cases ok <;> rfl
    have ended := endSubscription_sound sound ok service.monitor (some .subscribeSubscribing)
      before.1 (by decide) (fun _ => before.2)
    rw [← sameMonitor] at ended
    exact ended
  · exact endSubscription_sound sound ok service.monitor.unsubscribe none rfl nofun nofun
  · exact sound

theorem subscribeCommonEventReturns_sound (sound : service.Sound) (ok : Bool) :
    (service.subscribeCommonEventReturns ok).Sound := by
  unfold subscribeCommonEventReturns
  split
  · rename_i calling
    have before := sound.before_subscribed (Or.inr calling)
    split
    · exact { sound with
        subscribed_of_subscribing := fun _ => rfl
        subscribing_of_reading := fun _ => rfl
        ready_of_subscribed := fun _ => before.2
        before_subscribed := nofun
        published_of_not_subscribed := nofun }
    · exact { sound with
        subscribing_of_reading := nofun
        before_subscribed := nofun }
  · exact sound

theorem isScreenOnReturns_sound (sound : service.Sound) : service.isScreenOnReturns.Sound := by
  unfold isScreenOnReturns
  split
  · rename_i calling
    exact { sound with
      subscribed_of_subscribing := fun _ =>
        sound.subscribed_of_subscribing (sound.subscribing_of_reading calling)
      subscribing_of_reading := nofun
      before_subscribed := nofun }
  · exact sound

theorem step_sound (sound : service.Sound) (action : ScreenAction) :
    (service.step action).Sound := by
  cases action with
  | changeScreen isOn => exact changeScreen_sound sound isOn
  | onReceiveEvent => exact onReceiveEvent_sound sound
  | setScreenOn event => exact setScreenOn_sound sound event
  | subscribe => exact subscribe_sound sound
  | unsubscribe => exact unsubscribe_sound sound
  | unSubscribeCommonEventReturns ok => exact unSubscribeCommonEventReturns_sound sound ok
  | subscribeCommonEventReturns ok => exact subscribeCommonEventReturns_sound sound ok
  | isScreenOnReturns => exact isScreenOnReturns_sound sound

end Steps

/-! ### The settled flag in each step -/

section Settling

variable {service : ScreenService}

theorem changeScreen_settles (sound : service.Sound) (isOn : Bool) :
    (service.changeScreen isOn).Settles := by
  intro subscribing free
  rw [changeScreen_monitor] at subscribing
  have subscribed := sound.subscribed_of_subscribing subscribing
  rw [changeScreen_of_subscribed subscribed, settledOn]
  simp only [← List.append_assoc, List.map_append, List.map_singleton, InFlight.settled_snoc]

theorem onReceiveEvent_settles (sound : service.Sound) (settles : service.Settles) :
    service.onReceiveEvent.Settles := by
  cases events : service.published with
  | nil =>
      rw [onReceiveEvent_of_nil events]
      exact settles
  | cons event rest =>
      rw [onReceiveEvent_of_cons sound events]
      intro subscribing free
      have before := settles subscribing free
      rw [settledOn, events] at before
      simp only [settledOn, List.append_assoc, List.singleton_append]
      exact before

theorem settled_land_older {received published : List ScreenEvent} {event : Nat}
    (value isOn : Bool) (older : event + 1 < (received ++ published).length)
    (waiting : event < received.length) :
    InFlight.settled isOn ((received.eraseIdx event ++ published).map ScreenEvent.isOn) =
      InFlight.settled value ((received ++ published).map ScreenEvent.isOn) := by
  have erased : (received ++ published).eraseIdx event = received.eraseIdx event ++ published :=
    List.eraseIdx_append_of_lt_length waiting published
  have some_ : (received.eraseIdx event ++ published).map ScreenEvent.isOn ≠ [] := by
    rw [← erased]
    apply List.ne_nil_of_length_pos
    rw [List.length_map, List.length_eraseIdx_of_lt (by omega)]
    omega
  rw [← InFlight.settled_eraseIdx value _ event (by rw [List.length_map]; exact older),
    List.eraseIdx_map, erased]
  exact InFlight.settled_congr some_ isOn value

/-- The newest event leaves all the others behind when it lands. -/
theorem eraseIdx_newest {received : List ScreenEvent} {event : Nat} {taken : ScreenEvent}
    (newest : event + 1 = received.length) (waiting : received[event]? = some taken) :
    ∃ others, received = others ++ [taken] ∧ received.eraseIdx event = others := by
  have last : received.getLast? = some taken := by
    rw [List.getLast?_eq_getElem?, ← newest]
    exact waiting
  obtain ⟨others, split⟩ := List.getLast?_eq_some_iff.mp last
  refine ⟨others, split, ?_⟩
  rw [List.eraseIdx_eq_dropLast newest, split, List.dropLast_concat]

theorem setScreenOn_settles_iff (settles : service.Settles) (event : Nat) :
    (service.setScreenOn event).Settles ↔ service.KeepsMirror (.setScreenOn event) := by
  unfold setScreenOn
  split
  · rename_i taken free waiting
    by_cases subscribing : service.monitor.isSubscribing = true
    · have before := settles subscribing free
      by_cases newest : service.published = [] ∧ event + 1 = service.received.length
      · obtain ⟨others, split, left⟩ := eraseIdx_newest newest.2 waiting
        rw [settledOn, newest.1, split, List.append_nil, List.map_append, List.map_singleton,
          InFlight.settled_snoc] at before
        have after : InFlight.settled taken.isOn
            ((service.received.eraseIdx event ++ service.published).map ScreenEvent.isOn) =
            InFlight.settled service.screenOn
              (service.received.dropLast.map ScreenEvent.isOn) := by
          rw [left, newest.1, List.append_nil, split, List.dropLast_concat, before]
        constructor
        · intro settlesAfter _ _ _ _
          rw [← after]
          exact settlesAfter subscribing free
        · intro keeps _ _
          exact after.trans (keeps subscribing free newest.1 newest.2)
      · have inRange : event < service.received.length := by
          obtain ⟨inRange, _⟩ := List.getElem?_eq_some_iff.mp waiting
          exact inRange
        have older : event + 1 < (service.received ++ service.published).length := by
          rw [List.length_append]
          cases published : service.published with
          | nil =>
              have notLast : event + 1 ≠ service.received.length :=
                fun last => newest ⟨published, last⟩
              rw [List.length_nil]
              omega
          | cons next later =>
              rw [List.length_cons]
              omega
        refine iff_of_true ?_ ?_
        · intro _ _
          exact (settled_land_older _ taken.isOn older inRange).trans before
        · intro _ _ none_ last
          exact absurd ⟨none_, last⟩ newest
    · exact iff_of_true (fun counts => absurd counts subscribing)
        (fun counts => absurd counts subscribing)
  · rename_i blocked
    refine iff_of_true settles ?_
    intro _ free _ last
    have inRange : event < service.received.length := by omega
    exact absurd (List.getElem?_eq_getElem inRange) (blocked _ free)

theorem subscribe_settles (settles : service.Settles) : service.subscribe.Settles := by
  unfold subscribe
  split
  · exact settles
  split
  · exact settles
  split
  · exact settles
  · intro _ free
    cases free

theorem unsubscribe_settles (settles : service.Settles) : service.unsubscribe.Settles := by
  unfold unsubscribe
  split
  · exact settles
  · intro _ free
    cases free

theorem unSubscribeCommonEventReturns_settles (settles : service.Settles) (ok : Bool) :
    (service.unSubscribeCommonEventReturns ok).Settles := by
  unfold unSubscribeCommonEventReturns
  split
  · intro _ free
    cases free
  · intro subscribing
    cases subscribing
  · exact settles

theorem subscribeCommonEventReturns_settles (sound : service.Sound) (settles : service.Settles)
    (ok : Bool) : (service.subscribeCommonEventReturns ok).Settles := by
  unfold subscribeCommonEventReturns
  split
  · rename_i calling
    split
    · intro _ free
      cases free
    · intro subscribing
      have before := (sound.before_subscribed (Or.inr calling)).1
      exact absurd (before.symm.trans subscribing) (by decide)
  · exact settles

theorem isScreenOnReturns_settles_iff (sound : service.Sound) (settles : service.Settles) :
    service.isScreenOnReturns.Settles ↔ service.KeepsMirror .isScreenOnReturns := by
  unfold isScreenOnReturns
  split
  · rename_i calling
    have subscribing := sound.subscribing_of_reading calling
    have after : InFlight.settled service.screenOn
          ((service.received ++ service.published).map ScreenEvent.isOn) = service.screenOn ↔
        (service.published = [] →
          InFlight.settled service.screenOn (service.received.map ScreenEvent.isOn) =
            service.screenOn) := by
      cases published : service.published with
      | nil =>
          rw [List.append_nil]
          exact ⟨fun agrees _ => agrees, fun agrees => agrees rfl⟩
      | cons event rest =>
          have newest := sound.newest_published
          rw [published, List.map_cons, InFlight.settled_cons] at newest
          rw [List.map_append, InFlight.settled_append, List.map_cons, InFlight.settled_cons]
          exact iff_of_true newest nofun
    constructor
    · intro settlesAfter _
      exact after.mp (settlesAfter subscribing rfl)
    · intro keeps _ _
      exact after.mpr (keeps calling)
  · rename_i notReading
    exact iff_of_true settles (fun calling => absurd calling notReading)

theorem step_settles_iff (sound : service.Sound) (settles : service.Settles)
    (action : ScreenAction) :
    (service.step action).Settles ↔ service.KeepsMirror action := by
  cases action with
  | changeScreen isOn => exact iff_of_true (changeScreen_settles sound isOn) trivial
  | onReceiveEvent => exact iff_of_true (onReceiveEvent_settles sound settles) trivial
  | setScreenOn event => exact setScreenOn_settles_iff settles event
  | subscribe => exact iff_of_true (subscribe_settles settles) trivial
  | unsubscribe => exact iff_of_true (unsubscribe_settles settles) trivial
  | unSubscribeCommonEventReturns ok =>
      exact iff_of_true (unSubscribeCommonEventReturns_settles settles ok) trivial
  | subscribeCommonEventReturns ok =>
      exact iff_of_true (subscribeCommonEventReturns_settles sound settles ok) trivial
  | isScreenOnReturns => exact isScreenOnReturns_settles_iff sound settles

theorem always_settles_iff (screenOn hasInstance : Bool) (actions : List ScreenAction) :
    StepMachine.Always step Settles (new screenOn hasInstance) actions ↔
      StepMachine.EachStep step KeepsMirror (new screenOn hasInstance) actions :=
  StepMachine.always_iff_eachStep Sound (fun _ => True)
    (fun _ action sound => step_sound sound action)
    (fun _ action _ sound settles => step_settles_iff sound settles action)
    (new_sound screenOn hasInstance) (new_settles screenOn hasInstance) actions
    (fun _ _ => trivial)

end Settling

/-! ### Letting the events land -/

def landsInOrder : ScreenAction → Bool
  | .onReceiveEvent => true
  | .setScreenOn event => event == 0
  | _ => false

def landing (service : ScreenService) : List ScreenAction :=
  List.replicate service.published.length .onReceiveEvent ++
    List.replicate (service.received ++ service.published).length (.setScreenOn 0)

theorem landing_inOrder {service : ScreenService} {action : ScreenAction}
    (member : action ∈ service.landing) : landsInOrder action = true := by
  rcases List.mem_append.mp member with handing | taking
  · rw [List.eq_of_mem_replicate handing]
    rfl
  · rw [List.eq_of_mem_replicate taking]
    rfl

theorem run_onReceiveEvent {service : ScreenService} (sound : service.Sound) :
    StepMachine.run step service
        (List.replicate service.published.length .onReceiveEvent) =
      { service with
        published := []
        received := service.received ++ service.published } := by
  generalize events : service.published = published
  induction published generalizing service with
  | nil =>
      have same : { service with published := [] } = service := by rw [← events]
      rw [List.append_nil]
      exact same.symm
  | cons event rest ih =>
      have handed := onReceiveEvent_of_cons sound events
      have later := ih (onReceiveEvent_sound sound) (by rw [handed])
      rw [List.length_cons, List.replicate_succ, StepMachine.run_cons, step, later, handed]
      simp only [List.append_assoc, List.singleton_append]

theorem run_setScreenOn {service : ScreenService} (free : service.call = none) :
    StepMachine.run step service
        (List.replicate service.received.length (.setScreenOn 0)) =
      { service with
        received := []
        monitor := service.monitor.setScreenOn
          (InFlight.settled service.monitor.isOn (service.received.map ScreenEvent.isOn)) } := by
  generalize events : service.received = received
  induction received generalizing service with
  | nil =>
      have same : { service with
          received := []
          monitor := service.monitor.setScreenOn service.monitor.isOn } = service := by
        rw [← events]
        rfl
      exact same.symm
  | cons event rest ih =>
      have landed : service.setScreenOn 0 =
          { service with
            monitor := service.monitor.setScreenOn event.isOn
            received := rest } := by
        simp [setScreenOn, free, events]
      have freeLater : (service.setScreenOn 0).call = none := by
        rw [landed]
        exact free
      have later := ih freeLater (by rw [landed])
      rw [List.length_cons, List.replicate_succ, StepMachine.run_cons, step, later, landed,
        List.map_cons, InFlight.settled_cons]
      rfl

theorem run_landing {service : ScreenService} (sound : service.Sound)
    (free : service.call = none) :
    StepMachine.run step service service.landing =
      { service with
        published := []
        received := []
        monitor := service.monitor.setScreenOn service.settledOn } := by
  rw [landing, StepMachine.run_append, run_onReceiveEvent sound]
  exact @run_setScreenOn
    { service with
      published := []
      received := service.received ++ service.published } free

theorem mirrors_of_settles {service : ScreenService} (settles : service.Settles) :
    service.Mirrors := by
  intro subscribing quiet
  obtain ⟨free, nonePublished, noneReceived⟩ := quiet
  have settled := settles subscribing free
  rw [settledOn, nonePublished, noneReceived] at settled
  exact settled

theorem keepsMirror_of_landsInOrder (service : ScreenService) {action : ScreenAction}
    (inOrder : landsInOrder action = true) : service.KeepsMirror action := by
  cases action with
  | setScreenOn event =>
      intro _ _ _ last
      have first : event = 0 := eq_of_beq inOrder
      have single : service.received.dropLast = [] := by
        apply List.eq_nil_of_length_eq_zero
        rw [List.length_dropLast]
        omega
      rw [single]
      rfl
  | isScreenOnReturns => cases inOrder
  | _ => trivial

/-- The monitor mirrors the screen after every beginning of a run, however far the
events on their way have landed in order, exactly if each step of the run keeps the
mirror. -/
theorem keepsMirror_iff_mirrors (screenOn hasInstance : Bool) (actions : List ScreenAction) :
    StepMachine.EachStep step KeepsMirror (new screenOn hasInstance) actions ↔
      ∀ before after, actions = before ++ after →
        ∀ landing, (∀ action, action ∈ landing → landsInOrder action = true) →
          Mirrors (StepMachine.run step (new screenOn hasInstance) (before ++ landing)) := by
  constructor
  · intro keeps before after split landing inOrder
    rw [split, StepMachine.eachStep_append] at keeps
    have landingKeeps : StepMachine.EachStep step KeepsMirror
        (StepMachine.run step (new screenOn hasInstance) before) landing := by
      rw [StepMachine.eachStep_iff_split]
      intro earlier action later split
      apply keepsMirror_of_landsInOrder
      apply inOrder
      rw [split]
      exact List.mem_append_right earlier List.mem_cons_self
    have all := StepMachine.eachStep_append.mpr ⟨keeps.1, landingKeeps⟩
    exact mirrors_of_settles ((always_settles_iff screenOn hasInstance _).mpr all).last
  · intro mirrors
    rw [← always_settles_iff, StepMachine.always_iff_cut]
    intro before after split subscribing free
    have sound : (StepMachine.run step (new screenOn hasInstance) before).Sound :=
      (StepMachine.run_reachable step (new screenOn hasInstance) before).invariant Sound
        (new_sound screenOn hasInstance) (fun _ action sound => step_sound sound action)
    have mirrored := mirrors before after split
      (StepMachine.run step (new screenOn hasInstance) before).landing
      (fun action member => landing_inOrder member)
    rw [StepMachine.run_append, run_landing sound free] at mirrored
    exact mirrored subscribing ⟨free, rfl, rfl⟩

/-- A screen-off event waits for the lock through an `Unsubscribe` and the next
`Subscribe`, and lands after the screen has been read as on. -/
theorem stale_event_overwrites_reading :
    ¬StepMachine.Always step Mirrors (new true true)
      [.subscribe, .unSubscribeCommonEventReturns true, .subscribeCommonEventReturns true,
        .isScreenOnReturns, .changeScreen false, .onReceiveEvent, .unsubscribe,
        .unSubscribeCommonEventReturns true, .changeScreen true, .subscribe,
        .unSubscribeCommonEventReturns true, .subscribeCommonEventReturns true,
        .isScreenOnReturns, .setScreenOn 0] := by
  intro always
  exact absurd (always.last rfl ⟨rfl, rfl, rfl⟩) (by decide)

end ScreenService

end FingerprintAuth

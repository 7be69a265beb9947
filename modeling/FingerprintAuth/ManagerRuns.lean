/-
Runs of the manager. Every operation keeps the invariant, so it holds in every state
between two operations, however the commands of all executors, the disconnects and
the steps of callbacks are interleaved.
-/

import FingerprintAuth.ManagerInvariant

set_option autoImplicit false

universe u

namespace FingerprintAuth

namespace SensorIlluminationManager

variable {E : Type u}

/-! ### Tasks under a step of their own -/

private theorem modify_inv (manager : SensorIlluminationManager E) (target : TaskId)
    (change : SensorIlluminationTask → SensorIlluminationTask) (monitor : ScreenStateMonitor)
    (log : List Event) (inv : manager.Inv) (live : target ∈ manager.tasks.live)
    (sound : (change (manager.tasks.value target)).Sound)
    (callback : (change (manager.tasks.value target)).destructCallback =
      (manager.tasks.value target).destructCallback)
    (referenced : manager.taskInProc = some target ∨
      (change (manager.tasks.value target)).hasHolder = true)
    (off : manager.taskInProc ≠ some target →
      (change (manager.tasks.value target)).isIlluminationOn = false) :
    ({ manager with
        monitor := monitor
        tasks := manager.tasks.modify target change
        log := log } : SensorIlluminationManager E).Inv where
  paired := inv.paired
  library := inv.library
  sessionLive := inv.sessionLive
  referenced := by
    have still := manager.tasks.forall_modify
      (fun task object => task ∈ manager.tasks.live →
        manager.taskInProc = some task ∨ object.hasHolder = true)
      target change (fun _ => referenced)
      (fun task _ taskLive => (manager.isReferenced_iff task).mp (inv.referenced task taskLive))
    intro task taskLive
    rw [isReferenced_iff]
    exact still task taskLive
  heldLive := by
    apply manager.tasks.forall_modify
      (fun task object => object.hasHolder = true → task ∈ manager.tasks.live)
    · intro _
      exact live
    · intro task _
      exact inv.heldLive task
  callbackSet := by
    apply manager.tasks.forall_modify
      (fun task object => task ∈ manager.tasks.live → object.destructCallback = true)
    · intro _
      exact callback.trans (inv.callbackSet target live)
    · intro task _
      exact inv.callbackSet task
  sound := by
    apply manager.tasks.forall_modify (fun _ object => object.Sound)
    · exact sound
    · intro task _
      exact inv.sound task
  off := by
    apply manager.tasks.forall_modify
      (fun task object => manager.taskInProc ≠ some task → object.isIlluminationOn = false)
    · exact off
    · intro task _
      exact inv.off task

private theorem free_inv (manager : SensorIlluminationManager E) (target : TaskId)
    (change : SensorIlluminationTask → SensorIlluminationTask) (monitor : ScreenStateMonitor)
    (log : List Event) (inv : manager.Inv)
    (sound : (change (manager.tasks.value target)).Sound)
    (nobody : (change (manager.tasks.value target)).hasHolder = false)
    (elsewhere : manager.taskInProc ≠ some target)
    (off : (change (manager.tasks.value target)).isIlluminationOn = false) :
    ({ manager with
        monitor := monitor
        tasks := (manager.tasks.modify target change).free target
        log := log } : SensorIlluminationManager E).Inv where
  paired := inv.paired
  library := inv.library
  sessionLive := by
    intro task session
    have different : task ≠ target := by
      intro same
      rw [same] at session
      exact elsewhere session
    exact Finset.mem_erase.mpr ⟨different, inv.sessionLive task session⟩
  referenced := by
    intro task taskLive
    obtain ⟨different, before⟩ := Finset.mem_erase.mp taskLive
    rw [isReferenced_iff]
    simp only [ObjectHeap.free_value, ObjectHeap.modify_value, if_neg different]
    exact (manager.isReferenced_iff task).mp (inv.referenced task before)
  heldLive := by
    apply manager.tasks.forall_modify
      (fun task object => object.hasHolder = true → task ∈ manager.tasks.live.erase target)
    · intro holder
      rw [nobody] at holder
      cases holder
    · intro task different holder
      exact Finset.mem_erase.mpr ⟨different, inv.heldLive task holder⟩
  callbackSet := by
    intro task taskLive
    obtain ⟨different, before⟩ := Finset.mem_erase.mp taskLive
    simp only [ObjectHeap.free_value, ObjectHeap.modify_value, if_neg different]
    exact inv.callbackSet task before
  sound := by
    apply manager.tasks.forall_modify (fun _ object => object.Sound)
    · exact sound
    · intro task _
      exact inv.sound task
  off := by
    apply manager.tasks.forall_modify
      (fun task object => manager.taskInProc ≠ some task → object.isIlluminationOn = false)
    · intro _
      exact off
    · intro task _
      exact inv.off task

/-! ### Opening and ending a session -/

private theorem older_of_live {manager : SensorIlluminationManager E} {task : TaskId}
    (live : task ∈ manager.tasks.live) : task ≠ manager.tasks.next := by
  intro same
  rw [same] at live
  exact manager.tasks.next_notMem_live live

/-- A new dark task to which nobody refers leaves no trace among the tasks. -/
private theorem discard_inv (manager : SensorIlluminationManager E)
    (task : SensorIlluminationTask) (monitor : ScreenStateMonitor) (serviceEx : ServiceExManager)
    (log : List Event) (inv : manager.Inv) (library : serviceEx.Consistent)
    (sound : task.Sound) (nobody : task.hasHolder = false)
    (off : task.isIlluminationOn = false) :
    ({ manager with
        serviceEx := serviceEx
        monitor := monitor
        tasks := (manager.tasks.alloc task).free manager.tasks.next
        log := log } : SensorIlluminationManager E).Inv where
  paired := inv.paired
  library := library
  sessionLive := by
    intro other session
    rw [ObjectHeap.alloc_free_live]
    exact inv.sessionLive other session
  referenced := by
    intro other live
    rw [ObjectHeap.alloc_free_live] at live
    rw [isReferenced_iff]
    simp only [ObjectHeap.free_value, ObjectHeap.alloc_value, if_neg (older_of_live live)]
    exact (manager.isReferenced_iff other).mp (inv.referenced other live)
  heldLive := by
    rw [ObjectHeap.alloc_free_live]
    apply manager.tasks.forall_alloc
      (fun other object => object.hasHolder = true → other ∈ manager.tasks.live)
    · intro holder
      rw [nobody] at holder
      cases holder
    · intro other _
      exact inv.heldLive other
  callbackSet := by
    intro other live
    rw [ObjectHeap.alloc_free_live] at live
    simp only [ObjectHeap.free_value, ObjectHeap.alloc_value, if_neg (older_of_live live)]
    exact inv.callbackSet other live
  sound := by
    apply manager.tasks.forall_alloc (fun _ object => object.Sound)
    · exact sound
    · intro other _
      exact inv.sound other
  off := by
    apply manager.tasks.forall_alloc
      (fun other object => manager.taskInProc ≠ some other → object.isIlluminationOn = false)
    · intro _
      exact off
    · intro other _
      exact inv.off other

private theorem seat_inv (manager : SensorIlluminationManager E) (executor : E)
    (task : SensorIlluminationTask) (monitor : ScreenStateMonitor) (serviceEx : ServiceExManager)
    (log : List Event) (inv : manager.Inv) (library : serviceEx.Consistent)
    (vacant : manager.taskInProc = none) (sound : task.Sound)
    (callbackSet : task.destructCallback = true) (off : task.isIlluminationOn = false) :
    ({ manager with
        executorInProc := some executor
        taskInProc := some manager.tasks.next
        serviceEx := serviceEx
        monitor := monitor
        tasks := manager.tasks.alloc task
        log := log } : SensorIlluminationManager E).Inv where
  paired := ⟨fun none => (by cases none), fun none => (by cases none)⟩
  library := library
  sessionLive := by
    intro other session
    have same := Option.some.inj session
    rw [ObjectHeap.alloc_live, ← same]
    exact Finset.mem_insert_self _ _
  referenced := by
    intro other live
    rw [isReferenced_iff]
    simp only [ObjectHeap.alloc_value]
    by_cases same : other = manager.tasks.next
    · rw [same]
      exact Or.inl rfl
    · rw [if_neg same]
      have before := Finset.mem_of_mem_insert_of_ne live same
      exact Or.inr (inv.holder before (by rw [vacant]; simp))
  heldLive := by
    apply manager.tasks.forall_alloc
      (fun other object => object.hasHolder = true →
        other ∈ insert manager.tasks.next manager.tasks.live)
    · intro _
      exact Finset.mem_insert_self _ _
    · intro other _ holder
      exact Finset.mem_insert_of_mem (inv.heldLive other holder)
  callbackSet := by
    apply manager.tasks.forall_alloc
      (fun other object => other ∈ insert manager.tasks.next manager.tasks.live →
        object.destructCallback = true)
    · intro _
      exact callbackSet
    · intro other older live
      exact inv.callbackSet other (Finset.mem_of_mem_insert_of_ne live older)
  sound := by
    apply manager.tasks.forall_alloc (fun _ object => object.Sound)
    · exact sound
    · intro other _
      exact inv.sound other
  off := by
    apply manager.tasks.forall_alloc
      (fun other object => some manager.tasks.next ≠ some other →
        object.isIlluminationOn = false)
    · intro _
      exact off
    · intro other _ _
      exact inv.off other (by rw [vacant]; simp)

private theorem open_inv (manager after : SensorIlluminationManager E) (executor : E)
    (param : EnableSensorIlluminationParam) (environment : Environment) (result : ResultCode)
    (inv : manager.Inv) (effect : OpenEffect manager executor param environment after result) :
    after.Inv := by
  have library := manager.serviceEx.acquire_consistent environment.dlopen inv.library
  cases effect with
  | busy taken => exact inv
  | notAcquired vacant closed unaccepted => exact { inv with library := library }
  | noTask vacant available unmade unaccepted => exact { inv with library := library }
  | rejected task calls vacant available made unaccepted sound off nobody asked =>
      exact discard_inv manager task _ _ _ inv library sound nobody off
  | opened task vacant accepted enabled =>
      have outcome := enabledTask_sound param environment
      have references := enabledTask_references param environment
      rw [enabled] at outcome references
      exact seat_inv manager executor task _ _ _ inv library vacant.2 outcome.1 references.2
        outcome.2

private theorem disable_dark (task : SensorIlluminationTask) (monitor : ScreenStateMonitor)
    (sound : task.Sound) :
    (task.disableSensorIllumination monitor).1.isIlluminationOn = false :=
  SensorIlluminationTask.turnOff_isIlluminationOn task sound

private theorem vacate_inv (manager : SensorIlluminationManager E) (task : TaskId)
    (inv : manager.Inv) (session : manager.taskInProc = some task)
    (holder : (manager.tasks.value task).hasHolder = true)
    (dark : (manager.tasks.value task).isIlluminationOn = false) :
    ({ manager with
        executorInProc := none
        taskInProc := none } : SensorIlluminationManager E).Inv where
  paired := iff_of_true rfl rfl
  library := inv.library
  sessionLive := by intro other none; cases none
  referenced := by
    intro other live
    rw [isReferenced_iff]
    by_cases same : other = task
    · rw [same]
      exact Or.inr holder
    · refine Or.inr (inv.holder live ?_)
      rw [session]
      intro equal
      exact same (Option.some.inj equal).symm
  heldLive := inv.heldLive
  callbackSet := inv.callbackSet
  sound := inv.sound
  off := by
    intro other _
    by_cases same : other = task
    · rw [same]
      exact dark
    · apply inv.off
      rw [session]
      intro equal
      exact same (Option.some.inj equal).symm

private theorem vacate_free_inv (manager : SensorIlluminationManager E) (task : TaskId)
    (inv : manager.Inv) (session : manager.taskInProc = some task)
    (nobody : (manager.tasks.value task).hasHolder = false)
    (dark : (manager.tasks.value task).isIlluminationOn = false) :
    ({ manager with
        executorInProc := none
        taskInProc := none
        tasks := manager.tasks.free task } : SensorIlluminationManager E).Inv where
  paired := iff_of_true rfl rfl
  library := inv.library
  sessionLive := by intro other none; cases none
  referenced := by
    intro other live
    obtain ⟨different, before⟩ := Finset.mem_erase.mp live
    rw [isReferenced_iff]
    refine Or.inr (inv.holder before ?_)
    rw [session]
    intro equal
    exact different (Option.some.inj equal).symm
  heldLive := by
    intro other holder
    refine Finset.mem_erase.mpr ⟨?_, inv.heldLive other holder⟩
    intro same
    rw [same] at holder
    exact absurd holder (by simp [nobody])
  callbackSet := by
    intro other live
    exact inv.callbackSet other (Finset.mem_of_mem_erase live)
  sound := inv.sound
  off := by
    intro other _
    by_cases same : other = task
    · rw [same]
      exact dark
    · apply inv.off
      rw [session]
      intro equal
      exact same (Option.some.inj equal).symm

private theorem end_inv (manager after : SensorIlluminationManager E) (task : TaskId)
    (inv : manager.Inv) (session : manager.taskInProc = some task)
    (effect : EndEffect manager task after) : after.Inv := by
  have live := inv.sessionLive task session
  have sound := SensorIlluminationTask.disable_sound _ manager.monitor (inv.sound task)
  have dark := disable_dark _ manager.monitor (inv.sound task)
  have callback := SensorIlluminationTask.turnOff_destructCallback (manager.tasks.value task)
  have holders := SensorIlluminationTask.disable_hasHolder (manager.tasks.value task)
    manager.monitor
  cases effect with
  | held holder =>
      have disabled := modify_inv manager task
        (fun object => (object.disableSensorIllumination manager.monitor).1)
        manager.monitor.unsubscribe
        (manager.log ++ [.call task (.disableSensorIllumination .success), .dropped task])
        inv live sound callback (Or.inl session) (fun elsewhere => absurd session elsewhere)
      apply vacate_inv _ task disabled session
      · simp only [ObjectHeap.modify_value, if_true]
        rw [holders]
        exact holder
      · simp only [ObjectHeap.modify_value, if_true]
        exact dark
  | freed nobody =>
      have stopped := modify_inv manager task
        (fun object => (object.disableSensorIllumination manager.monitor).1.stopTimer)
        manager.monitor.unsubscribe
        (manager.log ++ [.call task (.disableSensorIllumination .success), .dropped task,
          .destroyed task .caller, .release])
        inv live (SensorIlluminationTask.stopTimer_sound _ sound dark) callback (Or.inl session)
        (fun elsewhere => absurd session elsewhere)
      apply vacate_free_inv _ task stopped session
      · simp only [ObjectHeap.modify_value, if_true]
        rw [SensorIlluminationTask.stopTimer_hasHolder, holders]
        exact nobody
      · simp only [ObjectHeap.modify_value, if_true]
        exact dark

private theorem drop_inv (manager after : SensorIlluminationManager E) (task : TaskId)
    (timerId : TimerId) (inv : manager.Inv) (effect : DropEffect manager task timerId after) :
    after.Inv := by
  have sound := SensorIlluminationTask.dropSelf_sound _ timerId (inv.sound task)
  have callback := SensorIlluminationTask.step_destructCallback (manager.tasks.value task)
    (.dropSelf timerId)
  have sameLight : ((manager.tasks.value task).dropSelf timerId).isIlluminationOn =
      (manager.tasks.value task).isIlluminationOn := by
    unfold SensorIlluminationTask.dropSelf
    split <;> rfl
  cases effect with
  | elsewhere other => exact inv
  | kept returned remains =>
      have live := inv.heldLive task (holds_of_returned _ timerId returned)
      exact modify_inv manager task (fun object => object.dropSelf timerId) manager.monitor
        manager.log inv live sound callback remains
        (fun elsewhere => sameLight.trans (inv.off task elsewhere))
  | last returned live abandoned nobody =>
      have dark := sameLight.trans (inv.off task abandoned)
      exact free_inv manager task (fun object => (object.dropSelf timerId).stopTimer)
        manager.monitor.unsubscribe
        (manager.log ++ [.destroyed task .timerThread, .release]) inv
        (SensorIlluminationTask.stopTimer_sound _ sound dark)
        ((SensorIlluminationTask.stopTimer_hasHolder _).trans nobody) abandoned dark

/-! ### Every step -/

private theorem callback_inv (manager : SensorIlluminationManager E) (action : ManagerAction E)
    (task : TaskId) (taskAction : TaskAction) (inv : manager.Inv)
    (named : callbackStep action = some (task, taskAction)) (live : task ∈ manager.tasks.live) :
    ({ manager with
        tasks := manager.tasks.modify task
          (fun object => object.step taskAction) } : SensorIlluminationManager E).Inv := by
  have sound := SensorIlluminationTask.step_sound _ taskAction (inv.sound task)
  have callback := SensorIlluminationTask.step_destructCallback (manager.tasks.value task)
    taskAction
  obtain ⟨timerId, step⟩ := callbackStep_cases named
  apply modify_inv manager task _ manager.monitor manager.log inv live sound callback
  · rcases (manager.isReferenced_iff task).mp (inv.referenced task live) with session | holder
    · exact Or.inl session
    · right
      rcases step with dispatch | lockSelf | onDisplayTimeOut
      · rw [dispatch]
        exact (SensorIlluminationTask.dispatchTimer_hasHolder _ timerId).trans holder
      · rw [lockSelf]
        exact SensorIlluminationTask.lockSelf_hasHolder _ timerId holder
      · rw [onDisplayTimeOut]
        exact (SensorIlluminationTask.runDisplayTimeOut_hasHolder _ timerId).trans holder
  · intro elsewhere
    have off := inv.off task elsewhere
    rcases step with dispatch | lockSelf | onDisplayTimeOut
    · rw [dispatch]
      exact off
    · rw [lockSelf]
      simp only [SensorIlluminationTask.step, SensorIlluminationTask.lockSelf]
      split <;> exact off
    · rw [onDisplayTimeOut]
      by_cases holding : (manager.tasks.value task).timer.status timerId = .dispatched .holding
      · exact SensorIlluminationTask.runDisplayTimeOut_dark _ timerId (inv.sound task) holding
      · simp only [SensorIlluminationTask.step]
        rw [SensorIlluminationTask.runDisplayTimeOut_of_not_holding _ timerId holding]
        exact off

private theorem expired_inv (manager : SensorIlluminationManager E) (task : TaskId)
    (timerId : TimerId) (inv : manager.Inv) (dead : task ∉ manager.tasks.live) :
    ({ manager with
        tasks := manager.tasks.modify task (fun object =>
          { object with timer := object.timer.retire timerId }) } :
      SensorIlluminationManager E).Inv := by
  have abandoned : manager.taskInProc ≠ some task := fun session =>
    dead (inv.sessionLive task session)
  have off := inv.off task abandoned
  have retired : ({ manager.tasks.value task with
      timer := (manager.tasks.value task).timer.retire timerId } : SensorIlluminationTask).Sound := by
    refine SensorIlluminationTask.sound_of_timer _ ((manager.tasks.value task).timer.retire timerId)
      (inv.sound task) rfl ?_ ?_
    · intro other registered
      exact (manager.tasks.value task).timer.registered_of_retire registered
    · intro on
      rw [off] at on
      cases on
  have older : ∀ other, other ∈ manager.tasks.live → other ≠ task := by
    intro other live same
    rw [same] at live
    exact dead live
  exact
    { paired := inv.paired
      library := inv.library
      sessionLive := inv.sessionLive
      referenced := by
        intro other live
        rw [isReferenced_iff]
        simp only [ObjectHeap.modify_value, if_neg (older other live)]
        exact (manager.isReferenced_iff other).mp (inv.referenced other live)
      heldLive := by
        apply manager.tasks.forall_modify
          (fun other object => object.hasHolder = true → other ∈ manager.tasks.live) task
          (fun object => { object with timer := object.timer.retire timerId })
        · -- nobody refers to a destroyed task, and a return takes no reference
          intro holder
          obtain ⟨held, holds⟩ := (SensorIlluminationTask.hasHolder_iff _).mp holder
          have before := (manager.tasks.value task).timer.running_of_retire holds
          exact inv.heldLive task ((SensorIlluminationTask.hasHolder_iff _).mpr ⟨held, before⟩)
        · intro other _
          exact inv.heldLive other
      callbackSet := by
        intro other live
        simp only [ObjectHeap.modify_value, if_neg (older other live)]
        exact inv.callbackSet other live
      sound := by
        apply manager.tasks.forall_modify (fun _ object => object.Sound) task
          (fun object => { object with timer := object.timer.retire timerId })
        · exact retired
        · intro other _
          exact inv.sound other
      off := by
        apply manager.tasks.forall_modify
          (fun other object => manager.taskInProc ≠ some other → object.isIlluminationOn = false)
          task (fun object => { object with timer := object.timer.retire timerId })
        · intro _
          exact off
        · intro other _
          exact inv.off other }

theorem step_inv [DecidableEq E] (manager : SensorIlluminationManager E)
    (action : ManagerAction E) (inv : manager.Inv) : (manager.step action).Inv := by
  have effect := manager.step_effect action inv
  generalize manager.step action = after at effect ⊢
  cases effect with
  | idle => exact inv
  | enable executor command environment _ result named effect =>
      exact open_inv manager after executor _ environment result inv effect
  | turnOn executor command environment task named owner session =>
      exact modify_inv manager task _ manager.monitor _ inv (inv.sessionLive task session)
        (SensorIlluminationTask.turnOn_sound _ manager.monitor environment.draw (inv.sound task))
        (SensorIlluminationTask.step_destructCallback _ _) (Or.inl session)
        (fun elsewhere => absurd session elsewhere)
  | turnOff executor command environment task named owner session =>
      exact modify_inv manager task _ manager.monitor _ inv (inv.sessionLive task session)
        (SensorIlluminationTask.turnOff_sound _ (inv.sound task))
        (SensorIlluminationTask.step_destructCallback _ _) (Or.inl session)
        (fun elsewhere => absurd session elsewhere)
  | disable executor command environment task _ named owner session effect =>
      exact end_inv manager after task inv session effect
  | disconnect executor task _ owner session effect =>
      exact end_inv manager after task inv session effect
  | screen isOn =>
      exact ⟨inv.paired, inv.library, inv.sessionLive, inv.referenced, inv.heldLive,
        inv.callbackSet, inv.sound, inv.off⟩
  | callback _ task taskAction named live =>
      exact callback_inv manager action task taskAction inv named live
  | expired task timerId dead => exact expired_inv manager task timerId inv dead
  | dropSelf task timerId _ effect => exact drop_inv manager after task timerId inv effect

theorem step_log [DecidableEq E] (manager : SensorIlluminationManager E)
    (action : ManagerAction E) (inv : manager.Inv) :
    ∃ more, (manager.step action).log = manager.log ++ more := by
  have effect := manager.step_effect action inv
  generalize manager.step action = after at effect ⊢
  cases effect with
  | idle => exact ⟨[], (List.append_nil _).symm⟩
  | enable executor command environment _ result named effect =>
      cases effect with
      | busy taken => exact ⟨[], (List.append_nil _).symm⟩
      | notAcquired vacant closed unaccepted => exact ⟨_, rfl⟩
      | noTask vacant available unmade unaccepted => exact ⟨_, rfl⟩
      | rejected object calls vacant available made unaccepted sound off nobody asked =>
          exact ⟨_, rfl⟩
      | opened object vacant accepted enabled => exact ⟨_, rfl⟩
  | turnOn executor command environment task named owner session => exact ⟨_, rfl⟩
  | turnOff executor command environment task named owner session => exact ⟨_, rfl⟩
  | disable executor command environment task _ named owner session effect =>
      cases effect with
      | held holder => exact ⟨_, rfl⟩
      | freed nobody => exact ⟨_, rfl⟩
  | disconnect executor task _ owner session effect =>
      cases effect with
      | held holder => exact ⟨_, rfl⟩
      | freed nobody => exact ⟨_, rfl⟩
  | screen isOn => exact ⟨[], (List.append_nil _).symm⟩
  | callback _ task taskAction named live => exact ⟨[], (List.append_nil _).symm⟩
  | expired task timerId dead => exact ⟨[], (List.append_nil _).symm⟩
  | dropSelf task timerId _ effect =>
      cases effect with
      | elsewhere other => exact ⟨[], (List.append_nil _).symm⟩
      | kept returned remains => exact ⟨[], (List.append_nil _).symm⟩
      | last returned live abandoned nobody => exact ⟨_, rfl⟩

theorem run_log [DecidableEq E] (start : SensorIlluminationManager E)
    (actions : List (ManagerAction E)) (inv : start.Inv) :
    ∃ more, (StepMachine.run step start actions).log = start.log ++ more := by
  induction actions generalizing start with
  | nil => exact ⟨[], (List.append_nil _).symm⟩
  | cons action rest ih =>
      obtain ⟨first, one⟩ := step_log start action inv
      obtain ⟨later, others⟩ := ih (start.step action) (step_inv start action inv)
      refine ⟨first ++ later, ?_⟩
      rw [StepMachine.run_cons, others, one, List.append_assoc]

theorem run_inv_from [DecidableEq E] (start : SensorIlluminationManager E)
    (actions : List (ManagerAction E)) (inv : start.Inv) :
    (StepMachine.run step start actions).Inv :=
  (StepMachine.run_reachable step start actions).invariant Inv inv step_inv

theorem run_inv [DecidableEq E] (actions : List (ManagerAction E)) :
    (StepMachine.run step (new : SensorIlluminationManager E) actions).Inv :=
  run_inv_from new actions new_inv

/-! ### Commands that nothing stops -/

def commandOf (id : SaCommandId) : SaCommand :=
  { id := id
    param :=
      { enableSensorIllumination :=
          { centerX := 500
            centerY := 500
            radius := 200
            color := 4294967295 } } }

/-- An environment that fails nowhere, with the screen on. -/
def servingEnvironment : Environment :=
  { dlopen := true
    factory := .made
    subscribe := { subscribed := true, isScreenOn := some true }
    enable := SensorIlluminationTask.grantedEnable
    draw := SensorIlluminationTask.drawnAt 4 }

def commanded (id : SaCommandId) : ManagerAction Nat :=
  .processSaCommand (some 1) (commandOf id) servingEnvironment

end SensorIlluminationManager

end FingerprintAuth

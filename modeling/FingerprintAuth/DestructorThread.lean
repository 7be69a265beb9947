/-
On which thread a task object is destroyed.

The destructor joins the task's timer thread, so it must not run there. It does when
a callback lets the last reference go, and that happens exactly when the manager has
ended the session while the callback held a reference.
-/

import FingerprintAuth.ManagerRuns

set_option autoImplicit false

universe u

namespace FingerprintAuth

namespace SensorIlluminationManager

variable {E : Type u}

/-- The owner of the session sends `DISABLE` or disconnects. -/
def EndsSession (manager : SensorIlluminationManager E) : ManagerAction E → Prop
  | .processSaCommand (some executor) command _ =>
      command.id = .disableSensorIllumination ∧ manager.executorInProc = some executor
  | .onHdiDisconnect (some executor) => manager.executorInProc = some executor
  | _ => False

/-- A session ends only while no callback holds a reference to its task. -/
def EndsUnheld (manager : SensorIlluminationManager E) (action : ManagerAction E) : Prop :=
  manager.EndsSession action → ∀ task, manager.taskInProc = some task →
    (manager.tasks.value task).hasHolder = false

/-- No step so far has destroyed a task on its timer thread. -/
def NeverOnTimerThread (manager : SensorIlluminationManager E) : Prop :=
  ∀ task, .destroyed task .timerThread ∉ manager.log

def NoLeftover (manager : SensorIlluminationManager E) : Prop :=
  ∀ task, task ∈ manager.tasks.live → manager.taskInProc = some task

/-! ### Runs whose sessions end unheld -/

private theorem open_noLeftover (manager after : SensorIlluminationManager E) (executor : E)
    (param : EnableSensorIlluminationParam) (environment : Environment) (result : ResultCode)
    (none : manager.NoLeftover) (never : manager.NeverOnTimerThread)
    (effect : OpenEffect manager executor param environment after result) :
    after.NoLeftover ∧ after.NeverOnTimerThread := by
  cases effect with
  | busy taken => exact ⟨none, never⟩
  | notAcquired vacant closed unaccepted =>
      refine ⟨none, ?_⟩
      intro task
      simp [never task]
  | noTask vacant available unmade unaccepted =>
      refine ⟨none, ?_⟩
      intro task
      simp [never task]
  | rejected object calls vacant available made unaccepted sound off nobody asked =>
      constructor
      · intro task live
        rw [ObjectHeap.alloc_free_live] at live
        exact none task live
      · intro task
        rcases asked with noCall | ⟨callResult, failed, one⟩
        · simp [noCall, never task]
        · simp [one, never task]
  | opened object vacant accepted enabled =>
      constructor
      · intro task live
        rcases Finset.mem_insert.mp live with new | older
        · rw [new]
        · have session := none task older
          rw [vacant.2] at session
          cases session
      · intro task
        simp [never task]

private theorem end_noLeftover (manager after : SensorIlluminationManager E) (target : TaskId)
    (none : manager.NoLeftover) (never : manager.NeverOnTimerThread)
    (session : manager.taskInProc = some target)
    (unheld : (manager.tasks.value target).hasHolder = false)
    (effect : EndEffect manager target after) : after.NoLeftover ∧ after.NeverOnTimerThread := by
  cases effect with
  | held holder =>
      rw [unheld] at holder
      cases holder
  | freed nobody =>
      constructor
      · intro task live
        obtain ⟨different, before⟩ := Finset.mem_erase.mp live
        have same := none task before
        rw [session] at same
        exact absurd (Option.some.inj same).symm different
      · intro task
        simp [never task]

private theorem endsUnheld_of_finishing (manager : SensorIlluminationManager E)
    (action : ManagerAction E) (finishing : action.finishesCallback = true) :
    manager.EndsUnheld action := by
  intro ends
  cases action with
  | processSaCommand executor command environment => cases finishing
  | onHdiDisconnect executor => cases finishing
  | setScreenOn isOn => cases finishing
  | dispatch task timerId => cases finishing
  | lockSelf task timerId => exact absurd ends id
  | onDisplayTimeOut task timerId => exact absurd ends id
  | dropSelf task timerId => exact absurd ends id

def drain (task : TaskId) (timerIds : List TimerId) : List (ManagerAction E) :=
  timerIds.flatMap (fun timerId => [.onDisplayTimeOut task timerId, .dropSelf task timerId])

private theorem drain_finishes (task : TaskId) (timerIds : List TimerId) (action : ManagerAction E)
    (member : action ∈ drain task timerIds) : action.finishesCallback = true := by
  obtain ⟨timerId, _, inPair⟩ := List.mem_flatMap.mp member
  simp only [List.mem_cons, List.not_mem_nil, or_false] at inPair
  rcases inPair with same | same
  · rw [same]
    rfl
  · rw [same]
    rfl

section Runs

variable [DecidableEq E]

private theorem step_noLeftover (manager : SensorIlluminationManager E) (action : ManagerAction E)
    (inv : manager.Inv) (none : manager.NoLeftover) (never : manager.NeverOnTimerThread)
    (unheld : manager.EndsUnheld action) :
    (manager.step action).NoLeftover ∧ (manager.step action).NeverOnTimerThread := by
  have effect := manager.step_effect action inv
  generalize manager.step action = after at effect ⊢
  cases effect with
  | idle => exact ⟨none, never⟩
  | enable executor command environment _ result named effect =>
      exact open_noLeftover manager after executor _ environment result none never effect
  | turnOn executor command environment task named owner session =>
      refine ⟨none, ?_⟩
      intro other
      simp [never other]
  | turnOff executor command environment task named owner session =>
      refine ⟨none, ?_⟩
      intro other
      simp [never other]
  | disable executor command environment task _ named owner session effect =>
      exact end_noLeftover manager after task none never session
        (unheld ⟨named, owner⟩ task session) effect
  | disconnect executor task _ owner session effect =>
      exact end_noLeftover manager after task none never session (unheld owner task session) effect
  | screen isOn => exact ⟨none, never⟩
  | callback _ task taskAction named live => exact ⟨none, never⟩
  | expired task timerId dead => exact ⟨none, never⟩
  | dropSelf task timerId _ effect =>
      cases effect with
      | elsewhere other => exact ⟨none, never⟩
      | kept returned remains => exact ⟨none, never⟩
      | last returned live abandoned nobody => exact absurd (none task live) abandoned

private theorem never_of_endsUnheld (actions callbacks : List (ManagerAction E))
    (unheld : StepMachine.EachStep step EndsUnheld new actions)
    (finishing : ∀ action, action ∈ callbacks → action.finishesCallback = true) :
    (StepMachine.run step new (actions ++ callbacks)).NeverOnTimerThread := by
  have whole : StepMachine.EachStep step EndsUnheld new (actions ++ callbacks) := by
    rw [StepMachine.eachStep_append]
    refine ⟨unheld, ?_⟩
    rw [StepMachine.eachStep_iff_split]
    intro before action after split
    apply endsUnheld_of_finishing
    apply finishing
    rw [split]
    simp
  have always := StepMachine.always_of_eachStep
    (fun manager : SensorIlluminationManager E =>
      manager.Inv ∧ manager.NoLeftover ∧ manager.NeverOnTimerThread)
    (fun manager action good met =>
      ⟨step_inv manager action good.1,
        step_noLeftover manager action good.1 good.2.1 good.2.2 met⟩)
    ⟨new_inv, fun task live => absurd live (Finset.notMem_empty task),
      fun task => List.not_mem_nil⟩ whole
  exact always.last.2.2

/-! ### A session that ends while a callback holds a reference -/

private theorem destroyed_by_callback (manager : SensorIlluminationManager E)
    (action : ManagerAction E) (inv : manager.Inv) (finishing : action.finishesCallback = true)
    (task : TaskId) (live : task ∈ manager.tasks.live)
    (dead : task ∉ (manager.step action).tasks.live) :
    .destroyed task .timerThread ∈ (manager.step action).log := by
  have effect := manager.step_effect action inv
  generalize manager.step action = after at effect dead ⊢
  cases effect with
  | idle => exact absurd live dead
  | enable executor command environment _ result named effect => cases finishing
  | turnOn executor command environment target named owner session => cases finishing
  | turnOff executor command environment target named owner session => cases finishing
  | disable executor command environment target _ named owner session effect => cases finishing
  | disconnect executor target _ owner session effect => cases finishing
  | screen isOn => cases finishing
  | callback _ target taskAction named targetLive => exact absurd live dead
  | expired target timerId targetDead => exact absurd live dead
  | dropSelf target timerId _ effect =>
      cases effect with
      | elsewhere other => exact absurd live dead
      | kept returned remains => exact absurd live dead
      | last returned targetLive abandoned nobody =>
          have same : task = target := by
            by_contra different
            exact dead (Finset.mem_erase.mpr ⟨different, live⟩)
          rw [same]
          simp

private theorem destroyed_by_callbacks (manager : SensorIlluminationManager E)
    (callbacks : List (ManagerAction E)) (inv : manager.Inv)
    (finishing : ∀ action, action ∈ callbacks → action.finishesCallback = true) (task : TaskId)
    (live : task ∈ manager.tasks.live)
    (dead : task ∉ (StepMachine.run step manager callbacks).tasks.live) :
    .destroyed task .timerThread ∈ (StepMachine.run step manager callbacks).log := by
  induction callbacks generalizing manager with
  | nil => exact absurd live dead
  | cons action rest ih =>
      have invAfter := step_inv manager action inv
      have head := finishing action List.mem_cons_self
      have tail : ∀ later, later ∈ rest → later.finishesCallback = true :=
        fun later member => finishing later (List.mem_cons_of_mem _ member)
      rw [StepMachine.run_cons] at dead ⊢
      by_cases stillLive : task ∈ (manager.step action).tasks.live
      · exact ih (manager.step action) invAfter tail stillLive dead
      · have recorded := destroyed_by_callback manager action inv head task live stillLive
        obtain ⟨more, log⟩ := run_log (manager.step action) rest invAfter
        rw [log]
        exact List.mem_append_left more recorded

private theorem drain_one (manager : SensorIlluminationManager E) (task : TaskId)
    (target timerId : TimerId) (inv : manager.Inv)
    (holds : (((manager.step (.onDisplayTimeOut task target)).step
      (.dropSelf task target)).tasks.value task).Holds timerId) :
    timerId ≠ target ∧ (manager.tasks.value task).Holds timerId := by
  have ran : (manager.step (.onDisplayTimeOut task target)).tasks.value task =
      (manager.tasks.value task).runDisplayTimeOut target := by
    simp [step, onDisplayTimeOut, onTask]
  have invRan := step_inv manager (.onDisplayTimeOut task target) inv
  have effect := dropSelf_effect _ task target invRan
  have own := SensorIlluminationTask.dropSelf_own
    ((manager.tasks.value task).runDisplayTimeOut target) target
  have returned := SensorIlluminationTask.runDisplayTimeOut_returned (manager.tasks.value task)
    target
  have before := SensorIlluminationTask.runDisplayTimeOut_holds (manager.tasks.value task) target
  change (((manager.step (.onDisplayTimeOut task target)).dropSelf task target).tasks.value
    task).Holds timerId at holds
  generalize (manager.step (.onDisplayTimeOut task target)).dropSelf task target = after
    at effect holds
  have dropped : ((manager.tasks.value task).runDisplayTimeOut target).timer.status target =
      .dispatched .returned →
      (((manager.tasks.value task).runDisplayTimeOut target).dropSelf target).Holds timerId →
      timerId ≠ target ∧ (manager.tasks.value task).Holds timerId := by
    intro atReturn stillHolds
    refine ⟨?_, (before timerId).mp
      (SensorIlluminationTask.holds_of_dropSelf _ target timerId stillHolds)⟩
    intro same
    rw [same] at stillHolds
    exact own atReturn stillHolds
  cases effect with
  | elsewhere other =>
      rw [ran] at other holds
      have held := (before timerId).mp holds
      refine ⟨?_, held⟩
      intro same
      rw [same] at held
      exact other (returned held)
  | kept atReturn remains =>
      rw [ran] at atReturn
      simp only [ObjectHeap.modify_value, if_true, ran] at holds
      exact dropped atReturn holds
  | last atReturn live abandoned nobody =>
      rw [ran] at atReturn
      simp only [ObjectHeap.free_value, ObjectHeap.modify_value, if_true, ran] at holds
      exact dropped atReturn ((SensorIlluminationTask.stopTimer_holds _ timerId).mp holds)

private theorem drain_holds (manager : SensorIlluminationManager E) (task : TaskId)
    (timerIds : List TimerId) (timerId : TimerId) (inv : manager.Inv)
    (holds : ((StepMachine.run step manager (drain task timerIds)).tasks.value task).Holds timerId) :
    timerId ∉ timerIds ∧ (manager.tasks.value task).Holds timerId := by
  induction timerIds generalizing manager with
  | nil => exact ⟨List.not_mem_nil, holds⟩
  | cons head tail ih =>
      have invRan := step_inv manager (.onDisplayTimeOut task head) inv
      have invDropped := step_inv _ (.dropSelf task head) invRan
      obtain ⟨later, between⟩ := ih _ invDropped holds
      obtain ⟨different, before⟩ := drain_one manager task head timerId inv between
      exact ⟨List.not_mem_cons_of_ne_of_not_mem different later, before⟩

private theorem finishing_session (manager : SensorIlluminationManager E)
    (callbacks : List (ManagerAction E)) (inv : manager.Inv)
    (finishing : ∀ action, action ∈ callbacks → action.finishesCallback = true) :
    (StepMachine.run step manager callbacks).taskInProc = manager.taskInProc := by
  induction callbacks generalizing manager with
  | nil => rfl
  | cons action rest ih =>
      have head := finishing action List.mem_cons_self
      have others := ih (manager.step action) (step_inv manager action inv)
        (fun later member => finishing later (List.mem_cons_of_mem _ member))
      rw [StepMachine.run_cons, others]
      have effect := manager.step_effect action inv
      generalize manager.step action = after at effect ⊢
      cases effect with
      | idle => rfl
      | enable executor command environment _ result named effect => cases head
      | turnOn executor command environment target named owner session => cases head
      | turnOff executor command environment target named owner session => cases head
      | disable executor command environment target _ named owner session effect => cases head
      | disconnect executor target _ owner session effect => cases head
      | screen isOn => cases head
      | callback _ target taskAction named targetLive => rfl
      | expired target timerId targetDead => rfl
      | dropSelf target timerId _ effect => cases effect <;> rfl

theorem step_of_endsSession (manager : SensorIlluminationManager E) (action : ManagerAction E)
    (ends : manager.EndsSession action) : manager.step action = manager.endSession := by
  cases action with
  | processSaCommand executor command environment =>
      cases executor with
      | none => exact absurd ends id
      | some executor =>
          obtain ⟨named, owner⟩ := ends
          simp [step, processSaCommand, named, disableSensorIllumination, owner]
  | onHdiDisconnect executor =>
      cases executor with
      | none => exact absurd ends id
      | some executor =>
          have owner : manager.executorInProc = some executor := ends
          simp [step, onHdiDisconnect, owner]
  | setScreenOn isOn => exact absurd ends id
  | dispatch task timerId => exact absurd ends id
  | lockSelf task timerId => exact absurd ends id
  | onDisplayTimeOut task timerId => exact absurd ends id
  | dropSelf task timerId => exact absurd ends id

/-- A task abandoned while callbacks refer to it is destroyed once they have all
returned, and by the last of them. -/
private theorem drained_on_timerThread (manager : SensorIlluminationManager E) (task : TaskId)
    (inv : manager.Inv) (vacant : manager.taskInProc = none) (live : task ∈ manager.tasks.live) :
    .destroyed task .timerThread ∈
      (StepMachine.run step manager
        (drain task (List.range (manager.tasks.value task).timer.nextId))).log := by
  have finishes := drain_finishes (E := E) task
    (List.range (manager.tasks.value task).timer.nextId)
  apply destroyed_by_callbacks manager _ inv finishes task live
  intro stillLive
  have invEnd := run_inv_from manager
    (drain task (List.range (manager.tasks.value task).timer.nextId)) inv
  have stillVacant := (finishing_session manager _ inv finishes).trans vacant
  have holder := invEnd.holder stillLive (by rw [stillVacant]; simp)
  obtain ⟨timerId, holds⟩ := (SensorIlluminationTask.hasHolder_iff _).mp holder
  obtain ⟨undrained, held⟩ := drain_holds manager task _ timerId inv holds
  apply undrained
  rw [List.mem_range]
  exact OneShotTimer.lt_nextId_of_running _ held

/-- Every session ends unheld exactly when no task is ever destroyed on its timer
thread: in the run, and in each of its beginnings followed by the steps of callbacks
already dispatched. -/
theorem endsUnheld_iff_neverOnTimerThread (actions : List (ManagerAction E)) :
    StepMachine.EachStep step EndsUnheld new actions ↔
      ∀ before after, actions = before ++ after →
        ∀ callbacks, (∀ action, action ∈ callbacks → action.finishesCallback = true) →
          (StepMachine.run step new (before ++ callbacks)).NeverOnTimerThread := by
  constructor
  · intro unheld before after split callbacks finishing
    rw [split, StepMachine.eachStep_append] at unheld
    exact never_of_endsUnheld before callbacks unheld.1 finishing
  · intro never
    rw [StepMachine.eachStep_iff_split]
    intro before action after split ends task session
    rw [← Bool.not_eq_true]
    intro holder
    have inv := run_inv before
    have live := inv.sessionLive task session
    have invAfter := step_inv _ action inv
    have effect := endSession_effect _ task inv session
    rw [← step_of_endsSession _ action ends, ← StepMachine.run_snoc step] at effect
    rw [← StepMachine.run_snoc step] at invAfter
    have claimed := never (before ++ [action]) after (by rw [split]; simp)
    generalize endedAs : StepMachine.run step new (before ++ [action]) = ended
      at effect invAfter
    have abandoned : ended.taskInProc = none ∧ task ∈ ended.tasks.live := by
      cases effect with
      | held _ => exact ⟨rfl, live⟩
      | freed nobody =>
          rw [nobody] at holder
          cases holder
    have destroyed := drained_on_timerThread ended task invAfter abandoned.1 abandoned.2
    have never := claimed _ (drain_finishes task
      (List.range (ended.tasks.value task).timer.nextId)) task
    rw [StepMachine.run_append, endedAs] at never
    exact never destroyed

end Runs

/-! ### A callback that outlives its session -/

/-- The timeout's callback takes its reference before `DISABLE` and lets it go after. -/
theorem late_return_destroys_on_timerThread :
    ¬(StepMachine.run step new
      [commanded .enableSensorIllumination, commanded .turnOnSensorIllumination, .dispatch 0 1,
        .lockSelf 0 1, commanded .disableSensorIllumination, .onDisplayTimeOut 0 1,
        .dropSelf 0 1]).NeverOnTimerThread := by
  intro never
  exact never 0 (by decide)

end SensorIlluminationManager

end FingerprintAuth

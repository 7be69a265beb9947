/-
The illumination is never left on.

A lit task is the session's task, its node is attached to its screen, and the timer
that its `TurnOn` registered has yet to take the light off.
-/

import FingerprintAuth.ManagerRuns

set_option autoImplicit false

universe u

namespace FingerprintAuth

namespace SensorIlluminationManager

variable {E : Type u}

private theorem modify_lit (tasks : ObjectHeap SensorIlluminationTask) (target task : TaskId)
    (change : SensorIlluminationTask → SensorIlluminationTask)
    (off : (change (tasks.value target)).isIlluminationOn = false)
    (lit : ((tasks.modify target change).value task).isIlluminationOn = true) :
    (tasks.modify target change).value task = tasks.value task := by
  rw [ObjectHeap.modify_value] at lit ⊢
  by_cases hit : task = target
  · rw [if_pos hit, hit, off] at lit
    cases lit
  · rw [if_neg hit]

private theorem alloc_lit {tasks : ObjectHeap SensorIlluminationTask} {task : TaskId}
    {object : SensorIlluminationTask} (off : object.isIlluminationOn = false)
    (lit : ((tasks.alloc object).value task).isIlluminationOn = true) :
    (tasks.alloc object).value task = tasks.value task := by
  rw [ObjectHeap.alloc_value] at lit ⊢
  by_cases new : task = tasks.next
  · rw [if_pos new, off] at lit
    cases lit
  · rw [if_neg new]

private theorem modify_cases (tasks : ObjectHeap SensorIlluminationTask) (target task : TaskId)
    (taskAction : TaskAction) :
    (tasks.modify target (fun object => object.step taskAction)).value task =
        tasks.value task ∨
      target = task ∧
        (tasks.modify target (fun object => object.step taskAction)).value task =
          (tasks.value task).step taskAction := by
  rw [ObjectHeap.modify_value]
  by_cases same : task = target
  · rw [if_pos same]
    exact Or.inr ⟨same.symm, rfl⟩
  · rw [if_neg same]
    exact Or.inl rfl

private theorem end_lit (manager after : SensorIlluminationManager E) (target task : TaskId)
    (inv : manager.Inv) (effect : EndEffect manager target after)
    (lit : (after.tasks.value task).isIlluminationOn = true) :
    after.tasks.value task = manager.tasks.value task := by
  have dark := SensorIlluminationTask.turnOff_isIlluminationOn _ (inv.sound target)
  cases effect with
  | held holder =>
      exact modify_lit manager.tasks target task
        (fun object => (object.disableSensorIllumination manager.monitor).1) dark lit
  | freed nobody =>
      exact modify_lit manager.tasks target task
        (fun object => (object.disableSensorIllumination manager.monitor).1.stopTimer) dark lit

private theorem open_lit (manager after : SensorIlluminationManager E) (executor : E)
    (param : EnableSensorIlluminationParam) (environment : Environment) (result : ResultCode)
    (task : TaskId) (effect : OpenEffect manager executor param environment after result)
    (lit : (after.tasks.value task).isIlluminationOn = true) :
    after.tasks.value task = manager.tasks.value task := by
  cases effect with
  | busy taken => rfl
  | notAcquired vacant closed unaccepted => rfl
  | noTask vacant available unmade unaccepted => rfl
  | rejected object calls vacant available made unaccepted sound off nobody asked =>
      exact alloc_lit off lit
  | opened object vacant accepted enabled =>
      have off := (enabledTask_sound param environment).2
      rw [enabled] at off
      exact alloc_lit off lit

variable [DecidableEq E]

theorem step_lit (manager : SensorIlluminationManager E) (action : ManagerAction E)
    (inv : manager.Inv) (task : TaskId)
    (lit : ((manager.step action).tasks.value task).isIlluminationOn = true) :
    (manager.step action).tasks.value task = manager.tasks.value task ∨
      ∃ taskAction,
        (manager.step action).tasks.value task = (manager.tasks.value task).step taskAction ∧
        ((∃ monitor answer, taskAction = .turnOnSensorIllumination monitor answer) →
          ∃ executor command environment,
            action = .processSaCommand (some executor) command environment ∧
            command.id = .turnOnSensorIllumination ∧ manager.executorInProc = some executor ∧
            manager.taskInProc = some task ∧
            taskAction = .turnOnSensorIllumination manager.monitor environment.draw) := by
  have effect := manager.step_effect action inv
  generalize manager.step action = after at effect lit ⊢
  cases effect with
  | idle => exact Or.inl rfl
  | enable executor command environment _ result named effect =>
      exact Or.inl (open_lit manager after executor _ environment result task effect lit)
  | turnOn executor command environment target named owner session =>
      rcases modify_cases manager.tasks target task
        (.turnOnSensorIllumination manager.monitor environment.draw) with same | ⟨hit, changed⟩
      · exact Or.inl same
      · refine Or.inr ⟨_, changed, ?_⟩
        intro _
        rw [hit] at session
        exact ⟨executor, command, environment, rfl, named, owner, session, rfl⟩
  | turnOff executor command environment target named owner session =>
      rcases modify_cases manager.tasks target task .turnOffSensorIllumination with
        same | ⟨hit, changed⟩
      · exact Or.inl same
      · refine Or.inr ⟨_, changed, ?_⟩
        rintro ⟨monitor, answer, impossible⟩
        cases impossible
  | disable executor command environment target _ named owner session effect =>
      exact Or.inl (end_lit manager after target task inv effect lit)
  | disconnect executor target _ owner session effect =>
      exact Or.inl (end_lit manager after target task inv effect lit)
  | screen isOn => exact Or.inl rfl
  | callback _ target taskAction named live =>
      rcases modify_cases manager.tasks target task taskAction with same | ⟨hit, changed⟩
      · exact Or.inl same
      · refine Or.inr ⟨_, changed, ?_⟩
        rintro ⟨monitor, answer, same⟩
        obtain ⟨timerId, step⟩ := callbackStep_cases named
        rw [same] at step
        rcases step with impossible | impossible | impossible <;> cases impossible
  | expired target timerId dead =>
      -- a destroyed task is dark
      have off := inv.off target (fun session => dead (inv.sessionLive target session))
      exact Or.inl (modify_lit manager.tasks target task
        (fun object => { object with timer := object.timer.retire timerId }) off lit)
  | dropSelf target timerId _ effect =>
      cases effect with
      | elsewhere other => exact Or.inl rfl
      | kept returned remains =>
          rcases modify_cases manager.tasks target task (.dropSelf timerId) with same | ⟨hit, changed⟩
          · exact Or.inl same
          · refine Or.inr ⟨_, changed, ?_⟩
            rintro ⟨monitor, answer, impossible⟩
            cases impossible
      | last returned live abandoned nobody =>
          have off := inv.off target abandoned
          have dropped : ((manager.tasks.value target).dropSelf timerId).stopTimer.isIlluminationOn =
              false := by
            simp only [SensorIlluminationTask.stopTimer, SensorIlluminationTask.dropSelf, returned,
              if_true, off]
          exact Or.inl (modify_lit manager.tasks target task
            (fun object => (object.dropSelf timerId).stopTimer) dropped lit)

/-- Only a `TurnOn` of the owner lights a task, and it lights the session's. -/
theorem step_lights (manager : SensorIlluminationManager E) (action : ManagerAction E)
    (inv : manager.Inv) (task : TaskId)
    (off : (manager.tasks.value task).isIlluminationOn = false)
    (lit : ((manager.step action).tasks.value task).isIlluminationOn = true) :
    ∃ executor command environment,
      action = .processSaCommand (some executor) command environment ∧
      command.id = .turnOnSensorIllumination ∧ manager.executorInProc = some executor ∧
      manager.taskInProc = some task ∧
      (manager.step action).tasks.value task =
        ((manager.tasks.value task).turnOnSensorIllumination manager.monitor environment.draw).1 := by
  rcases step_lit manager action inv task lit with same | ⟨taskAction, changed, origin⟩
  · rw [same, off] at lit
    cases lit
  · rw [changed] at lit
    have isTurnOn := (SensorIlluminationTask.step_lights _ taskAction (inv.sound task) off lit).1
    obtain ⟨executor, command, environment, issued, named, owner, session, as⟩ := origin isTurnOn
    refine ⟨executor, command, environment, issued, named, owner, session, ?_⟩
    rw [changed, as]
    rfl

theorem step_keeps_timer (manager : SensorIlluminationManager E) (action : ManagerAction E)
    (inv : manager.Inv) (task : TaskId)
    (on : (manager.tasks.value task).isIlluminationOn = true)
    (lit : ((manager.step action).tasks.value task).isIlluminationOn = true) :
    ((manager.step action).tasks.value task).currTimerId =
        (manager.tasks.value task).currTimerId ∧
      ((manager.step action).tasks.value task).timer.nextId =
        (manager.tasks.value task).timer.nextId := by
  rcases step_lit manager action inv task lit with same | ⟨taskAction, changed, _⟩
  · rw [same]
    exact ⟨rfl, rfl⟩
  · rw [changed] at lit ⊢
    exact SensorIlluminationTask.step_keeps_timer _ taskAction (inv.sound task) on lit

theorem run_keeps_timer (start : SensorIlluminationManager E) (actions : List (ManagerAction E))
    (inv : start.Inv) (task : TaskId)
    (lit : StepMachine.Always step
      (fun manager => (manager.tasks.value task).isIlluminationOn = true) start actions) :
    ((StepMachine.run step start actions).tasks.value task).currTimerId =
        (start.tasks.value task).currTimerId ∧
      ((StepMachine.run step start actions).tasks.value task).timer.nextId =
        (start.tasks.value task).timer.nextId := by
  induction actions generalizing start with
  | nil => exact ⟨rfl, rfl⟩
  | cons action rest ih =>
      obtain ⟨on, later⟩ := lit
      have one := step_keeps_timer start action inv task on later.first
      have others := ih (start.step action) (step_inv start action inv) later
      rw [StepMachine.run_cons]
      exact ⟨others.1.trans one.1, others.2.trans one.2⟩

def NodeAttached (task : SensorIlluminationTask) : Prop :=
  ∃ node screen, task.rsSurfaceNode = some node ∧ (node, screen) ∈ task.attached

/-- A `TurnOn` of the run put the light on, the task has been lit since, and the
timer which that `TurnOn` registered, the last one registered for the task, is still
registered or has a callback that is yet to run. -/
def OwnTimeoutAhead (actions : List (ManagerAction E)) (task : TaskId) : Prop :=
  ∃ before executor command environment after,
    actions = before ++ .processSaCommand (some executor) command environment :: after ∧
    command.id = .turnOnSensorIllumination ∧
    ((StepMachine.run step new before).tasks.value task).isIlluminationOn = false ∧
    StepMachine.Always step (fun manager => (manager.tasks.value task).isIlluminationOn = true)
      ((StepMachine.run step new before).step
        (.processSaCommand (some executor) command environment)) after ∧
    ((StepMachine.run step new actions).tasks.value task).Awaited
      ((StepMachine.run step new before).tasks.value task).timer.nextId ∧
    ((StepMachine.run step new actions).tasks.value task).currTimerId =
      ((StepMachine.run step new before).tasks.value task).timer.nextId ∧
    ((StepMachine.run step new actions).tasks.value task).timer.nextId =
      ((StepMachine.run step new before).tasks.value task).timer.nextId + 1

private theorem ownTimeoutAhead (actions : List (ManagerAction E)) (task : TaskId)
    (on : ((StepMachine.run step new actions).tasks.value task).isIlluminationOn = true) :
    OwnTimeoutAhead actions task := by
  rcases StepMachine.always_or_onset
    (fun manager : SensorIlluminationManager E =>
      (manager.tasks.value task).isIlluminationOn = true) on with
    always | ⟨before, onset, after, split, absent, since⟩
  · exact absurd always.first (by simp [new, SensorIlluminationTask.new])
  · have off := Bool.eq_false_iff.mpr absent
    have invBefore := run_inv before
    have lit := since.first
    obtain ⟨executor, command, environment, issued, named, owner, session, changed⟩ :=
      step_lights _ onset invBefore task off lit
    have invLit := step_inv _ onset invBefore
    rw [changed] at lit
    have armed := SensorIlluminationTask.step_lights _
      (.turnOnSensorIllumination _ environment.draw) (invBefore.sound task) off lit
    have kept := run_keeps_timer _ after invLit task since
    have reached : StepMachine.run step ((StepMachine.run step new before).step onset) after =
        StepMachine.run step new actions := by
      rw [split, StepMachine.run_append, StepMachine.run_cons]
    rw [reached, changed] at kept
    have current := kept.1.trans armed.2.1
    have awaited := ((run_inv actions).sound task).awaited on
    rw [current] at awaited
    subst issued
    exact ⟨before, executor, command, environment, after, split, named, off, since, awaited, current,
      kept.2.trans armed.2.2⟩

/-- In every state between two operations the light is on exactly while the node is
attached, its own timeout is ahead, and it is the light of the one session. -/
theorem never_left_on (actions : List (ManagerAction E)) :
    (∀ task,
      (((StepMachine.run step new actions).tasks.value task).isIlluminationOn = true ↔
        NodeAttached ((StepMachine.run step new actions).tasks.value task)) ∧
      (((StepMachine.run step new actions).tasks.value task).isIlluminationOn = false ↔
        ((StepMachine.run step new actions).tasks.value task).attached = [])) ∧
    (∀ task, ((StepMachine.run step new actions).tasks.value task).isIlluminationOn = true →
      OwnTimeoutAhead actions task) ∧
    (∀ first second,
      ((StepMachine.run step new actions).tasks.value first).attached ≠ [] →
      ((StepMachine.run step new actions).tasks.value second).attached ≠ [] → first = second) ∧
    ((StepMachine.run step new actions).taskInProc = none →
      ∀ task, ((StepMachine.run step new actions).tasks.value task).attached = []) := by
  have inv := run_inv actions
  have attachedIsSession : ∀ task,
      ((StepMachine.run step new actions).tasks.value task).attached ≠ [] →
        (StepMachine.run step new actions).taskInProc = some task := by
    intro task attached
    by_contra elsewhere
    exact attached ((inv.sound task).dark (inv.off task elsewhere))
  refine ⟨?_, fun task on => ownTimeoutAhead actions task on, ?_, ?_⟩
  · intro task
    have sound := inv.sound task
    generalize (StepMachine.run step new actions).tasks.value task = object at sound
    constructor
    · constructor
      · intro on
        obtain ⟨node, screen, nodePresent, _, attached⟩ := sound.lit on
        exact ⟨node, screen, nodePresent, by rw [attached]; exact List.mem_singleton_self _⟩
      · rintro ⟨node, screen, _, attached⟩
        by_contra off
        rw [sound.dark (Bool.eq_false_iff.mpr off)] at attached
        exact absurd attached List.not_mem_nil
    · constructor
      · exact sound.dark
      · intro bare
        by_contra on
        obtain ⟨node, screen, _, _, attached⟩ := sound.lit (Bool.not_eq_false _ ▸ on)
        rw [bare] at attached
        cases attached
  · intro first second firstAttached secondAttached
    have firstSession := attachedIsSession first firstAttached
    have secondSession := attachedIsSession second secondAttached
    exact Option.some.inj (firstSession.symm.trans secondSession)
  · intro vacant task
    exact (inv.sound task).dark (inv.off task (by rw [vacant]; simp))

end SensorIlluminationManager

end FingerprintAuth

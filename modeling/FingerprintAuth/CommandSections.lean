/-
The sections of an `ENABLE` and the steps between them.

From the acquired library on, the rest of the command can be made in one go: the
sections read nothing that a screen event or a callback of another task writes, and
the new task has no callback yet.
-/

import FingerprintAuth.BackgroundMovers

set_option autoImplicit false

universe u

namespace FingerprintAuth

namespace SensorIlluminationManager

variable {E : Type u}

/-! ### Sections do not read the log -/

theorem dropReference_congr {first second : SensorIlluminationManager E}
    (same : first.quiet = second.quiet) (task : TaskId) :
    (first.dropReference task).quiet = (second.dropReference task).quiet := by
  rw [eq_of_quiet same, dropReference_quiet, dropReference_quiet]
  rfl

theorem getSensorIlluminationTask_congr {first second : SensorIlluminationManager E}
    (same : first.quiet = second.quiet) (environment : Environment) :
    (first.getSensorIlluminationTask environment).1.quiet =
        (second.getSensorIlluminationTask environment).1.quiet ∧
      (first.getSensorIlluminationTask environment).2 =
        (second.getSensorIlluminationTask environment).2 := by
  rw [eq_of_quiet same]
  unfold getSensorIlluminationTask
  cases first.serviceEx.handle with
  | false => exact ⟨rfl, rfl⟩
  | true => cases environment.factory <;> exact ⟨rfl, rfl⟩

theorem tryEnable_quiet (manager : SensorIlluminationManager E) (task : TaskId)
    (param : EnableSensorIlluminationParam) (environment : Environment) :
    (manager.tryEnable task param environment).1.quiet =
        { manager.quiet with
          tasks := manager.tasks.modify task
            (fun object => (object.tryEnable param environment).1) } ∧
      (manager.tryEnable task param environment).2 =
        ((manager.tasks.value task).tryEnable param environment).2 := by
  unfold tryEnable SensorIlluminationTask.tryEnable
  by_cases inX : param.centerX < maxXYValue
  case neg =>
    simp only [inX, not_false_eq_true, if_true]
    exact ⟨rfl, trivial⟩
  by_cases inY : param.centerY < maxXYValue
  case neg =>
    simp only [inX, inY, not_true_eq_false, not_false_eq_true, if_true, if_false]
    exact ⟨rfl, trivial⟩
  by_cases inRadius : param.radius < maxRadiusLen
  case neg =>
    simp only [inX, inY, inRadius, not_true_eq_false, not_false_eq_true, if_true, if_false]
    exact ⟨rfl, trivial⟩
  have written := manager.tasks.modify_const task (fun object =>
    (object.registerDestructCallback.enableSensorIllumination param.centerX param.centerY
      param.radius param.color environment.enable).1)
  simp only [inX, inY, inRadius, not_true_eq_false, if_false, onTask, ObjectHeap.modify_value,
    if_true, ObjectHeap.modify_modify, record_quiet, and_true]
  rw [written]
  rfl

theorem getSensorIlluminationTask_fresh (manager : SensorIlluminationManager E)
    (environment : Environment) (vacant : manager.taskInProc = none) :
    ∀ task, (manager.getSensorIlluminationTask environment).2 = some task →
      ((manager.getSensorIlluminationTask environment).1.tasks.value task).timer =
          OneShotTimer.new ∧
        (manager.getSensorIlluminationTask environment).1.taskInProc = none := by
  intro task
  unfold getSensorIlluminationTask
  cases manager.serviceEx.handle with
  | false => nofun
  | true =>
      cases environment.factory with
      | noSymbol => nofun
      | outOfMemory => nofun
      | setupThrows => nofun
      | made =>
          intro made
          obtain rfl : manager.tasks.next = task := Option.some.inj made
          refine ⟨?_, vacant⟩
          simp only [Bool.true_eq_false, if_false, record, ObjectHeap.alloc_value, if_true]
          rfl

theorem withTask_congr [DecidableEq E] {first second : SensorIlluminationManager E}
    (same : first.quiet = second.quiet) (executor : E)
    (operation : SensorIlluminationTask → SensorIlluminationTask × ResultCode)
    (call : ResultCode → TaskCall) :
    (first.withTask executor operation call).1.quiet =
        (second.withTask executor operation call).1.quiet ∧
      (first.withTask executor operation call).2 =
        (second.withTask executor operation call).2 := by
  rw [eq_of_quiet same]
  obtain ⟨owner, session, serviceEx, monitor, tasks, log⟩ := first
  unfold withTask
  by_cases other : owner ≠ some executor
  · simp only [if_pos other]
    exact ⟨rfl, trivial⟩
  · simp only [if_neg other]
    cases session with
    | none => exact ⟨rfl, rfl⟩
    | some task =>
        simp only
        split <;> exact ⟨rfl, rfl⟩

/-! ### The rest of an `ENABLE` in one go -/

def finishEnabled (manager : SensorIlluminationManager E) (executor : E) (task : TaskId)
    (enabled : Bool) : SensorIlluminationManager E × ResultCode :=
  if enabled then (manager.seat executor task, .success)
  else (manager.dropReference task, .generalError)

def finishEnable (manager : SensorIlluminationManager E) (executor : E) (task : TaskId)
    (param : EnableSensorIlluminationParam) (environment : Environment) :
    SensorIlluminationManager E × ResultCode :=
  (manager.tryEnable task param environment).1.finishEnabled executor task
    (manager.tryEnable task param environment).2

def finishCreate (manager : SensorIlluminationManager E) (executor : E)
    (param : EnableSensorIlluminationParam) (environment : Environment) :
    SensorIlluminationManager E × ResultCode :=
  match manager.getSensorIlluminationTask environment with
  | (manager, none) => (manager.release, .generalError)
  | (manager, some task) => manager.finishEnable executor task param environment

/-- The sections one after the other are the command. -/
theorem enableSensorIllumination_eq (manager : SensorIlluminationManager E) (executor : E)
    (param : SaCommandParam) (environment : Environment)
    (vacant : manager.executorInProc = none ∧ manager.taskInProc = none)
    (acquired : (manager.acquire environment.dlopen).2 = .success) :
    manager.enableSensorIllumination executor param environment =
      (manager.acquire environment.dlopen).1.finishCreate executor param.enableSensorIllumination
        environment := by
  unfold enableSensorIllumination finishCreate
  simp only [vacant.1, vacant.2, Option.isSome_none, Bool.false_eq_true, if_false, acquired,
    if_true]
  generalize (manager.acquire environment.dlopen).1.getSensorIlluminationTask environment = outcome
  obtain ⟨created, task⟩ := outcome
  cases task with
  | none => rfl
  | some task =>
      simp only [enableTask_eq, finishEnable, finishEnabled]
      split
      · -- the session refers to the task, so the local pointer is not the last
        refine Prod.ext ?_ rfl
        exact if_pos rfl
      · rfl

theorem finishEnabled_congr {first second : SensorIlluminationManager E}
    (same : first.quiet = second.quiet) (executor : E) (task : TaskId) (enabled : Bool) :
    (first.finishEnabled executor task enabled).1.quiet =
      (second.finishEnabled executor task enabled).1.quiet := by
  cases enabled with
  | true =>
      rw [eq_of_quiet same]
      rfl
  | false => exact dropReference_congr same task

theorem finishEnable_congr {first second : SensorIlluminationManager E}
    (same : first.quiet = second.quiet) (executor : E) (task : TaskId)
    (param : EnableSensorIlluminationParam) (environment : Environment) :
    (first.finishEnable executor task param environment).1.quiet =
        (second.finishEnable executor task param environment).1.quiet ∧
      (first.finishEnable executor task param environment).2 =
        (second.finishEnable executor task param environment).2 := by
  have inFirst := tryEnable_quiet first task param environment
  have inSecond := tryEnable_quiet second task param environment
  have tasks : first.tasks = second.tasks := by
    rw [eq_of_quiet same]
  unfold finishEnable
  rw [inFirst.2, inSecond.2, tasks]
  constructor
  · apply finishEnabled_congr
    rw [inFirst.1, inSecond.1, same, tasks]
  · unfold finishEnabled
    split <;> rfl

variable [DecidableEq E]

/-- The rest of an `ENABLE` can be moved up past a step that is none of its task's. -/
theorem finishEnabled_step (manager : SensorIlluminationManager E) (executor : E)
    (task : TaskId) (enabled : Bool) (action : ManagerAction E)
    (background : action.isCall = false) (elsewhere : action.callbackOf ≠ some task)
    (vacant : manager.taskInProc = none) :
    ((manager.step action).finishEnabled executor task enabled).1.quiet =
      ((manager.finishEnabled executor task enabled).1.step action).quiet := by
  have after := background_quiet manager action background
  have sessions : ∀ other, other ≠ task → (some task = some other ↔ none = some other) := by
    intro other different
    refine iff_of_false ?_ nofun
    intro same
    exact different (Option.some.inj same).symm
  have keeps := background_keeps manager action background
  rw [vacant] at after
  have afterTasks : (manager.step action).tasks = tasksAfter none manager.tasks action := by
    have same := congrArg SensorIlluminationManager.tasks after
    exact same
  cases enabled with
  | true =>
      have seated : ∀ other : SensorIlluminationManager E,
          (other.seat executor task).quiet = other.quiet.seat executor task := fun _ => rfl
      have tasks := tasksAfter_seated none (some task) manager.tasks task action elsewhere sessions
      have monitor := monitorAfter_elsewhere none (some task) manager.tasks task action
        manager.monitor manager.tasks elsewhere sessions (fun _ _ => rfl)
        (fun _ _ => Iff.rfl)
      simp only [finishEnabled, if_true]
      rw [background_quiet _ action background, seated, after]
      simp only [seat, tasks, monitor]
      rfl
  | false =>
      have own := tasksAfter_value none manager.tasks task action elsewhere
      have session : (manager.step action).taskInProc ≠ some task := by
        rw [keeps.2.1, vacant]
        nofun
      simp only [finishEnabled, Bool.false_eq_true, if_false]
      rw [dropReference_quiet, afterTasks]
      have dropped := dropReference_quiet manager task
      by_cases last : task ∈ manager.tasks.live ∧ (manager.tasks.value task).hasHolder = false
      · rw [if_pos ⟨session, own.2.mpr last.1, by rw [own.1]; exact last.2⟩]
        rw [if_pos ⟨by rw [vacant]; nofun, last.1, last.2⟩] at dropped
        have moved := @background_congr _ _ _ { manager with
          monitor := manager.monitor.unsubscribe
          tasks := (manager.tasks.modify task SensorIlluminationTask.stopTimer).free task }
          dropped action background
        have tasks := (tasksAfter_free none (manager.tasks.modify task
          SensorIlluminationTask.stopTimer) task action elsewhere).trans
            (congrArg (fun heap => ObjectHeap.free heap task)
              (tasksAfter_modify none none manager.tasks task action
                SensorIlluminationTask.stopTimer elsewhere (fun _ _ => Iff.rfl)))
        have others : ∀ other, other ≠ task → (other ∈ ((manager.tasks.modify task
            SensorIlluminationTask.stopTimer).free task).live ↔ other ∈ manager.tasks.live) := by
          intro other different
          simp only [ObjectHeap.free_live, ObjectHeap.modify_live, Finset.mem_erase, ne_eq,
            different, not_false_eq_true, true_and]
        have monitor := (monitorAfter_elsewhere none none manager.tasks task action
          manager.monitor.unsubscribe _ elsewhere (fun _ _ => Iff.rfl)
          (fun _ different => if_neg different) others).trans
            (monitorAfter_unsubscribe none manager.tasks action manager.monitor)
        have afterMonitor : (manager.step action).monitor =
            monitorAfter none manager.tasks manager.monitor action := by
          have same := congrArg SensorIlluminationManager.monitor after
          exact same
        rw [moved, after, afterMonitor, background_quiet _ action background]
        simp only [quiet, vacant, tasks, monitor]
      · have kept : ∀ other : SensorIlluminationManager E, other.tasks = manager.tasks →
            ¬(other.taskInProc ≠ some task ∧ task ∈ other.tasks.live ∧
              (other.tasks.value task).hasHolder = false) := by
          intro other same all
          rw [same] at all
          exact last all.2
        rw [if_neg (kept manager rfl)] at dropped
        rw [background_congr dropped action background, if_neg]
        rintro ⟨_, live, nobody⟩
        rw [own.1] at nobody
        exact last ⟨own.2.mp live, nobody⟩

theorem finishEnable_step (manager : SensorIlluminationManager E) (executor : E)
    (task : TaskId) (param : EnableSensorIlluminationParam) (environment : Environment)
    (action : ManagerAction E) (background : action.isCall = false)
    (elsewhere : action.callbackOf ≠ some task) (vacant : manager.taskInProc = none) :
    ((manager.step action).finishEnable executor task param environment).1.quiet =
        ((manager.finishEnable executor task param environment).1.step action).quiet ∧
      ((manager.step action).finishEnable executor task param environment).2 =
        (manager.finishEnable executor task param environment).2 := by
  have after := background_quiet manager action background
  have afterTasks : (manager.step action).tasks =
      tasksAfter manager.taskInProc manager.tasks action := by
    have same := congrArg SensorIlluminationManager.tasks after
    exact same
  have own := tasksAfter_value manager.taskInProc manager.tasks task action elsewhere
  have before := tryEnable_quiet manager task param environment
  have later := tryEnable_quiet (manager.step action) task param environment
  have enabled : ((manager.step action).tryEnable task param environment).2 =
      (manager.tryEnable task param environment).2 := by
    rw [later.2, before.2, afterTasks, own.1]
  have tried : ((manager.step action).tryEnable task param environment).1.quiet =
      ((manager.tryEnable task param environment).1.step action).quiet := by
    have moved := @background_congr _ _ _ { manager with
      tasks := manager.tasks.modify task (fun object => (object.tryEnable param environment).1) }
      before.1 action background
    have tasks := tasksAfter_modify manager.taskInProc manager.taskInProc manager.tasks task action
      (fun object => (object.tryEnable param environment).1) elsewhere (fun _ _ => Iff.rfl)
    have monitor := monitorAfter_elsewhere manager.taskInProc manager.taskInProc manager.tasks task
      action manager.monitor (manager.tasks.modify task
        (fun object => (object.tryEnable param environment).1)) elsewhere (fun _ _ => Iff.rfl)
      (fun _ different => if_neg different) (fun _ _ => Iff.rfl)
    rw [moved, later.1, after, afterTasks, background_quiet _ action background]
    simp only [quiet, tasks, monitor]
  have session : (manager.tryEnable task param environment).1.taskInProc = none := by
    have same := congrArg SensorIlluminationManager.taskInProc before.1
    exact same.trans vacant
  constructor
  · unfold finishEnable
    rw [enabled]
    exact (finishEnabled_congr tried executor task _).trans
      (finishEnabled_step _ executor task _ action background elsewhere session)
  · unfold finishEnable finishEnabled
    rw [enabled]
    split <;> rfl

theorem acquire_step (manager : SensorIlluminationManager E) (dlopen : Bool)
    (action : ManagerAction E) (background : action.isCall = false) :
    ((manager.acquire dlopen).1.step action).quiet =
        ((manager.step action).acquire dlopen).1.quiet ∧
      ((manager.step action).acquire dlopen).2 = (manager.acquire dlopen).2 := by
  have keeps := background_keeps manager action background
  have after := background_quiet manager action background
  have acquired : ∀ other : SensorIlluminationManager E, (other.acquire dlopen).1.quiet =
      { other.quiet with serviceEx := (other.serviceEx.acquire dlopen).1 } := fun _ => rfl
  constructor
  · rw [acquired, keeps.2.2, after, background_quiet _ action background]
    rfl
  · simp only [acquire, keeps.2.2]

end SensorIlluminationManager

end FingerprintAuth

/-
Commands of the manager are atomic.

Whatever screen events and callbacks fall between the sections of a command, the run
is one in which every command is a single step. An `ENABLE` counts as made where it
creates its task: nobody else knows the task yet, so the rest of the command can be
moved up to that point. The end of a session counts as made where it lets the task
go: up to then its sections can be moved down past the steps of callbacks.
-/

import FingerprintAuth.CommandSections

set_option autoImplicit false

universe u

namespace FingerprintAuth

namespace LockedManager

open SensorIlluminationManager

variable {E : Type u}

/-- An `ENABLE` that has created its task counts as made. What is left of it leads to
`finished`. -/
structure Made (locked : LockedManager E) (answering : AnsweringManager E) (task : TaskId)
    (finished : SensorIlluminationManager E × ResultCode) : Prop where
  manager : finished.1.quiet = answering.manager.quiet
  answers : answering.answers = locked.returned ++ [some finished.2]
  unused : (locked.manager.tasks.value task).timer = OneShotTimer.new
  vacant : locked.manager.taskInProc = none

def Ends (call : EndingCall E) (manager : SensorIlluminationManager E) : Prop :=
  ∃ executor, manager.executorInProc = some executor ∧
    (call = .disconnect executor ∨
      ∃ command environment, command.id = .disableSensorIllumination ∧
        call = .disable executor command environment)

/-- The end of a session does not count as made before it lets the task go. The
sections it has taken lead to `done`. -/
structure Pending (locked : LockedManager E) (answering : AnsweringManager E)
    (call : EndingCall E) (task : TaskId) (done : SensorIlluminationManager E) : Prop where
  manager : locked.manager.quiet = done.quiet
  answers : answering.answers = locked.returned
  session : answering.manager.taskInProc = some task
  ends : Ends call answering.manager

/-- How far the manager with sections is from the manager without. -/
def Relates (locked : LockedManager E) (answering : AnsweringManager E) :
    Option (CallInside E) → Prop
  | none => locked.manager.quiet = answering.manager.quiet ∧ answering.answers = locked.returned
  | some (.enabling executor command environment stage) =>
      match stage with
      | .acquire =>
          locked.manager.quiet = answering.manager.quiet ∧ answering.answers = locked.returned ∧
            answering.manager.executorInProc = none ∧ answering.manager.taskInProc = none ∧
            command.id = .enableSensorIllumination
      | .create =>
          locked.manager.quiet = (answering.manager.acquire environment.dlopen).1.quiet ∧
            answering.answers = locked.returned ∧
            answering.manager.executorInProc = none ∧ answering.manager.taskInProc = none ∧
            (answering.manager.acquire environment.dlopen).2 = .success ∧
            command.id = .enableSensorIllumination
      | .enable task =>
          locked.Made answering task (locked.manager.finishEnable executor task
            command.param.enableSensorIllumination environment)
      | .seat task =>
          locked.Made answering task (locked.manager.finishEnabled executor task true)
      | .discard task =>
          locked.Made answering task (locked.manager.finishEnabled executor task false)
  | some (.ending call stage) =>
      match stage with
      | .disable task =>
          locked.Pending answering call task
            { answering.manager with executorInProc := none }
      | .unsubscribe task =>
          locked.Pending answering call task
            { answering.manager with
              executorInProc := none
              tasks := answering.manager.tasks.modify task SensorIlluminationTask.disabled }
      | .drop task =>
          locked.Pending answering call task
            { answering.manager with
              executorInProc := none
              monitor := answering.manager.monitor.unsubscribe
              tasks := answering.manager.tasks.modify task SensorIlluminationTask.disabled }

structure Related (locked : LockedManager E) (answering : AnsweringManager E) : Prop where
  inv : answering.manager.Inv
  relates : locked.Relates answering locked.inside

/-! ### A step between the sections -/

private theorem relates_congr {locked : LockedManager E} {answering : AnsweringManager E}
    {manager : SensorIlluminationManager E} (same : locked.manager.quiet = manager.quiet)
    {inside : Option (CallInside E)} (relates : locked.Relates answering inside) :
    ({ locked with manager := manager } : LockedManager E).Relates answering inside := by
  have tasks : manager.tasks = locked.manager.tasks := by
    rw [eq_of_quiet same]
  have session : manager.taskInProc = locked.manager.taskInProc := by
    rw [eq_of_quiet same]
  cases inside with
  | none => exact ⟨same.symm.trans relates.1, relates.2⟩
  | some call =>
      cases call with
      | enabling executor command environment stage =>
          cases stage with
          | acquire => exact ⟨same.symm.trans relates.1, relates.2⟩
          | create => exact ⟨same.symm.trans relates.1, relates.2⟩
          | enable task =>
              have both := finishEnable_congr same executor task
                command.param.enableSensorIllumination environment
              exact
                { manager := both.1.symm.trans relates.manager
                  answers := by
                    rw [← both.2]
                    exact relates.answers
                  unused := by
                    rw [tasks]
                    exact relates.unused
                  vacant := session.trans relates.vacant }
          | seat task =>
              exact
                { manager := (finishEnabled_congr same executor task true).symm.trans
                    relates.manager
                  answers := relates.answers
                  unused := by
                    rw [tasks]
                    exact relates.unused
                  vacant := session.trans relates.vacant }
          | discard task =>
              exact
                { manager := (finishEnabled_congr same executor task false).symm.trans
                    relates.manager
                  answers := relates.answers
                  unused := by
                    rw [tasks]
                    exact relates.unused
                  vacant := session.trans relates.vacant }
      | ending call stage =>
          cases stage with
          | disable task =>
              exact ⟨same.symm.trans relates.manager, relates.answers, relates.session, relates.ends⟩
          | unsubscribe task =>
              exact ⟨same.symm.trans relates.manager, relates.answers, relates.session, relates.ends⟩
          | drop task =>
              exact ⟨same.symm.trans relates.manager, relates.answers, relates.session, relates.ends⟩

variable [DecidableEq E]

private theorem step_background {answering : AnsweringManager E} {action : ManagerAction E}
    (background : action.isCall = false) :
    answering.step action = { answering with manager := answering.manager.step action } := by
  simp only [AnsweringManager.step, background, Bool.false_eq_true, if_false]

private theorem ends_step {call : EndingCall E} {action : ManagerAction E}
    {manager : SensorIlluminationManager E}
    (background : action.isCall = false) (ends : Ends call manager) :
    Ends call (manager.step action) := by
  obtain ⟨executor, owner, rest⟩ := ends
  exact ⟨executor, (background_keeps manager action background).1.trans owner, rest⟩

private theorem made_step {locked : LockedManager E} {answering : AnsweringManager E}
    {action : ManagerAction E} (background : action.isCall = false) {task : TaskId}
    {finished after : SensorIlluminationManager E × ResultCode}
    (made : locked.Made answering task finished)
    (elsewhere : action.callbackOf ≠ some task)
    (moved : after.1.quiet = (finished.1.step action).quiet) (same : after.2 = finished.2) :
    ({ locked with manager := locked.manager.step action } : LockedManager E).Made
      { answering with manager := answering.manager.step action } task after := by
  have tasks : (locked.manager.step action).tasks =
      tasksAfter locked.manager.taskInProc locked.manager.tasks action := by
    have after := congrArg SensorIlluminationManager.tasks
      (background_quiet locked.manager action background)
    exact after
  exact
    { manager := moved.trans (background_congr made.manager action background)
      answers := by
        rw [same]
        exact made.answers
      unused := by
        rw [tasks, (tasksAfter_value _ _ task action elsewhere).1]
        exact made.unused
      vacant := (background_keeps locked.manager action background).2.1.trans made.vacant }

/-- A step between the sections can be made before the sections that do not count yet. -/
private theorem pending_step {locked : LockedManager E} {answering : AnsweringManager E}
    {action : ManagerAction E} (background : action.isCall = false) {call : EndingCall E}
    {task : TaskId} {done after : SensorIlluminationManager E}
    (pending : locked.Pending answering call task done)
    (moved : (done.step action).quiet = after.quiet) :
    ({ locked with manager := locked.manager.step action } : LockedManager E).Pending
      { answering with manager := answering.manager.step action } call task after where
  manager := (background_congr pending.manager action background).trans moved
  answers := pending.answers
  session := (background_keeps answering.manager action background).2.1.trans pending.session
  ends := ends_step background pending.ends

private theorem ended_step (manager : SensorIlluminationManager E) (action : ManagerAction E)
    (background : action.isCall = false) {monitor monitorThen : ScreenStateMonitor}
    {tasks tasksThen : ObjectHeap SensorIlluminationTask}
    (sameMonitor : monitorAfter manager.taskInProc tasks monitor action = monitorThen)
    (sameTasks : tasksAfter manager.taskInProc tasks action = tasksThen) :
    (({ manager with
        executorInProc := none
        monitor := monitor
        tasks := tasks } : SensorIlluminationManager E).step action).quiet =
      ({ manager.step action with
        executorInProc := none
        monitor := monitorThen
        tasks := tasksThen } : SensorIlluminationManager E).quiet := by
  have keeps := background_keeps manager action background
  rw [background_quiet _ action background]
  simp only [quiet, keeps.2.1, keeps.2.2, sameMonitor, sameTasks]

private theorem background_relates {locked : LockedManager E} {answering : AnsweringManager E}
    {action : ManagerAction E} (background : action.isCall = false)
    (effective : ineffective locked.manager.tasks action = false) (inv : answering.manager.Inv)
    {inside : Option (CallInside E)} (relates : locked.Relates answering inside) :
    ({ locked with manager := locked.manager.step action } : LockedManager E).Relates
      (answering.step action) inside := by
  have keeps := background_keeps answering.manager action background
  have after := background_quiet answering.manager action background
  have afterTasks : (answering.manager.step action).tasks =
      tasksAfter answering.manager.taskInProc answering.manager.tasks action := by
    have same := congrArg SensorIlluminationManager.tasks after
    exact same
  have afterMonitor : (answering.manager.step action).monitor =
      monitorAfter answering.manager.taskInProc answering.manager.tasks answering.manager.monitor
        action := by
    have same := congrArg SensorIlluminationManager.monitor after
    exact same
  rw [step_background background]
  cases inside with
  | none => exact ⟨background_congr relates.1 action background, relates.2⟩
  | some call =>
      cases call with
      | enabling executor command environment stage =>
          cases stage with
          | acquire =>
              exact ⟨background_congr relates.1 action background, relates.2.1,
                keeps.1.trans relates.2.2.1, keeps.2.1.trans relates.2.2.2.1, relates.2.2.2.2⟩
          | create =>
              have acquired := acquire_step answering.manager environment.dlopen action background
              exact ⟨(background_congr relates.1 action background).trans acquired.1, relates.2.1,
                keeps.1.trans relates.2.2.1, keeps.2.1.trans relates.2.2.2.1,
                acquired.2.trans relates.2.2.2.2.1, relates.2.2.2.2.2⟩
          | enable task =>
              have elsewhere := elsewhere_of_effective _ task action relates.unused effective
              have moved := finishEnable_step locked.manager executor task
                command.param.enableSensorIllumination environment action background elsewhere
                relates.vacant
              exact made_step background relates elsewhere moved.1 moved.2
          | seat task =>
              have elsewhere := elsewhere_of_effective _ task action relates.unused effective
              exact made_step background relates elsewhere
                (finishEnabled_step locked.manager executor task true action background elsewhere
                  relates.vacant) rfl
          | discard task =>
              have elsewhere := elsewhere_of_effective _ task action relates.unused effective
              exact made_step background relates elsewhere
                (finishEnabled_step locked.manager executor task false action background elsewhere
                  relates.vacant) rfl
      | ending call stage =>
          cases stage with
          | disable task =>
              apply pending_step background relates
              exact ended_step answering.manager action background afterMonitor.symm
                afterTasks.symm
          | unsubscribe task =>
              have live := inv.sessionLive task relates.session
              have tasks : locked.manager.tasks =
                  answering.manager.tasks.modify task SensorIlluminationTask.disabled := by
                have same := congrArg SensorIlluminationManager.tasks relates.manager
                exact same
              rw [tasks] at effective
              have moved := tasksAfter_disabled answering.manager.tasks task action live
                (inv.sound task) effective
              have monitor := monitorAfter_disabled answering.manager.tasks task action
                answering.manager.monitor
              rw [← relates.session, ← afterTasks] at moved
              rw [← relates.session, ← afterMonitor] at monitor
              apply pending_step background relates
              exact ended_step answering.manager action background monitor moved
          | drop task =>
              have live := inv.sessionLive task relates.session
              have tasks : locked.manager.tasks =
                  answering.manager.tasks.modify task SensorIlluminationTask.disabled := by
                have same := congrArg SensorIlluminationManager.tasks relates.manager
                exact same
              rw [tasks] at effective
              have moved := tasksAfter_disabled answering.manager.tasks task action live
                (inv.sound task) effective
              have monitor := (monitorAfter_disabled answering.manager.tasks task action
                answering.manager.monitor.unsubscribe).trans
                  (monitorAfter_unsubscribe (some task) answering.manager.tasks action
                    answering.manager.monitor)
              rw [← relates.session, ← afterTasks] at moved
              rw [← relates.session, ← afterMonitor] at monitor
              apply pending_step background relates
              exact ended_step answering.manager action background monitor moved

/-! ### A section of the call inside -/

private theorem enable_step {answering : AnsweringManager E} (executor : E) (command : SaCommand)
    (environment : Environment) (named : command.id = .enableSensorIllumination) :
    answering.step (.processSaCommand (some executor) command environment) =
      { manager := (answering.manager.enableSensorIllumination executor command.param
          environment).1
        answers := answering.answers ++ [some (answering.manager.enableSensorIllumination executor
          command.param environment).2] } := by
  simp only [AnsweringManager.step, ManagerAction.isCall, if_true, SensorIlluminationManager.step,
    SensorIlluminationManager.result, processSaCommand, named]

private theorem ends_step_call {answering : AnsweringManager E} {call : EndingCall E}
    (ends : Ends call answering.manager) :
    answering.step call.action =
      { manager := answering.manager.endSession
        answers := answering.answers ++ [call.answer] } := by
  obtain ⟨executor, owner, rfl | ⟨command, environment, named, rfl⟩⟩ := ends
  · simp only [AnsweringManager.step, ManagerAction.isCall, if_true,
      SensorIlluminationManager.step, SensorIlluminationManager.result, onHdiDisconnect, owner,
      ne_eq, not_true_eq_false, if_false, EndingCall.action, EndingCall.answer]
  · simp only [AnsweringManager.step, ManagerAction.isCall, if_true,
      SensorIlluminationManager.step, SensorIlluminationManager.result, processSaCommand, named,
      disableSensorIllumination, owner, ne_eq, not_true_eq_false, if_false, EndingCall.action,
      EndingCall.answer]

private theorem proceedEnable_relates {locked : LockedManager E} {answering : AnsweringManager E}
    (executor : E) (command : SaCommand) (environment : Environment) (stage : EnableStage)
    (inside : locked.inside = some (.enabling executor command environment stage))
    (relates : locked.Relates answering (some (.enabling executor command environment stage))) :
    (locked.proceedEnable executor command environment stage).Relates
      (StepMachine.run AnsweringManager.step answering locked.proceedCommits)
      (locked.proceedEnable executor command environment stage).inside := by
  unfold proceedCommits
  rw [inside]
  cases stage with
  | acquire =>
      obtain ⟨same, answers, noOwner, noSession, named⟩ := relates
      have library : locked.manager.serviceEx = answering.manager.serviceEx := by
        rw [eq_of_quiet same]
      have result : (locked.manager.acquire environment.dlopen).2 =
          (answering.manager.acquire environment.dlopen).2 := by
        simp only [acquire, library]
      have acquired : (locked.manager.acquire environment.dlopen).1.quiet =
          (answering.manager.acquire environment.dlopen).1.quiet := by
        rw [eq_of_quiet same]
        rfl
      simp only [proceedEnable]
      by_cases succeeded : (locked.manager.acquire environment.dlopen).2 = .success
      · rw [if_pos succeeded, if_pos succeeded]
        exact ⟨acquired, answers, noOwner, noSession, result ▸ succeeded, named⟩
      · rw [if_neg succeeded, if_neg succeeded]
        rw [result] at succeeded
        have refused : answering.manager.enableSensorIllumination executor command.param environment =
            ((answering.manager.acquire environment.dlopen).1, .generalError) := by
          unfold enableSensorIllumination
          simp only [noOwner, noSession, Option.isSome_none, Bool.false_eq_true, if_false,
            if_neg succeeded]
        rw [StepMachine.run_cons, StepMachine.run_nil, enable_step executor command environment named,
          refused]
        exact ⟨acquired, congrArg (· ++ [some .generalError]) answers⟩
  | create =>
      obtain ⟨same, answers, noOwner, noSession, succeeded, named⟩ := relates
      have whole := enableSensorIllumination_eq answering.manager executor command.param environment
        ⟨noOwner, noSession⟩ succeeded
      have created := getSensorIlluminationTask_congr same environment
      rw [StepMachine.run_cons, StepMachine.run_nil, enable_step executor command environment named,
        whole]
      have vacant : locked.manager.taskInProc = none := by
        rw [eq_of_quiet same.symm]
        exact noSession
      have fresh := locked.manager.getSensorIlluminationTask_fresh environment vacant
      simp only [proceedEnable, finishCreate]
      generalize locked.manager.getSensorIlluminationTask environment = fine at created fresh ⊢
      generalize (answering.manager.acquire environment.dlopen).1.getSensorIlluminationTask
        environment = coarse at created ⊢
      obtain ⟨fineManager, fineTask⟩ := fine
      obtain ⟨coarseManager, coarseTask⟩ := coarse
      simp only at created fresh
      obtain ⟨createdSame, rfl⟩ := created
      cases fineTask with
      | none => exact ⟨createdSame, congrArg (· ++ [some .generalError]) answers⟩
      | some task =>
          have finished := finishEnable_congr createdSame executor task
            command.param.enableSensorIllumination environment
          exact
            { manager := finished.1
              answers := congrArg₂ (fun list result => list ++ [some result]) answers finished.2.symm
              unused := (fresh task rfl).1
              vacant := (fresh task rfl).2 }
  | enable task =>
      have tried := tryEnable_quiet locked.manager task command.param.enableSensorIllumination
        environment
      have tasks : (locked.manager.tryEnable task command.param.enableSensorIllumination
          environment).1.tasks = locked.manager.tasks.modify task (fun object =>
            (object.tryEnable command.param.enableSensorIllumination environment).1) := by
        have same := congrArg SensorIlluminationManager.tasks tried.1
        exact same
      have session : (locked.manager.tryEnable task command.param.enableSensorIllumination
          environment).1.taskInProc = locked.manager.taskInProc := by
        have same := congrArg SensorIlluminationManager.taskInProc tried.1
        exact same
      have unused : ((locked.manager.tryEnable task command.param.enableSensorIllumination
          environment).1.tasks.value task).timer = OneShotTimer.new := by
        rw [tasks, ObjectHeap.modify_value, if_pos rfl, SensorIlluminationTask.tryEnable_timer]
        exact relates.unused
      have made : ∀ enabled, (locked.manager.tryEnable task
          command.param.enableSensorIllumination environment).2 = enabled →
          (locked.goOn (locked.manager.tryEnable task command.param.enableSensorIllumination
            environment).1 (.enabling executor command environment
              (if enabled then .seat task else .discard task))).Made answering task
            ((locked.manager.tryEnable task command.param.enableSensorIllumination
              environment).1.finishEnabled executor task enabled) := by
        intro enabled as
        subst as
        exact ⟨relates.manager, relates.answers, unused, session.trans relates.vacant⟩
      simp only [proceedEnable]
      cases enabled : (locked.manager.tryEnable task command.param.enableSensorIllumination
          environment).2 with
      | true => exact made true enabled
      | false => exact made false enabled
  | seat task => exact ⟨relates.manager, relates.answers⟩
  | discard task => exact ⟨relates.manager, relates.answers⟩

private theorem proceedEnd_relates {locked : LockedManager E} {answering : AnsweringManager E}
    (call : EndingCall E) (stage : EndStage) (inside : locked.inside = some (.ending call stage))
    (relates : locked.Relates answering (some (.ending call stage))) :
    (locked.proceedEnd call stage).Relates
      (StepMachine.run AnsweringManager.step answering locked.proceedCommits)
      (locked.proceedEnd call stage).inside := by
  unfold proceedCommits
  rw [inside]
  cases stage with
  | disable task =>
      have same := relates.manager
      refine ⟨?_, relates.answers, relates.session, relates.ends⟩
      simp only [proceedEnd, goOn, SensorIlluminationTask.disableSensorIllumination_eq_disabled]
      rw [eq_of_quiet same.symm]
      rfl
  | unsubscribe task =>
      have same := relates.manager
      refine ⟨?_, relates.answers, relates.session, relates.ends⟩
      simp only [proceedEnd, goOn]
      rw [eq_of_quiet same.symm]
      rfl
  | drop task =>
      have same := relates.manager
      rw [StepMachine.run_cons, StepMachine.run_nil, ends_step_call relates.ends]
      refine ⟨?_, congrArg (· ++ [call.answer]) relates.answers⟩
      have written := answering.manager.tasks.modify_const task SensorIlluminationTask.disabled
      simp only [proceedEnd, leave, endSession, relates.session,
        SensorIlluminationTask.disableSensorIllumination_eq_disabled,
        SensorIlluminationTask.disableSensorIllumination_monitor, onTask, written]
      apply dropReference_congr
      rw [eq_of_quiet same.symm]
      rfl

/-! ### The first section of a call -/

/-- After the first section of the call the two levels are related, the call counting as
made if that section was all of it. -/
def EntersRelated (locked : LockedManager E) (answering : AnsweringManager E)
    (call : ManagerAction E) : Prop :=
  (locked.enterUnlocked call).Relates
    (StepMachine.run AnsweringManager.step answering (locked.enterCommits call))
    (locked.enterUnlocked call).inside

section Entering

variable {locked : LockedManager E} {answering : AnsweringManager E}
  (unlocked : locked.inside = none)

include unlocked

private theorem enter_atOnce {call : ManagerAction E} (answers : answering.answers = locked.returned)
    (isCall : call.isCall = true) (after : SensorIlluminationManager E)
    (answer : Option ResultCode) (entered : locked.enterUnlocked call = locked.leave after answer)
    (members : after.quiet = (answering.manager.step call).quiet)
    (result : answering.manager.result call = answer) : EntersRelated locked answering call := by
  have commits : locked.enterCommits call = [call] := by
    simp [enterCommits, unlocked, isCall, entered, leave]
  rw [EntersRelated, commits, entered, StepMachine.run_cons, StepMachine.run_nil]
  refine ⟨members, ?_⟩
  simp only [AnsweringManager.step, isCall, if_true, result, answers, leave]

private theorem enter_goesOn {call : ManagerAction E} (manager : SensorIlluminationManager E)
    (inside : CallInside E) (entered : locked.enterUnlocked call = locked.goOn manager inside)
    (relates : (locked.goOn manager inside).Relates answering (some inside)) :
    EntersRelated locked answering call := by
  have commits : locked.enterCommits call = [] := by
    simp [enterCommits, unlocked, entered, goOn]
  rw [EntersRelated, commits, entered, StepMachine.run_nil]
  exact relates

private theorem enter_noCall {call : ManagerAction E}
    (same : locked.manager.quiet = answering.manager.quiet)
    (answers : answering.answers = locked.returned) (other : call.isCall = false)
    (entered : locked.enterUnlocked call = locked) : EntersRelated locked answering call := by
  have commits : locked.enterCommits call = [] := by
    simp [enterCommits, other]
  rw [EntersRelated, commits, entered, unlocked, StepMachine.run_nil]
  exact ⟨same, answers⟩

section Related

variable (inv : answering.manager.Inv) (same : locked.manager.quiet = answering.manager.quiet)
  (answers : answering.answers = locked.returned)

include same answers

private theorem enter_enable (executor : E) (command : SaCommand) (environment : Environment)
    (named : command.id = .enableSensorIllumination) :
    EntersRelated locked answering (.processSaCommand (some executor) command environment) := by
  have owner : locked.manager.executorInProc = answering.manager.executorInProc := by
    rw [eq_of_quiet same]
  have session : locked.manager.taskInProc = answering.manager.taskInProc := by
    rw [eq_of_quiet same]
  by_cases taken : answering.manager.executorInProc.isSome = true ∨
      answering.manager.taskInProc.isSome = true
  · have busy : answering.manager.enableSensorIllumination executor command.param environment =
        (answering.manager, .generalError) := by
      unfold enableSensorIllumination
      rcases taken with owned | seated
      · rw [if_pos owned]
      · rw [if_pos seated, ite_self]
    apply enter_atOnce unlocked answers rfl locked.manager (some .generalError)
    · simp only [enterUnlocked, named, enterEnable, owner, session]
      rcases taken with owned | seated
      · rw [if_pos owned]
      · rw [if_pos seated, ite_self]
    · simp only [SensorIlluminationManager.step, processSaCommand, named, busy]
      exact same
    · simp only [SensorIlluminationManager.result, processSaCommand, named, busy]
  · rw [not_or, Bool.not_eq_true, Bool.not_eq_true, Option.isSome_eq_false_iff,
      Option.isSome_eq_false_iff, Option.isNone_iff_eq_none, Option.isNone_iff_eq_none] at taken
    apply enter_goesOn unlocked locked.manager (.enabling executor command environment .acquire)
    · simp only [enterUnlocked, named, enterEnable, owner, session, taken.1, taken.2,
        Option.isSome_none, Bool.false_eq_true, if_false]
    · exact ⟨same, answers, taken.1, taken.2, named⟩

private theorem enter_withTask (executor : E) (command : SaCommand) (environment : Environment)
    (operation : SensorIlluminationTask → SensorIlluminationTask × ResultCode)
    (call : ResultCode → TaskCall)
    (fine : locked.enterUnlocked (.processSaCommand (some executor) command environment) =
      locked.leave (locked.manager.withTask executor operation call).1
        (some (locked.manager.withTask executor operation call).2))
    (coarse : answering.manager.processSaCommand (some executor) command environment =
      answering.manager.withTask executor operation call) :
    EntersRelated locked answering (.processSaCommand (some executor) command environment) := by
  have congr := withTask_congr same executor operation call
  apply enter_atOnce unlocked answers rfl _ _ fine
  · simp only [SensorIlluminationManager.step, coarse]
    exact congr.1
  · simp only [SensorIlluminationManager.result, coarse]
    exact congrArg some congr.2.symm

include inv

private theorem enter_ending {call : ManagerAction E} {executor : E} (endingCall : EndingCall E)
    (owned : answering.manager.executorInProc = some executor)
    (ends : Ends endingCall answering.manager)
    (entered : locked.enterUnlocked call = locked.enterEnd endingCall) :
    EntersRelated locked answering call := by
  obtain ⟨task, seated⟩ := inv.session owned
  have session : locked.manager.taskInProc = answering.manager.taskInProc := by
    rw [eq_of_quiet same]
  have enters : locked.enterEnd endingCall =
      locked.goOn { locked.manager with executorInProc := none }
        (.ending endingCall (.disable task)) := by
    simp only [enterEnd, session, seated]
  apply enter_goesOn unlocked _ _ (entered.trans enters)
  refine ⟨?_, answers, seated, ends⟩
  simp only [goOn]
  rw [eq_of_quiet same.symm]
  rfl

private theorem enter_disable (executor : E) (command : SaCommand) (environment : Environment)
    (named : command.id = .disableSensorIllumination) :
    EntersRelated locked answering (.processSaCommand (some executor) command environment) := by
  have owner : locked.manager.executorInProc = answering.manager.executorInProc := by
    rw [eq_of_quiet same]
  by_cases owned : answering.manager.executorInProc = some executor
  · apply enter_ending unlocked inv same answers (.disable executor command environment) owned
    · exact ⟨executor, owned, Or.inr ⟨command, environment, named, rfl⟩⟩
    · simp only [enterUnlocked, named, owner, owned, ne_eq, not_true_eq_false, if_false]
  · apply enter_atOnce unlocked answers rfl locked.manager (some .generalError)
    · simp only [enterUnlocked, named, owner, ne_eq, owned, not_false_eq_true, if_true]
    · simp only [SensorIlluminationManager.step, processSaCommand, named,
        disableSensorIllumination, ne_eq, owned, not_false_eq_true, if_true]
      exact same
    · simp only [SensorIlluminationManager.result, processSaCommand, named,
        disableSensorIllumination, ne_eq, owned, not_false_eq_true, if_true]

private theorem enter_disconnect (executor : E) :
    EntersRelated locked answering (.onHdiDisconnect (some executor)) := by
  have owner : locked.manager.executorInProc = answering.manager.executorInProc := by
    rw [eq_of_quiet same]
  by_cases owned : answering.manager.executorInProc = some executor
  · apply enter_ending unlocked inv same answers (.disconnect executor) owned
      ⟨executor, owned, Or.inl rfl⟩
    simp only [enterUnlocked, owner, owned, ne_eq, not_true_eq_false, if_false]
  · apply enter_atOnce unlocked answers rfl locked.manager none
    · simp only [enterUnlocked, owner, ne_eq, owned, not_false_eq_true, if_true]
    · simp only [SensorIlluminationManager.step, onHdiDisconnect, ne_eq, owned,
        not_false_eq_true, if_true]
      exact same
    · rfl

private theorem enter_processSaCommand (executor : E) (command : SaCommand)
    (environment : Environment) :
    EntersRelated locked answering (.processSaCommand (some executor) command environment) := by
  have monitor : locked.manager.monitor = answering.manager.monitor := by
    rw [eq_of_quiet same]
  cases named : command.id with
  | enableSensorIllumination =>
      exact enter_enable unlocked same answers executor command environment named
  | disableSensorIllumination =>
      exact enter_disable unlocked inv same answers executor command environment named
  | turnOnSensorIllumination =>
      apply enter_withTask unlocked same answers executor command environment
        (fun task => task.turnOnSensorIllumination answering.manager.monitor environment.draw)
        (.turnOnSensorIllumination environment.draw)
      · simp only [enterUnlocked, named, SensorIlluminationManager.turnOnSensorIllumination,
          monitor]
      · simp only [processSaCommand, named, SensorIlluminationManager.turnOnSensorIllumination]
  | turnOffSensorIllumination =>
      apply enter_withTask unlocked same answers executor command environment
        SensorIlluminationTask.turnOffSensorIllumination .turnOffSensorIllumination
      · simp only [enterUnlocked, named, SensorIlluminationManager.turnOffSensorIllumination]
      · simp only [processSaCommand, named, SensorIlluminationManager.turnOffSensorIllumination]
  | other id =>
      apply enter_atOnce unlocked answers rfl locked.manager (some .generalError)
      · simp only [enterUnlocked, named]
      · simp only [SensorIlluminationManager.step, processSaCommand, named]
        exact same
      · simp only [SensorIlluminationManager.result, processSaCommand, named]

private theorem enter_relates (call : ManagerAction E) : EntersRelated locked answering call := by
  cases call with
  | processSaCommand executor command environment =>
      cases executor with
      | none =>
          exact enter_atOnce unlocked answers rfl locked.manager (some .generalError) rfl same rfl
      | some executor =>
          exact enter_processSaCommand unlocked inv same answers executor command environment
  | onHdiDisconnect executor =>
      cases executor with
      | none => exact enter_atOnce unlocked answers rfl locked.manager none rfl same rfl
      | some executor => exact enter_disconnect unlocked inv same answers executor
  | setScreenOn isOn => exact enter_noCall unlocked same answers rfl rfl
  | dispatch task timerId => exact enter_noCall unlocked same answers rfl rfl
  | lockSelf task timerId => exact enter_noCall unlocked same answers rfl rfl
  | onDisplayTimeOut task timerId => exact enter_noCall unlocked same answers rfl rfl
  | dropSelf task timerId => exact enter_noCall unlocked same answers rfl rfl

end Related

end Entering

/-! ### Whole runs -/

private theorem run_answering_inv (answering : AnsweringManager E)
    (actions : List (ManagerAction E)) (inv : answering.manager.Inv) :
    (StepMachine.run AnsweringManager.step answering actions).manager.Inv := by
  rw [AnsweringManager.run_manager]
  exact run_inv_from answering.manager actions inv

theorem step_related {locked : LockedManager E} {answering : AnsweringManager E}
    (action : LockedAction E) (related : locked.Related answering) :
    (locked.step action).Related
      (StepMachine.run AnsweringManager.step answering (locked.commits action)) where
  inv := run_answering_inv answering _ related.inv
  relates := by
    have relates := related.relates
    cases action with
    | enter call =>
        cases unlocked : locked.inside with
        | some inside =>
            have waits : locked.step (.enter call) = locked := by
              simp [step, enter, unlocked]
            have silent : locked.commits (.enter call) = [] := by
              simp [commits, enterCommits, unlocked]
            rw [waits, silent]
            exact relates
        | none =>
            rw [unlocked] at relates
            have goes : locked.step (.enter call) = locked.enterUnlocked call := by
              simp [step, enter, unlocked]
            rw [goes]
            exact enter_relates unlocked related.inv relates.1 relates.2 call
    | proceed =>
        cases inside : locked.inside with
        | none =>
            have waits : locked.step .proceed = locked := by
              simp [step, proceed, inside]
            have silent : locked.commits .proceed = [] := by
              simp [commits, proceedCommits, inside]
            rw [waits, silent]
            exact relates
        | some call =>
            rw [inside] at relates
            cases call with
            | enabling executor command environment stage =>
                have goes : locked.step .proceed =
                    locked.proceedEnable executor command environment stage := by
                  simp [step, proceed, inside]
                rw [goes]
                exact proceedEnable_relates executor command environment stage inside relates
            | ending call stage =>
                have goes : locked.step .proceed = locked.proceedEnd call stage := by
                  simp [step, proceed, inside]
                rw [goes]
                exact proceedEnd_relates call stage inside relates
    | background action =>
        cases background : action.isCall with
        | true =>
            simp only [step, commits, background, if_true]
            exact relates
        | false =>
            simp only [step, commits, background, Bool.false_eq_true, if_false]
            cases effective : ineffective locked.manager.tasks action with
            | true =>
                exact relates_congr (ineffective_quiet locked.manager action effective).symm relates
            | false => exact background_relates background effective related.inv relates

omit [DecidableEq E] in
theorem new_related : (new : LockedManager E).Related AnsweringManager.new where
  inv := new_inv
  relates := ⟨rfl, rfl⟩

theorem run_related (actions : List (LockedAction E)) :
    (StepMachine.run step (new : LockedManager E) actions).Related
      (StepMachine.run AnsweringManager.step AnsweringManager.new
        (StepMachine.committed step commits new actions)) :=
  StepMachine.committed_related Related (fun _ _ action related => step_related action related)
    new_related actions

private theorem enterUnlocked_of_other (locked : LockedManager E) (call : ManagerAction E)
    (other : call.isCall = false) : locked.enterUnlocked call = locked := by
  cases call with
  | processSaCommand executor command environment => cases other
  | onHdiDisconnect executor => cases other
  | setScreenOn isOn => rfl
  | dispatch task timerId => rfl
  | lockSelf task timerId => rfl
  | onDisplayTimeOut task timerId => rfl
  | dropSelf task timerId => rfl

private theorem enterUnlocked_uncounted (locked : LockedManager E) (call : ManagerAction E)
    (unlocked : locked.inside = none) :
    (locked.enterUnlocked call).uncounted =
      if (locked.enterUnlocked call).inside.isSome then [call] else [] := by
  have returns : ∀ manager answer, (locked.leave manager answer).uncounted =
      if (locked.leave manager answer).inside.isSome then [call] else [] := fun _ _ => rfl
  have ends : ∀ ending : EndingCall E, ending.action = call → (locked.enterEnd ending).uncounted =
      if (locked.enterEnd ending).inside.isSome then [call] else [] := by
    rintro ending rfl
    cases session : locked.manager.taskInProc with
    | none =>
        simp only [enterEnd, session]
        exact returns _ _
    | some task => simp [enterEnd, session, goOn, uncounted]
  have still : locked.uncounted = if locked.inside.isSome then [call] else [] := by
    simp [uncounted, unlocked]
  cases call with
  | processSaCommand executor command environment =>
      cases executor with
      | none => exact returns _ _
      | some executor =>
          cases named : command.id with
          | enableSensorIllumination =>
              simp only [enterUnlocked, named, enterEnable]
              split
              · exact returns _ _
              split
              · exact returns _ _
              · rfl
          | disableSensorIllumination =>
              simp only [enterUnlocked, named]
              split
              · exact returns _ _
              · exact ends _ rfl
          | turnOnSensorIllumination =>
              simp only [enterUnlocked, named]
              exact returns _ _
          | turnOffSensorIllumination =>
              simp only [enterUnlocked, named]
              exact returns _ _
          | other id =>
              simp only [enterUnlocked, named]
              exact returns _ _
  | onHdiDisconnect executor =>
      cases executor with
      | none => exact returns _ _
      | some executor =>
          simp only [enterUnlocked]
          split
          · exact returns _ _
          · exact ends _ rfl
  | setScreenOn isOn => exact still
  | dispatch task timerId => exact still
  | lockSelf task timerId => exact still
  | onDisplayTimeOut task timerId => exact still
  | dropSelf task timerId => exact still

omit [DecidableEq E] in
private theorem proceed_counts (locked : LockedManager E) :
    locked.uncounted = locked.proceedCommits.filter ManagerAction.isCall ++
      locked.proceed.uncounted := by
  cases inside : locked.inside with
  | none => simp [proceedCommits, proceed, inside]
  | some call =>
      cases call with
      | enabling executor command environment stage =>
          cases stage with
          | acquire =>
              simp only [uncounted, proceedCommits, proceed, inside, proceedEnable]
              split
              · rfl
              · rfl
          | create =>
              simp only [uncounted, proceedCommits, proceed, inside, proceedEnable]
              generalize locked.manager.getSensorIlluminationTask environment = created
              obtain ⟨manager, task⟩ := created
              cases task <;> rfl
          | enable task =>
              simp only [uncounted, proceedCommits, proceed, inside, proceedEnable, goOn]
              generalize (locked.manager.tryEnable task _ environment).2 = enabled
              cases enabled <;> rfl
          | seat task => simp [uncounted, proceedCommits, proceed, inside, proceedEnable, leave]
          | discard task => simp [uncounted, proceedCommits, proceed, inside, proceedEnable, leave]
      | ending call stage =>
          cases stage with
          | disable task => simp [uncounted, proceedCommits, proceed, inside, proceedEnd, goOn]
          | unsubscribe task => simp [uncounted, proceedCommits, proceed, inside, proceedEnd, goOn]
          | drop task =>
              have isCall : call.action.isCall = true := by
                cases call <;> rfl
              simp [uncounted, proceedCommits, proceed, inside, proceedEnd, leave, isCall]

private theorem step_counts (locked : LockedManager E) (action : LockedAction E) :
    locked.uncounted ++ locked.enters action =
      (locked.commits action).filter ManagerAction.isCall ++ (locked.step action).uncounted := by
  cases action with
  | enter call =>
      cases unlocked : locked.inside with
      | some inside => simp [enters, commits, enterCommits, step, enter, unlocked]
      | none =>
          have nothing : locked.uncounted = [] := by
            simp [uncounted, unlocked]
          have after := enterUnlocked_uncounted locked call unlocked
          simp only [nothing, enters, commits, enterCommits, step, enter, unlocked,
            Option.isSome_none, Bool.false_eq_true, if_false, List.nil_append, after]
          cases isCall : call.isCall with
          | true => cases (locked.enterUnlocked call).inside.isSome <;> simp [isCall]
          | false =>
              simp [enterUnlocked_of_other locked call isCall, unlocked]
  | proceed =>
      simp only [enters, List.append_nil]
      exact proceed_counts locked
  | background action =>
      simp only [enters, commits, step, List.append_nil]
      cases background : action.isCall with
      | true => simp
      | false =>
          simp only [Bool.false_eq_true, if_false]
          cases ineffective locked.manager.tasks action with
          | true => rfl
          | false =>
              simp only [Bool.false_eq_true, if_false, List.filter_cons, background, List.filter_nil,
                List.nil_append]
              rfl

theorem run_counts (start : LockedManager E) (actions : List (LockedAction E)) :
    start.uncounted ++ StepMachine.committed step enters start actions =
      (StepMachine.committed step commits start actions).filter ManagerAction.isCall ++
        (StepMachine.run step start actions).uncounted := by
  induction actions generalizing start with
  | nil => simp [StepMachine.committed]
  | cons action rest ih =>
      rw [StepMachine.committed, StepMachine.committed, StepMachine.run_cons, List.filter_append,
        ← List.append_assoc, step_counts, List.append_assoc, ih, List.append_assoc]

/-- When no call is inside, the manager is what the calls and the steps between them make
of it one after the other: every call that got the lock counts once, in the order in
which they got it, the answers are the same, and so are all members. -/
theorem commands_atomic (actions : List (LockedAction E))
    (idle : (StepMachine.run step (new : LockedManager E) actions).inside = none) :
    (StepMachine.committed step commits (new : LockedManager E) actions).filter
          ManagerAction.isCall =
        StepMachine.committed step enters new actions ∧
      (StepMachine.run step (new : LockedManager E) actions).manager.quiet =
        (StepMachine.run SensorIlluminationManager.step SensorIlluminationManager.new
          (StepMachine.committed step commits new actions)).quiet ∧
      (StepMachine.run step (new : LockedManager E) actions).returned =
        (StepMachine.run AnsweringManager.step AnsweringManager.new
          (StepMachine.committed step commits new actions)).answers := by
  have counts := run_counts (new : LockedManager E) actions
  have relates := (run_related (E := E) actions).relates
  have counted : (StepMachine.run step (new : LockedManager E) actions).uncounted = [] := by
    simp [uncounted, idle]
  rw [counted, List.append_nil] at counts
  rw [idle] at relates
  have members := relates.1
  rw [AnsweringManager.run_manager] at members
  exact ⟨counts.symm, members, relates.2.symm⟩

/-- A session in which the screen goes on inside the `ENABLE` and the display timeout
gets its reference inside the `DISABLE`. -/
def disturbedSession : List (LockedAction Nat) :=
  [.enter (commanded .enableSensorIllumination), .proceed, .proceed,
    .background (.setScreenOn true), .proceed, .proceed,
    .enter (commanded .turnOnSensorIllumination), .background (.dispatch 0 1),
    .enter (commanded .disableSensorIllumination), .proceed, .background (.lockSelf 0 1), .proceed,
    .proceed, .background (.onDisplayTimeOut 0 1), .background (.dropSelf 0 1)]

theorem commands_atomic_when_disturbed :
    (StepMachine.run step new disturbedSession).manager.quiet =
        (StepMachine.run SensorIlluminationManager.step SensorIlluminationManager.new
          (StepMachine.committed step commits new disturbedSession)).quiet ∧
      (StepMachine.run step new disturbedSession).returned =
        (StepMachine.run AnsweringManager.step AnsweringManager.new
          (StepMachine.committed step commits new disturbedSession)).answers :=
  (commands_atomic disturbedSession rfl).2

/-- The task is destroyed by its callback, after the session has ended. -/
example :
    (StepMachine.run step new disturbedSession).manager.log.getLast? = some .release ∧
      .destroyed 0 .timerThread ∈ (StepMachine.run step new disturbedSession).manager.log ∧
      (StepMachine.run step new disturbedSession).returned =
        [some .success, some .success, some .success] := by decide

end LockedManager

end FingerprintAuth

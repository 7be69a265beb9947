/-
The render service over whole runs of the manager.

Whatever the commands, disconnects and callbacks do in whatever order, no operation
follows a null pointer, and after each of them the render service shows what the
tasks believe to be shown.
-/

import FingerprintAuth.RenderAgreement

set_option autoImplicit false

universe u

namespace FingerprintAuth

namespace SensorIlluminationManager

variable {E : Type u}

theorem enableCalls_eq (manager : SensorIlluminationManager E)
    (param : EnableSensorIlluminationParam) (environment : Environment)
    (library : manager.serviceEx.Consistent) :
    manager.enableCalls param environment =
      if manager.executorInProc = none ∧ manager.taskInProc = none ∧
          (manager.serviceEx.isOpened || environment.dlopen) = true ∧
          environment.factory = .made ∧ param.centerX < maxXYValue ∧ param.centerY < maxXYValue ∧
          param.radius < maxRadiusLen then
        SensorIlluminationTask.new.registerDestructCallback.enableSensorIlluminationCalls
          param.centerX param.centerY param.radius param.color environment.enable
      else some [] := by
  have acquired := manager.serviceEx.acquire_success_iff environment.dlopen
  have handle := manager.serviceEx.acquire_handle environment.dlopen library
  unfold enableCalls
  cases manager.executorInProc with
  | some owner => simp
  | none =>
      cases manager.taskInProc with
      | some session => simp
      | none =>
          by_cases available : (manager.serviceEx.isOpened || environment.dlopen) = true
          · have succeeded := acquired.mpr available
            have opened := handle succeeded
            simp only [acquire, record, succeeded, if_true, getSensorIlluminationTask, opened,
              Bool.true_eq_false, if_false]
            cases environment.factory with
            | noSymbol => simp
            | outOfMemory => simp
            | setupThrows => simp
            | made =>
                by_cases inX : param.centerX < maxXYValue
                · by_cases inY : param.centerY < maxXYValue
                  · by_cases inRadius : param.radius < maxRadiusLen
                    · simp [available, inX, inY, inRadius]
                    · simp [inX, inY, inRadius]
                  · simp [inX, inY]
                · simp [inX]
          · have failed : (manager.serviceEx.acquire environment.dlopen).2 ≠ .success := by
              rw [ne_eq, acquired]
              exact available
            simp [acquire, record, failed, available]

end SensorIlluminationManager

namespace RenderedManager

variable {E : Type u}

/-- A live task agrees with what has arrived, and a destroyed one has left nothing
attached. -/
structure Inv (rendered : RenderedManager E) : Prop where
  manager : rendered.manager.Inv
  safe : rendered.followedNull = false
  unborn : ∀ task, rendered.manager.tasks.next ≤ task → rendered.views task = RenderView.new
  agrees : ∀ task, task ∈ rendered.manager.tasks.live →
    (rendered.views task).Agrees (rendered.manager.tasks.value task)
  detached : ∀ task, task ∉ rendered.manager.tasks.live →
    (rendered.views task).nodes.told.attached = []

theorem new_inv : (new : RenderedManager E).Inv where
  manager := SensorIlluminationManager.new_inv
  safe := rfl
  unborn := fun _ _ => rfl
  agrees := fun task live => absurd live (Finset.notMem_empty task)
  detached := fun _ _ => rfl

theorem deliverTo_nil (views : TaskId → RenderView) (target : TaskId) :
    deliverTo views target [] = views := by
  funext task
  unfold deliverTo
  split <;> rfl

/-! ### One task's step, and a new task -/

/-- The rule of a step that concerns one task born before. -/
private theorem target_inv {rendered : RenderedManager E} (inv : rendered.Inv) (target : TaskId)
    (calls : List RenderCall) (after : SensorIlluminationManager E) (afterInv : after.Inv)
    (next : after.tasks.next = rendered.manager.tasks.next)
    (born : calls = [] ∨ target < rendered.manager.tasks.next)
    (others : ∀ task, task ≠ target →
      after.tasks.value task = rendered.manager.tasks.value task ∧
        (task ∈ after.tasks.live ↔ task ∈ rendered.manager.tasks.live))
    (own : target ∈ after.tasks.live →
      ((rendered.views target).deliver calls).Agrees (after.tasks.value target))
    (ownDetached : target ∉ after.tasks.live →
      ((rendered.views target).deliver calls).nodes.told.attached = []) :
    ({ rendered with
        manager := after
        views := deliverTo rendered.views target calls } : RenderedManager E).Inv where
  manager := afterInv
  safe := inv.safe
  unborn := by
    intro task late
    simp only [next] at late
    simp only [deliverTo]
    by_cases same : task = target
    · rcases born with none_ | older
      · rw [if_pos same, none_]
        exact inv.unborn task late
      · rw [same] at late
        exact absurd older (Nat.not_lt.mpr late)
    · rw [if_neg same]
      exact inv.unborn task late
  agrees := by
    intro task live
    simp only [deliverTo]
    by_cases same : task = target
    · subst same
      rw [if_pos rfl]
      exact own live
    · rw [if_neg same]
      simp only [(others task same).1]
      exact inv.agrees task ((others task same).2.mp live)
  detached := by
    intro task dead
    simp only [deliverTo]
    by_cases same : task = target
    · subst same
      rw [if_pos rfl]
      exact ownDetached dead
    · rw [if_neg same]
      exact inv.detached task (fun live => dead ((others task same).2.mpr live))

/-- The rule of a step that creates a task, whether or not the task survives it. -/
private theorem create_inv {rendered : RenderedManager E} (inv : rendered.Inv)
    (calls : List RenderCall) (after : SensorIlluminationManager E) (afterInv : after.Inv)
    (next : after.tasks.next = rendered.manager.tasks.next + 1)
    (others : ∀ task, task ≠ rendered.manager.tasks.next →
      after.tasks.value task = rendered.manager.tasks.value task ∧
        (task ∈ after.tasks.live ↔ task ∈ rendered.manager.tasks.live))
    (own : rendered.manager.tasks.next ∈ after.tasks.live →
      (RenderView.new.deliver calls).Agrees (after.tasks.value rendered.manager.tasks.next))
    (ownDetached : (RenderView.new.deliver calls).nodes.told.attached = []) :
    ({ rendered with
        manager := after
        views := deliverTo rendered.views rendered.manager.tasks.next calls } :
      RenderedManager E).Inv where
  manager := afterInv
  safe := inv.safe
  unborn := by
    intro task late
    simp only [next] at late
    simp only [deliverTo]
    have older : task ≠ rendered.manager.tasks.next := Nat.ne_of_gt late
    rw [if_neg older]
    exact inv.unborn task (Nat.le_of_lt late)
  agrees := by
    intro task live
    simp only [deliverTo]
    by_cases same : task = rendered.manager.tasks.next
    · subst same
      rw [if_pos rfl, inv.unborn _ le_rfl]
      exact own live
    · rw [if_neg same]
      simp only [(others task same).1]
      exact inv.agrees task ((others task same).2.mp live)
  detached := by
    intro task dead
    simp only [deliverTo]
    by_cases same : task = rendered.manager.tasks.next
    · subst same
      rw [if_pos rfl, inv.unborn _ le_rfl]
      exact ownDetached
    · rw [if_neg same]
      exact inv.detached task (fun live => dead ((others task same).2.mpr live))

/-! ### Every step -/

variable [DecidableEq E]

theorem step_of_calls (rendered : RenderedManager E) {action : ManagerAction E} {target : TaskId}
    {calls : List RenderCall} (made : rendered.manager.renderCalls action = some (target, some calls)) :
    rendered.step action =
      { rendered with
        manager := rendered.manager.step action
        views := deliverTo rendered.views target calls } := by
  simp only [step, made]

theorem step_of_silent (rendered : RenderedManager E) {action : ManagerAction E} (target : TaskId)
    (silent : rendered.manager.renderCalls action = none) :
    rendered.step action =
      { rendered with
        manager := rendered.manager.step action
        views := deliverTo rendered.views target [] } := by
  simp only [step, silent, deliverTo_nil]

private theorem session_inv {rendered : RenderedManager E} (inv : rendered.Inv)
    {action : ManagerAction E} (task : TaskId) (calls : List RenderCall)
    (change : SensorIlluminationTask → SensorIlluminationTask)
    (session : rendered.manager.taskInProc = some task)
    (made : rendered.manager.renderCalls action = some (task, some calls))
    (changed : (rendered.manager.step action).tasks = rendered.manager.tasks.modify task change)
    (own : ((rendered.views task).deliver calls).Agrees
      (change (rendered.manager.tasks.value task))) :
    (rendered.step action).Inv := by
  have live := inv.manager.sessionLive task session
  have afterInv := SensorIlluminationManager.step_inv rendered.manager action inv.manager
  rw [step_of_calls rendered made]
  apply target_inv inv task calls _ afterInv
  · rw [changed]
    rfl
  · exact Or.inr (rendered.manager.tasks.bounded task live)
  · intro other different
    rw [changed, ObjectHeap.modify_value, if_neg different]
    exact ⟨rfl, Iff.rfl⟩
  · intro _
    rw [changed, ObjectHeap.modify_value, if_pos rfl]
    exact own
  · intro dead
    rw [changed] at dead
    exact absurd live dead

private theorem end_inv {rendered : RenderedManager E} (inv : rendered.Inv)
    {action : ManagerAction E} (task : TaskId)
    (session : rendered.manager.taskInProc = some task)
    (made : rendered.manager.renderCalls action =
      some (task, (rendered.manager.tasks.value task).disableSensorIlluminationCalls))
    (effect : SensorIlluminationManager.EndEffect rendered.manager task
      (rendered.manager.step action)) :
    (rendered.step action).Inv := by
  have live := inv.manager.sessionLive task session
  have sound := inv.manager.sound task
  have afterInv := SensorIlluminationManager.step_inv rendered.manager action inv.manager
  obtain ⟨calls, called, agrees⟩ := SensorIlluminationTask.disable_agrees
    (rendered.manager.tasks.value task) rendered.manager.monitor (rendered.views task) sound
    (inv.agrees task live)
  rw [called] at made
  have dark : ((rendered.manager.tasks.value task).disableSensorIllumination
      rendered.manager.monitor).1.attached = [] :=
    (SensorIlluminationTask.disable_sound _ rendered.manager.monitor sound).dark
      (SensorIlluminationTask.turnOff_isIlluminationOn _ sound)
  rw [step_of_calls rendered made]
  have born := Or.inr (a := calls = []) (rendered.manager.tasks.bounded task live)
  generalize rendered.manager.step action = after at effect afterInv ⊢
  cases effect with
  | held holder =>
      apply target_inv inv task calls _ afterInv rfl born
      · intro other different
        exact ⟨if_neg different, Iff.rfl⟩
      · intro _
        simp only [ObjectHeap.modify_value, if_true]
        exact agrees
      · intro dead
        exact absurd live dead
  | freed nobody =>
      apply target_inv inv task calls _ afterInv rfl born
      · intro other different
        refine ⟨if_neg different, ?_⟩
        simp only [ObjectHeap.free_live, ObjectHeap.modify_live, Finset.mem_erase, different,
          ne_eq, not_false_eq_true, true_and]
      · intro still
        exact absurd still (Finset.notMem_erase _ _)
      · intro _
        exact agrees.attached.trans dark

private theorem enabledTask_agrees (param : EnableSensorIlluminationParam)
    (environment : Environment) :
    ∃ calls, SensorIlluminationTask.new.registerDestructCallback.enableSensorIlluminationCalls
        param.centerX param.centerY param.radius param.color environment.enable = some calls ∧
      (RenderView.new.deliver calls).nodes.told.attached = [] ∧
      ((SensorIlluminationManager.enabledTask param environment).2 = .success →
        (RenderView.new.deliver calls).Agrees
          (SensorIlluminationManager.enabledTask param environment).1) :=
  SensorIlluminationTask.enable_agrees SensorIlluminationTask.new.registerDestructCallback
    param.centerX param.centerY param.radius param.color environment.enable rfl rfl rfl

private theorem enable_inv {rendered : RenderedManager E} (inv : rendered.Inv) (executor : E)
    (command : SaCommand) (environment : Environment)
    (named : command.id = .enableSensorIllumination) :
    (rendered.step (.processSaCommand (some executor) command environment)).Inv := by
  have afterInv := SensorIlluminationManager.step_inv rendered.manager
    (.processSaCommand (some executor) command environment) inv.manager
  have effect := rendered.manager.enableSensorIllumination_effect executor command.param
    environment inv.manager
  have enabling : rendered.manager.step (.processSaCommand (some executor) command environment) =
      (rendered.manager.enableSensorIllumination executor command.param environment).1 := by
    simp only [SensorIlluminationManager.step, SensorIlluminationManager.processSaCommand, named]
  have calling : rendered.manager.renderCalls
      (.processSaCommand (some executor) command environment) = some (rendered.manager.tasks.next,
        rendered.manager.enableCalls command.param.enableSensorIllumination environment) := by
    simp only [SensorIlluminationManager.renderCalls, named]
  rw [SensorIlluminationManager.enableCalls_eq _ _ _ inv.manager.library] at calling
  obtain ⟨calls, made, bare, agrees⟩ := enabledTask_agrees command.param.enableSensorIllumination
    environment
  have notLive := rendered.manager.tasks.next_notMem_live
  rw [← enabling] at effect
  generalize afterAs : rendered.manager.step
    (.processSaCommand (some executor) command environment) = after at effect afterInv
  generalize (rendered.manager.enableSensorIllumination executor command.param environment).2 =
    result at effect
  -- a step that creates no task makes no call
  have uncreated : (tasks : after.tasks = rendered.manager.tasks) →
      (calling : rendered.manager.renderCalls
        (.processSaCommand (some executor) command environment) =
          some (rendered.manager.tasks.next, some [])) →
      (rendered.step (.processSaCommand (some executor) command environment)).Inv := by
    intro tasks calling
    rw [step_of_calls rendered calling, afterAs]
    apply target_inv inv rendered.manager.tasks.next [] after afterInv
    · rw [tasks]
    · exact Or.inl rfl
    · intro task _
      rw [tasks]
      exact ⟨rfl, Iff.rfl⟩
    · intro live
      rw [tasks] at live
      exact absurd live notLive
    · intro _
      exact inv.detached _ notLive
  cases effect with
  | busy taken =>
      apply uncreated rfl
      rw [calling, if_neg]
      rintro ⟨noOwner, noSession, _⟩
      rcases taken with owner | session
      · exact owner noOwner
      · exact session noSession
  | notAcquired vacant closed unaccepted =>
      apply uncreated rfl
      rw [calling, if_neg]
      rintro ⟨_, _, available, _⟩
      rw [closed] at available
      cases available
  | noTask vacant available unmade unaccepted =>
      apply uncreated rfl
      rw [calling, if_neg]
      rintro ⟨_, _, _, factory, _⟩
      exact unmade factory
  | rejected task called vacant available factory unaccepted sound off nobody asked =>
      have others : ∀ other, other ≠ rendered.manager.tasks.next →
          ((rendered.manager.tasks.alloc task).free rendered.manager.tasks.next).value other =
              rendered.manager.tasks.value other ∧
            (other ∈ ((rendered.manager.tasks.alloc task).free
                rendered.manager.tasks.next).live ↔ other ∈ rendered.manager.tasks.live) := by
        intro other different
        rw [ObjectHeap.alloc_free_live]
        exact ⟨if_neg different, Iff.rfl⟩
      have discarded : rendered.manager.tasks.next ∉
          ((rendered.manager.tasks.alloc task).free rendered.manager.tasks.next).live := by
        rw [ObjectHeap.alloc_free_live]
        exact notLive
      split at calling
      · rw [made] at calling
        rw [step_of_calls rendered calling, afterAs]
        exact create_inv inv calls _ afterInv rfl others (fun live => absurd live discarded) bare
      · rw [step_of_calls rendered calling, afterAs]
        exact create_inv inv [] _ afterInv rfl others (fun live => absurd live discarded) rfl
  | opened task vacant accepted enabled =>
      have inRange := accepted
      simp only [SensorIlluminationManager.enableAccepted, Bool.and_eq_true, beq_iff_eq,
        decide_eq_true_eq] at inRange
      obtain ⟨⟨⟨⟨⟨available, factory⟩, inX⟩, inY⟩, inRadius⟩, _⟩ := inRange
      rw [if_pos ⟨vacant.1, vacant.2, available, factory, inX, inY, inRadius⟩, made] at calling
      rw [enabled] at agrees
      rw [step_of_calls rendered calling, afterAs]
      apply create_inv inv calls _ afterInv rfl
      · intro other different
        refine ⟨if_neg different, ?_⟩
        simp only [ObjectHeap.alloc_live, Finset.mem_insert, different, false_or]
      · intro _
        simp only [ObjectHeap.alloc_value, if_true]
        exact agrees rfl
      · exact bare

private theorem timer_inv {rendered : RenderedManager E} (inv : rendered.Inv)
    {action : ManagerAction E} (target : TaskId)
    (silent : rendered.manager.renderCalls action = none)
    (next : (rendered.manager.step action).tasks.next = rendered.manager.tasks.next)
    (others : ∀ task, task ≠ target →
      (rendered.manager.step action).tasks.value task = rendered.manager.tasks.value task ∧
        (task ∈ (rendered.manager.step action).tasks.live ↔
          task ∈ rendered.manager.tasks.live))
    (fewer : target ∈ (rendered.manager.step action).tasks.live →
      target ∈ rendered.manager.tasks.live)
    (timer : ∃ timer, (rendered.manager.step action).tasks.value target =
      { rendered.manager.tasks.value target with timer := timer })
    (dark : target ∈ rendered.manager.tasks.live →
      target ∉ (rendered.manager.step action).tasks.live →
      (rendered.manager.tasks.value target).isIlluminationOn = false) :
    (rendered.step action).Inv := by
  have afterInv := SensorIlluminationManager.step_inv rendered.manager action inv.manager
  rw [step_of_silent rendered target silent]
  apply target_inv inv target [] _ afterInv next (Or.inl rfl) others
  · intro live
    obtain ⟨timer, changed⟩ := timer
    rw [changed]
    exact (inv.agrees target (fewer live)).congr rfl rfl rfl rfl rfl rfl
  · intro dead
    by_cases live : target ∈ rendered.manager.tasks.live
    · exact (inv.agrees target live).attached.trans
        ((inv.manager.sound target).dark (dark live dead))
    · exact inv.detached target live

private theorem lockSelf_timer (task : SensorIlluminationTask) (timerId : TimerId) :
    ∃ timer, task.lockSelf timerId = { task with timer := timer } := by
  unfold SensorIlluminationTask.lockSelf
  split
  · exact ⟨_, rfl⟩
  · exact ⟨task.timer, rfl⟩

private theorem dropSelf_timer (task : SensorIlluminationTask) (timerId : TimerId) :
    ∃ timer, task.dropSelf timerId = { task with timer := timer } := by
  unfold SensorIlluminationTask.dropSelf
  split
  · exact ⟨_, rfl⟩
  · exact ⟨task.timer, rfl⟩

private theorem idle_inv {rendered : RenderedManager E} (inv : rendered.Inv)
    {action : ManagerAction E} (silent : rendered.manager.renderCalls action = none)
    (tasks : (rendered.manager.step action).tasks = rendered.manager.tasks) :
    (rendered.step action).Inv := by
  have afterInv := SensorIlluminationManager.step_inv rendered.manager action inv.manager
  rw [step_of_silent rendered 0 silent, deliverTo_nil]
  exact
    { manager := afterInv
      safe := inv.safe
      unborn := by
        simp only [tasks]
        exact inv.unborn
      agrees := by
        simp only [tasks]
        exact inv.agrees
      detached := by
        simp only [tasks]
        exact inv.detached }

private theorem modify_timer_inv {rendered : RenderedManager E} (inv : rendered.Inv)
    {action : ManagerAction E} (target : TaskId)
    (change : SensorIlluminationTask → SensorIlluminationTask)
    (silent : rendered.manager.renderCalls action = none)
    (changed : (rendered.manager.step action).tasks = rendered.manager.tasks.modify target change)
    (timer : ∃ timer, change (rendered.manager.tasks.value target) =
      { rendered.manager.tasks.value target with timer := timer }) :
    (rendered.step action).Inv := by
  apply timer_inv inv target silent
  · rw [changed]
    rfl
  · intro task different
    rw [changed]
    exact ⟨if_neg different, Iff.rfl⟩
  · rw [changed]
    exact id
  · rw [changed, ObjectHeap.modify_value, if_pos rfl]
    exact timer
  · intro live dead
    rw [changed] at dead
    exact absurd live dead

private theorem dropSelf_inv {rendered : RenderedManager E} (inv : rendered.Inv) (task : TaskId)
    (timerId : TimerId) : (rendered.step (.dropSelf task timerId)).Inv := by
  have effect := rendered.manager.dropSelf_effect task timerId inv.manager
  have dropping : rendered.manager.step (.dropSelf task timerId) =
      rendered.manager.dropSelf task timerId := rfl
  generalize rendered.manager.dropSelf task timerId = after at effect dropping
  cases effect with
  | elsewhere other =>
      apply idle_inv inv rfl
      rw [dropping]
  | kept returned remains =>
      apply modify_timer_inv inv task (fun object => object.dropSelf timerId) rfl
      · rw [dropping]
      · exact dropSelf_timer _ timerId
  | last returned live abandoned nobody =>
      apply timer_inv inv task rfl
      · rw [dropping]
        rfl
      · intro other different
        rw [dropping]
        refine ⟨if_neg different, ?_⟩
        simp only [ObjectHeap.free_live, ObjectHeap.modify_live, Finset.mem_erase, different,
          ne_eq, not_false_eq_true, true_and]
      · intro _
        exact live
      · obtain ⟨timer, changed⟩ := dropSelf_timer (rendered.manager.tasks.value task) timerId
        refine ⟨(timer.unregister (rendered.manager.tasks.value task).currTimerId).shutdown, ?_⟩
        rw [dropping]
        simp only [ObjectHeap.free_value, ObjectHeap.modify_value, if_true, changed,
          SensorIlluminationTask.stopTimer]
      · intro _ _
        exact inv.manager.off task abandoned

private theorem onDisplayTimeOut_inv {rendered : RenderedManager E} (inv : rendered.Inv)
    (task : TaskId) (timerId : TimerId) :
    (rendered.step (.onDisplayTimeOut task timerId)).Inv := by
  by_cases holding : (rendered.manager.tasks.value task).timer.status timerId = .dispatched .holding
  · have live : task ∈ rendered.manager.tasks.live := by
      apply inv.manager.heldLive task
      exact (SensorIlluminationTask.hasHolder_iff _).mpr
        ⟨timerId, SensorIlluminationTask.holds_of_holding _ timerId holding⟩
    have afterInv := SensorIlluminationManager.step_inv rendered.manager
      (.onDisplayTimeOut task timerId) inv.manager
    obtain ⟨calls, made, agrees⟩ := SensorIlluminationTask.runDisplayTimeOut_agrees
      (rendered.manager.tasks.value task) timerId (rendered.views task)
      (inv.manager.sound task) (inv.agrees task live)
    have calling : rendered.manager.renderCalls (.onDisplayTimeOut task timerId) =
        some (task, some calls) := by
      rw [← made]
      rfl
    rw [step_of_calls rendered calling]
    apply target_inv inv task calls _ afterInv rfl
    · exact Or.inr (rendered.manager.tasks.bounded task live)
    · intro other different
      exact ⟨if_neg different, Iff.rfl⟩
    · intro _
      simp only [SensorIlluminationManager.step, SensorIlluminationManager.onDisplayTimeOut,
        SensorIlluminationManager.onTask, ObjectHeap.modify_value, if_true]
      exact agrees
    · intro dead
      exact absurd live dead
  · have calling : rendered.manager.renderCalls (.onDisplayTimeOut task timerId) =
        some (task, some []) := by
      simp only [SensorIlluminationManager.renderCalls,
        SensorIlluminationTask.runDisplayTimeOutCalls, if_neg holding]
    have same : rendered.manager.step (.onDisplayTimeOut task timerId) = rendered.manager := by
      simp only [SensorIlluminationManager.step, SensorIlluminationManager.onDisplayTimeOut,
        SensorIlluminationManager.onTask]
      rw [rendered.manager.tasks.modify_same task (fun object => object.runDisplayTimeOut timerId)
        (SensorIlluminationTask.runDisplayTimeOut_of_not_holding _ timerId holding)]
    rw [step_of_calls rendered calling, same, deliverTo_nil]
    exact inv

private theorem withTask_inv {rendered : RenderedManager E} (inv : rendered.Inv) (executor : E)
    (command : SaCommand) (environment : Environment)
    (operation : SensorIlluminationTask → SensorIlluminationTask × ResultCode)
    (call : ResultCode → TaskCall)
    (callsOf : SensorIlluminationTask → Option (List RenderCall))
    (stepping : rendered.manager.step (.processSaCommand (some executor) command environment) =
      (rendered.manager.withTask executor operation call).1)
    (calling : rendered.manager.renderCalls
      (.processSaCommand (some executor) command environment) =
        if rendered.manager.executorInProc ≠ some executor then none
        else rendered.manager.taskInProc.map (fun task =>
          (task, callsOf (rendered.manager.tasks.value task))))
    (own : ∀ (task : SensorIlluminationTask) (view : RenderView), task.Sound → view.Agrees task →
      ∃ calls, callsOf task = some calls ∧ (view.deliver calls).Agrees (operation task).1) :
    (rendered.step (.processSaCommand (some executor) command environment)).Inv := by
  by_cases owner : rendered.manager.executorInProc = some executor
  · obtain ⟨task, session⟩ := inv.manager.session owner
    obtain ⟨calls, made, agrees⟩ := own (rendered.manager.tasks.value task) (rendered.views task)
      (inv.manager.sound task) (inv.agrees task (inv.manager.sessionLive task session))
    rw [if_neg (not_not.mpr owner), session, Option.map_some, made] at calling
    apply session_inv inv task calls (fun object => (operation object).1) session calling
    · rw [stepping, SensorIlluminationManager.withTask_of_owner _ executor operation call task
        owner session]
    · exact agrees
  · rw [if_pos owner] at calling
    apply idle_inv inv calling
    rw [stepping, SensorIlluminationManager.withTask_of_other _ executor operation call owner]

theorem step_inv (rendered : RenderedManager E) (action : ManagerAction E)
    (inv : rendered.Inv) : (rendered.step action).Inv := by
  cases action with
  | processSaCommand executor command environment =>
      cases executor with
      | none => exact idle_inv inv rfl rfl
      | some executor =>
          cases named : command.id with
          | enableSensorIllumination =>
              exact enable_inv inv executor command environment named
          | disableSensorIllumination =>
              by_cases owner : rendered.manager.executorInProc = some executor
              · obtain ⟨task, session⟩ := inv.manager.session owner
                apply end_inv inv task session
                · simp only [SensorIlluminationManager.renderCalls, named, owner, session, ne_eq,
                    not_true_eq_false, if_false, Option.map_some]
                · simp only [SensorIlluminationManager.step,
                    SensorIlluminationManager.processSaCommand, named,
                    SensorIlluminationManager.disableSensorIllumination, owner, ne_eq,
                    not_true_eq_false, if_false]
                  exact rendered.manager.endSession_effect task inv.manager session
              · apply idle_inv inv
                · simp only [SensorIlluminationManager.renderCalls, named]
                  exact if_pos owner
                · simp only [SensorIlluminationManager.step,
                    SensorIlluminationManager.processSaCommand, named,
                    SensorIlluminationManager.disableSensorIllumination, if_pos owner]
          | turnOnSensorIllumination =>
              apply withTask_inv inv executor command environment
                (fun task => task.turnOnSensorIllumination rendered.manager.monitor environment.draw)
                (.turnOnSensorIllumination environment.draw)
                (fun task => task.turnOnSensorIlluminationCalls rendered.manager.monitor
                  environment.draw)
              · simp only [SensorIlluminationManager.step,
                  SensorIlluminationManager.processSaCommand, named]
                rfl
              · simp only [SensorIlluminationManager.renderCalls, named]
              · intro task view sound agrees
                exact SensorIlluminationTask.turnOn_agrees task _ _ view sound agrees
          | turnOffSensorIllumination =>
              apply withTask_inv inv executor command environment
                SensorIlluminationTask.turnOffSensorIllumination .turnOffSensorIllumination
                SensorIlluminationTask.turnOffSensorIlluminationCalls
              · simp only [SensorIlluminationManager.step,
                  SensorIlluminationManager.processSaCommand, named]
                rfl
              · simp only [SensorIlluminationManager.renderCalls, named]
              · exact SensorIlluminationTask.turnOff_agrees
          | other id =>
              apply idle_inv inv
              · simp only [SensorIlluminationManager.renderCalls, named]
              · simp only [SensorIlluminationManager.step,
                  SensorIlluminationManager.processSaCommand, named]
  | onHdiDisconnect executor =>
      cases executor with
      | none => exact idle_inv inv rfl rfl
      | some executor =>
          by_cases owner : rendered.manager.executorInProc = some executor
          · obtain ⟨task, session⟩ := inv.manager.session owner
            apply end_inv inv task session
            · simp only [SensorIlluminationManager.renderCalls, owner, session, ne_eq,
                not_true_eq_false, if_false, Option.map_some]
            · simp only [SensorIlluminationManager.step, SensorIlluminationManager.onHdiDisconnect,
                owner, ne_eq, not_true_eq_false, if_false]
              exact rendered.manager.endSession_effect task inv.manager session
          · apply idle_inv inv
            · exact if_pos owner
            · simp only [SensorIlluminationManager.step, SensorIlluminationManager.onHdiDisconnect,
                if_pos owner]
  | setScreenOn isOn => exact idle_inv inv rfl rfl
  | dispatch task timerId =>
      by_cases live : task ∈ rendered.manager.tasks.live
      · apply modify_timer_inv inv task (fun object => object.dispatchTimer timerId) rfl
        · simp only [SensorIlluminationManager.step, SensorIlluminationManager.dispatchTimer,
            if_pos live]
          rfl
        · exact ⟨_, rfl⟩
      · apply idle_inv inv rfl
        simp only [SensorIlluminationManager.step, SensorIlluminationManager.dispatchTimer,
          if_neg live]
  | lockSelf task timerId =>
      by_cases live : task ∈ rendered.manager.tasks.live
      · apply modify_timer_inv inv task (fun object => object.lockSelf timerId) rfl
        · simp only [SensorIlluminationManager.step, SensorIlluminationManager.lockSelf,
            if_pos live]
          rfl
        · exact lockSelf_timer _ timerId
      · apply modify_timer_inv inv task
          (fun object => { object with timer := object.timer.retire timerId }) rfl
        · simp only [SensorIlluminationManager.step, SensorIlluminationManager.lockSelf,
            if_neg live]
          rfl
        · exact ⟨_, rfl⟩
  | onDisplayTimeOut task timerId => exact onDisplayTimeOut_inv inv task timerId
  | dropSelf task timerId => exact dropSelf_inv inv task timerId

/-! ### Whole runs -/

theorem run_inv (actions : List (ManagerAction E)) :
    (StepMachine.run step (new : RenderedManager E) actions).Inv :=
  (StepMachine.run_reachable step new actions).invariant Inv new_inv step_inv

theorem step_manager (rendered : RenderedManager E) (action : ManagerAction E) :
    (rendered.step action).manager = rendered.manager.step action := by
  unfold step
  split <;> rfl

theorem run_manager (start : RenderedManager E) (actions : List (ManagerAction E)) :
    (StepMachine.run step start actions).manager =
      StepMachine.run SensorIlluminationManager.step start.manager actions := by
  induction actions generalizing start with
  | nil => rfl
  | cons action rest ih =>
      rw [StepMachine.run_cons, StepMachine.run_cons, ih, step_manager]

end RenderedManager

namespace RenderedManager

variable {E : Type u} [DecidableEq E]

end RenderedManager

end FingerprintAuth

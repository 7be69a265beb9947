/-
Sessions whose owner no disconnect will reach.

The next disconnect releases a session exactly if its owner is on the driver's list.
Three steps take the owner off the list or give the session to an executor that is
not on it: a new list fetched during a session, the end of a disconnect during which
a session was opened, and a late `ENABLE` of an executor that has been dropped. Apart
from these the owner stays listed.
-/

import FingerprintAuth.DriverDisconnect

set_option autoImplicit false

universe u v w

namespace FingerprintAuth

/-! ### The owner after a command -/

namespace SensorIlluminationManager

variable {E : Type u}

def opensSession (manager : SensorIlluminationManager E) (command : SaCommand)
    (environment : Environment) : Bool :=
  command.id == .enableSensorIllumination && manager.executorInProc.isNone &&
    manager.enableAccepted command.param.enableSensorIllumination environment

private theorem open_success_iff (manager after : SensorIlluminationManager E) (executor : E)
    (param : EnableSensorIlluminationParam) (environment : Environment) (result : ResultCode)
    (inv : manager.Inv) (effect : OpenEffect manager executor param environment after result) :
    result = .success ↔
      manager.executorInProc = none ∧ manager.enableAccepted param environment = true := by
  cases effect with
  | busy taken =>
      refine iff_of_false (by simp) ?_
      rintro ⟨vacant, _⟩
      rcases taken with owned | session
      · exact owned vacant
      · exact session (inv.paired.mp vacant)
  | notAcquired vacant closed unaccepted => simp [unaccepted]
  | noTask vacant available unmade unaccepted => simp [unaccepted]
  | rejected object calls vacant available made unaccepted sound off nobody asked =>
      simp [unaccepted]
  | opened object vacant accepted enabled => simp [vacant.1, accepted]

variable [DecidableEq E]

theorem processSaCommand_owner (manager : SensorIlluminationManager E) (executor : E)
    (command : SaCommand) (environment : Environment) (inv : manager.Inv) :
    (manager.opensSession command environment = true ∧
      (manager.processSaCommand (some executor) command environment).1.executorInProc =
        some executor) ∨
    (manager.opensSession command environment = false ∧
      ((manager.processSaCommand (some executor) command environment).1.executorInProc =
          manager.executorInProc ∨
        (manager.processSaCommand (some executor) command environment).1.executorInProc =
          none)) := by
  have lease := manager.step_lease (.processSaCommand (some executor) command environment) inv
  simp only [step, leaseEvent] at lease
  rw [lease]
  cases named : command.id with
  | enableSensorIllumination =>
      have succeeds := open_success_iff manager _ executor _ environment _ inv
        (enableSensorIllumination_effect manager executor command.param environment inv)
      have opens : manager.opensSession command environment = true ↔
          (manager.enableSensorIllumination executor command.param environment).2 = .success := by
        rw [succeeds]
        simp [opensSession, named]
      by_cases succeeded :
          (manager.enableSensorIllumination executor command.param environment).2 = .success
      · simp [opens.mpr succeeded, succeeded, ExclusiveLease.next]
      · have unopened : manager.opensSession command environment = false := by
          rw [← Bool.not_eq_true, opens]
          exact succeeded
        simp [unopened, succeeded, ExclusiveLease.next]
  | disableSensorIllumination =>
      refine Or.inr ⟨by simp [opensSession, named], ?_⟩
      simp only [ExclusiveLease.next]
      split
      · exact Or.inr rfl
      · exact Or.inl rfl
  | turnOnSensorIllumination => exact Or.inr ⟨by simp [opensSession, named], Or.inl rfl⟩
  | turnOffSensorIllumination => exact Or.inr ⟨by simp [opensSession, named], Or.inl rfl⟩
  | other id => exact Or.inr ⟨by simp [opensSession, named], Or.inl rfl⟩

theorem onHdiDisconnect_owner (manager : SensorIlluminationManager E) (executor : Option E)
    (inv : manager.Inv) :
    (manager.onHdiDisconnect executor).executorInProc = manager.executorInProc ∨
      (manager.onHdiDisconnect executor).executorInProc = none := by
  have lease := manager.step_lease (.onHdiDisconnect executor) inv
  simp only [step] at lease
  rw [lease]
  cases executor with
  | none => exact Or.inl rfl
  | some executor =>
      simp only [leaseEvent, ExclusiveLease.next]
      split
      · exact Or.inr rfl
      · exact Or.inl rfl

theorem background_owner (manager : SensorIlluminationManager E) (action : ManagerAction E)
    (inv : manager.Inv) (background : action.isBackground = true) :
    (manager.step action).executorInProc = manager.executorInProc := by
  rw [step_lease manager action inv]
  cases action with
  | processSaCommand executor command environment => cases background
  | onHdiDisconnect executor => cases background
  | setScreenOn isOn => rfl
  | dispatch task timerId => rfl
  | lockSelf task timerId => rfl
  | onDisplayTimeOut task timerId => rfl
  | dropSelf task timerId => rfl

end SensorIlluminationManager

/-! ### The registry of the service -/

namespace Processors

variable {E : Type u} {P : Type v} {O : Type w} [LinearOrder P]

theorem createSensorIlluminationManager_registered (processors : Processors E P O) :
    processors.sensorIllumination ∈ processors.createSensorIlluminationManager.processors :=
  (SaCommandManager.mem_processors_register _ _ _ _).mpr (Or.inl rfl)

/-- A command does to the illumination manager what it would do directly: an id that
the registry refuses is one that the manager refuses. -/
theorem createSensorIlluminationManager_process [DecidableEq E] (processors : Processors E P O)
    (executor : E) (state : ProcessorState E O) (command : SaCommand) (environment : Environment) :
    (processors.createSensorIlluminationManager.processSaCommand (fun command => command.1.id)
        (processors.processSaCommand (some executor)) state (command, environment)).1.illumination =
      (state.illumination.processSaCommand (some executor) command environment).1 := by
  have delivered : ∀ id, (∀ other, id ≠ .other other) →
      ∃ set, processors.createSensorIlluminationManager.commandId2Processors id = some set ∧
        set.toList = [processors.sensorIllumination] := by
    intro id known
    cases id with
    | enableSensorIllumination => exact ⟨_, rfl, rfl⟩
    | disableSensorIllumination => exact ⟨_, rfl, rfl⟩
    | turnOnSensorIllumination => exact ⟨_, rfl, rfl⟩
    | turnOffSensorIllumination => exact ⟨_, rfl, rfl⟩
    | other other => exact absurd rfl (known other)
  unfold SaCommandManager.processSaCommand
  simp only
  by_cases known : ∀ other, command.id ≠ .other other
  · obtain ⟨set, entry, one⟩ := delivered command.id known
    rw [entry]
    simp only [one, SaCommandManager.processWith, processSaCommand, if_true]
    split <;> rfl
  · simp only [ne_eq, not_forall, not_not] at known
    obtain ⟨other, named⟩ := known
    rw [named]
    simp only [SensorIlluminationManager.processSaCommand, named]
    rfl

end Processors

namespace FingerprintAuthDriverHdi

theorem makeExecutors_fresh (next : Nat) (proxies : List ProxyAnswer) :
    next ≤ (makeExecutors next proxies).1 ∧
      ∀ executor, some executor ∈ (makeExecutors next proxies).2 → next ≤ executor := by
  induction proxies generalizing next with
  | nil =>
      refine ⟨Nat.le_refl next, ?_⟩
      intro executor member
      cases member
  | cons head tail ih =>
      cases head with
      | null => exact ih next
      | makeShareFailed => exact ih next
      | made =>
          have later := ih (next + 1)
          simp only [makeExecutors]
          refine ⟨by omega, ?_⟩
          intro executor member
          rcases List.mem_cons.mp member with same | rest
          · have equal := Option.some.inj same
            omega
          · have above := later.2 executor rest
            omega

end FingerprintAuthDriverHdi

/-! ### The owner and the list -/

namespace DriverService

variable {P : Type v} {O : Type w}

/-- The owner of a session is an executor that the next disconnect tells. -/
def OwnerListed (service : DriverService O) : Prop :=
  ∀ executor, service.state.illumination.executorInProc = some executor →
    some executor ∈ service.fingerprintAuthExecutorList

structure Inv (service : DriverService O) : Prop where
  illumination : service.state.illumination.Inv
  owner : ∀ executor, service.state.illumination.executorInProc = some executor →
    executor < service.nextExecutor
  batches : ∀ batch, batch ∈ service.batches → batch.executor < service.nextExecutor

/-- The list is replaced or emptied only while there is no session, and an executor
that is not on the list opens none. -/
def KeepsOwnerListed (service : DriverService O) : DriverAction → Prop
  | .getExecutorList (.list _) =>
      service.disconnecting.isSome = true ∨ service.state.illumination.executorInProc = none
  | .disconnectNext =>
      service.disconnecting = some [] → service.state.illumination.executorInProc = none
  | .processNext index environment =>
      ∀ batch command rest, service.batches[index]? = some batch →
        batch.commands = command :: rest →
        service.state.illumination.opensSession command environment = true →
        some batch.executor ∈ service.fingerprintAuthExecutorList
  | _ => True

theorem new_inv (others : O) : (new others).Inv where
  illumination := SensorIlluminationManager.new_inv
  owner := by intro executor owned; cases owned
  batches := by intro batch member; cases member

theorem new_ownerListed (others : O) : (new others).OwnerListed := by
  intro executor owned
  cases owned

inductive StepEffect (service : DriverService O) : DriverAction → DriverService O → Prop
  | idle (action : DriverAction) (harmless : service.KeepsOwnerListed action) :
      StepEffect service action service
  | replaced (proxies : List FingerprintAuthDriverHdi.ProxyAnswer) (next : Nat)
      (executors : List (Option Nat)) (unlocked : service.disconnecting = none)
      (later : service.nextExecutor ≤ next)
      (fresh : ∀ executor, some executor ∈ executors → service.nextExecutor ≤ executor) :
      StepEffect service (.getExecutorList (.list proxies))
        { service with
          nextExecutor := next
          fingerprintAuthExecutorList := executors }
  | begun :
      StepEffect service .onHdiDisconnect
        { service with disconnecting := some service.fingerprintAuthExecutorList }
  | told (executor : Option Nat) (rest : List (Option Nat)) (others : O)
      (remaining : service.disconnecting = some (executor :: rest)) :
      StepEffect service .disconnectNext
        { service with
          disconnecting := some rest
          state :=
            { illumination := service.state.illumination.onHdiDisconnect executor
              others := others } }
  | cleared (remaining : service.disconnecting = some []) :
      StepEffect service .disconnectNext
        { service with
          fingerprintAuthExecutorList := []
          disconnecting := none }
  | received (executor : Nat) (commands : List SaCommand)
      (handedOut : executor < service.nextExecutor) :
      StepEffect service (.onSaCommands executor commands)
        { service with
          nextBatch := service.nextBatch + 1
          batches := service.batches ++
            [{ number := service.nextBatch, executor := executor, commands := commands }] }
  | returned (index : Nat) (environment : Environment) (batch : Batch)
      (found : service.batches[index]? = some batch) (done : batch.commands = []) :
      StepEffect service (.processNext index environment)
        (service.returnBatch index batch.number .success)
  | processed (index : Nat) (environment : Environment) (batch : Batch) (command : SaCommand)
      (rest : List SaCommand) (batches : List Batch) (answers : List (Nat × HdfStatus)) (others : O)
      (found : service.batches[index]? = some batch) (next : batch.commands = command :: rest)
      (known : ∀ other, other ∈ batches →
        ∃ former, former ∈ service.batches ∧ other.executor = former.executor) :
      StepEffect service (.processNext index environment)
        { service with
          batches := batches
          answers := answers
          state :=
            { illumination := (service.state.illumination.processSaCommand (some batch.executor)
                command environment).1
              others := others } }
  | background (action : ManagerAction Nat) (isBackground : action.isBackground = true) :
      StepEffect service (.background action)
        { service with
          state := { service.state with illumination := service.state.illumination.step action } }

private theorem getExecutorList_effect (service : DriverService O)
    (answer : FingerprintAuthDriverHdi.InterfaceAnswer) :
    StepEffect service (.getExecutorList answer) (service.getExecutorList answer) := by
  cases answer with
  | noAdapter => exact .idle _ trivial
  | noInterface => exact .idle _ trivial
  | failed => exact .idle _ trivial
  | list proxies =>
      by_cases locked : service.disconnecting.isSome = true
      · simp only [getExecutorList, if_pos locked]
        exact .idle _ (Or.inl locked)
      · simp only [getExecutorList, if_neg locked]
        have fresh := FingerprintAuthDriverHdi.makeExecutors_fresh service.nextExecutor proxies
        have unlocked : service.disconnecting = none := by simpa using locked
        exact .replaced proxies _ _ unlocked fresh.1 fresh.2

variable [LinearOrder P]

private theorem disconnectNext_effect (processors : Processors Nat P O)
    (service : DriverService O) :
    StepEffect service .disconnectNext
      (service.disconnectNext processors processors.createSensorIlluminationManager) := by
  unfold disconnectNext
  split
  · rename_i unlocked
    exact .idle _ (by simp [KeepsOwnerListed, unlocked])
  · rename_i remaining
    exact .cleared remaining
  · rename_i executor rest remaining
    have one := FingerprintAuthDriverHdi.disconnectExecutor_illumination processors _
      processors.createSensorIlluminationManager_registered executor service.state
    generalize FingerprintAuthDriverHdi.disconnectExecutor processors
      processors.createSensorIlluminationManager service.state executor = state at one ⊢
    obtain ⟨illumination, others⟩ := state
    simp only at one
    subst one
    exact .told executor rest others remaining

private theorem processNext_effect (processors : Processors Nat P O)
    (service : DriverService O) (index : Nat) (environment : Environment) :
    StepEffect service (.processNext index environment)
      (service.processNext processors processors.createSensorIlluminationManager index
        environment) := by
  cases found : service.batches[index]? with
  | none =>
      simp only [processNext, found]
      exact .idle _ (by simp [KeepsOwnerListed, found])
  | some batch =>
      cases next : batch.commands with
      | nil =>
          simp only [processNext, found, next]
          exact .returned index environment batch found next
      | cons command rest =>
          have processed := processors.createSensorIlluminationManager_process batch.executor
            service.state command environment
          simp only [processNext, found, next]
          generalize processors.createSensorIlluminationManager.processSaCommand
            (fun command => command.1.id) (processors.processSaCommand (some batch.executor))
            service.state (command, environment) = outcome at processed ⊢
          obtain ⟨⟨illumination, others⟩, result⟩ := outcome
          simp only at processed
          subst processed
          by_cases succeeded : result = .success
          · rw [if_pos succeeded]
            apply StepEffect.processed index environment batch command rest _ _ others found next
            intro other member
            rcases List.mem_or_eq_of_mem_set member with known | changed
            · exact ⟨other, known, rfl⟩
            · refine ⟨batch, List.mem_of_getElem? found, ?_⟩
              rw [changed]
          · rw [if_neg succeeded]
            apply StepEffect.processed index environment batch command rest _ _ others found next
            intro other member
            exact ⟨other, List.mem_of_mem_eraseIdx member, rfl⟩

theorem step_effect (processors : Processors Nat P O) (service : DriverService O)
    (action : DriverAction) :
    StepEffect service action
      (service.step processors processors.createSensorIlluminationManager action) := by
  cases action with
  | getExecutorList answer => exact getExecutorList_effect service answer
  | onHdiDisconnect =>
      simp only [step, onHdiDisconnect]
      split
      · exact .idle _ trivial
      · exact .begun
  | disconnectNext => exact disconnectNext_effect processors service
  | onSaCommands executor commands =>
      simp only [step, onSaCommands]
      split
      · rename_i handedOut
        exact .received executor commands handedOut
      · exact .idle _ trivial
  | processNext index environment => exact processNext_effect processors service index environment
  | background action =>
      simp only [step, background]
      split
      · rename_i isBackground
        exact .background action isBackground
      · exact .idle _ trivial

theorem step_inv (processors : Processors Nat P O) (service : DriverService O)
    (action : DriverAction) (inv : service.Inv) :
    (service.step processors processors.createSensorIlluminationManager action).Inv := by
  have effect := service.step_effect processors action
  generalize service.step processors processors.createSensorIlluminationManager action = after
    at effect ⊢
  cases effect with
  | idle _ harmless => exact inv
  | replaced proxies next executors unlocked later fresh =>
      refine ⟨inv.illumination, ?_, ?_⟩
      · intro executor owned
        exact Nat.lt_of_lt_of_le (inv.owner executor owned) later
      · intro batch member
        exact Nat.lt_of_lt_of_le (inv.batches batch member) later
  | begun => exact ⟨inv.illumination, inv.owner, inv.batches⟩
  | told executor rest others remaining =>
      refine ⟨SensorIlluminationManager.step_inv _ (.onHdiDisconnect executor) inv.illumination,
        ?_, inv.batches⟩
      intro owner owned
      rcases service.state.illumination.onHdiDisconnect_owner executor inv.illumination with
        same | vacant
      · exact inv.owner owner (same.symm.trans owned)
      · exact absurd (vacant.symm.trans owned) (by simp)
  | cleared remaining => exact ⟨inv.illumination, inv.owner, inv.batches⟩
  | received executor commands handedOut =>
      refine ⟨inv.illumination, inv.owner, ?_⟩
      intro batch member
      rcases List.mem_append.mp member with known | new
      · exact inv.batches batch known
      · rw [List.mem_singleton.mp new]
        exact handedOut
  | returned index environment batch found done =>
      refine ⟨inv.illumination, inv.owner, ?_⟩
      intro other member
      exact inv.batches other (List.mem_of_mem_eraseIdx member)
  | processed index environment batch command rest batches answers others found next known =>
      refine ⟨SensorIlluminationManager.step_inv _
        (.processSaCommand (some batch.executor) command environment) inv.illumination, ?_, ?_⟩
      · intro owner owned
        rcases service.state.illumination.processSaCommand_owner batch.executor command
            environment inv.illumination with ⟨_, opened⟩ | ⟨_, same | vacant⟩
        · rw [← Option.some.inj (opened.symm.trans owned)]
          exact inv.batches batch (List.mem_of_getElem? found)
        · exact inv.owner owner (same.symm.trans owned)
        · exact absurd (vacant.symm.trans owned) (by simp)
      · intro other member
        obtain ⟨former, formerMember, same⟩ := known other member
        rw [same]
        exact inv.batches former formerMember
  | background action isBackground =>
      have same := service.state.illumination.background_owner action inv.illumination isBackground
      refine ⟨SensorIlluminationManager.step_inv _ action inv.illumination, ?_, inv.batches⟩
      intro owner owned
      exact inv.owner owner (same.symm.trans owned)

private theorem ownerListed_of_owner (service after : DriverService O)
    (sameList : after.fingerprintAuthExecutorList = service.fingerprintAuthExecutorList)
    (owner : after.state.illumination.executorInProc =
        service.state.illumination.executorInProc ∨
      after.state.illumination.executorInProc = none)
    (listed : service.OwnerListed) : after.OwnerListed := by
  intro executor owned
  rw [sameList]
  rcases owner with same | vacant
  · exact listed executor (same.symm.trans owned)
  · rw [vacant] at owned
    cases owned

/-- From a listed owner, a step leads to a listed owner exactly if it meets the condition.
-/
theorem ownerListed_step_iff (processors : Processors Nat P O) (service : DriverService O)
    (action : DriverAction) (inv : service.Inv) (listed : service.OwnerListed) :
    (service.step processors processors.createSensorIlluminationManager action).OwnerListed ↔
      service.KeepsOwnerListed action := by
  have effect := service.step_effect processors action
  generalize service.step processors processors.createSensorIlluminationManager action = after
    at effect ⊢
  cases effect with
  | idle _ harmless => exact iff_of_true listed harmless
  | replaced proxies next executors unlocked later fresh =>
      constructor
      · intro listedAfter
        right
        cases owned : service.state.illumination.executorInProc with
        | none => rfl
        | some owner =>
            -- the executors on the new list are all newer than the owner
            have newer := fresh owner (listedAfter owner owned)
            have older := inv.owner owner owned
            omega
      · rintro (locked | vacant)
        · rw [unlocked] at locked
          cases locked
        · intro owner owned
          exact absurd (vacant.symm.trans owned) (by simp)
  | begun => exact iff_of_true listed trivial
  | told executor rest others remaining =>
      refine iff_of_true ?_ (by simp [KeepsOwnerListed, remaining])
      refine ownerListed_of_owner service _ rfl ?_ listed
      exact service.state.illumination.onHdiDisconnect_owner executor inv.illumination
  | cleared remaining =>
      constructor
      · intro listedAfter _
        cases owned : service.state.illumination.executorInProc with
        | none => rfl
        | some owner => exact absurd (listedAfter owner owned) List.not_mem_nil
      · intro vacant owner owned
        exact absurd ((vacant remaining).symm.trans owned) (by simp)
  | received executor commands handedOut => exact iff_of_true listed trivial
  | returned index environment batch found done =>
      refine iff_of_true listed ?_
      intro other command rest same nonempty
      rw [found] at same
      rw [← Option.some.inj same, done] at nonempty
      cases nonempty
  | processed index environment batch command rest batches answers others found next known =>
      have condition : service.KeepsOwnerListed (.processNext index environment) ↔
          (service.state.illumination.opensSession command environment = true →
            some batch.executor ∈ service.fingerprintAuthExecutorList) := by
        constructor
        · intro kept
          exact kept batch command rest found next
        · intro onList other otherCommand otherRest same head
          rw [found] at same
          rw [← Option.some.inj same] at head ⊢
          rw [next] at head
          rw [← (List.cons.inj head).1]
          exact onList
      rw [condition]
      rcases service.state.illumination.processSaCommand_owner batch.executor command
          environment inv.illumination with ⟨opens, opened⟩ | ⟨unopened, owner⟩
      · constructor
        · intro listedAfter _
          exact listedAfter batch.executor opened
        · intro onList owner owned
          rw [← Option.some.inj (opened.symm.trans owned)]
          exact onList opens
      · refine iff_of_true ?_ (by simp [unopened])
        exact ownerListed_of_owner service _ rfl owner listed
  | background action isBackground =>
      refine iff_of_true ?_ trivial
      exact ownerListed_of_owner service _ rfl
        (Or.inl (service.state.illumination.background_owner action inv.illumination
          isBackground)) listed

/-- In every state of a run the owner of the session is on the driver's list, exactly
if every step of the run meets the condition. -/
theorem always_ownerListed_iff_keepsOwnerListed (processors : Processors Nat P O) (others : O)
    (actions : List DriverAction) :
    StepMachine.Always (step processors processors.createSensorIlluminationManager) OwnerListed
        (new others) actions ↔
      StepMachine.EachStep (step processors processors.createSensorIlluminationManager)
        KeepsOwnerListed (new others) actions :=
  StepMachine.always_iff_eachStep Inv (fun _ => True) (step_inv processors)
    (fun service action _ inv listed => ownerListed_step_iff processors service action inv listed)
    (new_inv others) (new_ownerListed others) actions (fun _ _ => trivial)

theorem disconnect_releases_iff (processors : Processors Nat P O) (service : DriverService O)
    (inv : service.Inv) (unlocked : service.disconnecting = none) :
    (StepMachine.run (step processors processors.createSensorIlluminationManager) service
        (.onHdiDisconnect ::
          List.replicate (service.fingerprintAuthExecutorList.length + 1)
            .disconnectNext)).state.illumination.executorInProc = none ↔
      service.OwnerListed := by
  rw [run_onHdiDisconnect processors _ service unlocked]
  simp only [FingerprintAuthDriverHdi.onHdiDisconnect_illumination processors _
    processors.createSensorIlluminationManager_registered]
  constructor
  · intro released owner owned
    by_cases member : some owner ∈ service.fingerprintAuthExecutorList
    · exact member
    · rw [SensorIlluminationManager.foldl_onHdiDisconnect_of_absent, owned] at released
      · cases released
      · intro other otherOwned
        rw [owned] at otherOwned
        rw [← Option.some.inj otherOwned]
        exact member
  · intro listed
    cases owned : service.state.illumination.executorInProc with
    | none =>
        rw [SensorIlluminationManager.foldl_onHdiDisconnect_of_absent, owned]
        intro other otherOwned
        rw [owned] at otherOwned
        cases otherOwned
    | some owner =>
        obtain ⟨task, session⟩ := inv.illumination.session owned
        rw [SensorIlluminationManager.foldl_onHdiDisconnect_of_owner _ _ inv.illumination owner
          owned (listed owner owned)]
        exact (SensorIlluminationManager.endSession_owner _ task inv.illumination session).1

def soleProcessor : Processors Nat Nat Unit :=
  { sensorIllumination := 0
    processOther := fun _ others _ _ => (others, .success)
    disconnectOther := fun _ others _ => others }

/-- A session opened by a batch that a disconnect has cut, one opened while the
disconnect goes on, and one whose owner a second list drops. -/
theorem dropped_executor_keeps_session :
    ¬StepMachine.Always (step soleProcessor soleProcessor.createSensorIlluminationManager)
        OwnerListed (new ())
        [.getExecutorList (.list [.made]),
          .onSaCommands 0 [SensorIlluminationManager.commandOf .enableSensorIllumination],
          .onHdiDisconnect, .disconnectNext, .disconnectNext,
          .processNext 0 SensorIlluminationManager.servingEnvironment] ∧
      ¬StepMachine.Always (step soleProcessor soleProcessor.createSensorIlluminationManager)
        OwnerListed (new ())
        [.getExecutorList (.list [.made]),
          .onSaCommands 0 [SensorIlluminationManager.commandOf .enableSensorIllumination],
          .onHdiDisconnect, .disconnectNext,
          .processNext 0 SensorIlluminationManager.servingEnvironment, .disconnectNext] ∧
      ¬StepMachine.Always (step soleProcessor soleProcessor.createSensorIlluminationManager)
        OwnerListed (new ())
        [.getExecutorList (.list [.made]),
          .onSaCommands 0 [SensorIlluminationManager.commandOf .enableSensorIllumination],
          .processNext 0 SensorIlluminationManager.servingEnvironment,
          .getExecutorList (.list [.made])] := by
  refine ⟨?_, ?_, ?_⟩
  · intro always
    exact absurd (always.last 0 (by decide)) (by decide)
  · intro always
    exact absurd (always.last 0 (by decide)) (by decide)
  · intro always
    exact absurd (always.last 0 (by decide)) (by decide)

end DriverService

end FingerprintAuth

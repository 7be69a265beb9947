/-
What becomes of a batch of commands, told from the history of registrations alone.

The account forgets the tables. A processor is registered for an id if the last call
that names both was a registration; an id is known if it was ever registered. A batch
is then a script of calls and refusals, performed until one of them fails.
-/

import FingerprintAuth.SaCommandHistory
import FingerprintAuth.Library.FailStop
import FingerprintAuth.Library.LastUpdate

set_option autoImplicit false

namespace FingerprintAuth

universe u v w x

namespace Registration

variable {C : Type u} {P : Type v}

def commandIds : Registration C P → List C
  | .registerSaCommandProcessor commandIds _ => commandIds
  | .unregisterSaCommandProcessor commandIds _ => commandIds

def processor : Registration C P → Option P
  | .registerSaCommandProcessor _ processor => processor
  | .unregisterSaCommandProcessor _ processor => processor

def registers : Registration C P → Bool
  | .registerSaCommandProcessor _ _ => true
  | .unregisterSaCommandProcessor _ _ => false

/-- A call with a null processor is ignored and names no pair. -/
def names [DecidableEq C] [DecidableEq P] (call : Registration C P) (pair : C × P) : Bool :=
  decide (call.processor = some pair.2) && decide (pair.1 ∈ call.commandIds)

theorem names_iff [DecidableEq C] [DecidableEq P] (call : Registration C P) (pair : C × P) :
    call.names pair = true ↔ call.processor = some pair.2 ∧ pair.1 ∈ call.commandIds := by
  rw [names, Bool.and_eq_true, decide_eq_true_iff, decide_eq_true_iff]

def makesKnown [DecidableEq C] (call : Registration C P) (commandId : C) : Bool :=
  call.registers && call.processor.isSome && decide (commandId ∈ call.commandIds)

end Registration

/-! ### The account -/

section Account

variable {C : Type u} {P : Type v} [DecidableEq C] [DecidableEq P]

/-- What the last call that names the pair did: `true` for a registration. -/
def lastCall (history : List (Registration C P)) (commandId : C) (processor : P) : Option Bool :=
  LastUpdate.last Registration.names Registration.registers (commandId, processor) history

theorem lastCall_eq_true_iff (history : List (Registration C P)) (commandId : C)
    (processor : P) :
    lastCall history commandId processor = some true ↔
      ∃ before call after, history = before ++ call :: after ∧
        call.names (commandId, processor) = true ∧ call.registers = true ∧
        ∀ later, later ∈ after → later.names (commandId, processor) = false :=
  LastUpdate.last_eq_some_iff _ _ _ history true

def everRegistered (history : List (Registration C P)) (commandId : C) : Bool :=
  history.any (fun call => call.makesKnown commandId)

end Account

def recording {P : Type v} {κ : Type w} {σ : Type x} (call : σ → P → κ → σ × ResultCode) :
    σ × List (P × κ) → P → κ → (σ × List (P × κ)) × ResultCode :=
  fun noted processor command =>
    (((call noted.1 processor command).1, noted.2 ++ [(processor, command)]),
      (call noted.1 processor command).2)

inductive Delivery (P : Type v) (κ : Type w) where
  | processSaCommand (processor : P) (command : κ)
  | refuse (command : κ)

namespace Delivery

variable {C : Type u} {P : Type v} {κ : Type w} {σ : Type x}

def step (call : σ → P → κ → σ × ResultCode) : σ → Delivery P κ → σ × Bool
  | state, .processSaCommand processor command =>
      ((call state processor command).1, decide ((call state processor command).2 = .success))
  | state, .refuse _ => (state, false)

/-- The whole batch, if nothing fails. -/
def script (known : C → Bool) (recipients : C → List P) (commandIdOf : κ → C)
    (commands : List κ) : List (Delivery P κ) :=
  commands.flatMap fun command =>
    if known (commandIdOf command) then
      (recipients (commandIdOf command)).map (fun processor => .processSaCommand processor command)
    else [.refuse command]

def called : Delivery P κ → Option (P × κ)
  | .processSaCommand processor command => some (processor, command)
  | .refuse _ => none

theorem step_recording (call : σ → P → κ → σ × ResultCode) :
    step (recording call) = FailStop.noting (step call) (called : Delivery P κ → Option (P × κ)) := by
  funext noted delivery
  cases delivery with
  | processSaCommand processor command => rfl
  | refuse command => simp [step, FailStop.noting, called]

end Delivery

def resultOf (succeeded : Bool) : ResultCode :=
  if succeeded then .success else .generalError

theorem resultOf_eq_success_iff (succeeded : Bool) :
    resultOf succeeded = .success ↔ succeeded = true := by
  cases succeeded with
  | false => decide
  | true => decide

namespace SaCommandManager

variable {C : Type u} {P : Type v} [LinearOrder P]

section InPlace

variable [DecidableEq C] {κ : Type w} {σ : Type x}

/-- `std::map::operator[]`: an absent entry is made before it is read. -/
def subscript (manager : SaCommandManager C P) (commandId : C) :
    SaCommandManager C P × OrderedSet P :=
  match manager.commandId2Processors commandId with
  | some processors => (manager, processors)
  | none =>
      ({ manager with
          commandId2Processors := fun other =>
            if other = commandId then some OrderedSet.empty
            else manager.commandId2Processors other },
        OrderedSet.empty)

/-- `processSaCommands` to the letter: the entry is found first and then read with
`operator[]`, so the registry is part of the state. -/
def processSaCommandsInPlace (commandIdOf : κ → C) (call : σ → P → κ → σ × ResultCode) :
    SaCommandManager C P → σ → List κ → SaCommandManager C P × σ × ResultCode
  | manager, state, [] => (manager, state, .success)
  | manager, state, command :: rest =>
      if (manager.commandId2Processors (commandIdOf command)).isSome then
        let (manager, processors) := manager.subscript (commandIdOf command)
        let (state, result) := processWith call command state processors.toList
        if result = .success then processSaCommandsInPlace commandIdOf call manager state rest
        else (manager, state, .generalError)
      else (manager, state, .generalError)

theorem subscript_of_present {manager : SaCommandManager C P} {commandId : C}
    {processors : OrderedSet P} (present : manager.commandId2Processors commandId = some processors) :
    manager.subscript commandId = (manager, processors) := by
  rw [subscript, present]

theorem processSaCommandsInPlace_eq (commandIdOf : κ → C) (call : σ → P → κ → σ × ResultCode)
    (manager : SaCommandManager C P) (state : σ) (commands : List κ) :
    processSaCommandsInPlace commandIdOf call manager state commands =
      (manager, manager.processSaCommands commandIdOf call state commands) := by
  induction commands generalizing state with
  | nil => rfl
  | cons command rest ih =>
      rw [processSaCommandsInPlace, processSaCommands, processSaCommand]
      cases entry : manager.commandId2Processors (commandIdOf command) with
      | none => rfl
      | some processors =>
          simp only [subscript_of_present entry, Option.isSome_some, if_true, ih]
          split <;> rfl

end InPlace

/-! ### The tables after a history -/

section History

variable [DecidableEq C]

def afterHistory (history : List (Registration C P)) : SaCommandManager C P :=
  StepMachine.run update empty history

theorem delivers_update (manager : SaCommandManager C P) (call : Registration C P)
    (commandId : C) (processor : P) :
    (manager.update call).Delivers commandId processor ↔
      if call.names (commandId, processor) then call.registers = true
      else manager.Delivers commandId processor := by
  cases call with
  | registerSaCommandProcessor commandIds registered =>
      cases registered with
      | none => rfl
      | some registered =>
          rw [update, delivers_register]
          split
          · rename_i named
            obtain ⟨same, member⟩ := (Registration.names_iff _ _).mp named
            exact iff_of_true (Or.inl ⟨(Option.some.inj same).symm, member⟩) rfl
          · rename_i unnamed
            constructor
            · intro held
              rcases held with added | before
              · refine absurd ((Registration.names_iff _ _).mpr ?_) unnamed
                exact ⟨congrArg some added.1.symm, added.2⟩
              · exact before
            · exact Or.inr
  | unregisterSaCommandProcessor commandIds removed =>
      cases removed with
      | none => rfl
      | some removed =>
          rw [update, delivers_unregister]
          split
          · rename_i named
            obtain ⟨same, member⟩ := (Registration.names_iff _ _).mp named
            refine iff_of_false ?_ nofun
            intro kept
            exact kept.1 ⟨(Option.some.inj same).symm, member⟩
          · rename_i unnamed
            constructor
            · intro kept
              exact kept.2
            · intro before
              refine ⟨?_, before⟩
              intro taken
              refine unnamed ((Registration.names_iff _ _).mpr ?_)
              exact ⟨congrArg some taken.1.symm, taken.2⟩

theorem isSome_update (manager : SaCommandManager C P) (call : Registration C P)
    (commandId : C) :
    ((manager.update call).commandId2Processors commandId).isSome =
      (call.makesKnown commandId || (manager.commandId2Processors commandId).isSome) := by
  cases call with
  | registerSaCommandProcessor commandIds registered =>
      cases registered with
      | none => rfl
      | some registered => exact isSome_register manager commandIds registered commandId
  | unregisterSaCommandProcessor commandIds removed =>
      cases removed with
      | none => rfl
      | some removed => exact isSome_unregister manager commandIds removed commandId

theorem delivers_run (manager : SaCommandManager C P) (history : List (Registration C P))
    (commandId : C) (processor : P) :
    (StepMachine.run update manager history).Delivers commandId processor ↔
      match lastCall history commandId processor with
      | some registers => registers = true
      | none => manager.Delivers commandId processor := by
  induction history generalizing manager with
  | nil => exact Iff.rfl
  | cons call rest ih =>
      rw [StepMachine.run_cons, ih, lastCall, lastCall, LastUpdate.last]
      cases LastUpdate.last Registration.names Registration.registers (commandId, processor) rest with
      | some registers => exact Iff.rfl
      | none =>
          simp only [delivers_update]
          split <;> rfl

theorem isSome_run (manager : SaCommandManager C P) (history : List (Registration C P))
    (commandId : C) :
    ((StepMachine.run update manager history).commandId2Processors commandId).isSome =
      (everRegistered history commandId ||
        (manager.commandId2Processors commandId).isSome) := by
  induction history generalizing manager with
  | nil => rfl
  | cons call rest ih =>
      rw [StepMachine.run_cons, ih, isSome_update, everRegistered, everRegistered, List.any_cons]
      exact (Bool.or_left_comm _ _ _).trans (Bool.or_assoc _ _ _).symm

theorem delivers_afterHistory (history : List (Registration C P)) (commandId : C)
    (processor : P) :
    (afterHistory history).Delivers commandId processor ↔
      lastCall history commandId processor = some true := by
  rw [afterHistory, delivers_run]
  cases lastCall history commandId processor with
  | some registers => simp
  | none =>
      constructor
      · intro delivers
        obtain ⟨set, entry, _⟩ := delivers
        cases entry
      · intro found
        cases found

theorem isSome_afterHistory (history : List (Registration C P)) (commandId : C) :
    ((afterHistory history).commandId2Processors commandId).isSome =
      everRegistered history commandId := by
  rw [afterHistory, isSome_run]
  exact Bool.or_false _

end History

/-! ### Batches as scripts -/

section Scripts

variable {κ : Type w} {σ : Type x}

def callsMade (manager : SaCommandManager C P) (commandIdOf : κ → C)
    (call : σ → P → κ → σ × ResultCode) (state : σ) (commands : List κ) : List (P × κ) :=
  (manager.processSaCommands commandIdOf (recording call) (state, []) commands).1.2

def recipients (manager : SaCommandManager C P) (commandId : C) : List P :=
  ((manager.commandId2Processors commandId).getD OrderedSet.empty).toList

theorem mem_recipients {manager : SaCommandManager C P} {commandId : C} {processor : P} :
    processor ∈ manager.recipients commandId ↔ manager.Delivers commandId processor := by
  rw [recipients, Delivers]
  cases manager.commandId2Processors commandId with
  | none =>
      constructor
      · intro member
        cases member
      · intro delivers
        obtain ⟨set, absent, _⟩ := delivers
        cases absent
  | some set =>
      constructor
      · intro member
        exact ⟨set, rfl, member⟩
      · intro delivers
        obtain ⟨other, same, member⟩ := delivers
        rw [Option.some.inj same]
        exact member

theorem recipients_increasing (manager : SaCommandManager C P) (commandId : C) :
    (manager.recipients commandId).Pairwise (· < ·) := OrderedSet.increasing _

/-- The calls and refusals of a batch, as the tables have them. -/
def script (manager : SaCommandManager C P) (commandIdOf : κ → C) (commands : List κ) :
    List (Delivery P κ) :=
  Delivery.script (fun commandId => (manager.commandId2Processors commandId).isSome)
    manager.recipients commandIdOf commands

omit [LinearOrder P] in
theorem processWith_eq_perform (call : σ → P → κ → σ × ResultCode) (command : κ) (state : σ)
    (processors : List P) :
    processWith call command state processors =
      ((FailStop.perform (Delivery.step call) state
          (processors.map (fun processor => .processSaCommand processor command))).state,
        resultOf (FailStop.perform (Delivery.step call) state
          (processors.map (fun processor => .processSaCommand processor command))).succeeded) := by
  induction processors generalizing state with
  | nil => rfl
  | cons processor rest ih =>
      rw [processWith, List.map_cons]
      by_cases success : (call state processor command).2 = .success
      · have passed : (Delivery.step call state (.processSaCommand processor command)).2 = true :=
          decide_eq_true success
        rw [FailStop.perform_cons_passed _ _ _ _ passed]
        simp only [success, if_true, ih]
        rfl
      · have failed : (Delivery.step call state (.processSaCommand processor command)).2 = false :=
          decide_eq_false success
        rw [FailStop.perform_cons_failed _ _ _ _ failed]
        simp only [success, if_false]
        rfl

theorem script_cons (manager : SaCommandManager C P) (commandIdOf : κ → C) (command : κ)
    (rest : List κ) :
    manager.script commandIdOf (command :: rest) =
      (if (manager.commandId2Processors (commandIdOf command)).isSome then
          (manager.recipients (commandIdOf command)).map
            (fun processor => .processSaCommand processor command)
        else [.refuse command]) ++ manager.script commandIdOf rest := rfl

theorem processSaCommands_eq_perform (manager : SaCommandManager C P) (commandIdOf : κ → C)
    (call : σ → P → κ → σ × ResultCode) (state : σ) (commands : List κ) :
    manager.processSaCommands commandIdOf call state commands =
      ((FailStop.perform (Delivery.step call) state (manager.script commandIdOf commands)).state,
        resultOf (FailStop.perform (Delivery.step call) state
          (manager.script commandIdOf commands)).succeeded) := by
  induction commands generalizing state with
  | nil => rfl
  | cons command rest ih =>
      rw [processSaCommands, processSaCommand, script_cons, recipients]
      cases entry : manager.commandId2Processors (commandIdOf command) with
      | none => rfl
      | some set =>
          simp only [Option.isSome_some, if_true, Option.getD_some]
          rw [FailStop.perform_append, processWith_eq_perform]
          generalize FailStop.perform (Delivery.step call) state
            (set.toList.map (fun processor => Delivery.processSaCommand processor command)) = round
          cases succeeded : round.succeeded with
          | true => simp only [resultOf, FailStop.Outcome.andThen, succeeded, if_true, ih]
          | false => simp [resultOf, FailStop.Outcome.andThen, succeeded]

theorem callsMade_eq_performed (manager : SaCommandManager C P) (commandIdOf : κ → C)
    (call : σ → P → κ → σ × ResultCode) (state : σ) (commands : List κ) :
    manager.callsMade commandIdOf call state commands =
      (FailStop.perform (Delivery.step call) state
        (manager.script commandIdOf commands)).performed.filterMap Delivery.called := by
  rw [callsMade, processSaCommands_eq_perform, Delivery.step_recording, FailStop.perform_noting]
  rfl

theorem called_script (manager : SaCommandManager C P) (commandIdOf : κ → C)
    (commands : List κ) :
    (manager.script commandIdOf commands).filterMap Delivery.called =
      commands.flatMap (fun command =>
        (manager.recipients (commandIdOf command)).map (fun processor => (processor, command))) := by
  induction commands with
  | nil => rfl
  | cons command rest ih =>
      rw [script_cons, List.filterMap_append, ih, List.flatMap_cons, recipients]
      cases manager.commandId2Processors (commandIdOf command) with
      | none => rfl
      | some set =>
          simp only [Option.isSome_some, if_true, Option.getD_some, List.filterMap_map]
          congr 1
          exact congrFun List.filterMap_eq_map' _

/-- A batch answered with success has reached every recipient of each command. -/
theorem callsMade_of_success (manager : SaCommandManager C P) (commandIdOf : κ → C)
    (call : σ → P → κ → σ × ResultCode) (state : σ) (commands : List κ)
    (success : (manager.processSaCommands commandIdOf call state commands).2 = .success) :
    manager.callsMade commandIdOf call state commands =
      commands.flatMap (fun command =>
        (manager.recipients (commandIdOf command)).map (fun processor => (processor, command))) := by
  rw [processSaCommands_eq_perform, resultOf_eq_success_iff] at success
  rw [callsMade_eq_performed, FailStop.performed_of_succeeded _ _ _ success, called_script]

/-- A batch answered with an error is cut where a call fails or a command is refused,
and everything before that succeeds. -/
theorem callsMade_of_error (manager : SaCommandManager C P) (commandIdOf : κ → C)
    (call : σ → P → κ → σ × ResultCode) (state : σ) (commands : List κ)
    (error : (manager.processSaCommands commandIdOf call state commands).2 ≠ .success) :
    ∃ before delivery after, manager.script commandIdOf commands = before ++ delivery :: after ∧
      manager.callsMade commandIdOf call state commands =
        (before ++ [delivery]).filterMap Delivery.called ∧
      (FailStop.perform (Delivery.step call) state before).succeeded = true ∧
      (Delivery.step call (FailStop.perform (Delivery.step call) state before).state
        delivery).2 = false := by
  rw [processSaCommands_eq_perform, ne_eq, resultOf_eq_success_iff, Bool.not_eq_true] at error
  obtain ⟨before, delivery, after, split, cut, sound, fails⟩ :=
    FailStop.performed_of_failed _ _ _ error
  exact ⟨before, delivery, after, split,
    by rw [callsMade_eq_performed, cut], sound, fails⟩

theorem processSaCommands_append (manager : SaCommandManager C P) (commandIdOf : κ → C)
    (call : σ → P → κ → σ × ResultCode) (state : σ) (first second : List κ) :
    manager.processSaCommands commandIdOf call state (first ++ second) =
      if (manager.processSaCommands commandIdOf call state first).2 = .success then
        manager.processSaCommands commandIdOf call
          (manager.processSaCommands commandIdOf call state first).1 second
      else manager.processSaCommands commandIdOf call state first := by
  induction first generalizing state with
  | nil => rfl
  | cons command rest ih =>
      rw [List.cons_append, processSaCommands, processSaCommands]
      by_cases success : (manager.processSaCommand commandIdOf call state command).2 = .success
      · simp only [success, if_true]
        exact ih _
      · simp [success]

end Scripts

section Refinement

variable [DecidableEq C]

theorem table_swap (before after : List (Registration C P)) (first second : Registration C P)
    (apart : ∀ commandId processor, ¬(first.names (commandId, processor) = true ∧
      second.names (commandId, processor) = true)) :
    (afterHistory (before ++ first :: second :: after)).commandId2Processors =
      (afterHistory (before ++ second :: first :: after)).commandId2Processors := by
  apply table_ext
  · intro commandId
    rw [isSome_afterHistory, isSome_afterHistory, everRegistered, everRegistered]
    simp only [List.any_append, List.any_cons]
    rw [Bool.or_left_comm (first.makesKnown commandId)]
  · intro commandId processor
    rw [delivers_afterHistory, delivers_afterHistory, lastCall, lastCall,
      LastUpdate.last_swap _ _ _ before after first second (apart commandId processor)]

theorem script_afterHistory {κ : Type w} (history : List (Registration C P))
    (commandIdOf : κ → C) (commands : List κ) :
    (afterHistory history).script commandIdOf commands =
      Delivery.script (everRegistered history) (afterHistory history).recipients commandIdOf
        commands := by
  rw [script, funext (isSome_afterHistory history)]

theorem registrations_swap (before after : List (Registration C P))
    (firstIds secondIds : List C) (first second : Option P) :
    afterHistory (before ++ .registerSaCommandProcessor firstIds first ::
        .registerSaCommandProcessor secondIds second :: after) =
      afterHistory (before ++ .registerSaCommandProcessor secondIds second ::
        .registerSaCommandProcessor firstIds first :: after) := by
  simp only [afterHistory, StepMachine.run_append, StepMachine.run_cons, update]
  rw [register_comm]

/-- The dispatcher refines its history. Given the history, the recipients of each id
are fixed, in order and without repetition, and a batch is their script performed to
the first failure, on an unchanged registry. -/
theorem processSaCommands_refines_history (history : List (Registration C P)) :
    (∃ recipients : C → List P,
      (∀ commandId, (recipients commandId).Pairwise (· < ·)) ∧
      (∀ commandId processor, processor ∈ recipients commandId ↔
        lastCall history commandId processor = some true) ∧
      (∀ commandId processor, lastCall history commandId processor = some true →
        (recipients commandId).count processor = 1) ∧
      ∀ {κ : Type w} {σ : Type x} (commandIdOf : κ → C) (call : σ → P → κ → σ × ResultCode)
        (state : σ) (commands : List κ),
        let outcome := FailStop.perform (Delivery.step call) state
          (Delivery.script (everRegistered history) recipients commandIdOf commands)
        processSaCommandsInPlace commandIdOf call (afterHistory history) state commands =
            (afterHistory history, outcome.state, resultOf outcome.succeeded) ∧
          callsMade (afterHistory history) commandIdOf call state commands =
            outcome.performed.filterMap Delivery.called) ∧
    (∀ {κ : Type w} {σ : Type x} (commandIdOf : κ → C) (call : σ → P → κ → σ × ResultCode)
      (state : σ) (first second : List κ),
      (afterHistory history).processSaCommands commandIdOf call state (first ++ second) =
        if ((afterHistory history).processSaCommands commandIdOf call state first).2 =
            .success then
          (afterHistory history).processSaCommands commandIdOf call
            ((afterHistory history).processSaCommands commandIdOf call state first).1 second
        else (afterHistory history).processSaCommands commandIdOf call state first) ∧
    (∀ before first second after, history = before ++ first :: second :: after →
      (∀ commandId processor, ¬(first.names (commandId, processor) = true ∧
        second.names (commandId, processor) = true)) →
      (afterHistory (before ++ second :: first :: after)).commandId2Processors =
        (afterHistory history).commandId2Processors) ∧
    (∀ before firstIds first secondIds second after,
      history = before ++ .registerSaCommandProcessor firstIds first ::
        .registerSaCommandProcessor secondIds second :: after →
      afterHistory (before ++ .registerSaCommandProcessor secondIds second ::
        .registerSaCommandProcessor firstIds first :: after) = afterHistory history) := by
  refine ⟨?_, ?_, ?_, ?_⟩
  · refine ⟨(afterHistory history).recipients, recipients_increasing _, ?_, ?_, ?_⟩
    · intro commandId processor
      rw [mem_recipients, delivers_afterHistory]
    · intro commandId processor registered
      have member := (delivers_afterHistory history commandId processor).mpr registered
      exact OrderedSet.count_of_mem (mem_recipients.mpr member)
    · intro κ σ commandIdOf call state commands
      rw [← script_afterHistory]
      constructor
      · rw [processSaCommandsInPlace_eq, processSaCommands_eq_perform]
      · exact callsMade_eq_performed (afterHistory history) commandIdOf call state commands
  · exact processSaCommands_append (afterHistory history)
  · intro before first second after split apart
    rw [split]
    exact (table_swap before after first second apart).symm
  · intro before firstIds first secondIds second after split
    rw [split]
    exact (registrations_swap before after firstIds secondIds first second).symm

end Refinement

end SaCommandManager

end FingerprintAuth

/-
What is left of a registration after its removal.

Two registries that behave alike are equal: a single command shows an entry with all
its processors, and a disconnect shows the other index. So a removal undoes a
registration exactly if it restores both indexes, and the entries that a registration
makes stay when their last processor goes. A command is refused for want of an entry,
not for want of a processor.
-/

import FingerprintAuth.SaCommandDelivery

set_option autoImplicit false

namespace FingerprintAuth

universe u v w x

namespace SaCommandManager

variable {C : Type u} {P : Type v} [LinearOrder P]

/-- Whatever the processors do, every batch and every disconnect has the same effect.
The state of the processors is arbitrary and may record their calls. -/
structure Indistinguishable (first second : SaCommandManager C P) : Prop where
  processSaCommands : ∀ (κ : Type u) (σ : Type (max u v)) (commandIdOf : κ → C)
    (call : σ → P → κ → σ × ResultCode) (state : σ) (commands : List κ),
    first.processSaCommands commandIdOf call state commands =
      second.processSaCommands commandIdOf call state commands
  onHdiDisconnect : ∀ (σ : Type v) (notify : σ → P → σ) (state : σ),
    first.onHdiDisconnect notify state = second.onHdiDisconnect notify state

def accepting (called : List (P × C)) (processor : P) (commandId : C) :
    List (P × C) × ResultCode :=
  (called ++ [(processor, commandId)], .success)

omit [LinearOrder P] in
theorem processWith_accepting (commandId : C) (called : List (P × C)) (processors : List P) :
    processWith accepting commandId called processors =
      (called ++ processors.map (fun processor => (processor, commandId)), .success) := by
  induction processors generalizing called with
  | nil => simp [processWith]
  | cons head tail ih => simp [processWith, accepting, ih]

theorem processSaCommands_accepting (manager : SaCommandManager C P) (commandId : C) :
    manager.processSaCommands id accepting [] [commandId] =
      ((manager.recipients commandId).map (fun processor => (processor, commandId)),
        resultOf (manager.commandId2Processors commandId).isSome) := by
  rw [processSaCommands, processSaCommand, recipients, id_eq]
  cases manager.commandId2Processors commandId with
  | none => rfl
  | some set =>
      simp only [processWith_accepting]
      rfl

theorem indistinguishable_iff (first second : SaCommandManager C P) :
    Indistinguishable first second ↔ first = second := by
  constructor
  · intro alike
    have shown : ∀ commandId,
        (first.recipients commandId).map (fun processor => (processor, commandId)) =
            (second.recipients commandId).map (fun processor => (processor, commandId)) ∧
          resultOf (first.commandId2Processors commandId).isSome =
            resultOf (second.commandId2Processors commandId).isSome := by
      intro commandId
      have same := alike.processSaCommands C (List (P × C)) id accepting [] [commandId]
      rw [processSaCommands_accepting, processSaCommands_accepting] at same
      exact Prod.mk.inj same
    apply eq_of_indexes
    · apply table_ext
      · intro commandId
        have sameResult := (shown commandId).2
        rw [Bool.eq_iff_iff, ← resultOf_eq_success_iff, ← resultOf_eq_success_iff, sameResult]
      · intro commandId processor
        have sameNames := congrArg (List.map Prod.fst) (shown commandId).1
        simp only [List.map_map, Function.comp_def, List.map_id'] at sameNames
        rw [← mem_recipients, ← mem_recipients, sameNames]
    · have told := alike.onHdiDisconnect (List P)
        (fun visited processor => visited ++ [processor]) []
      change first.notified = second.notified at told
      rw [notified_eq, notified_eq] at told
      apply OrderedSet.ext_mem
      intro processor
      change processor ∈ first.processors.toList ↔ processor ∈ second.processors.toList
      rw [told]
  · intro same
    subst same
    exact ⟨fun _ _ _ _ _ _ => rfl, fun _ _ _ => rfl⟩

section Removal

variable [DecidableEq C]

theorem unregister_register_iff (manager : SaCommandManager C P) (commandIds : List C)
    (processor : P) (unregistered : ∀ commandId, ¬manager.Delivers commandId processor) :
    (manager.registerSaCommandProcessor commandIds (some processor)).unregisterSaCommandProcessor
        commandIds (some processor) = manager ↔
      (∀ commandId, commandId ∈ commandIds →
        (manager.commandId2Processors commandId).isSome = true) ∧
      processor ∉ manager.processors := by
  constructor
  · intro restored
    constructor
    · intro commandId named
      rw [← restored, isSome_unregister, isSome_register, decide_eq_true named]
      rfl
    · rw [← restored, mem_processors_unregister]
      intro both
      exact both.1 rfl
  · intro both
    obtain ⟨entries, unlisted⟩ := both
    apply eq_of_indexes
    · apply table_ext
      · intro commandId
        rw [isSome_unregister, isSome_register]
        by_cases named : commandId ∈ commandIds
        · rw [entries commandId named, Bool.or_true]
        · rw [decide_eq_false named, Bool.false_or]
      · intro commandId other
        rw [delivers_unregister, delivers_register]
        constructor
        · intro afterwards
          rcases afterwards.2 with added | before
          · exact absurd added afterwards.1
          · exact before
        · intro before
          refine ⟨?_, Or.inr before⟩
          intro taken
          rw [taken.1] at before
          exact unregistered commandId before
    · apply OrderedSet.ext_mem
      intro other
      rw [mem_processors_unregister, mem_processors_register]
      constructor
      · intro afterwards
        rcases afterwards.2 with same | before
        · exact absurd same afterwards.1
        · exact before
      · intro before
        refine ⟨?_, Or.inr before⟩
        intro same
        rw [same] at before
        exact unlisted before

theorem unhandled_refused_iff {κ : Type w} {σ : Type x} (history : List (Registration C P))
    (commandIdOf : κ → C) (call : σ → P → κ → σ × ResultCode) (state : σ) (command : κ)
    (unhandled : ∀ processor,
      ¬(afterHistory history).Delivers (commandIdOf command) processor) :
    (afterHistory history).processSaCommands commandIdOf call state [command] =
        (state, .generalError) ↔
      everRegistered history (commandIdOf command) = false := by
  rw [← isSome_afterHistory, processSaCommands, processSaCommand]
  cases entry : (afterHistory history).commandId2Processors (commandIdOf command) with
  | none => simp
  | some set =>
      have nobody : set.toList = [] := by
        rw [List.eq_nil_iff_forall_not_mem]
        intro processor member
        exact unhandled processor ⟨set, entry, member⟩
      simp [nobody, processWith, processSaCommands]

/-- In every state that a history leads to, removal undoes a registration for a
processor registered for nothing exactly if every id named was registered before and
the processor is not listed for disconnects. A command that nobody handles is refused
exactly if its id was never registered. -/
theorem removal_undoes_registration_iff (history : List (Registration C P)) :
    (∀ commandIds processor,
      (∀ commandId, ¬(afterHistory history).Delivers commandId processor) →
      (Indistinguishable
          (((afterHistory history).registerSaCommandProcessor commandIds
            (some processor)).unregisterSaCommandProcessor commandIds (some processor))
          (afterHistory history) ↔
        (∀ commandId, commandId ∈ commandIds → everRegistered history commandId = true) ∧
          processor ∉ (afterHistory history).processors)) ∧
    ∀ {κ : Type w} {σ : Type x} (commandIdOf : κ → C) (call : σ → P → κ → σ × ResultCode)
      (state : σ) (command : κ),
      (∀ processor, ¬(afterHistory history).Delivers (commandIdOf command) processor) →
      ((afterHistory history).processSaCommands commandIdOf call state [command] =
          (state, .generalError) ↔
        everRegistered history (commandIdOf command) = false) := by
  constructor
  · intro commandIds processor unregistered
    rw [indistinguishable_iff, unregister_register_iff _ _ _ unregistered]
    simp only [isSome_afterHistory]
  · exact unhandled_refused_iff history

end Removal

theorem second_processor_leaves_no_trace :
    Indistinguishable
      (((afterHistory [.registerSaCommandProcessor [SaCommandId.turnOnSensorIllumination]
        (some 1)]).registerSaCommandProcessor [.turnOnSensorIllumination]
        (some 2)).unregisterSaCommandProcessor [.turnOnSensorIllumination] (some 2))
      (afterHistory [.registerSaCommandProcessor [SaCommandId.turnOnSensorIllumination]
        (some 1)]) := by
  have unregistered : ∀ commandId,
      ¬(afterHistory [.registerSaCommandProcessor [SaCommandId.turnOnSensorIllumination]
        (some 1)]).Delivers commandId 2 := by
    intro commandId delivers
    rw [delivers_afterHistory] at delivers
    simp [lastCall, LastUpdate.last, Registration.names, Registration.processor] at delivers
  refine ((removal_undoes_registration_iff.{0, 0, 0, 0} _).1 _ 2 unregistered).mpr ⟨?_, by decide⟩
  intro commandId named
  rw [List.mem_singleton.mp named]
  rfl

/-- After the only processor of an id has come and gone, its commands succeed though
nobody handles them; before, they were refused. -/
theorem removed_command_accepted :
    (∀ commandId, ¬(afterHistory [] : SaCommandManager SaCommandId Nat).Delivers commandId 1) ∧
      ¬Indistinguishable
        (((afterHistory []).registerSaCommandProcessor [SaCommandId.turnOnSensorIllumination]
          (some 1)).unregisterSaCommandProcessor [.turnOnSensorIllumination] (some 1))
        (afterHistory []) := by
  constructor
  · intro commandId delivers
    obtain ⟨set, entry, _⟩ := delivers
    cases entry
  · intro alike
    have same := congrArg Prod.snd
      (alike.processSaCommands SaCommandId (List (Nat × SaCommandId)) id accepting []
        [.turnOnSensorIllumination])
    -- success on the left, an error on the right
    exact absurd same (by decide)

end SaCommandManager

end FingerprintAuth

/-
The registry that hands a driver's commands to their processors.

Two indexes are kept over the same registrations: one per command id, read when
commands are delivered, and one of all processors, read when a driver disconnects.
The operations are generic in the ids, the processors and the state that the
processors act on, so the same loops serve the whole service and its tests.
-/

import FingerprintAuth.SaCommand
import FingerprintAuth.Library.OrderedSet
import FingerprintAuth.Library.StepMachine
import Mathlib.Tactic.Tauto

set_option autoImplicit false

namespace FingerprintAuth

universe u v w x

/-- `std::set` iterates in the order of the processors' addresses. Neither set
holds a null pointer, since `registerSaCommandProcessor` is the only writer and
refuses one; the null checks of the two loops are thereby typed away. -/
structure SaCommandManager (C : Type u) (P : Type v) [LinearOrder P] where
  commandId2Processors : C → Option (OrderedSet P)
  processors : OrderedSet P

namespace SaCommandManager

variable {C : Type u} {P : Type v} [LinearOrder P]

def empty : SaCommandManager C P :=
  { commandId2Processors := fun _ => none
    processors := OrderedSet.empty }

section Registration

variable [DecidableEq C]

/-- One round of the registration loop: an absent entry is made empty first. -/
def insertFor (processor : P) (table : C → Option (OrderedSet P)) (commandId : C) :
    C → Option (OrderedSet P) :=
  fun other =>
    if other = commandId then
      some (((table commandId).getD OrderedSet.empty).insert processor)
    else table other

/-- One round of the removal loop: an absent entry is left absent, and an entry
that becomes empty stays. -/
def eraseFor (processor : P) (table : C → Option (OrderedSet P)) (commandId : C) :
    C → Option (OrderedSet P) :=
  fun other =>
    if other = commandId then (table commandId).map (fun set => set.erase processor)
    else table other

def registerSaCommandProcessor (manager : SaCommandManager C P) (commandIds : List C)
    (processor : Option P) : SaCommandManager C P :=
  match processor with
  | none => manager
  | some processor =>
      { processors := manager.processors.insert processor
        commandId2Processors :=
          commandIds.foldl (insertFor processor) manager.commandId2Processors }

def unregisterSaCommandProcessor (manager : SaCommandManager C P) (commandIds : List C)
    (processor : Option P) : SaCommandManager C P :=
  match processor with
  | none => manager
  | some processor =>
      { processors := manager.processors.erase processor
        commandId2Processors :=
          commandIds.foldl (eraseFor processor) manager.commandId2Processors }

end Registration

section Delivery

variable {κ : Type w} {σ : Type x}

/-- The inner loop of `processSaCommands`: it stops at the first processor that
does not return success. -/
def processWith (call : σ → P → κ → σ × ResultCode) (command : κ) :
    σ → List P → σ × ResultCode
  | state, [] => (state, .success)
  | state, processor :: rest =>
      let (state, result) := call state processor command
      if result = .success then processWith call command state rest
      else (state, .generalError)

def processSaCommand (manager : SaCommandManager C P) (commandIdOf : κ → C)
    (call : σ → P → κ → σ × ResultCode) (state : σ) (command : κ) : σ × ResultCode :=
  match manager.commandId2Processors (commandIdOf command) with
  | none => (state, .generalError)
  | some processors => processWith call command state processors.toList

def processSaCommands (manager : SaCommandManager C P) (commandIdOf : κ → C)
    (call : σ → P → κ → σ × ResultCode) : σ → List κ → σ × ResultCode
  | state, [] => (state, .success)
  | state, command :: rest =>
      let (state, result) := manager.processSaCommand commandIdOf call state command
      if result = .success then manager.processSaCommands commandIdOf call state rest
      else (state, .generalError)

def onHdiDisconnect (manager : SaCommandManager C P) (notify : σ → P → σ) (state : σ) : σ :=
  manager.processors.toList.foldl notify state

end Delivery

/-! ### What a registration changes -/

/-- `processSaCommands` can hand a command with this id to this processor. -/
def Delivers (manager : SaCommandManager C P) (commandId : C) (processor : P) : Prop :=
  ∃ set, manager.commandId2Processors commandId = some set ∧ processor ∈ set

theorem table_ext {first second : SaCommandManager C P}
    (sameEntries : ∀ commandId, (first.commandId2Processors commandId).isSome =
      (second.commandId2Processors commandId).isSome)
    (sameDelivery : ∀ commandId processor,
      first.Delivers commandId processor ↔ second.Delivers commandId processor) :
    first.commandId2Processors = second.commandId2Processors := by
  funext commandId
  have entries := sameEntries commandId
  have delivery := sameDelivery commandId
  simp only [Delivers] at delivery
  cases inFirst : first.commandId2Processors commandId with
  | none =>
      rw [inFirst] at entries
      have absent := Option.isSome_eq_false_iff.mp entries.symm
      exact (Option.isNone_iff_eq_none.mp absent).symm
  | some firstSet =>
      rw [inFirst] at entries
      obtain ⟨secondSet, inSecond⟩ := Option.isSome_iff_exists.mp entries.symm
      rw [inSecond]
      congr 1
      refine OrderedSet.ext_mem fun processor => ?_
      simpa [inFirst, inSecond] using delivery processor

theorem eq_of_indexes {first second : SaCommandManager C P}
    (sameTable : first.commandId2Processors = second.commandId2Processors)
    (sameProcessors : first.processors = second.processors) : first = second := by
  cases first
  cases second
  cases sameTable
  cases sameProcessors
  rfl

def notified (manager : SaCommandManager C P) : List P :=
  manager.onHdiDisconnect (fun visited processor => visited ++ [processor]) []

theorem notified_eq (manager : SaCommandManager C P) :
    manager.notified = manager.processors.toList := by
  have collects : ∀ (items visited : List P),
      items.foldl (fun visited processor => visited ++ [processor]) visited = visited ++ items := by
    intro items
    induction items with
    | nil => intro visited; exact (List.append_nil visited).symm
    | cons head tail ih =>
        intro visited
        rw [List.foldl_cons, ih, List.append_assoc, List.singleton_append]
  exact collects manager.processors.toList []

section Registration

variable [DecidableEq C]

private theorem insertFor_holds (processor : P) (table : C → Option (OrderedSet P))
    (named commandId : C) (other : P) :
    (∃ set, insertFor processor table named commandId = some set ∧ other ∈ set) ↔
      (other = processor ∧ commandId = named) ∨
        ∃ set, table commandId = some set ∧ other ∈ set := by
  by_cases same : commandId = named
  · subst same
    cases entry : table commandId with
    | none => simp [insertFor, entry]
    | some set => simp [insertFor, entry]
  · simp [insertFor, same]

private theorem eraseFor_holds (processor : P) (table : C → Option (OrderedSet P))
    (named commandId : C) (other : P) :
    (∃ set, eraseFor processor table named commandId = some set ∧ other ∈ set) ↔
      ¬(other = processor ∧ commandId = named) ∧
        ∃ set, table commandId = some set ∧ other ∈ set := by
  by_cases same : commandId = named
  · subst same
    cases entry : table commandId with
    | none => simp [eraseFor, entry]
    | some set => simp [eraseFor, entry]
  · simp [eraseFor, same]

private theorem foldl_insertFor_holds (processor : P) (commandIds : List C)
    (table : C → Option (OrderedSet P)) (commandId : C) (other : P) :
    (∃ set, commandIds.foldl (insertFor processor) table commandId = some set ∧ other ∈ set) ↔
      (other = processor ∧ commandId ∈ commandIds) ∨
        ∃ set, table commandId = some set ∧ other ∈ set := by
  induction commandIds generalizing table with
  | nil => simp only [List.foldl_nil, List.not_mem_nil, and_false, false_or]
  | cons head tail ih =>
      rw [List.foldl_cons, ih, insertFor_holds, List.mem_cons]
      tauto

private theorem foldl_eraseFor_holds (processor : P) (commandIds : List C)
    (table : C → Option (OrderedSet P)) (commandId : C) (other : P) :
    (∃ set, commandIds.foldl (eraseFor processor) table commandId = some set ∧ other ∈ set) ↔
      ¬(other = processor ∧ commandId ∈ commandIds) ∧
        ∃ set, table commandId = some set ∧ other ∈ set := by
  induction commandIds generalizing table with
  | nil => simp only [List.foldl_nil, List.not_mem_nil, and_false, not_false_eq_true, true_and]
  | cons head tail ih =>
      rw [List.foldl_cons, ih, eraseFor_holds, List.mem_cons]
      tauto

private theorem foldl_insertFor_isSome (processor : P) (commandIds : List C)
    (table : C → Option (OrderedSet P)) (commandId : C) :
    (commandIds.foldl (insertFor processor) table commandId).isSome =
      (decide (commandId ∈ commandIds) || (table commandId).isSome) := by
  induction commandIds generalizing table with
  | nil => simp only [List.foldl_nil, List.not_mem_nil, decide_false, Bool.false_or]
  | cons head tail ih =>
      rw [List.foldl_cons, ih]
      by_cases same : commandId = head
      · simp [insertFor, same]
      · simp [insertFor, same]

private theorem foldl_eraseFor_isSome (processor : P) (commandIds : List C)
    (table : C → Option (OrderedSet P)) (commandId : C) :
    (commandIds.foldl (eraseFor processor) table commandId).isSome =
      (table commandId).isSome := by
  induction commandIds generalizing table with
  | nil => rfl
  | cons head tail ih =>
      rw [List.foldl_cons, ih]
      by_cases same : commandId = head
      · simp [eraseFor, same]
      · simp [eraseFor, same]

theorem delivers_register (manager : SaCommandManager C P) (commandIds : List C) (processor : P)
    (commandId : C) (other : P) :
    (manager.registerSaCommandProcessor commandIds (some processor)).Delivers commandId other ↔
      (other = processor ∧ commandId ∈ commandIds) ∨ manager.Delivers commandId other :=
  foldl_insertFor_holds processor commandIds manager.commandId2Processors commandId other

theorem delivers_unregister (manager : SaCommandManager C P) (commandIds : List C) (processor : P)
    (commandId : C) (other : P) :
    (manager.unregisterSaCommandProcessor commandIds (some processor)).Delivers commandId other ↔
      ¬(other = processor ∧ commandId ∈ commandIds) ∧ manager.Delivers commandId other :=
  foldl_eraseFor_holds processor commandIds manager.commandId2Processors commandId other

theorem isSome_register (manager : SaCommandManager C P) (commandIds : List C) (processor : P)
    (commandId : C) :
    ((manager.registerSaCommandProcessor commandIds (some processor)).commandId2Processors
        commandId).isSome =
      (decide (commandId ∈ commandIds) || (manager.commandId2Processors commandId).isSome) :=
  foldl_insertFor_isSome processor commandIds manager.commandId2Processors commandId

/-- Removal neither makes an entry nor takes one away. -/
theorem isSome_unregister (manager : SaCommandManager C P) (commandIds : List C) (processor : P)
    (commandId : C) :
    ((manager.unregisterSaCommandProcessor commandIds (some processor)).commandId2Processors
        commandId).isSome =
      (manager.commandId2Processors commandId).isSome :=
  foldl_eraseFor_isSome processor commandIds manager.commandId2Processors commandId

theorem mem_processors_register (manager : SaCommandManager C P) (commandIds : List C)
    (processor other : P) :
    other ∈ (manager.registerSaCommandProcessor commandIds (some processor)).processors ↔
      other = processor ∨ other ∈ manager.processors :=
  OrderedSet.mem_insert

theorem mem_processors_unregister (manager : SaCommandManager C P) (commandIds : List C)
    (processor other : P) :
    other ∈ (manager.unregisterSaCommandProcessor commandIds (some processor)).processors ↔
      other ≠ processor ∧ other ∈ manager.processors :=
  OrderedSet.mem_erase

theorem register_comm (manager : SaCommandManager C P) (firstIds secondIds : List C)
    (first second : Option P) :
    (manager.registerSaCommandProcessor firstIds first).registerSaCommandProcessor secondIds
        second =
      (manager.registerSaCommandProcessor secondIds second).registerSaCommandProcessor firstIds
        first := by
  cases first with
  | none => rfl
  | some first =>
      cases second with
      | none => rfl
      | some second =>
          apply eq_of_indexes
          · apply table_ext
            · intro commandId
              simp only [isSome_register]
              exact Bool.or_left_comm _ _ _
            · intro commandId processor
              simp only [delivers_register]
              exact or_left_comm
          · apply OrderedSet.ext_mem
            intro processor
            simp only [mem_processors_register]
            exact or_left_comm

end Registration

end SaCommandManager

end FingerprintAuth

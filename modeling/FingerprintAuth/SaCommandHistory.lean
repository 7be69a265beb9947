/-
Histories of registrations.

`processors_` decides who is told about a disconnect and `commandId2Processors_`
decides who is sent commands. Registration writes both by the same rule. Removal
takes a processor out of the first whatever ids it is given, and out of the second
for the given ids only, so the two agree exactly as long as every removal names all
the ids its processor is still registered for.
-/

import FingerprintAuth.SaCommandManager
import Mathlib.Data.Nat.Basic

set_option autoImplicit false

namespace FingerprintAuth

universe u v

inductive Registration (C : Type u) (P : Type v) where
  | registerSaCommandProcessor (commandIds : List C) (processor : Option P)
  | unregisterSaCommandProcessor (commandIds : List C) (processor : Option P)

namespace SaCommandManager

variable {C : Type u} {P : Type v} [LinearOrder P]

/-- Every processor that can be sent a command is told once about a disconnect. -/
def ToldAboutDisconnects (manager : SaCommandManager C P) : Prop :=
  ∀ commandId processor, manager.Delivers commandId processor →
    processor ∈ manager.processors ∧ manager.notified.count processor = 1

/-- A removal names every id its processor is registered for. -/
def NamesEveryId (manager : SaCommandManager C P) : Registration C P → Prop
  | .registerSaCommandProcessor _ _ => True
  | .unregisterSaCommandProcessor _ none => True
  | .unregisterSaCommandProcessor commandIds (some processor) =>
      ∀ commandId, manager.Delivers commandId processor → commandId ∈ commandIds

theorem toldAboutDisconnects_iff (manager : SaCommandManager C P) :
    manager.ToldAboutDisconnects ↔
      ∀ commandId processor, manager.Delivers commandId processor →
        processor ∈ manager.processors := by
  constructor
  · intro told commandId processor delivers
    exact (told commandId processor delivers).1
  · intro covered commandId processor delivers
    have member := covered commandId processor delivers
    refine ⟨member, ?_⟩
    rw [notified_eq]
    exact OrderedSet.count_of_mem member

theorem told_empty : (empty : SaCommandManager C P).ToldAboutDisconnects := by
  rw [toldAboutDisconnects_iff]
  rintro commandId processor ⟨set, entry, _⟩
  cases entry

section Updates

variable [DecidableEq C]

def update (manager : SaCommandManager C P) : Registration C P → SaCommandManager C P
  | .registerSaCommandProcessor commandIds processor =>
      manager.registerSaCommandProcessor commandIds processor
  | .unregisterSaCommandProcessor commandIds processor =>
      manager.unregisterSaCommandProcessor commandIds processor

private theorem told_register (manager : SaCommandManager C P) (commandIds : List C)
    (processor : P) (told : manager.ToldAboutDisconnects) :
    (manager.registerSaCommandProcessor commandIds (some processor)).ToldAboutDisconnects := by
  rw [toldAboutDisconnects_iff] at told ⊢
  intro commandId other delivers
  rw [mem_processors_register]
  rcases (delivers_register manager commandIds processor commandId other).mp delivers with
    added | before
  · exact Or.inl added.1
  · exact Or.inr (told commandId other before)

private theorem told_unregister_iff (manager : SaCommandManager C P) (commandIds : List C)
    (processor : P) (told : manager.ToldAboutDisconnects) :
    (manager.unregisterSaCommandProcessor commandIds (some processor)).ToldAboutDisconnects ↔
      ∀ commandId, manager.Delivers commandId processor → commandId ∈ commandIds := by
  rw [toldAboutDisconnects_iff] at told ⊢
  constructor
  · intro toldAfter commandId delivers
    by_cases named : commandId ∈ commandIds
    · exact named
    · -- the pair survives in one index while the processor has left the other
      have survives :
          (manager.unregisterSaCommandProcessor commandIds (some processor)).Delivers
            commandId processor :=
        (delivers_unregister manager commandIds processor commandId processor).mpr
          ⟨fun taken => named taken.2, delivers⟩
      have stillThere := toldAfter commandId processor survives
      rw [mem_processors_unregister] at stillThere
      exact absurd rfl stillThere.1
  · intro namesAll commandId other delivers
    obtain ⟨kept, before⟩ :=
      (delivers_unregister manager commandIds processor commandId other).mp delivers
    rw [mem_processors_unregister]
    refine ⟨?_, told commandId other before⟩
    intro same
    subst same
    exact kept ⟨rfl, namesAll commandId before⟩

/-- From a state where everybody is told, one call keeps it so exactly when a
removal names every id its processor is registered for. -/
theorem told_update_iff (manager : SaCommandManager C P) (call : Registration C P)
    (told : manager.ToldAboutDisconnects) :
    (manager.update call).ToldAboutDisconnects ↔ manager.NamesEveryId call := by
  cases call with
  | registerSaCommandProcessor commandIds processor =>
      cases processor with
      | none => exact iff_of_true told trivial
      | some processor => exact iff_of_true (told_register manager commandIds processor told) trivial
  | unregisterSaCommandProcessor commandIds processor =>
      cases processor with
      | none => exact iff_of_true told trivial
      | some processor => exact told_unregister_iff manager commandIds processor told

/-- Over a whole history, everybody who can be sent commands is told about a
disconnect in every state exactly when every removal names all the ids of its
processor. -/
theorem always_told_iff_namesEveryId (history : List (Registration C P)) :
    StepMachine.Always update ToldAboutDisconnects empty history ↔
      StepMachine.EachStep update NamesEveryId empty history :=
  StepMachine.always_iff_eachStep (fun _ => True) (fun _ => True)
    (fun _ _ _ => trivial) (fun manager call _ _ told => told_update_iff manager call told)
    trivial told_empty history (fun _ _ => trivial)

end Updates

/-- A processor registered for one id and removed for another is still sent
commands and no longer told about disconnects. -/
theorem partial_removal_leaves_untold :
    ¬StepMachine.Always update ToldAboutDisconnects (empty : SaCommandManager SaCommandId Nat)
      [.registerSaCommandProcessor [.other 600000] (some 1),
        .unregisterSaCommandProcessor [.other 100] (some 1)] := by
  intro always
  have told := always.last
  have delivers : (StepMachine.run update (empty : SaCommandManager SaCommandId Nat)
      [.registerSaCommandProcessor [.other 600000] (some 1),
        .unregisterSaCommandProcessor [.other 100] (some 1)]).Delivers (.other 600000) 1 :=
    ⟨_, rfl, by decide⟩
  exact absurd (told _ _ delivers).1 (by decide)

end SaCommandManager

end FingerprintAuth

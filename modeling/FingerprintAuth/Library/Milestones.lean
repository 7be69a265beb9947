/-
Leaving a region by milestones.

A region of states is left once a number of actions have been taken in order, whatever
is taken between them, if each of them lifts a rank that no step of the region lowers.
-/

import FingerprintAuth.Library.StepMachine
import Mathlib.Tactic.ByContra

set_option autoImplicit false

namespace StepMachine

universe u v

variable {σ : Type u} {α : Type v}

/-- `rank` counts the milestones that are behind a state of the region. -/
structure Milestones (step : σ → α → σ) (sound region : σ → Prop) (rank : σ → Nat)
    (milestones : List α) : Prop where
  soundKept : ∀ state action, sound state → sound (step state action)
  kept : ∀ state action, sound state → region state → region (step state action) →
    rank state ≤ rank (step state action)
  lifted : ∀ state action k, milestones[k]? = some action → sound state → region state →
    region (step state action) → k ≤ rank state → k + 1 ≤ rank (step state action)
  ahead : ∀ state, sound state → region state → rank state < milestones.length

variable {step : σ → α → σ} {sound region : σ → Prop} {rank : σ → Nat} {milestones : List α}

private theorem Milestones.not_sublist (rule : Milestones step sound region rank milestones)
    {start : σ} (soundStart : sound start) {actions : List α}
    (always : Always step region start actions) (k : Nat) (behind : k ≤ rank start) :
    ¬(milestones.drop k).Sublist actions := by
  induction actions generalizing start k with
  | nil =>
      intro taken
      have below := rule.ahead start soundStart always
      have none_ := List.sublist_nil.mp taken
      rw [List.drop_eq_nil_iff] at none_
      omega
  | cons action rest ih =>
      obtain ⟨here, later⟩ := always
      have next := rule.soundKept start action soundStart
      have monotone := rule.kept start action soundStart here later.first
      intro taken
      generalize split : milestones.drop k = ahead at taken
      cases taken with
      | cons _ skipped =>
          rw [← split] at skipped
          exact ih next later k (Nat.le_trans behind monotone) skipped
      | cons_cons _ hit =>
          rename_i tail
          have found : milestones[k]? = some action := by
            have head := congrArg List.head? split
            rwa [List.head?_drop] at head
          have rest_ : milestones.drop (k + 1) = tail := by
            have tails := congrArg List.tail split
            rwa [List.tail_drop] at tails
          have lifted := rule.lifted start action k found soundStart here later.first behind
          exact ih next later (k + 1) lifted (by rw [rest_]; exact hit)

theorem Milestones.leaves (rule : Milestones step sound region rank milestones) {start : σ}
    (soundStart : sound start) {actions : List α} (taken : milestones.Sublist actions) :
    ∃ before after, actions = before ++ after ∧ ¬region (run step start before) := by
  by_contra never
  have always : Always step region start actions := by
    rw [always_iff_cut]
    intro before after split
    by_contra left
    exact never ⟨before, after, split, left⟩
  exact rule.not_sublist soundStart always 0 (Nat.zero_le _) taken

end StepMachine

/-
Scripts that stop at the first failure.

The items of a script are performed in order on a state until one of them fails;
the item that fails is the last one performed. Loops with an early exit, nested
ones included, are scripts over the list of their innermost rounds.
-/

set_option autoImplicit false

namespace FailStop

universe u v w

variable {σ : Type u} {ι : Type v} {β : Type w}

/-- `performed` ends with the item that failed, if one did. -/
structure Outcome (σ : Type u) (ι : Type v) where
  state : σ
  performed : List ι
  succeeded : Bool

def perform (step : σ → ι → σ × Bool) : σ → List ι → Outcome σ ι
  | state, [] =>
      { state := state
        performed := []
        succeeded := true }
  | state, item :: rest =>
      if (step state item).2 then
        let later := perform step (step state item).1 rest
        { later with performed := item :: later.performed }
      else
        { state := (step state item).1
          performed := [item]
          succeeded := false }

def noting (step : σ → ι → σ × Bool) (note : ι → Option β) :
    σ × List β → ι → (σ × List β) × Bool :=
  fun noted item =>
    (((step noted.1 item).1, noted.2 ++ (note item).toList), (step noted.1 item).2)

def Outcome.andThen (outcome : Outcome σ ι) (next : σ → Outcome σ ι) : Outcome σ ι :=
  if outcome.succeeded then
    let later := next outcome.state
    { later with performed := outcome.performed ++ later.performed }
  else outcome

section Performing

variable (step : σ → ι → σ × Bool)

theorem perform_cons_passed (state : σ) (item : ι) (rest : List ι)
    (passed : (step state item).2 = true) :
    perform step state (item :: rest) =
      { perform step (step state item).1 rest with
        performed := item :: (perform step (step state item).1 rest).performed } := by
  rw [perform, if_pos passed]

theorem perform_cons_failed (state : σ) (item : ι) (rest : List ι)
    (failed : (step state item).2 = false) :
    perform step state (item :: rest) =
      { state := (step state item).1
        performed := [item]
        succeeded := false } := by
  rw [perform, failed]
  rfl

theorem perform_append (state : σ) (first second : List ι) :
    perform step state (first ++ second) =
      (perform step state first).andThen (fun middle => perform step middle second) := by
  induction first generalizing state with
  | nil => rfl
  | cons item rest ih =>
      rw [List.cons_append]
      cases passed : (step state item).2 with
      | true =>
          rw [perform_cons_passed step state item _ passed,
            perform_cons_passed step state item _ passed, ih]
          unfold Outcome.andThen
          simp only
          split <;> rfl
      | false =>
          rw [perform_cons_failed step state item _ passed,
            perform_cons_failed step state item _ passed]
          rfl

theorem perform_noting (note : ι → Option β) (state : σ) (notes : List β) (items : List ι) :
    perform (noting step note) (state, notes) items =
      { state := ((perform step state items).state,
          notes ++ (perform step state items).performed.filterMap note)
        performed := (perform step state items).performed
        succeeded := (perform step state items).succeeded } := by
  induction items generalizing state notes with
  | nil => simp [perform]
  | cons item rest ih =>
      have collected : ∀ later : List ι,
          (notes ++ (note item).toList) ++ later.filterMap note =
            notes ++ (item :: later).filterMap note := by
        intro later
        cases noted : note item with
        | none => simp [noted]
        | some value => simp [noted]
      cases passed : (step state item).2 with
      | true =>
          rw [perform_cons_passed (noting step note) (state, notes) item rest passed,
            perform_cons_passed step state item rest passed, noting, ih]
          simp only [collected]
      | false =>
          rw [perform_cons_failed (noting step note) (state, notes) item rest passed,
            perform_cons_failed step state item rest passed, noting]
          simp only [← collected [], List.filterMap_nil, List.append_nil]

theorem performed_of_succeeded (state : σ) (items : List ι)
    (succeeded : (perform step state items).succeeded = true) :
    (perform step state items).performed = items := by
  induction items generalizing state with
  | nil => rfl
  | cons item rest ih =>
      cases passed : (step state item).2 with
      | true =>
          rw [perform_cons_passed step state item rest passed] at succeeded ⊢
          simp only at succeeded ⊢
          rw [ih _ succeeded]
      | false =>
          rw [perform_cons_failed step state item rest passed] at succeeded
          cases succeeded

/-- A script that fails is cut right after an item that fails: the items before it
succeed, and those after it are not performed. -/
theorem performed_of_failed (state : σ) (items : List ι)
    (failed : (perform step state items).succeeded = false) :
    ∃ before item after, items = before ++ item :: after ∧
      (perform step state items).performed = before ++ [item] ∧
      (perform step state before).succeeded = true ∧
      (step (perform step state before).state item).2 = false := by
  induction items generalizing state with
  | nil => cases failed
  | cons head tail ih =>
      cases passed : (step state head).2 with
      | true =>
          rw [perform_cons_passed step state head tail passed] at failed ⊢
          simp only at failed ⊢
          obtain ⟨before, item, after, split, cut, sound, fails⟩ := ih _ failed
          refine ⟨head :: before, item, after, ?_, ?_, ?_, ?_⟩
          · rw [split]
            rfl
          · rw [cut]
            rfl
          · rw [perform_cons_passed step state head before passed]
            exact sound
          · rw [perform_cons_passed step state head before passed]
            exact fails
      | false =>
          rw [perform_cons_failed step state head tail passed]
          exact ⟨[], head, tail, rfl, rfl, rfl, passed⟩

end Performing

end FailStop

/-
A log whose entries are each about at most one subject, read through an automaton.

Every subject goes through its own stages. An entry about it must be allowed in the
stage it has reached; entries about others do not concern it.
-/

set_option autoImplicit false

namespace SubjectLog

universe u v w

variable {ε : Type u} {ι : Type v} {φ : Type w} [DecidableEq ι]

/-- The stage a subject has reached after the log, or `none` if the log has an entry
about it that its stage does not allow. -/
def stageFrom (about : ε → Option ι) (next : φ → ε → Option φ) (subject : ι) :
    φ → List ε → Option φ
  | stage, [] => some stage
  | stage, entry :: rest =>
      if about entry = some subject then
        match next stage entry with
        | none => none
        | some stage => stageFrom about next subject stage rest
      else stageFrom about next subject stage rest

section Reading

variable (about : ε → Option ι) (next : φ → ε → Option φ) (subject : ι)

theorem stageFrom_append (stage : φ) (first second : List ε) :
    stageFrom about next subject stage (first ++ second) =
      (stageFrom about next subject stage first).bind
        (fun middle => stageFrom about next subject middle second) := by
  induction first generalizing stage with
  | nil => rfl
  | cons entry rest ih =>
      simp only [List.cons_append, stageFrom]
      split
      · cases next stage entry with
        | none => rfl
        | some middle => exact ih middle
      · exact ih stage

theorem stageFrom_of_other (stage : φ) (log : List ε)
    (other : ∀ entry, entry ∈ log → about entry ≠ some subject) :
    stageFrom about next subject stage log = some stage := by
  induction log with
  | nil => rfl
  | cons entry rest ih =>
      rw [stageFrom, if_neg (other entry List.mem_cons_self)]
      exact ih (fun later member => other later (List.mem_cons_of_mem _ member))

theorem stageFrom_extend {start stage : φ} {log : List ε}
    (reached : stageFrom about next subject start log = some stage) (more : List ε) :
    stageFrom about next subject start (log ++ more) = stageFrom about next subject stage more := by
  rw [stageFrom_append, reached]
  rfl

end Reading

end SubjectLog

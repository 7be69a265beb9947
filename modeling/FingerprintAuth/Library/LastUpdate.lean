/-
What the last update of a history says about a key.

An update names some keys and carries one value for all of them; the value of a key
is the one that the last update naming it carries. The account is the specification
of a table that updates write to: it forgets everything but the last word on a key.
-/

set_option autoImplicit false

namespace LastUpdate

universe u v w

variable {ε : Type u} {ι : Type v} {β : Type w}

def last (names : ε → ι → Bool) (value : ε → β) (key : ι) : List ε → Option β
  | [] => none
  | update :: rest =>
      match last names value key rest with
      | some later => some later
      | none => if names update key then some (value update) else none

section Reading

variable (names : ε → ι → Bool) (value : ε → β) (key : ι)

theorem last_append (first second : List ε) :
    last names value key (first ++ second) =
      (last names value key second).or (last names value key first) := by
  induction first with
  | nil => exact (Option.or_none).symm
  | cons update rest ih =>
      rw [List.cons_append, last, ih]
      cases last names value key second with
      | some later => rfl
      | none => rfl

theorem last_eq_none_iff (history : List ε) :
    last names value key history = none ↔
      ∀ update, update ∈ history → names update key = false := by
  induction history with
  | nil =>
      constructor
      · intro _ update member
        cases member
      · intro _
        rfl
  | cons head tail ih =>
      rw [last, List.forall_mem_cons, ← ih]
      cases last names value key tail with
      | some later => simp
      | none => simp

/-- The definition in words: some update that names the key carries the value, and
no later one names the key. -/
theorem last_eq_some_iff (history : List ε) (result : β) :
    last names value key history = some result ↔
      ∃ before update after, history = before ++ update :: after ∧
        names update key = true ∧ value update = result ∧
        ∀ later, later ∈ after → names later key = false := by
  constructor
  · intro found
    induction history with
    | nil => cases found
    | cons head tail ih =>
        rw [last] at found
        cases later : last names value key tail with
        | some laterResult =>
            rw [later] at found ih
            obtain ⟨before, update, after, split, facts⟩ := ih found
            exact ⟨head :: before, update, after, by rw [split]; rfl, facts⟩
        | none =>
            rw [later] at found
            by_cases named : names head key = true
            · simp only [named, if_true, Option.some.injEq] at found
              exact ⟨[], head, tail, rfl, named, found,
                (last_eq_none_iff names value key tail).mp later⟩
            · simp only [named] at found
              cases found
  · intro found
    obtain ⟨before, update, after, split, named, carries, untouched⟩ := found
    rw [split, last_append, last, (last_eq_none_iff names value key after).mpr untouched]
    simp [named, carries]

theorem last_swap (before after : List ε) (first second : ε)
    (apart : ¬(names first key = true ∧ names second key = true)) :
    last names value key (before ++ first :: second :: after) =
      last names value key (before ++ second :: first :: after) := by
  have swapped : last names value key (first :: second :: after) =
      last names value key (second :: first :: after) := by
    simp only [last]
    cases last names value key after with
    | some later => rfl
    | none =>
        by_cases namedFirst : names first key = true
        · have notSecond : names second key = false := by
            rw [← Bool.not_eq_true]
            intro namedSecond
            exact apart ⟨namedFirst, namedSecond⟩
          simp [namedFirst, notSecond]
        · by_cases namedSecond : names second key = true
          · simp [namedFirst, namedSecond]
          · simp [namedFirst, namedSecond]
  rw [last_append, last_append, swapped]

end Reading

end LastUpdate

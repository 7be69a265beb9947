/-
A register and the updates that are on their way to it.

The register settles to the newest update once all of them have landed in order. The
lemmas say how the settled value moves when an update is sent, lands, or is dropped.
-/

set_option autoImplicit false

namespace InFlight

universe u

variable {β : Type u}

/-- The value of the register once the updates have landed in order. -/
def settled (value : β) (updates : List β) : β := updates.getLastD value

@[simp]
theorem settled_nil (value : β) : settled value [] = value := rfl

@[simp]
theorem settled_cons (value update : β) (rest : List β) :
    settled value (update :: rest) = settled update rest := List.getLastD_cons

@[simp]
theorem settled_snoc (value update : β) (updates : List β) :
    settled value (updates ++ [update]) = update := by
  induction updates generalizing value with
  | nil => rfl
  | cons head tail ih => exact (settled_cons value head _).trans (ih head)

theorem settled_append (value : β) (first second : List β) :
    settled value (first ++ second) = settled (settled value first) second := by
  induction first generalizing value with
  | nil => rfl
  | cons head tail ih => rw [List.cons_append, settled_cons, settled_cons, ih]

/-- Behind an update on its way the register's own value does not matter. -/
theorem settled_congr {updates : List β} (some_ : updates ≠ []) (first second : β) :
    settled first updates = settled second updates := by
  cases updates with
  | nil => exact absurd rfl some_
  | cons head tail => rw [settled_cons, settled_cons]

theorem settled_eraseIdx (value : β) (updates : List β) (i : Nat) (older : i + 1 < updates.length) :
    settled value (updates.eraseIdx i) = settled value updates := by
  induction updates generalizing value i with
  | nil => rfl
  | cons head tail ih =>
      cases i with
      | zero =>
          have some_ : tail ≠ [] := by
            intro none_
            rw [none_] at older
            exact absurd older (Nat.lt_irrefl 1)
          rw [List.eraseIdx_cons_zero, settled_cons]
          exact settled_congr some_ value head
      | succ i =>
          rw [List.eraseIdx_cons_succ, settled_cons, settled_cons]
          exact ih head i (Nat.lt_of_succ_lt_succ older)

end InFlight

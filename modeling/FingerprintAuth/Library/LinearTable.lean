/-
Tables of breakpoints: where a value stands among the keys, and the arithmetic of a
linear difference that is truncated towards zero.
-/

set_option autoImplicit false

namespace LinearTable

universe u

variable {ρ : Type u}

/-- Where a value stands among the keys of a table. -/
inductive Place (key : ρ → Int) (rows : List ρ) (value : Int) : Prop where
  | below (row : ρ) (rest : List ρ) (table : rows = row :: rest) (less : value < key row)
  | listed (before : List ρ) (row : ρ) (after : List ρ) (table : rows = before ++ row :: after)
      (same : value = key row)
  | between (before : List ρ) (previous row : ρ) (after : List ρ)
      (table : rows = before ++ previous :: row :: after)
      (more : key previous < value) (less : value < key row)
  | above (greater : ∀ row, row ∈ rows → key row < value)

section Places

variable (key : ρ → Int)

theorem place (rows : List ρ) (value : Int) : Place key rows value := by
  induction rows with
  | nil =>
      refine .above ?_
      intro row member
      cases member
  | cons head tail ih =>
      rcases Int.lt_trichotomy value (key head) with less | same | more
      · exact .below head tail rfl less
      · exact .listed [] head tail rfl same
      · cases ih with
        | below row rest table less =>
            rw [table]
            exact .between [] head row rest rfl more less
        | listed before row after table same =>
            rw [table]
            exact .listed (head :: before) row after rfl same
        | between before previous row after table above less =>
            rw [table]
            exact .between (head :: before) previous row after rfl above less
        | above greater =>
            refine .above ?_
            intro row member
            rcases List.mem_cons.mp member with atHead | inTail
            · rw [atHead]
              exact more
            · exact greater row inTail

theorem key_lt_of_before {before : List ρ} {row : ρ} {after : List ρ}
    (increasing : (before ++ row :: after).Pairwise (fun first second => key first < key second))
    {earlier : ρ} (member : earlier ∈ before) : key earlier < key row :=
  (List.pairwise_append.mp increasing).2.2 earlier member row List.mem_cons_self

end Places

/-! ### Truncation -/

def truncate (value : Rat) : Int := value.num.tdiv value.den

/-- Truncating a quotient of integers is their truncating division. -/
theorem truncate_div (dividend divisor : Int) (positive : 0 < divisor) :
    truncate ((dividend : Rat) / (divisor : Rat)) = dividend.tdiv divisor := by
  generalize quotient : (dividend : Rat) / (divisor : Rat) = value
  rw [← Rat.divInt_eq_div] at quotient
  -- numerator and denominator are those of the quotient up to a common factor
  have crossed : dividend * value.den = value.num * divisor := by
    rw [← Rat.num_divInt_den value] at quotient
    exact (Rat.divInt_eq_divInt_iff (Int.ne_of_gt positive)
      (Int.natCast_ne_zero.mpr value.den_nz)).mp quotient
  have denPositive : (0 : Int) < value.den := Int.natCast_pos.mpr value.den_pos
  calc
    value.num.tdiv value.den
        = (divisor * value.num).tdiv (divisor * value.den) :=
          (Int.mul_tdiv_mul_of_pos _ _ positive).symm
    _ = (value.den * dividend).tdiv (value.den * divisor) := by
          rw [Int.mul_comm divisor, ← crossed, Int.mul_comm dividend, Int.mul_comm divisor]
    _ = dividend.tdiv divisor := Int.mul_tdiv_mul_of_pos _ _ denPositive

theorem neg_one_lt_div_iff (dividend divisor : Int) (positive : 0 < divisor) :
    (-1 : Rat) < (dividend : Rat) / (divisor : Rat) ↔ -divisor < dividend := by
  have positiveRat : (0 : Rat) < (divisor : Rat) := Rat.intCast_pos.mpr positive
  rw [Rat.lt_div_iff positiveRat]
  have cast : (-1 : Rat) * (divisor : Rat) = ((-divisor : Int) : Rat) := by
    rw [Rat.neg_mul, Rat.one_mul, Rat.intCast_neg]
  rw [cast, Rat.intCast_lt_intCast]

section Differences

variable {gap distance width : Int}

theorem rising_difference (rises : 0 ≤ gap) (inside : 0 ≤ distance ∧ distance ≤ width)
    (positive : 0 < width) :
    0 ≤ (gap * distance).tdiv width ∧ (gap * distance).tdiv width ≤ gap := by
  have product : 0 ≤ gap * distance := Int.mul_nonneg rises inside.1
  constructor
  · exact Int.tdiv_nonneg product (Int.le_of_lt positive)
  · have bound := Int.tdiv_le_of_le_mul positive (Int.mul_le_mul_of_nonneg_left inside.2 rises)
    rw [if_pos product, Int.add_zero] at bound
    exact bound

theorem falling_difference {difference : Int} (falls : difference ≤ 0)
    (lessThanOne : -width < difference) : difference.tdiv width = 0 := by
  have small : (-difference).tdiv width = 0 :=
    Int.tdiv_eq_zero_of_lt (by omega) (by omega)
  rw [Int.neg_tdiv] at small
  omega

end Differences

end LinearTable

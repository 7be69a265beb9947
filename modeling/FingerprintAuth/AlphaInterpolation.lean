/-
How sound the interpolation of the background's alpha is.

The search and the interpolation are evaluated a second time with every step checked
that the language leaves undefined or the build's sanitizer stops: the index of the
previous row, the division, the conversion to `uint32_t` and the addition. The
conversion is the only check that ever fails, on segments that fall by one or more.
-/

import FingerprintAuth.BackgroundAlpha
import FingerprintAuth.Library.LinearTable
import FingerprintAuth.Library.SignedReading

set_option autoImplicit false

namespace FingerprintAuth

inductive Trap where
  | indexOutOfBounds
  | divisionByZero
  | conversionOutOfRange
  | additionOverflow
deriving DecidableEq, Repr

def linearDifference (currScreenBrightness : Int) (previous row : BrightnessAndAlpha) : Rat :=
  (((row.alpha.toNat : Int) : Rat) - ((previous.alpha.toNat : Int) : Rat)) /
      (((row.brightness.toNat : Int) : Rat) - ((previous.brightness.toNat : Int) : Rat)) *
    ((currScreenBrightness : Rat) - ((previous.brightness.toNat : Int) : Rat))

namespace Checked

def rowAt (i : Nat) : Except Trap BrightnessAndAlpha :=
  match brightnessAndAlpha[i]? with
  | some row => .ok row
  | none => .error .indexOutOfBounds

/-- The row at `i - 1`, an index that wraps for row 0. -/
def rowBefore : Nat → Except Trap BrightnessAndAlpha
  | 0 => .error .indexOutOfBounds
  | i + 1 => rowAt i

def divide (dividend divisor : Rat) : Except Trap Rat :=
  if divisor = 0 then .error .divisionByZero else .ok (dividend / divisor)

def toUInt32 (value : Rat) : Except Trap UInt32 :=
  if -1 < value ∧ value < 4294967296 then .ok (UInt32.ofNat (value.num.tdiv value.den).toNat)
  else .error .conversionOutOfRange

def add (first second : UInt32) : Except Trap UInt32 :=
  if first.toNat + second.toNat < 4294967296 then .ok (first + second)
  else .error .additionOverflow

def interpolate (currScreenBrightness : Int) (previous row : BrightnessAndAlpha) :
    Except Trap UInt32 := do
  let gapBrightnessDiff : Rat := (row.brightness.toNat : Int) - (previous.brightness.toNat : Int)
  let gapAlphaDiff : Rat := (row.alpha.toNat : Int) - (previous.alpha.toNat : Int)
  let slope ← divide gapAlphaDiff gapBrightnessDiff
  let currBrightnessDiff : Rat := currScreenBrightness - (previous.brightness.toNat : Int)
  let currAlphaDiff ← toUInt32 (slope * currBrightnessDiff)
  add previous.alpha.toUInt32 currAlphaDiff

def alphaAtRow (currScreenBrightness : Int) (i : Nat) : Except Trap (Option UInt32) := do
  let row ← rowAt i
  if currScreenBrightness > row.brightness.toNat then
    return none
  else if currScreenBrightness = row.brightness.toNat ∨ i = 0 then
    return some row.alpha.toUInt32
  else
    let previous ← rowBefore i
    let alpha ← interpolate currScreenBrightness previous row
    return some alpha

def search (currScreenBrightness : Int) : List Nat → Except Trap (Option UInt32)
  | [] => .ok none
  | i :: rest => do
      match ← alphaAtRow currScreenBrightness i with
      | some alpha => return some alpha
      | none => search currScreenBrightness rest

def getBackgroundAlpha (currScreenBrightness : Int32) : Except Trap (Option UInt32) :=
  search currScreenBrightness.toInt (List.range brightnessAndAlpha.length)

/-! ### The checks change nothing -/

theorem bind_eq_ok {ε α β : Type} {first : Except ε α} {next : α → Except ε β} {result : β}
    (finished : (first >>= next) = .ok result) :
    ∃ middle, first = .ok middle ∧ next middle = .ok result := by
  cases first with
  | error trap => cases finished
  | ok middle => exact ⟨middle, rfl, finished⟩

theorem rowAt_eq_ok {i : Nat} {row : BrightnessAndAlpha} (found : rowAt i = .ok row) :
    brightnessRow i = row := by
  rw [rowAt] at found
  rw [brightnessRow, List.getD_eq_getElem?_getD]
  cases entry : brightnessAndAlpha[i]? with
  | none =>
      rw [entry] at found
      cases found
  | some other =>
      rw [entry] at found
      cases found
      rfl

theorem divide_eq_ok {dividend divisor quotient : Rat}
    (done : divide dividend divisor = .ok quotient) : quotient = dividend / divisor := by
  rw [divide] at done
  split at done
  · cases done
  · cases done
    rfl

theorem toUInt32_eq_ok {value : Rat} {converted : UInt32} (done : toUInt32 value = .ok converted)
    (undefinedConversion : UInt32) : converted = floatToUInt32 undefinedConversion value := by
  rw [toUInt32] at done
  split at done
  · rename_i inRange
    cases done
    exact (if_pos inRange).symm
  · cases done

theorem add_eq_ok {first second sum : UInt32} (done : add first second = .ok sum) :
    sum = first + second := by
  rw [add] at done
  split at done
  · cases done
    rfl
  · cases done

theorem alphaAtRow_eq_ok {currScreenBrightness : Int} {i : Nat} {alpha : Option UInt32}
    (done : alphaAtRow currScreenBrightness i = .ok alpha) (undefinedConversion : UInt32) :
    FingerprintAuth.alphaAtRow undefinedConversion currScreenBrightness i = alpha := by
  obtain ⟨row, atRow, done⟩ := bind_eq_ok done
  rw [FingerprintAuth.alphaAtRow, rowAt_eq_ok atRow]
  split at done
  · rename_i darker
    cases done
    exact if_pos darker
  · rename_i notDarker
    rw [if_neg notDarker]
    split at done
    · rename_i listed
      cases done
      exact if_pos listed
    · rename_i between
      rw [if_neg between]
      cases i with
      | zero => exact absurd (Or.inr rfl) between
      | succ i =>
          obtain ⟨previous, atPrevious, done⟩ := bind_eq_ok done
          obtain ⟨sum, interpolated, done⟩ := bind_eq_ok done
          obtain ⟨slope, divided, interpolated⟩ := bind_eq_ok interpolated
          obtain ⟨difference, converted, added⟩ := bind_eq_ok interpolated
          cases done
          rw [add_eq_ok added, toUInt32_eq_ok converted undefinedConversion, divide_eq_ok divided,
            currAlphaDiff, rowAt_eq_ok atRow, Nat.add_sub_cancel, rowAt_eq_ok atPrevious]

theorem search_eq_ok {currScreenBrightness : Int} {indexes : List Nat} {alpha : Option UInt32}
    (done : search currScreenBrightness indexes = .ok alpha) (undefinedConversion : UInt32) :
    indexes.findSome? (FingerprintAuth.alphaAtRow undefinedConversion currScreenBrightness) =
      alpha := by
  induction indexes with
  | nil =>
      cases done
      rfl
  | cons i rest ih =>
      obtain ⟨round, atRow, done⟩ := bind_eq_ok done
      rw [List.findSome?_cons, alphaAtRow_eq_ok atRow undefinedConversion]
      cases round with
      | some found =>
          cases done
          rfl
      | none => exact ih done

/-- An evaluation in which no check fails gives what the source returns. -/
theorem getBackgroundAlpha_eq_ok {currScreenBrightness : Int32} {alpha : Option UInt32}
    (done : getBackgroundAlpha currScreenBrightness = .ok alpha) (undefinedConversion : UInt32) :
    FingerprintAuth.getBackgroundAlpha undefinedConversion currScreenBrightness = alpha :=
  search_eq_ok done undefinedConversion

/-! ### The search -/

def key (row : BrightnessAndAlpha) : Int := row.brightness.toNat

theorem table_increasing :
    brightnessAndAlpha.Pairwise (fun first second => key first < key second) := by
  decide

theorem rowAt_of_split {before : List BrightnessAndAlpha} {row : BrightnessAndAlpha}
    {after : List BrightnessAndAlpha} (table : brightnessAndAlpha = before ++ row :: after) :
    rowAt before.length = .ok row := by
  rw [rowAt, table, List.getElem?_append_right (Nat.le_refl _), Nat.sub_self]
  rfl

theorem alphaAtRow_passed {currScreenBrightness : Int} {i : Nat} {row : BrightnessAndAlpha}
    (atRow : rowAt i = .ok row) (darker : key row < currScreenBrightness) :
    alphaAtRow currScreenBrightness i = .ok none := by
  rw [alphaAtRow, atRow]
  exact if_pos darker

theorem search_append_passed {currScreenBrightness : Int} {first : List Nat} (second : List Nat)
    (passed : ∀ i, i ∈ first → alphaAtRow currScreenBrightness i = .ok none) :
    search currScreenBrightness (first ++ second) = search currScreenBrightness second := by
  induction first with
  | nil => rfl
  | cons i rest ih =>
      rw [List.cons_append, search, passed i List.mem_cons_self]
      exact ih (fun j member => passed j (List.mem_cons_of_mem i member))

theorem passed_before {currScreenBrightness : Int} {before after : List BrightnessAndAlpha}
    (table : brightnessAndAlpha = before ++ after)
    (darker : ∀ row, row ∈ before → key row < currScreenBrightness) :
    ∀ i, i ∈ List.range before.length → alphaAtRow currScreenBrightness i = .ok none := by
  intro i inRange
  have below := List.mem_range.mp inRange
  have entry : brightnessAndAlpha[i]? = some before[i] := by
    rw [table, List.getElem?_append_left below, List.getElem?_eq_getElem below]
  have atRow : rowAt i = .ok before[i] := by rw [rowAt, entry]
  exact alphaAtRow_passed atRow (darker _ (List.getElem_mem below))

theorem search_at {currScreenBrightness : Int} {before : List BrightnessAndAlpha}
    {row : BrightnessAndAlpha} {after : List BrightnessAndAlpha}
    {outcome : Except Trap (Option UInt32)}
    (table : brightnessAndAlpha = before ++ row :: after)
    (darker : ∀ earlier, earlier ∈ before → key earlier < currScreenBrightness)
    (here : alphaAtRow currScreenBrightness before.length = outcome)
    (stops : outcome ≠ .ok none) :
    search currScreenBrightness (List.range brightnessAndAlpha.length) = outcome := by
  have indexes : List.range brightnessAndAlpha.length =
      List.range before.length ++
        before.length :: (List.range after.length).map (fun i => before.length + (i + 1)) := by
    rw [table, List.length_append, List.length_cons, List.range_add, List.range_succ_eq_map,
      List.map_cons, List.map_map]
    rfl
  rw [indexes, search_append_passed _ (passed_before table darker), search, here]
  cases outcome with
  | error trap => rfl
  | ok alpha =>
      cases alpha with
      | none => exact absurd rfl stops
      | some alpha => rfl

theorem search_above {currScreenBrightness : Int}
    (darker : ∀ row, row ∈ brightnessAndAlpha → key row < currScreenBrightness) :
    search currScreenBrightness (List.range brightnessAndAlpha.length) = .ok none := by
  have passed := passed_before (List.append_nil brightnessAndAlpha).symm darker
  rw [← List.append_nil (List.range _), search_append_passed [] passed]
  rfl

theorem search_listed {currScreenBrightness : Int} {before : List BrightnessAndAlpha}
    {row : BrightnessAndAlpha} {after : List BrightnessAndAlpha}
    (table : brightnessAndAlpha = before ++ row :: after)
    (listed : currScreenBrightness = key row) :
    search currScreenBrightness (List.range brightnessAndAlpha.length) =
      .ok (some row.alpha.toUInt32) := by
  have increasing := table_increasing
  rw [table] at increasing
  have here : alphaAtRow currScreenBrightness before.length = .ok (some row.alpha.toUInt32) := by
    rw [alphaAtRow, rowAt_of_split table, listed]
    exact (if_neg (Int.lt_irrefl _)).trans (if_pos (Or.inl rfl))
  refine search_at table ?_ here nofun
  intro earlier member
  rw [listed]
  exact LinearTable.key_lt_of_before key increasing member

theorem search_below {currScreenBrightness : Int} {row : BrightnessAndAlpha}
    {rest : List BrightnessAndAlpha} (table : brightnessAndAlpha = row :: rest)
    (below : currScreenBrightness < key row) :
    search currScreenBrightness (List.range brightnessAndAlpha.length) =
      .ok (some row.alpha.toUInt32) := by
  have atRow : rowAt 0 = .ok row := by
    rw [rowAt, table]
    rfl
  have here : alphaAtRow currScreenBrightness 0 = .ok (some row.alpha.toUInt32) := by
    rw [alphaAtRow, atRow]
    exact (if_neg (Int.not_lt.mpr (Int.le_of_lt below))).trans (if_pos (Or.inr rfl))
  have split : brightnessAndAlpha = [] ++ row :: rest := table
  exact search_at split nofun here nofun

theorem search_between {currScreenBrightness : Int} {before : List BrightnessAndAlpha}
    {previous row : BrightnessAndAlpha} {after : List BrightnessAndAlpha}
    (table : brightnessAndAlpha = before ++ previous :: row :: after)
    (more : key previous < currScreenBrightness) (less : currScreenBrightness < key row) :
    search currScreenBrightness (List.range brightnessAndAlpha.length) =
      (interpolate currScreenBrightness previous row).map some := by
  have increasing := table_increasing
  rw [table] at increasing
  have split : brightnessAndAlpha = (before ++ [previous]) ++ row :: after := by
    rw [table, List.append_assoc]
    rfl
  have index : (before ++ [previous]).length = before.length + 1 := List.length_append
  have atRow := rowAt_of_split split
  rw [index] at atRow
  have here : alphaAtRow currScreenBrightness (before.length + 1) =
      (interpolate currScreenBrightness previous row).map some := by
    have notListed : ¬(currScreenBrightness = key row ∨ before.length + 1 = 0) := by omega
    rw [alphaAtRow, atRow]
    refine (if_neg (Int.not_lt.mpr (Int.le_of_lt less))).trans ((if_neg notListed).trans ?_)
    rw [rowBefore, rowAt_of_split table]
    cases interpolated : interpolate currScreenBrightness previous row with
    | error trap =>
        simp only [bind, Except.bind, interpolated]
        rfl
    | ok alpha =>
        simp only [bind, Except.bind, interpolated]
        rfl
  rw [← index] at here
  refine search_at split ?_ here ?_
  · intro earlier member
    rcases List.mem_append.mp member with inBefore | isPrevious
    · exact Int.lt_trans (LinearTable.key_lt_of_before key increasing inBefore) more
    · rw [List.mem_singleton.mp isPrevious]
      exact more
  · cases interpolate currScreenBrightness previous row with
    | error trap => exact nofun
    | ok alpha => exact nofun

/-! ### The interpolation -/

section Interpolation

variable {currScreenBrightness : Int} {previous row : BrightnessAndAlpha}

def scaledDifference (currScreenBrightness : Int) (previous row : BrightnessAndAlpha) : Int :=
  ((row.alpha.toNat : Int) - previous.alpha.toNat) * (currScreenBrightness - key previous)

def width (previous row : BrightnessAndAlpha) : Int := key row - key previous

theorem linearDifference_eq (currScreenBrightness : Int) (previous row : BrightnessAndAlpha) :
    linearDifference currScreenBrightness previous row =
      (scaledDifference currScreenBrightness previous row : Rat) / (width previous row : Rat) := by
  simp only [linearDifference, scaledDifference, width, key, Rat.intCast_mul, Rat.intCast_sub]
  grind

theorem interpolate_eq (different : key previous < key row) :
    interpolate currScreenBrightness previous row =
      toUInt32 (linearDifference currScreenBrightness previous row) >>=
        add previous.alpha.toUInt32 := by
  have positive : 0 < width previous row := Int.sub_pos_of_lt different
  have nonzero : ((row.brightness.toNat : Int) : Rat) -
      ((previous.brightness.toNat : Int) : Rat) ≠ 0 := by
    rw [← Rat.intCast_sub]
    intro zero
    have : width previous row = 0 := Rat.intCast_eq_zero_iff.mp zero
    omega
  rw [interpolate]
  simp only [divide, if_neg nonzero]
  rfl

theorem interpolate_trap (different : key previous < key row)
    (falls : scaledDifference currScreenBrightness previous row ≤ -width previous row) :
    interpolate currScreenBrightness previous row = .error .conversionOutOfRange := by
  have positive : 0 < width previous row := Int.sub_pos_of_lt different
  have outside : ¬-1 < linearDifference currScreenBrightness previous row := by
    rw [linearDifference_eq, LinearTable.neg_one_lt_div_iff _ _ positive]
    exact Int.not_lt.mpr falls
  rw [interpolate_eq different, toUInt32, if_neg (fun both => outside both.1)]
  rfl

theorem difference_bounds (more : key previous < currScreenBrightness)
    (less : currScreenBrightness < key row)
    (holds : -width previous row < scaledDifference currScreenBrightness previous row) :
    let difference :=
      (scaledDifference currScreenBrightness previous row).tdiv (width previous row)
    0 ≤ difference ∧
      (difference = 0 ∧ (row.alpha.toNat : Int) < previous.alpha.toNat ∨
        difference ≤ (row.alpha.toNat : Int) - previous.alpha.toNat) := by
  have inside : 0 ≤ currScreenBrightness - key previous ∧
      currScreenBrightness - key previous ≤ width previous row := by
    constructor
    · omega
    · rw [width]
      omega
  have positive : 0 < width previous row := by
    rw [width]
    omega
  rcases Int.lt_or_le (row.alpha.toNat : Int) previous.alpha.toNat with falls | rises
  · have falling : scaledDifference currScreenBrightness previous row ≤ 0 :=
      Int.mul_nonpos_of_nonpos_of_nonneg (by omega) inside.1
    rw [LinearTable.falling_difference falling holds]
    exact ⟨Int.le_refl 0, Or.inl ⟨rfl, falls⟩⟩
  · have rising := LinearTable.rising_difference (Int.sub_nonneg_of_le rises) inside positive
    exact ⟨rising.1, Or.inr rising.2⟩

theorem truncate_toNat {value : Rat} (nonnegative : 0 ≤ LinearTable.truncate value)
    (small : LinearTable.truncate value < 4294967296) :
    ((UInt32.ofNat (value.num.tdiv value.den).toNat).toNat : Int) =
      LinearTable.truncate value := by
  change ((UInt32.ofNat (LinearTable.truncate value).toNat).toNat : Int) = _
  rw [UInt32.toNat_ofNat']
  omega

theorem quotient_lt {dividend divisor : Int} (positive : 0 < divisor)
    (small : dividend.tdiv divisor < 256) :
    (dividend : Rat) / (divisor : Rat) < 4294967296 := by
  have positiveRat : (0 : Rat) < (divisor : Rat) := Rat.intCast_pos.mpr positive
  have bound : dividend < 4294967296 * divisor := by
    calc
      dividend < (dividend.tdiv divisor + 1) * divisor := Int.lt_tdiv_add_one_mul_self _ positive
      _ ≤ 4294967296 * divisor :=
          Int.mul_le_mul_of_nonneg_right (by omega) (Int.le_of_lt positive)
  rw [Rat.div_lt_iff positiveRat]
  have cast := Rat.intCast_lt_intCast.mpr bound
  rw [Rat.intCast_mul] at cast
  exact cast

theorem interpolate_ok (more : key previous < currScreenBrightness)
    (less : currScreenBrightness < key row)
    (holds : -width previous row < scaledDifference currScreenBrightness previous row) :
    ∃ alpha, interpolate currScreenBrightness previous row = .ok alpha ∧
      (alpha.toNat : Int) = previous.alpha.toNat +
        LinearTable.truncate (linearDifference currScreenBrightness previous row) ∧
      min previous.alpha.toNat row.alpha.toNat ≤ alpha.toNat ∧
      alpha.toNat ≤ max previous.alpha.toNat row.alpha.toNat := by
  have different : key previous < key row := Int.lt_trans more less
  have positive : 0 < width previous row := Int.sub_pos_of_lt different
  have bounds := difference_bounds more less holds
  have truncated := LinearTable.truncate_div
    (scaledDifference currScreenBrightness previous row) (width previous row) positive
  rw [← truncated] at bounds
  have rowSmall := row.alpha.toNat_lt
  have previousSmall := previous.alpha.toNat_lt
  have inRange := (LinearTable.neg_one_lt_div_iff _ _ positive).mpr holds
  have below := quotient_lt positive
    (show (scaledDifference currScreenBrightness previous row).tdiv (width previous row) < 256 by
      rw [← truncated]
      omega)
  rw [← linearDifference_eq] at bounds inRange below
  rw [interpolate_eq different, toUInt32, if_pos ⟨inRange, below⟩]
  generalize linearDifference currScreenBrightness previous row = value at bounds ⊢
  have truncatedTo := truncate_toNat bounds.1 (by omega)
  generalize UInt32.ofNat (value.num.tdiv value.den).toNat = converted at truncatedTo ⊢
  have noOverflow : previous.alpha.toUInt32.toNat + converted.toNat < 4294967296 := by
    rw [UInt8.toNat_toUInt32]
    omega
  have sum : (previous.alpha.toUInt32 + converted).toNat =
      previous.alpha.toNat + converted.toNat := by
    rw [UInt8.toNat_toUInt32] at noOverflow
    rw [UInt32.toNat_add, UInt8.toNat_toUInt32, Nat.mod_eq_of_lt noOverflow]
  refine ⟨previous.alpha.toUInt32 + converted, if_pos noOverflow, ?_, ?_⟩
  · omega
  · omega

end Interpolation

/-- No index is out of bounds, no divisor is zero and no addition wraps. -/
theorem conversion_only_trap (currScreenBrightness : Int32) (trap : Trap)
    (trapped : getBackgroundAlpha currScreenBrightness = .error trap) :
    trap = .conversionOutOfRange := by
  rw [getBackgroundAlpha] at trapped
  cases LinearTable.place key brightnessAndAlpha currScreenBrightness.toInt with
  | below row rest table less =>
      rw [search_below table less] at trapped
      cases trapped
  | listed before row after table same =>
      rw [search_listed table same] at trapped
      cases trapped
  | between before previous row after table more less =>
      rw [search_between table more less] at trapped
      by_cases holds : -width previous row <
          scaledDifference currScreenBrightness.toInt previous row
      · obtain ⟨alpha, interpolated, _⟩ := interpolate_ok more less holds
        rw [interpolated] at trapped
        cases trapped
      · rw [interpolate_trap (Int.lt_trans more less) (Int.not_lt.mp holds)] at trapped
        cases trapped
        rfl
  | above greater =>
      rw [search_above greater] at trapped
      cases trapped

end Checked

/-! ### Soundness -/

/-- The brightness reaches the function through an `int32_t` parameter. What a conversion
gives that the language leaves undefined does not matter, since there is none. -/
structure SoundInterpolation (brightness : UInt32) : Prop where
  noTrap : ∃ alpha, Checked.getBackgroundAlpha brightness.toInt32 = .ok alpha
  fails_iff : ∀ undefinedConversion,
    getBackgroundAlpha undefinedConversion brightness.toInt32 = none ↔ 255 < brightness.toNat
  listed : ∀ row, row ∈ brightnessAndAlpha → row.brightness.toNat = brightness.toNat →
    ∀ undefinedConversion,
      getBackgroundAlpha undefinedConversion brightness.toInt32 = some row.alpha.toUInt32
  below : ∀ row rest, brightnessAndAlpha = row :: rest →
    brightness.toNat < row.brightness.toNat → ∀ undefinedConversion,
      getBackgroundAlpha undefinedConversion brightness.toInt32 = some row.alpha.toUInt32
  between : ∀ before previous row after, brightnessAndAlpha = before ++ previous :: row :: after →
    previous.brightness.toNat < brightness.toNat → brightness.toNat < row.brightness.toNat →
    ∃ alpha, (∀ undefinedConversion,
        getBackgroundAlpha undefinedConversion brightness.toInt32 = some alpha) ∧
      (alpha.toNat : Int) = previous.alpha.toNat +
        LinearTable.truncate (linearDifference brightness.toNat previous row) ∧
      min previous.alpha.toNat row.alpha.toNat ≤ alpha.toNat ∧
      alpha.toNat ≤ max previous.alpha.toNat row.alpha.toNat

/-- The brightness lies inside a segment on which the alpha has fallen by one or more. -/
def FallenByOne (brightness : UInt32) : Prop :=
  ∃ before previous row after, brightnessAndAlpha = before ++ previous :: row :: after ∧
    previous.brightness.toNat < brightness.toNat ∧ brightness.toNat < row.brightness.toNat ∧
    (row.brightness.toNat : Int) - previous.brightness.toNat ≤
      ((previous.alpha.toNat : Int) - row.alpha.toNat) *
        ((brightness.toNat : Int) - previous.brightness.toNat)

section Segments

variable {brightness : UInt32} {previous row : BrightnessAndAlpha}

theorem scaled_le_iff (brightness : UInt32) (previous row : BrightnessAndAlpha) :
    Checked.scaledDifference brightness.toNat previous row ≤ -Checked.width previous row ↔
      (row.brightness.toNat : Int) - previous.brightness.toNat ≤
        ((previous.alpha.toNat : Int) - row.alpha.toNat) *
          ((brightness.toNat : Int) - previous.brightness.toNat) := by
  have flipped : Checked.scaledDifference brightness.toNat previous row =
      -(((previous.alpha.toNat : Int) - row.alpha.toNat) *
        ((brightness.toNat : Int) - previous.brightness.toNat)) := by
    rw [Checked.scaledDifference, Checked.key, ← Int.neg_mul, Int.neg_sub]
  rw [flipped, Int.neg_le_neg_iff]
  rfl

theorem holds_of_gentle (gentle : ¬FallenByOne brightness)
    {before after : List BrightnessAndAlpha}
    (table : brightnessAndAlpha = before ++ previous :: row :: after)
    (more : previous.brightness.toNat < brightness.toNat)
    (less : brightness.toNat < row.brightness.toNat) :
    -Checked.width previous row < Checked.scaledDifference brightness.toNat previous row := by
  apply Int.not_le.mp
  intro fallen
  exact gentle ⟨before, previous, row, after, table, more, less,
    (scaled_le_iff brightness previous row).mp fallen⟩

end Segments

section Small

variable {brightness : UInt32} (small : brightness.toNat < 2147483648)

include small

theorem checked_listed {row : BrightnessAndAlpha} (member : row ∈ brightnessAndAlpha)
    (same : row.brightness.toNat = brightness.toNat) :
    Checked.getBackgroundAlpha brightness.toInt32 = .ok (some row.alpha.toUInt32) := by
  obtain ⟨before, after, table⟩ := List.append_of_mem member
  refine Checked.search_listed table ?_
  rw [SignedReading.toInt_of_small small, Checked.key, same]

theorem checked_below {row : BrightnessAndAlpha} {rest : List BrightnessAndAlpha}
    (table : brightnessAndAlpha = row :: rest)
    (less : brightness.toNat < row.brightness.toNat) :
    Checked.getBackgroundAlpha brightness.toInt32 = .ok (some row.alpha.toUInt32) := by
  refine Checked.search_below table ?_
  rw [SignedReading.toInt_of_small small]
  exact Int.ofNat_lt.mpr less

theorem checked_above (greater : 255 < brightness.toNat) :
    Checked.getBackgroundAlpha brightness.toInt32 = .ok none := by
  refine Checked.search_above ?_
  intro row _
  have bounded := row.brightness.toNat_lt
  rw [SignedReading.toInt_of_small small, Checked.key]
  omega

theorem checked_between {before : List BrightnessAndAlpha} {previous row : BrightnessAndAlpha}
    {after : List BrightnessAndAlpha}
    (table : brightnessAndAlpha = before ++ previous :: row :: after)
    (more : previous.brightness.toNat < brightness.toNat)
    (less : brightness.toNat < row.brightness.toNat) :
    Checked.getBackgroundAlpha brightness.toInt32 =
      (Checked.interpolate brightness.toNat previous row).map some := by
  have evaluated := Checked.search_between table (Int.ofNat_lt.mpr more) (Int.ofNat_lt.mpr less)
  rw [Checked.getBackgroundAlpha, SignedReading.toInt_of_small small]
  exact evaluated

theorem checked_outcome (gentle : ¬FallenByOne brightness) :
    ∃ alpha, Checked.getBackgroundAlpha brightness.toInt32 = .ok alpha ∧
      (alpha = none → 255 < brightness.toNat) := by
  cases LinearTable.place Checked.key brightnessAndAlpha brightness.toNat with
  | below row rest table less =>
      have found := checked_below small table (Int.ofNat_lt.mp less)
      exact ⟨_, found, fun absent => nomatch absent⟩
  | listed before row after table same =>
      have member : row ∈ brightnessAndAlpha := by
        rw [table]
        exact List.mem_append_right before List.mem_cons_self
      have found := checked_listed small member (Int.ofNat_inj.mp same.symm)
      exact ⟨_, found, fun absent => nomatch absent⟩
  | between before previous row after table more less =>
      have holds := holds_of_gentle gentle table (Int.ofNat_lt.mp more) (Int.ofNat_lt.mp less)
      obtain ⟨alpha, interpolated, _⟩ := Checked.interpolate_ok more less holds
      have found := checked_between small table (Int.ofNat_lt.mp more) (Int.ofNat_lt.mp less)
      rw [interpolated] at found
      exact ⟨_, found, fun absent => nomatch absent⟩
  | above greater =>
      have last := greater ⟨255, 0⟩ (by decide)
      have above : 255 < brightness.toNat := Int.ofNat_lt.mp last
      exact ⟨none, checked_above small above, fun _ => above⟩

end Small

theorem gentle_of_checked {brightness : UInt32} {outcome : Option UInt32}
    (done : Checked.getBackgroundAlpha brightness.toInt32 = .ok outcome) :
    ¬FallenByOne brightness := by
  rintro ⟨before, previous, row, after, table, more, less, fallen⟩
  have bounded := row.brightness.toNat_lt
  have small : brightness.toNat < 2147483648 := by omega
  rw [checked_between small table more less,
    Checked.interpolate_trap (Int.ofNat_lt.mpr (Nat.lt_trans more less))
      ((scaled_le_iff brightness previous row).mpr fallen)] at done
  cases done

/-- The interpolation is sound for the brightnesses that fit `int32_t`, inside a
segment only as long as the alpha has fallen by less than one. -/
theorem soundInterpolation_iff (brightness : UInt32) :
    SoundInterpolation brightness ↔
      brightness.toNat < 2147483648 ∧ ¬FallenByOne brightness := by
  constructor
  · intro sound
    have small : brightness.toNat < 2147483648 := by
      by_cases fits : brightness.toNat < 2147483648
      · exact fits
      · -- a negative brightness is below the first row and gets its alpha
        have negative : brightness.toInt32.toInt < 4 := by
          have bounded := brightness.toNat_lt
          rw [SignedReading.toInt_toInt32, if_neg fits]
          omega
        have found := Checked.getBackgroundAlpha_eq_ok (Checked.search_below rfl negative) 0
        rw [(sound.fails_iff 0).mpr (by omega)] at found
        cases found
    obtain ⟨alpha, done⟩ := sound.noTrap
    exact ⟨small, gentle_of_checked done⟩
  · intro both
    obtain ⟨small, gentle⟩ := both
    obtain ⟨outcome, done, onlyAbove⟩ := checked_outcome small gentle
    have returned := Checked.getBackgroundAlpha_eq_ok done
    refine ⟨⟨outcome, done⟩, fun undefinedConversion => ⟨?_, ?_⟩, ?_, ?_, ?_⟩
    · intro fails
      exact onlyAbove ((returned undefinedConversion).symm.trans fails)
    · intro above
      exact Checked.getBackgroundAlpha_eq_ok (checked_above small above) undefinedConversion
    · intro row member same
      exact Checked.getBackgroundAlpha_eq_ok (checked_listed small member same)
    · intro row rest table less
      exact Checked.getBackgroundAlpha_eq_ok (checked_below small table less)
    · intro before previous row after table more less
      have holds := holds_of_gentle gentle table more less
      obtain ⟨alpha, interpolated, value⟩ :=
        Checked.interpolate_ok (Int.ofNat_lt.mpr more) (Int.ofNat_lt.mpr less) holds
      have found := checked_between small table more less
      rw [interpolated] at found
      exact ⟨alpha, Checked.getBackgroundAlpha_eq_ok found, value⟩

/-- Brightness 5 stands between the rows of 4 and 6, where the value to convert is
-2.5; a brightness of `int32_t` value -2 is given the first row's alpha. -/
theorem unsound_interpolations :
    ¬SoundInterpolation 5 ∧ ¬SoundInterpolation 4294967294 := by
  constructor
  · intro sound
    obtain ⟨alpha, done⟩ := sound.noTrap
    have trapped : Checked.interpolate 5 ⟨4, 234⟩ ⟨6, 229⟩ = .error .conversionOutOfRange :=
      Checked.interpolate_trap (by decide) (by decide)
    have small : (5 : UInt32).toNat < 2147483648 := by decide
    have table : brightnessAndAlpha =
        [] ++ ⟨4, 234⟩ :: ⟨6, 229⟩ :: brightnessAndAlpha.drop 2 := rfl
    have found := checked_between small table (by decide) (by decide)
    change _ = (Checked.interpolate 5 ⟨4, 234⟩ ⟨6, 229⟩).map some at found
    rw [done, trapped] at found
    cases found
  · intro sound
    have found : getBackgroundAlpha 0 (4294967294 : UInt32).toInt32 = some 234 :=
      Checked.getBackgroundAlpha_eq_ok (Checked.search_below rfl (by decide)) 0
    rw [(sound.fails_iff 0).mpr (by decide)] at found
    cases found

end FingerprintAuth

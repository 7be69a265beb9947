/-
The signed and the unsigned reading of one 32-bit word. They agree on the lower half
of the words and differ by 2^32 on the upper half.
-/

set_option autoImplicit false

namespace SignedReading

theorem toInt_toInt32 (word : UInt32) :
    word.toInt32.toInt =
      if word.toNat < 2147483648 then (word.toNat : Int) else (word.toNat : Int) - 4294967296 := by
  change word.toBitVec.toInt = _
  rw [BitVec.toInt_eq_toNat_cond]
  change (if 2 * word.toNat < 2 ^ 32 then (word.toNat : Int) else word.toNat - (2 ^ 32 : Nat)) = _
  split
  · rw [if_pos (by omega)]
  · rw [if_neg (by omega)]
    rfl

theorem toInt_of_small {word : UInt32} (small : word.toNat < 2147483648) :
    word.toInt32.toInt = word.toNat := by
  rw [toInt_toInt32, if_pos small]

theorem toUInt32_eq_iff {first second : Int32} :
    first.toUInt32 = second.toUInt32 ↔ first = second := by
  constructor
  · intro same
    rw [← Int32.toInt32_toUInt32 first, same, Int32.toInt32_toUInt32]
  · intro same
    rw [same]

theorem toNat_toUInt32 (value : Int32) :
    (value.toUInt32.toNat : Int) =
      if value.toInt < 0 then value.toInt + 4294967296 else value.toInt := by
  have reading := toInt_toInt32 value.toUInt32
  have bounded := value.toUInt32.toNat_lt
  rw [Int32.toInt32_toUInt32] at reading
  rw [reading]
  split
  · rw [if_neg (by omega)]
  · rw [if_pos (by omega)]
    omega

end SignedReading

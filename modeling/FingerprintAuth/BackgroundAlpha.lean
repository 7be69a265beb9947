/-
From the brightness of the display to the alpha of the black background.

The table is searched for the first row that is not darker than the display;
between two rows the alpha is interpolated. The source computes the interpolation
in `float`; here the steps are rational and the conversion back truncates, where the
language says what it does.
-/

set_option autoImplicit false

namespace FingerprintAuth

structure BrightnessAndAlpha where
  brightness : UInt8
  alpha : UInt8
deriving DecidableEq, Repr

def brightnessAndAlpha : List BrightnessAndAlpha :=
  [⟨4, 234⟩, ⟨6, 229⟩, ⟨8, 219⟩, ⟨10, 220⟩, ⟨12, 216⟩, ⟨14, 211⟩, ⟨16, 208⟩, ⟨20, 205⟩,
    ⟨24, 187⟩, ⟨28, 176⟩, ⟨30, 170⟩, ⟨34, 163⟩, ⟨40, 159⟩, ⟨46, 142⟩, ⟨50, 140⟩, ⟨56, 140⟩,
    ⟨64, 125⟩, ⟨74, 121⟩, ⟨84, 111⟩, ⟨94, 101⟩, ⟨104, 92⟩, ⟨114, 81⟩, ⟨124, 81⟩, ⟨134, 69⟩,
    ⟨144, 68⟩, ⟨154, 58⟩, ⟨164, 56⟩, ⟨174, 46⟩, ⟨184, 44⟩, ⟨194, 35⟩, ⟨204, 34⟩, ⟨214, 30⟩,
    ⟨224, 22⟩, ⟨234, 23⟩, ⟨244, 18⟩, ⟨248, 0⟩, ⟨255, 0⟩]

def brightnessRow (i : Nat) : BrightnessAndAlpha := brightnessAndAlpha.getD i ⟨0, 0⟩

/-- `static_cast<uint32_t>` of a `float`. The language leaves the conversion undefined if
what truncation leaves of the value does not fit `uint32_t`; the first argument is what
it gives then. -/
def floatToUInt32 (undefinedConversion : UInt32) (value : Rat) : UInt32 :=
  if -1 < value ∧ value < 4294967296 then UInt32.ofNat (value.num.tdiv value.den).toNat
  else undefinedConversion

def currAlphaDiff (currScreenBrightness : Int) (i : Nat) : Rat :=
  let previous := brightnessRow (i - 1)
  let row := brightnessRow i
  let gapBrightnessDiff : Rat := (row.brightness.toNat : Int) - (previous.brightness.toNat : Int)
  let gapAlphaDiff : Rat := (row.alpha.toNat : Int) - (previous.alpha.toNat : Int)
  let slope := gapAlphaDiff / gapBrightnessDiff
  let currBrightnessDiff : Rat := currScreenBrightness - (previous.brightness.toNat : Int)
  slope * currBrightnessDiff

/-- One round of the search. `none` goes on to the next row. -/
def alphaAtRow (undefinedConversion : UInt32) (currScreenBrightness : Int) (i : Nat) :
    Option UInt32 :=
  let row := brightnessRow i
  if currScreenBrightness > row.brightness.toNat then none
  else if currScreenBrightness = row.brightness.toNat ∨ i = 0 then some row.alpha.toUInt32
  else
    some ((brightnessRow (i - 1)).alpha.toUInt32 +
      floatToUInt32 undefinedConversion (currAlphaDiff currScreenBrightness i))

/-- `none` stands for the error return: every row is darker than the display. -/
def getBackgroundAlpha (undefinedConversion : UInt32) (currScreenBrightness : Int32) :
    Option UInt32 :=
  (List.range brightnessAndAlpha.length).findSome?
    (alphaAtRow undefinedConversion currScreenBrightness.toInt)

end FingerprintAuth

import LightControl.Core.CTypes

/-!
# The analog-digital converter

`i2c_ad_da_converter.cpp`: one conversion reads two bytes from the bus, throws the first away,
scales the second from the instrument's interval to the configured one and tells the rest of the
program when the scaled value is a new one.

What the bus does is an input (`I2cOutcome`): each `read` returns its byte or fails, and a failed
`read` leaves the buffer alone.  The division is C's, towards zero; with equal instrument bounds
the C++ divides by zero, and such bounds are outside the model's meaning.
-/

namespace LightControl

open CTypes

/-- `i2c_ad_da_converter`. -/
structure I2cAdDaConverter where
  instrumentLowerBound : ℤ
  instrumentUpperBound : ℤ
  lowerBound : ℤ
  upperBound : ℤ
  adDaDeviceInChannel : ℤ
  lastRangedValue : ℤ
  deriving DecidableEq, Repr

/-- What the bus does during one conversion: the byte that the uninitialised buffer holds, and the
outcome of the two reads. -/
structure I2cOutcome where
  i2cBuffer : UInt8
  discarded : Option UInt8
  sample : Option UInt8
  deriving DecidableEq, Repr

namespace I2cOutcome

/-- The buffer after both reads. -/
def buffer (io : I2cOutcome) : UInt8 := io.sample.getD (io.discarded.getD io.i2cBuffer)

/-- How often the conversion asks to leave the event loop: once for each read that fails. -/
def exits (io : I2cOutcome) : ℕ :=
  (if io.discarded.isSome then 0 else 1) + if io.sample.isSome then 0 else 1

end I2cOutcome

namespace I2cAdDaConverter

/-- The constructor; the instrument bounds and the last value are not initialised. -/
def new (instrumentLowerBound instrumentUpperBound lastRangedValue ainChannel : ℤ) :
    I2cAdDaConverter where
  instrumentLowerBound := instrumentLowerBound
  instrumentUpperBound := instrumentUpperBound
  lowerBound := 0
  upperBound := 100
  adDaDeviceInChannel := ainChannel
  lastRangedValue := lastRangedValue

/-- `set_ain_channel`. -/
def setAinChannel (c : I2cAdDaConverter) (ainChannel : ℤ) : I2cAdDaConverter :=
  { c with adDaDeviceInChannel := ainChannel }

/-- `set_lower_bound`. -/
def setLowerBound (c : I2cAdDaConverter) (newLowerBound : ℤ) : I2cAdDaConverter :=
  { c with lowerBound := newLowerBound }

/-- `set_upper_bound`. -/
def setUpperBound (c : I2cAdDaConverter) (newUpperBound : ℤ) : I2cAdDaConverter :=
  { c with upperBound := newUpperBound }

/-- `set_instrument_lower_bound`. -/
def setInstrumentLowerBound (c : I2cAdDaConverter) (newBound : ℤ) : I2cAdDaConverter :=
  { c with instrumentLowerBound := newBound }

/-- `set_instrument_upper_bound`. -/
def setInstrumentUpperBound (c : I2cAdDaConverter) (newBound : ℤ) : I2cAdDaConverter :=
  { c with instrumentUpperBound := newBound }

/-- The command that selects the input line. -/
def command (c : I2cAdDaConverter) : List UInt8 :=
  [UInt8.ofNat (toUnsigned 2 c.adDaDeviceInChannel), 0]

/-- The local `ranged_value`, for a buffer that holds the given byte. -/
def rangedValue (c : I2cAdDaConverter) (charSigned : Bool) (i2cBuffer : UInt8) : ℤ :=
  let range := c.upperBound - c.lowerBound
  let instrumentRange := c.instrumentUpperBound - c.instrumentLowerBound
  if instrumentRange < 0 then
    range + (charValue charSigned i2cBuffer * range).tdiv instrumentRange
  else
    (charValue charSigned i2cBuffer * range).tdiv instrumentRange

/-- What a conversion does: the converter afterwards, the value that `value_changed` is emitted
with, the bytes written to the bus and the byte returned. -/
structure Reading where
  converter : I2cAdDaConverter
  valueChanged : Option ℤ
  written : List UInt8
  value : UInt8
  exits : ℕ

/-- `converter_read`. -/
def converterRead (c : I2cAdDaConverter) (charSigned : Bool) (io : I2cOutcome) : Reading :=
  let ranged := c.rangedValue charSigned io.buffer
  if ranged ≠ c.lastRangedValue then
    ⟨{ c with lastRangedValue := ranged }, some ranged, c.command, io.buffer, io.exits⟩
  else
    ⟨c, none, c.command, io.buffer, io.exits⟩

/-- `poll_ad_value`. -/
def pollAdValue (c : I2cAdDaConverter) (charSigned : Bool) (io : I2cOutcome) : Reading :=
  c.converterRead charSigned io

variable {c : I2cAdDaConverter} {charSigned : Bool} {io : I2cOutcome}

@[simp] lemma converterRead_lastRangedValue :
    (c.converterRead charSigned io).converter.lastRangedValue
      = c.rangedValue charSigned io.buffer := by
  simp only [converterRead]
  split
  case isTrue => rfl
  case isFalse h => exact (not_not.mp h).symm

lemma converterRead_converter :
    (c.converterRead charSigned io).converter
      = { c with lastRangedValue := c.rangedValue charSigned io.buffer } := by
  simp only [converterRead]
  split
  case isTrue => rfl
  case isFalse h =>
    rw [not_not.mp h]

lemma converterRead_valueChanged :
    (c.converterRead charSigned io).valueChanged
      = if c.rangedValue charSigned io.buffer = c.lastRangedValue then none
        else some (c.rangedValue charSigned io.buffer) := by
  simp only [converterRead]
  split
  case isTrue => rfl
  case isFalse h => rw [if_pos (not_not.mp h)]

lemma pollAdValue_exits : (c.pollAdValue charSigned io).exits = io.exits := by
  simp only [pollAdValue, converterRead]
  split <;> rfl

end I2cAdDaConverter

end LightControl

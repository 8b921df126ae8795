import LightControl.Controller.Scaling
import LightControl.Controller.Shutdown

/-!
# Conversions that fail

A read that does not return its byte makes `converter_read` ask to leave the event loop, and then
the conversion goes on: whatever the buffer holds is scaled, and announced when it is a new value.

`changesNothing_iff` says exactly which failed conversions go unnoticed: those whose buffer scales
to the last ranged value.  The result of the write that selects the input line is not looked at.
-/

namespace LightControl

open CTypes

/-- **The law at one conversion**: it announces nothing, it leaves the last ranged value alone, and
the window of a program that makes it keeps its light intensity. -/
def I2cAdDaConverter.ChangesNothing (charSigned : Bool) (c : I2cAdDaConverter) (io : I2cOutcome) :
    Prop :=
  (c.converterRead charSigned io).valueChanged = none ∧
    (c.converterRead charSigned io).converter.lastRangedValue = c.lastRangedValue ∧
    ∀ p : Program, p.lightIntensityConverter = c →
      (p.lightSensorPoll charSigned io).lightIntensity = p.lightIntensity

namespace I2cAdDaConverter

variable {charSigned : Bool} {c : I2cAdDaConverter}

/-- A conversion changes nothing if the buffer scales to the last ranged value, and only then. -/
lemma changesNothing_iff_rangedValue (io : I2cOutcome) :
    c.ChangesNothing charSigned io ↔ c.rangedValue charSigned io.buffer = c.lastRangedValue := by
  constructor
  · rintro ⟨-, hlast, -⟩
    rwa [converterRead_lastRangedValue] at hlast
  · intro h
    have hnone : (c.converterRead charSigned io).valueChanged = none := by
      rw [converterRead_valueChanged, if_pos h]
    refine ⟨hnone, by rw [converterRead_lastRangedValue, h], ?_⟩
    rintro p rfl
    simp only [Program.lightSensorPoll, pollAdValue, hnone, Program.lightIntensity]

/-- The bytes that scale to a given value. -/
lemma rangedValue_eq_iff (hne : c.instrumentRange ≠ 0) (v : UInt8) (n : ℤ) :
    c.rangedValue charSigned v = n ↔
      Slice c.instrumentRange (n - if c.instrumentRange < 0 then c.range else 0)
        (charValue charSigned v * c.range) := by
  rw [← tdiv_eq_iff_slice hne]
  rcases lt_or_gt_of_ne hne with hlt | hgt
  · rw [rangedValue_of_neg hlt, if_pos hlt]
    constructor <;> intro h <;> omega
  · rw [rangedValue_of_pos hgt, if_neg (not_lt.mpr (le_of_lt hgt)), sub_zero]

/-- **Which failed conversions change nothing.**  For every state of the converter with distinct
instrument bounds, and every conversion in which a read does not return its byte: nothing is
announced and nothing changes if and only if the byte that the buffer is left with lies among those
that scale to the last ranged value. -/
theorem changesNothing_iff (charSigned : Bool) (c : I2cAdDaConverter)
    (hne : c.instrumentLowerBound ≠ c.instrumentUpperBound) :
    ∀ io : I2cOutcome, ¬ io.BothRead →
      (c.ChangesNothing charSigned io ↔
        Slice c.instrumentRange
          (c.lastRangedValue - if c.instrumentRange < 0 then c.range else 0)
          (charValue charSigned io.buffer * c.range)) := by
  intro io _
  rw [changesNothing_iff_rangedValue, rangedValue_eq_iff (sub_ne_zero.mpr hne.symm)]

/-- The light intensity converter after a dark sample: both reads fail, and the buffer happens to
hold the same byte. -/
theorem changesNothing_dark :
    ChangesNothing false ⟨255, 0, 0, 100, 0, 0⟩ ⟨255, none, none⟩ :=
  (changesNothing_iff false ⟨255, 0, 0, 100, 0, 0⟩ (by decide) ⟨255, none, none⟩
    (fun h => absurd h.1 (by decide))).mpr (by decide)

/-- **A failed conversion is announced**: after a dark sample both reads fail, the buffer happens
to hold zero, and full light is announced. -/
theorem not_changesNothing :
    ¬ ∀ (charSigned : Bool) (c : I2cAdDaConverter) (io : I2cOutcome),
      c.instrumentLowerBound ≠ c.instrumentUpperBound → ¬ io.BothRead →
        c.ChangesNothing charSigned io := by
  intro h
  have hnothing := h false ⟨255, 0, 0, 100, 0, 0⟩ ⟨0, none, none⟩ (by decide)
    (fun h => absurd h.1 (by decide))
  exact absurd hnothing.2.1 (by decide)

end I2cAdDaConverter

end LightControl

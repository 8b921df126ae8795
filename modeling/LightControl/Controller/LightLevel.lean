import LightControl.Controller.Program

/-!
# The light level that the decision sees

The converter tells the window about a ranged value only when it differs from the last one, so the
window's copy of the light level is right as long as the two agreed when the window began to
listen.  They did not have to: the first conversion is made before `value_changed` is
connected, and leaves its value in the converter alone.

`seesLightLevel_iff` says exactly which runs are free of that: those whose first conversion gave
what the window starts with, or whose first poll gives another value than that conversion.
-/

namespace LightControl.Program

open CTypes Runs

/-- What the sample takes off the full light level, in hundredths. -/
def darkness (charSigned : Bool) (sample : UInt8) : ℤ :=
  (charValue charSigned sample * 100).tdiv 255

/-- **The law at one event**: after a poll of the light sensor, the light intensity is the ranged
value that the poll computed. -/
def SeesLightLevel (charSigned : Bool) (p : Program) : Event → Prop
  | .lightSensorPoll io =>
      ((p.lightSensorPoll charSigned io).lightIntensity : ℤ)
        = p.lightIntensityConverter.rangedValue charSigned io.buffer
  | _ => True

/-- The first poll of the light sensor that a run comes to. -/
def firstPoll (charSigned : Bool) : Program → List Event → Option I2cOutcome
  | _, [] => none
  | _, .lightSensorPoll io :: _ => some io
  | p, e :: es => (p.step charSigned e).bind fun p' => firstPoll charSigned p' es

/-! ## The converter of the light sensor -/

/-- The light intensity converter is set up as the constructor sets it up. -/
def Configured (p : Program) : Prop :=
  p.lightIntensityConverter
    = lightIntensityConverterInit p.lightIntensityConverter.lastRangedValue

/-- The window's copy of the light level is the converter's. -/
def InStep (p : Program) : Prop :=
  (p.lightIntensity : ℤ) = p.lightIntensityConverter.lastRangedValue

lemma rangedValue_init (charSigned : Bool) (last : ℤ) (sample : UInt8) :
    (lightIntensityConverterInit last).rangedValue charSigned sample
      = 100 - darkness charSigned sample := by
  have hneg : (lightIntensityConverterInit last).rangedValue charSigned sample
      = 100 + (charValue charSigned sample * 100).tdiv (-255) := rfl
  rw [hneg, Int.tdiv_neg, darkness]
  omega

lemma Configured.rangedValue {p : Program} (hp : p.Configured) (charSigned : Bool)
    (sample : UInt8) :
    p.lightIntensityConverter.rangedValue charSigned sample = 100 - darkness charSigned sample := by
  rw [hp, rangedValue_init]

/-- No sample takes off more than all of it, or adds more than half. -/
lemma darkness_bounds (charSigned : Bool) (sample : UInt8) :
    -51 ≤ darkness charSigned sample ∧ darkness charSigned sample ≤ 100 := by
  have hvalue := charValue_bounds charSigned sample
  rw [darkness, Int.tdiv_eq_ediv, show Int.sign 255 = 1 from rfl]
  split <;> omega

lemma toUnsigned_rangedValue (charSigned : Bool) (sample : UInt8) :
    (toUnsigned 32 (100 - darkness charSigned sample) : ℤ) = 100 - darkness charSigned sample := by
  have hbounds := darkness_bounds charSigned sample
  rcases Int.eq_ofNat_of_zero_le (show 0 ≤ 100 - darkness charSigned sample by omega) with ⟨n, hn⟩
  rw [hn, toUnsigned_natCast (by omega)]

/-! ## One event -/

/-- What a poll leaves behind: the ranged value in the converter, and in the window the ranged
value if it is a new one. -/
lemma lightSensorPoll_spec (charSigned : Bool) {p : Program} (io : I2cOutcome)
    (hp : p.Configured) :
    (p.lightSensorPoll charSigned io).Configured ∧
      (p.lightSensorPoll charSigned io).lightIntensityConverter.lastRangedValue
        = 100 - darkness charSigned io.buffer ∧
      ((p.lightSensorPoll charSigned io).lightIntensity : ℤ)
        = if 100 - darkness charSigned io.buffer = p.lightIntensityConverter.lastRangedValue then
            (p.lightIntensity : ℤ)
          else 100 - darkness charSigned io.buffer := by
  have hranged := hp.rangedValue charSigned io.buffer
  have hlast : (p.lightSensorPoll charSigned io).lightIntensityConverter.lastRangedValue
      = 100 - darkness charSigned io.buffer := by
    rw [← hranged]
    exact I2cAdDaConverter.converterRead_lastRangedValue
  refine ⟨?_, hlast, ?_⟩
  · have hconv : (p.lightSensorPoll charSigned io).lightIntensityConverter
        = { p.lightIntensityConverter with
            lastRangedValue := 100 - darkness charSigned io.buffer } := by
      rw [← hranged]
      exact I2cAdDaConverter.converterRead_converter
    rw [Configured, hconv, hp]
    rfl
  · have hannounced : (p.lightIntensityConverter.pollAdValue charSigned io).valueChanged
        = if 100 - darkness charSigned io.buffer = p.lightIntensityConverter.lastRangedValue then
            none
          else some (100 - darkness charSigned io.buffer) := by
      rw [← hranged]
      exact I2cAdDaConverter.converterRead_valueChanged
    by_cases hsame : 100 - darkness charSigned io.buffer = p.lightIntensityConverter.lastRangedValue
    · rw [if_pos hsame] at hannounced ⊢
      simp only [lightSensorPoll, hannounced, lightIntensity]
    · rw [if_neg hsame] at hannounced ⊢
      simp only [lightSensorPoll, hannounced]
      exact toUnsigned_rangedValue charSigned io.buffer

lemma step_lightLevel {charSigned : Bool} {p p' : Program} {e : Event}
    (h : p.step charSigned e = some p') (he : ∀ io, e ≠ .lightSensorPoll io) :
    p'.lightIntensity = p.lightIntensity ∧
      p'.lightIntensityConverter = p.lightIntensityConverter := by
  cases e with
  | wait msecs => cases h; exact ⟨rfl, rfl⟩
  | actionClose => cases h; exact ⟨rfl, rfl⟩
  | pirEdge line =>
      cases h
      exact ⟨p.window.slotStep_lightIntensity (by simp), rfl⟩
  | lightSensorPoll io => exact absurd rfl (he io)
  | powerSupplyVoltagePoll io => cases h; exact ⟨rfl, rfl⟩
  | lightStatePoll r =>
      cases h
      exact ⟨p.window.slotStep_lightIntensity (by simp), rfl⟩
  | incomingConnection setup => cases h; exact ⟨rfl, rfl⟩
  | handshakeEnds i verified => cases h; exact ⟨rfl, rfl⟩
  | bytesArrive i bytes => cases h; exact ⟨rfl, rfl⟩
  | readyRead i r =>
      rcases readyRead_cases h with ⟨-, rfl⟩ | ⟨-, k, c, -, rfl⟩
      · exact ⟨rfl, rfl⟩
      · simp only [delivered, lightIntensity]
        split
        case isTrue => exact ⟨rfl, rfl⟩
        case isFalse => exact ⟨p.window.slotStep_lightIntensity (by simp), rfl⟩

/-! ## Runs -/

/-- From a program whose converter is set up: the law holds along a run exactly if the copies
agree at the start, or the first poll brings a new value. -/
lemma along_seesLightLevel_iff (charSigned : Bool) (es : List Event) {p : Program}
    (hp : p.Configured) :
    Along (step charSigned) (SeesLightLevel charSigned) p es ↔
      p.InStep ∨ ∀ io, firstPoll charSigned p es = some io →
        100 - darkness charSigned io.buffer ≠ p.lightIntensityConverter.lastRangedValue := by
  induction es generalizing p with
  | nil => simp [Along, firstPoll]
  | cons e es ih =>
      by_cases hpoll : ∃ io, e = .lightSensorPoll io
      · rcases hpoll with ⟨io, rfl⟩
        rcases lightSensorPoll_spec charSigned io hp with ⟨hconf, hlast, hlevel⟩
        have hlaw : SeesLightLevel charSigned p (.lightSensorPoll io) ↔
            p.InStep ∨ 100 - darkness charSigned io.buffer
              ≠ p.lightIntensityConverter.lastRangedValue := by
          rw [SeesLightLevel, hp.rangedValue, hlevel]
          split
          case isTrue hsame => simp [hsame, InStep]
          case isFalse hnew => simp [hnew]
        simp only [Along, firstPoll, Option.some.injEq, forall_eq']
        rw [hlaw]
        -- a poll that obeys the law leaves the two copies in step
        refine and_iff_left_of_imp ?_
        intro h p' hp'
        have hkept := hlaw.mpr h
        rw [SeesLightLevel, hp.rangedValue] at hkept
        cases hp'
        refine (ih hconf).mpr (Or.inl ?_)
        rw [InStep, hlast, hkept]
      · have hother : ∀ io, e ≠ .lightSensorPoll io := by
          intro io he
          exact hpoll ⟨io, he⟩
        have hlaw : SeesLightLevel charSigned p e := by
          cases e with
          | lightSensorPoll io => exact absurd rfl (hother io)
          | _ => exact trivial
        have hfirst : firstPoll charSigned p (e :: es)
            = (p.step charSigned e).bind fun p' => firstPoll charSigned p' es := by
          cases e with
          | lightSensorPoll io => exact absurd rfl (hother io)
          | _ => rfl
        rw [hfirst]
        cases hstep : p.step charSigned e with
        | none => simp [Along, hlaw, hstep]
        | some p' =>
            rcases step_lightLevel hstep hother with ⟨hlevel, hconv⟩
            have hconf : p'.Configured := by rw [Configured, hconv]; exact hp
            have hrest := ih hconf
            rw [InStep, hlevel, hconv] at hrest
            simp only [Along, hlaw, hstep, true_and, Option.some.injEq, forall_eq',
              Option.bind_some]
            exact hrest

/-- **When the decision sees the light level.**  In every run of the constructed program: after
each poll of the light sensor the light intensity is the ranged value of that poll, if and only if
the constructor's own sample was a fully dark one, or the first poll takes a sample that stands
for another value. -/
theorem seesLightLevel_iff (charSigned : Bool) (clock : ℕ) (lightLast powerLast : ℤ)
    (io : I2cOutcome) (es : List Event) :
    Along (step charSigned) (SeesLightLevel charSigned)
        (start charSigned clock lightLast powerLast io) es ↔
      darkness charSigned io.buffer = 100 ∨
        ∀ io', firstPoll charSigned (start charSigned clock lightLast powerLast io) es = some io' →
          darkness charSigned io'.buffer ≠ darkness charSigned io.buffer := by
  have hconv : (start charSigned clock lightLast powerLast io).lightIntensityConverter
      = lightIntensityConverterInit (100 - darkness charSigned io.buffer) := by
    rw [← rangedValue_init charSigned lightLast]
    exact I2cAdDaConverter.converterRead_converter
  have hstep : (start charSigned clock lightLast powerLast io).InStep ↔
      darkness charSigned io.buffer = 100 := by
    rw [InStep, hconv]
    show (0 : ℤ) = 100 - darkness charSigned io.buffer ↔ _
    omega
  rw [along_seesLightLevel_iff charSigned es (by rw [Configured, hconv]; rfl), hstep, hconv]
  have hdiffer : ∀ io' : I2cOutcome,
      100 - darkness charSigned io'.buffer ≠ 100 - darkness charSigned io.buffer ↔
        darkness charSigned io'.buffer ≠ darkness charSigned io.buffer := by
    intro io'
    omega
  exact or_congr_right (forall₂_congr fun io' _ => hdiffer io')

/-- **The law fails when nothing moves**: every sample, the constructor's included, stands for
full light, and the window goes on seeing none. -/
theorem not_seesLightLevel :
    ¬ ∀ (charSigned : Bool) (clock : ℕ) (lightLast powerLast : ℤ) (io : I2cOutcome)
      (es : List Event), Along (step charSigned) (SeesLightLevel charSigned)
        (start charSigned clock lightLast powerLast io) es := by
  intro h
  have hlaw := (h false 0 0 0 ⟨0, some 0, some 0⟩ [.lightSensorPoll ⟨0, some 0, some 0⟩]).1
  rw [SeesLightLevel] at hlaw
  revert hlaw
  decide

end LightControl.Program

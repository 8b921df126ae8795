import LightControl.Controller.Program

/-!
# Leaving the event loop

The Close action switches the light off before it asks to leave the event loop.  The converters
and the command server ask for the same when they cannot read, and they do not know the lamp.

`safeExits_iff` says which runs leave the loop with the light off: those in which it is off
whenever a conversion fails or a line is too short for a command.
-/

namespace LightControl

/-- Both reads of a conversion return their byte. -/
def I2cOutcome.BothRead (io : I2cOutcome) : Prop :=
  io.discarded.isSome = true ∧ io.sample.isSome = true

/-- The line that the next delivery reads from these unread bytes is too short for a command. -/
def ShortRead (buffer : List UInt8) : Prop := buffer.length < 2 ∨ buffer.head? = some 10

instance (buffer : List UInt8) : Decidable (ShortRead buffer) :=
  inferInstanceAs (Decidable (buffer.length < 2 ∨ buffer.head? = some 10))

namespace Program

open Runs

variable {charSigned : Bool} {p p' : Program} {e : Event}

/-- **The law**: each time the program asked to leave the event loop, the value written last to
the power control GPIO was `0`. -/
def SafeExits (p : Program) : Prop := ∀ g ∈ p.exits, g = .zero

/-- The event does not fail while the light is on. -/
def SafeEvent (p : Program) : Event → Prop
  | .lightSensorPoll io => p.powerControlGpio = .one → io.BothRead
  | .powerSupplyVoltagePoll io => p.powerControlGpio = .one → io.BothRead
  | .readyRead i _ => p.powerControlGpio = .one → (p.cmdServer.sockets.get i).isSome →
      ∀ k c, p.cmdServer.deref = some (k, c) → ¬ ShortRead c.buffer
  | _ => True

lemma exits_eq_zero_iff (io : I2cOutcome) : io.exits = 0 ↔ io.BothRead := by
  rcases io with ⟨buffer, discarded, sample⟩
  cases discarded <;> cases sample <;> simp [I2cOutcome.exits, I2cOutcome.BothRead]

lemma ne_one_iff {g : GpioValue} : g ≠ .one ↔ g = .zero := by
  cases g <;> decide

/-- What was safe before stays so if and only if the exits that are added are. -/
lemma safeExits_append (hp : p.SafeExits) {gs : List GpioValue}
    (hexits : p'.exits = p.exits ++ gs) : p'.SafeExits ↔ ∀ g ∈ gs, g = .zero := by
  rw [SafeExits, hexits]
  constructor
  · intro h g hg
    exact h g (List.mem_append.mpr (Or.inr hg))
  · intro h g hg
    rcases List.mem_append.mp hg with hg | hg
    · exact hp g hg
    · exact h g hg

/-- A conversion adds one exit for each read that fails. -/
lemma safeExits_poll (io : I2cOutcome) (gpio : GpioValue) :
    (∀ g ∈ List.replicate io.exits gpio, g = .zero) ↔ (gpio = .one → io.BothRead) := by
  rw [← exits_eq_zero_iff]
  constructor
  · intro h hone
    by_contra hne
    have hzero := h gpio (List.mem_replicate.mpr ⟨hne, rfl⟩)
    rw [hone] at hzero
    cases hzero
  · intro h g hg
    rcases List.mem_replicate.mp hg with ⟨hne, rfl⟩
    exact ne_one_iff.mp fun hone => hne (h hone)

lemma readLine_short (c : ServerSocket) :
    (c.readLine 256).1.length < 2 ↔ ShortRead c.buffer :=
  readLine_length_lt_two (by decide) c.buffer

lemma safeExits_step (hp : p.SafeExits) (h : p.step charSigned e = some p') :
    p'.SafeExits ↔ p.SafeEvent e := by
  cases e with
  | actionClose =>
      cases h
      rw [safeExits_append hp rfl]
      exact iff_of_true (by simp [ClockedController.slotStep,
        LightController.onActionCloseTriggered]) trivial
  | lightSensorPoll io =>
      cases h
      rw [safeExits_append hp rfl, I2cAdDaConverter.pollAdValue_exits]
      exact safeExits_poll io p.powerControlGpio
  | powerSupplyVoltagePoll io =>
      cases h
      rw [safeExits_append hp rfl, I2cAdDaConverter.pollAdValue_exits]
      exact safeExits_poll io p.powerControlGpio
  | readyRead i r =>
      rcases readyRead_cases h with ⟨hnone, rfl⟩ | ⟨hlive, k, c, hderef, rfl⟩
      · refine iff_of_true hp ?_
        intro _ hlive
        rw [hnone] at hlive
        cases hlive
      · rw [safeExits_append hp (delivered_exits p k c r)]
        constructor
        · intro h hone _ k' c' hderef' hshort
          obtain ⟨rfl, rfl⟩ : k = k' ∧ c = c' := by
            simpa using hderef.symm.trans hderef'
          rw [if_pos ((readLine_short c).mpr hshort)] at h
          have hzero := h p.powerControlGpio (by simp)
          rw [hone] at hzero
          cases hzero
        · intro hsafe g hg
          split at hg
          case isTrue hshort =>
            rw [List.mem_singleton.mp hg]
            exact ne_one_iff.mp fun hone => hsafe hone hlive k c hderef
              ((readLine_short c).mp hshort)
          case isFalse => cases hg
  | _ =>
      cases h
      exact iff_of_true hp trivial

/-- A step that goes wrong asks for nothing. -/
lemma safeEvent_of_none (h : p.step charSigned e = none) : p.SafeEvent e := by
  cases e with
  | readyRead i r =>
      intro _ hlive k c hderef
      have hread : p.readyRead i r = none := h
      rw [readyRead_eq r hlive hderef] at hread
      cases hread
  | _ => cases h

/-- **When the program leaves with the light off.**  In every run of the constructed program: all
exits are asked for with `0` written last if and only if no conversion fails and no line is too
short while the light is on. -/
theorem safeExits_iff (charSigned : Bool) (clock : ℕ) (lightLast powerLast : ℤ) (io : I2cOutcome)
    (es : List Event) :
    Throughout (step charSigned) SafeExits (start charSigned clock lightLast powerLast io) es ↔
      Along (step charSigned) SafeEvent (start charSigned clock lightLast powerLast io) es := by
  refine throughout_iff_along ?_ ?_ es ?_
  · intro p e p' hp h
    exact safeExits_step hp h
  · intro p e h
    exact safeEvent_of_none h
  · intro g hg
    cases hg

/-- **The light can stay on behind the program**: shortly after midnight a poll switches it on,
and then the light sensor cannot be read. -/
theorem not_safeExits :
    ¬ ∀ (charSigned : Bool) (clock : ℕ) (lightLast powerLast : ℤ) (io : I2cOutcome)
      (es : List Event), Throughout (step charSigned) SafeExits
        (start charSigned clock lightLast powerLast io) es := by
  intro h
  have hsafe := h false 0 0 0 ⟨0, some 0, some 0⟩
    [.lightStatePoll 0, .lightSensorPoll ⟨0, none, none⟩] _ [] _ (List.append_nil _).symm rfl
  exact absurd (hsafe .one (by decide)) (by decide)

end Program

end LightControl

import LightControl.Controller.UserOverride

/-!
# Toggles and the lamp

Pressing the button is meant to switch the lamp, whatever it shows.  A toggle works from what
`light_should_be` proposes, and a poll from what it proposes in another call, so the two agree
exactly where the proposal does not depend on the bits that the local happens to hold.

* `Proposes` — every call proposes one and the same setting; kept by polls (`proposes_poll`) and
  turned into its opposite by a toggle (`proposes_toggle`).
* `toggleVisible_iff` — a toggle is visible from every reachable state outside the dead band, and
  in the dead band from none.
-/

namespace LightControl

/-- The other value. -/
def GpioValue.opposite : GpioValue → GpioValue
  | .zero => .one
  | .one => .zero

lemma LightStates.code_injective {u v : LightStates} (h : u.code = v.code) : u = v := by
  cases u <;> cases v <;> first | rfl | exact absurd h (by decide)

namespace ClockedController

open LightStateDeterminer

variable {s : ClockedController} {u : LightStates}

/-- **A toggle is visible**: with the clock standing still, a poll, a toggle and a poll show the
opposite of the first poll, and one more toggle and poll show it again, whatever the local holds
in each of the calls. -/
def ToggleVisible (s : ClockedController) : Prop :=
  ∀ r₁ r₂ r₃ r₄ r₅,
    let polled := s.runSlots [.setLightState r₁]
    let toggled := polled.runSlots [.commandProc toggleOnOff r₂, .setLightState r₃]
    let again := toggled.runSlots [.commandProc toggleOnOff r₄, .setLightState r₅]
    toggled.controller.powerControlGpio = polled.controller.powerControlGpio.opposite ∧
      again.controller.powerControlGpio = polled.controller.powerControlGpio

/-- Whatever the local holds, `light_should_be` says `u`. -/
def Proposes (s : ClockedController) (u : LightStates) : Prop :=
  ∀ r, s.controller.lightStateD.lightShouldBe s.now r = u.code

lemma flipped_ne_undefined (hu : u ≠ .undefined) : u.flipped ≠ .undefined :=
  iterate_flipped_ne_undefined hu 1

lemma proposes_of_setting (hu : u ≠ .undefined) (h : s.setting = u) : s.Proposes u := by
  intro r
  have hset : s.controller.lightStateD.userLightSetting = u := h
  rw [lightShouldBe_of_user (by rw [hset]; exact hu), hset]

lemma proposes_poll (h : s.Proposes u) (r : BitVec 32) :
    (s.slotStep (.setLightState r)).Proposes u := by
  intro r'
  simp only [slotStep, LightController.setLightState_lightStateD]
  exact h r'

/-- A poll writes the proposal. -/
lemma gpio_poll (hu : u ≠ .undefined) (h : s.Proposes u) (r : BitVec 32) :
    some (s.slotStep (.setLightState r)).controller.powerControlGpio = u.gpio := by
  simp only [slotStep, LightController.setLightState, h r]
  cases u with
  | off => rfl
  | on => rfl
  | undefined => exact absurd rfl hu

/-- A toggle makes the proposal its opposite. -/
lemma proposes_toggle (hu : u ≠ .undefined) (h : s.Proposes u) (r : BitVec 32) :
    (s.slotStep (.commandProc toggleOnOff r)).Proposes u.flipped := by
  refine proposes_of_setting (flipped_ne_undefined hu) ?_
  rw [setting_slotStep_toggle]
  by_cases hset : s.setting = .undefined
  · rw [if_pos hset, firstOverride, h r]
    cases u with
    | off => rfl
    | on => rfl
    | undefined => exact absurd rfl hu
  · -- the user's setting is what every call returns
    have hcode : s.setting.code = u.code := by
      rw [← h r]
      exact (lightShouldBe_of_user hset r).symm
    rw [if_neg hset, LightStates.code_injective hcode]

lemma opposite_of_gpio {g g' : GpioValue} (h : some g = u.gpio)
    (h' : some g' = u.flipped.gpio) : g' = g.opposite := by
  cases u with
  | off =>
      cases h
      cases h'
      rfl
  | on =>
      cases h
      cases h'
      rfl
  | undefined => cases h

lemma toggleVisible_of_proposes (hu : u ≠ .undefined) (h : s.Proposes u) : s.ToggleVisible := by
  intro r₁ r₂ r₃ r₄ r₅ polled toggled again
  have hpolled := gpio_poll hu h r₁
  have h₂ := proposes_toggle hu (proposes_poll h r₁) r₂
  have htoggled := gpio_poll (flipped_ne_undefined hu) h₂ r₃
  have h₄ := proposes_toggle (flipped_ne_undefined hu) (proposes_poll h₂ r₃) r₄
  have hagain := gpio_poll (flipped_ne_undefined (flipped_ne_undefined hu)) h₄ r₅
  have hopposite : toggled.controller.powerControlGpio
      = polled.controller.powerControlGpio.opposite := opposite_of_gpio hpolled htoggled
  refine ⟨hopposite, ?_⟩
  have hback : again.controller.powerControlGpio
      = toggled.controller.powerControlGpio.opposite := opposite_of_gpio htoggled hagain
  rw [hback, hopposite]
  cases polled.controller.powerControlGpio <;> rfl

/-- In the dead band the poll can see `on` and the toggle `off`. -/
lemma not_toggleVisible_of_deadBand (h : s.controller.lightStateD.DeadBand s.now) :
    ¬ s.ToggleVisible := by
  intro hvisible
  have hopposite := (hvisible LightStates.on.code LightStates.off.code 0 0 0).1
  have hundef : s.setting = .undefined := h.1.1
  have hpolled : (s.slotStep (.setLightState LightStates.on.code)).controller.powerControlGpio
      = .one := by
    simp only [slotStep, LightController.setLightState, lightShouldBe_deadBand h, if_pos]
  have htoggled : ((s.slotStep (.setLightState LightStates.on.code)).slotStep
      (.commandProc toggleOnOff LightStates.off.code)).setting = .on := by
    have hset : (s.slotStep (.setLightState LightStates.on.code)).setting = .undefined := by
      rw [setting_slotStep_other rfl rfl, hundef]
    rw [setting_slotStep_toggle, if_pos hset, firstOverride]
    simp only [slotStep, LightController.setLightState_lightStateD]
    exact if_pos (lightShouldBe_deadBand h _)
  have hlit := gpio_poll (by decide) (proposes_of_setting (by decide) htoggled) 0
  rw [LightStates.gpio, Option.some.injEq] at hlit
  simp only [runSlots, List.foldl_cons, List.foldl_nil, hpolled, hlit] at hopposite
  cases hopposite

lemma toggleVisible_iff_not_deadBand :
    s.ToggleVisible ↔ ¬ s.controller.lightStateD.DeadBand s.now := by
  constructor
  · intro hvisible hband
    exact not_toggleVisible_of_deadBand hband hvisible
  · intro hband
    rcases lightShouldBe_assigned hband with hon | hoff
    · exact toggleVisible_of_proposes (by decide) hon
    · exact toggleVisible_of_proposes (by decide) hoff

/-- **When a toggle is visible.**  In every state a run reaches, with any value on the GPIO and at
any instant: a toggle is visible if and only if `light_should_be` is not then in the dead band. -/
theorem toggleVisible_iff (clock low high : ℕ) (calls : List SlotCall) (g : GpioValue) (t : ℕ) :
    ToggleVisible ⟨t, { ((start clock low high).runSlots calls).controller with
        powerControlGpio := g }⟩ ↔
      ¬ ((start clock low high).runSlots calls).controller.lightStateD.DeadBand
        (QTime.currentTime t) :=
  toggleVisible_iff_not_deadBand

/-- **A toggle can go unseen at the bounds the program sets**: shortly after midnight, at
intensity 55. -/
theorem not_toggleVisible :
    ¬ ∀ (clock low high : ℕ), low ≤ high → ∀ (calls : List SlotCall) (g : GpioValue) (t : ℕ),
      ToggleVisible ⟨t, { ((start clock low high).runSlots calls).controller with
        powerControlGpio := g }⟩ := by
  intro h
  refine not_toggleVisible_of_deadBand ?_
    (h 0 50 60 (by decide) [.lightIntensityChanged 55] .zero 0)
  decide

end ClockedController

end LightControl

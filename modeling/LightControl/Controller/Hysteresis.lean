import LightControl.Controller.LightController

/-!
# The dead band

Between the two bounds the light is meant to stay as it is.  `light_should_be` gets there without
assigning its result, so what a poll then does depends on the bits that its local happens to hold.

`hysteresis_iff` says exactly which runs are free of that: those in which no call of
`light_should_be` is made in the dead band.
-/

namespace LightControl.ClockedController

open LightStateDeterminer Runs

/-- The call makes `light_should_be` run. -/
def CallsLightShouldBe (s : ClockedController) : SlotCall → Prop
  | .setLightState _ => True
  | .commandProc cmd _ =>
      cmd = toggleOnOff ∧ s.controller.lightStateD.userLightSetting = .undefined
  | _ => False

/-- The decision is an assigned one: on or off, whatever the local held. -/
def Assigned (d : LightStateDeterminer) (now : QTime) : Prop :=
  (∀ r, d.lightShouldBe now r = LightStates.on.code ∨
    d.lightShouldBe now r = LightStates.off.code) ∧
  ∀ r r', d.lightShouldBe now r = d.lightShouldBe now r'

/-- **The law at one call**: a decision is an assigned one, and a poll in the dead band keeps the
GPIO. -/
def Hysteresis (s : ClockedController) (e : SlotCall) : Prop :=
  (CallsLightShouldBe s e → Assigned s.controller.lightStateD s.now) ∧
  ∀ r, e = .setLightState r → s.controller.lightStateD.DeadBand s.now →
    (s.slotStep e).controller.powerControlGpio = s.controller.powerControlGpio

lemma assigned_iff (d : LightStateDeterminer) (now : QTime) :
    Assigned d now ↔ ¬ d.DeadBand now := by
  constructor
  · rintro ⟨-, hsame⟩ hband
    have hbits := hsame LightStates.on.code LightStates.off.code
    rw [lightShouldBe_deadBand hband, lightShouldBe_deadBand hband] at hbits
    exact absurd hbits (by decide)
  · intro hband
    rcases lightShouldBe_assigned hband with hon | hoff
    · exact ⟨fun r => Or.inl (hon r), fun r r' => by rw [hon, hon]⟩
    · exact ⟨fun r => Or.inr (hoff r), fun r r' => by rw [hoff, hoff]⟩

/-- The law at one call holds exactly if the call decides nothing in the dead band. -/
lemma hysteresis_step_iff (s : ClockedController) (e : SlotCall) :
    Hysteresis s e ↔
      (CallsLightShouldBe s e → ¬ s.controller.lightStateD.DeadBand s.now) := by
  constructor
  · intro h hcall
    exact (assigned_iff _ _).mp (h.1 hcall)
  · intro h
    constructor
    · intro hcall
      exact (assigned_iff _ _).mpr (h hcall)
    · rintro r rfl hband
      exact absurd hband (h trivial)

/-- **What a poll in the dead band does**: the bits of the local decide. -/
theorem setLightState_deadBand {s : ClockedController}
    (hband : s.controller.lightStateD.DeadBand s.now) (r : BitVec 32) :
    (s.slotStep (.setLightState r)).controller.powerControlGpio
      = if r = LightStates.on.code then .one
        else if r = LightStates.off.code then .zero
        else s.controller.powerControlGpio := by
  simp only [slotStep, LightController.setLightState, lightShouldBe_deadBand hband]
  split
  · rfl
  · split <;> rfl

/-- **Which runs have the hysteresis.**  From the constructed window, with any bounds and at any
time: the law holds at every call of the run if and only if no decision of the run is made in the
dead band. -/
theorem hysteresis_iff (clock low high : ℕ) (calls : List SlotCall) :
    Along step Hysteresis (start clock low high) calls ↔
      Along step (fun s e => CallsLightShouldBe s e → ¬ s.controller.lightStateD.DeadBand s.now)
        (start clock low high) calls :=
  along_congr (I := fun _ => True) (fun _ _ _ _ _ => trivial)
    (fun s e _ => hysteresis_step_iff s e) calls trivial

/-- **The law fails at the bounds the program sets**: shortly after midnight, at intensity 55, a
poll whose local holds the bits of `on` turns the light on. -/
theorem not_hysteresis :
    ¬ ∀ (clock low high : ℕ), low ≤ high → ∀ calls : List SlotCall,
      Along step Hysteresis (start clock low high) calls := by
  intro h
  have hrun := h 0 50 60 (by decide) [.lightIntensityChanged 55, .setLightState 1]
  have hlaw := (hysteresis_step_iff _ _).mp (hrun.2 _ rfl).1
  exact hlaw trivial (by decide)

end LightControl.ClockedController

import LightControl.Qt.QTime

/-!
# The light state determiner

`light_state_determiner.cpp`: the setting the user asked for, the last reading of the light
sensor, the time of day at which the occupancy sensor fired last, and the decision whether the
light should be on.

The decision is kept in a local, `ret_value`, that one path through the function never assigns.
A local of type `light_states` is 32 bits of storage, so the function takes the bits the local
happens to hold and returns the bits it holds at the end.
-/

namespace LightControl

/-- `light_states`. -/
inductive LightStates
  | off
  | on
  | undefined
  deriving DecidableEq, Repr

/-- The bits that stand for an enumerator. -/
def LightStates.code : LightStates → BitVec 32
  | off => 0
  | on => 1
  | undefined => 2

/-- `light_state_determiner`. -/
structure LightStateDeterminer where
  lightIntensityValue : ℕ
  lastTimeOccupancySensorFired : QTime
  occupancyTimeoutDelta : QTime
  userLightSetting : LightStates
  turnOnLowBound : ℕ
  turnOffHighBound : ℕ
  deriving DecidableEq, Repr

namespace LightStateDeterminer

/-- The constructor; the two bounds are not initialised, so they are whatever they are. -/
def new (turnOnLowBound turnOffHighBound : ℕ) : LightStateDeterminer where
  lightIntensityValue := 0
  lastTimeOccupancySensorFired := ⟨0, by decide⟩
  occupancyTimeoutDelta := ⟨300000, by decide⟩
  userLightSetting := .undefined
  turnOnLowBound := turnOnLowBound
  turnOffHighBound := turnOffHighBound

/-- `set_light_intensity`. -/
def setLightIntensity (d : LightStateDeterminer) (lightIn : ℕ) : LightStateDeterminer :=
  { d with lightIntensityValue := lightIn }

/-- `light_intensity`. -/
def lightIntensity (d : LightStateDeterminer) : ℕ := d.lightIntensityValue

/-- `occupancy_sensor_fired`, at the given time of day. -/
def occupancySensorFired (d : LightStateDeterminer) (now : QTime) : LightStateDeterminer :=
  { d with lastTimeOccupancySensorFired := now }

/-- `last_occupancy_detected`. -/
def lastOccupancyDetected (d : LightStateDeterminer) : QTime := d.lastTimeOccupancySensorFired

/-- `set_occupancy_timeout_delta`. -/
def setOccupancyTimeoutDelta (d : LightStateDeterminer) (timeoutValue : QTime) :
    LightStateDeterminer :=
  { d with occupancyTimeoutDelta := timeoutValue }

/-- `user_set_light_state`. -/
def userSetLightState (d : LightStateDeterminer) : LightStates := d.userLightSetting

/-- `user_set_light_off`. -/
def userSetLightOff (d : LightStateDeterminer) : LightStateDeterminer :=
  { d with userLightSetting := .off }

/-- `user_set_light_on`. -/
def userSetLightOn (d : LightStateDeterminer) : LightStateDeterminer :=
  { d with userLightSetting := .on }

/-- `user_set_light_to_default`. -/
def userSetLightToDefault (d : LightStateDeterminer) : LightStateDeterminer :=
  { d with userLightSetting := .undefined }

/-- `set_turn_on_low_bound`. -/
def setTurnOnLowBound (d : LightStateDeterminer) (newLowBound : ℕ) : LightStateDeterminer :=
  { d with turnOnLowBound := newLowBound }

/-- `set_turn_off_high_bound`. -/
def setTurnOffHighBound (d : LightStateDeterminer) (newHighBound : ℕ) : LightStateDeterminer :=
  { d with turnOffHighBound := newHighBound }

/-! ## The decision -/

/-- The local `occupancy_timeout`. -/
def occupancyTimeout (d : LightStateDeterminer) : QTime :=
  let secondsToTimeout := d.occupancyTimeoutDelta.hour * 3600 +
    d.occupancyTimeoutDelta.minute * 60 + d.occupancyTimeoutDelta.second
  d.lastOccupancyDetected.addSecs secondsToTimeout

/-- `light_should_be`, called at the time of day `now` with the given bits in `ret_value`. -/
def lightShouldBe (d : LightStateDeterminer) (now : QTime) (retValue : BitVec 32) : BitVec 32 :=
  if d.userLightSetting = .on then LightStates.on.code
  else if d.userLightSetting = .off then LightStates.off.code
  -- the user hasn't done anything particular yet, undefined state
  else if d.occupancyTimeout < now then LightStates.off.code
  else if d.lightIntensityValue < d.turnOnLowBound then LightStates.on.code
  else if d.turnOffHighBound < d.lightIntensityValue then LightStates.off.code
  else retValue

/-- The call goes on to the light intensity comparison. -/
def ReachesComparison (d : LightStateDeterminer) (now : QTime) : Prop :=
  d.userLightSetting = .undefined ∧ ¬ d.occupancyTimeout < now

/-- What the comparison says, with the given bits in `ret_value`. -/
def comparison (d : LightStateDeterminer) (retValue : BitVec 32) : BitVec 32 :=
  if d.lightIntensityValue < d.turnOnLowBound then LightStates.on.code
  else if d.turnOffHighBound < d.lightIntensityValue then LightStates.off.code
  else retValue

/-- The call goes on to the comparison, and neither bound decides. -/
def DeadBand (d : LightStateDeterminer) (now : QTime) : Prop :=
  d.ReachesComparison now ∧ d.turnOnLowBound ≤ d.lightIntensityValue ∧
    d.lightIntensityValue ≤ d.turnOffHighBound

instance (d : LightStateDeterminer) (now : QTime) : Decidable (d.ReachesComparison now) :=
  inferInstanceAs (Decidable (d.userLightSetting = .undefined ∧ ¬ d.occupancyTimeout < now))

instance (d : LightStateDeterminer) (now : QTime) : Decidable (d.DeadBand now) :=
  inferInstanceAs (Decidable (d.ReachesComparison now ∧
    d.turnOnLowBound ≤ d.lightIntensityValue ∧ d.lightIntensityValue ≤ d.turnOffHighBound))

variable {d : LightStateDeterminer} {now : QTime}

lemma lightShouldBe_of_user (h : d.userLightSetting ≠ .undefined) (retValue : BitVec 32) :
    d.lightShouldBe now retValue = d.userLightSetting.code := by
  simp only [lightShouldBe]
  cases hu : d.userLightSetting with
  | off => simp
  | on => simp
  | undefined => exact absurd hu h

/-- Without a setting of the user's, a call that does not reach the comparison says off. -/
lemma lightShouldBe_of_timeout (hu : d.userLightSetting = .undefined)
    (h : ¬ d.ReachesComparison now) (retValue : BitVec 32) :
    d.lightShouldBe now retValue = LightStates.off.code := by
  have ht : d.occupancyTimeout < now := not_not.mp fun ht => h ⟨hu, ht⟩
  simp [lightShouldBe, hu, ht]

lemma lightShouldBe_of_reachesComparison (h : d.ReachesComparison now) (retValue : BitVec 32) :
    d.lightShouldBe now retValue = d.comparison retValue := by
  rcases h with ⟨hu, ht⟩
  simp [lightShouldBe, comparison, hu, ht]

/-- **In the dead band the call returns what `ret_value` happened to hold.** -/
theorem lightShouldBe_deadBand (h : d.DeadBand now) (retValue : BitVec 32) :
    d.lightShouldBe now retValue = retValue := by
  rcases h with ⟨⟨hu, ht⟩, hlow, hhigh⟩
  simp [lightShouldBe, hu, ht, Nat.not_lt.mpr hlow, Nat.not_lt.mpr hhigh]

/-- **Outside the dead band the call returns on or off**, and the same whatever `ret_value`
held. -/
theorem lightShouldBe_assigned (h : ¬ d.DeadBand now) :
    (∀ r, d.lightShouldBe now r = LightStates.on.code) ∨
      ∀ r, d.lightShouldBe now r = LightStates.off.code := by
  by_cases hreach : d.ReachesComparison now
  · rcases hreach with ⟨hu, ht⟩
    by_cases hlow : d.lightIntensityValue < d.turnOnLowBound
    · exact Or.inl fun r => by simp [lightShouldBe, hu, ht, hlow]
    · have hhigh : d.turnOffHighBound < d.lightIntensityValue := by
        by_contra hhigh
        exact h ⟨⟨hu, ht⟩, Nat.not_lt.mp hlow, Nat.not_lt.mp hhigh⟩
      exact Or.inr fun r => by simp [lightShouldBe, hu, ht, hlow, hhigh]
  · by_cases hu : d.userLightSetting = .undefined
    · exact Or.inr (lightShouldBe_of_timeout hu hreach)
    · cases hs : d.userLightSetting with
      | off => exact Or.inr fun r => by rw [lightShouldBe_of_user hu, hs]
      | on => exact Or.inl fun r => by rw [lightShouldBe_of_user hu, hs]
      | undefined => exact absurd hs hu

end LightStateDeterminer

end LightControl

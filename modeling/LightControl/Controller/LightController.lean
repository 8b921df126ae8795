import LightControl.Controller.LightStateDeterminer
import LightControl.Core.CTypes
import LightControl.Core.Runs
import LightControl.Qt.QString

/-!
# The light controller

`light_controller.cpp`: the slots of the main window, which feed the sensors and the user's
commands into the determiner and its decision into the GPIO that switches the light.

`SlotCall` is what can happen to the window, the passage of time included, and `slotStep` what
each call does.  The program around it (`Program.lean`) decides which of these calls its own
events make.
-/

namespace LightControl

open CTypes QString

/-- The values written to the power control GPIO. -/
inductive GpioValue
  | zero
  | one
  deriving DecidableEq, Repr

/-- `light_controller`, the part its slots work on.  `powerControlGpio` is the value written
last. -/
structure LightController where
  lightStateD : LightStateDeterminer
  powerControlGpio : GpioValue
  detectedSomebodyLabel : Bool
  deriving DecidableEq, Repr

/-! ## The commands -/

def toggleOnOff : QString := literal "toggle_on_off"
def resetToDefault : QString := literal "reset_to_default"
def getLightState : QString := literal "get_light_state"
def dimmerSetting : QString := literal "dimmer_setting"

/-- The answer to `get_light_state`. -/
def responseLine : QString := literal "Something, something\n"

namespace LightController

/-- The window with the GPIO switched off and the two bounds set; a label is enabled unless its
form says otherwise. -/
def new (turnOnLowBound turnOffHighBound : ℕ) : LightController where
  lightStateD := LightStateDeterminer.new 0 0
    |>.setTurnOnLowBound turnOnLowBound
    |>.setTurnOffHighBound turnOffHighBound
  powerControlGpio := .zero
  detectedSomebodyLabel := true

/-! ## The slots -/

/-- `on_actionClose_triggered`, without the exit that follows. -/
def onActionCloseTriggered (c : LightController) : LightController :=
  { c with powerControlGpio := .zero }

/-- `light_intensity_changed`; the `int` becomes an `unsigned int`. -/
def lightIntensityChanged (c : LightController) (newIntensity : ℤ) : LightController :=
  { c with lightStateD := c.lightStateD.setLightIntensity (toUnsigned 32 newIntensity) }

/-- `PIR_gpio_ready_read`, with the line read from the GPIO file.  The slot sleeps for a quarter
of a second before it uses what it read, so it also moves the clock. -/
def pirGpioReadyRead (c : LightController) (clock : ℕ) (pirLine : List UInt8) :
    LightController × ℕ :=
  match pirLine with
  | [] => (c, clock)
  | b :: _ =>
      if b = 0x31 then
        ({ c with
          lightStateD := c.lightStateD.occupancySensorFired (QTime.currentTime (clock + 250))
          detectedSomebodyLabel := true }, clock + 250)
      else if b = 0x30 then ({ c with detectedSomebodyLabel := false }, clock + 250)
      else (c, clock)

/-- The branch of `command_proc` for `toggle_on_off`. -/
def toggle (c : LightController) (now : QTime) (retValue : BitVec 32) : LightController :=
  match c.lightStateD.userSetLightState with
  | .off => { c with lightStateD := c.lightStateD.userSetLightOn }
  | .on => { c with lightStateD := c.lightStateD.userSetLightOff }
  | .undefined =>
      if c.lightStateD.lightShouldBe now retValue = LightStates.off.code then
        { c with lightStateD := c.lightStateD.userSetLightOn }
      else { c with lightStateD := c.lightStateD.userSetLightOff }

/-- `command_proc`: the window afterwards, and the line handed to `send_line`. -/
def commandProc (c : LightController) (now : QTime) (cmd : QString) (retValue : BitVec 32) :
    LightController × Option QString :=
  if cmd = toggleOnOff then (c.toggle now retValue, none)
  else if cmd = resetToDefault then
    ({ c with lightStateD := c.lightStateD.userSetLightToDefault }, none)
  else if cmd = getLightState then (c, some responseLine)
  -- this command and everything not understood is only logged
  else if cmd = dimmerSetting then (c, none)
  else (c, none)

lemma commandProc_reply (c : LightController) (now : QTime) (cmd : QString)
    (retValue : BitVec 32) :
    (c.commandProc now cmd retValue).2
      = if cmd = getLightState then some responseLine else none := by
  by_cases hget : cmd = getLightState
  · have htoggle : getLightState ≠ toggleOnOff := by decide
    have hreset : getLightState ≠ resetToDefault := by decide
    rw [hget, commandProc, if_neg htoggle, if_neg hreset, if_pos rfl, if_pos rfl]
  · rw [commandProc, if_neg hget]
    split
    case isTrue => rfl
    case isFalse => split <;> simp

/-- `set_light_state`. -/
def setLightState (c : LightController) (now : QTime) (retValue : BitVec 32) : LightController :=
  let thisLightState := c.lightStateD.lightShouldBe now retValue
  if thisLightState = LightStates.on.code then { c with powerControlGpio := .one }
  else if thisLightState = LightStates.off.code then { c with powerControlGpio := .zero }
  else c

/-! ### What the slots can do -/

/-- The PIR slot does one of three things, by the level it read. -/
lemma pirGpioReadyRead_cases (c : LightController) (clock : ℕ) (pirLine : List UInt8) :
    (pirLine.head? = some 0x31 ∧ c.pirGpioReadyRead clock pirLine
      = ({ c with
            lightStateD := c.lightStateD.occupancySensorFired (QTime.currentTime (clock + 250))
            detectedSomebodyLabel := true }, clock + 250)) ∨
    (pirLine.head? = some 0x30 ∧ c.pirGpioReadyRead clock pirLine
      = ({ c with detectedSomebodyLabel := false }, clock + 250)) ∨
    ((pirLine.head? ≠ some 0x31 ∧ pirLine.head? ≠ some 0x30) ∧
      c.pirGpioReadyRead clock pirLine = (c, clock)) := by
  cases pirLine with
  | nil => exact Or.inr (Or.inr ⟨by simp, rfl⟩)
  | cons b line =>
      by_cases hone : b = 0x31
      · exact Or.inl ⟨by simp [hone], if_pos hone⟩
      · by_cases hzero : b = 0x30
        · refine Or.inr (Or.inl ⟨by simp [hzero], ?_⟩)
          simp only [pirGpioReadyRead, if_neg hone, if_pos hzero]
        · refine Or.inr (Or.inr ⟨by simp [hone, hzero], ?_⟩)
          simp only [pirGpioReadyRead, if_neg hone, if_neg hzero]

/-- A command changes the user's setting at most. -/
lemma commandProc_window (c : LightController) (now : QTime) (cmd : QString)
    (retValue : BitVec 32) :
    ∃ u, (c.commandProc now cmd retValue).1
      = { c with lightStateD := { c.lightStateD with userLightSetting := u } } := by
  simp only [commandProc, ite_self]
  split
  case isTrue =>
    simp only [toggle]
    split
    case h_3 => split <;> exact ⟨_, rfl⟩
    all_goals exact ⟨_, rfl⟩
  case isFalse =>
    split
    case isTrue => exact ⟨_, rfl⟩
    case isFalse => split <;> exact ⟨c.lightStateD.userLightSetting, rfl⟩

/-- A poll changes the GPIO at most. -/
lemma setLightState_window (c : LightController) (now : QTime) (retValue : BitVec 32) :
    ∃ g, c.setLightState now retValue = { c with powerControlGpio := g } := by
  simp only [setLightState]
  split
  case isTrue => exact ⟨_, rfl⟩
  case isFalse => split <;> exact ⟨_, rfl⟩

lemma setLightState_lightStateD (c : LightController) (now : QTime) (retValue : BitVec 32) :
    (c.setLightState now retValue).lightStateD = c.lightStateD := by
  rcases c.setLightState_window now retValue with ⟨g, h⟩
  rw [h]

end LightController

/-! ## Runs -/

/-- The window and the absolute clock. -/
structure ClockedController where
  clock : ℕ
  controller : LightController
  deriving DecidableEq, Repr

/-- What can happen to the window.  The bits that `ret_value` holds are part of each call that
can make a decision. -/
inductive SlotCall
  | wait (msecs : ℕ)
  | onActionCloseTriggered
  | lightIntensityChanged (newIntensity : ℤ)
  | pirGpioReadyRead (pirLine : List UInt8)
  | commandProc (cmd : QString) (retValue : BitVec 32)
  | setLightState (retValue : BitVec 32)
  deriving DecidableEq, Repr

namespace ClockedController

/-- The time of day. -/
def now (s : ClockedController) : QTime := QTime.currentTime s.clock

/-- What a call does. -/
def slotStep (s : ClockedController) : SlotCall → ClockedController
  | .wait msecs => { s with clock := s.clock + msecs }
  | .onActionCloseTriggered => { s with controller := s.controller.onActionCloseTriggered }
  | .lightIntensityChanged n => { s with controller := s.controller.lightIntensityChanged n }
  | .pirGpioReadyRead line =>
      { clock := (s.controller.pirGpioReadyRead s.clock line).2
        controller := (s.controller.pirGpioReadyRead s.clock line).1 }
  | .commandProc cmd r => { s with controller := (s.controller.commandProc s.now cmd r).1 }
  | .setLightState r => { s with controller := s.controller.setLightState s.now r }

lemma slotStep_lightIntensity (s : ClockedController) {e : SlotCall}
    (he : ∀ n, e ≠ .lightIntensityChanged n) :
    (s.slotStep e).controller.lightStateD.lightIntensity
      = s.controller.lightStateD.lightIntensity := by
  cases e with
  | wait msecs => rfl
  | onActionCloseTriggered => rfl
  | lightIntensityChanged n => exact absurd rfl (he n)
  | pirGpioReadyRead line =>
      rcases s.controller.pirGpioReadyRead_cases s.clock line with ⟨-, h⟩ | ⟨-, h⟩ | ⟨-, h⟩
      · simp only [slotStep, h]
        rfl
      · simp only [slotStep, h]
      · simp only [slotStep, h]
  | commandProc cmd r =>
      rcases s.controller.commandProc_window s.now cmd r with ⟨u, h⟩
      simp only [slotStep, h]
      rfl
  | setLightState r =>
      simp only [slotStep, LightController.setLightState_lightStateD]

/-- `slotStep` as a step that never goes wrong. -/
def step (s : ClockedController) (e : SlotCall) : Option ClockedController := some (s.slotStep e)

/-- The state in which the constructor leaves the window, at some instant. -/
def start (clock turnOnLowBound turnOffHighBound : ℕ) : ClockedController :=
  ⟨clock, LightController.new turnOnLowBound turnOffHighBound⟩

/-- The window after a list of calls. -/
def runSlots (s : ClockedController) (calls : List SlotCall) : ClockedController :=
  calls.foldl slotStep s

lemma run_step (s : ClockedController) (calls : List SlotCall) :
    Runs.run step s calls = some (s.runSlots calls) :=
  Runs.run_some slotStep s calls

lemma runSlots_append (s : ClockedController) (calls more : List SlotCall) :
    s.runSlots (calls ++ more) = (s.runSlots calls).runSlots more :=
  List.foldl_append

@[simp] lemma runSlots_concat (s : ClockedController) (calls : List SlotCall) (c : SlotCall) :
    s.runSlots (calls ++ [c]) = (s.runSlots calls).slotStep c := by
  rw [runSlots_append]
  rfl

end ClockedController

end LightControl

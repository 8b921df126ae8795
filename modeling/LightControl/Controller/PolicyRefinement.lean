import LightControl.Controller.LightPolicy
import LightControl.Controller.Presence
import LightControl.Controller.Program

/-!
# The controller carries out the policy

`Shows` relates the window to a room: the same daylight, setting and lamp, and the time of day at
which the sensor fired.  Each slot call is one or two happenings in the room, and the window goes
on showing it (`shows_slotStep`) as long as the decisions are `Faithful`: made at an instant whose
time of day tells what it is meant to tell, and, between the bounds, with the lamp's own state in
the local that nobody assigns.

* `program_shows` — so does the program, over whole runs.
* `vacant_dark`, `gpio_lastVerdict` — the policy's laws, at the GPIO.
-/

namespace LightControl

open Runs QString

/-- The policy of a window with these bounds. -/
def controllerPolicy (lowBound highBound : ℕ) : LightPolicy :=
  ⟨lowBound, highBound, ClockedController.occupancyTimeoutMSecs⟩

@[simp] lemma controllerPolicy_lowBound (low high : ℕ) :
    (controllerPolicy low high).lowBound = low := rfl

@[simp] lemma controllerPolicy_highBound (low high : ℕ) :
    (controllerPolicy low high).highBound = high := rfl

@[simp] lemma controllerPolicy_timeout (low high : ℕ) :
    (controllerPolicy low high).timeout = ClockedController.occupancyTimeoutMSecs := rfl

/-- An empty and dark room. -/
def Room.atRest (clock : ℕ) : Room := ⟨clock, none, 0, none, false⟩

/-! ## What a slot call is in the room -/

/-- A setting of the user's. -/
def asSetting : Option Bool → LightStates
  | none => .undefined
  | some false => .off
  | some true => .on

/-- A decision. -/
def asCode (lit : Bool) : BitVec 32 := (asSetting (some lit)).code

def asGpio : Bool → GpioValue
  | false => .zero
  | true => .one

/-- What happens in the room. -/
def SlotCall.happenings : SlotCall → List Happening
  | .wait msecs => [.pass msecs]
  | .onActionCloseTriggered => [.shutOff]
  | .lightIntensityChanged n => [.brightness (CTypes.toUnsigned 32 n)]
  | .pirGpioReadyRead pirLine =>
      if pirLine.head? = some 0x31 then [.pass 250, .motion]
      else if pirLine.head? = some 0x30 then [.pass 250]
      else []
  | .commandProc cmd _ =>
      if cmd = toggleOnOff then [.button]
      else if cmd = resetToDefault then [.automatic]
      else []
  | .setLightState _ => [.look]

namespace LightPolicy

/-- The room after a slot call. -/
def slotStep (policy : LightPolicy) (room : Room) (e : SlotCall) : Option Room :=
  some (policy.after room e.happenings)

/-- The time of day tells whether the room is occupied. -/
def Timely (policy : LightPolicy) (room : Room) : Prop :=
  match room.lastMotion with
  | some m => SameDayOrLater (m + policy.timeout) room.clock
  | none => policy.timeout < room.clock % msecsPerDay

instance (policy : LightPolicy) (room : Room) : Decidable (policy.Timely room) :=
  match h : room.lastMotion with
  | none => decidable_of_iff (policy.timeout < room.clock % msecsPerDay) (by simp [Timely, h])
  | some m => decidable_of_iff (SameDayOrLater (m + policy.timeout) room.clock)
      (by simp [Timely, h])

/-- A decision of the sensors' is made at a good time of day, and where they say nothing the local
holds what keeps the lamp as it is. -/
def Faithful (policy : LightPolicy) (room : Room) : SlotCall → Prop
  | .setLightState r => room.override = none →
      policy.Timely room ∧ (policy.verdict room = none → r ≠ asCode (!room.lamp))
  | .commandProc cmd r => cmd = toggleOnOff → room.override = none →
      policy.Timely room ∧
        (policy.verdict room = none → (r = LightStates.off.code ↔ room.lamp = false))
  | _ => True

instance (policy : LightPolicy) (room : Room) (e : SlotCall) :
    Decidable (policy.Faithful room e) := by
  cases e <;> unfold Faithful <;> infer_instance

/-- A command changes what the user asked for at most. -/
lemma after_command (policy : LightPolicy) (room : Room) (cmd : QString) (r : BitVec 32) :
    ∃ o, policy.after room (SlotCall.commandProc cmd r).happenings
      = { room with override := o } := by
  rw [SlotCall.happenings]
  split
  case isTrue => exact ⟨_, rfl⟩
  case isFalse =>
    split
    case isTrue => exact ⟨_, rfl⟩
    case isFalse => exact ⟨room.override, rfl⟩

lemma run_slotStep (policy : LightPolicy) (room : Room) (calls : List SlotCall) :
    run policy.slotStep room calls
      = some (policy.after room (calls.flatMap SlotCall.happenings)) := by
  induction calls generalizing room with
  | nil => rfl
  | cons e calls ih =>
      rw [run_cons, slotStep, Option.bind_some, ih, List.flatMap_cons, after_append]

end LightPolicy

namespace ClockedController

open LightStateDeterminer

/-- The window shows the room. -/
structure Shows (s : ClockedController) (lowBound highBound : ℕ) (room : Room) : Prop where
  clock : s.clock = room.clock
  level : s.controller.lightStateD.lightIntensityValue = room.level
  setting : s.setting = asSetting room.override
  lamp : s.controller.powerControlGpio = asGpio room.lamp
  fired : s.controller.lightStateD.lastTimeOccupancySensorFired
    = room.lastMotion.elim ⟨0, by decide⟩ QTime.currentTime
  past : ∀ m ∈ room.lastMotion, m ≤ room.clock
  timeout : s.controller.lightStateD.occupancyTimeoutDelta.mds = occupancyTimeoutMSecs
  low : s.controller.lightStateD.turnOnLowBound = lowBound
  high : s.controller.lightStateD.turnOffHighBound = highBound

variable {s : ClockedController} {lowBound highBound : ℕ} {room : Room}

lemma shows_start (clock lowBound highBound : ℕ) :
    (start clock lowBound highBound).Shows lowBound highBound (Room.atRest clock) where
  clock := rfl
  level := rfl
  setting := rfl
  lamp := rfl
  fired := rfl
  past := by simp [Room.atRest]
  timeout := rfl
  low := rfl
  high := rfl

/-! ## A decision -/

/-- At a good time of day the timeout has run out exactly if nobody is there. -/
lemma occupancyTimeout_lt_now_iff (h : s.Shows lowBound highBound room)
    (htimely : (controllerPolicy lowBound highBound).Timely room) :
    s.controller.lightStateD.occupancyTimeout < s.now ↔
      ¬ (controllerPolicy lowBound highBound).Occupied room := by
  have hfired := h.fired
  have hsecs : occupancyTimeoutMSecs / 1000 * 1000 = occupancyTimeoutMSecs := by decide
  rw [occupancyTimeout, lastOccupancyDetected, QTime.hour_minute_second, h.timeout, now, h.clock,
    LightPolicy.Occupied]
  cases hm : room.lastMotion with
  | none =>
      rw [hm] at hfired
      simp only [LightPolicy.Timely, hm, controllerPolicy_timeout] at htimely
      simp only [hfired, Option.elim_none, QTime.addSecs, hsecs, QTime.lt_def, QTime.ofMSecs,
        QTime.mds_currentTime, Nat.zero_add, Option.mem_def, reduceCtorEq, false_and,
        exists_false, not_false_eq_true, iff_true]
      rwa [Nat.mod_eq_of_lt (by decide)]
  | some m =>
      rw [hm] at hfired
      simp only [LightPolicy.Timely, hm, controllerPolicy_timeout] at htimely
      have hle : m ≤ room.clock := h.past m hm
      simp only [hfired, Option.elim_some, QTime.addSecs_currentTime, hsecs, Option.mem_def,
        Option.some.injEq, exists_eq_left', controllerPolicy_timeout]
      rw [← not_iff_not, not_not]
      exact (currentTime_le_deadline_iff (by decide) hle).mpr htimely

/-- **The decision is the verdict**, and where there is none the bits of the local. -/
lemma lightShouldBe_eq_verdict (h : s.Shows lowBound highBound room)
    (hset : room.override = none)
    (htimely : (controllerPolicy lowBound highBound).Timely room) (r : BitVec 32) :
    s.controller.lightStateD.lightShouldBe s.now r
      = (((controllerPolicy lowBound highBound).verdict room).map asCode).getD r := by
  have hu : s.controller.lightStateD.userLightSetting = .undefined := by
    have hsetting := h.setting
    rw [hset] at hsetting
    exact hsetting
  have htimeout := occupancyTimeout_lt_now_iff h htimely
  simp only [lightShouldBe, hu, reduceCtorEq, if_false, htimeout, h.level, h.low, h.high,
    LightPolicy.verdict, controllerPolicy_lowBound, controllerPolicy_highBound]
  by_cases hocc : (controllerPolicy lowBound highBound).Occupied room
  · simp only [hocc, not_true_eq_false, if_false]
    by_cases hdark : room.level < lowBound
    · simp only [hdark, if_true]
      rfl
    · by_cases hbright : highBound < room.level
      · simp only [hdark, hbright, if_true, if_false]
        rfl
      · simp only [hdark, hbright, if_false]
        rfl
  · simp only [hocc, not_false_eq_true, if_true]
    rfl

/-- The user's setting is a decision, too. -/
lemma lightShouldBe_eq_override {lit : Bool} (h : s.Shows lowBound highBound room)
    (hset : room.override = some lit) (r : BitVec 32) :
    s.controller.lightStateD.lightShouldBe s.now r = asCode lit := by
  have hu : s.controller.lightStateD.userLightSetting = asSetting (some lit) := by
    have hsetting := h.setting
    rw [hset] at hsetting
    exact hsetting
  have hdef : asSetting (some lit) ≠ .undefined := by cases lit <;> decide
  rw [lightShouldBe_of_user (hu ▸ hdef), hu]
  rfl

/-! ## One call -/

lemma asCode_eq_off (lit : Bool) : asCode lit = LightStates.off.code ↔ lit = false := by
  cases lit <;> decide

/-- A poll writes what the policy wants. -/
lemma shows_poll (h : s.Shows lowBound highBound room) {r : BitVec 32}
    (hfaithful : (controllerPolicy lowBound highBound).Faithful room (.setLightState r)) :
    (s.controller.setLightState s.now r).powerControlGpio
      = asGpio ((controllerPolicy lowBound highBound).wanted room) := by
  have hdecided : ∀ lit, s.controller.lightStateD.lightShouldBe s.now r = asCode lit →
      (s.controller.setLightState s.now r).powerControlGpio = asGpio lit := by
    intro lit hlit
    rw [LightController.setLightState, hlit]
    cases lit <;> rfl
  rw [LightPolicy.wanted]
  cases hset : room.override with
  | some lit => exact hdecided lit (lightShouldBe_eq_override h hset r)
  | none =>
      rcases hfaithful hset with ⟨htimely, hlocal⟩
      have hbits := lightShouldBe_eq_verdict h hset htimely r
      cases hv : (controllerPolicy lowBound highBound).verdict room with
      | some lit => exact hdecided lit (by rw [hbits, hv]; rfl)
      | none =>
          -- nothing is said: the local keeps the lamp as it is, or says nothing either
          have hne := hlocal hv
          rw [hv, Option.map_none, Option.getD_none] at hbits
          rw [LightController.setLightState, hbits, Option.getD_none, Option.getD_none]
          cases hlamp : room.lamp with
          | false =>
              rw [hlamp] at hne
              rw [if_neg (show r ≠ LightStates.on.code from hne)]
              split
              · rfl
              · rw [h.lamp, hlamp]
          | true =>
              rw [hlamp] at hne
              rw [if_neg (show r ≠ LightStates.off.code from hne)]
              split
              · rfl
              · rw [h.lamp, hlamp]

/-- A toggle asks for the opposite of what the policy wants. -/
lemma shows_toggle (h : s.Shows lowBound highBound room) {r : BitVec 32}
    (hfaithful : (controllerPolicy lowBound highBound).Faithful room
      (.commandProc toggleOnOff r)) :
    (s.slotStep (.commandProc toggleOnOff r)).setting
      = asSetting (some (!(controllerPolicy lowBound highBound).wanted room)) := by
  rw [setting_slotStep_toggle, h.setting, LightPolicy.wanted]
  cases hset : room.override with
  | some lit => cases lit <;> rfl
  | none =>
      rcases hfaithful rfl hset with ⟨htimely, hlocal⟩
      have hbits := lightShouldBe_eq_verdict h hset htimely r
      have hundef : asSetting none = .undefined := rfl
      rw [if_pos hundef, firstOverride, hbits, Option.getD_none]
      cases hv : (controllerPolicy lowBound highBound).verdict room with
      | some lit =>
          simp only [Option.map_some, Option.getD_some, asCode_eq_off]
          cases lit <;> rfl
      | none =>
          simp only [Option.map_none, Option.getD_none, hlocal hv]
          cases room.lamp <;> rfl

/-- **One call.**  The window goes on showing the room. -/
theorem shows_slotStep (h : s.Shows lowBound highBound room) {e : SlotCall}
    (hfaithful : (controllerPolicy lowBound highBound).Faithful room e) :
    (s.slotStep e).Shows lowBound highBound
      ((controllerPolicy lowBound highBound).after room e.happenings) := by
  cases e with
  | wait msecs =>
      refine { h with clock := ?_, past := ?_ }
      · exact congrArg (· + msecs) h.clock
      · exact fun m hm => (h.past m hm).trans (Nat.le_add_right _ _)
  | onActionCloseTriggered => exact { h with lamp := rfl }
  | lightIntensityChanged n => exact { h with level := rfl }
  | pirGpioReadyRead line =>
      rcases s.controller.pirGpioReadyRead_cases s.clock line with
        ⟨hone, hcall⟩ | ⟨hzero, hcall⟩ | ⟨⟨hone, hzero⟩, hcall⟩
      · have hhap : (SlotCall.pirGpioReadyRead line).happenings = [.pass 250, .motion] := by
          rw [SlotCall.happenings, if_pos hone]
        rw [slotStep, hcall, hhap]
        refine { h with clock := congrArg (· + 250) h.clock, fired := ?_, past := ?_ }
        · exact congrArg (fun t => QTime.currentTime (t + 250)) h.clock
        · rintro m ⟨⟩
          exact Nat.le_refl _
      · have hne : line.head? ≠ some 0x31 := by simp [hzero]
        have hhap : (SlotCall.pirGpioReadyRead line).happenings = [.pass 250] := by
          rw [SlotCall.happenings, if_neg hne, if_pos hzero]
        rw [slotStep, hcall, hhap]
        refine { h with clock := congrArg (· + 250) h.clock, past := ?_ }
        exact fun m hm => (h.past m hm).trans (Nat.le_add_right _ _)
      · have hhap : (SlotCall.pirGpioReadyRead line).happenings = [] := by
          rw [SlotCall.happenings, if_neg hone, if_neg hzero]
        rw [slotStep, hcall, hhap]
        exact h
  | commandProc cmd r =>
      rcases s.controller.commandProc_window s.now cmd r with ⟨u, hwindow⟩
      have hset : (s.slotStep (.commandProc cmd r)).setting = asSetting
          ((controllerPolicy lowBound highBound).after room
            (SlotCall.commandProc cmd r).happenings).override := by
        by_cases htoggle : cmd = toggleOnOff
        · subst htoggle
          exact shows_toggle h hfaithful
        · by_cases hreset : cmd = resetToDefault
          · subst hreset
            exact setting_slotStep_reset (by simp [SlotCall.isReset])
          · rw [SlotCall.happenings, if_neg htoggle, if_neg hreset, LightPolicy.after_nil,
              ← h.setting]
            exact setting_slotStep_other (by simp [SlotCall.isToggle, htoggle])
              (by simp [SlotCall.isReset, hreset])
      obtain ⟨o, hroom⟩ := (controllerPolicy lowBound highBound).after_command room cmd r
      rw [hroom] at hset ⊢
      simp only [slotStep, hwindow] at hset ⊢
      exact { h with setting := hset }
  | setLightState r =>
      rcases s.controller.setLightState_window s.now r with ⟨g, hwindow⟩
      have hpoll := shows_poll h hfaithful
      rw [hwindow] at hpoll
      rw [slotStep, hwindow]
      exact { h with lamp := hpoll }

/-! ## Whole runs -/

/-- A run of faithful decisions. -/
def FaithfulRun (lowBound highBound : ℕ) (room : Room) (calls : List SlotCall) : Prop :=
  Along (controllerPolicy lowBound highBound).slotStep
    (controllerPolicy lowBound highBound).Faithful room calls

instance (lowBound highBound : ℕ) (room : Room) (calls : List SlotCall) :
    Decidable (FaithfulRun lowBound highBound room calls) :=
  inferInstanceAs (Decidable (Along _ _ room calls))

/-- `shows_slotStep`, for the steps. -/
lemma shows_step {s' : ClockedController} {e : SlotCall} (h : s.Shows lowBound highBound room)
    (he : (controllerPolicy lowBound highBound).Faithful room e) (hs : step s e = some s') :
    ∃ room', (controllerPolicy lowBound highBound).slotStep room e = some room' ∧
      s'.Shows lowBound highBound room' := by
  rw [step, Option.some.injEq] at hs
  exact ⟨_, rfl, hs ▸ shows_slotStep h he⟩

/-- **Whole runs.**  The window shows the room after every run of faithful decisions. -/
theorem shows_runSlots (h : s.Shows lowBound highBound room) {calls : List SlotCall}
    (hfaithful : FaithfulRun lowBound highBound room calls) :
    (s.runSlots calls).Shows lowBound highBound
      ((controllerPolicy lowBound highBound).after room (calls.flatMap SlotCall.happenings)) := by
  rcases run_simulation (R := fun s room => s.Shows lowBound highBound room)
    (fun _ _ _ _ => shows_step) calls h hfaithful (run_step s calls) with ⟨room', hroom, hshows⟩
  rw [LightPolicy.run_slotStep, Option.some.injEq] at hroom
  exact hroom ▸ hshows

end ClockedController

/-! ## The program -/

namespace Program

/-- What happens in the room in a run. -/
def happenings (charSigned : Bool) (p : Program) (es : List Event) : List Happening :=
  (p.runCalls charSigned es).flatMap SlotCall.happenings

/-- The room after some happenings, from the state at the start of the program. -/
def roomAfter (clock : ℕ) (hs : List Happening) : Room :=
  (controllerPolicy 50 60).after (Room.atRest clock) hs

section Start

variable {charSigned : Bool} {clock : ℕ} {lightLast powerLast : ℤ} {io : I2cOutcome}
  {es : List Event} {p : Program}

/-- **The program carries out the policy.**  After every run of faithful decisions the window
shows the room: the GPIO is the lamp, the setting is what the user asked for. -/
theorem program_shows
    (h : run (step charSigned) (start charSigned clock lightLast powerLast io) es = some p)
    (hfaithful : ClockedController.FaithfulRun 50 60 (Room.atRest clock)
      ((start charSigned clock lightLast powerLast io).runCalls charSigned es)) :
    p.window.Shows 50 60 (roomAfter clock
      ((start charSigned clock lightLast powerLast io).happenings charSigned es)) := by
  rw [run_runCalls h]
  exact ClockedController.shows_runSlots (ClockedController.shows_start clock 50 60) hfaithful

/-- The program at noon, with a sensor that sees no light. -/
def startNoon : Program := start false 43200000 0 0 ⟨0, some 255, some 255⟩

/-- Somebody comes in at noon, the lamp is lit, and six minutes later it is off. -/
theorem program_shows_noon :
    ∃ p, run (step false) startNoon
        [.pirEdge [0x31, 0x0a], .lightStatePoll 2, .wait 360000, .lightStatePoll 2] = some p ∧
      p.window.Shows 50 60 (roomAfter 43200000 (startNoon.happenings false
        [.pirEdge [0x31, 0x0a], .lightStatePoll 2, .wait 360000, .lightStatePoll 2])) := by
  have hfaithful : ClockedController.FaithfulRun 50 60 (Room.atRest 43200000)
      (startNoon.runCalls false
        [.pirEdge [0x31, 0x0a], .lightStatePoll 2, .wait 360000, .lightStatePoll 2]) := by decide
  exact ⟨_, rfl, program_shows rfl hfaithful⟩

/-- **A vacant room is dark.**  After a look at which nobody is in the room and the user does not
ask for light, the GPIO is off until somebody moves or presses the button. -/
theorem vacant_dark
    (h : run (step charSigned) (start charSigned clock lightLast powerLast io) es = some p)
    (hfaithful : ClockedController.FaithfulRun 50 60 (Room.atRest clock)
      ((start charSigned clock lightLast powerLast io).runCalls charSigned es))
    {before later : List Happening}
    (hsplit : (start charSigned clock lightLast powerLast io).happenings charSigned es
      = before ++ .look :: later)
    (hvacant : ¬ (controllerPolicy 50 60).Occupied (roomAfter clock before))
    (hset : (roomAfter clock before).override ≠ some true)
    (hquiet : ∀ h ∈ later, h ≠ .motion ∧ h ≠ .button) : p.powerControlGpio = .zero := by
  have hshows := program_shows h hfaithful
  have hdark : (controllerPolicy 50 60).Dark (roomAfter clock (before ++ .look :: later)) := by
    rw [roomAfter, LightPolicy.after_append]
    exact LightPolicy.dark_after (LightPolicy.dark_look hvacant hset) hquiet
  have hlamp := hshows.lamp
  rw [hsplit, hdark.lamp] at hlamp
  exact hlamp

/-- Six minutes after somebody came in at noon the room is dark, and it stays so when the line
falls. -/
theorem vacant_dark_noon :
    ∃ p, run (step false) startNoon
        [.pirEdge [0x31, 0x0a], .lightStatePoll 2, .wait 360000, .lightStatePoll 2,
          .pirEdge [0x30, 0x0a], .lightStatePoll 2] = some p ∧ p.powerControlGpio = .zero := by
  have hfaithful : ClockedController.FaithfulRun 50 60 (Room.atRest 43200000)
      (startNoon.runCalls false
        [.pirEdge [0x31, 0x0a], .lightStatePoll 2, .wait 360000, .lightStatePoll 2,
          .pirEdge [0x30, 0x0a], .lightStatePoll 2]) := by decide
  have hsplit : startNoon.happenings false
      [.pirEdge [0x31, 0x0a], .lightStatePoll 2, .wait 360000, .lightStatePoll 2,
        .pirEdge [0x30, 0x0a], .lightStatePoll 2]
      = [.pass 250, .motion, .look, .pass 360000] ++ .look :: [.pass 250, .look] := by decide
  exact ⟨_, rfl, vacant_dark rfl hfaithful hsplit (by decide) (by decide) (by decide)⟩

/-- **The light keeps its last verdict.**  From a moment at which the user has set nothing, and as
long as nobody presses the button or closes the window, the GPIO is what the sensors said last at
a look, however the daylight moves between the bounds. -/
theorem gpio_lastVerdict
    (h : run (step charSigned) (start charSigned clock lightLast powerLast io) es = some p)
    (hfaithful : ClockedController.FaithfulRun 50 60 (Room.atRest clock)
      ((start charSigned clock lightLast powerLast io).runCalls charSigned es))
    {before later : List Happening}
    (hsplit : (start charSigned clock lightLast powerLast io).happenings charSigned es
      = before ++ later)
    (hset : (roomAfter clock before).override = none)
    (hquiet : ∀ h ∈ later, h ≠ .button ∧ h ≠ .shutOff) :
    p.powerControlGpio = asGpio (((controllerPolicy 50 60).verdicts (roomAfter clock before)
      later).getLast?.getD (roomAfter clock before).lamp) := by
  have hlamp := (program_shows h hfaithful).lamp
  rw [hsplit, roomAfter, LightPolicy.after_append] at hlamp
  exact hlamp.trans (congrArg asGpio (LightPolicy.lamp_eq_lastVerdict hset hquiet).2)

/-- A lamp that was lit in the dark stays lit when the daylight comes up to 55. -/
theorem gpio_lastVerdict_noon :
    ∃ p, run (step false) startNoon
        [.pirEdge [0x31, 0x0a], .lightStatePoll 2, .lightSensorPoll ⟨0, some 115, some 115⟩,
          .lightStatePoll 2] = some p ∧
      p.powerControlGpio = .one := by
  have hfaithful : ClockedController.FaithfulRun 50 60 (Room.atRest 43200000)
      (startNoon.runCalls false
        [.pirEdge [0x31, 0x0a], .lightStatePoll 2, .lightSensorPoll ⟨0, some 115, some 115⟩,
          .lightStatePoll 2]) := by decide
  have hsplit : startNoon.happenings false
      [.pirEdge [0x31, 0x0a], .lightStatePoll 2, .lightSensorPoll ⟨0, some 115, some 115⟩,
        .lightStatePoll 2]
      = [] ++ [.pass 250, .motion, .look, .brightness 55, .look] := by decide
  exact ⟨_, rfl, gpio_lastVerdict rfl hfaithful hsplit rfl (by decide)⟩

end Start

end Program

end LightControl

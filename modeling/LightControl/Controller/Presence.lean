import LightControl.Controller.UserOverride

/-!
# Presence and the occupancy timeout

The label in the window follows the level of the PIR line; the timeout counts from the last edge
at which the line read `1`.  The two views of the room agree for five minutes after such an edge,
and the timeout then runs out although the line has not fallen.

* `slotStep_unread` — only a level that is read moves the label or the sensor's time.
* `presence_poll` — what a poll writes as long as the last level read is `1`.
-/

namespace LightControl

/-- The level that a call reads from the PIR line. -/
def SlotCall.levelRead : SlotCall → Option Bool
  | .pirGpioReadyRead pirLine =>
      if pirLine.head? = some 0x31 then some true
      else if pirLine.head? = some 0x30 then some false
      else none
  | _ => none

namespace ClockedController

variable {s : ClockedController}

/-! ## What one call does -/

lemma clock_le_slotStep (s : ClockedController) (e : SlotCall) :
    s.clock ≤ (s.slotStep e).clock := by
  cases e with
  | wait msecs => exact Nat.le_add_right _ _
  | pirGpioReadyRead line =>
      rcases s.controller.pirGpioReadyRead_cases s.clock line with ⟨-, h⟩ | ⟨-, h⟩ | ⟨-, h⟩
      all_goals
        simp only [slotStep, h]
        omega
  | _ => exact Nat.le_refl _

lemma delta_slotStep (s : ClockedController) (e : SlotCall) :
    (s.slotStep e).controller.lightStateD.occupancyTimeoutDelta
      = s.controller.lightStateD.occupancyTimeoutDelta := by
  cases e with
  | pirGpioReadyRead line =>
      rcases s.controller.pirGpioReadyRead_cases s.clock line with ⟨-, h⟩ | ⟨-, h⟩ | ⟨-, h⟩
      · simp only [slotStep, h]
        rfl
      · simp only [slotStep, h]
      · simp only [slotStep, h]
  | commandProc cmd r =>
      rcases s.controller.commandProc_window s.now cmd r with ⟨u, h⟩
      simp only [slotStep, h]
  | setLightState r => simp only [slotStep, LightController.setLightState_lightStateD]
  | _ => rfl

/-- What the window shows of the room: when the sensor fired, and the label. -/
def roomView (s : ClockedController) : QTime × Bool :=
  (s.controller.lightStateD.lastTimeOccupancySensorFired, s.controller.detectedSomebodyLabel)

/-- An edge at which the line reads `1` counts from the end of the pause that the slot makes. -/
lemma slotStep_high {e : SlotCall} (he : e.levelRead = some true) :
    (s.slotStep e).roomView = (QTime.currentTime (s.slotStep e).clock, true) := by
  cases e with
  | pirGpioReadyRead line =>
      rcases s.controller.pirGpioReadyRead_cases s.clock line with ⟨-, h⟩ | ⟨hzero, -⟩ | ⟨hno, -⟩
      · simp only [roomView, slotStep, h]
        rfl
      · simp [SlotCall.levelRead, hzero] at he
      · simp [SlotCall.levelRead, hno] at he
  | _ => cases he

lemma slotStep_unread {e : SlotCall} (he : e.levelRead = none) :
    (s.slotStep e).roomView = s.roomView := by
  cases e with
  | pirGpioReadyRead line =>
      rcases s.controller.pirGpioReadyRead_cases s.clock line with ⟨hone, -⟩ | ⟨hzero, -⟩ | ⟨-, h⟩
      · simp [SlotCall.levelRead, hone] at he
      · simp [SlotCall.levelRead, hzero] at he
      · simp only [roomView, slotStep, h]
  | commandProc cmd r =>
      rcases s.controller.commandProc_window s.now cmd r with ⟨u, h⟩
      simp only [roomView, slotStep, h]
  | setLightState r =>
      rcases s.controller.setLightState_window s.now r with ⟨g, h⟩
      simp only [roomView, slotStep, h]
  | _ => rfl

/-! ## Whole runs -/

lemma clock_le_runSlots (s : ClockedController) (calls : List SlotCall) :
    s.clock ≤ (s.runSlots calls).clock := by
  induction calls using List.reverseRecOn with
  | nil => exact Nat.le_refl _
  | append_singleton calls e ih =>
      rw [runSlots_concat]
      exact ih.trans (clock_le_slotStep _ e)

lemma delta_runSlots (s : ClockedController) (calls : List SlotCall) :
    (s.runSlots calls).controller.lightStateD.occupancyTimeoutDelta
      = s.controller.lightStateD.occupancyTimeoutDelta := by
  induction calls using List.reverseRecOn with
  | nil => rfl
  | append_singleton calls e ih => rw [runSlots_concat, delta_slotStep, ih]

lemma roomView_runSlots {calls : List SlotCall} (h : ∀ e ∈ calls, e.levelRead = none) :
    (s.runSlots calls).roomView = s.roomView := by
  induction calls using List.reverseRecOn with
  | nil => rfl
  | append_singleton calls e ih =>
      rw [runSlots_concat, slotStep_unread (h e (by simp))]
      exact ih fun e' he' => h e' (by simp [he'])

/-- The timeout that the constructor sets, in milliseconds. -/
def occupancyTimeoutMSecs : ℕ := 300000

/-- On the day of the deadline the timeout test asks whether the deadline has passed. -/
lemma occupancyTimeout_lt_iff {d : LightStateDeterminer} {noticed t : ℕ}
    (hlast : d.lastTimeOccupancySensorFired = QTime.currentTime noticed)
    (hdelta : d.occupancyTimeoutDelta.mds = occupancyTimeoutMSecs) (hle : noticed ≤ t)
    (hday : t / msecsPerDay = (noticed + occupancyTimeoutMSecs) / msecsPerDay) :
    d.occupancyTimeout < QTime.currentTime t ↔ noticed + occupancyTimeoutMSecs < t := by
  have hdeadline : d.occupancyTimeout = QTime.currentTime (noticed + occupancyTimeoutMSecs) := by
    rw [LightStateDeterminer.occupancyTimeout, LightStateDeterminer.lastOccupancyDetected, hlast,
      QTime.hour_minute_second, hdelta, QTime.addSecs_currentTime]
    rfl
  have hiff := (currentTime_le_deadline_iff (by decide) hle).mpr (Or.inl hday)
  rw [hdeadline, ← not_iff_not, hiff, Nat.not_lt]

/-- The instant from which the timeout counts when `e`, after the calls `pre`, reads the line
high. -/
def noticed (s : ClockedController) (pre : List SlotCall) (e : SlotCall) : ℕ :=
  (s.runSlots (pre ++ [e])).clock

/-- **The room counts as occupied for five minutes after the line was last read high.**  In a run
within one day whose last level, read by `e`, is `1`: the label is enabled, and with nothing set
by the user and too little light a poll writes `1` up to the deadline and `0` after it, provided
that the deadline lies on that day too. -/
theorem presence_poll (clock low high : ℕ) (pre post : List SlotCall) (e : SlotCall)
    (hread : e.levelRead = some true) (hpost : ∀ e' ∈ post, e'.levelRead = none) :
    let s := (start clock low high).runSlots (pre ++ e :: post)
    let deadline := (start clock low high).noticed pre e + occupancyTimeoutMSecs
    s.controller.detectedSomebodyLabel = true ∧
      (s.clock / msecsPerDay = clock / msecsPerDay →
        deadline / msecsPerDay = clock / msecsPerDay →
        s.setting = .undefined →
        s.controller.lightStateD.lightIntensityValue < s.controller.lightStateD.turnOnLowBound →
        ∀ g r, (({ s.controller with powerControlGpio := g }).setLightState
          s.now r).powerControlGpio = if s.clock ≤ deadline then .one else .zero) := by
  intro s deadline
  have hsplit : s = ((start clock low high).runSlots (pre ++ [e])).runSlots post := by
    rw [← runSlots_append, List.append_assoc]
    rfl
  have hroom : s.roomView = (QTime.currentTime ((start clock low high).noticed pre e), true) := by
    rw [hsplit, roomView_runSlots hpost, noticed, runSlots_concat, slotStep_high hread]
  refine ⟨congrArg Prod.snd hroom, ?_⟩
  intro hday hdeadline hundef hdark g r
  have hle : (start clock low high).noticed pre e ≤ s.clock := by
    rw [hsplit]
    exact clock_le_runSlots _ post
  have hdelta : s.controller.lightStateD.occupancyTimeoutDelta.mds = occupancyTimeoutMSecs := by
    rw [delta_runSlots]
    rfl
  have htimeout := occupancyTimeout_lt_iff (congrArg Prod.fst hroom) hdelta hle
    (hday.trans hdeadline.symm)
  have hset : s.controller.lightStateD.userLightSetting = .undefined := hundef
  simp only [LightController.setLightState, LightStateDeterminer.lightShouldBe, hset, now,
    htimeout, hdark, if_true, reduceCtorEq, if_false]
  by_cases hlate : deadline < s.clock
  · rw [if_pos hlate, if_neg (Nat.not_le.mpr hlate)]
    rfl
  · rw [if_neg hlate, if_pos (Nat.not_lt.mp hlate)]
    rfl

/-- Somebody seen at noon, and a poll a minute later. -/
theorem presence_poll_noon :
    ((start 43200000 50 60).runSlots
        [.pirGpioReadyRead [0x31, 0x0a], .wait 60000]).controller.detectedSomebodyLabel = true ∧
      ∀ g r, (({ ((start 43200000 50 60).runSlots
            [.pirGpioReadyRead [0x31, 0x0a], .wait 60000]).controller with
          powerControlGpio := g }).setLightState ((start 43200000 50 60).runSlots
            [.pirGpioReadyRead [0x31, 0x0a], .wait 60000]).now r).powerControlGpio = .one := by
  have hpoll := presence_poll 43200000 50 60 [] [.wait 60000] (.pirGpioReadyRead [0x31, 0x0a])
    (by decide) (by decide)
  exact ⟨hpoll.1, hpoll.2 (by decide) (by decide) (by decide) (by decide)⟩

/-- **The label does not keep the light on**: the line goes high at noon and stays there, and five
minutes later a poll switches the light off. -/
theorem not_presence_poll :
    ¬ ∀ (clock low high : ℕ) (pre post : List SlotCall) (e : SlotCall),
      e.levelRead = some true → (∀ e' ∈ post, e'.levelRead = none) →
      let s := (start clock low high).runSlots (pre ++ e :: post)
      s.clock / msecsPerDay = clock / msecsPerDay →
      s.controller.detectedSomebodyLabel = true → s.setting = .undefined →
      s.controller.lightStateD.lightIntensityValue < s.controller.lightStateD.turnOnLowBound →
      ∀ r, (s.controller.setLightState s.now r).powerControlGpio = .one := by
  intro h
  have hlit := h 43200000 50 60 [] [.wait 300001] (.pirGpioReadyRead [0x31, 0x0a])
    (by decide) (by decide) (by decide) (by decide) (by decide) (by decide) 0
  exact absurd hlit (by decide)

end ClockedController

end LightControl

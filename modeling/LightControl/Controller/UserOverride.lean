import LightControl.Controller.LightController
import Mathlib.Data.List.DropRight

/-!
# The user's override

`toggle_on_off` takes the light away from the sensors and `reset_to_default` gives it back.  Two
facts about one call do the work: only these two commands touch the user's setting
(`setting_slotStep_other`), and no command touches the rest of the determiner
(`sameSensors_command`).

* `userOverride_iterate` — over whole runs, the setting is the answer to the first toggle since
  the last reset, flipped by every later one, and that is what the polls write.
* `reset_forgets` — after a reset the determiner is what it would be had nobody sent a command.
-/

namespace LightControl

open QString

/-! ## The commands in a history -/

namespace SlotCall

/-- A command line, understood or not. -/
def isCommand : SlotCall → Bool
  | .commandProc _ _ => true
  | _ => false

def isToggle : SlotCall → Bool
  | .commandProc cmd _ => cmd = toggleOnOff
  | _ => false

def isReset : SlotCall → Bool
  | .commandProc cmd _ => cmd = resetToDefault
  | _ => false

/-- A command that touches the user's setting. -/
def isUserCommand (e : SlotCall) : Bool := e.isToggle || e.isReset

lemma eq_toggle_of_isToggle {e : SlotCall} (h : e.isToggle = true) :
    ∃ r, e = .commandProc toggleOnOff r := by
  cases e with
  | commandProc cmd r =>
      simp only [isToggle, decide_eq_true_eq] at h
      exact ⟨r, by rw [h]⟩
  | _ => cases h

end SlotCall

/-- The number of toggles since the last reset, or since the construction. -/
def togglesSinceReset (calls : List SlotCall) : ℕ :=
  (calls.rtakeWhile fun e => !e.isReset).countP SlotCall.isToggle

lemma togglesSinceReset_concat (calls : List SlotCall) (e : SlotCall) :
    togglesSinceReset (calls ++ [e])
      = if e.isReset then 0
        else togglesSinceReset calls + if e.isToggle then 1 else 0 := by
  rw [togglesSinceReset, List.rtakeWhile_concat]
  cases he : e.isReset with
  | true => rfl
  | false => simp [togglesSinceReset, List.countP_append, List.countP_singleton]

lemma togglesSinceReset_eq_zero {calls : List SlotCall}
    (h : ∀ e ∈ calls, e.isCommand = false) : togglesSinceReset calls = 0 := by
  rw [togglesSinceReset, List.countP_eq_zero]
  intro e he htoggle
  rcases SlotCall.eq_toggle_of_isToggle htoggle with ⟨r, rfl⟩
  exact absurd (h _ ((List.rtakeWhile_suffix _ _).subset he)) (by simp [SlotCall.isCommand])

/-- After a reset that no toggle follows. -/
lemma togglesSinceReset_of_lastReset {calls : List SlotCall}
    (h : ∃ e, (calls.filter SlotCall.isUserCommand).getLast? = some e ∧ e.isReset = true) :
    togglesSinceReset calls = 0 := by
  induction calls using List.reverseRecOn with
  | nil => rfl
  | append_singleton calls e ih =>
      rw [togglesSinceReset_concat]
      rcases h with ⟨last, hlast, hreset⟩
      rw [List.filter_append] at hlast
      cases he : e.isReset with
      | true => rfl
      | false =>
          cases ht : e.isToggle with
          | true =>
              -- then the last user command is this toggle
              rw [List.filter_cons_of_pos (by simp [SlotCall.isUserCommand, ht]),
                List.filter_nil, List.getLast?_concat, Option.some.injEq] at hlast
              rw [hlast, hreset] at he
              exact absurd he (by simp)
          | false =>
              rw [List.filter_cons_of_neg (by simp [SlotCall.isUserCommand, ht, he]),
                List.filter_nil, List.append_nil] at hlast
              simpa using ih ⟨last, hlast, hreset⟩

/-- The first toggle since the last reset, and the toggles that follow it. -/
lemma exists_firstToggle {calls : List SlotCall} (h : 0 < togglesSinceReset calls) :
    ∃ pre r post, calls = pre ++ .commandProc toggleOnOff r :: post ∧
      togglesSinceReset pre = 0 ∧ (∀ e ∈ post, e.isReset = false) ∧
      togglesSinceReset calls = post.countP SlotCall.isToggle + 1 := by
  induction calls using List.reverseRecOn with
  | nil => exact absurd h (Nat.lt_irrefl 0)
  | append_singleton calls e ih =>
      rw [togglesSinceReset_concat] at h ⊢
      cases hr : e.isReset with
      | true =>
          rw [hr] at h
          exact absurd h (Nat.lt_irrefl 0)
      | false =>
          simp only [hr, Bool.false_eq_true, if_false] at h ⊢
          rcases Nat.eq_zero_or_pos (togglesSinceReset calls) with h0 | hpos
          · -- then this is the first
            cases ht : e.isToggle with
            | false => simp [h0, ht] at h
            | true =>
                rcases SlotCall.eq_toggle_of_isToggle ht with ⟨r, rfl⟩
                exact ⟨calls, r, [], rfl, h0, by simp, by simp [h0]⟩
          · rcases ih hpos with ⟨pre, r, post, heq, hpre, hpost, hcount⟩
            refine ⟨pre, r, post ++ [e], by simp [heq], hpre, ?_, ?_⟩
            · exact List.forall_mem_append.mpr ⟨hpost, by simpa using hr⟩
            · rw [List.countP_append, List.countP_singleton, hcount]
              omega

/-! ## What one call does to the setting -/

/-- The value that a setting of the user's puts on the GPIO. -/
def LightStates.gpio : LightStates → Option GpioValue
  | .off => some .zero
  | .on => some .one
  | .undefined => none

/-- The other setting. -/
def LightStates.flipped : LightStates → LightStates
  | .off => .on
  | .on => .off
  | .undefined => .undefined

namespace ClockedController

variable {s : ClockedController}

/-- The user's setting. -/
def setting (s : ClockedController) : LightStates :=
  s.controller.lightStateD.userSetLightState

/-- The setting that the first toggle makes: the opposite of what `light_should_be` says. -/
def firstOverride (s : ClockedController) (retValue : BitVec 32) : LightStates :=
  if s.controller.lightStateD.lightShouldBe s.now retValue = LightStates.off.code then .on
  else .off

lemma setting_start (clock low high : ℕ) : (start clock low high).setting = .undefined := rfl

lemma firstOverride_ne_undefined (r : BitVec 32) : s.firstOverride r ≠ .undefined := by
  rw [firstOverride]
  split <;> simp

lemma iterate_flipped_ne_undefined {u : LightStates} (h : u ≠ .undefined) (n : ℕ) :
    LightStates.flipped^[n] u ≠ .undefined := by
  induction n with
  | zero => exact h
  | succ n ih =>
      rw [Function.iterate_succ_apply']
      cases hu : LightStates.flipped^[n] u with
      | off => simp [LightStates.flipped]
      | on => simp [LightStates.flipped]
      | undefined => exact absurd hu ih

lemma setting_slotStep_toggle (s : ClockedController) (r : BitVec 32) :
    (s.slotStep (.commandProc toggleOnOff r)).setting
      = if s.setting = .undefined then s.firstOverride r else s.setting.flipped := by
  have hcall : (s.slotStep (.commandProc toggleOnOff r)).setting
      = (s.controller.toggle s.now r).lightStateD.userSetLightState := by
    simp only [slotStep, LightController.commandProc, if_pos, setting]
  rw [hcall, LightController.toggle]
  split
  case h_1 hu =>
    have hset : s.setting = .off := hu
    rw [hset]
    rfl
  case h_2 hu =>
    have hset : s.setting = .on := hu
    rw [hset]
    rfl
  case h_3 hu =>
    have hset : s.setting = .undefined := hu
    rw [if_pos hset, firstOverride]
    split <;> rfl

lemma setting_slotStep_reset {e : SlotCall} (h : e.isReset = true) :
    (s.slotStep e).setting = .undefined := by
  cases e with
  | commandProc cmd r =>
      simp only [SlotCall.isReset, decide_eq_true_eq] at h
      have htoggle : resetToDefault ≠ toggleOnOff := by decide
      simp only [slotStep, LightController.commandProc, h, if_neg htoggle, if_pos]
      rfl
  | _ => cases h

lemma setting_slotStep_other {e : SlotCall} (ht : e.isToggle = false)
    (hr : e.isReset = false) : (s.slotStep e).setting = s.setting := by
  cases e with
  | wait msecs => rfl
  | onActionCloseTriggered => rfl
  | lightIntensityChanged n => rfl
  | pirGpioReadyRead line =>
      rcases s.controller.pirGpioReadyRead_cases s.clock line with ⟨-, h⟩ | ⟨-, h⟩ | ⟨-, h⟩
      · simp only [setting, slotStep, h]
        rfl
      · simp only [setting, slotStep, h]
      · simp only [setting, slotStep, h]
  | commandProc cmd r =>
      simp only [SlotCall.isToggle, decide_eq_false_iff_not] at ht
      simp only [SlotCall.isReset, decide_eq_false_iff_not] at hr
      simp only [slotStep, LightController.commandProc, if_neg ht, if_neg hr, ite_self]
      split <;> rfl
  | setLightState r =>
      rcases s.controller.setLightState_window s.now r with ⟨g, h⟩
      simp only [setting, slotStep, h]

/-- A poll writes the user's setting, whatever was on the GPIO before. -/
lemma setLightState_setting {c : LightController} {now : QTime} (r : BitVec 32)
    (h : c.lightStateD.userSetLightState ≠ .undefined) :
    some (c.setLightState now r).powerControlGpio = c.lightStateD.userSetLightState.gpio := by
  simp only [LightController.setLightState, LightStateDeterminer.lightShouldBe_of_user h,
    LightStateDeterminer.userSetLightState]
  cases hu : c.lightStateD.userLightSetting with
  | off => rfl
  | on => rfl
  | undefined => exact absurd hu h

/-! ## Whole runs -/

lemma setting_runSlots_undefined (hs : s.setting = .undefined) {calls : List SlotCall}
    (h : togglesSinceReset calls = 0) : (s.runSlots calls).setting = .undefined := by
  induction calls using List.reverseRecOn with
  | nil => exact hs
  | append_singleton calls e ih =>
      rw [togglesSinceReset_concat] at h
      rw [runSlots_concat]
      cases hr : e.isReset with
      | true => exact setting_slotStep_reset hr
      | false =>
          cases ht : e.isToggle with
          | true => simp [hr, ht] at h
          | false =>
              rw [setting_slotStep_other ht hr]
              exact ih (by simpa [hr, ht] using h)

/-- Once the user has set something, toggles flip it and nothing else short of a reset moves it. -/
lemma setting_runSlots_flipped (hs : s.setting ≠ .undefined) {calls : List SlotCall}
    (h : ∀ e ∈ calls, e.isReset = false) :
    (s.runSlots calls).setting
      = LightStates.flipped^[calls.countP SlotCall.isToggle] s.setting := by
  induction calls using List.reverseRecOn with
  | nil => rfl
  | append_singleton calls e ih =>
      rcases List.forall_mem_append.mp h with ⟨hcalls, he⟩
      have hr : e.isReset = false := he e (by simp)
      rw [runSlots_concat, List.countP_append, List.countP_singleton]
      cases ht : e.isToggle with
      | false => simpa [setting_slotStep_other ht hr] using ih hcalls
      | true =>
          rcases SlotCall.eq_toggle_of_isToggle ht with ⟨r, rfl⟩
          have hdef := iterate_flipped_ne_undefined hs (calls.countP SlotCall.isToggle)
          rw [setting_slotStep_toggle, ih hcalls, if_neg hdef, if_pos rfl,
            Function.iterate_succ_apply']

/-- The setting in terms of the commands since the last reset. -/
lemma setting_runSlots (hs : s.setting = .undefined) {calls : List SlotCall}
    (h : 0 < togglesSinceReset calls) :
    ∃ pre r post, calls = pre ++ .commandProc toggleOnOff r :: post ∧
      togglesSinceReset pre = 0 ∧ (∀ e ∈ post, e.isReset = false) ∧
      (s.runSlots calls).setting
        = LightStates.flipped^[togglesSinceReset calls - 1]
            ((s.runSlots pre).firstOverride r) := by
  rcases exists_firstToggle h with ⟨pre, r, post, heq, hpre, hpost, hcount⟩
  refine ⟨pre, r, post, heq, hpre, hpost, ?_⟩
  have hfirst : ((s.runSlots pre).slotStep (.commandProc toggleOnOff r)).setting
      = (s.runSlots pre).firstOverride r := by
    rw [setting_slotStep_toggle, if_pos (setting_runSlots_undefined hs hpre)]
  have hdef : ((s.runSlots pre).slotStep (.commandProc toggleOnOff r)).setting ≠ .undefined := by
    rw [hfirst]
    exact firstOverride_ne_undefined r
  have hsplit : s.runSlots calls
      = ((s.runSlots pre).slotStep (.commandProc toggleOnOff r)).runSlots post := by
    rw [heq, runSlots_append]
    rfl
  rw [hsplit, setting_runSlots_flipped hdef hpost, hfirst, hcount, Nat.add_sub_cancel]

/-- **The override is a function of the commands.**  After any run: with no toggle since the last
reset the user has set nothing; with `k ≥ 1` of them the setting is the opposite of what
`light_should_be` said at the first, flipped `k - 1` times, and a poll writes that setting, from
any value of the GPIO and with any bits in the local. -/
theorem userOverride_iterate (clock low high : ℕ) (calls : List SlotCall) :
    (togglesSinceReset calls = 0 →
      ((start clock low high).runSlots calls).setting = .undefined) ∧
    (0 < togglesSinceReset calls →
      (∃ pre r post, calls = pre ++ .commandProc toggleOnOff r :: post ∧
        togglesSinceReset pre = 0 ∧ (∀ e ∈ post, e.isReset = false) ∧
        ((start clock low high).runSlots calls).setting
          = LightStates.flipped^[togglesSinceReset calls - 1]
              (((start clock low high).runSlots pre).firstOverride r)) ∧
      ∀ g r, some (({ ((start clock low high).runSlots calls).controller with
          powerControlGpio := g }).setLightState
          ((start clock low high).runSlots calls).now r).powerControlGpio
        = ((start clock low high).runSlots calls).setting.gpio) := by
  have hstart := setting_start clock low high
  refine ⟨setting_runSlots_undefined hstart, ?_⟩
  intro hpos
  refine ⟨setting_runSlots hstart hpos, ?_⟩
  intro g r
  rcases setting_runSlots hstart hpos with ⟨pre, r', post, -, -, -, hset⟩
  have hdef : ((start clock low high).runSlots calls).setting ≠ .undefined := by
    rw [hset]
    exact iterate_flipped_ne_undefined (firstOverride_ne_undefined r') _
  exact setLightState_setting r hdef

/-- Two toggles with a darker room in between. -/
theorem userOverride_twice :
    0 < togglesSinceReset [.commandProc toggleOnOff 0, .lightIntensityChanged 5,
        .commandProc toggleOnOff 0] ∧
      ∀ g r, some (({ ((start 0 50 60).runSlots [.commandProc toggleOnOff 0,
            .lightIntensityChanged 5, .commandProc toggleOnOff 0]).controller with
          powerControlGpio := g }).setLightState
          ((start 0 50 60).runSlots [.commandProc toggleOnOff 0, .lightIntensityChanged 5,
            .commandProc toggleOnOff 0]).now r).powerControlGpio
        = ((start 0 50 60).runSlots [.commandProc toggleOnOff 0, .lightIntensityChanged 5,
            .commandProc toggleOnOff 0]).setting.gpio :=
  ⟨by decide, fun g r => ((userOverride_iterate 0 50 60 _).2 (by decide)).2 g r⟩

/-! ## Forgetting the user -/

/-- The same clock, and the same determiner but for the user's setting. -/
def SameSensors (s t : ClockedController) : Prop :=
  s.clock = t.clock ∧
    s.controller.lightStateD.userSetLightToDefault
      = t.controller.lightStateD.userSetLightToDefault

/-- A call that is no command does the same on both sides. -/
lemma sameSensors_slotStep {s t : ClockedController} {e : SlotCall} (h : SameSensors s t)
    (he : e.isCommand = false) : SameSensors (s.slotStep e) (t.slotStep e) := by
  rcases h with ⟨hclock, hsame⟩
  cases e with
  | wait msecs => exact ⟨by simp only [slotStep, hclock], hsame⟩
  | onActionCloseTriggered => exact ⟨hclock, hsame⟩
  | lightIntensityChanged n =>
      refine ⟨hclock, ?_⟩
      exact congrArg (fun d : LightStateDeterminer => d.setLightIntensity _) hsame
  | pirGpioReadyRead line =>
      simp only [slotStep, SameSensors]
      cases line with
      | nil => exact ⟨hclock, hsame⟩
      | cons b line =>
          simp only [LightController.pirGpioReadyRead, hclock]
          split
          case isTrue =>
            refine ⟨rfl, ?_⟩
            exact congrArg (fun d : LightStateDeterminer => d.occupancySensorFired _) hsame
          case isFalse =>
            split
            case isTrue => exact ⟨rfl, hsame⟩
            case isFalse => exact ⟨rfl, hsame⟩
  | commandProc cmd r => cases he
  | setLightState r =>
      refine ⟨hclock, ?_⟩
      simp only [slotStep, LightController.setLightState_lightStateD]
      exact hsame

/-- A command changes one side only, and nothing that the sensors left there. -/
lemma sameSensors_command {s t : ClockedController} {e : SlotCall} (h : SameSensors s t)
    (he : e.isCommand = true) : SameSensors (s.slotStep e) t := by
  cases e with
  | commandProc cmd r =>
      rcases s.controller.commandProc_window s.now cmd r with ⟨u, hwindow⟩
      refine ⟨h.1, ?_⟩
      simp only [slotStep, hwindow]
      exact h.2
  | _ => cases he

lemma eq_of_userSetLightToDefault {d d' : LightStateDeterminer}
    (h : d.userSetLightToDefault = d'.userSetLightToDefault)
    (hu : d.userSetLightState = d'.userSetLightState) : d = d' := by
  cases d
  cases d'
  simp only [LightStateDeterminer.userSetLightToDefault, LightStateDeterminer.mk.injEq,
    true_and] at h
  simp only [LightStateDeterminer.userSetLightState] at hu
  simp [h, hu]

/-- **A reset forgets the user.**  A run whose last user command is a reset ends in the determiner
of the run without any command lines, so the two decide alike from then on. -/
theorem reset_forgets (clock low high : ℕ) {calls : List SlotCall}
    (hlast : ∃ e, (calls.filter SlotCall.isUserCommand).getLast? = some e ∧
      e.isReset = true) :
    let s := (start clock low high).runSlots calls
    let t := (start clock low high).runSlots (calls.filter fun e => !e.isCommand)
    s.controller.lightStateD = t.controller.lightStateD ∧
      ∀ msecs r,
        s.controller.lightStateD.lightShouldBe (QTime.currentTime (s.clock + msecs)) r
          = t.controller.lightStateD.lightShouldBe (QTime.currentTime (t.clock + msecs)) r := by
  intro s t
  have hsame : SameSensors s t := by
    refine Runs.foldl_filter_related (R := SameSensors) ?_ ?_ calls ⟨rfl, rfl⟩
    · intro s t e h he
      exact sameSensors_slotStep h (by simpa using he)
    · intro s t e h he
      exact sameSensors_command h (by simpa using he)
  have hs : s.setting = .undefined :=
    setting_runSlots_undefined (setting_start clock low high)
      (togglesSinceReset_of_lastReset hlast)
  have ht : t.setting = .undefined := by
    refine setting_runSlots_undefined (setting_start clock low high)
      (togglesSinceReset_eq_zero ?_)
    intro e he
    simpa using (List.mem_filter.mp he).2
  have heq : s.controller.lightStateD = t.controller.lightStateD :=
    eq_of_userSetLightToDefault hsame.2 (hs.trans ht.symm)
  refine ⟨heq, ?_⟩
  intro msecs r
  rw [heq, hsame.1]

/-- A toggle, a firing of the sensor and a reset. -/
theorem reset_forgets_toggle :
    ((start 0 50 60).runSlots [.commandProc toggleOnOff 0, .pirGpioReadyRead [0x31],
        .commandProc resetToDefault 0]).controller.lightStateD
      = ((start 0 50 60).runSlots ([.commandProc toggleOnOff 0, .pirGpioReadyRead [0x31],
          .commandProc resetToDefault 0].filter fun e => !e.isCommand)).controller.lightStateD :=
  (reset_forgets 0 50 60 ⟨.commandProc resetToDefault 0, by decide, by decide⟩).1

end ClockedController

end LightControl

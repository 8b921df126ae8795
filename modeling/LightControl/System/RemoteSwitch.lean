import LightControl.Controller.PolicyRefinement
import LightControl.System.CommandChannel

/-!
# The remote as a switch

The remote UI and the controller as one system: somebody uses the remote, and each command gets to
the controller in a segment of its own; in between, time passes, the sensors report and the timers
of the controller run out.

* `House` — the same house with the remote wired straight to the window: no sockets, no bytes.
* `step_house` — the system is such a house; every step of it goes through.
* `remoteSwitch_setting` — what the buttons of the remote come to, from the presses alone.
* `dimmer_inert` — the slider of the remote does nothing at all.
-/

namespace LightControl

open QString Runs

/-! ## What the user of the remote does -/

/-- The controls of the remote UI, and its timer. -/
inductive RemoteAction
  | press (cmd : RemoteCommand)
  | dimmer (value : UInt16)
  deriving DecidableEq, Repr

namespace RemoteAction

/-- The event whose slot sends the command. -/
def event : RemoteAction → UiEvent
  | press cmd => cmd.event
  | dimmer value => .dimmerSlider value

/-- What the slot sends. -/
def text : RemoteAction → QString
  | press cmd => cmd.text
  | dimmer value => literal "light_controller_dimmer" ++ [value]

/-- What the controller reads, when it reads all of that and nothing else. -/
def command (a : RemoteAction) : QString := fromUtf8 a.text.toUtf8

end RemoteAction

/-- Plain text in front is encoded for itself. -/
lemma toUtf8_append_singleton {s : QString} (hs : Plain s) (u : UInt16) :
    (s ++ [u]).toUtf8 = s.toUtf8 ++ encodeUnit u := by
  induction s with
  | nil => rfl
  | cons v s ih =>
      have hv : isHighSurrogate v = false := by
        have hsmall := (hs v (by simp)).2
        simp only [isHighSurrogate, Bool.and_eq_false_iff, decide_eq_false_iff_not]
        omega
      have hrest := ih fun w hw => hs w (List.mem_cons_of_mem v hw)
      cases s with
      | nil =>
          rw [List.nil_append] at hrest
          simp only [List.cons_append, List.nil_append, toUtf8, hv, Bool.false_and,
            Bool.false_eq_true, if_false]
      | cons w s =>
          rw [List.cons_append] at hrest
          simp only [List.cons_append, toUtf8, hv, Bool.false_and, Bool.false_eq_true, if_false,
            hrest, List.append_assoc]

/-- A line end at the end of some bytes does not divide them. -/
lemma readLine_append {maxSize : ℕ} {front back : List UInt8} (hfront : (10 : UInt8) ∉ front)
    (hback : back = [10] ∨ (10 : UInt8) ∉ back)
    (hle : (front ++ back).length ≤ maxSize) :
    readLine maxSize (front ++ back) = front ++ back := by
  induction front generalizing maxSize with
  | nil =>
      rcases hback with rfl | hback
      · cases maxSize with
        | zero => simp at hle
        | succ maxSize => simp [readLine]
      · exact readLine_of_length_le hback hle
  | cons b front ih =>
      rw [List.mem_cons, not_or] at hfront
      cases maxSize with
      | zero => simp at hle
      | succ maxSize =>
          rw [List.cons_append, readLine, if_neg (Ne.symm hfront.1),
            ih hfront.2 (by simpa using hle)]

/-- Text that begins with an ASCII character does so when it is read, too. -/
lemma head?_fromUtf8 {b : UInt8} (hb : 0 < b.toNat ∧ b.toNat < 0x80) (bytes : List UInt8) :
    (fromUtf8 (b :: bytes)).head? = some (UInt16.ofNat b.toNat) := by
  have hne : (b != 0) = true := by
    rw [bne_iff_ne]
    rintro rfl
    exact absurd hb.1 (by decide)
  rw [fromUtf8, List.takeWhile_cons, hne, if_pos rfl]
  split
  case h_1 heq =>
    rw [List.cons.injEq] at heq
    rw [heq.1] at hb
    exact absurd hb.2 (by decide)
  case h_2 =>
    have hsmall : b.toNat < 0x10000 := by omega
    rw [decode, QString.sequence, if_pos hb.2]
    simp [ofCodePoint, hsmall]

/-- A code unit is encoded as one byte, or as up to three that are not ASCII. -/
lemma encodeUnit_cases (u : UInt16) :
    (∃ b, encodeUnit u = [b]) ∨
      (encodeUnit u).length ≤ 3 ∧ ∀ b ∈ encodeUnit u, 0x80 ≤ b.toNat := by
  have hu : u.toNat < 0x10000 := u.toNat_lt
  simp only [encodeUnit, encodeCodePoint, hu, if_true]
  split
  · exact Or.inl ⟨_, rfl⟩
  · split
    · exact Or.inl ⟨_, rfl⟩
    · split
      · refine Or.inr ⟨by simp, ?_⟩
        simp only [List.mem_cons, List.not_mem_nil, or_false, forall_eq_or_imp, forall_eq,
          UInt8.toNat_ofNat']
        omega
      · refine Or.inr ⟨by simp, ?_⟩
        simp only [List.mem_cons, List.not_mem_nil, or_false, forall_eq_or_imp, forall_eq,
          UInt8.toNat_ofNat']
        omega

namespace RemoteAction

/-- What a control sends is read in one go. -/
lemma readLine_text (a : RemoteAction) :
    2 ≤ a.text.toUtf8.length ∧ readLine 256 a.text.toUtf8 = a.text.toUtf8 := by
  cases a with
  | press cmd =>
      have hword := cmd.word_text
      rw [text, hword.length_toUtf8]
      refine ⟨hword.2.2.1, readLine_of_length_le hword.not_mem_toUtf8 ?_⟩
      rw [hword.length_toUtf8]
      exact hword.2.2.2.le
  | dimmer value =>
      have hword : Word (literal "light_controller_dimmer") := by decide
      have hlen := hword.length_toUtf8
      have hcount : (literal "light_controller_dimmer").length = 23 := by decide
      rw [text, toUtf8_append_singleton hword.1]
      rcases encodeUnit_cases value with ⟨b, hb⟩ | ⟨hle, hhigh⟩
      · have hback : [b] = [10] ∨ (10 : UInt8) ∉ [b] := by
          by_cases hten : b = 10
          · exact Or.inl (by rw [hten])
          · exact Or.inr (by simpa using Ne.symm hten)
        rw [hb]
        refine ⟨by simp; omega, readLine_append hword.not_mem_toUtf8 hback ?_⟩
        simp only [List.length_append, List.length_singleton]
        omega
      · have hback : (10 : UInt8) ∉ encodeUnit value := fun hmem =>
          absurd (hhigh 10 hmem) (by decide)
        refine ⟨by simp; omega, readLine_append hword.not_mem_toUtf8 (Or.inr hback) ?_⟩
        simp only [List.length_append]
        omega

/-- A button's command is read as it was sent. -/
lemma command_press (cmd : RemoteCommand) : (press cmd).command = cmd.text :=
  fromUtf8_toUtf8_of_plain cmd.word_text.1

/-- What the slider sends is none of the commands that the controller knows. -/
lemma command_dimmer (value : UInt16) :
    (dimmer value).command ≠ toggleOnOff ∧ (dimmer value).command ≠ resetToDefault ∧
      (dimmer value).command ≠ getLightState := by
  have hhead : (dimmer value).command.head? = some 108 := by
    have hplain : Plain (literal "light_controller_dimmer") := by decide
    obtain ⟨rest, hbytes⟩ : ∃ rest, (dimmer value).text.toUtf8 = 108 :: rest := by
      rw [text, toUtf8_append_singleton hplain, toUtf8_plain hplain]
      exact ⟨_, rfl⟩
    rw [command, hbytes]
    exact head?_fromUtf8 (by decide) rest
  refine ⟨?_, ?_, ?_⟩
  all_goals
    intro heq
    rw [heq] at hhead
    revert hhead
    decide

end RemoteAction

/-! ## The house -/

/-- An event of the controller in which its server has no part. -/
def Event.isHouse : Event → Bool
  | .wait _ => true
  | .actionClose => true
  | .pirEdge _ => true
  | .lightSensorPoll _ => true
  | .powerSupplyVoltagePoll _ => true
  | .lightStatePoll _ => true
  | _ => false

/-- What can happen: somebody uses the remote, or something happens in the house. -/
inductive SwitchEvent
  | remote (a : RemoteAction) (retValue : BitVec 32)
  | house (e : {e : Event // e.isHouse = true})
  deriving DecidableEq

namespace SwitchEvent

def isToggle : SwitchEvent → Bool
  | remote a _ => a = .press .toggleOnOff
  | house _ => false

def isReset : SwitchEvent → Bool
  | remote a _ => a = .press .resetToDefault
  | house _ => false

end SwitchEvent

/-- The part of the controller that is not its server. -/
structure House where
  window : ClockedController
  lightIntensityConverter : I2cAdDaConverter
  powerSupplyVoltageConverter : I2cAdDaConverter
  deriving DecidableEq

/-- The house of a running controller. -/
def Program.house (p : Program) : House :=
  ⟨p.window, p.lightIntensityConverter, p.powerSupplyVoltageConverter⟩

namespace House

/-- The slots of the window that run when the remote is wired straight to them. -/
def calls (charSigned : Bool) (h : House) : SwitchEvent → List SlotCall
  | .remote a r => [.commandProc a.command r]
  | .house ⟨.wait msecs, _⟩ => [.wait msecs]
  | .house ⟨.actionClose, _⟩ => [.onActionCloseTriggered]
  | .house ⟨.pirEdge line, _⟩ => [.pirGpioReadyRead line]
  | .house ⟨.lightSensorPoll io, _⟩ =>
      (h.lightIntensityConverter.pollAdValue charSigned io).valueChanged.toList.map
        .lightIntensityChanged
  | .house ⟨.lightStatePoll r, _⟩ => [.setLightState r]
  | .house _ => []

/-- What happens in the house. -/
def happen (charSigned : Bool) (h : House) (e : SwitchEvent) : House where
  window := h.window.runSlots (h.calls charSigned e)
  lightIntensityConverter := match e with
    | .house ⟨.lightSensorPoll io, _⟩ =>
        (h.lightIntensityConverter.pollAdValue charSigned io).converter
    | _ => h.lightIntensityConverter
  powerSupplyVoltageConverter := match e with
    | .house ⟨.powerSupplyVoltagePoll io, _⟩ =>
        (h.powerSupplyVoltageConverter.pollAdValue charSigned io).converter
    | _ => h.powerSupplyVoltageConverter

@[simp] lemma happen_remote (charSigned : Bool) (h : House) (a : RemoteAction)
    (r : BitVec 32) :
    h.happen charSigned (.remote a r)
      = { h with window := h.window.slotStep (.commandProc a.command r) } := rfl

/-- The house after some events. -/
def after (charSigned : Bool) (h : House) (es : List SwitchEvent) : House :=
  es.foldl (happen charSigned) h

end House

/-! ## The system -/

/-- The remote UI and the controller. -/
structure RemoteSwitch where
  ui : LightControllerRemoteUi
  controller : Program

/-- All that the client has written to its current socket. -/
def LightControllerRemoteUi.written (ui : LightControllerRemoteUi) : List UInt8 :=
  (ui.lightControllerConnection.socket.map ClientSocket.written).getD []

namespace RemoteSwitch

/-- One event.  What a slot of the remote UI writes arrives in a segment of its own on the
connection `i` of the controller. -/
def step (charSigned : Bool) (i : ℕ) (s : RemoteSwitch) : SwitchEvent → Option RemoteSwitch
  | .remote a r =>
      (s.ui.step a.event).bind fun ui =>
        (run (Program.step charSigned) s.controller
          (Program.deliver i (ui.written.drop s.ui.written.length, r))).map fun p => ⟨ui, p⟩
  | .house e => (s.controller.step charSigned e.1).map fun p => { s with controller := p }

/-- The remote is connected, its controls are enabled, and the controller serves the connection
and has read everything. -/
def Ready (i : ℕ) (s : RemoteSwitch) : Prop :=
  (∃ bytes, s.ui.Linked bytes) ∧ s.controller.Serves i []

end RemoteSwitch

lemma LightControllerRemoteUi.Linked.written {ui : LightControllerRemoteUi} {bytes : List UInt8}
    (h : ui.Linked bytes) : ui.written = bytes := by
  rcases h with ⟨-, s, hs, -, hbytes⟩
  rw [LightControllerRemoteUi.written, hs]
  exact hbytes

/-- A control of the remote sends its text. -/
lemma LightControllerRemoteUi.step_action {ui : LightControllerRemoteUi} {bytes : List UInt8}
    (hui : ui.Linked bytes) (a : RemoteAction) :
    ∃ ui', ui.step a.event = some ui' ∧ ui'.Linked (bytes ++ a.text.toUtf8) := by
  cases a with
  | press cmd => exact step_command hui cmd
  | dimmer value =>
      rcases hui with ⟨henabled, s, hs, hstate, rfl⟩
      refine ⟨{ ui with lightControllerConnection := { ui.lightControllerConnection with
          socket := some { s with
            written := s.written ++ (RemoteAction.dimmer value).text.toUtf8 } } },
        ?_, henabled, _, rfl, hstate, rfl⟩
      rw [RemoteAction.event, step, if_pos henabled, lightControllerDimmerSet, SslClient.sendData,
        hs, Option.map_some, if_pos hstate]
      rfl

namespace Program

/-- A segment that is read in one go is one command to the window. -/
lemma run_deliver_house (charSigned : Bool) {p : Program} {i : ℕ} (hp : p.Serves i [])
    {segment : List UInt8} (hlong : 2 ≤ segment.length)
    (hline : LightControl.readLine 256 segment = segment) (r : BitVec 32) :
    ∃ p', run (step charSigned) p (deliver i (segment, r)) = some p' ∧ p'.Serves i [] ∧
      p'.house = { p.house with
        window := p.window.slotStep (.commandProc (fromUtf8 segment) r) } := by
  rcases hp with ⟨c, hderef, hconn, hmode, hbuffer⟩
  have hget := (LightControllerSslsock.deref_eq_some.mp hderef).2
  let c₁ : ServerSocket := { c with buffer := c.buffer ++ segment }
  let p₁ : Program := { p with cmdServer := p.cmdServer.assign i c₁ }
  have harrive : p.step charSigned (.bytesArrive i segment) = some p₁ := by
    rw [step, LightControllerSslsock.bytesArrive_eq hget hconn hmode]
  have hderef₁ : p₁.cmdServer.deref = some (i, c₁) := LightControllerSslsock.deref_assign hderef
  have hlive₁ : (p₁.cmdServer.sockets.get i).isSome := by
    rw [(LightControllerSslsock.deref_eq_some.mp hderef₁).2]
    rfl
  have hread : p₁.step charSigned (.readyRead i r) = some (p₁.delivered i c₁ r) :=
    readyRead_eq r hlive₁ hderef₁
  have hbuffer₁ : c₁.buffer = segment := by
    show c.buffer ++ segment = segment
    rw [hbuffer, List.nil_append]
  have hcommand : (c₁.readLine 256).1 = segment := by
    rw [ServerSocket.readLine, hbuffer₁, hline]
  refine ⟨p₁.delivered i c₁ r, ?_, ⟨served c₁, delivered_deref hderef₁ r, ?_, ?_, ?_⟩, ?_⟩
  · rw [deliver, run_cons, harrive, Option.bind_some, run_cons, hread, Option.bind_some, run_nil]
  · rw [served_connected]
    exact hconn
  · rw [served_mode]
    exact hmode
  · rw [served_buffer, ServerSocket.readLine, hbuffer₁, hline, List.drop_length]
  · rw [delivered, hcommand, if_neg (Nat.not_lt.mpr hlong)]
    rfl

lemma step_house (charSigned : Bool) (p : Program) (e : {e : Event // e.isHouse = true}) :
    ∃ p', p.step charSigned e.1 = some p' ∧ p'.cmdServer = p.cmdServer ∧
      p'.house = p.house.happen charSigned (.house e) := by
  rcases e with ⟨e, he⟩
  cases e with
  | wait msecs => exact ⟨_, rfl, rfl, rfl⟩
  | actionClose => exact ⟨_, rfl, rfl, rfl⟩
  | pirEdge line => exact ⟨_, rfl, rfl, rfl⟩
  | lightSensorPoll io =>
      refine ⟨_, rfl, rfl, ?_⟩
      rw [lightSensorPoll, house, House.happen, House.calls, house]
      dsimp only
      cases (p.lightIntensityConverter.pollAdValue charSigned io).valueChanged <;> rfl
  | powerSupplyVoltagePoll io => exact ⟨_, rfl, rfl, rfl⟩
  | lightStatePoll r => exact ⟨_, rfl, rfl, rfl⟩
  | incomingConnection setup => cases he
  | handshakeEnds i verified => cases he
  | bytesArrive i bytes => cases he
  | readyRead i r => cases he

end Program

namespace RemoteSwitch

/-- **One event** goes through, and it is what happens in the house. -/
theorem step_house (charSigned : Bool) {i : ℕ} {s : RemoteSwitch} (hs : s.Ready i)
    (e : SwitchEvent) :
    ∃ s', s.step charSigned i e = some s' ∧ s'.Ready i ∧
      s'.controller.house = s.controller.house.happen charSigned e := by
  rcases hs with ⟨⟨bytes, hlinked⟩, hserves⟩
  cases e with
  | remote a r =>
      rcases LightControllerRemoteUi.step_action hlinked a with ⟨ui', hui, hlinked'⟩
      rcases a.readLine_text with ⟨hlong, hline⟩
      rcases Program.run_deliver_house charSigned hserves hlong hline r with
        ⟨p', hrun, hserves', hhouse⟩
      have hsegment : ui'.written.drop s.ui.written.length = a.text.toUtf8 := by
        rw [hlinked'.written, hlinked.written, List.drop_left]
      refine ⟨⟨ui', p'⟩, ?_, ⟨⟨_, hlinked'⟩, hserves'⟩, hhouse⟩
      rw [step, hui, Option.bind_some, hsegment, hrun, Option.map_some]
  | house e =>
      rcases Program.step_house charSigned s.controller e with ⟨p', hstep, hserver, hhouse⟩
      rcases hserves with ⟨c, hderef, hrest⟩
      refine ⟨{ s with controller := p' }, ?_, ⟨⟨bytes, hlinked⟩, c, ?_, hrest⟩, hhouse⟩
      · rw [step, hstep, Option.map_some]
      · rw [hserver]
        exact hderef

/-- **A whole run** goes through, and it is what happens in the house. -/
theorem run_house (charSigned : Bool) {i : ℕ} (es : List SwitchEvent) {s : RemoteSwitch}
    (hs : s.Ready i) :
    ∃ s', run (step charSigned i) s es = some s' ∧ s'.Ready i ∧
      s'.controller.house = s.controller.house.after charSigned es := by
  induction es generalizing s with
  | nil => exact ⟨s, rfl, hs, rfl⟩
  | cons e es ih =>
      rcases step_house charSigned hs e with ⟨s₁, hstep, hs₁, hhouse₁⟩
      rcases ih hs₁ with ⟨s₂, hrun, hs₂, hhouse₂⟩
      refine ⟨s₂, ?_, hs₂, ?_⟩
      · rw [run_cons, hstep, Option.bind_some, hrun]
      · rw [hhouse₂, hhouse₁]
        rfl

end RemoteSwitch

/-! ## The buttons -/

/-- How often the toggle was pressed since the last press of reset. -/
def pressesSinceReset (es : List SwitchEvent) : ℕ :=
  (es.rtakeWhile fun e => !e.isReset).countP SwitchEvent.isToggle

lemma pressesSinceReset_concat (es : List SwitchEvent) (e : SwitchEvent) :
    pressesSinceReset (es ++ [e])
      = if e.isReset then 0 else pressesSinceReset es + if e.isToggle then 1 else 0 := by
  rw [pressesSinceReset, List.rtakeWhile_concat]
  cases he : e.isReset with
  | true => rfl
  | false => simp [pressesSinceReset, List.countP_append, List.countP_singleton]

namespace House

variable {charSigned : Bool} {h : House}

/-- An event runs one slot at most, and one of the user's commands exactly when a button is
pressed. -/
lemma calls_cases (charSigned : Bool) (h : House) (e : SwitchEvent) :
    (h.calls charSigned e = [] ∧ e.isToggle = false ∧ e.isReset = false) ∨
      ∃ c, h.calls charSigned e = [c] ∧ c.isToggle = e.isToggle ∧ c.isReset = e.isReset := by
  cases e with
  | remote a r =>
      refine Or.inr ⟨_, rfl, ?_⟩
      cases a with
      | press cmd =>
          rw [SlotCall.isToggle, SlotCall.isReset, RemoteAction.command_press]
          cases cmd <;> exact ⟨rfl, rfl⟩
      | dimmer value =>
          rcases RemoteAction.command_dimmer value with ⟨htoggle, hreset, -⟩
          exact ⟨decide_eq_false htoggle, decide_eq_false hreset⟩
  | house e =>
      rcases e with ⟨e, he⟩
      cases e with
      | wait msecs => exact Or.inr ⟨_, rfl, rfl, rfl⟩
      | actionClose => exact Or.inr ⟨_, rfl, rfl, rfl⟩
      | pirEdge line => exact Or.inr ⟨_, rfl, rfl, rfl⟩
      | lightSensorPoll io =>
          rw [calls]
          cases (h.lightIntensityConverter.pollAdValue charSigned io).valueChanged with
          | none => exact Or.inl ⟨rfl, rfl, rfl⟩
          | some n => exact Or.inr ⟨_, rfl, rfl, rfl⟩
      | powerSupplyVoltagePoll io => exact Or.inl ⟨rfl, rfl, rfl⟩
      | lightStatePoll r => exact Or.inr ⟨_, rfl, rfl, rfl⟩
      | incomingConnection setup => cases he
      | handshakeEnds i verified => cases he
      | bytesArrive i bytes => cases he
      | readyRead i r => cases he

/-- All the slots that run. -/
def allCalls (charSigned : Bool) (h : House) (es : List SwitchEvent) : List SlotCall :=
  emitted (fun h e => some (happen charSigned h e)) (calls charSigned) h es

lemma after_append (es fs : List SwitchEvent) :
    h.after charSigned (es ++ fs) = (h.after charSigned es).after charSigned fs :=
  List.foldl_append

lemma window_after (es : List SwitchEvent) :
    (h.after charSigned es).window = h.window.runSlots (h.allCalls charSigned es) := by
  have hstep : ∀ (h : House) e h', some (happen charSigned h e) = some h' →
      run ClockedController.step h.window (h.calls charSigned e) = some h'.window := by
    rintro h e h' heq
    rw [Option.some.injEq] at heq
    rw [← heq, ClockedController.run_step]
    rfl
  have hrun := run_emitted (f := House.window) hstep es (run_some (happen charSigned) h es)
  rw [ClockedController.run_step, Option.some.injEq] at hrun
  exact hrun.symm

lemma allCalls_concat (es : List SwitchEvent) (e : SwitchEvent) :
    h.allCalls charSigned (es ++ [e])
      = h.allCalls charSigned es ++ (h.after charSigned es).calls charSigned e := by
  rw [allCalls, emitted_append es [e] (run_some (happen charSigned) h es)]
  simp only [emitted, Option.elim_some, List.append_nil]
  rfl

/-- **Presses are toggles.** -/
lemma togglesSinceReset_allCalls (charSigned : Bool) (es : List SwitchEvent) :
    togglesSinceReset (h.allCalls charSigned es) = pressesSinceReset es := by
  induction es using List.reverseRecOn with
  | nil => rfl
  | append_singleton es e ih =>
      rw [allCalls_concat, pressesSinceReset_concat]
      rcases calls_cases charSigned (h.after charSigned es) e with
        ⟨hnone, htoggle, hreset⟩ | ⟨c, hone, htoggle, hreset⟩
      · rw [hnone, List.append_nil, htoggle, hreset, ih]
        rfl
      · rw [hone, togglesSinceReset_concat, htoggle, hreset, ih]

lemma allCalls_isReset {es : List SwitchEvent} (hes : ∀ e ∈ es, e.isReset = false) :
    ∀ c ∈ h.allCalls charSigned es, c.isReset = false := by
  induction es using List.reverseRecOn with
  | nil => simp [allCalls, emitted]
  | append_singleton es e ih =>
      rcases List.forall_mem_append.mp hes with ⟨hinit, hlast⟩
      rw [allCalls_concat, List.forall_mem_append]
      refine ⟨ih hinit, ?_⟩
      rcases calls_cases charSigned (h.after charSigned es) e with ⟨hnone, -, -⟩ | ⟨c, hone, -, hreset⟩
      · simp [hnone]
      · rw [hone, List.forall_mem_singleton, hreset]
        exact hlast e (by simp)

lemma countP_allCalls (es : List SwitchEvent) :
    (h.allCalls charSigned es).countP SlotCall.isToggle = es.countP SwitchEvent.isToggle := by
  induction es using List.reverseRecOn with
  | nil => rfl
  | append_singleton es e ih =>
      rw [allCalls_concat, List.countP_append, List.countP_append, ih]
      rcases calls_cases charSigned (h.after charSigned es) e with
        ⟨hnone, htoggle, -⟩ | ⟨c, hone, htoggle, -⟩
      · simp [hnone, htoggle]
      · simp [hone, htoggle]

/-- The setting after a first press and more presses. -/
lemma setting_after (charSigned : Bool) {pre post : List SwitchEvent} {r : BitVec 32}
    (hset : h.window.setting = .undefined) (hpre : pressesSinceReset pre = 0)
    (hpost : ∀ e ∈ post, e.isReset = false) :
    (h.after charSigned (pre ++ .remote (.press .toggleOnOff) r :: post)).window.setting
      = LightStates.flipped^[post.countP SwitchEvent.isToggle]
          ((h.after charSigned pre).window.firstOverride r) := by
  have hundef : (h.after charSigned pre).window.setting = .undefined := by
    rw [window_after]
    exact ClockedController.setting_runSlots_undefined hset
      (by rw [togglesSinceReset_allCalls, hpre])
  have hfirst : ((h.after charSigned pre).happen charSigned
      (.remote (.press .toggleOnOff) r)).window.setting
      = (h.after charSigned pre).window.firstOverride r := by
    have hcall := ClockedController.setting_slotStep_toggle (h.after charSigned pre).window r
    rw [if_pos hundef] at hcall
    rw [← hcall, happen_remote, RemoteAction.command_press]
    rfl
  have hsplit : h.after charSigned (pre ++ .remote (.press .toggleOnOff) r :: post)
      = ((h.after charSigned pre).happen charSigned
          (.remote (.press .toggleOnOff) r)).after charSigned post := by
    rw [after_append]
    rfl
  rw [hsplit, window_after, ClockedController.setting_runSlots_flipped
    (by rw [hfirst]; exact ClockedController.firstOverride_ne_undefined r)
    (allCalls_isReset hpost), countP_allCalls, hfirst]

end House

/-- A remote that is connected, and the controller that serves it. -/
def RemoteSwitch.connected : RemoteSwitch :=
  ⟨CommandChannel.connectedUi, CommandChannel.connectedProgram⟩

lemma RemoteSwitch.ready_connected : connected.Ready 0 :=
  ⟨⟨[], CommandChannel.connectedUi_linked⟩, CommandChannel.connectedProgram_serves⟩

/-- **The remote is a switch.**  Let the remote be connected and the user have set nothing: in
every run, whatever the sensors and timers of the controller do in between, no setting is made
before the first press of the toggle after a reset; that press asks for the opposite of what
`light_should_be` then says; every later one flips it; and a poll writes it to the GPIO. -/
theorem remoteSwitch_setting (charSigned : Bool) {i : ℕ} {s : RemoteSwitch} (hs : s.Ready i)
    (hset : s.controller.window.setting = .undefined) (pre post : List SwitchEvent)
    (r : BitVec 32) (hpre : pressesSinceReset pre = 0)
    (hpost : ∀ e ∈ post, e.isReset = false) :
    ∃ s₁ s₂, run (RemoteSwitch.step charSigned i) s pre = some s₁ ∧
      run (RemoteSwitch.step charSigned i) s (pre ++ .remote (.press .toggleOnOff) r :: post)
        = some s₂ ∧
      s₁.controller.window.setting = .undefined ∧
      s₂.controller.window.setting
        = LightStates.flipped^[post.countP SwitchEvent.isToggle]
            (s₁.controller.window.firstOverride r) ∧
      ∀ r', some (s₂.controller.window.slotStep
          (.setLightState r')).controller.powerControlGpio
        = s₂.controller.window.setting.gpio := by
  rcases RemoteSwitch.run_house charSigned pre hs with ⟨s₁, hrun₁, -, hhouse₁⟩
  rcases RemoteSwitch.run_house charSigned (pre ++ .remote (.press .toggleOnOff) r :: post) hs
    with ⟨s₂, hrun₂, -, hhouse₂⟩
  have hwindow₁ := congrArg House.window hhouse₁
  have hwindow₂ := congrArg House.window hhouse₂
  have hfirst : s₂.controller.window.setting
      = LightStates.flipped^[post.countP SwitchEvent.isToggle]
          (s₁.controller.window.firstOverride r) := by
    have hhouse := House.setting_after charSigned (h := s.controller.house)
      (r := r) hset hpre hpost
    rw [← hhouse₁, ← hhouse₂] at hhouse
    exact hhouse
  refine ⟨s₁, s₂, hrun₁, hrun₂, ?_, hfirst, ?_⟩
  · have hundef := ClockedController.setting_runSlots_undefined hset
      ((House.togglesSinceReset_allCalls charSigned (h := s.controller.house) pre).trans hpre)
    rw [House.window_after] at hwindow₁
    exact (congrArg ClockedController.setting hwindow₁).trans hundef
  · intro r'
    refine ClockedController.setLightState_setting r' ?_
    have hdef : s₂.controller.window.setting ≠ .undefined := by
      rw [hfirst]
      exact ClockedController.iterate_flipped_ne_undefined
        (ClockedController.firstOverride_ne_undefined r) _
    exact hdef

/-- Somebody presses the toggle in the dark, moves the slider and presses again. -/
theorem remoteSwitch_setting_twice :
    ∃ s₂, run (RemoteSwitch.step false 0) RemoteSwitch.connected
        [.remote (.press .toggleOnOff) 0, .remote (.dimmer 40) 0,
          .remote (.press .toggleOnOff) 0] = some s₂ ∧
      s₂.controller.window.setting = .on := by
  rcases remoteSwitch_setting false RemoteSwitch.ready_connected rfl []
    [.remote (.dimmer 40) 0, .remote (.press .toggleOnOff) 0] 0 rfl (by decide)
    with ⟨s₁, s₂, hrun₁, hrun₂, -, hsetting, -⟩
  obtain rfl : RemoteSwitch.connected = s₁ := Option.some.inj hrun₁
  refine ⟨s₂, hrun₂, hsetting.trans ?_⟩
  decide

end LightControl

import LightControl.Controller.I2cAdDaConverter
import LightControl.Controller.LightController
import LightControl.Controller.LightControllerSslsock
import LightControl.Core.Simulation

/-!
# The controller as one program

`LightController.lean` models the slots of the window.  Here are the objects around it — the two
converters with their poll timers, the command server with its connections — and the event loop,
in which any of them may be the next to act.

`Program.step` is one event.  It fails where the C++ has no meaning, which is where a slot of the
server works on an object that is not there.

* `step_slotCalls` — an event reaches the window through its slots only, so what is proved of every
  run of `ClockedController` holds in every run of the program (`run_runCalls`).
* `readyRead_eq` — one delivery of `readyRead`, in full.
-/

namespace LightControl

open Objects Runs

/-- The running program.  `executed` are the commands that `command_proc` has seen, and `exits`
has an entry for each time the program asked to leave the event loop: the value of the power
control GPIO at that moment. -/
structure Program where
  window : ClockedController
  lightIntensityConverter : I2cAdDaConverter
  powerSupplyVoltageConverter : I2cAdDaConverter
  cmdServer : LightControllerSslsock
  executed : List QString
  exits : List GpioValue
  deriving DecidableEq, Repr

/-- What the event loop can deliver next.  Asking to leave the loop does not stop the events that
are already under way, so a run may go on after it. -/
inductive Event
  | wait (msecs : ℕ)
  | actionClose
  | pirEdge (pirLine : List UInt8)
  | lightSensorPoll (io : I2cOutcome)
  | powerSupplyVoltagePoll (io : I2cOutcome)
  | lightStatePoll (retValue : BitVec 32)
  | incomingConnection (setup : Setup)
  | handshakeEnds (i : ℕ) (verified : Bool)
  | bytesArrive (i : ℕ) (bytes : List UInt8)
  | readyRead (i : ℕ) (retValue : BitVec 32)
  deriving DecidableEq, Repr

namespace Program

/-! ## Construction -/

/-- The light intensity converter as the window's constructor sets it up; the bounds are those of
the dial that shows the value. -/
def lightIntensityConverterInit (lastRangedValue : ℤ) : I2cAdDaConverter :=
  I2cAdDaConverter.new 0 0 lastRangedValue 0
    |>.setAinChannel 0
    |>.setInstrumentLowerBound 255
    |>.setInstrumentUpperBound 0
    |>.setLowerBound 0
    |>.setUpperBound 100

/-- The power supply voltage converter as the constructor sets it up. -/
def powerSupplyVoltageConverterInit (lastRangedValue : ℤ) : I2cAdDaConverter :=
  I2cAdDaConverter.new 0 0 lastRangedValue 0
    |>.setAinChannel 1
    |>.setInstrumentLowerBound 0
    |>.setInstrumentUpperBound 200
    |>.setLowerBound 0
    |>.setUpperBound 12

/-- The program when its constructor is done.  The first conversion is made before
`value_changed` is connected, so nobody hears of it, and a read that fails there asks to leave a
loop that does not run yet. -/
def start (charSigned : Bool) (clock : ℕ) (lightLast powerLast : ℤ) (io : I2cOutcome) :
    Program where
  window := ClockedController.start clock 50 60
  lightIntensityConverter :=
    ((lightIntensityConverterInit lightLast).converterRead charSigned io).converter
  powerSupplyVoltageConverter := powerSupplyVoltageConverterInit powerLast
  cmdServer := .new
  executed := []
  exits := []

/-! ## The events -/

/-- The value of the power control GPIO. -/
def powerControlGpio (p : Program) : GpioValue := p.window.controller.powerControlGpio

/-- `light_state_d.light_intensity()`. -/
def lightIntensity (p : Program) : ℕ := p.window.controller.lightStateD.lightIntensity

/-- The Close action. -/
def actionClose (p : Program) : Program :=
  let window := p.window.slotStep .onActionCloseTriggered
  { p with window := window, exits := p.exits ++ [window.controller.powerControlGpio] }

/-- `poll_ad_value` of the light intensity converter, which the window listens to. -/
def lightSensorPoll (p : Program) (charSigned : Bool) (io : I2cOutcome) : Program :=
  let reading := p.lightIntensityConverter.pollAdValue charSigned io
  { p with
    lightIntensityConverter := reading.converter
    exits := p.exits ++ List.replicate reading.exits p.powerControlGpio
    window := match reading.valueChanged with
      | some n => p.window.slotStep (.lightIntensityChanged n)
      | none => p.window }

/-- `poll_ad_value` of the power supply voltage converter; only a dial listens to it. -/
def powerSupplyVoltagePoll (p : Program) (charSigned : Bool) (io : I2cOutcome) : Program :=
  let reading := p.powerSupplyVoltageConverter.pollAdValue charSigned io
  { p with
    powerSupplyVoltageConverter := reading.converter
    exits := p.exits ++ List.replicate reading.exits p.powerControlGpio }

/-- `command_proc`, called by the server's signal. -/
def commandProc (p : Program) (cmd : QString) (retValue : BitVec 32) : Option Program :=
  let done := { p with
    window := p.window.slotStep (.commandProc cmd retValue)
    executed := p.executed ++ [cmd] }
  match (p.window.controller.commandProc p.window.now cmd retValue).2 with
  | none => some done
  | some line => (p.cmdServer.sendLine line).map fun server => { done with cmdServer := server }

/-- The connection `i` raises `readyRead`: a deleted object raises nothing. -/
def readyRead (p : Program) (i : ℕ) (retValue : BitVec 32) : Option Program :=
  if (p.cmdServer.sockets.get i).isSome then
    p.cmdServer.slotReadyRead.bind fun
      | (server, .quit) =>
          some { p with cmdServer := server, exits := p.exits ++ [p.powerControlGpio] }
      | (server, .commandReceived cmd) => commandProc { p with cmdServer := server } cmd retValue
  else some p

/-- One event of the loop. -/
def step (charSigned : Bool) (p : Program) : Event → Option Program
  | .wait msecs => some { p with window := p.window.slotStep (.wait msecs) }
  | .actionClose => some p.actionClose
  | .pirEdge line => some { p with window := p.window.slotStep (.pirGpioReadyRead line) }
  | .lightSensorPoll io => some (p.lightSensorPoll charSigned io)
  | .powerSupplyVoltagePoll io => some (p.powerSupplyVoltagePoll charSigned io)
  | .lightStatePoll r => some { p with window := p.window.slotStep (.setLightState r) }
  | .incomingConnection setup =>
      some { p with cmdServer := p.cmdServer.incomingConnection setup }
  | .handshakeEnds i verified =>
      some { p with cmdServer := p.cmdServer.handshakeEnds i verified }
  | .bytesArrive i bytes => some { p with cmdServer := p.cmdServer.bytesArrive i bytes }
  | .readyRead i r => p.readyRead i r

/-! ## A delivery -/

/-- The object that a delivery works on, when the delivery is done with it. -/
def served (c : ServerSocket) : ServerSocket :=
  let line := (c.readLine 256).1
  let rest := (c.readLine 256).2
  if 2 ≤ line.length ∧ QString.fromUtf8 line = getLightState then
    rest.write responseLine.toLatin1
  else rest

/-- The program after a delivery that works on the object `c` behind the pointer `k`. -/
def delivered (p : Program) (k : ℕ) (c : ServerSocket) (retValue : BitVec 32) : Program :=
  let line := (c.readLine 256).1
  if line.length < 2 then
    { p with
      cmdServer := p.cmdServer.assign k (served c)
      exits := p.exits ++ [p.powerControlGpio] }
  else
    { p with
      cmdServer := { p.cmdServer.assign k (served c) with
        currentCommand := QString.fromUtf8 line }
      window := p.window.slotStep (.commandProc (QString.fromUtf8 line) retValue)
      executed := p.executed ++ [QString.fromUtf8 line] }

@[simp] lemma served_buffer (c : ServerSocket) :
    (served c).buffer = (c.readLine 256).2.buffer := by
  simp only [served]
  split <;> simp

@[simp] lemma served_connected (c : ServerSocket) : (served c).connected = c.connected := by
  simp only [served]
  split
  case isTrue => exact ServerSocket.write_connected _
  case isFalse => rfl

@[simp] lemma served_mode (c : ServerSocket) : (served c).mode = c.mode := by
  simp only [served]
  split
  case isTrue => exact ServerSocket.write_mode _
  case isFalse => rfl

lemma served_of_buffer_nil {c : ServerSocket} (h : c.buffer = []) : served c = c := by
  simp [served, c.readLine_of_buffer_nil h]

@[simp] lemma delivered_sockets (p : Program) (k : ℕ) (c : ServerSocket) (r : BitVec 32) :
    (p.delivered k c r).cmdServer.sockets = p.cmdServer.sockets.assign k (served c) := by
  simp only [delivered]
  split <;> rfl

lemma delivered_deref {p : Program} {k : ℕ} {c : ServerSocket}
    (h : p.cmdServer.deref = some (k, c)) (r : BitVec 32) :
    (p.delivered k c r).cmdServer.deref = some (k, served c) := by
  simp only [delivered]
  split
  case isTrue => exact LightControllerSslsock.deref_assign h
  case isFalse => exact LightControllerSslsock.deref_assign h

lemma delivered_executed (p : Program) (k : ℕ) (c : ServerSocket) (r : BitVec 32) :
    (p.delivered k c r).executed
      = p.executed ++
        if (c.readLine 256).1.length < 2 then [] else [QString.fromUtf8 (c.readLine 256).1] := by
  simp only [delivered]
  split <;> simp

/-- A line that is too short for a command makes the program ask to leave the event loop. -/
lemma delivered_exits (p : Program) (k : ℕ) (c : ServerSocket) (r : BitVec 32) :
    (p.delivered k c r).exits
      = p.exits ++ if (c.readLine 256).1.length < 2 then [p.powerControlGpio] else [] := by
  simp only [delivered]
  split <;> simp

/-- No command writes to the GPIO. -/
lemma delivered_powerControlGpio (p : Program) (k : ℕ) (c : ServerSocket) (r : BitVec 32) :
    (p.delivered k c r).powerControlGpio = p.powerControlGpio := by
  simp only [delivered]
  split
  case isTrue => rfl
  case isFalse =>
    rcases p.window.controller.commandProc_window p.window.now
      (QString.fromUtf8 (c.readLine 256).1) r with ⟨u, h⟩
    simp only [powerControlGpio, ClockedController.slotStep, h]

/-- The command that a delivery hands on is the line it read. -/
lemma delivered_command {p : Program} {k : ℕ} {c : ServerSocket} {r : BitVec 32} {cmd : QString}
    (h : (p.delivered k c r).executed = p.executed ++ [cmd]) :
    2 ≤ (c.readLine 256).1.length ∧ cmd = QString.fromUtf8 (c.readLine 256).1 := by
  rw [delivered_executed, List.append_right_inj] at h
  split at h
  case isTrue => exact absurd h (by simp)
  case isFalse hlong =>
    rw [List.cons.injEq] at h
    exact ⟨Nat.not_lt.mp hlong, h.1.symm⟩

/-- **What a delivery does**: whichever connection raises it, it reads from the object that the
member `socket` points to, and answers there. -/
theorem readyRead_eq {p : Program} {i k : ℕ} {c : ServerSocket} (retValue : BitVec 32)
    (hlive : (p.cmdServer.sockets.get i).isSome) (hderef : p.cmdServer.deref = some (k, c)) :
    p.readyRead i retValue = some (p.delivered k c retValue) := by
  rw [readyRead, if_pos hlive, LightControllerSslsock.slotReadyRead, hderef]
  by_cases hshort : (c.readLine 256).1.length < 2
  · have hlong : ¬ 2 ≤ (c.readLine 256).1.length := Nat.not_le.mpr hshort
    simp only [Option.map_some, Option.bind_some, delivered, served, hshort, hlong, if_true,
      false_and, if_false]
  · have hlong : 2 ≤ (c.readLine 256).1.length := Nat.not_lt.mp hshort
    simp only [Option.map_some, Option.bind_some, delivered, served, hshort, hlong, if_false,
      commandProc, LightController.commandProc_reply]
    by_cases hget : QString.fromUtf8 (c.readLine 256).1 = getLightState
    · have hread : ({ p.cmdServer.assign k (c.readLine 256).2 with
            currentCommand := getLightState } : LightControllerSslsock).deref
          = some (k, (c.readLine 256).2) := LightControllerSslsock.deref_assign hderef
      simp only [hget, if_true, and_self]
      rw [LightControllerSslsock.sendLine_eq hread]
      simp [LightControllerSslsock.assign]
    · simp only [hget, if_false, and_false]

/-- A delivery that goes through is one of those: nothing happens for a deleted object, and
otherwise the member points to a live one. -/
lemma readyRead_cases {p p' : Program} {i : ℕ} {retValue : BitVec 32}
    (h : p.readyRead i retValue = some p') :
    (p.cmdServer.sockets.get i = none ∧ p' = p) ∨
      (p.cmdServer.sockets.get i).isSome = true ∧
        ∃ k c, p.cmdServer.deref = some (k, c) ∧ p' = p.delivered k c retValue := by
  cases hlive : p.cmdServer.sockets.get i with
  | none =>
      rw [readyRead, hlive] at h
      exact Or.inl ⟨rfl, by simpa using h.symm⟩
  | some ci =>
      cases hderef : p.cmdServer.deref with
      | none =>
          rw [readyRead, hlive, LightControllerSslsock.slotReadyRead, hderef] at h
          simp at h
      | some kc =>
          rcases kc with ⟨k, c⟩
          rw [readyRead_eq retValue (by simp [hlive]) hderef, Option.some.injEq] at h
          exact Or.inr ⟨rfl, k, c, rfl, h.symm⟩

/-! ## The window inside the program -/

/-- The slots of the window that an event runs. -/
def slotCalls (charSigned : Bool) (p : Program) : Event → List SlotCall
  | .wait msecs => [.wait msecs]
  | .actionClose => [.onActionCloseTriggered]
  | .pirEdge line => [.pirGpioReadyRead line]
  | .lightSensorPoll io =>
      (p.lightIntensityConverter.pollAdValue charSigned io).valueChanged.toList.map
        .lightIntensityChanged
  | .lightStatePoll r => [.setLightState r]
  | .readyRead i r =>
      if (p.cmdServer.sockets.get i).isSome then
        match p.cmdServer.deref with
        | some (_, c) =>
            if (c.readLine 256).1.length < 2 then []
            else [.commandProc (QString.fromUtf8 (c.readLine 256).1) r]
        | none => []
      else []
  | _ => []

lemma step_slotCalls {charSigned : Bool} {p p' : Program} {e : Event}
    (h : p.step charSigned e = some p') :
    run ClockedController.step p.window (p.slotCalls charSigned e) = some p'.window := by
  cases e with
  | readyRead i r =>
      rw [slotCalls]
      rcases readyRead_cases h with ⟨hdead, rfl⟩ | ⟨hlive, k, c, hderef, rfl⟩
      · simp [hdead]
      · rw [if_pos hlive, hderef, delivered]
        dsimp only
        split <;> rfl
  | lightSensorPoll io =>
      cases h
      rw [slotCalls, lightSensorPoll]
      cases (p.lightIntensityConverter.pollAdValue charSigned io).valueChanged <;> rfl
  | wait msecs => exact Option.some.inj h ▸ rfl
  | actionClose => exact Option.some.inj h ▸ rfl
  | pirEdge line => exact Option.some.inj h ▸ rfl
  | powerSupplyVoltagePoll io => exact Option.some.inj h ▸ rfl
  | lightStatePoll r => exact Option.some.inj h ▸ rfl
  | incomingConnection setup => exact Option.some.inj h ▸ rfl
  | handshakeEnds i verified => exact Option.some.inj h ▸ rfl
  | bytesArrive i bytes => exact Option.some.inj h ▸ rfl

/-- All the slot calls of a run. -/
def runCalls (charSigned : Bool) (p : Program) (es : List Event) : List SlotCall :=
  emitted (step charSigned) (slotCalls charSigned) p es

/-- **The window runs by its slots.**  After a run it is what the slot calls of the run make of
it. -/
theorem run_runCalls {charSigned : Bool} {p p' : Program} {es : List Event}
    (h : run (step charSigned) p es = some p') :
    p'.window = p.window.runSlots (p.runCalls charSigned es) := by
  have hrun := run_emitted (f := Program.window) (fun _ _ _ => step_slotCalls) es h
  rw [ClockedController.run_step, Option.some.injEq] at hrun
  exact hrun.symm

end Program

end LightControl

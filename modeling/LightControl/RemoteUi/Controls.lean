import LightControl.RemoteUi.NullSafety

/-!
# The controls and the socket

The window enables its controls when the client says that its socket is up, and the client says so
from `socket_state_changed`, which runs as often as the signal is connected.

* `Truthful` — a connected socket has been announced, and an announced socket is still in use;
  `truthful_kept` — every slot of the client keeps it.
* `controls_truthful` — so the controls follow the socket, in every state of every run.
* `control_sends` — a control writes its whole text, or does nothing at all.
-/

namespace LightControl

open QString Runs

namespace SslClient

/-- The last signal of the client agrees with its socket. -/
def Truthful (c : SslClient) : Prop :=
  (c.getSocketState = some .connected → c.emitted.getLast? = some .socketUp) ∧
    (c.emitted.getLast? = some .socketUp → ∃ s, c.socket = some s ∧ s.state.InProgress)

/-- The state of the current socket is listened to. -/
def Listening (c : SslClient) : Prop :=
  ∀ s, c.socket = some s → 0 < s.connections.stateChanged

variable {c c' : SslClient} {s : ClientSocket}

lemma truthful_of_down (hc : c.Down) : c.Truthful := by
  rcases hc with ⟨hnone, -, hlast⟩
  constructor
  · intro hconnected
    rw [getSocketState, hnone] at hconnected
    exact absurd hconnected (by simp)
  · intro hup
    rw [hlast] at hup
    exact absurd hup (by decide)

/-- Only the state of the socket and the signals count. -/
lemma Truthful.congr (hc : c.Truthful) (hstate : c'.getSocketState = c.getSocketState)
    (hemitted : c'.emitted = c.emitted) : c'.Truthful := by
  constructor
  · intro hconnected
    rw [hemitted]
    exact hc.1 (hstate.symm.trans hconnected)
  · intro hup
    rcases hc.2 (hemitted ▸ hup) with ⟨s, hs, hprog⟩
    rw [getSocketState, getSocketState, hs, Option.map_some, Option.map_eq_some_iff] at hstate
    rcases hstate with ⟨s', hs', hsame⟩
    exact ⟨s', hs', hsame ▸ hprog⟩

/-- The connected state is announced by every run of the slot. -/
lemma times_connected {n : ℕ} (hpos : 0 < n) (hs : c.socket = some s)
    (h : times (fun c => c.socketStateChanged .connected) n c = some c') :
    c'.emitted.getLast? = some .socketUp := by
  rcases Nat.exists_eq_add_of_lt hpos with ⟨m, hm⟩
  rw [Nat.zero_add] at hm
  rw [hm, times, socketStateChanged, hs, Option.map_some, Option.bind_some] at h
  refine times_invariant (I := fun c => c.emitted.getLast? = some .socketUp) ?_ m ?_ h
  · intro a b _ hb
    rw [socketStateChanged, Option.map_eq_some_iff] at hb
    rcases hb with ⟨t, -, rfl⟩
    simp
  · simp

/-! ## The slots -/

/-- **A change of state** that is listened to leaves the client truthful, whatever it was. -/
lemma report_truthful {state : SocketState} (hs : c.socket = some s)
    (hpos : 0 < s.connections.stateChanged) (h : c.report state = some c') :
    c'.Truthful ∧ c'.Listening := by
  by_cases hstate : state.InProgress
  · rcases report_inProgress hs hstate with ⟨c₁, hc₁, hs₁, -⟩
    obtain rfl : c₁ = c' := Option.some.inj (hc₁.symm.trans h)
    refine ⟨⟨?_, fun _ => ⟨_, hs₁, hstate⟩⟩, ?_⟩
    · intro hconnected
      rw [getSocketState, hs₁, Option.map_some, Option.some.injEq] at hconnected
      obtain rfl : state = .connected := hconnected
      rw [report, hs] at h
      exact times_connected hpos rfl h
    · intro t ht
      obtain rfl := Option.some.inj (hs₁.symm.trans ht)
      exact hpos
  · obtain rfl : state = .unconnected := not_not.mp hstate
    have hdown := ((report_unconnected hs hpos).2 c' h).1
    refine ⟨truthful_of_down hdown, ?_⟩
    intro t ht
    exact absurd (hdown.1.symm.trans ht) (by simp)

/-- An attempt reports to a client that listens. -/
lemma connectToHostEncrypted_truthful {attempt : Attempt} (hc : c.Truthful ∧ c.Listening)
    (h : c.connectToHostEncrypted attempt = some c') : c'.Truthful := by
  refine (run_invariant (I := fun c => Truthful c ∧ Listening c) ?_ _ hc h).1
  intro a state b ha hb
  cases hs : a.socket with
  | none =>
      rw [report, hs, Option.some.injEq] at hb
      exact hb ▸ ha
  | some s => exact report_truthful hs (ha.2 s hs) hb

lemma secureConnect_truthful {attempt : Attempt} (hc : c.Truthful)
    (h : c.secureConnect attempt = some c') : c'.Truthful := by
  -- a client without a socket has not announced one, and a new socket is not connected
  have hfresh : ∀ c₁ : SslClient, c₁.socket.map ClientSocket.state
      = some (c.socket.getD .new).state → c₁.emitted = c.emitted → c₁.Truthful := by
    intro c₁ hstate hemitted
    cases hs : c.socket with
    | some s =>
        rw [hs, Option.getD_some] at hstate
        exact hc.congr (by rw [getSocketState, getSocketState, hstate, hs, Option.map_some])
          hemitted
    | none =>
        rw [hs, Option.getD_none] at hstate
        constructor
        · intro hconnected
          rw [getSocketState, hstate] at hconnected
          exact absurd hconnected (by decide)
        · intro hup
          rcases hc.2 (hemitted ▸ hup) with ⟨s, hs', -⟩
          exact absurd (hs.symm.trans hs') (by simp)
  simp only [secureConnect] at h
  split at h
  case isTrue =>
    cases h
    exact hfresh _ rfl rfl
  case isFalse =>
    split at h
    case isTrue =>
      cases h
      exact hfresh _ rfl rfl
    case isFalse =>
      have hnew := hfresh { c with
        socket := some { c.socket.getD .new with
          connections := (c.socket.getD .new).connections.connect }
        timeoutConnections := c.timeoutConnections + 1 } rfl rfl
      refine connectToHostEncrypted_truthful ⟨hnew, ?_⟩ h
      intro t ht
      obtain rfl := Option.some.inj ht
      exact Nat.succ_pos _

lemma sendData_truthful {cmd : QString} (hc : c.Truthful) (h : c.sendData cmd = some c') :
    c'.Truthful := by
  rw [sendData, Option.map_eq_some_iff] at h
  rcases h with ⟨s, hs, rfl⟩
  split
  case isTrue => exact hc.congr (by rw [getSocketState, getSocketState, hs]; rfl) rfl
  case isFalse => exact hc

lemma sslErrors_truthful (hc : c.Truthful) (h : c.sslErrors = some c') : c'.Truthful := by
  rw [sslErrors, Option.bind_eq_some_iff] at h
  rcases h with ⟨s, hs, h⟩
  split at h
  case isTrue hne =>
    rw [socketStateChanged, hs, Option.map_some, Option.some.injEq] at h
    subst h
    cases hstate : s.state with
    | unconnected => exact truthful_of_down ⟨rfl, rfl, by simp⟩
    | connected => exact absurd hstate hne
    | hostLookup => exact hc
    | connecting => exact hc
    | closing => exact hc
  case isFalse =>
    cases h
    exact hc

end SslClient

/-- The text that the slot of a control sends. -/
def UiEvent.command : UiEvent → Option QString
  | .toggleOnOff => some LightControl.toggleOnOff
  | .resetToDefault => some LightControl.resetToDefault
  | .dimmerSlider value => some (literal "light_controller_dimmer" ++ [value])
  | _ => none

namespace LightControllerRemoteUi

open SslClient

/-- Every slot keeps the client truthful; that the state of its socket is listened to comes from
its phases. -/
lemma truthful_kept : KeptBySlots fun c => c.Phase ∧ c.Truthful where
  secureConnect hc h := ⟨secureConnect_phase hc.1 h, secureConnect_truthful hc.2 h⟩
  report hc hs hprog h :=
    ⟨report_phase hc.1 hs hprog h, (report_truthful hs (hc.1.stateChanged_pos hs hprog) h).1⟩
  sendData hc h := ⟨sendData_phase hc.1 h, sendData_truthful hc.2 h⟩
  sslErrors hc h := ⟨sslErrors_phase hc.1 h, sslErrors_truthful hc.2 h⟩
  socketDisconnected hc h := by
    refine ⟨socketDisconnected_phase hc.1 h, ?_⟩
    cases h
    exact hc.2
  setServer _ _ hc _ := hc
  deferredDelete hc := hc

variable {port : ℕ} {es : List UiEvent} {ui : LightControllerRemoteUi}

lemma run_truthful (h : run step (start port) es = some ui) :
    ui.lightControllerConnection.Phase ∧ ui.lightControllerConnection.Truthful := by
  refine run_invariant (I := fun ui => ui.lightControllerConnection.Phase ∧
    ui.lightControllerConnection.Truthful) (fun _ _ _ => step_kept truthful_kept) es
    ⟨start_phase port, ?_, ?_⟩ h
  · intro hconnected
    exact absurd hconnected (by simp [start_lightControllerConnection, getSocketState, ClientSocket.new])
  · intro hup
    exact absurd hup (by simp [start_lightControllerConnection, SslClient.new])

/-- **The controls follow the socket.**  In every state of every run: with a connected socket the
controls are enabled, and while they are enabled there is a socket that has not been given up. -/
theorem controls_truthful (h : run step (start port) es = some ui) :
    (ui.lightControllerConnection.getSocketState = some .connected →
      ui.controlsEnabled = true) ∧
    (ui.controlsEnabled = true →
      ∃ s, ui.lightControllerConnection.socket = some s ∧ s.state.InProgress) := by
  rw [controlsEnabled_iff]
  exact (run_truthful h).2

/-- The connection of a window that has found its controller comes up and goes down again. -/
def upAndDown : List UiEvent :=
  [.resolverFound (literal "hall") ⟨literal "fe80::1", 48049, .inet6⟩,
    .timeout fun _ => ⟨[⟨.connecting, SocketState.inProgress_connecting⟩], false⟩,
    .stateChanged .connected, .stateChanged .closing, .stateChanged .unconnected]

/-- In the middle of `upAndDown` the controls are enabled. -/
theorem controls_truthful_up : ∃ ui, run step (start 0) (upAndDown.take 3) = some ui ∧
    ui.controlsEnabled = true := by
  have h : run step (start 0) (upAndDown.take 3) = some _ := rfl
  exact ⟨_, h, (controls_truthful h).1 rfl⟩

/-! ## What a control does -/

/-- **A control sends or does nothing.**  In every state of every run it goes through; with a
connected socket its whole text is written, and otherwise nothing changes. -/
theorem control_sends (h : run step (start port) es = some ui) {e : UiEvent} {cmd : QString}
    (he : e.command = some cmd) :
    ui.step e = some (if ui.lightControllerConnection.getSocketState = some .connected then
      { ui with lightControllerConnection := { ui.lightControllerConnection with
          socket := ui.lightControllerConnection.socket.map fun s =>
            { s with written := s.written ++ cmd.toUtf8 } } }
      else ui) := by
  have hbutton : ui.step e = if ui.controlsEnabled then
      ui.onClient (ui.lightControllerConnection.sendData cmd) else some ui := by
    cases e with
    | toggleOnOff =>
        cases he
        rfl
    | resetToDefault =>
        cases he
        rfl
    | dimmerSlider value =>
        cases he
        rfl
    | _ => cases he
  rcases controls_truthful h with ⟨henabled, hsocket⟩
  rw [hbutton]
  by_cases hconnected : ui.lightControllerConnection.getSocketState = some .connected
  · rw [if_pos (henabled hconnected), if_pos hconnected]
    rw [getSocketState, Option.map_eq_some_iff] at hconnected
    rcases hconnected with ⟨s, hs, hstate⟩
    rw [sendData, hs, Option.map_some, if_pos hstate]
    rfl
  · rw [if_neg hconnected]
    split
    case isTrue hon =>
      rcases hsocket hon with ⟨s, hs, -⟩
      rw [getSocketState, hs, Option.map_some, Option.some.injEq] at hconnected
      rw [sendData, hs, Option.map_some, if_neg hconnected]
      rfl
    case isFalse => rfl

/-- A press while the connection is being closed is lost. -/
theorem control_sends_closing : ∃ ui, run step (start 0) (upAndDown.take 4) = some ui ∧
    ui.controlsEnabled = true ∧ ui.step .toggleOnOff = some ui := by
  have h : run step (start 0) (upAndDown.take 4) = some _ := rfl
  exact ⟨_, h, rfl, control_sends h rfl⟩

end LightControllerRemoteUi

end LightControl

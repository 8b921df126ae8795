import LightControl.RemoteUi.Reconnect

/-!
# Where the client works on a null socket

`socket_state_changed` gives the socket up and leaves `socket` null until the next timeout.
`socket_encrypted` expects that; the slots that read the socket's state do not.

`nullSafety_iff` says exactly which runs go through: those in which the window does not poll while
the socket is gone, and no socket fails whose `stateChanged` is connected more than once.
-/

namespace LightControl.LightControllerRemoteUi

open QString SslClient Runs

/-- The event does nothing to a null socket: a poll finds a socket, a connection that ends is
listened to once, and no call of `secure_connect` in a timeout fails in the middle of an attempt
on a socket that an earlier call has connected. -/
def SafeEvent (ui : LightControllerRemoteUi) : UiEvent → Prop
  | .timeout attempts => ui.lightControllerConnection.reconnectTimerActive = true →
      Along secureConnect SafeAttempt ui.lightControllerConnection
        ((List.range ui.lightControllerConnection.timeoutConnections).map attempts)
  | .lightStatePoll => ui.lightControllerConnection.socket.isSome
  | .stateChanged .unconnected => ∀ s, ui.lightControllerConnection.socket = some s →
      s.state.InProgress → s.connections.stateChanged = 1
  | _ => True

/-! ## One event -/

@[simp] lemma isSome_onClient (ui : LightControllerRemoteUi) (c : Option SslClient) :
    (ui.onClient c).isSome = c.isSome := by
  cases c <;> rfl

lemma timeout_isSome_iff (c : SslClient) (attempts : ℕ → Attempt) :
    (c.timeout attempts).isSome ↔ (c.reconnectTimerActive = true →
      Along secureConnect SafeAttempt c ((List.range c.timeoutConnections).map attempts)) := by
  simp only [timeout]
  split
  case isTrue hactive =>
    rw [run_isSome_iff_along, along_congr (I := fun _ => True) (fun _ _ _ _ _ => trivial)
      (fun c a _ => secureConnect_isSome_iff c a) _ trivial]
    simp [hactive]
  case isFalse hstopped => simp [hstopped]

/-- The controls are enabled by the last signal of the client. -/
lemma controlsEnabled_iff (ui : LightControllerRemoteUi) :
    ui.controlsEnabled = true ↔
      ui.lightControllerConnection.emitted.getLast? = some .socketUp := by
  simp only [controlsEnabled]
  cases hlast : ui.lightControllerConnection.emitted.getLast? with
  | none =>
      rw [List.getLast?_eq_none_iff] at hlast
      simp [hlast]
  | some signal =>
      rcases List.getLast?_eq_some_iff.mp hlast with ⟨init, heq⟩
      rw [heq, List.foldl_append]
      cases signal <;> simp [socketUp, socketDown]

/-- A button that can be pressed finds a socket. -/
lemma button_isSome {ui : LightControllerRemoteUi} (hui : ui.lightControllerConnection.Phase)
    (cmd : QString) :
    (if ui.controlsEnabled then ui.onClient (ui.lightControllerConnection.sendData cmd)
      else some ui).isSome := by
  split
  case isTrue henabled =>
    rw [controlsEnabled_iff] at henabled
    rw [isSome_onClient, sendData, Option.isSome_map]
    obtain ⟨-, ⟨s, hs, -⟩ | ⟨-, -, hlast⟩ | ⟨s, hs, -⟩⟩ := hui
    · simp [hs]
    · rw [hlast] at henabled
      exact absurd henabled (by decide)
    · simp [hs]
  case isFalse => rfl

/-- **One event** goes through exactly if it is a safe one. -/
lemma step_isSome_iff {ui : LightControllerRemoteUi} (hui : ui.lightControllerConnection.Phase)
    (e : UiEvent) : (ui.step e).isSome ↔ ui.SafeEvent e := by
  cases e with
  | timeout attempts =>
      rw [step, isSome_onClient, timeout_isSome_iff]
      rfl
  | lightStatePoll =>
      rw [step, isSome_onClient, readRemoteLightController, getSocketState, SafeEvent]
      cases hs : ui.lightControllerConnection.socket with
      | none => rfl
      | some s =>
          rw [Option.map_some, Option.bind_some]
          split
          case isTrue => simp [sendData, hs]
          case isFalse => rfl
  | toggleOnOff => exact iff_of_true (button_isSome hui _) trivial
  | resetToDefault => exact iff_of_true (button_isSome hui _) trivial
  | dimmerSlider value => exact iff_of_true (button_isSome hui _) trivial
  | resolverFound name entry => exact iff_of_true rfl trivial
  | browserRemove name => exact iff_of_true rfl trivial
  | stateChanged state =>
      simp only [step]
      split
      case isTrue hguard =>
        rcases any_getSocketState.mp hguard with ⟨s, hs, hprog⟩
        rw [isSome_onClient]
        by_cases hstate : state.InProgress
        · rcases report_inProgress hs hstate with ⟨c', hc', -⟩
          rw [hc']
          refine iff_of_true rfl ?_
          cases state with
          | unconnected => exact absurd rfl hstate
          | _ => trivial
        · obtain rfl : state = .unconnected := not_not.mp hstate
          rw [(report_unconnected hs (hui.stateChanged_pos hs hprog)).1]
          constructor
          · intro hone t ht _
            rw [← Option.some.inj (hs.symm.trans ht), hone]
          · intro hsafe
            exact hsafe s hs hprog
      case isFalse hguard =>
        -- without a connection in progress nothing is reported
        refine iff_of_true rfl ?_
        cases state with
        | unconnected =>
            intro s hs hprog
            exact absurd (any_getSocketState.mpr ⟨s, hs, hprog⟩) hguard
        | _ => trivial
  | sslErrors =>
      refine iff_of_true ?_ trivial
      rw [step, isSome_onClient]
      obtain ⟨-, ⟨s, hs, -, hconn, -⟩ | ⟨hs, -⟩ | ⟨s, hs, hprog, -⟩⟩ := hui
      · simp [connections, hs, hconn, SocketConnections.zero, times]
      · simp [connections, hs, SocketConnections.zero, times]
      · rw [times_of_fixed (sslErrors_of_inProgress hs hprog)]
        rfl
  | encrypted =>
      refine iff_of_true ?_ trivial
      rw [step, isSome_onClient]
      exact times_isSome (fun _ => rfl) _ _
  | readyRead =>
      refine iff_of_true ?_ trivial
      rw [step, isSome_onClient]
      cases hs : ui.lightControllerConnection.socket with
      | none => simp [connections, hs, SocketConnections.zero, times]
      | some s =>
          have hfixed : ui.lightControllerConnection.socketReadyRead
              = some ui.lightControllerConnection := by
            rw [socketReadyRead, hs, Option.map_some]
          rw [times_of_fixed hfixed]
          rfl
  | disconnected =>
      refine iff_of_true ?_ trivial
      rw [step, isSome_onClient]
      exact times_isSome (fun _ => rfl) _ _
  | deferredDelete => exact iff_of_true rfl trivial

/-! ## Runs -/

/-- **Which runs do nothing to a null socket**: from the constructed window, those all of whose
events are safe. -/
theorem nullSafety_iff (port : ℕ) (es : List UiEvent) :
    (run step (start port) es).isSome ↔ Along step SafeEvent (start port) es := by
  rw [run_isSome_iff_along]
  exact along_congr (I := fun ui => ui.lightControllerConnection.Phase)
    (fun _ _ _ => step_phase) (fun _ e hui => step_isSome_iff hui e) es (start_phase port)

/-- **A poll can find no socket**: the address is found, the connection is lost, and the window
polls before the reconnect timer has made a new socket. -/
theorem not_nullSafety : ¬ ∀ (port : ℕ) (es : List UiEvent), (run step (start port) es).isSome := by
  intro h
  have hrun := h 0 [.resolverFound (literal "hall") ⟨literal "fe80::1", 48049, .inet6⟩,
    .timeout fun _ => ⟨[], false⟩, .stateChanged .unconnected, .lightStatePoll]
  revert hrun
  decide

end LightControl.LightControllerRemoteUi

import LightControl.RemoteUi.ClientInvariant

/-!
# How often the signals are connected

`secure_connect` makes the connections of the timer and of the socket itself, and the timer runs
`secure_connect` again.

* `fresh_step` — up to the first timeout nothing changes in the wiring.
* `wiredOnce_iff` — the first timeout connects the timer a second time, so the runs in which every
  signal is connected once are those without a timeout.
-/

namespace LightControl.LightControllerRemoteUi

open SslClient Runs

/-- **The law**: the timer's timeout is connected to `secure_connect` at most once, and so is each
signal of the current socket to its slot. -/
def WiredOnce (c : SslClient) : Prop :=
  c.timeoutConnections ≤ 1 ∧ ∀ s, c.socket = some s →
    s.connections.stateChanged ≤ 1 ∧ s.connections.encrypted ≤ 1 ∧ s.connections.sslErrors ≤ 1 ∧
      s.connections.readyRead ≤ 1 ∧ s.connections.disconnected ≤ 1

/-- What the constructor leaves: a socket with nothing connected to it, and the timer. -/
def Fresh (c : SslClient) : Prop :=
  c.socket = some .new ∧ c.doomed = [] ∧ c.reconnectTimerActive = true ∧
    c.timeoutConnections = 1

variable {ui : LightControllerRemoteUi} {c : SslClient}

lemma fresh_start (port : ℕ) : Fresh (start port).lightControllerConnection :=
  ⟨rfl, rfl, rfl, rfl⟩

lemma wiredOnce_of_fresh (hc : Fresh c) : WiredOnce c := by
  rcases hc with ⟨hsocket, -, -, htimer⟩
  refine ⟨htimer.le, ?_⟩
  intro s hs
  obtain rfl : s = .new := Option.some.inj (hs.symm.trans hsocket)
  simp [ClientSocket.new, SocketConnections.zero]

lemma sendData_of_new (hsocket : c.socket = some .new) (cmd : QString) :
    c.sendData cmd = some c := by
  rw [sendData, hsocket, Option.map_some, if_neg (by simp [ClientSocket.new])]

/-- **Before its socket is used** no event but a timeout changes more of the client than the
address and the port. -/
lemma step_of_new (hsocket : ui.lightControllerConnection.socket = some .new)
    (hdoomed : ui.lightControllerConnection.doomed = []) {e : UiEvent}
    (he : ∀ attempts, e ≠ .timeout attempts) :
    ∃ ui' hostNameOrIp port, ui.step e = some ui' ∧ ui'.lightControllerConnection =
      (ui.lightControllerConnection.setServerIp hostNameOrIp).setServerPort port := by
  have hsend : ∀ cmd, ui.onClient (ui.lightControllerConnection.sendData cmd) = some ui := by
    intro cmd
    rw [sendData_of_new hsocket cmd]
    rfl
  have hbutton : ∀ cmd, ∃ ui' hostNameOrIp port, (if ui.controlsEnabled then
      ui.onClient (ui.lightControllerConnection.sendData cmd) else some ui) = some ui' ∧
      ui'.lightControllerConnection =
        (ui.lightControllerConnection.setServerIp hostNameOrIp).setServerPort port := by
    intro cmd
    rw [hsend, ite_self]
    exact ⟨ui, _, _, rfl, rfl⟩
  have hzero : ui.connections = .zero := by
    rw [connections, hsocket]
    rfl
  cases e with
  | timeout attempts => exact absurd rfl (he attempts)
  | lightStatePoll =>
      refine ⟨ui, _, _, ?_, rfl⟩
      simp only [step, readRemoteLightController, getSocketState, hsocket, Option.map_some,
        Option.bind_some]
      rw [if_neg (by simp [ClientSocket.new])]
      rfl
  | toggleOnOff => exact hbutton _
  | resetToDefault => exact hbutton _
  | dimmerSlider value => exact hbutton _
  | resolverFound name entry =>
      simp only [step, serviceFound]
      split
      case isTrue => exact ⟨_, _, _, rfl, rfl⟩
      case isFalse => exact ⟨_, _, _, rfl, rfl⟩
  | browserRemove name => exact ⟨_, _, _, rfl, rfl⟩
  | stateChanged state =>
      refine ⟨ui, _, _, ?_, rfl⟩
      simp only [step, getSocketState, hsocket, Option.map_some]
      exact if_neg (by simp [ClientSocket.new])
  | sslErrors =>
      refine ⟨ui, _, _, ?_, rfl⟩
      simp only [step, hzero, SocketConnections.zero, times]
      rfl
  | encrypted =>
      refine ⟨ui, _, _, ?_, rfl⟩
      simp only [step, hzero, SocketConnections.zero, times]
      rfl
  | readyRead =>
      refine ⟨ui, _, _, ?_, rfl⟩
      simp only [step, hzero, SocketConnections.zero, times]
      rfl
  | disconnected =>
      refine ⟨ui, _, _, ?_, rfl⟩
      simp only [step, disconnectedConnections, hzero, hdoomed, SocketConnections.zero,
        List.map_nil, List.sum_nil, times]
      rfl
  | deferredDelete =>
      refine ⟨_, ui.lightControllerConnection.lightControllerHostNameOrIp,
        ui.lightControllerConnection.lightControllerPort, rfl, ?_⟩
      rw [← hdoomed]
      rfl

/-- **Up to the first timeout** every event goes through and leaves the wiring as it was. -/
lemma fresh_step (hui : Fresh ui.lightControllerConnection) {e : UiEvent}
    (he : ∀ attempts, e ≠ .timeout attempts) :
    ∃ ui', ui.step e = some ui' ∧ Fresh ui'.lightControllerConnection := by
  rcases step_of_new hui.1 hui.2.1 he with ⟨ui', hostNameOrIp, port, hstep, hc⟩
  refine ⟨ui', hstep, ?_⟩
  rw [hc]
  exact hui

/-- **The first timeout** goes through, with whatever comes of the attempt, and connects the timer
again. -/
lemma timeout_of_fresh (hui : Fresh ui.lightControllerConnection) (attempts : ℕ → Attempt) :
    ∃ ui', ui.step (.timeout attempts) = some ui' ∧
      ui'.lightControllerConnection.timeoutConnections = 2 := by
  rcases hui with ⟨hsocket, -, hactive, htimer⟩
  obtain ⟨c', hc', ht⟩ : ∃ c', ui.lightControllerConnection.secureConnect (attempts 0) = some c' ∧
      c'.timeoutConnections = 2 := by
    simp only [secureConnect, hsocket, Option.getD_some, htimer]
    rw [if_neg (by simp [ClientSocket.new])]
    split
    case isTrue => exact ⟨_, rfl, rfl⟩
    case isFalse =>
      obtain ⟨hsome, hleft⟩ := connectToHostEncrypted_spec (attempts 0)
        (c := { ui.lightControllerConnection with
          socket := some { ClientSocket.new with
            connections := ClientSocket.new.connections.connect }
          timeoutConnections := 1 + 1 }) rfl Nat.one_pos
      rcases Option.isSome_iff_exists.mp (hsome.mpr fun _ => rfl) with ⟨c', hc'⟩
      exact ⟨c', hc', (hleft c' hc').2⟩
  refine ⟨{ ui with lightControllerConnection := c' }, ?_, ht⟩
  simp only [step, timeout, hactive, if_true, htimer, List.range_one, List.map_cons, List.map_nil,
    run_cons, hc', Option.bind_some, run_nil]
  rfl

/-- From a fresh client the law holds throughout a run exactly up to the first timeout. -/
lemma throughout_wiredOnce_iff (es : List UiEvent) (hui : Fresh ui.lightControllerConnection) :
    Throughout step (fun ui => WiredOnce ui.lightControllerConnection) ui es ↔
      ∀ attempts, .timeout attempts ∉ es := by
  induction es generalizing ui with
  | nil => exact iff_of_true (throughout_nil.mpr (wiredOnce_of_fresh hui)) (by simp)
  | cons e es ih =>
      rw [throughout_cons]
      by_cases he : ∃ attempts, e = .timeout attempts
      · rcases he with ⟨attempts, rfl⟩
        rcases timeout_of_fresh hui attempts with ⟨ui', hstep, ht⟩
        refine iff_of_false ?_ fun hnone => hnone attempts (by simp)
        rintro ⟨-, hrest⟩
        have hwired : WiredOnce ui'.lightControllerConnection := hrest ui' hstep [] es ui' rfl rfl
        exact absurd hwired.1 (by omega)
      · have he' : ∀ attempts, e ≠ .timeout attempts := not_exists.mp he
        rcases fresh_step hui he' with ⟨ui', hstep, hui'⟩
        simp only [wiredOnce_of_fresh hui, true_and, hstep, Option.some.injEq, forall_eq', ih hui',
          List.mem_cons, not_or]
        exact forall_congr' fun attempts => (and_iff_right (he' attempts).symm).symm

/-- **When the signals are wired once.**  In every run of the constructed window: the law holds in
every state reached if and only if the run has no timeout of the reconnect timer. -/
theorem wiredOnce_iff (port : ℕ) (es : List UiEvent) :
    Throughout step (fun ui => WiredOnce ui.lightControllerConnection) (start port) es ↔
      ∀ attempts, .timeout attempts ∉ es :=
  throughout_wiredOnce_iff es (fresh_start port)

/-- **The timer is connected twice** after the first timeout. -/
theorem not_wiredOnce :
    ¬ ∀ (port : ℕ) (es : List UiEvent),
      Throughout step (fun ui => WiredOnce ui.lightControllerConnection) (start port) es := by
  intro h
  rcases timeout_of_fresh (fresh_start 0) (fun _ => ⟨[], false⟩) with ⟨ui', hstep, ht⟩
  have hrest := (throughout_cons.mp (h 0 [.timeout fun _ => ⟨[], false⟩])).2 ui' hstep
  exact absurd (throughout_nil.mp hrest).1 (by omega)

end LightControl.LightControllerRemoteUi

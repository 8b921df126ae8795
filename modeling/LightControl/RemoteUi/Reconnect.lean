import LightControl.RemoteUi.ClientInvariant

/-!
# The client keeps trying

Whatever fails and in whatever order, between two events the client either has a connection in
progress whose news it listens to, or a timer that will call `secure_connect` again.
-/

namespace LightControl.LightControllerRemoteUi

open QString Runs

/-- The client has a socket that is looking up the host, connecting, connected or closing, and
listens to its state; or the reconnect timer runs, and its timeout calls `secure_connect`. -/
def NotStranded (c : SslClient) : Prop :=
  (∃ s, c.socket = some s ∧
      (s.state = .hostLookup ∨ s.state = .connecting ∨ s.state = .connected ∨
        s.state = .closing) ∧
      0 < s.connections.stateChanged) ∨
    (c.reconnectTimerActive = true ∧ 0 < c.timeoutConnections)

lemma notStranded_of_phase {c : SslClient} (hc : c.Phase) : NotStranded c := by
  obtain ⟨hpos, ⟨s, -, -, -, htimer⟩ | ⟨-, htimer, -⟩ | ⟨s, hs, hprog, hconn⟩⟩ := hc
  · exact Or.inr ⟨htimer, hpos⟩
  · exact Or.inr ⟨htimer, hpos⟩
  · refine Or.inl ⟨s, hs, ?_, hconn⟩
    cases hstate : s.state with
    | unconnected => exact absurd hstate hprog
    | hostLookup => simp
    | connecting => simp
    | connected => simp
    | closing => simp

lemma run_phase {port : ℕ} {es : List UiEvent} {ui : LightControllerRemoteUi}
    (h : run step (start port) es = some ui) : ui.lightControllerConnection.Phase :=
  run_invariant (I := fun ui => ui.lightControllerConnection.Phase) (fun _ _ _ => step_phase) es
    (start_phase port) h

/-- **The client is never stranded**, in any state that a run of events reaches. -/
theorem run_notStranded (port : ℕ) (es : List UiEvent) {ui : LightControllerRemoteUi}
    (h : run step (start port) es = some ui) : NotStranded ui.lightControllerConnection :=
  notStranded_of_phase (run_phase h)

/-- The address is found, the connection is refused, and the next timeout tries again. -/
def refused : List UiEvent :=
  [.resolverFound (literal "hall") ⟨literal "fe80::1", 48049, .inet6⟩,
    .timeout fun _ => ⟨[⟨.connecting, SocketState.inProgress_connecting⟩], true⟩, .disconnected,
    .timeout fun _ => ⟨[], false⟩]

/-- The run of `refused` goes through, and ends with a client that is not stranded. -/
theorem run_notStranded_refused : ∃ ui, run step (start 0) refused = some ui ∧
    NotStranded ui.lightControllerConnection :=
  ⟨_, rfl, run_notStranded 0 refused rfl⟩

end LightControl.LightControllerRemoteUi

import LightControl.RemoteUi.LightControllerRemoteUi

/-!
# What the client's slots keep

Between events the client is in one of three phases (`Phase`): it has a socket and waits for the
address, it has lost its socket, or it has a socket with a connection in progress whose news it
listens to.  In the first two the reconnect timer runs.

* `report_inProgress`, `report_unconnected` — what a change of the socket's state does.
* `secureConnect_isSome_iff` — when `secure_connect` goes through, and `secureConnect_phase` —
  the phase it leaves.
* `step_kept` — what the slots keep, every event keeps; `step_phase` — the phases are so kept.
-/

namespace LightControl.SslClient

open Runs

/-- The client has a socket and no address yet. -/
def Idle (c : SslClient) : Prop :=
  ∃ s, c.socket = some s ∧ s.state = .unconnected ∧ s.connections = .zero ∧
    c.reconnectTimerActive = true

/-- The client has lost its socket. -/
def Down (c : SslClient) : Prop :=
  c.socket = none ∧ c.reconnectTimerActive = true ∧ c.emitted.getLast? = some .socketDown

/-- The client has a socket with a connection in progress, and listens to its state. -/
def Up (c : SslClient) : Prop :=
  ∃ s, c.socket = some s ∧ s.state.InProgress ∧ 0 < s.connections.stateChanged

/-- **The invariant of the client** between events. -/
def Phase (c : SslClient) : Prop := 0 < c.timeoutConnections ∧ (c.Idle ∨ c.Down ∨ c.Up)

/-! ## A change of state -/

/-- With a socket, news of a state in progress are taken without harm. -/
lemma times_socketStateChanged {state : SocketState} (hstate : state.InProgress) (n : ℕ)
    {c : SslClient} {s : ClientSocket} (hs : c.socket = some s) :
    ∃ c', times (fun c => c.socketStateChanged state) n c = some c' ∧ c'.socket = some s ∧
      c'.timeoutConnections = c.timeoutConnections := by
  induction n generalizing c with
  | zero => exact ⟨c, rfl, hs, rfl⟩
  | succ n ih =>
      obtain ⟨c₁, hc₁, hs₁, ht₁⟩ : ∃ c₁, c.socketStateChanged state = some c₁ ∧
          c₁.socket = some s ∧ c₁.timeoutConnections = c.timeoutConnections := by
        rw [socketStateChanged, hs, Option.map_some]
        cases state with
        | unconnected => exact absurd rfl hstate
        | connected => exact ⟨_, rfl, rfl, rfl⟩
        | hostLookup => exact ⟨_, rfl, hs, rfl⟩
        | connecting => exact ⟨_, rfl, hs, rfl⟩
        | closing => exact ⟨_, rfl, hs, rfl⟩
      rcases ih hs₁ with ⟨c₂, hc₂, hs₂, ht₂⟩
      exact ⟨c₂, by rw [times, hc₁, Option.bind_some, hc₂], hs₂, ht₂.trans ht₁⟩

/-- **A state in progress** is reported without harm, and the socket has it. -/
lemma report_inProgress {c : SslClient} {s : ClientSocket} {state : SocketState}
    (hs : c.socket = some s) (hstate : state.InProgress) :
    ∃ c', c.report state = some c' ∧ c'.socket = some { s with state := state } ∧
      c'.timeoutConnections = c.timeoutConnections := by
  rw [report, hs]
  exact times_socketStateChanged hstate _ rfl

/-- **The unconnected state** is reported without harm only to a slot that is connected once: the
first run of the slot gives the socket up. -/
lemma report_unconnected {c : SslClient} {s : ClientSocket} (hs : c.socket = some s)
    (hpos : 0 < s.connections.stateChanged) :
    ((c.report .unconnected).isSome ↔ s.connections.stateChanged = 1) ∧
      ∀ c', c.report .unconnected = some c' →
        c'.Down ∧ c'.timeoutConnections = c.timeoutConnections := by
  rcases Nat.exists_eq_add_of_lt hpos with ⟨n, hn⟩
  rw [Nat.zero_add] at hn
  rw [report, hs]
  simp only [hn, times, socketStateChanged, Option.map_some, Option.bind_some]
  cases n with
  | zero =>
      constructor
      · simp [times]
      · rintro c' ⟨⟩
        exact ⟨⟨rfl, rfl, by simp⟩, rfl⟩
  | succ n => simp [times]

lemma run_report {states : List SocketState} (hall : ∀ state ∈ states, state.InProgress)
    {c : SslClient} {s : ClientSocket} (hs : c.socket = some s) :
    ∃ c' s', run report c states = some c' ∧ c'.socket = some s' ∧
      s'.connections = s.connections ∧ c'.timeoutConnections = c.timeoutConnections ∧
      (s.state.InProgress ∨ states ≠ [] → s'.state.InProgress) := by
  induction states generalizing c s with
  | nil => exact ⟨c, s, rfl, hs, rfl, rfl, by simp⟩
  | cons state states ih =>
      have hstate : state.InProgress := hall state (by simp)
      have hstates : ∀ st ∈ states, st.InProgress := by
        intro st hst
        exact hall st (List.mem_cons_of_mem state hst)
      rcases report_inProgress hs hstate with ⟨c₁, hc₁, hs₁, ht₁⟩
      rcases ih hstates hs₁ with ⟨c₂, s₂, hc₂, hs₂, hconn, ht₂, hprog⟩
      refine ⟨c₂, s₂, ?_, hs₂, hconn, ht₂.trans ht₁, ?_⟩
      · rw [run_cons, hc₁, Option.bind_some, hc₂]
      · intro _
        exact hprog (Or.inl hstate)

/-! ## Connecting -/

/-- What an attempt reports before it fails, if it fails. -/
lemma run_progress {c : SslClient} {s : ClientSocket} (hs : c.socket = some s)
    (attempt : Attempt) :
    ∃ c' s', run report c (c.progress attempt) = some c' ∧ c'.socket = some s' ∧
      s'.connections = s.connections ∧ c'.timeoutConnections = c.timeoutConnections ∧
      s'.state.InProgress := by
  have hall : ∀ state ∈ c.progress attempt, state.InProgress := by
    intro state hmem
    rw [progress, List.mem_append] at hmem
    rcases hmem with hmem | hmem
    · split at hmem
      case isTrue =>
        rw [List.mem_singleton.mp hmem]
        decide
      case isFalse => exact absurd hmem (by simp)
    · rcases List.mem_map.mp hmem with ⟨⟨_, hstate⟩, -, rfl⟩
      exact hstate
  rcases run_report hall hs with ⟨c', s', hrun, hs', hconn, ht, hprog⟩
  refine ⟨c', s', hrun, hs', hconn, ht, hprog ?_⟩
  by_cases hidle : s.state = .unconnected
  · exact Or.inr (by simp [progress, getSocketState, hs, hidle])
  · exact Or.inl hidle

/-- **An attempt** that does not fail while the call runs leaves a connection in progress.  One
that fails is survived if the slot is connected once, and gives the socket up. -/
lemma connectToHostEncrypted_spec {c : SslClient} {s : ClientSocket} (attempt : Attempt)
    (hs : c.socket = some s) (hpos : 0 < s.connections.stateChanged) :
    ((c.connectToHostEncrypted attempt).isSome ↔
        (attempt.failed = true → s.connections.stateChanged = 1)) ∧
      ∀ c', c.connectToHostEncrypted attempt = some c' →
        (c'.Down ∨ c'.Up) ∧ c'.timeoutConnections = c.timeoutConnections := by
  rcases run_progress hs attempt with ⟨c₁, s₁, hrun, hs₁, hconn, ht, hprog⟩
  rw [connectToHostEncrypted, run_append, hrun, Option.bind_some]
  cases hfailed : attempt.failed with
  | false =>
      constructor
      · simp
      · rintro c' ⟨⟩
        exact ⟨Or.inr ⟨s₁, hs₁, hprog, hconn ▸ hpos⟩, ht⟩
  | true =>
      rcases report_unconnected hs₁ (hconn ▸ hpos) with ⟨hsome, hdown⟩
      have hlast : run report c₁ (if true = true then [.unconnected] else [])
          = c₁.report .unconnected := by
        cases hr : c₁.report .unconnected <;> simp [hr]
      rw [hlast, hsome, hconn]
      constructor
      · simp
      · intro c' hc'
        exact ⟨Or.inl (hdown c' hc').1, (hdown c' hc').2.trans ht⟩

/-- The call of `secure_connect` does not fail in the middle of an attempt on a socket that an
earlier call has connected. -/
def SafeAttempt (c : SslClient) (attempt : Attempt) : Prop :=
  c.lightControllerHostNameOrIp ≠ [] → attempt.failed = true →
    ∀ s, c.socket = some s → s.state = .connected ∨ s.state = .connecting ∨
      s.connections.stateChanged = 0

/-- **When `secure_connect` goes through.** -/
theorem secureConnect_isSome_iff (c : SslClient) (attempt : Attempt) :
    (c.secureConnect attempt).isSome ↔ c.SafeAttempt attempt := by
  simp only [secureConnect, SafeAttempt]
  generalize hsocket : c.socket.getD .new = socket
  have hcurrent : ∀ s, c.socket = some s → s = socket := by
    rintro s hs
    rw [← hsocket, hs, Option.getD_some]
  by_cases hlinked : socket.state = .connected ∨ socket.state = .connecting
  · rw [if_pos hlinked]
    refine iff_of_true rfl ?_
    intro _ _ s hs
    rw [hcurrent s hs]
    exact hlinked.imp_right Or.inl
  by_cases hhost : c.lightControllerHostNameOrIp = []
  · rw [if_neg hlinked, if_pos hhost]
    refine iff_of_true rfl ?_
    intro hne
    exact absurd hhost hne
  rw [if_neg hlinked, if_neg hhost, (connectToHostEncrypted_spec attempt rfl (by
    simp [SocketConnections.connect])).1]
  have hone : socket.connections.connect.stateChanged = 1 ↔
      socket.connections.stateChanged = 0 := by
    simp [SocketConnections.connect]
  rw [hone]
  constructor
  · intro hfresh _ hfailed s hs
    rw [hcurrent s hs]
    exact Or.inr (Or.inr (hfresh hfailed))
  · intro hsafe hfailed
    cases hs : c.socket with
    | none =>
        rw [← hsocket, hs]
        rfl
    | some s =>
        have hcases := hsafe hhost hfailed s hs
        rw [hcurrent s hs] at hcases
        rcases hcases with h | h | h
        · exact absurd (Or.inl h) hlinked
        · exact absurd (Or.inr h) hlinked
        · exact h

/-- **The phase that `secure_connect` leaves.** -/
theorem secureConnect_phase {c c' : SslClient} {attempt : Attempt} (hc : c.Phase)
    (h : c.secureConnect attempt = some c') : c'.Phase := by
  rcases hc with ⟨hpos, hphase⟩
  simp only [secureConnect] at h
  generalize hsocket : c.socket.getD .new = socket at h
  by_cases hlinked : socket.state = .connected ∨ socket.state = .connecting
  · -- only the timer is stopped, and the socket is in progress
    rw [if_pos hlinked, Option.some.injEq] at h
    subst h
    refine ⟨hpos, Or.inr (Or.inr ?_)⟩
    rcases hphase with ⟨s, hs, hstate, -⟩ | ⟨hs, -⟩ | ⟨s, hs, hup⟩
    · rw [hs, Option.getD_some] at hsocket
      rw [← hsocket, hstate] at hlinked
      exact absurd hlinked (by decide)
    · rw [hs, Option.getD_none] at hsocket
      rw [← hsocket] at hlinked
      exact absurd hlinked (by decide)
    · rw [hs, Option.getD_some] at hsocket
      exact ⟨s, by rw [hsocket], hup⟩
  by_cases hhost : c.lightControllerHostNameOrIp = []
  · rw [if_neg hlinked, if_pos hhost, Option.some.injEq] at h
    subst h
    refine ⟨Nat.succ_pos _, ?_⟩
    rcases hphase with ⟨s, hs, hidle⟩ | ⟨hs, -⟩ | ⟨s, hs, hup⟩
    · rw [hs, Option.getD_some] at hsocket
      exact Or.inl ⟨s, by rw [hsocket], hidle.1, hidle.2.1, rfl⟩
    · rw [hs, Option.getD_none] at hsocket
      exact Or.inl ⟨.new, by rw [hsocket], rfl, rfl, rfl⟩
    · rw [hs, Option.getD_some] at hsocket
      exact Or.inr (Or.inr ⟨s, by rw [hsocket], hup⟩)
  · rw [if_neg hlinked, if_neg hhost] at h
    obtain ⟨hleft, ht⟩ := (connectToHostEncrypted_spec attempt rfl (by
      simp [SocketConnections.connect])).2 c' h
    exact ⟨by rw [ht]; exact Nat.succ_pos _, Or.inr hleft⟩

/-! ## The other slots -/

lemma sendData_phase {c c' : SslClient} {cmd : QString} (hc : c.Phase)
    (h : c.sendData cmd = some c') : c'.Phase := by
  rw [sendData, Option.map_eq_some_iff] at h
  rcases h with ⟨s, hs, rfl⟩
  split
  case isTrue hconnected =>
    obtain ⟨hpos, ⟨t, ht, hidle⟩ | ⟨hnone, -⟩ | ⟨t, ht, hup⟩⟩ := hc
    · obtain rfl : s = t := Option.some.inj (hs.symm.trans ht)
      exact ⟨hpos, Or.inl ⟨_, rfl, hidle⟩⟩
    · exact absurd (hs.symm.trans hnone) (by simp)
    · obtain rfl : s = t := Option.some.inj (hs.symm.trans ht)
      exact ⟨hpos, Or.inr (Or.inr ⟨_, rfl, hup⟩)⟩
  case isFalse => exact hc

lemma Phase.stateChanged_pos {c : SslClient} {s : ClientSocket} (hc : c.Phase)
    (hs : c.socket = some s) (hprog : s.state.InProgress) : 0 < s.connections.stateChanged := by
  obtain ⟨-, ⟨t, ht, hidle, -⟩ | ⟨hnone, -⟩ | ⟨t, ht, -, hconn⟩⟩ := hc
  · obtain rfl : s = t := Option.some.inj (hs.symm.trans ht)
    exact absurd hidle hprog
  · exact absurd (hs.symm.trans hnone) (by simp)
  · obtain rfl : s = t := Option.some.inj (hs.symm.trans ht)
    exact hconn

lemma report_phase {c c' : SslClient} {s : ClientSocket} {state : SocketState} (hc : c.Phase)
    (hs : c.socket = some s) (hprog : s.state.InProgress) (h : c.report state = some c') :
    c'.Phase := by
  have hconn := hc.stateChanged_pos hs hprog
  by_cases hstate : state.InProgress
  · rcases report_inProgress hs hstate with ⟨c₁, hc₁, hs₁, ht₁⟩
    obtain rfl : c₁ = c' := Option.some.inj (hc₁.symm.trans h)
    exact ⟨ht₁ ▸ hc.1, Or.inr (Or.inr ⟨_, hs₁, hstate, hconn⟩)⟩
  · obtain rfl : state = .unconnected := not_not.mp hstate
    rcases (report_unconnected hs hconn).2 c' h with ⟨hdown, ht₁⟩
    exact ⟨ht₁ ▸ hc.1, Or.inr (Or.inl hdown)⟩

lemma sslErrors_of_inProgress {c : SslClient} {s : ClientSocket} (hs : c.socket = some s)
    (hprog : s.state.InProgress) : c.sslErrors = some c := by
  rw [sslErrors, hs, Option.bind_some]
  split
  case isTrue hne =>
    rw [socketStateChanged, hs, Option.map_some]
    cases hstate : s.state with
    | unconnected => exact absurd hstate hprog
    | connected => exact absurd hstate hne
    | _ => rfl
  case isFalse => rfl

lemma sslErrors_phase {c c' : SslClient} (hc : c.Phase) (h : c.sslErrors = some c') :
    c'.Phase := by
  cases hs : c.socket with
  | none => simp [sslErrors, hs] at h
  | some s =>
      by_cases hprog : s.state.InProgress
      · rw [sslErrors_of_inProgress hs hprog, Option.some.injEq] at h
        exact h ▸ hc
      · obtain hstate : s.state = .unconnected := not_not.mp hprog
        rw [sslErrors, hs, Option.bind_some, hstate, if_pos (by decide), socketStateChanged, hs,
          Option.map_some, Option.some.injEq] at h
        subst h
        exact ⟨hc.1, Or.inr (Or.inl ⟨rfl, rfl, by simp⟩)⟩

lemma socketDisconnected_phase {c c' : SslClient} (hc : c.Phase)
    (h : c.socketDisconnected = some c') : c'.Phase := by
  cases h
  obtain ⟨hpos, ⟨s, hs, hstate, hconn, -⟩ | ⟨hnone, -, hlast⟩ | hup⟩ := hc
  · exact ⟨hpos, Or.inl ⟨s, hs, hstate, hconn, rfl⟩⟩
  · exact ⟨hpos, Or.inr (Or.inl ⟨hnone, rfl, hlast⟩)⟩
  · exact ⟨hpos, Or.inr (Or.inr hup)⟩

end LightControl.SslClient

namespace LightControl.LightControllerRemoteUi

open SslClient Runs

/-! ## Events -/

lemma start_phase (port : ℕ) : (start port).lightControllerConnection.Phase :=
  ⟨Nat.one_pos, Or.inl ⟨.new, rfl, rfl, rfl, rfl⟩⟩

lemma onClient_eq_some {ui ui' : LightControllerRemoteUi} {c : Option SslClient} :
    ui.onClient c = some ui' ↔
      ∃ c', c = some c' ∧ ui' = { ui with lightControllerConnection := c' } := by
  rw [onClient, Option.map_eq_some_iff]
  exact exists_congr fun c' => and_congr_right fun _ => eq_comm

lemma any_getSocketState {c : SslClient} :
    (c.getSocketState.any fun state => state ≠ .unconnected) = true ↔
      ∃ s, c.socket = some s ∧ s.state.InProgress := by
  rw [getSocketState]
  cases hs : c.socket with
  | none => simp
  | some s => simp [SocketState.InProgress]

/-- What is kept by each slot of the client, and by the window when it sets an address that was
not set. -/
structure KeptBySlots (I : SslClient → Prop) : Prop where
  secureConnect : ∀ {c c' : SslClient} {attempt : Attempt},
    I c → c.secureConnect attempt = some c' → I c'
  report : ∀ {c c' : SslClient} {s : ClientSocket} {state : SocketState},
    I c → c.socket = some s → s.state.InProgress → c.report state = some c' → I c'
  sendData : ∀ {c c' : SslClient} {cmd : QString}, I c → c.sendData cmd = some c' → I c'
  sslErrors : ∀ {c c' : SslClient}, I c → c.sslErrors = some c' → I c'
  socketDisconnected : ∀ {c c' : SslClient}, I c → c.socketDisconnected = some c' → I c'
  setServer : ∀ {c : SslClient} (hostNameOrIp : QString) (port : ℕ), I c →
    c.lightControllerHostNameOrIp = [] → I ((c.setServerIp hostNameOrIp).setServerPort port)
  deferredDelete : ∀ {c : SslClient}, I c → I { c with doomed := [] }

/-- A button sends, or is not there to be pressed. -/
lemma button_kept {I : SslClient → Prop} (hI : KeptBySlots I) {ui ui' : LightControllerRemoteUi}
    {cmd : QString} (hui : I ui.lightControllerConnection)
    (h : (if ui.controlsEnabled then ui.onClient (ui.lightControllerConnection.sendData cmd)
      else some ui) = some ui') : I ui'.lightControllerConnection := by
  split at h
  case isTrue =>
    rcases onClient_eq_some.mp h with ⟨c', hc', rfl⟩
    exact hI.sendData hui hc'
  case isFalse =>
    cases h
    exact hui

/-- **The invariant rule of the client**: what its slots keep, every event keeps. -/
theorem step_kept {I : SslClient → Prop} (hI : KeptBySlots I) {ui ui' : LightControllerRemoteUi}
    {e : UiEvent} (hui : I ui.lightControllerConnection) (h : ui.step e = some ui') :
    I ui'.lightControllerConnection := by
  cases e with
  | timeout attempts =>
      rcases onClient_eq_some.mp h with ⟨c', hc', rfl⟩
      rw [timeout] at hc'
      split at hc'
      case isTrue => exact run_invariant (fun _ _ _ => hI.secureConnect) _ hui hc'
      case isFalse =>
        cases hc'
        exact hui
  | lightStatePoll =>
      rcases onClient_eq_some.mp h with ⟨c', hc', rfl⟩
      rw [readRemoteLightController, Option.bind_eq_some_iff] at hc'
      rcases hc' with ⟨state, -, hc'⟩
      split at hc'
      case isTrue => exact hI.sendData hui hc'
      case isFalse =>
        cases hc'
        exact hui
  | toggleOnOff => exact button_kept hI hui h
  | resetToDefault => exact button_kept hI hui h
  | dimmerSlider value => exact button_kept hI hui h
  | resolverFound name entry =>
      cases h
      rw [serviceFound]
      split
      case isTrue => exact hui
      case isFalse hset =>
        refine hI.setServer _ _ hui ?_
        simpa [isServerIpSet] using hset
  | browserRemove name =>
      cases h
      exact hui
  | stateChanged state =>
      simp only [step] at h
      split at h
      case isTrue hguard =>
        rcases any_getSocketState.mp hguard with ⟨s, hs, hprog⟩
        rcases onClient_eq_some.mp h with ⟨c', hc', rfl⟩
        exact hI.report hui hs hprog hc'
      case isFalse =>
        cases h
        exact hui
  | sslErrors =>
      rcases onClient_eq_some.mp h with ⟨c', hc', rfl⟩
      exact times_invariant (fun _ _ => hI.sslErrors) _ hui hc'
  | encrypted =>
      rcases onClient_eq_some.mp h with ⟨c', hc', rfl⟩
      refine times_invariant ?_ _ hui hc'
      rintro _ _ hc ⟨⟩
      exact hc
  | readyRead =>
      rcases onClient_eq_some.mp h with ⟨c', hc', rfl⟩
      refine times_invariant ?_ _ hui hc'
      intro c c' hc hc'
      rw [socketReadyRead, Option.map_eq_some_iff] at hc'
      rcases hc' with ⟨s, -, rfl⟩
      exact hc
  | disconnected =>
      rcases onClient_eq_some.mp h with ⟨c', hc', rfl⟩
      exact times_invariant (fun _ _ => hI.socketDisconnected) _ hui hc'
  | deferredDelete =>
      cases h
      exact hI.deferredDelete hui

lemma phase_kept : KeptBySlots Phase where
  secureConnect := secureConnect_phase
  report := report_phase
  sendData := sendData_phase
  sslErrors := sslErrors_phase
  socketDisconnected := socketDisconnected_phase
  setServer _ _ hc _ := hc
  deferredDelete hc := hc

/-- **One event** leaves the client in one of its phases. -/
theorem step_phase {ui ui' : LightControllerRemoteUi} {e : UiEvent}
    (hui : ui.lightControllerConnection.Phase) (h : ui.step e = some ui') :
    ui'.lightControllerConnection.Phase := step_kept phase_kept hui h

end LightControl.LightControllerRemoteUi

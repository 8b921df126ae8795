import LightControl.RemoteUi.Wiring
import Mathlib.Algebra.BigOperators.Group.List.Basic

/-!
# How many attempts a timeout makes

Each call of `secure_connect` that does not find a connection connects the timer once more, so a
timeout makes as many calls as all the calls before it have left.

* `step_slots` — what an event other than a timeout can do to the client, as a list of its slots.
* `wires` — the connections of all sockets of the client, the doomed ones included; the slots move
  them around, and only `secure_connect` makes more of them.
* `wiring_law` — the five signals of a socket are connected equally often, and all sockets
  together less often than the timer.
* `reconnect_storm` — the timer's connections at most double at each timeout, and they do double
  at each one as long as every attempt fails while the call runs.
-/

namespace LightControl

open QString Runs

/-! ## What an event does to the client -/

/-- The slots of the client and the calls of the window that are not `secure_connect`. -/
inductive ClientSlot
  | report (state : SocketState)
  | sendData (cmd : QString)
  | sslErrors
  | socketDisconnected
  | setServer (hostNameOrIp : QString) (port : ℕ)
  | deferredDelete

namespace SslClient

/-- One of them; only a socket in use has news, and only a missing address is set. -/
def slot (c : SslClient) : ClientSlot → Option SslClient
  | .report state =>
      if c.getSocketState.any fun s => s ≠ .unconnected then c.report state else some c
  | .sendData cmd => c.sendData cmd
  | .sslErrors => c.sslErrors
  | .socketDisconnected => c.socketDisconnected
  | .setServer hostNameOrIp port =>
      some (if c.isServerIpSet then c else (c.setServerIp hostNameOrIp).setServerPort port)
  | .deferredDelete => some { c with doomed := [] }

end SslClient

/-- The call that sets the address. -/
def ClientSlot.isSetServer : ClientSlot → Bool
  | .setServer _ _ => true
  | _ => false

/-- An event of the service browser. -/
def UiEvent.isDiscovery : UiEvent → Bool
  | .resolverFound _ _ => true
  | .browserRemove _ => true
  | _ => false

/-- A timeout of the reconnect timer. -/
def UiEvent.isTimeout : UiEvent → Bool
  | .timeout _ => true
  | _ => false

namespace LightControllerRemoteUi

open SslClient

variable {ui ui' : LightControllerRemoteUi}

lemma slots_of_button {cmd : QString}
    (h : (if ui.controlsEnabled then ui.onClient (ui.lightControllerConnection.sendData cmd)
      else some ui) = some ui') :
    ∃ slots, run slot ui.lightControllerConnection slots = some ui'.lightControllerConnection ∧
      ∀ callback ∈ slots, callback.isSetServer = false := by
  split at h
  case isTrue =>
    rcases onClient_eq_some.mp h with ⟨c', hc', rfl⟩
    exact ⟨[.sendData cmd], by rw [run_cons, slot, hc']; rfl, by simp [ClientSlot.isSetServer]⟩
  case isFalse =>
    cases h
    exact ⟨[], rfl, by simp⟩

/-- **Everything but a timeout** runs slots of the client, and only the discovery sets the server's
address. -/
theorem step_slots {e : UiEvent} (he : e.isTimeout = false) (h : ui.step e = some ui') :
    ∃ slots, run slot ui.lightControllerConnection slots = some ui'.lightControllerConnection ∧
      (e.isDiscovery = false → ∀ callback ∈ slots, callback.isSetServer = false) := by
  have hnothing : ui'.lightControllerConnection = ui.lightControllerConnection →
      ∃ slots, run slot ui.lightControllerConnection slots = some ui'.lightControllerConnection ∧
        (e.isDiscovery = false → ∀ callback ∈ slots, callback.isSetServer = false) :=
    fun hsame => ⟨[], congrArg some hsame.symm, by simp⟩
  have hbutton : ∀ cmd, (if ui.controlsEnabled then
      ui.onClient (ui.lightControllerConnection.sendData cmd) else some ui) = some ui' →
      ∃ slots, run slot ui.lightControllerConnection slots = some ui'.lightControllerConnection ∧
        (e.isDiscovery = false → ∀ callback ∈ slots, callback.isSetServer = false) := by
    intro cmd hcmd
    rcases slots_of_button hcmd with ⟨slots, hrun, hset⟩
    exact ⟨slots, hrun, fun _ => hset⟩
  cases e with
  | timeout attempts => cases he
  | lightStatePoll =>
      rcases onClient_eq_some.mp h with ⟨c', hc', rfl⟩
      rw [readRemoteLightController, Option.bind_eq_some_iff] at hc'
      rcases hc' with ⟨state, -, hc'⟩
      split at hc'
      case isTrue =>
        exact ⟨[.sendData getLightState], by rw [run_cons, slot, hc']; rfl,
          by simp [ClientSlot.isSetServer]⟩
      case isFalse => exact hnothing (Option.some.inj hc').symm
  | toggleOnOff => exact hbutton _ h
  | resetToDefault => exact hbutton _ h
  | dimmerSlider value => exact hbutton _ h
  | resolverFound name entry =>
      cases h
      rw [serviceFound]
      split
      case isTrue => exact ⟨[], rfl, by simp⟩
      case isFalse hset =>
        exact ⟨[.setServer _ _], by rw [run_cons, slot, if_neg hset]; rfl, by
          simp [UiEvent.isDiscovery]⟩
  | browserRemove name =>
      cases h
      exact ⟨[], rfl, by simp⟩
  | stateChanged state =>
      refine ⟨[.report state], ?_, by simp [ClientSlot.isSetServer]⟩
      simp only [step] at h
      rw [run_cons, slot]
      split at h
      case isTrue hguard =>
        rcases onClient_eq_some.mp h with ⟨c', hc', rfl⟩
        rw [if_pos hguard, hc']
        rfl
      case isFalse hguard =>
        cases h
        rw [if_neg hguard]
        rfl
  | sslErrors =>
      rcases onClient_eq_some.mp h with ⟨c', hc', rfl⟩
      refine ⟨List.replicate _ .sslErrors, (times_eq_run _ _ _).symm.trans hc',
        fun _ callback hmem => ?_⟩
      rw [List.eq_of_mem_replicate hmem]
      rfl
  | encrypted =>
      rcases onClient_eq_some.mp h with ⟨c', hc', rfl⟩
      have hfixed : ui.lightControllerConnection.socketEncrypted
          = some ui.lightControllerConnection := rfl
      rw [times_of_fixed hfixed, Option.some.injEq] at hc'
      exact hnothing hc'.symm
  | readyRead =>
      rcases onClient_eq_some.mp h with ⟨c', hc', rfl⟩
      refine hnothing (times_unchanged (f := fun c => c) ?_ _ hc')
      intro c₁ c₂ h₁
      rw [socketReadyRead, Option.map_eq_some_iff] at h₁
      rcases h₁ with ⟨s, -, rfl⟩
      rfl
  | disconnected =>
      rcases onClient_eq_some.mp h with ⟨c', hc', rfl⟩
      refine ⟨List.replicate _ .socketDisconnected, (times_eq_run _ _ _).symm.trans hc',
        fun _ callback hmem => ?_⟩
      rw [List.eq_of_mem_replicate hmem]
      rfl
  | deferredDelete =>
      cases h
      exact ⟨[.deferredDelete], rfl, by simp [ClientSlot.isSetServer]⟩

end LightControllerRemoteUi

namespace SslClient

variable {c c' : SslClient}

/-! ## The connections of the sockets -/

/-- The connections of all sockets that the client has made and Qt has not deleted. -/
def wires (c : SslClient) : List SocketConnections :=
  (c.socket.toList ++ c.doomed).map ClientSocket.connections

lemma socketStateChanged_wires {state : SocketState} (h : c.socketStateChanged state = some c') :
    c'.wires.Perm c.wires ∧ c'.timeoutConnections = c.timeoutConnections := by
  rw [socketStateChanged, Option.map_eq_some_iff] at h
  rcases h with ⟨s, hs, rfl⟩
  cases state with
  | unconnected =>
      refine ⟨?_, rfl⟩
      rw [wires, wires, hs]
      show (List.map ClientSocket.connections (c.doomed ++ [s])).Perm
        (List.map ClientSocket.connections ([s] ++ c.doomed))
      exact List.perm_append_comm.map _
  | connected => exact ⟨List.Perm.refl _, rfl⟩
  | hostLookup => exact ⟨List.Perm.refl _, rfl⟩
  | connecting => exact ⟨List.Perm.refl _, rfl⟩
  | closing => exact ⟨List.Perm.refl _, rfl⟩

/-- News of the socket's state move its connections around. -/
lemma report_wires {state : SocketState} (h : c.report state = some c') :
    c'.wires.Perm c.wires ∧ c'.timeoutConnections = c.timeoutConnections := by
  rw [report] at h
  split at h
  case h_1 s hs =>
    have hsame : ({ c with socket := some { s with state := state } } : SslClient).wires
        = c.wires := by
      rw [wires, wires, hs]
      rfl
    refine times_invariant (I := fun a => a.wires.Perm c.wires ∧
      a.timeoutConnections = c.timeoutConnections) ?_ _ ⟨hsame ▸ List.Perm.refl _, rfl⟩ h
    rintro a b ⟨hperm, htimer⟩ hb
    rcases socketStateChanged_wires hb with ⟨hperm', htimer'⟩
    exact ⟨hperm'.trans hperm, htimer'.trans htimer⟩
  case h_2 =>
    cases h
    exact ⟨List.Perm.refl _, rfl⟩

lemma connectToHostEncrypted_wires {attempt : Attempt}
    (h : c.connectToHostEncrypted attempt = some c') :
    c'.wires.Perm c.wires ∧ c'.timeoutConnections = c.timeoutConnections := by
  refine run_invariant (I := fun a => a.wires.Perm c.wires ∧
    a.timeoutConnections = c.timeoutConnections) ?_ _ ⟨List.Perm.refl _, rfl⟩ h
  rintro a state b ⟨hperm, htimer⟩ hb
  rcases report_wires hb with ⟨hperm', htimer'⟩
  exact ⟨hperm'.trans hperm, htimer'.trans htimer⟩

/-- The signals of a socket are connected equally often. -/
def Uniform (n : SocketConnections) : Prop :=
  n = ⟨n.stateChanged, n.stateChanged, n.stateChanged, n.stateChanged, n.stateChanged⟩

/-- **The law of the wiring**: the five signals of each socket are connected equally often, and
the timer more often than all sockets together. -/
structure WiringLaw (c : SslClient) : Prop where
  uniform : ∀ n ∈ c.wires, Uniform n
  bounded : (c.wires.map SocketConnections.stateChanged).sum < c.timeoutConnections

/-- The order of the sockets does not count, nor do sockets that are deleted. -/
lemma WiringLaw.of_perm (hc : c.WiringLaw) {gone : List SocketConnections}
    (hperm : (c'.wires ++ gone).Perm c.wires)
    (htimer : c'.timeoutConnections = c.timeoutConnections) : c'.WiringLaw := by
  constructor
  · intro n hn
    exact hc.uniform n (hperm.mem_iff.mp (List.mem_append_left _ hn))
  · have hbounded := hc.bounded
    rw [← (hperm.map _).sum_eq, List.map_append, List.sum_append] at hbounded
    omega

/-- A socket that is made now has no connections. -/
lemma WiringLaw.opened (hc : c.WiringLaw) :
    ({ c with socket := some (c.socket.getD .new) } : SslClient).WiringLaw := by
  cases hs : c.socket with
  | some s =>
      rw [Option.getD_some, ← hs]
      exact hc
  | none =>
      have hwires : ({ c with socket := some .new } : SslClient).wires = .zero :: c.wires := by
        rw [wires, wires, hs]
        rfl
      rw [Option.getD_none]
      constructor
      · intro n hn
        rw [hwires, List.mem_cons] at hn
        rcases hn with rfl | hn
        · rfl
        · exact hc.uniform n hn
      · rw [hwires, List.map_cons, List.sum_cons, SocketConnections.zero, Nat.zero_add]
        exact hc.bounded

/-- `secure_connect` connects the timer once more for each socket that it connects. -/
lemma secureConnect_wiringLaw {attempt : Attempt} (hc : c.WiringLaw)
    (h : c.secureConnect attempt = some c') : c'.WiringLaw := by
  have hopened := hc.opened
  simp only [secureConnect] at h
  generalize c.socket.getD .new = s at h hopened
  split at h
  case isTrue =>
    cases h
    exact ⟨hopened.uniform, hopened.bounded⟩
  case isFalse =>
    split at h
    case isTrue =>
      cases h
      exact ⟨hopened.uniform, Nat.lt_succ_of_lt hopened.bounded⟩
    case isFalse =>
      rcases connectToHostEncrypted_wires h with ⟨hperm, htimer⟩
      rw [← List.append_nil c'.wires] at hperm
      refine WiringLaw.of_perm ⟨?_, ?_⟩ hperm htimer
      · intro n hn
        rcases List.mem_cons.mp hn with rfl | hn
        · have hs := hopened.uniform s.connections List.mem_cons_self
          rw [hs]
          rfl
        · exact hopened.uniform n (List.mem_cons_of_mem _ hn)
      · have hbounded := hopened.bounded
        simp only [wires, Option.toList_some, List.singleton_append, List.map_cons,
          List.sum_cons, SocketConnections.connect] at hbounded ⊢
        omega

/-- **The other slots** neither make connections nor connect the timer; Qt may delete doomed
sockets. -/
lemma slot_wires {callback : ClientSlot} (h : c.slot callback = some c') :
    (∃ gone, (c'.wires ++ gone).Perm c.wires) ∧
      c'.timeoutConnections = c.timeoutConnections := by
  have hmoved : ∀ {c₁ : SslClient}, c₁.wires.Perm c.wires ∧
      c₁.timeoutConnections = c.timeoutConnections →
      (∃ gone, (c₁.wires ++ gone).Perm c.wires) ∧
        c₁.timeoutConnections = c.timeoutConnections := by
    rintro c₁ ⟨hperm, htimer⟩
    exact ⟨⟨[], by rwa [List.append_nil]⟩, htimer⟩
  have hsame := hmoved ⟨List.Perm.refl c.wires, rfl⟩
  cases callback with
  | report state =>
      rw [slot] at h
      split at h
      case isTrue => exact hmoved (report_wires h)
      case isFalse =>
        cases h
        exact hsame
  | sendData cmd =>
      rw [slot, sendData, Option.map_eq_some_iff] at h
      rcases h with ⟨s, hs, rfl⟩
      split
      case isTrue =>
        refine hmoved ⟨?_, rfl⟩
        rw [wires, wires, hs]
        exact List.Perm.refl _
      case isFalse => exact hsame
  | sslErrors =>
      rw [slot, sslErrors, Option.bind_eq_some_iff] at h
      rcases h with ⟨s, -, h⟩
      split at h
      case isTrue => exact hmoved (socketStateChanged_wires h)
      case isFalse =>
        cases h
        exact hsame
  | socketDisconnected =>
      cases h
      exact hsame
  | setServer hostNameOrIp port =>
      cases h
      split
      case isTrue => exact hsame
      case isFalse => exact hsame
  | deferredDelete =>
      cases h
      refine ⟨⟨c.doomed.map ClientSocket.connections, ?_⟩, rfl⟩
      rw [wires, wires, List.append_nil, ← List.map_append]

/-! ## The connections of the timer -/

lemma secureConnect_timeoutConnections_le {attempt : Attempt}
    (h : c.secureConnect attempt = some c') :
    c'.timeoutConnections ≤ c.timeoutConnections + 1 := by
  simp only [secureConnect] at h
  split at h
  case isTrue =>
    cases h
    exact Nat.le_succ _
  case isFalse =>
    split at h
    case isTrue =>
      cases h
      exact le_rfl
    case isFalse => exact (connectToHostEncrypted_wires h).2.le

/-- **A timeout** makes as many calls as the timer has connections, and no more than one new
connection at each. -/
lemma timeout_timeoutConnections_le {attempts : ℕ → Attempt} (h : c.timeout attempts = some c') :
    c'.timeoutConnections ≤ 2 * c.timeoutConnections := by
  have hcalls : ∀ (as : List Attempt) {a a' : SslClient}, run secureConnect a as = some a' →
      a'.timeoutConnections ≤ a.timeoutConnections + as.length := by
    intro as
    induction as with
    | nil =>
        intro a a' ha
        cases ha
        exact le_rfl
    | cons attempt as ih =>
        intro a a' ha
        rw [run_cons, Option.bind_eq_some_iff] at ha
        rcases ha with ⟨a₁, h₁, h₂⟩
        have hone := secureConnect_timeoutConnections_le h₁
        have hrest := ih h₂
        rw [List.length_cons]
        omega
  rw [timeout] at h
  split at h
  case isTrue =>
    have hall := hcalls _ h
    rw [List.length_map, List.length_range] at hall
    omega
  case isFalse =>
    cases h
    omega

/-! ## A controller that cannot be reached -/

/-- The client has no connection, and none in progress, and its timer runs. -/
def Offline (c : SslClient) : Prop :=
  (c.socket = none ∨ c.socket = some .new) ∧ c.reconnectTimerActive = true

/-- **A failed attempt** gives the socket up. -/
lemma connectToHostEncrypted_failed {attempt : Attempt} (hfailed : attempt.failed = true)
    {s : ClientSocket} (hs : c.socket = some s) (hpos : 0 < s.connections.stateChanged)
    (h : c.connectToHostEncrypted attempt = some c') : c'.Down := by
  rcases run_progress hs attempt with ⟨c₁, s₁, hrun, hs₁, hconn, -, -⟩
  rw [connectToHostEncrypted, run_append, hrun, Option.bind_some, if_pos hfailed, run_cons,
    Option.bind_eq_some_iff] at h
  rcases h with ⟨c₂, hc₂, h⟩
  cases h
  exact ((report_unconnected hs₁ (hconn ▸ hpos)).2 c' hc₂).1

/-- Offline, a call of `secure_connect` that fails connects the timer once more. -/
lemma secureConnect_offline {attempt : Attempt} (hfailed : attempt.failed = true)
    (hc : c.Offline) (h : c.secureConnect attempt = some c') :
    c'.Offline ∧ c'.timeoutConnections = c.timeoutConnections + 1 := by
  have hsocket : c.socket.getD .new = .new := by
    rcases hc.1 with hs | hs
    · rw [hs, Option.getD_none]
    · rw [hs, Option.getD_some]
  simp only [secureConnect, hsocket] at h
  rw [if_neg (by simp [ClientSocket.new])] at h
  split at h
  case isTrue =>
    cases h
    exact ⟨⟨Or.inr rfl, rfl⟩, rfl⟩
  case isFalse =>
    have hdown := connectToHostEncrypted_failed hfailed rfl Nat.one_pos h
    exact ⟨⟨Or.inl hdown.1, hdown.2.1⟩, (connectToHostEncrypted_wires h).2⟩

lemma timeout_offline {attempts : ℕ → Attempt} (hfailed : ∀ k, (attempts k).failed = true)
    (hc : c.Offline) (h : c.timeout attempts = some c') :
    c'.Offline ∧ c'.timeoutConnections = 2 * c.timeoutConnections := by
  have hcalls : ∀ (ks : List ℕ) {a a' : SslClient}, a.Offline →
      run secureConnect a (ks.map attempts) = some a' →
      a'.Offline ∧ a'.timeoutConnections = a.timeoutConnections + ks.length := by
    intro ks
    induction ks with
    | nil =>
        intro a a' ha hrun
        cases hrun
        exact ⟨ha, rfl⟩
    | cons k ks ih =>
        intro a a' ha hrun
        rw [List.map_cons, run_cons, Option.bind_eq_some_iff] at hrun
        rcases hrun with ⟨a₁, h₁, h₂⟩
        rcases secureConnect_offline (hfailed k) ha h₁ with ⟨ha₁, ht₁⟩
        rcases ih ha₁ h₂ with ⟨ha', ht'⟩
        refine ⟨ha', ?_⟩
        rw [ht', ht₁, List.length_cons]
        omega
  rw [timeout, if_pos hc.2] at h
  rcases hcalls _ hc h with ⟨hc', ht⟩
  refine ⟨hc', ?_⟩
  rw [ht, List.length_range]
  omega

/-- Offline, no other slot brings the client back. -/
lemma slot_offline {callback : ClientSlot} (hc : c.Offline) (h : c.slot callback = some c') :
    c'.Offline := by
  cases callback with
  | report state =>
      rw [slot, getSocketState] at h
      have hnone : ((c.socket.map ClientSocket.state).any fun s => s ≠ .unconnected) = false := by
        rcases hc.1 with hs | hs
        · rw [hs]
          rfl
        · rw [hs]
          rfl
      rw [hnone, if_neg Bool.false_ne_true, Option.some.injEq] at h
      exact h ▸ hc
  | sendData cmd =>
      rcases hc.1 with hs | hs
      · rw [slot, sendData, hs] at h
        cases h
      · rw [slot, sendData, hs, Option.map_some, if_neg (by simp [ClientSocket.new]),
          Option.some.injEq] at h
        exact h ▸ hc
  | sslErrors =>
      rcases hc.1 with hs | hs
      · rw [slot, sslErrors, hs] at h
        cases h
      · rw [slot, sslErrors, hs, Option.bind_some, if_pos (by simp [ClientSocket.new]),
          socketStateChanged, hs] at h
        cases h
        exact ⟨Or.inl rfl, rfl⟩
  | socketDisconnected =>
      cases h
      exact ⟨hc.1, rfl⟩
  | setServer hostNameOrIp port =>
      cases h
      split
      case isTrue => exact hc
      case isFalse => exact hc
  | deferredDelete =>
      cases h
      exact hc

end SslClient

namespace LightControllerRemoteUi

open SslClient

variable {port : ℕ} {es : List UiEvent} {ui ui' : LightControllerRemoteUi}

/-! ## Runs -/

/-- What `secure_connect` and the other slots keep, every event keeps. -/
lemma step_kept_of_slots {I : SslClient → Prop}
    (hcall : ∀ {c c' : SslClient} {attempt : Attempt}, I c → c.secureConnect attempt = some c' →
      I c')
    (hslot : ∀ {c c' : SslClient} {callback : ClientSlot}, I c → c.slot callback = some c' →
      I c') {e : UiEvent} (hui : I ui.lightControllerConnection) (h : ui.step e = some ui') :
    I ui'.lightControllerConnection := by
  cases he : e.isTimeout with
  | false =>
      rcases step_slots he h with ⟨slots, hrun, -⟩
      exact run_invariant (fun _ _ _ => hslot) slots hui hrun
  | true =>
      cases e with
      | timeout attempts =>
          rcases onClient_eq_some.mp h with ⟨c', hc', rfl⟩
          rw [timeout] at hc'
          split at hc'
          case isTrue => exact run_invariant (fun _ _ _ => hcall) _ hui hc'
          case isFalse =>
            cases hc'
            exact hui
      | _ => cases he

lemma wiringLaw_start (port : ℕ) : (start port).lightControllerConnection.WiringLaw where
  uniform n hn := by
    rw [List.mem_singleton.mp hn]
    rfl
  bounded := Nat.one_pos

lemma timeoutConnections_le (h : run step (start port) es = some ui) :
    ui.lightControllerConnection.timeoutConnections ≤ 2 ^ es.countP UiEvent.isTimeout := by
  refine run_history_invariant (I := fun es ui =>
    ui.lightControllerConnection.timeoutConnections ≤ 2 ^ es.countP UiEvent.isTimeout)
    le_rfl ?_ es h
  intro es ui e ui' _ hle hstep
  rw [List.countP_append, List.countP_singleton]
  cases he : e.isTimeout with
  | false =>
      rcases step_slots he hstep with ⟨slots, hrun, -⟩
      have hsame := run_unchanged (f := timeoutConnections) (fun _ _ _ h => (slot_wires h).2)
        slots hrun
      rw [hsame]
      exact hle
  | true =>
      cases e with
      | timeout attempts =>
          rcases onClient_eq_some.mp hstep with ⟨c', hc', rfl⟩
          have hdouble := timeout_timeoutConnections_le hc'
          rw [if_pos rfl, Nat.pow_succ]
          show c'.timeoutConnections ≤ _
          omega
      | _ => cases he

/-- **The law of the wiring** holds in every state of every run: each socket has its signals
connected equally often, and all sockets together less often than the timer, which after `k`
timeouts is at most `2 ^ k` times. -/
theorem wiring_law (h : run step (start port) es = some ui) :
    (∀ s, ui.lightControllerConnection.socket = some s ∨
        s ∈ ui.lightControllerConnection.doomed →
      s.connections = ⟨s.connections.stateChanged, s.connections.stateChanged,
        s.connections.stateChanged, s.connections.stateChanged, s.connections.stateChanged⟩) ∧
    ui.connections.stateChanged
        + (ui.lightControllerConnection.doomed.map fun s => s.connections.stateChanged).sum
      < ui.lightControllerConnection.timeoutConnections ∧
    ui.lightControllerConnection.timeoutConnections ≤ 2 ^ es.countP UiEvent.isTimeout := by
  have hlaw : ui.lightControllerConnection.WiringLaw :=
    run_invariant (I := fun ui => ui.lightControllerConnection.WiringLaw)
      (fun _ _ _ => step_kept_of_slots secureConnect_wiringLaw fun hc hslot =>
        have ⟨⟨_, hperm⟩, htimer⟩ := slot_wires hslot
        hc.of_perm hperm htimer) es (wiringLaw_start port) h
  refine ⟨?_, ?_, timeoutConnections_le h⟩
  · intro s hs
    refine hlaw.uniform s.connections (List.mem_map_of_mem ?_)
    rw [List.mem_append, Option.mem_toList]
    exact hs
  · have hbounded := hlaw.bounded
    rw [wires, List.map_append, List.map_append, List.sum_append, List.map_map, List.map_map]
      at hbounded
    refine lt_of_le_of_lt (Nat.add_le_add_right ?_ _) hbounded
    rw [connections]
    cases ui.lightControllerConnection.socket <;> simp [SocketConnections.zero]

/-- **The storm.**  In every run all of whose attempts fail while the call of `secure_connect` runs,
whenever the address is found and whatever else happens, each timeout doubles the connections of the
timer, and with them the calls of `secure_connect` that the next timeout makes. -/
theorem reconnect_storm (h : run step (start port) es = some ui)
    (hfailed : ∀ attempts, .timeout attempts ∈ es → ∀ k, (attempts k).failed = true) :
    ui.lightControllerConnection.timeoutConnections = 2 ^ es.countP UiEvent.isTimeout ∧
      ui.lightControllerConnection.reconnectTimerActive = true := by
  have hstorm : (∀ attempts, .timeout attempts ∈ es → ∀ k, (attempts k).failed = true) →
      ui.lightControllerConnection.Offline ∧
        ui.lightControllerConnection.timeoutConnections = 2 ^ es.countP UiEvent.isTimeout := by
    refine run_history_invariant (I := fun es ui =>
      (∀ attempts, .timeout attempts ∈ es → ∀ k, (attempts k).failed = true) →
      ui.lightControllerConnection.Offline ∧
        ui.lightControllerConnection.timeoutConnections = 2 ^ es.countP UiEvent.isTimeout)
      (fun _ => ⟨⟨Or.inr rfl, rfl⟩, rfl⟩) ?_ es h
    intro es ui e ui' _ ih hstep hall
    rcases ih fun attempts hmem => hall attempts (List.mem_append_left _ hmem) with ⟨hoff, ht⟩
    rw [List.countP_append, List.countP_singleton]
    cases he : e.isTimeout with
    | false =>
        rcases step_slots he hstep with ⟨slots, hrun, -⟩
        have hsame := run_unchanged (f := timeoutConnections) (fun _ _ _ h => (slot_wires h).2)
          slots hrun
        exact ⟨run_invariant (fun _ _ _ => slot_offline) slots hoff hrun, hsame.trans ht⟩
    | true =>
        cases e with
        | timeout attempts =>
            rcases onClient_eq_some.mp hstep with ⟨c', hc', rfl⟩
            rcases timeout_offline (hall attempts (by simp)) hoff hc' with ⟨hoff', ht'⟩
            refine ⟨hoff', ht'.trans ?_⟩
            rw [ht, if_pos rfl, Nat.pow_succ, Nat.mul_comm]
        | _ => cases he
  exact ⟨(hstorm hfailed).2, (hstorm hfailed).1.2⟩

/-- The address is found between two timeouts, but the controller is not there. -/
def unreachable : List UiEvent :=
  [.timeout fun _ => ⟨[], true⟩,
    .resolverFound (literal "hall") ⟨literal "fe80::1", 48049, .inet6⟩,
    .timeout fun _ => ⟨[], true⟩, .disconnected, .timeout fun _ => ⟨[], true⟩]

/-- After the three timeouts of `unreachable` the timer has eight connections. -/
theorem reconnect_storm_unreachable : ∃ ui, run step (start 0) unreachable = some ui ∧
    ui.lightControllerConnection.timeoutConnections = 8 := by
  have hrun : (run step (start 0) unreachable).isSome := by decide
  rcases Option.isSome_iff_exists.mp hrun with ⟨ui, h⟩
  refine ⟨ui, h, (reconnect_storm h ?_).1⟩
  intro attempts hmem k
  simp only [unreachable, List.mem_cons, UiEvent.timeout.injEq, reduceCtorEq, List.not_mem_nil,
    or_false, false_or, or_self] at hmem
  rw [hmem]

/-- The sockets of `unreachable` together have fewer connections than the timer. -/
theorem wiring_law_unreachable : ∃ ui, run step (start 0) unreachable = some ui ∧
    (ui.lightControllerConnection.doomed.map fun s => s.connections.stateChanged).sum
      < ui.lightControllerConnection.timeoutConnections := by
  have hrun : (run step (start 0) unreachable).isSome := by decide
  rcases Option.isSome_iff_exists.mp hrun with ⟨ui, h⟩
  exact ⟨ui, h, lt_of_le_of_lt (Nat.le_add_left _ _) (wiring_law h).2.1⟩

end LightControllerRemoteUi

end LightControl

import LightControl.Controller.Program

/-!
# Who may command the light

The slot that takes the commands is connected before the encryption is set up, and it never asks
whether a socket is encrypted.  That only verified peers are heard rests on the branches of
`startServerEncryption`: one that gives up has to close the connection.

* `step_object` — what one event can do to one socket object.
* `guarded_of_run` — with every connection closed or handshaking after its set-up, a socket has
  received bytes only after its handshake was completed.
* `commandsVerified_iff` — the one outcome of a set-up that breaks this is the one that only warns.
-/

namespace LightControl

open Objects Runs

/-- The outcome of a set-up for which `startServerEncryption` prints a warning and nothing else:
the connection is up, and no handshake is started on it. -/
def Setup.WarnsOnly (setup : Setup) : Prop :=
  setup.descriptorSet = true ∧ setup.keyFileOpens = true ∧ setup.keyIsGood = true ∧
    setup.caCertificatesAdded = false

namespace Program

variable {charSigned : Bool} {p p' p₀ : Program} {e : Event} {es : List Event} {k : ℕ}
  {c c' : ServerSocket}

/-- A handshake of connection `k` was completed among the events `es`, with a verified peer, and
nothing had been received on the connection before. -/
def VerifiedBefore (charSigned : Bool) (p₀ : Program) (es : List Event) (k : ℕ) : Prop :=
  ∃ pre post q c, es = pre ++ .handshakeEnds k true :: post ∧
    run (step charSigned) p₀ pre = some q ∧ q.cmdServer.sockets.get k = some c ∧
    c.connected = true ∧ c.mode = .handshaking ∧ c.received = []

/-- **The law for one run**: every command that is handed on is a line read from a connection on
which a verified handshake was completed before anything was received. -/
def CommandsVerified (charSigned : Bool) (p₀ : Program) (es : List Event) : Prop :=
  ∀ pre i r post p p' cmd, es = pre ++ .readyRead i r :: post →
    run (step charSigned) p₀ pre = some p → p.readyRead i r = some p' →
    p'.executed = p.executed ++ [cmd] →
    ∃ k c, p.cmdServer.deref = some (k, c) ∧ cmd = QString.fromUtf8 (c.readLine 256).1 ∧
      VerifiedBefore charSigned p₀ pre k

lemma served_received (c : ServerSocket) : (served c).received = c.received := by
  have hread : (c.readLine 256).2.received = c.received := by
    simp only [ServerSocket.received, ServerSocket.readLine, List.append_assoc,
      readLine_append_drop]
  simp only [served]
  split
  case isTrue =>
    simp only [ServerSocket.write]
    split
    case isTrue => exact hread
    case isFalse => exact hread
  case isFalse => exact hread

/-! ## What one event does to one socket -/

/-- Where the object `c'` behind the pointer `k` comes from in one step. -/
inductive ObjectStep (p : Program) (e : Event) (k : ℕ) (c' : ServerSocket) : Prop
  /-- It was there, with the same bytes and in the same state. -/
  | kept (c : ServerSocket) (hget : p.cmdServer.sockets.get k = some c)
      (hconn : c'.connected = c.connected) (hmode : c'.mode = c.mode)
      (hrecv : c'.received = c.received)
  /-- It is new. -/
  | accepted (setup : Setup) (he : e = .incomingConnection setup)
      (hset : setup.descriptorSet = true)
      (heq : c' = LightControllerSslsock.startServerEncryption setup
        { ServerSocket.new with connected := true })
  /-- Its handshake has ended. -/
  | handshakeEnded (c : ServerSocket) (verified : Bool)
      (hget : p.cmdServer.sockets.get k = some c) (he : e = .handshakeEnds k verified)
      (hmode : c.mode = .handshaking)
      (heq : c' = if verified then { c with mode := .encrypted }
        else { c with connected := false })
  /-- Bytes have arrived. -/
  | arrived (c : ServerSocket) (bytes : List UInt8)
      (hget : p.cmdServer.sockets.get k = some c) (he : e = .bytesArrive k bytes)
      (hconn : c.connected = true) (hmode : c.mode ≠ .handshaking)
      (heq : c' = { c with buffer := c.buffer ++ bytes })

lemma step_object (h : p.step charSigned e = some p')
    (hget : p'.cmdServer.sockets.get k = some c') : ObjectStep p e k c' := by
  cases e with
  | incomingConnection setup =>
      cases h
      simp only [LightControllerSslsock.incomingConnection] at hget
      split at hget
      case isTrue hset =>
        rw [get_create] at hget
        split at hget
        case isTrue => exact .accepted setup rfl hset (Option.some.inj hget).symm
        case isFalse => exact .kept c' hget rfl rfl rfl
      case isFalse hset =>
        rw [get_delete] at hget
        split at hget
        case isTrue => cases hget
        case isFalse hne =>
          rw [get_create, if_neg hne] at hget
          exact .kept c' hget rfl rfl rfl
  | handshakeEnds i verified =>
      cases h
      simp only at hget
      rcases p.cmdServer.handshakeEnds_cases i verified with heq | ⟨c, hc, hmode, heq⟩
      · rw [heq] at hget
        exact .kept c' hget rfl rfl rfl
      · rw [heq] at hget
        rcases LightControllerSslsock.get_of_assign hc hget with ⟨rfl, rfl⟩ | hget
        · exact .handshakeEnded c verified hc rfl hmode rfl
        · exact .kept c' hget rfl rfl rfl
  | bytesArrive i bytes =>
      cases h
      simp only at hget
      rcases p.cmdServer.bytesArrive_cases i bytes with heq | ⟨c, hc, hconn, hmode, heq⟩
      · rw [heq] at hget
        exact .kept c' hget rfl rfl rfl
      · rw [heq] at hget
        rcases LightControllerSslsock.get_of_assign hc hget with ⟨rfl, rfl⟩ | hget
        · exact .arrived c bytes hc rfl hconn hmode rfl
        · exact .kept c' hget rfl rfl rfl
  | readyRead i r =>
      rcases readyRead_cases h with ⟨-, rfl⟩ | ⟨-, j, c, hderef, rfl⟩
      · exact .kept c' hget rfl rfl rfl
      · have hc := (LightControllerSslsock.deref_eq_some.mp hderef).2
        rw [delivered_sockets] at hget
        rcases LightControllerSslsock.get_of_assign hc hget with ⟨rfl, rfl⟩ | hget
        · exact .kept c hc (served_connected c) (served_mode c) (served_received c)
        · exact .kept c' hget rfl rfl rfl
  | _ =>
      cases h
      exact .kept c' hget rfl rfl rfl

/-! ## Runs without that warning -/

lemma VerifiedBefore.mono (h : VerifiedBefore charSigned p₀ es k) (e : Event) :
    VerifiedBefore charSigned p₀ (es ++ [e]) k := by
  rcases h with ⟨pre, post, q, c, rfl, hrest⟩
  exact ⟨pre, post ++ [e], q, c, by simp, hrest⟩

/-- **The invariant**: nothing is received during a handshake, and a connection that passes on
bytes, or has done so, was verified. -/
def Guarded (charSigned : Bool) (p₀ : Program) (es : List Event) (p : Program) : Prop :=
  ∀ k c, p.cmdServer.sockets.get k = some c →
    (c.mode = .handshaking → c.received = []) ∧
    (c.PassesOn ∨ c.received ≠ [] → VerifiedBefore charSigned p₀ es k)

/-- A new connection that does not merely warn is closed or starts its handshake. -/
lemma startServerEncryption_guarded {setup : Setup} (hset : setup.descriptorSet = true)
    (hwarn : ¬ setup.WarnsOnly) :
    (LightControllerSslsock.startServerEncryption setup
      { ServerSocket.new with connected := true }).received = [] ∧
    ¬ (LightControllerSslsock.startServerEncryption setup
      { ServerSocket.new with connected := true }).PassesOn := by
  rcases setup with ⟨descriptorSet, keyFileOpens, keyIsGood, caCertificatesAdded⟩
  obtain rfl : descriptorSet = true := hset
  simp only [Setup.WarnsOnly, true_and] at hwarn
  simp only [LightControllerSslsock.startServerEncryption, ServerSocket.PassesOn]
  cases keyFileOpens with
  | false => exact ⟨rfl, fun h => absurd h.1 (by simp)⟩
  | true =>
      cases keyIsGood with
      | false => exact ⟨rfl, fun h => absurd h.1 (by simp)⟩
      | true =>
          cases caCertificatesAdded with
          | false => exact absurd ⟨rfl, rfl, rfl⟩ hwarn
          | true => exact ⟨rfl, fun h => h.2 rfl⟩

lemma guarded_step (hrun : run (step charSigned) p₀ es = some p)
    (hwarn : ∀ setup, e = .incomingConnection setup → ¬ setup.WarnsOnly)
    (hp : Guarded charSigned p₀ es p) (h : p.step charSigned e = some p') :
    Guarded charSigned p₀ (es ++ [e]) p' := by
  intro k c' hget
  cases step_object h hget with
  | kept c hc hconn hmode hrecv =>
      rcases hp k c hc with ⟨hnone, hverified⟩
      rw [hmode, hrecv, ServerSocket.PassesOn, hconn, hmode]
      exact ⟨hnone, fun hpass => (hverified hpass).mono e⟩
  | accepted setup he hset heq =>
      rcases startServerEncryption_guarded hset (hwarn setup he) with ⟨hrecv, hpass⟩
      rw [heq]
      refine ⟨fun _ => hrecv, ?_⟩
      rintro (hopen | hne)
      · exact absurd hopen hpass
      · exact absurd hrecv hne
  | handshakeEnded c verified hc he hmode heq =>
      have hrecv := (hp k c hc).1 hmode
      subst he heq
      cases verified with
      | true =>
          refine ⟨fun hm => absurd hm (by simp), ?_⟩
          rintro (hopen | hne)
          · -- this is the handshake that was completed
            exact ⟨es, [], p, c, rfl, hrun, hc, hopen.1, hmode, hrecv⟩
          · exact absurd hrecv hne
      | false =>
          refine ⟨fun _ => hrecv, ?_⟩
          rintro (hopen | hne)
          · exact absurd hopen.1 (by simp)
          · exact absurd hrecv hne
  | arrived c bytes hc he hconn hmode heq =>
      subst heq
      refine ⟨fun hm => absurd hm hmode, ?_⟩
      intro _
      exact ((hp k c hc).2 (Or.inl ⟨hconn, hmode⟩)).mono e

/-- **Only verified peers are heard**, in a run none of whose connections was set up with a mere
warning. -/
lemma guarded_of_run (hstart : p₀.cmdServer = .new)
    (hwarn : ∀ setup, .incomingConnection setup ∈ es → ¬ setup.WarnsOnly)
    (h : run (step charSigned) p₀ es = some p) : Guarded charSigned p₀ es p := by
  refine run_history_invariant (I := fun es q =>
    (∀ setup, Event.incomingConnection setup ∈ es → ¬ setup.WarnsOnly) →
      Guarded charSigned p₀ es q) ?_ ?_ es h hwarn
  · intro _ k c hget
    rw [hstart] at hget
    cases hget
  · intro es q e q' hrun hq hstep hall
    refine guarded_step hrun ?_ (hq ?_) hstep
    · intro setup he
      exact hall setup (by simp [he])
    · intro setup hmem
      exact hall setup (by simp [hmem])

lemma commandsVerified_of_setups (hstart : p₀.cmdServer = .new)
    (hwarn : ∀ setup, .incomingConnection setup ∈ es → ¬ setup.WarnsOnly) :
    CommandsVerified charSigned p₀ es := by
  intro pre i r post p p' cmd hes hrun hread hcmd
  rcases readyRead_cases hread with ⟨-, rfl⟩ | ⟨-, k, c, hderef, rfl⟩
  · simp at hcmd
  · refine ⟨k, c, hderef, (delivered_command hcmd).2, ?_⟩
    have hguarded : Guarded charSigned p₀ pre p := by
      refine guarded_of_run hstart ?_ hrun
      intro setup hmem
      exact hwarn setup (by simp [hes, hmem])
    refine (hguarded k c (LightControllerSslsock.deref_eq_some.mp hderef).2).2 (Or.inr ?_)
    -- a command has at least two bytes, and they were received
    intro hrecv
    have hempty : c.buffer = [] := (List.append_eq_nil_iff.mp hrecv).2
    have hlong := (delivered_command hcmd).1
    rw [c.readLine_of_buffer_nil hempty] at hlong
    simp at hlong

/-! ## The run with the warning -/

/-- The socket of a connection that was set up with a mere warning, and on which a command has
arrived. -/
def unverifiedSocket : ServerSocket :=
  { ServerSocket.new with connected := true, buffer := toggleOnOff.toUtf8 }

/-- Its client connects and sends that command. -/
def unverifiedClient : List Event :=
  [.incomingConnection ⟨true, true, true, false⟩, .bytesArrive 0 toggleOnOff.toUtf8]

lemma not_verifiedBefore_unverifiedClient : ¬ VerifiedBefore charSigned p₀ unverifiedClient k := by
  rintro ⟨pre, post, q, c, hes, -⟩
  have hmem : Event.handshakeEnds k true ∈ unverifiedClient := by simp [hes]
  simp [unverifiedClient] at hmem

lemma not_commandsVerified_unverifiedClient (hstart : p₀.cmdServer = .new) :
    ¬ CommandsVerified charSigned p₀ (unverifiedClient ++ [.readyRead 0 0]) := by
  intro h
  let p : Program := { p₀ with cmdServer := ⟨[some unverifiedSocket], some 0, []⟩ }
  have hrun : run (step charSigned) p₀ unverifiedClient = some p := by
    rcases p₀ with ⟨window, light, power, server, executed, exits⟩
    obtain rfl : server = .new := hstart
    rfl
  have hderef : p.cmdServer.deref = some (0, unverifiedSocket) := rfl
  have hlong : ¬ (unverifiedSocket.readLine 256).1.length < 2 := by decide
  have hexec : (p.delivered 0 unverifiedSocket 0).executed
      = p.executed ++ [QString.fromUtf8 (unverifiedSocket.readLine 256).1] := by
    rw [delivered_executed, if_neg hlong]
  rcases h unverifiedClient 0 0 [] p _ _ rfl hrun (readyRead_eq 0 rfl hderef) hexec with
    ⟨k, c, -, -, hverified⟩
  exact not_verifiedBefore_unverifiedClient hverified

/-- **Which set-ups keep strangers out.**  Whatever outcomes of a set-up may occur: in every run
of the constructed program with no others, only verified peers are heard, if and only if the one
outcome that merely warns is not among them. -/
theorem commandsVerified_iff (charSigned : Bool) (clock : ℕ) (lightLast powerLast : ℤ)
    (io : I2cOutcome) (allowed : Setup → Prop) :
    (∀ es, (∀ setup, .incomingConnection setup ∈ es → allowed setup) →
        CommandsVerified charSigned (start charSigned clock lightLast powerLast io) es) ↔
      ∀ setup, allowed setup → ¬ setup.WarnsOnly := by
  constructor
  · rintro h ⟨descriptorSet, keyFileOpens, keyIsGood, caCertificatesAdded⟩ hallowed
    rintro ⟨hset, hopen, hkey, hca⟩
    simp only at hset hopen hkey hca
    refine not_commandsVerified_unverifiedClient rfl (h _ ?_)
    intro setup hmem
    rw [hset, hopen, hkey, hca] at hallowed
    have hsetup : setup = ⟨true, true, true, false⟩ := by simpa [unverifiedClient] using hmem
    rw [hsetup]
    exact hallowed
  · intro hwarn es hes
    refine commandsVerified_of_setups rfl ?_
    intro setup hmem
    exact hwarn setup (hes setup hmem)

/-- **A stranger commands the light** when the CA certificates cannot be loaded. -/
theorem not_commandsVerified :
    ¬ ∀ (charSigned : Bool) (clock : ℕ) (lightLast powerLast : ℤ) (io : I2cOutcome)
      (es : List Event),
      CommandsVerified charSigned (start charSigned clock lightLast powerLast io) es := by
  intro h
  exact not_commandsVerified_unverifiedClient rfl (h false 0 0 0 ⟨0, some 0, some 0⟩ _)

end Program

end LightControl

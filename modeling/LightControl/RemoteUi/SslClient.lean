import LightControl.Core.Runs
import LightControl.Qt.QString

/-!
# The client of the remote UI

`ssl_client.cpp`: one member, `socket`, holds the pointer to the current socket object, the slots
are connected to its signals by hand, and a timer calls `secure_connect` again after a failure.

A slot that works on a null `socket` fails (`none`).  `connect` adds a connection at every call,
so the connections are counted, and a signal runs its slot once for each (`Runs.times`).  What Qt
does when it is told to connect is an input (`Attempt`).

What arrives from the controller, `remote_line`, is left out: nothing looks at it.
-/

namespace LightControl

open Runs

/-- `QAbstractSocket::SocketState`, as far as a client's socket has it. -/
inductive SocketState
  | unconnected
  | hostLookup
  | connecting
  | connected
  | closing
  deriving DecidableEq, Repr

/-- A connection is made, being made or being closed. -/
def SocketState.InProgress (state : SocketState) : Prop := state ≠ .unconnected

instance (state : SocketState) : Decidable state.InProgress :=
  inferInstanceAs (Decidable (state ≠ .unconnected))

theorem SocketState.inProgress_connecting : SocketState.connecting.InProgress := by decide

/-- How often each signal of a socket is connected to its slot. -/
structure SocketConnections where
  stateChanged : ℕ
  encrypted : ℕ
  sslErrors : ℕ
  readyRead : ℕ
  disconnected : ℕ
  deriving DecidableEq, Repr

/-- A new socket's signals are not connected. -/
def SocketConnections.zero : SocketConnections := ⟨0, 0, 0, 0, 0⟩

/-- One more connection of each signal. -/
def SocketConnections.connect (n : SocketConnections) : SocketConnections where
  stateChanged := n.stateChanged + 1
  encrypted := n.encrypted + 1
  sslErrors := n.sslErrors + 1
  readyRead := n.readyRead + 1
  disconnected := n.disconnected + 1

/-- A `QSslSocket` of the client, with the bytes written to it. -/
structure ClientSocket where
  state : SocketState
  connections : SocketConnections
  written : List UInt8
  deriving DecidableEq, Repr

/-- `new QSslSocket(this)`. -/
def ClientSocket.new : ClientSocket := ⟨.unconnected, .zero, []⟩

/-- The signals of the client itself. -/
inductive ClientSignal
  | socketUp
  | socketDown
  deriving DecidableEq, Repr

/-- What Qt does when it is told to connect, as long as the call runs: the states in progress that
it reports, and whether it gives up in the end and reports the unconnected state. -/
structure Attempt where
  reports : List {state : SocketState // state.InProgress}
  failed : Bool

/-- `SslClient`.  `doomed` are the sockets that wait for their deletion, and `emitted` the signals
the client has emitted. -/
structure SslClient where
  lightControllerHostNameOrIp : QString
  lightControllerPort : ℕ
  socket : Option ClientSocket
  doomed : List ClientSocket
  reconnectTimerActive : Bool
  timeoutConnections : ℕ
  emitted : List ClientSignal
  deriving DecidableEq, Repr

namespace SslClient

/-- The constructor; the port is not initialised. -/
def new (lightControllerPort : ℕ) : SslClient where
  lightControllerHostNameOrIp := []
  lightControllerPort := lightControllerPort
  socket := none
  doomed := []
  reconnectTimerActive := false
  timeoutConnections := 0
  emitted := []

/-- `set_server_ip`. -/
def setServerIp (c : SslClient) (hostNameOrIp : QString) : SslClient :=
  { c with lightControllerHostNameOrIp := hostNameOrIp }

/-- `is_server_ip_set`. -/
def isServerIpSet (c : SslClient) : Bool := !c.lightControllerHostNameOrIp.isEmpty

/-- `set_server_port`. -/
def setServerPort (c : SslClient) (port : ℕ) : SslClient := { c with lightControllerPort := port }

/-- `get_socket_state`. -/
def getSocketState (c : SslClient) : Option SocketState := c.socket.map ClientSocket.state

/-! ## The slots of the socket's signals -/

/-- `socket_state_changed`; the line that logs the state of the socket works on the socket
first. -/
def socketStateChanged (c : SslClient) (state : SocketState) : Option SslClient :=
  c.socket.map fun socket =>
    match state with
    | .unconnected => { c with
        emitted := c.emitted ++ [.socketDown]
        doomed := c.doomed ++ [socket]
        socket := none
        reconnectTimerActive := true }
    | .connected => { c with
        emitted := c.emitted ++ [.socketUp]
        reconnectTimerActive := false }
    | _ => c

/-- `socket_encrypted`, which only logs, and checks the pointer. -/
def socketEncrypted (c : SslClient) : Option SslClient := some c

/-- `socket_ready_read`. -/
def socketReadyRead (c : SslClient) : Option SslClient := c.socket.map fun _ => c

/-- `socket_disconnected`. -/
def socketDisconnected (c : SslClient) : Option SslClient :=
  some { c with reconnectTimerActive := true }

/-- `ssl_errors`. -/
def sslErrors (c : SslClient) : Option SslClient :=
  c.socket.bind fun socket =>
    if socket.state ≠ .connected then c.socketStateChanged socket.state else some c

/-! ## Connecting -/

/-- The current socket changes its state and reports it. -/
def report (c : SslClient) (state : SocketState) : Option SslClient :=
  match c.socket with
  | some socket =>
      times (fun c => c.socketStateChanged state) socket.connections.stateChanged
        { c with socket := some { socket with state := state } }
  | none => some c

/-- The states in progress that an attempt reports: a socket that is not connected starts with the
host lookup. -/
def progress (c : SslClient) (attempt : Attempt) : List SocketState :=
  (if c.getSocketState = some .unconnected then [.hostLookup] else [])
    ++ attempt.reports.map Subtype.val

/-- `connectToHostEncrypted` on the current socket. -/
def connectToHostEncrypted (c : SslClient) (attempt : Attempt) : Option SslClient :=
  run report c (c.progress attempt ++ if attempt.failed then [.unconnected] else [])

/-- `secure_connect`. -/
def secureConnect (c : SslClient) (attempt : Attempt) : Option SslClient :=
  let socket := c.socket.getD ClientSocket.new
  if socket.state = .connected ∨ socket.state = .connecting then
    some { c with socket := some socket, reconnectTimerActive := false }
  else if c.lightControllerHostNameOrIp = [] then
    some { c with
      socket := some socket
      timeoutConnections := c.timeoutConnections + 1
      reconnectTimerActive := true }
  else
    connectToHostEncrypted { c with
      socket := some { socket with connections := socket.connections.connect }
      timeoutConnections := c.timeoutConnections + 1 } attempt

/-- A timeout of the reconnect timer, with what comes of each call of `secure_connect` that it
makes. -/
def timeout (c : SslClient) (attempts : ℕ → Attempt) : Option SslClient :=
  if c.reconnectTimerActive then
    run secureConnect c ((List.range c.timeoutConnections).map attempts)
  else some c

/-! ## Sending -/

/-- `send_data`. -/
def sendData (c : SslClient) (cmd : QString) : Option SslClient :=
  c.socket.map fun socket =>
    if socket.state = .connected then
      { c with socket := some { socket with written := socket.written ++ cmd.toUtf8 } }
    else c

end SslClient

end LightControl

import LightControl.RemoteUi.SslClient
import LightControl.Controller.LightController

/-!
# The remote UI

`light_controller_remote_ui.cpp` and the part of the service browser that it uses: the window
with its group of controls, which is enabled as long as the client says that its socket is up, the
poll timer, and the discovery of the controller's address.

`LightControllerRemoteUi.step` is one event.  It fails where a slot of the client works on a null
socket.
-/

namespace LightControl

open QString Runs

/-- `AvahiProtocol`; `inet` has the number 0. -/
inductive AvahiProtocol
  | inet
  | inet6
  | unspec
  deriving DecidableEq, Repr

/-- `ZConfServiceEntry`, the part that `service_found` looks at. -/
structure ZConfServiceEntry where
  ip : QString
  port : ℕ
  protocol : AvahiProtocol
  deriving DecidableEq, Repr

/-- `protocolName`. -/
def ZConfServiceEntry.protocolName (entry : ZConfServiceEntry) : QString :=
  match entry.protocol with
  | .inet => literal "IPv4"
  | .inet6 => literal "IPv6"
  | .unspec => literal "Unspecified"

/-- `light_controller_remote_ui`; `entries` is the table of the service browser, latest entry
first. -/
structure LightControllerRemoteUi where
  lightControllerConnection : SslClient
  entries : List (QString × ZConfServiceEntry)
  deriving DecidableEq, Repr

/-- What can happen to the window.  `stateChanged`, `sslErrors`, `encrypted`, `readyRead` and
`disconnected` are the signals of the client's socket, `deferredDelete` the deletion of the
sockets that wait for it. -/
inductive UiEvent
  | timeout (attempts : ℕ → Attempt)
  | lightStatePoll
  | toggleOnOff
  | resetToDefault
  | dimmerSlider (value : UInt16)
  | resolverFound (name : QString) (entry : ZConfServiceEntry)
  | browserRemove (name : QString)
  | stateChanged (state : SocketState)
  | sslErrors
  | encrypted
  | readyRead
  | disconnected
  | deferredDelete

namespace LightControllerRemoteUi

/-! ## The slots -/

/-- `socket_up`, on the group of controls. -/
def socketUp (_enabled : Bool) : Bool := true

/-- `socket_down`, on the group of controls. -/
def socketDown (_enabled : Bool) : Bool := false

/-- Whether the group of controls is enabled: it starts disabled, and each signal of the client
runs its slot. -/
def controlsEnabled (ui : LightControllerRemoteUi) : Bool :=
  ui.lightControllerConnection.emitted.foldl (fun enabled signal =>
    match signal with
    | .socketUp => socketUp enabled
    | .socketDown => socketDown enabled) false

/-- `serviceEntry`: an unknown name has a value-initialised entry, whose protocol is the one with
the number 0. -/
def serviceEntry (ui : LightControllerRemoteUi) (name : QString) : ZConfServiceEntry :=
  (ui.entries.lookup name).getD ⟨[], 0, .inet⟩

/-- `service_found`. -/
def serviceFound (ui : LightControllerRemoteUi) (serviceString : QString) :
    LightControllerRemoteUi :=
  if ui.lightControllerConnection.isServerIpSet then ui
  else
    let thisService := ui.serviceEntry serviceString
    let moddedLocalAddress :=
      if thisService.protocolName = literal "IPv6" ∧
          (literal "fe80::").isPrefixOf thisService.ip then
        thisService.ip ++ literal "%eth0"
      else thisService.ip
    { ui with
      lightControllerConnection := ui.lightControllerConnection
        |>.setServerIp moddedLocalAddress
        |>.setServerPort thisService.port }

/-- `read_remote_light_controller`. -/
def readRemoteLightController (ui : LightControllerRemoteUi) : Option SslClient :=
  ui.lightControllerConnection.getSocketState.bind fun state =>
    if state = .connected then ui.lightControllerConnection.sendData getLightState
    else some ui.lightControllerConnection

/-- `toggle_on_off_clicked`. -/
def toggleOnOffClicked (ui : LightControllerRemoteUi) : Option SslClient :=
  ui.lightControllerConnection.sendData toggleOnOff

/-- `on_reset_to_default_clicked`. -/
def onResetToDefaultClicked (ui : LightControllerRemoteUi) : Option SslClient :=
  ui.lightControllerConnection.sendData resetToDefault

/-- `light_controller_dimmer_set`; `QString(value)` is the one character with that code. -/
def lightControllerDimmerSet (ui : LightControllerRemoteUi) (value : UInt16) : Option SslClient :=
  ui.lightControllerConnection.sendData (literal "light_controller_dimmer" ++ [value])

/-! ## Events -/

/-- The window when its constructor is done: the client has made its first call of
`secure_connect`.  Without an address that call comes to no attempt. -/
def start (lightControllerPort : ℕ) : LightControllerRemoteUi where
  lightControllerConnection :=
    ((SslClient.new lightControllerPort).secureConnect ⟨[], false⟩).get rfl
  entries := []

/-- What that call leaves: a socket that is not used yet, and the timer. -/
lemma start_lightControllerConnection (lightControllerPort : ℕ) :
    (start lightControllerPort).lightControllerConnection
      = { SslClient.new lightControllerPort with
          socket := some .new
          reconnectTimerActive := true
          timeoutConnections := 1 } := rfl

/-- It leaves the same whatever Qt would do. -/
lemma secureConnect_new (lightControllerPort : ℕ) (attempt : Attempt) :
    (SslClient.new lightControllerPort).secureConnect attempt
      = some (start lightControllerPort).lightControllerConnection := rfl

/-- The client does something, and the window goes on with it. -/
def onClient (ui : LightControllerRemoteUi) (c : Option SslClient) :
    Option LightControllerRemoteUi :=
  c.map fun c => { ui with lightControllerConnection := c }

/-- How often each signal of the current socket is connected; without a socket, not at all. -/
def connections (ui : LightControllerRemoteUi) : SocketConnections :=
  (ui.lightControllerConnection.socket.map ClientSocket.connections).getD .zero

/-- How often `disconnected` of some socket of the client, doomed ones included, is connected. -/
def disconnectedConnections (ui : LightControllerRemoteUi) : ℕ :=
  ui.connections.disconnected
    + (ui.lightControllerConnection.doomed.map fun s => s.connections.disconnected).sum

/-- One event. -/
def step (ui : LightControllerRemoteUi) : UiEvent → Option LightControllerRemoteUi
  | .timeout attempts => ui.onClient (ui.lightControllerConnection.timeout attempts)
  | .lightStatePoll => ui.onClient ui.readRemoteLightController
  | .toggleOnOff => if ui.controlsEnabled then ui.onClient ui.toggleOnOffClicked else some ui
  | .resetToDefault =>
      if ui.controlsEnabled then ui.onClient ui.onResetToDefaultClicked else some ui
  | .dimmerSlider value =>
      if ui.controlsEnabled then ui.onClient (ui.lightControllerDimmerSet value) else some ui
  | .resolverFound name entry =>
      some (serviceFound { ui with entries := (name, entry) :: ui.entries } name)
  | .browserRemove name =>
      some { ui with entries := ui.entries.filter fun e => e.1 ≠ name }
  | .stateChanged state =>
      -- only a socket with a connection in progress has news of its state
      if ui.lightControllerConnection.getSocketState.any fun s => s ≠ .unconnected then
        ui.onClient (ui.lightControllerConnection.report state)
      else some ui
  | .sslErrors =>
      ui.onClient (times SslClient.sslErrors ui.connections.sslErrors ui.lightControllerConnection)
  | .encrypted =>
      ui.onClient
        (times SslClient.socketEncrypted ui.connections.encrypted ui.lightControllerConnection)
  | .readyRead =>
      ui.onClient
        (times SslClient.socketReadyRead ui.connections.readyRead ui.lightControllerConnection)
  | .disconnected =>
      ui.onClient (times SslClient.socketDisconnected ui.disconnectedConnections
        ui.lightControllerConnection)
  | .deferredDelete =>
      some { ui with lightControllerConnection :=
        { ui.lightControllerConnection with doomed := [] } }

end LightControllerRemoteUi

end LightControl

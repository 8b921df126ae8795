import LightControl.Transport.ChunkIndependence
import LightControl.Transport.Soundness
import LightControl.Transport.TextFrame
import LightControl.Transport.FrameBounds
import LightControl.Transport.HeldFrames
import LightControl.Transport.Resync
import LightControl.Controller.OccupancyWindow
import LightControl.Controller.Hysteresis
import LightControl.Controller.ToggleVisible
import LightControl.Controller.Presence
import LightControl.Controller.LightLevel
import LightControl.Controller.VerifiedPeers
import LightControl.Controller.ShortReads
import LightControl.Controller.FailedReads
import LightControl.Controller.ConnectionIsolation
import LightControl.Controller.RefusedConnection
import LightControl.RemoteUi.Reconnect
import LightControl.RemoteUi.NullSafety
import LightControl.RemoteUi.Wiring
import LightControl.RemoteUi.Discovery
import LightControl.System.CommandChannel
import LightControl.Controller.Switching
import LightControl.Controller.ServerLedger
import LightControl.Controller.SharedBus
import LightControl.Transport.Recovery
import LightControl.Transport.Handlers
import LightControl.System.RemoteSwitch
import LightControl.RemoteUi.Controls
import LightControl.RemoteUi.Announcements
import LightControl.Zeroconf.QtWatch
import LightControl.System.LocalNetwork

import Rtc2Tcp.Lib.Octets
import Rtc2Tcp.Go.Runes
import Rtc2Tcp.Go.Strings
import Rtc2Tcp.Go.Base64
import Rtc2Tcp.Config.PeerMode
import Rtc2Tcp.Config.Endpoint
import Rtc2Tcp.Auth.Types
import Rtc2Tcp.Auth.Authenticator
import Rtc2Tcp.Auth.Transcript
import Rtc2Tcp.Auth.Steps
import Rtc2Tcp.Auth.Calls
import Rtc2Tcp.Auth.Handshake
import Rtc2Tcp.Auth.Rebind
import Rtc2Tcp.Auth.Agreement
import Rtc2Tcp.Lib.Goroutine
import Rtc2Tcp.Lib.Custody
import Rtc2Tcp.WebRTC.Binding
import Rtc2Tcp.WebRTC.Roles
import Rtc2Tcp.WebRTC.Candidates
import Rtc2Tcp.WebRTC.Shutdown
import Rtc2Tcp.Rendezvous.Teardown
import Rtc2Tcp.Rendezvous.Notices
import Rtc2Tcp.Lib.TokenBucket
import Rtc2Tcp.Go.IP
import Rtc2Tcp.Config.Address
import Rtc2Tcp.Rendezvous.Proxy
import Rtc2Tcp.Rendezvous.RateLimit
import Rtc2Tcp.Rendezvous.Frame
import Rtc2Tcp.Rendezvous.Eviction
import Rtc2Tcp.Peer.RunPeer
import Rtc2Tcp.Peer.Network
import Rtc2Tcp.Peer.Events
import Rtc2Tcp.Peer.SignalOrder
import Rtc2Tcp.Peer.BrokerLoss
import Rtc2Tcp.Lib.Pipe
import Rtc2Tcp.Go.Net
import Rtc2Tcp.Socks5.Target
import Rtc2Tcp.Tunnel.ReadySignal
import Rtc2Tcp.Tunnel.Backpressure
import Rtc2Tcp.Peer.Precedence
import Rtc2Tcp.Logx.Event
import Rtc2Tcp.WebRTC.ControlFrame
import Rtc2Tcp.Rendezvous.Wire
import Rtc2Tcp.Peer.ClientClose
import Rtc2Tcp.Peer.ClientEvents
import Rtc2Tcp.Peer.LoopRefines
import Rtc2Tcp.Tunnel.Teardown
import Rtc2Tcp.Tunnel.Attached
import Rtc2Tcp.Peer.Handoff

import Rtc2Tcp.Go.Strings

namespace Rtc2Tcp.Signaling

open Octets Go

/-- `Message.Type`; `unknown` holds any text but the constants. -/
inductive MessageType where
  | register
  | registered
  | paired
  | signal
  | error
  | peerLeft
  | ping
  | pong
  | unknown (text : Bytes)
deriving DecidableEq, Repr

inductive SignalKind where
  | offer
  | answer
  | ice
  | unknown (text : Bytes)
deriving DecidableEq, Repr

structure Register where
  rendezvousToken : Bytes
  mode : Bytes
  version : Bytes
deriving DecidableEq, Repr

structure Paired where
  sessionID : Bytes
  initiator : Bool
  peerMode : Bytes
deriving DecidableEq, Repr

structure SDPPayload where
  type : Bytes
  sdp : Bytes
deriving DecidableEq, Repr

structure ICECandidatePayload where
  candidate : Bytes
  sdpMid : Option Bytes := none
  sdpMLineIndex : Option UInt16 := none
  usernameFragment : Option Bytes := none
deriving DecidableEq, Repr

structure Signal where
  kind : SignalKind
  sdp : Option SDPPayload := none
  candidate : Option ICECandidatePayload := none
deriving DecidableEq, Repr

structure ErrorPayload where
  code : Bytes
  message : Bytes
deriving DecidableEq, Repr

/-- The payload pointers of the source are options; single-field payloads stand for their field. -/
structure Message where
  type : MessageType
  register : Option Register := none
  paired : Option Paired := none
  signal : Option Signal := none
  error : Option ErrorPayload := none
  peerLeft : Option Bytes := none
  registered : Option Bytes := none
  ping : Option Bytes := none
  pong : Option Bytes := none
deriving DecidableEq, Repr

end Rtc2Tcp.Signaling

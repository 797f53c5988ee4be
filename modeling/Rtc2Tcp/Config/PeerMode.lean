import Rtc2Tcp.Go.Strings

namespace Rtc2Tcp

open Octets Go

/-- `config.PeerMode` is a string type; `unknown` holds any text but the two constants. -/
inductive PeerMode where
  | expose
  | connect
  | unknown (text : Bytes)
deriving DecidableEq, Repr

def PeerMode.string : PeerMode → Bytes
  | .expose => text "expose"
  | .connect => text "connect"
  | .unknown text => text

/-- `ParsePeerMode`; the failing text is the one the error quotes. -/
def parsePeerMode (value : Bytes) : Except Bytes PeerMode :=
  let mode := toLower (trimSpace value)
  if mode = PeerMode.expose.string then .ok .expose
  else if mode = PeerMode.connect.string then .ok .connect
  else .error value

theorem parsePeerMode_known (value : Bytes) (mode : PeerMode) (parsed : parsePeerMode value = .ok mode) :
    mode = .expose ∨ mode = .connect := by
  unfold parsePeerMode at parsed
  dsimp only at parsed
  split at parsed
  · left; exact (Except.ok.inj parsed).symm
  · split at parsed
    · right; exact (Except.ok.inj parsed).symm
    · cases parsed

example : parsePeerMode (text " Connect\n") = .ok .connect := rfl

end Rtc2Tcp

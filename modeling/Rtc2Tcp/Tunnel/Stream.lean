import Mathlib.Logic.Function.Basic
import Rtc2Tcp.Lib.Pipe
import Rtc2Tcp.Lib.Transition
import Rtc2Tcp.Socks5.Handshake

namespace Rtc2Tcp.Tunnel

open Octets Pipe

def maxChunkSize : Nat := 16 * 1024

/-- The handlers that `OnMessage` can have: the temporary one of the SOCKS5 listener, and that of `Bridge`. -/
inductive Handler where
  | ready
  | forward
deriving DecidableEq, Repr

inductive Side where
  | connect
  | expose
deriving DecidableEq, Repr

def Side.other : Side → Side
  | connect => expose
  | expose => connect

/-- A peer's end of the stream. `received` was read from the connection and `written` was written to it; `closed` says
    that there is no connection to write to. `arriving` holds the messages on their way to this end, `arrived` counts
    those before. -/
structure End where
  received : Bytes
  written : Bytes
  closed : Bool
  handler : Option Handler
  reader : Reader UInt8
  arriving : List Bytes
  arrived : Nat
deriving DecidableEq, Repr

namespace End

def fresh : End := ⟨[], [], false, none, .off, [], 0⟩

/-- `conn.Write`, which may fail after the first `wrote` bytes. -/
def write (e : End) (data : Bytes) (wrote : Nat) : Bool × End :=
  if e.closed then (false, e)
  else if data.length ≤ wrote then (true, { e with written := e.written ++ data })
  else (false, { e with written := e.written ++ data.take wrote })

def closeAll (e : End) : End := { e with closed := true }

/-- The `OnMessage` handler of `Bridge`. -/
def forward (e : End) (data : Bytes) (wrote : Nat) : End :=
  if data = [] then e
  else
    let (ok, e) := e.write data wrote
    if ok then e else e.closeAll

end End

/-- Where the connecting peer stands with the stream: the callback of `OnOpen`, in SOCKS5 mode the wait for the ready
    signal, and the two halves of `Bridge`. -/
inductive ConnectStage where
  | opening
  | waiting
  | bridging
  | starting
  | replying
  | done
  | ended
deriving DecidableEq, Repr

inductive ExposeStage where
  | opening
  | dialing
  | signaling
  | bridging
  | starting
  | done
  | ended
deriving DecidableEq, Repr

/-- `signaled` says that there is something in `readyCh`. -/
structure Stream where
  connect : ConnectStage
  expose : ExposeStage
  signaled : Bool
  ends : Side → End

/-- `ok` says whether the dial or the send of the ready signal succeeds, or that the ready signal comes in time;
    `wrote` how much of a write gets through. -/
inductive Act where
  | connect (ok : Bool) (wrote : Nat)
  | expose (ok : Bool)
  | read (side : Side) (chunk : Bytes)
  | send (side : Side) (ok : Bool)
  | stop (side : Side)
  | arrive (side : Side) (wrote : Nat)
  | close (side : Side)
deriving DecidableEq, Repr

namespace Stream

def initial : Stream := ⟨.opening, .opening, false, fun _ => .fresh⟩

def set (s : Stream) (side : Side) (e : End) : Stream := { s with ends := Function.update s.ends side e }

/-- The goroutine of the connecting peer: the `OnOpen` callback of `runListener`, or that of `handleSOCKS5Connect`. -/
def connectStep (socks5 : Bool) (s : Stream) (ok : Bool) (wrote : Nat) : Option Stream :=
  let client := s.ends .connect
  match s.connect with
  | .opening =>
    if socks5 then some { s.set .connect { client with handler := some .ready } with connect := .waiting }
    else some { s with connect := .bridging }
  | .waiting =>
    if ok then if s.signaled then some { s with connect := .bridging } else none
    else some { s.set .connect client.closeAll with connect := .ended }
  | .bridging => some { s.set .connect { client with handler := some .forward } with connect := .starting }
  | .starting =>
    some { s.set .connect { client with reader := .reading } with connect := if socks5 then .replying else .done }
  | .replying =>
    let (ok, client) := client.write Socks5.replySuccess wrote
    if ok then some { s.set .connect client with connect := .done }
    else some { s.set .connect client.closeAll with connect := .ended }
  | .done | .ended => none

/-- `handleExposeStream`; the label may be malformed in SOCKS5 mode. -/
def exposeStep (socks5 : Bool) (s : Stream) (ok : Bool) : Option Stream :=
  let target := s.ends .expose
  match s.expose with
  | .opening =>
    if socks5 && !ok then some { s.set .expose target.closeAll with expose := .ended }
    else some { s with expose := .dialing }
  | .dialing =>
    if ok then some { s with expose := if socks5 then .signaling else .bridging }
    else some { s.set .expose target.closeAll with expose := .ended }
  | .signaling =>
    if ok then
      let client := s.ends .connect
      some { s.set .connect { client with arriving := client.arriving ++ [[0x01]] } with expose := .bridging }
    else some { s.set .expose target.closeAll with expose := .ended }
  | .bridging => some { s.set .expose { target with handler := some .forward } with expose := .starting }
  | .starting => some { s.set .expose { target with reader := .reading } with expose := .done }
  | .done | .ended => none

/-- A message arrives and is given to the handler of the moment; without one it is discarded. -/
def arriveStep (s : Stream) (side : Side) (wrote : Nat) : Option Stream :=
  let e := s.ends side
  match e.arriving with
  | [] => none
  | message :: rest =>
    let e := { e with arriving := rest, arrived := e.arrived + 1 }
    match e.handler with
    | none => some (s.set side e)
    | some .ready => some { s.set side e with signaled := true }
    | some .forward => some (s.set side (e.forward message wrote))

def sendStep (s : Stream) (side : Side) (ok : Bool) : Option Stream :=
  let e := s.ends side
  match e.reader with
  | .sending chunk =>
    if ok then
      let s := s.set side { e with reader := .reading }
      let far := s.ends side.other
      some (s.set side.other { far with arriving := far.arriving ++ [chunk] })
    else some (s.set side { e.closeAll with reader := .stopped })
  | _ => none

def step (socks5 : Bool) (s : Stream) : Act → Option Stream
  | .connect ok wrote => s.connectStep socks5 ok wrote
  | .expose ok => s.exposeStep socks5 ok
  | .read side chunk =>
    let e := s.ends side
    if e.reader = .reading ∧ e.closed = false ∧ chunk ≠ [] ∧ chunk.length ≤ maxChunkSize then
      some (s.set side { e with received := e.received ++ chunk, reader := .sending chunk })
    else none
  | .send side ok => s.sendStep side ok
  | .stop side =>
    let e := s.ends side
    if e.reader = .reading then some (s.set side { e.closeAll with reader := .stopped }) else none
  | .arrive side wrote => s.arriveStep side wrote
  | .close side =>
    let e := s.ends side
    if e.handler = some .forward then some (s.set side e.closeAll) else none

end Stream

end Rtc2Tcp.Tunnel

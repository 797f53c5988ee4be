import Rtc2Tcp.Peer.RunPeer
import Rtc2Tcp.Rendezvous.Invariant

namespace Rtc2Tcp.Peer

open Octets Go Signaling WebRTC Rendezvous Transition

/-- `signaling.Client`. `read` counts the frames its read loop has taken from the socket, `pushed` holds
    what was put into the events channel and `taken` counts what was taken out, `closed` says that the read
    loop has ended; `sent` holds what was sent to the broker and `served` counts what the broker has read. -/
structure Client where
  read : Nat
  pushed : List Message
  taken : Nat
  closed : Bool
  sent : List Message
  served : Nat
deriving DecidableEq, Repr

namespace Client

def fresh : Client := ⟨0, [], 0, false, [], 0⟩

def eventsCapacity : Nat := 32

def Room (k : Client) : Prop := k.pushed.length < k.taken + eventsCapacity

instance (k : Client) : Decidable k.Room := inferInstanceAs (Decidable (_ < _))

def send (k : Client) (messages : List Message) : Client := { k with sent := k.sent ++ messages }

def receive (k : Client) (message : Message) : Option Client :=
  let k := { k with read := k.read + 1 }
  match message.type with
  | .ping => some (k.send [pongMessage (message.ping.getD [])])
  | .pong => some k
  | _ => if k.Room then some { k with pushed := k.pushed ++ [message] } else none

/-- The read fails: unless the broker closed in order, the loop reports it if the channel has room. -/
def fail (k : Client) (normal : Bool) (reason : Bytes) : Client :=
  if normal = false ∧ k.Room then
    { k with closed := true, pushed := k.pushed ++ [brokerError (text "broker-read") reason] }
  else { k with closed := true }

end Client

structure Endpoint where
  process : Process
  client : Client
deriving DecidableEq, Repr

/-- A connection without a process belongs to some other client, of which nothing is assumed. -/
structure Network where
  server : Server
  peers : Nat → Option Endpoint

inductive Move where
  | server (act : Act)
  | dial (mode : PeerMode) (token version : Bytes) (draw : Option Buf) (now : Int)
  | read (c : Nat)
  | fail (c : Nat) (normal : Bool) (reason : Bytes)
  | take (c : Nat) (outcome : Outcome)
  | advance (c : Nat) (next : SessionState)
  | candidate (c : Nat) (candidate : ICECandidatePayload)
  | ping (c : Nat) (token : Bytes)
  | stop (c : Nat) (error : Option RunError) (outcome : Outcome)

namespace Network

def initial (waiterTTL sessionTTL : Int) : Network := ⟨.initial waiterTTL sessionTTL, fun _ => none⟩

def setPeer (n : Network) (c : Nat) (e : Endpoint) : Network :=
  { n with peers := Function.update n.peers c (some e) }

/-- The broker reads what the process sent, in order; a read fails only when the connection is gone. -/
def serve (n : Network) (act : Act) : Option Network :=
  match act with
  | .handler c x =>
    match n.peers c, n.server.handlers c with
    | some e, some ⟨_, .reading⟩ =>
      match x.message with
      | some message =>
        if e.client.sent[e.client.served]? = some message then
          some (n.setPeer c { e with client := { e.client with served := e.client.served + 1 } })
        else none
      | none => if (n.server.sockets c).Dead ∨ e.process.returned ≠ none then some n else none
    | _, _ => some n
  | _ => some n

def nextEvent (k : Client) : Option (Option Message) :=
  match k.pushed[k.taken]? with
  | some message => some (some message)
  | none => if k.closed then some none else none

def signalMessages (signals : List Signal) : List Message := signals.map signalMessage

/-- A running event loop that still listens to the broker handles an event. -/
def take (e : Endpoint) (x : Outcome) : Option Endpoint :=
  if e.process.returned = none ∧ e.process.detached = false then
    (nextEvent e.client).map fun event =>
      let (process, signals) := e.process.handleEvent event x
      ⟨process, { e.client with taken := e.client.taken + 1 }.send (signalMessages signals)⟩
  else none

def advance (p : Process) (next : SessionState) : Option Process :=
  if p.session = none then none
  else
    (p.state.transition next).map fun state =>
      { p with state := state, closeOnce := p.closeOnce || decide (state.Over) }

/-- The ways the event loop ends that have nothing to do with the broker. -/
def stop (p : Process) (error : Option RunError) (x : Outcome) : Option Process :=
  if p.returned = none then
    match error with
    | none => some (p.finish none x)
    | some e => if e = .authentication ∨ e = .listener then some (p.failSession e x) else none
  else none

def registerPayload (mode : PeerMode) (token version : Bytes) : Message :=
  { type := .register, register := some ⟨token, mode.string, version⟩ }

def step (n : Network) : Move → Option Network
  | .server act => do
    let m ← n.serve act
    let server ← n.server.step act
    some { m with server := server }
  | .dial mode token version draw now => do
    let server ← n.server.step (.connect (some (registerPayload mode token version)) draw now)
    some ({ n with server := server }.setPeer n.server.accepted ⟨.start mode, .fresh⟩)
  | .read c => do
    let e ← n.peers c
    let frame ← (n.server.sockets c).written[e.client.read]?
    if e.client.closed then none
    else
      let client ← e.client.receive frame.message
      some (n.setPeer c { e with client := client })
  | .fail c normal reason => do
    let e ← n.peers c
    if e.client.closed = false ∧ ((n.server.sockets c).Dead ∨ e.process.returned ≠ none) then
      some (n.setPeer c { e with client := e.client.fail normal reason })
    else none
  | .take c x => do
    let e ← n.peers c
    let e ← take e x
    some (n.setPeer c e)
  | .advance c next => do
    let e ← n.peers c
    let process ← advance e.process next
    some (n.setPeer c { e with process := process })
  | .candidate c candidate => do
    let e ← n.peers c
    if e.process.session = none then none
    else
      let signal : Signal := { kind := .ice, candidate := some candidate }
      some (n.setPeer c { e with client := e.client.send [signalMessage signal] })
  | .ping c token => do
    let e ← n.peers c
    some (n.setPeer c { e with client := e.client.send [{ type := .ping, ping := some token }] })
  | .stop c error x => do
    let e ← n.peers c
    let process ← stop e.process error x
    some (n.setPeer c { e with process := process })

end Network

end Rtc2Tcp.Peer

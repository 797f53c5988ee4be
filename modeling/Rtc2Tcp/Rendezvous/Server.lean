import Mathlib.Logic.Function.Basic
import Rtc2Tcp.Lib.Transition
import Rtc2Tcp.Rendezvous.Broker

namespace Rtc2Tcp.Rendezvous

open Octets Go Signaling Transition

/-- Whose signal the broker relays, and in which session it found the target. -/
structure Relay where
  sender : Peer
  session : Bytes
deriving DecidableEq, Repr

/-- A frame written by the broker. The relay is known to the broker only, it is not on the wire. -/
structure Frame where
  message : Message
  relay : Option Relay := none
deriving DecidableEq, Repr

/-- The broker's end of a WebSocket: the frames written so far, whether the connection is lost,
    and whether the broker has closed it. -/
structure Socket where
  written : List Frame
  lost : Bool
  closed : Bool
deriving DecidableEq, Repr

namespace Socket

def fresh : Socket := ⟨[], false, false⟩

def Dead (k : Socket) : Prop := k.lost = true ∨ k.closed = true

instance (k : Socket) : Decidable k.Dead := inferInstanceAs (Decidable (_ ∨ _))

/-- A write to a lost connection may be buffered without an error. -/
def send (k : Socket) (frame : Frame) (buffered : Bool) : Bool × Socket :=
  if k.closed then (false, k)
  else if k.lost then (buffered, k)
  else (true, { k with written := k.written ++ [frame] })

def writeAndClose (k : Socket) (frame : Frame) : Socket :=
  let (ok, k) := k.send frame false
  if ok then { k with closed := true } else k

theorem send_cases (k : Socket) (frame : Frame) (buffered : Bool) :
    (k.Dead ∧ (k.send frame buffered).2 = k) ∨
      (¬k.Dead ∧ k.send frame buffered = (true, { k with written := k.written ++ [frame] })) := by
  unfold send Dead
  cases k.closed <;> cases k.lost <;> simp

structure Grows (k l : Socket) : Prop where
  written : k.written <+: l.written
  lost : k.lost = true → l.lost = true
  closed : k.closed = true → l.closed = true

theorem Grows.refl (k : Socket) : k.Grows k := ⟨List.prefix_refl _, id, id⟩

theorem Grows.dead {k l : Socket} (grows : k.Grows l) (dead : k.Dead) : l.Dead := dead.imp grows.lost grows.closed

theorem send_grows (k : Socket) (frame : Frame) (buffered : Bool) : k.Grows (k.send frame buffered).2 := by
  rcases send_cases k frame buffered with ⟨_, same⟩ | ⟨_, sent⟩
  · rw [same]
    exact .refl k
  · rw [sent]
    exact ⟨List.prefix_append _ _, id, id⟩

theorem writeAndClose_grows (k : Socket) (frame : Frame) : k.Grows (k.writeAndClose frame) := by
  have sent := send_grows k frame false
  unfold writeAndClose
  dsimp only
  split
  · exact ⟨sent.written, sent.lost, fun _ => rfl⟩
  · exact sent

end Socket

/-- Where a run of `handleWebSocket` stands after the registration. -/
inductive Stage where
  | acking
  | pairing
  | refusing
  | reading
  | replying (message : Message)
  | relaying (signal : Signal)
  | forwarding (signal : Signal) (target : Peer) (session : Bytes)
  | relayFailed
  | leaving
  | notifying (target : Peer) (session : Bytes)
  | closing
  | returned
deriving DecidableEq, Repr

structure Handler where
  peer : Peer
  stage : Stage
deriving DecidableEq, Repr

def registeredMessage (peerID : Bytes) : Message := { type := .registered, registered := some peerID }

def signalMessage (signal : Signal) : Message := { type := .signal, signal := some signal }

def peerLeftMessage (reason : Bytes) : Message := { type := .peerLeft, peerLeft := some reason }

def pongMessage (token : Bytes) : Message := { type := .pong, pong := some token }

/-- The calls of `send`: to whom, and what. -/
def Stage.output (p : Peer) : Stage → Option (Peer × Frame)
  | acking => some (p, { message := registeredMessage p.id })
  | refusing =>
    some (p, { message := brokerError (text "pairing-failed") (genericBrokerMessage (text "pairing-failed")) })
  | replying message => some (p, { message := message })
  | forwarding signal target session =>
    some (target, { message := signalMessage signal, relay := some ⟨p, session⟩ })
  | relayFailed =>
    some (p, { message := brokerError (text "relay-failed") (genericBrokerMessage (text "relay-failed")) })
  | notifying target _ => some (target, { message := peerLeftMessage (text "peer disconnected") })
  | _ => none

def Stage.sent (ok : Bool) : Stage → Stage
  | acking => if ok then pairing else leaving
  | refusing => leaving
  | replying _ => reading
  | forwarding .. => if ok then reading else relayFailed
  | relayFailed => leaving
  | notifying .. => closing
  | stage => stage

def Stage.unregistered : Option (Peer × Bytes) → Stage
  | none => closing
  | some (target, session) => notifying target session

/-- One turn of the read loop; no message is a read error. -/
def Stage.received : Option Message → Stage
  | none => leaving
  | some message =>
    match message.type with
    | .ping => replying (pongMessage (message.ping.getD []))
    | .pong => reading
    | .signal =>
      match message.signal with
      | none => replying (brokerError (text "invalid-signal") (text "signal payload is required"))
      | some signal => relaying signal
    | _ =>
      replying (brokerError (text "unexpected-message")
        (text "only signal messages are allowed after registration"))

inductive DeliveryStage where
  | sending
  | unregistering
  | notifying (target : Peer) (session : Bytes)
  | finished
deriving DecidableEq, Repr

structure Delivery where
  session : Bytes
  peer : Peer
  message : Message
  stage : DeliveryStage
deriving DecidableEq, Repr

/-- The two goroutines that `tryPair` starts. -/
def Pairing.deliveries (pairing : Pairing) : List Delivery :=
  [⟨pairing.session.id, pairing.session.first, pairing.waitingMessage, .sending⟩,
    ⟨pairing.session.id, pairing.session.second, pairing.peerMessage, .sending⟩]

def Delivery.output (d : Delivery) : Option (Peer × Frame) :=
  match d.stage with
  | .sending => some (d.peer, { message := d.message })
  | .notifying target _ => some (target, { message := peerLeftMessage (text "pair delivery failed") })
  | _ => none

def DeliveryStage.unregistered : Option (Peer × Bytes) → DeliveryStage
  | none => finished
  | some (target, session) => notifying target session

def DeliveryStage.sent (ok : Bool) : DeliveryStage → DeliveryStage
  | sending => if ok then finished else unregistering
  | _ => finished

/-- What `evictStale` has left to do after `collectStale`. -/
inductive Task where
  | send (p : Peer) (code : Bytes)
  | close (p : Peer)
deriving DecidableEq, Repr

def evictionTasks (waiters : List Peer) (sessions : List EvictedSession) : List Task :=
  waiters.flatMap (fun p => [.send p (text "waiter-expired"), .close p]) ++
    sessions.flatMap fun es =>
      [.send es.first (text "session-expired"), .close es.first,
        .send es.second (text "session-expired"), .close es.second]

def Task.frame (code : Bytes) : Frame := { message := brokerError code (genericBrokerMessage code) }

/-- `issued` are the random ids drawn so far; connections are numbered as they are accepted. -/
structure Server where
  broker : Broker
  issued : List Bytes
  accepted : Nat
  sockets : Nat → Socket
  handlers : Nat → Option Handler
  deliveries : List Delivery
  janitor : List Task

/-- What the surroundings decide for one step of a goroutine: whether a write to a lost connection
    is buffered, what the read returns, the clock, the random bytes, and the order of a map loop. -/
structure Choice where
  buffered : Bool := false
  message : Option Message := none
  now : Int := 0
  draw : Option Buf := none
  order : List Bytes := []

inductive Act where
  | connect (message : Option Message) (draw : Option Buf) (now : Int)
  | handler (c : Nat) (choice : Choice)
  | delivery (d : Nat) (choice : Choice)
  | collect (now : Int) (waiters sessions : List Bytes)
  | janitor (buffered : Bool)
  | lose (c : Nat)

namespace Server

def initial (waiterTTL sessionTTL : Int) : Server :=
  ⟨.empty waiterTTL sessionTTL, [], 0, fun _ => .fresh, fun _ => none, [], []⟩

def setSocket (s : Server) (c : Nat) (socket : Socket) : Server :=
  { s with sockets := Function.update s.sockets c socket }

def setStage (s : Server) (c : Nat) (h : Handler) (stage : Stage) : Server :=
  { s with handlers := Function.update s.handlers c (some ⟨h.peer, stage⟩) }

def setDelivery (s : Server) (i : Nat) (d : Delivery) (stage : DeliveryStage) : Server :=
  { s with deliveries := s.deliveries.set i { d with stage := stage } }

/-- `send`; the writes to one connection are ordered by its `writeMu`. -/
def send (s : Server) (target : Peer) (frame : Frame) (buffered : Bool) : Bool × Server :=
  let (ok, socket) := (s.sockets target.conn).send frame buffered
  (ok, s.setSocket target.conn socket)

def close (s : Server) (p : Peer) : Server :=
  s.setSocket p.conn { s.sockets p.conn with closed := true }

def drawn (s : Server) (draw : Option Buf) : Option Server :=
  match draw with
  | none => some s
  | some buf =>
    if randomID buf ∈ s.issued then none else some { s with issued := randomID buf :: s.issued }

def registerFailed : Frame :=
  { message := brokerError (text "register-failed") (genericBrokerMessage (text "register-failed")) }

def connect (s : Server) (message : Option Message) (now : Int) (draw : Option Buf) : Server :=
  let c := s.accepted
  match registerPeer c message draw now with
  | .ok p =>
    { s with
      accepted := c + 1
      handlers := Function.update s.handlers c (some ⟨p, .acking⟩) }
  | .error _ =>
    { s with accepted := c + 1 }.setSocket c ((s.sockets c).writeAndClose registerFailed)

def Visits (s : Server) (order : List Bytes) : Prop := order.Perm s.broker.sessions.keys

instance (s : Server) (order : List Bytes) : Decidable (s.Visits order) :=
  inferInstanceAs (Decidable (order.Perm _))

def pair (s : Server) (c : Nat) (h : Handler) (x : Choice) : Option Server := do
  let s ← s.drawn x.draw
  match tryPair s.broker h.peer x.draw x.now with
  | .error _ => some (s.setStage c h .refusing)
  | .ok (broker, pairing) =>
    let started := pairing.elim [] Pairing.deliveries
    some ({ s with broker := broker, deliveries := s.deliveries ++ started }.setStage c h .reading)

/-- The sections of a handler that are no call of `send`. -/
def proceed (s : Server) (c : Nat) (h : Handler) (x : Choice) : Option Server :=
  match h.stage with
  | .pairing => s.pair c h x
  | .reading => some (s.setStage c h (.received x.message))
  | .relaying signal =>
    if s.Visits x.order then
      match sessionPeers s.broker x.order h.peer with
      | some (some target, session) => some (s.setStage c h (.forwarding signal target session))
      | _ => some (s.setStage c h .relayFailed)
    else none
  | .leaving =>
    if s.Visits x.order then
      let (broker, left) := unregisterPeer s.broker x.order h.peer
      some ({ s with broker := broker }.setStage c h (Stage.unregistered left))
    else none
  | .closing => some ((s.close h.peer).setStage c h .returned)
  | _ => none

def handlerStep (s : Server) (c : Nat) (h : Handler) (x : Choice) : Option Server :=
  match h.stage.output h.peer with
  | some (target, frame) =>
    let (ok, s) := s.send target frame x.buffered
    some (s.setStage c h (h.stage.sent ok))
  | none => s.proceed c h x

def deliveryStep (s : Server) (i : Nat) (d : Delivery) (x : Choice) : Option Server :=
  match d.output with
  | some (target, frame) =>
    let (ok, s) := s.send target frame x.buffered
    some (s.setDelivery i d (d.stage.sent ok))
  | none =>
    if d.stage = .unregistering ∧ s.Visits x.order then
      let (broker, left) := unregisterPeer s.broker x.order d.peer
      some ({ s with broker := broker }.setDelivery i d (DeliveryStage.unregistered left))
    else none

def step (s : Server) : Act → Option Server
  | .connect message draw now => (s.drawn draw).map fun s => s.connect message now draw
  | .handler c x => (s.handlers c).bind fun h => s.handlerStep c h x
  | .delivery i x => s.deliveries[i]?.bind fun d => s.deliveryStep i d x
  | .collect now waiters sessions =>
    if s.janitor = [] ∧ waiters.Perm s.broker.waiting.keys ∧ s.Visits sessions then
      let (broker, evictedWaiters, evictedSessions) := collectStale s.broker now waiters sessions
      some { s with broker := broker, janitor := evictionTasks evictedWaiters evictedSessions }
    else none
  | .janitor buffered =>
    match s.janitor with
    | [] => none
    | .send p code :: rest => some { (s.send p (Task.frame code) buffered).2 with janitor := rest }
    | .close p :: rest => some { s.close p with janitor := rest }
  | .lose c => if c < s.accepted then some (s.setSocket c { s.sockets c with lost := true }) else none

section Fields

variable (s : Server) (c : Nat) (h : Handler) (stage : Stage) (p : Peer) (frame : Frame) (buffered : Bool)
  (i : Nat) (d : Delivery) (phase : DeliveryStage)

@[simp] theorem setStage_broker : (s.setStage c h stage).broker = s.broker := rfl
@[simp] theorem setStage_issued : (s.setStage c h stage).issued = s.issued := rfl
@[simp] theorem setStage_accepted : (s.setStage c h stage).accepted = s.accepted := rfl
@[simp] theorem setStage_sockets : (s.setStage c h stage).sockets = s.sockets := rfl
@[simp] theorem setStage_deliveries : (s.setStage c h stage).deliveries = s.deliveries := rfl
@[simp] theorem setStage_janitor : (s.setStage c h stage).janitor = s.janitor := rfl
@[simp] theorem setStage_handlers :
    (s.setStage c h stage).handlers = Function.update s.handlers c (some ⟨h.peer, stage⟩) := rfl

@[simp] theorem setDelivery_broker : (s.setDelivery i d phase).broker = s.broker := rfl
@[simp] theorem setDelivery_issued : (s.setDelivery i d phase).issued = s.issued := rfl
@[simp] theorem setDelivery_accepted : (s.setDelivery i d phase).accepted = s.accepted := rfl
@[simp] theorem setDelivery_sockets : (s.setDelivery i d phase).sockets = s.sockets := rfl
@[simp] theorem setDelivery_handlers : (s.setDelivery i d phase).handlers = s.handlers := rfl
@[simp] theorem setDelivery_janitor : (s.setDelivery i d phase).janitor = s.janitor := rfl
@[simp] theorem setDelivery_deliveries :
    (s.setDelivery i d phase).deliveries = s.deliveries.set i { d with stage := phase } := rfl

@[simp] theorem send_broker : (s.send p frame buffered).2.broker = s.broker := rfl
@[simp] theorem send_issued : (s.send p frame buffered).2.issued = s.issued := rfl
@[simp] theorem send_accepted : (s.send p frame buffered).2.accepted = s.accepted := rfl
@[simp] theorem send_handlers : (s.send p frame buffered).2.handlers = s.handlers := rfl
@[simp] theorem send_deliveries : (s.send p frame buffered).2.deliveries = s.deliveries := rfl
@[simp] theorem send_janitor : (s.send p frame buffered).2.janitor = s.janitor := rfl

@[simp] theorem close_broker : (s.close p).broker = s.broker := rfl
@[simp] theorem close_issued : (s.close p).issued = s.issued := rfl
@[simp] theorem close_accepted : (s.close p).accepted = s.accepted := rfl
@[simp] theorem close_handlers : (s.close p).handlers = s.handlers := rfl
@[simp] theorem close_deliveries : (s.close p).deliveries = s.deliveries := rfl
@[simp] theorem close_janitor : (s.close p).janitor = s.janitor := rfl

end Fields

theorem drawn_cases (s t : Server) (draw : Option Buf) (fresh : s.drawn draw = some t) :
    (draw = none ∧ t = s) ∨
      ∃ buf, draw = some buf ∧ randomID buf ∉ s.issued ∧ t = { s with issued := randomID buf :: s.issued } := by
  unfold drawn at fresh
  split at fresh
  · cases fresh
    exact .inl ⟨rfl, rfl⟩
  · rename_i buf
    split at fresh
    · cases fresh
    · rename_i unused
      cases fresh
      exact .inr ⟨buf, rfl, unused, rfl⟩

inductive Effect (s : Server) : Act → Server → Prop where
  | rejected (message : Option Message) (draw : Option Buf) (now : Int) (t : Server)
      (fresh : s.drawn draw = some t) (e : RegisterError)
      (refused : registerPeer t.accepted message draw now = .error e) :
      Effect s (.connect message draw now) (t.connect message now draw)
  | registered (message : Option Message) (draw : Option Buf) (now : Int) (t : Server)
      (fresh : s.drawn draw = some t) (p : Peer)
      (accepted : registerPeer t.accepted message draw now = .ok p) :
      Effect s (.connect message draw now) (t.connect message now draw)
  | wrote (c : Nat) (h : Handler) (x : Choice) (handler : s.handlers c = some h) (target : Peer) (frame : Frame)
      (output : h.stage.output h.peer = some (target, frame)) :
      Effect s (.handler c x) ((s.send target frame x.buffered).2.setStage c h
        (h.stage.sent (s.send target frame x.buffered).1))
  | refused (c : Nat) (p : Peer) (x : Choice) (handler : s.handlers c = some ⟨p, .pairing⟩) (t : Server)
      (fresh : s.drawn x.draw = some t) (e : PairError) (failed : tryPair t.broker p x.draw x.now = .error e) :
      Effect s (.handler c x) (t.setStage c ⟨p, .pairing⟩ .refusing)
  | waits (c : Nat) (p : Peer) (x : Choice) (handler : s.handlers c = some ⟨p, .pairing⟩) (t : Server)
      (fresh : s.drawn x.draw = some t) (broker : Broker)
      (ok : tryPair t.broker p x.draw x.now = .ok (broker, none)) :
      Effect s (.handler c x) ({ t with broker := broker }.setStage c ⟨p, .pairing⟩ .reading)
  | paired (c : Nat) (p : Peer) (x : Choice) (handler : s.handlers c = some ⟨p, .pairing⟩) (t : Server)
      (fresh : s.drawn x.draw = some t) (broker : Broker) (pairing : Pairing)
      (ok : tryPair t.broker p x.draw x.now = .ok (broker, some pairing)) :
      Effect s (.handler c x) ({ t with
          broker := broker
          deliveries := t.deliveries ++ pairing.deliveries }.setStage c ⟨p, .pairing⟩ .reading)
  | received (c : Nat) (p : Peer) (x : Choice) (handler : s.handlers c = some ⟨p, .reading⟩) :
      Effect s (.handler c x) (s.setStage c ⟨p, .reading⟩ (.received x.message))
  | forwards (c : Nat) (p : Peer) (signal : Signal) (x : Choice)
      (handler : s.handlers c = some ⟨p, .relaying signal⟩) (visited : s.Visits x.order) (target : Peer)
      (session : Bytes) (found : sessionPeers s.broker x.order p = some (some target, session)) :
      Effect s (.handler c x) (s.setStage c ⟨p, .relaying signal⟩ (.forwarding signal target session))
  | unpaired (c : Nat) (p : Peer) (signal : Signal) (x : Choice)
      (handler : s.handlers c = some ⟨p, .relaying signal⟩) (visited : s.Visits x.order)
      (missing : ∀ target session, sessionPeers s.broker x.order p ≠ some (some target, session)) :
      Effect s (.handler c x) (s.setStage c ⟨p, .relaying signal⟩ .relayFailed)
  | left (c : Nat) (p : Peer) (x : Choice) (handler : s.handlers c = some ⟨p, .leaving⟩)
      (visited : s.Visits x.order) :
      Effect s (.handler c x) ({ s with broker := (unregisterPeer s.broker x.order p).1 }.setStage c
        ⟨p, .leaving⟩ (Stage.unregistered (unregisterPeer s.broker x.order p).2))
  | closed (c : Nat) (p : Peer) (x : Choice) (handler : s.handlers c = some ⟨p, .closing⟩) :
      Effect s (.handler c x) ((s.close p).setStage c ⟨p, .closing⟩ .returned)
  | delivered (i : Nat) (d : Delivery) (x : Choice) (delivery : s.deliveries[i]? = some d) (target : Peer)
      (frame : Frame) (output : d.output = some (target, frame)) :
      Effect s (.delivery i x) ((s.send target frame x.buffered).2.setDelivery i d
        (d.stage.sent (s.send target frame x.buffered).1))
  | undelivered (i : Nat) (d : Delivery) (x : Choice) (delivery : s.deliveries[i]? = some d)
      (stage : d.stage = .unregistering) (visited : s.Visits x.order) :
      Effect s (.delivery i x) ({ s with broker := (unregisterPeer s.broker x.order d.peer).1 }.setDelivery i d
        (DeliveryStage.unregistered (unregisterPeer s.broker x.order d.peer).2))
  | collected (now : Int) (waiters sessions : List Bytes) (idle : s.janitor = [])
      (waiting : waiters.Perm s.broker.waiting.keys) (visited : s.Visits sessions) :
      Effect s (.collect now waiters sessions) { s with
        broker := (collectStale s.broker now waiters sessions).1
        janitor := evictionTasks (collectStale s.broker now waiters sessions).2.1
          (collectStale s.broker now waiters sessions).2.2 }
  | evicted (p : Peer) (code : Bytes) (rest : List Task) (buffered : Bool)
      (tasks : s.janitor = .send p code :: rest) :
      Effect s (.janitor buffered) { (s.send p (Task.frame code) buffered).2 with janitor := rest }
  | disconnected (p : Peer) (rest : List Task) (buffered : Bool) (tasks : s.janitor = .close p :: rest) :
      Effect s (.janitor buffered) { s.close p with janitor := rest }
  | lost (c : Nat) (known : c < s.accepted) :
      Effect s (.lose c) (s.setSocket c { s.sockets c with lost := true })

theorem pair_effect (s t : Server) (c : Nat) (p : Peer) (x : Choice)
    (handler : s.handlers c = some ⟨p, .pairing⟩) (stepped : s.pair c ⟨p, .pairing⟩ x = some t) :
    Effect s (.handler c x) t := by
  simp only [pair, Option.bind_eq_bind, Option.bind_eq_some_iff] at stepped
  obtain ⟨u, fresh, stepped⟩ := stepped
  split at stepped
  · rename_i e failed
    cases stepped
    exact .refused c p x handler u fresh e failed
  · rename_i broker pairing ok
    cases stepped
    cases pairing with
    | none =>
      have start := Effect.waits c p x handler u fresh broker ok
      simpa using start
    | some pairing => exact .paired c p x handler u fresh broker pairing ok

theorem proceed_effect (s t : Server) (c : Nat) (h : Handler) (x : Choice) (handler : s.handlers c = some h)
    (stepped : s.proceed c h x = some t) : Effect s (.handler c x) t := by
  obtain ⟨p, stage⟩ := h
  cases stage with
  | pairing => exact pair_effect s t c p x handler stepped
  | reading =>
    cases stepped
    exact .received c p x handler
  | relaying signal =>
    simp only [proceed] at stepped
    split at stepped
    · rename_i visited
      split at stepped
      · rename_i target session found
        cases stepped
        exact .forwards c p signal x handler visited target session found
      · rename_i missing
        cases stepped
        exact .unpaired c p signal x handler visited missing
    · cases stepped
  | leaving =>
    simp only [proceed] at stepped
    split at stepped
    · rename_i visited
      cases stepped
      exact .left c p x handler visited
    · cases stepped
  | closing =>
    cases stepped
    exact .closed c p x handler
  | acking | refusing | replying | forwarding | relayFailed | notifying | returned => cases stepped

theorem step_effect (s t : Server) (act : Act) (stepped : s.step act = some t) : Effect s act t := by
  cases act with
  | connect message draw now =>
    simp only [step, Option.map_eq_some_iff] at stepped
    obtain ⟨u, fresh, rfl⟩ := stepped
    cases result : registerPeer u.accepted message draw now with
    | error e => exact .rejected message draw now u fresh e result
    | ok p => exact .registered message draw now u fresh p result
  | handler c x =>
    simp only [step, Option.bind_eq_some_iff] at stepped
    obtain ⟨h, handler, stepped⟩ := stepped
    unfold handlerStep at stepped
    split at stepped
    · rename_i target frame output
      cases stepped
      exact .wrote c h x handler target frame output
    · exact proceed_effect s t c h x handler stepped
  | delivery i x =>
    simp only [step, Option.bind_eq_some_iff] at stepped
    obtain ⟨d, delivery, stepped⟩ := stepped
    unfold deliveryStep at stepped
    split at stepped
    · rename_i target frame output
      cases stepped
      exact .delivered i d x delivery target frame output
    · split at stepped
      · rename_i ready
        cases stepped
        exact .undelivered i d x delivery ready.1 ready.2
      · cases stepped
  | collect now waiters sessions =>
    simp only [step] at stepped
    split at stepped
    · rename_i ready
      cases stepped
      exact .collected now waiters sessions ready.1 ready.2.1 ready.2.2
    · cases stepped
  | janitor buffered =>
    simp only [step] at stepped
    split at stepped
    · cases stepped
    · rename_i p code rest tasks
      cases stepped
      exact .evicted p code rest buffered tasks
    · rename_i p rest tasks
      cases stepped
      exact .disconnected p rest buffered tasks
  | lose c =>
    simp only [step] at stepped
    split at stepped
    · rename_i known
      cases stepped
      exact .lost c known
    · cases stepped

theorem drawn_handlers {s t : Server} {draw : Option Buf} (fresh : s.drawn draw = some t) :
    t.handlers = s.handlers := by
  rcases drawn_cases s t draw fresh with ⟨_, rfl⟩ | ⟨_, _, _, rfl⟩ <;> rfl

inductive Next (s : Server) (p : Peer) (x : Choice) : Stage → Stage → Prop where
  | sent (stage : Stage) (output : Peer × Frame) (sends : stage.output p = some output) (ok : Bool) :
      Next s p x stage (stage.sent ok)
  | refused : Next s p x .pairing .refusing
  | paired : Next s p x .pairing .reading
  | received : Next s p x .reading (.received x.message)
  | forwards (signal : Signal) (target : Peer) (session : Bytes) (visited : s.Visits x.order)
      (found : sessionPeers s.broker x.order p = some (some target, session)) :
      Next s p x (.relaying signal) (.forwarding signal target session)
  | unpaired (signal : Signal) (visited : s.Visits x.order)
      (missing : ∀ target session, sessionPeers s.broker x.order p ≠ some (some target, session)) :
      Next s p x (.relaying signal) .relayFailed
  | left (visited : s.Visits x.order) :
      Next s p x .leaving (Stage.unregistered (unregisterPeer s.broker x.order p).2)
  | closed : Next s p x .closing .returned

theorem drawn_accepted {s t : Server} {draw : Option Buf} (fresh : s.drawn draw = some t) :
    t.accepted = s.accepted := by
  rcases drawn_cases s t draw fresh with ⟨_, rfl⟩ | ⟨_, _, _, rfl⟩ <;> rfl

inductive Change (s : Server) (act : Act) (c : Nat) (g : Handler) : Prop where
  | stays (same : s.handlers c = some g)
  | joins (message : Option Message) (draw : Option Buf) (now : Int) (connects : act = .connect message draw now)
      (last : c = s.accepted) (stage : g.stage = .acking)
  | moves (x : Choice) (stage : Stage) (moves : act = .handler c x) (before : s.handlers c = some ⟨g.peer, stage⟩)
      (next : s.Next g.peer x stage g.stage)

theorem setStage_change (s t : Server) (d : Nat) (h : Handler) (stage : Stage) (x : Choice)
    (same : t.handlers = s.handlers) (before : s.handlers d = some h) (next : s.Next h.peer x h.stage stage)
    (c : Nat) (g : Handler) (after : (t.setStage d h stage).handlers c = some g) :
    s.Change (.handler d x) c g := by
  rw [setStage_handlers, same] at after
  by_cases here : c = d
  · subst here
    rw [Function.update_self] at after
    cases after
    exact .moves x h.stage rfl before next
  · rw [Function.update_of_ne here] at after
    exact .stays after

theorem handlers_step {s t : Server} {act : Act} (stepped : s.step act = some t) (c : Nat) (g : Handler)
    (handler : t.handlers c = some g) : s.Change act c g := by
  cases step_effect s t act stepped with
  | rejected message draw now u fresh e refused =>
    simp only [connect, refused, setSocket, drawn_handlers fresh] at handler
    exact .stays handler
  | registered message draw now u fresh p accepted =>
    rw [drawn_accepted fresh] at accepted
    simp only [connect, drawn_accepted fresh, accepted, drawn_handlers fresh] at handler
    by_cases here : c = s.accepted
    · rw [here, Function.update_self] at handler
      cases handler
      exact .joins message draw now rfl here rfl
    · rw [Function.update_of_ne here] at handler
      exact .stays handler
  | wrote d h x before target frame output =>
    exact setStage_change s _ d h _ x rfl before (.sent h.stage _ output _) c g handler
  | refused d p x before u fresh e _ =>
    exact setStage_change s u d _ _ x (drawn_handlers fresh) before .refused c g handler
  | waits d p x before u fresh broker _ =>
    exact setStage_change s _ d _ _ x (drawn_handlers fresh) before .paired c g handler
  | paired d p x before u fresh broker pairing _ =>
    exact setStage_change s _ d _ _ x (drawn_handlers fresh) before .paired c g handler
  | received d p x before => exact setStage_change s _ d _ _ x rfl before .received c g handler
  | forwards d p signal x before visited target session found =>
    exact setStage_change s _ d _ _ x rfl before (.forwards signal target session visited found) c g handler
  | unpaired d p signal x before visited missing =>
    exact setStage_change s _ d _ _ x rfl before (.unpaired signal visited missing) c g handler
  | left d p x before visited => exact setStage_change s _ d _ _ x rfl before (.left visited) c g handler
  | closed d p x before => exact setStage_change s _ d _ _ x rfl before .closed c g handler
  | delivered => exact .stays handler
  | undelivered => exact .stays handler
  | collected => exact .stays handler
  | evicted => exact .stays handler
  | disconnected => exact .stays handler
  | lost => exact .stays handler

theorem drawn_deliveries {s t : Server} {draw : Option Buf} (fresh : s.drawn draw = some t) :
    t.deliveries = s.deliveries := by
  rcases drawn_cases s t draw fresh with ⟨_, rfl⟩ | ⟨_, _, _, rfl⟩ <;> rfl

inductive DeliveryNext (s : Server) (d : Delivery) (x : Choice) : DeliveryStage → Prop where
  | sent (output : Peer × Frame) (sends : d.output = some output) (ok : Bool) : DeliveryNext s d x (d.stage.sent ok)
  | left (stage : d.stage = .unregistering) (visited : s.Visits x.order) :
      DeliveryNext s d x (DeliveryStage.unregistered (unregisterPeer s.broker x.order d.peer).2)

/-- A delivery goroutine stays, makes the step itself, or is started by a pairing. -/
inductive DeliveryChange (s : Server) (act : Act) (i : Nat) (d : Delivery) : Prop where
  | stays (same : s.deliveries[i]? = some d)
  | moves (x : Choice) (before : Delivery) (moves : act = .delivery i x) (found : s.deliveries[i]? = some before)
      (same : d = { before with stage := d.stage }) (next : s.DeliveryNext before x d.stage)
  | starts (c : Nat) (p : Peer) (x : Choice) (moves : act = .handler c x)
      (handler : s.handlers c = some ⟨p, .pairing⟩) (u : Server) (fresh : s.drawn x.draw = some u)
      (broker : Broker) (pairing : Pairing) (ok : tryPair u.broker p x.draw x.now = .ok (broker, some pairing))
      (new : s.deliveries.length ≤ i) (started : pairing.deliveries[i - s.deliveries.length]? = some d)

theorem setDelivery_change (s t : Server) (j : Nat) (e : Delivery) (x : Choice) (stage : DeliveryStage)
    (same : t.deliveries = s.deliveries) (found : s.deliveries[j]? = some e) (next : s.DeliveryNext e x stage)
    (i : Nat) (d : Delivery) (after : (t.setDelivery j e stage).deliveries[i]? = some d) :
    s.DeliveryChange (.delivery j x) i d := by
  rw [setDelivery_deliveries, same, List.getElem?_set] at after
  split at after
  · rename_i here
    subst here
    split at after
    · cases after
      exact .moves x e rfl found rfl next
    · cases after
  · exact .stays after

theorem deliveries_step {s t : Server} {act : Act} (stepped : s.step act = some t) (i : Nat) (d : Delivery)
    (delivery : t.deliveries[i]? = some d) : s.DeliveryChange act i d := by
  cases step_effect s t act stepped with
  | rejected message draw now u fresh e refused =>
    simp only [connect, refused, setSocket, drawn_deliveries fresh] at delivery
    exact .stays delivery
  | registered message draw now u fresh p accepted =>
    simp only [connect, accepted, drawn_deliveries fresh] at delivery
    exact .stays delivery
  | wrote | received | forwards | unpaired | left | closed => exact .stays delivery
  | refused c p x _ u fresh e _ =>
    rw [setStage_deliveries, drawn_deliveries fresh] at delivery
    exact .stays delivery
  | waits c p x _ u fresh broker _ =>
    rw [setStage_deliveries, drawn_deliveries fresh] at delivery
    exact .stays delivery
  | paired c p x handler u fresh broker pairing ok =>
    rw [setStage_deliveries, drawn_deliveries fresh, List.getElem?_append] at delivery
    split at delivery
    · exact .stays delivery
    · rename_i beyond
      exact .starts c p x rfl handler u fresh broker pairing ok (Nat.le_of_not_lt beyond) delivery
  | delivered j e x found target frame output =>
    exact setDelivery_change s _ j e x _ rfl found (.sent _ output _) i d delivery
  | undelivered j e x found stage visited =>
    exact setDelivery_change s _ j e x _ rfl found (.left stage visited) i d delivery
  | collected | evicted | disconnected | lost => exact .stays delivery

theorem drawn_sockets {s t : Server} {draw : Option Buf} (fresh : s.drawn draw = some t) :
    t.sockets = s.sockets := by
  rcases drawn_cases s t draw fresh with ⟨_, rfl⟩ | ⟨_, _, _, rfl⟩ <;> rfl

theorem drawn_janitor {s t : Server} {draw : Option Buf} (fresh : s.drawn draw = some t) :
    t.janitor = s.janitor := by
  rcases drawn_cases s t draw fresh with ⟨_, rfl⟩ | ⟨_, _, _, rfl⟩ <;> rfl

theorem close_written (s : Server) (p : Peer) (c : Nat) :
    ((s.close p).sockets c).written = (s.sockets c).written := by
  simp only [close, setSocket, Function.update_apply]
  split
  · rename_i here
    rw [here]
  · rfl

inductive Writes (s : Server) : Act → Nat → Frame → Prop where
  | handler (c : Nat) (h : Handler) (x : Choice) (handler : s.handlers c = some h) (target : Peer) (frame : Frame)
      (output : h.stage.output h.peer = some (target, frame)) : Writes s (.handler c x) target.conn frame
  | delivery (i : Nat) (d : Delivery) (x : Choice) (delivery : s.deliveries[i]? = some d) (target : Peer)
      (frame : Frame) (output : d.output = some (target, frame)) : Writes s (.delivery i x) target.conn frame
  | janitor (p : Peer) (code : Bytes) (rest : List Task) (buffered : Bool)
      (tasks : s.janitor = .send p code :: rest) : Writes s (.janitor buffered) p.conn (Task.frame code)
  | rejected (message : Option Message) (draw : Option Buf) (now : Int) (e : RegisterError)
      (refused : registerPeer s.accepted message draw now = .error e) :
      Writes s (.connect message draw now) s.accepted registerFailed

theorem send_written (s : Server) (p : Peer) (frame : Frame) (buffered : Bool) (c : Nat) :
    ((s.send p frame buffered).2.sockets c).written = (s.sockets c).written ∨
      c = p.conn ∧ ¬(s.sockets c).Dead ∧
        ((s.send p frame buffered).2.sockets c).written = (s.sockets c).written ++ [frame] := by
  simp only [send, setSocket, Function.update_apply]
  split
  · rename_i here
    subst here
    rcases Socket.send_cases (s.sockets p.conn) frame buffered with ⟨_, same⟩ | ⟨alive, sent⟩
    · exact .inl (by rw [same])
    · exact .inr ⟨rfl, alive, by rw [sent]⟩
  · exact .inl rfl

theorem send_alive (s : Server) (p : Peer) (frame : Frame) (buffered : Bool) :
    (s.sockets p.conn).Dead ∨
      ((s.send p frame buffered).2.sockets p.conn).written = (s.sockets p.conn).written ++ [frame] := by
  simp only [send, setSocket, Function.update_self]
  rcases Socket.send_cases (s.sockets p.conn) frame buffered with ⟨dead, _⟩ | ⟨_, sent⟩
  · exact .inl dead
  · exact .inr (by rw [sent])

theorem written_step {s t : Server} {act : Act} (stepped : s.step act = some t) (c : Nat) :
    (t.sockets c).written = (s.sockets c).written ∨
      ∃ frame, s.Writes act c frame ∧ ¬(s.sockets c).Dead ∧
        (t.sockets c).written = (s.sockets c).written ++ [frame] := by
  cases step_effect s t act stepped with
  | rejected message draw now u fresh e refused =>
    have accepted := drawn_accepted fresh
    rw [accepted] at refused
    simp only [connect, accepted, refused, setSocket, Function.update_apply, drawn_sockets fresh]
    split
    · rename_i here
      subst here
      rcases Socket.send_cases (s.sockets s.accepted) registerFailed false with ⟨dead, same⟩ | ⟨alive, sent⟩
      · left
        unfold Socket.writeAndClose
        dsimp only
        split <;> simp only [same]
      · exact .inr ⟨_, .rejected message draw now e refused, alive, by simp [Socket.writeAndClose, sent]⟩
    · exact .inl rfl
  | registered message draw now u fresh p accepted =>
    left
    simp only [connect, accepted, drawn_sockets fresh]
  | wrote d h x handler target frame output =>
    rcases send_written s target frame x.buffered c with same | ⟨rfl, alive, written⟩
    · exact .inl same
    · exact .inr ⟨frame, .handler d h x handler target frame output, alive, written⟩
  | refused d p x _ u fresh e _ => exact .inl (by rw [setStage_sockets, drawn_sockets fresh])
  | waits d p x _ u fresh broker _ => exact .inl (by rw [setStage_sockets, drawn_sockets fresh])
  | paired d p x _ u fresh broker pairing _ => exact .inl (by rw [setStage_sockets, drawn_sockets fresh])
  | received => exact .inl rfl
  | forwards => exact .inl rfl
  | unpaired => exact .inl rfl
  | left => exact .inl rfl
  | closed d p x _ => exact .inl (close_written s p c)
  | delivered i d x delivery target frame output =>
    rcases send_written s target frame x.buffered c with same | ⟨rfl, alive, written⟩
    · exact .inl same
    · exact .inr ⟨frame, .delivery i d x delivery target frame output, alive, written⟩
  | undelivered => exact .inl rfl
  | collected => exact .inl rfl
  | evicted p code rest buffered tasks =>
    rcases send_written s p (Task.frame code) buffered c with same | ⟨rfl, alive, written⟩
    · exact .inl same
    · exact .inr ⟨_, .janitor p code rest buffered tasks, alive, written⟩
  | disconnected p rest buffered _ => exact .inl (close_written s p c)
  | lost d _ =>
    left
    simp only [setSocket, Function.update_apply]
    split
    · rename_i here
      rw [here]
    · rfl

theorem connect_accepted (s : Server) (message : Option Message) (now : Int) (draw : Option Buf) :
    (s.connect message now draw).accepted = s.accepted + 1 := by
  unfold connect
  dsimp only
  split <;> rfl

theorem accepted_step {s t : Server} {act : Act} (stepped : s.step act = some t) :
    t.accepted = match act with
      | .connect .. => s.accepted + 1
      | _ => s.accepted := by
  cases step_effect s t act stepped with
  | rejected message draw now u fresh => rw [connect_accepted, drawn_accepted fresh]
  | registered message draw now u fresh => rw [connect_accepted, drawn_accepted fresh]
  | refused d p x _ u fresh e _ => simp only [setStage_accepted, drawn_accepted fresh]
  | waits d p x _ u fresh broker _ => simp only [setStage_accepted, drawn_accepted fresh]
  | paired d p x _ u fresh broker pairing _ => simp only [setStage_accepted, drawn_accepted fresh]
  | wrote | received | forwards | unpaired | left | closed => rfl
  | delivered | undelivered | collected | evicted | disconnected | lost => rfl

theorem setSocket_grows (s : Server) (c d : Nat) (socket : Socket) (grows : (s.sockets c).Grows socket) :
    (s.sockets d).Grows ((s.setSocket c socket).sockets d) := by
  simp only [setSocket, Function.update_apply]
  split
  · rename_i here
    rwa [here]
  · exact .refl _

theorem send_grows (s : Server) (p : Peer) (frame : Frame) (buffered : Bool) (c : Nat) :
    (s.sockets c).Grows ((s.send p frame buffered).2.sockets c) :=
  setSocket_grows s p.conn c _ (Socket.send_grows _ _ _)

theorem close_grows (s : Server) (p : Peer) (c : Nat) : (s.sockets c).Grows ((s.close p).sockets c) :=
  setSocket_grows s p.conn c _ ⟨List.prefix_refl _, id, fun _ => rfl⟩

theorem socket_step {s t : Server} {act : Act} (stepped : s.step act = some t) (c : Nat) :
    (s.sockets c).Grows (t.sockets c) := by
  cases step_effect s t act stepped with
  | rejected message draw now u fresh e refused =>
    rw [← drawn_sockets fresh]
    simp only [connect, refused]
    exact setSocket_grows { u with accepted := _ } _ c _ (Socket.writeAndClose_grows _ _)
  | registered message draw now u fresh p accepted =>
    simp only [connect, accepted, drawn_sockets fresh]
    exact .refl _
  | wrote d h x _ target frame _ => exact send_grows s target frame x.buffered c
  | refused d p x _ u fresh e _ =>
    rw [setStage_sockets, drawn_sockets fresh]
    exact .refl _
  | waits d p x _ u fresh broker _ =>
    rw [setStage_sockets, drawn_sockets fresh]
    exact .refl _
  | paired d p x _ u fresh broker pairing _ =>
    rw [setStage_sockets, drawn_sockets fresh]
    exact .refl _
  | received | forwards | unpaired | left | undelivered | collected => exact .refl _
  | closed d p x _ => exact close_grows s p c
  | delivered i d x _ target frame _ => exact send_grows s target frame x.buffered c
  | evicted p code rest buffered _ => exact send_grows s p (Task.frame code) buffered c
  | disconnected p rest buffered _ => exact close_grows s p c
  | lost d _ => exact setSocket_grows s d c _ ⟨List.prefix_refl _, fun _ => rfl, id⟩

end Server

end Rtc2Tcp.Rendezvous

import Rtc2Tcp.Peer.SignalOrder

namespace Rtc2Tcp.Rendezvous.Server

open Octets Go Signaling Transition

variable {s t : Server} {act : Act}

def writing (s : Server) : Act → Option (Nat × Frame)
  | .handler c _ => (s.handlers c).bind fun h => (h.stage.output h.peer).map fun o => (o.1.conn, o.2)
  | .delivery i _ => s.deliveries[i]?.bind fun d => d.output.map fun o => (o.1.conn, o.2)
  | .janitor _ =>
    match s.janitor with
    | .send p code :: _ => some (p.conn, Task.frame code)
    | _ => none
  | .connect message draw now =>
    match registerPeer s.accepted message draw now with
    | .error _ => some (s.accepted, registerFailed)
    | .ok _ => none
  | _ => none

theorem Writes.writing {c : Nat} {frame : Frame} (writes : s.Writes act c frame) :
    s.writing act = some (c, frame) := by
  cases writes with
  | handler e h x handler target frame output => simp [Server.writing, handler, output]
  | delivery i d x found target frame output => simp [Server.writing, found, output]
  | janitor p code rest buffered tasks => simp [Server.writing, tasks]
  | rejected message draw now e refused => simp [Server.writing, refused]

theorem evicted_no_peerLeft {waiterTTL sessionTTL : Int} {acts : List Act}
    (ran : run Server.step (initial waiterTTL sessionTTL) acts = some s) {id : Bytes} {x : Session} {p q : Peer}
    (held : Held waiterTTL sessionTTL acts id x) (members : x.Members p q)
    (removed : (id, none) ∈ teardowns waiterTTL sessionTTL acts) (frame : Frame)
    (member : frame ∈ (s.sockets p.conn).written) : frame.message.type ≠ .peerLeft := by
  have none := (told_run ran).evicted (torn_run ran) (announcing_run ran) held members (mem_teardowns.mp removed)
  rw [peersLeft, List.countP_eq_zero] at none
  simpa using none frame member

end Rtc2Tcp.Rendezvous.Server

namespace Rtc2Tcp.Peer

open Octets Go Signaling WebRTC Rendezvous Transition

def errorCode (m : Message) : Option Bytes := m.error.map ErrorPayload.code

/-- What the broker writes to a peer because it lost the connection of the other. -/
def LossNotice (m : Message) : Prop :=
  m.type = .peerLeft ∨ (m.type = .error ∧ errorCode m = some (text "relay-failed"))

instance : DecidablePred LossNotice := fun _ => inferInstanceAs (Decidable (_ ∨ _ ∧ _))

/-- What the broker writes to a peer because it has forgotten the session. -/
def ExpiryNotice (m : Message) : Prop :=
  m.type = .error ∧ (errorCode m = some (text "session-expired") ∨ errorCode m = some (text "relay-failed"))

instance : DecidablePred ExpiryNotice := fun _ => inferInstanceAs (Decidable (_ ∧ (_ ∨ _)))

namespace Network

variable {notice : Message → Prop} {n m : Network} {move : Move} {d : Nat}

/-- When the move writes a notice to one of the connections, that connection is dead already. -/
def Unheard (notice : Message → Prop) (ds : List Nat) (n : Network) (move : Move) : Prop :=
  ∀ act ∈ move.act, ∀ o ∈ n.server.writing act, o.1 ∈ ds → notice o.2.message → (n.server.sockets o.1).Dead

instance [DecidablePred notice] (ds : List Nat) (n : Network) (move : Move) : Decidable (n.Unheard notice ds move) :=
  inferInstanceAs (Decidable (∀ act ∈ move.act, ∀ o ∈ n.server.writing act, o.1 ∈ ds → notice o.2.message → _))

def Spared (notice : Message → Prop) (d : Nat) (base : List Frame) (n : Network) : Prop :=
  ∃ later, (n.server.sockets d).written = base ++ later ∧ ∀ frame ∈ later, ¬notice frame.message

theorem Spared.step {base : List Frame} {ds : List Nat} (spared : n.Spared notice d base) (member : d ∈ ds)
    (unheard : n.Unheard notice ds move) (stepped : n.step move = some m) : m.Spared notice d base := by
  obtain ⟨later, written, none⟩ := spared
  rcases written_extends stepped d with same | ⟨act, frame, acts, writes, alive, appended⟩
  · exact ⟨later, by rw [same, written], none⟩
  · refine ⟨later ++ [frame], by rw [appended, written, List.append_assoc], ?_⟩
    intro f there
    rw [List.mem_append, List.mem_singleton] at there
    rcases there with old | rfl
    · exact none f old
    · intro noticed
      exact alive (unheard act acts _ writes.writing member noticed)

/-- The next event reports the loss of the connection, or is a notice that was not yet written before. -/
def Consequence (notice : Message → Prop) (base : List Frame) (k : Client) : Prop :=
  ∀ m, k.pushed[k.taken]? = some m → Process.Lost (some m) ∨ ((visible base).length ≤ k.taken ∧ notice m)

theorem Spared.none {base : List Frame} {k : Client} (spared : n.Spared notice d base)
    (follows : k.Follows (n.server.sockets d).written)
    (mild : ∀ reason, ¬notice (brokerError (text "broker-read") reason)) {i : Nat} {message : Message}
    (late : (visible base).length ≤ i) (found : k.pushed[i]? = some message) : ¬notice message := by
  obtain ⟨later, written, none⟩ := spared
  have shown : (visible ((n.server.sockets d).written.take k.read))[i]? = some message → ¬notice message := by
    intro found
    rw [written, List.take_append, visible_append] at found
    have short : (visible (base.take k.read)).length ≤ (visible base).length := by
      have whole := congrArg List.length (visible_append (base.take k.read) (base.drop k.read))
      rw [List.take_append_drop, List.length_append] at whole
      omega
    rw [List.getElem?_append_right (Nat.le_trans short late)] at found
    obtain ⟨frame, there, same⟩ := mem_visible (List.mem_of_getElem? found)
    rw [← same]
    exact none frame (List.mem_of_mem_take there)
  rcases follows.pushed with pushed | ⟨_, reason, pushed⟩
  · rw [pushed] at found
    exact shown found
  · rw [pushed, List.getElem?_append] at found
    split at found
    · exact shown found
    · have last := List.mem_of_getElem? found
      rw [List.mem_singleton] at last
      rw [last]
      exact mild reason

theorem take_lost {e after : Endpoint} {x : Outcome} (authenticated : e.process.PostAuth)
    (lost : ∀ m, e.client.pushed[e.client.taken]? = some m → Process.Lost (some m)) (took : take e x = some after) :
    after.process.PostAuth := by
  obtain ⟨_, _, event, next, process, _⟩ := take_cases took
  have gone : Process.Lost event := by
    rcases nextEvent_cases next with ⟨m, rfl, found⟩ | ⟨rfl, _⟩
    · exact lost m found
    · exact .inl rfl
  have turn := Process.handleEvent_turn (p := e.process) (x := x) event
  rw [process]
  generalize (e.process.handleEvent event x).1 = q at turn
  cases turn with
  | keeps => exact authenticated
  | detaches => exact authenticated
  | pairs m message kind =>
    subst message
    rw [gone.kind] at kind
    cases kind
  | ends _ _ _ _ fatal => exact absurd ⟨authenticated, gone⟩ fatal

theorem keeps_authenticated {e after : Endpoint} (dialed : n.Dialed) (found : n.peers d = some e)
    (authenticated : e.process.PostAuth) (stepped : n.step move = some m) (found' : m.peers d = some after)
    (running : ∀ error x, move ≠ .stop d error x) (connected : ∀ next, move ≠ .advance d next)
    (lost : ∀ x, move = .take d x → ∀ m, e.client.pushed[e.client.taken]? = some m → Process.Lost (some m)) :
    after.process.PostAuth := by
  have same : ∀ e', n.peers d = some e' → e' = e := by
    intro e' other
    rw [found] at other
    exact (Option.some.inj other).symm
  cases peers_step stepped found' with
  | stays there =>
    rw [same after there]
    exact authenticated
  | dials mode _ _ _ _ _ last new =>
    have early := dialed d e found
    omega
  | sends e' there process =>
    rw [process, same e' there]
    exact authenticated
  | reads e' there frame next alive received process =>
    rw [process, same e' there]
    exact authenticated
  | fails e' there alive normal reason new =>
    rw [new, same e' there]
    exact authenticated
  | takes e' there x moves took =>
    have this := same e' there
    subst this
    exact take_lost authenticated (lost x moves) took
  | advances e' there next moves => exact absurd moves (connected next)
  | stops e' there error x moves => exact absurd moves (running error x)

/-- Established tunnels survive the loss of a broker socket, as long as every notice of it goes to a connection that
    is dead too. -/
theorem broker_loss_spares_tunnels (waiterTTL sessionTTL : Int) (moves later : List Move) (n u m : Network)
    (a b c : Nat) (ran : run step (initial waiterTTL sessionTTL) moves = some n)
    (lost : n.step (.server (.lose c)) = some u) (onward : run step u later = some m)
    (unheard : Along step (Unheard LossNotice [a, b]) u later)
    (d : Nat) (member : d = a ∨ d = b) (e : Endpoint) (found : m.peers d = some e)
    (authenticated : e.process.PostAuth) (move : Move) (v : Network) (stepped : m.step move = some v)
    (running : ∀ error x, move ≠ .stop d error x) (connected : ∀ next, move ≠ .advance d next)
    (resulting : ∀ x, move = .take d x → Consequence LossNotice (n.server.sockets d).written e.client)
    (after : Endpoint) (found' : v.peers d = some after) : after.process.PostAuth := by
  have whole : run step (initial waiterTTL sessionTTL) ((moves ++ [.server (.lose c)]) ++ later) = some m := by
    rw [run_append _ u _ later (run_snoc _ n u moves _ ran lost)]
    exact onward
  have spared : m.Spared LossNotice d (n.server.sockets d).written := by
    refine run_invariant (fun s move t spared met stepped => ?_) u m later ?_ unheard onward
    · exact Spared.step spared (by simpa using member) met stepped
    · rcases written_extends lost d with same | ⟨act, frame, acts, writes, _⟩
      · exact ⟨[], by rw [same, List.append_nil], by simp⟩
      · cases acts
        cases writes
  refine keeps_authenticated (dialed_run whole) found authenticated stepped found' running connected ?_
  intro x moves message next
  rcases resulting x moves message next with gone | ⟨late, noticed⟩
  · exact gone
  · refine absurd noticed (spared.none (following_run whole d e found) ?_ late next)
    intro reason
    simp [LossNotice, brokerError, errorCode]
    decide

theorem evicted_silent {waiterTTL sessionTTL : Int} {moves later : List Move} {u : Network} {id : Bytes} {x : Session}
    {now : Int} {waiters sessions : List Bytes} (ran : run step (initial waiterTTL sessionTTL) moves = some n)
    (held : n.server.broker.sessions.lookup id = some x)
    (evicts : n.step (.server (.collect now waiters sessions)) = some u)
    (gone : u.server.broker.sessions.lookup id = none) (onward : run step u later = some m)
    (member : d = x.first.conn ∨ d = x.second.conn) (frame : Frame)
    (written : frame ∈ (m.server.sockets d).written) : frame.message.type ≠ .peerLeft := by
  have served : run Server.step (Server.initial waiterTTL sessionTTL) (moves.filterMap Move.act) = some n.server :=
    server_run moves ran
  have collected : n.server.step (.collect now waiters sessions) = some u.server := by
    rcases server_step evicts with ⟨none, _⟩ | ⟨act, acts, collected⟩
    · cases none
    · cases acts
      exact collected
  have until' := run_snoc _ n.server u.server _ _ served collected
  have whole := (run_append _ u.server _ (later.filterMap Move.act) until').trans (server_run later onward)
  have removed : (id, none) ∈ Server.teardowns waiterTTL sessionTTL
      (moves.filterMap Move.act ++ [.collect now waiters sessions] ++ later.filterMap Move.act) := by
    have last : (id, none) ∈ n.server.removed (.collect now waiters sessions) u.server :=
      List.mem_map.mpr ⟨id, Server.mem_removals.mpr ⟨⟨x, held⟩, gone⟩, rfl⟩
    rw [Server.teardowns, log_append _ _ _ _ _ until', log_snoc _ _ _ _ _ _ served collected]
    exact List.mem_append_left _ (List.mem_append_right _ last)
  have once : Server.Held waiterTTL sessionTTL
      (moves.filterMap Move.act ++ [.collect now waiters sessions] ++ later.filterMap Move.act) id x :=
    ⟨_, _, n.server, List.append_assoc _ _ _, served, held⟩
  rcases member with rfl | rfl
  · exact Server.evicted_no_peerLeft whole once (.inl ⟨rfl, rfl⟩) removed frame written
  · exact Server.evicted_no_peerLeft whole once (.inr ⟨rfl, rfl⟩) removed frame written

/-- The expiry of a session at the broker spares the tunnel of its members, as long as every notice of it goes to a
    connection that is dead. -/
theorem session_expiry_spares_tunnels (waiterTTL sessionTTL : Int) (moves later : List Move) (n u m : Network)
    (id : Bytes) (x : Session) (now : Int) (waiters sessions : List Bytes)
    (ran : run step (initial waiterTTL sessionTTL) moves = some n)
    (held : n.server.broker.sessions.lookup id = some x)
    (evicts : n.step (.server (.collect now waiters sessions)) = some u)
    (gone : u.server.broker.sessions.lookup id = none) (onward : run step u later = some m)
    (unheard : Along step (Unheard ExpiryNotice [x.first.conn, x.second.conn]) u later)
    (d : Nat) (member : d = x.first.conn ∨ d = x.second.conn) (e : Endpoint) (found : m.peers d = some e)
    (authenticated : e.process.PostAuth) (move : Move) (v : Network) (stepped : m.step move = some v)
    (running : ∀ error y, move ≠ .stop d error y) (connected : ∀ next, move ≠ .advance d next)
    (resulting : ∀ y, move = .take d y → ∀ message, e.client.pushed[e.client.taken]? = some message →
      Process.Lost (some message) ∨ message.type = .peerLeft ∨
        ((visible (n.server.sockets d).written).length ≤ e.client.taken ∧ ExpiryNotice message))
    (after : Endpoint) (found' : v.peers d = some after) : after.process.PostAuth := by
  have early := run_snoc _ n u moves _ ran evicts
  have whole : run step (initial waiterTTL sessionTTL)
      ((moves ++ [.server (.collect now waiters sessions)]) ++ later) = some m := by
    rw [run_append _ u _ later early]
    exact onward
  have spared : m.Spared ExpiryNotice d (n.server.sockets d).written := by
    refine run_invariant (fun s move t spared met stepped => ?_) u m later ?_ unheard onward
    · exact Spared.step spared (by simpa using member) met stepped
    · rcases written_extends evicts d with same | ⟨act, frame, acts, writes, _⟩
      · exact ⟨[], by rw [same, List.append_nil], by simp⟩
      · cases acts
        cases writes
  refine keeps_authenticated (dialed_run whole) found authenticated stepped found' running connected ?_
  intro y moves message next
  rcases resulting y moves message next with lost | left | ⟨late, noticed⟩
  · exact lost
  · rcases (following_run whole d e found).origin (List.mem_of_getElem? next) with ⟨frame, written, same⟩ | ⟨_, same⟩
    · have absent := evicted_silent ran held evicts gone onward member frame written
      rw [same] at absent
      exact absurd left absent
    · rw [same] at left
      cases left
  · refine absurd noticed (spared.none (following_run whole d e found) ?_ late next)
    intro reason
    simp [ExpiryNotice, brokerError, errorCode]
    decide

def tunnel : List Move :=
  pairUp ++ [.server (.delivery 0 {})] ++ relayOffer ++ readAll ++
    [.server (.handler 0 { message := some (signalMessage (Process.answerSignal [])) }),
      .server (.handler 0 { order := [randomID (sampleDraw 4)] }), .server (.handler 0 {}), .read 1, .take 1 {},
      .advance 0 .authPending, .advance 1 .authPending, .advance 0 .authenticated, .advance 1 .authenticated]

def cleanup : List Move :=
  [.server (.handler 0 {}), .server (.handler 0 { order := [randomID (sampleDraw 4)] }), .server (.handler 0 {})]

def Reports (k : Client) : Prop :=
  (k.pushed[k.taken]?).map (fun m => (m.type, errorCode m)) = some (.error, some (text "broker-read"))

instance (k : Client) : Decidable (Reports k) := inferInstanceAs (Decidable (_ = _))

theorem Reports.lost {k : Client} (report : Reports k) (m : Message) (next : k.pushed[k.taken]? = some m) :
    Process.Lost (some m) := by
  rw [Reports, next] at report
  obtain ⟨kind, code⟩ := Prod.mk.inj (Option.some.inj report)
  obtain ⟨e, found, code⟩ := Option.map_eq_some_iff.mp code
  exact .inr ⟨m, e, rfl, kind, found, code⟩

/-- The connecting peer, whose own connection is lost too, does not hear of it. -/
theorem broker_loss_spares_tunnels_both :
    ∃ n u m v e after, run step (initial Broker.defaultWaiterTTL Broker.defaultSessionTTL) tunnel = some n ∧
      n.step (.server (.lose 0)) = some u ∧
      run step u ([.server (.lose 1)] ++ cleanup ++ [.fail 1 false (text "EOF")]) = some m ∧
      m.peers 1 = some e ∧ e.process.PostAuth ∧ m.step (.take 1 {}) = some v ∧ v.peers 1 = some after ∧
      after.process.PostAuth := by
  have result : ((run step (initial Broker.defaultWaiterTTL Broker.defaultSessionTTL) tunnel).bind fun n =>
      (n.step (.server (.lose 0))).bind fun u =>
      (run step u ([.server (.lose 1)] ++ cleanup ++ [.fail 1 false (text "EOF")])).bind fun m =>
      (m.step (.take 1 {})).bind fun v => (m.peers 1).bind fun e => (v.peers 1).map fun _ =>
        (decide (Along step (Unheard LossNotice [0, 1]) u
          ([.server (.lose 1)] ++ cleanup ++ [.fail 1 false (text "EOF")])),
          decide e.process.PostAuth, decide (Reports e.client))) = some (true, true, true) := by
    decide +kernel
  obtain ⟨n, ran, result⟩ := Option.bind_eq_some_iff.mp result
  obtain ⟨u, lost, result⟩ := Option.bind_eq_some_iff.mp result
  obtain ⟨m, onward, result⟩ := Option.bind_eq_some_iff.mp result
  obtain ⟨v, stepped, result⟩ := Option.bind_eq_some_iff.mp result
  obtain ⟨e, found, result⟩ := Option.bind_eq_some_iff.mp result
  obtain ⟨after, found', result⟩ := Option.map_eq_some_iff.mp result
  obtain ⟨unheard, rest⟩ := Prod.mk.inj result
  obtain ⟨authenticated, report⟩ := Prod.mk.inj rest
  have spared := broker_loss_spares_tunnels _ _ tunnel _ n u m 0 1 0 ran lost onward (of_decide_eq_true unheard) 1
    (.inr rfl) e found (of_decide_eq_true authenticated) (.take 1 {}) v stepped nofun nofun
    (fun _ _ message next => .inl ((of_decide_eq_true report : Reports e.client).lost message next)) after found'
  exact ⟨n, u, m, v, e, after, ran, lost, onward, found, of_decide_eq_true authenticated, stepped, found', spared⟩

/-- Only the exposing peer loses its connection to the broker, and the connecting one fails. -/
theorem broker_loss_fails_partner :
    ∃ n u m e f g, run step (initial Broker.defaultWaiterTTL Broker.defaultSessionTTL) tunnel = some n ∧
      n.peers 0 = some e ∧ e.process.PostAuth ∧ n.peers 1 = some f ∧ f.process.PostAuth ∧
      n.step (.server (.lose 0)) = some u ∧ run step u (cleanup ++ [.read 1, .take 1 {}]) = some m ∧
      m.peers 1 = some g ∧ g.process.state = .failed := by
  have result : ((run step (initial Broker.defaultWaiterTTL Broker.defaultSessionTTL) tunnel).bind fun n =>
      (n.peers 0).bind fun e => (n.peers 1).bind fun f => (n.step (.server (.lose 0))).bind fun u =>
      (run step u (cleanup ++ [.read 1, .take 1 {}])).bind fun m => (m.peers 1).map fun g =>
        (decide e.process.PostAuth, decide f.process.PostAuth, g.process.state)) = some (true, true, .failed) := by
    decide +kernel
  obtain ⟨n, ran, result⟩ := Option.bind_eq_some_iff.mp result
  obtain ⟨e, exposing, result⟩ := Option.bind_eq_some_iff.mp result
  obtain ⟨f, connecting, result⟩ := Option.bind_eq_some_iff.mp result
  obtain ⟨u, lost, result⟩ := Option.bind_eq_some_iff.mp result
  obtain ⟨m, onward, result⟩ := Option.bind_eq_some_iff.mp result
  obtain ⟨g, found, result⟩ := Option.map_eq_some_iff.mp result
  obtain ⟨first, rest⟩ := Prod.mk.inj result
  obtain ⟨second, failed⟩ := Prod.mk.inj rest
  exact ⟨n, u, m, e, f, g, ran, exposing, of_decide_eq_true first, connecting, of_decide_eq_true second, lost, onward,
    found, failed⟩

def expiry : Int := 9 + Broker.defaultSessionTTL + 1

/-- Both connections are lost before the session expires; the janitor writes to nobody. -/
theorem session_expiry_spares_tunnels_lost :
    ∃ n u m v e after x, run step (initial Broker.defaultWaiterTTL Broker.defaultSessionTTL)
        (tunnel ++ [.server (.lose 0), .server (.lose 1)]) = some n ∧
      n.server.broker.sessions.lookup (randomID (sampleDraw 4)) = some x ∧
      n.step (.server (.collect expiry [] [randomID (sampleDraw 4)])) = some u ∧
      run step u ([.server (.janitor false), .server (.janitor false), .server (.janitor false),
        .fail 1 false (text "EOF")]) = some m ∧
      m.peers 1 = some e ∧ e.process.PostAuth ∧ m.step (.take 1 {}) = some v ∧ v.peers 1 = some after ∧
      after.process.PostAuth := by
  have result : ((run step (initial Broker.defaultWaiterTTL Broker.defaultSessionTTL)
        (tunnel ++ [.server (.lose 0), .server (.lose 1)])).bind fun n =>
      (n.server.broker.sessions.lookup (randomID (sampleDraw 4))).bind fun x =>
      (n.step (.server (.collect expiry [] [randomID (sampleDraw 4)]))).bind fun u =>
      (run step u ([.server (.janitor false), .server (.janitor false), .server (.janitor false),
        .fail 1 false (text "EOF")])).bind fun m =>
      (m.step (.take 1 {})).bind fun v => (m.peers 1).bind fun e => (v.peers 1).map fun _ =>
        (decide (Along step (Unheard ExpiryNotice [x.first.conn, x.second.conn]) u
          ([.server (.janitor false), .server (.janitor false), .server (.janitor false),
            .fail 1 false (text "EOF")])),
          decide (x.second.conn = 1), (u.server.broker.sessions.lookup (randomID (sampleDraw 4))).isNone,
          decide e.process.PostAuth, decide (Reports e.client))) = some (true, true, true, true, true) := by
    decide +kernel
  obtain ⟨n, ran, result⟩ := Option.bind_eq_some_iff.mp result
  obtain ⟨x, held, result⟩ := Option.bind_eq_some_iff.mp result
  obtain ⟨u, evicts, result⟩ := Option.bind_eq_some_iff.mp result
  obtain ⟨m, onward, result⟩ := Option.bind_eq_some_iff.mp result
  obtain ⟨v, stepped, result⟩ := Option.bind_eq_some_iff.mp result
  obtain ⟨e, found, result⟩ := Option.bind_eq_some_iff.mp result
  obtain ⟨after, found', result⟩ := Option.map_eq_some_iff.mp result
  obtain ⟨unheard, result⟩ := Prod.mk.inj result
  obtain ⟨member, result⟩ := Prod.mk.inj result
  obtain ⟨gone, result⟩ := Prod.mk.inj result
  obtain ⟨authenticated, report⟩ := Prod.mk.inj result
  have spared := session_expiry_spares_tunnels _ _ _ _ n u m _ x expiry [] _ ran held evicts
    (Option.isNone_iff_eq_none.mp gone) onward (of_decide_eq_true unheard) 1 (.inr (of_decide_eq_true member).symm) e
    found (of_decide_eq_true authenticated) (.take 1 {}) v stepped nofun nofun
    (fun _ _ message next => .inl ((of_decide_eq_true report : Reports e.client).lost message next)) after found'
  exact ⟨n, u, m, v, e, after, x, ran, held, evicts, onward, found, of_decide_eq_true authenticated, stepped, found',
    spared⟩

/-- An hour after the pairing the janitor tells the peers of an established tunnel, and the exposing one fails. -/
theorem session_expiry_fails_member :
    ∃ n u m e f g, run step (initial Broker.defaultWaiterTTL Broker.defaultSessionTTL) tunnel = some n ∧
      n.peers 0 = some e ∧ e.process.PostAuth ∧ n.peers 1 = some f ∧ f.process.PostAuth ∧
      n.step (.server (.collect expiry [] [randomID (sampleDraw 4)])) = some u ∧
      run step u ([.server (.janitor false), .read 0, .take 0 {}]) = some m ∧
      m.peers 0 = some g ∧ g.process.state = .failed := by
  have result : ((run step (initial Broker.defaultWaiterTTL Broker.defaultSessionTTL) tunnel).bind fun n =>
      (n.peers 0).bind fun e => (n.peers 1).bind fun f =>
      (n.step (.server (.collect expiry [] [randomID (sampleDraw 4)]))).bind fun u =>
      (run step u ([.server (.janitor false), .read 0, .take 0 {}])).bind fun m => (m.peers 0).map fun g =>
        (decide e.process.PostAuth, decide f.process.PostAuth, g.process.state)) = some (true, true, .failed) := by
    decide +kernel
  obtain ⟨n, ran, result⟩ := Option.bind_eq_some_iff.mp result
  obtain ⟨e, exposing, result⟩ := Option.bind_eq_some_iff.mp result
  obtain ⟨f, connecting, result⟩ := Option.bind_eq_some_iff.mp result
  obtain ⟨u, evicts, result⟩ := Option.bind_eq_some_iff.mp result
  obtain ⟨m, onward, result⟩ := Option.bind_eq_some_iff.mp result
  obtain ⟨g, found, result⟩ := Option.map_eq_some_iff.mp result
  obtain ⟨first, rest⟩ := Prod.mk.inj result
  obtain ⟨second, failed⟩ := Prod.mk.inj rest
  exact ⟨n, u, m, e, f, g, ran, exposing, of_decide_eq_true first, connecting, of_decide_eq_true second, evicts, onward,
    found, failed⟩

end Network

end Rtc2Tcp.Peer

import Rtc2Tcp.Peer.Events

namespace Rtc2Tcp.Rendezvous

open Octets Go Signaling Transition

def Stage.forwardsTo : Stage → Option Peer
  | forwarding _ target _ => some target
  | _ => none

namespace Server

variable {s t : Server} {act : Act}

def forwardsTo (s : Server) : Act → Option Peer
  | .handler c _ => (s.handlers c).bind fun h => h.stage.forwardsTo
  | _ => none

/-- When a signal is written to a live connection, the delivery goroutine of its peer has sent. -/
def Prompt (s : Server) (act : Act) : Prop :=
  ∀ target ∈ s.forwardsTo act,
    (s.sockets target.conn).Dead ∨ ∀ d ∈ s.deliveries, d.peer.conn = target.conn → d.stage ≠ .sending

instance (s : Server) (act : Act) : Decidable (s.Prompt act) :=
  inferInstanceAs (Decidable (∀ target ∈ s.forwardsTo act, _))

/-- A signal on the wire comes after the paired message of the session it was relayed in. -/
def PairedFirst (s : Server) : Prop :=
  ∀ c before frame after, (s.sockets c).written = before ++ frame :: after → frame.message.type = .signal →
    ∃ relay first paired, frame.relay = some relay ∧ first ∈ before ∧ first.message.type = .paired ∧
      first.message.paired = some paired ∧ paired.sessionID = relay.session

def Announced (s : Server) : Prop :=
  ∀ (i : Nat) (d : Delivery), s.deliveries[i]? = some d → d.stage = .sending ∨ (s.sockets d.peer.conn).Dead ∨
    ∃ frame ∈ (s.sockets d.peer.conn).written, frame.message = d.message

theorem written_mono (stepped : s.step act = some t) {c : Nat} {frame : Frame}
    (member : frame ∈ (s.sockets c).written) : frame ∈ (t.sockets c).written := by
  rcases written_step stepped c with same | ⟨_, _, _, appended⟩
  · rwa [same]
  · rw [appended]
    exact List.mem_append_left _ member

theorem Announced.step (announced : s.Announced) (stepped : s.step act = some t) : t.Announced := by
  intro i d found
  have later : (s.sockets d.peer.conn).Dead ∨ (∃ frame ∈ (s.sockets d.peer.conn).written, frame.message = d.message) →
      (t.sockets d.peer.conn).Dead ∨ ∃ frame ∈ (t.sockets d.peer.conn).written, frame.message = d.message := by
    rintro (dead | ⟨frame, member, same⟩)
    · exact .inl ((socket_step stepped _).dead dead)
    · exact .inr ⟨frame, written_mono stepped member, same⟩
  cases deliveries_step stepped i d found with
  | stays same =>
    rcases announced i d same with waits | sent
    · exact .inl waits
    · exact .inr (later sent)
  | starts c p x moves handler u fresh broker pairing ok new started =>
    have member := List.mem_of_getElem? started
    simp only [Pairing.deliveries, List.mem_cons, List.not_mem_nil, or_false] at member
    left
    rcases member with rfl | rfl <;> rfl
  | moves x before moves same shape next =>
    right
    subst moves
    rcases announced i before same with waits | sent
    · cases step_effect s t _ stepped with
      | delivered _ e _ found' target frame output =>
        rw [same] at found'
        cases found'
        simp only [Delivery.output, waits] at output
        cases output
        rw [shape] at later ⊢
        rcases Socket.send_cases (s.sockets before.peer.conn) { message := before.message } x.buffered with
          ⟨dead, _⟩ | ⟨_, sent⟩
        · exact later (.inl dead)
        · right
          refine ⟨{ message := before.message }, ?_, rfl⟩
          simp only [setDelivery_sockets, send, setSocket, Function.update_self, sent]
          exact List.mem_append_right _ (List.mem_singleton_self _)
      | undelivered _ e _ found' stage visited =>
        rw [same] at found'
        cases found'
        rw [waits] at stage
        cases stage
    · rw [shape] at later ⊢
      exact later sent

theorem announced_run {waiterTTL sessionTTL : Int} {acts : List Act}
    (ran : run Server.step (initial waiterTTL sessionTTL) acts = some s) : s.Announced := by
  refine run_preserves (fun _ _ _ announced stepped => Announced.step announced stepped) _ s acts ?_ ran
  intro i d found
  simp [initial] at found

theorem writes_signal {waiterTTL sessionTTL : Int} {acts : List Act} (traced : s.Traced waiterTTL sessionTTL acts)
    {c : Nat} {frame : Frame} (writes : s.Writes act c frame) (kind : frame.message.type = .signal) :
    ∃ e x p signal target id, act = .handler e x ∧ s.handlers e = some ⟨p, .forwarding signal target id⟩ ∧
      target.conn = c ∧ frame.relay = some ⟨p, id⟩ := by
  cases writes with
  | handler e h x handler target frame output =>
    obtain ⟨p, stage⟩ := h
    cases stage with
    | replying message =>
      cases output
      rcases traced.replying e p message handler with other | other <;> rw [other] at kind <;> cases kind
    | forwarding signal target id =>
      cases output
      exact ⟨e, x, p, signal, target, id, rfl, handler, rfl, rfl⟩
    | acking | refusing | relayFailed | notifying => cases output; cases kind
    | pairing | reading | relaying | leaving | closing | returned => cases output
  | delivery i d x found target frame output =>
    unfold Delivery.output at output
    split at output
    · cases output
      have announces := traced.announcing i d found
      rw [kind] at announces
      cases announces
    · cases output
      cases kind
    · cases output
  | janitor => cases kind
  | rejected => cases kind

theorem LookedUp.held {waiterTTL sessionTTL : Int} {acts : List Act} {p target : Peer} {signal : Signal} {id : Bytes}
    (looked : LookedUp waiterTTL sessionTTL acts p target signal id) :
    ∃ x, Held waiterTTL sessionTTL acts id x ∧
      ((x.first = p ∧ x.second = target) ∨ (x.first = target ∧ x.second = p)) := by
  obtain ⟨before, a, after, u, v, rfl, reached, _, _, x, _, _, held, members, _⟩ := looked
  exact ⟨x, ⟨before, a :: after, u, rfl, reached, held⟩, members⟩

theorem PairedFirst.step {waiterTTL sessionTTL : Int} {acts : List Act} (ordered : s.PairedFirst)
    (ran : run Server.step (initial waiterTTL sessionTTL) acts = some s) (prompt : s.Prompt act)
    (stepped : s.step act = some t) : t.PairedFirst := by
  intro c before frame after split kind
  rcases written_step stepped c with same | ⟨new, writes, alive, appended⟩
  · rw [same] at split
    exact ordered c before frame after split kind
  · rw [appended] at split
    rcases List.eq_nil_or_concat after with rfl | ⟨front, last, rfl⟩
    · obtain ⟨rfl, rfl⟩ := List.append_inj' split rfl |>.imp_right (fun same => (List.cons.inj same).1)
      -- The signal was just written, so the goroutine that announces the session has sent before.
      have traced := traced_run ran
      have announcing := announcing_run ran
      obtain ⟨e, x, p, signal, target, id, rfl, handler, here, relay⟩ := writes_signal traced writes kind
      obtain ⟨session, held, members⟩ := (traced.forwarding e p signal target id handler).2.held
      have member : ∃ partner, (target = session.first ∧ partner = session.second) ∨
          (target = session.second ∧ partner = session.first) := by
        rcases members with ⟨_, rfl⟩ | ⟨rfl, _⟩
        · exact ⟨_, .inr ⟨rfl, rfl⟩⟩
        · exact ⟨_, .inl ⟨rfl, rfl⟩⟩
      obtain ⟨partner, member⟩ := member
      obtain ⟨i, d, found, sessionID, peer⟩ := announcing.started id session target partner held member
      have sent : d.stage ≠ .sending := by
        have forwards : target ∈ s.forwardsTo (.handler e x) := by
          simp only [forwardsTo, handler]
          rfl
        rcases prompt target forwards with dead | prompt
        · rw [here] at dead
          exact absurd dead alive
        · exact prompt d (List.mem_of_getElem? found) (by rw [peer])
      rcases announced_run ran i d found with waits | dead | ⟨first, written, message⟩
      · exact absurd waits sent
      · rw [peer, here] at dead
        exact absurd dead alive
      · obtain ⟨_, _, _, _, shape⟩ := announcing.announces i d found
        rw [peer, here] at written
        rw [shape] at message
        refine ⟨_, first, _, relay, written, by rw [message]; rfl, by rw [message]; rfl, sessionID⟩
    · rw [List.concat_eq_append, ← List.cons_append, ← List.append_assoc] at split
      exact ordered c before frame front (List.append_inj_left' split rfl) kind

end Server

end Rtc2Tcp.Rendezvous

namespace Rtc2Tcp.Peer

open Octets Go Signaling WebRTC Rendezvous Transition

theorem Client.Follows.origin {k : Client} {written : List Frame} (follows : k.Follows written) {m : Message}
    (member : m ∈ k.pushed) : (∃ frame ∈ written, frame.message = m) ∨
      ∃ reason, m = brokerError (text "broker-read") reason := by
  have old : m ∈ visible (written.take k.read) → ∃ frame ∈ written, frame.message = m := by
    intro seen
    obtain ⟨frame, there, same⟩ := mem_visible seen
    exact ⟨frame, List.mem_of_mem_take there, same⟩
  rcases follows.pushed with pushed | ⟨_, reason, pushed⟩
  · rw [pushed] at member
    exact .inl (old member)
  · rw [pushed, List.mem_append, List.mem_singleton] at member
    exact member.imp old fun same => ⟨reason, same⟩

theorem visible_split {frames : List Frame} {before after : List Message} {m : Message}
    (split : visible frames = before ++ m :: after) :
    ∃ front frame rest, frames = front ++ frame :: rest ∧ frame.message = m ∧ visible front = before := by
  induction frames generalizing before with
  | nil => simp [visible] at split
  | cons f frames ih =>
    by_cases shown : f.message.type ≠ .ping ∧ f.message.type ≠ .pong
    · have head : visible (f :: frames) = f.message :: visible frames := by
        simp only [visible, List.map_cons]
        rw [List.filter_cons_of_pos (by simpa using shown)]
      rw [head] at split
      cases before with
      | nil =>
        obtain ⟨same, _⟩ := List.cons.inj split
        exact ⟨[], f, frames, rfl, same, rfl⟩
      | cons b before =>
        obtain ⟨same, rest⟩ := List.cons.inj split
        obtain ⟨front, frame, rest', shape, message, seen⟩ := ih rest
        refine ⟨f :: front, frame, rest', by rw [shape, List.cons_append], message, ?_⟩
        have head' : visible (f :: front) = f.message :: visible front := by
          simp only [visible, List.map_cons]
          rw [List.filter_cons_of_pos (by simpa using shown)]
        rw [head', seen, same]
    · have skip : ∀ fs, visible (f :: fs) = visible fs := by
        intro fs
        simp only [visible, List.map_cons]
        rw [List.filter_cons_of_neg (by simpa using shown)]
      rw [skip] at split
      obtain ⟨front, frame, rest', shape, message, seen⟩ := ih split
      exact ⟨f :: front, frame, rest', by rw [shape, List.cons_append], message, by rw [skip, seen]⟩

theorem Client.Follows.paired_first {k : Client} {s : Server} {c : Nat}
    (follows : k.Follows (s.sockets c).written) (ordered : s.PairedFirst) {before after : List Message} {m : Message}
    (split : k.pushed = before ++ m :: after) (kind : m.type = .signal) : ∃ first ∈ before, first.type = .paired := by
  obtain ⟨after', seen⟩ : ∃ after', visible ((s.sockets c).written.take k.read) = before ++ m :: after' := by
    rcases follows.pushed with pushed | ⟨_, reason, pushed⟩
    · exact ⟨after, by rw [← pushed, split]⟩
    · rw [pushed] at split
      rcases List.eq_nil_or_concat after with rfl | ⟨front, last, rfl⟩
      · have last := (List.append_inj' split rfl).2
        rw [← (List.cons.inj last).1] at kind
        cases kind
      · rw [List.concat_eq_append, ← List.cons_append, ← List.append_assoc] at split
        exact ⟨front, List.append_inj_left' split rfl⟩
  obtain ⟨front, frame, rest, frames, message, shown⟩ := visible_split seen
  have whole : (s.sockets c).written = front ++ frame :: (rest ++ (s.sockets c).written.drop k.read) := by
    rw [← List.cons_append, ← List.append_assoc, ← frames, List.take_append_drop]
  obtain ⟨_, first, _, _, earlier, paired, _⟩ := ordered c front frame _ whole (by rw [message]; exact kind)
  refine ⟨first.message, ?_, paired⟩
  rw [← shown, visible, List.mem_filter]
  exact ⟨List.mem_map_of_mem earlier, by simp [paired]⟩

structure Endpoint.Ready (e : Endpoint) : Prop where
  bounded : e.client.closed = false → e.client.taken ≤ e.client.pushed.length
  paired : e.process.returned = none → ∀ m ∈ e.client.pushed.take e.client.taken, m.type = .paired →
    e.process.session ≠ none
  orderly : e.process.returned ≠ some (some .signalBeforePairing)

theorem Client.receive_pushed {k after : Client} {m : Message} (received : k.receive m = some after) :
    ∃ more, after.pushed = k.pushed ++ more := ⟨_, (k.receive_cases after m received).2.2.2⟩

theorem Client.fail_pushed (k : Client) (normal : Bool) (reason : Bytes) :
    (k.fail normal reason).taken = k.taken ∧ ∃ more, (k.fail normal reason).pushed = k.pushed ++ more := by
  unfold fail
  split
  · exact ⟨rfl, _, rfl⟩
  · exact ⟨rfl, [], by rw [List.append_nil]⟩

theorem Endpoint.Ready.extend {e after : Endpoint} (ready : e.Ready) (alive : e.client.closed = false)
    (process : after.process = e.process) (taken : after.client.taken = e.client.taken)
    (pushed : ∃ more, after.client.pushed = e.client.pushed ++ more) : after.Ready := by
  obtain ⟨more, pushed⟩ := pushed
  have bound := ready.bounded alive
  refine ⟨?_, ?_, ?_⟩
  · intro _
    rw [taken, pushed, List.length_append]
    omega
  · rw [process, taken, pushed, List.take_append_of_le_length bound]
    exact ready.paired
  · rw [process]
    exact ready.orderly

namespace Network

variable {n m : Network} {move : Move}

theorem take_cases {e after : Endpoint} {x : Outcome} (took : take e x = some after) :
    e.process.returned = none ∧ e.process.detached = false ∧ ∃ event, nextEvent e.client = some event ∧
      after.process = (e.process.handleEvent event x).1 ∧ after.client.taken = e.client.taken + 1 ∧
      after.client.pushed = e.client.pushed ∧ after.client.closed = e.client.closed := by
  unfold take at took
  split at took
  · rename_i running
    obtain ⟨event, next, rfl⟩ := Option.map_eq_some_iff.mp took
    exact ⟨running.1, running.2, event, next, rfl, rfl, rfl, rfl⟩
  · cases took

theorem nextEvent_cases {k : Client} {event : Option Message} (next : nextEvent k = some event) :
    (∃ m, event = some m ∧ k.pushed[k.taken]? = some m) ∨
      event = none ∧ k.closed = true ∧ k.pushed[k.taken]? = none := by
  unfold nextEvent at next
  split at next
  · rename_i m found
    cases next
    exact .inl ⟨m, rfl, found⟩
  · rename_i none
    split at next
    · rename_i closed
      cases next
      exact .inr ⟨rfl, closed, none⟩
    · cases next

theorem ready_take {e after : Endpoint} {x : Outcome} {s : Server} {c : Nat} (ready : e.Ready)
    (follows : e.client.Follows (s.sockets c).written) (ordered : s.PairedFirst) (took : take e x = some after) :
    after.Ready := by
  obtain ⟨running, _, event, next, process, taken, pushed, closed⟩ := take_cases took
  obtain ⟨after, client⟩ := after
  dsimp only at process taken pushed closed
  have turn := Process.handleEvent_turn (p := e.process) (x := x) event
  rw [← process] at turn
  have sessions : e.process.session ≠ none → after.session ≠ none := by
    intro held
    cases turn with
    | keeps => exact held
    | detaches => exact held
    | pairs => simp
    | ends _ e' returned kept => exact kept held
  refine ⟨?_, ?_, ?_⟩
  · intro alive
    rw [closed] at alive
    rcases nextEvent_cases next with ⟨m, _, found⟩ | ⟨_, ended, _⟩
    · have bound := (List.getElem?_eq_some_iff.mp found).1
      rw [taken, pushed]
      omega
    · rw [alive] at ended
      cases ended
  · intro continues m member kind
    rw [taken, pushed, List.take_add_one, List.mem_append] at member
    rcases member with old | new
    · exact sessions (ready.paired running m old kind)
    · rw [Option.mem_toList] at new
      rcases nextEvent_cases next with ⟨m', rfl, found⟩ | ⟨_, _, none⟩
      · rw [found] at new
        cases new
        cases turn with
        | keeps unpaired => exact absurd kind (unpaired m rfl)
        | detaches _ lost =>
          rw [lost.kind] at kind
          cases kind
        | pairs => simp
        | ends _ e' returned =>
          rw [returned] at continues
          cases continues
      · rw [none] at new
        cases new
  · intro early
    cases turn with
    | keeps | detaches | pairs => exact ready.orderly early
    | ends _ e' returned kept fatal unexpected =>
      rw [returned] at early
      cases early
      obtain ⟨unpaired, m, rfl, kind⟩ := unexpected rfl
      rcases nextEvent_cases next with ⟨m', same, found⟩ | ⟨none, _⟩
      · cases same
        have bound := (List.getElem?_eq_some_iff.mp found).1
        have split : e.client.pushed =
            e.client.pushed.take e.client.taken ++ m :: e.client.pushed.drop (e.client.taken + 1) := by
          rw [← (List.getElem?_eq_some_iff.mp found).2, List.getElem_cons_drop, List.take_append_drop]
        obtain ⟨first, earlier, paired⟩ := follows.paired_first ordered split kind
        exact ready.paired running first earlier paired unpaired
      · cases none

theorem ready_step {c : Nat} {after : Endpoint} (ready : ∀ c e, n.peers c = some e → e.Ready) (following : n.Following)
    (ordered : n.server.PairedFirst) (stepped : n.step move = some m) (found : m.peers c = some after) :
    after.Ready := by
  cases peers_step stepped found with
  | stays same => exact ready c after same
  | dials mode _ _ _ _ _ _ new =>
    subst new
    exact ⟨by simp [Client.fresh], by simp [Client.fresh], by simp [Process.start]⟩
  | sends e same process read pushed taken closed =>
    have before := ready c e same
    refine ⟨?_, ?_, ?_⟩
    · rw [closed, taken, pushed]
      exact before.bounded
    · rw [process, taken, pushed]
      exact before.paired
    · rw [process]
      exact before.orderly
  | reads e same frame next alive received process =>
    exact (ready c e same).extend alive process (e.client.receive_cases _ _ received).2.1
      (Client.receive_pushed received)
  | fails e same alive normal reason new =>
    subst new
    exact (ready c e same).extend alive rfl (Client.fail_pushed _ normal reason).1
      (Client.fail_pushed _ normal reason).2
  | takes e same x moves took => exact ready_take (ready c e same) (following c e same) ordered took
  | advances e same next moves advanced client =>
    have before := ready c e same
    unfold advance at advanced
    split at advanced
    · cases advanced
    · obtain ⟨state, _, process⟩ := Option.map_eq_some_iff.mp advanced
      refine ⟨?_, ?_, ?_⟩
      · rw [client]
        exact before.bounded
      · rw [client, ← process]
        exact before.paired
      · rw [← process]
        exact before.orderly
  | stops e same error x moves stopped client =>
    have before := ready c e same
    have kept : after.process.session = e.process.session ∧ after.process.returned ≠ none ∧
        after.process.returned ≠ some (some .signalBeforePairing) := by
      unfold stop at stopped
      split at stopped
      · split at stopped
        · rw [← Option.some.inj stopped]
          simp
        · rename_i reason
          split at stopped
          · rename_i own
            rw [← Option.some.inj stopped]
            rcases own with rfl | rfl <;> simp
          · cases stopped
      · cases stopped
    refine ⟨?_, fun running => absurd running kept.2.1, kept.2.2⟩
    rw [client]
    exact before.bounded

def Prompt (n : Network) (move : Move) : Prop := ∀ act ∈ move.act, n.server.Prompt act

instance (n : Network) (move : Move) : Decidable (n.Prompt move) :=
  inferInstanceAs (Decidable (∀ act ∈ move.act, _))

structure Orderly (n : Network) : Prop where
  ordered : n.server.PairedFirst
  ready : ∀ c e, n.peers c = some e → e.Ready

theorem orderly_run {waiterTTL sessionTTL : Int} {moves : List Move}
    (ran : run Network.step (initial waiterTTL sessionTTL) moves = some n)
    (prompt : Along Network.step Prompt (initial waiterTTL sessionTTL) moves) : n.Orderly := by
  apply run_history_along (initial waiterTTL sessionTTL) n moves _ _ prompt ran
  · refine ⟨?_, ?_⟩
    · intro c before frame after split
      simp [initial, Server.initial, Socket.fresh] at split
    · intro c e found
      cases found
  · intro before u move v reached orderly met stepped
    refine ⟨?_, ?_⟩
    · rcases server_step stepped with ⟨_, same⟩ | ⟨act, acts, served⟩
      · rw [same]
        exact orderly.ordered
      · exact orderly.ordered.step (server_run before reached) (met act acts) served
    · intro c after found
      exact ready_step orderly.ready (following_run reached) orderly.ordered stepped found

/-- If no signal overtakes the delivery goroutine of its target, pairing precedes signaling. -/
theorem pairing_precedes_signaling (waiterTTL sessionTTL : Int) (moves : List Move) (n : Network)
    (ran : run step (initial waiterTTL sessionTTL) moves = some n)
    (prompt : Along step Prompt (initial waiterTTL sessionTTL) moves) :
    (∀ c before frame after, (n.server.sockets c).written = before ++ frame :: after → frame.message.type = .signal →
      ∃ relay first paired, frame.relay = some relay ∧ first ∈ before ∧ first.message.type = .paired ∧
        first.message.paired = some paired ∧ paired.sessionID = relay.session) ∧
    ∀ c e, n.peers c = some e → e.process.returned ≠ some (some .signalBeforePairing) := by
  have orderly := orderly_run ran prompt
  exact ⟨orderly.ordered, fun c e found => (orderly.ready c e found).orderly⟩

/-- Two peers dial and are paired; the delivery to the connecting one runs at once. -/
def pairUp : List Move :=
  [.dial .expose (text "tokyo") (text "1") (sampleDraw 1) 0, .dial .connect (text "tokyo") (text "1") (sampleDraw 2) 5,
    .server (.handler 0 {}), .server (.handler 0 {}), .server (.handler 1 {}),
    .server (.handler 1 { draw := sampleDraw 4, now := 9 }), .server (.delivery 1 {})]

/-- The connecting peer reads that it is paired, and the broker relays its offer. -/
def relayOffer : List Move :=
  [.read 1, .take 1 {}, .read 1, .take 1 {},
    .server (.handler 1 { message := some (signalMessage (Process.offerSignal [])) }),
    .server (.handler 1 { order := [randomID (sampleDraw 4)] }), .server (.handler 1 {})]

def readAll : List Move := [.read 0, .take 0 {}, .read 0, .take 0 {}, .read 0, .take 0 {}]

theorem pairing_precedes_signaling_offer :
    ∃ n, run step (initial Broker.defaultWaiterTTL Broker.defaultSessionTTL)
        (pairUp ++ [.server (.delivery 0 {})] ++ relayOffer ++ readAll) = some n ∧
      ((n.server.sockets 0).written.map fun frame => frame.message.type) = [.registered, .paired, .signal] ∧
      ∀ c e, n.peers c = some e → e.process.returned ≠ some (some .signalBeforePairing) := by
  have result : (run step (initial Broker.defaultWaiterTTL Broker.defaultSessionTTL)
      (pairUp ++ [.server (.delivery 0 {})] ++ relayOffer ++ readAll)).map
      (fun n => (n.server.sockets 0).written.map fun frame => frame.message.type) =
        some [.registered, .paired, .signal] := by
    decide +kernel
  obtain ⟨n, ran, types⟩ := Option.map_eq_some_iff.mp result
  exact ⟨n, ran, types, (pairing_precedes_signaling _ _ _ n ran (by decide +kernel)).2⟩

/-- Before its delivery goroutine has run, the exposing peer receives an offer and gives up. -/
theorem signal_overtakes_pairing :
    ∃ n e, run step (initial Broker.defaultWaiterTTL Broker.defaultSessionTTL)
        (pairUp ++ relayOffer ++ [.server (.delivery 0 {})] ++ [.read 0, .take 0 {}, .read 0, .take 0 {}]) = some n ∧
      ((n.server.sockets 0).written.map fun frame => frame.message.type) = [.registered, .signal, .paired] ∧
      n.peers 0 = some e ∧ e.process.returned = some (some .signalBeforePairing) := by
  have result : (run step (initial Broker.defaultWaiterTTL Broker.defaultSessionTTL)
      (pairUp ++ relayOffer ++ [.server (.delivery 0 {})] ++ [.read 0, .take 0 {}, .read 0, .take 0 {}])).map
      (fun n => ((n.server.sockets 0).written.map fun frame => frame.message.type,
        (n.peers 0).map fun e => e.process.returned)) =
        some ([.registered, .signal, .paired], some (some (some .signalBeforePairing))) := by
    decide +kernel
  obtain ⟨n, ran, shape⟩ := Option.map_eq_some_iff.mp result
  obtain ⟨types, process⟩ := Prod.mk.inj shape
  obtain ⟨e, found, returned⟩ := Option.map_eq_some_iff.mp process
  exact ⟨n, e, ran, types, found, returned⟩

end Network

end Rtc2Tcp.Peer

import Rtc2Tcp.Rendezvous.Invariant

namespace Rtc2Tcp.Rendezvous

open Octets Go Signaling Transition

namespace Server

section Runs

variable (waiterTTL sessionTTL : Int) (acts : List Act)

def Received (p : Peer) (signal : Signal) : Prop :=
  Makes step (initial waiterTTL sessionTTL) acts fun s act _ => ∃ x message, act = .handler p.conn x ∧
    s.handlers p.conn = some ⟨p, .reading⟩ ∧ x.message = some message ∧ message.type = .signal ∧
    message.signal = some signal

/-- The handler of the peer has looked up where to relay the signal, when the broker held a session of exactly
    the peer and the target. -/
def LookedUp (p target : Peer) (signal : Signal) (id : Bytes) : Prop :=
  Makes step (initial waiterTTL sessionTTL) acts fun s act _ => ∃ x session, act = .handler p.conn x ∧
    s.handlers p.conn = some ⟨p, .relaying signal⟩ ∧ s.broker.sessions.lookup id = some session ∧
    ((session.first = p ∧ session.second = target) ∨ (session.first = target ∧ session.second = p)) ∧
    session.Matched

/-- Where the signals come from that the broker is about to relay, and those it has relayed. -/
structure Traced (s : Server) : Prop where
  relaying : ∀ c p signal, s.handlers c = some ⟨p, .relaying signal⟩ → Received waiterTTL sessionTTL acts p signal
  forwarding : ∀ c p signal target id, s.handlers c = some ⟨p, .forwarding signal target id⟩ →
    Received waiterTTL sessionTTL acts p signal ∧ LookedUp waiterTTL sessionTTL acts p target signal id
  replying : ∀ c p message, s.handlers c = some ⟨p, .replying message⟩ →
    message.type = .pong ∨ message.type = .error
  announcing : ∀ (i : Nat) (d : Delivery), s.deliveries[i]? = some d → d.message.type = .paired
  written : ∀ c frame, frame ∈ (s.sockets c).written → frame.message.type = .signal →
    ∃ p target signal id, frame = ⟨signalMessage signal, some ⟨p, id⟩⟩ ∧ target.conn = c ∧
      Received waiterTTL sessionTTL acts p signal ∧ LookedUp waiterTTL sessionTTL acts p target signal id

variable {waiterTTL sessionTTL acts} {s t : Server} {act : Act}

theorem Consistent.looked (ok : s.Consistent) {c : Nat} {p target : Peer} {stage : Stage} {order : List Bytes}
    {id : Bytes} (handler : s.handlers c = some ⟨p, stage⟩)
    (found : sessionPeers s.broker order p = some (some target, id)) :
    ∃ x, s.broker.sessions.lookup id = some x ∧
      ((x.first = p ∧ x.second = target) ∨ (x.first = target ∧ x.second = p)) ∧ x.Matched := by
  obtain ⟨x, held, joins⟩ := sessionPeers_some s.broker order p target id found
  obtain ⟨_, ⟨_, first, _⟩, _, second, _⟩ := ok.members id x held
  have located := (ok.located c _ handler).1
  rw [← located] at handler
  refine ⟨x, held, ?_, ok.broker.matched id x held⟩
  rcases joins with ⟨same, rfl⟩ | ⟨same, rfl⟩
  · exact .inl ⟨ok.same_peer first handler same.symm, rfl⟩
  · exact .inr ⟨rfl, ok.same_peer second handler same.symm⟩

theorem received_relaying (message : Option Message) (signal : Signal)
    (relays : Stage.received message = .relaying signal) :
    ∃ m, message = some m ∧ m.type = .signal ∧ m.signal = some signal := by
  unfold Stage.received at relays
  split at relays
  · cases relays
  · rename_i m
    split at relays
    · cases relays
    · cases relays
    · rename_i kind
      split at relays
      · cases relays
      · rename_i payload found
        cases relays
        exact ⟨m, rfl, kind, found⟩
    · cases relays

theorem received_replying (message : Option Message) (reply : Message)
    (replies : Stage.received message = .replying reply) : reply.type = .pong ∨ reply.type = .error := by
  unfold Stage.received at replies
  split at replies
  · cases replies
  · split at replies
    · cases replies
      exact .inl rfl
    · cases replies
    · split at replies
      · cases replies
        exact .inr rfl
      · cases replies
    · cases replies
      exact .inr rfl

theorem sent_relaying (stage : Stage) (ok : Bool) (output : Peer × Frame) (p : Peer)
    (sends : stage.output p = some output) :
    (∀ signal, stage.sent ok ≠ .relaying signal) ∧ (∀ message, stage.sent ok ≠ .replying message) ∧
      ∀ signal target id, stage.sent ok ≠ .forwarding signal target id := by
  cases stage <;> cases ok <;> simp_all [Stage.sent, Stage.output]

theorem unregistered_cases (left : Option (Peer × Bytes)) :
    Stage.unregistered left = .closing ∨ ∃ target id, left = some (target, id) ∧
      Stage.unregistered left = .notifying target id := by
  cases left with
  | none => exact .inl rfl
  | some left => exact .inr ⟨left.1, left.2, rfl, rfl⟩

theorem Next.relaying {p : Peer} {x : Choice} {stage after : Stage} (next : s.Next p x stage after) (signal : Signal)
    (relays : after = .relaying signal) : stage = .reading ∧ Stage.received x.message = .relaying signal := by
  cases next with
  | sent _ output sends ok => exact absurd relays ((sent_relaying _ ok output p sends).1 signal)
  | received => exact ⟨rfl, relays⟩
  | left => rcases unregistered_cases (unregisterPeer s.broker x.order p).2 with this | ⟨_, _, _, this⟩ <;>
      rw [this] at relays <;> cases relays
  | refused | paired | forwards | unpaired | closed => cases relays

theorem Next.replying {p : Peer} {x : Choice} {stage after : Stage} (next : s.Next p x stage after)
    (message : Message) (replies : after = .replying message) : message.type = .pong ∨ message.type = .error := by
  cases next with
  | sent _ output sends ok => exact absurd replies ((sent_relaying _ ok output p sends).2.1 message)
  | received => exact received_replying x.message message replies
  | left => rcases unregistered_cases (unregisterPeer s.broker x.order p).2 with this | ⟨_, _, _, this⟩ <;>
      rw [this] at replies <;> cases replies
  | refused | paired | forwards | unpaired | closed => cases replies

theorem Next.forwarding {p : Peer} {x : Choice} {stage after : Stage} (next : s.Next p x stage after)
    (signal : Signal) (target : Peer) (id : Bytes) (forwards : after = .forwarding signal target id) :
    stage = .relaying signal ∧ sessionPeers s.broker x.order p = some (some target, id) := by
  cases next with
  | sent _ output sends ok => exact absurd forwards ((sent_relaying _ ok output p sends).2.2 signal target id)
  | received =>
    unfold Stage.received at forwards
    repeat' split at forwards
    all_goals cases forwards
  | forwards signal' target' session _ found =>
    cases forwards
    exact ⟨rfl, found⟩
  | left => rcases unregistered_cases (unregisterPeer s.broker x.order p).2 with this | ⟨_, _, _, this⟩ <;>
      rw [this] at forwards <;> cases forwards
  | refused | paired | unpaired | closed => cases forwards

theorem Traced.step (traced : s.Traced waiterTTL sessionTTL acts) (ok : s.Consistent)
    (ran : run Server.step (initial waiterTTL sessionTTL) acts = some s) (stepped : s.step act = some t) :
    t.Traced waiterTTL sessionTTL (acts ++ [act]) where
  relaying c p signal handler := by
    cases handlers_step stepped c _ handler with
    | stays same => exact (traced.relaying c p signal same).snoc act
    | joins _ _ _ _ _ stage => cases stage
    | moves x stage moves before next =>
      obtain ⟨rfl, relays⟩ := next.relaying signal rfl
      obtain ⟨m, read, kind, payload⟩ := received_relaying x.message signal relays
      have located := (ok.located c _ before).1
      exact .last ran stepped ⟨x, m, by rw [moves, ← located], by rw [← located] at before; exact before,
        read, kind, payload⟩
  forwarding c p signal target id handler := by
    cases handlers_step stepped c _ handler with
    | stays same =>
      obtain ⟨received, looked⟩ := traced.forwarding c p signal target id same
      exact ⟨received.snoc act, looked.snoc act⟩
    | joins _ _ _ _ _ stage => cases stage
    | moves x stage moves before next =>
      obtain ⟨rfl, found⟩ := next.forwarding signal target id rfl
      obtain ⟨session, held, members, matched⟩ := ok.looked before found
      have located := (ok.located c _ before).1
      refine ⟨(traced.relaying c p signal before).snoc act, .last ran stepped ⟨x, session, ?_, ?_, held, members,
        matched⟩⟩
      · rw [moves, ← located]
      · rw [← located] at before
        exact before
  replying c p message handler := by
    cases handlers_step stepped c _ handler with
    | stays same => exact traced.replying c p message same
    | joins _ _ _ _ _ stage => cases stage
    | moves x stage moves before next => exact next.replying message rfl
  announcing i d delivery := by
    cases deliveries_step stepped i d delivery with
    | stays same => exact traced.announcing i d same
    | moves x before _ found same _ =>
      rw [same]
      exact traced.announcing i before found
    | starts c p x _ _ u _ broker pairing ok _ started =>
      obtain ⟨_, ⟨_, none, _⟩ | ⟨w, buf, _, _, _, _, paired, _⟩⟩ := tryPair_cases _ _ _ _ _ _ ok
      · cases none
      · cases paired
        have member := List.mem_of_getElem? started
        simp only [Pairing.deliveries, List.mem_cons, List.not_mem_nil, or_false] at member
        rcases member with rfl | rfl <;> rfl
  written c frame member kind := by
    rcases written_step stepped c with same | ⟨new, writes, _, appended⟩
    · rw [same] at member
      obtain ⟨p, target, signal, id, shape, here, received, looked⟩ := traced.written c frame member kind
      exact ⟨p, target, signal, id, shape, here, received.snoc act, looked.snoc act⟩
    · rw [appended, List.mem_append, List.mem_singleton] at member
      rcases member with old | rfl
      · obtain ⟨p, target, signal, id, shape, here, received, looked⟩ := traced.written c frame old kind
        exact ⟨p, target, signal, id, shape, here, received.snoc act, looked.snoc act⟩
      · cases writes with
        | handler d h x handler target frame output =>
          obtain ⟨p, stage⟩ := h
          cases stage with
          | forwarding signal target' id =>
            cases output
            obtain ⟨received, looked⟩ := traced.forwarding d p signal target id handler
            exact ⟨p, target, signal, id, rfl, rfl, received.snoc _, looked.snoc _⟩
          | replying message =>
            cases output
            rcases traced.replying d p message handler with other | other <;> rw [other] at kind <;> cases kind
          | acking | refusing | relayFailed | notifying => cases output; cases kind
          | pairing | reading | relaying | leaving | closing | returned => cases output
        | delivery i d x delivery target frame output =>
          have announces := traced.announcing i d delivery
          unfold Delivery.output at output
          split at output
          · cases output
            rw [announces] at kind
            cases kind
          · cases output
            cases kind
          · cases output
        | janitor => cases kind
        | rejected => cases kind

theorem traced_run (ran : run Server.step (initial waiterTTL sessionTTL) acts = some s) :
    s.Traced waiterTTL sessionTTL acts := by
  refine run_history _ s acts ?_ ?_ ran
  · constructor <;> simp [initial, Socket.fresh]
  · intro before u a v reached traced stepped
    exact traced.step (consistent_run waiterTTL sessionTTL before reached) reached stepped

theorem looked_distinct {p target : Peer} {signal : Signal} {id : Bytes}
    (looked : LookedUp waiterTTL sessionTTL acts p target signal id) : p.conn ≠ target.conn := by
  obtain ⟨before, _, _, u, _, _, reached, _, x, session, _, handler, held, members, matched⟩ := looked
  have ok := consistent_run waiterTTL sessionTTL before reached
  obtain ⟨_, ⟨_, first, _⟩, _, second, _⟩ := ok.members id session held
  intro same
  apply matched.1
  rcases members with ⟨rfl, rfl⟩ | ⟨rfl, rfl⟩
  · rw [same, second] at first
    exact (congrArg (fun h => h.peer.id) (Option.some.inj first)).symm
  · rw [← same, second] at first
    exact (congrArg (fun h => h.peer.id) (Option.some.inj first)).symm

theorem Consistent.order_irrelevant (ok : s.Consistent) {order other : List Bytes} (visited : s.Visits order)
    (visited' : s.Visits other) (p : Peer) :
    findSessionPeerLocked s.broker order p = findSessionPeerLocked s.broker other p := by
  have present : ∀ id x, s.broker.sessions.lookup id = some x → id ∈ s.broker.sessions.keys := fun id x held =>
    AList.mem_keys.mp (AList.lookup_isSome.mp (by rw [held]; rfl))
  have occupies : ∀ id x target, s.broker.sessions.lookup id = some x → x.Joins p target →
      s.broker.Occupies p.id (.session id) := by
    rintro id x target held (⟨same, _⟩ | ⟨same, _⟩)
    · exact ⟨x, held, .inl same.symm⟩
    · exact ⟨x, held, .inr same.symm⟩
  rcases findSessionPeerLocked_cases s.broker order p with ⟨result, absent⟩ | ⟨id, _, x, target, held, joins, result⟩
  · rcases findSessionPeerLocked_cases s.broker other p with ⟨result', _⟩ | ⟨jd, _, y, _, held', joins', _⟩
    · rw [result, result']
    · have clash := absent jd (visited.mem_iff.mpr (present jd y held')) y held'
      rcases joins' with ⟨same, _⟩ | ⟨same, _⟩
      · exact absurd same clash.1
      · exact absurd same clash.2
  · rcases findSessionPeerLocked_cases s.broker other p with ⟨_, absent⟩ | ⟨jd, _, y, target', held', joins', result'⟩
    · have clash := absent id (visited'.mem_iff.mpr (present id x held)) x held
      rcases joins with ⟨same, _⟩ | ⟨same, _⟩
      · exact absurd same clash.1
      · exact absurd same clash.2
    · have place := ok.broker.once p.id _ _ (occupies id x target held joins) (occupies jd y target' held' joins')
      cases place
      rw [held] at held'
      cases held'
      rw [result, result']
      have distinct := (ok.broker.matched id x held).1
      rcases joins with ⟨same, rfl⟩ | ⟨same, rfl⟩ <;> rcases joins' with ⟨same', rfl⟩ | ⟨same', rfl⟩
      · rfl
      · exact absurd (same.symm.trans same') distinct
      · exact absurd (same'.symm.trans same) distinct
      · rfl

end Runs

/-- Signals cross the broker only between the two members of a session. -/
theorem relay_isolation (waiterTTL sessionTTL : Int) (acts : List Act) (s : Server)
    (ran : run step (initial waiterTTL sessionTTL) acts = some s) :
    (∀ c frame, frame ∈ (s.sockets c).written → frame.message.type = .signal →
      ∃ p target signal id, frame = ⟨signalMessage signal, some ⟨p, id⟩⟩ ∧ target.conn = c ∧ p.conn ≠ c ∧
        Received waiterTTL sessionTTL acts p signal ∧ LookedUp waiterTTL sessionTTL acts p target signal id) ∧
    (∀ p order other, s.Visits order → s.Visits other →
      sessionPeers s.broker order p = sessionPeers s.broker other p) ∧
    ∀ c p signal x t, s.handlers c = some ⟨p, .relaying signal⟩ → (∀ id, ¬s.broker.Occupies p.id (.session id)) →
      s.step (.handler c x) = some t → t.handlers c = some ⟨p, .relayFailed⟩ ∧ t.sockets = s.sockets := by
  have ok := consistent_run waiterTTL sessionTTL acts ran
  refine ⟨?_, ?_, ?_⟩
  · intro c frame member kind
    obtain ⟨p, target, signal, id, shape, here, received, looked⟩ := (traced_run ran).written c frame member kind
    refine ⟨p, target, signal, id, shape, here, ?_, received, looked⟩
    rw [← here]
    exact looked_distinct looked
  · intro p order other visited visited'
    unfold sessionPeers
    rw [ok.order_irrelevant visited visited' p]
  · intro c p signal x t handler unpaired stepped
    have missing : sessionPeers s.broker x.order p = none := by
      apply sessionPeers_none
      intro id session held
      exact ⟨fun same => unpaired id ⟨session, held, .inl same.symm⟩,
        fun same => unpaired id ⟨session, held, .inr same.symm⟩⟩
    simp only [step, handler, Option.bind_some, handlerStep, Stage.output, proceed, missing] at stepped
    split at stepped
    · cases stepped
      exact ⟨Function.update_self _ _ _, rfl⟩
    · cases stepped

def relayedOffer : List Act :=
  [.connect (registerMessage "tokyo" .expose) (sampleDraw 1) 0,
    .connect (registerMessage "tokyo" .connect) (sampleDraw 2) 5,
    .handler 0 {}, .handler 0 {}, .handler 1 {}, .handler 1 { draw := sampleDraw 4, now := 9 },
    .delivery 0 {}, .delivery 1 {},
    .handler 1 { message := some (signalMessage { kind := .offer, sdp := some ⟨text "offer", text "v=0"⟩ }) },
    .handler 1 { order := [randomID (sampleDraw 4)] }, .handler 1 {}]

theorem relay_isolation_offer :
    ∃ s, run step (initial Broker.defaultWaiterTTL Broker.defaultSessionTTL) relayedOffer = some s ∧
      ((s.sockets 0).written.map fun frame => frame.message.type) = [.registered, .paired, .signal] ∧
      ∃ p target signal id, (s.sockets 0).written[2]? = some ⟨signalMessage signal, some ⟨p, id⟩⟩ ∧
        target.conn = 0 ∧ p.conn ≠ 0 ∧
        LookedUp Broker.defaultWaiterTTL Broker.defaultSessionTTL relayedOffer p target signal id := by
  have result : (run step (initial Broker.defaultWaiterTTL Broker.defaultSessionTTL) relayedOffer).map
      (fun s => (s.sockets 0).written.map fun frame => frame.message.type) =
        some [.registered, .paired, .signal] := by
    decide +kernel
  obtain ⟨s, ran, types⟩ := Option.map_eq_some_iff.mp result
  refine ⟨s, ran, types, ?_⟩
  obtain ⟨frame, found, kind⟩ : ∃ frame, (s.sockets 0).written[2]? = some frame ∧ frame.message.type = .signal := by
    have third : ((s.sockets 0).written.map fun frame => frame.message.type)[2]? = some .signal := by rw [types]; rfl
    rw [List.getElem?_map, Option.map_eq_some_iff] at third
    exact third
  obtain ⟨p, target, signal, id, shape, here, other, _, looked⟩ :=
    (relay_isolation _ _ relayedOffer s ran).1 0 frame (List.mem_of_getElem? found) kind
  exact ⟨p, target, signal, id, by rw [found, shape], here, other, looked⟩

end Server

end Rtc2Tcp.Rendezvous

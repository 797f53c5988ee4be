import Rtc2Tcp.Rendezvous.Server

namespace Rtc2Tcp.Rendezvous

open Octets Go Signaling Transition Sweep

def sampleDraw (n : UInt8) : Buf := ⟨List.replicate 18 n, rfl⟩

def registerMessage (token : String) (mode : PeerMode) : Message :=
  { type := .register, register := some ⟨text token, mode.string, text "1"⟩ }

def Session.Matched (s : Session) : Prop :=
  s.first.id ≠ s.second.id ∧ s.first.rendezvousKey = s.rendezvousKey ∧ s.second.rendezvousKey = s.rendezvousKey ∧
    ((s.first.mode = .connect ∧ s.second.mode = .expose) ∨ (s.first.mode = .expose ∧ s.second.mode = .connect))

inductive Place where
  | slot (key : Bytes)
  | session (id : Bytes)

namespace Broker

def Occupies (b : Broker) (peer : Bytes) : Place → Prop
  | .slot key => ∃ p, b.waiting.lookup key = some p ∧ p.id = peer
  | .session id => ∃ s, b.sessions.lookup id = some s ∧ (s.first.id = peer ∨ s.second.id = peer)

/-- What the three maps have to do with each other. -/
structure Consistent (b : Broker) : Prop where
  waiting_key : ∀ key p, b.waiting.lookup key = some p → p.rendezvousKey = key
  active : ∀ key id, b.activeKey.lookup key = some id ↔
    ∃ s, b.sessions.lookup id = some s ∧ s.id = id ∧ s.rendezvousKey = key
  identified : ∀ id s, b.sessions.lookup id = some s → s.id = id
  exclusive : ∀ key p id, b.waiting.lookup key = some p → b.activeKey.lookup key ≠ some id
  matched : ∀ id s, b.sessions.lookup id = some s → s.Matched
  once : ∀ peer here there, b.Occupies peer here → b.Occupies peer there → here = there

theorem consistent_empty (waiterTTL sessionTTL : Int) : (empty waiterTTL sessionTTL).Consistent where
  waiting_key := by simp [empty]
  active := by simp [empty]
  identified := by simp [empty]
  exclusive := by simp [empty]
  matched := by simp [empty]
  once := by
    intro peer here there inHere
    cases here <;> simp [Occupies, empty] at inHere

variable {b : Broker}

theorem Consistent.key_unique (ok : b.Consistent) {id jd : Bytes} {s t : Session}
    (foundS : b.sessions.lookup id = some s) (foundT : b.sessions.lookup jd = some t)
    (same : s.rendezvousKey = t.rendezvousKey) : id = jd := by
  have activeS := (ok.active s.rendezvousKey id).mpr ⟨s, foundS, ok.identified id s foundS, rfl⟩
  have activeT := (ok.active s.rendezvousKey jd).mpr ⟨t, foundT, ok.identified jd t foundT, same.symm⟩
  rw [activeS] at activeT
  exact Option.some.inj activeT

theorem Consistent.shrink (ok : b.Consistent) {after : Broker}
    (waiting : ∀ key p, after.waiting.lookup key = some p → b.waiting.lookup key = some p)
    (sessions : ∀ id s, after.sessions.lookup id = some s → b.sessions.lookup id = some s)
    (active : ∀ key id, after.activeKey.lookup key = some id ↔
      ∃ s, after.sessions.lookup id = some s ∧ s.id = id ∧ s.rendezvousKey = key) : after.Consistent where
  waiting_key key p found := ok.waiting_key key p (waiting key p found)
  active := active
  identified id s found := ok.identified id s (sessions id s found)
  exclusive key p id found held := by
    obtain ⟨s, present, named, keyed⟩ := (active key id).mp held
    have before := (ok.active key id).mpr ⟨s, sessions id s present, named, keyed⟩
    exact ok.exclusive key p id (waiting key p found) before
  matched id s found := ok.matched id s (sessions id s found)
  once peer here there inHere inThere := by
    have before : ∀ place, after.Occupies peer place → b.Occupies peer place := by
      intro place occupied
      cases place with
      | slot key =>
        obtain ⟨p, found, same⟩ := occupied
        exact ⟨p, waiting key p found, same⟩
      | session id =>
        obtain ⟨s, found, same⟩ := occupied
        exact ⟨s, sessions id s found, same⟩
    exact ok.once peer here there (before here inHere) (before there inThere)

theorem Consistent.wait (ok : b.Consistent) (p : Peer) (idle : b.activeKey.lookup p.rendezvousKey = none)
    (new : ∀ place, ¬b.Occupies p.id place) :
    { b with waiting := b.waiting.insert p.rendezvousKey p }.Consistent where
  waiting_key key q found := by
    rcases (lookup_insert_iff b.waiting p.rendezvousKey key p q).mp found with ⟨rfl, rfl⟩ | ⟨_, found⟩
    · rfl
    · exact ok.waiting_key key q found
  active := ok.active
  identified := ok.identified
  exclusive key q id found := by
    rcases (lookup_insert_iff b.waiting p.rendezvousKey key p q).mp found with ⟨rfl, rfl⟩ | ⟨_, found⟩
    · rw [idle]
      simp
    · exact ok.exclusive key q id found
  matched := ok.matched
  once peer here there inHere inThere := by
    have before : ∀ place, Occupies { b with waiting := b.waiting.insert p.rendezvousKey p } peer place →
        (peer = p.id ∧ place = .slot p.rendezvousKey) ∨ b.Occupies peer place := by
      intro place occupied
      cases place with
      | slot key =>
        obtain ⟨q, found, same⟩ := occupied
        rcases (lookup_insert_iff b.waiting p.rendezvousKey key p q).mp found with ⟨rfl, rfl⟩ | ⟨_, found⟩
        · exact .inl ⟨same.symm, rfl⟩
        · exact .inr ⟨q, found, same⟩
      | session id => exact .inr occupied
    rcases before here inHere with ⟨rfl, rfl⟩ | old
    · rcases before there inThere with ⟨_, rfl⟩ | old
      · rfl
      · exact absurd old (new there)
    · rcases before there inThere with ⟨rfl, _⟩ | other
      · exact absurd old (new here)
      · exact ok.once peer here there old other

theorem Consistent.pair (ok : b.Consistent) (s : Session) (id : Bytes) (named : s.id = id)
    (unused : b.sessions.lookup id = none) (idle : b.activeKey.lookup s.rendezvousKey = none)
    (waited : b.waiting.lookup s.rendezvousKey = some s.first) (new : ∀ place, ¬b.Occupies s.second.id place)
    (matched : s.Matched) :
    { b with
      waiting := b.waiting.erase s.rendezvousKey
      activeKey := b.activeKey.insert s.rendezvousKey id
      sessions := b.sessions.insert id s }.Consistent where
  waiting_key key q found := ok.waiting_key key q ((lookup_erase_iff _ _ _ _).mp found).2
  active key jd := by
    simp only [lookup_insert_iff]
    constructor
    · rintro (⟨rfl, rfl⟩ | ⟨other, held⟩)
      · exact ⟨s, .inl ⟨rfl, rfl⟩, named, rfl⟩
      · obtain ⟨t, found, same, keyed⟩ := (ok.active key jd).mp held
        have distinct : jd ≠ id := by
          rintro rfl
          rw [unused] at found
          cases found
        exact ⟨t, .inr ⟨distinct, found⟩, same, keyed⟩
    · rintro ⟨t, ⟨rfl, rfl⟩ | ⟨_, found⟩, same, rfl⟩
      · exact .inl ⟨rfl, rfl⟩
      · have held := (ok.active t.rendezvousKey jd).mpr ⟨t, found, same, rfl⟩
        refine .inr ⟨?_, held⟩
        intro this
        rw [this, idle] at held
        cases held
  identified jd t found := by
    rcases (lookup_insert_iff _ _ _ _ _).mp found with ⟨rfl, rfl⟩ | ⟨_, found⟩
    · exact named
    · exact ok.identified jd t found
  exclusive key q jd found held := by
    obtain ⟨other, found⟩ := (lookup_erase_iff _ _ _ _).mp found
    rcases (lookup_insert_iff _ _ _ _ _).mp held with ⟨this, _⟩ | ⟨_, held⟩
    · exact other this
    · exact ok.exclusive key q jd found held
  matched jd t found := by
    rcases (lookup_insert_iff _ _ _ _ _).mp found with ⟨rfl, rfl⟩ | ⟨_, found⟩
    · exact matched
    · exact ok.matched jd t found
  once peer here there inHere inThere := by
    -- The waiter moves from its slot to the session; the new peer comes from nowhere.
    have before : ∀ place, Occupies { b with
          waiting := b.waiting.erase s.rendezvousKey
          activeKey := b.activeKey.insert s.rendezvousKey id
          sessions := b.sessions.insert id s } peer place →
        (place = .session id ∧ (s.first.id = peer ∨ s.second.id = peer)) ∨
          (place ≠ .slot s.rendezvousKey ∧ b.Occupies peer place) := by
      intro place occupied
      cases place with
      | slot key =>
        obtain ⟨q, found, same⟩ := occupied
        obtain ⟨other, found⟩ := (lookup_erase_iff _ _ _ _).mp found
        exact .inr ⟨by simpa using other, q, found, same⟩
      | session jd =>
        obtain ⟨t, found, same⟩ := occupied
        rcases (lookup_insert_iff _ _ _ _ _).mp found with ⟨rfl, rfl⟩ | ⟨_, found⟩
        · exact .inl ⟨rfl, same⟩
        · exact .inr ⟨by simp, t, found, same⟩
    have clash : ∀ place, place ≠ .slot s.rendezvousKey → b.Occupies peer place →
        ¬(s.first.id = peer ∨ s.second.id = peer) := by
      rintro place other occupied (rfl | rfl)
      · exact other (ok.once _ place _ occupied ⟨s.first, waited, rfl⟩)
      · exact new place occupied
    rcases before here inHere with ⟨rfl, member⟩ | ⟨other, old⟩
    · rcases before there inThere with ⟨rfl, _⟩ | ⟨other, old⟩
      · rfl
      · exact absurd member (clash there other old)
    · rcases before there inThere with ⟨_, member⟩ | ⟨_, old'⟩
      · exact absurd member (clash here other old)
      · exact ok.once peer here there old old'

theorem Consistent.unregister (ok : b.Consistent) (order : List Bytes) (p : Peer)
    (named : ∀ id s, b.sessions.lookup id = some s → id ≠ []) (visited : order.Perm b.sessions.keys) :
    (unregisterPeer b order p).1.Consistent := by
  rcases unregisterPeer_cases b order p named visited with
    ⟨_, _, _, result⟩ | ⟨_, ⟨_, result⟩ | ⟨id, s, _, found, _, result⟩⟩
  · rw [result]
    exact ok.shrink (fun key q held => ((lookup_erase_iff _ _ _ _).mp held).2) (fun _ _ held => held) ok.active
  · rw [result]
    exact ok
  · rw [result]
    refine ok.shrink (fun _ _ held => held) (fun _ _ held => ((lookup_erase_iff _ _ _ _).mp held).2) ?_
    intro key jd
    simp only [lookup_erase_iff, ok.active]
    constructor
    · rintro ⟨other, t, held, same, rfl⟩
      refine ⟨t, ⟨?_, held⟩, same, rfl⟩
      rintro rfl
      rw [found] at held
      cases held
      exact other rfl
    · rintro ⟨t, ⟨other, held⟩, same, rfl⟩
      exact ⟨fun this => other (ok.key_unique held found this), t, held, same, rfl⟩

theorem Consistent.collect (ok : b.Consistent) (now : Int) (waiters sessions : List Bytes) :
    (collectStale b now waiters sessions).1.Consistent := by
  apply ok.shrink (fun key p held => ((collectStale_waiting b now waiters sessions key p).mp held).1)
    (fun id s held => ((collectStale_sessions b now waiters sessions id s).mp held).1)
  intro key id
  simp only [collectStale_activeKey, collectStale_sessions, ok.active]
  constructor
  · rintro ⟨⟨s, held, same, rfl⟩, kept⟩
    exact ⟨s, ⟨held, fun stale => kept ⟨id, stale.1, s, held, stale.2, rfl⟩⟩, same, rfl⟩
  · rintro ⟨s, ⟨held, kept⟩, same, rfl⟩
    refine ⟨⟨s, held, same, rfl⟩, ?_⟩
    rintro ⟨jd, visited, t, found, stale, keyed⟩
    obtain rfl := ok.key_unique found held keyed
    rw [found] at held
    cases held
    exact kept ⟨visited, stale⟩

theorem Consistent.unregistered (ok : b.Consistent) (order : List Bytes) (p : Peer)
    (named : ∀ id s, b.sessions.lookup id = some s → id ≠ []) (visited : order.Perm b.sessions.keys)
    (own : ∀ key q, b.waiting.lookup key = some q → q.id = p.id → key = p.rendezvousKey) (place : Place) :
    ¬(unregisterPeer b order p).1.Occupies p.id place := by
  rcases unregisterPeer_cases b order p named visited with
    ⟨q, waits, same, result⟩ | ⟨elsewhere, ⟨absent, result⟩ | ⟨id, s, target, found, joins, result⟩⟩
  · rw [result]
    intro occupied
    cases place with
    | slot key =>
      obtain ⟨r, held, this⟩ := occupied
      obtain ⟨other, held⟩ := (lookup_erase_iff _ _ _ _).mp held
      exact other (own key r held this)
    | session id =>
      have clash := ok.once p.id (.slot p.rendezvousKey) (.session id) ⟨q, waits, same⟩ occupied
      cases clash
  · rw [result]
    intro occupied
    cases place with
    | slot key =>
      obtain ⟨q, held, this⟩ := occupied
      obtain rfl := own key q held this
      exact elsewhere q held this
    | session id =>
      obtain ⟨s, held, this | this⟩ := occupied
      · exact (absent id s held).1 this.symm
      · exact (absent id s held).2 this.symm
  · rw [result]
    have member : b.Occupies p.id (.session id) := by
      rcases joins with ⟨same, _⟩ | ⟨same, _⟩
      · exact ⟨s, found, .inl same.symm⟩
      · exact ⟨s, found, .inr same.symm⟩
    intro occupied
    cases place with
    | slot key =>
      obtain ⟨q, held, this⟩ := occupied
      have clash := ok.once p.id (.slot key) (.session id) ⟨q, held, this⟩ member
      cases clash
    | session jd =>
      obtain ⟨t, held, this⟩ := occupied
      obtain ⟨other, held⟩ := (lookup_erase_iff _ _ _ _).mp held
      have same := ok.once p.id (.session jd) (.session id) ⟨t, held, this⟩ member
      cases same
      exact other rfl

end Broker

def Stage.Serving : Stage → Prop
  | reading | replying _ | relaying _ | forwarding .. | relayFailed | leaving => True
  | _ => False

theorem Stage.sent_serving {stage : Stage} {p : Peer} {output : Peer × Frame}
    (sends : stage.output p = some output) (ok : Bool) (serving : stage.Serving) : (stage.sent ok).Serving := by
  cases stage with
  | replying | relayFailed => trivial
  | forwarding => cases ok <;> trivial
  | reading | relaying | leaving => cases sends
  | acking | pairing | refusing | notifying | closing | returned => cases serving

theorem Stage.received_serving (message : Option Message) : (Stage.received message).Serving := by
  unfold Stage.received
  split
  · trivial
  · split
    · trivial
    · trivial
    · split <;> trivial
    · trivial

def Stage.Early : Stage → Prop
  | acking | pairing => True
  | _ => False

theorem Stage.not_early {stage : Stage} (serving : stage.Serving) : ¬stage.Early := by
  cases stage <;> simp_all [Stage.Early, Stage.Serving]

theorem Server.Next.early {s : Server} {p : Peer} {x : Choice} {stage after : Stage} (next : s.Next p x stage after)
    (early : after.Early) : stage.Early := by
  cases next with
  | sent _ output sends ok =>
    cases stage with
    | acking => trivial
    | forwarding => cases ok <;> cases early
    | refusing | replying | relayFailed | notifying => cases early
    | pairing | reading | relaying | leaving | closing | returned => cases sends
  | received => exact absurd early (Stage.not_early (Stage.received_serving x.message))
  | left => cases kind : (unregisterPeer s.broker x.order p).2 <;> rw [kind] at early <;> cases early
  | refused | paired | forwards | unpaired | closed => cases early

theorem randomID_ne_nil (buf : Buf) : randomID buf ≠ [] := by
  obtain ⟨bytes, length⟩ := buf
  match bytes, length with
  | a :: b :: c :: rest, _ => simp [randomID, RawURLEncoding.encodeToString, RawURLEncoding.sextets]

theorem registerPeer_ok (c : Nat) (message : Option Message) (draw : Option Buf) (now : Int) (p : Peer)
    (ok : registerPeer c message draw now = .ok p) :
    p.conn = c ∧ (p.mode = .expose ∨ p.mode = .connect) ∧ ∃ buf, draw = some buf ∧ p.id = randomID buf := by
  simp only [registerPeer, bind, Except.bind] at ok
  split at ok
  · split at ok
    · rename_i register _
      split at ok
      · cases ok
      · rename_i mode parsed
        split at ok
        · cases ok
        · split at ok
          · rename_i buf
            cases ok
            refine ⟨rfl, ?_, buf, rfl, rfl⟩
            cases result : parsePeerMode register.mode with
            | error e => simp [result, Except.mapError] at parsed
            | ok found =>
              simp only [result, Except.mapError, Except.ok.injEq] at parsed
              exact parsed ▸ parsePeerMode_known register.mode found result
          · cases ok
    · cases ok
  · cases ok

namespace Server

/-- The handler of the peer is there and has not yet run its deferred `unregisterPeer`. -/
def Attended (s : Server) (p : Peer) : Prop :=
  ∃ stage : Stage, s.handlers p.conn = some ⟨p, stage⟩ ∧ stage.Serving

structure Consistent (s : Server) : Prop where
  broker : s.broker.Consistent
  named : ∀ id ∈ s.issued, id ≠ []
  located : ∀ c h, s.handlers c = some h → h.peer.conn = c ∧ c < s.accepted ∧ h.peer.id ∈ s.issued
  distinct : ∀ c d h g, s.handlers c = some h → s.handlers d = some g → h.peer.id = g.peer.id → c = d
  modes : ∀ c h, s.handlers c = some h → h.peer.mode = .expose ∨ h.peer.mode = .connect
  waiters : ∀ key p, s.broker.waiting.lookup key = some p → s.Attended p
  members : ∀ id x, s.broker.sessions.lookup id = some x →
    id ∈ s.issued ∧ s.Attended x.first ∧ s.Attended x.second

theorem consistent_initial (waiterTTL sessionTTL : Int) : (initial waiterTTL sessionTTL).Consistent where
  broker := Broker.consistent_empty waiterTTL sessionTTL
  named := by simp [initial]
  located := by simp [initial]
  distinct := by simp [initial]
  modes := by simp [initial]
  waiters := by simp [initial, Broker.empty]
  members := by simp [initial, Broker.empty]

variable {s : Server}

theorem Consistent.named_sessions (ok : s.Consistent) (id : Bytes) (x : Session)
    (found : s.broker.sessions.lookup id = some x) : id ≠ [] :=
  ok.named id (ok.members id x found).1

theorem Consistent.same_peer (ok : s.Consistent) {p q : Peer} {stage other : Stage}
    (here : s.handlers p.conn = some ⟨p, stage⟩) (there : s.handlers q.conn = some ⟨q, other⟩)
    (same : p.id = q.id) : p = q := by
  have conns := ok.distinct _ _ _ _ here there same
  rw [conns, there] at here
  cases here
  rfl

theorem Consistent.attended (ok : s.Consistent) {peer : Bytes} {place : Place}
    (occupied : s.broker.Occupies peer place) : ∃ p, p.id = peer ∧ s.Attended p := by
  cases place with
  | slot key =>
    obtain ⟨p, found, same⟩ := occupied
    exact ⟨p, same, ok.waiters key p found⟩
  | session id =>
    obtain ⟨x, found, same | same⟩ := occupied
    · exact ⟨x.first, same, (ok.members id x found).2.1⟩
    · exact ⟨x.second, same, (ok.members id x found).2.2⟩

theorem Consistent.nowhere (ok : s.Consistent) {c : Nat} {h : Handler} (handler : s.handlers c = some h)
    (outside : ¬h.stage.Serving) (place : Place) : ¬s.broker.Occupies h.peer.id place := by
  obtain ⟨p, stage⟩ := h
  intro occupied
  obtain ⟨q, same, other, here, serving⟩ := ok.attended occupied
  have located := (ok.located c _ handler).1
  rw [← located] at handler
  have this := ok.same_peer here handler same
  subst this
  rw [here] at handler
  cases handler
  exact outside serving

theorem Consistent.transfer (ok : s.Consistent) {t : Server} (broker : t.broker.Consistent)
    (issued : ∀ id ∈ s.issued, id ∈ t.issued) (named : ∀ id ∈ t.issued, id ≠ [])
    (accepted : s.accepted ≤ t.accepted)
    (handlers : ∀ c g, t.handlers c = some g → ∃ h, s.handlers c = some h ∧ g.peer = h.peer)
    (waiters : ∀ key p, t.broker.waiting.lookup key = some p → t.Attended p)
    (members : ∀ id x, t.broker.sessions.lookup id = some x →
      id ∈ t.issued ∧ t.Attended x.first ∧ t.Attended x.second) : t.Consistent where
  broker := broker
  named := named
  located c g handler := by
    obtain ⟨h, before, same⟩ := handlers c g handler
    obtain ⟨conn, known, drawn⟩ := ok.located c h before
    rw [same]
    exact ⟨conn, Nat.lt_of_lt_of_le known accepted, issued _ drawn⟩
  distinct c d g g' handler handler' same := by
    obtain ⟨h, before, peer⟩ := handlers c g handler
    obtain ⟨h', before', peer'⟩ := handlers d g' handler'
    rw [peer, peer'] at same
    exact ok.distinct c d h h' before before' same
  modes c g handler := by
    obtain ⟨h, before, same⟩ := handlers c g handler
    rw [same]
    exact ok.modes c h before
  waiters := waiters
  members := members

theorem update_handlers {c : Nat} {h : Handler} {stage : Stage} (handler : s.handlers c = some h) (d : Nat)
    (g : Handler) (found : Function.update s.handlers c (some ⟨h.peer, stage⟩) d = some g) :
    ∃ h, s.handlers d = some h ∧ g.peer = h.peer := by
  by_cases same : d = c
  · subst same
    rw [Function.update_self] at found
    cases found
    exact ⟨h, handler, rfl⟩
  · rw [Function.update_of_ne same] at found
    exact ⟨g, found, rfl⟩

theorem Attended.setStage {p : Peer} {c : Nat} {h : Handler} {stage : Stage} {t : Server} (attended : s.Attended p)
    (handler : s.handlers c = some h) (serving : h.peer = p → h.stage.Serving → stage.Serving)
    (handlers : t.handlers = Function.update s.handlers c (some ⟨h.peer, stage⟩)) : t.Attended p := by
  obtain ⟨old, here, served⟩ := attended
  unfold Attended
  rw [handlers]
  by_cases same : p.conn = c
  · rw [same, handler] at here
    cases here
    exact ⟨stage, by rw [same, Function.update_self], serving rfl served⟩
  · exact ⟨old, by rw [Function.update_of_ne same, here], served⟩

theorem Consistent.move (ok : s.Consistent) {t : Server} {c : Nat} {h : Handler} {stage : Stage}
    (handler : s.handlers c = some h) (serving : h.stage.Serving → stage.Serving) (broker : t.broker = s.broker)
    (issued : t.issued = s.issued) (accepted : t.accepted = s.accepted)
    (handlers : t.handlers = Function.update s.handlers c (some ⟨h.peer, stage⟩)) : t.Consistent := by
  have attended : ∀ p, s.Attended p → t.Attended p := fun p attended =>
    attended.setStage handler (fun _ => serving) handlers
  apply ok.transfer
  · rw [broker]
    exact ok.broker
  · rw [issued]
    exact fun _ drawn => drawn
  · rw [issued]
    exact ok.named
  · rw [accepted]
  · rw [handlers]
    exact update_handlers handler
  · rw [broker]
    exact fun key p found => attended p (ok.waiters key p found)
  · rw [broker, issued]
    intro id x found
    obtain ⟨drawn, first, second⟩ := ok.members id x found
    exact ⟨drawn, attended _ first, attended _ second⟩

theorem Consistent.same (ok : s.Consistent) {t : Server} (broker : t.broker = s.broker)
    (issued : t.issued = s.issued) (accepted : s.accepted ≤ t.accepted) (handlers : t.handlers = s.handlers) :
    t.Consistent := by
  have attended : t.Attended = s.Attended := by
    funext p
    simp only [Attended, handlers]
  apply ok.transfer
  · rw [broker]
    exact ok.broker
  · rw [issued]
    exact fun _ drawn => drawn
  · rw [issued]
    exact ok.named
  · exact accepted
  · rw [handlers]
    exact fun c g found => ⟨g, found, rfl⟩
  · rw [broker, attended]
    exact ok.waiters
  · rw [broker, issued, attended]
    exact ok.members

theorem Consistent.drawn (ok : s.Consistent) {t : Server} {draw : Option Buf} (fresh : s.drawn draw = some t) :
    t.Consistent := by
  rcases drawn_cases s t draw fresh with ⟨_, rfl⟩ | ⟨buf, _, _, rfl⟩
  · exact ok
  · refine ok.transfer ok.broker (fun _ drawn => List.mem_cons_of_mem _ drawn) ?_ (Nat.le_refl _)
      (fun c g found => ⟨g, found, rfl⟩) ok.waiters ?_
    · intro id member
      rcases List.mem_cons.mp member with rfl | member
      · exact randomID_ne_nil buf
      · exact ok.named id member
    · intro id x found
      obtain ⟨drawn, first, second⟩ := ok.members id x found
      exact ⟨List.mem_cons_of_mem _ drawn, first, second⟩

theorem Consistent.join (ok : s.Consistent) (p : Peer) (conn : p.conn = s.accepted) (drawn : p.id ∈ s.issued)
    (mode : p.mode = .expose ∨ p.mode = .connect) (new : ∀ c h, s.handlers c = some h → h.peer.id ≠ p.id) :
    { s with
      accepted := s.accepted + 1
      handlers := Function.update s.handlers s.accepted (some ⟨p, .acking⟩) }.Consistent := by
  have cases : ∀ c h, Function.update s.handlers s.accepted (some ⟨p, .acking⟩) c = some h →
      (c = s.accepted ∧ h = ⟨p, .acking⟩) ∨ s.handlers c = some h := by
    intro c h found
    by_cases last : c = s.accepted
    · subst last
      rw [Function.update_self] at found
      cases found
      exact .inl ⟨rfl, rfl⟩
    · rw [Function.update_of_ne last] at found
      exact .inr found
  have attended : ∀ q, s.Attended q → Attended { s with
      accepted := s.accepted + 1
      handlers := Function.update s.handlers s.accepted (some ⟨p, .acking⟩) } q := by
    rintro q ⟨stage, here, serving⟩
    have known := (ok.located _ _ here).2.1
    exact ⟨stage, (Function.update_of_ne (Nat.ne_of_lt known) _ _).trans here, serving⟩
  refine ⟨ok.broker, ok.named, ?_, ?_, ?_, ?_, ?_⟩
  · intro c h found
    rcases cases c h found with ⟨rfl, rfl⟩ | found
    · exact ⟨conn, Nat.lt_succ_self _, drawn⟩
    · obtain ⟨here, known, old⟩ := ok.located c h found
      exact ⟨here, Nat.lt_succ_of_lt known, old⟩
  · intro c d h g found found' same
    rcases cases c h found with ⟨rfl, rfl⟩ | found
    · rcases cases d g found' with ⟨rfl, rfl⟩ | found'
      · rfl
      · exact absurd same.symm (new d g found')
    · rcases cases d g found' with ⟨rfl, rfl⟩ | found'
      · exact absurd same (new c h found)
      · exact ok.distinct c d h g found found' same
  · intro c h found
    rcases cases c h found with ⟨rfl, rfl⟩ | found
    · exact mode
    · exact ok.modes c h found
  · exact fun key q found => attended q (ok.waiters key q found)
  · intro id x found
    obtain ⟨old, first, second⟩ := ok.members id x found
    exact ⟨old, attended _ first, attended _ second⟩

theorem Consistent.registered (ok : s.Consistent) {t : Server} {message : Option Message} {draw : Option Buf}
    {now : Int} {p : Peer} (fresh : s.drawn draw = some t)
    (accepted : registerPeer t.accepted message draw now = .ok p) : (t.connect message now draw).Consistent := by
  obtain ⟨conn, mode, buf, rfl, id⟩ := registerPeer_ok _ _ _ _ _ accepted
  have drawn := ok.drawn fresh
  rcases drawn_cases s t _ fresh with ⟨none, _⟩ | ⟨buf', same, unused, rfl⟩
  · cases none
  · cases same
    simp only [connect, accepted]
    apply drawn.join p conn _ mode
    · intro c h handler clash
      have before := (ok.located c h handler).2.2
      rw [clash, id] at before
      exact unused before
    · rw [id]
      exact List.mem_cons_self

theorem unregisterPeer_shrinks (ok : s.Consistent) {order : List Bytes} (visited : s.Visits order) (p : Peer) :
    (∀ key q, (unregisterPeer s.broker order p).1.waiting.lookup key = some q →
        s.broker.waiting.lookup key = some q) ∧
      ∀ id x, (unregisterPeer s.broker order p).1.sessions.lookup id = some x →
        s.broker.sessions.lookup id = some x := by
  rcases unregisterPeer_cases s.broker order p ok.named_sessions visited with
    ⟨_, _, _, result⟩ | ⟨_, ⟨_, result⟩ | ⟨_, _, _, _, _, result⟩⟩
  · rw [result]
    exact ⟨fun key q found => ((lookup_erase_iff _ _ _ _).mp found).2, fun _ _ found => found⟩
  · rw [result]
    exact ⟨fun _ _ found => found, fun _ _ found => found⟩
  · rw [result]
    exact ⟨fun _ _ found => found, fun id x found => ((lookup_erase_iff _ _ _ _).mp found).2⟩

theorem Consistent.unregister (ok : s.Consistent) {order : List Bytes} (visited : s.Visits order) (p : Peer) :
    { s with broker := (unregisterPeer s.broker order p).1 }.Consistent := by
  have kept := unregisterPeer_shrinks ok visited p
  exact ok.transfer (ok.broker.unregister order p ok.named_sessions visited) (fun _ drawn => drawn) ok.named
    (Nat.le_refl _) (fun _ g found => ⟨g, found, rfl⟩)
    (fun key q found => ok.waiters key q (kept.1 key q found))
    (fun id x found => ok.members id x (kept.2 id x found))

theorem Consistent.collect (ok : s.Consistent) (now : Int) (waiters sessions : List Bytes) (tasks : List Task) :
    { s with broker := (collectStale s.broker now waiters sessions).1, janitor := tasks }.Consistent :=
  ok.transfer (ok.broker.collect now waiters sessions) (fun _ drawn => drawn) ok.named (Nat.le_refl _)
    (fun _ g found => ⟨g, found, rfl⟩)
    (fun key q found => ok.waiters key q ((collectStale_waiting s.broker now waiters sessions key q).mp found).1)
    (fun id x found => ok.members id x ((collectStale_sessions s.broker now waiters sessions id x).mp found).1)

theorem Consistent.leave (ok : s.Consistent) {c : Nat} {h : Handler} (stage : Stage)
    (handler : s.handlers c = some h) (nowhere : ∀ place, ¬s.broker.Occupies h.peer.id place) :
    (s.setStage c h stage).Consistent := by
  have attended : ∀ place p, s.broker.Occupies p.id place → s.Attended p → (s.setStage c h stage).Attended p := by
    intro place p occupied here
    apply here.setStage handler _ rfl
    rintro rfl
    exact absurd occupied (nowhere place)
  refine ok.transfer ok.broker (fun _ drawn => drawn) ok.named (Nat.le_refl _) (update_handlers handler) ?_ ?_
  · intro key p found
    exact attended (.slot key) p ⟨p, found, rfl⟩ (ok.waiters key p found)
  · intro id x found
    obtain ⟨drawn, first, second⟩ := ok.members id x found
    exact ⟨drawn, attended (.session id) _ ⟨x, found, .inl rfl⟩ first,
      attended (.session id) _ ⟨x, found, .inr rfl⟩ second⟩

theorem Consistent.left (ok : s.Consistent) {c : Nat} {p : Peer} {order : List Bytes} (stage : Stage)
    (handler : s.handlers c = some ⟨p, .leaving⟩) (visited : s.Visits order) :
    ({ s with broker := (unregisterPeer s.broker order p).1 }.setStage c ⟨p, .leaving⟩ stage).Consistent := by
  have unregistered := ok.unregister visited p
  apply unregistered.leave stage handler
  apply ok.broker.unregistered order p ok.named_sessions visited
  intro key q found same
  obtain ⟨_, here, _⟩ := ok.waiters key q found
  have located := (ok.located c _ handler).1
  rw [← located] at handler
  have this : q = p := ok.same_peer here handler same
  rw [← this]
  exact (ok.broker.waiting_key key q found).symm

theorem Consistent.paired (ok : s.Consistent) {c : Nat} {p : Peer} {draw : Option Buf} {now : Int} {t : Server}
    {broker : Broker} {pairing : Option Pairing} (deliveries : List Delivery)
    (handler : s.handlers c = some ⟨p, .pairing⟩) (fresh : s.drawn draw = some t)
    (result : tryPair t.broker p draw now = .ok (broker, pairing)) :
    ({ t with broker := broker, deliveries := deliveries }.setStage c ⟨p, .pairing⟩ .reading).Consistent := by
  have nowhere := ok.nowhere handler (by exact id)
  have drawn := ok.drawn fresh
  have core : t.broker = s.broker ∧ t.handlers = s.handlers := by
    rcases drawn_cases s t draw fresh with ⟨_, rfl⟩ | ⟨_, _, _, rfl⟩
    · exact ⟨rfl, rfl⟩
    · exact ⟨rfl, rfl⟩
  rw [← core.1] at nowhere
  rw [← core.2] at handler
  have located := (drawn.located c _ handler).1
  have attended : ∀ q, t.Attended q ∨ q = p →
      ({ t with broker := broker, deliveries := deliveries }.setStage c ⟨p, .pairing⟩ .reading).Attended q := by
    rintro q (here | rfl)
    · exact here.setStage handler (fun _ serving => serving.elim) rfl
    · refine ⟨.reading, ?_, trivial⟩
      rw [located]
      exact Function.update_self _ _ _
  obtain ⟨idle, ⟨_, _, rfl⟩ | ⟨w, buf, rfl, waits, other, modes, _, rfl⟩⟩ :=
    tryPair_cases t.broker broker p draw now pairing result
  · refine drawn.transfer (drawn.broker.wait p idle nowhere) (fun _ old => old) drawn.named (Nat.le_refl _)
      (update_handlers handler) ?_ ?_
    · intro key q found
      rcases (lookup_insert_iff _ _ _ _ _).mp found with ⟨_, rfl⟩ | ⟨_, found⟩
      · exact attended _ (.inr rfl)
      · exact attended q (.inl (drawn.waiters key q found))
    · intro id x found
      obtain ⟨old, first, second⟩ := drawn.members id x found
      exact ⟨old, attended _ (.inl first), attended _ (.inl second)⟩
  · have unused : randomID buf ∉ s.issued ∧ randomID buf ∈ t.issued := by
      rcases drawn_cases s t _ fresh with ⟨none, _⟩ | ⟨buf', same, unused, rfl⟩
      · cases none
      · cases same
        exact ⟨unused, List.mem_cons_self⟩
    have missing : t.broker.sessions.lookup (randomID buf) = none := by
      cases found : t.broker.sessions.lookup (randomID buf) with
      | none => rfl
      | some x =>
        rw [core.1] at found
        exact absurd (ok.members _ x found).1 unused.1
    have keyed := drawn.broker.waiting_key _ w waits
    have matched : Session.Matched ⟨randomID buf, p.rendezvousKey, w, p, now⟩ := by
      obtain ⟨_, here, _⟩ := drawn.waiters _ w waits
      refine ⟨other, keyed, rfl, ?_⟩
      have modeW := drawn.modes _ _ here
      have modeP := drawn.modes _ _ handler
      simp only at modeW modeP ⊢
      rcases modeW with w' | w' <;> rcases modeP with p' | p' <;> simp_all
    refine drawn.transfer (drawn.broker.pair ⟨randomID buf, p.rendezvousKey, w, p, now⟩ (randomID buf) rfl missing
      idle waits nowhere matched) (fun _ old => old) drawn.named (Nat.le_refl _) (update_handlers handler) ?_ ?_
    · intro key q found
      exact attended q (.inl (drawn.waiters key q ((lookup_erase_iff _ _ _ _).mp found).2))
    · intro id x found
      rcases (lookup_insert_iff _ _ _ _ _).mp found with ⟨rfl, rfl⟩ | ⟨_, found⟩
      · exact ⟨unused.2, attended _ (.inl (drawn.waiters _ w waits)), attended _ (.inr rfl)⟩
      · obtain ⟨old, first, second⟩ := drawn.members id x found
        exact ⟨old, attended _ (.inl first), attended _ (.inl second)⟩

theorem Consistent.step (ok : s.Consistent) {t : Server} {act : Act} (stepped : s.step act = some t) :
    t.Consistent := by
  cases step_effect s t act stepped with
  | rejected message draw now u fresh e refused =>
    have drawn := ok.drawn fresh
    simp only [connect, refused]
    exact drawn.same rfl rfl (Nat.le_succ _) rfl
  | registered message draw now u fresh p accepted => exact ok.registered fresh accepted
  | wrote c h x handler target frame output =>
    exact ok.move handler (Stage.sent_serving output _) rfl rfl rfl rfl
  | refused c p x handler u fresh e failed =>
    have drawn := ok.drawn fresh
    have known : u.handlers c = some ⟨p, .pairing⟩ := by
      rcases drawn_cases s u x.draw fresh with ⟨_, rfl⟩ | ⟨_, _, _, rfl⟩ <;> exact handler
    exact drawn.move known (fun serving => serving.elim) rfl rfl rfl rfl
  | waits c p x handler u fresh broker result => exact ok.paired u.deliveries handler fresh result
  | paired c p x handler u fresh broker pairing result => exact ok.paired _ handler fresh result
  | received c p x handler => exact ok.move handler (fun _ => Stage.received_serving x.message) rfl rfl rfl rfl
  | forwards c p signal x handler _ target session _ =>
    have serving : (Stage.forwarding signal target session).Serving := trivial
    exact ok.move handler (fun _ => serving) rfl rfl rfl rfl
  | unpaired c p signal x handler _ _ =>
    have serving : Stage.relayFailed.Serving := trivial
    exact ok.move handler (fun _ => serving) rfl rfl rfl rfl
  | left c p x handler visited => exact ok.left _ handler visited
  | closed c p x handler => exact ok.move handler (fun serving => serving.elim) rfl rfl rfl rfl
  | delivered i d x _ target frame _ => exact ok.same rfl rfl (Nat.le_refl _) rfl
  | undelivered i d x _ _ visited => exact (ok.unregister visited d.peer).same rfl rfl (Nat.le_refl _) rfl
  | collected now waiters sessions _ _ _ => exact ok.collect now waiters sessions _
  | evicted p code rest buffered _ => exact ok.same rfl rfl (Nat.le_refl _) rfl
  | disconnected p rest buffered _ => exact ok.same rfl rfl (Nat.le_refl _) rfl
  | lost c _ => exact ok.same rfl rfl (Nat.le_refl _) rfl

theorem consistent_run (waiterTTL sessionTTL : Int) (acts : List Act)
    (ran : run step (initial waiterTTL sessionTTL) acts = some s) : s.Consistent :=
  run_preserves (fun _ _ _ ok stepped => ok.step stepped) _ _ acts (consistent_initial waiterTTL sessionTTL) ran

structure Pairs (s : Server) (act : Act) (t : Server) (p w : Peer) (id : Bytes) (now : Int) : Prop where
  moves : ∃ x, act = .handler p.conn x
  handler : s.handlers p.conn = some ⟨p, .pairing⟩
  handlers : t.handlers = Function.update s.handlers p.conn (some ⟨p, .reading⟩)
  waits : s.broker.waiting.lookup p.rendezvousKey = some w
  other : w.id ≠ p.id
  fresh : id ∉ s.issued
  issued : t.issued = id :: s.issued
  waiting : t.broker.waiting = s.broker.waiting.erase p.rendezvousKey
  sessions : t.broker.sessions = s.broker.sessions.insert id ⟨id, p.rendezvousKey, w, p, now⟩
  deliveries : t.deliveries = s.deliveries ++
    [⟨id, w, pairedMessage id (w.mode = .connect) p.mode, .sending⟩,
      ⟨id, p, pairedMessage id (p.mode = .connect) w.mode, .sending⟩]

structure Unpairing (s t : Server) : Prop where
  issued : ∀ id ∈ s.issued, id ∈ t.issued
  sessions : ∀ id x, t.broker.sessions.lookup id = some x → s.broker.sessions.lookup id = some x
  waiting : ∀ key p, t.broker.waiting.lookup key = some p → s.broker.waiting.lookup key = some p ∨
    s.handlers p.conn = some ⟨p, .pairing⟩
  deliveries : t.deliveries.length = s.deliveries.length

theorem drawn_issued {t : Server} {draw : Option Buf} (fresh : s.drawn draw = some t) (id : Bytes)
    (old : id ∈ s.issued) : id ∈ t.issued := by
  rcases drawn_cases s t draw fresh with ⟨_, rfl⟩ | ⟨_, _, _, rfl⟩
  · exact old
  · exact List.mem_cons_of_mem _ old

theorem drawn_broker {t : Server} {draw : Option Buf} (fresh : s.drawn draw = some t) : t.broker = s.broker := by
  rcases drawn_cases s t draw fresh with ⟨_, rfl⟩ | ⟨_, _, _, rfl⟩ <;> rfl

theorem step_pairs_or_not (ok : s.Consistent) {t : Server} {act : Act} (stepped : s.step act = some t) :
    (∃ p w id now, s.Pairs act t p w id now) ∨ s.Unpairing t := by
  have idle : ∀ u : Server, u.broker = s.broker → (∀ id ∈ s.issued, id ∈ u.issued) →
      u.deliveries.length = s.deliveries.length → s.Unpairing u := by
    intro u broker issued deliveries
    exact ⟨issued, by rw [broker]; exact fun _ _ found => found,
      by rw [broker]; exact fun _ _ found => .inl found, deliveries⟩
  cases step_effect s t act stepped with
  | rejected message draw now u fresh e refused =>
    have old := drawn_issued fresh
    have same := drawn_broker fresh
    have started := congrArg List.length (drawn_deliveries fresh)
    simp only [connect, refused]
    exact .inr (idle _ same (fun id => old id) started)
  | registered message draw now u fresh p accepted =>
    have old := drawn_issued fresh
    have same := drawn_broker fresh
    have started := congrArg List.length (drawn_deliveries fresh)
    simp only [connect, accepted]
    exact .inr (idle _ same (fun id => old id) started)
  | refused c p x handler u fresh e failed =>
    have old := drawn_issued fresh
    have same := drawn_broker fresh
    have started := congrArg List.length (drawn_deliveries fresh)
    exact .inr (idle _ same (fun id => old id) started)
  | waits c p x handler u fresh broker result =>
    right
    have located : p.conn = c := (ok.located c _ handler).1
    obtain ⟨_, ⟨_, _, rfl⟩ | ⟨_, _, _, _, _, _, none, _⟩⟩ := tryPair_cases _ _ _ _ _ _ result
    · have old := drawn_issued fresh
      refine ⟨fun id => old id, ?_, ?_, ?_⟩
      · simp only [setStage_broker, drawn_broker fresh]
        exact fun _ _ found => found
      · simp only [setStage_broker, drawn_broker fresh]
        intro key q found
        rcases (lookup_insert_iff _ _ _ _ _).mp found with ⟨_, rfl⟩ | ⟨_, found⟩
        · exact .inr (by rw [located]; exact handler)
        · exact .inl found
      · simp only [setStage_deliveries, drawn_deliveries fresh]
    · cases none
  | paired c p x handler u fresh broker pairing result =>
    left
    have located : p.conn = c := (ok.located c _ handler).1
    obtain ⟨_, ⟨_, none, _⟩ | ⟨w, buf, drew, waits, other, modes, paired, rfl⟩⟩ := tryPair_cases _ _ _ _ _ _ result
    · cases none
    · cases paired
      rcases drawn_cases s u _ fresh with ⟨none, _⟩ | ⟨buf', same, unused, rfl⟩
      · rw [none] at drew
        cases drew
      · rw [drew] at same
        cases same
        subst located
        exact ⟨p, w, randomID buf, x.now, ⟨⟨x, rfl⟩, handler, rfl, waits, other, unused, rfl, rfl, rfl, rfl⟩⟩
  | wrote | received | forwards | unpaired | closed => exact .inr (idle _ rfl (fun _ old => old) rfl)
  | evicted | disconnected | lost => exact .inr (idle _ rfl (fun _ old => old) rfl)
  | left c p x _ visited =>
    obtain ⟨waiting, sessions⟩ := unregisterPeer_shrinks ok visited p
    exact .inr ⟨fun _ old => old, sessions, fun key q found => .inl (waiting key q found), rfl⟩
  | delivered i d x _ target frame _ => exact .inr (idle _ rfl (fun _ old => old) (List.length_set ..))
  | undelivered i d x _ _ visited =>
    obtain ⟨waiting, sessions⟩ := unregisterPeer_shrinks ok visited d.peer
    exact .inr ⟨fun _ old => old, sessions, fun key q found => .inl (waiting key q found), List.length_set ..⟩
  | collected now waiters sessions _ _ _ =>
    exact .inr ⟨fun _ old => old,
      fun id x found => ((collectStale_sessions s.broker now waiters sessions id x).mp found).1,
      fun key q found => .inl ((collectStale_waiting s.broker now waiters sessions key q).mp found).1, rfl⟩

theorem handlers_some {t : Server} {act : Act} (stepped : s.step act = some t) (c : Nat) (h : Handler)
    (handler : s.handlers c = some h) : ∃ g, t.handlers c = some g := by
  have updated : ∀ (d : Nat) (g : Handler), ∃ g', Function.update s.handlers d (some g) c = some g' := by
    intro d g
    by_cases here : c = d
    · exact ⟨g, by rw [here, Function.update_self]⟩
    · exact ⟨h, by rw [Function.update_of_ne here, handler]⟩
  cases step_effect s t act stepped with
  | rejected message draw now u fresh e refused =>
    simp only [connect, refused, setSocket, drawn_handlers fresh]
    exact ⟨h, handler⟩
  | registered message draw now u fresh p accepted =>
    simp only [connect, accepted, drawn_handlers fresh]
    exact updated _ _
  | refused d p x _ u fresh e _ =>
    rw [setStage_handlers, drawn_handlers fresh]
    exact updated _ _
  | waits d p x _ u fresh broker _ =>
    rw [setStage_handlers, drawn_handlers fresh]
    exact updated _ _
  | paired d p x _ u fresh broker pairing _ =>
    rw [setStage_handlers, drawn_handlers fresh]
    exact updated _ _
  | wrote | received | forwards | unpaired | left | closed => exact updated _ _
  | delivered | undelivered | collected | evicted | disconnected | lost => exact ⟨h, handler⟩

theorem handlers_persist (ok : s.Consistent) {t : Server} {act : Act} (stepped : s.step act = some t) {c : Nat}
    {p : Peer} {stage : Stage} (handler : s.handlers c = some ⟨p, stage⟩) :
    ∃ after, t.handlers c = some ⟨p, after⟩ ∧
      (after = stage ∨ ∃ x, act = .handler c x ∧ s.Next p x stage after) := by
  obtain ⟨g, found⟩ := handlers_some stepped c _ handler
  cases handlers_step stepped c g found with
  | stays same =>
    rw [handler] at same
    cases same
    exact ⟨stage, found, .inl rfl⟩
  | joins _ _ _ _ last _ =>
    have known := (ok.located c _ handler).2.1
    omega
  | moves x before moves same next =>
    rw [handler] at same
    cases same
    exact ⟨g.stage, found, .inr ⟨x, moves, next⟩⟩

/-- The handler is done with `tryPair`, and the peer no longer waits. -/
def Settled (s : Server) (p : Peer) : Prop :=
  ∃ stage : Stage, s.handlers p.conn = some ⟨p, stage⟩ ∧ ¬stage.Early ∧
    ∀ key, s.broker.waiting.lookup key ≠ some p

theorem Settled.step {p : Peer} {t : Server} {act : Act} (settled : s.Settled p) (ok : s.Consistent)
    (stepped : s.step act = some t) : t.Settled p := by
  obtain ⟨stage, handler, late, left⟩ := settled
  obtain ⟨after, found, same | ⟨x, _, next⟩⟩ := handlers_persist ok stepped handler
  all_goals
    have waiting : ∀ key, t.broker.waiting.lookup key ≠ some p := by
      intro key waits
      rcases step_pairs_or_not ok stepped with ⟨q, w, id, now, pairs⟩ | unpairing
      · rw [pairs.waiting] at waits
        exact left key ((lookup_erase_iff _ _ _ _).mp waits).2
      · rcases unpairing.waiting key p waits with waits | pairing
        · exact left key waits
        · rw [handler] at pairing
          cases pairing
          exact late trivial
  · exact ⟨after, found, by rwa [same], waiting⟩
  · exact ⟨after, found, fun early => late (next.early early), waiting⟩

theorem Consistent.member_settled (ok : s.Consistent) {id : Bytes} {x : Session} {p : Peer}
    (held : s.broker.sessions.lookup id = some x) (member : p = x.first ∨ p = x.second) : s.Settled p := by
  obtain ⟨_, first, second⟩ := ok.members id x held
  have occupied : s.broker.Occupies p.id (.session id) := by
    rcases member with rfl | rfl
    · exact ⟨x, held, .inl rfl⟩
    · exact ⟨x, held, .inr rfl⟩
  have attended : s.Attended p := by
    rcases member with rfl | rfl
    · exact first
    · exact second
  obtain ⟨stage, handler, serving⟩ := attended
  refine ⟨stage, handler, Stage.not_early serving, ?_⟩
  intro key waits
  have clash := ok.broker.once p.id (.slot key) (.session id) ⟨p, waits, rfl⟩ occupied
  cases clash

def Departed (s : Server) (p : Peer) : Prop :=
  s.Settled p ∧ ∀ id x, s.broker.sessions.lookup id = some x → x.first ≠ p ∧ x.second ≠ p

theorem Departed.step {p : Peer} {t : Server} {act : Act} (departed : s.Departed p) (ok : s.Consistent)
    (stepped : s.step act = some t) : t.Departed p := by
  obtain ⟨settled, absent⟩ := departed
  refine ⟨settled.step ok stepped, ?_⟩
  intro id x found
  rcases step_pairs_or_not ok stepped with ⟨q, w, jd, now, pairs⟩ | unpairing
  · rw [pairs.sessions] at found
    rcases (lookup_insert_iff _ _ _ _ _).mp found with ⟨rfl, rfl⟩ | ⟨_, found⟩
    · obtain ⟨stage, handler, late, left⟩ := settled
      refine ⟨?_, ?_⟩
      · rintro rfl
        exact left _ pairs.waits
      · rintro rfl
        rw [pairs.handler] at handler
        cases handler
        exact late trivial
    · exact absent id x found
  · exact absent id x (unpairing.sessions id x found)

theorem eq_empty_of_lookup {ν : Type} (m : Map ν) (none : ∀ key v, m.lookup key ≠ some v) : m = ∅ := by
  apply AList.ext
  rw [AList.empty_entries, List.eq_nil_iff_forall_not_mem]
  rintro ⟨key, v⟩ member
  exact none key v (AList.mem_lookup_iff.mpr member)

/-- The representation invariant of the broker. -/
theorem broker_invariant (waiterTTL sessionTTL : Int) (acts : List Act) (s : Server)
    (ran : run step (initial waiterTTL sessionTTL) acts = some s) :
    s.broker.Consistent ∧
    (∀ key p, s.broker.waiting.lookup key = some p → s.Attended p) ∧
    (∀ id x, s.broker.sessions.lookup id = some x → s.Attended x.first ∧ s.Attended x.second) ∧
    ((∀ c h, s.handlers c = some h → h.stage = .returned) →
      s.broker.waiting = ∅ ∧ s.broker.activeKey = ∅ ∧ s.broker.sessions = ∅) := by
  have ok := consistent_run waiterTTL sessionTTL acts ran
  refine ⟨ok.broker, ok.waiters, fun id x found => (ok.members id x found).2, ?_⟩
  intro returned
  have deserted : ∀ p, ¬s.Attended p := by
    rintro p ⟨stage, handler, serving⟩
    cases returned _ _ handler
    exact serving
  have sessions : ∀ id x, s.broker.sessions.lookup id ≠ some x := fun id x found =>
    deserted x.first (ok.members id x found).2.1
  refine ⟨?_, ?_, eq_empty_of_lookup _ sessions⟩
  · exact eq_empty_of_lookup _ fun key p found => deserted p (ok.waiters key p found)
  · apply eq_empty_of_lookup
    intro key id held
    obtain ⟨x, found, _, _⟩ := (ok.broker.active key id).mp held
    exact sessions id x found

def twoKeys : List Act :=
  [.connect (registerMessage "tokyo" .expose) (sampleDraw 1) 0,
    .connect (registerMessage "tokyo" .connect) (sampleDraw 2) 5,
    .connect (registerMessage "osaka" .connect) (sampleDraw 3) 7,
    .handler 0 {}, .handler 0 {}, .handler 1 {}, .handler 2 {}, .handler 2 {},
    .handler 1 { draw := sampleDraw 4, now := 9 },
    .handler 0 {}, .handler 0 { order := [randomID (sampleDraw 4)] }]

theorem broker_invariant_two_keys :
    ∃ s, run step (initial Broker.defaultWaiterTTL Broker.defaultSessionTTL) twoKeys = some s ∧
      s.broker.Consistent ∧ s.broker.waiting.keys = [text "osaka"] ∧ s.broker.sessions.keys = [] := by
  have result : (run step (initial Broker.defaultWaiterTTL Broker.defaultSessionTTL) twoKeys).map
      (fun s => (s.broker.waiting.keys, s.broker.sessions.keys)) = some ([text "osaka"], []) := by
    decide +kernel
  obtain ⟨s, ran, keys⟩ := Option.map_eq_some_iff.mp result
  obtain ⟨waiting, sessions⟩ := Prod.mk.inj keys
  exact ⟨s, ran, (broker_invariant _ _ twoKeys s ran).1, waiting, sessions⟩

end Server

end Rtc2Tcp.Rendezvous

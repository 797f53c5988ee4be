import Rtc2Tcp.Rendezvous.Relay

namespace Rtc2Tcp.Rendezvous

open Octets Go Signaling Transition Sweep

namespace Server

section Runs

variable (waiterTTL sessionTTL : Int) (acts : List Act)

/-- The broker has held the session at some time of the run. -/
def Held (id : Bytes) (x : Session) : Prop :=
  Passes step (initial waiterTTL sessionTTL) acts fun s => s.broker.sessions.lookup id = some x

/-- The message that announces a session to its member, when the other member is the partner. -/
def announcement (id : Bytes) (p partner : Peer) : Message := pairedMessage id (p.mode = .connect) partner.mode

/-- Every session ever held has one delivery goroutine for each member, and no peer has two. -/
structure Announcing (s : Server) : Prop where
  issued : ∀ id x, Held waiterTTL sessionTTL acts id x → id ∈ s.issued
  unique : ∀ id x y, Held waiterTTL sessionTTL acts id x → Held waiterTTL sessionTTL acts id y → x = y
  started : ∀ id x p partner, Held waiterTTL sessionTTL acts id x →
    (p = x.first ∧ partner = x.second) ∨ (p = x.second ∧ partner = x.first) →
    ∃ (i : Nat) (d : Delivery), s.deliveries[i]? = some d ∧ d.session = id ∧ d.peer = p
  settled : ∀ (i : Nat) (d : Delivery), s.deliveries[i]? = some d → s.Settled d.peer
  announces : ∀ (i : Nat) (d : Delivery), s.deliveries[i]? = some d → ∃ x partner,
    Held waiterTTL sessionTTL acts d.session x ∧
    ((d.peer = x.first ∧ partner = x.second) ∨ (d.peer = x.second ∧ partner = x.first)) ∧
    d.message = announcement d.session d.peer partner
  distinct : ∀ (i j : Nat) (d e : Delivery), s.deliveries[i]? = some d → s.deliveries[j]? = some e →
    d.peer.conn = e.peer.conn → i = j
  written : ∀ c frame, frame ∈ (s.sockets c).written → frame.message.type = .paired →
    ∃ (i : Nat) (d : Delivery), s.deliveries[i]? = some d ∧ d.peer.conn = c ∧ d.message = frame.message ∧
      d.stage ≠ .sending
  once : ∀ c, (s.sockets c).written.countP (fun frame => frame.message.type = .paired) ≤ 1
  sent : ∀ (i : Nat) (d : Delivery), s.deliveries[i]? = some d →
    d.stage = .sending ∨ { message := d.message } ∈ (s.sockets d.peer.conn).written ∨ (s.sockets d.peer.conn).Dead

variable {waiterTTL sessionTTL acts} {s t : Server} {act : Act}

theorem DeliveryNext.not_sending {d : Delivery} {x : Choice} {stage : DeliveryStage}
    (next : s.DeliveryNext d x stage) : stage ≠ .sending := by
  cases next with
  | sent output sends ok =>
    obtain ⟨session, peer, message, phase⟩ := d
    cases phase <;> cases ok <;> simp [DeliveryStage.sent]
  | left =>
    cases (unregisterPeer s.broker x.order d.peer).2 <;> simp [DeliveryStage.unregistered]

theorem deliveries_persist (ok : s.Consistent) (stepped : s.step act = some t) {i : Nat} {d : Delivery}
    (found : s.deliveries[i]? = some d) :
    ∃ stage, t.deliveries[i]? = some { d with stage := stage } ∧
      (stage = d.stage ∨ ∃ x, act = .delivery i x ∧ s.DeliveryNext d x stage) := by
  have bound : i < s.deliveries.length := (List.getElem?_eq_some_iff.mp found).1
  have longer : s.deliveries.length ≤ t.deliveries.length := by
    rcases step_pairs_or_not ok stepped with ⟨_, _, _, _, pairs⟩ | unpairing
    · rw [pairs.deliveries, List.length_append]
      omega
    · exact Nat.le_of_eq unpairing.deliveries.symm
  have here : i < t.deliveries.length := Nat.lt_of_lt_of_le bound longer
  cases deliveries_step stepped i t.deliveries[i] (List.getElem?_eq_getElem here) with
  | stays same =>
    rw [found] at same
    cases same
    exact ⟨t.deliveries[i].stage, List.getElem?_eq_getElem here, .inl rfl⟩
  | moves x before moves same shape next =>
    rw [found] at same
    cases same
    refine ⟨t.deliveries[i].stage, ?_, .inr ⟨x, moves, next⟩⟩
    rw [← shape]
    exact List.getElem?_eq_getElem here
  | starts _ _ _ _ _ _ _ _ _ _ new _ => omega

theorem Held.snoc {id : Bytes} {x : Session} (held : Held waiterTTL sessionTTL acts id x) (act : Act) :
    Held waiterTTL sessionTTL (acts ++ [act]) id x := Passes.snoc held act

theorem delivery_moves {i : Nat} {x : Choice} (stepped : s.step (.delivery i x) = some t) :
    ∃ d stage, s.deliveries[i]? = some d ∧ t.deliveries[i]? = some { d with stage := stage } ∧
      s.DeliveryNext d x stage := by
  cases step_effect s t _ stepped with
  | delivered _ d _ found target frame output =>
    have bound : i < s.deliveries.length := (List.getElem?_eq_some_iff.mp found).1
    refine ⟨d, _, found, ?_, .sent _ output (s.send target frame x.buffered).1⟩
    rw [setDelivery_deliveries, send_deliveries, List.getElem?_set_self bound]
  | undelivered _ d _ found stage visited =>
    have bound : i < s.deliveries.length := (List.getElem?_eq_some_iff.mp found).1
    refine ⟨d, _, found, ?_, .left stage visited⟩
    rw [setDelivery_deliveries, List.getElem?_set_self bound]

theorem Held.cases {id : Bytes} {x : Session} (ok : s.Consistent)
    (ran : run Server.step (initial waiterTTL sessionTTL) acts = some s) (stepped : s.step act = some t)
    (held : Held waiterTTL sessionTTL (acts ++ [act]) id x) :
    Held waiterTTL sessionTTL acts id x ∨
      ∃ p w now, s.Pairs act t p w id now ∧ x = ⟨id, p.rendezvousKey, w, p, now⟩ := by
  rcases Passes.cases (run_snoc _ s t acts act ran stepped) held with old | new
  · exact .inl old
  · rcases step_pairs_or_not ok stepped with ⟨p, w, jd, now, pairs⟩ | unpairing
    · rw [pairs.sessions] at new
      rcases (lookup_insert_iff _ _ _ _ _).mp new with ⟨rfl, rfl⟩ | ⟨_, old⟩
      · exact .inr ⟨p, w, now, pairs, rfl⟩
      · exact .inl (.last ran old)
    · exact .inl (.last ran (unpairing.sessions id x new))

theorem Announcing.fresh (announcing : s.Announcing waiterTTL sessionTTL acts) (ok : s.Consistent)
    {p w : Peer} {id : Bytes} {now : Int} (pairs : s.Pairs act t p w id now) {i : Nat} {d : Delivery}
    (found : s.deliveries[i]? = some d) : d.peer.conn ≠ p.conn ∧ d.peer.conn ≠ w.conn := by
  obtain ⟨stage, handler, late, left⟩ := announcing.settled i d found
  refine ⟨?_, ?_⟩
  · intro same
    rw [same, pairs.handler] at handler
    cases handler
    exact late trivial
  · intro same
    obtain ⟨other, waiter, _⟩ := ok.waiters _ w pairs.waits
    rw [same, waiter] at handler
    have this : d.peer = w := (congrArg Handler.peer (Option.some.inj handler)).symm
    exact left p.rendezvousKey (by rw [this]; exact pairs.waits)

theorem Pairs.conn_ne {p w : Peer} {id : Bytes} {now : Int} (ok : s.Consistent)
    (pairs : s.Pairs act t p w id now) : w.conn ≠ p.conn := by
  intro same
  obtain ⟨_, waiter, _⟩ := ok.waiters _ w pairs.waits
  rw [same, pairs.handler] at waiter
  exact pairs.other (congrArg (fun h => h.peer.id) (Option.some.inj waiter)).symm

theorem delivery_origin (ok : s.Consistent) (stepped : s.step act = some t) {i : Nat} {d : Delivery}
    (found : t.deliveries[i]? = some d) :
    (∃ e, s.deliveries[i]? = some e ∧ d.session = e.session ∧ d.peer = e.peer ∧ d.message = e.message) ∨
      ∃ p w id now, s.Pairs act t p w id now ∧
        ((i = s.deliveries.length ∧ d = ⟨id, w, announcement id w p, .sending⟩) ∨
          (i = s.deliveries.length + 1 ∧ d = ⟨id, p, announcement id p w, .sending⟩)) := by
  by_cases old : i < s.deliveries.length
  · left
    obtain ⟨stage, after, _⟩ := deliveries_persist ok stepped (List.getElem?_eq_getElem old)
    rw [found] at after
    cases after
    exact ⟨s.deliveries[i], List.getElem?_eq_getElem old, rfl, rfl, rfl⟩
  · right
    rcases step_pairs_or_not ok stepped with ⟨p, w, id, now, pairs⟩ | unpairing
    · refine ⟨p, w, id, now, pairs, ?_⟩
      rw [pairs.deliveries, List.getElem?_append_right (Nat.le_of_not_lt old)] at found
      have bound := (List.getElem?_eq_some_iff.mp found).1
      simp only [List.length_cons, List.length_nil] at bound
      have position : i = s.deliveries.length ∨ i = s.deliveries.length + 1 := by omega
      rcases position with here | here
      · rw [here, Nat.sub_self] at found
        cases found
        exact .inl ⟨here, rfl⟩
      · rw [here, Nat.add_sub_cancel_left] at found
        cases found
        exact .inr ⟨here, rfl⟩
    · have bound := (List.getElem?_eq_some_iff.mp found).1
      rw [unpairing.deliveries] at bound
      exact absurd bound old

theorem Announcing.persist (announcing : s.Announcing waiterTTL sessionTTL acts) (ok : s.Consistent)
    (stepped : s.step act = some t) {id : Bytes} {x : Session} {p partner : Peer}
    (held : Held waiterTTL sessionTTL acts id x)
    (member : (p = x.first ∧ partner = x.second) ∨ (p = x.second ∧ partner = x.first)) :
    ∃ (i : Nat) (d : Delivery), t.deliveries[i]? = some d ∧ d.session = id ∧ d.peer = p := by
  obtain ⟨i, d, found, session, peer⟩ := announcing.started id x p partner held member
  obtain ⟨stage, after, _⟩ := deliveries_persist ok stepped found
  exact ⟨i, { d with stage := stage }, after, session, peer⟩

theorem writes_paired (traced : s.Traced waiterTTL sessionTTL acts) {c : Nat} {frame : Frame}
    (writes : s.Writes act c frame) (kind : frame.message.type = .paired) :
    ∃ i x d, act = .delivery i x ∧ s.deliveries[i]? = some d ∧ d.peer.conn = c ∧ d.message = frame.message ∧
      d.stage = .sending := by
  cases writes with
  | handler e h x handler target frame output =>
    obtain ⟨p, stage⟩ := h
    cases stage with
    | replying message =>
      cases output
      rcases traced.replying e p message handler with other | other <;> rw [other] at kind <;> cases kind
    | acking | refusing | forwarding | relayFailed | notifying => cases output; cases kind
    | pairing | reading | relaying | leaving | closing | returned => cases output
  | delivery i d x found target frame output =>
    unfold Delivery.output at output
    split at output
    · rename_i stage
      cases output
      exact ⟨i, x, d, rfl, found, rfl, rfl, stage⟩
    · cases output
      cases kind
    · cases output
  | janitor => cases kind
  | rejected => cases kind

theorem Announcing.written_step (announcing : s.Announcing waiterTTL sessionTTL acts)
    (traced : s.Traced waiterTTL sessionTTL acts) (ok : s.Consistent) (stepped : s.step act = some t) (c : Nat)
    (frame : Frame) (member : frame ∈ (t.sockets c).written) (kind : frame.message.type = .paired) :
    ∃ (i : Nat) (d : Delivery), t.deliveries[i]? = some d ∧ d.peer.conn = c ∧ d.message = frame.message ∧
      d.stage ≠ .sending := by
  have old : frame ∈ (s.sockets c).written → ∃ (i : Nat) (d : Delivery), t.deliveries[i]? = some d ∧
      d.peer.conn = c ∧ d.message = frame.message ∧ d.stage ≠ .sending := by
    intro member
    obtain ⟨i, d, found, here, same, stage⟩ := announcing.written c frame member kind
    obtain ⟨after, moved, unchanged | ⟨x, _, next⟩⟩ := deliveries_persist ok stepped found
    · exact ⟨i, _, moved, here, same, by rwa [unchanged]⟩
    · exact ⟨i, _, moved, here, same, next.not_sending⟩
  rcases Server.written_step stepped c with unchanged | ⟨new, writes, _, appended⟩
  · rw [unchanged] at member
    exact old member
  · rw [appended, List.mem_append, List.mem_singleton] at member
    rcases member with member | rfl
    · exact old member
    · obtain ⟨i, x, d, rfl, found, here, same, _⟩ := writes_paired traced writes kind
      obtain ⟨e, stage, found', moved, next⟩ := delivery_moves stepped
      rw [found] at found'
      cases found'
      exact ⟨i, _, moved, here, same, next.not_sending⟩

theorem Announcing.once_step (announcing : s.Announcing waiterTTL sessionTTL acts)
    (traced : s.Traced waiterTTL sessionTTL acts) (stepped : s.step act = some t) (c : Nat) :
    (t.sockets c).written.countP (fun frame => frame.message.type = .paired) ≤ 1 := by
  rcases Server.written_step stepped c with unchanged | ⟨frame, writes, _, appended⟩
  · rw [unchanged]
    exact announcing.once c
  · rw [appended, List.countP_append, List.countP_singleton]
    by_cases kind : frame.message.type = .paired
    · obtain ⟨i, x, d, rfl, found, here, _, sending⟩ := writes_paired traced writes kind
      have none : (s.sockets c).written.countP (fun frame => frame.message.type = .paired) = 0 := by
        rw [List.countP_eq_zero]
        intro old member paired
        obtain ⟨j, e, found', here', _, stage⟩ := announcing.written c old member (by simpa using paired)
        have same := announcing.distinct i j d e found found' (here.trans here'.symm)
        subst same
        rw [found] at found'
        cases found'
        exact stage sending
      rw [none]
      split <;> omega
    · simpa [kind] using announcing.once c

theorem delivering_step {i : Nat} {d : Delivery} {x : Choice} (found : s.deliveries[i]? = some d)
    (sending : d.stage = .sending) (stepped : s.step (.delivery i x) = some t) :
    { message := d.message } ∈ (t.sockets d.peer.conn).written ∨ (t.sockets d.peer.conn).Dead := by
  have grows := socket_step stepped d.peer.conn
  simp only [Server.step, found, Option.bind_some, deliveryStep, Delivery.output, sending] at stepped
  cases stepped
  rcases send_alive s d.peer { message := d.message } x.buffered with dead | written
  · exact .inr (grows.dead dead)
  · left
    rw [setDelivery_sockets, written]
    exact List.mem_append_right _ (List.mem_singleton_self _)

theorem Announcing.sent_step (announcing : s.Announcing waiterTTL sessionTTL acts) (stepped : s.step act = some t)
    (i : Nat) (d : Delivery) (found : t.deliveries[i]? = some d) :
    d.stage = .sending ∨ { message := d.message } ∈ (t.sockets d.peer.conn).written ∨
      (t.sockets d.peer.conn).Dead := by
  have settled : ∀ (e : Delivery), { message := e.message } ∈ (s.sockets e.peer.conn).written ∨
      (s.sockets e.peer.conn).Dead → { message := e.message } ∈ (t.sockets e.peer.conn).written ∨
        (t.sockets e.peer.conn).Dead := by
    intro e before
    have grows := socket_step stepped e.peer.conn
    exact before.imp (fun written => grows.written.subset written) grows.dead
  cases deliveries_step stepped i d found with
  | stays same => exact (announcing.sent i d same).imp_right (settled d)
  | moves x before moves same shape next =>
    subst moves
    rw [shape]
    right
    rcases announcing.sent i before same with sending | earlier
    · exact delivering_step (d := before) same sending stepped
    · exact settled before earlier
  | starts c p x moves handler u fresh broker pairing ok new started =>
    left
    have member := List.mem_of_getElem? started
    simp only [Pairing.deliveries, List.mem_cons, List.not_mem_nil, or_false] at member
    rcases member with rfl | rfl <;> rfl

theorem Announcing.step (announcing : s.Announcing waiterTTL sessionTTL acts)
    (traced : s.Traced waiterTTL sessionTTL acts) (ok : s.Consistent)
    (ran : run Server.step (initial waiterTTL sessionTTL) acts = some s) (stepped : s.step act = some t) :
    t.Announcing waiterTTL sessionTTL (acts ++ [act]) where
  issued id x held := by
    rcases held.cases ok ran stepped with old | ⟨p, w, now, pairs, _⟩
    · have before := announcing.issued id x old
      rcases step_pairs_or_not ok stepped with ⟨_, _, _, _, pairs⟩ | unpairing
      · rw [pairs.issued]
        exact List.mem_cons_of_mem _ before
      · exact unpairing.issued id before
    · rw [pairs.issued]
      exact List.mem_cons_self
  unique id x y heldX heldY := by
    rcases heldX.cases ok ran stepped with old | ⟨p, w, now, pairs, rfl⟩
    · rcases heldY.cases ok ran stepped with old' | ⟨p, w, now, pairs, rfl⟩
      · exact announcing.unique id x y old old'
      · exact absurd (announcing.issued id x old) pairs.fresh
    · rcases heldY.cases ok ran stepped with old | ⟨p', w', now', pairs', rfl⟩
      · exact absurd (announcing.issued id y old) pairs.fresh
      · have same := pairs.sessions.symm.trans pairs'.sessions
        have lookups := congrArg (fun m => m.lookup id) same
        simpa using lookups
  started id x p partner held member := by
    rcases held.cases ok ran stepped with old | ⟨q, w, now, pairs, rfl⟩
    · exact announcing.persist ok stepped old member
    · rcases member with ⟨same, _⟩ | ⟨same, _⟩
      · refine ⟨s.deliveries.length, ⟨id, w, announcement id w q, .sending⟩, ?_, rfl, same.symm⟩
        rw [pairs.deliveries, List.getElem?_append_right (Nat.le_refl _), Nat.sub_self]
        rfl
      · refine ⟨s.deliveries.length + 1, ⟨id, q, announcement id q w, .sending⟩, ?_, rfl, same.symm⟩
        rw [pairs.deliveries, List.getElem?_append_right (Nat.le_add_right _ 1), Nat.add_sub_cancel_left]
        rfl
  settled i d found := by
    rcases delivery_origin ok stepped found with ⟨e, old, _, peer, _⟩ | ⟨p, w, id, now, pairs, shape⟩
    · rw [peer]
      exact (announcing.settled i e old).step ok stepped
    · have held : t.broker.sessions.lookup id = some ⟨id, p.rendezvousKey, w, p, now⟩ := by
        rw [pairs.sessions]
        exact AList.lookup_insert _
      rcases shape with ⟨_, rfl⟩ | ⟨_, rfl⟩
      · exact (ok.step stepped).member_settled held (.inl rfl)
      · exact (ok.step stepped).member_settled held (.inr rfl)
  announces i d found := by
    rcases delivery_origin ok stepped found with ⟨e, old, session, peer, message⟩ | ⟨p, w, id, now, pairs, shape⟩
    · obtain ⟨x, partner, held, member, same⟩ := announcing.announces i e old
      refine ⟨x, partner, ?_, ?_, ?_⟩
      · rw [session]
        exact held.snoc act
      · rw [peer]
        exact member
      · rw [message, session, peer]
        exact same
    · have held : Held waiterTTL sessionTTL (acts ++ [act]) id ⟨id, p.rendezvousKey, w, p, now⟩ := by
        refine .last (run_snoc _ s t acts act ran stepped) ?_
        rw [pairs.sessions]
        exact AList.lookup_insert _
      rcases shape with ⟨_, rfl⟩ | ⟨_, rfl⟩
      · exact ⟨_, p, held, .inl ⟨rfl, rfl⟩, rfl⟩
      · exact ⟨_, w, held, .inr ⟨rfl, rfl⟩, rfl⟩
  distinct i j d e found found' same := by
    rcases delivery_origin ok stepped found with ⟨d', old, _, peer, _⟩ | ⟨p, w, id, now, pairs, shape⟩
    · rcases delivery_origin ok stepped found' with ⟨e', old', _, peer', _⟩ | ⟨p, w, id, now, pairs, shape⟩
      · rw [peer, peer'] at same
        exact announcing.distinct i j d' e' old old' same
      · have fresh := announcing.fresh ok pairs old
        rw [peer] at same
        rcases shape with ⟨_, rfl⟩ | ⟨_, rfl⟩
        · exact absurd same fresh.2
        · exact absurd same fresh.1
    · rcases delivery_origin ok stepped found' with ⟨e', old', _, peer', _⟩ | ⟨p', w', id', now', pairs', shape'⟩
      · have fresh := announcing.fresh ok pairs old'
        rw [peer'] at same
        rcases shape with ⟨_, rfl⟩ | ⟨_, rfl⟩
        · exact absurd same.symm fresh.2
        · exact absurd same.symm fresh.1
      · -- Both are new; the two of one pairing have different connections.
        have apart := pairs.conn_ne ok
        have deliveries := pairs.deliveries.symm.trans pairs'.deliveries
        have last := List.append_cancel_left deliveries
        simp only [List.cons.injEq, Delivery.mk.injEq, and_true] at last
        obtain ⟨⟨_, rfl, _⟩, _, rfl, _⟩ := last
        rcases shape with ⟨here, rfl⟩ | ⟨here, rfl⟩ <;> rcases shape' with ⟨here', rfl⟩ | ⟨here', rfl⟩
        · rw [here, here']
        · exact absurd same apart
        · exact absurd same.symm apart
        · rw [here, here']
  written c frame member kind := announcing.written_step traced ok stepped c frame member kind
  once c := announcing.once_step traced stepped c
  sent i d found := announcing.sent_step stepped i d found

theorem announcing_run (ran : run Server.step (initial waiterTTL sessionTTL) acts = some s) :
    s.Announcing waiterTTL sessionTTL acts := by
  refine run_history _ s acts ?_ ?_ ran
  · have none : ∀ id x, ¬Held waiterTTL sessionTTL [] id x := by
      rintro id x ⟨before, after, u, split, reached, held⟩
      obtain ⟨rfl, rfl⟩ := List.append_eq_nil_iff.mp split.symm
      cases reached
      simp [initial, Broker.empty] at held
    constructor
    · exact fun id x held => absurd held (none id x)
    · exact fun id x _ held => absurd held (none id x)
    · exact fun id x _ _ held => absurd held (none id x)
    all_goals simp [initial, Socket.fresh]
  · intro before u a v reached announcing stepped
    exact announcing.step (traced_run reached) (consistent_run waiterTTL sessionTTL before reached) reached stepped

def PairedTogether (waiterTTL sessionTTL : Int) (acts : List Act) (c d : Nat) : Prop :=
  ∃ id x, Held waiterTTL sessionTTL acts id x ∧
    ((x.first.conn = c ∧ x.second.conn = d) ∨ (x.first.conn = d ∧ x.second.conn = c))

theorem Held.consistent {id : Bytes} {x : Session} (held : Held waiterTTL sessionTTL acts id x) :
    x.Matched ∧ x.first.conn ≠ x.second.conn := by
  obtain ⟨before, _, u, _, reached, found⟩ := held
  have ok := consistent_run waiterTTL sessionTTL before reached
  have matched := ok.broker.matched id x found
  obtain ⟨_, ⟨_, first, _⟩, _, second, _⟩ := ok.members id x found
  refine ⟨matched, ?_⟩
  intro same
  rw [same, second] at first
  exact matched.1 (congrArg (fun h => h.peer.id) (Option.some.inj first)).symm

theorem Announcing.origin (announcing : s.Announcing waiterTTL sessionTTL acts) {c : Nat} {frame : Frame}
    (member : frame ∈ (s.sockets c).written) (kind : frame.message.type = .paired) :
    ∃ id x p q, Held waiterTTL sessionTTL acts id x ∧ ((p = x.first ∧ q = x.second) ∨ (p = x.second ∧ q = x.first)) ∧
      p.conn = c ∧ frame.message = announcement id p q ∧
      ∀ jd y r partner, Held waiterTTL sessionTTL acts jd y →
        (r = y.first ∧ partner = y.second) ∨ (r = y.second ∧ partner = y.first) → r.conn = c → jd = id := by
  obtain ⟨i, d, found, here, same, _⟩ := announcing.written c frame member kind
  obtain ⟨x, q, held, members, message⟩ := announcing.announces i d found
  refine ⟨d.session, x, d.peer, q, held, members, here, by rw [← same, message], ?_⟩
  intro jd y r partner held' member' conn
  obtain ⟨j, e, found', session, peer⟩ := announcing.started jd y r partner held' member'
  have index := announcing.distinct i j d e found found' (by rw [here, peer, conn])
  subst index
  rw [found] at found'
  cases found'
  exact session.symm

end Runs

/-- Paired messages agree, and both members of a session are sent theirs. -/
theorem pairing_agreement (waiterTTL sessionTTL : Int) (acts : List Act) (s : Server)
    (ran : run step (initial waiterTTL sessionTTL) acts = some s) :
    (∀ c, (s.sockets c).written.countP (fun frame => frame.message.type = .paired) ≤ 1) ∧
    (∀ c d f g a b, c ≠ d → f ∈ (s.sockets c).written → g ∈ (s.sockets d).written →
      f.message.type = .paired → g.message.type = .paired → f.message.paired = some a → g.message.paired = some b →
      (a.sessionID = b.sessionID ↔ PairedTogether waiterTTL sessionTTL acts c d)) ∧
    (∀ c f, f ∈ (s.sockets c).written → f.message.type = .paired →
      ∃ id x p q, Held waiterTTL sessionTTL acts id x ∧ x.Matched ∧
        ((p = x.first ∧ q = x.second) ∨ (p = x.second ∧ q = x.first)) ∧ p.conn = c ∧
        f.message.paired = some ⟨id, decide (p.mode = .connect), q.mode.string⟩) ∧
    ∀ id x p q, Held waiterTTL sessionTTL acts id x →
      (p = x.first ∧ q = x.second) ∨ (p = x.second ∧ q = x.first) →
      (∃ d ∈ s.deliveries, d.session = id ∧ d.peer = p ∧ d.stage = .sending) ∨
        (∃ f ∈ (s.sockets p.conn).written,
          f.message.paired = some ⟨id, decide (p.mode = .connect), q.mode.string⟩) ∨
        (s.sockets p.conn).Dead := by
  have announcing := announcing_run ran
  refine ⟨announcing.once, ?_, ?_, ?_⟩
  · intro c d f g a b apart inC inD kindF kindG payloadF payloadG
    obtain ⟨id, x, p, q, held, member, here, message, only⟩ := announcing.origin inC kindF
    obtain ⟨jd, y, r, w, held', member', here', message', only'⟩ := announcing.origin inD kindG
    rw [message] at payloadF
    rw [message'] at payloadG
    cases payloadF
    cases payloadG
    constructor
    · rintro rfl
      refine ⟨id, x, held, ?_⟩
      have same := announcing.unique id x y held held'
      subst same
      -- One session with members on two different connections.
      rcases member with ⟨rfl, rfl⟩ | ⟨rfl, rfl⟩ <;> rcases member' with ⟨rfl, rfl⟩ | ⟨rfl, rfl⟩
      · exact absurd (here.symm.trans here') apart
      · exact .inl ⟨here, here'⟩
      · exact .inr ⟨here', here⟩
      · exact absurd (here.symm.trans here') apart
    · rintro ⟨kd, z, together, ⟨first, second⟩ | ⟨first, second⟩⟩
      · have left := only kd z z.first z.second together (.inl ⟨rfl, rfl⟩) first
        have right := only' kd z z.second z.first together (.inr ⟨rfl, rfl⟩) second
        exact left.symm.trans right
      · have left := only kd z z.second z.first together (.inr ⟨rfl, rfl⟩) second
        have right := only' kd z z.first z.second together (.inl ⟨rfl, rfl⟩) first
        exact left.symm.trans right
  · intro c f inC kind
    obtain ⟨id, x, p, q, held, member, here, message, _⟩ := announcing.origin inC kind
    exact ⟨id, x, p, q, held, held.consistent.1, member, here, by rw [message]; rfl⟩
  · intro id x p q held members
    obtain ⟨i, d, found, session, peer⟩ := announcing.started id x p q held members
    obtain ⟨y, w, held', members', message⟩ := announcing.announces i d found
    rw [session] at held' message
    obtain rfl := announcing.unique id x y held held'
    rw [peer] at members' message
    have partner : w = q := by
      have apart : x.first ≠ x.second := fun same => held.consistent.2 (congrArg Peer.conn same)
      rcases members with ⟨rfl, rfl⟩ | ⟨rfl, rfl⟩ <;> rcases members' with ⟨same, rfl⟩ | ⟨same, rfl⟩
      · rfl
      · exact absurd same apart
      · exact absurd same.symm apart
      · rfl
    rcases announcing.sent i d found with sending | written | dead
    · exact .inl ⟨d, List.mem_of_getElem? found, session, peer, sending⟩
    · rw [peer] at written
      exact .inr (.inl ⟨_, written, by rw [message, partner]; rfl⟩)
    · rw [peer] at dead
      exact .inr (.inr dead)

theorem pairing_agreement_offer :
    ∃ s, run step (initial Broker.defaultWaiterTTL Broker.defaultSessionTTL) relayedOffer = some s ∧
      ((s.sockets 0).written.map fun frame => frame.message.type) = [.registered, .paired, .signal] ∧
      (s.sockets 0).written.countP (fun frame => frame.message.type = .paired) ≤ 1 := by
  have result : (run step (initial Broker.defaultWaiterTTL Broker.defaultSessionTTL) relayedOffer).map
      (fun s => (s.sockets 0).written.map fun frame => frame.message.type) =
        some [.registered, .paired, .signal] := by
    decide +kernel
  obtain ⟨s, ran, types⟩ := Option.map_eq_some_iff.mp result
  exact ⟨s, ran, types, (pairing_agreement _ _ relayedOffer s ran).1 0⟩

end Server

end Rtc2Tcp.Rendezvous

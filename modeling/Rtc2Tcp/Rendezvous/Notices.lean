import Rtc2Tcp.Rendezvous.Teardown

namespace Rtc2Tcp.Rendezvous.Server

open Octets Go Signaling Transition

variable {s t : Server} {act : Act}

def peersLeft (s : Server) (c : Nat) : Nat :=
  (s.sockets c).written.countP fun frame => frame.message.type = .peerLeft

theorem peersLeft_grows (stepped : s.step act = some t) (c : Nat) : s.peersLeft c ≤ t.peersLeft c :=
  (socket_step stepped c).written.sublist.countP_le

theorem writes_peerLeft {waiterTTL sessionTTL : Int} {acts : List Act} (traced : s.Traced waiterTTL sessionTTL acts)
    {c : Nat} {frame : Frame} (writes : s.Writes act c frame) (kind : frame.message.type = .peerLeft) :
    ∃ q id, q.conn = c ∧ (q, id) ∈ s.notices act := by
  cases writes with
  | handler e h x handler target frame output =>
    obtain ⟨p, stage⟩ := h
    cases stage with
    | notifying q id =>
      cases output
      exact ⟨target, id, rfl, by simp [notices, notice, handler, Stage.notice]⟩
    | replying message =>
      cases output
      rcases traced.replying e p message handler with other | other <;> rw [other] at kind <;> cases kind
    | acking | refusing | forwarding | relayFailed => cases output; cases kind
    | pairing | reading | relaying | leaving | closing | returned => cases output
  | delivery i d x found target frame output =>
    unfold Delivery.output at output
    split at output
    · cases output
      have announces := traced.announcing i d found
      rw [kind] at announces
      cases announces
    · rename_i q id stage
      cases output
      exact ⟨target, id, rfl, by simp [notices, notice, found, stage, DeliveryStage.notice]⟩
    · cases output
  | janitor => cases kind
  | rejected => cases kind

theorem peersLeft_appended {c : Nat} {frame : Frame} (kind : frame.message.type = .peerLeft)
    (written : (t.sockets c).written = (s.sockets c).written ++ [frame]) : 0 < t.peersLeft c := by
  rw [peersLeft, written, List.countP_append, List.countP_singleton, if_pos (by simpa using kind)]
  omega

theorem notices_step {q : Peer} {id : Bytes} (noticed : (q, id) ∈ s.notices act) (stepped : s.step act = some t) :
    (∃ n, s.notice n = some (q, id)) ∧ ((s.sockets q.conn).Dead ∨ 0 < t.peersLeft q.conn) := by
  cases act with
  | handler c x =>
    have pending : s.notice (.handler c) = some (q, id) := by simpa [notices] using noticed
    obtain ⟨⟨p, stage⟩, handler, told⟩ := Option.bind_eq_some_iff.mp pending
    cases stage with
    | notifying target session =>
      cases told
      refine ⟨⟨.handler c, pending⟩, ?_⟩
      simp only [step, handler, Option.bind_some, handlerStep, Stage.output] at stepped
      cases stepped
      exact (send_alive s q _ x.buffered).imp_right (peersLeft_appended rfl)
    | acking | pairing | refusing | reading | replying | relaying => cases told
    | forwarding | relayFailed | leaving | closing | returned => cases told
  | delivery i x =>
    have pending : s.notice (.delivery i) = some (q, id) := by simpa [notices] using noticed
    obtain ⟨⟨session, peer, message, stage⟩, found, told⟩ := Option.bind_eq_some_iff.mp pending
    cases stage with
    | notifying target session =>
      cases told
      refine ⟨⟨.delivery i, pending⟩, ?_⟩
      simp only [step, found, Option.bind_some, deliveryStep, Delivery.output] at stepped
      cases stepped
      exact (send_alive s q _ x.buffered).imp_right (peersLeft_appended rfl)
    | sending | unregistering | finished => cases told
  | connect | collect | janitor | lose => cases noticed

theorem evictions_step {e : Event} (evicted : e ∈ s.evictions act) (stepped : s.step act = some t) :
    (∃ p, e = .expired p ∧ .send p (text "session-expired") ∈ s.janitor ∧
      ((s.sockets p.conn).Dead ∨ Task.frame (text "session-expired") ∈ (t.sockets p.conn).written)) ∨
    ∃ p, e = .closed p ∧ (t.sockets p.conn).closed = true := by
  cases act with
  | janitor buffered =>
    simp only [step] at stepped
    split at stepped
    · cases stepped
    · rename_i p code rest tasks
      cases stepped
      simp only [evictions, tasks] at evicted
      split at evicted
      · rename_i expires
        subst expires
        refine .inl ⟨p, List.mem_singleton.mp evicted, by simp [tasks], ?_⟩
        rcases send_alive s p (Task.frame (text "session-expired")) buffered with dead | sent
        · exact .inl dead
        · right
          rw [sent]
          exact List.mem_append_right _ (List.mem_singleton_self _)
      · cases evicted
    · rename_i p rest tasks
      cases stepped
      simp only [evictions, tasks] at evicted
      refine .inr ⟨p, List.mem_singleton.mp evicted, ?_⟩
      simp [close, setSocket]
  | connect | handler | delivery | collect | lose => cases evicted

section Runs

variable (waiterTTL sessionTTL : Int) (acts : List Act)

/-- The sessions taken out of the maps in a run. Without a peer it was the janitor that did so. -/
def teardowns : List (Bytes × Option Peer) := log step removed (initial waiterTTL sessionTTL) acts

/-- The connection was dead while the message was still to be sent. -/
def Missed (c : Nat) (pending : Server → Prop) : Prop :=
  Passes step (initial waiterTTL sessionTTL) acts fun s => pending s ∧ (s.sockets c).Dead

structure Told (s : Server) : Prop where
  few : ∀ c, s.peersLeft c ≤ (events waiterTTL sessionTTL acts).countP (Event.reaches c)
  left : ∀ q id, .peerLeft q id ∈ events waiterTTL sessionTTL acts →
    0 < s.peersLeft q.conn ∨ Missed waiterTTL sessionTTL acts q.conn fun u => ∃ n, u.notice n = some (q, id)
  expired : ∀ p, .expired p ∈ events waiterTTL sessionTTL acts →
    Task.frame (text "session-expired") ∈ (s.sockets p.conn).written ∨
      Missed waiterTTL sessionTTL acts p.conn fun u => .send p (text "session-expired") ∈ u.janitor
  closed : ∀ p, .closed p ∈ events waiterTTL sessionTTL acts → (s.sockets p.conn).closed = true

variable {waiterTTL sessionTTL acts}

theorem mem_emit {e : Event} (emitted : e ∈ s.emit act t) :
    (∃ id, e = .removed id (s.remover act)) ∨ (∃ q id, e = .peerLeft q id ∧ (q, id) ∈ s.notices act) ∨
      e ∈ s.evictions act := by
  simp only [emit, List.mem_append, List.mem_map] at emitted
  rcases emitted with (⟨id, _, rfl⟩ | ⟨⟨q, id⟩, noticed, rfl⟩) | evicted
  · exact .inl ⟨id, rfl⟩
  · exact .inr (.inl ⟨q, id, rfl, noticed⟩)
  · exact .inr (.inr evicted)

theorem Missed.now {c : Nat} {pending : Server → Prop} (ran : run step (initial waiterTTL sessionTTL) acts = some s)
    (waits : pending s) (dead : (s.sockets c).Dead) (act : Act) :
    Missed waiterTTL sessionTTL (acts ++ [act]) c pending := (Passes.last ran ⟨waits, dead⟩).snoc act

theorem Told.few_step (told : s.Told waiterTTL sessionTTL acts)
    (ran : run step (initial waiterTTL sessionTTL) acts = some s) (stepped : s.step act = some t) (c : Nat) :
    t.peersLeft c ≤ (events waiterTTL sessionTTL (acts ++ [act])).countP (Event.reaches c) := by
  have few := told.few c
  rw [events_snoc ran stepped, List.countP_append]
  rcases written_step stepped c with same | ⟨frame, writes, _, appended⟩
  · rw [peersLeft, same]
    exact Nat.le_add_right_of_le few
  · rw [peersLeft, appended, List.countP_append, List.countP_singleton]
    by_cases kind : frame.message.type = .peerLeft
    · obtain ⟨q, id, here, noticed⟩ := writes_peerLeft (traced_run ran) writes kind
      have counted : 0 < (s.emit act t).countP (Event.reaches c) := by
        rw [List.countP_pos_iff]
        refine ⟨.peerLeft q id, ?_, by simpa [Event.reaches] using here⟩
        exact List.mem_append_left _ (List.mem_append_right _ (List.mem_map.mpr ⟨(q, id), noticed, rfl⟩))
      rw [if_pos (by simpa using kind)]
      exact Nat.add_le_add few counted
    · rw [if_neg (by simpa using kind)]
      exact Nat.le_add_right_of_le few

theorem Told.step (told : s.Told waiterTTL sessionTTL acts)
    (ran : run step (initial waiterTTL sessionTTL) acts = some s) (stepped : s.step act = some t) :
    t.Told waiterTTL sessionTTL (acts ++ [act]) where
  few := told.few_step ran stepped
  left q id member := by
    rw [events_snoc ran stepped, List.mem_append] at member
    rcases member with old | new
    · refine (told.left q id old).imp (fun some => ?_) fun missed => missed.snoc act
      exact Nat.lt_of_lt_of_le some (peersLeft_grows stepped q.conn)
    · rcases mem_emit new with ⟨jd, other⟩ | ⟨r, jd, same, noticed⟩ | evicted
      · cases other
      · cases same
        obtain ⟨pending, dead | sent⟩ := notices_step noticed stepped
        · exact .inr (.now ran pending dead act)
        · exact .inl sent
      · rcases evictions_mild _ evicted with ⟨p, other⟩ | ⟨p, other⟩ <;> cases other
  expired p member := by
    rw [events_snoc ran stepped, List.mem_append] at member
    rcases member with old | new
    · refine (told.expired p old).imp (fun written => ?_) fun missed => missed.snoc act
      exact (socket_step stepped p.conn).written.subset written
    · rcases mem_emit new with ⟨jd, other⟩ | ⟨r, jd, other, _⟩ | evicted
      · cases other
      · cases other
      · rcases evictions_step evicted stepped with ⟨q, same, pending, dead | sent⟩ | ⟨q, other, _⟩
        · cases same
          exact .inr (.now ran pending dead act)
        · cases same
          exact .inl sent
        · cases other
  closed p member := by
    rw [events_snoc ran stepped, List.mem_append] at member
    rcases member with old | new
    · exact (socket_step stepped p.conn).closed (told.closed p old)
    · rcases mem_emit new with ⟨jd, other⟩ | ⟨r, jd, other, _⟩ | evicted
      · cases other
      · cases other
      · rcases evictions_step evicted stepped with ⟨q, other, _⟩ | ⟨q, same, closed⟩
        · cases other
        · cases same
          exact closed

theorem told_run (ran : run Server.step (initial waiterTTL sessionTTL) acts = some s) :
    s.Told waiterTTL sessionTTL acts := by
  refine run_history _ s acts ?_ (fun before u a v reached told stepped => told.step reached stepped) ran
  constructor
  · exact fun c => Nat.le_refl 0
  · intro q id member
    cases member
  · intro p member
    cases member
  · intro p member
    cases member

theorem teardowns_eq :
    teardowns waiterTTL sessionTTL acts = (events waiterTTL sessionTTL acts).filterMap Event.teardown := by
  have picked : removed = fun s act t => (s.emit act t).filterMap Event.teardown := by
    funext s act t
    have evicted : (s.evictions act).filterMap Event.teardown = [] := by
      rw [List.filterMap_eq_nil_iff]
      intro e member
      rcases evictions_mild e member with ⟨p, rfl⟩ | ⟨p, rfl⟩ <;> rfl
    have noticed : ((s.notices act).map fun n => Event.peerLeft n.1 n.2).filterMap Event.teardown = [] := by
      simp [List.filterMap_map, Event.teardown]
    simp [emit, removed, evicted, noticed, List.filterMap_map, Function.comp_def, Event.teardown]
  rw [teardowns, events, ← log_filterMap, picked]

theorem mem_teardowns {id : Bytes} {remover : Option Peer} :
    (id, remover) ∈ teardowns waiterTTL sessionTTL acts ↔ .removed id remover ∈ events waiterTTL sessionTTL acts := by
  rw [teardowns_eq, List.mem_filterMap]
  constructor
  · rintro ⟨e, member, picked⟩
    cases e with
    | removed => cases picked; exact member
    | peerLeft | expired | closed => cases picked
  · exact fun member => ⟨_, member, rfl⟩

theorem count_teardowns (id : Bytes) : (teardowns waiterTTL sessionTTL acts).countP (fun gone => gone.1 = id) =
    (events waiterTTL sessionTTL acts).countP (Event.removes id) := by
  rw [teardowns_eq, List.countP_filterMap]
  apply List.countP_congr
  intro e _
  cases e <;> simp [Event.teardown, Event.removes]

/-- A peer-left on a connection is that of the other member's leaving. -/
theorem Told.origin (told : s.Told waiterTTL sessionTTL acts) (torn : s.Torn waiterTTL sessionTTL acts) {c : Nat}
    (some : 0 < s.peersLeft c) :
    ∃ id x p q, .peerLeft q id ∈ events waiterTTL sessionTTL acts ∧ q.conn = c ∧ Held waiterTTL sessionTTL acts id x ∧
      x.Members p q ∧ .removed id (.some p) ∈ events waiterTTL sessionTTL acts := by
  obtain ⟨e, member, reaches⟩ := List.countP_pos_iff.mp (Nat.lt_of_lt_of_le some (told.few c))
  cases e with
  | peerLeft q id =>
    obtain ⟨_, _, x, p, held, members, removed⟩ := torn.sent q id member
    exact ⟨id, x, p, q, member, by simpa [Event.reaches] using reaches, held, members, removed⟩
  | removed | expired | closed => cases reaches

theorem Told.untold (told : s.Told waiterTTL sessionTTL acts) (torn : s.Torn waiterTTL sessionTTL acts)
    (announcing : s.Announcing waiterTTL sessionTTL acts) {id : Bytes} {x : Session} {m other : Peer}
    (held : Held waiterTTL sessionTTL acts id x) (members : x.Members m other)
    (never : ∀ p, .removed id (some p) ∈ events waiterTTL sessionTTL acts → p.conn = m.conn) :
    s.peersLeft m.conn = 0 := by
  by_contra some
  obtain ⟨jd, y, p, q, _, here, held', members', removed⟩ := told.origin torn (Nat.pos_of_ne_zero some)
  obtain rfl := announcing.same_session held members held' members'.swap here.symm
  exact held'.apart members' ((never p removed).trans here.symm)

theorem Told.evicted (told : s.Told waiterTTL sessionTTL acts) (torn : s.Torn waiterTTL sessionTTL acts)
    (announcing : s.Announcing waiterTTL sessionTTL acts) {id : Bytes} {x : Session} {m other : Peer}
    (held : Held waiterTTL sessionTTL acts id x) (members : x.Members m other)
    (removed : .removed id none ∈ events waiterTTL sessionTTL acts) : s.peersLeft m.conn = 0 := by
  apply told.untold torn announcing held members
  intro p removed'
  cases torn.remover_unique removed removed'

end Runs

/-- Sessions are torn down exactly once. A member's leaving sends one peer-left, to the other member; an eviction
    sends session-expired to both and closes them. Only a connection that was dead by then goes without. -/
theorem session_teardown_once (waiterTTL sessionTTL : Int) (acts : List Act) (s : Server)
    (ran : run step (initial waiterTTL sessionTTL) acts = some s) :
    (∀ id x, Held waiterTTL sessionTTL acts id x →
      (s.broker.sessions.lookup id = some x ∧ s.broker.activeKey.lookup x.rendezvousKey = some id ∧
        (teardowns waiterTTL sessionTTL acts).countP (fun gone => gone.1 = id) = 0) ∨
      (s.broker.sessions.lookup id = none ∧ (∀ key, s.broker.activeKey.lookup key ≠ some id) ∧
        (teardowns waiterTTL sessionTTL acts).countP (fun gone => gone.1 = id) = 1)) ∧
    (∀ id p, (id, some p) ∈ teardowns waiterTTL sessionTTL acts →
      ∃ x q, Held waiterTTL sessionTTL acts id x ∧ x.Members p q ∧ p.conn ≠ q.conn ∧ s.peersLeft p.conn = 0 ∧
        ((s.peersLeft q.conn = 0 ∧ ∃ n, s.notice n = some (q, id) ∧ ∀ m r, s.notice m = some (r, id) → m = n) ∨
          ((∀ m r, s.notice m ≠ some (r, id)) ∧
            (s.peersLeft q.conn = 1 ∨ (s.peersLeft q.conn = 0 ∧
              Missed waiterTTL sessionTTL acts q.conn fun u => ∃ n, u.notice n = some (q, id)))))) ∧
    (∀ id, (id, none) ∈ teardowns waiterTTL sessionTTL acts →
      (∀ m r, s.notice m ≠ some (r, id)) ∧
      ∃ x, Held waiterTTL sessionTTL acts id x ∧ ∀ m, m = x.first ∨ m = x.second →
        s.peersLeft m.conn = 0 ∧
        (Task.frame (text "session-expired") ∈ (s.sockets m.conn).written ∨
          .send m (text "session-expired") ∈ s.janitor ∨
          Missed waiterTTL sessionTTL acts m.conn fun u => .send m (text "session-expired") ∈ u.janitor) ∧
        ((s.sockets m.conn).closed = true ∨ .close m ∈ s.janitor)) ∧
    ∀ c, s.peersLeft c ≤ 1 ∧ (0 < s.peersLeft c → ∃ id x p q, (id, some p) ∈ teardowns waiterTTL sessionTTL acts ∧
      Held waiterTTL sessionTTL acts id x ∧ x.Members p q ∧ q.conn = c) := by
  have torn := torn_run ran
  have told := told_run ran
  have announcing := announcing_run ran
  have ok := consistent_run waiterTTL sessionTTL acts ran
  have single : ∀ c, s.peersLeft c ≤ 1 := fun c => (told.few c).trans (torn.reached_once announcing c)
  refine ⟨?_, ?_, ?_, ?_⟩
  · intro id x held
    rw [count_teardowns]
    rcases torn.counted id x held with ⟨there, none⟩ | ⟨gone, one⟩
    · have active := (ok.broker.active x.rendezvousKey id).mpr ⟨x, there, ok.broker.identified id x there, rfl⟩
      exact .inl ⟨there, active, none⟩
    · refine .inr ⟨gone, ?_, one⟩
      intro key active
      obtain ⟨y, there, _⟩ := (ok.broker.active key id).mp active
      rw [gone] at there
      cases there
  · intro id p removed
    rw [mem_teardowns] at removed
    -- Whoever of the two is not told is the peer that left.
    have silent : ∀ x q, Held waiterTTL sessionTTL acts id x → x.Members p q → s.peersLeft p.conn = 0 := by
      intro x q held members
      apply told.untold torn announcing held members
      intro r removed'
      cases torn.remover_unique removed removed'
      rfl
    obtain ⟨q, ⟨n, pending⟩ | sent⟩ := torn.unregistered id p removed
    · obtain ⟨zero, unique, x, p', held, members, removed'⟩ := torn.noticed n q id pending
      cases torn.remover_unique removed removed'
      refine ⟨x, q, held, members, held.apart members, silent x q held members, .inl ⟨?_, n, pending, unique⟩⟩
      by_contra some
      obtain ⟨jd, y, r, q', sent, here, held', members', _⟩ := told.origin torn (Nat.pos_of_ne_zero some)
      obtain rfl := announcing.same_session held members.swap held' members'.swap here.symm
      exact List.countP_eq_zero.mp zero _ sent (by simp [Event.notifies])
    · obtain ⟨_, free, x, p', held, members, removed'⟩ := torn.sent q id sent
      cases torn.remover_unique removed removed'
      refine ⟨x, q, held, members, held.apart members, silent x q held members, .inr ⟨free, ?_⟩⟩
      have few := single q.conn
      by_cases none : s.peersLeft q.conn = 0
      · exact .inr ⟨none, (told.left q id sent).resolve_left (by omega)⟩
      · exact .inl (by omega)
  · intro id removed
    rw [mem_teardowns] at removed
    refine ⟨?_, ?_⟩
    · intro m r pending
      obtain ⟨_, _, x, p, _, _, removed'⟩ := torn.noticed m r id pending
      cases torn.remover_unique removed removed'
    · obtain ⟨x, held, evicted⟩ := torn.evicted id removed
      refine ⟨x, held, ?_⟩
      intro m isMember
      obtain ⟨other, members⟩ : ∃ other, x.Members m other := by
        rcases isMember with rfl | rfl
        · exact ⟨x.second, .inl ⟨rfl, rfl⟩⟩
        · exact ⟨x.first, .inr ⟨rfl, rfl⟩⟩
      obtain ⟨expires, closes⟩ := evicted m isMember
      refine ⟨told.evicted torn announcing held members removed, ?_, closes.imp_left (told.closed m)⟩
      rcases expires with sent | pending
      · exact (told.expired m sent).imp_right .inr
      · exact .inr (.inl pending)
  · intro c
    refine ⟨single c, ?_⟩
    intro some
    obtain ⟨id, x, p, q, _, here, held, members, removed⟩ := told.origin torn some
    exact ⟨id, x, p, q, mem_teardowns.mpr removed, held, members, here⟩

def bothLeave : List Act :=
  [.connect (registerMessage "tokyo" .expose) (sampleDraw 1) 0,
    .connect (registerMessage "tokyo" .connect) (sampleDraw 2) 5,
    .handler 0 {}, .handler 0 {}, .handler 1 {}, .handler 1 { draw := sampleDraw 4, now := 9 },
    .delivery 0 {}, .delivery 1 {}, .handler 1 {}, .handler 0 {},
    .handler 1 { order := [randomID (sampleDraw 4)] }, .handler 0 {}, .handler 1 {}]

theorem session_teardown_once_both_leave :
    ∃ s p id, run step (initial Broker.defaultWaiterTTL Broker.defaultSessionTTL) bothLeave = some s ∧
      teardowns Broker.defaultWaiterTTL Broker.defaultSessionTTL bothLeave = [(id, some p)] ∧ p.conn = 1 ∧
      s.peersLeft 0 = 1 ∧ s.peersLeft 1 = 0 ∧ ∀ c, s.peersLeft c ≤ 1 := by
  have result : (run step (initial Broker.defaultWaiterTTL Broker.defaultSessionTTL) bothLeave).map
      (fun s => (s.peersLeft 0, s.peersLeft 1)) = some (1, 0) := by
    decide +kernel
  obtain ⟨s, ran, counts⟩ := Option.map_eq_some_iff.mp result
  refine ⟨s, ⟨randomID (sampleDraw 2), .connect, text "tokyo", text "1", 1, 5⟩, randomID (sampleDraw 4), ran, ?_, rfl,
    congrArg Prod.fst counts, congrArg Prod.snd counts, fun c => ((session_teardown_once _ _ bothLeave s ran).2.2.2 c).1⟩
  decide +kernel

end Rtc2Tcp.Rendezvous.Server

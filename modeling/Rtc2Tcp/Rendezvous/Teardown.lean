import Rtc2Tcp.Rendezvous.Pairing

namespace Rtc2Tcp.Rendezvous

open Octets Go Signaling Transition Sweep

inductive Notifier where
  | handler (c : Nat)
  | delivery (i : Nat)
deriving DecidableEq, Repr

def Stage.notice : Stage → Option (Peer × Bytes)
  | notifying target id => some (target, id)
  | _ => none

def DeliveryStage.notice : DeliveryStage → Option (Peer × Bytes)
  | notifying target id => some (target, id)
  | _ => none

/-- What the broker does about the end of a session: the removal from the maps, without a remover when it was the
    janitor, and the calls of `send` and `Close`. -/
inductive Event where
  | removed (id : Bytes) (remover : Option Peer)
  | peerLeft (target : Peer) (id : Bytes)
  | expired (p : Peer)
  | closed (p : Peer)
deriving DecidableEq, Repr

def Session.Members (x : Session) (p q : Peer) : Prop :=
  (p = x.first ∧ q = x.second) ∨ (p = x.second ∧ q = x.first)

theorem Session.Members.swap {x : Session} {p q : Peer} (members : x.Members p q) : x.Members q p :=
  members.symm.imp And.symm And.symm

namespace Event

def removes (id : Bytes) : Event → Bool
  | removed jd _ => jd = id
  | _ => false

def notifies (id : Bytes) : Event → Bool
  | peerLeft _ jd => jd = id
  | _ => false

def reaches (c : Nat) : Event → Bool
  | peerLeft target _ => target.conn = c
  | _ => false

def teardown : Event → Option (Bytes × Option Peer)
  | removed id remover => some (id, remover)
  | _ => none

end Event

namespace Server

def notice (s : Server) : Notifier → Option (Peer × Bytes)
  | .handler c => (s.handlers c).bind fun h => h.stage.notice
  | .delivery i => s.deliveries[i]?.bind fun d => d.stage.notice

def remover (s : Server) : Act → Option Peer
  | .handler c _ => (s.handlers c).map Handler.peer
  | .delivery i _ => s.deliveries[i]?.map Delivery.peer
  | _ => none

def removals (s t : Server) : List Bytes :=
  s.broker.sessions.keys.filter fun id => (t.broker.sessions.lookup id).isNone

def notices (s : Server) : Act → List (Peer × Bytes)
  | .handler c _ => (s.notice (.handler c)).toList
  | .delivery i _ => (s.notice (.delivery i)).toList
  | _ => []

def evictions (s : Server) : Act → List Event
  | .janitor _ =>
    match s.janitor with
    | .send p code :: _ => if code = text "session-expired" then [.expired p] else []
    | .close p :: _ => [.closed p]
    | [] => []
  | _ => []

/-- The sessions a step takes out of the maps, with the peer it does so for. -/
def removed (s : Server) (act : Act) (t : Server) : List (Bytes × Option Peer) :=
  (s.removals t).map fun id => (id, s.remover act)

def emit (s : Server) (act : Act) (t : Server) : List Event :=
  (s.removals t).map (Event.removed · (s.remover act)) ++ (s.notices act).map (fun n => .peerLeft n.1 n.2) ++
    s.evictions act

def events (waiterTTL sessionTTL : Int) (acts : List Act) : List Event :=
  log step emit (initial waiterTTL sessionTTL) acts

variable {s t : Server} {act : Act}

theorem removals_nil (kept : ∀ id x, s.broker.sessions.lookup id = some x →
    t.broker.sessions.lookup id = some x) : s.removals t = [] := by
  rw [removals, List.filter_eq_nil_iff]
  intro id present
  obtain ⟨x, found⟩ := Option.isSome_iff_exists.mp (AList.lookup_isSome.mpr (AList.mem_keys.mpr present))
  simp [kept id x found]

theorem mem_removals {id : Bytes} :
    id ∈ s.removals t ↔ (∃ x, s.broker.sessions.lookup id = some x) ∧ t.broker.sessions.lookup id = none := by
  rw [removals, List.mem_filter, ← AList.mem_keys, ← AList.lookup_isSome, Option.isSome_iff_exists,
    Option.isNone_iff_eq_none]

theorem removals_nodup : (s.removals t).Nodup := s.broker.sessions.keys_nodup.filter _

theorem removals_erase {id : Bytes} {x : Session} (held : s.broker.sessions.lookup id = some x)
    (erased : t.broker.sessions = s.broker.sessions.erase id) : s.removals t = [id] := by
  have members : ∀ jd, jd ∈ s.removals t ↔ jd = id := by
    intro jd
    rw [mem_removals, erased]
    constructor
    · rintro ⟨⟨y, found⟩, gone⟩
      by_contra other
      rw [AList.lookup_erase_ne other, found] at gone
      cases gone
    · rintro rfl
      exact ⟨⟨x, held⟩, AList.lookup_erase _ _⟩
  have same := (List.perm_ext_iff_of_nodup removals_nodup (List.nodup_singleton id)).mpr (by simpa using members)
  exact List.perm_singleton.mp same

theorem notice_setStage (u : Server) (handlers : u.handlers = s.handlers) (deliveries : u.deliveries = s.deliveries)
    (c : Nat) (h : Handler) (stage : Stage) :
    (u.setStage c h stage).notice = Function.update s.notice (.handler c) stage.notice := by
  funext n
  cases n with
  | handler d =>
    by_cases here : d = c
    · subst here
      simp [notice]
    · have apart : Notifier.handler d ≠ .handler c := by simpa using here
      rw [Function.update_of_ne apart]
      simp only [notice, setStage_handlers, handlers, Function.update_of_ne here]
  | delivery i =>
    rw [Function.update_of_ne (by simp)]
    simp only [notice, setStage_deliveries, deliveries]

theorem notice_setDelivery (u : Server) (handlers : u.handlers = s.handlers)
    (deliveries : u.deliveries = s.deliveries) (i : Nat) (d : Delivery) (found : s.deliveries[i]? = some d)
    (stage : DeliveryStage) :
    (u.setDelivery i d stage).notice = Function.update s.notice (.delivery i) stage.notice := by
  funext n
  cases n with
  | handler c =>
    rw [Function.update_of_ne (by simp)]
    simp only [notice, setDelivery_handlers, handlers]
  | delivery j =>
    have bound : i < s.deliveries.length := (List.getElem?_eq_some_iff.mp found).1
    by_cases here : j = i
    · subst here
      simp [notice, deliveries, bound]
    · have apart : Notifier.delivery j ≠ .delivery i := by simpa using here
      rw [Function.update_of_ne apart]
      simp only [notice, setDelivery_deliveries, deliveries, List.getElem?_set_ne (Ne.symm here)]

inductive Tears (s : Server) (act : Act) (t : Server) : Prop where
  | unregisters (n : Notifier) (p q : Peer) (id : Bytes) (x : Session)
      (held : s.broker.sessions.lookup id = some x)
      (members : x.Members p q)
      (erased : t.broker.sessions = s.broker.sessions.erase id)
      (emitted : s.emit act t = [.removed id (some p)])
      (idle : s.notice n = none) (notices : t.notice = Function.update s.notice n (some (q, id)))
      (janitor : t.janitor = s.janitor)
  | notifies (n : Notifier) (q : Peer) (id : Bytes) (pending : s.notice n = some (q, id))
      (sessions : t.broker.sessions = s.broker.sessions) (emitted : s.emit act t = [.peerLeft q id])
      (notices : t.notice = Function.update s.notice n none) (janitor : t.janitor = s.janitor)
  | collects (now : Int) (waiters sessions : List Bytes)
      (broker : t.broker = (collectStale s.broker now waiters sessions).1)
      (emitted : s.emit act t = (s.removals t).map (Event.removed · none)) (notices : t.notice = s.notice)
      (idle : s.janitor = []) (visited : s.Visits sessions)
      (janitor : t.janitor = evictionTasks (collectStale s.broker now waiters sessions).2.1
        (collectStale s.broker now waiters sessions).2.2)
  | evicts (task : Task) (tasks : s.janitor = task :: t.janitor)
      (sessions : t.broker.sessions = s.broker.sessions) (notices : t.notice = s.notice)
      (emitted : s.emit act t = s.evictions act)
      (sent : ∀ p, task = .send p (text "session-expired") → .expired p ∈ s.emit act t)
      (closed : ∀ p, task = .close p → .closed p ∈ s.emit act t)
  | quiet (kept : ∀ id x, s.broker.sessions.lookup id = some x → t.broker.sessions.lookup id = some x)
      (emitted : s.emit act t = []) (notices : t.notice = s.notice) (janitor : t.janitor = s.janitor)

theorem output_notice (stage : Stage) (p : Peer) (output : Peer × Frame) (sends : stage.output p = some output)
    (ok : Bool) : (stage.sent ok).notice = none := by
  cases stage with
  | acking => cases ok <;> rfl
  | forwarding => cases ok <;> rfl
  | refusing | replying | relayFailed | notifying => rfl
  | pairing | reading | relaying | leaving | closing | returned => cases sends

theorem wrote_tears {c : Nat} {h : Handler} {x : Choice} {target : Peer} {frame : Frame}
    (handler : s.handlers c = some h) (output : h.stage.output h.peer = some (target, frame)) :
    s.Tears (.handler c x) ((s.send target frame x.buffered).2.setStage c h
      (h.stage.sent (s.send target frame x.buffered).1)) := by
  have notices := notice_setStage (s := s) (s.send target frame x.buffered).2 rfl rfl c h
    (h.stage.sent (s.send target frame x.buffered).1)
  rw [output_notice h.stage h.peer _ output] at notices
  have removed := removals_nil (s := s) (t := (s.send target frame x.buffered).2.setStage c h
    (h.stage.sent (s.send target frame x.buffered).1)) (fun _ _ found => found)
  have before : s.notice (.handler c) = h.stage.notice := by simp [notice, handler]
  cases pending : h.stage.notice with
  | some note =>
    refine .notifies (.handler c) note.1 note.2 (by rw [before, pending]) rfl ?_ notices rfl
    simp [emit, removed, Server.notices, before, pending, evictions]
  | none =>
    refine .quiet (fun _ _ found => found) ?_ ?_ rfl
    · simp [emit, removed, Server.notices, before, pending, evictions]
    · rw [notices, ← pending, ← before, Function.update_eq_self]

theorem delivered_tears {i : Nat} {d : Delivery} {x : Choice} {target : Peer} {frame : Frame}
    (found : s.deliveries[i]? = some d) :
    s.Tears (.delivery i x) ((s.send target frame x.buffered).2.setDelivery i d
      (d.stage.sent (s.send target frame x.buffered).1)) := by
  have notices := notice_setDelivery (s := s) (s.send target frame x.buffered).2 rfl rfl i d found
    (d.stage.sent (s.send target frame x.buffered).1)
  have sent : (d.stage.sent (s.send target frame x.buffered).1).notice = none := by
    cases d.stage <;> cases (s.send target frame x.buffered).1 <;> rfl
  rw [sent] at notices
  have removed := removals_nil (s := s) (t := (s.send target frame x.buffered).2.setDelivery i d
    (d.stage.sent (s.send target frame x.buffered).1)) (fun _ _ found => found)
  have before : s.notice (.delivery i) = d.stage.notice := by simp [notice, found]
  cases pending : d.stage.notice with
  | some note =>
    refine .notifies (.delivery i) note.1 note.2 (by rw [before, pending]) rfl ?_ notices rfl
    simp [emit, removed, Server.notices, before, pending, evictions]
  | none =>
    refine .quiet (fun _ _ found => found) ?_ ?_ rfl
    · simp [emit, removed, Server.notices, before, pending, evictions]
    · rw [notices, ← pending, ← before, Function.update_eq_self]

theorem unregister_tears (ok : s.Consistent) {order : List Bytes} (visited : s.Visits order) {n : Notifier} {p : Peer}
    {stage : Stage} (handler : s.handlers p.conn = some ⟨p, stage⟩) (idle : s.notice n = none)
    (broker : t.broker = (unregisterPeer s.broker order p).1)
    (notices : t.notice = Function.update s.notice n (unregisterPeer s.broker order p).2)
    (janitor : t.janitor = s.janitor)
    (emitted : s.emit act t = (s.removals t).map (Event.removed · (some p))) : s.Tears act t := by
  rcases unregisterPeer_cases s.broker order p ok.named_sessions visited with
    ⟨_, _, _, result⟩ | ⟨_, ⟨_, result⟩ | ⟨id, x, target, held, joins, result⟩⟩
  · have kept : ∀ id x, s.broker.sessions.lookup id = some x → t.broker.sessions.lookup id = some x := by
      rw [broker, result]
      exact fun _ _ found => found
    refine .quiet kept ?_ ?_ janitor
    · rw [emitted, removals_nil kept]
      rfl
    · rw [notices, result, ← idle, Function.update_eq_self]
  · have kept : ∀ id x, s.broker.sessions.lookup id = some x → t.broker.sessions.lookup id = some x := by
      rw [broker, result]
      exact fun _ _ found => found
    refine .quiet kept ?_ ?_ janitor
    · rw [emitted, removals_nil kept]
      rfl
    · rw [notices, result, ← idle, Function.update_eq_self]
  · have erased : t.broker.sessions = s.broker.sessions.erase id := by rw [broker, result]
    obtain ⟨_, ⟨_, first, _⟩, _, second, _⟩ := ok.members id x held
    have members : (p = x.first ∧ target = x.second) ∨ (p = x.second ∧ target = x.first) := by
      rcases joins with ⟨same, rfl⟩ | ⟨same, rfl⟩
      · exact .inl ⟨ok.same_peer handler first same, rfl⟩
      · exact .inr ⟨ok.same_peer handler second same, rfl⟩
    refine .unregisters n p target id x held members erased ?_ idle ?_ janitor
    · rw [emitted, removals_erase held erased]
      rfl
    · rw [notices, result]

theorem quiet_stage {u : Server} {c : Nat} {h : Handler} {x : Choice} {stage : Stage}
    (handler : s.handlers c = some h) (before : h.stage.notice = none) (after : stage.notice = none)
    (handlers : u.handlers = s.handlers) (deliveries : u.deliveries = s.deliveries) (janitor : u.janitor = s.janitor)
    (kept : ∀ id x, s.broker.sessions.lookup id = some x → u.broker.sessions.lookup id = some x) :
    s.Tears (.handler c x) (u.setStage c h stage) := by
  have here : s.notice (.handler c) = none := by simp [notice, handler, before]
  refine .quiet kept ?_ ?_ janitor
  · simp [emit, removals_nil (t := u.setStage c h stage) kept, Server.notices, here, evictions]
  · rw [notice_setStage u handlers deliveries, after, ← here, Function.update_eq_self]

theorem paired_tears {c : Nat} {p w q : Peer} {id : Bytes} {now : Int} {x : Choice} (ok : s.Consistent)
    (handler : s.handlers c = some ⟨q, .pairing⟩) (pairs : s.Pairs (.handler c x) t p w id now)
    (janitor : t.janitor = s.janitor) : s.Tears (.handler c x) t := by
  have unused : s.broker.sessions.lookup id = none := by
    cases held : s.broker.sessions.lookup id with
    | none => rfl
    | some y => exact absurd (ok.members id y held).1 pairs.fresh
  have kept : ∀ jd y, s.broker.sessions.lookup jd = some y → t.broker.sessions.lookup jd = some y := by
    intro jd y held
    rw [pairs.sessions, lookup_insert_iff]
    refine .inr ⟨?_, held⟩
    rintro rfl
    rw [unused] at held
    cases held
  have here : s.notice (.handler c) = none := by simp [notice, handler, Stage.notice]
  refine .quiet kept ?_ ?_ janitor
  · simp [emit, removals_nil kept, Server.notices, here, evictions]
  · funext n
    cases n with
    | handler d =>
      simp only [notice, pairs.handlers]
      by_cases same : d = p.conn
      · subst same
        simp [pairs.handler, Stage.notice]
      · rw [Function.update_of_ne same]
    | delivery i =>
      simp only [notice, pairs.deliveries, List.getElem?_append]
      split
      · rfl
      · rename_i beyond
        rw [List.getElem?_eq_none (Nat.le_of_not_lt beyond)]
        cases found : ([_, _] : List Delivery)[i - s.deliveries.length]? with
        | none => rfl
        | some d =>
          have member := List.mem_of_getElem? found
          simp only [List.mem_cons, List.not_mem_nil, or_false] at member
          rcases member with rfl | rfl <;> rfl

theorem quiet_other (kept : t.broker.sessions = s.broker.sessions) (notices : t.notice = s.notice)
    (janitor : t.janitor = s.janitor) (none : s.notices act = []) (idle : s.evictions act = []) : s.Tears act t := by
  have sessions : ∀ id x, s.broker.sessions.lookup id = some x → t.broker.sessions.lookup id = some x := by
    rw [kept]
    exact fun _ _ found => found
  exact .quiet sessions (by simp [emit, removals_nil sessions, none, idle]) notices janitor

theorem connect_tears {message : Option Message} {draw : Option Buf} {now : Int} {u : Server} (ok : s.Consistent)
    (fresh : s.drawn draw = some u) : s.Tears (.connect message draw now) (u.connect message now draw) := by
  have tasks := drawn_janitor fresh
  have sessions := congrArg Broker.sessions (drawn_broker fresh)
  cases result : registerPeer u.accepted message draw now with
  | error e =>
    simp only [connect, result]
    refine quiet_other sessions ?_ tasks rfl rfl
    funext n
    cases n <;> simp [notice, setSocket, drawn_handlers fresh, drawn_deliveries fresh]
  | ok p =>
    simp only [connect, result]
    refine quiet_other sessions ?_ tasks rfl rfl
    funext n
    cases n with
    | handler d =>
      simp only [notice, drawn_handlers fresh, drawn_accepted fresh]
      by_cases last : d = s.accepted
      · subst last
        have none : s.handlers s.accepted = none := by
          cases found : s.handlers s.accepted with
          | none => rfl
          | some h => exact absurd (ok.located _ h found).2.1 (Nat.lt_irrefl _)
        simp [none, Stage.notice]
      · rw [Function.update_of_ne last]
    | delivery i => simp only [notice, drawn_deliveries fresh]

theorem janitor_tears {task : Task} {buffered : Bool} (tasks : s.janitor = task :: t.janitor)
    (sessions : t.broker.sessions = s.broker.sessions) (notices : t.notice = s.notice) :
    s.Tears (.janitor buffered) t := by
  have kept : s.removals t = [] := by
    apply removals_nil
    rw [sessions]
    exact fun _ _ found => found
  have emitted : s.emit (.janitor buffered) t = s.evictions (.janitor buffered) := by
    simp [emit, kept, Server.notices]
  refine .evicts task tasks sessions notices emitted ?_ ?_
  · rintro p rfl
    simp [emitted, evictions, tasks]
  · rintro p rfl
    simp [emitted, evictions, tasks]

theorem step_tears (ok : s.Consistent) (known : ∀ (i : Nat) (d : Delivery), s.deliveries[i]? = some d → s.Settled d.peer)
    (stepped : s.step act = some t) : s.Tears act t := by
  cases step_effect s t act stepped with
  | wrote c h x handler target frame output => exact wrote_tears handler output
  | delivered i d x found target frame output => exact delivered_tears found
  | left c p x handler visited =>
    have located : p.conn = c := (ok.located c _ handler).1
    have idle : s.notice (.handler c) = none := by simp [notice, handler, Stage.notice]
    refine unregister_tears ok visited (n := .handler c) (by rw [located]; exact handler) idle rfl ?_ rfl ?_
    · refine (notice_setStage { s with broker := _ } rfl rfl c _ _).trans ?_
      cases (unregisterPeer s.broker x.order p).2 <;> rfl
    · simp [emit, remover, handler, Server.notices, idle, evictions]
  | undelivered i d x found stage visited =>
    obtain ⟨_, handler, _⟩ := known i d found
    have idle : s.notice (.delivery i) = none := by simp [notice, found, stage, DeliveryStage.notice]
    refine unregister_tears ok visited (n := .delivery i) handler idle rfl ?_ rfl ?_
    · refine (notice_setDelivery { s with broker := _ } rfl rfl i d found _).trans ?_
      cases (unregisterPeer s.broker x.order d.peer).2 <;> rfl
    · simp [emit, remover, found, Server.notices, idle, evictions]
  | received c p x handler =>
    apply quiet_stage handler rfl _ rfl rfl rfl (fun _ _ found => found)
    have serving := Stage.received_serving x.message
    cases kind : Stage.received x.message <;> first | rfl | (rw [kind] at serving; cases serving)
  | forwards c p signal x handler _ target session _ =>
    exact quiet_stage handler rfl rfl rfl rfl rfl (fun _ _ found => found)
  | unpaired c p signal x handler _ _ => exact quiet_stage handler rfl rfl rfl rfl rfl (fun _ _ found => found)
  | closed c p x handler =>
    exact quiet_stage (u := s.close p) handler rfl rfl rfl rfl rfl (fun _ _ found => found)
  | refused c p x handler u fresh e failed =>
    refine quiet_stage handler rfl rfl (drawn_handlers fresh) (drawn_deliveries fresh) (drawn_janitor fresh) ?_
    rw [drawn_broker fresh]
    exact fun _ _ found => found
  | waits c p x handler u fresh broker result =>
    have tasks := drawn_janitor fresh
    have handlers := drawn_handlers fresh
    have deliveries := drawn_deliveries fresh
    obtain ⟨_, ⟨_, _, rfl⟩ | ⟨_, _, _, _, _, _, none, _⟩⟩ := tryPair_cases _ _ _ _ _ _ result
    · refine quiet_stage (u := { u with broker := _ }) handler rfl rfl handlers deliveries tasks ?_
      simp only [drawn_broker fresh]
      exact fun _ _ found => found
    · cases none
  | paired c p x handler u fresh broker pairing result =>
    have tasks := drawn_janitor fresh
    rcases step_pairs_or_not ok stepped with ⟨q, w, id, now, pairs⟩ | unpairing
    · exact paired_tears ok handler pairs tasks
    · have length := unpairing.deliveries
      simp [drawn_deliveries fresh, Pairing.deliveries] at length
  | rejected message draw now u fresh e refused => exact connect_tears ok fresh
  | registered message draw now u fresh p accepted => exact connect_tears ok fresh
  | collected now waiters sessions idle waiting visited =>
    refine .collects now waiters sessions rfl ?_ rfl idle visited rfl
    simp [emit, remover, Server.notices, evictions]
  | evicted p code rest buffered tasks => exact janitor_tears tasks rfl rfl
  | disconnected p rest buffered tasks => exact janitor_tears tasks rfl rfl
  | lost c known => exact quiet_other rfl rfl rfl rfl rfl

section Runs

variable (waiterTTL sessionTTL : Int) (acts : List Act)

structure Torn (s : Server) : Prop where
  counted : ∀ id x, Held waiterTTL sessionTTL acts id x →
    (s.broker.sessions.lookup id = some x ∧ (events waiterTTL sessionTTL acts).countP (Event.removes id) = 0) ∨
    (s.broker.sessions.lookup id = none ∧ (events waiterTTL sessionTTL acts).countP (Event.removes id) = 1)
  removed : ∀ id r, .removed id r ∈ events waiterTTL sessionTTL acts → ∃ x, Held waiterTTL sessionTTL acts id x
  noticed : ∀ n q id, s.notice n = some (q, id) →
    (events waiterTTL sessionTTL acts).countP (Event.notifies id) = 0 ∧
    (∀ m r, s.notice m = some (r, id) → m = n) ∧
    ∃ x p, Held waiterTTL sessionTTL acts id x ∧ x.Members p q ∧
      .removed id (some p) ∈ events waiterTTL sessionTTL acts
  sent : ∀ q id, .peerLeft q id ∈ events waiterTTL sessionTTL acts →
    (events waiterTTL sessionTTL acts).countP (Event.notifies id) = 1 ∧ (∀ m r, s.notice m ≠ some (r, id)) ∧
    ∃ x p, Held waiterTTL sessionTTL acts id x ∧ x.Members p q ∧
      .removed id (some p) ∈ events waiterTTL sessionTTL acts
  unregistered : ∀ id p, .removed id (some p) ∈ events waiterTTL sessionTTL acts →
    ∃ q, (∃ n, s.notice n = some (q, id)) ∨ .peerLeft q id ∈ events waiterTTL sessionTTL acts
  evicted : ∀ id, .removed id none ∈ events waiterTTL sessionTTL acts → ∃ x, Held waiterTTL sessionTTL acts id x ∧
    ∀ m, m = x.first ∨ m = x.second →
      (.expired m ∈ events waiterTTL sessionTTL acts ∨ .send m (text "session-expired") ∈ s.janitor) ∧
      (.closed m ∈ events waiterTTL sessionTTL acts ∨ .close m ∈ s.janitor)

variable {waiterTTL sessionTTL acts}

theorem events_snoc (ran : run step (initial waiterTTL sessionTTL) acts = some s) (stepped : s.step act = some t) :
    events waiterTTL sessionTTL (acts ++ [act]) = events waiterTTL sessionTTL acts ++ s.emit act t :=
  log_snoc emit _ s t acts act ran stepped

theorem Torn.live (torn : s.Torn waiterTTL sessionTTL acts)
    (ran : run step (initial waiterTTL sessionTTL) acts = some s) {id : Bytes} {x : Session}
    (held : s.broker.sessions.lookup id = some x) :
    (events waiterTTL sessionTTL acts).countP (Event.removes id) = 0 ∧
      ∀ r, .removed id r ∉ events waiterTTL sessionTTL acts := by
  have none : (events waiterTTL sessionTTL acts).countP (Event.removes id) = 0 := by
    rcases torn.counted id x (.last ran held) with ⟨_, none⟩ | ⟨gone, _⟩
    · exact none
    · rw [held] at gone
      cases gone
  refine ⟨none, ?_⟩
  intro r member
  exact List.countP_eq_zero.mp none _ member (by simp [Event.removes])

theorem Torn.unregisters (torn : s.Torn waiterTTL sessionTTL acts)
    (ran : run step (initial waiterTTL sessionTTL) acts = some s) (stepped : s.step act = some t)
    {n : Notifier} {p q : Peer} {id : Bytes} {x : Session} (held : s.broker.sessions.lookup id = some x)
    (members : x.Members p q) (erased : t.broker.sessions = s.broker.sessions.erase id)
    (emitted : s.emit act t = [.removed id (some p)]) (idle : s.notice n = none)
    (notices : t.notice = Function.update s.notice n (some (q, id))) (janitor : t.janitor = s.janitor) :
    t.Torn waiterTTL sessionTTL (acts ++ [act]) := by
  have log := events_snoc ran stepped
  rw [emitted] at log
  obtain ⟨none, unremoved⟩ := torn.live ran held
  have now : Held waiterTTL sessionTTL (acts ++ [act]) id x := Held.snoc (.last ran held) act
  have before : ∀ jd y, Held waiterTTL sessionTTL (acts ++ [act]) jd y → Held waiterTTL sessionTTL acts jd y := by
    intro jd y later
    rcases Passes.cases (run_snoc _ s t acts act ran stepped) later with old | new
    · exact old
    · rw [erased] at new
      exact .last ran ((lookup_erase_iff _ _ _ _).mp new).2
  have pending : ∀ m r jd, t.notice m = some (r, jd) →
      (m = n ∧ r = q ∧ jd = id) ∨ (m ≠ n ∧ s.notice m = some (r, jd) ∧ jd ≠ id) := by
    intro m r jd found
    rw [notices] at found
    by_cases same : m = n
    · subst same
      rw [Function.update_self] at found
      cases found
      exact .inl ⟨rfl, rfl, rfl⟩
    · rw [Function.update_of_ne same] at found
      refine .inr ⟨same, found, ?_⟩
      rintro rfl
      obtain ⟨_, _, _, p', _, _, removed⟩ := torn.noticed m r jd found
      exact unremoved _ removed
  refine ⟨?_, ?_, ?_, ?_, ?_, ?_⟩
  · intro jd y later
    rw [log, List.countP_append, erased]
    by_cases same : jd = id
    · subst same
      refine .inr ⟨AList.lookup_erase _ _, ?_⟩
      simp [none, Event.removes]
    · have count : [Event.removed id (some p)].countP (Event.removes jd) = 0 := by
        simp [Event.removes, Ne.symm same]
      rw [count, AList.lookup_erase_ne same]
      exact torn.counted jd y (before jd y later)
  · intro jd r member
    rw [log, List.mem_append, List.mem_singleton] at member
    rcases member with old | new
    · obtain ⟨y, earlier⟩ := torn.removed jd r old
      exact ⟨y, earlier.snoc act⟩
    · cases new
      exact ⟨x, now⟩
  · intro m r jd found
    have count : ∀ kd, (events waiterTTL sessionTTL (acts ++ [act])).countP (Event.notifies kd) =
        (events waiterTTL sessionTTL acts).countP (Event.notifies kd) := by
      intro kd
      rw [log, List.countP_append]
      simp [Event.notifies]
    rw [count]
    rcases pending m r jd found with ⟨rfl, rfl, rfl⟩ | ⟨other, old, distinct⟩
    · refine ⟨?_, ?_, x, p, now, members, ?_⟩
      · rw [List.countP_eq_zero]
        intro e member notifies
        cases e with
        | peerLeft r' kd =>
          simp only [Event.notifies, decide_eq_true_eq] at notifies
          subst notifies
          obtain ⟨_, _, _, p', _, _, removed⟩ := torn.sent r' kd member
          exact unremoved _ removed
        | removed | expired | closed => cases notifies
      · intro m' r' found'
        rcases pending m' r' jd found' with ⟨same, _⟩ | ⟨_, _, distinct⟩
        · exact same
        · exact absurd rfl distinct
      · rw [log]
        exact List.mem_append_right _ (List.mem_singleton_self _)
    · obtain ⟨zero, unique, y, p', earlier, members', removed⟩ := torn.noticed m r jd old
      refine ⟨zero, ?_, y, p', earlier.snoc act, members', ?_⟩
      · intro m' r' found'
        rcases pending m' r' jd found' with ⟨_, _, same⟩ | ⟨_, old', _⟩
        · exact absurd same distinct
        · exact unique m' r' old'
      · rw [log]
        exact List.mem_append_left _ removed
  · intro r jd member
    rw [log, List.mem_append, List.mem_singleton] at member
    rcases member with old | new
    · obtain ⟨one, free, y, p', earlier, members', removed⟩ := torn.sent r jd old
      refine ⟨?_, ?_, y, p', earlier.snoc act, members', ?_⟩
      · rw [log, List.countP_append, one]
        simp [Event.notifies]
      · intro m r' found
        rcases pending m r' jd found with ⟨_, _, rfl⟩ | ⟨_, old', _⟩
        · exact unremoved _ removed
        · exact free m r' old'
      · rw [log]
        exact List.mem_append_left _ removed
    · cases new
  · intro jd p' member
    rw [log, List.mem_append, List.mem_singleton] at member
    rw [log]
    rcases member with old | new
    · obtain ⟨r, ⟨m, found⟩ | sent⟩ := torn.unregistered jd p' old
      · have other : m ≠ n := by
          rintro rfl
          rw [idle] at found
          cases found
        exact ⟨r, .inl ⟨m, by rw [notices, Function.update_of_ne other, found]⟩⟩
      · exact ⟨r, .inr (List.mem_append_left _ sent)⟩
    · cases new
      exact ⟨q, .inl ⟨n, by rw [notices, Function.update_self]⟩⟩
  · intro jd member
    rw [log, List.mem_append, List.mem_singleton] at member
    rw [log, janitor]
    rcases member with old | new
    · obtain ⟨y, earlier, told⟩ := torn.evicted jd old
      refine ⟨y, earlier.snoc act, ?_⟩
      intro m member
      obtain ⟨expired, closed⟩ := told m member
      exact ⟨expired.imp_left (List.mem_append_left _), closed.imp_left (List.mem_append_left _)⟩
    · cases new

theorem Torn.notifies (torn : s.Torn waiterTTL sessionTTL acts)
    (ran : run step (initial waiterTTL sessionTTL) acts = some s) (stepped : s.step act = some t)
    {n : Notifier} {q : Peer} {id : Bytes} (pending : s.notice n = some (q, id))
    (sessions : t.broker.sessions = s.broker.sessions) (emitted : s.emit act t = [.peerLeft q id])
    (notices : t.notice = Function.update s.notice n none) (janitor : t.janitor = s.janitor) :
    t.Torn waiterTTL sessionTTL (acts ++ [act]) := by
  have log := events_snoc ran stepped
  rw [emitted] at log
  obtain ⟨none, unique, x, p, held, members, removed⟩ := torn.noticed n q id pending
  have before : ∀ jd y, Held waiterTTL sessionTTL (acts ++ [act]) jd y → Held waiterTTL sessionTTL acts jd y := by
    intro jd y later
    rcases Passes.cases (run_snoc _ s t acts act ran stepped) later with old | new
    · exact old
    · rw [sessions] at new
      exact .last ran new
  have left : ∀ m r jd, t.notice m = some (r, jd) → m ≠ n ∧ s.notice m = some (r, jd) ∧ jd ≠ id := by
    intro m r jd found
    rw [notices] at found
    by_cases same : m = n
    · subst same
      rw [Function.update_self] at found
      cases found
    · rw [Function.update_of_ne same] at found
      refine ⟨same, found, ?_⟩
      rintro rfl
      exact same (unique m r found)
  have old : ∀ e, e ∈ events waiterTTL sessionTTL acts → e ∈ events waiterTTL sessionTTL (acts ++ [act]) := by
    rw [log]
    exact fun _ => List.mem_append_left _
  have count : ∀ jd, jd ≠ id → (events waiterTTL sessionTTL (acts ++ [act])).countP (Event.notifies jd) =
      (events waiterTTL sessionTTL acts).countP (Event.notifies jd) := by
    intro jd other
    rw [log, List.countP_append]
    simp [Event.notifies, Ne.symm other]
  refine ⟨?_, ?_, ?_, ?_, ?_, ?_⟩
  · intro jd y later
    rw [log, List.countP_append, sessions]
    exact torn.counted jd y (before jd y later)
  · intro jd r member
    rw [log, List.mem_append, List.mem_singleton] at member
    rcases member with member | new
    · obtain ⟨y, earlier⟩ := torn.removed jd r member
      exact ⟨y, earlier.snoc act⟩
    · cases new
  · intro m r jd found
    obtain ⟨_, found', other⟩ := left m r jd found
    obtain ⟨zero, single, y, p', earlier, members', removed'⟩ := torn.noticed m r jd found'
    rw [count jd other]
    exact ⟨zero, fun m' r' again => single m' r' (left m' r' jd again).2.1, y, p', earlier.snoc act, members',
      old _ removed'⟩
  · intro r jd member
    rw [log, List.mem_append, List.mem_singleton] at member
    rcases member with member | new
    · obtain ⟨one, free, y, p', earlier, members', removed'⟩ := torn.sent r jd member
      have other : jd ≠ id := by
        rintro rfl
        exact free n q pending
      rw [count jd other]
      exact ⟨one, fun m r' found => free m r' (left m r' jd found).2.1, y, p', earlier.snoc act, members',
        old _ removed'⟩
    · cases new
      refine ⟨?_, fun m r' found => (left m r' id found).2.2 rfl, x, p, held.snoc act, members, old _ removed⟩
      rw [log, List.countP_append, none]
      simp [Event.notifies]
  · intro jd p' member
    rw [log, List.mem_append, List.mem_singleton] at member
    rcases member with member | new
    · obtain ⟨r, ⟨m, found⟩ | sent⟩ := torn.unregistered jd p' member
      · by_cases same : m = n
        · subst same
          rw [pending] at found
          cases found
          exact ⟨q, .inr (by rw [log]; exact List.mem_append_right _ (List.mem_singleton_self _))⟩
        · exact ⟨r, .inl ⟨m, by rw [notices, Function.update_of_ne same, found]⟩⟩
      · exact ⟨r, .inr (old _ sent)⟩
    · cases new
  · intro jd member
    rw [log, List.mem_append, List.mem_singleton] at member
    rcases member with member | new
    · obtain ⟨y, earlier, told⟩ := torn.evicted jd member
      refine ⟨y, earlier.snoc act, ?_⟩
      intro m isMember
      obtain ⟨expired, closed⟩ := told m isMember
      rw [janitor]
      exact ⟨expired.imp_left (old _), closed.imp_left (old _)⟩
    · cases new

theorem Torn.carry (torn : s.Torn waiterTTL sessionTTL acts)
    (ran : run step (initial waiterTTL sessionTTL) acts = some s) (stepped : s.step act = some t)
    (mild : ∀ e ∈ s.emit act t, (∀ id p, e ≠ .removed id (some p)) ∧ ∀ q id, e ≠ .peerLeft q id)
    (notices : t.notice = s.notice)
    (counted : ∀ id x, Held waiterTTL sessionTTL (acts ++ [act]) id x →
      (t.broker.sessions.lookup id = some x ∧
        (events waiterTTL sessionTTL (acts ++ [act])).countP (Event.removes id) = 0) ∨
      (t.broker.sessions.lookup id = none ∧
        (events waiterTTL sessionTTL (acts ++ [act])).countP (Event.removes id) = 1))
    (removed : ∀ id, .removed id none ∈ s.emit act t → ∃ x, Held waiterTTL sessionTTL acts id x ∧
      ∀ m, m = x.first ∨ m = x.second → .send m (text "session-expired") ∈ t.janitor ∧ .close m ∈ t.janitor)
    (tasks : ∀ m, (.send m (text "session-expired") ∈ s.janitor →
        .expired m ∈ s.emit act t ∨ .send m (text "session-expired") ∈ t.janitor) ∧
      (.close m ∈ s.janitor → .closed m ∈ s.emit act t ∨ .close m ∈ t.janitor)) :
    t.Torn waiterTTL sessionTTL (acts ++ [act]) := by
  have log := events_snoc ran stepped
  have old : ∀ e, e ∈ events waiterTTL sessionTTL acts → e ∈ events waiterTTL sessionTTL (acts ++ [act]) := by
    rw [log]
    exact fun _ => List.mem_append_left _
  have count : ∀ id, (events waiterTTL sessionTTL (acts ++ [act])).countP (Event.notifies id) =
      (events waiterTTL sessionTTL acts).countP (Event.notifies id) := by
    intro id
    have zero : (s.emit act t).countP (Event.notifies id) = 0 := by
      rw [List.countP_eq_zero]
      intro e member notifies
      cases e with
      | peerLeft q jd => exact (mild _ member).2 q jd rfl
      | removed | expired | closed => cases notifies
    rw [log, List.countP_append, zero, Nat.add_zero]
  refine ⟨counted, ?_, ?_, ?_, ?_, ?_⟩
  · intro id r member
    rw [log, List.mem_append] at member
    rcases member with member | new
    · obtain ⟨x, earlier⟩ := torn.removed id r member
      exact ⟨x, earlier.snoc act⟩
    · cases r with
      | some p => exact absurd rfl ((mild _ new).1 id p)
      | none =>
        obtain ⟨x, earlier, _⟩ := removed id new
        exact ⟨x, earlier.snoc act⟩
  · intro n q id found
    rw [notices] at found
    obtain ⟨zero, unique, x, p, earlier, members, gone⟩ := torn.noticed n q id found
    rw [count, notices]
    exact ⟨zero, unique, x, p, earlier.snoc act, members, old _ gone⟩
  · intro q id member
    rw [log, List.mem_append] at member
    rcases member with member | new
    · obtain ⟨one, free, x, p, earlier, members, gone⟩ := torn.sent q id member
      rw [count, notices]
      exact ⟨one, free, x, p, earlier.snoc act, members, old _ gone⟩
    · exact absurd rfl ((mild _ new).2 q id)
  · intro id p member
    rw [log, List.mem_append] at member
    rcases member with member | new
    · obtain ⟨q, pending | sent⟩ := torn.unregistered id p member
      · rw [notices]
        exact ⟨q, .inl pending⟩
      · exact ⟨q, .inr (old _ sent)⟩
    · exact absurd rfl ((mild _ new).1 id p)
  · intro id member
    rw [log, List.mem_append] at member
    rw [log]
    rcases member with member | new
    · obtain ⟨x, earlier, told⟩ := torn.evicted id member
      refine ⟨x, earlier.snoc act, ?_⟩
      intro m isMember
      obtain ⟨expired, closed⟩ := told m isMember
      simp only [List.mem_append]
      refine ⟨?_, ?_⟩
      · rcases expired with done | waits
        · exact .inl (.inl done)
        · exact ((tasks m).1 waits).imp_left .inr
      · rcases closed with done | waits
        · exact .inl (.inl done)
        · exact ((tasks m).2 waits).imp_left .inr
    · obtain ⟨x, earlier, told⟩ := removed id new
      exact ⟨x, earlier.snoc act, fun m isMember => ⟨.inr (told m isMember).1, .inr (told m isMember).2⟩⟩

theorem Torn.counted_kept (torn : s.Torn waiterTTL sessionTTL acts) (ok : s.Consistent)
    (announcing : s.Announcing waiterTTL sessionTTL acts)
    (ran : run step (initial waiterTTL sessionTTL) acts = some s) (stepped : s.step act = some t)
    (kept : ∀ id x, s.broker.sessions.lookup id = some x → t.broker.sessions.lookup id = some x)
    (mild : ∀ id, (s.emit act t).countP (Event.removes id) = 0) {id : Bytes} {x : Session}
    (held : Held waiterTTL sessionTTL (acts ++ [act]) id x) :
    (t.broker.sessions.lookup id = some x ∧
      (events waiterTTL sessionTTL (acts ++ [act])).countP (Event.removes id) = 0) ∨
    (t.broker.sessions.lookup id = none ∧
      (events waiterTTL sessionTTL (acts ++ [act])).countP (Event.removes id) = 1) := by
  rw [events_snoc ran stepped, List.countP_append, mild id, Nat.add_zero]
  rcases held.cases ok ran stepped with old | ⟨p, w, now, pairs, rfl⟩
  · rcases torn.counted id x old with ⟨there, none⟩ | ⟨gone, one⟩
    · exact .inl ⟨kept id x there, none⟩
    · refine .inr ⟨?_, one⟩
      -- An id once held is issued, so no later session has it.
      cases found : t.broker.sessions.lookup id with
      | none => rfl
      | some y =>
        rcases step_pairs_or_not ok stepped with ⟨p, w, jd, now, pairs⟩ | unpairing
        · rw [pairs.sessions] at found
          rcases (lookup_insert_iff _ _ _ _ _).mp found with ⟨rfl, _⟩ | ⟨_, before⟩
          · exact absurd (announcing.issued _ x old) pairs.fresh
          · rw [gone] at before
            cases before
        · have before := unpairing.sessions id y found
          rw [gone] at before
          cases before
  · refine .inl ⟨?_, ?_⟩
    · rw [pairs.sessions]
      exact AList.lookup_insert _
    · rw [List.countP_eq_zero]
      intro e member removes
      cases e with
      | removed jd r =>
        simp only [Event.removes, decide_eq_true_eq] at removes
        subst removes
        obtain ⟨y, earlier⟩ := torn.removed jd r member
        exact pairs.fresh (announcing.issued jd y earlier)
      | peerLeft | expired | closed => cases removes

theorem evictions_mild (e : Event) (member : e ∈ s.evictions act) : (∃ p, e = .expired p) ∨ ∃ p, e = .closed p := by
  unfold evictions at member
  split at member
  · split at member
    · split at member
      · exact .inl ⟨_, List.mem_singleton.mp member⟩
      · cases member
    · exact .inr ⟨_, List.mem_singleton.mp member⟩
    · cases member
  · cases member

theorem mem_evictionTasks {waiters : List Peer} {sessions : List EvictedSession} {es : EvictedSession}
    (member : es ∈ sessions) {m : Peer} (ends : m = es.first ∨ m = es.second) :
    .send m (text "session-expired") ∈ evictionTasks waiters sessions ∧ .close m ∈ evictionTasks waiters sessions := by
  rw [evictionTasks, List.mem_append, List.mem_append, List.mem_flatMap, List.mem_flatMap, List.mem_flatMap,
    List.mem_flatMap]
  rcases ends with rfl | rfl
  · exact ⟨.inr ⟨es, member, by simp⟩, .inr ⟨es, member, by simp⟩⟩
  · exact ⟨.inr ⟨es, member, by simp⟩, .inr ⟨es, member, by simp⟩⟩

theorem Torn.collects (torn : s.Torn waiterTTL sessionTTL acts)
    (ran : run step (initial waiterTTL sessionTTL) acts = some s) (stepped : s.step act = some t)
    {now : Int} {waiters sessions : List Bytes} (broker : t.broker = (collectStale s.broker now waiters sessions).1)
    (emitted : s.emit act t = (s.removals t).map (Event.removed · none)) (notices : t.notice = s.notice)
    (idle : s.janitor = [])
    (janitor : t.janitor = evictionTasks (collectStale s.broker now waiters sessions).2.1
      (collectStale s.broker now waiters sessions).2.2) :
    t.Torn waiterTTL sessionTTL (acts ++ [act]) := by
  have log := events_snoc ran stepped
  have kept : ∀ jd y, t.broker.sessions.lookup jd = some y → s.broker.sessions.lookup jd = some y := by
    intro jd y found
    rw [broker] at found
    exact ((collectStale_sessions _ _ _ _ _ _).mp found).1
  have counts : ∀ jd, (s.emit act t).countP (Event.removes jd) = (s.removals t).count jd := by
    intro jd
    rw [emitted, List.countP_map, List.count]
    apply List.countP_congr
    intro kd _
    simp [Event.removes]
  refine torn.carry ran stepped ?_ notices ?_ ?_ ?_
  · intro e member
    rw [emitted, List.mem_map] at member
    obtain ⟨jd, _, rfl⟩ := member
    simp
  · intro jd y later
    have old : Held waiterTTL sessionTTL acts jd y := by
      rcases Passes.cases (run_snoc _ s t acts act ran stepped) later with old | new
      · exact old
      · exact .last ran (kept jd y new)
    rw [log, List.countP_append, counts]
    rcases torn.counted jd y old with ⟨there, none⟩ | ⟨gone, one⟩
    · cases found : t.broker.sessions.lookup jd with
      | some z =>
        have same := kept jd z found
        rw [there] at same
        cases same
        have stays : jd ∉ s.removals t := by
          intro removed
          have absent := (mem_removals.mp removed).2
          rw [found] at absent
          cases absent
        refine .inl ⟨rfl, ?_⟩
        rw [none, List.count_eq_zero_of_not_mem stays]
      | none =>
        have removed : jd ∈ s.removals t := mem_removals.mpr ⟨⟨y, there⟩, found⟩
        refine .inr ⟨rfl, ?_⟩
        rw [none, List.count_eq_one_of_mem removals_nodup removed]
    · have absent : jd ∉ s.removals t := by
        intro removed
        obtain ⟨z, there⟩ := (mem_removals.mp removed).1
        rw [gone] at there
        cases there
      have still : t.broker.sessions.lookup jd = none := by
        cases found : t.broker.sessions.lookup jd with
        | none => rfl
        | some z =>
          have there := kept jd z found
          rw [gone] at there
          cases there
      refine .inr ⟨still, ?_⟩
      rw [one, List.count_eq_zero_of_not_mem absent]
  · intro jd member
    rw [emitted, List.mem_map] at member
    obtain ⟨kd, removed, same⟩ := member
    cases same
    obtain ⟨⟨x, there⟩, gone⟩ := mem_removals.mp removed
    refine ⟨x, .last ran there, ?_⟩
    have stale : jd ∈ sessions ∧ x.createdAt < now - s.broker.sessionTTL := by
      by_contra fresh
      have found := (collectStale_sessions _ now waiters sessions jd x).mpr ⟨there, fresh⟩
      rw [← broker, gone] at found
      cases found
    have evicted := (collectStale_evictedSessions _ now waiters sessions _).mpr
      ⟨jd, stale.1, x, there, stale.2, rfl⟩
    intro m isMember
    rw [janitor]
    exact mem_evictionTasks evicted isMember
  · simp [idle]

theorem Torn.evicts (torn : s.Torn waiterTTL sessionTTL acts) (ok : s.Consistent)
    (announcing : s.Announcing waiterTTL sessionTTL acts)
    (ran : run step (initial waiterTTL sessionTTL) acts = some s) (stepped : s.step act = some t)
    {task : Task} (tasks : s.janitor = task :: t.janitor) (sessions : t.broker.sessions = s.broker.sessions)
    (notices : t.notice = s.notice) (emitted : s.emit act t = s.evictions act)
    (sent : ∀ p, task = .send p (text "session-expired") → .expired p ∈ s.emit act t)
    (closed : ∀ p, task = .close p → .closed p ∈ s.emit act t) :
    t.Torn waiterTTL sessionTTL (acts ++ [act]) := by
  have mild : ∀ e ∈ s.emit act t, (∃ p, e = .expired p) ∨ ∃ p, e = .closed p := by
    rw [emitted]
    exact evictions_mild
  refine torn.carry ran stepped ?_ notices ?_ ?_ ?_
  · intro e member
    rcases mild e member with ⟨p, rfl⟩ | ⟨p, rfl⟩ <;> simp
  · intro id x held
    refine torn.counted_kept ok announcing ran stepped ?_ ?_ held
    · rw [sessions]
      exact fun _ _ found => found
    · intro jd
      rw [List.countP_eq_zero]
      intro e member
      rcases mild e member with ⟨p, rfl⟩ | ⟨p, rfl⟩ <;> simp [Event.removes]
  · intro id member
    rcases mild _ member with ⟨p, same⟩ | ⟨p, same⟩ <;> cases same
  · intro m
    rw [tasks]
    simp only [List.mem_cons]
    refine ⟨?_, ?_⟩
    · rintro (here | later)
      · exact .inl (sent m here.symm)
      · exact .inr later
    · rintro (here | later)
      · exact .inl (closed m here.symm)
      · exact .inr later

theorem Torn.quiet (torn : s.Torn waiterTTL sessionTTL acts) (ok : s.Consistent)
    (announcing : s.Announcing waiterTTL sessionTTL acts)
    (ran : run step (initial waiterTTL sessionTTL) acts = some s) (stepped : s.step act = some t)
    (kept : ∀ id x, s.broker.sessions.lookup id = some x → t.broker.sessions.lookup id = some x)
    (emitted : s.emit act t = []) (notices : t.notice = s.notice) (janitor : t.janitor = s.janitor) :
    t.Torn waiterTTL sessionTTL (acts ++ [act]) := by
  refine torn.carry ran stepped ?_ notices ?_ ?_ ?_
  · simp [emitted]
  · intro id x held
    exact torn.counted_kept ok announcing ran stepped kept (by simp [emitted]) held
  · simp [emitted]
  · rw [janitor]
    exact fun m => ⟨.inr, .inr⟩

theorem torn_run (ran : run Server.step (initial waiterTTL sessionTTL) acts = some s) :
    s.Torn waiterTTL sessionTTL acts := by
  refine run_history _ s acts ?_ ?_ ran
  · refine ⟨?_, ?_, ?_, ?_, ?_, ?_⟩
    · rintro id x ⟨before, after, u, split, reached, held⟩
      obtain ⟨rfl, rfl⟩ := List.append_eq_nil_iff.mp split.symm
      cases reached
      simp [initial, Broker.empty] at held
    · intro id r member
      cases member
    · intro n q id pending
      cases n <;> cases pending
    · intro q id member
      cases member
    · intro id p member
      cases member
    · intro id member
      cases member
  · intro before u a v reached torn stepped
    have ok := consistent_run waiterTTL sessionTTL before reached
    have announcing := announcing_run reached
    cases step_tears ok announcing.settled stepped with
    | unregisters n p q id x held members erased emitted idle notices janitor =>
      exact torn.unregisters reached stepped held members erased emitted idle notices janitor
    | notifies n q id pending sessions emitted notices janitor =>
      exact torn.notifies reached stepped pending sessions emitted notices janitor
    | collects now waiters sessions broker emitted notices idle visited janitor =>
      exact torn.collects reached stepped broker emitted notices idle janitor
    | evicts task tasks sessions notices emitted sent closed =>
      exact torn.evicts ok announcing reached stepped tasks sessions notices emitted sent closed
    | quiet kept emitted notices janitor =>
      exact torn.quiet ok announcing reached stepped kept emitted notices janitor

theorem Torn.remover_unique (torn : s.Torn waiterTTL sessionTTL acts) {id : Bytes} {r q : Option Peer}
    (first : .removed id r ∈ events waiterTTL sessionTTL acts)
    (second : .removed id q ∈ events waiterTTL sessionTTL acts) : r = q := by
  obtain ⟨x, held⟩ := torn.removed id r first
  have few : ((events waiterTTL sessionTTL acts).filter (Event.removes id)).length ≤ 1 := by
    rw [← List.countP_eq_length_filter]
    rcases torn.counted id x held with ⟨_, none⟩ | ⟨_, one⟩
    · omega
    · omega
  have inFirst := List.mem_filter.mpr ⟨first, show Event.removes id (.removed id r) = true by simp [Event.removes]⟩
  have inSecond := List.mem_filter.mpr ⟨second, show Event.removes id (.removed id q) = true by simp [Event.removes]⟩
  match shape : (events waiterTTL sessionTTL acts).filter (Event.removes id) with
  | [] =>
    rw [shape] at inFirst
    cases inFirst
  | [e] =>
    rw [shape, List.mem_singleton] at inFirst inSecond
    have same := inFirst.trans inSecond.symm
    cases same
    rfl
  | _ :: _ :: _ =>
    rw [shape] at few
    simp at few

theorem Announcing.same_session (announcing : s.Announcing waiterTTL sessionTTL acts) {id jd : Bytes} {x y : Session}
    {p q r w : Peer} (held : Held waiterTTL sessionTTL acts id x) (members : x.Members p q)
    (held' : Held waiterTTL sessionTTL acts jd y) (members' : y.Members r w) (same : p.conn = r.conn) : id = jd := by
  obtain ⟨i, d, found, session, peer⟩ := announcing.started id x p q held members
  obtain ⟨j, e, found', session', peer'⟩ := announcing.started jd y r w held' members'
  have index := announcing.distinct i j d e found found' (by rw [peer, peer', same])
  subst index
  rw [found] at found'
  cases found'
  exact session.symm.trans session'

theorem Torn.reached_once (torn : s.Torn waiterTTL sessionTTL acts)
    (announcing : s.Announcing waiterTTL sessionTTL acts) (c : Nat) :
    (events waiterTTL sessionTTL acts).countP (Event.reaches c) ≤ 1 := by
  by_cases some : ∃ e ∈ events waiterTTL sessionTTL acts, Event.reaches c e
  · obtain ⟨e, member, reaches⟩ := some
    cases e with
    | peerLeft q id =>
      simp only [Event.reaches, decide_eq_true_eq] at reaches
      obtain ⟨one, _, x, p, held, members, _⟩ := torn.sent q id member
      rw [← one]
      apply List.countP_mono_left
      intro e' member' reaches'
      cases e' with
      | peerLeft r jd =>
        simp only [Event.reaches, decide_eq_true_eq] at reaches'
        obtain ⟨_, _, y, p', held', members', _⟩ := torn.sent r jd member'
        simp only [Event.notifies, decide_eq_true_eq]
        exact announcing.same_session held' members'.swap held members.swap (reaches'.trans reaches.symm)
      | removed | expired | closed => cases reaches'
    | removed | expired | closed => cases reaches
  · have zero : (events waiterTTL sessionTTL acts).countP (Event.reaches c) = 0 :=
      List.countP_eq_zero.mpr fun e member reaches => some ⟨e, member, reaches⟩
    omega

theorem Held.apart {id : Bytes} {x : Session} {p q : Peer} (held : Held waiterTTL sessionTTL acts id x)
    (members : x.Members p q) : p.conn ≠ q.conn := by
  have apart := held.consistent.2
  rcases members with ⟨rfl, rfl⟩ | ⟨rfl, rfl⟩
  · exact apart
  · exact apart.symm

end Runs

end Server

end Rtc2Tcp.Rendezvous

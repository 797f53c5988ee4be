import Rtc2Tcp.Rendezvous.Pairing

namespace Rtc2Tcp.Rendezvous

open Octets Go Signaling Transition Sweep

def Session.Has (x : Session) (p : Peer) : Prop := x.first.id = p.id ∨ x.second.id = p.id

namespace Broker

variable {b after : Broker} {order : List Bytes} {p : Peer}

/-- Every entry is as it was, except for the slot the peer waits in and the session it is in. -/
structure Forgets (b : Broker) (p : Peer) (after : Broker) : Prop where
  waiting : ∀ key w, after.waiting.lookup key = some w ↔
    b.waiting.lookup key = some w ∧ ¬(key = p.rendezvousKey ∧ w.id = p.id)
  sessions : ∀ id x, after.sessions.lookup id = some x ↔ b.sessions.lookup id = some x ∧ ¬x.Has p
  activeKey : ∀ key id, after.activeKey.lookup key = some id ↔
    b.activeKey.lookup key = some id ∧ ∀ x, b.sessions.lookup id = some x → ¬x.Has p

theorem Consistent.forgets_slot (ok : b.Consistent) {w : Peer} (waits : b.waiting.lookup p.rendezvousKey = some w)
    (same : w.id = p.id) : b.Forgets p { b with waiting := b.waiting.erase p.rendezvousKey } := by
  -- A peer that waits is in no session.
  have unpaired : ∀ id x, b.sessions.lookup id = some x → ¬x.Has p := by
    intro id x found member
    have clash := ok.once p.id (.slot p.rendezvousKey) (.session id) ⟨w, waits, same⟩ ⟨x, found, member⟩
    cases clash
  refine ⟨fun key v => ?_, fun id x => ?_, fun key id => ?_⟩
  · rw [lookup_erase_iff]
    constructor
    · rintro ⟨other, held⟩
      exact ⟨held, fun both => other both.1⟩
    · rintro ⟨held, kept⟩
      refine ⟨?_, held⟩
      rintro rfl
      rw [waits] at held
      cases held
      exact kept ⟨rfl, same⟩
  · exact ⟨fun held => ⟨held, unpaired id x held⟩, fun both => both.1⟩
  · exact ⟨fun held => ⟨held, unpaired id⟩, fun both => both.1⟩

theorem Consistent.forgets_session (ok : b.Consistent) {id : Bytes} {x : Session} (found : b.sessions.lookup id = some x)
    (member : x.Has p) : b.Forgets p { b with
      sessions := b.sessions.erase id
      activeKey := b.activeKey.erase x.rendezvousKey } := by
  have only : ∀ jd y, b.sessions.lookup jd = some y → y.Has p → jd = id := by
    intro jd y held there
    have same := ok.once p.id (.session jd) (.session id) ⟨y, held, there⟩ ⟨x, found, member⟩
    cases same
    rfl
  refine ⟨fun key v => ?_, fun jd y => ?_, fun key jd => ?_⟩
  · refine ⟨fun held => ⟨held, ?_⟩, fun both => both.1⟩
    rintro ⟨rfl, same⟩
    have clash := ok.once p.id (.slot p.rendezvousKey) (.session id) ⟨v, held, same⟩ ⟨x, found, member⟩
    cases clash
  · rw [lookup_erase_iff]
    constructor
    · rintro ⟨other, held⟩
      exact ⟨held, fun there => other (only jd y held there)⟩
    · rintro ⟨held, outside⟩
      refine ⟨?_, held⟩
      rintro rfl
      rw [found] at held
      cases held
      exact outside member
  · rw [lookup_erase_iff]
    have active := (ok.active x.rendezvousKey id).mpr ⟨x, found, ok.identified id x found, rfl⟩
    constructor
    · rintro ⟨other, held⟩
      refine ⟨held, fun y there inside => other ?_⟩
      obtain rfl := only jd y there inside
      obtain ⟨z, same, _, keyed⟩ := (ok.active key jd).mp held
      rw [found] at same
      cases same
      exact keyed.symm
    · rintro ⟨held, outside⟩
      refine ⟨?_, held⟩
      rintro rfl
      rw [active] at held
      cases held
      exact outside x found member

theorem Forgets.nothing (absent : ∀ id x, b.sessions.lookup id = some x → ¬x.Has p)
    (elsewhere : ∀ w, b.waiting.lookup p.rendezvousKey = some w → w.id ≠ p.id) : b.Forgets p b := by
  refine ⟨fun key w => ?_, fun id x => ?_, fun key id => ?_⟩
  · refine ⟨fun held => ⟨held, ?_⟩, fun both => both.1⟩
    rintro ⟨rfl, same⟩
    exact elsewhere w held same
  · exact ⟨fun held => ⟨held, absent id x held⟩, fun both => both.1⟩
  · exact ⟨fun held => ⟨held, absent id⟩, fun both => both.1⟩

theorem Consistent.unregister_forgets (ok : b.Consistent) (p : Peer)
    (named : ∀ id s, b.sessions.lookup id = some s → id ≠ []) (visited : order.Perm b.sessions.keys) :
    b.Forgets p (unregisterPeer b order p).1 := by
  rcases unregisterPeer_cases b order p named visited with
    ⟨w, waits, same, result⟩ | ⟨elsewhere, ⟨absent, result⟩ | ⟨id, x, target, found, joins, result⟩⟩
  · rw [result]
    exact ok.forgets_slot waits same
  · rw [result]
    refine .nothing ?_ elsewhere
    rintro id x found (same | same)
    · exact (absent id x found).1 same.symm
    · exact (absent id x found).2 same.symm
  · rw [result]
    refine ok.forgets_session found ?_
    rcases joins with ⟨same, _⟩ | ⟨same, _⟩
    · exact .inl same.symm
    · exact .inr same.symm

theorem unregister_unknown (named : ∀ id s, b.sessions.lookup id = some s → id ≠ [])
    (visited : order.Perm b.sessions.keys) (absent : ∀ id x, b.sessions.lookup id = some x → ¬x.Has p)
    (elsewhere : ∀ w, b.waiting.lookup p.rendezvousKey = some w → w.id ≠ p.id) : (unregisterPeer b order p).1 = b := by
  rcases unregisterPeer_cases b order p named visited with
    ⟨w, waits, same, _⟩ | ⟨_, ⟨_, result⟩ | ⟨id, x, target, found, joins, _⟩⟩
  · exact absurd same (elsewhere w waits)
  · rw [result]
  · refine absurd ?_ (absent id x found)
    rcases joins with ⟨same, _⟩ | ⟨same, _⟩
    · exact .inl same.symm
    · exact .inr same.symm

theorem Forgets.again (forgets : b.Forgets p after) (named : ∀ id s, b.sessions.lookup id = some s → id ≠ [])
    (visited : order.Perm after.sessions.keys) : (unregisterPeer after order p).1 = after := by
  refine unregister_unknown ?_ visited ?_ ?_
  · exact fun id x found => named id x ((forgets.sessions id x).mp found).1
  · exact fun id x found => ((forgets.sessions id x).mp found).2
  · exact fun w waits same => ((forgets.waiting _ w).mp waits).2 ⟨rfl, same⟩

end Broker

namespace Server

variable {s t u v : Server} {act : Act} {p : Peer}

def Unregisters (s : Server) (p : Peer) : Act → Prop
  | .handler c _ => s.handlers c = some ⟨p, .leaving⟩
  | .delivery i _ => ∃ d, s.deliveries[i]? = some d ∧ d.stage = .unregistering ∧ d.peer = p
  | _ => False

theorem Unregisters.broker (unregisters : s.Unregisters p act) (stepped : s.step act = some t) :
    ∃ order, s.Visits order ∧ t.broker = (unregisterPeer s.broker order p).1 := by
  cases act with
  | handler c x =>
    have handler : s.handlers c = some ⟨p, .leaving⟩ := unregisters
    simp only [step, handler, Option.bind_some, handlerStep, Stage.output, proceed] at stepped
    split at stepped
    · rename_i visited
      cases stepped
      exact ⟨x.order, visited, rfl⟩
    · cases stepped
  | delivery i x =>
    obtain ⟨d, found, stage, rfl⟩ := unregisters
    simp only [step, found, Option.bind_some, deliveryStep, Delivery.output, stage, true_and] at stepped
    split at stepped
    · rename_i visited
      cases stepped
      exact ⟨x.order, visited, rfl⟩
    · cases stepped
  | connect | collect | janitor | lose => cases unregisters

theorem departed_of_nowhere (stage : Stage) (handler : s.handlers p.conn = some ⟨p, stage⟩) (late : ¬stage.Early)
    (nowhere : ∀ place, ¬s.broker.Occupies p.id place) : s.Departed p := by
  refine ⟨⟨stage, handler, late, ?_⟩, ?_⟩
  · intro key waits
    exact nowhere (.slot key) ⟨p, waits, rfl⟩
  · intro id x found
    refine ⟨?_, ?_⟩
    · rintro rfl
      exact nowhere (.session id) ⟨x, found, .inl rfl⟩
    · rintro rfl
      exact nowhere (.session id) ⟨x, found, .inr rfl⟩

theorem departed_run (ok : s.Consistent) (departed : s.Departed p) (acts : List Act)
    (ran : run step s acts = some t) : t.Consistent ∧ t.Departed p := by
  have preserved : ∀ (u : Server) (act : Act) (v : Server), u.Consistent ∧ u.Departed p → u.step act = some v →
      v.Consistent ∧ v.Departed p := by
    rintro u act v ⟨ok, departed⟩ stepped
    exact ⟨ok.step stepped, departed.step ok stepped⟩
  exact run_preserves preserved s t acts ⟨ok, departed⟩ ran

theorem Departed.unregister (departed : s.Departed p) (ok : s.Consistent) (unregisters : s.Unregisters p act)
    (stepped : s.step act = some t) : t.broker = s.broker := by
  obtain ⟨⟨stage, handler, _, left⟩, absent⟩ := departed
  obtain ⟨order, visited, result⟩ := unregisters.broker stepped
  have known : ∀ q, s.Attended q → q.id = p.id → q = p := by
    rintro q ⟨other, here, _⟩ same
    exact ok.same_peer here handler same
  rw [result]
  refine Broker.unregister_unknown ok.named_sessions visited ?_ ?_
  · rintro id x found (same | same)
    · exact (absent id x found).1 (known _ (ok.members id x found).2.1 same)
    · exact (absent id x found).2 (known _ (ok.members id x found).2.2 same)
  · intro w waits same
    obtain rfl := known w (ok.waiters _ w waits) same
    exact left _ waits

theorem Unregisters.departed (unregisters : s.Unregisters p act) (ok : s.Consistent)
    (known : ∀ (i : Nat) (d : Delivery), s.deliveries[i]? = some d → s.Settled d.peer)
    (stepped : s.step act = some t) : t.Departed p := by
  obtain ⟨order, visited, result⟩ := unregisters.broker stepped
  have handler : ∃ stage : Stage, s.handlers p.conn = some ⟨p, stage⟩ ∧ ¬stage.Early := by
    cases act with
    | handler c x =>
      have handler : s.handlers c = some ⟨p, .leaving⟩ := unregisters
      have conn := (ok.located c _ handler).1
      exact ⟨.leaving, by rw [conn]; exact handler, id⟩
    | delivery i x =>
      obtain ⟨d, found, _, rfl⟩ := unregisters
      obtain ⟨stage, handler, late, _⟩ := known i d found
      exact ⟨stage, handler, late⟩
    | connect | collect | janitor | lose => cases unregisters
  obtain ⟨stage, handler, late⟩ := handler
  obtain ⟨after, found, moved⟩ := handlers_persist ok stepped handler
  have late' : ¬after.Early := by
    rcases moved with same | ⟨x, _, next⟩
    · rwa [same]
    · exact fun early => late (next.early early)
  refine departed_of_nowhere after found late' fun place => ?_
  rw [result]
  refine ok.broker.unregistered order p ok.named_sessions visited ?_ place
  intro key q waits same
  obtain ⟨other, here, _⟩ := ok.waiters key q waits
  obtain rfl := ok.same_peer here handler same
  exact (ok.broker.waiting_key key q waits).symm

theorem refused_departed (ok : s.Consistent) {c : Nat} {x : Choice} {e : PairError}
    (handler : s.handlers c = some ⟨p, .pairing⟩) (failed : tryPair s.broker p x.draw x.now = .error e)
    (stepped : s.step (.handler c x) = some t) : t.broker = s.broker ∧ t.Departed p := by
  have conn := (ok.located c _ handler).1
  simp only [step, handler, Option.bind_some, handlerStep, Stage.output, proceed, pair] at stepped
  obtain ⟨drawn, fresh, stepped⟩ := Option.bind_eq_some_iff.mp stepped
  have same := drawn_broker fresh
  rw [same, failed] at stepped
  cases stepped
  refine ⟨same, departed_of_nowhere .refusing ?_ id fun place => ?_⟩
  · rw [setStage_handlers, conn, Function.update_self]
  · rw [setStage_broker, same]
    exact ok.nowhere handler id place

/-- Operations touch only the caller's own entries. -/
theorem broker_frame (waiterTTL sessionTTL : Int) (acts : List Act) (s : Server)
    (ran : run step (initial waiterTTL sessionTTL) acts = some s) (p : Peer) :
    (∀ c x t e, s.handlers c = some ⟨p, .pairing⟩ → tryPair s.broker p x.draw x.now = .error e →
      s.step (.handler c x) = some t → t.broker = s.broker ∧
        ∀ more u act v, run step t more = some u → u.Unregisters p act → u.step act = some v → v.broker = u.broker) ∧
    (∀ order, s.Visits order → s.broker.Forgets p (unregisterPeer s.broker order p).1 ∧
      (∀ here there, s.broker.Occupies p.id here → s.broker.Occupies p.id there → here = there) ∧
      ∀ again, again.Perm (unregisterPeer s.broker order p).1.sessions.keys →
        (unregisterPeer (unregisterPeer s.broker order p).1 again p).1 = (unregisterPeer s.broker order p).1) ∧
    ∀ act t, s.Unregisters p act → s.step act = some t →
      ∀ more u again v, run step t more = some u → u.Unregisters p again → u.step again = some v →
        v.broker = u.broker := by
  have ok := consistent_run waiterTTL sessionTTL acts ran
  refine ⟨?_, ?_, ?_⟩
  · intro c x t e handler failed stepped
    obtain ⟨same, departed⟩ := refused_departed ok handler failed stepped
    refine ⟨same, fun more u act v reached unregisters stepped' => ?_⟩
    obtain ⟨ok', departed'⟩ := departed_run (ok.step stepped) departed more reached
    exact departed'.unregister ok' unregisters stepped'
  · intro order visited
    have forgets := ok.broker.unregister_forgets p ok.named_sessions visited
    exact ⟨forgets, ok.broker.once p.id, fun again visits => forgets.again ok.named_sessions visits⟩
  · intro act t unregisters stepped more u again v reached unregisters' stepped'
    have departed := unregisters.departed ok (announcing_run ran).settled stepped
    obtain ⟨ok', departed'⟩ := departed_run (ok.step stepped) departed more reached
    exact departed'.unregister ok' unregisters' stepped'

def thirdPeer : List Act :=
  [.connect (registerMessage "tokyo" .expose) (sampleDraw 1) 0,
    .connect (registerMessage "tokyo" .connect) (sampleDraw 2) 5,
    .connect (registerMessage "tokyo" .connect) (sampleDraw 3) 7,
    .handler 0 {}, .handler 0 {}, .handler 1 {}, .handler 1 { draw := sampleDraw 4, now := 9 }, .handler 2 {}]

theorem broker_frame_third_peer :
    ∃ s t p, run step (initial Broker.defaultWaiterTTL Broker.defaultSessionTTL) thirdPeer = some s ∧
      s.handlers 2 = some ⟨p, .pairing⟩ ∧ s.step (.handler 2 {}) = some t ∧ t.broker = s.broker := by
  have result : (run step (initial Broker.defaultWaiterTTL Broker.defaultSessionTTL) thirdPeer).map
      (fun s => ((s.handlers 2).map fun h => (h.stage, (tryPair s.broker h.peer none 0).toOption.isNone),
        (s.step (.handler 2 {})).isSome)) = some (some (.pairing, true), true) := by
    decide +kernel
  obtain ⟨s, ran, observed⟩ := Option.map_eq_some_iff.mp result
  obtain ⟨pairing, moves⟩ := Prod.mk.inj observed
  obtain ⟨⟨p, stage⟩, handler, stages⟩ := Option.map_eq_some_iff.mp pairing
  obtain ⟨rfl, refused⟩ := Prod.mk.inj stages
  obtain ⟨t, stepped⟩ := Option.isSome_iff_exists.mp moves
  cases failed : tryPair s.broker p none 0 with
  | ok after =>
    rw [failed] at refused
    cases refused
  | error e =>
    exact ⟨s, t, p, ran, handler, stepped,
      ((broker_frame _ _ thirdPeer s ran p).1 2 {} t e handler failed stepped).1⟩

end Server

end Rtc2Tcp.Rendezvous

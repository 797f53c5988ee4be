import Rtc2Tcp.Rendezvous.Invariant

namespace Rtc2Tcp.Rendezvous

open Octets Go Signaling Transition Sweep

namespace Broker

variable {b : Broker} {now : Int} {waiters sessions : List Bytes}

def StaleWaiter (b : Broker) (now : Int) (key : Bytes) (p : Peer) : Prop :=
  b.waiting.lookup key = some p ∧ p.createdAt < now - b.waiterTTL

def StaleSession (b : Broker) (now : Int) (id : Bytes) (x : Session) : Prop :=
  b.sessions.lookup id = some x ∧ x.createdAt < now - b.sessionTTL

/-- Two peers of different modes find each other under the key. -/
def Pairable (b : Broker) (key : Bytes) : Prop :=
  ∀ p q : Peer, p.rendezvousKey = key → q.rendezvousKey = key → p.id ≠ q.id → p.mode ≠ q.mode →
    ∀ (draw : Option Buf) (buf : Buf) (before later : Int), ∃ waits paired pairing,
      tryPair b p draw before = .ok (waits, none) ∧ tryPair waits q (some buf) later = .ok (paired, some pairing) ∧
      pairing.session = ⟨randomID buf, key, p, q, later⟩

/-- What `collectStale` does to every entry, and what it returns. -/
structure Evicts (b : Broker) (now : Int) (after : Broker) (evictedWaiters : List Peer)
    (evictedSessions : List EvictedSession) : Prop where
  waiting : ∀ key p, after.waiting.lookup key = some p ↔ b.waiting.lookup key = some p ∧ ¬b.StaleWaiter now key p
  sessions : ∀ id x, after.sessions.lookup id = some x ↔ b.sessions.lookup id = some x ∧ ¬b.StaleSession now id x
  activeKey : ∀ key id, after.activeKey.lookup key = some id ↔
    b.activeKey.lookup key = some id ∧ ¬∃ x, b.StaleSession now id x ∧ x.rendezvousKey = key
  returnsWaiters : ∀ p, p ∈ evictedWaiters ↔ ∃ key, b.StaleWaiter now key p
  returnsSessions : ∀ e, e ∈ evictedSessions ↔ ∃ id x, b.StaleSession now id x ∧ e = ⟨id, x.first, x.second⟩
  waitersOnce : evictedWaiters.Nodup
  sessionsOnce : evictedSessions.Nodup

theorem pairable_of_free {key : Bytes} (idle : b.activeKey.lookup key = none) (free : b.waiting.lookup key = none) :
    b.Pairable key := by
  rintro p q rfl keyed others modes draw buf before later
  have waits : tryPair b p draw before = .ok ({ b with waiting := b.waiting.insert p.rendezvousKey p }, none) := by
    simp only [tryPair, idle, free]
  have pairs : ∃ paired pairing,
      tryPair { b with waiting := b.waiting.insert p.rendezvousKey p } q (some buf) later = .ok (paired, some pairing) ∧
        pairing.session = ⟨randomID buf, p.rendezvousKey, p, q, later⟩ := by
    have found : (b.waiting.insert p.rendezvousKey p).lookup p.rendezvousKey = some p := AList.lookup_insert _
    rw [tryPair]
    dsimp only
    rw [keyed, idle]
    dsimp only
    rw [found]
    dsimp only
    rw [if_neg others, if_neg modes]
    exact ⟨_, _, rfl, rfl⟩
  obtain ⟨paired, pairing, second, session⟩ := pairs
  exact ⟨_, paired, pairing, waits, second, session⟩

theorem Consistent.evicts (ok : b.Consistent) (now : Int) (visitsWaiters : waiters.Perm b.waiting.keys)
    (visitsSessions : sessions.Perm b.sessions.keys) :
    b.Evicts now (collectStale b now waiters sessions).1 (collectStale b now waiters sessions).2.1
      (collectStale b now waiters sessions).2.2 := by
  have waiter : ∀ key p, b.waiting.lookup key = some p → key ∈ waiters := by
    intro key p held
    exact visitsWaiters.mem_iff.mpr (AList.mem_keys.mp (AList.lookup_isSome.mp (by rw [held]; rfl)))
  have session : ∀ id x, b.sessions.lookup id = some x → id ∈ sessions := by
    intro id x held
    exact visitsSessions.mem_iff.mpr (AList.mem_keys.mp (AList.lookup_isSome.mp (by rw [held]; rfl)))
  refine ⟨?_, ?_, ?_, ?_, ?_, ?_, ?_⟩
  · intro key p
    rw [collectStale_waiting]
    constructor
    · rintro ⟨held, kept⟩
      exact ⟨held, fun stale => kept ⟨waiter key p held, stale.2⟩⟩
    · rintro ⟨held, kept⟩
      exact ⟨held, fun stale => kept ⟨held, stale.2⟩⟩
  · intro id x
    rw [collectStale_sessions]
    constructor
    · rintro ⟨held, kept⟩
      exact ⟨held, fun stale => kept ⟨session id x held, stale.2⟩⟩
    · rintro ⟨held, kept⟩
      exact ⟨held, fun stale => kept ⟨held, stale.2⟩⟩
  · intro key id
    rw [collectStale_activeKey]
    refine and_congr_right fun active => not_congr ?_
    constructor
    · rintro ⟨jd, _, x, held, stale, keyed⟩
      -- Only one session is active for the key.
      obtain ⟨y, found, _, same⟩ := (ok.active key id).mp active
      obtain rfl := ok.key_unique held found (keyed.trans same.symm)
      exact ⟨x, ⟨held, stale⟩, keyed⟩
    · rintro ⟨x, ⟨held, stale⟩, keyed⟩
      exact ⟨id, session id x held, x, held, stale, keyed⟩
  · intro p
    rw [collectStale_evictedWaiters]
    constructor
    · rintro ⟨key, _, held, stale⟩
      exact ⟨key, held, stale⟩
    · rintro ⟨key, held, stale⟩
      exact ⟨key, waiter key p held, held, stale⟩
  · intro e
    rw [collectStale_evictedSessions]
    constructor
    · rintro ⟨id, _, x, held, stale, same⟩
      exact ⟨id, x, ⟨held, stale⟩, same⟩
    · rintro ⟨id, x, ⟨held, stale⟩, same⟩
      exact ⟨id, session id x held, x, held, stale, same⟩
  · -- The returned waiters have the keys that the loop visited.
    simp only [collectStale, staleWaiters_eq]
    apply List.Nodup.of_map Peer.rendezvousKey
    have keys : ((sweep (fun p : Peer => p.createdAt < now - b.waiterTTL) waiters b.waiting).2.map Prod.snd).map
        Peer.rendezvousKey = (sweep (fun p : Peer => p.createdAt < now - b.waiterTTL) waiters b.waiting).2.map Prod.fst := by
      rw [List.map_map]
      refine List.map_congr_left ?_
      rintro ⟨key, p⟩ member
      exact ok.waiting_key key p ((mem_sweep _ waiters b.waiting key p).mp member).2.1
    rw [keys]
    exact (sweep_sublist _ waiters b.waiting).nodup (visitsWaiters.nodup_iff.mpr b.waiting.keys_nodup)
  · simp only [collectStale, staleSessions_eq]
    apply List.Nodup.of_map EvictedSession.id
    rw [List.map_map]
    exact (sweep_sublist _ sessions b.sessions).nodup (visitsSessions.nodup_iff.mpr b.sessions.keys_nodup)

theorem Evicts.frees {after : Broker} {evictedWaiters : List Peer} {evictedSessions : List EvictedSession}
    (evicts : b.Evicts now after evictedWaiters evictedSessions) (ok : b.Consistent) {key : Bytes}
    (freed : (∃ p, b.StaleWaiter now key p) ∨ ∃ id x, b.StaleSession now id x ∧ x.rendezvousKey = key) :
    after.activeKey.lookup key = none ∧ after.waiting.lookup key = none := by
  rcases freed with ⟨p, stale⟩ | ⟨id, x, stale, keyed⟩
  · refine ⟨Option.eq_none_iff_forall_ne_some.mpr fun id active => ?_, Option.eq_none_iff_forall_ne_some.mpr fun q waits => ?_⟩
    · exact ok.exclusive key p id stale.1 ((evicts.activeKey key id).mp active).1
    · obtain ⟨held, kept⟩ := (evicts.waiting key q).mp waits
      rw [stale.1] at held
      cases held
      exact kept stale
  · have active : b.activeKey.lookup key = some id :=
      (ok.active key id).mpr ⟨x, stale.1, ok.identified id x stale.1, keyed⟩
    refine ⟨Option.eq_none_iff_forall_ne_some.mpr fun jd still => ?_, Option.eq_none_iff_forall_ne_some.mpr fun q waits => ?_⟩
    · obtain ⟨held, kept⟩ := (evicts.activeKey key jd).mp still
      rw [active] at held
      cases held
      exact kept ⟨x, stale, keyed⟩
    · exact ok.exclusive key q id ((evicts.waiting key q).mp waits).1 active

end Broker

namespace Server

/-- Eviction is exact, for every clock, every setting of the two lifetimes and every order of the loops. -/
theorem eviction_exact (waiterTTL sessionTTL : Int) (acts : List Act) (s : Server)
    (ran : run step (initial waiterTTL sessionTTL) acts = some s) (waiterLife sessionLife now : Int)
    (waiters sessions : List Bytes) (visitsWaiters : waiters.Perm s.broker.waiting.keys)
    (visitsSessions : s.Visits sessions) (b : Broker)
    (set : b = { s.broker with waiterTTL := waiterLife, sessionTTL := sessionLife }) :
    b.Evicts now (collectStale b now waiters sessions).1 (collectStale b now waiters sessions).2.1
      (collectStale b now waiters sessions).2.2 ∧
    ∀ key, ((∃ p, b.StaleWaiter now key p) ∨ ∃ id x, b.StaleSession now id x ∧ x.rendezvousKey = key) →
      (collectStale b now waiters sessions).1.Pairable key := by
  subst set
  have ok := consistent_run waiterTTL sessionTTL acts ran
  have same : ({ s.broker with waiterTTL := waiterLife, sessionTTL := sessionLife } : Broker).Consistent := by
    obtain ⟨keyed, active, identified, exclusive, matched, once⟩ := ok.broker
    refine ⟨keyed, active, identified, exclusive, matched, ?_⟩
    intro peer here there inHere inThere
    refine once peer here there ?_ ?_
    · cases here <;> exact inHere
    · cases there <;> exact inThere
  have evicts := same.evicts now visitsWaiters visitsSessions
  refine ⟨evicts, fun key freed => ?_⟩
  obtain ⟨idle, free⟩ := evicts.frees same freed
  exact Broker.pairable_of_free idle free

def oldSession : List Act :=
  [.connect (registerMessage "tokyo" .expose) (sampleDraw 1) 0,
    .connect (registerMessage "tokyo" .connect) (sampleDraw 2) 5,
    .handler 0 {}, .handler 0 {}, .handler 1 {}, .handler 1 { draw := sampleDraw 3, now := 9 },
    .connect (registerMessage "kyoto" .expose) (sampleDraw 4) Broker.defaultSessionTTL,
    .connect (registerMessage "kyoto" .connect) (sampleDraw 5) Broker.defaultSessionTTL,
    .handler 2 {}, .handler 2 {}, .handler 3 {},
    .handler 3 { draw := sampleDraw 6, now := Broker.defaultSessionTTL },
    .connect (registerMessage "osaka" .connect) (sampleDraw 7) Broker.defaultSessionTTL, .handler 4 {}, .handler 4 {}]

theorem eviction_exact_session :
    ∃ s after waiters evicted y w,
      run step (initial Broker.defaultWaiterTTL Broker.defaultSessionTTL) oldSession = some s ∧
      collectStale s.broker (Broker.defaultSessionTTL + 10) s.broker.waiting.keys s.broker.sessions.keys =
        (after, waiters, evicted) ∧
      evicted ≠ [] ∧ after.Pairable (text "tokyo") ∧ after.sessions.lookup (randomID (sampleDraw 6)) = some y ∧
      after.waiting.lookup (text "osaka") = some w := by
  have result : (run step (initial Broker.defaultWaiterTTL Broker.defaultSessionTTL) oldSession).map (fun s =>
      ([s.broker.waiterTTL, s.broker.sessionTTL],
        (s.broker.sessions.lookup (randomID (sampleDraw 3))).map (fun x => (x.createdAt, x.rendezvousKey)),
        [(s.broker.sessions.lookup (randomID (sampleDraw 6))).map Session.createdAt,
          (s.broker.waiting.lookup (text "osaka")).map Peer.createdAt])) =
      some ([Broker.defaultWaiterTTL, Broker.defaultSessionTTL], some (9, text "tokyo"),
        [some Broker.defaultSessionTTL, some Broker.defaultSessionTTL]) := by
    decide +kernel
  obtain ⟨s, ran, observed⟩ := Option.map_eq_some_iff.mp result
  simp only [Prod.mk.injEq, List.cons.injEq, and_true] at observed
  obtain ⟨⟨waiterLife, sessionLife⟩, old, new, waits⟩ := observed
  obtain ⟨x, held, shape⟩ := Option.map_eq_some_iff.mp old
  obtain ⟨y, fresh, age⟩ := Option.map_eq_some_iff.mp new
  obtain ⟨w, waiting, since⟩ := Option.map_eq_some_iff.mp waits
  simp only [Prod.mk.injEq] at shape
  obtain ⟨evicts, frees⟩ := eviction_exact _ _ oldSession s ran s.broker.waiterTTL s.broker.sessionTTL
    (Broker.defaultSessionTTL + 10) s.broker.waiting.keys s.broker.sessions.keys (.refl _) (.refl _) s.broker rfl
  have stale : s.broker.StaleSession (Broker.defaultSessionTTL + 10) (randomID (sampleDraw 3)) x := by
    refine ⟨held, ?_⟩
    rw [shape.1, sessionLife]
    decide
  refine ⟨s, _, _, _, y, w, ran, rfl, ?_, frees (text "tokyo") (.inr ⟨_, x, stale, shape.2⟩), ?_, ?_⟩
  · exact List.ne_nil_of_mem ((evicts.returnsSessions _).mpr ⟨_, x, stale, rfl⟩)
  · refine (evicts.sessions _ y).mpr ⟨fresh, fun old => ?_⟩
    have late := old.2
    rw [age, sessionLife] at late
    exact absurd late (by decide)
  · refine (evicts.waiting _ w).mpr ⟨waiting, fun old => ?_⟩
    have late := old.2
    rw [since, waiterLife] at late
    exact absurd late (by decide)

end Server

end Rtc2Tcp.Rendezvous

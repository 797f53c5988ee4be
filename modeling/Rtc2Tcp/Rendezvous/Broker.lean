import Rtc2Tcp.Config.PeerMode
import Rtc2Tcp.Go.Base64
import Rtc2Tcp.Lib.Sweep
import Rtc2Tcp.Signaling.Messages

namespace Rtc2Tcp.Rendezvous

open Octets Go Signaling Sweep

structure Peer where
  id : Bytes
  mode : PeerMode
  rendezvousKey : Bytes
  version : Bytes
  conn : Nat
  createdAt : Int
deriving DecidableEq, Repr

structure Session where
  id : Bytes
  rendezvousKey : Bytes
  first : Peer
  second : Peer
  createdAt : Int
deriving DecidableEq, Repr

abbrev Map (ν : Type) := AList fun _ : Bytes => ν

/-- The lock-protected part of the broker. Times and durations are in nanoseconds. -/
structure Broker where
  waiterTTL : Int
  sessionTTL : Int
  waiting : Map Peer
  activeKey : Map Bytes
  sessions : Map Session

namespace Broker

def defaultWaiterTTL : Int := 5 * 60 * 1000000000

def defaultSessionTTL : Int := 60 * 60 * 1000000000

def empty (waiterTTL sessionTTL : Int) : Broker := ⟨waiterTTL, sessionTTL, ∅, ∅, ∅⟩

end Broker

/-- What `rand.Read` fills `randomID`'s buffer with. -/
abbrev Buf := { bytes : Bytes // bytes.length = 18 }

def randomID (draw : Buf) : Bytes := RawURLEncoding.encodeToString draw.1

def genericBrokerMessage (code : Bytes) : Bytes :=
  if code = text "register-failed" then text "registration rejected"
  else if code = text "pairing-failed" then text "pairing rejected"
  else if code = text "relay-failed" then text "signaling relay failed"
  else if code = text "invalid-signal" then text "signal payload is required"
  else if code = text "unexpected-message" then text "only signal messages are allowed after registration"
  else if code = text "waiter-expired" then text "rendezvous waiter expired"
  else if code = text "session-expired" then text "session expired"
  else text "broker error"

def brokerError (code message : Bytes) : Message := { type := .error, error := some ⟨code, message⟩ }

inductive RegisterError where
  | read
  | notRegister
  | mode (value : Bytes)
  | tokenRequired
  | randomness
deriving DecidableEq, Repr

/-- `registerPeer`; `message` is the first message read from the connection, if one came. -/
def registerPeer (conn : Nat) (message : Option Message) (draw : Option Buf) (now : Int) :
    Except RegisterError Peer := do
  let some message := message | .error .read
  let (.register, some register) := (message.type, message.register) | .error .notRegister
  let mode ← (parsePeerMode register.mode).mapError .mode
  let key := trimSpace register.rendezvousToken
  if key = [] then .error .tokenRequired
  let some draw := draw | .error .randomness
  .ok ⟨randomID draw, mode, key, trimSpace register.version, conn, now⟩

inductive PairError where
  | busy
  | alreadyWaiting
  | sameMode
  | randomness
deriving DecidableEq, Repr

structure Pairing where
  session : Session
  waitingMessage : Message
  peerMessage : Message

def pairedMessage (sessionID : Bytes) (initiator : Bool) (peerMode : PeerMode) : Message :=
  { type := .paired, paired := some ⟨sessionID, initiator, peerMode.string⟩ }

/-- `tryPair` under the lock; a pairing is what the two delivery goroutines start with. -/
def tryPair (b : Broker) (p : Peer) (draw : Option Buf) (now : Int) :
    Except PairError (Broker × Option Pairing) :=
  match b.activeKey.lookup p.rendezvousKey with
  | some _ => .error .busy
  | none =>
    match b.waiting.lookup p.rendezvousKey with
    | none => .ok ({ b with waiting := b.waiting.insert p.rendezvousKey p }, none)
    | some waiting =>
      if waiting.id = p.id then .error .alreadyWaiting
      else if waiting.mode = p.mode then .error .sameMode
      else
        match draw with
        | none => .error .randomness
        | some draw =>
          let sessionID := randomID draw
          let s : Session := ⟨sessionID, p.rendezvousKey, waiting, p, now⟩
          .ok ({ b with
              waiting := b.waiting.erase p.rendezvousKey
              activeKey := b.activeKey.insert p.rendezvousKey sessionID
              sessions := b.sessions.insert sessionID s },
            some {
              session := s
              waitingMessage := pairedMessage sessionID (waiting.mode = .connect) p.mode
              peerMessage := pairedMessage sessionID (p.mode = .connect) waiting.mode })

/-- `findSessionPeerLocked`; `order` is the order in which the loop visits the sessions. -/
def findSessionPeerLocked (b : Broker) (order : List Bytes) (sender : Peer) : Option Peer × Bytes :=
  match order with
  | [] => (none, [])
  | id :: order =>
    match b.sessions.lookup id with
    | none => findSessionPeerLocked b order sender
    | some s =>
      if sender.id = s.first.id then (some s.second, id)
      else if sender.id = s.second.id then (some s.first, id)
      else findSessionPeerLocked b order sender

/-- `sessionPeers`; `none` is the error "peer is not paired". -/
def sessionPeers (b : Broker) (order : List Bytes) (sender : Peer) : Option (Option Peer × Bytes) :=
  let (target, sessionID) := findSessionPeerLocked b order sender
  if sessionID = [] then none else some (target, sessionID)

/-- `unregisterPeer` under the lock; the result is the peer to notify after it and the session that ended. -/
def unregisterPeer (b : Broker) (order : List Bytes) (p : Peer) : Broker × Option (Peer × Bytes) :=
  match b.waiting.lookup p.rendezvousKey with
  | some waiting =>
    if waiting.id = p.id then ({ b with waiting := b.waiting.erase p.rendezvousKey }, none)
    else unpair
  | none => unpair
where
  unpair : Broker × Option (Peer × Bytes) :=
    let (target, sessionID) := findSessionPeerLocked b order p
    if sessionID = [] then (b, none)
    else
      match b.sessions.lookup sessionID with
      | some s =>
        ({ b with
            sessions := b.sessions.erase sessionID
            activeKey := b.activeKey.erase s.rendezvousKey }, target.map (·, sessionID))
      | none => (b, none)

structure EvictedSession where
  id : Bytes
  first : Peer
  second : Peer
deriving DecidableEq, Repr

def staleWaiters (cutoff : Int) : List Bytes → Map Peer → Map Peer × List Peer
  | [], waiting => (waiting, [])
  | key :: order, waiting =>
    match waiting.lookup key with
    | some p =>
      if p.createdAt < cutoff then
        let (rest, evicted) := staleWaiters cutoff order (waiting.erase key)
        (rest, p :: evicted)
      else staleWaiters cutoff order waiting
    | none => staleWaiters cutoff order waiting

def staleSessions (cutoff : Int) : List Bytes → Map Session → Map Bytes →
    Map Session × Map Bytes × List EvictedSession
  | [], sessions, activeKey => (sessions, activeKey, [])
  | id :: order, sessions, activeKey =>
    match sessions.lookup id with
    | some s =>
      if s.createdAt < cutoff then
        let (rest, keys, evicted) :=
          staleSessions cutoff order (sessions.erase id) (activeKey.erase s.rendezvousKey)
        (rest, keys, ⟨id, s.first, s.second⟩ :: evicted)
      else staleSessions cutoff order sessions activeKey
    | none => staleSessions cutoff order sessions activeKey

/-- `collectStale`, with the orders in which its two loops visit the maps. -/
def collectStale (b : Broker) (now : Int) (waiters sessions : List Bytes) :
    Broker × List Peer × List EvictedSession :=
  let (waiting, evictedWaiters) := staleWaiters (now - b.waiterTTL) waiters b.waiting
  let (rest, activeKey, evicted) := staleSessions (now - b.sessionTTL) sessions b.sessions b.activeKey
  ({ b with waiting := waiting, activeKey := activeKey, sessions := rest }, evictedWaiters, evicted)

theorem tryPair_cases (b after : Broker) (p : Peer) (draw : Option Buf) (now : Int) (pairing : Option Pairing)
    (ok : tryPair b p draw now = .ok (after, pairing)) :
    b.activeKey.lookup p.rendezvousKey = none ∧
    ((b.waiting.lookup p.rendezvousKey = none ∧ pairing = none ∧
        after = { b with waiting := b.waiting.insert p.rendezvousKey p }) ∨
      ∃ waiting buf, draw = some buf ∧ b.waiting.lookup p.rendezvousKey = some waiting ∧ waiting.id ≠ p.id ∧
        waiting.mode ≠ p.mode ∧
        pairing = some {
          session := ⟨randomID buf, p.rendezvousKey, waiting, p, now⟩
          waitingMessage := pairedMessage (randomID buf) (waiting.mode = .connect) p.mode
          peerMessage := pairedMessage (randomID buf) (p.mode = .connect) waiting.mode } ∧
        after = { b with
          waiting := b.waiting.erase p.rendezvousKey
          activeKey := b.activeKey.insert p.rendezvousKey (randomID buf)
          sessions := b.sessions.insert (randomID buf) ⟨randomID buf, p.rendezvousKey, waiting, p, now⟩ }) := by
  unfold tryPair at ok
  split at ok
  · cases ok
  · rename_i idle
    refine ⟨idle, ?_⟩
    split at ok
    · rename_i free
      cases ok
      exact .inl ⟨free, rfl, rfl⟩
    · rename_i waiting found
      split at ok
      · cases ok
      · rename_i other
        split at ok
        · cases ok
        · rename_i modes
          split at ok
          · cases ok
          · rename_i buf
            cases ok
            exact .inr ⟨waiting, buf, rfl, found, other, modes, rfl, rfl⟩

/-- The session has the peer as a member, by its id, and the target as the other one. -/
def Session.Joins (s : Session) (p target : Peer) : Prop :=
  (p.id = s.first.id ∧ target = s.second) ∨ (p.id = s.second.id ∧ target = s.first)

theorem findSessionPeerLocked_cases (b : Broker) (order : List Bytes) (p : Peer) :
    (findSessionPeerLocked b order p = (none, []) ∧
      ∀ id ∈ order, ∀ s, b.sessions.lookup id = some s → p.id ≠ s.first.id ∧ p.id ≠ s.second.id) ∨
    ∃ id ∈ order, ∃ s target, b.sessions.lookup id = some s ∧ s.Joins p target ∧
      findSessionPeerLocked b order p = (some target, id) := by
  induction order with
  | nil => exact .inl ⟨rfl, by simp⟩
  | cons id order ih =>
    simp only [findSessionPeerLocked]
    split
    · rename_i missing
      rcases ih with ⟨result, absent⟩ | ⟨jd, member, s, target, found, joins, result⟩
      · refine .inl ⟨result, ?_⟩
        intro jd member s found
        rcases List.mem_cons.mp member with rfl | member
        · rw [missing] at found; cases found
        · exact absent jd member s found
      · exact .inr ⟨jd, List.mem_cons_of_mem _ member, s, target, found, joins, result⟩
    · rename_i s found
      split
      · rename_i same
        exact .inr ⟨id, List.mem_cons_self, s, s.second, found, .inl ⟨same, rfl⟩, rfl⟩
      · rename_i first
        split
        · rename_i same
          exact .inr ⟨id, List.mem_cons_self, s, s.first, found, .inr ⟨same, rfl⟩, rfl⟩
        · rename_i second
          rcases ih with ⟨result, absent⟩ | ⟨jd, member, t, target, found, joins, result⟩
          · refine .inl ⟨result, ?_⟩
            intro jd member t found'
            rcases List.mem_cons.mp member with rfl | member
            · rw [found] at found'
              cases found'
              exact ⟨first, second⟩
            · exact absent jd member t found'
          · exact .inr ⟨jd, List.mem_cons_of_mem _ member, t, target, found, joins, result⟩

theorem sessionPeers_some (b : Broker) (order : List Bytes) (p target : Peer) (id : Bytes)
    (found : sessionPeers b order p = some (some target, id)) :
    ∃ s, b.sessions.lookup id = some s ∧ s.Joins p target := by
  unfold sessionPeers at found
  rcases findSessionPeerLocked_cases b order p with ⟨result, _⟩ | ⟨jd, _, s, other, held, joins, result⟩
  · rw [result] at found
    cases found
  · rw [result] at found
    dsimp only at found
    split at found
    · cases found
    · cases found
      exact ⟨s, held, joins⟩

theorem sessionPeers_none (b : Broker) (order : List Bytes) (p : Peer)
    (absent : ∀ id s, b.sessions.lookup id = some s → p.id ≠ s.first.id ∧ p.id ≠ s.second.id) :
    sessionPeers b order p = none := by
  unfold sessionPeers
  rcases findSessionPeerLocked_cases b order p with ⟨result, _⟩ | ⟨id, _, s, _, held, joins, _⟩
  · rw [result]
    rfl
  · rcases joins with ⟨same, _⟩ | ⟨same, _⟩
    · exact absurd same (absent id s held).1
    · exact absurd same (absent id s held).2

theorem unregisterPeer_cases (b : Broker) (order : List Bytes) (p : Peer)
    (named : ∀ id s, b.sessions.lookup id = some s → id ≠ []) (visited : order.Perm b.sessions.keys) :
    (∃ waiting, b.waiting.lookup p.rendezvousKey = some waiting ∧ waiting.id = p.id ∧
      unregisterPeer b order p = ({ b with waiting := b.waiting.erase p.rendezvousKey }, none)) ∨
    ((∀ waiting, b.waiting.lookup p.rendezvousKey = some waiting → waiting.id ≠ p.id) ∧
      (((∀ id s, b.sessions.lookup id = some s → p.id ≠ s.first.id ∧ p.id ≠ s.second.id) ∧
          unregisterPeer b order p = (b, none)) ∨
        ∃ id s target, b.sessions.lookup id = some s ∧ s.Joins p target ∧
          unregisterPeer b order p = ({ b with
            sessions := b.sessions.erase id
            activeKey := b.activeKey.erase s.rendezvousKey }, some (target, id)))) := by
  have unpaired : ((∀ id s, b.sessions.lookup id = some s → p.id ≠ s.first.id ∧ p.id ≠ s.second.id) ∧
        unregisterPeer.unpair b order p = (b, none)) ∨
      ∃ id s target, b.sessions.lookup id = some s ∧ s.Joins p target ∧
        unregisterPeer.unpair b order p = ({ b with
          sessions := b.sessions.erase id
          activeKey := b.activeKey.erase s.rendezvousKey }, some (target, id)) := by
    rcases findSessionPeerLocked_cases b order p with ⟨result, absent⟩ | ⟨id, _, s, target, found, joins, result⟩
    · refine .inl ⟨?_, by simp only [unregisterPeer.unpair, result, if_pos]⟩
      intro id s found
      have key : id ∈ b.sessions := AList.lookup_isSome.mp (by rw [found]; rfl)
      exact absent id (visited.mem_iff.mpr (AList.mem_keys.mp key)) s found
    · refine .inr ⟨id, s, target, found, joins, ?_⟩
      unfold unregisterPeer.unpair
      rw [result]
      simp only [if_neg (named id s found), found, Option.map_some]
  cases found : b.waiting.lookup p.rendezvousKey with
  | none =>
    refine .inr ⟨by simp, ?_⟩
    simpa only [unregisterPeer, found] using unpaired
  | some waiting =>
    by_cases same : waiting.id = p.id
    · exact .inl ⟨waiting, rfl, same, by simp only [unregisterPeer, found, if_pos same]⟩
    · refine .inr ⟨by rintro _ ⟨⟩; exact same, ?_⟩
      simpa only [unregisterPeer, found, if_neg same] using unpaired

theorem staleWaiters_eq (cutoff : Int) (order : List Bytes) (waiting : Map Peer) :
    staleWaiters cutoff order waiting =
      ((sweep (·.createdAt < cutoff) order waiting).1,
        (sweep (·.createdAt < cutoff) order waiting).2.map Prod.snd) := by
  induction order generalizing waiting with
  | nil => rfl
  | cons key order ih =>
    simp only [staleWaiters, sweep]
    cases waiting.lookup key with
    | none => exact ih waiting
    | some p =>
      by_cases stale : p.createdAt < cutoff
      · simp only [if_pos stale, ih, List.map_cons]
      · simp only [if_neg stale, ih]

theorem staleSessions_eq (cutoff : Int) (order : List Bytes) (sessions : Map Session) (activeKey : Map Bytes) :
    staleSessions cutoff order sessions activeKey =
      ((sweep (·.createdAt < cutoff) order sessions).1,
        (sweep (·.createdAt < cutoff) order sessions).2.foldl (fun m e => m.erase e.2.rendezvousKey) activeKey,
        (sweep (·.createdAt < cutoff) order sessions).2.map fun e => ⟨e.1, e.2.first, e.2.second⟩) := by
  induction order generalizing sessions activeKey with
  | nil => rfl
  | cons id order ih =>
    simp only [staleSessions, sweep]
    cases sessions.lookup id with
    | none => exact ih sessions activeKey
    | some s =>
      by_cases stale : s.createdAt < cutoff
      · simp only [if_pos stale, ih, List.map_cons, List.foldl_cons]
      · simp only [if_neg stale, ih]

section CollectStale

variable (b : Broker) (now : Int) (waiters sessions : List Bytes)

theorem collectStale_waiting (key : Bytes) (p : Peer) :
    (collectStale b now waiters sessions).1.waiting.lookup key = some p ↔
      b.waiting.lookup key = some p ∧ ¬(key ∈ waiters ∧ p.createdAt < now - b.waiterTTL) := by
  simp only [collectStale, staleWaiters_eq, sweep_lookup]

theorem collectStale_sessions (id : Bytes) (s : Session) :
    (collectStale b now waiters sessions).1.sessions.lookup id = some s ↔
      b.sessions.lookup id = some s ∧ ¬(id ∈ sessions ∧ s.createdAt < now - b.sessionTTL) := by
  simp only [collectStale, staleSessions_eq, sweep_lookup]

theorem collectStale_activeKey (key id : Bytes) :
    (collectStale b now waiters sessions).1.activeKey.lookup key = some id ↔
      b.activeKey.lookup key = some id ∧ ¬∃ jd ∈ sessions, ∃ s, b.sessions.lookup jd = some s ∧
        s.createdAt < now - b.sessionTTL ∧ s.rendezvousKey = key := by
  simp only [collectStale, staleSessions_eq, lookup_foldl_erase, Prod.forall, mem_sweep]
  grind

theorem collectStale_evictedWaiters (p : Peer) :
    p ∈ (collectStale b now waiters sessions).2.1 ↔
      ∃ key ∈ waiters, b.waiting.lookup key = some p ∧ p.createdAt < now - b.waiterTTL := by
  simp [collectStale, staleWaiters_eq, mem_sweep]

theorem collectStale_evictedSessions (evicted : EvictedSession) :
    evicted ∈ (collectStale b now waiters sessions).2.2 ↔
      ∃ id ∈ sessions, ∃ s, b.sessions.lookup id = some s ∧ s.createdAt < now - b.sessionTTL ∧
        evicted = ⟨id, s.first, s.second⟩ := by
  simp only [collectStale, staleSessions_eq, List.mem_map, Prod.exists, mem_sweep]
  grind

end CollectStale

end Rtc2Tcp.Rendezvous

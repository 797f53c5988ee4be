import Rtc2Tcp.Peer.Network
import Rtc2Tcp.Rendezvous.Notices

namespace Rtc2Tcp.Peer

open Octets Go Signaling WebRTC Rendezvous Transition

def Move.act : Move → Option Act
  | server act => some act
  | dial mode token version draw now =>
    some (.connect (some (Network.registerPayload mode token version)) draw now)
  | _ => none

def visible (frames : List Frame) : List Message :=
  (frames.map Frame.message).filter fun m => m.type ≠ .ping ∧ m.type ≠ .pong

theorem visible_append (frames more : List Frame) : visible (frames ++ more) = visible frames ++ visible more := by
  simp only [visible, List.map_append, List.filter_append]

theorem mem_visible {frames : List Frame} {m : Message} (member : m ∈ visible frames) :
    ∃ frame ∈ frames, frame.message = m := by
  rw [visible, List.mem_filter, List.mem_map] at member
  exact member.1

/-- The channel has received what was read, and at last the report of the failed read. -/
structure Client.Follows (k : Client) (written : List Frame) : Prop where
  bounded : k.read ≤ written.length
  pushed : k.pushed = visible (written.take k.read) ∨
    k.closed = true ∧ ∃ reason, k.pushed = visible (written.take k.read) ++ [brokerError (text "broker-read") reason]

theorem Client.receive_cases (k after : Client) (m : Message) (received : k.receive m = some after) :
    after.read = k.read + 1 ∧ after.taken = k.taken ∧ after.closed = k.closed ∧
      after.pushed = k.pushed ++ [m].filter fun m => m.type ≠ .ping ∧ m.type ≠ .pong := by
  unfold receive at received
  dsimp only at received
  split at received
  · rename_i kind
    cases received
    simp [send, kind]
  · rename_i kind
    cases received
    simp [kind]
  · rename_i ping pong
    split at received
    · cases received
      simp only [true_and]
      rw [List.filter_cons_of_pos (by simpa using ⟨ping, pong⟩), List.filter_nil]
    · cases received

theorem Client.Follows.receive {k after : Client} {written : List Frame} {frame : Frame} (follows : k.Follows written)
    (alive : k.closed = false) (next : written[k.read]? = some frame)
    (received : k.receive frame.message = some after) : after.Follows written := by
  obtain ⟨read, _, closed, pushed⟩ := k.receive_cases after frame.message received
  have bound := (List.getElem?_eq_some_iff.mp next).1
  refine ⟨by omega, .inl ?_⟩
  have before : k.pushed = visible (written.take k.read) := by
    rcases follows.pushed with same | ⟨ended, _⟩
    · exact same
    · rw [alive] at ended
      cases ended
  rw [pushed, before, read, List.take_add_one, next, visible_append]
  rfl

theorem Client.Follows.fail {k : Client} {written : List Frame} (follows : k.Follows written)
    (alive : k.closed = false) (normal : Bool) (reason : Bytes) : (k.fail normal reason).Follows written := by
  have before : k.pushed = visible (written.take k.read) := by
    rcases follows.pushed with same | ⟨ended, _⟩
    · exact same
    · rw [alive] at ended
      cases ended
  unfold Client.fail
  split
  · exact ⟨follows.bounded, .inr ⟨rfl, reason, by rw [before]⟩⟩
  · exact ⟨follows.bounded, .inl before⟩

theorem Client.Follows.extend {k : Client} {written more : List Frame} (follows : k.Follows written) :
    k.Follows (written ++ more) := by
  have same : (written ++ more).take k.read = written.take k.read :=
    List.take_append_of_le_length follows.bounded
  refine ⟨?_, ?_⟩
  · rw [List.length_append]
    exact Nat.le_add_right_of_le follows.bounded
  · rw [same]
    exact follows.pushed

namespace Network

variable {n m : Network} {move : Move}

inductive Moves (n : Network) (move : Move) (c : Nat) (after : Endpoint) : Prop where
  | stays (found : n.peers c = some after)
  | dials (mode : PeerMode) (token version : Bytes) (draw : Option Buf) (now : Int)
      (moves : move = .dial mode token version draw now) (last : c = n.server.accepted)
      (new : after = ⟨.start mode, .fresh⟩)
  | sends (e : Endpoint) (found : n.peers c = some e) (process : after.process = e.process)
      (read : after.client.read = e.client.read) (pushed : after.client.pushed = e.client.pushed)
      (taken : after.client.taken = e.client.taken) (closed : after.client.closed = e.client.closed)
  | reads (e : Endpoint) (found : n.peers c = some e) (frame : Frame)
      (next : (n.server.sockets c).written[e.client.read]? = some frame) (alive : e.client.closed = false)
      (received : e.client.receive frame.message = some after.client) (process : after.process = e.process)
  | fails (e : Endpoint) (found : n.peers c = some e) (alive : e.client.closed = false) (normal : Bool)
      (reason : Bytes) (new : after = { e with client := e.client.fail normal reason })
  | takes (e : Endpoint) (found : n.peers c = some e) (x : Outcome) (moves : move = .take c x)
      (took : take e x = some after)
  | advances (e : Endpoint) (found : n.peers c = some e) (next : SessionState) (moves : move = .advance c next)
      (advanced : advance e.process next = some after.process) (client : after.client = e.client)
  | stops (e : Endpoint) (found : n.peers c = some e) (error : Option RunError) (x : Outcome)
      (moves : move = .stop c error x) (stopped : stop e.process error x = some after.process)
      (client : after.client = e.client)

theorem setPeer_moves (n : Network) (server : Server) {d : Nat} {e : Endpoint} {c : Nat} {after : Endpoint}
    (found : ({ n.setPeer d e with server := server }).peers c = some after) :
    (c = d ∧ after = e) ∨ n.peers c = some after := by
  simp only [setPeer] at found
  by_cases here : c = d
  · subst here
    rw [Function.update_self] at found
    cases found
    exact .inl ⟨rfl, rfl⟩
  · rw [Function.update_of_ne here] at found
    exact .inr found

theorem server_step (stepped : n.step move = some m) :
    (move.act = none ∧ m.server = n.server) ∨ ∃ act, move.act = some act ∧ n.server.step act = some m.server := by
  cases move with
  | server act =>
    obtain ⟨u, _, rest⟩ := Option.bind_eq_some_iff.mp stepped
    obtain ⟨server, served, same⟩ := Option.bind_eq_some_iff.mp rest
    cases same
    exact .inr ⟨act, rfl, served⟩
  | dial mode token version draw now =>
    obtain ⟨server, served, same⟩ := Option.bind_eq_some_iff.mp stepped
    cases same
    exact .inr ⟨_, rfl, served⟩
  | read c =>
    obtain ⟨e, _, rest⟩ := Option.bind_eq_some_iff.mp stepped
    obtain ⟨frame, _, rest⟩ := Option.bind_eq_some_iff.mp rest
    split at rest
    · cases rest
    · obtain ⟨client, _, same⟩ := Option.bind_eq_some_iff.mp rest
      cases same
      exact .inl ⟨rfl, rfl⟩
  | fail c normal reason =>
    obtain ⟨e, _, rest⟩ := Option.bind_eq_some_iff.mp stepped
    split at rest
    · cases rest
      exact .inl ⟨rfl, rfl⟩
    · cases rest
  | take c x =>
    obtain ⟨e, _, rest⟩ := Option.bind_eq_some_iff.mp stepped
    obtain ⟨after, _, same⟩ := Option.bind_eq_some_iff.mp rest
    cases same
    exact .inl ⟨rfl, rfl⟩
  | advance c next =>
    obtain ⟨e, _, rest⟩ := Option.bind_eq_some_iff.mp stepped
    obtain ⟨after, _, same⟩ := Option.bind_eq_some_iff.mp rest
    cases same
    exact .inl ⟨rfl, rfl⟩
  | candidate c candidate =>
    obtain ⟨e, _, rest⟩ := Option.bind_eq_some_iff.mp stepped
    split at rest
    · cases rest
    · cases rest
      exact .inl ⟨rfl, rfl⟩
  | ping c token =>
    obtain ⟨e, _, same⟩ := Option.bind_eq_some_iff.mp stepped
    cases same
    exact .inl ⟨rfl, rfl⟩
  | stop c error x =>
    obtain ⟨e, _, rest⟩ := Option.bind_eq_some_iff.mp stepped
    obtain ⟨after, _, same⟩ := Option.bind_eq_some_iff.mp rest
    cases same
    exact .inl ⟨rfl, rfl⟩

theorem serve_moves {act : Act} {u : Network} (served : n.serve act = some u) {c : Nat} {after : Endpoint}
    (found : u.peers c = some after) : n.Moves move c after := by
  have unchanged : u = n → n.Moves move c after := by
    rintro rfl
    exact .stays found
  unfold serve at served
  split at served
  · rename_i d x
    split at served
    · rename_i e p peer handler
      split at served
      · split at served
        · cases served
          rcases setPeer_moves n n.server found with ⟨rfl, rfl⟩ | same
          · exact .sends e peer rfl rfl rfl rfl rfl
          · exact .stays same
        · cases served
      · split at served
        · exact unchanged (Option.some.inj served).symm
        · cases served
    · exact unchanged (Option.some.inj served).symm
  · exact unchanged (Option.some.inj served).symm

theorem peers_step (stepped : n.step move = some m) {c : Nat} {after : Endpoint}
    (found : m.peers c = some after) : n.Moves move c after := by
  cases move with
  | server act =>
    obtain ⟨u, served, rest⟩ := Option.bind_eq_some_iff.mp stepped
    obtain ⟨server, _, same⟩ := Option.bind_eq_some_iff.mp rest
    cases same
    exact serve_moves served found
  | dial mode token version draw now =>
    obtain ⟨server, _, same⟩ := Option.bind_eq_some_iff.mp stepped
    cases same
    rcases setPeer_moves n server found with ⟨last, new⟩ | same
    · exact .dials mode token version draw now rfl last new
    · exact .stays same
  | read d =>
    obtain ⟨e, peer, rest⟩ := Option.bind_eq_some_iff.mp stepped
    obtain ⟨frame, next, rest⟩ := Option.bind_eq_some_iff.mp rest
    split at rest
    · cases rest
    · rename_i alive
      obtain ⟨client, received, same⟩ := Option.bind_eq_some_iff.mp rest
      cases same
      rcases setPeer_moves n n.server found with ⟨rfl, rfl⟩ | same
      · exact .reads e peer frame next (Bool.eq_false_iff.mpr alive) received rfl
      · exact .stays same
  | fail d normal reason =>
    obtain ⟨e, peer, rest⟩ := Option.bind_eq_some_iff.mp stepped
    split at rest
    · rename_i alive
      cases rest
      rcases setPeer_moves n n.server found with ⟨rfl, rfl⟩ | same
      · exact .fails e peer alive.1 normal reason rfl
      · exact .stays same
    · cases rest
  | take d x =>
    obtain ⟨e, peer, rest⟩ := Option.bind_eq_some_iff.mp stepped
    obtain ⟨new, took, same⟩ := Option.bind_eq_some_iff.mp rest
    cases same
    rcases setPeer_moves n n.server found with ⟨rfl, rfl⟩ | same
    · exact .takes e peer x rfl took
    · exact .stays same
  | advance d next =>
    obtain ⟨e, peer, rest⟩ := Option.bind_eq_some_iff.mp stepped
    obtain ⟨process, advanced, same⟩ := Option.bind_eq_some_iff.mp rest
    cases same
    rcases setPeer_moves n n.server found with ⟨rfl, rfl⟩ | same
    · exact .advances e peer next rfl advanced rfl
    · exact .stays same
  | candidate d candidate =>
    obtain ⟨e, peer, rest⟩ := Option.bind_eq_some_iff.mp stepped
    split at rest
    · cases rest
    · cases rest
      rcases setPeer_moves n n.server found with ⟨rfl, rfl⟩ | same
      · exact .sends e peer rfl rfl rfl rfl rfl
      · exact .stays same
  | ping d token =>
    obtain ⟨e, peer, same⟩ := Option.bind_eq_some_iff.mp stepped
    cases same
    rcases setPeer_moves n n.server found with ⟨rfl, rfl⟩ | same
    · exact .sends e peer rfl rfl rfl rfl rfl
    · exact .stays same
  | stop d error x =>
    obtain ⟨e, peer, rest⟩ := Option.bind_eq_some_iff.mp stepped
    obtain ⟨process, stopped, same⟩ := Option.bind_eq_some_iff.mp rest
    cases same
    rcases setPeer_moves n n.server found with ⟨rfl, rfl⟩ | same
    · exact .stops e peer error x rfl stopped rfl
    · exact .stays same

theorem server_run (moves : List Move) (ran : run step n moves = some m) :
    run Server.step n.server (moves.filterMap Move.act) = some m.server := by
  induction moves generalizing n with
  | nil =>
    cases ran
    rfl
  | cons move moves ih =>
    simp only [run] at ran
    split at ran
    · rename_i u stepped
      rcases server_step stepped with ⟨none, same⟩ | ⟨act, acts, served⟩
      · rw [List.filterMap_cons_none none, ← same]
        exact ih ran
      · rw [List.filterMap_cons_some acts]
        simp only [run, served]
        exact ih ran
    · cases ran

theorem written_extends (stepped : n.step move = some m) (c : Nat) :
    (m.server.sockets c).written = (n.server.sockets c).written ∨
      ∃ act frame, move.act = some act ∧ n.server.Writes act c frame ∧ ¬(n.server.sockets c).Dead ∧
        (m.server.sockets c).written = (n.server.sockets c).written ++ [frame] := by
  rcases server_step stepped with ⟨_, same⟩ | ⟨act, acts, served⟩
  · rw [same]
    exact .inl rfl
  · rcases Server.written_step served c with same | ⟨frame, writes, alive, appended⟩
    · exact .inl same
    · exact .inr ⟨act, frame, acts, writes, alive, appended⟩

def Following (n : Network) : Prop :=
  ∀ c e, n.peers c = some e → e.client.Follows (n.server.sockets c).written

theorem Following.step (following : n.Following) (stepped : n.step move = some m) : m.Following := by
  intro c after found
  have extend : after.client.Follows (n.server.sockets c).written →
      after.client.Follows (m.server.sockets c).written := by
    intro before
    rcases written_extends stepped c with same | ⟨_, frame, _, _, _, appended⟩
    · rwa [same]
    · rw [appended]
      exact before.extend
  apply extend
  cases peers_step stepped found with
  | stays same => exact following c after same
  | dials mode _ _ _ _ _ _ new =>
    subst new
    exact ⟨Nat.zero_le _, .inl rfl⟩
  | sends e same process read pushed taken closed =>
    have before := following c e same
    refine ⟨?_, ?_⟩
    · rw [read]
      exact before.bounded
    · rw [read, pushed, closed]
      exact before.pushed
  | reads e same frame next alive received process => exact (following c e same).receive alive next received
  | fails e same alive normal reason new =>
    subst new
    exact (following c e same).fail alive normal reason
  | takes e same x moves took =>
    unfold take at took
    split at took
    · obtain ⟨event, _, rfl⟩ := Option.map_eq_some_iff.mp took
      exact ⟨(following c e same).bounded, (following c e same).pushed⟩
    · cases took
  | advances e same next moves advanced client =>
    rw [client]
    exact following c e same
  | stops e same error x moves stopped client =>
    rw [client]
    exact following c e same

theorem following_initial (waiterTTL sessionTTL : Int) : (initial waiterTTL sessionTTL).Following := by
  intro c e found
  cases found

theorem following_run {waiterTTL sessionTTL : Int} {moves : List Move}
    (ran : run Network.step (initial waiterTTL sessionTTL) moves = some n) : n.Following :=
  run_preserves (fun _ _ _ following stepped => Following.step following stepped) _ n moves
    (following_initial waiterTTL sessionTTL) ran

def Dialed (n : Network) : Prop := ∀ c e, n.peers c = some e → c < n.server.accepted

theorem Dialed.step (dialed : n.Dialed) (stepped : n.step move = some m) : m.Dialed := by
  have grows : n.server.accepted ≤ m.server.accepted := by
    rcases server_step stepped with ⟨_, same⟩ | ⟨act, _, served⟩
    · rw [same]
    · rw [Server.accepted_step served]
      split <;> omega
  intro c after found
  have old : ∀ e, n.peers c = some e → c < m.server.accepted := fun e same =>
    Nat.lt_of_lt_of_le (dialed c e same) grows
  cases peers_step stepped found with
  | stays same => exact old after same
  | dials mode token version draw now moves last new =>
    rcases server_step stepped with ⟨none, _⟩ | ⟨act, acts, served⟩
    · rw [moves] at none
      cases none
    · rw [moves] at acts
      cases acts
      have more := Server.accepted_step served
      dsimp only at more
      omega
  | sends e same => exact old e same
  | reads e same => exact old e same
  | fails e same => exact old e same
  | takes e same => exact old e same
  | advances e same => exact old e same
  | stops e same => exact old e same

theorem dialed_run {waiterTTL sessionTTL : Int} {moves : List Move}
    (ran : run Network.step (initial waiterTTL sessionTTL) moves = some n) : n.Dialed := by
  refine run_preserves (fun _ _ _ dialed stepped => Dialed.step dialed stepped) _ n moves ?_ ran
  intro c e found
  cases found

end Network

end Rtc2Tcp.Peer

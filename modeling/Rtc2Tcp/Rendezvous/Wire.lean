import Rtc2Tcp.Rendezvous.Relay
import Rtc2Tcp.Signaling.Wire

namespace Rtc2Tcp.Rendezvous

open Octets Go Signaling JSON Transition

theorem randomID_valid (buf : Buf) : Valid (randomID buf) := by
  apply valid_ascii
  intro b member
  obtain ⟨i, inside, rfl⟩ := List.mem_map.mp member
  exact (RawURLEncoding.digit_spec i (RawURLEncoding.sextets_lt buf.1 i inside)).2.2.1

/-- What stands on the wire for the message is read as the message itself. -/
def Stable (m : Message) : Prop := m.received = m

instance (m : Message) : Decidable (Stable m) := inferInstanceAs (Decidable (_ = _))

theorem Stable.read {m : Message} (stable : Stable m) : readJSON (writeJSON m) = some m := by
  rw [readJSON_writeJSON, stable]

theorem registeredMessage_stable (id : Bytes) (valid : Valid id) : Stable (registeredMessage id) := by
  have kind : MessageType.ofText (repair MessageType.registered.text) = .registered := by decide +kernel
  simp only [Stable, Message.received, registeredMessage, kind, Option.map_some, Option.map_none]
  rw [show repair id = id from valid]

theorem pongMessage_stable (token : Bytes) (valid : Valid token) : Stable (pongMessage token) := by
  have kind : MessageType.ofText (repair MessageType.pong.text) = .pong := by decide +kernel
  simp only [Stable, Message.received, pongMessage, kind, Option.map_some, Option.map_none]
  rw [show repair token = token from valid]

theorem signalMessage_stable (signal : Signal) (stable : signal.received = signal) : Stable (signalMessage signal) := by
  have kind : MessageType.ofText (repair MessageType.signal.text) = .signal := by decide +kernel
  simp only [Stable, Message.received, signalMessage, kind, Option.map_some, Option.map_none, stable]

theorem pairedMessage_stable (id : Bytes) (initiator : Bool) (mode : PeerMode) (valid : Valid id) (named : Valid mode.string) :
    Stable (pairedMessage id initiator mode) := by
  have kind : MessageType.ofText (repair MessageType.paired.text) = .paired := by decide +kernel
  simp only [Stable, Message.received, pairedMessage, kind, Option.map_some, Option.map_none, Paired.received]
  rw [show repair id = id from valid, show repair mode.string = mode.string from named]

def Stage.Stable : Stage → Prop
  | replying message => Rendezvous.Stable message
  | relaying signal => signal.received = signal
  | forwarding signal _ _ => signal.received = signal
  | _ => True

theorem Stage.received_stable (message : Option Message) (stable : ∀ m, message = some m → Rendezvous.Stable m) :
    (Stage.received message).Stable := by
  unfold Stage.received
  split
  · trivial
  · rename_i m
    have same := stable m rfl
    split
    · have pings : m.ping.map repair = m.ping := congrArg Message.ping same
      apply pongMessage_stable
      cases token : m.ping with
      | none => exact valid_nil
      | some t =>
        rw [token] at pings
        exact Option.some.inj pings
    · trivial
    · have signals : m.signal.map Signal.received = m.signal := congrArg Message.signal same
      split
      · change Rendezvous.Stable _
        decide +kernel
      · rename_i signal found
        rw [found] at signals
        exact Option.some.inj signals
    · change Rendezvous.Stable _
      decide +kernel

def Act.Decoded : Act → Prop
  | .connect message _ _ => ∀ m, message = some m → ∃ data, readJSON data = some m
  | .handler _ x => ∀ m, x.message = some m → ∃ data, readJSON data = some m
  | _ => True

def Task.Expires : Task → Prop
  | .send _ code => code = text "waiter-expired" ∨ code = text "session-expired"
  | .close _ => True

theorem evictionTasks_expires (waiters : List Peer) (sessions : List EvictedSession) (task : Task)
    (member : task ∈ evictionTasks waiters sessions) : task.Expires := by
  simp only [evictionTasks, List.mem_append, List.mem_flatMap, List.mem_cons, List.not_mem_nil, or_false] at member
  rcases member with ⟨_, _, rfl | rfl⟩ | ⟨_, _, rfl | rfl | rfl | rfl⟩
  · exact .inl rfl
  · trivial
  · exact .inr rfl
  · trivial
  · exact .inr rfl
  · trivial

theorem Task.frame_stable {p : Peer} {code : Bytes} (expires : (Task.send p code).Expires) :
    Stable (Task.frame code).message := by
  rcases expires with rfl | rfl <;> decide +kernel

namespace Server

variable {s t : Server} {act : Act}

theorem connect_issued (s : Server) (message : Option Message) (now : Int) (draw : Option Buf) :
    (s.connect message now draw).issued = s.issued := by
  unfold connect
  dsimp only
  split <;> rfl

theorem connect_janitor (s : Server) (message : Option Message) (now : Int) (draw : Option Buf) :
    (s.connect message now draw).janitor = s.janitor := by
  unfold connect
  dsimp only
  split <;> rfl

theorem drawn_random {draw : Option Buf} (fresh : s.drawn draw = some t) (id : Bytes) (member : id ∈ t.issued) :
    id ∈ s.issued ∨ ∃ buf, id = randomID buf := by
  rcases drawn_cases s t draw fresh with ⟨_, rfl⟩ | ⟨buf, _, _, rfl⟩
  · exact .inl member
  · rcases List.mem_cons.mp member with rfl | old
    · exact .inr ⟨buf, rfl⟩
    · exact .inl old

theorem issued_step (stepped : s.step act = some t) (id : Bytes) (member : id ∈ t.issued) :
    id ∈ s.issued ∨ ∃ buf, id = randomID buf := by
  cases step_effect s t act stepped with
  | rejected message draw now u fresh =>
    rw [connect_issued] at member
    exact drawn_random fresh id member
  | registered message draw now u fresh =>
    rw [connect_issued] at member
    exact drawn_random fresh id member
  | refused c p x _ u fresh => exact drawn_random fresh id member
  | waits c p x _ u fresh => exact drawn_random fresh id member
  | paired c p x _ u fresh => exact drawn_random fresh id member
  | wrote | received | forwards | unpaired | left | closed => exact .inl member
  | delivered | undelivered | collected | evicted | disconnected | lost => exact .inl member

theorem tasks_step (stepped : s.step act = some t) (task : Task) (member : task ∈ t.janitor) :
    task ∈ s.janitor ∨ task.Expires := by
  cases step_effect s t act stepped with
  | rejected message draw now u fresh =>
    rw [connect_janitor, drawn_janitor fresh] at member
    exact .inl member
  | registered message draw now u fresh =>
    rw [connect_janitor, drawn_janitor fresh] at member
    exact .inl member
  | refused c p x _ u fresh =>
    rw [setStage_janitor, drawn_janitor fresh] at member
    exact .inl member
  | waits c p x _ u fresh =>
    rw [setStage_janitor] at member
    exact .inl (drawn_janitor fresh ▸ member)
  | paired c p x _ u fresh =>
    rw [setStage_janitor] at member
    exact .inl (drawn_janitor fresh ▸ member)
  | collected => exact .inr (evictionTasks_expires _ _ task member)
  | evicted p code rest buffered tasks =>
    rw [tasks]
    exact .inl (List.mem_cons_of_mem _ member)
  | disconnected p rest buffered tasks =>
    rw [tasks]
    exact .inl (List.mem_cons_of_mem _ member)
  | wrote | received | forwards | unpaired | left | closed => exact .inl member
  | delivered | undelivered | lost => exact .inl member

structure Stable (s : Server) : Prop where
  issued : ∀ id ∈ s.issued, Valid id
  handlers : ∀ c h, s.handlers c = some h → h.stage.Stable
  deliveries : ∀ (i : Nat) (d : Delivery), s.deliveries[i]? = some d → Rendezvous.Stable d.message
  janitor : ∀ task ∈ s.janitor, task.Expires
  written : ∀ c, ∀ frame ∈ (s.sockets c).written, Rendezvous.Stable frame.message

theorem stable_initial (waiterTTL sessionTTL : Int) : (initial waiterTTL sessionTTL).Stable := by
  constructor <;> simp [initial, Socket.fresh]

theorem Next.stable {p : Peer} {x : Choice} {stage after : Stage} (next : s.Next p x stage after)
    (stable : stage.Stable) (read : ∀ m, x.message = some m → Rendezvous.Stable m) : after.Stable := by
  cases next with
  | sent _ output sends ok => cases stage <;> cases ok <;> trivial
  | received => exact Stage.received_stable x.message read
  | forwards => exact stable
  | left =>
    rcases unregistered_cases (unregisterPeer s.broker x.order p).2 with this | ⟨_, _, _, this⟩ <;>
      rw [this] <;> trivial
  | refused | paired | unpaired | closed => trivial

theorem Stage.output_stable {p target : Peer} {stage : Stage} {frame : Frame} (stable : stage.Stable) (valid : Valid p.id)
    (output : stage.output p = some (target, frame)) : Rendezvous.Stable frame.message := by
  cases stage with
  | acking =>
    cases output
    exact registeredMessage_stable p.id valid
  | replying message =>
    cases output
    exact stable
  | forwarding signal =>
    cases output
    exact signalMessage_stable signal stable
  | refusing | relayFailed | notifying =>
    cases output
    decide +kernel
  | pairing | reading | relaying | leaving | closing | returned => cases output

theorem Stable.step (stable : s.Stable) (ok : s.Consistent) (decoded : act.Decoded) (stepped : s.step act = some t) :
    t.Stable where
  issued id member := by
    rcases issued_step stepped id member with old | ⟨buf, rfl⟩
    · exact stable.issued id old
    · exact randomID_valid buf
  handlers c h handler := by
    cases handlers_step stepped c h handler with
    | stays same => exact stable.handlers c h same
    | joins _ _ _ _ _ stage =>
      rw [stage]
      trivial
    | moves x stage moves before next =>
      subst moves
      apply next.stable (stable.handlers c _ before)
      intro m read
      obtain ⟨data, framed⟩ := decoded m read
      exact readJSON_received data m framed
  deliveries i d delivery := by
    cases deliveries_step stepped i d delivery with
    | stays same => exact stable.deliveries i d same
    | moves x before _ found same _ =>
      rw [same]
      exact stable.deliveries i before found
    | starts c p x _ handler u fresh broker pairing paired _ started =>
      obtain ⟨_, ⟨_, none, _⟩ | ⟨w, buf, _, waits, _, _, paired, _⟩⟩ := tryPair_cases _ _ _ _ _ _ paired
      · cases none
      · cases paired
        have named : ∀ mode : PeerMode, mode = .expose ∨ mode = .connect → Valid mode.string := by
          rintro _ (rfl | rfl) <;> decide +kernel
        have waiter : w.mode = .expose ∨ w.mode = .connect := by
          have broker : u.broker = s.broker := by
            rcases drawn_cases s u x.draw fresh with ⟨_, rfl⟩ | ⟨_, _, _, rfl⟩ <;> rfl
          rw [broker] at waits
          obtain ⟨_, attended, _⟩ := ok.waiters _ w waits
          exact ok.modes _ _ attended
        have member := List.mem_of_getElem? started
        simp only [Pairing.deliveries, List.mem_cons, List.not_mem_nil, or_false] at member
        rcases member with rfl | rfl
        · exact pairedMessage_stable _ _ _ (randomID_valid buf) (named _ (ok.modes _ _ handler))
        · exact pairedMessage_stable _ _ _ (randomID_valid buf) (named _ waiter)
  janitor task member := by
    rcases tasks_step stepped task member with old | expires
    · exact stable.janitor task old
    · exact expires
  written c frame member := by
    rcases written_step stepped c with same | ⟨new, writes, _, appended⟩
    · rw [same] at member
      exact stable.written c frame member
    · rw [appended, List.mem_append, List.mem_singleton] at member
      rcases member with old | rfl
      · exact stable.written c frame old
      · cases writes with
        | handler d h x handler target _ output =>
          exact Stage.output_stable (stable.handlers d h handler) (stable.issued _ (ok.located d h handler).2.2) output
        | delivery i d x delivery target _ output =>
          unfold Delivery.output at output
          split at output
          · cases output
            exact stable.deliveries i d delivery
          · cases output
            decide +kernel
          · cases output
        | janitor p code rest _ tasks =>
          apply Task.frame_stable (p := p)
          apply stable.janitor
          rw [tasks]
          exact List.mem_cons_self
        | rejected => decide +kernel

theorem stable_run {waiterTTL sessionTTL : Int} {acts : List Act} (decoded : ∀ act ∈ acts, act.Decoded)
    (ran : run step (initial waiterTTL sessionTTL) acts = some s) : s.Stable := by
  have preserved : ∀ (u : Server) (act : Act) (v : Server),
      u.Consistent ∧ u.Stable → act.Decoded → u.step act = some v → v.Consistent ∧ v.Stable := by
    rintro u act v ⟨ok, stable⟩ decoded stepped
    exact ⟨ok.step stepped, stable.step ok decoded stepped⟩
  have start := And.intro (consistent_initial waiterTTL sessionTTL) (stable_initial waiterTTL sessionTTL)
  exact (run_invariant preserved _ s acts start (along_of_forall _ acts decoded) ran).2

theorem Received.reads {waiterTTL sessionTTL : Int} {acts : List Act} {p : Peer} {signal : Signal}
    (received : Received waiterTTL sessionTTL acts p signal) :
    ∃ x m, Act.handler p.conn x ∈ acts ∧ x.message = some m ∧ m.type = .signal ∧ m.signal = some signal := by
  obtain ⟨before, act, after, u, v, rfl, _, _, x, m, rfl, _, read, typed, payload⟩ := received
  exact ⟨x, m, List.mem_append_right before List.mem_cons_self, read, typed, payload⟩

/-- Whatever the broker writes is read as it was meant, and a relayed signal is read as the signal that was read
    from the other member of the session. -/
theorem relay_wire (waiterTTL sessionTTL : Int) (acts : List Act) (s : Server) (decoded : ∀ act ∈ acts, act.Decoded)
    (ran : run step (initial waiterTTL sessionTTL) acts = some s) (c : Nat) (frame : Frame)
    (written : frame ∈ (s.sockets c).written) :
    readJSON (writeJSON frame.message) = some frame.message ∧
    (frame.message.type = .signal → ∃ p target signal id data m,
      target.conn = c ∧ p.conn ≠ c ∧ Received waiterTTL sessionTTL acts p signal ∧
        LookedUp waiterTTL sessionTTL acts p target signal id ∧
        readJSON data = some m ∧ m.type = .signal ∧ m.signal = some signal ∧
        readJSON (writeJSON frame.message) = some (signalMessage signal)) := by
  have stable := (stable_run decoded ran).written c frame written
  refine ⟨stable.read, ?_⟩
  intro kind
  obtain ⟨p, target, signal, id, rfl, here, received, looked⟩ := (traced_run ran).written c frame written kind
  have other := looked_distinct looked
  rw [here] at other
  obtain ⟨x, m, member, read, typed, payload⟩ := received.reads
  obtain ⟨data, framed⟩ := decoded _ member m read
  exact ⟨p, target, signal, id, data, m, here, other, received, looked, framed, typed, payload, stable.read⟩

theorem relay_wire_offer :
    (∀ act ∈ relayedOffer, act.Decoded) ∧
      ∃ s frame, run step (initial Broker.defaultWaiterTTL Broker.defaultSessionTTL) relayedOffer = some s ∧
        (s.sockets 0).written[2]? = some frame ∧ frame.message.type = .signal ∧
        readJSON (writeJSON frame.message) = some frame.message := by
  have reread : ∀ m : Message, Rendezvous.Stable m → ∃ data, readJSON data = some m := fun m stable => ⟨_, stable.read⟩
  have decoded : ∀ act ∈ relayedOffer, act.Decoded := by
    intro act member
    simp only [relayedOffer, List.mem_cons, List.not_mem_nil, or_false] at member
    rcases member with rfl | rfl | rfl | rfl | rfl | rfl | rfl | rfl | rfl | rfl | rfl
    all_goals first
      | trivial
      | rintro m ⟨⟩
    all_goals exact reread _ (by decide +kernel)
  refine ⟨decoded, ?_⟩
  have result : (run step (initial Broker.defaultWaiterTTL Broker.defaultSessionTTL) relayedOffer).map
      (fun s => (s.sockets 0).written.map fun frame => frame.message.type) =
        some [.registered, .paired, .signal] := by
    decide +kernel
  obtain ⟨s, ran, types⟩ := Option.map_eq_some_iff.mp result
  obtain ⟨frame, found, kind⟩ : ∃ frame, (s.sockets 0).written[2]? = some frame ∧ frame.message.type = .signal := by
    have third : ((s.sockets 0).written.map fun frame => frame.message.type)[2]? = some .signal := by rw [types]; rfl
    rw [List.getElem?_map, Option.map_eq_some_iff] at third
    exact third
  have read := relay_wire _ _ relayedOffer s decoded ran 0 frame (List.mem_of_getElem? found)
  exact ⟨s, frame, ran, found, kind, read.1⟩

end Server

end Rtc2Tcp.Rendezvous

import Rtc2Tcp.Tunnel.Fidelity
import Rtc2Tcp.Tunnel.Teardown

namespace Rtc2Tcp.Tunnel

open Octets Pipe Transition Tally

/-- A bridge with the data that pass through it. `chunk` is what the reading goroutine has at hand, `delivered` holds the
    messages given to `OnMessage`; `torn` says how much of the last one got through, if its write has failed while the
    connection is still open. -/
structure Attached where
  pair : Pair
  received : Bytes
  chunk : Bytes
  sent : List Bytes
  delivered : List Bytes
  torn : Option Nat
deriving DecidableEq, Repr

def BridgePc.pending : BridgePc → Nat
  | writing _ => 1
  | _ => 0

def Pair.place (s : Pair) (i : Nat) (pc : BridgePc) : Pair := { s with threads := s.threads.set i pc }

def Act.side : Act → Option Side
  | .connect _ _ | .expose _ => none
  | .read side _ | .send side _ | .stop side | .arrive side _ | .close side => some side

namespace End

variable (e : End) (data : Bytes) (wrote : Nat)

theorem forward_whole (alive : e.closed = false) :
    (e.forward data data.length).written = e.written ++ data ∧ (e.forward data data.length).closed = false := by
  by_cases empty : data = [] <;> simp [forward, write, empty, alive]

theorem forward_torn (alive : e.closed = false) (less : wrote < data.length) :
    (e.forward data wrote).written = e.written ++ data.take wrote ∧ (e.forward data wrote).closed = true := by
  have nonempty : data ≠ [] := List.ne_nil_of_length_pos (Nat.zero_lt_of_lt less)
  simp [forward, write, closeAll, nonempty, alive, Nat.not_le.mpr less]

end End

namespace Attached

def start (bufferedAmount : Nat) : Attached := ⟨.start bufferedAmount, [], [], [], [], none⟩

def follow (x : Attached) (t : Pair) : Attached := { x with pair := t, torn := if t.connClosed then none else x.torn }

def unhandled (x : Attached) : Nat := total BridgePc.pending x.pair.threads + x.torn.isSome.toNat

def attend (x : Attached) (t : Pair) (turn : BridgeTurn) (data : Bytes) : BridgePc → Option Attached
  | .reading =>
    if x.pair.connClosed = false ∧ 0 < turn.n then
      if data.length = turn.n then some { x.follow t with received := x.received ++ data, chunk := data } else none
    else some (x.follow t)
  | .sending _ _ => if turn.ok then some { x.follow t with sent := x.sent ++ [x.chunk] } else some (x.follow t)
  | .writing message =>
    -- a write that fails has written less than everything, and nothing to a closed connection
    if turn.ok then some (x.follow t)
    else if x.pair.connClosed then if turn.wrote = 0 then some (x.follow t) else none
    else if turn.wrote < message.length then some { x.follow t with torn := some turn.wrote } else none
  | _ => some (x.follow t)

/-- A step of the bridge; the bytes are what a read returns. The messages of a data channel are given to `OnMessage` one
    after the other. -/
def step (x : Attached) : PairMove × Bytes → Option Attached
  | (.run i turn, data) =>
    x.pair.threads[i]?.bind fun pc => (x.pair.step (.run i turn)).bind fun t => x.attend t turn data pc
  | (.message message, _) =>
    if x.unhandled = 0 then
      (x.pair.step (.message message)).map fun t => { x.follow t with delivered := x.delivered ++ [message] }
    else none
  | (move, _) => (x.pair.step move).map x.follow

def carries : BridgePc → BridgePc → Bool
  | .reading, .sending _ _ => true
  | .sending _ _, .checking _ => true
  | .writing _, _ => true
  | _, _ => false

inductive Attended (x : Attached) (i : Nat) : BridgePc → Attached → Prop where
  | reads (data : Bytes) (err : Bool) (alive : x.pair.connClosed = false) (fits : data.length ≤ maxChunkSize)
      (nonempty : data ≠ []) :
      Attended x i .reading { x.follow (x.pair.place i (.sending data.length err)) with
        received := x.received ++ data, chunk := data }
  | sends (n : Nat) (err : Bool) :
      Attended x i (.sending n err) { x.follow ({ x.pair with bufferedAmount := x.pair.bufferedAmount + n }.place i
        (.checking err)) with sent := x.sent ++ [x.chunk] }
  | writes (message : Bytes) (alive : x.pair.connClosed = false) :
      Attended x i (.writing message) (x.follow ({ x.pair with written := x.pair.written ++ message }.place i .returned))
  | refused (message : Bytes) (closed : x.pair.connClosed = true) :
      Attended x i (.writing message) (x.follow (x.pair.place i .entering))
  | tears (message : Bytes) (wrote : Nat) (alive : x.pair.connClosed = false) (less : wrote < message.length) :
      Attended x i (.writing message)
        { x.follow ({ x.pair with written := x.pair.written ++ message.take wrote }.place i .entering) with
          torn := some wrote }
  | aside (pc next : BridgePc) (u : Pair) (advanced : Pair.Advanced x.pair pc u next) (empty : carries pc next = false) :
      Attended x i pc (x.follow (u.place i next))

variable {x y : Attached} {i : Nat}

theorem attended_of_step {turn : BridgeTurn} {data : Bytes} (stepped : x.step (.run i turn, data) = some y) :
    ∃ pc, x.pair.threads[i]? = some pc ∧ Attended x i pc y := by
  obtain ⟨pc, found, stepped⟩ := Option.bind_eq_some_iff.mp stepped
  obtain ⟨t, moved, attended⟩ := Option.bind_eq_some_iff.mp stepped
  refine ⟨pc, found, ?_⟩
  rw [Pair.step, found] at moved
  obtain ⟨⟨u, next⟩, advances, placed⟩ := Option.map_eq_some_iff.mp moved
  obtain rfl : u.place i next = t := placed
  have advanced := Pair.advanced_of_advance advances
  have aside : carries pc next = false → y = x.follow (u.place i next) → Attended x i pc y := by
    rintro empty rfl
    exact .aside pc next u advanced empty
  cases pc with
  | reading =>
    simp only [Pair.advance] at advances
    simp only [attend] at attended
    by_cases closed : x.pair.connClosed = true
    · rw [if_pos closed] at advances
      rw [if_neg (by rw [closed]; simp)] at attended
      cases advances
      cases attended
      exact aside rfl rfl
    · rw [if_neg closed] at advances
      have alive : x.pair.connClosed = false := by simpa using closed
      split at advances
      · rename_i fits
        cases advances
        by_cases full : 0 < turn.n
        · rw [if_pos ⟨alive, full⟩] at attended
          split at attended
          · rename_i length
            cases attended
            simp only [← length]
            exact .reads data turn.err alive (by rw [length]; exact fits)
              (List.ne_nil_of_length_pos (by rw [length]; exact full))
          · cases attended
        · rw [if_neg (fun both => full both.2)] at attended
          cases attended
          rw [if_neg full] at advanced aside ⊢
          refine aside ?_ rfl
          cases turn.err <;> rfl
      · cases advances
  | sending n err =>
    simp only [Pair.advance] at advances
    simp only [attend] at attended
    cases ok : turn.ok with
    | false =>
      simp only [ok, Bool.not_false, if_true, Bool.false_eq_true, if_false] at advances attended
      cases advances
      cases attended
      exact aside rfl rfl
    | true =>
      simp only [ok, Bool.not_true, Bool.false_eq_true, if_false, if_true] at advances attended
      split at advances
      · cases advances
      · cases advances
        cases attended
        exact .sends n err
  | writing message =>
    simp only [Pair.advance] at advances
    simp only [attend] at attended
    cases ok : turn.ok with
    | true =>
      simp only [ok, Bool.not_true, Bool.false_eq_true, if_false, if_true] at advances attended
      split at advances
      · cases advances
      · rename_i alive
        cases advances
        cases attended
        exact .writes message (by simpa using alive)
    | false =>
      simp only [ok, Bool.not_false, if_true, Bool.false_eq_true, if_false] at advances attended
      cases advances
      split at attended
      · rename_i closed
        split at attended
        · rename_i none
          cases attended
          rw [none, List.take_zero, List.append_nil]
          exact .refused message closed
        · cases attended
      · rename_i alive
        split at attended
        · rename_i less
          cases attended
          exact .tears message turn.wrote (by simpa using alive) less
        · cases attended
  | _ =>
    cases attended
    exact aside rfl rfl

/-- What the stream's reader does while the reading goroutine is at `pc`; one that is about to close does nothing. -/
def reads (chunk : Bytes) (reader : Reader UInt8) : BridgePc → Prop
  | .reading | .checking _ | .waiting _ => reader = .reading
  | .sending _ _ => reader = .sending chunk
  | _ => True

theorem reads_afterChunk {chunk : Bytes} {reader : Reader UInt8} (err : Bool) (idle : reader = .reading) :
    reads chunk reader (.afterChunk err) := by
  cases err
  · exact idle
  · trivial

/-- What a failed write has left on a connection that is still open. -/
def remnant (x : Attached) : Bytes :=
  match x.torn with
  | none => []
  | some wrote => (x.delivered.getLastD []).take wrote

/-- The end of a stream is where the bridge is, but for the message that a callback is still about to write, or whose
    failed write has not yet led to the end of the connection. -/
structure Follows (messages : List Bytes) (first e : End) (x : Attached) : Prop where
  handler : e.handler = some .forward
  closed : e.closed = x.pair.connClosed
  received : e.received = first.received ++ x.received
  reader : ∃ pc, x.pair.threads[0]? = some pc ∧ reads x.chunk e.reader pc
  written : first.written ++ x.pair.written = e.written ++ x.remnant
  single : x.unhandled ≤ 1
  arriving : ∃ handled, x.delivered.length = handled + x.unhandled ∧ e.arriving = messages.drop handled
  current : ∀ message, .writing message ∈ x.pair.threads → x.delivered.getLast? = some message
  torn : ∀ wrote, x.torn = some wrote → x.pair.connClosed = false ∧ wrote < (x.delivered.getLastD []).length

theorem pair_step {move : PairMove × Bytes} (stepped : x.step move = some y) : x.pair.step move.1 = some y.pair := by
  obtain ⟨move, data⟩ := move
  cases move with
  | run i turn =>
    obtain ⟨pc, found, stepped⟩ := Option.bind_eq_some_iff.mp stepped
    obtain ⟨t, moved, attended⟩ := Option.bind_eq_some_iff.mp stepped
    have same : y.pair = t := by
      cases pc <;> simp only [attend] at attended <;> (repeat' split at attended) <;> cases attended <;> rfl
    rw [moved, same]
  | message message =>
    simp only [step] at stepped
    split at stepped
    · obtain ⟨t, moved, rfl⟩ := Option.map_eq_some_iff.mp stepped
      exact moved
    · cases stepped
  | _ =>
    simp only [step, Option.map_eq_some_iff] at stepped
    obtain ⟨t, moved, rfl⟩ := stepped
    exact moved

theorem advanced_pending {s t : Pair} {pc next : BridgePc} (advanced : Pair.Advanced s pc t next) : next.pending = 0 := by
  cases advanced with
  | idles err | passes err => cases err <;> rfl
  | _ => rfl

theorem advanced_conn {s t : Pair} {pc next : BridgePc} (advanced : Pair.Advanced s pc t next) :
    t.connClosed = s.connClosed ∨ t.connClosed = true := by
  cases advanced with
  | closesConn => exact .inr rfl
  | _ => exact .inl rfl

theorem advanced_written {s t : Pair} {pc next : BridgePc} (advanced : Pair.Advanced s pc t next)
    (empty : carries pc next = false) : t.written = s.written := by
  cases advanced with
  | writes | writeFails => cases empty
  | _ => rfl

theorem reads_aside {s t : Pair} {pc next : BridgePc} {chunk : Bytes} {reader : Reader UInt8}
    (advanced : Pair.Advanced s pc t next) (empty : carries pc next = false) (held : reads chunk reader pc) :
    reads chunk reader next := by
  cases advanced with
  | reads | sends | writes | writeFails => cases empty
  | idles err | passes err => exact reads_afterChunk err held
  | waits | wakes => exact held
  | _ => trivial

theorem next_message {messages delivered : List Bytes} {message : Bytes} {handled : Nat}
    (front : delivered <+: messages) (last : delivered.getLast? = some message)
    (count : delivered.length = handled + 1) : messages.drop handled = message :: messages.drop (handled + 1) := by
  obtain ⟨rest, rfl⟩ := front
  obtain ⟨before, rfl⟩ := List.getLast?_eq_some_iff.mp last
  obtain rfl : before.length = handled := by simpa using count
  simp [List.append_assoc]

section Simulation

variable {messages : List Bytes} {first e : End}

theorem Follows.follow_torn (follows : Follows messages first e x) {t : Pair}
    (closed : t.connClosed = x.pair.connClosed) : (x.follow t).torn = x.torn := by
  simp only [follow]
  split
  · rename_i gone
    cases found : x.torn with
    | none => rfl
    | some wrote =>
      rw [closed, (follows.torn wrote found).1] at gone
      cases gone
  · rfl

theorem Follows.passes (follows : Follows messages first e x) {t : Pair} {got received chunk : Bytes} {sent : List Bytes}
    {reader : Reader UInt8} (read : got = first.received ++ received) (closed : t.connClosed = x.pair.connClosed)
    (written : t.written = x.pair.written)
    (pending : total BridgePc.pending t.threads = total BridgePc.pending x.pair.threads)
    (current : ∀ message, .writing message ∈ t.threads → .writing message ∈ x.pair.threads)
    (reading : ∃ pc, t.threads[0]? = some pc ∧ reads chunk reader pc) :
    Follows messages first { e with received := got, reader := reader }
      { x.follow t with received := received, chunk := chunk, sent := sent } := by
  let y : Attached := { x.follow t with received := received, chunk := chunk, sent := sent }
  have torn : y.torn = x.torn := follows.follow_torn closed
  have unhandled : y.unhandled = x.unhandled := by
    rw [Attached.unhandled, Attached.unhandled, torn]
    exact congrArg (· + _) pending
  have remnant : y.remnant = x.remnant := by
    simp only [Attached.remnant, torn]
    rfl
  refine ⟨follows.handler, follows.closed.trans closed.symm, read, reading, ?_, ?_, ?_, ?_, ?_⟩
  · show _ = _ ++ y.remnant
    rw [remnant]
    exact (congrArg _ written).trans follows.written
  · show y.unhandled ≤ 1
    rw [unhandled]
    exact follows.single
  · show ∃ handled, _ = handled + y.unhandled ∧ _
    rw [unhandled]
    exact follows.arriving
  · exact fun message member => follows.current message (current message member)
  · intro wrote found
    have before : x.torn = some wrote := torn.symm.trans found
    exact ⟨closed.trans (follows.torn wrote before).1, (follows.torn wrote before).2⟩

/-- Steps of the bridge that the stream does not make. -/
theorem Follows.keep (follows : Follows messages first e x) {t : Pair} (closed : t.connClosed = x.pair.connClosed)
    (written : t.written = x.pair.written)
    (pending : total BridgePc.pending t.threads = total BridgePc.pending x.pair.threads)
    (current : ∀ message, .writing message ∈ t.threads → .writing message ∈ x.pair.threads)
    (reader : ∃ pc, t.threads[0]? = some pc ∧ reads x.chunk e.reader pc) : Follows messages first e (x.follow t) :=
  follows.passes follows.received closed written pending current reader

/-- The end of a stream after a message. -/
def arrived (e : End) (messages : List Bytes) (x : Attached) (message : Bytes) (wrote : Nat) : End :=
  { e with arriving := messages.drop x.delivered.length, arrived := e.arrived + 1 }.forward message wrote

/-- The stream handles the message that the bridge has at hand. -/
theorem Follows.arrives (follows : Follows messages first e x) {t : Pair} {message : Bytes} {wrote : Nat}
    (untorn : (x.follow t).torn = none) (pending : total BridgePc.pending t.threads = 0)
    (closed : (arrived e messages x message wrote).closed = t.connClosed)
    (written : first.written ++ t.written = (arrived e messages x message wrote).written)
    (reader : ∃ pc, t.threads[0]? = some pc ∧ reads x.chunk e.reader pc) :
    Follows messages first (arrived e messages x message wrote) (x.follow t) := by
  have none : (x.follow t).unhandled = 0 := by
    rw [Attached.unhandled, untorn]
    exact pending
  have remnant : (x.follow t).remnant = [] := by simp only [Attached.remnant, untorn]
  refine ⟨?_, closed, ?_, ?_, ?_, ?_, ⟨x.delivered.length, ?_, ?_⟩, ?_, ?_⟩
  · rw [arrived, End.forward_handler]
    exact follows.handler
  · rw [arrived, End.forward_received]
    exact follows.received
  · rw [arrived, End.forward_reader]
    exact reader
  · rw [remnant, List.append_nil]
    exact written
  · rw [none]
    exact Nat.zero_le 1
  · rw [none]
    rfl
  · rw [arrived, End.forward_arriving]
  · intro message member
    obtain ⟨i, found⟩ := List.getElem?_of_mem member
    have counted : BridgePc.pending (.writing message) ≤ total BridgePc.pending t.threads := weight_le_total found
    rw [pending] at counted
    cases counted
  · intro wrote found
    rw [untorn] at found
    cases found

theorem placed_quiet {threads : List BridgePc} {pc : BridgePc} (found : threads[i]? = some pc) (next : BridgePc)
    (before : pc.pending = 0) (after : next.pending = 0) :
    total BridgePc.pending (threads.set i next) = total BridgePc.pending threads ∧
      ∀ message, .writing message ∈ threads.set i next → .writing message ∈ threads := by
  have counted : total BridgePc.pending (threads.set i next) + pc.pending = _ := total_set found next
  rw [before, after] at counted
  refine ⟨counted, ?_⟩
  intro message member
  rcases List.mem_or_eq_of_mem_set member with old | rfl
  · exact old
  · cases after

theorem reader_placed {threads : List BridgePc} {pc : BridgePc} {chunk : Bytes} {reader : Reader UInt8}
    (old : ∃ pc, threads[0]? = some pc ∧ reads chunk reader pc) (found : threads[i]? = some pc) (next : BridgePc)
    (here : reads chunk reader pc → reads chunk reader next) :
    ∃ pc, (threads.set i next)[0]? = some pc ∧ reads chunk reader pc := by
  obtain ⟨first, front, held⟩ := old
  by_cases zero : i = 0
  · subst zero
    obtain rfl := Option.some.inj (found.symm.trans front)
    refine ⟨next, ?_, here held⟩
    rw [List.getElem?_set_self', found]
    rfl
  · exact ⟨first, by rw [List.getElem?_set_ne zero, front], held⟩

theorem reading_first (sound : x.pair.Sound) {pc : BridgePc} (found : x.pair.threads[i]? = some pc)
    (reads : pc.Calls = false) : i = 0 := by
  by_contra other
  rw [sound.callbacks i pc found other] at reads
  cases reads

theorem idle_of_unhandled (idle : x.unhandled = 0) : x.torn = none ∧ total BridgePc.pending x.pair.threads = 0 := by
  rw [unhandled] at idle
  cases torn : x.torn with
  | none => exact ⟨rfl, (Nat.add_eq_zero_iff.mp idle).1⟩
  | some wrote =>
    rw [torn] at idle
    cases idle

/-- A message is given to `OnMessage`, which writes it, unless it is empty. -/
theorem Follows.delivers (follows : Follows messages first e x) (idle : x.unhandled = 0) (message : Bytes) {pc : BridgePc}
    (given : ∀ other, pc = .writing other → other = message) {arriving : List Bytes} {handled arrived : Nat}
    (count : x.delivered.length + 1 = handled + pc.pending) (rest : arriving = messages.drop handled) :
    Follows messages first { e with arriving := arriving, arrived := arrived }
      { x.follow (x.pair.spawn pc) with delivered := x.delivered ++ [message] } := by
  obtain ⟨untorn, none⟩ := idle_of_unhandled idle
  obtain ⟨head, zeroth, held⟩ := follows.reader
  have inside : 0 < x.pair.threads.length := (List.getElem?_eq_some_iff.mp zeroth).1
  have mine := follows.written
  simp only [Attached.remnant, untorn] at mine
  let y : Attached := { x.follow (x.pair.spawn pc) with delivered := x.delivered ++ [message] }
  have torn : y.torn = Option.none := (follows.follow_torn rfl).trans untorn
  have unhandled : y.unhandled = pc.pending := by
    have counted : total BridgePc.pending (x.pair.threads ++ [pc]) = _ := total_snoc x.pair.threads pc
    rw [none, Nat.zero_add] at counted
    rw [Attached.unhandled, torn]
    exact counted
  have remnant : y.remnant = [] := by simp only [Attached.remnant, torn]
  refine ⟨follows.handler, follows.closed, follows.received, ⟨head, ?_, held⟩, ?_, ?_, ⟨handled, ?_, rest⟩, ?_, ?_⟩
  · exact (List.getElem?_append_left inside).trans zeroth
  · show _ = _ ++ y.remnant
    rw [remnant]
    exact mine
  · show y.unhandled ≤ 1
    rw [unhandled]
    cases pc <;> simp [BridgePc.pending]
  · show (x.delivered ++ [message]).length = handled + y.unhandled
    rw [unhandled, List.length_append]
    exact count
  · intro other member
    rcases List.mem_append.mp member with old | new
    · obtain ⟨i, found⟩ := List.getElem?_of_mem old
      have counted : BridgePc.pending (.writing other) ≤ total BridgePc.pending x.pair.threads := weight_le_total found
      rw [none] at counted
      cases counted
    · rw [given other (List.mem_singleton.mp new).symm]
      exact List.getLast?_concat
  · intro wrote found
    cases torn.symm.trans found

/-- The callback of a message ends its write. -/
theorem Follows.handles (follows : Follows messages first e x) {message : Bytes}
    (found : x.pair.threads[i]? = some (.writing message)) (next : BridgePc) (after : next.pending = 0) :
    x.torn = none ∧ x.unhandled = 1 ∧ total BridgePc.pending (x.pair.threads.set i next) = 0 ∧
      x.delivered.getLast? = some message ∧ first.written ++ x.pair.written = e.written := by
  have counted : total BridgePc.pending (x.pair.threads.set i next) + 1 = _ := total_set found next
  rw [after] at counted
  have single := follows.single
  have mine := follows.written
  cases torn : x.torn with
  | some wrote =>
    have both : total BridgePc.pending x.pair.threads + 1 ≤ 1 := by rwa [Attached.unhandled, torn] at single
    omega
  | none =>
    have count : x.unhandled = total BridgePc.pending x.pair.threads := by
      rw [Attached.unhandled, torn]
      rfl
    rw [count] at single
    simp only [Attached.remnant, torn, List.append_nil] at mine
    refine ⟨rfl, ?_, ?_, follows.current message (List.mem_of_getElem? found), mine⟩
    · rw [count]
      omega
    · omega

variable {socks5 : Bool} {side : Side} {first s : Stream}

/-- By steps at this end the stream comes to where the bridge is. -/
def Reaches (socks5 : Bool) (side : Side) (messages : List Bytes) (first s : Stream) (x : Attached) : Prop :=
  ∃ acts t, (∀ act ∈ acts, act.side = some side) ∧ run (Stream.step socks5) s acts = some t ∧
    Follows messages (first.ends side) (t.ends side) x ∧
    (t.ends side.other).arriving = (first.ends side.other).arriving ++ x.sent

theorem Follows.reaches (follows : Follows messages (first.ends side) (s.ends side) x)
    (far : (s.ends side.other).arriving = (first.ends side.other).arriving ++ x.sent) :
    Reaches socks5 side messages first s x :=
  ⟨[], s, by simp, rfl, follows, far⟩

theorem reaches_of_set (act : Act) {e : End} (here : act.side = some side)
    (stepped : s.step socks5 act = some (s.set side e)) (follows : Follows messages (first.ends side) e x)
    (far : (s.ends side.other).arriving = (first.ends side.other).arriving ++ x.sent) :
    Reaches socks5 side messages first s x := by
  refine ⟨[act], s.set side e, by simpa using here, by simp [run, stepped], ?_, ?_⟩
  · rw [Stream.set_same]
    exact follows
  · rw [Stream.set_other]
    exact far

theorem arrive_step (follows : Follows messages (first.ends side) (s.ends side) x) (front : x.delivered <+: messages)
    (one : x.unhandled = 1) {message : Bytes} (last : x.delivered.getLast? = some message) (wrote : Nat) :
    s.step socks5 (.arrive side wrote) = some (s.set side (arrived (s.ends side) messages x message wrote)) := by
  obtain ⟨handled, count, arriving⟩ := follows.arriving
  rw [one] at count
  rw [next_message front last count, ← count] at arriving
  simp [Stream.step, Stream.arriveStep, arriving, follows.handler, arrived]

/-- The connection is closed. A write that has failed before is what the stream ends with. -/
theorem Follows.lost (follows : Follows messages (first.ends side) (s.ends side) x)
    (far : (s.ends side.other).arriving = (first.ends side.other).arriving ++ x.sent) (front : x.delivered <+: messages)
    {t : Pair} (gone : t.connClosed = true) (written : t.written = x.pair.written)
    (pending : total BridgePc.pending t.threads = total BridgePc.pending x.pair.threads)
    (current : ∀ message, .writing message ∈ t.threads → .writing message ∈ x.pair.threads)
    (reader : ∃ pc, t.threads[0]? = some pc ∧ reads x.chunk (s.ends side).reader pc) :
    Reaches socks5 side messages first s (x.follow t) := by
  have mine := follows.written
  have whole : (x.follow t).torn = none := if_pos gone
  cases closed : x.pair.connClosed with
  | true => exact (follows.keep (gone.trans closed.symm) written pending current reader).reaches far
  | false =>
    cases torn : x.torn with
    | none =>
      have unhandled : (x.follow t).unhandled = x.unhandled := by
        rw [Attached.unhandled, Attached.unhandled, whole, torn]
        exact congrArg (· + _) pending
      have remnant : (x.follow t).remnant = [] := by simp only [Attached.remnant, whole]
      simp only [Attached.remnant, torn] at mine
      refine reaches_of_set (.close side) rfl (if_pos follows.handler) ?_ far
      refine ⟨follows.handler, gone.symm, follows.received, reader, ?_, ?_, ?_, ?_, ?_⟩
      · rw [remnant]
        exact (congrArg _ written).trans mine
      · rw [unhandled]
        exact follows.single
      · rw [unhandled]
        exact follows.arriving
      · exact fun message member => follows.current message (current message member)
      · intro wrote found
        rw [whole] at found
        cases found
    | some wrote =>
      obtain ⟨_, less⟩ := follows.torn wrote torn
      have single := follows.single
      rw [Attached.unhandled, torn] at single
      have none : total BridgePc.pending x.pair.threads = 0 := Nat.le_zero.mp (Nat.le_of_succ_le_succ single)
      have one : x.unhandled = 1 := by
        rw [Attached.unhandled, torn, none]
        rfl
      obtain ⟨message, last⟩ : ∃ message, x.delivered.getLast? = some message := by
        cases last : x.delivered.getLast? with
        | none =>
          rw [List.getLast?_eq_none_iff.mp last] at less
          cases less
        | some message => exact ⟨message, rfl⟩
      have named : x.delivered.getLastD [] = message := by rw [List.getLastD_eq_getLast?, last]; rfl
      rw [named] at less
      simp only [Attached.remnant, torn, named] at mine
      have alive : (s.ends side).closed = false := follows.closed.trans closed
      have ended := End.forward_torn { s.ends side with
        arriving := messages.drop x.delivered.length, arrived := (s.ends side).arrived + 1 } message wrote alive less
      refine reaches_of_set (.arrive side wrote) rfl (arrive_step follows front one last wrote) ?_ far
      refine follows.arrives whole (pending.trans none) (ended.2.trans gone.symm) ?_ reader
      exact ((congrArg _ written).trans mine).trans ended.1.symm

theorem Attended.delivered {pc : BridgePc} (attended : Attended x i pc y) : y.delivered = x.delivered := by
  cases attended <;> rfl

theorem Attended.simulated {pc : BridgePc} (attended : Attended x i pc y) (found : x.pair.threads[i]? = some pc)
    (sound : x.pair.Sound) (follows : Follows messages (first.ends side) (s.ends side) x)
    (far : (s.ends side.other).arriving = (first.ends side.other).arriving ++ x.sent)
    (front : x.delivered <+: messages) : Reaches socks5 side messages first s y := by
  obtain ⟨head, zeroth, held⟩ := follows.reader
  cases attended with
  | reads data err alive fits nonempty =>
    obtain rfl := reading_first sound found rfl
    obtain rfl := Option.some.inj (found.symm.trans zeroth)
    have able : (s.ends side).reader = .reading ∧ (s.ends side).closed = false ∧ data ≠ [] ∧
        data.length ≤ maxChunkSize := ⟨held, follows.closed.trans alive, nonempty, fits⟩
    have placed : (x.pair.threads.set 0 (.sending data.length err))[0]? = some (.sending data.length err) := by
      rw [List.getElem?_set_self', found]
      rfl
    obtain ⟨pending, current⟩ := placed_quiet found (.sending data.length err) rfl rfl
    refine reaches_of_set (.read side data) rfl (if_pos able) ?_ far
    refine follows.passes ?_ rfl rfl pending current ⟨_, placed, rfl⟩
    rw [follows.received, List.append_assoc]
  | sends n err =>
    obtain rfl := reading_first sound found rfl
    obtain rfl := Option.some.inj (found.symm.trans zeroth)
    have sending : (s.ends side).reader = .sending x.chunk := held
    have placed : (x.pair.threads.set 0 (.checking err))[0]? = some (.checking err) := by
      rw [List.getElem?_set_self', found]
      rfl
    obtain ⟨pending, current⟩ := placed_quiet found (.checking err) rfl rfl
    refine ⟨[.send side true], (s.set side { s.ends side with reader := .reading }).set side.other
      { s.ends side.other with arriving := (s.ends side.other).arriving ++ [x.chunk] }, ?_, ?_, ?_, ?_⟩
    · simp [Act.side]
    · simp [run, Stream.step, Stream.sendStep, sending]
    · rw [Stream.set_far, Stream.set_same]
      exact follows.passes follows.received rfl rfl pending current ⟨_, placed, rfl⟩
    · rw [Stream.set_same]
      exact (congrArg (· ++ [x.chunk]) far).trans (List.append_assoc _ _ _)
  | writes message alive =>
    obtain ⟨untorn, one, none, last, mine⟩ := follows.handles found .returned rfl
    have ended := End.forward_whole { s.ends side with
      arriving := messages.drop x.delivered.length, arrived := (s.ends side).arrived + 1 } message
      (follows.closed.trans alive)
    refine reaches_of_set (.arrive side message.length) rfl (arrive_step follows front one last _) ?_ far
    refine follows.arrives ?_ none (ended.2.trans alive.symm) ?_
      (reader_placed follows.reader found .returned fun _ => trivial)
    · exact (follows.follow_torn rfl).trans untorn
    · rw [arrived, ended.1, ← mine]
      exact (List.append_assoc _ _ _).symm
  | refused message closed =>
    obtain ⟨untorn, one, none, last, mine⟩ := follows.handles found .entering rfl
    have ended := End.forward_closed { s.ends side with
      arriving := messages.drop x.delivered.length, arrived := (s.ends side).arrived + 1 } message 0
      (follows.closed.trans closed)
    refine reaches_of_set (.arrive side 0) rfl (arrive_step follows front one last _) ?_ far
    refine follows.arrives ?_ none ((congrArg End.closed ended).trans follows.closed) ?_
      (reader_placed follows.reader found .entering fun _ => trivial)
    · exact (follows.follow_torn rfl).trans untorn
    · rw [arrived, ended]
      exact mine
  | tears message wrote alive less =>
    obtain ⟨untorn, one, none, last, mine⟩ := follows.handles found .entering rfl
    have named : x.delivered.getLastD [] = message := by rw [List.getLastD_eq_getLast?, last]; rfl
    have still : ∀ other, .writing other ∈ x.pair.threads.set i .entering → x.delivered.getLast? = some other := by
      intro other member
      rcases List.mem_or_eq_of_mem_set member with old | impossible
      · exact follows.current other old
      · cases impossible
    have count : ∀ y : Attached, y.pair.threads = x.pair.threads.set i .entering → y.torn = some wrote →
        y.unhandled = x.unhandled := by
      intro y threads torn
      rw [Attached.unhandled, threads, torn, none, one]
      rfl
    refine Follows.reaches ?_ far
    refine ⟨follows.handler, follows.closed, follows.received, ?_, ?_, ?_, ?_, still, ?_⟩
    · exact reader_placed follows.reader found .entering fun _ => trivial
    · rw [Attached.remnant, ← mine]
      show _ = _ ++ (x.delivered.getLastD []).take wrote
      rw [named]
      exact (List.append_assoc _ _ _).symm
    · rw [count _ rfl rfl]
      exact follows.single
    · rw [count _ rfl rfl]
      exact follows.arriving
    · intro other same
      cases same
      exact ⟨alive, by rw [← named] at less; exact less⟩
  | aside _ next u advanced empty =>
    have before : pc.pending = 0 := by
      cases pc with
      | writing message => cases empty
      | _ => rfl
    obtain ⟨pending, current⟩ := placed_quiet found next before (advanced_pending advanced)
    have reader := reader_placed follows.reader found next (reads_aside advanced empty)
    have threads : (u.place i next).threads = x.pair.threads.set i next := by rw [Pair.place, advanced.threads]
    have written : u.written = x.pair.written := advanced_written advanced empty
    rw [← threads] at pending current reader
    rcases advanced_conn advanced with closed | gone
    · refine Follows.reaches ?_ far
      exact follows.keep closed written pending current reader
    · exact follows.lost far front gone written pending current reader

theorem simulated_step {move : PairMove × Bytes} (stepped : x.step move = some y) (sound : x.pair.Sound)
    (follows : Follows messages (first.ends side) (s.ends side) x)
    (far : (s.ends side.other).arriving = (first.ends side.other).arriving ++ x.sent)
    (front : y.delivered <+: messages) : Reaches socks5 side messages first s y := by
  obtain ⟨move, data⟩ := move
  obtain ⟨head, zeroth, held⟩ := follows.reader
  have inside : 0 < x.pair.threads.length := (List.getElem?_eq_some_iff.mp zeroth).1
  have spawned : ∀ pc, pc.pending = 0 → ∀ t : Pair, t.connClosed = x.pair.connClosed → t.written = x.pair.written →
      t.threads = x.pair.threads ++ [pc] → Follows messages (first.ends side) (s.ends side) (x.follow t) := by
    intro pc quiet t closed written threads
    refine follows.keep closed written ?_ ?_ ⟨head, ?_, held⟩
    · have counted : total BridgePc.pending (x.pair.threads ++ [pc]) = _ := total_snoc x.pair.threads pc
      rw [threads, counted, quiet]
      rfl
    · intro message member
      rw [threads] at member
      rcases List.mem_append.mp member with old | new
      · exact old
      · rw [← List.mem_singleton.mp new] at quiet
        cases quiet
    · rw [threads, List.getElem?_append_left inside, zeroth]
  cases move with
  | run i turn =>
    obtain ⟨pc, found, attended⟩ := attended_of_step stepped
    exact attended.simulated found sound follows far (attended.delivered ▸ front)
  | message message =>
    simp only [step] at stepped
    split at stepped
    · rename_i idle
      cases stepped
      obtain ⟨handled, count, arriving⟩ := follows.arriving
      rw [idle, Nat.add_zero] at count
      by_cases empty : message = []
      · simp only [if_pos empty] at front ⊢
        have last : (x.delivered ++ [message]).getLast? = some message := List.getLast?_concat
        rw [next_message front last (by rw [List.length_append, count]; rfl)] at arriving
        refine reaches_of_set (.arrive side 0)
          (e := { s.ends side with arriving := messages.drop (handled + 1), arrived := (s.ends side).arrived + 1 })
          rfl ?_ ?_ far
        · simp [Stream.step, Stream.arriveStep, arriving, follows.handler, End.forward, empty]
        · exact follows.delivers idle message (by rintro _ ⟨⟩) (congrArg (· + 1) count) rfl
      · simp only [if_neg empty]
        refine Follows.reaches ?_ far
        exact follows.delivers idle message (fun other same => (BridgePc.writing.inj same).symm)
          (congrArg (· + 1) count) arriving
    · cases stepped
  | failure =>
    cases stepped
    refine Follows.reaches ?_ far
    exact spawned .entering rfl _ rfl rfl rfl
  | bufferedAmountLow =>
    simp only [step, Pair.step] at stepped
    split at stepped <;> cases stepped
    refine Follows.reaches ?_ far
    exact spawned .draining rfl _ rfl rfl rfl
  | transmit n =>
    simp only [step, Pair.step] at stepped
    split at stepped
    · split at stepped <;> cases stepped <;> refine Follows.reaches ?_ far <;>
        exact follows.keep rfl rfl rfl (fun _ => id) ⟨head, zeroth, held⟩
    · cases stepped
  | loseConn =>
    cases stepped
    exact follows.lost far front rfl rfl rfl (fun _ => id) ⟨head, zeroth, held⟩
  | loseDC =>
    cases stepped
    refine Follows.reaches ?_ far
    exact follows.keep rfl rfl rfl (fun _ => id) ⟨head, zeroth, held⟩

theorem delivered_front {move : PairMove × Bytes} (stepped : x.step move = some y) : x.delivered <+: y.delivered := by
  obtain ⟨move, data⟩ := move
  cases move with
  | run i turn =>
    obtain ⟨pc, _, attended⟩ := attended_of_step stepped
    exact ⟨[], by rw [List.append_nil, attended.delivered]⟩
  | message message =>
    simp only [step] at stepped
    split at stepped
    · cases stepped
      exact List.prefix_append _ _
    · cases stepped
  | _ =>
    simp only [step, Option.map_eq_some_iff] at stepped
    obtain ⟨t, _, rfl⟩ := stepped
    exact List.prefix_refl _

/-- The goroutine and the callbacks of a bridge do at their end of a stream what the stream's own steps do: they read and
    send the same, and write the same, but for what a failed write has left on a connection not yet closed. -/
theorem attached_refines (socks5 : Bool) (side : Side) (first : Stream) (rest : List Bytes) {bufferedAmount : Nat}
    {moves : List (PairMove × Bytes)} (ran : run step (start bufferedAmount) moves = some x)
    (handler : (first.ends side).handler = some .forward)
    (reader : (first.ends side).reader = .reading) (alive : (first.ends side).closed = false)
    (arriving : (first.ends side).arriving = x.delivered ++ rest) :
    ∃ acts t, (∀ act ∈ acts, act.side = some side) ∧ run (Stream.step socks5) first acts = some t ∧
      (t.ends side).received = (first.ends side).received ++ x.received ∧
      (t.ends side.other).arriving = (first.ends side.other).arriving ++ x.sent ∧
      (t.ends side).closed = x.pair.connClosed ∧
      (first.ends side).written ++ x.pair.written = (t.ends side).written ++ x.remnant := by
  let holds (u : Attached) : Prop :=
    u.pair.Sound ∧ (u.delivered <+: x.delivered ++ rest → Reaches socks5 side (x.delivered ++ rest) first first u)
  have preserved : ∀ u move v, holds u → step u move = some v → holds v := by
    rintro u move v ⟨sound, reached⟩ stepped
    refine ⟨sound.step (pair_step stepped), ?_⟩
    intro front
    obtain ⟨acts, s, here, went, follows, far⟩ := reached ((delivered_front stepped).trans front)
    obtain ⟨more, t, also, further, after, beyond⟩ := simulated_step stepped sound follows far front
    refine ⟨acts ++ more, t, ?_, ?_, after, beyond⟩
    · intro act member
      exact (List.mem_append.mp member).elim (here act) (also act)
    · rw [run_append _ _ acts more went]
      exact further
  have initial : holds (start bufferedAmount) := by
    refine ⟨Pair.sound_start _, fun _ => Follows.reaches ?_ (List.append_nil _).symm⟩
    refine ⟨handler, alive, (List.append_nil _).symm, ⟨.reading, rfl, reader⟩, rfl, Nat.zero_le 1, ⟨0, rfl, arriving⟩, ?_, ?_⟩
    · simp [start, Pair.start]
    · rintro _ ⟨⟩
  obtain ⟨acts, t, here, went, follows, far⟩ :=
    (run_preserves preserved _ x moves initial ran).2 (List.prefix_append _ _)
  exact ⟨acts, t, here, went, follows.received, far, follows.closed, follows.written⟩

end Simulation

/-- A stream between two bridges of which the other one has read the messages. -/
def supplied (messages : List Bytes) : Stream where
  connect := .done
  expose := .done
  signaled := false
  ends
    | .connect => { End.fresh with handler := some .forward, reader := .reading, arriving := messages }
    | .expose => { End.fresh with received := messages.flatten }

structure Supplied (messages : List Bytes) (s : Stream) : Prop where
  connect : s.connect = .done
  expose : s.expose = .done
  handler : (s.ends .connect).handler = some .forward
  reader : (s.ends .expose).reader = .off
  received : (s.ends .expose).received = messages.flatten
  flows : s.Flows .connect

theorem supplied_start (messages : List Bytes) : Supplied messages (supplied messages) :=
  ⟨rfl, rfl, rfl, rfl, rfl, [], .of_eq (List.append_nil _), .of_eq _ _⟩

theorem Supplied.step {messages : List Bytes} {socks5 : Bool} {s t : Stream} {act : Act} (inv : Supplied messages s)
    (stepped : s.step socks5 act = some t) : Supplied messages t := by
  have connects : ∀ stage e, ¬ Stream.ConnectNext socks5 s.signaled s.connect (s.ends .connect) stage e := by
    intro stage e next
    rw [inv.connect] at next
    cases next
  have exposes : ∀ stage e, ¬ Stream.ExposeNext socks5 s.expose (s.ends .expose) stage e := by
    intro stage e next
    rw [inv.expose] at next
    rcases next with _ | _ | ⟨_, early⟩ | _ | _
    simp at early
  have signals : s.expose ≠ .signaling := by
    rw [inv.expose]
    decide
  have flows : t.Flows .connect := by
    refine inv.flows.step ?_ stepped (fun stage e next => absurd next (connects stage e))
      (fun stage e next => absurd next (exposes stage e)) fun signaling => absurd signaling signals
    rintro wrote rfl
    exact .inl inv.handler
  cases Stream.step_effect stepped with
  | connects _ _ stage e next => exact absurd next (connects stage e)
  | exposes _ stage e next => exact absurd next (exposes stage e)
  | signals _ signaling => exact absurd signaling signals
  | reads here chunk reading =>
    cases here with
    | connect => exact ⟨inv.connect, inv.expose, inv.handler, inv.reader, inv.received, flows⟩
    | expose => cases inv.reader.symm.trans reading
  | sends here chunk sending =>
    cases here with
    | connect => exact ⟨inv.connect, inv.expose, inv.handler, inv.reader, inv.received, flows⟩
    | expose => cases inv.reader.symm.trans sending
  | stops _ here running =>
    cases here with
    | connect => exact ⟨inv.connect, inv.expose, inv.handler, inv.reader, inv.received, flows⟩
    | expose => exact absurd inv.reader running
  | discards here | closes here =>
    cases here <;> exact ⟨inv.connect, inv.expose, inv.handler, inv.reader, inv.received, flows⟩
  | forwards here wrote message =>
    cases here with
    | connect =>
      refine ⟨inv.connect, inv.expose, ?_, inv.reader, inv.received, flows⟩
      rw [Stream.set_same, End.forward_handler]
      exact inv.handler
    | expose =>
      refine ⟨inv.connect, inv.expose, inv.handler, ?_, ?_, flows⟩
      · rw [Stream.set_same, End.forward_reader]
        exact inv.reader
      · rw [Stream.set_same, End.forward_received]
        exact inv.received

/-- So the results on streams hold of the goroutines: what is written to a connection is the beginning of the messages
    that the bridge was given, in their order. -/
theorem written_in_order {bufferedAmount : Nat} {moves : List (PairMove × Bytes)} {x : Attached}
    (ran : run step (start bufferedAmount) moves = some x) : x.pair.written <+: x.delivered.flatten := by
  have lost : x.step (.loseConn, []) = some (x.follow { x.pair with connClosed := true }) := rfl
  obtain ⟨acts, t, _, went, _, _, _, written⟩ := attached_refines false .connect (supplied x.delivered) []
    (run_snoc _ _ _ moves _ ran lost) rfl rfl rfl (List.append_nil _).symm
  have inv : Supplied x.delivered t :=
    run_preserves (fun _ _ _ before stepped => before.step stepped) _ t acts (supplied_start _) went
  -- once the connection is closed the stream has written what the bridge has
  have same : x.pair.written = (t.ends .connect).written := written.trans (List.append_nil _)
  rw [same, ← inv.received]
  exact inv.flows.front

end Attached

end Rtc2Tcp.Tunnel

import Rtc2Tcp.Lib.Tally
import Rtc2Tcp.Tunnel.Backpressure

namespace Rtc2Tcp.Tunnel

open Octets Transition Tally

/-- How far the function under `closeOnce` has come: what it closes next. -/
inductive Closing where
  | idle
  | conn
  | dc
  | done
  | finished
deriving DecidableEq, Repr

/-- Where the reading goroutine or a callback stands. `closed` is the return from `closeAll`. -/
inductive BridgePc where
  | reading
  | sending (n : Nat) (err : Bool)
  | checking (err : Bool)
  | waiting (err : Bool)
  | writing (data : Bytes)
  | draining
  | entering
  | closing
  | closed
  | returned
deriving DecidableEq, Repr

/-- `written` is what the `OnMessage` callbacks have written to the connection. The reading goroutine is the first of the
    threads. -/
structure Pair where
  connClosed : Bool
  dcClosed : Bool
  done : Bool
  closing : Closing
  bufferedAmount : Nat
  drain : Bool
  due : Nat
  written : Bytes
  threads : List BridgePc
  panicked : Bool
deriving DecidableEq, Repr

/-- What the surroundings decide for one step: what a read returns, whether a send or a write succeeds and how much of it
    gets through, and which ready case of the `select` is taken. -/
structure BridgeTurn where
  n : Nat := 0
  err : Bool := false
  ok : Bool := true
  wrote : Nat := 0
  stop : Bool := false
deriving DecidableEq, Repr

/-- A step of a thread, a callback, bytes that the transport sends, or another owner that closes an end. -/
inductive PairMove where
  | run (i : Nat) (turn : BridgeTurn)
  | message (data : Bytes)
  | failure
  | bufferedAmountLow
  | transmit (n : Nat)
  | loseConn
  | loseDC
deriving DecidableEq, Repr

def BridgePc.afterChunk (err : Bool) : BridgePc := if err then entering else reading

namespace Pair

def start (bufferedAmount : Nat) : Pair where
  connClosed := false
  dcClosed := false
  done := false
  closing := .idle
  bufferedAmount := bufferedAmount
  drain := false
  due := 0
  written := []
  threads := [.reading]
  panicked := false

def advance (s : Pair) (x : BridgeTurn) : BridgePc → Option (Pair × BridgePc)
  | .reading =>
    if s.connClosed then some (s, .entering)
    else if x.n ≤ maxChunkSize then some (s, if 0 < x.n then .sending x.n x.err else .afterChunk x.err)
    else none
  | .sending n err =>
    if !x.ok then some (s, .entering)
    else if s.dcClosed then none
    else some ({ s with bufferedAmount := s.bufferedAmount + n }, .checking err)
  | .checking err =>
    some (s, if bufferedAmountHighThreshold < s.bufferedAmount then .waiting err else .afterChunk err)
  | .waiting err =>
    if x.stop then if s.done then some (s, .returned) else none
    else if s.drain then some ({ s with drain := false }, .checking err)
    else none
  | .writing data =>
    if !x.ok then some ({ s with written := s.written ++ data.take x.wrote }, .entering)
    else if s.connClosed then none
    else some ({ s with written := s.written ++ data }, .returned)
  | .draining => some ({ s with drain := true }, .returned)
  | .entering =>
    match s.closing with
    | .idle => some ({ s with closing := .conn }, .closing)
    | .finished => some (s, .closed)
    | _ => none
  | .closing =>
    match s.closing with
    | .conn => some ({ s with connClosed := true, closing := .dc }, .closing)
    | .dc => some ({ s with dcClosed := true, closing := .done }, .closing)
    | .done =>
      -- closing a closed channel panics
      if s.done then some ({ s with panicked := true }, .closing)
      else some ({ s with done := true, closing := .finished }, .closed)
    | _ => none
  | .closed | .returned => none

def spawn (s : Pair) (pc : BridgePc) : Pair := { s with threads := s.threads ++ [pc] }

def step (s : Pair) : PairMove → Option Pair
  | .run i x =>
    s.threads[i]?.bind fun pc => (s.advance x pc).map fun (t, next) => { t with threads := t.threads.set i next }
  | .message data => some (s.spawn (if data = [] then .returned else .writing data))
  | .failure => some (s.spawn .entering)
  | .bufferedAmountLow => if 0 < s.due then some ({ s with due := s.due - 1 }.spawn .draining) else none
  | .transmit n =>
    if n ≤ s.bufferedAmount then
      let left := s.bufferedAmount - n
      if bufferedAmountLowThreshold < s.bufferedAmount ∧ left ≤ bufferedAmountLowThreshold then
        some { s with bufferedAmount := left, due := s.due + 1 }
      else some { s with bufferedAmount := left }
    else none
  | .loseConn => some { s with connClosed := true }
  | .loseDC => some { s with dcClosed := true }

end Pair

def Closing.running : Closing → Bool
  | idle | finished => false
  | conn | dc | done => true

def BridgePc.inside (pc : BridgePc) : Nat := if pc = closing then 1 else 0

def BridgePc.Reads : BridgePc → Bool
  | writing _ | draining => false
  | _ => true

def BridgePc.Calls : BridgePc → Bool
  | writing _ | draining | entering | closing | closed | returned => true
  | _ => false

namespace Pair

inductive Advanced (s : Pair) : BridgePc → Pair → BridgePc → Prop where
  | ends (closed : s.connClosed = true) : Advanced s .reading s .entering
  | reads (n : Nat) (err : Bool) (alive : s.connClosed = false) (fits : n ≤ maxChunkSize) (some : 0 < n) :
      Advanced s .reading s (.sending n err)
  | idles (err : Bool) (alive : s.connClosed = false) : Advanced s .reading s (.afterChunk err)
  | sendFails (n : Nat) (err : Bool) : Advanced s (.sending n err) s .entering
  | sends (n : Nat) (err : Bool) (alive : s.dcClosed = false) :
      Advanced s (.sending n err) { s with bufferedAmount := s.bufferedAmount + n } (.checking err)
  | waits (err : Bool) (full : bufferedAmountHighThreshold < s.bufferedAmount) : Advanced s (.checking err) s (.waiting err)
  | passes (err : Bool) (room : s.bufferedAmount ≤ bufferedAmountHighThreshold) :
      Advanced s (.checking err) s (.afterChunk err)
  | quits (err : Bool) (done : s.done = true) : Advanced s (.waiting err) s .returned
  | wakes (err : Bool) (token : s.drain = true) : Advanced s (.waiting err) { s with drain := false } (.checking err)
  | writeFails (data : Bytes) (wrote : Nat) :
      Advanced s (.writing data) { s with written := s.written ++ data.take wrote } .entering
  | writes (data : Bytes) (alive : s.connClosed = false) :
      Advanced s (.writing data) { s with written := s.written ++ data } .returned
  | drains : Advanced s .draining { s with drain := true } .returned
  | enters (first : s.closing = .idle) : Advanced s .entering { s with closing := .conn } .closing
  | joins (finished : s.closing = .finished) : Advanced s .entering s .closed
  | closesConn (here : s.closing = .conn) : Advanced s .closing { s with connClosed := true, closing := .dc } .closing
  | closesDC (here : s.closing = .dc) : Advanced s .closing { s with dcClosed := true, closing := .done } .closing
  | closesDone (here : s.closing = .done) (alive : s.done = false) :
      Advanced s .closing { s with done := true, closing := .finished } .closed
  | panics (here : s.closing = .done) (twice : s.done = true) : Advanced s .closing { s with panicked := true } .closing

variable {s t : Pair} {pc next : BridgePc} {i : Nat}

theorem advanced_of_advance {x : BridgeTurn} (moved : s.advance x pc = some (t, next)) : Advanced s pc t next := by
  cases pc with
  | reading =>
    simp only [advance] at moved
    split at moved
    · rename_i closed
      cases moved
      exact .ends closed
    · rename_i alive
      have alive : s.connClosed = false := by simpa using alive
      split at moved
      · rename_i fits
        cases moved
        split
        · rename_i some
          exact .reads _ _ alive fits some
        · exact .idles _ alive
      · cases moved
  | sending n err =>
    simp only [advance] at moved
    split at moved
    · cases moved
      exact .sendFails n err
    · split at moved
      · cases moved
      · rename_i alive
        cases moved
        exact .sends n err (by simpa using alive)
  | checking err =>
    cases moved
    split
    · rename_i full
      exact .waits err full
    · rename_i room
      exact .passes err (Nat.le_of_not_lt room)
  | waiting err =>
    simp only [advance] at moved
    split at moved
    · split at moved
      · rename_i done
        cases moved
        exact .quits err done
      · cases moved
    · split at moved
      · rename_i token
        cases moved
        exact .wakes err token
      · cases moved
  | writing data =>
    simp only [advance] at moved
    split at moved
    · cases moved
      exact .writeFails data _
    · split at moved
      · cases moved
      · rename_i alive
        cases moved
        exact .writes data (by simpa using alive)
  | draining =>
    cases moved
    exact .drains
  | entering =>
    simp only [advance] at moved
    split at moved
    · rename_i first
      cases moved
      exact .enters first
    · rename_i finished
      cases moved
      exact .joins finished
    · cases moved
  | closing =>
    simp only [advance] at moved
    split at moved
    · rename_i here
      cases moved
      exact .closesConn here
    · rename_i here
      cases moved
      exact .closesDC here
    · rename_i here
      split at moved
      · rename_i twice
        cases moved
        exact .panics here twice
      · rename_i alive
        cases moved
        exact .closesDone here (by simpa using alive)
    · cases moved
  | closed | returned => cases moved

/-- The once and the three things it closes agree with where the threads stand. -/
structure Sound (s : Pair) : Prop where
  calm : s.panicked = false
  once : total BridgePc.inside s.threads = s.closing.running.toNat
  conn : s.closing ≠ .idle → s.closing ≠ .conn → s.connClosed = true
  dc : s.closing = .done ∨ s.closing = .finished → s.dcClosed = true
  done : s.done = decide (s.closing = .finished)
  closers : ∀ pc ∈ s.threads, pc = .closed → s.closing = .finished
  reader : ∃ pc, s.threads[0]? = some pc ∧ pc.Reads = true ∧ (pc = .returned → s.closing = .finished)
  callbacks : ∀ i pc, s.threads[i]? = some pc → i ≠ 0 → pc.Calls = true

theorem sound_start (bufferedAmount : Nat) : (start bufferedAmount).Sound where
  calm := rfl
  once := rfl
  conn := fun other => absurd rfl other
  dc := by rintro (impossible | impossible) <;> cases impossible
  done := rfl
  closers := by simp [start]
  reader := ⟨.reading, rfl, rfl, by rintro ⟨⟩⟩
  callbacks := by
    intro i pc found other
    obtain ⟨inside, _⟩ := List.getElem?_eq_some_iff.mp found
    exact absurd (Nat.lt_one_iff.mp inside) other

theorem afterChunk_cases (err : Bool) : BridgePc.afterChunk err = .entering ∨ BridgePc.afterChunk err = .reading := by
  cases err
  · exact .inr rfl
  · exact .inl rfl

theorem Advanced.threads (advanced : Advanced s pc t next) : t.threads = s.threads := by
  cases advanced <;> rfl

theorem Advanced.once (advanced : Advanced s pc t next) :
    pc.inside + t.closing.running.toNat = next.inside + s.closing.running.toNat := by
  cases advanced with
  | idles err | passes err => rcases afterChunk_cases err with next | next <;> rw [next] <;> rfl
  | enters here | closesConn here | closesDC here | closesDone here =>
    rw [here]
    rfl
  | _ => rfl

theorem Advanced.finished (advanced : Advanced s pc t next) (past : s.closing = .finished) : t.closing = .finished := by
  cases advanced with
  | enters here | closesConn here | closesDC here | closesDone here => cases past.symm.trans here
  | _ => exact past

theorem Advanced.returns (advanced : Advanced s pc t next) (sound : s.Sound)
    (ended : next = .closed ∨ pc.Reads = true ∧ next = .returned) : t.closing = .finished := by
  cases advanced with
  | joins finished => exact finished
  | closesDone => rfl
  | quits err done =>
    rw [sound.done] at done
    exact of_decide_eq_true done
  | writes | drains =>
    rcases ended with impossible | ⟨impossible, _⟩ <;> cases impossible
  | idles err | passes err =>
    rcases afterChunk_cases err with next | next <;> rw [next] at ended <;>
      rcases ended with impossible | ⟨_, impossible⟩ <;> cases impossible
  | _ => rcases ended with impossible | ⟨_, impossible⟩ <;> cases impossible

theorem Advanced.reads_kept (advanced : Advanced s pc t next) (reads : pc.Reads = true) : next.Reads = true := by
  cases advanced with
  | idles err | passes err => rcases afterChunk_cases err with next | next <;> rw [next] <;> rfl
  | writes | writeFails | drains => cases reads
  | _ => rfl

theorem Advanced.calls_kept (advanced : Advanced s pc t next) (calls : pc.Calls = true) : next.Calls = true := by
  cases advanced with
  | writes | writeFails | drains | enters | joins | closesConn | closesDC | closesDone | panics => rfl
  | _ => cases calls

theorem Advanced.closes (advanced : Advanced s pc t next) (sound : s.Sound) :
    t.panicked = false ∧ (t.closing ≠ .idle → t.closing ≠ .conn → t.connClosed = true) ∧
    (t.closing = .done ∨ t.closing = .finished → t.dcClosed = true) ∧ t.done = decide (t.closing = .finished) := by
  cases advanced with
  | enters =>
    refine ⟨sound.calm, fun _ other => absurd rfl other, ?_, ?_⟩
    · rintro (impossible | impossible) <;> cases impossible
    · rename_i first
      have done := sound.done
      rw [first] at done
      exact done
  | closesConn here =>
    refine ⟨sound.calm, fun _ _ => rfl, ?_, ?_⟩
    · rintro (impossible | impossible) <;> cases impossible
    · have done := sound.done
      rw [here] at done
      exact done
  | closesDC here =>
    refine ⟨sound.calm, fun _ _ => ?_, fun _ => rfl, ?_⟩
    · exact sound.conn (by rw [here]; rintro ⟨⟩) (by rw [here]; rintro ⟨⟩)
    · have done := sound.done
      rw [here] at done
      exact done
  | closesDone here =>
    refine ⟨sound.calm, fun _ _ => ?_, fun _ => sound.dc (.inl here), rfl⟩
    exact sound.conn (by rw [here]; rintro ⟨⟩) (by rw [here]; rintro ⟨⟩)
  | panics here twice =>
    have done := sound.done
    rw [twice, here] at done
    cases done
  | _ => exact ⟨sound.calm, sound.conn, sound.dc, sound.done⟩

theorem Sound.run (sound : s.Sound) (found : s.threads[i]? = some pc) (advanced : Advanced s pc t next) :
    { t with threads := t.threads.set i next }.Sound := by
  obtain ⟨calm, conn, dc, done⟩ := advanced.closes sound
  have threads := advanced.threads
  refine ⟨calm, ?_, conn, dc, done, ?_, ?_, ?_⟩
  · have counted : total BridgePc.inside (s.threads.set i next) + pc.inside = _ := total_set found next
    have balance := advanced.once
    have before := sound.once
    simp only [threads]
    omega
  · intro pc' member ended
    simp only [threads] at member
    rcases List.mem_or_eq_of_mem_set member with old | rfl
    · exact advanced.finished (sound.closers pc' old ended)
    · exact advanced.returns sound (.inl ended)
  · obtain ⟨first, here, reads, returned⟩ := sound.reader
    simp only [threads]
    by_cases zero : i = 0
    · subst zero
      obtain rfl : pc = first := Option.some.inj (found.symm.trans here)
      refine ⟨next, ?_, advanced.reads_kept reads, fun ended => advanced.returns sound (.inr ⟨reads, ended⟩)⟩
      rw [List.getElem?_set_self' , here]
      rfl
    · refine ⟨first, ?_, reads, fun ended => advanced.finished (returned ended)⟩
      rw [List.getElem?_set_ne zero, here]
  · intro j pc' there other
    simp only [threads] at there
    by_cases same : i = j
    · subst same
      rw [List.getElem?_set_self', found] at there
      cases there
      exact advanced.calls_kept (sound.callbacks i pc found other)
    · rw [List.getElem?_set_ne same] at there
      exact sound.callbacks j pc' there other

theorem Sound.spawn (sound : s.Sound) (pc : BridgePc) (outside : pc.inside = 0) (fresh : pc ≠ .closed)
    (calls : pc.Calls = true) : (s.spawn pc).Sound := by
  refine ⟨sound.calm, ?_, sound.conn, sound.dc, sound.done, ?_, ?_, ?_⟩
  · have counted : total BridgePc.inside (s.threads ++ [pc]) = _ := total_snoc s.threads pc
    rw [outside, sound.once] at counted
    exact counted
  · intro pc' member ended
    rcases List.mem_append.mp member with old | new
    · exact sound.closers pc' old ended
    · rw [List.mem_singleton.mp new] at ended
      exact absurd ended fresh
  · obtain ⟨first, here, rest⟩ := sound.reader
    refine ⟨first, ?_, rest⟩
    have inside : 0 < s.threads.length := (List.getElem?_eq_some_iff.mp here).1
    simp only [Pair.spawn]
    rw [List.getElem?_append_left inside, here]
  · intro i pc' found other
    simp only [Pair.spawn] at found
    rcases Nat.lt_or_ge i s.threads.length with old | new
    · rw [List.getElem?_append_left old] at found
      exact sound.callbacks i pc' found other
    · rw [List.getElem?_append_right new] at found
      obtain rfl := List.mem_singleton.mp (List.mem_of_getElem? found)
      exact calls

theorem step_run {x : BridgeTurn} (stepped : s.step (.run i x) = some t) :
    ∃ pc u next, s.threads[i]? = some pc ∧ Advanced s pc u next ∧ t = { u with threads := u.threads.set i next } := by
  obtain ⟨pc, found, stepped⟩ := Option.bind_eq_some_iff.mp stepped
  obtain ⟨⟨u, next⟩, moved, rfl⟩ := Option.map_eq_some_iff.mp stepped
  exact ⟨pc, u, next, found, advanced_of_advance moved, rfl⟩

theorem Sound.step (sound : s.Sound) {move : PairMove} (stepped : s.step move = some t) : t.Sound := by
  cases move with
  | run i x =>
    obtain ⟨pc, u, next, found, advanced, rfl⟩ := step_run stepped
    exact sound.run found advanced
  | message data =>
    cases stepped
    split
    · exact sound.spawn .returned rfl (by rintro ⟨⟩) rfl
    · exact sound.spawn (.writing data) rfl (by rintro ⟨⟩) rfl
  | failure =>
    cases stepped
    exact sound.spawn .entering rfl (by rintro ⟨⟩) rfl
  | bufferedAmountLow =>
    simp only [Pair.step] at stepped
    split at stepped
    · cases stepped
      have fewer : { s with due := s.due - 1 }.Sound :=
        ⟨sound.calm, sound.once, sound.conn, sound.dc, sound.done, sound.closers, sound.reader, sound.callbacks⟩
      exact fewer.spawn .draining rfl (by rintro ⟨⟩) rfl
    · cases stepped
  | transmit n =>
    simp only [Pair.step] at stepped
    split at stepped
    · split at stepped <;> cases stepped <;>
        exact ⟨sound.calm, sound.once, sound.conn, sound.dc, sound.done, sound.closers, sound.reader, sound.callbacks⟩
    · cases stepped
  | loseConn =>
    cases stepped
    exact ⟨sound.calm, sound.once, fun _ _ => rfl, sound.dc, sound.done, sound.closers, sound.reader, sound.callbacks⟩
  | loseDC =>
    cases stepped
    exact ⟨sound.calm, sound.once, sound.conn, fun _ => rfl, sound.done, sound.closers, sound.reader, sound.callbacks⟩

theorem sound_run {bufferedAmount : Nat} {moves : List PairMove} (ran : run step (start bufferedAmount) moves = some s) :
    s.Sound :=
  run_preserves (fun _ _ _ sound stepped => sound.step stepped) _ s moves (sound_start bufferedAmount) ran

end Pair

def BridgePc.lowering (pc : BridgePc) : Nat := if pc = draining then 1 else 0

def BridgePc.stage : BridgePc → ReaderStage
  | reading => .reading
  | sending n err => .sending n err
  | checking err => .checking err
  | waiting err => .waiting err
  | entering | closing => .failing
  | closed | returned | writing _ | draining => .returned

theorem stage_afterChunk (err : Bool) : (BridgePc.afterChunk err).stage = Bridge.afterChunk err := by
  cases err <;> rfl

namespace Pair

structure Follows (s : Pair) (b : Bridge) : Prop where
  bufferedAmount : b.bufferedAmount = s.bufferedAmount
  drain : b.drain = s.drain
  due : b.due = s.due + total BridgePc.lowering s.threads
  done : b.done = s.done
  reader : ∃ pc, s.threads[0]? = some pc ∧ b.reader = pc.stage

variable {s t : Pair} {pc next : BridgePc} {i : Nat} {b : Bridge}

theorem follows_start (bufferedAmount : Nat) : (start bufferedAmount).Follows (Bridge.start bufferedAmount) :=
  ⟨rfl, rfl, rfl, rfl, .reading, rfl, rfl⟩

theorem lowering_of_reads (reads : pc.Reads = true) : pc.lowering = 0 := by
  cases pc with
  | draining => cases reads
  | _ => rfl

theorem Advanced.due (advanced : Advanced s pc t next) : t.due = s.due := by
  cases advanced <;> rfl

theorem Follows.reads (follows : s.Follows b) (sound : s.Sound) (found : s.threads[0]? = some pc)
    (advanced : Advanced s pc t next) :
    ∃ acts c, run Bridge.step b acts = some c ∧ { t with threads := t.threads.set 0 next }.Follows c := by
  have threads := advanced.threads
  obtain ⟨first, here, reads, _⟩ := sound.reader
  obtain rfl : pc = first := Option.some.inj (found.symm.trans here)
  obtain ⟨buffered, drain, due, done, reader⟩ := b
  obtain ⟨rfl, rfl, rfl, rfl, _, there, rfl⟩ := follows
  obtain rfl := Option.some.inj (found.symm.trans there)
  have placed : (t.threads.set 0 next)[0]? = some next := by
    rw [threads, List.getElem?_set_self', found]
    rfl
  have due : s.due + total BridgePc.lowering s.threads = t.due + total BridgePc.lowering (t.threads.set 0 next) := by
    have counted : total BridgePc.lowering (s.threads.set 0 next) + pc.lowering = _ := total_set found next
    rw [lowering_of_reads reads, lowering_of_reads (advanced.reads_kept reads)] at counted
    rw [advanced.due, threads]
    omega
  cases advanced with
  | ends => exact ⟨[.read 0 true], _, rfl, rfl, rfl, due, rfl, _, placed, rfl⟩
  | reads n err alive fits some =>
    refine ⟨[.read n err], ⟨s.bufferedAmount, s.drain, _, s.done, .sending n err⟩, ?_, rfl, rfl, due, rfl, _, placed, rfl⟩
    simp [run, Bridge.step, BridgePc.stage, fits, some]
  | idles err =>
    exact ⟨[.read 0 err], _, rfl, rfl, rfl, due, rfl, _, placed, (stage_afterChunk err).symm⟩
  | sendFails n err => exact ⟨[.send false], _, rfl, rfl, rfl, due, rfl, _, placed, rfl⟩
  | sends n err => exact ⟨[.send true], _, rfl, rfl, rfl, due, rfl, _, placed, rfl⟩
  | waits err full =>
    refine ⟨[.check], ⟨s.bufferedAmount, s.drain, _, s.done, .waiting err⟩, ?_, rfl, rfl, due, rfl, _, placed, rfl⟩
    simp [run, Bridge.step, BridgePc.stage, full]
  | passes err room =>
    refine ⟨[.check], ⟨s.bufferedAmount, s.drain, _, s.done, Bridge.afterChunk err⟩, ?_, rfl, rfl, due, rfl, _, placed,
      (stage_afterChunk err).symm⟩
    simp [run, Bridge.step, BridgePc.stage, Nat.not_lt.mpr room]
  | quits err done =>
    refine ⟨[.quit], ⟨s.bufferedAmount, s.drain, _, s.done, .returned⟩, ?_, rfl, rfl, due, rfl, _, placed, rfl⟩
    simp [run, Bridge.step, BridgePc.stage, ReaderStage.isWaiting, done]
  | wakes err token =>
    refine ⟨[.wake], ⟨s.bufferedAmount, false, _, s.done, .checking err⟩, ?_, rfl, rfl, due, rfl, _, placed, rfl⟩
    simp [run, Bridge.step, BridgePc.stage, token]
  | writes | writeFails | drains => cases reads
  | enters | closesConn | closesDC => exact ⟨[], _, rfl, rfl, rfl, due, rfl, _, placed, rfl⟩
  | joins finished =>
    refine ⟨[.fail], _, rfl, rfl, rfl, due, ?_, _, placed, rfl⟩
    rw [sound.done, finished]
    rfl
  | closesDone => exact ⟨[.fail], _, rfl, rfl, rfl, due, rfl, _, placed, rfl⟩
  | panics => exact ⟨[], _, rfl, rfl, rfl, due, rfl, _, placed, rfl⟩

theorem Follows.calls (follows : s.Follows b) (sound : s.Sound) (found : s.threads[i]? = some pc) (other : i ≠ 0)
    (advanced : Advanced s pc t next) :
    ∃ acts c, run Bridge.step b acts = some c ∧ { t with threads := t.threads.set i next }.Follows c := by
  have threads := advanced.threads
  have calls := sound.callbacks i pc found other
  obtain ⟨buffered, drain, due, done, reader⟩ := b
  obtain ⟨rfl, rfl, rfl, rfl, first, here, rfl⟩ := follows
  have placed : (t.threads.set i next)[0]? = some first := by rw [threads, List.getElem?_set_ne other, here]
  have counted : total BridgePc.lowering (s.threads.set i next) + pc.lowering = _ := total_set found next
  have due : pc.lowering = 0 → next.lowering = 0 →
      s.due + total BridgePc.lowering s.threads = t.due + total BridgePc.lowering (t.threads.set i next) := by
    intro before after
    rw [before, after] at counted
    rw [advanced.due, threads]
    omega
  cases advanced with
  | writes | writeFails | enters | joins | closesConn | closesDC | panics =>
    exact ⟨[], _, rfl, rfl, rfl, due rfl rfl, rfl, _, placed, rfl⟩
  | closesDone => exact ⟨[.closeAll], _, rfl, rfl, rfl, due rfl rfl, rfl, _, placed, rfl⟩
  | drains =>
    have one : BridgePc.draining.lowering = 1 := rfl
    have none : BridgePc.returned.lowering = 0 := rfl
    rw [one, none] at counted
    refine ⟨[.bufferedAmountLow],
      ⟨s.bufferedAmount, true, s.due + total BridgePc.lowering s.threads - 1, s.done, first.stage⟩, ?_, rfl, rfl, ?_, rfl, _,
      placed, rfl⟩
    · have pending : 0 < s.due + total BridgePc.lowering s.threads := by omega
      simp [run, Bridge.step, pending]
    · show s.due + total BridgePc.lowering s.threads - 1 = s.due + total BridgePc.lowering (s.threads.set i .returned)
      omega
  | _ => cases calls

theorem Follows.spawn (follows : s.Follows b) (pc : BridgePc) (quiet : pc.lowering = 0) : (s.spawn pc).Follows b := by
  obtain ⟨first, here, stage⟩ := follows.reader
  refine ⟨follows.bufferedAmount, follows.drain, ?_, follows.done, first, ?_, stage⟩
  · have counted : total BridgePc.lowering (s.threads ++ [pc]) = _ := total_snoc s.threads pc
    rw [quiet] at counted
    rw [follows.due]
    exact congrArg (s.due + ·) counted.symm
  · have inside : 0 < s.threads.length := (List.getElem?_eq_some_iff.mp here).1
    simp only [Pair.spawn]
    rw [List.getElem?_append_left inside, here]

theorem Follows.step (follows : s.Follows b) (sound : s.Sound) {move : PairMove} (stepped : s.step move = some t) :
    ∃ acts c, run Bridge.step b acts = some c ∧ t.Follows c := by
  have idle : t.Follows b → ∃ acts c, run Bridge.step b acts = some c ∧ t.Follows c := fun still => ⟨[], b, rfl, still⟩
  cases move with
  | run i x =>
    obtain ⟨pc, u, next, found, advanced, rfl⟩ := step_run stepped
    by_cases zero : i = 0
    · subst zero
      exact follows.reads sound found advanced
    · exact follows.calls sound found zero advanced
  | message data =>
    cases stepped
    apply idle
    split
    · exact follows.spawn .returned rfl
    · exact follows.spawn (.writing data) rfl
  | failure =>
    cases stepped
    exact idle (follows.spawn .entering rfl)
  | bufferedAmountLow =>
    simp only [Pair.step] at stepped
    split at stepped
    · rename_i pending
      cases stepped
      apply idle
      obtain ⟨first, here, stage⟩ := follows.reader
      refine ⟨follows.bufferedAmount, follows.drain, ?_, follows.done, first, ?_, stage⟩
      · have counted : total BridgePc.lowering (s.threads ++ [.draining]) = _ := total_snoc s.threads .draining
        have one : BridgePc.draining.lowering = 1 := rfl
        rw [one] at counted
        rw [follows.due]
        show s.due + total BridgePc.lowering s.threads = s.due - 1 + total BridgePc.lowering (s.threads ++ [.draining])
        omega
      · have inside : 0 < s.threads.length := (List.getElem?_eq_some_iff.mp here).1
        simp only [Pair.spawn]
        rw [List.getElem?_append_left inside, here]
    · cases stepped
  | transmit n =>
    obtain ⟨buffered, drain, due, done, reader⟩ := b
    obtain ⟨rfl, rfl, rfl, rfl, first, here, rfl⟩ := follows
    simp only [Pair.step] at stepped
    split at stepped
    · rename_i fits
      refine ⟨[.transmit n], ?_⟩
      split at stepped
      · rename_i crossed
        cases stepped
        refine ⟨⟨s.bufferedAmount - n, s.drain, s.due + total BridgePc.lowering s.threads + 1, s.done, first.stage⟩,
          ?_, rfl, rfl,
          ?_, rfl, first, here, rfl⟩
        · simp [run, Bridge.step, fits, crossed]
        · show s.due + total BridgePc.lowering s.threads + 1 = s.due + 1 + total BridgePc.lowering s.threads
          omega
      · rename_i uncrossed
        cases stepped
        refine ⟨⟨s.bufferedAmount - n, s.drain, s.due + total BridgePc.lowering s.threads, s.done, first.stage⟩, ?_, rfl, rfl,
          rfl, rfl, first, here, rfl⟩
        simp only [run, Bridge.step, if_pos fits, if_neg uncrossed]
    · cases stepped
  | loseConn | loseDC =>
    cases stepped
    exact idle ⟨follows.bufferedAmount, follows.drain, follows.due, follows.done, follows.reader⟩

theorem follows_run {bufferedAmount : Nat} {moves : List PairMove} (ran : run step (start bufferedAmount) moves = some s) :
    ∃ acts b, run Bridge.step (Bridge.start bufferedAmount) acts = some b ∧ s.Follows b := by
  let holds (u : Pair) : Prop := u.Sound ∧ ∃ acts b, run Bridge.step (Bridge.start bufferedAmount) acts = some b ∧ u.Follows b
  have preserved : ∀ u move v, holds u → step u move = some v → holds v := by
    rintro u move v ⟨sound, acts, b, reached, follows⟩ stepped
    obtain ⟨more, c, went, follows⟩ := follows.step sound stepped
    refine ⟨sound.step stepped, acts ++ more, c, ?_, follows⟩
    rw [run_append _ _ acts more reached, went]
  have initial : holds (start bufferedAmount) := ⟨sound_start _, [], _, rfl, follows_start bufferedAmount⟩
  exact (run_preserves preserved _ s moves initial ran).2

end Pair

namespace Bridge

/-- The goroutine sends only when there is room, and then no more than a chunk. -/
structure Bounded (b : Bridge) : Prop where
  buffered : b.bufferedAmount ≤ bufferedAmountHighThreshold + maxChunkSize
  reading : b.reader = .reading → b.bufferedAmount ≤ bufferedAmountHighThreshold
  sending : ∀ n err, b.reader = .sending n err → n ≤ maxChunkSize ∧ b.bufferedAmount ≤ bufferedAmountHighThreshold

theorem Bounded.shrinks {b c : Bridge} (bounded : b.Bounded) (fewer : c.bufferedAmount ≤ b.bufferedAmount)
    (reader : c.reader = b.reader) : c.Bounded := by
  refine ⟨Nat.le_trans fewer bounded.buffered, ?_, ?_⟩
  · intro here
    exact Nat.le_trans fewer (bounded.reading (reader.symm.trans here))
  · intro n err here
    obtain ⟨fits, room⟩ := bounded.sending n err (reader.symm.trans here)
    exact ⟨fits, Nat.le_trans fewer room⟩

theorem Bounded.rests {b c : Bridge} (bounded : b.Bounded) (same : c.bufferedAmount = b.bufferedAmount)
    (busy : c.reader ≠ .reading) (idle : ∀ n err, c.reader ≠ .sending n err) : c.Bounded :=
  ⟨same ▸ bounded.buffered, fun here => absurd here busy, fun n err here => absurd here (idle n err)⟩

theorem Bounded.afterChunk {b c : Bridge} (bounded : b.Bounded) (room : b.bufferedAmount ≤ bufferedAmountHighThreshold)
    (same : c.bufferedAmount = b.bufferedAmount) (err : Bool) (reader : c.reader = Bridge.afterChunk err) : c.Bounded := by
  refine ⟨same ▸ bounded.buffered, fun _ => same ▸ room, ?_⟩
  intro n err' here
  rw [reader] at here
  cases err <;> cases here

theorem Bounded.step {b c : Bridge} {a : BridgeAct} (bounded : b.Bounded) (stepped : b.step a = some c) : c.Bounded := by
  cases a with
  | read n err =>
    simp only [Bridge.step] at stepped
    split at stepped
    · rename_i ready
      have room := bounded.reading ready.1
      cases stepped
      by_cases some : 0 < n
      · refine ⟨bounded.buffered, fun _ => room, ?_⟩
        intro n' err' here
        simp only [if_pos some] at here
        cases here
        exact ⟨ready.2, room⟩
      · exact bounded.afterChunk room rfl err (if_neg some)
    · cases stepped
  | send ok =>
    simp only [Bridge.step] at stepped
    split at stepped
    · rename_i n err here
      obtain ⟨fits, room⟩ := bounded.sending n err here
      split at stepped <;> cases stepped
      · exact ⟨Nat.add_le_add room fits, by rintro ⟨⟩, by rintro _ _ ⟨⟩⟩
      · exact bounded.rests rfl (by rintro ⟨⟩) (by rintro _ _ ⟨⟩)
    · cases stepped
  | check =>
    simp only [Bridge.step] at stepped
    split at stepped
    · rename_i err here
      cases stepped
      by_cases full : bufferedAmountHighThreshold < b.bufferedAmount
      · simp only [if_pos full]
        exact bounded.rests rfl (by rintro ⟨⟩) (by rintro _ _ ⟨⟩)
      · exact bounded.afterChunk (Nat.le_of_not_lt full) rfl err (if_neg full)
    · cases stepped
  | wake =>
    simp only [Bridge.step] at stepped
    split at stepped
    · split at stepped <;> cases stepped
      exact bounded.rests rfl (by rintro ⟨⟩) (by rintro _ _ ⟨⟩)
    · cases stepped
  | quit | fail =>
    simp only [Bridge.step] at stepped
    split at stepped <;> cases stepped
    exact bounded.rests rfl (by rintro ⟨⟩) (by rintro _ _ ⟨⟩)
  | transmit n =>
    simp only [Bridge.step] at stepped
    split at stepped
    · split at stepped <;> cases stepped <;> exact bounded.shrinks (Nat.sub_le _ _) rfl
    · cases stepped
  | bufferedAmountLow =>
    simp only [Bridge.step] at stepped
    split at stepped <;> cases stepped
    exact bounded.shrinks (Nat.le_refl _) rfl
  | closeAll =>
    cases stepped
    exact bounded.shrinks (Nat.le_refl _) rfl

theorem bounded_run {queued : Nat} (small : queued ≤ bufferedAmountHighThreshold) {acts : List BridgeAct} {b : Bridge}
    (ran : run step (start queued) acts = some b) : b.Bounded := by
  have initial : (start queued).Bounded :=
    ⟨Nat.le_trans small (Nat.le_add_right _ _), fun _ => small, by rintro _ _ ⟨⟩⟩
  exact run_preserves (fun _ _ _ bounded stepped => bounded.step stepped) _ b acts initial ran

end Bridge

/-- How many steps a thread has left at most, once everything is closed. -/
def BridgePc.rank : BridgePc → Nat
  | closed | returned => 0
  | entering | closing => 1
  | reading | sending _ _ | writing _ => 2
  | waiting _ | draining => 3
  | checking _ => 4

theorem BridgePc.rank_le (pc : BridgePc) : pc.rank ≤ 4 := by
  cases pc <;> simp [BridgePc.rank]

namespace Pair

variable {s t : Pair} {pc next : BridgePc} {i : Nat}

/-- A token counts for the step it lets a waiting reader take. -/
def rank (s : Pair) : Nat := total BridgePc.rank s.threads + 2 * s.drain.toNat

theorem Advanced.lowers (advanced : Advanced s pc t next) (sound : s.Sound) (past : s.closing = .finished) :
    next.rank + 2 * t.drain.toNat < pc.rank + 2 * s.drain.toNat := by
  have conn : s.connClosed = true := sound.conn (by rw [past]; rintro ⟨⟩) (by rw [past]; rintro ⟨⟩)
  have dc := sound.dc (.inr past)
  cases advanced with
  | reads _ _ alive | idles _ alive | writes _ alive => cases conn.symm.trans alive
  | sends _ _ alive => cases dc.symm.trans alive
  | enters here | closesConn here | closesDC here | closesDone here | panics here => cases past.symm.trans here
  | passes err => rcases afterChunk_cases err with next | next <;> rw [next] <;> simp [BridgePc.rank]
  | wakes err token => simp [BridgePc.rank, token]
  | drains => cases s.drain <;> simp [BridgePc.rank]
  | _ => simp [BridgePc.rank]

theorem rank_lowers (sound : s.Sound) (past : s.closing = .finished) {x : BridgeTurn}
    (stepped : s.step (.run i x) = some t) : t.closing = .finished ∧ t.rank < s.rank := by
  obtain ⟨pc, u, next, found, advanced, rfl⟩ := step_run stepped
  refine ⟨advanced.finished past, ?_⟩
  have counted : total BridgePc.rank (s.threads.set i next) + pc.rank = _ := total_set found next
  have lower := advanced.lowers sound past
  show total BridgePc.rank (u.threads.set i next) + 2 * u.drain.toNat < total BridgePc.rank s.threads + 2 * s.drain.toNat
  rw [advanced.threads]
  omega

theorem ended_of_stuck (sound : s.Sound) (past : s.closing = .finished) (found : s.threads[i]? = some pc)
    (stuck : ∀ x, s.step (.run i x) = none) : pc = .closed ∨ pc = .returned := by
  have done : s.done = true := by rw [sound.done, past]; rfl
  have conn : s.connClosed = true := sound.conn (by rw [past]; rintro ⟨⟩) (by rw [past]; rintro ⟨⟩)
  have blocked : ∀ x, s.advance x pc = none := by
    intro x
    have still := stuck x
    rw [Pair.step, found] at still
    exact Option.map_eq_none_iff.mp still
  cases pc with
  | closed => exact .inl rfl
  | returned => exact .inr rfl
  | reading =>
    have moves := blocked {}
    simp [advance, conn] at moves
  | sending n err | writing data => cases blocked { ok := false }
  | checking err | draining => cases blocked {}
  | waiting err =>
    have moves := blocked { stop := true }
    simp [advance, done] at moves
  | entering =>
    have moves := blocked {}
    simp [advance, past] at moves
  | closing =>
    have most : BridgePc.closing.inside ≤ _ := weight_le_total found
    rw [sound.once, past] at most
    exact absurd most (by decide)

/-- Whoever comes to close the pair can go on, or another one inside the once can. -/
theorem closer_moves (sound : s.Sound) (unfinished : s.closing ≠ .finished) (found : s.threads[i]? = some pc)
    (closes : pc = .entering ∨ pc = .closing) :
    ∃ (j : Nat) (other : BridgePc), s.threads[j]? = some other ∧ (other = .entering ∨ other = .closing) ∧
      s.step (.run j {}) ≠ none := by
  have inside : ∀ j, s.threads[j]? = some .closing → s.step (.run j {}) ≠ none := by
    intro j there
    have most : BridgePc.closing.inside ≤ _ := weight_le_total there
    rw [sound.once] at most
    rw [Pair.step, there]
    cases here : s.closing with
    | idle | finished =>
      rw [here] at most
      exact absurd most (by decide)
    | conn | dc => simp [advance, here]
    | done =>
      simp only [Option.bind_some, advance, here]
      split <;> simp
  rcases closes with rfl | rfl
  · cases here : s.closing with
    | idle =>
      refine ⟨i, .entering, found, .inl rfl, ?_⟩
      rw [Pair.step, found]
      simp [advance, here]
    | finished => exact absurd here unfinished
    | conn | dc | done =>
      have counted := sound.once
      rw [here] at counted
      obtain ⟨j, other, there, heavy⟩ := exists_of_total_pos (counted ▸ Nat.one_pos : 0 < total BridgePc.inside s.threads)
      have same : other = .closing := by
        by_contra elsewhere
        exact absurd heavy (by simp [BridgePc.inside, elsewhere])
      subst same
      exact ⟨j, .closing, there, .inr rfl, inside j there⟩
  · exact ⟨i, .closing, found, .inr rfl, inside i found⟩

/-- With `closeAll` and the low callbacks taken as one step each, the bridge is the one of the two thresholds, so that a
    reader that waits has something to wait for: bytes to be sent, a callback to come or running, or a token. -/
theorem bridge_refines (bufferedAmount : Nat) (moves : List PairMove) (s : Pair)
    (ran : run step (start bufferedAmount) moves = some s) :
    (∃ acts b, run Bridge.step (Bridge.start bufferedAmount) acts = some b ∧ s.Follows b) ∧
    ∀ err, s.threads[0]? = some (.waiting err) → s.done = false →
      bufferedAmountLowThreshold < s.bufferedAmount ∨ 0 < s.due ∨ .draining ∈ s.threads ∨ s.drain = true := by
  obtain ⟨acts, b, reached, follows⟩ := follows_run ran
  refine ⟨⟨acts, b, reached, follows⟩, ?_⟩
  intro err here running
  have attended := Bridge.attended_run bufferedAmount acts b reached
  obtain ⟨pc, there, stage⟩ := follows.reader
  obtain rfl := Option.some.inj (here.symm.trans there)
  have waits : b.reader.isWaiting = true := by rw [stage]; rfl
  have something := attended waits (follows.done.trans running)
  rw [follows.bufferedAmount, follows.due, follows.drain] at something
  rcases something with queued | pending | token
  · exact .inl queued
  · by_cases fired : 0 < s.due
    · exact .inr (.inl fired)
    · obtain ⟨i, other, found, lowering⟩ :=
        exists_of_total_pos (by omega : 0 < total BridgePc.lowering s.threads)
      have same : other = .draining := by
        by_contra elsewhere
        exact absurd lowering (by simp [BridgePc.lowering, elsewhere])
      exact .inr (.inr (.inl (same ▸ List.mem_of_getElem? found)))
  · exact .inr (.inr (.inr token))

def filledMoves : List PairMove :=
  [.run 0 { n := 1 }, .run 0 {}, .run 0 {}, .transmit bufferedAmountHighThreshold, .bufferedAmountLow]

theorem bridge_refines_filled :
    ∃ s, run step (start bufferedAmountHighThreshold) filledMoves = some s ∧ s.threads = [.waiting false, .draining] ∧
      ∃ acts b, run Bridge.step (Bridge.start bufferedAmountHighThreshold) acts = some b ∧ s.Follows b := by
  have ended : (run step (start bufferedAmountHighThreshold) filledMoves).map (fun s => s.threads) =
      some [.waiting false, .draining] := by decide +kernel
  obtain ⟨s, ran, threads⟩ := Option.map_eq_some_iff.mp ended
  exact ⟨s, ran, threads, (bridge_refines bufferedAmountHighThreshold filledMoves s ran).1⟩

/-- The two ends are closed together. In every run nothing is closed twice; once a call of `closeAll` has returned, or the
    reading goroutine has ended for any reason, the connection, the data channel and `done` are closed; and
    never is more than a chunk over the high threshold buffered, unless more was from the start. -/
theorem ends_closed_together (bufferedAmount : Nat) (moves : List PairMove) (s : Pair)
    (ran : run step (start bufferedAmount) moves = some s) :
    s.panicked = false ∧
    ((.closed ∈ s.threads ∨ s.threads[0]? = some .returned) → s.done = true) ∧
    (s.done = true → s.connClosed = true ∧ s.dcClosed = true) ∧
    (∀ (i j : Nat), s.threads[i]? = some .closing → s.threads[j]? = some .closing → i = j) ∧
    (bufferedAmount ≤ bufferedAmountHighThreshold → s.bufferedAmount ≤ bufferedAmountHighThreshold + maxChunkSize) := by
  have sound := sound_run ran
  have finished : s.done = true ↔ s.closing = .finished := by rw [sound.done, decide_eq_true_eq]
  refine ⟨sound.calm, ?_, ?_, ?_, ?_⟩
  · rw [finished]
    rintro (member | ended)
    · exact sound.closers _ member rfl
    · obtain ⟨pc, here, _, returned⟩ := sound.reader
      exact returned (Option.some.inj (here.symm.trans ended))
  · rw [finished]
    intro past
    exact ⟨sound.conn (by rw [past]; rintro ⟨⟩) (by rw [past]; rintro ⟨⟩), sound.dc (.inr past)⟩
  · intro i j here there
    by_contra distinct
    have both : BridgePc.closing.inside + BridgePc.closing.inside ≤ _ := weights_le_total here there distinct
    have one : s.closing.running.toNat ≤ 1 := Bool.toNat_le _
    have two : BridgePc.closing.inside = 1 := rfl
    rw [sound.once] at both
    omega
  · intro small
    obtain ⟨acts, b, reached, follows⟩ := follows_run ran
    rw [← follows.bufferedAmount]
    exact (Bridge.bounded_run small reached).buffered

def tornMoves : List PairMove :=
  [.run 0 { n := 4 }, .message [0x2a], .failure, .run 1 { ok := false }, .run 2 {}, .run 2 {}, .run 0 {}, .run 2 {}, .run 2 {},
    .run 1 {}]

theorem ends_closed_together_torn :
    ∃ s, run step (start 1) tornMoves = some s ∧ s.threads = [.checking false, .closed, .closed] ∧
      s.done = true ∧ s.connClosed = true ∧ s.dcClosed = true ∧
      s.bufferedAmount ≤ bufferedAmountHighThreshold + maxChunkSize := by
  have ended : (run step (start 1) tornMoves).map (fun s => s.threads) = some [.checking false, .closed, .closed] := by
    decide +kernel
  obtain ⟨s, ran, threads⟩ := Option.map_eq_some_iff.mp ended
  obtain ⟨_, returned, closed, _, bounded⟩ := ends_closed_together 1 tornMoves s ran
  have done := returned (.inl (by rw [threads]; simp))
  exact ⟨s, ran, threads, done, (closed done).1, (closed done).2, bounded (by decide)⟩

/-- A bridge that is to close does so, and leaves no goroutine behind: until `done` is closed someone in `closeAll` can
    go on, and from then on every thread ends after a bounded number of steps. -/
theorem teardown_terminates (bufferedAmount : Nat) (moves : List PairMove) (s : Pair)
    (ran : run step (start bufferedAmount) moves = some s) :
    ((∃ pc ∈ s.threads, pc = .entering ∨ pc = .closing) → s.done = false →
      ∃ (i : Nat) (pc : BridgePc), s.threads[i]? = some pc ∧ (pc = .entering ∨ pc = .closing) ∧ s.step (.run i {}) ≠ none) ∧
    (s.done = true → ∀ more t, (∀ move ∈ more, ∃ i x, move = .run i x) → run step s more = some t →
      more.length ≤ 4 * s.threads.length + 2 ∧
      ((∀ i x, t.step (.run i x) = none) → ∀ pc ∈ t.threads, pc = .closed ∨ pc = .returned)) := by
  have sound := sound_run ran
  constructor
  · rintro ⟨pc, member, closes⟩ open'
    obtain ⟨i, found⟩ := List.mem_iff_getElem?.mp member
    have unfinished : s.closing ≠ .finished := by
      intro past
      rw [sound.done, past] at open'
      cases open'
    exact closer_moves sound unfinished found closes
  · intro done more t own went
    have past : s.closing = .finished := by
      rw [sound.done] at done
      exact of_decide_eq_true done
    have lowers : ∀ (u : Pair) (move : PairMove) (v : Pair), u.Sound ∧ u.closing = .finished →
        (∃ i x, move = .run i x) → u.step move = some v → (v.Sound ∧ v.closing = .finished) ∧ v.rank < u.rank := by
      rintro u _ v ⟨sound, past⟩ ⟨i, x, rfl⟩ stepped
      obtain ⟨still, lower⟩ := rank_lowers sound past stepped
      exact ⟨⟨sound.step stepped, still⟩, lower⟩
    obtain ⟨⟨sound', past'⟩, bound⟩ := run_length_le rank lowers s t more ⟨sound, past⟩ own went
    constructor
    · have most : total BridgePc.rank s.threads ≤ 4 * s.threads.length := total_le 4 fun pc _ => pc.rank_le
      have token : s.drain.toNat ≤ 1 := Bool.toNat_le _
      unfold rank at bound
      omega
    · intro stuck pc member
      obtain ⟨i, found⟩ := List.mem_iff_getElem?.mp member
      exact ended_of_stuck sound' past' found (stuck i)

theorem teardown_terminates_torn :
    ∃ s, run step (start 1) tornMoves = some s ∧
      ∀ more t, (∀ move ∈ more, ∃ i x, move = .run i x) → run step s more = some t → more.length ≤ 14 := by
  have ended : (run step (start 1) tornMoves).map (fun s => (s.done, s.threads.length)) = some (true, 3) := by decide +kernel
  obtain ⟨s, ran, view⟩ := Option.map_eq_some_iff.mp ended
  obtain ⟨done, three⟩ := Prod.mk.inj view
  refine ⟨s, ran, ?_⟩
  intro more t own went
  have bound := ((teardown_terminates 1 tornMoves s ran).2 done more t own went).1
  rwa [three] at bound

end Pair

end Rtc2Tcp.Tunnel

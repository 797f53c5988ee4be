import Rtc2Tcp.Go.IP
import Rtc2Tcp.Lib.Tally
import Rtc2Tcp.Peer.Network

namespace Rtc2Tcp.Peer

open Octets Go Signaling Rendezvous Transition Tally

/-- A frame for the connection; `control` is the ping of the WebSocket protocol. -/
inductive Outgoing where
  | data (message : Message)
  | control
deriving DecidableEq, Repr

inductive Role where
  | readLoop
  | pingLoop
  | appPingLoop
  | send
  | close
deriving DecidableEq, Repr

def Role.IsWorker (role : Role) : Bool := role = .readLoop || role = .pingLoop || role = .appPingLoop

/-- Where a goroutine stands. -/
inductive Pc where
  | checking
  | reading
  | reporting (reason : Bytes)
  | pushing (message : Message)
  | ticking
  | locking (frame : Outgoing)
  | writing (frame : Outgoing)
  | unlocking (ok : Bool)
  | closingEvents
  | leaving
  | entering
  | closingDone
  | closingConn
  | waiting
  | returned (ok : Bool)
deriving DecidableEq, Repr

structure Thread where
  role : Role
  pc : Pc
deriving DecidableEq, Repr

structure Attempt where
  role : Role
  frame : Outgoing
  ok : Bool
deriving DecidableEq, Repr

inductive Once where
  | fresh
  | running
  | finished
deriving DecidableEq, Repr

/-- The goroutines of `signaling.Client`. Each step is one operation on the connection, a channel, the mutex, the once
    or the wait group. `read` and `tried` record what `readLoop` has read and what the goroutines have tried to write. -/
structure Workers where
  done : Bool
  connClosed : Bool
  closeMu : Once
  writeMu : Bool
  workers : Nat
  pushed : List Message
  taken : Nat
  eventsClosed : Bool
  seq : UInt64
  threads : List Thread
  panicked : Bool
  read : List Message
  tried : List Attempt
deriving DecidableEq, Repr

inductive Received where
  | message (m : Message)
  | failed (normal : Bool) (reason : Bytes)
deriving DecidableEq, Repr

/-- What the surroundings decide for one step: which ready case of a `select` is taken, what a read returns, and
    whether a write succeeds. -/
structure Turn where
  stop : Bool := false
  received : Option Received := none
  ok : Bool := true
deriving DecidableEq, Repr

inductive Call where
  | register (payload : Register)
  | signal (payload : Signal)
deriving DecidableEq, Repr

def Call.message : Call → Message
  | register payload => { type := .register, register := some payload }
  | signal payload => signalMessage payload

inductive WorkerMove where
  | send (call : Call)
  | close
  | run (i : Nat) (turn : Turn)
  | take
deriving DecidableEq, Repr

def appPing (seq : UInt64) : Message := { type := .ping, ping := some (decimal seq.toNat) }

def brokerRead (reason : Bytes) : Message := brokerError (text "broker-read") reason

namespace Workers

def dialled : Workers where
  done := false
  connClosed := false
  closeMu := .fresh
  writeMu := false
  workers := 3
  pushed := []
  taken := 0
  eventsClosed := false
  seq := 0
  threads := [⟨.readLoop, .checking⟩, ⟨.pingLoop, .ticking⟩, ⟨.appPingLoop, .ticking⟩]
  panicked := false
  read := []
  tried := []

def Room (s : Workers) : Prop := s.pushed.length < s.taken + Client.eventsCapacity

instance (s : Workers) : Decidable s.Room := inferInstanceAs (Decidable (_ < _))

def panic (s : Workers) : Workers := { s with panicked := true }

/-- A message on `c.events`, which panics once the channel is closed. -/
def push (s : Workers) (m : Message) : Workers :=
  if s.eventsClosed then s.panic else { s with pushed := s.pushed ++ [m] }

/-- What `readLoop` does with a message. -/
def dispatch (m : Message) : Pc :=
  match m.type with
  | .ping => .locking (.data (pongMessage (m.ping.getD [])))
  | .pong => .checking
  | _ => .pushing m

def released (role : Role) (ok : Bool) : Pc :=
  match role with
  | .readLoop => .checking
  | .pingLoop | .appPingLoop => if ok then .ticking else .leaving
  | .send | .close => .returned ok

def advance (s : Workers) (role : Role) (x : Turn) : Pc → Option (Workers × Pc)
  | .checking => some (s, if s.done then .closingEvents else .reading)
  | .reading =>
    match x.received with
    | none => none
    | some (.failed normal reason) => some (s, if normal then .closingEvents else .reporting reason)
    | some (.message m) => some ({ s with read := s.read ++ [m] }, dispatch m)
  | .reporting reason =>
    if s.eventsClosed ∨ s.Room then some (s.push (brokerRead reason), .closingEvents) else some (s, .closingEvents)
  | .pushing m =>
    if x.stop then if s.done then some (s, .closingEvents) else none
    else if s.eventsClosed ∨ s.Room then some (s.push m, .checking) else none
  | .ticking =>
    if x.stop then if s.done then some (s, .leaving) else none
    else
      match role with
      | .appPingLoop => some ({ s with seq := s.seq + 1 }, .locking (.data (appPing (s.seq + 1))))
      | _ => some (s, .locking .control)
  | .locking frame => if s.writeMu then none else some ({ s with writeMu := true }, .writing frame)
  | .writing frame =>
    if s.connClosed ∧ x.ok then none
    else some ({ s with tried := s.tried ++ [⟨role, frame, x.ok⟩] }, .unlocking x.ok)
  | .unlocking ok =>
    if s.writeMu then some ({ s with writeMu := false }, released role ok) else some (s.panic, .unlocking ok)
  | .closingEvents =>
    if s.eventsClosed then some (s.panic, .closingEvents) else some ({ s with eventsClosed := true }, .leaving)
  | .leaving =>
    if s.workers = 0 then some (s.panic, .leaving) else some ({ s with workers := s.workers - 1 }, .returned true)
  | .entering =>
    match s.closeMu with
    | .fresh => some ({ s with closeMu := .running }, .closingDone)
    | .running => none
    | .finished => some (s, .waiting)
  | .closingDone => if s.done then some (s.panic, .closingDone) else some ({ s with done := true }, .closingConn)
  | .closingConn => some ({ s with connClosed := true, closeMu := .finished }, .waiting)
  | .waiting => if s.workers = 0 then some (s, .returned true) else none
  | .returned _ => none

def step (s : Workers) : WorkerMove → Option Workers
  | .send call => some { s with threads := s.threads ++ [⟨.send, .locking (.data call.message)⟩] }
  | .close => some { s with threads := s.threads ++ [⟨.close, .entering⟩] }
  | .run i x =>
    s.threads[i]?.bind fun thread =>
      (s.advance thread.role x thread.pc).map fun (t, pc) => { t with threads := t.threads.set i ⟨thread.role, pc⟩ }
  | .take => if s.taken < s.pushed.length then some { s with taken := s.taken + 1 } else none

end Workers

def Pc.Fits : Role → Pc → Prop
  | .readLoop, .checking | .readLoop, .reading | .readLoop, .reporting _ | .readLoop, .pushing _ => True
  | .readLoop, .closingEvents | .readLoop, .leaving => True
  | .pingLoop, .ticking | .pingLoop, .leaving | .appPingLoop, .ticking | .appPingLoop, .leaving => True
  | .close, .entering | .close, .closingDone | .close, .closingConn | .close, .waiting => True
  | .close, .locking _ | .close, .writing _ | .close, .unlocking _ => False
  | _, .locking _ | _, .writing _ | _, .unlocking _ | _, .returned _ => True
  | _, _ => False

theorem Pc.Fits.closing {role : Role} {pc : Pc} (fits : pc.Fits role)
    (closes : pc = .entering ∨ pc = .closingDone ∨ pc = .closingConn) : role = .close := by
  rcases closes with rfl | rfl | rfl <;> cases role <;> first | rfl | cases fits

/-- Between `Lock` and `Unlock` of `writeMu`. -/
def Thread.critical (thread : Thread) : Nat :=
  match thread.pc with
  | .writing _ | .unlocking _ => 1
  | _ => 0

/-- Before `workers.Done`. -/
def Thread.working (thread : Thread) : Nat :=
  match thread.role, thread.pc with
  | .send, _ | .close, _ | _, .returned _ => 0
  | _, _ => 1

/-- Before `close(c.events)`. -/
def Thread.publishing (thread : Thread) : Nat :=
  match thread.role, thread.pc with
  | .readLoop, .leaving | .readLoop, .returned _ => 0
  | .readLoop, _ => 1
  | _, _ => 0

/-- Before `close(c.done)`, inside the once. -/
def Thread.stopping (thread : Thread) : Nat := if thread.pc = .closingDone then 1 else 0

/-- Before `c.conn.Close()`. -/
def Thread.hangingUp (thread : Thread) : Nat := if thread.pc = .closingConn then 1 else 0

namespace Workers

/-- The mutex, the wait group, the once and the two channels agree with where the goroutines stand. -/
structure Sound (s : Workers) : Prop where
  calm : s.panicked = false
  fits : ∀ thread ∈ s.threads, thread.pc.Fits thread.role
  mutex : total Thread.critical s.threads = s.writeMu.toNat
  group : total Thread.working s.threads = s.workers
  events : total Thread.publishing s.threads + s.eventsClosed.toNat = 1
  once : total Thread.stopping s.threads + total Thread.hangingUp s.threads = if s.closeMu = .running then 1 else 0
  stopped : s.done.toNat = total Thread.hangingUp s.threads + if s.closeMu = .finished then 1 else 0
  hungUp : s.connClosed = decide (s.closeMu = .finished)

theorem sound_dialled : dialled.Sound where
  calm := rfl
  fits := by simp [dialled, Pc.Fits]
  mutex := rfl
  group := rfl
  events := rfl
  once := rfl
  stopped := rfl
  hungUp := rfl

inductive Advanced (s : Workers) (role : Role) : Pc → Workers → Pc → Prop where
  | stops (done : s.done = true) : Advanced s role .checking s .closingEvents
  | goesOn (running : s.done = false) : Advanced s role .checking s .reading
  | closed : Advanced s role .reading s .closingEvents
  | fails (reason : Bytes) : Advanced s role .reading s (.reporting reason)
  | reads (m : Message) : Advanced s role .reading { s with read := s.read ++ [m] } (dispatch m)
  | reports (reason : Bytes) (room : s.Room) :
      Advanced s role (.reporting reason) { s with pushed := s.pushed ++ [brokerRead reason] } .closingEvents
  | drops (reason : Bytes) : Advanced s role (.reporting reason) s .closingEvents
  | abandons (m : Message) (done : s.done = true) : Advanced s role (.pushing m) s .closingEvents
  | pushes (m : Message) (room : s.Room) :
      Advanced s role (.pushing m) { s with pushed := s.pushed ++ [m] } .checking
  | ends (done : s.done = true) : Advanced s role .ticking s .leaving
  | ticks (frames : role ≠ .appPingLoop) : Advanced s role .ticking s (.locking .control)
  | appTicks (messages : role = .appPingLoop) :
      Advanced s role .ticking { s with seq := s.seq + 1 } (.locking (.data (appPing (s.seq + 1))))
  | locks (frame : Outgoing) (free : s.writeMu = false) :
      Advanced s role (.locking frame) { s with writeMu := true } (.writing frame)
  | writes (frame : Outgoing) (ok : Bool) (alive : s.connClosed = true → ok = false) :
      Advanced s role (.writing frame) { s with tried := s.tried ++ [⟨role, frame, ok⟩] } (.unlocking ok)
  | unlocks (ok : Bool) : Advanced s role (.unlocking ok) { s with writeMu := false } (released role ok)
  | closesEvents : Advanced s role .closingEvents { s with eventsClosed := true } .leaving
  | leaves : Advanced s role .leaving { s with workers := s.workers - 1 } (.returned true)
  | enters (fresh : s.closeMu = .fresh) :
      Advanced s role .entering { s with closeMu := .running } .closingDone
  | joins (finished : s.closeMu = .finished) : Advanced s role .entering s .waiting
  | closesDone : Advanced s role .closingDone { s with done := true } .closingConn
  | closesConn : Advanced s role .closingConn { s with connClosed := true, closeMu := .finished } .waiting
  | waits (all : s.workers = 0) : Advanced s role .waiting s (.returned true)

variable {s t : Workers} {role : Role} {pc pc' : Pc} {i : Nat} {x : Turn}

theorem Sound.fits_of (sound : s.Sound) (found : s.threads[i]? = some ⟨role, pc⟩) : pc.Fits role :=
  sound.fits ⟨role, pc⟩ (List.mem_of_getElem? found)

theorem Sound.events_open (sound : s.Sound) (found : s.threads[i]? = some ⟨role, pc⟩)
    (publishes : Thread.publishing ⟨role, pc⟩ = 1) : s.eventsClosed = false := by
  have most : Thread.publishing ⟨role, pc⟩ ≤ _ := weight_le_total found
  have one := sound.events
  cases closed : s.eventsClosed with
  | false => rfl
  | true =>
    rw [closed, Bool.toNat_true] at one
    omega

theorem Sound.running (sound : s.Sound) (found : s.threads[i]? = some ⟨role, .closingDone⟩) : s.done = false := by
  have most : Thread.stopping ⟨role, .closingDone⟩ ≤ _ := weight_le_total found
  have one : Thread.stopping ⟨role, .closingDone⟩ = 1 := rfl
  have counted := sound.once
  have stopped := sound.stopped
  cases done : s.done with
  | false => rfl
  | true =>
    rw [done, Bool.toNat_true] at stopped
    cases once : s.closeMu <;> simp only [once, reduceCtorEq, if_false, if_true] at counted stopped <;> omega

theorem Sound.held (sound : s.Sound) {ok : Bool} (found : s.threads[i]? = some ⟨role, .unlocking ok⟩) :
    s.writeMu = true := by
  have most : Thread.critical ⟨role, .unlocking ok⟩ ≤ _ := weight_le_total found
  rw [sound.mutex] at most
  cases free : s.writeMu with
  | true => rfl
  | false =>
    rw [free] at most
    cases most

theorem push_open (alive : s.eventsClosed = false) (m : Message) : s.push m = { s with pushed := s.pushed ++ [m] } := by
  rw [push, alive]
  rfl

theorem ready_open (alive : s.eventsClosed = false) : (s.eventsClosed = true ∨ s.Room) ↔ s.Room := by
  rw [alive]
  simp

theorem Sound.advanced (sound : s.Sound) (found : s.threads[i]? = some ⟨role, pc⟩)
    (moved : s.advance role x pc = some (t, pc')) : Advanced s role pc t pc' := by
  have fits := sound.fits_of found
  cases pc with
  | checking =>
    cases done : s.done with
    | false =>
      simp only [advance, done] at moved
      cases moved
      exact .goesOn done
    | true =>
      simp only [advance, done] at moved
      cases moved
      exact .stops done
  | reading =>
    simp only [advance] at moved
    split at moved
    · cases moved
    · rename_i normal reason _
      cases normal <;> cases moved
      · exact .fails reason
      · exact .closed
    · rename_i m _
      cases moved
      exact .reads m
  | reporting reason =>
    cases role <;> try cases fits
    have alive := sound.events_open found rfl
    simp only [advance, push_open alive, ready_open alive] at moved
    split at moved
    · rename_i room
      cases moved
      exact .reports reason room
    · cases moved
      exact .drops reason
  | pushing m =>
    cases role <;> try cases fits
    have alive := sound.events_open found rfl
    simp only [advance, push_open alive, ready_open alive] at moved
    split at moved
    · split at moved
      · rename_i done
        cases moved
        exact .abandons m done
      · cases moved
    · split at moved
      · rename_i room
        cases moved
        exact .pushes m room
      · cases moved
  | ticking =>
    simp only [advance] at moved
    split at moved
    · split at moved
      · rename_i done
        cases moved
        exact .ends done
      · cases moved
    · cases role with
      | appPingLoop =>
        cases moved
        exact .appTicks rfl
      | _ =>
        cases moved
        exact .ticks (by decide)
  | locking frame =>
    simp only [advance] at moved
    split at moved
    · cases moved
    · rename_i free
      cases moved
      exact .locks frame (by simpa using free)
  | writing frame =>
    simp only [advance] at moved
    split at moved
    · cases moved
    · rename_i alive
      cases moved
      exact .writes frame x.ok fun closed => by simpa [closed] using alive
  | unlocking ok =>
    simp only [advance, sound.held found] at moved
    cases moved
    exact .unlocks ok
  | closingEvents =>
    cases role <;> try cases fits
    have alive := sound.events_open found rfl
    simp only [advance, alive] at moved
    cases moved
    exact .closesEvents
  | leaving =>
    have some : s.workers ≠ 0 := by
      have most : Thread.working ⟨role, .leaving⟩ ≤ _ := weight_le_total found
      rw [sound.group] at most
      have one : Thread.working ⟨role, .leaving⟩ = 1 := by cases role <;> first | rfl | cases fits
      omega
    simp only [advance, if_neg some] at moved
    cases moved
    exact .leaves
  | entering =>
    simp only [advance] at moved
    split at moved
    · rename_i fresh
      cases moved
      exact .enters fresh
    · cases moved
    · rename_i finished
      cases moved
      exact .joins finished
  | closingDone =>
    simp only [advance, sound.running found] at moved
    cases moved
    exact .closesDone
  | closingConn =>
    cases moved
    exact .closesConn
  | waiting =>
    simp only [advance] at moved
    split at moved
    · rename_i all
      cases moved
      exact .waits all
    · cases moved
  | returned ok => cases moved

structure Balanced (s : Workers) (role : Role) (pc : Pc) (t : Workers) (pc' : Pc) : Prop where
  threads : t.threads = s.threads
  calm : t.panicked = s.panicked
  fits : pc'.Fits role
  mutex : t.writeMu.toNat + Thread.critical ⟨role, pc⟩ = s.writeMu.toNat + Thread.critical ⟨role, pc'⟩
  group : t.workers + Thread.working ⟨role, pc⟩ = s.workers + Thread.working ⟨role, pc'⟩
  events : t.eventsClosed.toNat + Thread.publishing ⟨role, pc'⟩ = s.eventsClosed.toNat + Thread.publishing ⟨role, pc⟩
  once : (if t.closeMu = .running then 1 else 0) + (Thread.stopping ⟨role, pc⟩ + Thread.hangingUp ⟨role, pc⟩) =
    (if s.closeMu = .running then 1 else 0) + (Thread.stopping ⟨role, pc'⟩ + Thread.hangingUp ⟨role, pc'⟩)
  stopped : t.done.toNat + (Thread.hangingUp ⟨role, pc⟩ + if s.closeMu = .finished then 1 else 0) =
    s.done.toNat + (Thread.hangingUp ⟨role, pc'⟩ + if t.closeMu = .finished then 1 else 0)
  hungUp : t.connClosed = decide (t.closeMu = .finished)

theorem Sound.moved (sound : s.Sound) (found : s.threads[i]? = some ⟨role, pc⟩) (balanced : Balanced s role pc t pc') :
    Sound { t with threads := t.threads.set i ⟨role, pc'⟩ } := by
  obtain ⟨threads, calm, fits, mutex, group, events, once, stopped, hungUp⟩ := balanced
  rw [threads]
  have critical : total Thread.critical _ + _ = _ := total_set found ⟨role, pc'⟩
  have working : total Thread.working _ + _ = _ := total_set found ⟨role, pc'⟩
  have publishing : total Thread.publishing _ + _ = _ := total_set found ⟨role, pc'⟩
  have stopping : total Thread.stopping _ + _ = _ := total_set found ⟨role, pc'⟩
  have hangingUp : total Thread.hangingUp _ + _ = _ := total_set found ⟨role, pc'⟩
  have mutex' := sound.mutex
  have group' := sound.group
  have events' := sound.events
  have once' := sound.once
  have stopped' := sound.stopped
  refine ⟨calm.trans sound.calm, ?_, ?_, ?_, ?_, ?_, ?_, hungUp⟩
  · intro thread member
    rcases List.mem_or_eq_of_mem_set member with old | rfl
    · exact sound.fits thread old
    · exact fits
  all_goals dsimp only
  all_goals omega

theorem dispatch_cases (m : Message) :
    (m.type = .ping ∧ dispatch m = .locking (.data (pongMessage (m.ping.getD [])))) ∨
      (m.type = .pong ∧ dispatch m = .checking) ∨
      (m.type ≠ .ping ∧ m.type ≠ .pong ∧ dispatch m = .pushing m) := by
  unfold dispatch
  cases kind : m.type <;> simp

theorem Sound.balanced (sound : s.Sound) (found : s.threads[i]? = some ⟨role, pc⟩) (moved : Advanced s role pc t pc') :
    Balanced s role pc t pc' := by
  have fits := sound.fits_of found
  have hungUp := sound.hungUp
  cases moved with
  | stops | goesOn | closed | fails | reports | drops | abandons | pushes =>
    cases role <;> first | exact ⟨rfl, rfl, trivial, rfl, rfl, rfl, rfl, rfl, hungUp⟩ | cases fits
  | ends | ticks | appTicks | writes | joins =>
    cases role <;> first | exact ⟨rfl, rfl, trivial, rfl, rfl, rfl, rfl, rfl, hungUp⟩ | cases fits
  | reads m =>
    cases role <;> try cases fits
    rcases dispatch_cases m with ⟨_, next⟩ | ⟨_, next⟩ | ⟨_, _, next⟩
    all_goals
      rw [next]
      exact ⟨rfl, rfl, trivial, rfl, rfl, rfl, rfl, rfl, hungUp⟩
  | locks frame free =>
    have taken : (true : Bool).toNat + 0 = s.writeMu.toNat + 1 := by rw [free]; rfl
    cases role <;> first | exact ⟨rfl, rfl, trivial, taken, rfl, rfl, rfl, rfl, hungUp⟩ | cases fits
  | unlocks ok =>
    have given : (false : Bool).toNat + 1 = s.writeMu.toNat + 0 := by rw [sound.held found]; rfl
    cases role <;> cases ok <;> exact ⟨rfl, rfl, trivial, given, rfl, rfl, rfl, rfl, hungUp⟩
  | closesEvents =>
    cases role <;> try cases fits
    have alive := sound.events_open found rfl
    have past : (true : Bool).toNat + 0 = s.eventsClosed.toNat + 1 := by rw [alive]; rfl
    exact ⟨rfl, rfl, trivial, rfl, rfl, past, rfl, rfl, hungUp⟩
  | leaves =>
    have most : Thread.working ⟨role, .leaving⟩ ≤ _ := weight_le_total found
    rw [sound.group] at most
    have counted : 1 ≤ s.workers → s.workers - 1 + 1 = s.workers + 0 := by omega
    cases role <;> first
      | exact ⟨rfl, rfl, trivial, rfl, counted most, rfl, rfl, rfl, hungUp⟩
      | cases fits
  | enters fresh =>
    obtain rfl : role = .close := fits.closing (.inl rfl)
    have begun : 1 = (if s.closeMu = .running then 1 else 0) + 1 := by rw [fresh]; rfl
    have same : s.done.toNat + (0 + if s.closeMu = .finished then 1 else 0) = s.done.toNat := by rw [fresh]; rfl
    rw [fresh] at hungUp
    exact ⟨rfl, rfl, trivial, rfl, rfl, rfl, begun, same, hungUp⟩
  | closesDone =>
    obtain rfl : role = .close := fits.closing (.inr (.inl rfl))
    have running := sound.running found
    have ended : 1 + (0 + if s.closeMu = .finished then 1 else 0) =
        s.done.toNat + (1 + if s.closeMu = .finished then 1 else 0) := by
      rw [running]
      simp only [Bool.toNat_false]
      omega
    exact ⟨rfl, rfl, trivial, rfl, rfl, rfl, rfl, ended, hungUp⟩
  | closesConn =>
    obtain rfl : role = .close := fits.closing (.inr (.inr rfl))
    have most : Thread.hangingUp ⟨.close, .closingConn⟩ ≤ _ := weight_le_total found
    have one : Thread.hangingUp ⟨.close, .closingConn⟩ = 1 := rfl
    have counted := sound.once
    have begun : s.closeMu = .running := by
      cases once : s.closeMu <;> simp only [once, reduceCtorEq, if_false, if_true] at counted <;> first | rfl | omega
    have past : 0 + 1 = (if s.closeMu = .running then 1 else 0) + 0 := by rw [begun]; rfl
    have same : s.done.toNat + (1 + if s.closeMu = .finished then 1 else 0) = s.done.toNat + (0 + 1) := by
      rw [begun]
      rfl
    exact ⟨rfl, rfl, trivial, rfl, rfl, rfl, past, same, rfl⟩
  | waits =>
    cases role <;> first | exact ⟨rfl, rfl, trivial, rfl, rfl, rfl, rfl, rfl, hungUp⟩ | cases fits

inductive Stepped (s : Workers) : WorkerMove → Workers → Prop where
  | calls (call : Call) :
      Stepped s (.send call) { s with threads := s.threads ++ [⟨.send, .locking (.data call.message)⟩] }
  | closes : Stepped s .close { s with threads := s.threads ++ [⟨.close, .entering⟩] }
  | takes (filled : s.taken < s.pushed.length) : Stepped s .take { s with taken := s.taken + 1 }
  | runs (i : Nat) (x : Turn) (role : Role) (pc : Pc) (found : s.threads[i]? = some ⟨role, pc⟩) (t : Workers) (pc' : Pc)
      (advanced : Advanced s role pc t pc') :
      Stepped s (.run i x) { t with threads := t.threads.set i ⟨role, pc'⟩ }

theorem Sound.stepped (sound : s.Sound) {move : WorkerMove} (made : s.step move = some t) : Stepped s move t := by
  cases move with
  | send call =>
    cases made
    exact .calls call
  | close =>
    cases made
    exact .closes
  | take =>
    simp only [step] at made
    split at made
    · rename_i filled
      cases made
      exact .takes filled
    · cases made
  | run i x =>
    obtain ⟨⟨role, pc⟩, found, rest⟩ := Option.bind_eq_some_iff.mp made
    obtain ⟨⟨u, pc'⟩, moved, rfl⟩ := Option.map_eq_some_iff.mp rest
    exact .runs i x role pc found u pc' (sound.advanced found moved)

theorem Sound.joined (sound : s.Sound) (thread : Thread)
    (new : (∃ m, thread = ⟨.send, .locking (.data m)⟩) ∨ thread = ⟨.close, .entering⟩) :
    Sound { s with threads := s.threads ++ [thread] } := by
  have idle : thread.critical = 0 ∧ thread.working = 0 ∧ thread.publishing = 0 ∧ thread.stopping = 0 ∧
      thread.hangingUp = 0 ∧ thread.pc.Fits thread.role := by
    rcases new with ⟨m, rfl⟩ | rfl <;> exact ⟨rfl, rfl, rfl, rfl, rfl, trivial⟩
  obtain ⟨critical, working, publishing, stopping, hangingUp, fits⟩ := idle
  refine ⟨sound.calm, ?_, ?_, ?_, ?_, ?_, ?_, sound.hungUp⟩
  · intro other member
    rcases List.mem_append.mp member with old | last
    · exact sound.fits other old
    · rw [List.mem_singleton.mp last]
      exact fits
  · rw [total_snoc, critical]
    exact sound.mutex
  · rw [total_snoc, working]
    exact sound.group
  · rw [total_snoc, publishing]
    exact sound.events
  · rw [total_snoc, total_snoc, stopping, hangingUp]
    exact sound.once
  · rw [total_snoc, hangingUp]
    exact sound.stopped

theorem Sound.step (sound : s.Sound) {move : WorkerMove} (made : s.step move = some t) : t.Sound := by
  cases sound.stepped made with
  | calls call => exact sound.joined _ (.inl ⟨call.message, rfl⟩)
  | closes => exact sound.joined _ (.inr rfl)
  | takes => exact ⟨sound.calm, sound.fits, sound.mutex, sound.group, sound.events, sound.once, sound.stopped, sound.hungUp⟩
  | runs i x role pc found u pc' advanced => exact sound.moved found (sound.balanced found advanced)

theorem sound_run {moves : List WorkerMove} (ran : run step dialled moves = some s) : s.Sound :=
  run_preserves (fun _ _ _ sound made => sound.step made) _ _ moves sound_dialled ran

end Workers

end Rtc2Tcp.Peer

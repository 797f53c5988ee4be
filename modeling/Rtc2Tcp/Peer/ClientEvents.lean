import Rtc2Tcp.Peer.Workers

namespace Rtc2Tcp.Peer

open Octets Go Signaling Rendezvous Transition

def Role.Sends : Role → Outgoing → Prop
  | .readLoop, frame => ∃ token, frame = .data (pongMessage token)
  | .pingLoop, frame => frame = .control
  | .appPingLoop, frame => ∃ seq, frame = .data (appPing seq)
  | .send, frame => ∃ call : Call, frame = .data call.message
  | .close, _ => False

theorem Role.Sends.other {role : Role} {frame : Outgoing} (sends : role.Sends frame) (other : role ≠ .readLoop) (m : Message)
    (data : frame = .data m) : m.type ≠ .pong := by
  subst data
  cases role with
  | readLoop => exact absurd rfl other
  | pingLoop => cases sends
  | appPingLoop =>
    obtain ⟨seq, same⟩ := sends
    cases same
    simp [appPing]
  | send =>
    obtain ⟨call, same⟩ := sends
    cases same
    cases call <;> simp [Call.message, signalMessage]
  | close => cases sends

def Pc.frame : Pc → Option Outgoing
  | .locking frame | .writing frame => some frame
  | _ => none

namespace Workers

structure Addressed (s : Workers) : Prop where
  threads : ∀ thread ∈ s.threads, ∀ frame, thread.pc.frame = some frame → thread.role.Sends frame
  tried : ∀ attempt ∈ s.tried, attempt.role.Sends attempt.frame

variable {s t : Workers} {role : Role} {pc pc' : Pc} {i : Nat} {k : Client} {handled : List Message}

theorem addressed_dialled : dialled.Addressed := by
  constructor <;> simp [dialled, Pc.frame]

theorem Advanced.sends (advanced : Advanced s role pc t pc') (fits : pc.Fits role)
    (before : ∀ frame, pc.frame = some frame → role.Sends frame) (frame : Outgoing) (next : pc'.frame = some frame) :
    role.Sends frame := by
  cases advanced with
  | reads m =>
    cases role <;> try cases fits
    rcases dispatch_cases m with ⟨_, here⟩ | ⟨_, here⟩ | ⟨_, _, here⟩ <;> rw [here] at next <;> cases next
    exact ⟨_, rfl⟩
  | ticks frames =>
    cases next
    cases role <;> first | rfl | exact absurd rfl frames | cases fits
  | appTicks messages =>
    cases messages
    cases next
    exact ⟨_, rfl⟩
  | locks => exact before frame next
  | unlocks ok => cases role <;> cases ok <;> cases next
  | _ => cases next

theorem Addressed.step (addressed : s.Addressed) (sound : s.Sound) {move : WorkerMove} (made : s.step move = some t) :
    t.Addressed := by
  cases sound.stepped made with
  | calls call =>
    refine ⟨?_, addressed.tried⟩
    intro thread member frame sends
    rcases List.mem_append.mp member with old | new
    · exact addressed.threads thread old frame sends
    · cases List.mem_singleton.mp new
      cases sends
      exact ⟨call, rfl⟩
  | closes =>
    refine ⟨?_, addressed.tried⟩
    intro thread member frame sends
    rcases List.mem_append.mp member with old | new
    · exact addressed.threads thread old frame sends
    · cases List.mem_singleton.mp new
      cases sends
  | takes => exact ⟨addressed.threads, addressed.tried⟩
  | runs i x role pc found u pc' advanced =>
    have fits := sound.fits_of found
    have before := addressed.threads _ (List.mem_of_getElem? found)
    constructor
    · intro thread member frame sends
      have threads : u.threads = s.threads := by cases advanced <;> rfl
      rw [threads] at member
      rcases List.mem_or_eq_of_mem_set member with old | rfl
      · exact addressed.threads thread old frame sends
      · exact advanced.sends fits before frame sends
    · intro attempt member
      cases advanced with
      | writes frame ok =>
        rcases List.mem_append.mp member with old | new
        · exact addressed.tried attempt old
        · cases List.mem_singleton.mp new
          exact before frame rfl
      | _ => exact addressed.tried attempt member

end Workers

inductive ClientMove where
  | receive (m : Message)
  | fail (normal : Bool) (reason : Bytes)
  | take
  | send (m : Message)
deriving DecidableEq, Repr

namespace Client

def step (k : Client) : ClientMove → Option Client
  | .receive m => if k.closed then none else k.receive m
  | .fail normal reason => if k.closed then none else some (k.fail normal reason)
  | .take => if k.taken < k.pushed.length then some { k with taken := k.taken + 1 } else none
  | .send m => some (k.send [m])

end Client

def ClientMove.frames : ClientMove → List Message
  | receive m => [m]
  | _ => []

def receivedFrames (moves : List ClientMove) : List Message := moves.flatMap ClientMove.frames

theorem receivedFrames_append (moves more : List ClientMove) :
    receivedFrames (moves ++ more) = receivedFrames moves ++ receivedFrames more := List.flatMap_append

theorem receivedFrames_one (move : ClientMove) : receivedFrames [move] = move.frames := List.flatMap_singleton _ _

def Unanswering (moves : List ClientMove) : Prop := ∀ m, ClientMove.send m ∈ moves → m.type ≠ .pong

def Outgoing.messages : Outgoing → List Message
  | data m => [m]
  | control => []

def messagesTried (attempts : List Attempt) : List Message := attempts.flatMap fun attempt => attempt.frame.messages

def Pc.Ended : Pc → Bool
  | .closingEvents | .leaving | .returned _ => true
  | _ => false

namespace Workers

/-- `handled` is what `readLoop` has read, but for the message it has at hand or has given up on `Close`. -/
def Handled (s : Workers) (handled : List Message) : Pc → Prop
  | .pushing m => s.read = handled ++ [m] ∧ m.type ≠ .ping ∧ m.type ≠ .pong
  | .locking frame | .writing frame =>
    ∃ m, s.read = handled ++ [m] ∧ m.type = .ping ∧ frame = .data (pongMessage (m.ping.getD []))
  | .closingEvents | .leaving | .returned _ => s.read = handled ∨ s.done = true ∧ ∃ m, s.read = handled ++ [m]
  | _ => s.read = handled

structure Matches (s : Workers) (pc : Pc) (handled : List Message) (k : Client) : Prop where
  read : k.read = handled.length
  pushed : k.pushed = s.pushed
  taken : k.taken = s.taken
  closed : k.closed = pc.Ended
  sent : k.sent = messagesTried s.tried
  handled : s.Handled handled pc

structure Layout (s : Workers) : Prop where
  reader : ∃ pc, s.threads[0]? = some ⟨.readLoop, pc⟩
  only : ∀ (i : Nat) (pc : Pc), s.threads[i]? = some ⟨.readLoop, pc⟩ → i = 0

/-- Some run of the one-threaded client has the same effects. -/
def Refines (s : Workers) : Prop :=
  ∃ moves k pc, run Client.step .fresh moves = some k ∧ Unanswering moves ∧ s.threads[0]? = some ⟨.readLoop, pc⟩ ∧
    s.Matches pc (receivedFrames moves) k

variable {s t : Workers} {role : Role} {pc pc' : Pc} {i : Nat} {k : Client} {handled : List Message}

theorem layout_dialled : dialled.Layout where
  reader := ⟨.checking, rfl⟩
  only i pc found := by
    rcases i with _ | _ | _ | i
    · rfl
    all_goals cases found

theorem refines_dialled : dialled.Refines :=
  ⟨[], .fresh, .checking, rfl, by simp [Unanswering], rfl, ⟨rfl, rfl, rfl, rfl, rfl, rfl⟩⟩

theorem snoc_unread (threads : List Thread) (thread : Thread) (other : thread.role ≠ .readLoop) (i : Nat) (pc : Pc) :
    (threads ++ [thread])[i]? = some ⟨.readLoop, pc⟩ ↔ threads[i]? = some ⟨.readLoop, pc⟩ := by
  rw [List.getElem?_append]
  split
  · rfl
  · rename_i beyond
    have none : threads[i]? = none := List.getElem?_eq_none (Nat.le_of_not_lt beyond)
    rw [none]
    constructor
    · intro found
      have member := List.mem_of_getElem? found
      rw [List.mem_singleton] at member
      rw [← member] at other
      exact absurd rfl other
    · rintro ⟨⟩

theorem set_reader (found : s.threads[i]? = some ⟨role, pc⟩) (j : Nat) (pc'' : Pc) :
    (s.threads.set i ⟨role, pc'⟩)[j]? = some ⟨.readLoop, pc''⟩ ↔
      (j = i ∧ role = .readLoop ∧ pc'' = pc') ∨ (j ≠ i ∧ s.threads[j]? = some ⟨.readLoop, pc''⟩) := by
  rw [List.getElem?_set]
  have inside : i < s.threads.length := (List.getElem?_eq_some_iff.mp found).1
  by_cases here : i = j
  · subst here
    simp only [if_true, inside, Option.some.injEq, Thread.mk.injEq, ne_eq, not_true_eq_false, false_and, or_false, true_and]
    constructor
    · rintro ⟨rfl, rfl⟩
      exact ⟨rfl, rfl⟩
    · rintro ⟨rfl, rfl⟩
      exact ⟨rfl, rfl⟩
  · rw [if_neg here]
    constructor
    · exact fun kept => .inr ⟨Ne.symm here, kept⟩
    · rintro (⟨same, _⟩ | ⟨_, kept⟩)
      · exact absurd same.symm here
      · exact kept

theorem Layout.step (layout : s.Layout) (sound : s.Sound) {move : WorkerMove} (made : s.step move = some t) :
    t.Layout := by
  cases sound.stepped made with
  | calls call =>
    obtain ⟨pc, reader⟩ := layout.reader
    refine ⟨⟨pc, (snoc_unread _ _ (by simp) 0 pc).mpr reader⟩, ?_⟩
    intro i pc found
    exact layout.only i pc ((snoc_unread _ _ (by simp) i pc).mp found)
  | closes =>
    obtain ⟨pc, reader⟩ := layout.reader
    refine ⟨⟨pc, (snoc_unread _ _ (by simp) 0 pc).mpr reader⟩, ?_⟩
    intro i pc found
    exact layout.only i pc ((snoc_unread _ _ (by simp) i pc).mp found)
  | takes => exact ⟨layout.reader, layout.only⟩
  | runs i x role pc found u pc' advanced =>
    have threads : u.threads = s.threads := by cases advanced <;> rfl
    obtain ⟨first, reader⟩ := layout.reader
    constructor
    · dsimp only
      rw [threads]
      by_cases here : i = 0
      · subst here
        rw [reader] at found
        cases found
        exact ⟨pc', (set_reader reader 0 pc').mpr (.inl ⟨rfl, rfl, rfl⟩)⟩
      · exact ⟨first, (set_reader found 0 first).mpr (.inr ⟨Ne.symm here, reader⟩)⟩
    · intro j pc'' after
      dsimp only at after
      rw [threads] at after
      rcases (set_reader found j pc'').mp after with ⟨rfl, rfl, _⟩ | ⟨_, kept⟩
      · exact layout.only j pc found
      · exact layout.only j pc'' kept

/-- The one-threaded client follows a step by steps of its own. -/
def Follows (t : Workers) (pc : Pc) (handled : List Message) (k : Client) : Prop :=
  ∃ moves after, run Client.step k moves = some after ∧ Unanswering moves ∧
    t.Matches pc (handled ++ receivedFrames moves) after

theorem Follows.still (matched : t.Matches pc handled k) : t.Follows pc handled k :=
  ⟨[], k, rfl, by simp [Unanswering], by rwa [receivedFrames, List.flatMap_nil, List.append_nil]⟩

theorem Follows.one (move : ClientMove) (after : Client) (made : k.step move = some after)
    (other : ∀ m, move = .send m → m.type ≠ .pong) (matched : t.Matches pc (handled ++ receivedFrames [move]) after) :
    t.Follows pc handled k := by
  refine ⟨[move], after, by simp only [run, made], ?_, matched⟩
  intro m member
  exact other m (List.mem_singleton.mp member).symm

theorem Follows.ends (normal : Bool) (reason : Bytes) (matched : s.Matches pc handled k) (running : pc.Ended = false)
    (past : pc'.Ended = true) (taken : t.taken = s.taken) (pushed : t.pushed = (k.fail normal reason).pushed)
    (tried : t.tried = s.tried) (last : t.read = handled ∨ t.done = true ∧ ∃ m, t.read = handled ++ [m]) :
    t.Follows pc' handled k := by
  have alive : k.closed = false := matched.closed.trans running
  apply Follows.one (.fail normal reason) (k.fail normal reason)
  · simp only [Client.step, alive]
    rfl
  · simp
  · have same : (k.fail normal reason).read = k.read ∧ (k.fail normal reason).taken = k.taken ∧
        (k.fail normal reason).closed = true ∧ (k.fail normal reason).sent = k.sent := by
      unfold Client.fail
      split <;> exact ⟨rfl, rfl, rfl, rfl⟩
    obtain ⟨read, takes, closed, sent⟩ := same
    simp only [receivedFrames_one, ClientMove.frames, List.append_nil]
    refine ⟨read.trans matched.read, pushed.symm, ?_, closed.trans past.symm, ?_, ?_⟩
    · rw [takes, matched.taken, taken]
    · rw [sent, matched.sent, tried]
    · cases pc' <;> first | exact last | cases past

theorem Advanced.read_follows (advanced : Advanced s .readLoop pc t pc') (fits : pc.Fits .readLoop)
    (matched : s.Matches pc handled k) : t.Follows pc' handled k := by
  have room : k.Room ↔ s.Room := by rw [Client.Room, Room, matched.pushed, matched.taken]
  have quiet : ∀ reason, (k.fail true reason).pushed = s.pushed := by
    intro reason
    simp only [Client.fail, Bool.true_eq_false, false_and, if_false]
    exact matched.pushed
  have alive : pc.Ended = false → k.closed = false := fun running => matched.closed.trans running
  obtain ⟨read, pushed, taken, closed, sent, rest⟩ := id matched
  cases advanced with
  | stops | closed => exact .ends true [] matched rfl rfl rfl (quiet []).symm rfl (.inl rest)
  | drops reason => exact .ends true [] matched rfl rfl rfl (quiet []).symm rfl (.inl rest)
  | abandons m done =>
    exact .ends true [] matched rfl rfl rfl (quiet []).symm rfl (.inr ⟨done, m, rest.1⟩)
  | reports reason free =>
    refine .ends false reason matched rfl rfl rfl ?_ rfl (.inl rest)
    simp only [Client.fail, room.mpr free, and_self, if_true, pushed]
    rfl
  | goesOn | fails | locks | unlocks => exact .still ⟨read, pushed, taken, closed, sent, rest⟩
  | reads m =>
    have more : s.read ++ [m] = handled ++ [m] := congrArg (· ++ [m]) rest
    rcases dispatch_cases m with ⟨kind, next⟩ | ⟨kind, next⟩ | ⟨other, another, next⟩ <;> rw [next]
    · exact .still ⟨read, pushed, taken, closed, sent, m, more, kind, rfl⟩
    · apply Follows.one (.receive m) ({ k with read := k.read + 1 })
      · simp only [Client.step, alive rfl, Client.receive, kind]
        rfl
      · simp
      · refine ⟨?_, pushed, taken, closed, sent, more⟩
        simp [receivedFrames_one, ClientMove.frames, read]
    · exact .still ⟨read, pushed, taken, closed, sent, more, other, another⟩
  | pushes m free =>
    obtain ⟨more, other, another⟩ := rest
    apply Follows.one (.receive m) ({ k with read := k.read + 1, pushed := k.pushed ++ [m] })
    · have space : ({ k with read := k.read + 1 } : Client).Room := room.mpr free
      simp only [Client.step, alive rfl, Client.receive]
      exact if_pos space
    · simp
    · refine ⟨?_, ?_, taken, closed, sent, ?_⟩
      · simp [receivedFrames_one, ClientMove.frames, read]
      · simp [pushed]
      · simpa [receivedFrames_one, ClientMove.frames, Handled] using more
  | writes frame ok =>
    obtain ⟨m, more, kind, rfl⟩ := rest
    apply Follows.one (.receive m)
      (({ k with read := k.read + 1 } : Client).send [pongMessage (m.ping.getD [])])
    · simp only [Client.step, alive rfl, Client.receive, kind]
      rfl
    · simp
    · refine ⟨?_, pushed, taken, closed, ?_, ?_⟩
      · simp [receivedFrames_one, ClientMove.frames, read, Client.send]
      · simp [Client.send, sent, messagesTried, Outgoing.messages]
      · simpa [receivedFrames_one, ClientMove.frames, Handled] using more
  | closesEvents | leaves => exact .still ⟨read, pushed, taken, closed, sent, rest⟩
  | ends | ticks | appTicks | enters | joins | closesDone | closesConn | waits => cases fits

theorem Matches.sends (matched : s.Matches pc handled k) (attempt : Attempt)
    (other : ∀ m, attempt.frame = .data m → m.type ≠ .pong) :
    Follows { s with tried := s.tried ++ [attempt] } pc handled k := by
  obtain ⟨read, pushed, taken, closed, sent, rest⟩ := matched
  obtain ⟨role, frame, ok⟩ := attempt
  cases frame with
  | control => exact .still ⟨read, pushed, taken, closed, by simpa [messagesTried, Outgoing.messages] using sent, rest⟩
  | data m =>
    apply Follows.one (.send m) (k.send [m]) rfl
    · rintro _ ⟨⟩
      exact other m rfl
    simp only [receivedFrames_one, ClientMove.frames, List.append_nil]
    exact ⟨read, pushed, taken, closed, by simp [Client.send, sent, messagesTried, Outgoing.messages], rest⟩

theorem Advanced.other_follows {reader : Pc} (advanced : Advanced s role pc t pc') (fits : pc.Fits role)
    (other : role ≠ .readLoop) (sends : ∀ frame, pc.frame = some frame → role.Sends frame)
    (matched : s.Matches reader handled k) : t.Follows reader handled k := by
  obtain ⟨read, pushed, taken, closed, sent, rest⟩ := id matched
  cases advanced with
  | stops | goesOn | closed | fails | reads | reports | drops | abandons | pushes | closesEvents =>
    cases role <;> first | exact absurd rfl other | cases fits
  | writes frame ok => exact matched.sends ⟨role, frame, ok⟩ ((sends frame rfl).other other)
  | ends | ticks | appTicks | locks | unlocks | leaves => exact .still ⟨read, pushed, taken, closed, sent, rest⟩
  | enters | joins | closesConn | waits => exact .still ⟨read, pushed, taken, closed, sent, rest⟩
  | closesDone =>
    refine .still ⟨read, pushed, taken, closed, sent, ?_⟩
    cases reader with
    | closingEvents | leaving | returned => exact rest.imp_right fun last => ⟨rfl, last.2⟩
    | _ => exact rest

theorem Refines.follow {moves : List ClientMove} (ran : run Client.step .fresh moves = some k)
    (before : Unanswering moves) (reader : t.threads[0]? = some ⟨.readLoop, pc⟩)
    (follows : t.Follows pc (receivedFrames moves) k) :
    t.Refines := by
  obtain ⟨more, after, went, later, matched⟩ := follows
  refine ⟨moves ++ more, after, pc, ?_, ?_, reader, ?_⟩
  · rw [run_append _ _ _ _ ran]
    exact went
  · intro m member
    rcases List.mem_append.mp member with old | new
    · exact before m old
    · exact later m new
  · rwa [receivedFrames_append]

theorem Refines.step (refines : s.Refines) (layout : s.Layout) (addressed : s.Addressed) (sound : s.Sound) {move : WorkerMove}
    (made : s.step move = some t) : t.Refines := by
  obtain ⟨moves, k, pc, ran, before, reader, matched⟩ := refines
  obtain ⟨read, pushed, taken, closed, sent, rest⟩ := id matched
  cases sound.stepped made with
  | calls call =>
    exact .follow ran before ((snoc_unread _ _ (by simp) 0 pc).mpr reader) (.still ⟨read, pushed, taken, closed, sent, rest⟩)
  | closes =>
    exact .follow ran before ((snoc_unread _ _ (by simp) 0 pc).mpr reader) (.still ⟨read, pushed, taken, closed, sent, rest⟩)
  | takes filled =>
    rw [← taken, ← pushed] at filled
    refine .follow ran before reader (?_ : Follows { s with taken := s.taken + 1 } pc _ k)
    apply Follows.one .take { k with taken := k.taken + 1 } (if_pos filled) (by simp)
    simp only [receivedFrames_one, ClientMove.frames, List.append_nil]
    exact ⟨read, pushed, congrArg (· + 1) taken, closed, sent, rest⟩
  | runs i x role here found u after advanced =>
    have threads : u.threads = s.threads := by cases advanced <;> rfl
    have fits := sound.fits_of found
    by_cases first : i = 0
    · subst first
      rw [reader] at found
      cases found
      obtain ⟨more, l, went, later, ahead⟩ := advanced.read_follows fits matched
      refine .follow ran before ?_ ⟨more, l, went, later, ⟨ahead.read, ahead.pushed, ahead.taken, ahead.closed,
        ahead.sent, ahead.handled⟩⟩
      dsimp only
      rw [threads]
      exact (set_reader reader 0 after).mpr (.inl ⟨rfl, rfl, rfl⟩)
    · have other : role ≠ .readLoop := by
        rintro rfl
        exact first (layout.only i here found)
      obtain ⟨more, l, went, later, ahead⟩ := advanced.other_follows fits other
        (addressed.threads _ (List.mem_of_getElem? found)) matched
      refine .follow ran before ?_ ⟨more, l, went, later, ⟨ahead.read, ahead.pushed, ahead.taken, ahead.closed,
        ahead.sent, ahead.handled⟩⟩
      dsimp only
      rw [threads]
      exact (set_reader found 0 pc).mpr (.inr ⟨Ne.symm first, reader⟩)

theorem refines_run {moves : List WorkerMove} (ran : run step dialled moves = some s) : s.Refines := by
  have preserved : ∀ (u : Workers) (move : WorkerMove) (v : Workers),
      u.Sound ∧ u.Layout ∧ u.Addressed ∧ u.Refines → u.step move = some v →
        v.Sound ∧ v.Layout ∧ v.Addressed ∧ v.Refines := by
    rintro u move v ⟨sound, layout, addressed, refines⟩ made
    exact ⟨sound.step made, layout.step sound made, addressed.step sound made, refines.step layout addressed sound made⟩
  have start := And.intro sound_dialled (And.intro layout_dialled (And.intro addressed_dialled refines_dialled))
  exact (run_preserves preserved _ _ moves start ran).2.2.2

end Workers

def Passes (m : Message) : Bool := m.type ≠ .ping ∧ m.type ≠ .pong

def pongs (ms : List Message) : List Message :=
  (ms.filter fun m => m.type = .ping).map fun m => pongMessage (m.ping.getD [])

theorem pongs_snoc (ms : List Message) (m : Message) :
    pongs (ms ++ [m]) = pongs ms ++ if m.type = .ping then [pongMessage (m.ping.getD [])] else [] := by
  unfold pongs
  by_cases kind : m.type = .ping <;> simp [List.filter_append, kind]

namespace Client

variable {k l : Client} {moves : List ClientMove} {move : ClientMove}

structure Sorted (k : Client) (handled : List Message) : Prop where
  running : k.closed = false → k.pushed = handled.filter Passes
  ended : k.closed = true →
    k.pushed = handled.filter Passes ∨ ∃ reason, k.pushed = handled.filter Passes ++ [brokerRead reason]
  answered : (k.sent.filter fun m => m.type = .pong) = pongs handled

theorem Sorted.receive {handled : List Message} (sorted : k.Sorted handled) (m : Message) (alive : k.closed = false)
    (made : k.receive m = some l) : l.Sorted (handled ++ [m]) := by
  have pushed := sorted.running alive
  have answered := sorted.answered
  simp only [Client.receive] at made
  split at made
  · rename_i kind
    cases made
    refine ⟨fun _ => ?_, fun past => ?_, ?_⟩
    · simpa [Client.send, Passes, kind] using pushed
    · cases alive.symm.trans past
    · rw [pongs_snoc, if_pos kind, ← answered]
      simp [Client.send, pongMessage]
  · rename_i kind
    cases made
    refine ⟨fun _ => ?_, fun past => ?_, ?_⟩
    · simpa [Passes, kind] using pushed
    · cases alive.symm.trans past
    · rw [pongs_snoc, if_neg (by rw [kind]; simp), List.append_nil]
      exact answered
  · rename_i other another
    split at made
    · cases made
      refine ⟨fun _ => ?_, fun past => ?_, ?_⟩
      · have passes : Passes m = true := decide_eq_true ⟨other, another⟩
        simp [pushed, passes]
      · cases alive.symm.trans past
      · rw [pongs_snoc, if_neg other, List.append_nil]
        exact answered
    · cases made

theorem sorted_fresh : fresh.Sorted (receivedFrames []) := by
  refine ⟨fun _ => rfl, ?_, rfl⟩
  rintro ⟨⟩

theorem Sorted.step (sorted : k.Sorted (receivedFrames moves)) (other : ∀ m, move = .send m → m.type ≠ .pong)
    (made : k.step move = some l) : l.Sorted (receivedFrames (moves ++ [move])) := by
  rw [receivedFrames_append, receivedFrames_one]
  cases move with
  | receive m =>
    simp only [Client.step] at made
    split at made
    · cases made
    · rename_i alive
      exact sorted.receive m (by simpa using alive) made
  | fail normal reason =>
    simp only [Client.step] at made
    split at made
    · cases made
    · rename_i alive
      cases made
      have pushed := sorted.running (by simpa using alive)
      simp only [ClientMove.frames, List.append_nil]
      unfold Client.fail
      split
      · refine ⟨?_, fun _ => .inr ⟨reason, ?_⟩, sorted.answered⟩
        · rintro ⟨⟩
        · rw [pushed]
          rfl
      · refine ⟨?_, fun _ => .inl pushed, sorted.answered⟩
        rintro ⟨⟩
  | take =>
    simp only [Client.step] at made
    split at made
    · cases made
      simp only [ClientMove.frames, List.append_nil]
      exact ⟨sorted.running, sorted.ended, sorted.answered⟩
    · cases made
  | send m =>
    cases made
    simp only [ClientMove.frames, List.append_nil]
    refine ⟨sorted.running, sorted.ended, ?_⟩
    have kept : decide (m.type = .pong) = false := decide_eq_false (other m rfl)
    simp only [Client.send, List.filter_append, List.filter_cons, kept]
    simpa using sorted.answered

theorem sorted_run (ran : run step fresh moves = some k) (unanswering : Unanswering moves) :
    k.Sorted (receivedFrames moves) := by
  have met : Along step (fun _ move => ∀ m, move = .send m → m.type ≠ .pong) fresh moves := by
    apply along_of_forall
    rintro move member m rfl
    exact unanswering m member
  have preserved : ∀ (before : List ClientMove) (u : Client) (move : ClientMove) (v : Client),
      run step fresh before = some u → u.Sorted (receivedFrames before) → (∀ m, move = .send m → m.type ≠ .pong) →
        u.step move = some v → v.Sorted (receivedFrames (before ++ [move])) :=
    fun before u move v _ sorted other made => sorted.step other made
  exact run_history_along fresh k moves sorted_fresh preserved met ran

end Client

namespace Workers

variable {s : Workers} {moves : List WorkerMove}

/-- Where `readLoop` stands while it has the message at hand, or when it has given it up on `Close`. -/
def Keeps (s : Workers) (m : Message) : Pc → Prop
  | .pushing other => other = m
  | .locking frame | .writing frame => m.type = .ping ∧ frame = .data (pongMessage (m.ping.getD []))
  | .closingEvents | .leaving | .returned _ => s.done = true
  | _ => False

theorem Matches.at_hand {pc : Pc} {handled : List Message} {k : Client} (matched : s.Matches pc handled k) :
    s.read = handled ∨ ∃ m, s.read = handled ++ [m] ∧ s.Keeps m pc := by
  have rest := matched.handled
  cases pc with
  | pushing m => exact .inr ⟨m, rest.1, rfl⟩
  | locking | writing =>
    obtain ⟨m, last, ping⟩ := rest
    exact .inr ⟨m, last, ping⟩
  | closingEvents | leaving | returned =>
    rcases rest with same | ⟨done, m, last⟩
    · exact .inl same
    · exact .inr ⟨m, last, done⟩
  | _ => exact .inl rest

theorem Matches.handled_prefix {pc : Pc} {handled : List Message} {k : Client} (matched : s.Matches pc handled k) :
    handled <+: s.read ∧ s.read.length ≤ handled.length + 1 := by
  rcases matched.at_hand with same | ⟨m, last, _⟩
  · rw [same]
    exact ⟨List.prefix_rfl, Nat.le_succ _⟩
  · rw [last]
    exact ⟨List.prefix_append _ _, by simp⟩

/-- The goroutines do what one loop would do that handles a frame, an event or a call at a time: there is a run of it
    with the same events and the same messages for the broker, on the same frames but for one still at hand. -/
theorem client_refines (moves : List WorkerMove) (s : Workers) (ran : run step dialled moves = some s) :
    ∃ single k, run Client.step .fresh single = some k ∧ k.pushed = s.pushed ∧ k.taken = s.taken ∧
      k.sent = messagesTried s.tried ∧ receivedFrames single <+: s.read ∧
      s.read.length ≤ (receivedFrames single).length + 1 ∧ (s.eventsClosed = true → k.closed = true) := by
  obtain ⟨single, k, pc, alone, _, reader, matched⟩ := refines_run ran
  obtain ⟨front, near⟩ := matched.handled_prefix
  refine ⟨single, k, alone, matched.pushed, matched.taken, matched.sent, front, near, ?_⟩
  intro closed
  have sound := sound_run ran
  rw [matched.closed]
  have most : Thread.publishing ⟨.readLoop, pc⟩ ≤ _ := Tally.weight_le_total reader
  have one := sound.events
  rw [closed, Bool.toNat_true] at one
  have none : Thread.publishing ⟨.readLoop, pc⟩ = 0 := by omega
  cases pc <;> first | rfl | cases none

def pingedClient : List WorkerMove :=
  [.run 0 {}, .run 0 { received := some (.message { type := .ping, ping := some (text "7") }) }, .run 0 {}, .run 0 {},
    .run 0 {}, .run 0 {}, .run 0 { received := some (.message (registeredMessage (text "a"))) }, .run 0 {}, .take]

theorem client_refines_pinged :
    ∃ s single k, run step dialled pingedClient = some s ∧ run Client.step .fresh single = some k ∧
      k.pushed = [registeredMessage (text "a")] ∧ k.taken = 1 ∧ k.sent = [pongMessage (text "7")] := by
  have result : (run step dialled pingedClient).map (fun s => (s.pushed, s.taken, messagesTried s.tried)) =
      some ([registeredMessage (text "a")], 1, [pongMessage (text "7")]) := by
    decide +kernel
  obtain ⟨s, ran, shape⟩ := Option.map_eq_some_iff.mp result
  simp only [Prod.mk.injEq] at shape
  obtain ⟨single, k, alone, pushed, taken, sent, _⟩ := client_refines pingedClient s ran
  exact ⟨s, single, k, ran, alone, pushed.trans shape.1, taken.trans shape.2.1, sent.trans shape.2.2⟩

/-- The event loop gets the frames that are not keepalives, in their order, and a read error at the very end at most;
    each ping is answered once, in order, with its own token. -/
theorem client_events (moves : List WorkerMove) (s : Workers) (ran : run step dialled moves = some s) :
    ∃ handled, (s.read = handled ∨
        ∃ m pc, s.read = handled ++ [m] ∧ s.threads[0]? = some ⟨.readLoop, pc⟩ ∧ s.Keeps m pc) ∧
      (s.pushed = handled.filter Passes ∨ ∃ reason, s.pushed = handled.filter Passes ++ [brokerRead reason]) ∧
      ((messagesTried s.tried).filter fun m => m.type = .pong) = pongs handled := by
  obtain ⟨single, k, pc, alone, unanswering, reader, matched⟩ := refines_run ran
  have sorted := Client.sorted_run alone unanswering
  refine ⟨receivedFrames single, ?_, ?_, ?_⟩
  · refine matched.at_hand.imp_right ?_
    rintro ⟨m, last, keeps⟩
    exact ⟨m, pc, last, reader, keeps⟩
  · rw [← matched.pushed]
    cases closed : k.closed with
    | false => exact .inl (sorted.running closed)
    | true => exact sorted.ended closed
  · rw [← matched.sent]
    exact sorted.answered

theorem client_events_pinged :
    ∃ s, run step dialled pingedClient = some s ∧ s.pushed = [registeredMessage (text "a")] ∧
      pongs s.read = [pongMessage (text "7")] := by
  have result : (run step dialled pingedClient).map
      (fun s => (s.pushed, messagesTried s.tried, s.threads[0]?.map Thread.pc)) =
      some ([registeredMessage (text "a")], [pongMessage (text "7")], some .checking) := by
    decide +kernel
  obtain ⟨s, ran, shape⟩ := Option.map_eq_some_iff.mp result
  simp only [Prod.mk.injEq] at shape
  obtain ⟨pushed, tried, checking⟩ := shape
  obtain ⟨handled, rest, _, answered⟩ := client_events pingedClient s ran
  have whole : s.read = handled := by
    rcases rest with same | ⟨m, pc, _, reader, keeps⟩
    · exact same
    · rw [reader] at checking
      cases checking
      exact keeps.elim
  refine ⟨s, ran, pushed, ?_⟩
  rw [whole, ← answered, tried]
  rfl

end Workers

end Rtc2Tcp.Peer

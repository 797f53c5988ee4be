import Rtc2Tcp.Peer.Workers

namespace Rtc2Tcp.Peer

open Octets Go Signaling Rendezvous Transition Tally

/-- How many steps a goroutine has left at most, once the client is closed. -/
def Pc.rank : Pc → Nat
  | .returned _ => 0
  | .leaving | .waiting => 1
  | .closingEvents | .closingConn => 2
  | .checking | .reporting _ | .closingDone => 3
  | .pushing _ | .unlocking false | .entering => 4
  | .writing _ => 5
  | .locking _ => 6
  | .ticking | .reading => 7
  | .unlocking true => 8

def Thread.rank (thread : Thread) : Nat := thread.pc.rank

theorem Pc.rank_le (pc : Pc) : pc.rank ≤ 8 := by
  cases pc with
  | unlocking ok => cases ok <;> decide
  | _ => simp only [Pc.rank, Nat.reduceLeDiff]

def Pc.Free : Pc → Prop
  | .locking _ | .entering | .waiting | .returned _ => False
  | _ => True

/-- A step of the goroutines there are, or of the event loop. -/
def WorkerMove.Own : WorkerMove → Prop
  | .run .. | .take => True
  | .send _ | .close => False

namespace Workers

variable {s t : Workers} {role : Role} {pc pc' : Pc} {i : Nat}

def Over (s : Workers) : Prop := s.done = true ∧ s.connClosed = true

/-- Twice, so that a message pushed pays for its being taken. -/
def rank (s : Workers) : Nat := 2 * total Thread.rank s.threads + (s.pushed.length - s.taken)

theorem Advanced.lowers (advanced : Advanced s role pc t pc') (past : s.Over) :
    t.Over ∧ t.threads = s.threads ∧ t.taken = s.taken ∧
      2 * pc'.rank + (t.pushed.length - t.taken) < 2 * pc.rank + (s.pushed.length - s.taken) := by
  obtain ⟨done, closed⟩ := past
  cases advanced with
  | goesOn running =>
    rw [running] at done
    cases done
  | reads m =>
    refine ⟨⟨done, closed⟩, rfl, rfl, ?_⟩
    rcases dispatch_cases m with ⟨_, next⟩ | ⟨_, next⟩ | ⟨_, _, next⟩ <;> rw [next] <;> simp [Pc.rank]
  | reports | pushes =>
    refine ⟨⟨done, closed⟩, rfl, rfl, ?_⟩
    simp only [Pc.rank, List.length_append, List.length_singleton]
    omega
  | writes frame ok alive =>
    cases alive closed
    exact ⟨⟨done, closed⟩, rfl, rfl, by simp [Pc.rank]⟩
  | unlocks ok =>
    refine ⟨⟨done, closed⟩, rfl, rfl, ?_⟩
    cases role <;> cases ok <;> simp [Pc.rank, released]
  | closesDone => exact ⟨⟨rfl, closed⟩, rfl, rfl, by simp [Pc.rank]⟩
  | closesConn => exact ⟨⟨done, rfl⟩, rfl, rfl, by simp [Pc.rank]⟩
  | _ => exact ⟨⟨done, closed⟩, rfl, rfl, by simp [Pc.rank]⟩

theorem Sound.lowers (sound : s.Sound) (past : s.Over) {move : WorkerMove} (own : move.Own)
    (made : s.step move = some t) : t.Over ∧ t.rank < s.rank := by
  cases sound.stepped made with
  | calls | closes => cases own
  | takes filled =>
    refine ⟨past, ?_⟩
    simp only [rank]
    omega
  | runs i x role pc found u pc' advanced =>
    obtain ⟨after, threads, _, lower⟩ := advanced.lowers past
    refine ⟨after, ?_⟩
    have replaced : total Thread.rank _ + pc.rank = _ + pc'.rank := total_set found ⟨role, pc'⟩
    simp only [rank, threads]
    omega

theorem step_of_advance {x : Turn} {after : Workers × Pc} (found : s.threads[i]? = some ⟨role, pc⟩)
    (moved : s.advance role x pc = some after) : s.step (.run i x) ≠ none := by
  simp [step, found, moved]

theorem Sound.free_moves (sound : s.Sound) (done : s.done = true) (found : s.threads[i]? = some ⟨role, pc⟩)
    (free : pc.Free) : ∃ x, s.step (.run i x) ≠ none := by
  have fits := sound.fits_of found
  cases pc with
  | checking => exact ⟨{}, step_of_advance found rfl⟩
  | reading => exact ⟨{ received := some (.failed true []) }, step_of_advance found rfl⟩
  | reporting reason =>
    refine ⟨{}, ?_⟩
    by_cases ready : s.eventsClosed ∨ s.Room
    · exact step_of_advance found (if_pos ready)
    · exact step_of_advance found (if_neg ready)
  | pushing m => exact ⟨{ stop := true }, step_of_advance found (if_pos done)⟩
  | ticking => exact ⟨{ stop := true }, step_of_advance found (if_pos done)⟩
  | writing frame => exact ⟨{ ok := false }, step_of_advance found (if_neg fun both => absurd both.2 (by decide))⟩
  | unlocking ok => exact ⟨{}, step_of_advance found (if_pos (sound.held found))⟩
  | closingEvents =>
    refine ⟨{}, ?_⟩
    cases closed : s.eventsClosed with
    | false => exact step_of_advance found (if_neg (by rw [closed]; decide))
    | true => exact step_of_advance found (if_pos closed)
  | leaving =>
    refine ⟨{}, ?_⟩
    by_cases none : s.workers = 0
    · exact step_of_advance found (if_pos none)
    · exact step_of_advance found (if_neg none)
  | closingDone => exact ⟨{}, step_of_advance found (if_pos done)⟩
  | closingConn => exact ⟨{}, step_of_advance found rfl⟩
  | locking | entering | waiting | returned => cases free

/-- Once the client is being closed, its goroutines come to rest only when all of them have returned. -/
theorem Sound.rests (sound : s.Sound) (done : s.done = true) (rest : ∀ i x, s.step (.run i x) = none) :
    s.workers = 0 ∧ s.eventsClosed = true ∧ ∀ thread ∈ s.threads, ∃ ok, thread.pc = .returned ok := by
  have blocked : ∀ (i : Nat) (thread : Thread), s.threads[i]? = some thread → ¬thread.pc.Free := by
    intro i ⟨role, pc⟩ found free
    obtain ⟨x, moves⟩ := sound.free_moves done found free
    exact moves (rest i x)
  have idle : ∀ weight : Thread → Nat, (∀ thread, 0 < weight thread → thread.pc.Free) → total weight s.threads = 0 := by
    intro weight frees
    by_contra some
    obtain ⟨i, thread, found, heavy⟩ := exists_of_total_pos (Nat.pos_of_ne_zero some)
    exact blocked i thread found (frees thread heavy)
  have unlocked : s.writeMu = false := by
    have none := idle Thread.critical fun thread heavy => by
      obtain ⟨role, pc⟩ := thread
      cases pc <;> trivial
    rw [sound.mutex] at none
    cases held : s.writeMu with
    | false => rfl
    | true =>
      rw [held] at none
      cases none
  have closed : s.closeMu ≠ .running := by
    have stopping := idle Thread.stopping fun thread heavy => by
      obtain ⟨role, pc⟩ := thread
      cases pc <;> trivial
    have hangingUp := idle Thread.hangingUp fun thread heavy => by
      obtain ⟨role, pc⟩ := thread
      cases pc <;> trivial
    intro running
    have counted := sound.once
    rw [stopping, hangingUp, if_pos running] at counted
    cases counted
  have unlocking : ∀ (i : Nat) role frame, s.threads[i]? ≠ some ⟨role, .locking frame⟩ := by
    intro i role frame found
    apply step_of_advance found _ (rest i {})
    · exact ({ s with writeMu := true }, .writing frame)
    · exact if_neg (by rw [unlocked]; decide)
  have group : s.workers = 0 := by
    rw [← sound.group]
    by_contra some
    obtain ⟨i, ⟨role, pc⟩, found, heavy⟩ := exists_of_total_pos (Nat.pos_of_ne_zero some)
    have fits := sound.fits_of found
    have free := blocked i _ found
    cases pc with
    | locking frame => exact unlocking i role frame found
    | entering | waiting | returned =>
      cases role <;> first | exact Nat.lt_irrefl 0 heavy | exact False.elim fits
    | _ => exact free trivial
  have ended : ∀ thread ∈ s.threads, ∃ ok, thread.pc = .returned ok := by
    intro ⟨role, pc⟩ member
    obtain ⟨i, found⟩ := List.mem_iff_getElem?.mp member
    have free := blocked i _ found
    cases pc with
    | locking frame => exact absurd found (unlocking i role frame)
    | entering =>
      exfalso
      cases once : s.closeMu with
      | fresh =>
        apply step_of_advance found _ (rest i {})
        · exact ({ s with closeMu := .running }, .closingDone)
        · simp only [advance, once]
      | running => exact closed once
      | finished =>
        apply step_of_advance found _ (rest i {})
        · exact (s, .waiting)
        · simp only [advance, once]
    | waiting => exact absurd (rest i {}) (step_of_advance found (if_pos group))
    | returned ok => exact ⟨ok, rfl⟩
    | _ => exact absurd trivial free
  refine ⟨group, ?_, ended⟩
  cases past : s.eventsClosed with
  | true => rfl
  | false =>
    have one := sound.events
    rw [past] at one
    have published : total Thread.publishing s.threads = 1 := one
    obtain ⟨i, ⟨role, pc⟩, found, heavy⟩ := exists_of_total_pos (Nat.lt_of_lt_of_eq Nat.zero_lt_one published.symm)
    obtain ⟨ok, last⟩ := ended _ (List.mem_of_getElem? found)
    cases last
    cases role <;> cases heavy

structure Closing (s : Workers) : Prop where
  waiting : ∀ thread ∈ s.threads, thread.role = .close → thread.pc ≠ .entering → thread.pc ≠ .closingDone →
    thread.pc ≠ .closingConn → s.closeMu = .finished
  returned : ∀ thread ∈ s.threads, thread.role = .close → ∀ ok, thread.pc = .returned ok → s.workers = 0

theorem closing_dialled : dialled.Closing := by
  constructor <;> simp [dialled]

theorem Advanced.keeps (advanced : Advanced s role pc t pc') :
    t.threads = s.threads ∧ (s.closeMu = .finished → t.closeMu = .finished) ∧ (s.workers = 0 → t.workers = 0) := by
  cases advanced with
  | leaves => exact ⟨rfl, fun same => same, fun none => by simp only [none, Nat.zero_sub]⟩
  | enters fresh =>
    refine ⟨rfl, ?_, fun same => same⟩
    rw [fresh]
    rintro ⟨⟩
  | closesConn => exact ⟨rfl, fun _ => rfl, fun same => same⟩
  | _ => exact ⟨rfl, fun same => same, fun same => same⟩

theorem Closing.step (closing : s.Closing) (sound : s.Sound) {move : WorkerMove} (made : s.step move = some t) :
    t.Closing := by
  cases sound.stepped made with
  | calls call =>
    constructor
    · intro thread member
      rcases List.mem_append.mp member with old | new
      · exact closing.waiting thread old
      · cases List.mem_singleton.mp new
        rintro ⟨⟩
    · intro thread member
      rcases List.mem_append.mp member with old | new
      · exact closing.returned thread old
      · cases List.mem_singleton.mp new
        rintro ⟨⟩
  | closes =>
    constructor
    · intro thread member
      rcases List.mem_append.mp member with old | new
      · exact closing.waiting thread old
      · cases List.mem_singleton.mp new
        exact fun _ other => absurd rfl other
    · intro thread member
      rcases List.mem_append.mp member with old | new
      · exact closing.returned thread old
      · cases List.mem_singleton.mp new
        rintro _ ok ⟨⟩
  | takes => exact ⟨closing.waiting, closing.returned⟩
  | runs i x role pc found u pc' advanced =>
    obtain ⟨threads, finished, none⟩ := advanced.keeps
    have before := List.mem_of_getElem? found
    constructor
    · intro thread member closes entering done conn
      rw [threads] at member
      rcases List.mem_or_eq_of_mem_set member with old | rfl
      · exact finished (closing.waiting thread old closes entering done conn)
      · cases closes
        have fits := sound.fits_of found
        cases advanced with
        | joins past => exact past
        | closesConn => rfl
        | waits => exact closing.waiting _ before rfl (by simp) (by simp) (by simp)
        | enters => exact absurd rfl done
        | closesDone => exact absurd rfl conn
        | _ => exact False.elim fits
    · intro thread member closes ok last
      rw [threads] at member
      rcases List.mem_or_eq_of_mem_set member with old | rfl
      · exact none (closing.returned thread old closes ok last)
      · cases closes
        have fits := sound.fits_of found
        cases advanced with
        | waits all => exact all
        | joins | closesConn | enters | closesDone => cases last
        | _ => exact False.elim fits

theorem closing_run {moves : List WorkerMove} (ran : run step dialled moves = some s) : s.Closing := by
  have preserved : ∀ (u : Workers) (move : WorkerMove) (v : Workers), u.Sound ∧ u.Closing → u.step move = some v →
      v.Sound ∧ v.Closing := by
    rintro u move v ⟨sound, closing⟩ made
    exact ⟨sound.step made, closing.step sound made⟩
  exact (run_preserves preserved _ _ moves ⟨sound_dialled, closing_dialled⟩ ran).2

theorem Thread.publishing_le (thread : Thread) : thread.publishing ≤ thread.working := by
  obtain ⟨role, pc⟩ := thread
  cases role <;> cases pc <;> simp [Thread.publishing, Thread.working]

theorem Sound.all_returned (sound : s.Sound) (none : s.workers = 0) :
    s.eventsClosed = true ∧ ∀ thread ∈ s.threads, thread.role.IsWorker = true → ∃ ok, thread.pc = .returned ok := by
  have working := sound.group
  rw [none] at working
  constructor
  · have most : total Thread.publishing s.threads ≤ _ := total_mono fun thread _ => Thread.publishing_le thread
    have one := sound.events
    cases closed : s.eventsClosed with
    | true => rfl
    | false =>
      rw [closed, Bool.toNat_false] at one
      omega
  · intro ⟨role, pc⟩ member worker
    obtain ⟨i, found⟩ := List.mem_iff_getElem?.mp member
    have most : Thread.working ⟨role, pc⟩ ≤ _ := weight_le_total found
    rw [working] at most
    cases pc with
    | returned ok => exact ⟨ok, rfl⟩
    | _ => cases role <;> first | exact absurd most (Nat.not_succ_le_zero 0) | exact absurd worker Bool.false_ne_true

theorem Sound.finished_over (sound : s.Sound) (finished : s.closeMu = .finished) : s.Over := by
  constructor
  · have stopped := sound.stopped
    rw [if_pos finished] at stopped
    cases done : s.done with
    | true => rfl
    | false =>
      rw [done, Bool.toNat_false] at stopped
      omega
  · rw [sound.hungUp, finished]
    rfl

theorem Sound.closer_moves (sound : s.Sound) (found : s.threads[i]? = some ⟨role, pc⟩)
    (inside : pc = .closingDone ∨ pc = .closingConn) : role = .close ∧ s.step (.run i {}) ≠ none := by
  refine ⟨(sound.fits_of found).closing (.inr inside), ?_⟩
  rcases inside with rfl | rfl
  · exact step_of_advance found (if_neg (by rw [sound.running found]; decide))
  · exact step_of_advance found rfl

/-- No goroutine of the client ever panics, no two of them write at once, and after a call of `Close` has returned
    the others have, too. -/
theorem client_safe (moves : List WorkerMove) (s : Workers) (ran : run step dialled moves = some s) :
    s.panicked = false ∧
    (∀ (i j : Nat) (a b : Thread), s.threads[i]? = some a → s.threads[j]? = some b → a.critical = 1 → b.critical = 1 →
      i = j) ∧
    ∀ thread ∈ s.threads, thread.role = .close → ∀ ok, thread.pc = .returned ok →
      s.done = true ∧ s.connClosed = true ∧ s.eventsClosed = true ∧
        ∀ worker ∈ s.threads, worker.role.IsWorker = true → ∃ ok, worker.pc = .returned ok := by
  have sound := sound_run ran
  refine ⟨sound.calm, ?_, ?_⟩
  · intro i j a b first second one other
    by_contra distinct
    have both : Thread.critical a + Thread.critical b ≤ _ := weights_le_total first second distinct
    rw [sound.mutex, one, other] at both
    cases held : s.writeMu <;> rw [held] at both <;> exact absurd both (by decide)
  · intro thread member closes ok last
    have closing := closing_run ran
    have finished := closing.waiting thread member closes (by rw [last]; simp) (by rw [last]; simp) (by rw [last]; simp)
    obtain ⟨events, workers⟩ := sound.all_returned (closing.returned thread member closes ok last)
    refine ⟨?_, ?_, events, workers⟩
    · exact (sound.finished_over finished).1
    · exact (sound.finished_over finished).2

def closedAtOnce : List WorkerMove :=
  [.close, .run 3 {}, .run 3 {}, .run 3 {}, .run 0 {}, .run 0 {}, .run 0 {}, .run 1 { stop := true }, .run 1 {},
    .run 2 { stop := true }, .run 2 {}, .run 3 {}]

theorem client_safe_closed :
    ∃ s, run step dialled closedAtOnce = some s ∧ s.threads[3]? = some ⟨.close, .returned true⟩ ∧ s.panicked = false ∧
      s.eventsClosed = true := by
  have result : (run step dialled closedAtOnce).map (fun s => s.threads[3]?) =
      some (some ⟨.close, .returned true⟩) := by
    decide +kernel
  obtain ⟨s, ran, last⟩ := Option.map_eq_some_iff.mp result
  obtain ⟨calm, _, closed⟩ := client_safe closedAtOnce s ran
  exact ⟨s, ran, last, calm, (closed _ (List.mem_of_getElem? last) rfl true rfl).2.2.1⟩

/-- A call of `Close` can always go on until it has closed the connection, and from then on the client comes to rest
    after a bounded number of steps, with every goroutine returned. -/
theorem close_terminates (moves : List WorkerMove) (s : Workers) (ran : run step dialled moves = some s) :
    ((∃ thread ∈ s.threads, thread.role = .close) → s.closeMu ≠ .finished →
      ∃ (i : Nat) (pc : Pc), s.threads[i]? = some ⟨.close, pc⟩ ∧ s.step (.run i {}) ≠ none) ∧
    (s.closeMu = .finished → ∀ more t, (∀ move ∈ more, WorkerMove.Own move) → run step s more = some t →
      more.length ≤ 16 * s.threads.length + (s.pushed.length - s.taken) ∧
      ((∀ i x, t.step (.run i x) = none) →
        t.eventsClosed = true ∧ ∀ thread ∈ t.threads, ∃ ok, thread.pc = .returned ok)) := by
  have sound := sound_run ran
  constructor
  · rintro ⟨⟨role, pc⟩, member, ⟨⟩⟩ unfinished
    obtain ⟨i, found⟩ := List.mem_iff_getElem?.mp member
    have early := (closing_run ran).waiting _ member rfl
    by_cases inside : pc = .closingDone ∨ pc = .closingConn
    · exact ⟨i, pc, found, (sound.closer_moves found inside).2⟩
    · have entering : pc = .entering := by
        by_contra other
        exact unfinished (early other (fun same => inside (.inl same)) fun same => inside (.inr same))
      subst entering
      cases once : s.closeMu with
      | fresh =>
        have moved : s.advance .close {} .entering = some ({ s with closeMu := .running }, .closingDone) := by
          simp only [advance, once]
        exact ⟨i, .entering, found, step_of_advance found moved⟩
      | running =>
        -- Another call is inside the once, and it is the one that can go on.
        have counted := sound.once
        rw [if_pos once] at counted
        have some : 0 < total Thread.stopping s.threads ∨ 0 < total Thread.hangingUp s.threads := by omega
        rcases some with some | some
        · obtain ⟨j, ⟨other, pc⟩, there, heavy⟩ := exists_of_total_pos some
          have here : pc = .closingDone := by
            by_contra elsewhere
            exact absurd heavy (by simp [Thread.stopping, elsewhere])
          obtain ⟨rfl, moves⟩ := sound.closer_moves there (.inl here)
          exact ⟨j, pc, there, moves⟩
        · obtain ⟨j, ⟨other, pc⟩, there, heavy⟩ := exists_of_total_pos some
          have here : pc = .closingConn := by
            by_contra elsewhere
            exact absurd heavy (by simp [Thread.hangingUp, elsewhere])
          obtain ⟨rfl, moves⟩ := sound.closer_moves there (.inr here)
          exact ⟨j, pc, there, moves⟩
      | finished => exact absurd once unfinished
  · intro finished more t own went
    have lowers : ∀ (u : Workers) (move : WorkerMove) (v : Workers), u.Sound ∧ u.Over → move.Own → u.step move = some v →
        (v.Sound ∧ v.Over) ∧ v.rank < u.rank := by
      rintro u move v ⟨sound, past⟩ own made
      obtain ⟨after, lower⟩ := sound.lowers past own made
      exact ⟨⟨sound.step made, after⟩, lower⟩
    obtain ⟨⟨last, past⟩, bound⟩ := run_length_le rank lowers s t more ⟨sound, sound.finished_over finished⟩ own went
    have most : total Thread.rank s.threads ≤ 8 * s.threads.length := total_le 8 fun thread _ => thread.pc.rank_le
    constructor
    · unfold rank at bound
      omega
    · intro rest
      exact (last.rests past.1 rest).2

def closedWhileBusy : List WorkerMove :=
  List.flatten (List.replicate 32 [.run 0 {}, .run 0 { received := some (.message (registeredMessage [])) }, .run 0 {}]) ++
    [.run 0 {}, .run 0 { received := some (.message (registeredMessage [])) }, .run 1 {}, .run 1 {},
      .send (.signal { kind := .offer }), .close, .run 4 {}, .run 4 {}, .run 4 {}]

theorem close_terminates_busy :
    ∃ s, run step dialled closedWhileBusy = some s ∧ s.closeMu = .finished ∧
      s.threads.map Thread.pc =
        [.pushing (registeredMessage []), .writing .control, .ticking, .locking (.data (signalMessage { kind := .offer })),
          .waiting] ∧
      ∀ more t, (∀ move ∈ more, WorkerMove.Own move) → run step s more = some t → more.length ≤ 16 * 5 + 32 := by
  have result : (run step dialled closedWhileBusy).map (fun s => (s.closeMu, s.threads.map Thread.pc,
      s.pushed.length - s.taken)) = some (.finished, [.pushing (registeredMessage []), .writing .control, .ticking,
        .locking (.data (signalMessage { kind := .offer })), .waiting], 32) := by
    decide +kernel
  obtain ⟨s, ran, shape⟩ := Option.map_eq_some_iff.mp result
  simp only [Prod.mk.injEq] at shape
  obtain ⟨finished, pcs, full⟩ := shape
  refine ⟨s, ran, finished, pcs, ?_⟩
  intro more t own went
  have bound := ((close_terminates closedWhileBusy s ran).2 finished more t own went).1
  have five : s.threads.length = 5 := by
    have lengths := congrArg List.length pcs
    rwa [List.length_map] at lengths
  rwa [five, full] at bound

end Workers

end Rtc2Tcp.Peer

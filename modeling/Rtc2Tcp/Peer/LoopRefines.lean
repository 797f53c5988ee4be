import Rtc2Tcp.Peer.LoopReports
import Rtc2Tcp.Peer.Network

namespace Rtc2Tcp.Peer

open Octets Go Signaling WebRTC Goroutine

inductive ProcessAct where
  | take (event : Option Signaling.Message) (x : Outcome)
  | advance (next : SessionState)
  | stop (error : Option RunError) (x : Outcome)

def processStep (s : Process × List Signal) : ProcessAct → Option (Process × List Signal)
  | .take event x =>
    if s.1.returned = none ∧ s.1.detached = false then
      some ((s.1.handleEvent event x).1, s.2 ++ (s.1.handleEvent event x).2)
    else none
  | .advance next => (Network.advance s.1 next).map fun p => (p, s.2)
  | .stop error x => (Network.stop s.1 error x).map fun p => (p, s.2)

def ProcessAct.taken : ProcessAct → List (Option Signaling.Message)
  | .take event _ => [event]
  | _ => []

def LoopMove.taken : LoopMove → List (Option Signaling.Message)
  | .event message _ => [message]
  | _ => []

def processEvents (acts : List ProcessAct) : List (Option Signaling.Message) := acts.flatMap ProcessAct.taken

def loopEvents (moves : List LoopMove) : List (Option Signaling.Message) := moves.flatMap LoopMove.taken

/-- The process is not at its end, and `closeOnce` says whether its session is over. -/
structure Process.Live (p : Process) : Prop where
  unreturned : p.returned = none
  once : p.closeOnce = decide p.state.Over
  unclosed : p.state ≠ .closing ∧ p.state ≠ .closed

theorem over_failed {state : SessionState} (ended : state.Over) (unclosed : state ≠ .closing ∧ state ≠ .closed) :
    state = .failed := by
  rcases ended with rfl | rfl | rfl
  · rfl
  · exact absurd rfl unclosed.1
  · exact absurd rfl unclosed.2

theorem transition_failed {state : SessionState} (running : ¬state.Over) : state.transition .failed = some .failed := by
  revert running
  cases state <;> decide

theorem transition_closing {state : SessionState} (running : ¬state.Over) : state.transition .closing = some .closing := by
  revert running
  cases state <;> decide

namespace Process

structure Failed (p : Process) (e : RunError) (q : Process) : Prop where
  mode : q.mode = p.mode
  detached : q.detached = p.detached
  session : q.session = p.session
  returned : q.returned = some (some e)
  state : p.session ≠ none → q.state = .failed
  unchanged : p.session = none → q.state = p.state

theorem Live.fails {p : Process} (live : p.Live) (e : RunError) (x : Outcome) : p.Failed e (p.failSession e x) := by
  have once := live.once
  cases session : p.session with
  | none =>
    have alone : p.failSession e x = { p with returned := some (some e) } := by
      simp [Process.failSession, Process.fail, Process.finish, Process.close, session]
    rw [alone]
    exact ⟨rfl, rfl, rfl, rfl, fun paired => absurd session paired, fun _ => rfl⟩
  | some id =>
    by_cases ended : p.state.Over
    · have done : p.closeOnce = true := by rw [once]; exact decide_eq_true ended
      have same : p.failSession e x = { p with returned := some (some e) } := by
        simp [Process.failSession, Process.fail, Process.finish, Process.close, done]
      rw [same]
      exact ⟨rfl, rfl, rfl, rfl, fun _ => over_failed ended live.unclosed, fun none => by cases session.symm.trans none⟩
    · have fresh : p.closeOnce = false := by rw [once]; exact decide_eq_false ended
      have running : ¬(p.state = .failed ∨ p.state = .closed) := by
        rintro (same | same) <;> exact ended (by rw [same]; decide)
      have failed : p.failSession e x = { p with closeOnce := true, state := .failed, returned := some (some e) } := by
        simp [Process.failSession, Process.fail, Process.finish, Process.close, session, fresh, running,
          transition_failed ended]
      rw [failed]
      exact ⟨rfl, rfl, rfl, rfl, fun _ => rfl, fun none => by cases session.symm.trans none⟩

theorem Live.finishes {p : Process} (live : p.Live) (result : Option RunError) (state : SessionState) (ended : state.Over)
    (paired : p.session ≠ none) (reached : p.state = state ∨ (¬p.state.Over ∧ (state = .closing ∨ state = .closed))) :
    ∃ x, (p.finish result x).state = state ∧ (p.finish result x).detached = p.detached ∧
      (p.finish result x).mode = p.mode := by
  rcases reached with rfl | ⟨running, closing⟩
  · have done : p.closeOnce = true := by rw [live.once]; exact decide_eq_true ended
    refine ⟨{}, ?_⟩
    simp [Process.finish, Process.close, done]
  · have fresh : p.closeOnce = false := by rw [live.once]; exact decide_eq_false running
    have open' : ¬(p.state = .closed ∨ p.state = .failed) := by
      rintro (same | same) <;> exact running (by rw [same]; decide)
    refine ⟨{ pcClosed := decide (state = .closed) }, ?_⟩
    rcases closing with rfl | rfl
    · simp [Process.finish, Process.close, paired, fresh, open', transition_closing running]
    · have shut : SessionState.closing.transition .closed = some .closed := by decide
      simp [Process.finish, Process.close, paired, fresh, open', transition_closing running, shut]

theorem Live.advances {p : Process} (live : p.Live) (paired : p.session ≠ none) {next : SessionState}
    (moved : p.state.transition next = some next) (unclosed : next ≠ .closing ∧ next ≠ .closed) :
    ∃ q, Network.advance p next = some q ∧ q.Live ∧ q.state = next ∧ q.session = p.session ∧ q.mode = p.mode ∧
      q.detached = p.detached := by
  refine ⟨{ p with state := next, closeOnce := p.closeOnce || decide next.Over }, ?_, ⟨live.unreturned, ?_, unclosed⟩,
    rfl, rfl, rfl, rfl⟩
  · simp [Network.advance, paired, moved]
  · show (p.closeOnce || decide next.Over) = decide next.Over
    rw [live.once]
    by_cases ended : p.state.Over
    · have later := SessionState.transition_over _ _ _ ended moved
      simp [later]
    · simp [ended]

end Process

namespace Loop

variable {A : Authenticator}

structure Level (l : Loop A) (p : Process) : Prop where
  live : p.Live
  session : p.session = none ↔ l.pool = none
  state : p.state = l.stateNow

/-- States a session can get to from `signaling` on its way, one transition after the other. -/
inductive Path : SessionState → Prop where
  | start : Path .signaling
  | step (state next : SessionState) (path : Path state) (moved : state.transition next = some next)
      (unclosed : next ≠ .closing ∧ next ≠ .closed) : Path next

/-- How far the process has followed the loop. The events pending are those the loop has taken and the process has not: a
    process handles an event at once, when the loop is done with it. -/
inductive Phase (l : Loop A) : List (Option Signaling.Message) → Process → Prop where
  | select (p : Process) (here : l.pc = .select) (level : Level l p) : Phase l [] p
  | handlingOffer (p : Process) (i : Nat) (m : Signaling.Message) (here : l.pc = .handlingOffer i) (level : Level l p)
      (attached : l.detached = false) (paired : p.session ≠ none)
      (answers : ∀ (q : Process) x answer, q.session ≠ none → x.answer = some answer → x.sent = true →
        q.handleEvent (some m) x = (q, [Process.answerSignal answer]))
      (refuses : ∀ (q : Process) x, q.session ≠ none → x.answer = none ∨ x.sent = false →
        q.handleEvent (some m) x = (q.failSession .handleSignal x, [])) : Phase l [some m] p
  | applying (p : Process) (i : Nat) (m : Signaling.Message) (here : l.pc = .applying i) (level : Level l p)
      (attached : l.detached = false) (paired : p.session ≠ none)
      (applies : ∀ (q : Process) x, q.session ≠ none → x.applied = true → q.handleEvent (some m) x = (q, []))
      (refuses : ∀ (q : Process) x, q.session ≠ none → x.applied = false →
        q.handleEvent (some m) x = (q.failSession .handleSignal x, [])) : Phase l [some m] p
  | creatingOffer (p q : Process) (i : Nat) (m : Signaling.Message) (here : l.pc = .creatingOffer i)
      (attached : l.detached = false) (unreturned : p.returned = none) (paired : l.pool ≠ none)
      (path : Path l.stateNow) (live : q.Live)
      (signaling : q.state = .signaling) (session : q.session ≠ none) (mode : q.mode = p.mode)
      (detached : q.detached = p.detached)
      (offers : ∀ x offer, x.newSession = true → x.offer = some offer → x.sent = true →
        p.handleEvent (some m) x = (q, [Process.offerSignal offer]))
      (unsent : ∀ x offer, x.newSession = true → x.offer = some offer → x.sent = false →
        p.handleEvent (some m) x = (q.failSession .sendSignal x, []))
      (refuses : ∀ x, x.newSession = true → x.offer = none →
        p.handleEvent (some m) x = (q.failSession .createOffer x, [])) : Phase l [some m] p
  | failing (p : Process) (i : Nat) (e : RunError) (here : l.pc = .failing i e) (returned : p.returned = some (some e))
      (failed : p.state = .failed) : Phase l [] p
  | failed (p : Process) (i : Nat) (result : Option RunError) (here : l.pc = .closing i result)
      (returned : p.returned = some result) (failed : p.state = .failed) (same : l.stateNow = .failed) : Phase l [] p
  | closing (p : Process) (pending : List (Option Signaling.Message)) (i : Nat) (result : Option RunError)
      (act : Outcome → ProcessAct) (here : l.pc = .closing i result) (live : p.Live) (paired : p.session ≠ none)
      (reached : p.state = l.stateNow ∨ (¬p.state.Over ∧ (l.stateNow = .closing ∨ l.stateNow = .closed)))
      (takes : ∀ x, (act x).taken = pending)
      (acts : ∀ (q : Process) sent x, q.session ≠ none → q.returned = none → q.detached = l.detached →
        processStep (q, sent) (act x) = some (q.finish result x, sent)) : Phase l pending p
  | returned (p : Process) (result : Option RunError) (here : l.pc = .returned result)
      (returned : p.returned = some result) (ended : p.state.Over ↔ l.stateNow.Over) : Phase l [] p

structure Follows (l : Loop A) (s : Process × List Signal) : Prop where
  mode : s.1.mode = l.mode
  detached : s.1.detached = l.detached
  sent : s.2 = l.sent

def Simulated (m : Loop A) (s : Process × List Signal) (events : List (Option Signaling.Message)) : Prop :=
  ∃ acts t pending, Transition.run processStep s acts = some t ∧ m.Follows t ∧ Phase m pending t.1 ∧
    events = processEvents acts ++ pending

theorem Simulated.stays {m : Loop A} {s : Process × List Signal} {pending : List (Option Signaling.Message)}
    (follows : m.Follows s) (phase : Phase m pending s.1) : Simulated m s pending :=
  ⟨[], s, pending, rfl, follows, phase, rfl⟩

theorem Simulated.act {m : Loop A} {s t : Process × List Signal} {act : ProcessAct}
    {events : List (Option Signaling.Message)} (acted : processStep s act = some t) (rest : Simulated m t events) :
    Simulated m s (act.taken ++ events) := by
  obtain ⟨acts, u, pending, ran, follows, phase, rfl⟩ := rest
  refine ⟨act :: acts, u, pending, ?_, follows, phase, ?_⟩
  · simp only [Transition.run, acted, ran]
  · simp [processEvents]

variable {unmarshalString : Bytes → Option SessionDescription} {decodeMessage : Bytes → Option Auth.Message}
  {taken : Taken A} {l m : Loop A}
  {s : Process × List Signal} {p q : SessionPool A}

theorem state_step {mode : PeerMode} {move : Goroutine.Move Choice WebRTC.Call}
    (stepped : (system unmarshalString decodeMessage A mode).step p move = some q) :
    q.shared.state = p.shared.state ∨ p.shared.state.transition q.shared.state = some q.shared.state := by
  rcases System.step_cases stepped with ⟨call, t, _, entered, rfl⟩ |
    ⟨β, op, next, call, before, after, choice, result, t, _, _, executed, rfl⟩
  · left
    exact congrArg WebRTC.Session.state (enter_same call _ _ entered)
  · rcases exec_target executed with same | ⟨_, moved⟩
    · exact .inl same
    · exact .inr moved

theorem stateNow_some (found : l.pool = some p) : l.stateNow = p.shared.state := by
  simp [stateNow, found]

theorem Sound.unclosed_state (sound : Sound unmarshalString decodeMessage taken l) (here : l.pc.Left = false)
    (found : l.pool = some p) : p.shared.state ≠ .closing ∧ p.shared.state ≠ .closed := by
  have unclosed : .close ∉ p.calls := by
    intro member
    have left := sound.unclosed p found member
    rw [here] at left
    cases left
  exact ⟨fun same => unclosed ((sound.reached p found).closing (.inl same)),
    fun same => unclosed ((sound.reached p found).closing (.inr same))⟩

theorem Level.moves {a : Process} (level : Level l a) (found : l.pool = some p)
    (moved : q.shared.state = p.shared.state ∨ p.shared.state.transition q.shared.state = some q.shared.state)
    (unclosed : q.shared.state ≠ .closing ∧ q.shared.state ≠ .closed) :
    Level { l with pool := some q } a ∨ ∃ b, Network.advance a q.shared.state = some b ∧
      Level { l with pool := some q } b ∧ b.session = a.session ∧ b.mode = a.mode ∧ b.detached = a.detached := by
  have paired : a.session ≠ none := by
    intro none
    cases found.symm.trans (level.session.mp none)
  have state : a.state = p.shared.state := level.state.trans (stateNow_some found)
  rcases moved with same | moved
  · refine .inl ⟨level.live, by simp [paired], ?_⟩
    show a.state = q.shared.state
    rw [state, same]
  · rw [← state] at moved
    obtain ⟨b, advanced, live, arrived, session, mode, detached⟩ := level.live.advances paired moved unclosed
    refine .inr ⟨b, advanced, ⟨live, ?_, arrived⟩, session, mode, detached⟩
    rw [session]
    simp [paired]

theorem Simulated.advance {events : List (Option Signaling.Message)} {b : Process} {next : SessionState}
    (advanced : Network.advance s.1 next = some b) (rest : Simulated m (b, s.2) events) : Simulated m s events := by
  have acted : processStep s (.advance next) = some (b, s.2) := by simp [processStep, advanced]
  exact Simulated.act acted rest

theorem Follows.advanced (follows : l.Follows s) {b : Process} (mode : b.mode = s.1.mode)
    (detached : b.detached = s.1.detached) :
    l.Follows (b, s.2) :=
  ⟨mode.trans follows.mode, detached.trans follows.detached, follows.sent⟩

theorem simulated_session (sound : Sound unmarshalString decodeMessage (fun _ _ _ => True) l) (follows : l.Follows s)
    {pending : List (Option Signaling.Message)} (phase : Phase l pending s.1) (found : l.pool = some p)
    {move : Goroutine.Move Choice WebRTC.Call} (allowed : l.Allows move = true)
    (stepped : (system unmarshalString decodeMessage A l.mode).step p move = some q) :
    Simulated { l with pool := some q } s pending := by
  have later := sound.session found (fun _ _ _ => trivial) allowed stepped
  have moved := state_step stepped
  have quiet : Follows { l with pool := some q } s := ⟨follows.mode, follows.detached, follows.sent⟩
  have now : l.stateNow = p.shared.state := stateNow_some found
  -- the phases in which the process is where the loop is
  have level : ∀ {a : Process} {pending : List (Option Signaling.Message)}, s.1 = a → Level l a → l.pc.Left = false →
      (∀ b : Process, Level { l with pool := some q } b → b.session = a.session → Phase { l with pool := some q } pending b) →
      Simulated { l with pool := some q } s pending := by
    rintro _ pending rfl level here next
    rcases level.moves found moved (later.unclosed_state here rfl) with same | ⟨b, advanced, levelB, session, mode, detached⟩
    · exact .stays quiet (next _ same rfl)
    · exact .advance advanced (.stays (quiet.advanced mode detached) (next b levelB session))
  cases phase with
  | select a here same => exact level rfl same (by rw [here]; rfl) fun b levelB _ => .select b here levelB
  | handlingOffer a i message here same attached paired answers refuses =>
    exact level rfl same (by rw [here]; rfl) fun b levelB session =>
      .handlingOffer b i message here levelB attached (by rwa [session]) answers refuses
  | applying a i message here same attached paired applies refuses =>
    exact level rfl same (by rw [here]; rfl) fun b levelB session =>
      .applying b i message here levelB attached (by rwa [session]) applies refuses
  | creatingOffer a b i message here attached unreturned paired path live signaling session mode detached offers unsent
      refuses =>
    refine .stays quiet (.creatingOffer _ b i message here attached unreturned (by rintro ⟨⟩) ?_ live signaling session mode
      detached offers unsent refuses)
    show Path q.shared.state
    rw [now] at path
    rcases moved with same | moved
    · rwa [same]
    · exact .step _ _ path moved (later.unclosed_state (by rw [show _ = l.pc from rfl, here]; rfl) rfl)
  | failing a i e here returned failed => exact .stays quiet (.failing _ i e here returned failed)
  | failed a i result here returned failed same =>
    refine .stays quiet (.failed _ i result here returned failed ?_)
    show q.shared.state = .failed
    rw [now] at same
    rcases moved with kept | moved
    · rw [kept, same]
    · rw [same] at moved
      have stuck : SessionState.failed.transition q.shared.state = none := SessionState.Terminal.stuck (.inr rfl) _
      cases stuck.symm.trans moved
  | closing a pending i result act here live paired reached takes acts =>
    rw [now] at reached
    have advances : s.1.state.transition q.shared.state = some q.shared.state →
        (q.shared.state ≠ .closing ∧ q.shared.state ≠ .closed) → Simulated { l with pool := some q } s pending := by
      intro moved unclosed
      obtain ⟨b, advanced, liveB, arrived, session, mode, detached⟩ := live.advances paired moved unclosed
      refine .advance advanced (.stays (quiet.advanced mode detached) ?_)
      exact .closing b pending i result act here liveB (by rwa [session]) (.inl arrived) takes acts
    have stays : (s.1.state = q.shared.state ∨ (¬s.1.state.Over ∧ (q.shared.state = .closing ∨ q.shared.state = .closed))) →
        Simulated { l with pool := some q } s pending := fun reachedQ =>
      .stays quiet (.closing _ pending i result act here live paired reachedQ takes acts)
    rcases moved with same | moved
    · rw [← same] at reached
      exact stays reached
    · have running : s.1.state = p.shared.state → ¬s.1.state.Over := by
        intro same ended
        have failed := over_failed ended live.unclosed
        rw [← same, failed, SessionState.Terminal.stuck (.inr rfl)] at moved
        cases moved
      by_cases closing : q.shared.state = .closing ∨ q.shared.state = .closed
      · exact stays (.inr ⟨reached.elim running And.left, closing⟩)
      · have unclosed : q.shared.state ≠ .closing ∧ q.shared.state ≠ .closed := not_or.mp closing
        rcases reached with same | ⟨alive, shutting⟩
        · rw [← same] at moved
          exact advances moved unclosed
        · have failed : q.shared.state = .failed := by
            refine over_failed (SessionState.transition_over _ _ _ ?_ moved) unclosed
            rcases shutting with shutting | shutting <;> rw [shutting] <;> decide
          refine advances ?_ unclosed
          rw [failed]
          exact transition_failed alive
  | returned a result here returned ended =>
    refine .stays quiet (.returned _ result here returned ?_)
    have over' := (later.ended result here q rfl).1
    have before := (sound.ended result here p found).1
    rw [now] at ended
    exact ⟨fun _ => over', fun _ => ended.mpr before⟩

theorem fail_phase {a : Process} (live : a.Live) (session : a.session = none ↔ l.pool = none)
    (state : a.session = none → a.state = l.stateNow) (e : RunError) (x : Outcome) :
    Phase (l.failSession unmarshalString decodeMessage e) [] (a.failSession e x) := by
  have fails := live.fails e x
  unfold Loop.failSession
  split
  · rename_i none
    have alone := session.mpr none
    refine .returned _ (some e) rfl fails.returned ?_
    rw [fails.unchanged alone, state alone]
    rfl
  · rename_i p found
    refine .failing _ _ e rfl fails.returned (fails.state ?_)
    intro none
    cases found.symm.trans (session.mp none)

theorem failSession_follows (follows : l.Follows s) {a : Process} (mode : a.mode = s.1.mode)
    (detached : a.detached = s.1.detached) (live : a.Live) (e : RunError) (x : Outcome) :
    (l.failSession unmarshalString decodeMessage e).Follows (a.failSession e x, s.2) := by
  have fails := live.fails e x
  have same : (l.failSession unmarshalString decodeMessage e).mode = l.mode ∧
      (l.failSession unmarshalString decodeMessage e).detached = l.detached ∧
      (l.failSession unmarshalString decodeMessage e).sent = l.sent := by
    unfold Loop.failSession
    split <;> exact ⟨rfl, rfl, rfl⟩
  exact ⟨by rw [same.1, fails.mode, mode, follows.mode], by rw [same.2.1, fails.detached, detached, follows.detached],
    by rw [same.2.2]; exact follows.sent⟩

theorem simulated_fail (follows : l.Follows s) (level : Level l s.1) (e : RunError) (x : Outcome) (act : ProcessAct)
    (acted : processStep s act = some (s.1.failSession e x, s.2)) :
    Simulated (l.failSession unmarshalString decodeMessage e) s act.taken := by
  have rest : Simulated (l.failSession unmarshalString decodeMessage e) (s.1.failSession e x, s.2) [] :=
    .stays (failSession_follows follows rfl rfl level.live e x)
      (fail_phase level.live level.session (fun _ => level.state) e x)
  have both := Simulated.act acted rest
  rwa [List.append_nil] at both

theorem simulated_leave (follows : l.Follows s) (level : Level l s.1) (result : Option RunError) (act : Outcome → ProcessAct)
    (pending : List (Option Signaling.Message)) (takes : ∀ x, (act x).taken = pending)
    (alone : l.pool = none → processStep s (act {}) = some (s.1.finish result {}, s.2))
    (acts : l.pool ≠ none → ∀ (a : Process) sent x, a.session ≠ none → a.returned = none → a.detached = l.detached →
      processStep (a, sent) (act x) = some (a.finish result x, sent)) :
    Simulated (l.leave unmarshalString decodeMessage result) s pending := by
  unfold Loop.leave
  split
  · rename_i unpaired
    have single : s.1.session = none := level.session.mpr unpaired
    have finished : s.1.finish result {} = { s.1 with returned := some result } := by
      simp [Process.finish, Process.close, single]
    have rest : Simulated { l with pc := .returned result } (s.1.finish result {}, s.2) [] := by
      rw [finished]
      refine .stays ⟨follows.mode, follows.detached, follows.sent⟩ (.returned _ result rfl rfl ?_)
      show s.1.state.Over ↔ l.stateNow.Over
      rw [level.state]
    have both := Simulated.act (alone unpaired) rest
    rwa [List.append_nil, takes] at both
  · rename_i p found
    have open' : l.pool ≠ none := by
      rw [found]
      rintro ⟨⟩
    refine .stays ⟨follows.mode, follows.detached, follows.sent⟩
      (.closing _ pending _ result act rfl level.live (fun none => open' (level.session.mp none)) (.inl ?_) takes (acts open'))
    show s.1.state = p.shared.state
    rw [level.state, stateNow_some found]

theorem take_step (follows : l.Follows s) (unreturned : s.1.returned = none) (attached : l.detached = false)
    {event : Option Signaling.Message} {x : Outcome} {a : Process} {signals : List Signal}
    (handled : s.1.handleEvent event x = (a, signals)) :
    processStep s (.take event x) = some (a, s.2 ++ signals) := by
  have listening : s.1.detached = false := follows.detached.trans attached
  simp [processStep, unreturned, listening, handled]

theorem take_quiet (follows : l.Follows s) (unreturned : s.1.returned = none) (attached : l.detached = false)
    {event : Option Signaling.Message} {x : Outcome} {a : Process} (handled : s.1.handleEvent event x = (a, [])) :
    processStep s (.take event x) = some (a, s.2) := by
  rw [take_step follows unreturned attached handled, List.append_nil]

theorem Level.postAuth {a : Process} (level : Level l a) : a.PostAuth ↔ l.PostAuth := by
  rw [Process.PostAuth, Loop.PostAuth, level.state]

theorem simulated_fails (follows : l.Follows s) (level : Level l s.1) (attached : l.detached = false)
    {event : Option Signaling.Message} (e : RunError) (x : Outcome)
    (handled : s.1.handleEvent event x = (s.1.failSession e x, [])) :
    Simulated (l.failSession unmarshalString decodeMessage e) s [event] :=
  simulated_fail follows level e x (.take event x) (take_quiet follows level.live.unreturned attached handled)

theorem simulated_keeps (follows : l.Follows s) (level : Level l s.1) (here : l.pc = .select) (attached : l.detached = false)
    {event : Option Signaling.Message} (handled : s.1.handleEvent event {} = (s.1, [])) : Simulated l s [event] := by
  have rest : Simulated l s [] := .stays follows (.select _ here level)
  have acted : processStep s (.take event {}) = some s := take_quiet follows level.live.unreturned attached handled
  exact Simulated.act acted rest

theorem simulated_detaches (follows : l.Follows s) (level : Level l s.1) (here : l.pc = .select)
    (attached : l.detached = false) {event : Option Signaling.Message}
    (handled : s.1.handleEvent event {} = (s.1.onBrokerLoss, [])) : Simulated { l with detached := true } s [event] := by
  have rest : Simulated { l with detached := true } (s.1.onBrokerLoss, s.2) [] := by
    refine .stays ⟨follows.mode, rfl, follows.sent⟩ (.select _ here ⟨⟨?_, level.live.once, level.live.unclosed⟩, ?_, ?_⟩)
    · exact level.live.unreturned
    · exact level.session
    · exact level.state
  exact Simulated.act (take_quiet follows level.live.unreturned attached handled) rest

theorem simulated_signal (follows : l.Follows s) (level : Level l s.1) (attached : l.detached = false)
    (found : l.pool = some p) {message : Signaling.Message} (kind : message.type = .signal) {signal : Signal}
    (carried : message.signal = some signal) :
    Simulated (l.handleSignal unmarshalString decodeMessage p signal) s [some message] := by
  have paired : s.1.session ≠ none := by
    intro none
    cases found.symm.trans (level.session.mp none)
  -- what a process with a session does with the message
  have refuses : ∀ (a : Process) x e, a.session ≠ none → Process.handleSignal signal x = .error e →
      a.handleEvent (some message) x = (a.failSession e x, []) := by
    intro a x e held failed
    simp only [Process.handleEvent, kind, carried, if_neg held, failed]
  have passes : ∀ (a : Process) x signals, a.session ≠ none → Process.handleSignal signal x = .ok signals →
      a.handleEvent (some message) x = (a, signals) := by
    intro a x signals held passed
    simp only [Process.handleEvent, kind, carried, if_neg held, passed]
  have lacking : (∀ x, Process.handleSignal signal x = .error .handleSignal) →
      Simulated (l.failSession unmarshalString decodeMessage .handleSignal) s [some message] := fun failed =>
    simulated_fails follows level attached .handleSignal {} (refuses _ _ _ paired (failed _))
  have level' : ∀ c pc, Level { l with pool := some (l.call unmarshalString decodeMessage p c), pc := pc } s.1 := by
    intro c pc
    refine ⟨level.live, by simp [paired], ?_⟩
    show s.1.state = p.shared.state
    rw [level.state, stateNow_some found]
  unfold Loop.handleSignal
  cases sort : signal.kind with
  | offer =>
    cases body : signal.sdp with
    | none => exact lacking fun x => by simp [Process.handleSignal, sort, body]
    | some sdp =>
      refine .stays ⟨follows.mode, follows.detached, follows.sent⟩
        (.handlingOffer _ _ message rfl (level' _ _) attached paired ?_ ?_)
      · intro a x answer held answered sent
        exact passes a x _ held (by simp [Process.handleSignal, sort, body, answered, sent])
      · intro a x held failed
        refine refuses a x _ held ?_
        rcases failed with unanswered | unsent
        · simp [Process.handleSignal, sort, body, unanswered]
        · cases answered : x.answer with
          | none => simp [Process.handleSignal, sort, body, answered]
          | some answer => simp [Process.handleSignal, sort, body, answered, unsent]
  | answer =>
    cases body : signal.sdp with
    | none => exact lacking fun x => by simp [Process.handleSignal, sort, body]
    | some sdp =>
      refine .stays ⟨follows.mode, follows.detached, follows.sent⟩
        (.applying _ _ message rfl (level' _ _) attached paired ?_ ?_)
      · intro a x held applied
        exact passes a x _ held (by simp [Process.handleSignal, sort, body, applied])
      · intro a x held failed
        exact refuses a x _ held (by simp [Process.handleSignal, sort, body, failed])
  | ice =>
    cases body : signal.candidate with
    | none => exact lacking fun x => by simp [Process.handleSignal, sort, body]
    | some candidate =>
      refine .stays ⟨follows.mode, follows.detached, follows.sent⟩
        (.applying _ _ message rfl (level' _ _) attached paired ?_ ?_)
      · intro a x held applied
        exact passes a x _ held (by simp [Process.handleSignal, sort, body, applied])
      · intro a x held failed
        exact refuses a x _ held (by simp [Process.handleSignal, sort, body, failed])
  | unknown text => exact lacking fun x => by simp [Process.handleSignal, sort]

section Pairing

variable (follows : l.Follows s) (level : Level l s.1) (attached : l.detached = false) (pool : l.pool = none)
  (entered : l.state.transition .signaling = some .signaling) {message : Signaling.Message} (kind : message.type = .paired)
  {paired : Paired} (carried : message.paired = some paired)
include level pool entered

theorem paired_moved : s.1.session = none ∧ s.1.state.transition .signaling = some .signaling := by
  refine ⟨level.session.mpr pool, ?_⟩
  have now : s.1.state = l.state := by
    rw [level.state]
    simp [stateNow, pool]
  rw [now, entered]

theorem paired_live (session : Option Bytes) : ({ s.1 with state := .signaling, session := session } : Process).Live := by
  refine ⟨level.live.unreturned, ?_, by rintro ⟨⟩, by rintro ⟨⟩⟩
  show s.1.closeOnce = false
  rw [level.live.once]
  refine decide_eq_false fun ended => ?_
  have impossible := SessionState.transition_over _ _ _ ended (paired_moved level pool entered).2
  revert impossible
  decide

include follows attached kind carried

theorem simulated_offering (initiator : paired.initiator = true) {session : WebRTC.Session A}
    (signaling : session.state = .signaling) :
    Simulated { l with
      state := .signaling
      pool := some (l.call unmarshalString decodeMessage
        (l.call unmarshalString decodeMessage ⟨session, []⟩ .waitAuthenticated) .createOffer)
      waiter := some 0
      pc := .creatingOffer 1 } s [some message] := by
  obtain ⟨alone, moved⟩ := paired_moved level pool entered
  let a : Process := { s.1 with state := .signaling, session := some paired.sessionID }
  refine .stays ⟨follows.mode, follows.detached, follows.sent⟩ (.creatingOffer _ a 1 message rfl attached level.live.unreturned
    (by rintro ⟨⟩) ?_ (paired_live level pool entered _) rfl (by rintro ⟨⟩) rfl rfl ?_ ?_ ?_)
  · show Path session.state
    rw [signaling]
    exact .start
  · intro x offer created offered sent
    simp [Process.handleEvent, kind, carried, Process.handlePaired, alone, moved, created, initiator, offered, sent, a]
  · intro x offer created offered unsent
    simp [Process.handleEvent, kind, carried, Process.handlePaired, alone, moved, created, initiator, offered, unsent, a]
  · intro x created refused
    simp [Process.handleEvent, kind, carried, Process.handlePaired, alone, moved, created, initiator, refused, a]

theorem simulated_unmade :
    Simulated ({ l with state := .signaling }.failSession unmarshalString decodeMessage .newSession) s [some message] := by
  obtain ⟨alone, moved⟩ := paired_moved level pool entered
  have live := paired_live level pool entered s.1.session
  let x : Outcome := { newSession := false }
  let a : Process := { s.1 with state := .signaling }
  have acted : processStep s (.take (some message) x) = some (a.failSession .newSession x, s.2) := by
    refine take_quiet follows level.live.unreturned attached ?_
    simp [Process.handleEvent, kind, carried, Process.handlePaired, alone, moved, x, a]
  have same : Follows { l with state := .signaling } s := ⟨follows.mode, follows.detached, follows.sent⟩
  refine Simulated.act acted (.stays (failSession_follows (a := a) same rfl rfl live _ _) (fail_phase live ?_ ?_ _ _))
  · exact ⟨fun _ => pool, fun _ => alone⟩
  · intro _
    simp [stateNow, pool]

theorem simulated_responding (here : l.pc = .select) (responder : paired.initiator = false) {session : WebRTC.Session A}
    (signaling : session.state = .signaling) :
    Simulated { l with
      state := .signaling
      pool := some (l.call unmarshalString decodeMessage ⟨session, []⟩ .waitAuthenticated)
      waiter := some 0 } s [some message] := by
  obtain ⟨alone, moved⟩ := paired_moved level pool entered
  let a : Process := { s.1 with state := .signaling, session := some paired.sessionID }
  have acted : processStep s (.take (some message) {}) = some (a, s.2) := by
    refine take_quiet follows level.live.unreturned attached ?_
    simp [Process.handleEvent, kind, carried, Process.handlePaired, alone, moved, responder, a]
  refine Simulated.act acted (.stays ⟨follows.mode, follows.detached, follows.sent⟩
    (.select _ here ⟨paired_live level pool entered _, ?_, ?_⟩))
  · simp [a]
  · exact signaling.symm

end Pairing

theorem simulated_paired (follows : l.Follows s) (level : Level l s.1) (here : l.pc = .select) (attached : l.detached = false)
    {message : Signaling.Message} (kind : message.type = .paired) (made : Made) :
    Simulated (l.handlePaired unmarshalString decodeMessage message.paired made) s [some message] := by
  have handles : ∀ (a : Process) x, a.handleEvent (some message) x = a.handlePaired message.paired x := by
    intro a x
    simp only [Process.handleEvent, kind]
  have unreturned := level.live.unreturned
  have leaves : ∀ e : RunError,
      (∀ (a : Process) x, (a.session = none ↔ l.pool = none) → (a.session = none → a.state = l.stateNow) →
      a.handlePaired message.paired x = (a.finish (some e) x, [])) →
      Simulated (l.leave unmarshalString decodeMessage (some e)) s [some message] := by
    intro e finishes
    refine simulated_leave follows level (some e) (fun x => .take (some message) x) [some message] (fun _ => rfl) ?_ ?_
    · intro unpaired
      refine take_quiet follows unreturned attached ?_
      rw [handles]
      exact finishes _ _ level.session fun _ => level.state
    · intro held a sent x paired returned detached
      have handled : a.handleEvent (some message) x = (a.finish (some e) x, []) := by
        rw [handles]
        exact finishes a x ⟨fun none => absurd none paired, fun none => absurd none held⟩ fun none => absurd none paired
      simp [processStep, returned, detached, attached, handled]
  unfold Loop.handlePaired
  split
  · rename_i carried
    refine leaves _ ?_
    intro a x _ _
    simp only [carried, Process.handlePaired]
  · rename_i paired carried
    split
    · rename_i held
      refine leaves _ ?_
      intro a x same _
      have session : a.session ≠ none := by
        intro none
        rw [same.mp none] at held
        cases held
      simp [carried, Process.handlePaired, session]
    · rename_i free
      have pool : l.pool = none := by simpa using free
      split
      · rename_i entered
        refine leaves _ ?_
        intro a x same state
        have single := same.mpr pool
        have stuck : a.state.transition .signaling = none := by
          rw [state single]
          simpa [stateNow, pool] using entered
        simp [carried, Process.handlePaired, single, stuck]
      · rename_i state entered
        obtain rfl := (SessionState.transition_cases _ _ _ entered).1
        dsimp only
        split
        · exact simulated_unmade follows level attached pool entered kind carried
        · rename_i session created
          have signaling : session.state = .signaling := (newSession_starts _ _ _ _ created).state
          split
          · rename_i initiator
            exact simulated_offering follows level attached pool entered kind carried initiator signaling
          · rename_i responder
            exact simulated_responding follows level attached pool entered kind carried here
              (by simpa using responder) signaling

theorem simulated_event (follows : l.Follows s) (level : Level l s.1) (here : l.pc = .select) (attached : l.detached = false)
    (event : Option Signaling.Message) (made : Made) :
    Simulated (l.handleEvent unmarshalString decodeMessage event made) s [event] := by
  have postAuth := level.postAuth
  unfold Loop.handleEvent
  cases event with
  | none =>
    dsimp only
    split
    · rename_i authenticated
      refine simulated_detaches follows level here attached ?_
      simp [Process.handleEvent, postAuth.mpr authenticated]
    · rename_i early
      refine simulated_fails follows level attached .brokerClosed {} ?_
      have early' : ¬s.1.PostAuth := fun authenticated => early (postAuth.mp authenticated)
      simp [Process.handleEvent, early']
  | some message =>
    dsimp only
    cases kind : message.type with
    | paired => exact simulated_paired follows level here attached kind made
    | signal =>
      dsimp only
      cases carried : message.signal with
      | none =>
        refine simulated_fails follows level attached .signalWithoutPayload {} ?_
        simp [Process.handleEvent, kind, carried]
      | some signal =>
        dsimp only
        cases pool : l.pool with
        | none =>
          have alone : s.1.session = none := level.session.mpr pool
          refine simulated_leave follows level _ (fun x => .take (some message) x) [some message] (fun _ => rfl) ?_ ?_
          · intro _
            refine take_quiet follows level.live.unreturned attached ?_
            simp [Process.handleEvent, kind, carried, alone]
          · exact fun held => absurd pool held
        | some p => exact simulated_signal follows level attached pool kind carried
    | peerLeft =>
      refine simulated_fails follows level attached _ {} ?_
      cases left : message.peerLeft <;> simp only [Process.handleEvent, kind, left, Process.failSession]
    | error =>
      dsimp only
      cases carried : message.error with
      | none =>
        refine simulated_fails follows level attached .unspecified {} ?_
        simp [Process.handleEvent, kind, carried]
      | some e =>
        dsimp only
        split
        · rename_i both
          refine simulated_detaches follows level here attached ?_
          simp [Process.handleEvent, kind, carried, both.1, postAuth.mpr both.2]
        · rename_i other
          refine simulated_fails follows level attached (.broker e.code e.message) {} ?_
          rw [← postAuth] at other
          simp [Process.handleEvent, kind, carried, other]
    | _ =>
      refine simulated_keeps follows level here attached ?_
      simp [Process.handleEvent, kind]

theorem simulated_path {state : SessionState} (path : Path state) (a : Process) (live : a.Live) (paired : a.session ≠ none)
    (signaling : a.state = .signaling) (sent : List Signal) :
    ∃ acts b, Transition.run processStep (a, sent) acts = some (b, sent) ∧ processEvents acts = [] ∧ b.Live ∧
      b.state = state ∧ b.session = a.session ∧ b.mode = a.mode ∧ b.detached = a.detached := by
  induction path with
  | start => exact ⟨[], a, rfl, rfl, live, signaling, rfl, rfl, rfl⟩
  | step state next path moved unclosed ih =>
    obtain ⟨acts, b, ran, quiet, liveB, stateB, sessionB, modeB, detachedB⟩ := ih
    rw [← stateB] at moved
    obtain ⟨c, advanced, liveC, stateC, sessionC, modeC, detachedC⟩ :=
      liveB.advances (by rwa [sessionB]) moved unclosed
    have acted : processStep (b, sent) (.advance next) = some (c, sent) := by simp [processStep, advanced]
    refine ⟨acts ++ [.advance next], c, Transition.run_snoc _ _ _ acts _ ran acted, ?_, liveC, stateC,
      sessionC.trans sessionB, modeC.trans modeB, detachedC.trans detachedB⟩
    rw [processEvents, List.flatMap_append, ← processEvents, quiet]
    rfl

theorem Simulated.after {t : Process × List Signal} {acts : List ProcessAct} {events : List (Option Signaling.Message)}
    (ran : Transition.run processStep s acts = some t) (quiet : processEvents acts = []) (rest : Simulated m t events) :
    Simulated m s events := by
  obtain ⟨more, u, pending, ranMore, follows, phase, rfl⟩ := rest
  refine ⟨acts ++ more, u, pending, ?_, follows, phase, ?_⟩
  · rw [Transition.run_append _ _ acts more ran, ranMore]
  · have split : processEvents (acts ++ more) = processEvents acts ++ processEvents more := List.flatMap_append
    rw [split, quiet, List.nil_append]

theorem simulated_resume (follows : l.Follows s) (level : Level l s.1) (attached : l.detached = false)
    {message : Signaling.Message} (x : Outcome) (signals : List Signal)
    (handled : s.1.handleEvent (some message) x = (s.1, signals)) :
    Simulated { l with pc := .select, sent := l.sent ++ signals } s [some message] := by
  have acted : processStep s (.take (some message) x) = some (s.1, s.2 ++ signals) :=
    take_step follows level.live.unreturned attached handled
  refine Simulated.act acted (.stays ⟨follows.mode, follows.detached, ?_⟩
    (.select _ rfl ⟨level.live, level.session, level.state⟩))
  show s.2 ++ signals = l.sent ++ signals
  rw [follows.sent]

theorem simulated_proceed (sound : Sound unmarshalString decodeMessage taken l) (follows : l.Follows s)
    {pending : List (Option Signaling.Message)} (phase : Phase l pending s.1) (found : l.pool = some p) {sent : Bool}
    (went : l.proceed unmarshalString decodeMessage p sent = some m) : Simulated m s pending := by
  cases phase with
  | select a here level =>
    simp only [proceed, here] at went
    cases went
  | handlingOffer a i message here level attached paired answers refuses =>
    simp only [proceed, here] at went
    split at went
    · cases went
    · rename_i answer _
      split at went <;> cases went
      · exact simulated_resume follows level attached { answer := some answer } _ (answers _ _ answer paired rfl rfl)
      · exact simulated_fails follows level attached .handleSignal { sent := false } (refuses _ _ paired (.inr rfl))
    · cases went
      exact simulated_fails follows level attached .handleSignal { answer := none } (refuses _ _ paired (.inl rfl))
  | applying a i message here level attached paired applies refuses =>
    simp only [proceed, here] at went
    split at went
    · cases went
    · cases went
      have resumed := simulated_resume follows level attached {} [] (applies _ _ paired rfl)
      rwa [List.append_nil] at resumed
    · cases went
      exact simulated_fails follows level attached .handleSignal { applied := false } (refuses _ _ paired rfl)
  | creatingOffer a b i message here attached unreturned paired path live signaling session mode detached offers unsent
      refuses =>
    -- the process has no session yet, so it fails with the one it would have had
    have fails : ∀ e x, s.1.handleEvent (some message) x = (b.failSession e x, []) →
        Simulated (l.failSession unmarshalString decodeMessage e) s [some message] := by
      intro e x handled
      refine Simulated.act (take_quiet follows unreturned attached handled) (.stays (failSession_follows follows mode detached
        live e x) (fail_phase live ⟨fun none => absurd none session, fun none => absurd none paired⟩ ?_ e x))
      exact fun none => absurd none session
    simp only [proceed, here] at went
    split at went
    · cases went
    · rename_i offer _
      split at went <;> cases went
      · obtain ⟨acts, c, ran, quiet, liveC, stateC, sessionC, modeC, detachedC⟩ :=
          simulated_path path b live session signaling (s.2 ++ [Process.offerSignal offer])
        have acted := take_step follows unreturned attached (offers { offer := some offer } offer rfl rfl rfl)
        refine Simulated.act acted (Simulated.after ran quiet (.stays ⟨?_, ?_, ?_⟩ (.select _ rfl ⟨liveC, ?_, stateC⟩)))
        · exact modeC.trans (mode.trans follows.mode)
        · exact detachedC.trans (detached.trans follows.detached)
        · show s.2 ++ _ = l.sent ++ _
          rw [follows.sent]
        · rw [sessionC]
          exact ⟨fun none => absurd none session, fun none => absurd none paired⟩
      · exact fails _ _ (unsent { offer := some offer, sent := false } offer rfl rfl rfl)
    · cases went
      exact fails _ _ (refuses { offer := none } rfl rfl)
  | failing a i e here returned failed =>
    simp only [proceed, here] at went
    obtain ⟨outcome, finished, rfl⟩ := Option.map_eq_some_iff.mp went
    obtain ⟨q, same, called⟩ := sound.failing i e here
    cases found.symm.trans same
    have ended := (sound.reached p found).ended called rfl (by rw [finished]; rfl)
    have state : p.shared.state = .failed :=
      over_failed ended.1 (sound.unclosed_state (by rw [here]; rfl) found)
    simp only [Loop.leave, found]
    exact .stays ⟨follows.mode, follows.detached, follows.sent⟩ (.failed _ _ (some e) rfl returned failed state)
  | failed a i result here returned failed same =>
    simp only [proceed, here] at went
    obtain ⟨outcome, finished, rfl⟩ := Option.map_eq_some_iff.mp went
    refine .stays ⟨follows.mode, follows.detached, follows.sent⟩ (.returned _ result rfl returned ?_)
    show s.1.state.Over ↔ l.stateNow.Over
    rw [failed, same]
  | closing a pending i result act here live paired reached takes acts =>
    simp only [proceed, here] at went
    obtain ⟨outcome, finished, rfl⟩ := Option.map_eq_some_iff.mp went
    obtain ⟨q, same, called⟩ := sound.closing i result here
    cases found.symm.trans same
    have ended := (sound.reached p found).ended called rfl (by rw [finished]; rfl)
    have now : l.stateNow = p.shared.state := stateNow_some found
    rw [now] at reached
    obtain ⟨x, state, detached, mode⟩ := live.finishes result p.shared.state ended.1 paired reached
    have acted := acts s.1 s.2 x paired live.unreturned follows.detached
    have rest : Simulated { l with pc := .returned result } (s.1.finish result x, s.2) [] := by
      refine .stays ⟨mode.trans follows.mode, detached.trans follows.detached, follows.sent⟩ (.returned _ result rfl rfl ?_)
      show (s.1.finish result x).state.Over ↔ l.stateNow.Over
      rw [state, now]
    have both := Simulated.act acted rest
    rwa [List.append_nil, takes] at both
  | returned a result here returned ended =>
    simp only [proceed, here] at went
    cases went

theorem Phase.level {pending : List (Option Signaling.Message)} {a : Process} (phase : Phase l pending a)
    (here : l.pc = .select) : pending = [] ∧ Level l a := by
  cases phase with
  | select _ _ level => exact ⟨rfl, level⟩
  | handlingOffer _ _ _ there | applying _ _ _ there | failing _ _ _ there | failed _ _ _ there | returned _ _ there =>
    cases here.symm.trans there
  | creatingOffer _ _ _ _ there => cases here.symm.trans there
  | closing _ _ _ _ _ there => cases here.symm.trans there

theorem Phase.quiet {pending : List (Option Signaling.Message)} {a : Process} (phase : Phase l pending a)
    (pool : m.pool = l.pool) (state : m.state = l.state) (pc : m.pc = l.pc) (detached : m.detached = l.detached) :
    Phase m pending a := by
  have now : m.stateNow = l.stateNow := by rw [stateNow, stateNow, pool, state]
  have level : Level l a → Level m a := fun same =>
    ⟨same.live, by rw [pool]; exact same.session, by rw [now]; exact same.state⟩
  cases phase with
  | select _ here same => exact .select _ (pc.trans here) (level same)
  | handlingOffer _ i message here same attached paired answers refuses =>
    exact .handlingOffer _ i message (pc.trans here) (level same) (detached.trans attached) paired answers refuses
  | applying _ i message here same attached paired applies refuses =>
    exact .applying _ i message (pc.trans here) (level same) (detached.trans attached) paired applies refuses
  | creatingOffer _ b i message here attached unreturned paired path live signaling session mode detached' offers unsent
      refuses =>
    exact .creatingOffer _ b i message (pc.trans here) (detached.trans attached) unreturned (by rwa [pool]) (by rwa [now]) live
      signaling session mode detached' offers unsent refuses
  | failing _ i e here returned failed => exact .failing _ i e (pc.trans here) returned failed
  | failed _ i result here returned failed same =>
    exact .failed _ i result (pc.trans here) returned failed (now.trans same)
  | closing _ pending i result act here live paired reached takes acts =>
    refine .closing _ pending i result act (pc.trans here) live paired (by rwa [now]) takes ?_
    rw [detached]
    exact acts
  | returned _ result here returned ended => exact .returned _ result (pc.trans here) returned (by rwa [now])

theorem simulated_cancel (follows : l.Follows s) (level : Level l s.1) :
    Simulated (l.leave unmarshalString decodeMessage none) s [] := by
  refine simulated_leave follows level none (fun x => .stop none x) [] (fun _ => rfl) ?_ ?_
  · intro _
    simp [processStep, Network.stop, level.live.unreturned]
  · intro _ a sent x _ returned _
    simp [processStep, Network.stop, returned]

theorem simulated_stop (follows : l.Follows s) (level : Level l s.1) (e : RunError)
    (own : e = .authentication ∨ e = .listener) :
    Simulated (l.failSession unmarshalString decodeMessage e) s [] := by
  refine simulated_fail follows level e {} (.stop (some e) {}) ?_
  simp [processStep, Network.stop, level.live.unreturned, own]

theorem simulated_step (sound : Sound unmarshalString decodeMessage (fun _ _ _ => True) l) (follows : l.Follows s)
    {pending : List (Option Signaling.Message)} (phase : Phase l pending s.1) {move : LoopMove}
    (went : l.step unmarshalString decodeMessage move = some m) : Simulated m s (pending ++ move.taken) := by
  -- the cases of the `select`
  have selecting : l.pc = .select → ∀ events, Simulated m s events → events = move.taken →
      Simulated m s (pending ++ move.taken) := by
    rintro here events simulated rfl
    rw [(phase.level here).1, List.nil_append]
    exact simulated
  cases move with
  | session move =>
    simp only [LoopMove.taken, List.append_nil]
    simp only [step] at went
    split at went
    · cases went
    · rename_i p found
      split at went
      · rename_i allowed
        obtain ⟨q, stepped, rfl⟩ := Option.map_eq_some_iff.mp went
        exact simulated_session sound follows phase found allowed stepped
      · cases went
  | listenerEnds result =>
    simp only [LoopMove.taken, List.append_nil]
    simp only [step] at went
    split at went <;> cases went
    exact .stays ⟨follows.mode, follows.detached, follows.sent⟩ (phase.quiet rfl rfl rfl rfl)
  | cancel =>
    simp only [step] at went
    split at went <;> cases went
    rename_i here
    exact selecting here [] (simulated_cancel follows (phase.level here).2) rfl
  | authResult cause =>
    simp only [step] at went
    split at went
    · rename_i i p here waiting found
      refine selecting here [] ?_ rfl
      have level := (phase.level here).2
      split at went
      · rename_i err answered
        cases went
        unfold handleAuthResult
        cases err with
        | none =>
          have same : ∀ u : Loop A, u.startListener.state = u.state ∧ u.startListener.detached = u.detached ∧
              u.startListener.sent = u.sent := by
            intro u
            unfold startListener
            split <;> exact ⟨rfl, rfl, rfl⟩
          obtain ⟨mode, pool, pc, _⟩ :=
            startListener_same { l with waiter := none, reports := l.reports ++ [Report.sessionReady] }
          obtain ⟨state, detached, sent⟩ := same { l with waiter := none, reports := l.reports ++ [Report.sessionReady] }
          have quiet := (Phase.select s.1 here level).quiet pool state pc detached
          exact .stays ⟨by rw [mode]; exact follows.mode, by rw [detached]; exact follows.detached,
            by rw [sent]; exact follows.sent⟩ quiet
        | some e =>
          have told : Follows { l with waiter := none, reports := l.reports ++ [failureReport cause e] } s :=
            ⟨follows.mode, follows.detached, follows.sent⟩
          exact simulated_stop told ⟨level.live, level.session, level.state⟩ .authentication (.inl rfl)
      · cases went
    · cases went
  | listenerResult =>
    simp only [step] at went
    split at went
    · rename_i here _
      cases went
      exact selecting here [] (simulated_stop follows (phase.level here).2 .listener (.inr rfl)) rfl
    · rename_i here _
      cases went
      exact selecting here [] (simulated_cancel follows (phase.level here).2) rfl
    · cases went
  | event event made =>
    simp only [step] at went
    split at went <;> cases went
    rename_i here
    exact selecting here.1 [event] (simulated_event follows (phase.level here.1).2 here.1 here.2 event made) rfl
  | proceed sent =>
    simp only [LoopMove.taken, List.append_nil]
    simp only [step] at went
    split at went
    · cases went
    · rename_i p found
      exact simulated_proceed sound follows phase found went

/-- Every run of `runPeer` and its session, whatever the goroutines and callbacks do, is a run of the process of the network
    model: it handles the same events in the same order and sends the same signals. At the `select` the process is in the
    state of the session and listens to the broker just when the loop does, and when `runPeer` has returned, so has the
    process, with the same result. -/
theorem loop_refines (unmarshalString : Bytes → Option SessionDescription) (decodeMessage : Bytes → Option Auth.Message)
    (mode : PeerMode) (authenticator : A.State) (moves : List LoopMove) (l : Loop A)
    (ran : (start mode authenticator : Loop A).run unmarshalString decodeMessage moves = some l) :
    ∃ acts p sent, Transition.run processStep (Process.start mode, []) acts = some (p, sent) ∧ sent = l.sent ∧
      p.detached = l.detached ∧ processEvents acts <+: loopEvents moves ∧
      (l.pc = .select → processEvents acts = loopEvents moves ∧ p.returned = none ∧ p.state = l.stateNow ∧
        (p.session = none ↔ l.pool = none)) ∧
      (∀ result, l.pc = .returned result → processEvents acts = loopEvents moves ∧ p.returned = some result ∧
        (p.state.Over ↔ l.stateNow.Over)) := by
  let holds (moves : List LoopMove) (u : Loop A) : Prop := Sound unmarshalString decodeMessage (fun _ _ _ => True) u ∧
    ∃ acts t pending, Transition.run processStep (Process.start mode, []) acts = some t ∧ u.Follows t ∧ Phase u pending t.1 ∧
      loopEvents moves = processEvents acts ++ pending
  have initial : holds [] (start mode authenticator) := by
    refine ⟨sound_start mode authenticator, [], (Process.start mode, []), [], rfl, ⟨rfl, rfl, rfl⟩, ?_, rfl⟩
    exact .select _ rfl ⟨⟨rfl, rfl, by rintro ⟨⟩, by rintro ⟨⟩⟩, ⟨fun _ => rfl, fun _ => rfl⟩, rfl⟩
  have preserved : ∀ before (u : Loop A) move v,
      (start mode authenticator : Loop A).run unmarshalString decodeMessage before = some u → holds before u →
      u.step unmarshalString decodeMessage move = some v → holds (before ++ [move]) v := by
    rintro before u move v - ⟨sound, acts, t, pending, reached, follows, phase, events⟩ went
    refine ⟨sound.step (fun _ _ _ _ _ => trivial) (stepped_of_step went), ?_⟩
    obtain ⟨more, t', pending', ranMore, follows', phase', events'⟩ := simulated_step sound follows phase went
    refine ⟨acts ++ more, t', pending', ?_, follows', phase', ?_⟩
    · rw [Transition.run_append _ _ acts more reached, ranMore]
    · have split : processEvents (acts ++ more) = processEvents acts ++ processEvents more := List.flatMap_append
      have last : loopEvents (before ++ [move]) = loopEvents before ++ move.taken := by simp [loopEvents]
      rw [last, events, List.append_assoc, events', split, List.append_assoc]
  obtain ⟨_, acts, ⟨p, sent⟩, pending, reached, follows, phase, events⟩ :=
    Transition.run_history _ l moves initial preserved ran
  refine ⟨acts, p, sent, reached, follows.sent, follows.detached, ⟨pending, events.symm⟩, ?_, ?_⟩
  · intro here
    obtain ⟨rfl, level⟩ := phase.level here
    exact ⟨by rw [events, List.append_nil], level.live.unreturned, level.state, level.session⟩
  · intro result here
    cases phase with
    | returned _ result' there returned ended =>
      cases here.symm.trans there
      exact ⟨by rw [events, List.append_nil], returned, ended⟩
    | select _ there | handlingOffer _ _ _ there | applying _ _ _ there | failing _ _ _ there | failed _ _ _ there =>
      cases here.symm.trans there
    | creatingOffer _ _ _ _ there => cases here.symm.trans there
    | closing _ _ _ _ _ there => cases here.symm.trans there

theorem loop_refines_opened :
    ∃ l acts p, vectorLoop.run parseVector WebRTC.decodeMessage openedMoves = some l ∧ l.pc = .select ∧
      Transition.run processStep (Process.start .connect, []) acts =
        some (p, [Process.offerSignal (channelSDP localPrint)]) ∧
      processEvents acts = [some pairedEvent, some answerEvent] ∧ p.returned = none ∧ p.state = .authPending := by
  have ended : (vectorLoop.run parseVector WebRTC.decodeMessage openedMoves).map
      (fun l => (l.pc, l.sent, l.stateNow)) =
        some (.select, [Process.offerSignal (channelSDP localPrint)], .authPending) := by decide +kernel
  obtain ⟨l, ran, view⟩ := Option.map_eq_some_iff.mp ended
  simp only [Prod.mk.injEq] at view
  obtain ⟨idle, signals, state⟩ := view
  obtain ⟨acts, p, sent, reached, same, _, _, level, _⟩ := loop_refines parseVector WebRTC.decodeMessage .connect _ _ l ran
  obtain ⟨events, unreturned, agrees, _⟩ := level idle
  rw [same, signals] at reached
  exact ⟨l, acts, p, ran, idle, reached, events, unreturned, agrees.trans state⟩

end Loop

end Rtc2Tcp.Peer

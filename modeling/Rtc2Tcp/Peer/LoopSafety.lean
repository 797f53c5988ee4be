import Rtc2Tcp.Peer.Loop

namespace Rtc2Tcp.Peer

open Octets Go Signaling WebRTC Goroutine

def LoopPc.Left : LoopPc → Bool
  | .closing _ _ => true
  | .returned _ => true
  | _ => false

theorem LoopPc.Active.stays {pc : LoopPc} (active : pc.Active = true) : pc.Left = false := by
  cases pc <;> first | rfl | cases active

namespace Loop

variable {A : Authenticator}

/-- The calls that can be made at any time. -/
def Open : WebRTC.Call → Bool
  | .controlOpen _ => false
  | .controlMessage _ _ => false
  | .controlClose _ => false
  | _ => true

theorem enter_open {c : WebRTC.Call} (anytime : Open c = true) (s : WebRTC.Session A) : enter c s = some s := by
  cases c <;> first | rfl | cases anytime

section Methods

variable (unmarshalString : Bytes → Option SessionDescription) (decodeMessage : Bytes → Option Auth.Message)
  (taken : Taken A)

/-- A session that `NewSession` made, after a run of its goroutines whose steps are among those of `taken`. -/
def Reached (mode : PeerMode) (p : SessionPool A) : Prop :=
  ∃ cfg created control s moves, cfg.mode = mode ∧ newSession cfg created control = .ok s ∧
    Transition.Along (system unmarshalString decodeMessage A mode).step (MadeBy taken) ⟨s, []⟩ moves ∧
    (system unmarshalString decodeMessage A mode).run ⟨s, []⟩ moves = some p

variable {unmarshalString decodeMessage taken} {mode : PeerMode} {p q : SessionPool A} {l m : Loop A} {move : LoopMove}

theorem Reached.step (reached : Reached unmarshalString decodeMessage taken mode p) {move : Goroutine.Move Choice WebRTC.Call}
    (makes : MadeBy taken p move) (stepped : (system unmarshalString decodeMessage A mode).step p move = some q) :
    Reached unmarshalString decodeMessage taken mode q := by
  obtain ⟨cfg, created, control, s, moves, same, ok, along, ran⟩ := reached
  exact ⟨cfg, created, control, s, moves ++ [move], same, ok, along.snoc ran makes,
    Transition.run_snoc _ p q moves move ran stepped⟩

theorem call_step {c : WebRTC.Call} (anytime : Open c = true) :
    (system unmarshalString decodeMessage A l.mode).step p (.spawn c) = some (l.call unmarshalString decodeMessage p c) := by
  have entered : (system unmarshalString decodeMessage A l.mode).enter c p.shared = some p.shared := enter_open anytime _
  simp only [System.step, entered, Option.map_some]
  rfl

theorem Reached.call (reached : Reached unmarshalString decodeMessage taken l.mode p) {c : WebRTC.Call}
    (anytime : Open c = true) :
    Reached unmarshalString decodeMessage taken l.mode (l.call unmarshalString decodeMessage p c) :=
  reached.step (by rintro index choice ⟨⟩) (call_step anytime)

@[simp] theorem call_calls (c : WebRTC.Call) : (l.call unmarshalString decodeMessage p c).calls = p.calls ++ [c] := by
  simp [call, Pool.calls]

theorem Reached.ended (reached : Reached unmarshalString decodeMessage taken mode p) {i : Nat} {c : WebRTC.Call}
    (called : p.calls[i]? = some c) (ending : c.ends = true) (finished : (outcomeOf p i).isSome = true) :
    p.shared.Ended := by
  obtain ⟨cfg, created, control, s, moves, _, ok, along, ran⟩ := reached
  unfold outcomeOf at finished
  split at finished
  · rename_i call outcome found
    have same := (Pool.calls_of_thread found).symm.trans called
    cases same
    exact ended_run unmarshalString ok ran i call outcome found ending
  · cases finished

theorem Reached.answered (reached : Reached unmarshalString decodeMessage taken mode p) {i : Nat} {err : Option SessionError}
    (called : p.calls[i]? = some .waitAuthenticated) (answered : outcomeOf p i = some (.finished err))
    (other : err ≠ some .context) : p.shared.verdict = some err := by
  obtain ⟨cfg, created, control, s, moves, _, ok, along, ran⟩ := reached
  have certified := verdict_certified unmarshalString ok ran
  unfold outcomeOf at answered
  split at answered
  · rename_i call outcome found
    cases answered
    have same := (Pool.calls_of_thread found).symm.trans called
    cases same
    have told := certified.threads i _ _ found p.shared certified.inv ((verdictDiscipline A).refl _)
    exact told.waited rfl err rfl other
  · cases answered

theorem Reached.stepDone (reached : Reached unmarshalString decodeMessage taken mode p)
    (favourable : p.shared.verdict = some none) : StepDone p.shared := by
  obtain ⟨cfg, created, control, s, moves, _, ok, along, ran⟩ := reached
  exact verdict_stepDone unmarshalString ok ran favourable

/-- What a wait ends with is settled by a call the session has taken, unless the wait was cut off. -/
theorem Reached.explained (reached : Reached unmarshalString decodeMessage taken mode p) {i : Nat} {e : SessionError}
    (called : p.calls[i]? = some .waitAuthenticated) (answered : outcomeOf p i = some (.finished (some e))) :
    (e = .context ∧ CutOff taken) ∨
      ∃ c ∈ p.calls, WebRTC.Call.Settles A decodeMessage (decide (mode = .expose)) (Took taken c) c (some e) := by
  have waited := reached.answered called answered
  obtain ⟨cfg, created, control, s, moves, _, ok, along, ran⟩ := reached
  obtain ⟨settled, waits⟩ := verdict_settled unmarshalString decodeMessage _ ok along ran
  by_cases cut : e = .context
  · rw [cut] at answered
    unfold outcomeOf at answered
    split at answered
    · rename_i call outcome found
      cases answered
      have same := (Pool.calls_of_thread found).symm.trans called
      exact .inl ⟨cut, waits _ (List.mem_of_getElem? found) (Option.some.inj same) rfl⟩
    · cases answered
  · obtain ⟨thread, member, settles⟩ := settled _ (waited fun same => cut (Option.some.inj same))
    exact .inr ⟨thread.call, List.mem_map_of_mem member, settles⟩

theorem Reached.closing (reached : Reached unmarshalString decodeMessage taken mode p)
    (closing : p.shared.state = .closing ∨ p.shared.state = .closed) : .close ∈ p.calls := by
  obtain ⟨cfg, created, control, s, moves, _, ok, along, ran⟩ := reached
  obtain ⟨thread, member, same⟩ := closing_called unmarshalString decodeMessage _ ok along ran closing
  rw [← same]
  exact List.mem_map_of_mem member

variable (unmarshalString decodeMessage taken)

/-- The loop and its session fit together: each goroutine the loop waits for runs the method it should, and nobody but a
    loop at its end fails or closes the session. -/
structure Sound (l : Loop A) : Prop where
  reached : ∀ p, l.pool = some p → Reached unmarshalString decodeMessage taken l.mode p
  waiting : ∀ i, l.waiter = some i → ∃ p, l.pool = some p ∧ p.calls[i]? = some .waitAuthenticated
  failing : ∀ i e, l.pc = .failing i e → ∃ p, l.pool = some p ∧ p.calls[i]? = some .fail
  closing : ∀ i result, l.pc = .closing i result → ∃ p, l.pool = some p ∧ p.calls[i]? = some .close
  unfailed : ∀ p, l.pool = some p → .fail ∈ p.calls → l.pc.Active = false
  unclosed : ∀ p, l.pool = some p → .close ∈ p.calls → l.pc.Left = true
  ended : ∀ result, l.pc = .returned result → ∀ p, l.pool = some p → p.shared.Ended

variable {unmarshalString decodeMessage taken}

theorem calls_kept {calls more : List WebRTC.Call} {i : Nat} {c : WebRTC.Call} (called : calls[i]? = some c) :
    (calls ++ more)[i]? = some c := by
  rw [List.getElem?_append_left (List.getElem?_eq_some_iff.mp called).1]
  exact called

theorem sound_start (mode : PeerMode) (authenticator : A.State) :
    Sound unmarshalString decodeMessage taken (start mode authenticator) where
  reached := by rintro p ⟨⟩
  waiting := by rintro i ⟨⟩
  failing := by rintro i e ⟨⟩
  closing := by rintro i result ⟨⟩
  unfailed := by rintro p ⟨⟩
  unclosed := by rintro p ⟨⟩
  ended := by rintro result ⟨⟩

theorem Sound.same (sound : Sound unmarshalString decodeMessage taken l) (mode : m.mode = l.mode) (pool : m.pool = l.pool)
    (pc : m.pc = l.pc) (waiter : ∀ i, m.waiter = some i → l.waiter = some i) :
    Sound unmarshalString decodeMessage taken m where
  reached := by
    rw [pool, mode]
    exact sound.reached
  waiting := by
    intro i found
    rw [pool]
    exact sound.waiting i (waiter i found)
  failing := by
    rw [pc, pool]
    exact sound.failing
  closing := by
    rw [pc, pool]
    exact sound.closing
  unfailed := by
    rw [pc, pool]
    exact sound.unfailed
  unclosed := by
    rw [pc, pool]
    exact sound.unclosed
  ended := by
    rw [pc, pool]
    exact sound.ended

theorem Sound.called (sound : Sound unmarshalString decodeMessage taken l) {p : SessionPool A} (found : l.pool = some p)
    {c : WebRTC.Call} (anytime : Open c = true) (pc : LoopPc)
    (failing : ∀ i e, pc = .failing i e → i = p.calls.length ∧ c = .fail)
    (closing : ∀ i result, pc = .closing i result → i = p.calls.length ∧ c = .close)
    (unfailed : c = .fail ∨ .fail ∈ p.calls → pc.Active = false) (unclosed : c = .close ∨ .close ∈ p.calls → pc.Left = true)
    (unreturned : ∀ result, pc ≠ .returned result) :
    Sound unmarshalString decodeMessage taken
      { l with pool := some (l.call unmarshalString decodeMessage p c), pc := pc } where
  reached := by
    rintro q ⟨⟩
    exact (sound.reached p found).call anytime
  waiting := by
    intro i waits
    obtain ⟨q, same, called⟩ := sound.waiting i waits
    cases found.symm.trans same
    exact ⟨_, rfl, by rw [call_calls]; exact calls_kept called⟩
  failing := by
    intro i e here
    obtain ⟨rfl, rfl⟩ := failing i e here
    exact ⟨_, rfl, by simp⟩
  closing := by
    intro i result here
    obtain ⟨rfl, rfl⟩ := closing i result here
    exact ⟨_, rfl, by simp⟩
  unfailed := by
    rintro q ⟨⟩ member
    rw [call_calls, List.mem_append, List.mem_singleton] at member
    exact unfailed (member.symm.imp_left Eq.symm)
  unclosed := by
    rintro q ⟨⟩ member
    rw [call_calls, List.mem_append, List.mem_singleton] at member
    exact unclosed (member.symm.imp_left Eq.symm)
  ended := fun result here => absurd here (unreturned result)

theorem Sound.returned (sound : Sound unmarshalString decodeMessage taken l) (none : l.pool = none)
    (result : Option RunError) :
    Sound unmarshalString decodeMessage taken { l with pc := .returned result } where
  reached := sound.reached
  waiting := sound.waiting
  failing := by rintro i e ⟨⟩
  closing := by rintro i result ⟨⟩
  unfailed := fun p found => by rw [none] at found; cases found
  unclosed := fun p found => by rw [none] at found; cases found
  ended := fun _ _ p found => by rw [none] at found; cases found

theorem Sound.leave (sound : Sound unmarshalString decodeMessage taken l) (result : Option RunError) :
    Sound unmarshalString decodeMessage taken (l.leave unmarshalString decodeMessage result) := by
  unfold Loop.leave
  split
  · rename_i none
    exact sound.returned none result
  · rename_i p found
    refine sound.called found rfl _ (by rintro i e ⟨⟩) ?_ (fun _ => rfl) (fun _ => rfl) (by rintro result ⟨⟩)
    rintro i result ⟨⟩
    exact ⟨by simp [Pool.calls], rfl⟩

theorem Sound.failSession (sound : Sound unmarshalString decodeMessage taken l) (e : RunError) (active : l.pc.Active = true) :
    Sound unmarshalString decodeMessage taken (l.failSession unmarshalString decodeMessage e) := by
  unfold Loop.failSession
  split
  · rename_i none
    exact sound.returned none (some e)
  · rename_i p found
    refine sound.called found rfl _ ?_ (by rintro i result ⟨⟩) (fun _ => rfl) ?_ (by rintro result ⟨⟩)
    · rintro i e ⟨⟩
      exact ⟨by simp [Pool.calls], rfl⟩
    · rintro (impossible | member)
      · cases impossible
      · have left := sound.unclosed p found member
        rw [LoopPc.Active.stays active] at left
        cases left

theorem Sound.active (sound : Sound unmarshalString decodeMessage taken l) {p : SessionPool A} (found : l.pool = some p)
    (active : l.pc.Active = true) : .fail ∉ p.calls ∧ .close ∉ p.calls := by
  refine ⟨fun member => ?_, fun member => ?_⟩
  · rw [sound.unfailed p found member] at active
    cases active
  · have left := sound.unclosed p found member
    rw [LoopPc.Active.stays active] at left
    cases left

theorem Allows.foreign {move : Goroutine.Move Choice WebRTC.Call} (allowed : l.Allows move = true) :
    .fail ∉ move.spawned ∧ .close ∉ move.spawned := by
  cases move with
  | run => exact ⟨by simp [Move.spawned], by simp [Move.spawned]⟩
  | spawn c => cases c <;> first | (cases allowed; done) | simp [Move.spawned]

theorem Sound.session (sound : Sound unmarshalString decodeMessage taken l) {p q : SessionPool A} (found : l.pool = some p)
    {move : Goroutine.Move Choice WebRTC.Call} (makes : MadeBy taken p move) (allowed : l.Allows move = true)
    (stepped : (system unmarshalString decodeMessage A l.mode).step p move = some q) :
    Sound unmarshalString decodeMessage taken { l with pool := some q } := by
  have calls := System.step_calls stepped
  obtain ⟨notFail, notClose⟩ := Allows.foreign allowed
  refine ⟨?_, ?_, ?_, ?_, ?_, ?_, ?_⟩
  · rintro r ⟨⟩
    exact (sound.reached p found).step makes stepped
  · intro i waits
    obtain ⟨r, same, called⟩ := sound.waiting i waits
    cases found.symm.trans same
    exact ⟨q, rfl, by rw [calls]; exact calls_kept called⟩
  · intro i e here
    obtain ⟨r, same, called⟩ := sound.failing i e here
    cases found.symm.trans same
    exact ⟨q, rfl, by rw [calls]; exact calls_kept called⟩
  · intro i result here
    obtain ⟨r, same, called⟩ := sound.closing i result here
    cases found.symm.trans same
    exact ⟨q, rfl, by rw [calls]; exact calls_kept called⟩
  · rintro r ⟨⟩ member
    rw [calls, List.mem_append] at member
    exact sound.unfailed p found (member.resolve_right notFail)
  · rintro r ⟨⟩ member
    rw [calls, List.mem_append] at member
    exact sound.unclosed p found (member.resolve_right notClose)
  · rintro result here r ⟨⟩
    exact ended_step unmarshalString decodeMessage _ stepped (sound.ended result here p found)

theorem sound_paired {cfg : SessionConfig A} (mode : cfg.mode = l.mode) {made : Made}
    {session : WebRTC.Session A} (created : newSession cfg made.created made.control = .ok session) :
    Reached unmarshalString decodeMessage taken l.mode
      (l.call unmarshalString decodeMessage ⟨session, []⟩ .waitAuthenticated) :=
  Reached.call ⟨cfg, made.created, made.control, session, [], mode, created, trivial, rfl⟩ rfl

theorem startListener_same (l : Loop A) : l.startListener.mode = l.mode ∧ l.startListener.pool = l.pool ∧
    l.startListener.pc = l.pc ∧ l.startListener.waiter = l.waiter := by
  unfold startListener
  split <;> exact ⟨rfl, rfl, rfl, rfl⟩

theorem Sound.step (sound : Sound unmarshalString decodeMessage taken l)
    (makes : ∀ p index choice, l.pool = some p → move = .session (.run index choice) → taken p index choice)
    (stepped : Stepped unmarshalString decodeMessage l move m) : Sound unmarshalString decodeMessage taken m := by
  cases stepped with
  | session p q act made found allowed stepped =>
    exact sound.session found (fun index choice same => makes p index choice found (by rw [made, same])) allowed stepped
  | listenerEnds result running => exact sound.same rfl rfl rfl fun _ => id
  | keeps idle => exact sound
  | detaches idle authenticated => exact sound.same rfl rfl rfl fun _ => id
  | leaves result idle => exact sound.leave result
  | fails e active => exact sound.failSession e active
  | authenticated i p idle waiting found answered =>
    obtain ⟨mode, pool, pc, waiter⟩ := startListener_same
      { l with waiter := none, reports := l.reports ++ [Report.sessionReady] }
    refine sound.same mode pool pc ?_
    intro j waits
    cases waiter.symm.trans waits
  | refused i p cause e idle waiting found answered =>
    have quiet : Sound unmarshalString decodeMessage taken
        { l with waiter := none, reports := l.reports ++ [failureReport cause e] } :=
      sound.same rfl rfl rfl (by rintro j ⟨⟩)
    refine quiet.failSession _ ?_
    show l.pc.Active = true
    rw [idle]
    rfl
  | unpaired state idle first =>
    have quiet : Sound unmarshalString decodeMessage taken { l with state := state } := sound.same rfl rfl rfl fun _ => id
    refine quiet.failSession _ ?_
    show l.pc.Active = true
    rw [idle]
    rfl
  | paired state paired made session idle first created =>
    refine ⟨?_, ?_, ?_, ?_, ?_, ?_, ?_⟩
    · rintro p ⟨⟩
      exact sound_paired rfl created
    · rintro i ⟨⟩
      exact ⟨_, rfl, by simp [call, Pool.calls]⟩
    · intro i e here
      cases idle.symm.trans here
    · intro i result here
      cases idle.symm.trans here
    · rintro p ⟨⟩ member
      simp [call, Pool.calls] at member
    · rintro p ⟨⟩ member
      simp [call, Pool.calls] at member
    · intro result here
      cases idle.symm.trans here
  | offers state paired made session idle first created =>
    refine ⟨?_, ?_, ?_, ?_, ?_, ?_, ?_⟩
    · rintro p ⟨⟩
      exact (sound_paired rfl created).call rfl
    · rintro i ⟨⟩
      exact ⟨_, rfl, by simp [call, Pool.calls]⟩
    · rintro i e ⟨⟩
    · rintro i result ⟨⟩
    · rintro p ⟨⟩ member
      simp [call, Pool.calls] at member
    · rintro p ⟨⟩ member
      simp [call, Pool.calls] at member
    · rintro result ⟨⟩
  | calls p c pc idle found own active =>
    have before : l.pc.Active = true := by rw [idle]; rfl
    obtain ⟨unfailed, unclosed⟩ := sound.active found before
    refine sound.called found ?_ pc ?_ ?_ ?_ ?_ ?_
    · cases c <;> first | rfl | cases own
    · rintro i e rfl
      cases active
    · rintro i result rfl
      cases active
    · rintro (rfl | member)
      · cases own
      · exact absurd member unfailed
    · rintro (rfl | member)
      · cases own
      · exact absurd member unclosed
    · rintro result rfl
      cases active
  | resumes signals active =>
    refine ⟨sound.reached, sound.waiting, ?_, ?_, ?_, ?_, ?_⟩
    · rintro i e ⟨⟩
    · rintro i result ⟨⟩
    · exact fun p found member => absurd member (sound.active found active).1
    · exact fun p found member => absurd member (sound.active found active).2
    · rintro result ⟨⟩
  | failed i e p failing found finished => exact sound.leave (some e)
  | returns i result p closing found finished =>
    obtain ⟨q, same, called⟩ := sound.closing i result closing
    cases found.symm.trans same
    refine ⟨sound.reached, sound.waiting, ?_, ?_, fun _ _ _ => rfl, fun _ _ _ => rfl, ?_⟩
    · rintro i e ⟨⟩
    · rintro i result ⟨⟩
    · rintro _ - q other
      cases found.symm.trans other
      exact (sound.reached p found).ended called rfl finished

structure Extends (l m : Loop A) : Prop where
  mode : m.mode = l.mode
  pool : ∀ p, l.pool = some p → ∃ q, m.pool = some q ∧
    (∀ v, p.shared.verdict = some v → q.shared.verdict = some v) ∧ p.calls ⊆ q.calls

theorem Extends.same (mode : m.mode = l.mode) (pool : m.pool = l.pool) : Extends l m :=
  ⟨mode, fun p found => ⟨p, by rw [pool, found], fun _ => id, List.Subset.refl _⟩⟩

theorem Extends.called {p : SessionPool A} (found : l.pool = some p) (c : WebRTC.Call) (pc : LoopPc) :
    Extends l { l with pool := some (l.call unmarshalString decodeMessage p c), pc := pc } := by
  refine ⟨rfl, ?_⟩
  intro q same
  cases found.symm.trans same
  exact ⟨_, rfl, fun _ => id, by rw [call_calls]; exact List.subset_append_left _ _⟩

theorem Extends.leave (result : Option RunError) : Extends l (l.leave unmarshalString decodeMessage result) := by
  unfold Loop.leave
  split
  · exact .same rfl rfl
  · rename_i p found
    exact .called found _ _

theorem Extends.failSession (e : RunError) : Extends l (l.failSession unmarshalString decodeMessage e) := by
  unfold Loop.failSession
  split
  · exact .same rfl rfl
  · rename_i p found
    exact .called found _ _

theorem Extends.trans {n : Loop A} (first : Extends l m) (second : Extends m n) : Extends l n := by
  refine ⟨second.mode.trans first.mode, ?_⟩
  intro p found
  obtain ⟨q, foundQ, verdictQ, callsQ⟩ := first.pool p found
  obtain ⟨r, foundR, verdictR, callsR⟩ := second.pool q foundQ
  exact ⟨r, foundR, fun v settled => verdictR v (verdictQ v settled), List.Subset.trans callsQ callsR⟩

theorem Stepped.extends (stepped : Stepped unmarshalString decodeMessage l move m) : Extends l m := by
  cases stepped with
  | session p q act made found allowed stepped =>
    refine ⟨rfl, ?_⟩
    intro r same
    cases found.symm.trans same
    refine ⟨q, rfl, fun v settled => verdict_step unmarshalString decodeMessage _ stepped settled, ?_⟩
    rw [System.step_calls stepped]
    exact List.subset_append_left _ _
  | listenerEnds | keeps | detaches | resumes | returns => exact .same rfl rfl
  | leaves result idle => exact .leave result
  | fails e active => exact .failSession e
  | authenticated i p idle waiting found answered =>
    obtain ⟨mode, pool, _, _⟩ := startListener_same
      { l with waiter := none, reports := l.reports ++ [Report.sessionReady] }
    exact .same mode pool
  | refused i p cause e idle waiting found answered =>
    have quiet : Extends l { l with waiter := none, reports := l.reports ++ [failureReport cause e] } := .same rfl rfl
    exact quiet.trans (.failSession _)
  | unpaired state idle first =>
    have quiet : Extends l { l with state := state } := .same rfl rfl
    exact quiet.trans (.failSession _)
  | paired state paired made session idle first created | offers state paired made session idle first created =>
    refine ⟨rfl, ?_⟩
    intro p found
    cases first.symm.trans found
  | calls p c pc idle found own active => exact .called found _ _
  | failed i e p failing found finished => exact .leave (some e)

def Favoured (l : Loop A) : Prop := ∃ p, l.pool = some p ∧ p.shared.verdict = some none

variable (decodeMessage taken) in
/-- The session got a call that settles its authentication with this error, or the wait was cut off. -/
def Explained (l : Loop A) (e : SessionError) : Prop :=
  (e = .context ∧ CutOff taken) ∨ ∃ p c, l.pool = some p ∧ c ∈ p.calls ∧ c ≠ .fail ∧ c ≠ .close ∧
    WebRTC.Call.Settles A decodeMessage (decide (l.mode = .expose)) (Took taken c) c (some e)

theorem Extends.favoured (extended : Extends l m) (favoured : l.Favoured) : m.Favoured := by
  obtain ⟨p, found, settled⟩ := favoured
  obtain ⟨q, foundQ, verdict, _⟩ := extended.pool p found
  exact ⟨q, foundQ, verdict none settled⟩

theorem Extends.explained (extended : Extends l m) {e : SessionError} (explained : l.Explained decodeMessage taken e) :
    m.Explained decodeMessage taken e := by
  rcases explained with cut | ⟨p, c, found, member, unfailed, unclosed, settles⟩
  · exact .inl cut
  · obtain ⟨q, foundQ, _, calls⟩ := extended.pool p found
    rw [← extended.mode] at settles
    exact .inr ⟨q, c, foundQ, calls member, unfailed, unclosed, settles⟩

variable (decodeMessage taken) in
inductive Log (l : Loop A) : List Report → Prop where
  | none (idle : l.listener = .idle) : Log l []
  | ready (favoured : l.Favoured) (mode : l.mode ≠ .connect) (idle : l.listener = .idle) : Log l [.sessionReady]
  | listening (favoured : l.Favoured) (mode : l.mode = .connect) (started : l.listener ≠ .idle) :
      Log l [.sessionReady, .listening]
  | failed (cause : ContextError) (e : SessionError) (explained : l.Explained decodeMessage taken e)
      (idle : l.listener = .idle) :
      Log l [failureReport cause e]

variable (decodeMessage taken) in
structure Reported (l : Loop A) : Prop where
  waiting : ∀ i, l.waiter = some i → l.reports = []
  unpaired : l.pool = none → l.reports = []
  streams : ∀ p label, l.pool = some p → .openStreamChannel label ∈ p.calls → l.listener ≠ .idle
  log : Log decodeMessage taken l l.reports

theorem Log.extends {reports : List Report} (log : Log decodeMessage taken l reports) (extended : Extends l m)
    (started : m.listener = .idle ↔ l.listener = .idle) : Log decodeMessage taken m reports := by
  cases log with
  | none idle => exact .none (started.mpr idle)
  | ready favoured mode idle => exact .ready (extended.favoured favoured) (by rwa [extended.mode]) (started.mpr idle)
  | listening favoured mode ran =>
    exact .listening (extended.favoured favoured) (by rwa [extended.mode]) fun idle => ran (started.mp idle)
  | failed cause e explained idle => exact .failed cause e (extended.explained explained) (started.mpr idle)

theorem Log.empty (log : Log decodeMessage taken l []) : l.listener = .idle := by
  cases log
  assumption

theorem Reported.extends (reported : Reported decodeMessage taken l) (extended : Extends l m) (reports : m.reports = l.reports)
    (listener : m.listener = .idle ↔ l.listener = .idle) (waiter : ∀ i, m.waiter = some i → m.reports = [])
    (streams : ∀ p label, m.pool = some p → .openStreamChannel label ∈ p.calls → m.listener ≠ .idle) :
    Reported decodeMessage taken m := by
  refine ⟨waiter, ?_, streams, ?_⟩
  · intro none
    rw [reports]
    cases pool : l.pool with
    | none => exact reported.unpaired pool
    | some p =>
      obtain ⟨q, found, _⟩ := extended.pool p pool
      cases none.symm.trans found
  · rw [reports]
    exact reported.log.extends extended listener

theorem Reported.called (reported : Reported decodeMessage taken l) {p : SessionPool A} (found : l.pool = some p)
    {c : WebRTC.Call} (other : ∀ label, c ≠ .openStreamChannel label) (pc : LoopPc) :
    Reported decodeMessage taken { l with pool := some (l.call unmarshalString decodeMessage p c), pc := pc } := by
  refine reported.extends (.called found c pc) rfl Iff.rfl reported.waiting ?_
  rintro q label ⟨⟩ member
  rw [call_calls, List.mem_append, List.mem_singleton] at member
  rcases member with member | same
  · exact reported.streams p label found member
  · exact absurd same.symm (other label)

theorem Reported.moved (reported : Reported decodeMessage taken l) (pc : LoopPc) :
    Reported decodeMessage taken { l with pc := pc } :=
  reported.extends (.same rfl rfl) rfl Iff.rfl reported.waiting reported.streams

theorem Reported.leave (reported : Reported decodeMessage taken l) (result : Option RunError) :
    Reported decodeMessage taken (l.leave unmarshalString decodeMessage result) := by
  unfold Loop.leave
  split
  · exact reported.moved _
  · rename_i p found
    exact reported.called found (by rintro label ⟨⟩) _

theorem Reported.failSession (reported : Reported decodeMessage taken l) (e : RunError) :
    Reported decodeMessage taken (l.failSession unmarshalString decodeMessage e) := by
  unfold Loop.failSession
  split
  · exact reported.moved _
  · rename_i p found
    exact reported.called found (by rintro label ⟨⟩) _

theorem Allows.streams {move : Goroutine.Move Choice WebRTC.Call} (allowed : l.Allows move = true) {label : Bytes}
    (member : .openStreamChannel label ∈ move.spawned) : l.listener ≠ .idle := by
  cases move with
  | run => simp [Move.spawned] at member
  | spawn c =>
    cases List.mem_singleton.mp member
    exact of_decide_eq_true allowed

theorem Reported.session (reported : Reported decodeMessage taken l) {p q : SessionPool A} (found : l.pool = some p)
    {move : Goroutine.Move Choice WebRTC.Call} (allowed : l.Allows move = true)
    (stepped : (system unmarshalString decodeMessage A l.mode).step p move = some q) :
    Reported decodeMessage taken { l with pool := some q } := by
  have extended := (Stepped.session p q move rfl found allowed stepped).extends
  refine reported.extends extended rfl Iff.rfl reported.waiting ?_
  rintro r label ⟨⟩ member
  rw [System.step_calls stepped, List.mem_append] at member
  rcases member with member | member
  · exact reported.streams p label found member
  · exact Allows.streams allowed member

theorem Reported.authenticated (reported : Reported decodeMessage taken l) (favoured : l.Favoured) {i : Nat}
    (waiting : l.waiter = some i) :
    Reported decodeMessage taken { l with waiter := none, reports := l.reports ++ [Report.sessionReady] }.startListener := by
  have empty := reported.waiting i waiting
  have log := reported.log
  rw [empty] at log
  have idle := log.empty
  have paired : l.pool ≠ none := by
    obtain ⟨p, found, _⟩ := favoured
    rw [found]
    rintro ⟨⟩
  unfold startListener
  rw [empty]
  split
  · rename_i held
    refine ⟨by rintro j ⟨⟩, fun none => absurd none paired, reported.streams, ?_⟩
    refine .ready favoured ?_ idle
    rcases held with started | other
    · exact absurd idle started
    · exact other
  · rename_i free
    have connecting : l.mode = .connect := by
      by_contra other
      exact free (.inr other)
    refine ⟨by rintro j ⟨⟩, fun none => absurd none paired, fun _ _ _ _ => by rintro ⟨⟩, ?_⟩
    exact .listening favoured connecting (by rintro ⟨⟩)

theorem Reported.step (sound : Sound unmarshalString decodeMessage taken l) (reported : Reported decodeMessage taken l)
    (stepped : Stepped unmarshalString decodeMessage l move m) : Reported decodeMessage taken m := by
  cases stepped with
  | session p q act made found allowed stepped => exact reported.session found allowed stepped
  | listenerEnds result running =>
    refine reported.extends (.same rfl rfl) rfl ?_ reported.waiting fun _ _ _ _ => by rintro ⟨⟩
    rw [running]
    simp
  | keeps idle => exact reported
  | detaches idle authenticated =>
    exact reported.extends (.same rfl rfl) rfl Iff.rfl reported.waiting reported.streams
  | leaves result idle => exact reported.leave result
  | fails e active => exact reported.failSession e
  | authenticated i p idle waiting found answered =>
    obtain ⟨q, same, called⟩ := sound.waiting i waiting
    cases found.symm.trans same
    have settled := (sound.reached p found).answered called answered (by rintro ⟨⟩)
    exact reported.authenticated ⟨p, found, settled⟩ waiting
  | refused i p cause e idle waiting found answered =>
    obtain ⟨q, same, called⟩ := sound.waiting i waiting
    cases found.symm.trans same
    have active : l.pc.Active = true := by rw [idle]; rfl
    obtain ⟨unfailed, unclosed⟩ := sound.active found active
    have explained : l.Explained decodeMessage taken e := by
      rcases (sound.reached p found).explained called answered with cut | ⟨c, member, settles⟩
      · exact .inl cut
      · exact .inr ⟨p, c, found, member, fun same => unfailed (same ▸ member), fun same => unclosed (same ▸ member), settles⟩
    have log := reported.log
    rw [reported.waiting i waiting] at log
    have told : Reported decodeMessage taken { l with waiter := none, reports := l.reports ++ [failureReport cause e] } := by
      refine ⟨by rintro j ⟨⟩, ?_, reported.streams, ?_⟩
      · intro none
        cases found.symm.trans none
      · rw [reported.waiting i waiting]
        exact .failed cause e explained log.empty
    exact told.failSession _
  | unpaired state idle first =>
    have quiet : Reported decodeMessage taken { l with state := state } :=
      reported.extends (.same rfl rfl) rfl Iff.rfl reported.waiting reported.streams
    exact quiet.failSession _
  | paired state paired made session idle first created =>
    have extended := (Stepped.paired state paired made session idle first created :
      Stepped unmarshalString decodeMessage l move _).extends
    refine reported.extends extended rfl Iff.rfl (fun _ _ => reported.unpaired first) ?_
    rintro p label ⟨⟩ member
    simp [call, Pool.calls] at member
  | offers state paired made session idle first created =>
    have extended := (Stepped.offers state paired made session idle first created :
      Stepped unmarshalString decodeMessage l move _).extends
    refine reported.extends extended rfl Iff.rfl (fun _ _ => reported.unpaired first) ?_
    rintro p label ⟨⟩ member
    simp [call, Pool.calls] at member
  | calls p c pc idle found own active =>
    refine reported.called found ?_ pc
    rintro label rfl
    cases own
  | resumes signals active =>
    exact reported.extends (.same rfl rfl) rfl Iff.rfl reported.waiting reported.streams
  | failed i e p failing found finished => exact reported.leave (some e)
  | returns i result p closing found finished => exact reported.moved _

variable (unmarshalString decodeMessage) in
/-- The steps that the goroutines of the session make in a run of the loop. -/
def sessionSteps (l : Loop A) (moves : List LoopMove) : Taken A := fun p index choice =>
  Transition.Makes (fun l => l.step unmarshalString decodeMessage) l moves fun u move _ =>
    u.pool = some p ∧ move = .session (.run index choice)

theorem sound_run {mode : PeerMode} {authenticator : A.State} {moves : List LoopMove}
    (ran : (start mode authenticator : Loop A).run unmarshalString decodeMessage moves = some l) :
    Sound unmarshalString decodeMessage (sessionSteps unmarshalString decodeMessage (start mode authenticator) moves) l ∧
    Reported decodeMessage (sessionSteps unmarshalString decodeMessage (start mode authenticator) moves) l := by
  let first : Loop A := start mode authenticator
  let taken := sessionSteps unmarshalString decodeMessage first moves
  let holds (u : Loop A) : Prop := Sound unmarshalString decodeMessage taken u ∧ Reported decodeMessage taken u
  have initial : holds first :=
    ⟨sound_start mode authenticator, by rintro i ⟨⟩, fun _ => rfl, by rintro p label ⟨⟩, .none rfl⟩
  refine Transition.run_made first l moves initial ?_ ran
  rintro u move v made ⟨sound, reported⟩ went
  have stepped := stepped_of_step went
  exact ⟨sound.step (fun p index choice found same => made ⟨found, same⟩) stepped, reported.step sound stepped⟩

end Methods

end Loop

end Rtc2Tcp.Peer

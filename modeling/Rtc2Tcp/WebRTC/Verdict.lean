import Rtc2Tcp.Lib.Scope
import Rtc2Tcp.WebRTC.Shutdown

namespace Rtc2Tcp.WebRTC

open Octets Go Auth Goroutine

open Prog (perform)

variable {A : Authenticator}

/-- What `authReady` announces, once it is closed. -/
def Session.verdict (s : Session A) : Option (Option SessionError) :=
  if s.authReadyClosed then some s.authResult else none

theorem Session.verdict_closed {s : Session A} (closed : s.authReadyClosed = true) : s.verdict = some s.authResult := by
  simp [Session.verdict, closed]

theorem Session.closed_of_verdict {s : Session A} {v : Option SessionError} (settled : s.verdict = some v) :
    s.authReadyClosed = true ∧ s.authResult = v := by
  unfold Session.verdict at settled
  split at settled
  · rename_i closed
    exact ⟨closed, Option.some.inj settled⟩
  · cases settled

structure Session.SameVerdict (s t : Session A) : Prop where
  closed : t.authReadyClosed = s.authReadyClosed
  result : t.authResult = s.authResult
  authenticated : t.authenticated = s.authenticated

theorem Session.SameVerdict.refl (s : Session A) : s.SameVerdict s := ⟨rfl, rfl, rfl⟩

theorem Session.SameVerdict.verdict {s t : Session A} (same : s.SameVerdict t) : t.verdict = s.verdict := by
  rw [Session.verdict, Session.verdict, same.closed, same.result]

def Op.settles {β : Type} (op : Op β) : Bool := op.writes .authReadyClosed

theorem Session.exec_unsettled {β : Type} (op : Op β) (c : Choice) (s t : Session A) (result : β)
    (other : op.settles = false) (executed : Session.exec op c s = some (result, t)) : s.SameVerdict t := by
  have framed := Session.exec_frame op c s t result executed
  cases op with
  | completeAuthResult => cases other
  | _ => exact ⟨framed.authReadyClosed rfl, framed.authResult rfl, framed.authenticated rfl⟩

theorem Session.exec_verdict {β : Type} (op : Op β) (c : Choice) (s t : Session A) (result : β) (v : Option SessionError)
    (executed : Session.exec op c s = some (result, t)) (settled : s.verdict = some v) : t.verdict = some v := by
  cases settling : op.settles with
  | false => rw [(Session.exec_unsettled op c s t result settling executed).verdict, settled]
  | true =>
    cases op with
    | completeAuthResult err authenticated =>
      cases executed
      rw [Session.completeAuthResult, if_pos (Session.closed_of_verdict settled).1]
      exact settled
    | _ => cases settling

structure VerdictInv (s : Session A) : Prop where
  agrees : s.authReadyClosed = true → (s.authResult = none ↔ s.authenticated = true)

def VerdictGrows (s t : Session A) : Prop := ∀ v, s.verdict = some v → t.verdict = some v

def verdictNeeds : {β : Type} → Op β → Session A → Prop
  | _, .completeAuthResult err authenticated, _ => err = none ↔ authenticated = true
  | _, _, _ => True

def verdictGives : {β : Type} → Op β → β → Session A → Prop
  | _, .authReady, yes, s => yes = true → s.authReadyClosed = true
  | _, .waitAuthReady, yes, s => yes = true → s.authReadyClosed = true
  | _, .readAuthResult, result, s => s.authReadyClosed = true → s.verdict = some result
  | _, .readAuthenticated, yes, s => s.authReadyClosed = true → yes = true → s.verdict = some none
  | _, _, _, _ => True

theorem VerdictGrows.closed {s t : Session A} (grown : VerdictGrows s t) (closed : s.authReadyClosed = true) :
    t.authReadyClosed = true :=
  (Session.closed_of_verdict (grown _ (Session.verdict_closed closed))).1

theorem verdict_same {s t : Session A} (inv : VerdictInv s) (same : s.SameVerdict t) : VerdictInv t ∧ VerdictGrows s t := by
  refine ⟨⟨?_⟩, ?_⟩
  · rw [same.closed, same.result, same.authenticated]
    exact inv.agrees
  · intro v settled
    rw [same.verdict]
    exact settled

theorem verdict_sound {β : Type} (op : Op β) (c : Choice) (s t : Session A) (result : β) (inv : VerdictInv s)
    (need : verdictNeeds op s) (executed : Session.exec op c s = some (result, t)) :
    (VerdictInv t ∧ VerdictGrows s t) ∧ verdictGives op result t := by
  have sideways : op.settles = false → VerdictInv t ∧ VerdictGrows s t := fun other =>
    verdict_same inv (Session.exec_unsettled op c s t result other executed)
  cases op with
  | completeAuthResult err authenticated =>
    cases executed
    refine ⟨?_, trivial⟩
    unfold Session.completeAuthResult
    split
    · exact verdict_same inv (.refl s)
    · rename_i unset
      refine ⟨⟨fun _ => need⟩, ?_⟩
      intro v settled
      exact absurd (Session.closed_of_verdict settled).1 unset
  | authReady =>
    refine ⟨sideways rfl, ?_⟩
    cases executed
    exact id
  | waitAuthReady =>
    refine ⟨sideways rfl, ?_⟩
    simp only [Session.exec] at executed
    split at executed
    · rename_i announced
      cases executed
      exact fun _ => announced.1
    · split at executed <;> cases executed
      intro impossible
      cases impossible
  | readAuthResult =>
    refine ⟨sideways rfl, ?_⟩
    cases executed
    exact Session.verdict_closed
  | readAuthenticated =>
    refine ⟨sideways rfl, ?_⟩
    cases executed
    intro closed yes
    rw [Session.verdict_closed closed, (of_decide_eq_true yes).1]
  | _ => exact ⟨sideways rfl, trivial⟩

def verdictDiscipline (A : Authenticator) : Discipline (machine A) where
  inv := VerdictInv
  grows := VerdictGrows
  refl := fun _ _ settled => settled
  trans := fun _ _ _ first second v settled => second v (first v settled)
  meets := fun _ _ => True
  needs := verdictNeeds
  gives := verdictGives
  sound := by
    intro β op c s t result inv _ need executed
    obtain ⟨⟨holds, grown⟩, given⟩ := verdict_sound op c s t result inv need executed
    exact ⟨holds, grown, given⟩

abbrev VerdictSafe {α : Type} (post : α → Session A → Prop) (p : Prog Op α) (s : Session A) : Prop :=
  Safe (verdictDiscipline A) post p s

abbrev VerdictFree (A : Authenticator) {α : Type} (p : Prog Op α) : Prop := Free (verdictDiscipline A) p

theorem verdict_free {α : Type} (op : Op α) (other : op.settles = false) : VerdictFree A (perform op) := by
  refine Free.perform ?_
  intro s
  cases op with
  | completeAuthResult => cases other
  | _ => exact trivial

theorem verdict_completes (err : Option SessionError) (authenticated : Bool) (fits : err = none ↔ authenticated = true) :
    VerdictFree A (perform (.completeAuthResult err authenticated)) :=
  Free.perform fun _ => fits

theorem verdict_sequenced : Sequenced fun p => VerdictFree A p where
  pure value := Free.pure value
  bind first rest := Free.bind first rest

theorem verdict_ending {α : Type} (op : Op α) (ends : op.ending = true) : VerdictFree A (perform op) := by
  cases op with
  | completeAuthResult err authenticated =>
    simp only [Op.ending, Bool.and_eq_true, Bool.not_eq_true'] at ends
    refine verdict_completes _ _ ⟨?_, ?_⟩
    · rintro rfl
      cases ends.1
    · intro set
      cases ends.2.symm.trans set
  | _ => exact verdict_free _ rfl

theorem verdict_composed : Composed fun p => VerdictFree A p := by
  refine verdict_sequenced.composed verdict_ending ?_
  intro α op plain
  refine verdict_free op ?_
  cases op with
  | completeAuthResult => cases plain
  | _ => rfl

def Outcome.passed : Outcome → Prop
  | .answered yes => yes = true
  | outcome => outcome.admitted

/-- What the outcome of a call tells about the verdict. A waiting call may be cut off by its context. -/
structure Told (call : Call) (outcome : Outcome) (s : Session A) : Prop where
  waited : call = .waitAuthenticated → ∀ err, outcome = .finished err → err ≠ some .context → s.verdict = some err
  passed : outcome.passed → s.verdict = some none

theorem Told.silent {call : Call} {outcome : Outcome} {s : Session A} (other : call ≠ .waitAuthenticated)
    (blocked : ¬outcome.passed) : Told call outcome s :=
  ⟨fun same => absurd same other, fun passed => absurd passed blocked⟩

theorem verdict_waitAuthenticated (s : Session A) :
    VerdictSafe (fun err t => err ≠ some .context → t.verdict = some err) waitAuthenticated s := by
  unfold waitAuthenticated
  have ready : VerdictSafe (fun yes t => yes = true → t.authReadyClosed = true) (perform .waitAuthReady) s :=
    Safe.perform (fun _ _ _ _ => trivial) (fun _ _ _ _ given => given)
      fun _ _ _ _ grown closed yes => VerdictGrows.closed grown (closed yes)
  refine Safe.bind ready fun yes t _ _ closed => ?_
  split
  · rename_i announced
    refine Safe.perform (fun _ _ _ _ => trivial) ?_ fun _ _ _ _ grown settled other => grown _ (settled other)
    intro err u _ grown given _
    exact given (VerdictGrows.closed grown (closed announced))
  · exact Safe.pure fun _ _ _ other => absurd rfl other

theorem verdict_isAuthenticated (s : Session A) :
    VerdictSafe (fun yes t => yes = true → t.verdict = some none) isAuthenticated s := by
  unfold isAuthenticated
  have ready : VerdictSafe (fun yes t => yes = true → t.authReadyClosed = true) (perform .authReady) s :=
    Safe.perform (fun _ _ _ _ => trivial) (fun _ _ _ _ given => given)
      fun _ _ _ _ grown closed yes => VerdictGrows.closed grown (closed yes)
  refine Safe.bind ready fun yes t _ _ closed => ?_
  split
  · rename_i announced
    refine Safe.perform (fun _ _ _ _ => trivial) ?_ fun _ _ _ _ grown settled passed => grown _ (settled passed)
    intro answer u _ grown given passed
    exact given (VerdictGrows.closed grown (closed announced)) passed
  · exact Safe.pure fun _ _ _ impossible => by cases impossible

theorem verdict_gate (refusal : SessionError) (s : Session A) :
    VerdictSafe (fun refused t => refused = none → t.verdict = some none) (gate refusal) s := by
  unfold gate
  refine Safe.bind ((verdict_free _ rfl).safe s) fun live t _ _ _ => ?_
  split
  · refine Safe.bind (verdict_isAuthenticated t) fun yes u _ _ settled => ?_
    split
    · rename_i passed
      exact Safe.pure fun v _ grown _ => grown _ (settled passed)
    · exact Safe.pure fun _ _ _ impossible => by cases impossible
  · exact Safe.pure fun _ _ _ impossible => by cases impossible

theorem verdict_openStreamChannel (label : Bytes) (s : Session A) :
    VerdictSafe (fun result t => ∀ dc, result = .ok dc → t.verdict = some none) (openStreamChannel label) s := by
  unfold openStreamChannel
  refine Safe.bind (verdict_gate .notAuthenticated s) fun refused t _ _ settled => ?_
  split
  · exact Safe.pure fun _ _ _ _ impossible => by cases impossible
  · have passed := settled rfl
    refine Safe.bind ((verdict_free _ rfl).safe t) fun made u _ grownU _ => ?_
    split
    · exact Safe.pure fun _ _ _ _ impossible => by cases impossible
    · refine Safe.bind ((verdict_free _ rfl).safe u) fun error v _ grownV _ => ?_
      split
      · refine Safe.bind ((verdict_free _ rfl).safe v) fun _ w _ _ _ => ?_
        exact Safe.pure fun _ _ _ _ impossible => by cases impossible
      · exact Safe.pure fun w _ grownW _ _ => grownW _ (grownV _ (grownU _ passed))

theorem verdict_onDataChannel (hasOnStream : Bool) (dc : DataChannel) (s : Session A) :
    VerdictSafe (Told (.dataChannel dc)) (onDataChannel hasOnStream dc) s := by
  have other : Call.dataChannel dc ≠ .waitAuthenticated := by rintro ⟨⟩
  unfold onDataChannel
  split
  · refine Safe.bind ((verdict_composed.attachControlChannel dc).safe s) fun _ t _ _ _ => ?_
    exact Safe.pure fun _ _ _ => .silent other id
  · have prepared : VerdictSafe (fun error t => error = none → t.verdict = some none) prepareInboundPayloadChannel s := by
      unfold prepareInboundPayloadChannel
      refine Safe.bind (verdict_gate .preAuthPayloadChannel s) fun refused t _ _ settled => ?_
      split
      · exact Safe.pure fun _ _ _ impossible => by cases impossible
      · have passed := settled rfl
        exact ((verdict_free _ rfl).safe t).keep (fun u => u.verdict = some none)
          (fun _ _ (grown : VerdictGrows _ _) => grown _) passed
          |>.weaken fun _ _ _ both _ => both.2
    refine Safe.bind prepared fun error t _ _ settled => ?_
    split
    · refine Safe.bind ((verdict_free _ rfl).safe t) fun _ u _ _ _ => ?_
      refine Safe.bind ((verdict_composed.fail _).safe u) fun _ v _ _ _ => ?_
      exact Safe.pure fun _ _ _ => .silent other id
    · have passed := settled rfl
      split
      · refine Safe.bind ((verdict_free _ rfl).safe t) fun _ u _ grown _ => ?_
        exact Safe.pure fun v _ later => ⟨fun same => absurd same other, fun _ => later _ (grown _ passed)⟩
      · refine Safe.bind ((verdict_free _ rfl).safe t) fun _ u _ grown _ => ?_
        refine Safe.bind ((verdict_composed.fail _).safe u) fun _ v _ further _ => ?_
        exact Safe.pure fun w _ later => ⟨fun same => absurd same other, fun _ => later _ (further _ (grown _ passed))⟩

section Runs

variable (unmarshalString : Bytes → Option SessionDescription) (decodeMessage : Bytes → Option Message)
  (hasOnStream : Bool)

theorem verdict_step {p q : Pool Op (Session A) Call Outcome} {m : Move Choice Call} {v : Option SessionError}
    (stepped : (sessionSystem unmarshalString decodeMessage A hasOnStream).step p m = some q)
    (settled : p.shared.verdict = some v) : q.shared.verdict = some v := by
  have kept : ∀ call (s t : Session A), enter call s = some t → s.verdict = some v → t.verdict = some v := by
    intro call s t entered settled
    rw [enter_same call s t entered]
    exact settled
  exact System.step_stable kept (fun op c s t result executed => Session.exec_verdict op c s t result v executed) stepped
    settled

theorem verdict_free_body (call : Call) : VerdictFree A (body unmarshalString decodeMessage hasOnStream call) := by
  have sending : VerdictFree A maybeSendAuth :=
    verdict_composed.maybeSendAuth (verdict_free _ rfl) (verdict_free _ rfl) (verdict_free _ rfl)
      fun _ _ => verdict_free _ rfl
  refine verdict_composed.body unmarshalString decodeMessage ?_ sending
    (verdict_sequenced.close verdict_ending) ?_ hasOnStream call
  · intro β op outer
    refine verdict_free op ?_
    cases op with
    | completeAuthResult => cases outer
    | _ => rfl
  · intro data
    refine verdict_composed.onControlMessage decodeMessage data ?_
    exact verdict_composed.handleControlMessage (verdict_free _ rfl) (fun _ => verdict_free _ rfl)
      (fun _ _ => verdict_free _ rfl) (verdict_free _ rfl) (verdict_completes _ _ (by simp)) decodeMessage data

theorem verdict_body (call : Call) (s : Session A) :
    VerdictSafe (Told call) (body unmarshalString decodeMessage hasOnStream call) s := by
  -- calls that ask for no verdict
  have silent : ∀ {α : Type} (q : Prog Op α) (f : α → Outcome) (call : Call),
      body unmarshalString decodeMessage hasOnStream call = f <$> q → call ≠ .waitAuthenticated →
      (∀ value, ¬(f value).passed) → VerdictSafe (Told call) (body unmarshalString decodeMessage hasOnStream call) s := by
    intro α q f call same other blocked
    have free := verdict_free_body (A := A) unmarshalString decodeMessage hasOnStream call
    rw [same] at free
    rw [same]
    exact Safe.bind ((Free.of_bind free).safe s) fun value t _ _ _ => Safe.pure fun _ _ _ => .silent other (blocked value)
  cases call with
  | waitAuthenticated =>
    refine Safe.bind (verdict_waitAuthenticated s) fun err t _ _ told => Safe.pure fun u _ grown => ?_
    refine ⟨?_, fun impossible => impossible.elim⟩
    rintro - err ⟨⟩ other
    exact grown _ (told other)
  | isAuthenticated =>
    refine Safe.bind (verdict_isAuthenticated s) fun yes t _ _ told => Safe.pure fun u _ grown => ?_
    exact ⟨(by rintro ⟨⟩), fun passed => grown _ (told passed)⟩
  | openStreamChannel label =>
    refine Safe.bind (verdict_openStreamChannel label s) fun result t _ _ passed => ?_
    split
    · rename_i dc
      exact Safe.pure fun u _ grown => ⟨(by rintro ⟨⟩), fun _ => grown _ (passed dc rfl)⟩
    · exact Safe.pure fun _ _ _ => .silent (by rintro ⟨⟩) id
  | dataChannel dc => exact verdict_onDataChannel hasOnStream dc s
  | _ => exact silent _ _ _ rfl (by rintro ⟨⟩) fun _ => id

theorem verdict_entered (call : Call) (s t : Session A) (entered : enter call s = some t)
    (holds : (verdictDiscipline A).inv s) : (verdictDiscipline A).inv t ∧ (verdictDiscipline A).grows s t := by
  rw [enter_same call s t entered]
  exact ⟨holds, (verdictDiscipline A).refl s⟩

variable {decodeMessage hasOnStream} {cfg : SessionConfig A} {created : Bool} {control : Option DataChannel} {s : Session A}
  {moves : List (Move Choice Call)} {p : Pool Op (Session A) Call Outcome}

theorem verdict_certified (ok : newSession cfg created control = .ok s)
    (ran : (sessionSystem unmarshalString decodeMessage A hasOnStream).run ⟨s, []⟩ moves = some p) :
    Certified (S := sessionSystem unmarshalString decodeMessage A hasOnStream) (verdictDiscipline A)
      (fun _ call => Told call) p := by
  let system := sessionSystem unmarshalString decodeMessage A hasOnStream
  let D : Discipline system.toMachine := verdictDiscipline A
  have starts := newSession_starts cfg created control s ok
  have initial : Certified D (fun _ call => Told call) (⟨s, []⟩ : Pool Op (Session A) Call Outcome) := by
    refine ⟨⟨?_⟩, by simp⟩
    intro closed
    rw [starts.authReadyClosed] at closed
    cases closed
  exact (certified_run _ p moves initial verdict_entered
    (fun _ call t _ _ => verdict_body unmarshalString decodeMessage hasOnStream call t)
    (D.metBy_always (fun _ _ => trivial) _ _) ran).1

theorem gate_certified (ok : newSession cfg created control = .ok s)
    (ran : (sessionSystem unmarshalString decodeMessage A hasOnStream).run ⟨s, []⟩ moves = some p) : GateInv p.shared := by
  let system := sessionSystem unmarshalString decodeMessage A hasOnStream
  let D : Discipline system.toMachine := gateDiscipline A
  have fresh := newSession_fresh cfg created control s ok
  have initial : Certified D (fun _ _ _ _ => True) (⟨s, []⟩ : Pool Op (Session A) Call Outcome) := by
    refine ⟨⟨?_, ?_⟩, by simp⟩
    · intro set
      rw [fresh.authenticated] at set
      cases set
    · intro before dc after split
      rw [fresh.events] at split
      simp at split
  exact (certified_run _ p moves initial gate_entered
    (fun _ call t _ _ => (safe_body unmarshalString decodeMessage hasOnStream call t).weaken fun _ _ _ _ => trivial)
    (D.metBy_always (fun _ _ => trivial) _ _) ran).1.inv

theorem verdict_stepDone (ok : newSession cfg created control = .ok s)
    (ran : (sessionSystem unmarshalString decodeMessage A hasOnStream).run ⟨s, []⟩ moves = some p)
    (favourable : p.shared.verdict = some none) : StepDone p.shared := by
  obtain ⟨closed, unfailed⟩ := Session.closed_of_verdict favourable
  have certified := verdict_certified unmarshalString ok ran
  exact (gate_certified unmarshalString ok ran).flag ((certified.inv.agrees closed).mp unfailed)

/-- All who ask for the verdict of a session are told the same: every waiting call that its context does not cut off, and
    every call that lets a payload channel through. The verdict is final, and it is in favour only after the authenticator's
    step was done. -/
theorem verdict_agreed (cfg : SessionConfig A) (created : Bool) (control : Option DataChannel) (s : Session A)
    (ok : newSession cfg created control = .ok s) (moves : List (Move Choice Call)) (p : Pool Op (Session A) Call Outcome)
    (ran : (sessionSystem unmarshalString decodeMessage A hasOnStream).run ⟨s, []⟩ moves = some p) :
    (∀ thread ∈ p.threads, ∀ outcome, thread.prog = .done outcome → Told thread.call outcome p.shared) ∧
    (p.shared.verdict = some none → StepDone p.shared) ∧
    ∀ v, p.shared.verdict = some v → ∀ later (q : Pool Op (Session A) Call Outcome),
      (sessionSystem unmarshalString decodeMessage A hasOnStream).run p later = some q → q.shared.verdict = some v := by
  let system := sessionSystem unmarshalString decodeMessage A hasOnStream
  let D : Discipline system.toMachine := verdictDiscipline A
  have certified := verdict_certified unmarshalString ok ran
  refine ⟨?_, ?_, ?_⟩
  · intro thread member outcome finished
    obtain ⟨i, found⟩ := List.getElem?_of_mem member
    obtain ⟨call, prog⟩ := thread
    obtain rfl : prog = .done outcome := finished
    exact certified.threads i call _ found p.shared certified.inv (D.refl _)
  · exact verdict_stepDone unmarshalString ok ran
  · intro v settled later q ranLater
    have preserved : ∀ p m q, p.shared.verdict = some v → system.step p m = some q → q.shared.verdict = some v :=
      fun _ _ _ settled stepped => verdict_step unmarshalString decodeMessage hasOnStream stepped settled
    exact Transition.run_preserves preserved p q later settled ranLater

end Runs

def awaitedMoves : List (Move Choice Call) :=
  earlyMoves ++ .spawn .waitAuthenticated :: List.replicate 2 (.run 1 ⟨true, [], 0⟩)

theorem verdict_agreed_early :
    ∃ p, earlySystem.run ⟨exposedSession, []⟩ awaitedMoves = some p ∧
      p.shared.verdict = some (some .preAuthPayloadChannel) ∧
      (∀ thread ∈ p.threads, ∀ outcome, thread.prog = .done outcome → Told thread.call outcome p.shared) ∧
      ∀ later q, earlySystem.run p later = some q → q.shared.verdict = some (some .preAuthPayloadChannel) := by
  have made : newSession exposeConfig true none = .ok exposedSession := by rfl
  have ended : (earlySystem.run ⟨exposedSession, []⟩ awaitedMoves).map (fun p => p.shared.verdict) =
      some (some (some .preAuthPayloadChannel)) := by decide +kernel
  obtain ⟨p, ran, settled⟩ := Option.map_eq_some_iff.mp ended
  obtain ⟨told, _, final⟩ := verdict_agreed (fun _ => none) exposeConfig true none exposedSession made
    awaitedMoves p ran
  exact ⟨p, ran, settled, told, final _ settled⟩

end Rtc2Tcp.WebRTC

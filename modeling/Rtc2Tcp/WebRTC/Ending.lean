import Rtc2Tcp.WebRTC.Shutdown

namespace Rtc2Tcp.WebRTC

open Octets Go Auth Goroutine

open Prog (perform)

variable {A : Authenticator}

def Op.target : {β : Type} → Op β → Option SessionState
  | _, .transition next => some next
  | _, _ => none

theorem exec_target {β : Type} {op : Op β} {c : Choice} {s t : Session A} {result : β}
    (executed : Session.exec op c s = some (result, t)) :
    t.state = s.state ∨ (op.target = some t.state ∧ s.state.transition t.state = some t.state) := by
  have framed := Session.exec_frame op c s t result executed
  cases op with
  | transition next =>
    simp only [Session.exec] at executed
    split at executed
    · rename_i after moved
      cases executed
      obtain ⟨rfl, _⟩ := SessionState.transition_cases _ _ _ moved
      exact .inr ⟨rfl, moved⟩
    · cases executed
      exact .inl rfl
  | _ => exact .inl (framed.state rfl)

/-- The session is over, and those who wait for the authentication have been told. -/
def Session.Ended (s : Session A) : Prop := s.state.Over ∧ s.authReadyClosed = true

def EndInv (s : Session A) : Prop := s.closeOnce = .done → s.Ended

structure EndGrows (s t : Session A) : Prop where
  finished : s.state.Over → t.state.Over
  settled : s.authReadyClosed = true → t.authReadyClosed = true

theorem EndGrows.refl (s : Session A) : EndGrows s s := ⟨id, id⟩

theorem EndGrows.ended {s t : Session A} (grown : EndGrows s t) (ended : s.Ended) : t.Ended :=
  ⟨grown.finished ended.1, grown.settled ended.2⟩

def endNeeds : {β : Type} → Op β → Session A → Prop
  | _, .onceExit, s => s.Ended
  | _, _, _ => True

def endGives : {β : Type} → Op β → β → Session A → Prop
  | _, .isOneOf states, yes, s => yes = true → s.state ∈ states
  | _, .transition next, _, s => s.state = next ∨ s.state.transition next = none
  | _, .completeAuthResult _ _, _, s => s.authReadyClosed = true
  | _, .onceEnter, first, s => first = false → s.Ended
  | _, .onceExit, _, s => s.Ended
  | _, _, _, _ => True

theorem end_sound {β : Type} (op : Op β) (c : Choice) (s t : Session A) (result : β) (inv : EndInv s) (need : endNeeds op s)
    (executed : Session.exec op c s = some (result, t)) : EndInv t ∧ EndGrows s t ∧ endGives op result t := by
  have steady : op.final = false → EndInv t ∧ EndGrows s t := by
    intro other
    have same := exec_steady other executed
    refine ⟨?_, ⟨?_, ?_⟩⟩
    · unfold EndInv Session.Ended
      rw [same.closeOnce, same.state, same.authReadyClosed]
      exact inv
    · rw [same.state]
      exact id
    · rw [same.authReadyClosed]
      exact id
  cases op with
  | isOneOf states =>
    refine ⟨(steady rfl).1, (steady rfl).2, ?_⟩
    cases executed
    exact fun yes => of_decide_eq_true yes
  | transition next =>
    simp only [Session.exec] at executed
    split at executed
    · rename_i after moved
      cases executed
      have arrived := (SessionState.transition_cases _ _ _ moved).1
      have finished := fun ended => SessionState.transition_over _ _ _ ended moved
      exact ⟨fun done => ⟨finished (inv done).1, (inv done).2⟩, ⟨finished, id⟩, .inl arrived⟩
    · rename_i refused
      cases executed
      exact ⟨inv, .refl _, .inr refused⟩
  | completeAuthResult err authenticated =>
    cases executed
    unfold Session.completeAuthResult
    split
    · rename_i settled
      exact ⟨inv, .refl _, settled⟩
    · exact ⟨fun done => ⟨(inv done).1, rfl⟩, ⟨id, fun _ => rfl⟩, rfl⟩
  | onceEnter =>
    simp only [Session.exec] at executed
    split at executed
    · cases executed
      exact ⟨(by rintro ⟨⟩), ⟨id, id⟩, (by rintro ⟨⟩)⟩
    · cases executed
    · rename_i done
      cases executed
      exact ⟨inv, .refl _, fun _ => inv done⟩
  | onceExit =>
    cases executed
    exact ⟨fun _ => need, ⟨id, id⟩, need⟩
  | _ => exact ⟨(steady rfl).1, (steady rfl).2, trivial⟩

def endDiscipline (A : Authenticator) : Discipline (machine A) where
  inv := EndInv
  grows := EndGrows
  refl := .refl
  trans := fun _ _ _ first second => ⟨second.finished ∘ first.finished, second.settled ∘ first.settled⟩
  meets := fun _ _ => True
  needs := endNeeds
  gives := endGives
  sound := fun op c s t result inv _ need executed => end_sound op c s t result inv need executed

abbrev EndSafe {α : Type} (post : α → Session A → Prop) (p : Prog Op α) (s : Session A) : Prop :=
  Safe (endDiscipline A) post p s

theorem end_op {α : Type} {op : Op α} (needless : ∀ t : Session A, endNeeds op t) (s : Session A) :
    EndSafe (fun _ _ => True) (perform op) s :=
  (Free.perform needless).safe s

theorem over_of_stuck {state : SessionState} (next : SessionState) (ending : next = .failed ∨ next = .closing)
    (stuck : state = next ∨ state.transition next = none) : state.Over := by
  rcases ending with rfl | rfl <;> revert stuck <;> cases state <;> decide

theorem end_transition (next : SessionState) (ending : next = .failed ∨ next = .closing) (s : Session A) :
    EndSafe (fun _ t => t.state.Over) (perform (.transition next)) s :=
  Safe.perform (fun _ _ _ _ => trivial) (fun _ _ _ _ given => over_of_stuck next ending given)
    fun _ _ _ _ grown finished => grown.finished finished

theorem end_check (states : List SessionState) (final : ∀ state ∈ states, state.Over) (s : Session A) :
    EndSafe (fun yes t => yes = true → t.state.Over) (perform (.isOneOf states)) s :=
  Safe.perform (fun _ _ _ _ => trivial) (fun _ _ _ _ given yes => final _ (given yes))
    fun _ _ _ _ grown finished yes => grown.finished (finished yes)

theorem end_settle (err : Option SessionError) (authenticated : Bool) (s : Session A) :
    EndSafe (fun _ t => t.authReadyClosed = true) (perform (.completeAuthResult err authenticated)) s :=
  Safe.perform (fun _ _ _ _ => trivial) (fun _ _ _ _ given => given) fun _ _ _ _ grown settled => grown.settled settled

theorem end_enter (s : Session A) : EndSafe (fun first t => first = false → t.Ended) (perform .onceEnter) s :=
  Safe.perform (fun _ _ _ _ => trivial) (fun _ _ _ _ given => given)
    fun _ _ _ _ grown ended waited => grown.ended (ended waited)

theorem end_exit (s : Session A) (ended : s.Ended) : EndSafe (fun _ t => t.Ended) (perform .onceExit) s :=
  Safe.perform (fun _ _ grown _ => grown.ended ended) (fun _ _ _ _ given => given) fun _ _ _ _ grown held => grown.ended held

theorem end_then {α β : Type} {op : Op α} {f : α → Prog Op β} {post : β → Session A → Prop} {s : Session A}
    (needless : ∀ t : Session A, endNeeds op t) (ended : s.Ended)
    (rest : ∀ value t, t.Ended → EndSafe post (f value) t) : EndSafe post (perform op >>= f) s :=
  Safe.bind (end_op needless s) fun value t _ grown _ => rest value t (grown.ended ended)

theorem end_fail (err : SessionError) (s : Session A) : EndSafe (fun _ t => t.Ended) (fail err) s := by
  unfold fail
  refine Safe.bind (end_settle _ _ s) fun _ t _ _ settled => ?_
  refine Safe.bind (end_enter t) fun entered u _ grownU ended => ?_
  have leaving : ∀ v : Session A, v.Ended → EndSafe (fun _ w => w.Ended) leaveOnce v := by
    intro v ended
    refine end_then (fun _ => trivial) ended fun closed w endedW => ?_
    split
    · exact end_then (fun _ => trivial) endedW fun _ x endedX => end_exit x endedX
    · exact end_exit w endedW
  split
  · refine Safe.bind (end_check _ (by decide) u) fun finished v _ grownV final => ?_
    have settledV := grownV.settled (grownU.settled settled)
    split
    · refine Safe.bind (end_transition .failed (.inl rfl) v) fun _ w _ grownW done => ?_
      exact leaving w ⟨done, grownW.settled settledV⟩
    · rename_i already
      exact leaving v ⟨final (by simpa using already), settledV⟩
  · rename_i waited
    exact Safe.pure fun v _ grown => grown.ended (ended (by simpa using waited))

theorem end_close (s : Session A) : EndSafe (fun _ t => t.Ended) close s := by
  unfold close
  have reading : ∀ v : Session A, v.Ended → EndSafe (fun _ w => w.Ended) (perform .readCloseErr) v := by
    intro v ended
    refine Safe.perform (fun _ _ _ _ => trivial) (fun _ _ _ grown _ => grown.ended ended)
      fun _ _ _ _ grown held => grown.ended held
  have leaving : ∀ v : Session A, v.Ended → EndSafe (fun _ w => w.Ended) (do perform .onceExit; perform .readCloseErr) v :=
    fun v ended => Safe.bind (end_exit v ended) fun _ w _ _ endedW => reading w endedW
  refine Safe.bind (end_enter s) fun entered t _ _ ended => ?_
  split
  · have ending : ∀ v : Session A, v.state.Over → EndSafe (fun _ w => w.Ended) (do
        perform (.completeAuthResult (some .sessionClosed) false)
        if ← perform .pcClose then
          if ← perform (.isOneOf [.closing]) then
            let _ ← perform (.transition .closed)
        else
          perform .setCloseErr
        perform .onceExit
        perform .readCloseErr) v := by
      intro v finished
      refine Safe.bind (end_settle _ _ v) fun _ w _ grownW settled => ?_
      refine end_then (fun _ => trivial) ⟨grownW.finished finished, settled⟩ fun shut x endedX => ?_
      split
      · refine end_then (fun _ => trivial) endedX fun closing y endedY => ?_
        split
        · exact end_then (fun _ => trivial) endedY fun _ z endedZ => leaving z endedZ
        · exact leaving y endedY
      · exact end_then (fun _ => trivial) endedX fun _ y endedY => leaving y endedY
    refine Safe.bind (end_check _ (by decide) t) fun finished u _ _ final => ?_
    split
    · exact Safe.bind (end_transition .closing (.inr rfl) u) fun _ v _ _ done => ending v done
    · rename_i already
      exact ending u (final (by simpa using already))
  · rename_i waited
    exact reading t (ended (by simpa using waited))

theorem end_composed : Composed fun p => ∀ s : Session A, EndSafe (fun _ _ => True) p s where
  pure := fun value s => (Free.pure value).safe s
  bind := fun first rest s => Safe.bind (first s) fun value t _ _ _ => rest value t
  plain := by
    intro β op plain s
    refine end_op ?_ s
    intro t
    cases op with
    | onceExit => cases plain
    | _ => exact trivial
  fail := fun err s => (end_fail err s).weaken fun _ _ _ _ => trivial

def Call.ends : Call → Bool
  | .fail => true
  | .close => true
  | _ => false

section Runs

variable (unmarshalString : Bytes → Option SessionDescription) (decodeMessage : Bytes → Option Message)
  (hasOnStream : Bool)

theorem end_body (call : Call) (s : Session A) :
    EndSafe (fun _ t => call.ends = true → t.Ended) (body unmarshalString decodeMessage hasOnStream call) s := by
  have quiet : ∀ {α : Type} (op : Op α), (∀ t : Session A, endNeeds op t) → ∀ s, EndSafe (fun _ _ => True) (perform op) s :=
    fun op needless s => end_op needless s
  have every : ∀ (call : Call) (s : Session A),
      EndSafe (fun _ _ => True) (body unmarshalString decodeMessage hasOnStream call) s := by
    intro call
    refine end_composed.body unmarshalString decodeMessage ?_ ?_ ?_ ?_ hasOnStream call
    · intro β op outer
      refine quiet op ?_
      intro t
      cases op with
      | onceExit => cases outer
      | _ => exact trivial
    · exact end_composed.maybeSendAuth (quiet _ fun _ => trivial) (quiet _ fun _ => trivial) (quiet _ fun _ => trivial)
        fun _ _ => quiet _ fun _ => trivial
    · exact fun s => (end_close s).weaken fun _ _ _ _ => trivial
    · intro data
      refine end_composed.onControlMessage decodeMessage data ?_
      exact end_composed.handleControlMessage (quiet _ fun _ => trivial) (fun _ => quiet _ fun _ => trivial)
        (fun _ _ => quiet _ fun _ => trivial) (quiet _ fun _ => trivial) (quiet _ fun _ => trivial) decodeMessage data
  cases call with
  | fail => exact Safe.bind (end_fail .caller s) fun _ t _ _ ended => Safe.pure fun _ _ grown _ => grown.ended ended
  | close => exact Safe.bind (end_close s) fun _ t _ _ ended => Safe.pure fun _ _ grown _ => grown.ended ended
  | _ => exact (every _ s).weaken fun _ _ _ _ impossible => by cases impossible

variable {decodeMessage hasOnStream} {cfg : SessionConfig A} {created : Bool} {control : Option DataChannel} {s : Session A}
  {moves : List (Move Choice Call)} {p : Pool Op (Session A) Call Outcome}

/-- Once `Fail` or `Close` has returned, the session is over and its verdict is known. -/
theorem ended_run (ok : newSession cfg created control = .ok s)
    (ran : (sessionSystem unmarshalString decodeMessage A hasOnStream).run ⟨s, []⟩ moves = some p) (i : Nat) (call : Call)
    (outcome : Outcome) (finished : p.threads[i]? = some ⟨call, .done outcome⟩) (ending : call.ends = true) :
    p.shared.Ended := by
  let system := sessionSystem unmarshalString decodeMessage A hasOnStream
  let D : Discipline system.toMachine := endDiscipline A
  have starts := newSession_starts cfg created control s ok
  have initial : Certified D (fun _ call _ t => call.ends = true → t.Ended) (⟨s, []⟩ : Pool Op (Session A) Call Outcome) := by
    refine ⟨?_, by simp⟩
    intro done
    cases starts.closeOnce.symm.trans done
  have entered : ∀ call s t, system.enter call s = some t → D.inv s → D.inv t ∧ D.grows s t := by
    intro call s t opened holds
    rw [enter_same call s t opened]
    exact ⟨holds, D.refl s⟩
  have certified := (certified_run _ p moves initial entered
    (fun _ call t _ _ => end_body unmarshalString decodeMessage hasOnStream call t)
    (D.metBy_always (fun _ _ => trivial) _ _) ran).1
  exact certified.threads i call _ finished p.shared certified.inv (D.refl _) ending

end Runs

end Rtc2Tcp.WebRTC

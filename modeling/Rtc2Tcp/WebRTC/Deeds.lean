import Rtc2Tcp.Lib.Custody
import Rtc2Tcp.WebRTC.PayloadGate

namespace Rtc2Tcp.WebRTC

open Octets Go Auth Goroutine

open Prog (perform)

/-- What a session does that others can see, with the answer it got. -/
inductive Deed where
  | applied (sdp : Bytes)
  | candidate (candidate : ICECandidate) (ok : Bool)
  | bound (material : SessionBindingMaterial) (ok : Bool)
  | started (ok : Bool)
  | sent (message : Message) (ok : Bool)
  | resultSet (err : Option SessionError) (authenticated : Bool)
  | shutDown
deriving DecidableEq, Repr

variable {A : Authenticator}

/-- The deed of an operation, from its answer and the session before it. The authenticator is bound
    only if it is not yet, and a result is set only if none is; `shutDown` is the return of the
    function under `closeOnce`, for the caller that ran it and for those that waited. -/
def Session.note : {β : Type} → Op β → β → Session A → List Deed
  | _, .pcSetRemoteDescription _ sdp, ok, _ => if ok then [.applied sdp] else []
  | _, .pcAddICECandidate candidate, ok, _ => [.candidate candidate ok]
  | _, .bindLocked, result, s =>
    match s.control, s.authBound, s.materialLocked with
    | some _, false, .ok material => [.bound material result.isOk]
    | _, _, _ => []
  | _, .authStart, result, _ => [.started result.isOk]
  | _, .sendText _ message, ok, _ => [.sent message ok]
  | _, .completeAuthResult err authenticated, _, s => if s.authReadyClosed then [] else [.resultSet err authenticated]
  | _, .onceEnter, first, _ => if first then [] else [.shutDown]
  | _, .onceExit, _, _ => [.shutDown]
  | _, _, _, _ => []

def Op.sends : {β : Type} → Op β → Option Message
  | _, .sendText _ message => some message
  | _, _ => none

theorem note_sent {β : Type} (op : Op β) (result : β) (s : Session A) (message : Message) (ok : Bool)
    (member : .sent message ok ∈ Session.note op result s) : op.sends = some message := by
  cases op with
  | sendText dc sent =>
    cases List.mem_singleton.mp member
    rfl
  | pcSetRemoteDescription | completeAuthResult | onceEnter | bindLocked =>
    simp only [Session.note] at member
    split at member <;> simp at member
  | pcAddICECandidate | authStart | onceExit =>
    have other := List.mem_singleton.mp member
    cases other
  | _ => cases member

section Methods

variable (unmarshalString : Bytes → Option SessionDescription) (decodeMessage : Bytes → Option Message)

/-- A session under arbitrary concurrent calls, with the record of its deeds. -/
def recordedSystem (A : Authenticator) (hasOnStream : Bool) :
    System Op (Session A × List Deed) Choice Call Outcome :=
  (sessionSystem unmarshalString decodeMessage A hasOnStream).recording Session.note

end Methods

def isDone (thread : Thread Op Call Outcome) : Bool :=
  match thread.prog with
  | .done _ => true
  | .act _ _ => false

theorem isDone_outcome {thread : Thread Op Call Outcome} (done : isDone thread = true) :
    ∃ outcome, thread.prog = .done outcome := by
  obtain ⟨call, prog⟩ := thread
  cases prog with
  | done outcome => exact ⟨outcome, rfl⟩
  | act op next => cases done

structure Session.Starts (s : Session A) (cfg : SessionConfig A) : Prop where
  mode : s.mode = cfg.mode
  state : s.state = .signaling
  authenticator : s.authenticator = cfg.authenticator
  controlOpen : s.controlOpen = false
  localFingerprint : s.localFingerprint = []
  remoteDescription : s.remoteDescription = false
  pendingCandidates : s.pendingCandidates = []
  authBound : s.authBound = false
  authStarted : s.authStarted = false
  authResult : s.authResult = none
  authReadyClosed : s.authReadyClosed = false
  closeOnce : s.closeOnce = .idle

theorem newSession_starts (cfg : SessionConfig A) (created : Bool) (control : Option DataChannel) (s : Session A)
    (ok : newSession cfg created control = .ok s) : s.Starts cfg := by
  unfold newSession at ok
  dsimp only at ok
  split at ok
  · cases ok
  · rename_i signaling
    have state : cfg.stateMachine = .signaling := by simpa using signaling
    split at ok
    · cases ok
    · split at ok
      · cases ok
      · split at ok
        · split at ok
          · cases ok
          · cases ok
            exact ⟨rfl, state, rfl, rfl, rfl, rfl, rfl, rfl, rfl, rfl, rfl, rfl⟩
        · cases ok
          exact ⟨rfl, state, rfl, rfl, rfl, rfl, rfl, rfl, rfl, rfl, rfl, rfl⟩

abbrev Recorded (A : Authenticator) := Session A × List Deed

def recordedMachine (A : Authenticator) : Machine Op (Recorded A) Choice := (machine A).recording Session.note

theorem recorded_exec {β : Type} {op : Op β} {c : Choice} {x y : Recorded A} {result : β}
    (executed : (recordedMachine A).exec op c x = some (result, y)) :
    Session.exec op c x.1 = some (result, y.1) ∧ y.2 = x.2 ++ Session.note op result x.1 :=
  recording_exec executed

theorem recorded_enter (unmarshalString : Bytes → Option SessionDescription)
    (decodeMessage : Bytes → Option Message) (hasOnStream : Bool) (call : Call) (x y : Recorded A)
    (entered : (recordedSystem unmarshalString decodeMessage A hasOnStream).enter call x = some y) : y = x := by
  obtain ⟨s, same, rfl⟩ := Option.map_eq_some_iff.mp entered
  rw [enter_same call x.1 s same]

def Session.material (s : Session A) : SessionBindingMaterial :=
  ⟨s.sessionID, s.mode, s.localFingerprint, s.remoteFingerprint⟩

inductive Session.BindTried (s : Session A) : Except SessionError DataChannel → Session A → List Deed → Prop
  | detached (missing : s.control = none) : BindTried s (.error .controlNotAttached) s []
  | already (control : DataChannel) (bound : s.authBound = true) : BindTried s (.ok control) s []
  | early (missing : s.localFingerprint = [] ∨ s.remoteFingerprint = []) :
      BindTried s (.error .authMaterialNotReady) s []
  | refused (e : AuthError) (a : A.State) (unbound : s.authBound = false)
      (called : A.bind s.authenticator s.material = (.error e, a)) :
      BindTried s (.error (.auth e)) ({ s with authenticator := a }.record (.bind s.material)) [.bound s.material false]
  | bound (control : DataChannel) (a : A.State) (unbound : s.authBound = false)
      (called : A.bind s.authenticator s.material = (.ok (), a)) :
      BindTried s (.ok control) ({ s with authenticator := a, authBound := true }.record (.bind s.material))
        [.bound s.material true]

theorem bindLocked_tried (s : Session A) :
    s.BindTried s.bindLocked.1 s.bindLocked.2 (Session.note .bindLocked s.bindLocked.1 s) := by
  cases attached : s.control with
  | none =>
    have tried : s.bindLocked = (.error .controlNotAttached, s) := by simp [Session.bindLocked, attached]
    rw [tried]
    simp only [Session.note, attached]
    exact .detached attached
  | some control =>
    cases bound : s.authBound with
    | true =>
      have tried : s.bindLocked = (.ok control, s) := by simp [Session.bindLocked, attached, bound]
      rw [tried]
      simp only [Session.note, attached, bound]
      exact .already control bound
    | false =>
      by_cases missing : s.localFingerprint = [] ∨ s.remoteFingerprint = []
      · have unready : s.materialLocked = .error .authMaterialNotReady := by simp [Session.materialLocked, missing]
        have tried : s.bindLocked = (.error .authMaterialNotReady, s) := by
          simp [Session.bindLocked, attached, bound, unready]
        rw [tried]
        simp only [Session.note, attached, bound, unready]
        exact .early missing
      · have ready : s.materialLocked = .ok s.material := by simp [Session.materialLocked, missing, Session.material]
        rcases called : A.bind s.authenticator s.material with ⟨_ | _, a⟩
        · rename_i e
          have tried : s.bindLocked = (.error (.auth e), { s with authenticator := a }.record (.bind s.material)) := by
            simp [Session.bindLocked, attached, bound, ready, called]
          have noted : Session.note .bindLocked (.error (.auth e)) s = [.bound s.material false] := by
            simp only [Session.note, attached, bound, ready]
            rfl
          rw [tried, noted]
          exact .refused e a bound called
        · have tried : s.bindLocked =
              (.ok control, { s with authenticator := a, authBound := true }.record (.bind s.material)) := by
            simp [Session.bindLocked, attached, bound, ready, called]
          have noted : Session.note .bindLocked (.ok control) s = [.bound s.material true] := by
            simp only [Session.note, attached, bound, ready]
            rfl
          rw [tried, noted]
          exact .bound control a bound called

def Op.voiced : {β : Type} → Op β → Bool
  | _, .sendText _ _ => true
  | _, .transition next => decide (next = .authenticated)
  | _, _ => false

theorem safe_sequenced {σ : Type} {M : Machine Op σ Choice} {D : Discipline M} :
    Sequenced fun p => ∀ x : σ, Safe D (fun _ _ => True) p x where
  pure _ _ := Safe.pure fun _ _ _ => trivial
  bind first rest x := (first x).bind fun value y _ _ _ => rest value y

structure Voiced {σ : Type} {M : Machine Op σ Choice} (D : Discipline M) : Prop where
  silent : ∀ {β : Type} (op : Op β) s, op.voiced = false → D.needs op s
  started : ∀ (hello : Message) s, D.gives .authStart (.ok hello) s → ∀ dc t, D.needs (.sendText dc hello) t
  answered : ∀ inbound (result : InteractiveAuthenticator.StepResult) s, D.gives (.authStep inbound) result s →
    result.err = none → result.hasOutbound = true → ∀ dc t, D.needs (.sendText dc result.outbound) t
  finished : ∀ inbound (result : InteractiveAuthenticator.StepResult) s, D.gives (.authStep inbound) result s →
    result.err = none → result.done = true → ∀ t, D.needs (.transition .authenticated) t

namespace Voiced

variable {σ : Type} {M : Machine Op σ Choice} {D : Discipline M} (V : Voiced D)

theorem op {α : Type} {op : Op α} (needed : ∀ s, D.needs op s) (x : σ) :
    Safe D (fun _ _ => True) (perform op) x :=
  Safe.perform (fun t _ _ _ => needed t) (fun _ _ _ _ _ => trivial) fun _ _ _ _ _ _ => trivial

theorem next {α β : Type} {op : Op α} {f : α → Prog Op β} (needed : ∀ s, D.needs op s)
    (rest : ∀ result, (∃ s, D.gives op result s) → ∀ x, Safe D (fun _ _ => True) (f result) x) (x : σ) :
    Safe D (fun _ _ => True) (perform op >>= f) x := by
  have first : Safe D (fun result _ => ∃ s, D.gives op result s) (perform op) x :=
    Safe.perform (fun t _ _ _ => needed t) (fun _ t _ _ given => ⟨t, given⟩) fun _ _ _ _ _ given => given
  exact first.bind fun result y _ _ given => rest result given y

include V

theorem quiet {α : Type} (op : Op α) (unvoiced : op.voiced = false) (x : σ) : Safe D (fun _ _ => True) (perform op) x :=
  Voiced.op (fun s => V.silent op s unvoiced) x

theorem ending {α : Type} (op : Op α) (ends : op.ending = true) : ∀ x : σ, Safe D (fun _ _ => True) (perform op) x := by
  refine V.quiet op ?_
  cases op with
  | sendText => cases ends
  | transition next =>
    cases next with
    | authenticated => cases ends
    | _ => rfl
  | _ => rfl

theorem composed : Composed fun p => ∀ x : σ, Safe D (fun _ _ => True) p x := by
  refine safe_sequenced.composed V.ending ?_
  intro α op plain
  refine V.quiet op ?_
  cases op with
  | sendText => cases plain
  | transition next =>
    cases next with
    | authenticated => cases plain
    | _ => rfl
  | _ => rfl

theorem maybeSendAuth : ∀ x : σ, Safe D (fun _ _ => True) maybeSendAuth x := by
  have C := V.composed
  unfold WebRTC.maybeSendAuth
  refine C.bind (C.plain _ rfl) fun pending => ?_
  split
  · exact C.pure _
  · refine C.bind (C.plain _ rfl) fun opened => ?_
    split
    · exact C.pure _
    · refine C.bind (V.quiet _ rfl) fun tried => ?_
      split
      · exact C.pure _
      · exact C.fail _
      · refine C.bind (V.quiet _ rfl) fun granted => ?_
        split
        · refine Voiced.next (fun s => V.silent _ s rfl) fun result given => ?_
          split
          · exact C.fail _
          · obtain ⟨s, given⟩ := given
            refine C.bind (Voiced.op (V.started _ s given _)) fun sent => ?_
            split
            · exact C.fail _
            · exact C.pure _
        · exact C.pure _

theorem handleControlMessage (decodeMessage : Bytes → Option Message) (data : Bytes) :
    ∀ x : σ, Safe D (fun _ _ => True) (handleControlMessage decodeMessage data) x := by
  have C := V.composed
  unfold WebRTC.handleControlMessage
  refine C.bind (C.plain _ rfl) fun pending => ?_
  split
  · exact C.pure _
  · split
    · exact C.pure _
    · refine C.bind (V.quiet _ rfl) fun tried => ?_
      split
      · exact C.pure _
      · rename_i control
        refine Voiced.next (fun s => V.silent _ s rfl) fun result given => ?_
        obtain ⟨s, given⟩ := given
        split
        · exact C.pure _
        · rename_i clean
          have sent : ∀ x : σ, Safe D (fun _ _ => True) (sendOutbound control result) x := by
            unfold sendOutbound
            split
            · rename_i outbound
              exact Voiced.op (V.answered _ result s given clean outbound control)
            · exact C.pure _
          refine C.bind sent fun ok => ?_
          split
          · exact C.pure _
          · split
            · rename_i done
              unfold finishAuth
              refine C.bind (Voiced.op (V.finished _ result s given clean done)) fun error => ?_
              split
              · exact C.pure _
              · exact C.bind (V.quiet _ rfl) fun _ => C.pure _
            · exact C.pure _

theorem body (unmarshalString : Bytes → Option SessionDescription) (decodeMessage : Bytes → Option Message)
    (hasOnStream : Bool) (call : Call) :
    ∀ x : σ, Safe D (fun _ _ => True) (body unmarshalString decodeMessage hasOnStream call) x := by
  have C := V.composed
  refine C.body unmarshalString decodeMessage ?_ V.maybeSendAuth (safe_sequenced.close V.ending)
    (fun data => C.onControlMessage decodeMessage data (V.handleControlMessage decodeMessage data)) hasOnStream call
  intro β op outer
  refine V.quiet op ?_
  cases op with
  | sendText => cases outer
  | transition next =>
    cases next with
    | authenticated => cases outer
    | _ => rfl
  | _ => rfl

end Voiced

end Rtc2Tcp.WebRTC

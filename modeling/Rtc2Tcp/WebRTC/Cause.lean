import Rtc2Tcp.WebRTC.Ending
import Rtc2Tcp.WebRTC.Verdict

namespace Rtc2Tcp.WebRTC

open Octets Go Auth Goroutine

open Prog (perform)

section Faults

variable (A : Authenticator)

inductive BindFault : SessionError → Prop where
  | detached : BindFault .controlNotAttached
  | unready : BindFault .authMaterialNotReady
  | refused (a : A.State) (material : SessionBindingMaterial) (e : AuthError) (called : (A.bind a material).1 = .error e) :
      BindFault (.auth e)

inductive SendFault : SessionError → Prop where
  | bind (e : SessionError) (fault : BindFault A e) (other : e ≠ .authMaterialNotReady) : SendFault e
  | start (a : A.State) (e : AuthError) (called : (A.start a).1 = .error e) : SendFault (.auth e)
  | send : SendFault .send

inductive PendingFault : SessionError → Prop where
  | transition (old : SessionState) (invalid : old.transition .authPending = none) :
      PendingFault (.invalidTransition old .authPending)
  | send (e : SessionError) (fault : SendFault A e) : PendingFault e

variable (decodeMessage : Bytes → Option Message) (took : Message → InteractiveAuthenticator.StepResult → Prop)
  (data : Bytes)

/-- What a control message fails a session with; `took` is what the authenticator has answered to it. -/
inductive ControlFault : SessionError → Prop where
  | replay : ControlFault .unexpectedAuthControlReplay
  | decode (refused : decodeMessage data = none) : ControlFault .decode
  | bind (e : SessionError) (fault : BindFault A e) : ControlFault e
  | step (inbound : Message) (result : InteractiveAuthenticator.StepResult) (e : AuthError)
      (decoded : decodeMessage data = some inbound) (called : took inbound result) (failed : result.err = some e) :
      ControlFault (.auth e)
  | send : ControlFault .send
  | transition (old : SessionState) (invalid : old.transition .authenticated = none) :
      ControlFault (.invalidTransition old .authenticated)

/-- The message makes a step of the authenticator the last one. -/
def Concludes : Prop :=
  ∃ inbound result, decodeMessage data = some inbound ∧ took inbound result ∧ result.done = true ∧ result.err = none

end Faults

inductive ChannelFault (hasOnStream : Bool) (dc : DataChannel) : SessionError → Prop where
  | replay (control : dc.label = controlChannelLabel) : ChannelFault hasOnStream dc .unexpectedAuthControlReplay
  | early (payload : dc.label ≠ controlChannelLabel) : ChannelFault hasOnStream dc .preAuthPayloadChannel
  | transition (payload : dc.label ≠ controlChannelLabel) (old : SessionState) (invalid : old.transition .streaming = none) :
      ChannelFault hasOnStream dc (.invalidTransition old .streaming)
  | unexpected (payload : dc.label ≠ controlChannelLabel) (missing : hasOnStream = false) :
      ChannelFault hasOnStream dc .unexpectedInboundStream

/-- What a call can settle the authentication with. -/
def Call.Settles (A : Authenticator) (decodeMessage : Bytes → Option Message) (hasOnStream : Bool)
    (took : Message → InteractiveAuthenticator.StepResult → Prop) : Call → Option SessionError → Prop
  | .controlMessage _ data, none => Concludes decodeMessage took data
  | .controlMessage _ data, some e => ControlFault A decodeMessage took data e
  | .createOffer, some e => PendingFault A e
  | .handleOffer _, some e => PendingFault A e
  | .handleAnswer _, some e => PendingFault A e
  | .controlOpen _, some e => SendFault A e
  | .dataChannel dc, some e => ChannelFault hasOnStream dc e
  | .connectionStateChange .failed, some e => e = .peerConnectionFailed
  | .connectionStateChange .closed, some e => e = .peerConnectionClosed
  | .controlClose _, some e => e = .controlChannelClosed
  | .close, some e => e = .sessionClosed
  | .fail, some e => e = .caller
  | _, _ => False

def causeMay (settles : Option SessionError → Prop) : {β : Type} → Op β → Prop
  | _, .completeAuthResult err _ => settles err
  | _, .transition next => next = .closing ∨ next = .closed → settles (some .sessionClosed)
  | _, _ => True

def Op.shuts : {β : Type} → Op β → Bool
  | _, .completeAuthResult _ _ => true
  | _, .transition next => decide (next = .closing ∨ next = .closed)
  | _, _ => false

def causeGives (A : Authenticator) (took : Message → InteractiveAuthenticator.StepResult → Prop) (cut : Prop) :
    {β : Type} → Op β → β → Prop
  | _, .transition next, error => ∀ e, error = some e → ∃ old, old.transition next = none ∧ e = .invalidTransition old next
  | _, .bindLocked, tried => ∀ e, tried = .error e → BindFault A e
  | _, .authStart, started => ∃ a, started = (A.start a).1
  | _, .authStep inbound, result => took inbound result
  | _, .waitAuthReady, ready => ready = false → cut
  | _, .readAuthResult, error => error = some .context → cut
  | _, _, _ => True

variable {A : Authenticator}

abbrev Taken (A : Authenticator) := Pool Op (Session A) Call Outcome → Nat → Choice → Prop

/-- Among the steps a thread of the call has the session's authenticator take the message, with this result. -/
def Took (taken : Taken A) (call : Call) (inbound : Message) (result : InteractiveAuthenticator.StepResult) : Prop :=
  ∃ p index choice next, taken p index choice ∧ p.threads[index]? = some ⟨call, .act (.authStep inbound) next⟩ ∧
    result = (A.step p.shared.authenticator inbound).1

/-- Among the steps the context of a `WaitAuthenticated` is done while it waits. -/
def CutOff (taken : Taken A) : Prop :=
  ∃ p index choice next, taken p index choice ∧ p.threads[index]? = some ⟨.waitAuthenticated, .act .waitAuthReady next⟩ ∧
    choice.succeeds = false

theorem cause_given {taken : Taken A} {cut : Prop} (cuts : CutOff taken → cut) {β : Type} (op : Op β)
    (p : Pool Op (Session A) Call Outcome) (index : Nat) (c : Choice) (call : Call) (next : β → Prog Op Outcome)
    (t : Session A) (result : β) (makes : taken p index c) (read : p.shared.authResult = some .context → cut)
    (thread : p.threads[index]? = some ⟨call, .act op next⟩) (executed : Session.exec op c p.shared = some (result, t)) :
    causeGives A (Took taken call) (call = .waitAuthenticated → cut) op result := by
  cases op with
  | transition next =>
    simp only [Session.exec] at executed
    split at executed
    · cases executed
      intro e impossible
      cases impossible
    · rename_i invalid
      cases executed
      rintro e ⟨⟩
      exact ⟨p.shared.state, invalid, rfl⟩
  | bindLocked =>
    obtain rfl : p.shared.bindLocked.1 = result := congrArg Prod.fst (Option.some.inj executed)
    intro e failed
    have tried := bindLocked_tried p.shared
    rw [failed] at tried
    generalize p.shared.bindLocked.2 = after at tried
    generalize Session.note .bindLocked (.error e) p.shared = noted at tried
    cases tried with
    | detached => exact .detached
    | early => exact .unready
    | refused e a unbound called => exact .refused _ _ e (congrArg Prod.fst called)
  | authStart =>
    cases executed
    exact ⟨_, rfl⟩
  | authStep inbound =>
    simp only [Session.exec, Session.authStep] at executed
    split at executed <;> cases executed <;> exact ⟨p, index, c, next, makes, thread, rfl⟩
  | waitAuthReady =>
    rintro rfl rfl
    refine cuts ⟨p, index, c, next, makes, thread, ?_⟩
    simp only [Session.exec] at executed
    split at executed
    · cases executed
    · split at executed
      · cases executed
      · rename_i done
        simpa using done
  | readAuthResult =>
    cases executed
    exact fun cutOff _ => read cutOff
  | _ => exact trivial

section Methods

variable {settles : Option SessionError → Prop} {took : Message → InteractiveAuthenticator.StepResult → Prop} {cut : Prop}

variable (A settles took cut) in
abbrev CauseWithin {α : Type} (post : α → Prop) (p : Prog Op α) : Prop :=
  Within (causeMay settles) (causeGives A took cut) post p

theorem cause_op {α : Type} (op : Op α) (other : op.shuts = false) :
    CauseWithin A settles took cut (causeGives A took cut op) (perform op) := by
  refine Within.perform ?_ fun _ given => given
  cases op with
  | completeAuthResult => cases other
  | transition next => exact fun ending => absurd ending (of_decide_eq_false other)
  | _ => exact trivial

theorem cause_idle {α : Type} {op : Op α} (other : op.shuts = false) :
    CauseWithin A settles took cut (fun _ => True) (perform op) :=
  (cause_op op other).weaken fun _ _ => trivial

theorem cause_then {α β : Type} {op : Op α} {f : α → Prog Op β} {post : β → Prop} (other : op.shuts = false)
    (rest : ∀ value, causeGives A took cut op value → CauseWithin A settles took cut post (f value)) :
    CauseWithin A settles took cut post (perform op >>= f) :=
  Within.bind (cause_op op other) rest

theorem cause_settle {err : Option SessionError} {authenticated : Bool} (allowed : settles err) :
    CauseWithin A settles took cut (fun _ => True) (perform (.completeAuthResult err authenticated)) :=
  Within.perform allowed fun _ _ => trivial

theorem cause_shut {next : SessionState} {β : Type} {f : Option SessionError → Prog Op β} {post : β → Prop}
    (allowed : settles (some .sessionClosed)) (rest : ∀ error, CauseWithin A settles took cut post (f error)) :
    CauseWithin A settles took cut post (perform (.transition next) >>= f) :=
  ⟨fun _ => allowed, fun error _ => rest error⟩

theorem cause_fail (err : SessionError) (allowed : settles (some err)) :
    CauseWithin A settles took cut (fun _ => True) (fail err) := by
  unfold fail
  refine Within.bind (cause_settle allowed) fun _ _ => ?_
  refine cause_then rfl fun entered _ => ?_
  have leaving : CauseWithin A settles took cut (fun _ => True) leaveOnce := by
    unfold leaveOnce
    refine cause_then rfl fun closed _ => ?_
    split
    · exact cause_then rfl fun _ _ => cause_idle rfl
    · exact cause_idle rfl
  split
  · refine cause_then rfl fun ended _ => ?_
    split
    · exact cause_then rfl fun _ _ => leaving
    · exact leaving
  · exact Within.pure trivial

theorem cause_close (allowed : settles (some .sessionClosed)) : CauseWithin A settles took cut (fun _ => True) close := by
  unfold close
  refine cause_then rfl fun entered _ => ?_
  have leaving : CauseWithin A settles took cut (fun _ => True) (do perform .onceExit; perform .readCloseErr) :=
    cause_then rfl fun _ _ => cause_idle rfl
  split
  · have ending : CauseWithin A settles took cut (fun _ => True) (do
        perform (.completeAuthResult (some .sessionClosed) false)
        if ← perform .pcClose then
          if ← perform (.isOneOf [.closing]) then
            let _ ← perform (.transition .closed)
        else
          perform .setCloseErr
        perform .onceExit
        perform .readCloseErr) := by
      refine Within.bind (cause_settle allowed) fun _ _ => ?_
      refine cause_then rfl fun shut _ => ?_
      split
      · refine cause_then rfl fun closing _ => ?_
        split
        · exact cause_shut allowed fun _ => leaving
        · exact leaving
      · exact cause_then rfl fun _ _ => leaving
    refine cause_then rfl fun ended _ => ?_
    split
    · exact cause_shut allowed fun _ => ending
    · exact ending
  · exact cause_idle rfl

theorem cause_isAuthenticated : CauseWithin A settles took cut (fun _ => True) isAuthenticated := by
  unfold isAuthenticated
  refine cause_then rfl fun ready _ => ?_
  split
  · exact cause_idle rfl
  · exact Within.pure trivial

theorem cause_gate (refusal : SessionError) :
    CauseWithin A settles took cut (fun refused => ∀ e, refused = some e → e = refusal) (gate refusal) := by
  have refused : ∀ e, some refusal = some e → e = refusal := fun e same => (Option.some.inj same).symm
  unfold gate
  refine cause_then rfl fun live _ => ?_
  split
  · refine Within.bind cause_isAuthenticated fun yes _ => ?_
    split
    · exact Within.pure fun _ impossible => by cases impossible
    · exact Within.pure refused
  · exact Within.pure refused

theorem cause_openStreamChannel (label : Bytes) :
    CauseWithin A settles took cut (fun _ => True) (openStreamChannel label) := by
  unfold openStreamChannel
  refine Within.bind (cause_gate _) fun refused _ => ?_
  split
  · exact Within.pure trivial
  · refine cause_then rfl fun made _ => ?_
    split
    · exact Within.pure trivial
    · refine cause_then rfl fun error _ => ?_
      split
      · exact cause_then rfl fun _ _ => Within.pure trivial
      · exact Within.pure trivial

theorem cause_maybeSendAuth (allowed : ∀ e, SendFault A e → settles (some e)) :
    CauseWithin A settles took cut (fun _ => True) maybeSendAuth := by
  unfold maybeSendAuth
  refine cause_then rfl fun pending _ => ?_
  split
  · exact Within.pure trivial
  · refine cause_then rfl fun opened _ => ?_
    split
    · exact Within.pure trivial
    · refine cause_then rfl fun tried faults => ?_
      split
      · exact Within.pure trivial
      · rename_i e other
        exact cause_fail e (allowed e (.bind e (faults e rfl) fun same => other (by rw [same])))
      · refine cause_then rfl fun granted _ => ?_
        split
        · refine cause_then rfl fun started called => ?_
          obtain ⟨a, called⟩ := called
          split
          · rename_i e
            exact cause_fail _ (allowed _ (.start a e called.symm))
          · refine cause_then rfl fun sent _ => ?_
            split
            · exact cause_fail _ (allowed _ .send)
            · exact Within.pure trivial
        · exact Within.pure trivial

theorem cause_maybeEnterAuthPending (allowed : ∀ e, PendingFault A e → settles (some e)) :
    CauseWithin A settles took cut (fun _ => True) maybeEnterAuthPending := by
  have sending : CauseWithin A settles took cut (fun _ => True) maybeSendAuth :=
    cause_maybeSendAuth fun e fault => allowed e (.send e fault)
  unfold maybeEnterAuthPending
  refine cause_then rfl fun ready _ => ?_
  split
  · exact Within.pure trivial
  · refine cause_then rfl fun signaling _ => ?_
    split
    · refine cause_then rfl fun error refused => ?_
      split
      · rename_i e
        obtain ⟨old, invalid, rfl⟩ := refused e rfl
        exact cause_fail _ (allowed _ (.transition old invalid))
      · exact sending
    · exact sending

section Describing

variable (unmarshalString : Bytes → Option SessionDescription) (allowed : ∀ e, PendingFault A e → settles (some e))
include allowed

theorem cause_describe (type : SDPType) : CauseWithin A settles took cut (fun _ => True) (describe unmarshalString type) := by
  have setting : CauseWithin A settles took cut (fun _ => True) (setLocalDescription unmarshalString type) := by
    unfold setLocalDescription
    refine cause_then rfl fun set _ => ?_
    split
    · refine cause_then rfl fun described _ => ?_
      split
      · exact Within.pure trivial
      · split
        · exact Within.pure trivial
        · refine cause_then rfl fun _ _ => ?_
          exact Within.bind (cause_maybeEnterAuthPending allowed) fun _ _ => Within.pure trivial
    · exact Within.pure trivial
  unfold describe
  refine cause_then rfl fun made _ => ?_
  split
  · exact Within.pure trivial
  · refine Within.bind setting fun error _ => ?_
    split <;> exact Within.pure trivial

theorem cause_setRemoteDescription (type : SDPType) (sdp : Bytes) :
    CauseWithin A settles took cut (fun _ => True) (setRemoteDescription unmarshalString type sdp) := by
  have flushing : ∀ pending, CauseWithin A settles took cut (fun _ => True) (flushCandidates pending) := by
    intro pending
    induction pending with
    | nil => exact Within.pure trivial
    | cons candidate rest ih =>
      refine cause_then rfl fun added _ => ?_
      split
      · exact ih
      · exact Within.pure trivial
  unfold setRemoteDescription
  refine cause_then rfl fun set _ => ?_
  split
  · split
    · exact Within.pure trivial
    · refine cause_then rfl fun pending _ => ?_
      refine Within.bind (flushing pending) fun flushed _ => ?_
      split
      · exact Within.bind (cause_maybeEnterAuthPending allowed) fun _ _ => Within.pure trivial
      · exact Within.pure trivial
  · exact Within.pure trivial

end Describing

theorem cause_handleControlMessage (decodeMessage : Bytes → Option Message) (data : Bytes)
    (concluding : Concludes decodeMessage took data → settles none) :
    CauseWithin A settles took cut (fun error => ∀ e, error = some e → ControlFault A decodeMessage took data e)
      (handleControlMessage decodeMessage data) := by
  have fine : ∀ e, (none : Option SessionError) = some e → ControlFault A decodeMessage took data e :=
    fun _ impossible => by cases impossible
  have fault : ∀ {e}, ControlFault A decodeMessage took data e →
      ∀ e', some e = some e' → ControlFault A decodeMessage took data e' := by
    rintro e fault e' ⟨⟩
    exact fault
  unfold handleControlMessage
  refine cause_then rfl fun pending _ => ?_
  split
  · exact Within.pure (fault .replay)
  · split
    · rename_i refused
      exact Within.pure (fault (.decode refused))
    · rename_i inbound decoded
      refine cause_then rfl fun tried faults => ?_
      split
      · rename_i e
        exact Within.pure (fault (.bind e (faults e rfl)))
      · rename_i control
        refine cause_then rfl fun result called => ?_
        split
        · rename_i e failed
          exact Within.pure (fault (.step inbound result e decoded called failed))
        · rename_i clean
          have sending : CauseWithin A settles took cut (fun _ => True) (sendOutbound control result) := by
            unfold sendOutbound
            split
            · exact cause_idle rfl
            · exact Within.pure trivial
          refine Within.bind sending fun sent _ => ?_
          split
          · exact Within.pure (fault .send)
          · split
            · rename_i done
              unfold finishAuth
              refine cause_then rfl fun error refused => ?_
              split
              · rename_i e
                obtain ⟨old, invalid, rfl⟩ := refused e rfl
                exact Within.pure (fault (.transition old invalid))
              · refine Within.bind (cause_settle (concluding ⟨inbound, result, decoded, called, done, clean⟩)) fun _ _ => ?_
                exact Within.pure fine
            · exact Within.pure fine

theorem cause_onDataChannel (hasOnStream : Bool) (dc : DataChannel)
    (allowed : ∀ e, ChannelFault hasOnStream dc e → settles (some e)) :
    CauseWithin A settles took cut (fun _ => True) (onDataChannel hasOnStream dc) := by
  unfold onDataChannel
  split
  · rename_i control
    have attaching : CauseWithin A settles took cut (fun _ => True) (attachControlChannel dc) := by
      unfold attachControlChannel
      refine cause_then rfl fun attached _ => ?_
      split
      · exact cause_then rfl fun _ _ => cause_then rfl fun _ _ => cause_idle rfl
      · exact cause_then rfl fun _ _ => cause_fail _ (allowed _ (.replay control))
    exact Within.bind attaching fun _ _ => Within.pure trivial
  · rename_i payload
    have preparing : CauseWithin A settles took cut (fun error => ∀ e, error = some e → ChannelFault hasOnStream dc e)
        prepareInboundPayloadChannel := by
      unfold prepareInboundPayloadChannel
      refine Within.bind (cause_gate _) fun refused early => ?_
      split
      · refine Within.pure ?_
        rintro e ⟨⟩
        rw [early _ rfl]
        exact .early payload
      · refine (cause_op _ rfl).weaken fun error refused e failed => ?_
        obtain ⟨old, invalid, rfl⟩ := refused e failed
        exact .transition payload old invalid
    refine Within.bind preparing fun error faults => ?_
    split
    · rename_i e
      refine cause_then rfl fun _ _ => ?_
      exact Within.bind (cause_fail e (allowed e (faults e rfl))) fun _ _ => Within.pure trivial
    · split
      · exact cause_then rfl fun _ _ => Within.pure trivial
      · rename_i missing
        refine cause_then rfl fun _ _ => ?_
        refine Within.bind (cause_fail _ (allowed _ (.unexpected payload ?_))) fun _ _ => Within.pure trivial
        simpa using missing

end Methods

section Runs

variable (unmarshalString : Bytes → Option SessionDescription) (decodeMessage : Bytes → Option Message)
  (hasOnStream : Bool)

theorem cause_body (took : Message → InteractiveAuthenticator.StepResult → Prop) (cut : Prop) (call : Call) :
    CauseWithin A (call.Settles A decodeMessage hasOnStream took) took cut (fun _ => True)
      (body unmarshalString decodeMessage hasOnStream call) := by
  have mapped : ∀ {α : Type} {q : Prog Op α} {settles : Option SessionError → Prop} (f : α → Outcome),
      CauseWithin A settles took cut (fun _ => True) q → CauseWithin A settles took cut (fun _ => True) (f <$> q) :=
    fun f within => Within.bind within fun _ _ => Within.pure trivial
  cases call with
  | createOffer => exact mapped _ (cause_describe unmarshalString (fun _ fault => fault) .offer)
  | handleOffer offer =>
    refine mapped _ ?_
    refine Within.bind (cause_setRemoteDescription unmarshalString (fun _ fault => fault) .offer offer) fun error _ => ?_
    split
    · exact Within.pure trivial
    · exact cause_describe unmarshalString (fun _ fault => fault) .answer
  | handleAnswer answer =>
    exact mapped _ (cause_setRemoteDescription unmarshalString (fun _ fault => fault) .answer answer)
  | addRemoteCandidate candidate =>
    refine mapped _ (cause_then rfl fun queued _ => ?_)
    split
    · exact Within.pure trivial
    · refine cause_then rfl fun added _ => ?_
      split <;> exact Within.pure trivial
  | openStreamChannel label =>
    refine Within.bind (cause_openStreamChannel label) fun result _ => ?_
    split <;> exact Within.pure trivial
  | waitAuthenticated =>
    refine mapped _ (cause_then rfl fun ready _ => ?_)
    split
    · exact cause_idle rfl
    · exact Within.pure trivial
  | isAuthenticated => exact mapped _ cause_isAuthenticated
  | fail => exact mapped _ (cause_fail _ rfl)
  | close => exact mapped _ (cause_close rfl)
  | connectionStateChange state =>
    refine mapped _ (cause_then rfl fun ended _ => ?_)
    split
    · exact Within.pure trivial
    · cases state with
      | failed => exact cause_fail _ rfl
      | closed => exact cause_fail _ rfl
      | other => exact Within.pure trivial
  | dataChannel dc => exact cause_onDataChannel hasOnStream dc fun _ fault => fault
  | controlOpen dc => exact mapped _ (cause_then rfl fun _ _ => cause_maybeSendAuth fun _ fault => fault)
  | controlMessage dc data =>
    refine mapped _
      (Within.bind (cause_handleControlMessage decodeMessage data fun concludes => concludes) fun error faults => ?_)
    split
    · rename_i e
      exact cause_fail e (faults e rfl)
    · exact Within.pure trivial
  | controlClose dc =>
    refine mapped _ (cause_then rfl fun ended _ => ?_)
    split
    · exact Within.pure trivial
    · exact cause_fail _ rfl

theorem cause_wait {settles : Option SessionError → Prop} {took : Message → InteractiveAuthenticator.StepResult → Prop}
    {cut : Prop} : CauseWithin A settles took cut (fun outcome => outcome = .finished (some .context) → cut)
      (body unmarshalString decodeMessage hasOnStream .waitAuthenticated) := by
  have waiting : CauseWithin A settles took cut (fun error => error = some .context → cut) waitAuthenticated := by
    refine cause_then rfl fun ready cuts => ?_
    split
    · exact cause_op _ rfl
    · rename_i unready
      exact Within.pure fun _ => cuts (by simpa using unready)
  exact Within.bind waiting fun error cuts => Within.pure fun same => cuts (Outcome.finished.inj same)

/-- The errors that do not come from the authentication itself. -/
def foreignErrors : List SessionError :=
  [.peerConnectionFailed, .peerConnectionClosed, .controlChannelClosed, .sessionClosed, .context]

theorem BindFault.own {e : SessionError} (fault : BindFault A e) : e ∉ foreignErrors := by
  cases fault <;> simp [foreignErrors]

theorem SendFault.own {e : SessionError} (fault : SendFault A e) : e ∉ foreignErrors := by
  cases fault with
  | bind e fault => exact fault.own
  | start | send => simp [foreignErrors]

theorem PendingFault.own {e : SessionError} (fault : PendingFault A e) : e ∉ foreignErrors := by
  cases fault with
  | transition => simp [foreignErrors]
  | send e fault => exact fault.own

/-- The callbacks of the transport, and `Close`, with what they settle the authentication with. -/
inductive Foreign : Call → SessionError → Prop where
  | failed : Foreign (.connectionStateChange .failed) .peerConnectionFailed
  | closed : Foreign (.connectionStateChange .closed) .peerConnectionClosed
  | control (dc : DataChannel) : Foreign (.controlClose dc) .controlChannelClosed
  | close : Foreign .close .sessionClosed

theorem Call.Settles.foreign {call : Call} {e : SessionError} {took : Message → InteractiveAuthenticator.StepResult → Prop}
    (settles : call.Settles A decodeMessage hasOnStream took (some e)) (foreign : e ∈ foreignErrors) : Foreign call e := by
  cases call with
  | createOffer | handleOffer | handleAnswer => exact absurd foreign (PendingFault.own settles)
  | controlOpen => exact absurd foreign (SendFault.own settles)
  | controlMessage dc data =>
    cases settles with
    | bind e fault => exact absurd foreign fault.own
    | _ => simp [foreignErrors] at foreign
  | dataChannel dc => cases settles <;> simp [foreignErrors] at foreign
  | connectionStateChange state =>
    cases state with
    | failed =>
      cases settles
      exact .failed
    | closed =>
      cases settles
      exact .closed
    | other => exact settles.elim
  | controlClose dc =>
    cases settles
    exact .control dc
  | close =>
    cases settles
    exact .close
  | fail =>
    cases settles
    simp [foreignErrors] at foreign
  | _ => exact settles.elim

section Caused

variable {taken : Taken A} {cfg : SessionConfig A} {created : Bool} {control : Option DataChannel} {s : Session A}
  {moves : List (Move Choice Call)} {p : Pool Op (Session A) Call Outcome} (ok : newSession cfg created control = .ok s)
  (along : Transition.Along (sessionSystem unmarshalString decodeMessage A hasOnStream).step (MadeBy taken) ⟨s, []⟩ moves)
  (ran : (sessionSystem unmarshalString decodeMessage A hasOnStream).run ⟨s, []⟩ moves = some p)
include ok along ran

/-- Each thread keeps to its cause, and what it leaves behind is owed to its call. -/
theorem caused_run {cut : Prop} (cuts : CutOff taken → cut) {marked : Session A → Prop} {owed : Session A → Call → Prop}
    (read : ∀ t, (marked t → ∃ c, owed t c) → t.authResult = some .context → cut) (unmarked : s.Starts cfg → ¬ marked s)
    (entered : ∀ call t u, enter call t = some u → marked u → marked t ∧ ∀ c, owed t c → owed u c)
    (moved : ∀ {β : Type} (op : Op β) choice t u (result : β) (call : Call), Session.exec op choice t = some (result, u) →
      causeMay (call.Settles A decodeMessage hasOnStream (Took taken call)) op → marked u →
      owed u call ∨ (marked t ∧ ∀ c, owed t c → owed u c)) :
    (∀ thread ∈ p.threads, thread.call = .waitAuthenticated → thread.prog = .done (.finished (some .context)) → cut) ∧
    (marked p.shared → ∃ thread ∈ p.threads, owed p.shared thread.call) := by
  have fresh : ∀ call, Within (causeMay (call.Settles A decodeMessage hasOnStream (Took taken call)))
      (causeGives A (Took taken call) (call = .waitAuthenticated → cut))
      (fun outcome => call = .waitAuthenticated → outcome = .finished (some .context) → cut)
      (body unmarshalString decodeMessage hasOnStream call) := by
    intro call
    by_cases waits : call = .waitAuthenticated
    · rw [waits]
      exact (cause_wait unmarshalString decodeMessage hasOnStream).weaken fun _ cuts same done => cuts done same
    · exact (cause_body unmarshalString decodeMessage hasOnStream _ _ call).weaken fun _ _ same => absurd same waits
  obtain ⟨kept, owes⟩ := kept_run
    (fun op q index choice call next t result makes owing => cause_given cuts op q index choice call next t result makes
      (read q.shared owing)) fresh entered moved ⟨s, []⟩ p moves (by simp [Kept])
    (fun marks => absurd marks (unmarked (newSession_starts cfg created control s ok))) along ran
  refine ⟨?_, owes⟩
  intro thread member waits done
  have within := kept thread member
  rw [done] at within
  exact within waits rfl

/-- The verdict is that of a call the session has taken, and a wait ends without one only if it is cut off. -/
theorem verdict_settled :
    (∀ v, p.shared.verdict = some v →
      ∃ thread ∈ p.threads, thread.call.Settles A decodeMessage hasOnStream (Took taken thread.call) v) ∧
    ∀ thread ∈ p.threads, thread.call = .waitAuthenticated → thread.prog = .done (.finished (some .context)) →
      CutOff taken := by
  let owed (t : Session A) (call : Call) : Prop :=
    t.authReadyClosed = true ∧ call.Settles A decodeMessage hasOnStream (Took taken call) t.authResult
  let marked (t : Session A) : Prop := t.authReadyClosed = true ∨ t.authResult ≠ none
  have read : ∀ t, (marked t → ∃ c, owed t c) → t.authResult = some .context → CutOff taken := by
    intro t owing cut
    obtain ⟨c, _, settles⟩ := owing (.inr (by rw [cut]; rintro ⟨⟩))
    rw [cut] at settles
    cases Call.Settles.foreign decodeMessage hasOnStream settles (by simp [foreignErrors])
  have entered : ∀ call t u, enter call t = some u → marked u → marked t ∧ ∀ c, owed t c → owed u c := by
    intro call t u opened marks
    rw [enter_same call t u opened] at marks ⊢
    exact ⟨marks, fun _ owes => owes⟩
  have moved : ∀ {β : Type} (op : Op β) choice t u (result : β) (call : Call), Session.exec op choice t = some (result, u) →
      causeMay (call.Settles A decodeMessage hasOnStream (Took taken call)) op → marked u →
      owed u call ∨ (marked t ∧ ∀ c, owed t c → owed u c) := by
    intro β op choice t u result call executed allowed marks
    cases settling : op.settles with
    | false =>
      have same := Session.exec_unsettled op choice t u result settling executed
      simp only [marked, owed, same.closed, same.result] at marks ⊢
      exact .inr ⟨marks, fun _ owes => owes⟩
    | true =>
      cases op with
      | completeAuthResult err authenticated =>
        cases executed
        unfold Session.completeAuthResult
        split
        · rename_i closed
          exact .inr ⟨.inl closed, fun _ owes => owes⟩
        · exact .inl ⟨rfl, allowed⟩
      | _ => cases settling
  have unmarked : s.Starts cfg → ¬ marked s := by
    rintro starts (closed | result)
    · cases starts.authReadyClosed.symm.trans closed
    · exact result starts.authResult
  obtain ⟨waits, owes⟩ := caused_run unmarshalString decodeMessage hasOnStream ok along ran id read unmarked entered moved
  refine ⟨?_, waits⟩
  intro v settled
  obtain ⟨closed, result⟩ := Session.closed_of_verdict settled
  obtain ⟨thread, member, _, settles⟩ := owes (.inl closed)
  rw [result] at settles
  exact ⟨thread, member, settles⟩

/-- Only `Close` brings a session to `CLOSING` or `CLOSED`. -/
theorem closing_called (closing : p.shared.state = .closing ∨ p.shared.state = .closed) :
    ∃ thread ∈ p.threads, thread.call = .close := by
  let owed (_ : Session A) (call : Call) : Prop :=
    call.Settles A decodeMessage hasOnStream (Took taken call) (some .sessionClosed)
  let marked (t : Session A) : Prop := t.state = .closing ∨ t.state = .closed
  have entered : ∀ call t u, enter call t = some u → marked u → marked t ∧ ∀ c, owed t c → owed u c := by
    intro call t u opened marks
    rw [enter_same call t u opened] at marks
    exact ⟨marks, fun _ owes => owes⟩
  have moved : ∀ {β : Type} (op : Op β) choice t u (result : β) (call : Call), Session.exec op choice t = some (result, u) →
      causeMay (call.Settles A decodeMessage hasOnStream (Took taken call)) op → marked u →
      owed u call ∨ (marked t ∧ ∀ c, owed t c → owed u c) := by
    intro β op choice t u result call executed allowed marks
    rcases exec_target executed with same | ⟨target, _⟩
    · refine .inr ⟨?_, fun _ owes => owes⟩
      simp only [marked, same] at marks
      exact marks
    · cases op with
      | transition next =>
        cases target
        exact .inl (allowed marks)
      | _ => cases target
  have unmarked : s.Starts cfg → ¬ marked s := by
    rintro starts (marks | marks) <;> cases starts.state.symm.trans marks
  obtain ⟨thread, member, settles⟩ := (caused_run unmarshalString decodeMessage hasOnStream ok along ran (fun _ => trivial)
    (fun _ _ _ => trivial) unmarked entered moved).2 closing
  refine ⟨thread, member, ?_⟩
  generalize thread.call = call at settles ⊢
  cases Call.Settles.foreign decodeMessage hasOnStream settles (by simp [foreignErrors])
  rfl

end Caused

theorem ended_step {p q : Pool Op (Session A) Call Outcome} {m : Move Choice Call}
    (stepped : (sessionSystem unmarshalString decodeMessage A hasOnStream).step p m = some q) (ended : p.shared.Ended) :
    q.shared.Ended := by
  have kept : ∀ call (s t : Session A), enter call s = some t → s.Ended → t.Ended := by
    intro call s t entered ended
    rw [enter_same call s t entered]
    exact ended
  refine System.step_stable kept ?_ stepped ended
  intro β op c s t result executed ended
  refine ⟨?_, ?_⟩
  · rcases exec_target executed with same | ⟨_, moved⟩
    · rw [same]
      exact ended.1
    · exact SessionState.transition_over _ _ _ ended.1 moved
  · exact (Session.closed_of_verdict (Session.exec_verdict op c s t result _ executed (Session.verdict_closed ended.2))).1

end Runs

end Rtc2Tcp.WebRTC

import Rtc2Tcp.Peer.LoopSafety
import Rtc2Tcp.WebRTC.Agreement

namespace Rtc2Tcp.Peer.Loop

open Octets Go Signaling WebRTC Goroutine

variable {A : Authenticator} {unmarshalString : Bytes → Option SessionDescription}
  {decodeMessage : Bytes → Option Auth.Message} {taken : Taken A} {l : Loop A}

theorem mode_run {mode : PeerMode} {authenticator : A.State} {moves : List LoopMove}
    (ran : (start mode authenticator : Loop A).run unmarshalString decodeMessage moves = some l) : l.mode = mode := by
  have preserved : ∀ (u : Loop A) move v, u.mode = mode → u.step unmarshalString decodeMessage move = some v →
      v.mode = mode :=
    fun _ _ _ same went => (stepped_of_step went).extends.mode.trans same
  exact Transition.run_preserves preserved _ l moves rfl ran

theorem Log.started {reports : List Report} (log : Log decodeMessage taken l reports) (started : l.listener ≠ .idle) :
    l.mode = .connect ∧ l.Favoured := by
  cases log with
  | none idle => exact absurd idle started
  | ready favoured mode idle => exact absurd idle started
  | listening favoured mode ran => exact ⟨mode, favoured⟩
  | failed cause e explained idle => exact absurd idle started

theorem Log.failure {reports : List Report} (log : Log decodeMessage taken l reports) {failure : PreAuthFailure}
    {reason : Bytes} {e : SessionError} (member : .failure failure reason e ∈ reports) :
    l.Explained decodeMessage taken e ∧ ∃ cause, Report.failure failure reason e = failureReport cause e := by
  cases log with
  | none => cases member
  | ready => cases List.mem_singleton.mp member
  | listening =>
    rcases List.mem_cons.mp member with same | member
    · cases same
    · cases List.mem_singleton.mp member
  | failed cause e' explained idle =>
    have same := List.mem_singleton.mp member
    obtain rfl : e = e' := (Report.failure.inj same).2.2
    exact ⟨explained, cause, same⟩

/-- In every run the listener starts at most once, for a connecting peer and after the authentication has succeeded;
    streams are opened only after it; nobody but a loop that is leaving fails or closes the session; and a session is
    over, with its verdict known to all who wait for it, once `runPeer` has returned. -/
theorem loop_guarded (unmarshalString : Bytes → Option SessionDescription) (decodeMessage : Bytes → Option Auth.Message)
    (mode : PeerMode) (authenticator : A.State) (moves : List LoopMove) (l : Loop A)
    (ran : (start mode authenticator : Loop A).run unmarshalString decodeMessage moves = some l) :
    (l.listener ≠ .idle → mode = .connect ∧ ∃ p, l.pool = some p ∧ p.shared.verdict = some none ∧ StepDone p.shared) ∧
    l.reports.count .listening ≤ 1 ∧
    (∀ p, l.pool = some p → (∀ label, .openStreamChannel label ∈ p.calls → l.listener ≠ .idle) ∧
      (l.pc.Active = true → .fail ∉ p.calls ∧ .close ∉ p.calls) ∧
      ∀ result, l.pc = .returned result → p.shared.Ended) := by
  obtain ⟨sound, reported⟩ := sound_run ran
  have same := mode_run ran
  refine ⟨?_, ?_, ?_⟩
  · intro started
    obtain ⟨connecting, p, found, settled⟩ := reported.log.started started
    exact ⟨same ▸ connecting, p, found, settled, (sound.reached p found).stepDone settled⟩
  · generalize listed : l.reports = reports
    have log := reported.log
    rw [listed] at log
    cases log with
    | failed cause e => simp [failureReport]
    | _ => decide
  · intro p found
    exact ⟨fun label => reported.streams p label found, sound.active found,
      fun result here => sound.ended result here p found⟩

section Blame

/-- Errors that only a message of the other side can cause. -/
def remoteFault : Auth.AuthError → Bool
  | .schemeMismatch _ _ => true
  | .roleMismatch => true
  | .invalidShare => true
  | .confirmationMismatch => true
  | .unexpectedKind _ _ => true
  | _ => false

variable {P : Auth.Primitives}

theorem setup_local (a b : Auth.InteractiveAuthenticator P) (e : Auth.AuthError) (failed : a.setup = (.error e, b)) :
    remoteFault e = false := by
  unfold Auth.InteractiveAuthenticator.setup at failed
  split at failed
  · simp only [Auth.InteractiveAuthenticator.setupCPACE] at failed
    repeat' split at failed
    all_goals cases failed
    all_goals rfl
  · simp only [Auth.InteractiveAuthenticator.setupECDH] at failed
    repeat' split at failed
    all_goals cases failed
    all_goals rfl

theorem validateMaterial_local (material : Auth.SessionBindingMaterial) (e : Auth.AuthError)
    (failed : Auth.validateMaterial material = .error e) : remoteFault e = false := by
  unfold Auth.validateMaterial at failed
  repeat' split at failed
  all_goals cases failed
  all_goals rfl

theorem bind_local (a : Auth.InteractiveAuthenticator P) (material : Auth.SessionBindingMaterial) (e : Auth.AuthError)
    (failed : (a.bind material).1 = .error e) : remoteFault e = false := by
  unfold Auth.InteractiveAuthenticator.bind at failed
  split at failed
  · cases failed
    rfl
  · split at failed
    · rename_i e' invalid
      cases failed
      exact validateMaterial_local material e invalid
    · split at failed
      · rename_i e' b set
        cases failed
        exact setup_local _ b e set
      · cases failed

theorem start_local (a : Auth.InteractiveAuthenticator P) (e : Auth.AuthError) (failed : a.start.1 = .error e) :
    remoteFault e = false := by
  unfold Auth.InteractiveAuthenticator.start at failed
  repeat' split at failed
  all_goals cases failed
  all_goals rfl

theorem BindFault.remote {e : Auth.AuthError} (fault : BindFault (interactive P) (.auth e)) : remoteFault e = false := by
  cases fault with
  | refused a material e called => exact bind_local a material e called

theorem SendFault.remote {e : Auth.AuthError} (fault : SendFault (interactive P) (.auth e)) : remoteFault e = false := by
  cases fault with
  | bind e fault => exact BindFault.remote fault
  | start a e called => exact start_local a e called

theorem PendingFault.remote {e : Auth.AuthError} (fault : PendingFault (interactive P) (.auth e)) :
    remoteFault e = false := by
  cases fault with
  | send e fault => exact SendFault.remote fault

/-- A call that ends the transport, as the log names it. -/
def transportReason : WebRTC.Call → Option Bytes
  | .connectionStateChange .failed => some (text "peer_connection_failed")
  | .connectionStateChange .closed => some (text "peer_connection_closed")
  | .controlClose _ => some (text "control_channel_closed")
  | _ => none

theorem settles_transport {c : WebRTC.Call} {e : SessionError} {hasOnStream : Bool}
    {took : Auth.Message → Auth.InteractiveAuthenticator.StepResult → Prop}
    (settles : WebRTC.Call.Settles A decodeMessage hasOnStream took c (some e)) (unclosed : c ≠ .close)
    (transport : isPreAuthTransportFailure e = true) : transportReason c = some (transportFailureReason e) := by
  have foreign : e ∈ foreignErrors := by
    cases e <;> first | (cases transport; done) | simp [foreignErrors]
  cases WebRTC.Call.Settles.foreign decodeMessage hasOnStream settles foreign with
  | close => exact absurd rfl unclosed
  | _ => rfl

theorem settles_remote {c : WebRTC.Call} {e : Auth.AuthError} {hasOnStream : Bool}
    {took : Auth.Message → Auth.InteractiveAuthenticator.StepResult → Prop}
    (settles : WebRTC.Call.Settles (interactive P) decodeMessage hasOnStream took c (some (.auth e)))
    (remote : remoteFault e = true) :
    ∃ dc data inbound result, c = .controlMessage dc data ∧ decodeMessage data = some inbound ∧ took inbound result ∧
      result.err = some e := by
  cases c with
  | createOffer | handleOffer | handleAnswer =>
    rw [PendingFault.remote settles] at remote
    cases remote
  | controlOpen =>
    rw [SendFault.remote settles] at remote
    cases remote
  | controlMessage dc data =>
    cases settles with
    | bind e fault =>
      rw [BindFault.remote fault] at remote
      cases remote
    | step inbound result e decoded called failed => exact ⟨dc, data, inbound, result, rfl, decoded, called, failed⟩
  | dataChannel dc => cases settles
  | connectionStateChange state => cases state <;> cases settles
  | controlClose | fail | close => cases settles
  | _ => exact settles.elim

theorem classified (e : SessionError) :
    ((classifyPreAuthFailure e).event = text "transport_failure" ∧ isPreAuthTransportFailure e = true) ∨
    ((classifyPreAuthFailure e).event = text "auth_failure" ∧ isPreAuthTransportFailure e = false) := by
  unfold classifyPreAuthFailure
  cases transport : isPreAuthTransportFailure e with
  | true => exact .inl ⟨rfl, rfl⟩
  | false => exact .inr ⟨rfl, rfl⟩

/-- The reasons that put the failure down to a message of the other side. -/
def remoteReasons : List Bytes :=
  [text "scheme_mismatch", text "role_mismatch", text "invalid_share", text "confirmation_mismatch", text "unexpected_kind"]

/-- The other reasons an authentication can fail for. -/
def localReasons : List Bytes := [text "state_out_of_order", text "unsupported_scheme", text "unclassified"]

def contextReasons : List Bytes := [text "timeout", text "canceled"]

theorem reason_cases (cause : ContextError) (e : SessionError) :
    (∃ x, e = .auth x ∧ remoteFault x = true ∧ authFailureReason cause e ∈ remoteReasons) ∨
    (e = .context ∧ authFailureReason cause e ∈ contextReasons) ∨ authFailureReason cause e ∈ localReasons := by
  have unclassified : text "unclassified" ∈ localReasons := by simp [localReasons]
  cases e with
  | auth x =>
    cases x with
    | schemeMismatch | roleMismatch | invalidShare | confirmationMismatch | unexpectedKind =>
      exact .inl ⟨_, rfl, rfl, by simp [authFailureReason, remoteReasons]⟩
    | stateOutOfOrder | unsupportedScheme => exact .inr (.inr (by simp [authFailureReason, localReasons]))
    | _ => exact .inr (.inr unclassified)
  | context => cases cause <;> exact .inr (.inl ⟨rfl, by simp [authFailureReason, contextReasons]⟩)
  | _ => exact .inr (.inr unclassified)

theorem reasons_apart (reason : Bytes) :
    (reason ∈ remoteReasons → reason ∉ localReasons ∧ reason ∉ contextReasons) ∧
    (reason ∈ contextReasons → reason ∉ localReasons) := by
  have apart : (∀ r ∈ remoteReasons, r ∉ localReasons ∧ r ∉ contextReasons) ∧ ∀ r ∈ contextReasons, r ∉ localReasons := by
    decide
  exact ⟨apart.1 reason, apart.2 reason⟩

/-- A logged failure names what happened. A transport failure is one of the callbacks of the peer connection or of the
    control channel, and the log says which; the reasons that blame the other side come from a message it sent, at which
    the session's authenticator, as it was when it took the message, failed with just that error; and at a timeout or a
    cancellation the context was done while the loop's own `WaitAuthenticated` was waiting. -/
theorem failure_blamed (P : Auth.Primitives) (unmarshalString : Bytes → Option SessionDescription)
    (decodeMessage : Bytes → Option Auth.Message) (mode : PeerMode) (authenticator : Auth.InteractiveAuthenticator P)
    (moves : List LoopMove) (l : Loop (interactive P))
    (ran : (start mode authenticator : Loop (interactive P)).run unmarshalString decodeMessage moves = some l)
    (failure : PreAuthFailure) (reason : Bytes) (e : SessionError) (member : .failure failure reason e ∈ l.reports) :
    (failure.event = text "transport_failure" → ∃ p c, l.pool = some p ∧ c ∈ p.calls ∧ transportReason c = some reason) ∧
    (failure.event = text "auth_failure" → reason ∈ remoteReasons → ∃ p dc data inbound x, l.pool = some p ∧
      .controlMessage dc data ∈ p.calls ∧ decodeMessage data = some inbound ∧ e = .auth x ∧
      ∃ (q : SessionPool (interactive P)) (index : Nat) (choice : Choice) (next : _),
        sessionSteps unmarshalString decodeMessage (start mode authenticator) moves q index choice ∧
        q.threads[index]? = some ⟨.controlMessage dc data, .act (.authStep inbound) next⟩ ∧
        ((interactive P).step q.shared.authenticator inbound).1.err = some x) ∧
    (failure.event = text "auth_failure" → reason ∈ contextReasons → e = .context ∧
      ∃ (q : SessionPool (interactive P)) (index : Nat) (choice : Choice) (next : _),
        sessionSteps unmarshalString decodeMessage (start mode authenticator) moves q index choice ∧
        q.threads[index]? = some ⟨.waitAuthenticated, .act .waitAuthReady next⟩ ∧ choice.succeeds = false) := by
  obtain ⟨explained, cause, same⟩ := (sound_run ran).2.log.failure member
  obtain ⟨rfl, rfl, -⟩ := Report.failure.inj same
  rcases classified e with ⟨event, transport⟩ | ⟨event, transport⟩
  · rw [event]
    refine ⟨fun _ => ?_, fun impossible => absurd impossible (by decide), fun impossible => absurd impossible (by decide)⟩
    rw [if_pos rfl]
    rcases explained with ⟨rfl, _⟩ | ⟨p, c, found, called, _, unclosed, settles⟩
    · cases transport
    · exact ⟨p, c, found, called, settles_transport settles unclosed transport⟩
  · rw [event]
    have other : text "auth_failure" ≠ text "transport_failure" := by decide
    refine ⟨fun impossible => absurd impossible other, fun _ => ?_, fun _ => ?_⟩
    · rw [if_neg other]
      intro remote
      obtain ⟨x, rfl, fault, _⟩ := (reason_cases cause e).resolve_right (by
        rintro (⟨_, cut⟩ | near)
        · exact ((reasons_apart _).1 remote).2 cut
        · exact ((reasons_apart _).1 remote).1 near)
      rcases explained with ⟨impossible, _⟩ | ⟨p, c, found, called, _, _, settles⟩
      · cases impossible
      · obtain ⟨dc, data, inbound, result, rfl, decoded, took, failed⟩ := settles_remote settles fault
        obtain ⟨q, index, choice, next, made, thread, rfl⟩ := took
        exact ⟨p, dc, data, inbound, x, found, called, decoded, rfl, q, index, choice, next, made, thread, failed⟩
    · rw [if_neg other]
      intro cut
      rcases reason_cases cause e with ⟨_, _, _, remote⟩ | ⟨same, _⟩ | near
      · exact absurd cut ((reasons_apart _).1 remote).2
      · rcases explained with cutOff | ⟨p, c, _, _, _, _, settles⟩
        · exact cutOff
        · rw [same] at settles
          cases WebRTC.Call.Settles.foreign decodeMessage _ settles (by simp [foreignErrors])
      · exact absurd near ((reasons_apart _).2 cut)

end Blame

section Vectors

def steps (thread count : Nat) : List LoopMove :=
  List.replicate count (.session (.run thread ⟨true, channelSDP localPrint, 0⟩))

def pairedEvent : Signaling.Message := { type := .paired, paired := some ⟨text "session-1", true, text "expose"⟩ }

def answerEvent : Signaling.Message :=
  { type := .signal, signal := some (Process.answerSignal (channelSDP remotePrint)) }

def openedMoves : List LoopMove :=
  .event (some pairedEvent) { control := some controlDC } :: steps 1 5 ++
    .proceed true :: .event (some answerEvent) {} :: steps 2 7 ++
    .proceed true :: .session (.spawn (.controlOpen controlDC)) :: steps 3 7

def answeredMoves (accept : Auth.Message) (count : Nat) : List LoopMove :=
  openedMoves ++ .session (.spawn (.controlMessage controlDC (marshalMessage accept))) :: steps 4 count ++
    steps 0 2 ++ [.authResult .canceled]

abbrev vectorLoop : Loop (interactive Auth.InteractiveAuthenticator.vectors) :=
  start .connect (Auth.InteractiveAuthenticator.vectorFresh Auth.InteractiveAuthenticator.initiatorKey.val)

theorem loop_guarded_listening :
    ∃ l p, vectorLoop.run parseVector WebRTC.decodeMessage
        (answeredMoves Auth.InteractiveAuthenticator.vectorAccept 6) = some l ∧
      l.listener = .running ∧ l.pool = some p ∧ p.shared.verdict = some none ∧ StepDone p.shared := by
  have ended : (vectorLoop.run parseVector WebRTC.decodeMessage
      (answeredMoves Auth.InteractiveAuthenticator.vectorAccept 6)).map
      (fun l => l.listener) = some .running := by decide +kernel
  obtain ⟨l, ran, running⟩ := Option.map_eq_some_iff.mp ended
  obtain ⟨guarded, _, _⟩ := loop_guarded parseVector WebRTC.decodeMessage .connect _ _ l ran
  obtain ⟨_, p, found, settled, done⟩ := guarded (by rw [running]; rintro ⟨⟩)
  exact ⟨l, p, ran, running, found, settled, done⟩

def unconfirmedAccept : Auth.Message := { Auth.InteractiveAuthenticator.vectorAccept with confirmation := [] }

theorem failure_blamed_unconfirmed :
    ∃ l p dc data inbound, vectorLoop.run parseVector WebRTC.decodeMessage (answeredMoves unconfirmedAccept 9) = some l ∧
      l.reports = [failureReport .canceled (.auth .confirmationMismatch)] ∧ l.pool = some p ∧
      .controlMessage dc data ∈ p.calls ∧ WebRTC.decodeMessage data = some inbound ∧
      ∃ (q : SessionPool (interactive Auth.InteractiveAuthenticator.vectors)) (index : Nat) (choice : Choice) (next : _),
        sessionSteps parseVector WebRTC.decodeMessage vectorLoop (answeredMoves unconfirmedAccept 9) q index choice ∧
        q.threads[index]? = some ⟨.controlMessage dc data, .act (.authStep inbound) next⟩ ∧
        ((interactive _).step q.shared.authenticator inbound).1.err = some .confirmationMismatch := by
  have ended : (vectorLoop.run parseVector WebRTC.decodeMessage
      (answeredMoves unconfirmedAccept 9)).map (fun l => l.reports) =
      some [failureReport .canceled (.auth .confirmationMismatch)] := by decide +kernel
  obtain ⟨l, ran, reports⟩ := Option.map_eq_some_iff.mp ended
  obtain ⟨_, blamed, _⟩ := failure_blamed _ parseVector WebRTC.decodeMessage .connect _ _ l ran
    (classifyPreAuthFailure (.auth .confirmationMismatch)) (text "confirmation_mismatch") (.auth .confirmationMismatch)
    (by rw [reports]; exact List.mem_singleton.mpr (by decide))
  obtain ⟨p, dc, data, inbound, x, found, called, decoded, same, step⟩ := blamed (by decide) (by decide)
  cases same
  exact ⟨l, p, dc, data, inbound, ran, reports, found, called, decoded, step⟩

end Vectors

end Rtc2Tcp.Peer.Loop

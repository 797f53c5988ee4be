import Rtc2Tcp.Peer.RunPeer
import Rtc2Tcp.WebRTC.Cause

namespace Rtc2Tcp.Peer

open Octets Go Signaling WebRTC Goroutine

abbrev SessionPool (A : Authenticator) := Pool WebRTC.Op (WebRTC.Session A) WebRTC.Call WebRTC.Outcome

structure PreAuthFailure where
  event : Bytes
  message : Bytes
deriving DecidableEq, Repr

def isPreAuthTransportFailure : SessionError → Bool
  | .peerConnectionFailed => true
  | .peerConnectionClosed => true
  | .controlChannelClosed => true
  | .sessionClosed => true
  | _ => false

def classifyPreAuthFailure (err : SessionError) : PreAuthFailure :=
  if isPreAuthTransportFailure err then ⟨text "transport_failure", text "transport failed before authentication"⟩
  else ⟨text "auth_failure", text "authentication failed"⟩

inductive ContextError where
  | deadlineExceeded
  | canceled
deriving DecidableEq, Repr

/-- `authFailureReason`; `cause` is the error behind `context`. -/
def authFailureReason (cause : ContextError) : SessionError → Bytes
  | .auth (.schemeMismatch _ _) => text "scheme_mismatch"
  | .auth .roleMismatch => text "role_mismatch"
  | .auth .invalidShare => text "invalid_share"
  | .auth .confirmationMismatch => text "confirmation_mismatch"
  | .auth (.unexpectedKind _ _) => text "unexpected_kind"
  | .auth .stateOutOfOrder => text "state_out_of_order"
  | .auth (.unsupportedScheme _) => text "unsupported_scheme"
  | .context =>
    match cause with
    | .deadlineExceeded => text "timeout"
    | .canceled => text "canceled"
  | _ => text "unclassified"

def transportFailureReason : SessionError → Bytes
  | .peerConnectionFailed => text "peer_connection_failed"
  | .peerConnectionClosed => text "peer_connection_closed"
  | .controlChannelClosed => text "control_channel_closed"
  | .sessionClosed => text "session_closed"
  | _ => text "unclassified"

inductive Report where
  | sessionReady
  | listening
  | failure (failure : PreAuthFailure) (reason : Bytes) (err : SessionError)
deriving DecidableEq, Repr

def failureReport (cause : ContextError) (err : SessionError) : Report :=
  let failure := classifyPreAuthFailure err
  .failure failure
    (if failure.event = text "transport_failure" then transportFailureReason err else authFailureReason cause err) err

inductive ListenerEnd where
  | ok
  | canceled
  | failed
deriving DecidableEq, Repr

/-- `listenerStarted` and `listenerResultCh`. -/
inductive Listener where
  | idle
  | running
  | ended (result : ListenerEnd)
deriving DecidableEq, Repr

/-- Where the goroutine of `runPeer` stands: at its `select`, in a method of the session that the given thread runs, or
    at its end. -/
inductive LoopPc where
  | select
  | creatingOffer (thread : Nat)
  | handlingOffer (thread : Nat)
  | applying (thread : Nat)
  | failing (thread : Nat) (e : RunError)
  | closing (thread : Nat) (result : Option RunError)
  | returned (result : Option RunError)
deriving DecidableEq, Repr

def LoopPc.Active : LoopPc → Bool
  | .select => true
  | .creatingOffer _ => true
  | .handlingOffer _ => true
  | .applying _ => true
  | _ => false

/-- `state` is the state machine until a session takes it over; `waiter` is the goroutine that waits for the
    authentication, until its result is taken from `authResultCh`. -/
structure Loop (A : Authenticator) where
  mode : PeerMode
  authenticator : A.State
  state : SessionState
  pool : Option (SessionPool A)
  waiter : Option Nat
  listener : Listener
  detached : Bool
  sent : List Signal
  reports : List Report
  pc : LoopPc

structure Made where
  created : Bool := true
  control : Option DataChannel := none
deriving DecidableEq, Repr

/-- A move of a session's goroutines or callbacks, the end of the listener, a case of the `select`, or the return of the
    method the loop is in. -/
inductive LoopMove where
  | session (move : Goroutine.Move Choice WebRTC.Call)
  | listenerEnds (result : ListenerEnd)
  | cancel
  | authResult (cause : ContextError)
  | listenerResult
  | event (event : Option Signaling.Message) (made : Made)
  | proceed (sent : Bool)

def outcomeOf {A : Authenticator} (p : SessionPool A) (i : Nat) : Option WebRTC.Outcome :=
  match p.threads[i]? with
  | some ⟨_, .done outcome⟩ => some outcome
  | _ => none

namespace Loop

variable {A : Authenticator}

def start (mode : PeerMode) (authenticator : A.State) : Loop A where
  mode := mode
  authenticator := authenticator
  state := .rendezvous
  pool := none
  waiter := none
  listener := .idle
  detached := false
  sent := []
  reports := []
  pc := .select

def stateNow (l : Loop A) : SessionState :=
  match l.pool with
  | none => l.state
  | some p => p.shared.state

def PostAuth (l : Loop A) : Prop := l.stateNow = .authenticated ∨ l.stateNow = .streaming

instance (l : Loop A) : Decidable l.PostAuth := inferInstanceAs (Decidable (_ ∨ _))

/-- The calls that are not the loop's own: the callbacks, and what the listener asks for. -/
def Allows (l : Loop A) : Goroutine.Move Choice WebRTC.Call → Bool
  | .run _ _ => true
  | .spawn (.connectionStateChange _) => true
  | .spawn (.dataChannel _) => true
  | .spawn (.controlOpen _) => true
  | .spawn (.controlMessage _ _) => true
  | .spawn (.controlClose _) => true
  | .spawn (.openStreamChannel _) => decide (l.listener ≠ .idle)
  | .spawn _ => false

def startListener (l : Loop A) : Loop A :=
  if l.listener ≠ .idle ∨ l.mode ≠ .connect then l
  else { l with listener := .running, reports := l.reports ++ [.listening] }

section Methods

variable (unmarshalString : Bytes → Option SessionDescription) (decodeMessage : Bytes → Option Auth.Message)

/-- Only an exposing peer takes streams. -/
def system (A : Authenticator) (mode : PeerMode) :
    System WebRTC.Op (WebRTC.Session A) Choice WebRTC.Call WebRTC.Outcome :=
  sessionSystem unmarshalString decodeMessage A (decide (mode = .expose))

def call (l : Loop A) (p : SessionPool A) (c : WebRTC.Call) : SessionPool A :=
  ⟨p.shared, p.threads ++ [⟨c, body unmarshalString decodeMessage (decide (l.mode = .expose)) c⟩]⟩

/-- The loop returns: the deferred `Close` runs. -/
def leave (l : Loop A) (result : Option RunError) : Loop A :=
  match l.pool with
  | none => { l with pc := .returned result }
  | some p =>
    { l with pool := some (l.call unmarshalString decodeMessage p .close), pc := .closing p.threads.length result }

def failSession (l : Loop A) (e : RunError) : Loop A :=
  match l.pool with
  | none => { l with pc := .returned (some e) }
  | some p => { l with pool := some (l.call unmarshalString decodeMessage p .fail), pc := .failing p.threads.length e }

def handlePaired (l : Loop A) (paired : Option Paired) (made : Made) : Loop A :=
  match paired with
  | none => l.leave unmarshalString decodeMessage (some .pairedWithoutPayload)
  | some paired =>
    if l.pool.isSome then l.leave unmarshalString decodeMessage (some .duplicatePaired)
    else
      match l.state.transition .signaling with
      | none => l.leave unmarshalString decodeMessage (some .transition)
      | some state =>
        let l := { l with state := state }
        match newSession ⟨l.mode, paired.sessionID, paired.initiator, l.authenticator, state⟩ made.created made.control with
        | .error _ => l.failSession unmarshalString decodeMessage .newSession
        | .ok session =>
          let p := l.call unmarshalString decodeMessage ⟨session, []⟩ .waitAuthenticated
          if paired.initiator then
            { l with
              pool := some (l.call unmarshalString decodeMessage p .createOffer)
              waiter := some 0
              pc := .creatingOffer 1 }
          else { l with pool := some p, waiter := some 0 }

def handleSignal (l : Loop A) (p : SessionPool A) (signal : Signal) : Loop A :=
  match signal.kind with
  | .offer =>
    match signal.sdp with
    | none => l.failSession unmarshalString decodeMessage .handleSignal
    | some sdp =>
      { l with
        pool := some (l.call unmarshalString decodeMessage p (.handleOffer sdp.sdp))
        pc := .handlingOffer p.threads.length }
  | .answer =>
    match signal.sdp with
    | none => l.failSession unmarshalString decodeMessage .handleSignal
    | some sdp =>
      { l with
        pool := some (l.call unmarshalString decodeMessage p (.handleAnswer sdp.sdp))
        pc := .applying p.threads.length }
  | .ice =>
    match signal.candidate with
    | none => l.failSession unmarshalString decodeMessage .handleSignal
    | some candidate =>
      { l with
        pool := some (l.call unmarshalString decodeMessage p (.addRemoteCandidate candidate.candidate))
        pc := .applying p.threads.length }
  | .unknown _ => l.failSession unmarshalString decodeMessage .handleSignal

def handleEvent (l : Loop A) (event : Option Signaling.Message) (made : Made) : Loop A :=
  match event with
  | none =>
    if l.PostAuth then { l with detached := true } else l.failSession unmarshalString decodeMessage .brokerClosed
  | some message =>
    match message.type with
    | .registered => l
    | .paired => l.handlePaired unmarshalString decodeMessage message.paired made
    | .signal =>
      match message.signal with
      | none => l.failSession unmarshalString decodeMessage .signalWithoutPayload
      | some signal =>
        match l.pool with
        | none => l.leave unmarshalString decodeMessage (some .signalBeforePairing)
        | some p => l.handleSignal unmarshalString decodeMessage p signal
    | .peerLeft =>
      let reason :=
        match message.peerLeft with
        | none => text "peer left"
        | some reason => if reason = [] then text "peer left" else reason
      l.failSession unmarshalString decodeMessage (.peerLeft reason)
    | .error =>
      match message.error with
      | none => l.failSession unmarshalString decodeMessage .unspecified
      | some e =>
        if e.code = text "broker-read" ∧ l.PostAuth then { l with detached := true }
        else l.failSession unmarshalString decodeMessage (.broker e.code e.message)
    | _ => l

def handleAuthResult (l : Loop A) (cause : ContextError) (err : Option SessionError) : Loop A :=
  let l := { l with waiter := none }
  match err with
  | none => { l with reports := l.reports ++ [Report.sessionReady] }.startListener
  | some e =>
    { l with reports := l.reports ++ [failureReport cause e] }.failSession unmarshalString decodeMessage .authentication

/-- The method the loop is in has returned; `sent` is the result of sending the signal that follows it. -/
def proceed (l : Loop A) (p : SessionPool A) (sent : Bool) : Option (Loop A) :=
  match l.pc with
  | .creatingOffer i =>
    match outcomeOf p i with
    | none => none
    | some (.description (.ok offer)) =>
      if sent then some { l with pc := .select, sent := l.sent ++ [Process.offerSignal offer] }
      else some (l.failSession unmarshalString decodeMessage .sendSignal)
    | some _ => some (l.failSession unmarshalString decodeMessage .createOffer)
  | .handlingOffer i =>
    match outcomeOf p i with
    | none => none
    | some (.description (.ok answer)) =>
      if sent then some { l with pc := .select, sent := l.sent ++ [Process.answerSignal answer] }
      else some (l.failSession unmarshalString decodeMessage .handleSignal)
    | some _ => some (l.failSession unmarshalString decodeMessage .handleSignal)
  | .applying i =>
    match outcomeOf p i with
    | none => none
    | some (.finished none) => some { l with pc := .select }
    | some _ => some (l.failSession unmarshalString decodeMessage .handleSignal)
  | .failing i e => (outcomeOf p i).map fun _ => l.leave unmarshalString decodeMessage (some e)
  | .closing i result => (outcomeOf p i).map fun _ => { l with pc := .returned result }
  | _ => none

def step (l : Loop A) : LoopMove → Option (Loop A)
  | .session move =>
    match l.pool with
    | none => none
    | some p =>
      if l.Allows move then
        ((system unmarshalString decodeMessage A l.mode).step p move).map fun q => { l with pool := some q }
      else none
  | .listenerEnds result => if l.listener = .running then some { l with listener := .ended result } else none
  | .cancel => if l.pc = .select then some (l.leave unmarshalString decodeMessage none) else none
  | .authResult cause =>
    match l.pc, l.waiter, l.pool with
    | .select, some i, some p =>
      match outcomeOf p i with
      | some (.finished err) => some (l.handleAuthResult unmarshalString decodeMessage cause err)
      | _ => none
    | _, _, _ => none
  | .listenerResult =>
    match l.pc, l.listener with
    | .select, .ended .failed => some (l.failSession unmarshalString decodeMessage .listener)
    | .select, .ended _ => some (l.leave unmarshalString decodeMessage none)
    | _, _ => none
  | .event event made =>
    if l.pc = .select ∧ l.detached = false then some (l.handleEvent unmarshalString decodeMessage event made) else none
  | .proceed sent =>
    match l.pool with
    | none => none
    | some p => l.proceed unmarshalString decodeMessage p sent

abbrev run (l : Loop A) (moves : List LoopMove) : Option (Loop A) :=
  Transition.run (fun l => l.step unmarshalString decodeMessage) l moves

def OwnCall : WebRTC.Call → Bool
  | .handleOffer _ => true
  | .handleAnswer _ => true
  | .addRemoteCandidate _ => true
  | _ => false

inductive Stepped (l : Loop A) (move : LoopMove) : Loop A → Prop where
  | session (p q : SessionPool A) (act : Goroutine.Move Choice WebRTC.Call) (made : move = .session act)
      (found : l.pool = some p) (allowed : l.Allows act = true)
      (stepped : (system unmarshalString decodeMessage A l.mode).step p act = some q) :
      Stepped l move { l with pool := some q }
  | listenerEnds (result : ListenerEnd) (running : l.listener = .running) : Stepped l move { l with listener := .ended result }
  | keeps (idle : l.pc = .select) : Stepped l move l
  | detaches (idle : l.pc = .select) (authenticated : l.PostAuth) : Stepped l move { l with detached := true }
  | leaves (result : Option RunError) (idle : l.pc = .select) : Stepped l move (l.leave unmarshalString decodeMessage result)
  | fails (e : RunError) (active : l.pc.Active = true) : Stepped l move (l.failSession unmarshalString decodeMessage e)
  | authenticated (i : Nat) (p : SessionPool A) (idle : l.pc = .select) (waiting : l.waiter = some i)
      (found : l.pool = some p) (answered : outcomeOf p i = some (.finished none)) :
      Stepped l move { l with waiter := none, reports := l.reports ++ [Report.sessionReady] }.startListener
  | refused (i : Nat) (p : SessionPool A) (cause : ContextError) (e : SessionError) (idle : l.pc = .select)
      (waiting : l.waiter = some i) (found : l.pool = some p) (answered : outcomeOf p i = some (.finished (some e))) :
      Stepped l move ({ l with waiter := none, reports := l.reports ++ [failureReport cause e] }.failSession unmarshalString
        decodeMessage .authentication)
  | unpaired (state : SessionState) (idle : l.pc = .select) (first : l.pool = none) :
      Stepped l move ({ l with state := state }.failSession unmarshalString decodeMessage .newSession)
  | paired (state : SessionState) (paired : Paired) (made : Made) (session : WebRTC.Session A) (idle : l.pc = .select)
      (first : l.pool = none)
      (created : newSession ⟨l.mode, paired.sessionID, paired.initiator, l.authenticator, state⟩ made.created made.control =
        .ok session) :
      Stepped l move { l with
        state := state
        pool := some (l.call unmarshalString decodeMessage ⟨session, []⟩ .waitAuthenticated)
        waiter := some 0 }
  | offers (state : SessionState) (paired : Paired) (made : Made) (session : WebRTC.Session A) (idle : l.pc = .select)
      (first : l.pool = none)
      (created : newSession ⟨l.mode, paired.sessionID, paired.initiator, l.authenticator, state⟩ made.created made.control =
        .ok session) :
      Stepped l move { l with
        state := state
        pool := some (l.call unmarshalString decodeMessage
          (l.call unmarshalString decodeMessage ⟨session, []⟩ .waitAuthenticated) .createOffer)
        waiter := some 0
        pc := .creatingOffer 1 }
  | calls (p : SessionPool A) (c : WebRTC.Call) (pc : LoopPc) (idle : l.pc = .select) (found : l.pool = some p)
      (own : OwnCall c = true) (active : pc.Active = true) :
      Stepped l move { l with pool := some (l.call unmarshalString decodeMessage p c), pc := pc }
  | resumes (signals : List Signal) (active : l.pc.Active = true) :
      Stepped l move { l with pc := .select, sent := l.sent ++ signals }
  | failed (i : Nat) (e : RunError) (p : SessionPool A) (failing : l.pc = .failing i e) (found : l.pool = some p)
      (finished : (outcomeOf p i).isSome = true) : Stepped l move (l.leave unmarshalString decodeMessage (some e))
  | returns (i : Nat) (result : Option RunError) (p : SessionPool A) (closing : l.pc = .closing i result)
      (found : l.pool = some p) (finished : (outcomeOf p i).isSome = true) : Stepped l move { l with pc := .returned result }

variable {unmarshalString decodeMessage} {l m : Loop A} {move : LoopMove}

theorem handlePaired_stepped (idle : l.pc = .select) (paired : Option Paired) (made : Made) :
    Stepped unmarshalString decodeMessage l move (l.handlePaired unmarshalString decodeMessage paired made) := by
  unfold handlePaired
  split
  · exact .leaves _ idle
  · split
    · exact .leaves _ idle
    · rename_i paired unpaired
      have first : l.pool = none := by simpa using unpaired
      split
      · exact .leaves _ idle
      · rename_i state _
        dsimp only
        split
        · exact .unpaired state idle first
        · rename_i session created
          split
          · exact .offers state paired made session idle first created
          · exact .paired state paired made session idle first created

theorem handleSignal_stepped (idle : l.pc = .select) {p : SessionPool A} (found : l.pool = some p) (signal : Signal) :
    Stepped unmarshalString decodeMessage l move (l.handleSignal unmarshalString decodeMessage p signal) := by
  have active : l.pc.Active = true := by rw [idle]; rfl
  unfold handleSignal
  split
  · split
    · exact .fails _ active
    · exact .calls p _ _ idle found rfl rfl
  · split
    · exact .fails _ active
    · exact .calls p _ _ idle found rfl rfl
  · split
    · exact .fails _ active
    · exact .calls p _ _ idle found rfl rfl
  · exact .fails _ active

theorem handleEvent_stepped (idle : l.pc = .select) (event : Option Signaling.Message) (made : Made) :
    Stepped unmarshalString decodeMessage l move (l.handleEvent unmarshalString decodeMessage event made) := by
  have active : l.pc.Active = true := by rw [idle]; rfl
  unfold handleEvent
  split
  · split
    · rename_i authenticated
      exact .detaches idle authenticated
    · exact .fails _ active
  · split
    · exact .keeps idle
    · exact handlePaired_stepped idle _ made
    · split
      · exact .fails _ active
      · split
        · exact .leaves _ idle
        · rename_i p found
          exact handleSignal_stepped idle found _
    · exact .fails _ active
    · split
      · exact .fails _ active
      · split
        · rename_i both
          exact .detaches idle both.2
        · exact .fails _ active
    · exact .keeps idle

theorem proceed_stepped {p : SessionPool A} (found : l.pool = some p) {sent : Bool}
    (went : l.proceed unmarshalString decodeMessage p sent = some m) : Stepped unmarshalString decodeMessage l move m := by
  unfold proceed at went
  split at went
  · rename_i i method
    have active : l.pc.Active = true := by rw [method]; rfl
    split at went
    · cases went
    · split at went <;> cases went
      · exact .resumes _ active
      · exact .fails _ active
    · cases went
      exact .fails _ active
  · rename_i i method
    have active : l.pc.Active = true := by rw [method]; rfl
    split at went
    · cases went
    · split at went <;> cases went
      · exact .resumes _ active
      · exact .fails _ active
    · cases went
      exact .fails _ active
  · rename_i i method
    have active : l.pc.Active = true := by rw [method]; rfl
    split at went
    · cases went
    · cases went
      have resumed : Stepped unmarshalString decodeMessage l move { l with pc := .select, sent := l.sent ++ [] } :=
        .resumes [] active
      rwa [List.append_nil] at resumed
    · cases went
      exact .fails _ active
  · rename_i i e failing
    obtain ⟨outcome, finished, rfl⟩ := Option.map_eq_some_iff.mp went
    exact .failed i e p failing found (by rw [finished]; rfl)
  · rename_i i result closing
    obtain ⟨outcome, finished, rfl⟩ := Option.map_eq_some_iff.mp went
    exact .returns i result p closing found (by rw [finished]; rfl)
  · cases went

theorem stepped_of_step (went : l.step unmarshalString decodeMessage move = some m) :
    Stepped unmarshalString decodeMessage l move m := by
  cases move with
  | session move =>
    simp only [step] at went
    split at went
    · cases went
    · rename_i p found
      split at went
      · rename_i allowed
        obtain ⟨q, stepped, rfl⟩ := Option.map_eq_some_iff.mp went
        exact .session p q move rfl found allowed stepped
      · cases went
  | listenerEnds result =>
    simp only [step] at went
    split at went <;> cases went
    rename_i running
    exact .listenerEnds result running
  | cancel =>
    simp only [step] at went
    split at went <;> cases went
    rename_i idle
    exact .leaves none idle
  | authResult cause =>
    simp only [step] at went
    split at went
    · rename_i i p idle waiting found
      split at went
      · rename_i err answered
        cases went
        unfold handleAuthResult
        cases err with
        | none => exact .authenticated i p idle waiting found answered
        | some e => exact .refused i p cause e idle waiting found answered
      · cases went
    · cases went
  | listenerResult =>
    simp only [step] at went
    split at went
    · rename_i idle _
      cases went
      exact .fails _ (by rw [idle]; rfl)
    · rename_i idle _
      cases went
      exact .leaves none idle
    · cases went
  | event event made =>
    simp only [step] at went
    split at went <;> cases went
    rename_i idle
    exact handleEvent_stepped idle.1 event made
  | proceed sent =>
    simp only [step] at went
    split at went
    · cases went
    · rename_i p found
      exact proceed_stepped found went

end Methods

end Loop

end Rtc2Tcp.Peer

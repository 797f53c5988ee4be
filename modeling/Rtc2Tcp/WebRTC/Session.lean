import Rtc2Tcp.Auth.Steps
import Rtc2Tcp.Lib.Goroutine
import Rtc2Tcp.WebRTC.SDP
import Rtc2Tcp.WebRTC.StateMachine

namespace Rtc2Tcp.WebRTC

open Octets Go Auth Goroutine

/-- The `auth.Authenticator` interface, as far as a session calls it. -/
structure Authenticator where
  State : Type
  bind : State → SessionBindingMaterial → Except AuthError Unit × State
  start : State → Except AuthError Message × State
  step : State → Message → InteractiveAuthenticator.StepResult × State

def interactive (P : Primitives) : Authenticator where
  State := InteractiveAuthenticator P
  bind := InteractiveAuthenticator.bind
  start := InteractiveAuthenticator.start
  step := InteractiveAuthenticator.step

def controlChannelLabel : Bytes := text "rtc2tcp-auth"

/-- A data channel is known by its number; the label is what the remote side gave it. -/
structure DataChannel where
  id : Nat
  label : Bytes
deriving DecidableEq, Repr

abbrev ICECandidate := Bytes

inductive SDPType where
  | offer
  | answer
deriving DecidableEq, Repr

inductive PeerConnectionState where
  | failed
  | closed
  | other
deriving DecidableEq, Repr

inductive SessionError where
  | preAuthPayloadChannel
  | unexpectedAuthControlReplay
  | unexpectedInboundStream
  | sessionClosed
  | peerConnectionFailed
  | peerConnectionClosed
  | controlChannelClosed
  | authMaterialNotReady
  | controlNotAttached
  | notAuthenticated
  | invalidTransition (old new : SessionState)
  | peerConnection
  | localDescriptionMissing
  | sdp (e : SDPError)
  | decode
  | auth (e : AuthError)
  | send
  | context
  | caller
  | wrongState (state : SessionState)
  | sessionIDRequired
deriving DecidableEq, Repr

/-- The calls of a session on its surroundings that the results below speak about. -/
inductive Event where
  | remoteApplied (sdp : Bytes)
  | bind (material : SessionBindingMaterial)
  | stepDone
  | stream (dc : DataChannel)
deriving DecidableEq, Repr

inductive SignalingState where
  | stable
  | haveLocalOffer
  | haveRemoteOffer
deriving DecidableEq, Repr

/-- Which descriptions a peer connection can take. An offer in the stable state is a
    renegotiation. -/
def SignalingState.setLocal : SignalingState → SDPType → Option SignalingState
  | .stable, .offer => some .haveLocalOffer
  | .haveLocalOffer, .offer => some .haveLocalOffer
  | .haveRemoteOffer, .answer => some .stable
  | _, _ => none

def SignalingState.setRemote : SignalingState → SDPType → Option SignalingState
  | .stable, .offer => some .haveRemoteOffer
  | .haveRemoteOffer, .offer => some .haveRemoteOffer
  | .haveLocalOffer, .answer => some .stable
  | _, _ => none

structure PeerConnection where
  signaling : SignalingState
  hasLocal : Bool
  closed : Bool
deriving DecidableEq, Repr

/-- `sync.Once`: a caller waits while another one runs the function. -/
inductive Once where
  | idle
  | running
  | done
deriving DecidableEq, Repr

structure Session (A : Authenticator) where
  mode : PeerMode
  sessionID : Bytes
  authenticator : A.State
  state : SessionState
  pc : PeerConnection
  control : Option DataChannel
  onOpen : List DataChannel
  onMessage : List DataChannel
  onClose : List DataChannel
  controlOpen : Bool
  localFingerprint : Bytes
  remoteFingerprint : Bytes
  remoteDescription : Bool
  pendingCandidates : List ICECandidate
  authBound : Bool
  authStarted : Bool
  closeErr : Option SessionError
  authenticated : Bool
  authResult : Option SessionError
  authReadyClosed : Bool
  closeOnce : Once
  events : List Event

/-- What the environment decides when an operation leaves it open: whether a call on the peer
    connection succeeds, and the text or the channel it returns. -/
structure Choice where
  succeeds : Bool
  sdp : Bytes
  channel : Nat
deriving DecidableEq, Repr

/-- The atomic operations: calls on the state machine, the peer connection and the
    authenticator, and the sections under the session's mutex. -/
inductive Op : Type → Type where
  | isOneOf (states : List SessionState) : Op Bool
  | transition (next : SessionState) : Op (Option SessionError)
  | createDescription : Op (Option Bytes)
  | pcSetLocalDescription (type : SDPType) : Op Bool
  | pcLocalDescription : Op (Option Bytes)
  | pcSetRemoteDescription (type : SDPType) (sdp : Bytes) : Op Bool
  | pcAddICECandidate (candidate : ICECandidate) : Op Bool
  | pcCreateDataChannel (label : Bytes) : Op (Option DataChannel)
  | pcClose : Op Bool
  | dcClose (dc : DataChannel) : Op Unit
  | sendText (dc : DataChannel) (message : Message) : Op Bool
  | storeLocal (fingerprint : Bytes) : Op Unit
  | storeRemote (fingerprint : Bytes) : Op (List ICECandidate)
  | fingerprintsReady : Op Bool
  | queueCandidate (candidate : ICECandidate) : Op Bool
  | attach (dc : DataChannel) : Op Bool
  | registerOnOpen (dc : DataChannel) : Op Unit
  | registerOnMessage (dc : DataChannel) : Op Unit
  | registerOnClose (dc : DataChannel) : Op Unit
  | openControl : Op Unit
  | controlIsOpen : Op Bool
  | bindLocked : Op (Except SessionError DataChannel)
  | claimStart : Op Bool
  | authStart : Op (Except AuthError Message)
  | authStep (inbound : Message) : Op InteractiveAuthenticator.StepResult
  | completeAuthResult (err : Option SessionError) (authenticated : Bool) : Op Unit
  | authReady : Op Bool
  | waitAuthReady : Op Bool
  | readAuthResult : Op (Option SessionError)
  | readAuthenticated : Op Bool
  | onceEnter : Op Bool
  | onceExit : Op Unit
  | setCloseErr : Op Unit
  | readCloseErr : Op (Option SessionError)
  | onStream (dc : DataChannel) : Op Unit

namespace Session

variable {A : Authenticator}

def record (s : Session A) (e : Event) : Session A := { s with events := s.events ++ [e] }

def materialLocked (s : Session A) : Except SessionError SessionBindingMaterial :=
  if s.localFingerprint = [] ∨ s.remoteFingerprint = [] then .error .authMaterialNotReady
  else .ok ⟨s.sessionID, s.mode, s.localFingerprint, s.remoteFingerprint⟩

/-- The body of `bindAuthenticator`, all of it under the mutex. -/
def bindLocked (s : Session A) : Except SessionError DataChannel × Session A :=
  match s.control with
  | none => (.error .controlNotAttached, s)
  | some control =>
    if s.authBound then (.ok control, s)
    else match s.materialLocked with
      | .error e => (.error e, s)
      | .ok material =>
        match A.bind s.authenticator material with
        | (.error e, a) => (.error (.auth e), { s with authenticator := a }.record (.bind material))
        | (.ok (), a) => (.ok control, { s with authenticator := a, authBound := true }.record (.bind material))

/-- `authenticator.Step`, with its success noted. -/
def authStep (s : Session A) (inbound : Message) : InteractiveAuthenticator.StepResult × Session A :=
  let (result, a) := A.step s.authenticator inbound
  let s := { s with authenticator := a }
  (result, if result.done ∧ result.err = none then s.record .stepDone else s)

/-- `completeAuthResult`: only the first call has an effect. -/
def completeAuthResult (s : Session A) (err : Option SessionError) (authenticated : Bool) : Session A :=
  if s.authReadyClosed then s
  else { s with authenticated := authenticated, authResult := err, authReadyClosed := true }

def exec : {β : Type} → Op β → Choice → Session A → Option (β × Session A)
  | _, .isOneOf states, _, s => some (decide (s.state ∈ states), s)
  | _, .transition next, _, s =>
    match s.state.transition next with
    | some after => some (none, { s with state := after })
    | none => some (some (.invalidTransition s.state next), s)
  | _, .createDescription, c, s =>
    some (if c.succeeds ∧ s.pc.closed = false then some c.sdp else none, s)
  | _, .pcSetLocalDescription type, c, s =>
    match s.pc.signaling.setLocal type with
    | some next =>
      if c.succeeds ∧ s.pc.closed = false then
        some (true, { s with pc := { s.pc with signaling := next, hasLocal := true } })
      else some (false, s)
    | none => some (false, s)
  | _, .pcLocalDescription, c, s => some (if s.pc.hasLocal then some c.sdp else none, s)
  | _, .pcSetRemoteDescription type sdp, c, s =>
    match s.pc.signaling.setRemote type with
    | some next =>
      if c.succeeds ∧ s.pc.closed = false then
        some (true, { s with pc := { s.pc with signaling := next } }.record (.remoteApplied sdp))
      else some (false, s)
    | none => some (false, s)
  | _, .pcAddICECandidate _, c, s => some (c.succeeds && !s.pc.closed, s)
  | _, .pcCreateDataChannel label, c, s =>
    some (if c.succeeds ∧ s.pc.closed = false then some ⟨c.channel, label⟩ else none, s)
  | _, .pcClose, c, s => some (c.succeeds, { s with pc := { s.pc with closed := true } })
  | _, .dcClose _, _, s => some ((), s)
  | _, .sendText _ _, c, s => some (c.succeeds, s)
  | _, .storeLocal fingerprint, _, s => some ((), { s with localFingerprint := fingerprint })
  | _, .storeRemote fingerprint, _, s =>
    some (s.pendingCandidates,
      { s with remoteFingerprint := fingerprint, remoteDescription := true, pendingCandidates := [] })
  | _, .fingerprintsReady, _, s => some (decide (s.localFingerprint ≠ [] ∧ s.remoteFingerprint ≠ []), s)
  | _, .queueCandidate candidate, _, s =>
    if s.remoteDescription then some (false, s)
    else some (true, { s with pendingCandidates := s.pendingCandidates ++ [candidate] })
  | _, .attach dc, _, s =>
    if s.control ≠ none ∧ s.control ≠ some dc then some (false, s)
    else some (true, { s with control := some dc })
  | _, .registerOnOpen dc, _, s => some ((), { s with onOpen := dc :: s.onOpen })
  | _, .registerOnMessage dc, _, s => some ((), { s with onMessage := dc :: s.onMessage })
  | _, .registerOnClose dc, _, s => some ((), { s with onClose := dc :: s.onClose })
  | _, .openControl, _, s => some ((), { s with controlOpen := true })
  | _, .controlIsOpen, _, s => some (s.controlOpen, s)
  | _, .bindLocked, _, s => some s.bindLocked
  | _, .claimStart, _, s =>
    if s.mode ≠ .connect ∨ s.authStarted then some (false, s) else some (true, { s with authStarted := true })
  | _, .authStart, _, s =>
    some ((A.start s.authenticator).1, { s with authenticator := (A.start s.authenticator).2 })
  | _, .authStep inbound, _, s => some (s.authStep inbound)
  | _, .completeAuthResult err authenticated, _, s => some ((), s.completeAuthResult err authenticated)
  | _, .authReady, _, s => some (s.authReadyClosed, s)
  | _, .waitAuthReady, c, s =>
    -- the select of `WaitAuthenticated`; the context may be done at any time
    if s.authReadyClosed ∧ c.succeeds then some (true, s) else if c.succeeds then none else some (false, s)
  | _, .readAuthResult, _, s => some (s.authResult, s)
  | _, .readAuthenticated, _, s => some (decide (s.authResult = none ∧ s.authenticated = true), s)
  | _, .onceEnter, _, s =>
    match s.closeOnce with
    | .idle => some (true, { s with closeOnce := .running })
    | .running => none
    | .done => some (false, s)
  | _, .onceExit, _, s => some ((), { s with closeOnce := .done })
  | _, .setCloseErr, _, s => some ((), { s with closeErr := some .peerConnection })
  | _, .readCloseErr, _, s => some (s.closeErr, s)
  | _, .onStream dc, _, s => some ((), s.record (.stream dc))

end Session

open Prog (perform)

/-- `fail`. That a transition was refused is only logged. -/
def fail (err : SessionError) : Prog Op Unit := do
  perform (.completeAuthResult (some err) false)
  if ← perform .onceEnter then
    if !(← perform (.isOneOf [.failed, .closed])) then
      let _ ← perform (.transition .failed)
    if !(← perform .pcClose) then
      perform .setCloseErr
    perform .onceExit

def close : Prog Op (Option SessionError) := do
  if ← perform .onceEnter then
    if !(← perform (.isOneOf [.closed, .failed])) then
      let _ ← perform (.transition .closing)
    perform (.completeAuthResult (some .sessionClosed) false)
    if ← perform .pcClose then
      if ← perform (.isOneOf [.closing]) then
        let _ ← perform (.transition .closed)
    else
      perform .setCloseErr
    perform .onceExit
  perform .readCloseErr

def isAuthenticated : Prog Op Bool := do
  if ← perform .authReady then perform .readAuthenticated else pure false

def waitAuthenticated : Prog Op (Option SessionError) := do
  if ← perform .waitAuthReady then perform .readAuthResult else pure (some .context)

def maybeSendAuth : Prog Op Unit := do
  if !(← perform (.isOneOf [.authPending])) then return
  if !(← perform .controlIsOpen) then return
  match ← perform .bindLocked with
  | .error .authMaterialNotReady => return
  | .error e => fail e
  | .ok control =>
    if ← perform .claimStart then
      match ← perform .authStart with
      | .error e => fail (.auth e)
      | .ok hello =>
        if !(← perform (.sendText control hello)) then
          fail .send

def maybeEnterAuthPending : Prog Op Unit := do
  if !(← perform .fingerprintsReady) then return
  if ← perform (.isOneOf [.signaling]) then
    match ← perform (.transition .authPending) with
    | some e => fail e
    | none => maybeSendAuth
  else maybeSendAuth

def gate (refusal : SessionError) : Prog Op (Option SessionError) := do
  if ← perform (.isOneOf [.authenticated, .streaming]) then
    if ← isAuthenticated then pure none else pure (some refusal)
  else pure (some refusal)

def openStreamChannel (label : Bytes) : Prog Op (Except SessionError DataChannel) := do
  match ← gate .notAuthenticated with
  | some e => pure (.error e)
  | none =>
    match ← perform (.pcCreateDataChannel label) with
    | none => pure (.error .peerConnection)
    | some dc =>
      match ← perform (.transition .streaming) with
      | some e =>
        perform (.dcClose dc)
        pure (.error e)
      | none => pure (.ok dc)

def prepareInboundPayloadChannel : Prog Op (Option SessionError) := do
  match ← gate .preAuthPayloadChannel with
  | some e => pure (some e)
  | none => perform (.transition .streaming)

def attachControlChannel (dc : DataChannel) : Prog Op Unit := do
  if ← perform (.attach dc) then
    perform (.registerOnOpen dc)
    perform (.registerOnMessage dc)
    perform (.registerOnClose dc)
  else
    perform (.dcClose dc)
    fail .unexpectedAuthControlReplay

def flushCandidates : List ICECandidate → Prog Op Bool
  | [] => pure true
  | candidate :: rest => do
    if ← perform (.pcAddICECandidate candidate) then flushCandidates rest else pure false

section Methods

variable (unmarshalString : Bytes → Option SessionDescription) (decodeMessage : Bytes → Option Message)

def setLocalDescription (type : SDPType) : Prog Op (Option SessionError) := do
  if ← perform (.pcSetLocalDescription type) then
    match ← perform .pcLocalDescription with
    | none => pure (some .localDescriptionMissing)
    | some sdp =>
      match extractTransportFingerprint unmarshalString sdp with
      | .error e => pure (some (.sdp e))
      | .ok fingerprint =>
        perform (.storeLocal fingerprint)
        maybeEnterAuthPending
        pure none
  else pure (some .peerConnection)

def setRemoteDescription (type : SDPType) (sdp : Bytes) : Prog Op (Option SessionError) := do
  if ← perform (.pcSetRemoteDescription type sdp) then
    match extractTransportFingerprint unmarshalString sdp with
    | .error e => pure (some (.sdp e))
    | .ok fingerprint =>
      let pending ← perform (.storeRemote fingerprint)
      if ← flushCandidates pending then
        maybeEnterAuthPending
        pure none
      else pure (some .peerConnection)
  else pure (some .peerConnection)

def describe (type : SDPType) : Prog Op (Except SessionError Bytes) := do
  match ← perform .createDescription with
  | none => pure (.error .peerConnection)
  | some sdp =>
    match ← setLocalDescription unmarshalString type with
    | some e => pure (.error e)
    | none => pure (.ok sdp)

def createOffer : Prog Op (Except SessionError Bytes) := describe unmarshalString .offer

def handleOffer (offer : Bytes) : Prog Op (Except SessionError Bytes) := do
  match ← setRemoteDescription unmarshalString .offer offer with
  | some e => pure (.error e)
  | none => describe unmarshalString .answer

def handleAnswer (answer : Bytes) : Prog Op (Option SessionError) :=
  setRemoteDescription unmarshalString .answer answer

def addRemoteCandidate (candidate : ICECandidate) : Prog Op (Option SessionError) := do
  if ← perform (.queueCandidate candidate) then pure none
  else if ← perform (.pcAddICECandidate candidate) then pure none
  else pure (some .peerConnection)

def sendOutbound (control : DataChannel) (result : InteractiveAuthenticator.StepResult) : Prog Op Bool :=
  if result.hasOutbound then perform (.sendText control result.outbound) else pure true

def finishAuth : Prog Op (Option SessionError) := do
  match ← perform (.transition .authenticated) with
  | some e => pure (some e)
  | none =>
    perform (.completeAuthResult none true)
    pure none

def handleControlMessage (data : Bytes) : Prog Op (Option SessionError) := do
  if !(← perform (.isOneOf [.authPending])) then return some .unexpectedAuthControlReplay
  match decodeMessage data with
  | none => pure (some .decode)
  | some inbound =>
    match ← perform .bindLocked with
    | .error e => pure (some e)
    | .ok control =>
      let result ← perform (.authStep inbound)
      match result.err with
      | some e => pure (some (.auth e))
      | none =>
        if !(← sendOutbound control result) then return some .send
        if result.done then finishAuth else pure none

/-- What reaches a session from outside: the methods its owner calls and the callbacks it has
    registered with the peer connection. -/
inductive Call where
  | createOffer
  | handleOffer (sdp : Bytes)
  | handleAnswer (sdp : Bytes)
  | addRemoteCandidate (candidate : ICECandidate)
  | openStreamChannel (label : Bytes)
  | waitAuthenticated
  | isAuthenticated
  | fail
  | close
  | connectionStateChange (state : PeerConnectionState)
  | dataChannel (dc : DataChannel)
  | controlOpen (dc : DataChannel)
  | controlMessage (dc : DataChannel) (data : Bytes)
  | controlClose (dc : DataChannel)
deriving DecidableEq, Repr

inductive Outcome where
  | finished (err : Option SessionError)
  | answered (yes : Bool)
  | description (result : Except SessionError Bytes)
  | opened (dc : DataChannel)
  | openRefused (err : SessionError)
  | controlAttached
  | payloadRefused (err : SessionError)
  | payloadUnexpected
  | payloadStreamed (dc : DataChannel)
deriving Repr

def onDataChannel (hasOnStream : Bool) (dc : DataChannel) : Prog Op Outcome := do
  if dc.label = controlChannelLabel then
    attachControlChannel dc
    pure .controlAttached
  else
    match ← prepareInboundPayloadChannel with
    | some e =>
      perform (.dcClose dc)
      fail e
      pure (.payloadRefused e)
    | none =>
      if hasOnStream then
        perform (.onStream dc)
        pure (.payloadStreamed dc)
      else
        perform (.dcClose dc)
        fail .unexpectedInboundStream
        pure .payloadUnexpected

def onConnectionStateChange (state : PeerConnectionState) : Prog Op Unit := do
  if ← perform (.isOneOf [.closing, .closed, .failed]) then pure ()
  else match state with
    | .failed => fail .peerConnectionFailed
    | .closed => fail .peerConnectionClosed
    | .other => pure ()

def onControlOpen : Prog Op Unit := do
  perform .openControl
  maybeSendAuth

def onControlMessage (data : Bytes) : Prog Op Unit := do
  match ← handleControlMessage decodeMessage data with
  | some e => fail e
  | none => pure ()

def onControlClose : Prog Op Unit := do
  if ← perform (.isOneOf [.closing, .closed, .failed]) then pure () else fail .controlChannelClosed

def body (hasOnStream : Bool) : Call → Prog Op Outcome
  | .createOffer => .description <$> createOffer unmarshalString
  | .handleOffer sdp => .description <$> handleOffer unmarshalString sdp
  | .handleAnswer sdp => .finished <$> handleAnswer unmarshalString sdp
  | .addRemoteCandidate candidate => .finished <$> addRemoteCandidate candidate
  | .openStreamChannel label => do
    match ← openStreamChannel label with
    | .ok dc => pure (.opened dc)
    | .error e => pure (.openRefused e)
  | .waitAuthenticated => .finished <$> waitAuthenticated
  | .isAuthenticated => .answered <$> isAuthenticated
  | .fail => (fun _ => .finished (some .caller)) <$> WebRTC.fail .caller
  | .close => .finished <$> close
  | .connectionStateChange state => (fun _ => .finished none) <$> onConnectionStateChange state
  | .dataChannel dc => onDataChannel hasOnStream dc
  | .controlOpen _ => (fun _ => .finished none) <$> onControlOpen
  | .controlMessage _ data => (fun _ => .finished none) <$> onControlMessage decodeMessage data
  | .controlClose _ => (fun _ => .finished none) <$> onControlClose

/-- A callback runs only once it is registered; everything else may be called at any time. -/
def enter {A : Authenticator} : Call → Session A → Option (Session A)
  | .controlOpen dc, s => if dc ∈ s.onOpen then some s else none
  | .controlMessage dc _, s => if dc ∈ s.onMessage then some s else none
  | .controlClose dc, s => if dc ∈ s.onClose then some s else none
  | _, s => some s

def machine (A : Authenticator) : Machine Op (Session A) Choice := ⟨Session.exec⟩

/-- A session under arbitrary concurrent calls. -/
def sessionSystem (A : Authenticator) (hasOnStream : Bool) :
    System Op (Session A) Choice Call Outcome where
  toMachine := machine A
  enter := enter
  body := body unmarshalString decodeMessage hasOnStream

end Methods

/-- The part of `Config` that decides anything; loggers and nil checks have no counterpart. -/
structure SessionConfig (A : Authenticator) where
  mode : PeerMode
  sessionID : Bytes
  initiator : Bool
  authenticator : A.State
  stateMachine : SessionState

/-- `NewSession`. The peer connection may refuse to be created, and so may the control channel,
    which an initiator attaches at once. -/
def newSession {A : Authenticator} (cfg : SessionConfig A) (created : Bool) (control : Option DataChannel) :
    Except SessionError (Session A) :=
  let session (control : Option DataChannel) : Session A :=
    { mode := cfg.mode, sessionID := cfg.sessionID, authenticator := cfg.authenticator
      state := cfg.stateMachine, pc := ⟨.stable, false, false⟩, control := control
      onOpen := control.toList, onMessage := control.toList, onClose := control.toList
      controlOpen := false, localFingerprint := [], remoteFingerprint := [], remoteDescription := false
      pendingCandidates := [], authBound := false, authStarted := false, closeErr := none
      authenticated := false, authResult := none, authReadyClosed := false, closeOnce := .idle
      events := [] }
  if cfg.stateMachine ≠ .signaling then .error (.wrongState cfg.stateMachine)
  else if trimSpace cfg.sessionID = [] then .error .sessionIDRequired
  else if !created then .error .peerConnection
  else if cfg.initiator then
    match control with
    | none => .error .peerConnection
    | some dc => .ok (session (some dc))
  else .ok (session none)

/-- A new session has called nothing, is not authenticated and knows no fingerprint. -/
structure Session.Fresh {A : Authenticator} (s : Session A) : Prop where
  events : s.events = []
  authenticated : s.authenticated = false
  authBound : s.authBound = false
  remoteFingerprint : s.remoteFingerprint = []

theorem newSession_fresh {A : Authenticator} (cfg : SessionConfig A) (created : Bool)
    (control : Option DataChannel) (s : Session A) (ok : newSession cfg created control = .ok s) : s.Fresh := by
  unfold newSession at ok
  dsimp only at ok
  split at ok
  · cases ok
  · split at ok
    · cases ok
    · split at ok
      · cases ok
      · split at ok
        · split at ok
          · cases ok
          · cases ok
            exact ⟨rfl, rfl, rfl, rfl⟩
        · cases ok
          exact ⟨rfl, rfl, rfl, rfl⟩

inductive Field where
  | authenticator
  | state
  | pc
  | control
  | onOpen
  | onMessage
  | onClose
  | controlOpen
  | localFingerprint
  | remoteFingerprint
  | remoteDescription
  | pendingCandidates
  | authBound
  | authStarted
  | closeErr
  | authenticated
  | authResult
  | authReadyClosed
  | closeOnce
  | events
deriving DecidableEq

/-- The fields of a session that an operation may write. -/
def Op.written : {β : Type} → Op β → List Field
  | _, .transition _ => [.state]
  | _, .pcSetLocalDescription _ => [.pc]
  | _, .pcSetRemoteDescription _ _ => [.pc, .events]
  | _, .pcClose => [.pc]
  | _, .storeLocal _ => [.localFingerprint]
  | _, .storeRemote _ => [.remoteFingerprint, .remoteDescription, .pendingCandidates]
  | _, .queueCandidate _ => [.pendingCandidates]
  | _, .attach _ => [.control]
  | _, .registerOnOpen _ => [.onOpen]
  | _, .registerOnMessage _ => [.onMessage]
  | _, .registerOnClose _ => [.onClose]
  | _, .openControl => [.controlOpen]
  | _, .bindLocked => [.authenticator, .authBound, .events]
  | _, .claimStart => [.authStarted]
  | _, .authStart => [.authenticator]
  | _, .authStep _ => [.authenticator, .events]
  | _, .completeAuthResult _ _ => [.authenticated, .authResult, .authReadyClosed]
  | _, .onceEnter => [.closeOnce]
  | _, .onceExit => [.closeOnce]
  | _, .setCloseErr => [.closeErr]
  | _, .onStream _ => [.events]
  | _, _ => []

def Op.writes {β : Type} (op : Op β) (field : Field) : Bool := op.written.contains field

section Frame

variable {A : Authenticator}

structure Session.Framed (writes : Field → Bool) (s t : Session A) : Prop where
  mode : t.mode = s.mode
  sessionID : t.sessionID = s.sessionID
  authenticator : writes .authenticator = false → t.authenticator = s.authenticator
  state : writes .state = false → t.state = s.state
  pc : writes .pc = false → t.pc = s.pc
  control : writes .control = false → t.control = s.control
  onOpen : writes .onOpen = false → t.onOpen = s.onOpen
  onMessage : writes .onMessage = false → t.onMessage = s.onMessage
  onClose : writes .onClose = false → t.onClose = s.onClose
  controlOpen : writes .controlOpen = false → t.controlOpen = s.controlOpen
  localFingerprint : writes .localFingerprint = false → t.localFingerprint = s.localFingerprint
  remoteFingerprint : writes .remoteFingerprint = false → t.remoteFingerprint = s.remoteFingerprint
  remoteDescription : writes .remoteDescription = false → t.remoteDescription = s.remoteDescription
  pendingCandidates : writes .pendingCandidates = false → t.pendingCandidates = s.pendingCandidates
  authBound : writes .authBound = false → t.authBound = s.authBound
  authStarted : writes .authStarted = false → t.authStarted = s.authStarted
  closeErr : writes .closeErr = false → t.closeErr = s.closeErr
  authenticated : writes .authenticated = false → t.authenticated = s.authenticated
  authResult : writes .authResult = false → t.authResult = s.authResult
  authReadyClosed : writes .authReadyClosed = false → t.authReadyClosed = s.authReadyClosed
  closeOnce : writes .closeOnce = false → t.closeOnce = s.closeOnce
  events : writes .events = false → t.events = s.events

theorem Session.Framed.refl (writes : Field → Bool) (s : Session A) : s.Framed writes s := by
  constructor <;> first | rfl | exact fun _ => rfl

theorem bindLocked_cases (s : Session A) :
    s.bindLocked.2 = s ∨ ∃ a bound material, s.authBound = false ∧ s.materialLocked = .ok material ∧
      s.bindLocked.2 = { s with authenticator := a, authBound := bound, events := s.events ++ [.bind material] } := by
  unfold Session.bindLocked
  split
  · left; rfl
  · split
    · left; rfl
    · rename_i unbound
      split
      · left; rfl
      · rename_i material ready
        right
        simp only [Bool.not_eq_true] at unbound
        split
        · rename_i e a failed
          exact ⟨a, false, material, unbound, ready, by simp [Session.record, unbound]⟩
        · exact ⟨_, true, material, unbound, ready, rfl⟩

/-- All that an operation changes are the fields it writes. -/
theorem Session.exec_frame {β : Type} (op : Op β) (c : Choice) (s t : Session A) (result : β)
    (executed : Session.exec op c s = some (result, t)) : s.Framed op.writes t := by
  cases op with
  | transition | queueCandidate | attach | claimStart | onceEnter =>
    simp only [exec] at executed
    split at executed <;> cases executed <;> constructor <;> first | rfl | exact fun _ => rfl | rintro ⟨⟩
  | pcSetLocalDescription | pcSetRemoteDescription =>
    simp only [exec] at executed
    split at executed
    · split at executed <;> cases executed
      · constructor <;> first | rfl | exact fun _ => rfl | rintro ⟨⟩
      · exact .refl _ s
    · cases executed
      exact .refl _ s
  | bindLocked =>
    obtain rfl : s.bindLocked.2 = t := congrArg Prod.snd (Option.some.inj executed)
    rcases bindLocked_cases s with same | ⟨a, bound, material, _, _, same⟩ <;> rw [same]
    · exact .refl _ s
    · constructor <;> first | rfl | exact fun _ => rfl | rintro ⟨⟩
  | authStep =>
    simp only [exec, Session.authStep] at executed
    split at executed <;> cases executed <;> constructor <;> first | rfl | exact fun _ => rfl | rintro ⟨⟩
  | completeAuthResult =>
    simp only [exec, completeAuthResult] at executed
    split at executed <;> cases executed <;> constructor <;> first | rfl | exact fun _ => rfl | rintro ⟨⟩
  | waitAuthReady =>
    simp only [exec] at executed
    split at executed
    · cases executed
      exact .refl _ s
    · split at executed <;> cases executed
      exact .refl _ s
  | _ =>
    cases executed
    constructor <;> first | rfl | exact fun _ => rfl | rintro ⟨⟩

end Frame

end Rtc2Tcp.WebRTC

import Rtc2Tcp.WebRTC.Session

namespace Rtc2Tcp.WebRTC

open Octets Go Auth Goroutine

open Prog (perform)

def Op.plain : {β : Type} → Op β → Bool
  | _, .transition next => decide (next ∉ [.signaling, .authPending, .authenticated])
  | _, .pcSetRemoteDescription _ _ => false
  | _, .pcAddICECandidate _ => false
  | _, .pcClose => false
  | _, .sendText _ _ => false
  | _, .storeLocal _ => false
  | _, .storeRemote _ => false
  | _, .queueCandidate _ => false
  | _, .openControl => false
  | _, .bindLocked => false
  | _, .claimStart => false
  | _, .authStart => false
  | _, .authStep _ => false
  | _, .completeAuthResult _ _ => false
  | _, .onceEnter => false
  | _, .onceExit => false
  | _, .onStream _ => false
  | _, _ => true

/-- How `fail` leaves the function under `closeOnce`. -/
def leaveOnce : Prog Op Unit := do
  if !(← perform .pcClose) then
    perform .setCloseErr
  perform .onceExit

def Op.ending : {β : Type} → Op β → Bool
  | _, .isOneOf _ => true
  | _, .transition next => decide (next ∈ [.closing, .closed, .failed])
  | _, .pcClose => true
  | _, .completeAuthResult err authenticated => err.isSome && !authenticated
  | _, .onceEnter => true
  | _, .onceExit => true
  | _, .setCloseErr => true
  | _, .readCloseErr => true
  | _, _ => false

/-- A property of programs that holds of a method once it holds of its parts. -/
structure Sequenced (holds : {α : Type} → Prog Op α → Prop) : Prop where
  pure : ∀ {α : Type} (value : α), holds (pure value : Prog Op α)
  bind : ∀ {α β : Type} {p : Prog Op α} {f : α → Prog Op β}, holds p → (∀ value, holds (f value)) → holds (p >>= f)

/-- Preserved by sequencing, and true of the plain operations and of `fail`. -/
structure Composed (holds : {α : Type} → Prog Op α → Prop) : Prop extends Sequenced holds where
  plain : ∀ {β : Type} (op : Op β), op.plain = true → holds (perform op)
  fail : ∀ err, holds (fail err)

namespace Sequenced

variable {holds : {α : Type} → Prog Op α → Prop} (Q : Sequenced holds)
  (ending : ∀ {β : Type} (op : Op β), op.ending = true → holds (perform op))
include Q ending

theorem fail (err : SessionError) : holds (fail err) := by
  unfold WebRTC.fail
  refine Q.bind (ending _ rfl) fun _ => Q.bind (ending _ rfl) fun first => ?_
  split
  · have leave : holds leaveOnce := by
      unfold leaveOnce
      refine Q.bind (ending _ rfl) fun closed => ?_
      split
      · exact Q.bind (ending _ rfl) fun _ => ending _ rfl
      · exact ending _ rfl
    refine Q.bind (ending _ rfl) fun ended => ?_
    split
    · exact Q.bind (ending _ rfl) fun _ => leave
    · exact leave
  · exact Q.pure _

theorem close : holds close := by
  unfold WebRTC.close
  have last : holds (perform .readCloseErr) := ending _ rfl
  have leave : holds (do perform .onceExit; perform .readCloseErr) := Q.bind (ending _ rfl) fun _ => last
  have shut : holds (do
      perform (.completeAuthResult (some .sessionClosed) false)
      if ← perform .pcClose then
        if ← perform (.isOneOf [.closing]) then
          let _ ← perform (.transition .closed)
      else
        perform .setCloseErr
      perform .onceExit
      perform .readCloseErr) := by
    refine Q.bind (ending _ rfl) fun _ => Q.bind (ending _ rfl) fun closed => ?_
    split
    · refine Q.bind (ending _ rfl) fun closing => ?_
      split
      · exact Q.bind (ending _ rfl) fun _ => leave
      · exact leave
    · exact Q.bind (ending _ rfl) fun _ => leave
  refine Q.bind (ending _ rfl) fun first => ?_
  split
  · refine Q.bind (ending _ rfl) fun ended => ?_
    split
    · exact Q.bind (ending _ rfl) fun _ => shut
    · exact shut
  · exact last

theorem composed (plain : ∀ {β : Type} (op : Op β), op.plain = true → holds (perform op)) : Composed holds :=
  { Q with plain := plain, fail := Q.fail ending }

end Sequenced

namespace Composed

variable {holds : {α : Type} → Prog Op α → Prop} (C : Composed holds)
include C

theorem waitAuthenticated : holds waitAuthenticated := by
  unfold WebRTC.waitAuthenticated
  refine C.bind (C.plain _ rfl) fun ready => ?_
  split
  · exact C.plain _ rfl
  · exact C.pure _

theorem isAuthenticated : holds isAuthenticated := by
  unfold WebRTC.isAuthenticated
  refine C.bind (C.plain _ rfl) fun ready => ?_
  split
  · exact C.plain _ rfl
  · exact C.pure _

theorem gate (refusal : SessionError) : holds (gate refusal) := by
  unfold WebRTC.gate
  refine C.bind (C.plain _ rfl) fun live => ?_
  split
  · refine C.bind C.isAuthenticated fun yes => ?_
    split <;> exact C.pure _
  · exact C.pure _

theorem openStreamChannel (label : Bytes) : holds (openStreamChannel label) := by
  unfold WebRTC.openStreamChannel
  refine C.bind (C.gate _) fun refused => ?_
  split
  · exact C.pure _
  · refine C.bind (C.plain _ rfl) fun made => ?_
    split
    · exact C.pure _
    · refine C.bind (C.plain _ rfl) fun error => ?_
      split
      · exact C.bind (C.plain _ rfl) fun _ => C.pure _
      · exact C.pure _

theorem prepareInboundPayloadChannel : holds prepareInboundPayloadChannel := by
  unfold WebRTC.prepareInboundPayloadChannel
  refine C.bind (C.gate _) fun refused => ?_
  split
  · exact C.pure _
  · exact C.plain _ rfl

theorem attachControlChannel (dc : DataChannel) : holds (attachControlChannel dc) := by
  unfold WebRTC.attachControlChannel
  refine C.bind (C.plain _ rfl) fun attached => ?_
  split
  · exact C.bind (C.plain _ rfl) fun _ => C.bind (C.plain _ rfl) fun _ => C.plain _ rfl
  · exact C.bind (C.plain _ rfl) fun _ => C.fail _

theorem onDataChannel (streaming : ∀ dc, holds (perform (.onStream dc))) (hasOnStream : Bool) (dc : DataChannel) :
    holds (onDataChannel hasOnStream dc) := by
  unfold WebRTC.onDataChannel
  split
  · exact C.bind (C.attachControlChannel dc) fun _ => C.pure _
  · refine C.bind C.prepareInboundPayloadChannel fun error => ?_
    split
    · exact C.bind (C.plain _ rfl) fun _ => C.bind (C.fail _) fun _ => C.pure _
    · split
      · exact C.bind (streaming dc) fun _ => C.pure _
      · exact C.bind (C.plain _ rfl) fun _ => C.bind (C.fail _) fun _ => C.pure _

theorem onConnectionStateChange (state : PeerConnectionState) : holds (onConnectionStateChange state) := by
  unfold WebRTC.onConnectionStateChange
  refine C.bind (C.plain _ rfl) fun finished => ?_
  split
  · exact C.pure _
  · cases state with
    | failed => exact C.fail _
    | closed => exact C.fail _
    | other => exact C.pure _

theorem onControlClose : holds onControlClose := by
  unfold WebRTC.onControlClose
  refine C.bind (C.plain _ rfl) fun finished => ?_
  split
  · exact C.pure _
  · exact C.fail _

theorem addRemoteCandidate (candidate : ICECandidate) (queue : holds (perform (.queueCandidate candidate)))
    (add : holds (perform (.pcAddICECandidate candidate))) : holds (addRemoteCandidate candidate) := by
  unfold WebRTC.addRemoteCandidate
  refine C.bind queue fun queued => ?_
  split
  · exact C.pure _
  · refine C.bind add fun added => ?_
    split <;> exact C.pure _

theorem maybeSendAuth (binding : holds (perform .bindLocked)) (claiming : holds (perform .claimStart))
    (starting : holds (perform .authStart)) (texting : ∀ dc message, holds (perform (.sendText dc message))) :
    holds maybeSendAuth := by
  unfold WebRTC.maybeSendAuth
  refine C.bind (C.plain _ rfl) fun pending => ?_
  split
  · exact C.pure _
  · refine C.bind (C.plain _ rfl) fun opened => ?_
    split
    · exact C.pure _
    · refine C.bind binding fun tried => ?_
      split
      · exact C.pure _
      · exact C.fail _
      · refine C.bind claiming fun granted => ?_
        split
        · refine C.bind starting fun started => ?_
          split
          · exact C.fail _
          · refine C.bind (texting _ _) fun sent => ?_
            split
            · exact C.fail _
            · exact C.pure _
        · exact C.pure _

theorem handleControlMessage (binding : holds (perform .bindLocked))
    (stepping : ∀ message, holds (perform (.authStep message)))
    (texting : ∀ dc message, holds (perform (.sendText dc message)))
    (entering : holds (perform (.transition .authenticated)))
    (completing : holds (perform (.completeAuthResult none true))) (decodeMessage : Bytes → Option Message)
    (data : Bytes) : holds (handleControlMessage decodeMessage data) := by
  unfold WebRTC.handleControlMessage
  refine C.bind (C.plain _ rfl) fun pending => ?_
  split
  · exact C.pure _
  · split
    · exact C.pure _
    · refine C.bind binding fun bound => ?_
      split
      · exact C.pure _
      · refine C.bind (stepping _) fun result => ?_
        split
        · exact C.pure _
        · have sent : ∀ control, holds (sendOutbound control result) := by
            intro control
            unfold sendOutbound
            split
            · exact texting _ _
            · exact C.pure _
          refine C.bind (sent _) fun ok => ?_
          split
          · exact C.pure _
          · split
            · unfold finishAuth
              refine C.bind entering fun error => ?_
              split
              · exact C.pure _
              · exact C.bind completing fun _ => C.pure _
            · exact C.pure _

theorem onControlMessage (decodeMessage : Bytes → Option Message) (data : Bytes)
    (handled : holds (WebRTC.handleControlMessage decodeMessage data)) : holds (onControlMessage decodeMessage data) := by
  refine C.bind handled fun error => ?_
  split
  · exact C.fail _
  · exact C.pure _

theorem map {α β : Type} {p : Prog Op α} (f : α → β) (first : holds p) : holds (f <$> p) :=
  C.bind first fun _ => C.pure _

end Composed

def Call.side : Call → Bool
  | .createOffer => false
  | .handleOffer _ => false
  | .handleAnswer _ => false
  | .addRemoteCandidate _ => false
  | .controlOpen _ => false
  | .controlMessage _ _ => false
  | _ => true

section Bodies

variable {holds : {α : Type} → Prog Op α → Prop} (C : Composed holds)
  (unmarshalString : Bytes → Option SessionDescription) (decodeMessage : Bytes → Option Message)
include C

theorem Composed.side (close : holds close) (streaming : ∀ dc, holds (perform (.onStream dc))) (hasOnStream : Bool)
    (call : Call) (side : call.side = true) : holds (body unmarshalString decodeMessage hasOnStream call) := by
  cases call with
  | createOffer => cases side
  | handleOffer => cases side
  | handleAnswer => cases side
  | addRemoteCandidate => cases side
  | controlOpen => cases side
  | controlMessage => cases side
  | openStreamChannel label =>
    refine C.bind (C.openStreamChannel label) fun result => ?_
    split <;> exact C.pure _
  | waitAuthenticated => exact C.map _ C.waitAuthenticated
  | isAuthenticated => exact C.map _ C.isAuthenticated
  | fail => exact C.map _ (C.fail _)
  | close => exact C.map _ close
  | connectionStateChange state => exact C.map _ (C.onConnectionStateChange state)
  | dataChannel dc => exact C.onDataChannel streaming hasOnStream dc
  | controlClose dc => exact C.map _ C.onControlClose

section Calls

variable (entering : holds (perform (.transition .authPending))) (sending : holds WebRTC.maybeSendAuth)
include entering sending

theorem Composed.maybeEnterAuthPending : holds maybeEnterAuthPending := by
  unfold WebRTC.maybeEnterAuthPending
  refine C.bind (C.plain _ rfl) fun ready => ?_
  split
  · exact C.pure _
  · refine C.bind (C.plain _ rfl) fun signaling => ?_
    split
    · refine C.bind entering fun error => ?_
      split
      · exact C.fail _
      · exact sending
    · exact sending

variable (storing : ∀ fingerprint, holds (perform (.storeLocal fingerprint)))
include storing

theorem Composed.setLocalDescription (type : SDPType) : holds (setLocalDescription unmarshalString type) := by
  unfold WebRTC.setLocalDescription
  refine C.bind (C.plain _ rfl) fun set => ?_
  split
  · refine C.bind (C.plain _ rfl) fun described => ?_
    split
    · exact C.pure _
    · split
      · exact C.pure _
      · refine C.bind (storing _) fun _ => ?_
        exact C.bind (C.maybeEnterAuthPending entering sending) fun _ => C.pure _
  · exact C.pure _

theorem Composed.describe (type : SDPType) : holds (describe unmarshalString type) := by
  unfold WebRTC.describe
  refine C.bind (C.plain _ rfl) fun made => ?_
  split
  · exact C.pure _
  · refine C.bind (C.setLocalDescription unmarshalString entering sending storing type) fun error => ?_
    split <;> exact C.pure _

theorem Composed.handleOffer (offer : Bytes) (remote : holds (setRemoteDescription unmarshalString .offer offer)) :
    holds (handleOffer unmarshalString offer) := by
  unfold WebRTC.handleOffer
  refine C.bind remote fun error => ?_
  split
  · exact C.pure _
  · exact C.describe unmarshalString entering sending storing .answer

def Call.control : Call → Bool
  | .controlOpen _ => true
  | .controlMessage _ _ => true
  | _ => false

section Others

variable (remote : ∀ type sdp, holds (WebRTC.setRemoteDescription unmarshalString type sdp))
  (add : ∀ candidate, holds (WebRTC.addRemoteCandidate candidate)) (close : holds close)
  (streaming : ∀ dc, holds (perform (.onStream dc)))
include remote add close streaming

theorem Composed.others (hasOnStream : Bool) (call : Call) (other : call.control = false) :
    holds (body unmarshalString decodeMessage hasOnStream call) := by
  cases call with
  | createOffer => exact C.map _ (C.describe unmarshalString entering sending storing .offer)
  | handleOffer offer =>
    exact C.map _ (C.handleOffer unmarshalString entering sending storing offer (remote .offer offer))
  | handleAnswer answer => exact C.map _ (remote .answer answer)
  | addRemoteCandidate candidate => exact C.map _ (add candidate)
  | controlOpen => cases other
  | controlMessage => cases other
  | _ => exact C.side unmarshalString decodeMessage close streaming hasOnStream _ rfl

theorem Composed.calls (opening : holds (perform .openControl))
    (handled : ∀ data, holds (WebRTC.onControlMessage decodeMessage data)) (hasOnStream : Bool) (call : Call) :
    holds (body unmarshalString decodeMessage hasOnStream call) := by
  cases call with
  | controlOpen dc => exact C.map _ (C.bind opening fun _ => sending)
  | controlMessage dc data => exact C.map _ (handled data)
  | _ =>
    exact C.others unmarshalString decodeMessage entering sending storing remote add close streaming hasOnStream _ rfl

end Others

end Calls

def Op.inner : {β : Type} → Op β → Bool
  | _, .transition next => decide (next = .authenticated)
  | _, .pcClose => true
  | _, .sendText _ _ => true
  | _, .bindLocked => true
  | _, .claimStart => true
  | _, .authStart => true
  | _, .authStep _ => true
  | _, .completeAuthResult _ _ => true
  | _, .onceEnter => true
  | _, .onceExit => true
  | _, _ => false

theorem Composed.flushCandidates (adding : ∀ candidate, holds (perform (.pcAddICECandidate candidate)))
    (pending : List ICECandidate) : holds (flushCandidates pending) := by
  induction pending with
  | nil => exact C.pure _
  | cons candidate rest ih =>
    refine C.bind (adding _) fun added => ?_
    split
    · exact ih
    · exact C.pure _

theorem Composed.setRemoteDescription (adding : ∀ candidate, holds (perform (.pcAddICECandidate candidate)))
    (applying : ∀ type sdp, holds (perform (.pcSetRemoteDescription type sdp)))
    (storing : ∀ fingerprint, holds (perform (.storeRemote fingerprint)))
    (entering : holds (perform (.transition .authPending))) (sending : holds WebRTC.maybeSendAuth)
    (type : SDPType) (sdp : Bytes) : holds (setRemoteDescription unmarshalString type sdp) := by
  unfold WebRTC.setRemoteDescription
  refine C.bind (applying _ _) fun set => ?_
  split
  · split
    · exact C.pure _
    · refine C.bind (storing _) fun pending => ?_
      refine C.bind (C.flushCandidates adding pending) fun flushed => ?_
      split
      · exact C.bind (C.maybeEnterAuthPending entering sending) fun _ => C.pure _
      · exact C.pure _
  · exact C.pure _

/-- Every call, once the property holds of the operations outside the authentication and of the
    methods around it. -/
theorem Composed.body (outer : ∀ {β : Type} (op : Op β), op.inner = false → holds (perform op))
    (sending : holds WebRTC.maybeSendAuth) (close : holds close)
    (handled : ∀ data, holds (WebRTC.onControlMessage decodeMessage data))
    (hasOnStream : Bool) (call : Call) : holds (body unmarshalString decodeMessage hasOnStream call) := by
  refine C.calls unmarshalString decodeMessage (outer _ rfl) sending (fun _ => outer _ rfl) ?_ ?_ close
    (fun _ => outer _ rfl) (outer _ rfl) handled hasOnStream call
  · exact fun type sdp => C.setRemoteDescription unmarshalString (fun _ => outer _ rfl) (fun _ _ => outer _ rfl)
      (fun _ => outer _ rfl) (outer _ rfl) sending type sdp
  · exact fun candidate => C.addRemoteCandidate candidate (outer _ rfl) (outer _ rfl)

end Bodies

end Rtc2Tcp.WebRTC

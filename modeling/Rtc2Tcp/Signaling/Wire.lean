import Rtc2Tcp.Go.Marshal
import Rtc2Tcp.Signaling.Messages

namespace Rtc2Tcp.Signaling

open Octets Go JSON

def MessageType.text : MessageType → Bytes
  | .register => Go.text "register"
  | .registered => Go.text "registered"
  | .paired => Go.text "paired"
  | .signal => Go.text "signal"
  | .error => Go.text "error"
  | .peerLeft => Go.text "peer-left"
  | .ping => Go.text "ping"
  | .pong => Go.text "pong"
  | .unknown text => text

def MessageType.ofText (text : Bytes) : MessageType :=
  ([.register, .registered, .paired, .signal, .error, .peerLeft, .ping, .pong].find? fun t => t.text = text).getD
    (.unknown text)

def SignalKind.text : SignalKind → Bytes
  | .offer => Go.text "offer"
  | .answer => Go.text "answer"
  | .ice => Go.text "ice-candidate"
  | .unknown text => text

def SignalKind.ofText (text : Bytes) : SignalKind :=
  ([.offer, .answer, .ice].find? fun k => k.text = text).getD (.unknown text)

def registerType : GoType :=
  .struct <|
    .cons (text "rendezvousToken") false .string <|
    .cons (text "mode") false .string <|
    .cons (text "version") true .string .nil

def registeredType : GoType := .struct <| .cons (text "peerID") false .string .nil

def pairedType : GoType :=
  .struct <|
    .cons (text "sessionID") false .string <|
    .cons (text "initiator") false .bool <|
    .cons (text "peerMode") false .string .nil

def sdpType : GoType :=
  .struct <|
    .cons (text "type") false .string <|
    .cons (text "sdp") false .string .nil

def candidateType : GoType :=
  .struct <|
    .cons (text "candidate") false .string <|
    .cons (text "sdpMid") true (.pointer .string) <|
    .cons (text "sdpMLineIndex") true (.pointer .uint16) <|
    .cons (text "usernameFragment") true (.pointer .string) .nil

def signalType : GoType :=
  .struct <|
    .cons (text "kind") false .string <|
    .cons (text "sdp") true (.pointer sdpType) <|
    .cons (text "candidate") true (.pointer candidateType) .nil

def errorType : GoType :=
  .struct <|
    .cons (text "code") false .string <|
    .cons (text "message") false .string .nil

def peerLeftType : GoType := .struct <| .cons (text "reason") true .string .nil

def tokenType : GoType := .struct <| .cons (text "token") true .string .nil

def messageType : GoType :=
  .struct <|
    .cons (text "type") false .string <|
    .cons (text "register") true (.pointer registerType) <|
    .cons (text "paired") true (.pointer pairedType) <|
    .cons (text "signal") true (.pointer signalType) <|
    .cons (text "error") true (.pointer errorType) <|
    .cons (text "peerLeft") true (.pointer peerLeftType) <|
    .cons (text "registered") true (.pointer registeredType) <|
    .cons (text "ping") true (.pointer tokenType) <|
    .cons (text "pong") true (.pointer tokenType) .nil

def Register.toVal (r : Register) : registerType.Val := (r.rendezvousToken, r.mode, r.version, ())

def Register.ofVal : registerType.Val → Register
  | (token, mode, version, _) => ⟨token, mode, version⟩

def Paired.toVal (p : Paired) : pairedType.Val := (p.sessionID, p.initiator, p.peerMode, ())

def Paired.ofVal : pairedType.Val → Paired
  | (id, initiator, mode, _) => ⟨id, initiator, mode⟩

def SDPPayload.toVal (s : SDPPayload) : sdpType.Val := (s.type, s.sdp, ())

def SDPPayload.ofVal : sdpType.Val → SDPPayload
  | (type, sdp, _) => ⟨type, sdp⟩

def ICECandidatePayload.toVal (c : ICECandidatePayload) : candidateType.Val :=
  (c.candidate, c.sdpMid, c.sdpMLineIndex, c.usernameFragment, ())

def ICECandidatePayload.ofVal : candidateType.Val → ICECandidatePayload
  | (candidate, mid, index, fragment, _) => ⟨candidate, mid, index, fragment⟩

def Signal.toVal (s : Signal) : signalType.Val :=
  (s.kind.text, s.sdp.map SDPPayload.toVal, s.candidate.map ICECandidatePayload.toVal, ())

def Signal.ofVal : signalType.Val → Signal
  | (kind, sdp, candidate, _) =>
    ⟨.ofText kind, Option.map SDPPayload.ofVal sdp, Option.map ICECandidatePayload.ofVal candidate⟩

def ErrorPayload.toVal (e : ErrorPayload) : errorType.Val := (e.code, e.message, ())

def ErrorPayload.ofVal : errorType.Val → ErrorPayload
  | (code, message, _) => ⟨code, message⟩

def single (s : Bytes) : Bytes × Unit := (s, ())

def Message.toVal (m : Message) : messageType.Val :=
  (m.type.text, m.register.map Register.toVal, m.paired.map Paired.toVal, m.signal.map Signal.toVal,
    m.error.map ErrorPayload.toVal, m.peerLeft.map single, m.registered.map single, m.ping.map single,
    m.pong.map single, ())

def Message.ofVal : messageType.Val → Message
  | (type, register, paired, signal, error, peerLeft, registered, ping, pong, _) =>
    { type := .ofText type
      register := Option.map Register.ofVal register
      paired := Option.map Paired.ofVal paired
      signal := Option.map Signal.ofVal signal
      error := Option.map ErrorPayload.ofVal error
      peerLeft := Option.map Prod.fst peerLeft
      registered := Option.map Prod.fst registered
      ping := Option.map Prod.fst ping
      pong := Option.map Prod.fst pong }

/-- `WriteJSON`, whose encoder ends the value with a new line. -/
def writeJSON (m : Message) : Bytes := messageType.marshal m.toVal ++ [0x0a]

def readJSON (data : Bytes) : Option Message := (decode messageType data).map Message.ofVal

def Register.received (r : Register) : Register := ⟨repair r.rendezvousToken, repair r.mode, repair r.version⟩

def Paired.received (p : Paired) : Paired := ⟨repair p.sessionID, p.initiator, repair p.peerMode⟩

def SDPPayload.received (s : SDPPayload) : SDPPayload := ⟨repair s.type, repair s.sdp⟩

def ICECandidatePayload.received (c : ICECandidatePayload) : ICECandidatePayload :=
  ⟨repair c.candidate, c.sdpMid.map repair, c.sdpMLineIndex, c.usernameFragment.map repair⟩

def Signal.received (s : Signal) : Signal :=
  ⟨.ofText (repair s.kind.text), s.sdp.map SDPPayload.received, s.candidate.map ICECandidatePayload.received⟩

def ErrorPayload.received (e : ErrorPayload) : ErrorPayload := ⟨repair e.code, repair e.message⟩

/-- What the other end reads for a message: the same, but for the texts that are not UTF-8. -/
def Message.received (m : Message) : Message where
  type := .ofText (repair m.type.text)
  register := m.register.map Register.received
  paired := m.paired.map Paired.received
  signal := m.signal.map Signal.received
  error := m.error.map ErrorPayload.received
  peerLeft := m.peerLeft.map repair
  registered := m.registered.map repair
  ping := m.ping.map repair
  pong := m.pong.map repair

theorem map_thrice {α β γ δ : Type} (f : α → β) (g : β → γ) (h : γ → δ) (o : Option α) :
    ((o.map f).map g).map h = o.map fun a => h (g (f a)) := by
  cases o <;> rfl

theorem ICECandidatePayload.ofVal_repair (c : ICECandidatePayload) :
    ICECandidatePayload.ofVal (candidateType.repair c.toVal) = c.received := by
  obtain ⟨candidate, mid, index, fragment⟩ := c
  cases index <;> rfl

theorem Signal.ofVal_repair (s : Signal) : Signal.ofVal (signalType.repair s.toVal) = s.received := by
  refine Signal.mk.injEq .. ▸ ⟨rfl, ?_, ?_⟩
  · exact map_thrice _ _ _ s.sdp
  · refine (map_thrice _ _ _ s.candidate).trans ?_
    exact congrArg (fun f => s.candidate.map f) (funext ICECandidatePayload.ofVal_repair)

theorem Message.ofVal_repair (m : Message) : Message.ofVal (messageType.repair m.toVal) = m.received := by
  refine Message.mk.injEq .. ▸ ⟨rfl, ?_, ?_, ?_, ?_, ?_, ?_, ?_, ?_⟩
  · exact map_thrice _ _ _ m.register
  · exact map_thrice _ _ _ m.paired
  · refine (map_thrice _ _ _ m.signal).trans ?_
    exact congrArg (fun f => m.signal.map f) (funext Signal.ofVal_repair)
  · exact map_thrice _ _ _ m.error
  · exact map_thrice _ _ _ m.peerLeft
  · exact map_thrice _ _ _ m.registered
  · exact map_thrice _ _ _ m.ping
  · exact map_thrice _ _ _ m.pong

theorem readJSON_writeJSON (m : Message) : readJSON (writeJSON m) = some m.received := by
  have ends : EndsNumber [0x0a] := by
    rintro c tail ⟨⟩
    decide +kernel
  rw [readJSON, writeJSON, decode_marshal messageType m.toVal [0x0a] (by decide +kernel) (by decide) ends, Option.map_some,
    Message.ofVal_repair]

theorem MessageType.text_ofText (written : Bytes) : (MessageType.ofText written).text = written := by
  unfold MessageType.ofText
  cases found : List.find? (fun t => decide (MessageType.text t = written))
      [.register, .registered, .paired, .signal, .error, .peerLeft, .ping, .pong] with
  | none => rfl
  | some t =>
    have holds := List.find?_some found
    exact of_decide_eq_true holds

theorem SignalKind.text_ofText (written : Bytes) : (SignalKind.ofText written).text = written := by
  unfold SignalKind.ofText
  cases found : List.find? (fun k => decide (SignalKind.text k = written)) [.offer, .answer, .ice] with
  | none => rfl
  | some k =>
    have holds := List.find?_some found
    exact of_decide_eq_true holds

theorem map_cancel {α β : Type} (f : α → β) (g : β → α) (cancel : ∀ b, f (g b) = b) (o : Option β) :
    (o.map g).map f = o := by
  cases o with
  | none => rfl
  | some b => exact congrArg some (cancel b)

theorem Signal.toVal_ofVal (v : signalType.Val) : (Signal.ofVal v).toVal = v := by
  obtain ⟨kind, sdp, candidate, ⟨⟩⟩ := v
  apply Prod.ext (SignalKind.text_ofText kind)
  apply Prod.ext (map_cancel _ _ (fun _ => rfl) sdp)
  exact Prod.ext (map_cancel _ _ (fun _ => rfl) candidate) rfl

theorem Message.toVal_ofVal (v : messageType.Val) : (Message.ofVal v).toVal = v := by
  obtain ⟨type, register, paired, signal, error, peerLeft, registered, ping, pong, ⟨⟩⟩ := v
  apply Prod.ext (MessageType.text_ofText type)
  apply Prod.ext (map_cancel _ _ (fun _ => rfl) register)
  apply Prod.ext (map_cancel _ _ (fun _ => rfl) paired)
  apply Prod.ext (map_cancel _ _ Signal.toVal_ofVal signal)
  apply Prod.ext (map_cancel _ _ (fun _ => rfl) error)
  apply Prod.ext (map_cancel _ _ (fun _ => rfl) peerLeft)
  apply Prod.ext (map_cancel _ _ (fun _ => rfl) registered)
  apply Prod.ext (map_cancel _ _ (fun _ => rfl) ping)
  exact Prod.ext (map_cancel _ _ (fun _ => rfl) pong) rfl

/-- A message that was read has nothing left to repair. -/
theorem readJSON_received (data : Bytes) (m : Message) (read : readJSON data = some m) : m.received = m := by
  obtain ⟨v, decoded, rfl⟩ := Option.map_eq_some_iff.mp read
  rw [← Message.ofVal_repair, Message.toVal_ofVal, decode_repaired messageType data v decoded]

/-- A message is read as it was written, up to the repair of its texts, and what was read once is read the same
    after any number of hops. -/
theorem wire_round_trip (m : Message) (data : Bytes) :
    readJSON (writeJSON m) = some m.received ∧ (readJSON data).bind (fun n => readJSON (writeJSON n)) = readJSON data := by
  refine ⟨readJSON_writeJSON m, ?_⟩
  cases read : readJSON data with
  | none => rfl
  | some n => rw [Option.bind_some, readJSON_writeJSON, readJSON_received data n read]

end Rtc2Tcp.Signaling

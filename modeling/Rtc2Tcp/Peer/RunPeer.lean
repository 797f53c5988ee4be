import Rtc2Tcp.Config.PeerMode
import Rtc2Tcp.Signaling.Messages
import Rtc2Tcp.WebRTC.StateMachine

namespace Rtc2Tcp.Peer

open Octets Go Signaling WebRTC

inductive RunError where
  | pairedWithoutPayload
  | duplicatePaired
  | transition
  | newSession
  | createOffer
  | sendSignal
  | signalWithoutPayload
  | signalBeforePairing
  | handleSignal
  | peerLeft (reason : Bytes)
  | unspecified
  | broker (code message : Bytes)
  | brokerClosed
  | authentication
  | listener
deriving DecidableEq, Repr

/-- What `runPeer`'s event loop works on. `session` is the id of the session once there is one,
    `detached` says that the loop no longer listens to the broker. -/
structure Process where
  mode : PeerMode
  state : SessionState
  session : Option Bytes
  closeOnce : Bool
  detached : Bool
  returned : Option (Option RunError)
deriving DecidableEq, Repr

/-- What the session and the connection to the broker answer while an event is handled: `offer` and
    `answer` are the results of `CreateOffer` and `HandleOffer`, `sent` that of sending a signal,
    `pcClosed` that of closing the peer connection. -/
structure Outcome where
  newSession : Bool := true
  offer : Option Bytes := some []
  answer : Option Bytes := some []
  applied : Bool := true
  sent : Bool := true
  pcClosed : Bool := true
deriving DecidableEq, Repr

namespace Process

def start (mode : PeerMode) : Process := ⟨mode, .rendezvous, none, false, false, none⟩

def PostAuth (p : Process) : Prop := p.state = .authenticated ∨ p.state = .streaming

instance (p : Process) : Decidable p.PostAuth := inferInstanceAs (Decidable (_ ∨ _))

/-- `Session.Fail`, if there is a session; only the first `fail` or `Close` has an effect. -/
def fail (p : Process) : Process :=
  if p.session = none ∨ p.closeOnce = true then p
  else
    { p with
      closeOnce := true
      state :=
        if p.state = .failed ∨ p.state = .closed then p.state
        else (p.state.transition .failed).getD p.state }

def close (p : Process) (pcClosed : Bool) : Process :=
  if p.session = none ∨ p.closeOnce = true then p
  else
    let state :=
      if p.state = .closed ∨ p.state = .failed then p.state
      else (p.state.transition .closing).getD p.state
    { p with
      closeOnce := true
      state := if pcClosed ∧ state = .closing then (state.transition .closed).getD state else state }

/-- The loop returns, and the deferred `Close` runs. -/
def finish (p : Process) (result : Option RunError) (x : Outcome) : Process :=
  { p.close x.pcClosed with returned := some result }

def failSession (p : Process) (e : RunError) (x : Outcome) : Process := p.fail.finish (some e) x

def onBrokerLoss (p : Process) : Process := { p with detached := true }

def offerSignal (sdp : Bytes) : Signal := { kind := .offer, sdp := some ⟨text "offer", sdp⟩ }

def answerSignal (sdp : Bytes) : Signal := { kind := .answer, sdp := some ⟨text "answer", sdp⟩ }

def handlePaired (p : Process) (paired : Option Paired) (x : Outcome) : Process × List Signal :=
  match paired with
  | none => (p.finish (some .pairedWithoutPayload) x, [])
  | some paired =>
    if p.session ≠ none then (p.finish (some .duplicatePaired) x, [])
    else
      match p.state.transition .signaling with
      | none => (p.finish (some .transition) x, [])
      | some state =>
        let p := { p with state := state }
        if x.newSession = false then (p.failSession .newSession x, [])
        else
          let p := { p with session := some paired.sessionID }
          if paired.initiator then
            match x.offer with
            | none => (p.failSession .createOffer x, [])
            | some offer =>
              if x.sent then (p, [offerSignal offer]) else (p.failSession .sendSignal x, [])
          else (p, [])

/-- `handleSignal`: the error, or the signals sent. -/
def handleSignal (signal : Signal) (x : Outcome) : Except RunError (List Signal) :=
  match signal.kind with
  | .offer =>
    match signal.sdp, x.answer with
    | some _, some answer => if x.sent then .ok [answerSignal answer] else .error .handleSignal
    | _, _ => .error .handleSignal
  | .answer => if signal.sdp ≠ none ∧ x.applied then .ok [] else .error .handleSignal
  | .ice => if signal.candidate ≠ none ∧ x.applied then .ok [] else .error .handleSignal
  | .unknown _ => .error .handleSignal

/-- One turn of the event loop on the broker's channel; no message is a closed channel. -/
def handleEvent (p : Process) (event : Option Message) (x : Outcome) : Process × List Signal :=
  match event with
  | none => if p.PostAuth then (p.onBrokerLoss, []) else (p.failSession .brokerClosed x, [])
  | some message =>
    match message.type with
    | .registered => (p, [])
    | .paired => p.handlePaired message.paired x
    | .signal =>
      match message.signal with
      | none => (p.failSession .signalWithoutPayload x, [])
      | some signal =>
        if p.session = none then (p.finish (some .signalBeforePairing) x, [])
        else
          match handleSignal signal x with
          | .error e => (p.failSession e x, [])
          | .ok signals => (p, signals)
    | .peerLeft =>
      let reason :=
        match message.peerLeft with
        | none => text "peer left"
        | some reason => if reason = [] then text "peer left" else reason
      (p.fail.finish (some (.peerLeft reason)) x, [])
    | .error =>
      match message.error with
      | none => (p.failSession .unspecified x, [])
      | some e =>
        if e.code = text "broker-read" ∧ p.PostAuth then (p.onBrokerLoss, [])
        else (p.failSession (.broker e.code e.message) x, [])
    | _ => (p, [])

variable (p : Process) (x : Outcome) (e : RunError)

@[simp] theorem fail_session : p.fail.session = p.session := by
  unfold fail
  split <;> rfl

@[simp] theorem fail_returned : p.fail.returned = p.returned := by
  unfold fail
  split <;> rfl

@[simp] theorem close_session (pcClosed : Bool) : (p.close pcClosed).session = p.session := by
  unfold close
  split <;> rfl

@[simp] theorem finish_session (result : Option RunError) : (p.finish result x).session = p.session :=
  close_session p x.pcClosed

@[simp] theorem finish_returned (result : Option RunError) : (p.finish result x).returned = some result := rfl

@[simp] theorem failSession_session : (p.failSession e x).session = p.session := by
  rw [failSession, finish_session, fail_session]

@[simp] theorem failSession_returned : (p.failSession e x).returned = some (some e) := rfl

def Lost (event : Option Message) : Prop :=
  event = none ∨ ∃ m e, event = some m ∧ m.type = .error ∧ m.error = some e ∧ e.code = text "broker-read"

inductive Turn (p : Process) (event : Option Message) : Process → Prop where
  | keeps (unpaired : ∀ m, event = some m → m.type ≠ .paired) : Turn p event p
  | detaches (authenticated : p.PostAuth) (lost : Lost event) : Turn p event p.onBrokerLoss
  | pairs (m : Message) (message : event = some m) (kind : m.type = .paired) (state : SessionState)
      (allowed : p.state.transition .signaling = some state) (id : Bytes) :
      Turn p event { p with state := state, session := some id }
  | ends (after : Process) (e : RunError) (returned : after.returned = some (some e))
      (kept : p.session ≠ none → after.session ≠ none) (fatal : ¬(p.PostAuth ∧ Lost event))
      (early : e = .signalBeforePairing → p.session = none ∧ ∃ m, event = some m ∧ m.type = .signal) :
      Turn p event after

variable {p x e}

theorem Lost.kind {m : Message} (lost : Lost (some m)) : m.type = .error := by
  rcases lost with none | ⟨m', _, same, kind, _⟩
  · cases none
  · cases same
    exact kind

theorem Turn.stops {event : Option Message} (q : Process) (e : RunError) (same : p.session ≠ none → q.session ≠ none)
    (fatal : ¬(p.PostAuth ∧ Lost event)) (other : e ≠ .signalBeforePairing) : Turn p event (q.finish (some e) x) :=
  .ends _ e rfl (by simpa using same) fatal (fun this => absurd this other)

theorem handlePaired_turn (m : Message) (kind : m.type = .paired) :
    Turn p (some m) (p.handlePaired m.paired x).1 := by
  have fatal : ¬(p.PostAuth ∧ Lost (some m)) := by
    rintro ⟨_, lost⟩
    rw [lost.kind] at kind
    cases kind
  unfold handlePaired
  split
  · exact .stops p .pairedWithoutPayload (fun held => held) fatal (by simp)
  · rename_i paired payload
    split
    · exact .stops p .duplicatePaired (fun held => held) fatal (by simp)
    · split
      · exact .stops p .transition (fun held => held) fatal (by simp)
      · rename_i state allowed
        dsimp only
        split
        · exact .stops _ .newSession (by simp) fatal (by simp)
        · split
          · split
            · exact .stops _ .createOffer (by simp) fatal (by simp)
            · split
              · exact .pairs m rfl kind state allowed paired.sessionID
              · exact .stops _ .sendSignal (by simp) fatal (by simp)
          · exact .pairs m rfl kind state allowed paired.sessionID

theorem handleSignal_error (signal : Signal) (failed : handleSignal signal x = .error e) : e = .handleSignal := by
  unfold handleSignal at failed
  repeat' split at failed
  all_goals cases failed
  all_goals rfl

theorem handleEvent_turn (event : Option Message) : Turn p event (p.handleEvent event x).1 := by
  cases event with
  | none =>
    simp only [handleEvent]
    split
    · rename_i authenticated
      exact .detaches authenticated (.inl rfl)
    · rename_i early
      exact .stops _ .brokerClosed (by simp) (fun both => early both.1) (by simp)
  | some m =>
    have fatal : m.type ≠ .error → ¬(p.PostAuth ∧ Lost (some m)) := fun other both => other both.2.kind
    have keeps : m.type ≠ .paired → Turn p (some m) p := by
      intro other
      refine .keeps ?_
      rintro m' ⟨⟩
      exact other
    cases kind : m.type with
    | paired =>
      simp only [handleEvent, kind]
      exact handlePaired_turn m kind
    | signal =>
      have mild := fatal (by rw [kind]; simp)
      simp only [handleEvent, kind]
      split
      · exact .stops _ .signalWithoutPayload (by simp) mild (by simp)
      · split
        · rename_i none
          exact .ends _ .signalBeforePairing rfl (by simp) mild (fun _ => ⟨none, m, rfl, kind⟩)
        · split
          · rename_i error failed
            have shape := handleSignal_error _ failed
            subst shape
            exact .stops _ .handleSignal (by simp) mild (by simp)
          · exact keeps (by rw [kind]; simp)
    | peerLeft =>
      simp only [handleEvent, kind]
      exact .stops _ (.peerLeft _) (by simp) (fatal (by rw [kind]; simp)) (by simp)
    | error =>
      simp only [handleEvent, kind]
      split
      · rename_i missing
        refine .stops _ .unspecified (by simp) ?_ (by simp)
        rintro ⟨_, none | ⟨m', e, same, _, found, _⟩⟩
        · cases none
        · cases same
          rw [missing] at found
          cases found
      · rename_i payload found
        split
        · rename_i lost
          exact .detaches lost.2 (.inr ⟨m, payload, rfl, kind, found, lost.1⟩)
        · rename_i other
          refine .stops _ (.broker _ _) (by simp) ?_ (by simp)
          rintro ⟨authenticated, none | ⟨m', e, same, _, found', code⟩⟩
          · cases none
          · cases same
            rw [found] at found'
            cases found'
            exact other ⟨code, authenticated⟩
    | _ =>
      simp only [handleEvent, kind]
      exact keeps (by rw [kind]; simp)

end Process

end Rtc2Tcp.Peer

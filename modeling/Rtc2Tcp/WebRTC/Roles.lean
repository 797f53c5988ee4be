import Rtc2Tcp.Signaling.Messages
import Rtc2Tcp.WebRTC.Hello

namespace Rtc2Tcp.WebRTC

open Octets Go Auth Goroutine

open Prog (perform)

/-- The configuration that `runPeer` gives a session for a `paired` message. The broker's flag is
    passed on as it is. -/
def pairedConfig {A : Authenticator} (mode : PeerMode) (paired : Signaling.Paired) (authenticator : A.State) :
    SessionConfig A where
  mode := mode
  sessionID := paired.sessionID
  initiator := paired.initiator
  authenticator := authenticator
  stateMachine := .signaling

/-- The event on which a peer of the mode speaks first: a connecting peer when its control channel opens, the other
    when it gets a message there. -/
def Call.prompts (mode : PeerMode) : Call → Bool
  | .controlOpen _ => decide (mode = .connect)
  | .controlMessage _ _ => decide (mode ≠ .connect)
  | _ => false

variable {P : Primitives} {mode : PeerMode}

section Discipline

/-- A session that was not prompted: it has sent nothing, and none of the two ways to speak is open. -/
structure Mute (mode : PeerMode) (x : Recorded (interactive P)) : Prop where
  kept : x.1.mode = mode
  silent : ∀ message ok, .sent message ok ∉ x.2
  outside : x.1.state ≠ .authenticated ∧ x.1.state ≠ .streaming
  unopened : mode = .connect → x.1.controlOpen = false
  unstarted : mode = .connect → (x.1.authenticator : InteractiveAuthenticator P).Unstarted

def muteNeeds (mode : PeerMode) : {β : Type} → Op β → Prop
  | _, .sendText _ _ => False
  | _, .transition next => next ≠ .authenticated
  | _, .openControl => mode ≠ .connect
  | _, .authStart => False
  | _, .authStep _ => mode = .connect
  | _, _ => True

def muteGives (mode : PeerMode) : {β : Type} → Op β → β → Prop
  | _, .controlIsOpen, opened => mode = .connect → opened = false
  | _, .claimStart, granted => mode ≠ .connect → granted = false
  | _, .authStep _, result => result.err ≠ none
  | _, _, _ => True

theorem mute_outside {β : Type} (op : Op β) (c : Choice) (s t : Session (interactive P)) (result : β)
    (need : muteNeeds mode op) (outside : s.state ≠ .authenticated ∧ s.state ≠ .streaming)
    (executed : Session.exec op c s = some (result, t)) : t.state ≠ .authenticated ∧ t.state ≠ .streaming := by
  have framed := Session.exec_frame op c s t result executed
  cases op with
  | transition next =>
    rcases exec_transition executed with ⟨moved, _⟩ | ⟨_, same, _⟩
    · obtain ⟨arrived, _⟩ := SessionState.transition_cases _ _ _ moved
      refine ⟨fun authenticated => need (arrived.symm.trans authenticated), fun streaming => ?_⟩
      rw [← arrived, streaming] at moved
      rcases SessionState.transition_streaming _ _ moved with before | before
      · exact outside.1 before
      · exact outside.2 before
    · rw [same]
      exact outside
  | _ =>
    rw [framed.state rfl]
    exact outside

theorem mute_unstarted {β : Type} (op : Op β) (c : Choice) (s t : Session (interactive P)) (result : β)
    (connects : s.mode = .connect) (need : muteNeeds mode op)
    (unstarted : (s.authenticator : InteractiveAuthenticator P).Unstarted)
    (executed : Session.exec op c s = some (result, t)) :
    (t.authenticator : InteractiveAuthenticator P).Unstarted := by
  have framed := Session.exec_frame op c s t result executed
  cases op with
  | authStart => exact need.elim
  | authStep inbound =>
    obtain rfl : (s.authStep inbound).2 = t := congrArg Prod.snd (Option.some.inj executed)
    simp only [Session.authStep]
    split <;> exact (unstarted.step inbound).2
  | bindLocked =>
    obtain rfl : s.bindLocked.2 = t := congrArg Prod.snd (Option.some.inj executed)
    have bound : InteractiveAuthenticator.Unstarted (P := P) ((interactive P).bind s.authenticator s.material).2 :=
      unstarted.bind connects
    have tried := bindLocked_tried s
    generalize s.bindLocked = attempt at tried
    obtain ⟨outcome, after⟩ := attempt
    generalize Session.note .bindLocked outcome s = deeds at tried
    cases tried with
    | detached | already | early => exact unstarted
    | refused e a unbound called =>
      rw [called] at bound
      exact bound
    | bound control a unbound called =>
      rw [called] at bound
      exact bound
  | _ =>
    rw [framed.authenticator rfl]
    exact unstarted

theorem mute_sound {β : Type} (op : Op β) (c : Choice) (x y : Recorded (interactive P)) (result : β)
    (inv : Mute mode x) (need : muteNeeds mode op)
    (executed : (recordedMachine (interactive P)).exec op c x = some (result, y)) :
    Mute mode y ∧ muteGives mode op result := by
  obtain ⟨executed, deeds⟩ := recorded_exec executed
  have framed := Session.exec_frame op c x.1 y.1 result executed
  refine ⟨⟨framed.mode.trans inv.kept, ?_, mute_outside op c x.1 y.1 result need inv.outside executed, ?_, ?_⟩, ?_⟩
  · intro message ok member
    rw [deeds] at member
    rcases List.mem_append.mp member with member | member
    · exact inv.silent message ok member
    · have sends := note_sent op result x.1 message ok member
      cases op with
      | sendText => exact need
      | _ => cases sends
  · intro connects
    cases op with
    | openControl => exact absurd connects need
    | _ =>
      rw [framed.controlOpen rfl]
      exact inv.unopened connects
  · intro connects
    exact mute_unstarted op c x.1 y.1 result (inv.kept.trans connects) need (inv.unstarted connects) executed
  · cases op with
    | controlIsOpen =>
      obtain rfl : x.1.controlOpen = result := congrArg Prod.fst (Option.some.inj executed)
      exact inv.unopened
    | claimStart =>
      intro exposes
      have asked : x.1.mode ≠ .connect ∨ x.1.authStarted = true := .inl (by rw [inv.kept]; exact exposes)
      simp only [Session.exec, if_pos asked] at executed
      exact (congrArg Prod.fst (Option.some.inj executed)).symm
    | authStep inbound =>
      obtain rfl : (x.1.authStep inbound).1 = result := congrArg Prod.fst (Option.some.inj executed)
      exact ((inv.unstarted need).step inbound).1
    | _ => trivial

variable (P mode) in
def muteDiscipline : Discipline (recordedMachine (interactive P)) where
  inv := Mute mode
  grows _ _ := True
  refl _ := trivial
  trans _ _ _ _ _ := trivial
  meets _ _ := True
  needs op _ := muteNeeds mode op
  gives op result _ := muteGives mode op result
  sound op c x y result inv _ need executed := by
    obtain ⟨holds, given⟩ := mute_sound op c x y result inv need executed
    exact ⟨holds, trivial, given⟩

abbrev MuteSafe (mode : PeerMode) {α : Type} (p : Prog Op α) : Prop :=
  ∀ x : Recorded (interactive P), Safe (muteDiscipline P mode) (fun _ _ => True) p x

theorem mute_op {α : Type} (op : Op α) (needed : muteNeeds mode op) : MuteSafe (P := P) mode (perform op) :=
  Voiced.op fun _ => needed

theorem mute_ending {α : Type} (op : Op α) (ends : op.ending = true) : MuteSafe (P := P) mode (perform op) := by
  refine mute_op op ?_
  cases op with
  | sendText | openControl | authStart | authStep => cases ends
  | transition next =>
    rintro rfl
    cases ends
  | _ => trivial

theorem mute_composed : Composed fun p => MuteSafe (P := P) mode p := by
  refine safe_sequenced.composed mute_ending ?_
  intro α op plain
  refine mute_op op ?_
  cases op with
  | sendText | openControl | authStart | authStep => cases plain
  | transition next =>
    rintro rfl
    cases plain
  | _ => trivial

theorem mute_maybeSendAuth : MuteSafe (P := P) mode maybeSendAuth := by
  have C : Composed fun p => MuteSafe (P := P) mode p := mute_composed
  unfold maybeSendAuth
  refine C.bind (C.plain _ rfl) fun pending => ?_
  split
  · exact C.pure _
  · refine Voiced.next (fun _ => trivial) fun opened given => ?_
    obtain ⟨_, closed⟩ := given
    split
    · exact C.pure _
    · rename_i isOpen
      have exposes : mode ≠ .connect := fun connects => isOpen (by simp [closed connects])
      refine C.bind (mute_op _ trivial) fun tried => ?_
      split
      · exact C.pure _
      · exact C.fail _
      · refine Voiced.next (fun _ => trivial) fun granted given => ?_
        obtain ⟨_, refused⟩ := given
        split
        · rename_i claimed
          cases (refused exposes).symm.trans claimed
        · exact C.pure _

theorem mute_handleControlMessage (connects : mode = .connect) (decodeMessage : Bytes → Option Message) (data : Bytes) :
    MuteSafe (P := P) mode (handleControlMessage decodeMessage data) := by
  have C : Composed fun p => MuteSafe (P := P) mode p := mute_composed
  unfold handleControlMessage
  refine C.bind (C.plain _ rfl) fun pending => ?_
  split
  · exact C.pure _
  · split
    · exact C.pure _
    · refine C.bind (mute_op _ trivial) fun tried => ?_
      split
      · exact C.pure _
      · refine Voiced.next (fun _ => connects) fun result given => ?_
        obtain ⟨_, failed⟩ := given
        split
        · exact C.pure _
        · rename_i clean
          exact absurd clean failed

theorem mute_body (unmarshalString : Bytes → Option SessionDescription) (decodeMessage : Bytes → Option Message)
    (hasOnStream : Bool) (call : Call) (unprompted : call.prompts mode = false) :
    MuteSafe (P := P) mode (body unmarshalString decodeMessage hasOnStream call) := by
  have C : Composed fun p => MuteSafe (P := P) mode p := mute_composed
  have entering : MuteSafe (P := P) mode (perform (.transition .authPending)) := mute_op _ (by rintro ⟨⟩)
  cases call with
  | controlOpen dc =>
    have exposes : mode ≠ .connect := by simpa [Call.prompts] using unprompted
    exact C.map _ (C.bind (mute_op .openControl exposes) fun _ => mute_maybeSendAuth)
  | controlMessage dc data =>
    have connects : mode = .connect := by simpa [Call.prompts] using unprompted
    exact C.map _ (C.onControlMessage decodeMessage data (mute_handleControlMessage connects decodeMessage data))
  | _ =>
    exact C.others unmarshalString decodeMessage entering mute_maybeSendAuth (fun _ => mute_op _ trivial)
      (C.setRemoteDescription unmarshalString (fun _ => mute_op _ trivial) (fun _ _ => mute_op _ trivial)
        (fun _ => mute_op _ trivial) entering mute_maybeSendAuth)
      (fun candidate => C.addRemoteCandidate candidate (mute_op _ trivial) (mute_op _ trivial))
      (safe_sequenced.close mute_ending) (fun _ => mute_op _ trivial) hasOnStream _ rfl

end Discipline

section Runs

variable (unmarshalString : Bytes → Option SessionDescription) (decodeMessage : Bytes → Option Message)
  (hasOnStream : Bool)

/-- As long as the event that prompts a peer of its mode has not come, a session whose roles disagree sends no
    authentication message and is not authenticated. -/
theorem role_agreement (secret scheme : Bytes) (rng : P.Reader) (a : InteractiveAuthenticator P)
    (fresh : newInteractiveAuthenticator secret scheme rng = .ok a) (mode : PeerMode) (paired : Signaling.Paired)
    (created : Bool) (control : Option DataChannel) (s : Session (interactive P))
    (ok : newSession (pairedConfig mode paired a) created control = .ok s) (moves : List (Move Choice Call))
    (p : Pool Op (Recorded (interactive P)) Call Outcome)
    (ran : (recordedSystem unmarshalString decodeMessage (interactive P) hasOnStream).run ⟨(s, []), []⟩ moves = some p)
    (met : paired.initiator = decide (mode = .connect) ∨ ∀ call, .spawn call ∈ moves → call.prompts mode = false) :
    paired.initiator ≠ decide (mode = .connect) →
      (∀ message sent, .sent message sent ∉ p.shared.2) ∧
        p.shared.1.state ≠ .authenticated ∧ p.shared.1.state ≠ .streaming := by
  intro disagree
  have unprompted := met.resolve_left disagree
  let system := recordedSystem unmarshalString decodeMessage (interactive P) hasOnStream
  let D : Discipline system.toMachine := muteDiscipline P mode
  have starts := newSession_starts _ created control s ok
  obtain ⟨_, _, init, unbound, _, _⟩ := InteractiveAuthenticator.newInteractiveAuthenticator_fresh _ _ _ _ fresh
  have unstarted : (s.authenticator : InteractiveAuthenticator P).Unstarted := by
    rw [starts.authenticator]
    refine ⟨fun bound => ?_, ?_⟩
    · cases unbound.symm.trans bound
    · intro waiting
      cases init.symm.trans waiting
  have initial : Certified D (fun _ _ _ _ => True)
      (⟨(s, []), []⟩ : Pool Op (Recorded (interactive P)) Call Outcome) := by
    refine ⟨⟨starts.mode, fun _ _ => List.not_mem_nil, ?_, fun _ => starts.controlOpen, fun _ => unstarted⟩, by simp⟩
    rw [starts.state]
    decide
  obtain ⟨certified, _⟩ := certified_run_calls _ p moves initial
    (fun call x y entered holds => by
      rw [recorded_enter unmarshalString decodeMessage hasOnStream call x y entered]
      exact ⟨holds, trivial⟩)
    (fun i call x made _ _ => mute_body unmarshalString decodeMessage hasOnStream call (unprompted call made) x)
    (D.metBy_always (fun _ _ => trivial) _ _) ran
  exact ⟨certified.inv.silent, certified.inv.outside⟩

end Runs

section LyingBroker

def lyingPaired : Signaling.Paired := ⟨text "session-1", false, text "expose"⟩

def waitingConfig : SessionConfig (interactive InteractiveAuthenticator.vectors) :=
  pairedConfig .connect lyingPaired (InteractiveAuthenticator.vectorFresh InteractiveAuthenticator.initiatorKey.val)

def waitingSession : Session (interactive InteractiveAuthenticator.vectors) :=
  { connectedSession with control := none, onOpen := [], onMessage := [], onClose := [] }

def waitingOffer : List (Move Choice Call) := offerMoves 0 12 (channelSDP firstPrint)

def waitingOpen : List (Move Choice Call) :=
  .spawn (.dataChannel controlDC) :: List.replicate 4 (.run 1 granted) ++
    .spawn (.controlOpen controlDC) :: List.replicate 7 (.run 2 granted)

def Deed.greets : Deed → Bool
  | .sent message ok => decide (message.kind = .hello) && ok
  | _ => false

/-- It answers the offer, takes the control channel it is offered and sends its hello. -/
theorem disagreeing_hello :
    lyingPaired.initiator ≠ decide (PeerMode.connect = .connect) ∧
    newSession waitingConfig true none = .ok waitingSession ∧
    ∃ p, connectSystem.run ⟨(waitingSession, []), []⟩ (waitingOffer ++ waitingOpen) = some p ∧
      ∃ message, message.kind = .hello ∧ .sent message true ∈ p.shared.2 := by
  have summary : (connectSystem.run ⟨(waitingSession, []), []⟩ (waitingOffer ++ waitingOpen)).map
      (fun p => p.shared.2.any Deed.greets) = some true := by decide +kernel
  obtain ⟨p, ran, sent⟩ := Option.map_eq_some_iff.mp summary
  refine ⟨by decide, by rfl, p, ran, ?_⟩
  obtain ⟨d, member, hello⟩ := List.any_eq_true.mp sent
  cases d with
  | sent message ok =>
    obtain ⟨kind, rfl⟩ : message.kind = .hello ∧ ok = true := by simpa [Deed.greets] using hello
    exact ⟨message, kind, member⟩
  | _ => cases hello

theorem role_agreement_waiting :
    lyingPaired.initiator ≠ decide (PeerMode.connect = .connect) ∧
    newSession waitingConfig true none = .ok waitingSession ∧
    ∃ p, connectSystem.run ⟨(waitingSession, []), []⟩ waitingOffer = some p ∧ p.shared.1.state = .authPending ∧
      ∀ message sent, .sent message sent ∉ p.shared.2 := by
  have made : newSession waitingConfig true none = .ok waitingSession := by rfl
  have disagree : lyingPaired.initiator ≠ decide (PeerMode.connect = .connect) := by decide
  have summary : (connectSystem.run ⟨(waitingSession, []), []⟩ waitingOffer).map (fun p => p.shared.1.state) =
      some .authPending := by decide +kernel
  obtain ⟨p, ran, pending⟩ := Option.map_eq_some_iff.mp summary
  have unprompted : ∀ call, .spawn call ∈ waitingOffer → call.prompts .connect = false := by
    intro call made
    simp [waitingOffer, offerMoves] at made
    rw [made]
    rfl
  refine ⟨disagree, made, p, ran, pending, ?_⟩
  have fresh : newInteractiveAuthenticator InteractiveAuthenticator.vectorSecret Scheme.transitionalV2.name
      InteractiveAuthenticator.initiatorKey.val =
      .ok (InteractiveAuthenticator.vectorFresh InteractiveAuthenticator.initiatorKey.val) := rfl
  exact (role_agreement parseChannel (fun _ => none) true _ _ _ _ fresh .connect lyingPaired true none
    waitingSession made waitingOffer p ran (.inr unprompted) disagree).1

end LyingBroker

end Rtc2Tcp.WebRTC

import Rtc2Tcp.Auth.Handshake
import Rtc2Tcp.WebRTC.Methods

namespace Rtc2Tcp.WebRTC

open Octets Go Auth Goroutine

open Prog (perform)

variable {A : Authenticator}

/-- The authenticator's `Step` has returned done without error. -/
def StepDone (s : Session A) : Prop := Event.stepDone ∈ s.events

/-- Every stream handed over comes after a step that was done. -/
def Guarded (events : List Event) : Prop :=
  ∀ before dc after, events = before ++ .stream dc :: after → Event.stepDone ∈ before

theorem Guarded.append {events : List Event} (guarded : Guarded events) (e : Event)
    (allowed : (∃ dc, e = .stream dc) → Event.stepDone ∈ events) : Guarded (events ++ [e]) := by
  intro before dc after split
  rcases List.eq_nil_or_concat after with rfl | ⟨more, last, rfl⟩
  · obtain ⟨rfl, same⟩ := List.append_inj' split rfl
    exact allowed ⟨dc, List.head_eq_of_cons_eq same⟩
  · rw [List.concat_eq_append, ← List.cons_append, ← List.append_assoc] at split
    obtain ⟨same, _⟩ := List.append_inj' split rfl
    exact guarded before dc more same

def gateNeeds : {β : Type} → Op β → Session A → Prop
  | _, .completeAuthResult _ authenticated, s => authenticated = true → StepDone s
  | _, .onStream _, s => StepDone s
  | _, _, _ => True

def gateGives : {β : Type} → Op β → β → Session A → Prop
  | _, .isOneOf states, yes, s => yes = true → s.state ∈ states
  | _, .authStep _, result, s => result.done = true → result.err = none → StepDone s
  | _, .readAuthenticated, yes, s => yes = true → StepDone s
  | _, _, _, _ => True

structure GateInv (s : Session A) : Prop where
  flag : s.authenticated = true → StepDone s
  guarded : Guarded s.events

/-- What the other threads may do to a session: calls are added, and its end is final. -/
structure GateGrows (s t : Session A) : Prop where
  events : s.events <+: t.events
  final : s.state.Over → t.state.Over

theorem GateGrows.stepDone {s t : Session A} (grown : GateGrows s t) (done : StepDone s) : StepDone t :=
  grown.events.subset done

theorem gate_recorded (s t : Session A) (e : Event) (inv : GateInv s) (events : t.events = s.events ++ [e])
    (state : t.state = s.state) (authenticated : t.authenticated = s.authenticated)
    (allowed : (∃ dc, e = .stream dc) → StepDone s) : GateInv t ∧ GateGrows s t := by
  have grown : GateGrows s t := ⟨by rw [events]; exact List.prefix_append _ _, by rw [state]; exact id⟩
  refine ⟨⟨?_, ?_⟩, grown⟩
  · intro flag
    exact grown.stepDone (inv.flag (authenticated ▸ flag))
  · rw [events]
    exact inv.guarded.append e allowed

theorem gate_same (s t : Session A) (inv : GateInv s) (events : t.events = s.events)
    (final : s.state.Over → t.state.Over) (flag : t.authenticated = true → StepDone s) :
    GateInv t ∧ GateGrows s t := by
  have grown : GateGrows s t := ⟨⟨[], by rw [events, List.append_nil]⟩, final⟩
  exact ⟨⟨fun set => grown.stepDone (flag set), by rw [events]; exact inv.guarded⟩, grown⟩

theorem gate_sound {β : Type} (op : Op β) (c : Choice) (s t : Session A) (result : β) (inv : GateInv s)
    (need : gateNeeds op s) (executed : Session.exec op c s = some (result, t)) :
    (GateInv t ∧ GateGrows s t) ∧ gateGives op result t := by
  have framed := Session.exec_frame op c s t result executed
  have sideways : op.writes .events = false → op.writes .state = false → op.writes .authenticated = false →
      GateInv t ∧ GateGrows s t := by
    intro events state authenticated
    refine gate_same s t inv (framed.events events) ?_ ?_
    · rw [framed.state state]
      exact id
    · rw [framed.authenticated authenticated]
      exact inv.flag
  cases op with
  | transition next =>
    refine ⟨?_, trivial⟩
    simp only [Session.exec] at executed
    split at executed
    · rename_i after moved
      cases executed
      exact gate_same _ _ inv rfl (fun ended => SessionState.transition_over _ _ _ ended moved) inv.flag
    · cases executed
      exact gate_same _ _ inv rfl id inv.flag
  | pcSetRemoteDescription type sdp =>
    refine ⟨?_, trivial⟩
    simp only [Session.exec] at executed
    split at executed
    · split at executed
      · cases executed
        exact gate_recorded _ _ (.remoteApplied sdp) inv rfl rfl rfl (by rintro ⟨_, other⟩; cases other)
      · cases executed
        exact gate_same _ _ inv rfl id inv.flag
    · cases executed
      exact gate_same _ _ inv rfl id inv.flag
  | bindLocked =>
    refine ⟨?_, trivial⟩
    obtain rfl : s.bindLocked.2 = t := congrArg Prod.snd (Option.some.inj executed)
    rcases bindLocked_cases s with same | ⟨a, bound, material, _, _, same⟩
    · rw [same]
      exact gate_same _ _ inv rfl id inv.flag
    · rw [same]
      exact gate_recorded _ _ (.bind material) inv rfl rfl rfl (by rintro ⟨_, other⟩; cases other)
  | authStep inbound =>
    simp only [Session.exec, Session.authStep] at executed
    split at executed
    · rename_i done
      cases executed
      refine ⟨gate_recorded _ _ .stepDone inv rfl rfl rfl (by rintro ⟨_, other⟩; cases other), ?_⟩
      intro _ _
      exact List.mem_append_right _ List.mem_cons_self
    · rename_i undone
      cases executed
      refine ⟨gate_same _ _ inv rfl id inv.flag, ?_⟩
      intro done clean
      exact absurd ⟨done, clean⟩ undone
  | completeAuthResult err authenticated =>
    refine ⟨?_, trivial⟩
    simp only [Session.exec, Session.completeAuthResult] at executed
    split at executed
    · cases executed
      exact gate_same _ _ inv rfl id inv.flag
    · cases executed
      exact gate_same _ _ inv rfl id need
  | onStream dc =>
    cases executed
    exact ⟨gate_recorded _ _ (.stream dc) inv rfl rfl rfl (fun _ => need), trivial⟩
  | isOneOf states =>
    refine ⟨sideways rfl rfl rfl, ?_⟩
    cases executed
    intro yes
    simpa using yes
  | readAuthenticated =>
    refine ⟨sideways rfl rfl rfl, ?_⟩
    cases executed
    intro yes
    simp only [decide_eq_true_eq] at yes
    exact inv.flag yes.2
  | _ => exact ⟨sideways rfl rfl rfl, trivial⟩

def gateDiscipline (A : Authenticator) : Discipline (machine A) where
  inv := GateInv
  grows := GateGrows
  refl s := ⟨List.prefix_refl _, id⟩
  trans s t u first second := ⟨first.events.trans second.events, second.final ∘ first.final⟩
  meets _ _ := True
  needs := gateNeeds
  gives := gateGives
  sound op c s t result inv _ need executed := by
    obtain ⟨⟨holds, grown⟩, given⟩ := gate_sound op c s t result inv need executed
    exact ⟨holds, grown, given⟩

section Programs

def Op.guarded : {β : Type} → Op β → Bool
  | _, .completeAuthResult _ authenticated => authenticated
  | _, .onStream _ => true
  | _, _ => false

theorem needless {β : Type} (op : Op β) (unguarded : op.guarded = false) (s : Session A) : gateNeeds op s := by
  cases op with
  | completeAuthResult err authenticated =>
    intro set
    rw [set] at unguarded
    cases unguarded
  | onStream dc => cases unguarded
  | _ => trivial

theorem free_op {β : Type} {op : Op β} (unguarded : op.guarded = false) :
    Free (gateDiscipline A) (perform op) :=
  .perform (needless op unguarded)

theorem gate_sequenced : Sequenced fun p => Free (gateDiscipline A) p where
  pure value := Free.pure value
  bind first rest := Free.bind first rest

theorem gate_ending {α : Type} (op : Op α) (ends : op.ending = true) : Free (gateDiscipline A) (perform op) := by
  refine free_op ?_
  cases op with
  | completeAuthResult err authenticated =>
    cases authenticated with
    | true => simp [Op.ending] at ends
    | false => rfl
  | onStream => cases ends
  | _ => rfl

theorem gate_composed : Composed fun p => Free (gateDiscipline A) p := by
  refine gate_sequenced.composed gate_ending ?_
  intro α op plain
  refine free_op ?_
  cases op with
  | completeAuthResult | onStream => cases plain
  | _ => rfl

theorem free_maybeSendAuth : Free (gateDiscipline A) maybeSendAuth :=
  gate_composed.maybeSendAuth (free_op rfl) (free_op rfl) (free_op rfl) fun _ _ => free_op rfl

variable (unmarshalString : Bytes → Option SessionDescription) (decodeMessage : Bytes → Option Message)

theorem free_setRemoteDescription (type : SDPType) (sdp : Bytes) :
    Free (gateDiscipline A) (setRemoteDescription unmarshalString type sdp) :=
  gate_composed.setRemoteDescription unmarshalString (fun _ => free_op rfl) (fun _ _ => free_op rfl)
    (fun _ => free_op rfl) (free_op rfl) free_maybeSendAuth type sdp

theorem free_describe (type : SDPType) : Free (gateDiscipline A) (describe unmarshalString type) :=
  gate_composed.describe unmarshalString (free_op rfl) free_maybeSendAuth (fun _ => free_op rfl) type

theorem free_handleOffer (offer : Bytes) : Free (gateDiscipline A) (handleOffer unmarshalString offer) :=
  gate_composed.handleOffer unmarshalString (free_op rfl) free_maybeSendAuth (fun _ => free_op rfl) offer
    (free_setRemoteDescription unmarshalString .offer offer)

theorem free_sendOutbound (control : DataChannel) (result : InteractiveAuthenticator.StepResult) :
    Free (gateDiscipline A) (sendOutbound control result) := by
  unfold sendOutbound
  split
  · exact free_op (by rfl)
  · exact Free.pure _

abbrev GateSafe {α : Type} (post : α → Session A → Prop) (p : Prog Op α) (s : Session A) : Prop :=
  Safe (gateDiscipline A) post p s

theorem safe_finishAuth (s : Session A) (done : StepDone s) : GateSafe (fun _ _ => True) finishAuth s := by
  refine Safe.bind ((free_op (by rfl)).safe s) fun refused t _ grown _ => ?_
  split
  · exact (Free.pure _).safe t
  · have doneT := grown.stepDone done
    refine Safe.bind (Safe.perform (fun u _ later _ => ?_) (fun _ _ _ _ _ => trivial) fun _ _ _ _ _ _ => trivial)
      fun _ u _ _ _ => (Free.pure _).safe u
    exact fun _ => later.stepDone doneT

theorem safe_handleControlMessage (data : Bytes) (s : Session A) :
    GateSafe (fun _ _ => True) (handleControlMessage decodeMessage data) s := by
  unfold handleControlMessage
  refine Safe.bind ((free_op (by rfl)).safe s) fun pending t _ _ _ => ?_
  split
  · exact (Free.pure _).safe t
  · split
    · exact (Free.pure _).safe t
    · rename_i inbound decoded
      refine Safe.bind ((free_op (by rfl)).safe t) fun bound u _ _ _ => ?_
      split
      · exact (Free.pure _).safe u
      · rename_i control
        -- the step that is done is the last thing before the flag is set
        have stepSafe : GateSafe (fun result v => result.done = true → result.err = none → StepDone v)
            (perform (.authStep inbound)) u :=
          Safe.perform (fun _ _ _ _ => trivial) (fun _ _ _ _ given => given)
            fun _ _ _ _ grown done stepped clean => grown.stepDone (done stepped clean)
        refine Safe.bind stepSafe fun result v _ _ done => ?_
        split
        · exact (Free.pure _).safe v
        · rename_i clean
          refine Safe.bind ((free_sendOutbound control result).safe v) fun sent w _ grown _ => ?_
          split
          · exact (Free.pure _).safe w
          · split
            · rename_i stepped
              exact safe_finishAuth w (grown.stepDone (done stepped clean))
            · exact (Free.pure _).safe w

theorem safe_gate (refusal : SessionError) (s : Session A) :
    GateSafe (fun refused t => refused = none → StepDone t ∧ ¬ s.state.Over) (gate refusal) s := by
  unfold gate
  have alive : GateSafe (fun yes _ => yes = true → ¬ s.state.Over)
      (perform (.isOneOf [.authenticated, .streaming])) s := by
    refine Safe.perform (fun _ _ _ _ => trivial) ?_ fun _ _ _ _ _ live => live
    intro yes t _ grown given passed closed
    have member := given passed
    rcases grown.final closed with ended | ended | ended <;> rw [ended] at member <;> revert member <;> decide
  have flag : ∀ t : Session A, GateSafe (fun yes u => yes = true → StepDone u) isAuthenticated t := by
    intro t
    unfold isAuthenticated
    refine Safe.bind ((free_op (by rfl)).safe t) fun ready v _ _ _ => ?_
    split
    · exact Safe.perform (fun _ _ _ _ => trivial) (fun _ _ _ _ given => given)
        fun _ _ _ _ grown done passed => grown.stepDone (done passed)
    · exact Safe.pure fun _ _ _ impossible => by cases impossible
  refine Safe.bind alive fun live t _ _ alive => ?_
  split
  · rename_i passed
    refine Safe.bind (flag t) fun authenticated u _ _ done => ?_
    split
    · rename_i yes
      exact Safe.pure fun w _ grown _ => ⟨grown.stepDone (done yes), alive passed⟩
    · exact Safe.pure fun _ _ _ impossible => by cases impossible
  · exact Safe.pure fun _ _ _ impossible => by cases impossible

theorem safe_openStreamChannel (label : Bytes) (s : Session A) :
    GateSafe (fun result t => ∀ dc, result = .ok dc → StepDone t ∧ ¬ s.state.Over) (openStreamChannel label) s := by
  unfold openStreamChannel
  refine Safe.bind (safe_gate .notAuthenticated s) fun refused t _ _ passed => ?_
  split
  · exact Safe.pure fun _ _ _ _ impossible => by cases impossible
  · refine Safe.bind ((free_op (by rfl)).safe t) fun made u _ grownU _ => ?_
    split
    · exact Safe.pure fun _ _ _ _ impossible => by cases impossible
    · refine Safe.bind ((free_op (by rfl)).safe u) fun error v _ grownV _ => ?_
      split
      · refine Safe.bind ((free_op (by rfl)).safe v) fun _ w _ _ _ => ?_
        exact Safe.pure fun _ _ _ _ impossible => by cases impossible
      · refine Safe.pure fun w _ grownW _ _ => ?_
        obtain ⟨done, live⟩ := passed rfl
        exact ⟨grownW.stepDone (grownV.stepDone (grownU.stepDone done)), live⟩

theorem safe_prepareInboundPayloadChannel (s : Session A) :
    GateSafe (fun error t => error = none → StepDone t ∧ ¬ s.state.Over) prepareInboundPayloadChannel s := by
  unfold prepareInboundPayloadChannel
  refine Safe.bind (safe_gate .preAuthPayloadChannel s) fun refused t _ _ passed => ?_
  split
  · exact Safe.pure fun _ _ _ impossible => by cases impossible
  · obtain ⟨done, live⟩ := passed rfl
    exact Safe.perform (fun _ _ _ _ => trivial) (fun _ u _ grown _ _ => ⟨grown.stepDone done, live⟩)
      fun _ _ _ _ grown holds fine => ⟨grown.stepDone (holds fine).1, (holds fine).2⟩

def Outcome.admitted : Outcome → Prop
  | .opened _ => True
  | .payloadUnexpected => True
  | .payloadStreamed _ => True
  | _ => False

structure Admission (s : Session A) (outcome : Outcome) (t : Session A) : Prop where
  opened : ∀ dc, outcome = .opened dc → StepDone t
  live : outcome.admitted → ¬ s.state.Over

theorem Admission.refused {s t : Session A} {outcome : Outcome} (none : ¬ outcome.admitted) :
    Admission s outcome t := by
  refine ⟨?_, fun admitted => absurd admitted none⟩
  rintro dc rfl
  exact absurd trivial none

theorem safe_onDataChannel (hasOnStream : Bool) (dc : DataChannel) (s : Session A) :
    GateSafe (Admission s) (onDataChannel hasOnStream dc) s := by
  unfold onDataChannel
  split
  · refine Safe.bind ((gate_composed.attachControlChannel dc).safe s) fun _ t _ _ _ => ?_
    exact Safe.pure fun _ _ _ => .refused id
  · refine Safe.bind (safe_prepareInboundPayloadChannel s) fun error t _ _ passed => ?_
    split
    · refine Safe.bind ((free_op (by rfl)).safe t) fun _ u _ _ _ => ?_
      refine Safe.bind ((gate_composed.fail _).safe u) fun _ v _ _ _ => ?_
      exact Safe.pure fun _ _ _ => .refused id
    · obtain ⟨done, live⟩ := passed rfl
      split
      · refine Safe.bind (Safe.perform (fun u _ grown _ => grown.stepDone done) (fun _ _ _ _ _ => trivial)
          fun _ _ _ _ _ _ => trivial) fun _ u _ _ _ => ?_
        exact Safe.pure fun _ _ _ => ⟨nofun, fun _ => live⟩
      · refine Safe.bind ((free_op (by rfl)).safe t) fun _ u _ _ _ => ?_
        refine Safe.bind ((gate_composed.fail _).safe u) fun _ v _ _ _ => ?_
        exact Safe.pure fun _ _ _ => ⟨nofun, fun _ => live⟩

theorem safe_body (hasOnStream : Bool) (call : Call) (s : Session A) :
    GateSafe (Admission s) (body unmarshalString decodeMessage hasOnStream call) s := by
  -- calls that have nothing to do with payload channels
  have plain : ∀ {α : Type} (p : Prog Op α) (f : α → Outcome), GateSafe (fun _ _ => True) p s →
      (∀ value, ¬ (f value).admitted) → GateSafe (Admission s) (f <$> p) s := by
    intro α p f safe silent
    exact Safe.bind safe fun value t _ _ _ => Safe.pure fun _ _ _ => .refused (silent value)
  cases call with
  | createOffer => exact plain _ _ ((free_describe _ _).safe s) fun _ => id
  | handleOffer sdp => exact plain _ _ ((free_handleOffer _ sdp).safe s) fun _ => id
  | handleAnswer sdp => exact plain _ _ ((free_setRemoteDescription _ _ sdp).safe s) fun _ => id
  | addRemoteCandidate candidate =>
    exact plain _ _ ((gate_composed.addRemoteCandidate candidate (free_op rfl) (free_op rfl)).safe s) fun _ => id
  | openStreamChannel label =>
    refine Safe.bind (safe_openStreamChannel label s) fun result t _ _ passed => ?_
    split
    · rename_i dc
      obtain ⟨done, live⟩ := passed dc rfl
      exact Safe.pure fun u _ grown => ⟨fun _ _ => grown.stepDone done, fun _ => live⟩
    · exact Safe.pure fun _ _ _ => .refused id
  | waitAuthenticated => exact plain _ _ (gate_composed.waitAuthenticated.safe s) fun _ => id
  | isAuthenticated => exact plain _ _ (gate_composed.isAuthenticated.safe s) fun _ => id
  | fail => exact plain _ _ ((gate_composed.fail .caller).safe s) fun _ => id
  | close => exact plain _ _ ((gate_sequenced.close gate_ending).safe s) fun _ => id
  | connectionStateChange state => exact plain _ _ ((gate_composed.onConnectionStateChange state).safe s) fun _ => id
  | dataChannel dc => exact safe_onDataChannel hasOnStream dc s
  | controlOpen dc => exact plain _ _ ((Free.bind (free_op rfl) fun _ => free_maybeSendAuth).safe s) fun _ => id
  | controlMessage dc data =>
    refine plain _ _ ?_ fun _ => id
    refine Safe.bind (safe_handleControlMessage decodeMessage data s) fun error t _ _ _ => ?_
    split
    · exact (gate_composed.fail _).safe t
    · exact (Free.pure _).safe t
  | controlClose dc => exact plain _ _ (gate_composed.onControlClose.safe s) fun _ => id

theorem enter_same (call : Call) (s t : Session A) (entered : enter call s = some t) : t = s := by
  unfold enter at entered
  repeat' split at entered
  all_goals cases entered
  all_goals rfl

theorem gate_entered (call : Call) (s t : Session A) (entered : enter call s = some t)
    (holds : (gateDiscipline A).inv s) : (gateDiscipline A).inv t ∧ (gateDiscipline A).grows s t := by
  rw [enter_same call s t entered]
  exact ⟨holds, (gateDiscipline A).refl s⟩

/-- No payload before authentication, in every run: a stream is handed over, and a channel
    returned, only after the authenticator's step was done; and once the session is over, no call
    that had not started by then lets a payload channel through. -/
theorem no_payload_before_authentication (hasOnStream : Bool) (cfg : SessionConfig A) (created : Bool)
    (control : Option DataChannel) (s : Session A) (ok : newSession cfg created control = .ok s)
    (moves : List (Move Choice Call)) (p : Pool Op (Session A) Call Outcome)
    (ran : (sessionSystem unmarshalString decodeMessage A hasOnStream).run ⟨s, []⟩ moves = some p) :
    Guarded p.shared.events ∧
    (∀ t ∈ p.threads, ∀ dc, t.prog = .done (.opened dc) → StepDone p.shared) ∧
    (p.shared.state.Over → ∀ later (q : Pool Op (Session A) Call Outcome),
      (sessionSystem unmarshalString decodeMessage A hasOnStream).run p later = some q →
      ∀ (i : Nat) (call : Call) (outcome : Outcome), q.threads[i]? = some ⟨call, .done outcome⟩ →
        (∀ t, p.threads[i]? = some t → t.prog = body unmarshalString decodeMessage hasOnStream t.call) →
        ¬ outcome.admitted) := by
  let system := sessionSystem unmarshalString decodeMessage A hasOnStream
  let D : Discipline system.toMachine := gateDiscipline A
  have met : ∀ q later, D.MetBy q later := D.metBy_always fun _ _ => trivial
  have fresh := newSession_fresh cfg created control s ok
  have initial : Certified D (fun _ _ outcome t => ∀ dc, outcome = .opened dc → StepDone t)
      (⟨s, []⟩ : Pool Op (Session A) Call Outcome) := by
    refine ⟨⟨?_, ?_⟩, by simp⟩
    · intro set
      rw [fresh.authenticated] at set
      cases set
    · intro before dc after split
      rw [fresh.events] at split
      simp at split
  obtain ⟨certified, _⟩ := certified_run _ p moves initial gate_entered
    (fun i call t _ _ => (safe_body unmarshalString decodeMessage hasOnStream call t).weaken
      fun _ _ _ admission => admission.opened) (met _ _) ran
  refine ⟨certified.inv.guarded, ?_, ?_⟩
  · intro t member dc finished
    obtain ⟨i, found⟩ := List.getElem?_of_mem member
    obtain ⟨call, prog⟩ := t
    obtain rfl : prog = .done (.opened dc) := finished
    exact certified.threads i call _ found p.shared certified.inv (D.refl _) dc rfl
  · intro closed later q ranLater i call outcome finished unstarted
    let post : Nat → Call → Outcome → Session A → Prop := fun j _ o _ =>
      (∀ t, p.threads[j]? = some t → t.prog = body unmarshalString decodeMessage hasOnStream t.call) → ¬ o.admitted
    have refused : ∀ j call t, GateGrows p.shared t →
        Safe D (post j call) (body unmarshalString decodeMessage hasOnStream call) t := by
      intro j call t grown
      refine (safe_body unmarshalString decodeMessage hasOnStream call t).weaken ?_
      intro o u _ admission _ admitted
      exact admission.live admitted (grown.final closed)
    have start : Certified D post p := by
      refine ⟨certified.inv, ?_⟩
      intro j call prog found
      by_cases idle : prog = body unmarshalString decodeMessage hasOnStream call
      · rw [idle]
        exact refused j call p.shared (D.refl _)
      · refine (certified.threads j call prog found).weaken ?_
        intro o u _ _ claimed
        exact absurd (claimed _ found) idle
    obtain ⟨ended, _⟩ := certified_run p q later start gate_entered
      (fun j call t _ grown => refused j call t grown) (met _ _) ranLater
    exact ended.threads i call _ finished q.shared ended.inv (D.refl _) unstarted

end Programs

section EarlyPayload

def exposeConfig : SessionConfig (interactive InteractiveAuthenticator.vectors) where
  mode := .expose
  sessionID := text "session-1"
  initiator := false
  authenticator := InteractiveAuthenticator.vectorFresh InteractiveAuthenticator.responderKey.val
  stateMachine := .signaling

def exposedSession : Session (interactive InteractiveAuthenticator.vectors) :=
  { mode := .expose, sessionID := text "session-1"
    authenticator := InteractiveAuthenticator.vectorFresh InteractiveAuthenticator.responderKey.val
    state := .signaling, pc := ⟨.stable, false, false⟩, control := none
    onOpen := [], onMessage := [], onClose := [], controlOpen := false
    localFingerprint := [], remoteFingerprint := [], remoteDescription := false
    pendingCandidates := [], authBound := false, authStarted := false, closeErr := none
    authenticated := false, authResult := none, authReadyClosed := false, closeOnce := .idle
    events := [] }

def earlyMoves : List (Move Choice Call) :=
  .spawn (.dataChannel ⟨7, text "stream"⟩) :: List.replicate 8 (.run 0 ⟨true, [], 0⟩)

abbrev earlySystem : System Op (Session (interactive InteractiveAuthenticator.vectors)) Choice Call Outcome :=
  sessionSystem (fun _ => none) (fun _ => none) (interactive InteractiveAuthenticator.vectors) true

theorem no_payload_before_authentication_early :
    newSession exposeConfig true none = .ok exposedSession ∧
    ∃ p, earlySystem.run ⟨exposedSession, []⟩ earlyMoves = some p ∧ p.shared.state = .failed ∧
      Guarded p.shared.events ∧
      ∀ later q, earlySystem.run p later = some q → ∀ (i : Nat) (call : Call) (outcome : Outcome),
        q.threads[i]? = some ⟨call, .done outcome⟩ → p.threads.length ≤ i → ¬ outcome.admitted := by
  have made : newSession exposeConfig true none = .ok exposedSession := by rfl
  have ended : (earlySystem.run ⟨exposedSession, []⟩ earlyMoves).map (fun p => p.shared.state) = some .failed := by
    decide +kernel
  obtain ⟨p, ran, failed⟩ := Option.map_eq_some_iff.mp ended
  obtain ⟨guarded, _, refused⟩ := no_payload_before_authentication (fun _ => none) (fun _ => none) true
    exposeConfig true none exposedSession made earlyMoves p ran
  refine ⟨made, p, ran, failed, guarded, ?_⟩
  intro later q ranLater i call outcome finished beyond
  refine refused (.inl failed) later q ranLater i call outcome finished ?_
  intro t found
  rw [List.getElem?_eq_none beyond] at found
  cases found

end EarlyPayload

end Rtc2Tcp.WebRTC

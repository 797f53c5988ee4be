import Rtc2Tcp.WebRTC.Opening

namespace Rtc2Tcp.WebRTC

open Octets Go Auth Goroutine

open Prog (perform)

variable {A : Authenticator} {P : Primitives}

theorem exec_transition {next : SessionState} {c : Choice} {s t : Session A} {error : Option SessionError}
    (executed : Session.exec (.transition next) c s = some (error, t)) :
    (s.state.transition next = some t.state ∧ error = none) ∨
      (s.state.transition next = none ∧ t = s ∧ error ≠ none) := by
  simp only [Session.exec] at executed
  split at executed
  · rename_i after moved
    cases executed
    exact .inl ⟨moved, rfl⟩
  · rename_i refused
    cases executed
    exact .inr ⟨refused, rfl, nofun⟩

theorem exec_onceEnter {c : Choice} {s t : Session A} {first : Bool}
    (executed : Session.exec .onceEnter c s = some (first, t)) : first = true ∨ (first = false ∧ s.closeOnce = .done) := by
  simp only [Session.exec] at executed
  split at executed
  · cases executed
    exact .inl rfl
  · cases executed
  · rename_i done
    cases executed
    exact .inr ⟨rfl, done⟩

def enterOpens : {β : Type} → Op β → β → Prop
  | _, .storeLocal _, _ => True
  | _, .storeRemote _, _ => True
  | _, .transition next, _ => next = .signaling
  | _, _, _ => False

def enterKeeps : {β : Type} → Op β → β → Prop
  | _, .fingerprintsReady, ready => ready = true
  | _, .isOneOf states, yes => yes = decide (.signaling ∈ states)
  | _, .transition next, _ => SessionState.signaling.transition next = none
  | _, _, _ => True

def enterDuty (P : Primitives) : Duty (recordedMachine (interactive P)) where
  inv := OpeningInv
  pending x := x.1.localFingerprint ≠ [] ∧ x.1.remoteFingerprint ≠ [] ∧ x.1.state = .signaling
  opens := enterOpens
  keeps := enterKeeps
  opened op c x y result _ executed idle pending := by
    have framed := Session.exec_frame op c x.1 y.1 result (recorded_exec executed).1
    have quiet : op.writes .state = false → op.writes .localFingerprint = false →
        op.writes .remoteFingerprint = false → False := by
      intro state ours theirs
      rw [framed.state state, framed.localFingerprint ours, framed.remoteFingerprint theirs] at pending
      exact idle pending
    cases op with
    | storeLocal | storeRemote => trivial
    | transition next =>
      rcases exec_transition (recorded_exec executed).1 with ⟨moved, _⟩ | ⟨_, same, _⟩
      · rw [pending.2.2] at moved
        exact (SessionState.transition_cases _ _ _ moved).1.symm
      · rw [same] at pending
        exact absurd pending idle
    | _ => exact (quiet rfl rfl rfl).elim
  kept op c x y result _ executed before after := by
    obtain ⟨executed, _⟩ := recorded_exec executed
    cases op with
    | fingerprintsReady =>
      obtain rfl := congrArg Prod.fst (Option.some.inj executed)
      simp [enterKeeps, before.1, before.2.1]
    | isOneOf states =>
      obtain rfl := congrArg Prod.fst (Option.some.inj executed)
      simp [enterKeeps, before.2.2]
    | transition next =>
      rcases exec_transition executed with ⟨moved, _⟩ | ⟨refused, _, _⟩
      · rw [before.2.2, after.2.2] at moved
        obtain ⟨rfl, allowed⟩ := SessionState.transition_cases _ _ _ moved
        exact absurd allowed (by decide)
      · rwa [before.2.2] at refused
    | _ => trivial

def claimOpens : {β : Type} → Op β → β → Prop
  | _, .storeLocal _, _ => True
  | _, .storeRemote _, _ => True
  | _, .openControl, _ => True
  | _, .transition next, error => next = .authPending ∧ error = none
  | _, _, _ => False

def claimKeeps : {β : Type} → Op β → β → Prop
  | _, .fingerprintsReady, ready => ready = true
  | _, .isOneOf states, yes => yes = decide (.authPending ∈ states)
  | _, .transition next, _ => SessionState.authPending.transition next = none
  | _, .controlIsOpen, yes => yes = true
  | _, .bindLocked, result => result ≠ .error .authMaterialNotReady
  | _, .claimStart, _ => False
  | _, .onceEnter, first => first = true
  | _, _, _ => True

def Session.Ready (s : Session A) : Prop :=
  s.mode = .connect ∧ s.localFingerprint ≠ [] ∧ s.remoteFingerprint ≠ [] ∧ s.controlOpen = true ∧
    s.state = .authPending ∧ s.authStarted = false

theorem ready_kept {writes : Field → Bool} {s t : Session A} (framed : s.Framed writes t)
    (state : writes .state = false) (controlOpen : writes .controlOpen = false)
    (ours : writes .localFingerprint = false) (theirs : writes .remoteFingerprint = false)
    (started : writes .authStarted = false) (ready : t.Ready) : s.Ready := by
  unfold Session.Ready at *
  rwa [framed.mode, framed.state state, framed.controlOpen controlOpen, framed.localFingerprint ours,
    framed.remoteFingerprint theirs, framed.authStarted started] at ready

def claimDuty (P : Primitives) : Duty (recordedMachine (interactive P)) where
  inv := OpeningInv
  pending x := x.1.Ready
  opens := claimOpens
  keeps := claimKeeps
  opened op c x y result _ executed idle pending := by
    obtain ⟨executed, _⟩ := recorded_exec executed
    have framed := Session.exec_frame op c x.1 y.1 result executed
    cases op with
    | storeLocal | storeRemote | openControl => trivial
    | transition next =>
      rcases exec_transition executed with ⟨moved, fine⟩ | ⟨_, same, _⟩
      · rw [pending.2.2.2.2.1] at moved
        exact ⟨(SessionState.transition_cases _ _ _ moved).1.symm, fine⟩
      · rw [same] at pending
        exact absurd pending idle
    | claimStart =>
      simp only [Session.exec] at executed
      split at executed
      · obtain ⟨_, same⟩ : false = result ∧ x.1 = y.1 := by simpa using executed
        rw [← same] at pending
        exact absurd pending idle
      · obtain ⟨_, same⟩ : true = result ∧ { x.1 with authStarted := true } = y.1 := by simpa using executed
        rw [← same] at pending
        exact absurd pending.2.2.2.2.2 (by simp)
    | _ => exact absurd (ready_kept framed rfl rfl rfl rfl rfl pending) idle
  kept op c x y result inv executed before after := by
    obtain ⟨executed, _⟩ := recorded_exec executed
    obtain ⟨mode, ours, theirs, opened, state, started⟩ := before
    cases op with
    | fingerprintsReady =>
      obtain rfl := congrArg Prod.fst (Option.some.inj executed)
      simp [claimKeeps, ours, theirs]
    | isOneOf states =>
      obtain rfl := congrArg Prod.fst (Option.some.inj executed)
      simp [claimKeeps, state]
    | controlIsOpen =>
      obtain rfl := congrArg Prod.fst (Option.some.inj executed)
      exact opened
    | transition next =>
      rcases exec_transition executed with ⟨moved, _⟩ | ⟨refused, _, _⟩
      · rw [state, after.2.2.2.2.1] at moved
        obtain ⟨rfl, allowed⟩ := SessionState.transition_cases _ _ _ moved
        exact absurd allowed (by decide)
      · rwa [state] at refused
    | bindLocked =>
      have tried := bindLocked_tried x.1
      rw [show x.1.bindLocked = (result, y.1) from Option.some.inj executed] at tried
      generalize y.1 = t, Session.note .bindLocked result x.1 = added at tried
      rintro rfl
      cases tried with
      | early missing => exact missing.elim ours theirs
    | claimStart =>
      have granted : result = true ∧ y.1.authStarted = true := by
        simp only [Session.exec, mode, started] at executed
        obtain ⟨rfl, same⟩ : true = result ∧ { x.1 with authStarted := true } = y.1 := by simpa [mode] using executed
        exact ⟨rfl, by rw [← same]⟩
      rw [after.2.2.2.2.2] at granted
      cases granted.2
    | onceEnter =>
      rcases exec_onceEnter executed with first | ⟨_, done⟩
      · exact first
      · have finished := inv.ended done
        rw [state] at finished
        exact absurd finished (by decide)
    | _ => trivial

def faultOpens : {β : Type} → Op β → β → Prop
  | _, .bindLocked, result => ∃ e, result = .error (.auth e)
  | _, .authStart, result => ∃ e, result = .error e
  | _, .sendText _ _, ok => ok = false
  | _, _, _ => False

def faultKeeps : {β : Type} → Op β → β → Prop
  | _, .isOneOf states, yes => yes = true → ∃ state ∈ states, ¬ state.Over
  | _, .transition next, _ => next ≠ .failed
  | _, .onceEnter, first => first = true
  | _, _, _ => True

theorem exec_over {β : Type} {op : Op β} {c : Choice} {s t : Session A} {result : β}
    (executed : Session.exec op c s = some (result, t)) (finished : s.state.Over) : t.state.Over := by
  have framed := Session.exec_frame op c s t result executed
  cases op with
  | transition next =>
    rcases exec_transition executed with ⟨moved, _⟩ | ⟨_, same, _⟩
    · exact SessionState.transition_over _ _ _ finished moved
    · rwa [same]
  | _ =>
    rw [framed.state rfl]
    exact finished

theorem fault_answered {β : Type} (op : Op β) (c : Choice) (s t : Session A) (result : β) (d : Deed)
    (executed : Session.exec op c s = some (result, t)) (member : d ∈ Session.note op result s)
    (fault : d.fault = true) : faultOpens op result := by
  have quiet : op.telling = false → False := by
    intro silent
    rw [(note_silent op result s silent d member).2] at fault
    cases fault
  cases op with
  | bindLocked =>
    have tried := bindLocked_tried s
    rw [show s.bindLocked = (result, t) from Option.some.inj executed] at tried
    generalize Session.note .bindLocked result s = added at tried member
    cases tried with
    | refused e a => exact ⟨e, rfl⟩
    | bound control a =>
      rw [List.mem_singleton.mp member] at fault
      cases fault
    | _ => cases member
  | authStart =>
    rw [List.mem_singleton.mp member] at fault
    cases result with
    | error e => exact ⟨e, rfl⟩
    | ok hello => cases fault
  | sendText dc message =>
    rw [List.mem_singleton.mp member] at fault
    exact Bool.not_eq_true' _ |>.mp fault
  | _ => exact (quiet rfl).elim

def faultDuty (P : Primitives) : Duty (recordedMachine (interactive P)) where
  inv := OpeningInv
  pending x := (∃ d ∈ x.2, d.fault = true) ∧ ¬ x.1.state.Over
  opens := faultOpens
  keeps := faultKeeps
  opened op c x y result _ executed idle pending := by
    obtain ⟨executed, deeds⟩ := recorded_exec executed
    obtain ⟨⟨d, member, fault⟩, alive⟩ := pending
    rw [deeds] at member
    rcases List.mem_append.mp member with member | member
    · exact absurd ⟨⟨d, member, fault⟩, fun finished => alive (exec_over executed finished)⟩ idle
    · exact fault_answered op c x.1 y.1 result d executed member fault
  kept op c x y result inv executed before after := by
    obtain ⟨executed, _⟩ := recorded_exec executed
    cases op with
    | isOneOf states =>
      obtain rfl := congrArg Prod.fst (Option.some.inj executed)
      intro yes
      exact ⟨x.1.state, by simpa using yes, before.2⟩
    | transition next =>
      rintro rfl
      rcases exec_transition executed with ⟨moved, _⟩ | ⟨refused, _, _⟩
      · exact after.2 (.inl (SessionState.transition_cases _ _ _ moved).1)
      · have alive := before.2
        revert alive refused
        generalize x.1.state = state
        cases state <;> decide
    | onceEnter =>
      rcases exec_onceEnter executed with first | ⟨_, done⟩
      · exact first
      · exact absurd (inv.ended done) before.2
    | _ => trivial

def Op.opener : {β : Type} → Op β → Bool
  | _, .storeLocal _ => true
  | _, .storeRemote _ => true
  | _, .openControl => true
  | _, .transition next => decide (next = .signaling ∨ next = .authPending)
  | _, .bindLocked => true
  | _, .authStart => true
  | _, .sendText _ _ => true
  | _, _ => false

section Duty

variable {T : Duty (recordedMachine (interactive P))} {liable : Prop}
  (quiet : ∀ {β : Type} (op : Op β) (result : β), op.opener = false → ¬ T.opens op result)
include quiet

abbrev Heeds {α : Type} (T : Duty (recordedMachine (interactive P))) (liable : Prop) (p : Prog Op α) : Prop :=
  Minds T liable (fun _ => False) p

theorem heed_op {α : Type} {op : Op α} (other : op.opener = false) : Heeds T liable (perform op) :=
  Minds.perform fun result opened => absurd opened (quiet op result other)

theorem heed_then {α β : Type} {op : Op α} {f : α → Prog Op β} {excused : β → Prop} (other : op.opener = false)
    (rest : ∀ result, Minds T liable excused (f result)) : Minds T liable excused (perform op >>= f) :=
  Minds.bind (heed_op quiet other) rest fun _ => False.elim

omit quiet in
theorem heed_sequenced : Sequenced fun p => Heeds T liable p where
  pure _ := Minds.pure _
  bind first rest := Minds.bind first rest fun _ => False.elim

theorem heed_ending {α : Type} (op : Op α) (ends : op.ending = true) : Heeds T liable (perform op) := by
  refine heed_op quiet ?_
  cases op with
  | transition next =>
    cases next with
    | signaling | authPending => cases ends
    | _ => rfl
  | storeLocal | storeRemote | openControl | bindLocked | authStart | sendText => cases ends
  | _ => rfl

theorem heed_fail (err : SessionError) : Heeds T liable (fail err) := heed_sequenced.fail (heed_ending quiet) err

theorem heed_close : Heeds T liable close := heed_sequenced.close (heed_ending quiet)

theorem heed_composed : Composed fun p => Heeds T liable p := by
  refine heed_sequenced.composed (heed_ending quiet) ?_
  intro α op plain
  refine heed_op quiet ?_
  cases op with
  | transition next =>
    simp only [Op.plain, decide_eq_true_eq, List.mem_cons, not_or] at plain
    simp [Op.opener, plain.1, plain.2.1]
  | storeLocal | storeRemote | openControl | bindLocked | authStart | sendText => cases plain
  | _ => rfl

omit quiet in
theorem bear_fail {excused : Unit → Prop} (once : ∀ first, T.keeps .onceEnter first → first = true)
    (alive : ∀ yes, T.keeps (.isOneOf [.failed, .closed]) yes → yes = false)
    (ends : ∀ error, ¬ T.keeps (.transition .failed) error) (err : SessionError) : Bears T excused (fail err) := by
  have entered : Bears T (fun first => first = true) (perform .onceEnter) := Bears.perform once
  have going : Bears T (fun yes => yes = false) (perform (.isOneOf [.failed, .closed])) := Bears.perform alive
  have ended : Bears T (fun _ => False) (perform (.transition .failed)) := Bears.perform ends
  have set : Bears T (fun _ => True) (perform (.completeAuthResult (some err) false)) := Bears.perform fun _ _ => trivial
  unfold fail
  refine set.bind fun _ _ => entered.bind ?_
  rintro first rfl
  refine going.bind ?_
  rintro yes rfl
  exact ended.bind fun _ => False.elim

section Negotiation

variable (unmarshalString : Bytes → Option SessionDescription)
  (bears : Bears T (fun _ => False) maybeEnterAuthPending) (own : liable)
  (heeds : Heeds T liable maybeEnterAuthPending)
include bears own heeds

theorem heed_setLocalDescription (type : SDPType) : Heeds T liable (setLocalDescription unmarshalString type) := by
  unfold setLocalDescription
  refine heed_then quiet (by rfl) fun set => ?_
  split
  · refine heed_then quiet (by rfl) fun described => ?_
    split
    · exact Minds.pure _
    · split
      · exact Minds.pure _
      · rename_i fingerprint extracted
        have stored : Minds T liable (fun _ => True) (perform (.storeLocal fingerprint)) :=
          Minds.perform fun _ _ => ⟨own, trivial⟩
        refine stored.bind (fun _ => ?_) fun _ _ => bears.bind fun _ => False.elim
        exact heeds.bind (fun _ => Minds.pure _) fun _ => False.elim
  · exact Minds.pure _

omit bears own heeds in
theorem heed_flushCandidates (pending : List ICECandidate) : Heeds T liable (flushCandidates pending) := by
  induction pending with
  | nil => exact Minds.pure _
  | cons candidate rest ih =>
    refine heed_then quiet (by rfl) fun added => ?_
    split
    · exact ih
    · exact Minds.pure _

omit quiet bears own heeds in
theorem bear_flushCandidates (pending : List ICECandidate) : Bears T (fun _ => True) (flushCandidates pending) := by
  induction pending with
  | nil => exact Bears.pure trivial
  | cons candidate rest ih =>
    have added : Bears T (fun _ => True) (perform (.pcAddICECandidate candidate)) := Bears.perform fun _ _ => trivial
    refine added.bind fun ok _ => ?_
    split
    · exact ih
    · exact Bears.pure trivial

theorem heed_setRemoteDescription (type : SDPType) (sdp : Bytes) :
    Minds T liable (fun error => error ≠ none) (setRemoteDescription unmarshalString type sdp) := by
  unfold setRemoteDescription
  refine heed_then quiet (by rfl) fun set => ?_
  split
  · split
    · exact Minds.pure _
    · rename_i fingerprint extracted
      have stored : Minds T liable (fun _ => True) (perform (.storeRemote fingerprint)) :=
        Minds.perform fun _ _ => ⟨own, trivial⟩
      refine stored.bind (fun pending => ?_) fun pending _ => ?_
      · refine (heed_flushCandidates quiet pending).bind (fun flushed => ?_) fun _ => False.elim
        split
        · exact heeds.bind (fun _ => Minds.pure _) fun _ => False.elim
        · exact Minds.pure _
      · refine (bear_flushCandidates pending).bind fun flushed _ => ?_
        split
        · exact bears.bind fun _ => False.elim
        · exact Bears.pure nofun
  · exact Minds.pure _

theorem heed_describe (type : SDPType) : Heeds T liable (describe unmarshalString type) := by
  unfold describe
  refine heed_then quiet (by rfl) fun made => ?_
  split
  · exact Minds.pure _
  · refine (heed_setLocalDescription quiet unmarshalString bears own heeds type).bind (fun error => ?_) fun _ => False.elim
    split <;> exact Minds.pure _

theorem heed_handleOffer (offer : Bytes) :
    Minds T liable (fun result => ∃ e, result = .error e) (handleOffer unmarshalString offer) := by
  unfold handleOffer
  refine (heed_setRemoteDescription quiet unmarshalString bears own heeds .offer offer).bind (fun error => ?_)
    fun error failed => ?_
  · split
    · exact Minds.pure _
    · exact (heed_describe quiet unmarshalString bears own heeds .answer).weaken fun _ => False.elim
  · split
    · exact Bears.pure ⟨_, rfl⟩
    · exact absurd rfl failed

end Negotiation

end Duty

/-- The calls that set a description; each may return an error, and its caller then fails the
    session. -/
def Call.describes : Call → Bool
  | .createOffer => true
  | .handleOffer _ => true
  | .handleAnswer _ => true
  | _ => false

def Call.excused (call : Call) (outcome : Outcome) : Prop := call.describes = true ∧ outcome.failed = true

section Bodies

variable {T : Duty (recordedMachine (interactive P))}
  (quiet : ∀ {β : Type} (op : Op β) (result : β), op.opener = false → ¬ T.opens op result)
  (unmarshalString : Bytes → Option SessionDescription) (decodeMessage : Bytes → Option Message)
include quiet

theorem heed_body (bears : Bears T (fun _ => False) maybeEnterAuthPending)
    (heeds : ∀ liable : Prop, liable → Heeds T liable maybeEnterAuthPending)
    (opened : ∀ liable : Prop, liable → Heeds T liable onControlOpen)
    (handled : ∀ (liable : Prop) data, liable → Heeds T liable (onControlMessage decodeMessage data))
    (hasOnStream : Bool) (call : Call) :
    Minds T (call.side = false) call.excused (body unmarshalString decodeMessage hasOnStream call) := by
  cases side : call.side with
  | true =>
    have aside : Heeds T (true = false) (body unmarshalString decodeMessage hasOnStream call) :=
      (heed_composed quiet).side unmarshalString decodeMessage (heed_close quiet) (fun _ => heed_op quiet rfl) hasOnStream
        call side
    exact aside.weaken fun _ => False.elim
  | false =>
    have mapped : ∀ {α : Type} {p : Prog Op α} {f : α → Outcome} {excused : α → Prop},
        Minds T (false = false) excused p → (∀ value, excused value → call.excused (f value)) →
        Minds T (false = false) call.excused (f <$> p) := by
      intro α p f excused minds implies
      exact minds.bind (fun _ => Minds.pure _) fun value fine => Bears.pure (implies value fine)
    cases call with
    | createOffer =>
      exact mapped (heed_describe quiet unmarshalString bears rfl (heeds _ rfl) .offer) fun _ => False.elim
    | handleOffer offer =>
      refine mapped (heed_handleOffer quiet unmarshalString bears rfl (heeds _ rfl) offer) ?_
      rintro _ ⟨e, rfl⟩
      exact ⟨rfl, rfl⟩
    | handleAnswer answer =>
      refine mapped (heed_setRemoteDescription quiet unmarshalString bears rfl (heeds _ rfl) .answer answer) ?_
      rintro (_ | e) failed
      · exact absurd rfl failed
      · exact ⟨rfl, rfl⟩
    | addRemoteCandidate candidate =>
      exact mapped ((heed_composed quiet).addRemoteCandidate candidate (heed_op quiet rfl) (heed_op quiet rfl))
        fun _ => False.elim
    | controlOpen dc => exact mapped (opened _ rfl) fun _ => False.elim
    | controlMessage dc data => exact mapped (handled _ data rfl) fun _ => False.elim
    | _ => cases side

end Bodies

section Untold

variable {T : Duty (recordedMachine (interactive P))} {liable : Prop}
  (quiet : ∀ {β : Type} (op : Op β) (result : β), op.opener = false ∨ op.telling = true → ¬ T.opens op result)
include quiet

theorem untold_then {α β : Type} {op : Op α} {f : α → Prog Op β} (other : op.opener = false ∨ op.telling = true)
    (rest : ∀ result, Heeds T liable (f result)) : Heeds T liable (perform op >>= f) :=
  Minds.bind (Minds.perform fun result opened => absurd opened (quiet op result other)) rest fun _ => False.elim

theorem untold_fail (err : SessionError) : Heeds T liable (fail err) :=
  heed_fail (fun op result other => quiet op result (.inl other)) err

theorem untold_maybeSendAuth : Heeds T liable maybeSendAuth := by
  unfold maybeSendAuth
  refine untold_then quiet (.inl rfl) fun pending => ?_
  split
  · exact Minds.pure _
  · refine untold_then quiet (.inl rfl) fun opened => ?_
    split
    · exact Minds.pure _
    · refine untold_then quiet (.inr rfl) fun tried => ?_
      split
      · exact Minds.pure _
      · exact untold_fail quiet _
      · refine untold_then quiet (.inl rfl) fun granted => ?_
        split
        · refine untold_then quiet (.inr rfl) fun result => ?_
          split
          · exact untold_fail quiet _
          · refine untold_then quiet (.inr rfl) fun sent => ?_
            split
            · exact untold_fail quiet _
            · exact Minds.pure _
        · exact Minds.pure _

theorem untold_onControlMessage (decodeMessage : Bytes → Option Message) (data : Bytes) :
    Heeds T liable (onControlMessage decodeMessage data) := by
  have C : Composed fun p => Heeds T liable p := heed_composed fun op result other => quiet op result (.inl other)
  refine C.onControlMessage decodeMessage data ?_
  unfold handleControlMessage
  refine untold_then quiet (.inl rfl) fun pending => ?_
  split
  · exact Minds.pure _
  · split
    · exact Minds.pure _
    · refine untold_then quiet (.inr rfl) fun tried => ?_
      split
      · exact Minds.pure _
      · refine untold_then quiet (.inl rfl) fun result => ?_
        split
        · exact Minds.pure _
        · have sent : ∀ control, Heeds T liable (sendOutbound control result) := by
            intro control
            unfold sendOutbound
            split
            · exact Minds.perform fun ok opened => absurd opened (quiet _ ok (.inr rfl))
            · exact Minds.pure _
          refine (sent _).bind (fun ok => ?_) fun _ => False.elim
          split
          · exact Minds.pure _
          · split
            · unfold finishAuth
              refine untold_then quiet (.inl rfl) fun error => ?_
              split
              · exact Minds.pure _
              · exact untold_then quiet (.inl rfl) fun _ => Minds.pure _
            · exact Minds.pure _

end Untold

theorem enter_quiet {β : Type} (op : Op β) (result : β) (other : op.opener = false ∨ op.telling = true) :
    ¬ (enterDuty P).opens op result := by
  cases op with
  | storeLocal | storeRemote => rcases other with other | other <;> cases other
  | transition next =>
    rintro rfl
    rcases other with other | other <;> cases other
  | _ => exact id

theorem claim_quiet {β : Type} (op : Op β) (result : β) (other : op.opener = false ∨ op.telling = true) :
    ¬ (claimDuty P).opens op result := by
  cases op with
  | storeLocal | storeRemote | openControl => rcases other with other | other <;> cases other
  | transition next =>
    rintro ⟨rfl, _⟩
    rcases other with other | other <;> cases other
  | _ => exact id

theorem fault_quiet {β : Type} (op : Op β) (result : β) (other : op.opener = false) :
    ¬ (faultDuty P).opens op result := by
  cases op with
  | bindLocked | authStart | sendText => cases other
  | _ => exact id

theorem enter_bears : Bears (enterDuty P) (fun _ => False) maybeEnterAuthPending := by
  have ready : Bears (enterDuty P) (fun yes => yes = true) (perform .fingerprintsReady) := Bears.perform fun _ kept => kept
  have waiting : Bears (enterDuty P) (fun yes => yes = true) (perform (.isOneOf [.signaling])) :=
    Bears.perform fun _ kept => kept
  have entered : Bears (enterDuty P) (fun _ => False) (perform (.transition .authPending)) := by
    refine Bears.perform fun error kept => ?_
    revert kept
    simp only [enterDuty, enterKeeps]
    decide
  unfold maybeEnterAuthPending
  refine ready.bind ?_
  rintro _ rfl
  refine waiting.bind ?_
  rintro _ rfl
  exact entered.bind fun _ => False.elim

theorem claim_bears : Bears (claimDuty P) (fun _ => False) maybeSendAuth := by
  have waiting : Bears (claimDuty P) (fun yes => yes = true) (perform (.isOneOf [.authPending])) :=
    Bears.perform fun _ kept => kept
  have opened : Bears (claimDuty P) (fun yes => yes = true) (perform .controlIsOpen) := Bears.perform fun _ kept => kept
  have bound : Bears (claimDuty P) (fun result => result ≠ .error .authMaterialNotReady) (perform .bindLocked) :=
    Bears.perform fun _ kept => kept
  have claimed : Bears (claimDuty P) (fun _ => False) (perform .claimStart) := Bears.perform fun _ kept => kept
  unfold maybeSendAuth
  refine waiting.bind ?_
  rintro _ rfl
  refine opened.bind ?_
  rintro _ rfl
  refine bound.bind fun result known => ?_
  split
  · exact absurd rfl known
  · refine bear_fail (fun _ kept => kept) (fun _ kept => kept) (fun _ kept => ?_) _
    revert kept
    simp only [claimDuty, claimKeeps]
    decide
  · exact claimed.bind fun _ => False.elim

theorem claim_bears_enter : Bears (claimDuty P) (fun _ => False) maybeEnterAuthPending := by
  have ready : Bears (claimDuty P) (fun yes => yes = true) (perform .fingerprintsReady) := Bears.perform fun _ kept => kept
  have waiting : Bears (claimDuty P) (fun yes => yes = false) (perform (.isOneOf [.signaling])) :=
    Bears.perform fun _ kept => kept
  unfold maybeEnterAuthPending
  refine ready.bind ?_
  rintro _ rfl
  refine waiting.bind ?_
  rintro _ rfl
  exact claim_bears

theorem claim_heeds_enter (liable : Prop) (own : liable) : Heeds (claimDuty P) liable maybeEnterAuthPending := by
  unfold maybeEnterAuthPending
  refine untold_then claim_quiet (.inl rfl) fun ready => ?_
  split
  · exact Minds.pure _
  · refine untold_then claim_quiet (.inl rfl) fun signaling => ?_
    split
    · have entered : Minds (claimDuty P) liable (fun error => error = none) (perform (.transition .authPending)) :=
        Minds.perform fun _ opened => ⟨own, opened.2⟩
      refine entered.bind (fun error => ?_) ?_
      · split
        · exact untold_fail claim_quiet _
        · exact untold_maybeSendAuth claim_quiet
      · rintro _ rfl
        exact claim_bears
    · exact untold_maybeSendAuth claim_quiet

theorem fault_bears {excused : Unit → Prop} (err : SessionError) : Bears (faultDuty P) excused (fail err) := by
  have ends : ∀ error, ¬ (faultDuty P).keeps (.transition .failed) error := fun _ kept => kept rfl
  refine bear_fail (fun _ kept => kept) (fun yes kept => ?_) ends err
  cases yes with
  | false => rfl
  | true =>
    obtain ⟨state, member, alive⟩ := kept rfl
    rcases List.mem_cons.mp member with rfl | member
    · exact absurd (.inl rfl) alive
    · exact absurd (.inr (.inr (List.mem_singleton.mp member))) alive

theorem fault_send (liable : Prop) (own : liable) (control : DataChannel) (message : Message) :
    Minds (faultDuty P) liable (fun ok => ok = false) (perform (.sendText control message)) :=
  Minds.perform fun _ opened => ⟨own, opened⟩

theorem fault_bind (liable : Prop) (own : liable) :
    Minds (faultDuty P) liable (fun result => ∃ e, result = .error (.auth e)) (perform .bindLocked) :=
  Minds.perform fun _ opened => ⟨own, opened⟩

theorem fault_maybeSendAuth (liable : Prop) (own : liable) : Heeds (faultDuty P) liable maybeSendAuth := by
  unfold maybeSendAuth
  refine heed_then fault_quiet (by rfl) fun pending => ?_
  split
  · exact Minds.pure _
  · refine heed_then fault_quiet (by rfl) fun opened => ?_
    split
    · exact Minds.pure _
    · refine (fault_bind liable own).bind (fun tried => ?_) ?_
      · split
        · exact Minds.pure _
        · exact heed_fail fault_quiet _
        · refine heed_then fault_quiet (by rfl) fun granted => ?_
          split
          · have started : Minds (faultDuty P) liable (fun result => ∃ e, result = .error e) (perform .authStart) :=
              Minds.perform fun _ opened => ⟨own, opened⟩
            refine started.bind (fun result => ?_) ?_
            · split
              · exact heed_fail fault_quiet _
              · refine (fault_send liable own _ _).bind (fun sent => ?_) ?_
                · split
                  · exact heed_fail fault_quiet _
                  · exact Minds.pure _
                · rintro _ rfl
                  exact fault_bears _
            · rintro _ ⟨e, rfl⟩
              exact fault_bears _
          · exact Minds.pure _
      · rintro _ ⟨e, rfl⟩
        exact fault_bears _

theorem fault_handleControlMessage (liable : Prop) (own : liable) (decodeMessage : Bytes → Option Message) (data : Bytes) :
    Minds (faultDuty P) liable (fun error => error ≠ none) (handleControlMessage decodeMessage data) := by
  unfold handleControlMessage
  refine heed_then fault_quiet (by rfl) fun pending => ?_
  split
  · exact Minds.pure _
  · split
    · exact Minds.pure _
    · refine (fault_bind liable own).bind (fun tried => ?_) ?_
      · split
        · exact Minds.pure _
        · refine heed_then fault_quiet (by rfl) fun result => ?_
          split
          · exact Minds.pure _
          · have sent : ∀ control, Minds (faultDuty P) liable (fun ok => ok = false) (sendOutbound control result) := by
              intro control
              unfold sendOutbound
              split
              · exact fault_send liable own _ _
              · exact Minds.pure _
            refine (sent _).bind (fun ok => ?_) ?_
            · split
              · exact Minds.pure _
              · split
                · unfold finishAuth
                  refine heed_then fault_quiet (by rfl) fun error => ?_
                  split
                  · exact Minds.pure _
                  · exact heed_then fault_quiet (by rfl) fun _ => Minds.pure _
                · exact Minds.pure _
            · rintro _ rfl
              exact Bears.pure nofun
      · rintro _ ⟨e, rfl⟩
        exact Bears.pure nofun

theorem fault_onControlMessage (liable : Prop) (own : liable) (decodeMessage : Bytes → Option Message) (data : Bytes) :
    Heeds (faultDuty P) liable (onControlMessage decodeMessage data) := by
  unfold onControlMessage
  refine (fault_handleControlMessage liable own decodeMessage data).bind (fun error => ?_) fun error failed => ?_
  · split
    · exact heed_fail fault_quiet _
    · exact Minds.pure _
  · split
    · exact fault_bears _
    · exact absurd rfl failed

section Calls

variable (unmarshalString : Bytes → Option SessionDescription) (decodeMessage : Bytes → Option Message)
  (hasOnStream : Bool) (call : Call)

theorem enter_body :
    Minds (enterDuty P) (call.side = false) call.excused (body unmarshalString decodeMessage hasOnStream call) := by
  have alone : ∀ {β : Type} (op : Op β) (result : β), op.opener = false → ¬ (enterDuty P).opens op result :=
    fun op result other => enter_quiet op result (.inl other)
  refine heed_body alone unmarshalString decodeMessage enter_bears (fun liable own => ?_) (fun liable own => ?_)
    (fun liable data own => untold_onControlMessage enter_quiet decodeMessage data) hasOnStream call
  · unfold maybeEnterAuthPending
    refine untold_then enter_quiet (.inl rfl) fun ready => ?_
    split
    · exact Minds.pure _
    · refine untold_then enter_quiet (.inl rfl) fun signaling => ?_
      split
      · have entered : Heeds (enterDuty P) liable (perform (.transition .authPending)) :=
          Minds.perform fun _ opened => by cases opened
        refine entered.bind (fun error => ?_) fun _ => False.elim
        split
        · exact untold_fail enter_quiet _
        · exact untold_maybeSendAuth enter_quiet
      · exact untold_maybeSendAuth enter_quiet
  · have opened : Heeds (enterDuty P) liable (perform .openControl) := Minds.perform fun _ opened => opened.elim
    exact opened.bind (fun _ => untold_maybeSendAuth enter_quiet) fun _ => False.elim

theorem claim_minded :
    Minds (claimDuty P) (call.side = false) call.excused (body unmarshalString decodeMessage hasOnStream call) := by
  have alone : ∀ {β : Type} (op : Op β) (result : β), op.opener = false → ¬ (claimDuty P).opens op result :=
    fun op result other => claim_quiet op result (.inl other)
  refine heed_body alone unmarshalString decodeMessage claim_bears_enter claim_heeds_enter (fun liable own => ?_)
    (fun liable data own => untold_onControlMessage claim_quiet decodeMessage data) hasOnStream call
  have opened : Minds (claimDuty P) liable (fun _ => True) (perform .openControl) :=
    Minds.perform fun _ _ => ⟨own, trivial⟩
  exact opened.bind (fun _ => untold_maybeSendAuth claim_quiet) fun _ _ => claim_bears

theorem fault_body :
    Minds (faultDuty P) (call.side = false) call.excused (body unmarshalString decodeMessage hasOnStream call) := by
  cases side : call.side with
  | true =>
    have aside : Heeds (faultDuty P) (true = false) (body unmarshalString decodeMessage hasOnStream call) :=
      (heed_composed fault_quiet).side unmarshalString decodeMessage (heed_close fault_quiet)
        (fun _ => heed_op fault_quiet rfl) hasOnStream call side
    exact aside.weaken fun _ => False.elim
  | false =>
    have C : Composed fun p => Heeds (faultDuty P) (false = false) p := heed_composed fault_quiet
    have sending := fault_maybeSendAuth (P := P) (false = false) rfl
    have outer : ∀ {β : Type} (op : Op β), op.inner = false → Heeds (faultDuty P) (false = false) (perform op) := by
      intro β op other
      refine Minds.perform fun result opened => ?_
      cases op with
      | bindLocked | authStart | sendText => cases other
      | _ => exact opened.elim
    have whole : Heeds (faultDuty P) (false = false) (body unmarshalString decodeMessage hasOnStream call) :=
      C.body unmarshalString decodeMessage outer sending (heed_close fault_quiet)
        (fun data => fault_onControlMessage _ rfl decodeMessage data) hasOnStream call
    exact whole.weaken fun _ => False.elim

end Calls

end Rtc2Tcp.WebRTC

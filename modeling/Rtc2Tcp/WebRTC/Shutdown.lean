import Rtc2Tcp.WebRTC.Duties

namespace Rtc2Tcp.WebRTC

open Octets Go Auth Goroutine

open Prog (perform)

variable {A : Authenticator}

def SessionState.Terminal (state : SessionState) : Prop := state = .closed ∨ state = .failed

instance (state : SessionState) : Decidable state.Terminal := inferInstanceAs (Decidable (_ ∨ _))

theorem SessionState.Terminal.stuck {state : SessionState} (terminal : state.Terminal) (next : SessionState) :
    state.transition next = none := by
  rcases terminal with rfl | rfl <;> cases next <;> rfl

theorem SessionState.Terminal.isOver {state : SessionState} (terminal : state.Terminal) : state.Over := by
  rcases terminal with rfl | rfl
  · exact .inr (.inr rfl)
  · exact .inl rfl

theorem SessionState.Over.terminal {state : SessionState} (ended : state.Over) (other : state ≠ .closing) :
    state.Terminal := by
  rcases ended with rfl | rfl | rfl
  · exact .inr rfl
  · exact absurd rfl other
  · exact .inl rfl

/-- The peer connection does not refuse to close while the session is in `CLOSING`. -/
def closeAccepted : {β : Type} → Op β → β → Recorded A → Bool
  | _, .pcClose, ok, x => ok || decide (x.1.state ≠ .closing)
  | _, _, _, _ => true

section System

variable (unmarshalString : Bytes → Option SessionDescription) (decodeMessage : Bytes → Option Message)
  (hasOnStream : Bool)

def closingSystem (A : Authenticator) : System Op (Recorded A) Choice Call Outcome :=
  (recordedSystem unmarshalString decodeMessage A hasOnStream).restricted closeAccepted

theorem closing_exec {β : Type} {op : Op β} {c : Choice} {x y : Recorded A} {result : β}
    (executed : (closingSystem unmarshalString decodeMessage hasOnStream A).exec op c x = some (result, y)) :
    (recordedMachine A).exec op c x = some (result, y) ∧ closeAccepted op result x = true :=
  restricted_exec.mp executed

end System

structure Session.Steady (s t : Session A) : Prop where
  state : t.state = s.state
  closeOnce : t.closeOnce = s.closeOnce
  authReadyClosed : t.authReadyClosed = s.authReadyClosed
  authResult : t.authResult = s.authResult
  authenticated : t.authenticated = s.authenticated

def finalFields : List Field := [.state, .closeOnce, .authReadyClosed, .authResult, .authenticated]

def Op.final {β : Type} (op : Op β) : Bool := finalFields.any op.writes

theorem exec_steady {β : Type} {op : Op β} {c : Choice} {s t : Session A} {result : β} (other : op.final = false)
    (executed : Session.exec op c s = some (result, t)) : s.Steady t := by
  have framed := Session.exec_frame op c s t result executed
  have unwritten : ∀ field ∈ finalFields, op.writes field = false := by simpa [Op.final] using other
  exact ⟨framed.state (unwritten _ (by decide)), framed.closeOnce (unwritten _ (by decide)),
    framed.authReadyClosed (unwritten _ (by decide)), framed.authResult (unwritten _ (by decide)),
    framed.authenticated (unwritten _ (by decide))⟩

def Deed.sets : Deed → Bool
  | .resultSet _ _ => true
  | _ => false

theorem note_steady {β : Type} (op : Op β) (result : β) (s : Session A) (other : op.final = false) :
    .shutDown ∉ Session.note op result s ∧ (Session.note op result s).countP Deed.sets = 0 := by
  cases op with
  | transition | completeAuthResult | onceEnter | onceExit => cases other
  | pcSetRemoteDescription | bindLocked =>
    simp only [Session.note]
    split <;> simp [Deed.sets]
  | pcAddICECandidate | authStart | sendText => simp [Session.note, Deed.sets]
  | _ => simp [Session.note]

/-- A session whose shutdown has returned is at an end, and its result was set; it is set at most once. -/
structure ShutdownInv (x : Recorded A) : Prop where
  ended : x.1.closeOnce = .done → x.1.state.Terminal ∧ x.1.authReadyClosed = true
  returned : .shutDown ∈ x.2 → x.1.closeOnce = .done
  once : x.2.countP Deed.sets = if x.1.authReadyClosed then 1 else 0

structure ShutdownGrows (x y : Recorded A) : Prop where
  deeds : x.2 <+: y.2
  finished : x.1.state.Over → y.1.state.Over
  terminal : x.1.state.Terminal → y.1.state.Terminal
  authReadyClosed : x.1.authReadyClosed = true → y.1.authReadyClosed = true

theorem ShutdownGrows.refl (x : Recorded A) : ShutdownGrows x x := ⟨List.prefix_refl _, id, id, id⟩

theorem ShutdownGrows.trans (x y z : Recorded A) (first : ShutdownGrows x y) (second : ShutdownGrows y z) :
    ShutdownGrows x z where
  deeds := first.deeds.trans second.deeds
  finished := second.finished ∘ first.finished
  terminal := second.terminal ∘ first.terminal
  authReadyClosed := second.authReadyClosed ∘ first.authReadyClosed

def shutdownNeeds : {β : Type} → Op β → Recorded A → Prop
  | _, .onceExit, x => x.1.state.Terminal ∧ x.1.authReadyClosed = true
  | _, _, _ => True

def shutdownGives : {β : Type} → Op β → β → Recorded A → Prop
  | _, .isOneOf states, yes, x => yes = decide (x.1.state ∈ states)
  | _, .transition next, error, x => (error = none → x.1.state = next) ∧ (error ≠ none → x.1.state.transition next = none)
  | _, .pcClose, ok, x => ok = false → x.1.state ≠ .closing
  | _, .completeAuthResult _ _, _, x => x.1.authReadyClosed = true
  | _, .onceEnter, first, x => first = false → .shutDown ∈ x.2
  | _, .onceExit, _, x => .shutDown ∈ x.2
  | _, _, _, _ => True

theorem ShutdownInv.steady {x y : Recorded A} {added : List Deed} (inv : ShutdownInv x) (same : x.1.Steady y.1)
    (deeds : y.2 = x.2 ++ added) (silent : .shutDown ∉ added) (unset : added.countP Deed.sets = 0) :
    ShutdownInv y ∧ ShutdownGrows x y := by
  refine ⟨⟨?_, ?_, ?_⟩, ⟨?_, ?_, ?_, ?_⟩⟩
  · rw [same.closeOnce, same.state, same.authReadyClosed]
    exact inv.ended
  · intro member
    rw [deeds] at member
    rw [same.closeOnce]
    rcases List.mem_append.mp member with member | member
    · exact inv.returned member
    · exact absurd member silent
  · rw [deeds, List.countP_append, unset, same.authReadyClosed]
    exact inv.once
  · exact ⟨added, deeds.symm⟩
  · rw [same.state]
    exact id
  · rw [same.state]
    exact id
  · rw [same.authReadyClosed]
    exact id

theorem shutdown_transition (next : SessionState) (c : Choice) (x y : Recorded A) (error : Option SessionError)
    (inv : ShutdownInv x) (executed : Session.exec (.transition next) c x.1 = some (error, y.1)) (deeds : y.2 = x.2) :
    ShutdownInv y ∧ ShutdownGrows x y ∧ shutdownGives (.transition next) error y := by
  obtain ⟨s, log⟩ := x
  obtain ⟨t, after⟩ := y
  dsimp only at executed deeds
  subst deeds
  simp only [Session.exec] at executed
  split at executed
  · rename_i state moved
    cases executed
    have arrived := (SessionState.transition_cases _ _ _ moved).1
    have left : ¬ s.state.Terminal := by
      intro terminal
      rw [terminal.stuck] at moved
      cases moved
    refine ⟨⟨?_, inv.returned, inv.once⟩, ⟨List.prefix_refl _, ?_, ?_, id⟩, fun _ => arrived, fun failed => absurd rfl failed⟩
    · exact fun done => absurd (inv.ended done).1 left
    · exact fun ended => SessionState.transition_over _ _ _ ended moved
    · exact fun terminal => absurd terminal left
  · rename_i refused
    cases executed
    exact ⟨inv, .refl _, nofun, fun _ => refused⟩

theorem shutdown_complete (err : Option SessionError) (authenticated : Bool) (x : Recorded A) (inv : ShutdownInv x) :
    ShutdownInv (x.1.completeAuthResult err authenticated,
        x.2 ++ Session.note (.completeAuthResult err authenticated) () x.1) ∧
      ShutdownGrows x (x.1.completeAuthResult err authenticated,
        x.2 ++ Session.note (.completeAuthResult err authenticated) () x.1) ∧
      (x.1.completeAuthResult err authenticated).authReadyClosed = true := by
  simp only [Session.completeAuthResult, Session.note]
  split
  · rename_i set
    rw [List.append_nil]
    exact ⟨inv, .refl x, set⟩
  · rename_i unset
    refine ⟨⟨?_, ?_, ?_⟩, ⟨List.prefix_append _ _, id, id, fun _ => rfl⟩, rfl⟩
    · exact fun done => ⟨(inv.ended done).1, rfl⟩
    · intro member
      refine inv.returned ?_
      simpa using member
    · rw [List.countP_append, inv.once, if_neg unset]
      rfl

theorem shutdown_sound {β : Type} (op : Op β) (c : Choice) (x y : Recorded A) (result : β) (inv : ShutdownInv x)
    (need : shutdownNeeds op x) (accepted : closeAccepted op result x = true)
    (made : (recordedMachine A).exec op c x = some (result, y)) :
    ShutdownInv y ∧ ShutdownGrows x y ∧ shutdownGives op result y := by
  obtain ⟨executed, deeds⟩ := recorded_exec made
  obtain ⟨t, log⟩ := y
  dsimp only at executed deeds
  have steady : op.final = false → ShutdownInv (t, log) ∧ ShutdownGrows x (t, log) := by
    intro other
    obtain ⟨silent, unset⟩ := note_steady op result x.1 other
    exact inv.steady (exec_steady other executed) deeds silent unset
  cases op with
  | transition next => exact shutdown_transition next c x (t, log) result inv executed (by rw [deeds]; exact List.append_nil _)
  | completeAuthResult err authenticated =>
    cases executed
    subst deeds
    exact shutdown_complete err authenticated x inv
  | onceEnter =>
    rcases exec_onceEnter executed with rfl | ⟨rfl, done⟩
    · have entered : x.1.closeOnce = .idle ∧ t = { x.1 with closeOnce := .running } := by
        simp only [Session.exec] at executed
        split at executed
        · rename_i idle
          cases executed
          exact ⟨idle, rfl⟩
        · cases executed
        · cases executed
      obtain ⟨idle, rfl⟩ := entered
      simp only [Session.note, if_true, List.append_nil] at deeds
      subst deeds
      refine ⟨⟨?_, ?_, inv.once⟩, ⟨List.prefix_refl _, id, id, id⟩, ?_⟩
      · rintro ⟨⟩
      · intro member
        have done := inv.returned member
        rw [idle] at done
        cases done
      · rintro ⟨⟩
    · have same : t = x.1 := by
        simp only [Session.exec, done, Option.some.injEq, Prod.mk.injEq] at executed
        exact executed.2.symm
      subst same
      subst deeds
      refine ⟨⟨inv.ended, fun _ => done, ?_⟩, ⟨List.prefix_append _ _, id, id, id⟩, fun _ => by simp [Session.note]⟩
      rw [List.countP_append, inv.once]
      rfl
  | onceExit =>
    cases executed
    subst deeds
    refine ⟨⟨fun _ => need, fun _ => rfl, ?_⟩, ⟨List.prefix_append _ _, id, id, id⟩, by simp [shutdownGives, Session.note]⟩
    rw [List.countP_append, inv.once]
    rfl
  | isOneOf states =>
    obtain ⟨holds, grown⟩ := steady rfl
    cases executed
    exact ⟨holds, grown, rfl⟩
  | pcClose =>
    obtain ⟨holds, grown⟩ := steady rfl
    refine ⟨holds, grown, ?_⟩
    rintro rfl
    rw [(exec_steady rfl executed).state]
    simpa [closeAccepted] using accepted
  | _ => exact ⟨(steady rfl).1, (steady rfl).2, trivial⟩

section Methods

variable (unmarshalString : Bytes → Option SessionDescription) (decodeMessage : Bytes → Option Message)
  (hasOnStream : Bool)

def shutdownDiscipline (A : Authenticator) :
    Discipline (closingSystem unmarshalString decodeMessage hasOnStream A).toMachine where
  inv := ShutdownInv
  grows := ShutdownGrows
  refl := .refl
  trans := .trans
  meets _ _ := True
  needs := shutdownNeeds
  gives := shutdownGives
  sound op c x y result inv _ need executed := by
    obtain ⟨made, accepted⟩ := closing_exec unmarshalString decodeMessage hasOnStream executed
    exact shutdown_sound op c x y result inv need accepted made

abbrev ShutdownSafe {α : Type} (post : α → Recorded A → Prop) (p : Prog Op α) (x : Recorded A) : Prop :=
  Safe (shutdownDiscipline unmarshalString decodeMessage hasOnStream A) post p x

variable {unmarshalString decodeMessage hasOnStream}

theorem shutdown_perform {α : Type} {op : Op α} {x : Recorded A} {post : α → Recorded A → Prop}
    (needed : ∀ y, ShutdownGrows x y → shutdownNeeds op y)
    (given : ∀ result y, ShutdownGrows x y → shutdownGives op result y → post result y)
    (stable : ∀ result y z, ShutdownGrows y z → post result y → post result z) :
    ShutdownSafe unmarshalString decodeMessage hasOnStream post (perform op) x :=
  Safe.perform (fun y _ grown _ => needed y grown) (fun result y _ grown gave => given result y grown gave)
    fun result y z _ grown held => stable result y z grown held

theorem shutdown_op {α : Type} {op : Op α} (needless : ∀ y : Recorded A, shutdownNeeds op y) (x : Recorded A) :
    ShutdownSafe unmarshalString decodeMessage hasOnStream (fun _ _ => True) (perform op) x :=
  shutdown_perform (fun y _ => needless y) (fun _ _ _ _ => trivial) fun _ _ _ _ _ => trivial

/-- What a thread has to see to before it leaves the function under `closeOnce`. -/
def Shut (x : Recorded A) : Prop := x.1.state.Terminal ∧ x.1.authReadyClosed = true

theorem Shut.grows {x y : Recorded A} (shut : Shut x) (grown : ShutdownGrows x y) : Shut y :=
  ⟨grown.terminal shut.1, grown.authReadyClosed shut.2⟩

theorem shutdown_exit (x : Recorded A) (shut : Shut x) :
    ShutdownSafe unmarshalString decodeMessage hasOnStream (fun _ y => .shutDown ∈ y.2) (perform .onceExit) x :=
  shutdown_perform (fun _ grown => shut.grows grown) (fun _ _ _ gave => gave)
    fun _ _ _ grown held => grown.deeds.subset held

theorem shutdown_enter (x : Recorded A) :
    ShutdownSafe unmarshalString decodeMessage hasOnStream (fun first y => first = false → .shutDown ∈ y.2)
      (perform .onceEnter) x :=
  shutdown_perform (fun _ _ => trivial) (fun _ _ _ gave => gave)
    fun _ _ _ grown held late => grown.deeds.subset (held late)

theorem shutdown_complete_op (err : Option SessionError) (x : Recorded A) :
    ShutdownSafe unmarshalString decodeMessage hasOnStream (fun _ y => y.1.authReadyClosed = true)
      (perform (.completeAuthResult err false)) x :=
  shutdown_perform (fun _ _ => trivial) (fun _ _ _ gave => gave) fun _ _ _ grown held => grown.authReadyClosed held

theorem shutdown_failed (x : Recorded A) :
    ShutdownSafe unmarshalString decodeMessage hasOnStream (fun _ y => y.1.state.Terminal)
      (perform (.transition .failed)) x := by
  refine shutdown_perform (fun _ _ => trivial) ?_ fun _ _ _ grown held => grown.terminal held
  intro error y _ gave
  cases error with
  | none => exact .inr (gave.1 rfl)
  | some e =>
    have refused := gave.2 nofun
    revert refused
    cases y.1.state <;> decide

theorem shutdown_closing (x : Recorded A) :
    ShutdownSafe unmarshalString decodeMessage hasOnStream (fun _ y => y.1.state.Over)
      (perform (.transition .closing)) x := by
  refine shutdown_perform (fun _ _ => trivial) ?_ fun _ _ _ grown held => grown.finished held
  intro error y _ gave
  cases error with
  | none => exact .inr (.inl (gave.1 rfl))
  | some e =>
    have refused := gave.2 nofun
    revert refused
    cases y.1.state <;> decide

theorem shutdown_closed (x : Recorded A) (ended : x.1.state.Over) :
    ShutdownSafe unmarshalString decodeMessage hasOnStream (fun _ y => y.1.state.Terminal)
      (perform (.transition .closed)) x := by
  refine shutdown_perform (fun _ _ => trivial) ?_ fun _ _ _ grown held => grown.terminal held
  intro error y grown gave
  cases error with
  | none => exact .inl (gave.1 rfl)
  | some e =>
    apply (grown.finished ended).terminal
    intro closing
    have refused := gave.2 nofun
    rw [closing] at refused
    cases refused

theorem shutdown_fail (err : SessionError) (x : Recorded A) :
    ShutdownSafe unmarshalString decodeMessage hasOnStream (fun _ y => .shutDown ∈ y.2) (fail err) x := by
  have leave : ∀ y : Recorded A, Shut y →
      ShutdownSafe unmarshalString decodeMessage hasOnStream (fun _ z => .shutDown ∈ z.2) leaveOnce y := by
    intro y shut
    unfold leaveOnce
    refine Safe.bind (shutdown_op (by intro _; trivial) y) fun closed z _ grown _ => ?_
    split
    · refine Safe.bind (shutdown_op (by intro _; trivial) z) fun _ w _ later _ => ?_
      exact shutdown_exit w ((shut.grows grown).grows later)
    · exact shutdown_exit z (shut.grows grown)
  unfold fail
  refine Safe.bind (shutdown_complete_op (some err) x) fun _ y _ _ ready => ?_
  refine Safe.bind (shutdown_enter y) fun first z _ grown late => ?_
  have readyZ := grown.authReadyClosed ready
  split
  · have asked : ShutdownSafe unmarshalString decodeMessage hasOnStream
        (fun yes w => yes = true → w.1.state.Terminal) (perform (.isOneOf [.failed, .closed])) z := by
      refine shutdown_perform (fun _ _ => trivial) ?_ fun _ _ _ grown held yes => grown.terminal (held yes)
      intro yes w _ gave true_
      rw [true_] at gave
      have member : w.1.state ∈ [.failed, .closed] := of_decide_eq_true gave.symm
      simp only [List.mem_cons, List.not_mem_nil, or_false] at member
      exact member.symm
    refine Safe.bind asked fun yes w _ later terminal => ?_
    have readyW := later.authReadyClosed readyZ
    split
    · refine Safe.bind (shutdown_failed w) fun _ v _ further ended => ?_
      exact leave v ⟨ended, further.authReadyClosed readyW⟩
    · rename_i already
      exact leave w ⟨terminal (by simpa using already), readyW⟩
  · rename_i waited
    exact Safe.pure fun w _ later => later.deeds.subset (late (by simpa using waited))

theorem shutdown_shut (x : Recorded A) (ended : x.1.state.Over) :
    ShutdownSafe unmarshalString decodeMessage hasOnStream (fun _ y => .shutDown ∈ y.2)
      (do
        perform (.completeAuthResult (some .sessionClosed) false)
        if ← perform .pcClose then
          if ← perform (.isOneOf [.closing]) then
            let _ ← perform (.transition .closed)
        else
          perform .setCloseErr
        perform .onceExit
        perform .readCloseErr) x := by
  have leave : ∀ y : Recorded A, Shut y → ShutdownSafe unmarshalString decodeMessage hasOnStream
      (fun _ z => .shutDown ∈ z.2) (do perform .onceExit; perform .readCloseErr) y := by
    intro y shut
    refine Safe.bind (shutdown_exit y shut) fun _ z _ _ told => ?_
    exact shutdown_perform (fun _ _ => trivial) (fun _ _ grown _ => grown.deeds.subset told)
      fun _ _ _ grown held => grown.deeds.subset held
  refine Safe.bind (shutdown_complete_op _ x) fun _ y _ grown ready => ?_
  have endedY := grown.finished ended
  have closed : ShutdownSafe unmarshalString decodeMessage hasOnStream
      (fun ok z => ok = false → z.1.state.Terminal) (perform .pcClose) y :=
    shutdown_perform (fun _ _ => trivial)
      (fun _ _ later gave refused => (later.finished endedY).terminal (gave refused))
      fun _ _ _ later held refused => later.terminal (held refused)
  refine Safe.bind closed fun ok z _ later refused => ?_
  have endedZ := later.finished endedY
  have readyZ := later.authReadyClosed ready
  split
  · have asked : ShutdownSafe unmarshalString decodeMessage hasOnStream
        (fun yes w => yes = false → w.1.state.Terminal) (perform (.isOneOf [.closing])) z := by
      refine shutdown_perform (fun _ _ => trivial) ?_ fun _ _ _ grown held no => grown.terminal (held no)
      intro yes w grown gave false_
      rw [false_] at gave
      have other : w.1.state ∉ [.closing] := of_decide_eq_false gave.symm
      exact (grown.finished endedZ).terminal fun closing => other (by simp [closing])
    refine Safe.bind asked fun yes w _ further terminal => ?_
    have readyW := further.authReadyClosed readyZ
    split
    · refine Safe.bind (shutdown_closed w (further.finished endedZ)) fun _ v _ last done => ?_
      exact leave v ⟨done, last.authReadyClosed readyW⟩
    · rename_i elsewhere
      exact leave w ⟨terminal (by simpa using elsewhere), readyW⟩
  · rename_i failed
    have terminal := refused (by simpa using failed)
    refine Safe.bind (shutdown_op (by intro _; trivial) z) fun _ w _ further _ => ?_
    exact leave w ⟨further.terminal terminal, further.authReadyClosed readyZ⟩

theorem shutdown_close (x : Recorded A) :
    ShutdownSafe unmarshalString decodeMessage hasOnStream (fun _ y => .shutDown ∈ y.2) close x := by
  unfold close
  refine Safe.bind (shutdown_enter x) fun first y _ _ late => ?_
  split
  · have asked : ShutdownSafe unmarshalString decodeMessage hasOnStream
        (fun yes z => yes = true → z.1.state.Over) (perform (.isOneOf [.closed, .failed])) y := by
      refine shutdown_perform (fun _ _ => trivial) ?_ fun _ _ _ grown held yes => grown.finished (held yes)
      intro yes z _ gave true_
      rw [true_] at gave
      have member : z.1.state ∈ [.closed, .failed] := of_decide_eq_true gave.symm
      simp only [List.mem_cons, List.not_mem_nil, or_false] at member
      exact SessionState.Terminal.isOver member
    refine Safe.bind asked fun yes z _ _ ended => ?_
    split
    · exact Safe.bind (shutdown_closing z) fun _ w _ _ closing => shutdown_shut w closing
    · rename_i already
      exact shutdown_shut z (ended (by simpa using already))
  · rename_i waited
    exact shutdown_perform (fun _ _ => trivial)
      (fun _ _ grown _ => grown.deeds.subset (late (by simpa using waited)))
      fun _ _ _ grown held => grown.deeds.subset held

theorem shutdown_composed : Composed fun p => ∀ x : Recorded A,
    ShutdownSafe unmarshalString decodeMessage hasOnStream (fun _ _ => True) p x where
  pure value x := Safe.pure fun _ _ _ => trivial
  bind first rest x := (first x).bind fun value y _ _ _ => rest value y
  plain op plain x := by
    refine shutdown_op (fun y => ?_) x
    cases op with
    | onceExit => cases plain
    | _ => trivial
  fail err x := (shutdown_fail err x).weaken fun _ _ _ _ => trivial

theorem shutdown_body (call : Call) (x : Recorded A) :
    ShutdownSafe unmarshalString decodeMessage hasOnStream
      (fun _ y => call = .close ∨ call = .fail → .shutDown ∈ y.2)
      (body unmarshalString decodeMessage hasOnStream call) x := by
  by_cases ends : call = .close ∨ call = .fail
  · rcases ends with rfl | rfl
    · refine Safe.bind (shutdown_close x) fun error y _ _ told => ?_
      exact Safe.pure fun z _ grown _ => grown.deeds.subset told
    · refine Safe.bind (shutdown_fail _ x) fun _ y _ _ told => ?_
      exact Safe.pure fun z _ grown _ => grown.deeds.subset told
  · have C : Composed fun p => ∀ x : Recorded A,
        ShutdownSafe unmarshalString decodeMessage hasOnStream (fun _ _ => True) p x := shutdown_composed
    have op : ∀ {β : Type} (op : Op β), (∀ y : Recorded A, shutdownNeeds op y) → ∀ x : Recorded A,
        ShutdownSafe unmarshalString decodeMessage hasOnStream (fun _ _ => True) (perform op) x :=
      fun _ needless => shutdown_op needless
    have outer : ∀ {β : Type} (o : Op β), o.inner = false → ∀ x : Recorded A,
        ShutdownSafe unmarshalString decodeMessage hasOnStream (fun _ _ => True) (perform o) x := by
      intro β o inner
      refine op o fun y => ?_
      cases o with
      | onceExit => cases inner
      | _ => trivial
    have texting : ∀ dc message (x : Recorded A), ShutdownSafe unmarshalString decodeMessage hasOnStream
        (fun _ _ => True) (perform (.sendText dc message)) x := fun _ _ => op _ fun _ => trivial
    have binding := op .bindLocked fun _ => trivial
    have sending := C.maybeSendAuth binding (op .claimStart fun _ => trivial) (op .authStart fun _ => trivial) texting
    have handled : ∀ data (x : Recorded A), ShutdownSafe unmarshalString decodeMessage hasOnStream
        (fun _ _ => True) (onControlMessage decodeMessage data) x := by
      intro data
      refine C.onControlMessage decodeMessage data ?_
      exact C.handleControlMessage binding (fun _ => op _ fun _ => trivial) texting (op _ fun _ => trivial)
        (op _ fun _ => trivial) decodeMessage data
    have closes : ∀ x : Recorded A,
        ShutdownSafe unmarshalString decodeMessage hasOnStream (fun _ _ => True) close x :=
      fun x => (shutdown_close x).weaken fun _ _ _ _ => trivial
    refine (C.body unmarshalString decodeMessage outer sending closes handled hasOnStream call x).weaken ?_
    exact fun _ _ _ _ other => absurd other ends

/-- The end of a session as it was reached, with its result. -/
structure Settled (x y : Recorded A) : Prop where
  state : y.1.state = x.1.state
  authResult : y.1.authResult = x.1.authResult
  authenticated : y.1.authenticated = x.1.authenticated
  authReadyClosed : y.1.authReadyClosed = true
  once : y.2.countP Deed.sets = 1

theorem Settled.exec {β : Type} {op : Op β} {c : Choice} {x y z : Recorded A} {result : β} (settled : Settled x y)
    (terminal : x.1.state.Terminal) (made : (recordedMachine A).exec op c y = some (result, z)) : Settled x z := by
  obtain ⟨executed, deeds⟩ := recorded_exec made
  obtain ⟨t, log⟩ := z
  dsimp only at executed deeds
  have kept : t.state = y.1.state ∧ t.authResult = y.1.authResult ∧ t.authenticated = y.1.authenticated ∧
      t.authReadyClosed = y.1.authReadyClosed := by
    cases op with
    | transition next =>
      rw [← settled.state] at terminal
      rcases exec_transition executed with ⟨moved, _⟩ | ⟨_, rfl, _⟩
      · rw [terminal.stuck] at moved
        cases moved
      · exact ⟨rfl, rfl, rfl, rfl⟩
    | completeAuthResult err authenticated =>
      simp only [Session.exec, Session.completeAuthResult, settled.authReadyClosed, if_true] at executed
      cases executed
      exact ⟨rfl, rfl, rfl, rfl⟩
    | _ =>
      have framed := Session.exec_frame _ c y.1 t result executed
      exact ⟨framed.state rfl, framed.authResult rfl, framed.authenticated rfl, framed.authReadyClosed rfl⟩
  have unset : (Session.note op result y.1).countP Deed.sets = 0 := by
    cases op with
    | completeAuthResult err authenticated => simp [Session.note, settled.authReadyClosed]
    | onceEnter => cases result <;> rfl
    | transition | onceExit => rfl
    | _ => exact (note_steady _ result y.1 rfl).2
  obtain ⟨state, authResult, authenticated, ready⟩ := kept
  refine ⟨state.trans settled.state, authResult.trans settled.authResult, authenticated.trans settled.authenticated,
    ready.trans settled.authReadyClosed, ?_⟩
  rw [deeds, List.countP_append, unset, settled.once]

theorem Settled.run {x : Recorded A} (terminal : x.1.state.Terminal) (p q : Pool Op (Recorded A) Call Outcome)
    (moves : List (Move Choice Call)) (settled : Settled x p.shared)
    (ran : (recordedSystem unmarshalString decodeMessage A hasOnStream).run p moves = some q) :
    Settled x q.shared := by
  apply Transition.run_preserves _ p q moves settled ran
  intro r m t held stepped
  rcases System.step_cases stepped with ⟨call, s, _, opened, rfl⟩ |
    ⟨β, op, next, call, before, after, choice, result, s, _, _, executed, rfl⟩
  · rw [recorded_enter unmarshalString decodeMessage hasOnStream call _ _ opened]
    exact held
  · exact held.exec terminal executed

variable (unmarshalString decodeMessage hasOnStream) in
/-- Every `Close` and every `fail` ends the session, in every run in which the peer connection does not refuse to close
    in `CLOSING`: once one has returned, the session is in `CLOSED` or `FAILED`, its result was set exactly once, and
    from then on, whatever is called and answered, neither changes and `WaitAuthenticated` does not block. -/
theorem shutdown_terminal (cfg : SessionConfig A) (created : Bool) (control : Option DataChannel) (s : Session A)
    (made : newSession cfg created control = .ok s) (moves : List (Move Choice Call))
    (q : Pool Op (Recorded A) Call Outcome)
    (ran : (closingSystem unmarshalString decodeMessage hasOnStream A).run ⟨(s, []), []⟩ moves = some q) :
    (∀ thread ∈ q.threads, thread.call = .close ∨ thread.call = .fail → ∀ outcome, thread.prog = .done outcome →
      .shutDown ∈ q.shared.2) ∧
    (.shutDown ∈ q.shared.2 → q.shared.1.state.Terminal ∧ q.shared.2.countP Deed.sets = 1 ∧
      ∀ later r, (recordedSystem unmarshalString decodeMessage A hasOnStream).run q later = some r →
        Settled q.shared r.shared ∧ ∀ c, (Session.exec .waitAuthReady c r.shared.1).isSome = true) := by
  have starts := newSession_starts cfg created control s made
  have initial : Certified (shutdownDiscipline unmarshalString decodeMessage hasOnStream A)
      (fun _ call _ y => call = .close ∨ call = .fail → .shutDown ∈ y.2) ⟨(s, []), []⟩ := by
    refine ⟨⟨fun done => ?_, fun member => ?_, ?_⟩, fun i call prog found => ?_⟩
    · rw [starts.closeOnce] at done
      cases done
    · cases member
    · rw [starts.authReadyClosed]
      rfl
    · cases found
  have entered : ∀ call (x y : Recorded A),
      (closingSystem unmarshalString decodeMessage hasOnStream A).enter call x = some y → ShutdownInv x →
      ShutdownInv y ∧ ShutdownGrows x y := by
    intro call x y opened inv
    rw [recorded_enter unmarshalString decodeMessage hasOnStream call x y opened]
    exact ⟨inv, .refl x⟩
  obtain ⟨certified, _⟩ := certified_run _ q moves initial entered
    (fun _ call x _ _ => shutdown_body call x) (Discipline.metBy_always _ (fun _ _ => trivial) _ moves) ran
  constructor
  · intro thread member ends outcome done
    obtain ⟨i, found⟩ := List.getElem?_of_mem member
    have held := certified.threads i thread.call thread.prog found
    rw [done] at held
    exact held q.shared certified.inv (.refl _) ends
  · intro told
    obtain ⟨terminal, ready⟩ := certified.inv.ended (certified.inv.returned told)
    have once : q.shared.2.countP Deed.sets = 1 := by rw [certified.inv.once, if_pos ready]
    refine ⟨terminal, once, fun later r ranLater => ?_⟩
    have settled := Settled.run terminal q r later ⟨rfl, rfl, rfl, ready, once⟩ ranLater
    refine ⟨settled, fun c => ?_⟩
    cases answered : c.succeeds <;> simp [Session.exec, settled.authReadyClosed, answered]

end Methods

section Closing

def accepting : Choice := ⟨true, [], 0⟩

def refusal : Choice := ⟨false, [], 0⟩

def closingMoves (answer : Choice) : List (Move Choice Call) :=
  [.spawn .close, .spawn .fail, .run 0 accepting, .run 0 accepting, .run 0 accepting, .run 1 accepting,
    .run 0 accepting, .run 0 answer, .run 0 accepting, .run 0 accepting, .run 0 accepting]

abbrev ClosingPool := Pool Op (Recorded (interactive InteractiveAuthenticator.vectors)) Call Outcome

def summary (q : ClosingPool) : SessionState × List Deed × List Call × Bool :=
  (q.shared.1.state, q.shared.2, q.threads.map (fun thread => thread.call), q.threads.all isDone)

theorem shutdown_terminal_both :
    newSession exposeConfig true none = .ok exposedSession ∧
    ∃ q, (closingSystem (fun _ => none) (fun _ => none) true (interactive InteractiveAuthenticator.vectors)).run
        ⟨(exposedSession, []), []⟩ (closingMoves accepting ++ [.run 0 accepting, .run 1 accepting]) = some q ∧
      q.shared.1.state = .closed ∧ q.shared.2.countP Deed.sets = 1 ∧
      ∀ later r, (recordedSystem (fun _ => none) (fun _ => none)
          (interactive InteractiveAuthenticator.vectors) true).run q later = some r →
        Settled q.shared r.shared ∧ ∀ c, (Session.exec .waitAuthReady c r.shared.1).isSome = true := by
  have made : newSession exposeConfig true none = .ok exposedSession := by rfl
  have ran : ((closingSystem (fun _ => none) (fun _ => none) true
      (interactive InteractiveAuthenticator.vectors)).run ⟨(exposedSession, []), []⟩
      (closingMoves accepting ++ [.run 0 accepting, .run 1 accepting])).map summary =
      some (.closed, [.resultSet (some .caller) false, .shutDown, .shutDown], [.close, .fail], true) := by
    decide +kernel
  obtain ⟨q, ran, ended⟩ := Option.map_eq_some_iff.mp ran
  obtain ⟨closed, rest⟩ := Prod.mk.inj ended
  obtain ⟨deeds, _⟩ := Prod.mk.inj rest
  obtain ⟨_, once, stays⟩ := (shutdown_terminal (fun _ => none) (fun _ => none) true exposeConfig true none
    exposedSession made _ q ran).2 (by rw [deeds]; simp)
  exact ⟨made, q, ran, closed, once, stays⟩

/-- A `Close` whose peer connection refuses returns in `CLOSING`, and neither another `Close` nor `fail` leads on. -/
theorem close_stuck_in_closing :
    newSession exposeConfig true none = .ok exposedSession ∧
    ∃ q, (recordedSystem (fun _ => none) (fun _ => none) (interactive InteractiveAuthenticator.vectors) true).run
        ⟨(exposedSession, []), []⟩ (closingMoves refusal ++
          [.run 1 accepting, .spawn .close, .run 2 accepting, .run 2 accepting]) = some q ∧
      q.threads.map (fun thread => thread.call) = [.close, .fail, .close] ∧
      (∀ thread ∈ q.threads, ∃ outcome, thread.prog = .done outcome) ∧
      q.shared.1.state = .closing ∧ ¬ q.shared.1.state.Terminal := by
  have made : newSession exposeConfig true none = .ok exposedSession := by rfl
  have ran : ((recordedSystem (fun _ => none) (fun _ => none)
      (interactive InteractiveAuthenticator.vectors) true).run ⟨(exposedSession, []), []⟩ (closingMoves refusal ++
        [.run 1 accepting, .spawn .close, .run 2 accepting, .run 2 accepting])).map summary =
      some (.closing, [.resultSet (some .caller) false, .shutDown, .shutDown, .shutDown],
        [.close, .fail, .close], true) := by
    decide +kernel
  obtain ⟨q, ran, ended⟩ := Option.map_eq_some_iff.mp ran
  obtain ⟨closing, rest⟩ := Prod.mk.inj ended
  obtain ⟨_, calls⟩ := Prod.mk.inj rest
  obtain ⟨calls, returned⟩ := Prod.mk.inj calls
  refine ⟨made, q, ran, calls, fun thread member => ?_, closing, by rw [closing]; decide⟩
  exact isDone_outcome (List.all_eq_true.mp returned thread member)

end Closing

end Rtc2Tcp.WebRTC

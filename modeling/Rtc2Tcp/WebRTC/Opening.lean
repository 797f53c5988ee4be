import Rtc2Tcp.Auth.Calls
import Rtc2Tcp.WebRTC.Deeds

namespace Rtc2Tcp.WebRTC

open Octets Go Auth Goroutine

open Prog (perform)

variable {A : Authenticator}

/-- The fields the other operations leave alone; a step of the authenticator leaves all but itself. -/
structure Session.SameStage (s t : Session A) : Prop where
  mode : t.mode = s.mode
  state : t.state = s.state
  controlOpen : t.controlOpen = s.controlOpen
  localFingerprint : t.localFingerprint = s.localFingerprint
  remoteFingerprint : t.remoteFingerprint = s.remoteFingerprint
  authBound : t.authBound = s.authBound
  authStarted : t.authStarted = s.authStarted
  closeOnce : t.closeOnce = s.closeOnce

theorem Session.SameStage.refl (s : Session A) : s.SameStage s := ⟨rfl, rfl, rfl, rfl, rfl, rfl, rfl, rfl⟩

def stageFields : List Field :=
  [.state, .controlOpen, .localFingerprint, .remoteFingerprint, .authBound, .authStarted, .closeOnce]

theorem Session.Framed.stage {writes : Field → Bool} {s t : Session A} (framed : s.Framed writes t)
    (unwritten : stageFields.any writes = false) : s.SameStage t := by
  have other : ∀ field ∈ stageFields, writes field = false := by simpa using unwritten
  exact ⟨framed.mode, framed.state (other _ (by decide)), framed.controlOpen (other _ (by decide)),
    framed.localFingerprint (other _ (by decide)), framed.remoteFingerprint (other _ (by decide)),
    framed.authBound (other _ (by decide)), framed.authStarted (other _ (by decide)),
    framed.closeOnce (other _ (by decide))⟩

namespace Deed

def opening : Deed → Bool
  | .bound _ _ => true
  | .started _ => true
  | .sent message _ => decide (message.kind = .hello)
  | _ => false

def binds : Deed → Bool
  | .bound _ ok => ok
  | _ => false

def starts : Deed → Bool
  | .started _ => true
  | _ => false

def hello : Deed → Bool
  | .sent message _ => decide (message.kind = .hello)
  | _ => false

def fault : Deed → Bool
  | .bound _ ok => !ok
  | .started ok => !ok
  | .sent _ ok => !ok
  | _ => false

/-- What has to stand before a deed: a start after a successful bind, a hello after a successful
    start. -/
def calls (before : List Deed) : Deed → Prop
  | .started _ => ∃ material, .bound material true ∈ before
  | .sent message _ => message.kind = .hello → .started true ∈ before
  | _ => True

end Deed

def Op.telling : {β : Type} → Op β → Bool
  | _, .bindLocked => true
  | _, .authStart => true
  | _, .sendText _ _ => true
  | _, _ => false

theorem note_silent {β : Type} (op : Op β) (result : β) (s : Session A) (silent : op.telling = false) :
    ∀ d ∈ Session.note op result s, d.opening = false ∧ d.fault = false := by
  intro d member
  cases op with
  | bindLocked => cases silent
  | authStart => cases silent
  | sendText => cases silent
  | pcSetRemoteDescription type sdp =>
    simp only [Session.note] at member
    split at member
    · rw [List.mem_singleton.mp member]
      exact ⟨rfl, rfl⟩
    · cases member
  | pcAddICECandidate candidate =>
    rw [List.mem_singleton.mp member]
    exact ⟨rfl, rfl⟩
  | completeAuthResult err authenticated =>
    simp only [Session.note] at member
    split at member
    · cases member
    · rw [List.mem_singleton.mp member]
      exact ⟨rfl, rfl⟩
  | onceEnter =>
    simp only [Session.note] at member
    split at member
    · cases member
    · rw [List.mem_singleton.mp member]
      exact ⟨rfl, rfl⟩
  | onceExit =>
    rw [List.mem_singleton.mp member]
    exact ⟨rfl, rfl⟩
  | _ => cases member

section Discipline

variable {P : Primitives}

structure OpeningInv (x : Recorded (interactive P)) : Prop where
  paired : x.1.state ≠ .init ∧ x.1.state ≠ .rendezvous
  ended : x.1.closeOnce = .done → x.1.state.Over
  binds : x.2.countP Deed.binds = if x.1.authBound then 1 else 0
  order : Justified Deed.calls x.2
  initiator : x.1.mode = .connect → InteractiveAuthenticator.bound x.1.authenticator = true →
    InteractiveAuthenticator.initiator x.1.authenticator = true
  begun : x.1.mode = .connect → InteractiveAuthenticator.state x.1.authenticator ≠ .init →
    InteractiveAuthenticator.state x.1.authenticator ≠ .failed → x.1.authStarted = true
  authenticated : x.1.mode = .connect → (x.1.state = .authenticated ∨ x.1.state = .streaming) →
    x.1.authStarted = true

/-- What the other threads may do to a session: its flags stay set, and its end is final. -/
structure OpeningGrows (x y : Recorded A) : Prop where
  deeds : x.2 <+: y.2
  mode : y.1.mode = x.1.mode
  finished : x.1.state.Over → y.1.state.Over
  authBound : x.1.authBound = true → y.1.authBound = true
  authStarted : x.1.authStarted = true → y.1.authStarted = true
  controlOpen : x.1.controlOpen = true → y.1.controlOpen = true
  localSet : x.1.localFingerprint ≠ [] → y.1.localFingerprint ≠ []
  remoteSet : x.1.remoteFingerprint ≠ [] → y.1.remoteFingerprint ≠ []

theorem OpeningGrows.trans (x y z : Recorded A) (first : OpeningGrows x y) (second : OpeningGrows y z) :
    OpeningGrows x z where
  deeds := first.deeds.trans second.deeds
  mode := second.mode.trans first.mode
  finished := second.finished ∘ first.finished
  authBound := second.authBound ∘ first.authBound
  authStarted := second.authStarted ∘ first.authStarted
  controlOpen := second.controlOpen ∘ first.controlOpen
  localSet := second.localSet ∘ first.localSet
  remoteSet := second.remoteSet ∘ first.remoteSet

def openingNeeds : {β : Type} → Op β → Recorded A → Prop
  | _, .authStart, x => x.1.authBound = true ∧ x.1.authStarted = true
  | _, .sendText _ message, x => message.kind = .hello → .started true ∈ x.2
  | _, .transition next, x => next = .authenticated → x.1.mode = .connect → x.1.authStarted = true
  | _, .storeLocal fingerprint, _ => fingerprint ≠ []
  | _, .storeRemote fingerprint, _ => fingerprint ≠ []
  | _, .onceExit, x => x.1.state.Over
  | _, _, _ => True

def openingGives : {β : Type} → Op β → β → Recorded A → Prop
  | _, .isOneOf states, yes, x => yes = true → x.1.state ∈ states
  | _, .transition next, error, x => (error = none → x.1.state = next) ∧ (error ≠ none → x.1.state.transition next = none)
  | _, .bindLocked, result, x => ∀ control, result = .ok control → x.1.authBound = true
  | _, .claimStart, granted, x => granted = true → x.1.authStarted = true
  | _, .authStart, result, x => ∀ hello, result = .ok hello → .started true ∈ x.2
  | _, .authStep _, result, x => (result.err = none → x.1.mode = .connect → x.1.authStarted = true) ∧
      (result.hasOutbound = true → result.outbound.kind ≠ .hello)
  | _, .onceEnter, first, x => first = false → x.1.state.Over
  | _, .openControl, _, x => x.1.controlOpen = true
  | _, .storeLocal _, _, x => x.1.localFingerprint ≠ []
  | _, .storeRemote _, _, x => x.1.remoteFingerprint ≠ []
  | _, _, _, _ => True

theorem Deed.calls_silent {d : Deed} (silent : d.opening = false) (before : List Deed) : Deed.calls before d := by
  cases d with
  | started ok => cases silent
  | sent message ok =>
    intro hello
    simp [Deed.opening, hello] at silent
  | _ => trivial

theorem deeds_silent (log added : List Deed) (silent : ∀ d ∈ added, d.opening = false)
    (order : Justified Deed.calls log) :
    Justified Deed.calls (log ++ added) ∧ (log ++ added).countP Deed.binds = log.countP Deed.binds := by
  induction added generalizing log with
  | nil =>
    rw [List.append_nil]
    exact ⟨order, rfl⟩
  | cons d added ih =>
    have quiet : d.opening = false := silent d List.mem_cons_self
    have unbound : d.binds = false := by
      cases d with
      | bound material ok => cases quiet
      | _ => rfl
    obtain ⟨ordered, counted⟩ := ih (log ++ [d]) (fun other member => silent other (List.mem_cons_of_mem _ member))
      (order.snoc d (Deed.calls_silent quiet log))
    rw [List.append_assoc] at ordered counted
    refine ⟨ordered, counted.trans ?_⟩
    rw [List.countP_append, List.countP_singleton, unbound]
    rfl

theorem deeds_kept (log : List Deed) (order : Justified Deed.calls log) :
    Justified Deed.calls (log ++ []) ∧ (log ++ []).countP Deed.binds = log.countP Deed.binds :=
  deeds_silent log [] (List.forall_mem_nil _) order

theorem opening_same (x y : Recorded (interactive P)) (added : List Deed) (inv : OpeningInv x)
    (same : x.1.SameStage y.1) (deeds : y.2 = x.2 ++ added)
    (order : Justified Deed.calls (x.2 ++ added) ∧ (x.2 ++ added).countP Deed.binds = x.2.countP Deed.binds)
    (initiator : x.1.mode = .connect → InteractiveAuthenticator.bound y.1.authenticator = true →
      InteractiveAuthenticator.initiator y.1.authenticator = true)
    (begun : x.1.mode = .connect → InteractiveAuthenticator.state y.1.authenticator ≠ .init →
      InteractiveAuthenticator.state y.1.authenticator ≠ .failed → x.1.authStarted = true) :
    OpeningInv y ∧ OpeningGrows x y := by
  constructor
  · constructor
    · rw [same.state]
      exact inv.paired
    · rw [same.closeOnce, same.state]
      exact inv.ended
    · rw [deeds, order.2, same.authBound]
      exact inv.binds
    · rw [deeds]
      exact order.1
    · rw [same.mode]
      exact initiator
    · rw [same.mode, same.authStarted]
      exact begun
    · rw [same.mode, same.state, same.authStarted]
      exact inv.authenticated
  · constructor
    · rw [deeds]
      exact List.prefix_append _ _
    · exact same.mode
    · rw [same.state]
      exact id
    · rw [same.authBound]
      exact id
    · rw [same.authStarted]
      exact id
    · rw [same.controlOpen]
      exact id
    · rw [same.localFingerprint]
      exact id
    · rw [same.remoteFingerprint]
      exact id

theorem opening_unmoved (x : Recorded (interactive P)) (inv : OpeningInv x) :
    OpeningInv (x.1, x.2 ++ []) ∧ OpeningGrows x (x.1, x.2 ++ []) :=
  opening_same x (x.1, x.2 ++ []) [] inv (.refl _) rfl (deeds_kept x.2 inv.order) inv.initiator inv.begun

theorem OpeningInv.bound {x : Recorded (interactive P)} (inv : OpeningInv x) (set : x.1.authBound = true) :
    ∃ material, .bound material true ∈ x.2 := by
  have one := inv.binds
  rw [set, if_pos rfl] at one
  obtain ⟨d, member, binds⟩ := List.countP_pos_iff.mp (by omega : 0 < x.2.countP Deed.binds)
  cases d with
  | bound material ok =>
    obtain rfl : ok = true := binds
    exact ⟨material, member⟩
  | _ => cases binds

theorem opening_transition (next : SessionState) (c : Choice) (x y : Recorded (interactive P))
    (error : Option SessionError) (inv : OpeningInv x) (need : openingNeeds (.transition next) x)
    (executed : Session.exec (.transition next) c x.1 = some (error, y.1)) (deeds : y.2 = x.2) :
    (OpeningInv y ∧ OpeningGrows x y) ∧ openingGives (.transition next) error y := by
  obtain ⟨t, log⟩ := y
  obtain rfl : log = x.2 := deeds
  simp only [Session.exec] at executed
  split at executed
  · rename_i after moved
    cases executed
    have arrived := SessionState.transition_cases _ _ _ moved
    have finished : x.1.state.Over → after.Over := fun ended => SessionState.transition_over _ _ _ ended moved
    refine ⟨⟨⟨?_, ?_, inv.binds, inv.order, inv.initiator, inv.begun, ?_⟩,
      ⟨List.prefix_refl _, rfl, finished, id, id, id, id, id⟩⟩, ⟨fun _ => arrived.1, fun failed => absurd rfl failed⟩⟩
    · exact SessionState.transition_paired _ _ _ inv.paired moved
    · exact fun done => finished (inv.ended done)
    · intro connect reached
      obtain ⟨rfl, allowed⟩ := arrived
      rcases reached with reached | reached
      · exact need reached connect
      · -- streaming is entered from an authenticated session only
        refine inv.authenticated connect ?_
        obtain rfl : after = .streaming := reached
        exact SessionState.transition_streaming _ _ moved
  · rename_i refused
    cases executed
    have unmoved := opening_unmoved x inv
    rw [List.append_nil] at unmoved
    refine ⟨unmoved, ?_, fun _ => refused⟩
    rintro ⟨⟩

theorem opening_bindLocked (x y : Recorded (interactive P)) (result : Except SessionError DataChannel)
    (inv : OpeningInv x) (tried : x.1.bindLocked = (result, y.1))
    (deeds : y.2 = x.2 ++ Session.note .bindLocked result x.1) :
    (OpeningInv y ∧ OpeningGrows x y) ∧ openingGives .bindLocked result y := by
  obtain ⟨t, log⟩ := y
  have spec := bindLocked_tried x.1
  rw [tried] at spec
  obtain rfl : log = _ := deeds
  generalize Session.note .bindLocked result x.1 = added at spec
  have unmoved := opening_unmoved x inv
  -- a bind of a connecting session sets the role of the initiator and leaves the state alone
  have role : ∀ answer a, InteractiveAuthenticator.bind x.1.authenticator x.1.material = (answer, a) →
      (x.1.mode = .connect → a.bound = true → a.initiator = true) ∧
        (x.1.mode = .connect → a.state ≠ .init → a.state ≠ .failed → x.1.authStarted = true) := by
    intro answer a called
    have kept := InteractiveAuthenticator.bind_kept x.1.authenticator x.1.material
    have setup := InteractiveAuthenticator.setup_kept
      (InteractiveAuthenticator.withMaterial x.1.authenticator x.1.material)
    rw [called] at kept
    refine ⟨?_, by rw [kept.1]; exact inv.begun⟩
    intro connect bound
    cases InteractiveAuthenticator.bind_spec _ _ _ _ called with
    | refused e => exact inv.initiator connect bound
    | broken e b fresh valid broke =>
      rw [broke] at setup
      rw [setup.initiator]
      simp [InteractiveAuthenticator.withMaterial, Session.material, connect]
    | bound b fresh valid made =>
      rw [made] at setup
      refine setup.initiator.trans ?_
      simp [InteractiveAuthenticator.withMaterial, Session.material, connect]
  cases spec with
  | detached =>
    refine ⟨unmoved, ?_⟩
    rintro control ⟨⟩
  | already control bound => exact ⟨unmoved, fun _ _ => bound⟩
  | early =>
    refine ⟨unmoved, ?_⟩
    rintro control ⟨⟩
  | refused e a unbound called =>
    obtain ⟨initiator, begun⟩ := role _ _ called
    refine ⟨⟨⟨inv.paired, inv.ended, ?_, inv.order.snoc _ trivial, initiator, begun, inv.authenticated⟩,
      ⟨List.prefix_append _ _, rfl, id, id, id, id, id, id⟩⟩, ?_⟩
    · rw [List.countP_append]
      exact inv.binds
    · rintro control ⟨⟩
  | bound control a unbound called =>
    obtain ⟨initiator, begun⟩ := role _ _ called
    refine ⟨⟨⟨inv.paired, inv.ended, ?_, inv.order.snoc _ trivial, initiator, begun, inv.authenticated⟩,
      ⟨List.prefix_append _ _, rfl, id, fun _ => rfl, id, id, id, id⟩⟩, fun _ _ => rfl⟩
    have none := inv.binds
    rw [unbound] at none
    rw [List.countP_append, none]
    rfl

theorem opening_authStart (x y : Recorded (interactive P)) (result : Except AuthError Message) (c : Choice)
    (inv : OpeningInv x) (need : openingNeeds .authStart x)
    (executed : Session.exec .authStart c x.1 = some (result, y.1))
    (deeds : y.2 = x.2 ++ Session.note .authStart result x.1) :
    (OpeningInv y ∧ OpeningGrows x y) ∧ openingGives .authStart result y := by
  obtain ⟨t, log⟩ := y
  obtain rfl : log = _ := deeds
  have order : Justified Deed.calls (x.2 ++ [.started result.isOk]) := inv.order.snoc _ (inv.bound need.1)
  have binds : (x.2 ++ [Deed.started result.isOk]).countP Deed.binds = if x.1.authBound then 1 else 0 := by
    rw [List.countP_append]
    exact inv.binds
  have role : (x.1.mode = .connect →
      InteractiveAuthenticator.bound ((interactive P).start x.1.authenticator).2 = true →
        InteractiveAuthenticator.initiator ((interactive P).start x.1.authenticator).2 = true) := by
    rcases InteractiveAuthenticator.start_spec x.1.authenticator with ⟨e, same, _⟩ | ⟨_, initiator, _, same⟩
    · rw [show (interactive P).start x.1.authenticator = _ from same]
      exact inv.initiator
    · rw [show (interactive P).start x.1.authenticator = _ from same]
      exact fun _ _ => initiator
  cases executed
  refine ⟨⟨⟨inv.paired, inv.ended, binds, order, role, fun _ _ _ => need.2, inv.authenticated⟩,
    ⟨List.prefix_append _ _, rfl, id, id, id, id, id, id⟩⟩, ?_⟩
  intro hello made
  refine List.mem_append_right _ ?_
  rw [made]
  exact List.mem_cons_self

theorem step_answers (a b : InteractiveAuthenticator P) (m : Message) (r : InteractiveAuthenticator.StepResult)
    (called : a.step m = (r, b)) : r.hasOutbound = true → r.outbound.kind ≠ .hello := by
  cases InteractiveAuthenticator.step_spec a b m r called with
  | unbound => nofun
  | terminal => nofun
  | rejected => nofun
  | accepted keyed => exact fun _ other => by cases other
  | confirmed => nofun
  | completed keyed => exact fun _ other => by cases other

theorem step_of_initiator (a b : InteractiveAuthenticator P) (m : Message) (r : InteractiveAuthenticator.StepResult)
    (role : a.bound = true → a.initiator = true) (called : a.step m = (r, b)) :
    (b.bound = true → b.initiator = true) ∧
      (b.state ≠ .init ∧ b.state ≠ .failed ∨ r.err = none → a.state ≠ .init ∧ a.state ≠ .failed) := by
  cases InteractiveAuthenticator.step_spec a b m r called with
  | unbound => exact ⟨role, by rintro (running | clean); exacts [running, by cases clean]⟩
  | terminal => exact ⟨role, by rintro (running | clean); exacts [running, by cases clean]⟩
  | rejected e c set going kept failed =>
    refine ⟨fun _ => kept.initiator.trans (role set), ?_⟩
    rintro (running | clean)
    · exact absurd failed running.2
    · cases clean
  | accepted keyed set responder =>
    rw [role set] at responder
    cases responder
  | confirmed set responder =>
    rw [role set] at responder
    cases responder
  | completed keyed set initiator waiting accept =>
    obtain ⟨raw, shared, _, _, _, _, rfl⟩ := accept.agreed
    exact ⟨fun _ => initiator, fun _ => by rw [waiting]; decide⟩

theorem opening_authStep (x y : Recorded (interactive P)) (inbound : Message)
    (result : InteractiveAuthenticator.StepResult) (c : Choice) (inv : OpeningInv x)
    (executed : Session.exec (.authStep inbound) c x.1 = some (result, y.1)) (deeds : y.2 = x.2) :
    (OpeningInv y ∧ OpeningGrows x y) ∧ openingGives (.authStep inbound) result y := by
  obtain ⟨t, log⟩ := y
  obtain rfl : log = x.2 := deeds
  rcases called : InteractiveAuthenticator.step x.1.authenticator inbound with ⟨answer, a⟩
  have same := (Session.exec_frame _ c x.1 t result executed).stage rfl
  obtain ⟨rfl, stepped⟩ : result = answer ∧ t.authenticator = a := by
    simp only [Session.exec, Session.authStep, interactive, called] at executed
    split at executed <;> cases executed <;> exact ⟨rfl, rfl⟩
  have spec := fun connect => step_of_initiator _ _ _ _ (inv.initiator connect) called
  have begun : ∀ connect : x.1.mode = .connect, a.state ≠ .init ∧ a.state ≠ .failed ∨ result.err = none →
      x.1.authStarted = true := by
    intro connect running
    obtain ⟨fresh, going⟩ := (spec connect).2 running
    exact inv.begun connect fresh going
  refine ⟨opening_same x _ [] inv same (List.append_nil _).symm (deeds_kept x.2 inv.order) ?_ ?_,
    ?_, step_answers _ _ _ _ called⟩
  · rw [stepped]
    exact fun connect => (spec connect).1
  · rw [stepped]
    exact fun connect fresh going => begun connect (.inl ⟨fresh, going⟩)
  · rw [same.mode, same.authStarted]
    exact fun clean connect => begun connect (.inr clean)

theorem opening_sound {β : Type} (op : Op β) (c : Choice) (x y : Recorded (interactive P)) (result : β)
    (inv : OpeningInv x) (need : openingNeeds op x)
    (executed : (recordedMachine (interactive P)).exec op c x = some (result, y)) :
    (OpeningInv y ∧ OpeningGrows x y) ∧ openingGives op result y := by
  obtain ⟨executed, deeds⟩ := recorded_exec executed
  have framed := Session.exec_frame op c x.1 y.1 result executed
  have quiet : stageFields.any op.writes = false → op.writes .authenticator = false → op.telling = false →
      OpeningInv y ∧ OpeningGrows x y := by
    intro aside unasked silent
    refine opening_same x y _ inv (framed.stage aside) deeds
      (deeds_silent x.2 _ (fun d member => (note_silent op result x.1 silent d member).1) inv.order) ?_ ?_
    · rw [framed.authenticator unasked]
      exact inv.initiator
    · rw [framed.authenticator unasked]
      exact inv.begun
  cases op with
  | transition next => exact opening_transition next c x y result inv need executed (by simpa [Session.note] using deeds)
  | bindLocked => exact opening_bindLocked x y result inv (Option.some.inj executed) deeds
  | authStart => exact opening_authStart x y result c inv need executed deeds
  | authStep inbound =>
    exact opening_authStep x y inbound result c inv executed (by simpa [Session.note] using deeds)
  | sendText dc message =>
    obtain ⟨t, log⟩ := y
    obtain rfl : log = _ := deeds
    cases executed
    refine ⟨opening_same x _ _ inv (.refl _) rfl ⟨inv.order.snoc (.sent message _) need, ?_⟩ inv.initiator inv.begun, trivial⟩
    rw [List.countP_append]
    rfl
  | storeLocal fingerprint =>
    obtain ⟨t, log⟩ := y
    obtain rfl : log = x.2 ++ [] := deeds
    cases executed
    have order := deeds_kept x.2 inv.order
    exact ⟨⟨⟨inv.paired, inv.ended, order.2.trans inv.binds, order.1, inv.initiator, inv.begun, inv.authenticated⟩,
      ⟨List.prefix_append _ _, rfl, id, id, id, id, fun _ => need, id⟩⟩, need⟩
  | storeRemote fingerprint =>
    obtain ⟨t, log⟩ := y
    obtain rfl : log = x.2 ++ [] := deeds
    cases executed
    have order := deeds_kept x.2 inv.order
    exact ⟨⟨⟨inv.paired, inv.ended, order.2.trans inv.binds, order.1, inv.initiator, inv.begun, inv.authenticated⟩,
      ⟨List.prefix_append _ _, rfl, id, id, id, id, id, fun _ => need⟩⟩, need⟩
  | openControl =>
    obtain ⟨t, log⟩ := y
    obtain rfl : log = x.2 ++ [] := deeds
    cases executed
    have order := deeds_kept x.2 inv.order
    exact ⟨⟨⟨inv.paired, inv.ended, order.2.trans inv.binds, order.1, inv.initiator, inv.begun, inv.authenticated⟩,
      ⟨List.prefix_append _ _, rfl, id, id, id, fun _ => rfl, id, id⟩⟩, rfl⟩
  | claimStart =>
    obtain ⟨t, log⟩ := y
    obtain rfl : log = x.2 ++ [] := deeds
    simp only [Session.exec] at executed
    split at executed
    · cases executed
      refine ⟨opening_unmoved x inv, ?_⟩
      rintro ⟨⟩
    · cases executed
      have order := deeds_kept x.2 inv.order
      exact ⟨⟨⟨inv.paired, inv.ended, order.2.trans inv.binds, order.1, inv.initiator, fun _ _ _ => rfl, fun _ _ => rfl⟩,
        ⟨List.prefix_append _ _, rfl, id, id, fun _ => rfl, id, id, id⟩⟩, fun _ => rfl⟩
  | onceEnter =>
    obtain ⟨t, log⟩ := y
    obtain rfl : log = _ := deeds
    have order := deeds_silent x.2 _ (fun d member => (note_silent .onceEnter result x.1 rfl d member).1) inv.order
    simp only [Session.exec] at executed
    split at executed
    · cases executed
      refine ⟨⟨⟨inv.paired, ?_, order.2.trans inv.binds, order.1, inv.initiator, inv.begun, inv.authenticated⟩,
        ⟨List.prefix_append _ _, rfl, id, id, id, id, id, id⟩⟩, ?_⟩
      · rintro ⟨⟩
      · rintro ⟨⟩
    · cases executed
    · rename_i done
      cases executed
      exact ⟨opening_same x _ _ inv (.refl _) rfl order inv.initiator inv.begun, fun _ => inv.ended done⟩
  | onceExit =>
    obtain ⟨t, log⟩ := y
    obtain rfl : log = _ := deeds
    have order := deeds_silent x.2 _ (fun d member => (note_silent .onceExit result x.1 rfl d member).1) inv.order
    cases executed
    exact ⟨⟨⟨inv.paired, fun _ => need, order.2.trans inv.binds, order.1, inv.initiator, inv.begun, inv.authenticated⟩,
      ⟨List.prefix_append _ _, rfl, id, id, id, id, id, id⟩⟩, trivial⟩
  | isOneOf states =>
    refine ⟨quiet rfl rfl rfl, ?_⟩
    obtain ⟨t, log⟩ := y
    cases executed
    intro yes
    simpa using yes
  | _ => exact ⟨quiet rfl rfl rfl, trivial⟩

def openingDiscipline (P : Primitives) : Discipline (recordedMachine (interactive P)) where
  inv := OpeningInv
  grows := OpeningGrows
  refl _ := ⟨List.prefix_refl _, rfl, id, id, id, id, id, id⟩
  trans := OpeningGrows.trans
  meets _ _ := True
  needs := openingNeeds
  gives := openingGives
  sound op c x y result inv _ need executed := by
    obtain ⟨⟨holds, grown⟩, given⟩ := opening_sound op c x y result inv need executed
    exact ⟨holds, grown, given⟩

abbrev OpeningSafe {α : Type} (post : α → Recorded (interactive P) → Prop) (p : Prog Op α)
    (x : Recorded (interactive P)) : Prop := Safe (openingDiscipline P) post p x

theorem opening_perform {α : Type} {op : Op α} {x : Recorded (interactive P)}
    {post : α → Recorded (interactive P) → Prop} (needed : ∀ y, OpeningGrows x y → openingNeeds op y)
    (given : ∀ result y, OpeningGrows x y → openingGives op result y → post result y)
    (stable : ∀ result y z, OpeningGrows y z → post result y → post result z) :
    OpeningSafe post (perform op) x :=
  Safe.perform (fun y _ grown _ => needed y grown) (fun result y _ grown gave => given result y grown gave)
    fun result y z _ grown holds => stable result y z grown holds

theorem opening_op {α : Type} {op : Op α} (needless : ∀ y : Recorded (interactive P), openingNeeds op y)
    (x : Recorded (interactive P)) : OpeningSafe (fun _ _ => True) (perform op) x :=
  opening_perform (fun y _ => needless y) (fun _ _ _ _ => trivial) fun _ _ _ _ _ => trivial

theorem opening_over {α : Type} {op : Op α} {x : Recorded (interactive P)} (ends : α → Prop)
    (needless : ∀ y : Recorded (interactive P), openingNeeds op y)
    (finished : ∀ result (y : Recorded (interactive P)), openingGives op result y → ends result → y.1.state.Over) :
    OpeningSafe (fun result y => ends result → y.1.state.Over) (perform op) x :=
  opening_perform (fun y _ => needless y) (fun result y _ gave => finished result y gave)
    fun _ _ _ grown holds ends => grown.finished (holds ends)

theorem opening_end (next : SessionState) (final : next.Over) (closing : ∀ state : SessionState,
      state.transition next = none → state.Over) (x : Recorded (interactive P)) :
    OpeningSafe (fun _ y => y.1.state.Over) (perform (.transition next)) x := by
  refine opening_perform ?_ ?_ fun _ _ _ grown holds => grown.finished holds
  · rintro y _ rfl
    exact absurd final (by decide)
  · intro error y _ gave
    by_cases moved : error = none
    · rw [gave.1 moved]
      exact final
    · exact closing _ (gave.2 moved)

theorem opening_leave {α : Type} (value : α) (x : Recorded (interactive P)) (finished : x.1.state.Over) :
    OpeningSafe (fun _ y => y.1.state.Over) (do perform .onceExit; pure value) x := by
  refine Safe.bind (opening_perform (fun y grown => grown.finished finished) (fun _ y grown _ => grown.finished finished)
    fun _ _ _ grown holds => grown.finished holds) fun _ y _ _ ended => ?_
  exact Safe.pure fun z _ grown => grown.finished ended

theorem opening_shut (x : Recorded (interactive P)) (finished : x.1.state.Over) :
    OpeningSafe (fun _ y => y.1.state.Over) leaveOnce x := by
  unfold leaveOnce
  refine Safe.bind (opening_op (by intro _; trivial) x) fun closed y _ grown _ => ?_
  split
  · refine Safe.bind (opening_op (by intro _; trivial) y) fun _ z _ later _ => ?_
    exact opening_leave () z (later.finished (grown.finished finished))
  · exact opening_leave () y (grown.finished finished)

theorem opening_fail (err : SessionError) (x : Recorded (interactive P)) :
    OpeningSafe (fun _ y => y.1.state.Over) (fail err) x := by
  unfold fail
  refine Safe.bind (opening_op (by intro _; trivial) x) fun _ y _ _ _ => ?_
  refine Safe.bind (opening_over (fun first : Bool => first = false) (fun _ => trivial) fun _ _ gave => gave)
    fun first z _ _ ended => ?_
  split
  · refine Safe.bind (opening_over (fun yes : Bool => yes = true) (fun _ => trivial) ?_) fun yes w _ _ finished => ?_
    · intro yes w gave set
      rcases List.mem_cons.mp (gave set) with failed | closed
      · exact .inl failed
      · exact .inr (.inr (List.mem_singleton.mp closed))
    split
    · refine Safe.bind (opening_end .failed (.inl rfl) (by intro state; cases state <;> decide) w) fun _ v _ _ finished => ?_
      exact opening_shut v finished
    · rename_i already
      exact opening_shut w (finished (by simpa using already))
  · rename_i late
    exact Safe.pure fun w _ grown => grown.finished (ended (by simpa using late))

theorem opening_close (x : Recorded (interactive P)) : OpeningSafe (fun _ _ => True) close x := by
  unfold close
  have leave : ∀ y : Recorded (interactive P), y.1.state.Over →
      OpeningSafe (fun _ _ => True) (do perform .onceExit; perform .readCloseErr) y := by
    intro y finished
    refine Safe.bind (opening_perform (fun z grown => grown.finished finished) (fun _ _ _ _ => trivial)
      fun _ _ _ _ _ => trivial) fun _ z _ _ _ => ?_
    exact opening_op (by intro _; trivial) z
  have shut : ∀ y : Recorded (interactive P), y.1.state.Over → OpeningSafe (fun _ _ => True)
      (do
        perform (.completeAuthResult (some .sessionClosed) false)
        if ← perform .pcClose then
          if ← perform (.isOneOf [.closing]) then
            let _ ← perform (.transition .closed)
        else
          perform .setCloseErr
        perform .onceExit
        perform .readCloseErr) y := by
    intro y finished
    refine Safe.bind (opening_op (by intro _; trivial) y) fun _ z _ first _ => ?_
    refine Safe.bind (opening_op (by intro _; trivial) z) fun closed w _ second _ => ?_
    have overW := second.finished (first.finished finished)
    split
    · refine Safe.bind (opening_op (by intro _; trivial) w) fun closing v _ third _ => ?_
      split
      · refine Safe.bind (opening_op (by rintro _ ⟨⟩) v) fun _ u _ fourth _ => ?_
        exact leave u (fourth.finished (third.finished overW))
      · exact leave v (third.finished overW)
    · refine Safe.bind (opening_op (by intro _; trivial) w) fun _ v _ third _ => ?_
      exact leave v (third.finished overW)
  refine Safe.bind (opening_op (by intro _; trivial) x) fun first y _ _ _ => ?_
  split
  · refine Safe.bind (opening_over (fun yes : Bool => yes = true) (fun _ => trivial) ?_) fun yes z _ _ finished => ?_
    · intro yes z gave set
      rcases List.mem_cons.mp (gave set) with closed | failed
      · exact .inr (.inr closed)
      · exact .inl (List.mem_singleton.mp failed)
    split
    · refine Safe.bind (opening_end .closing (.inr (.inl rfl)) (by intro state; cases state <;> decide) z)
        fun _ w _ _ finished => ?_
      exact shut w finished
    · rename_i already
      exact shut z (finished (by simpa using already))
  · exact opening_op (by intro _; trivial) y

theorem opening_bind (x : Recorded (interactive P)) :
    OpeningSafe (fun result y => ∀ control, result = .ok control → y.1.authBound = true) (perform .bindLocked) x :=
  opening_perform (fun _ _ => trivial) (fun _ _ _ gave => gave)
    fun _ _ _ grown bound control ok => grown.authBound (bound control ok)

theorem opening_claim (x : Recorded (interactive P)) :
    OpeningSafe (fun granted y => granted = true → y.1.authStarted = true) (perform .claimStart) x :=
  opening_perform (fun _ _ => trivial) (fun _ _ _ gave => gave)
    fun _ _ _ grown set granted => grown.authStarted (set granted)

theorem opening_start (x : Recorded (interactive P)) (bound : x.1.authBound = true) (claimed : x.1.authStarted = true) :
    OpeningSafe (fun result y => ∀ hello, result = .ok hello → .started true ∈ y.2) (perform .authStart) x :=
  opening_perform (fun _ grown => ⟨grown.authBound bound, grown.authStarted claimed⟩) (fun _ _ _ gave => gave)
    fun _ _ _ grown made hello ok => grown.deeds.subset (made hello ok)

theorem opening_send (x : Recorded (interactive P)) (control : DataChannel) (message : Message)
    (allowed : message.kind = .hello → .started true ∈ x.2) :
    OpeningSafe (fun _ _ => True) (perform (.sendText control message)) x :=
  opening_perform (fun _ grown hello => grown.deeds.subset (allowed hello)) (fun _ _ _ _ => trivial)
    fun _ _ _ _ _ => trivial

theorem opening_maybeSendAuth (x : Recorded (interactive P)) :
    OpeningSafe (fun _ _ => True) maybeSendAuth x := by
  unfold maybeSendAuth
  have failing : ∀ err (y : Recorded (interactive P)), OpeningSafe (fun _ _ => True) (fail err) y :=
    fun err y => (opening_fail err y).weaken fun _ _ _ _ => trivial
  have done : ∀ y : Recorded (interactive P), OpeningSafe (fun _ _ => True) (pure ()) y :=
    fun _ => Safe.pure fun _ _ _ => trivial
  refine Safe.bind (opening_op (by intro _; trivial) x) fun pending y _ _ _ => ?_
  split
  · exact done y
  · refine Safe.bind (opening_op (by intro _; trivial) y) fun opened z _ _ _ => ?_
    split
    · exact done z
    · refine Safe.bind (opening_bind z) fun tried w _ _ bound => ?_
      split
      · exact done w
      · exact failing _ w
      · rename_i control
        refine Safe.bind (opening_claim w) fun granted v _ grown set => ?_
        split
        · rename_i claimed
          refine Safe.bind (opening_start v (grown.authBound (bound control rfl)) (set claimed))
            fun result u _ _ made => ?_
          split
          · exact failing _ u
          · rename_i hello
            refine Safe.bind (opening_send u control hello fun _ => made hello rfl) fun sent r _ _ _ => ?_
            split
            · exact failing _ r
            · exact done r
        · exact done v

theorem opening_finishAuth (x : Recorded (interactive P))
    (started : x.1.mode = .connect → x.1.authStarted = true) : OpeningSafe (fun _ _ => True) finishAuth x := by
  unfold finishAuth
  have entered : OpeningSafe (fun _ _ => True) (perform (.transition .authenticated)) x :=
    opening_perform (fun y grown _ connect => grown.authStarted (started (grown.mode ▸ connect)))
      (fun _ _ _ _ => trivial) fun _ _ _ _ _ => trivial
  refine Safe.bind entered fun error y _ _ _ => ?_
  split
  · exact Safe.pure fun _ _ _ => trivial
  · refine Safe.bind (opening_op (by intro _; trivial) y) fun _ z _ _ _ => ?_
    exact Safe.pure fun _ _ _ => trivial

theorem opening_handleControlMessage (decodeMessage : Bytes → Option Message) (data : Bytes)
    (x : Recorded (interactive P)) :
    OpeningSafe (fun _ _ => True) (handleControlMessage decodeMessage data) x := by
  unfold handleControlMessage
  have returned : ∀ (error : Option SessionError) (y : Recorded (interactive P)),
      OpeningSafe (fun _ _ => True) (pure error) y := fun _ _ => Safe.pure fun _ _ _ => trivial
  refine Safe.bind (opening_op (by intro _; trivial) x) fun pending y _ _ _ => ?_
  split
  · exact returned _ y
  · split
    · exact returned _ y
    · rename_i inbound decoded
      refine Safe.bind (opening_op (by intro _; trivial) y) fun bound z _ _ _ => ?_
      split
      · exact returned _ z
      · rename_i control
        have stepped : OpeningSafe (fun result w => (result.err = none → w.1.mode = .connect → w.1.authStarted = true) ∧
            (result.hasOutbound = true → result.outbound.kind ≠ .hello)) (perform (.authStep inbound)) z :=
          opening_perform (fun _ _ => trivial) (fun _ _ _ gave => gave) fun _ _ _ grown gave =>
            ⟨fun clean connect => grown.authStarted (gave.1 clean (grown.mode ▸ connect)), gave.2⟩
        refine Safe.bind stepped fun result w _ _ gave => ?_
        split
        · exact returned _ w
        · rename_i clean
          have sent : OpeningSafe (fun _ _ => True) (sendOutbound control result) w := by
            unfold sendOutbound
            split
            · rename_i outbound
              exact opening_send w control _ fun hello => absurd hello (gave.2 outbound)
            · exact Safe.pure fun _ _ _ => trivial
          refine Safe.bind sent fun sent v _ grown _ => ?_
          split
          · exact returned _ v
          · split
            · exact opening_finishAuth v fun connect => grown.authStarted (gave.1 clean (grown.mode ▸ connect))
            · exact returned _ v

theorem opening_plain {β : Type} (op : Op β) (plain : op.plain = true) (x : Recorded (interactive P)) :
    openingNeeds op x := by
  cases op with
  | transition next =>
    rintro rfl
    cases plain
  | sendText => cases plain
  | storeLocal => cases plain
  | storeRemote => cases plain
  | authStart => cases plain
  | onceExit => cases plain
  | _ => trivial

theorem opening_composed : Composed fun p => ∀ x : Recorded (interactive P), OpeningSafe (fun _ _ => True) p x where
  pure _ _ := Safe.pure fun _ _ _ => trivial
  bind first rest x := Safe.bind (first x) fun value y _ _ _ => rest value y
  plain op plain x := opening_op (opening_plain op plain) x
  fail err x := (opening_fail err x).weaken fun _ _ _ _ => trivial

theorem toUpper_nonempty (s : Bytes) (nonempty : s ≠ []) : toUpper s ≠ [] := by
  cases s with
  | nil => exact absurd rfl nonempty
  | cons b rest =>
    have encoded : ∀ r, encodeRune r ≠ [] := by
      intro r
      unfold encodeRune
      repeat' split
      all_goals simp
    simp [toUpper, runes_cons, encoded]

theorem extractTransportFingerprint_nonempty (unmarshalString : Bytes → Option SessionDescription) (raw f : Bytes)
    (ok : extractTransportFingerprint unmarshalString raw = .ok f) : f ≠ [] := by
  cases parsed : unmarshalString raw with
  | none =>
    rw [extractTransportFingerprint, parsed] at ok
    cases ok
  | some desc =>
    rcases extractTransportFingerprint_ok unmarshalString raw desc f parsed ok with ⟨own, rfl⟩ | ⟨_, session, rfl⟩
    · exact toUpper_nonempty _ own
    · exact toUpper_nonempty _ session

section Methods

variable (unmarshalString : Bytes → Option SessionDescription) (decodeMessage : Bytes → Option Message)

theorem opening_maybeEnterAuthPending (x : Recorded (interactive P)) :
    OpeningSafe (fun _ _ => True) maybeEnterAuthPending x := by
  unfold maybeEnterAuthPending
  refine Safe.bind (opening_op (by intro _; trivial) x) fun ready y _ _ _ => ?_
  split
  · exact Safe.pure fun _ _ _ => trivial
  · refine Safe.bind (opening_op (by intro _; trivial) y) fun signaling z _ _ _ => ?_
    split
    · refine Safe.bind (opening_op (by rintro _ ⟨⟩) z) fun error w _ _ _ => ?_
      split
      · exact (opening_fail _ w).weaken fun _ _ _ _ => trivial
      · exact opening_maybeSendAuth w
    · exact opening_maybeSendAuth z

theorem opening_setLocalDescription (type : SDPType) (x : Recorded (interactive P)) :
    OpeningSafe (fun error y => error = none → y.1.localFingerprint ≠ [])
      (setLocalDescription unmarshalString type) x := by
  unfold setLocalDescription
  refine Safe.bind (opening_op (by intro _; trivial) x) fun set y _ _ _ => ?_
  split
  · refine Safe.bind (opening_op (by intro _; trivial) y) fun described z _ _ _ => ?_
    split
    · exact Safe.pure fun _ _ _ => nofun
    · split
      · exact Safe.pure fun _ _ _ => nofun
      · rename_i sdp fingerprint extracted
        have known := extractTransportFingerprint_nonempty unmarshalString _ _ extracted
        have stored : OpeningSafe (fun _ w => w.1.localFingerprint ≠ []) (perform (.storeLocal fingerprint)) z :=
          opening_perform (fun _ _ => known) (fun _ _ _ gave => gave) fun _ _ _ grown set => grown.localSet set
        refine Safe.bind stored fun _ w _ _ set => ?_
        refine Safe.bind (opening_maybeEnterAuthPending w) fun _ v _ grown _ => ?_
        exact Safe.pure fun u _ later _ => later.localSet (grown.localSet set)
  · exact Safe.pure fun _ _ _ => nofun

theorem opening_flushCandidates (pending : List ICECandidate) (x : Recorded (interactive P)) :
    OpeningSafe (fun _ _ => True) (flushCandidates pending) x := by
  induction pending generalizing x with
  | nil => exact Safe.pure fun _ _ _ => trivial
  | cons candidate rest ih =>
    refine Safe.bind (opening_op (by intro _; trivial) x) fun added y _ _ _ => ?_
    split
    · exact ih y
    · exact Safe.pure fun _ _ _ => trivial

theorem opening_setRemoteDescription (type : SDPType) (sdp : Bytes) (x : Recorded (interactive P)) :
    OpeningSafe (fun error y => error = none → y.1.remoteFingerprint ≠ [])
      (setRemoteDescription unmarshalString type sdp) x := by
  unfold setRemoteDescription
  refine Safe.bind (opening_op (by intro _; trivial) x) fun set y _ _ _ => ?_
  split
  · split
    · exact Safe.pure fun _ _ _ => nofun
    · rename_i fingerprint extracted
      have known := extractTransportFingerprint_nonempty unmarshalString _ _ extracted
      have stored : OpeningSafe (fun _ w => w.1.remoteFingerprint ≠ []) (perform (.storeRemote fingerprint)) y :=
        opening_perform (fun _ _ => known) (fun _ _ _ gave => gave) fun _ _ _ grown set => grown.remoteSet set
      refine Safe.bind stored fun pending z _ _ set => ?_
      refine Safe.bind (opening_flushCandidates pending z) fun flushed w _ grownW _ => ?_
      split
      · refine Safe.bind (opening_maybeEnterAuthPending w) fun _ v _ grownV _ => ?_
        exact Safe.pure fun u _ later _ => later.remoteSet (grownV.remoteSet (grownW.remoteSet set))
      · exact Safe.pure fun _ _ _ => nofun
  · exact Safe.pure fun _ _ _ => nofun

theorem opening_describe (type : SDPType) (x : Recorded (interactive P)) :
    OpeningSafe (fun result y => ∀ sdp, result = .ok sdp → y.1.localFingerprint ≠ [])
      (describe unmarshalString type) x := by
  unfold describe
  refine Safe.bind (opening_op (by intro _; trivial) x) fun made y _ _ _ => ?_
  split
  · exact Safe.pure fun _ _ _ => nofun
  · refine Safe.bind (opening_setLocalDescription unmarshalString type y) fun error z _ _ set => ?_
    split
    · exact Safe.pure fun _ _ _ => nofun
    · exact Safe.pure fun _ _ grown _ _ => grown.localSet (set rfl)

theorem opening_handleOffer (offer : Bytes) (x : Recorded (interactive P)) :
    OpeningSafe (fun result y => ∀ sdp, result = .ok sdp → y.1.localFingerprint ≠ [] ∧ y.1.remoteFingerprint ≠ [])
      (handleOffer unmarshalString offer) x := by
  unfold handleOffer
  refine Safe.bind (opening_setRemoteDescription unmarshalString .offer offer x) fun error y _ _ set => ?_
  split
  · exact Safe.pure fun _ _ _ => nofun
  · have kept := (opening_describe unmarshalString .answer y).keep (fun z => z.1.remoteFingerprint ≠ [])
      (fun _ _ grown => OpeningGrows.remoteSet grown) (set rfl)
    exact kept.weaken fun result z _ both sdp ok => ⟨both.1 sdp ok, both.2⟩

def Outcome.failed : Outcome → Bool
  | .finished (some _) => true
  | .description (.error _) => true
  | _ => false

def Outcome.Effect (x : Recorded A) (outcome : Outcome) : Call → Prop
  | .createOffer => outcome.failed = false → x.1.localFingerprint ≠ []
  | .handleOffer _ => outcome.failed = false → x.1.localFingerprint ≠ [] ∧ x.1.remoteFingerprint ≠ []
  | .handleAnswer _ => outcome.failed = false → x.1.remoteFingerprint ≠ []
  | .controlOpen _ => x.1.controlOpen = true
  | _ => True

theorem opening_onControlOpen (x : Recorded (interactive P)) :
    OpeningSafe (fun _ y => y.1.controlOpen = true) onControlOpen x := by
  unfold onControlOpen
  have opened : OpeningSafe (fun _ y => y.1.controlOpen = true) (perform .openControl) x :=
    opening_perform (fun _ _ => trivial) (fun _ _ _ gave => gave) fun _ _ _ grown set => grown.controlOpen set
  refine Safe.bind opened fun _ y _ _ set => ?_
  exact ((opening_maybeSendAuth y).keep (fun z => z.1.controlOpen = true)
    (fun _ _ grown => OpeningGrows.controlOpen grown) set).weaken fun _ _ _ both => both.2

theorem opening_body (hasOnStream : Bool) (call : Call) (x : Recorded (interactive P)) :
    OpeningSafe (fun outcome y => outcome.Effect y call) (body unmarshalString decodeMessage hasOnStream call) x := by
  have aside : call.side = true →
      OpeningSafe (fun outcome y => outcome.Effect y call) (body unmarshalString decodeMessage hasOnStream call) x := by
    intro side
    refine (opening_composed.side unmarshalString decodeMessage opening_close
      (fun _ => opening_op fun _ => trivial) hasOnStream call side x).weaken ?_
    intro outcome y _ _
    cases call <;> trivial
  cases call with
  | createOffer =>
    refine Safe.bind (opening_describe unmarshalString .offer x) fun result y _ _ set => ?_
    refine Safe.pure fun z _ grown => ?_
    cases result with
    | error e => nofun
    | ok sdp => exact fun _ => grown.localSet (set sdp rfl)
  | handleOffer offer =>
    refine Safe.bind (opening_handleOffer unmarshalString offer x) fun result y _ _ set => ?_
    refine Safe.pure fun z _ grown => ?_
    cases result with
    | error e => nofun
    | ok sdp => exact fun _ => ⟨grown.localSet (set sdp rfl).1, grown.remoteSet (set sdp rfl).2⟩
  | handleAnswer answer =>
    refine Safe.bind (opening_setRemoteDescription unmarshalString .answer answer x) fun error y _ _ set => ?_
    refine Safe.pure fun z _ grown => ?_
    cases error with
    | some e => nofun
    | none => exact fun _ => grown.remoteSet (set rfl)
  | addRemoteCandidate candidate =>
    have added := opening_composed.addRemoteCandidate candidate
      (fun y => opening_op (by intro _; trivial) y) (fun y => opening_op (by intro _; trivial) y) x
    exact Safe.bind added fun _ y _ _ _ => Safe.pure fun _ _ _ => trivial
  | controlOpen dc =>
    refine Safe.bind (opening_onControlOpen x) fun _ y _ _ set => ?_
    exact Safe.pure fun _ _ grown => grown.controlOpen set
  | controlMessage dc data =>
    have handled := opening_composed.onControlMessage decodeMessage data
      (fun y => opening_handleControlMessage decodeMessage data y) x
    exact Safe.bind handled fun _ y _ _ _ => Safe.pure fun _ _ _ => trivial
  | _ => exact aside rfl

end Methods

end Discipline

end Rtc2Tcp.WebRTC

import Rtc2Tcp.WebRTC.Binding
import Rtc2Tcp.WebRTC.Claim
import Rtc2Tcp.WebRTC.Duties

namespace Rtc2Tcp.WebRTC

open Octets Go Auth Goroutine

variable {P : Primitives}

def Deed.opens : Deed → Bool
  | .started ok => !ok
  | .sent message _ => decide (message.kind = .hello)
  | _ => false

theorem starts_spends : Deed.Spends Deed.starts where
  opening d used := by
    cases d with
    | started => rfl
    | _ => cases used
  bound _ _ := rfl
  failed := rfl
  once _ _ _ := rfl

theorem opens_spends : Deed.Spends Deed.opens where
  opening d used := by
    cases d with
    | started => rfl
    | sent => exact used
    | _ => cases used
  bound _ _ := rfl
  failed := rfl
  once message _ hello := by simp [Deed.opens, hello]

theorem calls_opening (before : List Deed) (d : Deed) (called : Deed.calls before d) :
    Deed.calls (before.filter Deed.opening) d := by
  cases d with
  | started ok =>
    obtain ⟨material, member⟩ := called
    exact ⟨material, List.mem_filter.mpr ⟨member, rfl⟩⟩
  | sent message ok => exact fun hello => List.mem_filter.mpr ⟨called hello, rfl⟩
  | _ => trivial

theorem justified_opening (deeds : List Deed) (ordered : Justified Deed.calls deeds) :
    Justified Deed.calls (deeds.filter Deed.opening) := by
  intro before d after split
  obtain ⟨left, right, rfl, rfl, rest⟩ := List.filter_eq_append_iff.mp split
  obtain ⟨skipped, later, rfl, silent, _, _⟩ := List.filter_eq_cons_iff.mp rest
  have called := calls_opening (left ++ skipped) d (ordered (left ++ skipped) d later (by rw [List.append_assoc]))
  have none : skipped.filter Deed.opening = [] := List.filter_eq_nil_iff.mpr silent
  rwa [List.filter_append, none, List.append_nil] at called

theorem count_opening (deeds : List Deed) (kind : Deed → Bool) (opening : ∀ d, kind d = true → d.opening = true) :
    (deeds.filter Deed.opening).countP kind = deeds.countP kind := by
  rw [List.countP_filter]
  refine List.countP_congr fun d _ => ?_
  simp only [Bool.and_eq_true]
  exact ⟨fun both => both.1, fun holds => ⟨holds, opening d holds⟩⟩

theorem Deed.opening_cases (d : Deed) (opening : d.opening = true) (sound : d.fault = false) :
    (∃ material, d = .bound material true) ∨ d = .started true ∨
      (∃ message, message.kind = .hello ∧ d = .sent message true) := by
  cases d with
  | bound material ok =>
    obtain rfl : ok = true := by simpa [Deed.fault] using sound
    exact .inl ⟨material, rfl⟩
  | started ok =>
    obtain rfl : ok = true := by simpa [Deed.fault] using sound
    exact .inr (.inl rfl)
  | sent message ok =>
    obtain rfl : ok = true := by simpa [Deed.fault] using sound
    exact .inr (.inr ⟨message, by simpa [Deed.opening] using opening, rfl⟩)
  | _ => cases opening

theorem opening_length (deeds : List Deed) (only : ∀ d ∈ deeds, d.opening = true)
    (sound : ∀ d ∈ deeds, d.fault = false) :
    deeds.length = deeds.countP Deed.binds + deeds.countP Deed.starts + deeds.countP Deed.hello := by
  induction deeds with
  | nil => rfl
  | cons d rest ih =>
    have shorter := ih (fun e member => only e (List.mem_cons_of_mem _ member))
      (fun e member => sound e (List.mem_cons_of_mem _ member))
    rw [List.length_cons, shorter, List.countP_cons, List.countP_cons, List.countP_cons]
    rcases d.opening_cases (only d List.mem_cons_self) (sound d List.mem_cons_self) with
      ⟨material, rfl⟩ | rfl | ⟨message, hello, rfl⟩
    · simp only [Deed.binds, Deed.starts, Deed.hello, if_true, Bool.false_eq_true, if_false]
      omega
    · simp only [Deed.binds, Deed.starts, Deed.hello, if_true, Bool.false_eq_true, if_false]
      omega
    · simp only [Deed.binds, Deed.starts, Deed.hello, hello, decide_true, if_true, Bool.false_eq_true, if_false]
      omega

theorem opening_shape (deeds : List Deed) (ordered : Justified Deed.calls deeds) (only : ∀ d ∈ deeds, d.opening = true)
    (sound : ∀ d ∈ deeds, d.fault = false) (bind : deeds.countP Deed.binds = 1) (start : deeds.countP Deed.starts = 1)
    (hello : deeds.countP Deed.hello = 1) :
    ∃ material message, message.kind = .hello ∧
      deeds = [.bound material true, .started true, .sent message true] := by
  have length := opening_length deeds only sound
  rw [bind, start, hello] at length
  obtain ⟨first, second, third, rfl⟩ := List.length_eq_three.mp length
  have one := first.opening_cases (only first (by simp)) (sound first (by simp))
  have two := second.opening_cases (only second (by simp)) (sound second (by simp))
  have three := third.opening_cases (only third (by simp)) (sound third (by simp))
  rcases one with ⟨material, rfl⟩ | rfl | ⟨message, kind, rfl⟩
  · rcases two with ⟨other, rfl⟩ | rfl | ⟨message, kind, rfl⟩
    · simp [Deed.binds, List.countP_cons] at bind
    · rcases three with ⟨other, rfl⟩ | rfl | ⟨message, kind, rfl⟩
      · simp [Deed.hello] at hello
      · simp [Deed.hello] at hello
      · exact ⟨material, message, kind, rfl⟩
    · have early := ordered [.bound material true] _ _ rfl kind
      simp at early
  · obtain ⟨material, early⟩ := ordered [] _ _ rfl
    cases early
  · have early := ordered [] _ _ rfl kind
    cases early

section Runs

variable (unmarshalString : Bytes → Option SessionDescription) (decodeMessage : Bytes → Option Message)
  (hasOnStream : Bool)

abbrev SessionPool (P : Primitives) := Pool Op (Recorded (interactive P)) Call Outcome

structure Opened (mode : PeerMode) (total : Nat) (p : SessionPool P) : Prop where
  mode : p.shared.1.mode = mode
  certified : Certified (S := recordedSystem unmarshalString decodeMessage (interactive P) hasOnStream)
    (openingDiscipline P) (fun _ call outcome x => outcome.Effect x call) p
  starts : (claimLedger P Deed.starts starts_spends).Balanced Call.limit (fun _ left _ => left = 0) total p
  opens : (claimLedger P Deed.opens opens_spends).Balanced Call.limit (fun _ left _ => left = 0) total p
  entered : (enterDuty P).Minded (fun call => call.side = false) Call.excused p
  claimed : (claimDuty P).Minded (fun call => call.side = false) Call.excused p
  faults : (faultDuty P).Minded (fun call => call.side = false) Call.excused p

variable {unmarshalString decodeMessage hasOnStream}

theorem balanced_kept {spent : Deed → Bool} (spends : Deed.Spends spent) (total : Nat) (p q : SessionPool P)
    (m : Move Choice Call)
    (stepped : (recordedSystem unmarshalString decodeMessage (interactive P) hasOnStream).step p m = some q)
    (balanced : (claimLedger P spent spends).Balanced Call.limit (fun _ left _ => left = 0) total p) :
    (claimLedger P spent spends).Balanced Call.limit (fun _ left _ => left = 0) total q := by
  let system := recordedSystem unmarshalString decodeMessage (interactive P) hasOnStream
  let L : Ledger system.toMachine Nat := claimLedger P spent spends
  have next := balanced_step (L := L) p q m (fun _ => 0) total trivial
    (fun call x y entered => by rw [recorded_enter unmarshalString decodeMessage hasOnStream call x y entered])
    (claim_body spends unmarshalString decodeMessage hasOnStream) balanced stepped
  cases m with
  | spawn call => exact next
  | run index choice => exact next

theorem opened_step (mode : PeerMode) (total : Nat) (p q : SessionPool P) (m : Move Choice Call)
    (opened : Opened unmarshalString decodeMessage hasOnStream mode total p)
    (stepped : (recordedSystem unmarshalString decodeMessage (interactive P) hasOnStream).step p m = some q) :
    Opened unmarshalString decodeMessage hasOnStream mode total q := by
  let system := recordedSystem unmarshalString decodeMessage (interactive P) hasOnStream
  let D : Discipline system.toMachine := openingDiscipline P
  have same := recorded_enter (A := interactive P) unmarshalString decodeMessage hasOnStream
  have met : D.Met p m := by
    cases m with
    | spawn => trivial
    | run index choice =>
      simp only [Discipline.Met]
      split <;> trivial
  have certified := certified_step p q m opened.certified
    (fun call x y entered holds => by
      rw [same call x y entered]
      exact ⟨holds, D.refl x⟩)
    (fun call x _ _ => opening_body unmarshalString decodeMessage hasOnStream call x) met stepped
  have minded : ∀ T : Duty system.toMachine, T.inv p.shared →
      (∀ call, Minds T (call.side = false) call.excused (system.body call)) →
      T.Minded (fun call => call.side = false) Call.excused p → T.Minded (fun call => call.side = false) Call.excused q :=
    fun T inv fresh minded => minded_step p q m inv
      (fun call x y entered pending => by rwa [same call x y entered] at pending) fresh minded stepped
  exact {
    mode := certified.2.mode.trans opened.mode
    certified := certified.1
    starts := balanced_kept starts_spends total p q m stepped opened.starts
    opens := balanced_kept opens_spends total p q m stepped opened.opens
    entered := minded (enterDuty P) opened.certified.inv (enter_body unmarshalString decodeMessage hasOnStream) opened.entered
    claimed := minded (claimDuty P) opened.certified.inv (claim_minded unmarshalString decodeMessage hasOnStream)
      opened.claimed
    faults := minded (faultDuty P) opened.certified.inv (fault_body unmarshalString decodeMessage hasOnStream) opened.faults }

theorem opened_initial (secret scheme : Bytes) (rng : P.Reader) (cfg : SessionConfig (interactive P))
    (fresh : newInteractiveAuthenticator secret scheme rng = .ok cfg.authenticator) (created : Bool)
    (control : Option DataChannel) (s : Session (interactive P)) (ok : newSession cfg created control = .ok s) :
    Opened unmarshalString decodeMessage hasOnStream cfg.mode s.unclaimed ⟨(s, []), []⟩ := by
  have starts := newSession_starts cfg created control s ok
  obtain ⟨_, _, init, unbound, _, _⟩ := InteractiveAuthenticator.newInteractiveAuthenticator_fresh _ _ _ _ fresh
  have idle : ∀ T : Duty (recordedMachine (interactive P)), ¬ T.pending (s, []) →
      T.Minded (fun call => call.side = false) Call.excused ⟨(s, []), []⟩ :=
    fun T rest => ⟨nofun, fun pending => absurd pending rest⟩
  have inv : OpeningInv (s, []) := by
    refine ⟨?_, ?_, ?_, Justified.nil, ?_, ?_, ?_⟩
    · rw [starts.state]
      decide
    · rw [starts.closeOnce]
      nofun
    · rw [starts.authBound]
      rfl
    · rw [starts.authenticator, unbound]
      nofun
    · rw [starts.authenticator, init]
      exact fun _ started => absurd rfl started
    · rw [starts.state]
      rintro _ (other | other) <;> cases other
  exact {
    mode := starts.mode
    certified := ⟨inv, by simp⟩
    starts := ⟨[], .nil, by simp [claimLedger]⟩
    opens := ⟨[], .nil, by simp [claimLedger]⟩
    entered := idle _ fun pending => pending.1 starts.localFingerprint
    claimed := idle _ fun pending => pending.2.1 starts.localFingerprint
    faults := idle _ fun pending => by simpa using pending.1 }

/-- Both descriptions are set and the control channel's `OnOpen` has run: the calls that take part
    have all returned, those that set a description without an error. -/
structure Negotiated (p : SessionPool P) : Prop where
  returned : ∀ thread ∈ p.threads, thread.call.side = false →
    ∃ outcome, thread.prog = .done outcome ∧ ¬ thread.call.excused outcome
  opened : ∃ thread ∈ p.threads, ∃ dc, thread.call = .controlOpen dc
  localSet : ∃ thread ∈ p.threads, thread.call = .createOffer ∨ ∃ sdp, thread.call = .handleOffer sdp
  remoteSet : ∃ thread ∈ p.threads, (∃ sdp, thread.call = .handleAnswer sdp) ∨ ∃ sdp, thread.call = .handleOffer sdp

theorem negotiated_ready (mode : PeerMode) (total : Nat) (p : SessionPool P)
    (opened : Opened unmarshalString decodeMessage hasOnStream mode total p) (negotiated : Negotiated p) :
    p.shared.1.controlOpen = true ∧ p.shared.1.localFingerprint ≠ [] ∧ p.shared.1.remoteFingerprint ≠ [] := by
  have effect : ∀ thread ∈ p.threads, thread.call.side = false →
      ∃ outcome : Outcome, outcome.Effect p.shared thread.call ∧ ¬ thread.call.excused outcome := by
    intro thread member side
    obtain ⟨outcome, done, fine⟩ := negotiated.returned thread member side
    obtain ⟨i, found⟩ := List.getElem?_of_mem member
    obtain ⟨call, prog⟩ := thread
    obtain rfl : prog = .done outcome := done
    have certified := opened.certified.threads i call _ found p.shared opened.certified.inv
      ((openingDiscipline P).refl _)
    exact ⟨outcome, certified, fine⟩
  have unfailed : ∀ (call : Call) (outcome : Outcome), call.describes = true → ¬ call.excused outcome →
      outcome.failed = false := by
    intro call outcome describes fine
    simpa [Call.excused, describes] using fine
  obtain ⟨⟨call, prog⟩, member, dc, same⟩ := negotiated.opened
  obtain rfl : call = .controlOpen dc := same
  obtain ⟨_, controlOpen, _⟩ := effect _ member rfl
  refine ⟨controlOpen, ?_, ?_⟩
  · obtain ⟨⟨call, prog⟩, member, same | ⟨sdp, same⟩⟩ := negotiated.localSet
    · obtain rfl : call = .createOffer := same
      obtain ⟨outcome, set, fine⟩ := effect _ member rfl
      exact set (unfailed .createOffer outcome rfl fine)
    · obtain rfl : call = .handleOffer sdp := same
      obtain ⟨outcome, set, fine⟩ := effect _ member rfl
      exact (set (unfailed (.handleOffer sdp) outcome rfl fine)).1
  · obtain ⟨⟨call, prog⟩, member, ⟨sdp, same⟩ | ⟨sdp, same⟩⟩ := negotiated.remoteSet
    · obtain rfl : call = .handleAnswer sdp := same
      obtain ⟨outcome, set, fine⟩ := effect _ member rfl
      exact set (unfailed (.handleAnswer sdp) outcome rfl fine)
    · obtain rfl : call = .handleOffer sdp := same
      obtain ⟨outcome, set, fine⟩ := effect _ member rfl
      exact (set (unfailed (.handleOffer sdp) outcome rfl fine)).2

theorem negotiated_settled {spent : Deed → Bool} (spends : Deed.Spends spent) (total : Nat) (p : SessionPool P)
    (negotiated : Negotiated p)
    (balanced : (claimLedger P spent spends).Balanced Call.limit (fun _ left _ => left = 0) total p) :
    p.shared.1.unclaimed + p.shared.2.countP spent = total := by
  refine balanced.settled ?_
  intro thread member load carries
  cases side : thread.call.side with
  | true => exact carries.within side
  | false =>
    obtain ⟨outcome, done, _⟩ := negotiated.returned thread member side
    rw [done] at carries
    exact carries.2

theorem hello_bounded (mode : PeerMode) (total : Nat) (p : SessionPool P)
    (opened : Opened unmarshalString decodeMessage hasOnStream mode total p) : p.shared.2.countP Deed.hello ≤ total := by
  obtain ⟨loads, _, sum⟩ := opened.opens
  have fewer : p.shared.2.countP Deed.hello ≤ p.shared.2.countP Deed.opens := by
    refine List.countP_mono_left fun d _ hello => ?_
    cases d with
    | sent => exact hello
    | _ => cases hello
  simp only [claimLedger] at sum
  omega

theorem negotiated_claimed (total : Nat) (p : SessionPool P)
    (opened : Opened unmarshalString decodeMessage hasOnStream .connect total p) (alive : ¬ p.shared.1.state.Over)
    (negotiated : Negotiated p) :
    p.shared.1.authStarted = true := by
  obtain ⟨controlOpen, ours, theirs⟩ := negotiated_ready .connect total p opened negotiated
  by_contra unstarted
  have idle : p.shared.1.authStarted = false := by simpa using unstarted
  cases state : p.shared.1.state with
  | signaling => exact opened.entered.discharged negotiated.returned ⟨ours, theirs, state⟩
  | authPending =>
    exact opened.claimed.discharged negotiated.returned ⟨opened.mode, ours, theirs, controlOpen, state, idle⟩
  | authenticated => exact unstarted (opened.certified.inv.authenticated opened.mode (.inl state))
  | streaming => exact unstarted (opened.certified.inv.authenticated opened.mode (.inr state))
  | init => exact opened.certified.inv.paired.1 state
  | rendezvous => exact opened.certified.inv.paired.2 state
  | failed => exact alive (.inl state)
  | closing => exact alive (.inr (.inl state))
  | closed => exact alive (.inr (.inr state))

theorem started_bound (x : Recorded (interactive P)) (inv : OpeningInv x) (started : 0 < x.2.countP Deed.starts) :
    x.2.countP Deed.binds = 1 := by
  obtain ⟨d, member, isStart⟩ := List.countP_pos_iff.mp started
  obtain ⟨before, after, split⟩ := List.append_of_mem member
  cases d with
  | started ok =>
    obtain ⟨material, earlier⟩ := inv.order before (.started ok) after split
    have bound : 0 < x.2.countP Deed.binds :=
      List.countP_pos_iff.mpr ⟨_, by rw [split]; exact List.mem_append_left _ earlier, rfl⟩
    have binds := inv.binds
    split at binds <;> omega
  | _ => cases isStart

variable (unmarshalString decodeMessage hasOnStream)

/-- In every run at most one hello is sent, and none by a session that does not connect. A
    connecting session that is still alive once its descriptions are set and its control channel
    has opened has bound its authenticator once, then started it once, then sent one hello. -/
theorem hello_sent_once (secret scheme : Bytes) (rng : P.Reader) (cfg : SessionConfig (interactive P))
    (fresh : newInteractiveAuthenticator secret scheme rng = .ok cfg.authenticator) (created : Bool)
    (control : Option DataChannel) (s : Session (interactive P)) (ok : newSession cfg created control = .ok s)
    (moves : List (Move Choice Call)) (p : SessionPool P)
    (ran : (recordedSystem unmarshalString decodeMessage (interactive P) hasOnStream).run ⟨(s, []), []⟩ moves = some p) :
    p.shared.2.countP Deed.hello ≤ 1 ∧ (cfg.mode ≠ .connect → p.shared.2.countP Deed.hello = 0) ∧
      (cfg.mode = .connect → ¬ p.shared.1.state.Over → Negotiated p →
        ∃ material message, message.kind = .hello ∧
          p.shared.2.filter Deed.opening = [.bound material true, .started true, .sent message true]) := by
  have starts := newSession_starts cfg created control s ok
  have opened : Opened unmarshalString decodeMessage hasOnStream cfg.mode s.unclaimed p :=
    Transition.run_preserves (fun p m q holds stepped => opened_step cfg.mode s.unclaimed p q m holds stepped) _ p moves
      (opened_initial secret scheme rng cfg fresh created control s ok) ran
  have bounded := hello_bounded cfg.mode s.unclaimed p opened
  refine ⟨bounded.trans ?_, fun other => ?_, fun connect alive negotiated => ?_⟩
  · unfold Session.unclaimed
    split <;> omega
  · have none : s.unclaimed = 0 := by simp [Session.unclaimed, starts.mode, other]
    omega
  · rw [connect] at opened
    have one : s.unclaimed = 1 := by simp [Session.unclaimed, starts.mode, starts.authStarted, connect]
    have claimed := negotiated_claimed s.unclaimed p opened alive negotiated
    have used : p.shared.1.unclaimed = 0 := by simp [Session.unclaimed, claimed]
    have sound : ∀ d ∈ p.shared.2, d.fault = false := by
      intro d member
      by_contra fault
      exact opened.faults.discharged negotiated.returned ⟨⟨d, member, by simpa using fault⟩, alive⟩
    have start := negotiated_settled starts_spends s.unclaimed p negotiated opened.starts
    have hello := negotiated_settled opens_spends s.unclaimed p negotiated opened.opens
    have same : p.shared.2.countP Deed.opens = p.shared.2.countP Deed.hello := by
      refine List.countP_congr fun d member => ?_
      have fine := sound d member
      cases d with
      | started ok => simpa [Deed.opens, Deed.hello, Deed.fault] using fine
      | _ => rfl
    rw [used, one, Nat.zero_add] at start hello
    rw [same] at hello
    have binds := started_bound p.shared opened.certified.inv (by omega)
    refine opening_shape _ (justified_opening _ opened.certified.inv.order) (fun d member => (List.mem_filter.mp member).2)
      (fun d member => sound d (List.mem_filter.mp member).1) ?_ ?_ ?_
    · rwa [count_opening]
      intro d binds
      cases d <;> first | rfl | cases binds
    · rwa [count_opening]
      exact starts_spends.opening
    · rwa [count_opening]
      intro d hello
      cases d <;> first | exact hello | cases hello

end Runs

section Offering

def connectConfig : SessionConfig (interactive InteractiveAuthenticator.vectors) where
  mode := .connect
  sessionID := text "session-1"
  initiator := true
  authenticator := InteractiveAuthenticator.vectorFresh InteractiveAuthenticator.initiatorKey.val
  stateMachine := .signaling

def connectedSession : Session (interactive InteractiveAuthenticator.vectors) :=
  { mode := .connect, sessionID := text "session-1"
    authenticator := InteractiveAuthenticator.vectorFresh InteractiveAuthenticator.initiatorKey.val
    state := .signaling, pc := ⟨.stable, false, false⟩, control := some controlDC
    onOpen := [controlDC], onMessage := [controlDC], onClose := [controlDC], controlOpen := false
    localFingerprint := [], remoteFingerprint := [], remoteDescription := false
    pendingCandidates := [], authBound := false, authStarted := false, closeErr := none
    authenticated := false, authResult := none, authReadyClosed := false, closeOnce := .idle
    events := [] }

abbrev connectSystem :
    System Op (Recorded (interactive InteractiveAuthenticator.vectors)) Choice Call Outcome :=
  recordedSystem parseChannel (fun _ => none) (interactive InteractiveAuthenticator.vectors) true

def offeringMoves : List (Move Choice Call) :=
  .spawn .createOffer :: List.replicate 5 (.run 0 granted) ++
    (.spawn (.controlOpen controlDC) :: List.replicate 2 (.run 1 granted) ++
      .spawn (.handleAnswer (channelSDP firstPrint)) :: List.replicate 11 (.run 2 granted))

def returned (thread : Thread Op Call Outcome) : Call × Option Bool :=
  (thread.call, match thread.prog with
    | .done outcome => some outcome.failed
    | .act _ _ => none)

def offeringCalls : List (Call × Option Bool) :=
  [(.createOffer, some false), (.controlOpen controlDC, some false),
    (.handleAnswer (channelSDP firstPrint), some false)]

theorem offering_negotiated (p : SessionPool InteractiveAuthenticator.vectors)
    (calls : p.threads.map returned = offeringCalls) : Negotiated p := by
  have called : ∀ call answer, (call, answer) ∈ offeringCalls → ∃ thread ∈ p.threads, thread.call = call := by
    intro call answer member
    rw [← calls] at member
    obtain ⟨thread, found, same⟩ := List.mem_map.mp member
    exact ⟨thread, found, congrArg Prod.fst same⟩
  constructor
  · intro thread member _
    have listed : returned thread ∈ offeringCalls := by
      rw [← calls]
      exact List.mem_map_of_mem member
    have fine : (returned thread).2 = some false := by
      simp only [offeringCalls, List.mem_cons, List.not_mem_nil, or_false] at listed
      rcases listed with same | same | same <;> rw [same]
    obtain ⟨call, prog⟩ := thread
    cases prog with
    | act op next => cases fine
    | done outcome =>
      refine ⟨outcome, rfl, fun excused => ?_⟩
      rw [show (returned ⟨call, .done outcome⟩).2 = some outcome.failed from rfl, excused.2] at fine
      cases fine
  · obtain ⟨thread, member, same⟩ := called (.controlOpen controlDC) (some false) (by simp [offeringCalls])
    exact ⟨thread, member, controlDC, same⟩
  · obtain ⟨thread, member, same⟩ := called .createOffer (some false) (by simp [offeringCalls])
    exact ⟨thread, member, .inl same⟩
  · obtain ⟨thread, member, same⟩ := called (.handleAnswer (channelSDP firstPrint)) (some false)
      (by simp [offeringCalls])
    exact ⟨thread, member, .inl ⟨_, same⟩⟩

theorem hello_sent_once_offering :
    newSession connectConfig true (some controlDC) = .ok connectedSession ∧
    ∃ p, connectSystem.run ⟨(connectedSession, []), []⟩ offeringMoves = some p ∧ p.shared.1.state = .authPending ∧
      ∃ material message, message.kind = .hello ∧
        p.shared.2.filter Deed.opening = [.bound material true, .started true, .sent message true] := by
  have made : newSession connectConfig true (some controlDC) = .ok connectedSession := by rfl
  have fresh : newInteractiveAuthenticator InteractiveAuthenticator.vectorSecret Scheme.transitionalV2.name
      InteractiveAuthenticator.initiatorKey.val = .ok connectConfig.authenticator := by rfl
  have summary : (connectSystem.run ⟨(connectedSession, []), []⟩ offeringMoves).map
      (fun p => (p.shared.1.state, p.threads.map returned)) = some (.authPending, offeringCalls) := by decide +kernel
  obtain ⟨p, ran, ended⟩ := Option.map_eq_some_iff.mp summary
  obtain ⟨pending, calls⟩ := Prod.mk.inj ended
  refine ⟨made, p, ran, pending, ?_⟩
  exact (hello_sent_once parseChannel (fun _ => none) true _ _ _ connectConfig fresh true (some controlDC)
    connectedSession made offeringMoves p ran).2.2 rfl (by rw [pending]; decide) (offering_negotiated p calls)

end Offering

end Rtc2Tcp.WebRTC

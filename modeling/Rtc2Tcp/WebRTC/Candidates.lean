import Mathlib.Algebra.Order.Group.Multiset
import Rtc2Tcp.WebRTC.Binding
import Rtc2Tcp.WebRTC.Deeds

namespace Rtc2Tcp.WebRTC

open Octets Go Auth Goroutine

open Prog (perform)

variable {A : Authenticator}

/-- `described` is the moment at which `setRemoteDescription` has its description stored and takes the queue. -/
inductive CandidateEvent where
  | applied (sdp : Bytes)
  | described
  | queued (candidate : ICECandidate)
  | passed (candidate : ICECandidate) (ok : Bool)
deriving DecidableEq, Repr

def Session.candidateNote : {β : Type} → Op β → β → Session A → List CandidateEvent
  | _, .pcSetRemoteDescription _ sdp, ok, _ => if ok then [.applied sdp] else []
  | _, .storeRemote _, _, _ => [.described]
  | _, .queueCandidate candidate, queued, _ => if queued then [.queued candidate] else []
  | _, .pcAddICECandidate candidate, ok, _ => [.passed candidate ok]
  | _, _, _, _ => []

def passed (log : List CandidateEvent) : List ICECandidate :=
  log.filterMap fun
    | .passed candidate _ => some candidate
    | _ => none

def queued (log : List CandidateEvent) : List ICECandidate :=
  log.filterMap fun
    | .queued candidate => some candidate
    | _ => none

/-- The candidates that `AddRemoteCandidate` is called with. -/
def given (moves : List (Move Choice Call)) : List ICECandidate :=
  moves.filterMap fun
    | .spawn (.addRemoteCandidate candidate) => some candidate
    | _ => none

section System

variable (unmarshalString : Bytes → Option SessionDescription) (decodeMessage : Bytes → Option Message)

/-- A session under arbitrary concurrent calls, with the record of its candidates. -/
def candidateSystem (A : Authenticator) (hasOnStream : Bool) :
    System Op (Session A × List CandidateEvent) Choice Call Outcome :=
  (sessionSystem unmarshalString decodeMessage A hasOnStream).recording Session.candidateNote

end System

abbrev Tracked (A : Authenticator) := Session A × List CandidateEvent

def trackedMachine (A : Authenticator) : Machine Op (Tracked A) Choice := (machine A).recording Session.candidateNote

def Op.remote : {β : Type} → Op β → Bool
  | _, .pcSetRemoteDescription _ _ => true
  | _, .storeRemote _ => true
  | _, .queueCandidate _ => true
  | _, .pcAddICECandidate _ => true
  | _, _ => false

theorem note_local {β : Type} (op : Op β) (result : β) (s : Session A) (other : op.remote = false) :
    Session.candidateNote op result s = [] := by
  cases op with
  | pcSetRemoteDescription | storeRemote | queueCandidate | pcAddICECandidate => cases other
  | _ => rfl

theorem tracked_exec {β : Type} {op : Op β} {c : Choice} {x y : Tracked A} {result : β}
    (executed : (trackedMachine A).exec op c x = some (result, y)) :
    Session.exec op c x.1 = some (result, y.1) ∧ y.2 = x.2 ++ Session.candidateNote op result x.1 :=
  recording_exec executed

theorem exec_queueCandidate {candidate : ICECandidate} {c : Choice} {s t : Session A} {queued : Bool}
    (executed : Session.exec (.queueCandidate candidate) c s = some (queued, t)) :
    (s.remoteDescription = true ∧ queued = false ∧ t = s) ∨ (s.remoteDescription = false ∧ queued = true ∧
      t = { s with pendingCandidates := s.pendingCandidates ++ [candidate] }) := by
  simp only [Session.exec] at executed
  split at executed
  · rename_i set
    cases executed
    exact .inl ⟨set, rfl, rfl⟩
  · rename_i unset
    cases executed
    exact .inr ⟨Bool.eq_false_iff.mpr unset, rfl, rfl⟩

def Applied (log : List CandidateEvent) : Prop := ∃ sdp, .applied sdp ∈ log

def CandidateEvent.calls (before : List CandidateEvent) : CandidateEvent → Prop
  | .passed _ _ => Applied before
  | _ => True

/-- Once a description is stored it was applied before, and the queue is empty for good; until then the queue holds
    what was put into it. -/
structure CandidateInv (x : Tracked A) : Prop where
  applied : x.1.remoteDescription = true → Applied x.2
  described : .described ∈ x.2 ↔ x.1.remoteDescription = true
  empty : x.1.remoteDescription = true → x.1.pendingCandidates = []
  waiting : x.1.remoteDescription = false → queued x.2 = x.1.pendingCandidates
  justified : Justified CandidateEvent.calls x.2

def candidateNeeds : {β : Type} → Op β → Tracked A → Prop
  | _, .storeRemote _, x => Applied x.2
  | _, .pcAddICECandidate _, x => Applied x.2
  | _, _, _ => True

def candidateGives : {β : Type} → Op β → β → Tracked A → Prop
  | _, .pcSetRemoteDescription _ _, ok, x => ok = true → Applied x.2
  | _, .storeRemote _, _, x => .described ∈ x.2
  | _, .queueCandidate _, queued, x => queued = false → Applied x.2
  | _, _, _, _ => True

theorem Applied.grows {log more : List CandidateEvent} (applied : Applied log) (longer : log <+: more) : Applied more :=
  ⟨applied.choose, longer.subset applied.choose_spec⟩

theorem candidate_sound {β : Type} (op : Op β) (c : Choice) (x y : Tracked A) (result : β) (inv : CandidateInv x)
    (need : candidateNeeds op x) (made : (trackedMachine A).exec op c x = some (result, y)) :
    CandidateInv y ∧ x.2 <+: y.2 ∧ candidateGives op result y := by
  obtain ⟨executed, log⟩ := tracked_exec made
  obtain ⟨s, before⟩ := x
  obtain ⟨t, after⟩ := y
  dsimp only at executed log
  subst log
  have front : before <+: before ++ Session.candidateNote op result s := List.prefix_append _ _
  have framed := Session.exec_frame op c s t result executed
  have same : t.remoteDescription = s.remoteDescription → t.pendingCandidates = s.pendingCandidates →
      CandidateInv (t, before) := by
    intro flag queue
    refine ⟨?_, ?_, ?_, ?_, inv.justified⟩
    · rw [flag]
      exact inv.applied
    · rw [flag]
      exact inv.described
    · rw [flag, queue]
      exact inv.empty
    · rw [flag, queue]
      exact inv.waiting
  have quiet : op.remote = false → op.writes .remoteDescription = false → op.writes .pendingCandidates = false →
      CandidateInv (t, before ++ Session.candidateNote op result s) := by
    intro other flag queue
    rw [note_local op result s other, List.append_nil]
    exact same (framed.remoteDescription flag) (framed.pendingCandidates queue)
  cases op with
  | pcSetRemoteDescription type sdp =>
    have flag := framed.remoteDescription rfl
    have queue := framed.pendingCandidates rfl
    cases result with
    | false =>
      simp only [Session.candidateNote, Bool.false_eq_true, if_false, List.append_nil]
      exact ⟨same flag queue, List.prefix_refl _, nofun⟩
    | true =>
      have now : Applied (before ++ [.applied sdp]) := ⟨sdp, by simp⟩
      refine ⟨⟨fun _ => now, ?_, ?_, ?_, inv.justified.snoc _ trivial⟩, front, fun _ => now⟩
      · rw [flag, ← inv.described]
        simp [Session.candidateNote]
      · rw [flag, queue]
        exact inv.empty
      · rw [flag, queue]
        simpa [queued, Session.candidateNote] using inv.waiting
  | storeRemote fingerprint =>
    cases executed
    refine ⟨⟨fun _ => Applied.grows need front, ?_, fun _ => rfl, nofun, inv.justified.snoc _ trivial⟩, front, ?_⟩
    · simp [Session.candidateNote]
    · simp [candidateGives, Session.candidateNote]
  | queueCandidate candidate =>
    rcases exec_queueCandidate executed with ⟨set, rfl, rfl⟩ | ⟨unset, rfl, rfl⟩
    · simp only [Session.candidateNote, Bool.false_eq_true, if_false, List.append_nil]
      exact ⟨inv, List.prefix_refl _, fun _ => inv.applied set⟩
    · refine ⟨⟨fun set => ?_, ?_, fun set => ?_, fun _ => ?_, inv.justified.snoc _ trivial⟩, front, nofun⟩
      · exact absurd set (by rw [unset]; nofun)
      · rw [← inv.described]
        simp [Session.candidateNote]
      · exact absurd set (by rw [unset]; nofun)
      · have queue := inv.waiting unset
        simp only [queued] at queue
        simp [queued, Session.candidateNote, queue]
  | pcAddICECandidate candidate =>
    cases executed
    refine ⟨⟨fun set => (inv.applied set).grows front, ?_, inv.empty, fun unset => ?_,
      inv.justified.snoc _ need⟩, front, trivial⟩
    · rw [← inv.described]
      simp [Session.candidateNote]
    · simpa [queued, Session.candidateNote] using inv.waiting unset
  | _ => exact ⟨quiet rfl rfl rfl, front, trivial⟩

def Call.remote : Call → Bool
  | .handleOffer _ => true
  | .handleAnswer _ => true
  | .addRemoteCandidate _ => true
  | _ => false

structure Local (holds : {α : Type} → Prog Op α → Prop) : Prop extends Sequenced holds where
  op : ∀ {β : Type} (op : Op β), op.remote = false → holds (perform op)

namespace Local

variable {holds : {α : Type} → Prog Op α → Prop} (L : Local holds)
include L

theorem ending {β : Type} (op : Op β) (ends : op.ending = true) : holds (perform op) := by
  refine L.op op ?_
  cases op with
  | pcSetRemoteDescription | storeRemote | queueCandidate | pcAddICECandidate => cases ends
  | _ => rfl

theorem composed : Composed holds := by
  refine L.toSequenced.composed L.ending ?_
  intro β op plain
  refine L.op op ?_
  cases op with
  | pcSetRemoteDescription | storeRemote | queueCandidate | pcAddICECandidate => cases plain
  | _ => rfl

theorem maybeSendAuth : holds maybeSendAuth :=
  L.composed.maybeSendAuth (L.op _ rfl) (L.op _ rfl) (L.op _ rfl) fun _ _ => L.op _ rfl

theorem handleControlMessage (decodeMessage : Bytes → Option Message) (data : Bytes) :
    holds (handleControlMessage decodeMessage data) :=
  L.composed.handleControlMessage (L.op _ rfl) (fun _ => L.op _ rfl) (fun _ _ => L.op _ rfl) (L.op _ rfl)
    (L.op _ rfl) decodeMessage data

theorem maybeEnterAuthPending : holds maybeEnterAuthPending :=
  L.composed.maybeEnterAuthPending (L.op _ rfl) L.maybeSendAuth

theorem describe (unmarshalString : Bytes → Option SessionDescription) (type : SDPType) :
    holds (describe unmarshalString type) :=
  L.composed.describe unmarshalString (L.op _ rfl) L.maybeSendAuth (fun _ => L.op _ rfl) type

theorem body (unmarshalString : Bytes → Option SessionDescription) (decodeMessage : Bytes → Option Message)
    (hasOnStream : Bool) (call : Call) (other : call.remote = false) :
    holds (body unmarshalString decodeMessage hasOnStream call) := by
  cases call with
  | handleOffer | handleAnswer | addRemoteCandidate => cases other
  | createOffer => exact L.composed.map _ (L.describe unmarshalString .offer)
  | controlOpen dc => exact L.composed.map _ (L.bind (L.op _ rfl) fun _ => L.maybeSendAuth)
  | controlMessage dc data =>
    exact L.composed.map _ (L.composed.onControlMessage decodeMessage data (L.handleControlMessage decodeMessage data))
  | _ =>
    exact L.composed.side unmarshalString decodeMessage (L.toSequenced.close L.ending) (fun _ => L.op _ rfl) hasOnStream
      _ rfl

end Local

section Runs

variable (unmarshalString : Bytes → Option SessionDescription) (decodeMessage : Bytes → Option Message)
  (hasOnStream : Bool)

def candidatesTaken : {β : Type} → Op β → β → Tracked A → Bool
  | _, .pcAddICECandidate _, ok, _ => ok
  | _, _, _, _ => true

def takingSystem (A : Authenticator) : System Op (Tracked A) Choice Call Outcome :=
  (candidateSystem unmarshalString decodeMessage A hasOnStream).restricted candidatesTaken

theorem taking_exec {β : Type} {op : Op β} {c : Choice} {x y : Tracked A} {result : β}
    (executed : (takingSystem unmarshalString decodeMessage hasOnStream A).exec op c x = some (result, y)) :
    (trackedMachine A).exec op c x = some (result, y) ∧ candidatesTaken op result x = true :=
  restricted_exec.mp executed

theorem taking_enter (call : Call) (x y : Tracked A)
    (entered : (takingSystem unmarshalString decodeMessage hasOnStream A).enter call x = some y) : y = x := by
  obtain ⟨s, same, rfl⟩ := Option.map_eq_some_iff.mp entered
  rw [enter_same call x.1 s same]

def candidateDiscipline (A : Authenticator) :
    Discipline (takingSystem unmarshalString decodeMessage hasOnStream A).toMachine where
  inv := CandidateInv
  grows x y := x.2 <+: y.2
  refl _ := List.prefix_refl _
  trans _ _ _ first second := first.trans second
  meets _ _ := True
  needs := candidateNeeds
  gives := candidateGives
  sound op c x y result inv _ need executed :=
    candidate_sound op c x y result inv need (taking_exec unmarshalString decodeMessage hasOnStream executed).1

abbrev CandidateSafe {α : Type} (post : α → Tracked A → Prop) (p : Prog Op α) (x : Tracked A) : Prop :=
  Safe (candidateDiscipline unmarshalString decodeMessage hasOnStream A) post p x

variable {unmarshalString decodeMessage hasOnStream}

theorem candidate_local : Local fun p => ∀ x : Tracked A,
    CandidateSafe unmarshalString decodeMessage hasOnStream (fun _ _ => True) p x where
  pure value x := Safe.pure fun _ _ _ => trivial
  bind first rest x := (first x).bind fun value y _ _ _ => rest value y
  op op other x := by
    refine Safe.perform (fun _ _ _ _ => ?_) (fun _ _ _ _ _ => trivial) fun _ _ _ _ _ _ => trivial
    cases op with
    | storeRemote | pcAddICECandidate => cases other
    | _ => trivial

theorem candidate_add (candidate : ICECandidate) (x : Tracked A) (applied : Applied x.2) :
    CandidateSafe unmarshalString decodeMessage hasOnStream (fun _ y => Applied y.2)
      (perform (.pcAddICECandidate candidate)) x :=
  Safe.perform (fun _ _ grown _ => applied.grows grown) (fun _ _ _ grown _ => applied.grows grown)
    fun _ _ _ _ grown held => Applied.grows held grown

theorem candidate_flush (pending : List ICECandidate) (x : Tracked A) (applied : Applied x.2) :
    CandidateSafe unmarshalString decodeMessage hasOnStream (fun _ _ => True) (flushCandidates pending) x := by
  induction pending generalizing x with
  | nil => exact Safe.pure fun _ _ _ => trivial
  | cons candidate rest ih =>
    refine Safe.bind (candidate_add candidate x applied) fun ok y _ _ still => ?_
    split
    · exact ih y still
    · exact Safe.pure fun _ _ _ => trivial

theorem candidate_addRemoteCandidate (candidate : ICECandidate) (x : Tracked A) :
    CandidateSafe unmarshalString decodeMessage hasOnStream (fun _ _ => True) (addRemoteCandidate candidate) x := by
  have put : CandidateSafe unmarshalString decodeMessage hasOnStream (fun queued y => queued = false → Applied y.2)
      (perform (.queueCandidate candidate)) x :=
    Safe.perform (fun _ _ _ _ => trivial) (fun _ _ _ _ gave => gave) fun _ _ _ _ grown held direct =>
      (held direct).grows grown
  unfold addRemoteCandidate
  refine Safe.bind put fun inQueue y _ _ applied => ?_
  split
  · exact Safe.pure fun _ _ _ => trivial
  · rename_i direct
    refine Safe.bind (candidate_add candidate y (applied (by simpa using direct))) fun ok z _ _ _ => ?_
    split <;> exact Safe.pure fun _ _ _ => trivial

theorem candidate_setRemoteDescription (type : SDPType) (sdp : Bytes) (x : Tracked A) :
    CandidateSafe unmarshalString decodeMessage hasOnStream (fun error y => error = none → .described ∈ y.2)
      (setRemoteDescription unmarshalString type sdp) x := by
  have set : CandidateSafe unmarshalString decodeMessage hasOnStream (fun ok y => ok = true → Applied y.2)
      (perform (.pcSetRemoteDescription type sdp)) x :=
    Safe.perform (fun _ _ _ _ => trivial) (fun _ _ _ _ gave => gave) fun _ _ _ _ grown held done =>
      (held done).grows grown
  unfold setRemoteDescription
  refine Safe.bind set fun ok y _ _ applied => ?_
  split
  · rename_i done
    split
    · exact Safe.pure fun _ _ _ => nofun
    · rename_i fingerprint extracted
      have stored : CandidateSafe unmarshalString decodeMessage hasOnStream
          (fun _ z => .described ∈ z.2 ∧ Applied z.2) (perform (.storeRemote fingerprint)) y :=
        Safe.perform (fun _ _ grown _ => (applied done).grows grown)
          (fun _ _ _ grown gave => ⟨gave, (applied done).grows grown⟩)
          fun _ _ _ _ grown held => ⟨grown.subset held.1, held.2.grows grown⟩
      refine Safe.bind stored fun pending z _ _ held => ?_
      refine Safe.bind (candidate_flush pending z held.2) fun flushed w _ grown _ => ?_
      have described : .described ∈ w.2 := grown.subset held.1
      split
      · refine Safe.bind (candidate_local.maybeEnterAuthPending w) fun _ v _ later _ => ?_
        exact Safe.pure fun u _ further _ => further.subset (later.subset described)
      · exact Safe.pure fun _ _ _ => nofun
  · exact Safe.pure fun _ _ _ => nofun

def Outcome.setsRemote (outcome : Outcome) : Call → Prop
  | .handleOffer _ => ∃ answer, outcome = .description (.ok answer)
  | .handleAnswer _ => outcome = .finished none
  | _ => False

theorem candidate_body (call : Call) (x : Tracked A) :
    CandidateSafe unmarshalString decodeMessage hasOnStream (fun outcome y => outcome.setsRemote call → .described ∈ y.2)
      (body unmarshalString decodeMessage hasOnStream call) x := by
  cases other : call.remote with
  | false =>
    refine (candidate_local.body unmarshalString decodeMessage hasOnStream call other x).weaken ?_
    intro outcome y _ _ sets
    cases call with
    | handleOffer | handleAnswer => cases other
    | _ => cases sets
  | true =>
    cases call with
    | handleOffer offer =>
      have handled : CandidateSafe unmarshalString decodeMessage hasOnStream
          (fun result y => ∀ answer, result = .ok answer → .described ∈ y.2) (handleOffer unmarshalString offer) x := by
        unfold handleOffer
        refine Safe.bind (candidate_setRemoteDescription .offer offer x) fun error y _ _ described => ?_
        split
        · exact Safe.pure fun _ _ _ _ => nofun
        · have stable : ∀ z w : Tracked A, z.2 <+: w.2 → .described ∈ z.2 → .described ∈ w.2 :=
            fun z w grown held => grown.subset held
          have answered : CandidateSafe unmarshalString decodeMessage hasOnStream (fun _ _ => True)
              (describe unmarshalString .answer) y := candidate_local.describe unmarshalString .answer y
          have kept := Safe.keep (fun z : Tracked A => .described ∈ z.2) stable (described rfl) answered
          exact kept.weaken fun _ _ _ held _ _ => held.2
      refine Safe.bind handled fun result y _ _ held => Safe.pure fun z _ grown sets => ?_
      obtain ⟨answer, same⟩ := sets
      cases same
      exact grown.subset (held answer rfl)
    | handleAnswer answer =>
      refine Safe.bind (candidate_setRemoteDescription .answer answer x) fun error y _ _ held =>
        Safe.pure fun z _ grown sets => ?_
      cases sets
      exact grown.subset (held rfl)
    | addRemoteCandidate candidate =>
      refine Safe.bind (candidate_addRemoteCandidate candidate x) fun error y _ _ _ =>
        Safe.pure fun z _ grown sets => ?_
      cases sets
    | _ => cases other

def candidateGains : {β : Type} → Op β → β → Multiset ICECandidate
  | _, .storeRemote _, pending => pending
  | _, _, _ => 0

def candidatePays : {β : Type} → Op β → β → Multiset ICECandidate
  | _, .queueCandidate candidate, queued => if queued then {candidate} else 0
  | _, .pcAddICECandidate candidate, _ => {candidate}
  | _, _, _ => 0

def candidateAnswers : {β : Type} → Op β → β → Prop
  | _, .pcAddICECandidate _, ok => ok = true
  | _, _, _ => True

theorem passed_append (log more : List CandidateEvent) : passed (log ++ more) = passed log ++ passed more :=
  List.filterMap_append

theorem queued_append (log more : List CandidateEvent) : queued (log ++ more) = queued log ++ queued more :=
  List.filterMap_append

variable (unmarshalString decodeMessage hasOnStream) in
def candidateLedger (A : Authenticator) :
    Ledger (takingSystem unmarshalString decodeMessage hasOnStream A).toMachine (Multiset ICECandidate) where
  inv _ := True
  holds x := (x.1.pendingCandidates : Multiset ICECandidate) + passed x.2
  gives := candidateAnswers
  gains := candidateGains
  pays := candidatePays
  sound op c x y result _ executed := by
    obtain ⟨made, taken⟩ := taking_exec unmarshalString decodeMessage hasOnStream executed
    obtain ⟨made, log⟩ := tracked_exec made
    refine ⟨?_, ?_⟩
    · cases op with
      | pcAddICECandidate => exact taken
      | _ => trivial
    · rw [log, passed_append]
      have framed := Session.exec_frame op c x.1 y.1 result made
      cases op with
      | pcSetRemoteDescription type sdp =>
        rw [framed.pendingCandidates rfl]
        cases result <;> simp [candidatePays, candidateGains, passed, Session.candidateNote]
      | storeRemote fingerprint =>
        obtain ⟨rfl, same⟩ := Prod.mk.inj (Option.some.inj made)
        rw [← same]
        simp [candidatePays, candidateGains, passed, Session.candidateNote, add_comm]
      | queueCandidate candidate =>
        rcases exec_queueCandidate made with ⟨_, rfl, same⟩ | ⟨_, rfl, same⟩
        · rw [same]
          simp [candidatePays, candidateGains, passed, Session.candidateNote]
        · rw [same]
          simp [candidatePays, candidateGains, passed, Session.candidateNote, ← Multiset.coe_add, add_right_comm]
      | pcAddICECandidate candidate =>
        obtain ⟨_, same⟩ := Prod.mk.inj (Option.some.inj made)
        rw [← same]
        simp [candidatePays, candidateGains, passed, Session.candidateNote, ← Multiset.coe_add, add_assoc]
      | _ =>
        rw [framed.pendingCandidates rfl, note_local _ result x.1 rfl]
        simp [candidatePays, candidateGains, passed]

def Call.brings : Call → Multiset ICECandidate
  | .addRemoteCandidate candidate => {candidate}
  | _ => 0

/-- What a call may carry in between: one that does not work on candidates, none. -/
def Call.bears (call : Call) (load : Multiset ICECandidate) : Prop := call.remote = false → load = 0

abbrev CandidateCarries (A : Authenticator) (unmarshalString : Bytes → Option SessionDescription)
    (decodeMessage : Bytes → Option Message) (hasOnStream : Bool) {α : Type} (limit : Multiset ICECandidate → Prop)
    (load : Multiset ICECandidate) (p : Prog Op α) : Prop :=
  Carries (candidateLedger unmarshalString decodeMessage hasOnStream A) limit (fun left _ => left = 0) load p

theorem carries_local {limit : Multiset ICECandidate → Prop} (none : limit 0) :
    Local fun p => CandidateCarries A unmarshalString decodeMessage hasOnStream limit 0 p where
  pure value := Carries.pure none rfl
  bind first rest := Carries.bind first fun left value empty => by
    rw [empty]
    exact rest value
  op op other := by
    refine Carries.idle none ?_ fun _ => rfl
    intro result
    cases op with
    | storeRemote | queueCandidate | pcAddICECandidate => cases other
    | _ => exact ⟨rfl, rfl⟩

theorem carries_flush (pending : List ICECandidate) :
    Carries (candidateLedger unmarshalString decodeMessage hasOnStream A) (fun _ => True) (fun left _ => left = 0)
      (pending : Multiset ICECandidate) (flushCandidates pending) := by
  induction pending with
  | nil => exact Carries.pure trivial rfl
  | cons candidate rest ih =>
    have added : Carries (candidateLedger unmarshalString decodeMessage hasOnStream A) (fun _ => True)
        (fun left ok => left = rest ∧ ok = true) (candidate :: rest : List ICECandidate)
        (perform (.pcAddICECandidate candidate)) := by
      refine Carries.perform trivial ?_
      intro ok taken
      refine ⟨rest, ?_, trivial, rfl, taken⟩
      simp only [candidateLedger, candidateGains, candidatePays, add_zero]
      rw [← Multiset.cons_coe, ← Multiset.singleton_add, add_comm]
    refine Carries.bind added ?_
    rintro left ok ⟨rfl, rfl⟩
    exact ih

theorem carries_setRemoteDescription (type : SDPType) (sdp : Bytes) :
    CandidateCarries A unmarshalString decodeMessage hasOnStream (fun _ => True) 0
      (setRemoteDescription unmarshalString type sdp) := by
  have idle : CandidateCarries A unmarshalString decodeMessage hasOnStream (fun _ => True) 0
      (perform (.pcSetRemoteDescription type sdp)) :=
    Carries.idle trivial (fun _ => ⟨rfl, rfl⟩) fun _ => rfl
  unfold setRemoteDescription
  refine Carries.bind idle ?_
  rintro left ok rfl
  split
  · split
    · exact Carries.pure trivial rfl
    · rename_i fingerprint extracted
      have stored : Carries (candidateLedger unmarshalString decodeMessage hasOnStream A) (fun _ => True)
          (fun left (pending : List ICECandidate) => left = pending) 0 (perform (.storeRemote fingerprint)) := by
        refine Carries.perform trivial fun pending _ => ⟨pending, ?_, trivial, rfl⟩
        simp [candidateLedger, candidateGains, candidatePays]
      refine Carries.bind stored ?_
      rintro left pending rfl
      refine Carries.bind (carries_flush pending) ?_
      rintro left flushed rfl
      split
      · refine Carries.bind (carries_local trivial).maybeEnterAuthPending ?_
        rintro left _ rfl
        exact Carries.pure trivial rfl
      · exact Carries.pure trivial rfl
  · exact Carries.pure trivial rfl

theorem carries_addRemoteCandidate (candidate : ICECandidate) :
    CandidateCarries A unmarshalString decodeMessage hasOnStream (fun _ => True) {candidate}
      (addRemoteCandidate candidate) := by
  have put : Carries (candidateLedger unmarshalString decodeMessage hasOnStream A) (fun _ => True)
      (fun left inQueue => left = if inQueue then 0 else {candidate}) {candidate}
      (perform (.queueCandidate candidate)) := by
    refine Carries.perform trivial fun inQueue _ => ⟨if inQueue then 0 else {candidate}, ?_, trivial, rfl⟩
    cases inQueue <;> simp [candidateLedger, candidateGains, candidatePays]
  have added : CandidateCarries A unmarshalString decodeMessage hasOnStream (fun _ => True) {candidate}
      (perform (.pcAddICECandidate candidate)) := by
    refine Carries.perform trivial fun ok _ => ⟨0, ?_, trivial, rfl⟩
    simp [candidateLedger, candidateGains, candidatePays]
  unfold addRemoteCandidate
  refine Carries.bind put ?_
  rintro left inQueue rfl
  split
  · exact Carries.pure trivial rfl
  · refine Carries.bind added ?_
    rintro left ok rfl
    split <;> exact Carries.pure trivial rfl

theorem carries_body (call : Call) :
    CandidateCarries A unmarshalString decodeMessage hasOnStream call.bears call.brings
      (body unmarshalString decodeMessage hasOnStream call) := by
  cases other : call.remote with
  | false =>
    have empty : call.bears 0 := fun _ => rfl
    have nothing : call.brings = 0 := by
      cases call with
      | addRemoteCandidate => cases other
      | _ => rfl
    rw [nothing]
    exact (carries_local empty).body unmarshalString decodeMessage hasOnStream call other
  | true =>
    have free : call.bears = fun _ => True := by
      funext load
      simp [Call.bears, other]
    rw [free]
    have L : Local fun p => CandidateCarries A unmarshalString decodeMessage hasOnStream (fun _ => True) 0 p :=
      carries_local trivial
    cases call with
    | handleOffer offer =>
      exact L.composed.map _ (L.composed.handleOffer unmarshalString (L.op _ rfl) L.maybeSendAuth
        (fun _ => L.op _ rfl) offer (carries_setRemoteDescription .offer offer))
    | handleAnswer answer => exact L.composed.map _ (carries_setRemoteDescription .answer answer)
    | addRemoteCandidate candidate =>
      refine Carries.bind (carries_addRemoteCandidate candidate) ?_
      rintro left error rfl
      exact Carries.pure trivial rfl
    | _ => cases other

/-- The next operations of the program pass on these candidates, as long as the peer connection takes them. -/
inductive Flushes {α : Type} : List ICECandidate → Prog Op α → Prop
  | done (p : Prog Op α) : Flushes [] p
  | pass (candidate : ICECandidate) (rest : List ICECandidate) (next : Bool → Prog Op α)
      (more : Flushes rest (next true)) : Flushes (candidate :: rest) (.act (.pcAddICECandidate candidate) next)

theorem Flushes.bind {α β : Type} {pending : List ICECandidate} {p : Prog Op α} (f : α → Prog Op β)
    (flushes : Flushes pending p) : Flushes pending (p >>= f) := by
  induction flushes with
  | done p => exact .done _
  | pass candidate rest next more ih => exact .pass candidate rest _ ih

theorem flushCandidates_flushes (pending : List ICECandidate) : Flushes pending (flushCandidates pending) := by
  induction pending with
  | nil => exact .done _
  | cons candidate rest ih => exact .pass candidate rest _ ih

def Op.takes : {β : Type} → Op β → β → List ICECandidate
  | _, .storeRemote _, pending => pending
  | _, _, _ => []

/-- Only a liable program takes the queue, and it passes on what it took at once. -/
def HandsOn {α : Type} (liable : Prop) : Prog Op α → Prop
  | .done _ => True
  | .act op next => ∀ result, HandsOn liable (next result) ∧
      (op.takes result ≠ [] → liable ∧ Flushes (op.takes result) (next result))

theorem HandsOn.bind {α β : Type} {liable : Prop} {p : Prog Op α} {f : α → Prog Op β} (first : HandsOn liable p)
    (rest : ∀ value, HandsOn liable (f value)) : HandsOn liable (p >>= f) := by
  induction p with
  | done value => exact rest value
  | act op next ih =>
    intro result
    obtain ⟨later, now⟩ := first result
    exact ⟨ih result later, fun nonempty => ⟨(now nonempty).1, (now nonempty).2.bind f⟩⟩

theorem handsOn_op {α : Type} {liable : Prop} (op : Op α) (idle : ∀ result, op.takes result = []) :
    HandsOn liable (perform op) := fun result => ⟨trivial, fun nonempty => absurd (idle result) nonempty⟩

theorem handsOn_local {liable : Prop} : Local fun p => HandsOn liable p where
  pure _ := trivial
  bind := HandsOn.bind
  op op other := by
    refine handsOn_op op fun result => ?_
    cases op with
    | storeRemote => cases other
    | _ => rfl

theorem handsOn_flushCandidates {liable : Prop} (pending : List ICECandidate) :
    HandsOn liable (flushCandidates pending) := by
  induction pending with
  | nil => trivial
  | cons candidate rest ih =>
    refine HandsOn.bind (handsOn_op _ fun _ => rfl) fun ok => ?_
    split
    · exact ih
    · trivial

theorem handsOn_storeRemote {α : Type} (fingerprint : Bytes) {f : List ICECandidate → Prog Op α}
    (rest : ∀ pending, HandsOn True (f pending)) (flushes : ∀ pending, Flushes pending (f pending)) :
    HandsOn True (perform (.storeRemote fingerprint) >>= f) :=
  fun pending => ⟨rest pending, fun _ => ⟨trivial, flushes pending⟩⟩

theorem handsOn_setRemoteDescription (type : SDPType) (sdp : Bytes) :
    HandsOn True (setRemoteDescription unmarshalString type sdp) := by
  unfold setRemoteDescription
  refine HandsOn.bind (handsOn_op _ fun _ => rfl) fun ok => ?_
  split
  · split
    · trivial
    · refine handsOn_storeRemote _ (fun pending => ?_) fun pending => (flushCandidates_flushes pending).bind _
      refine HandsOn.bind (handsOn_flushCandidates pending) fun flushed => ?_
      split
      · exact HandsOn.bind handsOn_local.maybeEnterAuthPending fun _ => trivial
      · trivial
  · trivial

theorem handsOn_body (call : Call) :
    HandsOn (call.remote = true) (body unmarshalString decodeMessage hasOnStream call) := by
  cases other : call.remote with
  | false => exact handsOn_local.body unmarshalString decodeMessage hasOnStream call other
  | true =>
    have liable : (true = true) = True := by simp
    rw [liable]
    have L : Local fun p => HandsOn True p := handsOn_local
    cases call with
    | handleOffer offer =>
      exact L.composed.map _ (L.composed.handleOffer unmarshalString (L.op _ rfl) L.maybeSendAuth
        (fun _ => L.op _ rfl) offer (handsOn_setRemoteDescription .offer offer))
    | handleAnswer answer => exact L.composed.map _ (handsOn_setRemoteDescription .answer answer)
    | addRemoteCandidate candidate =>
      refine L.composed.map _ (L.composed.addRemoteCandidate candidate ?_ ?_)
      · exact handsOn_op _ fun _ => rfl
      · exact handsOn_op _ fun _ => rfl
    | _ => cases other

abbrev TrackedPool (A : Authenticator) := Pool Op (Tracked A) Call Outcome

/-- What was queued is passed on up to a rest, which some thread is about to pass on. -/
structure InOrder (p : TrackedPool A) : Prop where
  threads : ∀ thread ∈ p.threads, HandsOn (thread.call.remote = true) thread.prog
  flushing : p.shared.1.remoteDescription = true → ∃ front rest, queued p.shared.2 = front ++ rest ∧
    front.Sublist (passed p.shared.2) ∧
    (rest ≠ [] → ∃ thread ∈ p.threads, thread.call.remote = true ∧ Flushes rest thread.prog)

theorem queued_note {β : Type} {op : Op β} {c : Choice} {s t : Session A} {result : β}
    (executed : Session.exec op c s = some (result, t)) (set : s.remoteDescription = true) :
    queued (Session.candidateNote op result s) = [] := by
  cases op with
  | queueCandidate candidate =>
    rcases exec_queueCandidate executed with ⟨_, rfl, _⟩ | ⟨unset, _⟩
    · rfl
    · rw [set] at unset
      cases unset
  | pcSetRemoteDescription type sdp => cases result <;> rfl
  | storeRemote | pcAddICECandidate => rfl
  | _ => rfl

theorem exec_flag {β : Type} {op : Op β} {c : Choice} {s t : Session A} {result : β}
    (executed : Session.exec op c s = some (result, t)) (unset : s.remoteDescription = false)
    (set : t.remoteDescription = true) : op.takes result = s.pendingCandidates ∧
      Session.candidateNote op result s = [.described] := by
  have framed := Session.exec_frame op c s t result executed
  have never : t.remoteDescription = s.remoteDescription → False := by
    intro same
    rw [same, unset] at set
    cases set
  cases op with
  | storeRemote fingerprint =>
    cases executed
    exact ⟨rfl, rfl⟩
  | _ => exact (never (framed.remoteDescription rfl)).elim

theorem inOrder_step (p q : TrackedPool A) (m : Move Choice Call) (inv : CandidateInv p.shared) (ordered : InOrder p)
    (stepped : (takingSystem unmarshalString decodeMessage hasOnStream A).step p m = some q) : InOrder q := by
  rcases System.step_cases stepped with ⟨call, s, rfl, opened, rfl⟩ |
    ⟨β, op, next, call, before, after, choice, result, t, rfl, threads, executed, rfl⟩
  · rw [taking_enter unmarshalString decodeMessage hasOnStream call _ _ opened]
    constructor
    · intro thread member
      rcases List.mem_append.mp member with member | member
      · exact ordered.threads thread member
      · rw [List.mem_singleton.mp member]
        exact handsOn_body call
    · intro set
      obtain ⟨front, rest, split, part, flushed⟩ := ordered.flushing set
      refine ⟨front, rest, split, part, fun nonempty => ?_⟩
      obtain ⟨thread, member, own, flushes⟩ := flushed nonempty
      exact ⟨thread, List.mem_append_left _ member, own, flushes⟩
  · obtain ⟨made, taken⟩ := taking_exec unmarshalString decodeMessage hasOnStream executed
    obtain ⟨made, log⟩ := tracked_exec made
    have here : ⟨call, .act op next⟩ ∈ p.threads := by
      rw [threads]
      simp
    obtain ⟨further, now⟩ := ordered.threads _ here result
    have moved : (⟨call, next result⟩ : Thread Op Call Outcome) ∈ before ++ ⟨call, next result⟩ :: after := by simp
    have all := ordered.threads
    rw [threads] at all
    refine ⟨forall_moved all further, ?_⟩
    intro set
    dsimp only at set ⊢
    rw [log, queued_append, passed_append]
    cases already : p.shared.1.remoteDescription with
    | false =>
      -- the thread has just taken the queue
      obtain ⟨took, note⟩ := exec_flag made already set
      refine ⟨[], p.shared.1.pendingCandidates, ?_, List.nil_sublist _, fun nonempty => ?_⟩
      · rw [note, inv.waiting already]
        exact List.append_nil _
      · rw [← took] at nonempty ⊢
        exact ⟨_, moved, now nonempty⟩
    | true =>
      rw [queued_note made already, List.append_nil]
      obtain ⟨front, rest, split, part, flushed⟩ := ordered.flushing already
      have longer : front.Sublist (passed p.shared.2 ++ passed (Session.candidateNote op result p.shared.1)) :=
        part.trans (List.sublist_append_left _ _)
      by_cases nonempty : rest = []
      · exact ⟨front, rest, split, longer, fun other => absurd nonempty other⟩
      · obtain ⟨thread, member, own, flushes⟩ := flushed nonempty
        by_cases same : thread = ⟨call, .act op next⟩
        · subst same
          dsimp only at flushes own
          cases flushes with
          | done => exact absurd rfl nonempty
          | pass candidate more next flushes =>
            have ok : result = true := taken
            subst ok
            refine ⟨front ++ [candidate], more, by rw [split]; simp, part.append (List.Sublist.refl _), fun _ => ?_⟩
            exact ⟨_, moved, own, flushes⟩
        · rw [threads] at member
          exact ⟨front, rest, split, longer, fun _ => ⟨thread, mem_of_moved member same, own, flushes⟩⟩

theorem sum_brings (moves : List (Move Choice Call)) :
    (moves.map (Move.brings Call.brings)).sum = (given moves : Multiset ICECandidate) := by
  induction moves with
  | nil => rfl
  | cons m moves ih =>
    rw [List.map_cons, List.sum_cons, ih]
    cases m with
    | run index choice => exact zero_add _
    | spawn call =>
      cases call with
      | addRemoteCandidate candidate => exact Multiset.singleton_add _ _
      | _ => exact zero_add _

/-- The record shows that the peer connection took every candidate. -/
def TookAll (x : Tracked A) : Prop := ∀ candidate ok, .passed candidate ok ∈ x.2 → ok = true

theorem taking_run (p q : TrackedPool A) (moves : List (Move Choice Call))
    (ran : (candidateSystem unmarshalString decodeMessage A hasOnStream).run p moves = some q)
    (taken : TookAll q.shared) :
    (takingSystem unmarshalString decodeMessage hasOnStream A).run p moves = some q := by
  have entered : ∀ call (x y : Tracked A),
      (candidateSystem unmarshalString decodeMessage A hasOnStream).enter call x = some y → x = y :=
    fun call x y opened => (taking_enter unmarshalString decodeMessage hasOnStream call x y opened).symm
  refine (restricted_run (fun call x y opened known => entered call x y opened ▸ known) ?_ p q moves ran taken).1
  intro β op choice x y result executed known
  obtain ⟨_, log⟩ := recording_exec executed
  simp only [TookAll, log] at known
  refine ⟨fun candidate ok member => known candidate ok (List.mem_append_left _ member), ?_⟩
  cases op with
  | pcAddICECandidate candidate => exact known candidate result (by simp [Session.candidateNote])
  | _ => rfl

abbrev CandidateCertified (unmarshalString : Bytes → Option SessionDescription)
    (decodeMessage : Bytes → Option Message) (hasOnStream : Bool) (p : TrackedPool A) : Prop :=
  Certified (candidateDiscipline unmarshalString decodeMessage hasOnStream A)
    (fun _ call outcome y => outcome.setsRemote call → .described ∈ y.2) p

theorem candidate_step (p q : TrackedPool A) (m : Move Choice Call)
    (certified : CandidateCertified unmarshalString decodeMessage hasOnStream p)
    (stepped : (takingSystem unmarshalString decodeMessage hasOnStream A).step p m = some q) :
    CandidateCertified unmarshalString decodeMessage hasOnStream q := by
  refine (certified_step p q m certified ?_ (fun call x _ _ => candidate_body call x) ?_ stepped).1
  · intro call x y opened inv
    rw [taking_enter unmarshalString decodeMessage hasOnStream call x y opened]
    exact ⟨inv, List.prefix_refl _⟩
  · exact (Discipline.metBy_always _ (fun _ _ => trivial) p [m]).1

theorem candidate_initial {cfg : SessionConfig A} {s : Session A} (starts : s.Starts cfg) :
    CandidateCertified unmarshalString decodeMessage hasOnStream ⟨(s, []), []⟩ ∧
      InOrder (⟨(s, []), []⟩ : TrackedPool A) := by
  have inv : CandidateInv (s, []) := by
    refine ⟨fun set => ?_, ?_, fun _ => starts.pendingCandidates, fun _ => starts.pendingCandidates.symm, .nil⟩
    · rw [starts.remoteDescription] at set
      cases set
    · simp [starts.remoteDescription]
  refine ⟨⟨inv, fun i call prog found => ?_⟩, ⟨fun thread member => ?_, fun set => ?_⟩⟩
  · cases found
  · cases member
  · rw [starts.remoteDescription] at set
    cases set

theorem candidate_run {cfg : SessionConfig A} {s : Session A} (starts : s.Starts cfg) (q : TrackedPool A)
    (moves : List (Move Choice Call))
    (ran : (takingSystem unmarshalString decodeMessage hasOnStream A).run ⟨(s, []), []⟩ moves = some q) :
    CandidateCertified unmarshalString decodeMessage hasOnStream q ∧ InOrder q := by
  apply Transition.run_preserves _ ⟨(s, []), []⟩ q moves (candidate_initial starts) ran
  intro p m r held stepped
  exact ⟨candidate_step p r m held.1 stepped, inOrder_step p r m held.1.inv held.2 stepped⟩

theorem candidates_settled {cfg : SessionConfig A} {s : Session A} (starts : s.Starts cfg) (q : TrackedPool A)
    (moves : List (Move Choice Call))
    (ran : (takingSystem unmarshalString decodeMessage hasOnStream A).run ⟨(s, []), []⟩ moves = some q)
    (returned : ∀ thread ∈ q.threads, thread.call.remote = true → ∃ outcome, thread.prog = .done outcome) :
    (q.shared.1.pendingCandidates : Multiset ICECandidate) + passed q.shared.2 = given moves := by
  have balanced : (candidateLedger unmarshalString decodeMessage hasOnStream A).Balanced Call.bears
      (fun _ left _ => left = 0) 0 (⟨(s, []), []⟩ : TrackedPool A) := by
    refine ⟨[], .nil, ?_⟩
    simp [candidateLedger, starts.pendingCandidates, passed]
  have ended := balanced_run Call.brings (fun _ => trivial)
    (fun call x y opened => by rw [taking_enter unmarshalString decodeMessage hasOnStream call x y opened])
    carries_body _ q moves 0 balanced ran
  rw [sum_brings, zero_add] at ended
  refine ended.settled ?_
  intro thread member load carries
  cases other : thread.call.remote with
  | false => exact carries.within other
  | true =>
    obtain ⟨outcome, done⟩ := returned thread member other
    rw [done] at carries
    exact carries.2

variable (unmarshalString decodeMessage hasOnStream) in
/-- Candidates are neither lost nor duplicated: however the calls interleave, as long as the peer connection takes
    what it is given, candidates reach it only after a remote description; a `setRemoteDescription` that succeeds has
    its description stored; and once one is stored and the calls that work on candidates have returned, each candidate
    was passed on as often as it was given, those from the queue in the order of their arrival. -/
theorem candidates_exactly_once (cfg : SessionConfig A) (created : Bool) (control : Option DataChannel)
    (s : Session A) (made : newSession cfg created control = .ok s) (moves : List (Move Choice Call))
    (q : TrackedPool A)
    (ran : (candidateSystem unmarshalString decodeMessage A hasOnStream).run ⟨(s, []), []⟩ moves = some q)
    (taken : TookAll q.shared) :
    (∀ before candidate ok after, q.shared.2 = before ++ .passed candidate ok :: after → Applied before) ∧
    (∀ thread ∈ q.threads, ∀ outcome, thread.prog = .done outcome → outcome.setsRemote thread.call →
      .described ∈ q.shared.2) ∧
    ((∀ thread ∈ q.threads, thread.call.remote = true → ∃ outcome, thread.prog = .done outcome) →
      .described ∈ q.shared.2 →
      (∀ candidate, (passed q.shared.2).count candidate = (given moves).count candidate) ∧
      (queued q.shared.2).Sublist (passed q.shared.2)) := by
  have starts := newSession_starts cfg created control s made
  have rans := taking_run _ q moves ran taken
  obtain ⟨certified, ordered⟩ := candidate_run starts q moves rans
  refine ⟨?_, ?_, ?_⟩
  · exact fun before candidate ok after split => certified.inv.justified before _ after split
  · intro thread member outcome ended sets
    obtain ⟨i, found⟩ := List.getElem?_of_mem member
    have held := certified.threads i thread.call thread.prog found
    rw [ended] at held
    exact held q.shared certified.inv (List.prefix_refl _) sets
  · intro returned described
    have set := certified.inv.described.mp described
    constructor
    · intro candidate
      have total := candidates_settled starts q moves rans returned
      rw [certified.inv.empty set] at total
      have same : (passed q.shared.2 : Multiset ICECandidate) = given moves := by simpa using total
      exact (Multiset.coe_eq_coe.mp same).count_eq candidate
    · obtain ⟨front, rest, split, part, flushed⟩ := ordered.flushing set
      have empty : rest = [] := by
        by_contra nonempty
        obtain ⟨thread, member, own, flushes⟩ := flushed nonempty
        obtain ⟨outcome, ended⟩ := returned thread member own
        rw [ended] at flushes
        cases flushes
        exact nonempty rfl
      rw [split, empty, List.append_nil]
      exact part

end Runs

section Arrivals

def refusing : Choice := ⟨false, [], 0⟩

def arrivingMoves : List (Move Choice Call) :=
  [.spawn (.addRemoteCandidate (text "a")), .run 0 granted, .spawn (.addRemoteCandidate (text "b")), .run 1 granted,
    .spawn (.handleOffer (channelSDP firstPrint)), .run 2 granted, .run 2 granted,
    .spawn (.addRemoteCandidate (text "c")), .run 3 granted, .run 3 granted,
    .run 2 granted, .run 2 granted, .run 2 granted, .run 2 refusing]

def arrivingLog : List CandidateEvent :=
  [.queued (text "a"), .queued (text "b"), .applied (channelSDP firstPrint), .described, .passed (text "c") true,
    .passed (text "a") true, .passed (text "b") true]

abbrev arrivingSystem : System Op (Tracked (interactive InteractiveAuthenticator.vectors)) Choice Call Outcome :=
  candidateSystem parseChannel (fun _ => none) (interactive InteractiveAuthenticator.vectors) true

theorem candidates_exactly_once_arriving :
    newSession exposeConfig true none = .ok exposedSession ∧
    ∃ q, arrivingSystem.run ⟨(exposedSession, []), []⟩ arrivingMoves = some q ∧ q.shared.2 = arrivingLog ∧
      (passed q.shared.2).count (text "a") = (given arrivingMoves).count (text "a") ∧
      (queued q.shared.2).Sublist (passed q.shared.2) := by
  have made : newSession exposeConfig true none = .ok exposedSession := by rfl
  have summary : (arrivingSystem.run ⟨(exposedSession, []), []⟩ arrivingMoves).map
      (fun q => (q.shared.2, q.threads.all isDone)) = some (arrivingLog, true) := by decide +kernel
  obtain ⟨q, ran, ended⟩ := Option.map_eq_some_iff.mp summary
  obtain ⟨log, returned⟩ := Prod.mk.inj ended
  have taken : TookAll q.shared := by
    intro candidate ok member
    rw [log] at member
    simp only [arrivingLog, List.mem_cons, CandidateEvent.passed.injEq, reduceCtorEq, List.not_mem_nil, or_false,
      false_or] at member
    rcases member with ⟨_, rfl⟩ | ⟨_, rfl⟩ | ⟨_, rfl⟩ <;> rfl
  have done : ∀ thread ∈ q.threads, thread.call.remote = true → ∃ outcome, thread.prog = .done outcome := by
    intro thread member _
    exact isDone_outcome (List.all_eq_true.mp returned thread member)
  obtain ⟨counted, ordered⟩ := (candidates_exactly_once parseChannel (fun _ => none) true exposeConfig true none
    exposedSession made arrivingMoves q ran taken).2.2 done (by rw [log]; simp [arrivingLog])
  exact ⟨made, q, ran, log, counted _, ordered⟩

end Arrivals

end Rtc2Tcp.WebRTC

import Rtc2Tcp.Auth.Agreement
import Rtc2Tcp.Auth.Rebind
import Rtc2Tcp.WebRTC.Candidates
import Rtc2Tcp.WebRTC.ControlFrame
import Rtc2Tcp.WebRTC.Verdict

namespace Rtc2Tcp.Auth.InteractiveAuthenticator

open Octets Go

variable {P : Primitives}

/-- The authenticator is bound to the material, in its canonical form. -/
structure Holds (a : InteractiveAuthenticator P) (material : SessionBindingMaterial) : Prop where
  bound : a.bound = true
  role : a.initiator = decide (material.mode = .connect)
  sessionID : a.material.sessionID = trimSpace material.sessionID
  localFingerprint : a.material.localFingerprint = canonicalFingerprint material.localFingerprint
  remoteFingerprint : a.material.remoteFingerprint = canonicalFingerprint material.remoteFingerprint

theorem holds_of_bind (a b : InteractiveAuthenticator P) (material : SessionBindingMaterial)
    (ok : a.bind material = (.ok (), b)) : b.Holds material := by
  obtain ⟨_, _, bound, _, _, role, session, near, far, _⟩ := bind_ok a b material ok
  exact ⟨bound, role, session, near, far⟩

theorem Holds.kept {a b : InteractiveAuthenticator P} {material : SessionBindingMaterial} (holds : a.Holds material)
    (kept : KeysKept a b) : b.Holds material where
  bound := kept.bound.trans holds.bound
  role := kept.initiator.trans holds.role
  sessionID := by rw [kept.material, holds.sessionID]
  localFingerprint := by rw [kept.material, holds.localFingerprint]
  remoteFingerprint := by rw [kept.material, holds.remoteFingerprint]

theorem start_keysKept (a : InteractiveAuthenticator P) : KeysKept a a.start.2 := by
  obtain ⟨e, refused, _⟩ | ⟨_, _, _, started⟩ := start_spec a
  · rw [refused]
    exact .self a
  · rw [started]
    exact .withState a .sentHello

theorem bind_refused (a b : InteractiveAuthenticator P) (material : SessionBindingMaterial) (e : AuthError)
    (failed : a.bind material = (.error e, b)) : b.bound = a.bound := by
  cases bind_spec a b material _ failed with
  | refused => rfl
  | broken e b fresh valid setup =>
    have kept := setup_kept (a.withMaterial material)
    rw [setup] at kept
    exact kept.bound

theorem Finishes.append {a : InteractiveAuthenticator P} {calls : List Call} {role : Bool} {tag : Bytes}
    (finishes : a.Finishes calls role tag) (more : List Call) : a.Finishes (calls ++ more) role tag := by
  obtain ⟨taken, m, rest, r, b, rfl, found⟩ := finishes
  exact ⟨taken, m, rest ++ more, r, b, by simp, found⟩

theorem step_finishes (a : InteractiveAuthenticator P) (calls : List Call) (m : Message)
    (done : ((a.run calls).2.step m).1.done = true) (clean : ((a.run calls).2.step m).1.err = none) :
    (a.run calls).2.bound = true ∧ ∃ tag, a.Finishes (calls ++ [.step m]) (a.run calls).2.initiator tag := by
  rcases called : (a.run calls).2.step m with ⟨r, b⟩
  rw [called] at done clean
  have finishes : ∀ tag, RawURLEncoding.decodeString (trimSpace m.confirmation) = some tag →
      a.Finishes (calls ++ [.step m]) (a.run calls).2.initiator tag :=
    fun tag carried => ⟨calls, m, [], r, b, rfl, rfl, called, done, clean, carried⟩
  cases step_spec _ b m r called with
  | unbound | terminal | rejected | accepted => cases done
  | confirmed set role waiting confirm => exact ⟨set, _, finishes _ confirm.tag⟩
  | completed keyed set role waiting accept => exact ⟨set, _, finishes _ accept.tag⟩

theorem run_snoc (a : InteractiveAuthenticator P) (calls : List Call) (c : Call) :
    (a.run (calls ++ [c])).2 = ((a.run calls).2.call c).2 := by
  rw [run_append]
  rfl

end Rtc2Tcp.Auth.InteractiveAuthenticator

namespace Rtc2Tcp.WebRTC

open Octets Go Auth Goroutine

open Prog (perform)

section Consulting

variable {A : Authenticator}

def Session.consulted : {β : Type} → Op β → β → Session A → List InteractiveAuthenticator.Call
  | _, .bindLocked, _, s =>
    match s.control, s.authBound, s.materialLocked with
    | some _, false, .ok material => [.bind material]
    | _, _, _ => []
  | _, .authStart, _, _ => [.start]
  | _, .authStep inbound, _, _ => [.step inbound]
  | _, _, _, _ => []

/-- A session under arbitrary concurrent calls, with the calls it has made on its authenticator. -/
def consultedSystem (unmarshalString : Bytes → Option SessionDescription) (decodeMessage : Bytes → Option Message)
    (A : Authenticator) (hasOnStream : Bool) :
    System Op (Session A × List InteractiveAuthenticator.Call) Choice Call Outcome :=
  (sessionSystem unmarshalString decodeMessage A hasOnStream).recording Session.consulted

theorem bindLocked_consulted (s : Session A) :
    (s.bindLocked.2 = s ∧ Session.consulted .bindLocked s.bindLocked.1 s = []) ∨
    (s.authBound = false ∧ s.remoteFingerprint ≠ [] ∧
      Session.consulted .bindLocked s.bindLocked.1 s = [.bind s.material] ∧
      s.bindLocked.2 = { s with
        authenticator := (A.bind s.authenticator s.material).2
        authBound := (A.bind s.authenticator s.material).1.isOk
        events := s.events ++ [.bind s.material] }) := by
  cases attached : s.control with
  | none => exact .inl (by simp [Session.bindLocked, Session.consulted, attached])
  | some control =>
    cases bound : s.authBound with
    | true => exact .inl (by simp [Session.bindLocked, Session.consulted, attached, bound])
    | false =>
      by_cases missing : s.localFingerprint = [] ∨ s.remoteFingerprint = []
      · have early : s.materialLocked = .error .authMaterialNotReady := by rw [Session.materialLocked, if_pos missing]
        exact .inl (by simp [Session.bindLocked, Session.consulted, attached, bound, early])
      · have ready : s.materialLocked = .ok s.material := by
          rw [Session.materialLocked, if_neg missing]
          rfl
        refine .inr ⟨rfl, fun unknown => missing (.inr unknown), ?_, ?_⟩
        · simp [Session.consulted, attached, bound, ready]
        · rcases called : A.bind s.authenticator s.material with ⟨_ | _, a⟩
          · simp [Session.bindLocked, attached, bound, ready, called, Session.record, Except.isOk, Except.toBool]
          · simp [Session.bindLocked, attached, bound, ready, called, Session.record, Except.isOk, Except.toBool]

def Op.logs : {β : Type} → Op β → Event → Prop
  | _, .pcSetRemoteDescription _ sdp, e => e = .remoteApplied sdp
  | _, .bindLocked, e => ∃ material, e = .bind material
  | _, .authStep _, e => e = .stepDone
  | _, .onStream dc, e => e = .stream dc
  | _, _, _ => False

def Session.Logged (logs : Event → Prop) (s t : Session A) : Prop :=
  ∃ new, t.events = s.events ++ new ∧ ∀ e ∈ new, logs e

theorem Session.Logged.same {logs : Event → Prop} {s t : Session A} (events : t.events = s.events) : s.Logged logs t :=
  ⟨[], by rw [events, List.append_nil], by simp⟩

theorem Session.Logged.one {logs : Event → Prop} {s t : Session A} {e : Event} (events : t.events = s.events ++ [e])
    (logged : logs e) : s.Logged logs t :=
  ⟨[e], events, by simpa using logged⟩

theorem Session.exec_logged {β : Type} (op : Op β) (c : Choice) (s t : Session A) (result : β)
    (executed : Session.exec op c s = some (result, t)) : s.Logged op.logs t := by
  have framed := Session.exec_frame op c s t result executed
  cases op with
  | pcSetRemoteDescription type sdp =>
    simp only [exec] at executed
    split at executed
    · split at executed <;> cases executed
      · exact .one rfl rfl
      · exact .same rfl
    · cases executed
      exact .same rfl
  | bindLocked =>
    obtain rfl : s.bindLocked.2 = t := congrArg Prod.snd (Option.some.inj executed)
    rcases bindLocked_consulted s with ⟨same, _⟩ | ⟨_, _, _, same⟩ <;> rw [same]
    · exact .same rfl
    · exact .one rfl ⟨_, rfl⟩
  | authStep inbound =>
    simp only [exec, Session.authStep] at executed
    split at executed <;> cases executed
    · exact .one rfl rfl
    · exact .same rfl
  | onStream dc =>
    cases executed
    exact .one rfl rfl
  | _ => exact .same (framed.events rfl)

end Consulting

section Announced

variable {A : Authenticator} (unmarshalString : Bytes → Option SessionDescription)

def Announced (s : Session A) (fingerprint : Bytes) : Prop :=
  ∃ sdp, .remoteApplied sdp ∈ s.events ∧ extractTransportFingerprint unmarshalString sdp = .ok fingerprint

structure AnnouncedInv (s : Session A) : Prop where
  stored : s.remoteFingerprint ≠ [] → Announced unmarshalString s s.remoteFingerprint
  bound : ∀ material, .bind material ∈ s.events → Announced unmarshalString s material.remoteFingerprint

def announcedNeeds : {β : Type} → Op β → Session A → Prop
  | _, .storeRemote fingerprint, s => Announced unmarshalString s fingerprint
  | _, _, _ => True

def announcedGives : {β : Type} → Op β → β → Session A → Prop
  | _, .pcSetRemoteDescription _ sdp, ok, s => ok = true → .remoteApplied sdp ∈ s.events
  | _, _, _, _ => True

variable {unmarshalString}

theorem Announced.grows {s t : Session A} {fingerprint : Bytes} (grown : s.events <+: t.events)
    (applied : Announced unmarshalString s fingerprint) : Announced unmarshalString t fingerprint := by
  obtain ⟨sdp, member, extracted⟩ := applied
  exact ⟨sdp, grown.subset member, extracted⟩

theorem announced_sound {β : Type} (op : Op β) (c : Choice) (s t : Session A) (result : β)
    (inv : AnnouncedInv unmarshalString s) (need : announcedNeeds unmarshalString op s)
    (executed : Session.exec op c s = some (result, t)) :
    AnnouncedInv unmarshalString t ∧ s.events <+: t.events ∧ announcedGives op result t := by
  have framed := Session.exec_frame op c s t result executed
  obtain ⟨new, events, logged⟩ := Session.exec_logged op c s t result executed
  have grown : s.events <+: t.events := ⟨new, events.symm⟩
  have stored : op.writes .remoteFingerprint = false → t.remoteFingerprint ≠ [] →
      Announced unmarshalString t t.remoteFingerprint := by
    intro other known
    rw [framed.remoteFingerprint other] at known ⊢
    exact (inv.stored known).grows grown
  have bound : (∀ material, ¬op.logs (.bind material)) →
      ∀ material, .bind material ∈ t.events → Announced unmarshalString t material.remoteFingerprint := by
    intro other material member
    rw [events] at member
    rcases List.mem_append.mp member with old | fresh
    · exact (inv.bound material old).grows grown
    · exact absurd (logged _ fresh) (other material)
  cases op with
  | storeRemote fingerprint =>
    cases executed
    exact ⟨⟨fun _ => need.grows grown, bound (fun _ impossible => impossible)⟩, grown, trivial⟩
  | pcSetRemoteDescription type sdp =>
    refine ⟨⟨stored rfl, bound (by rintro _ ⟨⟩)⟩, grown, ?_⟩
    simp only [Session.exec] at executed
    split at executed
    · split at executed <;> cases executed
      · exact fun _ => List.mem_append_right _ List.mem_cons_self
      · intro impossible
        cases impossible
    · cases executed
      intro impossible
      cases impossible
  | bindLocked =>
    refine ⟨⟨stored rfl, ?_⟩, grown, trivial⟩
    intro material member
    obtain rfl : s.bindLocked.2 = t := congrArg Prod.snd (Option.some.inj executed)
    rcases bindLocked_consulted s with ⟨same, _⟩ | ⟨_, known, _, same⟩
    · rw [same] at member ⊢
      exact inv.bound material member
    · have added : s.bindLocked.2.events = s.events ++ [.bind s.material] := by rw [same]
      rw [added] at member
      rcases List.mem_append.mp member with old | fresh
      · exact (inv.bound material old).grows grown
      · cases List.mem_singleton.mp fresh
        exact (inv.stored known).grows grown
  | authStep inbound => exact ⟨⟨stored rfl, bound (by rintro _ ⟨⟩)⟩, grown, trivial⟩
  | onStream dc => exact ⟨⟨stored rfl, bound (by rintro _ ⟨⟩)⟩, grown, trivial⟩
  | _ => exact ⟨⟨stored rfl, bound (fun _ impossible => impossible)⟩, grown, trivial⟩

theorem Session.events_refl (s : Session A) : s.events <+: s.events :=
  List.prefix_refl s.events

theorem Session.events_trans (s t u : Session A) (first : s.events <+: t.events) (second : t.events <+: u.events) :
    s.events <+: u.events :=
  first.trans second

variable (unmarshalString)

def announcedDiscipline (A : Authenticator) : Discipline (machine A) where
  inv := AnnouncedInv unmarshalString
  grows s t := s.events <+: t.events
  refl := Session.events_refl
  trans := Session.events_trans
  meets _ _ := True
  needs := announcedNeeds unmarshalString
  gives := announcedGives
  sound op c s t result inv _ need executed := announced_sound op c s t result inv need executed

abbrev AnnouncedSafe (A : Authenticator) {α : Type} (p : Prog Op α) : Prop :=
  ∀ s : Session A, Safe (announcedDiscipline unmarshalString A) (fun _ _ => True) p s

variable {unmarshalString}

theorem announced_local : Local fun p => AnnouncedSafe unmarshalString A p where
  pure value s := Safe.pure fun _ _ _ => trivial
  bind first rest s := (first s).bind fun value t _ _ _ => rest value t
  op op other s := by
    refine Safe.perform (fun _ _ _ _ => ?_) (fun _ _ _ _ _ => trivial) fun _ _ _ _ _ _ => trivial
    cases op with
    | storeRemote => cases other
    | _ => trivial

theorem announced_candidate (candidate : ICECandidate) :
    AnnouncedSafe unmarshalString A (perform (.pcAddICECandidate candidate)) :=
  fun _ => Safe.perform (fun _ _ _ _ => trivial) (fun _ _ _ _ _ => trivial) fun _ _ _ _ _ _ => trivial

theorem announced_flush (pending : List ICECandidate) : AnnouncedSafe unmarshalString A (flushCandidates pending) := by
  induction pending with
  | nil => exact announced_local.pure _
  | cons candidate rest ih =>
    refine announced_local.bind (announced_candidate candidate) fun ok => ?_
    split
    · exact ih
    · exact announced_local.pure _

theorem announced_setRemoteDescription (type : SDPType) (sdp : Bytes) :
    AnnouncedSafe unmarshalString A (setRemoteDescription unmarshalString type sdp) := by
  intro s
  unfold setRemoteDescription
  have setting : Safe (announcedDiscipline unmarshalString A) (fun ok t => ok = true → .remoteApplied sdp ∈ t.events)
      (perform (.pcSetRemoteDescription type sdp)) s :=
    Safe.perform (fun _ _ _ _ => trivial) (fun _ _ _ _ given => given) fun _ _ _ _ grown held ok => grown.subset (held ok)
  refine setting.bind fun ok t _ _ applied => ?_
  split
  · rename_i accepted
    split
    · exact announced_local.pure _ t
    · rename_i fingerprint extracted
      have storing : Safe (announcedDiscipline unmarshalString A) (fun _ _ => True)
          (perform (.storeRemote fingerprint)) t := by
        refine Safe.perform (fun u _ grown _ => ?_) (fun _ _ _ _ _ => trivial) fun _ _ _ _ _ _ => trivial
        exact ⟨sdp, grown.subset (applied accepted), extracted⟩
      refine storing.bind fun pending u _ _ _ => ?_
      refine announced_local.bind (announced_flush pending) (fun flushed => ?_) u
      split
      · exact announced_local.bind announced_local.maybeEnterAuthPending fun _ => announced_local.pure _
      · exact announced_local.pure _
  · exact announced_local.pure _ t

theorem announced_body (decodeMessage : Bytes → Option Message) (hasOnStream : Bool) (call : Call) :
    AnnouncedSafe unmarshalString A (body unmarshalString decodeMessage hasOnStream call) := by
  have L : Local fun p => AnnouncedSafe unmarshalString A p := announced_local
  cases remote : call.remote with
  | false => exact L.body unmarshalString decodeMessage hasOnStream call remote
  | true =>
    cases call with
    | handleOffer offer =>
      refine L.composed.map _ (L.bind (announced_setRemoteDescription .offer offer) fun error => ?_)
      split
      · exact L.pure _
      · exact L.describe unmarshalString .answer
    | handleAnswer answer => exact L.composed.map _ (announced_setRemoteDescription .answer answer)
    | addRemoteCandidate candidate =>
      have queueing : AnnouncedSafe unmarshalString A (perform (.queueCandidate candidate)) :=
        fun _ => Safe.perform (fun _ _ _ _ => trivial) (fun _ _ _ _ _ => trivial) fun _ _ _ _ _ _ => trivial
      exact L.composed.map _ (L.composed.addRemoteCandidate candidate queueing (announced_candidate candidate))
    | _ => cases remote

theorem announced_run (decodeMessage : Bytes → Option Message) (hasOnStream : Bool) (cfg : SessionConfig A) (created : Bool)
    (control : Option DataChannel) (s : Session A) (ok : newSession cfg created control = .ok s)
    (moves : List (Move Choice Call)) (p : Pool Op (Session A) Call Outcome)
    (ran : (sessionSystem unmarshalString decodeMessage A hasOnStream).run ⟨s, []⟩ moves = some p) :
    AnnouncedInv unmarshalString p.shared := by
  let system := sessionSystem unmarshalString decodeMessage A hasOnStream
  let D : Discipline system.toMachine := announcedDiscipline unmarshalString A
  have fresh := newSession_fresh cfg created control s ok
  have initial : Certified D (fun _ _ _ _ => True) (⟨s, []⟩ : Pool Op (Session A) Call Outcome) := by
    refine ⟨⟨fun known => absurd fresh.remoteFingerprint known, ?_⟩, by simp⟩
    intro material called
    rw [fresh.events] at called
    cases called
  exact (certified_run _ p moves initial
    (fun call s t entered holds => by
      rw [enter_same call s t entered]
      exact ⟨holds, D.refl s⟩)
    (fun _ call t _ _ => announced_body decodeMessage hasOnStream call t)
    (D.metBy_always (fun _ _ => trivial) _ _) ran).1.inv

end Announced

section Peers

variable {P : Primitives}

abbrev Consulted (P : Primitives) := Session (interactive P) × List InteractiveAuthenticator.Call

structure ConsultInv (a : InteractiveAuthenticator P) (mode : PeerMode) (sessionID : Bytes) (x : Consulted P) : Prop where
  sameMode : x.1.mode = mode
  sameID : x.1.sessionID = sessionID
  authenticator : x.1.authenticator = (a.run x.2).2
  unbound : x.1.authBound = false → x.1.authenticator.bound = false
  bound : x.1.authBound = true → ∃ fingerprint remoteFingerprint,
    .bind ⟨sessionID, mode, fingerprint, remoteFingerprint⟩ ∈ x.1.events ∧
    x.1.authenticator.Holds ⟨sessionID, mode, fingerprint, remoteFingerprint⟩
  finished : StepDone x.1 → ∃ tag, a.Finishes x.2 (decide (mode = .connect)) tag

variable {a : InteractiveAuthenticator P} {mode : PeerMode} {sessionID : Bytes}

theorem ConsultInv.silent {x : Consulted P} {t : Session (interactive P)} (inv : ConsultInv a mode sessionID x)
    (sameMode : t.mode = x.1.mode) (sameID : t.sessionID = x.1.sessionID) (same : t.authenticator = x.1.authenticator)
    (authBound : t.authBound = x.1.authBound) (grown : x.1.events <+: t.events) (undone : StepDone t → StepDone x.1) :
    ConsultInv a mode sessionID (t, x.2 ++ []) := by
  rw [List.append_nil]
  refine ⟨sameMode.trans inv.sameMode, sameID.trans inv.sameID, same.trans inv.authenticator, ?_, ?_, ?_⟩
  · rw [authBound, same]
    exact inv.unbound
  · intro set
    obtain ⟨near, far, called, holds⟩ := inv.bound (authBound.symm.trans set)
    exact ⟨near, far, grown.subset called, same ▸ holds⟩
  · exact fun done => inv.finished (undone done)

theorem ConsultInv.asked {x : Consulted P} {t : Session (interactive P)} (inv : ConsultInv a mode sessionID x)
    (c : InteractiveAuthenticator.Call) (sameMode : t.mode = x.1.mode) (sameID : t.sessionID = x.1.sessionID)
    (next : t.authenticator = (x.1.authenticator.call c).2)
    (kept : InteractiveAuthenticator.KeysKept x.1.authenticator t.authenticator)
    (authBound : t.authBound = x.1.authBound) (grown : x.1.events <+: t.events)
    (finished : StepDone t → StepDone x.1 ∨ ∃ tag, a.Finishes (x.2 ++ [c]) (decide (mode = .connect)) tag) :
    ConsultInv a mode sessionID (t, x.2 ++ [c]) := by
  refine ⟨sameMode.trans inv.sameMode, sameID.trans inv.sameID, ?_, ?_, ?_, ?_⟩
  · rw [next, inv.authenticator, InteractiveAuthenticator.run_snoc]
  · intro unset
    exact kept.bound.trans (inv.unbound (authBound.symm.trans unset))
  · intro set
    obtain ⟨near, far, called, holds⟩ := inv.bound (authBound.symm.trans set)
    exact ⟨near, far, grown.subset called, holds.kept kept⟩
  · intro done
    rcases finished done with before | here
    · obtain ⟨tag, finishes⟩ := inv.finished before
      exact ⟨tag, finishes.append [c]⟩
    · exact here

theorem consult_sound {β : Type} (op : Op β) (c : Choice) (x : Consulted P) (t : Session (interactive P)) (result : β)
    (inv : ConsultInv a mode sessionID x) (executed : Session.exec op c x.1 = some (result, t)) :
    ConsultInv a mode sessionID (t, x.2 ++ Session.consulted op result x.1) := by
  have framed := Session.exec_frame op c x.1 t result executed
  obtain ⟨new, events, logged⟩ := Session.exec_logged op c x.1 t result executed
  have grown : x.1.events <+: t.events := ⟨new, events.symm⟩
  have undone : ¬op.logs .stepDone → StepDone t → StepDone x.1 := by
    intro other done
    unfold StepDone at done
    rw [events] at done
    rcases List.mem_append.mp done with old | fresh
    · exact old
    · exact absurd (logged _ fresh) other
  cases op with
  | bindLocked =>
    obtain rfl : x.1.bindLocked.2 = t := congrArg Prod.snd (Option.some.inj executed)
    obtain rfl : x.1.bindLocked.1 = result := congrArg Prod.fst (Option.some.inj executed)
    have before := undone (by rintro ⟨_, ⟨⟩⟩)
    rcases bindLocked_consulted x.1 with ⟨same, silent⟩ | ⟨unset, _, asked, next⟩
    · rw [silent, same]
      exact inv.silent rfl rfl rfl rfl (List.prefix_refl _) id
    · rw [asked]
      rw [next] at before ⊢
      have material : x.1.material = ⟨sessionID, mode, x.1.localFingerprint, x.1.remoteFingerprint⟩ := by
        rw [Session.material, inv.sameID, inv.sameMode]
      refine ⟨inv.sameMode, inv.sameID, ?_, ?_, ?_, ?_⟩
      · show (x.1.authenticator.bind x.1.material).2 = _
        rw [InteractiveAuthenticator.run_snoc, ← inv.authenticator]
        rfl
      · intro refused
        rcases called : x.1.authenticator.bind x.1.material with ⟨_ | _, b⟩
        · show (x.1.authenticator.bind x.1.material).2.bound = false
          rw [called]
          exact (InteractiveAuthenticator.bind_refused _ b _ _ called).trans (inv.unbound unset)
        · have ok : (x.1.authenticator.bind x.1.material).1.isOk = false := refused
          rw [called] at ok
          cases ok
      · intro accepted
        rcases called : x.1.authenticator.bind x.1.material with ⟨_ | _, b⟩
        · have ok : (x.1.authenticator.bind x.1.material).1.isOk = true := accepted
          rw [called] at ok
          cases ok
        · refine ⟨x.1.localFingerprint, x.1.remoteFingerprint, ?_, ?_⟩
          · rw [← material]
            exact List.mem_append_right _ List.mem_cons_self
          · show InteractiveAuthenticator.Holds (x.1.authenticator.bind x.1.material).2 _
            rw [← material, called]
            exact InteractiveAuthenticator.holds_of_bind _ b _ called
      · intro done
        obtain ⟨tag, finishes⟩ := inv.finished (before done)
        exact ⟨tag, finishes.append _⟩
  | authStart =>
    cases executed
    exact inv.asked .start rfl rfl rfl (InteractiveAuthenticator.start_keysKept _) rfl grown fun done => .inl done
  | authStep inbound =>
    have next : t.authenticator = (x.1.authenticator.step inbound).2 ∧ t.authBound = x.1.authBound := by
      simp only [Session.exec, Session.authStep] at executed
      split at executed <;> cases executed <;> exact ⟨rfl, rfl⟩
    have kept : InteractiveAuthenticator.KeysKept x.1.authenticator t.authenticator := by
      rw [next.1]
      exact InteractiveAuthenticator.step_keysKept _ inbound
    refine inv.asked (.step inbound) framed.mode framed.sessionID next.1 kept next.2 grown ?_
    intro done
    simp only [Session.exec, Session.authStep] at executed
    split at executed
    · rename_i finished
      have here := inv.authenticator
      have ended : ((a.run x.2).2.step inbound).1.done = true := by
        rw [← here]
        exact finished.1
      have clean : ((a.run x.2).2.step inbound).1.err = none := by
        rw [← here]
        exact finished.2
      obtain ⟨set, tag, finishes⟩ := InteractiveAuthenticator.step_finishes a x.2 inbound ended clean
      have pinned : x.1.authBound = true := by
        by_contra unset
        have open' := inv.unbound (by simpa using unset)
        rw [here, set] at open'
        cases open'
      obtain ⟨_, _, _, holds⟩ := inv.bound pinned
      have role := holds.role
      rw [here] at role
      rw [role] at finishes
      exact .inr ⟨tag, finishes⟩
    · cases executed
      exact .inl done
  | pcSetRemoteDescription | onStream =>
    exact inv.silent framed.mode framed.sessionID (framed.authenticator rfl) (framed.authBound rfl)
      grown (undone (by rintro ⟨⟩))
  | _ =>
    exact inv.silent framed.mode framed.sessionID (framed.authenticator rfl) (framed.authBound rfl)
      grown (undone id)

theorem newSession_sessionID {A : Authenticator} (cfg : SessionConfig A) (created : Bool) (control : Option DataChannel)
    (s : Session A) (ok : newSession cfg created control = .ok s) : s.sessionID = cfg.sessionID := by
  unfold newSession at ok
  dsimp only at ok
  repeat' split at ok
  all_goals cases ok
  all_goals rfl

variable (P)

/-- A peer's session in any run, from a fresh authenticator on. -/
structure Party (unmarshalString : Bytes → Option SessionDescription) (decodeMessage : Bytes → Option Message)
    (mode : PeerMode) where
  secret : Bytes
  scheme : Bytes
  rng : P.Reader
  first : InteractiveAuthenticator P
  fresh : newInteractiveAuthenticator secret scheme rng = .ok first
  sessionID : Bytes
  initiator : Bool
  created : Bool
  control : Option DataChannel
  session : Session (interactive P)
  made : newSession ⟨mode, sessionID, initiator, first, .signaling⟩ created control = .ok session
  hasOnStream : Bool
  moves : List (Move Choice Call)
  pool : Pool Op (Consulted P) Call Outcome
  ran : (consultedSystem unmarshalString decodeMessage (interactive P) hasOnStream).run ⟨(session, []), []⟩ moves =
    some pool

namespace Party

variable {P} {unmarshalString : Bytes → Option SessionDescription} {decodeMessage : Bytes → Option Message}
  (party : Party P unmarshalString decodeMessage mode)

def now : Session (interactive P) := party.pool.shared.1

def calls : List InteractiveAuthenticator.Call := party.pool.shared.2

theorem consults : ConsultInv party.first mode party.sessionID (party.now, party.calls) := by
  have starts := newSession_starts _ _ _ _ party.made
  have fresh := newSession_fresh _ _ _ _ party.made
  obtain ⟨_, _, _, unset, _⟩ := InteractiveAuthenticator.newInteractiveAuthenticator_fresh _ _ _ _ party.fresh
  have initial : ConsultInv party.first mode party.sessionID (party.session, []) := by
    refine ⟨starts.mode, newSession_sessionID _ _ _ _ party.made, starts.authenticator, ?_, ?_, ?_⟩
    · intro _
      rw [starts.authenticator]
      exact unset
    · intro set
      rw [starts.authBound] at set
      cases set
    · intro done
      unfold StepDone at done
      rw [fresh.events] at done
      cases done
  let system := consultedSystem unmarshalString decodeMessage (interactive P) party.hasOnStream
  have entered : ∀ call x y, system.enter call x = some y → ConsultInv party.first mode party.sessionID x →
      ConsultInv party.first mode party.sessionID y := by
    intro call x y entered inv
    obtain ⟨s, same, rfl⟩ := Option.map_eq_some_iff.mp entered
    rw [enter_same call x.1 s same]
    exact inv
  have moved : ∀ {β : Type} (op : Op β) c x y result, system.exec op c x = some (result, y) →
      ConsultInv party.first mode party.sessionID x → ConsultInv party.first mode party.sessionID y := by
    intro β op c x y result executed inv
    obtain ⟨executed, log⟩ := recording_exec executed
    obtain ⟨t, calls⟩ := y
    obtain rfl : calls = _ := log
    exact consult_sound op c x t result inv executed
  exact Transition.run_preserves
    (fun _ _ _ inv stepped => System.step_stable entered moved stepped inv) _ party.pool party.moves
    initial party.ran

theorem unrecorded : (sessionSystem unmarshalString decodeMessage (interactive P) party.hasOnStream).run
    ⟨party.session, []⟩ party.moves = some ⟨party.now, party.pool.threads⟩ :=
  (recording_run _ [] _ ⟨party.now, party.pool.threads⟩).mpr ⟨party.calls, party.ran⟩

theorem finishes (favourable : party.now.verdict = some none) :
    ∃ tag, party.first.Finishes party.calls (decide (mode = .connect)) tag :=
  party.consults.finished (verdict_stepDone unmarshalString party.made party.unrecorded favourable)

/-- The authenticator holds the material of the session, with the fingerprint of a description that was applied. -/
theorem holds (bound : party.now.authenticator.bound = true) : ∃ fingerprint remoteFingerprint,
    .bind ⟨party.sessionID, mode, fingerprint, remoteFingerprint⟩ ∈ party.now.events ∧
    party.now.authenticator.Holds ⟨party.sessionID, mode, fingerprint, remoteFingerprint⟩ ∧
    Announced unmarshalString party.now remoteFingerprint := by
  have inv := party.consults
  have pinned : party.now.authBound = true := by
    by_contra unset
    have open' := inv.unbound (by simpa using unset)
    rw [bound] at open'
    cases open'
  obtain ⟨near, far, called, holds⟩ := inv.bound pinned
  have announced := announced_run decodeMessage party.hasOnStream _ _ _ _ party.made _ _ party.unrecorded
  exact ⟨near, far, called, holds, announced.bound _ called⟩

end Party

variable {P} {unmarshalString : Bytes → Option SessionDescription} {decodeMessage : Bytes → Option Message}

/-- The two sessions have the same pairing secret, session and key, and each has bound the fingerprint of the other, read
    from a description that its own peer connection has applied. -/
structure Matched (i : Party P unmarshalString decodeMessage .connect) (r : Party P unmarshalString decodeMessage .expose) :
    Prop where
  secret : trimSpace i.secret = trimSpace r.secret
  session : trimSpace i.sessionID = trimSpace r.sessionID
  sessionKey :
    InteractiveAuthenticator.sessionKey i.now.authenticator = InteractiveAuthenticator.sessionKey r.now.authenticator
  fingerprints : ∃ nearI farI nearR farR, .bind ⟨i.sessionID, .connect, nearI, farI⟩ ∈ i.now.events ∧
    .bind ⟨r.sessionID, .expose, nearR, farR⟩ ∈ r.now.events ∧
    canonicalFingerprint farI = canonicalFingerprint nearR ∧ canonicalFingerprint farR = canonicalFingerprint nearI ∧
    Announced unmarshalString i.now farI ∧ Announced unmarshalString r.now farR

theorem Matched.of_agreement {i : Party P unmarshalString decodeMessage .connect}
    {r : Party P unmarshalString decodeMessage .expose}
    (agreement : InteractiveAuthenticator.Agreement (i.first.run i.calls).2 (r.first.run r.calls).2)
    (boundI : (i.first.run i.calls).2.bound = true) (boundR : (r.first.run r.calls).2.bound = true) : Matched i r := by
  rw [← i.consults.authenticator, ← r.consults.authenticator] at agreement
  rw [← i.consults.authenticator] at boundI
  rw [← r.consults.authenticator] at boundR
  obtain ⟨nearI, farI, calledI, holdsI, announcedI⟩ := i.holds boundI
  obtain ⟨nearR, farR, calledR, holdsR, announcedR⟩ := r.holds boundR
  obtain ⟨trimmedI, _⟩ := InteractiveAuthenticator.newInteractiveAuthenticator_fresh _ _ _ _ i.fresh
  obtain ⟨trimmedR, _⟩ := InteractiveAuthenticator.newInteractiveAuthenticator_fresh _ _ _ _ r.fresh
  refine ⟨?_, ?_, agreement.sessionKey, nearI, farI, nearR, farR, calledI, calledR, ?_, ?_, announcedI, announcedR⟩
  · have secret := agreement.secret
    rw [i.consults.authenticator, r.consults.authenticator] at secret
    rw [← trimmedI, ← trimmedR, ← InteractiveAuthenticator.run_keeps_secret i.first i.calls,
      ← InteractiveAuthenticator.run_keeps_secret r.first r.calls]
    exact secret
  · exact holdsI.sessionID.symm.trans (agreement.session.trans holdsR.sessionID)
  · exact holdsI.remoteFingerprint.symm.trans (agreement.responderFingerprint.trans holdsR.localFingerprint)
  · exact holdsR.remoteFingerprint.symm.trans (agreement.initiatorFingerprint.symm.trans holdsI.localFingerprint)

theorem derives_bound {a : InteractiveAuthenticator P} {calls : List InteractiveAuthenticator.Call} {d : Derivation P}
    (derives : a.Derives calls d) {b : InteractiveAuthenticator P} {state : AuthState}
    (keyed : b = { d.keyed with state := state }) : b.bound = true := by
  obtain ⟨taken, m, rest, _, on⟩ := derives
  obtain ⟨raw, _, _, _, party, _⟩ := on.share
  rw [keyed]
  show d.party.bound = true
  rw [party]
  exact on.set

/-- No one in the middle. Whatever offers, answers, candidates and control frames reach the two sessions and in whatever
    order, if the connecting one is authenticated by a tag that the exposing one's authenticator has made, the two match;
    and if the exposing one is authenticated by a tag of the connecting one's, they match and the connecting one's
    authenticator has succeeded before. -/
theorem sessions_agree (i : Party P unmarshalString decodeMessage .connect)
    (r : Party P unmarshalString decodeMessage .expose)
    (free : CollisionFree P fun d => i.first.Derives i.calls d ∨ r.first.Derives r.calls d)
    (short : ∀ d, i.first.Derives i.calls d ∨ r.first.Derives r.calls d → ShortFingerprints d.party) :
    (i.now.verdict = some none → ∃ tag, i.first.Finishes i.calls true tag ∧
      (r.first.Emits r.calls false tag → Matched i r)) ∧
    (r.now.verdict = some none → ∃ tag, r.first.Finishes r.calls false tag ∧
      (i.first.Emits i.calls true tag → Matched i r ∧ (i.first.run i.calls).2.state = .succeeded)) := by
  obtain ⟨_, _, freshI, _⟩ := InteractiveAuthenticator.newInteractiveAuthenticator_fresh _ _ _ _ i.fresh
  obtain ⟨_, _, freshR, _⟩ := InteractiveAuthenticator.newInteractiveAuthenticator_fresh _ _ _ _ r.fresh
  have matched : ∀ d e stateI stateR, SameDerivation d e → i.first.Derives i.calls d → r.first.Derives r.calls e →
      d.party.initiator = true → e.party.initiator = false → (i.first.run i.calls).2 = { d.keyed with state := stateI } →
      (r.first.run r.calls).2 = { e.keyed with state := stateR } → Matched i r := by
    intro d e stateI stateR same derivesI derivesR initiator responder keyedI keyedR
    exact .of_agreement
      (InteractiveAuthenticator.agreement_of_same_derivation d e same initiator responder _ _ _ _ keyedI keyedR)
      (derives_bound derivesI keyedI) (derives_bound derivesR keyedR)
  constructor
  · intro favourable
    obtain ⟨tag, finishes⟩ := i.finishes favourable
    refine ⟨tag, finishes, ?_⟩
    intro emits
    obtain ⟨e, derivesR, responder, keyedR, sent, _⟩ := InteractiveAuthenticator.emits_derivation _ _ false tag emits
    obtain ⟨d, derivesI, initiator, keyedI, _, received⟩ :=
      InteractiveAuthenticator.finishes_derivation _ freshI _ true tag finishes
    have same := same_derivation_of_responderConfirm free d e (.inl derivesI) (.inr derivesR)
      (short d (.inl derivesI)) (short e (.inr derivesR)) ((received rfl).symm.trans (sent rfl))
    exact matched d e _ _ same derivesI derivesR initiator responder keyedI keyedR
  · intro favourable
    obtain ⟨tag, finishes⟩ := r.finishes favourable
    refine ⟨tag, finishes, ?_⟩
    intro emits
    obtain ⟨d, derivesI, initiator, keyedI, _, sent⟩ := InteractiveAuthenticator.emits_derivation _ _ true tag emits
    obtain ⟨e, derivesR, responder, keyedR, received, _⟩ :=
      InteractiveAuthenticator.finishes_derivation _ freshR _ false tag finishes
    have same := same_derivation_of_initiatorConfirm free d e (.inl derivesI) (.inr derivesR)
      (short d (.inl derivesI)) (short e (.inr derivesR)) ((sent rfl).1.symm.trans (received rfl))
    exact ⟨matched d e _ _ same derivesI derivesR initiator responder keyedI keyedR, (sent rfl).2⟩

end Peers

section Vectors

open InteractiveAuthenticator
  (vectors vectorFresh vectorSecret vectorSession vectorHello vectorAccept initiatorKey responderKey)

def localPrint : Bytes := text "sha-256 aa:01"
def remotePrint : Bytes := text "sha-256 bb:02"

def parseVector (raw : Bytes) : Option SessionDescription :=
  if raw = channelSDP localPrint then some (channelDescription localPrint)
  else if raw = channelSDP remotePrint then some (channelDescription remotePrint)
  else none

def vectorSteps (fingerprint : Bytes) (thread count : Nat) : List (Move Choice Call) :=
  List.replicate count (.run thread ⟨true, channelSDP fingerprint, 0⟩)

def connectMoves : List (Move Choice Call) :=
  .spawn .createOffer :: vectorSteps localPrint 0 5 ++
    .spawn (.handleAnswer (channelSDP remotePrint)) :: vectorSteps localPrint 1 7 ++
    .spawn (.controlOpen controlDC) :: vectorSteps localPrint 2 7 ++
    .spawn (.controlMessage controlDC (marshalMessage vectorAccept)) :: vectorSteps localPrint 3 6

def exposeMoves : List (Move Choice Call) :=
  .spawn (.dataChannel controlDC) :: vectorSteps remotePrint 0 4 ++
    .spawn (.handleOffer (channelSDP localPrint)) :: vectorSteps remotePrint 1 10 ++
    .spawn (.controlMessage controlDC (marshalMessage vectorHello)) :: vectorSteps remotePrint 2 4

def connectMaterial : SessionBindingMaterial := ⟨vectorSession, .connect, text "SHA-256 AA:01", text "SHA-256 BB:02"⟩
def exposeMaterial : SessionBindingMaterial := ⟨vectorSession, .expose, text "SHA-256 BB:02", text "SHA-256 AA:01"⟩

def connectCalls : List InteractiveAuthenticator.Call := [.bind connectMaterial, .start, .step vectorAccept]
def exposeCalls : List InteractiveAuthenticator.Call := [.bind exposeMaterial, .step vectorHello]

theorem connectCalls_derives (d : Derivation vectors) (derives : (vectorFresh initiatorKey.val).Derives connectCalls d) :
    InteractiveAuthenticator.VectorDerivation d := by
  obtain ⟨party, secret⟩ :=
    InteractiveAuthenticator.vector_derivation initiatorKey [.bind connectMaterial, .start] vectorAccept
    InteractiveAuthenticator.responderPublic rfl rfl d derives
  obtain ⟨_, shared⟩ := d
  subst party
  have derived : some shared = some InteractiveAuthenticator.vectorShared.val := secret.1.symm.trans (by decide +kernel)
  obtain rfl := Option.some.inj derived
  exact ⟨by decide +kernel, by decide +kernel, by decide +kernel, rfl, by decide +kernel⟩

theorem exposeCalls_derives (d : Derivation vectors) (derives : (vectorFresh responderKey.val).Derives exposeCalls d) :
    InteractiveAuthenticator.VectorDerivation d := by
  obtain ⟨party, secret⟩ := InteractiveAuthenticator.vector_derivation responderKey [.bind exposeMaterial] vectorHello
    InteractiveAuthenticator.initiatorPublic rfl rfl d derives
  obtain ⟨_, shared⟩ := d
  subst party
  have derived : some shared = some InteractiveAuthenticator.vectorShared.val := secret.1.symm.trans (by decide +kernel)
  obtain rfl := Option.some.inj derived
  exact ⟨by decide +kernel, by decide +kernel, by decide +kernel, rfl, by decide +kernel⟩

abbrev vectorSystem (hasOnStream : Bool) : System Op (Consulted vectors) Choice Call Outcome :=
  consultedSystem parseVector decodeMessage (interactive vectors) hasOnStream

def offeringSession : Session (interactive vectors) :=
  { exposedSession with
    mode := .connect, authenticator := vectorFresh initiatorKey.val, control := some controlDC
    onOpen := [controlDC], onMessage := [controlDC], onClose := [controlDC] }

theorem sessions_agree_vectors :
    ∃ (i : Party vectors parseVector decodeMessage .connect) (r : Party vectors parseVector decodeMessage .expose),
      i.now.verdict = some none ∧ Matched i r := by
  have endedI : ((vectorSystem false).run ⟨(offeringSession, []), []⟩ connectMoves).map
      (fun p => (p.shared.1.verdict, p.shared.2)) = some (some none, connectCalls) := by decide +kernel
  have endedR : ((vectorSystem true).run ⟨(exposedSession, []), []⟩ exposeMoves).map (fun p => p.shared.2) =
      some exposeCalls := by decide +kernel
  have emits : (vectorFresh responderKey.val).Emits exposeCalls false InteractiveAuthenticator.vectorResponderTag.val :=
    ⟨[.bind exposeMaterial], vectorHello, [], _, _, rfl, by decide +kernel, Prod.mk.eta.symm, by decide +kernel,
      by decide +kernel⟩
  obtain ⟨p, ranI, viewI⟩ := Option.map_eq_some_iff.mp endedI
  obtain ⟨q, ranR, callsR⟩ := Option.map_eq_some_iff.mp endedR
  obtain ⟨favourable, callsI⟩ := Prod.mk.inj viewI
  let i : Party vectors parseVector decodeMessage .connect :=
    ⟨vectorSecret, Scheme.transitionalV2.name, initiatorKey.val, vectorFresh initiatorKey.val, rfl, vectorSession, true,
      true, some controlDC, offeringSession, rfl, false, connectMoves, p, ranI⟩
  let r : Party vectors parseVector decodeMessage .expose :=
    ⟨vectorSecret, Scheme.transitionalV2.name, responderKey.val, vectorFresh responderKey.val, rfl, vectorSession, false,
      true, none, exposedSession, rfl, true, exposeMoves, q, ranR⟩
  have only : ∀ d, i.first.Derives i.calls d ∨ r.first.Derives r.calls d → InteractiveAuthenticator.VectorDerivation d := by
    rintro d (derives | derives)
    · exact connectCalls_derives d (callsI ▸ derives)
    · exact exposeCalls_derives d (callsR ▸ derives)
  obtain ⟨agree, _⟩ := sessions_agree i r (InteractiveAuthenticator.vectors_collisionFree _ only)
    fun d occurs => (only d occurs).short
  obtain ⟨tag, finishes, matched⟩ := agree favourable
  refine ⟨i, r, favourable, matched ?_⟩
  -- the accept is the only message, so its tag is the one that counts
  obtain ⟨taken, m, rest, _, _, split, _, _, _, _, carried⟩ := finishes
  obtain ⟨_, rfl⟩ := InteractiveAuthenticator.only_step [.bind connectMaterial, .start] taken rest vectorAccept m rfl
    (Eq.trans callsI.symm split)
  have same : some InteractiveAuthenticator.vectorResponderTag.val = some tag :=
    Eq.trans (by decide +kernel) carried
  obtain rfl := Option.some.inj same
  have made : r.calls = exposeCalls := callsR
  rw [made]
  exact emits

end Vectors

end Rtc2Tcp.WebRTC

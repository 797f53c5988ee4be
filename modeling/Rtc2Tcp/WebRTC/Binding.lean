import Rtc2Tcp.WebRTC.PayloadGate

namespace Rtc2Tcp.WebRTC

open Octets Go Auth Goroutine

variable {A : Authenticator}

/-- The remote description the transport was started with. -/
def firstRemote (events : List Event) : Option Bytes :=
  events.findSome? fun
    | .remoteApplied sdp => some sdp
    | _ => none

theorem firstRemote_grows {events later : List Event} {sdp : Bytes} (grown : events <+: later)
    (first : firstRemote events = some sdp) : firstRemote later = some sdp := by
  obtain ⟨rest, rfl⟩ := grown
  rw [firstRemote, List.findSome?_append]
  rw [firstRemote] at first
  rw [first]
  rfl

section Binding

variable (unmarshalString : Bytes → Option SessionDescription)

/-- The fingerprint is the one of the first remote description that was applied. -/
def IsFirstFingerprint (s : Session A) (fingerprint : Bytes) : Prop :=
  ∃ sdp, firstRemote s.events = some sdp ∧
    extractTransportFingerprint unmarshalString sdp = .ok fingerprint

def Op.storesRemote : {β : Type} → Op β → Option Bytes
  | _, .storeRemote fingerprint => some fingerprint
  | _, _ => none

/-- The step does not overwrite the fingerprint of the first remote description while the
    authenticator is not bound. -/
def KeepsFirst {β : Type} (op : Op β) (s : Session A) : Prop :=
  ∀ fingerprint, op.storesRemote = some fingerprint → s.authBound = false →
    IsFirstFingerprint unmarshalString s fingerprint

instance (s : Session A) (fingerprint : Bytes) : Decidable (IsFirstFingerprint unmarshalString s fingerprint) :=
  match found : firstRemote s.events with
  | none => isFalse fun ⟨sdp, first, _⟩ => by rw [found] at first; cases first
  | some sdp => decidable_of_iff (extractTransportFingerprint unmarshalString sdp = .ok fingerprint)
      ⟨fun same => ⟨sdp, found, same⟩, fun ⟨sdp', first, same⟩ => by rw [found] at first; cases first; exact same⟩

instance {β : Type} (op : Op β) (s : Session A) : Decidable (KeepsFirst unmarshalString op s) :=
  match stored : op.storesRemote with
  | none => isTrue fun fingerprint found => by rw [stored] at found; cases found
  | some fingerprint =>
    decidable_of_iff (s.authBound = false → IsFirstFingerprint unmarshalString s fingerprint)
      ⟨fun first other found => by rw [stored] at found; cases found; exact first,
        fun keeps => keeps fingerprint stored⟩

structure BindingInv (s : Session A) : Prop where
  stored : s.authBound = false → s.remoteFingerprint ≠ [] →
    IsFirstFingerprint unmarshalString s s.remoteFingerprint
  bound : ∀ material, .bind material ∈ s.events →
    IsFirstFingerprint unmarshalString s material.remoteFingerprint

variable {unmarshalString}

theorem IsFirstFingerprint.grows {s t : Session A} {fingerprint : Bytes} (grown : s.events <+: t.events)
    (first : IsFirstFingerprint unmarshalString s fingerprint) :
    IsFirstFingerprint unmarshalString t fingerprint := by
  obtain ⟨sdp, found, extracted⟩ := first
  exact ⟨sdp, firstRemote_grows grown found, extracted⟩

theorem binding_kept (s t : Session A) (inv : BindingInv unmarshalString s) (grown : s.events <+: t.events)
    (fewer : ∀ material, .bind material ∈ t.events → .bind material ∈ s.events)
    (authBound : t.authBound = s.authBound) (remote : t.remoteFingerprint = s.remoteFingerprint) :
    BindingInv unmarshalString t where
  stored := by
    rw [authBound, remote]
    exact fun unbound known => (inv.stored unbound known).grows grown
  bound material called := (inv.bound material (fewer material called)).grows grown

theorem binding_recorded (s t : Session A) (e : Event) (inv : BindingInv unmarshalString s)
    (events : t.events = s.events ++ [e]) (other : ∀ material, e ≠ .bind material)
    (authBound : t.authBound = s.authBound) (remote : t.remoteFingerprint = s.remoteFingerprint) :
    BindingInv unmarshalString t ∧ s.events <+: t.events := by
  have grown : s.events <+: t.events := by rw [events]; exact List.prefix_append _ _
  refine ⟨binding_kept s t inv grown ?_ authBound remote, grown⟩
  intro material called
  rw [events, List.mem_append, List.mem_singleton] at called
  rcases called with called | called
  · exact called
  · exact absurd called.symm (other material)

theorem binding_same (s t : Session A) (inv : BindingInv unmarshalString s) (events : t.events = s.events)
    (authBound : t.authBound = s.authBound) (remote : t.remoteFingerprint = s.remoteFingerprint) :
    BindingInv unmarshalString t ∧ s.events <+: t.events := by
  have grown : s.events <+: t.events := ⟨[], by rw [events, List.append_nil]⟩
  exact ⟨binding_kept s t inv grown (fun _ called => events ▸ called) authBound remote, grown⟩

theorem binding_sound {β : Type} (op : Op β) (c : Choice) (s t : Session A) (result : β)
    (inv : BindingInv unmarshalString s) (met : KeepsFirst unmarshalString op s)
    (executed : Session.exec op c s = some (result, t)) :
    BindingInv unmarshalString t ∧ s.events <+: t.events := by
  have unchanged : BindingInv unmarshalString s ∧ s.events <+: s.events := ⟨inv, List.prefix_refl _⟩
  cases op with
  | pcSetRemoteDescription type sdp =>
    simp only [Session.exec] at executed
    split at executed
    · split at executed
      · cases executed
        exact binding_recorded _ _ (.remoteApplied sdp) inv rfl (by rintro _ ⟨⟩) rfl rfl
      · cases executed
        exact unchanged
    · cases executed
      exact unchanged
  | storeRemote fingerprint =>
    cases executed
    exact ⟨⟨fun unbound _ => met fingerprint rfl unbound, inv.bound⟩, List.prefix_refl _⟩
  | bindLocked =>
    obtain rfl : s.bindLocked.2 = t := congrArg Prod.snd (Option.some.inj executed)
    rcases bindLocked_cases s with same | ⟨a, bound, material, unbound, ready, same⟩
    · rw [same]
      exact unchanged
    · -- the material holds the stored fingerprint, which is the first one as long as it is unbound
      obtain ⟨known, passed⟩ : s.remoteFingerprint ≠ [] ∧ material.remoteFingerprint = s.remoteFingerprint := by
        unfold Session.materialLocked at ready
        split at ready
        · cases ready
        · rename_i present
          cases ready
          exact ⟨fun missing => present (.inr missing), rfl⟩
      rw [same]
      have grown : s.events <+: s.events ++ [.bind material] := List.prefix_append _ _
      refine ⟨⟨fun _ known => (inv.stored unbound known).grows grown, ?_⟩, grown⟩
      intro material' called
      rw [List.mem_append, List.mem_singleton] at called
      rcases called with called | called
      · exact (inv.bound material' called).grows grown
      · cases called
        rw [passed]
        exact (inv.stored unbound known).grows grown
  | authStep inbound =>
    simp only [Session.exec, Session.authStep] at executed
    split at executed
    · cases executed
      exact binding_recorded _ _ .stepDone inv rfl (by rintro _ ⟨⟩) rfl rfl
    · cases executed
      exact binding_same _ _ inv rfl rfl rfl
  | onStream dc =>
    cases executed
    exact binding_recorded _ _ (.stream dc) inv rfl (by rintro _ ⟨⟩) rfl rfl
  | _ =>
    have framed := Session.exec_frame _ c s t result executed
    exact binding_same s t inv (framed.events rfl) (framed.authBound rfl) (framed.remoteFingerprint rfl)

variable (unmarshalString)

def bindingDiscipline (A : Authenticator) : Discipline (machine A) where
  inv := BindingInv unmarshalString
  grows s t := s.events <+: t.events
  refl _ := List.prefix_refl _
  trans _ _ _ := List.IsPrefix.trans
  meets := KeepsFirst unmarshalString
  needs _ _ := True
  gives _ _ _ := True
  sound op c s t result inv met _ executed := by
    obtain ⟨holds, grown⟩ := binding_sound op c s t result inv met executed
    exact ⟨holds, grown, trivial⟩

variable (decodeMessage : Bytes → Option Message)

/-- In every run that keeps the first remote fingerprint until the authenticator is bound, the
    material passed to `Bind` holds the fingerprint of the first remote description applied. -/
theorem binding_integrity (hasOnStream : Bool) (cfg : SessionConfig A) (created : Bool)
    (control : Option DataChannel) (s : Session A) (ok : newSession cfg created control = .ok s)
    (moves : List (Move Choice Call)) (p : Pool Op (Session A) Call Outcome)
    (ran : (sessionSystem unmarshalString decodeMessage A hasOnStream).run ⟨s, []⟩ moves = some p)
    (kept : Discipline.MetBy (S := sessionSystem unmarshalString decodeMessage A hasOnStream)
      (bindingDiscipline unmarshalString A) ⟨s, []⟩ moves) :
    ∀ material, .bind material ∈ p.shared.events → ∃ first, firstRemote p.shared.events = some first ∧
      extractTransportFingerprint unmarshalString first = .ok material.remoteFingerprint := by
  let system := sessionSystem unmarshalString decodeMessage A hasOnStream
  let D : Discipline system.toMachine := bindingDiscipline unmarshalString A
  have fresh := newSession_fresh cfg created control s ok
  have initial : Certified D (fun _ _ _ _ => True) (⟨s, []⟩ : Pool Op (Session A) Call Outcome) := by
    refine ⟨⟨?_, ?_⟩, by simp⟩
    · intro _ known
      exact absurd fresh.remoteFingerprint known
    · intro material called
      rw [fresh.events] at called
      cases called
  obtain ⟨certified, _⟩ := certified_run _ p moves initial
    (fun call s t entered holds => by
      rw [enter_same call s t entered]
      exact ⟨holds, D.refl s⟩)
    (fun i call t _ _ => (Free.of_needless (fun _ _ => trivial) _).safe t) kept ran
  exact certified.inv.bound

end Binding

section Renegotiation

/-- A description of a single data channel, as a browser or pion writes it. -/
def channelSDP (fingerprint : Bytes) : Bytes :=
  text "v=0\r\no=- 42 1 IN IP4 0.0.0.0\r\ns=-\r\nt=0 0\r\na=group:BUNDLE 0\r\n" ++
    (text "m=application 9 UDP/DTLS/SCTP webrtc-datachannel\r\nc=IN IP4 0.0.0.0\r\n" ++
      (text "a=setup:actpass\r\na=mid:0\r\na=sctp-port:5000\r\na=ice-ufrag:abcd\r\n" ++
        (text "a=ice-pwd:abcdefghijklmnopqrstuv\r\na=fingerprint:" ++ (fingerprint ++ text "\r\n"))))

def channelDescription (fingerprint : Bytes) : SessionDescription :=
  { attributes := [⟨text "group", text "BUNDLE 0"⟩]
    mediaDescriptions := [some
      { media := text "application"
        attributes :=
          [⟨text "setup", text "actpass"⟩, ⟨text "mid", text "0"⟩, ⟨text "sctp-port", text "5000"⟩,
            ⟨text "ice-ufrag", text "abcd"⟩, ⟨text "ice-pwd", text "abcdefghijklmnopqrstuv"⟩,
            ⟨text "fingerprint", fingerprint⟩] }] }

def firstPrint : Bytes := text "sha-256 11:11:11:11"
def secondPrint : Bytes := text "sha-256 22:22:22:22"
def ownPrint : Bytes := text "sha-256 33:33:33:33"

def parseChannel (raw : Bytes) : Option SessionDescription :=
  if raw = channelSDP firstPrint then some (channelDescription firstPrint)
  else if raw = channelSDP secondPrint then some (channelDescription secondPrint)
  else if raw = channelSDP ownPrint then some (channelDescription ownPrint)
  else none

def controlDC : DataChannel := ⟨1, controlChannelLabel⟩

/-- Every call on the peer connection succeeds; the local description is the session's own. -/
def granted : Choice := ⟨true, channelSDP ownPrint, 0⟩

def offerMoves (thread steps : Nat) (offer : Bytes) : List (Move Choice Call) :=
  .spawn (.handleOffer offer) :: List.replicate steps (.run thread granted)

def openMoves (thread : Nat) : List (Move Choice Call) :=
  .spawn (.dataChannel controlDC) :: List.replicate 4 (.run thread granted) ++
    .spawn (.controlOpen controlDC) :: List.replicate 4 (.run (thread + 1) granted)

abbrev exposeSystem : System Op (Session (interactive InteractiveAuthenticator.vectors)) Choice Call Outcome :=
  sessionSystem parseChannel (fun _ => none) (interactive InteractiveAuthenticator.vectors) true

def exposeEvents (moves : List (Move Choice Call)) : Option (List Event) :=
  match newSession exposeConfig true none with
  | .ok s => (exposeSystem.run ⟨s, []⟩ moves).map fun p => p.shared.events
  | .error _ => none

theorem exposeEvents_ran (moves : List (Move Choice Call)) (events : List Event)
    (ran : exposeEvents moves = some events) :
    ∃ s p, newSession exposeConfig true none = .ok s ∧ exposeSystem.run ⟨s, []⟩ moves = some p ∧
      p.shared.events = events := by
  unfold exposeEvents at ran
  split at ran
  · rename_i s made
    obtain ⟨p, reached, same⟩ := Option.map_eq_some_iff.mp ran
    exact ⟨s, p, made, reached, same⟩
  · cases ran

def boundTo (fingerprint : Bytes) : SessionBindingMaterial :=
  ⟨text "session-1", .expose, toUpper ownPrint, toUpper fingerprint⟩

/-- The second offer is accepted as a renegotiation and its fingerprint replaces the one the
    transport was started with; the authenticator is then bound to it. -/
theorem binding_overwritten :
    ∃ s p, newSession exposeConfig true none = .ok s ∧
      exposeSystem.run ⟨s, []⟩ (offerMoves 0 12 (channelSDP firstPrint) ++
        offerMoves 1 14 (channelSDP secondPrint) ++ openMoves 2) = some p ∧
      .bind (boundTo secondPrint) ∈ p.shared.events ∧
      firstRemote p.shared.events = some (channelSDP firstPrint) ∧
      extractTransportFingerprint parseChannel (channelSDP firstPrint) = .ok (toUpper firstPrint) ∧
      toUpper firstPrint ≠ (boundTo secondPrint).remoteFingerprint := by
  have ran : exposeEvents (offerMoves 0 12 (channelSDP firstPrint) ++
      offerMoves 1 14 (channelSDP secondPrint) ++ openMoves 2) =
      some [.remoteApplied (channelSDP firstPrint), .remoteApplied (channelSDP secondPrint),
        .bind (boundTo secondPrint)] := by decide +kernel
  obtain ⟨s, p, made, reached, events⟩ := exposeEvents_ran _ _ ran
  refine ⟨s, p, made, reached, ?_, ?_, by decide +kernel, by decide +kernel⟩
  · rw [events]
    simp
  · rw [events]
    rfl

def exposeDiscipline : Discipline exposeSystem.toMachine :=
  bindingDiscipline parseChannel (interactive InteractiveAuthenticator.vectors)

instance {β : Type} (op : Op β) (s : Session (interactive InteractiveAuthenticator.vectors)) :
    Decidable (exposeDiscipline.meets op s) :=
  inferInstanceAs (Decidable (KeepsFirst parseChannel op s))

theorem single_offer_keeps :
    exposeDiscipline.MetBy ⟨exposedSession, []⟩ (offerMoves 0 12 (channelSDP firstPrint) ++ openMoves 1) := by
  decide +kernel

theorem binding_integrity_single_offer :
    ∃ s p, newSession exposeConfig true none = .ok s ∧
      exposeSystem.run ⟨s, []⟩ (offerMoves 0 12 (channelSDP firstPrint) ++ openMoves 1) = some p ∧
      .bind (boundTo firstPrint) ∈ p.shared.events ∧
      ∃ first, firstRemote p.shared.events = some first ∧
        extractTransportFingerprint parseChannel first = .ok (boundTo firstPrint).remoteFingerprint := by
  have ran : exposeEvents (offerMoves 0 12 (channelSDP firstPrint) ++ openMoves 1) =
      some [.remoteApplied (channelSDP firstPrint), .bind (boundTo firstPrint)] := by decide +kernel
  obtain ⟨s, p, made, reached, events⟩ := exposeEvents_ran _ _ ran
  have called : .bind (boundTo firstPrint) ∈ p.shared.events := by
    rw [events]
    simp
  refine ⟨s, p, made, reached, called, ?_⟩
  obtain rfl : exposedSession = s := Except.ok.inj made
  exact binding_integrity parseChannel (fun _ => none) true exposeConfig true none _ made _ p reached
    single_offer_keeps (boundTo firstPrint) called

end Renegotiation

end Rtc2Tcp.WebRTC

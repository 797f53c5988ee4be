import Mathlib.Data.Set.Function
import Rtc2Tcp.Auth.Runs

namespace Rtc2Tcp.Auth

open Octets Go

variable {P : Primitives}

structure Derivation (P : Primitives) where
  party : InteractiveAuthenticator P
  shared : Bytes

namespace Derivation

def keyed (d : Derivation P) : InteractiveAuthenticator P := d.party.withKeys d.shared

def transcriptBytes (d : Derivation P) : Bytes :=
  transcriptInput d.party.scheme.name d.party.material.sessionID PeerMode.connect.string
    PeerMode.expose.string d.party.initiatorFingerprint d.party.responderFingerprint
    d.party.initiatorShare d.party.responderShare

def transcript (d : Derivation P) : Bytes := (P.sha256 d.transcriptBytes).val

def ikm (d : Derivation P) : Bytes := d.shared ++ d.party.pairingMix

def prk (d : Derivation P) : Bytes := hkdfExtract P d.transcript d.ikm

def initiatorKey (d : Derivation P) : Bytes := hkdfExpand P d.prk InteractiveAuthenticator.initiatorKeyInfo 32

def responderKey (d : Derivation P) : Bytes := hkdfExpand P d.prk InteractiveAuthenticator.responderKeyInfo 32

theorem keyed_sessionKey (d : Derivation P) :
    d.keyed.sessionKey = hkdfExpand P d.prk InteractiveAuthenticator.sessionKeyInfo 32 := rfl

/-- The inputs a derivation gives to SHA-256, HMAC, HKDF expansion and Argon2id. -/
def hashed (d : Derivation P) : Set Bytes :=
  { d.transcriptBytes, pairingSaltInput d.party.material.sessionID }

def authenticated (d : Derivation P) : Set (Bytes × Bytes) :=
  { (d.transcript, d.ikm), (d.initiatorKey, d.transcript), (d.responderKey, d.transcript) }

def expanded (d : Derivation P) : Set (Bytes × Bytes) :=
  { (d.prk, InteractiveAuthenticator.sessionKeyInfo), (d.prk, InteractiveAuthenticator.initiatorKeyInfo),
    (d.prk, InteractiveAuthenticator.responderKeyInfo) }

def stretched (d : Derivation P) : Bytes × Bytes :=
  (d.party.pairingSecret, pairingSalt P d.party.material.sessionID)

end Derivation

/-- No two different inputs that occur in the given derivations have one image. -/
structure CollisionFree (P : Primitives) (occurs : Derivation P → Prop) : Prop where
  sha256 : Set.InjOn P.sha256 { input | ∃ d, occurs d ∧ input ∈ d.hashed }
  hmac : Set.InjOn (fun input => P.hmacSHA256 input.1 input.2) { input | ∃ d, occurs d ∧ input ∈ d.authenticated }
  hkdf : Set.InjOn (fun input => hkdfExpand P input.1 input.2 32) { input | ∃ d, occurs d ∧ input ∈ d.expanded }
  argon2 : Set.InjOn (fun input => P.argon2IDKey input.1 input.2 1 (8 * 1024) 1 32)
    { input | ∃ d, occurs d ∧ input = d.stretched }

/-- The fingerprints fit the 32-bit length prefix of the transcript. Callers take them from
    messages of at most one mebibyte. -/
def ShortFingerprints (a : InteractiveAuthenticator P) : Prop :=
  a.material.localFingerprint.length < 0x100000000 ∧ a.material.remoteFingerprint.length < 0x100000000

instance (a : InteractiveAuthenticator P) : Decidable (ShortFingerprints a) :=
  inferInstanceAs (Decidable (_ ∧ _))

theorem Scheme.name_short (s : Scheme) : s.name.length < 0x100000000 := by
  cases s <;> decide

theorem ShortFingerprints.ordered {a : InteractiveAuthenticator P} (short : ShortFingerprints a) :
    a.initiatorFingerprint.length < 0x100000000 ∧ a.responderFingerprint.length < 0x100000000 := by
  simp only [InteractiveAuthenticator.initiatorFingerprint, InteractiveAuthenticator.responderFingerprint,
    InteractiveAuthenticator.orderedFields]
  split
  · exact short
  · exact short.symm

theorem shares_length (a : InteractiveAuthenticator P) :
    a.initiatorShare.length = 32 ∧ a.responderShare.length = 32 := by
  simp only [InteractiveAuthenticator.initiatorShare, InteractiveAuthenticator.responderShare,
    InteractiveAuthenticator.orderedFields]
  split
  · exact ⟨a.localShareBytes.property, a.peerShare.property⟩
  · exact ⟨a.peerShare.property, a.localShareBytes.property⟩

structure SameTranscript (a b : InteractiveAuthenticator P) : Prop where
  scheme : a.scheme = b.scheme
  initiatorFingerprint : a.initiatorFingerprint = b.initiatorFingerprint
  responderFingerprint : a.responderFingerprint = b.responderFingerprint
  initiatorShare : a.initiatorShare = b.initiatorShare
  responderShare : a.responderShare = b.responderShare

/-- The transcript can be read back field by field. The session ids are given to be equal; they
    are bound a second time through the Argon2id salt. -/
theorem transcript_read (d e : Derivation P) (shortD : ShortFingerprints d.party)
    (shortE : ShortFingerprints e.party) (session : d.party.material.sessionID = e.party.material.sessionID)
    (same : d.transcriptBytes = e.transcriptBytes) : SameTranscript d.party e.party := by
  simp only [Derivation.transcriptBytes, transcriptInput, lenPrefixed] at same
  obtain ⟨_, afterLabel⟩ := framed_append_of_length _ _ _ _ rfl same
  obtain ⟨scheme, afterScheme⟩ := framed_append_injective _ _ _ _ d.party.scheme.name_short
    e.party.scheme.name_short afterLabel
  obtain ⟨_, afterSession⟩ := framed_append_of_length _ _ _ _ (congrArg List.length session) afterScheme
  obtain ⟨_, afterConnect⟩ := framed_append_of_length _ _ _ _ rfl afterSession
  obtain ⟨_, afterExpose⟩ := framed_append_of_length _ _ _ _ rfl afterConnect
  obtain ⟨initiatorPrint, afterInitiator⟩ := framed_append_injective _ _ _ _ shortD.ordered.1
    shortE.ordered.1 afterExpose
  obtain ⟨responderPrint, shares⟩ := framed_append_injective _ _ _ _ shortD.ordered.2
    shortE.ordered.2 afterInitiator
  obtain ⟨initiatorShare, last⟩ := framed_append_of_length _ _ _ _
    ((shares_length d.party).1.trans (shares_length e.party).1.symm) shares
  have padded : framed d.party.responderShare ++ [] = framed e.party.responderShare ++ [] := by rw [last]
  obtain ⟨responderShare, _⟩ := framed_append_of_length _ _ _ _
    ((shares_length d.party).2.trans (shares_length e.party).2.symm) padded
  exact ⟨Scheme.name_injective _ _ scheme, initiatorPrint, responderPrint, initiatorShare, responderShare⟩

structure SameDerivation (d e : Derivation P) : Prop extends SameTranscript d.party e.party where
  secret : d.party.pairingSecret = e.party.pairingSecret
  session : d.party.material.sessionID = e.party.material.sessionID
  sessionKey : d.keyed.sessionKey = e.keyed.sessionKey

section Tags

variable {occurs : Derivation P → Prop} (free : CollisionFree P occurs) (d e : Derivation P)
  (occursD : occurs d) (occursE : occurs e)

include free occursD occursE

theorem same_derivation_of_prk (shortD : ShortFingerprints d.party) (shortE : ShortFingerprints e.party)
    (transcript : d.transcript = e.transcript) (prk : d.prk = e.prk) : SameDerivation d e := by
  have extracted : (d.transcript, d.ikm) = (e.transcript, e.ikm) :=
    free.hmac ⟨d, occursD, by simp [Derivation.authenticated]⟩
      ⟨e, occursE, by simp [Derivation.authenticated]⟩ (Subtype.ext prk)
  have lengths : d.party.pairingMix.length = e.party.pairingMix.length :=
    (P.argon2IDKey _ _ _ _ _ _).property.trans (P.argon2IDKey _ _ _ _ _ _).property.symm
  obtain ⟨_, mix⟩ := List.append_inj' (Prod.ext_iff.mp extracted).2 lengths
  have stretched : d.stretched = e.stretched :=
    free.argon2 ⟨d, occursD, rfl⟩ ⟨e, occursE, rfl⟩ (Subtype.ext mix)
  obtain ⟨secret, salt⟩ := Prod.ext_iff.mp stretched
  have salted : pairingSaltInput d.party.material.sessionID = pairingSaltInput e.party.material.sessionID :=
    free.sha256 ⟨d, occursD, by simp [Derivation.hashed]⟩ ⟨e, occursE, by simp [Derivation.hashed]⟩
      (Subtype.ext salt)
  have session := List.append_cancel_left salted
  have bytes : d.transcriptBytes = e.transcriptBytes :=
    free.sha256 ⟨d, occursD, by simp [Derivation.hashed]⟩ ⟨e, occursE, by simp [Derivation.hashed]⟩
      (Subtype.ext transcript)
  refine ⟨transcript_read d e shortD shortE session bytes, secret, session, ?_⟩
  rw [Derivation.keyed_sessionKey, Derivation.keyed_sessionKey, prk]

theorem same_derivation_of_responderConfirm (shortD : ShortFingerprints d.party)
    (shortE : ShortFingerprints e.party) (tag : d.keyed.responderConfirm = e.keyed.responderConfirm) :
    SameDerivation d e := by
  have authenticated : (d.responderKey, d.transcript) = (e.responderKey, e.transcript) :=
    free.hmac ⟨d, occursD, by simp [Derivation.authenticated]⟩
      ⟨e, occursE, by simp [Derivation.authenticated]⟩ (Subtype.ext tag)
  obtain ⟨key, transcript⟩ := Prod.ext_iff.mp authenticated
  have expanded := free.hkdf ⟨d, occursD, .inr (.inr rfl)⟩ ⟨e, occursE, .inr (.inr rfl)⟩ key
  exact same_derivation_of_prk free d e occursD occursE shortD shortE transcript (Prod.ext_iff.mp expanded).1

theorem same_derivation_of_initiatorConfirm (shortD : ShortFingerprints d.party)
    (shortE : ShortFingerprints e.party) (tag : d.keyed.initiatorConfirm = e.keyed.initiatorConfirm) :
    SameDerivation d e := by
  have authenticated : (d.initiatorKey, d.transcript) = (e.initiatorKey, e.transcript) :=
    free.hmac ⟨d, occursD, by simp [Derivation.authenticated]⟩
      ⟨e, occursE, by simp [Derivation.authenticated]⟩ (Subtype.ext tag)
  obtain ⟨key, transcript⟩ := Prod.ext_iff.mp authenticated
  have expanded := free.hkdf ⟨d, occursD, .inr (.inl rfl)⟩ ⟨e, occursE, .inr (.inl rfl)⟩ key
  exact same_derivation_of_prk free d e occursD occursE shortD shortE transcript (Prod.ext_iff.mp expanded).1

theorem initiatorConfirm_ne_responderConfirm : d.keyed.initiatorConfirm ≠ e.keyed.responderConfirm := by
  intro tag
  have authenticated : (d.initiatorKey, d.transcript) = (e.responderKey, e.transcript) :=
    free.hmac ⟨d, occursD, by simp [Derivation.authenticated]⟩
      ⟨e, occursE, by simp [Derivation.authenticated]⟩ (Subtype.ext tag)
  have expanded := free.hkdf ⟨d, occursD, .inr (.inl rfl)⟩ ⟨e, occursE, .inr (.inr rfl)⟩
    (Prod.ext_iff.mp authenticated).1
  have labels : InteractiveAuthenticator.initiatorKeyInfo = InteractiveAuthenticator.responderKeyInfo :=
    (Prod.ext_iff.mp expanded).2
  revert labels
  decide

end Tags

namespace InteractiveAuthenticator

structure DerivesOn (a : InteractiveAuthenticator P) (m : Message) (d : Derivation P) : Prop where
  set : a.bound = true
  scheme : m.scheme = a.scheme.name
  turn : (a.initiator = false ∧ a.state = .init ∧ m.kind = .hello ∧
      m.initiatorRole = PeerMode.connect.string ∧ m.responderRole = PeerMode.expose.string) ∨
    (a.initiator = true ∧ a.state = .sentHello ∧ m.kind = .accept)
  share : ∃ raw, RawURLEncoding.decodeString (trimSpace m.share) = some raw ∧ raw.length = pointLen ∧
    raw ≠ (Block.zero 32).val ∧ d.party = a.withPeerShare raw ∧ a.SharedSecret raw d.shared

def Derives (a : InteractiveAuthenticator P) (calls : List Call) (d : Derivation P) : Prop :=
  ∃ taken m rest, calls = taken ++ .step m :: rest ∧ (a.run taken).2.DerivesOn m d

/-- In the run, a `Step` call in the given role returns a message that carries the tag. -/
def Emits (a : InteractiveAuthenticator P) (calls : List Call) (initiator : Bool) (tag : Bytes) : Prop :=
  ∃ taken m rest r b, calls = taken ++ .step m :: rest ∧ (a.run taken).2.initiator = initiator ∧
    (a.run taken).2.step m = (r, b) ∧ r.hasOutbound = true ∧
    RawURLEncoding.decodeString (trimSpace r.outbound.confirmation) = some tag

/-- In the run, a `Step` call in the given role returns done without error on a message that
    carries the tag. -/
def Finishes (a : InteractiveAuthenticator P) (calls : List Call) (initiator : Bool) (tag : Bytes) : Prop :=
  ∃ taken m rest r b, calls = taken ++ .step m :: rest ∧ (a.run taken).2.initiator = initiator ∧
    (a.run taken).2.step m = (r, b) ∧ r.done = true ∧ r.err = none ∧
    RawURLEncoding.decodeString (trimSpace m.confirmation) = some tag

theorem Derives.append {a : InteractiveAuthenticator P} {calls : List Call} {d : Derivation P}
    (derives : a.Derives calls d) (rest : List Call) : a.Derives (calls ++ rest) d := by
  obtain ⟨taken, m, others, rfl, on⟩ := derives
  exact ⟨taken, m, others ++ rest, by simp, on⟩

theorem Agreed.derivation {a keyed : InteractiveAuthenticator P} {m : Message} (agreed : a.Agreed m.share keyed)
    (set : a.bound = true) (scheme : m.scheme = a.scheme.name)
    (turn : (a.initiator = false ∧ a.state = .init ∧ m.kind = .hello ∧
      m.initiatorRole = PeerMode.connect.string ∧ m.responderRole = PeerMode.expose.string) ∨
      (a.initiator = true ∧ a.state = .sentHello ∧ m.kind = .accept)) :
    ∃ d, a.DerivesOn m d ∧ d.keyed = keyed := by
  obtain ⟨raw, shared, decoded, length, nonzero, secret, rfl⟩ := agreed
  exact ⟨⟨a.withPeerShare raw, shared⟩, ⟨set, scheme, turn, raw, decoded, length, nonzero, rfl, secret⟩, rfl⟩

theorem run_late (a : InteractiveAuthenticator P) (calls : List Call)
    (late : a.state = .sentAccept ∨ a.Ended) : (a.run calls).2 = { a with state := (a.run calls).2.state } := by
  have invariant : ((a.run calls).2.state = .sentAccept ∨ (a.run calls).2.Ended) ∧
      (a.run calls).2 = { a with state := (a.run calls).2.state } := by
    refine run_invariant (fun b => (b.state = .sentAccept ∨ b.Ended) ∧ b = { a with state := b.state })
      ?_ a calls ⟨late, rfl⟩
    rintro b c ⟨lateB, same⟩
    rcases lateB with waiting | ended
    · have started : b.state ≠ .init := by rw [waiting]; nofun
      cases c with
      | bind material =>
        simp only [call, (bind_kept b material).2.2.2.2 started]
        exact ⟨.inl waiting, same⟩
      | start =>
        obtain ⟨e, refused, _⟩ | ⟨_, _, fresh, _⟩ := start_spec b
        · simp only [call, refused]
          exact ⟨.inl waiting, same⟩
        · exact absurd fresh started
      | step m =>
        simp only [call]
        rcases called : b.step m with ⟨r, next⟩
        cases step_spec b next m r called with
        | unbound => exact ⟨.inl waiting, same⟩
        | terminal => exact ⟨.inl waiting, same⟩
        | rejected e next _ _ _ failed frozen =>
          refine ⟨.inr (.inr failed), ?_⟩
          rw [frozen waiting, same]
          rfl
        | accepted keyed _ _ fresh => exact absurd fresh started
        | confirmed =>
          refine ⟨.inr (.inl rfl), ?_⟩
          rw [same]
        | completed keyed _ _ other => rw [waiting] at other; cases other
    · rw [(call_ended b c ended).1]
      exact ⟨.inr ended, same⟩
  exact invariant.2

theorem run_derived (a : InteractiveAuthenticator P) (fresh : a.state = .init) (calls : List Call)
    (late : (a.run calls).2.state = .sentAccept ∨ (a.run calls).2.state = .succeeded) :
    ∃ d, a.Derives calls d ∧ (a.run calls).2 = { d.keyed with state := (a.run calls).2.state } := by
  induction calls using List.reverseRecOn with
  | nil =>
    rw [run, fresh] at late
    rcases late with late | late <;> cases late
  | append_singleton calls c ih =>
    have last : (a.run (calls ++ [c])).2 = ((a.run calls).2.call c).2 := by rw [run_append]; rfl
    rw [last] at late ⊢
    -- a call that writes nothing keeps the derivation
    have unchanged : ((a.run calls).2.call c).2 = (a.run calls).2 → ∃ d, a.Derives (calls ++ [c]) d ∧
        ((a.run calls).2.call c).2 = { d.keyed with state := ((a.run calls).2.call c).2.state } := by
      intro same
      rw [same] at late ⊢
      obtain ⟨d, derives, keyed⟩ := ih late
      exact ⟨d, derives.append [c], keyed⟩
    cases c with
    | bind material =>
      by_cases started : (a.run calls).2.state = .init
      · simp only [call, (bind_kept _ material).1, started] at late
        rcases late with late | late <;> cases late
      · exact unchanged ((bind_kept _ material).2.2.2.2 started)
    | start =>
      obtain ⟨e, refused, _⟩ | ⟨_, _, _, started⟩ := start_spec (a.run calls).2
      · exact unchanged (by simp only [call, refused])
      · simp only [call, started] at late
        rcases late with late | late <;> cases late
    | step m =>
      rcases called : (a.run calls).2.step m with ⟨r, b⟩
      have next : ((a.run calls).2.call (.step m)).2 = b := by simp only [call, called]
      have on : ∀ d, (a.run calls).2.DerivesOn m d → a.Derives (calls ++ [.step m]) d :=
        fun d derives => ⟨calls, m, [], rfl, derives⟩
      rw [next] at late unchanged ⊢
      cases step_spec _ b m r called with
      | unbound => exact unchanged rfl
      | terminal => exact unchanged rfl
      | rejected e b _ _ _ failed =>
        rw [failed] at late
        rcases late with late | late <;> cases late
      | accepted keyed set role init hello =>
        obtain ⟨d, derives, rfl⟩ := hello.agreed.derivation set hello.scheme
          (.inl ⟨role, init, hello.kind, hello.initiatorRole, hello.responderRole⟩)
        exact ⟨d, on d derives, rfl⟩
      | confirmed _ _ waiting =>
        obtain ⟨d, derives, keyed⟩ := ih (.inl waiting)
        exact ⟨d, derives.append _, by rw [keyed]⟩
      | completed keyed set role waiting accept =>
        obtain ⟨d, derives, rfl⟩ := accept.agreed.derivation set accept.scheme (.inr ⟨role, waiting, accept.kind⟩)
        exact ⟨d, on d derives, rfl⟩

theorem run_after (a : InteractiveAuthenticator P) (taken rest : List Call) (m : Message) (r : StepResult)
    (b : InteractiveAuthenticator P) (called : (a.run taken).2.step m = (r, b)) :
    (a.run (taken ++ .step m :: rest)).2 = (b.run rest).2 := by
  rw [run_append]
  simp only [run, call, called]

theorem emits_derivation (a : InteractiveAuthenticator P) (calls : List Call) (role : Bool) (tag : Bytes)
    (emits : a.Emits calls role tag) :
    ∃ d, a.Derives calls d ∧ d.party.initiator = role ∧
      (a.run calls).2 = { d.keyed with state := (a.run calls).2.state } ∧
      (role = false → tag = d.keyed.responderConfirm) ∧
      (role = true → tag = d.keyed.initiatorConfirm ∧ (a.run calls).2.state = .succeeded) := by
  obtain ⟨taken, m, rest, r, b, rfl, turn, called, out, carried⟩ := emits
  rw [run_after a taken rest m r b called]
  have on : ∀ d, (a.run taken).2.DerivesOn m d → a.Derives (taken ++ .step m :: rest) d :=
    fun d derives => ⟨taken, m, rest, rfl, derives⟩
  cases step_spec _ b m r called with
  | unbound => cases out
  | terminal => cases out
  | rejected => cases out
  | confirmed => cases out
  | accepted keyed set responder init hello =>
    obtain ⟨d, derives, rfl⟩ := hello.agreed.derivation set hello.scheme
      (.inl ⟨responder, init, hello.kind, hello.initiatorRole, hello.responderRole⟩)
    have party : d.party.initiator = role := by
      obtain ⟨raw, _, _, _, same, _⟩ := derives.share
      rw [same]
      exact turn
    simp only [acceptMessage, RawURLEncoding.trimSpace_encodeToString,
      RawURLEncoding.decodeString_encodeToString, Option.some.injEq] at carried
    refine ⟨d, on d derives, party, run_late _ rest (.inl rfl), fun _ => carried.symm, ?_⟩
    intro initiator
    rw [responder, initiator] at turn
    cases turn
  | completed keyed set initiator waiting accept =>
    obtain ⟨d, derives, rfl⟩ := accept.agreed.derivation set accept.scheme (.inr ⟨initiator, waiting, accept.kind⟩)
    have party : d.party.initiator = role := by
      obtain ⟨raw, _, _, _, same, _⟩ := derives.share
      rw [same]
      exact turn
    simp only [confirmMessage, RawURLEncoding.trimSpace_encodeToString,
      RawURLEncoding.decodeString_encodeToString, Option.some.injEq] at carried
    rw [run_ended _ rest (.inl rfl)]
    refine ⟨d, on d derives, party, rfl, ?_, fun _ => ⟨carried.symm, rfl⟩⟩
    intro responder
    rw [initiator, responder] at turn
    cases turn

theorem finishes_derivation (a : InteractiveAuthenticator P) (fresh : a.state = .init) (calls : List Call)
    (role : Bool) (tag : Bytes) (finishes : a.Finishes calls role tag) :
    ∃ d, a.Derives calls d ∧ d.party.initiator = role ∧
      (a.run calls).2 = { d.keyed with state := .succeeded } ∧
      (role = false → tag = d.keyed.initiatorConfirm) ∧
      (role = true → tag = d.keyed.responderConfirm) := by
  obtain ⟨taken, m, rest, r, b, rfl, turn, called, done, _, carried⟩ := finishes
  rw [run_after a taken rest m r b called]
  cases step_spec _ b m r called with
  | unbound => cases done
  | terminal => cases done
  | rejected => cases done
  | accepted => cases done
  | confirmed set responder waiting confirm =>
    obtain ⟨d, derives, keyed⟩ := run_derived a fresh taken (.inl waiting)
    have tags : (a.run taken).2.initiatorConfirm = d.keyed.initiatorConfirm := by rw [keyed]
    have party : d.party.initiator = role := by
      rw [← turn, keyed]
      rfl
    rw [run_ended _ rest (.inl rfl)]
    refine ⟨d, derives.append _, party, by rw [keyed], ?_, ?_⟩
    · intro _
      rw [confirm.tag, tags] at carried
      exact (Option.some.inj carried).symm
    · intro initiator
      rw [responder, initiator] at turn
      cases turn
  | completed keyed set initiator waiting accept =>
    obtain ⟨d, derives, rfl⟩ := accept.agreed.derivation set accept.scheme (.inr ⟨initiator, waiting, accept.kind⟩)
    have party : d.party.initiator = role := by
      obtain ⟨raw, _, _, _, same, _⟩ := derives.share
      rw [same]
      exact turn
    rw [run_ended _ rest (.inl rfl)]
    refine ⟨d, ⟨taken, m, rest, rfl, derives⟩, party, rfl, ?_, ?_⟩
    · intro responder
      rw [initiator, responder] at turn
      cases turn
    · intro _
      rw [accept.tag] at carried
      exact (Option.some.inj carried).symm

structure Agreement (I R : InteractiveAuthenticator P) : Prop where
  scheme : I.scheme = R.scheme
  secret : I.pairingSecret = R.pairingSecret
  session : I.material.sessionID = R.material.sessionID
  initiatorFingerprint : I.material.localFingerprint = R.material.remoteFingerprint
  responderFingerprint : I.material.remoteFingerprint = R.material.localFingerprint
  initiatorShare : I.localShareBytes = R.peerShare
  responderShare : I.peerShare = R.localShareBytes
  sessionKey : I.sessionKey = R.sessionKey

theorem agreement_of_same_derivation (d e : Derivation P) (same : SameDerivation d e)
    (initiator : d.party.initiator = true) (responder : e.party.initiator = false)
    (I R : InteractiveAuthenticator P) (stateI stateR : AuthState)
    (keyedI : I = { d.keyed with state := stateI }) (keyedR : R = { e.keyed with state := stateR }) :
    Agreement I R := by
  obtain ⟨⟨scheme, printI, printR, shareI, shareR⟩, secret, session, key⟩ := same
  simp only [initiatorFingerprint, responderFingerprint, initiatorShare, responderShare, orderedFields,
    initiator, responder, if_true, Bool.false_eq_true, if_false] at printI printR shareI shareR
  rw [keyedI, keyedR]
  exact ⟨scheme, secret, session, printI, printR, Subtype.ext shareI, Subtype.ext shareR, key⟩

/-- Agreement under an active adversary. The two authenticators share nothing to begin with, and
    every message given to either is arbitrary. A tag that one role emitted and the other role
    accepted means that both hold the same secret, session, fingerprints, shares and key; a tag is
    never accepted by the role that emits it. -/
theorem handshake_agreement (secretI secretR schemeI schemeR : Bytes) (rngI rngR : P.Reader)
    (I R : InteractiveAuthenticator P) (createdI : newInteractiveAuthenticator secretI schemeI rngI = .ok I)
    (createdR : newInteractiveAuthenticator secretR schemeR rngR = .ok R) (callsI callsR : List Call)
    (free : CollisionFree P fun d => I.Derives callsI d ∨ R.Derives callsR d)
    (short : ∀ d, I.Derives callsI d ∨ R.Derives callsR d → ShortFingerprints d.party) (tag : Bytes) :
    (R.Emits callsR false tag → I.Finishes callsI true tag →
      trimSpace secretI = trimSpace secretR ∧ Agreement (I.run callsI).2 (R.run callsR).2) ∧
    (I.Emits callsI true tag → R.Finishes callsR false tag →
      trimSpace secretI = trimSpace secretR ∧ Agreement (I.run callsI).2 (R.run callsR).2 ∧
        (I.run callsI).2.state = .succeeded) ∧
    (∀ role, R.Emits callsR role tag → ¬ I.Finishes callsI role tag) := by
  obtain ⟨trimmedI, _, freshI, _, _, _⟩ := newInteractiveAuthenticator_fresh _ _ _ _ createdI
  obtain ⟨trimmedR, _, freshR, _, _, _⟩ := newInteractiveAuthenticator_fresh _ _ _ _ createdR
  have secrets : Agreement (I.run callsI).2 (R.run callsR).2 → trimSpace secretI = trimSpace secretR := by
    intro agreement
    rw [← trimmedI, ← trimmedR, ← run_keeps_secret I callsI, ← run_keeps_secret R callsR]
    exact agreement.secret
  refine ⟨?_, ?_, ?_⟩
  · intro emits finishes
    obtain ⟨e, derivesR, responder, keyedR, sent, _⟩ := emits_derivation R callsR false tag emits
    obtain ⟨d, derivesI, initiator, keyedI, _, received⟩ := finishes_derivation I freshI callsI true tag finishes
    have same := same_derivation_of_responderConfirm free d e (.inl derivesI) (.inr derivesR)
      (short d (.inl derivesI)) (short e (.inr derivesR)) ((received rfl).symm.trans (sent rfl))
    have agreement := agreement_of_same_derivation d e same initiator responder _ _ _ _ keyedI keyedR
    exact ⟨secrets agreement, agreement⟩
  · intro emits finishes
    obtain ⟨d, derivesI, initiator, keyedI, _, sent⟩ := emits_derivation I callsI true tag emits
    obtain ⟨e, derivesR, responder, keyedR, received, _⟩ := finishes_derivation R freshR callsR false tag finishes
    have same := same_derivation_of_initiatorConfirm free d e (.inl derivesI) (.inr derivesR)
      (short d (.inl derivesI)) (short e (.inr derivesR)) ((sent rfl).1.symm.trans (received rfl))
    have agreement := agreement_of_same_derivation d e same initiator responder _ _ _ _ keyedI keyedR
    exact ⟨secrets agreement, agreement, (sent rfl).2⟩
  · intro role emits finishes
    obtain ⟨e, derivesR, _, _, sentFalse, sentTrue⟩ := emits_derivation R callsR role tag emits
    obtain ⟨d, derivesI, _, _, receivedFalse, receivedTrue⟩ := finishes_derivation I freshI callsI role tag finishes
    cases role with
    | false =>
      exact initiatorConfirm_ne_responderConfirm free d e (.inl derivesI) (.inr derivesR)
        ((receivedFalse rfl).symm.trans (sentFalse rfl))
    | true =>
      exact initiatorConfirm_ne_responderConfirm free e d (.inr derivesR) (.inl derivesI)
        ((sentTrue rfl).1.symm.trans (receivedTrue rfl))

section Vectors

def vectorHello : Message :=
  { scheme := Scheme.transitionalV2.name, kind := .hello
    initiatorRole := PeerMode.connect.string, responderRole := PeerMode.expose.string
    share := RawURLEncoding.encodeToString initiatorPublic.val, confirmation := [] }

def vectorAccept : Message :=
  { scheme := Scheme.transitionalV2.name, kind := .accept, initiatorRole := [], responderRole := []
    share := RawURLEncoding.encodeToString responderPublic.val
    confirmation := RawURLEncoding.encodeToString vectorResponderTag.val }

def vectorRunI : List Call := [.bind vectorMaterialI, .start, .step vectorAccept]
def vectorRunR : List Call := [.bind vectorMaterialR, .step vectorHello]

structure VectorDerivation (d : Derivation vectors) : Prop where
  transcriptBytes : d.transcriptBytes = vectorTranscriptInput
  session : d.party.material.sessionID = vectorSession
  secret : d.party.pairingSecret = vectorSecret
  shared : d.shared = vectorShared.val
  short : ShortFingerprints d.party

theorem only_step (before taken rest : List Call) (m m' : Message) (silent : stepInputs before = [])
    (split : before ++ [.step m] = taken ++ .step m' :: rest) : taken = before ∧ m' = m := by
  induction before generalizing taken with
  | nil =>
    cases taken with
    | nil =>
      simp only [List.nil_append, List.cons.injEq, Call.step.injEq] at split
      exact ⟨rfl, split.1.symm⟩
    | cons c taken => simp at split
  | cons c before ih =>
    cases taken with
    | nil =>
      simp only [List.cons_append, List.nil_append, List.cons.injEq] at split
      rw [split.1] at silent
      cases silent
    | cons c' taken =>
      simp only [List.cons_append, List.cons.injEq] at split
      have others : stepInputs before = [] := by
        cases c with
        | step => cases silent
        | bind => exact silent
        | start => exact silent
      obtain ⟨rfl, same⟩ := ih taken others split.2
      exact ⟨by rw [split.1], same⟩

theorem vector_derivation (rng : Block 32) (before : List Call) (m : Message) (point : Block 32)
    (silent : stepInputs before = []) (encoded : m.share = RawURLEncoding.encodeToString point.val)
    (d : Derivation vectors) (derives : (vectorFresh rng.val).Derives (before ++ [.step m]) d) :
    d.party = ((vectorFresh rng.val).run before).2.withPeerShare point.val ∧
      ((vectorFresh rng.val).run before).2.SharedSecret point.val d.shared := by
  obtain ⟨taken, m', rest, split, on⟩ := derives
  obtain ⟨rfl, rfl⟩ := only_step _ _ _ _ _ silent split
  obtain ⟨raw, decoded, _, _, party, secret⟩ := on.share
  rw [encoded, RawURLEncoding.trimSpace_encodeToString, RawURLEncoding.decodeString_encodeToString] at decoded
  cases decoded
  exact ⟨party, secret⟩

theorem vectorRunI_derives (d : Derivation vectors)
    (derives : (vectorFresh initiatorKey.val).Derives vectorRunI d) : VectorDerivation d := by
  obtain ⟨party, secret⟩ := vector_derivation initiatorKey [.bind vectorMaterialI, .start] vectorAccept
    responderPublic rfl rfl d derives
  obtain ⟨_, shared⟩ := d
  subst party
  have derived : some shared = some vectorShared.val := secret.1.symm.trans (by decide +kernel)
  obtain rfl := Option.some.inj derived
  exact ⟨by decide +kernel, by decide +kernel, by decide +kernel, rfl, by decide +kernel⟩

theorem vectorRunR_derives (d : Derivation vectors)
    (derives : (vectorFresh responderKey.val).Derives vectorRunR d) : VectorDerivation d := by
  obtain ⟨party, secret⟩ := vector_derivation responderKey [.bind vectorMaterialR] vectorHello
    initiatorPublic rfl rfl d derives
  obtain ⟨_, shared⟩ := d
  subst party
  have derived : some shared = some vectorShared.val := secret.1.symm.trans (by decide +kernel)
  obtain rfl := Option.some.inj derived
  exact ⟨by decide +kernel, by decide +kernel, by decide +kernel, rfl, by decide +kernel⟩

theorem VectorDerivation.values {d : Derivation vectors} (v : VectorDerivation d) :
    d.transcript = vectorTranscript.val ∧ d.ikm = vectorShared.val ++ vectorMix.val ∧
      d.prk = vectorPRK.val ∧ d.initiatorKey = vectorInitiatorKey.val ∧
      d.responderKey = vectorResponderKey.val := by
  have transcript : d.transcript = vectorTranscript.val := by
    rw [Derivation.transcript, v.transcriptBytes]
    decide +kernel
  have ikm : d.ikm = vectorShared.val ++ vectorMix.val := by
    rw [Derivation.ikm, v.shared, pairingMix, v.secret, v.session]
    decide +kernel
  have prk : d.prk = vectorPRK.val := by
    rw [Derivation.prk, transcript, ikm]
    decide +kernel
  refine ⟨transcript, ikm, prk, ?_, ?_⟩
  · rw [Derivation.initiatorKey, prk]
    decide +kernel
  · rw [Derivation.responderKey, prk]
    decide +kernel

theorem vectors_collisionFree (occurs : Derivation vectors → Prop)
    (only : ∀ d, occurs d → VectorDerivation d) : CollisionFree vectors occurs where
  sha256 := by
    rintro x ⟨d, occursD, inD⟩ y ⟨e, occursE, inE⟩
    have vD := only d occursD
    have vE := only e occursE
    simp only [Derivation.hashed, vD.transcriptBytes, vD.session, Set.mem_insert_iff,
      Set.mem_singleton_iff] at inD
    simp only [Derivation.hashed, vE.transcriptBytes, vE.session, Set.mem_insert_iff,
      Set.mem_singleton_iff] at inE
    rcases inD with rfl | rfl <;> rcases inE with rfl | rfl <;> decide +kernel
  hmac := by
    rintro x ⟨d, occursD, inD⟩ y ⟨e, occursE, inE⟩
    obtain ⟨t, i, _, k, r⟩ := (only d occursD).values
    obtain ⟨t', i', _, k', r'⟩ := (only e occursE).values
    simp only [Derivation.authenticated, t, i, k, r, Set.mem_insert_iff, Set.mem_singleton_iff] at inD
    simp only [Derivation.authenticated, t', i', k', r', Set.mem_insert_iff, Set.mem_singleton_iff] at inE
    rcases inD with rfl | rfl | rfl <;> rcases inE with rfl | rfl | rfl <;> decide +kernel
  hkdf := by
    rintro x ⟨d, occursD, inD⟩ y ⟨e, occursE, inE⟩
    obtain ⟨_, _, p, _, _⟩ := (only d occursD).values
    obtain ⟨_, _, p', _, _⟩ := (only e occursE).values
    simp only [Derivation.expanded, p, Set.mem_insert_iff, Set.mem_singleton_iff] at inD
    simp only [Derivation.expanded, p', Set.mem_insert_iff, Set.mem_singleton_iff] at inE
    rcases inD with rfl | rfl | rfl <;> rcases inE with rfl | rfl | rfl <;> decide +kernel
  argon2 := by
    rintro x ⟨d, occursD, rfl⟩ y ⟨e, occursE, rfl⟩ _
    simp only [Derivation.stretched, (only d occursD).secret, (only d occursD).session,
      (only e occursE).secret, (only e occursE).session]

theorem handshake_agreement_vectors :
    (vectorFresh responderKey.val).Emits vectorRunR false vectorResponderTag.val ∧
    (vectorFresh initiatorKey.val).Finishes vectorRunI true vectorResponderTag.val ∧
    Agreement ((vectorFresh initiatorKey.val).run vectorRunI).2 ((vectorFresh responderKey.val).run vectorRunR).2 := by
  have emits : (vectorFresh responderKey.val).Emits vectorRunR false vectorResponderTag.val :=
    ⟨[.bind vectorMaterialR], vectorHello, [], _, _, rfl, by decide +kernel, Prod.mk.eta.symm,
      by decide +kernel, by decide +kernel⟩
  have finishes : (vectorFresh initiatorKey.val).Finishes vectorRunI true vectorResponderTag.val :=
    ⟨[.bind vectorMaterialI, .start], vectorAccept, [], _, _, rfl, by decide +kernel, Prod.mk.eta.symm,
      by decide +kernel, by decide +kernel, by decide +kernel⟩
  have only : ∀ d, (vectorFresh initiatorKey.val).Derives vectorRunI d ∨
      (vectorFresh responderKey.val).Derives vectorRunR d → VectorDerivation d := by
    rintro d (derives | derives)
    · exact vectorRunI_derives d derives
    · exact vectorRunR_derives d derives
  have created : ∀ rng : Block 32, newInteractiveAuthenticator vectorSecret Scheme.transitionalV2.name rng.val =
      .ok (vectorFresh rng.val) := fun _ => rfl
  obtain ⟨agreement, _, _⟩ := handshake_agreement vectorSecret vectorSecret Scheme.transitionalV2.name
    Scheme.transitionalV2.name initiatorKey.val responderKey.val (vectorFresh initiatorKey.val)
    (vectorFresh responderKey.val) (created initiatorKey) (created responderKey) vectorRunI vectorRunR
    (vectors_collisionFree _ only) (fun d occurs => (only d occurs).short) vectorResponderTag.val
  exact ⟨emits, finishes, (agreement emits finishes).2⟩

end Vectors

end InteractiveAuthenticator

end Rtc2Tcp.Auth

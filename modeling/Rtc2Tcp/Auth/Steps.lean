import Rtc2Tcp.Auth.Authenticator

namespace Rtc2Tcp.Auth.InteractiveAuthenticator

open Octets Go

variable {P : Primitives}

/-- The secret the scheme derives from a received share, spelled out: a decodable
    non-identity point with a non-identity product, or a non-zero X25519 result. -/
def SharedSecret (a : InteractiveAuthenticator P) (raw shared : Bytes) : Prop :=
  match a.scheme with
  | .cpaceV2 => ∃ point scalar, P.unmarshalBinary raw = some point ∧ P.isIdentity point = false ∧
      a.cpaceScalar = some scalar ∧ P.isIdentity (P.mul point scalar) = false ∧
      P.marshalBinary (P.mul point scalar) = some shared
  | .transitionalV2 => P.x25519 a.priv (a.peerShare.copy raw) = some shared ∧ shared ≠ (Block.zero 32).val

theorem derivePakeShared_ok (a : InteractiveAuthenticator P) (raw shared : Bytes)
    (length : raw.length = pointLen) :
    (a.withPeerShare raw).derivePakeShared = .ok shared ↔ a.SharedSecret raw shared := by
  have copied : (a.peerShare.copy raw).val = raw := Block.copy_full _ _ length
  cases scheme : a.scheme with
  | cpaceV2 =>
    simp only [derivePakeShared, withPeerShare, scheme, derivePakeSharedCPACE, SharedSecret, copied]
    constructor
    · intro derived
      split at derived
      · cases derived
      · rename_i point decoded
        split at derived
        · cases derived
        · rename_i nonIdentity
          split at derived
          · cases derived
          · rename_i scalar drawn
            split at derived
            · cases derived
            · rename_i product
              split at derived
              · cases derived
              · rename_i out marshalled
                cases derived
                exact ⟨point, scalar, decoded, by simpa using nonIdentity, drawn,
                  by simpa using product, marshalled⟩
    · rintro ⟨point, scalar, decoded, nonIdentity, drawn, product, marshalled⟩
      simp [decoded, nonIdentity, drawn, product, marshalled]
  | transitionalV2 =>
    simp only [derivePakeShared, withPeerShare, scheme, derivePakeSharedECDH, SharedSecret]
    cases result : P.x25519 a.priv (a.peerShare.copy raw) with
    | none => simp
    | some value =>
      simp only [Option.some.injEq]
      by_cases zero : value = (Block.zero 32).val
      · simp only [if_pos zero, reduceCtorEq, false_iff, not_and, not_not]
        intro same
        exact same ▸ zero
      · simp only [if_neg zero, Except.ok.injEq]
        constructor
        · intro same
          exact ⟨same, same ▸ zero⟩
        · exact fun both => both.1

/-- A received share is accepted: it decodes to 32 bytes, is not all zero and yields a shared
    secret; `keyed` is the authenticator with the share and the keys stored. -/
def Agreed (a : InteractiveAuthenticator P) (encoded : Bytes) (keyed : InteractiveAuthenticator P) : Prop :=
  ∃ raw shared, RawURLEncoding.decodeString (trimSpace encoded) = some raw ∧ raw.length = pointLen ∧
    raw ≠ (Block.zero 32).val ∧ a.SharedSecret raw shared ∧ keyed = (a.withPeerShare raw).withKeys shared

theorem consumePeerShare_cases (a : InteractiveAuthenticator P) (encoded : Bytes) :
    a.consumePeerShare encoded = (.error .invalidShare, a) ∨
    ∃ raw, RawURLEncoding.decodeString (trimSpace encoded) = some raw ∧ raw.length = pointLen ∧
      raw ≠ (Block.zero 32).val ∧ a.consumePeerShare encoded = (.ok (), a.withPeerShare raw) := by
  unfold consumePeerShare
  split
  · left; rfl
  · rename_i raw decoded
    split
    · left; rfl
    · rename_i length
      split
      · left; rfl
      · rename_i nonzero
        right
        exact ⟨raw, decoded, by simpa using length, nonzero, rfl⟩

theorem computeTranscriptAndKeys_cases (a : InteractiveAuthenticator P) (raw : Bytes) :
    (∃ e, (a.withPeerShare raw).computeTranscriptAndKeys = (.error e, a.withPeerShare raw)) ∨
    ∃ shared, (a.withPeerShare raw).derivePakeShared = .ok shared ∧
      (a.withPeerShare raw).computeTranscriptAndKeys = (.ok (), (a.withPeerShare raw).withKeys shared) := by
  have share : (a.withPeerShare raw).havePeerShare = true := rfl
  unfold computeTranscriptAndKeys
  simp only [share, Bool.not_true, Bool.false_eq_true, if_false]
  cases derived : (a.withPeerShare raw).derivePakeShared with
  | error e => left; exact ⟨e, rfl⟩
  | ok shared => right; exact ⟨shared, rfl, rfl⟩

theorem verifyConfirmation_ok (encoded expected : Bytes) :
    verifyConfirmation encoded expected = .ok () ↔
      RawURLEncoding.decodeString (trimSpace encoded) = some expected ∧ expected.length = macLen := by
  unfold verifyConfirmation
  cases decoded : RawURLEncoding.decodeString (trimSpace encoded) with
  | none => simp
  | some raw =>
    simp only [Option.some.injEq]
    by_cases same : raw = expected
    · subst same
      by_cases length : raw.length = macLen <;> simp [length]
    · by_cases length : raw.length = macLen <;> simp [length, same]

theorem verifyConfirmation_cases (encoded expected : Bytes) :
    verifyConfirmation encoded expected = .ok () ∨
      verifyConfirmation encoded expected = .error .confirmationMismatch := by
  unfold verifyConfirmation
  split
  · right; rfl
  · split
    · right; rfl
    · split
      · right; rfl
      · left; rfl

/-- A hello the responder takes: the pinned scheme, both roles and a good share. -/
structure AcceptsHello (a : InteractiveAuthenticator P) (m : Message) (keyed : InteractiveAuthenticator P) :
    Prop where
  scheme : m.scheme = a.scheme.name
  kind : m.kind = .hello
  initiatorRole : m.initiatorRole = PeerMode.connect.string
  responderRole : m.responderRole = PeerMode.expose.string
  agreed : a.Agreed m.share keyed

structure AcceptsConfirm (a : InteractiveAuthenticator P) (m : Message) : Prop where
  scheme : m.scheme = a.scheme.name
  kind : m.kind = .confirm
  tag : RawURLEncoding.decodeString (trimSpace m.confirmation) = some a.initiatorConfirm
  length : a.initiatorConfirm.length = macLen

structure AcceptsAccept (a : InteractiveAuthenticator P) (m : Message) (keyed : InteractiveAuthenticator P) :
    Prop where
  scheme : m.scheme = a.scheme.name
  kind : m.kind = .accept
  agreed : a.Agreed m.share keyed
  tag : RawURLEncoding.decodeString (trimSpace m.confirmation) = some keyed.responderConfirm

structure Kept (a b : InteractiveAuthenticator P) : Prop where
  pairingSecret : b.pairingSecret = a.pairingSecret
  scheme : b.scheme = a.scheme
  bound : b.bound = a.bound
  initiator : b.initiator = a.initiator
  material : b.material = a.material
  localShare : b.localShareBytes = a.localShareBytes

/-- Everything a `Step` call can do. -/
inductive Stepped (a : InteractiveAuthenticator P) (m : Message) :
    StepResult → InteractiveAuthenticator P → Prop
  | unbound (unset : a.bound = false) : Stepped a m (.failure .unbound) a
  | terminal (set : a.bound = true) (ended : a.state = .succeeded ∨ a.state = .failed) :
      Stepped a m (.failure .stateOutOfOrder) a
  | rejected (e : AuthError) (b : InteractiveAuthenticator P) (set : a.bound = true)
      (running : ¬ (a.state = .succeeded ∨ a.state = .failed)) (kept : Kept a b)
      (failed : b.state = .failed) (frozen : a.state = .sentAccept → b = a.fail) :
      Stepped a m (.failure e) b
  | accepted (keyed : InteractiveAuthenticator P) (set : a.bound = true) (role : a.initiator = false)
      (fresh : a.state = .init) (hello : a.AcceptsHello m keyed) :
      Stepped a m ⟨keyed.acceptMessage, true, false, none⟩ { keyed with state := .sentAccept }
  | confirmed (set : a.bound = true) (role : a.initiator = false) (waiting : a.state = .sentAccept)
      (confirm : a.AcceptsConfirm m) : Stepped a m ⟨.empty, false, true, none⟩ { a with state := .succeeded }
  | completed (keyed : InteractiveAuthenticator P) (set : a.bound = true) (role : a.initiator = true)
      (waiting : a.state = .sentHello) (accept : a.AcceptsAccept m keyed) :
      Stepped a m ⟨keyed.confirmMessage, true, true, none⟩ { keyed with state := .succeeded }

theorem Kept.fail (a : InteractiveAuthenticator P) : Kept a a.fail := ⟨rfl, rfl, rfl, rfl, rfl, rfl⟩

theorem Kept.failShare (a : InteractiveAuthenticator P) (raw : Bytes) : Kept a (a.withPeerShare raw).fail :=
  ⟨rfl, rfl, rfl, rfl, rfl, rfl⟩

theorem Kept.failKeys (a : InteractiveAuthenticator P) (raw shared : Bytes) :
    Kept a ((a.withPeerShare raw).withKeys shared).fail := ⟨rfl, rfl, rfl, rfl, rfl, rfl⟩

theorem stepResponder_spec (a : InteractiveAuthenticator P) (m : Message) (set : a.bound = true)
    (running : ¬ (a.state = .succeeded ∨ a.state = .failed)) (scheme : m.scheme = a.scheme.name)
    (role : a.initiator = false) : Stepped a m (a.stepResponder m).1 (a.stepResponder m).2 := by
  have reject : ∀ e, Stepped a m (.failure e) a.fail := fun e =>
    .rejected e _ set running (.fail a) rfl fun _ => rfl
  unfold stepResponder
  split
  · rename_i fresh
    have early : ∀ e b, Kept a b → b.state = .failed → Stepped a m (.failure e) b := fun e b kept failed =>
      .rejected e b set running kept failed fun waiting => by rw [fresh] at waiting; cases waiting
    split
    · exact reject _
    · rename_i kind
      split
      · exact reject _
      · rename_i roles
        simp only [ne_eq, not_or, not_not] at roles kind
        obtain consumed | ⟨raw, decoded, length, nonzero, consumed⟩ := consumePeerShare_cases a m.share
        · simp only [consumed]
          exact reject _
        · simp only [consumed]
          obtain ⟨e, computed⟩ | ⟨shared, derived, computed⟩ := computeTranscriptAndKeys_cases a raw
          · simp only [computed]
            exact early e _ (.failShare a raw) rfl
          · simp only [computed]
            exact .accepted _ set role fresh ⟨scheme, kind, roles.1, roles.2,
              ⟨raw, shared, decoded, length, nonzero, (derivePakeShared_ok a raw shared length).mp derived, rfl⟩⟩
  · rename_i waiting
    split
    · exact reject _
    · rename_i kind
      simp only [ne_eq, not_not] at kind
      rcases verifyConfirmation_cases m.confirmation a.initiatorConfirm with verified | mismatch
      · simp only [verified]
        obtain ⟨tag, length⟩ := (verifyConfirmation_ok _ _).mp verified
        exact .confirmed set role waiting ⟨scheme, kind, tag, length⟩
      · simp only [mismatch]
        exact reject _
  · exact reject _

theorem stepInitiator_spec (a : InteractiveAuthenticator P) (m : Message) (set : a.bound = true)
    (running : ¬ (a.state = .succeeded ∨ a.state = .failed)) (scheme : m.scheme = a.scheme.name)
    (role : a.initiator = true) : Stepped a m (a.stepInitiator m).1 (a.stepInitiator m).2 := by
  have reject : ∀ e, Stepped a m (.failure e) a.fail := fun e =>
    .rejected e _ set running (.fail a) rfl fun _ => rfl
  unfold stepInitiator
  split
  · exact reject _
  · rename_i waiting
    simp only [ne_eq, not_not] at waiting
    have late : ∀ e b, Kept a b → b.state = .failed → Stepped a m (.failure e) b := fun e b kept failed =>
      .rejected e b set running kept failed fun other => by rw [waiting] at other; cases other
    split
    · exact reject _
    · rename_i kind
      simp only [ne_eq, not_not] at kind
      obtain consumed | ⟨raw, decoded, length, nonzero, consumed⟩ := consumePeerShare_cases a m.share
      · simp only [consumed]
        exact reject _
      · simp only [consumed]
        obtain ⟨e, computed⟩ | ⟨shared, derived, computed⟩ := computeTranscriptAndKeys_cases a raw
        · simp only [computed]
          exact late e _ (.failShare a raw) rfl
        · simp only [computed]
          rcases verifyConfirmation_cases m.confirmation
            ((a.withPeerShare raw).withKeys shared).responderConfirm with verified | mismatch
          · simp only [verified]
            exact .completed _ set role waiting ⟨scheme, kind,
              ⟨raw, shared, decoded, length, nonzero, (derivePakeShared_ok a raw shared length).mp derived, rfl⟩,
              ((verifyConfirmation_ok _ _).mp verified).1⟩
          · simp only [mismatch]
            exact late _ _ (.failKeys a raw shared) rfl

theorem step_spec (a b : InteractiveAuthenticator P) (m : Message) (r : StepResult)
    (called : a.step m = (r, b)) : Stepped a m r b := by
  suffices direct : Stepped a m (a.step m).1 (a.step m).2 by rwa [called] at direct
  unfold step
  cases set : a.bound with
  | false => exact .unbound set
  | true =>
    simp only [Bool.not_true, Bool.false_eq_true, if_false]
    split
    · rename_i ended
      exact .terminal set ended
    · rename_i running
      split
      · exact .rejected _ _ set running (.fail a) rfl fun _ => rfl
      · rename_i scheme
        simp only [ne_eq, not_not] at scheme
        cases role : a.initiator with
        | true => exact stepInitiator_spec a m set running scheme role
        | false => exact stepResponder_spec a m set running scheme role

theorem Agreed.computed {a keyed : InteractiveAuthenticator P} {encoded : Bytes}
    (agreed : a.Agreed encoded keyed) :
    ∃ shared, a.consumePeerShare encoded = (.ok (), shared) ∧
      shared.computeTranscriptAndKeys = (.ok (), keyed) := by
  obtain ⟨raw, secret, decoded, length, nonzero, derived, rfl⟩ := agreed
  refine ⟨a.withPeerShare raw, ?_, ?_⟩
  · simp [consumePeerShare, decoded, length, nonzero]
  · have share : (a.withPeerShare raw).havePeerShare = true := rfl
    simp [computeTranscriptAndKeys, share, (derivePakeShared_ok a raw secret length).mpr derived]

theorem Agreed.unique {a k k' : InteractiveAuthenticator P} {encoded : Bytes} (one : a.Agreed encoded k)
    (two : a.Agreed encoded k') : k = k' := by
  obtain ⟨shared, consumed, computed⟩ := one.computed
  obtain ⟨shared', consumed', computed'⟩ := two.computed
  rw [consumed] at consumed'
  cases consumed'
  rw [computed] at computed'
  cases computed'
  rfl

theorem Agreed.responderConfirm_length {a keyed : InteractiveAuthenticator P} {encoded : Bytes}
    (agreed : a.Agreed encoded keyed) :
    keyed.responderConfirm.length = macLen ∧ keyed.initiatorConfirm.length = macLen := by
  obtain ⟨raw, secret, _, _, _, _, rfl⟩ := agreed
  exact ⟨(P.hmacSHA256 _ _).property, (P.hmacSHA256 _ _).property⟩

theorem step_of_hello {a keyed : InteractiveAuthenticator P} {m : Message} (set : a.bound = true)
    (role : a.initiator = false) (fresh : a.state = .init) (hello : a.AcceptsHello m keyed) :
    a.step m = (⟨keyed.acceptMessage, true, false, none⟩, { keyed with state := .sentAccept }) := by
  obtain ⟨shared, consumed, computed⟩ := hello.agreed.computed
  simp [step, set, role, fresh, hello.scheme, stepResponder, hello.kind, hello.initiatorRole,
    hello.responderRole, consumed, computed]

theorem step_of_confirm {a : InteractiveAuthenticator P} {m : Message} (set : a.bound = true)
    (role : a.initiator = false) (waiting : a.state = .sentAccept) (confirm : a.AcceptsConfirm m) :
    a.step m = (⟨.empty, false, true, none⟩, { a with state := .succeeded }) := by
  have verified := (verifyConfirmation_ok m.confirmation a.initiatorConfirm).mpr ⟨confirm.tag, confirm.length⟩
  simp [step, set, role, waiting, confirm.scheme, stepResponder, confirm.kind, verified]

theorem step_of_accept {a keyed : InteractiveAuthenticator P} {m : Message} (set : a.bound = true)
    (role : a.initiator = true) (waiting : a.state = .sentHello) (accept : a.AcceptsAccept m keyed) :
    a.step m = (⟨keyed.confirmMessage, true, true, none⟩, { keyed with state := .succeeded }) := by
  obtain ⟨shared, consumed, computed⟩ := accept.agreed.computed
  have verified := (verifyConfirmation_ok m.confirmation keyed.responderConfirm).mpr
    ⟨accept.tag, accept.agreed.responderConfirm_length.1⟩
  simp [step, set, role, waiting, accept.scheme, stepInitiator, accept.kind, consumed, computed, verified]

end Rtc2Tcp.Auth.InteractiveAuthenticator

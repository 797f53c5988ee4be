import Rtc2Tcp.Auth.Calls

namespace Rtc2Tcp.Auth.InteractiveAuthenticator

open Octets Go

variable {P : Primitives}

/-- The group behind CPACE as far as an honest run relies on it: products of non-identity
    elements with drawn scalars are no identity, scalars commute, encoding is total and
    inverted by decoding, and the all-zero string encodes the identity. -/
structure GroupLaws (P : Primitives) (nonZero : P.Scalar → Prop) : Prop where
  drawn : ∀ reader, nonZero (P.randomNonZeroScalar reader).1
  commutes : ∀ e x y, P.mul (P.mul e x) y = P.mul (P.mul e y) x
  torsionFree : ∀ e x, P.isIdentity e = false → nonZero x → P.isIdentity (P.mul e x) = false
  encodes : ∀ e, ∃ bytes, P.marshalBinary e = some bytes
  decodes : ∀ e bytes, P.marshalBinary e = some bytes → P.unmarshalBinary bytes = some e
  zeroIdentity : ∀ e, P.unmarshalBinary (Block.zero 32).val = some e → P.isIdentity e = true

/-- X25519 on honestly generated keys: public keys are not zero, and both sides compute the
    same non-zero secret. -/
structure X25519Laws (P : Primitives) : Prop where
  public_ne : ∀ a pub, P.x25519 a P.basepoint = some pub → pub ≠ (Block.zero 32).val
  commutes : ∀ a b pubA pubB : Block 32, P.x25519 a P.basepoint = some pubA.val →
    P.x25519 b P.basepoint = some pubB.val →
    ∃ shared, P.x25519 a pubB = some shared ∧ P.x25519 b pubA = some shared ∧ shared ≠ (Block.zero 32).val

theorem setupCPACE_ok (a b : InteractiveAuthenticator P) (ok : a.setupCPACE = (.ok (), b)) :
    ∃ generator share, generator = P.hashToElement (generatorInput a.pairingSecret a.material.sessionID
        a.orderedFingerprints.1 a.orderedFingerprints.2) cpaceGeneratorDST ∧
      P.isIdentity generator = false ∧ share = P.mul generator (P.randomNonZeroScalar a.rng).1 ∧
      P.isIdentity share = false ∧ P.marshalBinary share = some b.cpaceShare.val ∧
      b.cpaceScalar = some (P.randomNonZeroScalar a.rng).1 ∧ b.cpaceGenerator = some generator := by
  unfold setupCPACE at ok
  dsimp only at ok
  split at ok
  · cases ok
  · rename_i generator
    split at ok
    · cases ok
    · rename_i share
      split at ok
      · cases ok
      · rename_i bytes marshalled
        split at ok
        · cases ok
        · rename_i length
          cases ok
          refine ⟨_, _, rfl, by simpa using generator, rfl, by simpa using share, ?_, rfl, rfl⟩
          rw [marshalled, Block.copy_full _ _ (by simpa [pointLen] using length)]

theorem setupECDH_ok (a b : InteractiveAuthenticator P) (ok : a.setupECDH = (.ok (), b)) :
    P.x25519 b.priv P.basepoint = some b.pub.val := by
  unfold setupECDH at ok
  dsimp only at ok
  split at ok
  · cases ok
  · split at ok
    · cases ok
    · rename_i pub derived
      split at ok
      · cases ok
      · rename_i length
        cases ok
        rw [Block.copy_full _ _ (by simpa [pointLen] using length)]
        exact derived

/-- The shares of two authenticators fit together: each accepts the other's share and both
    derive one secret from it. -/
def SharesAgree (a b : InteractiveAuthenticator P) : Prop :=
  a.localShareBytes.val ≠ (Block.zero 32).val ∧ b.localShareBytes.val ≠ (Block.zero 32).val ∧
    ∃ secret, a.SharedSecret b.localShareBytes.val secret ∧ b.SharedSecret a.localShareBytes.val secret

theorem shares_agree_ecdh (laws : X25519Laws P) (a b : InteractiveAuthenticator P)
    (schemeA : a.scheme = .transitionalV2) (schemeB : b.scheme = .transitionalV2)
    (pubA : P.x25519 a.priv P.basepoint = some a.pub.val)
    (pubB : P.x25519 b.priv P.basepoint = some b.pub.val) : SharesAgree a b := by
  have localA : a.localShareBytes = a.pub := by simp [localShareBytes, schemeA]
  have localB : b.localShareBytes = b.pub := by simp [localShareBytes, schemeB]
  obtain ⟨shared, left, right, nonzero⟩ := laws.commutes _ _ _ _ pubA pubB
  have copiedA : b.peerShare.copy a.pub.val = a.pub := Subtype.ext (Block.copy_full _ _ a.pub.property)
  have copiedB : a.peerShare.copy b.pub.val = b.pub := Subtype.ext (Block.copy_full _ _ b.pub.property)
  refine ⟨?_, ?_, shared, ?_, ?_⟩
  · rw [localA]; exact laws.public_ne _ _ pubA
  · rw [localB]; exact laws.public_ne _ _ pubB
  · simp only [SharedSecret, schemeA, localB, copiedB]
    exact ⟨left, nonzero⟩
  · simp only [SharedSecret, schemeB, localA, copiedA]
    exact ⟨right, nonzero⟩

theorem shares_agree_cpace {nonZero : P.Scalar → Prop} (laws : GroupLaws P nonZero)
    (a b : InteractiveAuthenticator P) (schemeA : a.scheme = .cpaceV2) (schemeB : b.scheme = .cpaceV2)
    (generator : P.Element) (x y : P.Scalar) (nonIdentity : P.isIdentity generator = false)
    (drawnX : nonZero x) (drawnY : nonZero y)
    (scalarA : a.cpaceScalar = some x) (scalarB : b.cpaceScalar = some y)
    (shareA : P.marshalBinary (P.mul generator x) = some a.cpaceShare.val)
    (shareB : P.marshalBinary (P.mul generator y) = some b.cpaceShare.val) : SharesAgree a b := by
  have localA : a.localShareBytes = a.cpaceShare := by simp [localShareBytes, schemeA]
  have localB : b.localShareBytes = b.cpaceShare := by simp [localShareBytes, schemeB]
  have pointA := laws.torsionFree _ _ nonIdentity drawnX
  have pointB := laws.torsionFree _ _ nonIdentity drawnY
  have product := laws.torsionFree _ _ pointB drawnX
  have same := laws.commutes generator x y
  obtain ⟨secret, marshalled⟩ := laws.encodes (P.mul (P.mul generator y) x)
  have nonzero : ∀ e bytes, P.marshalBinary e = some bytes → P.isIdentity e = false →
      bytes ≠ (Block.zero 32).val := by
    intro e bytes encoded other zero
    have identity := laws.zeroIdentity e (zero ▸ laws.decodes e bytes encoded)
    rw [identity] at other
    cases other
  refine ⟨?_, ?_, secret, ?_, ?_⟩
  · rw [localA]; exact nonzero _ _ shareA pointA
  · rw [localB]; exact nonzero _ _ shareB pointB
  · simp only [SharedSecret, schemeA, localB]
    exact ⟨_, x, laws.decodes _ _ shareB, pointB, scalarA, product, marshalled⟩
  · simp only [SharedSecret, schemeB, localA]
    exact ⟨_, y, laws.decodes _ _ shareA, pointA, scalarB, by rw [same]; exact product, by
      rw [same]; exact marshalled⟩

theorem withKeys_congr (a b : InteractiveAuthenticator P) (shared : Bytes) (scheme : a.scheme = b.scheme)
    (secret : a.pairingSecret = b.pairingSecret) (session : a.material.sessionID = b.material.sessionID)
    (fields : a.orderedFields = b.orderedFields) :
    (a.withKeys shared).transcript = (b.withKeys shared).transcript ∧
      (a.withKeys shared).initiatorConfirm = (b.withKeys shared).initiatorConfirm ∧
      (a.withKeys shared).responderConfirm = (b.withKeys shared).responderConfirm ∧
      (a.withKeys shared).sessionKey = (b.withKeys shared).sessionKey := by
  have mix : a.pairingMix = b.pairingMix := by simp only [pairingMix, secret, session]
  simp only [withKeys, initiatorShare, responderShare, initiatorFingerprint, responderFingerprint,
    scheme, session, fields, mix, and_self]

theorem sessionKey_length (a : InteractiveAuthenticator P) (shared : Bytes) :
    (a.withKeys shared).sessionKey.length = 32 := by
  simp [withKeys, hkdfExpand]

structure Mirrored (initiator responder : InteractiveAuthenticator P) : Prop where
  boundI : initiator.bound = true
  boundR : responder.bound = true
  stateI : initiator.state = .init
  stateR : responder.state = .init
  roleI : initiator.initiator = true
  roleR : responder.initiator = false
  scheme : initiator.scheme = responder.scheme
  secret : initiator.pairingSecret = responder.pairingSecret
  session : initiator.material.sessionID = responder.material.sessionID
  fingerprintI : initiator.material.localFingerprint = responder.material.remoteFingerprint
  fingerprintR : initiator.material.remoteFingerprint = responder.material.localFingerprint

theorem Mirrored.fields {I R : InteractiveAuthenticator P} (m : Mirrored I R) :
    (I.withPeerShare R.localShareBytes.val).orderedFields =
      (R.withPeerShare I.localShareBytes.val).orderedFields := by
  have shareI : (I.peerShare.copy R.localShareBytes.val).val = R.localShareBytes.val :=
    Block.copy_full _ _ R.localShareBytes.property
  have shareR : (R.peerShare.copy I.localShareBytes.val).val = I.localShareBytes.val :=
    Block.copy_full _ _ I.localShareBytes.property
  have localI : (I.withPeerShare R.localShareBytes.val).localShareBytes = I.localShareBytes := rfl
  have localR : (R.withPeerShare I.localShareBytes.val).localShareBytes = R.localShareBytes := rfl
  simp only [orderedFields, localI, localR]
  simp only [withPeerShare, m.roleI, m.roleR, shareI, shareR, m.fingerprintI, m.fingerprintR,
    if_true, Bool.false_eq_true, if_false]

/-- `Start` and the three messages delivered in order bring both sides to `SUCCEEDED` with one
    transcript, one pair of tags and one 32-byte key. -/
def Completes (I R : InteractiveAuthenticator P) : Prop :=
  ∃ hello accept confirm I1 I2 R1 R2,
    I.start = (.ok hello, I1) ∧ R.step hello = (⟨accept, true, false, none⟩, R1) ∧
    I1.step accept = (⟨confirm, true, true, none⟩, I2) ∧
    R1.step confirm = (⟨.empty, false, true, none⟩, R2) ∧
    I2.state = .succeeded ∧ R2.state = .succeeded ∧ I2.transcript = R2.transcript ∧
    I2.initiatorConfirm = R2.initiatorConfirm ∧ I2.responderConfirm = R2.responderConfirm ∧
    ∃ key, I2.getSessionKey = .ok key ∧ R2.getSessionKey = .ok key ∧ key.length = 32

theorem Mirrored.completes {I R : InteractiveAuthenticator P} (m : Mirrored I R) (shares : SharesAgree I R) :
    Completes I R := by
  obtain ⟨nonzeroI, nonzeroR, secret, secretI, secretR⟩ := shares
  have started : I.start = (.ok I.helloMessage, { I with state := .sentHello }) := by
    simp [start, m.boundI, m.roleI, m.stateI]
  let keyedR := (R.withPeerShare I.localShareBytes.val).withKeys secret
  let I1 : InteractiveAuthenticator P := { I with state := .sentHello }
  let keyedI := (I1.withPeerShare R.localShareBytes.val).withKeys secret
  have agreedR : R.Agreed I.helloMessage.share keyedR :=
    ⟨I.localShareBytes.val, secret, by simp [helloMessage], I.localShareBytes.property, nonzeroI, secretR, rfl⟩
  have agreedI : I1.Agreed keyedR.acceptMessage.share keyedI :=
    ⟨R.localShareBytes.val, secret, by simp [acceptMessage]; rfl, R.localShareBytes.property, nonzeroR,
      secretI, rfl⟩
  obtain ⟨transcript, tagI, tagR, key⟩ := withKeys_congr (I1.withPeerShare R.localShareBytes.val)
    (R.withPeerShare I.localShareBytes.val) secret m.scheme m.secret m.session m.fields
  have helloTaken := step_of_hello m.boundR m.roleR m.stateR (m := I.helloMessage)
    ⟨by simp [helloMessage, m.scheme], rfl, rfl, rfl, agreedR⟩
  have acceptTaken := step_of_accept (a := I1) m.boundI m.roleI rfl (m := keyedR.acceptMessage)
    ⟨by simp [acceptMessage, keyedR, withKeys, withPeerShare, I1, m.scheme], rfl, agreedI, by
      simp only [acceptMessage, RawURLEncoding.trimSpace_encodeToString,
        RawURLEncoding.decodeString_encodeToString, Option.some.injEq]
      exact tagR.symm⟩
  have confirmTaken := step_of_confirm (a := { keyedR with state := .sentAccept }) m.boundR m.roleR rfl
    (m := keyedI.confirmMessage)
    ⟨by simp [confirmMessage, keyedI, keyedR, withKeys, withPeerShare, I1, m.scheme], rfl, by
      simp only [confirmMessage, RawURLEncoding.trimSpace_encodeToString,
        RawURLEncoding.decodeString_encodeToString, Option.some.injEq]
      exact tagI, agreedR.responderConfirm_length.2⟩
  refine ⟨_, _, _, _, _, _, _, started, helloTaken, acceptTaken, confirmTaken, rfl, rfl, transcript, tagI,
    tagR, keyedI.sessionKey, by simp [getSessionKey], ?_, sessionKey_length _ _⟩
  simp only [getSessionKey, ne_eq, not_true_eq_false, if_false, Except.ok.injEq]
  exact key.symm

/-- Two spellings of one fingerprint: white space around it and its letter case may differ. -/
def SameFingerprint (x y : Bytes) : Prop :=
  ∃ before after before' after' f g, Blank before ∧ Blank after ∧ Blank before' ∧ Blank after' ∧
    x = before ++ (f ++ after) ∧ y = before' ++ (g ++ after') ∧
    toUpper (trimSpace f) = toUpper (trimSpace g)

theorem SameFingerprint.canonical {x y : Bytes} (same : SameFingerprint x y) :
    canonicalFingerprint x = canonicalFingerprint y := by
  obtain ⟨before, after, before', after', f, g, b1, b2, b3, b4, rfl, rfl, letters⟩ := same
  rw [canonicalFingerprint, canonicalFingerprint, trimSpace_padded _ _ _ b1 b2, trimSpace_padded _ _ _ b3 b4,
    letters]

theorem bind_setup (a b : InteractiveAuthenticator P) (material : SessionBindingMaterial)
    (ok : a.bind material = (.ok (), b)) :
    (b.scheme = .transitionalV2 → P.x25519 b.priv P.basepoint = some b.pub.val) ∧
    (b.scheme = .cpaceV2 → ∃ generator scalar, generator = P.hashToElement (generatorInput b.pairingSecret
        b.material.sessionID b.orderedFingerprints.1 b.orderedFingerprints.2) cpaceGeneratorDST ∧
      P.isIdentity generator = false ∧ P.marshalBinary (P.mul generator scalar) = some b.cpaceShare.val ∧
      b.cpaceScalar = some scalar ∧ ∃ reader, scalar = (P.randomNonZeroScalar reader).1) := by
  cases bind_spec a b material _ ok with
  | bound c _ _ setup =>
    have kept : SetupKept (a.withMaterial material) c := by
      have all := setup_kept (a.withMaterial material)
      rwa [setup] at all
    have ordered : c.orderedFingerprints = (a.withMaterial material).orderedFingerprints := by
      simp only [orderedFingerprints, kept.initiator, kept.material]
    constructor
    · intro scheme
      have pinned : (a.withMaterial material).scheme = .transitionalV2 := kept.scheme.symm.trans scheme
      rw [InteractiveAuthenticator.setup, pinned] at setup
      exact setupECDH_ok _ c setup
    · intro scheme
      have pinned : (a.withMaterial material).scheme = .cpaceV2 := kept.scheme.symm.trans scheme
      rw [InteractiveAuthenticator.setup, pinned] at setup
      obtain ⟨generator, _, hashed, nonIdentity, rfl, _, share, scalar, _⟩ := setupCPACE_ok _ c setup
      rw [← ordered, ← kept.pairingSecret, ← kept.material] at hashed
      exact ⟨generator, _, hashed, nonIdentity, share, scalar, _, rfl⟩

theorem Mirrored.shares_agree {I R : InteractiveAuthenticator P} (m : Mirrored I R)
    (I0 R0 : InteractiveAuthenticator P) (matI matR : SessionBindingMaterial)
    (boundI : I0.bind matI = (.ok (), I)) (boundR : R0.bind matR = (.ok (), R))
    {nonZero : P.Scalar → Prop} (group : I.scheme = .cpaceV2 → GroupLaws P nonZero)
    (ecdh : I.scheme = .transitionalV2 → X25519Laws P) : SharesAgree I R := by
  obtain ⟨ecdhI, cpaceI⟩ := bind_setup I0 I matI boundI
  obtain ⟨ecdhR, cpaceR⟩ := bind_setup R0 R matR boundR
  cases scheme : I.scheme with
  | transitionalV2 =>
    have schemeR := m.scheme.symm.trans scheme
    exact shares_agree_ecdh (ecdh scheme) I R scheme schemeR (ecdhI scheme) (ecdhR schemeR)
  | cpaceV2 =>
    have schemeR := m.scheme.symm.trans scheme
    have laws := group scheme
    obtain ⟨g, x, hashedI, nonIdentity, shareI, scalarI, _, rfl⟩ := cpaceI scheme
    obtain ⟨h, y, hashedR, _, shareR, scalarR, _, rfl⟩ := cpaceR schemeR
    have ordered : I.orderedFingerprints = R.orderedFingerprints := by
      simp only [orderedFingerprints, m.roleI, m.roleR, m.fingerprintI, m.fingerprintR, if_true,
        Bool.false_eq_true, if_false]
    -- both generators hash the same secret, session id and fingerprints
    have same : g = h := by rw [hashedI, hashedR, ordered, m.secret, m.session]
    subst same
    exact shares_agree_cpace laws I R scheme schemeR g _ _ nonIdentity (laws.drawn _) (laws.drawn _)
      scalarI scalarR shareI shareR

theorem newInteractiveAuthenticator_ok (secret : Bytes) (scheme : Scheme) (rng : P.Reader)
    (nonempty : trimSpace secret ≠ []) : ∃ a, newInteractiveAuthenticator secret scheme.name rng = .ok a := by
  cases scheme with
  | cpaceV2 =>
    simp only [newInteractiveAuthenticator, if_neg nonempty, if_true]
    exact ⟨_, rfl⟩
  | transitionalV2 =>
    have other : Scheme.transitionalV2.name ≠ Scheme.cpaceV2.name := fun same => by
      cases Scheme.name_injective _ _ same
    simp only [newInteractiveAuthenticator, if_neg nonempty, if_neg other, if_true]
    exact ⟨_, rfl⟩

/-- Honest peers always complete: one pairing secret inside any white space, one session id and
    mirrored fingerprints in any spelling, under either scheme and for all drawn scalars. -/
theorem honest_handshake_completes (scheme : Scheme) (rngI rngR : P.Reader)
    (secret padI padI' padR padR' : Bytes) (nonempty : trimSpace secret ≠ [])
    (blanks : Blank padI ∧ Blank padI' ∧ Blank padR ∧ Blank padR')
    (matI matR : SessionBindingMaterial) (modeI : matI.mode = .connect) (modeR : matR.mode = .expose)
    (session : matI.sessionID = matR.sessionID)
    (initiatorPrint : SameFingerprint matI.localFingerprint matR.remoteFingerprint)
    (responderPrint : SameFingerprint matI.remoteFingerprint matR.localFingerprint)
    (nonZero : P.Scalar → Prop) (group : scheme = .cpaceV2 → GroupLaws P nonZero)
    (ecdh : scheme = .transitionalV2 → X25519Laws P) :
    ∃ I0 R0 : InteractiveAuthenticator P,
      newInteractiveAuthenticator (padI ++ (secret ++ padI')) scheme.name rngI = .ok I0 ∧
      newInteractiveAuthenticator (padR ++ (secret ++ padR')) scheme.name rngR = .ok R0 ∧
      ∀ I R, I0.bind matI = (.ok (), I) → R0.bind matR = (.ok (), R) → Completes I R := by
  have trimmedI : trimSpace (padI ++ (secret ++ padI')) = trimSpace secret :=
    trimSpace_padded _ _ _ blanks.1 blanks.2.1
  have trimmedR : trimSpace (padR ++ (secret ++ padR')) = trimSpace secret :=
    trimSpace_padded _ _ _ blanks.2.2.1 blanks.2.2.2
  obtain ⟨I0, createdI⟩ := newInteractiveAuthenticator_ok _ scheme rngI (trimmedI ▸ nonempty)
  obtain ⟨R0, createdR⟩ := newInteractiveAuthenticator_ok _ scheme rngR (trimmedR ▸ nonempty)
  refine ⟨I0, R0, createdI, createdR, ?_⟩
  intro I R boundI boundR
  obtain ⟨secretI, schemeI, _, _, _, _⟩ := newInteractiveAuthenticator_fresh _ _ _ _ createdI
  obtain ⟨secretR, schemeR, _, _, _, _⟩ := newInteractiveAuthenticator_fresh _ _ _ _ createdR
  rw [trimmedI] at secretI
  rw [trimmedR] at secretR
  obtain ⟨_, stateI, setI, keptI, secretKeptI, roleI, sessionI, localI, remoteI, _⟩ := bind_ok _ _ _ boundI
  obtain ⟨_, stateR, setR, keptR, secretKeptR, roleR, sessionR, localR, remoteR, _⟩ := bind_ok _ _ _ boundR
  have pinnedI : I.scheme = scheme := keptI.trans (Scheme.name_injective _ _ schemeI)
  have pinnedR : R.scheme = scheme := keptR.trans (Scheme.name_injective _ _ schemeR)
  have mirrored : Mirrored I R :=
    { boundI := setI, boundR := setR, stateI := stateI, stateR := stateR
      roleI := by rw [roleI, modeI]; rfl
      roleR := by rw [roleR, modeR]; rfl
      scheme := pinnedI.trans pinnedR.symm
      secret := by rw [secretKeptI, secretKeptR, secretI, secretR]
      session := by rw [sessionI, sessionR, session]
      fingerprintI := by rw [localI, remoteR, initiatorPrint.canonical]
      fingerprintR := by rw [remoteI, localR, responderPrint.canonical] }
  exact mirrored.completes (mirrored.shares_agree I0 R0 matI matR boundI boundR
    (fun h => group (pinnedI.symm.trans h)) (fun h => ecdh (pinnedI.symm.trans h)))

def octets32 (n : Nat) : Block 32 :=
  ⟨(List.range 32).map fun i => UInt8.ofNat (n >>> (8 * (31 - i))), by simp⟩

section Vectors

def initiatorKey : Block 32 := ⟨List.replicate 32 1, rfl⟩
def responderKey : Block 32 := ⟨List.replicate 32 2, rfl⟩
def initiatorPublic : Block 32 :=
  octets32 0xa4e09292b651c278b9772c569f5fa9bb13d906b46ab68c9df9dc2b4409f8a209
def responderPublic : Block 32 :=
  octets32 0xce8d3ad1ccb633ec7b70c17814a5c76ecd029685050d344745ba05870e587d59
def vectorShared : Block 32 :=
  octets32 0x2ed76ab549b1e73c031eb49c9448f0798aea81b698279a0c3dc3e49fbfc4b953
def vectorTranscript : Block 32 :=
  octets32 0xc0ddae2283fcf0f13b2bf05bb2de710c41c07e26c4c0d0b397387b2b7a970143
def vectorSalt : Block 32 :=
  octets32 0x45321fa1851f17a7f4c0d8fc0b9a9cfcfc814c9d4d577a17d33cf4c6ab306303
def vectorMix : Block 32 :=
  octets32 0x1a068337b179b7d41d37f731a4c933ed6b8cef32385058395300076f80f69696
def vectorPRK : Block 32 :=
  octets32 0xff12f4a952c07104ba80e4f9227b6744dd38b27b75ae9e9fc6cff1962327e812
def vectorSessionKey : Block 32 :=
  octets32 0x449770a12191001fb10be33135998a2203b2b8a0ce433c434fb3f5f69b15f65b
def vectorInitiatorKey : Block 32 :=
  octets32 0x8e87959b5697d40f30a20f5851728e54fa02e5f3a15b3b1e326aa51daeeb9427
def vectorResponderKey : Block 32 :=
  octets32 0x047bee3736d1d5e39ea786eca4b400227fc66dd3845ddff2c91ae60a0e49e9c3
def vectorInitiatorTag : Block 32 :=
  octets32 0x1bffac3e29eff2ee473c45ff0cf20d57de67869a22c5d53c4cd23756a81659e6
def vectorResponderTag : Block 32 :=
  octets32 0xd7f6c02fccfa3373d27006664d6f47ea6f0617ef77c547ef6c49ec7e028780dd

def vectorSecret : Bytes := text "correct horse"
def vectorSession : Bytes := text "session-1"

def vectorTranscriptInput : Bytes :=
  transcriptInput Scheme.transitionalV2.name vectorSession PeerMode.connect.string PeerMode.expose.string
    (text "SHA-256 AA:01") (text "SHA-256 BB:02") initiatorPublic.val responderPublic.val

/-- A table of the values that the real X25519, SHA-256, HMAC, HKDF and Argon2id have on the inputs of one handshake;
    CPACE's group is not used under this scheme. -/
def vectors : Primitives where
  sha256 input :=
    if input = vectorTranscriptInput then vectorTranscript
    else if input = pairingSaltInput vectorSession then vectorSalt
    else .zero 32
  hmacSHA256 key message :=
    if key = vectorTranscript.val ∧ message = vectorShared.val ++ vectorMix.val then vectorPRK
    else if key = vectorInitiatorKey.val ∧ message = vectorTranscript.val then vectorInitiatorTag
    else if key = vectorResponderKey.val ∧ message = vectorTranscript.val then vectorResponderTag
    else .zero 32
  hkdfExpand prk info :=
    if prk ≠ vectorPRK.val then []
    else if info = sessionKeyInfo then vectorSessionKey.val
    else if info = initiatorKeyInfo then vectorInitiatorKey.val
    else if info = responderKeyInfo then vectorResponderKey.val
    else []
  argon2IDKey password salt time memory threads keyLen :=
    if password = vectorSecret ∧ salt = vectorSalt.val ∧ (time, memory, threads) = (1, 8192, 1) then
      (Block.zero keyLen).copy vectorMix.val
    else .zero keyLen
  x25519 scalar point :=
    if scalar = initiatorKey then
      if point.val = 9 :: List.replicate 31 0 then some initiatorPublic.val
      else if point = responderPublic then some vectorShared.val
      else if point = initiatorPublic then
        some (octets32 0xf311d440a5f15fac9cbdc78fbb90b63a6c6880148e79159dd258f036bf2f792c).val
      else none
    else if scalar = responderKey then
      if point.val = 9 :: List.replicate 31 0 then some responderPublic.val
      else if point = initiatorPublic then some vectorShared.val
      else if point = responderPublic then
        some (octets32 0xacb1f256815afb1d7c1bc0db3aa6727aab4215ca4cd116e1f88be1a8a4b5507a).val
      else none
    else none
  basepoint := ⟨9 :: List.replicate 31 0, rfl⟩
  Scalar := Unit
  Element := Unit
  hashToElement _ _ := ()
  isIdentity _ := true
  mul _ _ := ()
  marshalBinary _ := none
  unmarshalBinary _ := none
  Reader := Bytes
  readFull reader n := (reader.take n, reader.drop n)
  randomNonZeroScalar reader := ((), reader)

theorem vectors_keys (a : Block 32) (pub : Bytes) (derived : vectors.x25519 a vectors.basepoint = some pub) :
    (a = initiatorKey ∧ pub = initiatorPublic.val) ∨ (a = responderKey ∧ pub = responderPublic.val) := by
  by_cases first : a = initiatorKey
  · subst first
    left
    exact ⟨rfl, (Option.some.inj derived).symm⟩
  · by_cases second : a = responderKey
    · subst second
      right
      exact ⟨rfl, (Option.some.inj derived).symm⟩
    · simp [vectors, first, second] at derived

theorem vectors_lawful : X25519Laws vectors where
  public_ne a pub derived := by
    obtain ⟨_, rfl⟩ | ⟨_, rfl⟩ := vectors_keys a pub derived
    · decide +kernel
    · decide +kernel
  commutes a b pubA pubB derivedA derivedB := by
    obtain ⟨rfl, sameA⟩ | ⟨rfl, sameA⟩ := vectors_keys a _ derivedA <;>
      obtain ⟨rfl, sameB⟩ | ⟨rfl, sameB⟩ := vectors_keys b _ derivedB <;>
      cases Subtype.ext sameA <;> cases Subtype.ext sameB <;>
      exact ⟨_, rfl, rfl, by decide +kernel⟩

def vectorMaterialI : SessionBindingMaterial :=
  ⟨text "session-1", .connect, text "sha-256 aa:01", text " SHA-256 BB:02\n"⟩
def vectorMaterialR : SessionBindingMaterial :=
  ⟨text "session-1", .expose, text "sha-256 bb:02", text "SHA-256 AA:01"⟩

def vectorFresh (rng : Bytes) : InteractiveAuthenticator vectors :=
  { pairingSecret := vectorSecret, scheme := .transitionalV2, state := .init, rng := rng
    bound := false, initiator := false, material := ⟨[], .unknown [], [], []⟩
    priv := .zero 32, pub := .zero 32
    cpaceScalar := none, cpaceGenerator := none, cpaceLocal := none, cpaceShare := .zero 32
    peerShare := .zero 32, havePeerShare := false
    transcript := [], sessionKey := [], initiatorConfirm := [], responderConfirm := [] }

def vectorI : InteractiveAuthenticator vectors := ((vectorFresh initiatorKey.val).bind vectorMaterialI).2
def vectorR : InteractiveAuthenticator vectors := ((vectorFresh responderKey.val).bind vectorMaterialR).2

theorem vectorI_bound : (vectorFresh initiatorKey.val).bind vectorMaterialI = (.ok (), vectorI) :=
  Prod.ext rfl rfl

theorem vectorR_bound : (vectorFresh responderKey.val).bind vectorMaterialR = (.ok (), vectorR) :=
  Prod.ext rfl rfl

inductive CPACEScalar where
  | initiator
  | responder
deriving DecidableEq

/-- The elements of one handshake; `far` stands for all others, and is encoded as the generator under the square of the
    initiator's scalar. -/
inductive CPACEElement where
  | identity
  | generator
  | initiatorShare
  | responderShare
  | shared
  | far
deriving DecidableEq

namespace CPACEElement

def mul : CPACEElement → CPACEScalar → CPACEElement
  | identity, _ => identity
  | generator, .initiator => initiatorShare
  | generator, .responder => responderShare
  | initiatorShare, .responder => shared
  | responderShare, .initiator => shared
  | _, _ => far

def encoding : CPACEElement → Block 32
  | identity => .zero 32
  | generator => octets32 0x766c15963a4003f2b44eb27c84e9ffac366f9466d816f84eeeb2e54fc690b000
  | initiatorShare => octets32 0xda257506b1fac562542f835422c42c6bfe9a37c095422044e4d070fb84c0065d
  | responderShare => octets32 0x561167474817e7fb42fdc946c74f659a4ee1e51f541696caa911a5b59e8b636f
  | shared => octets32 0x5e17e814d27713dbb7afa8aa60e01b950f20369360749028bc72ccbc2853187d
  | far => octets32 0xcecc24eb9213bcc0c5a203483253a5cdb4b2ec55925a67c72a055363ad77a469

def decoding (bytes : Bytes) : Option CPACEElement :=
  [identity, generator, initiatorShare, responderShare, shared, far].find? fun e => e.encoding.val = bytes

theorem decoding_encoding (e : CPACEElement) : decoding e.encoding.val = some e := by
  cases e <;> decide +kernel

end CPACEElement

def cpaceTranscript : Block 32 :=
  octets32 0x272c33fd0c7f8191564dd7673b954694d4648ea19d0fa38d3d1fc848dac021cd
def cpacePRK : Block 32 :=
  octets32 0x8b3435d7c2788761ce6d753f191b9484e69d3750ea2e27bf402da5ecd42ee4fc
def cpaceSessionKey : Block 32 :=
  octets32 0x060b7e577a6c0c715cda8cf16725a6482abadc5a8776608d2b647af5675f6b43
def cpaceInitiatorKey : Block 32 :=
  octets32 0x709870a7a7209586398788641da400cbaabcd6705e6b3ed7bd69eb0ced790d65
def cpaceResponderKey : Block 32 :=
  octets32 0x64b76f0a1380ec4aa904c8d1448338585bd2cde6c689f5d9a8e165100f78a514
def cpaceInitiatorTag : Block 32 :=
  octets32 0xebd9a37fdcd4e02d2a03c059fa8b09da5300a40048f94ffb73fd30d1fdecfc29
def cpaceResponderTag : Block 32 :=
  octets32 0x4006aa6b14b53d781bfc89b2da16226f0c60feba44deff0c53b5cb96ecd634f2

def cpaceTranscriptInput : Bytes :=
  transcriptInput Scheme.cpaceV2.name vectorSession PeerMode.connect.string PeerMode.expose.string
    (text "SHA-256 AA:01") (text "SHA-256 BB:02") CPACEElement.initiatorShare.encoding.val
    CPACEElement.responderShare.encoding.val

/-- The values of ristretto255 and of the other functions on the inputs of the same handshake under CPACE, for the
    scalars that the keys of the vectors reduce to. -/
def cpaceVectors : Primitives :=
  { vectors with
    sha256 := fun input =>
      if input = cpaceTranscriptInput then cpaceTranscript
      else if input = pairingSaltInput vectorSession then vectorSalt
      else .zero 32
    hmacSHA256 := fun key message =>
      if key = cpaceTranscript.val ∧ message = CPACEElement.shared.encoding.val ++ vectorMix.val then cpacePRK
      else if key = cpaceInitiatorKey.val ∧ message = cpaceTranscript.val then cpaceInitiatorTag
      else if key = cpaceResponderKey.val ∧ message = cpaceTranscript.val then cpaceResponderTag
      else .zero 32
    hkdfExpand := fun prk info =>
      if prk ≠ cpacePRK.val then []
      else if info = sessionKeyInfo then cpaceSessionKey.val
      else if info = initiatorKeyInfo then cpaceInitiatorKey.val
      else if info = responderKeyInfo then cpaceResponderKey.val
      else []
    Scalar := CPACEScalar
    Element := CPACEElement
    hashToElement := fun message dst =>
      if message = generatorInput vectorSecret vectorSession (text "SHA-256 AA:01") (text "SHA-256 BB:02") ∧
        dst = cpaceGeneratorDST then .generator else .far
    isIdentity := fun e => decide (e = .identity)
    mul := CPACEElement.mul
    marshalBinary := fun e => some e.encoding.val
    unmarshalBinary := CPACEElement.decoding
    Reader := Bytes
    readFull := fun reader n => (reader.take n, reader.drop n)
    randomNonZeroScalar := fun reader => (if reader = initiatorKey.val then .initiator else .responder, reader) }

theorem cpaceVectors_lawful : GroupLaws cpaceVectors fun _ => True where
  drawn _ := trivial
  commutes e x y := by cases e <;> cases x <;> cases y <;> rfl
  torsionFree e x other _ := by cases e <;> cases x <;> first | rfl | cases other
  encodes e := ⟨e.encoding.val, rfl⟩
  decodes e bytes encoded := by
    cases encoded
    exact e.decoding_encoding
  zeroIdentity e decoded := by
    cases decoded.symm.trans (CPACEElement.decoding_encoding .identity)
    rfl

def cpaceFresh (rng : Bytes) : InteractiveAuthenticator cpaceVectors :=
  { pairingSecret := vectorSecret, scheme := .cpaceV2, state := .init, rng := rng
    bound := false, initiator := false, material := ⟨[], .unknown [], [], []⟩
    priv := .zero 32, pub := .zero 32
    cpaceScalar := none, cpaceGenerator := none, cpaceLocal := none, cpaceShare := .zero 32
    peerShare := .zero 32, havePeerShare := false
    transcript := [], sessionKey := [], initiatorConfirm := [], responderConfirm := [] }

def cpaceI : InteractiveAuthenticator cpaceVectors := ((cpaceFresh initiatorKey.val).bind vectorMaterialI).2
def cpaceR : InteractiveAuthenticator cpaceVectors := ((cpaceFresh responderKey.val).bind vectorMaterialR).2

theorem cpaceI_bound : (cpaceFresh initiatorKey.val).bind vectorMaterialI = (.ok (), cpaceI) :=
  Prod.ext rfl rfl

theorem cpaceR_bound : (cpaceFresh responderKey.val).bind vectorMaterialR = (.ok (), cpaceR) :=
  Prod.ext rfl rfl

theorem honest_handshake_completes_vectors :
    (newInteractiveAuthenticator (text " " ++ (vectorSecret ++ text "\n")) Scheme.transitionalV2.name
        initiatorKey.val = .ok (vectorFresh initiatorKey.val) ∧
      newInteractiveAuthenticator (text "\t" ++ (vectorSecret ++ [])) Scheme.transitionalV2.name
        responderKey.val = .ok (vectorFresh responderKey.val) ∧ Completes vectorI vectorR) ∧
    newInteractiveAuthenticator (text " " ++ (vectorSecret ++ text "\n")) Scheme.cpaceV2.name
      initiatorKey.val = .ok (cpaceFresh initiatorKey.val) ∧
    newInteractiveAuthenticator (text "\t" ++ (vectorSecret ++ [])) Scheme.cpaceV2.name
      responderKey.val = .ok (cpaceFresh responderKey.val) ∧ Completes cpaceI cpaceR := by
  have blank : Blank [] := ⟨[], by simp, rfl⟩
  have space : Blank (text " ") := ⟨[0x20], by decide, rfl⟩
  have newline : Blank (text "\n") := ⟨[0x0a], by decide, rfl⟩
  have tab : Blank (text "\t") := ⟨[0x09], by decide, rfl⟩
  have printI : SameFingerprint vectorMaterialI.localFingerprint vectorMaterialR.remoteFingerprint :=
    ⟨[], [], [], [], text "sha-256 aa:01", text "SHA-256 AA:01", blank, blank, blank, blank, rfl, rfl,
      by decide⟩
  have printR : SameFingerprint vectorMaterialI.remoteFingerprint vectorMaterialR.localFingerprint :=
    ⟨text " ", text "\n", [], [], text "SHA-256 BB:02", text "sha-256 bb:02", space, newline, blank, blank,
      rfl, rfl, by decide⟩
  constructor
  · obtain ⟨I0, R0, createdI, createdR, completes⟩ := honest_handshake_completes (P := vectors) .transitionalV2
      initiatorKey.val responderKey.val vectorSecret (text " ") (text "\n") (text "\t") [] (by decide)
      ⟨space, newline, tab, blank⟩ vectorMaterialI vectorMaterialR rfl rfl rfl printI printR (fun _ => True)
      nofun (fun _ => vectors_lawful)
    have freshI : vectorFresh initiatorKey.val = I0 := Except.ok.inj createdI
    have freshR : vectorFresh responderKey.val = R0 := Except.ok.inj createdR
    subst freshI freshR
    exact ⟨createdI, createdR, completes vectorI vectorR vectorI_bound vectorR_bound⟩
  · obtain ⟨I0, R0, createdI, createdR, completes⟩ := honest_handshake_completes (P := cpaceVectors) .cpaceV2
      initiatorKey.val responderKey.val vectorSecret (text " ") (text "\n") (text "\t") [] (by decide)
      ⟨space, newline, tab, blank⟩ vectorMaterialI vectorMaterialR rfl rfl rfl printI printR (fun _ => True)
      (fun _ => cpaceVectors_lawful) nofun
    have freshI : cpaceFresh initiatorKey.val = I0 := Except.ok.inj createdI
    have freshR : cpaceFresh responderKey.val = R0 := Except.ok.inj createdR
    subst freshI freshR
    exact ⟨createdI, createdR, completes cpaceI cpaceR cpaceI_bound cpaceR_bound⟩

end Vectors

end Rtc2Tcp.Auth.InteractiveAuthenticator

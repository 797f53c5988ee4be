import Rtc2Tcp.Auth.Types

namespace Rtc2Tcp.Auth

open Octets Go

/-- `InteractiveAuthenticator`. The fixed arrays of the source are blocks, so a share has its
    length by construction; the scheme is one of the two the constructor admits. -/
structure InteractiveAuthenticator (P : Primitives) where
  pairingSecret : Bytes
  scheme : Scheme
  state : AuthState
  rng : P.Reader
  bound : Bool
  initiator : Bool
  material : SessionBindingMaterial
  priv : Block 32
  pub : Block 32
  cpaceScalar : Option P.Scalar
  cpaceGenerator : Option P.Element
  cpaceLocal : Option P.Element
  cpaceShare : Block 32
  peerShare : Block 32
  havePeerShare : Bool
  transcript : Bytes
  sessionKey : Bytes
  initiatorConfirm : Bytes
  responderConfirm : Bytes

variable {P : Primitives}

def newInteractiveAuthenticator (pairingSecret scheme : Bytes) (rng : P.Reader) :
    Except AuthError (InteractiveAuthenticator P) :=
  let trimmed := trimSpace pairingSecret
  if trimmed = [] then .error .pairingSecretRequired
  else
    let create (s : Scheme) : InteractiveAuthenticator P :=
      { pairingSecret := trimmed, scheme := s, state := .init, rng := rng
        bound := false, initiator := false, material := ⟨[], .unknown [], [], []⟩
        priv := .zero 32, pub := .zero 32
        cpaceScalar := none, cpaceGenerator := none, cpaceLocal := none, cpaceShare := .zero 32
        peerShare := .zero 32, havePeerShare := false
        transcript := [], sessionKey := [], initiatorConfirm := [], responderConfirm := [] }
    if scheme = Scheme.cpaceV2.name then .ok (create .cpaceV2)
    else if scheme = Scheme.transitionalV2.name then .ok (create .transitionalV2)
    else .error (.unsupportedScheme scheme)

def canonicalFingerprint (value : Bytes) : Bytes := toUpper (trimSpace value)

def validateMaterial (m : SessionBindingMaterial) : Except AuthError Unit :=
  if trimSpace m.sessionID = [] then .error .sessionIDRequired
  else if trimSpace m.localFingerprint = [] then .error .localFingerprintRequired
  else if trimSpace m.remoteFingerprint = [] then .error .remoteFingerprintRequired
  else match m.mode with
    | .connect | .expose => .ok ()
    | .unknown mode => .error (.unsupportedMode mode)

/-- What `writeLenPrefixed` appends to its writer. -/
def lenPrefixed (b : Bytes) : Bytes := framed b

def transcriptInput (scheme sessionID initiatorRole responderRole initiatorFingerprint
    responderFingerprint initiatorShare responderShare : Bytes) : Bytes :=
  lenPrefixed (text "rtc2tcp-auth/transcript/v2") ++ (lenPrefixed scheme ++ (lenPrefixed sessionID ++
    (lenPrefixed initiatorRole ++ (lenPrefixed responderRole ++
      (lenPrefixed initiatorFingerprint ++ (lenPrefixed responderFingerprint ++
        (lenPrefixed initiatorShare ++ lenPrefixed responderShare)))))))

def buildTranscript (P : Primitives) (scheme sessionID initiatorRole responderRole initiatorFingerprint
    responderFingerprint initiatorShare responderShare : Bytes) : Bytes :=
  (P.sha256 (transcriptInput scheme sessionID initiatorRole responderRole initiatorFingerprint
    responderFingerprint initiatorShare responderShare)).val

def pairingSaltInput (sessionID : Bytes) : Bytes := text "rtc2tcp/m2/pairing-salt/v1" ++ sessionID

def pairingSalt (P : Primitives) (sessionID : Bytes) : Bytes := (P.sha256 (pairingSaltInput sessionID)).val

def hkdfExtract (P : Primitives) (salt ikm : Bytes) : Bytes := (P.hmacSHA256 salt ikm).val

/-- A buffer of the asked length, filled from the expansion as far as that goes. -/
def hkdfExpand (P : Primitives) (prk info : Bytes) (length : Nat) : Bytes :=
  overwrite (List.replicate length 0) (P.hkdfExpand prk info)

def macTranscript (P : Primitives) (key transcript : Bytes) : Bytes := (P.hmacSHA256 key transcript).val

/-- The message `setupCPACE` hashes to the generator. -/
def generatorInput (pairingSecret sessionID initiatorFP responderFP : Bytes) : Bytes :=
  lenPrefixed pairingSecret ++ (lenPrefixed sessionID ++ (lenPrefixed initiatorFP ++
    lenPrefixed responderFP))

def verifyConfirmation (encoded expected : Bytes) : Except AuthError Unit :=
  match RawURLEncoding.decodeString (trimSpace encoded) with
  | none => .error .confirmationMismatch
  | some raw =>
    if raw.length ≠ macLen then .error .confirmationMismatch
    else if raw ≠ expected then .error .confirmationMismatch
    else .ok ()

namespace InteractiveAuthenticator

def name (a : InteractiveAuthenticator P) : Bytes := a.scheme.name

def setupECDH (a : InteractiveAuthenticator P) : Except AuthError Unit × InteractiveAuthenticator P :=
  let (drawn, rng) := P.readFull a.rng scalarLen
  let a := { a with priv := a.priv.copy drawn, rng := rng }
  if drawn.length < scalarLen then (.error .generateEphemeralKey, a)
  else match P.x25519 a.priv P.basepoint with
    | none => (.error .derivePublicShare, a)
    | some pub =>
      if pub.length ≠ pointLen then (.error (.unexpectedShareLength pub.length), a)
      else (.ok (), { a with pub := a.pub.copy pub })

def orderedFingerprints (a : InteractiveAuthenticator P) : Bytes × Bytes :=
  if a.initiator then (a.material.localFingerprint, a.material.remoteFingerprint)
  else (a.material.remoteFingerprint, a.material.localFingerprint)

def setupCPACE (a : InteractiveAuthenticator P) : Except AuthError Unit × InteractiveAuthenticator P :=
  let (initiatorFP, responderFP) := a.orderedFingerprints
  let message := generatorInput a.pairingSecret a.material.sessionID initiatorFP responderFP
  let generator := P.hashToElement message cpaceGeneratorDST
  let a := { a with cpaceGenerator := some generator }
  if P.isIdentity generator then (.error .cpaceGeneratorIdentity, a)
  else
    let (scalar, rng) := P.randomNonZeroScalar a.rng
    let share := P.mul generator scalar
    let a := { a with cpaceScalar := some scalar, rng := rng, cpaceLocal := some share }
    if P.isIdentity share then (.error .cpaceLocalShareIdentity, a)
    else match P.marshalBinary share with
      | none => (.error .marshalCPACEShare, a)
      | some shareBytes =>
        if shareBytes.length ≠ pointLen then (.error (.unexpectedCPACEShareLength shareBytes.length), a)
        else (.ok (), { a with cpaceShare := a.cpaceShare.copy shareBytes })

def withMaterial (a : InteractiveAuthenticator P) (material : SessionBindingMaterial) :
    InteractiveAuthenticator P :=
  { a with
    material :=
      { sessionID := trimSpace material.sessionID
        mode := material.mode
        localFingerprint := canonicalFingerprint material.localFingerprint
        remoteFingerprint := canonicalFingerprint material.remoteFingerprint }
    initiator := decide (material.mode = .connect) }

def setup (a : InteractiveAuthenticator P) : Except AuthError Unit × InteractiveAuthenticator P :=
  match a.scheme with
  | .cpaceV2 => a.setupCPACE
  | .transitionalV2 => a.setupECDH

/-- `Bind`. A failing setup leaves the fields it has already written. -/
def bind (a : InteractiveAuthenticator P) (material : SessionBindingMaterial) :
    Except AuthError Unit × InteractiveAuthenticator P :=
  if a.state ≠ .init then (.error .stateOutOfOrder, a)
  else match validateMaterial material with
    | .error e => (.error e, a)
    | .ok () =>
      match (a.withMaterial material).setup with
      | (.error e, a) => (.error e, a)
      | (.ok (), a) => (.ok (), { a with bound := true })

def localShareBytes (a : InteractiveAuthenticator P) : Block 32 :=
  if a.scheme = .cpaceV2 then a.cpaceShare else a.pub

def fail (a : InteractiveAuthenticator P) : InteractiveAuthenticator P := { a with state := .failed }

def withPeerShare (a : InteractiveAuthenticator P) (raw : Bytes) : InteractiveAuthenticator P :=
  { a with peerShare := a.peerShare.copy raw, havePeerShare := true }

def consumePeerShare (a : InteractiveAuthenticator P) (encoded : Bytes) :
    Except AuthError Unit × InteractiveAuthenticator P :=
  match RawURLEncoding.decodeString (trimSpace encoded) with
  | none => (.error .invalidShare, a)
  | some raw =>
    if raw.length ≠ pointLen then (.error .invalidShare, a)
    else if raw = (Block.zero 32).val then (.error .invalidShare, a)
    else (.ok (), a.withPeerShare raw)

def derivePakeSharedCPACE (a : InteractiveAuthenticator P) : Except AuthError Bytes :=
  match P.unmarshalBinary a.peerShare.val with
  | none => .error .invalidShare
  | some peerElement =>
    if P.isIdentity peerElement then .error .invalidShare
    else match a.cpaceScalar with
      | none => .error .nilScalar
      | some scalar =>
        let result := P.mul peerElement scalar
        if P.isIdentity result then .error .invalidShare
        else match P.marshalBinary result with
          | none => .error .marshalCPACEShared
          | some out => .ok out

def derivePakeSharedECDH (a : InteractiveAuthenticator P) : Except AuthError Bytes :=
  match P.x25519 a.priv a.peerShare with
  | none => .error .invalidShare
  | some shared => if shared = (Block.zero 32).val then .error .invalidShare else .ok shared

def derivePakeShared (a : InteractiveAuthenticator P) : Except AuthError Bytes :=
  match a.scheme with
  | .cpaceV2 => a.derivePakeSharedCPACE
  | .transitionalV2 => a.derivePakeSharedECDH

/-- The shares and fingerprints in the order of the roles, as `computeTranscriptAndKeys` picks
    them: initiator share, responder share, initiator and responder fingerprint. -/
def orderedFields (a : InteractiveAuthenticator P) : Bytes × Bytes × Bytes × Bytes :=
  if a.initiator then
    (a.localShareBytes.val, a.peerShare.val, a.material.localFingerprint, a.material.remoteFingerprint)
  else
    (a.peerShare.val, a.localShareBytes.val, a.material.remoteFingerprint, a.material.localFingerprint)

def initiatorShare (a : InteractiveAuthenticator P) : Bytes := a.orderedFields.1
def responderShare (a : InteractiveAuthenticator P) : Bytes := a.orderedFields.2.1
def initiatorFingerprint (a : InteractiveAuthenticator P) : Bytes := a.orderedFields.2.2.1
def responderFingerprint (a : InteractiveAuthenticator P) : Bytes := a.orderedFields.2.2.2

def pairingMix (a : InteractiveAuthenticator P) : Bytes :=
  (P.argon2IDKey a.pairingSecret (pairingSalt P a.material.sessionID) 1 (8 * 1024) 1 32).val

def sessionKeyInfo : Bytes := text "rtc2tcp/m2/session-key/v1"
def initiatorKeyInfo : Bytes := text "rtc2tcp/m2/confirm-key/initiator/v1"
def responderKeyInfo : Bytes := text "rtc2tcp/m2/confirm-key/responder/v1"

def withKeys (a : InteractiveAuthenticator P) (pakeShared : Bytes) : InteractiveAuthenticator P :=
  let transcript := buildTranscript P a.scheme.name a.material.sessionID PeerMode.connect.string
    PeerMode.expose.string a.initiatorFingerprint a.responderFingerprint a.initiatorShare a.responderShare
  let ikm := pakeShared ++ a.pairingMix
  let prk := hkdfExtract P transcript ikm
  let kInit := hkdfExpand P prk initiatorKeyInfo 32
  let kResp := hkdfExpand P prk responderKeyInfo 32
  { a with
    transcript := transcript
    sessionKey := hkdfExpand P prk sessionKeyInfo 32
    initiatorConfirm := macTranscript P kInit transcript
    responderConfirm := macTranscript P kResp transcript }

def computeTranscriptAndKeys (a : InteractiveAuthenticator P) :
    Except AuthError Unit × InteractiveAuthenticator P :=
  if !a.havePeerShare then (.error .invalidShare, a)
  else match a.derivePakeShared with
    | .error e => (.error e, a)
    | .ok pakeShared => (.ok (), a.withKeys pakeShared)

structure StepResult where
  outbound : Message
  hasOutbound : Bool
  done : Bool
  err : Option AuthError
deriving DecidableEq, Repr

def StepResult.failure (e : AuthError) : StepResult := ⟨.empty, false, false, some e⟩

def helloMessage (a : InteractiveAuthenticator P) : Message :=
  { scheme := a.scheme.name
    kind := .hello
    initiatorRole := PeerMode.connect.string
    responderRole := PeerMode.expose.string
    share := RawURLEncoding.encodeToString a.localShareBytes.val
    confirmation := [] }

def acceptMessage (a : InteractiveAuthenticator P) : Message :=
  { scheme := a.scheme.name
    kind := .accept
    initiatorRole := []
    responderRole := []
    share := RawURLEncoding.encodeToString a.localShareBytes.val
    confirmation := RawURLEncoding.encodeToString a.responderConfirm }

def confirmMessage (a : InteractiveAuthenticator P) : Message :=
  { scheme := a.scheme.name
    kind := .confirm
    initiatorRole := []
    responderRole := []
    share := []
    confirmation := RawURLEncoding.encodeToString a.initiatorConfirm }

def start (a : InteractiveAuthenticator P) : Except AuthError Message × InteractiveAuthenticator P :=
  if !a.bound then (.error .unbound, a)
  else if !a.initiator then (.error .stateOutOfOrder, a)
  else if a.state ≠ .init then (.error .stateOutOfOrder, a)
  else (.ok a.helloMessage, { a with state := .sentHello })

def stepResponder (a : InteractiveAuthenticator P) (inbound : Message) :
    StepResult × InteractiveAuthenticator P :=
  match a.state with
  | .init =>
    if inbound.kind ≠ .hello then (.failure (.unexpectedKind .hello inbound.kind), a.fail)
    else if inbound.initiatorRole ≠ PeerMode.connect.string ∨
        inbound.responderRole ≠ PeerMode.expose.string then (.failure .roleMismatch, a.fail)
    else match a.consumePeerShare inbound.share with
      | (.error e, a) => (.failure e, a.fail)
      | (.ok (), a) =>
        match a.computeTranscriptAndKeys with
        | (.error e, a) => (.failure e, a.fail)
        | (.ok (), a) =>
          (⟨a.acceptMessage, true, false, none⟩, { a with state := .sentAccept })
  | .sentAccept =>
    if inbound.kind ≠ .confirm then (.failure (.unexpectedKind .confirm inbound.kind), a.fail)
    else match verifyConfirmation inbound.confirmation a.initiatorConfirm with
      | .error e => (.failure e, a.fail)
      | .ok () => (⟨.empty, false, true, none⟩, { a with state := .succeeded })
  | _ => (.failure .stateOutOfOrder, a.fail)

def stepInitiator (a : InteractiveAuthenticator P) (inbound : Message) :
    StepResult × InteractiveAuthenticator P :=
  if a.state ≠ .sentHello then (.failure .stateOutOfOrder, a.fail)
  else if inbound.kind ≠ .accept then (.failure (.unexpectedKind .accept inbound.kind), a.fail)
  else match a.consumePeerShare inbound.share with
    | (.error e, a) => (.failure e, a.fail)
    | (.ok (), a) =>
      match a.computeTranscriptAndKeys with
      | (.error e, a) => (.failure e, a.fail)
      | (.ok (), a) =>
        match verifyConfirmation inbound.confirmation a.responderConfirm with
        | .error e => (.failure e, a.fail)
        | .ok () =>
          (⟨a.confirmMessage, true, true, none⟩, { a with state := .succeeded })

def step (a : InteractiveAuthenticator P) (inbound : Message) : StepResult × InteractiveAuthenticator P :=
  if !a.bound then (.failure .unbound, a)
  else if a.state = .succeeded ∨ a.state = .failed then (.failure .stateOutOfOrder, a)
  else if inbound.scheme ≠ a.scheme.name then
    (.failure (.schemeMismatch inbound.scheme a.scheme.name), a.fail)
  else if a.initiator then a.stepInitiator inbound
  else a.stepResponder inbound

def getSessionKey (a : InteractiveAuthenticator P) : Except AuthError Bytes :=
  if a.state ≠ .succeeded then .error .notComplete else .ok a.sessionKey

end InteractiveAuthenticator

end Rtc2Tcp.Auth

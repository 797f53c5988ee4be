import Rtc2Tcp.Config.PeerMode
import Rtc2Tcp.Go.Base64

namespace Rtc2Tcp.Auth

open Octets Go

/-- The two schemes `newInteractiveAuthenticator` lets through. -/
inductive Scheme where
  | cpaceV2
  | transitionalV2
deriving DecidableEq, Repr

def Scheme.name : Scheme → Bytes
  | .cpaceV2 => text "rtc2tcp-auth/cpace-ristretto255-v2"
  | .transitionalV2 => text "rtc2tcp-auth/interactive-ecdh-v2a"

theorem Scheme.name_injective (s t : Scheme) (same : s.name = t.name) : s = t := by
  cases s <;> cases t <;> first | rfl | (exfalso; revert same; decide)

def cpaceGeneratorDST : Bytes := text "rtc2tcp-auth/cpace-gen/v2"

def scalarLen : Nat := 32
def pointLen : Nat := 32
def macLen : Nat := 32

structure SessionBindingMaterial where
  sessionID : Bytes
  mode : PeerMode
  localFingerprint : Bytes
  remoteFingerprint : Bytes
deriving DecidableEq, Repr

/-- The message kinds; `other` is any text a peer may put on the wire instead. -/
inductive MessageKind where
  | hello
  | accept
  | confirm
  | other (text : Bytes)
deriving DecidableEq, Repr

structure Message where
  scheme : Bytes
  kind : MessageKind
  initiatorRole : Bytes
  responderRole : Bytes
  share : Bytes
  confirmation : Bytes
deriving DecidableEq, Repr

def Message.empty : Message := ⟨[], .other [], [], [], [], []⟩

inductive AuthState where
  | init
  | sentHello
  | sentAccept
  | sentConfirm
  | succeeded
  | failed
deriving DecidableEq, Repr

/-- Every error of the package, with what its text is built from. `nilScalar` is the panic on
    a scalar that was never drawn. -/
inductive AuthError where
  | pairingSecretRequired
  | unsupportedScheme (scheme : Bytes)
  | sessionIDRequired
  | localFingerprintRequired
  | remoteFingerprintRequired
  | unsupportedMode (mode : Bytes)
  | generateEphemeralKey
  | derivePublicShare
  | unexpectedShareLength (length : Nat)
  | cpaceGeneratorIdentity
  | cpaceLocalShareIdentity
  | marshalCPACEShare
  | unexpectedCPACEShareLength (length : Nat)
  | marshalCPACEShared
  | unbound
  | stateOutOfOrder
  | schemeMismatch (got want : Bytes)
  | unexpectedKind (expected got : MessageKind)
  | roleMismatch
  | invalidShare
  | confirmationMismatch
  | notComplete
  | nilScalar
deriving DecidableEq, Repr

/-- The functions of the cryptographic packages the authenticator calls. `hkdfExpand` is the
    whole output stream; `readFull` returns fewer bytes than asked when the source fails. -/
structure Primitives where
  sha256 : Bytes → Block 32
  hmacSHA256 : (key message : Bytes) → Block 32
  hkdfExpand : (prk info : Bytes) → Bytes
  argon2IDKey : (password salt : Bytes) → (time memory threads keyLen : Nat) → Block keyLen
  x25519 : (scalar point : Block 32) → Option Bytes
  basepoint : Block 32
  Scalar : Type
  Element : Type
  hashToElement : (message dst : Bytes) → Element
  isIdentity : Element → Bool
  mul : Element → Scalar → Element
  marshalBinary : Element → Option Bytes
  unmarshalBinary : Bytes → Option Element
  Reader : Type
  readFull : Reader → Nat → Bytes × Reader
  randomNonZeroScalar : Reader → Scalar × Reader

end Rtc2Tcp.Auth

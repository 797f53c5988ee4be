import Rtc2Tcp.Config.Connection
import Rtc2Tcp.Config.PeerMode
import Rtc2Tcp.Config.Secrets
import Rtc2Tcp.Go.Flag

namespace Rtc2Tcp.Peer

open Octets Go Config

def defaultSTUN : Bytes := text "stun:stun.l.google.com:19302"
def defaultListen : Bytes := text "127.0.0.1:2222"

structure ICEConfig where
  stun : Bytes
  turn : Bytes
  turnUsername : Bytes
  turnPassword : Bytes
deriving DecidableEq, Repr

structure PeerOptions where
  mode : PeerMode
  rendezvousToken : Bytes
  pairingSecret : Bytes
  brokerURL : Bytes
  ice : ICEConfig
  target : Bytes
  listen : Bytes
  socks5 : Bool
deriving DecidableEq, Repr

inductive StringVar where
  | rendezvousToken
  | pairingSecret
  | pairingSecretFile
  | legacySecret
  | legacySecretFile
  | brokerURL
  | stun
  | turn
  | turnUsername
  | turnPassword
  | connectionString
  | target
  | listen
deriving DecidableEq, Repr

inductive BoolVar where
  | versionOnly
  | quiet
  | noColor
  | socks5
deriving DecidableEq, Repr

def commonFlags : List (Bytes × (StringVar ⊕ BoolVar)) :=
  [(text "rendezvous-token", .inl .rendezvousToken), (text "pairing-secret", .inl .pairingSecret),
    (text "pairing-secret-file", .inl .pairingSecretFile), (text "secret", .inl .legacySecret),
    (text "secret-file", .inl .legacySecretFile), (text "broker", .inl .brokerURL), (text "stun", .inl .stun),
    (text "turn", .inl .turn), (text "turn-username", .inl .turnUsername),
    (text "turn-password", .inl .turnPassword), (text "connection", .inl .connectionString),
    (text "version", .inr .versionOnly), (text "quiet", .inr .quiet), (text "silent", .inr .quiet),
    (text "no-color", .inr .noColor), (text "t", .inl .rendezvousToken), (text "s", .inl .pairingSecret),
    (text "b", .inl .brokerURL), (text "V", .inr .versionOnly), (text "q", .inr .quiet)]

def modeFlags : PeerMode → List (Bytes × (StringVar ⊕ BoolVar))
  | .expose => [(text "target", .inl .target), (text "T", .inl .target), (text "socks5", .inr .socks5)]
  | .connect => [(text "listen", .inl .listen), (text "l", .inl .listen), (text "socks5", .inr .socks5)]
  | .unknown _ => []

def flagVar (mode : PeerMode) (name : Bytes) : Option (StringVar ⊕ BoolVar) :=
  (commonFlags ++ modeFlags mode).lookup name

inductive PeerFlagsError where
  | flags (e : FlagError)
  | targetRequired
  | connection (e : ConnectionError)
  | generateToken
  | tokenRequired
  | secret (e : SecretError)
  | generateSecret
  | secretRequired
deriving DecidableEq, Repr

def defaultBroker (build : Bytes) : Bytes := if build = [] then text "https://rtc.haltman.io/" else build

/-- The connection string that may come first in connect mode, and the arguments behind it. -/
def peel (mode : PeerMode) (args : List Bytes) : Bytes × List Bytes :=
  match mode, args with
  | .connect, arg :: rest => if arg.head? = some 0x2d then ([], args) else (arg, rest)
  | _, args => ([], args)

def flagDefaults (build : Bytes) (mode : PeerMode) (positional : Bytes) : FlagStore StringVar BoolVar where
  strings
    | .brokerURL => defaultBroker build
    | .stun => defaultSTUN
    | .connectionString => positional
    | .listen => if mode = .connect then defaultListen else []
    | _ => []
  bools _ := false

structure Credentials where
  rendezvousToken : Bytes
  pairingSecret : Bytes
  brokerURL : Bytes
deriving DecidableEq, Repr

def passed (v : StringVar → Bytes) : Credentials := ⟨v .rendezvousToken, v .pairingSecret, v .brokerURL⟩

def fill (build : Bytes) (v : StringVar → Bytes) (cs : ConnectionString) : Credentials where
  rendezvousToken := if trimSpace (v .rendezvousToken) = [] then cs.rendezvousToken else v .rendezvousToken
  pairingSecret :=
    if v .pairingSecret = [] ∧ v .pairingSecretFile = [] ∧ v .legacySecret = [] ∧ v .legacySecretFile = [] then
      cs.pairingSecret
    else v .pairingSecret
  brokerURL := if v .brokerURL = defaultBroker build then cs.brokerURL else v .brokerURL

def applyConnection (build : Bytes) (v : StringVar → Bytes) : Except PeerFlagsError Credentials :=
  if trimSpace (v .connectionString) = [] then .ok (passed v)
  else
    match parseConnectionString (v .connectionString) with
    | .error e => .error (.connection e)
    | .ok cs => .ok (fill build v cs)

def orGenerate (mode : PeerMode) (draw : Option TokenBuf) (failed missing : PeerFlagsError) (resolved : Bytes) :
    Except PeerFlagsError Bytes :=
  if resolved ≠ [] then .ok resolved
  else if mode = .expose then
    match draw with
    | none => .error failed
    | some bytes => .ok (randomToken bytes)
  else .error missing

def resolveToken (env : Environment) (mode : PeerMode) (flagValue : Bytes) : Except PeerFlagsError Bytes :=
  orGenerate mode env.tokenDraw .generateToken .tokenRequired (resolveRendezvousTokenOptional env flagValue)

def resolveSecret (env : Environment) (mode : PeerMode) (pairingSecret : Bytes) (v : StringVar → Bytes) :
    Except PeerFlagsError Bytes :=
  match resolvePairingSecretOptional env pairingSecret (v .pairingSecretFile) (v .legacySecret) (v .legacySecretFile) with
  | .error e => .error (.secret e)
  | .ok secret => orGenerate mode env.secretDraw .generateSecret .secretRequired secret

def flagOptions (mode : PeerMode) (store : FlagStore StringVar BoolVar) (c : Credentials) : PeerOptions where
  mode := mode
  rendezvousToken := c.rendezvousToken
  pairingSecret := c.pairingSecret
  brokerURL := c.brokerURL
  ice := ⟨store.strings .stun, store.strings .turn, store.strings .turnUsername, store.strings .turnPassword⟩
  target := store.strings .target
  listen := store.strings .listen
  socks5 := store.bools .socks5

/-- `parsePeerFlags`; the flag it returns says that only the version is wanted, and then the options are not used. -/
def parsePeerFlags (build : Bytes) (env : Environment) (mode : PeerMode) (args : List Bytes) :
    Except PeerFlagsError (PeerOptions × Bool) :=
  let (positional, args) := peel mode args
  match (flagDefaults build mode positional).parse (flagVar mode) args with
  | .error e => .error (.flags e)
  | .ok store =>
    if store.bools .versionOnly then
      .ok (flagOptions mode store ⟨store.strings .rendezvousToken, [], store.strings .brokerURL⟩, true)
    else if mode = .expose ∧ store.bools .socks5 = false ∧ trimSpace (store.strings .target) = [] then
      .error .targetRequired
    else do
      let c ← applyConnection build store.strings
      let token ← resolveToken env mode c.rendezvousToken
      let secret ← resolveSecret env mode c.pairingSecret store.strings
      return (flagOptions mode store ⟨token, secret, c.brokerURL⟩, false)

end Rtc2Tcp.Peer

import Rtc2Tcp.Go.Locator

namespace Rtc2Tcp.Config

open Octets Go

def connectionScheme : Bytes := text "rtc2tcp"

structure ConnectionString where
  rendezvousToken : Bytes
  pairingSecret : Bytes
  brokerURL : Bytes
deriving DecidableEq, Repr

inductive ConnectionError where
  | empty
  | parse (e : URLError)
  | scheme (got : Bytes)
  | missingHost
  | missingUser
  | decodeToken (e : URLError)
  | missingToken
  | missingSecret
  | decodeSecret (e : URLError)
  | tokenRequired
  | secretRequired
  | brokerRequired
  | parseBroker (e : URLError)
  | noHost (brokerURL : Bytes)
deriving DecidableEq, Repr

def isLoopbackHost (host : Bytes) : Bool :=
  toLower (trimSpace host) ∈ [text "localhost", text "127.0.0.1", text "::1", text "[::1]"]

def guessScheme (u : URL) : Bytes := if isLoopbackHost u.hostname then text "http" else text "https"

def readPath (path : Bytes) : Bytes := if path = text "/" then [] else path

/-- The broker URL that `ParseConnectionString` builds. -/
def brokerURL (u : URL) : Bytes := guessScheme u ++ text "://" ++ (u.host ++ readPath u.path)

/-- The end of `ParseConnectionString`, on the user information. -/
def credentials (user : Userinfo) : Except ConnectionError (Bytes × Bytes) :=
  match queryUnescape user.username with
  | .error e => .error (.decodeToken e)
  | .ok token =>
    if token = [] then .error .missingToken
    else
      match user.password with
      | none => .error .missingSecret
      | some rawSecret =>
        if rawSecret = [] then .error .missingSecret
        else
          match queryUnescape rawSecret with
          | .error e => .error (.decodeSecret e)
          | .ok secret => .ok (token, secret)

def parseConnectionString (raw : Bytes) : Except ConnectionError ConnectionString :=
  let raw := trimSpace raw
  if raw = [] then .error .empty
  else
    match URL.parse raw with
    | .error e => .error (.parse e)
    | .ok u =>
      if u.scheme ≠ connectionScheme then .error (.scheme u.scheme)
      else if u.host = [] then .error .missingHost
      else
        match u.user with
        | none => .error .missingUser
        | some user => do
          let (token, secret) ← credentials user
          return ⟨token, secret, brokerURL u⟩

def formatPath (path : Bytes) : Bytes := if path = text "/ws" ∨ path = text "/" then [] else path

/-- What `Format` writes behind the credentials. -/
def address (u : URL) : Bytes := u.host ++ formatPath u.path

def ConnectionString.format (c : ConnectionString) : Except ConnectionError Bytes :=
  if trimSpace c.rendezvousToken = [] then .error .tokenRequired
  else if trimSpace c.pairingSecret = [] then .error .secretRequired
  else if trimSpace c.brokerURL = [] then .error .brokerRequired
  else
    match URL.parse c.brokerURL with
    | .error e => .error (.parseBroker e)
    | .ok u =>
      if u.host = [] then .error (.noHost c.brokerURL)
      else
        let userInfo : Userinfo := ⟨c.rendezvousToken, some c.pairingSecret⟩
        .ok (connectionScheme ++ text "://" ++ (userInfo.string ++ text "@" ++ address u))

def maxTokenLength : Nat := 128

inductive TokenError where
  | required
  | tooLong
  | invisible
deriving DecidableEq, Repr

/-- `rendezvous.ValidateToken`. -/
def validateToken (token : Bytes) : Except TokenError Bytes :=
  let token := trimSpace token
  if token = [] then .error .required
  else if maxTokenLength < token.length then .error .tooLong
  else if (runes token).any fun r => r.code < 0x21 || 0x7e < r.code then .error .invisible
  else .ok token

end Rtc2Tcp.Config

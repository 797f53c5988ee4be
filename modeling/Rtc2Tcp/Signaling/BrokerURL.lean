import Mathlib.Data.List.Infix
import Rtc2Tcp.Go.Locator

namespace Rtc2Tcp.Signaling

open Octets Go

/-- The runes that `strings.EqualFold` takes for the same; the two special letters i are alone. -/
def foldRune (r : Nat) : Nat := if r = 0x130 ∨ r = 0x131 then r else lowerRune (upperRune r)

def equalFold (s t : Bytes) : Bool := (runes s).map (fun r => foldRune r.code) = (runes t).map fun r => foldRune r.code

def isLocalBrokerHost (host : Bytes) : Bool :=
  let host := trimSpace host
  if host = [] then false
  else if equalFold host (text "localhost") then true
  else
    match parseIP host with
    | none => false
    | some ip => isLoopback ip

inductive BrokerURLError where
  | required
  | parse (e : URLError)
  | unsupportedScheme (scheme : Bytes)
  | insecure
deriving DecidableEq, Repr

def websocketScheme (scheme : Bytes) : Option Bytes :=
  if scheme = text "http" then some (text "ws")
  else if scheme = text "https" then some (text "wss")
  else if scheme = text "ws" ∨ scheme = text "wss" then some scheme
  else none

def websocketPath (path : Bytes) : Bytes := if path = [] ∨ path = text "/" then text "/ws" else path

/-- `normalizeBrokerURL` up to the URL that it writes. -/
def normalizeBroker (raw : Bytes) : Except BrokerURLError URL :=
  let raw := trimSpace raw
  if raw = [] then .error .required
  else
    let raw := if text "://" <:+: raw then raw else text "http://" ++ raw
    match URL.parse raw with
    | .error e => .error (.parse e)
    | .ok parsed =>
      match websocketScheme parsed.scheme with
      | none => .error (.unsupportedScheme parsed.scheme)
      | some scheme =>
        let parsed := { parsed with scheme := scheme, path := websocketPath parsed.path }
        if scheme = text "ws" ∧ isLocalBrokerHost parsed.hostname = false then .error .insecure else .ok parsed

def normalizeBrokerURL (raw : Bytes) : Except BrokerURLError Bytes := (normalizeBroker raw).map URL.string

end Rtc2Tcp.Signaling

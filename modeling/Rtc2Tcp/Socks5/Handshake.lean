import Rtc2Tcp.Go.Net

namespace Rtc2Tcp.Socks5

open Octets Go

def version : UInt8 := 0x05

def cmdConnect : UInt8 := 0x01

def authNone : UInt8 := 0x00

def authNoAccept : UInt8 := 0xff

def addrTypeIPv4 : UInt8 := 0x01

def addrTypeFQDN : UInt8 := 0x03

def addrTypeIPv6 : UInt8 := 0x04

def replySuccess : Bytes := [version, 0x00, 0x00, addrTypeIPv4, 0, 0, 0, 0, 0, 0]

inductive HandshakeError where
  | readVersion
  | unsupportedVersion (v : UInt8)
  | readMethods
  | noAcceptableMethod
  | writeMethodSelection
  | readRequest
  | unsupportedCommand (c : UInt8)
  | readIPv4
  | readDomainLength
  | readDomain
  | readIPv6
  | unsupportedAddressType (t : UInt8)
  | readPort
deriving DecidableEq, Repr

/-- `io.ReadFull` into a buffer of `n` bytes, and what is left to read. -/
def readFull (n : Nat) (input : Bytes) (e : HandshakeError) : Except HandshakeError (Block n × Bytes) :=
  if enough : n ≤ input.length then .ok (⟨input.take n, List.length_take_of_le enough⟩, input.drop n) else .error e

def readAddr (input : Bytes) (addrType : UInt8) : Except HandshakeError (Bytes × Bytes) :=
  if addrType = addrTypeIPv4 then do
    let (buf, input) ← readFull 4 input .readIPv4
    return (ipv4String buf, input)
  else if addrType = addrTypeFQDN then do
    let (lenBuf, input) ← readFull 1 input .readDomainLength
    let (domain, input) ← readFull (lenBuf.val.getD 0 0).toNat input .readDomain
    return (domain.val, input)
  else if addrType = addrTypeIPv6 then do
    let (buf, input) ← readFull 16 input .readIPv6
    return (ipv6String buf, input)
  else throw (.unsupportedAddressType addrType)

/-- The part of `Handshake` up to the method selection. -/
def readMethods (input : Bytes) : Except HandshakeError (Bytes × Bytes) := do
  let (header, input) ← readFull 2 input .readVersion
  if header.val.getD 0 0 ≠ version then throw (.unsupportedVersion (header.val.getD 0 0))
  let (methods, input) ← readFull (header.val.getD 1 0).toNat input .readMethods
  return (methods.val, input)

/-- The part of `Handshake` after the method selection. -/
def readRequest (input : Bytes) : Except HandshakeError (Bytes × Bytes) := do
  let (req, input) ← readFull 4 input .readRequest
  if req.val.getD 0 0 ≠ version then throw (.unsupportedVersion (req.val.getD 0 0))
  if req.val.getD 1 0 ≠ cmdConnect then throw (.unsupportedCommand (req.val.getD 1 0))
  let (host, input) ← readAddr input (req.val.getD 3 0)
  let (portBuf, input) ← readFull 2 input .readPort
  let port := (portBuf.val.getD 0 0).toNat * 256 + (portBuf.val.getD 1 0).toNat
  return (joinHostPort host (decimal port), input)

/-- `Handshake` on what the client sends: the target and what is left to read, with what was written to the client. -/
def handshake (input : Bytes) (writable : Bool) : Bytes × Except HandshakeError (Bytes × Bytes) :=
  match readMethods input with
  | .error e => ([], .error e)
  | .ok (methods, rest) =>
    if authNone ∉ methods then (if writable then [version, authNoAccept] else [], .error .noAcceptableMethod)
    else if writable = false then ([], .error .writeMethodSelection)
    else ([version, authNone], readRequest rest)

end Rtc2Tcp.Socks5

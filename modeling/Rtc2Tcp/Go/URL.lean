import Rtc2Tcp.Go.Escape
import Rtc2Tcp.Go.Strings

namespace Rtc2Tcp.Go

open Octets

/-- `netip.Addr`: four or sixteen bytes. -/
structure Addr where
  ip : Bytes
  zone : Bytes
deriving DecidableEq, Repr

/-- The loop of `parseIPv4Fields`: the fields so far, the value of the current one and its number of digits. -/
def ipv4Fields (fields : Bytes) (val digLen : Nat) : Bytes → Option Bytes
  | [] => if fields.length < 3 then none else some (fields ++ [UInt8.ofNat val])
  | c :: s =>
    if isDigit c then
      if digLen = 1 ∧ val = 0 then none
      else if 255 < val * 10 + (c - 0x30).toNat then none
      else ipv4Fields fields (val * 10 + (c - 0x30).toNat) (digLen + 1) s
    else if c = 0x2e then
      if digLen = 0 ∨ s = [] then none
      else if fields.length = 3 then none
      else ipv4Fields (fields ++ [UInt8.ofNat val]) 0 0 s
    else none

/-- The loop of `parseIPv6`, of at most eight turns: the bytes so far, where the ellipsis stands, and the rest. -/
def ipv6Fields : Nat → Bytes → Option Nat → Bytes → Option (Bytes × Option Nat)
  | 0, ip, ellipsis, s => if s = [] then some (ip, ellipsis) else none
  | turns + 1, ip, ellipsis, s =>
    let digits := s.takeWhile isHex
    let rest := s.dropWhile isHex
    if digits = [] ∨ 4 < digits.length then none
    else if rest.head? = some 0x2e then
      if (ellipsis = none ∧ ip.length ≠ 12) ∨ 16 < ip.length + 4 then none
      else (ipv4Fields [] 0 0 s).map fun fields => (ip ++ fields, ellipsis)
    else
      let acc := digits.foldl (fun acc c => acc * 16 + (unhex c).toNat) 0
      let ip := ip ++ [UInt8.ofNat (acc / 256), UInt8.ofNat acc]
      match rest with
      | [] => some (ip, ellipsis)
      | [_] => none
      | colon :: c :: s =>
        if colon ≠ 0x3a then none
        else if c ≠ 0x3a then ipv6Fields turns ip ellipsis (c :: s)
        else if ellipsis ≠ none then none
        else if s = [] then some (ip, some ip.length)
        else ipv6Fields turns ip (some ip.length) s

def expandEllipsis (ip : Bytes) (ellipsis : Option Nat) : Option Bytes :=
  match ellipsis with
  | none => if ip.length < 16 then none else some ip
  | some i => if ip.length < 16 then some (ip.take i ++ List.replicate (16 - ip.length) 0 ++ ip.drop i) else none

def parseIPv6 (s : Bytes) : Option Addr :=
  let zone := (s.dropWhile (· ≠ 0x25)).drop 1
  if 0x25 ∈ s ∧ zone = [] then none
  else
    let address := s.takeWhile (· ≠ 0x25)
    let leading := text "::" <+: address
    if address = text "::" then some ⟨List.replicate 16 0, zone⟩
    else do
      let (ip, ellipsis) ← if leading then ipv6Fields 8 [] (some 0) (address.drop 2) else ipv6Fields 8 [] none address
      let ip ← expandEllipsis ip ellipsis
      return ⟨ip, zone⟩

/-- `netip.ParseAddr`: the first separator decides what the text is. -/
def parseAddr (s : Bytes) : Option Addr :=
  match s.find? fun c => c = 0x2e || c = 0x3a || c = 0x25 with
  | some 0x2e => (ipv4Fields [] 0 0 s).map fun ip => ⟨ip, []⟩
  | some 0x3a => parseIPv6 s
  | _ => none

def v4InV6Prefix : Bytes := List.replicate 10 0 ++ [0xff, 0xff]

/-- `net.ParseIP`, always to sixteen bytes. -/
def parseIP (s : Bytes) : Option Bytes :=
  match parseAddr s with
  | none => none
  | some addr => if addr.zone ≠ [] then none else if addr.ip.length = 4 then some (v4InV6Prefix ++ addr.ip) else some addr.ip

def isLoopback (ip : Bytes) : Bool :=
  if ip.take 12 = v4InV6Prefix then ip[12]? = some 127 else ip = List.replicate 15 0 ++ [1]

structure Userinfo where
  username : Bytes
  password : Option Bytes
deriving DecidableEq, Repr

/-- `Userinfo.String`, which writes nothing for an empty name with an empty password. -/
def Userinfo.string (user : Userinfo) : Bytes :=
  if user.username ≠ [] ∨ user.password.getD [] ≠ [] then
    match user.password with
    | none => escape user.username .userPassword
    | some password => escape user.username .userPassword ++ text ":" ++ escape password .userPassword
  else []

structure URL where
  scheme : Bytes := []
  opaquePart : Bytes := []
  user : Option Userinfo := none
  host : Bytes := []
  path : Bytes := []
  rawPath : Bytes := []
  omitHost : Bool := false
  forceQuery : Bool := false
  rawQuery : Bytes := []
  fragment : Bytes := []
  rawFragment : Bytes := []
deriving DecidableEq, Repr

def cut (s : Bytes) (sep : UInt8) : Bytes × Bytes := (s.takeWhile (· ≠ sep), (s.dropWhile (· ≠ sep)).drop 1)

def splitBefore (sep : Bytes) : Bytes → Option (Bytes × Bytes)
  | [] => none
  | c :: s => if sep <+: c :: s then some ([], c :: s) else (splitBefore sep s).map fun parts => (c :: parts.1, parts.2)

def containsCTLByte (s : Bytes) : Bool := s.any fun c => c < 0x20 || c = 0x7f

def isSchemeByte (c : UInt8) : Bool := isLetter c || isDigit c || c = 0x2b || c = 0x2d || c = 0x2e

def getScheme (rawURL : Bytes) : Except URLError (Bytes × Bytes) :=
  match rawURL.takeWhile isSchemeByte, rawURL.dropWhile isSchemeByte with
  | [], 0x3a :: _ => .error .missingScheme
  | c :: scheme, 0x3a :: rest => if isLetter c then .ok (c :: scheme, rest) else .ok ([], rawURL)
  | _, _ => .ok ([], rawURL)

def validOptionalPort : Bytes → Bool
  | [] => true
  | c :: digits => c = 0x3a && digits.all isDigit

def validUserinfo (s : Bytes) : Bool := s.all fun c => isLetter c || isDigit c || c ∈ text "-._:~!$&'()*+,;=%@"

/-- The host between brackets; a zone starts at `%25`. -/
def unescapeHostname (hostname : Bytes) : Except URLError Bytes :=
  match splitBefore (text "%25") hostname with
  | none => unescape .host hostname
  | some (hostPart, zonePart) => do
    let hostPart ← unescape .host hostPart
    let zonePart ← unescape .zone zonePart
    return hostPart ++ zonePart

/-- `parseHost`. Brackets hold an IPv6 address; a colon outside of them starts the port. -/
def parseHost (host : Bytes) : Except URLError Bytes :=
  match lastIndexByte host 0x5b with
  | some openBracket =>
    match lastIndexByte host 0x5d with
    | none => .error .missingBracket
    | some closeBracket =>
      let colonPort := host.drop (closeBracket + 1)
      if validOptionalPort colonPort then do
        let port ← unescape .host colonPort
        let hostname ← unescapeHostname ((host.take closeBracket).drop (openBracket + 1))
        match parseAddr hostname with
        | none => .error .invalidAddress
        | some addr =>
          if addr.ip.length = 4 then .error .invalidAddress else .ok (0x5b :: hostname ++ 0x5d :: port)
      else .error (.invalidPort colonPort)
  | none =>
    let colonPort := host.dropWhile (· ≠ 0x3a)
    if validOptionalPort colonPort then unescape .host host else .error (.invalidPort colonPort)

def parseUserinfo (userinfo : Bytes) : Except URLError Userinfo :=
  if !validUserinfo userinfo then .error .invalidUserinfo
  else if 0x3a ∈ userinfo then do
    let username ← unescape .userPassword (cut userinfo 0x3a).1
    let password ← unescape .userPassword (cut userinfo 0x3a).2
    return ⟨username, some password⟩
  else do
    let username ← unescape .userPassword userinfo
    return ⟨username, none⟩

def parseAuthority (authority : Bytes) : Except URLError (Option Userinfo × Bytes) :=
  match lastIndexByte authority 0x40 with
  | none => do
    let host ← parseHost authority
    return (none, host)
  | some i => do
    let host ← parseHost (authority.drop (i + 1))
    let user ← parseUserinfo (authority.take i)
    return (some user, host)

namespace URL

def setPath (u : URL) (p : Bytes) : Except URLError URL := do
  let path ← unescape .path p
  return { u with path := path, rawPath := if p = escape path .path then [] else p }

def setFragment (u : URL) (f : Bytes) : Except URLError URL := do
  let fragment ← unescape .fragment f
  return { u with fragment := fragment, rawFragment := if f = escape fragment .fragment then [] else f }

def parseRest (u : URL) (rest : Bytes) : Except URLError URL :=
  if rest.head? ≠ some 0x2f ∧ u.scheme ≠ [] then .ok { u with opaquePart := rest }
  else if rest.head? ≠ some 0x2f ∧ 0x3a ∈ (cut rest 0x2f).1 then .error .colonInSegment
  else if (u.scheme ≠ [] ∨ ¬text "///" <+: rest) ∧ text "//" <+: rest then do
    let (user, host) ← parseAuthority ((rest.drop 2).takeWhile (· ≠ 0x2f))
    setPath { u with user := user, host := host } ((rest.drop 2).dropWhile (· ≠ 0x2f))
  else setPath { u with omitHost := u.scheme ≠ [] ∧ rest.head? = some 0x2f } rest

def parseRaw (rawURL : Bytes) : Except URLError URL :=
  if containsCTLByte rawURL then .error .controlCharacter
  else if rawURL = text "*" then .ok { path := text "*" }
  else do
    let (scheme, rest) ← getScheme rawURL
    if rest.getLast? = some 0x3f ∧ rest.count 0x3f = 1 then
      parseRest { scheme := toLower scheme, forceQuery := true } rest.dropLast
    else parseRest { scheme := toLower scheme, rawQuery := (cut rest 0x3f).2 } (cut rest 0x3f).1

def parse (rawURL : Bytes) : Except URLError URL := do
  let url ← parseRaw (cut rawURL 0x23).1
  if (cut rawURL 0x23).2 = [] then return url else setFragment url (cut rawURL 0x23).2

/-- `splitHostPort`, the host only. -/
def hostname (u : URL) : Bytes :=
  let host := match lastIndexByte u.host 0x3a with
    | none => u.host
    | some colon => if validOptionalPort (u.host.drop colon) then u.host.take colon else u.host
  if host.head? = some 0x5b ∧ host.getLast? = some 0x5d then (host.drop 1).dropLast else host

def validEncoded (s : Bytes) (mode : Encoding) : Bool :=
  s.all fun c => c ∈ text "!$&'()*+,;=:@[]%" || !shouldEscape c mode

def escapedPath (u : URL) : Bytes :=
  if u.rawPath ≠ [] ∧ validEncoded u.rawPath .path ∧ unescape .path u.rawPath = .ok u.path then u.rawPath
  else if u.path = text "*" then text "*"
  else escape u.path .path

def escapedFragment (u : URL) : Bytes :=
  if u.rawFragment ≠ [] ∧ validEncoded u.rawFragment .fragment ∧ unescape .fragment u.rawFragment = .ok u.fragment then
    u.rawFragment
  else escape u.fragment .fragment

def authorityString (u : URL) : Bytes :=
  if (u.scheme = [] ∧ u.host = [] ∧ u.user = none) ∨ (u.omitHost = true ∧ u.host = [] ∧ u.user = none) then []
  else (if u.host ≠ [] ∨ u.path ≠ [] ∨ u.user ≠ none then text "//" else []) ++
    (match u.user with
      | none => []
      | some user => user.string ++ text "@") ++ escape u.host .host

def string (u : URL) : Bytes :=
  let front := if u.scheme = [] then [] else u.scheme ++ text ":"
  let body :=
    if u.opaquePart ≠ [] then front ++ u.opaquePart
    else
      let front := front ++ u.authorityString
      let path := u.escapedPath
      let front := if path ≠ [] ∧ path.head? ≠ some 0x2f ∧ u.host ≠ [] then front ++ text "/" else front
      let front := if front = [] ∧ 0x3a ∈ (cut path 0x2f).1 then text "./" else front
      front ++ path
  body ++ (if u.forceQuery ∨ u.rawQuery ≠ [] then text "?" ++ u.rawQuery else []) ++
    (if u.fragment ≠ [] then text "#" ++ u.escapedFragment else [])

end URL

end Rtc2Tcp.Go

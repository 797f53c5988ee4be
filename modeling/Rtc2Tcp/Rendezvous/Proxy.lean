import Rtc2Tcp.Go.IP

namespace Rtc2Tcp.Rendezvous

open Octets Go

structure TrustedNet where
  ipNet : Option IPNet
deriving DecidableEq, Repr

/-- `trustedNet.contains`; no address is `nil`. -/
def TrustedNet.contains (t : TrustedNet) (ip : Bytes) : Bool :=
  match t.ipNet with
  | none => false
  | some ipNet => if ip = [] then false else ipNet.contains ip

inductive ProxyError where
  | cidr (entry : Bytes)
  | address (entry : Bytes)
deriving DecidableEq, Repr

/-- One turn of the loop of `ParseTrustedProxies`, for an entry that is not blank. -/
def parseTrustedEntry (entry : Bytes) : Except ProxyError TrustedNet :=
  if 0x2f ∈ entry then
    match parseCIDR entry with
    | none => .error (.cidr entry)
    | some ipNet => .ok ⟨some ipNet⟩
  else
    match parseIP entry with
    | none => .error (.address entry)
    | some ip =>
      let mask := if to4 ip = none then 128 else 32
      match parseCIDR (ipString ip ++ text "/" ++ decimal mask) with
      | none => .error (.cidr entry)
      | some ipNet => .ok ⟨some ipNet⟩

def parseTrustedEntries : List Bytes → Except ProxyError (List TrustedNet)
  | [] => .ok []
  | raw :: fields =>
    let entry := trimSpace raw
    if entry = [] then parseTrustedEntries fields
    else do
      let net ← parseTrustedEntry entry
      let nets ← parseTrustedEntries fields
      return net :: nets

def parseTrustedProxies (spec : Bytes) : Except ProxyError (List TrustedNet) :=
  let spec := trimSpace spec
  if spec = [] then .ok []
  else
    let fields := (spec.splitOnP fun c => c = 0x2c || c = 0x20 || c = 0x09 || c = 0x0a).filter (· ≠ [])
    parseTrustedEntries fields

def isTrusted (ip : Bytes) (trusted : List TrustedNet) : Bool := trusted.any fun t => t.contains ip

def isTokenByte (c : UInt8) : Bool := isLetter c || isDigit c || c ∈ text "!#$%&'*+-.^_\x60|~"

def capitalise (upper : Bool) : Bytes → Bytes
  | [] => []
  | c :: s =>
    let c := if upper && 0x61 ≤ c && c ≤ 0x7a then c - 0x20 else if !upper && 0x41 ≤ c && c ≤ 0x5a then c + 0x20 else c
    c :: capitalise (c = 0x2d) s

def canonicalMIMEHeaderKey (s : Bytes) : Bytes := if s.all isTokenByte then capitalise true s else s

/-- What `clientIP` reads of a request; the header maps canonical names to their lines. -/
structure HTTPRequest where
  remoteAddr : Bytes
  header : Bytes → List Bytes

def HTTPRequest.values (r : HTTPRequest) (key : Bytes) : List Bytes := r.header (canonicalMIMEHeaderKey key)

def HTTPRequest.get (r : HTTPRequest) (key : Bytes) : Bytes := (r.values key).headD []

def asciiLower (c : UInt8) : UInt8 := if 0x41 ≤ c ∧ c ≤ 0x5a then c + 0x20 else c

def xForwardedFor : Bytes := text "X-Forwarded-For"

/-- `strings.EqualFold(s, "X-Forwarded-For")`: none of its letters has a case outside ASCII. -/
def isXForwardedFor (s : Bytes) : Bool := s.map asciiLower = xForwardedFor.map asciiLower

def remoteIP (remoteAddr : Bytes) : Bytes :=
  match splitHostPort (trimSpace remoteAddr) with
  | .ok (host, _) => if host = [] then trimSpace remoteAddr else host
  | .error _ => trimSpace remoteAddr

/-- The loop of `clientIP` over the entries, from the last one on. -/
def lastUntrusted (trusted : List TrustedNet) (direct : Bytes) : List Bytes → Bytes
  | [] => direct
  | part :: parts =>
    let candidate := trimSpace part
    if candidate = [] then lastUntrusted trusted direct parts
    else
      match parseIP candidate with
      | none => lastUntrusted trusted direct parts
      | some ip => if !isTrusted ip trusted then ipString ip else lastUntrusted trusted direct parts

def clientIP (r : HTTPRequest) (trusted : List TrustedNet) (header : Bytes) : Bytes :=
  let direct := remoteIP r.remoteAddr
  if trusted = [] ∨ header = [] then direct
  else
    match parseIP direct with
    | none => direct
    | some directIP =>
      if !isTrusted directIP trusted then direct
      else if isXForwardedFor header then
        let values := r.values header
        if values = [] then direct
        else lastUntrusted trusted direct (([0x2c].intercalate values).splitOn 0x2c).reverse
      else
        let value := trimSpace (r.get header)
        if value = [] then direct
        else
          match parseIP value with
          | some ip => ipString ip
          | none => direct

def sampleRequest (remoteAddr : String) (key : String) (lines : List String) : HTTPRequest :=
  ⟨text remoteAddr, fun k => if k = text key then lines.map text else []⟩

/-- The direct peer is a trusted proxy. -/
def DirectTrusted (trusted : List TrustedNet) (remoteAddr : Bytes) : Prop :=
  ∃ ip, parseIP (remoteIP remoteAddr) = some ip ∧ isTrusted ip trusted = true

def HTTPRequest.entries (r : HTTPRequest) (header : Bytes) : List Bytes :=
  ([0x2c].intercalate (r.values header)).splitOn 0x2c

def vouched (trusted : List TrustedNet) (entry : Bytes) : Bool :=
  trimSpace entry = [] || (parseIP (trimSpace entry)).any (isTrusted · trusted)

/-- The entries from the last one on that is not vouched for. -/
def lastHop (trusted : List TrustedNet) : List Bytes → Option (Bytes × List Bytes)
  | [] => none
  | entry :: entries =>
    match lastHop trusted entries with
    | some hop => some hop
    | none => if vouched trusted entry then none else some (entry, entries)

section Walk

variable {trusted : List TrustedNet} {direct : Bytes}

theorem lastUntrusted_append (xs ys : List Bytes) :
    lastUntrusted trusted direct (xs ++ ys) = lastUntrusted trusted (lastUntrusted trusted direct ys) xs := by
  induction xs with
  | nil => rfl
  | cons x xs ih =>
    simp only [List.cons_append, lastUntrusted]
    split
    · exact ih
    · split
      · exact ih
      · split
        · rfl
        · exact ih

theorem lastUntrusted_vouched (xs : List Bytes) (all : ∀ x ∈ xs, vouched trusted x = true) :
    lastUntrusted trusted direct xs = direct := by
  induction xs with
  | nil => rfl
  | cons x xs ih =>
    have rest := ih fun y member => all y (List.mem_cons_of_mem _ member)
    have first := all x List.mem_cons_self
    simp only [vouched, Bool.or_eq_true, decide_eq_true_eq] at first
    simp only [lastUntrusted]
    split
    · exact rest
    · rename_i visible
      split
      · exact rest
      · rename_i ip parsed
        have inside : isTrusted ip trusted = true := by simpa [visible, parsed] using first
        simpa [inside] using rest

theorem lastHop_none {entries : List Bytes} (none : lastHop trusted entries = none) :
    ∀ x ∈ entries, vouched trusted x = true := by
  induction entries with
  | nil => simp
  | cons entry entries ih =>
    rw [lastHop] at none
    split at none
    · cases none
    · rename_i rest
      split at none
      · rename_i first
        intro x member
        rcases List.mem_cons.mp member with rfl | member
        · exact first
        · exact ih rest x member
      · cases none

theorem lastHop_some {entries right : List Bytes} {hop : Bytes} (found : lastHop trusted entries = some (hop, right)) :
    vouched trusted hop = false ∧ (∀ x ∈ right, vouched trusted x = true) ∧ ∃ left, entries = left ++ hop :: right := by
  induction entries with
  | nil => cases found
  | cons entry entries ih =>
    rw [lastHop] at found
    split at found
    · rename_i rest
      cases found
      obtain ⟨unvouched, after, left, rfl⟩ := ih rest
      exact ⟨unvouched, after, entry :: left, rfl⟩
    · rename_i rest
      split at found
      · cases found
      · rename_i unvouched
        cases found
        exact ⟨by simpa using unvouched, lastHop_none rest, [], rfl⟩

theorem lastHop_append {right : List Bytes} {hop : Bytes} (left : List Bytes) (unvouched : vouched trusted hop = false)
    (after : ∀ x ∈ right, vouched trusted x = true) :
    lastHop trusted (left ++ hop :: right) = some (hop, right) := by
  have nothing : lastHop trusted right = none := by
    induction right with
    | nil => rfl
    | cons x right ih =>
      rw [lastHop, ih fun y member => after y (List.mem_cons_of_mem _ member)]
      simp [after x List.mem_cons_self]
  induction left with
  | nil =>
    rw [List.nil_append, lastHop, nothing]
    simp [unvouched]
  | cons x left ih => rw [List.cons_append, lastHop, ih]

theorem unvouched_cases {hop : Bytes} (unvouched : vouched trusted hop = false) :
    trimSpace hop ≠ [] ∧ ∀ ip, parseIP (trimSpace hop) = some ip → isTrusted ip trusted = false := by
  simp only [vouched, Bool.or_eq_false_iff, decide_eq_false_iff_not] at unvouched
  refine ⟨unvouched.1, fun ip parsed => ?_⟩
  simpa [parsed] using unvouched.2

theorem lastUntrusted_hop (left right : List Bytes) (hop : Bytes) (unvouched : vouched trusted hop = false)
    (after : ∀ x ∈ right, vouched trusted x = true) :
    lastUntrusted trusted direct (left ++ hop :: right).reverse =
      match parseIP (trimSpace hop) with
      | some ip => ipString ip
      | none => lastUntrusted trusted direct left.reverse := by
  have behind : ∀ x ∈ right.reverse, vouched trusted x = true := fun x member => after x (List.mem_reverse.mp member)
  obtain ⟨visible, outside⟩ := unvouched_cases unvouched
  rw [List.reverse_append, List.reverse_cons, List.append_assoc, lastUntrusted_append, lastUntrusted_vouched _ behind,
    List.singleton_append, lastUntrusted]
  simp only [if_neg visible]
  cases parsed : parseIP (trimSpace hop) with
  | none => rfl
  | some ip => simp [outside ip parsed]

end Walk

theorem clientIP_untrusted (r : HTTPRequest) (trusted : List TrustedNet) (header : Bytes)
    (direct : ¬DirectTrusted trusted r.remoteAddr) : clientIP r trusted header = remoteIP r.remoteAddr := by
  unfold clientIP
  simp only
  split
  · rfl
  · split
    · rfl
    · rename_i ip parsed
      have outside : isTrusted ip trusted = false := by
        by_contra inside
        exact direct ⟨ip, parsed, by simpa using inside⟩
      simp [outside]

theorem clientIP_forwarded (r : HTTPRequest) (trusted : List TrustedNet) (header : Bytes)
    (direct : DirectTrusted trusted r.remoteAddr) (named : isXForwardedFor header = true) :
    clientIP r trusted header =
      lastUntrusted trusted (remoteIP r.remoteAddr) (r.entries header).reverse := by
  obtain ⟨ip, parsed, inside⟩ := direct
  have nets : trusted ≠ [] := by
    rintro rfl
    cases inside
  have name : header ≠ [] := by
    rintro rfl
    revert named
    decide
  unfold clientIP HTTPRequest.entries
  simp only [nets, name, or_self, if_false, parsed, inside, named, Bool.not_true, Bool.false_eq_true, if_true]
  split
  · rename_i none
    rw [none]
    have blank : trimSpace [] = [] := rfl
    simp [lastUntrusted, blank]
  · rfl

example : (parseTrustedProxies (text "10.0.0.0/8, ::1")).map (fun trusted =>
    clientIP (sampleRequest "10.0.0.2:44444" "X-Forwarded-For" ["198.51.100.1, 10.0.0.9", "10.0.0.2"]) trusted
      (text "x-forwarded-for")) = .ok (text "198.51.100.1") := by
  decide +kernel

def HTTPRequest.forwarding (r : HTTPRequest) (entries : List Bytes) : HTTPRequest :=
  { r with header := fun _ => [[0x2c].intercalate entries] }

theorem entries_forwarding (r : HTTPRequest) (entries : List Bytes) (header : Bytes) (some_ : entries ≠ [])
    (plain : ∀ entry ∈ entries, 0x2c ∉ entry) : (r.forwarding entries).entries header = entries := by
  have line : [0x2c].intercalate [[0x2c].intercalate entries] = [(0x2c : UInt8)].intercalate entries := by
    simp [List.intercalate]
  rw [HTTPRequest.entries, HTTPRequest.values, HTTPRequest.forwarding, line, List.splitOn_intercalate _ plain some_]

theorem not_mem_of_mem_splitOn (sep : UInt8) (s entry : Bytes) (member : entry ∈ s.splitOn sep) : sep ∉ entry := by
  induction s generalizing entry with
  | nil =>
    rw [List.splitOn_nil, List.mem_singleton] at member
    simp [member]
  | cons c s ih =>
    rw [List.splitOn_cons_eq_if_modifyHead] at member
    split at member
    · rcases List.mem_cons.mp member with rfl | member
      · simp
      · exact ih entry member
    · rename_i other
      obtain ⟨first, rest, split⟩ := List.exists_cons_of_ne_nil (List.splitOn_ne_nil sep s)
      rw [split] at member ih
      rcases List.mem_cons.mp member with rfl | member
      · have apart : c ≠ sep := by simpa using other
        simpa [apart.symm] using ih first List.mem_cons_self
      · exact ih entry (List.mem_cons_of_mem _ member)

theorem ipString_entry {s ip : Bytes} (parsed : parseIP s = some ip) :
    trimSpace (ipString ip) = ipString ip ∧ 0x2c ∉ ipString ip := by
  have bytes := ipString_bytes parsed
  have visible : ∀ c : UInt8, isHex c = true ∨ c = 0x3a ∨ c = 0x2e → c < 0x80 ∧ isSpace c.toNat = false :=
    forall_octet (by decide +kernel)
  refine ⟨trimSpace_ascii _ fun c member => visible c (bytes c member), fun member => ?_⟩
  have comma := bytes _ member
  revert comma
  decide

/-- The trusted proxies are all there is. -/
def TrustsAll (trusted : List TrustedNet) : Prop := ∀ s ip, parseIP s = some ip → isTrusted ip trusted = true

/-- Behind a proxy that is not trusted no header counts, and behind a trusted one no entry left of the last hop that
    is not vouched for. -/
def SpoofResistant (trusted : List TrustedNet) (header : Bytes) (r : HTTPRequest) : Prop :=
  (¬DirectTrusted trusted r.remoteAddr → ∀ r' : HTTPRequest, r'.remoteAddr = r.remoteAddr →
    clientIP r' trusted header = clientIP r trusted header) ∧
  (DirectTrusted trusted r.remoteAddr → isXForwardedFor header = true → ∀ r' : HTTPRequest,
    r'.remoteAddr = r.remoteAddr → lastHop trusted (r'.entries header) = lastHop trusted (r.entries header) →
      clientIP r' trusted header = clientIP r trusted header)

section Resistance

variable {trusted : List TrustedNet} {header : Bytes} {r r' : HTTPRequest}

theorem clientIP_decided (direct : DirectTrusted trusted r.remoteAddr) (named : isXForwardedFor header = true)
    (peer : r'.remoteAddr = r.remoteAddr)
    (same : lastHop trusted (r'.entries header) = lastHop trusted (r.entries header))
    (decided : (∀ hop right, lastHop trusted (r.entries header) = some (hop, right) →
      (parseIP (trimSpace hop)).isSome = true) ∨ TrustsAll trusted) :
    clientIP r' trusted header = clientIP r trusted header := by
  rw [clientIP_forwarded r' trusted header (by rwa [peer]) named, clientIP_forwarded r trusted header direct named, peer]
  cases found : lastHop trusted (r.entries header) with
  | none =>
    rw [found] at same
    rw [lastUntrusted_vouched _ fun x member => lastHop_none same x (List.mem_reverse.mp member),
      lastUntrusted_vouched _ fun x member => lastHop_none found x (List.mem_reverse.mp member)]
  | some hop =>
    obtain ⟨hop, right⟩ := hop
    rw [found] at same
    obtain ⟨unvouched, after, left, split⟩ := lastHop_some found
    obtain ⟨_, _, left', split'⟩ := lastHop_some same
    rw [split, split', lastUntrusted_hop left right hop unvouched after,
      lastUntrusted_hop left' right hop unvouched after]
    rcases decided with address | all
    · obtain ⟨ip, parsed⟩ := Option.isSome_iff_exists.mp (address hop right found)
      rw [parsed]
    · have nowhere : ∀ parts, lastUntrusted trusted (remoteIP r.remoteAddr) parts = remoteIP r.remoteAddr := by
        intro parts
        induction parts with
        | nil => rfl
        | cons part parts ih =>
          simp only [lastUntrusted]
          split
          · exact ih
          · split
            · exact ih
            · rename_i ip parsed
              simpa [all _ ip parsed] using ih
      rw [nowhere, nowhere]

theorem clientIP_forged (direct : DirectTrusted trusted r.remoteAddr) (named : isXForwardedFor header = true)
    {hop : Bytes} {right : List Bytes} (found : lastHop trusted (r.entries header) = some (hop, right))
    (garbled : parseIP (trimSpace hop) = none) (left : List Bytes) (plain : ∀ entry ∈ left, 0x2c ∉ entry) :
    lastHop trusted ((r.forwarding (left ++ hop :: right)).entries header) = lastHop trusted (r.entries header) ∧
    clientIP (r.forwarding (left ++ hop :: right)) trusted header =
      lastUntrusted trusted (remoteIP r.remoteAddr) left.reverse := by
  obtain ⟨unvouched, after, front, split⟩ := lastHop_some found
  have entries : (r.forwarding (left ++ hop :: right)).entries header = left ++ hop :: right := by
    refine entries_forwarding r _ header (by simp) fun entry member => ?_
    rcases List.mem_append.mp member with inLeft | inRight
    · exact plain entry inLeft
    · have inside : entry ∈ r.entries header := by
        rw [split]
        exact List.mem_append_right _ inRight
      exact not_mem_of_mem_splitOn 0x2c _ entry inside
  rw [clientIP_forwarded (r.forwarding (left ++ hop :: right)) trusted header direct named, entries,
    lastHop_append left unvouched after, found, lastUntrusted_hop left right hop unvouched after, garbled]
  exact ⟨rfl, rfl⟩

end Resistance

theorem spoofResistant_iff (trusted : List TrustedNet) (header : Bytes) (r : HTTPRequest) :
    SpoofResistant trusted header r ↔
      (DirectTrusted trusted r.remoteAddr → isXForwardedFor header = true →
        (∀ hop right, lastHop trusted (r.entries header) = some (hop, right) →
          (parseIP (trimSpace hop)).isSome = true) ∨ TrustsAll trusted) := by
  constructor
  · rintro ⟨_, resistant⟩ direct named
    by_contra exposed
    simp only [TrustsAll, not_or, not_forall, Bool.not_eq_true, Option.isSome_eq_false_iff, Option.isNone_iff_eq_none]
      at exposed
    obtain ⟨⟨hop, right, found, garbled⟩, s, ip, parsed, outside⟩ := exposed
    obtain ⟨trim, comma⟩ := ipString_entry parsed
    -- The same last hop after nothing, and after the untrusted address.
    have bare := clientIP_forged direct named found garbled [] (by simp)
    have forged := clientIP_forged direct named found garbled [ipString ip] (by simpa using comma)
    have first := resistant direct named (r.forwarding ([] ++ hop :: right)) rfl bare.1
    have second := resistant direct named (r.forwarding ([ipString ip] ++ hop :: right)) rfl forged.1
    have same : lastUntrusted trusted (remoteIP r.remoteAddr) [ipString ip] = remoteIP r.remoteAddr := by
      rw [bare.2] at first
      rw [forged.2] at second
      exact second.trans first.symm
    have picked : lastUntrusted trusted (remoteIP r.remoteAddr) [ipString ip] = ipString ip := by
      have again := parseIP_ipString parsed
      have visible : ipString ip ≠ [] := by
        intro empty
        rw [empty] at again
        cases again
      simp [lastUntrusted, trim, visible, again, outside]
    obtain ⟨peer, direct, inside⟩ := direct
    rw [← same, picked, parseIP_ipString parsed] at direct
    cases direct
    rw [outside] at inside
    cases inside
  · intro decided
    refine ⟨fun untrusted r' peer => ?_, fun direct named r' peer same =>
      clientIP_decided direct named peer same (decided direct named)⟩
    rw [clientIP_untrusted r trusted header untrusted, clientIP_untrusted r' trusted header (by rwa [peer]), peer]

def trustedTen : List TrustedNet := [⟨some ⟨[10, 0, 0, 0], [255, 0, 0, 0]⟩⟩]

/-- The trusted proxy appends the address it saw with a port, and an earlier entry decides. -/
theorem port_entry_spoofed : ¬SpoofResistant trustedTen xForwardedFor
    (sampleRequest "10.0.0.2:44444" "X-Forwarded-For" ["198.51.100.7, 203.0.113.5:4711"]) := by
  intro resistant
  have direct : DirectTrusted trustedTen (text "10.0.0.2:44444") :=
    ⟨v4InV6Prefix ++ [10, 0, 0, 2], by decide +kernel, by decide +kernel⟩
  have same := resistant.2 direct (by decide +kernel)
    (sampleRequest "10.0.0.2:44444" "X-Forwarded-For" ["192.0.2.1, 203.0.113.5:4711"]) rfl (by decide +kernel)
  revert same
  decide +kernel

end Rtc2Tcp.Rendezvous

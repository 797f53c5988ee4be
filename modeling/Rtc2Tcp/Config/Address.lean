import Rtc2Tcp.Go.IP

namespace Rtc2Tcp.Config

open Octets Go

inductive AddressRole where
  | target
  | listen
deriving DecidableEq, Repr

inductive AddressError where
  | empty
  | parse (addr : Bytes) (e : AddrError)
  | invalidPort (port : Bytes)
  | hostEmpty
  | unspecified (addr : Bytes)
  | multicast (addr : Bytes)
  | notLiteral (addr : Bytes)
deriving DecidableEq, Repr

def splitSign : Bytes → Bool × Bytes
  | 0x2d :: digits => (true, digits)
  | 0x2b :: digits => (false, digits)
  | digits => (false, digits)

/-- `strconv.Atoi`, on 64 bits. -/
def atoi (s : Bytes) : Option Int :=
  let (negative, digits) := splitSign s
  if digits = [] ∨ ¬digits.all isDigit then none
  else
    let n : Nat := digits.foldl (fun acc c => acc * 10 + (c - 0x30).toNat) 0
    if negative then if 2 ^ 63 < n then none else some (-n)
    else if 2 ^ 63 ≤ n then none else some n

def isUnspecified (ip : Bytes) : Bool := ip = v4InV6Prefix ++ List.replicate 4 0 || ip = List.replicate 16 0

def isMulticast (ip : Bytes) : Bool :=
  match to4 ip with
  | some ip4 => ip4.headD 0 &&& 0xf0 == 0xe0
  | none => ip.headD 0 == 0xff

def validateAddress (addr : Bytes) (role : AddressRole) : Except AddressError Bytes :=
  let addr := trimSpace addr
  if addr = [] then .error .empty
  else
    match splitHostPort addr with
    | .error e => .error (.parse addr e)
    | .ok (host, port) =>
      match atoi port with
      | none => .error (.invalidPort port)
      | some n =>
        if n ≤ 0 ∨ 65535 < n then .error (.invalidPort port)
        else if host = [] then .error .hostEmpty
        else
          match parseIP host with
          | some ip =>
            if isUnspecified ip then .error (.unspecified addr)
            else if isMulticast ip then .error (.multicast addr)
            else .ok (joinHostPort (ipString ip) port)
          | none => if role = .listen then .error (.notLiteral addr) else .ok addr

def as16 (addr : Addr) : Bytes := if addr.ip.length = 4 then v4InV6Prefix ++ addr.ip else addr.ip

/-- A host that the package `net` dials as an IP address, although it is an unspecified or a multicast one. -/
def Footgun (host : Bytes) : Prop :=
  ∃ addr, parseAddr host = some addr ∧ (isUnspecified (as16 addr) = true ∨ isMulticast (as16 addr) = true)

structure Validated (a : Bytes) (role : AddressRole) : Prop where
  parts : ∃ host port n, splitHostPort a = .ok (host, port) ∧ host ≠ [] ∧ atoi port = some n ∧ 1 ≤ n ∧ n ≤ 65535 ∧
    ¬Footgun host ∧ (role = .listen → ∃ addr, parseAddr host = some addr)
  again : validateAddress a role = .ok a

/-- The address names, with a zone, an unspecified or a multicast address. -/
def ZonedFootgun (addr : Bytes) : Prop :=
  ∃ host port literal, splitHostPort (trimSpace addr) = .ok (host, port) ∧ parseAddr host = some literal ∧
    literal.zone ≠ [] ∧ (isUnspecified (as16 literal) = true ∨ isMulticast (as16 literal) = true)

theorem atoi_bytes {s : Bytes} {n : Int} (read : atoi s = some n) (b : UInt8) (member : b ∈ s) :
    isDigit b = true ∨ b = 0x2b ∨ b = 0x2d := by
  have signed : ∀ b ∈ s, b = 0x2b ∨ b = 0x2d ∨ b ∈ (splitSign s).2 := by
    intro b member
    unfold splitSign
    split
    · exact (List.mem_cons.mp member).elim (fun sign => .inr (.inl sign)) fun digit => .inr (.inr digit)
    · exact (List.mem_cons.mp member).elim .inl fun digit => .inr (.inr digit)
    · exact .inr (.inr member)
  unfold atoi at read
  dsimp only at read
  split at read
  · cases read
  · rename_i decimal
    rw [not_or, not_not] at decimal
    rcases signed b member with plus | minus | digit
    · exact .inr (.inl plus)
    · exact .inr (.inr minus)
    · exact .inl (List.all_eq_true.mp decimal.2 b digit)

/-- Text of digits, signs and separators: what `ValidateAddress` writes consists of nothing else. -/
def AddressByte (b : UInt8) : Prop :=
  isHex b = true ∨ b = 0x2b ∨ b = 0x2d ∨ b = 0x2e ∨ b = 0x3a ∨ b = 0x5b ∨ b = 0x5d

instance (b : UInt8) : Decidable (AddressByte b) := inferInstanceAs (Decidable (_ ∨ _))

theorem AddressByte.visible {b : UInt8} (address : AddressByte b) : b < 0x80 ∧ isSpace b.toNat = false := by
  have all : ∀ b : UInt8, AddressByte b → b < 0x80 ∧ isSpace b.toNat = false := forall_octet (by decide +kernel)
  exact all b address

theorem port_plain {port : Bytes} {n : Int} (read : atoi port = some n) (b : UInt8) (member : b ∈ port) :
    ¬IsDelimiter b ∧ AddressByte b := by
  have all : ∀ b : UInt8, isDigit b = true ∨ b = 0x2b ∨ b = 0x2d → (¬(b = 0x3a ∨ b = 0x5b ∨ b = 0x5d)) ∧ AddressByte b :=
    forall_octet (by decide +kernel)
  exact all b (atoi_bytes read b member)

theorem ipString_plain {s ip : Bytes} (ok : parseIP s = some ip) (b : UInt8) (member : b ∈ ipString ip) :
    b ≠ 0x5b ∧ b ≠ 0x5d ∧ AddressByte b := by
  have all : ∀ b : UInt8, isHex b = true ∨ b = 0x3a ∨ b = 0x2e → b ≠ 0x5b ∧ b ≠ 0x5d ∧ AddressByte b :=
    forall_octet (by decide +kernel)
  exact all b (ipString_bytes ok b member)

theorem validateAddress_ok (addr a : Bytes) (role : AddressRole) :
    validateAddress addr role = .ok a ↔ ∃ host port n, trimSpace addr ≠ [] ∧
      splitHostPort (trimSpace addr) = .ok (host, port) ∧ atoi port = some n ∧ 1 ≤ n ∧ n ≤ 65535 ∧ host ≠ [] ∧
      ((∃ ip, parseIP host = some ip ∧ isUnspecified ip = false ∧ isMulticast ip = false ∧
          a = joinHostPort (ipString ip) port) ∨
        (parseIP host = none ∧ role ≠ .listen ∧ a = trimSpace addr)) := by
  constructor
  · intro ok
    unfold validateAddress at ok
    dsimp only at ok
    split at ok
    · cases ok
    rename_i nonempty
    split at ok
    · cases ok
    rename_i host port split
    split at ok
    · cases ok
    rename_i n number
    split at ok
    · cases ok
    rename_i range
    split at ok
    · cases ok
    rename_i named
    refine ⟨host, port, n, nonempty, split, number, by omega, by omega, named, ?_⟩
    split at ok
    · rename_i ip literal
      split at ok
      · cases ok
      rename_i specified
      split at ok
      · cases ok
      rename_i unicast
      exact .inl ⟨ip, literal, by simpa using specified, by simpa using unicast, (Except.ok.inj ok).symm⟩
    · rename_i name
      split at ok
      · cases ok
      rename_i target
      exact .inr ⟨name, target, (Except.ok.inj ok).symm⟩
  · rintro ⟨host, port, n, nonempty, split, number, low, high, named, result⟩
    have range : ¬(n ≤ 0 ∨ 65535 < n) := by omega
    unfold validateAddress
    dsimp only
    rw [if_neg nonempty, split]
    dsimp only
    rw [number]
    dsimp only
    rw [if_neg range, if_neg named]
    rcases result with ⟨ip, literal, specified, unicast, rfl⟩ | ⟨name, target, rfl⟩
    · rw [literal]
      simp [specified, unicast]
    · rw [name]
      simp [target]

example : validateAddress (text " [2001:DB8:0::1]:+22") .listen = .ok (text "[2001:db8::1]:+22") := by decide +kernel

example : validateAddress (text "[::ffff:0.0.0.0]:22") .target = .error (.unspecified (text "[::ffff:0.0.0.0]:22")) := by
  decide +kernel

theorem parseIP_eq (s : Bytes) :
    parseIP s = (parseAddr s).bind fun addr => if addr.zone = [] then some (as16 addr) else none := by
  unfold parseIP as16
  cases parseAddr s with
  | none => rfl
  | some addr =>
    by_cases zone : addr.zone = []
    · by_cases four : addr.ip.length = 4 <;> simp [zone, four]
    · simp [zone]

theorem literal_not_footgun {host ip : Bytes} (literal : parseIP host = some ip) (specified : isUnspecified ip = false)
    (unicast : isMulticast ip = false) : ¬Footgun host := by
  rintro ⟨addr, parsed, bad⟩
  rw [parseIP_eq, parsed, Option.bind_some] at literal
  split at literal
  · rw [Option.some.inj literal, specified, unicast] at bad
    rcases bad with bad | bad <;> cases bad
  · cases literal

theorem parseIP_addr {host ip : Bytes} (literal : parseIP host = some ip) : ∃ addr, parseAddr host = some addr := by
  rw [parseIP_eq] at literal
  obtain ⟨addr, parsed, _⟩ := Option.bind_eq_some_iff.mp literal
  exact ⟨addr, parsed⟩

theorem joined_visible {s ip port : Bytes} {n : Int} (literal : parseIP s = some ip) (number : atoi port = some n)
    (b : UInt8) (member : b ∈ joinHostPort (ipString ip) port) : AddressByte b := by
  have marks : ∀ b ∈ text "[" ++ text "]:" ++ text ":", AddressByte b :=
    forall_mem_octets (by decide +kernel)
  have host : b ∈ ipString ip → AddressByte b := fun inside => (ipString_plain literal b inside).2.2
  have digit : b ∈ port → AddressByte b := fun inside => (port_plain number b inside).2
  unfold joinHostPort at member
  split at member
  · simp only [List.mem_append] at member marks
    rcases member with ((opening | inside) | closing) | last
    · exact marks b (.inl (.inl opening))
    · exact host inside
    · exact marks b (.inl (.inr closing))
    · exact digit last
  · simp only [List.mem_append] at member marks
    rcases member with (inside | colon) | last
    · exact host inside
    · exact marks b (.inr colon)
    · exact digit last

theorem literal_validated {host ip port : Bytes} {n : Int} (role : AddressRole) (literal : parseIP host = some ip)
    (specified : isUnspecified ip = false) (unicast : isMulticast ip = false) (number : atoi port = some n)
    (low : 1 ≤ n) (high : n ≤ 65535) : Validated (joinHostPort (ipString ip) port) role := by
  have again := parseIP_ipString literal
  have split : splitHostPort (joinHostPort (ipString ip) port) = .ok (ipString ip, port) := by
    refine splitHostPort_join (fun b member => (port_plain number b member).1) ?_ ?_
    · exact fun member => (ipString_plain literal _ member).1 rfl
    · exact fun member => (ipString_plain literal _ member).2.1 rfl
  have trimmed : trimSpace (joinHostPort (ipString ip) port) = joinHostPort (ipString ip) port :=
    trimSpace_ascii _ fun b member => (joined_visible literal number b member).visible
  have nonempty : joinHostPort (ipString ip) port ≠ [] := by
    intro empty
    rw [empty] at split
    cases split
  have named : ipString ip ≠ [] := by
    intro empty
    rw [empty] at again
    cases again
  refine ⟨⟨ipString ip, port, n, split, named, number, low, high, literal_not_footgun again specified unicast,
    fun _ => parseIP_addr again⟩, ?_⟩
  rw [validateAddress_ok, trimmed]
  exact ⟨ipString ip, port, n, nonempty, split, number, low, high, named,
    .inl ⟨ip, again, specified, unicast, rfl⟩⟩

/-- A validated address is sound, and a fixed point, unless it names a dangerous literal by way of a zone. -/
theorem validateAddress_sound_iff (addr a : Bytes) (role : AddressRole) (accepted : validateAddress addr role = .ok a) :
    Validated a role ↔ ¬ZonedFootgun addr := by
  obtain ⟨host, port, n, nonempty, split, number, low, high, named, result⟩ := (validateAddress_ok addr a role).mp accepted
  rcases result with ⟨ip, literal, specified, unicast, rfl⟩ | ⟨name, target, rfl⟩
  · refine ⟨fun _ => ?_, fun _ => literal_validated role literal specified unicast number low high⟩
    rintro ⟨host', port', addr', splitAgain, parsed, zone, _⟩
    rw [split, Except.ok.injEq, Prod.mk.injEq] at splitAgain
    rw [parseIP_eq, splitAgain.1, parsed, Option.bind_some, if_neg zone] at literal
    cases literal
  · have zoned : ∀ addr', parseAddr host = some addr' → addr'.zone ≠ [] := by
      intro addr' parsed zone
      rw [parseIP_eq, parsed, Option.bind_some, if_pos zone] at name
      cases name
    constructor
    · rintro ⟨⟨host', port', _, splitAgain, _, _, _, _, safe, _⟩, _⟩ ⟨host'', port'', addr', splitZone, parsed, _, bad⟩
      rw [splitAgain, Except.ok.injEq, Prod.mk.injEq] at splitZone
      rw [← splitZone.1] at parsed
      exact safe ⟨addr', parsed, bad⟩
    · intro safe
      have harmless : ¬Footgun host := by
        rintro ⟨addr', parsed, bad⟩
        exact safe ⟨host, port, addr', split, parsed, zoned addr' parsed, bad⟩
      refine ⟨⟨host, port, n, split, named, number, low, high, harmless, fun listen => absurd listen target⟩, ?_⟩
      rw [validateAddress_ok, trimSpace_idem]
      exact ⟨host, port, n, nonempty, split, number, low, high, named, .inr ⟨name, target, rfl⟩⟩

theorem validateAddress_sound_spelling :
    validateAddress (text " [2001:DB8:0::1]:+22") .listen = .ok (text "[2001:db8::1]:+22") ∧
      Validated (text "[2001:db8::1]:+22") .listen := by
  have accepted : validateAddress (text " [2001:DB8:0::1]:+22") .listen = .ok (text "[2001:db8::1]:+22") := by
    decide +kernel
  refine ⟨accepted, (validateAddress_sound_iff _ _ _ accepted).mpr ?_⟩
  rintro ⟨host, port, literal, split, parsed, zone, _⟩
  have parts : splitHostPort (trimSpace (text " [2001:DB8:0::1]:+22")) = .ok (text "2001:DB8:0::1", text "+22") := by
    decide +kernel
  rw [parts, Except.ok.injEq, Prod.mk.injEq] at split
  have unzoned : (parseAddr (text "2001:DB8:0::1")).map Addr.zone = some [] := by decide +kernel
  rw [split.1, parsed, Option.map_some, Option.some.injEq] at unzoned
  exact zone unzoned

/-- A zone hides a multicast address from `net.ParseIP`, which the checks go by. -/
theorem zoned_multicast_accepted :
    validateAddress (text "[ff02::1%eth0]:22") .target = .ok (text "[ff02::1%eth0]:22") ∧
      Footgun (text "ff02::1%eth0") ∧ ¬Validated (text "[ff02::1%eth0]:22") .target := by
  have parsed : parseAddr (text "ff02::1%eth0") = some ⟨0xff :: 2 :: List.replicate 13 0 ++ [1], text "eth0"⟩ := by
    decide +kernel
  have multicast : isMulticast (as16 ⟨0xff :: 2 :: List.replicate 13 0 ++ [1], text "eth0"⟩) = true := by decide +kernel
  have accepted : validateAddress (text "[ff02::1%eth0]:22") .target = .ok (text "[ff02::1%eth0]:22") := by
    decide +kernel
  have parts : splitHostPort (text "[ff02::1%eth0]:22") = .ok (text "ff02::1%eth0", text "22") := by decide +kernel
  refine ⟨accepted, ⟨_, parsed, .inr multicast⟩, ?_⟩
  rintro ⟨⟨host, port, _, split, _, _, _, _, safe, _⟩, _⟩
  rw [parts, Except.ok.injEq, Prod.mk.injEq] at split
  rw [← split.1] at safe
  exact safe ⟨_, parsed, .inr multicast⟩

end Rtc2Tcp.Config

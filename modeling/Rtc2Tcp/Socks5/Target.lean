import Rtc2Tcp.Socks5.Handshake

namespace Rtc2Tcp.Socks5

open Octets Go

/-- The label of the channel that `handleSOCKS5Connect` opens. -/
def channelLabel (streamID : Nat) (target : Bytes) : Bytes :=
  text "socks5-" ++ decimal streamID ++ text "|" ++ target

/-- `parseSocks5Label`; the error quotes the label. -/
def parseSocks5Label (label : Bytes) : Except Bytes Bytes :=
  match indexByte label 0x7c with
  | none => .error label
  | some idx => if idx + 1 = label.length then .error label else .ok (label.drop (idx + 1))

inductive Address where
  | ipv4 (ip : Block 4)
  | domain (name : Bytes) (short : name.length < 256)
  | ipv6 (ip : Block 16)

namespace Address

def type : Address → UInt8
  | ipv4 _ => addrTypeIPv4
  | domain _ _ => addrTypeFQDN
  | ipv6 _ => addrTypeIPv6

def encode : Address → Bytes
  | ipv4 ip => ip.val
  | domain name _ => UInt8.ofNat name.length :: name
  | ipv6 ip => ip.val

def host : Address → Bytes
  | ipv4 ip => ipv4String ip
  | domain name _ => name
  | ipv6 ip => ipv6String ip

end Address

structure Request where
  reserved : UInt8
  address : Address
  port : UInt16

namespace Request

def encode (r : Request) : Bytes :=
  [version, cmdConnect, r.reserved, r.address.type] ++ r.address.encode ++
    [UInt8.ofNat (r.port.toNat / 256), UInt8.ofNat r.port.toNat]

def target (r : Request) : Bytes := joinHostPort r.address.host (decimal r.port.toNat)

end Request

theorem readFull_ok {n : Nat} {input rest : Bytes} {e : HandshakeError} {buf : Block n}
    (ok : readFull n input e = .ok (buf, rest)) : input = buf.val ++ rest := by
  unfold readFull at ok
  split at ok
  · cases ok
    exact (List.take_append_drop n input).symm
  · cases ok

theorem block_one (buf : Block 1) : buf.val = [buf.val.getD 0 0] := by
  obtain ⟨bytes, length⟩ := buf
  match bytes, length with
  | [a], _ => rfl

theorem block_two (buf : Block 2) : buf.val = [buf.val.getD 0 0, buf.val.getD 1 0] := by
  obtain ⟨bytes, length⟩ := buf
  match bytes, length with
  | [a, b], _ => rfl

theorem block_four (buf : Block 4) :
    buf.val = [buf.val.getD 0 0, buf.val.getD 1 0, buf.val.getD 2 0, buf.val.getD 3 0] := by
  obtain ⟨bytes, length⟩ := buf
  match bytes, length with
  | [a, b, c, d], _ => rfl

theorem readAddr_ok {input rest host : Bytes} {addrType : UInt8}
    (ok : readAddr input addrType = .ok (host, rest)) :
    ∃ address : Address, addrType = address.type ∧ input = address.encode ++ rest ∧ host = address.host := by
  unfold readAddr at ok
  split at ok
  · rename_i kind
    obtain ⟨⟨buf, left⟩, read, result⟩ := bind_ok ok
    cases result
    exact ⟨.ipv4 buf, kind, readFull_ok read, rfl⟩
  · split at ok
    · rename_i kind
      obtain ⟨⟨lenBuf, afterLength⟩, readLength, result⟩ := bind_ok ok
      obtain ⟨⟨domain, left⟩, read, result⟩ := bind_ok result
      cases result
      have size := domain.property
      have small := (lenBuf.val.getD 0 0).toNat_lt
      refine ⟨.domain domain.val (by rw [size]; exact small), kind, ?_, rfl⟩
      have head : lenBuf.val = [UInt8.ofNat domain.val.length] := by
        rw [size, UInt8.ofNat_toNat]
        exact block_one lenBuf
      refine (readFull_ok readLength).trans ((congrArg (· ++ afterLength) head).trans ?_)
      rw [readFull_ok read]
      rfl
    · split at ok
      · rename_i kind
        obtain ⟨⟨buf, left⟩, read, result⟩ := bind_ok ok
        cases result
        exact ⟨.ipv6 buf, kind, readFull_ok read, rfl⟩
      · cases ok

theorem port_value (high low : UInt8) :
    (UInt16.ofNat (high.toNat * 256 + low.toNat)).toNat = high.toNat * 256 + low.toNat := by
  have highBound := high.toNat_lt
  have lowBound := low.toNat_lt
  rw [UInt16.toNat_ofNat']
  omega

theorem port_bytes (high low : UInt8) :
    UInt8.ofNat ((high.toNat * 256 + low.toNat) / 256) = high ∧ UInt8.ofNat (high.toNat * 256 + low.toNat) = low := by
  have lowBound := low.toNat_lt
  constructor
  · have quotient : (high.toNat * 256 + low.toNat) / 256 = high.toNat := by omega
    rw [quotient, UInt8.ofNat_toNat]
  · apply UInt8.toNat_inj.mp
    rw [UInt8.toNat_ofNat']
    omega

theorem readRequest_ok {input rest target : Bytes} (ok : readRequest input = .ok (target, rest)) :
    ∃ r : Request, input = r.encode ++ rest ∧ target = r.target := by
  unfold readRequest at ok
  obtain ⟨⟨req, afterHeader⟩, readHeader, ok⟩ := bind_ok ok
  dsimp only at ok
  split at ok
  · cases ok
  · rename_i version
    split at ok
    · cases ok
    · rename_i command
      obtain ⟨⟨host, afterAddr⟩, readAddr, ok⟩ := bind_ok ok
      obtain ⟨⟨portBuf, left⟩, readPort, ok⟩ := bind_ok ok
      cases ok
      obtain ⟨address, kind, encoded, rfl⟩ := readAddr_ok readAddr
      have portShape : afterAddr = portBuf.val ++ left := readFull_ok readPort
      obtain ⟨high, low⟩ := port_bytes (portBuf.val.getD 0 0) (portBuf.val.getD 1 0)
      have value := port_value (portBuf.val.getD 0 0) (portBuf.val.getD 1 0)
      generalize (portBuf.val.getD 0 0).toNat * 256 + (portBuf.val.getD 1 0).toNat = port at high low value
      have front : req.val = [Socks5.version, cmdConnect, req.val.getD 2 0, address.type] := by
        rw [← Decidable.not_not.mp version, ← Decidable.not_not.mp command, ← kind]
        exact block_four req
      have back : portBuf.val = [UInt8.ofNat (port / 256), UInt8.ofNat port] := by
        rw [high, low]
        exact block_two portBuf
      refine ⟨⟨req.val.getD 2 0, address, UInt16.ofNat port⟩, ?_, ?_⟩
      · refine (readFull_ok readHeader).trans ((congrArg (· ++ afterHeader) front).trans ?_)
        simp only [Request.encode, value, encoded, portShape, back, List.append_assoc]
      · rw [Request.target, value]

theorem readMethods_ok {input rest methods : Bytes} (ok : readMethods input = .ok (methods, rest)) :
    ∃ count : UInt8, input = [version, count] ++ methods ++ rest ∧ methods.length = count.toNat := by
  unfold readMethods at ok
  obtain ⟨⟨header, afterHeader⟩, readHeader, ok⟩ := bind_ok ok
  dsimp only at ok
  split at ok
  · cases ok
  · rename_i version
    obtain ⟨⟨list, left⟩, readList, ok⟩ := bind_ok ok
    cases ok
    refine ⟨header.val.getD 1 0, ?_, list.property⟩
    have head : header.val = [Socks5.version, header.val.getD 1 0] := by
      rw [← Decidable.not_not.mp version]
      exact block_two header
    refine (readFull_ok readHeader).trans ((congrArg (· ++ afterHeader) head).trans ?_)
    rw [readFull_ok readList, List.append_assoc]

theorem handshake_ok {input rest target : Bytes} {writable : Bool}
    (ok : (handshake input writable).2 = .ok (target, rest)) :
    ∃ (count : UInt8) (methods : Bytes) (r : Request), methods.length = count.toNat ∧ authNone ∈ methods ∧
      input = [version, count] ++ methods ++ r.encode ++ rest ∧ target = r.target := by
  unfold handshake at ok
  split at ok
  · cases ok
  · rename_i methods left read
    split at ok
    · cases ok
    · rename_i offered
      split at ok
      · cases ok
      · obtain ⟨count, shape, length⟩ := readMethods_ok read
        obtain ⟨r, request, target⟩ := readRequest_ok ok
        refine ⟨count, methods, r, length, Decidable.not_not.mp offered, ?_, target⟩
        rw [shape, request, List.append_assoc, List.append_assoc, List.append_assoc]

theorem readFull_append {n : Nat} (bytes rest : Bytes) (length : bytes.length = n) (e : HandshakeError) :
    readFull n (bytes ++ rest) e = .ok (⟨bytes, length⟩, rest) := by
  subst length
  simp [readFull]

theorem readAddr_encode (address : Address) (rest : Bytes) :
    readAddr (address.encode ++ rest) address.type = .ok (address.host, rest) := by
  cases address with
  | ipv4 ip =>
    simp only [readAddr, Address.type, Address.encode, readFull_append _ _ ip.property]
    rfl
  | domain name short =>
    have size : (UInt8.ofNat name.length).toNat = name.length := by
      rw [UInt8.toNat_ofNat']
      exact Nat.mod_eq_of_lt short
    have length := readFull_append (n := 1) [UInt8.ofNat name.length] (name ++ rest) rfl .readDomainLength
    have domain : readFull ([UInt8.ofNat name.length].getD 0 0).toNat (name ++ rest) .readDomain =
        .ok (⟨name, size.symm⟩, rest) := readFull_append name rest size.symm .readDomain
    have other : addrTypeFQDN ≠ addrTypeIPv4 := by decide
    have shape : (Address.domain name short).encode ++ rest = [UInt8.ofNat name.length] ++ (name ++ rest) := rfl
    rw [shape, readAddr, Address.type, if_neg other, if_pos rfl, length]
    simp only [bind, Except.bind]
    rw [domain]
    rfl
  | ipv6 ip =>
    simp only [readAddr, Address.type, Address.encode, readFull_append _ _ ip.property]
    rfl

theorem readRequest_encode (r : Request) (rest : Bytes) : readRequest (r.encode ++ rest) = .ok (r.target, rest) := by
  have bound := r.port.toNat_lt
  have high : (UInt8.ofNat (r.port.toNat / 256)).toNat = r.port.toNat / 256 := by
    rw [UInt8.toNat_ofNat']
    omega
  have value : r.port.toNat / 256 * 256 + (UInt8.ofNat r.port.toNat).toNat = r.port.toNat := by
    rw [UInt8.toNat_ofNat']
    omega
  have header := readFull_append (n := 4) [version, cmdConnect, r.reserved, r.address.type]
    (r.address.encode ++ ([UInt8.ofNat (r.port.toNat / 256), UInt8.ofNat r.port.toNat] ++ rest)) rfl .readRequest
  have port := readFull_append (n := 2) [UInt8.ofNat (r.port.toNat / 256), UInt8.ofNat r.port.toNat] rest rfl .readPort
  have shape : r.encode ++ rest = [version, cmdConnect, r.reserved, r.address.type] ++
      (r.address.encode ++ ([UInt8.ofNat (r.port.toNat / 256), UInt8.ofNat r.port.toNat] ++ rest)) := by
    simp only [Request.encode, List.append_assoc]
  rw [shape, readRequest, header]
  simp only [bind, Except.bind, List.getD_cons_zero, List.getD_cons_succ, ne_eq, not_true_eq_false, if_false,
    readAddr_encode, port, high, value]
  rfl

theorem handshake_encode (count : UInt8) (methods rest : Bytes) (r : Request) (length : methods.length = count.toNat)
    (offered : authNone ∈ methods) :
    (handshake ([version, count] ++ methods ++ r.encode ++ rest) true).2 = .ok (r.target, rest) := by
  have header := readFull_append (n := 2) [version, count] (methods ++ (r.encode ++ rest)) rfl .readVersion
  have list : readFull ([version, count].getD 1 0).toNat (methods ++ (r.encode ++ rest)) .readMethods =
      .ok (⟨methods, length⟩, r.encode ++ rest) := readFull_append methods (r.encode ++ rest) length .readMethods
  have read : readMethods ([version, count] ++ methods ++ r.encode ++ rest) = .ok (methods, r.encode ++ rest) := by
    rw [List.append_assoc, List.append_assoc, readMethods, header]
    simp only [bind, Except.bind, List.getD_cons_zero, ne_eq, not_true_eq_false, if_false]
    rw [list]
    rfl
  unfold handshake
  rw [read]
  simp only [not_not.mpr offered, if_false, Bool.true_eq_false]
  exact readRequest_encode r rest

/-- The stream starts with a greeting that offers no authentication, and the request. -/
def Opens (input : Bytes) (r : Request) (rest : Bytes) : Prop :=
  ∃ (count : UInt8) (methods : Bytes), methods.length = count.toNat ∧ authNone ∈ methods ∧
    input = [version, count] ++ methods ++ r.encode ++ rest

theorem Opens.handshake {input rest : Bytes} {r : Request} (opens : Opens input r rest) :
    (handshake input true).2 = .ok (r.target, rest) := by
  obtain ⟨count, methods, length, offered, rfl⟩ := opens
  exact handshake_encode count methods rest r length offered

theorem Opens.append {input rest : Bytes} {r : Request} (opens : Opens input r rest) (more : Bytes) :
    Opens (input ++ more) r (rest ++ more) := by
  obtain ⟨count, methods, length, offered, rfl⟩ := opens
  exact ⟨count, methods, length, offered, by simp only [List.append_assoc]⟩

theorem handshake_opens {input rest target : Bytes} {writable : Bool}
    (ok : (handshake input writable).2 = .ok (target, rest)) : ∃ r, Opens input r rest ∧ target = r.target := by
  obtain ⟨count, methods, r, length, offered, shape, rfl⟩ := handshake_ok ok
  exact ⟨r, ⟨count, methods, length, offered, shape⟩, rfl⟩

theorem handshake_written {input rest target : Bytes} {writable : Bool}
    (ok : (handshake input writable).2 = .ok (target, rest)) : (handshake input writable).1 = [version, authNone] := by
  unfold handshake at ok ⊢
  split at ok
  · cases ok
  · split at ok
    · cases ok
    · split at ok
      · cases ok
      · rename_i offered writes
        simp only [if_neg offered, if_neg writes]

theorem handshake_error {input : Bytes} {writable : Bool}
    (refused : ∀ target rest, (handshake input writable).2 ≠ .ok (target, rest)) :
    ∃ e, (handshake input writable).2 = .error e := by
  cases result : (handshake input writable).2 with
  | error e => exact ⟨e, rfl⟩
  | ok parts => exact absurd result (refused parts.1 parts.2)

theorem handshake_truncated {input rest target : Bytes} (ok : (handshake input true).2 = .ok (target, rest)) (n : Nat)
    (short : n < input.length - rest.length) : ∃ e, (handshake (input.take n) true).2 = .error e := by
  apply handshake_error
  intro other left accepted
  obtain ⟨r, opens, _⟩ := handshake_opens accepted
  -- The same greeting and request would be read from the whole input, and leave more of it.
  have whole := (opens.append (input.drop n)).handshake
  rw [List.take_append_drop, ok] at whole
  have remaining : rest = left ++ input.drop n := congrArg Prod.snd (Except.ok.inj whole)
  have length := congrArg List.length remaining
  rw [List.length_append, List.length_drop] at length
  omega

/-- `Handshake` accepts exactly the streams of the grammar, reads no byte beyond the request and writes the method
    selection; on any other stream it returns an error, and with a connection that takes no write it always does. -/
theorem handshake_grammar (input : Bytes) :
    ((∃ target rest, (handshake input true).2 = .ok (target, rest)) ↔ ∃ r rest, Opens input r rest) ∧
    (∀ r rest, Opens input r rest → (handshake input true).2 = .ok (r.target, rest) ∧
      (handshake input true).1 = [0x05, 0x00]) ∧
    ((¬∃ r rest, Opens input r rest) → ∃ e, (handshake input true).2 = .error e) ∧
    (∀ target rest, (handshake input true).2 = .ok (target, rest) → ∀ n < input.length - rest.length,
      ∃ e, (handshake (input.take n) true).2 = .error e) ∧
    ∃ e, (handshake input false).2 = .error e := by
  refine ⟨⟨?_, ?_⟩, ?_, ?_, fun target rest => handshake_truncated, ?_⟩
  · rintro ⟨target, rest, ok⟩
    obtain ⟨r, opens, _⟩ := handshake_opens ok
    exact ⟨r, rest, opens⟩
  · rintro ⟨r, rest, opens⟩
    exact ⟨r.target, rest, opens.handshake⟩
  · intro r rest opens
    exact ⟨opens.handshake, handshake_written opens.handshake⟩
  · intro outside
    apply handshake_error
    intro target rest ok
    obtain ⟨r, opens, _⟩ := handshake_opens ok
    exact outside ⟨r, rest, opens⟩
  · unfold handshake
    split
    · exact ⟨_, rfl⟩
    · split
      · exact ⟨_, rfl⟩
      · exact ⟨_, rfl⟩

theorem parseSocks5Label_channelLabel (streamID : Nat) (target : Bytes) (nonempty : target ≠ []) :
    parseSocks5Label (channelLabel streamID target) = .ok target := by
  have absent : (0x7c : UInt8) ∉ text "socks5-" ++ decimal streamID := by
    rw [List.mem_append]
    rintro (front | number)
    · revert front
      decide
    · obtain ⟨d, small, same⟩ := mem_digits 10 streamID (by omega) _ number
      have all : ∀ d < 10, (0x7c : UInt8) ≠ UInt8.ofNat (Nat.digitChar d).toNat := by decide
      exact all d small same
  have shape : channelLabel streamID target = (text "socks5-" ++ decimal streamID) ++ 0x7c :: target := by
    rw [channelLabel, List.append_assoc]
    rfl
  have long : (text "socks5-" ++ decimal streamID).length + 1 ≠
      ((text "socks5-" ++ decimal streamID) ++ 0x7c :: target).length := by
    have positive : 0 < target.length := List.length_pos_iff.mpr nonempty
    simp only [List.length_append, List.length_cons]
    omega
  unfold parseSocks5Label
  rw [shape, indexByte_append _ _ _ absent]
  dsimp only
  rw [if_neg long, drop_past]

theorem Request.target_nonempty (r : Request) : r.target ≠ [] := by
  have number := digits_ne_nil 10 r.port.toNat
  unfold target joinHostPort decimal
  split <;> simp [number]

/-- A domain name in brackets, with no bracket or colon inside. -/
def Request.InBrackets (r : Request) : Prop :=
  ∃ name short inner, r.address = .domain name short ∧ Bracketed name inner

theorem Address.inBrackets_domain (a : Address) (inner : Bytes) (bracketed : Bracketed a.host inner) :
    ∃ name short, a = .domain name short := by
  obtain ⟨shape, _⟩ := bracketed
  have opening : (0x5b : UInt8) ∈ a.host := by
    rw [shape]
    exact List.mem_cons_self
  cases a with
  | ipv4 ip => exact absurd (.inr (.inl rfl)) (dotted_plain _ _ _ _ _ opening)
  | domain name short => exact ⟨name, short, rfl⟩
  | ipv6 ip => exact absurd rfl (ipv6String_unbracketed ip _ opening).1

/-- The target of an accepted request reaches the exposing side as it was, and is taken apart into the requested host
    and port, if at all, exactly when the host is no domain name in brackets. -/
theorem socks5_target_preserved (input target rest : Bytes) (writable : Bool)
    (ok : (handshake input writable).2 = .ok (target, rest)) :
    (∃ (count : UInt8) (methods : Bytes) (r : Request), methods.length = count.toNat ∧
      input = [version, count] ++ methods ++ r.encode ++ rest) ∧
    ∀ (count : UInt8) (methods : Bytes) (r : Request), methods.length = count.toNat →
      input = [version, count] ++ methods ++ r.encode ++ rest →
      (((∀ streamID, parseSocks5Label (channelLabel streamID target) = .ok target) ∧
        ∀ host port, splitHostPort target = .ok (host, port) →
          host = r.address.host ∧ port = decimal r.port.toNat) ↔ ¬r.InBrackets) := by
  obtain ⟨count', methods', r', length', offered, shape', rfl⟩ := handshake_ok ok
  refine ⟨⟨count', methods', r', length', shape'⟩, ?_⟩
  intro count methods r length shape
  have same : r'.target = r.target := by
    have inner := shape'.symm.trans shape
    simp only [List.append_assoc, List.cons_append, List.nil_append, List.cons.injEq, true_and] at inner
    obtain ⟨rfl, inner⟩ := inner
    obtain ⟨_, inner⟩ := List.append_inj inner (length'.trans length.symm)
    have read := readRequest_encode r rest
    rw [← inner, readRequest_encode] at read
    exact congrArg Prod.fst (Except.ok.inj read)
  rw [same]
  have plain : ∀ b ∈ decimal r.port.toNat, ¬IsDelimiter b := fun b => digits_plain 10 _ (by omega) (by omega) b
  constructor
  · rintro ⟨_, exact⟩ ⟨name, short, inner, address, bracketed⟩
    have host : r.address.host = name := by rw [address]; rfl
    have split := splitHostPort_bracketed plain (host ▸ bracketed : Bracketed r.address.host inner)
    have same := (exact inner _ split).1
    have size := congrArg List.length (bracketed.1)
    rw [same, host, List.length_append, List.length_cons, List.length_singleton] at size
    omega
  · intro unbracketed
    refine ⟨fun streamID => parseSocks5Label_channelLabel streamID r.target r.target_nonempty, ?_⟩
    intro host port split
    by_cases colon : 0x3a ∈ r.address.host
    · exact splitHostPort_colon plain colon host port split
    · obtain ⟨samePort, ⟨sameHost, _⟩ | bracketed⟩ := splitHostPort_plain plain colon host port split
      · exact ⟨sameHost, samePort⟩
      · obtain ⟨name, short, address⟩ := r.address.inBrackets_domain host bracketed
        refine absurd ⟨name, short, host, address, ?_⟩ unbracketed
        rw [address] at bracketed
        exact bracketed

def nameRequest (name : Bytes) (short : name.length < 256) : Request := ⟨0, .domain name short, 80⟩

theorem socks5_target_preserved_name :
    ∃ r : Request, (handshake ([version, 1] ++ [authNone] ++ r.encode ++ [7]) true).2 = .ok (r.target, [7]) ∧
      splitHostPort r.target = .ok (text "a|b", text "80") ∧
      ∀ streamID, parseSocks5Label (channelLabel streamID r.target) = .ok r.target := by
  have ok : (handshake ([version, 1] ++ [authNone] ++ (nameRequest (text "a|b") (by decide)).encode ++ [7]) true).2 =
      .ok ((nameRequest (text "a|b") (by decide)).target, [7]) := by
    decide +kernel
  refine ⟨nameRequest (text "a|b") (by decide), ok, by decide +kernel, ?_⟩
  have preserved := (socks5_target_preserved _ _ _ _ ok).2 1 [authNone] _ rfl rfl
  refine (preserved.mpr ?_).1
  rintro ⟨name, short, inner, address, bracketed, _⟩
  cases address
  cases inner <;> cases bracketed

/-- The exposing side dials `a` when the client asked for `[a]`. -/
theorem bracketed_name_redirected :
    (handshake ([version, 1] ++ [authNone] ++ (nameRequest (text "[a]") (by decide)).encode) true).2 =
        .ok ((nameRequest (text "[a]") (by decide)).target, []) ∧
      (nameRequest (text "[a]") (by decide)).address.host = text "[a]" ∧
      splitHostPort (nameRequest (text "[a]") (by decide)).target = .ok (text "a", text "80") := by
  decide +kernel

end Rtc2Tcp.Socks5

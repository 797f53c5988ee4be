import Rtc2Tcp.Go.URL

namespace Rtc2Tcp.Go

open Octets

theorem cut_append (before after : Bytes) (sep : UInt8) (absent : sep ∉ before) :
    cut (before ++ after) sep = (before ++ (cut after sep).1, (cut after sep).2) := by
  have all : ∀ c ∈ before, decide (c ≠ sep) = true := by
    intro c member
    simp only [ne_eq, decide_eq_true_eq]
    rintro rfl
    exact absent member
  rw [cut, List.takeWhile_append_of_pos all, List.dropWhile_append_of_pos all]
  rfl

theorem cut_absent (s : Bytes) (sep : UInt8) (absent : sep ∉ s) : cut s sep = (s, []) := by
  have whole := cut_append s [] sep absent
  rwa [List.append_nil, show cut [] sep = ([], []) from rfl, List.append_nil] at whole

theorem validOptionalPort_bytes {port : Bytes} (valid : validOptionalPort port = true) (c : UInt8) (member : c ∈ port) :
    c = 0x3a ∨ isDigit c = true := by
  cases port with
  | nil => cases member
  | cons d digits =>
    simp only [validOptionalPort, Bool.and_eq_true, decide_eq_true_eq, List.all_eq_true] at valid
    rcases List.mem_cons.mp member with rfl | later
    · exact .inl valid.1
    · exact .inr (valid.2 c later)

theorem validOptionalPort_decodes {port decoded : Bytes} (valid : validOptionalPort port = true)
    (decodes : Decodes .host port decoded) : decoded = port := by
  refine decodes.eq_of_unescaped nofun ?_
  intro member
  rcases validOptionalPort_bytes valid _ member with colon | digit
  · cases colon
  · cases digit

inductive NameText : Bytes → Bytes → Prop where
  | plain {name decoded : Bytes} (zone : splitBefore (text "%25") name = none) (decodes : Decodes .host name decoded) :
      NameText name decoded
  | zoned {name hostPart zonePart host zone : Bytes} (found : splitBefore (text "%25") name = some (hostPart, zonePart))
      (decodesHost : Decodes .host hostPart host) (decodesZone : Decodes .zone zonePart zone) :
      NameText name (host ++ zone)

theorem unescapeHostname_iff (name decoded : Bytes) : unescapeHostname name = .ok decoded ↔ NameText name decoded := by
  constructor
  · intro ok
    unfold unescapeHostname at ok
    split at ok
    · rename_i zone
      exact .plain zone (unescape_decodes _ _ _ ok)
    · rename_i hostPart zonePart found
      obtain ⟨host, okHost, ok⟩ := bind_ok ok
      obtain ⟨zone, okZone, ok⟩ := bind_ok ok
      cases ok
      exact .zoned found (unescape_decodes _ _ _ okHost) (unescape_decodes _ _ _ okZone)
  · intro named
    cases named with
    | plain zone decodes => rw [unescapeHostname, zone, decodes.unescape]
    | zoned found decodesHost decodesZone =>
      rw [unescapeHostname, found]
      simp only [decodesHost.unescape, decodesZone.unescape]
      rfl

theorem splitBefore_some {sep s front back : Bytes} (found : splitBefore sep s = some (front, back)) :
    s = front ++ back ∧ sep <+: back := by
  induction s generalizing front with
  | nil => cases found
  | cons c s ih =>
    unfold splitBefore at found
    split at found
    · rename_i here
      cases found
      exact ⟨rfl, here⟩
    · obtain ⟨parts, later, same⟩ := Option.map_eq_some_iff.mp found
      cases same
      obtain ⟨rfl, start⟩ := ih later
      exact ⟨rfl, start⟩

theorem splitBefore_absent {sep s : Bytes} {c : UInt8} (first : sep.head? = some c) (absent : c ∉ s) :
    splitBefore sep s = none := by
  induction s with
  | nil => rfl
  | cons d s ih =>
    simp only [List.mem_cons, not_or] at absent
    rw [splitBefore, if_neg, ih absent.2]
    · rfl
    · rintro ⟨rest, whole⟩
      cases sep with
      | nil => cases first
      | cons e sep =>
        obtain ⟨here, _⟩ := List.cons.inj whole
        exact absent.1 ((Option.some.inj first).symm.trans here)

namespace NameText

variable {name decoded : Bytes}

theorem zone_percent {zonePart zone : Bytes} (start : text "%25" <+: zonePart) (decodes : Decodes .zone zonePart zone) :
    0x25 ∈ zone ∧ zone.length < zonePart.length := by
  obtain ⟨rest, rfl⟩ := start
  rw [show text "%25" ++ rest = 0x25 :: 0x32 :: 0x35 :: rest from rfl] at decodes ⊢
  cases decodes with
  | escaped hexA hexB allowed rest =>
    have shorter := rest.length_le
    refine ⟨List.mem_cons.mpr (.inl (by decide)), ?_⟩
    simp only [List.length_cons]
    omega
  | plain percent => exact absurd rfl percent

theorem bytes (named : NameText name decoded) (c : UInt8) (member : c ∈ decoded) : HostByte c := by
  cases named with
  | plain _ decodes => exact decodes.host_bytes (.inl rfl) c member
  | zoned _ decodesHost decodesZone =>
    rcases List.mem_append.mp member with front | back
    · exact decodesHost.host_bytes (.inl rfl) c front
    · exact decodesZone.host_bytes (.inr rfl) c back

theorem length_le (named : NameText name decoded) : decoded.length ≤ name.length := by
  cases named with
  | plain _ decodes => exact decodes.length_le
  | zoned found decodesHost decodesZone =>
    rw [(splitBefore_some found).1, List.length_append, List.length_append]
    exact Nat.add_le_add decodesHost.length_le decodesZone.length_le

theorem of_length (named : NameText name decoded) (same : decoded.length = name.length) :
    0x25 ∉ name ∧ decoded = name := by
  cases named with
  | plain _ decodes =>
    have percent := decodes.unescaped_of_length same
    exact ⟨percent, decodes.eq_of_unescaped nofun percent⟩
  | zoned found decodesHost decodesZone =>
    obtain ⟨rfl, start⟩ := splitBefore_some found
    have shorter := (zone_percent start decodesZone).2
    have front := decodesHost.length_le
    simp only [List.length_append] at same
    omega

theorem again (named : NameText name decoded) (percent : 0x25 ∉ decoded) : NameText decoded decoded := by
  cases named with
  | plain _ decodes => exact .plain (splitBefore_absent (c := 0x25) rfl percent) (decodes.host_again percent)
  | zoned found decodesHost decodesZone =>
    exact absurd (List.mem_append_right _ (zone_percent (splitBefore_some found).2 decodesZone).1) percent

theorem bracket (named : NameText name decoded) (absent : 0x5b ∉ name) (percent : 0x25 ∉ decoded) :
    0x5b ∉ decoded := by
  cases named with
  | plain _ decodes => exact fun member => absent (decodes.host_mem (by decide) (by decide) member)
  | zoned found decodesHost decodesZone =>
    exact absurd (List.mem_append_right _ (zone_percent (splitBefore_some found).2 decodesZone).1) percent

end NameText

/-- What `parseHost` accepts, and its result. -/
inductive HostText : Bytes → Bytes → Prop where
  | plain {host decoded : Bytes} (bracket : 0x5b ∉ host) (port : validOptionalPort (host.dropWhile (· ≠ 0x3a)) = true)
      (decodes : Decodes .host host decoded) : HostText host decoded
  | bracketed {name decoded port : Bytes} (front : Bytes) (bracket : 0x5b ∉ name)
      (valid : validOptionalPort port = true) (named : NameText name decoded) (addr : Addr)
      (parsed : parseAddr decoded = some addr) (long : addr.ip.length ≠ 4) :
      HostText (front ++ 0x5b :: (name ++ 0x5d :: port)) (0x5b :: decoded ++ 0x5d :: port)

theorem validOptionalPort_brackets {port : Bytes} (valid : validOptionalPort port = true) :
    0x5b ∉ port ∧ 0x5d ∉ port ∧ 0x25 ∉ port := by
  have digits : ∀ c ∈ port, c = 0x3a ∨ isDigit c = true := validOptionalPort_bytes valid
  refine ⟨fun member => ?_, fun member => ?_, fun member => ?_⟩
  all_goals
    rcases digits _ member with colon | digit
    · cases colon
    · cases digit

theorem validOptionalPort_allowed {port : Bytes} (valid : validOptionalPort port = true) (c : UInt8) (member : c ∈ port) :
    ¬((Encoding.host = .host ∨ Encoding.host = .zone) ∧ c < 0x80 ∧ shouldEscape c .host = true) := by
  have open_ : ∀ c : UInt8, c = 0x3a ∨ isDigit c = true → shouldEscape c .host = false := forall_octet (by decide +kernel)
  rintro ⟨_, _, escapes⟩
  rw [open_ c (validOptionalPort_bytes valid c member)] at escapes
  cases escapes

theorem brackets_split {host : Bytes} {openBracket closeBracket : Nat} (opening : lastIndexByte host 0x5b = some openBracket)
    (closing : lastIndexByte host 0x5d = some closeBracket)
    (valid : validOptionalPort (host.drop (closeBracket + 1)) = true) :
    ∃ front name port, host = front ++ 0x5b :: (name ++ 0x5d :: port) ∧ 0x5b ∉ name ∧
      port = host.drop (closeBracket + 1) ∧ name = (host.take closeBracket).drop (openBracket + 1) := by
  obtain ⟨before, port, rfl, _, rfl⟩ := lastIndexByte_some _ _ _ closing
  rw [drop_past] at valid
  have outside := (validOptionalPort_brackets valid).1
  cases inside : lastIndexByte before 0x5b with
  | none =>
    have absent : (0x5b : UInt8) ∉ before ++ 0x5d :: port := by
      simp [lastIndexByte_none _ _ inside, outside]
    rw [lastIndexByte_absent _ _ absent] at opening
    cases opening
  | some i =>
    obtain ⟨front, name, rfl, last, rfl⟩ := lastIndexByte_some _ _ _ inside
    have regroup : front ++ 0x5b :: name ++ 0x5d :: port = front ++ 0x5b :: (name ++ 0x5d :: port) := by simp
    have place := lastIndexByte_append front (name ++ 0x5d :: port) 0x5b (by simp [last, outside])
    rw [regroup, place] at opening
    cases opening
    refine ⟨front, name, port, regroup, last, (drop_past _ _ _).symm, ?_⟩
    rw [List.take_left, drop_past]

theorem parseHost_iff (host decoded : Bytes) : parseHost host = .ok decoded ↔ HostText host decoded := by
  constructor
  · intro ok
    unfold parseHost at ok
    split at ok
    · rename_i openBracket opening
      split at ok
      · cases ok
      · rename_i closeBracket closing
        dsimp only at ok
        split at ok
        · rename_i valid
          obtain ⟨port, okPort, ok⟩ := bind_ok ok
          obtain ⟨name, okName, ok⟩ := bind_ok ok
          obtain ⟨front, raw, rest, whole, bracket, portText, nameText⟩ := brackets_split opening closing valid
          rw [← portText] at okPort valid
          rw [← nameText] at okName
          have samePort := validOptionalPort_decodes valid (unescape_decodes _ _ _ okPort)
          split at ok
          · cases ok
          · rename_i addr parsed
            split at ok
            · cases ok
            · rename_i long
              cases ok
              rw [whole, samePort]
              exact .bracketed front bracket valid ((unescapeHostname_iff _ _).mp okName) addr parsed long
        · cases ok
    · rename_i none
      dsimp only at ok
      split at ok
      · rename_i valid
        exact .plain (lastIndexByte_none _ _ none) valid (unescape_decodes _ _ _ ok)
      · cases ok
  · intro hosted
    cases hosted with
    | plain bracket port decodes =>
      rw [parseHost, lastIndexByte_absent _ _ bracket]
      dsimp only
      rw [if_pos port, decodes.unescape]
    | @bracketed name decoded port front bracket valid named addr parsed long =>
      obtain ⟨opens, closes, percent⟩ := validOptionalPort_brackets valid
      have opening := lastIndexByte_append front (name ++ 0x5d :: port) 0x5b (by simp [bracket, opens])
      have closing := lastIndexByte_append (front ++ 0x5b :: name) port 0x5d closes
      have regroup : front ++ 0x5b :: (name ++ 0x5d :: port) = (front ++ 0x5b :: name) ++ 0x5d :: port := by simp
      have portText : (front ++ 0x5b :: (name ++ 0x5d :: port)).drop ((front ++ 0x5b :: name).length + 1) = port := by
        rw [regroup, drop_past]
      have nameText : ((front ++ 0x5b :: (name ++ 0x5d :: port)).take (front ++ 0x5b :: name).length).drop
          (front.length + 1) = name := by
        rw [regroup, List.take_left, drop_past]
      have decodesPort : Decodes .host port port := .of_unescaped (by decide) percent (validOptionalPort_allowed valid)
      rw [← regroup] at closing
      unfold parseHost
      rw [opening]
      dsimp only
      rw [closing]
      dsimp only
      rw [portText, nameText, if_pos valid, decodesPort.unescape, (unescapeHostname_iff _ _).mpr named]
      simp only [bind, Except.bind]
      rw [parsed]
      exact if_neg long

example : parseHost (text "::1") = .error (.invalidPort (text "::1")) := by decide +kernel

namespace HostText

variable {host decoded : Bytes}

theorem bytes (hosted : HostText host decoded) (c : UInt8) (member : c ∈ decoded) : HostByte c := by
  cases hosted with
  | plain _ _ decodes => exact decodes.host_bytes (.inl rfl) c member
  | bracketed _ _ valid named =>
    have digits : ∀ c : UInt8, c = 0x3a ∨ isDigit c = true → HostByte c := forall_octet (by decide +kernel)
    simp only [List.mem_append, List.mem_cons] at member
    rcases member with (rfl | inside) | rfl | behind
    · decide +kernel
    · exact named.bytes c inside
    · decide +kernel
    · exact digits c (validOptionalPort_bytes valid c behind)

theorem length_le (hosted : HostText host decoded) : decoded.length ≤ host.length := by
  cases hosted with
  | plain _ _ decodes => exact decodes.length_le
  | bracketed _ _ _ named =>
    have shorter := named.length_le
    simp only [List.length_append, List.length_cons]
    omega

theorem of_length (hosted : HostText host decoded) (same : decoded.length = host.length) :
    0x25 ∉ host ∧ decoded = host := by
  cases hosted with
  | plain _ _ decodes =>
    have percent := decodes.unescaped_of_length same
    exact ⟨percent, decodes.eq_of_unescaped nofun percent⟩
  | @bracketed name decoded port front _ valid named =>
    have shorter := named.length_le
    simp only [List.length_append, List.length_cons] at same
    have nothing : front = [] := List.eq_nil_of_length_eq_zero (by omega)
    obtain ⟨percent, rfl⟩ := named.of_length (by omega)
    rw [nothing]
    refine ⟨?_, rfl⟩
    simp [percent, (validOptionalPort_brackets valid).2.2]

theorem again (hosted : HostText host decoded) (percent : 0x25 ∉ decoded) : HostText decoded decoded := by
  cases hosted with
  | plain bracket port decodes =>
    refine .plain (fun member => bracket (decodes.host_mem (by decide) (by decide) member)) ?_
      (decodes.host_again percent)
    rwa [validOptionalPort_decodes port (decodes.host_dropWhile (by decide) (by decide) (by decide))]
  | bracketed _ bracket valid named addr parsed long =>
    simp only [List.mem_append, List.mem_cons, not_or] at percent
    exact .bracketed [] (named.bracket bracket percent.1.2) valid (named.again percent.1.2) addr parsed long

theorem decoded_unique {other : Bytes} (hosted : HostText host decoded) (same : HostText host other) :
    other = decoded := by
  have first := (parseHost_iff _ _).mpr hosted
  rw [(parseHost_iff _ _).mpr same] at first
  exact Except.ok.inj first

theorem blank {w trimmed : Bytes} (hosted : HostText (host ++ w) decoded) (front : HostText host trimmed)
    (blank : Blank w) : decoded = trimmed ++ w := by
  have hex : ∀ c : UInt8, c ≤ 0x20 ∨ 0x80 ≤ c → isHex c = false ∧ c ≠ 0x25 ∧ c ≠ 0x5d ∧ ¬(c = 0x3a ∨ isDigit c = true) :=
    forall_octet (by decide +kernel)
  generalize whole : host ++ w = padded at hosted
  cases hosted with
  | plain bracket _ decodes =>
    rw [← whole] at bracket decodes
    obtain ⟨first, last, decodesFront, decodesBack, rfl⟩ :=
      decodes.split fun c member => (hex c (blank.bytes c member)).1
    have kept : last = w :=
      decodesBack.eq_of_unescaped nofun fun member => (hex _ (blank.bytes _ member)).2.1 rfl
    cases front with
    | plain _ _ decodesHost =>
      rw [kept, ← Except.ok.inj (decodesFront.unescape.symm.trans decodesHost.unescape)]
    | bracketed => simp at bracket
  | @bracketed name decoded port before absent valid named addr parsed long =>
    have nothing : w = [] := by
      by_contra nonempty
      have last : w.getLast nonempty ∈ (0x5d : UInt8) :: port := by
        have ending : (host ++ w).getLast? = ((before ++ 0x5b :: name) ++ 0x5d :: port).getLast? := by
          rw [whole]
          simp
        rw [List.getLast?_append_of_ne_nil _ nonempty, List.getLast?_append_of_ne_nil _ (List.cons_ne_nil _ _),
          List.getLast?_eq_some_getLast nonempty, List.getLast?_eq_some_getLast (List.cons_ne_nil _ _)] at ending
        rw [Option.some.inj ending]
        exact List.getLast_mem _
      obtain ⟨_, _, closing, digit⟩ := hex _ (blank.bytes _ (List.getLast_mem nonempty))
      rcases List.mem_cons.mp last with here | behind
      · exact closing here
      · exact digit (validOptionalPort_bytes valid _ behind)
    rw [nothing, List.append_nil] at whole ⊢
    rw [whole] at front
    exact front.decoded_unique (.bracketed before absent valid named addr parsed long)

end HostText

theorem HostByte.delimiters {c : UInt8} (byte : HostByte c) :
    c ≠ 0x2f ∧ c ≠ 0x3f ∧ c ≠ 0x23 ∧ c ≠ 0x40 ∧ (decide (c < 0x20) || decide (c = 0x7f)) = false := by
  have all : ∀ c : UInt8, HostByte c →
      c ≠ 0x2f ∧ c ≠ 0x3f ∧ c ≠ 0x23 ∧ c ≠ 0x40 ∧ (decide (c < 0x20) || decide (c = 0x7f)) = false :=
    forall_octet (by decide +kernel)
  exact all c byte

def locator (r : Bytes) : Bytes := (cut (cut r 0x23).1 0x3f).1

/-- What `url.Parse` reads from the text behind `://`. -/
structure Reads (r : Bytes) (user : Option Userinfo) (host path : Bytes) : Prop where
  printable : containsCTLByte (cut r 0x23).1 = false
  authority : parseAuthority ((locator r).takeWhile (· ≠ 0x2f)) = .ok (user, host)
  path : Decodes .path ((locator r).dropWhile (· ≠ 0x2f)) path
  fragment : ∃ f, Decodes .fragment (cut r 0x23).2 f

structure ValidScheme (s : Bytes) : Prop where
  bytes : ∀ c ∈ s, isSchemeByte c = true
  letter : ∃ c rest, s = c :: rest ∧ isLetter c = true

theorem ValidScheme.getScheme {s : Bytes} (valid : ValidScheme s) (rest : Bytes) :
    Go.getScheme (s ++ 0x3a :: rest) = .ok (s, rest) := by
  obtain ⟨c, tail, rfl, letter⟩ := valid.letter
  have stops : isSchemeByte 0x3a = false := by decide
  unfold Go.getScheme
  rw [List.takeWhile_append_of_pos valid.bytes, List.dropWhile_append_of_pos valid.bytes,
    List.takeWhile_cons_of_neg (by simp [stops]), List.dropWhile_cons_of_neg (by simp [stops]), List.append_nil]
  simp [letter]

theorem ValidScheme.plain {s : Bytes} (valid : ValidScheme s) (c : UInt8) (member : c ∈ s) :
    Visible c ∧ c ≠ 0x23 ∧ c ≠ 0x3a ∧ (decide (c < 0x20) || decide (c = 0x7f)) = false := by
  have all : ∀ c : UInt8, isSchemeByte c = true →
      (0x20 < c ∧ c < 0x80) ∧ c ≠ 0x23 ∧ c ≠ 0x3a ∧ (decide (c < 0x20) || decide (c = 0x7f)) = false :=
    forall_octet (by decide +kernel)
  exact all c (valid.bytes c member)

theorem ValidScheme.lower {s : Bytes} (valid : ValidScheme s) : toLower s ≠ [] := by
  obtain ⟨c, rest, rfl, _⟩ := valid.letter
  have nonempty : ∀ r, encodeRune r ≠ [] := by
    intro r
    unfold encodeRune
    repeat' split
    all_goals nofun
  rw [toLower, runes_cons, List.flatMap_cons]
  exact List.append_ne_nil_of_left_ne_nil (nonempty _) _

theorem ValidScheme.trimSpace {s : Bytes} (valid : ValidScheme s) (rest : Bytes) :
    trimSpace (s ++ text "://" ++ rest) = s ++ text "://" ++ trimRight rest := by
  have slash : Visible 0x2f := by decide
  have regroup : ∀ tail, s ++ text "://" ++ tail = s ++ text ":/" ++ 0x2f :: tail := by
    intro tail
    simp only [List.append_assoc]
    rfl
  obtain ⟨c, name, rfl, _⟩ := valid.letter
  have visible : Visible c := (valid.plain c List.mem_cons_self).1
  rw [List.cons_append, List.cons_append, trimSpace_visible _ _ visible, ← List.cons_append, ← List.cons_append, regroup,
    trimRight_visible _ _ _ slash, regroup]

theorem dropLast_eq_cut {s : Bytes} {c : UInt8} (last : s.getLast? = some c) (once : s.count c = 1) :
    s.dropLast = (cut s c).1 := by
  obtain ⟨front, rfl⟩ := List.getLast?_eq_some_iff.mp last
  have absent : c ∉ front := by
    rw [← List.count_eq_zero]
    simpa using once
  rw [List.dropLast_concat, cut_append _ _ _ absent]
  simp [cut]

namespace URL

theorem parseRest_absolute (u : URL) (rest : Bytes) (scheme : u.scheme ≠ []) :
    parseRest u (0x2f :: 0x2f :: rest) = (do
      let (user, host) ← parseAuthority (rest.takeWhile (· ≠ 0x2f))
      setPath { u with user := user, host := host } (rest.dropWhile (· ≠ 0x2f))) := by
  have slashes : text "//" <+: 0x2f :: 0x2f :: rest := ⟨rest, rfl⟩
  rw [parseRest, if_neg (by simp), if_neg (by simp), if_pos ⟨.inl scheme, slashes⟩]
  rfl

def parseLocator (u : URL) (r : Bytes) : Except URLError URL := do
  let (user, host) ← parseAuthority ((locator r).takeWhile (· ≠ 0x2f))
  let url ← setPath { u with user := user, host := host } ((locator r).dropWhile (· ≠ 0x2f))
  if (cut r 0x23).2 = [] then return url else setFragment url (cut r 0x23).2

theorem parse_absolute {s : Bytes} (valid : ValidScheme s) (r : Bytes) :
    ∃ base : URL, base.scheme = toLower s ∧ parse (s ++ text "://" ++ r) =
      if containsCTLByte (cut r 0x23).1 then .error .controlCharacter else parseLocator base r := by
  have regroup : s ++ text "://" ++ r = (s ++ [0x3a, 0x2f, 0x2f]) ++ r := rfl
  have front : (0x23 : UInt8) ∉ s ++ [0x3a, 0x2f, 0x2f] := by
    simp only [List.mem_append, not_or]
    exact ⟨fun member => (valid.plain _ member).2.1 rfl, by decide⟩
  have printable : containsCTLByte (s ++ [0x3a, 0x2f, 0x2f] ++ (cut r 0x23).1) = containsCTLByte (cut r 0x23).1 := by
    have clean : s.any (fun c => c < 0x20 || c = 0x7f) = false := by
      rw [List.any_eq_false]
      intro c member
      simpa using (valid.plain c member).2.2.2
    simp only [containsCTLByte, List.any_append, clean, Bool.false_or]
    rfl
  have star : s ++ [0x3a, 0x2f, 0x2f] ++ (cut r 0x23).1 ≠ text "*" := by
    intro same
    have length := congrArg List.length same
    simp only [List.length_append, List.length_cons, show (text "*").length = 1 from rfl] at length
    omega
  have schemed : getScheme (s ++ [0x3a, 0x2f, 0x2f] ++ (cut r 0x23).1) = .ok (s, 0x2f :: 0x2f :: (cut r 0x23).1) := by
    rw [List.append_assoc]
    exact valid.getScheme _
  have query : (cut (0x2f :: 0x2f :: (cut r 0x23).1) 0x3f).1 = 0x2f :: 0x2f :: locator r := by
    have cutting := cut_append [0x2f, 0x2f] (cut r 0x23).1 0x3f (by decide)
    exact congrArg Prod.fst cutting
  have raw : ∃ base : URL, base.scheme = toLower s ∧
      parseRaw (s ++ [0x3a, 0x2f, 0x2f] ++ (cut r 0x23).1) =
        if containsCTLByte (cut r 0x23).1 then .error .controlCharacter else parseRest base (0x2f :: 0x2f :: locator r) := by
    unfold parseRaw
    rw [printable, if_neg star, schemed]
    by_cases forced : (0x2f :: 0x2f :: (cut r 0x23).1).getLast? = some 0x3f ∧
        (0x2f :: 0x2f :: (cut r 0x23).1).count 0x3f = 1
    · refine ⟨{ scheme := toLower s, forceQuery := true }, rfl, ?_⟩
      congr 1
      change (if _ then _ else _) = _
      rw [if_pos forced, dropLast_eq_cut forced.1 forced.2, query]
    · refine ⟨{ scheme := toLower s, rawQuery := (cut (0x2f :: 0x2f :: (cut r 0x23).1) 0x3f).2 }, rfl, ?_⟩
      congr 1
      change (if _ then _ else _) = _
      rw [if_neg forced, query]
  obtain ⟨base, scheme, result⟩ := raw
  refine ⟨base, scheme, ?_⟩
  rw [regroup, parse, cut_append _ _ _ front]
  dsimp only
  rw [result]
  split
  · rfl
  · rw [parseRest_absolute base _ (by rw [scheme]; exact valid.lower), parseLocator]
    cases parseAuthority ((locator r).takeWhile (· ≠ 0x2f)) <;> rfl

theorem setPath_ok {u v : URL} {p : Bytes} (ok : setPath u p = .ok v) :
    v.scheme = u.scheme ∧ v.user = u.user ∧ v.host = u.host ∧ Decodes .path p v.path := by
  obtain ⟨path, decoded, ok⟩ := bind_ok ok
  cases ok
  exact ⟨rfl, rfl, rfl, unescape_decodes _ _ _ decoded⟩

theorem setFragment_ok {u v : URL} {f : Bytes} (ok : setFragment u f = .ok v) :
    v.scheme = u.scheme ∧ v.user = u.user ∧ v.host = u.host ∧ v.path = u.path ∧ Decodes .fragment f v.fragment := by
  obtain ⟨fragment, decoded, ok⟩ := bind_ok ok
  cases ok
  exact ⟨rfl, rfl, rfl, rfl, unescape_decodes _ _ _ decoded⟩

theorem setPath_decodes (u : URL) {p path : Bytes} (decodes : Decodes .path p path) :
    ∃ v, setPath u p = .ok v ∧ v.scheme = u.scheme ∧ v.user = u.user ∧ v.host = u.host ∧ v.path = path := by
  rw [setPath, decodes.unescape]
  exact ⟨_, rfl, rfl, rfl, rfl, rfl⟩

theorem setFragment_decodes (u : URL) {f fragment : Bytes} (decodes : Decodes .fragment f fragment) :
    ∃ v, setFragment u f = .ok v ∧ v.scheme = u.scheme ∧ v.user = u.user ∧ v.host = u.host ∧ v.path = u.path := by
  rw [setFragment, decodes.unescape]
  exact ⟨_, rfl, rfl, rfl, rfl, rfl⟩

theorem parse_reads {s r : Bytes} {u : URL} (valid : ValidScheme s) (ok : parse (s ++ text "://" ++ r) = .ok u) :
    u.scheme = toLower s ∧ Reads r u.user u.host u.path := by
  obtain ⟨base, scheme, result⟩ := parse_absolute valid r
  rw [result] at ok
  split at ok
  · cases ok
  · rename_i printable
    obtain ⟨⟨user, host⟩, authority, ok⟩ := bind_ok ok
    obtain ⟨url, set, ok⟩ := bind_ok ok
    obtain ⟨schemeKept, userKept, hostKept, path⟩ := setPath_ok set
    rw [Bool.not_eq_true] at printable
    split at ok
    · rename_i none
      cases ok
      refine ⟨schemeKept.trans scheme, printable, ?_, path, [], ?_⟩
      · rw [authority, userKept, hostKept]
      · rw [none]
        exact .nil
    · obtain ⟨schemeSame, userSame, hostSame, pathSame, fragment⟩ := setFragment_ok ok
      refine ⟨(schemeSame.trans schemeKept).trans scheme, printable, ?_, ?_, _, fragment⟩
      · rw [authority, userSame, hostSame, userKept, hostKept]
      · rw [pathSame]
        exact path

example : (URL.parse (text "HTTP://u:p%40@h:80/a%20b?q#f")).map (fun u => (u.scheme, u.user, u.host, u.path)) =
    .ok (text "http", some ⟨text "u", some (text "p@")⟩, text "h:80", text "/a b") := by decide +kernel

theorem parseRest_host {u v : URL} {rest : Bytes} (ok : parseRest u rest = .ok v) (before : u.host = []) (host : v.host ≠ []) :
    ∃ locator, rest = 0x2f :: 0x2f :: locator ∧ v.scheme = u.scheme ∧
      parseAuthority (locator.takeWhile (· ≠ 0x2f)) = .ok (v.user, v.host) ∧
      Decodes .path (locator.dropWhile (· ≠ 0x2f)) v.path := by
  unfold parseRest at ok
  split at ok
  · cases ok
    exact absurd before host
  split at ok
  · cases ok
  split at ok
  · rename_i slashes
    obtain ⟨locator, rfl⟩ := slashes.2
    obtain ⟨⟨user, name⟩, authority, ok⟩ := bind_ok ok
    obtain ⟨schemeKept, userKept, hostKept, path⟩ := setPath_ok ok
    refine ⟨locator, rfl, schemeKept, ?_, path⟩
    rw [userKept, hostKept]
    exact authority
  · obtain ⟨_, _, hostKept, _⟩ := setPath_ok ok
    exact absurd (hostKept.trans before) host

theorem parseRest_scheme {u v : URL} {rest : Bytes} (ok : parseRest u rest = .ok v) : v.scheme = u.scheme := by
  unfold parseRest at ok
  split at ok
  · cases ok
    rfl
  split at ok
  · cases ok
  split at ok
  · obtain ⟨_, _, ok⟩ := bind_ok ok
    exact (setPath_ok ok).1
  · exact (setPath_ok ok).1

theorem parse_slash {rest : Bytes} {u : URL} (ok : parse (0x2f :: rest) = .ok u) : u.scheme = [] := by
  have front : (cut (0x2f :: rest) 0x23).1 = 0x2f :: (cut rest 0x23).1 :=
    congrArg Prod.fst (cut_append [0x2f] rest 0x23 (by decide))
  have raw : ∀ v, parseRaw (0x2f :: (cut rest 0x23).1) = .ok v → v.scheme = [] := by
    intro v ok
    unfold parseRaw at ok
    split at ok
    · cases ok
    split at ok
    · cases ok
      rfl
    obtain ⟨⟨scheme, tail⟩, schemed, ok⟩ := bind_ok ok
    cases schemed
    dsimp only at ok
    split at ok
    · exact parseRest_scheme ok
    · exact parseRest_scheme ok
  obtain ⟨url, first, ok⟩ := bind_ok ok
  rw [front] at first
  split at ok
  · cases ok
    exact raw u first
  · exact (setFragment_ok ok).1.trans (raw url first)

theorem parseRaw_host {raw : Bytes} {u : URL} (ok : parseRaw raw = .ok u) (host : u.host ≠ []) :
    ∃ scheme rest, getScheme raw = .ok (scheme, 0x2f :: 0x2f :: rest) ∧ u.scheme = toLower scheme ∧
      parseAuthority ((cut rest 0x3f).1.takeWhile (· ≠ 0x2f)) = .ok (u.user, u.host) ∧
      Decodes .path ((cut rest 0x3f).1.dropWhile (· ≠ 0x2f)) u.path := by
  unfold parseRaw at ok
  split at ok
  · cases ok
  split at ok
  · cases ok
    exact absurd rfl host
  obtain ⟨⟨scheme, rest⟩, schemed, ok⟩ := bind_ok ok
  have parsed : ∃ base : URL, base.scheme = toLower scheme ∧ base.host = [] ∧ parseRest base (cut rest 0x3f).1 = .ok u := by
    dsimp only at ok
    split at ok
    · rename_i forced
      rw [dropLast_eq_cut forced.1 forced.2] at ok
      exact ⟨_, rfl, rfl, ok⟩
    · exact ⟨_, rfl, rfl, ok⟩
  obtain ⟨base, baseScheme, baseHost, ok⟩ := parsed
  obtain ⟨locator, whole, schemeKept, authority, path⟩ := parseRest_host ok baseHost host
  have start : ∃ tail, rest = 0x2f :: 0x2f :: tail := by
    have front : (cut rest 0x3f).1 <+: rest := List.takeWhile_prefix _
    rw [whole] at front
    obtain ⟨tail, same⟩ := front
    exact ⟨locator ++ tail, same.symm⟩
  obtain ⟨tail, rfl⟩ := start
  have cutting : (cut (0x2f :: 0x2f :: tail) 0x3f).1 = 0x2f :: 0x2f :: (cut tail 0x3f).1 :=
    congrArg Prod.fst (cut_append [0x2f, 0x2f] tail 0x3f (by decide))
  have same : locator = (cut tail 0x3f).1 := by
    rw [cutting] at whole
    simpa using whole.symm
  rw [same] at authority path
  exact ⟨scheme, tail, schemed, schemeKept.trans baseScheme, authority, path⟩

theorem parse_host {raw : Bytes} {u : URL} (ok : parse raw = .ok u) (host : u.host ≠ []) :
    ∃ scheme rest, getScheme (cut raw 0x23).1 = .ok (scheme, 0x2f :: 0x2f :: rest) ∧ u.scheme = toLower scheme ∧
      parseAuthority ((cut rest 0x3f).1.takeWhile (· ≠ 0x2f)) = .ok (u.user, u.host) ∧
      Decodes .path ((cut rest 0x3f).1.dropWhile (· ≠ 0x2f)) u.path := by
  obtain ⟨url, raw, ok⟩ := bind_ok ok
  split at ok
  · cases ok
    exact parseRaw_host raw host
  · obtain ⟨schemeSame, userSame, hostSame, pathSame, _⟩ := setFragment_ok ok
    rw [hostSame] at host
    rw [schemeSame, userSame, hostSame, pathSame]
    exact parseRaw_host raw host

end URL

theorem getScheme_ok {raw scheme rest : Bytes} (ok : getScheme raw = .ok (scheme, rest)) :
    (scheme = [] ∧ rest = raw) ∨ (ValidScheme scheme ∧ raw = scheme ++ 0x3a :: rest) := by
  have whole := List.takeWhile_append_dropWhile (p := isSchemeByte) (l := raw)
  have inside : ∀ c ∈ raw.takeWhile isSchemeByte, isSchemeByte c = true := fun c member => List.mem_takeWhile_imp member
  unfold getScheme at ok
  split at ok
  · cases ok
  · rename_i c tail behind taken dropped
    split at ok
    · rename_i letter
      cases ok
      rw [taken] at inside
      rw [taken, dropped] at whole
      exact .inr ⟨⟨inside, c, tail, rfl, letter⟩, whole.symm⟩
    · cases ok
      exact .inl ⟨rfl, rfl⟩
  · cases ok
    exact .inl ⟨rfl, rfl⟩

theorem parseAuthority_host {authority : Bytes} {user : Option Userinfo} {host : Bytes}
    (ok : parseAuthority authority = .ok (user, host)) :
    ∃ front name, authority = front ++ name ∧ 0x40 ∉ name ∧ HostText name host ∧ (front = [] ∨ ∃ c, front = c ++ [0x40]) := by
  unfold parseAuthority at ok
  split at ok
  · rename_i none
    obtain ⟨name, parsed, ok⟩ := bind_ok ok
    cases ok
    exact ⟨[], authority, rfl, lastIndexByte_none _ _ none, (parseHost_iff _ _).mp parsed, .inl rfl⟩
  · rename_i i found
    obtain ⟨name, parsed, ok⟩ := bind_ok ok
    obtain ⟨user, _, ok⟩ := bind_ok ok
    cases ok
    obtain ⟨before, after, rfl, absent, rfl⟩ := lastIndexByte_some _ _ _ found
    rw [drop_past] at parsed
    exact ⟨before ++ [0x40], after, by simp, absent, (parseHost_iff _ _).mp parsed, .inr ⟨before, rfl⟩⟩

theorem Reads.parse {s r : Bytes} {user : Option Userinfo} {host path : Bytes} (reads : Reads r user host path)
    (valid : ValidScheme s) : ∃ u : URL, URL.parse (s ++ text "://" ++ r) = .ok u ∧ u.scheme = toLower s ∧
      u.user = user ∧ u.host = host ∧ u.path = path := by
  obtain ⟨base, scheme, result⟩ := URL.parse_absolute valid r
  obtain ⟨f, fragment⟩ := reads.fragment
  obtain ⟨v, set, schemeKept, userKept, hostKept, pathSet⟩ :=
    URL.setPath_decodes { base with user := user, host := host } reads.path
  have located : URL.parseLocator base r =
      if (cut r 0x23).2 = [] then .ok v else URL.setFragment v (cut r 0x23).2 := by
    rw [URL.parseLocator, reads.authority]
    change (URL.setPath _ _ >>= _) = _
    rw [set]
    rfl
  rw [result, reads.printable, if_neg Bool.false_ne_true, located]
  by_cases none : (cut r 0x23).2 = []
  · rw [if_pos none]
    exact ⟨v, rfl, schemeKept.trans scheme, userKept, hostKept, pathSet⟩
  · obtain ⟨w, setLast, schemeSame, userSame, hostSame, pathSame⟩ := URL.setFragment_decodes v fragment
    rw [if_neg none]
    exact ⟨w, setLast, (schemeSame.trans schemeKept).trans scheme, userSame.trans userKept, hostSame.trans hostKept,
      pathSame.trans pathSet⟩

theorem locator_append (front r : Bytes) (fragment : 0x23 ∉ front) (query : 0x3f ∉ front) :
    locator (front ++ r) = front ++ locator r := by
  rw [locator, cut_append _ _ _ fragment, cut_append _ _ _ query]
  rfl

theorem parseAuthority_plain (authority : Bytes) (at_ : 0x40 ∉ authority) (user : Option Userinfo) (host : Bytes) :
    parseAuthority authority = .ok (user, host) ↔ user = none ∧ HostText authority host := by
  rw [parseAuthority, lastIndexByte_absent _ _ at_, ← parseHost_iff]
  dsimp only
  constructor
  · intro ok
    obtain ⟨name, parsed, ok⟩ := bind_ok ok
    cases ok
    exact ⟨rfl, parsed⟩
  · rintro ⟨rfl, parsed⟩
    rw [parsed]
    rfl

theorem parseAuthority_user (userinfo authority : Bytes) (at_ : 0x40 ∉ authority) {info : Userinfo}
    (parses : parseUserinfo userinfo = .ok info) (user : Option Userinfo) (host : Bytes) :
    parseAuthority (userinfo ++ 0x40 :: authority) = .ok (user, host) ↔ user = some info ∧ HostText authority host := by
  rw [parseAuthority, lastIndexByte_append _ _ _ at_, ← parseHost_iff]
  dsimp only
  rw [drop_past, List.take_left, parses]
  constructor
  · intro ok
    obtain ⟨name, parsed, ok⟩ := bind_ok ok
    cases ok
    exact ⟨rfl, parsed⟩
  · rintro ⟨rfl, parsed⟩
    rw [parsed]
    rfl

theorem reads_user {userinfo r : Bytes} {info : Userinfo} (parses : parseUserinfo userinfo = .ok info)
    (bytes : ∀ c ∈ userinfo, c ≠ 0x23 ∧ c ≠ 0x3f ∧ c ≠ 0x2f ∧ (decide (c < 0x20) || decide (c = 0x7f)) = false)
    (at_ : 0x40 ∉ (locator r).takeWhile (· ≠ 0x2f)) (user : Option Userinfo) (host path : Bytes) :
    Reads (userinfo ++ 0x40 :: r) user host path ↔ user = some info ∧ Reads r none host path := by
  have regroup : userinfo ++ 0x40 :: r = (userinfo ++ [0x40]) ++ r := by simp
  have front : ∀ c ∈ userinfo ++ [0x40],
      c ≠ 0x23 ∧ c ≠ 0x3f ∧ c ≠ 0x2f ∧ (decide (c < 0x20) || decide (c = 0x7f)) = false := by
    intro c member
    rcases List.mem_append.mp member with inside | last
    · exact bytes c inside
    · rw [List.mem_singleton.mp last]
      decide
  have slash : ∀ c ∈ userinfo ++ [0x40], decide (c ≠ 0x2f) = true := fun c member => by simp [(front c member).2.2.1]
  have cutting := cut_append (userinfo ++ [0x40]) r 0x23 fun member => (front _ member).1 rfl
  have located := locator_append (userinfo ++ [0x40]) r (fun member => (front _ member).1 rfl)
    (fun member => (front _ member).2.1 rfl)
  have taken : (locator (userinfo ++ [0x40] ++ r)).takeWhile (· ≠ 0x2f) =
      userinfo ++ 0x40 :: (locator r).takeWhile (· ≠ 0x2f) := by
    rw [located, List.takeWhile_append_of_pos slash]
    simp
  have dropped : (locator (userinfo ++ [0x40] ++ r)).dropWhile (· ≠ 0x2f) = (locator r).dropWhile (· ≠ 0x2f) := by
    rw [located, List.dropWhile_append_of_pos slash]
  have printable : containsCTLByte (cut (userinfo ++ [0x40] ++ r) 0x23).1 = containsCTLByte (cut r 0x23).1 := by
    have clean : (userinfo ++ [0x40]).any (fun c => c < 0x20 || c = 0x7f) = false := by
      rw [List.any_eq_false]
      intro c member
      simpa using (front c member).2.2.2
    rw [cutting, containsCTLByte, List.any_append, clean, Bool.false_or, containsCTLByte]
  have behind : (cut (userinfo ++ [0x40] ++ r) 0x23).2 = (cut r 0x23).2 := by rw [cutting]
  rw [regroup]
  constructor
  · intro reads
    have authority := reads.authority
    have path := reads.path
    have fragment := reads.fragment
    have clean := reads.printable
    rw [taken, parseAuthority_user _ _ at_ parses] at authority
    rw [dropped] at path
    rw [behind] at fragment
    rw [printable] at clean
    exact ⟨authority.1, clean, (parseAuthority_plain _ at_ _ _).mpr ⟨rfl, authority.2⟩, path, fragment⟩
  · rintro ⟨rfl, reads⟩
    have hosted := ((parseAuthority_plain _ at_ _ _).mp reads.authority).2
    refine ⟨?_, ?_, ?_, ?_⟩
    · rw [printable]
      exact reads.printable
    · rw [taken, parseAuthority_user _ _ at_ parses]
      exact ⟨rfl, hosted⟩
    · rw [dropped]
      exact reads.path
    · rw [behind]
      exact reads.fragment

theorem escape_bytes (s : Bytes) (c : UInt8) (member : c ∈ escape s .userPassword) :
    c ≠ 0x3a ∧ (isLetter c || isDigit c || decide (c ∈ text "-._:~!$&'()*+,;=%@")) = true ∧
      c ≠ 0x23 ∧ c ≠ 0x3f ∧ c ≠ 0x2f ∧ (decide (c < 0x20) || decide (c = 0x7f)) = false := by
  have all : ∀ d : UInt8, (escapeByte .userPassword d).all (fun c => decide (
      c ≠ 0x3a ∧ (isLetter c || isDigit c || decide (c ∈ text "-._:~!$&'()*+,;=%@")) = true ∧
        c ≠ 0x23 ∧ c ≠ 0x3f ∧ c ≠ 0x2f ∧ (decide (c < 0x20) || decide (c = 0x7f)) = false)) = true :=
    forall_octet (by decide +kernel)
  obtain ⟨d, _, inside⟩ := List.mem_flatMap.mp member
  exact forall_mem_octets (all d) c inside

theorem userinfo_named {username : Bytes} (named : username ≠ []) (password : Bytes) :
    Userinfo.string ⟨username, some password⟩ =
      escape username .userPassword ++ (0x3a :: escape password .userPassword) := by
  rw [Userinfo.string, if_pos (.inl named)]
  dsimp only
  rw [List.append_assoc]
  rfl

theorem userinfo_bytes {username : Bytes} (named : username ≠ []) (password : Bytes) (c : UInt8)
    (member : c ∈ Userinfo.string ⟨username, some password⟩) :
    (isLetter c || isDigit c || decide (c ∈ text "-._:~!$&'()*+,;=%@")) = true ∧
      c ≠ 0x23 ∧ c ≠ 0x3f ∧ c ≠ 0x2f ∧ (decide (c < 0x20) || decide (c = 0x7f)) = false := by
  rw [userinfo_named named, List.mem_append, List.mem_cons] at member
  rcases member with front | rfl | back
  · exact (escape_bytes _ c front).2
  · decide
  · exact (escape_bytes _ c back).2

theorem userinfo_parses {username : Bytes} (named : username ≠ []) (password : Bytes) :
    parseUserinfo (Userinfo.string ⟨username, some password⟩) = .ok ⟨username, some password⟩ := by
  have valid : validUserinfo (Userinfo.string ⟨username, some password⟩) = true := by
    rw [validUserinfo, List.all_eq_true]
    intro c member
    exact (userinfo_bytes named password c member).1
  have shape := userinfo_named named password
  have colon : 0x3a ∈ Userinfo.string ⟨username, some password⟩ := by
    rw [shape]
    simp
  have cutting : cut (Userinfo.string ⟨username, some password⟩) 0x3a =
      (escape username .userPassword, escape password .userPassword) := by
    rw [shape, cut_append _ _ _ fun member => (escape_bytes _ _ member).1 rfl]
    simp [cut]
  rw [parseUserinfo, valid, if_neg (by simp), if_pos colon, cutting]
  dsimp only
  rw [(Decodes.escape_userPassword username).unescape, (Decodes.escape_userPassword password).unescape]
  rfl

structure Located (host path : Bytes) : Prop where
  bytes : ∀ c ∈ host, HostByte c
  rooted : path = [] ∨ ∃ rest, path = 0x2f :: rest

theorem Decodes.rooted {p path : Bytes} (decodes : Decodes .path (p.dropWhile (· ≠ 0x2f)) path) :
    path = [] ∨ ∃ rest, path = 0x2f :: rest := by
  generalize dropped : p.dropWhile (· ≠ 0x2f) = q at decodes
  cases q with
  | nil =>
    cases decodes
    exact .inl rfl
  | cons c q =>
    have slash : c = 0x2f := by
      have stops := List.head?_dropWhile_not (fun c : UInt8 => decide (c ≠ 0x2f)) p
      rw [dropped] at stops
      simpa using stops
    subst slash
    cases decodes with
    | plain => exact .inr ⟨_, rfl⟩

theorem URL.parse_located {raw : Bytes} {u : URL} (ok : URL.parse raw = .ok u) (host : u.host ≠ []) :
    Located u.host u.path := by
  obtain ⟨scheme, rest, _, _, authority, path⟩ := URL.parse_host ok host
  obtain ⟨_, name, _, _, hosted, _⟩ := parseAuthority_host authority
  exact ⟨hosted.bytes, path.rooted⟩

theorem URL.parse_hosted {raw : Bytes} {u : URL} (ok : URL.parse raw = .ok u) (host : u.host ≠ []) :
    ∃ name, HostText name u.host := by
  obtain ⟨scheme, rest, _, _, authority, _⟩ := URL.parse_host ok host
  obtain ⟨_, name, _, _, hosted, _⟩ := parseAuthority_host authority
  exact ⟨name, hosted⟩

theorem takeWhile_front {s t : Bytes} (front : s <+: t) (p : UInt8 → Bool) : s.takeWhile p <+: t.takeWhile p := by
  obtain ⟨rest, rfl⟩ := front
  rw [List.takeWhile_append]
  split
  · rename_i whole
    exact ⟨rest.takeWhile p, by rw [( List.takeWhile_prefix p).eq_of_length whole]⟩
  · exact List.prefix_rfl

theorem locator_front (r : Bytes) : locator r <+: r :=
  ( List.takeWhile_prefix _).trans ( List.takeWhile_prefix _)

theorem Located.authority {host path r : Bytes} (located : Located host path) (front : r <+: host ++ path) :
    (locator r).takeWhile (· ≠ 0x2f) <+: host := by
  have slashes : ∀ c ∈ host, decide (c ≠ 0x2f) = true := fun c member => by
    simp [(located.bytes c member).delimiters.1]
  have taken : (host ++ path).takeWhile (· ≠ 0x2f) = host := by
    rw [List.takeWhile_append_of_pos slashes]
    rcases located.rooted with rfl | ⟨rest, rfl⟩ <;> simp
  rw [← taken]
  exact takeWhile_front ((locator_front r).trans front) _

theorem Located.at_ {host path r : Bytes} (located : Located host path) (front : r <+: host ++ path) :
    0x40 ∉ (locator r).takeWhile (· ≠ 0x2f) := by
  intro member
  exact (located.bytes _ ((located.authority front).subset member)).delimiters.2.2.2.1 rfl

end Rtc2Tcp.Go

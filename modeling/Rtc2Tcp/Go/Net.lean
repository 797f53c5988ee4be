import Rtc2Tcp.Go.Runes

namespace Rtc2Tcp.Go

open Octets

def digits (base n : Nat) : Bytes := (Nat.toDigits base n).map fun c => UInt8.ofNat c.toNat

/-- `strconv.FormatUint(n, 10)`, and `%d` of `fmt`. -/
def decimal (n : Nat) : Bytes := digits 10 n

/-- `strings.IndexByte`; no index is the result `-1`. -/
def indexByte (s : Bytes) (b : UInt8) : Option Nat := s.idxOf? b

def lastIndexByte (s : Bytes) (b : UInt8) : Option Nat := (s.reverse.idxOf? b).map fun i => s.length - 1 - i

def dotted (a b c d : UInt8) : Bytes :=
  decimal a.toNat ++ text "." ++ decimal b.toNat ++ text "." ++ decimal c.toNat ++ text "." ++ decimal d.toNat

def ipv4String (ip : Block 4) : Bytes := dotted (ip.val.getD 0 0) (ip.val.getD 1 0) (ip.val.getD 2 0) (ip.val.getD 3 0)

def field (ip : Block 16) (i : Nat) : Nat := (ip.val.getD (2 * i) 0).toNat * 256 + (ip.val.getD (2 * i + 1) 0).toNat

def zerosEnd (ip : Block 16) (i : Nat) : Nat :=
  i + ((((List.range 8).drop i).map (field ip)).takeWhile fun f => f = 0).length

/-- The longest run of at least two zero fields, the first one of several; `(255, 255)` if there is none. -/
def longestZeros (ip : Block 16) : Nat × Nat :=
  (List.range 8).foldl (fun run i =>
    if 2 ≤ zerosEnd ip i - i ∧ run.2 - run.1 < zerosEnd ip i - i then (i, zerosEnd ip i) else run) (255, 255)

/-- The loop of `netip.Addr.appendTo6`; the first argument bounds its turns. -/
def appendFields (ip : Block 16) (zeros : Nat × Nat) : Nat → Nat → Bytes
  | 0, _ => []
  | turns + 1, i =>
    if 8 ≤ i then []
    else if i = zeros.1 then
      text "::" ++ if 8 ≤ zeros.2 then [] else digits 16 (field ip zeros.2) ++ appendFields ip zeros turns (zeros.2 + 1)
    else (if 0 < i then text ":" else []) ++ digits 16 (field ip i) ++ appendFields ip zeros turns (i + 1)

/-- `net.IP.String` on sixteen bytes: IPv4 in IPv6 comes out in dotted notation. -/
def ipv6String (ip : Block 16) : Bytes :=
  if ip.val.take 12 = List.replicate 10 0 ++ [0xff, 0xff] then
    dotted (ip.val.getD 12 0) (ip.val.getD 13 0) (ip.val.getD 14 0) (ip.val.getD 15 0)
  else appendFields ip (longestZeros ip) 8 0

def joinHostPort (host port : Bytes) : Bytes :=
  if 0x3a ∈ host then text "[" ++ host ++ text "]:" ++ port else host ++ text ":" ++ port

inductive AddrError where
  | missingPort
  | tooManyColons
  | missingBracket
  | unexpectedOpening
  | unexpectedClosing
deriving DecidableEq, Repr

/-- The end of `net.SplitHostPort`: no bracket after the positions `j` and `k`. -/
def checkBrackets (hostport host : Bytes) (i j k : Nat) : Except AddrError (Bytes × Bytes) :=
  if 0x5b ∈ hostport.drop j then .error .unexpectedOpening
  else if 0x5d ∈ hostport.drop k then .error .unexpectedClosing
  else .ok (host, hostport.drop (i + 1))

def splitHostPort (hostport : Bytes) : Except AddrError (Bytes × Bytes) :=
  match lastIndexByte hostport 0x3a with
  | none => .error .missingPort
  | some i =>
    if hostport.head? = some 0x5b then
      match indexByte hostport 0x5d with
      | none => .error .missingBracket
      | some last =>
        if last + 1 = hostport.length then .error .missingPort
        else if last + 1 = i then checkBrackets hostport ((hostport.take last).drop 1) i 1 (last + 1)
        else if hostport[last + 1]? = some 0x3a then .error .tooManyColons
        else .error .missingPort
    else if 0x3a ∈ hostport.take i then .error .tooManyColons
    else checkBrackets hostport (hostport.take i) i 0 0

theorem mem_digits (base n : Nat) (two : 1 < base) (b : UInt8) (member : b ∈ digits base n) :
    ∃ d < base, b = UInt8.ofNat (Nat.digitChar d).toNat := by
  induction n using Nat.strongRecOn with
  | ind n ih =>
    rw [digits, Nat.toDigits_eq_if two] at member
    split at member
    · rename_i small
      rw [List.map_singleton, List.mem_singleton] at member
      exact ⟨n, small, member⟩
    · rename_i large
      rw [List.map_append, List.mem_append, List.map_singleton, List.mem_singleton] at member
      rcases member with front | last
      · exact ih (n / base) (Nat.div_lt_self (by omega) two) front
      · exact ⟨n % base, Nat.mod_lt _ (by omega), last⟩

theorem digits_ne_nil (base n : Nat) : digits base n ≠ [] := by
  rw [digits, ne_eq, List.map_eq_nil_iff]
  exact Nat.toDigits_ne_nil

def IsDelimiter (b : UInt8) : Prop := b = 0x3a ∨ b = 0x5b ∨ b = 0x5d

theorem digits_plain (base n : Nat) (two : 1 < base) (few : base ≤ 16) (b : UInt8) (member : b ∈ digits base n) :
    ¬IsDelimiter b := by
  obtain ⟨d, small, rfl⟩ := mem_digits base n two b member
  have all : ∀ d < 16, ¬IsDelimiter (UInt8.ofNat (Nat.digitChar d).toNat) := by
    unfold IsDelimiter
    decide +kernel
  exact all d (by omega)

theorem dotted_plain (x y z w : UInt8) (b : UInt8) (member : b ∈ dotted x y z w) : ¬IsDelimiter b := by
  have dot : ∀ b ∈ text ".", ¬IsDelimiter b := by
    unfold IsDelimiter
    exact forall_mem_octets (by decide +kernel)
  simp only [dotted, List.mem_append] at member
  rcases member with (((((first | sep) | second) | sep) | third) | sep) | fourth
  · exact digits_plain 10 _ (by omega) (by omega) b first
  · exact dot b sep
  · exact digits_plain 10 _ (by omega) (by omega) b second
  · exact dot b sep
  · exact digits_plain 10 _ (by omega) (by omega) b third
  · exact dot b sep
  · exact digits_plain 10 _ (by omega) (by omega) b fourth

theorem appendFields_unbracketed (ip : Block 16) (zeros : Nat × Nat) (turns i : Nat) (b : UInt8)
    (member : b ∈ appendFields ip zeros turns i) : b ≠ 0x5b ∧ b ≠ 0x5d := by
  have hex : ∀ n, b ∈ digits 16 n → b ≠ 0x5b ∧ b ≠ 0x5d := by
    intro n inside
    have plain := digits_plain 16 n (by omega) (by omega) b inside
    exact ⟨fun same => plain (.inr (.inl same)), fun same => plain (.inr (.inr same))⟩
  have colons : ∀ s, s = text "::" ∨ s = text ":" → b ∈ s → b ≠ 0x5b ∧ b ≠ 0x5d := by
    have all : ∀ c ∈ text "::", c ≠ 0x5b ∧ c ≠ 0x5d := forall_mem_octets (by decide +kernel)
    rintro s (rfl | rfl) inside
    · exact all b inside
    · exact all b (List.mem_cons_of_mem _ inside)
  induction turns generalizing i with
  | zero => cases member
  | succ turns ih =>
    unfold appendFields at member
    split at member
    · cases member
    · split at member
      · rw [List.mem_append] at member
        rcases member with sep | rest
        · exact colons _ (.inl rfl) sep
        · split at rest
          · cases rest
          · rw [List.mem_append] at rest
            exact rest.elim (hex _) (ih _)
      · rw [List.mem_append, List.mem_append] at member
        rcases member with (sep | inside) | rest
        · split at sep
          · exact colons _ (.inr rfl) sep
          · cases sep
        · exact hex _ inside
        · exact ih _ rest

theorem ipv6String_unbracketed (ip : Block 16) (b : UInt8) (member : b ∈ ipv6String ip) : b ≠ 0x5b ∧ b ≠ 0x5d := by
  unfold ipv6String at member
  split at member
  · have plain := dotted_plain _ _ _ _ b member
    exact ⟨fun same => plain (.inr (.inl same)), fun same => plain (.inr (.inr same))⟩
  · exact appendFields_unbracketed ip _ 8 0 b member

example : ipv6String ⟨[0x20, 1, 0xd, 0xb8, 0, 0, 0, 0, 0, 0, 0, 0, 0, 0, 0, 1], rfl⟩ = text "2001:db8::1" := by decide

theorem indexByte_append (before after : Bytes) (b : UInt8) (absent : b ∉ before) :
    indexByte (before ++ b :: after) b = some before.length := by
  induction before with
  | nil => simp [indexByte, List.idxOf?_cons]
  | cons c before ih =>
    have other : c ≠ b := fun same => absent (by rw [same]; exact List.mem_cons_self)
    have rest := ih fun member => absent (List.mem_cons_of_mem _ member)
    rw [indexByte] at rest
    simp [indexByte, List.idxOf?_cons, other, rest]

theorem lastIndexByte_append (before after : Bytes) (b : UInt8) (absent : b ∉ after) :
    lastIndexByte (before ++ b :: after) b = some before.length := by
  have reversed : (before ++ b :: after).reverse = after.reverse ++ b :: before.reverse := by simp
  have found := indexByte_append after.reverse before.reverse b (by simpa using absent)
  rw [indexByte] at found
  rw [lastIndexByte, reversed, found, Option.map_some, List.length_append, List.length_cons, List.length_reverse]
  congr 1
  omega

theorem lastIndexByte_none (s : Bytes) (b : UInt8) (none : lastIndexByte s b = none) : b ∉ s := by
  rw [lastIndexByte, Option.map_eq_none_iff, List.idxOf?_eq_none_iff, List.mem_reverse] at none
  exact none

theorem indexByte_some (s : Bytes) (b : UInt8) (i : Nat) (found : indexByte s b = some i) :
    ∃ before after, s = before ++ b :: after ∧ b ∉ before ∧ before.length = i := by
  have member : b ∈ s := by
    by_contra absent
    have none := List.idxOf?_eq_none_iff.mpr absent
    rw [indexByte, none] at found
    cases found
  obtain ⟨before, after, rfl, absent⟩ := List.eq_append_cons_of_mem member
  rw [indexByte_append before after b absent] at found
  exact ⟨before, after, rfl, absent, Option.some.inj found⟩

theorem lastIndexByte_some (s : Bytes) (b : UInt8) (i : Nat) (found : lastIndexByte s b = some i) :
    ∃ before after, s = before ++ b :: after ∧ b ∉ after ∧ before.length = i := by
  have member : b ∈ s.reverse := by
    by_contra absent
    have none := List.idxOf?_eq_none_iff.mpr absent
    rw [lastIndexByte, none] at found
    cases found
  obtain ⟨after, before, reversed, absent⟩ := List.eq_append_cons_of_mem member
  have whole : s = before.reverse ++ b :: after.reverse := by
    rw [← List.reverse_reverse s, reversed]
    simp
  have last : b ∉ after.reverse := by simpa using absent
  rw [whole, lastIndexByte_append _ _ b last] at found
  exact ⟨_, _, whole, last, Option.some.inj found⟩

theorem lastIndexByte_absent (s : Bytes) (b : UInt8) (absent : b ∉ s) : lastIndexByte s b = none := by
  rw [lastIndexByte, Option.map_eq_none_iff, List.idxOf?_eq_none_iff, List.mem_reverse]
  exact absent

theorem bind_ok {ε α β : Type} {x : Except ε α} {f : α → Except ε β} {b : β} (ok : x >>= f = .ok b) :
    ∃ a, x = .ok a ∧ f a = .ok b := by
  cases x with
  | error e => cases ok
  | ok a => exact ⟨a, rfl, ok⟩

def Bracketed (host inner : Bytes) : Prop := host = 0x5b :: inner ++ [0x5d] ∧ ∀ b ∈ inner, ¬IsDelimiter b

theorem checkBrackets_ok {hostport name host port : Bytes} {i j k : Nat}
    (ok : checkBrackets hostport name i j k = .ok (host, port)) :
    host = name ∧ port = hostport.drop (i + 1) ∧ 0x5b ∉ hostport.drop j ∧ 0x5d ∉ hostport.drop k := by
  unfold checkBrackets at ok
  split at ok
  · cases ok
  · split at ok
    · cases ok
    · rename_i opening closing
      cases ok
      exact ⟨rfl, rfl, opening, closing⟩

theorem drop_past (before after : Bytes) (b : UInt8) : (before ++ b :: after).drop (before.length + 1) = after := by
  rw [← List.drop_drop, List.drop_left]
  rfl

section Join

variable {host port : Bytes} (plain : ∀ b ∈ port, ¬IsDelimiter b)

include plain

theorem port_unsplit : 0x3a ∉ port := fun member => plain _ member (.inl rfl)

theorem splitHostPort_colon (colon : 0x3a ∈ host) (name rest : Bytes)
    (ok : splitHostPort (joinHostPort host port) = .ok (name, rest)) : name = host ∧ rest = port := by
  have shape : joinHostPort host port = (0x5b :: host ++ [0x5d]) ++ 0x3a :: port := by
    simp [joinHostPort, colon, text]
    rfl
  have last := lastIndexByte_append (0x5b :: host ++ [0x5d]) port 0x3a (port_unsplit plain)
  rw [shape] at ok
  unfold splitHostPort at ok
  rw [last] at ok
  simp only [List.cons_append, List.head?_cons, if_true] at ok
  split at ok
  · cases ok
  · rename_i closing found
    split at ok
    · cases ok
    · split at ok
      · rename_i position
        obtain ⟨rfl, rfl, _⟩ := checkBrackets_ok ok
        have place : closing = host.length + 1 := by
          simp at position
          omega
        subst place
        refine ⟨?_, ?_⟩
        · simp
        · simp
      · split at ok <;> cases ok

theorem splitHostPort_plain (plainHost : 0x3a ∉ host) (name rest : Bytes)
    (ok : splitHostPort (joinHostPort host port) = .ok (name, rest)) :
    rest = port ∧ (name = host ∧ (∀ inner, ¬Bracketed host inner) ∨ Bracketed host name) := by
  have shape : joinHostPort host port = host ++ 0x3a :: port := by
    simp [joinHostPort, plainHost, text]
    rfl
  have last := lastIndexByte_append host port 0x3a (port_unsplit plain)
  rw [shape] at ok
  unfold splitHostPort at ok
  rw [last] at ok
  dsimp only at ok
  split at ok
  · rename_i opens
    split at ok
    · cases ok
    · rename_i closing found
      split at ok
      · cases ok
      · split at ok
        · rename_i position
          obtain ⟨rfl, rfl, opening, _⟩ := checkBrackets_ok ok
          obtain ⟨before, after, whole, absent, length⟩ := indexByte_some _ _ _ found
          have split : host ++ 0x3a :: port = (before ++ [0x5d]) ++ after := by rw [whole, List.append_assoc]; rfl
          obtain ⟨shape', _⟩ := List.append_inj split (by simp [length, position])
          refine ⟨drop_past host port 0x3a, .inr ?_⟩
          cases before with
          | nil =>
            rw [whole] at opens
            cases opens
          | cons first inner =>
            rw [whole] at opens
            cases opens
            have name : ((host ++ 0x3a :: port).take closing).drop 1 = inner := by
              rw [whole, ← length, List.take_left]
              rfl
            rw [name]
            refine ⟨shape', ?_⟩
            rintro b member (rfl | rfl | rfl)
            · exact plainHost (by rw [shape']; simp [member])
            · apply opening
              rw [whole]
              simp [member]
            · exact absent (List.mem_cons_of_mem _ member)
        · split at ok <;> cases ok
  · rename_i opens
    split at ok
    · cases ok
    · obtain ⟨rfl, rfl, opening, closing⟩ := checkBrackets_ok ok
      refine ⟨drop_past host port 0x3a, .inl ⟨List.take_left, ?_⟩⟩
      rintro inner ⟨rfl, _⟩
      exact opens rfl

theorem splitHostPort_enclosed {inner : Bytes} (opening : 0x5b ∉ inner) (closing : 0x5d ∉ inner) :
    splitHostPort (0x5b :: inner ++ 0x5d :: 0x3a :: port) = .ok (inner, port) := by
  have last : lastIndexByte (0x5b :: inner ++ 0x5d :: 0x3a :: port) 0x3a = some (inner.length + 2) := by
    have found := lastIndexByte_append (0x5b :: inner ++ [0x5d]) port 0x3a (port_unsplit plain)
    simpa using found
  have first : indexByte (0x5b :: inner ++ 0x5d :: 0x3a :: port) 0x5d = some (inner.length + 1) := by
    refine (indexByte_append (0x5b :: inner) (0x3a :: port) 0x5d ?_).trans (by simp)
    simp only [List.mem_cons]
    rintro (same | member)
    · cases same
    · exact closing member
  have free : ∀ b, IsDelimiter b → b ∉ port := fun b delimiter member => plain b member delimiter
  have reopened : (0x5b : UInt8) ∉ (0x5b :: inner ++ 0x5d :: 0x3a :: port).drop 1 := by
    simp [opening, free _ (.inr (.inl rfl))]
  have dropped : (0x5b :: inner ++ 0x5d :: 0x3a :: port).drop (inner.length + 2) = 0x3a :: port := by simp
  have late : (0x5d : UInt8) ∉ 0x3a :: port := by simp [free _ (.inr (.inr rfl))]
  have long : inner.length + 1 + 1 ≠ (0x5b :: inner ++ 0x5d :: 0x3a :: port).length := by simp
  have middle : ((0x5b :: inner ++ 0x5d :: 0x3a :: port).take (inner.length + 1)).drop 1 = inner := by simp
  have tail : (0x5b :: inner ++ 0x5d :: 0x3a :: port).drop (inner.length + 2 + 1) = port := by
    rw [← List.drop_drop, dropped]
    rfl
  unfold splitHostPort
  rw [last, first]
  dsimp only
  have opens : (0x5b :: inner ++ 0x5d :: 0x3a :: port).head? = some 0x5b := rfl
  rw [if_pos opens, if_neg long, if_pos rfl, checkBrackets, if_neg reopened, dropped, if_neg late, middle, tail]

theorem splitHostPort_bracketed {inner : Bytes} (bracketed : Bracketed host inner) :
    splitHostPort (joinHostPort host port) = .ok (inner, port) := by
  obtain ⟨rfl, free⟩ := bracketed
  have absent : ∀ b, IsDelimiter b → b ∉ inner := fun b delimiter member => free b member delimiter
  have shape : joinHostPort (0x5b :: inner ++ [0x5d]) port = 0x5b :: inner ++ 0x5d :: 0x3a :: port := by
    simp [joinHostPort, absent _ (.inl rfl), text]
    rfl
  rw [shape]
  exact splitHostPort_enclosed plain (absent _ (.inr (.inl rfl))) (absent _ (.inr (.inr rfl)))

theorem splitHostPort_join (opening : 0x5b ∉ host) (closing : 0x5d ∉ host) :
    splitHostPort (joinHostPort host port) = .ok (host, port) := by
  by_cases colon : 0x3a ∈ host
  · have shape : joinHostPort host port = 0x5b :: host ++ 0x5d :: 0x3a :: port := by
      simp [joinHostPort, colon, text]
      rfl
    rw [shape]
    exact splitHostPort_enclosed plain opening closing
  · have shape : joinHostPort host port = host ++ 0x3a :: port := by
      simp [joinHostPort, colon, text]
      rfl
    have last := lastIndexByte_append host port 0x3a (port_unsplit plain)
    have free : ∀ b, IsDelimiter b → b ∉ port := fun b delimiter member => plain b member delimiter
    have outside : (host ++ 0x3a :: port).head? ≠ some 0x5b := by
      cases host with
      | nil => simp
      | cons b host =>
        rw [List.cons_append, List.head?_cons, ne_eq, Option.some.injEq]
        rintro rfl
        exact opening List.mem_cons_self
    have noOpening : (0x5b : UInt8) ∉ (host ++ 0x3a :: port).drop 0 := by
      simp [opening, free _ (.inr (.inl rfl))]
    have noClosing : (0x5d : UInt8) ∉ (host ++ 0x3a :: port).drop 0 := by
      simp [closing, free _ (.inr (.inr rfl))]
    rw [shape]
    unfold splitHostPort
    rw [last]
    dsimp only
    rw [if_neg outside, List.take_left, if_neg colon, checkBrackets, if_neg noOpening, if_neg noClosing,
      drop_past host port 0x3a]

example : splitHostPort (joinHostPort (text "::1") (decimal 443)) = .ok (text "::1", text "443") := by decide +kernel

end Join

end Rtc2Tcp.Go

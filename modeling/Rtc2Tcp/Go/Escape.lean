import Rtc2Tcp.Go.Net

namespace Rtc2Tcp.Go

open Octets

inductive Encoding where
  | path
  | host
  | zone
  | userPassword
  | queryComponent
  | fragment
deriving DecidableEq, Repr

inductive URLError where
  | escape (s : Bytes)
  | invalidHost (c : UInt8)
  | controlCharacter
  | missingScheme
  | colonInSegment
  | invalidUserinfo
  | missingBracket
  | invalidPort (s : Bytes)
  | invalidAddress
deriving DecidableEq, Repr

def isDigit (c : UInt8) : Bool := 0x30 ≤ c && c ≤ 0x39

def isLetter (c : UInt8) : Bool := (0x61 ≤ c && c ≤ 0x7a) || (0x41 ≤ c && c ≤ 0x5a)

def isHex (c : UInt8) : Bool := isDigit c || (0x61 ≤ c && c ≤ 0x66) || (0x41 ≤ c && c ≤ 0x46)

def unhex (c : UInt8) : UInt8 :=
  if isDigit c then c - 0x30 else if 0x61 ≤ c && c ≤ 0x66 then c - 0x61 + 10 else c - 0x41 + 10

def upperHex (n : UInt8) : UInt8 := if n < 10 then 0x30 + n else 0x41 + (n - 10)

def shouldEscape (c : UInt8) (mode : Encoding) : Bool :=
  if isLetter c || isDigit c then false
  else if (mode = .host ∨ mode = .zone) ∧ c ∈ text "!$&'()*+,;=:[]<>\"" then false
  else if c ∈ text "-_.~" then false
  else if c ∈ text "$&+,/:;=?@" then
    match mode with
    | .path => c = 0x3f
    | .userPassword => c ∈ text "@/?:"
    | .fragment => false
    | .queryComponent | .host | .zone => true
  else if mode = .fragment ∧ c ∈ text "!()*" then false
  else true

def escapeByte (mode : Encoding) (c : UInt8) : Bytes :=
  if shouldEscape c mode then
    if c = 0x20 ∧ mode = .queryComponent then [0x2b] else [0x25, upperHex (c >>> 4), upperHex (c &&& 0xf)]
  else [c]

def escape (s : Bytes) (mode : Encoding) : Bytes := s.flatMap (escapeByte mode)

def hexByte (a b : UInt8) : UInt8 := unhex a <<< 4 ||| unhex b

/-- Escapes that a host or a zone must not have: a host only those of bytes outside ASCII, a zone also those of bytes
    that it may hold anyway and of the space; `%25` is allowed in both. -/
def forbidden (mode : Encoding) (a b : UInt8) : Bool :=
  match mode with
  | .host => unhex a < 8 && [a, b] != text "25"
  | .zone => [a, b] != text "25" && hexByte a b != 0x20 && shouldEscape (hexByte a b) .host
  | _ => false

def unescape (mode : Encoding) : Bytes → Except URLError Bytes
  | [] => .ok []
  | c :: rest =>
    if c = 0x25 then
      match rest with
      | a :: b :: rest =>
        if isHex a && isHex b && !forbidden mode a b then (unescape mode rest).map (hexByte a b :: ·)
        else .error (.escape [c, a, b])
      | rest => .error (.escape (c :: rest))
    else if (mode = .host ∨ mode = .zone) ∧ c < 0x80 ∧ shouldEscape c mode then .error (.invalidHost c)
    else (unescape mode rest).map ((if c = 0x2b ∧ mode = .queryComponent then 0x20 else c) :: ·)

def queryUnescape (s : Bytes) : Except URLError Bytes := unescape .queryComponent s

/-- What `unescape` accepts, and its result. -/
inductive Decodes (mode : Encoding) : Bytes → Bytes → Prop where
  | nil : Decodes mode [] []
  | escaped {a b : UInt8} {s t : Bytes} (hexA : isHex a = true) (hexB : isHex b = true)
      (allowed : forbidden mode a b = false) (rest : Decodes mode s t) :
      Decodes mode (0x25 :: a :: b :: s) (hexByte a b :: t)
  | plain {c : UInt8} {s t : Bytes} (percent : c ≠ 0x25)
      (allowed : ¬((mode = .host ∨ mode = .zone) ∧ c < 0x80 ∧ shouldEscape c mode = true)) (rest : Decodes mode s t) :
      Decodes mode (c :: s) ((if c = 0x2b ∧ mode = .queryComponent then 0x20 else c) :: t)

theorem map_ok {ε α β : Type} {x : Except ε α} {f : α → β} {b : β} (ok : x.map f = .ok b) :
    ∃ a, x = .ok a ∧ f a = b := by
  cases x with
  | error e => cases ok
  | ok a => exact ⟨a, rfl, Except.ok.inj ok⟩

theorem unescape_decodes (mode : Encoding) (s t : Bytes) (ok : unescape mode s = .ok t) : Decodes mode s t := by
  fun_induction unescape mode s generalizing t with
  | case1 =>
    cases ok
    exact .nil
  | case2 a b rest accepted ih =>
    obtain ⟨tail, decoded, rfl⟩ := map_ok ok
    simp only [Bool.and_eq_true, Bool.not_eq_eq_eq_not, Bool.not_true] at accepted
    exact .escaped accepted.1.1 accepted.1.2 accepted.2 (ih tail decoded)
  | case3 | case4 | case5 => cases ok
  | case6 c rest percent allowed ih =>
    obtain ⟨tail, decoded, rfl⟩ := map_ok ok
    exact .plain percent allowed (ih tail decoded)

theorem Decodes.unescape {mode : Encoding} {s t : Bytes} (decodes : Decodes mode s t) : unescape mode s = .ok t := by
  induction decodes with
  | nil => rfl
  | escaped hexA hexB allowed _ ih => simp [Go.unescape, hexA, hexB, allowed, ih, Except.map]
  | plain percent allowed _ ih =>
    rw [Go.unescape.eq_def]
    dsimp only
    rw [if_neg percent, if_neg allowed, ih]
    rfl

theorem unescape_iff (mode : Encoding) (s t : Bytes) : unescape mode s = .ok t ↔ Decodes mode s t :=
  ⟨unescape_decodes mode s t, Decodes.unescape⟩

example : queryUnescape (text "a%20b+c") = .ok (text "a b c") := by decide +kernel

example : unescape .host (text "a%41") = .error (.escape (text "%41")) := by decide +kernel

/-- The bytes of a host: those outside ASCII, the percent sign, in a zone the space, and those that need no escape. -/
def HostByte (c : UInt8) : Prop := 0x80 ≤ c ∨ c = 0x25 ∨ c = 0x20 ∨ shouldEscape c .host = false

instance (c : UInt8) : Decidable (HostByte c) := inferInstanceAs (Decidable (_ ∨ _ ∨ _ ∨ _))

theorem shouldEscape_zone {mode : Encoding} (host : mode = .host ∨ mode = .zone) (c : UInt8) :
    shouldEscape c mode = shouldEscape c .host := by
  rcases host with rfl | rfl
  · rfl
  · simp [shouldEscape]

theorem hexByte_of_high (a b : UInt8) (hex : isHex a = true) (high : ¬unhex a < 8) : 0x80 ≤ hexByte a b := by
  have shifted : ∀ c : UInt8, isHex c = true → ¬unhex c < 8 → 0x80 ≤ (unhex c <<< 4).toNat :=
    forall_octet (by decide +kernel)
  rw [hexByte, UInt8.le_iff_toNat_le, UInt8.toNat_or]
  exact Nat.le_trans (shifted a hex high) Nat.left_le_or

theorem hexByte_of_allowed {a b : UInt8} (hex : isHex a = true) (allowed : forbidden .host a b = false) :
    0x80 ≤ hexByte a b ∨ hexByte a b = 0x25 := by
  by_cases low : unhex a < 8
  · right
    have digits : [a, b] = [0x32, 0x35] := by
      simp only [forbidden, Bool.and_eq_false_imp, decide_eq_true_eq, bne_eq_false_iff_eq] at allowed
      exact allowed low
    obtain ⟨rfl, rest⟩ := List.cons.inj digits
    obtain ⟨rfl, _⟩ := List.cons.inj rest
    decide
  · exact .inl (hexByte_of_high a b hex low)

theorem hostByte_of_allowed {mode : Encoding} {a b : UInt8} (host : mode = .host ∨ mode = .zone) (hex : isHex a = true)
    (allowed : forbidden mode a b = false) : HostByte (hexByte a b) := by
  rcases host with rfl | rfl
  · exact (hexByte_of_allowed hex allowed).imp_right .inl
  · by_cases percent : hexByte a b = 0x25
    · exact .inr (.inl percent)
    · by_cases space : hexByte a b = 0x20
      · exact .inr (.inr (.inl space))
      · refine .inr (.inr (.inr ?_))
        simp only [forbidden, Bool.and_eq_false_imp, Bool.and_eq_true, bne_iff_ne] at allowed
        refine allowed ⟨?_, space⟩
        intro digits
        obtain ⟨rfl, rest⟩ := List.cons.inj (digits.trans (show text "25" = [0x32, 0x35] from rfl))
        obtain ⟨rfl, _⟩ := List.cons.inj rest
        exact percent (by decide)

namespace Decodes

variable {mode : Encoding} {s t : Bytes}

theorem length_le (decodes : Decodes mode s t) : t.length ≤ s.length := by
  induction decodes with
  | nil => exact Nat.le_refl _
  | escaped _ _ _ _ ih =>
    simp only [List.length_cons]
    omega
  | plain _ _ _ ih => simpa using ih

theorem unescaped_of_length (decodes : Decodes mode s t) (same : t.length = s.length) : 0x25 ∉ s := by
  induction decodes with
  | nil => exact List.not_mem_nil
  | escaped _ _ _ rest _ =>
    have shorter := rest.length_le
    simp only [List.length_cons] at same
    omega
  | plain percent _ _ ih =>
    simp only [List.length_cons, Nat.add_right_cancel_iff] at same
    simp only [List.mem_cons, not_or]
    exact ⟨fun here => percent here.symm, ih same⟩

theorem eq_of_unescaped (decodes : Decodes mode s t) (query : mode ≠ .queryComponent) (percent : 0x25 ∉ s) : t = s := by
  induction decodes with
  | nil => rfl
  | escaped => exact absurd List.mem_cons_self percent
  | plain _ _ _ ih => rw [ih (fun later => percent (List.mem_cons_of_mem _ later)), if_neg fun both => query both.2]

theorem append {s' t' : Bytes} (decodes : Decodes mode s t) (rest : Decodes mode s' t') :
    Decodes mode (s ++ s') (t ++ t') := by
  induction decodes with
  | nil => exact rest
  | escaped hexA hexB allowed _ ih => exact .escaped hexA hexB allowed ih
  | plain percent allowed _ ih => exact .plain percent allowed ih

theorem split {w : Bytes} (decodes : Decodes mode (s ++ w) t) (digits : ∀ c ∈ w, isHex c = false) :
    ∃ front back, Decodes mode s front ∧ Decodes mode w back ∧ t = front ++ back := by
  generalize whole : s ++ w = text at decodes
  induction decodes generalizing s with
  | nil =>
    obtain ⟨rfl, rfl⟩ := List.append_eq_nil_iff.mp whole
    exact ⟨[], [], .nil, .nil, rfl⟩
  | @escaped a b rest tail hexA hexB allowed decoded ih =>
    match s with
    | [] =>
      rw [List.nil_append] at whole
      exact ⟨[], _, .nil, whole ▸ .escaped hexA hexB allowed decoded, rfl⟩
    | [_] =>
      have digit := digits a (by simp_all)
      rw [hexA] at digit
      cases digit
    | [_, _] =>
      have digit := digits b (by simp_all)
      rw [hexB] at digit
      cases digit
    | x :: y :: z :: s =>
      simp only [List.cons_append, List.cons.injEq] at whole
      obtain ⟨rfl, rfl, rfl, whole⟩ := whole
      obtain ⟨front, back, decodedFront, decodedBack, rfl⟩ := ih whole
      exact ⟨_ :: front, back, .escaped hexA hexB allowed decodedFront, decodedBack, rfl⟩
  | @plain c rest tail percent allowed decoded ih =>
    match s with
    | [] =>
      rw [List.nil_append] at whole
      exact ⟨[], _, .nil, whole ▸ .plain percent allowed decoded, rfl⟩
    | x :: s =>
      simp only [List.cons_append, List.cons.injEq] at whole
      obtain ⟨rfl, whole⟩ := whole
      obtain ⟨front, back, decodedFront, decodedBack, rfl⟩ := ih whole
      exact ⟨_ :: front, back, .plain percent allowed decodedFront, decodedBack, rfl⟩

theorem of_unescaped (query : mode ≠ .queryComponent) (percent : 0x25 ∉ s)
    (allowed : ∀ c ∈ s, ¬((mode = .host ∨ mode = .zone) ∧ c < 0x80 ∧ shouldEscape c mode = true)) : Decodes mode s s := by
  induction s with
  | nil => exact .nil
  | cons c s ih =>
    simp only [List.mem_cons, not_or] at percent
    have rest := ih percent.2 fun d member => allowed d (List.mem_cons_of_mem _ member)
    have step := Decodes.plain (fun here => percent.1 here.symm) (allowed c List.mem_cons_self) rest
    rwa [if_neg fun both => query both.2] at step

theorem plus_of_eq (decodes : Decodes .queryComponent s t) (same : t = s) : 0x2b ∉ s := by
  induction decodes with
  | nil => exact List.not_mem_nil
  | escaped _ _ _ rest _ =>
    have shorter := rest.length_le
    have lengths := congrArg List.length same
    simp only [List.length_cons] at lengths
    omega
  | @plain c s t _ _ _ ih =>
    obtain ⟨first, rest⟩ := List.cons.inj same
    simp only [List.mem_cons, not_or]
    refine ⟨?_, ih rest⟩
    rintro rfl
    simp at first

theorem query_iff : Decodes .queryComponent s s ↔ 0x25 ∉ s ∧ 0x2b ∉ s := by
  constructor
  · intro decodes
    exact ⟨decodes.unescaped_of_length rfl, decodes.plus_of_eq rfl⟩
  · rintro ⟨percent, plus⟩
    induction s with
    | nil => exact .nil
    | cons c s ih =>
      simp only [List.mem_cons, not_or] at percent plus
      have step : Decodes .queryComponent (c :: s) _ :=
        .plain (fun here => percent.1 here.symm) (by simp) (ih percent.2 plus.2)
      rwa [if_neg fun both => plus.1 both.1.symm] at step

theorem host_bytes (host : mode = .host ∨ mode = .zone) (decodes : Decodes mode s t) (c : UInt8) (member : c ∈ t) :
    HostByte c := by
  induction decodes with
  | nil => exact absurd member List.not_mem_nil
  | escaped hexA hexB allowed _ ih =>
    rcases List.mem_cons.mp member with rfl | later
    · exact hostByte_of_allowed host hexA allowed
    · exact ih later
  | @plain d _ _ percent allowed _ ih =>
    rcases List.mem_cons.mp member with rfl | later
    · have query : mode ≠ .queryComponent := by rcases host with rfl | rfl <;> nofun
      rw [if_neg fun both => query both.2]
      by_cases ascii : d < 0x80
      · refine .inr (.inr (.inr ?_))
        rw [← shouldEscape_zone host, ← Bool.not_eq_true]
        exact fun escapes => allowed ⟨host, ascii, escapes⟩
      · exact .inl (UInt8.not_lt.mp ascii)
    · exact ih later

theorem host_mem (decodes : Decodes .host s t) {c : UInt8} (ascii : c < 0x80) (percent : c ≠ 0x25) (member : c ∈ t) :
    c ∈ s := by
  induction decodes with
  | nil => cases member
  | escaped hexA _ allowed _ ih =>
    rcases List.mem_cons.mp member with rfl | later
    · rcases hexByte_of_allowed hexA allowed with high | same
      · exact absurd ascii (UInt8.not_lt.mpr high)
      · exact absurd same percent
    · exact List.mem_cons_of_mem _ (List.mem_cons_of_mem _ (List.mem_cons_of_mem _ (ih later)))
  | plain _ _ _ ih =>
    rcases List.mem_cons.mp member with here | later
    · rw [if_neg fun both => nomatch both.2] at here
      exact List.mem_cons.mpr (.inl here)
    · exact List.mem_cons_of_mem _ (ih later)

theorem host_dropWhile (decodes : Decodes .host s t) {c : UInt8} (ascii : c < 0x80) (percent : c ≠ 0x25)
    (digit : isHex c = false) : Decodes .host (s.dropWhile (· ≠ c)) (t.dropWhile (· ≠ c)) := by
  have other : ∀ d, isHex d = true → d ≠ c := by
    rintro d hex rfl
    rw [hex] at digit
    cases digit
  induction decodes with
  | nil => exact .nil
  | @escaped a b _ _ hexA hexB allowed _ ih =>
    have new : hexByte a b ≠ c := by
      rcases hexByte_of_allowed hexA allowed with high | same
      · rintro rfl
        exact absurd ascii (UInt8.not_lt.mpr high)
      · rw [same]
        exact percent.symm
    simpa [List.dropWhile_cons, percent.symm, other a hexA, other b hexB, new] using ih
  | @plain d s t here allowed rest ih =>
    have same : (if d = 0x2b ∧ Encoding.host = .queryComponent then 0x20 else d) = d := if_neg fun both => nomatch both.2
    have step := Decodes.plain here allowed rest
    rw [same] at step ⊢
    by_cases found : d = c
    · simpa [List.dropWhile_cons, found] using found ▸ step
    · simpa [List.dropWhile_cons, found] using ih

theorem host_again (decodes : Decodes .host s t) (percent : 0x25 ∉ t) : Decodes .host t t := by
  have same : ∀ c : UInt8, (if c = 0x2b ∧ Encoding.host = .queryComponent then 0x20 else c) = c := by simp
  induction decodes with
  | nil => exact .nil
  | @escaped a b _ _ hexA _ allowed _ ih =>
    simp only [List.mem_cons, not_or] at percent
    have high : 0x80 ≤ hexByte a b := (hexByte_of_allowed hexA allowed).resolve_right fun here => percent.1 here.symm
    have step := Decodes.plain (fun here => percent.1 here.symm)
      (fun limits => absurd high (UInt8.not_le.mpr limits.2.1)) (ih percent.2)
    rwa [same] at step
  | plain here allowed _ ih =>
    rw [same] at percent ⊢
    simp only [List.mem_cons, not_or] at percent
    have step := Decodes.plain here allowed (ih percent.2)
    rwa [same] at step

theorem escapeByte_userPassword (c : UInt8) : Decodes .userPassword (escapeByte .userPassword c) [c] := by
  have digits : ∀ c : UInt8, isHex (upperHex (c >>> 4)) = true ∧ isHex (upperHex (c &&& 0xf)) = true ∧
      hexByte (upperHex (c >>> 4)) (upperHex (c &&& 0xf)) = c := forall_octet (by decide +kernel)
  have percent : shouldEscape 0x25 .userPassword = true := by decide
  obtain ⟨high, low, back⟩ := digits c
  unfold escapeByte
  split
  · have step : Decodes .userPassword _ _ := .escaped high low rfl .nil
    rw [back] at step
    simpa using step
  · rename_i plain
    have step : Decodes .userPassword (c :: []) _ := .plain (by rintro rfl; exact plain percent) (by simp) .nil
    simpa using step

theorem escape_userPassword (s : Bytes) : Decodes .userPassword (escape s .userPassword) s := by
  induction s with
  | nil => exact .nil
  | cons c s ih => exact (escapeByte_userPassword c).append ih

example : escape (text "a b@c+d") .userPassword = text "a%20b%40c+d" := by decide +kernel

end Decodes

end Rtc2Tcp.Go

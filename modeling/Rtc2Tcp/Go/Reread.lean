import Rtc2Tcp.Go.Locator

namespace Rtc2Tcp.Go

open Octets

variable {h p host path : Bytes} {user : Option Userinfo}

theorem Decodes.unique {mode : Encoding} {s t t' : Bytes} (first : Decodes mode s t) (second : Decodes mode s t') :
    t = t' := Except.ok.inj (first.unescape.symm.trans second.unescape)

theorem Located.reads_iff (located : Located h p) :
    Reads (h ++ p) user host path ↔ user = none ∧ HostText h host ∧ Decodes .path (locator p) path ∧
      containsCTLByte (cut p 0x23).1 = false ∧ ∃ f, Decodes .fragment (cut p 0x23).2 f := by
  have absent : ∀ c ∈ h, c ≠ 0x2f ∧ c ≠ 0x3f ∧ c ≠ 0x23 ∧ c ≠ 0x40 ∧ (decide (c < 0x20) || decide (c = 0x7f)) = false :=
    fun c member => (located.bytes c member).delimiters
  have slash : ∀ c ∈ h, decide (c ≠ 0x2f) = true := fun c member => by simp [(absent c member).1]
  have cutting := cut_append h p 0x23 fun member => (absent _ member).2.2.1 rfl
  have split := locator_append h p (fun member => (absent _ member).2.2.1 rfl) fun member => (absent _ member).2.1 rfl
  have rooted : (locator p).takeWhile (· ≠ 0x2f) = [] ∧ (locator p).dropWhile (· ≠ 0x2f) = locator p := by
    rcases located.rooted with rfl | ⟨rest, rfl⟩
    · exact ⟨rfl, rfl⟩
    · rw [show (0x2f :: rest : Bytes) = [0x2f] ++ rest from rfl, locator_append [0x2f] rest (by decide) (by decide)]
      exact ⟨rfl, rfl⟩
  have taken : (locator (h ++ p)).takeWhile (· ≠ 0x2f) = h := by
    rw [split, List.takeWhile_append_of_pos slash, rooted.1, List.append_nil]
  have dropped : (locator (h ++ p)).dropWhile (· ≠ 0x2f) = locator p := by
    rw [split, List.dropWhile_append_of_pos slash, rooted.2]
  have printable : containsCTLByte (cut (h ++ p) 0x23).1 = containsCTLByte (cut p 0x23).1 := by
    have clean : h.any (fun c => c < 0x20 || c = 0x7f) = false := by
      rw [List.any_eq_false]
      intro c member
      simpa using (absent c member).2.2.2.2
    rw [cutting, containsCTLByte, List.any_append, clean, Bool.false_or, containsCTLByte]
  have authority := parseAuthority_plain h (fun member => (absent _ member).2.2.2.1 rfl) user host
  constructor
  · rintro ⟨clean, parsed, decoded, fragment⟩
    rw [taken, authority] at parsed
    rw [dropped] at decoded
    rw [printable] at clean
    rw [cutting] at fragment
    exact ⟨parsed.1, parsed.2, decoded, clean, fragment⟩
  · rintro ⟨bare, hosted, decoded, clean, fragment⟩
    refine ⟨?_, ?_, ?_, ?_⟩
    · rw [printable]
      exact clean
    · rw [taken, authority]
      exact ⟨bare, hosted⟩
    · rw [dropped]
      exact decoded
    · rw [cutting]
      exact fragment

theorem slash_visible : Visible 0x2f := by decide

theorem Located.trimRight (located : Located h p) :
    (p = [] → Go.trimRight (h ++ p) = Go.trimRight h) ∧ (p ≠ [] → Go.trimRight (h ++ p) = h ++ Go.trimRight p) := by
  refine ⟨?_, ?_⟩
  · rintro rfl
    rw [List.append_nil]
  · intro nonempty
    rcases located.rooted with rfl | ⟨rest, rfl⟩
    · exact absurd rfl nonempty
    · have alone := trimRight_visible [] rest 0x2f slash_visible
      rw [List.nil_append, List.nil_append] at alone
      rw [trimRight_visible _ _ _ slash_visible, alone]

theorem Located.trimmed (located : Located h p) :
    Located (Go.trimRight h) [] ∧ (p ≠ [] → Located h (Go.trimRight p)) := by
  refine ⟨⟨fun c member => located.bytes c ((trimRight_front h).subset member), .inl rfl⟩, ?_⟩
  intro nonempty
  refine ⟨located.bytes, ?_⟩
  rcases located.rooted with rfl | ⟨rest, rfl⟩
  · exact absurd rfl nonempty
  · have alone := trimRight_visible [] rest 0x2f slash_visible
    exact .inr ⟨_, alone⟩

theorem Located.reread (located : Located h p) :
    Reads (Go.trimRight (h ++ p)) user host path ↔
      user = none ∧ HostText (if p = [] then Go.trimRight h else h) host ∧ Decodes .path (locator (Go.trimRight p)) path ∧
        containsCTLByte (cut (Go.trimRight p) 0x23).1 = false ∧ ∃ f, Decodes .fragment (cut (Go.trimRight p) 0x23).2 f := by
  by_cases none : p = []
  · have trimmed : Reads (Go.trimRight h ++ []) user host path ↔ _ := located.trimmed.1.reads_iff
    rw [located.trimRight.1 none, if_pos none, none]
    rw [List.append_nil] at trimmed
    exact trimmed
  · rw [located.trimRight.2 none, if_neg none]
    exact (located.trimmed.2 none).reads_iff

theorem locator_bytes (r : Bytes) (c : UInt8) (member : c ∈ locator r) : c ≠ 0x23 ∧ c ≠ 0x3f := by
  have query := List.mem_takeWhile_imp member
  have fragment := List.mem_takeWhile_imp (( List.takeWhile_prefix _).subset member)
  simp only [ne_eq, decide_not, Bool.not_eq_eq_eq_not, Bool.not_true, decide_eq_false_iff_not] at query fragment
  exact ⟨fragment, query⟩

theorem locator_literal (r : Bytes) (fragment : 0x23 ∉ r) (query : 0x3f ∉ r) : locator r = r := by
  rw [locator, cut_absent _ _ fragment, cut_absent _ _ query]

def Literal (p : Bytes) : Prop := 0x25 ∉ p ∧ 0x3f ∉ p ∧ 0x23 ∉ p

theorem Decodes.literal_of_length {p path : Bytes} (decodes : Decodes .path (locator p) path)
    (same : path.length = p.length) : Literal p ∧ path = p := by
  have shorter := decodes.length_le
  have front := (locator_front p).length_le
  have whole : locator p = p := (locator_front p).eq_of_length (by omega)
  rw [whole] at decodes
  have percent := decodes.unescaped_of_length same
  refine ⟨⟨percent, ?_, ?_⟩, decodes.eq_of_unescaped nofun percent⟩
  · intro member
    exact (locator_bytes p _ (by rw [whole]; exact member)).2 rfl
  · intro member
    exact (locator_bytes p _ (by rw [whole]; exact member)).1 rfl

theorem Literal.decodes {p : Bytes} (literal : Literal p) : Decodes .path (locator p) p := by
  rw [locator_literal p literal.2.2 literal.2.1]
  refine .of_unescaped nofun literal.1 ?_
  simp

section Reread

variable (located : Located h p) (reads : Reads (Go.trimRight (h ++ p)) user host path)

include located reads

theorem Located.reread_length : host.length ≤ h.length ∧ path.length ≤ (Go.trimRight p).length := by
  obtain ⟨_, hosted, decodes, _⟩ := located.reread.mp reads
  have shorter := hosted.length_le
  have trimmed := (trimRight_front h).length_le
  refine ⟨?_, decodes.length_le.trans (locator_front _).length_le⟩
  split at shorter <;> omega

theorem Located.reread_host (same : host.length = h.length) :
    0x25 ∉ h ∧ host = h ∧ (p = [] → Go.trimRight h = h) := by
  obtain ⟨_, hosted, _⟩ := located.reread.mp reads
  have shorter := hosted.length_le
  have front := trimRight_front h
  have trimmed := front.length_le
  split at hosted
  · rename_i none
    rw [if_pos none] at shorter
    have whole : Go.trimRight h = h := front.eq_of_length (by omega)
    rw [whole] at hosted
    obtain ⟨percent, kept⟩ := hosted.of_length same
    exact ⟨percent, kept, fun _ => whole⟩
  · rename_i some
    obtain ⟨percent, kept⟩ := hosted.of_length same
    exact ⟨percent, kept, fun none => absurd none some⟩

theorem Located.reread_path (same : path.length = (Go.trimRight p).length) :
    Literal (Go.trimRight p) ∧ path = Go.trimRight p := by
  obtain ⟨_, _, decodes, _⟩ := located.reread.mp reads
  exact decodes.literal_of_length same

theorem Located.reread_literal {name : Bytes} (hosted : HostText name h) (percent : 0x25 ∉ h)
    (blank : p = [] → Go.trimRight h = h) (literal : Literal (Go.trimRight p)) : host = h ∧ path = Go.trimRight p := by
  obtain ⟨_, again, decodes, _⟩ := located.reread.mp reads
  refine ⟨?_, decodes.unique literal.decodes⟩
  have whole : (if p = [] then Go.trimRight h else h) = h := by
    split
    · rename_i none
      exact blank none
    · rfl
  rw [whole] at again
  exact (hosted.again percent).decoded_unique again

end Reread

theorem Located.next (located : Located h p) (reads : Reads (Go.trimRight (h ++ p)) user host path) : Located host path := by
  obtain ⟨_, hosted, decodes, _⟩ := located.reread.mp reads
  refine ⟨hosted.bytes, ?_⟩
  by_cases none : p = []
  · rw [none] at decodes
    cases decodes
    exact .inl rfl
  · rcases (located.trimmed.2 none).rooted with empty | ⟨rest, whole⟩
    · rw [empty] at decodes
      cases decodes
      exact .inl rfl
    · rw [whole, show (0x2f :: rest : Bytes) = [0x2f] ++ rest from rfl,
        locator_append [0x2f] rest (by decide) (by decide)] at decodes
      cases decodes with
      | plain => exact .inr ⟨_, rfl⟩

theorem Located.reread_again {name : Bytes} (located : Located h p) (hosted : HostText name h) (percent : 0x25 ∉ h)
    (blank : p = [] → Go.trimRight h = h) (literal : Literal p) (whole : Go.trimRight p = p)
    (printable : containsCTLByte (cut p 0x23).1 = false) : Reads (Go.trimRight (h ++ p)) none h p := by
  refine located.reread.mpr ⟨rfl, ?_, ?_, ?_, [], ?_⟩
  · split
    · rename_i none
      rw [blank none]
      exact hosted.again percent
    · exact hosted.again percent
  · rw [whole]
    exact literal.decodes
  · rw [whole]
    exact printable
  · rw [whole, cut_absent _ _ literal.2.2]
    exact .nil

def Escapes : Bytes → Bool
  | [] => true
  | c :: rest =>
    if c = 0x25 then
      match rest with
      | a :: b :: rest => isHex a && isHex b && Escapes rest
      | _ => false
    else Escapes rest

theorem Decodes.escapes {mode : Encoding} {s t : Bytes} (decodes : Decodes mode s t) : Escapes s = true := by
  induction decodes with
  | nil => rfl
  | escaped hexA hexB _ _ ih =>
    rw [Escapes, if_pos rfl]
    simp [hexA, hexB, ih]
  | plain percent _ _ ih =>
    unfold Escapes
    rwa [if_neg percent]

theorem Decodes.of_escapes (mode : Encoding) (host : mode ≠ .host) (zone : mode ≠ .zone) {s : Bytes}
    (escapes : Escapes s = true) : ∃ t, Decodes mode s t := by
  have allowed : ∀ a b, forbidden mode a b = false := by
    intro a b
    cases mode <;> first | rfl | exact absurd rfl host | exact absurd rfl zone
  fun_induction Escapes s with
  | case1 => exact ⟨[], .nil⟩
  | case2 a b rest ih =>
    simp only [Bool.and_eq_true] at escapes
    obtain ⟨t, decodes⟩ := ih escapes.2
    exact ⟨_, .escaped escapes.1.1 escapes.1.2 (allowed a b) decodes⟩
  | case3 => cases escapes
  | case4 c rest percent ih =>
    obtain ⟨t, decodes⟩ := ih escapes
    refine ⟨_, .plain percent ?_ decodes⟩
    rintro ⟨same | same, _⟩
    · exact host same
    · exact zone same

theorem parseAuthority_after (before after : Bytes) (at_ : 0x40 ∉ after)
    (parsed : parseAuthority (before ++ 0x40 :: after) = .ok (user, host)) : HostText after host := by
  rw [parseAuthority, lastIndexByte_append _ _ _ at_] at parsed
  dsimp only at parsed
  rw [drop_past] at parsed
  obtain ⟨name, result, parsed⟩ := bind_ok parsed
  obtain ⟨info, _, parsed⟩ := bind_ok parsed
  cases parsed
  exact (parseHost_iff _ _).mp result

theorem parseAuthority_blank {t w trimmed : Bytes} {other : Option Userinfo} (blank : Blank w)
    (parsed : parseAuthority (t ++ w) = .ok (user, host)) (front : parseAuthority t = .ok (other, trimmed)) :
    host = trimmed ++ w := by
  have outside : (0x40 : UInt8) ∉ w := by
    intro member
    have byte := blank.bytes _ member
    revert byte
    decide
  by_cases at_ : (0x40 : UInt8) ∈ t
  · cases found : lastIndexByte t 0x40 with
    | none => exact absurd at_ (lastIndexByte_none _ _ found)
    | some i =>
      obtain ⟨before, after, rfl, absent, _⟩ := lastIndexByte_some _ _ _ found
      rw [List.append_assoc, List.cons_append] at parsed
      have padded := parseAuthority_after before (after ++ w) (by simp [absent, outside]) parsed
      exact padded.blank (parseAuthority_after before after absent front) blank
  · have padded := ((parseAuthority_plain (t ++ w) (by simp [at_, outside]) _ _).mp parsed).2
    exact padded.blank ((parseAuthority_plain t at_ _ _).mp front).2 blank

theorem takeWhile_found (before after : Bytes) (sep : UInt8) (absent : sep ∉ before) :
    (before ++ sep :: after).takeWhile (· ≠ sep) = before ∧
      (before ++ sep :: after).dropWhile (· ≠ sep) = sep :: after := by
  have all : ∀ c ∈ before, decide (c ≠ sep) = true := by
    intro c member
    simp only [ne_eq, decide_eq_true_eq]
    rintro rfl
    exact absent member
  rw [List.takeWhile_append_of_pos all, List.dropWhile_append_of_pos all]
  simp

theorem takeWhile_absent (s : Bytes) (sep : UInt8) (absent : sep ∉ s) :
    s.takeWhile (· ≠ sep) = s ∧ s.dropWhile (· ≠ sep) = [] := by
  have all : ∀ c ∈ s, decide (c ≠ sep) = true := by
    intro c member
    simp only [ne_eq, decide_eq_true_eq]
    rintro rfl
    exact absent member
  refine ⟨?_, List.dropWhile_eq_nil_iff.mpr all⟩
  rw [List.takeWhile_eq_self_iff]
  exact all

theorem HostText.trimmed {name : Bytes} (hosted : HostText name h) (percent : 0x25 ∉ h) :
    HostText (Go.trimRight h) (Go.trimRight h) := by
  have again := hosted.again percent
  -- behind a bracket or a colon there are only digits, so that nothing is trimmed
  have port : ∀ (front rest : Bytes) (c : UInt8), Visible c → (∀ d ∈ rest, d = 0x3a ∨ isDigit d = true) →
      Go.trimRight (front ++ c :: rest) = front ++ c :: rest := by
    have visible : ∀ c : UInt8, c = 0x3a ∨ isDigit c = true → Visible c := forall_octet (by decide +kernel)
    intro front rest c first digits
    rcases List.eq_nil_or_concat rest with rfl | ⟨before, last, rfl⟩
    · rw [trimRight_visible _ _ _ first]
      rfl
    · rw [List.concat_eq_append] at digits ⊢
      have regroup : front ++ c :: (before ++ [last]) = (front ++ c :: before) ++ [last] := by simp
      rw [regroup, trimRight_visible _ _ _ (visible last (digits last (by simp)))]
      rfl
  cases hosted with
  | plain bracket valid decodes =>
    have opens : (0x5b : UInt8) ∉ h := fun member => bracket (decodes.host_mem (by decide) (by decide) member)
    rw [← validOptionalPort_decodes valid (decodes.host_dropWhile (by decide) (by decide) (by decide))] at valid
    by_cases colon : (0x3a : UInt8) ∈ h
    · obtain ⟨front, rest, whole, absent⟩ := List.eq_append_cons_of_mem colon
      rw [whole, (takeWhile_found front rest 0x3a absent).2] at valid
      have kept := port front rest 0x3a (by decide) fun d member =>
        validOptionalPort_bytes valid d (List.mem_cons_of_mem _ member)
      rw [← whole] at kept
      rwa [kept]
    · have front := trimRight_front h
      obtain ⟨w, blank, whole⟩ := trimRight_append h
      have literal := decodes.host_again percent
      rw [whole] at literal
      obtain ⟨first, _, decodesFront, _, _⟩ := literal.split fun c member => by
        have plain : ∀ c : UInt8, c ≤ 0x20 ∨ 0x80 ≤ c → isHex c = false := forall_octet (by decide +kernel)
        exact plain c (blank.bytes c member)
      rw [decodesFront.eq_of_unescaped nofun fun member => percent (front.subset member)] at decodesFront
      refine .plain (fun member => opens (front.subset member)) ?_ decodesFront
      rw [(takeWhile_absent _ _ fun member => colon (front.subset member)).2]
      rfl
  | @bracketed name decoded rest before absent valid named addr parsed long =>
    have kept := port (0x5b :: decoded) rest 0x5d (by decide) (validOptionalPort_bytes valid)
    rwa [kept]

/-- What is left of a host when it is written in front of a path and trimmed. -/
def trimmedHost (h p : Bytes) : Bytes := if p = [] then Go.trimRight h else h

/-- A decoded host and path that can be read once more: what is left of the host is still one, which only a percent sign
    can change; and in the path every percent sign starts an escape, and no control character stands before a `#`. -/
structure Legible (h p : Bytes) : Prop where
  host : trimmedHost h p ≠ []
  percent : 0x25 ∈ h → (parseHost (trimmedHost h p)).isOk = true
  path : Escapes (locator (Go.trimRight p)) = true
  printable : containsCTLByte (cut (Go.trimRight p) 0x23).1 = false
  fragment : Escapes (cut (Go.trimRight p) 0x23).2 = true

theorem HostText.nonempty {name : Bytes} (hosted : HostText name h) : h ≠ [] ↔ name ≠ [] := by
  rw [not_iff_not]
  cases hosted with
  | plain _ _ decodes =>
    constructor
    · rintro rfl
      cases decodes
      rfl
    · rintro rfl
      cases decodes
      rfl
  | bracketed => simp

theorem Located.legible_iff {name : Bytes} (located : Located h p) (hosted : HostText name h) :
    (∃ user host path, Reads (Go.trimRight (h ++ p)) user host path ∧ host ≠ []) ↔ Legible h p := by
  constructor
  · rintro ⟨user, host, path, reads, nonempty⟩
    obtain ⟨_, again, decodes, printable, f, fragment⟩ := located.reread.mp reads
    refine ⟨again.nonempty.mp nonempty, fun _ => ?_, decodes.escapes, printable, fragment.escapes⟩
    rw [trimmedHost, (parseHost_iff _ _).mpr again]
    rfl
  · intro legible
    have again : ∃ host, HostText (trimmedHost h p) host := by
      by_cases percent : (0x25 : UInt8) ∈ h
      · have accepted := legible.percent percent
        cases parsed : parseHost (trimmedHost h p) with
        | error e =>
          rw [parsed] at accepted
          cases accepted
        | ok host => exact ⟨host, (parseHost_iff _ _).mp parsed⟩
      · refine ⟨trimmedHost h p, ?_⟩
        unfold trimmedHost
        split
        · exact hosted.trimmed percent
        · exact hosted.again percent
    obtain ⟨host, again⟩ := again
    obtain ⟨path, decodes⟩ := Decodes.of_escapes .path (by decide) (by decide) legible.path
    obtain ⟨f, fragment⟩ := Decodes.of_escapes .fragment (by decide) (by decide) legible.fragment
    exact ⟨none, host, path, located.reread.mpr ⟨rfl, again, decodes, legible.printable, f, fragment⟩,
      again.nonempty.mpr legible.host⟩

theorem locator_ended (t w : Bytes) (fragment : 0x23 ∉ w) (ended : (0x23 : UInt8) ∈ t ∨ (0x3f : UInt8) ∈ t) :
    locator (t ++ w) = locator t := by
  by_cases inside : (0x23 : UInt8) ∈ t
  · obtain ⟨before, after, rfl, absent⟩ := List.eq_append_cons_of_mem inside
    have first : ∀ tail, (cut (before ++ 0x23 :: tail) 0x23).1 = before := fun tail => (takeWhile_found before tail _ absent).1
    rw [List.append_assoc, List.cons_append, locator, locator, first, first]
  · obtain ⟨before, after, rfl, absent⟩ := List.eq_append_cons_of_mem (ended.resolve_left inside)
    have first : ∀ tail, (cut (before ++ 0x3f :: tail) 0x3f).1 = before := fun tail => (takeWhile_found before tail _ absent).1
    have whole : (0x23 : UInt8) ∉ before ++ 0x3f :: after ++ w := by
      rw [List.mem_append, not_or]
      exact ⟨inside, fragment⟩
    rw [locator, locator, cut_absent _ _ whole, cut_absent _ _ inside]
    dsimp only
    rw [List.append_assoc, List.cons_append, first, first]

/-- How the white space at the end of a URL shows in what is read from it: not at all, at the end of the path, or at
    the end of the host. -/
theorem reads_blank {t w trimmedHost trimmedPath : Bytes} {other : Option Userinfo} (blank : Blank w)
    (reads : Reads (t ++ w) user host path) (front : Reads t other trimmedHost trimmedPath) :
    (host = trimmedHost ∧ ∃ v, Blank v ∧ path = trimmedPath ++ v ∧ (trimmedPath = [] → v = [])) ∨
      (∃ v, Blank v ∧ host = trimmedHost ++ v ∧ path = [] ∧ trimmedPath = []) := by
  have empty : Blank [] := ⟨[], by simp, rfl⟩
  have outside : ∀ c ∈ w, c ≠ 0x23 ∧ c ≠ 0x3f ∧ c ≠ 0x2f ∧ c ≠ 0x25 ∧ isHex c = false := by
    have all : ∀ c : UInt8, c ≤ 0x20 ∨ 0x80 ≤ c → c ≠ 0x23 ∧ c ≠ 0x3f ∧ c ≠ 0x2f ∧ c ≠ 0x25 ∧ isHex c = false :=
      forall_octet (by decide +kernel)
    exact fun c member => all c (blank.bytes c member)
  by_cases ended : (0x23 : UInt8) ∈ t ∨ (0x3f : UInt8) ∈ t
  · have same := locator_ended t w (fun member => (outside _ member).1 rfl) ended
    have authority := reads.authority
    have decoded := reads.path
    rw [same] at authority decoded
    rw [front.authority] at authority
    cases authority
    exact .inl ⟨rfl, [], empty, by rw [List.append_nil]; exact decoded.unique front.path, fun _ => rfl⟩
  · rw [not_or] at ended
    have whole : locator t = t := locator_literal t ended.1 ended.2
    have padded : locator (t ++ w) = t ++ w := by
      apply locator_literal
      · simp only [List.mem_append, not_or]
        exact ⟨ended.1, fun member => (outside _ member).1 rfl⟩
      · simp only [List.mem_append, not_or]
        exact ⟨ended.2, fun member => (outside _ member).2.1 rfl⟩
    have authority := reads.authority
    have decoded := reads.path
    have authorityFront := front.authority
    have decodedFront := front.path
    rw [padded] at authority decoded
    rw [whole] at authorityFront decodedFront
    by_cases slash : (0x2f : UInt8) ∈ t
    · obtain ⟨name, rest, rfl, absent⟩ := List.eq_append_cons_of_mem slash
      have regroup : name ++ 0x2f :: rest ++ w = name ++ 0x2f :: (rest ++ w) := by simp
      rw [regroup, (takeWhile_found name _ _ absent).1] at authority
      rw [regroup, (takeWhile_found name _ _ absent).2, ← List.cons_append] at decoded
      rw [(takeWhile_found name _ _ absent).1, authority] at authorityFront
      rw [(takeWhile_found name _ _ absent).2] at decodedFront
      cases authorityFront
      obtain ⟨first, last, decodesFirst, decodesLast, rfl⟩ := decoded.split fun c member => (outside c member).2.2.2.2
      obtain rfl := decodesFirst.unique decodedFront
      have kept : last = w := decodesLast.eq_of_unescaped nofun fun member => (outside _ member).2.2.2.1 rfl
      refine .inl ⟨rfl, w, blank, by rw [kept], ?_⟩
      rintro rfl
      cases decodesFirst
    · have padded : (0x2f : UInt8) ∉ t ++ w := by
        simp only [List.mem_append, not_or]
        exact ⟨slash, fun member => (outside _ member).2.2.1 rfl⟩
      rw [(takeWhile_absent _ _ padded).1] at authority
      rw [(takeWhile_absent _ _ padded).2] at decoded
      rw [(takeWhile_absent _ _ slash).1] at authorityFront
      rw [(takeWhile_absent _ _ slash).2] at decodedFront
      cases decoded
      cases decodedFront
      exact .inr ⟨w, blank, parseAuthority_blank blank authority authorityFront, rfl, rfl⟩

end Rtc2Tcp.Go

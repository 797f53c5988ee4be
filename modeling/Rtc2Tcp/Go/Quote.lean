import Mathlib.Tactic.Ring
import Rtc2Tcp.Go.Escape
import Rtc2Tcp.Go.Strings
import Rtc2Tcp.Lib.Delimited

namespace Rtc2Tcp.Go

open Octets

def lowerhex (d : Nat) : UInt8 := if d < 10 then UInt8.ofNat (0x30 + d) else UInt8.ofNat (0x57 + d)

def hexDigits : (width : Nat) → Nat → Bytes
  | 0, _ => []
  | width + 1, n => lowerhex (n / 16 ^ width % 16) :: hexDigits width n

def namedEscapes : List (Nat × UInt8) :=
  [(7, 0x61), (8, 0x62), (12, 0x66), (10, 0x6e), (13, 0x72), (9, 0x74), (11, 0x76)]

/-- What `appendEscapedRune` writes behind the backslash for a rune that is not printable. -/
def escapeRune (r : Nat) : UInt8 × Bytes :=
  match namedEscapes.lookup r with
  | some letter => (letter, [])
  | none =>
    if r < 0x20 ∨ r = 0x7f then (0x78, hexDigits 2 r)
    else if 0x10ffff < r ∨ (0xd800 ≤ r ∧ r ≤ 0xdfff) then (0x75, hexDigits 4 runeError)
    else if r < 0x10000 then (0x75, hexDigits 4 r)
    else (0x55, hexDigits 8 r)

section Quote

variable (isPrint : Nat → Bool)

def appendEscapedRune (r : Nat) : Bytes :=
  if r = 0x22 ∨ r = 0x5c then [0x5c, UInt8.ofNat r]
  else if isPrint r then encodeRune r
  else 0x5c :: (escapeRune r).1 :: (escapeRune r).2

def quoteRune (r : Rune) : Bytes :=
  if r.code = runeError ∧ r.raw.length = 1 then 0x5c :: 0x78 :: hexDigits 2 (r.raw.headD 0).toNat
  else appendEscapedRune isPrint r.code

/-- `strconv.Quote`. Which runes are printable depends on the version of Unicode and is left open. -/
def quote (s : Bytes) : Bytes := 0x22 :: (runes s).flatMap (quoteRune isPrint) ++ [0x22]

end Quote

theorem hexDigits_length (width n : Nat) : (hexDigits width n).length = width := by
  induction width with
  | zero => rfl
  | succ width ih => rw [hexDigits, List.length_cons, ih]

def hexValue (digits : Bytes) : Nat := digits.foldl (fun acc c => acc * 16 + (unhex c).toNat) 0

theorem lowerhex_value : ∀ d < 16, (unhex (lowerhex d)).toNat = d := by decide

theorem hexValue_hexDigits (width n : Nat) (fits : n < 16 ^ width) : hexValue (hexDigits width n) = n := by
  have general : ∀ width acc, (hexDigits width n).foldl (fun acc c => acc * 16 + (unhex c).toNat) acc =
      acc * 16 ^ width + n % 16 ^ width := by
    intro width
    induction width with
    | zero =>
      intro acc
      simp [hexDigits, Nat.mod_one]
    | succ width ih =>
      intro acc
      rw [hexDigits, List.foldl_cons, ih, lowerhex_value _ (Nat.mod_lt _ (by omega)), Nat.pow_succ, Nat.mod_mul]
      ring
  rw [hexValue, general, Nat.zero_mul, Nat.zero_add, Nat.mod_eq_of_lt fits]

def escapeWidth (letter : UInt8) : Nat :=
  if letter = 0x78 then 2 else if letter = 0x75 then 4 else if letter = 0x55 then 8 else 0

def escaped (letter : UInt8) (digits : Bytes) : Bytes :=
  if letter = 0x78 then [UInt8.ofNat (hexValue digits)]
  else if letter = 0x75 ∨ letter = 0x55 then encodeRune (hexValue digits)
  else
    match namedEscapes.find? fun named => named.2 = letter with
    | some named => [UInt8.ofNat named.1]
    | none => [letter]

/-- A scalar value of Unicode. -/
def Scalar (c : Nat) : Prop := c ≤ 0x10ffff ∧ ¬(0xd800 ≤ c ∧ c ≤ 0xdfff)

theorem Rune.Decoded.scalar {r : Rune} (decoded : r.Decoded) (valid : ¬r.Broken) : Scalar r.code := by
  obtain ⟨written, read⟩ := decoded.valid valid
  by_contra other
  have outside : 0x10ffff < r.code ∨ (0xd800 ≤ r.code ∧ r.code ≤ 0xdfff) := by
    unfold Scalar at other
    omega
  have replaced : r.raw = [0xef, 0xbf, 0xbd] := by
    rw [written, encodeRune, if_neg (by omega), if_neg (by omega), if_pos outside]
  have code : r.code = runeError := by
    have again := read []
    rw [replaced] at again
    exact (congrArg Prod.fst again).symm
  rw [code] at outside
  exact absurd outside (by decide)

theorem escapeRune_named (r : Nat) (letter : UInt8) (named : namedEscapes.lookup r = some letter) :
    escapeWidth letter = 0 ∧ escaped letter [] = encodeRune r := by
  have all : ∀ entry ∈ namedEscapes, escapeWidth entry.2 = 0 ∧ escaped entry.2 [] = encodeRune entry.1 := by
    decide +kernel
  have member : (r, letter) ∈ namedEscapes := by
    obtain ⟨before, after, split, _⟩ := List.lookup_eq_some_iff.mp named
    rw [split]
    exact List.mem_append_right _ List.mem_cons_self
  exact all _ member

theorem escapeRune_spec (r : Nat) (scalar : Scalar r) :
    (escapeRune r).2.length = escapeWidth (escapeRune r).1 ∧
      escaped (escapeRune r).1 (escapeRune r).2 = encodeRune r := by
  obtain ⟨bound, surrogate⟩ := scalar
  unfold escapeRune
  split
  · rename_i letter named
    obtain ⟨width, meaning⟩ := escapeRune_named r letter named
    exact ⟨width.symm, meaning⟩
  split
  · rename_i control
    refine ⟨hexDigits_length _ _, ?_⟩
    have meaning : escaped 0x78 (hexDigits 2 r) = [UInt8.ofNat (hexValue (hexDigits 2 r))] := rfl
    rw [meaning, hexValue_hexDigits 2 r (by omega), encodeRune, if_pos (by omega)]
  rw [if_neg (by omega)]
  split
  · rename_i small
    refine ⟨hexDigits_length _ _, ?_⟩
    have meaning : escaped 0x75 (hexDigits 4 r) = encodeRune (hexValue (hexDigits 4 r)) := rfl
    rw [meaning, hexValue_hexDigits 4 r (by omega)]
  · refine ⟨hexDigits_length _ _, ?_⟩
    have meaning : escaped 0x55 (hexDigits 8 r) = encodeRune (hexValue (hexDigits 8 r)) := rfl
    rw [meaning, hexValue_hexDigits 8 r (by omega)]

section Quoted

variable (isPrint : Nat → Bool)

/-- A rune of a quoted string is there as it is, or as an escape that says what it is. -/
inductive Quoted (r : Rune) : Bytes → Prop
  | plain (valid : ¬r.Broken) (printed : isPrint r.code = true) (quote : r.code ≠ 0x22) (backslash : r.code ≠ 0x5c) :
      Quoted r r.raw
  | escape (letter : UInt8) (digits : Bytes) (width : digits.length = escapeWidth letter)
      (meaning : escaped letter digits = r.raw) : Quoted r (0x5c :: letter :: digits)

theorem quoteRune_quoted (r : Rune) (decoded : r.Decoded) : Quoted isPrint r (quoteRune isPrint r) := by
  unfold quoteRune
  split
  · rename_i broken
    obtain ⟨b, single, _⟩ := decoded.broken broken
    refine .escape _ _ (hexDigits_length _ _) ?_
    have meaning : ∀ digits, escaped 0x78 digits = [UInt8.ofNat (hexValue digits)] := fun _ => rfl
    rw [meaning, hexValue_hexDigits 2 _ (UInt8.toNat_lt _), single]
    simp
  · rename_i valid
    obtain ⟨written, _⟩ := decoded.valid valid
    unfold appendEscapedRune
    split
    · rename_i special
      refine .escape _ _ ?_ ?_
      · rcases special with special | special <;> rw [special] <;> rfl
      · rw [written]
        rcases special with special | special <;> rw [special] <;> rfl
    · rename_i ordinary
      rw [not_or] at ordinary
      split
      · rename_i printed
        rw [← written]
        exact .plain valid printed ordinary.1 ordinary.2
      · obtain ⟨width, meaning⟩ := escapeRune_spec r.code (decoded.scalar valid)
        exact .escape _ _ width (meaning.trans written.symm)

theorem plain_free {r : Rune} (decoded : r.Decoded) (quote : r.code ≠ 0x22) (backslash : r.code ≠ 0x5c) :
    0x22 ∉ r.raw ∧ 0x5c ∉ r.raw :=
  ⟨fun member => quote (decoded.ascii 0x22 member (by decide)),
    fun member => backslash (decoded.ascii 0x5c member (by decide))⟩

theorem Rune.Decoded.nonempty {r : Rune} (decoded : r.Decoded) : r.raw ≠ [] := by
  obtain ⟨b, rest, rfl⟩ := decoded
  intro empty
  have length := congrArg List.length empty
  rw [Rune.Decoded.length] at length
  exact absurd length (Nat.pos_iff_ne_zero.mp (decodeRune_width b rest).1)

theorem Rune.Decoded.runes {r : Rune} (decoded : r.Decoded) : runes r.raw = [r] := by
  have alone : decodeRune r.raw = (r.code, r.raw.length) := by
    by_cases broken : r.Broken
    · obtain ⟨b, single, high⟩ := decoded.broken broken
      have error : decodeRune [b] = (runeError, 1) := by
        unfold decodeRune
        dsimp only
        rw [if_neg (UInt8.not_lt.mpr high)]
        split
        · rfl
        · split
          · rfl
          · split <;> rfl
      rw [single, error, broken.1]
      rfl
    · have read := (decoded.valid broken).2 []
      rwa [List.append_nil] at read
  obtain ⟨b, rest, shape⟩ := List.exists_cons_of_ne_nil decoded.nonempty
  rw [shape, runes_cons, ← shape, alone, List.take_length, List.drop_length, runes_nil]

theorem Rune.Decoded.ext {r t : Rune} (decodedR : r.Decoded) (decodedT : t.Decoded) (same : r.raw = t.raw) : r = t := by
  have runes := decodedR.runes
  rw [same, decodedT.runes] at runes
  exact (List.cons.inj runes).1.symm

theorem quoted_head {r : Rune} (decoded : r.Decoded) {word : Bytes} (quoted : Quoted isPrint r word) (x : Bytes) :
    ∃ b rest, word ++ x = b :: rest ∧ b ≠ 0x22 := by
  cases quoted with
  | escape letter digits => exact ⟨0x5c, letter :: digits ++ x, rfl, by decide⟩
  | plain valid printed quote backslash =>
    obtain ⟨b, rest, shape⟩ := List.exists_cons_of_ne_nil decoded.nonempty
    refine ⟨b, rest ++ x, by rw [shape]; rfl, ?_⟩
    rintro rfl
    exact (plain_free decoded quote backslash).1 (by rw [shape]; exact List.mem_cons_self)

theorem quoted_unique {r t : Rune} (decodedR : r.Decoded) (decodedT : t.Decoded) {word other : Bytes}
    (quotedR : Quoted isPrint r word) (quotedT : Quoted isPrint t other) (x y : Bytes)
    (same : word ++ x = other ++ y) : r = t ∧ x = y := by
  have mixed : ∀ {r : Rune}, r.Decoded → r.code ≠ 0x22 → r.code ≠ 0x5c → ∀ x y, r.raw ++ x ≠ 0x5c :: y := by
    intro r decoded quote backslash x y heads
    obtain ⟨b, rest, shape⟩ := List.exists_cons_of_ne_nil decoded.nonempty
    rw [shape, List.cons_append] at heads
    have first := (List.cons.inj heads).1
    subst first
    exact (plain_free decoded quote backslash).2 (by rw [shape]; exact List.mem_cons_self)
  cases quotedR with
  | plain valid _ quote backslash =>
    cases quotedT with
    | escape letter digits => exact absurd same (mixed decodedR quote backslash x _)
    | plain validT =>
      have read := (decodedR.valid valid).2 x
      rw [same, (decodedT.valid validT).2 y] at read
      obtain ⟨raws, rest⟩ := List.append_inj same (Prod.ext_iff.mp read).2.symm
      exact ⟨decodedR.ext decodedT raws, rest⟩
  | escape letter digits width meaning =>
    cases quotedT with
    | plain _ _ quote backslash => exact absurd same.symm (mixed decodedT quote backslash y _)
    | escape letterT digitsT widthT meaningT =>
      simp only [List.cons_append, List.cons.injEq, true_and] at same
      obtain ⟨rfl, tails⟩ := same
      obtain ⟨rfl, rest⟩ := List.append_inj tails (width.trans widthT.symm)
      exact ⟨decodedR.ext decodedT (meaning.symm.trans meaningT), rest⟩

theorem quoteRune_delimits : Delimited.Delimits (quoteRune isPrint) Rune.Decoded Delimited.anything where
  unique r t x y decodedR decodedT _ _ same :=
    quoted_unique isPrint decodedR decodedT (quoteRune_quoted isPrint r decodedR) (quoteRune_quoted isPrint t decodedT)
      x y same
  next _ _ _ _ := trivial

theorem quote_ends (x : Bytes) : Delimited.Ends (quoteRune isPrint) Rune.Decoded (0x22 :: x) := by
  intro r rest decoded same
  obtain ⟨b, tail, shape, different⟩ := quoted_head isPrint decoded (quoteRune_quoted isPrint r decoded) rest
  rw [shape] at same
  exact different (List.cons.inj same).1

theorem quote_unique (s t x y : Bytes) (same : quote isPrint s ++ x = quote isPrint t ++ y) : s = t ∧ x = y := by
  simp only [quote, List.cons_append, List.append_assoc, List.cons.injEq, true_and] at same
  obtain ⟨runesSame, rest⟩ := (quoteRune_delimits isPrint).flatMap_unique (runes s) (runes t) _ _
    (decoded_of_mem s) (decoded_of_mem t) trivial trivial (quote_ends isPrint x) (quote_ends isPrint y) same
  refine ⟨?_, (List.cons.inj rest).2⟩
  rw [← runes_raw s, runesSame, runes_raw]

end Quoted

def isControl (c : Nat) : Bool := c < 0x20 || (0x7f ≤ c && c ≤ 0x9f)

def Clean (s : Bytes) : Prop := ∀ r ∈ runes s, isControl r.code = false

instance (s : Bytes) : Decidable (Clean s) := inferInstanceAs (Decidable (∀ r ∈ runes s, _))

theorem clean_append (s t : Bytes) (starts : StartsRune t) : Clean (s ++ t) ↔ Clean s ∧ Clean t := by
  simp only [Clean, runes_append s t starts, List.forall_mem_append]

theorem clean_nil : Clean [] := nofun

def Graphic (b : UInt8) : Prop := 0x20 ≤ b ∧ b < 0x7f

instance (b : UInt8) : Decidable (Graphic b) := inferInstanceAs (Decidable (_ ∧ _))

theorem Graphic.clean {s : Bytes} (graphic : ∀ b ∈ s, Graphic b) : Clean s := by
  have below : ∀ b : UInt8, Graphic b → b < 0x80 ∧ isControl b.toNat = false := forall_octet (by decide +kernel)
  intro r member
  rw [runes_ascii s fun b inside => (below b (graphic b inside)).1] at member
  obtain ⟨b, inside, rfl⟩ := List.mem_map.mp member
  exact (below b (graphic b inside)).2

theorem Graphic.clean_append {s : Bytes} (graphic : ∀ b ∈ s, Graphic b) (t : Bytes) : Clean (s ++ t) ↔ Clean t := by
  have below : ∀ b : UInt8, Graphic b → b < 0x80 ∧ isControl b.toNat = false := forall_octet (by decide +kernel)
  induction s with
  | nil => rfl
  | cons b s ih =>
    obtain ⟨low, visible⟩ := below b (graphic b List.mem_cons_self)
    have first : runes (b :: (s ++ t)) = ⟨b.toNat, [b]⟩ :: runes (s ++ t) := by
      rw [runes_cons, decodeRune_ascii b _ low]
      rfl
    refine Iff.trans ?_ (ih fun c member => graphic c (List.mem_cons_of_mem _ member))
    simp only [Clean, List.cons_append, first, List.forall_mem_cons, visible, true_and]

theorem hexDigits_graphic (width n : Nat) (b : UInt8) (member : b ∈ hexDigits width n) : Graphic b := by
  have all : ∀ d < 16, Graphic (lowerhex d) := by decide
  induction width with
  | zero => cases member
  | succ width ih =>
    rcases List.mem_cons.mp member with rfl | later
    · exact all _ (Nat.mod_lt _ (by omega))
    · exact ih later

theorem escapeRune_graphic (r : Nat) (b : UInt8) (member : b ∈ (escapeRune r).1 :: (escapeRune r).2) : Graphic b := by
  have named : ∀ entry ∈ namedEscapes, Graphic entry.2 := by decide
  have numbered : ∀ letter width n, Graphic letter → ∀ b ∈ letter :: hexDigits width n, Graphic b := by
    intro letter width n graphic
    exact List.forall_mem_cons.mpr ⟨graphic, hexDigits_graphic width n⟩
  unfold escapeRune at member
  split at member
  · rename_i letter found
    rw [List.mem_singleton] at member
    subst member
    obtain ⟨before, after, split, _⟩ := List.lookup_eq_some_iff.mp found
    exact named (r, b) (by rw [split]; exact List.mem_append_right _ List.mem_cons_self)
  split at member
  · exact numbered 0x78 2 r (by decide) b member
  split at member
  · exact numbered 0x75 4 runeError (by decide) b member
  split at member
  · exact numbered 0x75 4 r (by decide) b member
  · exact numbered 0x55 8 r (by decide) b member

section Controls

variable {isPrint : Nat → Bool} (hidden : ∀ c, isControl c = true → isPrint c = false)

include hidden

theorem quoteRune_clean (r : Rune) (decoded : r.Decoded) :
    Clean (quoteRune isPrint r) ∧ ∀ x, StartsRune (quoteRune isPrint r ++ x) := by
  have backslash : Graphic 0x5c := by decide
  unfold quoteRune
  split
  · refine ⟨Graphic.clean ?_, fun _ => rfl⟩
    intro b member
    rcases List.mem_cons.mp member with rfl | letter
    · exact backslash
    · rcases List.mem_cons.mp letter with rfl | digit
      · decide
      · exact hexDigits_graphic _ _ b digit
  · rename_i valid
    unfold appendEscapedRune
    split
    · rename_i special
      refine ⟨?_, fun _ => rfl⟩
      rcases special with special | special <;> rw [special] <;> exact Graphic.clean (forall_mem_octets rfl)
    · split
      · rename_i printed
        refine ⟨?_, fun x => (encodeRune_starts r.code x).2⟩
        intro t member
        rw [← (decoded.valid valid).1, decoded.runes, List.mem_singleton] at member
        subst member
        by_contra control
        rw [hidden t.code (Bool.eq_true_of_not_eq_false control)] at printed
        cases printed
      · refine ⟨Graphic.clean ?_, fun _ => rfl⟩
        intro b member
        rcases List.mem_cons.mp member with rfl | rest
        · exact backslash
        · exact escapeRune_graphic r.code b rest

theorem quote_clean (s : Bytes) : Clean (quote isPrint s) := by
  have mark : Clean [0x22] := Graphic.clean (forall_mem_octets rfl)
  have body : ∀ rs : List Rune, (∀ r ∈ rs, r.Decoded) →
      Clean (rs.flatMap (quoteRune isPrint) ++ [0x22]) ∧ StartsRune (rs.flatMap (quoteRune isPrint) ++ [0x22]) := by
    intro rs all
    induction rs with
    | nil => exact ⟨mark, rfl⟩
    | cons r rs ih =>
      obtain ⟨cleanR, starts⟩ := quoteRune_clean hidden r (all r List.mem_cons_self)
      obtain ⟨cleanRest, startsRest⟩ := ih fun t member => all t (List.mem_cons_of_mem _ member)
      rw [List.flatMap_cons, List.append_assoc]
      exact ⟨(clean_append _ _ startsRest).mpr ⟨cleanR, cleanRest⟩, starts _⟩
  obtain ⟨clean, starts⟩ := body (runes s) (decoded_of_mem s)
  exact (clean_append [0x22] _ starts).mpr ⟨mark, clean⟩

example : quote (fun r => 0x20 ≤ r && r < 0x7f) (text "a\"\\\n\x01é" ++ [0xff]) =
    text "\"a\\\"\\\\\\n\\x01\\u00e9\\xff\"" := by
  decide +kernel

end Controls

end Rtc2Tcp.Go

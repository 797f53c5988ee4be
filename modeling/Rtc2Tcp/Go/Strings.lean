import Mathlib.Data.List.DropRight
import Rtc2Tcp.Go.Runes

namespace Rtc2Tcp.Go

open Octets

def trimRunes (rs : List Rune) : List Rune :=
  (rs.dropWhile fun r => isSpace r.code).rdropWhile fun r => isSpace r.code

def trimSpace (s : Bytes) : Bytes := (trimRunes (runes s)).flatMap Rune.raw

/-- `strings.ToUpper`: invalid bytes come out as the encoding of `U+FFFD`. -/
def toUpper (s : Bytes) : Bytes := (runes s).flatMap fun r => encodeRune (upperRune r.code)

def toLower (s : Bytes) : Bytes := (runes s).flatMap fun r => encodeRune (lowerRune r.code)

def Blank (s : Bytes) : Prop := ∃ codes : List Nat, (∀ c ∈ codes, isSpace c) ∧ s = codes.flatMap encodeRune

theorem isSpace_cases (c : Nat) (space : isSpace c) :
    c ∈ [9, 10, 11, 12, 13, 0x20, 0x85, 0xa0, 0x1680, 0x2000, 0x2001, 0x2002, 0x2003, 0x2004,
      0x2005, 0x2006, 0x2007, 0x2008, 0x2009, 0x200a, 0x2028, 0x2029, 0x202f, 0x205f, 0x3000] := by
  simp only [isSpace, Bool.or_eq_true, Bool.and_eq_true, decide_eq_true_eq, beq_iff_eq] at space
  simp only [List.mem_cons, List.not_mem_nil, or_false]
  omega

theorem decodeRune_space (c : Nat) (rest : Bytes) (space : isSpace c) :
    decodeRune (encodeRune c ++ rest) = (c, (encodeRune c).length) ∧
      StartsRune (encodeRune c ++ rest) ∧ encodeRune c ≠ [] := by
  have cases := isSpace_cases c space
  simp only [List.mem_cons, List.not_mem_nil, or_false] at cases
  rcases cases with h | h | h | h | h | h | h | h | h | h | h | h | h | h | h | h | h | h | h | h |
    h | h | h | h | h
  all_goals
    subst h
    exact ⟨rfl, rfl, by decide⟩

theorem runes_space (c : Nat) (rest : Bytes) (space : isSpace c) :
    runes (encodeRune c ++ rest) = ⟨c, encodeRune c⟩ :: runes rest := by
  obtain ⟨decoded, _, nonempty⟩ := decodeRune_space c rest space
  obtain ⟨b, tail, shape⟩ := List.exists_cons_of_ne_nil nonempty
  rw [shape, List.cons_append, runes_cons, ← List.cons_append, ← shape, decoded,
    List.take_left, List.drop_left]

theorem runes_blank (codes : List Nat) (rest : Bytes) (spaces : ∀ c ∈ codes, isSpace c) :
    runes (codes.flatMap encodeRune ++ rest) = codes.map (fun c => ⟨c, encodeRune c⟩) ++ runes rest := by
  induction codes with
  | nil => rfl
  | cons c codes ih =>
    rw [List.flatMap_cons, List.append_assoc, runes_space c _ (spaces c (by simp)),
      ih fun d member => spaces d (List.mem_cons_of_mem _ member)]
    rfl

theorem blank_startsRune (codes : List Nat) (spaces : ∀ c ∈ codes, isSpace c) :
    StartsRune (codes.flatMap encodeRune) := by
  cases codes with
  | nil => exact True.intro
  | cons c codes => exact (decodeRune_space c _ (spaces c (by simp))).2.1

theorem rdropWhile_spaces (rs after : List Rune) (spaces : ∀ r ∈ after, isSpace r.code) :
    (rs ++ after).rdropWhile (fun r => isSpace r.code) = rs.rdropWhile fun r => isSpace r.code := by
  rw [List.rdropWhile, List.reverse_append, List.dropWhile_append_of_pos]
  · rfl
  · intro r member
    exact spaces r (List.mem_reverse.mp member)

theorem trimRunes_padded (before rs after : List Rune) (left : ∀ r ∈ before, isSpace r.code)
    (right : ∀ r ∈ after, isSpace r.code) : trimRunes (before ++ (rs ++ after)) = trimRunes rs := by
  rw [trimRunes, List.dropWhile_append_of_pos left, List.dropWhile_append]
  split
  · rename_i empty
    have none : after.dropWhile (fun r => isSpace r.code) = [] := by
      rw [List.dropWhile_eq_nil_iff]
      exact right
    rw [none, trimRunes, List.isEmpty_iff.mp empty]
  · exact rdropWhile_spaces _ after right

theorem trimSpace_padded (before s after : Bytes) (left : Blank before) (right : Blank after) :
    trimSpace (before ++ (s ++ after)) = trimSpace s := by
  obtain ⟨codesL, spacesL, rfl⟩ := left
  obtain ⟨codesR, spacesR, rfl⟩ := right
  have tail : runes (codesR.flatMap encodeRune) = codesR.map fun c => ⟨c, encodeRune c⟩ := by
    simpa [runes_nil] using runes_blank codesR [] spacesR
  rw [trimSpace, runes_blank _ _ spacesL, runes_append _ _ (blank_startsRune codesR spacesR), tail,
    trimRunes_padded, trimSpace]
  · intro r member
    obtain ⟨c, inCodes, rfl⟩ := List.mem_map.mp member
    exact spacesL c inCodes
  · intro r member
    obtain ⟨c, inCodes, rfl⟩ := List.mem_map.mp member
    exact spacesR c inCodes

example : trimSpace (text " \t ab c\u2003\n") = text "ab c" := by decide

theorem trimSpace_ascii (s : Bytes) (visible : ∀ b ∈ s, b < 0x80 ∧ isSpace b.toNat = false) :
    trimSpace s = s := by
  have decoded := runes_ascii s fun b member => (visible b member).1
  have plain : ∀ r ∈ runes s, isSpace r.code = false := by
    intro r member
    rw [decoded] at member
    obtain ⟨b, inside, rfl⟩ := List.mem_map.mp member
    exact (visible b inside).2
  have left : (runes s).dropWhile (fun r => isSpace r.code) = runes s := by
    rw [List.dropWhile_eq_self_iff]
    intro pos
    simp [plain _ (List.getElem_mem pos)]
  have right : (runes s).rdropWhile (fun r => isSpace r.code) = runes s := by
    rw [List.rdropWhile_eq_self_iff]
    intro nonempty
    simp [plain _ (List.getLast_mem nonempty)]
  rw [trimSpace, trimRunes, left, right, runes_raw]

def trimRight (s : Bytes) : Bytes := ((runes s).rdropWhile fun r => isSpace r.code).flatMap Rune.raw

theorem encodeRune_two (b0 b1 : UInt8) (lead : 0xc2 ≤ b0 ∧ b0 ≤ 0xdf) (second : isContinuation b1 = true) :
    encodeRune (b0.toNat % 32 * 64 + b1.toNat % 64) = [b0, b1] := by
  simp only [isContinuation, Bool.and_eq_true, decide_eq_true_eq, UInt8.le_iff_toNat_le] at lead second
  simp only [UInt8.reduceToNat] at lead second
  rw [encodeRune, if_neg (by omega), if_pos (by omega), ofNat_toNat_eq b0 _ (by omega), ofNat_toNat_eq b1 _ (by omega)]

theorem encodeRune_three (b0 b1 b2 : UInt8) (lead : 0xe0 ≤ b0 ∧ b0 ≤ 0xef) (second : secondInRange b0 b1 = true)
    (third : isContinuation b2 = true) :
    encodeRune (b0.toNat % 16 * 4096 + b1.toNat % 64 * 64 + b2.toNat % 64) = [b0, b1, b2] := by
  have overlong : b0 = 0xe0 → 0xa0 ≤ b1 := by
    rintro rfl
    simp only [secondInRange, beq_self_eq_true, if_true, Bool.and_eq_true, decide_eq_true_eq] at second
    exact second.2
  have surrogate : b0 = 0xed → b1 ≤ 0x9f := by
    rintro rfl
    have different : ((0xed : UInt8) == 0xe0) = false := by decide
    simp only [secondInRange, different, Bool.false_eq_true, if_false, beq_self_eq_true, if_true, Bool.and_eq_true,
      decide_eq_true_eq] at second
    exact second.2
  have continuation : isContinuation b1 = true := (Bool.and_eq_true_iff.mp second).1
  simp only [isContinuation, Bool.and_eq_true, decide_eq_true_eq, UInt8.le_iff_toNat_le, ← UInt8.toNat_inj] at *
  simp only [UInt8.reduceToNat] at *
  rw [encodeRune, if_neg (by omega), if_neg (by omega), if_neg (by omega), if_pos (by omega),
    ofNat_toNat_eq b0 _ (by omega), ofNat_toNat_eq b1 _ (by omega), ofNat_toNat_eq b2 _ (by omega)]

theorem encodeRune_four (b0 b1 b2 b3 : UInt8) (lead : 0xf0 ≤ b0 ∧ b0 ≤ 0xf4) (second : secondInRange b0 b1 = true)
    (third : isContinuation b2 = true) (fourth : isContinuation b3 = true) :
    encodeRune (b0.toNat % 8 * 262144 + b1.toNat % 64 * 4096 + b2.toNat % 64 * 64 + b3.toNat % 64) = [b0, b1, b2, b3] := by
  have overlong : b0 = 0xf0 → 0x90 ≤ b1 := by
    rintro rfl
    have different : ((0xf0 : UInt8) == 0xe0) = false ∧ ((0xf0 : UInt8) == 0xed) = false := by decide
    simp only [secondInRange, different.1, different.2, Bool.false_eq_true, if_false, beq_self_eq_true, if_true,
      Bool.and_eq_true, decide_eq_true_eq] at second
    exact second.2
  have large : b0 = 0xf4 → b1 ≤ 0x8f := by
    rintro rfl
    have different : ((0xf4 : UInt8) == 0xe0) = false ∧ ((0xf4 : UInt8) == 0xed) = false ∧
        ((0xf4 : UInt8) == 0xf0) = false := by decide
    simp only [secondInRange, different.1, different.2.1, different.2.2, Bool.false_eq_true, if_false,
      beq_self_eq_true, if_true, Bool.and_eq_true, decide_eq_true_eq] at second
    exact second.2
  have continuation : isContinuation b1 = true := (Bool.and_eq_true_iff.mp second).1
  simp only [isContinuation, Bool.and_eq_true, decide_eq_true_eq, UInt8.le_iff_toNat_le, ← UInt8.toNat_inj] at *
  simp only [UInt8.reduceToNat] at *
  rw [encodeRune, if_neg (by omega), if_neg (by omega), if_neg (by omega), if_neg (by omega),
    ofNat_toNat_eq b0 _ (by omega), ofNat_toNat_eq b1 _ (by omega), ofNat_toNat_eq b2 _ (by omega),
    ofNat_toNat_eq b3 _ (by omega)]

theorem decodeRune_raw (b : UInt8) (rest : Bytes)
    (valid : ¬((decodeRune (b :: rest)).1 = runeError ∧ (decodeRune (b :: rest)).2 = 1)) :
    (b :: rest).take (decodeRune (b :: rest)).2 = encodeRune (decodeRune (b :: rest)).1 := by
  have ranges : ∀ x y : UInt8, (decide (x ≤ b) && decide (b ≤ y)) = true → x ≤ b ∧ b ≤ y := by simp
  have error : ¬¬(runeError = runeError ∧ (1 : Nat) = 1) := by simp
  revert valid
  unfold decodeRune
  dsimp only
  split
  · rename_i ascii
    intro _
    have small : b.toNat < 0x80 := UInt8.lt_iff_toNat_lt.mp ascii
    rw [encodeRune, if_pos small]
    simp
  split
  · rename_i lead
    split
    · split
      · rename_i second
        intro _
        exact (encodeRune_two b _ (ranges _ _ lead) second).symm
      · exact fun valid => absurd valid error
    · exact fun valid => absurd valid error
  split
  · rename_i lead
    split
    · split
      · rename_i inside
        intro _
        obtain ⟨second, third⟩ := Bool.and_eq_true_iff.mp inside
        exact (encodeRune_three b _ _ (ranges _ _ lead) second third).symm
      · exact fun valid => absurd valid error
    · exact fun valid => absurd valid error
  split
  · rename_i lead
    split
    · split
      · rename_i inside
        intro _
        obtain ⟨both, fourth⟩ := Bool.and_eq_true_iff.mp inside
        obtain ⟨second, third⟩ := Bool.and_eq_true_iff.mp both
        exact (encodeRune_four b _ _ _ (ranges _ _ lead) second third fourth).symm
      · exact fun valid => absurd valid error
    · exact fun valid => absurd valid error
  · exact fun valid => absurd valid error

theorem decodeRune_extend (b : UInt8) (rest x : Bytes)
    (valid : ¬((decodeRune (b :: rest)).1 = runeError ∧ (decodeRune (b :: rest)).2 = 1)) :
    decodeRune ((b :: rest).take (decodeRune (b :: rest)).2 ++ x) = decodeRune (b :: rest) := by
  by_cases ascii : b < 0x80
  · simp [decodeRune, ascii]
  by_cases two : (0xc2 ≤ b && b ≤ 0xdf) = true
  · rcases rest with _ | ⟨b1, tail⟩
    · simp [decodeRune, ascii, two] at valid
    · by_cases second : isContinuation b1 = true
      · simp [decodeRune, ascii, two, second]
      · simp [decodeRune, ascii, two, second] at valid
  by_cases three : (0xe0 ≤ b && b ≤ 0xef) = true
  · rcases rest with _ | ⟨b1, _ | ⟨b2, tail⟩⟩
    · simp [decodeRune, ascii, two, three] at valid
    · simp [decodeRune, ascii, two, three] at valid
    · by_cases inside : (secondInRange b b1 && isContinuation b2) = true
      · simp [decodeRune, ascii, two, three, inside]
      · simp [decodeRune, ascii, two, three, inside] at valid
  by_cases four : (0xf0 ≤ b && b ≤ 0xf4) = true
  · rcases rest with _ | ⟨b1, _ | ⟨b2, _ | ⟨b3, tail⟩⟩⟩
    · simp [decodeRune, ascii, two, three, four] at valid
    · simp [decodeRune, ascii, two, three, four] at valid
    · simp [decodeRune, ascii, two, three, four] at valid
    · by_cases inside : (secondInRange b b1 && isContinuation b2 && isContinuation b3) = true
      · simp [decodeRune, ascii, two, three, four, inside]
      · simp [decodeRune, ascii, two, three, four, inside] at valid
  · simp [decodeRune, ascii, two, three, four] at valid

def Rune.Decoded (r : Rune) : Prop :=
  ∃ b rest, r = ⟨(decodeRune (b :: rest)).1, (b :: rest).take (decodeRune (b :: rest)).2⟩

theorem decoded_of_mem (s : Bytes) (r : Rune) (member : r ∈ runes s) : r.Decoded := by
  induction s using runes_induction with
  | nil => cases member
  | rune b rest ih =>
    rw [runes_cons] at member
    rcases List.mem_cons.mp member with here | later
    · exact ⟨b, rest, here⟩
    · exact ih later

def Rune.Broken (r : Rune) : Prop := r.code = runeError ∧ r.raw.length = 1

instance (r : Rune) : Decidable r.Broken := inferInstanceAs (Decidable (_ ∧ _))

theorem Rune.Decoded.length {b : UInt8} {rest : Bytes} :
    ((b :: rest).take (decodeRune (b :: rest)).2).length = (decodeRune (b :: rest)).2 := by
  rw [List.length_take]
  exact Nat.min_eq_left (decodeRune_width b rest).2

theorem Rune.Decoded.valid {r : Rune} (decoded : r.Decoded) (valid : ¬r.Broken) :
    r.raw = encodeRune r.code ∧ ∀ x, decodeRune (r.raw ++ x) = (r.code, r.raw.length) := by
  obtain ⟨b, rest, rfl⟩ := decoded
  rw [Rune.Broken, Rune.Decoded.length] at valid
  refine ⟨decodeRune_raw b rest valid, fun x => ?_⟩
  rw [decodeRune_extend b rest x valid, Rune.Decoded.length]

theorem Rune.Decoded.broken {r : Rune} (decoded : r.Decoded) (broken : r.Broken) : ∃ b, r.raw = [b] ∧ 0x80 ≤ b := by
  obtain ⟨b, rest, rfl⟩ := decoded
  obtain ⟨error, single⟩ := broken
  rw [Rune.Decoded.length] at single
  refine ⟨b, by rw [single]; rfl, ?_⟩
  by_contra small
  rw [decodeRune_ascii b rest (UInt8.not_le.mp small)] at error
  have low : b.toNat < 0x80 := UInt8.lt_iff_toNat_lt.mp (UInt8.not_le.mp small)
  simp only [runeError] at error
  omega

theorem encodeRune_high (c : Nat) (high : 0x80 ≤ c) (b : UInt8) (member : b ∈ encodeRune c) : 0x80 ≤ b := by
  simp only [UInt8.le_iff_toNat_le, UInt8.reduceToNat]
  unfold encodeRune at member
  rw [if_neg (by omega)] at member
  split at member
  · simp only [List.mem_cons, List.not_mem_nil, or_false] at member
    rcases member with rfl | rfl <;> rw [UInt8.toNat_ofNat'] <;> omega
  split at member
  · simp only [List.mem_cons, List.not_mem_nil, or_false] at member
    rcases member with rfl | rfl | rfl <;> decide
  split at member
  · simp only [List.mem_cons, List.not_mem_nil, or_false] at member
    rcases member with rfl | rfl | rfl <;> rw [UInt8.toNat_ofNat'] <;> omega
  · simp only [List.mem_cons, List.not_mem_nil, or_false] at member
    rcases member with rfl | rfl | rfl | rfl <;> rw [UInt8.toNat_ofNat'] <;> omega

theorem encodeRune_starts (c : Nat) (x : Bytes) : encodeRune c ≠ [] ∧ StartsRune (encodeRune c ++ x) := by
  have lead : ∀ n, n % 256 < 0x80 ∨ 0xc0 ≤ n % 256 → isContinuation (UInt8.ofNat n) = false := by
    intro n outside
    simp only [isContinuation, UInt8.le_iff_toNat_le, UInt8.toNat_ofNat', UInt8.reduceToNat, Bool.and_eq_false_iff,
      decide_eq_false_iff_not]
    omega
  unfold encodeRune
  split
  · exact ⟨nofun, lead _ (by omega)⟩
  split
  · exact ⟨nofun, lead _ (by omega)⟩
  split
  · exact ⟨nofun, rfl⟩
  split
  · exact ⟨nofun, lead _ (by omega)⟩
  · exact ⟨nofun, lead _ (by omega)⟩

theorem Rune.Decoded.ascii {r : Rune} (decoded : r.Decoded) (b : UInt8) (member : b ∈ r.raw) (low : b < 0x80) :
    r.code = b.toNat := by
  by_cases broken : r.Broken
  · obtain ⟨c, single, high⟩ := decoded.broken broken
    rw [single, List.mem_singleton] at member
    subst member
    exact absurd low (UInt8.not_lt.mpr high)
  · rw [(decoded.valid broken).1] at member
    by_cases high : 0x80 ≤ r.code
    · exact absurd low (UInt8.not_lt.mpr (encodeRune_high r.code high b member))
    · rw [encodeRune, if_pos (Nat.not_le.mp high), List.mem_singleton] at member
      rw [member, UInt8.toNat_ofNat']
      omega

theorem ascii_mem_runes {s : Bytes} {b : UInt8} (member : b ∈ s) (low : b < 0x80) :
    ∃ r ∈ runes s, r.code = b.toNat := by
  rw [← runes_raw s] at member
  obtain ⟨r, here, inside⟩ := List.mem_flatMap.mp member
  exact ⟨r, here, (decoded_of_mem s r here).ascii b inside low⟩

theorem runes_space_raw (s : Bytes) (r : Rune) (member : r ∈ runes s) (space : isSpace r.code = true) :
    r.raw = encodeRune r.code := by
  induction s using runes_induction with
  | nil => cases member
  | rune b rest ih =>
    rw [runes_cons] at member
    rcases List.mem_cons.mp member with rfl | later
    · apply decodeRune_raw
      rintro ⟨error, _⟩
      have replacement : isSpace runeError = false := by decide
      rw [error, replacement] at space
      cases space
    · exact ih later

theorem blank_runes (s : Bytes) (spaces : List Rune) (members : ∀ r ∈ spaces, r ∈ runes s)
    (inside : ∀ r ∈ spaces, isSpace r.code = true) : Blank (spaces.flatMap Rune.raw) := by
  refine ⟨spaces.map Rune.code, ?_, ?_⟩
  · intro c member
    obtain ⟨r, here, rfl⟩ := List.mem_map.mp member
    exact inside r here
  · rw [List.flatMap_map]
    apply List.flatMap_congr
    intro r member
    exact runes_space_raw s r (members r member) (inside r member)

theorem trimRight_append (s : Bytes) : ∃ w, Blank w ∧ s = trimRight s ++ w := by
  have whole : (runes s).rdropWhile (fun r => isSpace r.code) ++ (runes s).rtakeWhile (fun r => isSpace r.code) =
      runes s := List.rdropWhile_append_rtakeWhile
  refine ⟨((runes s).rtakeWhile fun r => isSpace r.code).flatMap Rune.raw, blank_runes s _ ?_ ?_, ?_⟩
  · intro r member
    rw [← whole]
    exact List.mem_append_right _ member
  · intro r member
    exact @List.mem_rtakeWhile_imp Rune (fun r => isSpace r.code) (runes s) r member
  · rw [trimRight, ← List.flatMap_append, whole, runes_raw]

theorem trimSpace_append (s : Bytes) :
    ∃ before after, Blank before ∧ Blank after ∧ s = before ++ (trimSpace s ++ after) := by
  have front : (runes s).takeWhile (fun r => isSpace r.code) ++ (runes s).dropWhile (fun r => isSpace r.code) =
      runes s := List.takeWhile_append_dropWhile
  have back : ∀ rs : List Rune, rs.rdropWhile (fun r => isSpace r.code) ++ rs.rtakeWhile (fun r => isSpace r.code) =
      rs := fun _ => List.rdropWhile_append_rtakeWhile
  refine ⟨((runes s).takeWhile fun r => isSpace r.code).flatMap Rune.raw,
    (((runes s).dropWhile fun r => isSpace r.code).rtakeWhile fun r => isSpace r.code).flatMap Rune.raw,
    blank_runes s _ ?_ ?_, blank_runes s _ ?_ ?_, ?_⟩
  · intro r member
    rw [← front]
    exact List.mem_append_left _ member
  · intro r member
    exact @List.mem_takeWhile_imp Rune (fun r => isSpace r.code) _ r member
  · intro r member
    rw [← front]
    apply List.mem_append_right
    rw [← back ((runes s).dropWhile fun r => isSpace r.code)]
    exact List.mem_append_right _ member
  · intro r member
    exact @List.mem_rtakeWhile_imp Rune (fun r => isSpace r.code) _ r member
  · rw [trimSpace, trimRunes, ← List.flatMap_append, back, ← List.flatMap_append, front, runes_raw]

theorem trimSpace_idem (s : Bytes) : trimSpace (trimSpace s) = trimSpace s := by
  obtain ⟨before, after, left, right, whole⟩ := trimSpace_append s
  have same := trimSpace_padded before (trimSpace s) after left right
  rw [← whole] at same
  exact same.symm

theorem trimRight_front (s : Bytes) : trimRight s <+: s := by
  obtain ⟨w, _, whole⟩ := trimRight_append s
  exact ⟨w, whole.symm⟩

theorem trimRight_blank (s w : Bytes) (blank : Blank w) : trimRight (s ++ w) = trimRight s := by
  obtain ⟨codes, spaces, rfl⟩ := blank
  have tail : runes (codes.flatMap encodeRune) = codes.map fun c => ⟨c, encodeRune c⟩ := by
    simpa [runes_nil] using runes_blank codes [] spaces
  rw [trimRight, runes_append _ _ (blank_startsRune codes spaces), tail, rdropWhile_spaces, trimRight]
  intro r member
  obtain ⟨c, inCodes, rfl⟩ := List.mem_map.mp member
  exact spaces c inCodes

theorem Blank.bytes {w : Bytes} (blank : Blank w) (b : UInt8) (member : b ∈ w) : b ≤ 0x20 ∨ 0x80 ≤ b := by
  obtain ⟨codes, spaces, rfl⟩ := blank
  obtain ⟨c, inCodes, inRune⟩ := List.mem_flatMap.mp member
  have all : ∀ c ∈ [9, 10, 11, 12, 13, 0x20, 0x85, 0xa0, 0x1680, 0x2000, 0x2001, 0x2002, 0x2003, 0x2004,
      0x2005, 0x2006, 0x2007, 0x2008, 0x2009, 0x200a, 0x2028, 0x2029, 0x202f, 0x205f, 0x3000],
      (encodeRune c).all (fun b => decide (b ≤ 0x20 ∨ 0x80 ≤ b)) = true := by
    decide +kernel
  exact forall_mem_octets (all c (isSpace_cases c (spaces c inCodes))) b inRune

def Visible (c : UInt8) : Prop := 0x20 < c ∧ c < 0x80

instance (c : UInt8) : Decidable (Visible c) := inferInstanceAs (Decidable (_ ∧ _))

theorem Visible.space {c : UInt8} (visible : Visible c) : isSpace c.toNat = false := by
  have all : ∀ c : UInt8, 0x20 < c → c < 0x80 → isSpace c.toNat = false := forall_octet (by decide +kernel)
  exact all c visible.1 visible.2

theorem Visible.startsRune {c : UInt8} (visible : Visible c) (s : Bytes) : StartsRune (c :: s) := by
  have all : ∀ c : UInt8, c < 0x80 → isContinuation c = false := forall_octet (by decide +kernel)
  exact all c visible.2

theorem Visible.runes {c : UInt8} (visible : Visible c) (s : Bytes) : runes (c :: s) = ⟨c.toNat, [c]⟩ :: runes s :=
  runes_cons_ascii c s visible.2

theorem trimRight_visible (s rest : Bytes) (c : UInt8) (visible : Visible c) :
    trimRight (s ++ c :: rest) = s ++ c :: trimRight rest := by
  have kept : ∀ before after : List Rune, (before ++ ⟨c.toNat, [c]⟩ :: after).rdropWhile (fun r => isSpace r.code) =
      before ++ ⟨c.toNat, [c]⟩ :: after.rdropWhile fun r => isSpace r.code := by
    intro before after
    induction after using List.reverseRecOn with
    | nil =>
      rw [List.rdropWhile_nil]
      apply List.rdropWhile_concat_neg
      simp [visible.space]
    | append_singleton after r ih =>
      rw [← List.cons_append, ← List.append_assoc, List.rdropWhile_concat, List.rdropWhile_concat, ih]
      split
      · rfl
      · simp
  rw [trimRight, runes_append _ _ (visible.startsRune rest), visible.runes, kept, List.flatMap_append, runes_raw,
    List.flatMap_cons, trimRight]
  rfl

theorem trimSpace_visible (s : Bytes) (c : UInt8) (visible : Visible c) : trimSpace (c :: s) = trimRight (c :: s) := by
  have left : (runes (c :: s)).dropWhile (fun r => isSpace r.code) = runes (c :: s) := by
    rw [visible.runes, List.dropWhile_cons_of_neg]
    simp [visible.space]
  rw [trimSpace, trimRunes, left, trimRight]

end Rtc2Tcp.Go

import Rtc2Tcp.Go.Quote

namespace Rtc2Tcp.Go.JSON

open Octets

/-- A value as the scanner sees it; strings and numbers are kept as they are spelled. -/
inductive Value where
  | null
  | bool (value : Bool)
  | number (literal : Bytes)
  | string (literal : Bytes)
  | array (items : List Value)
  | object (members : List (Bytes × Value))
deriving Repr

def isSpace (c : UInt8) : Bool := c == 0x20 || c == 0x09 || c == 0x0d || c == 0x0a

def skipSpace (s : Bytes) : Bytes := s.dropWhile isSpace

def expect (c : UInt8) : Bytes → Option Bytes
  | b :: rest => if b = c then some rest else none
  | [] => none

def escapeLetters : Bytes := text "bfnrt\\/\""

/-- The states inside a string: its text up to the closing quote, and what follows. -/
def scanString : Bytes → Option (Bytes × Bytes)
  | [] => none
  | c :: rest =>
    if c = 0x22 then some ([], rest)
    else if c = 0x5c then
      match rest with
      | [] => none
      | e :: more =>
        if e ∈ escapeLetters then (scanString more).map fun scanned => (c :: e :: scanned.1, scanned.2)
        else if e = 0x75 then
          match more with
          | h₁ :: h₂ :: h₃ :: h₄ :: tail =>
            if isHex h₁ && isHex h₂ && isHex h₃ && isHex h₄ then
              (scanString tail).map fun scanned => (c :: e :: h₁ :: h₂ :: h₃ :: h₄ :: scanned.1, scanned.2)
            else none
          | _ => none
        else none
    else if c < 0x20 then none
    else (scanString rest).map fun scanned => (c :: scanned.1, scanned.2)

def skipDigits : Bytes → Option Bytes
  | c :: rest => if isDigit c then some (rest.dropWhile isDigit) else none
  | [] => none

def skipInteger : Bytes → Option Bytes
  | c :: rest => if c = 0x30 then some rest else skipDigits (c :: rest)
  | [] => none

def skipFraction : Bytes → Option Bytes
  | c :: rest => if c = 0x2e then skipDigits rest else some (c :: rest)
  | [] => some []

def skipOneOf (bytes : Bytes) : Bytes → Bytes
  | c :: rest => if c ∈ bytes then rest else c :: rest
  | [] => []

def skipExponent : Bytes → Option Bytes
  | c :: rest => if c ∈ text "eE" then skipDigits (skipOneOf (text "+-") rest) else some (c :: rest)
  | [] => some []

def scanNumber (s : Bytes) : Option (Bytes × Bytes) := do
  let rest ← skipInteger (skipOneOf (text "-") s)
  let rest ← skipFraction rest
  let rest ← skipExponent rest
  some (s.take (s.length - rest.length), rest)

def scanLiteral (word s : Bytes) : Option Bytes :=
  if word.isPrefixOf s then some (s.drop word.length) else none

def maxNestingDepth : Nat := 10000

-- A value is scanned from its first byte on, items and members from behind the opening bracket or
-- a comma. A value takes at least one byte, and at most two calls are made for one.
mutual
def value : (fuel depth : Nat) → Bytes → Option (Value × Bytes)
  | 0, _, _ => none
  | _ + 1, _, [] => none
  | fuel + 1, depth, c :: rest =>
    if c = 0x7b then
      if depth < maxNestingDepth then
        match expect 0x7d (skipSpace rest) with
        | some rest => some (.object [], rest)
        | none => (members fuel (depth + 1) rest).map fun scanned => (.object scanned.1, scanned.2)
      else none
    else if c = 0x5b then
      if depth < maxNestingDepth then
        match expect 0x5d (skipSpace rest) with
        | some rest => some (.array [], rest)
        | none => (items fuel (depth + 1) rest).map fun scanned => (.array scanned.1, scanned.2)
      else none
    else if c = 0x22 then (scanString rest).map fun scanned => (.string scanned.1, scanned.2)
    else if c = 0x74 then (scanLiteral (text "true") (c :: rest)).map fun rest => (.bool true, rest)
    else if c = 0x66 then (scanLiteral (text "false") (c :: rest)).map fun rest => (.bool false, rest)
    else if c = 0x6e then (scanLiteral (text "null") (c :: rest)).map fun rest => (.null, rest)
    else (scanNumber (c :: rest)).map fun scanned => (.number scanned.1, scanned.2)

def items : (fuel depth : Nat) → Bytes → Option (List Value × Bytes)
  | 0, _, _ => none
  | fuel + 1, depth, s =>
    match value fuel depth (skipSpace s) with
    | none => none
    | some (item, rest) =>
      match skipSpace rest with
      | [] => none
      | c :: rest =>
        if c = 0x2c then (items fuel depth rest).map fun scanned => (item :: scanned.1, scanned.2)
        else if c = 0x5d then some ([item], rest)
        else none

def members : (fuel depth : Nat) → Bytes → Option (List (Bytes × Value) × Bytes)
  | 0, _, _ => none
  | fuel + 1, depth, s =>
    match expect 0x22 (skipSpace s) >>= scanString with
    | none => none
    | some (key, rest) =>
      match (expect 0x3a (skipSpace rest)).bind fun rest => value fuel depth (skipSpace rest) with
      | none => none
      | some (value, rest) =>
        match skipSpace rest with
        | [] => none
        | c :: rest =>
          if c = 0x2c then (members fuel depth rest).map fun scanned => ((key, value) :: scanned.1, scanned.2)
          else if c = 0x7d then some ([(key, value)], rest)
          else none
end

/-- `readValue` of a `Decoder` over the whole input: the first value, and the bytes left unread. -/
def readValue (data : Bytes) : Option (Value × Bytes) := value (2 * data.length + 2) 0 (skipSpace data)

/-- A rune of the text of a string, or the code unit of a `\u` escape. -/
inductive Piece where
  | rune (code : Nat)
  | unit (code : Nat)
deriving DecidableEq, Repr

def escapeCodes : List (Nat × Nat) :=
  [(0x22, 0x22), (0x5c, 0x5c), (0x2f, 0x2f), (0x27, 0x27), (0x62, 8), (0x66, 12), (0x6e, 10), (0x72, 13), (0x74, 9)]

def pieces : List Rune → Option (List Piece)
  | [] => some []
  | r :: rest =>
    if r.code = 0x5c then
      match rest with
      | [] => none
      | e :: more =>
        if e.code = 0x75 then
          match more with
          | h₁ :: h₂ :: h₃ :: h₄ :: tail =>
            let digits := h₁.raw ++ (h₂.raw ++ (h₃.raw ++ h₄.raw))
            if digits.length = 4 ∧ digits.all isHex then (pieces tail).map fun ps => .unit (hexValue digits) :: ps
            else none
          | _ => none
        else
          match escapeCodes.lookup e.code with
          | some code => (pieces more).map fun ps => .rune code :: ps
          | none => none
    else if r.code = 0x22 ∨ r.code < 0x20 then none
    else (pieces rest).map fun ps => .rune r.code :: ps

def isSurrogate (u : Nat) : Bool := 0xd800 ≤ u && u < 0xe000

def decodeSurrogates (u v : Nat) : Option Nat :=
  if (0xd800 ≤ u ∧ u < 0xdc00) ∧ (0xdc00 ≤ v ∧ v < 0xe000) then
    some ((u - 0xd800) * 0x400 + (v - 0xdc00) + 0x10000)
  else none

/-- A surrogate that is not the first of a pair becomes `U+FFFD`. -/
def joinPieces : List Piece → Bytes
  | [] => []
  | .rune code :: rest => encodeRune code ++ joinPieces rest
  | .unit u :: rest =>
    if isSurrogate u then
      match rest with
      | .unit v :: more =>
        match decodeSurrogates u v with
        | some code => encodeRune code ++ joinPieces more
        | none => encodeRune runeError ++ joinPieces (.unit v :: more)
      | rest => encodeRune runeError ++ joinPieces rest
    else encodeRune u ++ joinPieces rest

/-- `unquoteBytes`, on what stands between the quotes. -/
def unquote (literal : Bytes) : Option Bytes := (pieces (runes literal)).map joinPieces

/-- `foldRune`. Only two runes outside ASCII fold into it; how the others fold makes no difference to a
    name in ASCII. -/
def foldRune (r : Nat) : Nat :=
  if 0x61 ≤ r ∧ r ≤ 0x7a then r - 0x20 else if r = 0x17f then 0x53 else if r = 0x212a then 0x4b else r

def foldName (name : Bytes) : Bytes := (runes name).flatMap fun r => encodeRune (foldRune r.code)

def htmlSafe (r : Nat) : Bool := 0x20 ≤ r && r < 0x80 && !(r ∈ [0x22, 0x26, 0x3c, 0x3e, 0x5c] : Bool)

def stringRune (r : Rune) : Bytes :=
  if r.code < 0x80 then
    if htmlSafe r.code then r.raw
    else if r.code = 0x5c ∨ r.code = 0x22 then 0x5c :: r.raw
    else
      match [(8, 0x62), (12, 0x66), (10, 0x6e), (13, 0x72), (9, 0x74)].lookup r.code with
      | some letter => [0x5c, letter]
      | none => text "\\u00" ++ hexDigits 2 r.code
  else if r.Broken then text "\\ufffd"
  else if r.code = 0x2028 ∨ r.code = 0x2029 then text "\\u202" ++ hexDigits 1 r.code
  else r.raw

/-- `appendString`, with HTML escaped, as `Marshal` does. -/
def appendString (s : Bytes) : Bytes := 0x22 :: (runes s).flatMap stringRune ++ [0x22]

inductive Body : Bytes → Prop where
  | nil : Body []
  | plain {c : UInt8} {rest : Bytes} (quote : c ≠ 0x22) (backslash : c ≠ 0x5c) (printable : ¬c < 0x20)
      (more : Body rest) : Body (c :: rest)
  | escape {e : UInt8} {rest : Bytes} (letter : e ∈ escapeLetters) (more : Body rest) : Body (0x5c :: e :: rest)
  | unicode {h₁ h₂ h₃ h₄ : UInt8} {rest : Bytes} (hex : (isHex h₁ && isHex h₂ && isHex h₃ && isHex h₄) = true)
      (more : Body rest) : Body (0x5c :: 0x75 :: h₁ :: h₂ :: h₃ :: h₄ :: rest)

theorem Body.scan {body : Bytes} (valid : Body body) (rest : Bytes) :
    scanString (body ++ 0x22 :: rest) = some (body, rest) := by
  induction valid with
  | nil =>
    rw [scanString.eq_def]
    rfl
  | plain quote backslash printable _ ih =>
    rw [List.cons_append, scanString.eq_def]
    dsimp only
    rw [if_neg quote, if_neg backslash, if_neg printable, ih]
    rfl
  | escape letter _ ih =>
    rw [List.cons_append, List.cons_append, scanString.eq_def]
    dsimp only
    rw [if_neg (by decide), if_pos rfl, if_pos letter, ih]
    rfl
  | unicode hex _ ih =>
    simp only [List.cons_append]
    rw [scanString.eq_def]
    dsimp only
    rw [if_neg (by decide), if_pos rfl, if_neg (by decide +kernel), if_pos rfl, if_pos hex, ih]
    rfl

theorem scanString_body (s body rest : Bytes) (scanned : scanString s = some (body, rest)) :
    Body body ∧ s = body ++ 0x22 :: rest := by
  -- an escape is scanned whole, so what is left can be two or six bytes shorter
  induction size : s.length using Nat.strong_induction_on generalizing s body with
  | _ n ih =>
    subst size
    rcases s with _ | ⟨c, tail⟩
    · cases scanned
    rw [scanString.eq_def] at scanned
    dsimp only at scanned
    by_cases quote : c = 0x22
    · rw [if_pos quote] at scanned
      cases scanned
      rw [quote]
      exact ⟨.nil, rfl⟩
    rw [if_neg quote] at scanned
    by_cases backslash : c = 0x5c
    · rw [if_pos backslash] at scanned
      subst backslash
      rcases tail with _ | ⟨e, more⟩
      · cases scanned
      dsimp only at scanned
      by_cases letter : e ∈ escapeLetters
      · rw [if_pos letter] at scanned
        obtain ⟨⟨inner, after⟩, found, same⟩ := Option.map_eq_some_iff.mp scanned
        cases same
        obtain ⟨valid, rfl⟩ := ih _ (by simp only [List.length_cons]; omega) more inner found rfl
        exact ⟨.escape letter valid, rfl⟩
      rw [if_neg letter] at scanned
      by_cases unicode : e = 0x75
      · rw [if_pos unicode] at scanned
        subst unicode
        rcases more with _ | ⟨h₁, _ | ⟨h₂, _ | ⟨h₃, _ | ⟨h₄, more⟩⟩⟩⟩
        · cases scanned
        · cases scanned
        · cases scanned
        · cases scanned
        dsimp only at scanned
        by_cases hex : (isHex h₁ && isHex h₂ && isHex h₃ && isHex h₄) = true
        · rw [if_pos hex] at scanned
          obtain ⟨⟨inner, after⟩, found, same⟩ := Option.map_eq_some_iff.mp scanned
          cases same
          obtain ⟨valid, rfl⟩ := ih _ (by simp only [List.length_cons]; omega) more inner found rfl
          exact ⟨.unicode hex valid, rfl⟩
        · rw [if_neg hex] at scanned
          cases scanned
      · rw [if_neg unicode] at scanned
        cases scanned
    rw [if_neg backslash] at scanned
    by_cases control : c < 0x20
    · rw [if_pos control] at scanned
      cases scanned
    · rw [if_neg control] at scanned
      obtain ⟨⟨inner, after⟩, found, same⟩ := Option.map_eq_some_iff.mp scanned
      cases same
      obtain ⟨valid, rfl⟩ := ih _ (by simp only [List.length_cons]; omega) tail inner found rfl
      exact ⟨.plain quote backslash control valid, rfl⟩

theorem decoded_high (r : Rune) (decoded : r.Decoded) (high : ∃ b ∈ r.raw, 0x80 ≤ b) :
    0x80 ≤ r.code ∧ ∀ b ∈ r.raw, 0x80 ≤ b := by
  by_cases broken : r.Broken
  · obtain ⟨c, single, large⟩ := decoded.broken broken
    rw [broken.1, single]
    exact ⟨by decide, by simpa using large⟩
  · have written := (decoded.valid broken).1
    by_cases large : 0x80 ≤ r.code
    · rw [written]
      exact ⟨large, encodeRune_high r.code large⟩
    · obtain ⟨b, member, above⟩ := high
      rw [written, encodeRune, if_pos (Nat.not_le.mp large), List.mem_singleton] at member
      rw [member, UInt8.le_iff_toNat_le, UInt8.toNat_ofNat'] at above
      simp only [UInt8.reduceToNat] at above
      omega

theorem Body.drop_high (x y : Bytes) (high : ∀ b ∈ x, 0x80 ≤ b) (valid : Body (x ++ y)) : Body y := by
  induction x with
  | nil => exact valid
  | cons c x ih =>
    have large := high c List.mem_cons_self
    rw [List.cons_append] at valid
    generalize x ++ y = rest at valid ih
    cases valid with
    | plain _ _ _ more => exact ih (fun b member => high b (List.mem_cons_of_mem _ member)) more
    | escape => exact absurd large (by decide)
    | unicode => exact absurd large (by decide)

theorem escapeCodes_letter : ∀ e ∈ escapeLetters, e < 0x80 ∧ e.toNat ≠ 0x75 ∧ (escapeCodes.lookup e.toNat).isSome :=
  forall_mem_octets (by decide +kernel)

theorem isHex_ascii : ∀ c : UInt8, isHex c = true → c < 0x80 := forall_octet (by decide +kernel)

theorem pieces_plain {c : UInt8} {rest : Bytes} (ascii : c < 0x80) (quote : c ≠ 0x22) (backslash : c ≠ 0x5c)
    (printable : ¬c < 0x20) : pieces (runes (c :: rest)) = (pieces (runes rest)).map fun ps => .rune c.toNat :: ps := by
  have slash : c.toNat ≠ 0x5c := fun same => backslash (UInt8.toNat_inj.mp same)
  have ends : ¬(c.toNat = 0x22 ∨ c.toNat < 0x20) := by
    rintro (same | small)
    · exact quote (UInt8.toNat_inj.mp same)
    · exact printable (UInt8.lt_iff_toNat_lt.mpr small)
  rw [runes_cons_ascii c rest ascii, pieces.eq_def]
  dsimp only
  rw [if_neg slash, if_neg ends]

theorem pieces_high {c : UInt8} {rest : Bytes} (code : 0x80 ≤ (decodeRune (c :: rest)).1) :
    pieces (runes (c :: rest)) = (pieces (runes ((c :: rest).drop (decodeRune (c :: rest)).2))).map fun ps =>
      .rune (decodeRune (c :: rest)).1 :: ps := by
  rw [runes_cons, pieces.eq_def]
  dsimp only
  rw [if_neg (by omega), if_neg (by omega)]

theorem pieces_escape {e : UInt8} (rest : Bytes) (letter : e ∈ escapeLetters) :
    ∃ code, pieces (runes (0x5c :: e :: rest)) = (pieces (runes rest)).map fun ps => .rune code :: ps := by
  obtain ⟨ascii, unicode, known⟩ := escapeCodes_letter e letter
  obtain ⟨code, known⟩ := Option.isSome_iff_exists.mp known
  refine ⟨code, ?_⟩
  rw [runes_cons_ascii _ _ (by decide), runes_cons_ascii e rest ascii, pieces.eq_def]
  dsimp only
  rw [if_pos (by decide), if_neg unicode, known]

theorem pieces_unicode {h₁ h₂ h₃ h₄ : UInt8} {rest : Bytes}
    (hex : (isHex h₁ && isHex h₂ && isHex h₃ && isHex h₄) = true) :
    pieces (runes (0x5c :: 0x75 :: h₁ :: h₂ :: h₃ :: h₄ :: rest)) =
      (pieces (runes rest)).map fun ps => .unit (hexValue [h₁, h₂, h₃, h₄]) :: ps := by
  simp only [Bool.and_eq_true] at hex
  obtain ⟨⟨⟨first, second⟩, third⟩, fourth⟩ := hex
  rw [runes_cons_ascii _ _ (by decide), runes_cons_ascii _ _ (by decide), runes_cons_ascii h₁ _ (isHex_ascii _ first),
    runes_cons_ascii h₂ _ (isHex_ascii _ second), runes_cons_ascii h₃ _ (isHex_ascii _ third),
    runes_cons_ascii h₄ _ (isHex_ascii _ fourth), pieces.eq_def]
  dsimp only
  rw [if_pos (by decide), if_pos (by decide), if_pos]
  · rfl
  · simp [first, second, third, fourth]

/-- A rune outside ASCII is plain text, so the text behind it is a text again. -/
theorem Body.drop_rune {c : UInt8} {rest : Bytes} (valid : Body (c :: rest)) (high : ¬c < 0x80) :
    0x80 ≤ (decodeRune (c :: rest)).1 ∧ Body ((c :: rest).drop (decodeRune (c :: rest)).2) := by
  have first : c ∈ (c :: rest).take (decodeRune (c :: rest)).2 := by
    obtain ⟨size, eq⟩ := Nat.exists_eq_succ_of_ne_zero (Nat.ne_of_gt (decodeRune_width c rest).1)
    rw [eq]
    exact List.mem_cons_self
  obtain ⟨code, bytes⟩ := decoded_high _ ⟨c, rest, rfl⟩ ⟨c, first, UInt8.not_lt.mp high⟩
  refine ⟨code, Body.drop_high _ _ bytes ?_⟩
  rw [List.take_append_drop]
  exact valid

theorem Body.pieces {body : Bytes} (valid : Body body) : ∃ ps, JSON.pieces (runes body) = some ps := by
  -- by length: an escape takes several bytes, and so does a rune outside ASCII
  suffices general : ∀ n : Nat, ∀ body : Bytes, body.length ≤ n → Body body →
      ∃ ps, JSON.pieces (runes body) = some ps from general _ body (Nat.le_refl _) valid
  intro n
  induction n with
  | zero =>
    intro body bound _
    rw [List.eq_nil_of_length_eq_zero (Nat.le_zero.mp bound)]
    exact ⟨[], rfl⟩
  | succ n ih =>
    intro body bound valid
    cases valid with
    | nil => exact ⟨[], rfl⟩
    | @plain c rest quote backslash printable more =>
      rw [List.length_cons] at bound
      by_cases ascii : c < 0x80
      · obtain ⟨ps, found⟩ := ih rest (by omega) more
        rw [pieces_plain ascii quote backslash printable, found]
        exact ⟨_, rfl⟩
      · have width := decodeRune_width c rest
        obtain ⟨code, tail⟩ := (Body.plain quote backslash printable more).drop_rune ascii
        obtain ⟨ps, found⟩ := ih _ (by rw [List.length_drop, List.length_cons]; omega) tail
        rw [pieces_high code, found]
        exact ⟨_, rfl⟩
    | @escape e rest letter more =>
      simp only [List.length_cons] at bound
      obtain ⟨ps, found⟩ := ih rest (by omega) more
      obtain ⟨code, read⟩ := pieces_escape rest letter
      rw [read, found]
      exact ⟨_, rfl⟩
    | @unicode h₁ h₂ h₃ h₄ rest hex more =>
      simp only [List.length_cons] at bound
      obtain ⟨ps, found⟩ := ih rest (by omega) more
      rw [pieces_unicode hex, found]
      exact ⟨_, rfl⟩

theorem Body.unquote {body : Bytes} (valid : Body body) : ∃ s, JSON.unquote body = some s := by
  obtain ⟨ps, found⟩ := valid.pieces
  exact ⟨joinPieces ps, by rw [JSON.unquote, found]; rfl⟩

abbrev Gap := { s : Bytes // ∀ c ∈ s, isSpace c = true }

abbrev Literal := { s : Bytes // Body s }

def spelling : Option Literal → Bytes
  | none => text "null"
  | some literal => 0x22 :: (literal.val ++ [0x22])

def scanned : Option Literal → Value
  | none => .null
  | some literal => .string literal.val

structure Member where
  beforeKey : Gap
  key : Literal
  afterKey : Gap
  beforeValue : Gap
  value : Option Literal
  afterValue : Gap

def Member.text (m : Member) : Bytes :=
  m.beforeKey.val ++ 0x22 :: (m.key.val ++ 0x22 :: (m.afterKey.val ++ 0x3a ::
    (m.beforeValue.val ++ (spelling m.value ++ m.afterValue.val))))

def Member.entry (m : Member) : Bytes × Value := (m.key.val, scanned m.value)

def closing : List Member → Bytes
  | [] => [0x7d]
  | m :: rest => 0x2c :: (m.text ++ closing rest)

inductive FlatObject where
  | empty (gap : Gap)
  | filled (first : Member) (rest : List Member)

def FlatObject.text : FlatObject → Bytes
  | .empty gap => 0x7b :: (gap.val ++ [0x7d])
  | .filled first rest => 0x7b :: (first.text ++ closing rest)

def FlatObject.members : FlatObject → List Member
  | .empty _ => []
  | .filled first rest => first :: rest

theorem skipSpace_gap (gap : Gap) (s : Bytes) : skipSpace (gap.val ++ s) = skipSpace s := by
  obtain ⟨spaces, all⟩ := gap
  dsimp only
  induction spaces with
  | nil => rfl
  | cons c rest ih =>
    have space := all c List.mem_cons_self
    rw [List.cons_append, skipSpace, List.dropWhile_cons_of_pos space]
    exact ih fun b member => all b (List.mem_cons_of_mem _ member)

theorem skipSpace_stop (c : UInt8) (rest : Bytes) (visible : isSpace c = false) : skipSpace (c :: rest) = c :: rest :=
  List.dropWhile_cons_of_neg (by rw [visible]; exact Bool.false_ne_true)

theorem skipSpace_split (s : Bytes) : ∃ gap : Gap, s = gap.val ++ skipSpace s :=
  ⟨⟨s.takeWhile isSpace, fun _ member => List.mem_takeWhile_imp member⟩, List.takeWhile_append_dropWhile.symm⟩

theorem expect_eq_some (c : UInt8) (s rest : Bytes) (found : expect c s = some rest) : s = c :: rest := by
  cases s with
  | nil => cases found
  | cons b tail =>
    rw [expect] at found
    split at found
    · rename_i same
      cases found
      rw [same]
    · cases found

theorem expect_cons (c : UInt8) (rest : Bytes) : expect c (c :: rest) = some rest := if_pos rfl

theorem value_spelling (v : Option Literal) (fuel depth : Nat) (rest : Bytes) :
    value (fuel + 1) depth (spelling v ++ rest) = some (scanned v, rest) := by
  cases v with
  | none => rfl
  | some literal =>
    have text : spelling (some literal) ++ rest = 0x22 :: (literal.val ++ 0x22 :: rest) := by
      simp [spelling]
    rw [text, value, if_neg (by decide), if_neg (by decide), if_pos rfl, literal.property.scan]
    rfl

theorem spelling_starts (v : Option Literal) : ∃ c rest, spelling v = c :: rest ∧ isSpace c = false := by
  cases v with
  | none => exact ⟨0x6e, Go.text "ull", rfl, rfl⟩
  | some literal => exact ⟨0x22, _, rfl, rfl⟩

theorem skipSpace_spelling (v : Option Literal) (rest : Bytes) :
    skipSpace (spelling v ++ rest) = spelling v ++ rest := by
  obtain ⟨c, more, starts, visible⟩ := spelling_starts v
  rw [starts, List.cons_append, skipSpace_stop c _ visible]

theorem members_member (m : Member) (fuel depth : Nat) (c : UInt8) (rest : Bytes) (visible : isSpace c = false) :
    members (fuel + 2) depth (m.text ++ c :: rest) =
      if c = 0x2c then (members (fuel + 1) depth rest).map fun scanned => (m.entry :: scanned.1, scanned.2)
      else if c = 0x7d then some ([m.entry], rest)
      else none := by
  have text : m.text ++ c :: rest = m.beforeKey.val ++ 0x22 :: (m.key.val ++ 0x22 :: (m.afterKey.val ++ 0x3a ::
      (m.beforeValue.val ++ (spelling m.value ++ (m.afterValue.val ++ c :: rest))))) := by
    simp [Member.text]
  rw [text, members, skipSpace_gap, skipSpace_stop _ _ (by decide), expect_cons]
  have key : (some (m.key.val ++ 0x22 :: (m.afterKey.val ++ 0x3a :: (m.beforeValue.val ++ (spelling m.value ++
      (m.afterValue.val ++ c :: rest))))) >>= scanString) = some (m.key.val, m.afterKey.val ++ 0x3a ::
        (m.beforeValue.val ++ (spelling m.value ++ (m.afterValue.val ++ c :: rest)))) := m.key.property.scan _
  rw [key]
  dsimp only
  rw [skipSpace_gap, skipSpace_stop _ _ (by decide), expect_cons, Option.bind_some, skipSpace_gap, skipSpace_spelling,
    value_spelling]
  dsimp only
  rw [skipSpace_gap, skipSpace_stop c rest visible]
  rfl

theorem members_closing (first : Member) (more : List Member) (fuel depth : Nat) (rest : Bytes)
    (enough : more.length + 2 ≤ fuel) :
    members fuel depth (first.text ++ (closing more ++ rest)) = some ((first :: more).map Member.entry, rest) := by
  induction more generalizing first fuel with
  | nil =>
    obtain ⟨spare, rfl⟩ := Nat.exists_eq_add_of_le' enough
    exact members_member first spare depth 0x7d rest rfl
  | cons next more ih =>
    rw [List.length_cons] at enough
    obtain ⟨spare, rfl⟩ := Nat.exists_eq_add_of_le' (Nat.le_trans (Nat.le_add_left 2 _) enough)
    have text : closing (next :: more) ++ rest = 0x2c :: (next.text ++ (closing more ++ rest)) := by
      simp [closing]
    rw [text, members_member first spare depth 0x2c _ rfl, if_pos rfl, ih next (spare + 1) (by omega)]
    rfl

theorem closing_length (more : List Member) : more.length + 1 ≤ (closing more).length := by
  induction more with
  | nil => exact Nat.le_refl _
  | cons m more ih =>
    rw [closing, List.length_cons, List.length_cons, List.length_append]
    omega

theorem value_flat (object : FlatObject) (fuel : Nat) (rest : Bytes) (enough : object.text.length + 1 ≤ fuel) :
    value fuel 0 (object.text ++ rest) = some (.object (object.members.map Member.entry), rest) := by
  cases fuel with
  | zero => omega
  | succ fuel =>
    cases object with
    | empty gap =>
      have text : (FlatObject.empty gap).text ++ rest = 0x7b :: (gap.val ++ 0x7d :: rest) := by
        simp [FlatObject.text]
      rw [text, value, if_pos rfl, if_pos (by decide), skipSpace_gap, skipSpace_stop _ _ (by decide), expect_cons]
      rfl
    | filled first more =>
      have text : (FlatObject.filled first more).text ++ rest = 0x7b :: (first.text ++ (closing more ++ rest)) := by
        simp [FlatObject.text]
      have length : more.length + 2 ≤ fuel := by
        have size := closing_length more
        rw [FlatObject.text, List.length_cons, List.length_append] at enough
        have filled : 0 < first.text.length := by
          simp [Member.text]
        omega
      have open_ : expect 0x7d (skipSpace (first.text ++ (closing more ++ rest))) = none := by
        rw [Member.text, List.append_assoc, skipSpace_gap, List.cons_append, skipSpace_stop _ _ (by decide)]
        rfl
      rw [text, value, if_pos rfl, if_pos (by decide), open_]
      dsimp only
      rw [members_closing first more fuel _ rest length]
      rfl

theorem skipSpace_text (object : FlatObject) (rest : Bytes) :
    skipSpace (object.text ++ rest) = object.text ++ rest := by
  cases object <;> exact skipSpace_stop 0x7b _ rfl

theorem readValue_flat (before : Gap) (object : FlatObject) (rest : Bytes) :
    readValue (before.val ++ (object.text ++ rest)) = some (.object (object.members.map Member.entry), rest) := by
  rw [readValue, skipSpace_gap, skipSpace_text, value_flat]
  simp only [List.length_append]
  omega

theorem readValue_null (before : Gap) (rest : Bytes) :
    readValue (before.val ++ (text "null" ++ rest)) = some (.null, rest) := by
  have spelled := skipSpace_spelling none rest
  rw [spelling] at spelled
  rw [readValue, skipSpace_gap, spelled]
  exact value_spelling none _ 0 rest

def Value.Other : Value → Prop
  | .bool _ | .number _ | .array _ => True
  | _ => False

theorem value_cases (fuel depth : Nat) (s rest : Bytes) (v : Value) (read : value fuel depth s = some (v, rest)) :
    (∃ w : Option Literal, v = scanned w ∧ s = spelling w ++ rest) ∨
    (∃ gap : Gap, v = .object [] ∧ s = (FlatObject.empty gap).text ++ rest) ∨
    (∃ fuel depth more entries, v = .object entries ∧ s = 0x7b :: more ∧ members fuel depth more = some (entries, rest)) ∨
    v.Other := by
  have word : ∀ c tail rest, scanLiteral (text "null") (c :: tail) = some rest → c :: tail = text "null" ++ rest := by
    intro c tail rest found
    rw [scanLiteral] at found
    split at found
    · rename_i starts
      obtain ⟨after, same⟩ := List.isPrefixOf_iff_prefix.mp starts
      cases found
      rw [← same, List.drop_left]
    · cases found
  cases fuel with
  | zero => cases read
  | succ fuel =>
    cases s with
    | nil => cases read
    | cons c tail =>
      rw [value] at read
      split at read
      · rename_i brace
        subst brace
        split at read
        · split at read
          · rename_i after found
            cases read
            obtain ⟨gap, split⟩ := skipSpace_split tail
            rw [expect_eq_some _ _ _ found] at split
            refine .inr (.inl ⟨gap, rfl, ?_⟩)
            rw [split]
            simp [FlatObject.text]
          · obtain ⟨⟨entries, after⟩, found, same⟩ := Option.map_eq_some_iff.mp read
            cases same
            exact .inr (.inr (.inl ⟨fuel, depth + 1, tail, entries, rfl, rfl, found⟩))
        · cases read
      split at read
      · split at read
        · split at read
          · cases read
            exact .inr (.inr (.inr trivial))
          · obtain ⟨_, _, same⟩ := Option.map_eq_some_iff.mp read
            cases same
            exact .inr (.inr (.inr trivial))
        · cases read
      split at read
      · rename_i quote
        obtain ⟨⟨body, after⟩, found, same⟩ := Option.map_eq_some_iff.mp read
        cases same
        obtain ⟨valid, rfl⟩ := scanString_body tail body after found
        refine .inl ⟨some ⟨body, valid⟩, rfl, ?_⟩
        rw [quote]
        simp [spelling]
      split at read
      · obtain ⟨_, _, same⟩ := Option.map_eq_some_iff.mp read
        cases same
        exact .inr (.inr (.inr trivial))
      split at read
      · obtain ⟨_, _, same⟩ := Option.map_eq_some_iff.mp read
        cases same
        exact .inr (.inr (.inr trivial))
      split at read
      · obtain ⟨after, found, same⟩ := Option.map_eq_some_iff.mp read
        cases same
        exact .inl ⟨none, rfl, word c tail rest found⟩
      · obtain ⟨_, _, same⟩ := Option.map_eq_some_iff.mp read
        cases same
        exact .inr (.inr (.inr trivial))

def Value.Leaf (v : Value) : Prop := v = .null ∨ ∃ literal, v = .string literal

theorem value_leaf (fuel depth : Nat) (s rest : Bytes) (v : Value) (read : value fuel depth s = some (v, rest))
    (leaf : v.Leaf) : ∃ w : Option Literal, v = scanned w ∧ s = spelling w ++ rest := by
  rcases value_cases fuel depth s rest v read with found | ⟨gap, rfl, _⟩ | ⟨_, _, _, _, rfl, _⟩ | other
  · exact found
  · rcases leaf with same | ⟨_, same⟩ <;> cases same
  · rcases leaf with same | ⟨_, same⟩ <;> cases same
  · rcases leaf with rfl | ⟨_, rfl⟩ <;> exact other.elim

theorem members_flat (fuel depth : Nat) (s rest : Bytes) (entries : List (Bytes × Value))
    (read : members fuel depth s = some (entries, rest))
    (leaves : ∀ e ∈ entries, e.2.Leaf) :
    ∃ first more, s = first.text ++ (closing more ++ rest) ∧ entries = (first :: more).map Member.entry := by
  induction fuel generalizing s entries with
  | zero => cases read
  | succ fuel ih =>
    rw [members] at read
    split at read
    · cases read
    · rename_i key afterKey keyed
      obtain ⟨quoted, opened, keyed⟩ := Option.bind_eq_some_iff.mp keyed
      obtain ⟨body, rfl⟩ := scanString_body quoted key afterKey keyed
      obtain ⟨beforeKey, split⟩ := skipSpace_split s
      rw [expect_eq_some _ _ _ opened] at split
      split at read
      · cases read
      · rename_i v afterValue valued
        obtain ⟨colon, found, valued⟩ := Option.bind_eq_some_iff.mp valued
        obtain ⟨gapKey, splitKey⟩ := skipSpace_split afterKey
        rw [expect_eq_some _ _ _ found] at splitKey
        obtain ⟨gapColon, splitColon⟩ := skipSpace_split colon
        obtain ⟨gapValue, splitValue⟩ := skipSpace_split afterValue
        -- the member, once its value is known to be spelled as one of a flat object
        have member : v.Leaf → ∃ m : Member, m.entry = (key, v) ∧
            ∀ c tail, skipSpace afterValue = c :: tail → s = m.text ++ c :: tail := by
          intro leaf
          obtain ⟨w, rfl, spelled⟩ := value_leaf _ _ _ _ _ valued leaf
          refine ⟨⟨beforeKey, ⟨key, body⟩, gapKey, gapColon, w, gapValue⟩, rfl, ?_⟩
          intro c tail stop
          rw [stop] at splitValue
          rw [spelled, splitValue] at splitColon
          rw [split, splitKey, splitColon]
          simp [Member.text]
        split at read
        · cases read
        · rename_i c tail stop
          split at read
          · rename_i comma
            obtain ⟨⟨others, after⟩, found, same⟩ := Option.map_eq_some_iff.mp read
            cases same
            obtain ⟨m, entry, text⟩ := member (leaves _ List.mem_cons_self)
            obtain ⟨next, more, rfl, rfl⟩ := ih tail others found fun e inside => leaves e (List.mem_cons_of_mem _ inside)
            refine ⟨m, next :: more, ?_, ?_⟩
            · rw [text c _ stop, comma]
              simp [closing]
            · exact congrArg (fun e => e :: (next :: more).map Member.entry) entry.symm
          · split at read
            · rename_i brace
              cases read
              obtain ⟨m, entry, text⟩ := member (leaves _ List.mem_cons_self)
              refine ⟨m, [], ?_, ?_⟩
              · rw [text c _ stop, brace]
                rfl
              · exact congrArg (fun e => [e]) entry.symm
            · cases read

theorem readValue_object (data rest : Bytes) (entries : List (Bytes × Value))
    (read : readValue data = some (.object entries, rest))
    (leaves : ∀ e ∈ entries, e.2.Leaf) :
    ∃ (before : Gap) (object : FlatObject), data = before.val ++ (object.text ++ rest) ∧
      entries = object.members.map Member.entry := by
  obtain ⟨before, split⟩ := skipSpace_split data
  rcases value_cases _ _ _ _ _ read with ⟨w, same, _⟩ | ⟨gap, same, text⟩ | ⟨_, _, more, _, same, text, found⟩ | other
  · cases w <;> cases same
  · cases same
    exact ⟨before, .empty gap, by rw [← text]; exact split, rfl⟩
  · cases same
    obtain ⟨first, others, rfl, rfl⟩ := members_flat _ _ _ _ _ found leaves
    refine ⟨before, .filled first others, ?_, rfl⟩
    rw [text] at split
    rw [split]
    simp [FlatObject.text]
  · exact other.elim

theorem readValue_eq_null (data rest : Bytes) (read : readValue data = some (.null, rest)) :
    ∃ before : Gap, data = before.val ++ (text "null" ++ rest) := by
  obtain ⟨before, split⟩ := skipSpace_split data
  obtain ⟨w, same, spelled⟩ := value_leaf _ _ _ _ _ read (.inl rfl)
  cases w with
  | none => exact ⟨before, by rw [← spelling, ← spelled]; exact split⟩
  | some literal => cases same

def Safe (s : Bytes) : Prop := ∀ c ∈ s, htmlSafe c.toNat = true

theorem htmlSafe_spec : ∀ c : UInt8, htmlSafe c.toNat = true →
    c < 0x80 ∧ c.toNat < 0x80 ∧ c ≠ 0x22 ∧ c ≠ 0x5c ∧ ¬c < 0x20 :=
  forall_octet (by decide +kernel)

theorem Safe.tail {c : UInt8} {s : Bytes} (safe : Safe (c :: s)) : Safe s :=
  fun b member => safe b (List.mem_cons_of_mem _ member)

theorem Safe.body {s : Bytes} (safe : Safe s) : Body s := by
  induction s with
  | nil => exact .nil
  | cons c rest ih =>
    obtain ⟨_, _, quote, backslash, printable⟩ := htmlSafe_spec c (safe c List.mem_cons_self)
    exact .plain quote backslash printable (ih safe.tail)

theorem Safe.appendString {s : Bytes} (safe : Safe s) : JSON.appendString s = 0x22 :: s ++ [0x22] := by
  have same : (runes s).flatMap stringRune = s := by
    induction s with
    | nil => rfl
    | cons c rest ih =>
      have first := safe c List.mem_cons_self
      obtain ⟨ascii, low, _⟩ := htmlSafe_spec c first
      have written : stringRune ⟨c.toNat, [c]⟩ = [c] := by
        rw [stringRune, if_pos low, if_pos first]
      rw [runes_cons_ascii c rest ascii, List.flatMap_cons, written, ih safe.tail]
      rfl
  rw [JSON.appendString, same]

theorem Safe.unquote {s : Bytes} (safe : Safe s) : JSON.unquote s = some s := by
  have read : JSON.pieces (runes s) = some (s.map fun c => .rune c.toNat) ∧
      joinPieces (s.map fun c => .rune c.toNat) = s := by
    induction s with
    | nil => exact ⟨rfl, rfl⟩
    | cons c rest ih =>
      obtain ⟨ascii, low, quote, backslash, printable⟩ := htmlSafe_spec c (safe c List.mem_cons_self)
      obtain ⟨found, joined⟩ := ih safe.tail
      constructor
      · rw [pieces_plain ascii quote backslash printable, found]
        rfl
      · rw [List.map_cons, joinPieces, joined, encodeRune, if_pos low, UInt8.ofNat_toNat]
        rfl
  rw [JSON.unquote, read.1, Option.map_some, read.2]

end Rtc2Tcp.Go.JSON

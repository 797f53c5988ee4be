import Rtc2Tcp.Go.IP
import Rtc2Tcp.Go.JSON
import Rtc2Tcp.Go.Utf8

namespace Rtc2Tcp.Go.JSON

open Octets

theorem pieces_escaped {e : UInt8} {code : Nat} (rest : Bytes) (ascii : e < 0x80) (unicode : e.toNat ≠ 0x75)
    (known : escapeCodes.lookup e.toNat = some code) :
    pieces (runes (0x5c :: e :: rest)) = (pieces (runes rest)).map fun ps => .rune code :: ps := by
  rw [runes_cons_ascii _ _ (by decide), runes_cons_ascii e rest ascii, pieces.eq_def]
  dsimp only
  rw [if_pos (by decide), if_neg unicode, known]

structure Reread (r : Rune) (written : Bytes) : Prop where
  body : ∀ {rest : Bytes}, Body rest → Body (written ++ rest)
  piece : ∃ p, (p = .rune r.code ∨ (p = .unit r.code ∧ isSurrogate r.code = false)) ∧
    ∀ rest, pieces (runes (written ++ rest)) = (pieces (runes rest)).map fun ps => p :: ps

theorem Reread.escape {r : Rune} (e : UInt8) (letter : e ∈ escapeLetters)
    (known : escapeCodes.lookup e.toNat = some r.code) : Reread r [0x5c, e] where
  body valid := .escape letter valid
  piece := by
    obtain ⟨ascii, unicode, _⟩ := escapeCodes_letter e letter
    exact ⟨.rune r.code, .inl rfl, fun rest => pieces_escaped rest ascii unicode known⟩

theorem Reread.unicode {r : Rune} (h₁ h₂ h₃ h₄ : UInt8) (hex : (isHex h₁ && isHex h₂ && isHex h₃ && isHex h₄) = true)
    (value : hexValue [h₁, h₂, h₃, h₄] = r.code) (single : isSurrogate r.code = false) :
    Reread r [0x5c, 0x75, h₁, h₂, h₃, h₄] where
  body valid := .unicode hex valid
  piece := by
    refine ⟨.unit r.code, .inr ⟨rfl, single⟩, ?_⟩
    intro rest
    rw [← value]
    exact pieces_unicode hex

theorem Reread.plain {r : Rune} (c : UInt8) (code : r.code = c.toNat) (safe : htmlSafe c.toNat = true) :
    Reread r [c] where
  body valid := by
    obtain ⟨_, _, quote, backslash, printable⟩ := htmlSafe_spec c safe
    exact .plain quote backslash printable valid
  piece := by
    obtain ⟨ascii, _, quote, backslash, printable⟩ := htmlSafe_spec c safe
    refine ⟨.rune r.code, .inl rfl, ?_⟩
    intro rest
    rw [code]
    exact pieces_plain ascii quote backslash printable

theorem body_high (x rest : Bytes) (high : ∀ b ∈ x, 0x80 ≤ b) (valid : Body rest) : Body (x ++ rest) := by
  have apart : ∀ c : UInt8, 0x80 ≤ c → c ≠ 0x22 ∧ c ≠ 0x5c ∧ ¬c < 0x20 := forall_octet (by decide +kernel)
  induction x with
  | nil => exact valid
  | cons c x ih =>
    obtain ⟨quote, backslash, printable⟩ := apart c (high c List.mem_cons_self)
    exact .plain quote backslash printable (ih fun b member => high b (List.mem_cons_of_mem _ member))

theorem Reread.high {r : Rune} (decoded : r.Decoded) (valid : ¬r.Broken) (large : 0x80 ≤ r.code) : Reread r r.raw where
  body := by
    intro rest text
    refine body_high _ _ ?_ text
    rw [(decoded.valid valid).1]
    exact encodeRune_high r.code large
  piece := by
    refine ⟨.rune r.code, .inl rfl, ?_⟩
    intro rest
    have scalar := decoded.scalar valid
    rw [(decoded.valid valid).1, runes_encodeRune _ scalar, pieces.eq_def]
    dsimp only
    rw [if_neg (by omega), if_neg (by omega)]

theorem shortEscape_letter (code : Nat) (letter : UInt8)
    (named : [(8, 0x62), (12, 0x66), (10, 0x6e), (13, 0x72), (9, 0x74)].lookup code = some letter) :
    letter ∈ escapeLetters ∧ escapeCodes.lookup letter.toNat = some code := by
  have all : ∀ entry ∈ [(8, 0x62), (12, 0x66), (10, 0x6e), (13, 0x72), (9, (0x74 : UInt8))],
      entry.2 ∈ escapeLetters ∧ escapeCodes.lookup entry.2.toNat = some entry.1 := by
    decide +kernel
  obtain ⟨before, after, split, _⟩ := List.lookup_eq_some_iff.mp named
  have member : (code, letter) ∈ [(8, 0x62), (12, 0x66), (10, 0x6e), (13, 0x72), (9, (0x74 : UInt8))] := by
    rw [split]
    exact List.mem_append_right _ List.mem_cons_self
  exact all _ member

theorem stringRune_ascii {r : Rune} (c : UInt8) (code : r.code = c.toNat) (raw : r.raw = [c]) (low : c.toNat < 0x80) :
    Reread r (stringRune r) := by
  have digits : ∀ n < 0x80, isHex (lowerhex (n / 16 % 16)) = true ∧ isHex (lowerhex (n % 16)) = true ∧
      hexValue [0x30, 0x30, lowerhex (n / 16 % 16), lowerhex (n % 16)] = n ∧ isSurrogate n = false := by
    decide +kernel
  rw [stringRune, code, if_pos low, raw]
  split
  · rename_i safe
    exact .plain c code safe
  split
  · rename_i special
    have letter : ∀ c : UInt8, c.toNat = 0x5c ∨ c.toNat = 0x22 → c ∈ escapeLetters ∧
        escapeCodes.lookup c.toNat = some c.toNat := forall_octet (by decide +kernel)
    obtain ⟨member, known⟩ := letter c special
    exact .escape c member (by rw [known, code])
  split
  · rename_i letter named
    obtain ⟨member, known⟩ := shortEscape_letter _ _ named
    exact .escape letter member (by rw [known, code])
  · obtain ⟨first, second, value, single⟩ := digits c.toNat low
    have written : text "\\u00" ++ hexDigits 2 c.toNat =
        [0x5c, 0x75, 0x30, 0x30, lowerhex (c.toNat / 16 % 16), lowerhex (c.toNat % 16)] := by
      have front : text "\\u00" = [0x5c, 0x75, 0x30, 0x30] := by decide +kernel
      rw [front]
      simp [hexDigits]
    rw [written]
    exact .unicode _ _ _ _ (by rw [first, second]; rfl) (by rw [value, code]) (by rw [code]; exact single)

theorem stringRune_reread (r : Rune) (decoded : r.Decoded) : Reread r (stringRune r) := by
  by_cases low : r.code < 0x80
  · have valid : ¬r.Broken := by
      rintro ⟨error, _⟩
      rw [error] at low
      exact absurd low (by decide)
    have raw := (decoded.valid valid).1
    rw [encodeRune, if_pos low] at raw
    have octet : (UInt8.ofNat r.code).toNat = r.code := UInt8.toNat_ofNat_of_lt' (Nat.lt_trans low (by decide))
    exact stringRune_ascii (UInt8.ofNat r.code) octet.symm raw (by rw [octet]; exact low)
  rw [stringRune, if_neg low]
  split
  · rename_i broken
    have written : text "\\ufffd" = [0x5c, 0x75, 0x66, 0x66, 0x66, 0x64] := by decide +kernel
    have code : r.code = 0xfffd := broken.1
    rw [written]
    exact .unicode _ _ _ _ (by decide) (by rw [code]; decide) (by rw [code]; decide)
  · rename_i valid
    split
    · rename_i separator
      have written : text "\\u202" = [0x5c, 0x75, 0x32, 0x30, 0x32] := by decide +kernel
      rw [written]
      rcases separator with code | code
      · rw [code]
        exact .unicode _ _ _ _ (by decide) (by rw [code]; decide) (by rw [code]; decide)
      · rw [code]
        exact .unicode _ _ _ _ (by decide) (by rw [code]; decide) (by rw [code]; decide)
    · exact .high decoded valid (Nat.not_lt.mp low)

theorem joinPieces_unit (u : Nat) (rest : List Piece) (single : isSurrogate u = false) :
    joinPieces (.unit u :: rest) = encodeRune u ++ joinPieces rest := by
  rw [joinPieces.eq_def]
  dsimp only
  rw [if_neg (by rw [single]; exact Bool.false_ne_true)]

theorem stringRunes_reread (rs : List Rune) (decoded : ∀ r ∈ rs, r.Decoded) :
    Body (rs.flatMap stringRune) ∧ ∃ ps, pieces (runes (rs.flatMap stringRune)) = some ps ∧
      joinPieces ps = rs.flatMap fun r => encodeRune r.code := by
  induction rs with
  | nil => exact ⟨.nil, [], rfl, rfl⟩
  | cons r rs ih =>
    obtain ⟨body, ps, found, joined⟩ := ih fun t member => decoded t (List.mem_cons_of_mem _ member)
    have reread := stringRune_reread r (decoded r List.mem_cons_self)
    obtain ⟨p, shape, read⟩ := reread.piece
    refine ⟨reread.body body, p :: ps, ?_, ?_⟩
    · rw [List.flatMap_cons, read, found]
      rfl
    · rw [List.flatMap_cons, ← joined]
      rcases shape with rfl | ⟨rfl, single⟩
      · rfl
      · exact joinPieces_unit _ _ single

def stringBody (s : Bytes) : Bytes := (runes s).flatMap stringRune

theorem stringBody_body (s : Bytes) : Body (stringBody s) := (stringRunes_reread _ (decoded_of_mem s)).1

theorem unquote_stringBody (s : Bytes) : unquote (stringBody s) = some (repair s) := by
  obtain ⟨_, ps, found, joined⟩ := stringRunes_reread (runes s) (decoded_of_mem s)
  rw [unquote, stringBody, found, Option.map_some, joined]
  rfl

theorem joinPieces_encodes (ps : List Piece) : ∃ codes : List Nat, joinPieces ps = codes.flatMap encodeRune := by
  -- by length: the two halves of a surrogate pair are read at once
  induction size : ps.length using Nat.strong_induction_on generalizing ps with
  | _ n ih =>
    subst size
    have step : ∀ code rest, rest.length < ps.length → ∃ codes : List Nat,
        encodeRune code ++ joinPieces rest = codes.flatMap encodeRune := by
      intro code rest shorter
      obtain ⟨codes, same⟩ := ih _ shorter rest rfl
      exact ⟨code :: codes, by rw [same]; rfl⟩
    rcases ps with _ | ⟨p, rest⟩
    · exact ⟨[], rfl⟩
    cases p with
    | rune code => exact step code rest (by simp)
    | unit u =>
      rw [joinPieces.eq_def]
      dsimp only
      split
      · split
        · rename_i v more
          split
          · exact step _ more (by simp only [List.length_cons]; omega)
          · exact step _ (.unit v :: more) (by simp)
        · exact step _ rest (by simp)
      · exact step u rest (by simp)

theorem unquote_valid (literal s : Bytes) (read : unquote literal = some s) : Valid s := by
  obtain ⟨ps, _, joined⟩ := Option.map_eq_some_iff.mp read
  obtain ⟨codes, encoded⟩ := joinPieces_encodes ps
  rw [← joined, encoded]
  exact valid_encode codes

def decimalValue (digits : Bytes) : Nat := digits.foldl (fun acc c => acc * 10 + (c - 0x30).toNat) 0

theorem decimalValue_append (front : Bytes) (c : UInt8) :
    decimalValue (front ++ [c]) = decimalValue front * 10 + (c - 0x30).toNat := by
  rw [decimalValue, List.foldl_append]
  rfl

theorem decimalValue_decimal (n : Nat) : decimalValue (decimal n) = n := by
  induction n using Nat.strongRecOn with
  | ind n ih =>
    rw [decimal, digits_eq_if 10 n (by omega)]
    split
    · rename_i small
      rw [decimalValue, List.foldl_cons, List.foldl_nil, (decimal_digit n small).2]
      omega
    · have front := ih (n / 10) (by omega)
      rw [decimalValue_append, (decimal_digit (n % 10) (by omega)).2, ← decimal, front]
      omega

theorem decimal_isDigit (n : Nat) (c : UInt8) (member : c ∈ decimal n) : isDigit c = true := by
  obtain ⟨d, small, rfl⟩ := mem_digits 10 n (by omega) c member
  exact (decimal_digit d small).1

theorem decimal_starts (n : Nat) (positive : 0 < n) : ∃ c rest, decimal n = c :: rest ∧ c ≠ 0x30 := by
  induction n using Nat.strongRecOn with
  | ind n ih =>
    rw [decimal, digits_eq_if 10 n (by omega)]
    split
    · rename_i small
      have lead : ∀ d < 10, 0 < d → digitByte d ≠ 0x30 := by decide
      exact ⟨_, [], rfl, lead n small positive⟩
    · obtain ⟨c, rest, shape, lead⟩ := ih (n / 10) (by omega) (by omega)
      rw [← decimal, shape]
      exact ⟨c, rest ++ [digitByte (n % 10)], rfl, lead⟩

/-- The text cannot continue a number. -/
def EndsNumber (rest : Bytes) : Prop :=
  ∀ c tail, rest = c :: tail → isDigit c = false ∧ c ≠ 0x2e ∧ c ∉ text "eE"

theorem dropWhile_digits (digits rest : Bytes) (all : ∀ c ∈ digits, isDigit c = true) (ends : EndsNumber rest) :
    (digits ++ rest).dropWhile isDigit = rest := by
  rw [List.dropWhile_append_of_pos all]
  cases rest with
  | nil => rfl
  | cons c tail => exact List.dropWhile_cons_of_neg (by rw [(ends c tail rfl).1]; exact Bool.false_ne_true)

theorem scanNumber_decimal (n : Nat) (rest : Bytes) (ends : EndsNumber rest) :
    scanNumber (decimal n ++ rest) = some (decimal n, rest) := by
  have sign : skipOneOf (text "-") (decimal n ++ rest) = decimal n ++ rest := by
    obtain ⟨c, tail, shape⟩ := List.exists_cons_of_ne_nil (digits_ne_nil 10 n)
    rw [← decimal] at shape
    have digit := decimal_isDigit n c (by rw [shape]; exact List.mem_cons_self)
    have apart : ∀ c : UInt8, isDigit c = true → c ∉ text "-" := forall_octet (by decide +kernel)
    rw [shape, List.cons_append, skipOneOf, if_neg (apart c digit)]
  have integer : skipInteger (decimal n ++ rest) = some rest := by
    by_cases zero : n = 0
    · subst zero
      rfl
    · obtain ⟨c, tail, shape, lead⟩ := decimal_starts n (Nat.pos_of_ne_zero zero)
      have all : ∀ b ∈ c :: tail, isDigit b = true := by
        rw [← shape]
        exact decimal_isDigit n
      rw [shape, List.cons_append, skipInteger, if_neg lead, skipDigits, if_pos (all c List.mem_cons_self),
        dropWhile_digits tail rest (fun b member => all b (List.mem_cons_of_mem _ member)) ends]
  have fraction : skipFraction rest = some rest := by
    cases rest with
    | nil => rfl
    | cons c tail => exact if_neg (ends c tail rfl).2.1
  have exponent : skipExponent rest = some rest := by
    cases rest with
    | nil => rfl
    | cons c tail => exact if_neg (ends c tail rfl).2.2
  simp only [scanNumber, sign, integer, fraction, exponent, Option.bind_eq_bind, Option.bind_some, List.length_append,
    Nat.add_sub_cancel, List.take_left]

-- The types of the values that are marshalled. A struct is its fields in order, with the name of the tag and whether it
-- says `omitempty`.
mutual
inductive GoType where
  | string
  | bool
  | uint16
  | pointer (elem : GoType)
  | struct (fields : Fields)

inductive Fields where
  | nil
  | cons (name : Bytes) (omitEmpty : Bool) (type : GoType) (rest : Fields)
end

mutual
def GoType.Val : GoType → Type
  | .string => Bytes
  | .bool => Bool
  | .uint16 => UInt16
  | .pointer elem => Option elem.Val
  | .struct fields => fields.Val

def Fields.Val : Fields → Type
  | .nil => Unit
  | .cons _ _ type rest => type.Val × rest.Val
end

mutual
def GoType.zero : (t : GoType) → t.Val
  | .string => ([] : Bytes)
  | .bool => false
  | .uint16 => (0 : UInt16)
  | .pointer _ => none
  | .struct fields => fields.zero

def Fields.zero : (fields : Fields) → fields.Val
  | .nil => ()
  | .cons _ _ type rest => (type.zero, rest.zero)
end

def GoType.isEmpty : (t : GoType) → t.Val → Bool
  | .string, s => List.isEmpty (α := UInt8) s
  | .bool, b => !b
  | .uint16, n => UInt16.toNat n == 0
  | .pointer _, v => Option.isNone v
  | .struct _, _ => false

def marshalBool (b : Bool) : Bytes := if b then text "true" else text "false"

-- the fields after the first one that is written are preceded by a comma
mutual
def GoType.marshal : (t : GoType) → t.Val → Bytes
  | .string, s => appendString s
  | .bool, b => marshalBool b
  | .uint16, n => decimal (UInt16.toNat n)
  | .pointer elem, v =>
    match v with
    | none => text "null"
    | some v => elem.marshal v
  | .struct fields, vs => 0x7b :: (fields.marshal true vs ++ [0x7d])

def Fields.marshal : (fields : Fields) → (first : Bool) → fields.Val → Bytes
  | .nil, _, _ => []
  | .cons name omitEmpty type rest, first, (v, vs) =>
    if omitEmpty && type.isEmpty v then rest.marshal first vs
    else (if first then [] else [0x2c]) ++ (appendString name ++ 0x3a :: (type.marshal v ++ rest.marshal false vs))
end

def Fields.names : Fields → List Bytes
  | .nil => []
  | .cons name _ _ rest => name :: rest.names

/-- The field that a member is stored in: the one of exactly this name, else the first whose name folds alike. -/
def Fields.index (fields : Fields) (name : Bytes) : Option Nat :=
  match fields.names.findIdx? fun n => n = name with
  | some i => some i
  | none => fields.names.findIdx? fun n => foldName n = foldName name

def storeString : Value → Bytes → Option Bytes
  | .null, old => some old
  | .string literal, _ => unquote literal
  | _, _ => none

def storeBool : Value → Bool → Option Bool
  | .null, old => some old
  | .bool b, _ => some b
  | _, _ => none

/-- A number that is not an integer in decimal, or does not fit, is an error. -/
def storeUint16 : Value → UInt16 → Option UInt16
  | .null, old => some old
  | .number literal, _ =>
    if literal ≠ [] ∧ literal.all isDigit ∧ decimalValue literal < UInt16.size then
      some (UInt16.ofNat (decimalValue literal))
    else none
  | _, _ => none

-- `Decode` into a value that is there already: `null` leaves anything but a pointer as it is, a pointer is allocated
-- when it is nil, and a member of no field is skipped.
mutual
def GoType.store : (t : GoType) → Value → t.Val → Option t.Val
  | .string, v, old => storeString v old
  | .bool, v, old => storeBool v old
  | .uint16, v, old => storeUint16 v old
  | .pointer elem, v, old =>
    match v with
    | .null => some none
    | v => (elem.store v (Option.getD old elem.zero)).map some
  | .struct fields, v, old =>
    match v with
    | .null => some old
    | .object members =>
      members.foldlM (fun vs member => (unquote member.1).bind fun name =>
        match fields.index name with
        | some i => fields.storeAt i member.2 vs
        | none => some vs) old
    | _ => none

def Fields.storeAt : (fields : Fields) → Nat → Value → fields.Val → Option fields.Val
  | .nil, _, _, vs => some vs
  | .cons _ _ type _, 0, v, (old, vs) => (type.store v old).map fun new => (new, vs)
  | .cons _ _ _ rest, i + 1, v, (old, vs) => (rest.storeAt i v vs).map fun new => (old, new)
end

-- the value as the scanner sees what is written for it
mutual
def GoType.tree : (t : GoType) → t.Val → Value
  | .string, s => .string (stringBody s)
  | .bool, b => .bool b
  | .uint16, n => .number (decimal (UInt16.toNat n))
  | .pointer elem, v =>
    match v with
    | none => .null
    | some v => elem.tree v
  | .struct fields, vs => .object (fields.entries vs)

def Fields.entries : (fields : Fields) → fields.Val → List (Bytes × Value)
  | .nil, _ => []
  | .cons name omitEmpty type rest, (v, vs) =>
    if omitEmpty && type.isEmpty v then rest.entries vs
    else (stringBody name, type.tree v) :: rest.entries vs
end

mutual
def GoType.repair : (t : GoType) → t.Val → t.Val
  | .string, s => Go.repair s
  | .bool, b => b
  | .uint16, n => n
  | .pointer elem, v => Option.map elem.repair v
  | .struct fields, vs => fields.repair vs

def Fields.repair : (fields : Fields) → fields.Val → fields.Val
  | .nil, vs => vs
  | .cons _ _ type rest, (v, vs) => (type.repair v, rest.repair vs)
end

mutual
def GoType.depth : GoType → Nat
  | .pointer elem => elem.depth
  | .struct fields => fields.depth + 1
  | _ => 0

def Fields.depth : Fields → Nat
  | .nil => 0
  | .cons _ _ type rest => max type.depth rest.depth
end

def GoType.isPointer : GoType → Bool
  | .pointer _ => true
  | _ => false

-- no pointers to pointers, and the names of the fields of a struct are UTF-8 and distinct
mutual
def GoType.sound : GoType → Bool
  | .pointer elem => !elem.isPointer && elem.sound
  | .struct fields => decide fields.names.Nodup && fields.sound
  | _ => true

def Fields.sound : Fields → Bool
  | .nil => true
  | .cons name _ type rest => decide (Valid name) && (type.sound && rest.sound)
end

theorem separator_ends {c : UInt8} (kind : c = 0x2c ∨ c = 0x7d) (tail : Bytes) : EndsNumber (c :: tail) := by
  have apart : ∀ c : UInt8, c = 0x2c ∨ c = 0x7d → isDigit c = false ∧ c ≠ 0x2e ∧ c ∉ text "eE" :=
    forall_octet (by decide +kernel)
  rintro c' tail' ⟨⟩
  exact apart c kind

theorem members_field {v : Value} {written : Bytes} {fuel depth : Nat} {c : UInt8} {tail : Bytes} (name more rest : Bytes)
    (kind : c = 0x2c ∨ c = 0x7d) (starts : ∀ rest, skipSpace (written ++ rest) = written ++ rest)
    (read : value fuel depth (written ++ c :: tail) = some (v, c :: tail)) (follows : more ++ 0x7d :: rest = c :: tail) :
    members (fuel + 1) depth (appendString name ++ 0x3a :: (written ++ more) ++ 0x7d :: rest) =
      if c = 0x2c then (members fuel depth tail).map fun scanned => ((stringBody name, v) :: scanned.1, scanned.2)
      else if c = 0x7d then some ([(stringBody name, v)], tail)
      else none := by
  have visible : isSpace c = false := by
    rcases kind with rfl | rfl <;> rfl
  have text : appendString name ++ 0x3a :: (written ++ more) ++ 0x7d :: rest =
      0x22 :: (stringBody name ++ 0x22 :: 0x3a :: (written ++ c :: tail)) := by
    rw [← follows]
    simp [appendString, stringBody]
  have keyed : (some (stringBody name ++ 0x22 :: 0x3a :: (written ++ c :: tail)) >>= scanString) =
      some (stringBody name, 0x3a :: (written ++ c :: tail)) := (stringBody_body name).scan _
  rw [text, members, skipSpace_stop _ _ (by decide), expect_cons, keyed]
  dsimp only
  rw [skipSpace_stop _ _ (by decide), expect_cons, Option.bind_some, starts, read]
  dsimp only
  rw [skipSpace_stop c tail visible]

theorem GoType.marshal_starts : (t : GoType) → (v : t.Val) → ∃ c tail, t.marshal v = c :: tail ∧ isSpace c = false
  | .string, _ => ⟨0x22, _, rfl, rfl⟩
  | .bool, true => ⟨0x74, _, rfl, rfl⟩
  | .bool, false => ⟨0x66, _, rfl, rfl⟩
  | .uint16, n => by
    obtain ⟨c, tail, shape⟩ := List.exists_cons_of_ne_nil (digits_ne_nil 10 (UInt16.toNat n))
    have digit := decimal_isDigit _ c (by rw [decimal, shape]; exact List.mem_cons_self)
    have visible : ∀ c : UInt8, isDigit c = true → isSpace c = false := forall_octet (by decide +kernel)
    exact ⟨c, tail, shape, visible c digit⟩
  | .pointer _, none => ⟨0x6e, _, rfl, rfl⟩
  | .pointer elem, some v => elem.marshal_starts v
  | .struct _, _ => ⟨0x7b, _, rfl, rfl⟩

theorem GoType.skipSpace_marshal (t : GoType) (v : t.Val) (rest : Bytes) :
    skipSpace (t.marshal v ++ rest) = t.marshal v ++ rest := by
  obtain ⟨c, tail, shape, visible⟩ := t.marshal_starts v
  rw [shape, List.cons_append, skipSpace_stop c _ visible]

theorem Fields.marshal_first : (fields : Fields) → (vs : fields.Val) →
    (fields.entries vs = [] → fields.marshal true vs = []) ∧
      fields.marshal false vs = if fields.entries vs = [] then [] else 0x2c :: fields.marshal true vs
  | .nil, _ => ⟨fun _ => rfl, rfl⟩
  | .cons name omitEmpty type rest, (v, vs) => by
    simp only [Fields.marshal, Fields.entries]
    split
    · exact rest.marshal_first vs
    · simp

theorem Fields.marshal_quoted : (fields : Fields) → (vs : fields.Val) → fields.entries vs ≠ [] →
    ∃ tail, fields.marshal true vs = 0x22 :: tail
  | .nil, _, filled => absurd rfl filled
  | .cons name omitEmpty type rest, (v, vs), filled => by
    simp only [Fields.marshal, Fields.entries] at filled ⊢
    split
    · rename_i omitted
      rw [if_pos omitted] at filled
      exact rest.marshal_quoted vs filled
    · exact ⟨_, rfl⟩

-- The scanner reads a value to its end and a struct to its closing brace.
mutual
theorem GoType.value_marshal : (t : GoType) → (v : t.Val) → (fuel depth : Nat) → (rest : Bytes) →
    (t.marshal v).length ≤ fuel → depth + t.depth ≤ maxNestingDepth → EndsNumber rest →
    value fuel depth (t.marshal v ++ rest) = some (t.tree v, rest)
  | .string, s, fuel, depth, rest, enough, _, _ => by
    obtain ⟨fuel, rfl⟩ : ∃ n, fuel = n + 1 := ⟨fuel - 1, by simp [GoType.marshal, appendString] at enough; omega⟩
    exact value_spelling (some ⟨stringBody s, stringBody_body s⟩) fuel depth rest
  | .bool, true, fuel, depth, rest, enough, _, _ => by
    obtain ⟨fuel, rfl⟩ : ∃ n, fuel = n + 1 := ⟨fuel - 1, by have : 4 ≤ fuel := enough; omega⟩
    rfl
  | .bool, false, fuel, depth, rest, enough, _, _ => by
    obtain ⟨fuel, rfl⟩ : ∃ n, fuel = n + 1 := ⟨fuel - 1, by have : 5 ≤ fuel := enough; omega⟩
    rfl
  | .uint16, n, fuel, depth, rest, enough, _, ends => by
    obtain ⟨c, tail, shape⟩ := List.exists_cons_of_ne_nil (digits_ne_nil 10 (UInt16.toNat n))
    have digit := decimal_isDigit _ c (by rw [decimal, shape]; exact List.mem_cons_self)
    have apart : ∀ c : UInt8, isDigit c = true →
        c ≠ 0x7b ∧ c ≠ 0x5b ∧ c ≠ 0x22 ∧ c ≠ 0x74 ∧ c ≠ 0x66 ∧ c ≠ 0x6e := forall_octet (by decide +kernel)
    obtain ⟨brace, bracket, quote, t, f, n'⟩ := apart c digit
    have read := scanNumber_decimal (UInt16.toNat n) rest ends
    rw [decimal, shape] at read
    simp only [GoType.marshal, GoType.tree, decimal, shape, List.length_cons] at enough ⊢
    obtain ⟨fuel, rfl⟩ : ∃ n, fuel = n + 1 := ⟨fuel - 1, by omega⟩
    rw [List.cons_append, value, if_neg brace, if_neg bracket, if_neg quote, if_neg t, if_neg f, if_neg n', ← List.cons_append,
      read]
    rfl
  | .pointer _, none, fuel, depth, rest, enough, _, _ => by
    obtain ⟨fuel, rfl⟩ : ∃ n, fuel = n + 1 := ⟨fuel - 1, by have : 4 ≤ fuel := enough; omega⟩
    exact value_spelling none fuel depth rest
  | .pointer elem, some v, fuel, depth, rest, enough, shallow, ends =>
    elem.value_marshal v fuel depth rest enough shallow ends
  | .struct fields, vs, fuel, depth, rest, enough, shallow, _ => by
    simp only [GoType.marshal, GoType.tree, GoType.depth, List.length_cons, List.length_append, List.length_nil] at *
    obtain ⟨fuel, rfl⟩ : ∃ n, fuel = n + 1 := ⟨fuel - 1, by omega⟩
    have shape : 0x7b :: (fields.marshal true vs ++ [0x7d]) ++ rest = 0x7b :: (fields.marshal true vs ++ 0x7d :: rest) := by
      simp
    rw [shape, value, if_pos rfl, if_pos (by omega)]
    by_cases empty : fields.entries vs = []
    · rw [(fields.marshal_first vs).1 empty, List.nil_append, skipSpace_stop _ _ (by decide), expect_cons, empty]
    · obtain ⟨tail, starts⟩ := fields.marshal_quoted vs empty
      have more : expect 0x7d (skipSpace (fields.marshal true vs ++ 0x7d :: rest)) = none := by
        rw [starts, List.cons_append, skipSpace_stop _ _ (by decide)]
        rfl
      rw [more]
      dsimp only
      rw [fields.members_marshal vs fuel (depth + 1) rest (by omega) (by omega) empty]
      rfl

theorem Fields.members_marshal : (fields : Fields) → (vs : fields.Val) → (fuel depth : Nat) → (rest : Bytes) →
    (fields.marshal true vs).length ≤ fuel → depth + fields.depth ≤ maxNestingDepth → fields.entries vs ≠ [] →
    members fuel depth (fields.marshal true vs ++ 0x7d :: rest) = some (fields.entries vs, rest)
  | .nil, _, _, _, _, _, _, filled => absurd rfl filled
  | .cons name omitEmpty type rest', (v, vs), fuel, depth, rest, enough, shallow, filled => by
    simp only [Fields.marshal, Fields.entries, Fields.depth] at *
    split at filled
    · rename_i omitted
      rw [if_pos omitted] at enough ⊢
      rw [if_pos omitted]
      exact rest'.members_marshal vs fuel depth rest enough (by omega) filled
    · rename_i written
      rw [if_neg written] at enough ⊢
      rw [if_neg written]
      simp only [if_true, List.nil_append, List.length_append, List.length_cons] at enough ⊢
      obtain ⟨fuel, rfl⟩ : ∃ n, fuel = n + 1 := ⟨fuel - 1, by omega⟩
      have read : ∀ c tail, c = 0x2c ∨ c = 0x7d →
          value fuel depth (type.marshal v ++ c :: tail) = some (type.tree v, c :: tail) :=
        fun c tail kind => type.value_marshal v fuel depth (c :: tail) (by omega) (by omega) (separator_ends kind tail)
      have next := (rest'.marshal_first vs).2
      by_cases last : rest'.entries vs = []
      · rw [if_pos last] at next
        rw [members_field name _ _ (.inr rfl) (type.skipSpace_marshal v) (read 0x7d rest (.inr rfl)) (by rw [next]; rfl),
          last]
        rfl
      · rw [if_neg last] at next
        rw [next, List.length_cons] at enough
        rw [members_field name _ _ (.inl rfl) (type.skipSpace_marshal v)
          (read 0x2c (rest'.marshal true vs ++ 0x7d :: rest) (.inl rfl)) (by rw [next]; rfl), if_pos rfl,
          rest'.members_marshal vs fuel depth rest (by omega) (by omega) last]
        rfl
end

theorem storeUint16_decimal (n old : UInt16) : storeUint16 (.number (decimal n.toNat)) old = some n := by
  have digits : (decimal n.toNat).all isDigit = true := List.all_eq_true.mpr (decimal_isDigit n.toNat)
  rw [storeUint16, decimalValue_decimal, if_pos ⟨digits_ne_nil 10 _, digits, n.toNat_lt⟩, UInt16.ofNat_toNat]

theorem GoType.tree_ne_null (t : GoType) (v : t.Val) (direct : t.isPointer = false) : t.tree v ≠ .null := by
  cases t with
  | pointer elem => cases direct
  | _ => exact Value.noConfusion

theorem GoType.store_pointer (elem : GoType) (v : Value) (old : Option elem.Val) (filled : v ≠ .null) :
    (GoType.pointer elem).store v old = (elem.store v (old.getD elem.zero)).map some := by
  cases v with
  | null => exact absurd rfl filled
  | _ => rfl

theorem GoType.repair_isEmpty : (t : GoType) → (v : t.Val) → t.isEmpty v = true → t.repair v = t.zero
  | .string, [], _ => rfl
  | .string, _ :: _, empty => by cases empty
  | .bool, false, _ => rfl
  | .bool, true, empty => by cases empty
  | .uint16, _, empty => UInt16.toNat_inj.mp (of_decide_eq_true empty)
  | .pointer _, none, _ => rfl
  | .pointer _, some _, empty => by cases empty
  | .struct _, _, empty => by cases empty

def Fields.storeMember (fields : Fields) (vs : fields.Val) (member : Bytes × Value) : Option fields.Val :=
  (unquote member.1).bind fun name =>
    match fields.index name with
    | some i => fields.storeAt i member.2 vs
    | none => some vs

theorem Fields.index_name (fields : Fields) (distinct : fields.names.Nodup) (i : Nat) (name : Bytes)
    (there : fields.names[i]? = some name) : fields.index name = some i := by
  obtain ⟨inside, same⟩ := List.getElem?_eq_some_iff.mp there
  have found : fields.names.findIdx? (fun n => n = name) = some i := by
    rw [List.findIdx?_eq_some_iff_getElem]
    refine ⟨inside, by simp [same], ?_⟩
    intro j before equal
    apply List.pairwise_iff_getElem.mp distinct j i (Nat.lt_trans before inside) inside before
    rw [same]
    exact of_decide_eq_true equal
  rw [Fields.index, found]

mutual
theorem GoType.store_tree : (t : GoType) → (v : t.Val) → t.sound = true → t.store (t.tree v) t.zero = some (t.repair v)
  | .string, s, _ => unquote_stringBody s
  | .bool, _, _ => rfl
  | .uint16, n, _ => storeUint16_decimal n _
  | .pointer _, none, _ => rfl
  | .pointer elem, some v, sound => by
    simp only [GoType.sound, Bool.and_eq_true, Bool.not_eq_true'] at sound
    have stored := elem.store_tree v sound.2
    have filled := elem.tree_ne_null v sound.1
    have allocated := GoType.store_pointer elem (elem.tree v) none filled
    rw [Option.getD_none, stored] at allocated
    exact allocated
  | .struct fields, vs, sound => by
    simp only [GoType.sound, Bool.and_eq_true, decide_eq_true_eq] at sound
    exact fields.storeMember_entries fields 0 id vs sound.1 sound.2 (fun i v vs => by simp)
      (fun i name there => by simpa using there)

/-- The members of the fields from the `k`-th on, stored in a struct of which the others are there already. -/
theorem Fields.storeMember_entries : (rest full : Fields) → (k : Nat) → (put : rest.Val → full.Val) → (vs : rest.Val) →
    full.names.Nodup → rest.sound = true →
    (∀ i v vs, full.storeAt (k + i) v (put vs) = (rest.storeAt i v vs).map put) →
    (∀ i name, rest.names[i]? = some name → full.names[k + i]? = some name) →
    (rest.entries vs).foldlM full.storeMember (put rest.zero) = some (put (rest.repair vs))
  | .nil, _, _, _, _, _, _, _, _ => rfl
  | .cons name omitEmpty type rest, full, k, put, (v, vs), distinct, sound, placed, named => by
    simp only [Fields.sound, Bool.and_eq_true, decide_eq_true_eq] at sound
    have later := rest.storeMember_entries full (k + 1) (fun vs => put (type.repair v, vs)) vs distinct sound.2.2
      (by
        intro i w ws
        have there := placed (i + 1) w (type.repair v, ws)
        rw [Nat.add_right_comm, Nat.add_assoc]
        refine there.trans ?_
        rw [Fields.storeAt]
        cases rest.storeAt i w ws <;> rfl)
      (by
        intro i other there
        have := named (i + 1) other there
        rwa [Nat.add_assoc, Nat.add_comm 1 i])
    simp only [Fields.entries]
    split
    · rename_i omitted
      rw [Bool.and_eq_true] at omitted
      rw [type.repair_isEmpty v omitted.2] at later
      rw [Fields.repair, type.repair_isEmpty v omitted.2]
      exact later
    · have here : full.storeMember (put (type.zero, rest.zero)) (stringBody name, type.tree v) =
          some (put (type.repair v, rest.zero)) := by
        have index := full.index_name distinct k name (named 0 name rfl)
        have at0 := placed 0 (type.tree v) (type.zero, rest.zero)
        rw [Nat.add_zero, Fields.storeAt, type.store_tree v sound.2.1] at at0
        rw [Fields.storeMember, unquote_stringBody, sound.1, Option.bind_some, index]
        exact at0
      rw [List.foldlM_cons, Fields.zero, here]
      exact later
end

mutual
theorem GoType.repair_zero : (t : GoType) → t.repair t.zero = t.zero
  | .string | .bool | .uint16 | .pointer _ => rfl
  | .struct fields => fields.repair_zero

theorem Fields.repair_zero : (fields : Fields) → fields.repair fields.zero = fields.zero
  | .nil => rfl
  | .cons _ _ type rest => by rw [Fields.zero, Fields.repair, type.repair_zero, rest.repair_zero]
end

theorem foldlM_preserves {α β : Type} {p : β → Prop} (step : β → α → Option β)
    (kept : ∀ b a c, step b a = some c → p b → p c) (items : List α) (b c : β) (done : items.foldlM step b = some c)
    (start : p b) : p c := by
  induction items generalizing b with
  | nil =>
    cases done
    exact start
  | cons a items ih =>
    rw [List.foldlM_cons] at done
    obtain ⟨next, here, done⟩ := Option.bind_eq_some_iff.mp done
    exact ih next done (kept b a next here start)

theorem storeString_valid (v : Value) (old new : Bytes) (stored : storeString v old = some new) (valid : Valid old) :
    Valid new := by
  cases v with
  | null =>
    cases stored
    exact valid
  | string literal => exact unquote_valid literal new stored
  | _ => cases stored

-- whatever is decoded leaves UTF-8 in the strings
mutual
theorem GoType.store_repaired : (t : GoType) → (v : Value) → (old new : t.Val) → t.store v old = some new →
    t.repair old = old → t.repair new = new
  | .string, v, old, new, stored, kept => storeString_valid v old new stored kept
  | .bool, _, _, _, _, _ => rfl
  | .uint16, _, _, _, _, _ => rfl
  | .pointer elem, v, old, new, stored, kept => by
    by_cases null : v = .null
    · subst null
      cases stored
      rfl
    · rw [GoType.store_pointer elem v old null] at stored
      obtain ⟨inner, here, rfl⟩ := Option.map_eq_some_iff.mp stored
      have before : elem.repair (Option.getD old elem.zero) = Option.getD old elem.zero := by
        cases old with
        | none => exact elem.repair_zero
        | some held => exact Option.some.inj kept
      exact congrArg some (elem.store_repaired v _ inner here before)
  | .struct fields, v, old, new, stored, kept => by
    cases v with
    | null =>
      cases stored
      exact kept
    | object members =>
      refine foldlM_preserves (p := fun vs => fields.repair vs = vs) fields.storeMember ?_ members old new stored kept
      intro vs member ws here before
      obtain ⟨name, _, here⟩ := Option.bind_eq_some_iff.mp here
      split at here
      · exact fields.storeAt_repaired _ _ vs ws here before
      · cases here
        exact before
    | _ => cases stored

theorem Fields.storeAt_repaired : (fields : Fields) → (i : Nat) → (v : Value) → (old new : fields.Val) →
    fields.storeAt i v old = some new → fields.repair old = old → fields.repair new = new
  | .nil, _, _, _, _, _, _ => rfl
  | .cons _ _ type rest, 0, v, (old, vs), new, stored, kept => by
    obtain ⟨inner, here, rfl⟩ := Option.map_eq_some_iff.mp stored
    obtain ⟨first, others⟩ := Prod.mk.inj kept
    exact Prod.ext (type.store_repaired v old inner here first) others
  | .cons _ _ type rest, i + 1, v, (old, vs), new, stored, kept => by
    obtain ⟨inner, here, rfl⟩ := Option.map_eq_some_iff.mp stored
    obtain ⟨first, others⟩ := Prod.mk.inj kept
    exact Prod.ext first (rest.storeAt_repaired i v vs inner here others)
end

/-- `Decode` into a new value, which reads the first value of the input. -/
def decode (t : GoType) (data : Bytes) : Option t.Val := (readValue data).bind fun read => t.store read.1 t.zero

theorem decode_marshal (t : GoType) (v : t.Val) (rest : Bytes) (sound : t.sound = true) (shallow : t.depth ≤ maxNestingDepth)
    (ends : EndsNumber rest) : decode t (t.marshal v ++ rest) = some (t.repair v) := by
  have enough : (t.marshal v).length ≤ 2 * (t.marshal v ++ rest).length + 2 := by
    rw [List.length_append]
    omega
  rw [decode, readValue, t.skipSpace_marshal, t.value_marshal v _ 0 rest enough (by omega) ends, Option.bind_some]
  exact t.store_tree v sound

theorem decode_repaired (t : GoType) (data : Bytes) (v : t.Val) (decoded : decode t data = some v) : t.repair v = v := by
  obtain ⟨⟨tree, rest⟩, _, stored⟩ := Option.bind_eq_some_iff.mp decoded
  exact t.store_repaired tree t.zero v stored t.repair_zero

end Rtc2Tcp.Go.JSON

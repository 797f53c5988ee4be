import Rtc2Tcp.Go.Strings

namespace Rtc2Tcp.Go.RawURLEncoding

open Octets

/-- The six-bit digits of a byte string; the last group may be short and is not padded. -/
def sextets : Bytes → List Nat
  | a :: b :: c :: rest =>
    let n := a.toNat * 65536 + b.toNat * 256 + c.toNat
    n / 262144 :: n / 4096 % 64 :: n / 64 % 64 :: n % 64 :: sextets rest
  | [a, b] =>
    let n := a.toNat * 65536 + b.toNat * 256
    [n / 262144, n / 4096 % 64, n / 64 % 64]
  | [a] =>
    let n := a.toNat * 65536
    [n / 262144, n / 4096 % 64]
  | [] => []

def digit (i : Nat) : UInt8 :=
  UInt8.ofNat (if i < 26 then 65 + i else if i < 52 then 97 + (i - 26)
    else if i < 62 then 48 + (i - 52) else if i = 62 then 45 else 95)

def digitValue (b : UInt8) : Option Nat :=
  if 65 ≤ b && b ≤ 90 then some (b.toNat - 65)
  else if 97 ≤ b && b ≤ 122 then some (b.toNat - 97 + 26)
  else if 48 ≤ b && b ≤ 57 then some (b.toNat - 48 + 52)
  else if b == 45 then some 62
  else if b == 95 then some 63
  else none

def encodeToString (bytes : Bytes) : Bytes := (sextets bytes).map digit

/-- Left-over bits of a short last group are ignored: the encoding is not strict. -/
def octets : List Nat → Option Bytes
  | a :: b :: c :: d :: rest => do
    let n := a * 262144 + b * 4096 + c * 64 + d
    let tail ← octets rest
    some (UInt8.ofNat (n / 65536) :: UInt8.ofNat (n / 256) :: UInt8.ofNat n :: tail)
  | [a, b, c] =>
    let n := a * 262144 + b * 4096 + c * 64
    some [UInt8.ofNat (n / 65536), UInt8.ofNat (n / 256)]
  | [a, b] => some [UInt8.ofNat ((a * 262144 + b * 4096) / 65536)]
  | [_] => none
  | [] => some []

/-- `base64.RawURLEncoding.DecodeString`: line breaks are skipped anywhere in the input. -/
def decodeString (s : Bytes) : Option Bytes :=
  ((s.filter fun b => b != 10 && b != 13).mapM digitValue).bind octets

theorem sextets_lt (bytes : Bytes) : ∀ i ∈ sextets bytes, i < 64 := by
  fun_induction sextets bytes with
  | case1 a b c rest n ih =>
    have := a.toNat_lt; have := b.toNat_lt; have := c.toNat_lt
    intro i member
    simp only [List.mem_cons] at member
    rcases member with rfl | rfl | rfl | rfl | member
    · omega
    · omega
    · omega
    · omega
    · exact ih i member
  | case2 a b n =>
    have := a.toNat_lt; have := b.toNat_lt
    intro i member
    simp only [List.mem_cons, List.not_mem_nil, or_false] at member
    omega
  | case3 a n =>
    have := a.toNat_lt
    intro i member
    simp only [List.mem_cons, List.not_mem_nil, or_false] at member
    omega
  | case4 => simp

theorem octets_sextets (bytes : Bytes) : octets (sextets bytes) = some bytes := by
  fun_induction sextets bytes with
  | case1 a b c rest n ih =>
    have := a.toNat_lt; have := b.toNat_lt; have := c.toNat_lt
    have whole : n / 262144 * 262144 + n / 4096 % 64 * 4096 + n / 64 % 64 * 64 + n % 64 = n := by omega
    simp only [octets, ih, whole, Option.bind_eq_bind, Option.bind_some, Option.some.injEq,
      List.cons.injEq, and_true]
    exact ⟨ofNat_toNat_eq _ _ (by omega), ofNat_toNat_eq _ _ (by omega), ofNat_toNat_eq _ _ (by omega)⟩
  | case2 a b n =>
    have := a.toNat_lt; have := b.toNat_lt
    simp only [octets, Option.some.injEq, List.cons.injEq, and_true]
    exact ⟨ofNat_toNat_eq _ _ (by omega), ofNat_toNat_eq _ _ (by omega)⟩
  | case3 a n =>
    have := a.toNat_lt
    simp only [octets, Option.some.injEq, List.cons.injEq, and_true]
    exact ofNat_toNat_eq _ _ (by omega)
  | case4 => rfl

theorem digit_spec (i : Nat) (bound : i < 64) :
    digitValue (digit i) = some i ∧ (digit i != 10 && digit i != 13) = true ∧ digit i < 0x80 ∧
      isSpace (digit i).toNat = false := by
  have all : ∀ j : Fin 64, digitValue (digit j) = some j.val ∧
      (digit j != 10 && digit j != 13) = true ∧ digit j < 0x80 ∧ isSpace (digit j).toNat = false := by
    decide
  exact all ⟨i, bound⟩

theorem mapM_digitValue (digits : List Nat) (bound : ∀ i ∈ digits, i < 64) :
    (digits.map digit).mapM digitValue = some digits := by
  induction digits with
  | nil => rfl
  | cons i rest ih =>
    have first := (digit_spec i (bound i (by simp))).1
    have tail := ih fun j member => bound j (List.mem_cons_of_mem _ member)
    rw [List.map_cons, List.mapM_cons, first, tail]
    rfl

@[simp] theorem decodeString_encodeToString (bytes : Bytes) :
    decodeString (encodeToString bytes) = some bytes := by
  have kept : (encodeToString bytes).filter (fun b => b != 10 && b != 13) = encodeToString bytes := by
    rw [List.filter_eq_self]
    intro b member
    obtain ⟨i, inside, rfl⟩ := List.mem_map.mp member
    exact (digit_spec i (sextets_lt bytes i inside)).2.1
  rw [decodeString, kept, encodeToString, mapM_digitValue _ (sextets_lt bytes), Option.bind_some,
    octets_sextets]

@[simp] theorem trimSpace_encodeToString (bytes : Bytes) :
    trimSpace (encodeToString bytes) = encodeToString bytes := by
  apply trimSpace_ascii
  intro b member
  obtain ⟨i, inside, rfl⟩ := List.mem_map.mp member
  exact (digit_spec i (sextets_lt bytes i inside)).2.2

example : encodeToString (List.replicate 4 0x11) = text "EREREQ" := by decide
example : decodeString (text "ERER\nER") = some (List.replicate 4 0x11) := by decide

end Rtc2Tcp.Go.RawURLEncoding

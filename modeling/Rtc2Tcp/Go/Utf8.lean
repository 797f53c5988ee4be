import Rtc2Tcp.Go.Quote

namespace Rtc2Tcp.Go

open Octets

theorem decodeRune_encodeRune (c : Nat) (scalar : Scalar c) (x : Bytes) :
    decodeRune (encodeRune c ++ x) = (c, (encodeRune c).length) := by
  obtain ⟨bound, outside⟩ := scalar
  have octet : ∀ n < 256, (UInt8.ofNat n).toNat = n := fun n small => UInt8.toNat_ofNat_of_lt' small
  rw [encodeRune]
  split
  · rename_i ascii
    rw [List.cons_append, decodeRune_ascii]
    · rw [octet c (by omega)]
      rfl
    · rw [UInt8.lt_iff_toNat_lt, octet c (by omega)]
      exact ascii
  split
  · have first := octet (0xc0 + c / 64) (by omega)
    have second := octet (0x80 + c % 64) (by omega)
    simp only [List.cons_append, List.nil_append, decodeRune, isContinuation, UInt8.lt_iff_toNat_lt,
      UInt8.le_iff_toNat_le, first, second, UInt8.reduceToNat, Bool.and_eq_true, decide_eq_true_eq, List.length_cons,
      List.length_nil]
    rw [if_neg (by omega), if_pos (by omega), if_pos (by omega)]
    congr 1
    omega
  split
  · omega
  split
  · have first := octet (0xe0 + c / 4096) (by omega)
    have second := octet (0x80 + c / 64 % 64) (by omega)
    have third := octet (0x80 + c % 64) (by omega)
    simp only [List.cons_append, List.nil_append, decodeRune, secondInRange, isContinuation, beq_iff_eq,
      UInt8.lt_iff_toNat_lt, UInt8.le_iff_toNat_le, ← UInt8.toNat_inj, first, second, third, UInt8.reduceToNat,
      Bool.and_eq_true, decide_eq_true_eq, List.length_cons, List.length_nil]
    rw [if_neg (by omega), if_neg (by omega), if_pos (by omega), if_pos]
    · congr 1
      omega
    · refine ⟨⟨by omega, ?_⟩, by omega⟩
      repeat' split
      all_goals simp only [decide_eq_true_eq]
      all_goals omega
  · have first := octet (0xf0 + c / 262144) (by omega)
    have second := octet (0x80 + c / 4096 % 64) (by omega)
    have third := octet (0x80 + c / 64 % 64) (by omega)
    have fourth := octet (0x80 + c % 64) (by omega)
    simp only [List.cons_append, List.nil_append, decodeRune, secondInRange, isContinuation, beq_iff_eq,
      UInt8.lt_iff_toNat_lt, UInt8.le_iff_toNat_le, ← UInt8.toNat_inj, first, second, third, fourth, UInt8.reduceToNat,
      Bool.and_eq_true, decide_eq_true_eq, List.length_cons, List.length_nil]
    rw [if_neg (by omega), if_neg (by omega), if_neg (by omega), if_pos (by omega), if_pos]
    · congr 1
      omega
    · refine ⟨⟨⟨by omega, ?_⟩, by omega⟩, by omega⟩
      repeat' split
      all_goals simp only [decide_eq_true_eq]
      all_goals omega

theorem runes_encodeRune (c : Nat) (scalar : Scalar c) (x : Bytes) :
    runes (encodeRune c ++ x) = ⟨c, encodeRune c⟩ :: runes x := by
  have read := decodeRune_encodeRune c scalar x
  obtain ⟨b, rest, shape⟩ := List.exists_cons_of_ne_nil (encodeRune_starts c x).1
  rw [shape, List.cons_append] at read ⊢
  rw [runes_cons, read, ← List.cons_append, List.take_left, List.drop_left]

def scalarOf (c : Nat) : Nat := if 0x10ffff < c ∨ (0xd800 ≤ c ∧ c ≤ 0xdfff) then runeError else c

theorem scalarOf_scalar (c : Nat) : Scalar (scalarOf c) := by
  unfold scalarOf Scalar
  split
  · decide
  · omega

theorem encodeRune_scalarOf (c : Nat) : encodeRune (scalarOf c) = encodeRune c := by
  unfold scalarOf
  split
  · rename_i outside
    have replaced : encodeRune c = [0xef, 0xbf, 0xbd] := by
      rw [encodeRune, if_neg (by omega), if_neg (by omega), if_pos outside]
    rw [replaced]
    decide
  · rfl

/-- The text with `U+FFFD` for each byte that is not part of a rune. -/
def repair (s : Bytes) : Bytes := (runes s).flatMap fun r => encodeRune r.code

def Valid (s : Bytes) : Prop := repair s = s

instance (s : Bytes) : Decidable (Valid s) := inferInstanceAs (Decidable (_ = _))

theorem repair_encodeRune (c : Nat) (x : Bytes) : repair (encodeRune c ++ x) = encodeRune c ++ repair x := by
  rw [← encodeRune_scalarOf, repair, runes_encodeRune _ (scalarOf_scalar c)]
  rfl

theorem valid_nil : Valid [] := rfl

theorem valid_encode (codes : List Nat) : Valid (codes.flatMap encodeRune) := by
  induction codes with
  | nil => rfl
  | cons c codes ih =>
    rw [Valid, List.flatMap_cons, repair_encodeRune]
    exact congrArg (encodeRune c ++ ·) ih

theorem valid_ascii (s : Bytes) (ascii : ∀ b ∈ s, b < 0x80) : Valid s := by
  induction s with
  | nil => rfl
  | cons b s ih =>
    have low : b.toNat < 0x80 := UInt8.lt_iff_toNat_lt.mp (ascii b List.mem_cons_self)
    rw [Valid, repair, runes_cons_ascii b s (ascii b List.mem_cons_self), List.flatMap_cons, encodeRune, if_pos low,
      UInt8.ofNat_toNat]
    exact congrArg (b :: ·) (ih fun c member => ascii c (List.mem_cons_of_mem _ member))

end Rtc2Tcp.Go

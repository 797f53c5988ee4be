import Rtc2Tcp.Lib.Delimited

namespace Octets

abbrev Bytes := List UInt8

-- named once, so that membership in a list of byte strings is decided by the same term in every module
instance : LawfulBEq Bytes := inferInstance

theorem forall_octet {p : UInt8 → Prop} (all : ∀ n : Fin 256, p (UInt8.ofNat n)) (c : UInt8) : p c := by
  simpa using all ⟨c.toNat, c.toNat_lt⟩

theorem forall_mem_octets {p : UInt8 → Prop} [DecidablePred p] {s : Bytes} (all : s.all (fun c => decide (p c)) = true)
    (c : UInt8) (member : c ∈ s) : p c :=
  of_decide_eq_true (List.all_eq_true.mp all c member)

theorem ofNat_toNat_eq (a : UInt8) (n : Nat) (same : n % 256 = a.toNat) : UInt8.ofNat n = a := by
  apply UInt8.toNat_inj.mp
  rw [UInt8.toNat_ofNat']
  exact same

abbrev Block (n : Nat) := { bytes : Bytes // bytes.length = n }

def Block.zero (n : Nat) : Block n := ⟨List.replicate n 0, List.length_replicate⟩

/-- Copy `source` over the front of a buffer; what does not fit is dropped. -/
def overwrite (buffer source : Bytes) : Bytes :=
  source.take buffer.length ++ buffer.drop source.length

@[simp] theorem overwrite_length (buffer source : Bytes) :
    (overwrite buffer source).length = buffer.length := by
  simp only [overwrite, List.length_append, List.length_take, List.length_drop]
  omega

theorem overwrite_full (buffer source : Bytes) (same : source.length = buffer.length) :
    overwrite buffer source = source := by
  rw [overwrite, ← same, List.take_length, same, List.drop_length, List.append_nil]

def Block.copy {n : Nat} (buffer : Block n) (source : Bytes) : Block n :=
  ⟨overwrite buffer.val source, by rw [overwrite_length, buffer.property]⟩

theorem Block.copy_full {n : Nat} (buffer : Block n) (source : Bytes) (same : source.length = n) :
    (buffer.copy source).val = source :=
  overwrite_full _ _ (same.trans buffer.property.symm)

theorem Block.copy_covers {n : Nat} (buffer other : Block n) (source : Bytes) (covers : n ≤ source.length) :
    buffer.copy source = other.copy source := by
  apply Subtype.ext
  have empty : ∀ block : Block n, block.val.drop source.length = [] := fun block =>
    List.drop_eq_nil_of_le (by rw [block.property]; exact covers)
  simp only [Block.copy, overwrite, empty, buffer.property, other.property]

/-- Four big-endian octets; `UInt8.ofNat` wraps, so the number is taken modulo `2 ^ 32`. -/
def bigEndian32 (n : Nat) : Bytes :=
  [UInt8.ofNat (n / 0x1000000), UInt8.ofNat (n / 0x10000), UInt8.ofNat (n / 0x100), UInt8.ofNat n]

theorem bigEndian32_injective_mod (m n : Nat) (same : bigEndian32 m = bigEndian32 n) :
    m % 0x100000000 = n % 0x100000000 := by
  simp only [bigEndian32, List.cons.injEq, and_true] at same
  obtain ⟨first, second, third, fourth⟩ := same
  have b1 := congrArg UInt8.toNat first
  have b2 := congrArg UInt8.toNat second
  have b3 := congrArg UInt8.toNat third
  have b4 := congrArg UInt8.toNat fourth
  simp only [UInt8.toNat_ofNat'] at b1 b2 b3 b4
  omega

def framed (bytes : Bytes) : Bytes := bigEndian32 bytes.length ++ bytes

theorem framed_length_mod (a b x y : Bytes) (same : framed a ++ x = framed b ++ y) :
    a.length % 0x100000000 = b.length % 0x100000000 := by
  simp only [framed, List.append_assoc] at same
  exact bigEndian32_injective_mod _ _ (List.append_inj same rfl).1

theorem framed_append_of_length (a b x y : Bytes) (length : a.length = b.length)
    (same : framed a ++ x = framed b ++ y) : a = b ∧ x = y := by
  simp only [framed, List.append_assoc] at same
  exact List.append_inj (List.append_inj same rfl).2 length

theorem framed_append_injective (a b x y : Bytes) (shortA : a.length < 0x100000000)
    (shortB : b.length < 0x100000000) (same : framed a ++ x = framed b ++ y) : a = b ∧ x = y := by
  have mod := framed_length_mod a b x y same
  rw [Nat.mod_eq_of_lt shortA, Nat.mod_eq_of_lt shortB] at mod
  exact framed_append_of_length a b x y mod same

theorem framed_ne_nil (bytes : Bytes) : framed bytes ≠ [] := nofun

def frames (fields : List Bytes) : Bytes := fields.flatMap framed

theorem frames_cons (field : Bytes) (fields : List Bytes) : frames (field :: fields) = framed field ++ frames fields :=
  rfl

theorem framed_delimits : Delimited.Delimits framed (fun field => field.length < 0x100000000) Delimited.anything where
  unique a b x y shortA shortB _ _ same := framed_append_injective a b x y shortA shortB same
  next _ _ _ _ := trivial

theorem frames_injective (xs ys : List Bytes) (shortX : ∀ x ∈ xs, x.length < 0x100000000)
    (shortY : ∀ y ∈ ys, y.length < 0x100000000) (same : frames xs = frames ys) : xs = ys :=
  framed_delimits.flatMap_injective (fun field _ => framed_ne_nil field) xs ys shortX shortY same

end Octets

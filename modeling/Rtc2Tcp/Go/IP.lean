import Mathlib.Algebra.Group.Nat.Defs
import Rtc2Tcp.Go.Net
import Rtc2Tcp.Go.URL

namespace Rtc2Tcp.Go

open Octets

def to4 (ip : Bytes) : Option Bytes :=
  if ip.length = 4 then some ip
  else if ip.length = 16 ∧ ip.take 12 = v4InV6Prefix then some (ip.drop 12)
  else none

def ipString (ip : Bytes) : Bytes :=
  if four : ip.length = 4 then ipv4String ⟨ip, four⟩
  else if sixteen : ip.length = 16 then ipv6String ⟨ip, sixteen⟩
  else if ip = [] then text "<nil>"
  else text "?" ++ ip.flatMap fun b => digits 16 (b.toNat / 16) ++ digits 16 (b.toNat % 16)

structure IPNet where
  ip : Bytes
  mask : Bytes
deriving DecidableEq, Repr

def networkNumberAndMask (n : IPNet) : Option (Bytes × Bytes) :=
  match to4 n.ip with
  | some ip =>
    if n.mask.length = 4 then some (ip, n.mask)
    else if n.mask.length = 16 then some (ip, n.mask.drop 12)
    else none
  | none => if n.ip.length = 16 ∧ n.mask.length = 16 then some (n.ip, n.mask) else none

def IPNet.contains (n : IPNet) (ip : Bytes) : Bool :=
  let ip := (to4 ip).getD ip
  match networkNumberAndMask n with
  | none => ip = []
  | some (number, mask) =>
    if ip.length ≠ number.length then false
    else (number.zipWith (· &&& ·) mask) = (ip.zipWith (· &&& ·) mask)

def cidrMask (ones bits : Nat) : Bytes :=
  (List.range (bits / 8)).map fun i => UInt8.ofNat (256 - 2 ^ (8 - min 8 (ones - 8 * i)))

/-- `net.IP.Mask` on sixteen bytes, with a mask of four or sixteen. -/
def maskIP (ip mask : Bytes) : Option Bytes :=
  if mask.length = 4 ∧ ip.take 12 = v4InV6Prefix then some ((ip.drop 12).zipWith (· &&& ·) mask)
  else if ip.length = mask.length then some (ip.zipWith (· &&& ·) mask)
  else none

def dtoiFrom (n : Nat) : Bytes → Option (Nat × Bytes)
  | [] => some (n, [])
  | c :: s =>
    if isDigit c then if 0xffffff ≤ n * 10 + (c - 0x30).toNat then none else dtoiFrom (n * 10 + (c - 0x30).toNat) s
    else some (n, c :: s)

def parseCIDR (s : Bytes) : Option IPNet := do
  if 0x2f ∉ s then none
  let (address, bits) := cut s 0x2f
  let addr ← parseAddr address
  if addr.zone ≠ [] then none
  let (n, rest) ← dtoiFrom 0 bits
  if bits = [] ∨ rest ≠ [] ∨ 8 * addr.ip.length < n then none
  let mask := cidrMask n (8 * addr.ip.length)
  let ip := if addr.ip.length = 4 then v4InV6Prefix ++ addr.ip else addr.ip
  let masked ← maskIP ip mask
  return ⟨masked, mask⟩

def digitByte (d : Nat) : UInt8 := UInt8.ofNat (Nat.digitChar d).toNat

theorem digits_eq_if (base n : Nat) (two : 1 < base) :
    digits base n = if n < base then [digitByte n] else digits base (n / base) ++ [digitByte (n % base)] := by
  rw [digits, Nat.toDigits_eq_if two]
  split
  · rfl
  · rw [List.map_append]
    rfl

theorem hex_digit : ∀ d < 16, isHex (digitByte d) = true ∧ (unhex (digitByte d)).toNat = d ∧ digitByte d ≠ 0x2e ∧
    digitByte d ≠ 0x3a ∧ digitByte d ≠ 0x25 := by
  decide

theorem hex_digits (n : Nat) (c : UInt8) (member : c ∈ digits 16 n) :
    isHex c = true ∧ c ≠ 0x2e ∧ c ≠ 0x3a ∧ c ≠ 0x25 := by
  obtain ⟨d, small, rfl⟩ := mem_digits 16 n (by omega) c member
  have digit := hex_digit d small
  exact ⟨digit.1, digit.2.2⟩

theorem hex_value (n : Nat) : (digits 16 n).foldl (fun acc c => acc * 16 + (unhex c).toNat) 0 = n := by
  induction n using Nat.strongRecOn with
  | ind n ih =>
    rw [digits_eq_if 16 n (by omega)]
    split
    · rename_i small
      simp [(hex_digit n small).2.1]
    · rename_i large
      rw [List.foldl_append, ih (n / 16) (by omega), List.foldl_cons, List.foldl_nil,
        (hex_digit (n % 16) (Nat.mod_lt _ (by omega))).2.1]
      omega

theorem hex_length (n : Nat) (small : n < 65536) : (digits 16 n).length ≤ 4 := by
  rw [digits, List.length_map]
  exact (Nat.length_toDigits_le_iff (by omega) (by omega)).mpr small

def chunk (f : Nat) : Bytes := [UInt8.ofNat (f / 256), UInt8.ofNat f]

def colonFields (fs : List Nat) : Bytes := fs.flatMap fun f => 0x3a :: digits 16 f

theorem hex_front (f : Nat) (rest : Bytes) (ends : ∀ c ∈ rest.head?, c = 0x3a) :
    (digits 16 f ++ rest).takeWhile isHex = digits 16 f ∧ (digits 16 f ++ rest).dropWhile isHex = rest := by
  have hex : ∀ c ∈ digits 16 f, isHex c = true := fun c member => (hex_digits f c member).1
  have stop : rest.takeWhile isHex = [] ∧ rest.dropWhile isHex = rest := by
    cases rest with
    | nil => exact ⟨rfl, rfl⟩
    | cons c rest =>
      obtain rfl := ends c rfl
      exact ⟨rfl, rfl⟩
  rw [List.takeWhile_append_of_pos hex, List.dropWhile_append_of_pos hex, stop.1, stop.2, List.append_nil]
  exact ⟨rfl, rfl⟩

theorem hex_sized (f : Nat) (small : f < 65536) : ¬(digits 16 f = [] ∨ 4 < (digits 16 f).length) := by
  have short := hex_length f small
  rintro (none | long)
  · exact digits_ne_nil 16 f none
  · omega

section Turn

variable (turns f : Nat) (ip : Bytes) (ellipsis : Option Nat) (small : f < 65536)

include small

theorem ipv6Fields_last : ipv6Fields (turns + 1) ip ellipsis (digits 16 f) = some (ip ++ chunk f, ellipsis) := by
  obtain ⟨front, back⟩ := hex_front f [] (by simp)
  rw [List.append_nil] at front back
  rw [ipv6Fields]
  simp only [front, back, if_neg (hex_sized f small), hex_value]
  rfl

theorem ipv6Fields_colon (c : UInt8) (s : Bytes) (digit : c ≠ 0x3a) :
    ipv6Fields (turns + 1) ip ellipsis (digits 16 f ++ 0x3a :: c :: s) =
      ipv6Fields turns (ip ++ chunk f) ellipsis (c :: s) := by
  obtain ⟨front, back⟩ := hex_front f (0x3a :: c :: s) (by simp)
  have colon : ¬(0x3a :: c :: s).head? = some (0x2e : UInt8) := by simp
  rw [ipv6Fields]
  simp only [front, back, if_neg (hex_sized f small), if_neg colon, hex_value, if_pos digit]
  rfl

theorem ipv6Fields_double (s : Bytes) :
    ipv6Fields (turns + 1) ip none (digits 16 f ++ 0x3a :: 0x3a :: s) =
      if s = [] then some (ip ++ chunk f, some (ip ++ chunk f).length)
      else ipv6Fields turns (ip ++ chunk f) (some (ip ++ chunk f).length) s := by
  obtain ⟨front, back⟩ := hex_front f (0x3a :: 0x3a :: s) (by simp)
  have colon : ¬(0x3a :: 0x3a :: s).head? = some (0x2e : UInt8) := by simp
  rw [ipv6Fields]
  simp only [front, back, if_neg (hex_sized f small), if_neg colon, hex_value]
  rfl

end Turn

theorem hex_head (f : Nat) : ∃ c s, digits 16 f = c :: s ∧ c ≠ 0x3a := by
  obtain ⟨c, s, split⟩ := List.exists_cons_of_ne_nil (digits_ne_nil 16 f)
  exact ⟨c, s, split, (hex_digits f c (by rw [split]; simp)).2.2.1⟩

theorem ipv6Fields_fields (fs : List Nat) (turns f : Nat) (ip : Bytes) (ellipsis : Option Nat)
    (small : ∀ g ∈ f :: fs, g < 65536) (enough : fs.length < turns) :
    ipv6Fields turns ip ellipsis (digits 16 f ++ colonFields fs) = some (ip ++ (f :: fs).flatMap chunk, ellipsis) := by
  induction fs generalizing turns f ip with
  | nil =>
    obtain ⟨turns, rfl⟩ : ∃ n, turns = n + 1 := ⟨turns - 1, by simp at enough; omega⟩
    have last := ipv6Fields_last turns f ip ellipsis (small f List.mem_cons_self)
    simpa [colonFields] using last
  | cons g fs ih =>
    obtain ⟨turns, rfl⟩ : ∃ n, turns = n + 1 := ⟨turns - 1, by simp at enough; omega⟩
    obtain ⟨c, s, split, digit⟩ := hex_head g
    have next := ih turns g (ip ++ chunk f) (fun h member => small h (List.mem_cons_of_mem _ member))
      (by simpa using enough)
    have turn := ipv6Fields_colon turns f ip ellipsis (small f List.mem_cons_self) c (s ++ colonFields fs) digit
    rw [split, List.cons_append] at next
    have same : colonFields (g :: fs) = 0x3a :: c :: (s ++ colonFields fs) := by simp [colonFields, split]
    have chunks : (f :: g :: fs).flatMap chunk = chunk f ++ (g :: fs).flatMap chunk := rfl
    rw [same, turn, next, chunks, List.append_assoc]

theorem ipv6Fields_ellipsis (fs : List Nat) (turns f : Nat) (ip s : Bytes) (small : ∀ g ∈ f :: fs, g < 65536)
    (enough : fs.length < turns) :
    ipv6Fields turns ip none (digits 16 f ++ colonFields fs ++ text "::" ++ s) =
      if s = [] then some (ip ++ (f :: fs).flatMap chunk, some (ip ++ (f :: fs).flatMap chunk).length)
      else ipv6Fields (turns - (fs.length + 1)) (ip ++ (f :: fs).flatMap chunk)
        (some (ip ++ (f :: fs).flatMap chunk).length) s := by
  have colons : text "::" ++ s = 0x3a :: 0x3a :: s := rfl
  rw [List.append_assoc, List.append_assoc, colons]
  induction fs generalizing turns f ip with
  | nil =>
    obtain ⟨turns, rfl⟩ : ∃ n, turns = n + 1 := ⟨turns - 1, by simp at enough; omega⟩
    have last := ipv6Fields_double turns f ip (small f List.mem_cons_self) s
    simpa [colonFields] using last
  | cons g fs ih =>
    obtain ⟨turns, rfl⟩ : ∃ n, turns = n + 1 := ⟨turns - 1, by simp at enough; omega⟩
    obtain ⟨c, t, split, digit⟩ := hex_head g
    have next := ih turns g (ip ++ chunk f) (fun h member => small h (List.mem_cons_of_mem _ member))
      (by simpa using enough)
    have turn := ipv6Fields_colon turns f ip none (small f List.mem_cons_self) c
      (t ++ (colonFields fs ++ 0x3a :: 0x3a :: s)) digit
    rw [split, List.cons_append] at next
    have same : colonFields (g :: fs) ++ 0x3a :: 0x3a :: s =
        0x3a :: c :: (t ++ (colonFields fs ++ 0x3a :: 0x3a :: s)) := by
      simp [colonFields, split]
    have chunks : (f :: g :: fs).flatMap chunk = chunk f ++ (g :: fs).flatMap chunk := rfl
    rw [same, turn, next, chunks, List.append_assoc, List.length_cons, Nat.add_sub_add_right]

section Format

variable (ip : Block 16)

theorem field_small (i : Nat) : field ip i < 65536 := by
  have high := (ip.val.getD (2 * i) 0).toNat_lt
  have low := (ip.val.getD (2 * i + 1) 0).toNat_lt
  unfold field
  omega

def fieldsOf (i n : Nat) : List Nat := (List.range' i n).map (field ip)

theorem fieldsOf_succ (i n : Nat) : fieldsOf ip i (n + 1) = field ip i :: fieldsOf ip (i + 1) n := by
  simp [fieldsOf, List.range'_succ]

theorem appendFields_after (zeros : Nat × Nat) (turns i : Nat) (positive : 0 < i) (past : ∀ j, i ≤ j → j < 8 → j ≠ zeros.1)
    (enough : 8 ≤ turns + i) : appendFields ip zeros turns i = colonFields (fieldsOf ip i (8 - i)) := by
  induction turns generalizing i with
  | zero =>
    have none : 8 - i = 0 := by omega
    rw [none]
    rfl
  | succ turns ih =>
    by_cases done : 8 ≤ i
    · have none : 8 - i = 0 := by omega
      rw [none, appendFields, if_pos done]
      rfl
    · have rest : 8 - i = (8 - (i + 1)) + 1 := by omega
      rw [appendFields, if_neg done, if_neg (past i le_rfl (by omega)), if_pos positive,
        ih (i + 1) (by omega) (fun j above => past j (by omega)) (by omega), rest, fieldsOf_succ]
      rfl

def afterZeros (e : Nat) : Bytes :=
  if 8 ≤ e then [] else digits 16 (field ip e) ++ colonFields (fieldsOf ip (e + 1) (8 - (e + 1)))

theorem appendFields_zeros (s e turns : Nat) (run : s < e) (long : e ≤ 8) (enough : 8 ≤ turns + s) :
    appendFields ip (s, e) turns s = text "::" ++ afterZeros ip e := by
  obtain ⟨turns, rfl⟩ : ∃ n, turns = n + 1 := ⟨turns - 1, by omega⟩
  rw [appendFields, if_neg (by omega), if_pos rfl, afterZeros]
  split
  · rfl
  · rw [appendFields_after ip (s, e) turns (e + 1) (by omega) (by simp only; omega) (by omega)]

theorem appendFields_before (s e turns i : Nat) (run : s < e) (long : e ≤ 8) (positive : 0 < i) (before : i ≤ s)
    (enough : 8 ≤ turns + i) :
    appendFields ip (s, e) turns i = colonFields (fieldsOf ip i (s - i)) ++ text "::" ++ afterZeros ip e := by
  induction turns generalizing i with
  | zero => omega
  | succ turns ih =>
    by_cases here : i = s
    · subst here
      rw [appendFields_zeros ip i e (turns + 1) run long enough, Nat.sub_self]
      rfl
    · have rest : s - i = (s - (i + 1)) + 1 := by omega
      rw [appendFields, if_neg (by omega), if_neg here, if_pos positive,
        ih (i + 1) (by omega) (by omega) (by omega), rest, fieldsOf_succ]
      simp [colonFields, text]
      rfl

theorem zerosEnd_zeros (i : Nat) (inside : i < 8) :
    zerosEnd ip i ≤ 8 ∧ ∀ j, i ≤ j → j < zerosEnd ip i → field ip j = 0 := by
  have front := List.takeWhile_prefix (fun f : Nat => decide (f = 0)) (l := ((List.range 8).drop i).map (field ip))
  have length : (((List.range 8).drop i).map (field ip)).length = 8 - i := by simp
  unfold zerosEnd
  refine ⟨by have := front.length_le; omega, fun j above below => ?_⟩
  have inRun : j - i < ((((List.range 8).drop i).map (field ip)).takeWhile fun f => decide (f = 0)).length := by omega
  have zero := List.mem_takeWhile_imp (List.getElem_mem inRun)
  have same := front.getElem inRun
  rw [same] at zero
  simpa [Nat.add_sub_cancel' above] using zero

theorem longestZeros_zeros : longestZeros ip = (255, 255) ∨ ∃ s e, longestZeros ip = (s, e) ∧ s < e ∧ e ≤ 8 ∧
    ∀ j, s ≤ j → j < e → field ip j = 0 := by
  unfold longestZeros
  apply List.foldlRecOn (motive := fun run : Nat × Nat => run = (255, 255) ∨ ∃ s e, run = (s, e) ∧ s < e ∧ e ≤ 8 ∧
    ∀ j, s ≤ j → j < e → field ip j = 0) (List.range 8) _ (.inl rfl)
  intro run found i member
  split
  · rename_i longer
    have zeros := zerosEnd_zeros ip i (List.mem_range.mp member)
    exact .inr ⟨i, zerosEnd ip i, rfl, by omega, zeros⟩
  · exact found

theorem chunk_field (i : Nat) :
    chunk (field ip i) = [ip.val.getD (2 * i) 0, ip.val.getD (2 * i + 1) 0] := by
  have high := (ip.val.getD (2 * i) 0).toNat_lt
  have low := (ip.val.getD (2 * i + 1) 0).toNat_lt
  unfold chunk field
  rw [ofNat_toNat_eq (ip.val.getD (2 * i) 0) _ (by omega), ofNat_toNat_eq (ip.val.getD (2 * i + 1) 0) _ (by omega)]

theorem chunks_fields (i n : Nat) (inside : i + n ≤ 8) :
    (fieldsOf ip i n).flatMap chunk = (ip.val.drop (2 * i)).take (2 * n) := by
  have length := ip.2
  induction n generalizing i with
  | zero => simp [fieldsOf]
  | succ n ih =>
    have first : 2 * i < ip.val.length := by omega
    have second : 2 * i + 1 < ip.val.length := by omega
    have two : ip.val.drop (2 * i) = ip.val.getD (2 * i) 0 :: ip.val.getD (2 * i + 1) 0 :: ip.val.drop (2 * i + 2) := by
      rw [List.drop_eq_getElem_cons first, List.drop_eq_getElem_cons second]
      simp only [List.getD_eq_getElem?_getD, List.getElem?_eq_getElem first, List.getElem?_eq_getElem second,
        Option.getD_some]
    rw [fieldsOf_succ, List.flatMap_cons, ih (i + 1) (by omega), chunk_field ip i, two]
    rfl

theorem afterZeros_fields (turns e : Nat) (ip' : Bytes) (inside : e < 8) (enough : 8 ≤ turns + e) (ellipsis : Option Nat) :
    ipv6Fields turns ip' ellipsis (afterZeros ip e) = some (ip' ++ ip.val.drop (2 * e), ellipsis) := by
  have length := ip.2
  have chunks := chunks_fields ip e (8 - e) (by omega)
  have rest : 8 - e = (8 - (e + 1)) + 1 := by omega
  rw [rest, fieldsOf_succ, List.take_of_length_le (by rw [List.length_drop]; omega)] at chunks
  rw [afterZeros, if_neg (by omega), ipv6Fields_fields, chunks]
  · intro f member
    rcases List.mem_cons.mp member with rfl | member
    · exact field_small ip e
    · obtain ⟨j, _, rfl⟩ := List.mem_map.mp member
      exact field_small ip j
  · simp only [fieldsOf, List.length_map, List.length_range']
    omega

theorem appendFields_bytes (zeros : Nat × Nat) (turns i : Nat) (c : UInt8)
    (member : c ∈ appendFields ip zeros turns i) : isHex c = true ∨ c = 0x3a := by
  have hex : ∀ n, c ∈ digits 16 n → isHex c = true ∨ c = 0x3a := fun n inside => .inl (hex_digits n c inside).1
  have double : ∀ c ∈ text "::", isHex c = true ∨ c = 0x3a := forall_mem_octets (by decide +kernel)
  have single : ∀ c ∈ text ":", isHex c = true ∨ c = 0x3a := forall_mem_octets (by decide +kernel)
  induction turns generalizing i with
  | zero => cases member
  | succ turns ih =>
    rw [appendFields] at member
    split at member
    · cases member
    · split at member
      · rcases List.mem_append.mp member with colon | member
        · exact double c colon
        · split at member
          · cases member
          · rcases List.mem_append.mp member with digit | rest
            · exact hex _ digit
            · exact ih _ rest
      · rcases List.mem_append.mp member with member | rest
        · rcases List.mem_append.mp member with colon | digit
          · split at colon
            · exact single c colon
            · cases colon
          · exact hex _ digit
        · exact ih _ rest

theorem zeros_split (s e : Nat) (run : s < e) (long : e ≤ 8) (zeros : ∀ j, s ≤ j → j < e → field ip j = 0) :
    ip.val.take (2 * s) ++ List.replicate (2 * (e - s)) 0 ++ ip.val.drop (2 * e) = ip.val := by
  have middle : (fieldsOf ip s (e - s)).flatMap chunk = List.replicate (2 * (e - s)) 0 := by
    have all : fieldsOf ip s (e - s) = List.replicate (e - s) 0 := by
      refine List.eq_replicate_iff.mpr ⟨by simp [fieldsOf], fun f member => ?_⟩
      obtain ⟨j, inside, rfl⟩ := List.mem_map.mp member
      rw [List.mem_range'_1] at inside
      exact zeros j inside.1 (by omega)
    rw [all]
    generalize e - s = n
    induction n with
    | zero => rfl
    | succ n ih =>
      rw [List.replicate_succ, List.flatMap_cons, ih]
      rfl
  rw [← middle, chunks_fields ip s (e - s) (by omega)]
  have after : ip.val.drop (2 * e) = (ip.val.drop (2 * s)).drop (2 * (e - s)) := by
    rw [List.drop_drop]
    congr 1
    omega
  rw [after, List.append_assoc, List.take_append_drop, List.take_append_drop]

theorem expandEllipsis_zeros (s e : Nat) (run : s < e) (long : e ≤ 8) (zeros : ∀ j, s ≤ j → j < e → field ip j = 0) :
    expandEllipsis (ip.val.take (2 * s) ++ ip.val.drop (2 * e)) (some (2 * s)) = some ip.val := by
  have length := ip.2
  have before : (ip.val.take (2 * s)).length = 2 * s := by
    rw [List.length_take]
    omega
  have short : (ip.val.take (2 * s) ++ ip.val.drop (2 * e)).length = 16 - 2 * (e - s) := by
    rw [List.length_append, before, List.length_drop]
    omega
  have gap : 16 - (16 - 2 * (e - s)) = 2 * (e - s) := by omega
  rw [expandEllipsis, short, if_pos (by omega), gap, List.take_left' before, List.drop_left' before,
    zeros_split ip s e run long zeros]

theorem parseIPv6_colons (s : Bytes) (zone : 0x25 ∉ s) :
    parseIPv6 s =
      if s = text "::" then some ⟨List.replicate 16 0, []⟩
      else (if text "::" <+: s then ipv6Fields 8 [] (some 0) (s.drop 2) else ipv6Fields 8 [] none s) >>= fun parsed =>
        expandEllipsis parsed.1 parsed.2 >>= fun ip => some ⟨ip, []⟩ := by
  have plain : ∀ c ∈ s, decide (c ≠ 0x25) = true := by
    intro c member
    simp only [ne_eq, decide_eq_true_eq]
    rintro rfl
    exact zone member
  have whole : s.takeWhile (fun c => decide (c ≠ 0x25)) = s := List.takeWhile_eq_self_iff.mpr plain
  have nothing : s.dropWhile (fun c => decide (c ≠ 0x25)) = [] := List.dropWhile_eq_nil_iff.mpr plain
  unfold parseIPv6
  simp only [whole, nothing, List.drop_nil, zone, false_and, if_false]
  split
  · rfl
  · split <;> rfl

theorem parseAddr_colons (s : Bytes) (colon : 0x3a ∈ s) (plain : ∀ c ∈ s, c ≠ 0x25 ∧ c ≠ 0x2e) :
    parseAddr s = parseIPv6 s := by
  have first : s.find? (fun c => c = 0x2e || c = 0x3a || c = 0x25) = some 0x3a := by
    obtain ⟨before, after, rfl, absent⟩ := List.eq_append_cons_of_mem colon
    rw [List.find?_append, List.find?_eq_none.mpr, Option.none_or, List.find?_cons_of_pos (by decide)]
    intro c member
    have := plain c (List.mem_append_left _ member)
    have : c ≠ 0x3a := fun same => absent (same ▸ member)
    simp_all
  rw [parseAddr, first]
  rfl

theorem fields_unprefixed (f : Nat) (s : Bytes) : ¬text "::" <+: digits 16 f ++ s ∧ digits 16 f ++ s ≠ text "::" := by
  obtain ⟨c, t, split, digit⟩ := hex_head f
  have leading : ¬text "::" <+: digits 16 f ++ s := by
    rw [split]
    rintro ⟨u, same⟩
    exact digit (List.cons.inj same).1.symm
  exact ⟨leading, fun same => leading (same ▸ List.prefix_rfl)⟩

theorem fieldsOf_small (i n : Nat) (f : Nat) (member : f ∈ fieldsOf ip i n) : f < 65536 := by
  obtain ⟨j, _, rfl⟩ := List.mem_map.mp member
  exact field_small ip j

theorem all_fields : (fieldsOf ip 0 8).flatMap chunk = ip.val := by
  rw [chunks_fields ip 0 8 le_rfl, Nat.mul_zero, List.drop_zero, List.take_of_length_le (by rw [ip.2])]

theorem parseIPv6_full (plain : 0x25 ∉ digits 16 (field ip 0) ++ colonFields (fieldsOf ip 1 7)) :
    parseIPv6 (digits 16 (field ip 0) ++ colonFields (fieldsOf ip 1 7)) = some ⟨ip.val, []⟩ := by
  have parsed := ipv6Fields_fields (fieldsOf ip 1 7) 8 (field ip 0) [] none
    (by rw [← fieldsOf_succ]; exact fieldsOf_small ip 0 8) (by simp [fieldsOf])
  rw [← fieldsOf_succ, all_fields, List.nil_append] at parsed
  have unprefixed := fields_unprefixed (field ip 0) (colonFields (fieldsOf ip 1 7))
  rw [parseIPv6_colons _ plain, if_neg unprefixed.2, if_neg unprefixed.1, parsed]
  have full : ¬ip.val.length < 16 := by rw [ip.2]; omega
  change (if ip.val.length < 16 then none else some ip.val) >>= _ = _
  rw [if_neg full]
  rfl

theorem parseIPv6_leading (e : Nat) (positive : 0 < e) (long : e ≤ 8) (zeros : ∀ j, 0 ≤ j → j < e → field ip j = 0)
    (plain : 0x25 ∉ text "::" ++ afterZeros ip e) :
    parseIPv6 (text "::" ++ afterZeros ip e) = some ⟨ip.val, []⟩ := by
  have expanded := expandEllipsis_zeros ip 0 e positive long zeros
  rw [parseIPv6_colons _ plain]
  by_cases last : e = 8
  · subst last
    have whole := zeros_split ip 0 8 positive long zeros
    rw [List.drop_of_length_le (by rw [ip.2]), Nat.mul_zero, List.take_zero, List.nil_append, List.append_nil] at whole
    rw [← whole]
    rfl
  · have rest := afterZeros_fields ip 8 e [] (by omega) (by omega) (some 0)
    have more : afterZeros ip e ≠ [] := by
      rw [afterZeros, if_neg (by omega)]
      simp [digits_ne_nil]
    have dropped : (text "::" ++ afterZeros ip e).drop 2 = afterZeros ip e := rfl
    rw [if_neg (by simpa [text] using more), if_pos (List.prefix_append _ _), dropped, rest]
    simpa using congrArg (· >>= fun ip => some (⟨ip, []⟩ : Addr)) expanded

theorem parseIPv6_inside (s e : Nat) (positive : 0 < s) (run : s < e) (long : e ≤ 8)
    (zeros : ∀ j, s ≤ j → j < e → field ip j = 0)
    (plain : 0x25 ∉ digits 16 (field ip 0) ++ colonFields (fieldsOf ip 1 (s - 1)) ++ text "::" ++ afterZeros ip e) :
    parseIPv6 (digits 16 (field ip 0) ++ colonFields (fieldsOf ip 1 (s - 1)) ++ text "::" ++ afterZeros ip e) =
      some ⟨ip.val, []⟩ := by
  have expanded := expandEllipsis_zeros ip s e run long zeros
  have count : s = (s - 1) + 1 := by omega
  have front : (field ip 0 :: fieldsOf ip 1 (s - 1)).flatMap chunk = ip.val.take (2 * s) := by
    rw [← fieldsOf_succ, ← count, chunks_fields ip 0 s (by omega), Nat.mul_zero, List.drop_zero]
  have before : (ip.val.take (2 * s)).length = 2 * s := by
    rw [List.length_take, ip.2]
    omega
  have parsed := ipv6Fields_ellipsis (fieldsOf ip 1 (s - 1)) 8 (field ip 0) [] (afterZeros ip e)
    (by rw [← fieldsOf_succ]; exact fieldsOf_small ip 0 _) (by simp [fieldsOf]; omega)
  rw [List.nil_append, front, before] at parsed
  have unprefixed := fields_unprefixed (field ip 0) (colonFields (fieldsOf ip 1 (s - 1)) ++ (text "::" ++ afterZeros ip e))
  rw [← List.append_assoc, ← List.append_assoc] at unprefixed
  rw [parseIPv6_colons _ plain, if_neg unprefixed.2, if_neg unprefixed.1, parsed]
  by_cases last : e = 8
  · have nothing : afterZeros ip e = [] := by rw [afterZeros, if_pos (by omega)]
    rw [List.drop_of_length_le (by rw [ip.2]; omega), List.append_nil] at expanded
    rw [if_pos nothing]
    simpa using congrArg (· >>= fun ip => some (⟨ip, []⟩ : Addr)) expanded
  · have more : afterZeros ip e ≠ [] := by
      rw [afterZeros, if_neg (by omega)]
      simp [digits_ne_nil]
    have length : (fieldsOf ip 1 (s - 1)).length + 1 = s := by
      simp only [fieldsOf, List.length_map, List.length_range']
      omega
    rw [if_neg more, length, afterZeros_fields ip (8 - s) e _ (by omega) (by omega)]
    simpa using congrArg (· >>= fun ip => some (⟨ip, []⟩ : Addr)) expanded

theorem appendFields_first (zeros : Nat × Nat) (turns : Nat) (other : zeros.1 ≠ 0) :
    appendFields ip zeros (turns + 1) 0 = digits 16 (field ip 0) ++ appendFields ip zeros turns 1 := by
  rw [appendFields, if_neg (by omega), if_neg (Ne.symm other), if_neg (by omega), List.nil_append]

theorem parseAddr_fields :
    parseAddr (appendFields ip (longestZeros ip) 8 0) = some ⟨ip.val, []⟩ := by
  have bytes : ∀ c ∈ appendFields ip (longestZeros ip) 8 0, c ≠ 0x25 ∧ c ≠ 0x2e := by
    have all : ∀ c : UInt8, isHex c = true ∨ c = 0x3a → c ≠ 0x25 ∧ c ≠ 0x2e := forall_octet (by decide +kernel)
    exact fun c member => all c (appendFields_bytes ip _ _ _ c member)
  have plain : 0x25 ∉ appendFields ip (longestZeros ip) 8 0 := fun member => (bytes _ member).1 rfl
  rcases longestZeros_zeros ip with none | ⟨s, e, found, run, long, zeros⟩
  · have written : appendFields ip (longestZeros ip) 8 0 = digits 16 (field ip 0) ++ colonFields (fieldsOf ip 1 7) := by
      rw [none, appendFields_first ip (255, 255) 7 (by decide),
        appendFields_after ip (255, 255) 7 1 (by omega) (by simp only; omega) (by omega)]
    rw [written] at bytes plain ⊢
    rw [parseAddr_colons _ _ bytes, parseIPv6_full ip plain]
    simp [fieldsOf_succ, colonFields]
  · rw [found] at bytes plain ⊢
    have colon : ∀ t u : Bytes, 0x3a ∈ t ++ text "::" ++ u := fun t u =>
      List.mem_append_left _ (List.mem_append_right _ (by decide))
    by_cases first : s = 0
    · subst first
      rw [appendFields_zeros ip 0 e 8 run long (by omega)] at bytes plain ⊢
      have inside : 0x3a ∈ text "::" ++ afterZeros ip e := colon [] _
      rw [parseAddr_colons _ inside bytes, parseIPv6_leading ip e run long zeros plain]
    · have written : appendFields ip (s, e) 8 0 =
          digits 16 (field ip 0) ++ colonFields (fieldsOf ip 1 (s - 1)) ++ text "::" ++ afterZeros ip e := by
        rw [appendFields_first ip (s, e) 7 first,
          appendFields_before ip s e 7 1 run long (by omega) (by omega) (by omega)]
        simp only [List.append_assoc]
      rw [written] at bytes plain ⊢
      rw [parseAddr_colons _ (colon _ _) bytes, parseIPv6_inside ip s e (by omega) run long zeros plain]

end Format

theorem decimal_digit : ∀ d < 10, isDigit (digitByte d) = true ∧ (digitByte d - 0x30).toNat = d := by decide

theorem ipv4Fields_octet (n : Nat) (octet : n < 256) : ∃ k, 0 < k ∧ ∀ fields rest,
    ipv4Fields fields 0 0 (decimal n ++ rest) = ipv4Fields fields n k rest := by
  induction n using Nat.strongRecOn with
  | ind n ih =>
    by_cases small : n < 10
    · refine ⟨1, by omega, fun fields rest => ?_⟩
      have digit := decimal_digit n small
      rw [decimal, digits_eq_if 10 n (by omega), if_pos small, List.singleton_append, ipv4Fields, if_pos digit.1,
        if_neg (by omega), if_neg (by omega), digit.2, Nat.zero_mul, Nat.zero_add]
    · obtain ⟨k, _, front⟩ := ih (n / 10) (by omega) (by omega)
      refine ⟨k + 1, by omega, fun fields rest => ?_⟩
      have digit := decimal_digit (n % 10) (by omega)
      have value : n / 10 * 10 + n % 10 = n := by omega
      rw [decimal, digits_eq_if 10 n (by omega), if_neg small, List.append_assoc, ← decimal, front,
        List.singleton_append, ipv4Fields, if_pos digit.1, if_neg (by omega), digit.2, value, if_neg (by omega)]

theorem ipv4Fields_dot (fields rest : Bytes) (n k : Nat) (some_ : 0 < k) (more : rest ≠ []) (room : fields.length ≠ 3) :
    ipv4Fields fields n k (0x2e :: rest) = ipv4Fields (fields ++ [UInt8.ofNat n]) 0 0 rest := by
  have digit : isDigit 0x2e = false := by decide
  rw [ipv4Fields, digit]
  simp [more, room, Nat.ne_of_gt some_]

theorem decimal_ne_nil (n : Nat) (rest : Bytes) : decimal n ++ rest ≠ [] := by
  simp [decimal, digits_ne_nil]

theorem ipv4Fields_dotted (a b c d : UInt8) : ipv4Fields [] 0 0 (dotted a b c d) = some [a, b, c, d] := by
  obtain ⟨_, first, readA⟩ := ipv4Fields_octet a.toNat a.toNat_lt
  obtain ⟨_, second, readB⟩ := ipv4Fields_octet b.toNat b.toNat_lt
  obtain ⟨_, third, readC⟩ := ipv4Fields_octet c.toNat c.toNat_lt
  obtain ⟨_, _, readD⟩ := ipv4Fields_octet d.toNat d.toNat_lt
  have dots : dotted a b c d = decimal a.toNat ++ 0x2e :: (decimal b.toNat ++ 0x2e :: (decimal c.toNat ++
      0x2e :: (decimal d.toNat ++ []))) := by
    simp [dotted, text]
    rfl
  rw [dots, readA, ipv4Fields_dot _ _ _ _ first (decimal_ne_nil _ _) (by simp),
    readB, ipv4Fields_dot _ _ _ _ second (decimal_ne_nil _ _) (by simp),
    readC, ipv4Fields_dot _ _ _ _ third (decimal_ne_nil _ _) (by simp), readD, ipv4Fields]
  simp

theorem parseAddr_dotted (a b c d : UInt8) : parseAddr (dotted a b c d) = some ⟨[a, b, c, d], []⟩ := by
  have first : (dotted a b c d).find? (fun x => x = 0x2e || x = 0x3a || x = 0x25) = some 0x2e := by
    rw [dotted, List.append_assoc, List.append_assoc, List.append_assoc, List.append_assoc, List.append_assoc,
      List.find?_append, List.find?_eq_none.mpr, Option.none_or]
    · rfl
    · intro x member
      obtain ⟨digit, small, rfl⟩ := mem_digits 10 _ (by omega) x member
      have all : ∀ n < 10, ¬((decide (digitByte n = 0x2e) || decide (digitByte n = 0x3a) ||
          decide (digitByte n = 0x25)) = true) := by decide
      exact all digit small
  rw [parseAddr, first]
  change (ipv4Fields [] 0 0 (dotted a b c d)).map _ = _
  rw [ipv4Fields_dotted]
  rfl

theorem parseIP_ipv6String (ip : Block 16) : parseIP (ipv6String ip) = some ip.val := by
  unfold ipv6String
  split
  · rename_i mapped
    have length := ip.2
    have last : ip.val.drop 12 = [ip.val.getD 12 0, ip.val.getD 13 0, ip.val.getD 14 0, ip.val.getD 15 0] := by
      apply List.ext_getElem (by rw [List.length_drop, length]; rfl)
      intro i short inside
      have cases : i = 0 ∨ i = 1 ∨ i = 2 ∨ i = 3 := by simp at inside; omega
      rcases cases with rfl | rfl | rfl | rfl <;> simp [length]
    have whole : v4InV6Prefix ++ ip.val.drop 12 = ip.val := by
      rw [v4InV6Prefix, ← mapped, List.take_append_drop]
    rw [parseIP, parseAddr_dotted, ← last]
    simp [length, whole]
  · rw [parseIP, parseAddr_fields]
    simp [ip.2]

theorem ipv6String_bytes (ip : Block 16) (c : UInt8) (member : c ∈ ipv6String ip) :
    isHex c = true ∨ c = 0x3a ∨ c = 0x2e := by
  unfold ipv6String at member
  split at member
  · have digit : ∀ n, c ∈ decimal n → isHex c = true ∨ c = 0x3a ∨ c = 0x2e := by
      intro n inside
      obtain ⟨d, small, rfl⟩ := mem_digits 10 n (by omega) c inside
      exact .inl (hex_digit d (by omega)).1
    have dot : ∀ c ∈ text ".", isHex c = true ∨ c = 0x3a ∨ c = 0x2e := forall_mem_octets (by decide +kernel)
    simp only [dotted, List.mem_append] at member
    rcases member with (((((first | sep) | second) | sep) | third) | sep) | fourth
    · exact digit _ first
    · exact dot c sep
    · exact digit _ second
    · exact dot c sep
    · exact digit _ third
    · exact dot c sep
    · exact digit _ fourth
  · rcases appendFields_bytes ip _ _ _ c member with hex | colon
    · exact .inl hex
    · exact .inr (.inl colon)

theorem ipv4Fields_length {fields s out : Bytes} {val digLen : Nat} (ok : ipv4Fields fields val digLen s = some out)
    (room : fields.length ≤ 3) : out.length = 4 := by
  induction s generalizing fields val digLen with
  | nil =>
    rw [ipv4Fields] at ok
    split at ok
    · cases ok
    · cases ok
      rw [List.length_append, List.length_singleton]
      omega
  | cons c s ih =>
    rw [ipv4Fields] at ok
    split at ok
    · split at ok
      · cases ok
      · split at ok
        · cases ok
        · exact ih ok room
    · split at ok
      · split at ok
        · cases ok
        · split at ok
          · cases ok
          · refine ih ok ?_
            rw [List.length_append, List.length_singleton]
            omega
      · cases ok

theorem ipv6Fields_length {turns : Nat} {ip s out : Bytes} {ellipsis found : Option Nat}
    (ok : ipv6Fields turns ip ellipsis s = some (out, found)) (room : ip.length + 2 * turns = 16) : out.length ≤ 16 := by
  induction turns generalizing ip s ellipsis with
  | zero =>
    rw [ipv6Fields] at ok
    split at ok
    · cases ok
      omega
    · cases ok
  | succ turns ih =>
    have grown : ∀ a b : UInt8, (ip ++ [a, b]).length + 2 * turns = 16 := by
      intro a b
      rw [List.length_append, List.length_cons, List.length_singleton]
      omega
    rw [ipv6Fields] at ok
    simp only at ok
    split at ok
    · cases ok
    · split at ok
      · split at ok
        · cases ok
        · rename_i place
          obtain ⟨fields, parsed, same⟩ := Option.map_eq_some_iff.mp ok
          cases same
          have four := ipv4Fields_length parsed (by simp)
          rw [List.length_append]
          omega
      · split at ok
        · cases ok
          have := grown 0 0
          simp only [List.length_append, List.length_cons, List.length_nil] at this ⊢
          omega
        · cases ok
        · split at ok
          · cases ok
          · split at ok
            · exact ih ok (grown _ _)
            · split at ok
              · cases ok
              · split at ok
                · cases ok
                  have := grown 0 0
                  simp only [List.length_append, List.length_cons, List.length_nil] at this ⊢
                  omega
                · exact ih ok (grown _ _)

theorem expandEllipsis_length {ip out : Bytes} {ellipsis : Option Nat} (ok : expandEllipsis ip ellipsis = some out)
    (bound : ip.length ≤ 16) : out.length = 16 := by
  unfold expandEllipsis at ok
  split at ok
  · split at ok
    · cases ok
    · cases ok
      omega
  · rename_i i
    split at ok
    · cases ok
      have whole := congrArg List.length (List.take_append_drop i ip)
      rw [List.length_append] at whole
      rw [List.length_append, List.length_append, List.length_replicate]
      omega
    · cases ok

theorem parseIPv6_length {s : Bytes} {addr : Addr} (ok : parseIPv6 s = some addr) : addr.ip.length = 16 := by
  unfold parseIPv6 at ok
  simp only at ok
  split at ok
  · cases ok
  · split at ok
    · cases ok
      rfl
    · split at ok
      all_goals
        obtain ⟨⟨ip, ellipsis⟩, parsed, ok⟩ := Option.bind_eq_some_iff.mp ok
        obtain ⟨out, expanded, ok⟩ := Option.bind_eq_some_iff.mp ok
        cases ok
        exact expandEllipsis_length expanded (ipv6Fields_length parsed rfl)

theorem parseIP_length {s ip : Bytes} (ok : parseIP s = some ip) : ip.length = 16 := by
  unfold parseIP at ok
  split at ok
  · cases ok
  · rename_i addr parsed
    split at ok
    · cases ok
    · have lengths : addr.ip.length = 4 ∨ addr.ip.length = 16 := by
        unfold parseAddr at parsed
        split at parsed
        · obtain ⟨fields, read, same⟩ := Option.map_eq_some_iff.mp parsed
          cases same
          exact .inl (ipv4Fields_length read (by simp))
        · exact .inr (parseIPv6_length parsed)
        · cases parsed
      split at ok
      · rename_i four
        cases ok
        rw [List.length_append, four]
        rfl
      · cases ok
        omega

theorem parseIP_ipString {s ip : Bytes} (ok : parseIP s = some ip) : parseIP (ipString ip) = some ip := by
  have length := parseIP_length ok
  rw [ipString, dif_neg (by omega), dif_pos length]
  exact parseIP_ipv6String ⟨ip, length⟩

example : (parseIP (text "::ffff:127.0.0.1")).map ipString = some (text "127.0.0.1") := by decide +kernel

theorem ipString_bytes {s ip : Bytes} (ok : parseIP s = some ip) (c : UInt8) (member : c ∈ ipString ip) :
    isHex c = true ∨ c = 0x3a ∨ c = 0x2e := by
  have length := parseIP_length ok
  rw [ipString, dif_neg (by omega), dif_pos length] at member
  exact ipv6String_bytes ⟨ip, length⟩ c member

end Rtc2Tcp.Go

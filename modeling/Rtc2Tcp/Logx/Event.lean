import Rtc2Tcp.Go.Quote

namespace Rtc2Tcp.Logx

open Octets Go

def special (r : Nat) : Bool := r == 0x20 || r == 0x22 || r == 0x5c || r == 0x3d || r < 0x20 || r == 0x7f

def needsQuote (s : Bytes) : Bool := s = [] || (runes s).any fun r => special r.code

section Line

variable (isPrint : Nat → Bool)

def writeValue (s : Bytes) : Bytes := if needsQuote s then quote isPrint s else s

/-- The loop of `Event`, and the odd element behind it. -/
def writeFields : List Bytes → Bytes
  | key :: value :: kv => 0x20 :: (key ++ 0x3d :: (writeValue isPrint value ++ writeFields kv))
  | [trailing] => text " _trailing=" ++ writeValue isPrint trailing
  | [] => []

def event (front name : Bytes) (kv : List Bytes) : Bytes :=
  front ++ (text ": event=" ++ (name ++ writeFields isPrint kv))

end Line

def keys : List Bytes → List Bytes
  | key :: _ :: kv => key :: keys kv
  | _ => []

def values : List Bytes → List Bytes
  | _ :: value :: kv => value :: values kv
  | [trailing] => [trailing]
  | [] => []

/-- What a key may not contain: a space, `=`, a quote or a control character. -/
structure KeyAllowed (key : Bytes) : Prop where
  nonempty : key ≠ []
  runes : ∀ r ∈ runes key, r.code ≠ 0x20 ∧ r.code ≠ 0x3d ∧ r.code ≠ 0x22 ∧ isControl r.code = false

theorem KeyAllowed.free {key : Bytes} (allowed : KeyAllowed key) : 0x3d ∉ key := by
  intro member
  obtain ⟨r, here, code⟩ := ascii_mem_runes member (by decide)
  exact (allowed.runes r here).2.1 code

theorem unquoted_free {s : Bytes} (plain : needsQuote s = false) : s ≠ [] ∧ 0x20 ∉ s ∧ 0x22 ∉ s := by
  simp only [needsQuote, Bool.or_eq_false_iff, decide_eq_false_iff_not, List.any_eq_false] at plain
  have absent : ∀ b : UInt8, b < 0x80 → special b.toNat = true → b ∉ s := by
    intro b low found member
    obtain ⟨r, here, code⟩ := ascii_mem_runes member low
    rw [← code] at found
    exact plain.2 r here found
  exact ⟨plain.1, absent 0x20 (by decide) (by decide), absent 0x22 (by decide) (by decide)⟩

section Unambiguous

variable (isPrint : Nat → Bool)

def FieldEnd (x : Bytes) : Prop := x = [] ∨ ∃ rest, x = 0x20 :: rest

theorem append_fieldEnd {s t x y : Bytes} (freeS : 0x20 ∉ s) (freeT : 0x20 ∉ t) (endX : FieldEnd x) (endY : FieldEnd y)
    (same : s ++ x = t ++ y) : s = t ∧ x = y := by
  rcases endX with rfl | ⟨x, rfl⟩ <;> rcases endY with rfl | ⟨y, rfl⟩
  · rw [List.append_nil, List.append_nil] at same
    exact ⟨same, rfl⟩
  · rw [List.append_nil] at same
    exact absurd (by rw [same]; simp) freeS
  · rw [List.append_nil] at same
    exact absurd (by rw [← same]; simp) freeT
  · obtain ⟨words, rest⟩ := Delimited.append_cons_unique freeS freeT same
    exact ⟨words, by rw [rest]⟩

theorem writeValue_unique {v w x y : Bytes} (endX : FieldEnd x) (endY : FieldEnd y)
    (same : writeValue isPrint v ++ x = writeValue isPrint w ++ y) : v = w ∧ x = y := by
  have mixed : ∀ {v w : Bytes} x y, needsQuote w = false → quote isPrint v ++ x ≠ w ++ y := by
    intro v w x y plain heads
    obtain ⟨nonempty, _, unquoted⟩ := unquoted_free plain
    obtain ⟨b, rest, rfl⟩ := List.exists_cons_of_ne_nil nonempty
    have first := (List.cons.inj heads).1
    subst first
    exact unquoted List.mem_cons_self
  unfold writeValue at same
  cases quotedV : needsQuote v with
  | true =>
    cases quotedW : needsQuote w with
    | true =>
      rw [quotedV, quotedW] at same
      exact quote_unique isPrint v w x y same
    | false =>
      rw [quotedV, quotedW] at same
      exact absurd same (mixed x y quotedW)
  | false =>
    cases quotedW : needsQuote w with
    | true =>
      rw [quotedV, quotedW] at same
      exact absurd same.symm (mixed y x quotedV)
    | false =>
      rw [quotedV, quotedW] at same
      exact append_fieldEnd (unquoted_free quotedV).2.1 (unquoted_free quotedW).2.1 endX endY same

def field (f : Bytes × Bytes) : Bytes := 0x20 :: (f.1 ++ 0x3d :: writeValue isPrint f.2)

theorem field_delimits : Delimited.Delimits (field isPrint) (fun f => KeyAllowed f.1) FieldEnd where
  unique f g x y allowedF allowedG endX endY same := by
    simp only [field, List.cons_append, List.append_assoc, List.cons.injEq, true_and] at same
    obtain ⟨keysSame, rest⟩ := Delimited.append_cons_unique allowedF.free allowedG.free same
    obtain ⟨valuesSame, tails⟩ := writeValue_unique isPrint endX endY rest
    exact ⟨Prod.ext keysSame valuesSame, tails⟩
  next _ _ _ _ := Or.inr ⟨_, rfl⟩

def fields : List Bytes → List (Bytes × Bytes)
  | key :: value :: kv => (key, value) :: fields kv
  | _ => []

/-- An even number of elements, keys that are allowed at every other place. -/
structure WellKeyed (kv : List Bytes) : Prop where
  even : kv.length % 2 = 0
  keys : ∀ key ∈ keys kv, KeyAllowed key

theorem writeFields_eq (kv : List Bytes) (even : kv.length % 2 = 0) :
    writeFields isPrint kv = (fields kv).flatMap (field isPrint) ∧ kv = (fields kv).flatMap fun f => [f.1, f.2] := by
  fun_induction fields kv with
  | case1 key value kv ih =>
    obtain ⟨written, same⟩ := ih (by simp only [List.length_cons] at even; omega)
    simp only [writeFields, List.flatMap_cons, ← written, ← same, field, List.cons_append, List.append_assoc,
      List.nil_append, and_self]
  | case2 kv short =>
    match kv, short, even with
    | [], _, _ => exact ⟨rfl, rfl⟩
    | key :: value :: kv, short, _ => exact absurd rfl (short key value kv)

theorem fields_allowed (kv : List Bytes) (allowed : ∀ key ∈ keys kv, KeyAllowed key) :
    ∀ f ∈ fields kv, KeyAllowed f.1 := by
  fun_induction fields kv with
  | case1 key value kv ih =>
    simp only [keys, List.forall_mem_cons] at allowed ⊢
    exact ⟨allowed.1, ih allowed.2⟩
  | case2 => exact nofun

theorem event_injective (front name : Bytes) (xs ys : List Bytes) (keyedX : WellKeyed xs) (keyedY : WellKeyed ys)
    (same : event isPrint front name xs = event isPrint front name ys) : xs = ys := by
  obtain ⟨writtenX, sameX⟩ := writeFields_eq isPrint xs keyedX.even
  obtain ⟨writtenY, sameY⟩ := writeFields_eq isPrint ys keyedY.even
  simp only [event, List.append_cancel_left_eq, writtenX, writtenY] at same
  have ends : Delimited.Ends (field isPrint) (fun f => KeyAllowed f.1) [] := nofun
  have all : fields xs = fields ys := by
    refine ((field_delimits isPrint).flatMap_unique _ _ [] [] (fields_allowed xs keyedX.keys)
      (fields_allowed ys keyedY.keys) (Or.inl rfl) (Or.inl rfl) ends ends ?_).1
    rw [List.append_nil, List.append_nil, same]
  rw [sameX, all, ← sameY]

/-- The fields of a line can be told from it, whatever the values are. -/
theorem log_lines_unambiguous (front name : Bytes) :
    (∀ xs ys, WellKeyed xs → WellKeyed ys → event isPrint front name xs = event isPrint front name ys → xs = ys) ∧
      ∃ decode : Bytes → List Bytes, ∀ kv, WellKeyed kv → decode (event isPrint front name kv) = kv := by
  classical
  refine ⟨event_injective isPrint front name, ?_⟩
  refine ⟨fun line => if found : ∃ kv, WellKeyed kv ∧ event isPrint front name kv = line then found.choose else [], ?_⟩
  intro kv keyed
  have found : ∃ other, WellKeyed other ∧ event isPrint front name other = event isPrint front name kv :=
    ⟨kv, keyed, rfl⟩
  dsimp only
  rw [dif_pos found]
  exact event_injective isPrint front name _ kv found.choose_spec.1 keyed found.choose_spec.2

end Unambiguous

/-- `strconv.IsPrint` on ASCII. -/
def asciiPrint (r : Nat) : Bool := 0x20 ≤ r && r < 0x7f

theorem keyAllowed_text (key : Bytes) (nonempty : key ≠ [])
    (plain : ((runes key).all fun r => r.code ≠ 0x20 && r.code ≠ 0x3d && r.code ≠ 0x22 && !isControl r.code) = true) :
    KeyAllowed key := by
  refine ⟨nonempty, fun r member => ?_⟩
  have here := List.all_eq_true.mp plain r member
  simpa [and_assoc] using here

theorem log_lines_unambiguous_forged :
    event asciiPrint (text "broker") (text "x") [text "k", text "a b=c"] =
        text "broker: event=x k=\"a b=c\"" ∧
      WellKeyed [text "k", text "a b=c"] ∧
      ∃ decode : Bytes → List Bytes,
        decode (event asciiPrint (text "broker") (text "x") [text "k", text "a b=c"]) = [text "k", text "a b=c"] := by
  have keyed : WellKeyed [text "k", text "a b=c"] := by
    refine ⟨rfl, ?_⟩
    simp only [keys, List.forall_mem_singleton]
    exact keyAllowed_text _ (by decide) (by decide +kernel)
  obtain ⟨decode, recovers⟩ := (log_lines_unambiguous asciiPrint (text "broker") (text "x")).2
  exact ⟨by decide +kernel, keyed, decode, recovers _ keyed⟩

def isC1 (c : Nat) : Bool := 0x80 ≤ c && c ≤ 0x9f

theorem writeFields_starts {isPrint : Nat → Bool} (kv : List Bytes) : StartsRune (writeFields isPrint kv) := by
  match kv with
  | [] => exact True.intro
  | [_] => rfl
  | _ :: _ :: _ => rfl

section Controls

variable {isPrint : Nat → Bool} (hidden : ∀ c, isControl c = true → isPrint c = false)

include hidden

theorem writeValue_clean (v : Bytes) :
    Clean (writeValue isPrint v) ↔ ((∃ r ∈ runes v, isC1 r.code = true) → needsQuote v = true) := by
  unfold writeValue
  cases quoted : needsQuote v with
  | true => simpa using quote_clean hidden v
  | false =>
    simp only [needsQuote, Bool.or_eq_false_iff, decide_eq_false_iff_not, List.any_eq_false] at quoted
    have same : ∀ r ∈ runes v, isControl r.code = isC1 r.code := by
      intro r member
      have plain := quoted.2 r member
      simp only [special, Bool.or_eq_true, beq_iff_eq, decide_eq_true_eq, not_or] at plain
      rw [Bool.eq_iff_iff]
      simp only [isControl, isC1, Bool.or_eq_true, Bool.and_eq_true, decide_eq_true_eq]
      omega
    simp only [Bool.false_eq_true, if_false, Clean, imp_false, not_exists, not_and, Bool.not_eq_true]
    exact forall₂_congr fun r member => by rw [same r member]

theorem writeFields_clean (kv : List Bytes) (cleanKeys : ∀ key ∈ keys kv, Clean key) :
    Clean (writeFields isPrint kv) ↔ ∀ v ∈ values kv, (∃ r ∈ runes v, isC1 r.code = true) → needsQuote v = true := by
  fun_induction writeFields isPrint kv with
  | case1 key value kv ih =>
    simp only [keys, List.forall_mem_cons] at cleanKeys
    have space : ∀ t, Clean (0x20 :: t) ↔ Clean t := @Graphic.clean_append [0x20] (forall_mem_octets rfl)
    have equals : ∀ t, Clean (0x3d :: t) ↔ Clean t := @Graphic.clean_append [0x3d] (forall_mem_octets rfl)
    have keyStarts : StartsRune (0x3d :: (writeValue isPrint value ++ writeFields isPrint kv)) := rfl
    rw [space, clean_append _ _ keyStarts, equals, clean_append _ _ (writeFields_starts kv), ih cleanKeys.2,
      writeValue_clean hidden, values, List.forall_mem_cons]
    exact ⟨fun clean => clean.2, fun clean => ⟨cleanKeys.1, clean⟩⟩
  | case2 trailing =>
    have graphic : ∀ b ∈ text " _trailing=", Graphic b := forall_mem_octets (by decide +kernel)
    rw [Graphic.clean_append graphic, writeValue_clean hidden, values, List.forall_mem_singleton]
  | case3 => exact ⟨fun _ => nofun, fun _ => clean_nil⟩

/-- Control characters reach a line exactly through values that hold one of `U+0080` to `U+009F` and are not quoted. -/
theorem log_line_clean_iff (front name : Bytes) (kv : List Bytes) (cleanFront : Clean front) (cleanName : Clean name)
    (cleanKeys : ∀ key ∈ keys kv, Clean key) :
    Clean (event isPrint front name kv) ↔
      ∀ v ∈ values kv, (∃ r ∈ runes v, isC1 r.code = true) → needsQuote v = true := by
  have graphic : ∀ b ∈ text ": event=", Graphic b := forall_mem_octets (by decide +kernel)
  have starts : StartsRune (text ": event=" ++ (name ++ writeFields isPrint kv)) := rfl
  rw [event, clean_append _ _ starts, Graphic.clean_append graphic, clean_append _ _ (writeFields_starts kv),
    writeFields_clean hidden kv cleanKeys]
  exact ⟨fun clean => clean.2.2, fun clean => ⟨cleanFront, cleanName, clean⟩⟩

example : event (fun _ => true) (text "broker") (text "x") [text "k", text "a=b", text "orphan"] =
    text "broker: event=x k=\"a=b\" _trailing=orphan" := by
  decide +kernel

end Controls

theorem asciiPrint_hidden (c : Nat) (control : isControl c = true) : asciiPrint c = false := by
  simp only [isControl, Bool.or_eq_true, Bool.and_eq_true, decide_eq_true_eq] at control
  simp only [asciiPrint, Bool.and_eq_false_iff, decide_eq_false_iff_not]
  omega

theorem log_line_clean_quoted :
    Clean (text "broker") ∧ Clean (text "registered") ∧
      Clean (event asciiPrint (text "broker") (text "registered")
        [text "token", text "a\nb", text "id", text "a \u0085"]) := by
  have cleanKeys : ∀ key ∈ keys [text "token", text "a\nb", text "id", text "a \u0085"], Clean key := by decide +kernel
  have front : Clean (text "broker") := by decide +kernel
  have name : Clean (text "registered") := by decide +kernel
  have quoted : ∀ v ∈ values [text "token", text "a\nb", text "id", text "a \u0085"], needsQuote v = true := by
    decide +kernel
  exact ⟨front, name, (log_line_clean_iff asciiPrint_hidden _ _ _ front name cleanKeys).mpr
    fun v member _ => quoted v member⟩

/-- `U+0085`, a line break to many terminals, goes into the line as it is. -/
theorem c1_control_reaches_line :
    Clean (text "broker") ∧ Clean (text "registered") ∧ Clean (text "token") ∧
      event asciiPrint (text "broker") (text "registered") [text "token", text "a\u0085b"] =
        text "broker: event=registered token=a\u0085b" ∧
      ¬Clean (event asciiPrint (text "broker") (text "registered") [text "token", text "a\u0085b"]) := by
  decide +kernel

end Rtc2Tcp.Logx

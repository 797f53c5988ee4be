import Mathlib.Data.List.Basic

namespace Delimited

variable {α β : Type}

/-- The words of the valid values can be told from what follows them, as long as that may follow a word. -/
structure Delimits (code : α → List β) (valid : α → Prop) (follows : List β → Prop) : Prop where
  unique : ∀ a b x y, valid a → valid b → follows x → follows y → code a ++ x = code b ++ y → a = b ∧ x = y
  next : ∀ a x, valid a → follows x → follows (code a ++ x)

def Ends (code : α → List β) (valid : α → Prop) (x : List β) : Prop := ∀ a rest, valid a → code a ++ rest ≠ x

variable {code : α → List β} {valid : α → Prop} {follows : List β → Prop}

theorem Delimits.next_flatMap (delimits : Delimits code valid follows) (xs : List α) (x : List β)
    (validX : ∀ a ∈ xs, valid a) (may : follows x) : follows (xs.flatMap code ++ x) := by
  induction xs with
  | nil => exact may
  | cons a xs ih =>
    rw [List.flatMap_cons, List.append_assoc]
    exact delimits.next a _ (validX a List.mem_cons_self) (ih fun b member => validX b (List.mem_cons_of_mem _ member))

theorem Delimits.flatMap_unique (delimits : Delimits code valid follows) (xs ys : List α) (x y : List β)
    (validX : ∀ a ∈ xs, valid a) (validY : ∀ a ∈ ys, valid a) (mayX : follows x) (mayY : follows y)
    (endX : Ends code valid x) (endY : Ends code valid y) (same : xs.flatMap code ++ x = ys.flatMap code ++ y) :
    xs = ys ∧ x = y := by
  induction xs generalizing ys with
  | nil =>
    cases ys with
    | nil => exact ⟨rfl, same⟩
    | cons b ys =>
      rw [List.flatMap_cons, List.append_assoc] at same
      exact absurd same.symm (endX b _ (validY b List.mem_cons_self))
  | cons a xs ih =>
    cases ys with
    | nil =>
      rw [List.flatMap_cons, List.append_assoc] at same
      exact absurd same (endY a _ (validX a List.mem_cons_self))
    | cons b ys =>
      rw [List.flatMap_cons, List.flatMap_cons, List.append_assoc, List.append_assoc] at same
      have restX : ∀ c ∈ xs, valid c := fun c member => validX c (List.mem_cons_of_mem _ member)
      have restY : ∀ c ∈ ys, valid c := fun c member => validY c (List.mem_cons_of_mem _ member)
      obtain ⟨first, rest⟩ := delimits.unique a b _ _ (validX a List.mem_cons_self) (validY b List.mem_cons_self)
        (delimits.next_flatMap xs x restX mayX) (delimits.next_flatMap ys y restY mayY) same
      obtain ⟨others, last⟩ := ih ys restX restY rest
      rw [first, others]
      exact ⟨rfl, last⟩

def anything (_ : List β) : Prop := True

theorem Delimits.flatMap_injective (delimits : Delimits code valid anything) (nonempty : ∀ a, valid a → code a ≠ [])
    (xs ys : List α) (validX : ∀ a ∈ xs, valid a) (validY : ∀ a ∈ ys, valid a)
    (same : xs.flatMap code = ys.flatMap code) : xs = ys := by
  have ends : Ends code valid [] := fun a rest here empty => nonempty a here (List.append_eq_nil_iff.mp empty).1
  refine (delimits.flatMap_unique xs ys [] [] validX validY trivial trivial ends ends ?_).1
  rw [List.append_nil, List.append_nil, same]

theorem append_cons_unique {s : β} {a b x y : List β} (absentA : s ∉ a) (absentB : s ∉ b)
    (same : a ++ s :: x = b ++ s :: y) : a = b ∧ x = y := by
  rcases List.append_eq_append_iff.mp same with ⟨c, rfl, rest⟩ | ⟨c, rfl, rest⟩
  · cases c with
    | nil => exact ⟨(List.append_nil a).symm, (List.cons.inj rest).2⟩
    | cons first c =>
      rw [(List.cons.inj rest).1] at absentB
      exact absurd (List.mem_append_right a List.mem_cons_self) absentB
  · cases c with
    | nil => exact ⟨List.append_nil b, (List.cons.inj rest).2.symm⟩
    | cons first c =>
      rw [(List.cons.inj rest).1] at absentA
      exact absurd (List.mem_append_right b List.mem_cons_self) absentA

end Delimited

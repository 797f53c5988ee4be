import Mathlib.Data.List.Basic

namespace Tally

variable {α : Type} (weight : α → Nat)

def total : List α → Nat
  | [] => 0
  | a :: l => weight a + total l

variable {weight} {l : List α} {i : Nat} {old : α}

theorem total_snoc (l : List α) (a : α) : total weight (l ++ [a]) = total weight l + weight a := by
  induction l with
  | nil => exact Nat.add_comm _ _
  | cons b l ih => rw [List.cons_append, total, total, ih, Nat.add_assoc]

theorem total_set (found : l[i]? = some old) (new : α) :
    total weight (l.set i new) + weight old = total weight l + weight new := by
  induction l generalizing i with
  | nil => cases found
  | cons a l ih =>
    cases i with
    | zero =>
      cases found
      simp only [total, List.set_cons_zero]
      omega
    | succ i =>
      have rest := ih found
      simp only [total, List.set_cons_succ]
      omega

theorem weight_le_total (found : l[i]? = some old) : weight old ≤ total weight l := by
  induction l generalizing i with
  | nil => cases found
  | cons a l ih =>
    cases i with
    | zero =>
      cases found
      exact Nat.le_add_right _ _
    | succ i => exact Nat.le_trans (ih found) (Nat.le_add_left _ _)

theorem weights_le_total {j : Nat} {other : α} (found : l[i]? = some old) (also : l[j]? = some other) (distinct : i ≠ j) :
    weight old + weight other ≤ total weight l := by
  induction l generalizing i j with
  | nil => cases found
  | cons a l ih =>
    rw [total]
    cases i with
    | zero =>
      cases found
      cases j with
      | zero => exact absurd rfl distinct
      | succ j =>
        have later : weight other ≤ total weight l := weight_le_total also
        omega
    | succ i =>
      cases j with
      | zero =>
        cases also
        have later : weight old ≤ total weight l := weight_le_total found
        omega
      | succ j =>
        have later := ih found also fun same => distinct (congrArg (· + 1) same)
        omega

theorem total_mono {lighter : α → Nat} (most : ∀ a ∈ l, lighter a ≤ weight a) : total lighter l ≤ total weight l := by
  induction l with
  | nil => exact Nat.le_refl _
  | cons a l ih => exact Nat.add_le_add (most a List.mem_cons_self) (ih fun b member => most b (List.mem_cons_of_mem a member))

theorem exists_of_total_pos (positive : 0 < total weight l) : ∃ (i : Nat) (a : α), l[i]? = some a ∧ 0 < weight a := by
  induction l with
  | nil => cases positive
  | cons a l ih =>
    by_cases here : 0 < weight a
    · exact ⟨0, a, rfl, here⟩
    · rw [total] at positive
      obtain ⟨i, b, found, heavy⟩ := ih (by omega)
      exact ⟨i + 1, b, found, heavy⟩

theorem total_le (bound : Nat) (light : ∀ a ∈ l, weight a ≤ bound) : total weight l ≤ bound * l.length := by
  induction l with
  | nil => exact Nat.zero_le _
  | cons a l ih =>
    have rest := ih fun b member => light b (List.mem_cons_of_mem a member)
    have here := light a List.mem_cons_self
    rw [total, List.length_cons, Nat.mul_succ]
    omega

end Tally

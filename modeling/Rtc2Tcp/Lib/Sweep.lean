import Mathlib.Data.List.AList

namespace Sweep

variable {κ ν μ : Type} [DecidableEq κ] (stale : ν → Prop) [DecidablePred stale]

/-- The loop visits the keys in the given order, and removes and returns the entries it finds stale. -/
def sweep : List κ → AList (fun _ : κ => ν) → AList (fun _ : κ => ν) × List (κ × ν)
  | [], m => (m, [])
  | k :: order, m =>
    match m.lookup k with
    | some v =>
      if stale v then
        let (rest, removed) := sweep order (m.erase k)
        (rest, (k, v) :: removed)
      else sweep order m
    | none => sweep order m

theorem lookup_erase_iff (m : AList (fun _ : κ => ν)) (k j : κ) (v : ν) :
    (m.erase k).lookup j = some v ↔ j ≠ k ∧ m.lookup j = some v := by
  by_cases same : j = k
  · subst same
    simp
  · simp [AList.lookup_erase_ne same, same]

theorem lookup_insert_iff (m : AList (fun _ : κ => ν)) (k j : κ) (w v : ν) :
    (m.insert k w).lookup j = some v ↔ (j = k ∧ v = w) ∨ (j ≠ k ∧ m.lookup j = some v) := by
  by_cases same : j = k
  · subst same
    simp [eq_comm]
  · simp [AList.lookup_insert_ne same, same]

theorem sweep_lookup (order : List κ) (m : AList (fun _ : κ => ν)) (k : κ) (v : ν) :
    (sweep stale order m).1.lookup k = some v ↔ m.lookup k = some v ∧ ¬(k ∈ order ∧ stale v) := by
  induction order generalizing m with
  | nil => simp [sweep]
  | cons j order ih =>
    simp only [sweep]
    split
    · rename_i w found
      split
      · simp only [ih, lookup_erase_iff]
        grind
      · rw [ih]
        grind
    · rw [ih]
      grind

theorem mem_sweep (order : List κ) (m : AList (fun _ : κ => ν)) (k : κ) (v : ν) :
    (k, v) ∈ (sweep stale order m).2 ↔ k ∈ order ∧ m.lookup k = some v ∧ stale v := by
  induction order generalizing m with
  | nil => simp [sweep]
  | cons j order ih =>
    simp only [sweep]
    split
    · rename_i w found
      split
      · simp only [List.mem_cons, Prod.mk.injEq, ih, lookup_erase_iff]
        grind
      · rw [ih]
        grind
    · rw [ih]
      grind

theorem sweep_sublist (order : List κ) (m : AList (fun _ : κ => ν)) :
    ((sweep stale order m).2.map Prod.fst).Sublist order := by
  induction order generalizing m with
  | nil => exact List.Sublist.slnil
  | cons j order ih =>
    simp only [sweep]
    split
    · split
      · exact (ih _).cons_cons j
      · exact (ih m).cons j
    · exact (ih m).cons j

theorem lookup_foldl_erase (key : μ → κ) (removed : List μ) (m : AList (fun _ : κ => ν)) (k : κ) (v : ν) :
    (removed.foldl (fun m e => m.erase (key e)) m).lookup k = some v ↔
      m.lookup k = some v ∧ ∀ e ∈ removed, key e ≠ k := by
  induction removed generalizing m with
  | nil => simp
  | cons e removed ih =>
    simp only [List.foldl_cons, ih, lookup_erase_iff, List.forall_mem_cons]
    grind

end Sweep

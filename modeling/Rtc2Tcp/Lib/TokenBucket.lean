import Mathlib.Algebra.Order.Field.Rat
import Mathlib.Tactic.Linarith
import Mathlib.Tactic.Positivity

namespace TokenBucket

inductive Limit where
  | inf
  | per (rate : ℚ)
deriving DecidableEq, Repr

def every (interval : Int) : Limit := if interval ≤ 0 then .inf else .per (1 / interval)

structure Limiter where
  limit : Limit
  burst : Int
  tokens : ℚ
  last : Int
deriving DecidableEq, Repr

def newLimiter (limit : Limit) (burst : Int) : Limiter := ⟨limit, burst, burst, 0⟩

namespace Limiter

/-- The tokens in the bucket at a time. -/
def advance (l : Limiter) (rate : ℚ) (t : Int) : ℚ :=
  min l.burst (l.tokens + (t - min l.last t : Int) * rate)

def allow (l : Limiter) (t : Int) : Bool × Limiter :=
  match l.limit with
  | .inf => (true, l)
  | .per rate =>
    let tokens := l.advance rate t - 1
    if 1 ≤ l.burst ∧ 0 ≤ tokens then (true, { l with tokens := tokens, last := t }) else (false, l)

variable {l : Limiter} {rate : ℚ} {t u : Int}

theorem advance_le_burst : l.advance rate t ≤ l.burst := min_le_left _ _

theorem advance_newLimiter (limit : Limit) (burst : Int) (nonneg : 0 ≤ rate) :
    (newLimiter limit burst).advance rate t = burst := by
  have elapsed : (0 : ℚ) ≤ (t - min 0 t : Int) := by exact_mod_cast (by omega : 0 ≤ t - min 0 t)
  have more : (burst : ℚ) ≤ burst + (t - min 0 t : Int) * rate := by
    have := mul_nonneg elapsed nonneg
    linarith
  exact min_eq_left more

theorem advance_le (nonneg : 0 ≤ rate) (past : l.last ≤ t) (later : t ≤ u) :
    l.advance rate u ≤ l.advance rate t + (u - t : Int) * rate := by
  have passed : (0 : ℚ) ≤ (u - t : Int) * rate :=
    mul_nonneg (by exact_mod_cast (by omega : 0 ≤ u - t)) nonneg
  simp only [advance, min_eq_left past, min_eq_left (past.trans later)]
  rw [← min_add_add_right]
  apply min_le_min
  · linarith
  · push_cast
    linarith

theorem advance_full (empty : 0 ≤ l.tokens) (past : l.last ≤ t) (long : (l.burst : ℚ) ≤ (t - l.last : Int) * rate) :
    l.advance rate t = l.burst := by
  rw [advance, min_eq_left past]
  exact min_eq_left (by linarith)

theorem allow_granted (limit : l.limit = .per rate) (granted : (l.allow t).1 = true) :
    1 ≤ l.advance rate t ∧ (l.allow t).2 = { l with tokens := l.advance rate t - 1, last := t } := by
  simp only [allow, limit] at granted ⊢
  split
  · rename_i enough
    exact ⟨by linarith [enough.2], rfl⟩
  · rename_i short
    rw [if_neg short] at granted
    cases granted

theorem advance_granted (limit : l.limit = .per rate) (granted : (l.allow t).1 = true) :
    (l.allow t).2.advance rate t = l.advance rate t - 1 := by
  rw [(allow_granted limit granted).2]
  have full : l.advance rate t ≤ l.burst := advance_le_burst
  simp only [advance] at full ⊢
  simp only [min_self, sub_self, Int.cast_zero, zero_mul, add_zero]
  exact min_eq_right (by linarith)

theorem allow_denied (limit : l.limit = .per rate) (denied : (l.allow t).1 = false) : (l.allow t).2 = l := by
  simp only [allow, limit] at denied ⊢
  split
  · rename_i enough
    rw [if_pos enough] at denied
    cases denied
  · rfl

theorem allow_of_token (limit : l.limit = .per rate) (burst : 1 ≤ l.burst) (token : 1 ≤ l.advance rate t) :
    (l.allow t).1 = true := by
  simp only [allow, limit]
  rw [if_pos ⟨burst, by linarith⟩]

@[simp] theorem allow_limit : (l.allow t).2.limit = l.limit := by
  unfold allow
  split
  · rfl
  · dsimp only
    split <;> rfl

@[simp] theorem allow_burst : (l.allow t).2.burst = l.burst := by
  unfold allow
  split
  · rfl
  · dsimp only
    split <;> rfl

theorem advance_nonneg (nonneg : 0 ≤ rate) (burst : 0 ≤ l.burst) (tokens : 0 ≤ l.tokens) : 0 ≤ l.advance rate t := by
  have elapsed : (0 : ℚ) ≤ (t - min l.last t : Int) := by exact_mod_cast (by omega : 0 ≤ t - min l.last t)
  have gained := mul_nonneg elapsed nonneg
  exact le_min (by exact_mod_cast burst) (by linarith)

end Limiter

end TokenBucket

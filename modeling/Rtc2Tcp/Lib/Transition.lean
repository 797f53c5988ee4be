import Mathlib.Data.List.Basic
import Mathlib.Data.Nat.Find

namespace Transition

variable {σ α : Type*} (step : σ → α → Option σ)

def run (s : σ) : List α → Option σ
  | [] => some s
  | a :: acts =>
    match step s a with
    | some t => run t acts
    | none => none

def Along (meets : σ → α → Prop) (s : σ) : List α → Prop
  | [] => True
  | a :: acts => meets s a ∧ ∀ t, step s a = some t → Along meets t acts

instance decidableAlong (meets : σ → α → Prop) [decidable : ∀ s a, Decidable (meets s a)] (s : σ) :
    (acts : List α) → Decidable (Along step meets s acts)
  | [] => isTrue trivial
  | a :: acts =>
    match decidable s a with
    | isFalse unmet => isFalse fun both => unmet both.1
    | isTrue met =>
      match stepped : step s a with
      | none => isTrue ⟨met, fun t found => by rw [stepped] at found; cases found⟩
      | some t =>
        match decidableAlong meets t acts with
        | isTrue rest => isTrue ⟨met, fun u found => by rw [stepped] at found; cases found; exact rest⟩
        | isFalse unmet => isFalse fun both => unmet (both.2 t stepped)

variable {step}

theorem run_invariant {meets : σ → α → Prop} {inv : σ → Prop}
    (preserved : ∀ s a t, inv s → meets s a → step s a = some t → inv t)
    (s t : σ) (acts : List α) (holds : inv s) (met : Along step meets s acts)
    (ran : run step s acts = some t) : inv t := by
  induction acts generalizing s with
  | nil =>
    cases ran
    exact holds
  | cons a acts ih =>
    simp only [run] at ran
    split at ran
    · rename_i u stepped
      exact ih u (preserved s a u holds met.1 stepped) (met.2 u stepped) ran
    · cases ran

theorem along_always (s : σ) (acts : List α) : Along step (fun _ _ => True) s acts := by
  induction acts generalizing s with
  | nil => trivial
  | cons a acts ih => exact ⟨trivial, fun t _ => ih t⟩

theorem along_of_forall {meets : α → Prop} (s : σ) (acts : List α) (all : ∀ a ∈ acts, meets a) :
    Along step (fun _ a => meets a) s acts := by
  induction acts generalizing s with
  | nil => trivial
  | cons a acts ih =>
    exact ⟨all a List.mem_cons_self, fun t _ => ih t fun b member => all b (List.mem_cons_of_mem a member)⟩

theorem run_preserves {inv : σ → Prop} (preserved : ∀ s a t, inv s → step s a = some t → inv t)
    (s t : σ) (acts : List α) (holds : inv s) (ran : run step s acts = some t) : inv t :=
  run_invariant (fun s a t holds _ => preserved s a t holds) s t acts holds (along_always s acts) ran

/-- A run is no longer than what it uses up. -/
theorem run_length_le {inv : σ → Prop} {spends : α → Prop} (rank : σ → Nat)
    (lowers : ∀ s a t, inv s → spends a → step s a = some t → inv t ∧ rank t < rank s) (s t : σ) (acts : List α)
    (holds : inv s) (all : ∀ a ∈ acts, spends a) (ran : run step s acts = some t) :
    inv t ∧ rank t + acts.length ≤ rank s := by
  induction acts generalizing s with
  | nil =>
    cases ran
    exact ⟨holds, Nat.le_refl _⟩
  | cons a acts ih =>
    simp only [run] at ran
    split at ran
    · rename_i u stepped
      obtain ⟨kept, lower⟩ := lowers s a u holds (all a List.mem_cons_self) stepped
      obtain ⟨last, bound⟩ := ih u kept (fun b member => all b (List.mem_cons_of_mem a member)) ran
      refine ⟨last, ?_⟩
      rw [List.length_cons]
      omega
    · cases ran

theorem run_append (s t : σ) (acts more : List α) (ran : run step s acts = some t) :
    run step s (acts ++ more) = run step t more := by
  induction acts generalizing s with
  | nil =>
    cases ran
    rfl
  | cons a acts ih =>
    simp only [run] at ran
    split at ran
    · rename_i u stepped
      simp only [List.cons_append, run, stepped]
      exact ih u ran
    · cases ran

theorem run_snoc (s t u : σ) (acts : List α) (a : α) (ran : run step s acts = some t)
    (stepped : step t a = some u) : run step s (acts ++ [a]) = some u := by
  rw [run_append s t acts [a] ran]
  simp only [run, stepped]

theorem run_history_along {meets : σ → α → Prop} {inv : List α → σ → Prop} (s t : σ) (acts : List α)
    (start : inv [] s)
    (preserved : ∀ before u a v, run step s before = some u → inv before u → meets u a → step u a = some v →
      inv (before ++ [a]) v)
    (met : Along step meets s acts) (ran : run step s acts = some t) : inv acts t := by
  have general : ∀ before u, run step s before = some u → inv before u → ∀ more, Along step meets u more →
      run step u more = some t → inv (before ++ more) t := by
    intro before u reached holds more
    induction more generalizing before u with
    | nil =>
      intro _ rest
      cases rest
      rwa [List.append_nil]
    | cons a more ih =>
      intro met rest
      simp only [run] at rest
      split at rest
      · rename_i v stepped
        have next := ih (before ++ [a]) v (run_snoc s u v before a reached stepped)
          (preserved before u a v reached holds met.1 stepped) (met.2 v stepped) rest
        rwa [List.append_assoc] at next
      · cases rest
  exact general [] s rfl start acts met ran

theorem run_history {inv : List α → σ → Prop} (s t : σ) (acts : List α) (start : inv [] s)
    (preserved : ∀ before u a v, run step s before = some u → inv before u → step u a = some v →
      inv (before ++ [a]) v)
    (ran : run step s acts = some t) : inv acts t :=
  run_history_along s t acts start (fun before u a v reached holds _ => preserved before u a v reached holds)
    (along_always s acts) ran

theorem Along.snoc {meets : σ → α → Prop} {s t : σ} {acts : List α} (along : Along step meets s acts) {a : α}
    (ran : run step s acts = some t) (met : meets t a) : Along step meets s (acts ++ [a]) := by
  induction acts generalizing s with
  | nil =>
    cases ran
    exact ⟨met, fun _ _ => trivial⟩
  | cons b acts ih =>
    refine ⟨along.1, fun u stepped => ih (along.2 u stepped) ?_⟩
    simpa only [run, stepped] using ran

variable (step)

def Passes (s : σ) (acts : List α) (holds : σ → Prop) : Prop :=
  ∃ before after u, acts = before ++ after ∧ run step s before = some u ∧ holds u

def Makes (s : σ) (acts : List α) (holds : σ → α → σ → Prop) : Prop :=
  ∃ before a after u v, acts = before ++ a :: after ∧ run step s before = some u ∧ step u a = some v ∧ holds u a v

def log {ε : Type} (emit : σ → α → σ → List ε) (s : σ) : List α → List ε
  | [] => []
  | a :: acts =>
    match step s a with
    | some t => emit s a t ++ log emit t acts
    | none => []

variable {step}

theorem Passes.snoc {s : σ} {acts : List α} {holds : σ → Prop} (passes : Passes step s acts holds) (a : α) :
    Passes step s (acts ++ [a]) holds := by
  obtain ⟨before, after, u, rfl, reached, held⟩ := passes
  exact ⟨before, after ++ [a], u, by rw [List.append_assoc], reached, held⟩

theorem Passes.last {s t : σ} {acts : List α} {holds : σ → Prop} (ran : run step s acts = some t)
    (held : holds t) : Passes step s acts holds := ⟨acts, [], t, by rw [List.append_nil], ran, held⟩

theorem Passes.cases {s t : σ} {acts : List α} {a : α} {holds : σ → Prop}
    (ran : run step s (acts ++ [a]) = some t) (passes : Passes step s (acts ++ [a]) holds) :
    Passes step s acts holds ∨ holds t := by
  obtain ⟨before, after, u, split, reached, held⟩ := passes
  rcases List.eq_nil_or_concat after with rfl | ⟨front, last, rfl⟩
  · rw [List.append_nil] at split
    rw [← split, ran] at reached
    cases reached
    exact .inr held
  · rw [List.concat_eq_append, ← List.append_assoc] at split
    obtain rfl := List.append_inj_left' split rfl
    exact .inl ⟨before, front, u, rfl, reached, held⟩

theorem Makes.snoc {s : σ} {acts : List α} {holds : σ → α → σ → Prop} (makes : Makes step s acts holds) (a : α) :
    Makes step s (acts ++ [a]) holds := by
  obtain ⟨before, b, after, u, v, rfl, reached, stepped, held⟩ := makes
  exact ⟨before, b, after ++ [a], u, v, by rw [List.append_assoc, List.cons_append], reached, stepped, held⟩

theorem Makes.last {s t u : σ} {acts : List α} {a : α} {holds : σ → α → σ → Prop}
    (ran : run step s acts = some t) (stepped : step t a = some u) (held : holds t a u) :
    Makes step s (acts ++ [a]) holds := ⟨acts, a, [], t, u, rfl, ran, stepped, held⟩

/-- An invariant that speaks of the steps the whole run makes. -/
theorem run_made {inv : σ → Prop} (s t : σ) (acts : List α) (start : inv s)
    (preserved : ∀ u a v, (∀ {holds : σ → α → σ → Prop}, holds u a v → Makes step s acts holds) → inv u →
      step u a = some v → inv v)
    (ran : run step s acts = some t) : inv t := by
  let sofar (before : List α) (u : σ) : Prop := ∀ after, acts = before ++ after → inv u
  have next : ∀ before u a v, run step s before = some u → sofar before u → step u a = some v → sofar (before ++ [a]) v := by
    intro before u a v reached holds stepped after split
    rw [List.append_assoc, List.singleton_append] at split
    exact preserved u a v (fun held => ⟨before, a, after, u, v, split, reached, stepped, held⟩) (holds _ split) stepped
  exact run_history s t acts (fun _ _ => start) next ran [] (List.append_nil acts).symm

theorem log_append {ε : Type} (emit : σ → α → σ → List ε) (s t : σ) (acts more : List α)
    (ran : run step s acts = some t) :
    log step emit s (acts ++ more) = log step emit s acts ++ log step emit t more := by
  induction acts generalizing s with
  | nil =>
    cases ran
    rfl
  | cons b acts ih =>
    simp only [run] at ran
    split at ran
    · rename_i v stepped
      simp only [List.cons_append, log, stepped]
      rw [ih v ran, List.append_assoc]
    · cases ran

theorem log_snoc {ε : Type} (emit : σ → α → σ → List ε) (s t u : σ) (acts : List α) (a : α)
    (ran : run step s acts = some t) (stepped : step t a = some u) :
    log step emit s (acts ++ [a]) = log step emit s acts ++ emit t a u := by
  rw [log_append emit s t acts [a] ran]
  simp [log, stepped]

theorem log_filterMap {ε δ : Type} (emit : σ → α → σ → List ε) (pick : ε → Option δ) (s : σ) (acts : List α) :
    log step (fun s a t => (emit s a t).filterMap pick) s acts = (log step emit s acts).filterMap pick := by
  induction acts generalizing s with
  | nil => rfl
  | cons a acts ih =>
    simp only [log]
    split
    · rename_i t _
      rw [ih t, List.filterMap_append]
    · rfl

variable (step)

structure Trace where
  state : Nat → σ
  act : Nat → Option α
  steps : ∀ n a, act n = some a → step (state n) a = some (state (n + 1))
  rests : ∀ n, act n = none → state (n + 1) = state n

variable {step}

namespace Trace

variable (trace : Trace step) {kind : α → Prop}

def Takes (kind : α → Prop) (n : Nat) : Prop := ∃ m, n ≤ m ∧ ∃ a, trace.act m = some a ∧ kind a

/-- Steps of the kind that stay possible are made. -/
def Fair (kind : α → Prop) : Prop :=
  ∀ n, (∀ m, n ≤ m → ∃ a t, kind a ∧ step (trace.state m) a = some t) → trace.Takes kind n

theorem reached (n : Nat) : ∃ acts, run step (trace.state 0) acts = some (trace.state n) := by
  induction n with
  | zero => exact ⟨[], rfl⟩
  | succ n ih =>
    obtain ⟨acts, ran⟩ := ih
    cases made : trace.act n with
    | none =>
      rw [trace.rests n made]
      exact ⟨acts, ran⟩
    | some a => exact ⟨acts ++ [a], run_snoc _ _ _ acts a ran (trace.steps n a made)⟩

theorem keeps {holds : σ → Prop} (kept : ∀ s a t, holds s → ¬ kind a → step s a = some t → holds t) {n m : Nat}
    (held : holds (trace.state n)) (later : n ≤ m)
    (never : ∀ k, n ≤ k → k < m → ∀ a, trace.act k = some a → ¬ kind a) : holds (trace.state m) := by
  induction m, later using Nat.le_induction with
  | base => exact held
  | succ m later ih =>
    have before : holds (trace.state m) := ih fun k first last => never k first (by omega)
    cases made : trace.act m with
    | none =>
      rw [trace.rests m made]
      exact before
    | some a => exact kept _ a _ before (never m later (by omega) a made) (trace.steps m a made)

theorem takes_of_fair {holds : σ → Prop} (fair : trace.Fair kind)
    (kept : ∀ s a t, holds s → ¬ kind a → step s a = some t → holds t)
    (enables : ∀ s, holds s → ∃ a t, kind a ∧ step s a = some t) {n : Nat} (held : holds (trace.state n)) :
    trace.Takes kind n := by
  by_contra never
  refine never (fair n ?_)
  intro m later
  apply enables
  apply trace.keeps kept held later
  intro k first _ a made own
  exact never ⟨k, first, a, made, own⟩

theorem first_taken {holds : σ → Prop} (kept : ∀ s a t, holds s → ¬ kind a → step s a = some t → holds t) {n : Nat}
    (held : holds (trace.state n)) (takes : trace.Takes kind n) :
    ∃ m a, n ≤ m ∧ kind a ∧ holds (trace.state m) ∧ step (trace.state m) a = some (trace.state (m + 1)) := by
  classical
  obtain ⟨later, a, made, own⟩ := Nat.find_spec takes
  refine ⟨Nat.find takes, a, later, own, ?_, trace.steps _ a made⟩
  apply trace.keeps kept held later
  intro k first last b here other
  exact Nat.find_min takes last ⟨first, b, here, other⟩

end Trace

end Transition

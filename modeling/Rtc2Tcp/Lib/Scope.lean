import Rtc2Tcp.Lib.Custody

namespace Goroutine

variable {Op : Type → Type} {σ χ γ ρ α β : Type}

def Within (may : {β : Type} → Op β → Prop) (gives : {β : Type} → Op β → β → Prop) (post : α → Prop) : Prog Op α → Prop
  | .done value => post value
  | .act op next => may op ∧ ∀ result, gives op result → Within may gives post (next result)

namespace Within

variable {may : {β : Type} → Op β → Prop} {gives : {β : Type} → Op β → β → Prop} {post other : α → Prop}

theorem pure {value : α} (holds : post value) : Within may gives post (Pure.pure value : Prog Op α) := holds

theorem perform {op : Op α} (allowed : may op) (given : ∀ result, gives op result → post result) :
    Within may gives post (Prog.perform op) := ⟨allowed, given⟩

theorem bind {p : Prog Op α} {f : α → Prog Op β} {last : β → Prop} (first : Within may gives post p)
    (rest : ∀ value, post value → Within may gives last (f value)) : Within may gives last (p >>= f) := by
  induction p with
  | done value => exact rest value first
  | act op next ih => exact ⟨first.1, fun result given => ih result (first.2 result given)⟩

theorem weaken {p : Prog Op α} (first : Within may gives post p) (implies : ∀ value, post value → other value) :
    Within may gives other p := by
  induction p with
  | done value => exact implies value first
  | act op next ih => exact ⟨first.1, fun result given => ih result (first.2 result given)⟩

end Within

theorem Free.of_bind {M : Machine Op σ χ} {D : Discipline M} {p : Prog Op α} {f : α → Prog Op β}
    (free : Free D (p >>= f)) : Free D p := by
  induction p with
  | done value => trivial
  | act op next ih => exact ⟨free.1, fun result => ih result (free.2 result)⟩

theorem System.step_stable {S : System Op σ χ γ ρ} {holds : σ → Prop}
    (entered : ∀ call s t, S.enter call s = some t → holds s → holds t)
    (moved : ∀ {β : Type} (op : Op β) choice s t result, S.exec op choice s = some (result, t) → holds s → holds t)
    {p q : Pool Op σ γ ρ} {m : Move χ γ} (stepped : S.step p m = some q) (start : holds p.shared) : holds q.shared := by
  rcases System.step_cases stepped with ⟨call, s, _, opened, rfl⟩ |
    ⟨β, op, next, call, before, after, choice, result, t, _, _, executed, rfl⟩
  · exact entered call _ _ opened start
  · exact moved op choice _ _ result executed start

section Calls

variable {S : System Op σ χ γ ρ}

def Pool.calls (p : Pool Op σ γ ρ) : List γ := p.threads.map Thread.call

def Move.spawned : Move χ γ → List γ
  | .spawn call => [call]
  | .run _ _ => []

theorem System.step_calls {p q : Pool Op σ γ ρ} {m : Move χ γ} (stepped : S.step p m = some q) :
    q.calls = p.calls ++ m.spawned := by
  rcases System.step_cases stepped with ⟨call, s, rfl, _, rfl⟩ |
    ⟨β, op, next, call, before, after, choice, result, t, rfl, threads, _, rfl⟩
  · simp [Pool.calls, Move.spawned]
  · simp [Pool.calls, Move.spawned, threads]

theorem Pool.calls_of_thread {p : Pool Op σ γ ρ} {i : Nat} {thread : Thread Op γ ρ} (found : p.threads[i]? = some thread) :
    p.calls[i]? = some thread.call := by
  simp [Pool.calls, found]

end Calls

section Runs

variable {S : System Op σ χ γ ρ} {may : γ → {β : Type} → Op β → Prop} {gives : γ → {β : Type} → Op β → β → Prop}
  {post : γ → ρ → Prop}

/-- Every thread keeps to what its call may do. -/
def Kept (may : γ → {β : Type} → Op β → Prop) (gives : γ → {β : Type} → Op β → β → Prop) (post : γ → ρ → Prop)
    (p : Pool Op σ γ ρ) : Prop :=
  ∀ thread ∈ p.threads, Within (may thread.call) (gives thread.call) (post thread.call) thread.prog

theorem kept_step (fresh : ∀ call, Within (may call) (gives call) (post call) (S.body call)) (p q : Pool Op σ γ ρ)
    (m : Move χ γ)
    (given : ∀ {β : Type} (op : Op β) index choice call next t result, m = .run index choice →
      p.threads[index]? = some ⟨call, .act op next⟩ → S.exec op choice p.shared = some (result, t) → gives call op result)
    (kept : Kept may gives post p) (stepped : S.step p m = some q) : Kept may gives post q := by
  rcases System.step_cases stepped with ⟨call, s, _, _, rfl⟩ |
    ⟨β, op, next, call, before, after, choice, result, t, made, threads, executed, rfl⟩
  · intro thread member
    rcases List.mem_append.mp member with old | new
    · exact kept thread old
    · rw [List.mem_singleton.mp new]
      exact fresh call
  · have answer : gives call op result :=
      given op _ choice call next t result made
        (by rw [threads, List.getElem?_append_right (Nat.le_refl _), Nat.sub_self, List.getElem?_cons_zero]) executed
    unfold Kept at kept
    rw [threads] at kept
    have here := kept ⟨call, .act op next⟩ (List.mem_append_right _ List.mem_cons_self)
    exact forall_moved kept (here.2 result answer)

def MadeBy (made : Pool Op σ γ ρ → Nat → χ → Prop) (p : Pool Op σ γ ρ) (m : Move χ γ) : Prop :=
  ∀ index choice, m = .run index choice → made p index choice

/-- What an operation leaves behind is owed to the call that made it. -/
theorem kept_run {made : Pool Op σ γ ρ → Nat → χ → Prop} {marked : σ → Prop} {owed : σ → γ → Prop}
    (given : ∀ {β : Type} (op : Op β) r index choice call next t result, made r index choice →
      (marked r.shared → ∃ c, owed r.shared c) → r.threads[index]? = some ⟨call, .act op next⟩ →
      S.exec op choice r.shared = some (result, t) → gives call op result)
    (fresh : ∀ call, Within (may call) (gives call) (post call) (S.body call))
    (entered : ∀ call s t, S.enter call s = some t → marked t → marked s ∧ ∀ c, owed s c → owed t c)
    (moved : ∀ {β : Type} (op : Op β) choice s t result c, S.exec op choice s = some (result, t) → may c op → marked t →
      owed t c ∨ (marked s ∧ ∀ c, owed s c → owed t c))
    (p q : Pool Op σ γ ρ) (moves : List (Move χ γ)) (kept : Kept may gives post p)
    (start : marked p.shared → ∃ thread ∈ p.threads, owed p.shared thread.call)
    (along : Transition.Along S.step (MadeBy made) p moves) (ran : S.run p moves = some q) :
    Kept may gives post q ∧ (marked q.shared → ∃ thread ∈ q.threads, owed q.shared thread.call) := by
  have preserved : ∀ p m q, (Kept may gives post p ∧ (marked p.shared → ∃ thread ∈ p.threads, owed p.shared thread.call)) →
      MadeBy made p m → S.step p m = some q →
      Kept may gives post q ∧ (marked q.shared → ∃ thread ∈ q.threads, owed q.shared thread.call) := by
    rintro p m q ⟨kept, holds⟩ makes stepped
    refine ⟨kept_step fresh p q m ?_ kept stepped, ?_⟩
    · intro β op index choice call next t result run thread executed
      refine given op p index choice call next t result (makes index choice run) (fun marks => ?_) thread executed
      obtain ⟨other, _, owes⟩ := holds marks
      exact ⟨other.call, owes⟩
    intro marks
    rcases System.step_cases stepped with ⟨call, s, _, opened, rfl⟩ |
      ⟨β, op, next, call, before, after, choice, result, t, _, threads, executed, rfl⟩
    · obtain ⟨old, keeps⟩ := entered call _ _ opened marks
      obtain ⟨thread, member, owes⟩ := holds old
      exact ⟨thread, List.mem_append_left _ member, keeps _ owes⟩
    · unfold Kept at kept
      rw [threads] at kept
      have here := kept ⟨call, .act op next⟩ (List.mem_append_right _ List.mem_cons_self)
      rcases moved op choice _ _ result call executed here.1 marks with owes | ⟨old, keeps⟩
      · exact ⟨⟨call, next result⟩, List.mem_append_right _ List.mem_cons_self, owes⟩
      · obtain ⟨thread, member, owes⟩ := holds old
        rw [threads, List.mem_append, List.mem_cons] at member
        rcases member with front | rfl | back
        · exact ⟨thread, List.mem_append_left _ front, keeps _ owes⟩
        · exact ⟨⟨call, next result⟩, List.mem_append_right _ List.mem_cons_self, keeps _ owes⟩
        · exact ⟨thread, List.mem_append_right _ (List.mem_cons_of_mem _ back), keeps _ owes⟩
  exact Transition.run_invariant preserved p q moves ⟨kept, start⟩ along ran

end Runs

end Goroutine

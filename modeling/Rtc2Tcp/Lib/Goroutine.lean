import Rtc2Tcp.Lib.Transition

namespace Goroutine

inductive Prog (Op : Type → Type) (α : Type) : Type 1 where
  | done (value : α) : Prog Op α
  | act {β : Type} (op : Op β) (next : β → Prog Op α) : Prog Op α

namespace Prog

variable {Op : Type → Type} {α β : Type}

def andThen (p : Prog Op α) (f : α → Prog Op β) : Prog Op β :=
  match p with
  | .done value => f value
  | .act op next => .act op fun result => (next result).andThen f

instance : Monad (Prog Op) where
  pure := .done
  bind := andThen

def perform (op : Op α) : Prog Op α := .act op .done

theorem bind_done (value : α) (f : α → Prog Op β) : ((.done value : Prog Op α) >>= f) = f value := rfl

end Prog

/-- Atomic operations on a shared state; the environment chooses what an operation leaves open,
    and `none` means that it blocks. -/
structure Machine (Op : Type → Type) (σ χ : Type) where
  exec : {β : Type} → Op β → χ → σ → Option (β × σ)

/-- A machine with the calls that may be made on it: `enter` says when a call is possible and
    what making it changes, `body` is the program it runs. -/
structure System (Op : Type → Type) (σ χ γ ρ : Type) extends Machine Op σ χ where
  enter : γ → σ → Option σ
  body : γ → Prog Op ρ

structure Thread (Op : Type → Type) (γ ρ : Type) : Type 1 where
  call : γ
  prog : Prog Op ρ

structure Pool (Op : Type → Type) (σ γ ρ : Type) : Type 1 where
  shared : σ
  threads : List (Thread Op γ ρ)

inductive Move (χ γ : Type) where
  | spawn (call : γ)
  | run (index : Nat) (choice : χ)

section Runs

variable {Op : Type → Type} {σ χ γ ρ : Type} (S : System Op σ χ γ ρ)

def System.step (p : Pool Op σ γ ρ) : Move χ γ → Option (Pool Op σ γ ρ)
  | .spawn call => (S.enter call p.shared).map fun s => ⟨s, p.threads ++ [⟨call, S.body call⟩]⟩
  | .run index choice =>
    match p.threads[index]? with
    | some ⟨call, .act op next⟩ =>
      (S.exec op choice p.shared).map fun result => ⟨result.2, p.threads.set index ⟨call, next result.1⟩⟩
    | _ => none

abbrev System.run (p : Pool Op σ γ ρ) (moves : List (Move χ γ)) : Option (Pool Op σ γ ρ) := Transition.run S.step p moves

end Runs

/-- How the threads of a machine get along: the invariant of the shared state, the changes a
    thread has to expect, the steps a run is restricted to, what an operation needs and what it
    gives. -/
structure Discipline {Op : Type → Type} {σ χ : Type} (M : Machine Op σ χ) where
  inv : σ → Prop
  grows : σ → σ → Prop
  refl : ∀ s, grows s s
  trans : ∀ s t u, grows s t → grows t u → grows s u
  meets : {β : Type} → Op β → σ → Prop
  needs : {β : Type} → Op β → σ → Prop
  gives : {β : Type} → Op β → β → σ → Prop
  sound : ∀ {β : Type} (op : Op β) (choice : χ) (s t : σ) (result : β), inv s → meets op s → needs op s →
    M.exec op choice s = some (result, t) → inv t ∧ grows s t ∧ gives op result t

variable {Op : Type → Type} {σ χ γ ρ α β : Type} {M : Machine Op σ χ}

/-- The program gets along with the others from `s` on, and its result satisfies `post`. -/
def Safe (D : Discipline M) (post : α → σ → Prop) : Prog Op α → σ → Prop
  | .done value, s => ∀ t, D.inv t → D.grows s t → post value t
  | .act op next, s => ∀ t, D.inv t → D.grows s t → D.meets op t →
      D.needs op t ∧ ∀ result u, D.inv u → D.grows t u → D.gives op result u → Safe D post (next result) u

namespace Safe

variable {D : Discipline M} {post other : α → σ → Prop}

theorem later {p : Prog Op α} {s t : σ} (safe : Safe D post p s) (grown : D.grows s t) : Safe D post p t := by
  cases p with
  | done value => exact fun u holds further => safe u holds (D.trans _ _ _ grown further)
  | act op next => exact fun u holds further => safe u holds (D.trans _ _ _ grown further)

theorem of_inv {p : Prog Op α} {s : σ} (safe : ∀ t, D.inv t → D.grows s t → Safe D post p t) :
    Safe D post p s := by
  cases p with
  | done value => exact fun t holds grown => safe t holds grown t holds (D.refl t)
  | act op next => exact fun t holds grown => safe t holds grown t holds (D.refl t)

theorem weaken {p : Prog Op α} {s : σ} (safe : Safe D post p s)
    (implies : ∀ value t, D.inv t → post value t → other value t) : Safe D other p s := by
  induction p generalizing s with
  | done value => exact fun t holds grown => implies value t holds (safe t holds grown)
  | act op next ih =>
    intro t holds grown met
    obtain ⟨need, rest⟩ := safe t holds grown met
    exact ⟨need, fun result u holdsU grownU given => ih result (rest result u holdsU grownU given)⟩

theorem bind {p : Prog Op α} {f : α → Prog Op β} {s : σ} {last : β → σ → Prop} (first : Safe D post p s)
    (rest : ∀ value t, D.inv t → D.grows s t → post value t → Safe D last (f value) t) :
    Safe D last (p >>= f) s := by
  induction p generalizing s with
  | done value =>
    rw [Prog.bind_done]
    exact of_inv fun t holds grown => rest value t holds grown (first t holds grown)
  | act op next ih =>
    intro t holds grown met
    obtain ⟨need, more⟩ := first t holds grown met
    refine ⟨need, ?_⟩
    intro result u holdsU grownU given
    apply ih result (more result u holdsU grownU given)
    intro value v holdsV grownV found
    exact rest value v holdsV (D.trans _ _ _ grown (D.trans _ _ _ grownU grownV)) found

theorem keep {p : Prog Op α} {s : σ} (fact : σ → Prop) (stable : ∀ s t, D.grows s t → fact s → fact t)
    (holds : fact s) (safe : Safe D post p s) : Safe D (fun value t => post value t ∧ fact t) p s := by
  induction p generalizing s with
  | done value => exact fun t inv grown => ⟨safe t inv grown, stable s t grown holds⟩
  | act op next ih =>
    intro t inv grown met
    obtain ⟨need, rest⟩ := safe t inv grown met
    refine ⟨need, ?_⟩
    intro result u invU grownU given
    exact ih result (stable t u grownU (stable s t grown holds)) (rest result u invU grownU given)

theorem perform {op : Op α} {s : σ} (needed : ∀ t, D.inv t → D.grows s t → D.meets op t → D.needs op t)
    (given : ∀ result t, D.inv t → D.grows s t → D.gives op result t → post result t)
    (stable : ∀ result t u, D.inv u → D.grows t u → post result t → post result u) :
    Safe D post (Prog.perform op) s := by
  intro t holds grown met
  refine ⟨needed t holds grown met, ?_⟩
  intro result u holdsU grownU gave v holdsV grownV
  exact stable result u v holdsV grownV (given result u holdsU (D.trans _ _ _ grown grownU) gave)

theorem pure {value : α} {s : σ} (holds : ∀ t, D.inv t → D.grows s t → post value t) :
    Safe D post (Pure.pure value : Prog Op α) s := holds

end Safe

def Free (D : Discipline M) : Prog Op α → Prop
  | .done _ => True
  | .act op next => (∀ s, D.needs op s) ∧ ∀ result, Free D (next result)

namespace Free

variable {D : Discipline M}

theorem pure (value : α) : Free D (Pure.pure value : Prog Op α) := trivial

theorem safe {p : Prog Op α} (free : Free D p) (s : σ) : Safe D (fun _ _ => True) p s := by
  induction p generalizing s with
  | done value => exact fun _ _ _ => trivial
  | act op next ih =>
    exact fun t _ _ _ => ⟨free.1 t, fun result u _ _ _ => ih result (free.2 result) u⟩

theorem of_needless (needless : ∀ {β : Type} (op : Op β) s, D.needs op s) (p : Prog Op α) : Free D p := by
  induction p with
  | done value => trivial
  | act op next ih => exact ⟨needless op, ih⟩

theorem perform {op : Op α} (needless : ∀ s, D.needs op s) : Free D (Prog.perform op) :=
  ⟨needless, fun _ => trivial⟩

theorem bind {p : Prog Op α} {f : α → Prog Op β} (first : Free D p) (rest : ∀ value, Free D (f value)) :
    Free D (p >>= f) := by
  induction p with
  | done value => exact rest value
  | act op next ih => exact ⟨first.1, fun result => ih result (first.2 result)⟩

end Free

section Soundness

variable {S : System Op σ χ γ ρ} (D : Discipline S.toMachine)

def Discipline.Met (p : Pool Op σ γ ρ) : Move χ γ → Prop
  | .spawn _ => True
  | .run index _ =>
    match p.threads[index]? with
    | some ⟨_, .act op _⟩ => D.meets op p.shared
    | _ => True

def Discipline.MetBy (p : Pool Op σ γ ρ) (moves : List (Move χ γ)) : Prop := Transition.Along S.step D.Met p moves

instance Discipline.decidableMet [decidable : ∀ {β : Type} (op : Op β) s, Decidable (D.meets op s)]
    (p : Pool Op σ γ ρ) (m : Move χ γ) : Decidable (D.Met p m) :=
  match m with
  | .spawn _ => isTrue trivial
  | .run index _ =>
    show Decidable (match p.threads[index]? with
      | some ⟨_, .act op _⟩ => D.meets op p.shared
      | _ => True) from
    match p.threads[index]? with
    | some ⟨_, .act op _⟩ => decidable op p.shared
    | some ⟨_, .done _⟩ => isTrue trivial
    | none => isTrue trivial

instance Discipline.decidableMetBy [∀ {β : Type} (op : Op β) s, Decidable (D.meets op s)]
    (p : Pool Op σ γ ρ) (moves : List (Move χ γ)) : Decidable (D.MetBy p moves) :=
  Transition.decidableAlong S.step D.Met p moves

theorem Discipline.metBy_always (always : ∀ {β : Type} (op : Op β) s, D.meets op s) (p : Pool Op σ γ ρ)
    (moves : List (Move χ γ)) : D.MetBy p moves := by
  induction moves generalizing p with
  | nil => trivial
  | cons m moves ih =>
    refine ⟨?_, fun q _ => ih q⟩
    cases m with
    | spawn => trivial
    | run index choice =>
      simp only [Discipline.Met]
      split
      · exact always _ _
      · trivial

/-- The invariant holds and every thread is certified for its own postcondition. -/
structure Certified (post : Nat → γ → ρ → σ → Prop) (p : Pool Op σ γ ρ) : Prop where
  inv : D.inv p.shared
  threads : ∀ i call prog, p.threads[i]? = some ⟨call, prog⟩ → Safe D (post i call) prog p.shared

variable {D} {post : Nat → γ → ρ → σ → Prop}

theorem certified_step (p q : Pool Op σ γ ρ) (m : Move χ γ) (certified : Certified D post p)
    (entered : ∀ call s t, S.enter call s = some t → D.inv s → D.inv t ∧ D.grows s t)
    (fresh : ∀ call t, m = .spawn call → D.grows p.shared t → Safe D (post p.threads.length call) (S.body call) t)
    (met : D.Met p m) (stepped : S.step p m = some q) :
    Certified D post q ∧ D.grows p.shared q.shared := by
  cases m with
  | spawn call =>
    simp only [System.step, Option.map_eq_some_iff] at stepped
    obtain ⟨s, opened, rfl⟩ := stepped
    obtain ⟨holds, grown⟩ := entered call _ _ opened certified.inv
    refine ⟨⟨holds, ?_⟩, grown⟩
    intro i call' prog found
    rw [List.getElem?_append] at found
    split at found
    · exact (certified.threads i call' prog found).later grown
    · rename_i beyond
      rw [List.getElem?_singleton] at found
      split at found
      · rename_i first
        cases found
        have last : i = p.threads.length := by omega
        rw [last]
        exact fresh call s rfl grown
      · cases found
  | run index choice =>
    simp only [System.step] at stepped
    split at stepped
    · rename_i call β op next thread
      simp only [Option.map_eq_some_iff] at stepped
      obtain ⟨⟨result, s⟩, executed, rfl⟩ := stepped
      simp only [Discipline.Met, thread] at met
      obtain ⟨need, rest⟩ := certified.threads index call _ thread p.shared certified.inv (D.refl _) met
      obtain ⟨holds, grown, given⟩ := D.sound op choice p.shared s result certified.inv met need executed
      refine ⟨⟨holds, ?_⟩, grown⟩
      intro i call' prog found
      rw [List.getElem?_set] at found
      split at found
      · rename_i same
        subst same
        split at found
        · cases found
          exact rest result s holds grown given
        · cases found
      · exact (certified.threads i call' prog found).later grown
    · cases stepped

/-- Only the calls that the run makes have to be certified. -/
theorem certified_run_calls (p q : Pool Op σ γ ρ) (moves : List (Move χ γ)) (certified : Certified D post p)
    (entered : ∀ call s t, S.enter call s = some t → D.inv s → D.inv t ∧ D.grows s t)
    (fresh : ∀ i call t, .spawn call ∈ moves → p.threads.length ≤ i → D.grows p.shared t →
      Safe D (post i call) (S.body call) t)
    (met : D.MetBy p moves) (ran : S.run p moves = some q) :
    Certified D post q ∧ D.grows p.shared q.shared := by
  induction moves generalizing p with
  | nil =>
    cases ran
    exact ⟨certified, D.refl _⟩
  | cons m moves ih =>
    simp only [System.run, Transition.run] at ran
    split at ran
    · rename_i r stepped
      obtain ⟨certifiedR, grown⟩ := certified_step p r m certified entered
        (fun call t made later => fresh _ call t (by rw [made]; exact List.mem_cons_self) (Nat.le_refl _) later)
        met.1 stepped
      have longer : p.threads.length ≤ r.threads.length := by
        cases m with
        | spawn call =>
          simp only [System.step, Option.map_eq_some_iff] at stepped
          obtain ⟨s, _, rfl⟩ := stepped
          simp
        | run index choice =>
          simp only [System.step] at stepped
          split at stepped
          · simp only [Option.map_eq_some_iff] at stepped
            obtain ⟨_, _, rfl⟩ := stepped
            simp
          · cases stepped
      obtain ⟨last, further⟩ := ih r certifiedR
        (fun i call t made bound later => fresh i call t (List.mem_cons_of_mem m made) (Nat.le_trans longer bound)
          (D.trans _ _ _ grown later))
        (met.2 r stepped) ran
      exact ⟨last, D.trans _ _ _ grown further⟩
    · cases ran

theorem certified_run (p q : Pool Op σ γ ρ) (moves : List (Move χ γ)) (certified : Certified D post p)
    (entered : ∀ call s t, S.enter call s = some t → D.inv s → D.inv t ∧ D.grows s t)
    (fresh : ∀ i call t, p.threads.length ≤ i → D.grows p.shared t → Safe D (post i call) (S.body call) t)
    (met : D.MetBy p moves) (ran : S.run p moves = some q) :
    Certified D post q ∧ D.grows p.shared q.shared :=
  certified_run_calls p q moves certified entered (fun i call t _ => fresh i call t) met ran

end Soundness

end Goroutine

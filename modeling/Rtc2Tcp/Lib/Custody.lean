import Mathlib.Algebra.BigOperators.Group.List.Basic
import Mathlib.Data.List.Forall2
import Mathlib.Tactic.Abel
import Rtc2Tcp.Lib.Goroutine

namespace Goroutine

variable {Op : Type → Type} {σ χ γ ρ α β ε : Type}

def Machine.recording (M : Machine Op σ χ) (note : {β : Type} → Op β → β → σ → List ε) :
    Machine Op (σ × List ε) χ where
  exec op choice s := (M.exec op choice s.1).map fun done => (done.1, done.2, s.2 ++ note op done.1 s.1)

def System.recording (S : System Op σ χ γ ρ) (note : {β : Type} → Op β → β → σ → List ε) :
    System Op (σ × List ε) χ γ ρ where
  toMachine := S.toMachine.recording note
  enter call s := (S.enter call s.1).map fun t => (t, s.2)
  body := S.body

section Recording

variable {S : System Op σ χ γ ρ} {note : {β : Type} → Op β → β → σ → List ε}

theorem recording_exec {M : Machine Op σ χ} {op : Op β} {choice : χ} {s t : σ × List ε} {result : β}
    (executed : (M.recording note).exec op choice s = some (result, t)) :
    M.exec op choice s.1 = some (result, t.1) ∧ t.2 = s.2 ++ note op result s.1 := by
  simp only [Machine.recording, Option.map_eq_some_iff] at executed
  obtain ⟨⟨value, u⟩, executed, same⟩ := executed
  cases same
  exact ⟨executed, rfl⟩

theorem recording_step (p : Pool Op σ γ ρ) (log : List ε) (m : Move χ γ) (q : Pool Op σ γ ρ) :
    S.step p m = some q ↔
      ∃ later, (S.recording note).step ⟨(p.shared, log), p.threads⟩ m = some ⟨(q.shared, later), q.threads⟩ := by
  obtain ⟨t, threads⟩ := q
  cases m with
  | spawn call =>
    simp only [System.step, System.recording, Machine.recording, Option.map_map, Option.map_eq_some_iff]
    constructor
    · rintro ⟨u, entered, same⟩
      cases same
      exact ⟨log, t, entered, rfl⟩
    · rintro ⟨later, u, entered, same⟩
      cases same
      exact ⟨t, entered, rfl⟩
  | run index choice =>
    simp only [System.step]
    split
    · rename_i call β op next thread
      simp only [System.recording, Machine.recording, Option.map_map, Option.map_eq_some_iff]
      constructor
      · rintro ⟨done, executed, same⟩
        cases same
        exact ⟨_, done, executed, rfl⟩
      · rintro ⟨later, done, executed, same⟩
        cases same
        exact ⟨done, executed, rfl⟩
    · simp

theorem recording_run (p : Pool Op σ γ ρ) (log : List ε) (moves : List (Move χ γ)) (q : Pool Op σ γ ρ) :
    S.run p moves = some q ↔
      ∃ later, (S.recording note).run ⟨(p.shared, log), p.threads⟩ moves = some ⟨(q.shared, later), q.threads⟩ := by
  induction moves generalizing p log with
  | nil =>
    constructor
    · intro same
      cases same
      exact ⟨log, rfl⟩
    · rintro ⟨later, same⟩
      obtain ⟨t, threads⟩ := q
      simp only [System.run, Transition.run, Option.some.injEq, Pool.mk.injEq, Prod.mk.injEq] at same
      rw [← same.1.1, ← same.2]
      rfl
  | cons m moves ih =>
    simp only [System.run, Transition.run]
    constructor
    · intro ran
      split at ran
      · rename_i r stepped
        obtain ⟨later, recorded⟩ := (recording_step p log m r).mp stepped
        rw [recorded]
        exact (ih r later).mp ran
      · cases ran
    · rintro ⟨later, ran⟩
      split at ran
      · rename_i r recorded
        have stepped := (recording_step p log m ⟨r.shared.1, r.threads⟩).mpr ⟨r.shared.2, recorded⟩
        rw [stepped]
        exact (ih ⟨r.shared.1, r.threads⟩ r.shared.2).mpr ⟨later, ran⟩
      · cases ran

end Recording

def Justified (calls : List ε → ε → Prop) (log : List ε) : Prop :=
  ∀ before entry after, log = before ++ entry :: after → calls before entry

theorem Justified.nil {calls : List ε → ε → Prop} : Justified calls [] := by
  intro before entry after split
  simp at split

theorem Justified.snoc {calls : List ε → ε → Prop} {log : List ε} (justified : Justified calls log) (entry : ε)
    (called : calls log entry) : Justified calls (log ++ [entry]) := by
  intro before other after split
  rcases List.eq_nil_or_concat after with rfl | ⟨more, last, rfl⟩
  · obtain ⟨rfl, same⟩ := List.append_inj' split rfl
    rwa [← List.head_eq_of_cons_eq same]
  · rw [List.concat_eq_append, ← List.cons_append, ← List.append_assoc] at split
    obtain ⟨same, _⟩ := List.append_inj' split rfl
    exact justified before other more same

def System.restricted (S : System Op σ χ γ ρ) (allowed : {β : Type} → Op β → β → σ → Bool) : System Op σ χ γ ρ where
  exec op choice s := (S.exec op choice s).filter fun done => allowed op done.1 s
  enter := S.enter
  body := S.body

theorem restricted_exec {S : System Op σ χ γ ρ} {allowed : {β : Type} → Op β → β → σ → Bool} {op : Op β} {choice : χ}
    {s t : σ} {result : β} : (S.restricted allowed).exec op choice s = some (result, t) ↔
      S.exec op choice s = some (result, t) ∧ allowed op result s = true := by
  simp only [System.restricted, Option.filter_eq_some_iff]

theorem System.step_cases {S : System Op σ χ γ ρ} {p q : Pool Op σ γ ρ} {m : Move χ γ} (stepped : S.step p m = some q) :
    (∃ call s, m = .spawn call ∧ S.enter call p.shared = some s ∧ q = ⟨s, p.threads ++ [⟨call, S.body call⟩]⟩) ∨
    (∃ (β : Type) (op : Op β) (next : β → Prog Op ρ) (call : γ) (before after : List (Thread Op γ ρ)) (choice : χ)
        (result : β) (t : σ), m = .run before.length choice ∧ p.threads = before ++ ⟨call, .act op next⟩ :: after ∧
      S.exec op choice p.shared = some (result, t) ∧ q = ⟨t, before ++ ⟨call, next result⟩ :: after⟩) := by
  cases m with
  | spawn call =>
    simp only [System.step, Option.map_eq_some_iff] at stepped
    obtain ⟨s, entered, rfl⟩ := stepped
    exact .inl ⟨call, s, rfl, entered, rfl⟩
  | run index choice =>
    simp only [System.step] at stepped
    split at stepped
    · rename_i call β op next thread
      simp only [Option.map_eq_some_iff] at stepped
      obtain ⟨⟨result, t⟩, executed, rfl⟩ := stepped
      obtain ⟨bound, here⟩ := List.getElem?_eq_some_iff.mp thread
      have short : (p.threads.take index).length = index := by
        rw [List.length_take]
        omega
      refine .inr ⟨β, op, next, call, p.threads.take index, p.threads.drop (index + 1), choice, result, t, ?_, ?_,
        executed, ?_⟩
      · rw [short]
      · rw [← here, List.getElem_cons_drop, List.take_append_drop]
      · rw [List.set_eq_take_append_cons_drop, if_pos bound]
    · cases stepped

theorem mem_of_moved {τ : Type*} {before after : List τ} {here there x : τ} (member : x ∈ before ++ here :: after)
    (other : x ≠ here) : x ∈ before ++ there :: after := by
  rw [List.mem_append, List.mem_cons] at member ⊢
  rcases member with member | member | member
  · exact .inl member
  · exact absurd member other
  · exact .inr (.inr member)

theorem forall_moved {τ : Type*} {before after : List τ} {here there : τ} {holds : τ → Prop}
    (all : ∀ x ∈ before ++ here :: after, holds x) (new : holds there) :
    ∀ x ∈ before ++ there :: after, holds x := by
  intro x member
  rw [List.mem_append, List.mem_cons] at member
  rcases member with member | rfl | member
  · exact all x (List.mem_append_left _ member)
  · exact new
  · exact all x (List.mem_append_right _ (List.mem_cons_of_mem _ member))

theorem restricted_step {S : System Op σ χ γ ρ} {allowed : {β : Type} → Op β → β → σ → Bool} {p q : Pool Op σ γ ρ}
    {m : Move χ γ} (stepped : S.step p m = some q)
    (fine : ∀ {β : Type} (op : Op β) choice result, S.exec op choice p.shared = some (result, q.shared) →
      allowed op result p.shared = true) : (S.restricted allowed).step p m = some q := by
  rcases System.step_cases stepped with ⟨call, s, rfl, opened, rfl⟩ |
    ⟨β, op, next, call, before, after, choice, result, t, rfl, threads, executed, rfl⟩
  · exact stepped
  · have here : p.threads[before.length]? = some ⟨call, .act op next⟩ := by
      rw [threads]
      simp
    have same : (S.restricted allowed).exec op choice p.shared = some (result, t) :=
      restricted_exec.mpr ⟨executed, fine op choice result executed⟩
    simp only [System.step, here, same, Option.map_some]
    rw [threads]
    simp

theorem restricted_run {S : System Op σ χ γ ρ} {allowed : {β : Type} → Op β → β → σ → Bool} {known : σ → Prop}
    (entered : ∀ call s t, S.enter call s = some t → known t → known s)
    (executed : ∀ {β : Type} (op : Op β) choice s t result, S.exec op choice s = some (result, t) → known t →
      known s ∧ allowed op result s = true) (p q : Pool Op σ γ ρ) (moves : List (Move χ γ))
    (ran : S.run p moves = some q) (holds : known q.shared) :
    (S.restricted allowed).run p moves = some q ∧ known p.shared := by
  induction moves generalizing p with
  | nil =>
    cases ran
    exact ⟨rfl, holds⟩
  | cons m moves ih =>
    simp only [System.run, Transition.run] at ran ⊢
    split at ran
    · rename_i r stepped
      obtain ⟨rest, later⟩ := ih r ran
      have before : (S.restricted allowed).step p m = some r :=
        restricted_step stepped fun op choice result done => (executed op choice _ _ result done later).2
      rw [before]
      refine ⟨rest, ?_⟩
      rcases System.step_cases stepped with ⟨call, s, _, opened, rfl⟩ |
        ⟨β, op, next, call, front, after, choice, result, t, _, _, done, rfl⟩
      · exact entered call _ _ opened later
      · exact (executed op choice _ _ result done later).1
    · cases ran

section Ledger

structure Ledger (M : Machine Op σ χ) (R : Type) [AddCancelCommMonoid R] where
  inv : σ → Prop
  holds : σ → R
  gives : {β : Type} → Op β → β → Prop
  gains : {β : Type} → Op β → β → R
  pays : {β : Type} → Op β → β → R
  sound : ∀ {β : Type} (op : Op β) (choice : χ) (s t : σ) (result : β), inv s →
    M.exec op choice s = some (result, t) →
    gives op result ∧ holds s + pays op result = holds t + gains op result

variable {M : Machine Op σ χ} {R : Type} [AddCancelCommMonoid R]

/-- The program, begun with the load, never pays what it does not have and never carries more than
    the limit. -/
def Carries (L : Ledger M R) (limit : R → Prop) (post : R → α → Prop) : R → Prog Op α → Prop
  | load, .done value => limit load ∧ post load value
  | load, .act op next => limit load ∧ ∀ result, L.gives op result →
      ∃ rest, load + L.gains op result = rest + L.pays op result ∧ Carries L limit post rest (next result)

namespace Carries

variable {L : Ledger M R} {limit : R → Prop} {post other : R → α → Prop}

theorem within {p : Prog Op α} {load : R} (carries : Carries L limit post load p) : limit load := by
  cases p with
  | done value => exact carries.1
  | act op next => exact carries.1

theorem pure {load : R} {value : α} (small : limit load) (holds : post load value) :
    Carries L limit post load (Pure.pure value : Prog Op α) := ⟨small, holds⟩

theorem perform {op : Op α} {load : R} (small : limit load) (moved : ∀ result, L.gives op result →
      ∃ rest, load + L.gains op result = rest + L.pays op result ∧ limit rest ∧ post rest result) :
    Carries L limit post load (Prog.perform op) := ⟨small, moved⟩

theorem bind {p : Prog Op α} {f : α → Prog Op β} {load : R} {last : R → β → Prop}
    (first : Carries L limit post load p)
    (rest : ∀ left value, post left value → Carries L limit last left (f value)) :
    Carries L limit last load (p >>= f) := by
  induction p generalizing load with
  | done value => exact rest load value first.2
  | act op next ih =>
    refine ⟨first.1, ?_⟩
    intro result given
    obtain ⟨left, moved, further⟩ := first.2 result given
    exact ⟨left, moved, ih result further⟩

theorem idle {op : Op α} {load : R} (small : limit load)
    (unmoved : ∀ result, L.gains op result = 0 ∧ L.pays op result = 0) (kept : ∀ result, post load result) :
    Carries L limit post load (Prog.perform op) := by
  refine perform small ?_
  intro result _
  obtain ⟨gained, paid⟩ := unmoved result
  exact ⟨load, by rw [gained, paid], small, kept result⟩

end Carries

/-- Every thread carries its load, and with what the shared state holds the loads add up. -/
def Ledger.Balanced (L : Ledger M R) (limit : γ → R → Prop) (post : γ → R → ρ → Prop) (total : R)
    (p : Pool Op σ γ ρ) : Prop :=
  ∃ loads : List R, List.Forall₂
    (fun load thread => Carries L (limit thread.call) (post thread.call) load thread.prog) loads p.threads ∧
    L.holds p.shared + loads.sum = total

theorem Ledger.Balanced.settled {L : Ledger M R} {limit : γ → R → Prop} {post : γ → R → ρ → Prop} {total : R}
    {p : Pool Op σ γ ρ} (balanced : L.Balanced limit post total p)
    (done : ∀ thread ∈ p.threads, ∀ load,
      Carries L (limit thread.call) (post thread.call) load thread.prog → load = 0) :
    L.holds p.shared = total := by
  obtain ⟨loads, carried, sum⟩ := balanced
  have empty : loads.sum = 0 := by
    clear sum
    generalize p.threads = threads at carried done
    induction carried with
    | nil => rfl
    | cons here rest ih =>
      rw [List.sum_cons, done _ List.mem_cons_self _ here, zero_add]
      exact ih fun thread member => done thread (List.mem_cons_of_mem _ member)
  rwa [empty, add_zero] at sum

variable {S : System Op σ χ γ ρ} {L : Ledger S.toMachine R} {limit : γ → R → Prop} {post : γ → R → ρ → Prop}

theorem balanced_step (p q : Pool Op σ γ ρ) (m : Move χ γ) (initial : γ → R) (total : R) (inv : L.inv p.shared)
    (entered : ∀ call s t, S.enter call s = some t → L.holds t = L.holds s)
    (fresh : ∀ call, Carries L (limit call) (post call) (initial call) (S.body call))
    (balanced : L.Balanced limit post total p) (stepped : S.step p m = some q) :
    L.Balanced limit post (match m with | .spawn call => total + initial call | .run _ _ => total) q := by
  obtain ⟨loads, carried, sum⟩ := balanced
  rcases System.step_cases stepped with ⟨call, s, rfl, opened, rfl⟩ |
    ⟨β, op, next, call, before, after, choice, result, t, rfl, threads, executed, rfl⟩
  · refine ⟨loads ++ [initial call], List.rel_append carried (.cons (fresh call) .nil), ?_⟩
    rw [List.sum_append, List.sum_singleton, entered call _ _ opened, ← add_assoc, sum]
  · rw [threads] at carried
    -- the loads split where the threads do
    have frontCarried := List.forall₂_take_append loads before _ carried
    have backCarried := List.forall₂_drop_append loads before _ carried
    obtain ⟨load, rest, here, others, back⟩ := List.forall₂_cons_right_iff.mp backCarried
    have parts : loads = loads.take before.length ++ load :: rest := by rw [← back, List.take_append_drop]
    generalize loads.take before.length = front at frontCarried parts
    subst parts
    obtain ⟨given, moved⟩ := L.sound op choice _ _ result inv executed
    obtain ⟨left, paid, further⟩ := here.2 result given
    refine ⟨front ++ left :: rest, List.rel_append frontCarried (.cons further others), ?_⟩
    have kept : L.holds p.shared + load = L.holds t + left := by
      have both : L.holds p.shared + load + (L.gains op result + L.pays op result) =
          L.holds t + left + (L.gains op result + L.pays op result) := by
        calc L.holds p.shared + load + (L.gains op result + L.pays op result)
            = (L.holds p.shared + L.pays op result) + (load + L.gains op result) := by abel
          _ = (L.holds t + L.gains op result) + (left + L.pays op result) := by rw [moved, paid]
          _ = L.holds t + left + (L.gains op result + L.pays op result) := by abel
      exact add_right_cancel both
    calc L.holds t + (front ++ left :: rest).sum
        = (L.holds t + left) + (front.sum + rest.sum) := by
          rw [List.sum_append, List.sum_cons]
          abel
      _ = (L.holds p.shared + load) + (front.sum + rest.sum) := by rw [kept]
      _ = L.holds p.shared + (front ++ load :: rest).sum := by
          rw [List.sum_append, List.sum_cons]
          abel
      _ = total := sum

def Move.brings (initial : γ → R) : Move χ γ → R
  | .spawn call => initial call
  | .run _ _ => 0

theorem balanced_run (initial : γ → R) (always : ∀ s, L.inv s)
    (entered : ∀ call s t, S.enter call s = some t → L.holds t = L.holds s)
    (fresh : ∀ call, Carries L (limit call) (post call) (initial call) (S.body call)) (p q : Pool Op σ γ ρ)
    (moves : List (Move χ γ)) (total : R) (balanced : L.Balanced limit post total p) (ran : S.run p moves = some q) :
    L.Balanced limit post (total + (moves.map (Move.brings initial)).sum) q := by
  induction moves generalizing p total with
  | nil =>
    cases ran
    rwa [List.map_nil, List.sum_nil, add_zero]
  | cons m moves ih =>
    simp only [System.run, Transition.run] at ran
    split at ran
    · rename_i r stepped
      have next := balanced_step p r m initial total (always _) entered fresh balanced stepped
      rw [List.map_cons, List.sum_cons, ← add_assoc]
      cases m with
      | spawn call => exact ih r _ next ran
      | run index choice =>
        rw [Move.brings, add_zero]
        exact ih r _ next ran
    · cases ran

end Ledger

section Duty

/-- A condition of the shared state that some thread has to end: which operations may bring it
    about, and with which results an operation may leave it standing. -/
structure Duty (M : Machine Op σ χ) where
  inv : σ → Prop
  pending : σ → Prop
  opens : {β : Type} → Op β → β → Prop
  keeps : {β : Type} → Op β → β → Prop
  opened : ∀ {β : Type} (op : Op β) (choice : χ) (s t : σ) (result : β), inv s →
    M.exec op choice s = some (result, t) → ¬ pending s → pending t → opens op result
  kept : ∀ {β : Type} (op : Op β) (choice : χ) (s t : σ) (result : β), inv s →
    M.exec op choice s = some (result, t) → pending s → pending t → keeps op result

variable {M : Machine Op σ χ}

def Bears (T : Duty M) (excused : α → Prop) : Prog Op α → Prop
  | .done value => excused value
  | .act op next => ∀ result, T.keeps op result → Bears T excused (next result)

/-- The program bears the duty from the moment it brings it about, and only a liable one does. -/
def Minds (T : Duty M) (liable : Prop) (excused : α → Prop) : Prog Op α → Prop
  | .done _ => True
  | .act op next => ∀ result, Minds T liable excused (next result) ∧
      (T.opens op result → liable ∧ Bears T excused (next result))

namespace Bears

variable {T : Duty M} {excused : α → Prop} {last : β → Prop}

theorem pure {value : α} (fine : excused value) : Bears T excused (Pure.pure value : Prog Op α) := fine

theorem perform {op : Op α} (fine : ∀ result, T.keeps op result → excused result) :
    Bears T excused (Prog.perform op) := fine

theorem bind {p : Prog Op α} {f : α → Prog Op β} (first : Bears T excused p)
    (rest : ∀ value, excused value → Bears T last (f value)) : Bears T last (p >>= f) := by
  induction p with
  | done value => exact rest value first
  | act op next ih => exact fun result kept => ih result (first result kept)

theorem weaken {p : Prog Op α} {other : α → Prop} (bears : Bears T excused p)
    (implies : ∀ value, excused value → other value) : Bears T other p := by
  induction p with
  | done value => exact implies value bears
  | act op next ih => exact fun result kept => ih result (bears result kept)

end Bears

namespace Minds

variable {T : Duty M} {liable : Prop} {excused : α → Prop} {last : β → Prop}

theorem pure (value : α) : Minds T liable excused (Pure.pure value : Prog Op α) := trivial

theorem perform {op : Op α} (fine : ∀ result, T.opens op result → liable ∧ excused result) :
    Minds T liable excused (Prog.perform op) := fun result => ⟨trivial, fine result⟩

theorem bind {p : Prog Op α} {f : α → Prog Op β} (first : Minds T liable excused p)
    (rest : ∀ value, Minds T liable last (f value)) (further : ∀ value, excused value → Bears T last (f value)) :
    Minds T liable last (p >>= f) := by
  induction p with
  | done value => exact rest value
  | act op next ih =>
    intro result
    obtain ⟨later, now⟩ := first result
    exact ⟨ih result later, fun opened => ⟨(now opened).1, (now opened).2.bind further⟩⟩

theorem weaken {p : Prog Op α} {other : α → Prop} (minds : Minds T liable excused p)
    (implies : ∀ value, excused value → other value) : Minds T liable other p := by
  induction p with
  | done value => trivial
  | act op next ih =>
    intro result
    obtain ⟨later, now⟩ := minds result
    exact ⟨ih result later, fun opened => ⟨(now opened).1, (now opened).2.weaken implies⟩⟩

end Minds

/-- Every thread minds the duty, and while it is pending a liable one bears it. -/
structure Duty.Minded (T : Duty M) (liable : γ → Prop) (excused : γ → ρ → Prop) (p : Pool Op σ γ ρ) : Prop where
  threads : ∀ thread ∈ p.threads, Minds T (liable thread.call) (excused thread.call) thread.prog
  borne : T.pending p.shared →
    ∃ thread ∈ p.threads, liable thread.call ∧ Bears T (excused thread.call) thread.prog

theorem Duty.Minded.discharged {T : Duty M} {liable : γ → Prop} {excused : γ → ρ → Prop} {p : Pool Op σ γ ρ}
    (minded : T.Minded liable excused p)
    (done : ∀ thread ∈ p.threads, liable thread.call →
      ∃ value, thread.prog = .done value ∧ ¬ excused thread.call value) : ¬ T.pending p.shared := by
  intro pending
  obtain ⟨thread, member, own, bears⟩ := minded.borne pending
  obtain ⟨value, ended, unexcused⟩ := done thread member own
  rw [ended] at bears
  exact unexcused bears

variable {S : System Op σ χ γ ρ} {T : Duty S.toMachine} {liable : γ → Prop} {excused : γ → ρ → Prop}

theorem minded_step (p q : Pool Op σ γ ρ) (m : Move χ γ) (inv : T.inv p.shared)
    (entered : ∀ call s t, S.enter call s = some t → T.pending t → T.pending s)
    (fresh : ∀ call, Minds T (liable call) (excused call) (S.body call)) (minded : T.Minded liable excused p)
    (stepped : S.step p m = some q) : T.Minded liable excused q := by
  rcases System.step_cases stepped with ⟨call, s, rfl, opened, rfl⟩ |
    ⟨β, op, next, call, before, after, choice, result, t, rfl, threads, executed, rfl⟩
  · constructor
    · intro thread member
      rcases List.mem_append.mp member with member | member
      · exact minded.threads thread member
      · rw [List.mem_singleton.mp member]
        exact fresh call
    · intro pending
      obtain ⟨thread, member, own, bears⟩ := minded.borne (entered call _ _ opened pending)
      exact ⟨thread, List.mem_append_left _ member, own, bears⟩
  · have here : ⟨call, .act op next⟩ ∈ p.threads := by
      rw [threads]
      simp
    obtain ⟨further, now⟩ := minded.threads _ here result
    have moved : (⟨call, next result⟩ : Thread Op γ ρ) ∈ before ++ ⟨call, next result⟩ :: after := by simp
    constructor
    · have all := minded.threads
      rw [threads] at all
      exact forall_moved all further
    · intro pending
      by_cases already : T.pending p.shared
      · obtain ⟨thread, member, own, bears⟩ := minded.borne already
        by_cases same : thread = ⟨call, .act op next⟩
        · subst same
          exact ⟨_, moved, own, bears result (T.kept op choice _ _ result inv executed already pending)⟩
        · rw [threads] at member
          exact ⟨thread, mem_of_moved member same, own, bears⟩
      · exact ⟨_, moved, now (T.opened op choice _ _ result inv executed already pending)⟩

end Duty

end Goroutine

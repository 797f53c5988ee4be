import Rtc2Tcp.Auth.Handshake

namespace Rtc2Tcp.Auth.InteractiveAuthenticator

open Octets Go

variable {P : Primitives}

def Ended (a : InteractiveAuthenticator P) : Prop := a.state = .succeeded ∨ a.state = .failed

def Call.isBind : Call → Bool
  | .bind _ => true
  | _ => false

def stepInputs (calls : List Call) : List Message :=
  calls.filterMap fun
    | .step m => some m
    | _ => none

def Reply.failed : Reply → Prop
  | .bound result => ∃ e, result = .error e
  | .started result => ∃ e, result = .error e
  | .stepped result => ∃ e, result = .failure e

def Reply.done : Reply → Bool
  | .stepped result => result.done
  | _ => false

theorem call_ended (a : InteractiveAuthenticator P) (c : Call) (ended : a.Ended) :
    (a.call c).2 = a ∧ (a.call c).1.failed := by
  have started : a.state ≠ .init := by
    intro fresh
    rcases ended with ended | ended <;> rw [fresh] at ended <;> cases ended
  cases c with
  | bind material =>
    have refused : a.bind material = (.error .stateOutOfOrder, a) := by simp [bind, started]
    simp only [call, refused]
    exact ⟨trivial, _, rfl⟩
  | start =>
    obtain ⟨e, refused, _⟩ | ⟨_, _, fresh, _⟩ := start_spec a
    · simp only [call, refused]
      exact ⟨trivial, _, rfl⟩
    · exact absurd fresh started
  | step m =>
    have refused : ∃ e, a.step m = (.failure e, a) := by
      unfold step
      cases a.bound with
      | false => exact ⟨_, rfl⟩
      | true =>
        refine ⟨.stateOutOfOrder, ?_⟩
        simp only [Bool.not_true, Bool.false_eq_true, if_false]
        exact if_pos ended
    obtain ⟨e, refused⟩ := refused
    simp only [call, refused]
    exact ⟨trivial, _, rfl⟩

theorem run_ended (a : InteractiveAuthenticator P) (calls : List Call) (ended : a.Ended) :
    (a.run calls).2 = a := by
  induction calls with
  | nil => rfl
  | cons c calls ih => simp only [run, (call_ended a c ended).1, ih]

theorem step_result (a b : InteractiveAuthenticator P) (m : Message) (r : StepResult) (set : a.bound = true)
    (called : a.step m = (r, b)) :
    (r.done = true ↔ a.state ≠ .succeeded ∧ b.state = .succeeded) ∧
      (∀ e, r.err = some e → r = .failure e ∧ (b.state = .failed ∨ a.state = .succeeded ∧ b = a)) := by
  cases step_spec a b m r called with
  | unbound unset =>
    rw [set] at unset
    cases unset
  | terminal _ ended =>
    refine ⟨?_, ?_⟩
    · simp only [StepResult.failure, Bool.false_eq_true, false_iff, not_and]
      exact fun running finished => running finished
    · intro e raised
      cases raised
      rcases ended with done | failed
      · exact ⟨rfl, .inr ⟨done, rfl⟩⟩
      · exact ⟨rfl, .inl failed⟩
  | rejected e b _ _ _ failed =>
    refine ⟨?_, ?_⟩
    · simp [StepResult.failure, failed]
    · intro e raised
      cases raised
      exact ⟨rfl, .inl failed⟩
  | accepted keyed => exact ⟨by simp, nofun⟩
  | confirmed _ _ waiting => exact ⟨by simp [waiting], nofun⟩
  | completed keyed _ _ waiting => exact ⟨by simp [waiting], nofun⟩

theorem done_ended (a : InteractiveAuthenticator P) (c : Call) (set : a.bound = true)
    (done : (a.call c).1.done = true) : (a.call c).2.state = .succeeded ∧ ¬ a.Ended := by
  have running : ¬ a.Ended := by
    intro ended
    cases c with
    | bind => cases done
    | start => cases done
    | step m =>
      obtain ⟨e, failed⟩ := (call_ended a (.step m) ended).2
      simp only [call, Reply.done] at done
      rw [failed] at done
      cases done
  refine ⟨?_, running⟩
  cases c with
  | bind => cases done
  | start => cases done
  | step m => exact ((step_result a _ m _ set rfl).1.mp done).2

theorem run_done_count (a : InteractiveAuthenticator P) (calls : List Call) (set : a.bound = true) :
    (a.run calls).1.countP Reply.done ≤ 1 := by
  have silent : ∀ (b : InteractiveAuthenticator P) calls, b.Ended → (b.run calls).1.countP Reply.done = 0 := by
    intro b calls ended
    induction calls with
    | nil => rfl
    | cons c calls ih =>
      obtain ⟨same, failed⟩ := call_ended b c ended
      have quiet : (b.call c).1.done = false := by
        cases reply : (b.call c).1 with
        | bound => rfl
        | started => rfl
        | stepped result =>
          rw [reply] at failed
          obtain ⟨e, rfl⟩ := failed
          rfl
      simp only [run, same, List.countP_cons, ih, quiet, Bool.false_eq_true, if_false]
  induction calls generalizing a with
  | nil => simp [run]
  | cons c calls ih =>
    simp only [run, List.countP_cons]
    cases done : (a.call c).1.done with
    | true => simp [silent _ calls (.inl (done_ended a c set done).1)]
    | false => simpa using ih _ (call_keeps_bound a c set)

/-- The key is derived together with the tags, before `SUCCEEDED` can be entered. -/
def Keyed (a : InteractiveAuthenticator P) : Prop :=
  a.state = .sentAccept ∨ a.state = .succeeded → a.sessionKey.length = 32

theorem call_keyed (a : InteractiveAuthenticator P) (c : Call) (keyed : a.Keyed) : (a.call c).2.Keyed := by
  cases c with
  | bind material =>
    obtain ⟨state, _, _, _, same⟩ := bind_kept a material
    by_cases fresh : a.state = .init
    · intro late
      simp only [call, state, fresh] at late
      rcases late with late | late <;> cases late
    · simp only [call, same fresh]
      exact keyed
  | start =>
    obtain ⟨e, refused, _⟩ | ⟨_, _, _, started⟩ := start_spec a
    · simp only [call, refused]
      exact keyed
    · simp only [call, started]
      rintro (late | late) <;> cases late
  | step m =>
    simp only [call]
    rcases called : a.step m with ⟨r, b⟩
    cases step_spec a b m r called with
    | unbound => exact keyed
    | terminal => exact keyed
    | rejected e b _ _ _ failed =>
      rintro (late | late) <;> rw [failed] at late <;> cases late
    | accepted agreed _ _ _ hello =>
      obtain ⟨raw, shared, _, _, _, _, rfl⟩ := hello.agreed
      exact fun _ => sessionKey_length _ _
    | confirmed _ _ waiting => exact fun _ => keyed (.inl waiting)
    | completed agreed _ _ _ accept =>
      obtain ⟨raw, shared, _, _, _, _, rfl⟩ := accept.agreed
      exact fun _ => sessionKey_length _ _

theorem call_start_responder (a : InteractiveAuthenticator P) (role : a.initiator = false) :
    (a.call .start).2 = a := by
  obtain ⟨e, refused, _⟩ | ⟨_, other, _, _⟩ := start_spec a
  · simp only [call, refused]
  · rw [role] at other
    cases other

theorem responder_waiting (a : InteractiveAuthenticator P) (set : a.bound = true) (role : a.initiator = false)
    (waiting : a.state = .sentAccept) (calls : List Call) (unbound : ∀ c ∈ calls, c.isBind = false) :
    (a.run calls).2.state = .succeeded ↔ ∃ m rest, stepInputs calls = m :: rest ∧ a.AcceptsConfirm m := by
  induction calls with
  | nil => simp [run, stepInputs, waiting]
  | cons c calls ih =>
    have later := ih fun d member => unbound d (List.mem_cons_of_mem _ member)
    cases c with
    | bind material => cases unbound _ List.mem_cons_self
    | start =>
      simp only [run, call_start_responder a role]
      exact later
    | step m =>
      have first : stepInputs (.step m :: calls) = m :: stepInputs calls := rfl
      simp only [run, first, List.cons.injEq]
      rcases called : a.step m with ⟨r, b⟩
      have next : (a.call (.step m)).2 = b := by simp only [call, called]
      rw [next]
      cases step_spec a b m r called with
      | unbound unset => rw [set] at unset; cases unset
      | terminal _ ended => rcases ended with ended | ended <;> rw [waiting] at ended <;> cases ended
      | rejected e b _ _ _ failed =>
        rw [run_ended b calls (.inr failed), failed]
        simp only [reduceCtorEq, false_iff, not_exists, not_and]
        rintro m' rest ⟨rfl, rfl⟩ confirm
        rw [step_of_confirm set role waiting confirm] at called
        cases called
      | accepted keyed _ _ fresh => rw [waiting] at fresh; cases fresh
      | confirmed _ _ _ confirm =>
        rw [run_ended _ calls (.inl rfl)]
        exact ⟨fun _ => ⟨m, _, ⟨rfl, rfl⟩, confirm⟩, fun _ => rfl⟩
      | completed keyed _ other => rw [role] at other; cases other

theorem responder_reaches (a : InteractiveAuthenticator P) (set : a.bound = true) (role : a.initiator = false)
    (fresh : a.state = .init) (calls : List Call) (unbound : ∀ c ∈ calls, c.isBind = false) :
    (a.run calls).2.state = .succeeded ↔ ∃ m1 m2 rest keyed, stepInputs calls = m1 :: m2 :: rest ∧
      a.AcceptsHello m1 keyed ∧ keyed.AcceptsConfirm m2 := by
  induction calls with
  | nil => simp [run, stepInputs, fresh]
  | cons c calls ih =>
    have others : ∀ d ∈ calls, d.isBind = false := fun d member => unbound d (List.mem_cons_of_mem _ member)
    cases c with
    | bind material => cases unbound _ List.mem_cons_self
    | start =>
      simp only [run, call_start_responder a role]
      exact ih others
    | step m =>
      have first : stepInputs (.step m :: calls) = m :: stepInputs calls := rfl
      simp only [run, first, List.cons.injEq]
      rcases called : a.step m with ⟨r, b⟩
      have next : (a.call (.step m)).2 = b := by simp only [call, called]
      rw [next]
      cases step_spec a b m r called with
      | unbound unset => rw [set] at unset; cases unset
      | terminal _ ended => rcases ended with ended | ended <;> rw [fresh] at ended <;> cases ended
      | rejected e b _ _ _ failed =>
        rw [run_ended b calls (.inr failed), failed]
        simp only [reduceCtorEq, false_iff, not_exists, not_and]
        rintro m1 m2 rest keyed ⟨rfl, _⟩ hello
        have taken := (step_of_hello set role fresh hello).symm.trans called
        cases congrArg (fun result => result.1.err) taken
      | accepted keyed _ _ _ hello =>
        have kept : keyed.bound = true ∧ keyed.initiator = false := by
          obtain ⟨raw, shared, _, _, _, _, rfl⟩ := hello.agreed
          exact ⟨set, role⟩
        rw [responder_waiting { keyed with state := .sentAccept } kept.1 kept.2 rfl calls others]
        constructor
        · rintro ⟨m2, rest, inputs, confirm⟩
          exact ⟨m, m2, rest, keyed, ⟨rfl, inputs⟩, hello,
            ⟨confirm.scheme, confirm.kind, confirm.tag, confirm.length⟩⟩
        · rintro ⟨m1, m2, rest, keyed', ⟨rfl, inputs⟩, hello', confirm⟩
          cases hello.agreed.unique hello'.agreed
          exact ⟨m2, rest, inputs, confirm.scheme, confirm.kind, confirm.tag, confirm.length⟩
      | confirmed _ _ waiting => rw [fresh] at waiting; cases waiting
      | completed keyed _ other => rw [role] at other; cases other

theorem initiator_waiting (a : InteractiveAuthenticator P) (set : a.bound = true) (role : a.initiator = true)
    (waiting : a.state = .sentHello) (calls : List Call) (unbound : ∀ c ∈ calls, c.isBind = false) :
    (a.run calls).2.state = .succeeded ↔ ∃ starts m rest keyed, calls = starts ++ .step m :: rest ∧
      (∀ c ∈ starts, c = .start) ∧ a.AcceptsAccept m keyed := by
  induction calls with
  | nil => simp [run, waiting]
  | cons c calls ih =>
    have later := ih fun d member => unbound d (List.mem_cons_of_mem _ member)
    cases c with
    | bind material => cases unbound _ List.mem_cons_self
    | start =>
      have refused : (a.call .start).2 = a := by
        obtain ⟨e, refused, _⟩ | ⟨_, _, fresh, _⟩ := start_spec a
        · simp only [call, refused]
        · rw [waiting] at fresh
          cases fresh
      simp only [run, refused]
      rw [later]
      constructor
      · rintro ⟨starts, m, rest, keyed, rfl, only, accept⟩
        refine ⟨.start :: starts, m, rest, keyed, rfl, ?_, accept⟩
        intro c member
        rcases List.mem_cons.mp member with rfl | member
        · rfl
        · exact only c member
      · rintro ⟨starts, m, rest, keyed, split, only, accept⟩
        cases starts with
        | nil => cases split
        | cons c starts =>
          cases split
          exact ⟨starts, m, rest, keyed, rfl, fun d member => only d (List.mem_cons_of_mem _ member), accept⟩
    | step m =>
      -- the first message decides
      have head : (∃ starts m' rest keyed, Call.step m :: calls = starts ++ .step m' :: rest ∧
          (∀ c ∈ starts, c = .start) ∧ a.AcceptsAccept m' keyed) ↔ ∃ keyed, a.AcceptsAccept m keyed := by
        constructor
        · rintro ⟨starts, m', rest, keyed, split, only, accept⟩
          cases starts with
          | nil =>
            cases split
            exact ⟨keyed, accept⟩
          | cons c starts =>
            cases split
            cases only _ List.mem_cons_self
        · rintro ⟨keyed, accept⟩
          exact ⟨[], m, calls, keyed, rfl, by simp, accept⟩
      rw [head]
      simp only [run]
      rcases called : a.step m with ⟨r, b⟩
      have next : (a.call (.step m)).2 = b := by simp only [call, called]
      rw [next]
      cases step_spec a b m r called with
      | unbound unset => rw [set] at unset; cases unset
      | terminal _ ended => rcases ended with ended | ended <;> rw [waiting] at ended <;> cases ended
      | rejected e b _ _ _ failed =>
        rw [run_ended b calls (.inr failed), failed]
        simp only [reduceCtorEq, false_iff, not_exists]
        intro keyed accept
        have taken := (step_of_accept set role waiting accept).symm.trans called
        cases congrArg (fun result => result.1.err) taken
      | accepted keyed _ other => rw [role] at other; cases other
      | confirmed _ other => rw [role] at other; cases other
      | completed keyed _ _ _ accept =>
        rw [run_ended _ calls (.inl rfl)]
        exact ⟨fun _ => ⟨keyed, accept⟩, fun _ => rfl⟩

theorem initiator_reaches (a : InteractiveAuthenticator P) (set : a.bound = true) (role : a.initiator = true)
    (fresh : a.state = .init) (calls : List Call) (unbound : ∀ c ∈ calls, c.isBind = false) :
    (a.run calls).2.state = .succeeded ↔ ∃ starts m rest keyed, calls = starts ++ .step m :: rest ∧
      starts ≠ [] ∧ (∀ c ∈ starts, c = .start) ∧ a.AcceptsAccept m keyed := by
  cases calls with
  | nil => simp [run, fresh]
  | cons c calls =>
    have others : ∀ d ∈ calls, d.isBind = false := fun d member => unbound d (List.mem_cons_of_mem _ member)
    cases c with
    | bind material => cases unbound _ List.mem_cons_self
    | start =>
      have started : (a.call .start).2 = { a with state := .sentHello } := by
        obtain ⟨e, _, missing⟩ | ⟨_, _, _, started⟩ := start_spec a
        · exact absurd ⟨set, role, fresh⟩ missing
        · simp only [call, started]
      simp only [run, started]
      rw [initiator_waiting { a with state := .sentHello } set role rfl calls others]
      constructor
      · rintro ⟨starts, m, rest, keyed, rfl, only, accept⟩
        refine ⟨.start :: starts, m, rest, { keyed with state := a.state }, rfl, by simp, ?_, ?_⟩
        · intro c member
          rcases List.mem_cons.mp member with rfl | member
          · rfl
          · exact only c member
        · obtain ⟨scheme, kind, ⟨raw, shared, decoded, length, nonzero, secret, rfl⟩, tag⟩ := accept
          exact ⟨scheme, kind, ⟨raw, shared, decoded, length, nonzero, secret, rfl⟩, tag⟩
      · rintro ⟨starts, m, rest, keyed, split, nonempty, only, accept⟩
        cases starts with
        | nil => exact absurd rfl nonempty
        | cons c starts =>
          cases split
          refine ⟨starts, m, rest, { keyed with state := .sentHello }, rfl,
            fun d member => only d (List.mem_cons_of_mem _ member), ?_⟩
          obtain ⟨scheme, kind, ⟨raw, shared, decoded, length, nonzero, secret, rfl⟩, tag⟩ := accept
          exact ⟨scheme, kind, ⟨raw, shared, decoded, length, nonzero, secret, rfl⟩, tag⟩
    | step m =>
      -- a message before `Start` is out of order
      have failed : (a.call (.step m)).2.state = .failed := by
        simp only [call]
        rcases called : a.step m with ⟨r, b⟩
        cases step_spec a b m r called with
        | unbound unset => rw [set] at unset; cases unset
        | terminal _ ended => rcases ended with ended | ended <;> rw [fresh] at ended <;> cases ended
        | rejected e b _ _ _ failed => exact failed
        | accepted keyed _ other => rw [role] at other; cases other
        | confirmed _ other => rw [role] at other; cases other
        | completed keyed _ _ waiting => rw [fresh] at waiting; cases waiting
      simp only [run]
      rw [run_ended _ calls (.inr failed), failed]
      simp only [reduceCtorEq, false_iff, not_exists, not_and]
      intro starts m' rest keyed split nonempty only
      cases starts with
      | nil => exact absurd rfl nonempty
      | cons c starts =>
        cases split
        cases only _ List.mem_cons_self

def Reaches (a : InteractiveAuthenticator P) (calls : List Call) (state : AuthState) : Prop :=
  ∃ taken rest, calls = taken ++ rest ∧ (a.run taken).2.state = state

theorem reaches_succeeded (a : InteractiveAuthenticator P) (calls : List Call) :
    a.Reaches calls .succeeded ↔ (a.run calls).2.state = .succeeded := by
  constructor
  · rintro ⟨taken, rest, rfl, reached⟩
    rw [run_append, run_ended _ rest (.inl reached)]
    exact reached
  · intro reached
    exact ⟨calls, [], by simp, reached⟩

/-- The first two messages given to `Step` are a good hello and a good confirm. -/
def ResponderServed (a : InteractiveAuthenticator P) (calls : List Call) : Prop :=
  ∃ m1 m2 rest keyed, stepInputs calls = m1 :: m2 :: rest ∧ a.AcceptsHello m1 keyed ∧ keyed.AcceptsConfirm m2

/-- The first message given to `Step` comes after `Start` and is a good accept. -/
def InitiatorServed (a : InteractiveAuthenticator P) (calls : List Call) : Prop :=
  ∃ starts m rest keyed, calls = starts ++ .step m :: rest ∧ starts ≠ [] ∧ (∀ c ∈ starts, c = .start) ∧
    a.AcceptsAccept m keyed

/-- What every `Step` call of a run does: `done` marks the entry into `SUCCEEDED`, and an error
    comes without output and leaves `FAILED` behind. -/
def StepDisciplined (before after : InteractiveAuthenticator P) (r : StepResult) : Prop :=
  (r.done = true ↔ before.state ≠ .succeeded ∧ after.state = .succeeded) ∧
    ∀ e, r.err = some e → r.outbound = .empty ∧ r.hasOutbound = false ∧ r.done = false ∧
      (after.state = .failed ∨ before.state = .succeeded ∧ after.state = .succeeded)

/-- Runs of a bound authenticator: when `SUCCEEDED` is reached, when `done` is returned, what an
    error leaves behind, that the two final states are final, and when the key is handed out.
    `Bind` succeeds in `INIT` only, so nothing else is asked of the authenticator before it. -/
theorem authenticator_runs (material : SessionBindingMaterial) (created a : InteractiveAuthenticator P)
    (bound : created.bind material = (.ok (), a)) (calls : List Call) :
    ((∀ c ∈ calls, c.isBind = false) →
      (material.mode = .expose → (a.Reaches calls .succeeded ↔ a.ResponderServed calls)) ∧
      (material.mode = .connect → (a.Reaches calls .succeeded ↔ a.InitiatorServed calls))) ∧
    (∀ taken m rest, calls = taken ++ .step m :: rest →
      StepDisciplined (a.run taken).2 ((a.run taken).2.step m).2 ((a.run taken).2.step m).1) ∧
    (a.run calls).1.countP Reply.done ≤ 1 ∧
    (∀ taken c rest, calls = taken ++ c :: rest → (a.run taken).2.Ended →
      ((a.run taken).2.call c).2 = (a.run taken).2 ∧ ((a.run taken).2.call c).1.failed) ∧
    (∀ taken rest, calls = taken ++ rest →
      ((∃ key, (a.run taken).2.getSessionKey = .ok key) ↔ (a.run taken).2.state = .succeeded) ∧
      ∀ key, (a.run taken).2.getSessionKey = .ok key →
        key.length = 32 ∧ (a.run calls).2.getSessionKey = .ok key) := by
  obtain ⟨_, initial, set, _, _, role, _, _, _, _⟩ := bind_ok created a material bound
  have alwaysBound := run_keeps_bound a
  refine ⟨?_, ?_, run_done_count a calls set, ?_, ?_⟩
  · intro unbound
    rw [reaches_succeeded]
    constructor
    · intro mode
      exact responder_reaches a set (by rw [role, mode]; rfl) initial calls unbound
    · intro mode
      exact initiator_reaches a set (by rw [role, mode]; rfl) initial calls unbound
  · intro taken m rest _
    rcases called : (a.run taken).2.step m with ⟨r, b⟩
    obtain ⟨done, failure⟩ := step_result (a.run taken).2 b m r (alwaysBound taken set) called
    refine ⟨done, ?_⟩
    intro e raised
    obtain ⟨rfl, state⟩ := failure e raised
    refine ⟨rfl, rfl, rfl, state.imp id ?_⟩
    rintro ⟨succeeded, rfl⟩
    exact ⟨succeeded, succeeded⟩
  · intro taken c rest _ ended
    exact call_ended _ c ended
  · intro taken rest split
    have keyed : (a.run taken).2.Keyed :=
      run_invariant Keyed call_keyed a taken fun late => by rw [initial] at late; rcases late with h | h <;> cases h
    refine ⟨?_, ?_⟩
    · by_cases reached : (a.run taken).2.state = .succeeded <;> simp [getSessionKey, reached]
    · intro key handed
      have reached : (a.run taken).2.state = .succeeded := by
        by_contra other
        simp [getSessionKey, other] at handed
      refine ⟨?_, ?_⟩
      · simp only [getSessionKey, reached, ne_eq, not_true_eq_false, if_false, Except.ok.injEq] at handed
        exact handed ▸ keyed (.inr reached)
      · rw [split, run_append, run_ended _ rest (.inl reached)]
        exact handed

def vectorCalls : List Call := [.start, .step (vectorR.step vectorI.helloMessage).1.outbound]

theorem authenticator_runs_vectors :
    (vectorFresh initiatorKey.val).bind vectorMaterialI = (.ok (), vectorI) ∧
    (vectorI.Reaches vectorCalls .succeeded ↔ vectorI.InitiatorServed vectorCalls) ∧
    (vectorI.run vectorCalls).1.countP Reply.done ≤ 1 := by
  obtain ⟨reaches, _, once, _, _⟩ :=
    authenticator_runs vectorMaterialI (vectorFresh initiatorKey.val) vectorI vectorI_bound vectorCalls
  refine ⟨vectorI_bound, (reaches ?_).2 rfl, once⟩
  intro c member
  simp only [vectorCalls, List.mem_cons, List.not_mem_nil, or_false] at member
  rcases member with rfl | rfl <;> rfl

end Rtc2Tcp.Auth.InteractiveAuthenticator

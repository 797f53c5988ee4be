import Rtc2Tcp.Auth.Steps

namespace Rtc2Tcp.Auth.InteractiveAuthenticator

open Octets Go

variable {P : Primitives}

theorem newInteractiveAuthenticator_fresh (secret scheme : Bytes) (rng : P.Reader)
    (a : InteractiveAuthenticator P) (created : newInteractiveAuthenticator secret scheme rng = .ok a) :
    a.pairingSecret = trimSpace secret ∧ a.scheme.name = scheme ∧ a.state = .init ∧ a.bound = false ∧
      a.rng = rng ∧ a.pairingSecret ≠ [] := by
  unfold newInteractiveAuthenticator at created
  dsimp only at created
  split at created
  · cases created
  · rename_i nonempty
    split at created
    · rename_i same
      cases created
      exact ⟨rfl, same.symm, rfl, rfl, rfl, nonempty⟩
    · split at created
      · rename_i same
        cases created
        exact ⟨rfl, same.symm, rfl, rfl, rfl, nonempty⟩
      · cases created

structure SetupKept (a b : InteractiveAuthenticator P) : Prop where
  pairingSecret : b.pairingSecret = a.pairingSecret
  scheme : b.scheme = a.scheme
  state : b.state = a.state
  bound : b.bound = a.bound
  initiator : b.initiator = a.initiator
  material : b.material = a.material

theorem setup_kept (a : InteractiveAuthenticator P) : SetupKept a a.setup.2 := by
  unfold setup
  split
  · unfold setupCPACE
    dsimp only
    split
    · exact ⟨rfl, rfl, rfl, rfl, rfl, rfl⟩
    · split
      · exact ⟨rfl, rfl, rfl, rfl, rfl, rfl⟩
      · split
        · exact ⟨rfl, rfl, rfl, rfl, rfl, rfl⟩
        · split <;> exact ⟨rfl, rfl, rfl, rfl, rfl, rfl⟩
  · unfold setupECDH
    dsimp only
    split
    · exact ⟨rfl, rfl, rfl, rfl, rfl, rfl⟩
    · split
      · exact ⟨rfl, rfl, rfl, rfl, rfl, rfl⟩
      · split <;> exact ⟨rfl, rfl, rfl, rfl, rfl, rfl⟩

/-- What a `Bind` call can do, failures included. -/
inductive Bound (a : InteractiveAuthenticator P) (material : SessionBindingMaterial) :
    Except AuthError Unit → InteractiveAuthenticator P → Prop
  | refused (e : AuthError) : Bound a material (.error e) a
  | broken (e : AuthError) (b : InteractiveAuthenticator P) (fresh : a.state = .init)
      (valid : validateMaterial material = .ok ()) (setup : (a.withMaterial material).setup = (.error e, b)) :
      Bound a material (.error e) b
  | bound (b : InteractiveAuthenticator P) (fresh : a.state = .init)
      (valid : validateMaterial material = .ok ()) (setup : (a.withMaterial material).setup = (.ok (), b)) :
      Bound a material (.ok ()) { b with bound := true }

theorem bind_spec (a b : InteractiveAuthenticator P) (material : SessionBindingMaterial)
    (r : Except AuthError Unit) (called : a.bind material = (r, b)) : Bound a material r b := by
  suffices direct : Bound a material (a.bind material).1 (a.bind material).2 by
    rwa [called] at direct
  unfold bind
  split
  · exact .refused _
  · rename_i fresh
    simp only [ne_eq, not_not] at fresh
    split
    · exact .refused _
    · rename_i valid
      split
      · rename_i e b setup
        exact .broken e b fresh valid setup
      · rename_i b setup
        exact .bound b fresh valid setup

theorem bind_kept (a : InteractiveAuthenticator P) (material : SessionBindingMaterial) :
    (a.bind material).2.state = a.state ∧ (a.bind material).2.scheme = a.scheme ∧
      (a.bind material).2.pairingSecret = a.pairingSecret ∧
      (a.bound = true → (a.bind material).2.bound = true) ∧
      (a.state ≠ .init → (a.bind material).2 = a) := by
  have kept := setup_kept (a.withMaterial material)
  rcases called : a.bind material with ⟨r, b⟩
  cases bind_spec a b material r called with
  | refused e => exact ⟨rfl, rfl, rfl, id, fun _ => rfl⟩
  | broken e b fresh valid setup =>
    rw [setup] at kept
    exact ⟨kept.state, kept.scheme, kept.pairingSecret, fun set => kept.bound.trans set,
      fun started => absurd fresh started⟩
  | bound b fresh valid setup =>
    rw [setup] at kept
    exact ⟨kept.state, kept.scheme, kept.pairingSecret, fun _ => rfl, fun started => absurd fresh started⟩

theorem bind_ok (a b : InteractiveAuthenticator P) (material : SessionBindingMaterial)
    (ok : a.bind material = (.ok (), b)) :
    a.state = .init ∧ b.state = .init ∧ b.bound = true ∧ b.scheme = a.scheme ∧
      b.pairingSecret = a.pairingSecret ∧ b.initiator = decide (material.mode = .connect) ∧
      b.material.sessionID = trimSpace material.sessionID ∧
      b.material.localFingerprint = canonicalFingerprint material.localFingerprint ∧
      b.material.remoteFingerprint = canonicalFingerprint material.remoteFingerprint ∧
      validateMaterial material = .ok () := by
  have kept := setup_kept (a.withMaterial material)
  cases bind_spec a b material _ ok with
  | bound c fresh valid setup =>
    rw [setup] at kept
    refine ⟨fresh, kept.state.trans fresh, rfl, kept.scheme, kept.pairingSecret, kept.initiator, ?_, ?_, ?_,
      valid⟩
    · exact congrArg SessionBindingMaterial.sessionID kept.material
    · exact congrArg SessionBindingMaterial.localFingerprint kept.material
    · exact congrArg SessionBindingMaterial.remoteFingerprint kept.material

theorem start_spec (a : InteractiveAuthenticator P) :
    (∃ e, a.start = (.error e, a) ∧ ¬ (a.bound = true ∧ a.initiator = true ∧ a.state = .init)) ∨
    (a.bound = true ∧ a.initiator = true ∧ a.state = .init ∧
      a.start = (.ok a.helloMessage, { a with state := .sentHello })) := by
  unfold start
  cases set : a.bound with
  | false => left; exact ⟨.unbound, by simp, by simp⟩
  | true =>
    cases role : a.initiator with
    | false => left; exact ⟨.stateOutOfOrder, by simp, by simp⟩
    | true =>
      by_cases fresh : a.state = .init
      · right; exact ⟨rfl, rfl, fresh, by simp [fresh]⟩
      · left; exact ⟨.stateOutOfOrder, by simp [fresh], by simp [fresh]⟩

inductive Call where
  | bind (material : SessionBindingMaterial)
  | start
  | step (inbound : Message)
deriving DecidableEq, Repr

inductive Reply where
  | bound (result : Except AuthError Unit)
  | started (result : Except AuthError Message)
  | stepped (result : StepResult)
deriving Repr

def call (a : InteractiveAuthenticator P) : Call → Reply × InteractiveAuthenticator P
  | .bind material => (.bound (a.bind material).1, (a.bind material).2)
  | .start => (.started a.start.1, a.start.2)
  | .step inbound => (.stepped (a.step inbound).1, (a.step inbound).2)

def run (a : InteractiveAuthenticator P) : List Call → List Reply × InteractiveAuthenticator P
  | [] => ([], a)
  | c :: calls =>
    let (reply, next) := a.call c
    let (replies, last) := next.run calls
    (reply :: replies, last)

theorem run_append (a : InteractiveAuthenticator P) (first second : List Call) :
    a.run (first ++ second) =
      ((a.run first).1 ++ ((a.run first).2.run second).1, ((a.run first).2.run second).2) := by
  induction first generalizing a with
  | nil => rfl
  | cons c calls ih => simp only [List.cons_append, run, ih]

theorem run_invariant (holds : InteractiveAuthenticator P → Prop)
    (preserved : ∀ a c, holds a → holds (a.call c).2) (a : InteractiveAuthenticator P) (calls : List Call)
    (initial : holds a) : holds (a.run calls).2 := by
  induction calls generalizing a with
  | nil => exact initial
  | cons c calls ih => exact ih _ (preserved a c initial)

theorem call_keeps_bound (a : InteractiveAuthenticator P) (c : Call) (set : a.bound = true) :
    (a.call c).2.bound = true := by
  cases c with
  | bind material => exact (bind_kept a material).2.2.2.1 set
  | start =>
    obtain ⟨e, started, _⟩ | ⟨_, _, _, started⟩ := start_spec a <;> simp [call, started, set]
  | step m =>
    simp only [call]
    rcases called : a.step m with ⟨r, b⟩
    cases step_spec a b m r called with
    | unbound => exact set
    | terminal => exact set
    | rejected e b _ _ kept => exact kept.bound.trans set
    | accepted keyed _ _ _ hello =>
      obtain ⟨raw, shared, _, _, _, _, rfl⟩ := hello.agreed
      exact set
    | confirmed => exact set
    | completed keyed _ _ _ accept =>
      obtain ⟨raw, shared, _, _, _, _, rfl⟩ := accept.agreed
      exact set

theorem run_keeps_bound (a : InteractiveAuthenticator P) (calls : List Call) (set : a.bound = true) :
    (a.run calls).2.bound = true :=
  run_invariant (fun b => b.bound = true) call_keeps_bound a calls set

theorem call_keeps_secret (a : InteractiveAuthenticator P) (c : Call) :
    (a.call c).2.pairingSecret = a.pairingSecret := by
  cases c with
  | bind material => exact (bind_kept a material).2.2.1
  | start =>
    obtain ⟨e, started, _⟩ | ⟨_, _, _, started⟩ := start_spec a <;> simp [call, started]
  | step m =>
    simp only [call]
    rcases called : a.step m with ⟨r, b⟩
    cases step_spec a b m r called with
    | unbound => rfl
    | terminal => rfl
    | rejected e b _ _ kept => exact kept.pairingSecret
    | accepted keyed _ _ _ hello =>
      obtain ⟨raw, shared, _, _, _, _, rfl⟩ := hello.agreed
      rfl
    | confirmed => rfl
    | completed keyed _ _ _ accept =>
      obtain ⟨raw, shared, _, _, _, _, rfl⟩ := accept.agreed
      rfl

theorem run_keeps_secret (a : InteractiveAuthenticator P) (calls : List Call) :
    (a.run calls).2.pairingSecret = a.pairingSecret :=
  run_invariant (fun b => b.pairingSecret = a.pairingSecret)
    (fun b c same => (call_keeps_secret b c).trans same) a calls rfl

structure Unstarted (a : InteractiveAuthenticator P) : Prop where
  role : a.bound = true → a.initiator = true
  state : a.state ≠ .sentHello

theorem Unstarted.bind {a : InteractiveAuthenticator P} (unstarted : a.Unstarted) {material : SessionBindingMaterial}
    (mode : material.mode = .connect) : (a.bind material).2.Unstarted := by
  have initiator : (a.withMaterial material).initiator = true := by simp [withMaterial, mode]
  have kept := setup_kept (a.withMaterial material)
  generalize called : a.bind material = result
  obtain ⟨r, c⟩ := result
  cases bind_spec a c material r called with
  | refused => exact unstarted
  | broken e c fresh valid setup =>
    rw [setup] at kept
    exact ⟨fun _ => kept.initiator.trans initiator, by rw [kept.state]; exact unstarted.state⟩
  | bound b fresh valid setup =>
    rw [setup] at kept
    exact ⟨fun _ => kept.initiator.trans initiator, by rw [kept.state]; exact unstarted.state⟩

theorem Unstarted.step {a : InteractiveAuthenticator P} (unstarted : a.Unstarted) (m : Message) :
    (a.step m).1.err ≠ none ∧ (a.step m).2.Unstarted := by
  generalize called : a.step m = result
  obtain ⟨r, b⟩ := result
  cases step_spec a b m r called with
  | unbound => exact ⟨Option.some_ne_none _, unstarted⟩
  | terminal => exact ⟨Option.some_ne_none _, unstarted⟩
  | rejected e b set running kept failed frozen =>
    refine ⟨Option.some_ne_none _, fun _ => kept.initiator.trans (unstarted.role set), ?_⟩
    intro waiting
    cases failed.symm.trans waiting
  | accepted keyed set role => cases (unstarted.role set).symm.trans role
  | confirmed set role => cases (unstarted.role set).symm.trans role
  | completed keyed set role waiting => exact absurd waiting unstarted.state

end Rtc2Tcp.Auth.InteractiveAuthenticator

import Rtc2Tcp.Auth.Handshake

namespace Rtc2Tcp.Auth.InteractiveAuthenticator

open Octets Go

variable {P : Primitives}

/-- What the methods of an authenticator can tell. Unbound, `Start` and `Step` refuse, and the next `Bind` that
    succeeds writes the rest anew. -/
def observable (a : InteractiveAuthenticator P) : InteractiveAuthenticator P :=
  if a.bound then a
  else
    match a.scheme with
    | .transitionalV2 =>
      { a with material := ⟨[], .unknown [], [], []⟩, initiator := false, priv := .zero 32, pub := .zero 32 }
    | .cpaceV2 =>
      { a with
        material := ⟨[], .unknown [], [], []⟩, initiator := false
        cpaceScalar := none, cpaceGenerator := none, cpaceLocal := none, cpaceShare := .zero 32 }

def Unchanged (before after : InteractiveAuthenticator P) : Prop :=
  { after.observable with rng := before.rng } = before.observable

def generator (a : InteractiveAuthenticator P) : P.Element :=
  P.hashToElement (generatorInput a.pairingSecret a.material.sessionID a.orderedFingerprints.1 a.orderedFingerprints.2)
    cpaceGeneratorDST

/-- The public share belongs to the private scalar and, for CPACE, to the generator of the material. -/
def ShareDerived (a : InteractiveAuthenticator P) : Prop :=
  match a.scheme with
  | .transitionalV2 => P.x25519 a.priv P.basepoint = some a.pub.val
  | .cpaceV2 => ∃ scalar, a.cpaceScalar = some scalar ∧ a.cpaceGenerator = some a.generator ∧
      P.marshalBinary (P.mul a.generator scalar) = some a.cpaceShare.val

structure Consistent (a : InteractiveAuthenticator P) : Prop where
  role : a.bound = true → a.initiator = decide (a.material.mode = .connect)
  share : a.bound = true → a.ShareDerived

/-- The random source and the group deliver what a `Bind` asks of them. -/
def Supplied (a : InteractiveAuthenticator P) : Prop :=
  match a.scheme with
  | .transitionalV2 => scalarLen ≤ (P.readFull a.rng scalarLen).1.length ∧
      ∃ pub, P.x25519 (a.priv.copy (P.readFull a.rng scalarLen).1) P.basepoint = some pub ∧ pub.length = pointLen
  | .cpaceV2 => P.isIdentity a.generator = false ∧
      P.isIdentity (P.mul a.generator (P.randomNonZeroScalar a.rng).1) = false ∧
      ∃ share, P.marshalBinary (P.mul a.generator (P.randomNonZeroScalar a.rng).1) = some share ∧
        share.length = pointLen

theorem setup_ok_iff (a : InteractiveAuthenticator P) : a.setup.1 = .ok () ↔ a.Supplied := by
  unfold setup Supplied
  cases a.scheme with
  | transitionalV2 =>
    simp only [setupECDH]
    split
    · rename_i short
      simp [Nat.not_le.mpr short]
    · rename_i full
      split
      · rename_i missing
        simp [missing]
      · rename_i pub derived
        rw [derived]
        split
        · rename_i length
          simp [length]
        · rename_i length
          simp [Nat.not_lt.mp full, not_not.mp length]
  | cpaceV2 =>
    simp only [setupCPACE]
    have named : P.hashToElement (generatorInput a.pairingSecret a.material.sessionID a.orderedFingerprints.1
      a.orderedFingerprints.2) cpaceGeneratorDST = a.generator := rfl
    rw [named]
    split
    · rename_i identity
      simp [identity]
    · rename_i generator
      split
      · rename_i identity
        simp [identity]
      · rename_i share
        split
        · rename_i missing
          simp [missing]
        · rename_i bytes marshalled
          rw [marshalled]
          split
          · rename_i length
            simp [length]
          · rename_i length
            simp [generator, share, not_not.mp length]

theorem setup_writes (a : InteractiveAuthenticator P) :
    (a.scheme = .transitionalV2 → ∃ priv pub rng, a.setup.2 = { a with priv := priv, pub := pub, rng := rng }) ∧
      (a.scheme = .cpaceV2 → ∃ scalar generator share bytes rng, a.setup.2 =
        { a with
          cpaceScalar := scalar, cpaceGenerator := generator, cpaceLocal := share, cpaceShare := bytes
          rng := rng }) := by
  constructor
  · intro scheme
    simp only [setup, scheme, setupECDH]
    split
    · exact ⟨_, _, _, rfl⟩
    · split
      · exact ⟨_, _, _, rfl⟩
      · split <;> exact ⟨_, _, _, rfl⟩
  · intro scheme
    simp only [setup, scheme, setupCPACE]
    split
    · exact ⟨_, _, _, _, _, rfl⟩
    · split
      · exact ⟨_, _, _, _, _, rfl⟩
      · split
        · exact ⟨_, _, _, _, _, rfl⟩
        · split <;> exact ⟨_, _, _, _, _, rfl⟩

theorem unchanged_self (a : InteractiveAuthenticator P) : Unchanged a a := by
  unfold Unchanged observable
  split
  · rfl
  · cases a.scheme <;> rfl

theorem setup_unchanged (a : InteractiveAuthenticator P) (material : SessionBindingMaterial) (unset : a.bound = false) :
    Unchanged a (a.withMaterial material).setup.2 := by
  obtain ⟨ecdh, cpace⟩ := setup_writes (a.withMaterial material)
  have same : (a.withMaterial material).scheme = a.scheme := rfl
  cases scheme : a.scheme with
  | transitionalV2 =>
    obtain ⟨priv, pub, rng, written⟩ := ecdh (same.trans scheme)
    rw [written]
    simp only [Unchanged, observable, withMaterial, unset, scheme, Bool.false_eq_true, if_false]
  | cpaceV2 =>
    obtain ⟨scalar, generator, share, bytes, rng, written⟩ := cpace (same.trans scheme)
    rw [written]
    simp only [Unchanged, observable, withMaterial, unset, scheme, Bool.false_eq_true, if_false]

theorem setupECDH_blind (a : InteractiveAuthenticator P) (priv pub : Block 32) :
    { a with priv := priv, pub := pub }.setupECDH.1 = a.setupECDH.1 ∧
      { a with priv := priv, pub := pub }.setupECDH.2.rng = a.setupECDH.2.rng ∧
      (a.setupECDH.1 = .ok () → { a with priv := priv, pub := pub }.setupECDH.2 = a.setupECDH.2) := by
  unfold setupECDH
  dsimp only
  by_cases short : (P.readFull a.rng scalarLen).1.length < scalarLen
  · rw [if_pos short, if_pos short]
    exact ⟨rfl, rfl, nofun⟩
  · rw [if_neg short, if_neg short, Block.copy_covers priv a.priv _ (Nat.not_lt.mp short)]
    cases derived : P.x25519 (a.priv.copy (P.readFull a.rng scalarLen).1) P.basepoint with
    | none => exact ⟨rfl, rfl, nofun⟩
    | some bytes =>
      by_cases length : bytes.length ≠ pointLen
      · dsimp only
        rw [if_pos length, if_pos length]
        exact ⟨rfl, rfl, nofun⟩
      · dsimp only
        rw [if_neg length, if_neg length, Block.copy_covers pub a.pub bytes (Nat.le_of_eq (not_not.mp length).symm)]
        exact ⟨rfl, rfl, fun _ => rfl⟩

theorem setupCPACE_blind (a : InteractiveAuthenticator P) (scalar : Option P.Scalar) (element point : Option P.Element)
    (share : Block 32) :
    { a with
        cpaceScalar := scalar, cpaceGenerator := element, cpaceLocal := point, cpaceShare := share }.setupCPACE.1 =
        a.setupCPACE.1 ∧
      { a with
        cpaceScalar := scalar, cpaceGenerator := element, cpaceLocal := point, cpaceShare := share }.setupCPACE.2.rng =
        a.setupCPACE.2.rng ∧
      (a.setupCPACE.1 = .ok () →
        { a with
          cpaceScalar := scalar, cpaceGenerator := element, cpaceLocal := point, cpaceShare := share }.setupCPACE.2 =
          a.setupCPACE.2) := by
  have same : ∀ scalar element point share, { a with
      cpaceScalar := scalar, cpaceGenerator := element, cpaceLocal := point
      cpaceShare := share }.orderedFingerprints = a.orderedFingerprints := fun _ _ _ _ => rfl
  unfold setupCPACE
  dsimp only
  rw [same]
  generalize P.hashToElement (generatorInput a.pairingSecret a.material.sessionID a.orderedFingerprints.1
    a.orderedFingerprints.2) cpaceGeneratorDST = g
  by_cases identity : P.isIdentity g = true
  · rw [if_pos identity, if_pos identity]
    exact ⟨rfl, rfl, nofun⟩
  · rw [if_neg identity, if_neg identity]
    by_cases null : P.isIdentity (P.mul g (P.randomNonZeroScalar a.rng).1) = true
    · rw [if_pos null, if_pos null]
      exact ⟨rfl, rfl, nofun⟩
    · rw [if_neg null, if_neg null]
      cases marshalled : P.marshalBinary (P.mul g (P.randomNonZeroScalar a.rng).1) with
      | none => exact ⟨rfl, rfl, nofun⟩
      | some bytes =>
        by_cases length : bytes.length ≠ pointLen
        · dsimp only
          rw [if_pos length, if_pos length]
          exact ⟨rfl, rfl, nofun⟩
        · dsimp only
          rw [if_neg length, if_neg length,
            Block.copy_covers share a.cpaceShare bytes (Nat.le_of_eq (not_not.mp length).symm)]
          exact ⟨rfl, rfl, fun _ => rfl⟩

theorem observable_bound (a : InteractiveAuthenticator P) (set : a.bound = true) : a.observable = a := by
  rw [observable, if_pos set]

theorem observable_ecdh (a : InteractiveAuthenticator P) (unset : a.bound = false)
    (scheme : a.scheme = .transitionalV2) :
    a.observable =
      { a with material := ⟨[], .unknown [], [], []⟩, initiator := false, priv := .zero 32, pub := .zero 32 } := by
  unfold observable
  rw [if_neg (by simp [unset])]
  split
  · rfl
  · rename_i other
    cases scheme.symm.trans other

theorem observable_cpace (a : InteractiveAuthenticator P) (unset : a.bound = false) (scheme : a.scheme = .cpaceV2) :
    a.observable =
      { a with
        material := ⟨[], .unknown [], [], []⟩, initiator := false
        cpaceScalar := none, cpaceGenerator := none, cpaceLocal := none, cpaceShare := .zero 32 } := by
  unfold observable
  rw [if_neg (by simp [unset])]
  split
  · rename_i other
    cases scheme.symm.trans other
  · rfl

theorem observable_kept (a : InteractiveAuthenticator P) :
    a.observable.bound = a.bound ∧ a.observable.scheme = a.scheme ∧ a.observable.state = a.state := by
  unfold observable
  split
  · exact ⟨rfl, rfl, rfl⟩
  · split <;> exact ⟨rfl, rfl, rfl⟩

theorem setup_observable (a b : InteractiveAuthenticator P) (material : SessionBindingMaterial)
    (unset : a.bound = false) (same : a.observable = b.observable) :
    (b.withMaterial material).setup.1 = (a.withMaterial material).setup.1 ∧
      (b.withMaterial material).setup.2.observable = (a.withMaterial material).setup.2.observable ∧
      ((a.withMaterial material).setup.1 = .ok () →
        (b.withMaterial material).setup.2 = (a.withMaterial material).setup.2) := by
  have keptA := observable_kept a
  have keptB := observable_kept b
  rw [← same] at keptB
  have unsetB : b.bound = false := keptB.1.symm.trans (keptA.1.trans unset)
  have pinned : b.scheme = a.scheme := keptB.2.1.symm.trans keptA.2.1
  have unbound : (a.withMaterial material).setup.2.bound = false := (setup_kept _).bound.trans unset
  have unboundB : (b.withMaterial material).setup.2.bound = false := (setup_kept _).bound.trans unsetB
  have schemeA : (a.withMaterial material).setup.2.scheme = a.scheme := (setup_kept _).scheme
  have schemeB : (b.withMaterial material).setup.2.scheme = b.scheme := (setup_kept _).scheme
  cases scheme : a.scheme with
  | transitionalV2 =>
    have looks := same
    rw [observable_ecdh a unset scheme, observable_ecdh b unsetB (pinned.trans scheme)] at looks
    have rest : b.withMaterial material = { a.withMaterial material with priv := b.priv, pub := b.pub } :=
      (congrArg (fun x : InteractiveAuthenticator P => { x.withMaterial material with priv := b.priv, pub := b.pub })
        looks).symm
    obtain ⟨result, rng, full⟩ := setupECDH_blind (a.withMaterial material) b.priv b.pub
    rw [← rest] at result rng full
    have setupA : (a.withMaterial material).setup = (a.withMaterial material).setupECDH := by
      have here : (a.withMaterial material).scheme = .transitionalV2 := scheme
      rw [setup, here]
    have setupB : (b.withMaterial material).setup = (b.withMaterial material).setupECDH := by
      have here : (b.withMaterial material).scheme = .transitionalV2 := pinned.trans scheme
      rw [setup, here]
    refine ⟨by rw [setupA, setupB]; exact result, ?_, by rw [setupA, setupB]; exact full⟩
    rw [observable_ecdh _ unbound (schemeA.trans scheme), observable_ecdh _ unboundB (schemeB.trans (pinned.trans scheme))]
    obtain ⟨priv, pub, reader, written⟩ := (setup_writes (a.withMaterial material)).1 scheme
    obtain ⟨privB, pubB, readerB, writtenB⟩ := (setup_writes (b.withMaterial material)).1 (pinned.trans scheme)
    rw [← setupA, ← setupB, written, writtenB] at rng
    rw [written, writtenB]
    simp only at rng
    rw [rng, rest]
  | cpaceV2 =>
    have looks := same
    rw [observable_cpace a unset scheme, observable_cpace b unsetB (pinned.trans scheme)] at looks
    have rest : b.withMaterial material = { a.withMaterial material with
        cpaceScalar := b.cpaceScalar, cpaceGenerator := b.cpaceGenerator, cpaceLocal := b.cpaceLocal
        cpaceShare := b.cpaceShare } :=
      (congrArg (fun x : InteractiveAuthenticator P => { x.withMaterial material with
        cpaceScalar := b.cpaceScalar, cpaceGenerator := b.cpaceGenerator, cpaceLocal := b.cpaceLocal
        cpaceShare := b.cpaceShare }) looks).symm
    obtain ⟨result, rng, full⟩ := setupCPACE_blind (a.withMaterial material) b.cpaceScalar b.cpaceGenerator b.cpaceLocal
      b.cpaceShare
    rw [← rest] at result rng full
    have setupA : (a.withMaterial material).setup = (a.withMaterial material).setupCPACE := by
      have here : (a.withMaterial material).scheme = .cpaceV2 := scheme
      rw [setup, here]
    have setupB : (b.withMaterial material).setup = (b.withMaterial material).setupCPACE := by
      have here : (b.withMaterial material).scheme = .cpaceV2 := pinned.trans scheme
      rw [setup, here]
    refine ⟨by rw [setupA, setupB]; exact result, ?_, by rw [setupA, setupB]; exact full⟩
    rw [observable_cpace _ unbound (schemeA.trans scheme),
      observable_cpace _ unboundB (schemeB.trans (pinned.trans scheme))]
    obtain ⟨_, _, _, _, reader, written⟩ := (setup_writes (a.withMaterial material)).2 scheme
    obtain ⟨_, _, _, _, readerB, writtenB⟩ := (setup_writes (b.withMaterial material)).2 (pinned.trans scheme)
    rw [← setupA, ← setupB, written, writtenB] at rng
    rw [written, writtenB]
    simp only at rng
    rw [rng, rest]

theorem observable_call (a b : InteractiveAuthenticator P) (same : a.observable = b.observable) (c : Call) :
    (b.call c).1 = (a.call c).1 ∧ (b.call c).2.observable = (a.call c).2.observable := by
  have keptA := observable_kept a
  have keptB := observable_kept b
  rw [← same] at keptB
  have flags : b.bound = a.bound := keptB.1.symm.trans keptA.1
  have states : b.state = a.state := keptB.2.2.symm.trans keptA.2.2
  cases set : a.bound with
  | true =>
    rw [observable_bound a set, observable_bound b (flags.trans set)] at same
    rw [same]
    exact ⟨rfl, rfl⟩
  | false =>
    have unsetB : b.bound = false := flags.trans set
    cases c with
    | start => simp only [call, start, set, unsetB, Bool.not_false, if_true, same, and_self]
    | step m => simp only [call, step, set, unsetB, Bool.not_false, if_true, same, and_self]
    | bind material =>
      obtain ⟨result, looks, full⟩ := setup_observable a b material set same
      simp only [call, bind, states]
      split
      · exact ⟨rfl, same.symm⟩
      split
      · exact ⟨rfl, same.symm⟩
      rcases setupA : (a.withMaterial material).setup with ⟨r, x⟩
      rcases setupB : (b.withMaterial material).setup with ⟨r', y⟩
      rw [setupA, setupB] at result looks full
      obtain rfl : r' = r := result
      cases r' with
      | error e => exact ⟨rfl, looks⟩
      | ok u =>
        obtain rfl : y = x := full rfl
        exact ⟨rfl, rfl⟩

theorem observable_run (a b : InteractiveAuthenticator P) (same : a.observable = b.observable) (calls : List Call) :
    (b.run calls).1 = (a.run calls).1 := by
  induction calls generalizing a b with
  | nil => rfl
  | cons c calls ih =>
    obtain ⟨reply, looks⟩ := observable_call a b same c
    simp only [run, reply, ih _ _ looks.symm]

/-- The branch that goes wrong is not taken: on a bound authenticator, what passes the checks of `Bind` is set up. -/
def Rebindable (a : InteractiveAuthenticator P) : Call → Prop
  | .bind material => a.bound = true → a.state = .init → validateMaterial material = .ok () →
      (a.withMaterial material).Supplied
  | _ => True

theorem bind_unchanged (a b : InteractiveAuthenticator P) (material : SessionBindingMaterial) (e : AuthError)
    (safe : a.Rebindable (.bind material)) (failed : a.bind material = (.error e, b)) : Unchanged a b := by
  cases bind_spec a b material _ failed with
  | refused e => exact unchanged_self a
  | broken e b fresh valid setup =>
    cases set : a.bound with
    | true =>
      have supplied := (setup_ok_iff _).mpr (safe set fresh valid)
      rw [setup] at supplied
      cases supplied
    | false =>
      have kept := setup_unchanged a material set
      rwa [setup] at kept

theorem bind_consistent (a b : InteractiveAuthenticator P) (material : SessionBindingMaterial)
    (ok : a.bind material = (.ok (), b)) : b.Consistent := by
  cases bind_spec a b material _ ok with
  | bound c fresh valid setup =>
    have kept : SetupKept (a.withMaterial material) c := by
      have all := setup_kept (a.withMaterial material)
      rwa [setup] at all
    have same : (a.withMaterial material).generator = c.generator := by
      simp only [generator, orderedFingerprints, kept.pairingSecret, kept.material, kept.initiator]
    refine ⟨fun _ => ?_, fun _ => ?_⟩
    · simp only [kept.initiator, kept.material]
      rfl
    · have pinned := kept.scheme
      unfold InteractiveAuthenticator.setup at setup
      unfold ShareDerived
      cases scheme : (a.withMaterial material).scheme with
      | transitionalV2 =>
        rw [scheme] at setup pinned
        simp only [pinned]
        exact setupECDH_ok _ c setup
      | cpaceV2 =>
        rw [scheme] at setup pinned
        simp only [pinned]
        obtain ⟨g, _, hashed, _, rfl, _, share, scalar, stored⟩ := setupCPACE_ok _ c setup
        obtain rfl : g = c.generator := hashed.trans same
        exact ⟨_, scalar, stored, share⟩

structure KeysKept (a b : InteractiveAuthenticator P) : Prop where
  pairingSecret : b.pairingSecret = a.pairingSecret
  scheme : b.scheme = a.scheme
  bound : b.bound = a.bound
  initiator : b.initiator = a.initiator
  material : b.material = a.material
  priv : b.priv = a.priv
  pub : b.pub = a.pub
  cpaceScalar : b.cpaceScalar = a.cpaceScalar
  cpaceGenerator : b.cpaceGenerator = a.cpaceGenerator
  cpaceShare : b.cpaceShare = a.cpaceShare

theorem KeysKept.consistent {a b : InteractiveAuthenticator P} (kept : KeysKept a b) (consistent : a.Consistent) :
    b.Consistent := by
  have same : b.generator = a.generator := by
    simp only [generator, orderedFingerprints, kept.pairingSecret, kept.material, kept.initiator]
  refine ⟨fun set => ?_, fun set => ?_⟩
  · rw [kept.initiator, kept.material]
    exact consistent.role (kept.bound.symm.trans set)
  · have share := consistent.share (kept.bound.symm.trans set)
    unfold ShareDerived at share ⊢
    rw [kept.scheme, kept.priv, kept.pub, kept.cpaceScalar, kept.cpaceGenerator, kept.cpaceShare, same]
    exact share

theorem KeysKept.self (a : InteractiveAuthenticator P) : KeysKept a a :=
  ⟨rfl, rfl, rfl, rfl, rfl, rfl, rfl, rfl, rfl, rfl⟩

theorem KeysKept.trans {a b c : InteractiveAuthenticator P} (first : KeysKept a b) (second : KeysKept b c) :
    KeysKept a c where
  pairingSecret := second.pairingSecret.trans first.pairingSecret
  scheme := second.scheme.trans first.scheme
  bound := second.bound.trans first.bound
  initiator := second.initiator.trans first.initiator
  material := second.material.trans first.material
  priv := second.priv.trans first.priv
  pub := second.pub.trans first.pub
  cpaceScalar := second.cpaceScalar.trans first.cpaceScalar
  cpaceGenerator := second.cpaceGenerator.trans first.cpaceGenerator
  cpaceShare := second.cpaceShare.trans first.cpaceShare

theorem KeysKept.withState (a : InteractiveAuthenticator P) (state : AuthState) : KeysKept a { a with state := state } :=
  ⟨rfl, rfl, rfl, rfl, rfl, rfl, rfl, rfl, rfl, rfl⟩

theorem KeysKept.fail (a : InteractiveAuthenticator P) : KeysKept a a.fail := .withState a .failed

theorem consumePeerShare_keysKept (a : InteractiveAuthenticator P) (encoded : Bytes) :
    KeysKept a (a.consumePeerShare encoded).2 := by
  obtain refused | ⟨raw, _, _, _, consumed⟩ := consumePeerShare_cases a encoded
  · rw [refused]
    exact .self a
  · rw [consumed]
    exact ⟨rfl, rfl, rfl, rfl, rfl, rfl, rfl, rfl, rfl, rfl⟩

theorem computeTranscriptAndKeys_keysKept (a : InteractiveAuthenticator P) :
    KeysKept a a.computeTranscriptAndKeys.2 := by
  unfold computeTranscriptAndKeys
  split
  · exact .self a
  · split
    · exact .self a
    · exact ⟨rfl, rfl, rfl, rfl, rfl, rfl, rfl, rfl, rfl, rfl⟩

theorem stepResponder_keysKept (a : InteractiveAuthenticator P) (m : Message) : KeysKept a (a.stepResponder m).2 := by
  have consumed := consumePeerShare_keysKept a m.share
  unfold stepResponder
  split
  · split
    · exact .fail a
    split
    · exact .fail a
    split
    · rename_i e b taken
      rw [taken] at consumed
      exact consumed.trans (.fail b)
    · rename_i b taken
      rw [taken] at consumed
      have computed := computeTranscriptAndKeys_keysKept b
      split
      · rename_i e c derived
        rw [derived] at computed
        exact (consumed.trans computed).trans (.fail c)
      · rename_i c derived
        rw [derived] at computed
        exact (consumed.trans computed).trans (.withState c _)
  · split
    · exact .fail a
    · split
      · exact .fail a
      · exact .withState a _
  · exact .fail a

theorem stepInitiator_keysKept (a : InteractiveAuthenticator P) (m : Message) : KeysKept a (a.stepInitiator m).2 := by
  have consumed := consumePeerShare_keysKept a m.share
  unfold stepInitiator
  split
  · exact .fail a
  split
  · exact .fail a
  split
  · rename_i e b taken
    rw [taken] at consumed
    exact consumed.trans (.fail b)
  · rename_i b taken
    rw [taken] at consumed
    have computed := computeTranscriptAndKeys_keysKept b
    split
    · rename_i e c derived
      rw [derived] at computed
      exact (consumed.trans computed).trans (.fail c)
    · rename_i c derived
      rw [derived] at computed
      split
      · exact (consumed.trans computed).trans (.fail c)
      · exact (consumed.trans computed).trans (.withState c _)

theorem step_keysKept (a : InteractiveAuthenticator P) (m : Message) : KeysKept a (a.step m).2 := by
  unfold step
  split
  · exact .self a
  split
  · exact .self a
  split
  · exact .fail a
  split
  · exact stepInitiator_keysKept a m
  · exact stepResponder_keysKept a m

theorem call_consistent (a : InteractiveAuthenticator P) (c : Call) (safe : a.Rebindable c) (consistent : a.Consistent) :
    (a.call c).2.Consistent := by
  cases c with
  | bind material =>
    simp only [call]
    rcases called : a.bind material with ⟨r, b⟩
    cases bind_spec a b material r called with
    | refused e => exact consistent
    | bound c fresh valid setup => exact bind_consistent a _ material called
    | broken e b fresh valid setup =>
      have kept := (setup_kept (a.withMaterial material)).bound
      rw [setup] at kept
      cases set : a.bound with
      | true =>
        have supplied := (setup_ok_iff _).mpr (safe set fresh valid)
        rw [setup] at supplied
        cases supplied
      | false =>
        have unset : b.bound = false := kept.trans set
        refine ⟨fun bound => ?_, fun bound => ?_⟩
        · rw [unset] at bound
          cases bound
        · rw [unset] at bound
          cases bound
  | start =>
    obtain ⟨e, refused, _⟩ | ⟨_, _, _, started⟩ := start_spec a
    · simp only [call, refused]
      exact consistent
    · simp only [call, started]
      exact (KeysKept.withState a _).consistent consistent
  | step m => exact (step_keysKept a m).consistent consistent

def RebindableRun (a : InteractiveAuthenticator P) (calls : List Call) : Prop :=
  ∀ taken c rest, calls = taken ++ c :: rest → (a.run taken).2.Rebindable c

theorem run_consistent (a : InteractiveAuthenticator P) (taken : List Call) (safe : a.RebindableRun taken)
    (consistent : a.Consistent) : (a.run taken).2.Consistent := by
  induction taken generalizing a with
  | nil => exact consistent
  | cons c calls ih =>
    have first : a.Rebindable c := safe [] c calls rfl
    refine ih _ ?_ (call_consistent a c first consistent)
    intro before d rest split
    exact safe (c :: before) d rest (by rw [split]; rfl)

/-- In a run that no setup failure on a bound authenticator disturbs, `Bind` is atomic. -/
theorem bind_atomic (secret scheme : Bytes) (rng : P.Reader) (a : InteractiveAuthenticator P)
    (created : newInteractiveAuthenticator secret scheme rng = .ok a) (calls : List Call) (safe : a.RebindableRun calls) :
    (∀ taken material rest e after, calls = taken ++ .bind material :: rest →
      (a.run taken).2.bind material = (.error e, after) → Unchanged (a.run taken).2 after) ∧
      ∀ taken rest, calls = taken ++ rest → (a.run taken).2.Consistent := by
  obtain ⟨_, _, _, unbound, _⟩ := newInteractiveAuthenticator_fresh secret scheme rng a created
  have fresh : a.Consistent := by
    refine ⟨fun set => ?_, fun set => ?_⟩
    · rw [unbound] at set
      cases set
    · rw [unbound] at set
      cases set
  constructor
  · intro taken material rest e after split failed
    exact bind_unchanged _ after material e (safe taken (.bind material) rest split) failed
  · intro taken rest split
    refine run_consistent a taken ?_ fresh
    intro before c more splitTaken
    exact safe before c (more ++ rest) (by rw [split, splitTaken, List.append_assoc]; rfl)

def blankSession : SessionBindingMaterial := { vectorMaterialR with sessionID := text " " }

theorem bind_atomic_refused :
    newInteractiveAuthenticator vectorSecret Scheme.transitionalV2.name initiatorKey.val =
        .ok (vectorFresh initiatorKey.val) ∧
      vectorI.bind blankSession = (.error .sessionIDRequired, vectorI) ∧ Unchanged vectorI vectorI ∧
      vectorI.Consistent := by
  have created : newInteractiveAuthenticator vectorSecret Scheme.transitionalV2.name initiatorKey.val =
      .ok (vectorFresh initiatorKey.val) := rfl
  have refused : vectorI.bind blankSession = (.error .sessionIDRequired, vectorI) := rfl
  have safe : (vectorFresh initiatorKey.val).RebindableRun [.bind vectorMaterialI, .bind blankSession] := by
    intro taken c rest split
    match taken, split with
    | [], split =>
      cases split
      exact nofun
    | [_], split =>
      cases split
      exact nofun
    | _ :: _ :: _, split => simp at split
  obtain ⟨atomic, consistent⟩ := bind_atomic vectorSecret Scheme.transitionalV2.name initiatorKey.val _ created _ safe
  exact ⟨created, refused, atomic [.bind vectorMaterialI] blankSession [] .sessionIDRequired vectorI rfl refused,
    consistent [.bind vectorMaterialI] [.bind blankSession] rfl⟩

/-- The random source runs dry in a second `Bind`: the role is the new one, the public key the old one, and the
    private key is neither. -/
theorem failing_bind_overwrites :
    let created := vectorFresh (initiatorKey.val ++ [7])
    let before := (created.bind vectorMaterialI).2
    let after := (before.bind vectorMaterialR).2
    newInteractiveAuthenticator vectorSecret Scheme.transitionalV2.name (initiatorKey.val ++ [7]) = .ok created ∧
      (created.bind vectorMaterialI).1 = .ok () ∧ (before.bind vectorMaterialR).1 = .error .generateEphemeralKey ∧
      before.bound = true ∧ before.initiator = true ∧ after.initiator = false ∧ after.pub = before.pub ∧
      after.priv.val = 7 :: List.replicate 31 1 ∧ before.priv.val = List.replicate 32 1 ∧
      ¬Unchanged before after := by
  intro created before after
  have bound : before.bound = true := rfl
  have role : before.initiator = true := rfl
  refine ⟨rfl, rfl, rfl, bound, role, rfl, rfl, rfl, rfl, ?_⟩
  intro same
  have stillBound : after.bound = true := rfl
  unfold Unchanged at same
  rw [observable_bound before bound, observable_bound after stillBound] at same
  have roles := congrArg InteractiveAuthenticator.initiator same
  rw [role] at roles
  cases roles

end Rtc2Tcp.Auth.InteractiveAuthenticator

import Rtc2Tcp.Go.Base64
import Rtc2Tcp.Go.Strings

namespace Rtc2Tcp.Config

open Octets Go

def envRendezvousToken : Bytes := text "RTC2TCP_RENDEZVOUS_TOKEN"
def envPairingSecret : Bytes := text "RTC2TCP_PAIRING_SECRET"
def envPairingSecretFile : Bytes := text "RTC2TCP_PAIRING_SECRET_FILE"

/-- What `rand.Read` fills `RandomToken`'s buffer with. -/
abbrev TokenBuf := { bytes : Bytes // bytes.length = 16 }

def randomToken (draw : TokenBuf) : Bytes := RawURLEncoding.encodeToString draw.1

/-- The environment of the process, its files, and the two draws it may make. -/
structure Environment where
  getenv : Bytes → Bytes
  readFile : Bytes → Option Bytes
  tokenDraw : Option TokenBuf
  secretDraw : Option TokenBuf

inductive FileError where
  | read
  | empty
deriving DecidableEq, Repr

inductive SecretError where
  | multipleExplicit
  | multipleEnvironment
  | load (origin : Bytes) (e : FileError)
deriving DecidableEq, Repr

def resolveRendezvousTokenOptional (env : Environment) (flagValue : Bytes) : Bytes :=
  if trimSpace flagValue ≠ [] then trimSpace flagValue else trimSpace (env.getenv envRendezvousToken)

def countNonEmpty (values : List Bytes) : Nat := values.countP fun value => trimSpace value ≠ []

def readSecretFile (env : Environment) (path : Bytes) : Except FileError Bytes :=
  match env.readFile (trimSpace path) with
  | none => .error .read
  | some data => if trimSpace data = [] then .error .empty else .ok (trimSpace data)

structure SecretSource where
  value : Bytes
  path : Bytes
  origin : Bytes
deriving DecidableEq, Repr

/-- The loop of `ResolvePairingSecretOptional`. -/
def firstSecret (env : Environment) : List SecretSource → Except SecretError Bytes
  | [] => .ok []
  | source :: rest =>
    if trimSpace source.path ≠ [] then (readSecretFile env source.path).mapError (.load source.origin)
    else if trimSpace source.value ≠ [] then .ok (trimSpace source.value)
    else firstSecret env rest

def resolvePairingSecretOptional (env : Environment)
    (pairingSecret pairingSecretFile legacySecret legacySecretFile : Bytes) : Except SecretError Bytes :=
  let explicitSources := countNonEmpty [pairingSecret, pairingSecretFile, legacySecret, legacySecretFile]
  if 1 < explicitSources then .error .multipleExplicit
  else
    let envSecret := trimSpace (env.getenv envPairingSecret)
    let envSecretFile := trimSpace (env.getenv envPairingSecretFile)
    if explicitSources = 0 ∧ 1 < countNonEmpty [envSecret, envSecretFile] then .error .multipleEnvironment
    else firstSecret env
      [⟨[], pairingSecretFile, text "--pairing-secret-file"⟩, ⟨pairingSecret, [], text "--pairing-secret"⟩,
        ⟨[], legacySecretFile, text "--secret-file"⟩, ⟨legacySecret, [], text "--secret"⟩,
        ⟨[], envSecretFile, envPairingSecretFile⟩, ⟨envSecret, [], envPairingSecret⟩]

def environmentSecret (env : Environment) : Bytes :=
  if trimSpace (env.getenv envPairingSecretFile) = [] then env.getenv envPairingSecret
  else (env.readFile (trimSpace (env.getenv envPairingSecretFile))).getD []

theorem readSecretFile_ok {env : Environment} {path secret : Bytes} (read : readSecretFile env path = .ok secret) :
    ∃ data, env.readFile (trimSpace path) = some data ∧ trimSpace data ≠ [] ∧ secret = trimSpace data := by
  unfold readSecretFile at read
  split at read
  · cases read
  · rename_i data found
    split at read
    · cases read
    · rename_i nonblank
      exact ⟨data, found, nonblank, (Except.ok.inj read).symm⟩

theorem mapError_ok {ε ε' α : Type} {r : Except ε α} {f : ε → ε'} {a : α} (mapped : r.mapError f = .ok a) :
    r = .ok a := by
  cases r with
  | error e => cases mapped
  | ok b => exact congrArg Except.ok (Except.ok.inj mapped)

theorem firstSecret_path {env : Environment} {path origin secret : Bytes} {rest : List SecretSource}
    (found : firstSecret env (⟨[], path, origin⟩ :: rest) = .ok secret) :
    (trimSpace path ≠ [] ∧ readSecretFile env path = .ok secret) ∨
      (trimSpace path = [] ∧ firstSecret env rest = .ok secret) := by
  unfold firstSecret at found
  split at found
  · rename_i given
    exact Or.inl ⟨given, mapError_ok found⟩
  · rename_i blank
    exact Or.inr ⟨not_not.mp blank, found⟩

theorem firstSecret_value {env : Environment} {value origin secret : Bytes} {rest : List SecretSource}
    (found : firstSecret env (⟨value, [], origin⟩ :: rest) = .ok secret) :
    (trimSpace value ≠ [] ∧ secret = trimSpace value) ∨ (trimSpace value = [] ∧ firstSecret env rest = .ok secret) := by
  have noPath : ¬trimSpace ([] : Bytes) ≠ [] := not_not.mpr rfl
  unfold firstSecret at found
  rw [if_neg noPath] at found
  split at found
  · rename_i given
    exact Or.inl ⟨given, (Except.ok.inj found).symm⟩
  · rename_i blank
    exact Or.inr ⟨not_not.mp blank, found⟩

theorem firstSecret_environment {env : Environment} {secret : Bytes}
    (found : firstSecret env [⟨[], trimSpace (env.getenv envPairingSecretFile), envPairingSecretFile⟩,
      ⟨trimSpace (env.getenv envPairingSecret), [], envPairingSecret⟩] = .ok secret) :
    secret = trimSpace (environmentSecret env) := by
  unfold environmentSecret
  rcases firstSecret_path found with ⟨given, read⟩ | ⟨blank, later⟩
  · rw [trimSpace_idem] at given
    obtain ⟨data, file, _, content⟩ := readSecretFile_ok read
    rw [trimSpace_idem] at file
    rw [if_neg given, file]
    exact content
  · rw [trimSpace_idem] at blank
    rw [if_pos blank]
    rcases firstSecret_value later with ⟨_, same⟩ | ⟨absent, none⟩
    · rw [same, trimSpace_idem]
    · rw [trimSpace_idem] at absent
      rw [absent]
      exact (Except.ok.inj none).symm

theorem pairwise_of_countNonEmpty {values : List Bytes} (few : countNonEmpty values ≤ 1) :
    values.Pairwise fun a b => trimSpace a = [] ∨ trimSpace b = [] := by
  induction values with
  | nil => exact List.Pairwise.nil
  | cons value rest ih =>
    unfold countNonEmpty at few ih
    rw [List.countP_cons] at few
    refine List.Pairwise.cons ?_ (ih (by omega))
    intro other member
    by_cases blank : trimSpace value = []
    · exact Or.inl blank
    · have none : rest.countP (fun value => decide (trimSpace value ≠ [])) = 0 := by
        rw [if_pos (decide_eq_true blank)] at few
        omega
      have absent := List.countP_eq_zero.mp none other member
      exact Or.inr (by simpa using absent)

theorem resolvePairingSecretOptional_ok {env : Environment} {value file legacy legacyFile secret : Bytes}
    (resolved : resolvePairingSecretOptional env value file legacy legacyFile = .ok secret) :
    countNonEmpty [value, file, legacy, legacyFile] ≤ 1 ∧
      ((trimSpace file ≠ [] ∧ readSecretFile env file = .ok secret) ∨
        (trimSpace value ≠ [] ∧ secret = trimSpace value) ∨
        (trimSpace legacyFile ≠ [] ∧ readSecretFile env legacyFile = .ok secret) ∨
        (trimSpace legacy ≠ [] ∧ secret = trimSpace legacy) ∨
        ((∀ v ∈ [value, file, legacy, legacyFile], trimSpace v = []) ∧ secret = trimSpace (environmentSecret env))) := by
  unfold resolvePairingSecretOptional at resolved
  dsimp only at resolved
  split at resolved
  · cases resolved
  rename_i few
  refine ⟨Nat.not_lt.mp few, ?_⟩
  split at resolved
  · cases resolved
  rcases firstSecret_path resolved with here | ⟨noFile, resolved⟩
  · exact Or.inl here
  rcases firstSecret_value resolved with here | ⟨noValue, resolved⟩
  · exact Or.inr (Or.inl here)
  rcases firstSecret_path resolved with here | ⟨noLegacyFile, resolved⟩
  · exact Or.inr (Or.inr (Or.inl here))
  rcases firstSecret_value resolved with here | ⟨noLegacy, resolved⟩
  · exact Or.inr (Or.inr (Or.inr (Or.inl here)))
  · refine Or.inr (Or.inr (Or.inr (Or.inr ⟨?_, firstSecret_environment resolved⟩)))
    simp only [List.forall_mem_cons, noValue, noFile, noLegacy, noLegacyFile, true_and]
    exact List.forall_mem_nil _

end Rtc2Tcp.Config

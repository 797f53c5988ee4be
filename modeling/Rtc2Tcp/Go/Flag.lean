import Mathlib.Logic.Function.Basic
import Rtc2Tcp.Go.Strings

namespace Rtc2Tcp.Go

open Octets

inductive FlagError where
  | badSyntax (arg : Bytes)
  | help
  | undefined (name : Bytes)
  | needsArgument (name : Bytes)
  | invalidBool (value name : Bytes)
deriving DecidableEq, Repr

def parseBool (s : Bytes) : Option Bool :=
  if s ∈ [text "1", text "t", text "T", text "TRUE", text "true", text "True"] then some true
  else if s ∈ [text "0", text "f", text "F", text "FALSE", text "false", text "False"] then some false
  else none

inductive FlagWord where
  | flag (name : Bytes) (value : Option Bytes)
  | terminator
  | positional
  | bad
deriving DecidableEq, Repr

/-- The name of a flag ends at the first `=` behind its first byte. -/
def readName : Bytes → FlagWord
  | [] => .bad
  | first :: rest =>
    if first = 0x2d ∨ first = 0x3d then .bad
    else
      let name := first :: rest.takeWhile (· ≠ 0x3d)
      match rest.dropWhile (· ≠ 0x3d) with
      | [] => .flag name none
      | _ :: value => .flag name (some value)

def readFlag : Bytes → FlagWord
  | 0x2d :: 0x2d :: [] => .terminator
  | 0x2d :: 0x2d :: name => readName name
  | 0x2d :: second :: rest => readName (second :: rest)
  | _ => .positional

inductive FlagSetting (ν μ : Type) where
  | string (target : ν) (value : Bytes)
  | bool (target : μ) (value : Bool)
deriving DecidableEq, Repr

section Parse

variable {ν μ : Type} (formal : Bytes → Option (ν ⊕ μ))

/-- What `FlagSet.Parse` sets, in order; the flags end at the first argument that is none, or after `--`. -/
def flagSettings : List Bytes → Except FlagError (List (FlagSetting ν μ))
  | [] => .ok []
  | arg :: rest =>
    match readFlag arg with
    | .terminator => .ok []
    | .positional => .ok []
    | .bad => .error (.badSyntax arg)
    | .flag name value =>
      match formal name with
      | none => if name = text "help" ∨ name = text "h" then .error .help else .error (.undefined name)
      | some (.inr target) =>
        match value with
        | none => (flagSettings rest).map (.bool target true :: ·)
        | some value =>
          match parseBool value with
          | none => .error (.invalidBool value name)
          | some yes => (flagSettings rest).map (.bool target yes :: ·)
      | some (.inl target) =>
        match value, rest with
        | some value, rest => (flagSettings rest).map (.string target value :: ·)
        | none, value :: rest => (flagSettings rest).map (.string target value :: ·)
        | none, [] => .error (.needsArgument name)

end Parse

structure FlagStore (ν μ : Type) where
  strings : ν → Bytes
  bools : μ → Bool

namespace FlagStore

variable {ν μ : Type} [DecidableEq ν] [DecidableEq μ]

def set (store : FlagStore ν μ) : FlagSetting ν μ → FlagStore ν μ
  | .string target value => { store with strings := Function.update store.strings target value }
  | .bool target value => { store with bools := Function.update store.bools target value }

/-- `FlagSet.Parse`, on variables that hold their defaults. -/
def parse (formal : Bytes → Option (ν ⊕ μ)) (store : FlagStore ν μ) (args : List Bytes) :
    Except FlagError (FlagStore ν μ) :=
  (flagSettings formal args).map fun settings => settings.foldl set store

end FlagStore

section Last

variable {ν μ : Type} [DecidableEq ν]

def FlagSetting.override (target : ν) (last : Option Bytes) : FlagSetting ν μ → Option Bytes
  | .string other value => if other = target then some value else last
  | .bool _ _ => last

def lastString (settings : List (FlagSetting ν μ)) (target : ν) : Option Bytes :=
  settings.foldl (FlagSetting.override target) none

theorem strings_foldl [DecidableEq μ] (settings : List (FlagSetting ν μ)) (store : FlagStore ν μ) (target : ν) :
    (settings.foldl FlagStore.set store).strings target = (lastString settings target).getD (store.strings target) := by
  have general : ∀ (last : Option Bytes) (store : FlagStore ν μ) (default : Bytes),
      store.strings target = last.getD default →
      (settings.foldl FlagStore.set store).strings target =
        (settings.foldl (FlagSetting.override target) last).getD default := by
    induction settings with
    | nil => exact fun _ _ _ same => same
    | cons setting settings ih =>
      intro last store default same
      simp only [List.foldl_cons]
      apply ih
      cases setting with
      | bool other value => exact same
      | string other value =>
        by_cases here : other = target
        · subst here
          simp [FlagStore.set, FlagSetting.override]
        · simp only [FlagStore.set, FlagSetting.override, if_neg here]
          rw [Function.update_of_ne (Ne.symm here), same]
  exact general none store _ rfl

end Last

end Rtc2Tcp.Go

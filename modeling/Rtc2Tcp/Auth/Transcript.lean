import Mathlib.Algebra.Group.Nat.Defs
import Rtc2Tcp.Auth.Authenticator

namespace Rtc2Tcp.Auth

open Octets Go

structure TranscriptFields where
  scheme : Bytes
  sessionID : Bytes
  initiatorRole : Bytes
  responderRole : Bytes
  initiatorFingerprint : Bytes
  responderFingerprint : Bytes
  initiatorShare : Bytes
  responderShare : Bytes
deriving DecidableEq, Repr

def TranscriptFields.input (t : TranscriptFields) : Bytes :=
  transcriptInput t.scheme t.sessionID t.initiatorRole t.responderRole t.initiatorFingerprint t.responderFingerprint
    t.initiatorShare t.responderShare

def TranscriptFields.list (t : TranscriptFields) : List Bytes :=
  [t.scheme, t.sessionID, t.initiatorRole, t.responderRole, t.initiatorFingerprint, t.responderFingerprint,
    t.initiatorShare, t.responderShare]

structure GeneratorFields where
  pairingSecret : Bytes
  sessionID : Bytes
  initiatorFingerprint : Bytes
  responderFingerprint : Bytes
deriving DecidableEq, Repr

def GeneratorFields.input (g : GeneratorFields) : Bytes :=
  generatorInput g.pairingSecret g.sessionID g.initiatorFingerprint g.responderFingerprint

def GeneratorFields.list (g : GeneratorFields) : List Bytes :=
  [g.pairingSecret, g.sessionID, g.initiatorFingerprint, g.responderFingerprint]

/-- Fields whose length fits the four bytes before them. -/
def Short (fields : List Bytes) : Prop := ∀ field ∈ fields, field.length < 2 ^ 32

def transcriptLabel : Bytes := text "rtc2tcp-auth/transcript/v2"

theorem TranscriptFields.input_frames (t : TranscriptFields) : t.input = frames (transcriptLabel :: t.list) := by
  simp only [input, transcriptInput, lenPrefixed, transcriptLabel, list, frames_cons]
  rw [frames, List.flatMap_nil, List.append_nil]

theorem GeneratorFields.input_frames (g : GeneratorFields) : g.input = frames g.list := by
  simp only [input, generatorInput, lenPrefixed, list, frames_cons]
  rw [frames, List.flatMap_nil, List.append_nil]

theorem TranscriptFields.list_injective (t u : TranscriptFields) (same : t.list = u.list) : t = u := by
  cases t
  cases u
  simpa [list] using same

theorem GeneratorFields.list_injective (g h : GeneratorFields) (same : g.list = h.list) : g = h := by
  cases g
  cases h
  simpa [list] using same

theorem transcriptLabel_short : transcriptLabel.length < 2 ^ 32 := by decide

theorem TranscriptFields.input_head (t : TranscriptFields) : t.input.head? = some 0 := rfl

theorem pairingSaltInput_head (sessionID : Bytes) : (pairingSaltInput sessionID).head? = some 0x72 := rfl

/-- Transcripts and generator messages determine their fields, and no transcript is a pairing salt. -/
theorem hash_inputs_injective :
    (∀ t u : TranscriptFields, Short t.list → Short u.list → t.input = u.input → t = u) ∧
      (∀ g h : GeneratorFields, Short g.list → Short h.list → g.input = h.input → g = h) ∧
      ∀ (t : TranscriptFields) (sessionID : Bytes), t.input ≠ pairingSaltInput sessionID := by
  refine ⟨?_, ?_, ?_⟩
  · intro t u shortT shortU same
    rw [t.input_frames, u.input_frames] at same
    have all := frames_injective _ _ (List.forall_mem_cons.mpr ⟨transcriptLabel_short, shortT⟩)
      (List.forall_mem_cons.mpr ⟨transcriptLabel_short, shortU⟩) same
    exact t.list_injective u (List.cons.inj all).2
  · intro g h shortG shortH same
    rw [g.input_frames, h.input_frames] at same
    exact g.list_injective h (frames_injective _ _ shortG shortH same)
  · intro t sessionID same
    have heads := congrArg List.head? same
    rw [t.input_head, pairingSaltInput_head] at heads
    cases heads

def boundaryFields (sessionID role : Bytes) : TranscriptFields :=
  ⟨Scheme.cpaceV2.name, sessionID, role, text "expose", text "SHA-256 AA:01", text "SHA-256 BB:02", [1], [2]⟩

theorem hash_inputs_injective_boundary :
    Short (boundaryFields (text "s") (text "connect")).list ∧
      Short (boundaryFields (trimSpace (text " s ")) (text "connect")).list ∧
      boundaryFields (text "s") (text "connect") = boundaryFields (trimSpace (text " s ")) (text "connect") ∧
      (boundaryFields (text "s") (text "connect")).input ≠ pairingSaltInput (text "s") := by
  have shortS : Short (boundaryFields (text "s") (text "connect")).list := by
    unfold Short
    decide +kernel
  have shortT : Short (boundaryFields (trimSpace (text " s ")) (text "connect")).list := by
    unfold Short
    decide +kernel
  obtain ⟨transcripts, _, separated⟩ := hash_inputs_injective
  exact ⟨shortS, shortT, transcripts _ _ shortS shortT (by decide +kernel), separated _ _⟩

example : (boundaryFields (text "sc") (text "onnect")).input ≠ (boundaryFields (text "s") (text "connect")).input := by
  decide +kernel

end Rtc2Tcp.Auth

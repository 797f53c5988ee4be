import Mathlib.Data.List.Basic

namespace Rtc2Tcp.WebRTC

inductive SessionState where
  | init
  | rendezvous
  | signaling
  | authPending
  | authenticated
  | streaming
  | closing
  | closed
  | failed
deriving DecidableEq, Repr

namespace SessionState

/-- `allowedTransitions`; the two final states have no entry. -/
def allowedTransitions : SessionState → List SessionState
  | init => [rendezvous, closing, failed]
  | rendezvous => [signaling, closing, failed]
  | signaling => [authPending, closing, failed]
  | authPending => [authenticated, closing, failed]
  | authenticated => [streaming, closing, failed]
  | streaming => [streaming, closing, failed]
  | closing => [closed, failed]
  | closed => []
  | failed => []

/-- `Transition`; an error leaves the state as it is. -/
def transition (state next : SessionState) : Option SessionState :=
  if state = next ∧ next = streaming then some state
  else if next ∈ state.allowedTransitions then some next
  else none

/-- The session is over, or on its way. -/
def Over (state : SessionState) : Prop := state = failed ∨ state = closing ∨ state = closed

instance (state : SessionState) : Decidable state.Over := inferInstanceAs (Decidable (_ ∨ _ ∨ _))

theorem transition_cases (state next after : SessionState) (ok : state.transition next = some after) :
    after = next ∧ next ∈ state.allowedTransitions := by
  unfold transition at ok
  split at ok
  · rename_i same
    obtain ⟨rfl, rfl⟩ := same
    cases ok
    exact ⟨rfl, by decide⟩
  · split at ok
    · rename_i allowed
      cases ok
      exact ⟨rfl, allowed⟩
    · cases ok

theorem transition_over (state next after : SessionState) (ended : state.Over)
    (ok : state.transition next = some after) : after.Over := by
  obtain ⟨rfl, allowed⟩ := transition_cases state next after ok
  rcases ended with rfl | rfl | rfl
  · cases allowed
  · rcases allowed with _ | ⟨_, _ | ⟨_, ⟨⟩⟩⟩
    · exact .inr (.inr rfl)
    · exact .inl rfl
  · cases allowed

theorem transition_paired (state next after : SessionState) (paired : state ≠ init ∧ state ≠ rendezvous)
    (ok : state.transition next = some after) : after ≠ init ∧ after ≠ rendezvous := by
  obtain ⟨rfl, allowed⟩ := transition_cases state next after ok
  revert paired allowed
  cases state <;> cases after <;> decide

theorem transition_streaming (state after : SessionState) (ok : state.transition streaming = some after) :
    state = authenticated ∨ state = streaming := by
  obtain ⟨_, allowed⟩ := transition_cases state streaming after ok
  revert allowed
  cases state <;> decide

end SessionState

end Rtc2Tcp.WebRTC

import Rtc2Tcp.Lib.Transition
import Rtc2Tcp.Tunnel.Stream

namespace Rtc2Tcp.Tunnel

open Transition

def bufferedAmountHighThreshold : Nat := 1 * 1024 * 1024

def bufferedAmountLowThreshold : Nat := 256 * 1024

/-- Where the reading goroutine stands. `err` says that the last read also returned an error; `checking` and `waiting`
    are the loop that holds it back. -/
inductive ReaderStage where
  | reading
  | sending (n : Nat) (err : Bool)
  | checking (err : Bool)
  | waiting (err : Bool)
  | failing
  | returned
deriving DecidableEq, Repr

def ReaderStage.isWaiting : ReaderStage → Bool
  | waiting _ => true
  | _ => false

def ReaderStage.inLoop : ReaderStage → Bool
  | checking _ => true
  | waiting _ => true
  | _ => false

/-- `drain` says that there is a token in the channel of that name; `due` counts the low callbacks that have fired and
    are still to run. -/
structure Bridge where
  bufferedAmount : Nat
  drain : Bool
  due : Nat
  done : Bool
  reader : ReaderStage
deriving DecidableEq, Repr

/-- The steps of the reading goroutine, up to `closeAll`; then those of the transport, of the callback it fires, and
    `closeAll` from another callback. -/
inductive BridgeAct where
  | read (n : Nat) (err : Bool)
  | send (ok : Bool)
  | check
  | wake
  | quit
  | fail
  | transmit (n : Nat)
  | bufferedAmountLow
  | closeAll
deriving DecidableEq, Repr

def BridgeAct.inLoop : BridgeAct → Prop
  | .check | .wake | .quit => True
  | _ => False

def BridgeAct.isCallback : BridgeAct → Prop
  | .bufferedAmountLow => True
  | _ => False

namespace Bridge

def start (bufferedAmount : Nat) : Bridge := ⟨bufferedAmount, false, 0, false, .reading⟩

def afterChunk (err : Bool) : ReaderStage := if err then .failing else .reading

def step (b : Bridge) : BridgeAct → Option Bridge
  | .read n err =>
    if b.reader = .reading ∧ n ≤ maxChunkSize then
      some { b with reader := if 0 < n then .sending n err else afterChunk err }
    else none
  | .send ok =>
    match b.reader with
    | .sending n err =>
      if ok then some { b with bufferedAmount := b.bufferedAmount + n, reader := .checking err }
      else some { b with reader := .failing }
    | _ => none
  | .check =>
    match b.reader with
    | .checking err =>
      some { b with reader := if bufferedAmountHighThreshold < b.bufferedAmount then .waiting err else afterChunk err }
    | _ => none
  | .wake =>
    match b.reader with
    | .waiting err => if b.drain then some { b with drain := false, reader := .checking err } else none
    | _ => none
  | .quit => if b.reader.isWaiting ∧ b.done then some { b with reader := .returned } else none
  | .fail => if b.reader = .failing then some { b with done := true, reader := .returned } else none
  | .transmit n =>
    -- the callback fires on the way from above the low threshold to at most it
    if n ≤ b.bufferedAmount then
      let left := b.bufferedAmount - n
      if bufferedAmountLowThreshold < b.bufferedAmount ∧ left ≤ bufferedAmountLowThreshold then
        some { b with bufferedAmount := left, due := b.due + 1 }
      else some { b with bufferedAmount := left }
    else none
  | .bufferedAmountLow => if 0 < b.due then some { b with due := b.due - 1, drain := true } else none
  | .closeAll => some { b with done := true }

/-- A reader that waits has something to wait for. -/
def Attended (b : Bridge) : Prop :=
  b.reader.isWaiting = true → b.done = false →
    bufferedAmountLowThreshold < b.bufferedAmount ∨ 0 < b.due ∨ b.drain = true

theorem afterChunk_out (err : Bool) : (afterChunk err).inLoop = false := by
  cases err <;> rfl

theorem attended_of_unwaiting {b : Bridge} (busy : b.reader.isWaiting = false) : b.Attended := by
  intro waits
  rw [busy] at waits
  cases waits

theorem attended_step (b : Bridge) (a : BridgeAct) (c : Bridge) (attended : b.Attended) (stepped : b.step a = some c) :
    c.Attended := by
  cases a with
  | read n err =>
    simp only [step] at stepped
    split at stepped
    · cases stepped
      apply attended_of_unwaiting
      cases err <;> simp only [afterChunk] <;> split <;> rfl
    · cases stepped
  | send ok =>
    simp only [step] at stepped
    split at stepped
    · split at stepped <;> cases stepped <;> exact attended_of_unwaiting rfl
    · cases stepped
  | check =>
    simp only [step] at stepped
    split at stepped
    · rename_i err here
      cases stepped
      by_cases high : bufferedAmountHighThreshold < b.bufferedAmount
      · -- the high threshold is above the low one
        intro _ _
        simp only [bufferedAmountHighThreshold] at high
        simp only [bufferedAmountLowThreshold]
        omega
      · apply attended_of_unwaiting
        cases err <;> simp [high, afterChunk, ReaderStage.isWaiting]
    · cases stepped
  | wake =>
    simp only [step] at stepped
    split at stepped
    · split at stepped
      · cases stepped
        exact attended_of_unwaiting rfl
      · cases stepped
    · cases stepped
  | quit =>
    simp only [step] at stepped
    split at stepped <;> cases stepped
    exact attended_of_unwaiting rfl
  | fail =>
    simp only [step] at stepped
    split at stepped <;> cases stepped
    exact attended_of_unwaiting rfl
  | transmit n =>
    simp only [step] at stepped
    split at stepped
    · split at stepped
      · cases stepped
        exact fun _ _ => .inr (.inl (Nat.succ_pos _))
      · rename_i stays
        cases stepped
        intro waits open_
        rcases attended waits open_ with above | due | token
        · exact .inl (Nat.lt_of_not_le fun low => stays ⟨above, low⟩)
        · exact .inr (.inl due)
        · exact .inr (.inr token)
    · cases stepped
  | bufferedAmountLow =>
    simp only [step] at stepped
    split at stepped <;> cases stepped
    exact fun _ _ => .inr (.inr rfl)
  | closeAll =>
    cases stepped
    intro _ open_
    cases open_

theorem attended_run (queued : Nat) (acts : List BridgeAct) (b : Bridge)
    (ran : run step (start queued) acts = some b) : b.Attended :=
  run_preserves attended_step (start queued) b acts (attended_of_unwaiting rfl) ran

/-- What the others may do to a goroutine in its loop: nobody else sends, takes a token or opens the bridge again. -/
theorem step_outside {b c : Bridge} {a : BridgeAct} (loop : b.reader.inLoop = true) (other : ¬ a.inLoop)
    (stepped : b.step a = some c) : c.reader = b.reader ∧ c.bufferedAmount ≤ b.bufferedAmount ∧
      (b.done = true → c.done = true) ∧ (b.drain = true → c.drain = true) := by
  cases a with
  | read n err =>
    simp only [step] at stepped
    split at stepped
    · rename_i reading
      rw [reading.1] at loop
      cases loop
    · cases stepped
  | send ok =>
    simp only [step] at stepped
    split at stepped
    · rename_i sending
      rw [sending] at loop
      cases loop
    · cases stepped
  | check => exact absurd trivial other
  | wake => exact absurd trivial other
  | quit => exact absurd trivial other
  | fail =>
    simp only [step] at stepped
    split at stepped
    · rename_i failing
      rw [failing] at loop
      cases loop
    · cases stepped
  | transmit n =>
    simp only [step] at stepped
    split at stepped
    · split at stepped <;> cases stepped <;> exact ⟨rfl, Nat.sub_le _ _, id, id⟩
    · cases stepped
  | bufferedAmountLow =>
    simp only [step] at stepped
    split at stepped <;> cases stepped
    exact ⟨rfl, Nat.le_refl _, id, fun _ => rfl⟩
  | closeAll =>
    cases stepped
    exact ⟨rfl, Nat.le_refl _, fun _ => rfl, id⟩

theorem due_kept (b : Bridge) (a : BridgeAct) (c : Bridge) (due : 0 < b.due) (other : ¬ a.isCallback)
    (stepped : b.step a = some c) : 0 < c.due := by
  cases a with
  | bufferedAmountLow => exact absurd trivial other
  | transmit n =>
    simp only [step] at stepped
    split at stepped
    · split at stepped <;> cases stepped
      · exact Nat.succ_pos _
      · exact due
    · cases stepped
  | closeAll =>
    cases stepped
    exact due
  | _ =>
    simp only [step] at stepped
    repeat' split at stepped
    all_goals first | cases stepped; exact due | cases stepped

def Drained (stage : Bool → ReaderStage) (b : Bridge) : Prop :=
  (∃ err, b.reader = stage err) ∧ b.bufferedAmount ≤ bufferedAmountLowThreshold

theorem Drained.outside {stage : Bool → ReaderStage} (loop : ∀ err, (stage err).inLoop = true) (b : Bridge)
    (a : BridgeAct) (c : Bridge) (drained : b.Drained stage) (other : ¬ a.inLoop) (stepped : b.step a = some c) :
    c.Drained stage := by
  obtain ⟨⟨err, here⟩, low⟩ := drained
  obtain ⟨same, less, _, _⟩ := step_outside (by rw [here]; exact loop err) other stepped
  exact ⟨⟨err, by rw [same, here]⟩, Nat.le_trans less low⟩

section Liveness

variable (trace : Trace step)

def LeavesLoop (n : Nat) : Prop := ∃ m, n ≤ m ∧ (trace.state m).reader.inLoop = false

variable {trace} (fair : trace.Fair BridgeAct.inLoop)
include fair

theorem checking_leaves {n : Nat} (drained : (trace.state n).Drained .checking) : LeavesLoop trace n := by
  have kept := Drained.outside (fun err => (rfl : (ReaderStage.checking err).inLoop = true))
  have enabled : ∀ b : Bridge, b.Drained .checking → ∃ a c, a.inLoop ∧ b.step a = some c := by
    intro b held
    obtain ⟨⟨err, here⟩, _⟩ := held
    exact ⟨.check, _, trivial, by simp only [step, here]; rfl⟩
  obtain ⟨m, a, later, own, ⟨⟨err, here⟩, low⟩, stepped⟩ :=
    trace.first_taken kept drained (trace.takes_of_fair fair kept enabled drained)
  refine ⟨m + 1, by omega, ?_⟩
  cases a with
  | check =>
    have small : ¬ bufferedAmountHighThreshold < (trace.state m).bufferedAmount := by
      simp only [bufferedAmountLowThreshold] at low
      simp only [bufferedAmountHighThreshold]
      omega
    simp only [step, here, if_neg small, Option.some.injEq] at stepped
    rw [← stepped]
    exact afterChunk_out err
  | wake => simp [step, here] at stepped
  | quit => simp [step, here, ReaderStage.isWaiting] at stepped
  | _ => cases own

theorem waiting_moves {n : Nat} {a : BridgeAct} (drained : (trace.state n).Drained .waiting) (own : a.inLoop)
    (stepped : (trace.state n).step a = some (trace.state (n + 1))) : LeavesLoop trace n := by
  obtain ⟨⟨err, here⟩, low⟩ := drained
  cases a with
  | check => simp [step, here] at stepped
  | wake =>
    simp only [step, here] at stepped
    split at stepped
    · have checking : (trace.state (n + 1)).Drained .checking := by
        rw [← Option.some.inj stepped]
        exact ⟨⟨err, rfl⟩, low⟩
      obtain ⟨m, later, out⟩ := checking_leaves fair checking
      exact ⟨m, by omega, out⟩
    · cases stepped
  | quit =>
    simp only [step] at stepped
    split at stepped
    · refine ⟨n + 1, by omega, ?_⟩
      rw [← Option.some.inj stepped]
      rfl
    · cases stepped
  | _ => cases own

theorem called_takes {n : Nat} (drained : (trace.state n).Drained .waiting)
    (called : (trace.state n).done = true ∨ (trace.state n).drain = true) : trace.Takes BridgeAct.inLoop n := by
  have kept : ∀ (b : Bridge) a c, b.Drained .waiting ∧ (b.done = true ∨ b.drain = true) → ¬ a.inLoop →
      b.step a = some c → c.Drained .waiting ∧ (c.done = true ∨ c.drain = true) := by
    intro b a c held other stepped
    have loop : b.reader.inLoop = true := by
      obtain ⟨⟨err, here⟩, _⟩ := held.1
      rw [here]
      rfl
    obtain ⟨_, _, done, drain⟩ := step_outside loop other stepped
    exact ⟨Drained.outside (fun _ => rfl) b a c held.1 other stepped, held.2.imp done drain⟩
  have enabled : ∀ b : Bridge, b.Drained .waiting ∧ (b.done = true ∨ b.drain = true) →
      ∃ a c, a.inLoop ∧ b.step a = some c := by
    intro b held
    obtain ⟨⟨⟨err, here⟩, _⟩, done | drain⟩ := held
    · exact ⟨.quit, _, trivial, by simp only [step, here, done]; rfl⟩
    · exact ⟨.wake, _, trivial, by simp only [step, here, drain]; rfl⟩
  exact trace.takes_of_fair fair kept enabled ⟨drained, called⟩

theorem waiting_leaves (callbacks : trace.Fair BridgeAct.isCallback) {n : Nat}
    (attended : (trace.state n).Attended) (drained : (trace.state n).Drained .waiting) : LeavesLoop trace n := by
  have kept := Drained.outside (fun err => (rfl : (ReaderStage.waiting err).inLoop = true))
  have takes : trace.Takes BridgeAct.inLoop n := by
    by_cases open_ : (trace.state n).done = false
    · have waits : (trace.state n).reader.isWaiting = true := by
        obtain ⟨⟨err, here⟩, _⟩ := drained
        rw [here]
        rfl
      rcases attended waits open_ with above | due | token
      · exact absurd drained.2 (by omega)
      · -- the callback that is due runs, and its token is there unless the goroutine took it
        have enabled : ∀ b : Bridge, 0 < b.due → ∃ a c, a.isCallback ∧ b.step a = some c := by
          intro b due
          exact ⟨.bufferedAmountLow, _, trivial, by simp only [step, due]; rfl⟩
        obtain ⟨m, a, later, own, pending, stepped⟩ :=
          trace.first_taken due_kept due (trace.takes_of_fair callbacks due_kept enabled due)
        by_contra never
        have still : (trace.state (m + 1)).Drained .waiting := by
          apply trace.keeps kept drained (by omega)
          intro k first _ b made inLoop
          exact never ⟨k, first, b, made, inLoop⟩
        have token : (trace.state (m + 1)).drain = true := by
          cases a with
          | bufferedAmountLow =>
            simp only [step, if_pos pending, Option.some.injEq] at stepped
            rw [← stepped]
          | _ => cases own
        obtain ⟨k, first, b, made, inLoop⟩ := called_takes fair still (.inr token)
        exact never ⟨k, by omega, b, made, inLoop⟩
      · exact called_takes fair drained (.inr token)
    · exact called_takes fair drained (.inl (by simpa using open_))
  obtain ⟨m, a, later, own, here, stepped⟩ := trace.first_taken kept drained takes
  obtain ⟨k, further, out⟩ := waiting_moves fair here own stepped
  exact ⟨k, by omega, out⟩

end Liveness

/-- No wake-up is lost: in every state of every run, a goroutine that waits on a bridge that is not torn down has
    still much buffered before it, or a callback on its way, or a token. So where callbacks run and the goroutine is
    scheduled, it leaves its loop after the buffer has drained. -/
theorem wakeup_never_lost (queued : Nat) :
    (∀ acts b, run step (start queued) acts = some b → b.Attended) ∧
    ∀ trace : Trace step, trace.state 0 = start queued → trace.Fair BridgeAct.inLoop →
      trace.Fair BridgeAct.isCallback → ∀ n, (trace.state n).reader.isWaiting = true →
      (trace.state n).bufferedAmount ≤ bufferedAmountLowThreshold → LeavesLoop trace n := by
  refine ⟨fun acts b ran => attended_run queued acts b ran, ?_⟩
  intro trace first fair callbacks n waits low
  obtain ⟨acts, ran⟩ := trace.reached n
  rw [first] at ran
  apply waiting_leaves fair callbacks (attended_run queued acts _ ran)
  refine ⟨?_, low⟩
  cases here : (trace.state n).reader with
  | waiting err => exact ⟨err, rfl⟩
  | _ =>
    rw [here] at waits
    cases waits

def roundAct : Nat → Option BridgeAct
  | 0 => some (.read 1 false)
  | 1 => some (.send true)
  | 2 => some .check
  | 3 => some (.transmit (1024 * 1024 + 1))
  | 4 => some .bufferedAmountLow
  | 5 => some .wake
  | 6 => some .check
  | _ => none

def roundState : Nat → Bridge
  | 0 => start (1024 * 1024)
  | 1 => ⟨1024 * 1024, false, 0, false, .sending 1 false⟩
  | 2 => ⟨1024 * 1024 + 1, false, 0, false, .checking false⟩
  | 3 => ⟨1024 * 1024 + 1, false, 0, false, .waiting false⟩
  | 4 => ⟨0, false, 1, false, .waiting false⟩
  | 5 => ⟨0, true, 0, false, .waiting false⟩
  | 6 => ⟨0, false, 0, false, .checking false⟩
  | _ => start 0

def round : Trace step where
  state := roundState
  act := roundAct
  steps n a made := by
    match n with
    | 0 | 1 | 2 | 3 | 4 | 5 | 6 =>
      cases made
      rfl
    | n + 7 => cases made
  rests n made := by
    match n with
    | 0 | 1 | 2 | 3 | 4 | 5 | 6 => cases made
    | n + 7 => rfl

theorem round_fair {kind : BridgeAct → Prop} (idle : ∀ a, kind a → (start 0).step a = none) : round.Fair kind := by
  intro n enabled
  obtain ⟨a, b, own, stepped⟩ := enabled (n + 7) (by omega)
  have none_ : (start 0).step a = some b := stepped
  rw [idle a own] at none_
  cases none_

theorem wakeup_never_lost_round : (roundState 4).Attended ∧ LeavesLoop round 4 := by
  obtain ⟨attended, leaves⟩ := wakeup_never_lost (1024 * 1024)
  have reader : round.Fair BridgeAct.inLoop := by
    apply round_fair
    intro a own
    cases a <;> first | rfl | cases own
  have callbacks : round.Fair BridgeAct.isCallback := by
    apply round_fair
    intro a own
    cases a <;> first | rfl | cases own
  have ran : run step (start (1024 * 1024)) [.read 1 false, .send true, .check, .transmit (1024 * 1024 + 1)] =
      some (roundState 4) := by decide
  exact ⟨attended _ _ ran, leaves round rfl reader callbacks 4 rfl (by decide)⟩

end Bridge

end Rtc2Tcp.Tunnel

import Mathlib.Data.List.Basic

namespace Pipe

variable {α : Type}

inductive Reader (α : Type) where
  | off
  | reading
  | sending (chunk : List α)
  | stopped
deriving DecidableEq, Repr

def Reader.held : Reader α → List α
  | sending chunk => chunk
  | _ => []

/-- What was read is what was delivered, is on the way or in the reader's hands. A reader that stops may drop
    the end of it. -/
structure Carries (source : List α) (reader : Reader α) (queue : List (List α)) (delivered : List α) : Prop where
  front : delivered ++ queue.flatten ++ reader.held <+: source
  whole : reader ≠ .stopped → delivered ++ queue.flatten ++ reader.held = source

variable {source delivered : List α} {reader : Reader α} {queue : List (List α)}

theorem Carries.of_eq (stage : delivered ++ queue.flatten ++ reader.held = source) :
    Carries source reader queue delivered := ⟨⟨[], by rw [stage, List.append_nil]⟩, fun _ => stage⟩

theorem Carries.empty : Carries ([] : List α) .off [] [] := .of_eq rfl

theorem Carries.delivered_front (carries : Carries source reader queue delivered) : delivered <+: source := by
  refine List.IsPrefix.trans ?_ carries.front
  rw [List.append_assoc]
  exact List.prefix_append _ _

theorem Carries.start (carries : Carries source .off queue delivered) : Carries source .reading queue delivered :=
  .of_eq (carries.whole (by simp))

theorem Carries.read (carries : Carries source .reading queue delivered) (chunk : List α) :
    Carries (source ++ chunk) (.sending chunk) queue delivered := by
  have before := carries.whole (by simp)
  simp only [Reader.held, List.append_nil] at before
  exact .of_eq (by rw [before, Reader.held])

theorem Carries.send {chunk : List α} (carries : Carries source (.sending chunk) queue delivered) :
    Carries source .reading (queue ++ [chunk]) delivered := by
  have before := carries.whole (by simp)
  apply Carries.of_eq
  rw [← before]
  simp [Reader.held]

theorem Carries.stop (carries : Carries source reader queue delivered) :
    Carries source .stopped queue delivered := by
  refine ⟨List.IsPrefix.trans ?_ carries.front, fun running => absurd rfl running⟩
  simp only [Reader.held, List.append_nil]
  exact List.prefix_append _ _

theorem Carries.arrive {chunk : List α} (carries : Carries source reader (chunk :: queue) delivered) :
    Carries source reader queue (delivered ++ chunk) := by
  have same : delivered ++ chunk ++ queue.flatten = delivered ++ (chunk :: queue).flatten := by simp
  refine ⟨?_, ?_⟩
  · rw [same]
    exact carries.front
  · rw [same]
    exact carries.whole

/-- A sink that has everything while it is open, and the beginning of it afterwards. -/
structure Sink (closed : Bool) (written expected : List α) : Prop where
  front : written <+: expected
  whole : closed = false → written = expected

theorem Sink.of_eq (closed : Bool) (written : List α) : Sink closed written written :=
  ⟨⟨[], List.append_nil _⟩, fun _ => rfl⟩

theorem Sink.write {written expected : List α} (sink : Sink false written expected) (data : List α) :
    Sink false (written ++ data) (expected ++ data) := by
  rw [sink.whole rfl]
  exact .of_eq _ _

theorem Sink.tear {written expected : List α} (sink : Sink false written expected) (data : List α) (n : Nat) :
    Sink true (written ++ data.take n) (expected ++ data) := by
  rw [sink.whole rfl]
  refine ⟨?_, fun none => nomatch none⟩
  exact (List.prefix_append_right_inj _).mpr ( List.take_prefix _ _)

theorem Sink.close {closed : Bool} {written expected : List α} (sink : Sink closed written expected) :
    Sink true written expected := ⟨sink.front, fun none => nomatch none⟩

theorem Sink.more {written expected : List α} (sink : Sink true written expected) (data : List α) :
    Sink true written (expected ++ data) :=
  ⟨sink.front.trans (List.prefix_append _ _), fun none => nomatch none⟩

end Pipe

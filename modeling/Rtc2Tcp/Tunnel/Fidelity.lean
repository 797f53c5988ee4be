import Rtc2Tcp.Tunnel.Stream

namespace Rtc2Tcp.Tunnel

open Octets Pipe Transition

namespace End

variable (e : End) (data : Bytes) (wrote : Nat)

theorem forward_sink {expected : Bytes} (sink : Sink e.closed e.written expected) :
    Sink (e.forward data wrote).closed (e.forward data wrote).written (expected ++ data) := by
  unfold forward write
  by_cases empty : data = []
  · rw [if_pos empty, empty, List.append_nil]
    exact sink
  · rw [if_neg empty]
    cases gone : e.closed with
    | true =>
      rw [gone] at sink
      exact sink.more data
    | false =>
      rw [gone] at sink
      by_cases whole : data.length ≤ wrote
      · simp only [whole, if_true, Bool.false_eq_true, if_false]
        exact sink.write data
      · simp only [whole, Bool.false_eq_true, if_false]
        exact sink.tear data wrote

/-- All that a message changes is what has been written and whether there is a connection left to write to. -/
theorem forward_frame : e.forward data wrote =
    { e with written := (e.forward data wrote).written, closed := (e.forward data wrote).closed } := by
  unfold forward write
  split
  · rfl
  · cases e.closed <;> by_cases whole : data.length ≤ wrote <;> simp [whole, closeAll]

@[simp] theorem forward_received : (e.forward data wrote).received = e.received := by rw [forward_frame]

@[simp] theorem forward_reader : (e.forward data wrote).reader = e.reader := by rw [forward_frame]

@[simp] theorem forward_arriving : (e.forward data wrote).arriving = e.arriving := by rw [forward_frame]

@[simp] theorem forward_arrived : (e.forward data wrote).arrived = e.arrived := by rw [forward_frame]

@[simp] theorem forward_handler : (e.forward data wrote).handler = e.handler := by rw [forward_frame]

theorem forward_closed (gone : e.closed = true) : e.forward data wrote = e := by
  have same : e.closeAll = e := by rw [closeAll, ← gone]
  unfold forward write
  split
  · rfl
  · simp only [Bool.false_eq_true, if_false]
    exact same

theorem carries_restart {e f : End} {queue : List Bytes} {delivered : Bytes}
    (carries : Carries e.received e.reader queue delivered) (received : f.received = e.received)
    (reader : f.reader = e.reader ∨ (e.reader = .off ∧ f.reader = .reading)) :
    Carries f.received f.reader queue delivered := by
  rw [received]
  rcases reader with same | ⟨off, started⟩
  · rw [same]
    exact carries
  · rw [off] at carries
    rw [started]
    exact carries.start

theorem sink_kept {e f : End} {expected : Bytes} (sink : Sink e.closed e.written expected)
    (written : f.written = e.written) (closed : f.closed = e.closed ∨ f.closed = true) :
    Sink f.closed f.written expected := by
  rw [written]
  rcases closed with same | gone
  · rw [same]
    exact sink
  · rw [gone]
    exact sink.close

end End

theorem Side.other_other (side : Side) : side.other.other = side := by
  cases side <;> rfl

theorem Side.eq_or_other (side here : Side) : here = side ∨ here = side.other := by
  cases side <;> cases here <;> simp [Side.other]

namespace Stream

variable {socks5 : Bool} {s t : Stream} {act : Act} {side : Side}

@[simp] theorem set_same (s : Stream) (side : Side) (e : End) : (s.set side e).ends side = e := Function.update_self ..

@[simp] theorem set_connect (s : Stream) (e : End) : (s.set .connect e).ends .expose = s.ends .expose := rfl

@[simp] theorem set_expose (s : Stream) (e : End) : (s.set .expose e).ends .connect = s.ends .connect := rfl

inductive ConnectNext (socks5 signaled : Bool) : ConnectStage → End → ConnectStage → End → Prop where
  | awaits (mode : socks5 = true) (e : End) :
      ConnectNext socks5 signaled .opening e .waiting { e with handler := some .ready }
  | opens (mode : socks5 = false) (e : End) : ConnectNext socks5 signaled .opening e .bridging e
  | hears (heard : signaled = true) (e : End) : ConnectNext socks5 signaled .waiting e .bridging e
  | expires (e : End) : ConnectNext socks5 signaled .waiting e .ended e.closeAll
  | installs (e : End) : ConnectNext socks5 signaled .bridging e .starting { e with handler := some .forward }
  | starts (e : End) :
      ConnectNext socks5 signaled .starting e (if socks5 then .replying else .done) { e with reader := .reading }
  | replies (e : End) (alive : e.closed = false) :
      ConnectNext socks5 signaled .replying e .done { e with written := e.written ++ Socks5.replySuccess }
  | fails (e : End) (wrote : Nat) (alive : e.closed = false) :
      ConnectNext socks5 signaled .replying e .ended
        { e with written := e.written ++ Socks5.replySuccess.take wrote, closed := true }
  | gone (e : End) (closed : e.closed = true) : ConnectNext socks5 signaled .replying e .ended e

inductive ExposeNext (socks5 : Bool) : ExposeStage → End → ExposeStage → End → Prop where
  | opens (e : End) : ExposeNext socks5 .opening e .dialing e
  | dials (e : End) : ExposeNext socks5 .dialing e (if socks5 then .signaling else .bridging) e
  | ends (stage : ExposeStage) (early : stage = .opening ∨ stage = .dialing ∨ stage = .signaling) (e : End) :
      ExposeNext socks5 stage e .ended e.closeAll
  | installs (e : End) : ExposeNext socks5 .bridging e .starting { e with handler := some .forward }
  | starts (e : End) : ExposeNext socks5 .starting e .done { e with reader := .reading }

inductive Effect (socks5 : Bool) (s : Stream) : Act → Stream → Prop where
  | connects (ok : Bool) (wrote : Nat) (stage : ConnectStage) (e : End)
      (next : ConnectNext socks5 s.signaled s.connect (s.ends .connect) stage e) :
      Effect socks5 s (.connect ok wrote) { s.set .connect e with connect := stage }
  | exposes (ok : Bool) (stage : ExposeStage) (e : End)
      (next : ExposeNext socks5 s.expose (s.ends .expose) stage e) :
      Effect socks5 s (.expose ok) { s.set .expose e with expose := stage }
  | signals (ok : Bool) (stage : s.expose = .signaling) :
      Effect socks5 s (.expose ok) { s.set .connect { s.ends .connect with
        arriving := (s.ends .connect).arriving ++ [[0x01]] } with expose := .bridging }
  | reads (side : Side) (chunk : Bytes) (reading : (s.ends side).reader = .reading) :
      Effect socks5 s (.read side chunk) (s.set side { s.ends side with
        received := (s.ends side).received ++ chunk, reader := .sending chunk })
  | sends (side : Side) (chunk : Bytes) (sending : (s.ends side).reader = .sending chunk) :
      Effect socks5 s (.send side true) ((s.set side { s.ends side with reader := .reading }).set side.other
        { s.ends side.other with arriving := (s.ends side.other).arriving ++ [chunk] })
  | stops (act : Act) (side : Side) (running : (s.ends side).reader ≠ .off) :
      Effect socks5 s act (s.set side { (s.ends side).closeAll with reader := .stopped })
  | discards (side : Side) (wrote : Nat) (message : Bytes) (rest : List Bytes)
      (arriving : (s.ends side).arriving = message :: rest) (handler : (s.ends side).handler ≠ some .forward)
      (signaled : Bool) (kept : (s.ends side).handler ≠ some .ready → signaled = s.signaled) :
      Effect socks5 s (.arrive side wrote) { s.set side { s.ends side with
        arriving := rest, arrived := (s.ends side).arrived + 1 } with signaled := signaled }
  | forwards (side : Side) (wrote : Nat) (message : Bytes) (rest : List Bytes)
      (arriving : (s.ends side).arriving = message :: rest) (handler : (s.ends side).handler = some .forward) :
      Effect socks5 s (.arrive side wrote) (s.set side ({ s.ends side with
        arriving := rest, arrived := (s.ends side).arrived + 1 }.forward message wrote))
  | closes (side : Side) : Effect socks5 s (.close side) (s.set side (s.ends side).closeAll)

theorem set_ends (s : Stream) (side : Side) : s.set side (s.ends side) = s := by
  rw [set, Function.update_eq_self]

theorem connect_effect {ok : Bool} {wrote : Nat} (stepped : s.connectStep socks5 ok wrote = some t) :
    Effect socks5 s (.connect ok wrote) t := by
  have moves : ∀ stage e, ConnectNext socks5 s.signaled s.connect (s.ends .connect) stage e →
      t = { s.set .connect e with connect := stage } → Effect socks5 s (.connect ok wrote) t := by
    rintro stage e next rfl
    exact .connects ok wrote stage e next
  have unchanged : ∀ stage, { s with connect := stage } = { s.set .connect (s.ends .connect) with connect := stage } := by
    intro stage
    rw [set_ends]
  unfold connectStep at stepped
  dsimp only at stepped
  split at stepped
  · rename_i stage
    split at stepped
    · rename_i mode
      exact moves _ _ (stage ▸ .awaits mode _) (Option.some.inj stepped).symm
    · rename_i mode
      exact moves _ _ (stage ▸ .opens (Bool.eq_false_iff.mpr mode) _) ((Option.some.inj stepped).symm.trans (unchanged _))
  · rename_i stage
    split at stepped
    · split at stepped
      · rename_i heard
        exact moves _ _ (stage ▸ .hears heard _) ((Option.some.inj stepped).symm.trans (unchanged _))
      · cases stepped
    · exact moves _ _ (stage ▸ .expires _) (Option.some.inj stepped).symm
  · rename_i stage
    exact moves _ _ (stage ▸ .installs _) (Option.some.inj stepped).symm
  · rename_i stage
    exact moves _ _ (stage ▸ .starts _) (Option.some.inj stepped).symm
  · rename_i stage
    cases gone : (s.ends .connect).closed with
    | true =>
      have same : (s.ends .connect).closeAll = s.ends .connect := by rw [End.closeAll, ← gone]
      simp only [End.write, gone, if_true, Bool.false_eq_true, if_false, same] at stepped
      exact moves _ _ (stage ▸ .gone _ gone) (Option.some.inj stepped).symm
    | false =>
      by_cases whole : Socks5.replySuccess.length ≤ wrote
      · have next : ConnectNext socks5 s.signaled .replying (s.ends .connect) .done { s.ends .connect with
            written := (s.ends .connect).written ++ Socks5.replySuccess } := .replies _ gone
        dsimp only at next
        rw [gone] at next
        simp only [End.write, gone, if_true, Bool.false_eq_true, if_false, whole] at stepped
        exact moves _ _ (stage ▸ next) (Option.some.inj stepped).symm
      · simp only [End.write, gone, Bool.false_eq_true, if_false, whole] at stepped
        exact moves _ _ (stage ▸ .fails _ wrote gone) (Option.some.inj stepped).symm
  · cases stepped
  · cases stepped

theorem expose_effect {ok : Bool} (stepped : s.exposeStep socks5 ok = some t) : Effect socks5 s (.expose ok) t := by
  have moves : ∀ stage e, ExposeNext socks5 s.expose (s.ends .expose) stage e →
      t = { s.set .expose e with expose := stage } → Effect socks5 s (.expose ok) t := by
    rintro stage e next rfl
    exact .exposes ok stage e next
  have unchanged : ∀ stage, { s with expose := stage } = { s.set .expose (s.ends .expose) with expose := stage } := by
    intro stage
    rw [set_ends]
  unfold exposeStep at stepped
  dsimp only at stepped
  split at stepped
  · rename_i stage
    split at stepped
    · exact moves _ _ (.ends _ (.inl stage) _) (Option.some.inj stepped).symm
    · exact moves _ _ (stage ▸ .opens _) ((Option.some.inj stepped).symm.trans (unchanged _))
  · rename_i stage
    split at stepped
    · exact moves _ _ (stage ▸ .dials _) ((Option.some.inj stepped).symm.trans (unchanged _))
    · exact moves _ _ (.ends _ (.inr (.inl stage)) _) (Option.some.inj stepped).symm
  · rename_i stage
    split at stepped
    · cases stepped
      exact .signals ok stage
    · exact moves _ _ (.ends _ (.inr (.inr stage)) _) (Option.some.inj stepped).symm
  · rename_i stage
    exact moves _ _ (stage ▸ .installs _) (Option.some.inj stepped).symm
  · rename_i stage
    exact moves _ _ (stage ▸ .starts _) (Option.some.inj stepped).symm
  · cases stepped
  · cases stepped

theorem step_effect (stepped : s.step socks5 act = some t) : Effect socks5 s act t := by
  cases act with
  | connect ok wrote => exact connect_effect stepped
  | expose ok => exact expose_effect stepped
  | read side chunk =>
    simp only [step] at stepped
    split at stepped
    · rename_i reading
      cases stepped
      exact .reads side chunk reading.1
    · cases stepped
  | send side ok =>
    simp only [step, sendStep] at stepped
    split at stepped
    · rename_i chunk sending
      split at stepped
      · rename_i sent
        subst sent
        cases stepped
        have other : (s.set side { s.ends side with reader := .reading }).ends side.other = s.ends side.other := by
          cases side <;> rfl
        rw [other]
        exact .sends side chunk sending
      · cases stepped
        exact .stops _ side (by rw [sending]; simp)
    · cases stepped
  | stop side =>
    simp only [step] at stepped
    split at stepped
    · rename_i reading
      cases stepped
      exact .stops _ side (by rw [reading]; simp)
    · cases stepped
  | arrive side wrote =>
    simp only [step, arriveStep] at stepped
    split at stepped
    · cases stepped
    · rename_i message rest arriving
      split at stepped
      · rename_i handler
        cases stepped
        exact .discards side wrote message rest arriving (by rw [handler]; simp) s.signaled fun _ => rfl
      · rename_i handler
        cases stepped
        exact .discards side wrote message rest arriving (by rw [handler]; simp) true (absurd handler)
      · rename_i handler
        cases stepped
        exact .forwards side wrote message rest arriving handler
  | close side =>
    simp only [step] at stepped
    split at stepped
    · cases stepped
      exact .closes side
    · cases stepped

def Unstarted (stage : ConnectStage) : Prop := stage ≠ .replying ∧ stage ≠ .done ∧ stage ≠ .ended

/-- The readers are off until `Bridge` starts them. -/
structure Staged (s : Stream) : Prop where
  connect : Unstarted s.connect → (s.ends .connect).reader = .off
  expose : s.expose ≠ .done → (s.ends .expose).reader = .off

theorem ConnectNext.unstarted {signaled : Bool} {before after : ConnectStage} {e f : End}
    (next : ConnectNext socks5 signaled before e after f) (early : Unstarted after) :
    Unstarted before ∧ f.reader = e.reader := by
  obtain ⟨replying, done, ended⟩ := early
  cases next with
  | awaits | opens | hears | installs => exact ⟨⟨nofun, nofun, nofun⟩, rfl⟩
  | expires | fails | gone => exact absurd rfl ended
  | replies => exact absurd rfl done
  | starts e => cases socks5 <;> simp at replying done

theorem ExposeNext.unstarted {before after : ExposeStage} {e f : End} (next : ExposeNext socks5 before e after f)
    (early : after ≠ .done) : before ≠ .done ∧ f.reader = e.reader := by
  cases next with
  | opens | dials | installs => exact ⟨nofun, rfl⟩
  | ends stage soon e => exact ⟨by rintro rfl; simp at soon, rfl⟩
  | starts => exact absurd rfl early

theorem Staged.of_reader (staged : s.Staged) (connect : t.connect = s.connect) (expose : t.expose = s.expose)
    (off : ∀ side, (s.ends side).reader = .off → (t.ends side).reader = .off) : t.Staged where
  connect := by
    rw [connect]
    exact fun early => off .connect (staged.connect early)
  expose := by
    rw [expose]
    exact fun early => off .expose (staged.expose early)

theorem Staged.set (staged : s.Staged) (side : Side) (e : End) (off : (s.ends side).reader = .off → e.reader = .off) :
    (s.set side e).Staged := by
  refine staged.of_reader rfl rfl ?_
  intro other
  cases side <;> cases other <;> simp only [set_same, set_connect, set_expose] <;> first | exact off | exact id

theorem Staged.step (staged : s.Staged) (stepped : s.step socks5 act = some t) : t.Staged := by
  cases step_effect stepped with
  | connects ok wrote stage e next =>
    refine ⟨?_, staged.expose⟩
    intro early
    obtain ⟨before, same⟩ := next.unstarted early
    exact same.trans (staged.connect before)
  | exposes ok stage e next =>
    refine ⟨staged.connect, ?_⟩
    intro early
    obtain ⟨before, same⟩ := next.unstarted early
    exact same.trans (staged.expose before)
  | signals ok stage =>
    refine ⟨staged.connect, fun _ => staged.expose ?_⟩
    rw [stage]
    nofun
  | reads side chunk reading => exact staged.set side _ (by rw [reading]; nofun)
  | sends side chunk sending =>
    refine (staged.set side _ (by rw [sending]; nofun)).set side.other _ ?_
    cases side <;> exact id
  | stops _ side running => exact staged.set side _ fun off => absurd off running
  | discards side wrote message rest arriving handler signaled =>
    have kept := staged.set side { s.ends side with arriving := rest, arrived := (s.ends side).arrived + 1 } id
    exact ⟨kept.connect, kept.expose⟩
  | forwards side wrote message rest arriving handler =>
    exact staged.set side _ fun off => by rw [End.forward_reader]; exact off
  | closes side => exact staged.set side _ id

theorem staged_initial : initial.Staged := ⟨fun _ => rfl, fun _ => rfl⟩

@[simp] theorem set_other (s : Stream) (side : Side) (e : End) :
    (s.set side e).ends side.other = s.ends side.other := by
  cases side <;> rfl

@[simp] theorem set_far (s : Stream) (side : Side) (e : End) : (s.set side.other e).ends side = s.ends side := by
  cases side <;> rfl

/-- What the far end has read comes to the near end in order and is written there, with nothing left out. -/
def Flows (s : Stream) (side : Side) : Prop :=
  ∃ delivered, Carries (s.ends side.other).received (s.ends side.other).reader (s.ends side).arriving delivered ∧
    Sink (s.ends side).closed (s.ends side).written delivered

theorem Flows.front (flows : s.Flows side) : (s.ends side).written <+: (s.ends side.other).received := by
  obtain ⟨delivered, carries, sink⟩ := flows
  exact sink.front.trans carries.delivered_front

theorem Flows.near (flows : s.Flows side) (e : End) (arriving : e.arriving = (s.ends side).arriving)
    (sink : ∀ expected, Sink (s.ends side).closed (s.ends side).written expected → Sink e.closed e.written expected) :
    (s.set side e).Flows side := by
  obtain ⟨delivered, carries, before⟩ := flows
  refine ⟨delivered, ?_, ?_⟩
  · rw [set_other, set_same, arriving]
    exact carries
  · rw [set_same]
    exact sink delivered before

theorem Flows.far (flows : s.Flows side) (e : End)
    (carries : ∀ queue delivered, Carries (s.ends side.other).received (s.ends side.other).reader queue delivered →
      Carries e.received e.reader queue delivered) : (s.set side.other e).Flows side := by
  obtain ⟨delivered, before, sink⟩ := flows
  refine ⟨delivered, ?_, ?_⟩
  · rw [set_same, set_far]
    exact carries _ _ before
  · rw [set_far]
    exact sink

theorem ConnectNext.received {signaled : Bool} {before after : ConnectStage} {e f : End}
    (next : ConnectNext socks5 signaled before e after f) :
    f.received = e.received ∧ (f.reader = e.reader ∨ (before = .starting ∧ f.reader = .reading)) := by
  cases next with
  | starts => exact ⟨rfl, .inr ⟨rfl, rfl⟩⟩
  | awaits | opens | hears | expires | installs | replies | fails | gone => exact ⟨rfl, .inl rfl⟩

theorem ExposeNext.received {before after : ExposeStage} {e f : End} (next : ExposeNext socks5 before e after f) :
    f.received = e.received ∧ (f.reader = e.reader ∨ (before = .starting ∧ f.reader = .reading)) ∧
      f.arriving = e.arriving ∧ f.arrived = e.arrived ∧ f.written = e.written ∧
      (f.closed = e.closed ∨ f.closed = true) := by
  cases next with
  | starts => exact ⟨rfl, .inr ⟨rfl, rfl⟩, rfl, rfl, rfl, .inl rfl⟩
  | opens | dials | installs => exact ⟨rfl, .inl rfl, rfl, rfl, rfl, .inl rfl⟩
  | ends => exact ⟨rfl, .inl rfl, rfl, rfl, rfl, .inr rfl⟩

/-- Messages arrive only where `Bridge` has installed its handler, or where there is no connection any more. -/
def Bridged (s : Stream) : Act → Prop
  | .arrive side _ => (s.ends side).handler = some .forward ∨ (s.ends side).closed = true
  | _ => True

instance : ∀ (s : Stream) (act : Act), Decidable (s.Bridged act)
  | _, .arrive _ _ => inferInstanceAs (Decidable (_ ∨ _))
  | _, .connect .. | _, .expose .. | _, .read .. | _, .send .. | _, .stop .. | _, .close .. => isTrue trivial

theorem Flows.arrive (flows : s.Flows side) {e : End} {message : Bytes} {rest : List Bytes}
    (arriving : (s.ends side).arriving = message :: rest) (after : e.arriving = rest)
    (sink : ∀ expected, Sink (s.ends side).closed (s.ends side).written expected →
      Sink e.closed e.written (expected ++ message)) : (s.set side e).Flows side := by
  obtain ⟨delivered, carries, before⟩ := flows
  rw [arriving] at carries
  refine ⟨delivered ++ message, ?_, ?_⟩
  · rw [set_other, set_same, after]
    exact carries.arrive
  · rw [set_same]
    exact sink delivered before

theorem Flows.send (flows : s.Flows side) {chunk : Bytes} (sending : (s.ends side.other).reader = .sending chunk) :
    ((s.set side.other { s.ends side.other with reader := .reading }).set side
      { s.ends side with arriving := (s.ends side).arriving ++ [chunk] }).Flows side := by
  obtain ⟨delivered, carries, sink⟩ := flows
  rw [sending] at carries
  refine ⟨delivered, ?_, ?_⟩
  · rw [set_other, set_same, set_same]
    exact carries.send
  · rw [set_same]
    exact sink

theorem Flows.step (flows : s.Flows side) (bridged : ∀ wrote, act = .arrive side wrote → s.Bridged act)
    (stepped : s.step socks5 act = some t)
    (connects : ∀ stage e, ConnectNext socks5 s.signaled s.connect (s.ends .connect) stage e →
      (s.set .connect e).Flows side)
    (exposes : ∀ stage e, ExposeNext socks5 s.expose (s.ends .expose) stage e → (s.set .expose e).Flows side)
    (signals : s.expose = .signaling → (s.set .connect { s.ends .connect with
      arriving := (s.ends .connect).arriving ++ [[0x01]] }).Flows side) : t.Flows side := by
  cases step_effect stepped with
  | connects ok wrote stage e next => exact connects stage e next
  | exposes ok stage e next => exact exposes stage e next
  | signals ok stage => exact signals stage
  | reads here chunk reading =>
    rcases Side.eq_or_other side here with rfl | rfl
    · exact flows.near _ rfl fun _ sink => sink
    · refine flows.far _ ?_
      intro queue delivered carries
      rw [reading] at carries
      exact carries.read chunk
  | sends here chunk sending =>
    rcases Side.eq_or_other side here with rfl | rfl
    · refine (flows.near { s.ends here with reader := .reading } rfl fun _ sink => sink).far _ ?_
      intro queue delivered carries
      rw [set_other] at carries
      exact carries
    · rw [Side.other_other]
      exact flows.send sending
  | stops _ here running =>
    rcases Side.eq_or_other side here with rfl | rfl
    · exact flows.near _ rfl fun _ sink => sink.close
    · exact flows.far _ fun _ _ carries => carries.stop
  | discards here wrote message rest arriving handler signaled =>
    rcases Side.eq_or_other side here with rfl | rfl
    · refine flows.arrive arriving rfl ?_
      intro expected sink
      rcases bridged wrote rfl with installed | gone
      · exact absurd installed handler
      · dsimp only
        rw [gone] at sink ⊢
        exact sink.more message
    · exact flows.far _ fun _ _ carries => carries
  | forwards here wrote message rest arriving handler =>
    rcases Side.eq_or_other side here with rfl | rfl
    · refine flows.arrive arriving (End.forward_arriving ..) ?_
      intro expected sink
      exact End.forward_sink _ message wrote sink
    · refine flows.far _ ?_
      intro queue delivered carries
      rw [End.forward_received, End.forward_reader]
      exact carries
  | closes here =>
    rcases Side.eq_or_other side here with rfl | rfl
    · exact flows.near _ rfl fun _ sink => sink.close
    · exact flows.far _ fun _ _ carries => carries

theorem Flows.step_expose (flows : s.Flows .expose) (staged : s.Staged)
    (bridged : ∀ wrote, act = .arrive .expose wrote → s.Bridged act)
    (stepped : s.step socks5 act = some t) : t.Flows .expose := by
  refine flows.step bridged stepped ?_ ?_ ?_
  · intro stage e next
    obtain ⟨received, reader⟩ := next.received
    refine Flows.far flows e ?_
    intro queue delivered carries
    refine End.carries_restart carries received (reader.imp_right ?_)
    rintro ⟨stage, started⟩
    refine ⟨staged.connect ?_, started⟩
    rw [stage]
    exact ⟨nofun, nofun, nofun⟩
  · intro stage e next
    obtain ⟨_, _, arriving, _, written, closed⟩ := next.received
    exact Flows.near flows e arriving fun _ sink => End.sink_kept sink written closed
  · intro _
    exact Flows.far flows _ fun _ _ carries => carries

theorem ConnectNext.near {signaled : Bool} {before after : ConnectStage} {e f : End}
    (next : ConnectNext socks5 signaled before e after f) (early : before ≠ .replying) :
    f.arriving = e.arriving ∧ f.arrived = e.arrived ∧ f.written = e.written ∧
      (f.closed = e.closed ∨ f.closed = true) := by
  cases next with
  | expires => exact ⟨rfl, rfl, rfl, .inr rfl⟩
  | awaits | opens | hears | installs | starts => exact ⟨rfl, rfl, rfl, .inl rfl⟩
  | replies | fails | gone => exact absurd rfl early

theorem ConnectNext.plain {signaled : Bool} {before after : ConnectStage} {e f : End}
    (next : ConnectNext false signaled before e after f) : after ≠ .waiting ∧ after ≠ .replying := by
  cases next with
  | awaits mode => cases mode
  | opens | hears | expires | installs | starts | replies | fails | gone => exact ⟨nofun, nofun⟩

theorem ExposeNext.plain {before after : ExposeStage} {e f : End} (next : ExposeNext false before e after f) :
    after ≠ .signaling := by
  cases next with
  | opens | dials | ends | installs | starts => nofun

structure Faithful (s : Stream) : Prop where
  staged : s.Staged
  silent : s.connect ≠ .replying
  direct : s.expose ≠ .signaling
  flows : ∀ side, s.Flows side

theorem Faithful.step (faithful : s.Faithful) (bridged : s.Bridged act) (stepped : s.step false act = some t) :
    t.Faithful where
  staged := faithful.staged.step stepped
  silent := by
    cases step_effect stepped with
    | connects ok wrote stage e next => exact next.plain.2
    | exposes | signals | reads | sends | stops | discards | forwards | closes => exact faithful.silent
  direct := by
    cases step_effect stepped with
    | exposes ok stage e next => exact next.plain
    | signals => nofun
    | connects | reads | sends | stops | discards | forwards | closes => exact faithful.direct
  flows := by
    intro side
    cases side with
    | expose => exact (faithful.flows .expose).step_expose faithful.staged (fun _ _ => bridged) stepped
    | connect =>
      have flows := faithful.flows .connect
      refine flows.step (fun _ _ => bridged) stepped ?_ ?_ ?_
      · intro stage e next
        obtain ⟨arriving, _, written, closed⟩ := next.near faithful.silent
        exact flows.near e arriving fun _ sink => End.sink_kept sink written closed
      · intro stage e next
        obtain ⟨received, reader, _⟩ := next.received
        refine Flows.far flows e ?_
        intro queue delivered carries
        refine End.carries_restart carries received (reader.imp_right ?_)
        rintro ⟨stage, started⟩
        exact ⟨faithful.staged.expose (by rw [stage]; nofun), started⟩
      · intro stage
        exact absurd stage faithful.direct

theorem flows_initial (side : Side) : initial.Flows side := by
  refine ⟨[], ?_, .of_eq _ _⟩
  exact Carries.empty

/-- In plain mode each connection receives the beginning of what the other one has sent, if no message arrives before
    `Bridge` has installed its handler. -/
theorem plain_tunnel_fidelity (acts : List Act) (s : Stream) (ran : run (step false) initial acts = some s)
    (bridged : Along (step false) Bridged initial acts) :
    (s.ends .expose).written <+: (s.ends .connect).received ∧
      (s.ends .connect).written <+: (s.ends .expose).received := by
  have faithful : s.Faithful := by
    refine run_invariant (fun _ _ _ faithful met stepped => Faithful.step faithful met stepped) initial s acts ?_
      bridged ran
    exact ⟨staged_initial, nofun, nofun, flows_initial⟩
  exact ⟨(faithful.flows .expose).front, (faithful.flows .connect).front⟩

theorem plain_tunnel_fidelity_dialed :
    ∃ s, run (step false) initial
        [.expose true, .expose true, .expose true, .expose true, .connect true 0, .connect true 0, .connect true 0,
          .read .connect [1, 2], .send .connect true, .arrive .expose 2] = some s ∧
      (s.ends .expose).written = [1, 2] ∧ (s.ends .expose).written <+: (s.ends .connect).received := by
  have result : (run (step false) initial
      [.expose true, .expose true, .expose true, .expose true, .connect true 0, .connect true 0, .connect true 0,
        .read .connect [1, 2], .send .connect true, .arrive .expose 2]).map (fun s => (s.ends .expose).written) =
        some [1, 2] := by
    decide +kernel
  obtain ⟨s, ran, written⟩ := Option.map_eq_some_iff.mp result
  exact ⟨s, ran, written, (plain_tunnel_fidelity _ s ran (by decide +kernel)).1⟩

/-- The first bytes of the client arrive while the target is being dialed, and are lost. -/
theorem plain_tunnel_gap :
    ∃ s, run (step false) initial
        [.expose true, .connect true 0, .connect true 0, .connect true 0, .read .connect [1, 2], .send .connect true,
          .arrive .expose 2, .expose true, .expose true, .expose true, .read .connect [3], .send .connect true,
          .arrive .expose 1] = some s ∧
      (s.ends .connect).received = [1, 2, 3] ∧ (s.ends .expose).written = [3] ∧
      ¬(s.ends .expose).written <+: (s.ends .connect).received := by
  have result : (run (step false) initial
      [.expose true, .connect true 0, .connect true 0, .connect true 0, .read .connect [1, 2], .send .connect true,
        .arrive .expose 2, .expose true, .expose true, .expose true, .read .connect [3], .send .connect true,
        .arrive .expose 1]).map (fun s => ((s.ends .connect).received, (s.ends .expose).written)) =
        some ([1, 2, 3], [3]) := by
    decide +kernel
  obtain ⟨s, ran, bytes⟩ := Option.map_eq_some_iff.mp result
  obtain ⟨received, written⟩ := Prod.mk.inj bytes
  refine ⟨s, ran, received, written, ?_⟩
  rw [received, written]
  decide

end Stream

end Rtc2Tcp.Tunnel

import Rtc2Tcp.Tunnel.Fidelity

namespace Rtc2Tcp.Tunnel

open Octets Pipe Transition

namespace Stream

variable {s t : Stream} {act : Act} {delivered : Bytes}

def Signaled (stage : ExposeStage) : Prop := stage = .bridging ∨ stage = .starting ∨ stage = .done

/-- Where the ready signal is, and what the connecting peer was given of the target's bytes behind it. -/
inductive Lead (s : Stream) : Bytes → Prop where
  | unsent (stage : ¬Signaled s.expose) (arriving : (s.ends .connect).arriving = [])
      (arrived : (s.ends .connect).arrived = 0) (received : (s.ends .expose).received = [])
      (reader : (s.ends .expose).reader = .off) : Lead s []
  | pending (stage : Signaled s.expose) (rest : List Bytes) (arriving : (s.ends .connect).arriving = [0x01] :: rest)
      (arrived : (s.ends .connect).arrived = 0)
      (carries : Carries (s.ends .expose).received (s.ends .expose).reader rest []) : Lead s []
  | heard (stage : Signaled s.expose) (delivered : Bytes) (arrived : (s.ends .connect).arrived ≠ 0)
      (carries : Carries (s.ends .expose).received (s.ends .expose).reader (s.ends .connect).arriving delivered) :
      Lead s delivered

theorem Lead.congr (lead : s.Lead delivered) (expose : t.expose = s.expose)
    (arriving : (t.ends .connect).arriving = (s.ends .connect).arriving)
    (arrived : (t.ends .connect).arrived = (s.ends .connect).arrived)
    (received : (t.ends .expose).received = (s.ends .expose).received)
    (reader : (t.ends .expose).reader = (s.ends .expose).reader) : t.Lead delivered := by
  cases lead with
  | unsent stage none count silent off =>
    exact .unsent (by rwa [expose]) (by rwa [arriving]) (by rwa [arrived]) (by rwa [received]) (by rwa [reader])
  | pending stage rest queue count carries =>
    exact .pending (by rwa [expose]) rest (by rwa [arriving]) (by rwa [arrived]) (by rwa [received, reader])
  | heard stage delivered count carries =>
    exact .heard (by rwa [expose]) delivered (by rwa [arrived]) (by rwa [received, reader, arriving])

theorem Lead.front (lead : s.Lead delivered) : delivered <+: (s.ends .expose).received := by
  cases lead with
  | unsent | pending => exact List.nil_prefix
  | heard stage delivered count carries => exact carries.delivered_front

theorem Lead.reader (lead : s.Lead delivered) (running : (s.ends .expose).reader ≠ .off) (expose : t.expose = s.expose)
    (arrived : (t.ends .connect).arrived = (s.ends .connect).arrived)
    (carries : ∀ front queue delivered, (s.ends .connect).arriving = front ++ queue →
      Carries (s.ends .expose).received (s.ends .expose).reader queue delivered →
      ∃ after, (t.ends .connect).arriving = front ++ after ∧
        Carries (t.ends .expose).received (t.ends .expose).reader after delivered) : t.Lead delivered := by
  cases lead with
  | unsent stage none count silent off => exact absurd off running
  | pending stage rest queue count before =>
    obtain ⟨after, arriving, now⟩ := carries [[0x01]] rest [] queue before
    exact .pending (by rwa [expose]) after arriving (by rwa [arrived]) now
  | heard stage delivered count before =>
    obtain ⟨after, arriving, now⟩ := carries [] _ delivered rfl before
    rw [List.nil_append] at arriving
    rw [← arriving] at now
    exact .heard (by rwa [expose]) delivered (by rwa [arrived]) now

/-- What the SOCKS5 client has received, when the connecting peer was given these bytes of the target. -/
structure Shown (stage : ConnectStage) (e : End) (delivered : Bytes) : Prop where
  bridged : stage = .starting ∨ stage = .replying ∨ stage = .done → e.handler = some .forward
  early : stage ≠ .done → stage ≠ .ended → e.written = [] ∧ (e.closed = false → delivered = [])
  done : stage = .done → Sink e.closed e.written (Socks5.replySuccess ++ delivered)
  ended : stage = .ended → e.closed = true ∧ e.written <+: Socks5.replySuccess

theorem Shown.congr {stage : ConnectStage} {e f : End} (shown : Shown stage e delivered)
    (handler : f.handler = e.handler) (written : f.written = e.written)
    (closed : f.closed = e.closed ∨ f.closed = true) : Shown stage f delivered where
  bridged := by
    rw [handler]
    exact shown.bridged
  early notDone notEnded := by
    rw [written]
    refine ⟨(shown.early notDone notEnded).1, ?_⟩
    rcases closed with same | gone
    · rw [same]
      exact (shown.early notDone notEnded).2
    · rw [gone]
      nofun
  done here := End.sink_kept (shown.done here) written closed
  ended here := by
    rw [written]
    refine ⟨?_, (shown.ended here).2⟩
    rcases closed with same | gone
    · rw [same]
      exact (shown.ended here).1
    · exact gone

theorem ConnectNext.unfinished {socks5 signaled : Bool} {before after : ConnectStage} {e f : End}
    (next : ConnectNext socks5 signaled before e after f) : before ≠ .done ∧ before ≠ .ended := by
  cases next <;> decide

theorem Shown.next {signaled : Bool} {before after : ConnectStage} {e f : End} (shown : Shown before e delivered)
    (next : ConnectNext true signaled before e after f) : Shown after f delivered := by
  obtain ⟨blank, nothing⟩ := shown.early next.unfinished.1 next.unfinished.2
  have early : ∀ {stage : ConnectStage} {g : End}, (stage = .starting ∨ stage = .replying → g.handler = some .forward) →
      stage ≠ .done → stage ≠ .ended → g.written = e.written → g.closed = e.closed → Shown stage g delivered := by
    intro stage g bridged notDone notEnded written closed
    refine ⟨?_, ?_, fun done => absurd done notDone, fun ended => absurd ended notEnded⟩
    · rintro (here | here | here)
      · exact bridged (.inl here)
      · exact bridged (.inr here)
      · exact absurd here notDone
    · intro _ _
      rw [written, closed]
      exact ⟨blank, nothing⟩
  have ended : ∀ {g : End}, g.closed = true → g.written <+: Socks5.replySuccess → Shown .ended g delivered := by
    intro g closed shorter
    exact ⟨by simp, fun _ here => absurd rfl here, by simp, fun _ => ⟨closed, shorter⟩⟩
  cases next with
  | awaits => exact early (by simp) (by decide) (by decide) rfl rfl
  | opens | hears => exact early (by simp) (by decide) (by decide) rfl rfl
  | expires =>
    refine ended rfl ?_
    rw [End.closeAll, blank]
    exact List.nil_prefix
  | installs => exact early (fun _ => rfl) (by decide) (by decide) rfl rfl
  | starts => exact early (fun _ => shown.bridged (.inl rfl)) (by decide) (by decide) rfl rfl
  | replies _ alive =>
    refine ⟨fun _ => shown.bridged (.inr (.inl rfl)), fun done => absurd rfl done, fun _ => ?_, by simp⟩
    dsimp only
    rw [blank, nothing alive, List.nil_append, List.append_nil]
    exact .of_eq _ _
  | fails _ wrote =>
    refine ended rfl ?_
    dsimp only
    rw [blank, List.nil_append]
    exact List.take_prefix _ _
  | gone _ closed =>
    refine ended closed ?_
    rw [blank]
    exact List.nil_prefix

theorem Shown.closed {stage : ConnectStage} {e f : End} (shown : Shown stage e delivered) (gone : e.closed = true)
    (message : Bytes) (handler : f.handler = e.handler) (written : f.written = e.written) (closed : f.closed = true) :
    Shown stage f (delivered ++ message) where
  bridged := by
    rw [handler]
    exact shown.bridged
  early notDone notEnded := by
    rw [written, closed]
    exact ⟨(shown.early notDone notEnded).1, nofun⟩
  done here := by
    have sink := shown.done here
    rw [gone] at sink
    rw [written, closed, ← List.append_assoc]
    exact sink.more message
  ended here := by
    rw [written]
    exact ⟨closed, (shown.ended here).2⟩

theorem Shown.forward {stage : ConnectStage} {e : End} (shown : Shown stage e delivered) (here : stage = .done)
    (message : Bytes) (wrote : Nat) {rest : List Bytes} {arrived : Nat} (handler : e.handler = some .forward) :
    Shown stage ({ e with arriving := rest, arrived := arrived }.forward message wrote) (delivered ++ message) where
  bridged _ := by
    rw [End.forward_handler]
    exact handler
  early notDone := absurd here notDone
  done _ := by
    rw [← List.append_assoc]
    exact End.forward_sink _ message wrote (shown.done here)
  ended finished := by
    rw [here] at finished
    cases finished

theorem ConnectNext.channel {socks5 signaled : Bool} {before after : ConnectStage} {e f : End}
    (next : ConnectNext socks5 signaled before e after f) : f.arriving = e.arriving ∧ f.arrived = e.arrived := by
  cases next <;> exact ⟨rfl, rfl⟩

theorem ExposeNext.signaled {before after : ExposeStage} {e f : End} (next : ExposeNext true before e after f) :
    Signaled after ↔ Signaled before := by
  cases next with
  | opens | dials | installs | starts => simp [Signaled]
  | ends stage early => rcases early with rfl | rfl | rfl <;> simp [Signaled]

theorem Lead.exposes (lead : s.Lead delivered) (staged : s.Staged) {stage : ExposeStage} {e : End}
    (next : ExposeNext true s.expose (s.ends .expose) stage e) :
    ({ s.set .expose e with expose := stage } : Stream).Lead delivered := by
  obtain ⟨received, reader, _⟩ := next.received
  have started : e.reader = (s.ends .expose).reader ∨ ((s.ends .expose).reader = .off ∧ e.reader = .reading) := by
    refine reader.imp_right ?_
    rintro ⟨stage, started⟩
    exact ⟨staged.expose (by rw [stage]; nofun), started⟩
  cases lead with
  | unsent early none count silent off =>
    refine .unsent (fun late => early (next.signaled.mp late)) none count (received.trans silent) ?_
    rcases reader with same | ⟨stage, _⟩
    · exact same.trans off
    · exact absurd (.inr (.inl stage)) early
  | pending late rest queue count carries =>
    exact .pending (next.signaled.mpr late) rest queue count (End.carries_restart carries received started)
  | heard late delivered count carries =>
    exact .heard (next.signaled.mpr late) delivered count (End.carries_restart carries received started)

theorem Lead.signals (lead : s.Lead delivered) (stage : s.expose = .signaling) :
    ({ s.set .connect { s.ends .connect with arriving := (s.ends .connect).arriving ++ [[0x01]] } with
      expose := .bridging } : Stream).Lead delivered := by
  have unsignaled : ¬Signaled s.expose := by simp [Signaled, stage]
  cases lead with
  | unsent early none count silent off =>
    refine .pending (.inl rfl) [] ?_ count ?_
    · simp [none]
    · simp only [set_connect]
      rw [silent, off]
      exact Carries.empty
  | pending late | heard late => exact absurd late unsignaled

/-- The client's bytes arrive after the exposing peer has bridged, and the target's bytes, which come after the ready
    signal, when the success reply has been written. -/
def InTurn (s : Stream) : Act → Prop
  | .arrive .expose _ => (s.ends .expose).handler = some .forward ∨ (s.ends .expose).closed = true
  | .arrive .connect _ => (s.ends .connect).arrived = 0 ∨ s.connect = .done ∨ (s.ends .connect).closed = true
  | _ => True

instance : ∀ (s : Stream) (act : Act), Decidable (s.InTurn act)
  | _, .arrive .expose _ => inferInstanceAs (Decidable (_ ∨ _))
  | _, .arrive .connect _ => inferInstanceAs (Decidable (_ ∨ _ ∨ _))
  | _, .connect .. | _, .expose .. | _, .read .. | _, .send .. | _, .stop .. | _, .close .. => isTrue trivial

theorem Lead.arrive (lead : s.Lead delivered) (shown : Shown s.connect (s.ends .connect) delivered) {e : End}
    {message : Bytes} {rest : List Bytes} (queue : (s.ends .connect).arriving = message :: rest)
    (arriving : e.arriving = rest) (arrived : e.arrived = (s.ends .connect).arrived + 1)
    (handler : e.handler = (s.ends .connect).handler)
    (first : (s.ends .connect).arrived = 0 → e.written = (s.ends .connect).written ∧
      e.closed = (s.ends .connect).closed)
    (later : (s.ends .connect).arrived ≠ 0 → Shown s.connect e (delivered ++ message)) (signaled : Bool) :
    ∃ after, ({ s.set .connect e with signaled := signaled } : Stream).Lead after ∧ Shown s.connect e after := by
  cases lead with
  | unsent early none =>
    rw [none] at queue
    cases queue
  | pending late tail front count carries =>
    rw [front] at queue
    cases queue
    obtain ⟨written, closed⟩ := first count
    refine ⟨[], ?_, shown.congr handler written (.inl closed)⟩
    apply Lead.heard
    · exact late
    · simp [arrived]
    · simp only [set_same, set_connect, arriving]
      exact carries
  | heard late delivered count carries =>
    rw [queue] at carries
    refine ⟨delivered ++ message, ?_, later count⟩
    apply Lead.heard
    · exact late
    · simp [arrived]
    · simp only [set_same, set_connect, arriving]
      exact carries.arrive

structure Waits (s : Stream) : Prop where
  target : (s.ends .expose).handler ≠ some .ready
  quiet : (s.ends .connect).arrived = 0 → s.signaled = false
  stage : (s.ends .connect).arrived = 0 → s.connect = .opening ∨ s.connect = .waiting ∨ s.connect = .ended
  handler : (s.ends .connect).arrived = 0 → (s.ends .connect).handler ≠ some .forward

theorem Waits.congr (waits : s.Waits) (signaled : t.signaled = s.signaled) (connect : t.connect = s.connect)
    (arrived : (t.ends .connect).arrived = (s.ends .connect).arrived)
    (handler : ∀ side, (t.ends side).handler = (s.ends side).handler) : t.Waits := by
  refine ⟨?_, ?_, ?_, ?_⟩
  · rw [handler]
    exact waits.target
  · rw [arrived, signaled]
    exact waits.quiet
  · rw [arrived, connect]
    exact waits.stage
  · rw [arrived, handler]
    exact waits.handler

theorem ConnectNext.waits {before after : ConnectStage} {e f : End} (next : ConnectNext true false before e after f)
    (stage : before = .opening ∨ before = .waiting ∨ before = .ended) (handler : e.handler ≠ some .forward) :
    (after = .opening ∨ after = .waiting ∨ after = .ended) ∧ f.handler ≠ some .forward := by
  cases next with
  | awaits => exact ⟨.inr (.inl rfl), nofun⟩
  | opens mode => cases mode
  | hears heard => cases heard
  | expires => exact ⟨.inr (.inr rfl), handler⟩
  | installs | starts | replies | fails | gone => simp at stage

theorem ExposeNext.target {before after : ExposeStage} {e f : End} (next : ExposeNext true before e after f)
    (handler : e.handler ≠ some .ready) : f.handler ≠ some .ready := by
  cases next with
  | opens | dials | ends | starts => exact handler
  | installs => nofun

theorem Waits.connects (waits : s.Waits) {stage : ConnectStage} {e : End}
    (next : ConnectNext true s.signaled s.connect (s.ends .connect) stage e) :
    ({ s.set .connect e with connect := stage } : Stream).Waits := by
  have early : e.arrived = 0 → (stage = .opening ∨ stage = .waiting ∨ stage = .ended) ∧ e.handler ≠ some .forward := by
    intro none
    rw [next.channel.2] at none
    rw [waits.quiet none] at next
    exact next.waits (waits.stage none) (waits.handler none)
  refine ⟨waits.target, ?_, fun none => (early none).1, fun none => (early none).2⟩
  intro none
  exact waits.quiet (next.channel.2.symm.trans none)

theorem Waits.exposes (waits : s.Waits) {stage : ExposeStage} {e : End}
    (next : ExposeNext true s.expose (s.ends .expose) stage e) :
    ({ s.set .expose e with expose := stage } : Stream).Waits :=
  ⟨next.target waits.target, waits.quiet, waits.stage, waits.handler⟩

theorem Waits.step (waits : s.Waits) (stepped : s.step true act = some t) : t.Waits := by
  cases step_effect stepped with
  | connects ok wrote stage e next => exact waits.connects next
  | exposes ok stage e next => exact waits.exposes next
  | signals => exact waits.congr rfl rfl rfl fun side => by cases side <;> rfl
  | reads side | stops _ side | closes side =>
    cases side <;> exact waits.congr rfl rfl rfl fun side => by cases side <;> rfl
  | sends side => cases side <;> exact waits.congr rfl rfl rfl fun side => by cases side <;> rfl
  | discards side wrote message rest arriving handler signaled kept =>
    cases side with
    | connect => exact ⟨waits.target, nofun, nofun, nofun⟩
    | expose => exact waits.congr (kept waits.target) rfl rfl fun side => by cases side <;> rfl
  | forwards side wrote message rest arriving handler =>
    cases side with
    | connect =>
      have count := End.forward_arrived { s.ends .connect with arriving := rest, arrived := (s.ends .connect).arrived + 1 }
        message wrote
      have some : ∀ p : Prop, (({ s.ends .connect with
          arriving := rest, arrived := (s.ends .connect).arrived + 1 } : End).forward message wrote).arrived = 0 → p := by
        intro p none
        rw [count] at none
        cases none
      exact ⟨waits.target, some _, some _, some _⟩
    | expose =>
      refine waits.congr rfl rfl rfl fun side => ?_
      cases side with
      | connect => rfl
      | expose => exact End.forward_handler ..

structure Proxied (s : Stream) : Prop where
  staged : s.Staged
  waits : s.Waits
  request : s.Flows .expose
  reply : ∃ delivered, s.Lead delivered ∧ Shown s.connect (s.ends .connect) delivered

theorem Lead.shown_step (lead : s.Lead delivered) (shown : Shown s.connect (s.ends .connect) delivered)
    (staged : s.Staged) (waits : s.Waits) (turn : s.InTurn act) (stepped : s.step true act = some t) :
    ∃ after, t.Lead after ∧ Shown t.connect (t.ends .connect) after := by
  cases step_effect stepped with
  | connects ok wrote stage e next =>
    obtain ⟨arriving, arrived⟩ := next.channel
    exact ⟨delivered, lead.congr rfl arriving arrived rfl rfl, shown.next next⟩
  | exposes ok stage e next => exact ⟨delivered, lead.exposes staged next, shown⟩
  | signals ok stage =>
    refine ⟨delivered, lead.signals stage, ?_⟩
    exact shown.congr rfl rfl (.inl rfl)
  | reads side chunk reading =>
    cases side with
    | connect => exact ⟨delivered, lead.congr rfl rfl rfl rfl rfl, shown.congr rfl rfl (.inl rfl)⟩
    | expose =>
      refine ⟨delivered, lead.reader (by rw [reading]; nofun) rfl rfl ?_, shown⟩
      intro front queue delivered arriving carries
      rw [reading] at carries
      exact ⟨queue, arriving, carries.read chunk⟩
  | sends side chunk sending =>
    cases side with
    | connect => exact ⟨delivered, lead.congr rfl rfl rfl rfl rfl, shown.congr rfl rfl (.inl rfl)⟩
    | expose =>
      refine ⟨delivered, lead.reader (by rw [sending]; nofun) rfl rfl ?_, shown.congr rfl rfl (.inl rfl)⟩
      intro front queue delivered arriving carries
      rw [sending] at carries
      refine ⟨queue ++ [chunk], ?_, carries.send⟩
      rw [← List.append_assoc, ← arriving]
      rfl
  | stops _ side running =>
    cases side with
    | connect => exact ⟨delivered, lead.congr rfl rfl rfl rfl rfl, shown.congr rfl rfl (.inr rfl)⟩
    | expose =>
      refine ⟨delivered, lead.reader running rfl rfl ?_, shown⟩
      intro front queue delivered arriving carries
      exact ⟨queue, arriving, carries.stop⟩
  | discards side wrote message rest arriving handler signaled =>
    cases side with
    | expose => exact ⟨delivered, lead.congr rfl rfl rfl rfl rfl, shown⟩
    | connect =>
      refine lead.arrive (e := { s.ends .connect with arriving := rest, arrived := (s.ends .connect).arrived + 1 })
        shown arriving rfl rfl rfl (fun _ => ⟨rfl, rfl⟩) ?_ signaled
      intro behind
      rcases turn with first | done | gone
      · exact absurd first behind
      · exact absurd (shown.bridged (.inr (.inr done))) handler
      · exact shown.closed gone message rfl rfl gone
  | forwards side wrote message rest arriving handler =>
    cases side with
    | expose =>
      refine ⟨delivered, lead.congr rfl rfl rfl ?_ ?_, shown⟩
      · exact End.forward_received ..
      · exact End.forward_reader ..
    | connect =>
      refine lead.arrive (e := End.forward { s.ends .connect with
          arriving := rest, arrived := (s.ends .connect).arrived + 1 } message wrote)
        shown arriving (End.forward_arriving ..) (End.forward_arrived ..) (End.forward_handler ..) ?_ ?_ s.signaled
      · intro first
        exact absurd handler (waits.handler first)
      · intro behind
        rcases turn with first | done | gone
        · exact absurd first behind
        · exact shown.forward done message wrote handler
        · rw [End.forward_closed { s.ends .connect with arriving := rest, arrived := (s.ends .connect).arrived + 1 }
            message wrote gone]
          exact shown.closed gone message rfl rfl gone
  | closes side =>
    cases side with
    | connect => exact ⟨delivered, lead.congr rfl rfl rfl rfl rfl, shown.congr rfl rfl (.inr rfl)⟩
    | expose => exact ⟨delivered, lead.congr rfl rfl rfl rfl rfl, shown⟩

theorem Proxied.step (proxied : s.Proxied) (turn : s.InTurn act) (stepped : s.step true act = some t) : t.Proxied where
  staged := proxied.staged.step stepped
  waits := proxied.waits.step stepped
  request := by
    refine proxied.request.step_expose proxied.staged ?_ stepped
    rintro wrote rfl
    exact turn
  reply := by
    obtain ⟨delivered, lead, shown⟩ := proxied.reply
    exact lead.shown_step shown proxied.staged proxied.waits turn stepped

theorem proxied_initial : initial.Proxied where
  staged := staged_initial
  waits := ⟨nofun, fun _ => rfl, fun _ => .inl rfl, fun _ => nofun⟩
  request := flows_initial .expose
  reply := by
    refine ⟨[], .unsent ?_ rfl rfl rfl rfl, ?_⟩
    · simp [Signaled, initial]
    · exact ⟨by simp [initial], fun _ _ => ⟨rfl, fun _ => rfl⟩, nofun, nofun⟩

theorem Shown.front {stage : ConnectStage} {e : End} (shown : Shown stage e delivered) :
    e.written <+: Socks5.replySuccess ++ delivered := by
  by_cases done : stage = .done
  · exact (shown.done done).front
  · by_cases ended : stage = .ended
    · exact (shown.ended ended).2.trans (List.prefix_append _ _)
    · rw [(shown.early done ended).1]
      exact List.nil_prefix

/-- In SOCKS5 mode the client receives the success reply and then what the target sends, and the target receives what
    the client sends, if the bytes of the target arrive when the reply has been written and those of the client when
    the exposing peer has bridged. -/
theorem socks5_tunnel_fidelity (acts : List Act) (s : Stream) (ran : run (step true) initial acts = some s)
    (turns : Along (step true) InTurn initial acts) :
    (s.ends .connect).written <+: Socks5.replySuccess ++ (s.ends .expose).received ∧
      (s.ends .expose).written <+: (s.ends .connect).received := by
  have proxied : s.Proxied := by
    refine run_invariant (fun _ _ _ proxied turn stepped => Proxied.step proxied turn stepped) initial s acts ?_
      turns ran
    exact proxied_initial
  obtain ⟨delivered, lead, shown⟩ := proxied.reply
  refine ⟨shown.front.trans ?_, proxied.request.front⟩
  exact (List.prefix_append_right_inj _).mpr lead.front

theorem socks5_tunnel_fidelity_replied :
    ∃ s, run (step true) initial
        [.connect true 0, .expose true, .expose true, .expose true, .expose true, .expose true, .arrive .connect 0,
          .connect true 0, .connect true 0, .connect true 0, .connect true 10, .read .expose [7], .send .expose true,
          .arrive .connect 1] = some s ∧
      (s.ends .connect).written = Socks5.replySuccess ++ [7] ∧
      (s.ends .connect).written <+: Socks5.replySuccess ++ (s.ends .expose).received := by
  have result : (run (step true) initial
      [.connect true 0, .expose true, .expose true, .expose true, .expose true, .expose true, .arrive .connect 0,
        .connect true 0, .connect true 0, .connect true 0, .connect true 10, .read .expose [7], .send .expose true,
        .arrive .connect 1]).map (fun s => (s.ends .connect).written) = some (Socks5.replySuccess ++ [7]) := by
    decide +kernel
  obtain ⟨s, ran, written⟩ := Option.map_eq_some_iff.mp result
  exact ⟨s, ran, written, (socks5_tunnel_fidelity _ s ran (by decide +kernel)).1⟩

/-- The target speaks first, and its byte is given to the client before the success reply. -/
theorem target_overtakes_reply :
    ∃ s, run (step true) initial
        [.connect true 0, .expose true, .expose true, .expose true, .expose true, .expose true, .arrive .connect 0,
          .connect true 0, .connect true 0, .connect true 0, .read .expose [7], .send .expose true,
          .arrive .connect 1, .connect true 10] = some s ∧
      (s.ends .expose).received = [7] ∧ (s.ends .connect).written = 7 :: Socks5.replySuccess ∧
      ¬(s.ends .connect).written <+: Socks5.replySuccess ++ (s.ends .expose).received := by
  have result : (run (step true) initial
      [.connect true 0, .expose true, .expose true, .expose true, .expose true, .expose true, .arrive .connect 0,
        .connect true 0, .connect true 0, .connect true 0, .read .expose [7], .send .expose true,
        .arrive .connect 1, .connect true 10]).map (fun s => ((s.ends .expose).received, (s.ends .connect).written)) =
        some ([7], 7 :: Socks5.replySuccess) := by
    decide +kernel
  obtain ⟨s, ran, bytes⟩ := Option.map_eq_some_iff.mp result
  obtain ⟨received, written⟩ := Prod.mk.inj bytes
  refine ⟨s, ran, received, written, ?_⟩
  rw [received, written]
  decide

end Stream

end Rtc2Tcp.Tunnel

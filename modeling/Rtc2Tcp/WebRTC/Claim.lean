import Rtc2Tcp.WebRTC.Opening

namespace Rtc2Tcp.WebRTC

open Octets Go Auth Goroutine

open Prog (perform)

variable {A : Authenticator} {P : Primitives}

section Claim

def Session.unclaimed (s : Session A) : Nat := if s.mode = .connect ∧ s.authStarted = false then 1 else 0

theorem unclaimed_kept {β : Type} (op : Op β) (c : Choice) (s t : Session A) (result : β)
    (other : op.writes .authStarted = false) (executed : Session.exec op c s = some (result, t)) :
    t.unclaimed = s.unclaimed := by
  have framed := Session.exec_frame op c s t result executed
  rw [Session.unclaimed, Session.unclaimed, framed.mode, framed.authStarted other]

/-- Deeds that use the right up: the start itself, or the failing start and the hello. -/
structure Deed.Spends (spent : Deed → Bool) : Prop where
  opening : ∀ d, spent d = true → d.opening = true
  bound : ∀ material ok, spent (.bound material ok) = false
  failed : spent (.started false) = true
  once : ∀ message ok, message.kind = .hello → spent (.sent message ok) = !spent (.started true)

def claimGives : {β : Type} → Op β → β → Prop
  | _, .authStart, result => ∀ hello, result = .ok hello → hello.kind = .hello
  | _, .authStep _, result => result.hasOutbound = true → result.outbound.kind ≠ .hello
  | _, _, _ => True

def claimGains : {β : Type} → Op β → β → Nat
  | _, .claimStart, granted => if granted then 1 else 0
  | _, _, _ => 0

def claimPays (spent : Deed → Bool) : {β : Type} → Op β → β → Nat
  | _, .authStart, result => if spent (.started result.isOk) then 1 else 0
  | _, .sendText _ message, ok => if spent (.sent message ok) then 1 else 0
  | _, _, _ => 0

theorem claim_counted (spent : Deed → Bool) (spends : Deed.Spends spent) {β : Type} (op : Op β) (result : β)
    (s : Session A) : (Session.note op result s).countP spent = claimPays spent op result := by
  have quiet : op.telling = false → (Session.note op result s).countP spent = 0 := by
    intro silent
    refine List.countP_eq_zero.mpr ?_
    intro d member used
    have opens := spends.opening d used
    rw [(note_silent op result s silent d member).1] at opens
    cases opens
  cases op with
  | bindLocked =>
    refine List.countP_eq_zero.mpr ?_
    intro d member used
    simp only [Session.note] at member
    split at member
    · rw [List.mem_singleton.mp member, spends.bound] at used
      cases used
    · cases member
  | authStart => exact List.countP_singleton
  | sendText dc message => exact List.countP_singleton
  | _ => exact quiet rfl

def claimLedger (P : Primitives) (spent : Deed → Bool) (spends : Deed.Spends spent) :
    Ledger (recordedMachine (interactive P)) Nat where
  inv _ := True
  holds x := x.1.unclaimed + x.2.countP spent
  gives := claimGives
  gains := claimGains
  pays := claimPays spent
  sound op c x y result _ executed := by
    obtain ⟨executed, deeds⟩ := recorded_exec executed
    constructor
    · cases op with
      | authStart =>
        intro hello made
        rcases InteractiveAuthenticator.start_spec x.1.authenticator with ⟨e, failed, _⟩ | ⟨_, _, _, started⟩
        · obtain rfl : (InteractiveAuthenticator.start x.1.authenticator).1 = result :=
            congrArg Prod.fst (Option.some.inj executed)
          rw [failed] at made
          cases made
        · obtain rfl : (InteractiveAuthenticator.start x.1.authenticator).1 = result :=
            congrArg Prod.fst (Option.some.inj executed)
          rw [started] at made
          cases made
          rfl
      | authStep inbound =>
        obtain rfl : (InteractiveAuthenticator.step x.1.authenticator inbound).1 = result :=
          congrArg Prod.fst (Option.some.inj executed)
        exact step_answers _ _ inbound _ rfl
      | _ => trivial
    · rw [deeds, List.countP_append, claim_counted spent spends]
      have quiet : op.writes .authStarted = false →
          x.1.unclaimed + x.2.countP spent + claimPays spent op result =
            y.1.unclaimed + (x.2.countP spent + claimPays spent op result) := by
        intro other
        rw [unclaimed_kept op c x.1 y.1 result other executed, Nat.add_assoc]
      cases op with
      | claimStart =>
        simp only [Session.exec] at executed
        split at executed
        · obtain ⟨rfl, same⟩ : false = result ∧ x.1 = y.1 := by simpa using executed
          rw [← same]
          rfl
        · rename_i free
          obtain ⟨rfl, same⟩ : true = result ∧ { x.1 with authStarted := true } = y.1 := by simpa using executed
          simp only [ne_eq, not_or, not_not, Bool.not_eq_true] at free
          rw [← same]
          simp [Session.unclaimed, free.1, free.2, claimPays, claimGains, Nat.add_comm]
      | _ => exact quiet rfl

def Call.limit (call : Call) (load : Nat) : Prop := call.side = true → load = 0

variable {spent : Deed → Bool} (spends : Deed.Spends spent)

abbrev ClaimCarries {α : Type} (limit : Nat → Prop) (post : Nat → α → Prop) (load : Nat) (p : Prog Op α) : Prop :=
  Carries (claimLedger P spent spends) limit post load p

def Op.unmoving : {β : Type} → Op β → Bool
  | _, .claimStart => false
  | _, .authStart => false
  | _, .sendText _ _ => false
  | _, _ => true

theorem claim_idle {α : Type} {op : Op α} {limit : Nat → Prop} {load : Nat} (small : limit load)
    (unmoving : op.unmoving = true) :
    ClaimCarries (P := P) spends limit (fun left _ => left = load) load (perform op) := by
  refine Carries.idle small ?_ fun _ => rfl
  intro result
  cases op with
  | claimStart => cases unmoving
  | authStart => cases unmoving
  | sendText => cases unmoving
  | _ => exact ⟨rfl, rfl⟩

theorem claim_then {α β : Type} {op : Op α} {f : α → Prog Op β} {limit : Nat → Prop} {post : Nat → β → Prop}
    {load : Nat} (small : limit load) (unmoving : op.unmoving = true)
    (rest : ∀ result, ClaimCarries (P := P) spends limit post load (f result)) :
    ClaimCarries (P := P) spends limit post load (perform op >>= f) := by
  refine Carries.bind (claim_idle spends small unmoving) ?_
  rintro left result rfl
  exact rest result

abbrev Unburdened {α : Type} (limit : Nat → Prop) (p : Prog Op α) : Prop :=
  ClaimCarries (P := P) spends limit (fun left _ => left = 0) 0 p

variable {limit : Nat → Prop} (none : limit 0)
include none

theorem claim_done {α : Type} (value : α) : Unburdened (P := P) spends limit (pure value) := Carries.pure none rfl

theorem claim_sequenced : Sequenced fun p => Unburdened (P := P) spends limit p where
  pure value := claim_done spends none value
  bind first rest := Carries.bind first fun left value empty => by rw [empty]; exact rest value

theorem claim_ending {α : Type} (op : Op α) (ends : op.ending = true) :
    Unburdened (P := P) spends limit (perform op) := by
  refine claim_idle spends none ?_
  cases op with
  | claimStart | authStart | sendText => cases ends
  | _ => rfl

theorem claim_fail (err : SessionError) : Unburdened (P := P) spends limit (fail err) :=
  (claim_sequenced spends none).fail (claim_ending spends none) err

theorem claim_close : Unburdened (P := P) spends limit close :=
  (claim_sequenced spends none).close (claim_ending spends none)

theorem claim_composed : Composed fun p => Unburdened (P := P) spends limit p := by
  refine (claim_sequenced spends none).composed (claim_ending spends none) ?_
  intro α op plain
  refine claim_idle spends none ?_
  cases op with
  | claimStart | authStart | sendText => cases plain
  | _ => rfl

theorem claim_send (control : DataChannel) (message : Message) (other : message.kind ≠ .hello) :
    Unburdened (P := P) spends limit (perform (.sendText control message)) := by
  refine Carries.idle none ?_ fun _ => rfl
  intro ok
  have unspent : spent (.sent message ok) = false := by
    by_contra used
    have opens := spends.opening _ (by simpa using used)
    simp [Deed.opening, other] at opens
  exact ⟨rfl, by simp [claimLedger, claimPays, unspent]⟩

theorem claim_handleControlMessage (decodeMessage : Bytes → Option Message) (data : Bytes) :
    Unburdened (P := P) spends limit (handleControlMessage decodeMessage data) := by
  have done : ∀ error : Option SessionError, Unburdened (P := P) spends limit (pure error) := claim_done spends none
  unfold handleControlMessage
  refine claim_then spends none (by rfl) fun pending => ?_
  split
  · exact done _
  · split
    · exact done _
    · rename_i inbound decoded
      refine claim_then spends none (by rfl) fun bound => ?_
      split
      · exact done _
      · rename_i control
        have stepped : ClaimCarries (P := P) spends limit
            (fun left result => left = 0 ∧ (result.hasOutbound = true → result.outbound.kind ≠ .hello)) 0
            (perform (.authStep inbound)) :=
          Carries.perform none fun result given => ⟨0, rfl, none, rfl, given⟩
        refine Carries.bind stepped ?_
        rintro left result ⟨rfl, quiet⟩
        split
        · exact done _
        · have sent : Unburdened (P := P) spends limit (sendOutbound control result) := by
            unfold sendOutbound
            split
            · rename_i outbound
              exact claim_send spends none control _ (quiet outbound)
            · exact claim_done spends none true
          refine Carries.bind sent ?_
          rintro left ok rfl
          split
          · exact done _
          · split
            · unfold finishAuth
              refine claim_then spends none (by rfl) fun error => ?_
              split
              · exact done _
              · exact claim_then spends none (by rfl) fun _ => done _
            · exact done _

omit none in
theorem claim_start (control : DataChannel) : ClaimCarries (P := P) spends (fun _ => True) (fun left _ => left = 0) 1
    (do
      match ← perform .authStart with
      | .error e => fail (.auth e)
      | .ok hello =>
        if !(← perform (.sendText control hello)) then
          fail .send) := by
  let left : Nat := if spent (.started true) then 0 else 1
  have started : ClaimCarries (P := P) spends (fun _ => True)
      (fun load result => (∀ e, result = .error e → load = 0) ∧
        (∀ hello, result = .ok hello → hello.kind = .hello ∧ load = left)) 1 (perform .authStart) := by
    refine Carries.perform trivial ?_
    intro result given
    cases result with
    | error e =>
      refine ⟨0, ?_, trivial, fun _ _ => rfl, nofun⟩
      have failed : spent (.started (Except.error e : Except AuthError Message).isOk) = true := spends.failed
      simp [claimLedger, claimGains, claimPays, failed]
    | ok hello =>
      refine ⟨left, ?_, trivial, nofun, fun other same => ?_⟩
      · simp only [claimLedger, claimGains, claimPays, left]
        have ok : (Except.ok hello : Except AuthError Message).isOk = true := rfl
        rw [ok]
        cases spent (.started true) <;> rfl
      · cases same
        exact ⟨given hello rfl, rfl⟩
  refine Carries.bind started ?_
  rintro load result ⟨failed, made⟩
  split
  · rename_i e
    rw [failed e rfl]
    exact claim_fail spends trivial _
  · rename_i hello
    obtain ⟨kind, rfl⟩ := made hello rfl
    have sent : ClaimCarries (P := P) spends (fun _ => True) (fun load _ => load = 0) left
        (perform (.sendText control hello)) := by
      refine Carries.perform trivial ?_
      intro ok _
      refine ⟨0, ?_, trivial, rfl⟩
      simp only [claimLedger, claimGains, claimPays, spends.once hello ok kind, left]
      cases spent (.started true) <;> rfl
    refine Carries.bind sent ?_
    rintro load ok rfl
    split
    · exact claim_fail spends trivial _
    · exact claim_done spends trivial _

omit none in
theorem claim_maybeSendAuth : Unburdened (P := P) spends (fun _ => True) maybeSendAuth := by
  have done : Unburdened (P := P) spends (fun _ => True) (pure ()) := claim_done spends trivial _
  unfold maybeSendAuth
  refine claim_then spends trivial (by rfl) fun pending => ?_
  split
  · exact done
  · refine claim_then spends trivial (by rfl) fun opened => ?_
    split
    · exact done
    · refine claim_then spends trivial (by rfl) fun tried => ?_
      split
      · exact done
      · exact claim_fail spends trivial _
      · rename_i control
        have claimed : ClaimCarries (P := P) spends (fun _ => True)
            (fun load granted => load = if granted then 1 else 0) 0 (perform .claimStart) := by
          refine Carries.perform trivial fun granted _ => ⟨if granted then 1 else 0, ?_, trivial, rfl⟩
          cases granted <;> rfl
        refine Carries.bind claimed ?_
        rintro load granted rfl
        split
        · exact claim_start spends control
        · exact done

omit none in
theorem claim_body (unmarshalString : Bytes → Option SessionDescription) (decodeMessage : Bytes → Option Message)
    (hasOnStream : Bool) (call : Call) :
    Unburdened (P := P) spends call.limit (body unmarshalString decodeMessage hasOnStream call) := by
  cases side : call.side with
  | true =>
    have empty : call.limit 0 := fun _ => rfl
    exact (claim_composed spends empty).side unmarshalString decodeMessage (claim_close spends empty)
      (fun _ => claim_idle spends empty rfl) hasOnStream call side
  | false =>
    have free : call.limit = fun _ => True := by
      funext load
      simp [Call.limit, side]
    rw [free]
    have C : Composed fun p => Unburdened (P := P) spends (fun _ => True) p := claim_composed spends trivial
    refine C.body unmarshalString decodeMessage ?_ (claim_maybeSendAuth spends) (claim_close spends trivial)
      (fun data => C.onControlMessage decodeMessage data (claim_handleControlMessage spends trivial decodeMessage data))
      hasOnStream call
    intro β op outer
    refine claim_idle spends trivial ?_
    cases op with
    | claimStart => cases outer
    | authStart => cases outer
    | sendText => cases outer
    | _ => rfl

end Claim

end Rtc2Tcp.WebRTC

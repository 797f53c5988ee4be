import Rtc2Tcp.Lib.TokenBucket
import Rtc2Tcp.Lib.Transition
import Rtc2Tcp.Rendezvous.Broker
import Rtc2Tcp.Rendezvous.Proxy

namespace Rtc2Tcp.Rendezvous

open Octets Go Sweep Transition TokenBucket

structure KeyedLimiterEntry where
  limiter : Limiter
  lastSeen : Int

structure KeyedLimiter where
  rateLimit : Limit
  burst : Int
  keys : Map KeyedLimiterEntry

def newKeyedLimiter (rateLimit : Limit) (burst : Int) : KeyedLimiter := ⟨rateLimit, burst, ∅⟩

namespace KeyedLimiter

def limiter (l : KeyedLimiter) (key : Bytes) : Limiter :=
  match l.keys.lookup key with
  | some entry => entry.limiter
  | none => newLimiter l.rateLimit l.burst

def allow (l : KeyedLimiter) (key : Bytes) (now : Int) : Bool × KeyedLimiter :=
  let (ok, limiter) := (l.limiter key).allow now
  (ok, { l with keys := l.keys.insert key ⟨limiter, now⟩ })

/-- `Cleanup`, with the order in which its loop visits the keys. -/
def cleanup (l : KeyedLimiter) (cutoff : Int) (order : List Bytes) : KeyedLimiter × Nat :=
  let (keys, evicted) := sweep (fun entry => entry.lastSeen < cutoff) order l.keys
  ({ l with keys := keys }, evicted.length)

end KeyedLimiter

structure Options where
  trustedProxies : List Bytes := []
  trustedProxyHeader : Bytes := []
  ratePerMinute : Int := 0
  rateBurst : Int := 0

/-- The part of the broker that decides whether an upgrade is allowed. -/
structure UpgradeGate where
  trustedProxies : List TrustedNet
  trustedProxyHeader : Bytes
  limiterIdleTTL : Int
  ipLimiter : KeyedLimiter

def minute : Int := 60 * 1000000000

def defaultUpgradeRatePerMinute : Int := 30

def defaultUpgradeBurst : Int := 10

def defaultLimiterIdleTTL : Int := 60 * minute

/-- What `NewBrokerWithOptions` makes of the options. -/
def newBrokerWithOptions (opts : Options) : Except ProxyError UpgradeGate := do
  let trusted ← parseTrustedProxies ([0x2c].intercalate opts.trustedProxies)
  let header := trimSpace opts.trustedProxyHeader
  let header := if header = [] ∧ trusted ≠ [] then xForwardedFor else header
  let ratePerMinute := if opts.ratePerMinute ≤ 0 then defaultUpgradeRatePerMinute else opts.ratePerMinute
  let burst := if opts.rateBurst ≤ 0 then defaultUpgradeBurst else opts.rateBurst
  return ⟨trusted, header, defaultLimiterIdleTTL, newKeyedLimiter (every (minute / ratePerMinute)) burst⟩

/-- The first step of `handleWebSocket`. -/
def UpgradeGate.upgrade (g : UpgradeGate) (r : HTTPRequest) (now : Int) : Bool × UpgradeGate :=
  let sourceIP := clientIP r g.trustedProxies g.trustedProxyHeader
  let (ok, limiter) := g.ipLimiter.allow sourceIP now
  (ok, { g with ipLimiter := limiter })

/-- The requests of a list that are upgraded, with the address of the client. -/
def UpgradeGate.admitted (g : UpgradeGate) : List (HTTPRequest × Int) → List (Bytes × Int)
  | [] => []
  | (r, now) :: rest =>
    (if (g.upgrade r now).1 then [(clientIP r g.trustedProxies g.trustedProxyHeader, now)] else []) ++
      (g.upgrade r now).2.admitted rest

inductive LimiterAct where
  | allow (key : Bytes) (now : Int)
  | cleanup (now : Int) (order : List Bytes)
deriving DecidableEq, Repr

structure LimiterRun where
  limiter : KeyedLimiter
  clock : Int

namespace LimiterRun

def step (idleTTL : Int) (s : LimiterRun) : LimiterAct → Option LimiterRun
  | .allow key now => if s.clock ≤ now then some ⟨(s.limiter.allow key now).2, now⟩ else none
  | .cleanup now order =>
    if s.clock ≤ now ∧ order.Perm s.limiter.keys.keys then some ⟨(s.limiter.cleanup (now - idleTTL) order).1, now⟩
    else none

def grant (s : LimiterRun) (act : LimiterAct) (_ : LimiterRun) : List (Bytes × Int) :=
  match act with
  | .allow key now => if (s.limiter.allow key now).1 then [(key, now)] else []
  | .cleanup _ _ => []

/-- The number of calls of `Allow` for a key within a window that a run answers with true. -/
def granted (idleTTL : Int) (s : LimiterRun) (acts : List LimiterAct) (key : Bytes) (start stop : Int) : Nat :=
  (log (step idleTTL) grant s acts).countP fun call => call.1 = key ∧ start ≤ call.2 ∧ call.2 ≤ stop

end LimiterRun

/-- In every window a client gets at most the burst and one upgrade for each interval. -/
def UpgradeGate.Bounded (g : UpgradeGate) (burst interval : Int) : Prop :=
  ∀ (began : Int) (acts : List LimiterAct) (s : LimiterRun),
    run (LimiterRun.step g.limiterIdleTTL) ⟨g.ipLimiter, began⟩ acts = some s →
    ∀ (key : Bytes) (start length : Int), 0 ≤ length → interval ≠ 0 →
      (LimiterRun.granted g.limiterIdleTTL ⟨g.ipLimiter, began⟩ acts key start (start + length) : ℚ) ≤
        burst + length / interval

/-- The requests that arrive between two sweeps of the janitor are calls of `Allow`. -/
theorem UpgradeGate.admitted_run (g : UpgradeGate) (began : Int) (requests : List (HTTPRequest × Int))
    (ordered : (began :: requests.map Prod.snd).IsChain (· ≤ ·)) :
    ∃ acts s, run (LimiterRun.step g.limiterIdleTTL) ⟨g.ipLimiter, began⟩ acts = some s ∧
      log (LimiterRun.step g.limiterIdleTTL) LimiterRun.grant ⟨g.ipLimiter, began⟩ acts = g.admitted requests := by
  induction requests generalizing g began with
  | nil => exact ⟨[], _, rfl, rfl⟩
  | cons request rest ih =>
    obtain ⟨r, now⟩ := request
    rw [List.map_cons, List.isChain_cons_cons] at ordered
    obtain ⟨acts, s, ran, logged⟩ := ih (g.upgrade r now).2 now ordered.2
    refine ⟨.allow (clientIP r g.trustedProxies g.trustedProxyHeader) now :: acts, s, ?_, ?_⟩
    · simp only [run, LimiterRun.step, if_pos ordered.1]
      exact ran
    · simp only [log, LimiterRun.step, if_pos ordered.1, admitted]
      exact congrArg _ logged

theorem UpgradeGate.Bounded.admitted {g : UpgradeGate} {burst interval : Int} (bounded : g.Bounded burst interval)
    (began : Int) (requests : List (HTTPRequest × Int))
    (ordered : (began :: requests.map Prod.snd).IsChain (· ≤ ·)) (address : Bytes) (start length : Int)
    (window : 0 ≤ length) (spaced : interval ≠ 0) :
    (((g.admitted requests).countP fun call => call.1 = address ∧ start ≤ call.2 ∧ call.2 ≤ start + length : Nat) : ℚ) ≤
      burst + length / interval := by
  obtain ⟨acts, s, ran, logged⟩ := g.admitted_run began requests ordered
  have most := bounded began acts s ran address start length window spaced
  rwa [LimiterRun.granted, logged] at most

namespace KeyedLimiter

structure Sound (l : KeyedLimiter) (rate : ℚ) (burst now : Int) : Prop where
  limit : l.rateLimit = .per rate
  capacity : l.burst = burst
  entries : ∀ key entry, l.keys.lookup key = some entry → entry.limiter.limit = .per rate ∧
    entry.limiter.burst = burst ∧ 0 ≤ entry.limiter.tokens ∧ entry.limiter.last ≤ entry.lastSeen ∧ entry.lastSeen ≤ now

def level (l : KeyedLimiter) (rate : ℚ) (key : Bytes) (now : Int) : ℚ := (l.limiter key).advance rate now

variable {l : KeyedLimiter} {rate : ℚ} {burst now t : Int} {key : Bytes}

theorem Sound.limiter (sound : l.Sound rate burst now) (some_ : 1 ≤ burst) (key : Bytes) :
    (l.limiter key).limit = .per rate ∧ (l.limiter key).burst = burst ∧ 0 ≤ (l.limiter key).tokens := by
  unfold KeyedLimiter.limiter
  split
  · rename_i entry found
    obtain ⟨limit, capacity, tokens, _⟩ := sound.entries key entry found
    exact ⟨limit, capacity, tokens⟩
  · refine ⟨sound.limit, sound.capacity, ?_⟩
    have : (0 : ℚ) ≤ l.burst := by
      rw [sound.capacity]
      exact_mod_cast (by omega : 0 ≤ burst)
    exact this

theorem Sound.level_le (sound : l.Sound rate burst now) (some_ : 1 ≤ burst) (key : Bytes) (t : Int) :
    l.level rate key t ≤ burst := by
  rw [← (sound.limiter some_ key).2.1]
  exact Limiter.advance_le_burst

theorem Sound.level_nonneg (sound : l.Sound rate burst now) (some_ : 1 ≤ burst) (nonneg : 0 ≤ rate) (key : Bytes)
    (t : Int) : 0 ≤ l.level rate key t := by
  obtain ⟨_, capacity, tokens⟩ := sound.limiter some_ key
  exact Limiter.advance_nonneg nonneg (by omega) tokens

theorem level_untracked (free : l.keys.lookup key = none) (nonneg : 0 ≤ rate) (t : Int) :
    l.level rate key t = l.burst := by
  rw [level, limiter, free]
  exact Limiter.advance_newLimiter _ _ nonneg

theorem Sound.level_later (sound : l.Sound rate burst now) (nonneg : 0 ≤ rate) (later : now ≤ t) (key : Bytes) :
    l.level rate key t ≤ l.level rate key now + (t - now : Int) * rate := by
  cases found : l.keys.lookup key with
  | none =>
    have passed : (0 : ℚ) ≤ (t - now : Int) * rate :=
      mul_nonneg (by exact_mod_cast (by omega : 0 ≤ t - now)) nonneg
    rw [level_untracked found nonneg, level_untracked found nonneg]
    linarith
  | some entry =>
    obtain ⟨_, _, _, last, seen⟩ := sound.entries key entry found
    simp only [level, KeyedLimiter.limiter, found]
    exact Limiter.advance_le nonneg (last.trans seen) later

theorem lookup_allow (key other : Bytes) :
    (l.allow key now).2.keys.lookup other =
      if other = key then some ⟨((l.limiter key).allow now).2, now⟩ else l.keys.lookup other := by
  split
  · rename_i same
    subst same
    exact AList.lookup_insert _
  · rename_i apart
    exact AList.lookup_insert_ne apart

theorem Sound.allow (sound : l.Sound rate burst now) (some_ : 1 ≤ burst) (nonneg : 0 ≤ rate) (later : now ≤ t)
    (key : Bytes) :
    (l.allow key t).2.Sound rate burst t where
  limit := sound.limit
  capacity := sound.capacity
  entries := by
    intro other entry found
    rw [lookup_allow] at found
    split at found
    · cases found
      obtain ⟨limit, capacity, tokens⟩ := sound.limiter some_ key
      refine ⟨by simpa using limit, by simpa using capacity, ?_⟩
      cases answer : ((l.limiter key).allow t).1 with
      | true =>
        obtain ⟨enough, taken⟩ := Limiter.allow_granted limit answer
        rw [taken]
        exact ⟨by simp only; linarith, le_rfl, le_rfl⟩
      | false =>
        rw [Limiter.allow_denied limit answer]
        refine ⟨tokens, ?_, le_rfl⟩
        cases tracked : l.keys.lookup key with
        | none =>
          -- A new limiter is full, and does not deny the first call.
          have full : 1 ≤ (l.limiter key).advance rate t := by
            have level := level_untracked tracked nonneg t
            rw [KeyedLimiter.level, sound.capacity] at level
            rw [level]
            exact_mod_cast some_
          rw [Limiter.allow_of_token limit (by omega) full] at answer
          cases answer
        | some entry =>
          obtain ⟨_, _, _, last, seen⟩ := sound.entries key entry tracked
          simp only [KeyedLimiter.limiter, tracked]
          exact last.trans (seen.trans later)
    · obtain ⟨limit, capacity, tokens, last, seen⟩ := sound.entries other entry found
      exact ⟨limit, capacity, tokens, last, seen.trans later⟩

theorem Sound.cleanup (sound : l.Sound rate burst now) (later : now ≤ t) (cutoff : Int) (order : List Bytes) :
    (l.cleanup cutoff order).1.Sound rate burst t where
  limit := sound.limit
  capacity := sound.capacity
  entries := by
    intro key entry found
    obtain ⟨held, _⟩ := (sweep_lookup _ order l.keys key entry).mp found
    obtain ⟨limit, capacity, tokens, last, seen⟩ := sound.entries key entry held
    exact ⟨limit, capacity, tokens, last, seen.trans later⟩

theorem Sound.level_allow (sound : l.Sound rate burst now) (some_ : 1 ≤ burst) (called key : Bytes) :
    (l.allow called t).2.level rate key t =
      l.level rate key t - if key = called ∧ (l.allow called t).1 = true then 1 else 0 := by
  rw [level, KeyedLimiter.limiter, lookup_allow]
  by_cases same : key = called
  · subst same
    have limit := (sound.limiter some_ key).1
    cases answer : ((l.limiter key).allow t).1 with
    | true =>
      have granted : (l.allow key t).1 = true := answer
      rw [if_pos rfl, if_pos ⟨rfl, granted⟩]
      exact Limiter.advance_granted limit answer
    | false =>
      have denied : (l.allow key t).1 = false := answer
      rw [if_pos rfl, if_neg (by simp [denied]), sub_zero]
      simp only [Limiter.allow_denied limit answer]
      rfl
  · rw [if_neg same, if_neg (by simp [same]), sub_zero]
    rfl

theorem Sound.level_cleanup (sound : l.Sound rate burst now) (nonneg : 0 ≤ rate) (later : now ≤ t) {idleTTL : Int}
    (idle : (burst : ℚ) ≤ (idleTTL + 1) * rate) (order : List Bytes) (key : Bytes) :
    (l.cleanup (t - idleTTL) order).1.level rate key t = l.level rate key t := by
  cases found : l.keys.lookup key with
  | none =>
    have gone : (l.cleanup (t - idleTTL) order).1.keys.lookup key = none := by
      by_contra kept
      obtain ⟨entry, kept⟩ := Option.ne_none_iff_exists'.mp kept
      rw [((sweep_lookup _ order l.keys key entry).mp kept).1] at found
      cases found
    rw [level_untracked found nonneg, level_untracked gone nonneg]
    rfl
  | some entry =>
    obtain ⟨limit, capacity, tokens, last, seen⟩ := sound.entries key entry found
    cases kept : (l.cleanup (t - idleTTL) order).1.keys.lookup key with
    | some other =>
      have same := ((sweep_lookup _ order l.keys key other).mp kept).1
      rw [found] at same
      cases same
      simp only [level, KeyedLimiter.limiter, found, kept]
    | none =>
      -- The key was evicted, so it had not been seen for longer than the idle time.
      have stale : entry.lastSeen < t - idleTTL := by
        by_contra fresh
        have still : (l.cleanup (t - idleTTL) order).1.keys.lookup key = some entry :=
          (sweep_lookup (fun entry : KeyedLimiterEntry => entry.lastSeen < t - idleTTL) order l.keys key entry).mpr
            ⟨found, fun both => fresh both.2⟩
        rw [still] at kept
        cases kept
      have long : (entry.limiter.burst : ℚ) ≤ (t - entry.limiter.last : Int) * rate := by
        have elapsed : (idleTTL + 1 : ℚ) ≤ (t - entry.limiter.last : Int) := by
          exact_mod_cast (by omega : idleTTL + 1 ≤ t - entry.limiter.last)
        rw [capacity]
        exact idle.trans (mul_le_mul_of_nonneg_right elapsed nonneg)
      have full := Limiter.advance_full tokens (last.trans (seen.trans later)) long
      rw [level_untracked kept nonneg, level]
      simp only [KeyedLimiter.limiter, found, full, capacity]
      exact_mod_cast sound.capacity

end KeyedLimiter

namespace LimiterRun

variable {s t : LimiterRun} {act : LimiterAct} {rate : ℚ} {burst idleTTL : Int}

theorem step_cases (stepped : s.step idleTTL act = some t) :
    s.clock ≤ t.clock ∧
    ((∃ key, act = .allow key t.clock ∧ t.limiter = (s.limiter.allow key t.clock).2) ∨
      ∃ order, act = .cleanup t.clock order ∧ order.Perm s.limiter.keys.keys ∧
        t.limiter = (s.limiter.cleanup (t.clock - idleTTL) order).1) := by
  cases act with
  | allow key now =>
    simp only [step] at stepped
    split at stepped
    · rename_i later
      cases stepped
      exact ⟨later, .inl ⟨key, rfl, rfl⟩⟩
    · cases stepped
  | cleanup now order =>
    simp only [step] at stepped
    split at stepped
    · rename_i both
      cases stepped
      exact ⟨both.1, .inr ⟨order, rfl, both.2, rfl⟩⟩
    · cases stepped

theorem grant_clock (stepped : s.step idleTTL act = some t) (call : Bytes × Int) (member : call ∈ s.grant act t) :
    call.2 = t.clock := by
  obtain ⟨_, ⟨key, rfl, _⟩ | ⟨order, rfl, _⟩⟩ := step_cases stepped
  · simp only [grant] at member
    split at member
    · rw [List.mem_singleton.mp member]
    · cases member
  · cases member

theorem level_step (sound : s.limiter.Sound rate burst s.clock) (some_ : 1 ≤ burst) (nonneg : 0 ≤ rate)
    (idle : (burst : ℚ) ≤ (idleTTL + 1) * rate) (stepped : s.step idleTTL act = some t) (key : Bytes) :
    t.limiter.Sound rate burst t.clock ∧
    t.limiter.level rate key t.clock =
      s.limiter.level rate key t.clock - ((s.grant act t).countP fun call => call.1 = key : Nat) := by
  obtain ⟨later, ⟨called, rfl, after⟩ | ⟨order, rfl, _, after⟩⟩ := step_cases stepped
  · rw [after]
    refine ⟨sound.allow some_ nonneg later called, ?_⟩
    rw [sound.level_allow some_ called key]
    simp only [grant]
    by_cases granted : (s.limiter.allow called t.clock).1 = true
    · by_cases same : key = called
      · simp [granted, same]
      · simp [granted, same, Ne.symm same]
    · simp [granted]
  · rw [after]
    refine ⟨sound.cleanup later _ order, ?_⟩
    rw [sound.level_cleanup nonneg later idle order key]
    simp [grant]

/-- What a key was granted since a time, together with what it has left, is paid by the burst and the time since. -/
structure Paid (rate : ℚ) (burst : Int) (key : Bytes) (start : Int) (calls : List (Bytes × Int)) (s : LimiterRun) :
    Prop where
  sound : s.limiter.Sound rate burst s.clock
  past : ∀ call ∈ calls, call.2 ≤ s.clock
  paid : (calls.countP fun call => call.1 = key ∧ start ≤ call.2 : Nat) + s.limiter.level rate key s.clock ≤
    burst + (max 0 (s.clock - start) : Int) * rate

theorem Paid.step {key : Bytes} {start : Int} {calls : List (Bytes × Int)} (paid : Paid rate burst key start calls s)
    (some_ : 1 ≤ burst) (nonneg : 0 ≤ rate) (idle : (burst : ℚ) ≤ (idleTTL + 1) * rate)
    (stepped : s.step idleTTL act = some t) : Paid rate burst key start (calls ++ s.grant act t) t := by
  have later := (step_cases stepped).1
  obtain ⟨sound, level⟩ := level_step paid.sound some_ nonneg idle stepped key
  refine ⟨sound, ?_, ?_⟩
  · intro call member
    rcases List.mem_append.mp member with old | new
    · exact (paid.past call old).trans later
    · exact (grant_clock stepped call new).le
  · have granted : ((s.grant act t).countP fun call => call.1 = key ∧ start ≤ call.2) ≤
        (s.grant act t).countP fun call => call.1 = key :=
      List.countP_mono_left (by simp +contextual)
    have granted' : (((s.grant act t).countP fun call => call.1 = key ∧ start ≤ call.2 : Nat) : ℚ) ≤
        ((s.grant act t).countP fun call => call.1 = key : Nat) := by exact_mod_cast granted
    rw [List.countP_append, level, Nat.cast_add]
    by_cases started : start ≤ s.clock
    · have gained := paid.sound.level_later nonneg later key
      have before := paid.paid
      have since : max 0 (s.clock - start) = s.clock - start := max_eq_right (by omega)
      have until_ : max 0 (t.clock - start) = t.clock - start := max_eq_right (by omega)
      rw [since] at before
      rw [until_]
      push_cast at before gained ⊢
      linarith
    · have nothing : (calls.countP fun call => call.1 = key ∧ start ≤ call.2) = 0 := by
        rw [List.countP_eq_zero]
        intro call member
        have := paid.past call member
        simp only [decide_eq_true_eq, not_and]
        omega
      have most := paid.sound.level_le some_ key t.clock
      have time : (0 : ℚ) ≤ (max 0 (t.clock - start) : Int) * rate :=
        mul_nonneg (by exact_mod_cast le_max_left _ _) nonneg
      rw [nothing]
      push_cast at time ⊢
      linarith

end LimiterRun

section Window

variable {rate : ℚ} {burst idleTTL : Int}

theorem paid_run (some_ : 1 ≤ burst) (nonneg : 0 ≤ rate) (idle : (burst : ℚ) ≤ (idleTTL + 1) * rate) (key : Bytes)
    (start : Int) (s t : LimiterRun) (acts : List LimiterAct) (sound : s.limiter.Sound rate burst s.clock)
    (ran : run (LimiterRun.step idleTTL) s acts = some t) :
    LimiterRun.Paid rate burst key start (log (LimiterRun.step idleTTL) LimiterRun.grant s acts) t := by
  apply run_history s t acts _ _ ran
  · refine ⟨sound, by simp [log], ?_⟩
    have most := sound.level_le some_ key s.clock
    have time : (0 : ℚ) ≤ (max 0 (s.clock - start) : Int) * rate :=
      mul_nonneg (by exact_mod_cast le_max_left _ _) nonneg
    simp only [log, List.countP_nil, Nat.cast_zero]
    linarith
  · intro before u act v reached paid stepped
    rw [log_snoc _ s u v before act reached stepped]
    exact paid.step some_ nonneg idle stepped

theorem granted_le (some_ : 1 ≤ burst) (nonneg : 0 ≤ rate) (idle : (burst : ℚ) ≤ (idleTTL + 1) * rate) (key : Bytes)
    (start stop : Int) (ordered : start ≤ stop) (s t : LimiterRun) (acts : List LimiterAct)
    (sound : s.limiter.Sound rate burst s.clock) (ran : run (LimiterRun.step idleTTL) s acts = some t) :
    (s.granted idleTTL acts key start stop : ℚ) ≤ burst + (stop - start : Int) * rate := by
  have whole : (0 : ℚ) ≤ burst := by exact_mod_cast (by omega : 0 ≤ burst)
  have time : (0 : ℚ) ≤ (stop - start : Int) * rate :=
    mul_nonneg (by exact_mod_cast (by omega : 0 ≤ stop - start)) nonneg
  apply run_history s t acts _ _ ran
  · simp only [LimiterRun.granted, log, List.countP_nil, Nat.cast_zero]
    linarith
  · intro before u act v reached bounded stepped
    have paid := paid_run some_ nonneg idle key start s v _ sound (run_snoc s u v before act reached stepped)
    by_cases open_ : v.clock ≤ stop
    · -- The window is still open, and everything granted since its start is paid.
      have rest := paid.sound.level_nonneg some_ nonneg key v.clock
      have inside : s.granted idleTTL (before ++ [act]) key start stop ≤
          (log (LimiterRun.step idleTTL) LimiterRun.grant s (before ++ [act])).countP fun call =>
            call.1 = key ∧ start ≤ call.2 :=
        List.countP_mono_left (by simp +contextual)
      have elapsed : ((max 0 (v.clock - start) : Int) : ℚ) * rate ≤ (stop - start : Int) * rate :=
        mul_le_mul_of_nonneg_right (by exact_mod_cast (by omega : max 0 (v.clock - start) ≤ stop - start)) nonneg
      have counted : (s.granted idleTTL (before ++ [act]) key start stop : ℚ) ≤
          ((log (LimiterRun.step idleTTL) LimiterRun.grant s (before ++ [act])).countP fun call =>
            call.1 = key ∧ start ≤ call.2 : Nat) := by exact_mod_cast inside
      have total := paid.paid
      linarith
    · have nothing : ((u.grant act v).countP fun call => call.1 = key ∧ start ≤ call.2 ∧ call.2 ≤ stop) = 0 := by
        rw [List.countP_eq_zero]
        intro call member
        have clock := LimiterRun.grant_clock stepped call member
        simp only [decide_eq_true_eq, not_and]
        omega
      rw [LimiterRun.granted, log_snoc _ s u v before act reached stepped, List.countP_append, nothing, Nat.add_zero]
      exact bounded

theorem burst_run (idleTTL : Int) (some_ : 1 ≤ burst) (nonneg : 0 ≤ rate) (key : Bytes) (now : Int) (m : Nat) (s : LimiterRun)
    (later : s.clock ≤ now) (sound : s.limiter.Sound rate burst s.clock)
    (enough : (m : ℚ) ≤ s.limiter.level rate key now) :
    ∃ t, run (LimiterRun.step idleTTL) s (List.replicate m (.allow key now)) = some t ∧
      log (LimiterRun.step idleTTL) LimiterRun.grant s (List.replicate m (.allow key now)) =
        List.replicate m (key, now) ∧
      t.limiter.Sound rate burst t.clock ∧ t.clock ≤ now ∧
      (∀ other, other ≠ key → t.limiter.keys.lookup other = s.limiter.keys.lookup other) ∧
      ((0 < m ∨ ∃ entry, s.limiter.keys.lookup key = some entry ∧ entry.lastSeen = now) →
        ∃ entry, t.limiter.keys.lookup key = some entry ∧ entry.lastSeen = now) := by
  induction m generalizing s with
  | zero => exact ⟨s, rfl, rfl, sound, later, fun _ _ => rfl, by simp⟩
  | succ m ih =>
    push_cast at enough
    have stepped : s.step idleTTL (.allow key now) = some ⟨(s.limiter.allow key now).2, now⟩ := by
      simp only [LimiterRun.step, if_pos later]
    obtain ⟨limit, capacity, tokens⟩ := sound.limiter some_ key
    have granted : (s.limiter.allow key now).1 = true := by
      refine Limiter.allow_of_token limit (by omega) ?_
      have := Nat.cast_nonneg (α := ℚ) m
      rw [KeyedLimiter.level] at enough
      linarith
    have rest : (m : ℚ) ≤ (s.limiter.allow key now).2.level rate key now := by
      rw [sound.level_allow some_ key key, if_pos ⟨rfl, granted⟩]
      linarith
    obtain ⟨t, ran, logged, sound', clock, others, seen⟩ :=
      ih ⟨(s.limiter.allow key now).2, now⟩ le_rfl (sound.allow some_ nonneg later key) rest
    refine ⟨t, ?_, ?_, sound', clock, ?_, ?_⟩
    · simpa only [List.replicate_succ, run, stepped] using ran
    · simp only [List.replicate_succ, log, stepped, logged]
      simp [LimiterRun.grant, granted]
    · intro other apart
      rw [others other apart]
      simp only [KeyedLimiter.lookup_allow, if_neg apart]
    · intro _
      refine seen (.inr ⟨⟨((s.limiter.limiter key).allow now).2, now⟩, ?_, rfl⟩)
      simp only [KeyedLimiter.lookup_allow, if_pos]

def twoBursts (idleTTL : Int) (key : Bytes) (n : Nat) : List LimiterAct :=
  List.replicate n (.allow key 0) ++ .cleanup (idleTTL + 1) [key] :: List.replicate n (.allow key (idleTTL + 1))

theorem twoBursts_granted (rate : ℚ) (burst idleTTL : Int) (some_ : 1 ≤ burst) (nonneg : 0 ≤ rate)
    (idle : 0 ≤ idleTTL) (key : Bytes) :
    ∃ t, run (LimiterRun.step idleTTL) ⟨newKeyedLimiter (.per rate) burst, 0⟩ (twoBursts idleTTL key burst.toNat) = some t ∧
      (LimiterRun.granted idleTTL ⟨newKeyedLimiter (.per rate) burst, 0⟩ (twoBursts idleTTL key burst.toNat) key 0
        (idleTTL + 1)) = 2 * burst.toNat := by
  have whole : ((burst.toNat : Nat) : ℚ) = burst := by exact_mod_cast Int.toNat_of_nonneg (by omega : 0 ≤ burst)
  have fresh : (newKeyedLimiter (.per rate) burst).Sound rate burst 0 := ⟨rfl, rfl, by simp [newKeyedLimiter]⟩
  have full : ((burst.toNat : Nat) : ℚ) ≤ (newKeyedLimiter (.per rate) burst).level rate key 0 := by
    rw [KeyedLimiter.level_untracked (by simp [newKeyedLimiter]) nonneg, whole]
    exact le_rfl
  obtain ⟨s, ran, logged, sound, clock, others, seen⟩ :=
    burst_run idleTTL some_ nonneg key 0 burst.toNat ⟨newKeyedLimiter (.per rate) burst, 0⟩ le_rfl fresh full
  obtain ⟨entry, found, lastSeen⟩ := seen (.inl (by omega))
  have order : [key].Perm s.limiter.keys.keys := by
    refine (List.perm_ext_iff_of_nodup (List.nodup_singleton key) s.limiter.keys.keys_nodup).mpr fun other => ?_
    rw [List.mem_singleton, ← AList.mem_keys, ← AList.lookup_isSome]
    constructor
    · rintro rfl
      simp [found]
    · intro tracked
      by_contra apart
      rw [others other apart] at tracked
      simp [newKeyedLimiter] at tracked
  have stepped : s.step idleTTL (.cleanup (idleTTL + 1) [key]) =
      some ⟨(s.limiter.cleanup (idleTTL + 1 - idleTTL) [key]).1, idleTTL + 1⟩ := by
    simp only [LimiterRun.step, if_pos (⟨by omega, order⟩ : s.clock ≤ idleTTL + 1 ∧ [key].Perm s.limiter.keys.keys)]
  have evicted : (s.limiter.cleanup (idleTTL + 1 - idleTTL) [key]).1.keys.lookup key = none := by
    by_contra kept
    obtain ⟨other, kept⟩ := Option.ne_none_iff_exists'.mp kept
    obtain ⟨same, fresh⟩ := (sweep_lookup (fun entry : KeyedLimiterEntry => entry.lastSeen < idleTTL + 1 - idleTTL)
      [key] s.limiter.keys key other).mp kept
    rw [found] at same
    cases same
    exact fresh ⟨List.mem_singleton_self key, by omega⟩
  have refilled : ((burst.toNat : Nat) : ℚ) ≤
      (s.limiter.cleanup (idleTTL + 1 - idleTTL) [key]).1.level rate key (idleTTL + 1) := by
    rw [KeyedLimiter.level_untracked evicted nonneg, whole]
    exact_mod_cast sound.capacity.ge
  obtain ⟨t, ran', logged', _⟩ := burst_run idleTTL some_ nonneg key (idleTTL + 1) burst.toNat
    ⟨(s.limiter.cleanup (idleTTL + 1 - idleTTL) [key]).1, idleTTL + 1⟩ le_rfl
    (sound.cleanup (show s.clock ≤ idleTTL + 1 by omega) _ [key]) refilled
  refine ⟨t, ?_, ?_⟩
  · rw [twoBursts, run_append _ s _ _ ran]
    simpa only [run, stepped] using ran'
  · rw [LimiterRun.granted, twoBursts, log_append _ _ s _ _ ran, logged]
    simp only [log, stepped, logged', LimiterRun.grant, List.nil_append, List.countP_append]
    have counted : ∀ now : Int, 0 ≤ now ∧ now ≤ idleTTL + 1 → (List.replicate burst.toNat (key, now)).countP
        (fun call => decide (call.1 = key ∧ 0 ≤ call.2 ∧ call.2 ≤ idleTTL + 1)) = burst.toNat := by
      intro now inside
      rw [List.countP_eq_length.mpr, List.length_replicate]
      intro call member
      rw [List.eq_of_mem_replicate member]
      simpa using inside
    rw [counted 0 (by omega), counted (idleTTL + 1) (by omega)]
    omega

end Window

theorem newBrokerWithOptions_limiter {opts : Options} {g : UpgradeGate} (accepted : newBrokerWithOptions opts = .ok g)
    (rate : 1 ≤ opts.ratePerMinute) (burst : 1 ≤ opts.rateBurst) :
    g.limiterIdleTTL = defaultLimiterIdleTTL ∧
      g.ipLimiter = newKeyedLimiter (every (minute / opts.ratePerMinute)) opts.rateBurst := by
  obtain ⟨trusted, _, made⟩ := bind_ok accepted
  cases made
  rw [if_neg (show ¬opts.ratePerMinute ≤ 0 by omega), if_neg (show ¬opts.rateBurst ≤ 0 by omega)]
  exact ⟨rfl, rfl⟩

/-- Eviction keeps the bound exactly when a bucket refills within the idle time. -/
theorem upgrade_rate_bounded (opts : Options) (g : UpgradeGate) (accepted : newBrokerWithOptions opts = .ok g)
    (rate : 1 ≤ opts.ratePerMinute) (burst : 1 ≤ opts.rateBurst) :
    g.Bounded opts.rateBurst (minute / opts.ratePerMinute) ↔
      opts.rateBurst * (minute / opts.ratePerMinute) ≤ defaultLimiterIdleTTL + 1 := by
  obtain ⟨idleTTL, limiter⟩ := newBrokerWithOptions_limiter accepted rate burst
  have idle : (0 : Int) ≤ defaultLimiterIdleTTL := by decide
  have natural : 0 ≤ minute / opts.ratePerMinute := Int.ediv_nonneg (by decide) (by omega)
  rw [UpgradeGate.Bounded, idleTTL, limiter]
  generalize minute / opts.ratePerMinute = interval at *
  by_cases unlimited : interval = 0
  · subst unlimited
    simp only [ne_eq, not_true_eq_false, false_implies, implies_true, Int.mul_zero, true_iff]
    omega
  · have positive : (0 : ℚ) < interval := by exact_mod_cast (by omega : 0 < interval)
    have each : every interval = .per (1 / interval) := by rw [every, if_neg (by omega)]
    have nonneg : (0 : ℚ) ≤ 1 / interval := by positivity
    rw [each]
    constructor
    · intro bounded
      obtain ⟨s, ran, granted⟩ := twoBursts_granted (1 / interval) opts.rateBurst defaultLimiterIdleTTL burst nonneg idle []
      have most := bounded 0 _ s ran [] 0 (defaultLimiterIdleTTL + 1) (by omega) unlimited
      rw [zero_add, granted] at most
      have whole : ((opts.rateBurst.toNat : Nat) : ℚ) = opts.rateBurst := by
        exact_mod_cast Int.toNat_of_nonneg (by omega : 0 ≤ opts.rateBurst)
      push_cast at most
      rw [whole] at most
      have refill : (opts.rateBurst : ℚ) * interval ≤ defaultLimiterIdleTTL + 1 := by
        rw [← le_div_iff₀ positive]
        linarith
      exact_mod_cast refill
    · intro refill began acts s ran key start length nonneg_length _
      have refilled : (opts.rateBurst : ℚ) ≤ (defaultLimiterIdleTTL + 1) * (1 / interval) := by
        rw [mul_one_div, le_div_iff₀ positive]
        exact_mod_cast refill
      have bounded := granted_le burst nonneg refilled key start (start + length) (by omega)
        ⟨newKeyedLimiter (.per (1 / interval)) opts.rateBurst, began⟩ s acts
        ⟨rfl, rfl, by simp [newKeyedLimiter]⟩ ran
      rw [add_sub_cancel_left, mul_one_div] at bounded
      exact bounded

def slowGate (ratePerMinute rateBurst : Int) : UpgradeGate :=
  ⟨[], [], defaultLimiterIdleTTL, newKeyedLimiter (every (minute / ratePerMinute)) rateBurst⟩

theorem upgrade_rate_bounded_default : newBrokerWithOptions ⟨[], [], 30, 10⟩ = .ok (slowGate 30 10) ∧
    (slowGate 30 10).Bounded 10 (minute / 30) :=
  ⟨rfl, (upgrade_rate_bounded ⟨[], [], 30, 10⟩ (slowGate 30 10) rfl (by decide) (by decide)).mpr (by decide)⟩

/-- One upgrade a minute with a burst of 61 takes longer to refill than an idle entry is kept. -/
theorem upgrade_rate_exceeded : newBrokerWithOptions ⟨[], [], 1, 61⟩ = .ok (slowGate 1 61) ∧
    ¬(slowGate 1 61).Bounded 61 (minute / 1) := by
  refine ⟨rfl, fun bounded => ?_⟩
  obtain ⟨s, ran, granted⟩ := twoBursts_granted (1 / (minute / 1 : Int)) 61 defaultLimiterIdleTTL (by decide)
    (by simp [minute]) (by decide) []
  have most := bounded 0 _ s ran [] 0 (defaultLimiterIdleTTL + 1) (by decide) (by decide)
  rw [zero_add, show LimiterRun.granted (slowGate 1 61).limiterIdleTTL ⟨(slowGate 1 61).ipLimiter, 0⟩
    (twoBursts defaultLimiterIdleTTL [] (Int.toNat 61)) [] 0 (defaultLimiterIdleTTL + 1) = 122 from granted] at most
  norm_num [minute, defaultLimiterIdleTTL] at most

end Rtc2Tcp.Rendezvous

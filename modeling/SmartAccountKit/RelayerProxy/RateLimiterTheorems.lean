import SmartAccountKit.RelayerProxy.RateLimiter
import Mathlib.Algebra.Order.Group.Int

/-!
# What the rate limits guarantee

A limiter object with a valid configuration is a fixed-window limiter, which
bounds what is admitted in a window and in an interval of its length. A refused
request of one client leaves the limiters of the others alone, but it has used
up room of the global one.
-/

namespace SmartAccountKit.RelayerProxy
open Lib

/-! ## Valid configurations -/

/-- A configuration that a limiter object accepts: two positive safe integers. -/
structure RateLimit where
  limit : ℕ
  limit_pos : 0 < limit
  limit_safe : limit ≤ 2 ^ 53 - 1
  windowMs : ℕ
  windowMs_pos : 0 < windowMs
  windowMs_safe : windowMs ≤ 2 ^ 53 - 1

theorem positive?_ofNat {n : ℕ} (hpos : 0 < n) (hsafe : n ≤ 2 ^ 53 - 1) :
    positive? (.ofNat n) = some n := by
  have hnum : ((n : ℚ)).num = n := Rat.num_natCast n
  have hden : ((n : ℚ)).den = 1 := Rat.den_natCast n
  have hsafe' : (JsNumber.finite (n : ℚ)).isSafeInteger = true := by
    refine decide_eq_true ⟨hden, ?_⟩
    rw [hnum, Int.natAbs_natCast]
    exact hsafe
  have hpos' : (0 : ℚ) < n := Nat.cast_pos.mpr hpos
  show (if _ then some ((n : ℚ)).num.toNat else none) = some n
  rw [if_pos ⟨hsafe', hpos'⟩, hnum, Int.toNat_natCast]

namespace RateLimit

variable (config : RateLimit)

/-- One call of a limiter object with this configuration. -/
def fetch (now : ℤ) (stored : Option RateState) : Option RateDecision × Option RateState :=
  RequestRateLimiter.fetch (.ofNat config.limit) (.ofNat config.windowMs) now stored

/-- What a limiter object stores after some calls. -/
def stateAfter (stored : Option RateState) (times : List ℤ) : Option RateState :=
  times.foldl (fun stored now => (config.fetch now stored).2) stored

/-- The times of the calls that were allowed. -/
def allowedTimes (stored : Option RateState) : List ℤ → List ℤ
  | [] => []
  | now :: times =>
    if (config.fetch now stored).1.any RateDecision.allowed then
      now :: allowedTimes (config.fetch now stored).2 times
    else allowedTimes (config.fetch now stored).2 times

/-- A call at this time opens a window: there is none, or it has ended. -/
def OpensWindow (stored : Option RateState) (now : ℤ) : Prop :=
  ∀ state ∈ stored, (config.windowMs : ℤ) ≤ now - state.windowStartedAt

/-- The fixed-window limiter that a limiter object is. -/
def window : FixedWindow ℤ where
  limit := config.limit
  limit_pos := config.limit_pos
  length := config.windowMs
  length_pos := Int.natCast_pos.mpr config.windowMs_pos

end RateLimit

/-- The window that a limiter object stores. -/
def RateState.toWindow (state : RateState) : Window ℤ := ⟨state.windowStartedAt, state.count⟩

/-! ## A limiter object is a fixed-window limiter -/

section limiter

variable {config : RateLimit} {stored : Option RateState} {now : ℤ} {times : List ℤ}

theorem currentWindow_toWindow :
    (currentWindow config.windowMs now stored).toWindow =
      config.window.current (stored.map RateState.toWindow) now := by
  cases stored with
  | none => rfl
  | some state =>
    show RateState.toWindow (if now - state.windowStartedAt ≥ config.windowMs then _ else _) =
      if (config.windowMs : ℤ) ≤ now - state.windowStartedAt then _ else _
    split <;> rfl

/-- A call is decided by the room in its window. -/
theorem fetch_eq (config : RateLimit) (now : ℤ) (stored : Option RateState) :
    config.fetch now stored =
      if (currentWindow config.windowMs now stored).count ≥ config.limit then
        (some
          { allowed := false
            retryAfterSeconds := max 1
              ⌈(((currentWindow config.windowMs now stored).windowStartedAt + config.windowMs - now :
                ℤ) : ℚ) / 1000⌉ }, stored)
      else
        (some { allowed := true, retryAfterSeconds := 0 },
          some { currentWindow config.windowMs now stored with
            count := (currentWindow config.windowMs now stored).count + 1 }) := by
  have hlimit := positive?_ofNat config.limit_pos config.limit_safe
  have hwindow := positive?_ofNat config.windowMs_pos config.windowMs_safe
  unfold RateLimit.fetch RequestRateLimiter.fetch
  rw [hlimit, hwindow]

theorem count_eq (config : RateLimit) (now : ℤ) (stored : Option RateState) :
    (config.window.current (stored.map RateState.toWindow) now).count =
      (currentWindow config.windowMs now stored).count := by
  rw [← currentWindow_toWindow]
  rfl

/-- A call is allowed as the fixed-window limiter admits it. -/
theorem fetch_allowed (config : RateLimit) (now : ℤ) (stored : Option RateState) :
    (config.fetch now stored).1.any RateDecision.allowed =
      config.window.admits (stored.map RateState.toWindow) now := by
  rw [fetch_eq, FixedWindow.admits, count_eq]
  by_cases hfull : (currentWindow config.windowMs now stored).count ≥ config.limit
  · rw [if_pos hfull]
    exact (decide_eq_false (not_lt.mpr hfull)).symm
  · rw [if_neg hfull]
    exact (decide_eq_true (not_le.mp hfull)).symm

theorem fetch_next (config : RateLimit) (now : ℤ) (stored : Option RateState) :
    (config.fetch now stored).2.map RateState.toWindow =
      config.window.next (stored.map RateState.toWindow) now := by
  rw [fetch_eq, FixedWindow.next, FixedWindow.admits, ← currentWindow_toWindow]
  by_cases hfull : (currentWindow config.windowMs now stored).count ≥ config.limit
  · have hadmits : decide ((currentWindow config.windowMs now stored).count < config.limit) = false :=
      decide_eq_false (not_lt.mpr hfull)
    rw [if_pos hfull]
    show _ = if decide ((currentWindow config.windowMs now stored).count < config.limit) = true
      then _ else _
    rw [hadmits, if_neg Bool.false_ne_true]
  · have hadmits : decide ((currentWindow config.windowMs now stored).count < config.limit) = true :=
      decide_eq_true (not_le.mp hfull)
    rw [if_neg hfull]
    show _ = if decide ((currentWindow config.windowMs now stored).count < config.limit) = true
      then _ else _
    rw [hadmits, if_pos rfl]
    rfl

theorem stateAfter_toWindow (stored : Option RateState) (times : List ℤ) :
    (config.stateAfter stored times).map RateState.toWindow =
      config.window.after (stored.map RateState.toWindow) times := by
  induction times generalizing stored with
  | nil => rfl
  | cons now times ih =>
    show (config.stateAfter (config.fetch now stored).2 times).map _ =
      config.window.after (config.window.next _ now) times
    rw [ih, fetch_next]

theorem allowedTimes_eq (stored : Option RateState) (times : List ℤ) :
    config.allowedTimes stored times =
      config.window.admitted (stored.map RateState.toWindow) times := by
  induction times generalizing stored with
  | nil => rfl
  | cons now times ih =>
    unfold RateLimit.allowedTimes FixedWindow.admitted
    rw [fetch_allowed, ih, fetch_next]

theorem opensWindow_iff :
    config.OpensWindow stored now ↔
      config.window.Begins (stored.map RateState.toWindow) now := by
  cases stored with
  | none => exact iff_of_true (fun _ h => nomatch h) (fun _ h => nomatch h)
  | some state =>
    constructor
    · intro h w hw
      rw [← Option.some.inj hw]
      exact h state rfl
    · intro h state' hstate
      rw [← Option.some.inj hstate]
      exact h state.toWindow rfl

/-! ## Refused calls -/

/-- A refused call changes nothing. -/
theorem fetch_refused {decision : RateDecision} {stored' : Option RateState}
    (h : config.fetch now stored = (some decision, stored')) (hrefused : decision.allowed = false) :
    stored' = stored := by
  rw [fetch_eq] at h
  split at h
  · exact (Prod.mk.inj h).2.symm
  · rw [← Option.some.inj (Prod.mk.inj h).1] at hrefused
    exact nomatch hrefused

/-- The window of a refused call has ended after the seconds that its answer names. -/
theorem retryAfter_le {decision : RateDecision} {stored' : Option RateState}
    (h : config.fetch now stored = (some decision, stored')) (hrefused : decision.allowed = false) :
    (currentWindow config.windowMs now stored).windowStartedAt + config.windowMs ≤
      now + 1000 * decision.retryAfterSeconds := by
  rw [fetch_eq] at h
  split at h
  · rw [← Option.some.inj (Prod.mk.inj h).1]
    generalize (currentWindow config.windowMs now stored).windowStartedAt + (config.windowMs : ℤ) =
      ending
    show ending ≤ now + 1000 * max 1 ⌈((ending - now : ℤ) : ℚ) / 1000⌉
    have hceil : ((ending - now : ℤ) : ℚ) / 1000 ≤ ⌈((ending - now : ℤ) : ℚ) / 1000⌉ := Int.le_ceil _
    have hle : ((ending - now : ℤ) : ℚ) ≤ 1000 * ⌈((ending - now : ℤ) : ℚ) / 1000⌉ := by
      have hpos : (0 : ℚ) < 1000 := by norm_num
      rw [div_le_iff₀ hpos] at hceil
      linarith
    have hint : ending - now ≤ 1000 * ⌈((ending - now : ℤ) : ℚ) / 1000⌉ := by exact_mod_cast hle
    have hmax := le_max_right 1 ⌈((ending - now : ℤ) : ℚ) / 1000⌉
    omega
  · rw [← Option.some.inj (Prod.mk.inj h).1] at hrefused
    exact nomatch hrefused

/-- After the seconds that a refusal names a call is allowed. -/
theorem allowed_after_refusal {decision : RateDecision} {stored' : Option RateState} {later : ℤ}
    (h : config.fetch now stored = (some decision, stored')) (hrefused : decision.allowed = false)
    (hlater : now + 1000 * decision.retryAfterSeconds ≤ later) :
    (config.fetch later stored').1.any RateDecision.allowed = true := by
  have hadmits : config.window.admits (stored.map RateState.toWindow) now = false := by
    rw [← fetch_allowed, h]
    exact hrefused
  have hended : (config.window.current (stored.map RateState.toWindow) now).start +
      config.window.length ≤ later := by
    rw [← currentWindow_toWindow]
    exact (retryAfter_le h hrefused).trans hlater
  rw [fetch_refused h hrefused, fetch_allowed]
  exact FixedWindow.admits_of_refused hadmits hended

end limiter

/-! ## The bounds of a limiter object -/

/-- Over a clock that does not run backwards: at most twice the limit in an interval of the length
of a window, at most the limit in a window, and a refusal that changes nothing and ends when it
says. -/
theorem requestRateLimiter_bounds (config : RateLimit) (stored : Option RateState)
    {times : List ℤ} (hclock : times.Pairwise (· ≤ ·)) :
    (∀ start : ℤ, (config.allowedTimes stored times).countP
      (fun t => start ≤ t ∧ t < start + config.windowMs) ≤ 2 * config.limit) ∧
    (∀ before now rest, times = before ++ now :: rest →
      config.OpensWindow (config.stateAfter stored before) now →
      (config.allowedTimes stored times).countP
        (fun t => now ≤ t ∧ t < now + config.windowMs) ≤ config.limit) ∧
    (∀ before now rest decision stored', times = before ++ now :: rest →
      config.fetch now (config.stateAfter stored before) = (some decision, stored') →
      decision.allowed = false →
      stored' = config.stateAfter stored before ∧
      ∀ later, now + 1000 * decision.retryAfterSeconds ≤ later →
        (config.fetch later stored').1.any RateDecision.allowed = true) := by
  rw [allowedTimes_eq]
  refine ⟨fun start => ?_, ?_, ?_⟩
  · exact FixedWindow.countP_admitted_interval (L := config.window) (a := start) hclock
  · intro before now rest htimes hopens
    rw [opensWindow_iff, stateAfter_toWindow] at hopens
    subst htimes
    exact FixedWindow.countP_admitted_opened hclock hopens
  · intro before now rest decision stored' _ hfetch hrefused
    exact ⟨fetch_refused hfetch hrefused, fun later hlater =>
      allowed_after_refusal hfetch hrefused hlater⟩

/-- Two requests a second: the first two of three are allowed. -/
theorem requestRateLimiter_bounds_sample :
    let config : RateLimit := ⟨2, by decide, by decide, 1000, by decide, by decide⟩
    config.allowedTimes none [0, 400, 900] = [0, 400] ∧
    (config.allowedTimes none [0, 400, 900]).countP (fun t => 0 ≤ t ∧ t < (0 : ℤ) + 1000) ≤ 2 * 2 := by
  intro config
  have hclock : ([0, 400, 900] : List ℤ).Pairwise (· ≤ ·) := by decide
  exact ⟨by decide, (requestRateLimiter_bounds config none hclock).1 0⟩

end SmartAccountKit.RelayerProxy

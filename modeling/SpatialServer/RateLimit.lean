import SpatialServer.Containers
import SpatialServer.Entities

/-!
# Token buckets

A bucket gains tokens at a fixed rate up to its burst, and every message costs
one. Tokens are exact rationals. What a bucket may still let through in a
window of time, its allowance, never exceeds the burst and the rate times the
length of the window, and each message that passes in the window uses one unit
of it. A limiter keeps one bucket for each key, made when the key is first
seen.
-/
namespace SpatialServer.Gateway

structure TokenBucket where
  tokens : ℚ
  rate : ℚ
  burst : ℚ
  lastTime : Time
  deriving DecidableEq

namespace TokenBucket

def new (rate burst : ℚ) (now : Time) : TokenBucket := ⟨burst, rate, burst, now⟩

/-- The tokens that the bucket holds at the given time. -/
def refilled (b : TokenBucket) (now : Time) : ℚ :=
  min (b.tokens + seconds (now - b.lastTime) * b.rate) b.burst

def allow (b : TokenBucket) (now : Time) : Bool × TokenBucket :=
  if b.refilled now < 1 then (false, { b with tokens := b.refilled now, lastTime := now })
  else (true, { b with tokens := b.refilled now - 1, lastTime := now })

structure Sound (b : TokenBucket) : Prop where
  rate_nonneg : 0 ≤ b.rate
  tokens_nonneg : 0 ≤ b.tokens
  tokens_le : b.tokens ≤ b.burst

theorem sound_new {rate burst : ℚ} (hrate : 0 ≤ rate) (hburst : 0 ≤ burst) (now : Time) :
    (new rate burst now).Sound := ⟨hrate, hburst, le_rfl⟩

theorem seconds_nonneg {d : Duration} (h : 0 ≤ d) : 0 ≤ seconds d := by
  unfold seconds second
  positivity

theorem seconds_add (d e : Duration) : seconds (d + e) = seconds d + seconds e := by
  unfold seconds
  push_cast
  ring

theorem seconds_mono {d e : Duration} (h : d ≤ e) : seconds d ≤ seconds e := by
  have hsplit : seconds e = seconds d + seconds (e - d) := by rw [← seconds_add]; congr 1; ring
  have := seconds_nonneg (sub_nonneg.mpr h)
  linarith

section Allow

variable {b : TokenBucket} {now : Time}

@[simp] theorem rate_allow (b : TokenBucket) (now : Time) : (b.allow now).2.rate = b.rate := by
  unfold allow; split <;> rfl

@[simp] theorem burst_allow (b : TokenBucket) (now : Time) : (b.allow now).2.burst = b.burst := by
  unfold allow; split <;> rfl

@[simp] theorem lastTime_allow (b : TokenBucket) (now : Time) :
    (b.allow now).2.lastTime = now := by
  unfold allow; split <;> rfl

/-- A message that passes costs one token. -/
theorem tokens_allow (b : TokenBucket) (now : Time) :
    (b.allow now).2.tokens = b.refilled now - if (b.allow now).1 then 1 else 0 := by
  unfold allow; split <;> simp

theorem refilled_le_burst (b : TokenBucket) (now : Time) : b.refilled now ≤ b.burst :=
  min_le_right _ _

theorem refilled_le (b : TokenBucket) (now : Time) :
    b.refilled now ≤ b.tokens + b.rate * seconds (now - b.lastTime) := by
  rw [mul_comm]
  exact min_le_left _ _

theorem Sound.refilled_nonneg (h : b.Sound) (hnow : b.lastTime ≤ now) : 0 ≤ b.refilled now := by
  have hgain := mul_nonneg (seconds_nonneg (sub_nonneg.mpr hnow)) h.rate_nonneg
  exact le_min (add_nonneg h.tokens_nonneg hgain) (h.tokens_nonneg.trans h.tokens_le)

theorem Sound.allow (h : b.Sound) (hnow : b.lastTime ≤ now) : (b.allow now).2.Sound := by
  have hfill := h.refilled_nonneg hnow
  have hburst := b.refilled_le_burst now
  unfold TokenBucket.allow
  split
  · exact ⟨h.rate_nonneg, hfill, hburst⟩
  · next hone =>
    exact ⟨h.rate_nonneg, sub_nonneg.mpr (not_lt.mp hone), (sub_le_self _ zero_le_one).trans hburst⟩

end Allow

/-! ## The allowance of a window -/

/-- What the bucket may still let through from `start` to `stop`. Before the
window only its burst and the rate count. -/
def allowance (b : TokenBucket) (start stop : Time) : ℚ :=
  if b.lastTime < start then b.burst + b.rate * seconds (stop - start)
  else if b.lastTime ≤ stop then b.tokens + b.rate * seconds (stop - b.lastTime)
  else 0

variable {b : TokenBucket} {start stop now : Time}

theorem Sound.allowance_nonneg (h : b.Sound) (hwindow : start ≤ stop) :
    0 ≤ b.allowance start stop := by
  unfold allowance
  split_ifs with hbefore hwithin
  · exact add_nonneg (h.tokens_nonneg.trans h.tokens_le)
      (mul_nonneg h.rate_nonneg (seconds_nonneg (sub_nonneg.mpr hwindow)))
  · exact add_nonneg h.tokens_nonneg
      (mul_nonneg h.rate_nonneg (seconds_nonneg (sub_nonneg.mpr hwithin)))
  · exact le_rfl

theorem Sound.allowance_le (h : b.Sound) (hwindow : start ≤ stop) :
    b.allowance start stop ≤ b.burst + b.rate * seconds (stop - start) := by
  have hlen := mul_nonneg h.rate_nonneg (seconds_nonneg (sub_nonneg.mpr hwindow))
  unfold allowance
  split_ifs with hbefore hwithin
  · exact le_rfl
  · have hshort : stop - b.lastTime ≤ stop - start := sub_le_sub_left (not_lt.mp hbefore) stop
    exact add_le_add h.tokens_le (mul_le_mul_of_nonneg_left (seconds_mono hshort) h.rate_nonneg)
  · exact add_nonneg (h.tokens_nonneg.trans h.tokens_le) hlen

/-- Whatever passes within the window is taken from the allowance. -/
theorem Sound.allowance_allow (h : b.Sound) (hnow : b.lastTime ≤ now) (hwindow : start ≤ stop) :
    (b.allow now).2.allowance start stop +
        (if (b.allow now).1 ∧ start ≤ now ∧ now ≤ stop then 1 else 0) ≤ b.allowance start stop := by
  have hafter : (b.allow now).2.allowance start stop = if now < start then
      b.burst + b.rate * seconds (stop - start) else if now ≤ stop then
      b.refilled now - (if (b.allow now).1 then 1 else 0) + b.rate * seconds (stop - now) else 0 := by
    simp only [allowance, lastTime_allow, burst_allow, rate_allow, tokens_allow]
  rw [hafter]
  by_cases hearly : now < start
  · -- the window has not begun, for the bucket either
    have hbefore : b.lastTime < start := hnow.trans_lt hearly
    simp [allowance, hearly, hbefore, not_le.mpr hearly]
  · by_cases hlate : now ≤ stop
    · have hpass : (if (b.allow now).1 ∧ start ≤ now ∧ now ≤ stop then (1 : ℚ) else 0) =
          if (b.allow now).1 then 1 else 0 := by simp [not_lt.mp hearly, hlate]
      rw [if_neg hearly, if_pos hlate, hpass]
      suffices hfill : b.refilled now + b.rate * seconds (stop - now) ≤ b.allowance start stop by
        linarith
      unfold allowance
      split_ifs with hbefore hwithin
      · have hrest : stop - now ≤ stop - start := sub_le_sub_left (not_lt.mp hearly) stop
        exact add_le_add (b.refilled_le_burst now)
          (mul_le_mul_of_nonneg_left (seconds_mono hrest) h.rate_nonneg)
      · have hsplit : seconds (stop - b.lastTime) =
            seconds (now - b.lastTime) + seconds (stop - now) := by
          rw [← seconds_add]; congr 1; ring
        rw [hsplit, mul_add, ← add_assoc]
        exact add_le_add (b.refilled_le now) le_rfl
      · exact absurd (hnow.trans hlate) hwithin
    · have hout : ¬((b.allow now).1 = true ∧ start ≤ now ∧ now ≤ stop) := fun hin => hlate hin.2.2
      rw [if_neg hearly, if_neg hlate, if_neg hout, add_zero]
      exact h.allowance_nonneg hwindow

end TokenBucket

/-! ## One bucket for each key -/

structure IPLimiter where
  rate : ℚ
  burst : ℚ
  buckets : Dict String TokenBucket

namespace IPLimiter

def new (rate burst : ℚ) : IPLimiter := ⟨rate, burst, ∅⟩

/-- The bucket of a key; one that is missing is made, and is full. -/
def bucket (l : IPLimiter) (ip : String) (created : Time) : TokenBucket :=
  (l.buckets.get ip).getD (TokenBucket.new l.rate l.burst created)

def allow (l : IPLimiter) (ip : String) (created now : Time) : Bool × IPLimiter :=
  let r := (l.bucket ip created).allow now
  (r.1, { l with buckets := l.buckets.set ip r.2 })

/-- The buckets are sound, of the limiter's rate and burst, and not ahead of
the clock. -/
structure Sound (l : IPLimiter) (clock : Time) : Prop where
  rate_nonneg : 0 ≤ l.rate
  burst_nonneg : 0 ≤ l.burst
  bucket : ∀ ip b, l.buckets.get ip = some b →
    b.Sound ∧ b.rate = l.rate ∧ b.burst = l.burst ∧ b.lastTime ≤ clock

theorem sound_new {rate burst : ℚ} (hrate : 0 ≤ rate) (hburst : 0 ≤ burst) (clock : Time) :
    (new rate burst).Sound clock := ⟨hrate, hburst, fun ip b hb => by simp [new] at hb⟩

theorem Sound.later {l : IPLimiter} {clock now : Time} (h : l.Sound clock) (hnow : clock ≤ now) :
    l.Sound now := by
  refine ⟨h.rate_nonneg, h.burst_nonneg, fun ip b hb => ?_⟩
  obtain ⟨hsound, hrate, hburst, hlast⟩ := h.bucket ip b hb
  exact ⟨hsound, hrate, hburst, hlast.trans hnow⟩

/-- The bucket in use is sound, whether it was there or is made. -/
theorem Sound.of_bucket {l : IPLimiter} {clock created now : Time} (h : l.Sound clock)
    (hclock : clock ≤ now) (hcreated : created ≤ now) (ip : String) :
    (l.bucket ip created).Sound ∧ (l.bucket ip created).rate = l.rate ∧
      (l.bucket ip created).burst = l.burst ∧ (l.bucket ip created).lastTime ≤ now := by
  unfold IPLimiter.bucket
  rcases hget : l.buckets.get ip with _ | b
  · exact ⟨TokenBucket.sound_new h.rate_nonneg h.burst_nonneg created, rfl, rfl, hcreated⟩
  · exact (h.later hclock).bucket ip b hget

theorem Sound.allow {l : IPLimiter} {clock created now : Time} (h : l.Sound clock)
    (hclock : clock ≤ now) (hcreated : created ≤ now) (ip : String) :
    (l.allow ip created now).2.Sound now := by
  refine ⟨h.rate_nonneg, h.burst_nonneg, fun other b hb => ?_⟩
  simp only [IPLimiter.allow, Dict.get_set] at hb
  split_ifs at hb with hkey
  · obtain ⟨hsound, hrate, hburst, hlast⟩ := h.of_bucket hclock hcreated ip
    obtain rfl := Option.some.inj hb
    exact ⟨hsound.allow hlast, (TokenBucket.rate_allow _ _).trans hrate,
      (TokenBucket.burst_allow _ _).trans hburst, (TokenBucket.lastTime_allow _ _).le⟩
  · exact (h.later hclock).bucket other b hb

/-- What a key may still let through; one never seen has the full allowance. -/
def allowance (l : IPLimiter) (ip : String) (start stop : Time) : ℚ :=
  match l.buckets.get ip with
  | some b => b.allowance start stop
  | none => l.burst + l.rate * seconds (stop - start)

theorem Sound.allowance_nonneg {l : IPLimiter} {clock start stop : Time} (h : l.Sound clock)
    (hwindow : start ≤ stop) (ip : String) : 0 ≤ l.allowance ip start stop := by
  unfold allowance
  split
  · next b hb => exact (h.bucket ip b hb).1.allowance_nonneg hwindow
  · exact add_nonneg h.burst_nonneg
      (mul_nonneg h.rate_nonneg (TokenBucket.seconds_nonneg (sub_nonneg.mpr hwindow)))

theorem Sound.allowance_allow {l : IPLimiter} {clock created now start stop : Time}
    (h : l.Sound clock) (hclock : clock ≤ now) (hcreated : created ≤ now) (hwindow : start ≤ stop)
    (ip : String) :
    (l.allow ip created now).2.allowance ip start stop +
        (if (l.allow ip created now).1 ∧ start ≤ now ∧ now ≤ stop then 1 else 0) ≤
      l.allowance ip start stop := by
  obtain ⟨hsound, hrate, hburst, hlast⟩ := h.of_bucket hclock hcreated ip
  have hstep := hsound.allowance_allow hlast hwindow
  have hafter : (l.allow ip created now).2.allowance ip start stop =
      ((l.bucket ip created).allow now).2.allowance start stop := by
    simp [IPLimiter.allowance, IPLimiter.allow]
  rw [hafter]
  refine hstep.trans ?_
  -- a bucket that was made just now is within the full allowance
  unfold allowance
  split
  · next b hb => simp [IPLimiter.bucket, hb]
  · next hnone =>
    rw [← hburst, ← hrate]
    exact hsound.allowance_le hwindow

theorem allowance_allow_of_ne {l : IPLimiter} {ip other : String} (hne : other ≠ ip)
    (created now start stop : Time) :
    (l.allow ip created now).2.allowance other start stop = l.allowance other start stop := by
  simp [allowance, allow, hne]

end IPLimiter

end SpatialServer.Gateway

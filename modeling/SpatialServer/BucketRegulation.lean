import SpatialServer.RateLimit
import SpatialServer.Runs

/-!
# What a bucket lets through

A bucket keeps one running balance, and yet it decides about every window of a
run of calls: no block of consecutive calls passes more than the burst and the
rate times its duration allow, and calls that keep within that bound among
themselves all pass. For the second half the balance is compared with the calls
that are still to come: before each of them, the tokens held and those gained
until then cover it and all the calls in between.
-/
namespace SpatialServer.Gateway.TokenBucket

open Runs

/-- The bucket after a call, whatever the answer. -/
def step (b : TokenBucket) (now : Time) : TokenBucket := (b.allow now).2

/-- The answers to the calls made at the given times. -/
def verdicts (b : TokenBucket) : List Time → List Bool
  | [] => []
  | now :: times => (b.allow now).1 :: (b.step now).verdicts times

/-- The calls are made in order, none before the bucket was last used. -/
def InOrder (b : TokenBucket) (times : List Time) : Prop :=
  (b.lastTime :: times).Pairwise (· ≤ ·)

variable {b : TokenBucket}

theorem InOrder.step {now : Time} {times : List Time} (h : b.InOrder (now :: times)) :
    (b.step now).InOrder times := by
  have hlast : (b.step now).lastTime = now := lastTime_allow b now
  rw [InOrder, hlast]
  exact (List.pairwise_cons.mp h).2

theorem InOrder.le_head {now : Time} {times : List Time} (h : b.InOrder (now :: times)) :
    b.lastTime ≤ now := (List.pairwise_cons.mp h).1 now (by simp)

theorem Sound.after_call (h : b.Sound) {now : Time} (hnow : b.lastTime ≤ now) : (b.step now).Sound :=
  h.allow hnow

/-- The balance stays within its limits, and the calls that follow are in order
for the bucket that is left. -/
theorem Sound.after_calls (h : b.Sound) {times rest : List Time} (horder : b.InOrder (times ++ rest)) :
    (exec step b times).Sound ∧ (exec step b times).InOrder rest ∧
      (exec step b times).rate = b.rate ∧ (exec step b times).burst = b.burst := by
  induction times generalizing b with
  | nil => exact ⟨h, horder, rfl, rfl⟩
  | cons now times ih =>
    obtain ⟨hsound, hrest, hrate, hburst⟩ := ih (h.after_call horder.le_head) horder.step
    exact ⟨hsound, hrest, hrate.trans (rate_allow b now), hburst.trans (burst_allow b now)⟩

/-! ## At most the allowance passes -/

/-- The calls that pass within a window are paid from its allowance. -/
theorem Sound.count_verdicts_le (h : b.Sound) {times : List Time} (horder : b.InOrder times)
    {start stop : Time} (hwindow : start ≤ stop) (hin : ∀ t ∈ times, start ≤ t ∧ t ≤ stop) :
    ((b.verdicts times).count true : ℚ) + (exec step b times).allowance start stop ≤
      b.allowance start stop := by
  induction times generalizing b with
  | nil => simp [verdicts]
  | cons now times ih =>
    have hnow := hin now (by simp)
    have hpaid : (b.step now).allowance start stop + (if (b.allow now).1 then 1 else 0) ≤
        b.allowance start stop := by
      simpa [hnow, step] using h.allowance_allow horder.le_head hwindow
    have hrest := ih (h.after_call horder.le_head) horder.step fun t ht => hin t (by simp [ht])
    have hcount : ((b.verdicts (now :: times)).count true : ℚ) =
        ((b.step now).verdicts times).count true + if (b.allow now).1 then 1 else 0 := by
      rw [verdicts, List.count_cons]
      push_cast
      simp
    rw [hcount, exec_cons]
    linarith

/-! ## Calls within the bound all pass -/

/-- Any calls of the list, from one to another, number at most the burst and
what the rate gives over the time between the two. -/
def Spaced (rate burst : ℚ) (times : List Time) : Prop :=
  ∀ i j, ∀ hij : i ≤ j, ∀ hj : j < times.length,
    ((j - i + 1 : ℕ) : ℚ) ≤ burst + rate * seconds (times[j] - times[i])

/-- The tokens held and those gained until a call cover it and the calls
before it. -/
def Affords (b : TokenBucket) (times : List Time) : Prop :=
  ∀ n, ∀ hn : n < times.length,
    ((n + 1 : ℕ) : ℚ) ≤ b.tokens + b.rate * seconds (times[n] - b.lastTime)

theorem Spaced.tail {rate burst : ℚ} {now : Time} {times : List Time}
    (h : Spaced rate burst (now :: times)) : Spaced rate burst times := by
  intro i j hij hj
  have hnext := h (i + 1) (j + 1) (by omega) (by simpa using hj)
  simpa [Nat.add_sub_add_right] using hnext

theorem Spaced.affords_new {rate burst : ℚ} (hrate : 0 ≤ rate) {created : Time} {times : List Time}
    (h : Spaced rate burst times) (horder : (new rate burst created).InOrder times) :
    (new rate burst created).Affords times := by
  intro n hn
  have hfirst := h 0 n (Nat.zero_le n) hn
  have hcreated : created ≤ times[0] :=
    (List.pairwise_cons.mp horder).1 _ (List.getElem_mem (Nat.zero_lt_of_lt hn))
  have hlonger : seconds (times[n] - times[0]) ≤ seconds (times[n] - created) :=
    seconds_mono (sub_le_sub_left hcreated _)
  have hgain := mul_le_mul_of_nonneg_left hlonger hrate
  rw [Nat.sub_zero] at hfirst
  exact hfirst.trans (add_le_add le_rfl hgain)

/-- A call that is covered passes, and what is left covers the others: either
the bucket was full, and the bound on the calls from this one on applies, or
the tokens held before the call do. -/
theorem Affords.allow {now : Time} {times : List Time} (h : b.Affords (now :: times))
    (hspaced : Spaced b.rate b.burst (now :: times)) :
    (b.allow now).1 = true ∧ (b.step now).Affords times := by
  have hone : 1 ≤ b.refilled now := by
    refine le_min ?_ ?_
    · have hcover := h 0 (Nat.zero_lt_succ _)
      simpa [mul_comm] using hcover
    · have hspace := hspaced 0 0 le_rfl (Nat.zero_lt_succ _)
      simpa [seconds] using hspace
  have hpass : b.allow now = (true, { b with tokens := b.refilled now - 1, lastTime := now }) :=
    if_neg (not_lt.mpr hone)
  refine ⟨by rw [hpass], fun n hn => ?_⟩
  simp only [step, hpass]
  have hcover := h (n + 1) (by simpa using hn)
  have hspace := hspaced 0 (n + 1) (Nat.zero_le _) (by simpa using hn)
  simp only [List.getElem_cons_succ, List.getElem_cons_zero, Nat.sub_zero] at hcover hspace
  push_cast at hcover hspace ⊢
  have hsplit : seconds (times[n] - b.lastTime) =
      seconds (now - b.lastTime) + seconds (times[n] - now) := by
    rw [← seconds_add]; congr 1; ring
  rw [hsplit, mul_add] at hcover
  rcases min_choice (b.tokens + seconds (now - b.lastTime) * b.rate) b.burst with hmin | hmin
  · rw [refilled, hmin]
    linarith
  · rw [refilled, hmin]
    linarith

theorem Affords.verdicts {times : List Time} (h : b.Affords times)
    (hspaced : Spaced b.rate b.burst times) : ∀ v ∈ b.verdicts times, v = true := by
  induction times generalizing b with
  | nil => simp [TokenBucket.verdicts]
  | cons now times ih =>
    obtain ⟨hpass, hrest⟩ := h.allow hspaced
    have hstep : Spaced (b.step now).rate (b.step now).burst times := by
      simpa [step] using hspaced.tail
    intro v hv
    rcases List.mem_cons.mp hv with rfl | hv
    · exact hpass
    · exact ih hrest hstep v hv

/-- A bucket regulates exactly. Its balance stays between nothing and the burst;
no block of consecutive calls passes more than the burst and the rate over any
window around the block; and if the calls themselves keep that bound, all pass. -/
theorem bucket_regulates (rate burst : ℚ) (hrate : 0 ≤ rate) (hburst : 0 ≤ burst) (created : Time)
    (times : List Time) (horder : (created :: times).Pairwise (· ≤ ·)) :
    (∀ part, part <+: times →
      0 ≤ (exec step (new rate burst created) part).tokens ∧
        (exec step (new rate burst created) part).tokens ≤ burst) ∧
      (∀ before calls after start stop, times = before ++ calls ++ after → start ≤ stop →
        (∀ t ∈ calls, start ≤ t ∧ t ≤ stop) →
        (((exec step (new rate burst created) before).verdicts calls).count true : ℚ) ≤
          burst + rate * seconds (stop - start)) ∧
      (Spaced rate burst times → ∀ v ∈ (new rate burst created).verdicts times, v = true) := by
  have hnew := sound_new hrate hburst created
  refine ⟨?_, ?_, ?_⟩
  · rintro part ⟨rest, rfl⟩
    obtain ⟨hsound, -, -, hsame⟩ := hnew.after_calls horder
    exact ⟨hsound.tokens_nonneg, hsound.tokens_le.trans_eq hsame⟩
  · rintro before calls after start stop rfl hwindow hin
    rw [List.append_assoc] at horder
    obtain ⟨hsound, hcalls, hsamerate, hsameburst⟩ := hnew.after_calls horder
    have hblock : (exec step (new rate burst created) before).InOrder calls :=
      hcalls.sublist ((List.sublist_append_left calls after).cons_cons _)
    have hpaid := hsound.count_verdicts_le hblock hwindow hin
    obtain ⟨hafter, -, -, -⟩ := hsound.after_calls hcalls
    have hnonneg := hafter.allowance_nonneg hwindow
    have hlimit := hsound.allowance_le hwindow
    rw [hsamerate, hsameburst] at hlimit
    change _ ≤ burst + rate * seconds (stop - start) at hlimit
    linarith
  · intro hspaced
    exact (hspaced.affords_new hrate horder).verdicts hspaced

/-- Two tokens at the start and one each second: two calls at once and a third a
second later keep the bound and pass. -/
theorem bucket_regulates_three_calls :
    Spaced 1 2 [0, 0, second] ∧ ∀ v ∈ (new 1 2 0).verdicts [0, 0, second], v = true := by
  have hspaced : Spaced 1 2 [0, 0, second] := by
    intro i j hij hj
    simp only [List.length_cons, List.length_nil] at hj
    interval_cases j <;> interval_cases i <;> norm_num [seconds, second]
  exact ⟨hspaced, (bucket_regulates 1 2 (by norm_num) (by norm_num) 0 [0, 0, second]
    (by decide)).2.2 hspaced⟩

end SpatialServer.Gateway.TokenBucket

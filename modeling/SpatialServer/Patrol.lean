import SpatialServer.Approach
import SpatialServer.Entities
import SpatialServer.Runs

/-!
# Patrols

A patrol steps both axes toward its waypoint by the distance that the elapsed time
allows and turns to the next waypoint when both have arrived. With steps of one
length it reaches every waypoint after the number of steps that the longer of the
two axes takes. What is left of a step when it arrives is lost, and so is a step
that begins at the waypoint: where a patrol is after some time depends on how the
time was cut into steps, except where it arrives only at the end.
-/
namespace SpatialServer

open Runs Approach

theorem seconds_nonneg {d : Duration} (h : 0 ≤ d) : 0 ≤ seconds d := by
  unfold seconds second
  have : (0 : ℚ) ≤ d := by exact_mod_cast h
  positivity

theorem seconds_pos {d : Duration} (h : 0 < d) : 0 < seconds d := by
  unfold seconds second
  have : (0 : ℚ) < d := by exact_mod_cast h
  positivity

theorem seconds_add (d e : Duration) : seconds (d + e) = seconds d + seconds e := by
  unfold seconds
  push_cast
  ring

@[simp] theorem seconds_zero : seconds 0 = 0 := by simp [seconds]

theorem seconds_sum_replicate (n : ℕ) (d : Duration) :
    seconds (List.replicate n d).sum = n * seconds d := by
  induction n with
  | zero => simp
  | succ n ih =>
    rw [List.replicate_succ, List.sum_cons, seconds_add, ih]
    push_cast
    ring

theorem moveAxis_eq {delta : ℚ} (h : 0 ≤ delta) (pos target : ℚ) :
    moveAxis pos target delta = (approach pos target delta, decide (pos ≠ target)) := by
  unfold moveAxis
  by_cases heq : pos = target
  · subst heq
    simp [approach_self h]
  · rw [if_neg heq, approach]
    split_ifs <;> simp_all

/-! ## Both axes -/

namespace Vector3

/-- Both horizontal coordinates step toward those of the target. -/
def toward (pos target : Vector3) (delta : ℚ) : Vector3 :=
  ⟨approach pos.x target.x delta, pos.y, approach pos.z target.z delta⟩

/-- The longer of the two axis distances. -/
def reach (pos target : Vector3) : ℚ := max |target.x - pos.x| |target.z - pos.z|

/-- The two are at the same place of the horizontal plane. -/
def Above (pos target : Vector3) : Prop := pos.x = target.x ∧ pos.z = target.z

instance (pos target : Vector3) : Decidable (Above pos target) :=
  inferInstanceAs (Decidable (_ ∧ _))

variable {pos target : Vector3} {d e : ℚ}

@[simp] theorem toward_zero (pos target : Vector3) : pos.toward target 0 = pos := by
  simp [toward]

theorem toward_above_iff (pos target : Vector3) (d : ℚ) :
    (pos.toward target d).Above target ↔ reach pos target ≤ d := by
  rw [Above, toward, approach_eq_target_iff, approach_eq_target_iff, reach, max_le_iff]

theorem above_iff_reach_nonpos (pos target : Vector3) :
    pos.Above target ↔ reach pos target ≤ 0 := by
  rw [← toward_above_iff, toward_zero]

theorem Above.toward (h : pos.Above target) (hd : 0 ≤ d) : pos.toward target d = pos := by
  obtain ⟨x, y, z⟩ := pos
  obtain ⟨rfl, rfl⟩ := h
  simp [Vector3.toward, approach_self hd]

theorem toward_toward (hd : 0 ≤ d) (he : 0 ≤ e) (pos target : Vector3) :
    (pos.toward target d).toward target e = pos.toward target (d + e) := by
  simp only [toward, approach_approach hd he]

theorem reach_toward (pos target : Vector3) (d : ℚ) :
    reach (pos.toward target d) target = max (reach pos target - d) 0 := by
  simp only [reach, toward, abs_sub_approach]
  rw [max_max_max_comm, max_self, max_sub_sub_right]

/-- A step of some length away from its target moves. -/
theorem toward_ne_of_pos (hd : 0 < d) (h : ¬pos.Above target) : pos.toward target d ≠ pos := by
  intro heq
  refine h ⟨?_, ?_⟩
  · by_contra hx
    exact approach_ne_of_pos hd hx (congrArg Vector3.x heq)
  · by_contra hz
    exact approach_ne_of_pos hd hz (congrArg Vector3.z heq)

end Vector3

/-! ## One step and many -/

namespace Behavior

open SpatialServer.Vector3

variable (N : Numerics) (seed : ℤ)

/-- A position and a behaviour after one step. -/
def advance (s : Vector3 × Behavior) (dt : Duration) : Vector3 × Behavior :=
  ((s.2.step N seed s.1 dt).position, (s.2.step N seed s.1 dt).behavior)

variable {N seed} {speed : ℚ} {waypoints : List Vector3} {target : ℕ} {wp pos : Vector3}

/-- One step of a patrol. -/
theorem advance_patrol (hwp : waypoints[target]? = some wp) (pos : Vector3) {dt : Duration}
    (h : 0 ≤ speed * seconds dt) :
    advance N seed (pos, .patrol speed waypoints target) dt =
      (pos.toward wp (speed * seconds dt), .patrol speed waypoints
        (if reach pos wp ≤ speed * seconds dt then (target + 1) % waypoints.length
          else target)) := by
  simp only [advance, step, hwp, moveAxis_eq h, ← toward_above_iff]
  rfl

/-- A patrol that does not arrive goes on toward its waypoint. -/
theorem exec_patrol_of_lt (hspeed : 0 ≤ speed) (hwp : waypoints[target]? = some wp) (pos : Vector3)
    {ds : List Duration} (hds : ∀ d ∈ ds, 0 ≤ d) (h : speed * seconds ds.sum < reach pos wp) :
    exec (advance N seed) (pos, .patrol speed waypoints target) ds =
      (pos.toward wp (speed * seconds ds.sum), .patrol speed waypoints target) := by
  induction ds generalizing pos with
  | nil => simp
  | cons d ds ih =>
    have hd : 0 ≤ speed * seconds d := mul_nonneg hspeed (seconds_nonneg (hds d (by simp)))
    have hrest : ∀ e ∈ ds, 0 ≤ e := fun e he => hds e (by simp [he])
    have hsum : 0 ≤ speed * seconds ds.sum :=
      mul_nonneg hspeed (seconds_nonneg (List.sum_nonneg hrest))
    have hadd : speed * seconds (d :: ds).sum = speed * seconds d + speed * seconds ds.sum := by
      rw [List.sum_cons, seconds_add, mul_add]
    rw [hadd] at h ⊢
    have hshort : ¬reach pos wp ≤ speed * seconds d := by linarith
    rw [exec_cons, advance_patrol hwp pos hd, if_neg hshort, ih _ hrest, toward_toward hd hsum]
    rw [reach_toward]
    exact lt_max_of_lt_left (by linarith)

/-! ## Steps of one length -/

section Constant

variable {dt : Duration} (hspeed : 0 < speed) (hdt : 0 < dt) (hwp : waypoints[target]? = some wp)

include hspeed hdt hwp

theorem exec_replicate_of_lt (pos : Vector3) {j : ℕ}
    (h : j * (speed * seconds dt) < reach pos wp) :
    exec (advance N seed) (pos, .patrol speed waypoints target) (List.replicate j dt) =
      (pos.toward wp (j * (speed * seconds dt)), .patrol speed waypoints target) := by
  have hds : ∀ d ∈ List.replicate j dt, 0 ≤ d := List.forall_mem_replicate.mpr (.inr hdt.le)
  have hsum : speed * seconds (List.replicate j dt).sum = j * (speed * seconds dt) := by
    rw [seconds_sum_replicate]
    ring
  rw [← hsum] at h ⊢
  exact exec_patrol_of_lt hspeed.le hwp pos hds h

/-- A patrol takes the steps that the longer axis needs, at least one, and is at the
waypoint with the last of them. -/
theorem exec_leg (pos : Vector3) :
    let run := fun j => exec (advance N seed) (pos, .patrol speed waypoints target)
      (List.replicate j dt)
    let steps := max 1 ⌈reach pos wp / (speed * seconds dt)⌉₊
    (∀ j < steps, ∃ q, run j = (q, .patrol speed waypoints target) ∧ (0 < j → ¬q.Above wp)) ∧
    ∃ q, run steps = (q, .patrol speed waypoints ((target + 1) % waypoints.length)) ∧
      q.Above wp := by
  intro run steps
  have hδ : 0 < speed * seconds dt := mul_pos hspeed (seconds_pos hdt)
  have hbefore : ∀ j < steps,
      run j = (pos.toward wp (j * (speed * seconds dt)), .patrol speed waypoints target) ∧
        (0 < j → j * (speed * seconds dt) < reach pos wp) := by
    intro j hj
    rcases Nat.eq_zero_or_pos j with rfl | hpos
    · simp [run]
    · have hceil : j < ⌈reach pos wp / (speed * seconds dt)⌉₊ := by
        rcases lt_max_iff.mp hj with h | h
        · omega
        · exact h
      have hlt := (lt_div_iff₀ hδ).mp (Nat.lt_ceil.mp hceil)
      exact ⟨exec_replicate_of_lt hspeed hdt hwp pos hlt, fun _ => hlt⟩
  have hreach : reach pos wp ≤ steps * (speed * seconds dt) := by
    refine (div_le_iff₀ hδ).mp ((Nat.le_ceil _).trans ?_)
    exact_mod_cast le_max_right 1 _
  refine ⟨fun j hj => ?_, ?_⟩
  · obtain ⟨hrun, hlt⟩ := hbefore j hj
    refine ⟨_, hrun, fun hpos => ?_⟩
    rw [toward_above_iff, not_le]
    exact hlt hpos
  · -- the last step is taken from where the one before it led
    obtain ⟨j, hj⟩ : ∃ j, steps = j + 1 :=
      ⟨steps - 1, by have : 1 ≤ steps := le_max_left _ _; omega⟩
    have hsum : j * (speed * seconds dt) + speed * seconds dt = steps * (speed * seconds dt) := by
      rw [hj]
      push_cast
      ring
    have hlast : reach (pos.toward wp (j * (speed * seconds dt))) wp ≤ speed * seconds dt := by
      rw [reach_toward, max_le_iff]
      exact ⟨by linarith, hδ.le⟩
    have hstep : run steps = advance N seed (run j) dt := by
      simp only [run, hj, List.replicate_succ', exec_append, exec_cons, exec_nil]
    refine ⟨pos.toward wp (steps * (speed * seconds dt)), ?_, (toward_above_iff _ _ _).mpr hreach⟩
    rw [hstep, (hbefore j (by omega)).1, advance_patrol hwp _ hδ.le, if_pos hlast,
      toward_toward (by positivity) hδ.le, hsum]

end Constant

/-- A patrol stays one, with its waypoint on the list. -/
theorem exec_patrol_target (hspeed : 0 ≤ speed) {start : ℕ} (hstart : start < waypoints.length)
    (pos : Vector3) {ds : List Duration} (hds : ∀ d ∈ ds, 0 ≤ d) :
    ∃ p i wp, exec (advance N seed) (pos, .patrol speed waypoints start) ds =
      (p, .patrol speed waypoints i) ∧ waypoints[i]? = some wp := by
  let I : Vector3 × Behavior → Prop := fun s =>
    ∃ p i, s = (p, .patrol speed waypoints i) ∧ i < waypoints.length
  have hstep : ∀ s d, I s → 0 ≤ d → I (advance N seed s d) := by
    rintro _ d ⟨p, i, rfl, hi⟩ hd
    refine ⟨_, _, advance_patrol (List.getElem?_eq_getElem hi) p
      (mul_nonneg hspeed (seconds_nonneg hd)), ?_⟩
    split_ifs
    · exact Nat.mod_lt _ (by omega)
    · exact hi
  obtain ⟨p, i, hrun, hi⟩ := exec_invariant I hstep ⟨pos, start, rfl, hstart⟩
    (.of_forall_mem fun _ => hds)
  exact ⟨p, i, waypoints[i], hrun, List.getElem?_eq_getElem hi⟩

/-- Steps of one length lead a patrol along its waypoints in their cyclic order: after
any number of steps its waypoint is on the list, a further step takes no axis past the
waypoint or away from it, and the waypoint is reached, and the next one turned to,
after exactly the steps that the longer axis needs. -/
theorem patrol_visits_in_cyclic_order (N : Numerics) (seed : ℤ) (speed : ℚ) (hspeed : 0 < speed)
    (waypoints : List Vector3) (start : ℕ) (hstart : start < waypoints.length) (dt : Duration)
    (hdt : 0 < dt) (pos : Vector3) (m : ℕ) :
    let run := fun j => exec (advance N seed) (pos, .patrol speed waypoints start)
      (List.replicate j dt)
    ∃ p i wp, run m = (p, .patrol speed waypoints i) ∧ waypoints[i]? = some wp ∧
      (run (m + 1)).1.x ∈ Set.uIcc p.x wp.x ∧ (run (m + 1)).1.z ∈ Set.uIcc p.z wp.z ∧
      let steps := max 1 ⌈max |wp.x - p.x| |wp.z - p.z| / (speed * seconds dt)⌉₊
      (∀ j < steps, ∃ q, run (m + j) = (q, .patrol speed waypoints i) ∧
        (0 < j → ¬(q.x = wp.x ∧ q.z = wp.z))) ∧
      ∃ q, run (m + steps) = (q, .patrol speed waypoints ((i + 1) % waypoints.length)) ∧
        q.x = wp.x ∧ q.z = wp.z := by
  intro run
  have hadd : ∀ j, run (m + j) = exec (advance N seed) (run m) (List.replicate j dt) := by
    intro j
    simp only [run, List.replicate_add, exec_append]
  have hds : ∀ d ∈ List.replicate m dt, 0 ≤ d := List.forall_mem_replicate.mpr (.inr hdt.le)
  obtain ⟨p, i, wp, hrun, hwp⟩ : ∃ p i wp, run m = (p, .patrol speed waypoints i) ∧
      waypoints[i]? = some wp := exec_patrol_target hspeed.le hstart pos hds
  have hδ : 0 ≤ speed * seconds dt := (mul_pos hspeed (seconds_pos hdt)).le
  have hnext : (run (m + 1)).1 = p.toward wp (speed * seconds dt) := by
    rw [hadd, hrun, List.replicate_one, exec_cons, exec_nil, advance_patrol hwp p hδ]
  refine ⟨p, i, wp, hrun, hwp, ?_, ?_, ?_⟩
  · rw [hnext]
    exact approach_mem_uIcc hδ p.x wp.x
  · rw [hnext]
    exact approach_mem_uIcc hδ p.z wp.z
  · simp only [hadd, hrun]
    exact exec_leg hspeed hdt hwp p

/-- A way of ten steps, and what the next step does. -/
theorem patrol_visits_there_and_back :
    let N : Numerics := ⟨fun _ => 0, fun _ => 1, fun _ => 0, fun n => (0, n)⟩
    let waypoints : List Vector3 := [⟨100, 0, 25⟩, ⟨0, 0, 0⟩]
    let run := fun j => exec (advance N 0) (Vector3.zero, .patrol 10 waypoints 0)
      (List.replicate j second)
    run 9 = (⟨90, 0, 25⟩, .patrol 10 waypoints 0) ∧
      run 10 = (⟨100, 0, 25⟩, .patrol 10 waypoints 1) ∧
      ∃ p i wp, run 10 = (p, .patrol 10 waypoints i) ∧ waypoints[i]? = some wp ∧
        (run 11).1.x ∈ Set.uIcc p.x wp.x := by
  intro N waypoints run
  refine ⟨by decide +kernel, by decide +kernel, ?_⟩
  obtain ⟨p, i, wp, hrun, hwp, hx, -⟩ := patrol_visits_in_cyclic_order N 0 10 (by norm_num)
    waypoints 0 (by decide) second (by decide) Vector3.zero 10
  exact ⟨p, i, wp, hrun, hwp, hx⟩

/-! ## Steps of any lengths -/

/-- Once a patrol has arrived in the middle of a run, the rest of the run has to
leave it where it is; then the run comes to one step. -/
theorem exec_patrol_eq_advance (hspeed : 0 ≤ speed) (hwp : waypoints[target]? = some wp)
    (pos : Vector3) {ds : List Duration} (hne : ds ≠ []) (hds : ∀ d ∈ ds, 0 ≤ d)
    (hrest : ∀ pre d post, ds = pre ++ d :: post →
      reach pos wp ≤ speed * seconds (pre.sum + d) →
      ∀ e ∈ post, ∀ q, q.Above wp →
        advance N seed (q, .patrol speed waypoints ((target + 1) % waypoints.length)) e =
          (q, .patrol speed waypoints ((target + 1) % waypoints.length))) :
    exec (advance N seed) (pos, .patrol speed waypoints target) ds =
      advance N seed (pos, .patrol speed waypoints target) ds.sum := by
  induction ds generalizing pos with
  | nil => exact absurd rfl hne
  | cons d ds ih =>
    have hd : 0 ≤ speed * seconds d := mul_nonneg hspeed (seconds_nonneg (hds d (by simp)))
    have hds' : ∀ e ∈ ds, 0 ≤ e := fun e he => hds e (by simp [he])
    have hsum : 0 ≤ speed * seconds ds.sum :=
      mul_nonneg hspeed (seconds_nonneg (List.sum_nonneg hds'))
    have hadd : speed * seconds (d + ds.sum) = speed * seconds d + speed * seconds ds.sum := by
      rw [seconds_add, mul_add]
    have htotal : 0 ≤ speed * seconds (d + ds.sum) := hadd ▸ add_nonneg hd hsum
    rw [exec_cons, List.sum_cons, advance_patrol hwp pos hd, advance_patrol hwp pos htotal]
    by_cases harrive : reach pos wp ≤ speed * seconds d
    · -- it arrives at once and stays for the rest
      have hq : (pos.toward wp (speed * seconds d)).Above wp := (toward_above_iff _ _ _).mpr harrive
      have hstay := hrest [] d ds rfl (by simpa using harrive)
      rw [if_pos harrive, if_pos (harrive.trans (by linarith)), hadd, ← toward_toward hd hsum,
        hq.toward hsum]
      exact exec_eq_self fun e he => hstay e he _ hq
    · by_cases hnil : ds = []
      · subst hnil
        simp
      · have hleft : reach (pos.toward wp (speed * seconds d)) wp =
            reach pos wp - speed * seconds d := by
          rw [reach_toward]
          exact max_eq_left (by linarith)
        have hih := ih (pos.toward wp (speed * seconds d)) hnil hds' ?_
        · rw [if_neg harrive, hih, advance_patrol hwp _ hsum, toward_toward hd hsum, hadd, hleft]
          simp only [tsub_le_iff_right, add_comm]
        · intro pre e post hsplit hreach
          refine hrest (d :: pre) e post (by rw [hsplit]; rfl) ?_
          rw [hleft] at hreach
          rw [List.sum_cons, add_assoc, seconds_add, mul_add]
          linarith

/-- A patrol stands still in a step without length away from its waypoint. -/
theorem advance_of_delta_zero (hwp : waypoints[target]? = some wp) (h : ¬pos.Above wp)
    {dt : Duration} (hzero : speed * seconds dt = 0) :
    advance N seed (pos, .patrol speed waypoints target) dt =
      (pos, .patrol speed waypoints target) := by
  rw [above_iff_reach_nonpos] at h
  rw [advance_patrol hwp pos hzero.ge, hzero, toward_zero, if_neg h]

/-- The time that a patrol walks may be cut anywhere: it has one waypoint, or does not
come to its waypoint, or comes to it with the end of the time and the next waypoint is
elsewhere. -/
def CutAnywhere (speed : ℚ) (waypoints : List Vector3) (target : ℕ) (pos : Vector3)
    (d : Duration) : Prop :=
  ∀ wp ∈ waypoints[target]?, waypoints.length = 1 ∨ speed * seconds d < reach pos wp ∨
    (∀ next ∈ waypoints[(target + 1) % waypoints.length]?, ¬wp.Above next) ∧
      (speed = 0 ∨ ∀ d', 0 ≤ d' → d' < d → speed * seconds d' < reach pos wp)

/-- In a list of several the next entry is another one. -/
theorem succ_mod_ne {i n : ℕ} (hn : n ≠ 1) (hi : i < n) : (i + 1) % n ≠ i := by
  rcases Nat.lt_or_ge (i + 1) n with hin | hout
  · rw [Nat.mod_eq_of_lt hin]
    omega
  · rw [show i + 1 = n by omega, Nat.mod_self]
    omega

section Cuts

variable {d : Duration} (hspeed : 0 ≤ speed) (hwp : waypoints[target]? = some wp)

include hspeed hwp

/-- However the time is cut, the patrol comes to where one step leads it. -/
theorem exec_of_cutAnywhere (h : CutAnywhere speed waypoints target pos d) {ds : List Duration}
    (hne : ds ≠ []) (hds : ∀ e ∈ ds, 0 ≤ e) (hsum : ds.sum = d) :
    exec (advance N seed) (pos, .patrol speed waypoints target) ds =
      advance N seed (pos, .patrol speed waypoints target) d := by
  have hlt : target < waypoints.length := (List.getElem?_eq_some_iff.mp hwp).1
  rw [← hsum]
  refine exec_patrol_eq_advance hspeed hwp pos hne hds ?_
  rintro pre e post rfl harrive e' he' q hq
  have hpost : ∀ x ∈ post, 0 ≤ x := fun x hx => hds x (by simp [hx])
  have hsplit : d = pre.sum + e + post.sum := by
    rw [← hsum, List.sum_append, List.sum_cons, add_assoc]
  have hnonneg : 0 ≤ speed * seconds post.sum :=
    mul_nonneg hspeed (seconds_nonneg (List.sum_nonneg hpost))
  rcases h wp hwp with hone | hshort | ⟨helsewhere, hend⟩
  · -- the next waypoint is the one it has come to
    have htarget : (target + 1) % waypoints.length = target := by
      rw [hone] at hlt ⊢
      omega
    have he : 0 ≤ speed * seconds e' := mul_nonneg hspeed (seconds_nonneg (hpost e' he'))
    rw [htarget, advance_patrol hwp q he, hq.toward he, htarget, ite_self]
  · rw [hsplit, seconds_add, mul_add] at hshort
    linarith
  · have hnext :=
      List.getElem?_eq_getElem (Nat.mod_lt (target + 1) (by omega : 0 < waypoints.length))
    have haway : ¬q.Above (waypoints.get ⟨_, Nat.mod_lt (target + 1) (by omega)⟩) := by
      intro habove
      exact helsewhere _ hnext ⟨hq.1.symm.trans habove.1, hq.2.symm.trans habove.2⟩
    refine advance_of_delta_zero hnext haway ?_
    rcases hend with rfl | hend
    · exact zero_mul _
    · -- nothing is left of the time
      have hbegun : 0 ≤ pre.sum + e :=
        add_nonneg (List.sum_nonneg fun x hx => hds x (by simp [hx])) (hds e (by simp))
      have hover : ¬pre.sum + e < d := fun hlt' => absurd (hend _ hbegun hlt') (not_lt.mpr harrive)
      have hle : e' ≤ post.sum := List.single_le_sum hpost e' he'
      have hzero : e' = 0 := le_antisymm (by linarith) (hpost e' he')
      rw [hzero, seconds_zero, mul_zero]

/-- The patrol may arrive in the middle of the time only if the rest of the time leaves
it where it is. -/
theorem arrived_stays
    (h : ∀ ds : List Duration, ds ≠ [] → (∀ e ∈ ds, 0 ≤ e) → ds.sum = d →
      exec (advance N seed) (pos, .patrol speed waypoints target) ds =
        advance N seed (pos, .patrol speed waypoints target) d)
    {d' : Duration} (hd' : 0 ≤ d') (hle : d' ≤ d) (harrive : reach pos wp ≤ speed * seconds d') :
    ∃ q, q.Above wp ∧
      advance N seed (q, .patrol speed waypoints ((target + 1) % waypoints.length)) (d - d') =
        (q, .patrol speed waypoints ((target + 1) % waypoints.length)) := by
  have hδ : 0 ≤ speed * seconds d' := mul_nonneg hspeed (seconds_nonneg hd')
  have hδ' : 0 ≤ speed * seconds (d - d') := mul_nonneg hspeed (seconds_nonneg (by linarith))
  have hsum : speed * seconds d' + speed * seconds (d - d') = speed * seconds d := by
    rw [← mul_add, ← seconds_add, add_sub_cancel]
  have habove : (pos.toward wp (speed * seconds d')).Above wp :=
    (toward_above_iff _ _ _).mpr harrive
  have hcut := h [d', d - d'] (by simp) (by simpa using ⟨hd', hle⟩) (by simp)
  rw [exec_cons, exec_cons, exec_nil, advance_patrol hwp pos hδ, if_pos harrive,
    advance_patrol hwp pos (by linarith), if_pos (by linarith), ← hsum, ← toward_toward hδ hδ',
    habove.toward hδ'] at hcut
  exact ⟨_, habove, hcut⟩

/-- A step without length passes a waypoint that the next one shares its place with,
and a step of some length begun at the waypoint leaves it. -/
theorem cutAnywhere_of_exec (hd : 0 ≤ d)
    (h : ∀ ds : List Duration, ds ≠ [] → (∀ e ∈ ds, 0 ≤ e) → ds.sum = d →
      exec (advance N seed) (pos, .patrol speed waypoints target) ds =
        advance N seed (pos, .patrol speed waypoints target) d) :
    CutAnywhere speed waypoints target pos d := by
  have hlen : 0 < waypoints.length := by
    have := (List.getElem?_eq_some_iff.mp hwp).1
    omega
  intro wp' hwp'
  obtain rfl : wp = wp' := Option.some.inj (hwp.symm.trans hwp')
  by_cases hone : waypoints.length = 1
  · exact .inl hone
  rcases lt_or_ge (speed * seconds d) (reach pos wp) with hshort | harrive
  · exact .inr (.inl hshort)
  have helsewhere : ∀ next ∈ waypoints[(target + 1) % waypoints.length]?, ¬wp.Above next := by
    intro next hnext hsame
    obtain ⟨q, hq, hstay⟩ := arrived_stays hspeed hwp h hd le_rfl harrive
    have hreach : reach q next ≤ 0 :=
      (above_iff_reach_nonpos _ _).mp ⟨hq.1.trans hsame.1, hq.2.trans hsame.2⟩
    rw [sub_self, advance_patrol hnext _ (by simp), seconds_zero, mul_zero, if_pos hreach] at hstay
    have htarget := congrArg Prod.snd hstay
    simp only [patrol.injEq, true_and] at htarget
    exact succ_mod_ne hone (Nat.mod_lt _ hlen) htarget
  refine .inr (.inr ⟨helsewhere, ?_⟩)
  by_contra hcon
  push Not at hcon
  obtain ⟨hmoves, d', hd', hlt, harrive'⟩ := hcon
  have hδ : 0 < speed * seconds (d - d') :=
    mul_pos (lt_of_le_of_ne hspeed (Ne.symm hmoves)) (seconds_pos (by linarith))
  obtain ⟨q, hq, hstay⟩ := arrived_stays hspeed hwp h hd' hlt.le harrive'
  have hnext := List.getElem?_eq_getElem (Nat.mod_lt (target + 1) hlen)
  rw [advance_patrol hnext _ hδ.le] at hstay
  refine toward_ne_of_pos hδ (fun hat => helsewhere _ hnext ?_) (congrArg Prod.fst hstay)
  exact ⟨hq.1.symm.trans hat.1, hq.2.symm.trans hat.2⟩

end Cuts

/-- A patrol is led to the same place and waypoint by every way of cutting a time into
steps if and only if the time may be cut anywhere. -/
theorem patrol_steps_add_up_iff (N : Numerics) (seed : ℤ) (speed : ℚ) (hspeed : 0 ≤ speed)
    (waypoints : List Vector3) (target : ℕ) (pos : Vector3) (d : Duration) (hd : 0 ≤ d) :
    (∀ ds : List Duration, ds ≠ [] → (∀ e ∈ ds, 0 ≤ e) → ds.sum = d →
      exec (advance N seed) (pos, .patrol speed waypoints target) ds =
        advance N seed (pos, .patrol speed waypoints target) d) ↔
      CutAnywhere speed waypoints target pos d := by
  rcases hwp : waypoints[target]? with _ | wp
  · -- without a waypoint no step does anything
    have hstay : ∀ e, advance N seed (pos, .patrol speed waypoints target) e =
        (pos, .patrol speed waypoints target) := fun e => by simp [advance, step, hwp]
    refine iff_of_true (fun ds _ _ _ => ?_) fun wp hmem => ?_
    · rw [hstay, exec_eq_self fun e _ => hstay e]
    · rw [hwp] at hmem
      cases hmem
  · exact ⟨cutAnywhere_of_exec hspeed hwp hd,
      fun h ds hne hds hsum => exec_of_cutAnywhere hspeed hwp h hne hds hsum⟩

/-- Half of the way, in one step or in two. -/
theorem patrol_steps_add_up_halfway :
    let N : Numerics := ⟨fun _ => 0, fun _ => 1, fun _ => 0, fun n => (0, n)⟩
    let waypoints : List Vector3 := [⟨100, 0, 0⟩, ⟨0, 0, 0⟩]
    let start := (Vector3.zero, patrol 10 waypoints 0)
    exec (advance N 0) start [2 * second, 3 * second] = advance N 0 start (5 * second) := by
  intro N waypoints start
  refine (patrol_steps_add_up_iff N 0 10 (by norm_num) waypoints 0 Vector3.zero (5 * second)
    (by decide)).mpr ?_ [2 * second, 3 * second] (by simp) (by decide) (by decide)
  rintro wp hwp
  cases hwp
  exact .inr (.inl (by decide +kernel))

/-- Ten units a second along a way of ten units: in one step of two seconds the second
half is lost, in two steps of a second the patrol is back where it began. -/
theorem patrol_loses_time_at_waypoint :
    let N : Numerics := ⟨fun _ => 0, fun _ => 1, fun _ => 0, fun n => (0, n)⟩
    let waypoints : List Vector3 := [⟨10, 0, 0⟩, ⟨0, 0, 0⟩]
    let start := (Vector3.zero, patrol 10 waypoints 0)
    advance N 0 start (2 * second) = (⟨10, 0, 0⟩, patrol 10 waypoints 1) ∧
      exec (advance N 0) start [second, second] = (⟨0, 0, 0⟩, patrol 10 waypoints 0) := by
  decide +kernel

end Behavior

end SpatialServer

import SpatialServer.Patrol

/-!
# Wanderers

A wanderer draws a point of the disc around its origin, walks to it, pauses and
draws again. It steps one axis at a time: Z is stepped only once X has arrived, so
the way leads over a corner of the rectangle between the two points. Both points lie
in the disc, the corner need not. What the steps keep is the square around the disc.

Here the drawn points are given with the steps. A behaviour that draws them from a
generator takes such steps.
-/
namespace SpatialServer

open Runs Approach Behavior

/-- The length of a step, and the point that it draws if it draws one. -/
structure WanderStep where
  dt : Duration
  x : ℚ
  z : ℚ

/-- Where a wanderer is, where it is going, and how long it still pauses. The zero
vector stands for no target. -/
structure Wanderer where
  position : Vector3
  target : Vector3
  pause : Duration
  deriving DecidableEq

namespace Wanderer

def goal (w : Wanderer) (c : WanderStep) : Vector3 :=
  if w.target = Vector3.zero then ⟨c.x, 0, c.z⟩ else w.target

def step (speed : ℚ) (w : Wanderer) (c : WanderStep) : Wanderer :=
  if w.pause > 0 then { w with pause := w.pause - c.dt }
  else
    let goal := w.goal c
    let mx := moveAxis w.position.x goal.x (speed * seconds c.dt)
    let mz := if mx.2 then (w.position.z, false)
      else moveAxis w.position.z goal.z (speed * seconds c.dt)
    let p : Vector3 := ⟨mx.1, w.position.y, mz.1⟩
    if mx.2 || mz.2 then ⟨p, goal, w.pause⟩ else ⟨p, Vector3.zero, second / 2⟩

/-- A wanderer that has not drawn yet. -/
def start (pos : Vector3) : Wanderer := ⟨pos, Vector3.zero, 0⟩

/-- The behaviour with what it knows of the way. -/
def behavior (w : Wanderer) (origin : Vector3) (radius speed : ℚ) (rng : Option ℕ) : Behavior :=
  .wander origin radius speed rng w.target w.pause

/-- A step of the behaviour is a step with the point that its generator yields. -/
theorem advance_behavior (N : Numerics) (seed : ℤ) (origin : Vector3) (radius speed : ℚ)
    (rng : Option ℕ) (w : Wanderer) (dt : Duration) :
    let drawn := (wanderTarget N origin radius (rng.getD (N.newRand seed))).1
    let w' := w.step speed ⟨dt, drawn.x, drawn.z⟩
    ∃ rng', advance N seed (w.position, w.behavior origin radius speed rng) dt =
      (w'.position, w'.behavior origin radius speed (some rng')) := by
  intro drawn w'
  simp only [w', advance, behavior, Behavior.step, step, goal]
  split_ifs <;> exact ⟨_, rfl⟩

/-- A run of the behaviour is a run with points that its generator yields. -/
theorem exec_behavior (N : Numerics) (seed : ℤ) (origin : Vector3) (radius speed : ℚ)
    (rng : Option ℕ) (w : Wanderer) (dts : List Duration) :
    ∃ cs : List WanderStep, cs.map WanderStep.dt = dts ∧
      (∀ c ∈ cs, ∃ state, (⟨c.x, 0, c.z⟩ : Vector3) = (wanderTarget N origin radius state).1) ∧
      ∃ rng', exec (advance N seed) (w.position, w.behavior origin radius speed rng) dts =
        ((exec (step speed) w cs).position,
          (exec (step speed) w cs).behavior origin radius speed rng') := by
  induction dts generalizing w rng with
  | nil => exact ⟨[], rfl, by simp, rng, rfl⟩
  | cons dt dts ih =>
    obtain ⟨rng', hstep⟩ := advance_behavior N seed origin radius speed rng w dt
    let drawn := (wanderTarget N origin radius (rng.getD (N.newRand seed))).1
    obtain ⟨cs, hdts, hdrawn, hrun⟩ := ih (some rng') (w.step speed ⟨dt, drawn.x, drawn.z⟩)
    refine ⟨⟨dt, drawn.x, drawn.z⟩ :: cs, by rw [List.map_cons, hdts], ?_, ?_⟩
    · rw [List.forall_mem_cons]
      exact ⟨⟨rng.getD (N.newRand seed), rfl⟩, hdrawn⟩
    · rw [exec_cons, hstep]
      exact hrun

/-- One step: it waits, steps X, steps Z or has arrived. -/
theorem step_cases {speed : ℚ} (w : Wanderer) (c : WanderStep) (h : 0 ≤ speed * seconds c.dt) :
    (w.pause > 0 ∧ w.step speed c = { w with pause := w.pause - c.dt }) ∨
    ¬w.pause > 0 ∧
      (w.position.x ≠ (w.goal c).x ∧ w.step speed c =
          ⟨⟨approach w.position.x (w.goal c).x (speed * seconds c.dt), w.position.y, w.position.z⟩,
            w.goal c, w.pause⟩ ∨
        (w.position.x = (w.goal c).x ∧ w.position.z ≠ (w.goal c).z ∧ w.step speed c =
          ⟨⟨w.position.x, w.position.y, approach w.position.z (w.goal c).z (speed * seconds c.dt)⟩,
            w.goal c, w.pause⟩) ∨
        w.position.x = (w.goal c).x ∧ w.position.z = (w.goal c).z ∧
          w.step speed c = ⟨w.position, Vector3.zero, second / 2⟩) := by
  by_cases hpause : w.pause > 0
  · exact .inl ⟨hpause, if_pos hpause⟩
  refine .inr ⟨hpause, ?_⟩
  simp only [step, if_neg hpause, moveAxis_eq h]
  by_cases hx : w.position.x = (w.goal c).x
  · by_cases hz : w.position.z = (w.goal c).z
    · refine .inr (.inr ⟨hx, hz, ?_⟩)
      simp [← hx, ← hz, approach_self h]
    · refine .inr (.inl ⟨hx, hz, ?_⟩)
      simp [← hx, hz, approach_self h]
  · exact .inl ⟨hx, by simp [hx]⟩

/-! ## The square -/

/-- Within the square of half side `radius` around the origin. -/
def InSquare (origin : Vector3) (radius : ℚ) (p : Vector3) : Prop :=
  p.x ∈ Set.Icc (origin.x - radius) (origin.x + radius) ∧
    p.z ∈ Set.Icc (origin.z - radius) (origin.z + radius)

/-- Within the disc of the given radius around the origin. -/
def InDisc (origin : Vector3) (radius : ℚ) (p : Vector3) : Prop :=
  distSq p origin ≤ radius * radius

instance (origin : Vector3) (radius : ℚ) (p : Vector3) : Decidable (InDisc origin radius p) :=
  inferInstanceAs (Decidable (_ ≤ _))

variable {origin : Vector3} {radius speed : ℚ}

theorem InDisc.inSquare (hradius : 0 ≤ radius) {p : Vector3} (h : InDisc origin radius p) :
    InSquare origin radius p := by
  unfold InDisc distSq at h
  have hx : |p.x - origin.x| ≤ radius := abs_le_of_sq_le_sq (by nlinarith) hradius
  have hz : |p.z - origin.z| ≤ radius := abs_le_of_sq_le_sq (by nlinarith) hradius
  rw [abs_le] at hx hz
  exact ⟨⟨by linarith, by linarith⟩, ⟨by linarith, by linarith⟩⟩

/-- What a run may give: steps that do not go back in time and points of the disc. -/
def Admissible (origin : Vector3) (radius : ℚ) (c : WanderStep) : Prop :=
  0 ≤ c.dt ∧ InDisc origin radius ⟨c.x, 0, c.z⟩

/-- A wanderer and the point it is going to are in the square. -/
def Confined (origin : Vector3) (radius : ℚ) (w : Wanderer) : Prop :=
  InSquare origin radius w.position ∧ (w.target = Vector3.zero ∨ InSquare origin radius w.target)

theorem Confined.step (hradius : 0 ≤ radius) (hspeed : 0 ≤ speed) {w : Wanderer} {c : WanderStep}
    (h : Confined origin radius w) (hc : Admissible origin radius c) :
    Confined origin radius (w.step speed c) := by
  obtain ⟨⟨hx, hz⟩, htarget⟩ := h
  have hδ : 0 ≤ speed * seconds c.dt := mul_nonneg hspeed (seconds_nonneg hc.1)
  have hgoal : InSquare origin radius (w.goal c) := by
    unfold goal
    split_ifs with hzero
    · exact hc.2.inSquare hradius
    · exact htarget.resolve_left hzero
  obtain ⟨-, hstep⟩ | ⟨-, ⟨-, hstep⟩ | ⟨-, -, hstep⟩ | ⟨-, -, hstep⟩⟩ := w.step_cases c hδ
  · rw [hstep]
    exact ⟨⟨hx, hz⟩, htarget⟩
  · rw [hstep]
    exact ⟨⟨Set.uIcc_subset_Icc hx hgoal.1 (approach_mem_uIcc hδ _ _), hz⟩, .inr hgoal⟩
  · rw [hstep]
    exact ⟨⟨hx, Set.uIcc_subset_Icc hz hgoal.2 (approach_mem_uIcc hδ _ _)⟩, .inr hgoal⟩
  · rw [hstep]
    exact ⟨⟨hx, hz⟩, .inl rfl⟩

/-- A wanderer that starts in the disc never leaves the square around it. -/
theorem exec_inSquare (hradius : 0 ≤ radius) (hspeed : 0 ≤ speed) {pos : Vector3}
    (hpos : InDisc origin radius pos) {cs : List WanderStep}
    (hcs : ∀ c ∈ cs, Admissible origin radius c) :
    InSquare origin radius (exec (step speed) (start pos) cs).position := by
  have hstart : Confined origin radius (start pos) := ⟨hpos.inSquare hradius, .inl rfl⟩
  exact (exec_invariant (Confined origin radius) (fun w c => Confined.step hradius hspeed) hstart
    (.of_forall_mem fun _ => hcs)).1

/-! ## The disc -/

/-- Without a radius or without a speed there is nowhere to go. -/
theorem exec_inDisc (hradius : 0 ≤ radius) (hspeed : 0 ≤ speed) (h : radius = 0 ∨ speed = 0)
    {pos : Vector3} (hpos : InDisc origin radius pos) {cs : List WanderStep}
    (hcs : ∀ c ∈ cs, Admissible origin radius c) :
    InDisc origin radius (exec (step speed) (start pos) cs).position := by
  rcases h with rfl | rfl
  · obtain ⟨⟨hx, hx'⟩, hz, hz'⟩ := exec_inSquare hradius hspeed hpos hcs
    have hxeq : (exec (step speed) (start pos) cs).position.x = origin.x := by linarith
    have hzeq : (exec (step speed) (start pos) cs).position.z = origin.z := by linarith
    simp [InDisc, distSq, hxeq, hzeq]
  · have hstay : (exec (step 0) (start pos) cs).position = pos := by
      refine exec_keeps (fun w : Wanderer => w.position = pos) (fun w c hw => ?_) rfl cs
      have hδ : 0 ≤ (0 : ℚ) * seconds c.dt := by simp
      obtain ⟨-, hstep⟩ | ⟨-, ⟨-, hstep⟩ | ⟨-, -, hstep⟩ | ⟨-, -, hstep⟩⟩ := w.step_cases c hδ
      all_goals rw [hstep]; simpa using hw
    rw [hstay]
    exact hpos

/-- Off the horizontal diameter a step of X to the edge leads out of the disc. -/
theorem step_leaves {w : Wanderer} (hpause : ¬w.pause > 0) (htarget : w.target = Vector3.zero)
    (hradius : 0 ≤ radius) (hdisc : InDisc origin radius w.position)
    (hoff : w.position.z ≠ origin.z) {dt : Duration} (hfar : 2 * radius ≤ speed * seconds dt) :
    ¬InDisc origin radius (w.step speed ⟨dt, origin.x + radius, origin.z⟩).position := by
  have hδ : 0 ≤ speed * seconds dt := by linarith
  have hgoal : w.goal ⟨dt, origin.x + radius, origin.z⟩ = ⟨origin.x + radius, 0, origin.z⟩ :=
    if_pos htarget
  have hpos : 0 < (w.position.z - origin.z) * (w.position.z - origin.z) :=
    mul_self_pos.mpr (sub_ne_zero.mpr hoff)
  obtain ⟨hx, hx'⟩ := (hdisc.inSquare hradius).1
  have hne : w.position.x ≠ origin.x + radius := by
    intro heq
    unfold InDisc distSq at hdisc
    rw [heq, add_sub_cancel_left] at hdisc
    linarith
  have harrive : approach w.position.x (origin.x + radius) (speed * seconds dt) =
      origin.x + radius := by
    rw [approach_eq_target_iff, abs_le]
    exact ⟨by linarith, by linarith⟩
  obtain ⟨hwait, -⟩ | ⟨-, ⟨-, hstep⟩ | ⟨hx, -⟩ | ⟨hx, -⟩⟩ :=
    w.step_cases ⟨dt, origin.x + radius, origin.z⟩ hδ
  · exact absurd hwait hpause
  · rw [hstep, hgoal]
    simp only [InDisc, distSq, harrive, add_sub_cancel_left, not_le]
    linarith
  · exact absurd (hx.trans (by rw [hgoal])) hne
  · exact absurd (hx.trans (by rw [hgoal])) hne

/-- A wanderer can be led to a point that shares no coordinate with it, over the corner,
and through the pause there. -/
theorem exists_exec_to_point {pos : Vector3} {x z : ℚ} (hx : pos.x ≠ x) (hz : pos.z ≠ z)
    {dt : Duration} (hdt : 0 ≤ dt) (hfarx : |x - pos.x| ≤ speed * seconds dt)
    (hfarz : |z - pos.z| ≤ speed * seconds dt) : ∃ cs : List WanderStep,
      (∀ c ∈ cs, 0 ≤ c.dt ∧ c.x = x ∧ c.z = z) ∧
      exec (step speed) (start pos) cs = start ⟨x, pos.y, z⟩ := by
  have hδ : 0 ≤ speed * seconds dt := (abs_nonneg _).trans hfarx
  have hgoal : ∀ p q, (⟨p, ⟨x, 0, z⟩, q⟩ : Wanderer).goal ⟨dt, x, z⟩ = ⟨x, 0, z⟩ :=
    fun p q => ite_self _
  have hfirst : (start pos).step speed ⟨dt, x, z⟩ = ⟨⟨x, pos.y, pos.z⟩, ⟨x, 0, z⟩, 0⟩ := by
    simp [step, start, goal, moveAxis_eq hδ, hx, (approach_eq_target_iff _ _ _).mpr hfarx]
  have hsecond : step speed ⟨⟨x, pos.y, pos.z⟩, ⟨x, 0, z⟩, 0⟩ ⟨dt, x, z⟩ =
      ⟨⟨x, pos.y, z⟩, ⟨x, 0, z⟩, 0⟩ := by
    simp [step, hgoal, moveAxis_eq hδ, hz, approach_self hδ,
      (approach_eq_target_iff _ _ _).mpr hfarz]
  have hthird : step speed ⟨⟨x, pos.y, z⟩, ⟨x, 0, z⟩, 0⟩ ⟨dt, x, z⟩ =
      ⟨⟨x, pos.y, z⟩, Vector3.zero, second / 2⟩ := by
    simp [step, hgoal, moveAxis_eq hδ, approach_self hδ]
  have hfourth : step speed ⟨⟨x, pos.y, z⟩, Vector3.zero, second / 2⟩ ⟨second / 2, x, z⟩ =
      start ⟨x, pos.y, z⟩ := by
    simp [step, start, second]
  refine ⟨[⟨dt, x, z⟩, ⟨dt, x, z⟩, ⟨dt, x, z⟩, ⟨second / 2, x, z⟩], ?_, ?_⟩
  · simp [hdt, second]
  · simp only [exec_cons, exec_nil, hfirst, hsecond, hthird, hfourth]

/-- The disc has a point off the horizontal diameter in another column than a given one. -/
theorem exists_point_off_diameter (origin : Vector3) (hradius : 0 < radius) (x₀ : ℚ) :
    ∃ x z, x₀ ≠ x ∧ origin.z ≠ z ∧ InDisc origin radius ⟨x, 0, z⟩ := by
  have hz : origin.z ≠ origin.z + 4 / 5 * radius := by linarith
  by_cases hx : x₀ = origin.x
  · refine ⟨origin.x + 3 / 5 * radius, _, by rw [hx]; linarith, hz, ?_⟩
    simp only [InDisc, distSq, add_sub_cancel_left]
    nlinarith
  · refine ⟨origin.x, _, hx, hz, ?_⟩
    simp only [InDisc, distSq, add_sub_cancel_left, sub_self]
    nlinarith

/-- A step long enough to cross the disc. -/
theorem exists_long_step (radius : ℚ) (hspeed : 0 < speed) :
    ∃ dt : Duration, 0 ≤ dt ∧ 2 * radius ≤ speed * seconds dt := by
  have hunit : 0 < speed * seconds 1 := mul_pos hspeed (seconds_pos one_pos)
  obtain ⟨n, hn⟩ := exists_nat_ge (2 * radius / (speed * seconds 1))
  refine ⟨n, Int.natCast_nonneg n, ?_⟩
  have hsec : seconds (n : Duration) = n * seconds 1 := by simp [seconds, div_eq_mul_inv]
  rw [div_le_iff₀ hunit] at hn
  rw [hsec]
  linarith

/-- With a radius and a speed a wanderer can be led out of the disc from everywhere. -/
theorem exists_exec_leaves (hradius : 0 < radius) (hspeed : 0 < speed) {pos : Vector3}
    (hpos : InDisc origin radius pos) : ∃ cs : List WanderStep,
      (∀ c ∈ cs, Admissible origin radius c) ∧
      ¬InDisc origin radius (exec (step speed) (start pos) cs).position := by
  obtain ⟨dt, hdt, hfar⟩ := exists_long_step radius hspeed
  have hidle : ∀ p, ¬(start p).pause > 0 := fun p => lt_irrefl _
  have hedge : Admissible origin radius ⟨dt, origin.x + radius, origin.z⟩ :=
    ⟨hdt, by simp [InDisc, distSq]⟩
  by_cases hoff : pos.z = origin.z
  · -- from the diameter it is first led off it
    obtain ⟨x, z, hx, hz, hpoint⟩ := exists_point_off_diameter origin hradius pos.x
    obtain ⟨⟨hpx, hpx'⟩, hpz, hpz'⟩ := hpos.inSquare hradius.le
    obtain ⟨⟨hqx, hqx'⟩, hqz, hqz'⟩ : x ∈ Set.Icc _ _ ∧ z ∈ Set.Icc _ _ :=
      hpoint.inSquare hradius.le
    have hfarx : |x - pos.x| ≤ speed * seconds dt := abs_le.mpr ⟨by linarith, by linarith⟩
    have hfarz : |z - pos.z| ≤ speed * seconds dt := abs_le.mpr ⟨by linarith, by linarith⟩
    obtain ⟨cs, hcs, hrun⟩ := exists_exec_to_point hx (hoff ▸ hz) hdt hfarx hfarz
    refine ⟨cs ++ [⟨dt, origin.x + radius, origin.z⟩], ?_, ?_⟩
    · intro c hc
      rcases List.mem_append.mp hc with hc | hc
      · obtain ⟨hc, hcx, hcz⟩ := hcs c hc
        exact ⟨hc, by rwa [hcx, hcz]⟩
      · rw [List.mem_singleton.mp hc]
        exact hedge
    · have harrived : InDisc origin radius (start ⟨x, pos.y, z⟩).position := hpoint
      rw [exec_append, hrun, exec_cons, exec_nil]
      exact step_leaves (hidle _) rfl hradius.le harrived hz.symm hfar
  · refine ⟨[⟨dt, origin.x + radius, origin.z⟩], by simpa using hedge, ?_⟩
    rw [exec_cons, exec_nil]
    exact step_leaves (hidle _) rfl hradius.le hpos hoff hfar

/-- A wanderer that starts in the disc stays in it, whatever points of it are drawn and
however long the steps are, if and only if it has no radius or no speed. -/
theorem wanderer_stays_in_disc_iff (origin : Vector3) (radius speed : ℚ) (hradius : 0 ≤ radius)
    (hspeed : 0 ≤ speed) (pos : Vector3) (hpos : distSq pos origin ≤ radius * radius) :
    (∀ cs : List WanderStep,
      (∀ c ∈ cs, 0 ≤ c.dt ∧ distSq ⟨c.x, 0, c.z⟩ origin ≤ radius * radius) →
      distSq (exec (step speed) (start pos) cs).position origin ≤ radius * radius) ↔
      radius = 0 ∨ speed = 0 := by
  constructor
  · intro h
    by_contra hboth
    push Not at hboth
    obtain ⟨cs, hcs, hout⟩ := exists_exec_leaves (lt_of_le_of_ne hradius hboth.1.symm)
      (lt_of_le_of_ne hspeed hboth.2.symm) hpos
    exact hout (h cs hcs)
  · exact fun h cs hcs => exec_inDisc hradius hspeed h hpos hcs

/-- A wanderer without speed. -/
theorem wanderer_without_speed_stays :
    distSq (exec (step 0) (start ⟨50, 0, 70⟩)
      [⟨second, 70, 50⟩, ⟨second, 30, 50⟩]).position ⟨50, 0, 50⟩ ≤ 20 * 20 := by
  refine (wanderer_stays_in_disc_iff ⟨50, 0, 50⟩ 20 0 (by norm_num) le_rfl ⟨50, 0, 70⟩
    (by decide +kernel)).mpr (.inr rfl) _ ?_
  decide +kernel

/-- From the centre to the upper edge, and after the pause toward the right edge: the
corner is off the disc. -/
theorem wanderer_cuts_corner :
    let origin : Vector3 := ⟨50, 0, 50⟩
    let dt := second / 5
    let cs : List WanderStep := [⟨dt, 50, 70⟩, ⟨dt, 50, 70⟩, ⟨second / 2, 50, 70⟩, ⟨dt, 70, 50⟩]
    (∀ c ∈ cs, 0 ≤ c.dt ∧ distSq ⟨c.x, 0, c.z⟩ origin ≤ 20 * 20) ∧
      exec (step 100) (start origin) cs = ⟨⟨70, 0, 70⟩, ⟨70, 0, 50⟩, 0⟩ ∧
      ¬distSq (exec (step 100) (start origin) cs).position origin ≤ 20 * 20 := by
  decide +kernel

end Wanderer

end SpatialServer

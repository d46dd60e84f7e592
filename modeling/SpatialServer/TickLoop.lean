import SpatialServer.Relay

/-!
# The tick loop, step by step

A tick is not atomic: it takes the lock of the game many times, and the channels
are filled while it runs. Here the loop is a state machine. Its phase says what
it does next, and every step is one call on the game, or none. That the loop on
its own goes through a whole tick is `exists_iterate_eq_tick`.
-/
namespace SpatialServer

/-- Where the tick loop is. A tick that has started carries its delta until it
has simulated. -/
inductive Phase where
  | idle
  | applyCmds (dt : Duration) (applied : ℕ)
  | drain (dt : Duration) (processed : ℕ)
  | simulate (dt : Duration)
  | zoneIDs
  | detectZoneBoundaries (zids : List ZoneID)
  | updateVisibility (zid : ZoneID) (zids : List ZoneID)
  | sweepGhosts
  | sweepDisconnected
  deriving DecidableEq, Repr

namespace Phase

/-- The call that the loop makes next, with what it takes from its environment. -/
def call (inp : Game.TickInput) : Phase → Option Call
  | idle => some (.beginTick inp.now)
  | applyCmds _ applied => if applied < cmdChannelBuffer then some .applyCmd else none
  | drain _ _ => some .dispatchNext
  | simulate dt => some (.simulate dt inp.seed inp.simulateOrder)
  | zoneIDs | detectZoneBoundaries [] => none
  | detectZoneBoundaries (zid :: _) =>
    some (.detectZoneBoundaries zid (inp.ghostNow zid) (inp.detectOrder zid))
  | updateVisibility zid _ => some (.updateVisibility zid (inp.visitOrder zid))
  | sweepGhosts => some (.sweepGhosts inp.ghostSweepNow inp.ghostOrder)
  | sweepDisconnected => some (.sweepDisconnected inp.sessionNow inp.sessionOrder)

/-- Where the loop is after that call on the game. -/
def next (inp : Game.TickInput) (g : Game) : Phase → Phase
  | idle => applyCmds (g.tickDelta inp.now) 0
  | applyCmds dt applied =>
    if applied < cmdChannelBuffer ∧ g.cmds.recv.isSome then applyCmds dt (applied + 1)
    else drain dt 0
  | drain dt processed =>
    if g.inbox.recv.isSome ∧ processed + 1 < maxPacketsPerTick then drain dt (processed + 1)
    else simulate dt
  | simulate _ => zoneIDs
  | zoneIDs => detectZoneBoundaries (g.zones.range inp.zoneOrder)
  | detectZoneBoundaries [] => sweepGhosts
  | detectZoneBoundaries (zid :: zids) => updateVisibility zid zids
  | updateVisibility _ zids => detectZoneBoundaries zids
  | sweepGhosts => sweepDisconnected
  | sweepDisconnected => idle

variable {inp : Game.TickInput} {phase : Phase} {c : Call}

theorem ofTick_call (h : phase.call inp = some c) : c.ofTick := by
  cases phase with
  | applyCmds dt applied =>
    simp only [call] at h
    split_ifs at h
    cases h; rfl
  | zoneIDs => cases h
  | detectZoneBoundaries zids =>
    cases zids with
    | nil => cases h
    | cons zid zids => cases h; rfl
  | _ => cases h; rfl

/-- Sessions are swept at the end of a tick. -/
theorem sweptAt_call (h : phase.call inp = some c) {now : Time} (hnow : c.sweptAt = some now) :
    phase = sweepDisconnected ∧ now = inp.sessionNow := by
  cases phase with
  | sweepDisconnected =>
    cases h
    cases hnow
    exact ⟨rfl, rfl⟩
  | applyCmds dt applied =>
    simp only [call] at h
    split_ifs at h
    cases h; cases hnow
  | zoneIDs => cases h
  | detectZoneBoundaries zids =>
    cases zids with
    | nil => cases h
    | cons zid zids => cases h; cases hnow
  | _ => cases h; cases hnow

end Phase

namespace Game

/-- The loop makes its next call, if it makes one. -/
def loopCall (H : Host) (inp : TickInput) (phase : Phase) (g : Game) : Game :=
  match phase.call inp with
  | some c => g.step H c
  | none => g

def loopStep (H : Host) (inp : TickInput) (t : Phase × Game) : Phase × Game :=
  (t.1.next inp t.2, t.2.loopCall H inp t.1)

/-! ## A tick on its own -/

section Alone

variable (H : Host) (inp : TickInput)

theorem exists_iterate_applyCmds (dt : Duration) (n applied : ℕ) (g : Game)
    (hn : applied + n = cmdChannelBuffer) :
    ∃ k, (loopStep H inp)^[k] (.applyCmds dt applied, g) = (.drain dt 0, applyCmd^[n] g) := by
  induction n generalizing applied g with
  | zero =>
    refine ⟨1, ?_⟩
    have hfull : ¬applied < cmdChannelBuffer := by omega
    simp [loopStep, loopCall, Phase.next, Phase.call, hfull]
  | succ n ih =>
    have hlt : applied < cmdChannelBuffer := by omega
    cases hrecv : g.cmds.recv with
    | none =>
      refine ⟨1, ?_⟩
      have hfix : applyCmd^[n + 1] g = g := Function.iterate_fixed (applyCmd_of_empty hrecv) _
      simp [loopStep, loopCall, Phase.next, Phase.call, hlt, hrecv, hfix, step,
        applyCmd_of_empty hrecv]
    | some p =>
      obtain ⟨k, hk⟩ := ih (applied + 1) g.applyCmd (by omega)
      refine ⟨k + 1, ?_⟩
      rw [Function.iterate_succ_apply, Function.iterate_succ_apply, ← hk]
      simp [loopStep, loopCall, Phase.next, Phase.call, hlt, hrecv, step]

theorem exists_iterate_drain (dt : Duration) (n processed : ℕ) (g : Game)
    (hn : processed + n = maxPacketsPerTick) (hpos : 0 < n) :
    ∃ k, (loopStep H inp)^[k] (.drain dt processed, g) =
      (.simulate dt, (dispatchNext H.codec)^[n] g) := by
  induction n generalizing processed g with
  | zero => omega
  | succ n ih =>
    by_cases hlt : g.inbox.recv.isSome ∧ processed + 1 < maxPacketsPerTick
    · obtain ⟨k, hk⟩ := ih (processed + 1) (g.dispatchNext H.codec) (by omega) (by omega)
      refine ⟨k + 1, ?_⟩
      rw [Function.iterate_succ_apply, Function.iterate_succ_apply, ← hk]
      simp [loopStep, loopCall, Phase.next, Phase.call, hlt, step]
    · -- the inbox is empty, or this was the last packet of the tick
      refine ⟨1, ?_⟩
      have hlast : (dispatchNext H.codec)^[n] (g.dispatchNext H.codec) = g.dispatchNext H.codec := by
        by_cases hrecv : g.inbox.recv = none
        · rw [dispatchNext_of_empty H.codec hrecv]
          exact Function.iterate_fixed (dispatchNext_of_empty H.codec hrecv) n
        · have hzero : n = 0 := by
            have hfull : ¬processed + 1 < maxPacketsPerTick :=
              fun h => hlt ⟨Option.isSome_iff_ne_none.mpr hrecv, h⟩
            omega
          rw [hzero, Function.iterate_zero_apply]
      rw [show (dispatchNext H.codec)^[n + 1] g = _ from hlast]
      simp [loopStep, loopCall, Phase.next, Phase.call, hlt, step]

theorem exists_iterate_zones (zids : List ZoneID) (g : Game) :
    ∃ k, (loopStep H inp)^[k] (.detectZoneBoundaries zids, g) =
      (.sweepGhosts, zids.foldl (fun g zid =>
        (g.detectZoneBoundaries zid (inp.ghostNow zid) (inp.detectOrder zid)).updateVisibility zid
          (inp.visitOrder zid)) g) := by
  induction zids generalizing g with
  | nil => exact ⟨1, rfl⟩
  | cons zid zids ih =>
    obtain ⟨k, hk⟩ := ih ((g.detectZoneBoundaries zid (inp.ghostNow zid)
      (inp.detectOrder zid)).updateVisibility zid (inp.visitOrder zid))
    exact ⟨k + 2, hk⟩

theorem exists_iterate_simulate (dt : Duration) (g : Game) :
    ∃ k, (loopStep H inp)^[k] (.simulate dt, g) =
      let g := simulate H.numerics g dt inp.seed inp.simulateOrder
      let g := (g.zones.range inp.zoneOrder).foldl (fun g zid =>
        (g.detectZoneBoundaries zid (inp.ghostNow zid) (inp.detectOrder zid)).updateVisibility zid
          (inp.visitOrder zid)) g
      (.idle, (g.sweepGhosts inp.ghostSweepNow inp.ghostOrder).sweepDisconnected inp.sessionNow
        inp.sessionOrder) := by
  obtain ⟨k, hk⟩ := exists_iterate_zones H inp
    ((simulate H.numerics g dt inp.seed inp.simulateOrder).zones.range inp.zoneOrder)
    (simulate H.numerics g dt inp.seed inp.simulateOrder)
  refine ⟨2 + (k + 2), ?_⟩
  have hlist : (loopStep H inp)^[2] (.simulate dt, g) = (.detectZoneBoundaries
      ((simulate H.numerics g dt inp.seed inp.simulateOrder).zones.range inp.zoneOrder),
      simulate H.numerics g dt inp.seed inp.simulateOrder) := rfl
  rw [Function.iterate_add_apply, Function.iterate_add_apply, hlist, hk]
  rfl

/-- Undisturbed, the loop goes from one idle phase to the next through one tick. -/
theorem exists_iterate_eq_tick (g : Game) :
    ∃ k, (loopStep H inp)^[k] (.idle, g) = (.idle, g.tick H inp) := by
  obtain ⟨k₁, h₁⟩ := exists_iterate_applyCmds H inp (g.tickDelta inp.now) cmdChannelBuffer
    0 { g with lastTickAt := inp.now } (zero_add _)
  obtain ⟨k₂, h₂⟩ := exists_iterate_drain H inp (g.tickDelta inp.now) maxPacketsPerTick
    0 (applyCmd^[cmdChannelBuffer] { g with lastTickAt := inp.now }) (zero_add _) (by decide)
  obtain ⟨k₃, h₃⟩ := exists_iterate_simulate H inp (g.tickDelta inp.now)
    ((dispatchNext H.codec)^[maxPacketsPerTick]
      (applyCmd^[cmdChannelBuffer] { g with lastTickAt := inp.now }))
  refine ⟨k₃ + (k₂ + (k₁ + 1)), ?_⟩
  have hbegin : (loopStep H inp)^[1] (.idle, g) =
      (.applyCmds (g.tickDelta inp.now) 0, { g with lastTickAt := inp.now }) := rfl
  rw [Function.iterate_add_apply, Function.iterate_add_apply, Function.iterate_add_apply, hbegin,
    h₁, h₂, h₃]
  simp only [tick, tickBounded]

end Alone

/-! ## What the loop leaves alone -/

section Frames

variable {H : Host} {inp : TickInput} {g : Game}

theorem inbox_enqueueMove (g : Game) (id : EntityID) (pos : Vector3) :
    (g.enqueueMove id pos).inbox = g.inbox := by
  unfold enqueueMove
  split <;> simp

theorem inbox_simulateEntity (N : Numerics) (dt : Duration) (seed : EntityID → ℤ) (g : Game)
    (id : EntityID) : (simulateEntity N dt seed g id).inbox = g.inbox := by
  unfold simulateEntity
  split
  · rfl
  · dsimp only
    split_ifs
    · rfl
    · rfl
    · rw [inbox_enqueueMove]; rfl

theorem inbox_dispatch (c : Wire.Codec) (g : Game) (pkt : InboundPacket) :
    (g.dispatch c pkt).inbox = g.inbox := by
  unfold dispatch
  split
  · rfl
  · split_ifs
    · split
      · unfold dispatchPositionUpdate
        split
        · rfl
        · rw [inbox_enqueueMove]; rfl
      · rfl
    · split
      · unfold dispatchEntityAction
        split
        · rfl
        · dsimp only
          split_ifs
          · rfl
          · split <;> rfl
      · rfl
    · split
      · unfold dispatchEntityState
        split
        · rfl
        · dsimp only
          split <;> simp
      · rfl
    · rfl

theorem inbox_sweepSession (now : Time) (g : Game) (id : EntityID) :
    (sweepSession now g id).inbox = g.inbox := by
  obtain ⟨s, states, heq⟩ := sweepSession_frame now g id
  rw [heq]

/-- Only the drain touches the inbox. -/
theorem inbox_step {c : Call} (hc : c.ofTick) (hne : c ≠ .dispatchNext) :
    (step H g c).inbox = g.inbox := by
  cases c with
  | drainEvent =>
    simp only [step, drainEvent]
    split <;> rfl
  | beginTick now => rfl
  | applyCmd =>
    simp only [step, applyCmd]
    split
    · next cmd ch _ => cases cmd <;> rfl
    · rfl
  | dispatchNext => exact absurd rfl hne
  | simulate dt seed order =>
    refine List.foldlRecOn (motive := fun g' : Game => g'.inbox = g.inbox) _ _ rfl
      fun g' hg' id _ => ?_
    rw [inbox_simulateEntity, hg']
  | detectZoneBoundaries zid now order => rfl
  | updateVisibility zid order => simp [step]
  | sweepGhosts now order => rfl
  | sweepDisconnected now order =>
    refine List.foldlRecOn (motive := fun g' : Game => g'.inbox = g.inbox) _ _ rfl
      fun g' hg' id _ => ?_
    rw [inbox_sweepSession, hg']
  | _ => simp [Call.ofTick] at hc

/-- The loop takes packets from the inbox and puts none in. -/
theorem inboxSent_step {c : Call} (hc : c.ofTick) :
    (step H g c).inbox.sent = g.inbox.sent := by
  by_cases hne : c = .dispatchNext
  · subst hne
    simp only [step, dispatchNext]
    split
    · next pkt ch hrecv => rw [inbox_dispatch, (Chan.recv_eq_some hrecv).2.1]
    · rfl
  · rw [inbox_step hc hne]

end Frames

end Game

end SpatialServer

import SpatialServer.Game
import SpatialServer.Runs

/-!
# Runs of the game server

The methods of the server exclude each other by its lock, so a run of the whole
server is a list of calls, whoever makes them. The tick loop makes its calls in
a fixed sequence, but other calls may fall between any two of them; that a tick
on its own is the execution of its calls is `tick_eq_exec`.
-/
namespace SpatialServer

open Runs

inductive Call where
  | assignZone (z : Zone)
  | releaseZone (id : ZoneID)
  | addEntity (e : Entity)
  | migrateEntityIn (snap : EntitySnapshot) (target : ZoneID)
  | removeEntity (id : EntityID)
  | migrateEntityOut (id : EntityID)
  | enqueueAddEntity (e : Entity)
  | enqueueRemoveEntity (id : EntityID)
  | receive (pkt : InboundPacket)
  | drainEvent
  | markDisconnected (id : EntityID) (now : Time)
  | markReconnected (id : EntityID)
  | beginTick (now : Time)
  | applyCmd
  | dispatchNext
  | simulate (dt : Duration) (seed : EntityID → ℤ) (order : List EntityID)
  | detectZoneBoundaries (zid : ZoneID) (now : EntityID → Time) (order : List EntityID)
  | updateVisibility (zid : ZoneID) (order : Game.VisitOrder)
  | sweepGhosts (now : Time) (order : List EntityID)
  | sweepDisconnected (now : Time) (order : List EntityID)

/-- The clock reading of a call that sweeps the sessions. -/
def Call.sweptAt : Call → Option Time
  | .sweepDisconnected now _ => some now
  | _ => none

namespace Game

/-- The consumer of the event channel takes one event. -/
def drainEvent (g : Game) : Game :=
  match g.events.recv with
  | some (_, ch) => { g with events := ch }
  | none => g

def step (H : Host) (g : Game) : Call → Game
  | .assignZone z => (g.assignZone z).toOption.getD g
  | .releaseZone id => (g.releaseZone id).toOption.getD g
  | .addEntity e => g.addEntity e
  | .migrateEntityIn snap target => g.migrateEntityIn snap target
  | .removeEntity id => g.removeEntity id
  | .migrateEntityOut id => g.migrateEntityOut id
  | .enqueueAddEntity e => g.enqueueCmd (.add e)
  | .enqueueRemoveEntity id => g.enqueueCmd (.remove id)
  | .receive pkt => g.receive pkt
  | .drainEvent => g.drainEvent
  | .markDisconnected id now => g.markDisconnected id now
  | .markReconnected id => g.markReconnected id
  | .beginTick now => { g with lastTickAt := now }
  | .applyCmd => g.applyCmd
  | .dispatchNext => g.dispatchNext H.codec
  | .simulate dt seed order => simulate H.numerics g dt seed order
  | .detectZoneBoundaries zid now order => g.detectZoneBoundaries zid now order
  | .updateVisibility zid order => g.updateVisibility zid order
  | .sweepGhosts now order => g.sweepGhosts now order
  | .sweepDisconnected now order => g.sweepDisconnected now order

/-- A refused call changes nothing. -/
theorem step_assignZone (H : Host) (g : Game) (z : Zone) :
    step H g (.assignZone z) = g ∨
      ∃ s, g.toStore.assignZone z = .ok s ∧ step H g (.assignZone z) = { g with toStore := s } := by
  simp only [step, assignZone]
  cases g.toStore.assignZone z with
  | error _ => exact .inl rfl
  | ok s => exact .inr ⟨s, rfl, rfl⟩

theorem step_releaseZone (H : Host) (g : Game) (id : ZoneID) :
    step H g (.releaseZone id) = g ∨
      ∃ s, g.toStore.releaseZone id = .ok s ∧
        step H g (.releaseZone id) = { g with toStore := s } := by
  simp only [step, releaseZone]
  cases g.toStore.releaseZone id with
  | error _ => exact .inl rfl
  | ok s => exact .inr ⟨s, rfl, rfl⟩

/-- The entity that a call adds, if it adds one. -/
def addedEntity (g : Game) : Call → Option Entity
  | .addEntity e => some e
  | .migrateEntityIn snap target => some (Store.snapshotEntity snap target)
  | .applyCmd =>
    match g.cmds.recv with
    | some (.add e, _) => some e
    | _ => none
  | _ => none

def added (g : Game) (c : Call) : Option EntityID := (g.addedEntity c).map (·.id)

/-- All clocks of the tick show one time, and loops visit keys as stored. -/
def TickInput.reading (now : Time) : TickInput where
  now := now
  seed := fun _ => 0
  simulateOrder := []
  zoneOrder := []
  ghostNow := fun _ _ => now
  detectOrder := fun _ => []
  visitOrder := fun _ => VisitOrder.any
  ghostSweepNow := now
  ghostOrder := []
  sessionNow := now
  sessionOrder := []

/-- The calls of a tick up to the simulation. Draining an empty queue is no
call at all, so the two loops may be taken at full length. -/
def tickHead (cmdBound packetBound : ℕ) (inp : TickInput) (dt : Duration) : List Call :=
  .beginTick inp.now :: (List.replicate cmdBound .applyCmd ++
    (List.replicate packetBound .dispatchNext ++ [.simulate dt inp.seed inp.simulateOrder]))

/-- The calls of a tick from the zone loop on, for the zones it found. -/
def tickTail (inp : TickInput) (zids : List ZoneID) : List Call :=
  (zids.flatMap fun zid => [.detectZoneBoundaries zid (inp.ghostNow zid) (inp.detectOrder zid),
    .updateVisibility zid (inp.visitOrder zid)]) ++
    [.sweepGhosts inp.ghostSweepNow inp.ghostOrder,
      .sweepDisconnected inp.sessionNow inp.sessionOrder]

theorem exec_replicate (H : Host) (c : Call) {f : Game → Game} (hf : ∀ g, step H g c = f g)
    (n : ℕ) (g : Game) : exec (step H) g (List.replicate n c) = f^[n] g := by
  induction n generalizing g with
  | zero => rfl
  | succ n ih => rw [List.replicate_succ, exec_cons, ih, hf, Function.iterate_succ_apply]

theorem exec_zoneLoop (H : Host) (inp : TickInput) (zids : List ZoneID) (g : Game) :
    exec (step H) g (zids.flatMap fun zid =>
      [.detectZoneBoundaries zid (inp.ghostNow zid) (inp.detectOrder zid),
        .updateVisibility zid (inp.visitOrder zid)]) =
      zids.foldl (fun g zid =>
        (g.detectZoneBoundaries zid (inp.ghostNow zid) (inp.detectOrder zid)).updateVisibility zid
          (inp.visitOrder zid)) g := by
  induction zids generalizing g with
  | nil => rfl
  | cons zid zids ih =>
    rw [List.flatMap_cons, exec_append, ih]
    rfl

theorem tickBounded_eq_exec (n m : ℕ) (H : Host) (inp : TickInput) (g : Game) :
    tickBounded n m H inp g =
      let head := tickHead n m inp (g.tickDelta inp.now)
      exec (step H) g (head ++ tickTail inp ((exec (step H) g head).zones.range inp.zoneOrder)) := by
  have hcmds := exec_replicate H .applyCmd (f := applyCmd) (fun _ => rfl) n
  have hinbox := exec_replicate H .dispatchNext (f := dispatchNext H.codec) (fun _ => rfl) m
  simp only [tickBounded, tickHead, tickTail, exec_append, exec_cons, exec_nil, hcmds, hinbox,
    exec_zoneLoop, step]

/-- A tick is the execution of its calls. -/
theorem tick_eq_exec (H : Host) (inp : TickInput) (g : Game) :
    tick H inp g =
      let head := tickHead cmdChannelBuffer maxPacketsPerTick inp (g.tickDelta inp.now)
      exec (step H) g (head ++ tickTail inp ((exec (step H) g head).zones.range inp.zoneOrder)) :=
  tickBounded_eq_exec _ _ H inp g

theorem applyCmd_of_empty {g : Game} (h : g.cmds.recv = none) : g.applyCmd = g := by
  simp [applyCmd, h]

theorem dispatchNext_of_empty (c : Wire.Codec) {g : Game} (h : g.inbox.recv = none) :
    g.dispatchNext c = g := by
  simp [dispatchNext, h]

/-- The loops of a tick may be cut where they have emptied their queues. -/
theorem tick_eq_tickBounded {n m : ℕ} {H : Host} {inp : TickInput} {g : Game}
    (hn : n ≤ cmdChannelBuffer) (hm : m ≤ maxPacketsPerTick)
    (hcmds : (applyCmd^[n] { g with lastTickAt := inp.now }).cmds.recv = none)
    (hinbox : ((dispatchNext H.codec)^[m]
      (applyCmd^[n] { g with lastTickAt := inp.now })).inbox.recv = none) :
    tick H inp g = tickBounded n m H inp g := by
  have happly : applyCmd^[cmdChannelBuffer] { g with lastTickAt := inp.now } =
      applyCmd^[n] { g with lastTickAt := inp.now } := by
    rw [← Nat.sub_add_cancel hn, Function.iterate_add_apply]
    exact Function.iterate_fixed (applyCmd_of_empty hcmds) _
  have hdrain : (dispatchNext H.codec)^[maxPacketsPerTick]
        (applyCmd^[n] { g with lastTickAt := inp.now }) =
      (dispatchNext H.codec)^[m] (applyCmd^[n] { g with lastTickAt := inp.now }) := by
    rw [← Nat.sub_add_cancel hm, Function.iterate_add_apply]
    exact Function.iterate_fixed (dispatchNext_of_empty H.codec hinbox) _
  simp only [tick, tickBounded, happly, hdrain]

end Game

end SpatialServer

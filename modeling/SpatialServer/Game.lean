import SpatialServer.Store
import SpatialServer.Wire

/-!
# The simulation state and its operations

A `Game` adds to the store the three queues, the sessions and the drop
counters. Publishing is lossy: a full event channel drops the event. Everything
that happens on the server is one of the methods below, and a tick is a fixed
sequence of them.
-/
namespace SpatialServer

def inboxBufferSize : ℕ := 4096
def cmdChannelBuffer : ℕ := 256
def maxPacketsPerTick : ℕ := 1024
def maxTickDelta : Duration := second / 4
def defaultReconnectWindow : Duration := 30 * second

structure InboundPacket where
  clientID : String
  data : Bytes

inductive SessionStatus where
  | active
  | disconnected
  | despawned
  deriving DecidableEq, Repr

structure SessionState where
  status : SessionStatus
  disconnectedAt : Time
  deriving DecidableEq, Repr

inductive EventKind where
  | spawn
  | despawn
  | move
  | state
  deriving DecidableEq, Repr

structure Event where
  kind : EventKind
  space : RuntimeID
  observer : EntityID
  entityID : EntityID
  type : String
  position : Vector3
  payload : Bytes
  deriving DecidableEq, Repr

/-- The two control-plane commands that the tick loop executes. -/
inductive Cmd where
  | add (e : Entity)
  | remove (id : EntityID)

structure Game extends Store where
  serverID : ServerID
  inbox : Chan InboundPacket
  events : Chan Event
  cmds : Chan Cmd
  sessionStates : Dict EntityID SessionState
  reconnectWindow : Duration
  lastTickAt : Time
  /-- The two drop counters of the metrics. -/
  eventsDropped : ℕ
  cmdsDropped : ℕ

namespace Game

def new (sid : ServerID) : Game where
  toStore := Store.empty
  serverID := sid
  inbox := Chan.make inboxBufferSize
  events := Chan.make inboxBufferSize
  cmds := Chan.make cmdChannelBuffer
  sessionStates := ∅
  reconnectWindow := defaultReconnectWindow
  lastTickAt := 0
  eventsDropped := 0
  cmdsDropped := 0

/-- Run a method of the store on the store of the game. -/
def onStore (g : Game) (f : Store → Store) : Game := { g with toStore := f g.toStore }

/-- A full event channel drops the event and counts it. -/
def publish (g : Game) (evt : Event) : Game :=
  match g.events.trySend evt with
  | some ch => { g with events := ch }
  | none => { g with eventsDropped := g.eventsDropped + 1 }

def publishAll (g : Game) (evts : List Event) : Game := evts.foldl publish g

/-- A refused assignment or release leaves the game as it was. -/
def assignZone (g : Game) (z : Zone) : Except Failure Game :=
  (g.toStore.assignZone z).map fun s => { g with toStore := s }

def releaseZone (g : Game) (id : ZoneID) : Except Failure Game :=
  (g.toStore.releaseZone id).map fun s => { g with toStore := s }

def addEntity (g : Game) (e : Entity) : Game := g.onStore (·.addEntity e)

def removeEntity (g : Game) (id : EntityID) : Game := g.onStore (·.removeEntity id)

def migrateEntityIn (g : Game) (snap : EntitySnapshot) (target : ZoneID) : Game :=
  g.addEntity (Store.snapshotEntity snap target)

def migrateEntityOut (g : Game) (id : EntityID) : Game := g.removeEntity id

/-! ## Control-plane commands -/

def enqueueCmd (g : Game) (cmd : Cmd) : Game :=
  match g.cmds.trySend cmd with
  | some ch => { g with cmds := ch }
  | none => { g with cmdsDropped := g.cmdsDropped + 1 }

def runCmd (g : Game) : Cmd → Game
  | .add e => g.addEntity e
  | .remove id => g.removeEntity id

/-- One iteration of the command loop; an empty queue ends the loop. -/
def applyCmd (g : Game) : Game :=
  match g.cmds.recv with
  | some (cmd, ch) => runCmd { g with cmds := ch } cmd
  | none => g

/-! ## Inbound packets and movement -/

def moveEvent (space : RuntimeID) (observer id : EntityID) (pos : Vector3) : Event :=
  ⟨.move, space, observer, id, "", pos, []⟩

def enqueueMove (g : Game) (id : EntityID) (pos : Vector3) : Game :=
  match g.gridRefOf id with
  | some ref =>
    g.publishAll ((g.observersOf ref id pos).map fun obs => moveEvent (g.spaceOf id) obs id pos)
  | none => g

def dispatchPositionUpdate (g : Game) (clientID : EntityID) (upd : Wire.EntityUpdate) : Game :=
  match g.entities.get clientID with
  | none => g
  | some r =>
    let e := { g.objects.cell r with position := upd.position.getD Vector3.zero }
    (g.onStore fun s => (s.setObject r e).moveOnGrid e.id e.position).enqueueMove e.id e.position

def stateEvent (e : Entity) (payload : Bytes) (observer : EntityID) : Event :=
  ⟨.state, e.runtimeID, observer, e.id, "", Vector3.zero, payload⟩

def dispatchEntityState (g : Game) (st : Wire.EntityState) (payload : Bytes) : Game :=
  match g.entities.get st.entityID with
  | none => g
  | some r =>
    let e := g.objects.cell r
    match g.gridRefOf e.id with
    | some ref => g.publishAll ((g.observersOf ref e.id e.position).map (stateEvent e payload))
    | none => g

/-- An action reaches the hook of its target only if the sender owns it. -/
def dispatchEntityAction (g : Game) (clientID : EntityID) (act : Wire.EntityAction) : Game :=
  match g.entities.get act.entityID with
  | none => g
  | some r =>
    let e := g.objects.cell r
    if e.ownerID ≠ clientID then g
    else match e.lifecycle with
      | none => g
      | some l => g.onStore
          (·.setObject r { e with lifecycle := some (l.onAction act.action act.payload) })

def dispatch (c : Wire.Codec) (g : Game) (pkt : InboundPacket) : Game :=
  match Wire.decode c pkt.data with
  | .error _ => g
  | .ok d =>
    if d.id = Wire.packetIDPositionUpdate then
      match c.entityUpdate d.payload with
      | some upd => g.dispatchPositionUpdate pkt.clientID upd
      | none => g
    else if d.id = Wire.packetIDEntityAction then
      match c.entityAction d.payload with
      | some act => g.dispatchEntityAction pkt.clientID act
      | none => g
    else if d.id = Wire.packetIDEntityState then
      match c.entityState d.payload with
      | some st => g.dispatchEntityState st d.payload
      | none => g
    else g

/-- The relay drops a packet that finds the inbox full. -/
def receive (g : Game) (pkt : InboundPacket) : Game :=
  match g.inbox.trySend pkt with
  | some ch => { g with inbox := ch }
  | none => g

/-- One iteration of the bounded inbox drain. -/
def dispatchNext (c : Wire.Codec) (g : Game) : Game :=
  match g.inbox.recv with
  | some (pkt, ch) => dispatch c { g with inbox := ch } pkt
  | none => g

/-- One iteration of the simulation loop. An entity that did not move only has
its behaviour stepped. -/
def simulateEntity (N : Numerics) (dt : Duration) (seed : EntityID → ℤ) (g : Game)
    (id : EntityID) : Game :=
  match g.entities.get id with
  | none => g
  | some r =>
    let e := g.objects.cell r
    if e.lifecycle.isNone then g
    else
      let e' := e.onSimulate N (seed id) dt
      if e'.position = e.position then g.onStore (·.setObject r e')
      else (g.onStore fun s => (s.setObject r e').moveOnGrid id e'.position).enqueueMove id
        e'.position

def simulate (N : Numerics) (g : Game) (dt : Duration) (seed : EntityID → ℤ)
    (order : List EntityID) : Game :=
  (g.entities.range order).foldl (simulateEntity N dt seed) g

/-! ## Replicas -/

def detectZoneBoundaries (g : Game) (zid : ZoneID) (now : EntityID → Time)
    (order : List EntityID) : Game :=
  g.onStore (·.detectZoneBoundaries zid now order)

def sweepGhosts (g : Game) (now : Time) (order : List EntityID) : Game :=
  g.onStore (·.sweepGhosts now order)

/-! ## Visibility -/

/-- The iteration orders of the three loops over one zone's observers. -/
structure VisitOrder where
  observers : List EntityID
  spawns : EntityID → List EntityID
  despawns : EntityID → List EntityID

/-- The order in which the keys happen to be stored. -/
def VisitOrder.any : VisitOrder := ⟨[], fun _ => [], fun _ => []⟩

def spawnEvent (e other : Entity) : Event :=
  ⟨.spawn, e.runtimeID, e.id, other.id, other.type, other.position, []⟩

def despawnEvent (e : Entity) (id : EntityID) : Event :=
  ⟨.despawn, e.runtimeID, e.id, id, "", Vector3.zero, []⟩

/-- Identifiers newly in range that name a live entity. Replicas are in the
grid too, but have no entity. -/
def spawnsFor (g : Game) (e : Entity) (visible : Dict EntityID Unit) (current : List EntityID) :
    List Event :=
  current.filterMap fun id =>
    if (visible.get id).isNone ∧ id ≠ e.id then
      (g.entities.get id).map fun r => spawnEvent e (g.objects.cell r)
    else none

def despawnsFor (e : Entity) (visible : List EntityID) (current : Dict EntityID Unit) :
    List Event :=
  (visible.filter fun id => (current.get id).isNone).map (despawnEvent e)

def visitObserver (sim : ZoneSim) (order : VisitOrder) (g : Game) (id : EntityID) : Game :=
  match sim.entities.get id with
  | none => g
  | some r =>
    let e := g.objects.cell r
    let current := (g.grids.cell sim.aoi).entitiesInRange e.position g.aoiRadius
    let currentSet := Dict.ofList current
    let state := (g.entityAOI.get e.id).getD ⟨∅, e.position⟩
    let spawns := g.spawnsFor e state.visible (currentSet.range (order.spawns e.id))
    let despawns := despawnsFor e (state.visible.range (order.despawns e.id)) currentSet
    let g := (g.publishAll spawns).publishAll despawns
    { g with entityAOI := g.entityAOI.set e.id ⟨currentSet, e.position⟩ }

def updateVisibility (g : Game) (zid : ZoneID) (order : VisitOrder) : Game :=
  match g.zones.get zid with
  | none => g
  | some sim => (sim.entities.range order.observers).foldl (visitObserver sim order) g

/-! ## Sessions -/

def markDisconnected (g : Game) (id : EntityID) (now : Time) : Game :=
  if (g.entities.get id).isNone then g
  else { g with sessionStates := g.sessionStates.set id ⟨.disconnected, now⟩ }

def markReconnected (g : Game) (id : EntityID) : Game :=
  { g with sessionStates := g.sessionStates.set id ⟨.active, 0⟩ }

/-- The session is disconnected for longer than the reconnect window. -/
def expired (g : Game) (now : Time) (id : EntityID) : Bool :=
  match g.sessionStates.get id with
  | some st => decide (st.status = .disconnected ∧ now - st.disconnectedAt > g.reconnectWindow)
  | none => false

/-- Expiry leaves the grid of `aoiIndex`, and does not touch the entity map of
the zone. -/
def sweepSession (now : Time) (g : Game) (id : EntityID) : Game :=
  if g.expired now id then
    let g' := match g.entityZone.get id with
      | some zid =>
        match g.aoiIndex.get zid with
        | some ref => g.onStore (·.updateGrid ref (·.leave id))
        | none => g
      | none => g
    { g' with
      entities := g'.entities.del id
      entityAOI := g'.entityAOI.del id
      entityZone := g'.entityZone.del id
      sessionStates := g'.sessionStates.del id }
  else g

def sweepDisconnected (g : Game) (now : Time) (order : List EntityID) : Game :=
  (g.sessionStates.range order).foldl (sweepSession now) g

/-! ## The tick -/

/-- What one tick takes from its environment: clock readings, random seeds and
iteration orders. -/
structure TickInput where
  now : Time
  seed : EntityID → ℤ
  simulateOrder : List EntityID
  zoneOrder : List ZoneID
  ghostNow : ZoneID → EntityID → Time
  detectOrder : ZoneID → List EntityID
  visitOrder : ZoneID → VisitOrder
  ghostSweepNow : Time
  ghostOrder : List EntityID
  sessionNow : Time
  sessionOrder : List EntityID

/-- The simulated delta of a tick, capped after a pause. The first tick has no
predecessor and simulates nothing. -/
def tickDelta (g : Game) (now : Time) : Duration :=
  min (now - (if g.lastTickAt = 0 then now else g.lastTickAt)) maxTickDelta

/-- The tick with its two loop bounds: commands and inbound packets. -/
def tickBounded (cmdBound packetBound : ℕ) (H : Host) (inp : TickInput) (g : Game) : Game :=
  let dt := g.tickDelta inp.now
  let g := { g with lastTickAt := inp.now }
  let g := applyCmd^[cmdBound] g
  let g := (dispatchNext H.codec)^[packetBound] g
  let g := simulate H.numerics g dt inp.seed inp.simulateOrder
  let g := (g.zones.range inp.zoneOrder).foldl (fun g zid =>
    (g.detectZoneBoundaries zid (inp.ghostNow zid) (inp.detectOrder zid)).updateVisibility zid
      (inp.visitOrder zid)) g
  let g := g.sweepGhosts inp.ghostSweepNow inp.ghostOrder
  g.sweepDisconnected inp.sessionNow inp.sessionOrder

def tick (H : Host) (inp : TickInput) (g : Game) : Game :=
  tickBounded cmdChannelBuffer maxPacketsPerTick H inp g

end Game

end SpatialServer

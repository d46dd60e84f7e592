import SpatialServer.Containers
import SpatialServer.RoomService
import SpatialServer.Runs

/-!
# The registry in memory and its sweeper

The room service also keeps nodes and zone owners in maps of its own. The
sweeper over them finds the overdue nodes under a read lock and then takes them
one by one: it marks the node, takes its zones out of the ownership map and
hands each of them, with a target, to a function it was given. That function is
foreign code and may change the maps as it likes. Map iteration orders and the
clock are up to the environment.
-/
namespace SpatialServer

open Runs

structure RegisteredNode extends NodeDescriptor where
  lastHeartbeat : Time
  deriving DecidableEq, Repr

/-- `ServerRegistry` and `ZoneOwnership`. -/
structure Directory where
  svr : Dict ServerID RegisteredNode
  zones : Dict String ServerID

namespace Directory

def list (d : Directory) (order : List ServerID) : List NodeDescriptor :=
  (d.svr.range order).filterMap fun id => (d.svr.get id).map RegisteredNode.toNodeDescriptor

def leastLoaded (d : Directory) (order : List ServerID) : Option NodeDescriptor :=
  match LeastLoadedAllocator.select ((d.list order).map some) with
  | .ok n => some n
  | .error _ => none

def markShutdown (d : Directory) (id : ServerID) : Directory :=
  match d.svr.get id with
  | some n => { d with svr := d.svr.set id { n with status := .shutdown } }
  | none => d

end Directory

/-- The foreign function that is told about a zone and its target. -/
abbrev ReassignFunc := Directory → String → ServerID → Directory

/-- What a sweep takes from its environment. -/
structure SweepInput where
  now : Time
  deadOrder : List ServerID
  zoneOrder : ServerID → List String
  /-- The order in which the nodes are listed for a zone of a dead node. -/
  listOrder : ServerID → String → List ServerID

/-- The maps during a sweep, and what was passed to the foreign function. -/
structure SweepState where
  dir : Directory
  passed : List (String × ServerID)

namespace Sweeper

def overdue (cfg : SweeperConfig) (inp : SweepInput) (d : Directory) : List ServerID :=
  (d.svr.range inp.deadOrder).filter fun id =>
    match d.svr.get id with
    | none => false
    | some n => n.status ≠ .shutdown ∧ inp.now - n.lastHeartbeat > cfg.missThreshold

/-- One turn of the loop over the zones of a dead node. -/
def reassignOrphan (reassign : Option ReassignFunc) (order : String → List ServerID)
    (st : SweepState) (zoneID : String) : SweepState :=
  match st.dir.leastLoaded (order zoneID), reassign with
  | some target, some f =>
    ⟨f st.dir zoneID target.nodeID, st.passed ++ [(zoneID, target.nodeID)]⟩
  | _, _ => st

def orphaned (order : List String) (d : Directory) (dead : ServerID) : List String :=
  (d.zones.range order).filter fun z => d.zones.get z = some dead

/-- The maps once the zones of the node are taken out. -/
def disown (order : List String) (st : SweepState) (dead : ServerID) : SweepState :=
  { st with dir := { st.dir with zones := st.dir.zones.delAll (orphaned order st.dir dead) } }

def reassignZonesOf (reassign : Option ReassignFunc) (inp : SweepInput) (st : SweepState)
    (dead : ServerID) : SweepState :=
  exec (reassignOrphan reassign (inp.listOrder dead)) (disown (inp.zoneOrder dead) st dead)
    (orphaned (inp.zoneOrder dead) st.dir dead)

/-- One turn of the loop over the dead nodes. -/
def sweepNode (reassign : Option ReassignFunc) (inp : SweepInput) (st : SweepState)
    (id : ServerID) : SweepState :=
  reassignZonesOf reassign inp { st with dir := st.dir.markShutdown id } id

def sweep (cfg : SweeperConfig) (reassign : Option ReassignFunc) (inp : SweepInput)
    (d : Directory) : SweepState :=
  exec (sweepNode reassign inp) ⟨d, []⟩ (overdue cfg inp d)

end Sweeper

end SpatialServer

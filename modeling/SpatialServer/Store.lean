import SpatialServer.Grid

/-!
# The indexes of the game server

Entities and grids are shared by reference between the maps, so the maps hold
references into two heaps. Replicas and zone records are reachable through one
map only and are held as values. Every definition below is one lock-protected
method that touches the indexes only, or the body of one of its loops. Loops
over maps take their iteration order as an argument, and so do clocks.
-/
namespace SpatialServer

def defaultCellSize : ℚ := 100
def defaultAOIRadius : ℚ := 300
def defaultZoneID : ZoneID := "default"
def defaultGhostTTL : Duration := 5 * second

structure EntityAOIState where
  visible : Dict EntityID Unit
  lastPosition : Vector3

inductive GhostKind where
  | ghostLocal
  | ghostRemote
  deriving DecidableEq, Repr

structure GhostEntry where
  kind : GhostKind
  entityID : EntityID
  originZone : ZoneID
  position : Vector3
  expiresAt : Time

/-- A zone as it is simulated. Zones created on demand have no zone record. -/
structure ZoneSim where
  zone : Option Zone
  aoi : ℕ
  entities : Dict EntityID ℕ

structure EntitySnapshot where
  entityID : String
  type : String
  position : Option Vector3

structure Store where
  zones : Dict ZoneID ZoneSim
  entities : Dict EntityID ℕ
  entityZone : Dict EntityID ZoneID
  entityAOI : Dict EntityID EntityAOIState
  ghosts : Dict EntityID GhostEntry
  aoiIndex : Dict ZoneID ℕ
  ghostStore : Dict ZoneID (Dict EntityID GhostEntry)
  peerZone : Dict ZoneID ServerID
  aoiRadius : ℚ
  ghostTTL : Duration
  objects : Heap Entity
  grids : Heap AOI

namespace Store

def empty : Store where
  zones := ∅
  entities := ∅
  entityZone := ∅
  entityAOI := ∅
  ghosts := ∅
  aoiIndex := ∅
  ghostStore := ∅
  peerZone := ∅
  aoiRadius := defaultAOIRadius
  ghostTTL := defaultGhostTTL
  objects := Heap.empty
  grids := Heap.empty

/-- Overwrite one grid. -/
def updateGrid (s : Store) (ref : ℕ) (f : AOI → AOI) : Store :=
  { s with grids := s.grids.write ref (f (s.grids.cell ref)) }

/-! ## Zones -/

def assignZone (s : Store) (z : Zone) : Except Failure Store :=
  if (s.zones.get z.id).isSome then .error (Err.conflict.wrap ("zone " ++ z.id))
  else .ok { s with
    grids := s.grids.alloc (AOI.new defaultCellSize s.aoiRadius)
    zones := s.zones.set z.id ⟨some z, s.grids.next, ∅⟩
    aoiIndex := s.aoiIndex.set z.id s.grids.next
    ghostStore := s.ghostStore.set z.id ∅ }

/-- The entities the release loop deletes. Its order cannot matter, since each
iteration deletes its own key. -/
def entitiesOfZone (s : Store) (id : ZoneID) : List EntityID :=
  (s.entityZone.range []).filter fun eid => decide (s.entityZone.get eid = some id)

def ghostsOfZone (s : Store) (id : ZoneID) : List EntityID :=
  (s.ghosts.range []).filter fun gid => decide ((s.ghosts.get gid).map (·.originZone) = some id)

def releaseZone (s : Store) (id : ZoneID) : Except Failure Store :=
  if (s.zones.get id).isNone then .error (Err.notFound.wrap ("zone " ++ id))
  else .ok { s with
    entities := s.entities.delAll (s.entitiesOfZone id)
    entityAOI := s.entityAOI.delAll (s.entitiesOfZone id)
    entityZone := s.entityZone.delAll (s.entitiesOfZone id)
    ghosts := s.ghosts.delAll (s.ghostsOfZone id)
    zones := s.zones.del id
    aoiIndex := s.aoiIndex.del id
    ghostStore := s.ghostStore.del id
    peerZone := s.peerZone.del id }

/-! ## Entities -/

/-- An entity that names no zone goes to the shared default zone. -/
def targetZone (e : Entity) : ZoneID := if e.zoneID = "" then defaultZoneID else e.zoneID

/-- The zone is created on demand, with no zone record and outside `aoiIndex`. -/
def ensureZone (s : Store) (zid : ZoneID) : Store :=
  match s.zones.get zid with
  | some _ => s
  | none => { s with
      grids := s.grids.alloc (AOI.new defaultCellSize s.aoiRadius)
      zones := s.zones.set zid ⟨none, s.grids.next, ∅⟩ }

/-- The Space of a zone that has one replaces the Space the caller supplied. -/
def deriveSpace (sim : ZoneSim) (e : Entity) : Entity :=
  match sim.zone with
  | some z => if z.runtimeID ≠ "" then { e with runtimeID := z.runtimeID } else e
  | none => e

/-- Enter a new entity object in every index. -/
def placeEntity (s : Store) (zid : ZoneID) (sim : ZoneSim) (e : Entity) : Store :=
  { s with
    objects := s.objects.alloc e
    entities := s.entities.set e.id s.objects.next
    entityZone := s.entityZone.set e.id zid
    zones := s.zones.set zid { sim with entities := sim.entities.set e.id s.objects.next }
    grids := s.grids.write sim.aoi ((s.grids.cell sim.aoi).enter e.id e.position)
    entityAOI := s.entityAOI.set e.id ⟨∅, e.position⟩ }

/-- A zone is then the one that the entity joined, or as it was. -/
theorem zones_placeEntity {s : Store} {zid z : ZoneID} {sim sim' : ZoneSim} {e : Entity}
    (h : (s.placeEntity zid sim e).zones.get z = some sim') :
    z = zid ∧ { sim with entities := sim.entities.set e.id s.objects.next } = sim' ∨
      z ≠ zid ∧ s.zones.get z = some sim' := by
  simp only [placeEntity, Dict.get_set] at h
  split_ifs at h with hz
  · exact .inl ⟨hz, Option.some.inj h⟩
  · exact .inr ⟨hz, h⟩

/-- The members of a zone are those it had, and the entity in the one it joined. -/
theorem member_placeEntity {s : Store} {zid z : ZoneID} {sim sim' : ZoneSim} {e : Entity}
    {id : EntityID} {r : ℕ} (hsim : s.zones.get zid = some sim)
    (h : (s.placeEntity zid sim e).zones.get z = some sim') (hr : sim'.entities.get id = some r) :
    (z = zid ∧ id = e.id ∧ s.objects.next = r) ∨
      ∃ old, s.zones.get z = some old ∧ old.entities.get id = some r := by
  obtain ⟨rfl, rfl⟩ | ⟨-, hold⟩ := zones_placeEntity h
  · simp only [Dict.get_set] at hr
    split_ifs at hr with hid
    · exact .inl ⟨rfl, hid, Option.some.inj hr⟩
    · exact .inr ⟨sim, hsim, hr⟩
  · exact .inr ⟨sim', hold, hr⟩

theorem isSome_entities_placeEntity {s : Store} (zid : ZoneID) (sim : ZoneSim) (e : Entity)
    {id : EntityID} (h : (s.entities.get id).isSome) :
    ((s.placeEntity zid sim e).entities.get id).isSome := by
  by_cases hid : id = e.id
  · simp [placeEntity, hid]
  · simpa [placeEntity, hid] using h

/-- Old objects stay where they are. -/
theorem cell_placeEntity (s : Store) (zid : ZoneID) (sim : ZoneSim) (e : Entity) {r : ℕ}
    (hr : r < s.objects.next) : r < (s.placeEntity zid sim e).objects.next ∧
      (s.placeEntity zid sim e).objects.cell r = s.objects.cell r :=
  ⟨Nat.lt_succ_of_lt hr, Heap.cell_alloc_of_lt _ _ hr⟩

/-- If references led to objects of their name, they still do. -/
theorem object_placeEntity {s : Store} (h : ∀ id r, s.entities.get id = some r →
      r < s.objects.next ∧ (s.objects.cell r).id = id) (zid : ZoneID) (sim : ZoneSim) (e : Entity)
    (id : EntityID) (r : ℕ) (hr : (s.placeEntity zid sim e).entities.get id = some r) :
    r < (s.placeEntity zid sim e).objects.next ∧
      ((s.placeEntity zid sim e).objects.cell r).id = id := by
  simp only [placeEntity, Dict.get_set] at hr
  split_ifs at hr with hid
  · cases hr
    simp [placeEntity, hid]
  · obtain ⟨hlt, hname⟩ := h id r hr
    obtain ⟨hlt', hcell⟩ := s.cell_placeEntity zid sim e hlt
    exact ⟨hlt', hcell ▸ hname⟩

/-- Only the entity itself gets another zone. -/
theorem entityZone_placeEntity {s : Store} {zid z : ZoneID} {sim : ZoneSim} {e : Entity}
    {id : EntityID} (h : (s.placeEntity zid sim e).entityZone.get id = some z) :
    id = e.id ∧ zid = z ∨ id ≠ e.id ∧ s.entityZone.get id = some z := by
  simp only [placeEntity, Dict.get_set] at h
  split_ifs at h with hid
  · exact .inl ⟨hid, Option.some.inj h⟩
  · exact .inr ⟨hid, h⟩

/-- No zone goes, and it lists everyone else as before. -/
theorem exists_zone_placeEntity {s : Store} {zid z : ZoneID} {sim old : ZoneSim} {e : Entity}
    {id : EntityID} (hsim : s.zones.get zid = some sim) (hold : s.zones.get z = some old)
    (hid : id ≠ e.id) : ∃ sim', (s.placeEntity zid sim e).zones.get z = some sim' ∧
      sim'.entities.get id = old.entities.get id := by
  by_cases hz : z = zid
  · subst hz
    obtain rfl : sim = old := Option.some.inj (hsim.symm.trans hold)
    exact ⟨_, Dict.get_set_self _ _ _, Dict.get_set_ne _ _ hid⟩
  · exact ⟨old, (Dict.get_set_ne _ _ hz).trans hold, rfl⟩

def addEntity (s : Store) (e : Entity) : Store :=
  let zid := targetZone e
  let s := s.ensureZone zid
  match s.zones.get zid with
  | some sim => s.placeEntity zid sim (deriveSpace sim { e with zoneID := zid })
  | none => s

@[simp] theorem deriveSpace_id (sim : ZoneSim) (e : Entity) : (deriveSpace sim e).id = e.id := by
  unfold deriveSpace
  split
  · split <;> rfl
  · rfl

@[simp] theorem deriveSpace_position (sim : ZoneSim) (e : Entity) :
    (deriveSpace sim e).position = e.position := by
  unfold deriveSpace
  split
  · split <;> rfl
  · rfl

@[simp] theorem ensureZone_entities (s : Store) (zid : ZoneID) :
    (s.ensureZone zid).entities = s.entities := by
  unfold ensureZone; split <;> rfl

@[simp] theorem ensureZone_entityAOI (s : Store) (zid : ZoneID) :
    (s.ensureZone zid).entityAOI = s.entityAOI := by
  unfold ensureZone; split <;> rfl

@[simp] theorem ensureZone_objects (s : Store) (zid : ZoneID) :
    (s.ensureZone zid).objects = s.objects := by
  unfold ensureZone; split <;> rfl

/-- The zone always exists when the entity is placed. -/
theorem exists_addEntity_eq (s : Store) (e : Entity) :
    ∃ sim, (s.ensureZone (targetZone e)).zones.get (targetZone e) = some sim ∧
      s.addEntity e = (s.ensureZone (targetZone e)).placeEntity (targetZone e) sim
        (deriveSpace sim { e with zoneID := targetZone e }) := by
  have hget : ∃ sim, (s.ensureZone (targetZone e)).zones.get (targetZone e) = some sim := by
    unfold ensureZone
    split
    · next sim hsim => exact ⟨sim, hsim⟩
    · exact ⟨_, Dict.get_set_self _ _ _⟩
  obtain ⟨sim, hsim⟩ := hget
  refine ⟨sim, hsim, ?_⟩
  simp only [addEntity, hsim]

def removeEntity (s : Store) (id : EntityID) : Store :=
  match s.entityZone.get id with
  | none => s
  | some zid =>
    let s := match s.zones.get zid with
      | some sim => { s.updateGrid sim.aoi (·.leave id) with
          zones := s.zones.set zid { sim with entities := sim.entities.del id } }
      | none => s
    { s with
      entities := s.entities.del id
      entityAOI := s.entityAOI.del id
      entityZone := s.entityZone.del id }

/-- The entity a snapshot message describes, bound for the target zone. -/
def snapshotEntity (snap : EntitySnapshot) (target : ZoneID) : Entity :=
  { Entity.new snap.entityID snap.type "" with
    zoneID := target
    position := snap.position.getD Vector3.zero }

/-! ## Movement -/

/-- The grid on which the entity currently moves. -/
def gridRefOf (s : Store) (id : EntityID) : Option ℕ :=
  match s.entityZone.get id with
  | some zid => (s.zones.get zid).map (·.aoi)
  | none => none

def moveOnGrid (s : Store) (id : EntityID) (pos : Vector3) : Store :=
  match s.gridRefOf id with
  | some ref => s.updateGrid ref (·.move id pos)
  | none => s

/-- Everyone the grid lists in range of the position, the entity itself apart. -/
def observersOf (s : Store) (ref : ℕ) (id : EntityID) (pos : Vector3) : List EntityID :=
  ((s.grids.cell ref).entitiesInRange pos s.aoiRadius).filter (· ≠ id)

def spaceOf (s : Store) (id : EntityID) : RuntimeID :=
  match s.entities.get id with
  | some r => (s.objects.cell r).runtimeID
  | none => ""

def setObject (s : Store) (r : ℕ) (e : Entity) : Store :=
  { s with objects := s.objects.write r e }

/-! ## Replicas at cell boundaries -/

def detectEntity (zid : ZoneID) (sim : ZoneSim) (now : EntityID → Time) (s : Store)
    (id : EntityID) : Store :=
  match sim.entities.get id, s.entityAOI.get id with
  | some r, some state =>
    let grid := s.grids.cell sim.aoi
    if grid.cellKeyFor state.lastPosition = grid.cellKeyFor (s.objects.cell r).position then s
    else
      { s.updateGrid sim.aoi (·.enter (localGhostID id) state.lastPosition) with
        ghosts := s.ghosts.set (localGhostID id)
          ⟨.ghostLocal, id, zid, state.lastPosition, now id + s.ghostTTL⟩ }
  | _, _ => s

def detectZoneBoundaries (s : Store) (zid : ZoneID) (now : EntityID → Time)
    (order : List EntityID) : Store :=
  match s.zones.get zid with
  | none => s
  | some sim => (sim.entities.range order).foldl (detectEntity zid sim now) s

def sweepGhost (now : Time) (s : Store) (id : EntityID) : Store :=
  match s.ghosts.get id with
  | none => s
  | some ghost =>
    if now ≤ ghost.expiresAt then s
    else
      let s' := match s.zones.get ghost.originZone with
        | some sim => s.updateGrid sim.aoi (·.leave id)
        | none => s
      { s' with ghosts := s'.ghosts.del id }

def sweepGhosts (s : Store) (now : Time) (order : List EntityID) : Store :=
  (s.ghosts.range order).foldl (sweepGhost now) s

end Store

end SpatialServer

import SpatialServer.GameRuns

/-!
# What servers tell each other

A server keeps replicas of entities that live on its neighbours: in the grid of
a zone, under the names of remote replicas, and beside it in the replica store
of the zone. Peers announce, move and withdraw replicas one by one, and the
server itself reconciles them with the answer of a neighbour. A whole zone moves
by snapshot. All of this works on `aoiIndex` and not on the grids of `zones`.

The encodings are assumed to lose nothing: a snapshot is the data it encodes,
and state that does not decode is absent.
-/
namespace SpatialServer

open Runs

/-! ## Grids as data -/

structure SerializedAOI where
  cellSize : ℚ
  radius : ℚ
  positions : Dict EntityID Vector3

namespace AOI

def serialize (a : AOI) : SerializedAOI := ⟨a.cellSize, a.radius, a.positions⟩

/-- The parameters are used only if the state does not decode. -/
def deserialize (cellSize radius : ℚ) (state : Option SerializedAOI) (order : List EntityID) : AOI :=
  match state with
  | none => new cellSize radius
  | some s => (s.positions.range order).foldl (fun a id =>
      match s.positions.get id with
      | some pos => a.enter id pos
      | none => a) (new s.cellSize s.radius)

end AOI

/-! ## Replicas of one zone -/

/-- A grid and the replica store beside it. -/
structure Replicas where
  grid : AOI
  store : Dict EntityID GhostEntry

structure NeighborEntity where
  id : EntityID
  type : String
  pos : Vector3

namespace Replicas

/-- An announced entity is entered, whether or not it was there. -/
def enter (b : Replicas) (zoneID : ZoneID) (entityID : EntityID) (pos : Vector3)
    (expiresAt : Time) : Replicas where
  grid := b.grid.enter (remoteGhostID entityID) pos
  store := b.store.set (remoteGhostID entityID) ⟨.ghostRemote, entityID, zoneID, pos, expiresAt⟩

def leave (b : Replicas) (entityID : EntityID) : Replicas where
  grid := b.grid.leave (remoteGhostID entityID)
  store := b.store.del (remoteGhostID entityID)

def update (b : Replicas) (entityID : EntityID) (pos : Vector3) (expiresAt : Time) : Replicas :=
  match b.store.get (remoteGhostID entityID) with
  | none => b
  | some entry =>
    ⟨b.grid.move (remoteGhostID entityID) pos, b.store.set (remoteGhostID entityID)
      { entry with position := pos, expiresAt := expiresAt }⟩

/-- A neighbour named the entity: it is entered or moved. -/
def refresh (b : Replicas) (neighborZone : ZoneID) (n : NeighborEntity) (expiresAt : Time) :
    Replicas where
  grid :=
    if (b.store.get (remoteGhostID n.id)).isNone then b.grid.enter (remoteGhostID n.id) n.pos
    else b.grid.move (remoteGhostID n.id) n.pos
  store := b.store.set (remoteGhostID n.id) ⟨.ghostRemote, n.id, neighborZone, n.pos, expiresAt⟩

/-- One iteration over the store after a reconciliation: what was not named and
is overdue goes. -/
def expire (seen : List EntityID) (now : EntityID → Time) (b : Replicas) (gid : EntityID) :
    Replicas :=
  match b.store.get gid with
  | none => b
  | some entry =>
    if gid ∈ seen then b
    else if entry.kind = .ghostRemote ∧ entry.expiresAt < now gid then
      ⟨b.grid.leave gid, b.store.del gid⟩
    else b

def reconcile (b : Replicas) (neighborZone : ZoneID) (results : List NeighborEntity)
    (expiresAt : ℕ → Time) (now : EntityID → Time) (order : List EntityID) : Replicas :=
  let b := results.zipIdx.foldl (fun b r => b.refresh neighborZone r.1 (expiresAt r.2)) b
  (b.store.range order).foldl (expire (results.map fun n => remoteGhostID n.id) now) b

/-! Each operation alters one remote replica at a time and nothing else. -/

/-- All entries are remote and bear the names of remote replicas. -/
def RemoteOnly (store : Dict EntityID GhostEntry) : Prop :=
  ∀ gid e, store.get gid = some e → EndsInGhost gid ∧ e.kind = .ghostRemote

theorem RemoteOnly.empty : RemoteOnly ∅ := by simp [RemoteOnly]

/-- From `b` to `b'` at most the replica of `x` changes. -/
structure Alters (x : EntityID) (b b' : Replicas) : Prop where
  cells : AOI.SameCells b.grid b'.grid
  grid : ∀ z, z ≠ remoteGhostID x → AOI.Agree z b.grid b'.grid
  store : ∀ z, z ≠ remoteGhostID x → b'.store.get z = b.store.get z
  kind : ∀ e, b'.store.get (remoteGhostID x) = some e → e.kind = .ghostRemote

section Alters

variable {b : Replicas} {x : EntityID}

theorem Alters.refl (h : RemoteOnly b.store) (x : EntityID) : Alters x b b :=
  ⟨.refl _, fun z _ => .refl z _, fun _ _ => rfl, fun e he => (h _ e he).2⟩

theorem alters_enter (b : Replicas) (zid : ZoneID) (id : EntityID) (pos : Vector3) (t : Time) :
    Alters id b (b.enter zid id pos t) := by
  refine ⟨.enter _ _ _, fun z hz => AOI.agree_enter _ _ hz, fun z hz => Dict.get_set_ne _ _ hz,
    fun e he => ?_⟩
  simp only [enter, Dict.get_set_self] at he
  cases he
  rfl

theorem alters_leave (b : Replicas) (id : EntityID) : Alters id b (b.leave id) := by
  refine ⟨.leave _ _, fun z hz => AOI.agree_leave _ hz, fun z hz => Dict.get_del_ne _ hz,
    fun e he => ?_⟩
  simp [leave] at he

theorem alters_update (h : RemoteOnly b.store) (id : EntityID) (pos : Vector3) (t : Time) :
    Alters id b (b.update id pos t) := by
  unfold update
  split
  · exact .refl h id
  · next entry hentry =>
    refine ⟨.move _ _ _, fun z hz => AOI.agree_move _ _ hz, fun z hz => Dict.get_set_ne _ _ hz,
      fun e he => ?_⟩
    rw [Dict.get_set_self] at he
    cases he
    exact (h _ entry hentry).2

theorem alters_refresh (b : Replicas) (zid : ZoneID) (n : NeighborEntity) (t : Time) :
    Alters n.id b (b.refresh zid n t) := by
  refine ⟨?_, fun z hz => ?_, fun z hz => Dict.get_set_ne _ _ hz, fun e he => ?_⟩
  · simp only [refresh]
    split_ifs
    · exact .enter _ _ _
    · exact .move _ _ _
  · simp only [refresh]
    split_ifs
    · exact AOI.agree_enter _ _ hz
    · exact AOI.agree_move _ _ hz
  · simp only [refresh, Dict.get_set_self] at he
    cases he
    rfl

/-- Expiry does nothing, or what a withdrawal does. -/
theorem expire_cases (h : RemoteOnly b.store) (seen : List EntityID) (now : EntityID → Time)
    (gid : EntityID) :
    expire seen now b gid = b ∨ ∃ x e, gid = remoteGhostID x ∧ gid ∉ seen ∧
      b.store.get gid = some e ∧ e.expiresAt < now gid ∧ expire seen now b gid = b.leave x := by
  unfold expire
  split
  · exact .inl rfl
  · next e he =>
    split_ifs with hseen hdue
    · exact .inl rfl
    · obtain ⟨x, rfl⟩ := (endsInGhost_iff gid).mp (h gid e he).1
      exact .inr ⟨x, e, rfl, hseen, he, hdue.2, rfl⟩
    · exact .inl rfl

end Alters

/-- What every operation on remote replicas keeps. -/
structure RemoteStep (b b' : Replicas) : Prop where
  cells : AOI.SameCells b.grid b'.grid
  remote : RemoteOnly b'.store
  others : ∀ z, ¬ EndsInGhost z → AOI.Agree z b.grid b'.grid

namespace RemoteStep

variable {b b' b'' : Replicas}

theorem refl (h : RemoteOnly b.store) : RemoteStep b b := ⟨.refl _, h, fun z _ => .refl z _⟩

theorem trans (h : RemoteStep b b') (h' : RemoteStep b' b'') : RemoteStep b b'' :=
  ⟨h.cells.trans h'.cells, h'.remote, fun z hz => (h.others z hz).trans (h'.others z hz)⟩

theorem of_alters {x : EntityID} (h : RemoteOnly b.store) (ha : Alters x b b') :
    RemoteStep b b' := by
  have hends : EndsInGhost (remoteGhostID x) := (endsInGhost_iff _).mpr ⟨x, rfl⟩
  refine ⟨ha.cells, fun gid e he => ?_, fun z hz => ha.grid z fun heq => hz (heq ▸ hends)⟩
  by_cases hgid : gid = remoteGhostID x
  · subst hgid
    exact ⟨hends, ha.kind e he⟩
  · rw [ha.store gid hgid] at he
    exact h gid e he

theorem expire (h : RemoteOnly b.store) (seen : List EntityID) (now : EntityID → Time)
    (gid : EntityID) : RemoteStep b (Replicas.expire seen now b gid) := by
  obtain heq | ⟨x, e, -, -, -, -, heq⟩ := expire_cases h seen now gid <;> rw [heq]
  · exact .refl h
  · exact .of_alters h (b.alters_leave x)

theorem refreshAll (h : RemoteOnly b.store) (zid : ZoneID) (expiresAt : ℕ → Time)
    (rs : List (NeighborEntity × ℕ)) :
    RemoteStep b (rs.foldl (fun b r => b.refresh zid r.1 (expiresAt r.2)) b) :=
  List.foldlRecOn (motive := RemoteStep b) rs _ (.refl h)
    fun b' hb' r _ => hb'.trans (.of_alters hb'.remote (b'.alters_refresh zid r.1 _))

theorem reconcile (h : RemoteOnly b.store) (zid : ZoneID) (results : List NeighborEntity)
    (expiresAt : ℕ → Time) (now : EntityID → Time) (order : List EntityID) :
    RemoteStep b (b.reconcile zid results expiresAt now order) :=
  List.foldlRecOn (motive := RemoteStep b) _ _ (.refreshAll h zid expiresAt results.zipIdx)
    fun _ hb' gid _ => hb'.trans (.expire hb'.remote _ now gid)

end RemoteStep

/-- The operations by which replicas change. -/
inductive Op where
  | enter (zoneID : ZoneID) (entityID : EntityID) (pos : Vector3) (expiresAt : Time)
  | leave (entityID : EntityID)
  | update (entityID : EntityID) (pos : Vector3) (expiresAt : Time)
  | reconcile (neighborZone : ZoneID) (results : List NeighborEntity) (expiresAt : ℕ → Time)
      (now : EntityID → Time) (order : List EntityID)

def Op.run : Op → Replicas → Replicas
  | .enter zid id pos t, b => b.enter zid id pos t
  | .leave id, b => b.leave id
  | .update id pos t, b => b.update id pos t
  | .reconcile zid results t now order, b => b.reconcile zid results t now order

theorem remoteStep_run (op : Op) {b : Replicas} (h : RemoteOnly b.store) :
    RemoteStep b (op.run b) := by
  cases op with
  | enter zid id pos t => exact .of_alters h (b.alters_enter zid id pos t)
  | leave id => exact .of_alters h (b.alters_leave id)
  | update id pos t => exact .of_alters h (alters_update h id pos t)
  | reconcile zid results t now order => exact .reconcile h zid results t now order

end Replicas

abbrev NeighborQuerier := ZoneID → ℤ → ℤ → ℚ → List NeighborEntity

structure ZoneSnapshot where
  zoneID : String
  entities : List EntitySnapshot
  aoiState : Option SerializedAOI

namespace Store

/-! ## Replicas in the store -/

/-- Work on the grid of `aoiIndex` and the replica store of a zone, if both are
there. -/
def onReplicas (s : Store) (zoneID : ZoneID) (f : Replicas → Replicas) : Store :=
  match s.aoiIndex.get zoneID, s.ghostStore.get zoneID with
  | some ref, some store =>
    let b := f ⟨s.grids.cell ref, store⟩
    { s with
      grids := s.grids.write ref b.grid
      ghostStore := s.ghostStore.set zoneID b.store }
  | _, _ => s

def applyEntityEnter (s : Store) (zoneID : ZoneID) (entityID : EntityID) (_type : String)
    (pos : Vector3) (now : Time) : Store :=
  s.onReplicas zoneID (·.enter zoneID entityID pos (now + s.ghostTTL * 6))

def applyEntityLeave (s : Store) (zoneID : ZoneID) (entityID : EntityID) : Store :=
  s.onReplicas zoneID (·.leave entityID)

def applyEntityUpdate (s : Store) (zoneID : ZoneID) (entityID : EntityID) (pos : Vector3)
    (now : Time) : Store :=
  s.onReplicas zoneID (·.update entityID pos (now + s.ghostTTL * 6))

/-- The clock is read once for each named entity and once for each entry. -/
def reconcileNeighborGhosts (s : Store) (querier : Option NeighborQuerier)
    (ownerZone neighborZone : ZoneID) (stamp : ℕ → Time) (now : EntityID → Time)
    (order : List EntityID) : Store :=
  match (s.zones.get ownerZone).bind ZoneSim.zone, querier with
  | some zone, some q =>
    s.onReplicas ownerZone (·.reconcile neighborZone
      (q neighborZone zone.grid.x zone.grid.y s.aoiRadius) (fun i => stamp i + s.ghostTTL * 6) now
      order)
  | _, _ => s

/-! ## Queries and snapshots -/

def entitySnapshot (e : Entity) : EntitySnapshot := ⟨e.id, e.type, some e.position⟩

/-- The centre is the corner of the cell, for cells of the default size. -/
def queryLocal (s : Store) (zoneID : ZoneID) (gridX gridY : ℤ) (radius : ℚ) :
    List EntitySnapshot :=
  match s.aoiIndex.get zoneID with
  | none => []
  | some ref =>
    let center : Vector3 := ⟨gridX * defaultCellSize, 0, gridY * defaultCellSize⟩
    ((s.grids.cell ref).entitiesInRange center radius).filterMap fun id =>
      (s.entities.get id).map fun r => entitySnapshot (s.objects.cell r)

def snapshotZone (s : Store) (zoneID : ZoneID) (order : List EntityID) : Option ZoneSnapshot :=
  match s.aoiIndex.get zoneID with
  | none => none
  | some ref => some
    { zoneID := zoneID
      entities := (s.entityZone.range order).filterMap fun id =>
        if s.entityZone.get id = some zoneID then
          (s.entities.get id).map fun r => entitySnapshot (s.objects.cell r)
        else none
      aoiState := some (s.grids.cell ref).serialize }

/-- The first part of loading a snapshot, under the lock of its own. -/
def openIndex (s : Store) (zoneID : ZoneID) (state : Option SerializedAOI)
    (order : List EntityID) : Store :=
  match s.aoiIndex.get zoneID with
  | some _ => s
  | none => { s with
      grids := s.grids.alloc (AOI.deserialize defaultCellSize s.aoiRadius state order)
      aoiIndex := s.aoiIndex.set zoneID s.grids.next
      ghostStore := s.ghostStore.set zoneID ∅ }

def loadZoneSnapshot (s : Store) (snap : ZoneSnapshot) (order : List EntityID) : Store :=
  snap.entities.foldl (fun s e => s.addEntity (snapshotEntity e snap.zoneID))
    (s.openIndex snap.zoneID snap.aoiState order)

end Store

/-! ## Runs -/

/-- Everything that can happen on a server: its own calls, and those by which
servers exchange entities. -/
inductive NodeCall where
  | own (c : Call)
  | openIndex (zoneID : ZoneID) (state : Option SerializedAOI) (order : List EntityID)
  | applyEntityEnter (zoneID : ZoneID) (entityID : EntityID) (type : String) (pos : Vector3)
      (now : Time)
  | applyEntityLeave (zoneID : ZoneID) (entityID : EntityID)
  | applyEntityUpdate (zoneID : ZoneID) (entityID : EntityID) (pos : Vector3) (now : Time)
  | reconcileNeighborGhosts (querier : Option NeighborQuerier) (ownerZone neighborZone : ZoneID)
      (stamp : ℕ → Time) (now : EntityID → Time) (order : List EntityID)

namespace Game

def loadZoneSnapshot (g : Game) (snap : ZoneSnapshot) (order : List EntityID) : Game :=
  g.onStore (·.loadZoneSnapshot snap order)

def nodeStep (H : Host) (g : Game) : NodeCall → Game
  | .own c => step H g c
  | .openIndex zoneID state order => g.onStore (·.openIndex zoneID state order)
  | .applyEntityEnter zoneID entityID type pos now =>
    g.onStore (·.applyEntityEnter zoneID entityID type pos now)
  | .applyEntityLeave zoneID entityID => g.onStore (·.applyEntityLeave zoneID entityID)
  | .applyEntityUpdate zoneID entityID pos now =>
    g.onStore (·.applyEntityUpdate zoneID entityID pos now)
  | .reconcileNeighborGhosts querier ownerZone neighborZone stamp now order =>
    g.onStore (·.reconcileNeighborGhosts querier ownerZone neighborZone stamp now order)

/-- A call that is not the server's own opens an index, does nothing, or works on
the replicas of one zone. -/
theorem nodeStep_cases (H : Host) (g : Game) (c : NodeCall) :
    (∃ c', c = .own c') ∨ (∃ zid state order, c = .openIndex zid state order) ∨
      nodeStep H g c = g ∨ ∃ zid, ∃ op : Replicas.Op,
        nodeStep H g c = g.onStore (·.onReplicas zid op.run) ∧
        ∀ zid' id pos t, op = .enter zid' id pos t →
          ∃ type now, c = .applyEntityEnter zid id type pos now := by
  cases c with
  | own c => exact .inl ⟨c, rfl⟩
  | openIndex zid state order => exact .inr (.inl ⟨zid, state, order, rfl⟩)
  | applyEntityEnter zid id type pos now =>
    refine .inr (.inr (.inr ⟨zid, .enter zid id pos (now + g.ghostTTL * 6), rfl, ?_⟩))
    rintro zid' id' pos' t ⟨⟩
    exact ⟨type, now, rfl⟩
  | applyEntityLeave zid id => exact .inr (.inr (.inr ⟨zid, .leave id, rfl, by simp⟩))
  | applyEntityUpdate zid id pos now =>
    exact .inr (.inr (.inr ⟨zid, .update id pos (now + g.ghostTTL * 6), rfl, by simp⟩))
  | reconcileNeighborGhosts querier owner neighbor stamp now order =>
    simp only [nodeStep, onStore, Store.reconcileNeighborGhosts]
    split
    · next zone q _ =>
      exact .inr (.inr (.inr ⟨owner, .reconcile neighbor _ _ now order, rfl, by simp⟩))
    · exact .inr (.inr (.inl rfl))

/-- The calls of one loaded snapshot. -/
def loadCalls (snap : ZoneSnapshot) (order : List EntityID) : List NodeCall :=
  .openIndex snap.zoneID snap.aoiState order ::
    snap.entities.map fun e => .own (.migrateEntityIn e snap.zoneID)

/-- Loading a snapshot is the execution of its calls. -/
theorem loadZoneSnapshot_eq_exec (H : Host) (g : Game) (snap : ZoneSnapshot)
    (order : List EntityID) :
    g.loadZoneSnapshot snap order = exec (nodeStep H) g (loadCalls snap order) := by
  have hloop : ∀ (es : List EntitySnapshot) (g : Game),
      exec (nodeStep H) g (es.map fun e => .own (.migrateEntityIn e snap.zoneID)) =
        g.onStore (es.foldl (fun s e => s.addEntity (Store.snapshotEntity e snap.zoneID))) := by
    intro es
    induction es with
    | nil => intro g; rfl
    | cons e es ih => intro g; exact ih _
  rw [loadCalls, exec_cons, hloop]
  rfl

end Game

end SpatialServer

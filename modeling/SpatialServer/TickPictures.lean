import SpatialServer.GridPictures
import SpatialServer.Publishing
import SpatialServer.Reordering

/-!
# What a game shows

Maps of the server have no order that anybody could see, and the lists of its
grids have one that nobody asks for. A picture of the game keeps what can be
seen: maps as functions, visible identifiers as sets, grids as their pictures.
Queues and events are left out.

An iteration of a loop of the tick edits the picture: it rewrites an object, what
a grid knows of an identifier, a replica, what an observer saw, or deletes an
identifier. Edits of different things commute.
-/
namespace SpatialServer

/-- What an observer saw last, and from where. -/
@[ext]
structure Sight where
  visible : Set EntityID
  lastPosition : Vector3

def EntityAOIState.sight (state : EntityAOIState) : Sight :=
  ⟨{id | (state.visible.get id).isSome}, state.lastPosition⟩

namespace Game

@[ext]
structure Picture where
  zones : Dict ZoneID ZoneSim
  aoiIndex : Dict ZoneID ℕ
  aoiRadius : ℚ
  ghostTTL : Duration
  reconnectWindow : Duration
  entities : EntityID → Option ℕ
  entityZone : EntityID → Option ZoneID
  sights : EntityID → Option Sight
  ghosts : EntityID → Option GhostEntry
  sessions : EntityID → Option SessionState
  objects : ℕ → Entity
  grids : ℕ → AOI.Picture

def picture (g : Game) : Picture where
  zones := g.zones
  aoiIndex := g.aoiIndex
  aoiRadius := g.aoiRadius
  ghostTTL := g.ghostTTL
  reconnectWindow := g.reconnectWindow
  entities := g.entities.get
  entityZone := g.entityZone.get
  sights id := (g.entityAOI.get id).map EntityAOIState.sight
  ghosts := g.ghosts.get
  sessions := g.sessionStates.get
  objects := g.objects.cell
  grids ref := (g.grids.cell ref).picture

namespace Picture

inductive Edit where
  | object (r : ℕ) (e : Entity)
  | grid (ref : ℕ) (id : EntityID) (f : ℚ → AOI.Presence → AOI.Presence)
  | ghost (id : EntityID) (entry : Option GhostEntry)
  | sight (id : EntityID) (s : Sight)
  /-- Delete the identifier from the maps of entities and sessions. -/
  | forget (id : EntityID)

def apply (P : Picture) : Edit → Picture
  | .object r e => { P with objects := Function.update P.objects r e }
  | .grid ref id f => { P with grids := Function.update P.grids ref ((P.grids ref).edit id f) }
  | .ghost id entry => { P with ghosts := Function.update P.ghosts id entry }
  | .sight id s => { P with sights := Function.update P.sights id (some s) }
  | .forget id => { P with
      entities := Function.update P.entities id none
      sights := Function.update P.sights id none
      entityZone := Function.update P.entityZone id none
      sessions := Function.update P.sessions id none }

def applyAll (P : Picture) (es : List Edit) : Picture := es.foldl apply P

/-- The edits are about different things. -/
def Edit.Apart : Edit → Edit → Prop
  | .object r _, .object q _ => r ≠ q
  | .grid _ a _, .grid _ b _ => a ≠ b
  | .ghost a _, .ghost b _ => a ≠ b
  | .sight a _, .sight b _ => a ≠ b
  | .sight a _, .forget b => a ≠ b
  | .forget a, .sight b _ => a ≠ b
  | .forget a, .forget b => a ≠ b
  | _, _ => True

theorem apply_comm {a b : Edit} (h : a.Apart b) (P : Picture) :
    (P.apply a).apply b = (P.apply b).apply a := by
  cases a <;> cases b <;> simp only [Edit.Apart] at h <;> try rfl
  case object.object r e q e' => simp only [apply, Function.update_comm h]
  case grid.grid ref a f ref' b f' =>
    by_cases href : ref = ref'
    · subst href
      simp only [apply, Function.update_self, Function.update_idem,
        AOI.Picture.edit_comm _ h]
    · simp only [apply, Function.update_of_ne href, Function.update_of_ne (Ne.symm href),
        Function.update_comm href]
  case ghost.ghost => simp only [apply, Function.update_comm h]
  case sight.sight => simp only [apply, Function.update_comm h]
  case sight.forget => simp only [apply, Function.update_comm h]
  case forget.sight => simp only [apply, Function.update_comm h]
  case forget.forget => simp only [apply, Function.update_comm h]

/-- What no edit changes, their sequence does not change. -/
theorem read_applyAll {α : Type} (read : Picture → α) {es : List Edit}
    (h : ∀ e ∈ es, ∀ P, read (P.apply e) = read P) (P : Picture) :
    read (P.applyAll es) = read P :=
  Reordering.foldl_invariant (I := fun Q => read Q = read P)
    (fun e he Q hQ => (h e he Q).trans hQ) rfl

/-- Two steps commute if they edit different things and neither changes what the
other decides to edit. -/
theorem applyAll_comm (edits edits' : Picture → List Edit) {P : Picture}
    (hkeep : edits (P.applyAll (edits' P)) = edits P)
    (hkeep' : edits' (P.applyAll (edits P)) = edits' P)
    (hapart : ∀ e ∈ edits P, ∀ e' ∈ edits' P, e'.Apart e) :
    (P.applyAll (edits P)).applyAll (edits' (P.applyAll (edits P))) =
      (P.applyAll (edits' P)).applyAll (edits (P.applyAll (edits' P))) := by
  rw [hkeep, hkeep']
  exact Reordering.foldl_foldl_comm (I := fun _ => True) (fun _ _ _ _ => trivial)
    (fun _ _ _ _ => trivial)
    (fun e' he' e he Q _ => (apply_comm (hapart e he e' he') Q).symm) trivial

/-! ## The iterations of a tick -/

def gridRefOf (P : Picture) (id : EntityID) : Option ℕ :=
  match P.entityZone id with
  | some zid => (P.zones.get zid).map (·.aoi)
  | none => none

def simulateEntity (N : Numerics) (dt : Duration) (seed : EntityID → ℤ) (P : Picture)
    (id : EntityID) : List Edit :=
  match P.entities id with
  | none => []
  | some r =>
    if (P.objects r).lifecycle.isNone then []
    else
      let e' := (P.objects r).onSimulate N (seed id) dt
      if e'.position = (P.objects r).position then [.object r e']
      else match P.gridRefOf id with
        | some ref => [.object r e', .grid ref id (.move e'.position)]
        | none => [.object r e']

def detectEntity (zid : ZoneID) (sim : ZoneSim) (now : EntityID → Time) (P : Picture)
    (id : EntityID) : List Edit :=
  match sim.entities.get id, P.sights id with
  | some r, some s =>
    if AOI.keyFor (P.grids sim.aoi).cellSize s.lastPosition =
        AOI.keyFor (P.grids sim.aoi).cellSize (P.objects r).position then []
    else [.grid sim.aoi (localGhostID id) (.enter s.lastPosition), .ghost (localGhostID id)
      (some ⟨.ghostLocal, id, zid, s.lastPosition, now id + P.ghostTTL⟩)]
  | _, _ => []

def visitObserver (sim : ZoneSim) (P : Picture) (id : EntityID) : List Edit :=
  match sim.entities.get id with
  | none => []
  | some r => [.sight (P.objects r).id
      ⟨(P.grids sim.aoi).seen (P.objects r).position P.aoiRadius, (P.objects r).position⟩]

def sweepGhost (now : Time) (P : Picture) (id : EntityID) : List Edit :=
  match P.ghosts id with
  | none => []
  | some ghost =>
    if now ≤ ghost.expiresAt then []
    else match P.zones.get ghost.originZone with
      | some sim => [.grid sim.aoi id AOI.Presence.leave, .ghost id none]
      | none => [.ghost id none]

def expired (P : Picture) (now : Time) (id : EntityID) : Bool :=
  match P.sessions id with
  | some st => decide (st.status = .disconnected ∧ now - st.disconnectedAt > P.reconnectWindow)
  | none => false

/-- The grid that an expiring entity leaves. -/
def indexRefOf (P : Picture) (id : EntityID) : Option ℕ := (P.entityZone id).bind P.aoiIndex.get

def sweepSession (now : Time) (P : Picture) (id : EntityID) : List Edit :=
  if P.expired now id then
    match P.indexRefOf id with
    | some ref => [.grid ref id AOI.Presence.leave, .forget id]
    | none => [.forget id]
  else []

end Picture

/-! ## Every iteration on the game is one on its picture -/

section Refinement

variable (g : Game)

theorem picture_publish (evt : Event) : (g.publish evt).picture = g.picture := by
  unfold publish
  split <;> rfl

@[simp] theorem picture_publishAll (evts : List Event) :
    (g.publishAll evts).picture = g.picture := by
  induction evts generalizing g with
  | nil => rfl
  | cons evt evts ih => exact (ih _).trans (g.picture_publish evt)

@[simp] theorem picture_enqueueMove (id : EntityID) (pos : Vector3) :
    (g.enqueueMove id pos).picture = g.picture := by
  unfold enqueueMove
  split <;> simp

theorem picture_updateGrid (ref : ℕ) {id : EntityID} {op : AOI → AOI}
    {f : ℚ → AOI.Presence → AOI.Presence} (hop : ∀ a, (op a).picture = a.picture.edit id f) :
    (g.onStore (·.updateGrid ref op)).picture = g.picture.apply (.grid ref id f) := by
  ext1 <;> try rfl
  funext r
  by_cases hr : r = ref
  · subst hr
    simp [picture, Picture.apply, onStore, Store.updateGrid, hop]
  · simp [picture, Picture.apply, onStore, Store.updateGrid, hr]

theorem picture_simulateEntity (N : Numerics) (dt : Duration) (seed : EntityID → ℤ)
    (id : EntityID) : (simulateEntity N dt seed g id).picture =
      g.picture.applyAll (g.picture.simulateEntity N dt seed id) := by
  have hpic : g.picture.entities id = g.entities.get id := rfl
  have hpicref : g.picture.gridRefOf id = g.gridRefOf id := rfl
  rcases hr : g.entities.get id with _ | r
  · simp only [simulateEntity, Picture.simulateEntity, hpic, hr]
    rfl
  · have hobj : g.picture.objects r = g.objects.cell r := rfl
    simp only [simulateEntity, Picture.simulateEntity, hpic, hr, hobj]
    split_ifs
    · rfl
    · rfl
    · rw [picture_enqueueMove, hpicref]
      set e' := (g.objects.cell r).onSimulate N (seed id) dt
      have hkept : (g.onStore (·.setObject r e')).gridRefOf id = g.gridRefOf id := rfl
      rcases href : g.gridRefOf id with _ | ref
      · simp only [onStore, Store.moveOnGrid] at hkept ⊢
        rw [hkept, href]
        rfl
      · have hmove := (g.onStore (·.setObject r e')).picture_updateGrid ref
          fun a => a.picture_move id e'.position
        simp only [onStore, Store.moveOnGrid] at hkept hmove ⊢
        rw [hkept, href]
        exact hmove

theorem picture_setGhost (id : EntityID) (entry : GhostEntry) :
    ({ g with ghosts := g.ghosts.set id entry } : Game).picture =
      g.picture.apply (.ghost id (some entry)) := by
  ext1 <;> try rfl
  exact g.ghosts.get_set_eq_update id entry

theorem picture_delGhost (id : EntityID) :
    ({ g with ghosts := g.ghosts.del id } : Game).picture = g.picture.apply (.ghost id none) := by
  ext1 <;> try rfl
  exact g.ghosts.get_del_eq_update id

theorem picture_detectEntity (zid : ZoneID) (sim : ZoneSim) (now : EntityID → Time)
    (id : EntityID) : (g.onStore (Store.detectEntity zid sim now · id)).picture =
      g.picture.applyAll (g.picture.detectEntity zid sim now id) := by
  have hpic : g.picture.sights id = (g.entityAOI.get id).map EntityAOIState.sight := rfl
  rcases hr : sim.entities.get id with _ | r
  · simp only [onStore, Store.detectEntity, Picture.detectEntity, hr]
    rfl
  rcases hstate : g.entityAOI.get id with _ | state
  · simp only [onStore, Store.detectEntity, Picture.detectEntity, hr, hpic, hstate,
      Option.map_none]
    rfl
  by_cases hkey : (g.grids.cell sim.aoi).cellKeyFor state.lastPosition =
      (g.grids.cell sim.aoi).cellKeyFor (g.objects.cell r).position
  · have hkey' : AOI.keyFor (g.picture.grids sim.aoi).cellSize state.sight.lastPosition =
        AOI.keyFor (g.picture.grids sim.aoi).cellSize (g.picture.objects r).position := hkey
    simp only [onStore, Store.detectEntity, Picture.detectEntity, hr, hpic, hstate,
      Option.map_some, if_pos hkey, if_pos hkey']
    rfl
  · have hkey' : ¬AOI.keyFor (g.picture.grids sim.aoi).cellSize state.sight.lastPosition =
        AOI.keyFor (g.picture.grids sim.aoi).cellSize (g.picture.objects r).position := hkey
    simp only [onStore, Store.detectEntity, Picture.detectEntity, hr, hpic, hstate,
      Option.map_some, if_neg hkey, if_neg hkey']
    have hgrid := g.picture_updateGrid sim.aoi fun a =>
      a.picture_enter (localGhostID id) state.lastPosition
    exact (picture_setGhost _ _ _).trans (congrArg (Picture.apply · _) hgrid)

theorem picture_setSight (id : EntityID) (state : EntityAOIState) :
    ({ g with entityAOI := g.entityAOI.set id state } : Game).picture =
      g.picture.apply (.sight id state.sight) := by
  ext1 <;> try rfl
  funext x
  by_cases hx : x = id <;> simp [hx, picture, Picture.apply]

theorem sight_ofList (ref : ℕ) (pos : Vector3) :
    EntityAOIState.sight ⟨Dict.ofList ((g.grids.cell ref).entitiesInRange pos g.aoiRadius), pos⟩ =
      ⟨(g.picture.grids ref).seen pos g.aoiRadius, pos⟩ := by
  ext1
  · ext x
    exact (Dict.isSome_get_ofList _ x).trans ((g.grids.cell ref).mem_seen pos g.aoiRadius x).symm
  · rfl

theorem picture_visitObserver (sim : ZoneSim) (order : VisitOrder) (id : EntityID) :
    (visitObserver sim order g id).picture =
      g.picture.applyAll (g.picture.visitObserver sim id) := by
  rcases hr : sim.entities.get id with _ | r
  · simp only [visitObserver, Picture.visitObserver, hr]
    rfl
  · simp only [visitObserver, Picture.visitObserver, hr]
    rw [picture_setSight, picture_publishAll, picture_publishAll, sight_ofList]
    rfl

theorem picture_sweepGhost (now : Time) (id : EntityID) :
    (g.onStore (Store.sweepGhost now · id)).picture =
      g.picture.applyAll (g.picture.sweepGhost now id) := by
  have hpic : g.picture.ghosts id = g.ghosts.get id := rfl
  rcases hghost : g.ghosts.get id with _ | ghost
  · simp only [onStore, Store.sweepGhost, Picture.sweepGhost, hpic, hghost]
    rfl
  by_cases hfresh : now ≤ ghost.expiresAt
  · simp only [onStore, Store.sweepGhost, Picture.sweepGhost, hpic, hghost, if_pos hfresh]
    rfl
  have hzones : g.picture.zones = g.zones := rfl
  rcases hsim : g.zones.get ghost.originZone with _ | sim
  · simp only [onStore, Store.sweepGhost, Picture.sweepGhost, hpic, hghost, if_neg hfresh,
      hzones, hsim]
    exact g.picture_delGhost id
  · simp only [onStore, Store.sweepGhost, Picture.sweepGhost, hpic, hghost, if_neg hfresh,
      hzones, hsim]
    have hgrid := g.picture_updateGrid sim.aoi fun a => a.picture_leave id
    exact (picture_delGhost _ id).trans (congrArg (Picture.apply · _) hgrid)

theorem picture_forget (id : EntityID) :
    ({ g with
      entities := g.entities.del id
      entityAOI := g.entityAOI.del id
      entityZone := g.entityZone.del id
      sessionStates := g.sessionStates.del id } : Game).picture =
      g.picture.apply (.forget id) := by
  ext1 <;> try rfl
  · exact g.entities.get_del_eq_update id
  · exact g.entityZone.get_del_eq_update id
  · funext x
    by_cases hx : x = id <;> simp [hx, picture, Picture.apply]
  · exact g.sessionStates.get_del_eq_update id

theorem picture_sweepSession (now : Time) (id : EntityID) :
    (sweepSession now g id).picture = g.picture.applyAll (g.picture.sweepSession now id) := by
  have hpic : g.picture.expired now id = g.expired now id := rfl
  have hpicref : g.picture.indexRefOf id = (g.entityZone.get id).bind g.aoiIndex.get := rfl
  by_cases hexpired : g.expired now id
  · rcases hzone : g.entityZone.get id with _ | zid
    · simp only [sweepSession, Picture.sweepSession, hpic, hpicref, hexpired, if_true, hzone,
        Option.bind_none]
      exact g.picture_forget id
    · rcases href : g.aoiIndex.get zid with _ | ref
      · simp only [sweepSession, Picture.sweepSession, hpic, hpicref, hexpired, if_true, hzone,
          Option.bind_some, href]
        exact g.picture_forget id
      · simp only [sweepSession, Picture.sweepSession, hpic, hpicref, hexpired, if_true, hzone,
          Option.bind_some, href]
        have hgrid := g.picture_updateGrid ref fun a => a.picture_leave id
        exact (picture_forget _ id).trans (congrArg (Picture.apply · _) hgrid)
  · simp only [sweepSession, Picture.sweepSession, hpic, if_neg hexpired]
    rfl

end Refinement

/-! ## Loops -/

namespace Picture

/-- Each iteration edits what the ones before it have left. -/
def loop {K : Type} (edits : Picture → K → List Edit) (ks : List K) (P : Picture) : Picture :=
  ks.foldl (fun P k => P.applyAll (edits P k)) P

/-- The iterations of the two loops over the entities of a zone. -/
def zoneEdits (zid : ZoneID) (sim : ZoneSim) (now : EntityID → Time) (P : Picture) :
    EntityID ⊕ EntityID → List Edit
  | .inl id => P.detectEntity zid sim now id
  | .inr id => P.visitObserver sim id

/-- The turn of one zone: replicas first, then what its observers see. -/
def zoneTurn (inp : TickInput) (P : Picture) (zid : ZoneID) : Picture :=
  match P.zones.get zid with
  | none => P
  | some sim => P.loop (zoneEdits zid sim (inp.ghostNow zid))
      ((sim.entities.range (inp.detectOrder zid)).map .inl ++
        (sim.entities.range (inp.visitOrder zid).observers).map .inr)

end Picture

section Loops

variable (g : Game)

theorem picture_foldl {step : Game → EntityID → Game}
    {edits : Picture → EntityID → List Picture.Edit}
    (h : ∀ g id, (step g id).picture = g.picture.applyAll (edits g.picture id))
    (ids : List EntityID) : (ids.foldl step g).picture = g.picture.loop edits ids :=
  (List.foldl_hom picture fun g id => (h g id).symm).symm

theorem picture_simulate (N : Numerics) (dt : Duration) (seed : EntityID → ℤ)
    (order : List EntityID) : (simulate N g dt seed order).picture =
      g.picture.loop (Picture.simulateEntity N dt seed) (g.entities.range order) :=
  g.picture_foldl (fun g id => g.picture_simulateEntity N dt seed id) _

theorem onStore_foldl (f : Store → EntityID → Store) (ids : List EntityID) :
    (g.onStore fun s => ids.foldl f s) = ids.foldl (fun g id => g.onStore (f · id)) g := by
  induction ids generalizing g with
  | nil => rfl
  | cons id ids ih => exact ih (g.onStore (f · id))

theorem picture_sweepGhosts (now : Time) (order : List EntityID) :
    (g.sweepGhosts now order).picture =
      g.picture.loop (Picture.sweepGhost now) (g.ghosts.range order) := by
  have hloop := g.onStore_foldl (Store.sweepGhost now) (g.ghosts.range order)
  rw [← g.picture_foldl (fun g id => g.picture_sweepGhost now id), ← hloop]
  rfl

theorem picture_sweepDisconnected (now : Time) (order : List EntityID) :
    (g.sweepDisconnected now order).picture =
      g.picture.loop (Picture.sweepSession now) (g.sessionStates.range order) :=
  g.picture_foldl (fun g id => g.picture_sweepSession now id) _

theorem picture_zoneTurn (inp : TickInput) (zid : ZoneID) :
    ((g.detectZoneBoundaries zid (inp.ghostNow zid) (inp.detectOrder zid)).updateVisibility zid
      (inp.visitOrder zid)).picture = g.picture.zoneTurn inp zid := by
  have hpic : g.picture.zones = g.zones := rfl
  have hzones : (g.detectZoneBoundaries zid (inp.ghostNow zid) (inp.detectOrder zid)).zones =
      g.zones := (Store.SameMaps.detectZoneBoundaries g.toStore zid _ _).zones
  rcases hsim : g.zones.get zid with _ | sim
  · simp only [updateVisibility, Picture.zoneTurn, hpic, hsim, detectZoneBoundaries, onStore,
      Store.detectZoneBoundaries]
  · have hdetect : (g.detectZoneBoundaries zid (inp.ghostNow zid) (inp.detectOrder zid)).picture =
        g.picture.loop (Picture.detectEntity zid sim (inp.ghostNow zid))
          (sim.entities.range (inp.detectOrder zid)) := by
      have hloop := g.onStore_foldl (Store.detectEntity zid sim (inp.ghostNow zid))
        (sim.entities.range (inp.detectOrder zid))
      rw [← g.picture_foldl (fun g id => g.picture_detectEntity zid sim (inp.ghostNow zid) id),
        ← hloop]
      simp only [detectZoneBoundaries, onStore, Store.detectZoneBoundaries, hsim]
    simp only [updateVisibility, hzones, hsim, Picture.zoneTurn, hpic]
    rw [picture_foldl _ fun g id => g.picture_visitObserver sim (inp.visitOrder zid) id, hdetect]
    simp only [Picture.loop, List.foldl_append, List.foldl_map]
    rfl

end Loops

end Game

end SpatialServer

import SpatialServer.ReachableStores
import SpatialServer.GridReplay
import SpatialServer.TickPictures

/-!
# Stores that differ in one entity

An entity that is somewhere else shows in its object, in what the grids know of
it, in the replica it leaves behind when it crosses a cell, and in who sees it.
Two stores that differ in no more than that still do after each method of the
store that is called on both, and a method that works on the entity alone may
even be called on one of them only.
-/
namespace SpatialServer

namespace AOI

/-- The two grids differ at most in what they know of the given identifiers. -/
structure SameBut (own : Set EntityID) (a b : AOI) : Prop where
  cells : SameCells a b
  presence : ∀ x, x ∉ own → b.picture.presence x = a.picture.presence x

theorem sameCells_step (a : AOI) (call : GridCall) : SameCells a (a.step call) := by
  cases call with
  | enter id pos => exact .enter a id pos
  | leave id => exact .leave a id
  | move id pos => exact .move a id pos

namespace SameBut

variable {own own' : Set EntityID} {a b d : AOI}

theorem refl (own : Set EntityID) (a : AOI) : SameBut own a a := ⟨.refl a, fun _ _ => rfl⟩

theorem symm (h : SameBut own a b) : SameBut own b a :=
  ⟨⟨h.cells.1.symm, h.cells.2.symm⟩, fun x hx => (h.presence x hx).symm⟩

theorem trans (h : SameBut own a b) (h' : SameBut own b d) : SameBut own a d :=
  ⟨h.cells.trans h'.cells, fun x hx => (h'.presence x hx).trans (h.presence x hx)⟩

theorem mono (hsub : own ⊆ own') (h : SameBut own a b) : SameBut own' a b :=
  ⟨h.cells, fun x hx => h.presence x fun hown => hx (hsub hown)⟩

/-- A call does the same to both grids. -/
theorem step (h : SameBut own a b) (call : GridCall) : SameBut own (a.step call) (b.step call) := by
  have hcells : SameCells (a.step call) a :=
    ⟨(sameCells_step a call).1.symm, (sameCells_step a call).2.symm⟩
  refine ⟨(hcells.trans h.cells).trans (sameCells_step b call), fun x hx => ?_⟩
  have hsize : b.picture.cellSize = a.picture.cellSize := h.cells.1
  rw [picture_step, picture_step]
  by_cases hid : x = call.id
  · subst hid
    simp only [Picture.edit, Function.update_self, hsize, h.presence _ hx]
  · simp only [Picture.edit, Function.update_of_ne hid, h.presence _ hx]

theorem step_right {call : GridCall} (hid : call.id ∈ own) (a : AOI) :
    SameBut own a (a.step call) := by
  refine ⟨sameCells_step a call, fun x hx => ?_⟩
  have hne : x ≠ call.id := fun heq => hx (heq ▸ hid)
  rw [picture_step]
  exact Function.update_of_ne hne _ _

theorem agree (h : SameBut own a b) {x : EntityID} (hx : x ∉ own) : Agree x a b :=
  ⟨h.cells.1, congrArg Presence.position (h.presence x hx),
    congrFun (congrArg Presence.listed (h.presence x hx))⟩

theorem mem_entitiesInRange_iff (h : SameBut own a b) {x : EntityID} (hx : x ∉ own)
    (center : Vector3) (radius : ℚ) :
    x ∈ b.entitiesInRange center radius ↔ x ∈ a.entitiesInRange center radius :=
  (h.agree hx).mem_entitiesInRange_iff h.cells center radius

end SameBut

end AOI

namespace Replicas

/-- The replica stores are the same, and the grids are but for the given names. -/
structure SameBut (own : Set EntityID) (b b' : Replicas) : Prop where
  grid : AOI.SameBut own b.grid b'.grid
  store : b'.store = b.store

namespace SameBut

variable {own : Set EntityID} {b b' : Replicas}

theorem update (h : SameBut own b b') (id : EntityID) (pos : Vector3) (t : Time) :
    SameBut own (b.update id pos t) (b'.update id pos t) := by
  unfold Replicas.update
  rw [h.store]
  split
  · exact h
  · exact ⟨h.grid.step (.move _ pos), rfl⟩

theorem refresh (h : SameBut own b b') (zid : ZoneID) (n : NeighborEntity) (t : Time) :
    SameBut own (b.refresh zid n t) (b'.refresh zid n t) := by
  unfold Replicas.refresh
  rw [h.store]
  refine ⟨?_, rfl⟩
  dsimp only
  split_ifs
  · exact h.grid.step (.enter _ n.pos)
  · exact h.grid.step (.move _ n.pos)

theorem expire (h : SameBut own b b') (seen : List EntityID) (now : EntityID → Time)
    (gid : EntityID) : SameBut own (expire seen now b gid) (expire seen now b' gid) := by
  unfold Replicas.expire
  rw [h.store]
  split
  · exact h
  · split_ifs
    · exact h
    · exact ⟨h.grid.step (.leave gid), rfl⟩
    · exact h

theorem reconcile (h : SameBut own b b') (zid : ZoneID) (results : List NeighborEntity)
    (expiresAt : ℕ → Time) (now : EntityID → Time) (order : List EntityID) :
    SameBut own (b.reconcile zid results expiresAt now order)
      (b'.reconcile zid results expiresAt now order) := by
  have hnamed := List.foldl_rel (l := results.zipIdx)
    (f := fun b r => b.refresh zid r.1 (expiresAt r.2))
    (g := fun b r => b.refresh zid r.1 (expiresAt r.2)) (r := SameBut own) h
    fun r _ _ _ hb => hb.refresh zid r.1 (expiresAt r.2)
  unfold Replicas.reconcile
  dsimp only
  rw [hnamed.store]
  exact List.foldl_rel hnamed fun gid _ _ _ hb => hb.expire _ now gid

theorem run (h : SameBut own b b') (op : Op) : SameBut own (op.run b) (op.run b') := by
  cases op with
  | enter zid id pos t =>
    exact ⟨h.grid.step (.enter _ pos), congrArg (Dict.set · _ _) h.store⟩
  | leave id => exact ⟨h.grid.step (.leave _), congrArg (Dict.del · _) h.store⟩
  | update id pos t => exact h.update id pos t
  | reconcile zid results t now order => exact h.reconcile zid results t now order

end SameBut

end Replicas

/-- Two objects of one name, which are equal unless it is the given one. -/
structure Entity.SameBut (c : EntityID) (e e' : Entity) : Prop where
  name : e'.id = e.id
  same : e.id ≠ c → e' = e

theorem Entity.SameBut.refl (c : EntityID) (e : Entity) : SameBut c e e := ⟨rfl, fun _ => rfl⟩

/-- What was seen, the given identifiers apart. -/
def Sight.but (own : Set EntityID) (v : Sight) : Sight := ⟨v.visible \ own, v.lastPosition⟩

theorem Sight.but_but {own own' : Set EntityID} (hsub : own ⊆ own') (v : Sight) :
    (v.but own).but own' = v.but own' := by
  simp only [but, Set.sdiff_sdiff, Set.union_eq_self_of_subset_left hsub]

/-- What an observer saw last, the given identifiers apart. -/
def EntityAOIState.sightBut (own : Set EntityID) (state : EntityAOIState) : Sight :=
  state.sight.but own

namespace Store

/-- The two stores differ at most in one entity. The grids and the maps of
replicas know it under the names in `own`. -/
structure AgreeBut (c : EntityID) (own : Set EntityID) (s s' : Store) : Prop where
  zones : s'.zones = s.zones
  entities : s'.entities = s.entities
  entityZone : s'.entityZone = s.entityZone
  aoiIndex : s'.aoiIndex = s.aoiIndex
  ghostStore : s'.ghostStore = s.ghostStore
  aoiRadius : s'.aoiRadius = s.aoiRadius
  ghostTTL : s'.ghostTTL = s.ghostTTL
  objects : Heap.Rel (Entity.SameBut c) s.objects s'.objects
  grids : Heap.Rel (AOI.SameBut own) s.grids s'.grids
  ghosts : ∀ x, x ∉ own → s'.ghosts.get x = s.ghosts.get x
  sights : ∀ x, x ≠ c → (s'.entityAOI.get x).map (·.sightBut own) =
    (s.entityAOI.get x).map (·.sightBut own)

namespace AgreeBut

variable {c : EntityID} {own own' : Set EntityID} {s s' s'' : Store}

theorem refl (c : EntityID) (own : Set EntityID) (s : Store) : AgreeBut c own s s :=
  ⟨rfl, rfl, rfl, rfl, rfl, rfl, rfl, ⟨rfl, fun _ => .refl c _⟩, ⟨rfl, fun _ => .refl own _⟩,
    fun _ _ => rfl, fun _ _ => rfl⟩

theorem symm (h : AgreeBut c own s s') : AgreeBut c own s' s where
  zones := h.zones.symm
  entities := h.entities.symm
  entityZone := h.entityZone.symm
  aoiIndex := h.aoiIndex.symm
  ghostStore := h.ghostStore.symm
  aoiRadius := h.aoiRadius.symm
  ghostTTL := h.ghostTTL.symm
  objects := ⟨h.objects.next.symm, fun r => ⟨(h.objects.cell r).name.symm,
    fun hne => ((h.objects.cell r).same ((h.objects.cell r).name ▸ hne)).symm⟩⟩
  grids := ⟨h.grids.next.symm, fun ref => (h.grids.cell ref).symm⟩
  ghosts x hx := (h.ghosts x hx).symm
  sights x hx := (h.sights x hx).symm

theorem trans (h : AgreeBut c own s s') (h' : AgreeBut c own s' s'') : AgreeBut c own s s'' where
  zones := h'.zones.trans h.zones
  entities := h'.entities.trans h.entities
  entityZone := h'.entityZone.trans h.entityZone
  aoiIndex := h'.aoiIndex.trans h.aoiIndex
  ghostStore := h'.ghostStore.trans h.ghostStore
  aoiRadius := h'.aoiRadius.trans h.aoiRadius
  ghostTTL := h'.ghostTTL.trans h.ghostTTL
  objects := ⟨h'.objects.next.trans h.objects.next, fun r =>
    ⟨(h'.objects.cell r).name.trans (h.objects.cell r).name, fun hne =>
      ((h'.objects.cell r).same ((h.objects.cell r).name ▸ hne)).trans
        ((h.objects.cell r).same hne)⟩⟩
  grids := ⟨h'.grids.next.trans h.grids.next, fun ref =>
    (h.grids.cell ref).trans (h'.grids.cell ref)⟩
  ghosts x hx := (h'.ghosts x hx).trans (h.ghosts x hx)
  sights x hx := (h'.sights x hx).trans (h.sights x hx)

theorem mono (hsub : own ⊆ own') (h : AgreeBut c own s s') : AgreeBut c own' s s' where
  __ := h
  grids := ⟨h.grids.next, fun ref => (h.grids.cell ref).mono hsub⟩
  ghosts x hx := h.ghosts x fun hown => hx (hsub hown)
  sights x hx := by
    have hsights := congrArg (Option.map (Sight.but own')) (h.sights x hx)
    simpa only [Option.map_map, Function.comp_def, EntityAOIState.sightBut, Sight.but_but hsub]
      using hsights

/-- Steps on either side that leave their own store alone but for the entity. -/
theorem both {t t' : Store} (h : AgreeBut c own s s') (ht : AgreeBut c own s t)
    (ht' : AgreeBut c own s' t') : AgreeBut c own t t' := (ht.symm.trans h).trans ht'

/-! ## Grids -/

theorem updateGrid (h : AgreeBut c own s s') (ref : ℕ) (call : AOI.GridCall) :
    AgreeBut c own (s.updateGrid ref (·.step call)) (s'.updateGrid ref (·.step call)) :=
  { h with grids := h.grids.write ref ((h.grids.cell ref).step call) }

theorem updateGrid_right (s : Store) (ref : ℕ) (call : AOI.GridCall) (hid : call.id ∈ own) :
    AgreeBut c own s (s.updateGrid ref (·.step call)) :=
  { refl c own s with grids := .write_right (.refl own) (.step_right hid _) }

theorem gridRefOf (h : AgreeBut c own s s') (id : EntityID) : s'.gridRefOf id = s.gridRefOf id := by
  simp only [Store.gridRefOf, h.zones, h.entityZone]

theorem moveOnGrid (h : AgreeBut c own s s') (id : EntityID) (pos : Vector3) :
    AgreeBut c own (s.moveOnGrid id pos) (s'.moveOnGrid id pos) := by
  unfold Store.moveOnGrid
  rw [h.gridRefOf]
  split
  · next ref _ => exact h.updateGrid ref (.move id pos)
  · exact h

theorem moveOnGrid_right (s : Store) {id : EntityID} (hid : id ∈ own) (pos : Vector3) :
    AgreeBut c own s (s.moveOnGrid id pos) := by
  unfold Store.moveOnGrid
  split
  · next ref _ => exact updateGrid_right s ref (.move id pos) hid
  · exact refl c own s

/-! ## Objects -/

theorem setObject (h : AgreeBut c own s s') (r : ℕ) (e : Entity) :
    AgreeBut c own (s.setObject r e) (s'.setObject r e) :=
  { h with objects := h.objects.write r (.refl c e) }

theorem setObject_right (s : Store) {r : ℕ} {e : Entity} (hold : (s.objects.cell r).id = c)
    (hnew : e.id = c) : AgreeBut c own s (s.setObject r e) :=
  { refl c own s with
    objects := .write_right (.refl c) ⟨hnew.trans hold.symm, fun hne => absurd hold hne⟩ }

/-- The object of an entity that is not the one. -/
theorem object_eq (h : AgreeBut c own s s') {r : ℕ} (hne : (s.objects.cell r).id ≠ c) :
    s'.objects.cell r = s.objects.cell r := (h.objects.cell r).same hne

theorem entityOf_eq (h : AgreeBut c own s s') (hn : Named s) {x : EntityID} (hx : x ≠ c) :
    s'.entityOf x = s.entityOf x := by
  unfold Store.entityOf
  rw [h.entities]
  cases hr : s.entities.get x with
  | none => rfl
  | some r =>
    have hid := (hn.object x r hr).2
    exact congrArg some (h.object_eq (hid.symm ▸ hx))

theorem named (h : AgreeBut c own s s') (hn : Named s) : Named s' :=
  hn.congr h.zones h.entities h.entityZone h.objects.next fun r => (h.objects.cell r).name

/-! ## Zones and entities -/

theorem assignZone (h : AgreeBut c own s s') (z : Zone) :
    AgreeBut c own (s.change (.assignZone z)) (s'.change (.assignZone z)) := by
  simp only [Store.change, Store.assignZone, h.zones, h.aoiIndex, h.ghostStore, h.aoiRadius,
    h.grids.next]
  split_ifs
  · exact h
  · exact { h with
      zones := rfl, aoiIndex := rfl, ghostStore := rfl, aoiRadius := rfl
      grids := h.grids.alloc (.refl own _) }

theorem mem_ghostsOfZone (h : AgreeBut c own s s') (zid : ZoneID) {x : EntityID} (hx : x ∉ own) :
    x ∈ s'.ghostsOfZone zid ↔ x ∈ s.ghostsOfZone zid := by
  simp only [Store.ghostsOfZone, List.mem_filter, Dict.mem_range_iff, h.ghosts x hx]

theorem releaseZone (h : AgreeBut c own s s') (zid : ZoneID) :
    AgreeBut c own (s.change (.releaseZone zid)) (s'.change (.releaseZone zid)) := by
  have hids : s'.entitiesOfZone zid = s.entitiesOfZone zid := by
    simp only [Store.entitiesOfZone, h.entityZone]
  simp only [Store.change, Store.releaseZone, h.zones, h.entities, h.entityZone, h.aoiIndex,
    h.ghostStore, hids]
  split_ifs
  · exact h
  · refine { h with
      zones := rfl, entities := rfl, entityZone := rfl, aoiIndex := rfl, ghostStore := rfl
      ghosts := fun x hx => ?_
      sights := fun x hx => ?_ }
    · simp only [Except.toOption, Option.getD_some, Dict.get_delAll, h.mem_ghostsOfZone zid hx,
        h.ghosts x hx]
    · simp only [Except.toOption, Option.getD_some, Dict.get_delAll]
      split_ifs
      · rfl
      · exact h.sights x hx

theorem ensureZone (h : AgreeBut c own s s') (zid : ZoneID) :
    AgreeBut c own (s.ensureZone zid) (s'.ensureZone zid) := by
  unfold Store.ensureZone
  simp only [h.zones, h.aoiRadius, h.grids.next]
  split
  · exact h
  · exact { h with zones := rfl, aoiRadius := rfl, grids := h.grids.alloc (.refl own _) }

theorem placeEntity (h : AgreeBut c own s s') (zid : ZoneID) (sim : ZoneSim) (e : Entity) :
    AgreeBut c own (s.placeEntity zid sim e) (s'.placeEntity zid sim e) := by
  simp only [Store.placeEntity, h.zones, h.entities, h.entityZone, h.objects.next]
  refine { h with
    zones := rfl, entities := rfl, entityZone := rfl
    objects := h.objects.alloc (.refl c e)
    grids := h.grids.write sim.aoi ((h.grids.cell sim.aoi).step (.enter e.id e.position))
    sights := fun x hx => ?_ }
  simp only [Dict.get_set]
  split_ifs
  · rfl
  · exact h.sights x hx

theorem addEntity (h : AgreeBut c own s s') (e : Entity) :
    AgreeBut c own (s.addEntity e) (s'.addEntity e) := by
  obtain ⟨sim, hsim, heq⟩ := s.exists_addEntity_eq e
  obtain ⟨sim', hsim', heq'⟩ := s'.exists_addEntity_eq e
  have hensure := h.ensureZone (targetZone e)
  rw [hensure.zones, hsim] at hsim'
  cases hsim'
  rw [heq, heq']
  exact hensure.placeEntity _ sim _

/-- Deleting an entity from the maps. -/
theorem forget (h : AgreeBut c own s s') (id : EntityID) :
    AgreeBut c own
      { s with
        entities := s.entities.del id
        entityAOI := s.entityAOI.del id
        entityZone := s.entityZone.del id }
      { s' with
        entities := s'.entities.del id
        entityAOI := s'.entityAOI.del id
        entityZone := s'.entityZone.del id } := by
  refine { h with
    entities := congrArg (·.del id) h.entities
    entityZone := congrArg (·.del id) h.entityZone
    sights := fun x hx => ?_ }
  simp only [Dict.get_del]
  split_ifs
  · rfl
  · exact h.sights x hx

theorem removeEntity (h : AgreeBut c own s s') (id : EntityID) :
    AgreeBut c own (s.removeEntity id) (s'.removeEntity id) := by
  unfold Store.removeEntity
  rw [h.entityZone]
  split
  · exact h
  · next zid _ =>
    dsimp only
    rw [h.zones]
    split
    · next sim _ =>
      have hleft : AgreeBut c own
          { s.updateGrid sim.aoi (·.leave id) with
            zones := s.zones.set zid { sim with entities := sim.entities.del id } }
          { s'.updateGrid sim.aoi (·.leave id) with
            zones := s.zones.set zid { sim with entities := sim.entities.del id } } :=
        { h.updateGrid sim.aoi (.leave id) with zones := rfl }
      exact hleft.forget id
    · exact h.forget id

theorem expire (h : AgreeBut c own s s') (id : EntityID) :
    AgreeBut c own (s.expire id) (s'.expire id) := by
  unfold Store.expire
  rw [h.entityZone, h.aoiIndex]
  split
  · split
    · next ref _ => exact (h.updateGrid ref (.leave id)).forget id
    · exact h.forget id
  · exact h.forget id

/-! ## Replicas of entities -/

theorem detectEntity_right (s : Store) (hown : localGhostID c ∈ own) (zid : ZoneID) (sim : ZoneSim)
    (now : EntityID → Time) : AgreeBut c own s (detectEntity zid sim now s c) := by
  unfold Store.detectEntity
  split
  · next r state _ _ =>
    dsimp only
    split
    · exact refl c own s
    · exact { updateGrid_right s sim.aoi (.enter (localGhostID c) state.lastPosition) hown with
        ghosts := fun x hx => Dict.get_set_ne _ _ fun heq => hx (heq ▸ hown) }
  · exact refl c own s

/-- An entity that is not the one leaves the same replica in both stores. -/
theorem detectEntity (h : AgreeBut c own s s') (zid : ZoneID) {sim : ZoneSim}
    (now : EntityID → Time) {id : EntityID} (hid : id ≠ c)
    (hname : ∀ r, sim.entities.get id = some r → (s.objects.cell r).id = id) :
    AgreeBut c own (detectEntity zid sim now s id) (detectEntity zid sim now s' id) := by
  have hsights := h.sights id hid
  rcases hr : sim.entities.get id with _ | r
  · simpa only [Store.detectEntity, hr] using h
  have hobject := h.object_eq (r := r) ((hname r hr).symm ▸ hid)
  have hkey : ∀ pos, (s'.grids.cell sim.aoi).cellKeyFor pos =
      (s.grids.cell sim.aoi).cellKeyFor pos := fun pos => by
    simp only [AOI.cellKeyFor, (h.grids.cell sim.aoi).cells.1]
  rcases hst : s.entityAOI.get id with _ | st <;> rcases hst' : s'.entityAOI.get id with _ | st' <;>
    simp only [hst, hst', Option.map_none, Option.map_some, reduceCtorEq, Option.some.injEq]
      at hsights
  · simpa only [Store.detectEntity, hr, hst, hst'] using h
  · have hlast : st'.lastPosition = st.lastPosition := congrArg Sight.lastPosition hsights
    simp only [Store.detectEntity, hr, hst, hst', hkey, hobject, hlast, h.ghostTTL]
    split
    · exact h
    · refine { h.updateGrid sim.aoi (.enter (localGhostID id) st.lastPosition) with
        ghosts := fun x hx => ?_ }
      simp only [Dict.get_set]
      split_ifs
      · rfl
      · exact h.ghosts x hx

theorem detectZoneBoundaries (h : AgreeBut c own s s') (hn : Named s)
    (hghost : localGhostID c ∈ own) (zid : ZoneID) (now : EntityID → Time) (order : List EntityID) :
    AgreeBut c own (s.detectZoneBoundaries zid now order)
      (s'.detectZoneBoundaries zid now order) := by
  unfold Store.detectZoneBoundaries
  rw [h.zones]
  split
  · exact h
  · next sim hsim =>
    refine (List.foldl_rel (r := fun t t' : Store => t.objects = s.objects ∧ t.AgreeBut c own t')
      ⟨rfl, h⟩ fun id _ t t' ht => ⟨?_, ?_⟩).2
    · rw [objects_detectEntity, ht.1]
    · by_cases hid : id = c
      · subst hid
        exact ht.2.both (detectEntity_right t hghost zid sim now)
          (detectEntity_right t' hghost zid sim now)
      · refine ht.2.detectEntity zid now hid fun r hr => ?_
        rw [ht.1]
        exact (hn.member zid sim id r hsim hr).2

theorem sweepGhost_right (s : Store) (now : Time) {id : EntityID} (hid : id ∈ own) :
    AgreeBut c own s (sweepGhost now s id) := by
  have hdel : ∀ (t : Store), AgreeBut c own t { t with ghosts := t.ghosts.del id } := fun t =>
    { refl c own t with ghosts := fun x hx => Dict.get_del_ne _ fun heq => hx (heq ▸ hid) }
  unfold Store.sweepGhost
  split
  · exact refl c own s
  · split
    · exact refl c own s
    · dsimp only
      split
      · next sim _ => exact (updateGrid_right s sim.aoi (.leave id) hid).trans (hdel _)
      · exact hdel s

theorem sweepGhost (h : AgreeBut c own s s') (now : Time) {id : EntityID} (hid : id ∉ own) :
    AgreeBut c own (sweepGhost now s id) (sweepGhost now s' id) := by
  have hdel : ∀ {t t' : Store}, AgreeBut c own t t' → AgreeBut c own
      { t with ghosts := t.ghosts.del id } { t' with ghosts := t'.ghosts.del id } := by
    intro t t' ht
    refine { ht with ghosts := fun x hx => ?_ }
    simp only [Dict.get_del]
    split_ifs
    · rfl
    · exact ht.ghosts x hx
  unfold Store.sweepGhost
  rw [h.ghosts id hid]
  split
  · exact h
  · split
    · exact h
    · dsimp only
      rw [h.zones]
      split
      · next sim _ => exact hdel (h.updateGrid sim.aoi (.leave id))
      · exact hdel h

theorem foldl_sweepGhost_right (s : Store) (now : Time) {ids : List EntityID}
    (hids : ∀ id ∈ ids, id ∈ own) : AgreeBut c own s (ids.foldl (Store.sweepGhost now) s) :=
  List.foldlRecOn (motive := AgreeBut c own s) ids _ (refl c own s)
    fun t ht id hid => ht.trans (sweepGhost_right t now (hids id hid))

/-- What a loop does to one name is what its own iteration does. -/
theorem foldl_sweepGhost_at (s : Store) (now : Time) (x : EntityID) {ids : List EntityID}
    (hnodup : ids.Nodup) : AgreeBut c {x}ᶜ (if x ∈ ids then Store.sweepGhost now s x else s)
      (ids.foldl (Store.sweepGhost now) s) := by
  have hother : ∀ (t : Store) {l : List EntityID}, x ∉ l →
      AgreeBut c {x}ᶜ t (l.foldl (Store.sweepGhost now) t) := fun t l hl =>
    foldl_sweepGhost_right t now fun id hid heq => hl (Set.mem_singleton_iff.mp heq ▸ hid)
  by_cases hx : x ∈ ids
  · obtain ⟨before, after, rfl⟩ := List.append_of_mem hx
    rw [if_pos hx, List.foldl_append, List.foldl_cons]
    have hbefore : x ∉ before := fun hmem =>
      (List.nodup_append.mp hnodup).2.2 x hmem x List.mem_cons_self rfl
    have hafter : x ∉ after := (List.nodup_cons.mp (List.nodup_append.mp hnodup).2.1).1
    exact ((hother s hbefore).sweepGhost now (by simp)).trans (hother _ hafter)
  · rw [if_neg hx]
    exact hother s hx

/-- The two loops visit different names only where the stores may differ. -/
theorem sweepGhosts (h : AgreeBut c own s s') (now : Time) (order : List EntityID) :
    AgreeBut c own (s.sweepGhosts now order) (s'.sweepGhosts now order) := by
  have hat : ∀ x, x ∉ own →
      AgreeBut c {x}ᶜ (s.sweepGhosts now order) (s'.sweepGhosts now order) := by
    intro x hx
    have hx' : AgreeBut c {x}ᶜ s s' := h.mono fun y hy heq => hx (Set.mem_singleton_iff.mp heq ▸ hy)
    have hmem : x ∈ s'.ghosts.range order ↔ x ∈ s.ghosts.range order := by
      rw [Dict.mem_range_iff, Dict.mem_range_iff, h.ghosts x hx]
    refine both ?_ (foldl_sweepGhost_at s now x (Dict.nodup_range _ _))
      (foldl_sweepGhost_at s' now x (Dict.nodup_range _ _))
    by_cases hvisit : x ∈ s.ghosts.range order
    · rw [if_pos hvisit, if_pos (hmem.mpr hvisit)]
      exact hx'.sweepGhost now (by simp)
    · rw [if_neg hvisit, if_neg (mt hmem.mp hvisit)]
      exact hx'
  have huniv : AgreeBut c Set.univ (s.sweepGhosts now order) (s'.sweepGhosts now order) :=
    (h.mono (Set.subset_univ own)).both (foldl_sweepGhost_right s now fun _ _ => trivial)
      (foldl_sweepGhost_right s' now fun _ _ => trivial)
  refine { huniv with
    grids := ⟨huniv.grids.next, fun ref => ⟨(huniv.grids.cell ref).cells, fun x hx => ?_⟩⟩
    ghosts := fun x hx => (hat x hx).ghosts x (by simp)
    sights := fun x hx => ?_ }
  · exact ((hat x hx).grids.cell ref).presence x (by simp)
  · rw [(SameMaps.sweepGhosts s now order).entityAOI, (SameMaps.sweepGhosts s' now order).entityAOI]
    exact h.sights x hx

/-! ## Visibility -/

/-- What an observer sees from one place, the given names apart. -/
theorem sightBut_ofList (h : AgreeBut c own s s') (ref : ℕ) (pos : Vector3) :
    EntityAOIState.sightBut own
        ⟨Dict.ofList ((s'.grids.cell ref).entitiesInRange pos s'.aoiRadius), pos⟩ =
      EntityAOIState.sightBut own
        ⟨Dict.ofList ((s.grids.cell ref).entitiesInRange pos s.aoiRadius), pos⟩ := by
  rw [h.aoiRadius]
  ext1
  · ext x
    simp only [EntityAOIState.sightBut, Sight.but, EntityAOIState.sight, Set.mem_sdiff,
      Set.mem_ofPred_eq, Dict.isSome_get_ofList]
    exact and_congr_left fun hx => (h.grids.cell ref).mem_entitiesInRange_iff hx pos _
  · simp only [EntityAOIState.sightBut, Sight.but, EntityAOIState.sight]

/-- An observer is written down, and it is the entity or sees the same. -/
theorem see (h : AgreeBut c own s s') {id : EntityID} {state state' : EntityAOIState}
    (hstate : id ≠ c → state'.sightBut own = state.sightBut own) :
    AgreeBut c own { s with entityAOI := s.entityAOI.set id state }
      { s' with entityAOI := s'.entityAOI.set id state' } := by
  refine { h with sights := fun x hx => ?_ }
  simp only [Dict.get_set]
  split_ifs with hid
  · exact congrArg some (hstate (hid ▸ hx))
  · exact h.sights x hx

/-! ## Neighbours -/

theorem onReplicas (h : AgreeBut c own s s') (zid : ZoneID) (op : Replicas.Op) :
    AgreeBut c own (s.onReplicas zid op.run) (s'.onReplicas zid op.run) := by
  unfold Store.onReplicas
  rw [h.aoiIndex, h.ghostStore]
  split
  · next ref store _ _ =>
    have hboth : Replicas.SameBut own ⟨s.grids.cell ref, store⟩ ⟨s'.grids.cell ref, store⟩ :=
      ⟨h.grids.cell ref, rfl⟩
    have hrun := hboth.run op
    dsimp only
    rw [hrun.store]
    exact { h with aoiIndex := rfl, ghostStore := rfl, grids := h.grids.write ref hrun.grid }
  · exact h

theorem applyEntityEnter (h : AgreeBut c own s s') (zid : ZoneID) (id : EntityID) (type : String)
    (pos : Vector3) (now : Time) : AgreeBut c own (s.applyEntityEnter zid id type pos now)
      (s'.applyEntityEnter zid id type pos now) := by
  unfold Store.applyEntityEnter
  rw [h.ghostTTL]
  exact h.onReplicas zid (.enter zid id pos _)

theorem applyEntityUpdate (h : AgreeBut c own s s') (zid : ZoneID) (id : EntityID) (pos : Vector3)
    (now : Time) : AgreeBut c own (s.applyEntityUpdate zid id pos now)
      (s'.applyEntityUpdate zid id pos now) := by
  unfold Store.applyEntityUpdate
  rw [h.ghostTTL]
  exact h.onReplicas zid (.update id pos _)

theorem reconcileNeighborGhosts (h : AgreeBut c own s s') (querier : Option NeighborQuerier)
    (owner neighbor : ZoneID) (stamp : ℕ → Time) (now : EntityID → Time) (order : List EntityID) :
    AgreeBut c own (s.reconcileNeighborGhosts querier owner neighbor stamp now order)
      (s'.reconcileNeighborGhosts querier owner neighbor stamp now order) := by
  unfold Store.reconcileNeighborGhosts
  rw [h.zones, h.ghostTTL, h.aoiRadius]
  split
  · exact h.onReplicas owner (.reconcile neighbor _ _ now order)
  · exact h

theorem openIndex (h : AgreeBut c own s s') (zid : ZoneID) (state : Option SerializedAOI)
    (order : List EntityID) :
    AgreeBut c own (s.openIndex zid state order) (s'.openIndex zid state order) := by
  unfold Store.openIndex
  simp only [h.aoiIndex, h.ghostStore, h.aoiRadius, h.grids.next]
  split
  · exact h
  · exact { h with
      aoiIndex := rfl, ghostStore := rfl, aoiRadius := rfl
      grids := h.grids.alloc (.refl own _) }

end AgreeBut

end Store

end SpatialServer

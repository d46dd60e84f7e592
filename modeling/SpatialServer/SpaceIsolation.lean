import SpatialServer.CoherentRuns

/-!
# Isolation of Spaces

Nothing checks at publishing time that observer and subject belong to the same
Space. What isolates Spaces is that a grid lists only entities of its zone and
that the entities of a zone share their Space, which the derivation at the time
of adding provides for zones assigned with a Space. The invariant here does not
need the indexes to be coherent: an identifier may be added again while it is
in use, as long as its Space stays the same.
-/
namespace SpatialServer

open Runs

structure Isolated (s : Store) : Prop where
  own_grids : OwnGrids s.zones s.grids s.aoiRadius
  zone_sim : ∀ id z, s.entityZone.get id = some z →
    ∃ sim, s.zones.get z = some sim ∧ (sim.entities.get id).isSome
  member : ∀ z sim id r, s.zones.get z = some sim → sim.entities.get id = some r →
    (s.entities.get id).isSome ∧ r < s.objects.next ∧ (s.objects.cell r).id = id
  object : ∀ id r, s.entities.get id = some r → r < s.objects.next ∧ (s.objects.cell r).id = id
  not_ghost : ∀ id, (s.entities.get id).isSome → isGhostID id = false
  listed : ∀ z sim key id, s.zones.get z = some sim → id ∈ (s.grids.cell sim.aoi).cell key →
    isGhostID id = false → (sim.entities.get id).isSome
  visible : ∀ o st x, s.entityAOI.get o = some st → (st.visible.get x).isSome →
    isGhostID x = false → (s.entities.get x).isSome ∧ s.spaceOf x = s.spaceOf o
  space : ∀ z sim a b, s.zones.get z = some sim → (sim.entities.get a).isSome →
    (sim.entities.get b).isSome → s.spaceOf a = s.spaceOf b
  zone_space : ∀ z sim zr a, s.zones.get z = some sim → sim.zone = some zr → zr.runtimeID ≠ "" →
    (sim.entities.get a).isSome → s.spaceOf a = zr.runtimeID

/-- If both ends of the event are live, they belong to the same Space. -/
def Event.Within (s : Store) (evt : Event) : Prop :=
  (s.entities.get evt.observer).isSome → (s.entities.get evt.entityID).isSome →
    s.spaceOf evt.observer = s.spaceOf evt.entityID

/-- The Space the entity ends up in: that of its zone if the zone has one. -/
def Store.spaceIn (s : Store) (e : Entity) : RuntimeID :=
  match s.zones.get (targetZone e) with
  | some sim => (deriveSpace sim e).runtimeID
  | none => e.runtimeID

/-- The entity joins only entities of its own Space, and does not carry a live
identifier over into another Space. -/
def Store.JoinsOwnSpace (s : Store) (e : Entity) : Prop :=
  isGhostID e.id = false ∧ (∀ r ∈ s.entities.get e.id, (s.objects.cell r).runtimeID = s.spaceIn e) ∧
    ∀ sim ∈ s.zones.get (targetZone e), ∀ id ∈ sim.entities.keys, s.spaceOf id = s.spaceIn e

instance (s : Store) (e : Entity) : Decidable (s.JoinsOwnSpace e) :=
  inferInstanceAs (Decidable (_ ∧ _ ∧ _))

namespace Isolated

variable {s s' : Store}

theorem empty : Isolated Store.empty := by
  constructor
  case own_grids => constructor <;> simp [Store.empty]
  all_goals simp [Store.empty]

/-- An identifier that a range query of the zone returns, if it is live, is in
the entity map of the zone. -/
theorem member_of_mem_query (h : Isolated s) {z : ZoneID} {sim : ZoneSim}
    (hsim : s.zones.get z = some sim) {pos : Vector3} {id : EntityID}
    (hid : id ∈ (s.grids.cell sim.aoi).query pos) (hlive : (s.entities.get id).isSome) :
    (sim.entities.get id).isSome := by
  obtain ⟨key, -, hmem⟩ := (AOI.mem_query ..).mp hid
  exact h.listed z sim key id hsim hmem (h.not_ghost id hlive)

theorem spaceOf_congr (he : s'.entities = s.entities)
    (ho : ∀ r, (s'.objects.cell r).runtimeID = (s.objects.cell r).runtimeID) (id : EntityID) :
    s'.spaceOf id = s.spaceOf id := by
  unfold Store.spaceOf
  rw [he]
  split
  · exact ho _
  · rfl

/-- Objects may change their positions, and the lists of a grid may gain
members of the zone and replicas. -/
theorem congr (h : Isolated s) (hm : Store.SameMaps s s') (hn : s'.objects.next = s.objects.next)
    (ho : ∀ r, (s'.objects.cell r).id = (s.objects.cell r).id ∧
      (s'.objects.cell r).runtimeID = (s.objects.cell r).runtimeID)
    (hgrids : OwnGrids s.zones s'.grids s.aoiRadius)
    (hlisted : ∀ z sim key id, s.zones.get z = some sim →
      id ∈ (s'.grids.cell sim.aoi).cell key → isGhostID id = false →
      (sim.entities.get id).isSome) : Isolated s' := by
  have hspace : ∀ id, s'.spaceOf id = s.spaceOf id :=
    spaceOf_congr hm.entities fun r => (ho r).2
  constructor
  case own_grids => rw [hm.zones, hm.aoiRadius]; exact hgrids
  case zone_sim => rw [hm.entityZone, hm.zones]; exact h.zone_sim
  case member =>
    intro z sim id r hsim hr
    rw [hm.zones] at hsim
    rw [hm.entities, hn, (ho r).1]
    exact h.member z sim id r hsim hr
  case object =>
    intro id r hr
    rw [hm.entities] at hr
    rw [hn, (ho r).1]
    exact h.object id r hr
  case not_ghost => rw [hm.entities]; exact h.not_ghost
  case listed => rw [hm.zones]; exact hlisted
  case visible =>
    intro o st x hst hx hghost
    rw [hm.entityAOI] at hst
    rw [hm.entities, hspace, hspace]
    exact h.visible o st x hst hx hghost
  case space =>
    intro z sim a b hsim ha hb
    rw [hm.zones] at hsim
    rw [hspace, hspace]
    exact h.space z sim a b hsim ha hb
  case zone_space =>
    intro z sim zr a hsim hzr hne ha
    rw [hm.zones] at hsim
    rw [hspace]
    exact h.zone_space z sim zr a hsim hzr hne ha

theorem setObject (h : Isolated s) {r : ℕ} {e : Entity} (hid : e.id = (s.objects.cell r).id)
    (hspace : e.runtimeID = (s.objects.cell r).runtimeID) : Isolated (s.setObject r e) := by
  refine h.congr (.setObject s r e) rfl (fun q => ?_) h.own_grids h.listed
  by_cases hq : q = r
  · subst q; simp [Store.setObject, hid, hspace]
  · simp [Store.setObject, hq]

/-- Rewriting a grid that keeps its parameters and lists no stranger. -/
theorem updateGrid (h : Isolated s) (ref : ℕ) {f : AOI → AOI}
    (hsize : (f (s.grids.cell ref)).cellSize = (s.grids.cell ref).cellSize)
    (hrange : (f (s.grids.cell ref)).cellRange = (s.grids.cell ref).cellRange)
    (hmem : ∀ key id, id ∈ (f (s.grids.cell ref)).cell key → isGhostID id = false →
      id ∈ (s.grids.cell ref).cell key ∨
        ∀ z sim, s.zones.get z = some sim → sim.aoi = ref → (sim.entities.get id).isSome) :
    Isolated (s.updateGrid ref f) := by
  refine h.congr ⟨rfl, rfl, rfl, rfl, rfl, rfl⟩ rfl (fun _ => ⟨rfl, rfl⟩)
    (h.own_grids.write hsize hrange) fun z sim key id hsim hid hghost => ?_
  by_cases href : sim.aoi = ref
  · subst ref
    simp only [Store.updateGrid, Heap.cell_write_self] at hid
    rcases hmem key id hid hghost with hold | hnew
    · exact h.listed z sim key id hsim hold hghost
    · exact hnew z sim hsim rfl
  · simp only [Store.updateGrid, Heap.cell_write_ne _ _ href] at hid
    exact h.listed z sim key id hsim hid hghost

theorem moveOnGrid (h : Isolated s) (id : EntityID) (pos : Vector3) :
    Isolated (s.moveOnGrid id pos) := by
  unfold Store.moveOnGrid
  split
  · next ref href =>
    refine h.updateGrid ref (by simp) (by simp) fun key x hx _ => ?_
    by_cases hne : x = id
    · -- the entity is a member of the one zone that owns the grid
      right
      intro z sim hsim haoi
      unfold Store.gridRefOf at href
      split at href
      · next zid hzid =>
        obtain ⟨sim', hsim', hmem⟩ := h.zone_sim id zid hzid
        simp only [hsim', Option.map_some, Option.some.injEq] at href
        obtain rfl := h.own_grids.inj z zid sim sim' hsim hsim' (haoi.trans href.symm)
        obtain rfl : sim = sim' := Option.some.inj (hsim.symm.trans hsim')
        exact hne ▸ hmem
      · exact absurd href (by simp)
    · exact .inl (((AOI.agree_move _ pos hne).mem_cell_iff key).mp hx)
  · exact h

theorem detectEntity (h : Isolated s) (zid : ZoneID) (sim : ZoneSim) (now : EntityID → Time)
    (id : EntityID) : Isolated (Store.detectEntity zid sim now s id) := by
  unfold Store.detectEntity
  split
  · next r state _ _ =>
    dsimp only
    split
    · exact h
    · have hgrid : Isolated (s.updateGrid sim.aoi
          (·.enter (localGhostID id) state.lastPosition)) := by
        refine h.updateGrid sim.aoi (by simp) (by simp) fun key x hx hghost => .inl ?_
        have hne : x ≠ localGhostID id := by rintro rfl; simp at hghost
        exact ((AOI.agree_enter _ state.lastPosition hne).mem_cell_iff key).mp hx
      exact hgrid.congr ⟨rfl, rfl, rfl, rfl, rfl, rfl⟩ rfl (fun _ => ⟨rfl, rfl⟩) hgrid.own_grids
        hgrid.listed
  · exact h

theorem detectZoneBoundaries (h : Isolated s) (zid : ZoneID) (now : EntityID → Time)
    (order : List EntityID) : Isolated (s.detectZoneBoundaries zid now order) := by
  unfold Store.detectZoneBoundaries
  split
  · exact h
  · next sim _ =>
    exact List.foldlRecOn (motive := Isolated) _ _ h
      fun s' hs' id _ => hs'.detectEntity zid sim now id

theorem mem_cell_leave {a : AOI} {id x : EntityID} {key : CellKey}
    (h : x ∈ (a.leave id).cell key) : x ∈ a.cell key := by
  unfold AOI.leave at h
  split at h
  · exact h
  · next pos _ =>
    change x ∈ (a.dropFrom (a.cellKeyFor pos) id).cell key at h
    rw [AOI.cell_dropFrom] at h
    split_ifs at h with hk
    · subst key; exact List.mem_of_mem_erase h
    · exact h

theorem sweepGhost (h : Isolated s) (now : Time) (id : EntityID) :
    Isolated (Store.sweepGhost now s id) := by
  unfold Store.sweepGhost
  split
  · exact h
  · next ghost _ =>
    split
    · exact h
    · dsimp only
      split
      · next sim _ =>
        have hgrid : Isolated (s.updateGrid sim.aoi (·.leave id)) :=
          h.updateGrid sim.aoi (by simp) (by simp) fun key x hx _ => .inl (mem_cell_leave hx)
        exact hgrid.congr ⟨rfl, rfl, rfl, rfl, rfl, rfl⟩ rfl (fun _ => ⟨rfl, rfl⟩) hgrid.own_grids
          hgrid.listed
      · exact h.congr ⟨rfl, rfl, rfl, rfl, rfl, rfl⟩ rfl (fun _ => ⟨rfl, rfl⟩) h.own_grids h.listed

theorem sweepGhosts (h : Isolated s) (now : Time) (order : List EntityID) :
    Isolated (s.sweepGhosts now order) :=
  List.foldlRecOn (motive := Isolated) _ _ h fun _ hs' id _ => hs'.sweepGhost now id

theorem setAOI (h : Isolated s) {o : EntityID} {st : EntityAOIState}
    (hst : ∀ x, (st.visible.get x).isSome → isGhostID x = false →
      (s.entities.get x).isSome ∧ s.spaceOf x = s.spaceOf o) :
    Isolated { s with entityAOI := s.entityAOI.set o st } := by
  refine ⟨h.own_grids, h.zone_sim, h.member, h.object, h.not_ghost, h.listed, ?_, h.space,
    h.zone_space⟩
  intro p stp x hstp hx hghost
  simp only [Dict.get_set] at hstp
  split_ifs at hstp with hp
  · cases hstp
    rw [hp]
    exact hst x hx hghost
  · exact h.visible p stp x hstp hx hghost

/-! ## Zones and new entities -/

theorem newZone (h : Isolated s) {zid : ZoneID} (hfresh : s.zones.get zid = none)
    (zone : Option Zone) :
    Isolated { s with
      grids := s.grids.alloc (AOI.new defaultCellSize s.aoiRadius)
      zones := s.zones.set zid ⟨zone, s.grids.next, ∅⟩ } := by
  have hold : ∀ z sim, (s.zones.set zid ⟨zone, s.grids.next, ∅⟩).get z = some sim →
      sim.entities = ∅ ∧ z = zid ∨ s.zones.get z = some sim := by
    intro z sim hsim
    simp only [Dict.get_set] at hsim
    split_ifs at hsim with hz
    · cases hsim; exact .inl ⟨rfl, hz⟩
    · exact .inr hsim
  constructor
  case own_grids =>
    exact h.own_grids.alloc ⟨by norm_num [AOI.new, defaultCellSize], rfl⟩ zid zone ∅
  case zone_sim =>
    intro id z hz
    obtain ⟨sim, hsim, hmem⟩ := h.zone_sim id z hz
    have hne : z ≠ zid := by rintro rfl; simp [hfresh] at hsim
    exact ⟨sim, by simpa [hne] using hsim, hmem⟩
  case member =>
    intro z sim id r hsim hr
    rcases hold z sim hsim with ⟨hempty, -⟩ | hsim
    · simp [hempty] at hr
    · exact h.member z sim id r hsim hr
  case object => exact h.object
  case not_ghost => exact h.not_ghost
  case listed =>
    intro z sim key id hsim hid hghost
    simp only [Dict.get_set] at hsim
    split_ifs at hsim with hz
    · cases hsim
      rw [Heap.cell_alloc_next] at hid
      simp [AOI.new, AOI.cell] at hid
    · rw [Heap.cell_alloc_of_lt _ _ (h.own_grids.lt z sim hsim)] at hid
      exact h.listed z sim key id hsim hid hghost
  case visible => exact h.visible
  case space =>
    intro z sim a b hsim ha hb
    rcases hold z sim hsim with ⟨hempty, -⟩ | hsim
    · simp [hempty] at ha
    · exact h.space z sim a b hsim ha hb
  case zone_space =>
    intro z sim zr a hsim hzr hne ha
    rcases hold z sim hsim with ⟨hempty, -⟩ | hsim
    · simp [hempty] at ha
    · exact h.zone_space z sim zr a hsim hzr hne ha

theorem assignZone (h : Isolated s) (z : Zone) (hs : s.assignZone z = .ok s') : Isolated s' := by
  unfold Store.assignZone at hs
  split_ifs at hs with hex
  cases hs
  have hfresh : s.zones.get z.id = none := by simpa using hex
  have h' := h.newZone hfresh (some z)
  exact ⟨h'.own_grids, h'.zone_sim, h'.member, h'.object, h'.not_ghost, h'.listed, h'.visible,
    h'.space, h'.zone_space⟩

theorem ensureZone (h : Isolated s) (zid : ZoneID) : Isolated (s.ensureZone zid) := by
  unfold Store.ensureZone
  split
  · exact h
  · next hfresh => exact h.newZone hfresh none

theorem spaceOf_placeEntity (h : Isolated s) (zid : ZoneID) (sim : ZoneSim) (e : Entity)
    (id : EntityID) :
    (s.placeEntity zid sim e).spaceOf id = if id = e.id then e.runtimeID else s.spaceOf id := by
  simp only [Store.spaceOf, Store.placeEntity, Dict.get_set]
  split_ifs with hid
  · simp
  · cases hr : s.entities.get id with
    | none => rfl
    | some r => simp [Heap.cell_alloc_of_lt _ _ (h.object id r hr).1]

/-- An entity joins a zone whose members have its Space. -/
theorem placeEntity (h : Isolated s) {zid : ZoneID} {sim : ZoneSim}
    (hsim : s.zones.get zid = some sim) (e : Entity) (hghost : isGhostID e.id = false)
    (hsame : (s.entities.get e.id).isSome → s.spaceOf e.id = e.runtimeID)
    (hjoin : ∀ a, (sim.entities.get a).isSome → s.spaceOf a = e.runtimeID)
    (hzone : ∀ zr, sim.zone = some zr → zr.runtimeID ≠ "" → e.runtimeID = zr.runtimeID) :
    Isolated (s.placeEntity zid sim e) := by
  have hspace := h.spaceOf_placeEntity zid sim e
  -- an identifier that was live keeps its Space
  have hkept : ∀ id, (s.entities.get id).isSome →
      (s.placeEntity zid sim e).spaceOf id = s.spaceOf id := by
    intro id hlive
    rw [hspace]
    split_ifs with hid
    · subst hid; exact (hsame hlive).symm
    · rfl
  have hlive : ∀ z sim' id, s.zones.get z = some sim' → (sim'.entities.get id).isSome →
      (s.entities.get id).isSome := by
    intro z sim' id hsim' hid
    obtain ⟨r, hr⟩ := Option.isSome_iff_exists.mp hid
    exact (h.member z sim' id r hsim' hr).1
  -- every member of the zone, the new one included, has the Space of the new entity
  have hjoined : ∀ a, ((sim.entities.set e.id s.objects.next).get a).isSome →
      (s.placeEntity zid sim e).spaceOf a = e.runtimeID := by
    intro a ha
    rw [hspace]
    split_ifs with hid
    · rfl
    · exact hjoin a (by simpa [hid] using ha)
  constructor
  case own_grids =>
    refine (h.own_grids.setEntities hsim _).write ?_ ?_ <;> simp
  case zone_sim =>
    intro id z hz
    obtain ⟨rfl, rfl⟩ | ⟨hne, hz⟩ := Store.entityZone_placeEntity hz
    · exact ⟨{ sim with entities := sim.entities.set e.id s.objects.next },
        by simp [Store.placeEntity], by simp⟩
    · obtain ⟨old, hold, hmem⟩ := h.zone_sim id z hz
      obtain ⟨sim', hsim', hsame⟩ := Store.exists_zone_placeEntity hsim hold hne
      exact ⟨sim', hsim', hsame ▸ hmem⟩
  case member =>
    intro z sim' id r hsim' hr
    obtain ⟨rfl, rfl, rfl⟩ | ⟨old, hold, hr⟩ := Store.member_placeEntity hsim hsim' hr
    · simp [Store.placeEntity]
    · obtain ⟨hid, hlt, hobj⟩ := h.member z old id r hold hr
      obtain ⟨hlt', hcell⟩ := s.cell_placeEntity zid sim e hlt
      exact ⟨Store.isSome_entities_placeEntity zid sim e hid, hlt', hcell ▸ hobj⟩
  case object => exact Store.object_placeEntity h.object zid sim e
  case not_ghost =>
    intro id hid
    by_cases hne : id = e.id
    · rw [hne]; exact hghost
    · exact h.not_ghost id (by simpa [Store.placeEntity, hne] using hid)
  case listed =>
    intro z sim' key id hsim' hid hng
    simp only [Store.placeEntity, Dict.get_set] at hsim' hid
    split_ifs at hsim' with hz
    · cases hsim'
      by_cases hne : id = e.id
      · simp [hne]
      · rw [Heap.cell_write_self, (AOI.agree_enter _ e.position hne).mem_cell_iff] at hid
        simpa [hne] using h.listed zid sim key id hsim hid hng
    · rw [h.own_grids.cell_write_other hz hsim hsim'] at hid
      exact h.listed z sim' key id hsim' hid hng
  case visible =>
    intro o st x hst hx hng
    simp only [Store.placeEntity, Dict.get_set] at hst
    split_ifs at hst with ho
    · cases hst; simp at hx
    · obtain ⟨hxl, hxs⟩ := h.visible o st x hst hx hng
      refine ⟨Store.isSome_entities_placeEntity zid sim e hxl, ?_⟩
      rw [hkept x hxl, hspace o, if_neg ho]
      exact hxs
  case space =>
    intro z sim' a b hsim' ha hb
    obtain ⟨rfl, rfl⟩ | ⟨-, hsim'⟩ := Store.zones_placeEntity hsim'
    · rw [hjoined a ha, hjoined b hb]
    · rw [hkept a (hlive z sim' a hsim' ha), hkept b (hlive z sim' b hsim' hb)]
      exact h.space z sim' a b hsim' ha hb
  case zone_space =>
    intro z sim' zr a hsim' hzr hne ha
    obtain ⟨rfl, rfl⟩ | ⟨-, hsim'⟩ := Store.zones_placeEntity hsim'
    · rw [hjoined a ha]
      exact hzone zr hzr hne
    · rw [hkept a (hlive z sim' a hsim' ha)]
      exact h.zone_space z sim' zr a hsim' hzr hne ha

/-- The zone the entity joins, and the Space it derives there. -/
theorem exists_target (s : Store) (e : Entity) {sim : ZoneSim}
    (hsim : (s.ensureZone (Store.targetZone e)).zones.get (Store.targetZone e) = some sim) :
    (s.zones.get (Store.targetZone e) = some sim ∨ sim.zone = none ∧ sim.entities = ∅) ∧
      (Store.deriveSpace sim { e with zoneID := Store.targetZone e }).runtimeID = s.spaceIn e := by
  unfold Store.ensureZone at hsim
  split at hsim
  · next sim₀ hget =>
    refine ⟨.inl hsim, ?_⟩
    simp only [Store.spaceIn, hsim, Store.deriveSpace]
    split
    · split <;> rfl
    · rfl
  · next hget =>
    obtain rfl : ⟨none, s.grids.next, ∅⟩ = sim := by simpa using hsim
    exact ⟨.inr ⟨rfl, rfl⟩, by simp [Store.spaceIn, hget, Store.deriveSpace]⟩

theorem addEntity (h : Isolated s) (e : Entity) (hjoin : s.JoinsOwnSpace e) :
    Isolated (s.addEntity e) := by
  obtain ⟨hghost, hsame, hmembers⟩ := hjoin
  obtain ⟨sim, hsim, heq⟩ := s.exists_addEntity_eq e
  obtain ⟨htarget, hderived⟩ := exists_target s e hsim
  have hspaceOf : ∀ id, (s.ensureZone (Store.targetZone e)).spaceOf id = s.spaceOf id :=
    fun id => by simp [Store.spaceOf]
  rw [heq]
  apply (h.ensureZone (Store.targetZone e)).placeEntity hsim
  · simpa using hghost
  · intro hlive
    obtain ⟨r, hr⟩ := Option.isSome_iff_exists.mp hlive
    simp only [Store.deriveSpace_id, Store.ensureZone_entities] at hr
    rw [hderived, hspaceOf, Store.deriveSpace_id, ← hsame r hr]
    simp [Store.spaceOf, hr]
  · intro a ha
    rw [hderived, hspaceOf]
    rcases htarget with hget | ⟨-, hempty⟩
    · exact hmembers sim hget a ((Dict.mem_keys_iff _ _).mpr ha)
    · simp [hempty] at ha
  · intro zr hzr hne
    simp [Store.deriveSpace, hzr, hne]

/-- A new identifier may join any zone that was assigned with a Space. -/
theorem joinsOwnSpace_of_assigned (h : Isolated s) {e : Entity} {sim : ZoneSim} {zr : Zone}
    (hsim : s.zones.get (Store.targetZone e) = some sim) (hzr : sim.zone = some zr)
    (hne : zr.runtimeID ≠ "") (habs : s.entities.get e.id = none)
    (hghost : isGhostID e.id = false) : s.JoinsOwnSpace e := by
  have hspace : s.spaceIn e = zr.runtimeID := by
    simp [Store.spaceIn, hsim, Store.deriveSpace, hzr, hne]
  refine ⟨hghost, by simp [habs], fun sim' hsim' a ha => ?_⟩
  obtain rfl : sim' = sim := Option.some.inj (hsim'.symm.trans hsim)
  rw [hspace]
  exact h.zone_space _ sim' zr a hsim hzr hne ((Dict.mem_keys_iff _ _).mp ha)

end Isolated

namespace Game

/-- From `g` to `g'` entities moved and events stayed within their Spaces. -/
structure StaysWithin (g g' : Game) : Prop where
  publishes : Publishes (Event.Within g.toStore) g g'
  isolated : Isolated g'.toStore
  entities : g'.entities = g.entities
  space : ∀ id, g'.spaceOf id = g.spaceOf id

namespace StaysWithin

variable {g g' g'' : Game}

theorem refl (h : Isolated g.toStore) : StaysWithin g g := ⟨.refl g, h, rfl, fun _ => rfl⟩

theorem trans (h : StaysWithin g g') (h' : StaysWithin g' g'') : StaysWithin g g'' := by
  refine ⟨h.publishes.trans (h'.publishes.mono fun evt hevt => ?_), h'.isolated,
    h'.entities.trans h.entities, fun id => (h'.space id).trans (h.space id)⟩
  simpa only [Event.Within, h.entities, h.space] using hevt

theorem onStore {f : Store → Store} (hf : Isolated (f g.toStore))
    (hm : Store.SameMaps g.toStore (f g.toStore))
    (ho : ∀ r, ((f g.toStore).objects.cell r).runtimeID = (g.objects.cell r).runtimeID) :
    StaysWithin g (g.onStore f) :=
  ⟨.onStore f, hf, hm.entities, Isolated.spaceOf_congr hm.entities ho⟩

/-- Whoever is near an entity on its grid belongs to its Space. -/
theorem within_of_observer (h : Isolated g.toStore) {id : EntityID} {ref : ℕ}
    (href : g.gridRefOf id = some ref) {pos : Vector3} {obs : EntityID}
    (hobs : obs ∈ g.observersOf ref id pos) (hlive : (g.entities.get obs).isSome) :
    g.spaceOf obs = g.spaceOf id := by
  unfold Store.gridRefOf at href
  split at href
  · next zid hzid =>
    obtain ⟨sim, hsim, hmem⟩ := h.zone_sim id zid hzid
    obtain rfl : sim.aoi = ref := by simpa [hsim] using href
    have hquery := ((AOI.mem_entitiesInRange ..).mp (List.mem_filter.mp hobs).1).1
    exact h.space zid sim obs id hsim (h.member_of_mem_query hsim hquery hlive) hmem
  · exact absurd href (by simp)

theorem enqueueMove (h : Isolated g.toStore) (id : EntityID) (pos : Vector3) :
    StaysWithin g (g.enqueueMove id pos) := by
  refine ⟨.enqueueMove fun ref obs href hobs hlive _ => within_of_observer h href hobs hlive, ?_,
    ?_, fun _ => ?_⟩ <;> rw [toStore_enqueueMove]
  exact h

/-- An object is rewritten with its identity and Space, and moved on its grid. -/
theorem relocate (h : Isolated g.toStore) {r : ℕ} {e : Entity}
    (hid : e.id = (g.objects.cell r).id) (hspace : e.runtimeID = (g.objects.cell r).runtimeID)
    (id : EntityID) (pos : Vector3) :
    StaysWithin g ((g.onStore fun s => (s.setObject r e).moveOnGrid id pos).enqueueMove id pos) := by
  have hstore := (h.setObject hid hspace).moveOnGrid id pos
  refine trans (onStore hstore ((Store.SameMaps.setObject _ _ _).trans (.moveOnGrid _ _ _))
    fun q => ?_) (enqueueMove hstore id pos)
  rw [Store.objects_moveOnGrid]
  by_cases hq : q = r
  · subst q; simp [Store.setObject, hspace]
  · simp [Store.setObject, hq]

theorem dispatch (h : Isolated g.toStore) (c : Wire.Codec) (pkt : InboundPacket) :
    StaysWithin g (Game.dispatch c g pkt) := by
  obtain hnone | ⟨upd, hupd⟩ | ⟨st, payload, hst⟩ := dispatch_cases c g pkt
  · rw [hnone]; exact refl h
  · rw [hupd]
    unfold dispatchPositionUpdate
    split
    · exact refl h
    · next r _ =>
      exact relocate h (r := r)
        (e := { g.objects.cell r with position := upd.position.getD Vector3.zero }) rfl rfl _ _
  · rw [hst]
    refine ⟨.dispatchEntityState fun r ref obs _ href hobs hlive _ => ?_, ?_, ?_, fun _ => ?_⟩
    · exact within_of_observer h href hobs hlive
    all_goals rw [toStore_dispatchEntityState]
    exact h

theorem simulateEntity (h : Isolated g.toStore) (N : Numerics) (dt : Duration)
    (seed : EntityID → ℤ) (id : EntityID) : StaysWithin g (Game.simulateEntity N dt seed g id) := by
  unfold Game.simulateEntity
  split
  · exact refl h
  · next r hr =>
    dsimp only
    split
    · exact refl h
    · split
      · refine onStore (h.setObject (by simp) (by simp)) (.setObject _ _ _) fun q => ?_
        by_cases hq : q = r
        · subst q; simp [Store.setObject]
        · simp [Store.setObject, hq]
      · exact relocate h (by simp) (by simp) _ _

theorem simulate (h : Isolated g.toStore) (N : Numerics) (dt : Duration) (seed : EntityID → ℤ)
    (order : List EntityID) : StaysWithin g (Game.simulate N g dt seed order) :=
  List.foldlRecOn (motive := StaysWithin g) _ _ (refl h)
    fun _ hg' id _ => hg'.trans (simulateEntity hg'.isolated N dt seed id)

theorem visitObserver (h : Isolated g.toStore) {zid : ZoneID} {sim : ZoneSim}
    (hsim : g.zones.get zid = some sim) (order : VisitOrder) (id : EntityID) :
    StaysWithin g (Game.visitObserver sim order g id) := by
  unfold Game.visitObserver
  split
  · exact refl h
  · next r hr =>
    have hid : (g.objects.cell r).id = id := (h.member zid sim id r hsim hr).2.2
    have hmember : (sim.entities.get id).isSome := by simp [hr]
    -- whatever is in range and live is a member of the zone
    have hrange : ∀ x, x ∈ (g.grids.cell sim.aoi).entitiesInRange (g.objects.cell r).position
        g.aoiRadius → isGhostID x = false → (g.entities.get x).isSome ∧
          g.spaceOf x = g.spaceOf id := by
      intro x hx hghost
      obtain ⟨key, -, hcell⟩ := (AOI.mem_query ..).mp ((AOI.mem_entitiesInRange ..).mp hx).1
      have hx := h.listed zid sim key x hsim hcell hghost
      obtain ⟨rx, hrx⟩ := Option.isSome_iff_exists.mp hx
      exact ⟨(h.member zid sim x rx hsim hrx).1, h.space zid sim x id hsim hx hmember⟩
    simp only [hid]
    refine ⟨((Publishes.publishAll g ?_).trans (.publishAll _ ?_)).setAOI _, ?_, ?_, fun x => ?_⟩
    · intro evt hevt _ _
      obtain ⟨x, rx, hx, -, -, hrx, rfl⟩ := exists_of_mem_spawnsFor hevt
      have hghost : isGhostID x = false := h.not_ghost x (by simp [hrx])
      simp only [spawnEvent, hid, (h.object x rx hrx).2]
      rw [Dict.mem_range_iff, Dict.isSome_get_ofList] at hx
      exact (hrange x hx hghost).2.symm
    · intro evt hevt _ hlive
      obtain ⟨x, hx, -, rfl⟩ := exists_of_mem_despawnsFor hevt
      rw [Dict.mem_range_iff] at hx
      simp only [despawnEvent, hid] at hlive ⊢
      cases hst : g.entityAOI.get id with
      | none => simp [hst] at hx
      | some st =>
        rw [hst] at hx
        exact (h.visible id st x hst hx (h.not_ghost x hlive)).2.symm
    all_goals simp only [toStore_publishAll]
    · exact h.setAOI fun x hx hghost => hrange x (by simpa using hx) hghost
    · rfl

theorem updateVisibility (h : Isolated g.toStore) (zid : ZoneID) (order : VisitOrder) :
    StaysWithin g (g.updateVisibility zid order) := by
  unfold Game.updateVisibility
  split
  · exact refl h
  · next sim hsim =>
    refine (List.foldlRecOn (motive := fun g' => StaysWithin g g' ∧ g'.zones = g.zones) _ _
      ⟨refl h, rfl⟩ fun g' hg' id _ => ?_).1
    obtain ⟨aoi, haoi⟩ := (Shows.visitObserver sim order g' id).store
    refine ⟨hg'.1.trans (visitObserver hg'.1.isolated (hg'.2 ▸ hsim) order id), ?_⟩
    rw [haoi]
    exact hg'.2

end StaysWithin

/-! ## Runs -/

/-- Isolation of a whole game that nobody has left yet. -/
structure IsolatedGame (g : Game) : Prop where
  store : Isolated g.toStore
  sessions : g.sessionStates = ∅
  joins : ∀ cmd ∈ g.cmds.buffered, ∃ e, cmd = .add e

end Game

/-- Calls by which entities join, move and are shown, but do not leave. -/
def Call.joining : Call → Bool
  | .releaseZone _ | .removeEntity _ | .migrateEntityOut _ | .enqueueRemoveEntity _
  | .markDisconnected _ _ | .markReconnected _ => false
  | _ => true

namespace Game

/-- Every entity that is added joins its own Space. -/
def Separating (g : Game) (c : Call) : Prop :=
  c.joining ∧ ∀ e ∈ g.addedEntity c, g.JoinsOwnSpace e

instance (g : Game) (c : Call) : Decidable (g.Separating c) :=
  inferInstanceAs (Decidable (_ ∧ _))

namespace IsolatedGame

variable {g g' : Game}

theorem new (sid : ServerID) : IsolatedGame (Game.new sid) :=
  ⟨Isolated.empty, rfl, by simp [Game.new, Chan.make, Chan.buffered]⟩

theorem of_staysWithin (h : IsolatedGame g) (hw : StaysWithin g g') : IsolatedGame g' :=
  ⟨hw.isolated, hw.publishes.sessionStates.trans h.sessions, by
    rw [hw.publishes.cmds]; exact h.joins⟩

theorem addEntity (h : IsolatedGame g) {e : Entity} (hjoin : g.JoinsOwnSpace e) :
    IsolatedGame (g.addEntity e) :=
  ⟨h.store.addEntity e hjoin, h.sessions, h.joins⟩

end IsolatedGame

theorem StaysWithin.exists_events {g g' : Game} (h : StaysWithin g g') :
    ∃ evts, g'.events.sent = g.events.sent ++ evts ∧ ∀ evt ∈ evts, Event.Within g'.toStore evt := by
  obtain ⟨evts, hsent, hwithin⟩ := h.publishes.sent
  refine ⟨evts, hsent, fun evt hevt => ?_⟩
  simpa only [Event.Within, h.entities, h.space] using hwithin evt hevt

theorem staysWithin_dispatchNext {g : Game} (h : Isolated g.toStore) (c : Wire.Codec) :
    StaysWithin g (g.dispatchNext c) := by
  unfold dispatchNext
  split
  · next pkt ch _ =>
    have hinbox : StaysWithin g { g with inbox := ch } :=
      ⟨.of_events_eq rfl rfl rfl rfl rfl, h, rfl, fun _ => rfl⟩
    exact hinbox.trans (.dispatch hinbox.isolated c pkt)
  · exact .refl h

theorem isolatedGame_step (H : Host) {g : Game} {c : Call} (h : IsolatedGame g)
    (hc : g.Separating c) : IsolatedGame (step H g c) := by
  cases c with
  | assignZone z =>
    obtain heq | ⟨s, hs, heq⟩ := step_assignZone H g z <;> rw [heq]
    · exact h
    · exact ⟨h.store.assignZone z hs, h.sessions, h.joins⟩
  | addEntity e => exact h.addEntity (hc.2 e rfl)
  | migrateEntityIn snap target => exact h.addEntity (hc.2 _ rfl)
  | enqueueAddEntity e =>
    simp only [step, enqueueCmd]
    split
    · next ch hch =>
      refine ⟨h.store, h.sessions, fun cmd hcmd => ?_⟩
      rw [Chan.trySend_buffered hch, List.mem_append, List.mem_singleton] at hcmd
      rcases hcmd with hcmd | rfl
      · exact h.joins cmd hcmd
      · exact ⟨e, rfl⟩
    · exact ⟨h.store, h.sessions, h.joins⟩
  | receive pkt =>
    simp only [step, receive]
    split <;> exact ⟨h.store, h.sessions, h.joins⟩
  | drainEvent =>
    simp only [step, drainEvent]
    split <;> exact ⟨h.store, h.sessions, h.joins⟩
  | beginTick now => exact ⟨h.store, h.sessions, h.joins⟩
  | applyCmd =>
    simp only [step, applyCmd]
    split
    · next cmd ch hrecv =>
      have hbuf := (Chan.recv_eq_some hrecv).1
      obtain ⟨e, rfl⟩ := h.joins cmd (by simp [hbuf])
      have hrest : IsolatedGame { g with cmds := ch } :=
        ⟨h.store, h.sessions, fun cmd' hcmd' => h.joins cmd' (by simp [hbuf, hcmd'])⟩
      exact hrest.addEntity (hc.2 e (by simp [addedEntity, hrecv]))
    · exact h
  | dispatchNext => exact h.of_staysWithin (staysWithin_dispatchNext h.store H.codec)
  | simulate dt seed order => exact h.of_staysWithin (.simulate h.store H.numerics dt seed order)
  | detectZoneBoundaries zid now order =>
    exact ⟨h.store.detectZoneBoundaries zid now order, h.sessions, h.joins⟩
  | updateVisibility zid order => exact h.of_staysWithin (.updateVisibility h.store zid order)
  | sweepGhosts now order => exact ⟨h.store.sweepGhosts now order, h.sessions, h.joins⟩
  | sweepDisconnected now order =>
    have hnone : g.NoneExpired now := by simp [NoneExpired, h.sessions]
    simp only [step, sweepDisconnected_of_noneExpired hnone order]
    exact h
  | _ => exact absurd hc.1 (by simp [Call.joining])

theorem events_within_step (H : Host) {g : Game} {c : Call} (h : IsolatedGame g) :
    ∃ evts, (step H g c).events.sent = g.events.sent ++ evts ∧
      ∀ evt ∈ evts, Event.Within (step H g c).toStore evt := by
  cases c with
  | dispatchNext => exact (staysWithin_dispatchNext h.store H.codec).exists_events
  | simulate dt seed order =>
    exact (StaysWithin.simulate h.store H.numerics dt seed order).exists_events
  | updateVisibility zid order =>
    exact (StaysWithin.updateVisibility h.store zid order).exists_events
  | _ =>
    refine ⟨[], ?_, by simp⟩
    rw [List.append_nil]
    exact (silent_step H g _ (by simp) (by simp) (by simp)).1

theorem isolatedGame_exec (H : Host) (sid : ServerID) {calls : List Call}
    (h : Along (step H) Separating (new sid) calls) :
    IsolatedGame (exec (step H) (new sid) calls) :=
  exec_invariant IsolatedGame (fun _ _ hg hc => isolatedGame_step H hg hc) (.new sid) h

/-- If every added entity joins its own Space, every event that a call publishes
stays within one Space, and so does every grid. -/
theorem events_within_space (H : Host) (sid : ServerID) (calls : List Call) (c : Call)
    (h : Along (step H) Separating (new sid) (calls ++ [c])) :
    let g := exec (step H) (new sid) calls
    let g' := exec (step H) (new sid) (calls ++ [c])
    (∀ evt ∈ g'.events.sent.drop g.events.sent.length, ∀ ro rs,
      g'.entities.get evt.observer = some ro → g'.entities.get evt.entityID = some rs →
      (g'.objects.cell ro).runtimeID = (g'.objects.cell rs).runtimeID) ∧
    ∀ z sim a b ra rb p q, g'.zones.get z = some sim →
      g'.entities.get a = some ra → g'.entities.get b = some rb →
      a ∈ (g'.grids.cell sim.aoi).query p → b ∈ (g'.grids.cell sim.aoi).query q →
      (g'.objects.cell ra).runtimeID = (g'.objects.cell rb).runtimeID := by
  intro g g'
  have hg : IsolatedGame g := isolatedGame_exec H sid ((along_append ..).mp h).1
  have hg' : IsolatedGame g' := isolatedGame_exec H sid h
  have hspace : ∀ id r, g'.entities.get id = some r →
      g'.spaceOf id = (g'.objects.cell r).runtimeID := by
    intro id r hr
    simp [Store.spaceOf, hr]
  refine ⟨fun evt hevt ro rs hro hrs => ?_, fun z sim a b ra rb p q hsim hra hrb ha hb => ?_⟩
  · obtain ⟨evts, hsent, hwithin⟩ := events_within_step H (c := c) hg
    have hstep : step H g c = g' := by simp [g, g']
    rw [hstep] at hsent hwithin
    rw [hsent, List.drop_left] at hevt
    rw [← hspace _ ro hro, ← hspace _ rs hrs]
    exact hwithin evt hevt (by simp [hro]) (by simp [hrs])
  · rw [← hspace a ra hra, ← hspace b rb hrb]
    exact hg'.store.space z sim a b hsim
      (hg'.store.member_of_mem_query hsim ha (by simp [hra]))
      (hg'.store.member_of_mem_query hsim hb (by simp [hrb]))

/-- Clients that connect with any Space, followed by a tick up to its visibility
phase. -/
def connectCalls (zid : ZoneID) (es : List Entity) : List Call :=
  es.map .enqueueAddEntity ++ [.beginTick 1] ++ es.map (fun _ => .applyCmd) ++
    [.dispatchNext, .simulate 0 (fun _ => 0) [], .detectZoneBoundaries zid (fun _ => 0) []]

/-- Two clients of one assigned zone see each other, whatever Space they named. -/
theorem events_within_space_assigned :
    let calls := .assignZone ⟨"z1", "s1", ⟨0, 0⟩, 100⟩ :: connectCalls "z1"
      [{ Entity.new "c1" "avatar" "s1" with zoneID := "z1" },
        { Entity.new "c2" "avatar" "s2" with zoneID := "z1" }]
    let g' := exec (step (Host.steady .zero)) (new "gs")
      (calls ++ [.updateVisibility "z1" .any])
    (g'.objects.cell 0).runtimeID = (g'.objects.cell 1).runtimeID := by
  have hrun : Along (step (Host.steady .zero)) Separating (new "gs")
      ((.assignZone ⟨"z1", "s1", ⟨0, 0⟩, 100⟩ :: connectCalls "z1"
        [{ Entity.new "c1" "avatar" "s1" with zoneID := "z1" },
          { Entity.new "c2" "avatar" "s2" with zoneID := "z1" }]) ++
        [.updateVisibility "z1" .any]) := by
    decide +kernel
  exact (events_within_space _ _ _ _ hrun).1 ⟨.spawn, "s1", "c1", "c2", "avatar", .zero, []⟩
    (by decide +kernel) 0 1 (by decide +kernel) (by decide +kernel)

/-- Two clients that connect without a zone share the default zone, where no
Space is derived: each is told about the other across Spaces. -/
theorem strangers_meet_in_default_zone :
    let calls := connectCalls "default"
      [Entity.new "c1" "avatar" "s1", Entity.new "c2" "avatar" "s2"]
    let g := exec (step (Host.steady .zero)) (new "gs") calls
    let g' := exec (step (Host.steady .zero)) (new "gs")
      (calls ++ [.updateVisibility "default" .any])
    (∀ c ∈ calls, c.joining) ∧
      ∃ evt ∈ g'.events.sent.drop g.events.sent.length, ∃ ro rs,
        g'.entities.get evt.observer = some ro ∧ g'.entities.get evt.entityID = some rs ∧
          (g'.objects.cell ro).runtimeID ≠ (g'.objects.cell rs).runtimeID :=
  ⟨by decide, ⟨.spawn, "s1", "c1", "c2", "avatar", .zero, []⟩, by decide +kernel, 0, 1,
    by decide +kernel, by decide +kernel, by decide +kernel⟩

end Game

end SpatialServer

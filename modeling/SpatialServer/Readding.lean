import SpatialServer.Removal
import SpatialServer.GridPictures

/-!
# Adding an identifier again

Adding an entity overwrites what the maps of the server have of its identifier
and inserts it in the entity map and the grid of one zone. An earlier
incarnation is not taken out: neither out of another zone nor out of the cell
lists of the same grid, and the removal that follows finds only one of the two.
-/
namespace SpatialServer

open Runs

namespace AOI

variable {a : AOI} {id : EntityID}

/-- The identifier is stored at the position and listed in its cell only. -/
def PlacedAt (a : AOI) (id : EntityID) (pos : Vector3) : Prop :=
  a.positions.get id = some pos ∧ ∀ key, id ∈ a.cell key ↔ key = a.cellKeyFor pos

/-- No query finds an identifier that no cell lists. -/
theorem not_mem_query_of_unlisted (h : ∀ key, id ∉ a.cell key) (pos : Vector3) :
    id ∉ a.query pos := by
  rw [mem_query]
  rintro ⟨key, -, hmem⟩
  exact h key hmem

/-- Every cell is around some position, so that an identifier that no query finds
is in no cell. -/
theorem unlisted_of_not_mem_query {radius : ℚ} (hcov : a.Covers radius) (hradius : 0 ≤ radius)
    (h : ∀ pos, id ∉ a.query pos) (key : CellKey) : id ∉ a.cell key := by
  intro hmem
  have hne : a.cellSize ≠ 0 := hcov.1.ne'
  have hkey : a.cellKeyFor ⟨key.x * a.cellSize, 0, key.y * a.cellSize⟩ = key := by
    simp [cellKeyFor, hne]
  have hrange : 0 ≤ a.cellRange := by
    rw [hcov.2]
    exact Int.ceil_nonneg (div_nonneg hradius hcov.1.le)
  refine h ⟨key.x * a.cellSize, 0, key.y * a.cellSize⟩ ((mem_query a _ id).mpr ⟨key, ?_, hmem⟩)
  rw [hkey, mem_window]
  simpa using hrange

theorem placedAt_enter (h : ∀ key, id ∉ a.cell key) (pos : Vector3) :
    (a.enter id pos).PlacedAt id pos := by
  refine ⟨Dict.get_set_self _ _ _, fun key => ?_⟩
  rw [cellKeyFor_enter]
  simp only [enter, cell_setPosition, cell_appendTo]
  split_ifs with hkey
  · simp [hkey]
  · simp [hkey, h key]

/-- To leave takes back the entry that was made last, and no earlier one. -/
theorem count_leave_enter (a : AOI) (id : EntityID) (pos : Vector3) (key : CellKey) :
    (((a.enter id pos).leave id).cell key).count id = (a.cell key).count id := by
  have hpicture : (((a.enter id pos).leave id).picture.presence id).listed =
      (a.picture.presence id).listed := by
    rw [picture_leave, picture_enter]
    funext k
    by_cases hk : k = keyFor a.cellSize pos <;>
      simp [Picture.edit, Presence.leave, Presence.enter, picture, hk]
  exact congrFun hpicture key

end AOI

namespace Store

/-- The grid of some zone, in either index. -/
def IsGrid (s : Store) (ref : ℕ) : Prop :=
  (∃ z, s.gridOf z = some ref) ∨ ∃ z, s.aoiIndex.get z = some ref

/-- The added entity is in the map and the grid of its zone and of no other, at
its position, and after its removal it is in none. -/
structure Replaces (s : Store) (e : Entity) : Prop where
  member : ∀ z, ((s.addEntity e).member z e.id).isSome ↔ z = targetZone e
  grid : ∃ ref, (s.addEntity e).gridOf (targetZone e) = some ref ∧
    ((s.addEntity e).grids.cell ref).PlacedAt e.id e.position ∧
    ∀ q, (s.addEntity e).IsGrid q → q ≠ ref → ((s.addEntity e).grids.cell q).Lacks e.id
  removed_member : ∀ z, ((s.addEntity e).removeEntity e.id).member z e.id = none
  removed_query : ∀ q, ((s.addEntity e).removeEntity e.id).IsGrid q → ∀ pos,
    e.id ∉ (((s.addEntity e).removeEntity e.id).grids.cell q).query pos

/-- No other zone has the identifier in its map or its grid, and no cell of the
zone it is added to lists it. -/
structure Vacant (s : Store) (e : Entity) : Prop where
  member : ∀ z, z ≠ targetZone e → s.member z e.id = none
  others : ∀ q, s.IsGrid q → s.gridOf (targetZone e) ≠ some q → (s.grids.cell q).Lacks e.id
  cells : ∀ q, s.gridOf (targetZone e) = some q → ∀ key, e.id ∉ (s.grids.cell q).cell key

theorem member_addEntity (s : Store) (e : Entity) (z : ZoneID) :
    (s.addEntity e).member z e.id =
      if z = targetZone e then some s.objects.next else s.member z e.id := by
  obtain ⟨sim, hsim, heq⟩ := s.exists_addEntity_eq e
  rw [heq]
  by_cases hz : z = targetZone e
  · simp [member, placeEntity, hz]
  · have hensure : (s.ensureZone (targetZone e)).zones.get z = s.zones.get z := by
      unfold ensureZone
      split
      · rfl
      · simp [hz]
    simp [member, placeEntity, hz, hensure]

end Store

namespace Store

/-- What adding does to the grids: the one of the zone, which may be new, is
entered, and the others stay. -/
structure Entered (s : Store) (e : Entity) (ref : ℕ) (base : AOI) : Prop where
  base_eq : s.gridOf (targetZone e) = some ref ∧ base = s.grids.cell ref ∨
    s.gridOf (targetZone e) = none ∧ ref = s.grids.next ∧
      base = AOI.new defaultCellSize s.aoiRadius
  gridOf : ∀ z, (s.addEntity e).gridOf z = if z = targetZone e then some ref else s.gridOf z
  aoiIndex : (s.addEntity e).aoiIndex = s.aoiIndex
  cell_self : (s.addEntity e).grids.cell ref = base.enter e.id e.position
  cell_ne : ∀ q, q < s.grids.next → q ≠ ref → (s.addEntity e).grids.cell q = s.grids.cell q

theorem Entered.gridOf_self {s : Store} {e : Entity} {ref : ℕ} {base : AOI}
    (h : s.Entered e ref base) : (s.addEntity e).gridOf (targetZone e) = some ref :=
  (h.gridOf _).trans (if_pos rfl)

theorem exists_entered (s : Store) (e : Entity) : ∃ ref base, s.Entered e ref base := by
  obtain ⟨sim, hsim, heq⟩ := s.exists_addEntity_eq e
  rcases hzone : s.zones.get (targetZone e) with _ | old
  · -- the zone is new, and so is its grid
    have hensure : s.ensureZone (targetZone e) = { s with
        grids := s.grids.alloc (AOI.new defaultCellSize s.aoiRadius)
        zones := s.zones.set (targetZone e) ⟨none, s.grids.next, ∅⟩ } := by
      simp [ensureZone, hzone]
    rw [hensure] at hsim heq
    obtain rfl : (⟨none, s.grids.next, ∅⟩ : ZoneSim) = sim := by simpa using hsim
    refine ⟨s.grids.next, AOI.new defaultCellSize s.aoiRadius,
      .inr ⟨by simp [Store.gridOf, hzone], rfl, rfl⟩, fun z => ?_, by rw [heq]; rfl, ?_,
      fun q hq hne => ?_⟩
    · rw [heq]
      split_ifs with hz
      · simp [Store.gridOf, placeEntity, hz]
      · simp [Store.gridOf, placeEntity, hz]
    · simp [heq, placeEntity]
    · simp [heq, placeEntity, hne, Heap.cell_alloc_of_lt _ _ hq]
  · have hensure : s.ensureZone (targetZone e) = s := by simp [ensureZone, hzone]
    rw [hensure] at hsim heq
    obtain rfl : old = sim := Option.some.inj (hzone.symm.trans hsim)
    refine ⟨old.aoi, s.grids.cell old.aoi, .inl ⟨by simp [Store.gridOf, hzone], rfl⟩, fun z => ?_,
      by rw [heq]; rfl, ?_, fun q _ hne => ?_⟩
    · rw [heq]
      split_ifs with hz
      · simp [Store.gridOf, placeEntity, hz]
      · simp [Store.gridOf, placeEntity, hz]
    · simp [heq, placeEntity]
    · simp [heq, placeEntity, hne]

theorem entityZone_addEntity_self (s : Store) (e : Entity) :
    (s.addEntity e).entityZone.get e.id = some (targetZone e) := by
  obtain ⟨sim, -, heq⟩ := s.exists_addEntity_eq e
  simp [heq, placeEntity]

/-- The removal of an entity leaves the grid of its zone. -/
theorem removeEntity_grids {s : Store} {id : EntityID} {z : ZoneID} {ref : ℕ}
    (hzone : s.entityZone.get id = some z) (href : s.gridOf z = some ref) :
    (s.removeEntity id).grids = (s.updateGrid ref (·.leave id)).grids := by
  obtain ⟨sim, hsim, rfl⟩ := Option.map_eq_some_iff.mp href
  simp [removeEntity, hzone, hsim]

theorem gridOf_removeEntity (s : Store) (id : EntityID) (z : ZoneID) :
    (s.removeEntity id).gridOf z = s.gridOf z := by
  rcases hzone : s.entityZone.get id with _ | zid
  · rw [removeEntity_of_entityZone_eq_none hzone]
  · rcases hsim : s.zones.get zid with _ | sim
    · simp [removeEntity, Store.gridOf, hzone, hsim]
    · by_cases hz : z = zid
      · subst hz
        simp [removeEntity, Store.gridOf, hzone, hsim]
      · simp [removeEntity, Store.gridOf, hzone, hsim, hz]

theorem aoiIndex_removeEntity (s : Store) (id : EntityID) :
    (s.removeEntity id).aoiIndex = s.aoiIndex := by
  rcases hzone : s.entityZone.get id with _ | zid
  · rw [removeEntity_of_entityZone_eq_none hzone]
  · rcases hsim : s.zones.get zid with _ | sim <;> simp [removeEntity, hzone, hsim, updateGrid]

theorem isGrid_removeEntity (s : Store) (id : EntityID) (q : ℕ) :
    (s.removeEntity id).IsGrid q ↔ s.IsGrid q := by
  simp only [IsGrid, gridOf_removeEntity, aoiIndex_removeEntity]

end Store

namespace Housed

variable {s : Store} {e : Entity} {ref : ℕ} {base : AOI}

theorem isGrid_lt (h : Housed s) {q : ℕ} (hq : s.IsGrid q) : q < s.grids.next := by
  obtain ⟨z, hz⟩ | ⟨z, hz⟩ := hq
  · obtain ⟨sim, hsim, rfl⟩ := Option.map_eq_some_iff.mp hz
    exact h.own_grids.lt z sim hsim
  · exact h.index_lt z q hz

theorem covers_base (h : Housed s) (hent : s.Entered e ref base) : base.Covers s.aoiRadius := by
  obtain ⟨hgrid, rfl⟩ | ⟨-, -, rfl⟩ := hent.base_eq
  · obtain ⟨sim, hsim, rfl⟩ := Option.map_eq_some_iff.mp hgrid
    exact h.own_grids.covers _ sim hsim
  · exact ⟨by norm_num [AOI.new, defaultCellSize], rfl⟩

/-- A grid is another one after adding if and only if it was another one before. -/
theorem isGrid_addEntity_iff (h : Housed s) (hent : s.Entered e ref base) (q : ℕ) :
    (s.addEntity e).IsGrid q ∧ q ≠ ref ↔
      s.IsGrid q ∧ s.gridOf (Store.targetZone e) ≠ some q := by
  constructor
  · rintro ⟨hq, hne⟩
    refine ⟨?_, ?_⟩
    · obtain ⟨z, hz⟩ | ⟨z, hz⟩ := hq
      · rw [hent.gridOf] at hz
        split_ifs at hz
        · exact absurd (Option.some.inj hz).symm hne
        · exact .inl ⟨z, hz⟩
      · exact .inr ⟨z, by rwa [hent.aoiIndex] at hz⟩
    · obtain ⟨hgrid, -⟩ | ⟨hgrid, -, -⟩ := hent.base_eq <;> rw [hgrid]
      · exact fun heq => hne (Option.some.inj heq).symm
      · simp
  · rintro ⟨hq, hne⟩
    refine ⟨?_, ?_⟩
    · obtain ⟨z, hz⟩ | ⟨z, hz⟩ := hq
      · refine .inl ⟨z, ?_⟩
        have hother : z ≠ Store.targetZone e := by
          rintro rfl
          exact hne hz
        rw [hent.gridOf, if_neg hother, hz]
      · exact .inr ⟨z, by rw [hent.aoiIndex, hz]⟩
    · rintro rfl
      obtain ⟨hgrid, -⟩ | ⟨-, rfl, -⟩ := hent.base_eq
      · exact hne hgrid
      · exact absurd (h.isGrid_lt hq) (lt_irrefl _)

/-- The grids after adding and removing: the entered one is left again. -/
theorem cell_removed (hent : s.Entered e ref base) (q : ℕ) :
    ((s.addEntity e).removeEntity e.id).grids.cell q =
      if q = ref then (base.enter e.id e.position).leave e.id else (s.addEntity e).grids.cell q := by
  rw [Store.removeEntity_grids (s.entityZone_addEntity_self e) hent.gridOf_self, Store.updateGrid,
    ← hent.cell_self]
  split_ifs with hq
  · subst hq; simp
  · simp [hq]

/-- The other grids stay as they are. -/
theorem cell_other (h : Housed s) (hent : s.Entered e ref base) {q : ℕ} (hq : s.IsGrid q)
    (hne : s.gridOf (Store.targetZone e) ≠ some q) :
    (s.addEntity e).grids.cell q = s.grids.cell q :=
  hent.cell_ne q (h.isGrid_lt hq) ((h.isGrid_addEntity_iff hent q).mpr ⟨hq, hne⟩).2

/-- What the entered grid lists after the removal it listed before the addition. -/
theorem unlisted_of_removed_query (h : Housed s) (hent : s.Entered e ref base)
    (hquery : ∀ pos, e.id ∉ (((s.addEntity e).removeEntity e.id).grids.cell ref).query pos)
    (key : CellKey) : e.id ∉ base.cell key := by
  rw [cell_removed hent, if_pos rfl] at hquery
  have hcov : ((base.enter e.id e.position).leave e.id).Covers s.aoiRadius := by
    obtain ⟨hsize, hrange⟩ := h.covers_base hent
    rw [AOI.Covers, AOI.leave_cellSize, AOI.leave_cellRange]
    exact ⟨hsize, hrange⟩
  have hunlisted := AOI.unlisted_of_not_mem_query hcov h.radius_nonneg hquery key
  rw [← List.count_eq_zero, AOI.count_leave_enter, List.count_eq_zero] at hunlisted
  exact hunlisted

theorem vacant_of_replaces (h : Housed s) (hrep : s.Replaces e) : s.Vacant e := by
  obtain ⟨ref, base, hent⟩ := s.exists_entered e
  constructor
  case member =>
    intro z hz
    have hnot : ¬((s.addEntity e).member z e.id).isSome := fun hsome =>
      hz ((hrep.member z).mp hsome)
    rw [s.member_addEntity, if_neg hz] at hnot
    simpa using hnot
  case others =>
    intro q hq hne
    obtain ⟨q', hq', -, hlacks⟩ := hrep.grid
    obtain rfl : ref = q' := Option.some.inj (hent.gridOf_self.symm.trans hq')
    obtain ⟨hgrid, hqne⟩ := (h.isGrid_addEntity_iff hent q).mpr ⟨hq, hne⟩
    rw [← h.cell_other hent hq hne]
    exact hlacks q hgrid hqne
  case cells =>
    intro q hq
    obtain ⟨hgrid, rfl⟩ | ⟨hnone, -, -⟩ := hent.base_eq
    · obtain rfl : ref = q := Option.some.inj (hgrid.symm.trans hq)
      exact h.unlisted_of_removed_query hent (hrep.removed_query ref
        ((Store.isGrid_removeEntity _ _ _).mpr (.inl ⟨_, hent.gridOf_self⟩)))
    · rw [hnone] at hq
      cases hq

theorem replaces_of_vacant (h : Housed s) (hvac : s.Vacant e) : s.Replaces e := by
  obtain ⟨ref, base, hent⟩ := s.exists_entered e
  have hbase : ∀ key, e.id ∉ base.cell key := by
    obtain ⟨hgrid, rfl⟩ | ⟨-, -, rfl⟩ := hent.base_eq
    · exact hvac.cells ref hgrid
    · exact fun key => List.count_eq_zero.mp ((AOI.new_lacks _ _ e.id).2 key)
  have hothers : ∀ q, (s.addEntity e).IsGrid q → q ≠ ref →
      ((s.addEntity e).grids.cell q).Lacks e.id := by
    intro q hq hne
    obtain ⟨hold, hother⟩ := (h.isGrid_addEntity_iff hent q).mp ⟨hq, hne⟩
    rw [h.cell_other hent hold hother]
    exact hvac.others q hold hother
  constructor
  case member =>
    intro z
    rw [s.member_addEntity]
    split_ifs with hz
    · simp [hz]
    · simp [hvac.member z hz, hz]
  case grid =>
    refine ⟨ref, hent.gridOf_self, ?_, hothers⟩
    rw [hent.cell_self]
    exact AOI.placedAt_enter hbase e.position
  case removed_member =>
    intro z
    rw [Store.member_removeEntity, s.entityZone_addEntity_self, s.member_addEntity]
    by_cases hz : z = Store.targetZone e
    · simp [hz]
    · simp [hz, Ne.symm hz, hvac.member z hz]
  case removed_query =>
    intro q hq
    rw [Store.isGrid_removeEntity] at hq
    rw [cell_removed hent]
    split_ifs with hqref
    · refine AOI.not_mem_query_of_unlisted fun key => ?_
      rw [← List.count_eq_zero, AOI.count_leave_enter, List.count_eq_zero]
      exact hbase key
    · exact (hothers q hq hqref).not_mem_query

/-- Adding replaces an earlier incarnation if and only if there is nothing to
replace: no other zone has the identifier, and no cell of its own zone lists it. -/
theorem replaces_iff_vacant (h : Housed s) (e : Entity) : s.Replaces e ↔ s.Vacant e :=
  ⟨h.vacant_of_replaces, h.replaces_of_vacant⟩

/-- An identifier that the server does not know is added beside another one. -/
theorem replaces_new_identifier :
    let s := Store.empty.addEntity (Entity.new "e1" "player" "")
    (s.entities.get "e1").isSome ∧ s.Replaces (Entity.new "e2" "player" "") := by
  intro s
  have hzones : s.zones =
      (∅ : Dict ZoneID ZoneSim).set defaultZoneID ⟨none, 0, (∅ : Dict EntityID ℕ).set "e1" 0⟩ := rfl
  have hgrid : ∀ z, s.gridOf z = if z = defaultZoneID then some 0 else none := by
    intro z
    rw [Store.gridOf, hzones, Dict.get_set]
    split_ifs <;> rfl
  have htarget : s.gridOf (Store.targetZone (Entity.new "e2" "player" "")) = some 0 := rfl
  have hcell : s.grids.cell 0 =
      (AOI.new defaultCellSize defaultAOIRadius).enter "e1" Vector3.zero := rfl
  have hs : Housed s := Housed.empty.change (.addEntity (Entity.new "e1" "player" ""))
  refine ⟨rfl, (replaces_iff_vacant hs _).mpr ⟨?_, ?_, ?_⟩⟩
  · intro z hz
    have hne : z ≠ defaultZoneID := hz
    rw [Store.member, hzones, Dict.get_set_ne _ _ hne]
    rfl
  · rintro q (⟨z, hz⟩ | ⟨z, hz⟩) hne
    · rw [hgrid] at hz
      split_ifs at hz
      exact absurd (htarget.trans hz) hne
    · cases hz
  · intro q hq key
    obtain rfl : 0 = q := Option.some.inj (htarget.symm.trans hq)
    rw [hcell, ← List.count_eq_zero]
    exact ((AOI.agree_enter _ _ (by decide)).lacks (AOI.new_lacks _ _ _)).2 key

end Housed

/-- Where the indexes agree, an identifier that is present is never vacant: its home is
another zone, or the cell of its position lists it. -/
theorem Indexed.not_vacant {s : Store} (h : Indexed s) {e : Entity}
    (hpresent : (s.entities.get e.id).isSome) : ¬s.Vacant e := by
  intro hvac
  rw [← h.keys_zone] at hpresent
  obtain ⟨z, hz⟩ := Option.isSome_iff_exists.mp hpresent
  obtain ⟨sim, r, hsim, hmember, hr⟩ := (h.zone_iff e.id z).mp hz
  by_cases htarget : z = Store.targetZone e
  · subst htarget
    have hlists := (h.holds e.id _ sim r hz hsim hr).lists
    exact hvac.cells sim.aoi (by simp [Store.gridOf, hsim]) _ hlists.2
  · have hnone := hvac.member z htarget
    simp [Store.member, hsim, hmember] at hnone

/-- One entity in the default zone is added again, in another cell and then in
another zone: after its removal the first incarnation is found in its old cell,
and two zones have it in their maps. -/
theorem readded_entity_stays :
    let s := (exec (Game.nodeStep (Host.steady Vector3.zero)) (Game.new "gs-1")
      [.own (.addEntity (Entity.new "e1" "player" ""))]).toStore
    let moved := { Entity.new "e1" "player" "" with position := ⟨150, 0, 0⟩ }
    let elsewhere := { Entity.new "e1" "player" "" with zoneID := "z2" }
    Housed s ∧ (s.entities.get "e1").isSome ∧
      "e1" ∈ (((s.addEntity moved).removeEntity "e1").grids.cell 0).query Vector3.zero ∧
      ((s.addEntity elsewhere).member defaultZoneID "e1").isSome ∧
      ((s.addEntity elsewhere).member "z2" "e1").isSome ∧
      ¬s.Replaces moved ∧ ¬s.Replaces elsewhere := by
  intro s moved elsewhere
  have hfound :
      "e1" ∈ (((s.addEntity moved).removeEntity "e1").grids.cell 0).query Vector3.zero := by
    decide +kernel
  have hgrid : ((s.addEntity moved).removeEntity "e1").gridOf defaultZoneID = some 0 := by
    decide +kernel
  have hstale : ((s.addEntity elsewhere).member defaultZoneID "e1").isSome := by decide +kernel
  refine ⟨(Game.sound_exec _ "gs-1" _).housed, by decide +kernel, hfound, hstale, by decide +kernel,
    fun h => ?_, fun h => ?_⟩
  · exact h.removed_query 0 (.inl ⟨_, hgrid⟩) Vector3.zero hfound
  · exact absurd ((h.member defaultZoneID).mp hstale) (by decide)

end SpatialServer

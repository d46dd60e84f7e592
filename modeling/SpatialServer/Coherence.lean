import SpatialServer.GameRuns

/-!
# Coherence of the indexes

Six maps in three structures record where an entity is. The invariant below
relates them all: the three maps keyed by entities have the same keys, the zone
of an entity is the one whose entity map holds its object, and the grid of that
zone stores exactly the position of the object, once. Replicas live in the same
grids, which is why every statement about a grid is about identifiers that are
not replica names.
-/
namespace SpatialServer

/-- Every zone has an allocated grid of its own, built for the radius. -/
structure OwnGrids (zones : Dict ZoneID ZoneSim) (grids : Heap AOI) (radius : ℚ) : Prop where
  lt : ∀ z sim, zones.get z = some sim → sim.aoi < grids.next
  covers : ∀ z sim, zones.get z = some sim → (grids.cell sim.aoi).Covers radius
  inj : ∀ z z' sim sim', zones.get z = some sim → zones.get z' = some sim' →
    sim.aoi = sim'.aoi → z = z'

namespace OwnGrids

variable {zones : Dict ZoneID ZoneSim} {grids : Heap AOI} {radius : ℚ}

/-- Rewriting the grid of one zone leaves the grid of every other zone alone. -/
theorem cell_write_other (h : OwnGrids zones grids radius) {z zid : ZoneID} {sim sim' : ZoneSim}
    (hz : z ≠ zid) (hsim : zones.get zid = some sim) (hsim' : zones.get z = some sim') (a : AOI) :
    (grids.write sim.aoi a).cell sim'.aoi = grids.cell sim'.aoi := by
  apply Heap.cell_write_ne
  intro heq
  exact hz (h.inj z zid sim' sim hsim' hsim heq)

/-- So a grid only has to treat an identifier as before in its own zone. -/
theorem agree_write (h : OwnGrids zones grids radius) {z zid : ZoneID} {sim sim' : ZoneSim}
    (hsim : zones.get zid = some sim) (hsim' : zones.get z = some sim') {x : EntityID} {a : AOI}
    (ha : z = zid → AOI.Agree x (grids.cell sim.aoi) a) :
    AOI.Agree x (grids.cell sim'.aoi) ((grids.write sim.aoi a).cell sim'.aoi) := by
  by_cases hz : z = zid
  · subst z
    obtain rfl : sim = sim' := Option.some.inj (hsim.symm.trans hsim')
    rw [Heap.cell_write_self]
    exact ha rfl
  · rw [h.cell_write_other hz hsim hsim']
    exact .refl x _

theorem alloc (h : OwnGrids zones grids radius) {a : AOI} (ha : a.Covers radius) (zid : ZoneID)
    (zone : Option Zone) (entities : Dict EntityID ℕ) :
    OwnGrids (zones.set zid ⟨zone, grids.next, entities⟩) (grids.alloc a) radius := by
  constructor
  case lt =>
    intro z sim hsim
    simp only [Dict.get_set] at hsim
    split_ifs at hsim with hz
    · cases hsim; exact Nat.lt_succ_self _
    · exact Nat.lt_succ_of_lt (h.lt z sim hsim)
  case covers =>
    intro z sim hsim
    simp only [Dict.get_set] at hsim
    split_ifs at hsim with hz
    · cases hsim; simpa using ha
    · rw [Heap.cell_alloc_of_lt _ _ (h.lt z sim hsim)]
      exact h.covers z sim hsim
  case inj =>
    intro z z' sim sim' hsim hsim' heq
    simp only [Dict.get_set] at hsim hsim'
    split_ifs at hsim hsim' with hz hz' hz'
    · exact hz.trans hz'.symm
    · cases hsim; exact absurd heq (h.lt z' sim' hsim').ne'
    · cases hsim'; exact absurd heq (h.lt z sim hsim).ne
    · exact h.inj z z' sim sim' hsim hsim' heq

/-- The entity map of a zone may change freely. -/
theorem setEntities (h : OwnGrids zones grids radius) {zid : ZoneID} {sim : ZoneSim}
    (hsim : zones.get zid = some sim) (entities : Dict EntityID ℕ) :
    OwnGrids (zones.set zid { sim with entities := entities }) grids radius := by
  have hold : ∀ z sim', (zones.set zid { sim with entities := entities }).get z = some sim' →
      ∃ old, zones.get z = some old ∧ old.aoi = sim'.aoi := by
    intro z sim' hsim'
    simp only [Dict.get_set] at hsim'
    split_ifs at hsim' with hz
    · cases hsim'; exact ⟨sim, hz ▸ hsim, rfl⟩
    · exact ⟨sim', hsim', rfl⟩
  constructor
  case lt =>
    intro z sim' hsim'
    obtain ⟨old, hget, haoi⟩ := hold z sim' hsim'
    exact haoi ▸ h.lt z old hget
  case covers =>
    intro z sim' hsim'
    obtain ⟨old, hget, haoi⟩ := hold z sim' hsim'
    exact haoi ▸ h.covers z old hget
  case inj =>
    intro z z' sim1 sim2 hsim1 hsim2 heq
    obtain ⟨old1, hget1, haoi1⟩ := hold z sim1 hsim1
    obtain ⟨old2, hget2, haoi2⟩ := hold z' sim2 hsim2
    exact h.inj z z' old1 old2 hget1 hget2 (haoi1.trans (heq.trans haoi2.symm))

/-- A grid may change its content, not its parameters. -/
theorem write (h : OwnGrids zones grids radius) {ref : ℕ} {a : AOI}
    (hsize : a.cellSize = (grids.cell ref).cellSize)
    (hrange : a.cellRange = (grids.cell ref).cellRange) :
    OwnGrids zones (grids.write ref a) radius := by
  refine ⟨h.lt, fun z sim hsim => ?_, h.inj⟩
  by_cases heq : sim.aoi = ref
  · have hcov := h.covers z sim hsim
    rw [heq] at hcov ⊢
    simpa [AOI.Covers, hsize, hrange] using hcov
  · rw [Heap.cell_write_ne _ _ heq]
    exact h.covers z sim hsim

theorem del (h : OwnGrids zones grids radius) (zid : ZoneID) :
    OwnGrids (zones.del zid) grids radius := by
  have hold : ∀ z sim, (zones.del zid).get z = some sim → zones.get z = some sim := by
    intro z sim hsim
    simp only [Dict.get_del] at hsim
    split_ifs at hsim
    exact hsim
  exact ⟨fun z sim hsim => h.lt z sim (hold z sim hsim),
    fun z sim hsim => h.covers z sim (hold z sim hsim),
    fun z z' sim sim' hsim hsim' => h.inj z z' sim sim' (hold z sim hsim) (hold z' sim' hsim')⟩

end OwnGrids

/-- Where entities are kept under their own names, rewriting one of them leaves
the others alone. -/
theorem Store.cell_write_entity {s : Store}
    (hname : ∀ id r, s.entities.get id = some r → (s.objects.cell r).id = id) {id other : EntityID}
    {r q : ℕ} (hr : s.entities.get id = some r) (hq : s.entities.get other = some q)
    (hne : other ≠ id) (e : Entity) : (s.objects.write r e).cell q = s.objects.cell q := by
  apply Heap.cell_write_ne
  rintro rfl
  exact hne ((hname other q hq).symm.trans (hname id q hr))

structure Coherent (s : Store) : Prop where
  radius_nonneg : 0 ≤ s.aoiRadius
  keys_zone : ∀ id, (s.entityZone.get id).isSome = (s.entities.get id).isSome
  keys_aoi : ∀ id, (s.entityAOI.get id).isSome = (s.entities.get id).isSome
  zone_sim : ∀ id z, s.entityZone.get id = some z → ∃ sim r, s.zones.get z = some sim ∧
    sim.entities.get id = some r ∧ s.entities.get id = some r
  sim_zone : ∀ z sim id r, s.zones.get z = some sim → sim.entities.get id = some r →
    s.entities.get id = some r ∧ s.entityZone.get id = some z
  object : ∀ id r, s.entities.get id = some r → r < s.objects.next ∧ (s.objects.cell r).id = id
  not_ghost : ∀ id r, s.entities.get id = some r → isGhostID id = false
  own_grids : OwnGrids s.zones s.grids s.aoiRadius
  holds : ∀ z sim id r, s.zones.get z = some sim → sim.entities.get id = some r →
    (s.grids.cell sim.aoi).Holds id (s.objects.cell r).position
  lacks : ∀ z sim id, s.zones.get z = some sim → sim.entities.get id = none →
    isGhostID id = false → (s.grids.cell sim.aoi).Lacks id
  ghost_keys : ∀ id ghost, s.ghosts.get id = some ghost → isGhostID id = true

namespace Coherent

variable {s s' : Store}

theorem empty : Coherent Store.empty := by
  constructor
  case own_grids => constructor <;> simp [Store.empty]
  all_goals simp [Store.empty, defaultAOIRadius]

/-- Replica stores and the second zone index are not part of it, and of the
replicas only their names are. -/
theorem congr (h : Coherent s) (hz : s'.zones = s.zones) (he : s'.entities = s.entities)
    (hez : s'.entityZone = s.entityZone) (hea : s'.entityAOI = s.entityAOI)
    (ho : s'.objects = s.objects) (hg : s'.grids = s.grids) (hr : s'.aoiRadius = s.aoiRadius)
    (hgh : ∀ id ghost, s'.ghosts.get id = some ghost → isGhostID id = true) : Coherent s' := by
  obtain ⟨h1, h2, h3, h4, h5, h6, h7, h8, h9, h10, -⟩ := h
  constructor
  case ghost_keys => exact hgh
  all_goals simp only [hz, he, hez, hea, ho, hg, hr]; assumption

/-- A zone that nobody used yet starts with an empty grid of its own. -/
theorem newZone (h : Coherent s) {zid : ZoneID} (hfresh : s.zones.get zid = none)
    (zone : Option Zone) :
    Coherent { s with
      grids := s.grids.alloc (AOI.new defaultCellSize s.aoiRadius)
      zones := s.zones.set zid ⟨zone, s.grids.next, ∅⟩ } := by
  have hold : ∀ z sim, s.zones.get z = some sim →
      (s.grids.alloc (AOI.new defaultCellSize s.aoiRadius)).cell sim.aoi = s.grids.cell sim.aoi :=
    fun z sim hsim => Heap.cell_alloc_of_lt _ _ (h.own_grids.lt z sim hsim)
  constructor
  case radius_nonneg => exact h.radius_nonneg
  case keys_zone => exact h.keys_zone
  case keys_aoi => exact h.keys_aoi
  case zone_sim =>
    intro id z hz
    obtain ⟨sim, r, hsim, hr, hent⟩ := h.zone_sim id z hz
    have hne : z ≠ zid := by rintro rfl; simp [hfresh] at hsim
    exact ⟨sim, r, by simpa [hne] using hsim, hr, hent⟩
  case sim_zone =>
    intro z sim id r hsim hr
    simp only [Dict.get_set] at hsim
    split_ifs at hsim with hz
    · cases hsim; simp at hr
    · exact h.sim_zone z sim id r hsim hr
  case object => exact h.object
  case not_ghost => exact h.not_ghost
  case own_grids =>
    exact h.own_grids.alloc ⟨by norm_num [AOI.new, defaultCellSize], rfl⟩ zid zone ∅
  case holds =>
    intro z sim id r hsim hr
    simp only [Dict.get_set] at hsim
    split_ifs at hsim with hz
    · cases hsim; simp at hr
    · rw [hold z sim hsim]
      exact h.holds z sim id r hsim hr
  case lacks =>
    intro z sim id hsim hr hid
    simp only [Dict.get_set] at hsim
    split_ifs at hsim with hz
    · cases hsim
      simp only [Heap.cell_alloc_next]
      exact AOI.new_lacks _ _ id
    · rw [hold z sim hsim]
      exact h.lacks z sim id hsim hr hid
  case ghost_keys => exact h.ghost_keys

theorem assignZone (h : Coherent s) (z : Zone) (hs : s.assignZone z = .ok s') : Coherent s' := by
  unfold Store.assignZone at hs
  split_ifs at hs with hex
  cases hs
  have hfresh : s.zones.get z.id = none := by simpa using hex
  exact (h.newZone hfresh (some z)).congr rfl rfl rfl rfl rfl rfl rfl h.ghost_keys

theorem ensureZone (h : Coherent s) (zid : ZoneID) : Coherent (s.ensureZone zid) := by
  unfold Store.ensureZone
  split
  · exact h
  · next hfresh => exact h.newZone hfresh none

/-- Where the entity map of a zone holds an identifier, no other one does. -/
theorem sim_unique (h : Coherent s) {z z' : ZoneID} {sim sim' : ZoneSim} {id : EntityID} {r r' : ℕ}
    (hsim : s.zones.get z = some sim) (hr : sim.entities.get id = some r)
    (hsim' : s.zones.get z' = some sim') (hr' : sim'.entities.get id = some r') : z = z' := by
  have hz := (h.sim_zone z sim id r hsim hr).2
  have hz' := (h.sim_zone z' sim' id r' hsim' hr').2
  exact Option.some.inj (hz.symm.trans hz')

theorem not_mem_sim (h : Coherent s) {z : ZoneID} {sim : ZoneSim} {id : EntityID}
    (hsim : s.zones.get z = some sim) (habs : s.entities.get id = none) :
    sim.entities.get id = none := by
  by_contra hne
  obtain ⟨r, hr⟩ := Option.ne_none_iff_exists'.mp hne
  simp [(h.sim_zone z sim id r hsim hr).1] at habs

/-- Adding an entity whose identifier is new and no replica name. -/
theorem placeEntity (h : Coherent s) {zid : ZoneID} {sim : ZoneSim}
    (hsim : s.zones.get zid = some sim) (e : Entity) (habs : s.entities.get e.id = none)
    (hid : isGhostID e.id = false) : Coherent (s.placeEntity zid sim e) := by
  have hobj : ∀ id r, s.entities.get id = some r →
      (s.objects.alloc e).cell r = s.objects.cell r :=
    fun id r hr => Heap.cell_alloc_of_lt _ _ (h.object id r hr).1
  constructor
  case radius_nonneg => exact h.radius_nonneg
  case keys_zone =>
    intro id
    by_cases hne : id = e.id
    · simp [Store.placeEntity, hne]
    · simpa [Store.placeEntity, hne] using h.keys_zone id
  case keys_aoi =>
    intro id
    by_cases hne : id = e.id
    · simp [Store.placeEntity, hne]
    · simpa [Store.placeEntity, hne] using h.keys_aoi id
  case zone_sim =>
    intro id z hz
    obtain ⟨rfl, rfl⟩ | ⟨hne, hz⟩ := Store.entityZone_placeEntity hz
    · exact ⟨{ sim with entities := sim.entities.set e.id s.objects.next }, s.objects.next,
        by simp [Store.placeEntity], by simp, by simp [Store.placeEntity]⟩
    · obtain ⟨old, r, hold, hr, hent⟩ := h.zone_sim id z hz
      obtain ⟨sim', hsim', hsame⟩ := Store.exists_zone_placeEntity hsim hold hne
      exact ⟨sim', r, hsim', hsame.trans hr, by simpa [Store.placeEntity, hne] using hent⟩
  case sim_zone =>
    intro z sim' id r hsim' hr
    obtain ⟨rfl, rfl, rfl⟩ | ⟨old, hold, hr'⟩ := Store.member_placeEntity hsim hsim' hr
    · simp [Store.placeEntity]
    · have hmember := h.sim_zone z old id r hold hr'
      have hne : id ≠ e.id := by
        rintro rfl
        simp [h.not_mem_sim hold habs] at hr'
      simpa [Store.placeEntity, hne] using hmember
  case object => exact Store.object_placeEntity h.object zid sim e
  case not_ghost =>
    intro id r hr
    by_cases hne : id = e.id
    · exact hne ▸ hid
    · exact h.not_ghost id r (by simpa [Store.placeEntity, hne] using hr)
  case own_grids =>
    exact (h.own_grids.setEntities hsim _).write rfl rfl
  case holds =>
    intro z sim' id r hsim' hr
    simp only [Store.placeEntity, Dict.get_set] at hsim' ⊢
    by_cases hne : id = e.id
    · subst hne
      split_ifs at hsim' with hz
      · cases hsim'
        obtain rfl : s.objects.next = r := by simpa using hr
        simp only [Heap.cell_write_self, Heap.cell_alloc_next]
        exact (h.lacks zid sim e.id hsim (h.not_mem_sim hsim habs) hid).enter_holds e.position
      · simp [h.not_mem_sim hsim' habs] at hr
    · split_ifs at hsim' with hz
      · cases hsim'
        have hr' : sim.entities.get id = some r := by simpa [hne] using hr
        simp only [Heap.cell_write_self, hobj id r (h.sim_zone zid sim id r hsim hr').1]
        exact (AOI.agree_enter _ _ hne).holds (h.holds zid sim id r hsim hr')
      · rw [h.own_grids.cell_write_other hz hsim hsim', hobj id r (h.sim_zone z sim' id r hsim' hr).1]
        exact h.holds z sim' id r hsim' hr
  case lacks =>
    intro z sim' id hsim' hr hg
    simp only [Store.placeEntity, Dict.get_set] at hsim' ⊢
    split_ifs at hsim' with hz
    · cases hsim'
      have hne : id ≠ e.id := by rintro rfl; simp at hr
      simp only [Heap.cell_write_self]
      exact (AOI.agree_enter _ _ hne).lacks
        (h.lacks zid sim id hsim (by simpa [hne] using hr) hg)
    · rw [h.own_grids.cell_write_other hz hsim hsim']
      exact h.lacks z sim' id hsim' hr hg
  case ghost_keys => exact h.ghost_keys

theorem addEntity (h : Coherent s) (e : Entity) (habs : s.entities.get e.id = none)
    (hid : isGhostID e.id = false) : Coherent (s.addEntity e) := by
  obtain ⟨sim, hsim, heq⟩ := s.exists_addEntity_eq e
  rw [heq]
  apply (h.ensureZone (Store.targetZone e)).placeEntity hsim
  · simpa using habs
  · simpa using hid

/-- Removing a live entity from its zone and from every index. -/
theorem removeLive (h : Coherent s) {id : EntityID} {zid : ZoneID} {sim : ZoneSim} {r : ℕ}
    (hzone : s.entityZone.get id = some zid) (hsim : s.zones.get zid = some sim)
    (hr : sim.entities.get id = some r) :
    Coherent { s with
      grids := s.grids.write sim.aoi ((s.grids.cell sim.aoi).leave id)
      zones := s.zones.set zid { sim with entities := sim.entities.del id }
      entities := s.entities.del id
      entityAOI := s.entityAOI.del id
      entityZone := s.entityZone.del id } := by
  have hwas : ∀ other r', (s.entities.del id).get other = some r' →
      other ≠ id ∧ s.entities.get other = some r' := by
    intro other r' hget
    simp only [Dict.get_del] at hget
    split_ifs at hget with hne
    exact ⟨hne, hget⟩
  constructor
  case radius_nonneg => exact h.radius_nonneg
  case keys_zone =>
    intro other
    by_cases hne : other = id
    · simp [hne]
    · simpa [hne] using h.keys_zone other
  case keys_aoi =>
    intro other
    by_cases hne : other = id
    · simp [hne]
    · simpa [hne] using h.keys_aoi other
  case zone_sim =>
    intro other z hz
    simp only [Dict.get_del] at hz
    split_ifs at hz with hne
    obtain ⟨sim', r', hsim', hr', hent⟩ := h.zone_sim other z hz
    by_cases hzz : z = zid
    · subst z
      obtain rfl : sim = sim' := Option.some.inj (hsim.symm.trans hsim')
      exact ⟨{ sim with entities := sim.entities.del id }, r', by simp, by simpa [hne] using hr',
        by simpa [hne] using hent⟩
    · exact ⟨sim', r', by simpa [hzz] using hsim', hr', by simpa [hne] using hent⟩
  case sim_zone =>
    intro z sim' other r' hsim' hr'
    simp only [Dict.get_set] at hsim'
    by_cases hne : other = id
    · subst hne
      split_ifs at hsim' with hz
      · cases hsim'; simp at hr'
      · exact absurd (h.sim_unique hsim' hr' hsim hr) hz
    · simp only [Dict.get_del_ne _ hne]
      split_ifs at hsim' with hz
      · cases hsim'
        subst z
        exact h.sim_zone zid sim other r' hsim (by simpa [hne] using hr')
      · exact h.sim_zone z sim' other r' hsim' hr'
  case object =>
    intro other r' hget
    exact h.object other r' (hwas other r' hget).2
  case not_ghost =>
    intro other r' hget
    exact h.not_ghost other r' (hwas other r' hget).2
  case own_grids => exact (h.own_grids.setEntities hsim _).write (by simp) (by simp)
  case holds =>
    intro z sim' other r' hsim' hr'
    simp only [Dict.get_set] at hsim'
    split_ifs at hsim' with hz
    · cases hsim'
      have hne : other ≠ id := by rintro rfl; simp at hr'
      rw [Heap.cell_write_self]
      exact (AOI.agree_leave _ hne).holds
        (h.holds zid sim other r' hsim (by simpa [hne] using hr'))
    · rw [h.own_grids.cell_write_other hz hsim hsim']
      exact h.holds z sim' other r' hsim' hr'
  case lacks =>
    intro z sim' other hsim' hr' hg
    simp only [Dict.get_set] at hsim'
    split_ifs at hsim' with hz
    · cases hsim'
      rw [Heap.cell_write_self]
      by_cases hne : other = id
      · subst hne
        exact (h.holds zid sim other r hsim hr).leave_lacks
      · exact (AOI.agree_leave _ hne).lacks
          (h.lacks zid sim other hsim (by simpa [hne] using hr') hg)
    · rw [h.own_grids.cell_write_other hz hsim hsim']
      exact h.lacks z sim' other hsim' hr' hg
  case ghost_keys => exact h.ghost_keys

theorem removeEntity (h : Coherent s) (id : EntityID) : Coherent (s.removeEntity id) := by
  unfold Store.removeEntity
  split
  · exact h
  · next zid hzone =>
    obtain ⟨sim, r, hsim, hr, -⟩ := h.zone_sim id zid hzone
    simp only [hsim]
    exact h.removeLive hzone hsim hr

theorem mem_entitiesOfZone (s : Store) (zid : ZoneID) (id : EntityID) :
    id ∈ s.entitiesOfZone zid ↔ s.entityZone.get id = some zid := by
  simp only [Store.entitiesOfZone, List.mem_filter, Dict.mem_range_iff_exists, decide_eq_true_eq,
    and_iff_right_iff_imp]
  exact fun h => ⟨zid, h⟩

/-- A released zone takes its entities with it and nobody else. -/
theorem releaseZone (h : Coherent s) (zid : ZoneID) (hs : s.releaseZone zid = .ok s') :
    Coherent s' := by
  unfold Store.releaseZone at hs
  split_ifs at hs with hex
  cases hs
  have hkeep : ∀ z sim, (s.zones.del zid).get z = some sim → z ≠ zid ∧ s.zones.get z = some sim := by
    intro z sim hsim
    simp only [Dict.get_del] at hsim
    split_ifs at hsim with hz
    exact ⟨hz, hsim⟩
  have hstay : ∀ id z, z ≠ zid → s.entityZone.get id = some z → id ∉ s.entitiesOfZone zid := by
    intro id z hz hget hmem
    rw [mem_entitiesOfZone, hget] at hmem
    exact hz (Option.some.inj hmem)
  constructor
  case radius_nonneg => exact h.radius_nonneg
  case keys_zone =>
    intro id
    simp only [Dict.get_delAll]
    split_ifs
    · rfl
    · exact h.keys_zone id
  case keys_aoi =>
    intro id
    simp only [Dict.get_delAll]
    split_ifs
    · rfl
    · exact h.keys_aoi id
  case zone_sim =>
    intro id z hz
    simp only [Dict.get_delAll] at hz
    split_ifs at hz with hmem
    have hzz : z ≠ zid := by rintro rfl; exact hmem ((mem_entitiesOfZone s z id).mpr hz)
    obtain ⟨sim, r, hsim, hr, hent⟩ := h.zone_sim id z hz
    exact ⟨sim, r, by simpa [hzz] using hsim, hr, by simpa [Dict.get_delAll, hmem] using hent⟩
  case sim_zone =>
    intro z sim id r hsim hr
    obtain ⟨hzz, hsim⟩ := hkeep z sim hsim
    obtain ⟨hent, hzone⟩ := h.sim_zone z sim id r hsim hr
    have hmem := hstay id z hzz hzone
    exact ⟨by simpa [Dict.get_delAll, hmem] using hent, by simpa [Dict.get_delAll, hmem] using hzone⟩
  case object =>
    intro id r hr
    simp only [Dict.get_delAll] at hr
    split_ifs at hr
    exact h.object id r hr
  case not_ghost =>
    intro id r hr
    simp only [Dict.get_delAll] at hr
    split_ifs at hr
    exact h.not_ghost id r hr
  case own_grids => exact h.own_grids.del zid
  case holds =>
    intro z sim id r hsim hr
    exact h.holds z sim id r (hkeep z sim hsim).2 hr
  case lacks =>
    intro z sim id hsim hr hg
    exact h.lacks z sim id (hkeep z sim hsim).2 hr hg
  case ghost_keys =>
    intro id ghost hget
    simp only [Dict.get_delAll] at hget
    split_ifs at hget
    exact h.ghost_keys id ghost hget

/-- Rewriting a live object without moving it. -/
theorem setObject (h : Coherent s) {id : EntityID} {r : ℕ} (hr : s.entities.get id = some r)
    {e : Entity} (hid : e.id = id) (hpos : e.position = (s.objects.cell r).position) :
    Coherent (s.setObject r e) := by
  have hcell : ∀ q, ((s.objects.write r e).cell q).id = (s.objects.cell q).id ∧
      ((s.objects.write r e).cell q).position = (s.objects.cell q).position := by
    intro q
    by_cases hq : q = r
    · subst q
      simp [hid, hpos, (h.object id r hr).2]
    · simp [hq]
  obtain ⟨h1, h2, h3, h4, h5, h6, h7, h8, h9, h10, h11⟩ := h
  constructor <;> try assumption
  case object =>
    intro other q hq
    exact ⟨(h6 other q hq).1, (hcell q).1.trans (h6 other q hq).2⟩
  case holds =>
    intro z sim other q hsim hq
    change AOI.Holds _ other ((s.objects.write r e).cell q).position
    rw [(hcell q).2]
    exact h9 z sim other q hsim hq

/-- A live entity moves: its object is rewritten and its zone's grid follows. -/
theorem moveEntity (h : Coherent s) {id : EntityID} {r : ℕ} (hr : s.entities.get id = some r)
    {e : Entity} (hid : e.id = id) : Coherent ((s.setObject r e).moveOnGrid id e.position) := by
  have hsome : (s.entityZone.get id).isSome := by rw [h.keys_zone, hr]; rfl
  obtain ⟨zid, hzone⟩ := Option.isSome_iff_exists.mp hsome
  obtain ⟨sim, r', hsim, hrsim, hr'⟩ := h.zone_sim id zid hzone
  obtain rfl : r = r' := Option.some.inj (hr.symm.trans hr')
  have href : (s.setObject r e).gridRefOf id = some sim.aoi := by
    simp [Store.gridRefOf, Store.setObject, hzone, hsim]
  have hcell : ∀ other q, s.entities.get other = some q → other ≠ id →
      (s.objects.write r e).cell q = s.objects.cell q := fun other q hq hne =>
    Store.cell_write_entity (fun id r hr => (h.object id r hr).2) hr hq hne e
  simp only [Store.moveOnGrid, href]
  constructor
  case radius_nonneg => exact h.radius_nonneg
  case keys_zone => exact h.keys_zone
  case keys_aoi => exact h.keys_aoi
  case zone_sim => exact h.zone_sim
  case sim_zone => exact h.sim_zone
  case object =>
    intro other q hq
    refine ⟨(h.object other q hq).1, ?_⟩
    by_cases hne : other = id
    · subst hne
      obtain rfl : r = q := Option.some.inj (hr.symm.trans hq)
      simpa [Store.updateGrid, Store.setObject] using hid
    · change ((s.objects.write r e).cell q).id = other
      rw [hcell other q hq hne]
      exact (h.object other q hq).2
  case not_ghost => exact h.not_ghost
  case own_grids =>
    exact h.own_grids.write (by simp [Store.setObject]) (by simp [Store.setObject])
  case holds =>
    intro z sim' other q hsim' hq
    have hent := (h.sim_zone z sim' other q hsim' hq).1
    have hold := h.holds z sim' other q hsim' hq
    change AOI.Holds _ other ((s.objects.write r e).cell q).position
    by_cases hne : other = id
    · subst hne
      obtain rfl : r = q := Option.some.inj (hr.symm.trans hent)
      obtain rfl : z = zid := h.sim_unique hsim' hq hsim hrsim
      obtain rfl : sim = sim' := Option.some.inj (hsim.symm.trans hsim')
      simp only [Store.updateGrid, Store.setObject, Heap.cell_write_self]
      exact hold.move_holds e.position
    · rw [hcell other q hent hne]
      exact (h.own_grids.agree_write hsim hsim' fun _ => AOI.agree_move _ _ hne).holds hold
  case lacks =>
    intro z sim' other hsim' hq hg
    refine (h.own_grids.agree_write hsim hsim' ?_).lacks (h.lacks z sim' other hsim' hq hg)
    rintro rfl
    obtain rfl : sim = sim' := Option.some.inj (hsim.symm.trans hsim')
    have hne : other ≠ id := by rintro rfl; simp [hrsim] at hq
    exact AOI.agree_move _ _ hne
  case ghost_keys => exact h.ghost_keys

/-- Replicas come and go in a grid without disturbing it. -/
theorem updateGrid (h : Coherent s) (ref : ℕ) {f : AOI → AOI}
    (hagree : ∀ a id, isGhostID id = false → AOI.Agree id a (f a))
    (hsize : ∀ a, (f a).cellSize = a.cellSize) (hrange : ∀ a, (f a).cellRange = a.cellRange) :
    Coherent (s.updateGrid ref f) := by
  have hgrid : ∀ q id, isGhostID id = false →
      AOI.Agree id (s.grids.cell q) ((s.grids.write ref (f (s.grids.cell ref))).cell q) := by
    intro q id hg
    by_cases hq : q = ref
    · subst q; simpa using hagree _ id hg
    · simpa [hq] using AOI.Agree.refl id _
  obtain ⟨h1, h2, h3, h4, h5, h6, h7, h8, h9, h10, h11⟩ := h
  constructor <;> try assumption
  case own_grids => exact h8.write (hsize _) (hrange _)
  case holds =>
    intro z sim id r hsim hr
    exact (hgrid sim.aoi id (h7 id r (h5 z sim id r hsim hr).1)).holds (h9 z sim id r hsim hr)
  case lacks =>
    intro z sim id hsim hr hg
    exact (hgrid sim.aoi id hg).lacks (h10 z sim id hsim hr hg)

/-- What an entity currently sees may be rewritten while it lives. -/
theorem setAOI (h : Coherent s) {id : EntityID} (hlive : (s.entities.get id).isSome)
    (state : EntityAOIState) :
    Coherent { s with entityAOI := s.entityAOI.set id state } := by
  obtain ⟨h1, h2, h3, h4, h5, h6, h7, h8, h9, h10, h11⟩ := h
  constructor <;> try assumption
  case keys_aoi =>
    intro other
    by_cases hne : other = id
    · subst hne; simp [hlive]
    · simpa [hne] using h3 other

theorem detectEntity (h : Coherent s) (zid : ZoneID) (sim : ZoneSim) (now : EntityID → Time)
    (id : EntityID) : Coherent (Store.detectEntity zid sim now s id) := by
  unfold Store.detectEntity
  split
  · dsimp only
    split
    · exact h
    · refine (h.updateGrid sim.aoi (fun a other hother => AOI.agree_enter a _ ?_) (fun _ => rfl)
        (fun _ => rfl)).congr rfl rfl rfl rfl rfl rfl rfl ?_
      · rintro rfl
        simp at hother
      · intro other ghost hget
        simp only [Dict.get_set] at hget
        split_ifs at hget with hne
        · simp [hne]
        · exact h.ghost_keys other ghost hget
  · exact h

theorem detectZoneBoundaries (h : Coherent s) (zid : ZoneID) (now : EntityID → Time)
    (order : List EntityID) : Coherent (s.detectZoneBoundaries zid now order) := by
  unfold Store.detectZoneBoundaries
  split
  · exact h
  · exact List.foldlRecOn _ _ h fun s hs id _ => hs.detectEntity zid _ now id

theorem sweepGhost (h : Coherent s) (now : Time) (id : EntityID) :
    Coherent (Store.sweepGhost now s id) := by
  have hleave : isGhostID id = true → ∀ a other, isGhostID other = false →
      AOI.Agree other a (a.leave id) := by
    intro hid a other hother
    apply AOI.agree_leave
    rintro rfl
    simp [hid] at hother
  have hdel : ∀ other ghost, (s.ghosts.del id).get other = some ghost → isGhostID other = true := by
    intro other ghost hget
    simp only [Dict.get_del] at hget
    split_ifs at hget
    exact h.ghost_keys other ghost hget
  unfold Store.sweepGhost
  split
  · exact h
  · next ghost hghost =>
    have hid := h.ghost_keys id ghost hghost
    split
    · exact h
    · dsimp only
      split
      · exact (h.updateGrid _ (hleave hid) (fun a => by simp) (fun a => by simp)).congr
          rfl rfl rfl rfl rfl rfl rfl hdel
      · exact h.congr rfl rfl rfl rfl rfl rfl rfl hdel

theorem sweepGhosts (h : Coherent s) (now : Time) (order : List EntityID) :
    Coherent (s.sweepGhosts now order) :=
  List.foldlRecOn _ _ h fun _ hs id _ => hs.sweepGhost now id

end Coherent

/-! ## What the indexes say of the living -/

/-- The indexes agree: on their keys, on the zone of every live entity, and on
its one place in one grid. -/
structure Indexed (s : Store) : Prop where
  keys_zone : ∀ id, (s.entityZone.get id).isSome = (s.entities.get id).isSome
  keys_aoi : ∀ id, (s.entityAOI.get id).isSome = (s.entities.get id).isSome
  zone_iff : ∀ id z, s.entityZone.get id = some z ↔ ∃ sim r, s.zones.get z = some sim ∧
    sim.entities.get id = some r ∧ s.entities.get id = some r
  holds : ∀ id z sim r, s.entityZone.get id = some z → s.zones.get z = some sim →
    s.entities.get id = some r → (s.grids.cell sim.aoi).Holds id (s.objects.cell r).position
  elsewhere : ∀ id z z' sim, s.entityZone.get id = some z → z' ≠ z → s.zones.get z' = some sim →
    sim.entities.get id = none ∧ (s.grids.cell sim.aoi).Lacks id

theorem Coherent.indexed {s : Store} (h : Coherent s) : Indexed s where
  keys_zone := h.keys_zone
  keys_aoi := h.keys_aoi
  zone_iff id z := by
    refine ⟨h.zone_sim id z, ?_⟩
    rintro ⟨sim, r, hsim, hr, -⟩
    exact (h.sim_zone z sim id r hsim hr).2
  holds id z sim r hz hsim hr := by
    obtain ⟨sim', r', hsim', hmember, hr'⟩ := h.zone_sim id z hz
    obtain rfl : sim = sim' := Option.some.inj (hsim.symm.trans hsim')
    obtain rfl : r = r' := Option.some.inj (hr.symm.trans hr')
    exact h.holds z sim id r hsim hmember
  elsewhere id z z' sim hz hne hsim := by
    obtain ⟨sim', r, hsim', hmember, hr⟩ := h.zone_sim id z hz
    have hnone : sim.entities.get id = none := by
      by_contra hsome
      obtain ⟨r', hr'⟩ := Option.ne_none_iff_exists'.mp hsome
      exact hne (h.sim_unique hsim hr' hsim' hmember)
    exact ⟨hnone, h.lacks z' sim id hsim hnone (h.not_ghost id r hr)⟩

end SpatialServer

import SpatialServer.Changes
import SpatialServer.CoherentRuns

/-!
# What holds in every reachable store

No run breaks the facts below, not even one that adds an identifier twice or
lets sessions expire: every reference leads to an object of its own name, the
entities that exist are those that have a zone, and the grids of different zones
are different grids. A zone that was assigned has one grid in both indexes.
-/
namespace SpatialServer

open Runs

namespace Store

/-- The entity behind an identifier. -/
def entityOf (s : Store) (id : EntityID) : Option Entity := (s.entities.get id).map s.objects.cell

end Store

/-- References lead to objects of their name, and entities have a zone that is
there and lists them. -/
structure Named (s : Store) : Prop where
  object : ∀ id r, s.entities.get id = some r → r < s.objects.next ∧ (s.objects.cell r).id = id
  member : ∀ z sim id r, s.zones.get z = some sim → sim.entities.get id = some r →
    r < s.objects.next ∧ (s.objects.cell r).id = id
  keys_zone : ∀ id, (s.entityZone.get id).isSome = (s.entities.get id).isSome
  zone : ∀ id z, s.entityZone.get id = some z → z ≠ "" ∧ (s.zones.get z).isSome
  home : ∀ id z sim, s.entityZone.get id = some z → s.zones.get z = some sim →
    sim.entities.get id = s.entities.get id

namespace Named

variable {s s' : Store}

theorem empty : Named Store.empty := by constructor <;> simp [Store.empty]

theorem id_of_entityOf (h : Named s) {id : EntityID} {e : Entity} (he : s.entityOf id = some e) :
    e.id = id := by
  obtain ⟨r, hr, rfl⟩ := Option.map_eq_some_iff.mp he
  exact (h.object id r hr).2

/-- Grids and replicas are not part of it, and of the objects only their names
are. -/
theorem congr (h : Named s) (hz : s'.zones = s.zones) (he : s'.entities = s.entities)
    (hez : s'.entityZone = s.entityZone) (hn : s'.objects.next = s.objects.next)
    (ho : ∀ r, (s'.objects.cell r).id = (s.objects.cell r).id) : Named s' := by
  obtain ⟨hobject, hmember, hkeys, hzone, hhome⟩ := h
  constructor <;> simpa only [hz, he, hez, hn, ho]

theorem setObject (h : Named s) {r : ℕ} {e : Entity} (he : e.id = (s.objects.cell r).id) :
    Named (s.setObject r e) := by
  refine h.congr rfl rfl rfl rfl fun q => ?_
  by_cases hq : q = r
  · subst q; simp [Store.setObject, he]
  · simp [Store.setObject, hq]

theorem newZone (h : Named s) {zid : ZoneID} (hnew : s.zones.get zid = none) (zone : Option Zone)
    (ref : ℕ) (grids : Heap AOI) :
    Named { s with grids := grids, zones := s.zones.set zid ⟨zone, ref, ∅⟩ } := by
  have hkept : ∀ z sim, (s.zones.set zid ⟨zone, ref, ∅⟩).get z = some sim →
      sim = ⟨zone, ref, ∅⟩ ∧ z = zid ∨ s.zones.get z = some sim := by
    intro z sim hsim
    rw [Dict.get_set] at hsim
    split_ifs at hsim with hz
    · exact .inl ⟨(Option.some.inj hsim).symm, hz⟩
    · exact .inr hsim
  refine ⟨h.object, fun z sim id r hsim hr => ?_, h.keys_zone, fun id z hz => ?_,
    fun id z sim hz hsim => ?_⟩
  · obtain ⟨rfl, -⟩ | hsim := hkept z sim hsim
    · simp at hr
    · exact h.member z sim id r hsim hr
  · obtain ⟨hne, hsome⟩ := h.zone id z hz
    refine ⟨hne, ?_⟩
    simp only [Dict.get_set]
    split_ifs
    · rfl
    · exact hsome
  · obtain ⟨-, rfl⟩ | hsim := hkept z sim hsim
    · -- nobody lived in the zone before it was there
      have hsome := (h.zone id z hz).2
      rw [hnew] at hsome
      cases hsome
    · exact h.home id z sim hz hsim

theorem ensureZone (h : Named s) (zid : ZoneID) : Named (s.ensureZone zid) := by
  unfold Store.ensureZone
  split
  · exact h
  · next hnew => exact h.newZone hnew none _ _

theorem placeEntity (h : Named s) {zid : ZoneID} {sim : ZoneSim}
    (hsim : s.zones.get zid = some sim) (hzid : zid ≠ "") (e : Entity) :
    Named (s.placeEntity zid sim e) := by
  constructor
  case object => exact Store.object_placeEntity h.object zid sim e
  case member =>
    intro z sim' id r hsim' hr
    obtain ⟨rfl, rfl, rfl⟩ | ⟨old, hget, hr⟩ := Store.member_placeEntity hsim hsim' hr
    · simp [Store.placeEntity]
    · obtain ⟨hlt, hid⟩ := h.member z old id r hget hr
      obtain ⟨hlt', hcell⟩ := s.cell_placeEntity zid sim e hlt
      exact ⟨hlt', hcell ▸ hid⟩
  case keys_zone =>
    intro id
    by_cases hid : id = e.id
    · simp [Store.placeEntity, hid]
    · simpa [Store.placeEntity, hid] using h.keys_zone id
  case zone =>
    intro id z hz
    obtain ⟨rfl, rfl⟩ | ⟨hne, hz⟩ := Store.entityZone_placeEntity hz
    · exact ⟨hzid, by simp [Store.placeEntity]⟩
    · obtain ⟨hz', hsome⟩ := h.zone id z hz
      obtain ⟨old, hold⟩ := Option.isSome_iff_exists.mp hsome
      obtain ⟨sim', hsim', -⟩ := Store.exists_zone_placeEntity hsim hold hne
      exact ⟨hz', by simp [hsim']⟩
  case home =>
    intro id z sim' hz hsim'
    simp only [Store.placeEntity, Dict.get_set] at hz hsim' ⊢
    split_ifs at hz hsim' ⊢ with hid hz' hz'
    · cases hsim'; simp [hid]
    · cases hz; exact absurd rfl hz'
    · cases hsim'
      rw [Dict.get_set_ne _ _ hid]
      exact h.home id zid sim (hz' ▸ hz) hsim
    · exact h.home id z sim' hz hsim'

theorem targetZone_ne (e : Entity) : Store.targetZone e ≠ "" := by
  unfold Store.targetZone
  split_ifs with hempty
  · decide
  · exact hempty

theorem addEntity (h : Named s) (e : Entity) : Named (s.addEntity e) := by
  obtain ⟨sim, hsim, heq⟩ := s.exists_addEntity_eq e
  rw [heq]
  exact (h.ensureZone _).placeEntity hsim (targetZone_ne e) _

/-- Deleting identifiers from all maps of entities; zones may keep them. -/
theorem forget (h : Named s) {p : EntityID → Prop} [DecidablePred p]
    (he : ∀ id, s'.entities.get id = if p id then none else s.entities.get id)
    (hez : ∀ id, s'.entityZone.get id = if p id then none else s.entityZone.get id)
    (hmem : ∀ z sim', s'.zones.get z = some sim' → ∃ sim, s.zones.get z = some sim ∧
      ∀ id, sim'.entities.get id = sim.entities.get id ∨ p id ∧ sim'.entities.get id = none)
    (hz : ∀ id z, s'.entityZone.get id = some z → (s.zones.get z).isSome →
      (s'.zones.get z).isSome) (ho : s'.objects = s.objects) : Named s' := by
  have hkept : ∀ id z, s'.entityZone.get id = some z → ¬ p id ∧ s.entityZone.get id = some z := by
    intro id z hget
    rw [hez] at hget
    split_ifs at hget with hp
    exact ⟨hp, hget⟩
  constructor
  case object =>
    intro id r hr
    rw [he] at hr
    split_ifs at hr
    rw [ho]
    exact h.object id r hr
  case member =>
    intro z sim' id r hsim' hr
    obtain ⟨sim, hsim, hsame⟩ := hmem z sim' hsim'
    rw [ho]
    obtain heq | ⟨-, hnone⟩ := hsame id
    · exact h.member z sim id r hsim (heq ▸ hr)
    · rw [hnone] at hr
      cases hr
  case keys_zone =>
    intro id
    rw [he, hez]
    split_ifs
    · rfl
    · exact h.keys_zone id
  case zone =>
    intro id z hget
    obtain ⟨hne, hsome⟩ := h.zone id z (hkept id z hget).2
    exact ⟨hne, hz id z hget hsome⟩
  case home =>
    intro id z sim' hget hsim'
    obtain ⟨hp, hold⟩ := hkept id z hget
    obtain ⟨sim, hsim, hsame⟩ := hmem z sim' hsim'
    rw [he, if_neg hp, ← h.home id z sim hold hsim]
    exact (hsame id).resolve_right fun hgone => hp hgone.1

theorem removeEntity (h : Named s) (id : EntityID) : Named (s.removeEntity id) := by
  unfold Store.removeEntity
  split
  · exact h
  · next zid hzone =>
    dsimp only
    split
    · next sim hsim =>
      refine h.forget (p := (· = id)) (Dict.get_del _ id) (Dict.get_del _ id) ?_ ?_ rfl
      · intro z sim' hsim'
        simp only [Dict.get_set] at hsim'
        split_ifs at hsim' with hz
        · cases hsim'
          refine ⟨sim, hz ▸ hsim, fun x => ?_⟩
          by_cases hx : x = id
          · exact .inr ⟨hx, hx ▸ Dict.get_del_self _ _⟩
          · exact .inl (Dict.get_del_ne _ hx)
        · exact ⟨sim', hsim', fun _ => .inl rfl⟩
      · intro x z _ hsome
        simp only [Dict.get_set]
        split_ifs
        · rfl
        · exact hsome
    · exact h.forget (p := (· = id)) (Dict.get_del _ id) (Dict.get_del _ id)
        (fun z sim hsim => ⟨sim, hsim, fun _ => .inl rfl⟩) (fun _ _ _ hsome => hsome) rfl

theorem releaseZone (h : Named s) {zid : ZoneID} (hs : s.releaseZone zid = .ok s') : Named s' := by
  unfold Store.releaseZone at hs
  split_ifs at hs
  cases hs
  refine h.forget (p := (· ∈ s.entitiesOfZone zid)) (Dict.get_delAll _ _) (Dict.get_delAll _ _)
    ?_ ?_ rfl
  · intro z sim hsim
    simp only [Dict.get_del] at hsim
    split_ifs at hsim
    exact ⟨sim, hsim, fun _ => .inl rfl⟩
  · intro id z hget hsome
    simp only [Dict.get_delAll] at hget
    split_ifs at hget with hmem
    have hz : z ≠ zid := by
      rintro rfl
      exact hmem ((Coherent.mem_entitiesOfZone s z id).mpr hget)
    simpa [hz] using hsome

theorem expire (h : Named s) (id : EntityID) : Named (s.expire id) := by
  unfold Store.expire
  dsimp only
  split
  · split <;>
    exact h.forget (p := (· = id)) (Dict.get_del _ id) (Dict.get_del _ id)
      (fun z sim hsim => ⟨sim, hsim, fun _ => .inl rfl⟩) (fun _ _ _ hsome => hsome) rfl
  · exact h.forget (p := (· = id)) (Dict.get_del _ id) (Dict.get_del _ id)
      (fun z sim hsim => ⟨sim, hsim, fun _ => .inl rfl⟩) (fun _ _ _ hsome => hsome) rfl

theorem change (h : Named s) {g : Game} {c : Call} {ch : Change} (hch : g.Entitled c s ch) :
    Named (s.change ch) := by
  cases ch with
  | assignZone z =>
    simp only [Store.change, Store.assignZone]
    split_ifs with hex
    · exact h
    · have hnew : s.zones.get z.id = none := by simpa using hex
      exact (h.newZone hnew (some z) s.grids.next s.grids).congr rfl rfl rfl rfl fun _ => rfl
  | releaseZone id =>
    simp only [Store.change]
    cases hs : s.releaseZone id with
    | error _ => exact h
    | ok s' => exact h.releaseZone hs
  | addEntity e => exact h.addEntity e
  | removeEntity id => exact h.removeEntity id
  | rewrite r e =>
    obtain ⟨key, -, hid⟩ := hch
    exact h.setObject hid
  | relocate r e id =>
    obtain ⟨key, -, hid, -⟩ := hch
    have hmaps := Store.SameMaps.moveOnGrid (s.setObject r e) id e.position
    exact (h.setObject hid).congr hmaps.zones hmaps.entities hmaps.entityZone
      (by simp [Store.change]) fun q => by simp [Store.change]
  | detect zid sim now id =>
    have hmaps := Store.SameMaps.detectEntity zid sim now s id
    exact h.congr hmaps.zones hmaps.entities hmaps.entityZone (by simp [Store.change])
      fun q => by simp [Store.change]
  | sweepGhost now id =>
    have hmaps := Store.SameMaps.sweepGhost now s id
    exact h.congr hmaps.zones hmaps.entities hmaps.entityZone (by simp [Store.change])
      fun q => by simp [Store.change]
  | see id state => exact h.congr rfl rfl rfl rfl fun _ => rfl
  | expire id => exact h.expire id

theorem onReplicas (h : Named s) (zid : ZoneID) (f : Replicas → Replicas) :
    Named (s.onReplicas zid f) := by
  unfold Store.onReplicas
  split
  · exact h.congr rfl rfl rfl rfl fun _ => rfl
  · exact h

end Named

/-! ## Entities added one after the other -/

namespace Store

variable {s : Store}

theorem entityZone_addEntity (s : Store) (e : Entity) (id : EntityID) :
    (s.addEntity e).entityZone.get id =
      if id = e.id then some (targetZone e) else s.entityZone.get id := by
  obtain ⟨sim, hsim, heq⟩ := s.exists_addEntity_eq e
  have hzone : (s.ensureZone (targetZone e)).entityZone = s.entityZone := by
    unfold ensureZone; split <;> rfl
  rw [heq, placeEntity, deriveSpace_id, Dict.get_set, hzone]

theorem entityOf_addEntity_ne (h : Named s) (e : Entity) {id : EntityID} (hne : id ≠ e.id) :
    (s.addEntity e).entityOf id = s.entityOf id := by
  obtain ⟨sim, hsim, heq⟩ := s.exists_addEntity_eq e
  rw [heq]
  simp only [entityOf, placeEntity, deriveSpace_id, ensureZone_entities, ensureZone_objects,
    Dict.get_set_ne _ _ hne]
  refine Option.map_congr fun r hr => ?_
  exact Heap.cell_alloc_of_lt _ _ (h.object id r hr).1

/-- The zone has no record that could give its entities a Space. -/
def Recordless (s : Store) (z : ZoneID) : Prop :=
  ∀ sim, s.zones.get z = some sim → sim.zone = none

theorem Recordless.ensureZone {z : ZoneID} (h : s.Recordless z) (zid : ZoneID) :
    (s.ensureZone zid).Recordless z := by
  unfold Store.ensureZone
  split
  · exact h
  · intro sim hsim
    simp only [Dict.get_set] at hsim
    split_ifs at hsim
    · cases hsim; rfl
    · exact h sim hsim

theorem Recordless.addEntity {z : ZoneID} (h : s.Recordless z) (e : Entity) :
    (s.addEntity e).Recordless z := by
  obtain ⟨sim, hsim, heq⟩ := s.exists_addEntity_eq e
  have hensure := h.ensureZone (targetZone e)
  rw [heq]
  intro sim' hsim'
  simp only [placeEntity, Dict.get_set] at hsim'
  split_ifs at hsim' with hz
  · cases hsim'
    exact hensure sim (hz ▸ hsim)
  · exact hensure sim' hsim'

/-- An entity added to such a zone is found there as it was added. -/
theorem entityOf_addEntity_self (e : Entity) (hz : s.Recordless (targetZone e)) :
    (s.addEntity e).entityOf e.id = some { e with zoneID := targetZone e } := by
  obtain ⟨sim, hsim, heq⟩ := s.exists_addEntity_eq e
  have hrecord : sim.zone = none := hz.ensureZone _ sim hsim
  rw [heq]
  simp [entityOf, placeEntity, deriveSpace, hrecord]

/-- Adding entities of different names changes nothing about the others, and the
added ones are found as they were added. -/
theorem foldl_addEntity (h : Named s) {es : List Entity} (hnodup : (es.map Entity.id).Nodup)
    (hz : ∀ e ∈ es, s.Recordless (targetZone e)) :
    (∀ id, id ∉ es.map Entity.id → (es.foldl addEntity s).entityOf id = s.entityOf id ∧
      (es.foldl addEntity s).entityZone.get id = s.entityZone.get id) ∧
    ∀ e ∈ es, (es.foldl addEntity s).entityOf e.id = some { e with zoneID := targetZone e } ∧
      (es.foldl addEntity s).entityZone.get e.id = some (targetZone e) := by
  induction es generalizing s with
  | nil => simp
  | cons e es ih =>
    rw [List.map_cons, List.nodup_cons] at hnodup
    obtain ⟨hothers, hadded⟩ := ih (h.addEntity e) hnodup.2
      fun e' he' => (hz e' (List.mem_cons_of_mem _ he')).addEntity e
    rw [List.foldl_cons]
    constructor
    · intro id hid
      rw [List.map_cons, List.mem_cons, not_or] at hid
      rw [(hothers id hid.2).1, (hothers id hid.2).2, entityOf_addEntity_ne h e hid.1,
        entityZone_addEntity, if_neg hid.1]
      exact ⟨rfl, rfl⟩
    · intro e' he'
      rcases List.mem_cons.mp he' with rfl | he'
      · rw [(hothers e'.id hnodup.1).1, (hothers e'.id hnodup.1).2, entityZone_addEntity,
          if_pos rfl]
        exact ⟨entityOf_addEntity_self e' (hz e' List.mem_cons_self), rfl⟩
      · exact hadded e' he'

end Store

/-- Grids of different zones are different, in either index, and an assigned
zone has one grid in both. -/
structure Housed (s : Store) : Prop where
  own_grids : OwnGrids s.zones s.grids s.aoiRadius
  radius : s.aoiRadius = defaultAOIRadius
  index_lt : ∀ z ref, s.aoiIndex.get z = some ref → ref < s.grids.next
  index_inj : ∀ z z' ref, s.aoiIndex.get z = some ref → s.aoiIndex.get z' = some ref → z = z'
  index_sim : ∀ z z' sim, s.zones.get z = some sim → s.aoiIndex.get z' = some sim.aoi → z' = z
  assigned : ∀ z sim, s.zones.get z = some sim → sim.zone.isSome → s.aoiIndex.get z = some sim.aoi
  stores : ∀ z, (s.ghostStore.get z).isSome = (s.aoiIndex.get z).isSome

namespace Housed

variable {s s' : Store}

theorem empty : Housed Store.empty := by
  constructor
  case own_grids => constructor <;> simp [Store.empty]
  all_goals simp [Store.empty]

theorem radius_nonneg (h : Housed s) : 0 ≤ s.aoiRadius := by
  rw [h.radius]
  norm_num [defaultAOIRadius]

/-- A zone that neighbours know has a replica store. -/
theorem exists_store (h : Housed s) {z : ZoneID} {ref : ℕ} (hindex : s.aoiIndex.get z = some ref) :
    ∃ store, s.ghostStore.get z = some store := by
  rw [← Option.isSome_iff_exists, h.stores, hindex]
  rfl

/-- Members of zones, entries of replica stores and contents of grids may change
freely. -/
theorem frame (h : Housed s) (hz : ∀ z sim', s'.zones.get z = some sim' →
      ∃ sim, s.zones.get z = some sim ∧ sim.aoi = sim'.aoi ∧ sim.zone = sim'.zone)
    (hi : s'.aoiIndex = s.aoiIndex)
    (hst : ∀ z, (s'.ghostStore.get z).isSome = (s.ghostStore.get z).isSome)
    (hn : s'.grids.next = s.grids.next)
    (hg : ∀ ref, AOI.SameCells (s.grids.cell ref) (s'.grids.cell ref))
    (hr : s'.aoiRadius = s.aoiRadius) : Housed s' := by
  constructor
  case own_grids =>
    constructor
    case lt =>
      intro z sim' hsim'
      obtain ⟨sim, hsim, haoi, -⟩ := hz z sim' hsim'
      rw [hn, ← haoi]
      exact h.own_grids.lt z sim hsim
    case covers =>
      intro z sim' hsim'
      obtain ⟨sim, hsim, haoi, -⟩ := hz z sim' hsim'
      obtain ⟨hsize, hrange⟩ := hg sim.aoi
      have hcov := h.own_grids.covers z sim hsim
      rw [← haoi, hr]
      simpa only [AOI.Covers, hsize, hrange] using hcov
    case inj =>
      intro z z' sim₁ sim₂ hsim₁ hsim₂ heq
      obtain ⟨old₁, hold₁, haoi₁, -⟩ := hz z sim₁ hsim₁
      obtain ⟨old₂, hold₂, haoi₂, -⟩ := hz z' sim₂ hsim₂
      exact h.own_grids.inj z z' old₁ old₂ hold₁ hold₂ (haoi₁.trans (heq.trans haoi₂.symm))
  case radius => exact hr.trans h.radius
  case index_lt => rw [hi, hn]; exact h.index_lt
  case index_inj => rw [hi]; exact h.index_inj
  case index_sim =>
    intro z z' sim' hsim' href
    obtain ⟨sim, hsim, haoi, -⟩ := hz z sim' hsim'
    rw [hi, ← haoi] at href
    exact h.index_sim z z' sim hsim href
  case assigned =>
    intro z sim' hsim' hzone
    obtain ⟨sim, hsim, haoi, hzr⟩ := hz z sim' hsim'
    rw [hi, ← haoi]
    exact h.assigned z sim hsim (hzr ▸ hzone)
  case stores => intro z; rw [hst, hi]; exact h.stores z

/-- Nothing but the contents of one grid changes. -/
theorem updateGrid (h : Housed s) (ref : ℕ) {f : AOI → AOI} (hf : ∀ a, AOI.SameCells a (f a)) :
    Housed (s.updateGrid ref f) := by
  refine h.frame (fun z sim hsim => ⟨sim, hsim, rfl, rfl⟩) rfl (fun _ => rfl) rfl (fun q => ?_) rfl
  by_cases hq : q = ref
  · subst q; simpa [Store.updateGrid] using hf _
  · simpa [Store.updateGrid, hq] using AOI.SameCells.refl _

/-- The index with a zone on a new grid. -/
theorem index_lt_set (h : Housed s) (zid : ZoneID) {y : ZoneID} {ref : ℕ}
    (href : (s.aoiIndex.set zid s.grids.next).get y = some ref) : ref < s.grids.next + 1 := by
  simp only [Dict.get_set] at href
  split_ifs at href
  · cases href; exact Nat.lt_succ_self _
  · exact Nat.lt_succ_of_lt (h.index_lt y ref href)

theorem index_inj_set (h : Housed s) (zid : ZoneID) {y y' : ZoneID} {ref : ℕ}
    (href : (s.aoiIndex.set zid s.grids.next).get y = some ref)
    (href' : (s.aoiIndex.set zid s.grids.next).get y' = some ref) : y = y' := by
  simp only [Dict.get_set] at href href'
  split_ifs at href href' with hy hy' hy'
  · exact hy.trans hy'.symm
  · cases href; exact absurd (h.index_lt y' _ href') (lt_irrefl _)
  · cases href'; exact absurd (h.index_lt y _ href) (lt_irrefl _)
  · exact h.index_inj y y' ref href href'

theorem stores_set (h : Housed s) (zid : ZoneID) (store : Dict EntityID GhostEntry) (ref : ℕ)
    (y : ZoneID) :
    ((s.ghostStore.set zid store).get y).isSome = ((s.aoiIndex.set zid ref).get y).isSome := by
  simp only [Dict.get_set]
  split_ifs
  · rfl
  · exact h.stores y

/-- A zone that is new to both the zones and their index. -/
theorem assignZone (h : Housed s) (z : Zone) (hs : s.assignZone z = .ok s') : Housed s' := by
  unfold Store.assignZone at hs
  split_ifs at hs with hex
  cases hs
  constructor
  case own_grids =>
    exact h.own_grids.alloc ⟨by norm_num [AOI.new, defaultCellSize], rfl⟩ z.id (some z) ∅
  case radius => exact h.radius
  case index_lt => exact fun _ _ => h.index_lt_set z.id
  case index_inj => exact fun _ _ _ => h.index_inj_set z.id
  case index_sim =>
    intro y y' sim hsim href
    simp only [Dict.get_set] at hsim href
    split_ifs at hsim href with hy hy' hy'
    · exact hy'.trans hy.symm
    · cases hsim; exact absurd (h.index_lt y' _ href) (lt_irrefl _)
    · exact absurd (Option.some.inj href) (h.own_grids.lt y sim hsim).ne'
    · exact h.index_sim y y' sim hsim href
  case assigned =>
    intro y sim hsim hzone
    simp only [Dict.get_set] at hsim ⊢
    split_ifs at hsim ⊢
    · cases hsim; rfl
    · exact h.assigned y sim hsim hzone
  case stores => exact h.stores_set z.id ∅ _

theorem ensureZone (h : Housed s) (zid : ZoneID) : Housed (s.ensureZone zid) := by
  unfold Store.ensureZone
  split
  · exact h
  · constructor
    case own_grids =>
      exact h.own_grids.alloc ⟨by norm_num [AOI.new, defaultCellSize], rfl⟩ zid none ∅
    case radius => exact h.radius
    case index_lt => exact fun y ref href => Nat.lt_succ_of_lt (h.index_lt y ref href)
    case index_inj => exact h.index_inj
    case index_sim =>
      intro y y' sim hsim href
      simp only [Dict.get_set] at hsim
      split_ifs at hsim
      · cases hsim; exact absurd (h.index_lt y' _ href) (lt_irrefl _)
      · exact h.index_sim y y' sim hsim href
    case assigned =>
      intro y sim hsim hzone
      simp only [Dict.get_set] at hsim
      split_ifs at hsim
      · cases hsim; simp at hzone
      · exact h.assigned y sim hsim hzone
    case stores => exact h.stores

/-- A zone that is new to the index alone. -/
theorem openIndex (h : Housed s) (zid : ZoneID) (state : Option SerializedAOI)
    (order : List EntityID) : Housed (s.openIndex zid state order) := by
  unfold Store.openIndex
  split
  · exact h
  · next hnone =>
    constructor
    case own_grids =>
      refine ⟨fun y sim hsim => Nat.lt_succ_of_lt (h.own_grids.lt y sim hsim), fun y sim hsim => ?_,
        h.own_grids.inj⟩
      rw [Heap.cell_alloc_of_lt _ _ (h.own_grids.lt y sim hsim)]
      exact h.own_grids.covers y sim hsim
    case radius => exact h.radius
    case index_lt => exact fun _ _ => h.index_lt_set zid
    case index_inj => exact fun _ _ _ => h.index_inj_set zid
    case index_sim =>
      intro y y' sim hsim href
      simp only [Dict.get_set] at href
      split_ifs at href
      · exact absurd (Option.some.inj href) (h.own_grids.lt y sim hsim).ne'
      · exact h.index_sim y y' sim hsim href
    case assigned =>
      intro y sim hsim hzone
      have hold := h.assigned y sim hsim hzone
      have hy : y ≠ zid := by rintro rfl; simp [hnone] at hold
      simpa [hy] using hold
    case stores => exact h.stores_set zid ∅ _

theorem releaseZone (h : Housed s) {zid : ZoneID} (hs : s.releaseZone zid = .ok s') :
    Housed s' := by
  unfold Store.releaseZone at hs
  split_ifs at hs
  cases hs
  have hkept : ∀ {V : Type} (m : Dict ZoneID V) (z : ZoneID) (v : V), (m.del zid).get z = some v →
      z ≠ zid ∧ m.get z = some v := by
    intro V m z v hget
    simp only [Dict.get_del] at hget
    split_ifs at hget with hz
    exact ⟨hz, hget⟩
  constructor
  case own_grids => exact h.own_grids.del zid
  case radius => exact h.radius
  case index_lt => exact fun z ref href => h.index_lt z ref (hkept _ z ref href).2
  case index_inj =>
    exact fun z z' ref href href' =>
      h.index_inj z z' ref (hkept _ z ref href).2 (hkept _ z' ref href').2
  case index_sim =>
    exact fun z z' sim hsim href =>
      h.index_sim z z' sim (hkept _ z sim hsim).2 (hkept _ z' _ href).2
  case assigned =>
    intro z sim hsim hzone
    obtain ⟨hz, hsim⟩ := hkept _ z sim hsim
    simpa [hz] using h.assigned z sim hsim hzone
  case stores =>
    intro z
    simp only [Dict.get_del]
    split_ifs
    · rfl
    · exact h.stores z

/-- Only the members of one zone and the contents of its grid change. -/
theorem updateZone (h : Housed s) {zid : ZoneID} {sim : ZoneSim}
    (hsim : s.zones.get zid = some sim) (entities : Dict EntityID ℕ) (ref : ℕ) {a : AOI}
    (ha : AOI.SameCells (s.grids.cell ref) a)
    (hz : s'.zones = s.zones.set zid { sim with entities := entities })
    (hi : s'.aoiIndex = s.aoiIndex) (hst : s'.ghostStore = s.ghostStore)
    (hg : s'.grids = s.grids.write ref a) (hr : s'.aoiRadius = s.aoiRadius) : Housed s' := by
  refine h.frame (fun z sim' hsim' => ?_) hi (fun _ => by rw [hst]) (by rw [hg]; rfl)
    (fun q => ?_) hr
  · rw [hz, Dict.get_set] at hsim'
    split_ifs at hsim' with heq
    · cases hsim'; exact ⟨sim, heq ▸ hsim, rfl, rfl⟩
    · exact ⟨sim', hsim', rfl, rfl⟩
  · rw [hg]
    by_cases hq : q = ref
    · subst q; simpa using ha
    · simpa [hq] using AOI.SameCells.refl _

theorem addEntity (h : Housed s) (e : Entity) : Housed (s.addEntity e) := by
  obtain ⟨sim, hsim, heq⟩ := s.exists_addEntity_eq e
  rw [heq]
  exact (h.ensureZone _).updateZone hsim _ sim.aoi (.enter _ _ _) rfl rfl rfl rfl rfl

theorem removeEntity (h : Housed s) (id : EntityID) : Housed (s.removeEntity id) := by
  unfold Store.removeEntity
  split
  · exact h
  · dsimp only
    split
    · next sim hsim => exact h.updateZone hsim _ sim.aoi (.leave _ _) rfl rfl rfl rfl rfl
    · exact h.frame (fun z sim hsim => ⟨sim, hsim, rfl, rfl⟩) rfl (fun _ => rfl) rfl
        (fun _ => .refl _) rfl

theorem change (h : Housed s) (ch : Change) : Housed (s.change ch) := by
  have hsame : ∀ {s' : Store}, Housed s' → ∀ s'' : Store, s''.zones = s'.zones →
      s''.aoiIndex = s'.aoiIndex → s''.ghostStore = s'.ghostStore → s''.grids = s'.grids →
      s''.aoiRadius = s'.aoiRadius → Housed s'' := by
    intro s' h' s'' hz hi hst hg hr
    exact h'.frame (fun z sim hsim => ⟨sim, hz ▸ hsim, rfl, rfl⟩) hi (fun _ => by rw [hst])
      (by rw [hg]) (fun _ => by rw [hg]; exact .refl _) hr
  cases ch with
  | assignZone z =>
    simp only [Store.change]
    cases hs : s.assignZone z with
    | error _ => exact h
    | ok s' => exact h.assignZone z hs
  | releaseZone id =>
    simp only [Store.change]
    cases hs : s.releaseZone id with
    | error _ => exact h
    | ok s' => exact h.releaseZone hs
  | addEntity e => exact h.addEntity e
  | removeEntity id => exact h.removeEntity id
  | rewrite r e => exact hsame h _ rfl rfl rfl rfl rfl
  | relocate r e id =>
    simp only [Store.change, Store.moveOnGrid]
    have hobject : Housed (s.setObject r e) := hsame h _ rfl rfl rfl rfl rfl
    split
    · exact hobject.updateGrid _ fun a => .move a id e.position
    · exact hobject
  | detect zid sim now id =>
    simp only [Store.change, Store.detectEntity]
    split
    · split
      · exact h
      · exact hsame (h.updateGrid sim.aoi fun a => .enter a _ _) _ rfl rfl rfl rfl rfl
    · exact h
  | sweepGhost now id =>
    simp only [Store.change, Store.sweepGhost]
    split
    · exact h
    · split
      · exact h
      · split
        · next sim _ => exact hsame (h.updateGrid sim.aoi fun a => .leave a id) _ rfl rfl rfl rfl rfl
        · exact hsame h _ rfl rfl rfl rfl rfl
  | see id state => exact hsame h _ rfl rfl rfl rfl rfl
  | expire id =>
    simp only [Store.change, Store.expire]
    split
    · split
      · next ref _ => exact hsame (h.updateGrid ref fun a => .leave a id) _ rfl rfl rfl rfl rfl
      · exact hsame h _ rfl rfl rfl rfl rfl
    · exact hsame h _ rfl rfl rfl rfl rfl

theorem onReplicas (h : Housed s) (zid : ZoneID) {f : Replicas → Replicas}
    (hf : ∀ ref store, s.ghostStore.get zid = some store →
      AOI.SameCells (s.grids.cell ref) (f ⟨s.grids.cell ref, store⟩).grid) :
    Housed (s.onReplicas zid f) := by
  unfold Store.onReplicas
  split
  · next ref store _ hstore =>
    refine h.frame (fun z sim hsim => ⟨sim, hsim, rfl, rfl⟩) rfl (fun z => ?_) rfl (fun q => ?_) rfl
    · simp only [Dict.get_set]
      split_ifs with hz
      · subst z; simp [hstore]
      · rfl
    · by_cases hq : q = ref
      · subst q; simpa using hf ref store hstore
      · simpa [hq] using AOI.SameCells.refl _
  · exact h

end Housed

/-! ## Runs -/

/-- The invariants of every reachable store. -/
structure Sound (s : Store) : Prop where
  named : Named s
  housed : Housed s
  replicas : ∀ gid gh, s.ghosts.get gid = some gh → gid = localGhostID gh.entityID
  remote : ∀ z store, s.ghostStore.get z = some store → Replicas.RemoteOnly store

namespace Sound

variable {s : Store}

theorem empty : Sound Store.empty :=
  ⟨Named.empty, Housed.empty, by simp [Store.empty], by simp [Store.empty]⟩

theorem change (h : Sound s) {g : Game} {c : Call} {ch : Change} (hch : g.Entitled c s ch) :
    Sound (s.change ch) := by
  refine ⟨h.named.change hch, h.housed.change ch, fun gid gh hgh => ?_, fun z store hstore => ?_⟩
  · obtain hsame | hnone | ⟨zid, sim, now, id, gh', -, -, rfl, rfl, hnew⟩ := s.ghosts_change ch gid
    · exact h.replicas gid gh (hsame.symm.trans hgh)
    · rw [hnone] at hgh
      cases hgh
    · rw [hnew] at hgh
      cases hgh
      rfl
  · obtain hsame | rfl := Store.ghostStore_change_cases hstore
    · exact h.remote z store hsame
    · exact .empty

theorem onReplicas (h : Sound s) (zid : ZoneID) (op : Replicas.Op) :
    Sound (s.onReplicas zid op.run) := by
  refine ⟨h.named.onReplicas zid _, h.housed.onReplicas zid fun ref store hstore =>
    (Replicas.remoteStep_run op (h.remote zid store hstore)).cells, ?_, ?_⟩
  · unfold Store.onReplicas
    split <;> exact h.replicas
  · unfold Store.onReplicas
    split
    · next ref old _ hold =>
      intro z store hstore
      simp only [Dict.get_set] at hstore
      split_ifs at hstore
      · cases hstore
        exact (Replicas.remoteStep_run op (h.remote zid old hold)).remote
      · exact h.remote z store hstore
    · exact h.remote

theorem openIndex (h : Sound s) (zid : ZoneID) (state : Option SerializedAOI)
    (order : List EntityID) : Sound (s.openIndex zid state order) := by
  have hhoused := h.housed.openIndex zid state order
  unfold Store.openIndex at hhoused ⊢
  split at hhoused
  · exact h
  · refine ⟨h.named.congr rfl rfl rfl rfl fun _ => rfl, hhoused, h.replicas,
      fun z store hstore => ?_⟩
    simp only [Dict.get_set] at hstore
    split_ifs at hstore
    · cases hstore
      exact .empty
    · exact h.remote z store hstore

end Sound

namespace Game

theorem sound_step (H : Host) {g : Game} (h : Sound g.toStore) (c : Call) :
    Sound (step H g c).toStore :=
  store_invariant H (fun _ _ hs hch => hs.change hch) h

theorem sound_nodeStep (H : Host) {g : Game} (h : Sound g.toStore) (c : NodeCall) :
    Sound (nodeStep H g c).toStore := by
  obtain ⟨c, rfl⟩ | ⟨zid, state, order, rfl⟩ | heq | ⟨zid, op, heq, -⟩ := nodeStep_cases H g c
  · exact sound_step H h c
  · exact h.openIndex zid state order
  · rw [heq]
    exact h
  · rw [heq]
    exact h.onReplicas zid op

theorem sound_exec (H : Host) (sid : ServerID) (calls : List NodeCall) :
    Sound (exec (nodeStep H) (new sid) calls).toStore := by
  refine exec_keeps (fun g : Game => Sound g.toStore) (fun _ c hg => ?_) Sound.empty calls
  exact sound_nodeStep H hg c

end Game

/-! ## Coherence with neighbours -/

namespace Coherent

variable {s : Store}

theorem onReplicas (h : Coherent s) (hs : Sound s) (zid : ZoneID) (op : Replicas.Op) :
    Coherent (s.onReplicas zid op.run) := by
  unfold Store.onReplicas
  split
  · next ref store _ hstore =>
    have hstep : ∀ a : AOI, Replicas.RemoteStep ⟨a, store⟩ (op.run ⟨a, store⟩) := fun a =>
      Replicas.remoteStep_run op (hs.remote zid store hstore)
    have hnot : ∀ id, isGhostID id = false → ¬ EndsInGhost id := by
      intro id hid hends
      obtain ⟨x, rfl⟩ := (endsInGhost_iff id).mp hends
      rw [isGhostID_remoteGhostID] at hid
      cases hid
    exact (h.updateGrid ref (f := fun a => (op.run ⟨a, store⟩).grid)
      (fun a id hid => (hstep a).others id (hnot id hid)) (fun a => (hstep a).cells.1)
      fun a => (hstep a).cells.2).congr rfl rfl rfl rfl rfl rfl rfl h.ghost_keys
  · exact h

theorem openIndex (h : Coherent s) (zid : ZoneID) (state : Option SerializedAOI)
    (order : List EntityID) : Coherent (s.openIndex zid state order) := by
  unfold Store.openIndex
  split
  · exact h
  · have hcell : ∀ z sim, s.zones.get z = some sim → (s.grids.alloc
        (AOI.deserialize defaultCellSize s.aoiRadius state order)).cell sim.aoi =
          s.grids.cell sim.aoi :=
      fun z sim hsim => Heap.cell_alloc_of_lt _ _ (h.own_grids.lt z sim hsim)
    obtain ⟨h1, h2, h3, h4, h5, h6, h7, h8, h9, h10, h11⟩ := h
    constructor <;> try assumption
    case own_grids =>
      refine ⟨fun z sim hsim => Nat.lt_succ_of_lt (h8.lt z sim hsim), fun z sim hsim => ?_, h8.inj⟩
      rw [hcell z sim hsim]
      exact h8.covers z sim hsim
    case holds =>
      intro z sim id r hsim hr
      rw [hcell z sim hsim]
      exact h9 z sim id r hsim hr
    case lacks =>
      intro z sim id hsim hr hid
      rw [hcell z sim hsim]
      exact h10 z sim id hsim hr hid

end Coherent

namespace Game

/-- The calls of the server itself are admissible. -/
def OwnAdmissible (g : Game) : NodeCall → Prop
  | .own c => g.Admissible c
  | _ => True

instance (g : Game) (c : NodeCall) : Decidable (g.OwnAdmissible c) := by
  unfold OwnAdmissible
  split <;> infer_instance

theorem coherent_nodeStep (H : Host) {g : Game} {c : NodeCall} (h : Coherent g.toStore)
    (hs : Sound g.toStore) (hc : g.OwnAdmissible c) : Coherent (nodeStep H g c).toStore := by
  obtain ⟨c, rfl⟩ | ⟨zid, state, order, rfl⟩ | heq | ⟨zid, op, heq, -⟩ := nodeStep_cases H g c
  · exact coherent_step H h hc
  · exact h.openIndex zid state order
  · rw [heq]
    exact h
  · rw [heq]
    exact h.onReplicas hs zid op

theorem coherent_nodeExec (H : Host) (sid : ServerID) {calls : List NodeCall}
    (h : Along (nodeStep H) OwnAdmissible (new sid) calls) :
    Coherent (exec (nodeStep H) (new sid) calls).toStore :=
  (exec_invariant (fun g : Game => Coherent g.toStore ∧ Sound g.toStore)
    (fun _ c hg hc => ⟨coherent_nodeStep H hg.1 hg.2 hc, sound_nodeStep H hg.2 c⟩)
    ⟨Coherent.empty, Sound.empty⟩ h).1

end Game

end SpatialServer

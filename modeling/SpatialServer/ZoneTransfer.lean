import SpatialServer.ReachableStores

/-!
# A zone that moves to another server

The source writes a snapshot of the zone and the target loads it. A snapshot
message has a name, a type and a position for each entity, and the target has
no record of the zone from which it could derive a Space, so attributes and
Space arrive empty. Everything else about the zone arrives, and the entities
that were on the target before stay as they were.
-/
namespace SpatialServer

open Runs

/-- The entities agree in everything a transfer is to preserve. -/
structure Entity.SameAs (e e' : Entity) : Prop where
  id : e'.id = e.id
  type : e'.type = e.type
  position : e'.position = e.position
  attrs : ∀ key, e'.attrs.get key = e.attrs.get key
  runtimeID : e'.runtimeID = e.runtimeID

/-- What a snapshot message does not have room for is empty. -/
def Entity.Plain (e : Entity) : Prop := (∀ key, e.attrs.get key = none) ∧ e.runtimeID = ""

/-- The target had the store `t` and now has `t'`: its entities in the zone are
those of the source, and its other entities are as before. -/
structure Transferred (s t t' : Store) (z : ZoneID) : Prop where
  members : ∀ id, t'.entityZone.get id = some z ↔ s.entityZone.get id = some z
  same : ∀ id e, s.entityZone.get id = some z → s.entityOf id = some e →
    ∃ e', t'.entityOf id = some e' ∧ e.SameAs e'
  others : ∀ id, s.entityZone.get id ≠ some z →
    t'.entityOf id = t.entityOf id ∧ t'.entityZone.get id = t.entityZone.get id

namespace Store

/-- The entity as it arrives. -/
def carried (e : Entity) (z : ZoneID) : Entity := snapshotEntity (entitySnapshot e) z

/-- Whatever a plain entity loses it did not have. -/
theorem sameAs_carried_iff (e : Entity) (z : ZoneID) : e.SameAs (carried e z) ↔ e.Plain := by
  constructor
  · intro h
    exact ⟨fun key => (h.attrs key).symm.trans (Dict.get_empty key), h.runtimeID.symm⟩
  · rintro ⟨hattrs, hspace⟩
    exact ⟨rfl, rfl, rfl, fun key => (hattrs key).symm ▸ Dict.get_empty key, hspace.symm⟩

variable {s t : Store} {z : ZoneID}

theorem exists_entityOf (h : Named s) {id : EntityID} {z : ZoneID}
    (hz : s.entityZone.get id = some z) : ∃ e, s.entityOf id = some e := by
  have hsome : (s.entities.get id).isSome := by rw [← h.keys_zone, hz]; rfl
  obtain ⟨r, hr⟩ := Option.isSome_iff_exists.mp hsome
  exact ⟨s.objects.cell r, by simp [entityOf, hr]⟩

theorem mem_snapshotZone {order : List EntityID} {snap : ZoneSnapshot}
    (hsnap : s.snapshotZone z order = some snap) (e' : EntitySnapshot) :
    e' ∈ snap.entities ↔
      ∃ id e, s.entityZone.get id = some z ∧ s.entityOf id = some e ∧ e' = entitySnapshot e := by
  unfold snapshotZone at hsnap
  split at hsnap
  · cases hsnap
  · cases hsnap
    simp only [List.mem_filterMap, Dict.mem_range_iff, Option.ite_none_right_eq_some]
    constructor
    · rintro ⟨id, -, hz, he⟩
      obtain ⟨r, hr, rfl⟩ := Option.map_eq_some_iff.mp he
      exact ⟨id, s.objects.cell r, hz, by simp [entityOf, hr], rfl⟩
    · rintro ⟨id, e, hz, he, rfl⟩
      obtain ⟨r, hr, rfl⟩ := Option.map_eq_some_iff.mp he
      exact ⟨id, by simp [hz], hz, by simp [hr]⟩

/-- A snapshot names no entity twice. -/
theorem nodup_snapshotZone (h : Named s) {order : List EntityID} {snap : ZoneSnapshot}
    (hsnap : s.snapshotZone z order = some snap) :
    (snap.entities.map EntitySnapshot.entityID).Nodup := by
  unfold snapshotZone at hsnap
  split at hsnap
  · cases hsnap
  · cases hsnap
    have hfilter : ((s.entityZone.range order).filterMap fun id =>
        if s.entityZone.get id = some z then
          (s.entities.get id).map fun r => entitySnapshot (s.objects.cell r)
        else none).map EntitySnapshot.entityID =
          (s.entityZone.range order).filter fun id => s.entityZone.get id = some z := by
      rw [List.map_filterMap, ← List.filterMap_eq_filter]
      refine List.filterMap_congr fun id _ => ?_
      by_cases hz : s.entityZone.get id = some z
      · obtain ⟨e, he⟩ := exists_entityOf h hz
        obtain ⟨r, hr, -⟩ := Option.map_eq_some_iff.mp he
        simp [hz, hr, entitySnapshot, (h.object id r hr).2, Option.guard]
      · simp [hz, Option.guard]
    rw [hfilter]
    exact (Dict.nodup_range order _).filter _

/-- Opening the index touches neither entities nor zones. -/
theorem openIndex_eq (t : Store) (z : ZoneID) (state : Option SerializedAOI)
    (order : List EntityID) : ∃ grids index stores, t.openIndex z state order =
      { t with grids := grids, aoiIndex := index, ghostStore := stores } := by
  unfold openIndex
  split
  · exact ⟨t.grids, t.aoiIndex, t.ghostStore, rfl⟩
  · exact ⟨_, _, _, rfl⟩

/-- What a loaded snapshot leaves on a target that did not have the zone. -/
theorem loadZoneSnapshot_spec (hs : Named s) (ht : Named t) {order : List EntityID}
    (order' : List EntityID) {snap : ZoneSnapshot} (hsnap : s.snapshotZone z order = some snap)
    (hzone : t.zones.get z = none) :
    (∀ id, s.entityZone.get id ≠ some z →
      (t.loadZoneSnapshot snap order').entityOf id = t.entityOf id ∧
      (t.loadZoneSnapshot snap order').entityZone.get id = t.entityZone.get id) ∧
    ∀ id e, s.entityZone.get id = some z → s.entityOf id = some e →
      (t.loadZoneSnapshot snap order').entityOf id = some (carried e z) ∧
      (t.loadZoneSnapshot snap order').entityZone.get id = some z := by
  have hid : snap.zoneID = z := by
    unfold snapshotZone at hsnap
    split at hsnap
    · cases hsnap
    · cases hsnap; rfl
  have hload : t.loadZoneSnapshot snap order' =
      (snap.entities.map (snapshotEntity · z)).foldl addEntity
        (t.openIndex z snap.aoiState order') := by
    rw [loadZoneSnapshot, List.foldl_map, hid]
  obtain ⟨grids, index, stores, hopen⟩ := t.openIndex_eq z snap.aoiState order'
  have htarget : ∀ e ∈ snap.entities.map (snapshotEntity · z), targetZone e = z := by
    intro e he
    obtain ⟨e', he', rfl⟩ := List.mem_map.mp he
    obtain ⟨id, e, hz, -, rfl⟩ := (mem_snapshotZone hsnap e').mp he'
    exact if_neg (hs.zone id z hz).1
  have hrecordless : ({ t with grids := grids, aoiIndex := index, ghostStore := stores } :
      Store).Recordless z := by
    intro sim hsim
    rw [show t.zones.get z = some sim from hsim] at hzone
    cases hzone
  have hmap : (snap.entities.map (snapshotEntity · z)).map Entity.id =
      snap.entities.map EntitySnapshot.entityID := by
    rw [List.map_map]; rfl
  obtain ⟨hothers, hadded⟩ := foldl_addEntity
    (ht.congr rfl rfl rfl rfl fun _ => rfl : Named { t with
      grids := grids, aoiIndex := index, ghostStore := stores })
    (hmap ▸ nodup_snapshotZone hs hsnap) fun e he => (htarget e he).symm ▸ hrecordless
  rw [hload, hopen]
  constructor
  · intro id hne
    refine hothers id fun hmem => hne ?_
    obtain ⟨e', he', rfl⟩ := List.mem_map.mp (hmap ▸ hmem)
    obtain ⟨id, e, hz, he, rfl⟩ := (mem_snapshotZone hsnap e').mp he'
    rw [entitySnapshot, hs.id_of_entityOf he]
    exact hz
  · intro id e hz he
    have hmem : carried e z ∈ snap.entities.map (snapshotEntity · z) :=
      List.mem_map_of_mem ((mem_snapshotZone hsnap _).mpr ⟨id, e, hz, he, rfl⟩)
    have hname : (carried e z).id = id := (hs.id_of_entityOf he : e.id = id)
    have hfound := hadded _ hmem
    rw [htarget _ hmem, hname] at hfound
    exact ⟨hname ▸ hfound.1, hfound.2⟩

theorem transferred_iff (hs : Named s) (ht : Named t) {order order' : List EntityID}
    {snap : ZoneSnapshot} (hsnap : s.snapshotZone z order = some snap)
    (hzone : t.zones.get z = none) :
    Transferred s t (t.loadZoneSnapshot snap order') z ↔
      ∀ id e, s.entityZone.get id = some z → s.entityOf id = some e → e.Plain := by
  obtain ⟨hothers, hadded⟩ := loadZoneSnapshot_spec hs ht order' hsnap hzone
  constructor
  · intro h id e hz he
    obtain ⟨e', he', hsame⟩ := h.same id e hz he
    rw [(hadded id e hz he).1] at he'
    cases he'
    exact (sameAs_carried_iff e z).mp hsame
  · intro h
    refine ⟨fun id => ⟨fun hin => ?_, fun hz => ?_⟩, fun id e hz he => ?_, hothers⟩
    · by_contra hne
      rw [(hothers id hne).2] at hin
      have hsome := (ht.zone id z hin).2
      rw [hzone] at hsome
      cases hsome
    · obtain ⟨e, he⟩ := exists_entityOf hs hz
      exact (hadded id e hz he).2
    · exact ⟨_, (hadded id e hz he).1, (sameAs_carried_iff e z).mpr (h id e hz he)⟩

end Store

namespace Game

/-- A zone assigned on one server has a snapshot, and a server without the zone
has all of it after loading that snapshot, exactly if no entity of the zone has
attributes or a Space. -/
theorem zone_transfer_preserves_iff (H H' : Host) (sid sid' : ServerID)
    (calls calls' : List NodeCall) (z : ZoneID) (sim : ZoneSim)
    (hz : (exec (nodeStep H) (new sid) calls).zones.get z = some sim) (hassigned : sim.zone.isSome)
    (hzone : (exec (nodeStep H') (new sid') calls').zones.get z = none)
    (order order' : List EntityID) :
    let s := exec (nodeStep H) (new sid) calls
    let t := exec (nodeStep H') (new sid') calls'
    ∃ snap, s.snapshotZone z order = some snap ∧
      (Transferred s.toStore t.toStore (t.loadZoneSnapshot snap order').toStore z ↔
        ∀ id e, s.entityZone.get id = some z → s.entityOf id = some e → e.Plain) := by
  intro s t
  have hs := sound_exec H sid calls
  have ht := sound_exec H' sid' calls'
  have hindex := hs.housed.assigned z sim hz hassigned
  obtain ⟨snap, hsnap⟩ : ∃ snap, s.snapshotZone z order = some snap := by
    rw [Store.snapshotZone, hindex]
    exact ⟨_, rfl⟩
  exact ⟨snap, hsnap, Store.transferred_iff hs.named ht.named hsnap hzone⟩

/-- A zone of no Space with one entity without attributes arrives whole. -/
theorem zone_transfer_preserves_plain :
    let s := exec (nodeStep (Host.steady Vector3.zero)) (new "gs-1")
      [.own (.assignZone ⟨"z1", "", ⟨0, 0⟩, 100⟩),
        .own (.addEntity { Entity.new "e1" "player" "" with zoneID := "z1" })]
    ∃ snap, s.snapshotZone "z1" [] = some snap ∧
      (Transferred s.toStore (new "gs-2").toStore ((new "gs-2").loadZoneSnapshot snap []).toStore
          "z1" ↔
        ∀ id e, s.entityZone.get id = some "z1" → s.entityOf id = some e → e.Plain) :=
  zone_transfer_preserves_iff (Host.steady Vector3.zero) (Host.steady Vector3.zero) "gs-1" "gs-2"
    _ [] "z1" _ rfl rfl rfl [] []

/-- In a zone of a Space, an entity with one attribute arrives without the
attribute and without the Space. -/
theorem zone_transfer_loses_attributes :
    let s := exec (nodeStep (Host.steady Vector3.zero)) (new "gs-1")
      [.own (.assignZone ⟨"z1", "space-1", ⟨0, 0⟩, 100⟩),
        .own (.addEntity { Entity.new "e1" "player" "" with
          zoneID := "z1", attrs := (∅ : Dict String Bytes).set "hp" [9] })]
    ∃ snap, s.snapshotZone "z1" [] = some snap ∧
      (s.entityOf "e1").map (fun e => (e.attrs.get "hp", e.runtimeID)) =
        some (some [9], "space-1") ∧
      (((new "gs-2").loadZoneSnapshot snap []).entityOf "e1").map (fun e =>
        (e.attrs.get "hp", e.runtimeID)) = some (none, "") ∧
      ¬ Transferred s.toStore (new "gs-2").toStore
        ((new "gs-2").loadZoneSnapshot snap []).toStore "z1" := by
  intro s
  refine ⟨_, rfl, by decide +kernel, by decide +kernel, fun h => ?_⟩
  obtain ⟨e', he', hsame⟩ := h.same "e1" _ rfl rfl
  cases he'
  exact absurd hsame.runtimeID (by decide +kernel)

end Game

end SpatialServer

import SpatialServer.GridRuns
import SpatialServer.MovementFanout

/-!
# Queries for entities

A query names a cell, a radius and the types it asks for. The handler goes
through the zones of the server, answers for the first one and stops; it does
not read the types. The grid of the zone is searched as far as it was built
for, whatever the radius. What is answered depends on which zone comes first.
-/
namespace SpatialServer

open Runs

structure QueryEntitiesRequest where
  gridX : ℤ
  gridY : ℤ
  radius : ℚ
  typeFilter : List String

namespace QueryEntitiesRequest

/-- The point that is asked for. -/
def center (req : QueryEntitiesRequest) : Vector3 :=
  ⟨req.gridX * defaultCellSize, 0, req.gridY * defaultCellSize⟩

/-- The type is asked for; an empty list asks for all types. -/
def Wants (req : QueryEntitiesRequest) (type : String) : Prop :=
  req.typeFilter = [] ∨ type ∈ req.typeFilter

def Near (req : QueryEntitiesRequest) (pos : Vector3) : Prop :=
  distSq pos req.center ≤ req.radius * req.radius

instance (req : QueryEntitiesRequest) (pos : Vector3) : Decidable (req.Near pos) :=
  inferInstanceAs (Decidable (_ ≤ _))

end QueryEntitiesRequest

namespace Store

/-- The loop over the zones ends after its first turn. -/
def queryEntities (s : Store) (req : QueryEntitiesRequest) (order : List ZoneID) :
    List EntitySnapshot :=
  match s.zones.range order with
  | [] => []
  | zid :: _ => s.queryLocal zid req.gridX req.gridY req.radius

variable {s : Store} {req : QueryEntitiesRequest}

/-- Each entity near the point that is of a type asked for is answered once, and
nothing else is. -/
structure Answers (s : Store) (req : QueryEntitiesRequest) (answer : List EntitySnapshot) : Prop where
  nodup : answer.Nodup
  mem_iff : ∀ snap, snap ∈ answer ↔ ∃ id r, s.entities.get id = some r ∧
    snap = entitySnapshot (s.objects.cell r) ∧ req.Near (s.objects.cell r).position ∧
    req.Wants (s.objects.cell r).type

/-- Whoever is near and of a type asked for is in the only zone of the server, in
a cell that the search for the point reaches; whoever is near and of another type
is in no such cell. -/
def WithinReach (s : Store) (req : QueryEntitiesRequest) : Prop :=
  ∀ id r z sim, s.entities.get id = some r → s.entityZone.get id = some z →
    s.zones.get z = some sim → req.Near (s.objects.cell r).position →
    (req.Wants (s.objects.cell r).type → (∀ z', (s.zones.get z').isSome → z' = z) ∧
      (s.grids.cell sim.aoi).cellKeyFor (s.objects.cell r).position ∈
        (s.grids.cell sim.aoi).window ((s.grids.cell sim.aoi).cellKeyFor req.center)) ∧
    (¬req.Wants (s.objects.cell r).type →
      (s.grids.cell sim.aoi).cellKeyFor (s.objects.cell r).position ∉
        (s.grids.cell sim.aoi).window ((s.grids.cell sim.aoi).cellKeyFor req.center))

end Store

/-- An identifier that is held is found exactly if its cell is searched and it is
near enough. -/
theorem AOI.Holds.mem_entitiesInRange {a : AOI} {id : EntityID} {p : Vector3} (h : a.Holds id p)
    (center : Vector3) (r : ℚ) : id ∈ a.entitiesInRange center r ↔
      a.cellKeyFor p ∈ a.window (a.cellKeyFor center) ∧ distSq p center ≤ r * r := by
  have hpos : a.positionOf id = p := by simp [positionOf, h.1]
  have hlisted : ∀ key, id ∈ a.cell key ↔ key = a.cellKeyFor p := by
    intro key
    rw [← List.count_pos_iff, h.2]
    split_ifs with hkey <;> simp [hkey]
  rw [AOI.mem_entitiesInRange, hpos, mem_query]
  simp [hlisted]

namespace Store

variable {s : Store} {req : QueryEntitiesRequest}

/-- The answer of one zone: its own entities in the searched cells that are near. -/
theorem mem_queryLocal_iff (h : Indexed s) {z : ZoneID} {sim : ZoneSim}
    (hsim : s.zones.get z = some sim) (hindex : s.aoiIndex.get z = some sim.aoi)
    (snap : EntitySnapshot) : snap ∈ s.queryLocal z req.gridX req.gridY req.radius ↔
      ∃ id r, s.entities.get id = some r ∧ snap = entitySnapshot (s.objects.cell r) ∧
        s.entityZone.get id = some z ∧ req.Near (s.objects.cell r).position ∧
        (s.grids.cell sim.aoi).cellKeyFor (s.objects.cell r).position ∈
          (s.grids.cell sim.aoi).window ((s.grids.cell sim.aoi).cellKeyFor req.center) := by
  have hmem : snap ∈ s.queryLocal z req.gridX req.gridY req.radius ↔
      ∃ id ∈ (s.grids.cell sim.aoi).entitiesInRange req.center req.radius,
        (s.entities.get id).map (fun r => entitySnapshot (s.objects.cell r)) = some snap := by
    simp only [queryLocal, hindex]
    exact List.mem_filterMap
  rw [hmem]
  constructor
  · rintro ⟨id, hid, hsnap⟩
    obtain ⟨r, hr, rfl⟩ := Option.map_eq_some_iff.mp hsnap
    obtain ⟨z', hz'⟩ : ∃ z', s.entityZone.get id = some z' := by
      rw [← Option.isSome_iff_exists, h.keys_zone, hr]
      rfl
    have hz : z = z' := by
      by_contra hne
      have hlacks := (h.elsewhere id z' z sim hz' hne hsim).2
      exact hlacks.not_mem_query _ ((AOI.mem_entitiesInRange _ _ _ _).mp hid).1
    subst hz
    obtain ⟨hwindow, hnear⟩ := ((h.holds id z sim r hz' hsim hr).mem_entitiesInRange _ _).mp hid
    exact ⟨id, r, hr, rfl, hz', hnear, hwindow⟩
  · rintro ⟨id, r, hr, rfl, hz, hnear, hwindow⟩
    exact ⟨id, ((h.holds id z sim r hz hsim hr).mem_entitiesInRange _ _).mpr ⟨hwindow, hnear⟩,
      by simp [hr]⟩

/-- Different entities have different snapshots. -/
theorem eq_of_entitySnapshot_eq (hf : Formed s) {id id' : EntityID} {r r' : ℕ}
    (hr : s.entities.get id = some r) (hr' : s.entities.get id' = some r')
    (heq : entitySnapshot (s.objects.cell r) = entitySnapshot (s.objects.cell r')) : id = id' := by
  rw [← hf.object id r hr, ← hf.object id' r' hr']
  exact congrArg EntitySnapshot.entityID heq

theorem nodup_queryLocal (hf : Formed s) (z : ZoneID) (gridX gridY : ℤ) (radius : ℚ) :
    (s.queryLocal z gridX gridY radius).Nodup := by
  unfold queryLocal
  split
  · exact List.nodup_nil
  · refine List.Nodup.filterMap ?_ ((AOI.entitiesInRange_increasing _ _ _).imp ne_of_lt)
    intro id id' snap hsnap hsnap'
    obtain ⟨r, hr, rfl⟩ := Option.map_eq_some_iff.mp (Option.mem_def.mp hsnap)
    obtain ⟨r', hr', heq⟩ := Option.map_eq_some_iff.mp (Option.mem_def.mp hsnap')
    exact eq_of_entitySnapshot_eq hf hr hr' heq.symm

/-- Any zone may come first. -/
theorem queryEntities_first {z : ZoneID} {sim : ZoneSim} (hsim : s.zones.get z = some sim)
    (req : QueryEntitiesRequest) :
    s.queryEntities req [z] = s.queryLocal z req.gridX req.gridY req.radius := by
  have hmem : z ∈ AList.keys s.zones := (Dict.mem_keys_iff s.zones z).mpr (by rw [hsim]; rfl)
  simp [queryEntities, Dict.range, hmem]

theorem queryEntities_cases (s : Store) (req : QueryEntitiesRequest) (order : List ZoneID) :
    (∀ z, s.zones.get z = none) ∧ s.queryEntities req order = [] ∨
      ∃ z sim, s.zones.get z = some sim ∧
        s.queryEntities req order = s.queryLocal z req.gridX req.gridY req.radius := by
  rcases hrange : s.zones.range order with _ | ⟨z, zs⟩
  · refine .inl ⟨fun z => ?_, by simp [queryEntities, hrange]⟩
    by_contra hz
    have hmem : z ∈ s.zones.range order := by
      rw [Dict.mem_range_iff, Option.isSome_iff_ne_none]
      exact hz
    simp [hrange] at hmem
  · obtain ⟨sim, hsim⟩ := (Dict.mem_range_iff_exists order s.zones z).mp (by simp [hrange])
    exact .inr ⟨z, sim, hsim, by simp [queryEntities, hrange]⟩

section Assigned

/-! On a server whose zones are all assigned, both indexes lead to the same grids. -/

variable (h : Indexed s) (hf : Formed s)
  (hindex : ∀ z sim, s.zones.get z = some sim → s.aoiIndex.get z = some sim.aoi)

include h hf hindex

/-- Whichever zone comes first, its answer has to name whoever is asked for. -/
theorem searched_of_answers (hans : ∀ order, s.Answers req (s.queryEntities req order))
    {id : EntityID} {r : ℕ} {z : ZoneID} (hr : s.entities.get id = some r)
    (hz : s.entityZone.get id = some z) (hnear : req.Near (s.objects.cell r).position)
    (hwants : req.Wants (s.objects.cell r).type) {z' : ZoneID} {sim' : ZoneSim}
    (hsim' : s.zones.get z' = some sim') : z' = z ∧
      (s.grids.cell sim'.aoi).cellKeyFor (s.objects.cell r).position ∈
        (s.grids.cell sim'.aoi).window ((s.grids.cell sim'.aoi).cellKeyFor req.center) := by
  have hmem := ((hans [z']).mem_iff _).mpr ⟨id, r, hr, rfl, hnear, hwants⟩
  rw [queryEntities_first hsim', mem_queryLocal_iff h hsim' (hindex z' sim' hsim')] at hmem
  obtain ⟨id', r', hr', heq, hz', -, hwindow⟩ := hmem
  obtain rfl := eq_of_entitySnapshot_eq hf hr hr' heq
  obtain rfl : r = r' := Option.some.inj (hr.symm.trans hr')
  exact ⟨Option.some.inj (hz'.symm.trans hz), hwindow⟩

theorem withinReach_of_answers (hans : ∀ order, s.Answers req (s.queryEntities req order)) :
    s.WithinReach req := by
  intro id r z sim hr hz hsim hnear
  constructor
  · intro hwants
    refine ⟨fun z' hz' => ?_, (searched_of_answers h hf hindex hans hr hz hnear hwants hsim).2⟩
    obtain ⟨sim', hsim'⟩ := Option.isSome_iff_exists.mp hz'
    exact (searched_of_answers h hf hindex hans hr hz hnear hwants hsim').1
  · intro hwants hwindow
    have hmem : entitySnapshot (s.objects.cell r) ∈ s.queryEntities req [z] := by
      rw [queryEntities_first hsim, mem_queryLocal_iff h hsim (hindex z sim hsim)]
      exact ⟨id, r, hr, rfl, hz, hnear, hwindow⟩
    obtain ⟨id', r', hr', heq, -, hwants'⟩ := ((hans [z]).mem_iff _).mp hmem
    obtain rfl := eq_of_entitySnapshot_eq hf hr hr' heq
    obtain rfl : r = r' := Option.some.inj (hr.symm.trans hr')
    exact hwants hwants'

theorem answers_of_withinReach (hreach : s.WithinReach req) (order : List ZoneID) :
    s.Answers req (s.queryEntities req order) := by
  obtain ⟨hnone, heq⟩ | ⟨z, sim, hsim, heq⟩ := s.queryEntities_cases req order
  · rw [heq]
    refine ⟨List.nodup_nil, fun snap => ?_⟩
    simp only [List.not_mem_nil, false_iff]
    rintro ⟨id, r, hr, -⟩
    obtain ⟨z, sim, -, hsim⟩ := h.exists_home hr
    rw [hnone z] at hsim
    cases hsim
  · rw [heq]
    refine ⟨nodup_queryLocal hf z _ _ _, fun snap => ?_⟩
    rw [mem_queryLocal_iff h hsim (hindex z sim hsim)]
    constructor
    · rintro ⟨id, r, hr, rfl, hz, hnear, hwindow⟩
      refine ⟨id, r, hr, rfl, hnear, ?_⟩
      by_contra hwants
      exact (hreach id r z sim hr hz hsim hnear).2 hwants hwindow
    · rintro ⟨id, r, hr, rfl, hnear, hwants⟩
      obtain ⟨z', sim', hz', hsim'⟩ := h.exists_home hr
      obtain ⟨honly, hwindow⟩ := (hreach id r z' sim' hr hz' hsim' hnear).1 hwants
      obtain rfl : z = z' := honly z (by rw [hsim]; rfl)
      obtain rfl : sim = sim' := Option.some.inj (hsim.symm.trans hsim')
      exact ⟨id, r, hr, rfl, hz', hnear, hwindow⟩

end Assigned

/-- On a server with assigned zones whose indexes agree, the answer is complete,
exact and independent of the order of the zones if and only if everyone near the
point is as the search needs it. -/
theorem query_entities_iff (hs : Sound s) (h : Indexed s)
    (hassigned : ∀ z sim, s.zones.get z = some sim → sim.zone.isSome)
    (req : QueryEntitiesRequest) :
    (∀ order, s.Answers req (s.queryEntities req order)) ↔ s.WithinReach req := by
  have hindex : ∀ z sim, s.zones.get z = some sim → s.aoiIndex.get z = some sim.aoi :=
    fun z sim hsim => hs.housed.assigned z sim hsim (hassigned z sim hsim)
  exact ⟨withinReach_of_answers h hs.formed hindex, answers_of_withinReach h hs.formed hindex⟩

/-- One zone with one entity in the cell of the point. -/
theorem query_entities_single_zone :
    let g := exec (Game.nodeStep (Host.steady Vector3.zero)) (Game.new "gs-1")
      [.own (.assignZone ⟨"z1", "s1", ⟨0, 0⟩, 100⟩),
        .own (.addEntity { Entity.new "e1" "avatar" "" with zoneID := "z1" })]
    ∀ order, g.Answers ⟨0, 0, 50, ["avatar"]⟩ (g.queryEntities ⟨0, 0, 50, ["avatar"]⟩ order) := by
  intro g
  have hzones : g.zones = (∅ : Dict ZoneID ZoneSim).set "z1"
      ⟨some ⟨"z1", "s1", ⟨0, 0⟩, 100⟩, 0, (∅ : Dict EntityID ℕ).set "e1" 0⟩ := rfl
  have hzone : ∀ z sim, g.zones.get z = some sim → z = "z1" ∧
      ⟨some ⟨"z1", "s1", ⟨0, 0⟩, 100⟩, 0, (∅ : Dict EntityID ℕ).set "e1" 0⟩ = sim := by
    intro z sim hsim
    rw [hzones, Dict.get_set] at hsim
    split_ifs at hsim with hz
    · exact ⟨hz, Option.some.inj hsim⟩
    · simp at hsim
  have hentity : ∀ id r, g.entities.get id = some r → r = 0 := by
    intro id r hr
    rw [show g.entities = (∅ : Dict EntityID ℕ).set "e1" 0 from rfl, Dict.get_set] at hr
    split_ifs at hr
    · exact (Option.some.inj hr).symm
    · simp at hr
  refine (query_entities_iff (Game.sound_exec _ "gs-1" _)
    (Game.coherent_nodeExec _ "gs-1" (by decide +kernel)).indexed ?_ _).mpr ?_
  · intro z sim hsim
    obtain ⟨-, rfl⟩ := hzone z sim hsim
    rfl
  · intro id r z sim hr hz hsim hnear
    obtain ⟨rfl, rfl⟩ := hzone z sim hsim
    obtain rfl := hentity id r hr
    have hwants : QueryEntitiesRequest.Wants ⟨0, 0, 50, ["avatar"]⟩ (g.objects.cell 0).type :=
      .inr (by decide +kernel)
    refine ⟨fun _ => ⟨fun z' hz' => ?_, by decide +kernel⟩, fun hnot => absurd hwants hnot⟩
    obtain ⟨sim', hsim'⟩ := Option.isSome_iff_exists.mp hz'
    exact (hzone z' sim' hsim').1

/-- Two zones with an entity each at the point: the answer names the one whose
zone comes first, of whatever type. -/
theorem query_answers_first_zone_only :
    let g := exec (Game.nodeStep (Host.steady Vector3.zero)) (Game.new "gs-1")
      [.own (.assignZone ⟨"z1", "s1", ⟨0, 0⟩, 100⟩), .own (.assignZone ⟨"z2", "s1", ⟨1, 0⟩, 100⟩),
        .own (.addEntity { Entity.new "e1" "avatar" "" with zoneID := "z1" }),
        .own (.addEntity { Entity.new "e2" "crate" "" with zoneID := "z2" })]
    let req : QueryEntitiesRequest := ⟨0, 0, 50, ["avatar"]⟩
    Sound g.toStore ∧ Indexed g.toStore ∧
      (g.queryEntities req ["z1", "z2"]).map EntitySnapshot.entityID = ["e1"] ∧
      (g.queryEntities req ["z2", "z1"]).map EntitySnapshot.entityID = ["e2"] ∧
      ¬g.Answers req (g.queryEntities req ["z2", "z1"]) := by
  intro g req
  have hfirst : (g.queryEntities req ["z2", "z1"]).map EntitySnapshot.entityID = ["e2"] := by
    decide +kernel
  refine ⟨Game.sound_exec _ "gs-1" _, (Game.coherent_nodeExec _ "gs-1" (by decide +kernel)).indexed,
    by decide +kernel, hfirst, fun hans => ?_⟩
  have hmem : entitySnapshot (g.objects.cell 0) ∈ g.queryEntities req ["z2", "z1"] :=
    (hans.mem_iff _).mpr ⟨"e1", 0, by decide +kernel, rfl, by decide +kernel,
      .inr (by decide +kernel)⟩
  have hname := List.mem_map_of_mem (f := EntitySnapshot.entityID) hmem
  rw [hfirst] at hname
  exact absurd hname (by decide +kernel)

end Store

end SpatialServer

import SpatialServer.ReachableStores

/-!
# Recovery from saved zones

Every so often the tick loop saves the entities of each zone as rows of data, and
a server that comes up again adds an entity for each row. A row says neither the
zone nor where a behaviour leads: the entities come back in the default zone, and
a patrol without its waypoints, a wanderer around the place where it was saved.

The encoding of rows is a parameter that loses nothing of valid text. Numbers are
finite.
-/
namespace SpatialServer

open Runs

def utf8 (text : String) : Bytes := text.toUTF8.data.toList

/-! ## Behaviours from a configuration -/

structure NPCSpec where
  type : String
  behavior : Bytes
  position : Vector3
  waypoints : List Vector3
  radius : ℚ

def newBehaviorFor (spec : NPCSpec) : Behavior :=
  if spec.behavior = utf8 "patrol" then .patrol 10 spec.waypoints 0
  else if spec.behavior = utf8 "wander" then
    .wander spec.position spec.radius 10 none Vector3.zero 0
  else .idle (1 / 2) 2 0

/-- The behaviours lead the same way, however far each has come. -/
def Behavior.SamePlan : Behavior → Behavior → Prop
  | .patrol speed waypoints _, .patrol speed' waypoints' _ =>
    speed' = speed ∧ waypoints' = waypoints
  | .idle amplitude freq _, .idle amplitude' freq' _ => amplitude' = amplitude ∧ freq' = freq
  | .wander origin radius speed _ _ _, .wander origin' radius' speed' _ _ _ =>
    origin' = origin ∧ radius' = radius ∧ speed' = speed
  | _, _ => False

/-- The entity has a behaviour made from the configuration, at whatever stage. -/
def BuiltFrom (spec : NPCSpec) (e : Entity) : Prop :=
  ∃ b, e.lifecycle = some ⟨some b⟩ ∧ (newBehaviorFor spec).SamePlan b

/-- A step leads on as planned. -/
theorem Behavior.SamePlan.step {b b' : Behavior} (h : b.SamePlan b') (N : Numerics) (seed : ℤ)
    (pos : Vector3) (dt : Duration) : b.SamePlan (b'.step N seed pos dt).behavior := by
  cases b' with
  | patrol speed waypoints target =>
    simp only [Behavior.step]
    split <;> cases b <;> exact h
  | idle amplitude freq phase => cases b <;> exact h
  | wander origin radius speed rng target pause =>
    simp only [Behavior.step]
    split_ifs <;> cases b <;> exact h

/-- An entity that is simulated keeps to its configuration. -/
theorem BuiltFrom.onSimulate {spec : NPCSpec} {e : Entity} (h : BuiltFrom spec e) (N : Numerics)
    (seed : ℤ) (dt : Duration) : BuiltFrom spec (e.onSimulate N seed dt) := by
  obtain ⟨b, hb, hplan⟩ := h
  refine ⟨(b.step N seed e.position dt).behavior, ?_, hplan.step N seed e.position dt⟩
  simp [Entity.onSimulate, hb]

/-! ## Saving and hydrating -/

structure Row where
  id : String
  type : String
  behavior : Bytes
  x : ℚ
  y : ℚ
  z : ℚ

structure RowCodec (D : Type) where
  marshal : List Row → Option D
  unmarshal : D → Option (List Row)
  lossless : ∀ rows, (∀ row ∈ rows, ∃ text, row.behavior = utf8 text) →
    ∃ data, marshal rows = some data ∧ unmarshal data = some rows

/-- One call of the snapshotter. -/
structure Save (D : Type) where
  zoneID : ZoneID
  data : D
  tick : ℕ

/-- The attribute reads as no text where it is missing. -/
def Entity.behaviorText (e : Entity) : Bytes := (e.attrs.get "behavior").getD []

def rowOf (e : Entity) : Row :=
  ⟨e.id, e.type, e.behaviorText, e.position.x, e.position.y, e.position.z⟩

def hydratedEntity (row : Row) : Entity :=
  let position : Vector3 := ⟨row.x, row.y, row.z⟩
  { Entity.new row.id row.type "" with
    position := position
    attrs := (∅ : Dict String Bytes).set "behavior" row.behavior
    lifecycle := some ⟨some (newBehaviorFor ⟨"", row.behavior, position, [], 0⟩)⟩ }

namespace Store

def zoneRows (s : Store) (sim : ZoneSim) (order : List EntityID) : List Row :=
  (sim.entities.range order).filterMap fun id =>
    (sim.entities.get id).map fun r => rowOf (s.objects.cell r)

/-- Rows that do not marshal are skipped. -/
def snapshotAllZones {D : Type} (C : RowCodec D) (s : Store) (tick : ℕ) (zoneOrder : List ZoneID)
    (order : ZoneID → List EntityID) : List (Save D) :=
  (s.zones.range zoneOrder).filterMap fun zid =>
    (s.zones.get zid).bind fun sim =>
      (C.marshal (s.zoneRows sim (order zid))).map fun data => ⟨zid, data, tick⟩

end Store

namespace Game

def hydrateFromSnapshot {D : Type} (C : RowCodec D) (g : Game) (data : D) : Game :=
  match C.unmarshal data with
  | none => g
  | some rows => rows.foldl (fun g row => g.addEntity (hydratedEntity row)) g

end Game

/-! ## What is recovered -/

/-- The entities of the zone in `s` are those of `t`, in the same zone, and lead
on as they did. -/
structure Restored (s t : Store) (z : ZoneID) : Prop where
  members : ∀ id, (t.entityOf id).isSome ↔ s.entityZone.get id = some z
  same : ∀ id e, s.entityZone.get id = some z → s.entityOf id = some e →
    ∃ e', t.entityOf id = some e' ∧ e'.id = e.id ∧ e'.type = e.type ∧ e'.position = e.position
  placed : ∀ id, s.entityZone.get id = some z → t.entityZone.get id = some z
  behavior : ∀ id e spec, s.entityZone.get id = some z → s.entityOf id = some e →
    BuiltFrom spec e → ∃ e', t.entityOf id = some e' ∧ BuiltFrom spec e'

/-- Nothing of the configuration is lost with a row: the attribute names the
behaviour, a patrol has no waypoints, and a wanderer stays where it is. -/
def KeepsPlan (spec : NPCSpec) (e : Entity) : Prop :=
  if spec.behavior = utf8 "patrol" then e.behaviorText = utf8 "patrol" ∧ spec.waypoints = []
  else if spec.behavior = utf8 "wander" then
    e.behaviorText = utf8 "wander" ∧ spec.position = e.position ∧ spec.radius = 0
  else e.behaviorText ≠ utf8 "patrol" ∧ e.behaviorText ≠ utf8 "wander"

structure Restorable (s : Store) (z : ZoneID) (sim : ZoneSim) : Prop where
  /-- Only the default zone has entities. -/
  default : ∀ id, (sim.entities.get id).isSome → z = defaultZoneID
  /-- Nobody the zone lists has expired or moved to another zone. -/
  current : ∀ id, (sim.entities.get id).isSome → s.entityZone.get id = some z
  plan : ∀ id e spec, s.entityZone.get id = some z → s.entityOf id = some e →
    BuiltFrom spec e → KeepsPlan spec e

theorem builtFrom_hydrated_iff (spec : NPCSpec) (e : Entity) (zid : ZoneID) :
    BuiltFrom spec { hydratedEntity (rowOf e) with zoneID := zid } ↔ KeepsPlan spec e := by
  have hplan : BuiltFrom spec { hydratedEntity (rowOf e) with zoneID := zid } ↔
      (newBehaviorFor spec).SamePlan (newBehaviorFor ⟨"", e.behaviorText, e.position, [], 0⟩) := by
    constructor
    · rintro ⟨b, hb, hsame⟩
      cases hb
      exact hsame
    · exact fun hsame => ⟨_, rfl, hsame⟩
  have hne : utf8 "wander" ≠ utf8 "patrol" := by decide
  rw [hplan, KeepsPlan]
  unfold newBehaviorFor
  by_cases hpatrol : e.behaviorText = utf8 "patrol"
  · split_ifs <;> simp [Behavior.SamePlan, hpatrol, hne.symm, eq_comm]
  · by_cases hwander : e.behaviorText = utf8 "wander"
    · split_ifs <;> simp [Behavior.SamePlan, hwander, hne, eq_comm]
    · split_ifs <;> simp [Behavior.SamePlan, hpatrol, hwander]

namespace Store

variable {D : Type} {s : Store} {z : ZoneID} {sim : ZoneSim}

theorem map_id_zoneRows (h : Named s) (hsim : s.zones.get z = some sim) (order : List EntityID) :
    ((s.zoneRows sim order).map hydratedEntity).map Entity.id = sim.entities.range order := by
  have hrow : ∀ id ∈ sim.entities.range order,
      ((sim.entities.get id).map fun r => rowOf (s.objects.cell r)).map
        (fun row => (hydratedEntity row).id) = some id := by
    intro id hid
    obtain ⟨r, hr⟩ := (Dict.mem_range_iff_exists order _ id).mp hid
    simp [hr, hydratedEntity, rowOf, Entity.new, (h.member z sim id r hsim hr).2]
  rw [List.map_map, zoneRows, List.map_filterMap]
  exact (List.filterMap_congr hrow).trans (List.filterMap_some)

/-- What the rows of a zone leave on an empty server. -/
theorem hydrated_spec (h : Named s) (hsim : s.zones.get z = some sim) (order : List EntityID)
    (id : EntityID) :
    let t := ((s.zoneRows sim order).map hydratedEntity).foldl addEntity Store.empty
    match sim.entities.get id with
    | some r => t.entityOf id =
          some { hydratedEntity (rowOf (s.objects.cell r)) with zoneID := defaultZoneID } ∧
        t.entityZone.get id = some defaultZoneID
    | none => t.entityOf id = none := by
  intro t
  have hids := map_id_zoneRows h hsim order
  obtain ⟨hothers, hadded⟩ := foldl_addEntity Named.empty
    (hids ▸ Dict.nodup_range order sim.entities) fun e _ sim' hsim' => by
      simp [Store.empty] at hsim'
  cases hr : sim.entities.get id with
  | none =>
    have hnot : id ∉ ((s.zoneRows sim order).map hydratedEntity).map Entity.id := by
      rw [hids, Dict.mem_range_iff, hr]
      decide
    exact (hothers id hnot).1
  | some r =>
    have hmem : hydratedEntity (rowOf (s.objects.cell r)) ∈
        (s.zoneRows sim order).map hydratedEntity := by
      refine List.mem_map_of_mem (List.mem_filterMap.mpr ⟨id, ?_, by simp [hr]⟩)
      simp [Dict.mem_range_iff, hr]
    have hname : id = (hydratedEntity (rowOf (s.objects.cell r))).id :=
      (h.member z sim id r hsim hr).2.symm
    rw [hname]
    exact hadded _ hmem

theorem restored_iff (h : Named s) (hsim : s.zones.get z = some sim) (order : List EntityID) :
    Restored s (((s.zoneRows sim order).map hydratedEntity).foldl addEntity Store.empty) z ↔
      Restorable s z sim := by
  have hspec := hydrated_spec h hsim order
  set t := ((s.zoneRows sim order).map hydratedEntity).foldl addEntity Store.empty with ht
  have hisSome : ∀ id, (t.entityOf id).isSome ↔ (sim.entities.get id).isSome := by
    intro id
    have := hspec id
    cases hr : sim.entities.get id with
    | none => simp_all
    | some r => simp_all
  -- an entity of the zone, found both in the zone and on the new server
  have hfound : ∀ id e, s.entityZone.get id = some z → s.entityOf id = some e →
      (sim.entities.get id).isSome ∧
        t.entityOf id = some { hydratedEntity (rowOf e) with zoneID := defaultZoneID } := by
    intro id e hz he
    obtain ⟨r, hr, rfl⟩ := Option.map_eq_some_iff.mp he
    have hget : sim.entities.get id = some r := (h.home id z sim hz hsim).trans hr
    have hid := hspec id
    rw [hget] at hid
    exact ⟨by simp [hget], hid.1⟩
  have hexists : ∀ id, s.entityZone.get id = some z → (sim.entities.get id).isSome := by
    intro id hz
    rw [h.home id z sim hz hsim, ← h.keys_zone, hz]
    rfl
  have hplaced : ∀ id, (sim.entities.get id).isSome → t.entityZone.get id = some defaultZoneID := by
    intro id hsome
    obtain ⟨r, hr⟩ := Option.isSome_iff_exists.mp hsome
    have hid := hspec id
    rw [hr] at hid
    exact hid.2
  constructor
  · intro hrec
    have hcurrent : ∀ id, (sim.entities.get id).isSome → s.entityZone.get id = some z :=
      fun id hsome => (hrec.members id).mp ((hisSome id).mpr hsome)
    refine ⟨fun id hsome => ?_, hcurrent, fun id e spec hz he hbuilt => ?_⟩
    · have hzone := hrec.placed id (hcurrent id hsome)
      rw [hplaced id hsome] at hzone
      exact (Option.some.inj hzone).symm
    · obtain ⟨e', he', hbuilt'⟩ := hrec.behavior id e spec hz he hbuilt
      rw [(hfound id e hz he).2] at he'
      cases he'
      exact (builtFrom_hydrated_iff spec e _).mp hbuilt'
  · intro hable
    refine ⟨fun id => (hisSome id).trans ⟨hable.current id, hexists id⟩, fun id e hz he => ?_,
      fun id hz => ?_, fun id e spec hz he hbuilt => ?_⟩
    · exact ⟨_, (hfound id e hz he).2, rfl, rfl, rfl⟩
    · rw [hable.default id (hexists id hz)]
      exact hplaced id (hexists id hz)
    · exact ⟨_, (hfound id e hz he).2,
        (builtFrom_hydrated_iff spec e _).mpr (hable.plan id e spec hz he hbuilt)⟩

end Store

namespace Game

theorem toStore_hydrateFromSnapshot {D : Type} (C : RowCodec D) (sid : ServerID) {data : D}
    {rows : List Row} (hrows : C.unmarshal data = some rows) :
    ((new sid).hydrateFromSnapshot C data).toStore =
      (rows.map hydratedEntity).foldl Store.addEntity Store.empty := by
  have hloop : ∀ (rows : List Row) (g : Game),
      (rows.foldl (fun g row => g.addEntity (hydratedEntity row)) g).toStore =
        (rows.map hydratedEntity).foldl Store.addEntity g.toStore := by
    intro rows
    induction rows with
    | nil => intro g; rfl
    | cons row rows ih => intro g; exact ih _
  rw [hydrateFromSnapshot, hrows]
  exact hloop rows _

/-- Of every zone of a reachable server that holds valid text something is saved,
and a new server that hydrates from it has what was saved, exactly if the zone is
restorable. -/
theorem recovery_restores_iff {D : Type} (C : RowCodec D) (H : Host) (sid sid' : ServerID)
    (calls : List NodeCall) (z : ZoneID) (sim : ZoneSim)
    (hsim : (exec (nodeStep H) (new sid) calls).zones.get z = some sim)
    (htext : ∀ id r, sim.entities.get id = some r → ∃ text,
      ((exec (nodeStep H) (new sid) calls).objects.cell r).behaviorText = utf8 text)
    (tick : ℕ) (zoneOrder : List ZoneID) (order : ZoneID → List EntityID) :
    let s := (exec (nodeStep H) (new sid) calls).toStore
    (∃ save ∈ s.snapshotAllZones C tick zoneOrder order, save.zoneID = z) ∧
      ∀ save ∈ s.snapshotAllZones C tick zoneOrder order, save.zoneID = z →
        (Restored s ((new sid').hydrateFromSnapshot C save.data).toStore z ↔
          Restorable s z sim) := by
  intro s
  have hvalid : ∀ row ∈ s.zoneRows sim (order z), ∃ text, row.behavior = utf8 text := by
    intro row hrow
    obtain ⟨id, -, hmap⟩ := List.mem_filterMap.mp hrow
    obtain ⟨r, hr, rfl⟩ := Option.map_eq_some_iff.mp hmap
    exact htext id r hr
  obtain ⟨data, hmarshal, hunmarshal⟩ := C.lossless _ hvalid
  constructor
  · refine ⟨⟨z, data, tick⟩, List.mem_filterMap.mpr ⟨z, ?_, ?_⟩, rfl⟩
    · exact (Dict.mem_range_iff_exists zoneOrder _ z).mpr ⟨sim, hsim⟩
    · rw [show s.zones.get z = some sim from hsim, Option.bind_some, hmarshal]
      rfl
  · rintro save hsave rfl
    obtain ⟨zid, -, hbind⟩ := List.mem_filterMap.mp hsave
    obtain ⟨sim', hsim', hmap⟩ := Option.bind_eq_some_iff.mp hbind
    obtain ⟨data', hdata', rfl⟩ := Option.map_eq_some_iff.mp hmap
    obtain rfl : sim = sim' := Option.some.inj (hsim.symm.trans hsim')
    obtain rfl : data = data' := Option.some.inj (hmarshal.symm.trans hdata')
    rw [toStore_hydrateFromSnapshot C sid' hunmarshal]
    exact Store.restored_iff (sound_exec H sid calls).named hsim (order zid)

/-- Rows kept as they are. -/
def plainRows : RowCodec (List Row) := ⟨some, some, fun rows _ => ⟨rows, rfl, rfl⟩⟩

/-- The rows of one idle entity in the default zone. -/
theorem recovery_restores_idle :
    let s := (exec (nodeStep (Host.steady Vector3.zero)) (new "gs-1")
      [.own (.addEntity (hydratedEntity ⟨"n1", "npc", utf8 "idle", 1, 0, 2⟩))]).toStore
    let saves := s.snapshotAllZones plainRows 1 [] fun _ => []
    ∃ sim, s.zones.get defaultZoneID = some sim ∧
      (∃ save ∈ saves, save.zoneID = defaultZoneID) ∧
      ∀ save ∈ saves, save.zoneID = defaultZoneID →
        (Restored s ((new "gs-2").hydrateFromSnapshot plainRows save.data).toStore defaultZoneID ↔
          Restorable s defaultZoneID sim) := by
  refine ⟨_, rfl, recovery_restores_iff plainRows (Host.steady Vector3.zero) "gs-1" "gs-2" _
    defaultZoneID _ rfl (fun id r hr => ⟨"idle", ?_⟩) 1 [] fun _ => []⟩
  have hid : id = "n1" := by
    by_contra hne
    simp [Store.ensureZone, new, Store.empty, Store.targetZone, hydratedEntity, Entity.new,
      Store.deriveSpace, hne] at hr
  subst hid
  cases hr
  rfl

/-- A patrol is saved in its zone and comes back in the default zone without its
waypoints. -/
theorem recovery_loses_zone_and_waypoints :
    let spec : NPCSpec := ⟨"npc", utf8 "patrol", Vector3.zero, [⟨50, 0, 0⟩], 0⟩
    let npc : Entity := { Entity.new "n1" "npc" "" with
      zoneID := "gs-1-z1"
      attrs := (∅ : Dict String Bytes).set "behavior" spec.behavior
      lifecycle := some ⟨some (newBehaviorFor spec)⟩ }
    let s := (exec (nodeStep (Host.steady Vector3.zero)) (new "gs-1")
      [.own (.assignZone ⟨"gs-1-z1", "", ⟨0, 0⟩, 100⟩), .own (.addEntity npc)]).toStore
    ∃ save, s.snapshotAllZones plainRows 1 [] (fun _ => []) = [save] ∧ save.zoneID = "gs-1-z1" ∧
      let t := ((new "gs-1").hydrateFromSnapshot plainRows save.data).toStore
      t.entityZone.get "n1" = some defaultZoneID ∧
      (t.entityOf "n1").bind Entity.lifecycle = some ⟨some (.patrol 10 [] 0)⟩ ∧
      (s.entityOf "n1").bind Entity.lifecycle = some ⟨some (.patrol 10 [⟨50, 0, 0⟩] 0)⟩ ∧
      ¬ Restored s t "gs-1-z1" := by
  refine ⟨_, rfl, rfl, by decide +kernel, by decide +kernel, by decide +kernel, fun h => ?_⟩
  exact absurd (h.placed "n1" (by decide +kernel)) (by decide +kernel)

end Game

end SpatialServer

import SpatialServer.EventGrammar
import SpatialServer.ReachableStores

/-!
# Who hears of a move

A move is announced to whoever the grid of the mover's zone lists in range of the
new position. The grid was changed by the move just before, and it also lists
replicas. Where the indexes agree, the live entities it lists are those of the
zone, each at its own position, so that of the living exactly the neighbours
hear of the move, each of them once.
-/
namespace SpatialServer

open Runs

/-- Entities are kept under their own names, and every zone has a grid of its
own that searches as far as the server asks. -/
structure Formed (s : Store) : Prop where
  radius_nonneg : 0 ≤ s.aoiRadius
  object : ∀ id r, s.entities.get id = some r → (s.objects.cell r).id = id
  own_grids : OwnGrids s.zones s.grids s.aoiRadius

theorem Sound.formed {s : Store} (h : Sound s) : Formed s where
  radius_nonneg := h.housed.radius_nonneg
  object id r hr := (h.named.object id r hr).2
  own_grids := h.housed.own_grids

/-- Whatever is called, a server has such a store. -/
theorem Game.formed_exec (H : Host) (sid : ServerID) (calls : List NodeCall) :
    Formed (exec (nodeStep H) (new sid) calls).toStore :=
  (sound_exec H sid calls).formed

/-! ## Moving keeps the indexes -/

theorem Formed.moveOnGrid {s : Store} (h : Formed s) (id : EntityID) (pos : Vector3) :
    Formed (s.moveOnGrid id pos) := by
  unfold Store.moveOnGrid
  split
  · exact ⟨h.radius_nonneg, h.object, h.own_grids.write (by simp) (by simp)⟩
  · exact h

theorem Formed.setObject {s : Store} (h : Formed s) {r : ℕ} {e : Entity}
    (hid : e.id = (s.objects.cell r).id) : Formed (s.setObject r e) := by
  refine ⟨h.radius_nonneg, fun other q hq => ?_, h.own_grids⟩
  rw [← h.object other q hq, Store.setObject]
  by_cases heq : q = r
  · subst q
    simpa using hid
  · simp [heq]

namespace Indexed

variable {s s' : Store} {id : EntityID} {r : ℕ} {e : Entity}

theorem exists_home (h : Indexed s) (hr : s.entities.get id = some r) :
    ∃ z sim, s.entityZone.get id = some z ∧ s.zones.get z = some sim := by
  obtain ⟨z, hz⟩ := Option.isSome_iff_exists.mp ((h.keys_zone id).trans (by rw [hr]; rfl))
  obtain ⟨sim, -, hsim, -⟩ := (h.zone_iff id z).mp hz
  exact ⟨z, sim, hz, hsim⟩

/-- Where the maps are the same, the grids have to follow the objects. -/
theorem congr (h : Indexed s) (hmaps : Store.SameMaps s s')
    (hholds : ∀ other z sim q, s.entityZone.get other = some z → s.zones.get z = some sim →
      s.entities.get other = some q →
      (s'.grids.cell sim.aoi).Holds other (s'.objects.cell q).position)
    (hlacks : ∀ other z z' sim, s.entityZone.get other = some z → z' ≠ z →
      s.zones.get z' = some sim → (s'.grids.cell sim.aoi).Lacks other) : Indexed s' := by
  constructor
  case keys_zone => simpa only [hmaps.entityZone, hmaps.entities] using h.keys_zone
  case keys_aoi => simpa only [hmaps.entityAOI, hmaps.entities] using h.keys_aoi
  case zone_iff => simpa only [hmaps.entityZone, hmaps.entities, hmaps.zones] using h.zone_iff
  case holds => simpa only [hmaps.entityZone, hmaps.entities, hmaps.zones] using hholds
  case elsewhere =>
    rw [hmaps.entityZone, hmaps.zones]
    exact fun other z z' sim hz hne hsim =>
      ⟨(h.elsewhere other z z' sim hz hne hsim).1, hlacks other z z' sim hz hne hsim⟩

theorem setObject (h : Indexed s) (hpos : e.position = (s.objects.cell r).position) :
    Indexed (s.setObject r e) := by
  refine h.congr (.setObject s r e) (fun other z sim q hz hsim hq => ?_)
    fun other z z' sim hz hne hsim => (h.elsewhere other z z' sim hz hne hsim).2
  have hsame : ((s.setObject r e).objects.cell q).position = (s.objects.cell q).position := by
    rw [Store.setObject]
    by_cases heq : q = r
    · subst q
      simpa using hpos
    · simp [heq]
  rw [hsame]
  exact h.holds other z sim q hz hsim hq

/-- The object of a live entity is rewritten, and the grid of its zone follows. -/
theorem moveEntity (h : Indexed s) (hf : Formed s) (hr : s.entities.get id = some r) (e : Entity) :
    Indexed ((s.setObject r e).moveOnGrid id e.position) := by
  obtain ⟨home, sim, hhome, hsim⟩ := h.exists_home hr
  have href : (s.setObject r e).gridRefOf id = some sim.aoi := by
    simp [Store.gridRefOf, Store.setObject, hhome, hsim]
  have hmoved : (s.setObject r e).moveOnGrid id e.position =
      (s.setObject r e).updateGrid sim.aoi (·.move id e.position) := by
    simp only [Store.moveOnGrid, href]
  rw [hmoved]
  refine h.congr ((Store.SameMaps.setObject s r e).trans ⟨rfl, rfl, rfl, rfl, rfl, rfl⟩)
    (fun other z sim' q hz hsim' hq => ?_) fun other z z' sim' hz hne hsim' => ?_
  · change AOI.Holds _ other ((s.objects.write r e).cell q).position
    have hold := h.holds other z sim' q hz hsim' hq
    by_cases hne : other = id
    · subst hne
      obtain rfl : r = q := Option.some.inj (hr.symm.trans hq)
      obtain rfl : home = z := Option.some.inj (hhome.symm.trans hz)
      obtain rfl : sim = sim' := Option.some.inj (hsim.symm.trans hsim')
      simp only [Store.updateGrid, Store.setObject, Heap.cell_write_self]
      exact hold.move_holds e.position
    · rw [Store.cell_write_entity hf.object hr hq hne]
      exact (hf.own_grids.agree_write hsim hsim' fun _ => AOI.agree_move _ _ hne).holds hold
  · have hold := (h.elsewhere other z z' sim' hz hne hsim').2
    refine (hf.own_grids.agree_write hsim hsim' ?_).lacks hold
    rintro rfl
    -- the mover is not elsewhere when it is at home
    have hother : other ≠ id := by
      rintro rfl
      exact hne (Option.some.inj (hhome.symm.trans hz))
    exact AOI.agree_move _ _ hother

end Indexed

/-! ## The audience of a move -/

namespace Store

variable {s : Store} {id : EntityID}

theorem nodup_audienceAt (s : Store) (id : EntityID) (pos : Vector3) :
    (s.audienceAt id pos).Nodup := by
  unfold audienceAt observersOf AOI.entitiesInRange
  split
  · exact (((AOI.query_increasing _ pos).imp fun h => h.ne).filter _).filter _
  · exact List.nodup_nil

/-- The living in the audience are the others of the zone that are in range. -/
theorem mem_audienceAt_iff (hf : Formed s) (h : Indexed s) (hid : (s.entities.get id).isSome)
    (pos : Vector3) {obs : EntityID} {o : Entity} (hobs : s.entityOf obs = some o) :
    obs ∈ s.audienceAt id pos ↔ obs ≠ id ∧ s.entityZone.get obs = s.entityZone.get id ∧
      distSq o.position pos ≤ s.aoiRadius * s.aoiRadius := by
  obtain ⟨r, hr⟩ := Option.isSome_iff_exists.mp hid
  obtain ⟨q, hq, rfl⟩ := Option.map_eq_some_iff.mp hobs
  obtain ⟨z, sim, hz, hsim⟩ := h.exists_home hr
  obtain ⟨z', -, hz', -⟩ := h.exists_home hq
  have href : s.gridRefOf id = some sim.aoi := by simp [gridRefOf, hz, hsim]
  simp only [audienceAt, href, observersOf, List.mem_filter, decide_not, Bool.not_eq_true',
    decide_eq_false_iff_not, hz, hz', Option.some.injEq]
  rw [and_comm]
  refine and_congr_right fun _ => ?_
  by_cases hzone : z' = z
  · subst hzone
    rw [(h.holds obs z' sim q hz' hsim hq).mem_entitiesInRange_iff
      (hf.own_grids.covers z' sim hsim) hf.radius_nonneg pos]
    exact (and_iff_right rfl).symm
  · have hlacks := (h.elsewhere obs z' z sim hz' (Ne.symm hzone) hsim).2
    refine iff_of_false (fun hmem => ?_) fun hsame => hzone hsame.1
    exact hlacks.not_mem_query pos ((AOI.mem_entitiesInRange _ _ _ _).mp hmem).1

end Store

namespace Game

/-- From `g` to `g'` the entity came to be at the position, and of those who are
alive then, everyone else in its zone within range was sent one event that says
so, and nobody else any. -/
def Announced (g g' : Game) (id : EntityID) (pos : Vector3) : Prop :=
  ∃ e, g'.entityOf id = some e ∧ e.position = pos ∧ ∀ obs o, g'.entityOf obs = some o →
    (g.published g').filter (·.observer = obs) =
      if obs ≠ id ∧ g'.entityZone.get obs = g'.entityZone.get id ∧
          distSq o.position pos ≤ g'.aoiRadius * g'.aoiRadius then
        [moveEvent e.runtimeID obs id pos]
      else []

/-- One of many observers has one event. -/
theorem filter_observer_map {audience : List EntityID} (h : audience.Nodup)
    (space : RuntimeID) (id : EntityID) (pos : Vector3) (obs : EntityID) :
    (audience.map fun o => moveEvent space o id pos).filter (·.observer = obs) =
      if obs ∈ audience then [moveEvent space obs id pos] else [] := by
  have heq : ((fun evt : Event => decide (evt.observer = obs)) ∘
      fun o => moveEvent space o id pos) = fun o => decide (o = obs) := rfl
  rw [List.filter_map, heq, List.filter_eq, h.count]
  split_ifs <;> rfl

variable {g : Game} {id : EntityID} {r : ℕ}

theorem announced_enqueueMove (hf : Formed g.toStore) (h : Indexed g.toStore)
    (hr : g.entities.get id = some r) {e : Entity} (hid : e.id = id)
    (hdrop : ((g.onStore fun s => (s.setObject r e).moveOnGrid id e.position).enqueueMove id
      e.position).eventsDropped = g.eventsDropped) :
    Announced g ((g.onStore fun s => (s.setObject r e).moveOnGrid id e.position).enqueueMove id
      e.position) id e.position := by
  set m := g.onStore fun s => (s.setObject r e).moveOnGrid id e.position with hm
  have hmf : Formed m.toStore :=
    (hf.setObject (hid.trans (hf.object id r hr).symm)).moveOnGrid id e.position
  have hmi : Indexed m.toStore := h.moveEntity hf hr e
  have hmaps : Store.SameMaps g.toStore m.toStore :=
    (Store.SameMaps.setObject g.toStore r e).trans (.moveOnGrid _ id e.position)
  have hmr : m.entities.get id = some r := by rw [hmaps.entities, hr]
  have hobject : m.objects.cell r = e := by simp [hm, onStore, Store.setObject]
  have hme : m.entityOf id = some e := by rw [Store.entityOf, hmr, Option.map_some, hobject]
  have hspace : m.spaceOf id = e.runtimeID := by simp only [Store.spaceOf, hmr, hobject]
  have hpublished : g.published (m.enqueueMove id e.position) =
      (m.audienceAt id e.position).map fun obs => moveEvent e.runtimeID obs id e.position := by
    rw [m.enqueueMove_eq] at hdrop ⊢
    rw [published, sent_publishAll hdrop, hspace]
    exact List.drop_left
  refine ⟨e, by rwa [toStore_enqueueMove], rfl, fun obs o hobs => ?_⟩
  rw [toStore_enqueueMove] at hobs ⊢
  rw [hpublished, filter_observer_map (m.nodup_audienceAt id e.position)]
  simp only [Store.mem_audienceAt_iff hmf hmi (by rw [hmr]; rfl) e.position hobs]

/-! ## Position updates and the simulation -/

theorem announced_dispatchPositionUpdate (hf : Formed g.toStore) (h : Indexed g.toStore)
    {clientID : EntityID} (hlive : (g.entities.get clientID).isSome) (upd : Wire.EntityUpdate)
    (hdrop : (g.dispatchPositionUpdate clientID upd).eventsDropped = g.eventsDropped) :
    Announced g (g.dispatchPositionUpdate clientID upd) clientID
      (upd.position.getD Vector3.zero) := by
  obtain ⟨r, hr⟩ := Option.isSome_iff_exists.mp hlive
  have hid := hf.object clientID r hr
  simp only [dispatchPositionUpdate, hr, hid] at hdrop ⊢
  exact announced_enqueueMove hf h hr rfl hdrop

theorem announced_simulateEntity (hf : Formed g.toStore) (h : Indexed g.toStore) (N : Numerics)
    (dt : Duration) (seed : EntityID → ℤ) {e : Entity} (he : g.entityOf id = some e)
    (hlifecycle : e.lifecycle.isSome)
    (hmoves : (e.onSimulate N (seed id) dt).position ≠ e.position)
    (hdrop : (simulateEntity N dt seed g id).eventsDropped = g.eventsDropped) :
    Announced g (simulateEntity N dt seed g id) id (e.onSimulate N (seed id) dt).position := by
  obtain ⟨r, hr, rfl⟩ := Option.map_eq_some_iff.mp he
  have hsome : ¬ (g.objects.cell r).lifecycle.isNone := by
    simpa [Option.isSome_iff_ne_none] using hlifecycle
  have hid : ((g.objects.cell r).onSimulate N (seed id) dt).id = id := by
    rw [onSimulate_id]
    exact hf.object id r hr
  simp only [simulateEntity, hr, if_neg hsome, if_neg hmoves] at hdrop ⊢
  exact announced_enqueueMove hf h hr hid hdrop

theorem formed_indexed_simulateEntity (N : Numerics) (dt : Duration) (seed : EntityID → ℤ)
    (h : Formed g.toStore ∧ Indexed g.toStore) (id : EntityID) :
    Formed (simulateEntity N dt seed g id).toStore ∧
      Indexed (simulateEntity N dt seed g id).toStore := by
  obtain ⟨hf, hi⟩ := h
  unfold simulateEntity
  split
  · exact ⟨hf, hi⟩
  · next r hr =>
    have hid : ((g.objects.cell r).onSimulate N (seed id) dt).id = (g.objects.cell r).id :=
      onSimulate_id _ _ _ _
    dsimp only
    split_ifs with hnone hpos
    · exact ⟨hf, hi⟩
    · exact ⟨hf.setObject hid, hi.setObject hpos⟩
    · rw [toStore_enqueueMove]
      exact ⟨(hf.setObject hid).moveOnGrid id _, hi.moveEntity hf hr _⟩

/-- Where the indexes agree, a position update of a live client and every move
that a simulation makes, in whichever order it visits the entities, are announced
to the live neighbours and to nobody else alive, if no event is dropped. -/
theorem movement_fan_out (c : Wire.Codec) (N : Numerics) (g : Game) (hf : Formed g.toStore)
    (h : Indexed g.toStore) :
    (∀ pkt d upd, Wire.decode c pkt.data = .ok d → d.id = Wire.packetIDPositionUpdate →
      c.entityUpdate d.payload = some upd → (g.entities.get pkt.clientID).isSome →
      (dispatch c g pkt).eventsDropped = g.eventsDropped →
      Announced g (dispatch c g pkt) pkt.clientID (upd.position.getD Vector3.zero)) ∧
    ∀ dt seed order visited id rest, g.entities.range order = visited ++ id :: rest →
      let m := visited.foldl (simulateEntity N dt seed) g
      let m' := simulateEntity N dt seed m id
      ∀ e, m.entityOf id = some e → e.lifecycle.isSome →
        (e.onSimulate N (seed id) dt).position ≠ e.position →
        m'.eventsDropped = m.eventsDropped →
        Announced m m' id (e.onSimulate N (seed id) dt).position := by
  constructor
  · intro pkt d upd hdecode hkind hupd hlive hdrop
    have hdispatch : dispatch c g pkt = g.dispatchPositionUpdate pkt.clientID upd := by
      simp only [dispatch, hdecode, hkind, if_true, hupd]
    rw [hdispatch] at hdrop ⊢
    exact announced_dispatchPositionUpdate hf h hlive upd hdrop
  · intro dt seed order visited id rest _ m m' e he hlifecycle hmoves hdrop
    have hm : Formed m.toStore ∧ Indexed m.toStore :=
      List.foldlRecOn (motive := fun g : Game => Formed g.toStore ∧ Indexed g.toStore) visited
        (simulateEntity N dt seed) ⟨hf, h⟩
        fun _ hg id _ => formed_indexed_simulateEntity N dt seed hg id
    exact announced_simulateEntity hm.1 hm.2 N dt seed he hlifecycle hmoves hdrop

/-- One of two clients walks, and the other one is told. -/
theorem movement_fan_out_two_clients :
    let H := Host.steady ⟨50, 0, 0⟩
    let g := exec (nodeStep H) (new "gs-1") twoClients
    let g' := dispatch H.codec g ⟨"e1", [1, 0, 3, 0, 0, 0, 0, 0]⟩
    Formed g.toStore ∧ Indexed g.toStore ∧ g.Announced g' "e1" ⟨50, 0, 0⟩ ∧
      g.published g' = [moveEvent "s1" "e2" "e1" ⟨50, 0, 0⟩] := by
  intro H g g'
  have hadmissible : Along (nodeStep H) OwnAdmissible (new "gs-1") twoClients := by decide +kernel
  have hf : Formed g.toStore := formed_exec H "gs-1" twoClients
  have h : Indexed g.toStore := (coherent_nodeExec H "gs-1" hadmissible).indexed
  exact ⟨hf, h, (movement_fan_out H.codec H.numerics g hf h).1 _ _ _ rfl rfl rfl
    (by decide +kernel) (by decide +kernel), by decide +kernel⟩

end Game

end SpatialServer

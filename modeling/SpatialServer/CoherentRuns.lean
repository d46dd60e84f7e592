import SpatialServer.Coherence
import SpatialServer.Publishing

/-!
# Coherence along every run

Publishing never touches the store, so each phase of the tick is followed on
the store alone. Two things are asked of the environment: an entity is added
under an identifier that is not in use and is no replica name, and no session
expires while the run lasts.
-/
namespace SpatialServer

open Runs

namespace Game

theorem coherent_dispatchPositionUpdate {g : Game} (h : Coherent g.toStore) (clientID : EntityID)
    (upd : Wire.EntityUpdate) : Coherent (g.dispatchPositionUpdate clientID upd).toStore := by
  unfold dispatchPositionUpdate
  split
  · exact h
  · next r hr =>
    rw [toStore_enqueueMove]
    have hid : (g.objects.cell r).id = clientID := (h.object clientID r hr).2
    exact h.moveEntity (hid.symm ▸ hr) rfl

theorem coherent_dispatch {g : Game} (h : Coherent g.toStore) (c : Wire.Codec)
    (pkt : InboundPacket) : Coherent (dispatch c g pkt).toStore := by
  obtain hnone | ⟨upd, hupd⟩ | ⟨st, payload, hst⟩ := dispatch_cases c g pkt
  · rw [hnone]; exact h
  · rw [hupd]; exact coherent_dispatchPositionUpdate h _ upd
  · rw [hst, toStore_dispatchEntityState]; exact h

theorem coherent_simulateEntity {g : Game} (h : Coherent g.toStore) (N : Numerics) (dt : Duration)
    (seed : EntityID → ℤ) (id : EntityID) : Coherent (simulateEntity N dt seed g id).toStore := by
  unfold simulateEntity
  split
  · exact h
  · next r hr =>
    have hid : ((g.objects.cell r).onSimulate N (seed id) dt).id = id := by
      rw [onSimulate_id]; exact (h.object id r hr).2
    dsimp only
    split
    · exact h
    · split
      · next hpos => exact h.setObject hr hid hpos
      · rw [toStore_enqueueMove]
        exact h.moveEntity hr hid

theorem coherent_visitObserver {g : Game} (h : Coherent g.toStore) {zid : ZoneID} {sim : ZoneSim}
    (hsim : g.zones.get zid = some sim) (order : VisitOrder) (id : EntityID) :
    Coherent (visitObserver sim order g id).toStore ∧
      (visitObserver sim order g id).zones = g.zones := by
  unfold visitObserver
  split
  · exact ⟨h, rfl⟩
  · next r hr =>
    have hlive := (h.sim_zone zid sim id r hsim hr).1
    have hid : (g.objects.cell r).id = id := (h.object id r hlive).2
    dsimp only
    rw [toStore_publishAll, toStore_publishAll]
    exact ⟨h.setAOI (by rw [hid, hlive]; rfl) _, rfl⟩

theorem coherent_updateVisibility {g : Game} (h : Coherent g.toStore) (zid : ZoneID)
    (order : VisitOrder) : Coherent (g.updateVisibility zid order).toStore := by
  unfold updateVisibility
  split
  · exact h
  · next sim hsim =>
    have hloop := List.foldlRecOn (sim.entities.range order.observers) (visitObserver sim order)
      (motive := fun g' => Coherent g'.toStore ∧ g'.zones = g.zones) ⟨h, rfl⟩
      (fun g' hg' id _ => by
        obtain ⟨hcoh, hz⟩ := coherent_visitObserver hg'.1 (hg'.2 ▸ hsim) order id
        exact ⟨hcoh, hz.trans hg'.2⟩)
    exact hloop.1

/-- No session has been disconnected for longer than the window. -/
def NoneExpired (g : Game) (now : Time) : Prop :=
  ∀ id ∈ g.sessionStates.keys, g.expired now id = false

instance (g : Game) (now : Time) : Decidable (g.NoneExpired now) :=
  inferInstanceAs (Decidable (∀ id ∈ g.sessionStates.keys, g.expired now id = false))

/-- Without an expired session the sweep does nothing. -/
theorem sweepDisconnected_of_noneExpired {g : Game} {now : Time} (h : g.NoneExpired now)
    (order : List EntityID) : g.sweepDisconnected now order = g := by
  have hkeys : ∀ id ∈ g.sessionStates.range order, id ∈ g.sessionStates.keys := by
    intro id hid
    rwa [Dict.mem_keys_iff, ← Dict.mem_range_iff order]
  unfold sweepDisconnected
  refine List.foldlRecOn (motive := fun g' => g' = g) _ _ rfl fun g' hg' id hid => ?_
  subst hg'
  simp [sweepSession, h id (hkeys id hid)]

/-- The identifier is not in use and is no replica name. -/
def NewID (g : Game) (id : EntityID) : Prop :=
  g.entities.get id = none ∧ isGhostID id = false

instance (g : Game) (id : EntityID) : Decidable (g.NewID id) :=
  inferInstanceAs (Decidable (g.entities.get id = none ∧ isGhostID id = false))

/-- What the environment of a coherent run promises about a call. -/
def Admissible (g : Game) (c : Call) : Prop :=
  (∀ id ∈ g.added c, g.NewID id) ∧ ∀ now ∈ c.sweptAt, g.NoneExpired now

instance (g : Game) (c : Call) : Decidable (g.Admissible c) :=
  inferInstanceAs (Decidable ((∀ id ∈ g.added c, g.NewID id) ∧ ∀ now ∈ c.sweptAt, g.NoneExpired now))

theorem coherent_step (H : Host) {g : Game} {c : Call} (h : Coherent g.toStore)
    (hc : g.Admissible c) : Coherent (step H g c).toStore := by
  cases c with
  | assignZone z =>
    obtain heq | ⟨s, hs, heq⟩ := step_assignZone H g z <;> rw [heq]
    · exact h
    · exact h.assignZone z hs
  | releaseZone id =>
    obtain heq | ⟨s, hs, heq⟩ := step_releaseZone H g id <;> rw [heq]
    · exact h
    · exact h.releaseZone id hs
  | addEntity e =>
    have hnew : g.NewID e.id := hc.1 e.id rfl
    exact h.addEntity e hnew.1 hnew.2
  | migrateEntityIn snap target =>
    have hnew : g.NewID snap.entityID := hc.1 snap.entityID rfl
    exact h.addEntity (Store.snapshotEntity snap target) hnew.1 hnew.2
  | removeEntity id => exact h.removeEntity id
  | migrateEntityOut id => exact h.removeEntity id
  | enqueueAddEntity e => simpa [step] using h
  | enqueueRemoveEntity id => simpa [step] using h
  | receive pkt => simpa [step] using h
  | drainEvent => simpa [step] using h
  | markDisconnected id now => simpa [step] using h
  | markReconnected id => simpa [step] using h
  | beginTick now => exact h
  | applyCmd =>
    simp only [step, applyCmd]
    split
    · next cmd ch hrecv =>
      cases cmd with
      | add e =>
        have hnew : g.NewID e.id := hc.1 e.id (by simp [added, addedEntity, hrecv])
        exact h.addEntity e hnew.1 hnew.2
      | remove id => exact h.removeEntity id
    · exact h
  | dispatchNext =>
    simp only [step, dispatchNext]
    split
    · next pkt ch _ => exact coherent_dispatch (g := { g with inbox := ch }) h H.codec pkt
    · exact h
  | simulate dt seed order =>
    exact List.foldlRecOn (motive := fun g' : Game => Coherent g'.toStore) _ _ h
      fun g' hg' id _ => coherent_simulateEntity hg' H.numerics dt seed id
  | detectZoneBoundaries zid now order => exact h.detectZoneBoundaries zid now order
  | updateVisibility zid order => exact coherent_updateVisibility h zid order
  | sweepGhosts now order => exact h.sweepGhosts now order
  | sweepDisconnected now order =>
    have hnone : g.NoneExpired now := hc.2 now rfl
    simp only [step, sweepDisconnected_of_noneExpired hnone order]
    exact h

theorem coherent_exec (H : Host) (sid : ServerID) {calls : List Call}
    (h : Along (step H) Admissible (new sid) calls) :
    Coherent (exec (step H) (new sid) calls).toStore :=
  exec_invariant (fun g => Coherent g.toStore) (fun _ _ hg hc => coherent_step H hg hc)
    Coherent.empty h

/-- In every reachable state the indexes agree: on their keys, on the zone of
every entity, and on its one place in one grid. -/
theorem indexes_agree (H : Host) (sid : ServerID) (calls : List Call)
    (h : Along (step H) Admissible (new sid) calls) :
    let g := exec (step H) (new sid) calls
    (∀ id, ((g.entityZone.get id).isSome ↔ (g.entities.get id).isSome) ∧
      ((g.entityAOI.get id).isSome ↔ (g.entities.get id).isSome)) ∧
    (∀ id z, g.entityZone.get id = some z ↔ ∃ sim r, g.zones.get z = some sim ∧
      sim.entities.get id = some r ∧ g.entities.get id = some r) ∧
    ∀ id z sim r, g.entityZone.get id = some z → g.zones.get z = some sim →
      g.entities.get id = some r →
      (g.grids.cell sim.aoi).positions.get id = some (g.objects.cell r).position ∧
      (∀ key, ((g.grids.cell sim.aoi).cell key).count id =
        if key = (g.grids.cell sim.aoi).cellKeyFor (g.objects.cell r).position then 1 else 0) ∧
      ∀ z' sim', z' ≠ z → g.zones.get z' = some sim' → sim'.entities.get id = none ∧
        (g.grids.cell sim'.aoi).positions.get id = none ∧
        ∀ key, id ∉ (g.grids.cell sim'.aoi).cell key := by
  intro g
  have hg : Indexed g.toStore := (coherent_exec H sid h).indexed
  refine ⟨fun id => ⟨by rw [hg.keys_zone id], by rw [hg.keys_aoi id]⟩, hg.zone_iff, ?_⟩
  intro id z sim r hz hsim hlive
  have hholds := hg.holds id z sim r hz hsim hlive
  refine ⟨hholds.1, hholds.2, fun z' sim' hne hsim' => ?_⟩
  obtain ⟨habs, hlacks⟩ := hg.elsewhere id z z' sim' hz hne hsim'
  exact ⟨habs, hlacks.1, fun key hmem => (List.count_pos_iff.mpr hmem).ne' (hlacks.2 key)⟩

/-- A client joins one of two zones, walks over a cell boundary, is replicated
and seen, and leaves while another one is already there. -/
def crossingCalls : List Call :=
  [.assignZone ⟨"z1", "s1", ⟨0, 0⟩, 100⟩, .assignZone ⟨"z2", "s1", ⟨1, 0⟩, 100⟩,
    .addEntity { Entity.new "e1" "avatar" "" with zoneID := "z1" },
    .addEntity { Entity.new "e2" "avatar" "" with zoneID := "z1" },
    .receive ⟨"e1", [1, 0, 3, 0, 0, 0, 0, 0]⟩, .dispatchNext,
    .detectZoneBoundaries "z1" (fun _ => 0) [], .updateVisibility "z1" .any,
    .removeEntity "e2", .migrateEntityIn ⟨"e2", "avatar", none⟩ "z2",
    .sweepGhosts (6 * second) []]

theorem indexes_agree_crossing :
    let g := exec (step (Host.steady ⟨150, 0, 0⟩)) (new "gs") crossingCalls
    g.entityZone.get "e1" = some "z1" ∧ g.entityZone.get "e2" = some "z2" ∧
      ((g.entityAOI.get "e2").isSome ↔ (g.entities.get "e2").isSome) := by
  have hrun : Along (step (Host.steady ⟨150, 0, 0⟩)) Admissible (new "gs") crossingCalls := by
    decide +kernel
  exact ⟨by decide +kernel, by decide +kernel, ((indexes_agree _ _ _ hrun).1 "e2").2⟩

end Game

end SpatialServer

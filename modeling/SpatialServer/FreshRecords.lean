import SpatialServer.Visibility

/-!
# What is on record after a tick

The visibility phase of a zone records for each of its entities what is around
it. What the tick does after that, for other zones and for replicas, neither
moves an entity nor touches these records, so at the end of a tick the records of
all zones are right. This does not depend on what became of the events.
-/
namespace SpatialServer

open Runs

namespace Game

/-- What the entities of the zone have on record is what is around them. -/
def UpToDate (g : Game) (zid : ZoneID) : Prop :=
  ∀ sim o ro st, g.zones.get zid = some sim → sim.entities.get o = some ro →
    g.entityAOI.get o = some st → ∀ x,
      ((st.visible.get x).isSome ∧ isGhostID x = false ↔ ∃ rx, sim.entities.get x = some rx ∧
        distSq (g.objects.cell rx).position (g.objects.cell ro).position ≤
          g.aoiRadius * g.aoiRadius)

namespace UpToDate

variable {g g' : Game} {zid : ZoneID}

theorem congr (h : UpToDate g zid) (hz : g'.zones = g.zones) (ho : g'.objects = g.objects)
    (hr : g'.aoiRadius = g.aoiRadius)
    (haoi : ∀ sim o r, g.zones.get zid = some sim → sim.entities.get o = some r →
      g'.entityAOI.get o = g.entityAOI.get o) : UpToDate g' zid := by
  intro sim o ro st hsim hro hst
  rw [hz] at hsim
  rw [haoi sim o ro hsim hro] at hst
  rw [ho, hr]
  exact h sim o ro st hsim hro hst

theorem sameMaps (h : UpToDate g zid) (hm : Store.SameMaps g.toStore g'.toStore)
    (ho : g'.objects = g.objects) : UpToDate g' zid :=
  h.congr hm.zones ho hm.aoiRadius fun _ _ _ _ _ => by rw [hm.entityAOI]

/-- The visibility phase of a zone brings its records up to date. -/
theorem updateVisibility (hcoh : Coherent g.toStore) (zid : ZoneID) (order : VisitOrder) :
    UpToDate (g.updateVisibility zid order) zid := by
  intro sim o ro st hsim hro hst x
  obtain ⟨aoi, haoi⟩ := (Shows.updateVisibility g zid order).store
  have hsim' : g.zones.get zid = some sim := by rwa [haoi] at hsim
  rw [entityAOI_updateVisibility order hcoh hsim' hro] at hst
  cases hst
  exact isSome_seen_iff (coherent_updateVisibility hcoh zid order) hsim x

end UpToDate

theorem entityAOI_visits_of_not_mem {zid : ZoneID} {sim : ZoneSim} (order : VisitOrder)
    {ids : List EntityID} {o : EntityID} (ho : sim.entities.get o = none) {g : Game}
    (hcoh : Coherent g.toStore) (hsim : g.zones.get zid = some sim) :
    (ids.foldl (visitObserver sim order) g).entityAOI.get o = g.entityAOI.get o := by
  induction ids generalizing g with
  | nil => rfl
  | cons id ids ih =>
    obtain ⟨hcoh', hzones⟩ := coherent_visitObserver hcoh hsim order id
    rw [List.foldl_cons, ih hcoh' (hzones ▸ hsim)]
    unfold visitObserver
    split
    · rfl
    · next r hr =>
      have hid : (g.objects.cell r).id = id :=
        (hcoh.object id r (hcoh.sim_zone zid sim id r hsim hr).1).2
      have hne : o ≠ id := by rintro rfl; simp [ho] at hr
      simp only [toStore_publishAll, hid, Dict.get_set_ne _ _ hne]

/-- The visibility phase of one zone does not touch the records of another. -/
theorem UpToDate.updateVisibility_of_ne {g : Game} {z zid : ZoneID} (h : UpToDate g z)
    (hcoh : Coherent g.toStore) (hne : z ≠ zid) (order : VisitOrder) :
    UpToDate (g.updateVisibility zid order) z := by
  obtain ⟨aoi, haoi⟩ := (Shows.updateVisibility g zid order).store
  refine h.congr (by rw [haoi]) (by rw [haoi]) (by rw [haoi]) fun sim o r hsim hr => ?_
  unfold Game.updateVisibility
  split
  · rfl
  · next sim' hsim' =>
    apply entityAOI_visits_of_not_mem order _ hcoh hsim'
    refine Option.eq_none_iff_forall_ne_some.mpr fun r' hr' => hne ?_
    have hz := (hcoh.sim_zone z sim o r hsim hr).2
    have hzid := (hcoh.sim_zone zid sim' o r' hsim' hr').2
    exact Option.some.inj (hz.symm.trans hzid)

theorem UpToDate.detectZoneBoundaries {g : Game} {z : ZoneID} (h : UpToDate g z) (zid : ZoneID)
    (now : EntityID → Time) (order : List EntityID) :
    UpToDate (g.detectZoneBoundaries zid now order) z :=
  h.sameMaps (.detectZoneBoundaries g.toStore zid now order)
    (g.toStore.objects_detectZoneBoundaries zid now order)

/-- The zone loop of a tick, begun with some zones up to date. -/
theorem upToDate_zoneLoop (inp : TickInput) (zids : List ZoneID) {g : Game}
    (hcoh : Coherent g.toStore) {done : List ZoneID} (hdone : ∀ z ∈ done, UpToDate g z) :
    let g' := zids.foldl (fun g zid =>
      (g.detectZoneBoundaries zid (inp.ghostNow zid) (inp.detectOrder zid)).updateVisibility zid
        (inp.visitOrder zid)) g
    g'.zones = g.zones ∧ ∀ z ∈ done ++ zids, UpToDate g' z := by
  induction zids generalizing g done with
  | nil => simpa using hdone
  | cons zid zids ih =>
    set g₁ := g.detectZoneBoundaries zid (inp.ghostNow zid) (inp.detectOrder zid) with hg₁
    have hcoh₁ : Coherent g₁.toStore := hcoh.detectZoneBoundaries zid _ _
    have hzones : (g₁.updateVisibility zid (inp.visitOrder zid)).zones = g.zones := by
      obtain ⟨aoi, haoi⟩ := (Shows.updateVisibility g₁ zid (inp.visitOrder zid)).store
      rw [haoi]
      exact (Quiet.detectZoneBoundaries g zid _ _).maps.zones
    have hdone₁ : ∀ z ∈ zid :: done,
        UpToDate (g₁.updateVisibility zid (inp.visitOrder zid)) z := by
      intro z hz
      by_cases hne : z = zid
      · rw [hne]
        exact .updateVisibility hcoh₁ zid _
      · have hold := hdone z ((List.mem_cons.mp hz).resolve_left hne)
        exact (hold.detectZoneBoundaries zid _ _).updateVisibility_of_ne hcoh₁ hne _
    obtain ⟨hrest, hall⟩ := ih (coherent_updateVisibility hcoh₁ zid _) hdone₁
    refine ⟨hrest.trans hzones, fun z hz => hall z ?_⟩
    simp only [List.mem_append, List.mem_cons] at hz ⊢
    tauto

/-- The calls of a tick in a given state. -/
def tickCalls (H : Host) (inp : TickInput) (g : Game) : List Call :=
  let head := tickHead cmdChannelBuffer maxPacketsPerTick inp (g.tickDelta inp.now)
  head ++ tickTail inp ((exec (step H) g head).zones.range inp.zoneOrder)

theorem exec_tickCalls (H : Host) (inp : TickInput) (g : Game) :
    exec (step H) g (tickCalls H inp g) = tick H inp g := (tick_eq_exec H inp g).symm

/-- The call is one of those that a tick is made of. -/
def Phase : Call → Prop
  | .beginTick _ | .applyCmd | .dispatchNext | .simulate .. | .detectZoneBoundaries ..
  | .updateVisibility .. | .sweepGhosts .. | .sweepDisconnected .. => True
  | _ => False

theorem phase_of_mem_tickCalls {H : Host} {inp : TickInput} {g : Game} {c : Call}
    (h : c ∈ tickCalls H inp g) : Phase c := by
  simp only [tickCalls, tickHead, tickTail, List.mem_append, List.mem_cons, List.mem_replicate,
    List.mem_flatMap, List.not_mem_nil, or_false] at h
  rcases h with (rfl | ⟨-, rfl⟩ | ⟨-, rfl⟩ | rfl) | ⟨zid, -, rfl | rfl⟩ | rfl | rfl <;> trivial

/-- No command waits and no session is recorded. -/
def Unattended (g : Game) : Prop := g.cmds.recv = none ∧ g.sessionStates.keys = []

instance (g : Game) : Decidable (Unattended g) :=
  inferInstanceAs (Decidable (g.cmds.recv = none ∧ g.sessionStates.keys = []))

namespace Unattended

variable {g : Game}

theorem noneExpired (h : Unattended g) (now : Time) : g.NoneExpired now := by
  simp [NoneExpired, h.2]

theorem admissible (h : Unattended g) {c : Call} (hc : Phase c) : g.Admissible c := by
  refine ⟨?_, fun now _ => h.noneExpired now⟩
  cases c <;> first | exact hc.elim | simp [added, addedEntity, h.1]

theorem publishes {P : Event → Prop} {g' : Game} (h : Unattended g) (hp : Publishes P g g') :
    Unattended g' :=
  ⟨hp.cmds ▸ h.1, hp.sessionStates ▸ h.2⟩

theorem step (H : Host) (h : Unattended g) {c : Call} (hc : Phase c) :
    Unattended (g.step H c) := by
  cases c with
  | applyCmd => simpa [Game.step, applyCmd, h.1] using h
  | dispatchNext => exact h.publishes (Quiet.dispatchNext H.codec g).publishes
  | simulate dt seed order => exact h.publishes (Quiet.simulate H.numerics g dt seed order).publishes
  | updateVisibility zid order => exact h.publishes (Shows.updateVisibility g zid order).publishes
  | sweepDisconnected now order =>
    rwa [Game.step, sweepDisconnected_of_noneExpired (h.noneExpired now)]
  | beginTick | detectZoneBoundaries | sweepGhosts => exact h
  | _ => exact hc.elim

/-- Whatever the environment does, a tick adds and expires nobody then. -/
theorem admissible_tick (h : Unattended g) (H : Host) (inp : TickInput) :
    Along (Game.step H) Admissible g (tickCalls H inp g) :=
  Along.of_invariant Unattended (fun _ _ hg hc => ⟨hg.admissible hc, hg.step H hc⟩) h
    (Along.of_forall_mem fun _ _ hc => phase_of_mem_tickCalls hc)

end Unattended

theorem upToDate_tick (H : Host) (inp : TickInput) {g : Game} (hcoh : Coherent g.toStore)
    (hadm : Along (step H) Admissible g (tickCalls H inp g)) (z : ZoneID) :
    UpToDate (tick H inp g) z := by
  rw [← exec_tickCalls]
  unfold tickCalls at hadm ⊢
  dsimp only at hadm ⊢
  rw [along_append] at hadm
  rw [exec_append]
  obtain ⟨hhead, htail⟩ := hadm
  set g₁ := exec (step H) g (tickHead cmdChannelBuffer maxPacketsPerTick inp (g.tickDelta inp.now))
  have hcoh₁ : Coherent g₁.toStore :=
    exec_invariant (fun g => Coherent g.toStore) (fun _ _ hg hc => coherent_step H hg hc) hcoh hhead
  unfold tickTail at htail ⊢
  rw [along_append, exec_zoneLoop] at htail
  rw [exec_append, exec_zoneLoop]
  have hnone : ∀ z ∈ ([] : List ZoneID), UpToDate g₁ z := by simp
  obtain ⟨hzones, hall⟩ := upToDate_zoneLoop inp (g₁.zones.range inp.zoneOrder) hcoh₁ hnone
  set g₂ := (g₁.zones.range inp.zoneOrder).foldl (fun g zid =>
    (g.detectZoneBoundaries zid (inp.ghostNow zid) (inp.detectOrder zid)).updateVisibility zid
      (inp.visitOrder zid)) g₁
  have hz₂ : UpToDate g₂ z := by
    intro sim o ro st hsim
    have hmem : z ∈ g₁.zones.range inp.zoneOrder := by
      rw [Dict.mem_range_iff, ← hzones, hsim]
      rfl
    exact hall z (by simpa using hmem) sim o ro st hsim
  have hswept : UpToDate (g₂.sweepGhosts inp.ghostSweepNow inp.ghostOrder) z :=
    hz₂.sameMaps (.sweepGhosts g₂.toStore _ _) (g₂.toStore.objects_sweepGhosts _ _)
  have hsessions := sweepDisconnected_of_noneExpired (htail.2.2.1.2 _ rfl) inp.sessionOrder
  simp only [exec_cons, exec_nil, step] at hsessions ⊢
  rw [hsessions]
  exact hswept

end Game

end SpatialServer

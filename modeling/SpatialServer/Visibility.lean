import SpatialServer.CoherentRuns

/-!
# The view of a client

A client knows its surroundings only through the events addressed to it: a spawn
puts an identifier into its view, a despawn takes it out. The server keeps the
set it announced last in `visible` and publishes differences, so the view of a
client is a fold over the channel's history since the client was added. The
invariant is that this fold is `visible` without the replicas and the client
itself; right after a zone's visibility was updated, `visible` is the grid query,
and by coherence the grid query is the distance test.
-/
namespace SpatialServer

open Runs

/-- What an event does to the view of the client `o`. -/
def observe (o : EntityID) (view : Finset EntityID) (evt : Event) : Finset EntityID :=
  if evt.observer = o then
    match evt.kind with
    | .spawn => insert evt.entityID view
    | .despawn => view.erase evt.entityID
    | .move | .state => view
  else view

def clientView (o : EntityID) (evts : List Event) : Finset EntityID := evts.foldl (observe o) ∅

theorem foldl_observe_of_unrelated {o : EntityID} {evts : List Event}
    (h : ∀ evt ∈ evts, evt.observer ≠ o ∨ evt.IsUpdate) (view : Finset EntityID) :
    evts.foldl (observe o) view = view := by
  induction evts with
  | nil => rfl
  | cons evt evts ih =>
    have hevt : observe o view evt = view := by
      rcases h evt List.mem_cons_self with hobs | hmove | hstate
      · simp [observe, hobs]
      · simp [observe, hmove]
      · simp [observe, hstate]
    rw [List.foldl_cons, hevt]
    exact ih fun e he => h e (List.mem_cons_of_mem _ he)

theorem mem_foldl_observe_spawns {o : EntityID} {evts : List Event}
    (h : ∀ evt ∈ evts, evt.observer = o ∧ evt.kind = .spawn) (view : Finset EntityID)
    (x : EntityID) :
    x ∈ evts.foldl (observe o) view ↔ x ∈ view ∨ ∃ evt ∈ evts, evt.entityID = x := by
  induction evts generalizing view with
  | nil => simp
  | cons evt evts ih =>
    obtain ⟨hobs, hkind⟩ := h evt List.mem_cons_self
    rw [List.foldl_cons, ih fun e he => h e (List.mem_cons_of_mem _ he)]
    simp only [observe, hobs, hkind, if_true, Finset.mem_insert, List.mem_cons,
      exists_eq_or_imp, eq_comm (a := x)]
    tauto

theorem mem_foldl_observe_despawns {o : EntityID} {evts : List Event}
    (h : ∀ evt ∈ evts, evt.observer = o ∧ evt.kind = .despawn) (view : Finset EntityID)
    (x : EntityID) :
    x ∈ evts.foldl (observe o) view ↔ x ∈ view ∧ ∀ evt ∈ evts, evt.entityID ≠ x := by
  induction evts generalizing view with
  | nil => simp
  | cons evt evts ih =>
    obtain ⟨hobs, hkind⟩ := h evt List.mem_cons_self
    rw [List.foldl_cons, ih fun e he => h e (List.mem_cons_of_mem _ he)]
    simp only [observe, hobs, hkind, if_true, Finset.mem_erase, List.mem_cons,
      forall_eq_or_imp, ne_comm (a := x)]
    tauto

namespace Game

/-- If no event was dropped, all of them are in the history. -/
theorem sent_publishAll {g : Game} {evts : List Event}
    (h : (g.publishAll evts).eventsDropped = g.eventsDropped) :
    (g.publishAll evts).events.sent = g.events.sent ++ evts := by
  obtain ⟨hsent, -, hcount⟩ := g.publishAll_eq evts
  rw [hsent, List.take_of_length_le (by omega)]

/-- A new entity has seen nothing. -/
theorem entityAOI_addEntity (s : Store) (e : Entity) (o : EntityID) :
    (s.addEntity e).entityAOI.get o =
      if o = e.id then some ⟨∅, e.position⟩ else s.entityAOI.get o := by
  obtain ⟨sim, -, heq⟩ := s.exists_addEntity_eq e
  simp [heq, Store.placeEntity, Dict.get_set]

/-- A game, and for every entity how many events had been published when it was
last added. -/
structure Watched where
  game : Game
  joined : EntityID → ℕ

namespace Watched

def new (sid : ServerID) : Watched := ⟨Game.new sid, fun _ => 0⟩

def step (H : Host) (t : Watched) (c : Call) : Watched where
  game := t.game.step H c
  joined :=
    match t.game.added c with
    | some id => Function.update t.joined id t.game.events.sent.length
    | none => t.joined

@[simp] theorem game_exec (H : Host) (t : Watched) (calls : List Call) :
    (exec (step H) t calls).game = exec (Game.step H) t.game calls :=
  proj_exec Watched.game (fun _ _ => rfl) t calls

/-- What the client was told since it was last added. -/
def view (t : Watched) (o : EntityID) : Finset EntityID :=
  clientView o (t.game.events.sent.drop (t.joined o))

theorem view_append {t : Watched} {g' : Game} {evts : List Event} {o : EntityID}
    (hle : t.joined o ≤ t.game.events.sent.length)
    (hsent : g'.events.sent = t.game.events.sent ++ evts) :
    view ⟨g', t.joined⟩ o = evts.foldl (observe o) (t.view o) := by
  simp only [view, clientView, hsent, List.drop_append_of_le_length hle, List.foldl_append]

/-- Every client that exists sees what the server believes it sees. -/
structure Viewed (t : Watched) : Prop where
  joined_le : ∀ o, t.joined o ≤ t.game.events.sent.length
  view_iff : ∀ o st, t.game.entityAOI.get o = some st → ∀ x,
    x ∈ t.view o ↔ (st.visible.get x).isSome ∧ isGhostID x = false ∧ x ≠ o

namespace Viewed

variable {t : Watched} {g' : Game}

/-- Updates about entities in view, and entities that disappear. -/
theorem frame (h : Viewed t) {evts : List Event}
    (hsent : g'.events.sent = t.game.events.sent ++ evts) (hupd : ∀ evt ∈ evts, evt.IsUpdate)
    (haoi : ∀ o st, g'.entityAOI.get o = some st → t.game.entityAOI.get o = some st) :
    Viewed ⟨g', t.joined⟩ := by
  constructor
  case joined_le =>
    intro o
    have := h.joined_le o
    simp only [hsent, List.length_append]
    omega
  case view_iff =>
    intro o st hst x
    rw [view_append (h.joined_le o) hsent,
      foldl_observe_of_unrelated fun evt hevt => .inr (hupd evt hevt)]
    exact h.view_iff o st (haoi o st hst) x

theorem quiet (h : Viewed t) (hq : Quiet t.game g') : Viewed ⟨g', t.joined⟩ := by
  obtain ⟨evts, hsent, hupd⟩ := hq.publishes.sent
  exact h.frame hsent hupd fun o st hst => by rwa [← hq.maps.entityAOI]

theorem silent (h : Viewed t) (hsent : g'.events.sent = t.game.events.sent)
    (haoi : ∀ o st, g'.entityAOI.get o = some st → t.game.entityAOI.get o = some st) :
    Viewed ⟨g', t.joined⟩ := by
  have hsent' : g'.events.sent = t.game.events.sent ++ [] := by simpa using hsent
  exact h.frame hsent' (by simp) haoi

/-- A new client starts with an empty view. -/
theorem addEntity (h : Viewed t) (e : Entity) (hsent : g'.events.sent = t.game.events.sent)
    (haoi : g'.entityAOI = (t.game.toStore.addEntity e).entityAOI) :
    Viewed ⟨g', Function.update t.joined e.id t.game.events.sent.length⟩ := by
  constructor
  case joined_le =>
    intro o
    by_cases ho : o = e.id
    · simp [ho, hsent]
    · simpa [ho, hsent] using h.joined_le o
  case view_iff =>
    intro o st hst x
    simp only [haoi, entityAOI_addEntity] at hst
    split_ifs at hst with ho
    · cases hst
      simp [view, clientView, ho, hsent]
    · have hview : view ⟨g', Function.update t.joined e.id t.game.events.sent.length⟩ o =
          t.view o := by simp [view, ho, hsent]
      rw [hview]
      exact h.view_iff o st hst x

end Viewed

end Watched

/-! ## One observer -/

section Visit

variable {g : Game} {zid : ZoneID} {sim : ZoneSim} {o : EntityID} {r : ℕ}

/-- The identifiers the grid of the zone lists in range of an object. -/
def inRange (g : Game) (sim : ZoneSim) (r : ℕ) : List EntityID :=
  (g.grids.cell sim.aoi).entitiesInRange (g.objects.cell r).position g.aoiRadius

/-- The grid returns live entities and replicas, nothing else. -/
theorem live_of_mem_inRange (h : Coherent g.toStore) (hsim : g.zones.get zid = some sim)
    {x : EntityID} (hx : x ∈ g.inRange sim r) (hghost : isGhostID x = false) :
    ∃ rx, sim.entities.get x = some rx ∧ g.entities.get x = some rx := by
  cases hget : sim.entities.get x with
  | some rx => exact ⟨rx, rfl, (h.sim_zone zid sim x rx hsim hget).1⟩
  | none =>
    have hlacks := h.lacks zid sim x hsim hget hghost
    exact absurd ((AOI.mem_entitiesInRange ..).mp hx).1 (hlacks.not_mem_query _)

/-- Among the entities of the zone the grid query is the distance test. -/
theorem mem_inRange_iff (h : Coherent g.toStore) (hsim : g.zones.get zid = some sim)
    {x : EntityID} {rx : ℕ} (hx : sim.entities.get x = some rx) :
    x ∈ g.inRange sim r ↔ distSq (g.objects.cell rx).position (g.objects.cell r).position ≤
      g.aoiRadius * g.aoiRadius :=
  (h.holds zid sim x rx hsim hx).mem_entitiesInRange_iff (h.own_grids.covers zid sim hsim)
    h.radius_nonneg _

theorem mem_spawnsFor (h : Coherent g.toStore) (e : Entity) (visible : Dict EntityID Unit)
    (current : List EntityID) (x : EntityID) :
    (∃ evt ∈ g.spawnsFor e visible current, evt.entityID = x) ↔
      x ∈ current ∧ visible.get x = none ∧ x ≠ e.id ∧ (g.entities.get x).isSome := by
  have hid : ∀ y ry, g.entities.get y = some ry → (g.objects.cell ry).id = y :=
    fun y ry hy => (h.object y ry hy).2
  constructor
  · rintro ⟨evt, hevt, rfl⟩
    obtain ⟨y, ry, hcur, hvis, hne, hry, rfl⟩ := exists_of_mem_spawnsFor hevt
    simp only [spawnEvent, hid y ry hry]
    exact ⟨hcur, hvis, hne, by simp [hry]⟩
  · rintro ⟨hcur, hvis, hne, hlive⟩
    obtain ⟨rx, hrx⟩ := Option.isSome_iff_exists.mp hlive
    refine ⟨spawnEvent e (g.objects.cell rx), List.mem_filterMap.mpr ⟨x, hcur, ?_⟩, hid x rx hrx⟩
    simp [hvis, hne, hrx]

theorem mem_despawnsFor (e : Entity) (visible : List EntityID) (current : Dict EntityID Unit)
    (x : EntityID) :
    (∃ evt ∈ despawnsFor e visible current, evt.entityID = x) ↔
      x ∈ visible ∧ current.get x = none := by
  constructor
  · rintro ⟨evt, hevt, rfl⟩
    obtain ⟨y, hvis, hnone, rfl⟩ := exists_of_mem_despawnsFor hevt
    exact ⟨hvis, hnone⟩
  · rintro ⟨hvis, hnone⟩
    have hkept : x ∈ visible.filter fun id => (current.get id).isNone := by simp [hvis, hnone]
    exact ⟨despawnEvent e x, List.mem_map_of_mem hkept, rfl⟩

theorem spawnsFor_observer {e : Entity} {visible : Dict EntityID Unit} {current : List EntityID}
    {evt : Event} (hevt : evt ∈ g.spawnsFor e visible current) :
    evt.observer = e.id ∧ evt.kind = .spawn := by
  obtain ⟨y, ry, -, -, -, -, rfl⟩ := exists_of_mem_spawnsFor hevt
  exact ⟨rfl, rfl⟩

theorem despawnsFor_observer {e : Entity} {visible : List EntityID} {current : Dict EntityID Unit}
    {evt : Event} (hevt : evt ∈ despawnsFor e visible current) :
    evt.observer = e.id ∧ evt.kind = .despawn := by
  obtain ⟨y, -, -, rfl⟩ := exists_of_mem_despawnsFor hevt
  exact ⟨rfl, rfl⟩

/-- The two differences turn the recorded view into the query. A replica in
range is never spawned, and what is despawned was visible. -/
theorem mem_view_of_differences (h : Coherent g.toStore) (hsim : g.zones.get zid = some sim)
    {e : Entity} (visible : Dict EntityID Unit) {view : Finset EntityID}
    (hview : ∀ x, x ∈ view ↔ (visible.get x).isSome ∧ isGhostID x = false ∧ x ≠ e.id)
    (spawnOrder despawnOrder : List EntityID) (x : EntityID) :
    x ∈ (g.spawnsFor e visible ((Dict.ofList (g.inRange sim r)).range spawnOrder) ++
        despawnsFor e (visible.range despawnOrder) (Dict.ofList (g.inRange sim r))).foldl
        (observe e.id) view ↔
      ((Dict.ofList (g.inRange sim r)).get x).isSome ∧ isGhostID x = false ∧ x ≠ e.id := by
  have hspawned := mem_spawnsFor h e visible ((Dict.ofList (g.inRange sim r)).range spawnOrder) x
  have hdespawned := mem_despawnsFor e (visible.range despawnOrder)
    (Dict.ofList (g.inRange sim r)) x
  rw [List.foldl_append, mem_foldl_observe_despawns fun _ => despawnsFor_observer,
    mem_foldl_observe_spawns fun _ => spawnsFor_observer, hspawned, hview]
  have hforall : (∀ evt ∈ despawnsFor e (visible.range despawnOrder)
      (Dict.ofList (g.inRange sim r)), evt.entityID ≠ x) ↔
      ¬((visible.get x).isSome ∧ (Dict.ofList (g.inRange sim r)).get x = none) := by
    rw [← Dict.mem_range_iff despawnOrder, ← hdespawned]
    push Not
    exact Iff.rfl
  rw [hforall, Dict.mem_range_iff, Dict.isSome_get_ofList]
  have hnone : (Dict.ofList (g.inRange sim r)).get x = none ↔ x ∉ g.inRange sim r := by
    rw [← Dict.isSome_get_ofList, Option.not_isSome_iff_eq_none]
  rw [hnone]
  have hghost : (g.entities.get x).isSome → isGhostID x = false := by
    intro hlive
    obtain ⟨rx, hrx⟩ := Option.isSome_iff_exists.mp hlive
    exact h.not_ghost x rx hrx
  have hlive : x ∈ g.inRange sim r → isGhostID x = false → (g.entities.get x).isSome := by
    intro hx hg
    obtain ⟨rx, -, hrx⟩ := live_of_mem_inRange h hsim hx hg
    simp [hrx]
  constructor
  · rintro ⟨⟨hvis, hg, hne⟩ | ⟨hcur, -, hne, hl⟩, hkept⟩
    · exact ⟨by_contra fun hcur => hkept ⟨hvis, hcur⟩, hg, hne⟩
    · exact ⟨hcur, hghost hl, hne⟩
  · rintro ⟨hcur, hg, hne⟩
    refine ⟨?_, fun hgone => hgone.2 hcur⟩
    cases hvis : visible.get x with
    | some _ => exact .inl ⟨rfl, hg, hne⟩
    | none => exact .inr ⟨hcur, rfl, hne, hlive hcur hg⟩

/-- What a visit of the object records as seen. -/
def seen (g : Game) (sim : ZoneSim) (r : ℕ) : EntityAOIState :=
  ⟨Dict.ofList (g.inRange sim r), (g.objects.cell r).position⟩

/-- What a visit tells the observer: who appears and who disappears. -/
def differences (g : Game) (sim : ZoneSim) (order : VisitOrder) (o : EntityID) (r : ℕ)
    (visible : Dict EntityID Unit) : List Event :=
  g.spawnsFor (g.objects.cell r) visible
      ((Dict.ofList (g.inRange sim r)).range (order.spawns o)) ++
    despawnsFor (g.objects.cell r) (visible.range (order.despawns o))
      (Dict.ofList (g.inRange sim r))

/-- A visit publishes the two differences and records the query. -/
theorem visitObserver_eq (h : Coherent g.toStore) (hsim : g.zones.get zid = some sim)
    (hr : sim.entities.get o = some r) {st : EntityAOIState} (hst : g.entityAOI.get o = some st)
    (order : VisitOrder) :
    visitObserver sim order g o =
      { g.publishAll (g.differences sim order o r st.visible) with
        entityAOI := g.entityAOI.set o (g.seen sim r) } := by
  have hid : (g.objects.cell r).id = o := (h.object o r (h.sim_zone zid sim o r hsim hr).1).2
  simp only [visitObserver, hr, hid, hst, Option.getD_some, differences, publishAll_append,
    toStore_publishAll, seen, inRange]

theorem observer_of_mem_differences (h : Coherent g.toStore) (hsim : g.zones.get zid = some sim)
    (hr : sim.entities.get o = some r) {order : VisitOrder} {visible : Dict EntityID Unit}
    {evt : Event} (hevt : evt ∈ g.differences sim order o r visible) : evt.observer = o := by
  have hid : (g.objects.cell r).id = o := (h.object o r (h.sim_zone zid sim o r hsim hr).1).2
  rcases List.mem_append.mp hevt with hevt | hevt
  · exact (spawnsFor_observer hevt).1.trans hid
  · exact (despawnsFor_observer hevt).1.trans hid

/-- Everyone who exists has a record of what it has seen. -/
theorem exists_record (h : Coherent g.toStore) (hsim : g.zones.get zid = some sim)
    (hr : sim.entities.get o = some r) : ∃ st, g.entityAOI.get o = some st := by
  rw [← Option.isSome_iff_exists, h.keys_aoi o, (h.sim_zone zid sim o r hsim hr).1]
  rfl

theorem sent_visitObserver (h : Coherent g.toStore) (hsim : g.zones.get zid = some sim)
    (hr : sim.entities.get o = some r) {st : EntityAOIState} (hst : g.entityAOI.get o = some st)
    {order : VisitOrder} (hdrop : (visitObserver sim order g o).eventsDropped = g.eventsDropped) :
    (visitObserver sim order g o).events.sent =
      g.events.sent ++ g.differences sim order o r st.visible := by
  rw [visitObserver_eq h hsim hr hst order] at hdrop ⊢
  exact sent_publishAll hdrop

end Visit

namespace Watched.Viewed

variable {t : Watched} {zid : ZoneID} {sim : ZoneSim} {o : EntityID} {r : ℕ}

/-- The observer is brought up to date and nobody else notices. -/
theorem visit (h : Viewed t) (hcoh : Coherent t.game.toStore)
    (hsim : t.game.zones.get zid = some sim) (hr : sim.entities.get o = some r)
    (order : VisitOrder)
    (hdrop : (visitObserver sim order t.game o).eventsDropped = t.game.eventsDropped) :
    Viewed ⟨visitObserver sim order t.game o, t.joined⟩ := by
  have hid : (t.game.objects.cell r).id = o :=
    (hcoh.object o r (hcoh.sim_zone zid sim o r hsim hr).1).2
  obtain ⟨st, hst⟩ := exists_record hcoh hsim hr
  have hsent := sent_visitObserver hcoh hsim hr hst hdrop
  constructor
  case joined_le =>
    intro p
    have := h.joined_le p
    simp only [hsent, List.length_append]
    omega
  case view_iff =>
    intro p stp hstp x
    rw [view_append (h.joined_le p) hsent]
    simp only [visitObserver_eq hcoh hsim hr hst order, Dict.get_set] at hstp
    split_ifs at hstp with hp
    · subst p
      cases hstp
      have hview := h.view_iff o st hst
      rw [← hid] at hview ⊢
      exact mem_view_of_differences hcoh hsim st.visible hview _ _ x
    · rw [foldl_observe_of_unrelated]
      · exact h.view_iff p stp hstp x
      · intro evt hevt
        exact .inl (observer_of_mem_differences hcoh hsim hr hevt ▸ Ne.symm hp)

/-- The whole loop of one zone, for any list of its entities. -/
theorem visits {ids : List EntityID} (hids : ∀ id ∈ ids, (sim.entities.get id).isSome)
    (order : VisitOrder) {t : Watched} (h : Viewed t) (hcoh : Coherent t.game.toStore)
    (hsim : t.game.zones.get zid = some sim)
    (hdrop : (ids.foldl (visitObserver sim order) t.game).eventsDropped =
      t.game.eventsDropped) :
    Viewed ⟨ids.foldl (visitObserver sim order) t.game, t.joined⟩ := by
  induction ids generalizing t with
  | nil => exact h
  | cons id ids ih =>
    obtain ⟨r, hr⟩ := Option.isSome_iff_exists.mp (hids id List.mem_cons_self)
    obtain ⟨hcoh', hzones⟩ := coherent_visitObserver hcoh hsim order id
    have hone := (Shows.visitObserver sim order t.game id).publishes.dropped
    have hrest := (List.foldlRecOn ids (visitObserver sim order)
      (motive := Shows (visitObserver sim order t.game id)) (.refl _)
      fun g' hg' id _ => hg'.trans (.visitObserver sim order g' id)).publishes.dropped
    rw [List.foldl_cons] at hdrop ⊢
    exact ih (fun id hid => hids id (List.mem_cons_of_mem _ hid))
      (h.visit hcoh hsim hr order (le_antisymm (hdrop ▸ hrest) hone)) hcoh' (hzones ▸ hsim)
      (le_antisymm (hdrop ▸ hone) hrest)

end Watched.Viewed

theorem seen_congr {g g' : Game} (h : Shows g g') (sim : ZoneSim) (r : ℕ) :
    g'.seen sim r = g.seen sim r := by
  obtain ⟨aoi, haoi⟩ := h.store
  simp only [seen, inRange, haoi]

/-- Only the visited entity has its record rewritten. -/
theorem entityAOI_visitObserver {zid : ZoneID} {sim : ZoneSim} {g : Game}
    (hcoh : Coherent g.toStore) (hsim : g.zones.get zid = some sim) (order : VisitOrder)
    (id : EntityID) {o : EntityID} {r : ℕ} (hr : sim.entities.get o = some r) :
    (visitObserver sim order g id).entityAOI.get o =
      if o = id then some (g.seen sim r) else g.entityAOI.get o := by
  unfold visitObserver
  split
  · next hnone =>
    have ho : o ≠ id := by rintro rfl; simp [hnone] at hr
    rw [if_neg ho]
  · next q hq =>
    have hid : (g.objects.cell q).id = id :=
      (hcoh.object id q (hcoh.sim_zone zid sim id q hsim hq).1).2
    simp only [toStore_publishAll, hid, Dict.get_set]
    split_ifs with ho
    · subst o
      obtain rfl : q = r := Option.some.inj (hq.symm.trans hr)
      rfl
    · rfl

/-- After the loop every visited entity has seen what is in range. -/
theorem entityAOI_visits {zid : ZoneID} {sim : ZoneSim} {ids : List EntityID}
    (order : VisitOrder) {g : Game} (hcoh : Coherent g.toStore)
    (hsim : g.zones.get zid = some sim) {o : EntityID} {r : ℕ} (hr : sim.entities.get o = some r) :
    (ids.foldl (visitObserver sim order) g).entityAOI.get o =
      if o ∈ ids then some (g.seen sim r) else g.entityAOI.get o := by
  induction ids generalizing g with
  | nil => simp
  | cons id ids ih =>
    obtain ⟨hcoh', hzones⟩ := coherent_visitObserver hcoh hsim order id
    rw [List.foldl_cons, ih hcoh' (hzones ▸ hsim), seen_congr (.visitObserver sim order g id)]
    by_cases hmem : o ∈ ids
    · simp [hmem]
    · rw [if_neg hmem, entityAOI_visitObserver hcoh hsim order id hr]
      simp [hmem]

theorem entityAOI_updateVisibility {zid : ZoneID} {sim : ZoneSim} (order : VisitOrder) {g : Game}
    (hcoh : Coherent g.toStore) (hsim : g.zones.get zid = some sim) {o : EntityID} {r : ℕ}
    (hr : sim.entities.get o = some r) :
    (g.updateVisibility zid order).entityAOI.get o =
      some ((g.updateVisibility zid order).seen sim r) := by
  have hmem : o ∈ sim.entities.range order.observers := by
    rw [Dict.mem_range_iff, hr]; rfl
  rw [seen_congr (.updateVisibility g zid order)]
  simp only [updateVisibility, hsim]
  rw [entityAOI_visits order hcoh hsim hr, if_pos hmem]

/-- What an up-to-date client may see, in terms of distances. -/
theorem isSome_seen_iff {g : Game} {zid : ZoneID} {sim : ZoneSim} {r : ℕ}
    (hcoh : Coherent g.toStore) (hsim : g.zones.get zid = some sim) (x : EntityID) :
    ((g.seen sim r).visible.get x).isSome ∧ isGhostID x = false ↔
      ∃ rx, sim.entities.get x = some rx ∧
        distSq (g.objects.cell rx).position (g.objects.cell r).position ≤
          g.aoiRadius * g.aoiRadius := by
  simp only [seen, Dict.isSome_get_ofList]
  constructor
  · rintro ⟨hx, hghost⟩
    obtain ⟨rx, hrx, -⟩ := live_of_mem_inRange hcoh hsim hx hghost
    exact ⟨rx, hrx, (mem_inRange_iff hcoh hsim hrx).mp hx⟩
  · rintro ⟨rx, hrx, hdist⟩
    exact ⟨(mem_inRange_iff hcoh hsim hrx).mpr hdist,
      hcoh.not_ghost x rx (hcoh.sim_zone zid sim x rx hsim hrx).1⟩

/-! ## Runs -/

theorem entityAOI_assignZone {s s' : Store} {z : Zone} (h : s.assignZone z = .ok s') :
    s'.entityAOI = s.entityAOI := by
  unfold Store.assignZone at h
  split_ifs at h
  cases h; rfl

theorem entityAOI_releaseZone {s s' : Store} {zid : ZoneID} (h : s.releaseZone zid = .ok s')
    {o : EntityID} {st : EntityAOIState} (hst : s'.entityAOI.get o = some st) :
    s.entityAOI.get o = some st := by
  unfold Store.releaseZone at h
  split_ifs at h
  cases h
  simp only [Dict.get_delAll] at hst
  split_ifs at hst
  exact hst

theorem entityAOI_removeEntity {s : Store} {id o : EntityID} {st : EntityAOIState}
    (hst : (s.removeEntity id).entityAOI.get o = some st) : s.entityAOI.get o = some st := by
  unfold Store.removeEntity at hst
  split at hst
  · exact hst
  · dsimp only at hst
    split at hst <;>
    · simp only [Store.updateGrid, Dict.get_del] at hst
      split_ifs at hst
      exact hst

/-- Apart from joining and from the visibility phase, records of what was seen
only disappear. -/
theorem entityAOI_step (H : Host) {g : Game} {c : Call} (hc : g.Admissible c)
    (hadd : g.added c = none) (hshow : ∀ zid order, c ≠ .updateVisibility zid order)
    {o : EntityID} {st : EntityAOIState} (hst : (step H g c).entityAOI.get o = some st) :
    g.entityAOI.get o = some st := by
  cases c with
  | assignZone z =>
    obtain heq | ⟨s, hs, heq⟩ := step_assignZone H g z <;> rw [heq] at hst
    · exact hst
    · exact entityAOI_assignZone hs ▸ hst
  | releaseZone id =>
    obtain heq | ⟨s, hs, heq⟩ := step_releaseZone H g id <;> rw [heq] at hst
    · exact hst
    · exact entityAOI_releaseZone hs hst
  | addEntity e => simp [added, addedEntity] at hadd
  | migrateEntityIn snap target => simp [added, addedEntity] at hadd
  | removeEntity id => exact entityAOI_removeEntity hst
  | migrateEntityOut id => exact entityAOI_removeEntity hst
  | enqueueAddEntity e => simpa [step] using hst
  | enqueueRemoveEntity id => simpa [step] using hst
  | receive pkt => simpa [step] using hst
  | drainEvent => simpa [step] using hst
  | markDisconnected id now => simpa [step] using hst
  | markReconnected id => exact hst
  | beginTick now => exact hst
  | applyCmd =>
    simp only [step, applyCmd] at hst
    split at hst
    · next cmd ch hrecv =>
      cases cmd with
      | add e => simp [added, addedEntity, hrecv] at hadd
      | remove id => exact entityAOI_removeEntity hst
    · exact hst
  | dispatchNext => rwa [← (Quiet.dispatchNext H.codec g).maps.entityAOI]
  | simulate dt seed order => rwa [← (Quiet.simulate H.numerics g dt seed order).maps.entityAOI]
  | detectZoneBoundaries zid now order =>
    rwa [← (Quiet.detectZoneBoundaries g zid now order).maps.entityAOI]
  | updateVisibility zid order => exact absurd rfl (hshow zid order)
  | sweepGhosts now order => rwa [← (Quiet.sweepGhosts g now order).maps.entityAOI]
  | sweepDisconnected now order =>
    simp only [step, sweepDisconnected_of_noneExpired (hc.2 now rfl)] at hst
    exact hst

namespace Watched

theorem viewed_updateVisibility (H : Host) {t : Watched} (hcoh : Coherent t.game.toStore)
    (h : Viewed t) (zid : ZoneID) (order : VisitOrder)
    (hdrop : (t.game.updateVisibility zid order).eventsDropped = t.game.eventsDropped) :
    Viewed (t.step H (.updateVisibility zid order)) := by
  change Viewed ⟨t.game.updateVisibility zid order, t.joined⟩
  unfold updateVisibility at hdrop ⊢
  split at hdrop
  · exact h
  · next sim hsim =>
    exact Viewed.visits (fun id hid => (Dict.mem_range_iff _ _ _).mp hid) order h hcoh hsim hdrop

theorem viewed_step (H : Host) {t : Watched} {c : Call} (hcoh : Coherent t.game.toStore)
    (hc : t.game.Admissible c) (h : Viewed t)
    (hdrop : (t.step H c).game.eventsDropped = t.game.eventsDropped) : Viewed (t.step H c) := by
  cases hadd : t.game.addedEntity c with
  | some e =>
    have hstep : t.step H c = ⟨t.game.step H c,
        Function.update t.joined e.id t.game.events.sent.length⟩ := by simp [step, added, hadd]
    rw [hstep]
    exact h.addEntity e (silent_of_added H hadd).1 (by rw [toStore_step_of_added H hadd])
  | none =>
    have hstep : t.step H c = ⟨t.game.step H c, t.joined⟩ := by simp [step, added, hadd]
    rw [hstep]
    cases c with
    | dispatchNext => exact h.quiet (.dispatchNext H.codec t.game)
    | simulate dt seed order => exact h.quiet (.simulate H.numerics t.game dt seed order)
    | updateVisibility zid order => exact viewed_updateVisibility H hcoh h zid order hdrop
    | _ =>
      refine h.silent (silent_step H t.game _ (by simp) (by simp) (by simp)).1 fun o st hst => ?_
      exact entityAOI_step H hc (by simp [added, hadd]) (by simp) hst

theorem viewed_exec (H : Host) (sid : ServerID) {calls : List Call}
    (h : Along (Game.step H) Admissible (Game.new sid) calls)
    (hdrop : (exec (Game.step H) (Game.new sid) calls).eventsDropped = 0) :
    Viewed (exec (step H) (new sid) calls) := by
  -- the view is right as long as nothing was dropped, so the counter goes into the invariant
  have hadm : Along (step H) (fun t c => t.game.Admissible c) (new sid) calls :=
    h.lift Watched.game fun _ _ => rfl
  have hinv := exec_invariant
    (fun t => Coherent t.game.toStore ∧ (t.game.eventsDropped = 0 → Viewed t))
    ?_ ⟨Coherent.empty, fun _ => ⟨by simp [new], ?_⟩⟩ hadm
  · exact hinv.2 (by rw [game_exec]; exact hdrop)
  · rintro t c ⟨hcoh, hview⟩ hc
    refine ⟨coherent_step H hcoh hc, fun hzero => ?_⟩
    have hle := dropped_le_step H t.game c
    have hstep : (Game.step H t.game c).eventsDropped = 0 := hzero
    exact viewed_step H hcoh hc (hview (by omega)) (by rw [hzero]; omega)
  · intro o st hst
    simp [new, Game.new, Store.empty] at hst

end Watched

/-- Right after the visibility of a zone was updated, what each of its clients
was told is the set of the other entities of the zone within the radius. -/
theorem view_eq_within_radius (H : Host) (sid : ServerID) (calls : List Call) (zid : ZoneID)
    (order : VisitOrder) (h : Along (step H) Admissible (new sid) calls)
    (hdrop : (exec (step H) (new sid) (calls ++ [.updateVisibility zid order])).eventsDropped = 0) :
    let t := exec (Watched.step H) (Watched.new sid) (calls ++ [.updateVisibility zid order])
    ∀ sim o ro, t.game.zones.get zid = some sim → sim.entities.get o = some ro →
      ∀ x, x ∈ clientView o (t.game.events.sent.drop (t.joined o)) ↔
        x ≠ o ∧ ∃ rx, sim.entities.get x = some rx ∧
          distSq (t.game.objects.cell rx).position (t.game.objects.cell ro).position ≤
            t.game.aoiRadius * t.game.aoiRadius := by
  intro t sim o ro hsim hro x
  have hall : Along (step H) Admissible (new sid) (calls ++ [.updateVisibility zid order]) := by
    rw [along_append]
    exact ⟨h, ⟨by simp [added, addedEntity], by simp [Call.sweptAt]⟩, trivial⟩
  have hview : Watched.Viewed t := Watched.viewed_exec H sid hall hdrop
  set g := exec (step H) (new sid) calls with hg
  have hgame : t.game = g.updateVisibility zid order := by
    simp only [t]
    rw [Watched.game_exec, exec_append]
    rfl
  have hcoh : Coherent g.toStore := coherent_exec H sid h
  have hcoh' : Coherent t.game.toStore := by
    rw [hgame]; exact coherent_updateVisibility hcoh zid order
  have hzones : t.game.zones = g.zones := by
    obtain ⟨aoi, haoi⟩ := (Shows.updateVisibility g zid order).store
    rw [hgame, haoi]
  have hseen : t.game.entityAOI.get o = some (t.game.seen sim ro) := by
    rw [hgame]
    exact entityAOI_updateVisibility order hcoh (hzones ▸ hsim) hro
  rw [← isSome_seen_iff hcoh' hsim]
  refine (hview.view_iff o _ hseen x).trans ?_
  rw [← and_assoc, and_comm]

/-- Two clients meet, one walks out of sight and is removed, a third one takes
its identifier and comes back into range. -/
def meetingCalls : List Call :=
  let visit : Call := .updateVisibility "z1" { VisitOrder.any with observers := ["e2"] }
  [.assignZone ⟨"z1", "s1", ⟨0, 0⟩, 100⟩,
    .addEntity { Entity.new "e1" "avatar" "" with zoneID := "z1" },
    .addEntity { Entity.new "e2" "avatar" "" with zoneID := "z1" }, visit,
    .receive ⟨"e2", [1, 0, 3, 0, 0, 0, 0, 0]⟩, .dispatchNext,
    .detectZoneBoundaries "z1" (fun _ => 0) [], visit, .removeEntity "e2",
    .addEntity { Entity.new "e2" "avatar" "" with zoneID := "z1", position := ⟨0, 0, 300⟩ }]

theorem view_eq_within_radius_meeting :
    "e2" ∈ clientView "e1" ((exec (Watched.step (Host.steady ⟨301, 0, 0⟩)) (Watched.new "gs")
      (meetingCalls ++ [.updateVisibility "z1" .any])).game.events.sent.drop
        ((exec (Watched.step (Host.steady ⟨301, 0, 0⟩)) (Watched.new "gs")
      (meetingCalls ++ [.updateVisibility "z1" .any])).joined "e1")) := by
  have hrun : Along (step (Host.steady ⟨301, 0, 0⟩)) Admissible (new "gs") meetingCalls := by
    decide +kernel
  have hdrop : (exec (step (Host.steady ⟨301, 0, 0⟩)) (new "gs")
    (meetingCalls ++ [.updateVisibility "z1" .any])).eventsDropped = 0 := by decide +kernel
  have hview := view_eq_within_radius (Host.steady ⟨301, 0, 0⟩) "gs" meetingCalls "z1" .any hrun hdrop
  generalize ht : exec (Watched.step (Host.steady ⟨301, 0, 0⟩)) (Watched.new "gs")
      (meetingCalls ++ [.updateVisibility "z1" .any]) = t at hview ⊢
  have hobjects : (t.game.zones.get "z1").map
      (fun sim => (sim.entities.get "e1", sim.entities.get "e2")) = some (some 0, some 2) := by
    rw [← ht]
    decide +kernel
  have hdist : distSq (t.game.objects.cell 2).position (t.game.objects.cell 0).position ≤
      t.game.aoiRadius * t.game.aoiRadius := by
    rw [← ht]
    decide +kernel
  obtain ⟨sim, hsim, hrefs⟩ := Option.map_eq_some_iff.mp hobjects
  obtain ⟨he1, he2⟩ := Prod.mk.inj hrefs
  exact (hview sim "e1" 0 hsim he1 "e2").mpr ⟨by decide, 2, he2, hdist⟩

end Game

end SpatialServer

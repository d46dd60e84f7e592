import SpatialServer.Control
import SpatialServer.Episodes
import SpatialServer.Visibility

/-!
# The order of events

For one observer and one other entity, the events should tell a story: the entity
appears, moves, disappears, and may appear again. Appearing and disappearing are
read off the difference between two sets of names, moves are sent to whoever the
grid lists. What the grid lists may be a replica, which nobody listens for, or an
entity that has not been shown the mover yet; and a replica that was in a set
disappears from it without ever having appeared.
-/
namespace SpatialServer

open Runs

/-- What an event tells `o` about `s`. A state message is not part of the story. -/
def Event.tells (o s : EntityID) (evt : Event) : Option EventKind :=
  if evt.observer = o ∧ evt.entityID = s ∧ evt.kind ≠ .state then some evt.kind else none

def story (o s : EntityID) (evts : List Event) : List EventKind := evts.filterMap (Event.tells o s)

/-- Appearances with moves in between, up to now. -/
def InOrder (kinds : List EventKind) : Prop := Episodes.CutShort .spawn .move .despawn kinds

/-- Whether the entity is in sight after the story, if the story is in order. -/
def readStory (inSight : Bool) (kinds : List EventKind) : Option Bool :=
  Episodes.monitor .spawn .move .despawn inSight kinds

theorem inOrder_iff (kinds : List EventKind) :
    InOrder kinds ↔ (readStory false kinds).isSome := Episodes.cutShort_iff (by decide)

instance (kinds : List EventKind) : Decidable (InOrder kinds) :=
  decidable_of_iff _ (inOrder_iff kinds).symm

@[simp] theorem story_nil (o s : EntityID) : story o s [] = [] := rfl

@[simp] theorem story_append (o s : EntityID) (evts evts' : List Event) :
    story o s (evts ++ evts') = story o s evts ++ story o s evts' := List.filterMap_append

theorem story_cons (o s : EntityID) (evt : Event) (evts : List Event) :
    story o s (evt :: evts) = (evt.tells o s).toList ++ story o s evts := by
  cases htells : evt.tells o s <;> simp [story, htells]

/-- Events of one kind to one observer, about different entities. -/
theorem story_of_nodup {k : EventKind} (hk : k ≠ .state) {p : EntityID} {evts : List Event}
    (h : ∀ evt ∈ evts, evt.observer = p ∧ evt.kind = k)
    (hnodup : (evts.map Event.entityID).Nodup) (o s : EntityID) :
    story o s evts = if p = o ∧ s ∈ evts.map Event.entityID then [k] else [] := by
  induction evts with
  | nil => simp
  | cons evt evts ih =>
    rw [List.map_cons, List.nodup_cons] at hnodup
    obtain ⟨hobs, hkind⟩ := h evt List.mem_cons_self
    rw [story_cons, ih (fun e he => h e (List.mem_cons_of_mem _ he)) hnodup.2, List.map_cons]
    by_cases hid : evt.entityID = s
    · subst hid
      by_cases ho : p = o <;> simp [Event.tells, hobs, hkind, hk, hnodup.1, ho]
    · simp [Event.tells, hid, Ne.symm hid]

/-- One event, read and observed. -/
theorem mem_observe_iff {o s : EntityID} {evt : Event} {inSight i : Bool}
    (hread : readStory inSight (evt.tells o s).toList = some i) {view : Finset EntityID}
    (hview : s ∈ view ↔ inSight = true) : s ∈ observe o view evt ↔ i = true := by
  by_cases hobs : evt.observer = o
  · by_cases hid : evt.entityID = s
    · cases hkind : evt.kind <;> cases inSight <;>
        simp_all [Event.tells, readStory, Episodes.monitor_cons, Episodes.next, observe]
    · have hnone : evt.tells o s = none := by simp [Event.tells, hid]
      rw [hnone] at hread
      cases hread
      cases hkind : evt.kind <;> simp [observe, hobs, hkind, hview, Ne.symm hid]
  · have hnone : evt.tells o s = none := by simp [Event.tells, hobs]
    rw [hnone] at hread
    cases hread
    simpa [observe, hobs] using hview

/-- If a story is in order, its end is what the observer believes. -/
theorem mem_foldl_observe_iff {o s : EntityID} {evts : List Event} {inSight i : Bool}
    (hread : readStory inSight (story o s evts) = some i) {view : Finset EntityID}
    (hview : s ∈ view ↔ inSight = true) : s ∈ evts.foldl (observe o) view ↔ i = true := by
  induction evts generalizing inSight view with
  | nil =>
    cases hread
    exact hview
  | cons evt evts ih =>
    rw [story_cons, readStory, Episodes.monitor_append] at hread
    obtain ⟨j, hj, hrest⟩ := Option.bind_eq_some_iff.mp hread
    exact ih hrest (mem_observe_iff hj hview)

namespace Store

/-- The entity has a record of having seen the identifier. -/
def HasSeen (s : Store) (o x : EntityID) : Prop :=
  ∃ st ∈ s.entityAOI.get o, (st.visible.get x).isSome

instance (s : Store) (o x : EntityID) : Decidable (s.HasSeen o x) :=
  inferInstanceAs (Decidable (∃ st ∈ s.entityAOI.get o, (st.visible.get x).isSome))

/-- Everyone the grid lists in range of a place, the entity itself apart. -/
def audienceAt (s : Store) (id : EntityID) (pos : Vector3) : List EntityID :=
  match s.gridRefOf id with
  | some ref => s.observersOf ref id pos
  | none => []

/-- Everyone in range of where a live entity is going to be has seen it. -/
def Introduced (s : Store) (id : EntityID) (pos : Vector3) : Prop :=
  (s.entities.get id).isSome → ∀ obs ∈ s.audienceAt id pos, s.HasSeen obs id

instance (s : Store) (id : EntityID) (pos : Vector3) : Decidable (s.Introduced id pos) :=
  inferInstanceAs (Decidable (_ → _))

theorem ne_of_mem_audienceAt (s : Store) {id obs : EntityID} {pos : Vector3}
    (h : obs ∈ s.audienceAt id pos) : obs ≠ id := by
  unfold audienceAt at h
  split at h
  · simpa using (List.mem_filter.mp h).2
  · cases h

/-- Moving an entity does not change who is around. -/
theorem mem_audienceAt_moved (s : Store) (r : ℕ) (e : Entity) (id : EntityID) (pos : Vector3)
    (obs : EntityID) :
    obs ∈ ((s.setObject r e).moveOnGrid id pos).audienceAt id pos ↔ obs ∈ s.audienceAt id pos := by
  have hmaps : SameMaps s ((s.setObject r e).moveOnGrid id pos) :=
    (SameMaps.setObject s r e).trans (.moveOnGrid _ id pos)
  have href : ((s.setObject r e).moveOnGrid id pos).gridRefOf id = s.gridRefOf id := by
    simp only [gridRefOf, hmaps.zones, hmaps.entityZone]
  have hobject : (s.setObject r e).gridRefOf id = s.gridRefOf id := rfl
  unfold audienceAt
  rw [href]
  cases hget : s.gridRefOf id with
  | none => rfl
  | some ref =>
    have hmoved : (s.setObject r e).moveOnGrid id pos =
        (s.setObject r e).updateGrid ref (·.move id pos) := by simp only [moveOnGrid, hobject, hget]
    rw [hmoved]
    simp only [observersOf, List.mem_filter, updateGrid, setObject, Heap.cell_write_self,
      decide_not, Bool.not_eq_true', decide_eq_false_iff_not]
    refine and_congr_left fun hne => ?_
    exact (AOI.agree_move _ pos hne).mem_entitiesInRange_iff (.move _ _ _) pos _

end Store

namespace Game

namespace Watched

/-- The events since the client was last added. -/
def since (t : Watched) (o : EntityID) : List Event := t.game.events.sent.drop (t.joined o)

def Grammatical (t : Watched) : Prop := ∀ o s, InOrder (story o s (t.since o))

/-- The call addressed only entities that exist, and the stories are in order. -/
structure Lawful (t t' : Watched) : Prop where
  addressed : ∀ evt ∈ t.game.published t'.game, (t.game.entities.get evt.observer).isSome
  grammatical : Grammatical t'

variable {t : Watched} {g' : Game} {evts : List Event}

theorem lawful_self (h : Grammatical t) : Lawful t t := ⟨by simp, h⟩

/-- The stories go on where the views are. -/
theorem grammatical_append_iff (hgr : Grammatical t)
    (hjoined : ∀ o, t.joined o ≤ t.game.events.sent.length)
    (hsent : g'.events.sent = t.game.events.sent ++ evts) :
    Grammatical ⟨g', t.joined⟩ ↔
      ∀ o s, (readStory (decide (s ∈ t.view o)) (story o s evts)).isSome := by
  refine forall_congr' fun o => forall_congr' fun s => ?_
  obtain ⟨i, hi⟩ := Option.isSome_iff_exists.mp ((inOrder_iff _).mp (hgr o s))
  have hview : s ∈ t.view o ↔ i = true := mem_foldl_observe_iff hi (by simp)
  have hdecide : decide (s ∈ t.view o) = i := by simp [hview]
  rw [inOrder_iff, since, hsent, List.drop_append_of_le_length (hjoined o), story_append,
    readStory, Episodes.monitor_append, ← readStory]
  change ((readStory false (story o s (t.since o))).bind _).isSome ↔ _
  rw [hi, hdecide]
  rfl

/-- An update is in order if its subject is in sight. -/
theorem grammatical_updates_iff (hgr : Grammatical t)
    (hjoined : ∀ o, t.joined o ≤ t.game.events.sent.length)
    (hsent : g'.events.sent = t.game.events.sent ++ evts) (hupd : ∀ evt ∈ evts, evt.IsUpdate) :
    Grammatical ⟨g', t.joined⟩ ↔
      ∀ evt ∈ evts, evt.kind = .move → evt.entityID ∈ t.view evt.observer := by
  have hmoves : ∀ o s, ∀ k ∈ story o s evts, k = .move := by
    intro o s k hk
    obtain ⟨evt, hevt, htells⟩ := List.mem_filterMap.mp hk
    unfold Event.tells at htells
    split_ifs at htells with hcond
    cases htells
    exact (hupd evt hevt).resolve_right hcond.2.2
  rw [grammatical_append_iff hgr hjoined hsent]
  simp only [readStory, decide_eq_true_eq,
    Episodes.isSome_monitor_middles (hmoves _ _) (by decide : EventKind.move ≠ .spawn)]
  constructor
  · intro h evt hevt hkind
    refine (h evt.observer evt.entityID).resolve_left fun hnil => ?_
    have hmem : EventKind.move ∈ story evt.observer evt.entityID evts :=
      List.mem_filterMap.mpr ⟨evt, hevt, by simp [Event.tells, hkind]⟩
    rw [hnil] at hmem
    cases hmem
  · intro h o s
    refine or_iff_not_imp_left.mpr fun hne => ?_
    obtain ⟨k, hk⟩ := List.exists_mem_of_ne_nil _ hne
    have hmove := hmoves o s k hk
    obtain ⟨evt, hevt, htells⟩ := List.mem_filterMap.mp hk
    unfold Event.tells at htells
    split_ifs at htells with hcond
    obtain ⟨rfl, rfl, -⟩ := hcond
    cases htells
    exact h evt hevt hmove

/-- In terms of what the server has recorded: every update goes to a live entity,
and every move to one that has seen the mover. -/
theorem lawful_updates_iff (hcoh : Coherent t.game.toStore) (hv : Viewed t) (hgr : Grammatical t)
    (hsent : g'.events.sent = t.game.events.sent ++ evts) (hupd : ∀ evt ∈ evts, evt.IsUpdate)
    (hsubject : ∀ evt ∈ evts, isGhostID evt.entityID = false ∧ evt.entityID ≠ evt.observer) :
    Lawful t ⟨g', t.joined⟩ ↔ ∀ evt ∈ evts, (t.game.entities.get evt.observer).isSome ∧
      (evt.kind = .move → t.game.HasSeen evt.observer evt.entityID) := by
  have hpublished : t.game.published g' = evts := by simp [published, hsent]
  have hseen : ∀ evt ∈ evts, (t.game.entities.get evt.observer).isSome →
      (evt.entityID ∈ t.view evt.observer ↔ t.game.HasSeen evt.observer evt.entityID) := by
    intro evt hevt hlive
    rw [← hcoh.keys_aoi] at hlive
    obtain ⟨st, hst⟩ := Option.isSome_iff_exists.mp hlive
    simp [hv.view_iff _ st hst, Store.HasSeen, hst, hsubject evt hevt]
  constructor
  · intro h evt hevt
    have hlive := h.addressed evt (hpublished.symm ▸ hevt)
    exact ⟨hlive, fun hmove => (hseen evt hevt hlive).mp
      ((grammatical_updates_iff hgr hv.joined_le hsent hupd).mp h.grammatical evt hevt hmove)⟩
  · intro h
    constructor
    case addressed =>
      intro evt hevt
      have hevt : evt ∈ evts := hpublished ▸ hevt
      exact (h evt hevt).1
    case grammatical =>
      refine (grammatical_updates_iff hgr hv.joined_le hsent hupd).mpr fun evt hevt hmove => ?_
      exact (hseen evt hevt (h evt hevt).1).mpr ((h evt hevt).2 hmove)

end Watched

/-! ## Moves and states -/

theorem enqueueMove_eq (g : Game) (id : EntityID) (pos : Vector3) :
    g.enqueueMove id pos =
      g.publishAll ((g.audienceAt id pos).map fun obs => moveEvent (g.spaceOf id) obs id pos) := by
  unfold enqueueMove Store.audienceAt
  cases g.gridRefOf id <;> rfl

namespace Watched

variable {g : Game} {joined : EntityID → ℕ}

/-- A move is in order if everyone it is announced to has seen the mover. -/
theorem lawful_move_iff (hcoh : Coherent g.toStore) (hv : Viewed ⟨g, joined⟩)
    (hgr : Grammatical ⟨g, joined⟩) {id : EntityID} {r : ℕ} (hr : g.entities.get id = some r)
    (e : Entity) (pos : Vector3) :
    let g' := (g.onStore fun s => (s.setObject r e).moveOnGrid id pos).enqueueMove id pos
    g'.eventsDropped = g.eventsDropped →
      (Lawful ⟨g, joined⟩ ⟨g', joined⟩ ↔ ∀ obs ∈ g.audienceAt id pos, g.HasSeen obs id) := by
  intro g' hdrop
  set m := g.onStore fun s => (s.setObject r e).moveOnGrid id pos with hm
  have haudience : ∀ obs, obs ∈ m.audienceAt id pos ↔ obs ∈ g.audienceAt id pos :=
    fun obs => Store.mem_audienceAt_moved g.toStore r e id pos obs
  have hsent : g'.events.sent = g.events.sent ++
      (m.audienceAt id pos).map fun obs => moveEvent (m.spaceOf id) obs id pos := by
    change (m.enqueueMove id pos).eventsDropped = _ at hdrop
    change (m.enqueueMove id pos).events.sent = _
    rw [m.enqueueMove_eq id pos] at hdrop ⊢
    exact sent_publishAll hdrop
  have hne : ∀ obs ∈ g.audienceAt id pos, obs ≠ id := fun obs => g.ne_of_mem_audienceAt
  have hlive : ∀ obs, g.HasSeen obs id → (g.entities.get obs).isSome := by
    rintro obs ⟨st, hst, -⟩
    rw [← hcoh.keys_aoi, Option.mem_def.mp hst]
    rfl
  rw [lawful_updates_iff hcoh hv hgr hsent]
  · simp only [List.forall_mem_map, moveEvent, haudience, forall_const]
    exact forall₂_congr fun obs _ => and_iff_right_of_imp (hlive obs)
  · simp [moveEvent, Event.IsUpdate]
  · simp only [List.forall_mem_map, moveEvent, haudience]
    exact fun obs hobs => ⟨hcoh.not_ghost id r hr, (hne obs hobs).symm⟩

theorem lawful_position_iff (hcoh : Coherent g.toStore) (hv : Viewed ⟨g, joined⟩)
    (hgr : Grammatical ⟨g, joined⟩) (clientID : EntityID) (upd : Wire.EntityUpdate)
    (hdrop : (g.dispatchPositionUpdate clientID upd).eventsDropped = g.eventsDropped) :
    Lawful ⟨g, joined⟩ ⟨g.dispatchPositionUpdate clientID upd, joined⟩ ↔
      g.Introduced clientID (upd.position.getD Vector3.zero) := by
  unfold dispatchPositionUpdate at hdrop ⊢
  unfold Store.Introduced
  split at hdrop
  · next hnone => simp [hnone, lawful_self hgr]
  · next r hr =>
    have hid : (g.objects.cell r).id = clientID := (hcoh.object clientID r hr).2
    simp only [hid] at hdrop ⊢
    rw [lawful_move_iff hcoh hv hgr hr _ _ hdrop]
    simp [hr]

theorem lawful_state_iff (hcoh : Coherent g.toStore) (hv : Viewed ⟨g, joined⟩)
    (hgr : Grammatical ⟨g, joined⟩) (st : Wire.EntityState) (payload : Bytes)
    (hdrop : (g.dispatchEntityState st payload).eventsDropped = g.eventsDropped) :
    Lawful ⟨g, joined⟩ ⟨g.dispatchEntityState st payload, joined⟩ ↔
      ∀ e ∈ g.entityOf st.entityID, ∀ obs ∈ g.audience e, (g.entities.get obs).isSome := by
  rw [dispatchEntityState_eq] at hdrop ⊢
  cases he : g.entityOf st.entityID with
  | none => simp [lawful_self hgr]
  | some e =>
    rw [he] at hdrop
    obtain ⟨r, hr, rfl⟩ := Option.map_eq_some_iff.mp he
    have hid : (g.objects.cell r).id = st.entityID := (hcoh.object _ r hr).2
    have hghost := hcoh.not_ghost _ r hr
    rw [lawful_updates_iff hcoh hv hgr (sent_publishAll hdrop)]
    · simp [stateEvent]
    · simp [stateEvent, Event.IsUpdate]
    · simp only [List.forall_mem_map, stateEvent, hid]
      refine fun obs hobs => ⟨hghost, fun heq => ?_⟩
      have hobs : obs ∈ g.audienceAt (g.objects.cell r).id (g.objects.cell r).position := hobs
      exact g.ne_of_mem_audienceAt (hid ▸ hobs) heq.symm

end Watched

/-! ## One observer -/

section Visit

variable {g : Game} {e : Entity}

/-- Someone newly in range appears once. -/
theorem story_spawnsFor (hcoh : Coherent g.toStore) (visible : Dict EntityID Unit)
    {current : List EntityID} (hnodup : current.Nodup) (o s : EntityID) :
    story o s (g.spawnsFor e visible current) =
      if e.id = o ∧ s ∈ current ∧ visible.get s = none ∧ s ≠ e.id ∧ (g.entities.get s).isSome then
        [.spawn]
      else [] := by
  have hids : (g.spawnsFor e visible current).map Event.entityID = current.filter fun id =>
      decide ((visible.get id).isNone ∧ id ≠ e.id) && (g.entities.get id).isSome := by
    rw [spawnsFor, List.map_filterMap, ← List.filterMap_eq_filter]
    refine List.filterMap_congr fun id _ => ?_
    cases hr : g.entities.get id with
    | none => simp [Option.guard, hr]
    | some r =>
      have hid := (hcoh.object id r hr).2
      by_cases hcond : (visible.get id).isNone ∧ id ≠ e.id
      · simp [Option.guard, hcond, hid, hr, spawnEvent]
      · simp only [hcond, if_false, Option.map_none, Option.guard, decide_false, Bool.false_and,
          Bool.false_eq_true]
  rw [story_of_nodup (k := .spawn) (by decide) (fun evt => spawnsFor_observer)
    (by rw [hids]; exact hnodup.filter _)]
  have hmem := mem_spawnsFor hcoh e visible current s
  simp only [List.mem_map, hmem]

/-- Someone no longer in range disappears once. -/
theorem story_despawnsFor {visible : List EntityID} (hnodup : visible.Nodup)
    (current : Dict EntityID Unit) (o s : EntityID) :
    story o s (despawnsFor e visible current) =
      if e.id = o ∧ s ∈ visible ∧ current.get s = none then [.despawn] else [] := by
  have hids : (despawnsFor e visible current).map Event.entityID =
      visible.filter fun id => (current.get id).isNone := by
    simp [despawnsFor, despawnEvent, Function.comp_def]
  rw [story_of_nodup (k := .despawn) (by decide) (fun evt => despawnsFor_observer)
    (by rw [hids]; exact hnodup.filter _)]
  have hmem := mem_despawnsFor e visible current s
  simp only [List.mem_map, hmem]

/-- Every replica that the observer has seen is still in range of it. -/
def KeepsReplicas (g : Game) (sim : ZoneSim) (o : EntityID) : Prop :=
  ∀ r ∈ sim.entities.get o, ∀ st ∈ g.entityAOI.get o, ∀ x ∈ st.visible.keys, isGhostID x = true →
    x ∈ g.inRange sim r

instance (g : Game) (sim : ZoneSim) (o : EntityID) : Decidable (g.KeepsReplicas sim o) :=
  inferInstanceAs (Decidable (∀ r ∈ sim.entities.get o, ∀ st ∈ g.entityAOI.get o,
    ∀ x ∈ st.visible.keys, isGhostID x = true → x ∈ g.inRange sim r))

variable {zid : ZoneID} {sim : ZoneSim} {o : EntityID} {r : ℕ}

theorem self_mem_inRange (hcoh : Coherent g.toStore) (hsim : g.zones.get zid = some sim)
    (hr : sim.entities.get o = some r) : o ∈ g.inRange sim r := by
  rw [mem_inRange_iff hcoh hsim hr]
  simp only [distSq, sub_self, mul_zero, add_zero]
  exact mul_self_nonneg _

theorem inRange_congr {g' : Game} (h : Shows g g') (sim : ZoneSim) (r : ℕ) :
    g'.inRange sim r = g.inRange sim r := by
  obtain ⟨aoi, haoi⟩ := h.store
  simp only [inRange, haoi]

theorem story_differences (hcoh : Coherent g.toStore) (hsim : g.zones.get zid = some sim)
    (hr : sim.entities.get o = some r) (order : VisitOrder) (visible : Dict EntityID Unit)
    (p s : EntityID) :
    story p s (g.differences sim order o r visible) =
      (if o = p ∧ s ∈ g.inRange sim r ∧ visible.get s = none ∧ s ≠ o ∧ (g.entities.get s).isSome
        then [.spawn] else []) ++
      if o = p ∧ (visible.get s).isSome ∧ s ∉ g.inRange sim r then [.despawn] else [] := by
  have hid : (g.objects.cell r).id = o :=
    (hcoh.object o r (hcoh.sim_zone zid sim o r hsim hr).1).2
  have hnone : (Dict.ofList (g.inRange sim r)).get s = none ↔ s ∉ g.inRange sim r := by
    rw [← Dict.isSome_get_ofList, Option.not_isSome_iff_eq_none]
  rw [differences, story_append, story_spawnsFor hcoh _ (Dict.nodup_range _ _),
    story_despawnsFor (Dict.nodup_range _ _)]
  simp only [hid, Dict.mem_range_iff, Dict.isSome_get_ofList, hnone]

/-- A visit keeps the stories in order unless a replica disappears. -/
theorem Watched.lawful_visit_iff {joined : EntityID → ℕ} (hcoh : Coherent g.toStore)
    (hv : Watched.Viewed ⟨g, joined⟩) (hgr : Watched.Grammatical ⟨g, joined⟩)
    (hsim : g.zones.get zid = some sim) (hr : sim.entities.get o = some r) (order : VisitOrder)
    (hdrop : (visitObserver sim order g o).eventsDropped = g.eventsDropped) :
    Watched.Lawful ⟨g, joined⟩ ⟨visitObserver sim order g o, joined⟩ ↔ g.KeepsReplicas sim o := by
  obtain ⟨st, hst⟩ := exists_record hcoh hsim hr
  have hsent := sent_visitObserver hcoh hsim hr hst hdrop
  have haddressed : ∀ evt ∈ g.published (visitObserver sim order g o),
      (g.entities.get evt.observer).isSome := by
    intro evt hevt
    rw [published, hsent, List.drop_left] at hevt
    rw [observer_of_mem_differences hcoh hsim hr hevt, (hcoh.sim_zone zid sim o r hsim hr).1]
    rfl
  have hview : ∀ s, s ∈ Watched.view ⟨g, joined⟩ o ↔
      (st.visible.get s).isSome ∧ isGhostID s = false ∧ s ≠ o := hv.view_iff o st hst
  have hgrammar := Watched.grammatical_append_iff hgr hv.joined_le hsent
  constructor
  · intro h r' hr' st' hst' x hx hghost
    obtain rfl : r = r' := Option.some.inj (hr.symm.trans hr')
    obtain rfl : st = st' := Option.some.inj (hst.symm.trans hst')
    by_contra hgone
    -- the replica was never in view, so its despawn comes out of nowhere
    have hvisible : (st.visible.get x).isSome := (Dict.mem_keys_iff _ _).mp hx
    have hread := hgrammar.mp h.grammatical o x
    rw [story_differences hcoh hsim hr] at hread
    have hunseen : decide (x ∈ Watched.view ⟨g, joined⟩ o) = false := by simp [hview, hghost]
    simp [hunseen, hgone, hvisible, readStory, Episodes.monitor_cons, Episodes.next] at hread
  · intro h
    refine ⟨haddressed, hgrammar.mpr fun p s => ?_⟩
    rw [story_differences hcoh hsim hr]
    by_cases hp : o = p
    · subst hp
      have hkept : (st.visible.get s).isSome → s ∉ g.inRange sim r →
          isGhostID s = false ∧ s ≠ o := by
        intro hvisible hgone
        refine ⟨?_, ?_⟩
        · by_contra hghost
          exact hgone (h r hr st hst s ((Dict.mem_keys_iff _ _).mpr hvisible) (by simpa using hghost))
        · rintro rfl
          exact hgone (self_mem_inRange hcoh hsim hr)
      by_cases hcur : s ∈ g.inRange sim r
      · by_cases hvisible : st.visible.get s = none
        · have hunseen : decide (s ∈ Watched.view ⟨g, joined⟩ o) = false := by simp [hview, hvisible]
          rw [hunseen]
          split_ifs <;> simp_all [readStory, Episodes.monitor_cons, Episodes.next]
        · simp [hcur, hvisible, readStory]
      · by_cases hvisible : (st.visible.get s).isSome
        · have hseen : decide (s ∈ Watched.view ⟨g, joined⟩ o) = true := by
            simp [hview, hvisible, hkept hvisible hcur]
          simp [hseen, hcur, hvisible, readStory, Episodes.monitor_cons, Episodes.next]
        · simp [hcur, hvisible, readStory]
    · simp [hp, readStory]

end Visit

/-! ## Loops -/

/-- Events were added to the history, and the same entities exist. -/
structure Extends (g g' : Game) : Prop where
  sent : g.events.sent <+: g'.events.sent
  entities : g'.entities = g.entities
  dropped : g.eventsDropped ≤ g'.eventsDropped

namespace Extends

variable {g g' g'' : Game}

theorem refl (g : Game) : Extends g g := ⟨List.prefix_rfl, rfl, le_rfl⟩

theorem trans (h : Extends g g') (h' : Extends g' g'') : Extends g g'' :=
  ⟨h.sent.trans h'.sent, h'.entities.trans h.entities, h.dropped.trans h'.dropped⟩

theorem of_quiet (h : Quiet g g') : Extends g g' := by
  obtain ⟨evts, hsent, -⟩ := h.publishes.sent
  exact ⟨⟨evts, hsent.symm⟩, h.maps.entities, h.publishes.dropped⟩

theorem of_shows (h : Shows g g') : Extends g g' := by
  obtain ⟨evts, hsent, -⟩ := h.publishes.sent
  obtain ⟨aoi, haoi⟩ := h.store
  exact ⟨⟨evts, hsent.symm⟩, by rw [haoi], h.publishes.dropped⟩

end Extends

namespace Watched

variable {g g' g'' : Game} {joined : EntityID → ℕ}

/-- A story that is in order now was in order before. -/
theorem Grammatical.of_extends (h : Extends g g') (hgr : Grammatical ⟨g', joined⟩) :
    Grammatical ⟨g, joined⟩ := by
  obtain ⟨evts, hsent⟩ := h.sent
  intro o s
  have hstory := hgr o s
  rw [since, ← hsent, List.drop_append, story_append] at hstory
  exact hstory.of_append

/-- A law that holds from step to step holds over all of them, and conversely. -/
theorem lawful_trans_iff (h : Extends g g') (h' : Extends g' g'') :
    Lawful ⟨g, joined⟩ ⟨g'', joined⟩ ↔
      Lawful ⟨g, joined⟩ ⟨g', joined⟩ ∧ Lawful ⟨g', joined⟩ ⟨g'', joined⟩ := by
  obtain ⟨evts, hsent⟩ := h.sent
  obtain ⟨evts', hsent'⟩ := h'.sent
  have hpublished : g.published g'' = g.published g' ++ g'.published g'' := by
    simp [published, ← hsent', ← hsent]
  constructor
  · rintro ⟨haddressed, hgr⟩
    simp only [hpublished, List.mem_append] at haddressed
    refine ⟨⟨fun evt hevt => haddressed evt (.inl hevt), hgr.of_extends h'⟩,
      fun evt hevt => ?_, hgr⟩
    rw [h.entities]
    exact haddressed evt (.inr hevt)
  · rintro ⟨⟨haddressed, -⟩, haddressed', hgr⟩
    refine ⟨fun evt hevt => ?_, hgr⟩
    rw [hpublished, List.mem_append] at hevt
    rcases hevt with hevt | hevt
    · exact haddressed evt hevt
    · rw [← h.entities]
      exact haddressed' evt hevt

/-- A loop over identifiers is lawful if each iteration is what it should be. -/
theorem lawful_foldl_iff {f : Game → EntityID → Game} {ok : Game → EntityID → Prop}
    (I : Game → Prop) (hext : ∀ g id, Extends g (f g id)) {ids : List EntityID}
    (hone : ∀ g, ∀ id ∈ ids, I g → Viewed ⟨g, joined⟩ → Grammatical ⟨g, joined⟩ →
      (f g id).eventsDropped = g.eventsDropped →
      (Lawful ⟨g, joined⟩ ⟨f g id, joined⟩ ↔ ok g id) ∧ I (f g id) ∧ Viewed ⟨f g id, joined⟩)
    (hI : I g) (hv : Viewed ⟨g, joined⟩) (hgr : Grammatical ⟨g, joined⟩)
    (hdrop : (ids.foldl f g).eventsDropped = g.eventsDropped) :
    Lawful ⟨g, joined⟩ ⟨ids.foldl f g, joined⟩ ↔ Along f ok g ids := by
  induction ids generalizing g with
  | nil => exact iff_of_true (lawful_self hgr) trivial
  | cons id ids ih =>
    have hrest : Extends (f g id) (ids.foldl f (f g id)) :=
      List.foldlRecOn (motive := Extends (f g id)) ids f (.refl _)
        fun g' hg' id _ => hg'.trans (hext g' id)
    rw [List.foldl_cons] at hdrop ⊢
    have hfirst : (f g id).eventsDropped = g.eventsDropped :=
      le_antisymm (hrest.dropped.trans hdrop.le) (hext g id).dropped
    obtain ⟨hiff, hI', hv'⟩ := hone g id List.mem_cons_self hI hv hgr hfirst
    rw [lawful_trans_iff (hext g id) hrest, along_cons, hiff]
    refine and_congr_right fun hok => ?_
    exact ih (fun g id hid => hone g id (List.mem_cons_of_mem _ hid)) hI' hv'
      (hiff.mpr hok).grammatical (hdrop.trans hfirst.symm)

end Watched

/-- The entity moves in its simulated step only where everyone has seen it. -/
def StepsInSight (N : Numerics) (dt : Duration) (seed : EntityID → ℤ) (g : Game)
    (id : EntityID) : Prop :=
  ∀ e ∈ g.entityOf id, e.lifecycle.isSome → (e.onSimulate N (seed id) dt).position ≠ e.position →
    g.Introduced id (e.onSimulate N (seed id) dt).position

instance (N : Numerics) (dt : Duration) (seed : EntityID → ℤ) (g : Game) (id : EntityID) :
    Decidable (g.StepsInSight N dt seed id) :=
  inferInstanceAs (Decidable (∀ e ∈ g.entityOf id, _ → _ → _))

namespace Watched

variable {g : Game} {joined : EntityID → ℕ}

theorem lawful_simulateEntity_iff (hcoh : Coherent g.toStore) (hv : Viewed ⟨g, joined⟩)
    (hgr : Grammatical ⟨g, joined⟩) (N : Numerics) (dt : Duration) (seed : EntityID → ℤ)
    (id : EntityID)
    (hdrop : (simulateEntity N dt seed g id).eventsDropped = g.eventsDropped) :
    Lawful ⟨g, joined⟩ ⟨simulateEntity N dt seed g id, joined⟩ ↔ g.StepsInSight N dt seed id := by
  unfold StepsInSight Store.entityOf
  unfold simulateEntity at hdrop ⊢
  cases hr : g.entities.get id with
  | none => simp [lawful_self hgr]
  | some r =>
    simp only [hr] at hdrop
    simp only [Option.map_some, Option.mem_some_iff, forall_eq']
    split_ifs at hdrop ⊢ with hnone hpos
    · have hlifecycle : ¬ (g.objects.cell r).lifecycle.isSome := by simpa using hnone
      exact iff_of_true (lawful_self hgr) fun hsome => absurd hsome hlifecycle
    · refine iff_of_true ⟨?_, hgr⟩ fun _ hne => absurd hpos hne
      simp [published, onStore]
    · have hlifecycle : (g.objects.cell r).lifecycle.isSome := by
        simpa [Option.isSome_iff_ne_none] using hnone
      rw [lawful_move_iff hcoh hv hgr hr _ _ hdrop]
      simp [hlifecycle, hpos, Store.Introduced, hr]

theorem lawful_simulate_iff (hcoh : Coherent g.toStore) (hv : Viewed ⟨g, joined⟩)
    (hgr : Grammatical ⟨g, joined⟩) (N : Numerics) (dt : Duration) (seed : EntityID → ℤ)
    (order : List EntityID) (hdrop : (simulate N g dt seed order).eventsDropped = g.eventsDropped) :
    Lawful ⟨g, joined⟩ ⟨simulate N g dt seed order, joined⟩ ↔
      Along (simulateEntity N dt seed) (StepsInSight N dt seed) g (g.entities.range order) := by
  refine lawful_foldl_iff (fun g => Coherent g.toStore)
    (fun g id => .of_quiet (.simulateEntity N dt seed g id)) ?_ hcoh hv hgr hdrop
  intro g id _ hcoh hv hgr hdrop
  exact ⟨lawful_simulateEntity_iff hcoh hv hgr N dt seed id hdrop,
    coherent_simulateEntity hcoh N dt seed id, hv.quiet (.simulateEntity N dt seed g id)⟩

/-- After a visit the observer has seen only what is in range of it. -/
theorem keepsReplicas_visitObserver_iff {zid : ZoneID} {sim : ZoneSim} (hcoh : Coherent g.toStore)
    (hsim : g.zones.get zid = some sim) (order : VisitOrder) (id o : EntityID) :
    (visitObserver sim order g id).KeepsReplicas sim o ↔ o = id ∨ g.KeepsReplicas sim o := by
  unfold KeepsReplicas
  cases hr : sim.entities.get o with
  | none => simp
  | some r =>
    simp only [entityAOI_visitObserver hcoh hsim order id hr,
      inRange_congr (.visitObserver sim order g id), Option.mem_some_iff, forall_eq']
    by_cases ho : o = id
    · have hseen : ∀ x ∈ (g.seen sim r).visible.keys, x ∈ g.inRange sim r := fun x hx => by
        simpa [seen, Dict.mem_keys_iff, Dict.isSome_get_ofList] using hx
      simp only [ho, if_true, Option.mem_some_iff, forall_eq', true_or, iff_true]
      exact fun x hx _ => hseen x hx
    · simp [ho]

theorem along_visits_iff {zid : ZoneID} {sim : ZoneSim} (hcoh : Coherent g.toStore)
    (hsim : g.zones.get zid = some sim) (order : VisitOrder) (ids : List EntityID) :
    Along (visitObserver sim order) (fun g id => g.KeepsReplicas sim id) g ids ↔
      ∀ id ∈ ids, g.KeepsReplicas sim id := by
  induction ids generalizing g with
  | nil => simp
  | cons id ids ih =>
    obtain ⟨hcoh', hzones⟩ := coherent_visitObserver hcoh hsim order id
    rw [along_cons, ih hcoh' (hzones ▸ hsim), List.forall_mem_cons]
    refine and_congr_right fun hid => forall₂_congr fun o _ => ?_
    rw [keepsReplicas_visitObserver_iff hcoh hsim]
    exact or_iff_right_of_imp fun heq => heq ▸ hid

theorem lawful_updateVisibility_iff (hcoh : Coherent g.toStore) (hv : Viewed ⟨g, joined⟩)
    (hgr : Grammatical ⟨g, joined⟩) (zid : ZoneID) (order : VisitOrder)
    (hdrop : (g.updateVisibility zid order).eventsDropped = g.eventsDropped) :
    Lawful ⟨g, joined⟩ ⟨g.updateVisibility zid order, joined⟩ ↔
      ∀ sim ∈ g.zones.get zid, ∀ o ∈ sim.entities.keys, g.KeepsReplicas sim o := by
  unfold updateVisibility at hdrop ⊢
  cases hsim : g.zones.get zid with
  | none => simp [lawful_self hgr]
  | some sim =>
    rw [hsim] at hdrop
    have hmem : ∀ o, o ∈ sim.entities.range order.observers ↔ o ∈ sim.entities.keys := fun o => by
      rw [Dict.mem_range_iff, Dict.mem_keys_iff]
    simp only [Option.mem_some_iff, forall_eq', ← hmem]
    rw [← along_visits_iff hcoh hsim order]
    refine lawful_foldl_iff (fun g => Coherent g.toStore ∧ g.zones.get zid = some sim)
      (fun g id => .of_shows (.visitObserver sim order g id)) ?_ ⟨hcoh, hsim⟩ hv hgr hdrop
    rintro g id hid ⟨hcoh, hsim⟩ hv hgr hdrop
    obtain ⟨r, hr⟩ := (Dict.mem_range_iff_exists _ _ _).mp hid
    obtain ⟨hcoh', hzones⟩ := coherent_visitObserver hcoh hsim order id
    exact ⟨lawful_visit_iff hcoh hv hgr hsim hr order hdrop, ⟨hcoh', hzones ▸ hsim⟩,
      hv.visit hcoh hsim hr order hdrop⟩

end Watched

/-! ## Runs -/

/-- A position is sent only by a client that everyone in its range has seen, and
a state is announced only in the presence of live entities. -/
def ServedInSight (c : Wire.Codec) (g : Game) (pkt : InboundPacket) : Prop :=
  match Wire.request c pkt.data with
  | some (.position upd) => g.Introduced pkt.clientID (upd.position.getD Vector3.zero)
  | some (.state st _) =>
    ∀ e ∈ g.entityOf st.entityID, ∀ obs ∈ g.audience e, (g.entities.get obs).isSome
  | _ => True

instance (c : Wire.Codec) (g : Game) (pkt : InboundPacket) : Decidable (ServedInSight c g pkt) := by
  unfold ServedInSight
  split <;> infer_instance

/-- What keeps the stories in order: moves are announced where the mover has been
seen, states where nobody is a replica, and no replica disappears from sight. -/
def Orderly (H : Host) (g : Game) : NodeCall → Prop
  | .own .dispatchNext => ∀ p ∈ g.inbox.recv, ServedInSight H.codec g p.1
  | .own (.simulate dt seed order) =>
    Along (simulateEntity H.numerics dt seed) (StepsInSight H.numerics dt seed) g
      (g.entities.range order)
  | .own (.updateVisibility zid _) =>
    ∀ sim ∈ g.zones.get zid, ∀ o ∈ sim.entities.keys, g.KeepsReplicas sim o
  | _ => True

instance (H : Host) (g : Game) (c : NodeCall) : Decidable (Orderly H g c) := by
  unfold Orderly
  split <;> infer_instance

namespace Watched

def nodeStep (H : Host) (t : Watched) : NodeCall → Watched
  | .own c => t.step H c
  | c => ⟨t.game.nodeStep H c, t.joined⟩

@[simp] theorem game_nodeStep (H : Host) (t : Watched) (c : NodeCall) :
    (t.nodeStep H c).game = t.game.nodeStep H c := by cases c <;> rfl

variable {t : Watched}

theorem lawful_dispatchNext_iff (hcoh : Coherent t.game.toStore) (hv : Viewed t)
    (hgr : Grammatical t) (c : Wire.Codec)
    (hdrop : (t.game.dispatchNext c).eventsDropped = t.game.eventsDropped) :
    Lawful t ⟨t.game.dispatchNext c, t.joined⟩ ↔
      ∀ p ∈ t.game.inbox.recv, ServedInSight c t.game p.1 := by
  unfold dispatchNext at hdrop ⊢
  cases hrecv : t.game.inbox.recv with
  | none => simp [lawful_self hgr]
  | some p =>
    obtain ⟨pkt, ch⟩ := p
    rw [hrecv] at hdrop
    simp only [dispatch_eq_serve, Option.mem_some_iff, forall_eq'] at hdrop ⊢
    set g : Game := { t.game with inbox := ch }
    have hcoh : Coherent g.toStore := hcoh
    have hv : Viewed ⟨g, t.joined⟩ := ⟨hv.joined_le, hv.view_iff⟩
    have hgr : Grammatical ⟨g, t.joined⟩ := hgr
    have hsame : ∀ t', Lawful t t' ↔ Lawful ⟨g, t.joined⟩ t' := fun t' =>
      ⟨fun h => ⟨h.addressed, h.grammatical⟩, fun h => ⟨h.addressed, h.grammatical⟩⟩
    rw [hsame]
    change _ ↔ ServedInSight c g pkt
    unfold ServedInSight
    cases hreq : Wire.request c pkt.data with
    | none => exact iff_of_true (lawful_self hgr) trivial
    | some req =>
      rw [hreq] at hdrop
      cases req with
      | position upd => exact lawful_position_iff hcoh hv hgr pkt.clientID upd hdrop
      | action act =>
        simp only [serve, dispatchEntityAction_eq]
        exact iff_of_true (lawful_self hgr) trivial
      | state st payload => exact lawful_state_iff hcoh hv hgr st payload hdrop

/-- A call that publishes nothing is lawful; a client that is added begins new
stories. -/
theorem lawful_of_silent (H : Host) (hgr : Grammatical t) {c : Call}
    (h : Silent t.game (t.game.step H c)) : Lawful t (t.step H c) := by
  constructor
  case addressed => simp [published, step, h.1]
  case grammatical =>
    intro o s
    have hsame : InOrder (story o s (t.game.events.sent.drop (t.joined o))) := hgr o s
    simp only [since, step, h.1]
    cases t.game.added c with
    | none => exact hsame
    | some id =>
      by_cases ho : o = id
      · simp [ho, inOrder_iff, readStory]
      · simpa [ho] using hsame

/-- The calls of neighbours neither publish anything nor change what was seen. -/
theorem nodeStep_unseen (H : Host) (g : Game) {c : NodeCall} (hc : ∀ c', c ≠ .own c') :
    (g.nodeStep H c).events = g.events ∧ (g.nodeStep H c).entityAOI = g.entityAOI ∧
      (g.nodeStep H c).eventsDropped = g.eventsDropped := by
  obtain ⟨c', rfl⟩ | ⟨zid, state, order, rfl⟩ | heq | ⟨zid, op, heq, -⟩ := nodeStep_cases H g c
  · exact absurd rfl (hc c')
  · refine ⟨rfl, ?_, rfl⟩
    simp only [Game.nodeStep, onStore, Store.openIndex]
    split <;> rfl
  · rw [heq]
    exact ⟨rfl, rfl, rfl⟩
  · rw [heq]
    refine ⟨rfl, ?_, rfl⟩
    simp only [onStore, Store.onReplicas]
    split <;> rfl

theorem dropped_le_nodeStep (H : Host) (g : Game) (c : NodeCall) :
    g.eventsDropped ≤ (g.nodeStep H c).eventsDropped := by
  cases c with
  | own c => exact dropped_le_step H g c
  | _ => exact (nodeStep_unseen H g (by simp)).2.2.ge

theorem viewed_nodeStep (H : Host) {c : NodeCall} (hcoh : Coherent t.game.toStore)
    (hc : t.game.OwnAdmissible c) (hv : Viewed t)
    (hdrop : (t.game.nodeStep H c).eventsDropped = t.game.eventsDropped) :
    Viewed (t.nodeStep H c) := by
  have hother : (∀ c', c ≠ .own c') → Viewed ⟨t.game.nodeStep H c, t.joined⟩ := fun hne => by
    obtain ⟨hevents, haoi, -⟩ := nodeStep_unseen H t.game hne
    exact hv.silent (by rw [hevents]) fun o st hst => haoi ▸ hst
  cases c with
  | own c => exact viewed_step H hcoh hc hv hdrop
  | _ => exact hother (by simp)

theorem lawful_nodeStep_iff (H : Host) {c : NodeCall} (hcoh : Coherent t.game.toStore)
    (hv : Viewed t) (hgr : Grammatical t)
    (hdrop : (t.game.nodeStep H c).eventsDropped = t.game.eventsDropped) :
    Lawful t (t.nodeStep H c) ↔ Orderly H t.game c := by
  have hother : (∀ c', c ≠ .own c') → Lawful t ⟨t.game.nodeStep H c, t.joined⟩ := fun hne => by
    obtain ⟨hevents, -, -⟩ := nodeStep_unseen H t.game hne
    refine ⟨by simp [published, hevents], fun o s => ?_⟩
    simp only [since, hevents]
    exact hgr o s
  cases c with
  | own c =>
    cases c with
    | dispatchNext => exact lawful_dispatchNext_iff hcoh hv hgr H.codec hdrop
    | simulate dt seed order => exact lawful_simulate_iff hcoh hv hgr H.numerics dt seed order hdrop
    | updateVisibility zid order => exact lawful_updateVisibility_iff hcoh hv hgr zid order hdrop
    | _ => exact iff_of_true (lawful_of_silent H hgr
        (silent_step H t.game _ (by simp) (by simp) (by simp))) trivial
  | _ => exact iff_of_true (hother (by simp)) trivial

end Watched

/-- In a run that drops no event, everything is addressed to entities that exist
and all stories are in order, at every call, if and only if every call is orderly. -/
theorem event_grammar_iff (H : Host) (sid : ServerID) (calls : List NodeCall)
    (hadmissible : Along (nodeStep H) OwnAdmissible (new sid) calls)
    (hdrop : (exec (nodeStep H) (new sid) calls).eventsDropped = 0) :
    Along (Watched.nodeStep H) (fun t c => Watched.Lawful t (t.nodeStep H c)) (Watched.new sid)
        calls ↔
      Along (nodeStep H) (Orderly H) (new sid) calls := by
  have hproj := Watched.game_nodeStep H
  have hkept : Along (nodeStep H) (fun g c => (nodeStep H g c).eventsDropped = g.eventsDropped)
      (new sid) calls := along_of_count_eq (Watched.dropped_le_nodeStep H) hdrop
  have horderly : Along (Watched.nodeStep H) (fun t c => Orderly H t.game c) (Watched.new sid)
      calls ↔ Along (nodeStep H) (Orderly H) (new sid) calls := along_proj_iff Watched.game hproj
  refine Iff.trans ?_ horderly
  refine along_congr (fun t => Coherent t.game.toStore ∧ Sound t.game.toStore ∧
    Watched.Viewed t ∧ Watched.Grammatical t) ?_ ?_ ⟨Coherent.empty, Sound.empty, ?_, ?_⟩
    ((hadmissible.and hkept).lift Watched.game hproj)
  · rintro t c ⟨hcoh, -, hv, hgr⟩ ⟨-, hdrop⟩
    exact Watched.lawful_nodeStep_iff H hcoh hv hgr hdrop
  · rintro t c ⟨hcoh, hsound, hv, -⟩ ⟨hc, hdrop⟩ hlawful
    rw [hproj]
    exact ⟨coherent_nodeStep H hcoh hsound hc, sound_nodeStep H hsound c,
      Watched.viewed_nodeStep H hcoh hc hv hdrop, hlawful.grammatical⟩
  · exact ⟨by simp [Watched.new], by simp [Watched.new, new, Store.empty]⟩
  · intro o s
    simp [Watched.since, Watched.new, new, Chan.make, inOrder_iff, readStory]

/-- Two clients that enter a zone together. -/
def twoClients : List NodeCall :=
  [.own (.assignZone ⟨"z1", "s1", ⟨0, 0⟩, 100⟩),
    .own (.addEntity { Entity.new "e1" "avatar" "" with zoneID := "z1" }),
    .own (.addEntity { Entity.new "e2" "avatar" "" with zoneID := "z1" })]

/-- A client sends its position. -/
def walk (id : EntityID) : List NodeCall :=
  [.own (.receive ⟨id, [1, 0, 3, 0, 0, 0, 0, 0]⟩), .own .dispatchNext]

def look : NodeCall := .own (.updateVisibility "z1" .any)

/-- The second client moves after the first has seen it. -/
theorem event_grammar_seen_first :
    Along (Watched.nodeStep (Host.steady ⟨150, 0, 0⟩))
      (fun t c => Watched.Lawful t (t.nodeStep (Host.steady ⟨150, 0, 0⟩) c)) (Watched.new "gs-1")
      (twoClients ++ [look] ++ walk "e2" ++ [look]) := by
  have hadmissible : Along (nodeStep (Host.steady ⟨150, 0, 0⟩)) OwnAdmissible (new "gs-1")
      (twoClients ++ [look] ++ walk "e2" ++ [look]) := by decide +kernel
  exact (event_grammar_iff (Host.steady ⟨150, 0, 0⟩) "gs-1" _ hadmissible
    (by decide +kernel)).mpr (by decide +kernel)

/-- The second client moves before anyone was told of it. Later the first client
leaves a replica behind: a move is addressed to the replica, and when the replica
is swept, both clients are told that it disappears. -/
theorem move_precedes_spawn :
    let H := Host.steady ⟨150, 0, 0⟩
    let g := exec (nodeStep H) (new "gs-1") (twoClients ++ walk "e2")
    let g' := exec (nodeStep H) (new "gs-1") (twoClients ++ [look] ++ walk "e1" ++
      [.own (.detectZoneBoundaries "z1" (fun _ => 0) []), look] ++ walk "e2" ++
      [.own (.sweepGhosts (6 * second) []), look])
    g.eventsDropped = 0 ∧ story "e1" "e2" g.events.sent = [.move] ∧ ¬ InOrder [.move] ∧
      g'.eventsDropped = 0 ∧ "e1_ghost" ∈ g'.events.sent.map Event.observer ∧
      g'.entities.keys = ["e2", "e1"] ∧ story "e1" "e1_ghost" g'.events.sent = [.despawn] ∧
      ¬ InOrder [.despawn] := by
  decide +kernel

end Game

end SpatialServer

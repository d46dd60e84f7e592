import SpatialServer.GridPictures
import SpatialServer.GridRuns
import SpatialServer.MovementFanout

/-!
# The order of simulated moves

A tick simulates the entities one after the other, in the order in which their
map is iterated, and announces every move at once to whoever the grid lists in
range at that moment. Of the others that move in the same tick some are at their
old places by then and some at their new ones. What is announced altogether is
independent of the order if and only if this makes no difference to any pair.
-/
namespace SpatialServer

open Runs

section Turns

variable (N : Numerics) (dt : Duration) (seed : EntityID → ℤ)

namespace Store

/-- Where the simulated step takes an entity, if anywhere. -/
def stepped (s : Store) (id : EntityID) : Option Vector3 :=
  (s.entityOf id).bind fun e =>
    if e.lifecycle.isSome ∧ (e.onSimulate N (seed id) dt).position ≠ e.position then
      some (e.onSimulate N (seed id) dt).position
    else none

/-- The grids after the step of an entity. -/
def turned (s : Store) (id : EntityID) : Store :=
  match s.stepped N dt seed id with
  | some pos => s.moveOnGrid id pos
  | none => s

/-- What the step of an entity announces. -/
def turnEvents (s : Store) (id : EntityID) : List Event :=
  match s.stepped N dt seed id with
  | some pos => (s.audienceAt id pos).map fun obs => Game.moveEvent (s.spaceOf id) obs id pos
  | none => []

/-- Of two that move in the same tick, the second is in range of where the first
goes either both before and after its own move, or neither. -/
def NoneCrosses (s : Store) : Prop :=
  ∀ a b pa pb, a ≠ b → s.stepped N dt seed a = some pa → s.stepped N dt seed b = some pb →
    (b ∈ s.audienceAt a pa ↔ b ∈ (s.moveOnGrid b pb).audienceAt a pa)

end Store

end Turns

namespace Store

theorem audienceAt_increasing (s : Store) (id : EntityID) (pos : Vector3) :
    (s.audienceAt id pos).Pairwise (· < ·) := by
  unfold audienceAt observersOf
  split
  · exact (AOI.entitiesInRange_increasing _ _ _).filter _
  · exact .nil

/-- The audience of an entity is the same before and after its own move. -/
theorem audienceAt_moved (s : Store) (r : ℕ) (e : Entity) (id : EntityID) (pos : Vector3) :
    ((s.setObject r e).moveOnGrid id pos).audienceAt id pos = s.audienceAt id pos :=
  List.Pairwise.eq_of_mem_iff (audienceAt_increasing _ _ _) (audienceAt_increasing _ _ _)
    (s.mem_audienceAt_moved r e id pos)

/-- Who hears of a move is decided by the presence on the grid of the mover. -/
theorem mem_audienceAt_congr {s s' : Store} (hmaps : SameMaps s s') {id x : EntityID}
    (hcells : ∀ ref, AOI.SameCells (s.grids.cell ref) (s'.grids.cell ref))
    (hpresence : ∀ ref, (s'.grids.cell ref).picture.presence x =
      (s.grids.cell ref).picture.presence x) (pos : Vector3) :
    x ∈ s'.audienceAt id pos ↔ x ∈ s.audienceAt id pos := by
  have href : s'.gridRefOf id = s.gridRefOf id := by
    simp only [gridRefOf, hmaps.zones, hmaps.entityZone]
  unfold audienceAt
  rw [href]
  cases s.gridRefOf id with
  | none => rfl
  | some ref =>
    simp only [observersOf, List.mem_filter, hmaps.aoiRadius]
    refine and_congr_left fun _ => ?_
    rw [← AOI.mem_seen, ← AOI.mem_seen]
    simp only [AOI.Picture.seen, hpresence, Set.mem_ofPred_eq]
    rw [show (s'.grids.cell ref).picture.cellSize = (s.grids.cell ref).picture.cellSize from
      (hcells ref).1, show (s'.grids.cell ref).picture.cellRange =
      (s.grids.cell ref).picture.cellRange from (hcells ref).2]

theorem moveOnGrid_presence (s : Store) (id x : EntityID) (pos : Vector3) (ref : ℕ) :
    (((s.moveOnGrid id pos).grids.cell ref).picture.presence x) =
      if x = id ∧ s.gridRefOf id = some ref then
        AOI.Presence.move pos (s.grids.cell ref).cellSize ((s.grids.cell ref).picture.presence x)
      else (s.grids.cell ref).picture.presence x := by
  unfold moveOnGrid
  rcases hget : s.gridRefOf id with _ | q
  · simp
  · by_cases hq : ref = q
    · subst hq
      simp only [updateGrid, Heap.cell_write_self, AOI.picture_move, AOI.Picture.edit]
      by_cases hx : x = id
      · subst hx
        simp [AOI.picture]
      · simp [hx]
    · simp [updateGrid, hq, Ne.symm hq]

theorem moveOnGrid_setObject_grids (s : Store) (r : ℕ) (e : Entity) (id : EntityID)
    (pos : Vector3) :
    ((s.setObject r e).moveOnGrid id pos).grids = (s.moveOnGrid id pos).grids := by
  have href : (s.setObject r e).gridRefOf id = s.gridRefOf id := rfl
  unfold moveOnGrid
  rw [href]
  split <;> rfl

theorem moveOnGrid_cells (s : Store) (id : EntityID) (pos : Vector3) (ref : ℕ) :
    AOI.SameCells (s.grids.cell ref) ((s.moveOnGrid id pos).grids.cell ref) := by
  unfold moveOnGrid
  split
  · next q _ =>
    by_cases hq : ref = q
    · subst hq
      simp [updateGrid, AOI.SameCells]
    · simp [updateGrid, hq, AOI.SameCells]
  · exact ⟨rfl, rfl⟩

end Store

/-! ## One turn -/

namespace Game

variable {N : Numerics} {dt : Duration} {seed : EntityID → ℤ}

/-- A turn without a step at most rewrites the object of the entity; with one, the
grid follows and the move is announced. -/
theorem simulateEntity_cases (N : Numerics) (dt : Duration) (seed : EntityID → ℤ) (g : Game)
    (id : EntityID) :
    (g.stepped N dt seed id = none ∧ (simulateEntity N dt seed g id = g ∨
      ∃ q e', g.entities.get id = some q ∧
        simulateEntity N dt seed g id = g.onStore (·.setObject q e'))) ∨
    ∃ q e', g.entities.get id = some q ∧ e'.runtimeID = (g.objects.cell q).runtimeID ∧
      g.stepped N dt seed id = some e'.position ∧ simulateEntity N dt seed g id =
        (g.onStore fun s => (s.setObject q e').moveOnGrid id e'.position).enqueueMove id
          e'.position := by
  unfold Store.stepped Store.entityOf
  rcases hr : g.entities.get id with _ | q
  · exact .inl ⟨rfl, .inl (by simp only [simulateEntity, hr])⟩
  rcases hlife : (g.objects.cell q).lifecycle with _ | l
  · exact .inl ⟨by simp [hlife], .inl (by simp [simulateEntity, hr, hlife])⟩
  have hsome : ¬(g.objects.cell q).lifecycle.isNone := by simp [hlife]
  set e' := (g.objects.cell q).onSimulate N (seed id) dt with he'
  by_cases hpos : e'.position = (g.objects.cell q).position
  · refine .inl ⟨by simp [← he', hpos], .inr ⟨q, e', rfl, ?_⟩⟩
    simp only [simulateEntity, hr, if_neg hsome, ← he', if_pos hpos]
  · refine .inr ⟨q, e', rfl, onSimulate_runtimeID _ _ _ _, by simp [hlife, ← he', hpos], ?_⟩
    simp only [simulateEntity, hr, if_neg hsome, ← he', if_neg hpos]

/-- The Space of a mover is read from its rewritten object. -/
theorem spaceOf_moved {g : Game} {id : EntityID} {q : ℕ} {e' : Entity}
    (hr : g.entities.get id = some q) (hspace : e'.runtimeID = (g.objects.cell q).runtimeID)
    (pos : Vector3) : ((g.toStore.setObject q e').moveOnGrid id pos).spaceOf id = g.spaceOf id := by
  have hobject : ((g.toStore.setObject q e').moveOnGrid id pos).objects.cell q = e' := by
    rw [Store.objects_moveOnGrid]
    exact Heap.cell_write_self _ _ _
  have hmaps := (Store.SameMaps.setObject g.toStore q e').trans (.moveOnGrid _ id pos)
  simp only [Store.spaceOf, hmaps.entities, hr, hobject, hspace]

/-- A turn moves the entity on its grid, rewrites its object and announces the
move. -/
theorem simulateEntity_turn (N : Numerics) (dt : Duration) (seed : EntityID → ℤ) (g : Game)
    (id : EntityID) :
    (simulateEntity N dt seed g id).grids = (g.turned N dt seed id).grids ∧
      (∀ r, g.entities.get id ≠ some r →
        (simulateEntity N dt seed g id).objects.cell r = g.objects.cell r) ∧
      ((simulateEntity N dt seed g id).eventsDropped = g.eventsDropped →
        (simulateEntity N dt seed g id).events.sent =
          g.events.sent ++ g.turnEvents N dt seed id) := by
  unfold Store.turned Store.turnEvents
  have hother : ∀ {q r : ℕ} (e' : Entity), g.entities.get id = some q → g.entities.get id ≠ some r →
      (g.objects.write q e').cell r = g.objects.cell r := fun e' hr hne =>
    Heap.cell_write_ne _ _ fun heq => hne (heq ▸ hr)
  obtain ⟨hstep, hself | ⟨q, e', hr, hturn⟩⟩ | ⟨q, e', hr, hspace, hstep, hturn⟩ :=
    simulateEntity_cases N dt seed g id
  · rw [hself, hstep]
    exact ⟨rfl, fun _ _ => rfl, fun _ => (List.append_nil _).symm⟩
  · rw [hturn, hstep]
    exact ⟨rfl, fun r hne => hother e' hr hne, fun _ => (List.append_nil _).symm⟩
  · rw [hturn, hstep, toStore_enqueueMove]
    refine ⟨?_, fun r hne => ?_, fun hdrop => ?_⟩
    · exact Store.moveOnGrid_setObject_grids g.toStore q e' id e'.position
    · change (((g.toStore.setObject q e').moveOnGrid id e'.position).objects).cell r = _
      rw [Store.objects_moveOnGrid]
      exact hother e' hr hne
    · rw [enqueueMove_eq] at hdrop ⊢
      rw [sent_publishAll hdrop]
      simp only [onStore, Store.audienceAt_moved, spaceOf_moved hr hspace]

/-! ## Some turns -/

/-- The turns of some entities have been taken: the others are as they were, and
on the grids everyone whose turn is over is where the own step leads. -/
structure After (N : Numerics) (dt : Duration) (seed : EntityID → ℤ) (g : Game)
    (done : List EntityID) (m : Game) : Prop where
  maps : Store.SameMaps g.toStore m.toStore
  object : ∀ id, id ∉ done → m.entityOf id = g.entityOf id
  cells : ∀ ref, AOI.SameCells (g.grids.cell ref) (m.grids.cell ref)
  presence : ∀ ref x, (m.grids.cell ref).picture.presence x =
    if x ∈ done then ((g.turned N dt seed x).grids.cell ref).picture.presence x
    else (g.grids.cell ref).picture.presence x

namespace After

variable {g m : Game} {done : List EntityID} {a b x : EntityID}

theorem refl (g : Game) : After N dt seed g [] g :=
  ⟨.refl _, fun _ _ => rfl, fun _ => ⟨rfl, rfl⟩, fun _ _ => by simp⟩

theorem stepped (h : After N dt seed g done m) (hb : b ∉ done) :
    m.stepped N dt seed b = g.stepped N dt seed b := by
  rw [Store.stepped, h.object b hb, Store.stepped]

theorem spaceOf (h : After N dt seed g done m) (hb : b ∉ done) : m.spaceOf b = g.spaceOf b := by
  have hobject := h.object b hb
  unfold Store.entityOf at hobject
  unfold Store.spaceOf
  rw [h.maps.entities] at hobject ⊢
  cases hr : g.entities.get b with
  | none => rfl
  | some r =>
    rw [hr, Option.map_some, Option.map_some, Option.some.injEq] at hobject
    simp only [hobject]

theorem gridRefOf (h : After N dt seed g done m) (b : EntityID) :
    m.gridRefOf b = g.gridRefOf b := by
  simp only [Store.gridRefOf, h.maps.zones, h.maps.entityZone]

/-- Whether someone hears of a move depends on whether the own turn is over. -/
theorem mem_audienceAt_iff (h : After N dt seed g done m) (a x : EntityID) (pos : Vector3) :
    x ∈ m.audienceAt a pos ↔
      x ∈ (if x ∈ done then g.turned N dt seed x else g.toStore).audienceAt a pos := by
  split_ifs with hx
  · have hmaps : Store.SameMaps g.toStore (g.turned N dt seed x) := by
      unfold Store.turned
      split
      · exact .moveOnGrid _ _ _
      · exact .refl _
    have hcells : ∀ ref,
        AOI.SameCells (g.grids.cell ref) ((g.turned N dt seed x).grids.cell ref) := by
      unfold Store.turned
      split
      · exact Store.moveOnGrid_cells _ _ _
      · exact fun _ => ⟨rfl, rfl⟩
    refine Store.mem_audienceAt_congr ⟨?_, ?_, ?_, ?_, ?_, ?_⟩ (fun ref => ⟨?_, ?_⟩)
      (fun ref => ?_) pos
    · rw [h.maps.zones, hmaps.zones]
    · rw [h.maps.entities, hmaps.entities]
    · rw [h.maps.entityZone, hmaps.entityZone]
    · rw [h.maps.entityAOI, hmaps.entityAOI]
    · rw [h.maps.aoiIndex, hmaps.aoiIndex]
    · rw [h.maps.aoiRadius, hmaps.aoiRadius]
    · rw [(h.cells ref).1, (hcells ref).1]
    · rw [(h.cells ref).2, (hcells ref).2]
    · rw [h.presence, if_pos hx]
  · exact Store.mem_audienceAt_congr h.maps h.cells (fun ref => by rw [h.presence, if_neg hx]) pos

/-- One more turn is taken. -/
theorem step (hf : Formed g.toStore) (h : After N dt seed g done m) (hb : b ∉ done) :
    After N dt seed g (b :: done) (simulateEntity N dt seed m b) := by
  obtain ⟨hgrids, hobjects, -⟩ := simulateEntity_turn N dt seed m b
  have hquiet := (Quiet.simulateEntity N dt seed m b).maps
  constructor
  case maps => exact h.maps.trans hquiet
  case object =>
    intro id hid
    obtain ⟨hne, hid⟩ := not_or.mp (mt List.mem_cons.mpr hid)
    rw [← h.object id hid, Store.entityOf, Store.entityOf, hquiet.entities]
    cases hr : m.entities.get id with
    | none => rfl
    | some r =>
      rw [Option.map_some, Option.map_some, hobjects r fun hbr => hne ?_]
      -- two names of one object would be one name
      rw [h.maps.entities] at hr hbr
      exact (hf.object id r hr).symm.trans (hf.object b r hbr)
  case cells =>
    intro ref
    rw [hgrids]
    refine (h.cells ref).trans ?_
    unfold Store.turned
    split
    · exact Store.moveOnGrid_cells _ _ _ _
    · exact ⟨rfl, rfl⟩
  case presence =>
    intro ref x
    rw [hgrids]
    unfold Store.turned
    rw [h.stepped hb]
    rcases hstep : g.stepped N dt seed b with _ | pb
    · by_cases hx : x = b
      · subst hx
        simp only [h.presence, hb, if_false, List.mem_cons_self, if_true, hstep]
      · simp only [h.presence, List.mem_cons, hx, false_or]
        rfl
    · simp only [Store.moveOnGrid_presence, h.gridRefOf, (h.cells ref).1]
      by_cases hx : x = b
      · subst hx
        simp only [h.presence, hb, if_false, List.mem_cons_self, if_true, hstep,
          Store.moveOnGrid_presence]
      · simp only [hx, false_and, if_false, h.presence, List.mem_cons, false_or]
        rfl

/-- Where no pair makes a difference, a turn announces the same whoever has had
theirs. -/
theorem turnEvents_eq (h : After N dt seed g done m) (hnone : g.NoneCrosses N dt seed)
    (hb : b ∉ done) : m.turnEvents N dt seed b = g.turnEvents N dt seed b := by
  unfold Store.turnEvents
  rw [h.stepped hb, h.spaceOf hb]
  rcases hstep : g.stepped N dt seed b with _ | pb
  · rfl
  · have haudience : m.audienceAt b pb = g.audienceAt b pb := by
      refine List.Pairwise.eq_of_mem_iff (Store.audienceAt_increasing _ _ _)
        (Store.audienceAt_increasing _ _ _) fun x => ?_
      rw [h.mem_audienceAt_iff]
      split_ifs with hx
      · have hne : b ≠ x := fun heq => hb (heq ▸ hx)
        unfold Store.turned
        rcases hstep' : g.stepped N dt seed x with _ | px
        · rfl
        · exact (hnone b x pb px hne hstep hstep').symm
      · rfl
    simp only [haudience]

end After

/-! ## All turns -/

/-- What the turns of some entities announce, one after the other. -/
def turns (N : Numerics) (dt : Duration) (seed : EntityID → ℤ) : Game → List EntityID → List Event
  | _, [] => []
  | m, id :: ids => m.turnEvents N dt seed id ++ turns N dt seed (simulateEntity N dt seed m id) ids

theorem sent_foldl_simulateEntity (ids : List EntityID) (m : Game)
    (hdrop : (ids.foldl (simulateEntity N dt seed) m).eventsDropped = m.eventsDropped) :
    (ids.foldl (simulateEntity N dt seed) m).events.sent =
      m.events.sent ++ turns N dt seed m ids := by
  induction ids generalizing m with
  | nil => exact (List.append_nil _).symm
  | cons id ids ih =>
    rw [List.foldl_cons] at hdrop ⊢
    have hrest : (simulateEntity N dt seed m id).eventsDropped ≤
        (ids.foldl (simulateEntity N dt seed) (simulateEntity N dt seed m id)).eventsDropped :=
      List.foldlRecOn (motive := fun g' : Game => _ ≤ g'.eventsDropped) ids _ le_rfl
        fun g' hg' x _ => hg'.trans (Quiet.simulateEntity N dt seed g' x).publishes.dropped
    have hfirst : (simulateEntity N dt seed m id).eventsDropped = m.eventsDropped :=
      le_antisymm (hrest.trans hdrop.le) (Quiet.simulateEntity N dt seed m id).publishes.dropped
    rw [ih _ (hdrop.trans hfirst.symm), (simulateEntity_turn N dt seed m id).2.2 hfirst, turns,
      List.append_assoc]

theorem published_simulate {g : Game} {order : List EntityID}
    (hdrop : (simulate N g dt seed order).eventsDropped = g.eventsDropped) :
    g.published (simulate N g dt seed order) = turns N dt seed g (g.entities.range order) := by
  rw [published, simulate, sent_foldl_simulateEntity _ _ hdrop]
  exact List.drop_left

theorem entityID_of_mem_turnEvents {m : Game} {id : EntityID} {evt : Event}
    (h : evt ∈ m.turnEvents N dt seed id) : evt.entityID = id := by
  unfold Store.turnEvents at h
  split at h
  · obtain ⟨obs, -, rfl⟩ := List.mem_map.mp h
    rfl
  · cases h

/-- Turns announce moves of those whose turns they are. -/
theorem entityID_mem_of_mem_turns {ids : List EntityID} {m : Game} {evt : Event}
    (h : evt ∈ turns N dt seed m ids) : evt.entityID ∈ ids := by
  induction ids generalizing m with
  | nil => cases h
  | cons id ids ih =>
    rcases List.mem_append.mp h with h | h
    · rw [entityID_of_mem_turnEvents h]
      exact List.mem_cons_self
    · exact List.mem_cons_of_mem _ (ih h)

theorem mem_turns_cons_self_iff {ids : List EntityID} {m : Game} {evt : Event}
    (h : evt.entityID ∉ ids) :
    evt ∈ turns N dt seed m (evt.entityID :: ids) ↔ evt ∈ m.turnEvents N dt seed evt.entityID := by
  rw [turns, List.mem_append, or_iff_left]
  exact fun hevt => h (entityID_mem_of_mem_turns hevt)

theorem mem_turns_cons_iff {ids : List EntityID} {m : Game} {evt : Event} {id : EntityID}
    (h : evt.entityID ≠ id) : evt ∈ turns N dt seed m (id :: ids) ↔
      evt ∈ turns N dt seed (simulateEntity N dt seed m id) ids := by
  rw [turns, List.mem_append, or_iff_right]
  exact fun hevt => h (entityID_of_mem_turnEvents hevt)

theorem turns_eq_flatMap {g m : Game} (hf : Formed g.toStore) (hnone : g.NoneCrosses N dt seed)
    {done ids : List EntityID} (h : After N dt seed g done m) (hnodup : ids.Nodup)
    (hdisjoint : ∀ x ∈ ids, x ∉ done) :
    turns N dt seed m ids = ids.flatMap (g.turnEvents N dt seed) := by
  induction ids generalizing m done with
  | nil => rfl
  | cons id ids ih =>
    obtain ⟨hid, hnodup⟩ := List.nodup_cons.mp hnodup
    have hfirst := hdisjoint id List.mem_cons_self
    rw [turns, h.turnEvents_eq hnone hfirst, List.flatMap_cons, ih (h.step hf hfirst) hnodup]
    intro x hx hmem
    obtain rfl | hmem := List.mem_cons.mp hmem
    · exact hid hx
    · exact hdisjoint x (List.mem_cons_of_mem _ hx) hmem

/-- The event that tells `b` of the move of `a` is among those of the turn of `a`
if and only if `b` is in the audience. -/
theorem mem_turnEvents_iff {m : Game} {a b : EntityID} {pa : Vector3}
    (hstep : m.stepped N dt seed a = some pa) :
    moveEvent (m.spaceOf a) b a pa ∈ m.turnEvents N dt seed a ↔ b ∈ m.audienceAt a pa := by
  simp only [Store.turnEvents, hstep, List.mem_map]
  constructor
  · rintro ⟨obs, hobs, heq⟩
    obtain rfl : obs = b := congrArg Event.observer heq
    exact hobs
  · exact fun hb => ⟨b, hb, rfl⟩

/-- An entity that steps is there. -/
theorem isSome_of_stepped {m : Game} {a : EntityID} {pa : Vector3}
    (hstep : m.stepped N dt seed a = some pa) : (m.entities.get a).isSome := by
  obtain ⟨e, he, -⟩ := Option.bind_eq_some_iff.mp hstep
  obtain ⟨r, hr, -⟩ := Option.map_eq_some_iff.mp he
  rw [hr]
  rfl

/-- The loop can be made to begin with any two entities. -/
theorem exists_range_eq {m : Game} {a b : EntityID} (hab : a ≠ b) (ha : (m.entities.get a).isSome)
    (hb : (m.entities.get b).isSome) : ∃ rest, m.entities.range [a, b] = a :: b :: rest := by
  have hmem : ∀ x, x ∈ AList.keys m.entities ↔ (m.entities.get x).isSome :=
    Dict.mem_keys_iff m.entities
  have hdedup : [a, b].dedup = [a, b] := List.dedup_eq_self.mpr (by simp [hab])
  refine ⟨(AList.keys m.entities).filter (· ∉ [a, b]), ?_⟩
  simp [Dict.range, hdedup, hmem, ha, hb]

/-- If no event is dropped in whatever order, the simulation announces the same
moves in every order if and only if none of those that move comes into range of
where another one goes, or leaves it, by its own move. -/
theorem simulated_moves_order_free_iff {g : Game} (hf : Formed g.toStore) (N : Numerics)
    (dt : Duration) (seed : EntityID → ℤ)
    (hdrop : ∀ order, (simulate N g dt seed order).eventsDropped = g.eventsDropped) :
    (∀ order order', (g.published (simulate N g dt seed order)).Perm
      (g.published (simulate N g dt seed order'))) ↔ g.NoneCrosses N dt seed := by
  have hpublished : ∀ order, g.published (simulate N g dt seed order) =
      turns N dt seed g (g.entities.range order) := fun order => published_simulate (hdrop order)
  simp only [hpublished]
  constructor
  · intro hperm a b pa pb hab ha hb
    have hlive := isSome_of_stepped ha
    have hlive' := isSome_of_stepped hb
    obtain ⟨rest, hrange⟩ := exists_range_eq hab hlive hlive'
    obtain ⟨rest', hrange'⟩ := exists_range_eq hab.symm hlive' hlive
    have hnodup : (a :: b :: rest).Nodup := hrange ▸ Dict.nodup_range [a, b] g.entities
    have hnodup' : (b :: a :: rest').Nodup := hrange' ▸ Dict.nodup_range [b, a] g.entities
    have hafter : After N dt seed g [b] (simulateEntity N dt seed g b) :=
      (After.refl g).step hf (by simp)
    have hna : a ∉ [b] := by simpa using hab
    -- the event that tells the second of the move of the first
    let evt := moveEvent (g.spaceOf a) b a pa
    have hfirst : evt ∈ turns N dt seed g (a :: b :: rest) ↔ b ∈ g.audienceAt a pa :=
      (mem_turns_cons_self_iff (List.nodup_cons.mp hnodup).1).trans (mem_turnEvents_iff ha)
    have hsecond : evt ∈ turns N dt seed g (b :: a :: rest') ↔
        b ∈ (simulateEntity N dt seed g b).audienceAt a pa := by
      refine (mem_turns_cons_iff hab).trans ((mem_turns_cons_self_iff
        (List.nodup_cons.mp (List.nodup_cons.mp hnodup').2).1).trans ?_)
      rw [show evt = moveEvent ((simulateEntity N dt seed g b).spaceOf a) b a pa by
        rw [hafter.spaceOf hna]]
      exact mem_turnEvents_iff ((hafter.stepped hna).trans ha)
    have hmem := (hperm [a, b] [b, a]).mem_iff (a := evt)
    rw [hrange, hrange', hfirst, hsecond, hafter.mem_audienceAt_iff] at hmem
    simpa [Store.turned, hb] using hmem
  · intro hnone order order'
    rw [turns_eq_flatMap hf hnone (.refl g) (Dict.nodup_range _ _) (by simp),
      turns_eq_flatMap hf hnone (.refl g) (Dict.nodup_range _ _) (by simp)]
    exact (Dict.perm_range rfl order order').flatMap_right _

/-- An entity that walks along the first axis, ten units a second. -/
def walker (id : EntityID) (x goal : ℚ) : Entity :=
  { Entity.new id "npc" "" with
    position := ⟨x, 0, 0⟩
    lifecycle := some ⟨some (.patrol 10 [⟨goal, 0, 0⟩] 0)⟩ }

/-- One of two entities walks, and the other one hears of it in both orders. -/
theorem simulated_moves_one_walker :
    let N := (Host.steady Vector3.zero).numerics
    let g := exec (nodeStep (Host.steady Vector3.zero)) (new "gs-1")
      [.own (.addEntity (walker "a" 0 1000)), .own (.addEntity (Entity.new "b" "player" ""))]
    (g.published (simulate N g second (fun _ => 0) ["a"])).map Event.observer = ["b"] ∧
      ∀ order order', (g.published (simulate N g second (fun _ => 0) order)).Perm
        (g.published (simulate N g second (fun _ => 0) order')) := by
  intro N g
  have hrange : ∀ order, g.entities.range order = ["a", "b"] ∨
      g.entities.range order = ["b", "a"] := by
    intro order
    have hperm : (g.entities.range order).Perm ["a", "b"] :=
      Dict.perm_range (m := g.entities) rfl order ["a", "b"]
    simpa [List.permutations'] using List.mem_permutations'.mpr hperm
  have hdrop : ∀ order,
      (simulate N g second (fun _ => 0) order).eventsDropped = g.eventsDropped := by
    intro order
    unfold simulate
    obtain h | h := hrange order <;> rw [h] <;> decide +kernel
  have hstep : ∀ x p, g.stepped N second (fun _ => 0) x = some p → x = "a" := by
    intro x p hx
    have hstill : g.stepped N second (fun _ => 0) "b" = none := by decide +kernel
    have hlive : x = "a" ∨ x = "b" := by
      have hmem := (Dict.mem_range_iff [] g.entities x).mpr (isSome_of_stepped hx)
      obtain h | h := hrange [] <;> rw [h] at hmem
      · simpa using hmem
      · simpa [or_comm] using hmem
    obtain rfl | rfl := hlive
    · rfl
    · rw [hstill] at hx
      cases hx
  refine ⟨by decide +kernel, (simulated_moves_order_free_iff (formed_exec _ "gs-1" _) N second _
    hdrop).mpr fun a b pa pb hab ha hb => ?_⟩
  exact absurd ((hstep a pa ha).trans (hstep b pb hb).symm) hab

/-- Two walkers come into range of each other in one step: whoever goes second is
announced to the other. -/
theorem approaching_walkers_depend_on_order :
    let N := (Host.steady Vector3.zero).numerics
    let g := exec (nodeStep (Host.steady Vector3.zero)) (new "gs-1")
      [.own (.addEntity (walker "a" 0 1000)), .own (.addEntity (walker "b" 315 0))]
    let told (order : List EntityID) :=
      (g.published (simulate N g second (fun _ => 0) order)).map fun evt =>
        (evt.observer, evt.entityID)
    Formed g.toStore ∧ told ["a", "b"] = [("a", "b")] ∧ told ["b", "a"] = [("b", "a")] ∧
      (∀ order ∈ [["a", "b"], ["b", "a"]],
        (simulate N g second (fun _ => 0) order).eventsDropped = g.eventsDropped) ∧
      ¬(g.published (simulate N g second (fun _ => 0) ["a", "b"])).Perm
        (g.published (simulate N g second (fun _ => 0) ["b", "a"])) := by
  intro N g told
  have hab : told ["a", "b"] = [("a", "b")] := by decide +kernel
  have hba : told ["b", "a"] = [("b", "a")] := by decide +kernel
  refine ⟨formed_exec _ "gs-1" _, hab, hba, by decide +kernel, fun hperm => ?_⟩
  have hmap := hperm.map fun evt => (evt.observer, evt.entityID)
  change (told ["a", "b"]).Perm (told ["b", "a"]) at hmap
  rw [hab, hba] at hmap
  exact absurd hmap (by decide)

end Game

end SpatialServer

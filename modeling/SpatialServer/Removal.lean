import SpatialServer.ReachableStores

/-!
# Removal and expiry

An entity is in three maps of the server and in the entity map and the grid of
its zone. Removal takes it out of all of them; the sweep of expired sessions is
a second copy of removal. The maps of the server come out alike. The sweep looks
for the grid in the index of the assigned zones, and it never looks at the
entity map of the zone.
-/
namespace SpatialServer

open Runs

namespace Store

/-- The object under which the entity map of a zone has an identifier. -/
def member (s : Store) (z : ZoneID) (x : EntityID) : Option ℕ :=
  (s.zones.get z).bind fun sim => sim.entities.get x

/-- What the three maps of the server have of an identifier. -/
def entry (s : Store) (x : EntityID) : Option ℕ × Option ZoneID × Option EntityAOIState :=
  (s.entities.get x, s.entityZone.get x, s.entityAOI.get x)

/-- The three maps have the same keys. -/
def SameKeys (s : Store) : Prop :=
  ∀ x, (s.entityZone.get x).isSome = (s.entities.get x).isSome ∧
    (s.entityAOI.get x).isSome = (s.entities.get x).isSome

variable {s : Store} {id x : EntityID}

/-! ## Removing one -/

theorem removeEntity_of_entityZone_eq_none (h : s.entityZone.get id = none) :
    s.removeEntity id = s := by
  simp [removeEntity, h]

/-- Without an entry in one of the maps there is none in the others. -/
theorem SameKeys.entry_eq (h : s.SameKeys) (hx : s.entityZone.get x = none) :
    s.entry x = (none, none, none) := by
  obtain ⟨hzone, haoi⟩ := h x
  rw [hx] at hzone
  have he : s.entities.get x = none := by simpa using hzone.symm
  rw [he] at haoi
  have ha : s.entityAOI.get x = none := by simpa using haoi
  simp [entry, he, hx, ha]

theorem entry_removeEntity (h : s.SameKeys) (id x : EntityID) :
    (s.removeEntity id).entry x = if x = id then (none, none, none) else s.entry x := by
  rcases hzone : s.entityZone.get id with _ | zid
  · rw [removeEntity_of_entityZone_eq_none hzone]
    split_ifs with hx
    · subst hx
      exact h.entry_eq hzone
    · rfl
  · cases hsim : s.zones.get zid <;>
      by_cases hx : x = id <;> simp [removeEntity, entry, hzone, hsim, updateGrid, hx]

theorem entityZone_removeEntity (s : Store) (id x : EntityID) :
    (s.removeEntity id).entityZone.get x = if x = id then none else s.entityZone.get x := by
  rcases hzone : s.entityZone.get id with _ | zid
  · rw [removeEntity_of_entityZone_eq_none hzone]
    split_ifs with hx
    · rw [hx, hzone]
    · rfl
  · cases hsim : s.zones.get zid <;>
      by_cases hx : x = id <;> simp [removeEntity, hzone, hsim, updateGrid, hx]

theorem member_removeEntity (s : Store) (id x : EntityID) (z : ZoneID) :
    (s.removeEntity id).member z x =
      if x = id ∧ s.entityZone.get id = some z then none else s.member z x := by
  rcases hzone : s.entityZone.get id with _ | zid
  · simp [removeEntity_of_entityZone_eq_none hzone]
  · rcases hsim : s.zones.get zid with _ | sim
    · by_cases hz : zid = z
      · subst hz
        simp [removeEntity, member, hzone, hsim]
      · simp [removeEntity, member, hzone, hsim, hz]
    · by_cases hz : zid = z
      · subst hz
        by_cases hx : x = id <;> simp [removeEntity, member, hzone, hsim, hx]
      · simp [removeEntity, member, hzone, hsim, hz, Ne.symm hz]

/-! ## Expiry of one -/

/-- Expiry deletes the entries of the three maps and changes at most what the
grids have of the identifier. -/
theorem exists_expire_eq (s : Store) (id : EntityID) : ∃ grids, s.expire id =
    { s with
      entities := s.entities.del id
      entityAOI := s.entityAOI.del id
      entityZone := s.entityZone.del id
      grids := grids } ∧
    (s.entityZone.get id = none → grids = s.grids) ∧
    ∀ x, x ≠ id → ∀ ref, AOI.Agree x (s.grids.cell ref) (grids.cell ref) := by
  rcases hzone : s.entityZone.get id with _ | zid
  · exact ⟨s.grids, by simp [expire, hzone], fun _ => rfl, fun x _ ref => .refl x _⟩
  · rcases hindex : s.aoiIndex.get zid with _ | q
    · exact ⟨s.grids, by simp [expire, hzone, hindex], fun _ => rfl, fun x _ ref => .refl x _⟩
    · refine ⟨(s.updateGrid q (·.leave id)).grids, by simp [expire, hzone, hindex, updateGrid],
        by simp, fun x hx ref => ?_⟩
      by_cases hq : ref = q
      · subst hq
        simpa [updateGrid] using AOI.agree_leave _ hx
      · simpa [updateGrid, hq] using AOI.Agree.refl x _

theorem entry_expire (s : Store) (id x : EntityID) :
    (s.expire id).entry x = if x = id then (none, none, none) else s.entry x := by
  obtain ⟨grids, heq, -⟩ := s.exists_expire_eq id
  rw [heq]
  by_cases hx : x = id <;> simp [entry, hx]

theorem expire_zones (s : Store) (id : EntityID) : (s.expire id).zones = s.zones := by
  obtain ⟨grids, heq, -⟩ := s.exists_expire_eq id
  rw [heq]

theorem expire_objects (s : Store) (id : EntityID) : (s.expire id).objects = s.objects := by
  obtain ⟨grids, heq, -⟩ := s.exists_expire_eq id
  rw [heq]

theorem expire_grids_of_entityZone_eq_none (h : s.entityZone.get id = none) :
    (s.expire id).grids = s.grids := by
  obtain ⟨grids, heq, hgrids, -⟩ := s.exists_expire_eq id
  rw [heq]
  exact hgrids h

theorem agree_expire (s : Store) (hx : x ≠ id) (ref : ℕ) :
    AOI.Agree x (s.grids.cell ref) ((s.expire id).grids.cell ref) := by
  obtain ⟨grids, heq, -, hagree⟩ := s.exists_expire_eq id
  rw [heq]
  exact hagree x hx ref

/-! ## Several -/

def removeEntities (s : Store) (ids : List EntityID) : Store := ids.foldl removeEntity s

theorem SameKeys.removeEntity (h : s.SameKeys) (id : EntityID) : (s.removeEntity id).SameKeys := by
  intro x
  have hentry := entry_removeEntity h id x
  simp only [entry, Prod.ext_iff] at hentry
  split_ifs at hentry
  · simp [hentry]
  · rw [hentry.1, hentry.2.1, hentry.2.2]
    exact h x

theorem entry_removeEntities (h : s.SameKeys) (ids : List EntityID) (x : EntityID) :
    (s.removeEntities ids).entry x = if x ∈ ids then (none, none, none) else s.entry x := by
  induction ids generalizing s with
  | nil => simp [removeEntities]
  | cons id ids ih =>
    change ((s.removeEntity id).removeEntities ids).entry x = _
    rw [ih (h.removeEntity id), entry_removeEntity h]
    by_cases hx : x = id <;> simp [hx]

/-- No removal puts an entity into a map. -/
theorem member_removeEntities_of_none {z : ZoneID} (h : s.member z x = none)
    (ids : List EntityID) : (s.removeEntities ids).member z x = none := by
  refine List.foldlRecOn (motive := fun s : Store => s.member z x = none) ids _ h ?_
  intro s hs id _
  rw [member_removeEntity]
  split_ifs
  · rfl
  · exact hs

theorem member_removeEntities_of_mem {ids : List EntityID} {z : ZoneID} (hmem : x ∈ ids)
    (hzone : s.entityZone.get x = some z) : (s.removeEntities ids).member z x = none := by
  induction ids generalizing s with
  | nil => cases hmem
  | cons id ids ih =>
    change ((s.removeEntity id).removeEntities ids).member z x = none
    by_cases hx : x = id
    · subst hx
      apply member_removeEntities_of_none
      rw [member_removeEntity, if_pos ⟨rfl, hzone⟩]
    · refine ih ((List.mem_cons.mp hmem).resolve_left hx) ?_
      rw [entityZone_removeEntity, if_neg hx, hzone]

theorem removeEntities_eq_self {ids : List EntityID}
    (h : ∀ x ∈ ids, s.entityZone.get x = none) : s.removeEntities ids = s := by
  induction ids with
  | nil => rfl
  | cons id ids ih =>
    change (s.removeEntity id).removeEntities ids = s
    rw [removeEntity_of_entityZone_eq_none (h id (by simp))]
    exact ih fun x hx => h x (by simp [hx])

theorem entry_foldl_expire (s : Store) (ids : List EntityID) (x : EntityID) :
    (ids.foldl expire s).entry x = if x ∈ ids then (none, none, none) else s.entry x := by
  induction ids generalizing s with
  | nil => simp
  | cons id ids ih =>
    rw [List.foldl_cons, ih, entry_expire]
    by_cases hx : x = id <;> simp [hx]

theorem foldl_expire_zones (s : Store) (ids : List EntityID) :
    (ids.foldl expire s).zones = s.zones :=
  List.foldlRecOn (motive := fun s' : Store => s'.zones = s.zones) ids _ rfl
    fun s' h id _ => (s'.expire_zones id).trans h

theorem foldl_expire_objects (s : Store) (ids : List EntityID) :
    (ids.foldl expire s).objects = s.objects :=
  List.foldlRecOn (motive := fun s' : Store => s'.objects = s.objects) ids _ rfl
    fun s' h id _ => (s'.expire_objects id).trans h

theorem agree_foldl_expire (s : Store) {ids : List EntityID} (hx : x ∉ ids) (ref : ℕ) :
    AOI.Agree x (s.grids.cell ref) ((ids.foldl expire s).grids.cell ref) :=
  List.foldlRecOn
    (motive := fun s' : Store => AOI.Agree x (s.grids.cell ref) (s'.grids.cell ref)) ids _
    (.refl x _) fun s' h _ hid => h.trans (s'.agree_expire (ne_of_mem_of_not_mem hid hx).symm ref)

theorem foldl_expire_grids {ids : List EntityID} (h : ∀ x ∈ ids, s.entityZone.get x = none) :
    (ids.foldl expire s).grids = s.grids := by
  refine (List.foldlRecOn (motive := fun s' : Store => s'.grids = s.grids ∧
    ∀ x ∈ ids, s'.entityZone.get x = none) ids _ ⟨rfl, h⟩ fun s' hs' id hid => ⟨?_, ?_⟩).1
  · rw [expire_grids_of_entityZone_eq_none (hs'.2 id hid), hs'.1]
  · intro x hx
    have hentry := s'.entry_expire id x
    simp only [entry, Prod.ext_iff] at hentry
    rw [hentry.2.1]
    split_ifs
    · rfl
    · exact hs'.2 x hx

/-! ## Telling stores apart -/

/-- The maps have the same entries, the zones the same members and grids that
answer every query alike. -/
structure Alike (s s' : Store) : Prop where
  entry : ∀ x, s'.entry x = s.entry x
  member : ∀ z x, s'.member z x = s.member z x
  gridOf : ∀ z, s'.gridOf z = s.gridOf z
  query : ∀ z ref, s.gridOf z = some ref → ∀ pos,
    (s'.grids.cell ref).query pos = (s.grids.cell ref).query pos
  entitiesInRange : ∀ z ref, s.gridOf z = some ref → ∀ center r,
    (s'.grids.cell ref).entitiesInRange center r = (s.grids.cell ref).entitiesInRange center r
  count : ∀ z ref, s.gridOf z = some ref → (s'.grids.cell ref).count = (s.grids.cell ref).count

/-- Nothing happens to one entity. -/
structure Untouched (x : EntityID) (s s' : Store) : Prop where
  entry : s'.entry x = s.entry x
  object : ∀ r, s.entities.get x = some r → s'.objects.cell r = s.objects.cell r
  member : ∀ z, s'.member z x = s.member z x
  grids : ∀ ref, AOI.Agree x (s.grids.cell ref) (s'.grids.cell ref)

end Store

/-! ## The sweep -/

namespace Game

/-- On the store, the sweep is the expiry of those who are expired before it. -/
theorem toStore_sweepDisconnected (g : Game) (now : Time) (order : List EntityID) :
    (g.sweepDisconnected now order).toStore =
      ((g.sessionStates.range order).filter (g.expired now)).foldl Store.expire g.toStore := by
  have hloop : ∀ (ids : List EntityID) (g' : Game), ids.Nodup →
      (∀ x ∈ ids, g'.expired now x = g.expired now x) →
      (ids.foldl (sweepSession now) g').toStore =
        (ids.filter (g.expired now)).foldl Store.expire g'.toStore := by
    intro ids
    induction ids with
    | nil => exact fun _ _ _ => rfl
    | cons id ids ih =>
      intro g' hnodup hexp
      obtain ⟨hid, hnodup⟩ := List.nodup_cons.mp hnodup
      rw [List.foldl_cons, ih _ hnodup, toStore_sweepSession, hexp id (by simp)]
      · cases hexpired : g.expired now id <;> simp [hexpired]
      · intro x hx
        have hne : x ≠ id := fun heq => hid (heq ▸ hx)
        rw [sweepSession_expired, hexp x (by simp [hx])]
        simp [hne]
  exact hloop _ g (Dict.nodup_range _ _) fun _ _ => rfl

theorem mem_filter_expired (g : Game) (now : Time) (order : List EntityID) (x : EntityID) :
    x ∈ (g.sessionStates.range order).filter (g.expired now) ↔ g.expired now x = true := by
  rw [List.mem_filter, Dict.mem_range_iff]
  refine ⟨fun h => h.2, fun h => ⟨?_, h⟩⟩
  unfold expired at h
  cases hst : g.sessionStates.get x with
  | none => simp [hst] at h
  | some st => rfl

theorem untouched_sweepDisconnected (g : Game) (now : Time) (order : List EntityID) {x : EntityID}
    (hx : g.expired now x = false) :
    Store.Untouched x g.toStore (g.sweepDisconnected now order).toStore := by
  have hnot : x ∉ (g.sessionStates.range order).filter (g.expired now) := by
    rw [mem_filter_expired, hx]
    exact Bool.false_ne_true
  rw [toStore_sweepDisconnected]
  refine ⟨?_, fun r _ => ?_, fun z => ?_, g.toStore.agree_foldl_expire hnot⟩
  · rw [Store.entry_foldl_expire, if_neg hnot]
  · rw [Store.foldl_expire_objects]
  · rw [Store.member, Store.foldl_expire_zones, Store.member]

/-- The sweep does what removing the expired entities would do. -/
structure ExpiresLikeRemoval (g : Game) (now : Time) (order : List EntityID) : Prop where
  alike : ∀ ids : List EntityID, (∀ x, x ∈ ids ↔ g.expired now x = true) →
    Store.Alike (g.toStore.removeEntities ids) (g.sweepDisconnected now order).toStore
  sessions : ∀ x, (g.sweepDisconnected now order).sessionStates.get x =
    if g.expired now x then none else g.sessionStates.get x
  untouched : ∀ x, g.expired now x = false →
    Store.Untouched x g.toStore (g.sweepDisconnected now order).toStore

/-- Where the indexes agree, the sweep is removal if and only if it expires nobody
who is alive: whoever it expires stays in the entity map of the zone. -/
theorem expires_like_removal_iff {g : Game} (h : Indexed g.toStore) (now : Time)
    (order : List EntityID) : g.ExpiresLikeRemoval now order ↔
      ∀ x, g.expired now x = true → g.entities.get x = none := by
  have hkeys : g.toStore.SameKeys := fun x => ⟨h.keys_zone x, h.keys_aoi x⟩
  constructor
  · intro hlike x hexp
    by_contra hsome
    obtain ⟨r, hr⟩ := Option.ne_none_iff_exists'.mp hsome
    have hzone : (g.entityZone.get x).isSome := by rw [h.keys_zone, hr]; rfl
    obtain ⟨z, hz⟩ := Option.isSome_iff_exists.mp hzone
    obtain ⟨sim, r', hsim, hmember, -⟩ := (h.zone_iff x z).mp hz
    -- the sweep leaves the members of all zones as they are
    have hkept : (g.sweepDisconnected now order).member z x = some r' := by
      rw [toStore_sweepDisconnected, Store.member, Store.foldl_expire_zones, hsim]
      exact hmember
    have hremoved := Store.member_removeEntities_of_mem
      ((mem_filter_expired g now order x).mpr hexp) hz
    have hsame := (hlike.alike _ (mem_filter_expired g now order)).member z x
    rw [hkept, hremoved] at hsame
    cases hsame
  · intro hdead
    refine ⟨fun ids hids => ?_, fun x => (g.sweepDisconnected_get now order x).2,
      fun x => g.untouched_sweepDisconnected now order⟩
    have hnone : ∀ x, g.expired now x = true → g.entityZone.get x = none := by
      intro x hexp
      have hzone := h.keys_zone x
      rw [hdead x hexp] at hzone
      simpa using hzone
    have hgrids : (g.sweepDisconnected now order).grids = g.grids := by
      rw [toStore_sweepDisconnected]
      exact Store.foldl_expire_grids fun x hx => hnone x ((mem_filter_expired g now order x).mp hx)
    have hzones : (g.sweepDisconnected now order).zones = g.zones := by
      rw [toStore_sweepDisconnected, Store.foldl_expire_zones]
    have hself : g.toStore.removeEntities ids = g.toStore :=
      Store.removeEntities_eq_self fun x hx => hnone x ((hids x).mp hx)
    constructor
    case entry =>
      intro x
      rw [toStore_sweepDisconnected, Store.entry_foldl_expire, Store.entry_removeEntities hkeys]
      simp only [mem_filter_expired, hids]
    all_goals rw [hself]
    case member => exact fun z x => by rw [Store.member, hzones, Store.member]
    case gridOf => exact fun z => by rw [Store.gridOf, hzones, Store.gridOf]
    all_goals simp [hgrids]

/-- Only the second of two entities was disconnected, and it has been removed
since: the sweep finds its session record and nothing else. -/
theorem expires_like_removal_after_removal :
    let g := exec (nodeStep (Host.steady Vector3.zero)) (new "gs-1")
      [.own (.addEntity (Entity.new "e1" "player" "")),
        .own (.addEntity (Entity.new "e2" "player" "")), .own (.markDisconnected "e2" 1),
        .own (.removeEntity "e2")]
    (g.entities.get "e1").isSome ∧ g.expired (g.reconnectWindow + 2) "e2" = true ∧
      g.ExpiresLikeRemoval (g.reconnectWindow + 2) [] := by
  intro g
  have h : Indexed g.toStore := (coherent_nodeExec _ "gs-1" (by decide +kernel)).indexed
  refine ⟨by decide +kernel, by decide +kernel, (expires_like_removal_iff h _ []).mpr ?_⟩
  intro x hexp
  by_cases hx : x = "e2"
  · subst hx
    decide +kernel
  · have hnone : g.sessionStates.get x = none := by
      rw [show g.sessionStates = (∅ : Dict EntityID SessionState).set "e2" ⟨.disconnected, 1⟩
        from rfl]
      simp [hx]
    simp [expired, hnone] at hexp

/-- A disconnected entity of the default zone is swept after the window: it is
gone from the maps of the server, while the entity map and the grid of its zone
still have it. Removal takes it out of both. -/
theorem swept_entity_stays_in_zone :
    let g := exec (nodeStep (Host.steady Vector3.zero)) (new "gs-1")
      [.own (.addEntity (Entity.new "e1" "player" "")), .own (.markDisconnected "e1" 1)]
    let g' := g.sweepDisconnected (g.reconnectWindow + 2) []
    Indexed g.toStore ∧ g.expired (g.reconnectWindow + 2) "e1" = true ∧
      g'.entities.get "e1" = none ∧ g'.member defaultZoneID "e1" = some 0 ∧
      (g.toStore.removeEntity "e1").member defaultZoneID "e1" = none ∧
      (g'.gridOf defaultZoneID).map (fun ref => (g'.grids.cell ref).query Vector3.zero) =
        some ["e1"] ∧
      ¬g.ExpiresLikeRemoval (g.reconnectWindow + 2) [] := by
  intro g g'
  have hkept : g'.member defaultZoneID "e1" = some 0 := by decide +kernel
  have hremoved : (g.toStore.removeEntity "e1").member defaultZoneID "e1" = none := by
    decide +kernel
  have hids : (g.sessionStates.range []).filter (g.expired (g.reconnectWindow + 2)) = ["e1"] := by
    decide +kernel
  refine ⟨(coherent_nodeExec _ "gs-1" (by decide +kernel)).indexed, by decide +kernel,
    by decide +kernel, hkept, hremoved, by decide +kernel, fun h => ?_⟩
  have hsame := (h.alike _ (mem_filter_expired g _ [])).member defaultZoneID "e1"
  rw [hids] at hsame
  exact absurd (hkept.symm.trans (hsame.trans hremoved)) (by simp)

end Game

end SpatialServer

import SpatialServer.RemoteGhosts

/-!
# What a server learns from its neighbour

The owner of a zone asks its neighbour for the entities around the zone and keeps
a replica of each one named. It sends the grid coordinates of its zone and its
radius, and the neighbour searches around the corner of that cell, for cells of
the default size. So of the entities within range of somebody in the zone, the
owner comes to know those within range of that corner, and keeps for a while
those it knew before.
-/
namespace SpatialServer

open Runs

/-! ## What a reconciliation leaves in the store -/

namespace Replicas

variable {b : Replicas} {x : EntityID}

theorem store_foldl_refresh (zid : ZoneID) (t : ℕ → Time) (rs : List (NeighborEntity × ℕ))
    (h : ∀ r ∈ rs, r.1.id ≠ x) :
    (rs.foldl (fun b r => b.refresh zid r.1 (t r.2)) b).store.get (remoteGhostID x) =
      b.store.get (remoteGhostID x) := by
  induction rs generalizing b with
  | nil => rfl
  | cons r rs ih =>
    have hne : remoteGhostID x ≠ remoteGhostID r.1.id := fun heq =>
      h r List.mem_cons_self (remoteGhostID_injective heq).symm
    rw [List.foldl_cons, ih fun r' hr' => h r' (List.mem_cons_of_mem _ hr')]
    exact (b.alters_refresh zid r.1 _).store _ hne

/-- The entry of an entity that is named is the one made when it was named last. -/
theorem exists_entry_foldl_refresh (zid : ZoneID) (t : ℕ → Time) (P : GhostEntry → Prop)
    (rs : List (NeighborEntity × ℕ))
    (h : ∀ r ∈ rs, r.1.id = x → P ⟨.ghostRemote, x, zid, r.1.pos, t r.2⟩)
    (hx : (∃ e, b.store.get (remoteGhostID x) = some e ∧ P e) ∨ ∃ r ∈ rs, r.1.id = x) :
    ∃ e, (rs.foldl (fun b r => b.refresh zid r.1 (t r.2)) b).store.get (remoteGhostID x) = some e ∧
      P e := by
  induction rs generalizing b with
  | nil => simpa using hx
  | cons r rs ih =>
    rw [List.foldl_cons]
    refine ih (fun r' hr' => h r' (List.mem_cons_of_mem _ hr')) ?_
    by_cases hid : r.1.id = x
    · subst hid
      exact .inl ⟨_, Dict.get_set_self _ _ _, h r List.mem_cons_self rfl⟩
    · have hne : remoteGhostID x ≠ remoteGhostID r.1.id := fun heq =>
        hid (remoteGhostID_injective heq).symm
      rw [(b.alters_refresh zid r.1 _).store _ hne]
      refine hx.imp_right fun ⟨r', hr', hid'⟩ => ⟨r', ?_, hid'⟩
      rcases List.mem_cons.mp hr' with rfl | hr'
      · exact absurd hid' hid
      · exact hr'

theorem store_expire (h : RemoteOnly b.store) (seen : List EntityID) (now : EntityID → Time)
    (gid gid' : EntityID) :
    (expire seen now b gid').store.get gid =
      if gid = gid' ∧ gid ∉ seen then
        (b.store.get gid).filter fun e => decide (now gid ≤ e.expiresAt)
      else b.store.get gid := by
  unfold expire
  cases hget : b.store.get gid' with
  | none =>
    by_cases heq : gid = gid'
    · subst heq; simp [hget]
    · simp [heq]
  | some e =>
    have hkind := (h gid' e hget).2
    by_cases heq : gid = gid'
    · subst heq
      by_cases hseen : gid ∈ seen
      · simp [hseen]
      · by_cases hdue : e.expiresAt < now gid
        · simp [hseen, hget, hkind, hdue, Option.filter]
        · simp [hseen, hget, hdue, Option.filter, not_lt.mp hdue]
    · simp only [heq, false_and, if_false]
      split_ifs
      · rfl
      · exact Dict.get_del_ne _ heq
      · rfl

theorem store_foldl_expire (h : RemoteOnly b.store) (seen : List EntityID) (now : EntityID → Time)
    (gid : EntityID) (ids : List EntityID) :
    (ids.foldl (expire seen now) b).store.get gid =
      if gid ∈ ids ∧ gid ∉ seen then
        (b.store.get gid).filter fun e => decide (now gid ≤ e.expiresAt)
      else b.store.get gid := by
  induction ids generalizing b with
  | nil => simp
  | cons id ids ih =>
    rw [List.foldl_cons, ih (RemoteStep.expire h seen now id).remote, store_expire h]
    by_cases hseen : gid ∈ seen
    · simp [hseen]
    · by_cases hid : gid = id
      · subst hid
        by_cases hmem : gid ∈ ids <;> simp [hseen, hmem]
      · simp [hid]

/-- An entity that was not named keeps its entry until that is overdue. -/
theorem store_reconcile_of_not_named (h : RemoteOnly b.store) (zid : ZoneID)
    (results : List NeighborEntity) (t : ℕ → Time) (now : EntityID → Time) (order : List EntityID)
    (hx : ∀ n ∈ results, n.id ≠ x) :
    (b.reconcile zid results t now order).store.get (remoteGhostID x) =
      (b.store.get (remoteGhostID x)).filter fun e =>
        decide (now (remoteGhostID x) ≤ e.expiresAt) := by
  have hrefreshed := store_foldl_refresh (b := b) zid t results.zipIdx (x := x) fun r hr =>
    hx r.1 (List.fst_mem_of_mem_zipIdx hr)
  have hremote := (RemoteStep.refreshAll h zid t results.zipIdx).remote
  have hseen : remoteGhostID x ∉ results.map fun n => remoteGhostID n.id := by
    intro hmem
    obtain ⟨n, hn, heq⟩ := List.mem_map.mp hmem
    exact hx n hn (remoteGhostID_injective heq)
  rw [reconcile, store_foldl_expire hremote, hrefreshed]
  split_ifs with hcond
  · rfl
  · have hnone : b.store.get (remoteGhostID x) = none := by
      rw [← Option.not_isSome_iff_eq_none, ← hrefreshed, ← Dict.mem_range_iff order]
      exact fun hmem => hcond ⟨hmem, hseen⟩
    rw [hnone, Option.filter_none]

/-- An entity that was named has an entry made for it. -/
theorem exists_entry_reconcile (h : RemoteOnly b.store) (zid : ZoneID)
    {results : List NeighborEntity} (t : ℕ → Time) (now : EntityID → Time) (order : List EntityID)
    (P : GhostEntry → Prop)
    (hP : ∀ n ∈ results, n.id = x → ∀ expiresAt, P ⟨.ghostRemote, x, zid, n.pos, expiresAt⟩)
    (hx : ∃ n ∈ results, n.id = x) :
    ∃ e, (b.reconcile zid results t now order).store.get (remoteGhostID x) = some e ∧ P e := by
  obtain ⟨n, hn, rfl⟩ := hx
  obtain ⟨i, hi⟩ := List.mem_iff_getElem?.mp hn
  obtain ⟨e, he, hPe⟩ := exists_entry_foldl_refresh (b := b) zid t P results.zipIdx
    (fun r hr hid => hP r.1 (List.fst_mem_of_mem_zipIdx hr) hid _)
    (.inr ⟨(n, i), List.mk_mem_zipIdx_iff_getElem?.mpr hi, rfl⟩)
  have hremote := (RemoteStep.refreshAll h zid t results.zipIdx).remote
  have hseen : remoteGhostID n.id ∈ results.map fun n => remoteGhostID n.id :=
    List.mem_map_of_mem (f := fun n => remoteGhostID n.id) hn
  refine ⟨e, ?_, hPe⟩
  rw [reconcile, store_foldl_expire hremote, if_neg fun hcond => hcond.2 hseen]
  exact he

end Replicas

/-! ## What the neighbour answers -/

namespace Store

/-- A neighbour that answers with its local query. -/
def answer (s : Store) : NeighborQuerier := fun zoneID gridX gridY radius =>
  (s.queryLocal zoneID gridX gridY radius).map fun snap =>
    ⟨snap.entityID, snap.type, snap.position.getD Vector3.zero⟩

/-- The replica of an entity that a zone has in its store, with time left and
within range of a place. -/
def Remembers (s : Store) (zid : ZoneID) (x : EntityID) (now : Time) (here : Vector3) : Prop :=
  ∃ store e, s.ghostStore.get zid = some store ∧ store.get (remoteGhostID x) = some e ∧
    now ≤ e.expiresAt ∧ distSq e.position here ≤ s.aoiRadius * s.aoiRadius

variable {s : Store}

theorem exists_of_mem_answer (h : Sound s) {zid : ZoneID} {gridX gridY : ℤ} {radius : ℚ}
    {n : NeighborEntity} (hn : n ∈ s.answer zid gridX gridY radius) :
    ∃ e, s.entityOf n.id = some e ∧ n.pos = e.position := by
  obtain ⟨snap, hsnap, rfl⟩ := List.mem_map.mp hn
  unfold queryLocal at hsnap
  split at hsnap
  · cases hsnap
  · obtain ⟨id, -, hid⟩ := List.mem_filterMap.mp hsnap
    obtain ⟨r, hr, rfl⟩ := Option.map_eq_some_iff.mp hid
    refine ⟨s.objects.cell r, ?_, rfl⟩
    simp only [entitySnapshot, (h.named.object id r hr).2]
    simp [entityOf, hr]

/-- Of the entities that its grid lists where they are, the neighbour names those around
the corner of the cell. -/
theorem exists_mem_answer_iff (hs : Sound s) {zid : ZoneID} {sim : ZoneSim}
    (hsim : s.zones.get zid = some sim) (hzone : sim.zone.isSome) {x : EntityID} {e : Entity}
    (he : s.entityOf x = some e) (hlists : (s.grids.cell sim.aoi).Lists x e.position)
    (gridX gridY : ℤ) :
    (∃ n ∈ s.answer zid gridX gridY s.aoiRadius, n.id = x) ↔
      distSq e.position ⟨gridX * defaultCellSize, 0, gridY * defaultCellSize⟩ ≤
        s.aoiRadius * s.aoiRadius := by
  obtain ⟨r, hr, -⟩ := Option.map_eq_some_iff.mp he
  have hrange := hlists.mem_entitiesInRange_iff_of_le (hs.housed.own_grids.covers zid sim hsim)
    hs.housed.radius_nonneg le_rfl ⟨gridX * defaultCellSize, 0, gridY * defaultCellSize⟩
  rw [← hrange]
  simp only [answer, queryLocal, hs.housed.assigned zid sim hsim hzone, List.mem_map,
    List.mem_filterMap]
  constructor
  · rintro ⟨n, ⟨snap, ⟨id, hid, hsnap⟩, rfl⟩, rfl⟩
    obtain ⟨r', hr', rfl⟩ := Option.map_eq_some_iff.mp hsnap
    simpa only [entitySnapshot, (hs.named.object id r' hr').2] using hid
  · intro hid
    exact ⟨_, ⟨_, ⟨x, hid, by rw [hr]; rfl⟩, rfl⟩, (hs.named.object x r hr).2⟩

end Store

/-- After a reconciliation, an entity that is named at one place only is found
around that place, and one that is not named is found if it is remembered. -/
theorem RemoteGhosts.mem_entitiesInRange_reconcile_iff {s : Store} (h : RemoteGhosts s)
    {zid : ZoneID} {sim : ZoneSim} {z : Zone} (hsim : s.zones.get zid = some sim)
    (hz : sim.zone = some z) {querier : NeighborQuerier} (neighbor : ZoneID) (stamp : ℕ → Time)
    (now : EntityID → Time) (order : List EntityID) {x : EntityID} {pos here : Vector3}
    (hdist : distSq pos here ≤ s.aoiRadius * s.aoiRadius)
    (hplace : ∀ n ∈ querier neighbor z.grid.x z.grid.y s.aoiRadius, n.id = x → n.pos = pos) :
    let s' := s.reconcileNeighborGhosts (some querier) zid neighbor stamp now order
    remoteGhostID x ∈ (s'.grids.cell sim.aoi).entitiesInRange here s'.aoiRadius ↔
      (∃ n ∈ querier neighbor z.grid.x z.grid.y s.aoiRadius, n.id = x) ∨
      s.Remembers zid x (now (remoteGhostID x)) here := by
  intro s'
  have hzone : sim.zone.isSome := by simp [hz]
  have hindex := h.sound.housed.assigned zid sim hsim hzone
  obtain ⟨store, hstore⟩ := h.sound.housed.exists_store hindex
  have hmirrors := h.mirrors zid sim.aoi store
    ((s.assignedGrid_eq_some_iff zid sim.aoi).mpr ⟨sim, hsim, hzone, rfl⟩) hstore
  let results := querier neighbor z.grid.x z.grid.y s.aoiRadius
  let t : ℕ → Time := fun i => stamp i + s.ghostTTL * 6
  let b' := Replicas.reconcile ⟨s.grids.cell sim.aoi, store⟩ neighbor results t now order
  have hs' : s' = { s with
      grids := s.grids.write sim.aoi b'.grid
      ghostStore := s.ghostStore.set zid b'.store } := by
    simp only [s', Store.reconcileNeighborGhosts, hsim, Option.bind_some, hz, Store.onReplicas,
      hindex, hstore]
    rfl
  have hcovers : b'.grid.Covers s.aoiRadius := by
    have hcells := (Replicas.RemoteStep.reconcile hmirrors.remote neighbor results t now order).cells
    rw [AOI.Covers, hcells.1, hcells.2]
    exact h.sound.housed.own_grids.covers zid sim hsim
  have hradius : 0 ≤ s.aoiRadius := h.sound.housed.radius_nonneg
  rw [hs', Heap.cell_write_self, (hmirrors.reconcile neighbor results t now
    order).mem_entitiesInRange_iff hcovers hradius ((endsInGhost_iff _).mpr ⟨x, rfl⟩) here]
  by_cases hmem : ∃ n ∈ results, n.id = x
  · obtain ⟨entry, hentry, hnear⟩ := Replicas.exists_entry_reconcile hmirrors.remote neighbor t now
      order (fun e => distSq e.position here ≤ s.aoiRadius * s.aoiRadius)
      (fun n hn hid _ => (hplace n hn hid).symm ▸ hdist) hmem
    exact iff_of_true ⟨entry, hentry, hnear⟩ (.inl hmem)
  · rw [Replicas.store_reconcile_of_not_named hmirrors.remote neighbor results t now order
      fun n hn hid => hmem ⟨n, hn, hid⟩, or_iff_right hmem]
    simp only [Store.Remembers, Option.filter_eq_some_iff, decide_eq_true_eq, and_assoc]
    constructor
    · rintro ⟨entry, hentry, hrest⟩
      exact ⟨store, entry, hstore, hentry, hrest⟩
    · rintro ⟨store', entry, hstore', hentry, hrest⟩
      obtain rfl : store = store' := Option.some.inj (hstore.symm.trans hstore')
      exact ⟨entry, hentry, hrest⟩

namespace Game

/-- The server of zone `a` asks the server of zone `b`. An entity that the grid of `b`
lists where it is, within range of any place, is then found there on the grid of `a` exactly if it is within
range of the corner of the cell of `a`, or its replica was there before and is
not overdue. -/
theorem cross_zone_seen_iff (HA HB : Host) (sidA sidB : ServerID) (callsA callsB : List NodeCall)
    (hA : Along (nodeStep HA) AnnouncedOnce (new sidA) callsA)
    (a b : ZoneID) (simA simB : ZoneSim) (za zb : Zone)
    (hsimA : (exec (nodeStep HA) (new sidA) callsA).zones.get a = some simA)
    (hza : simA.zone = some za)
    (hsimB : (exec (nodeStep HB) (new sidB) callsB).zones.get b = some simB)
    (hzb : simB.zone = some zb) (q : EntityID) (e : Entity)
    (he : (exec (nodeStep HB) (new sidB) callsB).entityOf q = some e)
    (hlists : ((exec (nodeStep HB) (new sidB) callsB).grids.cell simB.aoi).Lists q e.position)
    (here : Vector3)
    (hdist : distSq e.position here ≤ defaultAOIRadius * defaultAOIRadius)
    (stamp : ℕ → Time) (now : EntityID → Time) (order : List EntityID) :
    let A := exec (nodeStep HA) (new sidA) callsA
    let B := exec (nodeStep HB) (new sidB) callsB
    let A' := nodeStep HA A (.reconcileNeighborGhosts (some B.answer) a b stamp now order)
    remoteGhostID q ∈ (A'.grids.cell simA.aoi).entitiesInRange here A'.aoiRadius ↔
      distSq e.position ⟨za.grid.x * defaultCellSize, 0, za.grid.y * defaultCellSize⟩ ≤
        defaultAOIRadius * defaultAOIRadius ∨
      A.Remembers a q (now (remoteGhostID q)) here := by
  intro A B A'
  have hsound : Sound B.toStore := sound_exec HB sidB callsB
  have hghosts : RemoteGhosts A.toStore := remoteGhosts_exec HA sidA hA
  have hradiusA : A.aoiRadius = defaultAOIRadius := hghosts.sound.housed.radius
  have hradiusB : B.aoiRadius = defaultAOIRadius := hsound.housed.radius
  have hnamed := Store.exists_mem_answer_iff hsound hsimB (by simp [hzb]) he hlists za.grid.x
    za.grid.y
  rw [hradiusB] at hnamed
  have hplace : ∀ n ∈ B.answer b za.grid.x za.grid.y A.aoiRadius, n.id = q →
      n.pos = e.position := by
    rintro n hn rfl
    obtain ⟨e', he', hpos⟩ := Store.exists_of_mem_answer hsound hn
    rw [hpos, Option.some.inj (he'.symm.trans he)]
  have hafter := hghosts.mem_entitiesInRange_reconcile_iff hsimA hza b stamp now order
    (hradiusA ▸ hdist) hplace
  rw [hradiusA, hnamed] at hafter
  exact hafter

/-- A server with one zone of the Space `s1` and one entity in it. -/
def oneEntity (zoneID : ZoneID) (grid : GridCoord) (id : EntityID) (pos : Vector3) :
    List NodeCall :=
  [.own (.assignZone ⟨zoneID, "s1", grid, 100⟩),
    .own (.addEntity { Entity.new id "player" "s1" with position := pos, zoneID := zoneID })]

/-- Two entities close to each other on two sides of a boundary. -/
theorem cross_zone_seen_nearby :
    let H := Host.steady Vector3.zero
    let A := exec (nodeStep H) (new "gs-A") (oneEntity "a" ⟨0, 0⟩ "p" ⟨90, 0, 90⟩)
    let B := exec (nodeStep H) (new "gs-B") (oneEntity "b" ⟨1, 0⟩ "q" ⟨110, 0, 90⟩)
    let A' := nodeStep H A (.reconcileNeighborGhosts (some B.answer) "a" "b" (fun _ => 0)
      (fun _ => 0) [])
    A.gridOf "a" = some 0 ∧
      remoteGhostID "q" ∈ (A'.grids.cell 0).entitiesInRange ⟨90, 0, 90⟩ A'.aoiRadius := by
  intro H A B A'
  have hA : Along (nodeStep H) AnnouncedOnce (new "gs-A")
      (oneEntity "a" ⟨0, 0⟩ "p" ⟨90, 0, 90⟩) := by
    refine ⟨by simp [AnnouncedOnce, added, addedEntity], ?_, trivial⟩
    simp only [AnnouncedOnce, added, addedEntity, Option.map_some, Option.mem_some_iff]
    rintro id rfl
    unfold EndsInGhost
    decide +kernel
  refine ⟨by decide +kernel, ?_⟩
  exact (cross_zone_seen_iff H H "gs-A" "gs-B" _ _ hA "a" "b" _ _ _ _ rfl rfl rfl rfl "q" _ rfl
    (by decide +kernel) ⟨90, 0, 90⟩ (by decide +kernel) _ _ []).mpr (.inl (by decide +kernel))

/-- An entity at the far corner of its cell and one of a neighbour 200 away, well
within the radius of 300. The neighbour searches around the other corner, which
is more than 300 away, and does not name it. -/
theorem far_corner_not_covered :
    let H := Host.steady Vector3.zero
    let A := exec (nodeStep H) (new "gs-A") (oneEntity "a" ⟨0, 0⟩ "p" ⟨90, 0, 90⟩)
    let B := exec (nodeStep H) (new "gs-B") (oneEntity "b" ⟨2, 0⟩ "q" ⟨290, 0, 90⟩)
    let A' := nodeStep H A (.reconcileNeighborGhosts (some B.answer) "a" "b" (fun _ => 0)
      (fun _ => 0) [])
    (A.entityOf "p").map Entity.position = some ⟨90, 0, 90⟩ ∧
      (B.entityOf "q").map Entity.position = some ⟨290, 0, 90⟩ ∧
      distSq ⟨290, 0, 90⟩ ⟨90, 0, 90⟩ ≤ A'.aoiRadius * A'.aoiRadius ∧ A'.gridOf "a" = some 0 ∧
      (A'.grids.cell 0).entitiesInRange ⟨90, 0, 90⟩ A'.aoiRadius = ["p"] := by
  decide +kernel

end Game

end SpatialServer

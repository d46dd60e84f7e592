import SpatialServer.ReachableStores

/-!
# Replicas of neighbours

A zone keeps each entity that a neighbour has announced twice: in its replica
store, and under the name of a remote replica on its grid. Announcing enters the
name on the grid whether it is there or not, and everything else expects to find
it there once. As long as no announcement is repeated the store and the grid say
the same. Overdue entries go when the server asks the neighbour again; no tick
removes any.
-/
namespace SpatialServer

open Runs

namespace Replicas

/-- The grid has the remote replicas of the store, each once and where the store
says. -/
structure Mirrors (b : Replicas) : Prop where
  remote : RemoteOnly b.store
  held : ∀ gid e, b.store.get gid = some e → b.grid.Holds gid e.position
  lacks : ∀ gid, EndsInGhost gid → b.store.get gid = none → b.grid.Lacks gid

namespace Mirrors

variable {b b' : Replicas}

theorem fresh {a : AOI} (ha : ∀ x, a.Lacks x) : Mirrors ⟨a, ∅⟩ :=
  ⟨.empty, by simp, fun gid _ _ => ha gid⟩

theorem congr (h : Mirrors b) {a : AOI} (ha : ∀ gid, EndsInGhost gid → AOI.Agree gid b.grid a) :
    Mirrors ⟨a, b.store⟩ :=
  ⟨h.remote, fun gid e he => (ha gid (h.remote gid e he).1).holds (h.held gid e he),
    fun gid hgid hnone => (ha gid hgid).lacks (h.lacks gid hgid hnone)⟩

/-- An operation on one replica has to get that one right. -/
theorem alters (h : Mirrors b) {y : EntityID} (ha : Alters y b b')
    (hheld : ∀ e, b'.store.get (remoteGhostID y) = some e →
      b'.grid.Holds (remoteGhostID y) e.position)
    (hlacks : b'.store.get (remoteGhostID y) = none → b'.grid.Lacks (remoteGhostID y)) :
    Mirrors b' := by
  refine ⟨(RemoteStep.of_alters h.remote ha).remote, fun gid e he => ?_, fun gid hgid hnone => ?_⟩
  · by_cases heq : gid = remoteGhostID y
    · subst heq; exact hheld e he
    · rw [ha.store gid heq] at he
      exact (ha.grid gid heq).holds (h.held gid e he)
  · by_cases heq : gid = remoteGhostID y
    · subst heq; exact hlacks hnone
    · rw [ha.store gid heq] at hnone
      exact (ha.grid gid heq).lacks (h.lacks gid hgid hnone)

theorem lacks_remote (h : Mirrors b) {x : EntityID} (hnone : b.store.get (remoteGhostID x) = none) :
    b.grid.Lacks (remoteGhostID x) :=
  h.lacks _ ((endsInGhost_iff _).mpr ⟨x, rfl⟩) hnone

theorem enter (h : Mirrors b) {id : EntityID} (hnew : b.store.get (remoteGhostID id) = none)
    (zid : ZoneID) (pos : Vector3) (t : Time) : Mirrors (b.enter zid id pos t) := by
  refine h.alters (b.alters_enter zid id pos t) (fun e he => ?_) fun hnone => ?_
  · simp only [Replicas.enter, Dict.get_set_self] at he
    cases he
    exact (h.lacks_remote hnew).enter_holds pos
  · simp [Replicas.enter] at hnone

theorem leave (h : Mirrors b) (id : EntityID) : Mirrors (b.leave id) := by
  refine h.alters (b.alters_leave id) (fun e he => ?_) fun _ => ?_
  · simp [Replicas.leave] at he
  · cases hold : b.store.get (remoteGhostID id) with
    | some e => exact (h.held _ e hold).leave_lacks
    | none =>
      have hlacks := h.lacks_remote hold
      simpa [Replicas.leave, AOI.leave, hlacks.1] using hlacks

theorem update (h : Mirrors b) (id : EntityID) (pos : Vector3) (t : Time) :
    Mirrors (b.update id pos t) := by
  cases hentry : b.store.get (remoteGhostID id) with
  | none => simpa [Replicas.update, hentry] using h
  | some entry =>
    refine h.alters (alters_update h.remote id pos t) (fun e he => ?_) fun hnone => ?_
    · simp only [Replicas.update, hentry, Dict.get_set_self] at he ⊢
      cases he
      exact (h.held _ entry hentry).move_holds pos
    · simp [Replicas.update, hentry] at hnone

theorem refresh (h : Mirrors b) (zid : ZoneID) (n : NeighborEntity) (t : Time) :
    Mirrors (b.refresh zid n t) := by
  refine h.alters (b.alters_refresh zid n t) (fun e he => ?_) fun hnone => ?_
  · simp only [Replicas.refresh, Dict.get_set_self] at he ⊢
    cases he
    cases hold : b.store.get (remoteGhostID n.id) with
    | none => exact (h.lacks_remote hold).enter_holds n.pos
    | some e => exact (h.held _ e hold).move_holds n.pos
  · simp [Replicas.refresh] at hnone

theorem expire (h : Mirrors b) (seen : List EntityID) (now : EntityID → Time) (gid : EntityID) :
    Mirrors (Replicas.expire seen now b gid) := by
  obtain heq | ⟨x, e, -, -, -, -, heq⟩ := expire_cases h.remote seen now gid <;> rw [heq]
  · exact h
  · exact h.leave x

theorem reconcile (h : Mirrors b) (zid : ZoneID) (results : List NeighborEntity)
    (expiresAt : ℕ → Time) (now : EntityID → Time) (order : List EntityID) :
    Mirrors (b.reconcile zid results expiresAt now order) := by
  have hnamed := List.foldlRecOn (motive := Mirrors) results.zipIdx
    (fun b r => b.refresh zid r.1 (expiresAt r.2)) h fun b' hb' r _ => hb'.refresh zid r.1 _
  exact List.foldlRecOn (motive := Mirrors) _ _ hnamed
    fun b' hb' gid _ => hb'.expire _ now gid

theorem run (h : Mirrors b) (op : Op)
    (hnew : ∀ zid id pos t, op = .enter zid id pos t → b.store.get (remoteGhostID id) = none) :
    Mirrors (op.run b) := by
  cases op with
  | enter zid id pos t => exact h.enter (hnew zid id pos t rfl) zid pos t
  | leave id => exact h.leave id
  | update id pos t => exact h.update id pos t
  | reconcile zid results t now order => exact h.reconcile zid results t now order

/-- A range query on the grid is a range query on the store. -/
theorem mem_entitiesInRange_iff (h : Mirrors b) {radius : ℚ} (hcov : b.grid.Covers radius)
    (hr : 0 ≤ radius) {gid : EntityID} (hgid : EndsInGhost gid) (center : Vector3) :
    gid ∈ b.grid.entitiesInRange center radius ↔
      ∃ e, b.store.get gid = some e ∧ distSq e.position center ≤ radius * radius := by
  cases hget : b.store.get gid with
  | none => simpa [AOI.mem_entitiesInRange] using
      fun hmem => absurd hmem ((h.lacks gid hgid hget).not_mem_query center)
  | some e => simpa using (h.held gid e hget).mem_entitiesInRange_iff hcov hr center

/-- What the grid of a store can return under the names of remote replicas. -/
theorem exists_mem_query_iff (h : Mirrors b) {radius : ℚ} (hcov : b.grid.Covers radius)
    (hr : 0 ≤ radius) {gid : EntityID} (hgid : EndsInGhost gid) :
    (∃ pos, gid ∈ b.grid.query pos) ↔ (b.store.get gid).isSome := by
  constructor
  · rintro ⟨pos, hpos⟩
    by_contra hnone
    exact (h.lacks gid hgid (by simpa using hnone)).not_mem_query pos hpos
  · intro hsome
    obtain ⟨e, he⟩ := Option.isSome_iff_exists.mp hsome
    refine ⟨e.position, ((AOI.mem_entitiesInRange _ _ _ _).mp
      ((h.mem_entitiesInRange_iff hcov hr hgid e.position).mpr ⟨e, he, ?_⟩)).1⟩
    simp only [distSq, sub_self, mul_zero, add_zero]
    positivity

end Mirrors

end Replicas

namespace Store

/-- The grid of a zone that was assigned. -/
def assignedGrid (s : Store) (z : ZoneID) : Option ℕ :=
  (s.zones.get z).bind fun sim => sim.zone.map fun _ => sim.aoi

theorem assignedGrid_eq_some_iff (s : Store) (z : ZoneID) (ref : ℕ) :
    s.assignedGrid z = some ref ↔
      ∃ sim, s.zones.get z = some sim ∧ sim.zone.isSome ∧ sim.aoi = ref := by
  simp only [assignedGrid, Option.bind_eq_some_iff]
  refine exists_congr fun sim => and_congr_right fun _ => ?_
  cases sim.zone <;> simp

theorem assignedGrid_set {s s' : Store} {zid : ZoneID} {sim : ZoneSim}
    (hsim : s.zones.get zid = some sim) {entities : Dict EntityID ℕ}
    (hz : s'.zones = s.zones.set zid { sim with entities := entities }) (z : ZoneID) :
    s'.assignedGrid z = s.assignedGrid z := by
  rw [assignedGrid, hz, Dict.get_set, assignedGrid]
  split_ifs with hzid
  · subst z; simp [hsim]
  · rfl

/-- A zone made on demand is not assigned. -/
theorem assignedGrid_addEntity (s : Store) (e : Entity) (z : ZoneID) :
    (s.addEntity e).assignedGrid z = s.assignedGrid z := by
  obtain ⟨sim, hsim, heq⟩ := s.exists_addEntity_eq e
  have hensure : (s.ensureZone (targetZone e)).assignedGrid z = s.assignedGrid z := by
    unfold ensureZone
    split
    · rfl
    · next hnew =>
      simp only [assignedGrid, Dict.get_set]
      split_ifs with hz
      · subst z; simp [hnew]
      · rfl
  rw [← hensure, heq]
  exact assignedGrid_set hsim rfl z

/-- Apart from assignment and release, which zones are assigned does not change. -/
theorem assignedGrid_change (s : Store) {ch : Change} (hassign : ∀ z, ch ≠ .assignZone z)
    (hrelease : ∀ id, ch ≠ .releaseZone id) (z : ZoneID) :
    (s.change ch).assignedGrid z = s.assignedGrid z := by
  have hsame : ∀ s' : Store, s'.zones = s.zones → s'.assignedGrid z = s.assignedGrid z :=
    fun s' hz => by rw [assignedGrid, hz, assignedGrid]
  cases ch with
  | assignZone z => exact absurd rfl (hassign z)
  | releaseZone id => exact absurd rfl (hrelease id)
  | addEntity e => exact s.assignedGrid_addEntity e z
  | removeEntity id =>
    simp only [change, removeEntity]
    split
    · rfl
    · split
      · next sim hsim => exact assignedGrid_set hsim rfl z
      · rfl
  | relocate r e id => exact hsame _ (SameMaps.moveOnGrid _ _ _).zones
  | detect zid sim now id => exact hsame _ (SameMaps.detectEntity _ _ _ _ _).zones
  | sweepGhost now id => exact hsame _ (SameMaps.sweepGhost _ _ _).zones
  | rewrite r e => rfl
  | see id state => rfl
  | expire id =>
    simp only [change, expire]
    split
    · split <;> rfl
    · rfl

end Store

/-- The state of the remote replicas of all assigned zones. -/
structure RemoteGhosts (s : Store) : Prop where
  sound : Sound s
  plain : ∀ id, (s.entities.get id).isSome → ¬ EndsInGhost id
  mirrors : ∀ z ref store, s.assignedGrid z = some ref → s.ghostStore.get z = some store →
    Replicas.Mirrors ⟨s.grids.cell ref, store⟩

namespace RemoteGhosts

variable {s : Store}

theorem empty : RemoteGhosts Store.empty :=
  ⟨Sound.empty, by simp [Store.empty], by simp [Store.empty, Store.assignedGrid]⟩

theorem index_of_assigned (h : Housed s) {z : ZoneID} {ref : ℕ} (href : s.assignedGrid z = some ref) :
    s.aoiIndex.get z = some ref := by
  obtain ⟨sim, hsim, hzone, rfl⟩ := (s.assignedGrid_eq_some_iff z ref).mp href
  exact h.assigned z sim hsim hzone

/-- No call of the server itself touches a remote replica. -/
theorem not_touches (h : RemoteGhosts s) {g : Game} {c : Call} {ch : Change}
    (hch : g.Entitled c s ch) (hadd : ∀ e, ch = .addEntity e → ¬ EndsInGhost e.id)
    {gid : EntityID} (hgid : EndsInGhost gid) : ¬ s.Touches ch gid := by
  have hlive : ∀ id, (s.entityZone.get id).isSome → gid ≠ id := by
    rintro id hsome rfl
    rw [h.sound.named.keys_zone] at hsome
    exact h.plain _ hsome hgid
  have hlocal : ∀ y, gid ≠ localGhostID y := by
    obtain ⟨x, rfl⟩ := (endsInGhost_iff gid).mp hgid
    exact remoteGhostID_ne_localGhostID x
  intro ht
  cases ch with
  | addEntity e => exact hadd e rfl (ht ▸ hgid)
  | removeEntity id => exact hlive id ht.2 ht.1
  | expire id => exact hlive id ht.2 ht.1
  | relocate r e id =>
    obtain ⟨key, hkey, hid, hname⟩ := hch
    have hsame : id = key := by
      rcases hname with rfl | rfl
      · rfl
      · exact hid.trans (h.sound.named.object key r hkey).2
    have heq : gid = key := Eq.trans ht hsame
    exact h.plain key (by simp [hkey]) (heq ▸ hgid)
  | detect zid sim now id => exact hlocal id ht.1
  | sweepGhost now id =>
    obtain ⟨rfl, gh, hgh, -⟩ := ht
    exact hlocal gh.entityID (h.sound.replicas _ gh hgh)
  | assignZone z => exact ht
  | releaseZone z => exact ht
  | rewrite r e => exact ht
  | see id state => exact ht

theorem change (h : RemoteGhosts s) {g : Game} {c : Call} {ch : Change} (hch : g.Entitled c s ch)
    (hadd : ∀ e, ch = .addEntity e → ¬ EndsInGhost e.id) : RemoteGhosts (s.change ch) := by
  constructor
  case sound => exact h.sound.change hch
  case plain =>
    intro id hid
    obtain hold | ⟨e, he, rfl⟩ := Store.isSome_entities_change hid
    · exact h.plain id hold
    · exact hadd e he
  case mirrors =>
    intro z ref store href hstore
    by_cases hassign : ∃ y, ch = .assignZone y
    · obtain ⟨y, rfl⟩ := hassign
      simp only [Store.change, Store.assignZone] at href hstore ⊢
      split_ifs at href hstore ⊢ with hex
      · exact h.mirrors z ref store href hstore
      · simp only [Except.toOption, Option.getD_some, Store.assignedGrid, Dict.get_set]
          at href hstore ⊢
        split_ifs at href hstore
        · cases href
          cases hstore
          rw [Heap.cell_alloc_next]
          exact .fresh (AOI.new_lacks _ _)
        · have hlt := h.sound.housed.index_lt z ref (index_of_assigned h.sound.housed href)
          rw [Heap.cell_alloc_of_lt _ _ hlt]
          exact h.mirrors z ref store href hstore
    · by_cases hrelease : ∃ id, ch = .releaseZone id
      · obtain ⟨id, rfl⟩ := hrelease
        simp only [Store.change, Store.releaseZone] at href hstore ⊢
        split_ifs at href hstore ⊢
        · exact h.mirrors z ref store href hstore
        · simp only [Except.toOption, Option.getD_some, Store.assignedGrid, Dict.get_del]
            at href hstore ⊢
          split_ifs at href hstore
          exact h.mirrors z ref store href hstore
      · have hassign : ∀ y, ch ≠ .assignZone y := fun y heq => hassign ⟨y, heq⟩
        have hrelease : ∀ id, ch ≠ .releaseZone id := fun id heq => hrelease ⟨id, heq⟩
        rw [s.assignedGrid_change hassign hrelease] at href
        rw [s.ghostStore_change hassign hrelease] at hstore
        have hlt := h.sound.housed.index_lt z ref (index_of_assigned h.sound.housed href)
        exact (h.mirrors z ref store href hstore).congr fun gid hgid =>
          (Store.undisturbed_change (h.not_touches hch hadd hgid) hrelease).old ref hlt

/-- Working on the replicas of one zone leaves those of the others alone. -/
theorem onReplicas (h : RemoteGhosts s) (zid : ZoneID) (op : Replicas.Op)
    (hnew : ∀ zid' id pos t, op = .enter zid' id pos t → ∀ store,
      s.ghostStore.get zid = some store → store.get (remoteGhostID id) = none) :
    RemoteGhosts (s.onReplicas zid op.run) := by
  have hsound := h.sound.onReplicas zid op
  unfold Store.onReplicas at hsound ⊢
  split at hsound
  · next ref old hindex hold =>
    refine ⟨hsound, h.plain, fun z ref' store href hstore => ?_⟩
    have hindex' := index_of_assigned h.sound.housed href
    by_cases hz : z = zid
    · subst hz
      obtain rfl : ref = ref' := Option.some.inj (hindex.symm.trans hindex')
      simp only [Dict.get_set_self] at hstore
      cases hstore
      simpa using (h.mirrors z ref old href hold).run op fun zid' id pos t heq =>
        hnew zid' id pos t heq old hold
    · have hne : ref' ≠ ref := by
        rintro rfl
        exact hz (h.sound.housed.index_inj z zid ref' hindex' hindex)
      simp only [Dict.get_set_ne _ _ hz] at hstore
      simpa [hne] using h.mirrors z ref' store href hstore
  · exact h

theorem openIndex (h : RemoteGhosts s) (zid : ZoneID) (state : Option SerializedAOI)
    (order : List EntityID) : RemoteGhosts (s.openIndex zid state order) := by
  have hsound := h.sound.openIndex zid state order
  unfold Store.openIndex at hsound ⊢
  split at hsound
  · exact h
  · next hnone =>
    refine ⟨hsound, h.plain, fun z ref store href hstore => ?_⟩
    have hindex := index_of_assigned h.sound.housed href
    have hz : z ≠ zid := by
      rintro rfl
      rw [hnone] at hindex
      cases hindex
    simp only [Dict.get_set_ne _ _ hz] at hstore
    rw [Heap.cell_alloc_of_lt _ _ (h.sound.housed.index_lt z ref hindex)]
    exact h.mirrors z ref store href hstore

end RemoteGhosts

namespace Game

/-- Nobody is added under the name of a remote replica, and an entity that is
announced has not been announced before, or has been withdrawn since. -/
def AnnouncedOnce (g : Game) : NodeCall → Prop
  | .own c => ∀ id ∈ g.added c, ¬ EndsInGhost id
  | .applyEntityEnter zid id _ _ _ =>
    ∀ store, g.ghostStore.get zid = some store → store.get (remoteGhostID id) = none
  | _ => True

theorem remoteGhosts_nodeStep (H : Host) {g : Game} {c : NodeCall} (h : RemoteGhosts g.toStore)
    (hc : g.AnnouncedOnce c) : RemoteGhosts (nodeStep H g c).toStore := by
  obtain ⟨c, rfl⟩ | ⟨zid, state, order, rfl⟩ | heq | ⟨zid, op, heq, henter⟩ := nodeStep_cases H g c
  · refine store_invariant H (fun s ch hs hch => hs.change hch ?_) h
    rintro e rfl
    exact hc e.id (by simp [added, show g.addedEntity c = some e from hch])
  · exact h.openIndex zid state order
  · rw [heq]
    exact h
  · rw [heq]
    refine h.onReplicas zid op fun zid' id pos t hop => ?_
    obtain ⟨type, now, rfl⟩ := henter zid' id pos t hop
    exact hc

theorem remoteGhosts_exec (H : Host) (sid : ServerID) {calls : List NodeCall}
    (hrun : Along (nodeStep H) AnnouncedOnce (new sid) calls) :
    RemoteGhosts (exec (nodeStep H) (new sid) calls).toStore :=
  exec_invariant (fun g => RemoteGhosts g.toStore) (fun _ _ hg hc => remoteGhosts_nodeStep H hg hc)
    RemoteGhosts.empty hrun

/-- No part of a tick looks at the replicas of neighbours. -/
theorem ghostStore_tickBounded (n m : ℕ) (H : Host) (inp : TickInput) (g : Game) :
    (tickBounded n m H inp g).ghostStore = g.ghostStore := by
  have hstep : ∀ (g' : Game) (c : Call), g'.ghostStore = g.ghostStore →
      ((∀ z, c ≠ .assignZone z) ∧ ∀ id, c ≠ .releaseZone id) →
      (step H g' c).ghostStore = g.ghostStore := by
    intro g' c hg' hc
    refine store_invariant (I := fun s => s.ghostStore = g.ghostStore) H
      (fun s ch hs hch => (s.ghostStore_change ?_ ?_).trans hs) hg'
    · rintro z rfl
      exact hc.1 z hch
    · rintro id rfl
      exact hc.2 id hch
  have hexec : ∀ cs : List Call, (∀ c ∈ cs, (∀ z, c ≠ .assignZone z) ∧ ∀ id, c ≠ .releaseZone id) →
      (exec (step H) g cs).ghostStore = g.ghostStore := fun cs hcs =>
    exec_invariant (fun g' : Game => g'.ghostStore = g.ghostStore) hstep rfl
      (Along.of_forall_mem fun _ => hcs)
  rw [tickBounded_eq_exec]
  apply hexec
  intro c hmem
  simp only [tickHead, tickTail, List.mem_append, List.mem_cons, List.mem_replicate,
    List.mem_flatMap, List.not_mem_nil, or_false] at hmem
  constructor
  · rintro z rfl
    simp at hmem
  · rintro id rfl
    simp at hmem

theorem ghostStore_tick (H : Host) (inp : TickInput) (g : Game) :
    (tick H inp g).ghostStore = g.ghostStore :=
  ghostStore_tickBounded _ _ H inp g

/-- Some entry of the zone's replica store is past its expiry. -/
def Overdue (g : Game) (z : ZoneID) (now : Time) : Prop :=
  ∃ store gid e, g.ghostStore.get z = some store ∧ store.get gid = some e ∧ e.expiresAt < now

/-- If no announcement is repeated, the names of remote replicas that a query on
the grid of an assigned zone can return are those in its replica store, each at
its stored position. A tick leaves no overdue entry exactly if it finds none. -/
theorem remote_ghosts_track_store (H : Host) (sid : ServerID) (calls : List NodeCall)
    (hrun : Along (nodeStep H) AnnouncedOnce (new sid) calls) (z : ZoneID) (sim : ZoneSim)
    (hsim : (exec (nodeStep H) (new sid) calls).zones.get z = some sim)
    (hassigned : sim.zone.isSome) :
    let g := exec (nodeStep H) (new sid) calls
    ∃ store, g.ghostStore.get z = some store ∧
      (∀ gid, EndsInGhost gid →
        ((∃ pos, gid ∈ (g.grids.cell sim.aoi).query pos) ↔ (store.get gid).isSome)) ∧
      (∀ gid e, store.get gid = some e →
        EndsInGhost gid ∧ (g.grids.cell sim.aoi).positionOf gid = e.position) ∧
      ∀ inp now, ¬ (tick H inp g).Overdue z now ↔ ¬ g.Overdue z now := by
  intro g
  have h := remoteGhosts_exec H sid hrun
  have hindex := h.sound.housed.assigned z sim hsim hassigned
  obtain ⟨store, hstore⟩ := h.sound.housed.exists_store hindex
  have hmirrors := h.mirrors z sim.aoi store
    ((g.assignedGrid_eq_some_iff z sim.aoi).mpr ⟨sim, hsim, hassigned, rfl⟩) hstore
  refine ⟨store, hstore, fun gid hgid => ?_, fun gid e he => ⟨?_, ?_⟩, fun inp now => ?_⟩
  · exact hmirrors.exists_mem_query_iff (h.sound.housed.own_grids.covers z sim hsim)
      h.sound.housed.radius_nonneg hgid
  · exact (hmirrors.remote gid e he).1
  · exact congrArg (Option.getD · Vector3.zero) (hmirrors.held gid e he).1
  · simp only [Overdue, ghostStore_tick]

/-- One announcement and one withdrawal. -/
theorem remote_ghosts_track_store_once :
    let H := Host.steady Vector3.zero
    let calls : List NodeCall := [.own (.assignZone ⟨"z1", "", ⟨0, 0⟩, 100⟩),
      .applyEntityEnter "z1" "e1" "player" Vector3.zero 0, .applyEntityLeave "z1" "e1"]
    let g := exec (nodeStep H) (new "gs-1") calls
    ∃ sim store, g.zones.get "z1" = some sim ∧ g.ghostStore.get "z1" = some store ∧
      (∀ gid, EndsInGhost gid →
        ((∃ pos, gid ∈ (g.grids.cell sim.aoi).query pos) ↔ (store.get gid).isSome)) ∧
      (∀ gid e, store.get gid = some e →
        EndsInGhost gid ∧ (g.grids.cell sim.aoi).positionOf gid = e.position) ∧
      ∀ inp now, ¬ (tick H inp g).Overdue "z1" now ↔ ¬ g.Overdue "z1" now := by
  intro H calls g
  have hrun : Along (nodeStep H) AnnouncedOnce (new "gs-1") calls := by
    refine ⟨by simp [AnnouncedOnce, added, addedEntity], fun store hstore => ?_, trivial, trivial⟩
    cases hstore
    rfl
  obtain ⟨store, hstore, htracks⟩ :=
    remote_ghosts_track_store H "gs-1" calls hrun "z1" _ rfl rfl
  exact ⟨_, store, rfl, hstore, htracks⟩

/-- An announcement that arrives twice and is withdrawn leaves a replica on the
grid that the store does not know. An announcement that is never withdrawn is
still in the store after a tick that runs later than its expiry. -/
theorem repeated_announcement_leaves_ghost :
    let H := Host.steady Vector3.zero
    let assign : NodeCall := .own (.assignZone ⟨"z1", "", ⟨0, 0⟩, 100⟩)
    let enter : NodeCall := .applyEntityEnter "z1" "e1" "player" Vector3.zero 0
    let g := exec (nodeStep H) (new "gs-1") [assign, enter, enter, .applyEntityLeave "z1" "e1"]
    let g' := exec (nodeStep H) (new "gs-1") [assign, enter]
    (g.ghostStore.get "z1").map AList.keys = some [] ∧ g.assignedGrid "z1" = some 0 ∧
      "e1@ghost" ∈ (g.grids.cell 0).query Vector3.zero ∧
      (tick H (.reading (31 * second)) g').Overdue "z1" (31 * second) := by
  intro H assign enter g g'
  refine ⟨by decide +kernel, by decide +kernel, by decide +kernel, ?_⟩
  have hexpiry : ((g'.ghostStore.get "z1").bind fun store => store.get "e1@ghost").map
      GhostEntry.expiresAt = some (30 * second) := by decide +kernel
  obtain ⟨e, he, hexpires⟩ := Option.map_eq_some_iff.mp hexpiry
  obtain ⟨store, hstore, hget⟩ := Option.bind_eq_some_iff.mp he
  simp only [Overdue, ghostStore_tick]
  exact ⟨store, "e1@ghost", e, hstore, hget, by rw [hexpires]; decide⟩

end Game

end SpatialServer

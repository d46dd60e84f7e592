import SpatialServer.CrossZone
import SpatialServer.TickOrder

/-!
# Replicas and the entities they are replicas of

When an entity moves to the zone of a neighbour that has a replica of it, the
replica is to become the entity. Arrival adds the entity to the zone and does not
look at the replica store; announcement and reconciliation fill the replica store
and do not look at the entities. So a zone has both copies as soon as one of them
comes while the other is there, in whichever order, and no call that brings
neither makes a second copy.
-/
namespace SpatialServer

open Runs

/-! ## Whom a replica store names -/

namespace Replicas

/-- Entries are kept under the names of the replicas of their entities. -/
def Keyed (store : Dict EntityID GhostEntry) : Prop :=
  ∀ gid e, store.get gid = some e → gid = remoteGhostID e.entityID

namespace Keyed

variable {b : Replicas} {store : Dict EntityID GhostEntry}

theorem empty : Keyed ∅ := by simp [Keyed]

theorem set (h : Keyed store) (id : EntityID) {entry : GhostEntry} (hentry : entry.entityID = id) :
    Keyed (store.set (remoteGhostID id) entry) := by
  intro gid e he
  rw [Dict.get_set] at he
  split_ifs at he with hgid
  · cases he
    rw [hgid, hentry]
  · exact h gid e he

theorem del (h : Keyed store) (x : EntityID) : Keyed (store.del x) := by
  intro gid e he
  rw [Dict.get_del] at he
  split_ifs at he
  exact h gid e he

theorem refresh (h : Keyed b.store) (zid : ZoneID) (n : NeighborEntity) (t : Time) :
    Keyed (b.refresh zid n t).store := h.set n.id rfl

theorem expire (h : Keyed b.store) (seen : List EntityID) (now : EntityID → Time)
    (gid : EntityID) : Keyed (expire seen now b gid).store := by
  unfold Replicas.expire
  split
  · exact h
  · split_ifs
    · exact h
    · exact h.del gid
    · exact h

theorem run (h : Keyed b.store) (op : Op) : Keyed (op.run b).store := by
  cases op with
  | enter zid id pos t => exact h.set id rfl
  | leave id => exact h.del _
  | update id pos t =>
    simp only [Op.run, update]
    split
    · exact h
    · next entry hentry =>
      exact h.set id (remoteGhostID_injective (h _ entry hentry)).symm
  | reconcile zid results t now order =>
    have hnamed := List.foldlRecOn (motive := fun b : Replicas => Keyed b.store) results.zipIdx
      (fun b r => b.refresh zid r.1 (t r.2)) h fun _ hb r _ => hb.refresh zid r.1 _
    exact List.foldlRecOn (motive := fun b : Replicas => Keyed b.store) _ _ hnamed
      fun _ hb gid _ => hb.expire _ now gid

theorem exists_entry_iff (h : Keyed store) (id : EntityID) :
    (∃ gid e, store.get gid = some e ∧ e.entityID = id) ↔
      (store.get (remoteGhostID id)).isSome := by
  constructor
  · rintro ⟨gid, e, he, rfl⟩
    rw [← h gid e he, he]
    rfl
  · intro hsome
    obtain ⟨e, he⟩ := Option.isSome_iff_exists.mp hsome
    exact ⟨_, e, he, (remoteGhostID_injective (h _ e he)).symm⟩

end Keyed

/-- The entities whose replicas an operation makes or renews. -/
def Op.names : Op → List EntityID
  | .enter _ id _ _ => [id]
  | .reconcile _ results _ _ _ => results.map NeighborEntity.id
  | _ => []

variable {b : Replicas} {x : EntityID}

theorem isSome_run_of_mem_names (h : RemoteOnly b.store) {op : Op} (hx : x ∈ op.names) :
    ((op.run b).store.get (remoteGhostID x)).isSome := by
  cases op with
  | enter zid id pos t =>
    obtain rfl : x = id := List.mem_singleton.mp hx
    simp [Op.run, enter]
  | leave id => cases hx
  | update id pos t => cases hx
  | reconcile zid results t now order =>
    obtain ⟨e, he, -⟩ := exists_entry_reconcile h zid t now order (fun _ => True)
      (fun _ _ _ _ => trivial) (List.mem_map.mp hx)
    exact Option.isSome_iff_exists.mpr ⟨e, he⟩

/-- An operation makes replicas of those it names and of nobody else. -/
theorem isSome_of_isSome_run (h : RemoteOnly b.store) {op : Op} (hx : x ∉ op.names)
    (hrun : ((op.run b).store.get (remoteGhostID x)).isSome) :
    (b.store.get (remoteGhostID x)).isSome := by
  cases op with
  | enter zid id pos t =>
    have hne : remoteGhostID x ≠ remoteGhostID id := fun heq =>
      hx (List.mem_singleton.mpr (remoteGhostID_injective heq))
    rwa [Op.run, (b.alters_enter zid id pos t).store _ hne] at hrun
  | leave id =>
    simp only [Op.run, leave, Dict.get_del] at hrun
    split_ifs at hrun
    · cases hrun
    · exact hrun
  | update id pos t =>
    by_cases hid : remoteGhostID x = remoteGhostID id
    · cases hentry : b.store.get (remoteGhostID id) with
      | none => simpa [Op.run, update, hentry] using hrun
      | some entry => rw [hid, hentry]; rfl
    · rwa [Op.run, (alters_update h id pos t).store _ hid] at hrun
  | reconcile zid results t now order =>
    rw [Op.run, store_reconcile_of_not_named h zid results t now order fun n hn hid =>
      hx (List.mem_map.mpr ⟨n, hn, hid⟩)] at hrun
    obtain ⟨e, he⟩ := Option.isSome_iff_exists.mp hrun
    rw [(Option.filter_eq_some_iff.mp he).1]
    rfl

end Replicas

/-! ## Two copies in one zone -/

namespace Store

/-- Some entry of the zone's replica store is for the entity. -/
def Replicates (s : Store) (z : ZoneID) (id : EntityID) : Prop :=
  ∃ store gid e, s.ghostStore.get z = some store ∧ store.get gid = some e ∧ e.entityID = id

/-- No assigned zone has an entity and a replica of it. -/
def Apart (s : Store) : Prop :=
  ∀ z id, (s.assignedGrid z).isSome → s.hasMember z id → ¬ s.Replicates z id

/-- All entries of all replica stores are under the right names. -/
def ReplicasKeyed (s : Store) : Prop :=
  ∀ z store, s.ghostStore.get z = some store → Replicas.Keyed store

variable {s : Store}

theorem hasMember_congr {s' : Store} (h : s'.zones = s.zones) (z : ZoneID) (id : EntityID) :
    s'.hasMember z id = s.hasMember z id := by
  rw [hasMember, h, hasMember]

theorem hasMember_addEntity_self (s : Store) (e : Entity) :
    (s.addEntity e).hasMember (targetZone e) e.id := by
  obtain ⟨sim, hsim, heq⟩ := s.exists_addEntity_eq e
  rw [heq]
  simp [hasMember, placeEntity, deriveSpace_id]

/-- Only an addition gives a zone a member. -/
theorem hasMember_change {ch : Change} (hadd : ∀ e, ch ≠ .addEntity e) {z : ZoneID} {id : EntityID}
    (h : (s.change ch).hasMember z id) : s.hasMember z id := by
  cases ch with
  | addEntity e => exact absurd rfl (hadd e)
  | assignZone y =>
    simp only [change, assignZone] at h
    split_ifs at h
    · exact h
    · obtain ⟨sim, hsim, hid⟩ := hasMember_iff.mp h
      simp only [Except.toOption, Option.getD_some, Dict.get_set] at hsim
      split_ifs at hsim
      · cases hsim
        simp at hid
      · exact hasMember_iff.mpr ⟨sim, hsim, hid⟩
  | releaseZone y =>
    simp only [change, releaseZone] at h
    split_ifs at h
    · exact h
    · obtain ⟨sim, hsim, hid⟩ := hasMember_iff.mp h
      simp only [Except.toOption, Option.getD_some, Dict.get_del] at hsim
      split_ifs at hsim
      exact hasMember_iff.mpr ⟨sim, hsim, hid⟩
  | removeEntity x => exact hasMember_removeEntity h
  | relocate r e x =>
    exact hasMember_congr (SameMaps.moveOnGrid (s.setObject r e) _ _).zones z id ▸ h
  | detect zid sim now x => exact hasMember_congr (SameMaps.detectEntity _ _ _ _ _).zones z id ▸ h
  | sweepGhost now x => exact hasMember_congr (SameMaps.sweepGhost _ _ _).zones z id ▸ h
  | rewrite r e => exact h
  | see x state => exact h
  | expire x =>
    refine hasMember_congr ?_ z id ▸ h
    simp only [change, expire]
    split
    · split <;> rfl
    · rfl

/-- A zone that is assigned had no members before, or was assigned. -/
theorem assignedGrid_of_hasMember {ch : Change} {z : ZoneID} {id : EntityID}
    (hmember : s.hasMember z id) (h : ((s.change ch).assignedGrid z).isSome) :
    (s.assignedGrid z).isSome := by
  by_cases hassign : ∃ y, ch = .assignZone y
  · obtain ⟨y, rfl⟩ := hassign
    simp only [change, assignZone] at h
    split_ifs at h with hex
    · exact h
    · obtain ⟨sim, hsim, -⟩ := hasMember_iff.mp hmember
      have hz : z ≠ y.id := by
        rintro rfl
        simp [hsim] at hex
      simpa [Except.toOption, assignedGrid, hz] using h
  · by_cases hrelease : ∃ y, ch = .releaseZone y
    · obtain ⟨y, rfl⟩ := hrelease
      simp only [change, releaseZone] at h
      split_ifs at h
      · exact h
      · simp only [Except.toOption, Option.getD_some, assignedGrid, Dict.get_del] at h
        split_ifs at h
        · simp at h
        · exact h
    · rwa [s.assignedGrid_change (fun y heq => hassign ⟨y, heq⟩)
        fun y heq => hrelease ⟨y, heq⟩] at h

theorem replicates_change {ch : Change} {z : ZoneID} {id : EntityID}
    (h : (s.change ch).Replicates z id) : s.Replicates z id := by
  obtain ⟨store, gid, e, hstore, he, hid⟩ := h
  obtain hold | rfl := ghostStore_change_cases hstore
  · exact ⟨store, gid, e, hold, he, hid⟩
  · simp at he

theorem replicates_addEntity (s : Store) (e : Entity) (z : ZoneID) (id : EntityID) :
    (s.addEntity e).Replicates z id ↔ s.Replicates z id := by
  have hsame : (s.change (.addEntity e)).ghostStore = s.ghostStore :=
    s.ghostStore_change (fun _ heq => nomatch heq) fun _ heq => nomatch heq
  change (s.change (.addEntity e)).Replicates z id ↔ _
  rw [Replicates, hsame, Replicates]

/-! ## What each call does to the copies -/

theorem ReplicasKeyed.change (h : s.ReplicasKeyed) (ch : Change) : (s.change ch).ReplicasKeyed := by
  intro z store hstore
  obtain hold | rfl := ghostStore_change_cases hstore
  · exact h z store hold
  · exact .empty

theorem ReplicasKeyed.onReplicas (h : s.ReplicasKeyed) (zid : ZoneID) (op : Replicas.Op) :
    (s.onReplicas zid op.run).ReplicasKeyed := by
  unfold Store.onReplicas
  split
  · next ref old _ hold =>
    intro z store hstore
    simp only [Dict.get_set] at hstore
    split_ifs at hstore
    · cases hstore
      exact (h zid old hold).run (b := ⟨s.grids.cell ref, old⟩) op
    · exact h z store hstore
  · exact h

theorem ReplicasKeyed.openIndex (h : s.ReplicasKeyed) (zid : ZoneID) (state : Option SerializedAOI)
    (order : List EntityID) : (s.openIndex zid state order).ReplicasKeyed := by
  unfold Store.openIndex
  split
  · exact h
  · intro z store hstore
    simp only [Dict.get_set] at hstore
    split_ifs at hstore
    · cases hstore
      exact .empty
    · exact h z store hstore

namespace Apart

theorem empty : Apart Store.empty := by
  intro z id hassigned
  simp [assignedGrid, Store.empty] at hassigned

theorem change (h : s.Apart) {ch : Change} (hadd : ∀ e, ch ≠ .addEntity e) :
    (s.change ch).Apart := by
  intro z id hassigned hmember hcopy
  have hold := hasMember_change hadd hmember
  exact h z id (assignedGrid_of_hasMember hold hassigned) hold (replicates_change hcopy)

theorem addEntity_iff (h : s.Apart) (e : Entity) :
    (s.addEntity e).Apart ↔
      ((s.assignedGrid (targetZone e)).isSome → ¬ s.Replicates (targetZone e) e.id) := by
  simp only [Apart, s.assignedGrid_addEntity, replicates_addEntity]
  constructor
  · intro h' hassigned
    exact h' _ _ hassigned (s.hasMember_addEntity_self e)
  · intro hnew z id hassigned hmember
    obtain hold | ⟨rfl, rfl⟩ := hasMember_addEntity hmember
    · exact h z id hassigned hold
    · exact hnew hassigned

theorem openIndex (h : s.Apart) (zid : ZoneID) (state : Option SerializedAOI)
    (order : List EntityID) : (s.openIndex zid state order).Apart := by
  unfold Store.openIndex
  split
  · exact h
  · rintro z id hassigned hmember ⟨store, gid, e, hstore, he, hid⟩
    simp only [Dict.get_set] at hstore
    split_ifs at hstore
    · cases hstore
      simp at he
    · exact h z id hassigned hmember ⟨store, gid, e, hstore, he, hid⟩

/-- Making replicas is safe exactly if none of them is of a member of the zone. -/
theorem onReplicas_iff (h : s.Apart) (hs : Sound s) (hkeys : s.ReplicasKeyed) (zid : ZoneID)
    (op : Replicas.Op) :
    (s.onReplicas zid op.run).Apart ↔
      ((s.assignedGrid zid).isSome → ∀ id ∈ op.names, ¬ s.hasMember zid id) := by
  have hkeys' := hkeys.onReplicas zid op
  unfold Store.onReplicas at hkeys' ⊢
  split at hkeys'
  · next ref old hindex hold =>
    have hremote := hs.remote zid old hold
    have hrun := hkeys' zid _ (Dict.get_set_self _ _ _)
    constructor
    · intro h' hassigned id hid hmember
      obtain ⟨gid, e, he, hfor⟩ := (hrun.exists_entry_iff id).mpr
        (Replicas.isSome_run_of_mem_names (b := ⟨s.grids.cell ref, old⟩) hremote hid)
      exact h' zid id hassigned hmember ⟨_, gid, e, Dict.get_set_self _ _ _, he, hfor⟩
    · rintro hnew z id hassigned hmember ⟨store, gid, e, hstore, he, hfor⟩
      by_cases hz : z = zid
      · subst hz
        simp only [Dict.get_set_self, Option.some.injEq] at hstore
        subst hstore
        have hnamed : id ∉ op.names := fun hid => hnew hassigned id hid hmember
        obtain ⟨gid, e, he, hfor⟩ := ((hkeys z old hold).exists_entry_iff id).mpr
          (Replicas.isSome_of_isSome_run hremote hnamed
            ((hrun.exists_entry_iff id).mp ⟨gid, e, he, hfor⟩))
        exact h z id hassigned hmember ⟨old, gid, e, hold, he, hfor⟩
      · simp only [Dict.get_set_ne _ _ hz] at hstore
        exact h z id hassigned hmember ⟨store, gid, e, hstore, he, hfor⟩
  · -- an assigned zone has an index and a replica store
    next hnone =>
    refine iff_of_true h fun hassigned => ?_
    obtain ⟨ref, href⟩ := Option.isSome_iff_exists.mp hassigned
    have hindex := RemoteGhosts.index_of_assigned hs.housed href
    obtain ⟨store, hstore⟩ := hs.housed.exists_store hindex
    exact absurd hstore (hnone ref store hindex)

end Apart

end Store

/-! ## Runs -/

namespace Game

/-- Whoever is added to an assigned zone has no replica there, and whoever is
announced to it, or named by the neighbour it asks, is not a member. -/
def KeepsApart (g : Game) : NodeCall → Prop
  | .own c => ∀ e, g.addedEntity c = some e →
    (g.assignedGrid (Store.targetZone e)).isSome → ¬ g.Replicates (Store.targetZone e) e.id
  | .applyEntityEnter zid id _ _ _ => (g.assignedGrid zid).isSome → ¬ g.hasMember zid id
  | .reconcileNeighborGhosts querier owner neighbor _ _ _ =>
    ∀ q zone, querier = some q → (g.zones.get owner).bind ZoneSim.zone = some zone →
      ∀ n ∈ q neighbor zone.grid.x zone.grid.y g.aoiRadius, ¬ g.hasMember owner n.id
  | _ => True

theorem replicasKeyed_nodeStep (H : Host) {g : Game} (h : g.ReplicasKeyed) (c : NodeCall) :
    (nodeStep H g c).ReplicasKeyed := by
  obtain ⟨c, rfl⟩ | ⟨zid, state, order, rfl⟩ | heq | ⟨zid, op, heq, -⟩ := nodeStep_cases H g c
  · exact store_invariant H (fun s ch hs _ => hs.change ch) h
  · exact h.openIndex zid state order
  · rwa [heq]
  · rw [heq]
    exact h.onReplicas zid op

theorem apart_nodeStep_iff (H : Host) {g : Game} (h : g.Apart) (hs : Sound g.toStore)
    (hkeys : g.ReplicasKeyed) (c : NodeCall) : (nodeStep H g c).Apart ↔ g.KeepsApart c := by
  cases c with
  | own c =>
    cases hadd : g.addedEntity c with
    | none =>
      refine iff_of_true (store_invariant H (fun s ch hs hch => hs.change fun e he => ?_) h)
        (by simp [KeepsApart, hadd])
      subst he
      simp [Entitled, hadd] at hch
    | some e =>
      simp only [nodeStep, toStore_step_of_added H hadd, h.addEntity_iff, KeepsApart, hadd,
        Option.some.injEq, forall_eq']
  | openIndex zid state order => exact iff_of_true (h.openIndex zid state order) trivial
  | applyEntityEnter zid id type pos now =>
    refine (h.onReplicas_iff hs hkeys zid (.enter zid id pos (now + g.ghostTTL * 6))).trans ?_
    simp [Replicas.Op.names, KeepsApart]
  | applyEntityLeave zid id =>
    refine (h.onReplicas_iff hs hkeys zid (.leave id)).trans ?_
    simp [Replicas.Op.names, KeepsApart]
  | applyEntityUpdate zid id pos now =>
    refine (h.onReplicas_iff hs hkeys zid (.update id pos (now + g.ghostTTL * 6))).trans ?_
    simp [Replicas.Op.names, KeepsApart]
  | reconcileNeighborGhosts querier owner neighbor stamp now order =>
    simp only [nodeStep, onStore, Store.reconcileNeighborGhosts, KeepsApart]
    split
    · next zone q hzone =>
      have hassigned : (g.assignedGrid owner).isSome := by
        obtain ⟨sim, hsim, hsome⟩ := Option.bind_eq_some_iff.mp hzone
        simp [Store.assignedGrid, hsim, hsome]
      refine (h.onReplicas_iff hs hkeys owner (.reconcile neighbor
        (q neighbor zone.grid.x zone.grid.y g.aoiRadius) (fun i => stamp i + g.ghostTTL * 6) now
        order)).trans ?_
      simp [hassigned, Replicas.Op.names, hzone]
    · next hnone =>
      refine iff_of_true h fun q zone hq hzone => ?_
      exact absurd hq (hnone zone q hzone)

/-- After no part of a run does an assigned zone have an entity together with a
replica of it, exactly if every entity that is added finds no replica of itself
there and no replica is made of a member. A tick is a run of the server's own
calls, so this covers the states inside of it. -/
theorem ghost_becomes_entity_iff (H : Host) (sid : ServerID) (calls : List NodeCall) :
    (∀ made, made <+: calls → (exec (nodeStep H) (new sid) made).Apart) ↔
      Along (nodeStep H) KeepsApart (new sid) calls := by
  let J : Game → Prop := fun g => Sound g.toStore ∧ g.ReplicasKeyed
  have hnew : J (new sid) := ⟨Sound.empty, by simp [Store.ReplicasKeyed, new, Store.empty]⟩
  have hkeep : ∀ g c, J g → J (nodeStep H g c) := fun g c hg =>
    ⟨sound_nodeStep H hg.1 c, replicasKeyed_nodeStep H hg.2 c⟩
  have hstep : ∀ g c, J g ∧ g.Apart →
      (J (nodeStep H g c) ∧ (nodeStep H g c).Apart ↔ g.KeepsApart c) := fun g c hg =>
    (and_iff_right (hkeep g c hg.1)).trans (apart_nodeStep_iff H hg.2 hg.1.1 hg.1.2 c)
  rw [along_iff_forall_part hstep ⟨hnew, Store.Apart.empty⟩ calls]
  exact forall₂_congr fun made _ => (and_iff_right (exec_keeps J hkeep hnew made)).symm

/-- A neighbour announces an entity, and then the entity itself arrives. -/
theorem ghost_beside_entity :
    let calls : List NodeCall := [.own (.assignZone ⟨"z1", "", ⟨0, 0⟩, 100⟩),
      .applyEntityEnter "z1" "e1" "player" Vector3.zero 0,
      .own (.migrateEntityIn ⟨"e1", "player", some Vector3.zero⟩ "z1")]
    ¬ ∀ made, made <+: calls →
      (exec (nodeStep (Host.steady Vector3.zero)) (new "gs-1") made).Apart := by
  intro calls h
  let g := exec (nodeStep (Host.steady Vector3.zero)) (new "gs-1") calls
  have hcopy : ((g.ghostStore.get "z1").bind fun store => store.get "e1@ghost").map
      GhostEntry.entityID = some "e1" := by decide +kernel
  obtain ⟨e, he, hid⟩ := Option.map_eq_some_iff.mp hcopy
  obtain ⟨store, hstore, hget⟩ := Option.bind_eq_some_iff.mp he
  exact h calls (List.prefix_refl _) "z1" "e1" (by decide +kernel) (by decide +kernel)
    ⟨store, _, e, hstore, hget, hid⟩

end Game

end SpatialServer

import SpatialServer.Boundary
import SpatialServer.Sessions

/-!
# What a call can do to the store

Twenty calls change the store in ten ways. Each call is followed once, as a
sequence of changes together with what entitles the call to make them, so that
an invariant of the store is shown for the ten changes and holds along every
run. Publishing and the queues do not show here.
-/
namespace SpatialServer

open Runs

inductive Change where
  | assignZone (z : Zone)
  | releaseZone (id : ZoneID)
  | addEntity (e : Entity)
  | removeEntity (id : EntityID)
  /-- An object changes without moving. -/
  | rewrite (r : ℕ) (e : Entity)
  /-- An object changes, and the grid follows under an identifier. -/
  | relocate (r : ℕ) (e : Entity) (id : EntityID)
  | detect (zid : ZoneID) (sim : ZoneSim) (now : EntityID → Time) (id : EntityID)
  | sweepGhost (now : Time) (id : EntityID)
  | see (id : EntityID) (state : EntityAOIState)
  | expire (id : EntityID)

namespace Store

/-- The effect of an expired session on the store. -/
def expire (s : Store) (id : EntityID) : Store :=
  let s' := match s.entityZone.get id with
    | some zid =>
      match s.aoiIndex.get zid with
      | some ref => s.updateGrid ref (·.leave id)
      | none => s
    | none => s
  { s' with
    entities := s'.entities.del id
    entityAOI := s'.entityAOI.del id
    entityZone := s'.entityZone.del id }

def change (s : Store) : Change → Store
  | .assignZone z => (s.assignZone z).toOption.getD s
  | .releaseZone id => (s.releaseZone id).toOption.getD s
  | .addEntity e => s.addEntity e
  | .removeEntity id => s.removeEntity id
  | .rewrite r e => s.setObject r e
  | .relocate r e id => (s.setObject r e).moveOnGrid id e.position
  | .detect zid sim now id => detectEntity zid sim now s id
  | .sweepGhost now id => sweepGhost now s id
  | .see id state => { s with entityAOI := s.entityAOI.set id state }
  | .expire id => s.expire id

/-- Some changes lead from one store to the other, each allowed where it is made. -/
def Changes (allowed : Store → Change → Prop) : Store → Store → Prop :=
  Relation.ReflTransGen fun s s' => ∃ ch, allowed s ch ∧ s.change ch = s'

namespace Changes

variable {allowed : Store → Change → Prop} {s s' s'' : Store}

theorem refl (s : Store) : Changes allowed s s := Relation.ReflTransGen.refl

theorem single (ch : Change) (h : allowed s ch) : Changes allowed s (s.change ch) :=
  Relation.ReflTransGen.single ⟨ch, h, rfl⟩

theorem trans (h : Changes allowed s s') (h' : Changes allowed s' s'') : Changes allowed s s'' :=
  Relation.ReflTransGen.trans h h'

/-- The invariant rule. -/
theorem invariant {I : Store → Prop} (hI : ∀ s ch, I s → allowed s ch → I (s.change ch))
    (h : Changes allowed s s') (hs : I s) : I s' := by
  induction h with
  | refl => exact hs
  | tail _ hlast ih =>
    obtain ⟨ch, hch, rfl⟩ := hlast
    exact hI _ ch ih hch

end Changes

/-! ## What a change leaves alone on the grids -/

/-- The grid on which a zone is simulated. -/
def gridOf (s : Store) (z : ZoneID) : Option ℕ := (s.zones.get z).map ZoneSim.aoi

/-- The entity is in another cell than at its last visit. -/
def Crosses (s : Store) (sim : ZoneSim) (id : EntityID) : Prop :=
  ∃ r state, sim.entities.get id = some r ∧ s.entityAOI.get id = some state ∧
    (s.grids.cell sim.aoi).cellKeyFor state.lastPosition ≠
      (s.grids.cell sim.aoi).cellKeyFor (s.objects.cell r).position

theorem detectEntity_eq_self {s : Store} {sim : ZoneSim} {id : EntityID} (h : ¬ s.Crosses sim id)
    (zid : ZoneID) (now : EntityID → Time) : detectEntity zid sim now s id = s := by
  unfold detectEntity
  split
  · next r state hr hstate =>
    refine if_pos ?_
    by_contra hne
    exact h ⟨r, state, hr, hstate, hne⟩
  · rfl

theorem exists_detectEntity_eq {s : Store} {sim : ZoneSim} {id : EntityID} (h : s.Crosses sim id)
    (zid : ZoneID) (now : EntityID → Time) :
    ∃ state, s.entityAOI.get id = some state ∧ detectEntity zid sim now s id =
      { s.updateGrid sim.aoi (·.enter (localGhostID id) state.lastPosition) with
        ghosts := s.ghosts.set (localGhostID id)
          ⟨.ghostLocal, id, zid, state.lastPosition, now id + s.ghostTTL⟩ } := by
  obtain ⟨r, state, hr, hstate, hne⟩ := h
  refine ⟨state, hstate, ?_⟩
  simp only [detectEntity, hr, hstate]
  exact if_neg hne

/-- Replicas do not decide who crosses. -/
theorem crosses_detectEntity (zid : ZoneID) (sim sim' : ZoneSim) (now : EntityID → Time)
    (s : Store) (id x : EntityID) :
    (detectEntity zid sim now s id).Crosses sim' x ↔ s.Crosses sim' x := by
  by_cases hcross : s.Crosses sim id
  · obtain ⟨state, -, heq⟩ := exists_detectEntity_eq hcross zid now
    rw [heq]
    have hcell : ∀ q pos, (((s.updateGrid sim.aoi
        (·.enter (localGhostID id) state.lastPosition)).grids).cell q).cellKeyFor pos =
          (s.grids.cell q).cellKeyFor pos := by
      intro q pos
      by_cases hq : q = sim.aoi
      · subst q; simp [updateGrid]
      · simp [updateGrid, hq]
    simp only [Crosses, hcell]
    rfl
  · rw [detectEntity_eq_self hcross]

/-- The identifiers whose place on some grid a change may alter. -/
def Touches (s : Store) : Change → EntityID → Prop
  | .addEntity e, x => x = e.id
  | .removeEntity id, x => x = id ∧ (s.entityZone.get id).isSome
  | .expire id, x => x = id ∧ (s.entityZone.get id).isSome
  | .relocate _ _ id, x => x = id
  | .detect _ sim _ id, x => x = localGhostID id ∧ s.Crosses sim id
  | .sweepGhost now id, x => x = id ∧ ∃ gh, s.ghosts.get id = some gh ∧ gh.expiresAt < now
  | _, _ => False

/-- From `s` to `s'` nothing happens to one identifier: the grids and the
replicas have it as before, and new zones do not have it. -/
structure Undisturbed (x : EntityID) (s s' : Store) : Prop where
  old : ∀ ref, ref < s.grids.next → AOI.Agree x (s.grids.cell ref) (s'.grids.cell ref)
  grid : ∀ z, s'.gridOf z = s.gridOf z ∨
    s.gridOf z = none ∧ s'.gridOf z = some s.grids.next ∧ (s'.grids.cell s.grids.next).Lacks x
  ghosts : s'.ghosts.get x = s.ghosts.get x

namespace Undisturbed

variable {x : EntityID} {s s' : Store}

theorem of_grids_eq (hg : s'.grids = s.grids) (hz : s'.zones = s.zones)
    (hgh : s'.ghosts.get x = s.ghosts.get x) : Undisturbed x s s' :=
  ⟨fun _ _ => hg ▸ AOI.Agree.refl x _, fun _ => .inl (by rw [gridOf, hz, gridOf]), hgh⟩

theorem refl (x : EntityID) (s : Store) : Undisturbed x s s := of_grids_eq rfl rfl rfl

theorem write (ref : ℕ) {a : AOI} (ha : AOI.Agree x (s.grids.cell ref) a)
    (hz : ∀ z, s'.gridOf z = s.gridOf z) (hg : s'.grids = s.grids.write ref a)
    (hgh : s'.ghosts.get x = s.ghosts.get x) : Undisturbed x s s' := by
  refine ⟨fun q _ => ?_, fun z => .inl (hz z), hgh⟩
  rw [hg]
  by_cases hq : q = ref
  · subst q; simpa using ha
  · simpa [hq] using AOI.Agree.refl x _

theorem newZone {zid : ZoneID} (hnew : s.zones.get zid = none) (zone : Option Zone) {a : AOI}
    (ha : a.Lacks x) (hg : s'.grids = s.grids.alloc a)
    (hz : s'.zones = s.zones.set zid ⟨zone, s.grids.next, ∅⟩) (hgh : s'.ghosts = s.ghosts) :
    Undisturbed x s s' := by
  refine ⟨fun ref href => ?_, fun z => ?_, by rw [hgh]⟩
  · rw [hg, Heap.cell_alloc_of_lt _ _ href]
    exact .refl x _
  · by_cases hzid : z = zid
    · subst z
      refine .inr ⟨by simp [gridOf, hnew], by simp [gridOf, hz], ?_⟩
      rw [hg, Heap.cell_alloc_next]
      exact ha
    · exact .inl (by simp [gridOf, hz, hzid])

end Undisturbed

/-- Members of a zone do not decide its grid. -/
theorem gridOf_set {s s' : Store} {zid : ZoneID} {sim : ZoneSim} (hsim : s.zones.get zid = some sim)
    {entities : Dict EntityID ℕ} (hz : s'.zones = s.zones.set zid { sim with entities := entities })
    (z : ZoneID) : s'.gridOf z = s.gridOf z := by
  rw [gridOf, hz, Dict.get_set, gridOf]
  split_ifs with hzid
  · subst z; simp [hsim]
  · rfl

theorem undisturbed_addEntity (s : Store) {e : Entity} {x : EntityID} (hx : x ≠ e.id) :
    Undisturbed x s (s.addEntity e) := by
  obtain ⟨sim, hsim, heq⟩ := s.exists_addEntity_eq e
  -- the grid the entity enters is an old one or the one just made
  have hensure : Undisturbed x s (s.ensureZone (targetZone e)) := by
    unfold ensureZone
    split
    · exact .refl x s
    · next hnew => exact .newZone hnew none (AOI.new_lacks _ _ x) rfl rfl rfl
  have hgrid : ∀ z, (s.addEntity e).gridOf z = (s.ensureZone (targetZone e)).gridOf z := by
    rw [heq]
    exact gridOf_set hsim rfl
  have henter : ∀ q, AOI.Agree x ((s.ensureZone (targetZone e)).grids.cell q)
      ((s.addEntity e).grids.cell q) := by
    intro q
    rw [heq]
    by_cases hq : q = sim.aoi
    · subst q
      simpa [placeEntity] using AOI.agree_enter _ _ hx
    · simpa [placeEntity, hq] using AOI.Agree.refl x _
  refine ⟨fun ref href => (hensure.old ref href).trans (henter ref), fun z => ?_, ?_⟩
  · rw [hgrid]
    obtain hsame | ⟨hnone, hnew, hlacks⟩ := hensure.grid z
    · exact .inl hsame
    · exact .inr ⟨hnone, hnew, (henter _).lacks hlacks⟩
  · rw [← hensure.ghosts, heq]
    rfl

/-- What a change does not touch, it leaves alone. -/
theorem undisturbed_change {s : Store} {ch : Change} {x : EntityID} (hx : ¬ s.Touches ch x)
    (hrelease : ∀ id, ch ≠ .releaseZone id) : Undisturbed x s (s.change ch) := by
  cases ch with
  | assignZone z =>
    simp only [change, assignZone]
    split_ifs with hex
    · exact .refl x s
    · have hnew : s.zones.get z.id = none := by simpa using hex
      exact .newZone hnew (some z) (AOI.new_lacks _ _ x) rfl rfl rfl
  | releaseZone id => exact absurd rfl (hrelease id)
  | addEntity e => exact s.undisturbed_addEntity hx
  | removeEntity id =>
    simp only [change, removeEntity]
    split
    · exact .refl x s
    · next zid hzone =>
      have hne : x ≠ id := fun h => hx ⟨h, by simp [hzone]⟩
      split
      · next sim hsim =>
        exact .write sim.aoi (AOI.agree_leave _ hne) (gridOf_set hsim rfl) rfl rfl
      · exact .of_grids_eq rfl rfl rfl
  | rewrite r e => exact .of_grids_eq rfl rfl rfl
  | relocate r e id =>
    have hne : x ≠ id := hx
    simp only [change, moveOnGrid]
    split
    · next ref _ => exact .write ref (AOI.agree_move _ _ hne) (fun _ => rfl) rfl rfl
    · exact .of_grids_eq rfl rfl rfl
  | detect zid sim now id =>
    simp only [change]
    by_cases hcross : s.Crosses sim id
    · have hne : x ≠ localGhostID id := fun h => hx ⟨h, hcross⟩
      obtain ⟨state, -, heq⟩ := exists_detectEntity_eq hcross zid now
      rw [heq]
      exact .write sim.aoi (AOI.agree_enter _ _ hne) (fun _ => rfl) rfl
        (Dict.get_set_ne _ _ hne)
    · rw [detectEntity_eq_self hcross]
      exact .refl x s
  | sweepGhost now id =>
    simp only [change, sweepGhost]
    split
    · exact .refl x s
    · next gh hgh =>
      split
      · exact .refl x s
      · next hdue =>
        have hne : x ≠ id := fun h => hx ⟨h, gh, hgh, not_le.mp hdue⟩
        split
        · next sim _ =>
          exact .write sim.aoi (AOI.agree_leave _ hne) (fun _ => rfl) rfl
            (Dict.get_del_ne _ hne)
        · exact .of_grids_eq rfl rfl (Dict.get_del_ne _ hne)
  | see id state => exact .of_grids_eq rfl rfl rfl
  | expire id =>
    simp only [change, expire]
    split
    · next zid hzone =>
      have hne : x ≠ id := fun h => hx ⟨h, by simp [hzone]⟩
      split
      · next ref _ => exact .write ref (AOI.agree_leave _ hne) (fun _ => rfl) rfl rfl
      · exact .of_grids_eq rfl rfl rfl
    · exact .of_grids_eq rfl rfl rfl

/-! ## Where entities and replicas come from -/

theorem isSome_entities_change {s : Store} {ch : Change} {id : EntityID}
    (h : ((s.change ch).entities.get id).isSome) :
    (s.entities.get id).isSome ∨ ∃ e, ch = .addEntity e ∧ id = e.id := by
  cases ch with
  | assignZone z =>
    simp only [change, assignZone] at h
    split_ifs at h <;> exact .inl h
  | releaseZone z =>
    simp only [change, releaseZone] at h
    split_ifs at h
    · exact .inl h
    · exact .inl (Dict.isSome_of_isSome_delAll h)
  | addEntity e =>
    by_cases hid : id = e.id
    · exact .inr ⟨e, rfl, hid⟩
    · obtain ⟨sim, -, heq⟩ := s.exists_addEntity_eq e
      rw [change, heq] at h
      exact .inl (by simpa [placeEntity, hid] using h)
  | removeEntity x =>
    simp only [change, removeEntity] at h
    split at h
    · exact .inl h
    · dsimp only at h
      split at h <;> exact .inl (Dict.isSome_of_isSome_del h)
  | relocate r e x =>
    rw [change, (SameMaps.moveOnGrid _ _ _).entities] at h
    exact .inl h
  | detect zid sim now x =>
    rw [change, (SameMaps.detectEntity _ _ _ _ _).entities] at h
    exact .inl h
  | sweepGhost now x =>
    rw [change, (SameMaps.sweepGhost _ _ _).entities] at h
    exact .inl h
  | rewrite r e => exact .inl h
  | see x state => exact .inl h
  | expire x =>
    simp only [change, expire] at h
    have hkept := Dict.isSome_of_isSome_del h
    split at hkept
    · split at hkept <;> exact .inl hkept
    · exact .inl hkept

/-- Only assignment and release have to do with the replicas of neighbours. -/
theorem ghostStore_change (s : Store) {ch : Change} (hassign : ∀ z, ch ≠ .assignZone z)
    (hrelease : ∀ id, ch ≠ .releaseZone id) : (s.change ch).ghostStore = s.ghostStore := by
  cases ch with
  | assignZone z => exact absurd rfl (hassign z)
  | releaseZone id => exact absurd rfl (hrelease id)
  | addEntity e =>
    obtain ⟨sim, -, heq⟩ := s.exists_addEntity_eq e
    rw [change, heq, placeEntity]
    unfold ensureZone
    split <;> rfl
  | removeEntity id =>
    simp only [change, removeEntity]
    split
    · rfl
    · split <;> rfl
  | relocate r e id =>
    simp only [change, moveOnGrid]
    split <;> rfl
  | detect zid sim now id =>
    simp only [change, detectEntity]
    split
    · split <;> rfl
    · rfl
  | sweepGhost now id =>
    simp only [change, sweepGhost]
    split
    · rfl
    · split
      · rfl
      · split <;> rfl
  | rewrite r e => rfl
  | see id state => rfl
  | expire id =>
    simp only [change, expire]
    split
    · split <;> rfl
    · rfl

/-- A replica store is as before, or new and empty. -/
theorem ghostStore_change_cases {s : Store} {ch : Change} {z : ZoneID}
    {store : Dict EntityID GhostEntry} (h : (s.change ch).ghostStore.get z = some store) :
    s.ghostStore.get z = some store ∨ store = ∅ := by
  by_cases hassign : ∃ y, ch = .assignZone y
  · obtain ⟨y, rfl⟩ := hassign
    simp only [change, assignZone] at h
    split_ifs at h
    · exact .inl h
    · simp only [Except.toOption, Option.getD_some, Dict.get_set] at h
      split_ifs at h
      · exact .inr (Option.some.inj h).symm
      · exact .inl h
  · by_cases hrelease : ∃ id, ch = .releaseZone id
    · obtain ⟨id, rfl⟩ := hrelease
      simp only [change, releaseZone] at h
      split_ifs at h
      · exact .inl h
      · simp only [Except.toOption, Option.getD_some, Dict.get_del] at h
        split_ifs at h
        exact .inl h
    · rw [s.ghostStore_change (fun y heq => hassign ⟨y, heq⟩) fun id heq => hrelease ⟨id, heq⟩] at h
      exact .inl h

/-- A replica stays, goes, or is made for an entity that crosses. -/
theorem ghosts_change (s : Store) (ch : Change) (x : EntityID) :
    (s.change ch).ghosts.get x = s.ghosts.get x ∨ (s.change ch).ghosts.get x = none ∨
      ∃ zid sim now id gh, ch = .detect zid sim now id ∧ s.Crosses sim id ∧ x = localGhostID id ∧
        gh.entityID = id ∧ (s.change ch).ghosts.get x = some gh := by
  cases ch with
  | assignZone z =>
    refine .inl ?_
    simp only [change, assignZone]
    split_ifs <;> rfl
  | releaseZone z =>
    simp only [change, releaseZone]
    split_ifs
    · exact .inl rfl
    · simp only [Except.toOption, Option.getD_some, Dict.get_delAll]
      split_ifs
      · exact .inr (.inl rfl)
      · exact .inl rfl
  | addEntity e =>
    refine .inl ?_
    obtain ⟨sim, -, heq⟩ := s.exists_addEntity_eq e
    rw [change, heq, placeEntity]
    unfold ensureZone
    split <;> rfl
  | removeEntity id =>
    refine .inl ?_
    simp only [change, removeEntity]
    split
    · rfl
    · split <;> rfl
  | relocate r e id =>
    refine .inl ?_
    simp only [change, moveOnGrid]
    split <;> rfl
  | detect zid sim now id =>
    by_cases hcross : s.Crosses sim id
    · obtain ⟨state, -, heq⟩ := exists_detectEntity_eq hcross zid now
      by_cases hx : x = localGhostID id
      · refine .inr (.inr ⟨zid, sim, now, id, ⟨.ghostLocal, id, zid, state.lastPosition,
          now id + s.ghostTTL⟩, rfl, hcross, hx, rfl, ?_⟩)
        rw [change, heq, hx]
        exact Dict.get_set_self _ _ _
      · refine .inl ?_
        rw [change, heq]
        exact Dict.get_set_ne _ _ hx
    · exact .inl (by rw [change, detectEntity_eq_self hcross])
  | sweepGhost now id =>
    simp only [change, sweepGhost]
    split
    · exact .inl rfl
    · split
      · exact .inl rfl
      · by_cases hx : x = id
        · exact .inr (.inl (hx ▸ Dict.get_del_self _ _))
        · refine .inl ((Dict.get_del_ne _ hx).trans ?_)
          split <;> rfl
  | rewrite r e => exact .inl rfl
  | see id state => exact .inl rfl
  | expire id =>
    refine .inl ?_
    simp only [change, expire]
    split
    · split <;> rfl
    · rfl

end Store

namespace Game

/-- What entitles a call, made in the state `g`, to a change of the store it has
reached. -/
def Entitled (g : Game) (c : Call) (s : Store) : Change → Prop
  | .assignZone z => c = .assignZone z
  | .releaseZone id => c = .releaseZone id
  | .addEntity e => g.addedEntity c = some e
  | .rewrite r e => ∃ key, s.entities.get key = some r ∧ e.id = (s.objects.cell r).id
  | .relocate r e id => ∃ key, s.entities.get key = some r ∧ e.id = (s.objects.cell r).id ∧
      (id = key ∨ id = e.id)
  | .detect zid sim now id => s.zones.get zid = some sim ∧
      (∃ order, c = .detectZoneBoundaries zid now order) ∧ g.zones.get zid = some sim ∧
      (s.Crosses sim id ↔ g.Crosses sim id) ∧
      s.ghosts.get (localGhostID id) = g.ghosts.get (localGhostID id)
  | .see id _ => ∃ zid sim key r, s.zones.get zid = some sim ∧ sim.entities.get key = some r ∧
      id = (s.objects.cell r).id
  | .expire id => ∃ now ∈ c.sweptAt, g.expired now id
  | _ => True

section Calls

variable {g : Game} {c : Call}

theorem changes_dispatch (codec : Wire.Codec) (g' : Game) (pkt : InboundPacket) :
    Store.Changes (g.Entitled c) g'.toStore (dispatch codec g' pkt).toStore := by
  obtain hnone | ⟨upd, hupd⟩ | ⟨st, payload, hst⟩ := dispatch_cases codec g' pkt
  · rw [hnone]; exact .refl _
  · rw [hupd]
    unfold dispatchPositionUpdate
    split
    · exact .refl _
    · next r hr =>
      rw [toStore_enqueueMove]
      exact .single (.relocate r
        { g'.objects.cell r with position := upd.position.getD Vector3.zero } (g'.objects.cell r).id)
        ⟨pkt.clientID, hr, rfl, .inr rfl⟩
  · rw [hst, toStore_dispatchEntityState]; exact .refl _

theorem changes_simulateEntity (N : Numerics) (dt : Duration) (seed : EntityID → ℤ) (g' : Game)
    (id : EntityID) :
    Store.Changes (g.Entitled c) g'.toStore (simulateEntity N dt seed g' id).toStore := by
  unfold simulateEntity
  split
  · exact .refl _
  · next r hr =>
    dsimp only
    split
    · exact .refl _
    · split
      · exact .single (.rewrite r ((g'.objects.cell r).onSimulate N (seed id) dt))
          ⟨id, hr, by simp⟩
      · rw [toStore_enqueueMove]
        exact .single (.relocate r ((g'.objects.cell r).onSimulate N (seed id) dt) id)
          ⟨id, hr, by simp, .inl rfl⟩

theorem changes_visitObserver {zid : ZoneID} {sim : ZoneSim} {g' : Game}
    (hsim : g'.zones.get zid = some sim) (order : VisitOrder) (id : EntityID) :
    Store.Changes (g.Entitled c) g'.toStore (visitObserver sim order g' id).toStore := by
  unfold visitObserver
  split
  · exact .refl _
  · next r hr =>
    simp only [toStore_publishAll]
    exact .single (.see (g'.objects.cell r).id _) ⟨zid, sim, id, r, hsim, hr, rfl⟩

theorem changes_updateVisibility (g' : Game) (zid : ZoneID) (order : VisitOrder) :
    Store.Changes (g.Entitled c) g'.toStore (g'.updateVisibility zid order).toStore := by
  unfold updateVisibility
  split
  · exact .refl _
  · next sim hsim =>
    refine (List.foldlRecOn (motive := fun g'' : Game => Store.Changes (g.Entitled c) g'.toStore
      g''.toStore ∧ g''.zones = g'.zones) _ _ ⟨.refl _, rfl⟩ fun g'' hg'' id _ => ?_).1
    obtain ⟨aoi, haoi⟩ := (Shows.visitObserver sim order g'' id).store
    refine ⟨hg''.1.trans (changes_visitObserver (hg''.2 ▸ hsim) order id), ?_⟩
    rw [haoi]
    exact hg''.2

theorem sweepSession_eq (now : Time) (g' : Game) (id : EntityID) :
    sweepSession now g' id =
      if g'.expired now id then
        { g' with
          toStore := g'.toStore.expire id
          sessionStates := g'.sessionStates.del id }
      else g' := by
  unfold sweepSession Store.expire
  split_ifs
  · cases hzone : g'.entityZone.get id with
    | none => simp only
    | some zid => cases href : g'.aoiIndex.get zid <;> simp only [href, onStore]
  · rfl

theorem toStore_sweepSession (now : Time) (g' : Game) (id : EntityID) :
    (sweepSession now g' id).toStore =
      if g'.expired now id then g'.toStore.expire id else g'.toStore := by
  rw [sweepSession_eq]
  split_ifs <;> rfl

theorem changes_sweepDisconnected (g : Game) (now : Time) (order : List EntityID) :
    Store.Changes (g.Entitled (.sweepDisconnected now order)) g.toStore
      (g.sweepDisconnected now order).toStore := by
  -- whatever is expired during the loop was expired before it
  refine (List.foldlRecOn (motive := fun g' : Game =>
    Store.Changes (g.Entitled (.sweepDisconnected now order)) g.toStore g'.toStore ∧
      ∀ x, g'.expired now x → g.expired now x) _ _ ⟨.refl _, fun _ h => h⟩
    fun g' hg' id _ => ⟨hg'.1.trans ?_, fun x hx => ?_⟩).1
  · rw [toStore_sweepSession]
    split
    · next hexp => exact .single (.expire id) ⟨now, rfl, hg'.2 id hexp⟩
    · exact .refl _
  · rw [sweepSession_expired, Bool.and_eq_true] at hx
    exact hg'.2 x hx.1

/-- Each iteration finds its entity as it was before the loop. -/
theorem changes_detect (g : Game) {zid : ZoneID} {sim : ZoneSim} (hsim : g.zones.get zid = some sim)
    (now : EntityID → Time) (order ids : List EntityID) (hnodup : ids.Nodup) (s : Store)
    (hzones : s.zones.get zid = some sim) (hcross : ∀ id, s.Crosses sim id ↔ g.Crosses sim id)
    (hghosts : ∀ id ∈ ids, s.ghosts.get (localGhostID id) = g.ghosts.get (localGhostID id)) :
    Store.Changes (g.Entitled (.detectZoneBoundaries zid now order)) s
      (ids.foldl (Store.detectEntity zid sim now) s) := by
  induction ids generalizing s with
  | nil => exact .refl s
  | cons id ids ih =>
    rw [List.nodup_cons] at hnodup
    refine (Store.Changes.single (.detect zid sim now id) ⟨hzones, ⟨order, rfl⟩, hsim, hcross id,
      hghosts id List.mem_cons_self⟩).trans (ih hnodup.2 _ ?_ (fun x => ?_) fun x hx => ?_)
    · exact (Store.SameMaps.detectEntity zid sim now s id).zones ▸ hzones
    · exact (Store.crosses_detectEntity zid sim sim now s id x).trans (hcross x)
    · have hne : localGhostID x ≠ localGhostID id :=
        fun heq => hnodup.1 (localGhostID_injective heq ▸ hx)
      have hsame : Store.Undisturbed (localGhostID x) s (s.change (.detect zid sim now id)) :=
        Store.undisturbed_change (fun h => hne h.1) (by simp)
      exact hsame.ghosts.trans (hghosts x (List.mem_cons_of_mem _ hx))

/-- Every call is a sequence of changes it is entitled to. -/
theorem changes_step (H : Host) (g : Game) (c : Call) :
    Store.Changes (g.Entitled c) g.toStore (step H g c).toStore := by
  cases c with
  | assignZone z =>
    have hstore : (step H g (.assignZone z)).toStore = g.toStore.change (.assignZone z) := by
      simp only [step, assignZone, Store.change]
      cases g.toStore.assignZone z <;> rfl
    rw [hstore]
    exact .single (.assignZone z) rfl
  | releaseZone id =>
    have hstore : (step H g (.releaseZone id)).toStore = g.toStore.change (.releaseZone id) := by
      simp only [step, releaseZone, Store.change]
      cases g.toStore.releaseZone id <;> rfl
    rw [hstore]
    exact .single (.releaseZone id) rfl
  | addEntity e => exact .single (.addEntity e) rfl
  | migrateEntityIn snap target =>
    exact .single (.addEntity (Store.snapshotEntity snap target)) rfl
  | removeEntity id => exact .single (.removeEntity id) trivial
  | migrateEntityOut id => exact .single (.removeEntity id) trivial
  | enqueueAddEntity e => simpa [step] using .refl _
  | enqueueRemoveEntity id => simpa [step] using .refl _
  | receive pkt => simpa [step] using .refl _
  | drainEvent => simpa [step] using .refl _
  | markDisconnected id now => simpa [step] using .refl _
  | markReconnected id => simpa [step] using .refl _
  | beginTick now => exact .refl _
  | applyCmd =>
    simp only [step, applyCmd]
    split
    · next cmd ch hrecv =>
      cases cmd with
      | add e => exact .single (.addEntity e) (by simp [Entitled, addedEntity, hrecv])
      | remove id => exact .single (.removeEntity id) trivial
    · exact .refl _
  | dispatchNext =>
    simp only [step, dispatchNext]
    split
    · next pkt ch _ => exact changes_dispatch H.codec { g with inbox := ch } pkt
    · exact .refl _
  | simulate dt seed order =>
    exact List.foldlRecOn (motive := fun g' : Game => Store.Changes _ g.toStore g'.toStore) _ _
      (.refl _) fun g' hg' id _ => hg'.trans (changes_simulateEntity H.numerics dt seed g' id)
  | detectZoneBoundaries zid now order =>
    simp only [step, detectZoneBoundaries, onStore, Store.detectZoneBoundaries]
    split
    · exact .refl _
    · next sim hsim =>
      exact changes_detect g hsim now order _ (Dict.nodup_range order _) g.toStore hsim
        (fun _ => Iff.rfl) fun _ _ => rfl
  | updateVisibility zid order => exact changes_updateVisibility g zid order
  | sweepGhosts now order =>
    exact List.foldlRecOn (motive := fun s : Store => Store.Changes _ g.toStore s) _ _ (.refl _)
      fun s hs id _ => hs.trans (.single (.sweepGhost now id) trivial)
  | sweepDisconnected now order => exact changes_sweepDisconnected g now order

end Calls

/-- An invariant of the ten changes is kept by every call. -/
theorem store_invariant (H : Host) {g : Game} {c : Call} {I : Store → Prop}
    (hI : ∀ s ch, I s → g.Entitled c s ch → I (s.change ch)) (hg : I g.toStore) :
    I (step H g c).toStore :=
  (changes_step H g c).invariant hI hg

end Game

end SpatialServer

import SpatialServer.ReachableStores

/-!
# The two indexes of the zones

A zone has a grid in `zones`, where movement and visibility work, and one in
`aoiIndex`, which neighbours, snapshots and expired sessions use, with a replica
store beside it. Assignment and release fill and clear all three. Adding an
entity to a zone the server does not have fills the first alone, and loading a
snapshot of such a zone the other two. Those are the only calls that let the
indexes differ.
-/
namespace SpatialServer

open Runs

/-- The indexes know the same zones by the same grids. -/
structure SameIndexes (s : Store) : Prop where
  grid : ∀ z, s.aoiIndex.get z = (s.zones.get z).map ZoneSim.aoi
  store : ∀ z, (s.ghostStore.get z).isSome = (s.zones.get z).isSome

namespace SameIndexes

variable {s s' : Store}

theorem empty : SameIndexes Store.empty := ⟨fun _ => rfl, fun _ => rfl⟩

theorem frame (h : SameIndexes s)
    (hz : ∀ z, (s'.zones.get z).map ZoneSim.aoi = (s.zones.get z).map ZoneSim.aoi)
    (hi : s'.aoiIndex = s.aoiIndex)
    (hst : ∀ z, (s'.ghostStore.get z).isSome = (s.ghostStore.get z).isSome) : SameIndexes s' := by
  constructor
  · intro z
    rw [hi, hz]
    exact h.grid z
  · intro z
    have hsome := congrArg Option.isSome (hz z)
    simp only [Option.isSome_map] at hsome
    rw [hst, hsome]
    exact h.store z

theorem assignZone (h : SameIndexes s) (z : Zone) (hs : s.assignZone z = .ok s') :
    SameIndexes s' := by
  unfold Store.assignZone at hs
  split_ifs at hs
  cases hs
  constructor <;> intro y <;> simp only [Dict.get_set] <;> split_ifs
  · rfl
  · exact h.grid y
  · rfl
  · exact h.store y

theorem releaseZone (h : SameIndexes s) {id : ZoneID} (hs : s.releaseZone id = .ok s') :
    SameIndexes s' := by
  unfold Store.releaseZone at hs
  split_ifs at hs
  cases hs
  constructor <;> intro y <;> simp only [Dict.get_del] <;> split_ifs
  · rfl
  · exact h.grid y
  · rfl
  · exact h.store y

/-- An entity may only come to a zone that is there. -/
theorem addEntity_iff (h : SameIndexes s) (e : Entity) :
    SameIndexes (s.addEntity e) ↔ (s.zones.get (Store.targetZone e)).isSome := by
  obtain ⟨sim, hsim, heq⟩ := s.exists_addEntity_eq e
  constructor
  · intro hsame
    have hgrid := hsame.grid (Store.targetZone e)
    rw [heq] at hgrid
    have hindex : (s.aoiIndex.get (Store.targetZone e)).isSome := by
      have : (s.ensureZone (Store.targetZone e)).aoiIndex = s.aoiIndex := by
        unfold Store.ensureZone; split <;> rfl
      rw [← this]
      simpa [Store.placeEntity] using congrArg Option.isSome hgrid
    simpa [h.grid] using hindex
  · intro hzone
    have hensure : s.ensureZone (Store.targetZone e) = s := by
      obtain ⟨known, hknown⟩ := Option.isSome_iff_exists.mp hzone
      simp [Store.ensureZone, hknown]
    rw [heq, hensure]
    rw [hensure] at hsim
    exact h.frame (Store.gridOf_set hsim rfl) rfl fun _ => rfl

theorem removeEntity (h : SameIndexes s) (id : EntityID) : SameIndexes (s.removeEntity id) := by
  unfold Store.removeEntity
  split
  · exact h
  · dsimp only
    split
    · next sim hsim => exact h.frame (Store.gridOf_set hsim rfl) rfl fun _ => rfl
    · exact h.frame (fun _ => rfl) rfl fun _ => rfl

theorem change (h : SameIndexes s) (ch : Change)
    (hzone : ∀ e, ch = .addEntity e → (s.zones.get (Store.targetZone e)).isSome) :
    SameIndexes (s.change ch) := by
  have hsame : ∀ s' : Store, s'.zones = s.zones → s'.aoiIndex = s.aoiIndex →
      s'.ghostStore = s.ghostStore → SameIndexes s' := fun s' hz hi hst =>
    h.frame (fun _ => by rw [hz]) hi fun _ => by rw [hst]
  cases ch with
  | assignZone z =>
    simp only [Store.change]
    cases hs : s.assignZone z with
    | error _ => exact h
    | ok s' => exact h.assignZone z hs
  | releaseZone id =>
    simp only [Store.change]
    cases hs : s.releaseZone id with
    | error _ => exact h
    | ok s' => exact h.releaseZone hs
  | addEntity e => exact (h.addEntity_iff e).mpr (hzone e rfl)
  | removeEntity id => exact h.removeEntity id
  | rewrite r e => exact hsame _ rfl rfl rfl
  | relocate r e id =>
    simp only [Store.change, Store.moveOnGrid]
    split <;> exact hsame _ rfl rfl rfl
  | detect zid sim now id =>
    simp only [Store.change, Store.detectEntity]
    split
    · split <;> exact hsame _ rfl rfl rfl
    · exact h
  | sweepGhost now id =>
    simp only [Store.change, Store.sweepGhost]
    split
    · exact h
    · split
      · exact h
      · split <;> exact hsame _ rfl rfl rfl
  | see id state => exact hsame _ rfl rfl rfl
  | expire id =>
    simp only [Store.change, Store.expire]
    split
    · split <;> exact hsame _ rfl rfl rfl
    · exact hsame _ rfl rfl rfl

theorem onReplicas (h : SameIndexes s) (zid : ZoneID) (f : Replicas → Replicas) :
    SameIndexes (s.onReplicas zid f) := by
  unfold Store.onReplicas
  split
  · next ref store _ hstore =>
    refine h.frame (fun _ => rfl) rfl fun z => ?_
    simp only [Dict.get_set]
    split_ifs with hz
    · subst z; simp [hstore]
    · rfl
  · exact h

/-- A snapshot may only be loaded into a zone that is there. -/
theorem openIndex_iff (h : SameIndexes s) (zid : ZoneID) (state : Option SerializedAOI)
    (order : List EntityID) :
    SameIndexes (s.openIndex zid state order) ↔ (s.zones.get zid).isSome := by
  have hindex : (s.aoiIndex.get zid).isSome = (s.zones.get zid).isSome := by simp [h.grid]
  unfold Store.openIndex
  split
  · next ref href => simpa [← hindex, href] using h
  · next hnone =>
    rw [← hindex, hnone]
    constructor
    · intro hsame
      simpa [← hindex, hnone] using congrArg Option.isSome (hsame.grid zid)
    · simp

end SameIndexes

namespace Game

/-- A call that brings entities or a snapshot finds the zone on the server. -/
def KnownZone (g : Game) : NodeCall → Prop
  | .own c => ∀ e, g.addedEntity c = some e → (g.zones.get (Store.targetZone e)).isSome
  | .openIndex zid _ _ => (g.zones.get zid).isSome
  | _ => True

theorem sameIndexes_nodeStep_iff (H : Host) (g : Game) (c : NodeCall) (h : SameIndexes g.toStore) :
    SameIndexes (nodeStep H g c).toStore ↔ g.KnownZone c := by
  cases c with
  | own c =>
    cases hadd : g.addedEntity c with
    | none =>
      refine iff_of_true (store_invariant H (fun s ch hs hch => hs.change ch fun e he => ?_) h)
        (by simp [KnownZone, hadd])
      subst he
      simp [Entitled, hadd] at hch
    | some e =>
      simp only [nodeStep, toStore_step_of_added H hadd, h.addEntity_iff, KnownZone, hadd,
        Option.some.injEq, forall_eq']
  | openIndex zid state order => exact h.openIndex_iff zid state order
  | applyEntityEnter zid id type pos now =>
    simp only [nodeStep, onStore, Store.applyEntityEnter]
    exact iff_of_true (h.onReplicas _ _) trivial
  | applyEntityLeave zid id =>
    simp only [nodeStep, onStore, Store.applyEntityLeave]
    exact iff_of_true (h.onReplicas _ _) trivial
  | applyEntityUpdate zid id pos now =>
    simp only [nodeStep, onStore, Store.applyEntityUpdate]
    exact iff_of_true (h.onReplicas _ _) trivial
  | reconcileNeighborGhosts querier owner neighbor stamp now order =>
    refine iff_of_true ?_ trivial
    simp only [nodeStep, onStore, Store.reconcileNeighborGhosts]
    split
    · exact h.onReplicas _ _
    · exact h

/-- The indexes agree in every state of a run exactly if no call brings anything
to a zone the server does not have. -/
theorem sameIndexes_iff_knownZone (H : Host) (sid : ServerID) (calls : List NodeCall) :
    (∀ made, made <+: calls → SameIndexes (exec (nodeStep H) (new sid) made).toStore) ↔
      Along (nodeStep H) KnownZone (new sid) calls :=
  (along_iff_forall_part (sameIndexes_nodeStep_iff H) SameIndexes.empty calls).symm

/-- One entity that names no zone is in the default zone, which neighbours
cannot query; one loaded snapshot has an indexed grid, in which its entity
does not move. -/
theorem unknown_zone_split :
    ¬ SameIndexes (exec (nodeStep (Host.steady Vector3.zero)) (new "gs-1")
        [.own (.addEntity (Entity.new "e1" "player" ""))]).toStore ∧
      ¬ SameIndexes ((new "gs-1").loadZoneSnapshot
        ⟨"z1", [⟨"e1", "player", some Vector3.zero⟩], none⟩ []).toStore := by
  refine ⟨fun h => ?_, fun h => ?_⟩
  · exact absurd (h.grid defaultZoneID) (by decide)
  · exact absurd (h.grid "z1") (by decide)

end Game

end SpatialServer

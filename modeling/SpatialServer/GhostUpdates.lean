import SpatialServer.RemoteGhosts

/-!
# Forwarded updates

A neighbour announces an entity to a zone by name. The updates it forwards later
name the entity only, and the handler looks for the zone where the entities of
this server are registered. A remote entity is not one of them: the update goes
to the zone without a name, finds no replica there, and is acknowledged.
-/
namespace SpatialServer

open Runs

/-- Wherever an identifier was, after a move it is stored at the new position. -/
theorem AOI.get_move_self (a : AOI) (id : EntityID) (pos : Vector3) :
    (a.move id pos).positions.get id = some pos := by
  unfold move
  split
  · exact Dict.get_set_self _ _ _
  · split_ifs <;> exact Dict.get_set_self _ _ _

namespace Store

/-- A missing entry of the map reads as the empty identifier. -/
def zoneOf (s : Store) (id : EntityID) : ZoneID := (s.entityZone.get id).getD ""

def notifyEntityEnter (s : Store) (zoneID : ZoneID) (entityID : EntityID) (pos : Option Vector3)
    (now : Time) : Store × Bool :=
  (s.applyEntityEnter zoneID entityID "" (pos.getD Vector3.zero) now, true)

def sendEntityUpdate (s : Store) (upd : Wire.EntityUpdate) (now : Time) : Store × Bool :=
  match upd.position with
  | none => (s, false)
  | some pos => (s.applyEntityUpdate (s.zoneOf upd.entityID) upd.entityID pos now, true)

/-- Updates about one entity, each at the time of its arrival. -/
def sendEntityUpdates (s : Store) (entityID : EntityID) (upds : List (Option Vector3 × Time)) :
    Store :=
  upds.foldl (fun s u => (s.sendEntityUpdate ⟨entityID, u.1⟩ u.2).1) s

/-- When the replica was refreshed last, by an update that carries a position or
by the announcement. -/
def lastRefresh (announced : Time) (upds : List (Option Vector3 × Time)) : Time :=
  upds.foldl (fun t u => if u.1.isSome then u.2 else t) announced

/-- The replica of an entity in a zone. -/
def replicaOf (s : Store) (z : ZoneID) (id : EntityID) : Option GhostEntry :=
  (s.ghostStore.get z).bind fun store => store.get (remoteGhostID id)

/-- Where the grid that a zone has in the index stores the replica. -/
def replicaPosition (s : Store) (z : ZoneID) (id : EntityID) : Option Vector3 :=
  (s.aoiIndex.get z).bind fun ref => (s.grids.cell ref).positions.get (remoteGhostID id)

/-- The replica is at the position, in the store and on the grid, and expires
later than it would have before. -/
def Follows (s s' : Store) (z : ZoneID) (id : EntityID) (pos : Vector3) : Prop :=
  ∃ old new, s.replicaOf z id = some old ∧ s'.replicaOf z id = some new ∧ new.position = pos ∧
    s'.replicaPosition z id = some pos ∧ old.expiresAt < new.expiresAt

/-! ## One update -/

section Updates

variable {s : Store} {z : ZoneID} {id : EntityID}

theorem sendEntityUpdate_none (s : Store) (id : EntityID) (now : Time) :
    (s.sendEntityUpdate ⟨id, none⟩ now).1 = s := rfl

/-- An update that is sent to another zone leaves the replica as it is. -/
theorem replicaOf_applyEntityUpdate_ne (s : Store) {z z' : ZoneID} (hz : z ≠ z') (id : EntityID)
    (pos : Vector3) (now : Time) :
    (s.applyEntityUpdate z' id pos now).replicaOf z id = s.replicaOf z id := by
  unfold applyEntityUpdate onReplicas
  split
  · simp [replicaOf, hz]
  · rfl

theorem zoneOf_applyEntityUpdate (s : Store) (z : ZoneID) (id x : EntityID) (pos : Vector3)
    (now : Time) : (s.applyEntityUpdate z id pos now).zoneOf x = s.zoneOf x := by
  unfold applyEntityUpdate onReplicas
  split <;> rfl

/-- What stays while updates about an entity arrive: the zone has its grid, and
the replica expires some time after its last refresh. -/
structure Refreshed (s : Store) (z : ZoneID) (id : EntityID) (t : Time) : Prop where
  grid : (s.aoiIndex.get z).isSome
  replica : ∃ entry, s.replicaOf z id = some entry ∧ entry.expiresAt = t + s.ghostTTL * 6

/-- In its zone an update moves the replica and sets its expiry. -/
theorem Refreshed.applyEntityUpdate {t : Time} (h : s.Refreshed z id t) (pos : Vector3)
    (now : Time) :
    (s.applyEntityUpdate z id pos now).Refreshed z id now ∧
      (s.applyEntityUpdate z id pos now).ghostTTL = s.ghostTTL ∧
      (s.applyEntityUpdate z id pos now).replicaPosition z id = some pos ∧
      ((s.applyEntityUpdate z id pos now).replicaOf z id).map GhostEntry.position = some pos := by
  obtain ⟨ref, href⟩ := Option.isSome_iff_exists.mp h.grid
  obtain ⟨entry, hentry, -⟩ := h.replica
  obtain ⟨store, hstore, hget⟩ := Option.bind_eq_some_iff.mp hentry
  have heq : s.applyEntityUpdate z id pos now = { s with
      grids := s.grids.write ref ((s.grids.cell ref).move (remoteGhostID id) pos)
      ghostStore := s.ghostStore.set z (store.set (remoteGhostID id)
        { entry with position := pos, expiresAt := now + s.ghostTTL * 6 }) } := by
    simp [Store.applyEntityUpdate, onReplicas, href, hstore, Replicas.update, hget]
  rw [heq]
  refine ⟨⟨h.grid, ?_⟩, rfl, ?_, ?_⟩
  · exact ⟨{ entry with position := pos, expiresAt := now + s.ghostTTL * 6 },
      by simp [replicaOf], rfl⟩
  · simp [replicaPosition, href, AOI.get_move_self]
  · simp [replicaOf]

/-! ## Many updates -/

/-- Updates that are sent to another zone leave the replica as it is. -/
theorem replicaOf_sendEntityUpdates_ne (hz : s.zoneOf id ≠ z)
    (upds : List (Option Vector3 × Time)) :
    (s.sendEntityUpdates id upds).replicaOf z id = s.replicaOf z id ∧
      (s.sendEntityUpdates id upds).zoneOf id = s.zoneOf id := by
  refine List.foldlRecOn (motive := fun s' : Store =>
    s'.replicaOf z id = s.replicaOf z id ∧ s'.zoneOf id = s.zoneOf id) upds _ ⟨rfl, rfl⟩ ?_
  rintro s' ⟨hreplica, hzone⟩ ⟨pos, now⟩ -
  cases pos with
  | none => exact ⟨hreplica, hzone⟩
  | some pos =>
    have hne : z ≠ s'.zoneOf id := by
      rw [hzone]
      exact hz.symm
    exact ⟨(replicaOf_applyEntityUpdate_ne s' hne id pos now).trans hreplica,
      (zoneOf_applyEntityUpdate s' _ id id pos now).trans hzone⟩

/-- In its zone the replica keeps following. -/
theorem Refreshed.sendEntityUpdates {t : Time} (h : s.Refreshed z id t) (hz : s.zoneOf id = z)
    (upds : List (Option Vector3 × Time)) :
    (s.sendEntityUpdates id upds).Refreshed z id (lastRefresh t upds) ∧
      (s.sendEntityUpdates id upds).zoneOf id = z := by
  induction upds generalizing s t with
  | nil => exact ⟨h, hz⟩
  | cons u upds ih =>
    obtain ⟨pos, now⟩ := u
    cases pos with
    | none => exact ih h hz
    | some pos =>
      have hcons : s.sendEntityUpdates id ((some pos, now) :: upds) =
          (s.applyEntityUpdate z id pos now).sendEntityUpdates id upds := by
        rw [← hz]
        rfl
      rw [hcons]
      exact ih (h.applyEntityUpdate pos now).1
        ((zoneOf_applyEntityUpdate s z id id pos now).trans hz)

/-- An announced entity has a replica in the zone. -/
theorem refreshed_notifyEntityEnter (h : Housed s) {ref : ℕ} (href : s.aoiIndex.get z = some ref)
    (id : EntityID) (pos : Option Vector3) (now : Time) :
    (s.notifyEntityEnter z id pos now).1.Refreshed z id now ∧
      (s.notifyEntityEnter z id pos now).1.zoneOf id = s.zoneOf id := by
  obtain ⟨store, hstore⟩ := h.exists_store href
  have heq : (s.notifyEntityEnter z id pos now).1 = { s with
      grids := s.grids.write ref
        ((s.grids.cell ref).enter (remoteGhostID id) (pos.getD Vector3.zero))
      ghostStore := s.ghostStore.set z (store.set (remoteGhostID id)
        ⟨.ghostRemote, id, z, pos.getD Vector3.zero, now + s.ghostTTL * 6⟩) } := by
    simp [notifyEntityEnter, applyEntityEnter, onReplicas, href, hstore, Replicas.enter]
  rw [heq]
  exact ⟨⟨by simp [href], _, by simp [replicaOf]; rfl, rfl⟩, rfl⟩

end Updates

/-- An entity is announced to an assigned zone, some updates about it follow and
then one that carries a position and is acknowledged. The replica follows it if
and only if the server itself has the entity in that zone, and the last update
is later than the refresh before it. -/
theorem forwarded_update_followed_iff {s : Store} (h : Housed s) {z : ZoneID} {ref : ℕ}
    (href : s.assignedGrid z = some ref) (id : EntityID) (p : Option Vector3) (announced : Time)
    (upds : List (Option Vector3 × Time)) (p' : Vector3) (now : Time) :
    let s₁ := (s.notifyEntityEnter z id p announced).1
    let s₂ := s₁.sendEntityUpdates id upds
    let last := s₂.sendEntityUpdate ⟨id, some p'⟩ now
    (last.2 = true ∧ Follows s₂ last.1 z id p') ↔
      s.zoneOf id = z ∧ lastRefresh announced upds < now := by
  intro s₁ s₂ last
  obtain ⟨hs₁, hzone₁⟩ := refreshed_notifyEntityEnter h (RemoteGhosts.index_of_assigned h href) id p
    announced
  have hack : last.2 = true := rfl
  by_cases hz : s.zoneOf id = z
  · obtain ⟨hs₂, hzone₂⟩ := hs₁.sendEntityUpdates (hzone₁.trans hz) upds
    have hlast : last.1 = s₂.applyEntityUpdate z id p' now := by
      rw [show last.1 = s₂.applyEntityUpdate (s₂.zoneOf id) id p' now from rfl, hzone₂]
    obtain ⟨hs₃, httl, hposition, hreplica⟩ := hs₂.applyEntityUpdate p' now
    obtain ⟨old, hold, hexpires⟩ := hs₂.replica
    obtain ⟨new, hnew, hexpires'⟩ := hs₃.replica
    rw [hnew, Option.map_some, Option.some.injEq] at hreplica
    have hlater : old.expiresAt < new.expiresAt ↔ lastRefresh announced upds < now := by
      rw [hexpires, hexpires', httl]
      exact add_lt_add_iff_right _
    rw [hlast]
    constructor
    · rintro ⟨-, old', new', hold', hnew', -, -, hlt⟩
      obtain rfl : old = old' := Option.some.inj (hold.symm.trans hold')
      obtain rfl : new = new' := Option.some.inj (hnew.symm.trans hnew')
      exact ⟨hz, hlater.mp hlt⟩
    · rintro ⟨-, hlt⟩
      exact ⟨hack, old, new, hold, hnew, hreplica, hposition, hlater.mpr hlt⟩
  · -- the replica is as it was, and so is its expiry
    have hne : s₁.zoneOf id ≠ z := by rwa [hzone₁]
    have hsame : last.1.replicaOf z id = s₂.replicaOf z id := by
      refine replicaOf_applyEntityUpdate_ne s₂ ?_ id p' now
      rw [(replicaOf_sendEntityUpdates_ne hne upds).2]
      exact hne.symm
    refine iff_of_false ?_ fun hcond => hz hcond.1
    rintro ⟨-, old, new, hold, hnew, -, -, hlt⟩
    rw [hsame] at hnew
    obtain rfl : old = new := Option.some.inj (hold.symm.trans hnew)
    exact absurd hlt (lt_irrefl _)

/-- A server with one assigned zone and one entity in it. -/
def oneZone : Store :=
  (exec (Game.nodeStep (Host.steady Vector3.zero)) (Game.new "gs-1")
    [.own (.assignZone ⟨"z1", "s1", ⟨0, 0⟩, 100⟩),
      .own (.addEntity { Entity.new "e1" "avatar" "" with zoneID := "z1" })]).toStore

theorem housed_oneZone : Housed oneZone := (Game.sound_exec _ "gs-1" _).housed

/-- In the zone without a name, the replica of an entity that the server does not have
follows, and in a zone with a name that of its own entity. -/
theorem forwarded_update_followed_twice :
    let s := (exec (Game.nodeStep (Host.steady Vector3.zero)) (Game.new "gs-1")
      [.own (.assignZone ⟨"", "s1", ⟨0, 0⟩, 100⟩)]).toStore
    let upds : List (Option Vector3 × Time) := [(some ⟨2, 0, 0⟩, 2), (none, 3)]
    let s₁ := (s.notifyEntityEnter "" "r1" (some ⟨1, 0, 0⟩) 1).1.sendEntityUpdates "r1" upds
    let s₂ := (oneZone.notifyEntityEnter "z1" "e1" (some ⟨1, 0, 0⟩) 1).1.sendEntityUpdates "e1" upds
    s.entities.get "r1" = none ∧
      Follows s₁ (s₁.sendEntityUpdate ⟨"r1", some ⟨5, 0, 0⟩⟩ 4).1 "" "r1" ⟨5, 0, 0⟩ ∧
      Follows s₂ (s₂.sendEntityUpdate ⟨"e1", some ⟨5, 0, 0⟩⟩ 4).1 "z1" "e1" ⟨5, 0, 0⟩ := by
  intro s upds s₁ s₂
  have hs : Housed s := (Game.sound_exec _ "gs-1" _).housed
  have hunnamed : s.assignedGrid "" = some 0 := by decide +kernel
  have hassigned : oneZone.assignedGrid "z1" = some 0 := by decide +kernel
  refine ⟨by decide +kernel, ?_, ?_⟩
  · exact ((forwarded_update_followed_iff hs hunnamed "r1" (some ⟨1, 0, 0⟩) 1 upds ⟨5, 0, 0⟩
      4).mpr ⟨by decide +kernel, by decide⟩).2
  · exact ((forwarded_update_followed_iff housed_oneZone hassigned "e1" (some ⟨1, 0, 0⟩) 1 upds
      ⟨5, 0, 0⟩ 4).mpr ⟨by decide +kernel, by decide⟩).2

/-- The update about an entity of a neighbour is acknowledged, and its replica
stays where it was announced. -/
theorem forwarded_update_lost :
    let s₁ := (oneZone.notifyEntityEnter "z1" "r1" (some ⟨1, 0, 0⟩) 1).1
    let last := s₁.sendEntityUpdate ⟨"r1", some ⟨5, 0, 0⟩⟩ 4
    oneZone.entities.get "r1" = none ∧ oneZone.assignedGrid "z1" = some 0 ∧ last.2 = true ∧
      (last.1.replicaOf "z1" "r1").map (fun gh => (gh.position, gh.expiresAt)) =
        (s₁.replicaOf "z1" "r1").map (fun gh => (gh.position, gh.expiresAt)) ∧
      last.1.replicaPosition "z1" "r1" = some ⟨1, 0, 0⟩ ∧
      ¬Follows s₁ last.1 "z1" "r1" ⟨5, 0, 0⟩ := by
  intro s₁ last
  have hstays : last.1.replicaPosition "z1" "r1" = some ⟨1, 0, 0⟩ := by decide +kernel
  refine ⟨by decide +kernel, by decide +kernel, rfl, by decide +kernel, hstays, ?_⟩
  rintro ⟨old, new, -, -, -, hposition, -⟩
  exact absurd (hstays.symm.trans hposition) (by decide)

end Store

end SpatialServer

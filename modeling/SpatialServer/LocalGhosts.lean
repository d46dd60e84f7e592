import SpatialServer.ReachableStores

/-!
# Local replicas and their expiry

An entity that is found in another cell leaves a replica where it was last seen:
an entry in `ghosts` and an identifier on the grid of the zone. One entry is kept
for each entity, but every crossing enters the identifier on the grid anew, and
the sweep takes it out once. As long as no entity crosses while its replica
lives, entry and grid belong together and the sweep leaves nothing behind.
-/
namespace SpatialServer

open Runs

/-- The identifier is not that of a local replica. -/
def NoReplica (id : EntityID) : Prop := ∀ x, id ≠ localGhostID x

theorem noReplica_of_isGhostID {id : EntityID} (h : isGhostID id = false) : NoReplica id := by
  rintro x rfl
  rw [isGhostID_localGhostID] at h
  cases h

/-- The grids have the identifier exactly where an entry says it is. -/
structure Tracked (s : Store) (gid : EntityID) : Prop where
  held : ∀ gh, s.ghosts.get gid = some gh →
    ∃ ref, s.gridOf gh.originZone = some ref ∧ (s.grids.cell ref).Holds gid gh.position
  lacks : ∀ z ref, s.gridOf z = some ref →
    (∀ gh, s.ghosts.get gid = some gh → gh.originZone ≠ z) → (s.grids.cell ref).Lacks gid

namespace Tracked

variable {s s' : Store} {gid : EntityID}

theorem gridOf_lt (h : Housed s) {z : ZoneID} {ref : ℕ} (href : s.gridOf z = some ref) :
    ref < s.grids.next := by
  obtain ⟨sim, hsim, rfl⟩ := Option.map_eq_some_iff.mp href
  exact h.own_grids.lt z sim hsim

theorem gridOf_inj (h : Housed s) {z z' : ZoneID} {ref : ℕ} (href : s.gridOf z = some ref)
    (href' : s.gridOf z' = some ref) : z = z' := by
  obtain ⟨sim, hsim, rfl⟩ := Option.map_eq_some_iff.mp href
  obtain ⟨sim', hsim', heq⟩ := Option.map_eq_some_iff.mp href'
  exact h.own_grids.inj z z' sim sim' hsim hsim' heq.symm

theorem undisturbed (h : Tracked s gid) (hh : Housed s) (hu : Store.Undisturbed gid s s') :
    Tracked s' gid := by
  constructor
  · intro gh hgh
    rw [hu.ghosts] at hgh
    obtain ⟨ref, href, hholds⟩ := h.held gh hgh
    obtain hsame | ⟨hnone, -⟩ := hu.grid gh.originZone
    · exact ⟨ref, hsame.trans href, (hu.old ref (gridOf_lt hh href)).holds hholds⟩
    · rw [hnone] at href
      cases href
  · intro z ref href hother
    rw [hu.ghosts] at hother
    obtain hsame | ⟨-, hnew, hlacks⟩ := hu.grid z
    · rw [hsame] at href
      exact (hu.old ref (gridOf_lt hh href)).lacks (h.lacks z ref href hother)
    · rw [hnew] at href
      cases href
      exact hlacks

theorem releaseZone (h : Tracked s gid) {id : ZoneID} (hs : s.releaseZone id = .ok s') :
    Tracked s' gid := by
  unfold Store.releaseZone at hs
  split_ifs at hs
  cases hs
  have hgrid : ∀ z ref, ((s.zones.del id).get z).map ZoneSim.aoi = some ref →
      z ≠ id ∧ s.gridOf z = some ref := by
    intro z ref href
    rw [Dict.get_del] at href
    split_ifs at href with hz
    · cases href
    · exact ⟨hz, href⟩
  have hgone : gid ∈ s.ghostsOfZone id ↔
      (s.ghosts.get gid).map GhostEntry.originZone = some id := by
    rw [Store.ghostsOfZone, List.mem_filter, Dict.mem_range_iff]
    cases s.ghosts.get gid <;> simp
  constructor
  · intro gh hgh
    simp only [Dict.get_delAll] at hgh
    split_ifs at hgh with hmem
    rw [hgone, hgh] at hmem
    have hz : gh.originZone ≠ id := fun heq => hmem (congrArg some heq)
    obtain ⟨ref, href, hholds⟩ := h.held gh hgh
    exact ⟨ref, by simpa [Store.gridOf, hz] using href, hholds⟩
  · intro z ref href hother
    obtain ⟨hz, href⟩ := hgrid z ref href
    refine h.lacks z ref href fun gh hgh => ?_
    by_cases horigin : gh.originZone = id
    · exact horigin ▸ hz.symm
    · refine hother gh ?_
      simp only [Dict.get_delAll]
      rw [if_neg]
      · exact hgh
      · rw [hgone, hgh]
        exact fun heq => horigin (Option.some.inj heq)

/-- A replica that was not there is entered once. -/
theorem detect {id : EntityID} (h : Tracked s (localGhostID id)) (hh : Housed s) {zid : ZoneID}
    {sim : ZoneSim} (hsim : s.zones.get zid = some sim) (now : EntityID → Time)
    (hcross : s.Crosses sim id) (hnone : s.ghosts.get (localGhostID id) = none) :
    Tracked (Store.detectEntity zid sim now s id) (localGhostID id) := by
  have hlacks : ∀ z ref, s.gridOf z = some ref → (s.grids.cell ref).Lacks (localGhostID id) := by
    intro z ref href
    exact h.lacks z ref href fun gh hgh => by rw [hnone] at hgh; cases hgh
  have hzid : s.gridOf zid = some sim.aoi := by simp [Store.gridOf, hsim]
  obtain ⟨state, -, heq⟩ := Store.exists_detectEntity_eq hcross zid now
  rw [heq]
  constructor
  · intro gh hgh
    rw [Dict.get_set_self] at hgh
    cases hgh
    refine ⟨sim.aoi, hzid, ?_⟩
    simpa [Store.updateGrid] using (hlacks zid sim.aoi hzid).enter_holds state.lastPosition
  · intro z ref href hother
    have hz : zid ≠ z := hother _ (Dict.get_set_self _ _ _)
    have hne : ref ≠ sim.aoi := by
      rintro rfl
      exact hz (gridOf_inj hh hzid href)
    simpa [Store.updateGrid, hne] using hlacks z ref href

/-- The sweep of an overdue replica takes it off the grid. -/
theorem sweep (h : Tracked s gid) (hh : Housed s) {gh : GhostEntry}
    (hgh : s.ghosts.get gid = some gh) {now : Time} (hdue : gh.expiresAt < now) :
    Tracked (Store.sweepGhost now s gid) gid := by
  obtain ⟨ref, href, hholds⟩ := h.held gh hgh
  obtain ⟨sim, hsim, rfl⟩ := Option.map_eq_some_iff.mp href
  have heq : Store.sweepGhost now s gid =
      { s.updateGrid sim.aoi (·.leave gid) with ghosts := s.ghosts.del gid } := by
    simp only [Store.sweepGhost, hgh, hsim]
    exact if_neg (not_le.mpr hdue)
  rw [heq]
  constructor
  · intro gh' hgh'
    rw [Dict.get_del_self] at hgh'
    cases hgh'
  · intro z ref href' _
    by_cases hz : gh.originZone = z
    · have hsame : ref = sim.aoi := by
        rw [hz] at href
        exact Option.some.inj ((show s.gridOf z = some ref from href').symm.trans href)
      subst hsame
      simpa [Store.updateGrid] using hholds.leave_lacks
    · have hlacks := h.lacks z ref href' fun gh'' hgh'' => by
        rw [hgh] at hgh''
        cases hgh''
        exact hz
      have hne : ref ≠ sim.aoi := by
        rintro rfl
        exact hz (gridOf_inj hh href href')
      simpa [Store.updateGrid, hne] using hlacks

end Tracked

/-- The state of all local replicas. -/
structure LocalGhosts (s : Store) : Prop where
  sound : Sound s
  plain : ∀ id, (s.entities.get id).isSome → NoReplica id
  tracked : ∀ x, Tracked s (localGhostID x)

namespace LocalGhosts

variable {s : Store}

theorem empty : LocalGhosts Store.empty := by
  constructor
  case sound => exact Sound.empty
  case tracked => exact fun x => ⟨by simp [Store.empty], by simp [Store.empty, Store.gridOf]⟩
  all_goals simp [Store.empty]

/-- An entitled change touches a replica by making one or by sweeping it. -/
theorem touches_cases (h : LocalGhosts s) {g : Game} {c : Call} {ch : Change}
    (hch : g.Entitled c s ch) (hadd : ∀ e, ch = .addEntity e → NoReplica e.id) {x : EntityID}
    (ht : s.Touches ch (localGhostID x)) :
    (∃ zid sim now, ch = .detect zid sim now x ∧ s.Crosses sim x) ∨
      ∃ now gh, ch = .sweepGhost now (localGhostID x) ∧ s.ghosts.get (localGhostID x) = some gh ∧
        gh.expiresAt < now := by
  have hlive : ∀ id, (s.entityZone.get id).isSome → localGhostID x ≠ id := by
    intro id hsome heq
    rw [h.sound.named.keys_zone] at hsome
    exact h.plain id hsome x heq.symm
  cases ch with
  | addEntity e => exact absurd ht.symm (hadd e rfl x)
  | removeEntity id => exact absurd ht.1 (hlive id ht.2)
  | expire id => exact absurd ht.1 (hlive id ht.2)
  | relocate r e id =>
    obtain ⟨key, hkey, hid, hname⟩ := hch
    have hsame : id = key := by
      rcases hname with rfl | rfl
      · rfl
      · exact hid.trans (h.sound.named.object key r hkey).2
    have heq : localGhostID x = key := Eq.trans ht hsame
    exact absurd heq.symm (h.plain key (by simp [hkey]) x)
  | detect zid sim now id =>
    obtain ⟨heq, hcross⟩ := ht
    obtain rfl := localGhostID_injective heq
    exact .inl ⟨zid, sim, now, rfl, hcross⟩
  | sweepGhost now id =>
    obtain ⟨rfl, gh, hgh, hdue⟩ := ht
    exact .inr ⟨now, gh, rfl, hgh, hdue⟩
  | assignZone z => exact absurd ht id
  | releaseZone z => exact absurd ht id
  | rewrite r e => exact absurd ht id
  | see id state => exact absurd ht not_false

theorem change (h : LocalGhosts s) {g : Game} {c : Call} {ch : Change} (hch : g.Entitled c s ch)
    (hadd : ∀ e, ch = .addEntity e → NoReplica e.id)
    (hcross : ∀ zid sim now id, ch = .detect zid sim now id → s.Crosses sim id →
      s.ghosts.get (localGhostID id) = none) : LocalGhosts (s.change ch) := by
  constructor
  case sound => exact h.sound.change hch
  case plain =>
    intro id hid
    obtain hold | ⟨e, he, rfl⟩ := Store.isSome_entities_change hid
    · exact h.plain id hold
    · exact hadd e he
  case tracked =>
    intro x
    by_cases hrelease : ∃ id, ch = .releaseZone id
    · obtain ⟨id, rfl⟩ := hrelease
      simp only [Store.change]
      cases hs : s.releaseZone id with
      | error _ => exact h.tracked x
      | ok s' => exact (h.tracked x).releaseZone hs
    · by_cases ht : s.Touches ch (localGhostID x)
      · obtain ⟨zid, sim, now, rfl, hc⟩ | ⟨now, gh, rfl, hgh, hdue⟩ := h.touches_cases hch hadd ht
        · exact (h.tracked x).detect h.sound.housed hch.1 now hc (hcross zid sim now x rfl hc)
        · exact (h.tracked x).sweep h.sound.housed hgh hdue
      · exact (h.tracked x).undisturbed h.sound.housed
          (Store.undisturbed_change ht fun id heq => hrelease ⟨id, heq⟩)

end LocalGhosts

namespace Game

/-- Nobody is added under the name of a replica, and nobody crosses while a
replica of an earlier crossing lives. -/
def Spaced (g : Game) (c : Call) : Prop :=
  (∀ id ∈ g.added c, NoReplica id) ∧
    ∀ zid now order sim id, c = .detectZoneBoundaries zid now order → g.zones.get zid = some sim →
      g.Crosses sim id → g.ghosts.get (localGhostID id) = none

/-- The call finds the entity in the cell where it was. -/
def NoCrossing (x : EntityID) (g : Game) (c : Call) : Prop :=
  ∀ zid now order sim, c = .detectZoneBoundaries zid now order → g.zones.get zid = some sim →
    ¬ g.Crosses sim x

theorem localGhosts_step (H : Host) {g : Game} {c : Call} (h : LocalGhosts g.toStore)
    (hc : g.Spaced c) : LocalGhosts (step H g c).toStore := by
  refine store_invariant H (fun s ch hs hch => hs.change hch ?_ ?_) h
  · rintro e rfl
    exact hc.1 e.id (by simp [added, show g.addedEntity c = some e from hch])
  · rintro zid sim now id rfl hcross
    obtain ⟨-, ⟨order, rfl⟩, hsim, hiff, hsame⟩ := hch
    exact hsame.trans (hc.2 zid now order sim id rfl hsim (hiff.mp hcross))

/-- Without a crossing of its entity a replica stays as it is or goes. -/
theorem ghost_stays_or_goes (H : Host) {g : Game} {c : Call} {x : EntityID} {gh : GhostEntry}
    (hc : g.NoCrossing x c)
    (h : g.ghosts.get (localGhostID x) = some gh ∨ g.ghosts.get (localGhostID x) = none) :
    (step H g c).ghosts.get (localGhostID x) = some gh ∨
      (step H g c).ghosts.get (localGhostID x) = none := by
  refine store_invariant (I := fun s => s.ghosts.get (localGhostID x) = some gh ∨
    s.ghosts.get (localGhostID x) = none) H (fun s ch hs hch => ?_) h
  obtain hsame | hnone | ⟨zid, sim, now, id, gh', rfl, hcross, heq, -, -⟩ :=
    s.ghosts_change ch (localGhostID x)
  · rw [hsame]
    exact hs
  · exact .inr hnone
  · obtain rfl := localGhostID_injective heq
    obtain ⟨-, ⟨order, rfl⟩, hsim, hiff, -⟩ := hch
    exact absurd (hiff.mp hcross) (hc zid now order sim rfl hsim)

/-- A sweep deletes every entry that is overdue. -/
theorem ghosts_sweepGhosts (s : Store) {gid : EntityID} {now : Time} (order : List EntityID)
    (h : ∀ gh, s.ghosts.get gid = some gh → gh.expiresAt < now) :
    (s.sweepGhosts now order).ghosts.get gid = none := by
  have hloop : ∀ (ids : List EntityID) (s : Store),
      (∀ gh, s.ghosts.get gid = some gh → gh.expiresAt < now) →
      (gid ∈ ids ∨ s.ghosts.get gid = none) →
      (ids.foldl (Store.sweepGhost now) s).ghosts.get gid = none := by
    intro ids
    induction ids with
    | nil =>
      rintro s - (hmem | hnone)
      · cases hmem
      · exact hnone
    | cons id ids ih =>
      intro s hdue hmem
      have hnext : (Store.sweepGhost now s id).ghosts.get gid = s.ghosts.get gid ∧ gid ≠ id ∨
          (Store.sweepGhost now s id).ghosts.get gid = none := by
        obtain hsame | hnone | ⟨_, _, _, _, _, heq, -⟩ := s.ghosts_change (.sweepGhost now id) gid
        · by_cases hid : gid = id
          · subst hid
            refine .inr ?_
            cases hgh : s.ghosts.get gid with
            | none => exact hsame.trans hgh
            | some gh =>
              simp only [Store.sweepGhost, hgh, if_neg (not_le.mpr (hdue gh hgh))]
              exact Dict.get_del_self _ _
          · exact .inl ⟨hsame, hid⟩
        · exact .inr hnone
        · cases heq
      obtain ⟨hsame, hne⟩ | hnone := hnext
      · refine ih _ (by rwa [hsame]) ?_
        rw [hsame]
        exact hmem.imp_left fun h => (List.mem_cons.mp h).resolve_left hne
      · exact ih _ (by simp [hnone]) (.inr hnone)
  refine hloop _ s h ?_
  rw [Dict.mem_range_iff]
  cases s.ghosts.get gid <;> simp

/-- After a sweep past its expiry, and no crossing of its entity in between, a
local replica has no entry, and no query on the grid of any zone returns it. -/
theorem local_ghost_expires (H : Host) (sid : ServerID) (calls later : List Call)
    (hrun : Along (step H) Spaced (new sid) (calls ++ later)) (gid : EntityID) (gh : GhostEntry)
    (hgh : (exec (step H) (new sid) calls).ghosts.get gid = some gh)
    (hlater : Along (step H) (NoCrossing gh.entityID) (exec (step H) (new sid) calls) later)
    (now : Time) (hdue : gh.expiresAt < now) (order : List EntityID) :
    let g := step H (exec (step H) (new sid) (calls ++ later)) (.sweepGhosts now order)
    g.ghosts.get gid = none ∧ ∀ z sim, g.zones.get z = some sim → ∀ pos,
      gid ∉ (g.grids.cell sim.aoi).query pos ∧
        ∀ radius, gid ∉ (g.grids.cell sim.aoi).entitiesInRange pos radius := by
  intro g
  have hinv : ∀ cs, Along (step H) Spaced (new sid) cs →
      LocalGhosts (exec (step H) (new sid) cs).toStore := fun cs hcs =>
    exec_invariant (fun g => LocalGhosts g.toStore) (fun _ c hg hc => localGhosts_step H hg hc)
      LocalGhosts.empty hcs
  obtain rfl := (hinv calls ((along_append _ _ _).mp hrun).1).sound.replicas gid gh hgh
  have hend := exec_invariant (fun g : Game => g.ghosts.get (localGhostID gh.entityID) = some gh ∨
    g.ghosts.get (localGhostID gh.entityID) = none) (fun _ c hg hc => ghost_stays_or_goes H hc hg)
    (.inl hgh) hlater
  rw [← exec_append] at hend
  have hnone : g.ghosts.get (localGhostID gh.entityID) = none := by
    refine ghosts_sweepGhosts _ order fun gh' hgh' => ?_
    rw [hgh'] at hend
    obtain heq | heq := hend
    · cases heq
      exact hdue
    · cases heq
  have hg : LocalGhosts g.toStore :=
    localGhosts_step H (hinv _ hrun) ⟨by simp [added, addedEntity], by simp⟩
  refine ⟨hnone, fun z sim hsim pos => ?_⟩
  have hlacks := (hg.tracked gh.entityID).lacks z sim.aoi (by simp [Store.gridOf, hsim])
    fun gh' hgh' => by rw [hnone] at hgh'; cases hgh'
  have hquery := hlacks.not_mem_query pos
  exact ⟨hquery, fun radius hmem => hquery ((AOI.mem_entitiesInRange _ _ _ _).mp hmem).1⟩

/-- A host on which an update asks for a place as far out as its payload is
long. -/
def paceHost : Host :=
  { Host.steady Vector3.zero with
    codec := ⟨.ok, fun payload => some ⟨"", some ⟨100 * payload.length, 0, 0⟩⟩, fun _ => none,
      fun _ => none⟩ }

/-- The entity is told to move by a number of cells, and the tick finds it
there. -/
def paceCalls (cells : ℕ) (now : Time) : List Call :=
  [.receive ⟨"e1", [1, 0, 3, 0, 0, 0, 0, 0] ++ List.replicate cells 0⟩, .dispatchNext,
    .detectZoneBoundaries defaultZoneID (fun _ => now) [],
    .updateVisibility defaultZoneID VisitOrder.any, .sweepGhosts now []]

/-- One crossing, and a sweep after the replica has expired. -/
theorem local_ghost_expires_once :
    let calls := .addEntity (Entity.new "e1" "player" "") :: paceCalls 1 1
    ∃ gh, (exec (step paceHost) (new "gs-1") calls).ghosts.get "e1_ghost" = some gh ∧
      gh.expiresAt < 6 * second ∧
      let g := step paceHost (exec (step paceHost) (new "gs-1") (calls ++ []))
        (.sweepGhosts (6 * second) [])
      g.ghosts.get "e1_ghost" = none ∧ ∀ z sim, g.zones.get z = some sim → ∀ pos,
        "e1_ghost" ∉ (g.grids.cell sim.aoi).query pos ∧
          ∀ radius, "e1_ghost" ∉ (g.grids.cell sim.aoi).entitiesInRange pos radius := by
  intro calls
  have hgh : ∃ gh, (exec (step paceHost) (new "gs-1") calls).ghosts.get "e1_ghost" = some gh :=
    Option.isSome_iff_exists.mp (by decide +kernel)
  obtain ⟨gh, hgh⟩ := hgh
  have hexpires : gh.expiresAt < 6 * second := by
    have hvalue : ((exec (step paceHost) (new "gs-1") calls).ghosts.get "e1_ghost").map
        GhostEntry.expiresAt = some (5 * second + 1) := by decide +kernel
    rw [hgh, Option.map_some, Option.some.injEq] at hvalue
    rw [hvalue]
    decide
  have hrun : Along (step paceHost) Spaced (new "gs-1") (calls ++ []) := by
    refine ⟨⟨?_, by simp⟩, ⟨by simp [added, addedEntity], by simp⟩,
      ⟨by simp [added, addedEntity], by simp⟩, ⟨by simp [added, addedEntity], ?_⟩,
      ⟨by simp [added, addedEntity], by simp⟩, ⟨by simp [added, addedEntity], by simp⟩, trivial⟩
    · simpa [added, addedEntity, Entity.new] using noReplica_of_isGhostID (by decide)
    · intro zid now order sim id _ _ _
      have hempty : (exec (step paceHost) (new "gs-1") (calls.take 3)).ghosts.keys = [] := by
        decide +kernel
      refine Option.not_isSome_iff_eq_none.mp fun hsome => ?_
      have hmem := (Dict.mem_keys_iff (exec (step paceHost) (new "gs-1") (calls.take 3)).ghosts
        (localGhostID id)).mpr hsome
      rw [hempty] at hmem
      cases hmem
  exact ⟨gh, hgh, hexpires,
    local_ghost_expires paceHost "gs-1" calls [] hrun "e1_ghost" gh hgh trivial _ hexpires []⟩

/-- Two crossings in a row, and a sweep after the replica of the second has
expired: the entry is gone, and the grid still has the replica of the first. -/
theorem second_crossing_leaves_ghost :
    let g := exec (step paceHost) (new "gs-1")
      (.addEntity (Entity.new "e1" "player" "") :: (paceCalls 1 1 ++ paceCalls 2 2))
    (g.ghosts.get "e1_ghost").map GhostEntry.expiresAt = some (5 * second + 2) ∧
      let g' := step paceHost g (.sweepGhosts (6 * second) [])
      (g'.ghosts.get "e1_ghost").isNone ∧ g'.gridOf defaultZoneID = some 0 ∧
        "e1_ghost" ∈ (g'.grids.cell 0).query Vector3.zero ∧
        "e1_ghost" ∈ (g'.grids.cell 0).entitiesInRange Vector3.zero g'.aoiRadius := by
  decide +kernel

end Game

end SpatialServer

import SpatialServer.PictureOrder
import SpatialServer.ReachableStores

/-!
# Ticks do not depend on the order of maps

Six loops of a tick go over maps, in an order that differs from run to run. If no
identifier is in the entity maps of two zones when they begin, the order cannot
be seen in the outcome. The commands that the tick applies first keep it so,
unless one of them adds an entity to a second zone.
-/
namespace SpatialServer

open Runs

namespace Game

/-! ## The phases of a tick -/

section Phases

variable {g g' : Game} {inp inp' : TickInput}

theorem simulate_order (h : g.picture.Tidy) (N : Numerics) (dt : Duration) (seed : EntityID → ℤ)
    (order order' : List EntityID) :
    (simulate N g dt seed order).picture = (simulate N g dt seed order').picture := by
  rw [picture_simulate, picture_simulate]
  exact Picture.simulate_perm h (Dict.perm_range rfl order order')

theorem tidy_simulate (h : g.picture.Tidy) (N : Numerics) (dt : Duration) (seed : EntityID → ℤ)
    (order : List EntityID) : (simulate N g dt seed order).picture.Tidy := by
  rw [picture_simulate]
  exact Reordering.foldl_invariant (I := Picture.Tidy)
    (fun id _ P hP => Picture.tidy_simulateEntity hP id) h

theorem zoneLoop_order (h : g.picture.Tidy) (hsame : g.picture = g'.picture)
    (hnow : inp.ghostNow = inp'.ghostNow) :
    ((g.zones.range inp.zoneOrder).foldl (fun g zid =>
      (g.detectZoneBoundaries zid (inp.ghostNow zid) (inp.detectOrder zid)).updateVisibility zid
        (inp.visitOrder zid)) g).picture =
      ((g'.zones.range inp'.zoneOrder).foldl (fun g zid =>
        (g.detectZoneBoundaries zid (inp'.ghostNow zid) (inp'.detectOrder zid)).updateVisibility zid
          (inp'.visitOrder zid)) g').picture := by
  have hloop : ∀ (inp : TickInput) (g : Game) (zids : List ZoneID), (zids.foldl (fun g zid =>
      (g.detectZoneBoundaries zid (inp.ghostNow zid) (inp.detectOrder zid)).updateVisibility zid
        (inp.visitOrder zid)) g).picture = zids.foldl (Picture.zoneTurn inp) g.picture :=
    fun inp g zids =>
      (List.foldl_hom picture fun g zid => (g.picture_zoneTurn inp zid).symm).symm
  have hzones : g.zones = g'.zones := congrArg Picture.zones hsame
  rw [hloop, hloop, ← hsame, ← hzones]
  exact Picture.zones_perm h hnow (Dict.perm_range rfl _ _)

theorem sweepGhosts_order (hsame : g.picture = g'.picture) (now : Time)
    (order order' : List EntityID) :
    (g.sweepGhosts now order).picture = (g'.sweepGhosts now order').picture := by
  rw [picture_sweepGhosts, picture_sweepGhosts, ← hsame]
  exact Picture.sweepGhosts_perm (Dict.perm_range (congrArg Picture.ghosts hsame) _ _)

theorem sweepDisconnected_order (hsame : g.picture = g'.picture) (now : Time)
    (order order' : List EntityID) :
    (g.sweepDisconnected now order).picture = (g'.sweepDisconnected now order').picture := by
  rw [picture_sweepDisconnected, picture_sweepDisconnected, ← hsame]
  exact Picture.sweepSessions_perm (Dict.perm_range (congrArg Picture.sessions hsame) _ _)

end Phases

end Game

/-! ## Entities in one zone -/

namespace Store

variable {s : Store}

/-- The entity map of the zone has the identifier. -/
def hasMember (s : Store) (z : ZoneID) (id : EntityID) : Bool :=
  ((s.zones.get z).bind (·.entities.get id)).isSome

/-- No identifier is in the entity maps of two zones. -/
def SingleHomed (s : Store) : Prop :=
  ∀ z z' id, s.hasMember z id → s.hasMember z' id → z = z'

theorem hasMember_iff {z : ZoneID} {id : EntityID} : s.hasMember z id ↔
    ∃ sim, s.zones.get z = some sim ∧ (sim.entities.get id).isSome := by
  unfold hasMember
  cases s.zones.get z <;> simp

theorem singleHomed_iff : s.SingleHomed ↔ ∀ z ∈ s.zones.keys, ∀ z' ∈ s.zones.keys,
    ∀ id ∈ ((s.zones.get z).map (·.entities.keys)).getD [], s.hasMember z' id → z = z' := by
  constructor
  · intro h z hz z' _ id hid
    obtain ⟨sim, hsim⟩ := Option.isSome_iff_exists.mp ((Dict.mem_keys_iff _ _).mp hz)
    rw [hsim] at hid
    exact h z z' id (hasMember_iff.mpr ⟨sim, hsim, (Dict.mem_keys_iff _ _).mp hid⟩)
  · intro h z z' id hz hz'
    obtain ⟨sim, hsim, hid⟩ := hasMember_iff.mp hz
    obtain ⟨sim', hsim', -⟩ := hasMember_iff.mp hz'
    refine h z ?_ z' ?_ id ?_ hz'
    · exact (Dict.mem_keys_iff _ _).mpr (hsim ▸ rfl)
    · exact (Dict.mem_keys_iff _ _).mpr (hsim' ▸ rfl)
    · rw [hsim]
      exact (Dict.mem_keys_iff _ _).mpr hid

theorem SingleHomed.congr {s' : Store} (h : s.SingleHomed) (hzones : s'.zones = s.zones) :
    s'.SingleHomed := by
  unfold SingleHomed hasMember at h ⊢
  rwa [hzones]

instance (s : Store) : Decidable s.SingleHomed := decidable_of_iff _ singleHomed_iff.symm

theorem hasMember_ensureZone {zid z : ZoneID} {id : EntityID}
    (h : (s.ensureZone zid).hasMember z id) : s.hasMember z id := by
  unfold ensureZone at h
  split at h
  · exact h
  · obtain ⟨sim, hsim, hid⟩ := hasMember_iff.mp h
    simp only [Dict.get_set] at hsim
    split_ifs at hsim
    · cases hsim
      simp at hid
    · exact hasMember_iff.mpr ⟨sim, hsim, hid⟩

/-- An entity that is added joins one zone. -/
theorem hasMember_addEntity {e : Entity} {z : ZoneID} {id : EntityID}
    (h : (s.addEntity e).hasMember z id) : s.hasMember z id ∨ z = targetZone e ∧ id = e.id := by
  obtain ⟨sim, hsim, heq⟩ := s.exists_addEntity_eq e
  rw [heq] at h
  obtain ⟨sim', hsim', hid⟩ := hasMember_iff.mp h
  obtain ⟨r, hr⟩ := Option.isSome_iff_exists.mp hid
  obtain ⟨hz, hx, -⟩ | ⟨old, hold, hr⟩ := member_placeEntity hsim hsim' hr
  · exact .inr ⟨hz, hx.trans (deriveSpace_id _ _)⟩
  · exact .inl (hasMember_ensureZone (hasMember_iff.mpr ⟨old, hold, hr ▸ rfl⟩))

theorem hasMember_removeEntity {x : EntityID} {z : ZoneID} {id : EntityID}
    (h : (s.removeEntity x).hasMember z id) : s.hasMember z id := by
  unfold removeEntity at h
  split at h
  · exact h
  · next zid _ =>
    dsimp only at h
    split at h
    · next sim hsim =>
      obtain ⟨sim', hsim', hid⟩ := hasMember_iff.mp h
      simp only [Dict.get_set] at hsim'
      split_ifs at hsim' with hz
      · cases hsim'
        refine hasMember_iff.mpr ⟨sim, hz ▸ hsim, ?_⟩
        by_cases hx : id = x
        · simp [hx] at hid
        · rwa [Dict.get_del_ne _ hx] at hid
      · exact hasMember_iff.mpr ⟨sim', hsim', hid⟩
    · exact h

theorem SingleHomed.addEntity (h : s.SingleHomed) {e : Entity}
    (hhome : ∀ z, s.hasMember z e.id → z = targetZone e) : (s.addEntity e).SingleHomed := by
  intro z z' id hz hz'
  obtain hz | ⟨rfl, rfl⟩ := hasMember_addEntity hz <;>
    obtain hz' | ⟨rfl, hid⟩ := hasMember_addEntity hz'
  · exact h z z' id hz hz'
  · exact hhome z (hid ▸ hz)
  · exact (hhome z' hz').symm
  · rfl

end Store

namespace Game

/-- A call that adds an entity adds it to the zone that has it, if a zone has it. -/
def KeepsHome (g : Game) (c : Call) : Prop :=
  ∀ e ∈ g.addedEntity c, ∀ z ∈ g.zones.keys, g.hasMember z e.id → z = Store.targetZone e

instance (g : Game) (c : Call) : Decidable (g.KeepsHome c) := by
  unfold KeepsHome
  infer_instance

/-- The calls with which a tick drains the command queue. -/
def drainCalls (cmdBound : ℕ) (now : Time) : List Call :=
  .beginTick now :: List.replicate cmdBound .applyCmd

/-- The states agree in everything but the order of maps and of cells. -/
structure Agrees (g g' : Game) : Prop where
  entities : ∀ id, g.entities.get id = g'.entities.get id
  /-- The objects with their positions and behaviours. -/
  objects : ∀ r, g.objects.cell r = g'.objects.cell r
  zones : g.zones = g'.zones
  entityZone : ∀ id, g.entityZone.get id = g'.entityZone.get id
  visible : ∀ id, (g.entityAOI.get id).map EntityAOIState.sight =
    (g'.entityAOI.get id).map EntityAOIState.sight
  ghosts : ∀ id, g.ghosts.get id = g'.ghosts.get id
  sessionStates : ∀ id, g.sessionStates.get id = g'.sessionStates.get id
  query : ∀ ref pos, (g.grids.cell ref).query pos = (g'.grids.cell ref).query pos
  entitiesInRange : ∀ ref center radius, (g.grids.cell ref).entitiesInRange center radius =
    (g'.grids.cell ref).entitiesInRange center radius
  count : ∀ ref, (g.grids.cell ref).count = (g'.grids.cell ref).count

theorem Agrees.of_picture {g g' : Game} (h : g.picture = g'.picture) : Agrees g g' where
  entities id := congrArg (Picture.entities · id) h
  objects r := congrArg (Picture.objects · r) h
  zones := congrArg Picture.zones h
  entityZone id := congrArg (Picture.entityZone · id) h
  visible id := congrArg (Picture.sights · id) h
  ghosts id := congrArg (Picture.ghosts · id) h
  sessionStates id := congrArg (Picture.sessions · id) h
  query ref pos := AOI.query_eq_of_picture (congrArg (Picture.grids · ref) h) pos
  entitiesInRange ref center radius :=
    AOI.entitiesInRange_eq_of_picture (congrArg (Picture.grids · ref) h) center radius
  count ref := AOI.count_eq_of_picture (congrArg (Picture.grids · ref) h)

theorem Agrees.sees {g g' : Game} (h : Agrees g g') (o x : EntityID) :
    ((g.entityAOI.get o).map fun state => (state.visible.get x).isSome) =
      (g'.entityAOI.get o).map fun state => (state.visible.get x).isSome := by
  have hvisible := h.visible o
  rcases hstate : g.entityAOI.get o with _ | state <;>
    rcases hstate' : g'.entityAOI.get o with _ | state' <;>
    simp only [hstate, hstate', Option.map_none, Option.map_some, reduceCtorEq,
      Option.some.injEq] at hvisible ⊢
  exact Bool.eq_iff_iff.mpr (iff_of_eq (congrArg (fun s : Sight => x ∈ s.visible) hvisible))

/-- The ticks read the same clocks and the same random numbers. -/
structure SameReadings (inp inp' : TickInput) : Prop where
  now : inp.now = inp'.now
  seed : inp.seed = inp'.seed
  ghostNow : inp.ghostNow = inp'.ghostNow
  ghostSweepNow : inp.ghostSweepNow = inp'.ghostSweepNow
  sessionNow : inp.sessionNow = inp'.sessionNow

theorem tidy_picture {g : Game} (h : Sound g.toStore) (hhome : g.SingleHomed) :
    g.picture.Tidy where
  object_inj id id' r hr hr' := (h.named.object id r hr).2.symm.trans (h.named.object id' r hr').2
  member_id z sim id r hsim hr := (h.named.member z sim id r hsim hr).2
  grid_inj := h.housed.own_grids.inj
  home z z' _ _ id hsim hsim' hid hid' := hhome z z' id
    (Store.hasMember_iff.mpr ⟨_, hsim, hid⟩) (Store.hasMember_iff.mpr ⟨_, hsim', hid'⟩)

theorem singleHomed_applyCmd {g : Game} (h : g.SingleHomed) (hhome : g.KeepsHome .applyCmd) :
    g.applyCmd.SingleHomed := by
  unfold applyCmd
  rcases hrecv : g.cmds.recv with _ | ⟨cmd, ch⟩
  · exact h
  · cases cmd with
    | add e =>
      refine Store.SingleHomed.addEntity h fun z hz => hhome e ?_ z ?_ hz
      · simp [addedEntity, hrecv]
      · obtain ⟨sim, hsim, -⟩ := Store.hasMember_iff.mp hz
        exact (Dict.mem_keys_iff _ _).mpr (hsim ▸ rfl)
    | remove id =>
      exact fun z z' x hz hz' =>
        h z z' x (Store.hasMember_removeEntity hz) (Store.hasMember_removeEntity hz')

section Drained

variable {H : Host} {g : Game} {now : Time}

theorem singleHomed_drained {n : ℕ} (h : g.SingleHomed)
    (hcmds : Along (step H) KeepsHome g (drainCalls n now)) :
    (applyCmd^[n] { g with lastTickAt := now }).SingleHomed := by
  have happly : Along (step H) (fun _ c => c = .applyCmd) { g with lastTickAt := now }
      (List.replicate n .applyCmd) := Along.of_forall_mem fun _ _ hc => List.eq_of_mem_replicate hc
  have hbegun : Store.SingleHomed { g with lastTickAt := now }.toStore := h
  have hrun := (hcmds.2.and happly : Along (step H) (fun g c => g.KeepsHome c ∧ c = .applyCmd)
    { g with lastTickAt := now } (List.replicate n .applyCmd))
  rw [← exec_replicate H .applyCmd (f := applyCmd) fun _ => rfl]
  refine exec_invariant (fun g : Game => g.SingleHomed) (fun g c hg hc => ?_) hbegun hrun
  obtain ⟨hhome, rfl⟩ := hc
  exact singleHomed_applyCmd hg hhome

theorem sound_iterate (hsound : Sound g.toStore) {f : Game → Game} (c : Call)
    (hf : ∀ g, step H g c = f g) (n : ℕ) : Sound (f^[n] g).toStore := by
  induction n generalizing g with
  | zero => exact hsound
  | succ n ih => exact ih (hf g ▸ sound_step H hsound c)

/-- What the tick simulates. -/
theorem tidy_drained {n : ℕ} (m : ℕ) (hsound : Sound g.toStore) (hhome : g.SingleHomed)
    (hcmds : Along (step H) KeepsHome g (drainCalls n now)) :
    ((dispatchNext H.codec)^[m] (applyCmd^[n] { g with lastTickAt := now })).picture.Tidy := by
  have hzones : ∀ g : Game, ((dispatchNext H.codec)^[m] g).zones = g.zones := by
    induction m with
    | zero => exact fun _ => rfl
    | succ m ih => exact fun g => (ih _).trans (Quiet.dispatchNext H.codec g).maps.zones
  refine tidy_picture ?_ ((singleHomed_drained hhome hcmds).congr (hzones _))
  exact sound_iterate (sound_iterate (H := H) (g := { g with lastTickAt := now }) hsound .applyCmd
    (fun _ => rfl) n) .dispatchNext (fun _ => rfl) m

end Drained

/-- For a server that was run in any way, if no identifier is in two zones and no
command of the queue adds one to a second zone, the order of maps cannot be seen
in the state after the tick. -/
theorem tick_order_agrees (H : Host) (sid : ServerID) (calls : List NodeCall)
    {inp inp' : TickInput} (hinp : SameReadings inp inp') :
    let g := exec (nodeStep H) (new sid) calls
    g.SingleHomed → Along (step H) KeepsHome g (drainCalls cmdChannelBuffer inp.now) →
      Agrees (tick H inp g) (tick H inp' g) := by
  intro g hhome hcmds
  have htidy := tidy_drained maxPacketsPerTick (sound_exec H sid calls) hhome hcmds
  refine .of_picture ?_
  unfold tick tickBounded
  simp only [← hinp.now, ← hinp.seed, ← hinp.ghostSweepNow, ← hinp.sessionNow]
  refine sweepDisconnected_order (sweepGhosts_order ?_ _ _ _) _ _ _
  exact zoneLoop_order (tidy_simulate htidy _ _ _ _) (simulate_order htidy _ _ _ _ _) hinp.ghostNow

/-- Two clients share a zone, and a command waits. -/
def sharedZone (e : Entity) : List NodeCall :=
  [.own (.addEntity { Entity.new "e1" "avatar" "" with zoneID := "z1" }),
    .own (.addEntity { Entity.new "e2" "avatar" "" with zoneID := "z1" }),
    .own (.enqueueAddEntity e)]

/-- The zones and the observers are visited in the given orders. -/
def visiting (zids : List ZoneID) (ids : List EntityID) : TickInput :=
  { TickInput.reading second with
    zoneOrder := zids
    simulateOrder := ids
    visitOrder := fun _ => ⟨ids, fun _ => [], fun _ => []⟩ }

/-- A third client joins the default zone. -/
theorem tick_order_agrees_newcomer :
    let H := Host.steady Vector3.zero
    let g := exec (nodeStep H) (new "gs-1") (sharedZone (Entity.new "e3" "avatar" ""))
    g.SingleHomed ∧ Along (step H) KeepsHome g (drainCalls cmdChannelBuffer second) ∧
      Agrees (tick H (visiting ["z1", "default"] ["e1", "e2", "e3"]) g)
        (tick H (visiting ["default", "z1"] ["e3", "e2", "e1"]) g) := by
  refine ⟨by decide +kernel, by decide +kernel, ?_⟩
  exact tick_order_agrees (Host.steady Vector3.zero) "gs-1"
    (sharedZone (Entity.new "e3" "avatar" "")) ⟨rfl, rfl, rfl, rfl, rfl⟩ (by decide +kernel)
    (by decide +kernel)

/-- The first client is added to a second zone: whether it sees the other client
depends on which of its zones comes last. -/
theorem second_home_shows_order :
    let H := Host.steady Vector3.zero
    let g := exec (nodeStep H) (new "gs-1") (sharedZone (Entity.new "e1" "avatar" ""))
    g.SingleHomed ∧ SameReadings (visiting ["z1", "default"] []) (visiting ["default", "z1"] []) ∧
      ¬Agrees (tick H (visiting ["z1", "default"] []) g)
        (tick H (visiting ["default", "z1"] []) g) := by
  refine ⟨by decide +kernel, ⟨rfl, rfl, rfl, rfl, rfl⟩, fun h => ?_⟩
  have hsees := h.sees "e1" "e2"
  rw [tick_eq_tickBounded (n := 1) (m := 0) (by decide) (by decide) (by decide +kernel)
    (by decide +kernel), tick_eq_tickBounded (n := 1) (m := 0) (by decide) (by decide)
    (by decide +kernel) (by decide +kernel)] at hsees
  exact absurd hsees (by decide +kernel)

end Game

end SpatialServer

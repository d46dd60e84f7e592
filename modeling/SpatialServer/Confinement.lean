import SpatialServer.Noninterference

/-!
# How far a packet reaches

Whatever bytes a client sends, the server changes nothing but the position of
the entity of the connection. Two runs that differ in the bytes of one client
therefore agree on all other entities. That a client without an entity changes
nothing at all is true of its positions and actions; the state it announces for
an entity of somebody else is published like that of any other client.
-/
namespace SpatialServer

open Runs

namespace Game

/-- From `g` to `g'` nothing changes but the position of one entity. Events are
not counted. -/
structure Confined (c : EntityID) (g g' : Game) : Prop where
  zones : g'.zones = g.zones
  entities : g'.entities = g.entities
  ghosts : g'.ghosts = g.ghosts
  ghostStore : g'.ghostStore = g.ghostStore
  sessionStates : g'.sessionStates = g.sessionStates
  entityZone : g'.entityZone = g.entityZone
  entityAOI : g'.entityAOI = g.entityAOI
  others : ∀ x, x ≠ c → g'.entityOf x = g.entityOf x
  grids : ∀ x, x ≠ c → ∀ ref, AOI.Agree x (g.grids.cell ref) (g'.grids.cell ref)
  self : ∀ e, g.entityOf c = some e → ∃ pos, g'.entityOf c = some { e with position := pos }

/-- Two servers agree on every entity but one. The grids may have the names in
`moved` elsewhere, and observers may see those in `hidden` or not. -/
structure SameOthers (c : EntityID) (moved hidden : Set EntityID) (g g' : Game) : Prop where
  entity : ∀ x, x ≠ c → g'.entityOf x = g.entityOf x
  zone : ∀ x, x ≠ c → g'.entityZone.get x = g.entityZone.get x
  sight : ∀ x, x ≠ c → (g'.entityAOI.get x).map (·.sightBut hidden) =
    (g.entityAOI.get x).map (·.sightBut hidden)
  grid : ∀ x, x ∉ moved → ∀ ref, AOI.Agree x (g.grids.cell ref) (g'.grids.cell ref)

/-- The names under which the grids know an entity and the replica it leaves. -/
def traces (c : EntityID) : Set EntityID := {c, localGhostID c}

/-- What the bytes of a client may do. -/
structure ReachesOwn (H : Host) (g : Game) (c : EntityID) (data : Bytes) : Prop where
  confined : Confined c g (dispatch H.codec g ⟨c, data⟩)
  /-- The frame or its message does not decode, or is of no kind that is served. -/
  undecoded : Wire.request H.codec data = none → dispatch H.codec g ⟨c, data⟩ = g
  unknown : g.entities.get c = none → dispatch H.codec g ⟨c, data⟩ = g
  /-- Packets dispatched one after the other. -/
  packets : ∀ ps ps', List.Forall₂ (InboundPacket.SameBut c) ps ps' →
    SameOthers c {c} ∅ (exec (dispatch H.codec) g ps) (exec (dispatch H.codec) g ps')
  /-- Packets among all other calls. Where the entity is decides who sees it. -/
  runs : ∀ calls calls', List.Forall₂ (NodeCall.SameBut c) calls calls' →
    SameOthers c (traces c) (traces c) (exec (nodeStep H) g calls) (exec (nodeStep H) g calls')

/-- Nobody else is in range of the entity. -/
def Alone (g : Game) (e : Entity) : Prop :=
  ∀ ref, g.gridRefOf e.id = some ref →
    ∀ x ∈ (g.grids.cell ref).entitiesInRange e.position g.aoiRadius, x = e.id

/-- The bytes announce no state, or that of an entity that is alone. -/
def Unheard (codec : Wire.Codec) (g : Game) (data : Bytes) : Prop :=
  ∀ st payload e, Wire.request codec data = some (.state st payload) →
    g.entityOf st.entityID = some e → g.Alone e

/-! ## The frame of a packet -/

theorem ghosts_obey (s : Store) (c : EntityID) (req : Option Request) :
    (s.obey c req).ghosts = s.ghosts := by
  rcases req with _ | upd | act | ⟨st, payload⟩
  · rfl
  · simp only [Store.obey, Store.reposition, Store.moveOnGrid]
    split
    · rfl
    · split <;> rfl
  · rfl
  · rfl

theorem entityOf_obey_self (s : Store) (c : EntityID) (req : Option Request) {e : Entity}
    (he : s.entityOf c = some e) :
    ∃ pos, (s.obey c req).entityOf c = some { e with position := pos } := by
  obtain ⟨r, hr, rfl⟩ := Option.map_eq_some_iff.mp he
  rcases req with _ | upd | act | ⟨st, payload⟩
  · exact ⟨_, he⟩
  · refine ⟨upd.position.getD Vector3.zero, ?_⟩
    simp only [Store.obey, Store.reposition, hr, Store.entityOf, Store.objects_moveOnGrid,
      (Store.SameMaps.moveOnGrid _ _ _).entities]
    simp [Store.setObject, hr]
  · exact ⟨_, he⟩
  · exact ⟨_, he⟩

theorem confined_dispatch {g : Game} (hn : Named g.toStore) (codec : Wire.Codec) (c : EntityID)
    (data : Bytes) : Confined c g (dispatch codec g ⟨c, data⟩) := by
  have hquiet := Quiet.dispatch codec g ⟨c, data⟩
  have hstore := toStore_dispatch codec g ⟨c, data⟩
  have hagree : g.toStore.AgreeBut c {c} (dispatch codec g ⟨c, data⟩).toStore := by
    rw [hstore]
    exact .obey_right (Set.mem_singleton c) hn _
  refine ⟨hagree.zones, hagree.entities, ?_, hagree.ghostStore, hquiet.publishes.sessionStates,
    hagree.entityZone, hquiet.maps.entityAOI, fun x hx => hagree.entityOf_eq hn hx,
    fun x hx ref => (hagree.grids.cell ref).agree hx, fun e he => ?_⟩
  · rw [hstore, ghosts_obey]
  · rw [hstore]
    exact entityOf_obey_self _ c _ he

/-! ## Senders without an entity -/

theorem publishAll_eq_self_iff (g : Game) (evts : List Event) :
    g.publishAll evts = g ↔ evts = [] := by
  refine ⟨fun heq => ?_, fun heq => heq ▸ rfl⟩
  obtain ⟨hsent, -, hdropped⟩ := g.publishAll_eq evts
  rw [heq] at hsent hdropped
  have htake : (evts.take g.room).length = 0 := by
    have := congrArg List.length hsent
    simpa using this
  rw [List.length_take] at htake
  exact List.eq_nil_of_length_eq_zero (by omega)

theorem audience_eq_nil_iff (g : Game) (e : Entity) : g.audience e = [] ↔ g.Alone e := by
  unfold audience Alone
  cases g.gridRefOf e.id with
  | none => simp
  | some ref => simp [Store.observersOf, List.filter_eq_nil_iff]

/-- The only trace of a sender without an entity are announced states. -/
theorem dispatch_eq_self_iff {g : Game} {c : EntityID} (hunknown : g.entities.get c = none)
    (codec : Wire.Codec) (data : Bytes) :
    dispatch codec g ⟨c, data⟩ = g ↔ Unheard codec g data := by
  rw [dispatch_eq_serve, Unheard]
  cases Wire.request codec data with
  | none => simp [serve]
  | some req =>
    cases req with
    | position upd => simp [serve, dispatchPositionUpdate, hunknown]
    | action act => simp [serve, dispatchEntityAction_eq]
    | state st payload =>
      simp only [serve, dispatchEntityState_eq, Option.some.injEq, Request.state.injEq, and_imp]
      cases he : g.entityOf st.entityID with
      | none =>
        simp only [true_iff]
        rintro _ _ e rfl rfl he'
        rw [he] at he'
        cases he'
      | some e =>
        simp only [publishAll_eq_self_iff, List.map_eq_nil_iff, audience_eq_nil_iff]
        constructor
        · rintro halone _ _ e' rfl rfl he'
          rw [he] at he'
          cases he'
          exact halone
        · intro h
          exact h st payload e rfl rfl he

/-! ## Two runs -/

theorem named_dispatch {g : Game} (hn : Named g.toStore) (codec : Wire.Codec) (p : InboundPacket) :
    Named (dispatch codec g p).toStore := by
  have hself : g.toStore.AgreeBut p.clientID {p.clientID} (dispatch codec g p).toStore := by
    rw [toStore_dispatch]
    exact .obey_right (Set.mem_singleton _) hn _
  exact hself.named hn

theorem sameOthers_packets {g : Game} (hn : Named g.toStore) (codec : Wire.Codec) {c : EntityID}
    {ps ps' : List InboundPacket} (h : List.Forall₂ (InboundPacket.SameBut c) ps ps') :
    SameOthers c {c} ∅ (exec (dispatch codec) g ps) (exec (dispatch codec) g ps') := by
  -- packets leave what observers have seen alone, so only the rest needs two runs
  have hseen : ∀ qs, (exec (dispatch codec) g qs).entityAOI = g.entityAOI :=
    exec_keeps (fun k : Game => k.entityAOI = g.entityAOI)
      (fun k p hk => (Quiet.dispatch codec k p).maps.entityAOI.trans hk) rfl
  let R (k k' : Game) : Prop := Named k.toStore ∧ AgreeBut c {c} k k'
  have hstep : ∀ k k' p p', R k k' → InboundPacket.SameBut c p p' →
      R (dispatch codec k p) (dispatch codec k' p') := fun k k' p p' hk hp =>
    ⟨named_dispatch hk.1 codec p, hk.2.dispatch hk.1 (Set.mem_singleton c) codec hp⟩
  obtain ⟨hnamed, hagree⟩ := exec_rel hstep ⟨hn, .refl c {c} g⟩ h
  refine ⟨fun x hx => hagree.store.entityOf_eq hnamed hx, fun x _ => ?_, fun x _ => ?_,
    fun x hx ref => (hagree.store.grids.cell ref).agree hx⟩
  · rw [hagree.store.entityZone]
  · rw [hseen, hseen]

theorem sameOthers_runs (H : Host) {g : Game} (hs : Sound g.toStore) {c : EntityID}
    {calls calls' : List NodeCall} (h : List.Forall₂ (NodeCall.SameBut c) calls calls') :
    SameOthers c (traces c) (traces c) (exec (nodeStep H) g calls)
      (exec (nodeStep H) g calls') := by
  have hagree : AgreeBut c (traces c) (exec (nodeStep H) g calls) (exec (nodeStep H) g calls') :=
    agreeBut_exec H (.inl rfl) (.inr rfl) hs h
  have hsound : Sound (exec (nodeStep H) g calls).toStore :=
    exec_keeps (fun k : Game => Sound k.toStore) (fun _ call hk => sound_nodeStep H hk call) hs
      calls
  exact ⟨fun x hx => hagree.store.entityOf_eq hsound.named hx,
    fun x _ => by rw [hagree.store.entityZone], hagree.store.sights,
    fun x hx ref => (hagree.store.grids.cell ref).agree hx⟩

/-- In every reachable state, the bytes of a client reach its own entity only, if
and only if a client without an entity announces nothing that anybody hears. -/
theorem packet_reaches_own_iff (H : Host) (sid : ServerID) (before : List NodeCall) (c : EntityID)
    (data : Bytes) :
    ReachesOwn H (exec (nodeStep H) (new sid) before) c data ↔
      ((exec (nodeStep H) (new sid) before).entities.get c = none →
        Unheard H.codec (exec (nodeStep H) (new sid) before) data) := by
  have hs := sound_exec H sid before
  constructor
  · intro h hunknown
    exact (dispatch_eq_self_iff hunknown H.codec data).mp (h.unknown hunknown)
  · intro h
    refine ⟨confined_dispatch hs.named H.codec c data, fun hnone => ?_, fun hunknown => ?_,
      fun ps ps' hps => sameOthers_packets hs.named H.codec hps,
      fun calls calls' hcalls => sameOthers_runs H hs hcalls⟩
    · rw [dispatch_eq_serve, hnone]
      rfl
    · exact (dispatch_eq_self_iff hunknown H.codec data).mpr (h hunknown)

/-- A client that has no entity announces a state of the first of two others, and
the second is told. -/
theorem unknown_client_announces_state :
    let H := namingHost "e1"
    let g := exec (nodeStep H) (new "gs-1")
      (["e1", "e2"].map fun id =>
        .own (.addEntity { Entity.new id "player" "" with ownerID := id }))
    let data : Bytes := [1, 0, 8, 0, 0, 0, 0, 0]
    g.entities.get "x" = none ∧
      (g.published (dispatch H.codec g ⟨"x", data⟩)).map (fun evt =>
        (evt.kind, evt.observer, evt.entityID)) = [(.state, "e2", "e1")] ∧
      ¬ ReachesOwn H g "x" data := by
  intro H g data
  have hunknown : g.entities.get "x" = none := by decide +kernel
  have hevents : (g.published (dispatch H.codec g ⟨"x", data⟩)).map (fun evt =>
      (evt.kind, evt.observer, evt.entityID)) = [(.state, "e2", "e1")] := by decide +kernel
  refine ⟨hunknown, hevents, fun h => ?_⟩
  rw [h.unknown hunknown, published_self] at hevents
  cases hevents

end Game

end SpatialServer

import SpatialServer.GameRuns

/-!
# What the methods leave alone

Publishing an event appends it to the history of the event channel or counts it
as dropped, and touches nothing else. The phases of the tick that move, replicate
and show entities publish events and rewrite objects, grids and replicas; the
maps that say which entities exist and where are out of their reach.
-/
namespace SpatialServer

/-- The two stores have the same maps of zones and entities. -/
structure Store.SameMaps (s s' : Store) : Prop where
  zones : s'.zones = s.zones
  entities : s'.entities = s.entities
  entityZone : s'.entityZone = s.entityZone
  entityAOI : s'.entityAOI = s.entityAOI
  aoiIndex : s'.aoiIndex = s.aoiIndex
  aoiRadius : s'.aoiRadius = s.aoiRadius

namespace Store.SameMaps

variable {s s' s'' : Store}

theorem refl (s : Store) : SameMaps s s := ⟨rfl, rfl, rfl, rfl, rfl, rfl⟩

theorem trans (h : SameMaps s s') (h' : SameMaps s' s'') : SameMaps s s'' :=
  ⟨h'.zones.trans h.zones, h'.entities.trans h.entities, h'.entityZone.trans h.entityZone,
    h'.entityAOI.trans h.entityAOI, h'.aoiIndex.trans h.aoiIndex, h'.aoiRadius.trans h.aoiRadius⟩

theorem setObject (s : Store) (r : ℕ) (e : Entity) : SameMaps s (s.setObject r e) :=
  ⟨rfl, rfl, rfl, rfl, rfl, rfl⟩

theorem moveOnGrid (s : Store) (id : EntityID) (pos : Vector3) :
    SameMaps s (s.moveOnGrid id pos) := by
  unfold Store.moveOnGrid
  split <;> exact ⟨rfl, rfl, rfl, rfl, rfl, rfl⟩

theorem detectEntity (zid : ZoneID) (sim : ZoneSim) (now : EntityID → Time) (s : Store)
    (id : EntityID) : SameMaps s (Store.detectEntity zid sim now s id) := by
  unfold Store.detectEntity
  split
  · dsimp only
    split
    · exact refl s
    · exact ⟨rfl, rfl, rfl, rfl, rfl, rfl⟩
  · exact refl s

theorem detectZoneBoundaries (s : Store) (zid : ZoneID) (now : EntityID → Time)
    (order : List EntityID) : SameMaps s (s.detectZoneBoundaries zid now order) := by
  unfold Store.detectZoneBoundaries
  split
  · exact refl s
  · next sim _ =>
    exact List.foldlRecOn (motive := SameMaps s) _ _ (refl s)
      fun s' hs' id _ => hs'.trans (detectEntity zid sim now s' id)

theorem sweepGhost (now : Time) (s : Store) (id : EntityID) :
    SameMaps s (Store.sweepGhost now s id) := by
  unfold Store.sweepGhost
  split
  · exact refl s
  · split
    · exact refl s
    · dsimp only
      split <;> exact ⟨rfl, rfl, rfl, rfl, rfl, rfl⟩

theorem sweepGhosts (s : Store) (now : Time) (order : List EntityID) :
    SameMaps s (s.sweepGhosts now order) :=
  List.foldlRecOn (motive := SameMaps s) _ _ (refl s)
    fun s' hs' id _ => hs'.trans (sweepGhost now s' id)

end Store.SameMaps

namespace Store

@[simp] theorem objects_moveOnGrid (s : Store) (id : EntityID) (pos : Vector3) :
    (s.moveOnGrid id pos).objects = s.objects := by
  unfold moveOnGrid
  split <;> rfl

@[simp] theorem objects_detectEntity (zid : ZoneID) (sim : ZoneSim) (now : EntityID → Time)
    (s : Store) (id : EntityID) : (detectEntity zid sim now s id).objects = s.objects := by
  unfold detectEntity
  split
  · dsimp only
    split <;> rfl
  · rfl

@[simp] theorem objects_detectZoneBoundaries (s : Store) (zid : ZoneID) (now : EntityID → Time)
    (order : List EntityID) : (s.detectZoneBoundaries zid now order).objects = s.objects := by
  unfold detectZoneBoundaries
  split
  · rfl
  · exact List.foldlRecOn (motive := fun s' : Store => s'.objects = s.objects) _ _ rfl
      fun s' hs' id _ => (objects_detectEntity _ _ _ s' id).trans hs'

@[simp] theorem objects_sweepGhost (now : Time) (s : Store) (id : EntityID) :
    (sweepGhost now s id).objects = s.objects := by
  unfold sweepGhost
  split
  · rfl
  · split
    · rfl
    · dsimp only
      split <;> rfl

@[simp] theorem objects_sweepGhosts (s : Store) (now : Time) (order : List EntityID) :
    (s.sweepGhosts now order).objects = s.objects :=
  List.foldlRecOn (motive := fun s' : Store => s'.objects = s.objects) _ _ rfl
    fun s' hs' id _ => (objects_sweepGhost now s' id).trans hs'

end Store

/-- The events that tell observers about an entity they already see. -/
def Event.IsUpdate (evt : Event) : Prop := evt.kind = .move ∨ evt.kind = .state

namespace Game

@[simp] theorem toStore_publish (g : Game) (evt : Event) : (g.publish evt).toStore = g.toStore := by
  unfold publish
  split <;> rfl

@[simp] theorem toStore_publishAll (g : Game) (evts : List Event) :
    (g.publishAll evts).toStore = g.toStore := by
  induction evts generalizing g with
  | nil => rfl
  | cons evt evts ih => exact (ih (g.publish evt)).trans (toStore_publish g evt)

theorem publishAll_append (g : Game) (evts evts' : List Event) :
    g.publishAll (evts ++ evts') = (g.publishAll evts).publishAll evts' := List.foldl_append

@[simp] theorem toStore_enqueueMove (g : Game) (id : EntityID) (pos : Vector3) :
    (g.enqueueMove id pos).toStore = g.toStore := by
  unfold enqueueMove
  split
  · exact toStore_publishAll _ _
  · rfl

@[simp] theorem toStore_enqueueCmd (g : Game) (cmd : Cmd) : (g.enqueueCmd cmd).toStore = g.toStore := by
  unfold enqueueCmd
  split <;> rfl

@[simp] theorem toStore_receive (g : Game) (pkt : InboundPacket) :
    (g.receive pkt).toStore = g.toStore := by
  unfold receive
  split <;> rfl

@[simp] theorem toStore_drainEvent (g : Game) : g.drainEvent.toStore = g.toStore := by
  unfold drainEvent
  split <;> rfl

@[simp] theorem toStore_markDisconnected (g : Game) (id : EntityID) (now : Time) :
    (g.markDisconnected id now).toStore = g.toStore := by
  unfold markDisconnected
  split <;> rfl

@[simp] theorem toStore_markReconnected (g : Game) (id : EntityID) :
    (g.markReconnected id).toStore = g.toStore := rfl

@[simp] theorem toStore_dispatchEntityState (g : Game) (st : Wire.EntityState) (payload : Bytes) :
    (g.dispatchEntityState st payload).toStore = g.toStore := by
  unfold dispatchEntityState
  split
  · rfl
  · dsimp only
    split
    · exact toStore_publishAll _ _
    · rfl

/-- No lifecycle of the repository overrides the empty hook. -/
theorem dispatchEntityAction_eq (g : Game) (clientID : EntityID) (act : Wire.EntityAction) :
    g.dispatchEntityAction clientID act = g := by
  unfold dispatchEntityAction
  split
  · rfl
  · next r _ =>
    dsimp only
    split_ifs
    · rfl
    · split
      · rfl
      · next l hl =>
        have hsame : { g.objects.cell r with lifecycle := some (l.onAction act.action act.payload) } =
            g.objects.cell r := by
          rw [NPCLifecycle.onAction, ← hl]
        have hwrite : g.objects.write r (g.objects.cell r) = g.objects := by
          simp [Heap.write]
        simp only [onStore, Store.setObject, hsame, hwrite]

/-- A packet does nothing, moves its sender or announces a state. -/
theorem dispatch_cases (c : Wire.Codec) (g : Game) (pkt : InboundPacket) :
    dispatch c g pkt = g ∨ (∃ upd, dispatch c g pkt = g.dispatchPositionUpdate pkt.clientID upd) ∨
      ∃ st payload, dispatch c g pkt = g.dispatchEntityState st payload := by
  unfold dispatch
  split
  · exact .inl rfl
  · split
    · split
      · next upd _ => exact .inr (.inl ⟨upd, rfl⟩)
      · exact .inl rfl
    · split
      · split
        · exact .inl (g.dispatchEntityAction_eq _ _)
        · exact .inl rfl
      · split
        · split
          · next st _ => exact .inr (.inr ⟨st, _, rfl⟩)
          · exact .inl rfl
        · exact .inl rfl

/-- The events the channel can still take. -/
def room (g : Game) : ℕ := g.events.cap - g.events.buffered.length

/-- What a call published. -/
def published (g g' : Game) : List Event := g'.events.sent.drop g.events.sent.length

/-- An event is dropped and counted, or takes one place. -/
theorem publish_cases (g : Game) (evt : Event) :
    (g.room = 0 ∧ (g.publish evt).events = g.events ∧ (g.publish evt).room = 0 ∧
      (g.publish evt).eventsDropped = g.eventsDropped + 1) ∨
    (g.room = (g.publish evt).room + 1 ∧
      (g.publish evt).events.sent = g.events.sent ++ [evt] ∧
      (g.publish evt).eventsDropped = g.eventsDropped) := by
  cases htry : g.events.trySend evt with
  | none =>
    have hfull : g.room = 0 := by
      unfold Chan.trySend at htry
      split_ifs at htry
      unfold room
      omega
    have hpublish : g.publish evt = { g with eventsDropped := g.eventsDropped + 1 } := by
      simp [publish, htry]
    rw [hpublish]
    exact .inl ⟨hfull, rfl, hfull, rfl⟩
  | some ch =>
    have hpublish : g.publish evt = { g with events := ch } := by simp [publish, htry]
    have hbuffered := Chan.trySend_buffered htry
    have hsent := Chan.trySend_sent htry
    unfold Chan.trySend at htry
    split_ifs at htry with hlen
    have hcap : ch.cap = g.events.cap := by cases htry; rfl
    rw [hpublish]
    refine .inr ⟨?_, hsent, rfl⟩
    simp only [room, hbuffered, hcap, List.length_append, List.length_singleton]
    omega

/-- The channel takes a first part of the events, and the rest is counted. -/
theorem publishAll_eq (g : Game) (evts : List Event) :
    (g.publishAll evts).events.sent = g.events.sent ++ evts.take g.room ∧
      (g.publishAll evts).room = g.room - evts.length ∧
      (g.publishAll evts).eventsDropped = g.eventsDropped + (evts.length - g.room) := by
  induction evts generalizing g with
  | nil => simp [publishAll]
  | cons evt evts ih =>
    obtain ⟨hsent, hroom, hdropped⟩ := ih (g.publish evt)
    rw [publishAll, List.foldl_cons, ← publishAll, hsent, hroom, hdropped]
    obtain ⟨hfull, hevents, hfull', hcount⟩ | ⟨hspace, hevents, hcount⟩ := g.publish_cases evt
    · rw [hfull, hevents, hfull', hcount, List.length_cons]
      exact ⟨rfl, by omega, by omega⟩
    · rw [hspace, hevents, hcount, List.take_succ_cons, List.length_cons, List.append_assoc]
      exact ⟨rfl, by omega, by omega⟩

@[simp] theorem inbox_publishAll (g : Game) (evts : List Event) :
    (g.publishAll evts).inbox = g.inbox := by
  induction evts generalizing g with
  | nil => rfl
  | cons evt evts ih =>
    refine (ih (g.publish evt)).trans ?_
    unfold publish
    split <;> rfl

@[simp] theorem inbox_updateVisibility (g : Game) (zid : ZoneID) (order : VisitOrder) :
    (g.updateVisibility zid order).inbox = g.inbox := by
  unfold updateVisibility
  split
  · rfl
  · refine List.foldlRecOn (motive := fun g' : Game => g'.inbox = g.inbox) _ _ rfl
      fun g' hg' id _ => ?_
    unfold visitObserver
    split
    · exact hg'
    · simpa using hg'

/-- From `g` to `g'` only events with the property were published; commands and
sessions are the same. The stores may differ. -/
structure Publishes (P : Event → Prop) (g g' : Game) : Prop where
  sent : ∃ evts, g'.events.sent = g.events.sent ++ evts ∧ ∀ evt ∈ evts, P evt
  dropped : g.eventsDropped ≤ g'.eventsDropped
  cmds : g'.cmds = g.cmds
  sessionStates : g'.sessionStates = g.sessionStates
  reconnectWindow : g'.reconnectWindow = g.reconnectWindow

namespace Publishes

variable {P Q : Event → Prop} {g g' g'' : Game}

theorem of_events_eq (hs : g'.events.sent = g.events.sent) (hd : g'.eventsDropped = g.eventsDropped)
    (hc : g'.cmds = g.cmds) (hst : g'.sessionStates = g.sessionStates)
    (hw : g'.reconnectWindow = g.reconnectWindow) : Publishes P g g' :=
  ⟨⟨[], by simpa using hs, by simp⟩, hd.ge, hc, hst, hw⟩

theorem refl (g : Game) : Publishes P g g := of_events_eq rfl rfl rfl rfl rfl

theorem trans (h : Publishes P g g') (h' : Publishes P g' g'') : Publishes P g g'' := by
  obtain ⟨evts, hsent, hP⟩ := h.sent
  obtain ⟨evts', hsent', hP'⟩ := h'.sent
  refine ⟨⟨evts ++ evts', by rw [hsent', hsent, List.append_assoc], ?_⟩,
    h.dropped.trans h'.dropped, h'.cmds.trans h.cmds, h'.sessionStates.trans h.sessionStates,
    h'.reconnectWindow.trans h.reconnectWindow⟩
  intro evt hevt
  rcases List.mem_append.mp hevt with hevt | hevt
  · exact hP evt hevt
  · exact hP' evt hevt

theorem mono (h : Publishes P g g') (himp : ∀ evt, P evt → Q evt) : Publishes Q g g' := by
  obtain ⟨evts, hsent, hP⟩ := h.sent
  exact ⟨⟨evts, hsent, fun evt hevt => himp evt (hP evt hevt)⟩, h.dropped, h.cmds,
    h.sessionStates, h.reconnectWindow⟩

/-- Replacing the store publishes nothing. -/
theorem onStore (f : Store → Store) : Publishes P g (g.onStore f) :=
  of_events_eq rfl rfl rfl rfl rfl

theorem publish (g : Game) {evt : Event} (hevt : P evt) : Publishes P g (g.publish evt) := by
  unfold Game.publish
  split
  · next ch hch =>
    refine ⟨⟨[evt], Chan.trySend_sent hch, ?_⟩, le_rfl, rfl, rfl, rfl⟩
    simpa using hevt
  · exact ⟨⟨[], by simp, by simp⟩, Nat.le_succ _, rfl, rfl, rfl⟩

theorem publishAll (g : Game) {evts : List Event} (hevts : ∀ evt ∈ evts, P evt) :
    Publishes P g (g.publishAll evts) :=
  List.foldlRecOn (motive := Publishes P g) _ _ (refl g)
    fun _ hg' evt hevt => hg'.trans (publish _ (hevts evt hevt))

theorem setAOI (h : Publishes P g g') (aoi : Dict EntityID EntityAOIState) :
    Publishes P g { g' with entityAOI := aoi } :=
  ⟨h.sent, h.dropped, h.cmds, h.sessionStates, h.reconnectWindow⟩

theorem enqueueMove {id : EntityID} {pos : Vector3}
    (hP : ∀ ref obs, g.gridRefOf id = some ref → obs ∈ g.observersOf ref id pos →
      P (moveEvent (g.spaceOf id) obs id pos)) : Publishes P g (g.enqueueMove id pos) := by
  unfold Game.enqueueMove
  split
  · next ref href =>
    refine publishAll g fun evt hevt => ?_
    obtain ⟨obs, hobs, rfl⟩ := List.mem_map.mp hevt
    exact hP ref obs href hobs
  · exact refl g

theorem dispatchEntityState {st : Wire.EntityState} {payload : Bytes}
    (hP : ∀ r ref obs, g.entities.get st.entityID = some r →
      g.gridRefOf (g.objects.cell r).id = some ref →
      obs ∈ g.observersOf ref (g.objects.cell r).id (g.objects.cell r).position →
      P (stateEvent (g.objects.cell r) payload obs)) :
    Publishes P g (g.dispatchEntityState st payload) := by
  unfold Game.dispatchEntityState
  split
  · exact refl g
  · next r hr =>
    dsimp only
    split
    · next ref href =>
      refine publishAll g fun evt hevt => ?_
      obtain ⟨obs, hobs, rfl⟩ := List.mem_map.mp hevt
      exact hP r ref obs hr href hobs
    · exact refl g

end Publishes

/-- A phase that moves, replicates or announces entities. -/
structure Quiet (g g' : Game) : Prop where
  publishes : Publishes Event.IsUpdate g g'
  maps : Store.SameMaps g.toStore g'.toStore

namespace Quiet

variable {g g' g'' : Game}

theorem refl (g : Game) : Quiet g g := ⟨.refl g, .refl _⟩

theorem trans (h : Quiet g g') (h' : Quiet g' g'') : Quiet g g'' :=
  ⟨h.publishes.trans h'.publishes, h.maps.trans h'.maps⟩

theorem onStore {f : Store → Store} (hf : Store.SameMaps g.toStore (f g.toStore)) :
    Quiet g (g.onStore f) :=
  ⟨.onStore f, hf⟩

theorem enqueueMove (g : Game) (id : EntityID) (pos : Vector3) : Quiet g (g.enqueueMove id pos) :=
  ⟨.enqueueMove fun _ _ _ _ => .inl rfl, by rw [toStore_enqueueMove]; exact .refl _⟩

theorem dispatch (c : Wire.Codec) (g : Game) (pkt : InboundPacket) :
    Quiet g (Game.dispatch c g pkt) := by
  obtain hnone | ⟨upd, hupd⟩ | ⟨st, payload, hst⟩ := dispatch_cases c g pkt
  · rw [hnone]; exact refl g
  · rw [hupd]
    unfold dispatchPositionUpdate
    split
    · exact refl g
    · exact (onStore ((Store.SameMaps.setObject _ _ _).trans (.moveOnGrid _ _ _))).trans
        (enqueueMove _ _ _)
  · rw [hst]
    exact ⟨.dispatchEntityState fun _ _ _ _ _ _ => .inr rfl,
      by rw [toStore_dispatchEntityState]; exact .refl _⟩

theorem dispatchNext (c : Wire.Codec) (g : Game) : Quiet g (g.dispatchNext c) := by
  unfold Game.dispatchNext
  split
  · next pkt ch _ =>
    have hinbox : Quiet g { g with inbox := ch } := ⟨.of_events_eq rfl rfl rfl rfl rfl, .refl _⟩
    exact hinbox.trans (dispatch c _ pkt)
  · exact refl g

theorem simulateEntity (N : Numerics) (dt : Duration) (seed : EntityID → ℤ) (g : Game)
    (id : EntityID) : Quiet g (Game.simulateEntity N dt seed g id) := by
  unfold Game.simulateEntity
  split
  · exact refl g
  · dsimp only
    split
    · exact refl g
    · split
      · exact onStore (.setObject _ _ _)
      · exact (onStore ((Store.SameMaps.setObject _ _ _).trans (.moveOnGrid _ _ _))).trans
          (enqueueMove _ _ _)

theorem simulate (N : Numerics) (g : Game) (dt : Duration) (seed : EntityID → ℤ)
    (order : List EntityID) : Quiet g (Game.simulate N g dt seed order) :=
  List.foldlRecOn (motive := Quiet g) _ _ (refl g)
    fun g' hg' id _ => hg'.trans (simulateEntity N dt seed g' id)

theorem detectZoneBoundaries (g : Game) (zid : ZoneID) (now : EntityID → Time)
    (order : List EntityID) : Quiet g (g.detectZoneBoundaries zid now order) :=
  onStore (.detectZoneBoundaries g.toStore zid now order)

theorem sweepGhosts (g : Game) (now : Time) (order : List EntityID) :
    Quiet g (g.sweepGhosts now order) :=
  onStore (.sweepGhosts g.toStore now order)

end Quiet

theorem exists_of_mem_spawnsFor {g : Game} {e : Entity} {visible : Dict EntityID Unit}
    {current : List EntityID} {evt : Event} (hevt : evt ∈ g.spawnsFor e visible current) :
    ∃ x r, x ∈ current ∧ visible.get x = none ∧ x ≠ e.id ∧ g.entities.get x = some r ∧
      evt = spawnEvent e (g.objects.cell r) := by
  obtain ⟨x, hx, hsome⟩ := List.mem_filterMap.mp hevt
  split_ifs at hsome with hcond
  obtain ⟨r, hr, rfl⟩ := Option.map_eq_some_iff.mp hsome
  exact ⟨x, r, hx, by simpa using hcond.1, hcond.2, hr, rfl⟩

theorem exists_of_mem_despawnsFor {e : Entity} {visible : List EntityID}
    {current : Dict EntityID Unit} {evt : Event} (hevt : evt ∈ despawnsFor e visible current) :
    ∃ x ∈ visible, current.get x = none ∧ evt = despawnEvent e x := by
  obtain ⟨x, hx, rfl⟩ := List.mem_map.mp hevt
  obtain ⟨hvis, hnone⟩ := List.mem_filter.mp hx
  exact ⟨x, hvis, by simpa using hnone, rfl⟩

/-- Showing entities to observers rewrites only what the observers have seen. -/
structure Shows (g g' : Game) : Prop where
  publishes : Publishes (fun _ => True) g g'
  store : ∃ aoi, g'.toStore = { g.toStore with entityAOI := aoi }

namespace Shows

variable {g g' g'' : Game}

theorem refl (g : Game) : Shows g g := ⟨.refl g, g.entityAOI, rfl⟩

theorem trans (h : Shows g g') (h' : Shows g' g'') : Shows g g'' := by
  obtain ⟨aoi, haoi⟩ := h.store
  obtain ⟨aoi', haoi'⟩ := h'.store
  exact ⟨h.publishes.trans h'.publishes, aoi', by rw [haoi', haoi]⟩

theorem publishAll (g : Game) (spawns despawns : List Event)
    (aoi : Dict EntityID EntityAOIState) :
    Shows g { (g.publishAll spawns).publishAll despawns with entityAOI := aoi } := by
  constructor
  case publishes =>
    exact ((Publishes.publishAll g fun _ _ => trivial).trans
      (.publishAll _ fun _ _ => trivial)).setAOI aoi
  case store => exact ⟨aoi, by simp only [toStore_publishAll]⟩

theorem visitObserver (sim : ZoneSim) (order : VisitOrder) (g : Game) (id : EntityID) :
    Shows g (Game.visitObserver sim order g id) := by
  unfold Game.visitObserver
  split
  · exact refl g
  · exact publishAll g _ _ _

theorem updateVisibility (g : Game) (zid : ZoneID) (order : VisitOrder) :
    Shows g (g.updateVisibility zid order) := by
  unfold Game.updateVisibility
  split
  · exact refl g
  · next sim _ =>
    exact List.foldlRecOn (motive := Shows g) _ _ (refl g)
      fun g' hg' id _ => hg'.trans (visitObserver sim order g' id)

end Shows

/-- Nothing was published and nothing was dropped. -/
def Silent (g g' : Game) : Prop :=
  g'.events.sent = g.events.sent ∧ g'.eventsDropped = g.eventsDropped

/-- A session that expires concerns the store and the sessions, and nothing else. -/
theorem sweepSession_frame (now : Time) (g : Game) (id : EntityID) :
    ∃ s states, sweepSession now g id = { g with toStore := s, sessionStates := states } := by
  unfold sweepSession
  split
  · dsimp only
    split
    · split <;> exact ⟨_, _, rfl⟩
    · exact ⟨_, _, rfl⟩
  · exact ⟨_, _, rfl⟩

theorem silent_sweepSession (now : Time) (g : Game) (id : EntityID) :
    Silent g (sweepSession now g id) := by
  obtain ⟨s, states, heq⟩ := sweepSession_frame now g id
  rw [heq]
  exact ⟨rfl, rfl⟩

theorem silent_sweepDisconnected (g : Game) (now : Time) (order : List EntityID) :
    Silent g (g.sweepDisconnected now order) :=
  List.foldlRecOn (motive := Silent g) _ _ ⟨rfl, rfl⟩ fun g' hg' id _ =>
    ⟨(silent_sweepSession now g' id).1.trans hg'.1, (silent_sweepSession now g' id).2.trans hg'.2⟩

/-- Only three kinds of calls publish events. -/
theorem silent_step (H : Host) (g : Game) (c : Call) (hdispatch : c ≠ .dispatchNext)
    (hsimulate : ∀ dt seed order, c ≠ .simulate dt seed order)
    (hshow : ∀ zid order, c ≠ .updateVisibility zid order) : Silent g (step H g c) := by
  cases c with
  | assignZone z =>
    obtain heq | ⟨s, -, heq⟩ := step_assignZone H g z <;> rw [heq] <;> exact ⟨rfl, rfl⟩
  | releaseZone id =>
    obtain heq | ⟨s, -, heq⟩ := step_releaseZone H g id <;> rw [heq] <;> exact ⟨rfl, rfl⟩
  | enqueueAddEntity e =>
    simp only [step, enqueueCmd]
    split <;> exact ⟨rfl, rfl⟩
  | enqueueRemoveEntity id =>
    simp only [step, enqueueCmd]
    split <;> exact ⟨rfl, rfl⟩
  | receive pkt =>
    simp only [step, receive]
    split <;> exact ⟨rfl, rfl⟩
  | drainEvent =>
    simp only [step, drainEvent]
    split
    · next ch hrecv => exact ⟨(Chan.recv_eq_some hrecv).2.1, rfl⟩
    · exact ⟨rfl, rfl⟩
  | markDisconnected id now =>
    simp only [step, markDisconnected]
    split <;> exact ⟨rfl, rfl⟩
  | applyCmd =>
    simp only [step, applyCmd]
    split
    · next cmd _ _ => cases cmd <;> exact ⟨rfl, rfl⟩
    · exact ⟨rfl, rfl⟩
  | dispatchNext => exact absurd rfl hdispatch
  | simulate dt seed order => exact absurd rfl (hsimulate dt seed order)
  | updateVisibility zid order => exact absurd rfl (hshow zid order)
  | sweepDisconnected now order => exact silent_sweepDisconnected g now order
  | _ => exact ⟨rfl, rfl⟩

theorem toStore_step_of_added (H : Host) {g : Game} {c : Call} {e : Entity}
    (hadd : g.addedEntity c = some e) : (step H g c).toStore = g.toStore.addEntity e := by
  cases c with
  | addEntity e' => cases hadd; rfl
  | migrateEntityIn snap target => cases hadd; rfl
  | applyCmd =>
    simp only [addedEntity] at hadd
    split at hadd
    · next e' ch hrecv =>
      cases hadd
      simp [step, applyCmd, hrecv, runCmd, addEntity, onStore]
    · cases hadd
  | _ => cases hadd

/-- Adding an entity publishes nothing. -/
theorem silent_of_added (H : Host) {g : Game} {c : Call} {e : Entity}
    (hadd : g.addedEntity c = some e) : Silent g (step H g c) := by
  refine silent_step H g c ?_ ?_ ?_
  · rintro rfl; cases hadd
  · rintro _ _ _ rfl; cases hadd
  · rintro _ _ rfl; cases hadd

/-- Drops are counted and never forgotten. -/
theorem dropped_le_step (H : Host) (g : Game) (c : Call) :
    g.eventsDropped ≤ (step H g c).eventsDropped := by
  cases c with
  | dispatchNext => exact (Quiet.dispatchNext H.codec g).publishes.dropped
  | simulate dt seed order => exact (Quiet.simulate H.numerics g dt seed order).publishes.dropped
  | updateVisibility zid order => exact (Shows.updateVisibility g zid order).publishes.dropped
  | _ => exact (silent_step H g _ (by simp) (by simp) (by simp)).2.ge

end Game

end SpatialServer

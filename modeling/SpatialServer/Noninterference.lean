import SpatialServer.Control
import SpatialServer.StoreAgreement
import SpatialServer.TickLoop

/-!
# What the bytes of one client can reach

Two runs of the server whose calls differ in the bytes that one client sent. The
packets of the client may put its entity somewhere else; from there on the two
servers differ in the entity, in the replica it leaves behind when it crosses a
cell, and in who sees it. Each call keeps it at that, so that the other entities
never come to depend on the bytes. Events are no part of the comparison: they
tell the others where the entity is.
-/
namespace SpatialServer

open Runs

/-! ## What packets and loops do to the store -/

namespace Store

/-- A client says where its entity is. -/
def reposition (s : Store) (clientID : EntityID) (pos : Vector3) : Store :=
  match s.entities.get clientID with
  | none => s
  | some r =>
    (s.setObject r { s.objects.cell r with position := pos }).moveOnGrid (s.objects.cell r).id pos

/-- Of all requests only positions reach the store. -/
def obey (s : Store) (clientID : EntityID) : Option Request → Store
  | some (.position upd) => s.reposition clientID (upd.position.getD Vector3.zero)
  | _ => s

def simulated (N : Numerics) (dt : Duration) (seed : EntityID → ℤ) (s : Store) (id : EntityID) :
    Store :=
  match s.entities.get id with
  | none => s
  | some r =>
    let e' := (s.objects.cell r).onSimulate N (seed id) dt
    if (s.objects.cell r).lifecycle.isNone then s
    else if e'.position = (s.objects.cell r).position then s.setObject r e'
    else (s.setObject r e').moveOnGrid id e'.position

def observed (sim : ZoneSim) (s : Store) (id : EntityID) : Store :=
  match sim.entities.get id with
  | none => s
  | some r =>
    let e := s.objects.cell r
    let current := (s.grids.cell sim.aoi).entitiesInRange e.position s.aoiRadius
    { s with entityAOI := s.entityAOI.set e.id ⟨Dict.ofList current, e.position⟩ }

end Store

namespace Game

theorem toStore_dispatch (codec : Wire.Codec) (g : Game) (pkt : InboundPacket) :
    (dispatch codec g pkt).toStore =
      g.toStore.obey pkt.clientID (Wire.request codec pkt.data) := by
  rw [dispatch_eq_serve]
  cases Wire.request codec pkt.data with
  | none => rfl
  | some req =>
    cases req with
    | position upd =>
      simp only [serve, dispatchPositionUpdate, Store.obey, Store.reposition]
      cases g.entities.get pkt.clientID with
      | none => rfl
      | some r => exact toStore_enqueueMove _ _ _
    | action act => exact congrArg toStore (g.dispatchEntityAction_eq pkt.clientID act)
    | state st payload => exact g.toStore_dispatchEntityState st payload

theorem toStore_simulateEntity (N : Numerics) (dt : Duration) (seed : EntityID → ℤ) (g : Game)
    (id : EntityID) :
    (simulateEntity N dt seed g id).toStore = g.toStore.simulated N dt seed id := by
  unfold simulateEntity Store.simulated
  cases g.entities.get id with
  | none => rfl
  | some r =>
    dsimp only
    split_ifs
    · rfl
    · rfl
    · exact toStore_enqueueMove _ _ _

theorem toStore_visitObserver (sim : ZoneSim) (order : VisitOrder) (g : Game) (id : EntityID) :
    (visitObserver sim order g id).toStore = g.toStore.observed sim id := by
  unfold visitObserver Store.observed
  cases sim.entities.get id with
  | none => rfl
  | some r => simp only [toStore_publishAll]

theorem step_assignZone_eq (H : Host) (g : Game) (z : Zone) :
    step H g (.assignZone z) = { g with toStore := g.toStore.change (.assignZone z) } := by
  simp only [step, assignZone, Store.change]
  cases g.toStore.assignZone z <;> rfl

theorem step_releaseZone_eq (H : Host) (g : Game) (zid : ZoneID) :
    step H g (.releaseZone zid) = { g with toStore := g.toStore.change (.releaseZone zid) } := by
  simp only [step, releaseZone, Store.change]
  cases g.toStore.releaseZone zid <;> rfl

/-- A loop whose iterations work on the store. -/
theorem toStore_foldl {step : Game → EntityID → Game} {f : Store → EntityID → Store}
    (h : ∀ g id, (step g id).toStore = f g.toStore id) (ids : List EntityID) (g : Game) :
    (ids.foldl step g).toStore = ids.foldl f g.toStore := by
  induction ids generalizing g with
  | nil => rfl
  | cons id ids ih => rw [List.foldl_cons, List.foldl_cons, ih, h]

end Game

namespace Store.AgreeBut

variable {c : EntityID} {own : Set EntityID} {s s' : Store}

theorem reposition_right (hc : c ∈ own) (hn : Named s) (pos : Vector3) :
    AgreeBut c own s (s.reposition c pos) := by
  unfold Store.reposition
  split
  · exact refl c own s
  · next r hr =>
    have hid := (hn.object c r hr).2
    have hobject : AgreeBut c own s (s.setObject r { s.objects.cell r with position := pos }) :=
      setObject_right s hid hid
    exact hobject.trans (moveOnGrid_right _ (hid.symm ▸ hc) pos)

theorem reposition (h : AgreeBut c own s s') (hn : Named s) {id : EntityID} (hid : id ≠ c)
    (pos : Vector3) : AgreeBut c own (s.reposition id pos) (s'.reposition id pos) := by
  unfold Store.reposition
  rw [h.entities]
  split
  · exact h
  · next r hr =>
    have hne : (s.objects.cell r).id ≠ c := (hn.object id r hr).2.symm ▸ hid
    rw [h.object_eq hne]
    exact (h.setObject r _).moveOnGrid _ pos

theorem obey_right (hc : c ∈ own) (hn : Named s) (req : Option Request) :
    AgreeBut c own s (s.obey c req) := by
  rcases req with _ | upd | act | ⟨st, payload⟩
  · exact refl c own s
  · exact reposition_right hc hn _
  · exact refl c own s
  · exact refl c own s

theorem obey (h : AgreeBut c own s s') (hn : Named s) {id : EntityID} (hid : id ≠ c)
    (req : Option Request) : AgreeBut c own (s.obey id req) (s'.obey id req) := by
  rcases req with _ | upd | act | ⟨st, payload⟩
  · exact h
  · exact h.reposition hn hid _
  · exact h
  · exact h

section Simulate

variable {N : Numerics} {dt : Duration} {seed : EntityID → ℤ}

theorem simulated_right (hc : c ∈ own) (hn : Named s) :
    AgreeBut c own s (s.simulated N dt seed c) := by
  unfold Store.simulated
  split
  · exact refl c own s
  · next r hr =>
    have hid := (hn.object c r hr).2
    have hobject : AgreeBut c own s
        (s.setObject r ((s.objects.cell r).onSimulate N (seed c) dt)) :=
      setObject_right s hid ((onSimulate_id _ _ _ _).trans hid)
    dsimp only
    split_ifs
    · exact refl c own s
    · exact hobject
    · exact hobject.trans (moveOnGrid_right _ hc _)

theorem simulated (h : AgreeBut c own s s') (hn : Named s) {id : EntityID} (hid : id ≠ c) :
    AgreeBut c own (s.simulated N dt seed id) (s'.simulated N dt seed id) := by
  unfold Store.simulated
  rw [h.entities]
  split
  · exact h
  · next r hr =>
    have hne : (s.objects.cell r).id ≠ c := (hn.object id r hr).2.symm ▸ hid
    rw [h.object_eq hne]
    dsimp only
    split_ifs
    · exact h
    · exact h.setObject r _
    · exact (h.setObject r _).moveOnGrid _ _

end Simulate

/-- An observer that is not the entity is in the same place in both stores. -/
theorem observed (h : AgreeBut c own s s') (sim : ZoneSim) (id : EntityID) :
    AgreeBut c own (s.observed sim id) (s'.observed sim id) := by
  unfold Store.observed
  split
  · exact h
  · next r _ =>
    dsimp only
    rw [(h.objects.cell r).name]
    refine h.see fun hne => ?_
    rw [h.object_eq hne]
    exact h.sightBut_ofList sim.aoi _

end Store.AgreeBut

/-! ## Two servers -/

/-- Packets of one sender, with the same bytes unless it is the given client. -/
structure InboundPacket.SameBut (c : EntityID) (p p' : InboundPacket) : Prop where
  sender : p'.clientID = p.clientID
  data : p.clientID ≠ c → p'.data = p.data

/-- Two calls that differ at most in the bytes of a packet of the client. -/
inductive NodeCall.SameBut (c : EntityID) : NodeCall → NodeCall → Prop
  | same (call : NodeCall) : SameBut c call call
  | packet (p p' : InboundPacket) (h : p.SameBut c p') :
    SameBut c (.own (.receive p)) (.own (.receive p'))

namespace Game

/-- The two servers differ at most in one entity and in the bytes of its client
that wait in the inbox. -/
structure AgreeBut (c : EntityID) (own : Set EntityID) (g g' : Game) : Prop where
  store : g.toStore.AgreeBut c own g'.toStore
  inbox : g.inbox.Rel (InboundPacket.SameBut c) g'.inbox
  cmds : g'.cmds = g.cmds
  sessionStates : g'.sessionStates = g.sessionStates
  reconnectWindow : g'.reconnectWindow = g.reconnectWindow

/-- Queues of requests and sessions are the same. -/
structure SameQueues (g g' : Game) : Prop where
  inbox : g'.inbox = g.inbox
  cmds : g'.cmds = g.cmds
  sessionStates : g'.sessionStates = g.sessionStates
  reconnectWindow : g'.reconnectWindow = g.reconnectWindow

theorem SameQueues.of_publishes {P : Event → Prop} {g g' : Game} (h : Publishes P g g')
    (hinbox : g'.inbox = g.inbox) : SameQueues g g' :=
  ⟨hinbox, h.cmds, h.sessionStates, h.reconnectWindow⟩

theorem SameQueues.withStore (g : Game) (s : Store) : SameQueues g { g with toStore := s } :=
  ⟨rfl, rfl, rfl, rfl⟩

theorem SameQueues.drainEvent (g : Game) : SameQueues g g.drainEvent := by
  unfold Game.drainEvent
  split <;> exact ⟨rfl, rfl, rfl, rfl⟩

namespace AgreeBut

variable {c : EntityID} {own : Set EntityID} {g g' k k' : Game}

theorem refl (c : EntityID) (own : Set EntityID) (g : Game) : AgreeBut c own g g :=
  ⟨.refl c own _, ⟨rfl, rfl, List.forall₂_same.mpr fun _ _ => ⟨rfl, fun _ => rfl⟩⟩, rfl, rfl, rfl⟩

/-- Steps that work on the stores. -/
theorem of_store (h : AgreeBut c own g g') (hk : SameQueues g k) (hk' : SameQueues g' k')
    (hstore : k.toStore.AgreeBut c own k'.toStore) : AgreeBut c own k k' where
  store := hstore
  inbox := hk.inbox ▸ hk'.inbox ▸ h.inbox
  cmds := hk'.cmds.trans (h.cmds.trans hk.cmds.symm)
  sessionStates := hk'.sessionStates.trans (h.sessionStates.trans hk.sessionStates.symm)
  reconnectWindow := hk'.reconnectWindow.trans (h.reconnectWindow.trans hk.reconnectWindow.symm)

theorem withStore (h : AgreeBut c own g g') {s s' : Store} (hs : s.AgreeBut c own s') :
    AgreeBut c own { g with toStore := s } { g' with toStore := s' } :=
  h.of_store (.withStore g s) (.withStore g' s') hs

/-! ### Requests -/

theorem receive (h : AgreeBut c own g g') {p p' : InboundPacket} (hp : p.SameBut c p') :
    AgreeBut c own (g.receive p) (g'.receive p') := by
  have hsend := h.inbox.trySend hp
  unfold Game.receive
  rcases hch : g.inbox.trySend p with _ | ch <;> rcases hch' : g'.inbox.trySend p' with _ | ch' <;>
    rw [hch, hch'] at hsend <;> cases hsend
  · exact h
  · next hrel => exact { h with inbox := hrel }

theorem dispatch (h : AgreeBut c own g g') (hn : Named g.toStore) (hc : c ∈ own)
    (codec : Wire.Codec) {p p' : InboundPacket} (hp : p.SameBut c p') :
    AgreeBut c own (dispatch codec g p) (dispatch codec g' p') := by
  have hqueues : ∀ (k : Game) (q : InboundPacket), SameQueues k (Game.dispatch codec k q) :=
    fun k q => .of_publishes (Quiet.dispatch codec k q).publishes (inbox_dispatch codec k q)
  refine h.of_store (hqueues g p) (hqueues g' p') ?_
  rw [toStore_dispatch, toStore_dispatch, hp.sender]
  by_cases hid : p.clientID = c
  · rw [hid]
    exact h.store.both (.obey_right hc hn _) (.obey_right hc (h.store.named hn) _)
  · rw [hp.data hid]
    exact h.store.obey hn hid _

theorem dispatchNext (h : AgreeBut c own g g') (hn : Named g.toStore) (hc : c ∈ own)
    (codec : Wire.Codec) : AgreeBut c own (g.dispatchNext codec) (g'.dispatchNext codec) := by
  have hrecv := h.inbox.recv
  unfold Game.dispatchNext
  rcases hch : g.inbox.recv with _ | ⟨p, ch⟩ <;> rcases hch' : g'.inbox.recv with _ | ⟨p', ch'⟩ <;>
    rw [hch, hch'] at hrecv <;> cases hrecv
  · exact h
  · next hrel =>
    have hrest : AgreeBut c own { g with inbox := ch } { g' with inbox := ch' } :=
      { h with inbox := hrel.2 }
    exact hrest.dispatch hn hc codec hrel.1

theorem enqueueCmd (h : AgreeBut c own g g') (cmd : Cmd) :
    AgreeBut c own (g.enqueueCmd cmd) (g'.enqueueCmd cmd) := by
  unfold Game.enqueueCmd
  rw [h.cmds]
  split
  · exact { h with cmds := rfl }
  · exact { h with cmds := rfl }

theorem applyCmd (h : AgreeBut c own g g') : AgreeBut c own g.applyCmd g'.applyCmd := by
  unfold Game.applyCmd
  rw [h.cmds]
  split
  · next cmd ch _ =>
    have hrest : AgreeBut c own { g with cmds := ch } { g' with cmds := ch } :=
      { h with cmds := rfl }
    cases cmd with
    | add e => exact hrest.withStore (hrest.store.addEntity e)
    | remove id => exact hrest.withStore (hrest.store.removeEntity id)
  · exact h

theorem drainEvent (h : AgreeBut c own g g') : AgreeBut c own g.drainEvent g'.drainEvent := by
  refine h.of_store (.drainEvent g) (.drainEvent g') ?_
  rw [toStore_drainEvent, toStore_drainEvent]
  exact h.store

theorem markDisconnected (h : AgreeBut c own g g') (id : EntityID) (now : Time) :
    AgreeBut c own (g.markDisconnected id now) (g'.markDisconnected id now) := by
  unfold Game.markDisconnected
  rw [h.store.entities]
  split
  · exact h
  · exact { h with
      sessionStates := congrArg (·.set id ⟨.disconnected, now⟩) h.sessionStates }

/-! ### The tick -/

theorem simulate (h : AgreeBut c own g g') (hn : Named g.toStore) (hc : c ∈ own) (N : Numerics)
    (dt : Duration) (seed : EntityID → ℤ) (order : List EntityID) :
    AgreeBut c own (simulate N g dt seed order) (simulate N g' dt seed order) := by
  have hinbox : ∀ (k : Game) (ids : List EntityID),
      (ids.foldl (simulateEntity N dt seed) k).inbox = k.inbox := fun k ids =>
    List.foldlRecOn (motive := fun k' : Game => k'.inbox = k.inbox) _ _ rfl
      fun k' hk' id _ => (inbox_simulateEntity N dt seed k' id).trans hk'
  have hqueues : ∀ k : Game, SameQueues k (Game.simulate N k dt seed order) := fun k =>
    .of_publishes (Quiet.simulate N k dt seed order).publishes (hinbox k _)
  refine h.of_store (hqueues g) (hqueues g') ?_
  unfold Game.simulate
  have htoStore := toStore_foldl (toStore_simulateEntity N dt seed)
  rw [htoStore, htoStore, h.store.entities]
  refine (List.foldl_rel (r := fun s s' => Named s ∧ s.AgreeBut c own s') ⟨hn, h.store⟩
    fun id _ s s' hs => ⟨?_, ?_⟩).2
  · have hself : s.AgreeBut id Set.univ (s.simulated N dt seed id) :=
      .simulated_right trivial hs.1
    exact hself.named hs.1
  · by_cases hid : id = c
    · subst hid
      exact hs.2.both (.simulated_right hc hs.1) (.simulated_right hc (hs.2.named hs.1))
    · exact hs.2.simulated hs.1 hid

theorem updateVisibility (h : AgreeBut c own g g') (zid : ZoneID) (order : VisitOrder) :
    AgreeBut c own (g.updateVisibility zid order) (g'.updateVisibility zid order) := by
  have hqueues : ∀ k : Game, SameQueues k (k.updateVisibility zid order) := fun k =>
    .of_publishes (Shows.updateVisibility k zid order).publishes (inbox_updateVisibility k zid order)
  refine h.of_store (hqueues g) (hqueues g') ?_
  unfold Game.updateVisibility
  rw [h.store.zones]
  split
  · exact h.store
  · next sim _ =>
    have htoStore := toStore_foldl (toStore_visitObserver sim order)
    rw [htoStore, htoStore]
    exact List.foldl_rel h.store fun id _ _ _ hs => hs.observed sim id

theorem sweepSession (h : AgreeBut c own g g') (now : Time) (id : EntityID) :
    AgreeBut c own (sweepSession now g id) (sweepSession now g' id) := by
  have hexpired : g'.expired now id = g.expired now id := by
    simp only [expired, h.sessionStates, h.reconnectWindow]
  rw [sweepSession_eq, sweepSession_eq, hexpired]
  split_ifs
  · exact { h with
      store := h.store.expire id
      sessionStates := congrArg (·.del id) h.sessionStates }
  · exact h

theorem sweepDisconnected (h : AgreeBut c own g g') (now : Time) (order : List EntityID) :
    AgreeBut c own (g.sweepDisconnected now order) (g'.sweepDisconnected now order) := by
  unfold Game.sweepDisconnected
  rw [h.sessionStates]
  exact List.foldl_rel h fun id _ _ _ hk => hk.sweepSession now id

/-! ### Runs -/

theorem step (h : AgreeBut c own g g') (hn : Named g.toStore) (hc : c ∈ own)
    (hghost : localGhostID c ∈ own) (H : Host) (call : Call) :
    AgreeBut c own (step H g call) (step H g' call) := by
  cases call with
  | assignZone z =>
    rw [step_assignZone_eq, step_assignZone_eq]
    exact h.withStore (h.store.assignZone z)
  | releaseZone id =>
    rw [step_releaseZone_eq, step_releaseZone_eq]
    exact h.withStore (h.store.releaseZone id)
  | addEntity e => exact h.withStore (h.store.addEntity e)
  | migrateEntityIn snap target => exact h.withStore (h.store.addEntity _)
  | removeEntity id => exact h.withStore (h.store.removeEntity id)
  | migrateEntityOut id => exact h.withStore (h.store.removeEntity id)
  | enqueueAddEntity e => exact h.enqueueCmd (.add e)
  | enqueueRemoveEntity id => exact h.enqueueCmd (.remove id)
  | receive pkt => exact h.receive ⟨rfl, fun _ => rfl⟩
  | drainEvent => exact h.drainEvent
  | markDisconnected id now => exact h.markDisconnected id now
  | markReconnected id =>
    exact { h with sessionStates := congrArg (·.set id ⟨.active, 0⟩) h.sessionStates }
  | beginTick now => exact { h with }
  | applyCmd => exact h.applyCmd
  | dispatchNext => exact h.dispatchNext hn hc H.codec
  | simulate dt seed order => exact h.simulate hn hc H.numerics dt seed order
  | detectZoneBoundaries zid now order =>
    exact h.withStore (h.store.detectZoneBoundaries hn hghost zid now order)
  | updateVisibility zid order => exact h.updateVisibility zid order
  | sweepGhosts now order => exact h.withStore (h.store.sweepGhosts now order)
  | sweepDisconnected now order => exact h.sweepDisconnected now order

theorem nodeStep (h : AgreeBut c own g g') (hn : Named g.toStore) (hc : c ∈ own)
    (hghost : localGhostID c ∈ own) (H : Host) (call : NodeCall) :
    AgreeBut c own (nodeStep H g call) (nodeStep H g' call) := by
  cases call with
  | own call => exact h.step hn hc hghost H call
  | openIndex zid state order => exact h.withStore (h.store.openIndex zid state order)
  | applyEntityEnter zid id type pos now =>
    exact h.withStore (h.store.applyEntityEnter zid id type pos now)
  | applyEntityLeave zid id => exact h.withStore (h.store.onReplicas zid (.leave id))
  | applyEntityUpdate zid id pos now =>
    exact h.withStore (h.store.applyEntityUpdate zid id pos now)
  | reconcileNeighborGhosts querier owner neighbor stamp now order =>
    exact h.withStore (h.store.reconcileNeighborGhosts querier owner neighbor stamp now order)

end AgreeBut

/-- Two runs whose calls differ at most in the bytes that one client sent. -/
theorem agreeBut_exec (H : Host) {c : EntityID} {own : Set EntityID} (hc : c ∈ own)
    (hghost : localGhostID c ∈ own) {g : Game} (hs : Sound g.toStore) {calls calls' : List NodeCall}
    (h : List.Forall₂ (NodeCall.SameBut c) calls calls') :
    AgreeBut c own (exec (nodeStep H) g calls) (exec (nodeStep H) g calls') := by
  refine (exec_rel (R := fun g g' : Game => Sound g.toStore ∧ AgreeBut c own g g')
    (fun g g' call call' hg hcall => ⟨sound_nodeStep H hg.1 call, ?_⟩) ⟨hs, .refl c own g⟩ h).2
  cases hcall with
  | same call => exact hg.2.nodeStep hg.1.named hc hghost H call
  | packet p p' hp => exact hg.2.receive hp

end Game

end SpatialServer

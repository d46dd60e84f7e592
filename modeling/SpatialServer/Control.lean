import SpatialServer.ReachableStores

/-!
# What a client can act for

A packet names the entity it is about in one of three ways. A position update is
about the entity of the connection, an action is about an entity that the sender
has to own, and an announced state is about whatever entity the payload names.
The effects of a packet are judged against the state before it: the hooks it
calls, and the events that reach the event channel.
-/
namespace SpatialServer

open Runs

/-- A packet that decodes, by its kind. -/
inductive Request where
  | position (upd : Wire.EntityUpdate)
  | action (act : Wire.EntityAction)
  | state (st : Wire.EntityState) (payload : Bytes)

namespace Wire

def request (c : Codec) (data : Bytes) : Option Request :=
  match decode c data with
  | .error _ => none
  | .ok d =>
    if d.id = packetIDPositionUpdate then (c.entityUpdate d.payload).map .position
    else if d.id = packetIDEntityAction then (c.entityAction d.payload).map .action
    else if d.id = packetIDEntityState then (c.entityState d.payload).map (.state · d.payload)
    else none

end Wire

namespace Game

/-- What the server does for a request. -/
def serve (g : Game) (clientID : EntityID) : Option Request → Game
  | none => g
  | some (.position upd) => g.dispatchPositionUpdate clientID upd
  | some (.action act) => g.dispatchEntityAction clientID act
  | some (.state st payload) => g.dispatchEntityState st payload

theorem dispatch_eq_serve (c : Wire.Codec) (g : Game) (pkt : InboundPacket) :
    dispatch c g pkt = g.serve pkt.clientID (Wire.request c pkt.data) := by
  unfold dispatch Wire.request
  cases Wire.decode c pkt.data with
  | error _ => rfl
  | ok d =>
    dsimp only
    split_ifs
    · cases c.entityUpdate d.payload <;> rfl
    · cases c.entityAction d.payload <;> rfl
    · cases c.entityState d.payload <;> rfl
    · rfl

/-- The entity whose hook an action calls. -/
def invoked (g : Game) (clientID : EntityID) (act : Wire.EntityAction) : Option Entity :=
  (g.entityOf act.entityID).filter fun e => e.ownerID = clientID ∧ e.lifecycle.isSome

/-- The hook of the invoked entity is called, and no other. -/
theorem dispatchEntityAction_eq_invoked (g : Game) (clientID : EntityID) (act : Wire.EntityAction) :
    g.dispatchEntityAction clientID act =
      match g.entities.get act.entityID, g.invoked clientID act with
      | some r, some e => g.onStore (·.setObject r
          { e with lifecycle := e.lifecycle.map (·.onAction act.action act.payload) })
      | _, _ => g := by
  unfold dispatchEntityAction invoked Store.entityOf
  cases g.entities.get act.entityID with
  | none => rfl
  | some r =>
    by_cases howner : (g.objects.cell r).ownerID = clientID
    · cases hl : (g.objects.cell r).lifecycle with
      | none => simp [howner, hl, Option.filter]
      | some l => simp [howner, hl, Option.filter]
    · simp [howner, Option.filter]

/-- The identifier is the client's own, or names an entity the client owns. -/
def Controls (g : Game) (clientID id : EntityID) : Prop :=
  id = clientID ∨ ∃ e, g.entityOf id = some e ∧ e.ownerID = clientID

/-- Every hook the packet calls and every event it publishes is about an entity
that its sender controls. -/
structure ActsForOwn (c : Wire.Codec) (g : Game) (pkt : InboundPacket) : Prop where
  invoked : ∀ act e, Wire.request c pkt.data = some (.action act) →
    g.invoked pkt.clientID act = some e → g.Controls pkt.clientID e.id
  published : ∀ evt ∈ g.published (dispatch c g pkt), g.Controls pkt.clientID evt.entityID

/-- Everyone in range of the entity but itself. -/
def audience (g : Game) (e : Entity) : List EntityID :=
  match g.gridRefOf e.id with
  | some ref => g.observersOf ref e.id e.position
  | none => []

/-- A state announced for an entity of somebody else finds nobody to tell, or no
room for an event. -/
def AnnouncesOwn (c : Wire.Codec) (g : Game) (pkt : InboundPacket) : Prop :=
  ∀ st payload e, Wire.request c pkt.data = some (.state st payload) →
    g.entityOf st.entityID = some e →
    g.Controls pkt.clientID e.id ∨ g.audience e = [] ∨ g.room = 0

variable {g : Game}

@[simp] theorem published_self (g : Game) : g.published g = [] := by simp [published]

theorem published_publishAll (g : Game) (evts : List Event) :
    g.published (g.publishAll evts) = evts.take g.room := by
  simp [published, (g.publishAll_eq evts).1]

theorem published_eq {P : Event → Prop} {g' : Game} (h : Publishes P g g') :
    ∀ evt ∈ g.published g', P evt := by
  obtain ⟨evts, hsent, hP⟩ := h.sent
  simpa [published, hsent] using hP

/-- A position update is announced under the name of the connection. -/
theorem entityID_of_position (hn : Named g.toStore) (clientID : EntityID)
    (upd : Wire.EntityUpdate) :
    ∀ evt ∈ g.published (g.dispatchPositionUpdate clientID upd), evt.entityID = clientID := by
  apply published_eq
  unfold dispatchPositionUpdate
  split
  · exact .refl g
  · next r hr =>
    have hid := (hn.object clientID r hr).2
    exact (Publishes.onStore _).trans (.enqueueMove fun _ _ _ _ => hid)

theorem dispatchEntityState_eq (g : Game) (st : Wire.EntityState) (payload : Bytes) :
    g.dispatchEntityState st payload =
      match g.entityOf st.entityID with
      | some e => g.publishAll ((g.audience e).map (stateEvent e payload))
      | none => g := by
  unfold dispatchEntityState Store.entityOf audience
  cases g.entities.get st.entityID with
  | none => rfl
  | some r =>
    dsimp only [Option.map_some]
    cases g.gridRefOf (g.objects.cell r).id <;> rfl

theorem published_state (g : Game) (st : Wire.EntityState) (payload : Bytes) :
    g.published (g.dispatchEntityState st payload) =
      match g.entityOf st.entityID with
      | some e => ((g.audience e).map (stateEvent e payload)).take g.room
      | none => [] := by
  rw [dispatchEntityState_eq]
  cases g.entityOf st.entityID with
  | none => exact published_self g
  | some e => exact published_publishAll g _

/-- An announced state is published exactly where it finds an audience and room. -/
theorem published_state_eq_nil_iff {st : Wire.EntityState} {payload : Bytes} {e : Entity}
    (he : g.entityOf st.entityID = some e) :
    g.published (g.dispatchEntityState st payload) = [] ↔ g.audience e = [] ∨ g.room = 0 := by
  simp [published_state, he, List.take_eq_nil_iff, or_comm]

theorem actsForOwn_iff (hn : Named g.toStore) (c : Wire.Codec) (pkt : InboundPacket) :
    ActsForOwn c g pkt ↔ g.AnnouncesOwn c pkt := by
  have hinvoked : ∀ act e, Wire.request c pkt.data = some (.action act) →
      g.invoked pkt.clientID act = some e → g.Controls pkt.clientID e.id := by
    intro act e _ he
    obtain ⟨hof, hcond⟩ := Option.filter_eq_some_iff.mp he
    have hid := hn.id_of_entityOf hof
    exact .inr ⟨e, hid ▸ hof, by simpa using (of_decide_eq_true hcond).1⟩
  have hpublished : ActsForOwn c g pkt ↔
      ∀ evt ∈ g.published (g.serve pkt.clientID (Wire.request c pkt.data)),
        g.Controls pkt.clientID evt.entityID := by
    rw [← dispatch_eq_serve]
    exact ⟨fun h => h.published, fun h => ⟨hinvoked, h⟩⟩
  rw [hpublished, AnnouncesOwn]
  cases Wire.request c pkt.data with
  | none => simp [serve]
  | some req =>
    cases req with
    | position upd =>
      simp only [serve, Option.some.injEq, reduceCtorEq, false_implies, implies_true, iff_true]
      intro evt hevt
      exact .inl (entityID_of_position hn _ upd evt hevt)
    | action act => simp [serve, dispatchEntityAction_eq]
    | state st payload =>
      simp only [serve, Option.some.injEq, Request.state.injEq, and_imp]
      constructor
      · rintro h _ _ e rfl rfl he
        refine or_iff_not_imp_right.mpr fun hcond => ?_
        obtain ⟨evt, hevt⟩ := List.exists_mem_of_ne_nil _
          (mt (published_state_eq_nil_iff he).mp hcond)
        have hcontrols := h evt hevt
        rw [published_state, he] at hevt
        obtain ⟨obs, -, rfl⟩ := List.mem_map.mp (List.mem_of_mem_take hevt)
        exact hcontrols
      · intro h evt hevt
        cases he : g.entityOf st.entityID with
        | none => simp [published_state, he] at hevt
        | some e =>
          obtain hcontrols | hnone := h st payload e rfl rfl he
          · rw [published_state, he] at hevt
            obtain ⟨obs, -, rfl⟩ := List.mem_map.mp (List.mem_of_mem_take hevt)
            exact hcontrols
          · rw [(published_state_eq_nil_iff he).mpr hnone] at hevt
            cases hevt

/-- In every reachable state, a packet acts only for what its sender controls if
and only if it does not announce the state of somebody else's entity to anyone. -/
theorem client_acts_for_own_iff (H : Host) (sid : ServerID) (calls : List NodeCall)
    (pkt : InboundPacket) :
    ActsForOwn H.codec (exec (nodeStep H) (new sid) calls) pkt ↔
      AnnouncesOwn H.codec (exec (nodeStep H) (new sid) calls) pkt :=
  actsForOwn_iff (sound_exec H sid calls).named H.codec pkt

/-- A host on which every state message names the same entity. -/
def namingHost (id : EntityID) : Host :=
  { Host.steady Vector3.zero with
    codec := ⟨.ok, fun _ => none, fun _ => none, fun _ => some ⟨id⟩⟩ }

/-- Three entities that own themselves: a packet of the first announces a state
of the second to the first and the third. -/
theorem state_of_another_announced :
    let g := exec (nodeStep (namingHost "e2")) (new "gs-1")
      (["e1", "e2", "e3"].map fun id =>
        .own (.addEntity { Entity.new id "player" "" with ownerID := id }))
    let pkt : InboundPacket := ⟨"e1", [1, 0, 8, 0, 0, 0, 0, 0]⟩
    (g.published (dispatch (namingHost "e2").codec g pkt)).map (fun evt =>
        (evt.kind, evt.observer, evt.entityID)) = [(.state, "e1", "e2"), (.state, "e3", "e2")] ∧
      (g.entityOf "e2").map Entity.ownerID = some "e2" ∧
      ¬ ActsForOwn (namingHost "e2").codec g pkt := by
  intro g pkt
  have hevents : (g.published (dispatch (namingHost "e2").codec g pkt)).map (fun evt =>
      (evt.kind, evt.observer, evt.entityID)) = [(.state, "e1", "e2"), (.state, "e3", "e2")] := by
    decide +kernel
  have howner : (g.entityOf "e2").map Entity.ownerID = some "e2" := by decide +kernel
  refine ⟨hevents, howner, fun h => ?_⟩
  obtain ⟨evt, hevt, heq⟩ := List.mem_map.mp
    (hevents ▸ List.mem_cons_self : (EventKind.state, "e1", "e2") ∈ _)
  obtain hid | ⟨e, he, hown⟩ := h.published evt hevt
  · simp_all [pkt]
  · have hent : evt.entityID = "e2" := (Prod.ext_iff.mp (Prod.ext_iff.mp heq).2).2
    rw [hent] at he
    rw [he, Option.map_some, hown] at howner
    exact absurd howner (by decide)

end Game

end SpatialServer

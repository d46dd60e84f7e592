import SpatialServer.EventGrammar
import SpatialServer.FreshRecords

/-!
# Announcements and the event channel

A visit of an observer announces how its surroundings differ from the record.
What is announced is a function of the store; how much of it arrives depends on
the room that the event channel has left, which other clients can use up.
-/
namespace SpatialServer

open Runs

def Event.IsAnnouncement (evt : Event) : Prop := evt.kind = .spawn ∨ evt.kind = .despawn

instance (evt : Event) : Decidable evt.IsAnnouncement :=
  inferInstanceAs (Decidable (evt.kind = .spawn ∨ evt.kind = .despawn))

namespace Game

/-! ## What is announced -/

/-- What a visit of the observer announces. -/
def visitEvents (sim : ZoneSim) (order : VisitOrder) (g : Game) (id : EntityID) : List Event :=
  match sim.entities.get id with
  | none => []
  | some r =>
    g.differences sim order id r (((g.entityAOI.get id).map EntityAOIState.visible).getD ∅)

def loopEvents (sim : ZoneSim) (order : VisitOrder) : Game → List EntityID → List Event
  | _, [] => []
  | g, id :: ids =>
    g.visitEvents sim order id ++ loopEvents sim order (g.visitObserver sim order id) ids

/-- Who appears and who disappears, according to the call. -/
def announced (g : Game) : NodeCall → List Event
  | .own (.updateVisibility zid order) =>
    match g.zones.get zid with
    | none => []
    | some sim => loopEvents sim order g (sim.entities.range order.observers)
  | _ => []

/-- The entity that a call of a node adds. -/
def addedBy (g : Game) : NodeCall → Option Entity
  | .own c => g.addedEntity c
  | _ => none

theorem announced_of_added {g : Game} {c : NodeCall} {e : Entity} (h : g.addedBy c = some e) :
    g.announced c = [] := by
  cases c with
  | own c => cases c <;> first | rfl | cases h
  | _ => cases h

theorem visitEvents_eq {g : Game} {sim : ZoneSim} {o : EntityID} {r : ℕ}
    (hr : sim.entities.get o = some r) {st : EntityAOIState} (hst : g.entityAOI.get o = some st)
    (order : VisitOrder) :
    g.visitEvents sim order o = g.differences sim order o r st.visible := by
  simp [visitEvents, hr, hst]

theorem isAnnouncement_of_mem_differences {g : Game} {sim : ZoneSim} {order : VisitOrder}
    {o : EntityID} {r : ℕ} {visible : Dict EntityID Unit} {evt : Event}
    (hevt : evt ∈ g.differences sim order o r visible) : evt.IsAnnouncement := by
  rcases List.mem_append.mp hevt with hevt | hevt
  · exact .inl (spawnsFor_observer hevt).2
  · exact .inr (despawnsFor_observer hevt).2

/-! ## The event channel -/

section Channel

variable {g : Game} {zid : ZoneID} {sim : ZoneSim}

/-- The channel takes the announcements of a loop as long as it has room, and
counts the rest. -/
theorem visits_channel {ids : List EntityID} (hids : ∀ id ∈ ids, (sim.entities.get id).isSome)
    (order : VisitOrder) (hcoh : Coherent g.toStore) (hsim : g.zones.get zid = some sim) :
    let evts := loopEvents sim order g ids
    let g' := ids.foldl (visitObserver sim order) g
    g'.events.sent = g.events.sent ++ evts.take g.room ∧ g'.room = g.room - evts.length ∧
      g'.eventsDropped = g.eventsDropped + (evts.length - g.room) := by
  induction ids generalizing g with
  | nil => simp [loopEvents]
  | cons id ids ih =>
    obtain ⟨r, hr⟩ := Option.isSome_iff_exists.mp (hids id List.mem_cons_self)
    obtain ⟨st, hst⟩ := exists_record hcoh hsim hr
    obtain ⟨hcoh', hzones⟩ := coherent_visitObserver hcoh hsim order id
    have hone : (visitObserver sim order g id).events.sent =
          g.events.sent ++ (g.visitEvents sim order id).take g.room ∧
        (visitObserver sim order g id).room = g.room - (g.visitEvents sim order id).length ∧
        (visitObserver sim order g id).eventsDropped =
          g.eventsDropped + ((g.visitEvents sim order id).length - g.room) := by
      rw [visitEvents_eq hr hst, visitObserver_eq hcoh hsim hr hst]
      exact g.publishAll_eq _
    obtain ⟨hsent, hroom, hdropped⟩ := ih (fun id hid => hids id (List.mem_cons_of_mem _ hid))
      hcoh' (hzones ▸ hsim)
    simp only [loopEvents, List.foldl_cons, hsent, hroom, hdropped, hone, List.take_append,
      List.append_assoc, List.length_append]
    exact ⟨trivial, by omega, by omega⟩

theorem updateVisibility_channel (hcoh : Coherent g.toStore) (zid : ZoneID) (order : VisitOrder) :
    let evts := g.announced (.own (.updateVisibility zid order))
    let g' := g.updateVisibility zid order
    g'.events.sent = g.events.sent ++ evts.take g.room ∧
      g'.eventsDropped = g.eventsDropped + (evts.length - g.room) := by
  simp only [announced, updateVisibility]
  cases hsim : g.zones.get zid with
  | none => simp
  | some sim =>
    obtain ⟨hsent, -, hdropped⟩ := visits_channel
      (fun id hid => (Dict.mem_range_iff _ _ _).mp hid) order hcoh hsim
    exact ⟨hsent, hdropped⟩

end Channel

theorem isAnnouncement_of_mem_announced {g : Game} {c : NodeCall} {evt : Event}
    (hevt : evt ∈ g.announced c) : evt.IsAnnouncement := by
  have hvisit : ∀ sim order (g : Game) id, ∀ evt ∈ g.visitEvents sim order id,
      evt.IsAnnouncement := by
    intro sim order g id evt hevt
    unfold visitEvents at hevt
    split at hevt
    · cases hevt
    · exact isAnnouncement_of_mem_differences hevt
  have hloop : ∀ sim order ids (g : Game), ∀ evt ∈ loopEvents sim order g ids,
      evt.IsAnnouncement := by
    intro sim order ids
    induction ids with
    | nil => simp [loopEvents]
    | cons id ids ih =>
      intro g evt hevt
      rcases List.mem_append.mp hevt with hevt | hevt
      · exact hvisit sim order g id evt hevt
      · exact ih _ evt hevt
  unfold announced at hevt
  split at hevt
  · split at hevt
    · cases hevt
    · exact hloop _ _ _ _ evt hevt
  · cases hevt

/-- Of what a call publishes, the announcements are those the channel had room
for. -/
theorem exists_published (H : Host) (g : Game) (c : NodeCall) (hcoh : Coherent g.toStore) :
    ∃ evts, (g.nodeStep H c).events.sent = g.events.sent ++ evts ∧
      evts.filter (decide ·.IsAnnouncement) = (g.announced c).take g.room := by
  have hupdates : ∀ {g'}, Publishes Event.IsUpdate g g' → ∃ evts,
      g'.events.sent = g.events.sent ++ evts ∧ evts.filter (decide ·.IsAnnouncement) = [] := by
    intro g' hg'
    obtain ⟨evts, hsent, hupd⟩ := hg'.sent
    refine ⟨evts, hsent, List.filter_eq_nil_iff.mpr fun evt hevt => ?_⟩
    rcases hupd evt hevt with hkind | hkind <;> simp [Event.IsAnnouncement, hkind]
  have hnothing : (g.nodeStep H c).events.sent = g.events.sent → g.announced c = [] → ∃ evts,
      (g.nodeStep H c).events.sent = g.events.sent ++ evts ∧
        evts.filter (decide ·.IsAnnouncement) = (g.announced c).take g.room :=
    fun hsent hnone => ⟨[], by simpa using hsent, by simp [hnone]⟩
  have hunseen : (∀ c', c ≠ .own c') → (g.nodeStep H c).events.sent = g.events.sent :=
    fun hne => by rw [(Watched.nodeStep_unseen H g hne).1]
  cases c with
  | own c =>
    cases c with
    | dispatchNext =>
      obtain ⟨evts, hsent, hnone⟩ := hupdates (Quiet.dispatchNext H.codec g).publishes
      exact ⟨evts, hsent, by simpa [announced] using hnone⟩
    | simulate dt seed order =>
      obtain ⟨evts, hsent, hnone⟩ := hupdates (Quiet.simulate H.numerics g dt seed order).publishes
      exact ⟨evts, hsent, by simpa [announced] using hnone⟩
    | updateVisibility zid order =>
      refine ⟨_, (updateVisibility_channel hcoh zid order).1, List.filter_eq_self.mpr ?_⟩
      exact fun evt hevt => decide_eq_true
        (isAnnouncement_of_mem_announced (List.mem_of_mem_take hevt))
    | _ => exact hnothing (silent_step H g _ (by simp) (by simp) (by simp)).1 rfl
  | _ => exact hnothing (hunseen (by simp)) rfl

/-! ## A full channel -/

/-- The store decides what is announced, and does not depend on the channel. -/
theorem visit_congr {g g' : Game} (h : g.toStore = g'.toStore) (sim : ZoneSim) (order : VisitOrder)
    (id : EntityID) :
    g.visitEvents sim order id = g'.visitEvents sim order id ∧
      (visitObserver sim order g id).toStore = (visitObserver sim order g' id).toStore := by
  constructor
  · simp only [visitEvents, differences, spawnsFor, inRange, h]
  · unfold visitObserver
    cases sim.entities.get id with
    | none => exact h
    | some r => simp only [toStore_publishAll, h]

theorem loop_congr {g g' : Game} (h : g.toStore = g'.toStore) (sim : ZoneSim) (order : VisitOrder)
    (ids : List EntityID) :
    loopEvents sim order g ids = loopEvents sim order g' ids ∧
      (ids.foldl (visitObserver sim order) g).toStore =
        (ids.foldl (visitObserver sim order) g').toStore := by
  induction ids generalizing g g' with
  | nil => exact ⟨rfl, h⟩
  | cons id ids ih =>
    obtain ⟨hevents, hstore⟩ := visit_congr h sim order id
    obtain ⟨hrest, hend⟩ := ih hstore
    exact ⟨by rw [loopEvents, loopEvents, hevents, hrest], hend⟩

theorem announced_congr {g g' : Game} (h : g.toStore = g'.toStore) (zid : ZoneID)
    (order : VisitOrder) :
    g.announced (.own (.updateVisibility zid order)) =
        g'.announced (.own (.updateVisibility zid order)) ∧
      (g.updateVisibility zid order).toStore = (g'.updateVisibility zid order).toStore := by
  simp only [announced, updateVisibility, h]
  cases g'.zones.get zid with
  | none => exact ⟨rfl, h⟩
  | some sim => exact loop_congr h sim order _

/-- Rounds in which a client announces a state. -/
def chatter (pkt : InboundPacket) (n : ℕ) : List NodeCall :=
  (List.replicate n [.own (.receive pkt), .own .dispatchNext]).flatten

/-- The packet announces a state to one observer, and the inbox takes it. -/
structure Chatty (H : Host) (pkt : InboundPacket) (g : Game) : Prop where
  told : ∃ st payload e obs, Wire.request H.codec pkt.data = some (.state st payload) ∧
    g.entityOf st.entityID = some e ∧ g.audience e = [obs]
  inbox : g.inbox.recv = none
  cap : 0 < g.inbox.cap

/-- A round takes one place in the channel, and nothing else happens. -/
theorem Chatty.round {H : Host} {pkt : InboundPacket} {g : Game} (h : Chatty H pkt g)
    (hroom : 0 < g.room) :
    let g' := exec (nodeStep H) g [.own (.receive pkt), .own .dispatchNext]
    g'.toStore = g.toStore ∧ Publishes Event.IsUpdate g g' ∧ Chatty H pkt g' ∧
      g'.room + 1 = g.room ∧ g'.eventsDropped = g.eventsDropped := by
  obtain ⟨st, payload, e, obs, hreq, he, haudience⟩ := h.told
  obtain ⟨full, rest, hsend, hrecv, hempty, hcap⟩ :=
    Chan.exists_recv_of_empty h.inbox h.cap pkt
  set g₁ : Game := { g with inbox := rest } with hg₁
  have hserve : g₁.dispatchEntityState st payload = g₁.publishAll [stateEvent e payload obs] := by
    rw [dispatchEntityState_eq, show g₁.entityOf st.entityID = some e from he]
    simp only [show g₁.audience e = [obs] from haudience, List.map_cons, List.map_nil]
  have hround : exec (nodeStep H) g [.own (.receive pkt), .own .dispatchNext] =
      g₁.publishAll [stateEvent e payload obs] := by
    simp only [exec_cons, exec_nil, nodeStep, step, receive, hsend, dispatchNext, hrecv,
      dispatch_eq_serve, hreq, serve]
    exact hserve
  obtain ⟨-, hroom₁, hdropped₁⟩ := g₁.publishAll_eq [stateEvent e payload obs]
  have hinbox : (g₁.publishAll [stateEvent e payload obs]).inbox = rest := inbox_publishAll g₁ _
  have hstore : (g₁.publishAll [stateEvent e payload obs]).toStore = g.toStore :=
    toStore_publishAll _ _
  have hset : Publishes Event.IsUpdate g g₁ := .of_events_eq rfl rfl rfl rfl rfl
  simp only [hround]
  refine ⟨hstore, hset.trans (.publishAll g₁ fun evt hevt => ?_), ?_, ?_, ?_⟩
  · rw [List.mem_singleton.mp hevt]
    exact .inr rfl
  · refine ⟨⟨st, payload, e, obs, hreq, ?_, ?_⟩, hinbox ▸ hempty, ?_⟩
    · rw [hstore]
      exact he
    · rw [audience, hstore]
      exact haudience
    · rw [hinbox, hcap]
      exact h.cap
  · have hsame : g₁.room = g.room := rfl
    rw [hroom₁, hsame, List.length_singleton]
    omega
  · have hsame : g₁.eventsDropped = g.eventsDropped := rfl
    have hspace : 0 < g₁.room := hroom
    rw [hdropped₁, hsame, List.length_singleton]
    omega

/-- Rounds fill the channel. -/
theorem chatter_fills (H : Host) {pkt : InboundPacket} (n : ℕ) {g : Game} (h : Chatty H pkt g)
    (hroom : n ≤ g.room) :
    let g' := exec (nodeStep H) g (chatter pkt n)
    g'.toStore = g.toStore ∧ Publishes Event.IsUpdate g g' ∧ Chatty H pkt g' ∧
      g'.room + n = g.room ∧ g'.eventsDropped = g.eventsDropped := by
  induction n generalizing g with
  | zero => exact ⟨rfl, .refl g, h, rfl, rfl⟩
  | succ n ih =>
    obtain ⟨hstore₁, hpub₁, h₁, hroom₁, hdropped₁⟩ := h.round (by omega)
    obtain ⟨hstore, hpub, h', hroom', hdropped⟩ := ih h₁ (by omega)
    simp only [chatter, List.replicate_succ, List.flatten_cons] at hstore hpub h' hroom' hdropped ⊢
    rw [exec_append]
    exact ⟨hstore.trans hstore₁, hpub₁.trans hpub, h', by omega, hdropped.trans hdropped₁⟩

/-- No entity has a behaviour to step. -/
def Still (g : Game) : Prop :=
  ∀ id ∈ g.entities.keys, ∀ r ∈ g.entities.get id, (g.objects.cell r).lifecycle = none

instance (g : Game) : Decidable (Still g) :=
  inferInstanceAs (Decidable (∀ id ∈ g.entities.keys, ∀ r ∈ g.entities.get id,
    (g.objects.cell r).lifecycle = none))

theorem Still.lifecycle {g : Game} (h : Still g) {id : EntityID} {r : ℕ}
    (hr : g.entities.get id = some r) : (g.objects.cell r).lifecycle = none :=
  h id ((Dict.mem_keys_iff _ _).mpr (by simp [hr])) r hr

/-- A tick that finds no command, no packet and no behaviour to step. -/
theorem tick_of_idle (H : Host) (inp : TickInput) {g : Game} (hcmds : g.cmds.recv = none)
    (hinbox : g.inbox.recv = none) (hstill : Still g) :
    tick H inp g =
      (((g.zones.range inp.zoneOrder).foldl (fun (g : Game) zid =>
        (g.detectZoneBoundaries zid (inp.ghostNow zid) (inp.detectOrder zid)).updateVisibility zid
          (inp.visitOrder zid)) { g with lastTickAt := inp.now }).sweepGhosts inp.ghostSweepNow
            inp.ghostOrder).sweepDisconnected inp.sessionNow inp.sessionOrder := by
  set g₁ : Game := { g with lastTickAt := inp.now } with hg₁
  have hsimulate : simulate H.numerics g₁ (g.tickDelta inp.now) inp.seed inp.simulateOrder =
      g₁ := by
    refine List.foldlRecOn (motive := fun g' => g' = g₁) _ _ rfl ?_
    rintro _ rfl id -
    unfold simulateEntity
    split
    · rfl
    · next r hr =>
      have hnone : (g₁.objects.cell r).lifecycle = none := hstill.lifecycle hr
      simp [hnone]
  rw [tick_eq_tickBounded (Nat.zero_le _) (Nat.zero_le _) hcmds hinbox]
  simp only [tickBounded, Function.iterate_zero, id_eq, ← hg₁, hsimulate]
  rfl

/-- Rounds that fill the channel, and then a look at the surroundings: the records
are as they would be without the rounds, and every announcement is lost. -/
theorem crowded_look {H : Host} {pkt : InboundPacket} {g : Game} (hcoh : Coherent g.toStore)
    (hchatty : Chatty H pkt g) (zid : ZoneID) (order : VisitOrder) :
    let g' := (exec (nodeStep H) g (chatter pkt g.room)).updateVisibility zid order
    g'.toStore = (g.updateVisibility zid order).toStore ∧
      g'.eventsDropped =
        g.eventsDropped + (g.announced (.own (.updateVisibility zid order))).length ∧
      Publishes Event.IsUpdate g g' ∧ g'.inbox.recv = none := by
  obtain ⟨hstore, hpub, hafter, hroom, hdropped⟩ := chatter_fills H g.room hchatty le_rfl
  generalize exec (nodeStep H) g (chatter pkt g.room) = g₁ at *
  have hcoh₁ : Coherent g₁.toStore := hstore ▸ hcoh
  have hfull : g₁.room = 0 := by omega
  obtain ⟨hsame, hstore'⟩ := announced_congr hstore zid order
  obtain ⟨hsent, hcount⟩ := updateVisibility_channel hcoh₁ zid order
  have hshows := (Shows.updateVisibility g₁ zid order).publishes
  simp only [hfull, List.take_zero, List.append_nil, Nat.sub_zero, hsame] at hsent hcount
  refine ⟨hstore', by rw [hcount, hdropped], ?_, by simpa using hafter.inbox⟩
  exact ⟨by rw [hsent]; exact hpub.sent, hpub.dropped.trans hshows.dropped,
    hshows.cmds.trans hpub.cmds, hshows.sessionStates.trans hpub.sessionStates,
    hshows.reconnectWindow.trans hpub.reconnectWindow⟩

/-- A tick of an idle server whose one zone has nothing to announce. -/
theorem tick_of_settled (H : Host) (inp : TickInput) {g : Game} {zid : ZoneID}
    (hcoh : Coherent g.toStore) (hidle : Unattended g) (hinbox : g.inbox.recv = none)
    (hstill : Still g) (hzones : g.zones.range inp.zoneOrder = [zid])
    (hsettled : (g.detectZoneBoundaries zid (inp.ghostNow zid) (inp.detectOrder zid)).announced
      (.own (.updateVisibility zid (inp.visitOrder zid))) = []) :
    Silent g (tick H inp g) ∧ (tick H inp g).zones = g.zones ∧
      (tick H inp g).objects = g.objects ∧ (tick H inp g).aoiRadius = g.aoiRadius := by
  set g₁ : Game := { g with lastTickAt := inp.now } with hg₁
  set g₂ := g₁.detectZoneBoundaries zid (inp.ghostNow zid) (inp.detectOrder zid) with hg₂
  set g₃ := g₂.updateVisibility zid (inp.visitOrder zid) with hg₃
  set g₄ := g₃.sweepGhosts inp.ghostSweepNow inp.ghostOrder with hg₄
  have hmaps₂ : Store.SameMaps g.toStore g₂.toStore := .detectZoneBoundaries _ _ _ _
  have hobjects₂ : g₂.objects = g.objects := Store.objects_detectZoneBoundaries _ _ _ _
  have hstore₂ : g₂.toStore =
      (g.detectZoneBoundaries zid (inp.ghostNow zid) (inp.detectOrder zid)).toStore := rfl
  have hsettled₂ : g₂.announced (.own (.updateVisibility zid (inp.visitOrder zid))) = [] :=
    (announced_congr hstore₂ _ _).1.trans hsettled
  obtain ⟨hsent, hcount⟩ := updateVisibility_channel
    (show Coherent g₂.toStore from hcoh.detectZoneBoundaries _ _ _) zid (inp.visitOrder zid)
  simp only [hsettled₂, List.take_nil, List.append_nil, List.length_nil, Nat.zero_sub,
    Nat.add_zero, ← hg₃] at hsent hcount
  obtain ⟨hpub, aoi, hstore₃⟩ := Shows.updateVisibility g₂ zid (inp.visitOrder zid)
  have hmaps₄ : Store.SameMaps g₃.toStore g₄.toStore := .sweepGhosts _ _ _
  have hobjects₄ : g₄.objects = g₃.objects := Store.objects_sweepGhosts _ _ _
  have hidle₂ : Unattended g₂ := hidle
  have hidle₄ : Unattended g₄ := show Unattended g₃ from hidle₂.publishes hpub
  have htick : tick H inp g = g₄ := by
    rw [tick_of_idle H inp hidle.1 hinbox hstill, hzones]
    exact sweepDisconnected_of_noneExpired (hidle₄.noneExpired _) _
  rw [htick]
  refine ⟨⟨hsent, hcount⟩, ?_, ?_, ?_⟩
  · rw [hmaps₄.zones, hstore₃]
    exact hmaps₂.zones
  · rw [hobjects₄, hstore₃]
    exact hobjects₂
  · rw [hmaps₄.aoiRadius, hstore₃]
    exact hmaps₂.aoiRadius

/-- The tick after a crowded look: the server has nothing to announce, for it has
everybody on record. -/
theorem tick_after_crowd {H : Host} (inp : TickInput) {pkt : InboundPacket} {g g' : Game}
    {zid : ZoneID} (hcoh : Coherent g.toStore) (hchatty : Chatty H pkt g) (hidle : Unattended g)
    (hstill : Still g) (hzones : g.zones.range inp.zoneOrder = [zid])
    (hsettled : ((g.updateVisibility zid (inp.visitOrder zid)).detectZoneBoundaries zid
      (inp.ghostNow zid) (inp.detectOrder zid)).announced
        (.own (.updateVisibility zid (inp.visitOrder zid))) = [])
    (hg' : g' = (exec (nodeStep H) g (chatter pkt g.room)).updateVisibility zid
      (inp.visitOrder zid)) :
    g'.eventsDropped = g.eventsDropped +
        (g.announced (.own (.updateVisibility zid (inp.visitOrder zid)))).length ∧
      Publishes Event.IsUpdate g g' ∧ Silent g' (tick H inp g') ∧
      (tick H inp g').zones = g.zones ∧ (tick H inp g').objects = g.objects ∧
      (tick H inp g').aoiRadius = g.aoiRadius := by
  obtain ⟨hstore, hdropped, hpub, hinbox⟩ := crowded_look hcoh hchatty zid (inp.visitOrder zid)
  rw [← hg'] at hstore hdropped hpub hinbox
  obtain ⟨-, aoi, hshown⟩ := Shows.updateVisibility g zid (inp.visitOrder zid)
  have hcoh' : Coherent g'.toStore := hstore ▸ coherent_updateVisibility hcoh zid _
  have hsettled' : (g'.detectZoneBoundaries zid (inp.ghostNow zid)
      (inp.detectOrder zid)).announced (.own (.updateVisibility zid (inp.visitOrder zid))) = [] :=
    (announced_congr (congrArg (Store.detectZoneBoundaries · zid (inp.ghostNow zid)
      (inp.detectOrder zid)) hstore) _ _).1.trans hsettled
  have hstill' : Still g' := by
    rw [Still, hstore, hshown]
    exact hstill
  have hmaps : g'.zones = g.zones ∧ g'.objects = g.objects ∧ g'.aoiRadius = g.aoiRadius := by
    rw [hstore, hshown]
    exact ⟨rfl, rfl, rfl⟩
  obtain ⟨hsilent, hz, ho, hr⟩ := tick_of_settled H inp hcoh' (hidle.publishes hpub) hinbox
    hstill' (hmaps.1 ▸ hzones) hsettled'
  exact ⟨hdropped, hpub, hsilent, hz.trans hmaps.1, ho.trans hmaps.2.1, hr.trans hmaps.2.2⟩

end Game

end SpatialServer

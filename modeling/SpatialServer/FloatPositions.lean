import SpatialServer.GhostUpdates
import SpatialServer.Noninterference
import SpatialServer.Recovery

/-!
# Positions as clients send them

A coordinate on the wire is a double and may be no number, and the position of an
update is a message of its own and may be missing. The server applies what it
reads: a missing position as the origin, and a coordinate that is no number as it
stands. The encoder of the saved rows takes finite numbers only, so that one such
coordinate keeps a whole zone from being saved.

The state is the part of the store that positions are read from, with the moves
that are handed on to the grid and to the observers. On packets with finite
numbers it is the store of the simulation.
-/
namespace SpatialServer

open Runs

/-! ## Doubles -/

/-- A double, as far as it matters here. -/
inductive Coord where
  | finite (q : ℚ)
  | nan
  | inf (negative : Bool)
  deriving DecidableEq

def Coord.exact : Coord → Option ℚ
  | .finite q => some q
  | _ => none

structure FloatVector where
  x : Coord
  y : Coord
  z : Coord
  deriving DecidableEq

namespace FloatVector

def of (v : Vector3) : FloatVector := ⟨.finite v.x, .finite v.y, .finite v.z⟩

def zero : FloatVector := of Vector3.zero

def exact (v : FloatVector) : Option Vector3 := do
  return ⟨← v.x.exact, ← v.y.exact, ← v.z.exact⟩

/-- All three coordinates are numbers. -/
def Finite (v : FloatVector) : Prop := ∃ w, v = of w

@[simp] theorem exact_of (w : Vector3) : (of w).exact = some w := rfl

theorem exact_eq_some {v : FloatVector} {w : Vector3} : v.exact = some w ↔ v = of w := by
  constructor
  · intro h
    obtain ⟨x, y, z⟩ := v
    cases x <;> cases y <;> cases z <;> cases h
    rfl
  · rintro rfl
    rfl

theorem finite_iff {v : FloatVector} : v.Finite ↔ v.exact.isSome := by
  rw [Option.isSome_iff_exists]
  exact exists_congr fun w => exact_eq_some.symm

end FloatVector

/-! ## Packets -/

structure FloatUpdate where
  entityID : String
  position : Option FloatVector

/-- The update in exact numbers, if it has them. -/
def FloatUpdate.exact (upd : FloatUpdate) : Option Wire.EntityUpdate :=
  match upd.position with
  | none => some ⟨upd.entityID, none⟩
  | some v => v.exact.map fun w => ⟨upd.entityID, some w⟩

structure FloatCodec where
  gunzip : Bytes → Except Wire.GunzipError Bytes
  entityUpdate : Bytes → Option FloatUpdate
  entityAction : Bytes → Option Wire.EntityAction
  entityState : Bytes → Option Wire.EntityState

namespace FloatCodec

/-- The codec on messages in exact numbers. It reads the header in the same way. -/
def exact (c : FloatCodec) : Wire.Codec :=
  ⟨c.gunzip, fun b => (c.entityUpdate b).bind FloatUpdate.exact, c.entityAction, c.entityState⟩

@[simp] theorem entityUpdate_exact (c : FloatCodec) (payload : Bytes) :
    c.exact.entityUpdate payload = (c.entityUpdate payload).bind FloatUpdate.exact := rfl

/-- The position update that the bytes carry, if they do. -/
def update (c : FloatCodec) (data : Bytes) : Option FloatUpdate :=
  match Wire.decode c.exact data with
  | .error _ => none
  | .ok d => if d.id = Wire.packetIDPositionUpdate then c.entityUpdate d.payload else none

end FloatCodec

/-! ## The server -/

structure FloatEntity where
  id : EntityID
  type : String
  position : FloatVector
  attrs : Dict String Bytes
  ownerID : OwnerID
  lifecycle : Option NPCLifecycle

structure FloatStore where
  zones : Dict ZoneID ZoneSim
  entities : Dict EntityID ℕ
  objects : Heap FloatEntity
  /-- The moves handed on to the grid and to the observers. -/
  moves : List (EntityID × FloatVector)

structure FloatRow where
  id : String
  type : String
  behavior : Bytes
  position : FloatVector

def FloatRow.exact (row : FloatRow) : Option Row :=
  row.position.exact.map fun v => ⟨row.id, row.type, row.behavior, v.x, v.y, v.z⟩

def FloatEntity.row (e : FloatEntity) : FloatRow :=
  ⟨e.id, e.type, (e.attrs.get "behavior").getD [], e.position⟩

namespace FloatStore

def setObject (s : FloatStore) (r : ℕ) (e : FloatEntity) : FloatStore :=
  { s with objects := s.objects.write r e }

/-- A missing position reads as the origin, field by field. -/
def dispatchPositionUpdate (s : FloatStore) (clientID : EntityID) (upd : FloatUpdate) :
    FloatStore :=
  match s.entities.get clientID with
  | none => s
  | some r =>
    let e := { s.objects.cell r with position := upd.position.getD FloatVector.zero }
    { s.setObject r e with moves := s.moves ++ [(e.id, e.position)] }

def dispatchEntityAction (s : FloatStore) (clientID : EntityID) (act : Wire.EntityAction) :
    FloatStore :=
  match s.entities.get act.entityID with
  | none => s
  | some r =>
    let e := s.objects.cell r
    if e.ownerID ≠ clientID then s
    else match e.lifecycle with
      | none => s
      | some l =>
        s.setObject r { e with lifecycle := some (l.onAction act.action act.payload) }

/-- A state packet is only passed on to the observers. -/
def dispatch (c : FloatCodec) (s : FloatStore) (pkt : InboundPacket) : FloatStore :=
  match Wire.decode c.exact pkt.data with
  | .error _ => s
  | .ok d =>
    if d.id = Wire.packetIDPositionUpdate then
      match c.entityUpdate d.payload with
      | some upd => s.dispatchPositionUpdate pkt.clientID upd
      | none => s
    else if d.id = Wire.packetIDEntityAction then
      match c.entityAction d.payload with
      | some act => s.dispatchEntityAction pkt.clientID act
      | none => s
    else s

def positionOf (s : FloatStore) (id : EntityID) : Option FloatVector :=
  (s.entities.get id).map fun r => (s.objects.cell r).position

def zoneRows (s : FloatStore) (sim : ZoneSim) (order : List EntityID) : List FloatRow :=
  (sim.entities.range order).filterMap fun id =>
    (sim.entities.get id).map fun r => (s.objects.cell r).row

/-- The encoder refuses what is no number; everything else it can write down. -/
def marshal {D : Type} (render : List Row → D) (rows : List FloatRow) : Option D :=
  (rows.mapM FloatRow.exact).map render

/-- Rows that do not marshal are skipped. -/
def snapshotAllZones {D : Type} (render : List Row → D) (s : FloatStore) (tick : ℕ)
    (zoneOrder : List ZoneID) (order : ZoneID → List EntityID) : List (Save D) :=
  (s.zones.range zoneOrder).filterMap fun zid =>
    (s.zones.get zid).bind fun sim =>
      (marshal render (s.zoneRows sim (order zid))).map fun data => ⟨zid, data, tick⟩

/-! ## Which zones are saved -/

/-- Every entity of the zone is at a position of numbers. -/
def Encodes (s : FloatStore) (zid : ZoneID) : Prop :=
  ∃ sim, s.zones.get zid = some sim ∧
    ∀ id r, sim.entities.get id = some r → (s.objects.cell r).position.Finite

theorem isSome_marshal {D : Type} (render : List Row → D) (rows : List FloatRow) :
    (marshal render rows).isSome ↔ ∀ row ∈ rows, row.position.Finite := by
  unfold marshal
  rw [Option.isSome_map]
  induction rows with
  | nil => simp
  | cons row rows ih =>
    have hrow : row.exact.isSome ↔ row.position.Finite := by
      rw [FloatVector.finite_iff, FloatRow.exact, Option.isSome_map]
    rw [List.mapM_cons, List.forall_mem_cons, ← ih, ← hrow]
    cases row.exact <;> cases rows.mapM FloatRow.exact <;> simp

theorem mem_zoneRows {s : FloatStore} {sim : ZoneSim} {order : List EntityID} {row : FloatRow} :
    row ∈ s.zoneRows sim order ↔
      ∃ id r, sim.entities.get id = some r ∧ (s.objects.cell r).row = row := by
  simp only [zoneRows, List.mem_filterMap, Dict.mem_range_iff_exists, Option.map_eq_some_iff]
  constructor
  · rintro ⟨id, -, r, hr, hrow⟩
    exact ⟨id, r, hr, hrow⟩
  · rintro ⟨id, r, hr, hrow⟩
    exact ⟨id, ⟨r, hr⟩, r, hr, hrow⟩

/-- A zone is saved, in whatever order the maps are read, if it encodes. -/
theorem saved_iff {D : Type} (render : List Row → D) (s : FloatStore) (tick : ℕ)
    (zoneOrder : List ZoneID) (order : ZoneID → List EntityID) (zid : ZoneID) :
    (∃ save ∈ s.snapshotAllZones render tick zoneOrder order, save.zoneID = zid) ↔
      s.Encodes zid := by
  have hrows : ∀ sim, (marshal render (s.zoneRows sim (order zid))).isSome ↔
      ∀ id r, sim.entities.get id = some r → (s.objects.cell r).position.Finite := by
    intro sim
    rw [isSome_marshal]
    constructor
    · intro h id r hr
      exact h _ (mem_zoneRows.mpr ⟨id, r, hr, rfl⟩)
    · intro h row hrow
      obtain ⟨id, r, hr, rfl⟩ := mem_zoneRows.mp hrow
      exact h id r hr
  simp only [snapshotAllZones, List.mem_filterMap, Dict.mem_range_iff_exists,
    Option.bind_eq_some_iff, Option.map_eq_some_iff, Encodes]
  constructor
  · rintro ⟨save, ⟨z, -, sim, hsim, data, hdata, rfl⟩, rfl⟩
    exact ⟨sim, hsim, (hrows sim).mp (by simp [hdata])⟩
  · rintro ⟨sim, hsim, hfinite⟩
    obtain ⟨data, hdata⟩ := Option.isSome_iff_exists.mp ((hrows sim).mpr hfinite)
    exact ⟨⟨zid, data, tick⟩, ⟨zid, ⟨sim, hsim⟩, sim, hsim, data, hdata, rfl⟩, rfl⟩

/-! ## What a packet does -/

/-- Only position updates change anything here. -/
theorem dispatch_eq (c : FloatCodec) (s : FloatStore) (pkt : InboundPacket) :
    dispatch c s pkt = match c.update pkt.data with
      | some upd => s.dispatchPositionUpdate pkt.clientID upd
      | none => s := by
  have haction : ∀ act, s.dispatchEntityAction pkt.clientID act = s := by
    intro act
    unfold dispatchEntityAction
    rcases s.entities.get act.entityID with _ | r
    · rfl
    · dsimp only
      split_ifs
      · rfl
      · rcases hl : (s.objects.cell r).lifecycle with _ | l
        · rfl
        · simp [NPCLifecycle.onAction, setObject, Heap.write, ← hl]
  unfold dispatch FloatCodec.update
  rcases Wire.decode c.exact pkt.data with err | d
  · rfl
  · dsimp only
    split_ifs
    · cases c.entityUpdate d.payload <;> rfl
    · cases c.entityAction d.payload with
      | none => rfl
      | some act => exact haction act
    · rfl

/-- After the packet the entity of the sender is where it was, or where the packet says
in numbers that it is; and an update without a position is refused. -/
structure AppliesReal (c : FloatCodec) (s : FloatStore) (pkt : InboundPacket) : Prop where
  position : (dispatch c s pkt).positionOf pkt.clientID = s.positionOf pkt.clientID ∨
    ∃ upd v, c.update pkt.data = some upd ∧ upd.position = some v ∧ v.Finite ∧
      (dispatch c s pkt).positionOf pkt.clientID = some v
  absent : ∀ upd, c.update pkt.data = some upd → upd.position = none → dispatch c s pkt = s

/-- An update of a client that has an entity carries a position, of numbers or the one
where the entity is. -/
def SendsReal (c : FloatCodec) (s : FloatStore) (pkt : InboundPacket) : Prop :=
  ∀ upd, c.update pkt.data = some upd → (s.entities.get pkt.clientID).isSome →
    ∃ v, upd.position = some v ∧ (v.Finite ∨ s.positionOf pkt.clientID = some v)

theorem appliesReal_iff (c : FloatCodec) (s : FloatStore) (pkt : InboundPacket) :
    AppliesReal c s pkt ↔ SendsReal c s pkt := by
  have hdispatch := dispatch_eq c s pkt
  rcases hupd : c.update pkt.data with _ | upd
  · -- nothing happens
    rw [hupd] at hdispatch
    refine iff_of_true ⟨.inl (by rw [hdispatch]), fun upd h => ?_⟩ fun upd h => ?_
    · cases hupd.symm.trans h
    · cases hupd.symm.trans h
  rw [hupd] at hdispatch
  rcases hr : s.entities.get pkt.clientID with _ | r
  · have hsame : dispatch c s pkt = s := by simp [hdispatch, dispatchPositionUpdate, hr]
    exact iff_of_true ⟨.inl (by rw [hsame]), fun _ _ _ => hsame⟩ fun _ _ h => by simp [hr] at h
  · have hpos : (dispatch c s pkt).positionOf pkt.clientID =
        some (upd.position.getD FloatVector.zero) := by
      simp [hdispatch, dispatchPositionUpdate, setObject, positionOf, hr]
    have hne : dispatch c s pkt ≠ s := by
      intro h
      have hmoves := congrArg (fun t => t.moves.length) h
      simp [hdispatch, dispatchPositionUpdate, hr] at hmoves
    constructor
    · rintro ⟨hposition, habsent⟩ upd' hupd' -
      cases hupd.symm.trans hupd'
      rcases hv : upd.position with _ | v
      · exact absurd (habsent upd hupd hv) hne
      · refine ⟨v, rfl, ?_⟩
        rw [hpos, hv, Option.getD_some] at hposition
        obtain hkeep | ⟨upd', v', hupd', hv', hfinite, -⟩ := hposition
        · exact .inr hkeep.symm
        · cases hupd.symm.trans hupd'
          cases hv.symm.trans hv'
          exact .inl hfinite
    · intro h
      obtain ⟨v, hv, hreal⟩ := h upd hupd (by simp [hr])
      rw [hv, Option.getD_some] at hpos
      refine ⟨?_, fun upd' hupd' hnone => ?_⟩
      · exact hreal.symm.imp (fun hkeep => hpos.trans hkeep.symm)
          fun hfinite => ⟨upd, v, hupd, hv, hfinite, hpos⟩
      · cases hupd.symm.trans hupd'
        cases hv.symm.trans hnone

/-- A packet that sends real positions leaves a zone that encodes as one. -/
theorem Encodes.dispatch {c : FloatCodec} {s : FloatStore} {pkt : InboundPacket} {zid : ZoneID}
    (h : s.Encodes zid) (hreal : SendsReal c s pkt) :
    (FloatStore.dispatch c s pkt).Encodes zid := by
  rw [dispatch_eq]
  rcases hupd : c.update pkt.data with _ | upd
  · exact h
  dsimp only [dispatchPositionUpdate, setObject]
  rcases hr : s.entities.get pkt.clientID with _ | r
  · exact h
  obtain ⟨v, hv, hfinite⟩ := hreal upd hupd (by simp [hr])
  obtain ⟨sim, hsim, hall⟩ := h
  refine ⟨sim, hsim, fun id q hq => ?_⟩
  dsimp only
  by_cases hqr : q = r
  · -- the entity of the sender is one of the zone
    subst hqr
    rw [Heap.cell_write_self, hv]
    rcases hfinite with hfinite | hkeep
    · exact hfinite
    · rw [positionOf, hr, Option.map_some, Option.some.injEq] at hkeep
      exact hkeep ▸ hall id q hq
  · rw [Heap.cell_write_ne _ _ hqr]
    exact hall id q hq

/-- Over every sequence of packets from every state, only real positions are applied and
no zone that could be saved is skipped afterwards, exactly if every applied update
carries a real position. -/
theorem only_real_positions_iff {D : Type} (render : List Row → D) (c : FloatCodec)
    (s : FloatStore) (pkts : List InboundPacket) :
    (Along (dispatch c) (AppliesReal c) s pkts ∧
      ∀ part, part <+: pkts → ∀ tick zoneOrder order zid,
        (∃ save ∈ s.snapshotAllZones render tick zoneOrder order, save.zoneID = zid) →
        ∃ save ∈ (exec (dispatch c) s part).snapshotAllZones render tick zoneOrder order,
          save.zoneID = zid) ↔
    Along (dispatch c) (SendsReal c) s pkts := by
  constructor
  · rintro ⟨h, -⟩
    exact h.mono fun s pkt => (appliesReal_iff c s pkt).mp
  · intro h
    refine ⟨h.mono fun s pkt => (appliesReal_iff c s pkt).mpr, ?_⟩
    rintro part ⟨rest, rfl⟩ tick zoneOrder order zid hsaved
    rw [saved_iff] at hsaved ⊢
    exact exec_invariant (fun t => t.Encodes zid) (fun t pkt ht hpkt => ht.dispatch hpkt) hsaved
      ((along_append _ _ _).mp h).1

/-- The packets of this codec say whether the position is missing or no number. -/
def blankOrNan : FloatCodec where
  gunzip := .ok
  entityUpdate payload := some ⟨"", if payload = [] then none else some ⟨.nan, .nan, .nan⟩⟩
  entityAction _ := none
  entityState _ := none

/-- An update without a position puts the entity to the origin, where the other entry point
refuses it; and one that is no number keeps its zone from being saved. -/
theorem unreal_positions_applied :
    let header : Bytes := [1, 0, 3, 0, 0, 0, 0, 0]
    let e : FloatEntity := ⟨"p1", "player", .of ⟨1, 2, 3⟩, ∅, "p1", none⟩
    let s : FloatStore := ⟨Dict.set ∅ "z" ⟨none, 0, Dict.set ∅ "p1" 0⟩, Dict.set ∅ "p1" 0,
      ⟨fun _ => e, 1⟩, []⟩
    let saves (t : FloatStore) := t.snapshotAllZones id 1 [] fun _ => []
    (dispatch blankOrNan s ⟨"p1", header⟩).positionOf "p1" = some .zero ∧
      (∀ (t : Store) now, t.sendEntityUpdate ⟨"p1", none⟩ now = (t, false)) ∧
      (saves s).map Save.zoneID = ["z"] ∧
      saves (dispatch blankOrNan s ⟨"p1", header ++ [0]⟩) = [] := by
  intro header e s saves
  refine ⟨by decide +kernel, fun _ _ => rfl, by decide +kernel, by decide +kernel⟩

/-! ## In exact numbers -/

end FloatStore

def FloatEntity.of (e : Entity) : FloatEntity :=
  ⟨e.id, e.type, .of e.position, e.attrs, e.ownerID, e.lifecycle⟩

def FloatRow.of (row : Row) : FloatRow :=
  ⟨row.id, row.type, row.behavior, .of ⟨row.x, row.y, row.z⟩⟩

/-- The store of the simulation, seen through doubles. -/
def FloatStore.of (s : Store) (moves : List (EntityID × FloatVector)) : FloatStore :=
  ⟨s.zones, s.entities, ⟨fun r => .of (s.objects.cell r), s.objects.next⟩, moves⟩

/-- The simulation reads the update as it is, if its position is missing or of numbers. -/
theorem FloatCodec.request_exact {c : FloatCodec} {data : Bytes} {upd : FloatUpdate}
    (h : c.update data = some upd) :
    Wire.request c.exact data = upd.exact.map Request.position := by
  rcases hd : Wire.decode c.exact data with err | d
  · simp [FloatCodec.update, hd] at h
  · by_cases hid : d.id = Wire.packetIDPositionUpdate
    · simp only [FloatCodec.update, hd, hid, if_true] at h
      simp [Wire.request, hd, hid, h]
    · simp [FloatCodec.update, hd, hid] at h

theorem FloatCodec.request_ne {c : FloatCodec} {data : Bytes} (h : c.update data = none)
    (upd : Wire.EntityUpdate) : Wire.request c.exact data ≠ some (.position upd) := by
  rcases hd : Wire.decode c.exact data with err | d
  · simp [Wire.request, hd]
  · by_cases hid : d.id = Wire.packetIDPositionUpdate
    · simp only [FloatCodec.update, hd, hid, if_true] at h
      simp [Wire.request, hd, hid, h]
    · simp only [Wire.request, hd, hid, if_false]
      split_ifs <;> simp

namespace FloatStore

theorem of_eq_setObject {s t : Store} {r : ℕ} {e : Entity} (hzones : t.zones = s.zones)
    (hentities : t.entities = s.entities) (hobjects : t.objects = s.objects.write r e)
    (moves : List (EntityID × FloatVector)) :
    FloatStore.of t moves = (FloatStore.of s moves).setObject r (.of e) := by
  have hcell : (fun q => FloatEntity.of (Function.update s.objects.cell r e q)) =
      Function.update (fun q => FloatEntity.of (s.objects.cell q)) r (.of e) :=
    Function.comp_update FloatEntity.of s.objects.cell r e
  unfold FloatStore.of setObject
  rw [hzones, hentities, hobjects]
  simp only [Heap.write, hcell]

/-- An update of numbers does to the doubles what it does to the simulation. -/
theorem dispatchPositionUpdate_of (s : Store) (moves : List (EntityID × FloatVector))
    (clientID : EntityID) {upd : FloatUpdate} {w : Vector3}
    (hw : upd.position.getD FloatVector.zero = .of w) : ∃ moves',
    (FloatStore.of s moves).dispatchPositionUpdate clientID upd =
      .of (s.reposition clientID w) moves' := by
  have hentities : (FloatStore.of s moves).entities = s.entities := rfl
  unfold dispatchPositionUpdate Store.reposition
  rw [hentities, hw]
  rcases s.entities.get clientID with _ | r
  · exact ⟨moves, rfl⟩
  · have hmaps := (Store.SameMaps.setObject s r { s.objects.cell r with position := w }).trans
      (.moveOnGrid _ (s.objects.cell r).id w)
    have hof := of_eq_setObject hmaps.zones hmaps.entities (Store.objects_moveOnGrid _ _ _)
      (moves ++ [((s.objects.cell r).id, .of w)])
    exact ⟨_, hof.symm⟩

/-- On a packet whose position is missing or of numbers, the two servers agree. -/
theorem dispatch_of (c : FloatCodec) (g : Game) (moves : List (EntityID × FloatVector))
    (pkt : InboundPacket)
    (hreal : ∀ upd v, c.update pkt.data = some upd → upd.position = some v → v.Finite) :
    ∃ moves', dispatch c (.of g.toStore moves) pkt =
      .of (g.dispatch c.exact pkt).toStore moves' := by
  rw [dispatch_eq, Game.toStore_dispatch]
  rcases hupd : c.update pkt.data with _ | upd
  · refine ⟨moves, ?_⟩
    rcases hreq : Wire.request c.exact pkt.data with _ | (upd | act | st)
    · rfl
    · exact absurd hreq (FloatCodec.request_ne hupd upd)
    · rfl
    · rfl
  · rw [FloatCodec.request_exact hupd, FloatUpdate.exact]
    rcases hv : upd.position with _ | v
    · exact dispatchPositionUpdate_of _ _ _ (by rw [hv]; rfl)
    · obtain ⟨w, rfl⟩ := hreal upd v hupd hv
      exact dispatchPositionUpdate_of _ _ _ (by rw [hv]; rfl)

theorem marshal_of {D : Type} (render : List Row → D) (rows : List Row) :
    marshal render (rows.map FloatRow.of) = some (render rows) := by
  have hexact : (rows.map FloatRow.of).mapM FloatRow.exact = some rows := by
    induction rows with
    | nil => rfl
    | cons row rows ih => simp [ih, FloatRow.exact, FloatRow.of]
  rw [marshal, hexact, Option.map_some]

/-- What is saved of the doubles is what the simulation saves. -/
theorem snapshotAllZones_of {D : Type} (C : RowCodec D) {render : List Row → D}
    (hC : ∀ rows, C.marshal rows = some (render rows)) (s : Store)
    (moves : List (EntityID × FloatVector)) (tick : ℕ) (zoneOrder : List ZoneID)
    (order : ZoneID → List EntityID) :
    (FloatStore.of s moves).snapshotAllZones render tick zoneOrder order =
      s.snapshotAllZones C tick zoneOrder order := by
  have hrows : ∀ sim order, (FloatStore.of s moves).zoneRows sim order =
      (s.zoneRows sim order).map FloatRow.of := by
    intro sim order
    rw [zoneRows, Store.zoneRows, List.map_filterMap]
    refine List.filterMap_congr fun id _ => ?_
    cases sim.entities.get id <;> rfl
  unfold snapshotAllZones Store.snapshotAllZones
  simp only [hrows, marshal_of, hC]
  rfl

end FloatStore

end SpatialServer

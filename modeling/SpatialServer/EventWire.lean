import SpatialServer.PacketCodec
import SpatialServer.Control

/-!
# Events on the wire

The relay adapter turns every event into one packet for its observer. Three
kinds of events are marshalled into messages of their own; a state is forwarded
as the payload it came with. Marshalling is a parameter, trusted to bring back
what it was given, and nothing is ever compressed on the way out. A receiver
tells the kind by the packet and reads the fields of the kind from its payload.
-/
namespace SpatialServer.Wire

def packetIDEntitySpawn : ℕ := 0x04
def packetIDEntityDespawn : ℕ := 0x05
def packetIDEntityMove : ℕ := 0x06

/-- The two directions of marshalling one type of message. -/
structure Message (M : Type) where
  marshal : M → Option Bytes
  unmarshal : Bytes → Option M
  round_trip : ∀ m, ∃ b, marshal m = some b ∧ unmarshal b = some m

/-- The outbound messages of the adapter, and the compressor it never needs. -/
structure Adapter where
  gzip : Bytes → Option Bytes
  entitySnapshot : Message EntitySnapshot
  entityID : Message EntityID
  entityUpdate : Message EntityUpdate

namespace Adapter

variable (a : Adapter)

/-- An error of the marshaller is ignored and leaves an empty payload. -/
def encodeMessage {M : Type} (id : ℕ) (msg : Message M) (m : M) : Bytes :=
  encode a.gzip (.ofNat id) ((msg.marshal m).getD []) false 0

def encodeSpawnEvent (evt : Event) : Bytes :=
  a.encodeMessage packetIDEntitySpawn a.entitySnapshot ⟨evt.entityID, evt.type, some evt.position⟩

def encodeDespawnEvent (id : EntityID) : Bytes :=
  a.encodeMessage packetIDEntityDespawn a.entityID id

def encodeMoveEvent (id : EntityID) (pos : Vector3) : Bytes :=
  a.encodeMessage packetIDEntityMove a.entityUpdate ⟨id, some pos⟩

def encodeEvent (evt : Event) : Bytes :=
  match evt.kind with
  | .spawn => a.encodeSpawnEvent evt
  | .despawn => a.encodeDespawnEvent evt.entityID
  | .move => a.encodeMoveEvent evt.entityID evt.position
  | .state => encode a.gzip (.ofNat packetIDEntityState) evt.payload false 0

/-- The packet of a kind of events. -/
def packetID : EventKind → ℕ
  | .spawn => packetIDEntitySpawn
  | .despawn => packetIDEntityDespawn
  | .move => packetIDEntityMove
  | .state => packetIDEntityState

/-- The payload carries what the kind of the event is to tell. -/
def Carries (evt : Event) (payload : Bytes) : Prop :=
  match evt.kind with
  | .spawn => a.entitySnapshot.unmarshal payload =
      some ⟨evt.entityID, evt.type, some evt.position⟩
  | .despawn => a.entityID.unmarshal payload = some evt.entityID
  | .move => a.entityUpdate.unmarshal payload = some ⟨evt.entityID, some evt.position⟩
  | .state => payload = evt.payload

/-- Two events of one kind with the same of what that kind is to tell. -/
def SameContent (evt evt' : Event) : Prop :=
  evt.kind = evt'.kind ∧
    match evt.kind with
    | .spawn => evt.entityID = evt'.entityID ∧ evt.type = evt'.type ∧ evt.position = evt'.position
    | .despawn => evt.entityID = evt'.entityID
    | .move => evt.entityID = evt'.entityID ∧ evt.position = evt'.position
    | .state => evt.payload = evt'.payload

variable {a}

/-- Without compression nothing depends on the compressor. -/
theorem decode_encode_raw (c : Codec) (gzip : Bytes → Option Bytes) (id : UInt16)
    (payload : Bytes) (seq : UInt32) : decode c (encode gzip id payload false seq) =
      .ok ⟨protocolVersionV1, id.toNat, payload, false, seq.toNat⟩ := by
  have hraw : encode gzip id payload false seq = encode (fun _ => none) id payload false seq := by
    simp [encode, encodeBody]
  rw [hraw, decode_encode (by simp)]
  simp [encodeBody]

theorem decode_encodeMessage (c : Codec) {M : Type} {id : ℕ} (hid : id < 2 ^ 16)
    (msg : Message M) (m : M) : ∃ payload, msg.unmarshal payload = some m ∧
      decode c (a.encodeMessage id msg m) = .ok ⟨protocolVersionV1, id, payload, false, 0⟩ := by
  obtain ⟨b, hmarshal, hunmarshal⟩ := msg.round_trip m
  refine ⟨b, hunmarshal, ?_⟩
  rw [encodeMessage, decode_encode_raw, hmarshal, UInt16.toNat_ofNat_of_lt' hid]
  rfl

/-- Every event arrives as the packet of its kind with the fields of its kind. -/
theorem decode_encodeEvent (c : Codec) (evt : Event) : ∃ payload, a.Carries evt payload ∧
    decode c (a.encodeEvent evt) =
      .ok ⟨protocolVersionV1, packetID evt.kind, payload, false, 0⟩ := by
  unfold Carries encodeEvent packetID
  cases evt.kind with
  | spawn => exact decode_encodeMessage c (by decide) _ _
  | despawn => exact decode_encodeMessage c (by decide) _ _
  | move => exact decode_encodeMessage c (by decide) _ _
  | state => exact ⟨evt.payload, rfl, decode_encode_raw c _ _ _ _⟩

theorem packetID_injective : Function.Injective packetID := by
  intro k k' h
  revert h
  cases k <;> cases k' <;> decide

/-- One payload does not carry two different contents. -/
theorem Carries.sameContent {evt evt' : Event} {payload : Bytes} (h : a.Carries evt payload)
    (h' : a.Carries evt' payload) (hkind : evt.kind = evt'.kind) : SameContent evt evt' := by
  refine ⟨hkind, ?_⟩
  unfold Carries at h h'
  rw [← hkind] at h'
  cases hk : evt.kind with
  | spawn =>
    simp only [hk] at h h'
    simpa using h.symm.trans h'
  | despawn =>
    simp only [hk] at h h'
    simpa using h.symm.trans h'
  | move =>
    simp only [hk] at h h'
    simpa using h.symm.trans h'
  | state =>
    simp only [hk] at h h'
    exact h.symm.trans h'

/-- Events with different contents are different on the wire. -/
theorem sameContent_of_encodeEvent_eq {evt evt' : Event}
    (h : a.encodeEvent evt = a.encodeEvent evt') : SameContent evt evt' := by
  -- any decoder will do: nothing is compressed
  let c : Codec := ⟨.ok, fun _ => none, fun _ => none, fun _ => none⟩
  obtain ⟨payload, hcarries, hdec⟩ := decode_encodeEvent (a := a) c evt
  obtain ⟨payload', hcarries', hdec'⟩ := decode_encodeEvent (a := a) c evt'
  have hsame := hdec.symm.trans ((congrArg (decode c) h).trans hdec')
  simp only [Except.ok.injEq, Decoded.mk.injEq, true_and, and_true] at hsame
  obtain ⟨hid, rfl⟩ := hsame
  exact hcarries.sameContent hcarries' (packetID_injective hid)

/-- What a state packet makes the server publish are states with the payload that
the packet decodes to. -/
theorem payload_of_published {c : Codec} {g : Game} {pkt : InboundPacket} {d : Decoded}
    (hd : decode c pkt.data = .ok d) (hid : d.id = packetIDEntityState) {evt : Event}
    (hevt : evt ∈ g.published (Game.dispatch c g pkt)) :
    evt.kind = .state ∧ evt.payload = d.payload := by
  have hreq : request c pkt.data = (c.entityState d.payload).map (.state · d.payload) := by
    simp only [request, hd, hid]
    rfl
  rw [Game.dispatch_eq_serve, hreq] at hevt
  cases hst : c.entityState d.payload with
  | none => simp [hst, Game.serve] at hevt
  | some st =>
    simp only [hst, Option.map_some, Game.serve, Game.published_state] at hevt
    cases he : g.entityOf st.entityID with
    | none => simp [he] at hevt
    | some e =>
      simp only [he] at hevt
      obtain ⟨obs, -, rfl⟩ := List.mem_map.mp (List.mem_of_mem_take hevt)
      exact ⟨rfl, rfl⟩

/-- Every event is decoded to its kind and its fields, events with different
contents are encoded differently, and every observer of an announced state
decodes the payload that the packet of the sender decodes to. -/
theorem events_survive_the_wire (a : Adapter) (c : Codec) :
    (∀ evt, ∃ d, decode c (a.encodeEvent evt) = .ok d ∧ d.id = packetID evt.kind ∧
      a.Carries evt d.payload) ∧
    (∀ evt evt', ¬SameContent evt evt' → a.encodeEvent evt ≠ a.encodeEvent evt') ∧
    ∀ (g : Game) (pkt : InboundPacket) (d : Decoded), decode c pkt.data = .ok d →
      d.id = packetIDEntityState → ∀ evt ∈ g.published (Game.dispatch c g pkt),
        ∃ d', decode c (a.encodeEvent evt) = .ok d' ∧ d'.id = packetIDEntityState ∧
          d'.payload = d.payload := by
  refine ⟨fun evt => ?_, fun evt evt' hne heq => hne (sameContent_of_encodeEvent_eq heq), ?_⟩
  · obtain ⟨payload, hcarries, hdec⟩ := decode_encodeEvent (a := a) c evt
    exact ⟨_, hdec, rfl, hcarries⟩
  · intro g pkt d hd hid evt hevt
    obtain ⟨hkind, hpayload⟩ := payload_of_published hd hid hevt
    obtain ⟨payload, hcarries, hdec⟩ := decode_encodeEvent (a := a) c evt
    refine ⟨_, hdec, by rw [hkind]; rfl, ?_⟩
    rw [← hpayload]
    simpa only [Carries, hkind] using hcarries

/-! Messages that can be numbered have a marshaller: as many bytes as the number. -/

def unary (M : Type) [Encodable M] : Message M where
  marshal m := some (List.replicate (Encodable.encode m) 0)
  unmarshal b := Encodable.decode b.length
  round_trip m := ⟨_, rfl, by rw [List.length_replicate, Encodable.encodek]⟩

instance : Encodable Char := .ofLeftInverse Char.toNat Char.ofNat Char.ofNat_toNat

instance : Encodable String :=
  .ofLeftInverse String.toList String.ofList fun s => String.ofList_toList (s := s)

instance : Encodable Vector3 :=
  .ofLeftInverse (fun v => (v.x, v.y, v.z)) (fun p => ⟨p.1, p.2.1, p.2.2⟩) fun _ => rfl

instance : Encodable EntitySnapshot :=
  .ofLeftInverse (fun m => (m.entityID, m.type, m.position)) (fun p => ⟨p.1, p.2.1, p.2.2⟩)
    fun _ => rfl

instance : Encodable EntityUpdate :=
  .ofLeftInverse (fun m => (m.entityID, m.position)) (fun p => ⟨p.1, p.2⟩) fun _ => rfl

/-- A compressed state packet of the first of two entities: the second decodes
the payload that the compressor was given. -/
theorem compressed_state_survives :
    let zeros : Bytes := List.replicate 200 0
    let c : Codec := ⟨knownGunzip zeros, fun _ => none, fun _ => none, fun _ => some ⟨"e1"⟩⟩
    let a : Adapter := ⟨knownGzip zeros, unary _, unary _, unary _⟩
    let g := (Game.new "gs-1").onStore fun s =>
      (s.addEntity (Entity.new "e1" "player" "")).addEntity (Entity.new "e2" "player" "")
    let pkt : InboundPacket := ⟨"e1", encode (knownGzip zeros) 8 zeros true 0⟩
    pkt.data.length = 8 ∧
      (g.published (Game.dispatch c g pkt)).map (fun evt => (evt.kind, evt.observer)) =
        [(.state, "e2")] ∧
      ∀ evt ∈ g.published (Game.dispatch c g pkt),
        ∃ d, decode c (a.encodeEvent evt) = .ok d ∧ d.payload = zeros := by
  intro zeros c a g pkt
  have hd : decode c pkt.data = .ok ⟨1, 8, zeros, true, 0⟩ := by decide +kernel
  refine ⟨by decide +kernel, by decide +kernel, fun evt hevt => ?_⟩
  obtain ⟨d, hdec, -, hpayload⟩ := (events_survive_the_wire a c).2.2 g pkt _ hd rfl evt hevt
  exact ⟨d, hdec, hpayload⟩

end Adapter

end SpatialServer.Wire

import SpatialServer.Egress
import SpatialServer.Provenance

/-!
# Who says where a client is

Any number of gateway connections speak to one server. Each reads messages from its
socket and passes them on under the name that the token of the connection carries; the
server dispatches them, tells the observers, and every connection writes to its socket
what comes back. Between any two operations the others may go on.

The position of a client's entity that is written to a socket, whoever's it is, is one
that the client itself has sent on one of its own connections, or where its entity was
put in the first place. No other client can say where it is.
-/
namespace SpatialServer

open Runs Gateway Wire

namespace Wire.Adapter

/-- To whoever decodes it, the packet tells that the entity is there. -/
def Tells (a : Adapter) (c : Codec) (id : EntityID) (pos : Vector3) (data : Bytes) : Prop :=
  ∃ d, decode c data = .ok d ∧
    (d.id = packetIDEntityMove ∧ a.entityUpdate.unmarshal d.payload = some ⟨id, some pos⟩ ∨
      d.id = packetIDEntitySpawn ∧
        ∃ type, a.entitySnapshot.unmarshal d.payload = some ⟨id, type, some pos⟩)

theorem tells_encodeEvent_iff {a : Adapter} (c : Codec) {id : EntityID} {pos : Vector3}
    {evt : Event} :
    a.Tells c id pos (a.encodeEvent evt) ↔ evt.Locates id ∧ evt.position = pos := by
  obtain ⟨payload, hcarries, hdec⟩ := decode_encodeEvent (a := a) c evt
  unfold Tells Event.Locates
  rw [hdec]
  cases hkind : evt.kind with
  | spawn | move =>
    simp only [Carries, hkind] at hcarries
    simp [packetID, packetIDEntityMove, packetIDEntitySpawn, hcarries]
  | despawn => simp [packetID, packetIDEntityMove, packetIDEntitySpawn, packetIDEntityDespawn]
  | state => simp [packetID, packetIDEntityMove, packetIDEntitySpawn, packetIDEntityState]

end Wire.Adapter

/-- The entity that a call brings to the server, to be added at once or later. -/
def Call.supplied : Call → Option Entity
  | .addEntity e | .enqueueAddEntity e => some e
  | .migrateEntityIn snap target => some (Store.snapshotEntity snap target)
  | _ => none

namespace Game

variable {H : Host} {g : Game} {id : EntityID} {said : Vector3 → Prop}

/-- An entity that may be added under the identifier. -/
def Fits (id : EntityID) (said : Vector3 → Prop) (e : Entity) : Prop :=
  e.id = id → e.lifecycle = none ∧ said e.position

/-- A packet whose position, if it has one, may be taken for the entity's. -/
def Speaks (H : Host) (id : EntityID) (said : Vector3 → Prop) (pkt : InboundPacket) : Prop :=
  pkt.clientID = id → ∀ upd, Wire.request H.codec pkt.data = some (.position upd) →
    said (upd.position.getD Vector3.zero)

/-- Wherever the server holds a position of the entity, it is one that may be said. -/
structure Placed (H : Host) (id : EntityID) (said : Vector3 → Prop) (g : Game) : Prop where
  sound : Sound g.toStore
  inbox : ∀ pkt ∈ g.inbox.sent, Speaks H id said pkt
  cmds : ∀ e, .add e ∈ g.cmds.sent → Fits id said e
  entity : ∀ e, g.entityOf id = some e → e.lifecycle = none ∧ said e.position
  events : ∀ evt ∈ g.events.sent, evt.Locates id → said evt.position

theorem placed_new (H : Host) (id : EntityID) (said : Vector3 → Prop) (sid : ServerID) :
    Placed H id said (new sid) where
  sound := Sound.empty
  inbox := by simp [new, Chan.make]
  cmds := by simp [new, Chan.make]
  entity := fun e he => by cases he
  events := by simp [new, Chan.make]

theorem Placed.mono (h : Placed H id said g) {said' : Vector3 → Prop}
    (himp : ∀ pos, said pos → said' pos) : Placed H id said' g where
  sound := h.sound
  inbox := fun pkt hpkt hid upd hreq => himp _ (h.inbox pkt hpkt hid upd hreq)
  cmds := fun e he hid => (h.cmds e he hid).imp_right (himp _)
  entity := fun e he => (h.entity e he).imp_right (himp _)
  events := fun evt hevt hlocates => himp _ (h.events evt hevt hlocates)

/-- Only a call that receives a packet puts one into the inbox. -/
theorem mem_inbox_step {c : Call} {pkt : InboundPacket} (h : pkt ∈ (step H g c).inbox.sent) :
    pkt ∈ g.inbox.sent ∨ c = .receive pkt := by
  by_cases htick : c.ofTick
  · exact .inl (inboxSent_step htick ▸ h)
  · cases c with
    | receive p =>
      simp only [step, receive] at h
      split at h
      · next ch htry =>
        rw [Chan.trySend_sent htry] at h
        rcases List.mem_append.mp h with h | h
        · exact .inl h
        · rw [List.mem_singleton.mp h]
          exact .inr rfl
      · exact .inl h
    | assignZone z =>
      obtain heq | ⟨s, -, heq⟩ := step_assignZone H g z <;> rw [heq] at h <;> exact .inl h
    | releaseZone zid =>
      obtain heq | ⟨s, -, heq⟩ := step_releaseZone H g zid <;> rw [heq] at h <;> exact .inl h
    | enqueueAddEntity _ | enqueueRemoveEntity _ =>
      simp only [step, enqueueCmd] at h
      split at h <;> exact .inl h
    | markDisconnected key now =>
      simp only [step, markDisconnected] at h
      split at h <;> exact .inl h
    | _ => first | exact .inl h | exact absurd rfl htick

/-- Only a call that enqueues an addition makes one wait. -/
theorem mem_cmds_step {c : Call} {e : Entity} (h : .add e ∈ (step H g c).cmds.sent) :
    .add e ∈ g.cmds.sent ∨ c.supplied = some e := by
  have henqueue : ∀ cmd, .add e ∈ (g.enqueueCmd cmd).cmds.sent →
      .add e ∈ g.cmds.sent ∨ cmd = .add e := by
    intro cmd h
    simp only [enqueueCmd] at h
    split at h
    · next ch htry =>
      rw [Chan.trySend_sent htry] at h
      rcases List.mem_append.mp h with h | h
      · exact .inl h
      · exact .inr (List.mem_singleton.mp h).symm
    · exact .inl h
  cases c with
  | enqueueAddEntity e' =>
    refine (henqueue _ h).imp_right fun heq => ?_
    cases heq
    rfl
  | enqueueRemoveEntity key => exact (henqueue _ h).imp_right (by simp)
  | applyCmd =>
    simp only [step, applyCmd] at h
    split at h
    · next cmd ch hrecv =>
      rw [← (Chan.recv_eq_some hrecv).2.1]
      cases cmd <;> exact .inl h
    · exact .inl h
  | assignZone z =>
    obtain heq | ⟨s, -, heq⟩ := step_assignZone H g z <;> rw [heq] at h <;> exact .inl h
  | releaseZone zid =>
    obtain heq | ⟨s, -, heq⟩ := step_releaseZone H g zid <;> rw [heq] at h <;> exact .inl h
  | receive pkt =>
    simp only [step, receive] at h
    split at h <;> exact .inl h
  | drainEvent =>
    simp only [step, drainEvent] at h
    split at h <;> exact .inl h
  | markDisconnected key now =>
    simp only [step, markDisconnected] at h
    split at h <;> exact .inl h
  | dispatchNext =>
    rw [step, (Quiet.dispatchNext H.codec g).publishes.cmds] at h
    exact .inl h
  | simulate dt seed order =>
    rw [step, (Quiet.simulate H.numerics g dt seed order).publishes.cmds] at h
    exact .inl h
  | updateVisibility zid order =>
    rw [step, (Shows.updateVisibility g zid order).publishes.cmds] at h
    exact .inl h
  | sweepDisconnected now order =>
    rw [step, (g.sweepDisconnected_frame now order).1] at h
    exact .inl h
  | _ => exact .inl h

namespace Placed

/-- Who is added fits: it is brought by the call, or it was waiting. -/
theorem fits_added (h : Placed H id said g) {c : Call} (hc : ∀ e ∈ c.supplied, Fits id said e)
    {e : Entity} (he : g.addedEntity c = some e) : Fits id said e := by
  cases c with
  | addEntity e' => exact hc e he
  | migrateEntityIn snap target => exact hc e he
  | applyCmd =>
    rcases hrecv : g.cmds.recv with _ | ⟨cmd | key, ch⟩
    · simp [addedEntity, hrecv] at he
    · simp only [addedEntity, hrecv, Option.some.injEq] at he
      subst he
      exact h.cmds _ (Chan.mem_sent_of_recv hrecv)
    · simp [addedEntity, hrecv] at he
  | _ => cases he

theorem said_of_places (h : Placed H id said g) {c : Call} (hc : ∀ e ∈ c.supplied, Fits id said e)
    {pos : Vector3} (hput : Places H g id pos c) : said pos := by
  by_cases hdispatch : c = .dispatchNext
  · subst hdispatch
    obtain ⟨⟨pkt, ch⟩, hrecv, hid, upd, hreq, rfl⟩ := hput
    exact h.inbox pkt (Chan.mem_sent_of_recv hrecv) hid upd hreq
  · obtain ⟨e, hadded, hid, rfl⟩ : ∃ e, g.addedEntity c = some e ∧ e.id = id ∧
        e.position = pos := by
      cases c <;> first | exact hput | exact absurd rfl hdispatch
    exact (h.fits_added hc hadded hid).2

/-- A call that brings nothing else leaves nothing else. -/
theorem step (h : Placed H id said g) {c : Call} (hsupplied : ∀ e ∈ c.supplied, Fits id said e)
    (hreceived : ∀ pkt, c = .receive pkt → Speaks H id said pkt) :
    Placed H id said (step H g c) := by
  have hplain : ∀ e, g.entityOf id = some e → e.lifecycle = none := fun e he => (h.entity e he).1
  constructor
  case sound => exact sound_step H h.sound c
  case inbox =>
    intro pkt hpkt
    rcases mem_inbox_step hpkt with hpkt | hpkt
    · exact h.inbox pkt hpkt
    · exact hreceived pkt hpkt
  case cmds =>
    intro e he
    rcases mem_cmds_step he with he | he
    · exact h.cmds e he
    · exact hsupplied e he
  case entity =>
    intro e he
    have hlife : e.lifecycle = none := lifecycle_nodeStep (c := .own c) h.sound.named
      (fun e' he' hid => (h.fits_added hsupplied he' hid).1) hplain e he
    refine ⟨hlife, ?_⟩
    by_cases hput : ∃ pos, Places H g id pos c
    · obtain ⟨pos, hput⟩ := hput
      rw [position_of_places hput he]
      exact h.said_of_places hsupplied hput
    · have hput' : ∀ pos, ¬ Puts H g id pos (.own c) := by simpa [Puts] using hput
      exact (h.entity e (entityOf_before H h.sound.named hput' hlife he)).2
  case events =>
    intro evt hevt hlocates
    obtain ⟨evts, hsent, hshown⟩ := exists_located H h.sound.named hplain (.own c)
    rw [show (Game.step H g c).events.sent = _ from hsent] at hevt
    rcases List.mem_append.mp hevt with hevt | hevt
    · exact h.events evt hevt hlocates
    · rcases hshown evt hevt hlocates with hput | ⟨-, e, he, hpos⟩
      · exact h.said_of_places hsupplied hput
      · rw [hpos]
        exact (h.entity e he).2

end Placed

end Game

/-! ## What the relay asks of the game -/

/-- The call of the game that an action makes. -/
def Action.call (now : Time) : Action → Option Call
  | .enqueueAddEntity e => some (.enqueueAddEntity e)
  | .receive pkt => some (.receive pkt)
  | .markReconnected id => some (.markReconnected id)
  | .markDisconnected id => some (.markDisconnected id now)
  | .enqueueRemoveEntity id => some (.enqueueRemoveEntity id)
  | .register _ | .startSender | .unregister _ => none

theorem GameServer.game_perform (H : Host) (σ : GameServer) (s : StreamID) (now : Time) (a : Action) :
    (σ.perform s now a).game = ((a.call now).map (σ.game.step H)).getD σ.game := by
  cases a with
  | unregister id => exact game_unregister σ id
  | _ => rfl

/-- A step of the relay makes one call of the game at most: its own, or that of the
action it performs. -/
theorem GameServer.game_step (H : Host) (σ : GameServer) (stp : RelayStep) :
    (σ.step H stp).game = σ.game ∨
      ∃ c, (σ.step H stp).game = σ.game.step H c ∧ (stp = .call c ∨ ∃ s now a,
        stp = .act s now ∧ a ∈ (σ.streams s).pending ∧ a.call now = some c) := by
  cases stp with
  | recv s pkt =>
    refine .inl ?_
    simp only [step, recv]
    split <;> rfl
  | endStream s =>
    refine .inl ?_
    simp only [step, endStream]
    split <;> rfl
  | senderExit ref =>
    refine .inl ?_
    simp only [step, senderExit]
    split
    · exact game_unregister _ _
    · rfl
  | call c => exact .inr ⟨c, rfl, .inl rfl⟩
  | act s now =>
    rcases hpend : (σ.streams s).pending with _ | ⟨a, rest⟩
    · exact .inl (by simp only [step, act, hpend])
    · have hgame : (σ.step H (.act s now)).game = ((a.call now).map (σ.game.step H)).getD σ.game := by
        simp only [step, act, hpend, game_perform H, setStream]
      rcases hcall : a.call now with _ | c <;> rw [hcall] at hgame
      · exact .inl hgame
      · exact .inr ⟨c, hgame, .inr ⟨s, now, a, rfl, by simp [hpend], hcall⟩⟩

/-- A message that a packet brings is one of those that the packets carry. -/
theorem mem_messages {pkts : List RelayPacket} {pkt : RelayPacket} (hpkt : pkt ∈ pkts)
    {message : InboundPacket} (h : .receive message ∈ GameServer.handle pkt) :
    message ∈ messages pkts := by
  cases hkind : pkt.kind <;> simp only [GameServer.handle, hkind] at h <;> try simp at h
  case data =>
    rw [h]
    exact List.mem_map.mpr ⟨pkt, List.mem_filter.mpr ⟨hpkt, by simpa using hkind⟩, rfl⟩

/-- What a stream is about to do, and has to clean up, is for its client, and the
messages that it is about to pass on were heard. -/
structure GameServer.Heeds (claims : Claims) (heard : List Bytes) (S : StreamID) (σ : GameServer) :
    Prop where
  owned : ∀ id ∈ (σ.streams S).owned, id = claims.playerID
  pending : ∀ a ∈ (σ.streams S).pending, Ingress.ActsFor claims.playerID claims a ∧
    ∀ pkt, a = .receive pkt → pkt.data ∈ heard

namespace GameServer.Heeds

variable {claims : Claims} {heard : List Bytes} {S : StreamID} {σ : GameServer}

theorem mono (h : Heeds claims heard S σ) {heard' : List Bytes} (hsub : heard ⊆ heard') :
    Heeds claims heard' S σ :=
  ⟨h.owned, fun a ha => ⟨(h.pending a ha).1, fun pkt hpkt => hsub ((h.pending a ha).2 pkt hpkt)⟩⟩

theorem step (h : Heeds claims heard S σ) (H : Host) {stp : RelayStep}
    (hstp : ∀ pkt, stp ≠ .recv S pkt) : Heeds claims heard S (σ.step H stp) := by
  constructor
  · rw [σ.owned_step H hstp]
    exact h.owned
  · refine σ.pending_forall_step H hstp (fun id hid => ?_) h.pending
    exact ⟨⟨h.owned id hid, by simp⟩, h.owned id hid, by simp⟩

/-- A packet of the connection is received. -/
theorem recv (h : Heeds claims heard S σ) (H : Host) {gone : Bool} {sent : List RelayPacket}
    {payloads : List Bytes}
    (htold : RelaySession.Transcript claims.playerID claims gone sent payloads)
    (hheard : payloads ⊆ heard) {pkt : RelayPacket} (hpkt : pkt ∈ sent) :
    Heeds claims heard S (σ.step H (.recv S pkt)) := by
  simp only [GameServer.step, GameServer.recv]
  by_cases hrecv : (σ.streams S).receiving
  · obtain ⟨hid, hacts⟩ := Ingress.actsFor_handle htold hpkt
    rw [if_pos hrecv]
    constructor <;> simp only [setStream, Function.update_self]
    · intro id hmem
      split_ifs at hmem
      · rcases List.mem_append.mp hmem with hmem | hmem
        · exact h.owned id hmem
        · rw [List.mem_singleton.mp hmem]
          exact hid
      · exact h.owned id hmem
    · refine fun a ha => ⟨hacts a ha, ?_⟩
      rintro message rfl
      have hmessage := mem_messages hpkt ha
      rw [htold.messages_eq] at hmessage
      obtain ⟨data', hdata, heq⟩ := List.mem_map.mp hmessage
      cases heq
      exact hheard hdata
  · rwa [if_neg hrecv]

end GameServer.Heeds

/-! ## Connections and one server -/

/-- Gateway connections, one on each stream, and the server that they speak to. A
connection that nobody has opened yet has done nothing. -/
structure Network where
  sessions : StreamID → RelaySession
  taken : StreamID → ℕ
  fetched : StreamID → ℕ
  pipe : EventPipe

inductive NetworkStep where
  | session (S : StreamID) (m : SessionMove)
  | fetch (S : StreamID)
  | deliver (S : StreamID)
  | server (stp : PipeStep)

namespace Network

/-- The client of a connection is the player whom its token names. -/
def new (claims : StreamID → Claims) (sid : ServerID) : Network :=
  ⟨fun S => .new (claims S).playerID (claims S), fun _ => 0, fun _ => 0, .new sid⟩

/-- The connection on the stream, with the server. -/
def link (n : Network) (S : StreamID) : Egress :=
  ⟨n.sessions S, n.pipe, n.taken S, n.fetched S⟩

def setLink (n : Network) (S : StreamID) (x : Egress) : Network where
  sessions := Function.update n.sessions S x.session
  taken := Function.update n.taken S x.taken
  fetched := Function.update n.fetched S x.fetched
  pipe := x.pipe

/-- The step would bring a packet or a message from somewhere else: packets come from
the connections, and nobody but the relay puts messages into the inbox. -/
def injects : PipeStep → Bool
  | .relay (.recv _ _) | .relay (.call (.receive _)) => true
  | _ => false

def step (A : Adapter) (H : Host) (n : Network) : NetworkStep → Network
  | .session S m => n.setLink S ((n.link S).step A H S (.session m))
  | .fetch S => n.setLink S ((n.link S).step A H S .fetch)
  | .deliver S => n.setLink S ((n.link S).step A H S .deliver)
  | .server stp => if injects stp then n else { n with pipe := n.pipe.step A H stp }

/-- A place for the client's entity: the origin, where avatars are created, a place that
was given to it otherwise, or one that was read on a connection of the client. -/
def Said (H : Host) (claims : StreamID → Claims) (id : EntityID) (given : Vector3 → Prop)
    (n : Network) (pos : Vector3) : Prop :=
  pos = Vector3.zero ∨ given pos ∨ ∃ S, (claims S).playerID = id ∧ ∃ data ∈ (n.sessions S).read,
    ∃ upd, Wire.request H.codec data = some (.position upd) ∧
      upd.position.getD Vector3.zero = pos

variable {A : Adapter} {H : Host} {claims : StreamID → Claims} {sid : ServerID} {id : EntityID}
  {given : Vector3 → Prop} {n : Network} {S : StreamID}

@[simp] theorem link_setLink_self (n : Network) (S : StreamID) (x : Egress) :
    (n.setLink S x).link S = x := by simp [link, setLink]

theorem link_setLink_ne (n : Network) {S T : StreamID} (hne : T ≠ S) (x : Egress) :
    (n.setLink S x).link T = { n.link T with pipe := x.pipe } := by simp [link, setLink, hne]

theorem Said.mono {n' : Network} (hread : ∀ S, (n.sessions S).read ⊆ (n'.sessions S).read)
    {pos : Vector3} (h : Said H claims id given n pos) : Said H claims id given n' pos := by
  obtain h | h | ⟨S, hid, data, hdata, upd, hupd⟩ := h
  · exact .inl h
  · exact .inr (.inl h)
  · exact .inr (.inr ⟨S, hid, data, hread S hdata, upd, hupd⟩)

/-- What holds of a network at every point. -/
structure Wired (A : Adapter) (H : Host) (claims : StreamID → Claims) (sid : ServerID)
    (id : EntityID) (given : Vector3 → Prop) (n : Network) : Prop where
  links : ∀ S, Egress.Flowing A H (claims S).playerID (claims S) sid S (n.link S)
  heeds : ∀ S, n.pipe.server.Heeds (claims S) (n.sessions S).read S
  placed : n.pipe.server.game.Placed H id (Said H claims id given n)

theorem wired_new (A : Adapter) (H : Host) (claims : StreamID → Claims) (sid : ServerID)
    (id : EntityID) (given : Vector3 → Prop) : Wired A H claims sid id given (new claims sid) where
  links := fun S => Egress.flowing_new A H _ _ sid S
  heeds := fun S => ⟨by simp [new, EventPipe.new, GameServer.new],
    by simp [new, EventPipe.new, GameServer.new]⟩
  placed := Game.placed_new H id _ sid

/-- Some packet of the session is received by the server, or nothing happens there. -/
def Passes (A : Adapter) (H : Host) (S : StreamID) (x x' : Egress) : Prop :=
  x'.pipe = x.pipe ∨
    ∃ pkt ∈ x.session.sent, x'.pipe = x.pipe.step A H (.relay (.recv S pkt))

/-- A connection takes a step of its own. -/
theorem Wired.link_step (h : Wired A H claims sid id given n) {x : Egress}
    (hflowing : Egress.Flowing A H (claims S).playerID (claims S) sid S x)
    (hread : (n.sessions S).read ⊆ x.session.read) (hpasses : Passes A H S (n.link S) x) :
    Wired A H claims sid id given (n.setLink S x) := by
  have hmore : ∀ T, (n.sessions T).read ⊆ ((n.setLink S x).sessions T).read := by
    intro T
    by_cases hT : T = S
    · subst hT
      simpa [setLink] using hread
    · simp [setLink, hT]
  have hsaid : n.pipe.server.game.Placed H id (Said H claims id given (n.setLink S x)) :=
    h.placed.mono fun _ => .mono hmore
  -- one connection changes, and to the others the server has taken a step
  have hothers : ∀ {pipe : EventPipe}, (∀ T, T ≠ S →
      Egress.Flowing A H (claims T).playerID (claims T) sid T { n.link T with pipe := pipe }) →
      x.pipe = pipe → ∀ T,
        Egress.Flowing A H (claims T).playerID (claims T) sid T ((n.setLink S x).link T) := by
    rintro _ hlinks rfl T
    by_cases hT : T = S
    · subst hT
      rwa [link_setLink_self]
    · rw [n.link_setLink_ne hT]
      exact hlinks T hT
  obtain hsame | ⟨pkt, hpkt, hrecv⟩ := hpasses
  · refine ⟨hothers (fun T _ => h.links T) hsame, fun T => ?_, ?_⟩
    · change x.pipe.server.Heeds _ _ T
      rw [hsame]
      exact (h.heeds T).mono (hmore T)
    · change x.pipe.server.game.Placed H id _
      rwa [hsame]
  · have hserver : x.pipe.server = n.pipe.server.step H (.recv S pkt) := by
      rw [hrecv]
      rfl
    refine ⟨hothers (fun T hT => (h.links T).server ?_) hrecv, fun T => ?_, ?_⟩
    · simp [Egress.feeds, Ne.symm hT]
    · change x.pipe.server.Heeds _ _ T
      rw [hserver]
      refine GameServer.Heeds.mono ?_ (hmore T)
      by_cases hT : T = S
      · subst hT
        obtain ⟨moves, hsession⟩ := (h.links T).session
        obtain ⟨gone, payloads, htold, hsub⟩ := RelaySession.transcript_exec _ (claims T) moves
        rw [← hsession] at htold hsub
        exact (h.heeds T).recv H htold hsub.subset hpkt
      · exact (h.heeds T).step H (by simp [Ne.symm hT])
    · change x.pipe.server.game.Placed H id _
      have hgame : (n.pipe.server.step H (.recv S pkt)).game = n.pipe.server.game := by
        simp only [GameServer.step, GameServer.recv]
        split <;> rfl
      rwa [hserver, hgame]

/-- What the relay asks of the game for the clients is theirs to ask. -/
theorem Wired.call (h : Wired A H claims sid id given n) {now : Time} {a : Action}
    (ha : a ∈ (n.pipe.server.streams S).pending) {c : Call} (hc : a.call now = some c) :
    n.pipe.server.game.step H c |>.Placed H id (Said H claims id given n) := by
  obtain ⟨hacts, hheard⟩ := (h.heeds S).pending a ha
  refine h.placed.step ?_ ?_
  · intro e he hid
    cases a <;> cases hc <;> cases he
    rw [show e = _ from hacts]
    exact ⟨rfl, .inl rfl⟩
  · rintro pkt rfl hid upd hreq
    cases a <;> cases hc
    exact .inr (.inr ⟨S, hacts.symm.trans hid, pkt.data, hheard pkt rfl, upd, hreq, rfl⟩)

/-- The server takes a step, in which others give the entity no other place. -/
theorem Wired.server_step (h : Wired A H claims sid id given n) {stp : PipeStep}
    (hstp : injects stp = false)
    (hgiven : ∀ c, stp = .relay (.call c) → ∀ e ∈ c.supplied, Game.Fits id given e) :
    Wired A H claims sid id given { n with pipe := n.pipe.step A H stp } := by
  have hlinks : ∀ T, Egress.Flowing A H (claims T).playerID (claims T) sid T
      { n.link T with pipe := n.pipe.step A H stp } := by
    refine fun T => (h.links T).server ?_
    unfold Egress.feeds
    split
    · cases hstp
    · rfl
  obtain ⟨rstp, hrstp, hserver⟩ | hserver := EventPipe.server_step A H n.pipe stp
  · refine ⟨hlinks, fun T => ?_, ?_⟩
    · change (n.pipe.step A H stp).server.Heeds _ _ T
      rw [hserver]
      refine (h.heeds T).step H ?_
      rintro pkt rfl
      obtain rfl : stp = .relay (.recv T pkt) := hrstp.resolve_right (by simp)
      cases hstp
    · change (n.pipe.step A H stp).server.game.Placed H id _
      rw [hserver]
      obtain hgame | ⟨c, hgame, rfl | ⟨S, now, a, -, ha, hc⟩⟩ := n.pipe.server.game_step H rstp
      · rw [hgame]
        exact h.placed
      · rw [hgame]
        refine h.placed.step ?_ ?_
        · intro e he hid
          obtain rfl | hdrain := hrstp
          · exact (hgiven c rfl e he hid).imp_right fun hpos => .inr (.inl hpos)
          · cases hdrain
            cases he
        · rintro pkt rfl
          obtain rfl : stp = .relay (.call (.receive pkt)) := hrstp.resolve_right (by simp)
          cases hstp
      · rw [hgame]
        exact h.call ha hc
  · refine ⟨hlinks, fun T => ?_, ?_⟩
    · change (n.pipe.step A H stp).server.Heeds _ _ T
      rw [hserver]
      exact h.heeds T
    · change (n.pipe.step A H stp).server.game.Placed H id _
      rw [hserver]
      exact h.placed

theorem Wired.step (h : Wired A H claims sid id given n) (stp : NetworkStep)
    (hgiven : ∀ c, stp = .server (.relay (.call c)) → ∀ e ∈ c.supplied, Game.Fits id given e) :
    Wired A H claims sid id given (n.step A H stp) := by
  cases stp with
  | session S m =>
    refine h.link_step ((h.links S).step _) ?_ ?_ <;> simp only [Egress.step]
    · split_ifs
      · exact List.Subset.refl _
      · exact ((n.sessions S).grows_step m).read.subset
    · split_ifs <;> exact .inl rfl
  | fetch S =>
    refine h.link_step ((h.links S).step _) ?_ ?_ <;> simp only [Egress.step, Egress.fetch]
    · split
      · split_ifs
        · exact ((n.sessions S).grows_step _).read.subset
        · exact List.Subset.refl _
      · exact List.Subset.refl _
    · split
      · split_ifs <;> exact .inl rfl
      · exact .inl rfl
  | deliver S =>
    refine h.link_step ((h.links S).step _) ?_ ?_ <;> simp only [Egress.step, Egress.deliver]
    · split
      · split_ifs <;> exact List.Subset.refl _
      · exact List.Subset.refl _
    · split
      · next pkt hpkt =>
        split_ifs
        · exact .inr ⟨pkt, List.mem_of_getElem? hpkt, rfl⟩
        · exact .inl rfl
      · exact .inl rfl
  | server stp =>
    simp only [Network.step]
    split_ifs with hinjects
    · exact h
    · refine h.server_step (Bool.eq_false_iff.mpr hinjects) fun c hc => hgiven c ?_
      rw [hc]

theorem wired_exec (A : Adapter) (H : Host) (claims : StreamID → Claims) (sid : ServerID)
    {steps : List NetworkStep}
    (hgiven : ∀ c, .server (.relay (.call c)) ∈ steps → ∀ e ∈ c.supplied, Game.Fits id given e) :
    Wired A H claims sid id given (exec (step A H) (new claims sid) steps) := by
  have hsteps : Along (step A H) (fun _ stp => ∀ c, stp = .server (.relay (.call c)) →
      ∀ e ∈ c.supplied, Game.Fits id given e) (new claims sid) steps :=
    .of_forall_mem fun _ stp hmem c hc => hgiven c (hc ▸ hmem)
  exact exec_invariant _ (fun _ stp hn hstp => hn.step stp hstp) (wired_new A H claims sid id given)
    hsteps

/-- Whatever the connections and the server do, and in whatever order: if a packet that
was written to a socket tells where a client's entity is, this is where the client has
said that it is, on one of its own connections, or where the entity was created or put
by others. -/
theorem clients_are_seen_where_they_said (A : Adapter) (H : Host) (claims : StreamID → Claims)
    (sid : ServerID) (id : EntityID) (given : Vector3 → Prop) (steps : List NetworkStep)
    (hgiven : ∀ c, .server (.relay (.call c)) ∈ steps → ∀ e ∈ c.supplied, Game.Fits id given e)
    (S : StreamID) (data : Bytes)
    (hdata : data ∈ ((exec (step A H) (new claims sid) steps).sessions S).written)
    (c : Codec) (pos : Vector3) (htells : A.Tells c id pos data) :
    Said H claims id given (exec (step A H) (new claims sid) steps) pos := by
  have h : Wired A H claims sid id given (exec (step A H) (new claims sid) steps) :=
    wired_exec A H claims sid hgiven
  obtain ⟨evt, hevt, rfl⟩ := List.mem_map.mp ((h.links S).written_sublist.subset hdata)
  obtain ⟨hlocates, rfl⟩ := (Adapter.tells_encodeEvent_iff c).mp htells
  exact h.placed.events evt (List.mem_of_mem_filter hevt) hlocates

/-- If as many packets were written as events were published for the client, then none
is missing. -/
theorem Wired.mem_written (h : Wired A H claims sid id given n)
    (hlength : (n.sessions S).written.length =
      (n.pipe.server.game.events.sent.filter fun evt => evt.observer = (claims S).playerID).length)
    {i : ℕ} {evt : Event} (hevt : n.pipe.server.game.events.sent[i]? = some evt)
    (hobserver : evt.observer = (claims S).playerID) :
    A.encodeEvent evt ∈ (n.sessions S).written := by
  have hall := (h.links S).written_sublist.eq_of_length (by rw [List.length_map]; exact hlength)
  rw [show (n.sessions S).written = _ from hall]
  refine List.mem_map_of_mem (List.mem_filter.mpr ⟨List.mem_of_getElem? hevt, ?_⟩)
  exact decide_eq_true hobserver

/-- A client connects, and the server does what this asks for. -/
def joining (S : StreamID) : List NetworkStep :=
  List.replicate 4 (.session S (.main true)) ++ .deliver S ::
    List.replicate 3 (.server (.relay (.act S 0)))

/-- A message is read, passed on, and put into the inbox. -/
def saying (S : StreamID) (data : Bytes) : List NetworkStep :=
  [.session S (.reader (some data) true), .session S (.reader none true),
    .session S (.reader none true), .session S (.reader none true), .deliver S,
    .server (.relay (.act S 0))]

/-- An event is drained, sent by the sender of the entry, and written to the socket. -/
def showing (r : ℕ) (S : StreamID) : List NetworkStep :=
  [.server .drain, .server .lookup, .server .operation, .server (.take r), .server (.sent r),
    .fetch S, .session S (.writer none true)]

/-- Two clients connect and see each other, one says where it has gone, and the other is
told. -/
theorem neighbour_is_seen_where_it_said :
    let A : Adapter := ⟨fun _ => none, Adapter.unary _, Adapter.unary _, Adapter.unary _⟩
    let H := Host.steady ⟨3, 0, 0⟩
    let claims : StreamID → Claims := fun S => ⟨if S = 0 then "c1" else "c2", "", ""⟩
    let steps := joining 0 ++ joining 1 ++ [.server (.relay (.call .applyCmd)),
      .server (.relay (.call .applyCmd)),
      .server (.relay (.call (.updateVisibility defaultZoneID .any)))] ++
      saying 0 [1, 0, 3, 0, 0, 0, 0, 0] ++ [.server (.relay (.call .dispatchNext))] ++
      showing 1 1 ++ showing 0 0 ++ showing 1 1
    let n := exec (step A H) (new claims "gs") steps
    ∃ data ∈ (n.sessions 1).written, ∃ pos, pos.x = 3 ∧ A.Tells H.codec "c1" pos data ∧
      Said H claims "c1" (fun _ => False) n pos := by
  intro A H claims steps n
  have hgiven : ∀ c, .server (.relay (.call c)) ∈ steps → ∀ e ∈ c.supplied,
      Game.Fits "c1" (fun _ => False) e := by
    intro c hc
    simp [steps, joining, saying, showing] at hc
    rcases hc with rfl | rfl | rfl <;> simp [Call.supplied]
  have hlength : (n.sessions 1).written.length =
      (n.pipe.server.game.events.sent.filter fun evt => evt.observer = (claims 1).playerID).length := by
    decide +kernel
  obtain ⟨evt, hevt⟩ : ∃ evt, n.pipe.server.game.events.sent[2]? = some evt :=
    Option.isSome_iff_exists.mp (by decide +kernel)
  have hread : n.pipe.server.game.events.sent[2]?.map
      (fun evt => (evt.observer, evt.position.x, evt.entityID, evt.kind)) =
        some ("c2", 3, "c1", .move) := by decide +kernel
  rw [hevt, Option.map_some, Option.some.injEq] at hread
  simp only [Prod.mk.injEq] at hread
  obtain ⟨hobserver, hx, hid, hkind⟩ := hread
  have hwired : Wired A H claims "gs" "c1" (fun _ => False) n := wired_exec A H claims "gs" hgiven
  have hdata : A.encodeEvent evt ∈ (n.sessions 1).written := by
    -- the facts read off the run are enough
    clear_value n
    exact hwired.mem_written hlength hevt hobserver
  have htells : A.Tells H.codec "c1" evt.position (A.encodeEvent evt) :=
    (Adapter.tells_encodeEvent_iff _).mpr ⟨⟨hid, .inl hkind⟩, rfl⟩
  exact ⟨_, hdata, _, hx, htells, clients_are_seen_where_they_said A H claims "gs" "c1" _ steps
    hgiven 1 _ hdata _ _ htells⟩

end Network

end SpatialServer

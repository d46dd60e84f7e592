import SpatialServer.Sessions

/-!
# Relay streams

A gateway speaks to the game server over relay streams. The goroutine of a
stream receives packets and, when receiving fails, cleans up after all clients
that connected on it. A client that connects gets a registry entry with a send
queue and a sender goroutine; when the sender stops, it unregisters the client.

Registry and command queue are locked separately, so what a goroutine does for
one packet is a list of actions, and anything may happen between two of them.
The contents of the send queues play no part here.
-/
namespace SpatialServer

open Runs

abbrev StreamID := ℕ

inductive Kind where
  | unspecified
  | data
  | connect
  | disconnect
  | reconnect
  | peerDisconnected
  deriving DecidableEq, Repr

/-- A packet without metadata has the empty runtime. -/
structure RelayPacket where
  clientID : String
  kind : Kind
  runtimeID : RuntimeID
  payload : Bytes

structure ClientEntry where
  /-- The stream that registered the entry and sends what is queued in it. -/
  stream : StreamID
  id : String
  /-- The `done` channel is closed. -/
  done : Bool
  /-- The sender goroutine has started and not stopped yet. -/
  sending : Bool
  deriving DecidableEq, Repr, Inhabited

/-- What a stream's goroutine does in one go. -/
inductive Action where
  | register (id : String)
  | enqueueAddEntity (e : Entity)
  | startSender
  | receive (pkt : InboundPacket)
  | markReconnected (id : EntityID)
  | markDisconnected (id : EntityID)
  | unregister (id : String)
  | enqueueRemoveEntity (id : EntityID)

structure Stream where
  owned : List String
  /-- The entry that was registered last. -/
  entry : ℕ
  pending : List Action
  /-- Receiving has failed; only the cleanup remains. -/
  ended : Bool

/-- The goroutine waits for a packet. -/
def Stream.receiving (st : Stream) : Bool := !st.ended && st.pending.isEmpty

structure GameServer where
  game : Game
  clients : Dict String ℕ
  entries : Heap ClientEntry
  streams : StreamID → Stream

namespace GameServer

/-- Streams are opened by their first packet. -/
def new (sid : ServerID) : GameServer := ⟨Game.new sid, ∅, Heap.empty, fun _ => ⟨[], 0, [], false⟩⟩

def setStream (σ : GameServer) (s : StreamID) (st : Stream) : GameServer :=
  { σ with streams := Function.update σ.streams s st }

def onGame (σ : GameServer) (f : Game → Game) : GameServer := { σ with game := f σ.game }

/-! ## The registry -/

def register (σ : GameServer) (s : StreamID) (id : String) : GameServer :=
  { σ.setStream s { σ.streams s with entry := σ.entries.next } with
    entries := σ.entries.alloc ⟨s, id, false, false⟩
    clients := σ.clients.set id σ.entries.next }

/-- Whatever entry the registry holds for the client is closed and deleted. -/
def unregister (σ : GameServer) (id : String) : GameServer :=
  match σ.clients.get id with
  | none => σ
  | some ref =>
    { σ with
      entries := σ.entries.write ref { σ.entries.cell ref with done := true }
      clients := σ.clients.del id }

/-! ## Streams -/

/-- The actions a packet causes, in order. -/
def handle (pkt : RelayPacket) : List Action :=
  match pkt.kind with
  | .connect => [.register pkt.clientID,
      .enqueueAddEntity (Entity.new pkt.clientID "avatar" pkt.runtimeID), .startSender]
  | .data => [.receive ⟨pkt.clientID, pkt.payload⟩]
  | .reconnect => [.markReconnected pkt.clientID]
  | .peerDisconnected => [.markDisconnected pkt.clientID]
  | .disconnect => [.unregister pkt.clientID, .enqueueRemoveEntity pkt.clientID]
  | .unspecified => []

def cleanup (owned : List String) : List Action :=
  owned.flatMap fun id => [.unregister id, .enqueueRemoveEntity id]

def recv (σ : GameServer) (s : StreamID) (pkt : RelayPacket) : GameServer :=
  let st := σ.streams s
  if st.receiving then
    σ.setStream s { st with
      owned := if pkt.kind = .connect then st.owned ++ [pkt.clientID] else st.owned
      pending := handle pkt }
  else σ

/-- Receiving fails, and the deferred cleanup starts. -/
def endStream (σ : GameServer) (s : StreamID) : GameServer :=
  let st := σ.streams s
  if st.receiving then σ.setStream s { st with ended := true, pending := cleanup st.owned }
  else σ

def perform (σ : GameServer) (s : StreamID) (now : Time) : Action → GameServer
  | .register id => σ.register s id
  | .enqueueAddEntity e => σ.onGame (·.enqueueCmd (.add e))
  | .startSender =>
    let ref := (σ.streams s).entry
    { σ with entries := σ.entries.write ref { σ.entries.cell ref with sending := true } }
  | .receive pkt => σ.onGame (·.receive pkt)
  | .markReconnected id => σ.onGame (·.markReconnected id)
  | .markDisconnected id => σ.onGame (·.markDisconnected id now)
  | .unregister id => σ.unregister id
  | .enqueueRemoveEntity id => σ.onGame (·.enqueueCmd (.remove id))

/-- The goroutine of the stream performs its next action. -/
def act (σ : GameServer) (s : StreamID) (now : Time) : GameServer :=
  match (σ.streams s).pending with
  | [] => σ
  | a :: rest => (σ.setStream s { σ.streams s with pending := rest }).perform s now a

/-- The sender of an entry stops, because its stream or its entry is done or
because sending failed, and unregisters its client by name. -/
def senderExit (σ : GameServer) (ref : ℕ) : GameServer :=
  if (σ.entries.cell ref).sending then
    { σ with entries := σ.entries.write ref { σ.entries.cell ref with sending := false } }.unregister
      (σ.entries.cell ref).id
  else σ

end GameServer

inductive RelayStep where
  | recv (s : StreamID) (pkt : RelayPacket)
  | endStream (s : StreamID)
  | act (s : StreamID) (now : Time)
  | senderExit (ref : ℕ)
  | call (c : Call)

/-- The stream whose goroutine takes the step. -/
def RelayStep.stream : RelayStep → Option StreamID
  | .recv s _ | .endStream s | .act s _ => some s
  | .senderExit _ | .call _ => none

/-- The calls of the tick loop and of the consumer of the events. -/
def Call.ofTick : Call → Bool
  | .drainEvent | .beginTick _ | .applyCmd | .dispatchNext | .simulate _ _ _
  | .detectZoneBoundaries _ _ _ | .updateVisibility _ _ | .sweepGhosts _ _
  | .sweepDisconnected _ _ => true
  | _ => false

namespace GameServer

def step (H : Host) (σ : GameServer) : RelayStep → GameServer
  | .recv s pkt => σ.recv s pkt
  | .endStream s => σ.endStream s
  | .act s now => σ.act s now
  | .senderExit ref => σ.senderExit ref
  | .call c => σ.onGame (·.step H c)

@[simp] theorem streams_unregister (σ : GameServer) (id : String) :
    (σ.unregister id).streams = σ.streams := by
  unfold unregister
  split <;> rfl

@[simp] theorem game_unregister (σ : GameServer) (id : String) : (σ.unregister id).game = σ.game := by
  unfold unregister
  split <;> rfl

theorem streams_setStream_ne (σ : GameServer) {s q : StreamID} (st : Stream) (hq : q ≠ s) :
    (σ.setStream s st).streams q = σ.streams q := by simp [setStream, hq]

/-- A goroutine changes the state of its own stream only. -/
theorem streams_perform_ne (σ : GameServer) {s q : StreamID} (now : Time) (a : Action)
    (hq : q ≠ s) : (σ.perform s now a).streams q = σ.streams q := by
  cases a <;> simp [perform, register, setStream, onGame, hq]

theorem streams_act_ne (σ : GameServer) {s q : StreamID} (hne : q ≠ s) (now : Time) :
    (σ.act s now).streams q = σ.streams q := by
  unfold act
  split
  · rfl
  · rw [streams_perform_ne _ _ _ hne, streams_setStream_ne σ _ hne]

theorem streams_step_ne (H : Host) (σ : GameServer) {stp : RelayStep} {q : StreamID}
    (hq : stp.stream ≠ some q) : (σ.step H stp).streams q = σ.streams q := by
  cases stp with
  | recv s pkt =>
    have hne : q ≠ s := by rintro rfl; exact hq rfl
    simp only [step, recv]
    split
    · exact streams_setStream_ne σ _ hne
    · rfl
  | endStream s =>
    have hne : q ≠ s := by rintro rfl; exact hq rfl
    simp only [step, endStream]
    split
    · exact streams_setStream_ne σ _ hne
    · rfl
  | act s now => exact streams_act_ne σ (by rintro rfl; exact hq rfl) now
  | senderExit ref =>
    simp only [step, senderExit]
    split
    · exact congrFun (streams_unregister _ _) q
    · rfl
  | call c => rfl

theorem streams_exec_ne (H : Host) (σ : GameServer) {steps : List RelayStep} {q : StreamID}
    (hq : ∀ stp ∈ steps, stp.stream ≠ some q) :
    (exec (step H) σ steps).streams q = σ.streams q := by
  induction steps generalizing σ with
  | nil => rfl
  | cons stp steps ih =>
    rw [exec_cons, ih _ fun s hs => hq s (List.mem_cons_of_mem _ hs),
      streams_step_ne H σ (hq stp List.mem_cons_self)]

end GameServer

/-- What a command makes of the existence of an identifier, at least. -/
def Cmd.leaves (c : EntityID) (live : Bool) : Cmd → Bool
  | .add e => live || decide (e.id = c)
  | .remove id => live && decide (id ≠ c)

namespace Game

/-! ## What the tick loop does to the entities -/

theorem sweepDisconnected_frame (g : Game) (now : Time) (order : List EntityID) :
    (g.sweepDisconnected now order).cmds = g.cmds ∧
      (g.sweepDisconnected now order).reconnectWindow = g.reconnectWindow := by
  refine List.foldlRecOn _ _ (motive := fun g' : Game =>
    g'.cmds = g.cmds ∧ g'.reconnectWindow = g.reconnectWindow) ⟨rfl, rfl⟩ ?_
  rintro g' ⟨hcmds, hwindow⟩ id -
  refine ⟨?_, (sweepSession_reconnectWindow now g' id).trans hwindow⟩
  rw [← hcmds]
  unfold sweepSession
  split
  · dsimp only
    split
    · split <;> rfl
    · rfl
  · rfl

/-- Two calls of the tick loop change who exists: the commands and the sweep.
No other one touches entities, commands or sessions. -/
theorem ofTick_cases (H : Host) (g : Game) {c : Call} (hc : c.ofTick) :
    c = .applyCmd ∨ (∃ now order, c = .sweepDisconnected now order) ∨
      (c.sweptAt = none ∧ (step H g c).entities = g.entities ∧ (step H g c).cmds = g.cmds ∧
        (step H g c).sessionStates = g.sessionStates ∧
        (step H g c).reconnectWindow = g.reconnectWindow) := by
  have hquiet : ∀ {g'}, Quiet g g' → g'.entities = g.entities ∧ g'.cmds = g.cmds ∧
      g'.sessionStates = g.sessionStates ∧ g'.reconnectWindow = g.reconnectWindow :=
    fun h => ⟨h.maps.entities, h.publishes.cmds, h.publishes.sessionStates,
      h.publishes.reconnectWindow⟩
  cases c with
  | applyCmd => exact .inl rfl
  | sweepDisconnected now order => exact .inr (.inl ⟨now, order, rfl⟩)
  | drainEvent =>
    refine .inr (.inr ⟨rfl, ?_⟩)
    simp only [step, drainEvent]
    split <;> exact ⟨rfl, rfl, rfl, rfl⟩
  | beginTick now => exact .inr (.inr ⟨rfl, rfl, rfl, rfl, rfl⟩)
  | dispatchNext => exact .inr (.inr ⟨rfl, hquiet (.dispatchNext H.codec g)⟩)
  | simulate dt seed order => exact .inr (.inr ⟨rfl, hquiet (.simulate H.numerics g dt seed order)⟩)
  | detectZoneBoundaries zid now order =>
    exact .inr (.inr ⟨rfl, hquiet (.detectZoneBoundaries g zid now order)⟩)
  | updateVisibility zid order =>
    have h := Shows.updateVisibility g zid order
    obtain ⟨aoi, haoi⟩ := h.store
    refine .inr (.inr ⟨rfl, ?_, h.publishes.cmds, h.publishes.sessionStates,
      h.publishes.reconnectWindow⟩)
    simp only [step, haoi]
  | sweepGhosts now order => exact .inr (.inr ⟨rfl, hquiet (.sweepGhosts g now order)⟩)
  | _ => simp [Call.ofTick] at hc

theorem isSome_runCmd {g : Game} {c : EntityID} {cmd : Cmd}
    (h : cmd.leaves c (g.entities.get c).isSome) : ((g.runCmd cmd).entities.get c).isSome := by
  cases cmd with
  | add e =>
    change ((g.toStore.addEntity e).entities.get c).isSome
    rw [g.toStore.entities_addEntity]
    split_ifs with hid
    · rfl
    · simpa [Cmd.leaves, Ne.symm hid] using h
  | remove id =>
    simp only [Cmd.leaves, Bool.and_eq_true, decide_eq_true_eq] at h
    change ((g.toStore.removeEntity id).entities.get c).isSome
    rw [g.toStore.entities_removeEntity_ne (Ne.symm h.2)]
    exact h.1

theorem cmds_runCmd (g : Game) (cmd : Cmd) :
    (g.runCmd cmd).cmds = g.cmds ∧ (g.runCmd cmd).sessionStates = g.sessionStates ∧
      (g.runCmd cmd).reconnectWindow = g.reconnectWindow := by
  cases cmd <;> exact ⟨rfl, rfl, rfl⟩

/-- The queue grows by at most the command. -/
theorem buffered_enqueueCmd (g : Game) (cmd : Cmd) :
    (g.enqueueCmd cmd).cmds.buffered = g.cmds.buffered ++ [cmd] ∨
      (g.enqueueCmd cmd).cmds.buffered = g.cmds.buffered ∧ g.cmds.trySend cmd = none := by
  unfold enqueueCmd
  split
  · next ch hch => exact .inl (Chan.trySend_buffered hch)
  · next hch => exact .inr ⟨rfl, hch⟩

theorem sessionStates_enqueueCmd (g : Game) (cmd : Cmd) :
    (g.enqueueCmd cmd).sessionStates = g.sessionStates ∧
      (g.enqueueCmd cmd).reconnectWindow = g.reconnectWindow := by
  unfold enqueueCmd
  split <;> exact ⟨rfl, rfl⟩

theorem receive_frame (g : Game) (pkt : InboundPacket) :
    (g.receive pkt).cmds = g.cmds ∧ (g.receive pkt).sessionStates = g.sessionStates ∧
      (g.receive pkt).reconnectWindow = g.reconnectWindow := by
  unfold receive
  split <;> exact ⟨rfl, rfl, rfl⟩

theorem markDisconnected_frame (g : Game) (id : EntityID) (now : Time) :
    (g.markDisconnected id now).cmds = g.cmds ∧
      (g.markDisconnected id now).reconnectWindow = g.reconnectWindow := by
  unfold markDisconnected
  split <;> exact ⟨rfl, rfl⟩

end Game

end SpatialServer

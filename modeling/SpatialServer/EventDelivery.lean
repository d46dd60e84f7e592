import SpatialServer.EventWire
import SpatialServer.Relay
import SpatialServer.SendQueue

/-!
# From the event channel to the streams

One goroutine drains the event channel. It encodes an event, looks its observer
up in the registry, and pushes the packet on the queue of the entry it found,
after it has let go of the registry. The sender of an entry takes packets from the
queue and sends each on the stream of the entry. Streams connect and end, entries
are replaced and closed while a packet is on its way: the goroutines of the streams,
the tick loop, the drainer and the senders take their steps in any order.

The queue of one entry, with what was routed to it and what its sender took from
it, is a `Delivery`, whatever the other goroutines do: that is `view_step`. To say
what was routed the model keeps the drained events, each with the entry that was
found for it.
-/
namespace SpatialServer

open Runs Wire

namespace Call

/-- The call takes an event from the event channel. -/
def drains : Call → Bool
  | .drainEvent => true
  | _ => false

end Call

namespace Game

/-! ## What becomes of the event channel -/

theorem grown_publish (g : Game) (evt : Event) : g.events.Grown (g.publish evt).events := by
  unfold publish
  split
  · next hsend => exact .trySend hsend
  · exact .refl _

theorem grown_publishAll (g : Game) (evts : List Event) :
    g.events.Grown (g.publishAll evts).events :=
  List.foldlRecOn (motive := fun g' : Game => g.events.Grown g'.events) _ _ (.refl _)
    fun g' hg' evt _ => hg'.trans (g'.grown_publish evt)

theorem grown_enqueueMove (g : Game) (id : EntityID) (pos : Vector3) :
    g.events.Grown (g.enqueueMove id pos).events := by
  unfold enqueueMove
  split
  · exact g.grown_publishAll _
  · exact .refl _

theorem grown_dispatch (c : Wire.Codec) (g : Game) (pkt : InboundPacket) :
    g.events.Grown (g.dispatch c pkt).events := by
  obtain hnone | ⟨upd, hupd⟩ | ⟨st, payload, hst⟩ := dispatch_cases c g pkt
  · rw [hnone]
    exact .refl _
  · rw [hupd]
    unfold dispatchPositionUpdate
    split
    · exact .refl _
    · exact grown_enqueueMove (g.onStore _) _ _
  · rw [hst]
    unfold dispatchEntityState
    split
    · exact .refl _
    · dsimp only
      split
      · exact g.grown_publishAll _
      · exact .refl _

theorem grown_simulateEntity (N : Numerics) (dt : Duration) (seed : EntityID → ℤ) (g : Game)
    (id : EntityID) : g.events.Grown (simulateEntity N dt seed g id).events := by
  unfold simulateEntity
  split
  · exact .refl _
  · dsimp only
    split_ifs
    · exact .refl _
    · exact .refl _
    · exact grown_enqueueMove (g.onStore _) _ _

theorem grown_visitObserver (sim : ZoneSim) (order : VisitOrder) (g : Game) (id : EntityID) :
    g.events.Grown (visitObserver sim order g id).events := by
  unfold visitObserver
  split
  · exact .refl _
  · exact (g.grown_publishAll _).trans (grown_publishAll _ _)

theorem events_sweepSession (now : Time) (g : Game) (id : EntityID) :
    (sweepSession now g id).events = g.events := by
  obtain ⟨s, states, heq⟩ := sweepSession_frame now g id
  rw [heq]

/-- Only the drainer receives from the event channel. -/
theorem grown_step (H : Host) (g : Game) {c : Call} (hc : c.drains = false) :
    g.events.Grown (step H g c).events := by
  cases c with
  | drainEvent => cases hc
  | assignZone z =>
    obtain heq | ⟨s, -, heq⟩ := step_assignZone H g z <;> rw [heq] <;> exact .refl _
  | releaseZone id =>
    obtain heq | ⟨s, -, heq⟩ := step_releaseZone H g id <;> rw [heq] <;> exact .refl _
  | enqueueAddEntity e =>
    simp only [step, enqueueCmd]
    split <;> exact .refl _
  | enqueueRemoveEntity id =>
    simp only [step, enqueueCmd]
    split <;> exact .refl _
  | receive pkt =>
    simp only [step, receive]
    split <;> exact .refl _
  | markDisconnected id now =>
    simp only [step, markDisconnected]
    split <;> exact .refl _
  | applyCmd =>
    simp only [step, applyCmd]
    split
    · next cmd _ _ => cases cmd <;> exact .refl _
    · exact .refl _
  | dispatchNext =>
    simp only [step, dispatchNext]
    split
    · next ch _ => exact grown_dispatch H.codec { g with inbox := ch } _
    · exact .refl _
  | simulate dt seed order =>
    exact List.foldlRecOn (motive := fun g' : Game => g.events.Grown g'.events) _ _ (.refl _)
      fun g' hg' id _ => hg'.trans (grown_simulateEntity H.numerics dt seed g' id)
  | updateVisibility zid order =>
    simp only [step, updateVisibility]
    split
    · exact .refl _
    · exact List.foldlRecOn (motive := fun g' : Game => g.events.Grown g'.events) _ _ (.refl _)
        fun g' hg' id _ => hg'.trans (grown_visitObserver _ order g' id)
  | sweepDisconnected now order =>
    exact List.foldlRecOn (motive := fun g' : Game => g.events.Grown g'.events) _ _ (.refl _)
      fun g' hg' id _ => events_sweepSession now g' id ▸ hg'
  | _ => exact .refl _

end Game

namespace GameServer

/-! ## What becomes of the registry -/

/-- The registry leads to open entries of the client. -/
def OpenRegistry (σ : GameServer) : Prop :=
  ∀ id r, σ.clients.get id = some r →
    r < σ.entries.next ∧ (σ.entries.cell r).id = id ∧ (σ.entries.cell r).done = false

/-- Nothing in the registry leads to the entry. -/
def Unlisted (σ : GameServer) (r : ℕ) : Prop := ∀ id, σ.clients.get id ≠ some r

/-- What lasts from `σ` to `σ'`: the entries there are, whose they are, and that an
entry is out of the registry. -/
structure Later (σ σ' : GameServer) : Prop where
  next_le : σ.entries.next ≤ σ'.entries.next
  id_eq : ∀ r < σ.entries.next, (σ'.entries.cell r).id = (σ.entries.cell r).id
  stream_eq : ∀ r < σ.entries.next, (σ'.entries.cell r).stream = (σ.entries.cell r).stream
  unlisted : ∀ r < σ.entries.next, σ.Unlisted r → σ'.Unlisted r
  registered : σ.OpenRegistry → σ'.OpenRegistry

namespace Later

variable {σ σ' σ'' : GameServer}

theorem trans (h : Later σ σ') (h' : Later σ' σ'') : Later σ σ'' where
  next_le := h.next_le.trans h'.next_le
  id_eq := fun r hr => (h'.id_eq r (hr.trans_le h.next_le)).trans (h.id_eq r hr)
  stream_eq := fun r hr => (h'.stream_eq r (hr.trans_le h.next_le)).trans (h.stream_eq r hr)
  unlisted := fun r hr hout => h'.unlisted r (hr.trans_le h.next_le) (h.unlisted r hr hout)
  registered := fun hreg => h'.registered (h.registered hreg)

/-- Neither streams nor the game matter to the registry. -/
theorem of_eq (hentries : σ'.entries = σ.entries) (hclients : σ'.clients = σ.clients) :
    Later σ σ' where
  next_le := by rw [hentries]
  id_eq := fun r _ => by rw [hentries]
  stream_eq := fun r _ => by rw [hentries]
  unlisted := fun r _ hout id => by rw [hclients]; exact hout id
  registered := fun hreg id r hget => by
    rw [hentries]
    exact hreg id r (by rwa [hclients] at hget)

theorem refl (σ : GameServer) : Later σ σ := of_eq rfl rfl

/-- Whether a sender runs does not matter either. -/
theorem setSending (σ : GameServer) (r : ℕ) (sending : Bool) : Later σ
    { σ with entries := σ.entries.write r { σ.entries.cell r with sending := sending } } where
  next_le := le_rfl
  id_eq := fun q _ => by by_cases hq : q = r <;> simp [hq]
  stream_eq := fun q _ => by by_cases hq : q = r <;> simp [hq]
  unlisted := fun _ _ hout => hout
  registered := fun hreg id q hget => by
    obtain ⟨hlt, hid, hopen⟩ := hreg id q hget
    refine ⟨hlt, ?_, ?_⟩ <;> by_cases hq : q = r
    · subst hq
      simpa using hid
    · simpa [hq] using hid
    · subst hq
      simpa using hopen
    · simpa [hq] using hopen

theorem register (σ : GameServer) (s : StreamID) (id : String) : Later σ (σ.register s id) where
  next_le := Nat.le_succ _
  id_eq := fun r hr => by
    rw [GameServer.register, Heap.cell_alloc_of_lt _ _ hr]
  stream_eq := fun r hr => by
    rw [GameServer.register, Heap.cell_alloc_of_lt _ _ hr]
  unlisted := fun r hr hout id' hget => by
    simp only [GameServer.register, Dict.get_set] at hget
    split_ifs at hget
    · exact hr.ne (Option.some.inj hget).symm
    · exact hout id' hget
  registered := fun hreg id' r hget => by
    simp only [GameServer.register, Dict.get_set] at hget ⊢
    split_ifs at hget with hid
    · obtain rfl := Option.some.inj hget
      exact ⟨Nat.lt_succ_self _, by simp [hid], by simp⟩
    · obtain ⟨hlt, hname, hopen⟩ := hreg id' r hget
      rw [Heap.cell_alloc_of_lt _ _ hlt]
      exact ⟨Nat.lt_succ_of_lt hlt, hname, hopen⟩

theorem unregister (σ : GameServer) (id : String) : Later σ (σ.unregister id) := by
  unfold GameServer.unregister
  split
  · exact refl σ
  · next ref href =>
    constructor
    case next_le => exact le_rfl
    case id_eq => exact fun r _ => by by_cases hr : r = ref <;> simp [hr]
    case stream_eq => exact fun r _ => by by_cases hr : r = ref <;> simp [hr]
    case unlisted =>
      intro r _ hout id' hget
      rw [Dict.get_del] at hget
      split_ifs at hget
      exact hout id' hget
    case registered =>
      intro hreg id' r hget
      rw [Dict.get_del] at hget
      split_ifs at hget with hid
      obtain ⟨hlt, hname, hopen⟩ := hreg id' r hget
      -- the entry that was closed belongs to the client that was deleted
      have hne : r ≠ ref := by
        rintro rfl
        exact hid (hname.symm.trans (hreg id r href).2.1)
      simpa [hne] using ⟨hlt, hname, hopen⟩

theorem perform (σ : GameServer) (s : StreamID) (now : Time) (a : Action) :
    Later σ (σ.perform s now a) := by
  cases a with
  | register id => exact register σ s id
  | startSender => exact setSending σ _ true
  | unregister id => exact unregister σ id
  | _ => exact of_eq rfl rfl

theorem senderExit (σ : GameServer) (r : ℕ) : Later σ (σ.senderExit r) := by
  unfold GameServer.senderExit
  split
  · exact (setSending σ r false).trans (unregister _ _)
  · exact refl σ

theorem step (H : Host) (σ : GameServer) (stp : RelayStep) : Later σ (σ.step H stp) := by
  cases stp with
  | recv s pkt =>
    simp only [GameServer.step, GameServer.recv]
    split <;> exact of_eq rfl rfl
  | endStream s =>
    simp only [GameServer.step, GameServer.endStream]
    split <;> exact of_eq rfl rfl
  | act s now =>
    simp only [GameServer.step, GameServer.act]
    split
    · exact refl σ
    · exact (of_eq rfl rfl : Later σ (σ.setStream s _)).trans (perform _ s now _)
  | senderExit r => exact senderExit σ r
  | call c => exact of_eq rfl rfl

end Later

/-- The step is the drainer's. -/
def drains : RelayStep → Bool
  | .call c => c.drains
  | _ => false

theorem grown_step (H : Host) (σ : GameServer) {stp : RelayStep} (h : drains stp = false) :
    σ.game.events.Grown (σ.step H stp).game.events := by
  cases stp with
  | call c => exact Game.grown_step H σ.game h
  | recv s pkt =>
    simp only [GameServer.step, GameServer.recv]
    split <;> exact .refl _
  | endStream s =>
    simp only [GameServer.step, GameServer.endStream]
    split <;> exact .refl _
  | senderExit r =>
    simp only [GameServer.step, GameServer.senderExit]
    split
    · rw [game_unregister]
      exact .refl _
    · exact .refl _
  | act s now =>
    simp only [GameServer.step, GameServer.act]
    split
    · exact .refl _
    · next a _ _ =>
      cases a with
      | enqueueAddEntity e => exact Game.grown_step H σ.game (c := .enqueueAddEntity e) rfl
      | enqueueRemoveEntity id => exact Game.grown_step H σ.game (c := .enqueueRemoveEntity id) rfl
      | receive pkt => exact Game.grown_step H σ.game (c := .receive pkt) rfl
      | markReconnected id => exact Game.grown_step H σ.game (c := .markReconnected id) rfl
      | markDisconnected id => exact Game.grown_step H σ.game (c := .markDisconnected id now) rfl
      | unregister id =>
        simp only [perform, game_unregister]
        exact .refl _
      | _ => exact .refl _

end GameServer

namespace Delivery

variable {α : Type*}

/-- Drops are never uncounted. -/
theorem drops_le_step (d : Delivery α) (ev : Event α) : d.queue.drops ≤ (d.step ev).queue.drops := by
  cases ev with
  | push data =>
    simp only [step]
    split <;> exact le_rfl
  | operation =>
    simp only [step, BoundedSendQueue.push]
    split
    · exact le_rfl
    · split <;> exact le_rfl
    · split
      · exact Nat.le_succ _
      · exact le_rfl
    · split
      · exact le_rfl
      · exact Nat.le_succ _
  | receive =>
    simp only [step]
    split <;> exact le_rfl

theorem drops_le_exec (d : Delivery α) (evs : List (Event α)) :
    d.queue.drops ≤ (exec step d evs).queue.drops :=
  exec_keeps (fun d' : Delivery α => d.queue.drops ≤ d'.queue.drops)
    (fun d' ev h => h.trans (d'.drops_le_step ev)) le_rfl evs

/-- Without new items, what is buffered and what is being pushed can still be
received, and nothing else. -/
theorem received_le_of_accounted {capacity : ℕ} (hcapacity : 1 ≤ capacity) {d : Delivery α}
    (h : d.Accounted capacity) {evs : List (Event α)}
    (hsame : (exec step d evs).pushed = d.pushed) :
    (exec step d evs).received.length ≤ d.received.length + capacity + 1 := by
  have hend : (exec step d evs).Accounted capacity :=
    exec_keeps (Accounted capacity) (fun d' ev h' => h'.step hcapacity ev) h evs
  obtain ⟨items, hpushed, hlength, -⟩ := h.settled
  obtain ⟨items', hpushed', hlength', -⟩ := hend.settled
  have hdrops := d.drops_le_exec evs
  have hbuffered := h.buffered_le
  have hpending : d.producer.pending.length ≤ 1 := by cases d.producer <;> simp [Push.pending]
  have hcount : items'.length ≤ items.length + d.producer.pending.length := by
    rw [← List.length_append, ← hpushed, ← hsame, hpushed', List.length_append]
    exact Nat.le_add_right _ _
  omega

end Delivery

/-! ## The pipeline -/

/-- Where the drainer is: before it takes an event, before it looks up the
observer, or in the middle of a push. -/
inductive Drainer where
  | idle
  | lookup (evt : Event)
  | push (r : ℕ) (state : Push Bytes)

namespace Drainer

/-- The event that was taken and is not routed yet. -/
def pending : Drainer → List Event
  | .lookup evt => [evt]
  | _ => []

/-- What the producer of the queue of this entry is doing. -/
def producer (r : ℕ) : Drainer → Push Bytes
  | .push q state => if q = r then state else .idle
  | _ => .idle

/-- A push that has returned leaves the drainer idle. -/
def pushing (r : ℕ) : Push Bytes → Drainer
  | .idle => .idle
  | state => .push r state

@[simp] theorem producer_idle (r : ℕ) : idle.producer r = .idle := rfl

@[simp] theorem producer_lookup (r : ℕ) (evt : Event) : (lookup evt).producer r = .idle := rfl

@[simp] theorem producer_push (q r : ℕ) (state : Push Bytes) :
    (push q state).producer r = if q = r then state else .idle := rfl

@[simp] theorem producer_pushing (q r : ℕ) (state : Push Bytes) :
    (pushing q state).producer r = if q = r then state else .idle := by
  cases state <;> simp [pushing]

@[simp] theorem pending_pushing (r : ℕ) (state : Push Bytes) : (pushing r state).pending = [] := by
  cases state <;> rfl

end Drainer

/-- The queue of an entry is made with the entry, and `held` is the packet that its
sender has taken and not sent yet. The logs are all the events that were looked up,
with the entries that were found, and all the packets that were sent, with the
entries whose senders sent them. -/
structure EventPipe where
  server : GameServer
  drainer : Drainer
  queues : ℕ → BoundedSendQueue Bytes
  held : ℕ → Option Bytes
  routed : List (Event × Option ℕ)
  wire : List (ℕ × Bytes)

inductive PipeStep where
  | relay (stp : RelayStep)
  | drain
  | lookup
  | operation
  | take (r : ℕ)
  | sent (r : ℕ)

namespace EventPipe

def new (sid : ServerID) : EventPipe :=
  ⟨.new sid, .idle, fun _ => .new 64, fun _ => none, [], []⟩

/-- The drainer takes the oldest event when it is done with the last one. -/
def drain (p : EventPipe) : EventPipe :=
  match p.drainer, p.server.game.events.recv with
  | .idle, some (evt, _) =>
    { p with server := p.server.onGame (·.drainEvent), drainer := .lookup evt }
  | _, _ => p

/-- What `send` finds in the registry decides where the packet of the event goes. -/
def lookup (A : Adapter) (p : EventPipe) : EventPipe :=
  match p.drainer with
  | .lookup evt =>
    let found := p.server.clients.get evt.observer
    { p with
      routed := p.routed ++ [(evt, found)]
      drainer := match found with
        | some r => .push r (.trySend (A.encodeEvent evt))
        | none => .idle }
  | _ => p

/-- The next operation of the push. -/
def operation (p : EventPipe) : EventPipe :=
  match p.drainer with
  | .push r state =>
    { p with
      queues := Function.update p.queues r ((p.queues r).push state).1
      drainer := .pushing r ((p.queues r).push state).2 }
  | _ => p

/-- The sender of the entry waits for a packet. -/
def Waiting (p : EventPipe) (r : ℕ) : Prop :=
  (p.server.entries.cell r).sending = true ∧ p.held r = none

instance (p : EventPipe) (r : ℕ) : Decidable (p.Waiting r) := by unfold Waiting; infer_instance

def take (p : EventPipe) (r : ℕ) : EventPipe :=
  if p.Waiting r then
    match (p.queues r).ch.recv with
    | some (data, ch) =>
      { p with
        queues := Function.update p.queues r ⟨ch, (p.queues r).drops⟩
        held := Function.update p.held r (some data) }
    | none => p
  else p

/-- The stream accepts the packet. A sender whose stream does not accept it stops,
which is a step of the relay, and what it held is lost. -/
def sent (p : EventPipe) (r : ℕ) : EventPipe :=
  match p.held r with
  | some data =>
    if (p.server.entries.cell r).sending then
      { p with held := Function.update p.held r none, wire := p.wire ++ [(r, data)] }
    else p
  | none => p

def step (A : Adapter) (H : Host) (p : EventPipe) : PipeStep → EventPipe
  -- nobody but the drainer takes events
  | .relay stp => if GameServer.drains stp then p else { p with server := p.server.step H stp }
  | .drain => p.drain
  | .lookup => p.lookup A
  | .operation => p.operation
  | .take r => p.take r
  | .sent r => p.sent r

/-- The events for which the entry was found. -/
def routedTo (p : EventPipe) (r : ℕ) : List Event :=
  (p.routed.filter fun route => route.2 = some r).map Prod.fst

/-- What the sender of the entry has sent. -/
def sentBy (p : EventPipe) (r : ℕ) : List Bytes :=
  (p.wire.filter fun packet => packet.1 = r).map Prod.snd

/-! ## One queue of the pipeline -/

/-- What concerns the queue of one entry. -/
def view (A : Adapter) (r : ℕ) (p : EventPipe) : Delivery Bytes where
  queue := p.queues r
  producer := p.drainer.producer r
  pushed := (p.routedTo r).map A.encodeEvent
  received := p.sentBy r ++ (p.held r).toList

section View

variable (A : Adapter) (H : Host) (r : ℕ) (p : EventPipe)

theorem view_drain : view A r p.drain = view A r p := by
  unfold drain
  split
  · next hidle _ => simp [view, hidle, routedTo, sentBy]
  · rfl

theorem view_lookup : ∃ evs, view A r (p.lookup A) = exec Delivery.step (view A r p) evs := by
  unfold lookup
  split
  · next evt hlookup =>
    by_cases hfound : p.server.clients.get evt.observer = some r
    · refine ⟨[.push (A.encodeEvent evt)], ?_⟩
      simp [view, hlookup, hfound, routedTo, sentBy, Delivery.step]
    · refine ⟨[], ?_⟩
      cases hget : p.server.clients.get evt.observer with
      | none => simp [view, hlookup, routedTo, sentBy]
      | some q =>
        have hq : q ≠ r := fun heq => hfound (heq ▸ hget)
        simp [view, hlookup, hq, routedTo, sentBy]
  · exact ⟨[], rfl⟩

theorem view_operation : ∃ evs, view A r p.operation = exec Delivery.step (view A r p) evs := by
  unfold operation
  split
  · next q state hpush =>
    by_cases hq : q = r
    · subst hq
      refine ⟨[.operation], ?_⟩
      simp [view, hpush, routedTo, sentBy,
        Delivery.step]
    · refine ⟨[], ?_⟩
      simp [view, hpush, hq, Ne.symm hq, routedTo,
        sentBy]
  · exact ⟨[], rfl⟩

theorem view_take (q : ℕ) : ∃ evs, view A r (p.take q) = exec Delivery.step (view A r p) evs := by
  unfold take
  split_ifs with hwaiting
  · cases hrecv : (p.queues q).ch.recv with
    | none => exact ⟨[], rfl⟩
    | some res =>
      obtain ⟨data, ch⟩ := res
      by_cases hq : q = r
      · subst hq
        refine ⟨[.receive], ?_⟩
        simp [view, routedTo, sentBy, Delivery.step, hrecv, hwaiting.2]
      · refine ⟨[], ?_⟩
        simp [view, routedTo, sentBy, Ne.symm hq]
  · exact ⟨[], rfl⟩

theorem view_sent (q : ℕ) : view A r (p.sent q) = view A r p := by
  unfold sent
  split
  · next data hheld =>
    split_ifs
    · by_cases hq : q = r
      · subst hq
        simp [view, routedTo, sentBy, hheld]
      · simp [view, routedTo, sentBy, hq, Ne.symm hq]
    · rfl
  · rfl

/-- Whatever the goroutines do, the queue of an entry is a queue between one
producer and one consumer. -/
theorem view_step (stp : PipeStep) :
    ∃ evs, view A r (p.step A H stp) = exec Delivery.step (view A r p) evs := by
  cases stp with
  | relay stp =>
    refine ⟨[], ?_⟩
    simp only [step]
    split_ifs <;> rfl
  | drain => exact ⟨[], view_drain A r p⟩
  | lookup => exact view_lookup A r p
  | operation => exact view_operation A r p
  | take q => exact view_take A r p q
  | sent q => exact ⟨[], view_sent A r p q⟩

/-- So is it over a whole run. -/
theorem view_exec (steps : List PipeStep) :
    ∃ evs, view A r (exec (step A H) p steps) = exec Delivery.step (view A r p) evs := by
  induction steps generalizing p with
  | nil => exact ⟨[], rfl⟩
  | cons stp steps ih =>
    obtain ⟨evs, hfirst⟩ := view_step A H r p stp
    obtain ⟨evs', hrest⟩ := ih (p.step A H stp)
    exact ⟨evs ++ evs', by rw [exec_cons, hrest, hfirst, exec_append]⟩

theorem accounted_view (sid : ServerID) (steps : List PipeStep) :
    (view A r (exec (step A H) (new sid) steps)).Accounted 64 := by
  obtain ⟨evs, hview⟩ := view_exec A H r (new sid) steps
  rw [hview]
  exact Delivery.accounted_exec (by decide) evs

end View

/-! ## The whole pipeline -/

/-- The log has every drained event once, in order, and leads to entries of its
observer. -/
structure Routed (p : EventPipe) : Prop where
  registry : p.server.OpenRegistry
  drained : p.routed.map Prod.fst ++ p.drainer.pending =
    p.server.game.events.sent.take p.server.game.events.received
  observers : ∀ evt r, (evt, some r) ∈ p.routed →
    r < p.server.entries.next ∧ (p.server.entries.cell r).id = evt.observer

theorem routed_new (sid : ServerID) : Routed (new sid) where
  registry := fun id r hget => by simp [new, GameServer.new] at hget
  drained := rfl
  observers := fun evt r hmem => by simp [new] at hmem

namespace Routed

variable {p : EventPipe}

/-- The server goes on, and the log and the drainer stay. -/
theorem later (h : Routed p) {σ : GameServer} (hlater : p.server.Later σ)
    (hgrown : p.server.game.events.Grown σ.game.events) : Routed { p with server := σ } where
  registry := hlater.registered h.registry
  drained := h.drained.trans hgrown.take_received.symm
  observers := fun evt r hmem => by
    obtain ⟨hlt, hid⟩ := h.observers evt r hmem
    exact ⟨hlt.trans_le hlater.next_le, (hlater.id_eq r hlt).trans hid⟩

theorem drain (h : Routed p) : Routed p.drain := by
  unfold EventPipe.drain
  split
  · next evt ch hidle hrecv =>
    refine ⟨h.registry, ?_, h.observers⟩
    have hdrained := h.drained
    rw [hidle] at hdrained
    have htaken : (p.server.onGame (·.drainEvent)).game.events = ch := by
      simp [GameServer.onGame, Game.drainEvent, hrecv]
    rw [htaken, Chan.take_received_of_recv hrecv, ← hdrained]
    simp [Drainer.pending]
  · exact h

theorem lookup (A : Adapter) (h : Routed p) : Routed (p.lookup A) := by
  unfold EventPipe.lookup
  split
  · next evt hlookup =>
    refine ⟨h.registry, ?_, fun evt' r hmem => ?_⟩
    · rw [← h.drained, hlookup]
      cases p.server.clients.get evt.observer <;> simp [Drainer.pending]
    · rcases List.mem_append.mp hmem with hmem | hmem
      · exact h.observers evt' r hmem
      · obtain ⟨rfl, hfound⟩ := Prod.mk.inj (List.mem_singleton.mp hmem)
        obtain ⟨hlt, hid, -⟩ := h.registry _ r hfound.symm
        exact ⟨hlt, hid⟩
  · exact h

theorem step (A : Adapter) (H : Host) (h : Routed p) (stp : PipeStep) :
    Routed (p.step A H stp) := by
  cases stp with
  | relay stp =>
    simp only [EventPipe.step]
    split_ifs with hdrains
    · exact h
    · exact h.later (.step H p.server stp)
        (GameServer.grown_step H p.server (Bool.eq_false_iff.mpr hdrains))
  | drain => exact h.drain
  | lookup => exact h.lookup A
  | operation =>
    simp only [EventPipe.step, EventPipe.operation]
    split
    · next hpush =>
      refine ⟨h.registry, ?_, h.observers⟩
      have hdrained := h.drained
      rw [hpush] at hdrained
      rw [Drainer.pending_pushing]
      exact hdrained
    · exact h
  | take r =>
    simp only [EventPipe.step, EventPipe.take]
    split_ifs
    · split <;> exact ⟨h.registry, h.drained, h.observers⟩
    · exact h
  | sent r =>
    simp only [EventPipe.step, EventPipe.sent]
    split
    · split_ifs <;> exact ⟨h.registry, h.drained, h.observers⟩
    · exact h

end Routed

theorem routed_exec (A : Adapter) (H : Host) (sid : ServerID) (steps : List PipeStep) :
    Routed (exec (step A H) (new sid) steps) :=
  exec_keeps Routed (fun _ stp h => h.step A H stp) (routed_new sid) steps

/-- What has left the channel, in the order in which it was published, is what was
routed, each event once, and the one that the drainer has yet to look up. An event is
routed to an entry of its observer or to nobody. Of the packets of
the events that were routed to an entry, its sender sends some, once and in that
order, and every other one is held, waits in the queue or is about to, or was
counted as dropped. -/
theorem events_reach_observers (A : Adapter) (H : Host) (sid : ServerID)
    (steps : List PipeStep) :
    let p := exec (step A H) (new sid) steps
    p.routed.map Prod.fst ++ p.drainer.pending =
        p.server.game.events.sent.take p.server.game.events.received ∧
      (∀ evt r, (evt, some r) ∈ p.routed → (p.server.entries.cell r).id = evt.observer) ∧
      ∀ r, (p.sentBy r ++ (p.held r).toList ++ (p.queues r).ch.buffered).Sublist
          ((p.routedTo r).map A.encodeEvent) ∧
        (p.routedTo r).length = (p.sentBy r).length + (p.held r).toList.length +
          (p.queues r).ch.buffered.length + (p.queues r).drops +
          (p.drainer.producer r).pending.length := by
  intro p
  have hrouted : Routed p := routed_exec A H sid steps
  refine ⟨hrouted.drained, fun evt r hmem => (hrouted.observers evt r hmem).2, fun r => ?_⟩
  obtain ⟨items, hpushed, hlength, hsub⟩ := (accounted_view A H r sid steps).settled
  have hcount := congrArg List.length hpushed
  simp only [view, List.length_map, List.length_append] at hcount hlength
  refine ⟨?_, by rw [hcount, hlength]⟩
  refine hsub.trans ?_
  change items.Sublist (view A r p).pushed
  rw [hpushed]
  exact List.sublist_append_left _ _

/-! ## Entries that have left the registry -/

theorem later_step (A : Adapter) (H : Host) (p : EventPipe) (stp : PipeStep) :
    p.server.Later (p.step A H stp).server := by
  cases stp with
  | relay stp =>
    simp only [step]
    split_ifs
    · exact .refl _
    · exact .step H p.server stp
  | drain =>
    simp only [step, drain]
    split
    · exact .of_eq rfl rfl
    · exact .refl _
  | lookup =>
    simp only [step, lookup]
    split <;> exact .refl _
  | operation =>
    simp only [step, operation]
    split <;> exact .refl _
  | take r =>
    simp only [step, take]
    split_ifs
    · split <;> exact .refl _
    · exact .refl _
  | sent r =>
    simp only [step, sent]
    split
    · split_ifs <;> exact .refl _
    · exact .refl _

/-- Nothing is routed to an entry that the registry does not lead to. -/
theorem routedTo_step (A : Adapter) (H : Host) {p : EventPipe} {r : ℕ}
    (hout : p.server.Unlisted r) (stp : PipeStep) :
    (p.step A H stp).routedTo r = p.routedTo r := by
  cases stp with
  | relay stp =>
    simp only [step]
    split_ifs <;> rfl
  | drain =>
    simp only [step, drain]
    split <;> rfl
  | lookup =>
    simp only [step, lookup]
    split
    · next evt _ => simp [routedTo, hout evt.observer]
    · rfl
  | operation =>
    simp only [step, operation]
    split <;> rfl
  | take r =>
    simp only [step, take]
    split_ifs
    · split <;> rfl
    · rfl
  | sent r =>
    simp only [step, sent]
    split
    · split_ifs <;> rfl
    · rfl

/-- An entry that has left the registry stays out of it. -/
theorem unlisted_exec (A : Adapter) (H : Host) {p : EventPipe} {r : ℕ}
    (hr : r < p.server.entries.next) (hout : p.server.Unlisted r) (more : List PipeStep) :
    (exec (step A H) p more).server.Unlisted r ∧
      (exec (step A H) p more).routedTo r = p.routedTo r := by
  induction more generalizing p with
  | nil => exact ⟨hout, rfl⟩
  | cons stp more ih =>
    have hlater := later_step A H p stp
    obtain ⟨hend, hsame⟩ := ih (hr.trans_le hlater.next_le) (hlater.unlisted r hr hout)
    exact ⟨hend, hsame.trans (routedTo_step A H hout stp)⟩

/-- The registry leads to open entries, so that none is closed twice. An entry that
was closed or replaced gets no further events, and its sender sends at most what it
holds, what is queued and what is being pushed. -/
theorem unlisted_entry_fades (A : Adapter) (H : Host) (sid : ServerID)
    (steps more : List PipeStep) (r : ℕ) :
    let p := exec (step A H) (new sid) steps
    let p' := exec (step A H) p more
    (∀ id q, p.server.clients.get id = some q → (p.server.entries.cell q).done = false) ∧
      (r < p.server.entries.next → p.server.Unlisted r →
        p'.server.Unlisted r ∧ p'.routedTo r = p.routedTo r ∧
          (p'.sentBy r).length ≤ (p.sentBy r).length + 66) := by
  intro p p'
  refine ⟨fun id q hget => ((routed_exec A H sid steps).registry id q hget).2.2,
    fun hr hout => ?_⟩
  obtain ⟨hend, hsame⟩ := unlisted_exec A H hr hout more
  refine ⟨hend, hsame, ?_⟩
  obtain ⟨evs, hview⟩ := view_exec A H r p more
  have hpushed : (view A r p').pushed = (view A r p).pushed := by
    change (p'.routedTo r).map _ = (p.routedTo r).map _
    rw [hsame]
  have hheld : (p.held r).toList.length ≤ 1 := by cases p.held r <;> simp
  have hreceived : (view A r p').received.length ≤ (view A r p).received.length + 64 + 1 := by
    rw [show view A r p' = _ from hview] at hpushed ⊢
    exact Delivery.received_le_of_accounted (by decide) (accounted_view A H r sid steps) hpushed
  simp only [view, List.length_append] at hreceived
  omega

/-- A client connects and disconnects again. -/
theorem disconnected_entry_fades :
    let A : Adapter := ⟨fun _ => none, Adapter.unary _, Adapter.unary _, Adapter.unary _⟩
    let steps : List PipeStep := [.relay (.recv 1 ⟨"a", .connect, "", []⟩), .relay (.act 1 0),
      .relay (.act 1 0), .relay (.act 1 0), .relay (.recv 1 ⟨"a", .disconnect, "", []⟩),
      .relay (.act 1 0)]
    let p := exec (step A (Host.steady Vector3.zero)) (new "gs-1") steps
    0 < p.server.entries.next ∧ p.server.Unlisted 0 ∧
      ∀ more, ((exec (step A (Host.steady Vector3.zero)) p more).sentBy 0).length ≤ 66 := by
  intro A steps p
  have hout : p.server.Unlisted 0 := by
    intro id
    have hget : p.server.clients.get id = (((∅ : Dict String ℕ).set "a" 0).del "a").get id := rfl
    rw [hget, Dict.get_del, Dict.get_set]
    split_ifs <;> simp
  refine ⟨by decide, hout, fun more => ?_⟩
  have hfades := (unlisted_entry_fades A (Host.steady Vector3.zero) "gs-1" steps more 0).2
    (by decide) hout
  exact hfades.2.2.trans (by decide)

end EventPipe

end SpatialServer

import SpatialServer.EventDelivery

/-!
# Nobody waits for a slow client

The drainer serves all clients, one event after the other. A push never blocks, so an
event costs it five steps at most: one that takes it, one that looks its observer up, and
the three operations of the push. The sender of an entry takes two steps for a packet. So
after enough steps of their own, whatever everybody else does, all that was published
has been routed, and what was routed to a client has been sent or was counted as dropped.
-/
namespace SpatialServer

open Runs Wire

namespace Delivery

variable {α : Type*} {capacity : ℕ}

/-- What has left the channel was received or dropped. -/
def Removed (d : Delivery α) : Prop := d.queue.ch.received = d.received.length + d.queue.drops

theorem Removed.step {d : Delivery α} (h : d.Removed) (hd : d.Accounted capacity) (ev : Event α) :
    (d.step ev).Removed := by
  unfold Removed at h ⊢
  cases ev with
  | push data =>
    simp only [Delivery.step]
    split <;> exact h
  | operation =>
    rcases hproducer : d.producer with _ | item | item | item <;>
      simp only [Delivery.step, hproducer, BoundedSendQueue.push]
    · exact h
    · split
      · next ch htry =>
        rw [(Chan.Grown.trySend htry).received]
        exact h
      · exact h
    · split
      · next ch hrecv =>
        rw [Chan.received_of_recv hrecv, h]
        exact Nat.add_assoc _ _ _
      · exact h
    · split
      · next ch htry =>
        rw [(Chan.Grown.trySend htry).received]
        exact h
      · -- the retry finds room
        next hfull =>
        have hroom := hd.room item hproducer
        rw [Chan.trySend_eq_none_iff, hd.cap_eq] at hfull
        omega
  | receive =>
    simp only [Delivery.step]
    split
    · next data ch hrecv =>
      rw [Chan.received_of_recv hrecv, h, List.length_append, List.length_singleton]
      exact Nat.add_right_comm _ _ _
    · exact h

theorem removed_exec (hcapacity : 1 ≤ capacity) (evs : List (Event α)) :
    (exec step (new capacity) evs).Removed := by
  refine (exec_keeps (fun d : Delivery α => d.Accounted capacity ∧ d.Removed)
    (fun d ev h => ⟨h.1.step hcapacity ev, h.2.step h.1 ev⟩) ⟨accounted_new capacity, ?_⟩ evs).2
  rfl

end Delivery

/-- Operations of a push send into the channel or take from it. -/
theorem BoundedSendQueue.push_grows {α : Type*} (q : BoundedSendQueue α) (state : Push α) :
    q.ch.sent <+: (q.push state).1.ch.sent ∧ q.ch.received ≤ (q.push state).1.ch.received := by
  cases state with
  | idle => exact ⟨List.prefix_rfl, le_rfl⟩
  | dropOldest data =>
    simp only [push]
    split
    · next ch hrecv =>
      rw [(Chan.recv_eq_some hrecv).2.1, Chan.received_of_recv hrecv]
      exact ⟨List.prefix_rfl, Nat.le_succ _⟩
    · exact ⟨List.prefix_rfl, le_rfl⟩
  | _ =>
    simp only [push]
    split
    · next ch htry =>
      have hgrown := Chan.Grown.trySend htry
      exact ⟨hgrown.sent, hgrown.received.ge⟩
    · exact ⟨List.prefix_rfl, le_rfl⟩

/-- The steps that the drainer still has to take for the event that it has taken. -/
def Drainer.left : Drainer → ℕ
  | .idle => 0
  | .lookup _ => 4
  | .push _ (.trySend _) => 3
  | .push _ (.dropOldest _) => 2
  | .push _ (.retrySend _) | .push _ .idle => 1

theorem Drainer.left_push_pos (r : ℕ) (state : Push Bytes) : 0 < (push r state).left := by
  cases state <;> simp [left]

theorem Drainer.left_push_le (r : ℕ) (state : Push Bytes) : (push r state).left ≤ 3 := by
  cases state <;> simp [left]

theorem Drainer.left_pushing (q : BoundedSendQueue Bytes) (r : ℕ) (state : Push Bytes) :
    (pushing r (q.push state).2).left < (push r state).left := by
  cases state <;> simp only [BoundedSendQueue.push]
  · exact Nat.one_pos
  · split <;> simp [pushing, left]
  · split <;> simp [pushing, left]
  · split <;> simp [pushing, left]

/-- The drainer or the sender of an entry does what is next for it, or anybody does
anything. -/
inductive PipeTurn where
  | drainer
  | sender (r : ℕ)
  | other (stp : PipeStep)

namespace PipeTurn

def ofDrainer : PipeTurn → Bool
  | .drainer => true
  | _ => false

def ofSender (r : ℕ) : PipeTurn → Bool
  | .sender q => decide (q = r)
  | _ => false

def step (p : EventPipe) : PipeTurn → PipeStep
  | .drainer =>
    match p.drainer with
    | .idle => .drain
    | .lookup _ => .lookup
    | .push _ _ => .operation
  | .sender r => if (p.held r).isSome then .sent r else .take r
  | .other stp => stp

end PipeTurn

namespace EventPipe

variable {A : Adapter} {H : Host} {p : EventPipe}

def turn (A : Adapter) (H : Host) (p : EventPipe) (t : PipeTurn) : EventPipe :=
  p.step A H (t.step p)

theorem exists_steps (A : Adapter) (H : Host) (p : EventPipe) (turns : List PipeTurn) :
    ∃ steps, exec (turn A H) p turns = exec (step A H) p steps := by
  induction turns generalizing p with
  | nil => exact ⟨[], rfl⟩
  | cons t turns ih =>
    obtain ⟨steps, hsteps⟩ := ih (p.turn A H t)
    exact ⟨t.step p :: steps, hsteps⟩

/-- A sender changes only its queue and what it holds and has sent. -/
theorem take_frame (p : EventPipe) (r : ℕ) :
    (p.take r).server = p.server ∧ (p.take r).drainer = p.drainer ∧
      (p.take r).routed = p.routed := by
  unfold take
  split_ifs
  · split <;> exact ⟨rfl, rfl, rfl⟩
  · exact ⟨rfl, rfl, rfl⟩

theorem sent_frame (p : EventPipe) (r : ℕ) :
    (p.sent r).server = p.server ∧ (p.sent r).drainer = p.drainer ∧
      (p.sent r).routed = p.routed := by
  unfold sent
  split
  · split_ifs <;> exact ⟨rfl, rfl, rfl⟩
  · exact ⟨rfl, rfl, rfl⟩

/-! ## The drainer -/

/-- The steps until the drainer is done with the first `n` events. -/
def drainRank (n : ℕ) (p : EventPipe) : ℕ :=
  5 * n + p.drainer.left - 5 * p.server.game.events.received

/-- The steps until the sender is done with the first `m` packets of its queue. -/
def sendRank (r m : ℕ) (p : EventPipe) : ℕ :=
  2 * m + (p.held r).toList.length - 2 * (p.queues r).ch.received

section Steps

variable (n : ℕ)

theorem drainRank_drain (hidle : p.drainer = .idle) {evt : Event} {ch : Chan Event}
    (hrecv : p.server.game.events.recv = some (evt, ch)) :
    drainRank n p.drain ≤ drainRank n p - 1 := by
  simp only [drain, hidle, hrecv, drainRank, GameServer.onGame, Game.drainEvent, Drainer.left,
    Chan.received_of_recv hrecv]
  omega

theorem drainRank_lookup {evt : Event} (hlookup : p.drainer = .lookup evt) :
    drainRank n (p.lookup A) ≤ drainRank n p - 1 := by
  rcases hget : p.server.clients.get evt.observer with _ | r <;>
    simp only [lookup, hlookup, hget, drainRank, Drainer.left] <;> omega

theorem drainRank_operation {r : ℕ} {state : Push Bytes} (hpush : p.drainer = .push r state) :
    drainRank n p.operation ≤ drainRank n p - 1 := by
  have hleft := Drainer.left_pushing (p.queues r) r state
  simp only [operation, hpush, drainRank]
  omega

theorem events_step (A : Adapter) (H : Host) (p : EventPipe) (stp : PipeStep) :
    p.server.game.events.sent <+: (p.step A H stp).server.game.events.sent := by
  cases stp with
  | relay stp =>
    simp only [step]
    split_ifs with hdrains
    · exact List.prefix_rfl
    · exact (GameServer.grown_step H p.server (Bool.eq_false_iff.mpr hdrains)).sent
  | drain =>
    simp only [step, drain]
    split
    · next ch _ hrecv =>
      simp only [GameServer.onGame, Game.drainEvent, hrecv]
      rw [(Chan.recv_eq_some hrecv).2.1]
    · exact List.prefix_rfl
  | lookup =>
    simp only [step, lookup]
    split <;> exact List.prefix_rfl
  | operation =>
    simp only [step, operation]
    split <;> exact List.prefix_rfl
  | take r => rw [step, (p.take_frame r).1]
  | sent r => rw [step, (p.sent_frame r).1]

/-- Nobody takes the drainer back. -/
theorem drainRank_step (stp : PipeStep) : drainRank n (p.step A H stp) ≤ drainRank n p := by
  cases stp with
  | relay stp =>
    simp only [step]
    split_ifs with hdrains
    · exact le_rfl
    · simp only [drainRank]
      rw [(GameServer.grown_step H p.server (Bool.eq_false_iff.mpr hdrains)).received]
  | drain =>
    rcases hidle : p.drainer with _ | evt | ⟨r, state⟩
    · rcases hrecv : p.server.game.events.recv with _ | ⟨evt, ch⟩
      · simp only [step, drain, hidle, hrecv, le_refl]
      · exact (drainRank_drain n hidle hrecv).trans (Nat.sub_le _ _)
    · simp only [step, drain, hidle, le_refl]
    · simp only [step, drain, hidle, le_refl]
  | lookup =>
    rcases hlookup : p.drainer with _ | evt | ⟨r, state⟩
    · simp only [step, lookup, hlookup, le_refl]
    · exact (drainRank_lookup n hlookup).trans (Nat.sub_le _ _)
    · simp only [step, lookup, hlookup, le_refl]
  | operation =>
    rcases hpush : p.drainer with _ | evt | ⟨r, state⟩
    · simp only [step, operation, hpush, le_refl]
    · simp only [step, operation, hpush, le_refl]
    · exact (drainRank_operation n hpush).trans (Nat.sub_le _ _)
  | take r =>
    obtain ⟨hserver, hdrainer, -⟩ := p.take_frame r
    rw [step, drainRank, drainRank, hserver, hdrainer]
  | sent r =>
    obtain ⟨hserver, hdrainer, -⟩ := p.sent_frame r
    rw [step, drainRank, drainRank, hserver, hdrainer]

/-- Each of its own steps brings it forward, as long as there are events. -/
theorem drainRank_drainer (hn : n ≤ p.server.game.events.sent.length) :
    drainRank n (p.turn A H .drainer) ≤ drainRank n p - 1 := by
  rcases hdrainer : p.drainer with _ | evt | ⟨r, state⟩ <;>
    simp only [turn, PipeTurn.step, hdrainer, step]
  · rcases hrecv : p.server.game.events.recv with _ | ⟨evt, ch⟩
    · have hall : p.server.game.events.sent.length ≤ p.server.game.events.received :=
        List.drop_eq_nil_iff.mp (Chan.recv_eq_none hrecv)
      simp only [drain, hdrainer, hrecv, drainRank, Drainer.left]
      omega
    · exact drainRank_drain n hdrainer hrecv
  · exact drainRank_lookup n hdrainer
  · exact drainRank_operation n hdrainer

theorem events_turns (turns : List PipeTurn) :
    p.server.game.events.sent <+: (exec (turn A H) p turns).server.game.events.sent :=
  exec_keeps (fun q => p.server.game.events.sent <+: q.server.game.events.sent)
    (fun q t hq => hq.trans (events_step A H q (t.step q))) List.prefix_rfl turns

/-- Over a run, every turn of the drainer brings it forward. -/
theorem drainRank_turns (turns : List PipeTurn) (hn : n ≤ p.server.game.events.sent.length) :
    drainRank n (exec (turn A H) p turns) ≤ drainRank n p - turns.countP PipeTurn.ofDrainer :=
  exec_rank_le (fun q => n ≤ q.server.game.events.sent.length)
    (fun q t hq => hq.trans (events_step A H q (t.step q)).length_le)
    (fun q t _ => drainRank_step n (t.step q))
    (fun q t hq ht => by
      cases t with
      | drainer => exact drainRank_drainer n hq
      | _ => cases ht) hn turns

end Steps

/-- What is being pushed was routed last. -/
def Pushing (p : EventPipe) : Prop :=
  ∀ r state, p.drainer = .push r state → ∃ evt, p.routed.getLast? = some (evt, some r)

theorem Pushing.step (h : p.Pushing) (stp : PipeStep) : (p.step A H stp).Pushing := by
  cases stp with
  | relay stp =>
    simp only [EventPipe.step]
    split_ifs <;> exact h
  | drain =>
    simp only [EventPipe.step, drain]
    split
    · simp [Pushing]
    · exact h
  | lookup =>
    rcases hlookup : p.drainer with _ | evt | ⟨r, state⟩
    · simpa only [EventPipe.step, EventPipe.lookup, hlookup] using h
    · rcases hget : p.server.clients.get evt.observer with _ | r <;>
        simp only [EventPipe.step, EventPipe.lookup, hlookup, hget, Pushing]
      · simp
      · intro q state hpush
        cases hpush
        simp
    · simpa only [EventPipe.step, EventPipe.lookup, hlookup] using h
  | operation =>
    rcases hpush : p.drainer with _ | evt | ⟨r, state⟩ <;>
      simp only [EventPipe.step, operation, hpush]
    · exact h
    · exact h
    · intro q state' hq
      dsimp only at hq
      have hqr : q = r := by
        cases hnext : ((p.queues r).push state).2 <;> rw [hnext] at hq <;> cases hq <;> rfl
      subst hqr
      exact h q state hpush
  | take r =>
    obtain ⟨-, hdrainer, hrouted⟩ := p.take_frame r
    rw [Pushing, EventPipe.step, hdrainer, hrouted]
    exact h
  | sent r =>
    obtain ⟨-, hdrainer, hrouted⟩ := p.sent_frame r
    rw [Pushing, EventPipe.step, hdrainer, hrouted]
    exact h

theorem pushing_exec (A : Adapter) (H : Host) (sid : ServerID) (steps : List PipeStep) :
    (exec (step A H) (new sid) steps).Pushing :=
  exec_keeps Pushing (fun _ stp h => h.step stp) (by simp [Pushing, new]) steps

/-- Of the first events, those that were routed to the entry. -/
def routedFirst (n : ℕ) (p : EventPipe) (r : ℕ) : List Event :=
  ((p.routed.take n).filter fun route => route.2 = some r).map Prod.fst

section Reachable

variable (A) (H) (sid : ServerID) (steps : List PipeStep) {n : ℕ}

theorem length_routed :
    let p := exec (step A H) (new sid) steps
    p.routed.length + p.drainer.pending.length = p.server.game.events.received := by
  intro p
  have hrouted : Routed p := routed_exec A H sid steps
  have hlength := congrArg List.length hrouted.drained
  rwa [List.length_append, List.length_map, List.length_take,
    Nat.min_eq_left p.server.game.events.received_le] at hlength

/-- All that was routed to an entry has gone into its queue, but for what is being
pushed. -/
theorem length_routedTo (r : ℕ) :
    let p := exec (step A H) (new sid) steps
    (p.routedTo r).length =
        (p.queues r).ch.sent.length + (p.drainer.producer r).pending.length ∧
      (p.queues r).ch.received =
        (p.sentBy r).length + (p.held r).toList.length + (p.queues r).drops := by
  intro p
  have haccounted : (view A r p).Accounted 64 := accounted_view A H r sid steps
  obtain ⟨items, hpushed, hlength, -⟩ := haccounted.settled
  have hremoved : (view A r p).Removed := by
    obtain ⟨evs, hview⟩ := view_exec A H r (new sid) steps
    rw [hview]
    exact Delivery.removed_exec (by decide) evs
  have hcount := congrArg List.length hpushed
  have hbuffered : (p.queues r).ch.buffered.length =
      (p.queues r).ch.sent.length - (p.queues r).ch.received := List.length_drop
  have hle := (p.queues r).ch.received_le
  simp only [Delivery.Removed, view, List.length_map, List.length_append] at hcount hlength hremoved
  exact ⟨by omega, hremoved⟩

/-- The drainer needs five steps for an event, and a push may be under way. -/
theorem drainRank_le :
    let p := exec (step A H) (new sid) steps
    drainRank p.server.game.events.sent.length p ≤
      5 * (p.server.game.events.sent.length + 1 - p.routed.length) := by
  intro p
  have hlength : p.routed.length + p.drainer.pending.length = p.server.game.events.received :=
    length_routed A H sid steps
  have hreceived := p.server.game.events.received_le
  rcases hdrainer : p.drainer with _ | evt | ⟨q, state⟩ <;> rw [hdrainer] at hlength <;>
    simp only [drainRank, hdrainer, Drainer.pending, List.length_nil,
      List.length_singleton] at hlength ⊢
  · simp only [Drainer.left]
    omega
  · simp only [Drainer.left]
    omega
  · have hleft := Drainer.left_push_le q state
    omega

/-- A full queue and what the sender holds. -/
theorem sendRank_le (r : ℕ) :
    let p := exec (step A H) (new sid) steps
    sendRank r (p.queues r).ch.sent.length p ≤ 129 := by
  intro p
  have haccounted : (view A r p).Accounted 64 := accounted_view A H r sid steps
  have hbuffered : (p.queues r).ch.sent.length - (p.queues r).ch.received ≤ 64 :=
    List.length_drop ▸ haccounted.buffered_le
  have hheld : (p.held r).toList.length ≤ 1 := by cases p.held r <;> simp
  simp only [sendRank]
  omega

/-- When the drainer is done with the first events, they are routed, and those that were
routed to the entry have gone into its queue. -/
theorem routedFirst_le (hrank : drainRank n (exec (step A H) (new sid) steps) = 0) (r : ℕ) :
    let p := exec (step A H) (new sid) steps
    n ≤ p.routed.length ∧ (routedFirst n p r).length ≤ (p.queues r).ch.sent.length := by
  intro p
  have hlength : p.routed.length + p.drainer.pending.length = p.server.game.events.received :=
    length_routed A H sid steps
  obtain ⟨hsent, -⟩ : (p.routedTo r).length =
      (p.queues r).ch.sent.length + (p.drainer.producer r).pending.length ∧ _ :=
    length_routedTo A H sid steps r
  have hsplit : (p.routedTo r).length = (routedFirst n p r).length +
      ((p.routed.drop n).filter fun route => route.2 = some r).length := by
    rw [routedTo, routedFirst, List.length_map, List.length_map, ← List.length_append,
      ← List.filter_append, List.take_append_drop]
  have hrank : 5 * n + p.drainer.left ≤ 5 * p.server.game.events.received :=
    Nat.sub_eq_zero_iff_le.mp hrank
  rcases hdrainer : p.drainer with _ | evt | ⟨q, state⟩ <;> rw [hdrainer] at hlength hsent hrank
  · simp only [Drainer.left, Drainer.pending, Drainer.producer_idle, Push.pending,
      List.length_nil] at hlength hsent hrank
    exact ⟨by omega, by omega⟩
  · simp only [Drainer.left, Drainer.pending, Drainer.producer_lookup, Push.pending,
      List.length_nil, List.length_singleton] at hlength hsent hrank
    exact ⟨by omega, by omega⟩
  · have hleft := Drainer.left_push_pos q state
    simp only [Drainer.pending, List.length_nil] at hlength
    have hlt : n < p.routed.length := by omega
    refine ⟨hlt.le, ?_⟩
    by_cases hq : q = r
    · -- the event that is being pushed comes after the first ones
      subst hq
      obtain ⟨evt, hlast⟩ := pushing_exec A H sid steps q state hdrainer
      have hmem : (evt, some q) ∈ p.routed.drop n := by
        refine List.mem_of_getLast? ?_
        rw [List.getLast?_drop, if_neg (not_le.mpr hlt)]
        exact hlast
      have hpos := List.length_pos_of_mem (List.mem_filter.mpr ⟨hmem, decide_eq_true rfl⟩ :
        (evt, some q) ∈ (p.routed.drop n).filter fun route => route.2 = some q)
      have hone : ((Drainer.push q state).producer q).pending.length ≤ 1 := by
        cases state <;> simp [Drainer.producer, Push.pending]
      omega
    · rw [Drainer.producer_push, if_neg hq] at hsent
      simp only [Push.pending, List.length_nil] at hsent
      omega

end Reachable

/-! ## The sender of an entry -/

theorem sendRank_take {r m : ℕ} (hwaiting : p.Waiting r) {data : Bytes} {ch : Chan Bytes}
    (hrecv : (p.queues r).ch.recv = some (data, ch)) :
    sendRank r m (p.take r) ≤ sendRank r m p - 1 := by
  simp only [take, if_pos hwaiting, hrecv, sendRank, Function.update_self, hwaiting.2,
    Chan.received_of_recv hrecv, Option.toList_some, Option.toList_none, List.length_nil,
    List.length_singleton]
  omega

theorem sendRank_sent {r m : ℕ} {data : Bytes} (hheld : p.held r = some data)
    (hrunning : (p.server.entries.cell r).sending = true) :
    sendRank r m (p.sent r) ≤ sendRank r m p - 1 := by
  simp only [sent, hheld, if_pos hrunning, sendRank, Function.update_self, Option.toList_some,
    Option.toList_none, List.length_nil, List.length_singleton]
  omega

/-- What was in the queue stays there or is taken out, and the sender lets go only of what
it sends. -/
structure Advances (r : ℕ) (p p' : EventPipe) : Prop where
  sent : (p.queues r).ch.sent <+: (p'.queues r).ch.sent
  rank : ∀ m, sendRank r m p' ≤ sendRank r m p

namespace Advances

variable {r : ℕ}

theorem of_queue {p' : EventPipe} (hsent : (p.queues r).ch.sent <+: (p'.queues r).ch.sent)
    (hreceived : (p.queues r).ch.received ≤ (p'.queues r).ch.received)
    (hheld : p'.held r = p.held r) : Advances r p p' := by
  refine ⟨hsent, fun m => ?_⟩
  simp only [sendRank, hheld]
  omega

theorem of_eq {p' : EventPipe} (hqueues : p'.queues r = p.queues r) (hheld : p'.held r = p.held r) :
    Advances r p p' :=
  .of_queue (by rw [hqueues]) (by rw [hqueues]) hheld

theorem operation (r : ℕ) (p : EventPipe) : Advances r p p.operation := by
  unfold EventPipe.operation
  split
  · next q state hpush =>
    by_cases hq : q = r
    · subst hq
      obtain ⟨hsent, hreceived⟩ := (p.queues q).push_grows state
      refine .of_queue ?_ ?_ rfl <;> simp only [Function.update_self]
      · exact hsent
      · exact hreceived
    · exact .of_eq (Function.update_of_ne (Ne.symm hq) _ _) rfl
  · exact .of_eq rfl rfl

theorem take (r q : ℕ) (p : EventPipe) : Advances r p (p.take q) := by
  by_cases hwaiting : p.Waiting q
  case neg =>
    rw [EventPipe.take, if_neg hwaiting]
    exact .of_eq rfl rfl
  rcases hrecv : (p.queues q).ch.recv with _ | ⟨data, ch⟩
  · simp only [EventPipe.take, if_pos hwaiting, hrecv]
    exact .of_eq rfl rfl
  · by_cases hq : q = r
    · subst hq
      refine ⟨?_, fun m => (sendRank_take hwaiting hrecv).trans (Nat.sub_le _ _)⟩
      simp only [EventPipe.take, if_pos hwaiting, hrecv, Function.update_self]
      rw [(Chan.recv_eq_some hrecv).2.1]
    · simp only [EventPipe.take, if_pos hwaiting, hrecv]
      exact .of_eq (Function.update_of_ne (Ne.symm hq) _ _) (Function.update_of_ne (Ne.symm hq) _ _)

theorem sent' (r q : ℕ) (p : EventPipe) : Advances r p (p.sent q) := by
  rcases hheld : p.held q with _ | data
  · simp only [EventPipe.sent, hheld]
    exact .of_eq rfl rfl
  by_cases hrunning : (p.server.entries.cell q).sending = true
  case neg =>
    simp only [EventPipe.sent, hheld, if_neg hrunning]
    exact .of_eq rfl rfl
  by_cases hq : q = r
  · subst hq
    refine ⟨?_, fun m => (sendRank_sent hheld hrunning).trans (Nat.sub_le _ _)⟩
    simp only [EventPipe.sent, hheld, if_pos hrunning, List.prefix_rfl]
  · simp only [EventPipe.sent, hheld, if_pos hrunning]
    exact .of_eq rfl (Function.update_of_ne (Ne.symm hq) _ _)

theorem step (A : Adapter) (H : Host) (r : ℕ) (p : EventPipe) (stp : PipeStep) :
    Advances r p (p.step A H stp) := by
  cases stp with
  | relay stp =>
    simp only [EventPipe.step]
    split_ifs <;> exact .of_eq rfl rfl
  | drain =>
    simp only [EventPipe.step, drain]
    split <;> exact .of_eq rfl rfl
  | lookup =>
    simp only [EventPipe.step, EventPipe.lookup]
    split <;> exact .of_eq rfl rfl
  | operation => exact operation r p
  | take q => exact take r q p
  | sent q => exact sent' r q p

end Advances

/-- Each step of a running sender brings it forward, as long as there are packets. -/
theorem sendRank_sender {r m : ℕ} (hm : m ≤ (p.queues r).ch.sent.length)
    (hrunning : (p.server.entries.cell r).sending = true) :
    sendRank r m (p.turn A H (.sender r)) ≤ sendRank r m p - 1 := by
  rcases hheld : p.held r with _ | data <;> simp only [turn, PipeTurn.step, hheld]
  · have hwaiting : p.Waiting r := ⟨hrunning, hheld⟩
    rcases hrecv : (p.queues r).ch.recv with _ | ⟨data, ch⟩
    · -- the queue is empty, and nothing is left of the first packets
      have hall : (p.queues r).ch.sent.length ≤ (p.queues r).ch.received :=
        List.drop_eq_nil_iff.mp (Chan.recv_eq_none hrecv)
      have hsame : p.take r = p := by simp only [take, hrecv, ite_self]
      have hzero : sendRank r m p = 0 := by
        simp only [sendRank, hheld, Option.toList_none, List.length_nil]
        omega
      exact (congrArg (sendRank r m) hsame).trans_le (by omega)
    · exact sendRank_take hwaiting hrecv
  · exact sendRank_sent hheld hrunning

/-- Over a run, every turn of a sender that is not stopped brings it forward. -/
theorem sendRank_turns {r m : ℕ} {turns : List PipeTurn}
    (hrunning : Along (turn A H) (fun p _ => (p.server.entries.cell r).sending = true) p turns)
    (hm : m ≤ (p.queues r).ch.sent.length) :
    sendRank r m (exec (turn A H) p turns) ≤
      sendRank r m p - turns.countP (PipeTurn.ofSender r) :=
  hrunning.rank_le (fun q => m ≤ (q.queues r).ch.sent.length)
    (fun q t hq _ => hq.trans (Advances.step A H r q (t.step q)).sent.length_le)
    (fun q t _ _ => (Advances.step A H r q (t.step q)).rank m)
    (fun q t hq hrun ht => by
      cases t with
      | sender q' =>
        obtain rfl : q' = r := of_decide_eq_true ht
        exact sendRank_sender hq hrun
      | _ => cases ht) hm

/-- Whatever everybody else does: when the drainer has taken five steps for every event
that waits to be routed, and five more, the events that had been published are the first
that were routed, in their order. When then the sender of an
entry takes as many steps as it needs for a full queue, without being stopped, the packets
of those that were routed to the entry have left its queue: as many were sent or counted
as dropped. -/
theorem slow_clients_stall_nobody (A : Adapter) (H : Host) (sid : ServerID)
    (steps : List PipeStep) (first second : List PipeTurn) (r : ℕ) :
    let p := exec (step A H) (new sid) steps
    let n := p.server.game.events.sent.length
    let p₁ := exec (turn A H) p first
    let p₂ := exec (turn A H) p₁ second
    5 * (n + 1 - p.routed.length) ≤ first.countP PipeTurn.ofDrainer →
      (p₁.routed.take n).map Prod.fst = p.server.game.events.sent ∧
        (129 ≤ second.countP (PipeTurn.ofSender r) →
          Along (turn A H) (fun p _ => (p.server.entries.cell r).sending = true) p₁ second →
          (routedFirst n p₁ r).length ≤ (p₂.sentBy r).length + (p₂.queues r).drops) := by
  intro p n p₁ p₂ hfirst
  obtain ⟨more, hmore⟩ := exists_steps A H p first
  have hp₁ : p₁ = exec (step A H) (new sid) (steps ++ more) := hmore.trans (exec_append ..).symm
  have hdone : drainRank n p₁ = 0 := by
    have hrank : drainRank n p₁ ≤ drainRank n p - first.countP PipeTurn.ofDrainer :=
      drainRank_turns n first le_rfl
    have hstart : drainRank n p ≤ 5 * (n + 1 - p.routed.length) := drainRank_le A H sid steps
    omega
  obtain ⟨hall, hqueued⟩ : n ≤ p₁.routed.length ∧
      (routedFirst n p₁ r).length ≤ (p₁.queues r).ch.sent.length := by
    rw [hp₁] at hdone ⊢
    exact routedFirst_le A H sid _ hdone r
  have hsent : p.server.game.events.sent <+: p₁.routed.map Prod.fst := by
    have hdrained := (routed_exec A H sid (steps ++ more)).drained
    rw [← hp₁] at hdrained
    have hrouted : p₁.routed.map Prod.fst <+: p₁.server.game.events.sent :=
      (List.prefix_append _ _).trans (hdrained ▸ List.take_prefix _ _)
    exact List.prefix_of_prefix_length_le (events_turns first) hrouted (by simpa using hall)
  refine ⟨?_, fun hsecond hrunning => ?_⟩
  · rw [List.map_take]
    exact (List.prefix_iff_eq_take.mp hsent).symm
  -- everything that is in the queue now
  set m := (p₁.queues r).ch.sent.length with hm
  have hgone : sendRank r m p₂ = 0 := by
    have hrank : sendRank r m p₂ ≤ sendRank r m p₁ - second.countP (PipeTurn.ofSender r) :=
      sendRank_turns hrunning le_rfl
    have hstart : sendRank r m p₁ ≤ 129 := by
      rw [hm, hp₁]
      exact sendRank_le A H sid _ r
    omega
  obtain ⟨more', hmore'⟩ := exists_steps A H p₁ second
  have hp₂ : p₂ = exec (step A H) (new sid) (steps ++ more ++ more') := by
    rw [exec_append, ← hp₁]
    exact hmore'
  have hreceived : (p₂.queues r).ch.received =
      (p₂.sentBy r).length + (p₂.held r).toList.length + (p₂.queues r).drops := by
    rw [hp₂]
    exact (length_routedTo A H sid _ r).2
  have hheld : (p₂.held r).toList.length ≤ 1 := by cases p₂.held r <;> simp
  simp only [sendRank] at hgone
  omega

/-- A sender does not stop by sending. -/
theorem server_sender (A : Adapter) (H : Host) (p : EventPipe) (r : ℕ) :
    (p.turn A H (.sender r)).server = p.server := by
  simp only [turn, PipeTurn.step]
  split_ifs
  · exact (p.sent_frame r).1
  · exact (p.take_frame r).1

/-- Two clients connect and come into each other's view, and the first is told. -/
theorem arrival_is_announced_in_time :
    let A : Adapter := ⟨fun _ => none, Adapter.unary _, Adapter.unary _, Adapter.unary _⟩
    let H := Host.steady Vector3.zero
    let join (s : StreamID) (id : String) : List PipeStep :=
      [.relay (.recv s ⟨id, .connect, "", []⟩), .relay (.act s 0), .relay (.act s 0),
        .relay (.act s 0)]
    let steps := join 1 "a" ++ join 2 "b" ++ [.relay (.call .applyCmd), .relay (.call .applyCmd),
      .relay (.call (.updateVisibility defaultZoneID .any))]
    let p₁ := exec (turn A H) (exec (step A H) (new "gs-1") steps) (List.replicate 15 .drainer)
    let p₂ := exec (turn A H) p₁ (List.replicate 129 (.sender 0))
    (routedFirst 2 p₁ 0).length = 1 ∧ 1 ≤ (p₂.sentBy 0).length + (p₂.queues 0).drops := by
  intro A H join steps p₁ p₂
  have hrouted : (routedFirst 2 p₁ 0).length = 1 := by decide +kernel
  have hrunning : Along (turn A H) (fun p _ => (p.server.entries.cell 0).sending = true) p₁
      (List.replicate 129 (.sender 0)) := by
    have hsender : Along (turn A H) (fun _ t => t = .sender 0) p₁ (List.replicate 129 (.sender 0)) :=
      .of_forall_mem fun _ _ ht => List.eq_of_mem_replicate ht
    refine hsender.of_invariant (fun p => (p.server.entries.cell 0).sending = true) ?_
      (by decide +kernel)
    rintro p _ hp rfl
    exact ⟨hp, by rw [server_sender]; exact hp⟩
  have hleft := slow_clients_stall_nobody A H "gs-1" steps (List.replicate 15 .drainer)
    (List.replicate 129 (.sender 0)) 0 (by decide +kernel)
  have hevents : (exec (step A H) (new "gs-1") steps).server.game.events.sent.length = 2 := by
    decide +kernel
  have hcount : 129 ≤ (List.replicate 129 (PipeTurn.sender 0)).countP (PipeTurn.ofSender 0) := by
    rw [List.countP_replicate]
    exact le_rfl
  have hsent := hleft.2 hcount hrunning
  rw [hevents] at hsent
  subst p₂ p₁
  exact ⟨hrouted, hrouted.ge.trans hsent⟩

end EventPipe

end SpatialServer

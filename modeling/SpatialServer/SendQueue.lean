import SpatialServer.Containers
import SpatialServer.Runs

/-!
# The send queue of a client

The events of a client go through a bounded channel whose producer never
blocks. A push tries to send; if the channel is full it takes the oldest item
out, counts it as dropped, and tries again. Each of the three is one operation
on the channel, and the goroutine that sends to the client may receive between
any two of them. The channel can thus be full, emptied or refilled in the middle
of a push, and the last attempt has a case for failure as well. With one producer
it is never taken: what made room stays until the item is in.
-/
namespace SpatialServer

open Runs

structure BoundedSendQueue (α : Type*) where
  ch : Chan α
  drops : ℕ

/-- Where the producer is: between two pushes, or before one of the three
operations of a push. -/
inductive Push (α : Type*) where
  | idle
  | trySend (data : α)
  | dropOldest (data : α)
  | retrySend (data : α)
  deriving DecidableEq

namespace Push

variable {α : Type*}

/-- The item of the push that is under way. -/
def pending : Push α → List α
  | .idle => []
  | .trySend data | .dropOldest data | .retrySend data => [data]

end Push

namespace BoundedSendQueue

variable {α : Type*}

def new (capacity : ℕ) : BoundedSendQueue α := ⟨.make capacity, 0⟩

/-- The next operation of a push. -/
def push (q : BoundedSendQueue α) : Push α → BoundedSendQueue α × Push α
  | .idle => (q, .idle)
  | .trySend data =>
    match q.ch.trySend data with
    | some ch => (⟨ch, q.drops⟩, .idle)
    | none => (q, .dropOldest data)
  | .dropOldest data =>
    match q.ch.recv with
    | some (_, ch) => (⟨ch, q.drops + 1⟩, .retrySend data)
    | none => (q, .retrySend data)
  | .retrySend data =>
    match q.ch.trySend data with
    | some ch => (⟨ch, q.drops⟩, .idle)
    -- the new item itself is dropped
    | none => (⟨q.ch, q.drops + 1⟩, .idle)

end BoundedSendQueue

/-- A queue between its producer and its consumer, with the items that were
given to `push` and those that the consumer received. -/
structure Delivery (α : Type*) where
  queue : BoundedSendQueue α
  producer : Push α
  pushed : List α
  received : List α

namespace Delivery

variable {α : Type*}

inductive Event (α : Type*) where
  | push (data : α)
  | operation
  | receive

def new (capacity : ℕ) : Delivery α := ⟨.new capacity, .idle, [], []⟩

/-- The one producer begins a push when the last one has returned. -/
def step (d : Delivery α) : Event α → Delivery α
  | .push data =>
    match d.producer with
    | .idle => { d with producer := .trySend data, pushed := d.pushed ++ [data] }
    | _ => d
  | .operation =>
    { d with queue := (d.queue.push d.producer).1, producer := (d.queue.push d.producer).2 }
  | .receive =>
    match d.queue.ch.recv with
    | some (data, ch) => { d with queue := ⟨ch, d.queue.drops⟩, received := d.received ++ [data] }
    | none => d

/-- The items of the pushes that have returned are received, buffered or
dropped, and the first two kinds keep their order. A push that is about to retry
finds room. -/
structure Accounted (capacity : ℕ) (d : Delivery α) : Prop where
  cap_eq : d.queue.ch.cap = capacity
  buffered_le : d.queue.ch.buffered.length ≤ capacity
  settled : ∃ items, d.pushed = items ++ d.producer.pending ∧
    items.length = d.received.length + d.queue.ch.buffered.length + d.queue.drops ∧
    (d.received ++ d.queue.ch.buffered).Sublist items
  room : ∀ data, d.producer = .retrySend data → d.queue.ch.buffered.length < capacity

theorem accounted_new (capacity : ℕ) : (new capacity : Delivery α).Accounted capacity where
  cap_eq := rfl
  buffered_le := Nat.zero_le _
  settled := ⟨[], rfl, rfl, .slnil⟩
  room := by simp [new]

section Steps

variable {capacity : ℕ} {d : Delivery α} {ch : Chan α} {data : α}

/-- Another operation of the same push is next, and the channel is as it was. -/
theorem Accounted.turn (h : d.Accounted capacity) {producer : Push α}
    (hpending : d.producer.pending = producer.pending)
    (hroom : ∀ data, producer = .retrySend data → d.queue.ch.buffered.length < capacity) :
    Accounted capacity { d with producer := producer } := by
  obtain ⟨items, hpushed, hrest⟩ := h.settled
  exact ⟨h.cap_eq, h.buffered_le, ⟨items, hpushed.trans (by rw [hpending]), hrest⟩, hroom⟩

/-- The push returns with its item at the end of the channel. -/
theorem Accounted.enqueue (h : d.Accounted capacity) (hpending : d.producer.pending = [data])
    (hsend : d.queue.ch.trySend data = some ch) :
    Accounted capacity { d with queue := ⟨ch, d.queue.drops⟩, producer := .idle } := by
  obtain ⟨hroom, hbuffered, hcap⟩ := Chan.trySend_eq_some hsend
  obtain ⟨items, hpushed, hlength, hsub⟩ := h.settled
  have hmore : ch.buffered.length = d.queue.ch.buffered.length + 1 := by simp [hbuffered]
  refine ⟨hcap.trans h.cap_eq, ?_, ⟨items ++ [data], ?_, ?_, ?_⟩, by simp⟩
  · rw [h.cap_eq] at hroom
    exact hmore.trans_le hroom
  · rw [hpushed, hpending]
    exact (List.append_nil _).symm
  · simp only [List.length_append, List.length_singleton, hmore]
    omega
  · rw [hbuffered, ← List.append_assoc]
    exact hsub.append (List.Sublist.refl [data])

/-- The oldest item is dropped and counted. -/
theorem Accounted.dropOldest {oldest : α} (h : d.Accounted capacity)
    (hpending : d.producer.pending = [data]) (hrecv : d.queue.ch.recv = some (oldest, ch)) :
    Accounted capacity
      { d with queue := ⟨ch, d.queue.drops + 1⟩, producer := .retrySend data } := by
  obtain ⟨hbuffered, -, hcap⟩ := Chan.recv_eq_some hrecv
  obtain ⟨items, hpushed, hlength, hsub⟩ := h.settled
  have hless : d.queue.ch.buffered.length = ch.buffered.length + 1 := by simp [hbuffered]
  have hle : ch.buffered.length < capacity := hless.symm.trans_le h.buffered_le
  refine ⟨hcap.trans h.cap_eq, hle.le, ⟨items, ?_, ?_, ?_⟩, fun _ _ => hle⟩
  · rw [hpushed, hpending]
    rfl
  · dsimp only
    omega
  · rw [hbuffered] at hsub
    exact ((List.sublist_cons_self oldest ch.buffered).append_left d.received).trans hsub

theorem Accounted.receive {oldest : α} (h : d.Accounted capacity)
    (hrecv : d.queue.ch.recv = some (oldest, ch)) :
    Accounted capacity
      { d with queue := ⟨ch, d.queue.drops⟩, received := d.received ++ [oldest] } := by
  obtain ⟨hbuffered, -, hcap⟩ := Chan.recv_eq_some hrecv
  obtain ⟨items, hpushed, hlength, hsub⟩ := h.settled
  have hless : d.queue.ch.buffered.length = ch.buffered.length + 1 := by simp [hbuffered]
  have hle : ch.buffered.length < d.queue.ch.buffered.length := by omega
  refine ⟨hcap.trans h.cap_eq, hle.le.trans h.buffered_le, ⟨items, hpushed, ?_, ?_⟩, ?_⟩
  · simp only [List.length_append, List.length_singleton]
    omega
  · rw [hbuffered] at hsub
    simpa using hsub
  · exact fun data hproducer => hle.trans (h.room data hproducer)

/-- The last attempt of a push does not fail. -/
theorem Accounted.exists_retrySend (h : d.Accounted capacity)
    (hproducer : d.producer = .retrySend data) : ∃ ch, d.queue.ch.trySend data = some ch := by
  rcases hsend : d.queue.ch.trySend data with _ | ch
  · have hfull := Chan.trySend_eq_none_iff.mp hsend
    rw [h.cap_eq] at hfull
    exact absurd (h.room data hproducer) (not_lt.mpr hfull)
  · exact ⟨ch, rfl⟩

/-- What the next operation of a push can be. -/
theorem Accounted.operation_cases (h : d.Accounted capacity)
    (hpending : d.producer.pending = [data]) :
    (∃ ch, d.queue.ch.trySend data = some ch ∧
      d.step .operation = { d with queue := ⟨ch, d.queue.drops⟩, producer := .idle }) ∨
    (d.step .operation = { d with producer := .dropOldest data }) ∨
    (d.queue.ch.recv = none ∧ d.step .operation = { d with producer := .retrySend data }) ∨
    (∃ oldest ch, d.queue.ch.recv = some (oldest, ch) ∧ d.step .operation =
      { d with queue := ⟨ch, d.queue.drops + 1⟩, producer := .retrySend data }) := by
  rcases hproducer : d.producer with _ | item | item | item <;>
    simp only [hproducer, Push.pending, List.cons.injEq, and_true, reduceCtorEq] at hpending <;>
    subst hpending
  · rcases hsend : d.queue.ch.trySend item with _ | ch
    · exact .inr (.inl (by simp [step, BoundedSendQueue.push, hproducer, hsend]))
    · exact .inl ⟨ch, rfl, by simp [step, BoundedSendQueue.push, hproducer, hsend]⟩
  · rcases hrecv : d.queue.ch.recv with _ | ⟨oldest, ch⟩
    · exact .inr (.inr (.inl ⟨rfl, by simp [step, BoundedSendQueue.push, hproducer, hrecv]⟩))
    · refine .inr (.inr (.inr ⟨oldest, ch, rfl, ?_⟩))
      simp [step, BoundedSendQueue.push, hproducer, hrecv]
  · obtain ⟨ch, hsend⟩ := h.exists_retrySend hproducer
    exact .inl ⟨ch, hsend, by simp [step, BoundedSendQueue.push, hproducer, hsend]⟩

theorem Accounted.operation (hcapacity : 1 ≤ capacity) (h : d.Accounted capacity)
    (hpending : d.producer.pending = [data]) : (d.step .operation).Accounted capacity := by
  obtain ⟨ch, hsend, hstep⟩ | hstep | ⟨hrecv, hstep⟩ | ⟨oldest, ch, hrecv, hstep⟩ :=
    h.operation_cases hpending <;> rw [hstep]
  · exact h.enqueue hpending hsend
  · exact h.turn hpending (by simp)
  · -- the consumer has emptied the channel in the meantime
    refine h.turn hpending fun _ _ => ?_
    rw [Chan.recv_eq_none hrecv]
    exact hcapacity
  · exact h.dropOldest hpending hrecv

theorem Accounted.step (hcapacity : 1 ≤ capacity) (h : d.Accounted capacity) (ev : Event α) :
    (d.step ev).Accounted capacity := by
  cases ev with
  | push data =>
    rcases hproducer : d.producer with _ | item | item | item <;>
      simp only [Delivery.step, hproducer]
    · obtain ⟨items, hpushed, hrest⟩ := h.settled
      refine ⟨h.cap_eq, h.buffered_le, ⟨items, ?_, hrest⟩, by simp⟩
      rw [hpushed, hproducer]
      simp [Push.pending]
    all_goals exact h
  | operation =>
    rcases hproducer : d.producer with _ | item | item | item
    · simpa [Delivery.step, BoundedSendQueue.push, hproducer] using hproducer ▸ h
    all_goals exact h.operation hcapacity (by rw [hproducer]; rfl)
  | receive =>
    rcases hrecv : d.queue.ch.recv with _ | ⟨oldest, ch⟩ <;> simp only [Delivery.step, hrecv]
    · exact h
    · exact h.receive hrecv

/-- The step in which a push returns puts its item at the end of the channel. -/
theorem Accounted.enqueued (h : d.Accounted capacity) {ev : Event α}
    (hpending : d.producer.pending = [data]) (hreturns : (d.step ev).producer = .idle) :
    (d.step ev).queue.ch.buffered = d.queue.ch.buffered ++ [data] := by
  have hbusy : d.producer ≠ .idle := by
    intro hidle
    simp [hidle, Push.pending] at hpending
  cases ev with
  | push other =>
    rcases hproducer : d.producer with _ | item | item | item <;>
      simp [Delivery.step, hproducer] at hreturns
  | operation =>
    obtain ⟨ch, hsend, hstep⟩ | hstep | ⟨hrecv, hstep⟩ | ⟨oldest, ch, hrecv, hstep⟩ :=
      h.operation_cases hpending <;> rw [hstep] at hreturns ⊢
    · exact (Chan.trySend_eq_some hsend).2.1
    all_goals simp at hreturns
  | receive =>
    exfalso
    simp only [Delivery.step] at hreturns
    split at hreturns
    · exact hbusy hreturns
    · exact hbusy hreturns

end Steps

theorem accounted_exec {capacity : ℕ} (hcapacity : 1 ≤ capacity) (evs : List (Event α)) :
    (exec step (new capacity) evs).Accounted capacity := by
  refine exec_keeps (Accounted capacity) (fun d ev h => ?_) (accounted_new capacity) evs
  exact h.step hcapacity ev

/-- Whatever the schedule, the channel keeps to its capacity, a push ends with
its own item enqueued, nothing is lost without being counted, and the items that
get through do so once and in the order in which they were pushed. -/
theorem send_queue_drops_oldest (capacity : ℕ) (hcapacity : 1 ≤ capacity)
    (evs : List (Event α)) :
    let d := exec step (new capacity) evs
    d.queue.ch.buffered.length ≤ capacity ∧
      (∀ ev data, d.producer.pending = [data] → (d.step ev).producer = .idle →
        (d.step ev).queue.ch.buffered = d.queue.ch.buffered ++ [data]) ∧
      (d.producer = .idle →
        d.pushed.length = d.received.length + d.queue.ch.buffered.length + d.queue.drops) ∧
      (d.received ++ d.queue.ch.buffered).Sublist d.pushed ∧
      (d.pushed.Nodup → (d.received ++ d.queue.ch.buffered).Nodup) := by
  intro d
  have h : d.Accounted capacity := accounted_exec hcapacity evs
  obtain ⟨items, hpushed, hlength, hsub⟩ := h.settled
  have hall : (d.received ++ d.queue.ch.buffered).Sublist d.pushed := by
    rw [hpushed]
    exact hsub.trans (List.sublist_append_left items _)
  refine ⟨h.buffered_le, fun ev data => h.enqueued, fun hidle => ?_, hall, hall.nodup⟩
  rw [hpushed, hidle]
  simpa [Push.pending] using hlength

/-- Three items through a channel of capacity one; the consumer receives in the
middle of the last push, when the channel was found full. -/
theorem send_queue_of_one :
    let evs : List (Event ℕ) := [.push 1, .operation, .push 2, .operation, .operation, .operation,
      .push 3, .operation, .receive, .operation, .operation]
    let d := exec step (new 1) evs
    d.received = [2] ∧ d.queue.ch.buffered = [3] ∧ d.queue.drops = 1 ∧ d.producer = .idle ∧
      d.pushed.length = d.received.length + d.queue.ch.buffered.length + d.queue.drops := by
  refine ⟨by decide, by decide, by decide, by decide, ?_⟩
  exact (send_queue_drops_oldest 1 le_rfl _).2.2.1 (by decide)

end Delivery

end SpatialServer

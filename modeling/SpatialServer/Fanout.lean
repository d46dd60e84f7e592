import Mathlib
import SpatialServer.Containers
import SpatialServer.Runs

/-!
# The fan-out of ownership changes

Every watcher has a channel, made when it subscribes and closed when it
unsubscribes. A broadcast offers its change to each channel in turn and skips
those that are full. Subscribing, unsubscribing and broadcasting hold one lock,
and receiving does not: a watcher may receive between two sends of a broadcast,
and after its channel was closed until it is empty. To say what a watcher should
receive, the model keeps the log of all broadcasts, and for every channel the
places in the log where it was made and closed.
-/
namespace SpatialServer

open Runs

variable {α : Type*}

/-- A channel, and how long the log was when it was made and when it was closed. -/
structure Subscription (α : Type*) where
  ch : Chan α
  openedAt : ℕ
  closedAt : Option ℕ

instance : Inhabited (Subscription α) := ⟨⟨.make 16, 0, none⟩⟩

/-- What the runtime answers with a panic. -/
inductive ChannelFault where
  | sendOnClosed
  | closeOfClosed
  deriving DecidableEq, Repr

/-- `sending` is the broadcast that holds the lock: its change and the channels
that it has yet to offer it to. -/
structure WatcherFanout (α : Type*) where
  channels : Dict String ℕ
  nextID : ℕ
  heap : Heap (Subscription α)
  sending : Option (α × List ℕ)
  issued : List String
  broadcasts : List α
  faults : List ChannelFault

namespace WatcherFanout

def new : WatcherFanout α := ⟨∅, 0, .empty, none, [], [], []⟩

def watcherID (n : ℕ) : String := "w" ++ toString n

/-- The channel with this reference is closed from now on. -/
def close (f : WatcherFanout α) (r : ℕ) : WatcherFanout α :=
  match (f.heap.cell r).closedAt with
  | some _ => { f with faults := .closeOfClosed :: f.faults }
  | none =>
    { f with heap := f.heap.write r { f.heap.cell r with closedAt := some f.broadcasts.length } }

/-- A send that does not wait: on a full channel it does nothing. -/
def offer (f : WatcherFanout α) (r : ℕ) (change : α) : WatcherFanout α :=
  match (f.heap.cell r).closedAt with
  | some _ => { f with faults := .sendOnClosed :: f.faults }
  | none =>
    match (f.heap.cell r).ch.trySend change with
    | some ch => { f with heap := f.heap.write r { f.heap.cell r with ch := ch } }
    | none => f

def subscribe (f : WatcherFanout α) : WatcherFanout α :=
  { f with
    nextID := f.nextID + 1
    channels := f.channels.set (watcherID (f.nextID + 1)) f.heap.next
    heap := f.heap.alloc ⟨.make 16, f.broadcasts.length, none⟩
    issued := f.issued ++ [watcherID (f.nextID + 1)] }

def unsubscribe (f : WatcherFanout α) (id : String) : WatcherFanout α :=
  match f.channels.get id with
  | some r => { f.close r with channels := f.channels.del id }
  | none => f

/-- A broadcast takes the lock, and will go through the channels in some order. -/
def broadcast (f : WatcherFanout α) (change : α) (order : List String) : WatcherFanout α :=
  { f with
    sending := some (change, (f.channels.range order).filterMap f.channels.get)
    broadcasts := f.broadcasts ++ [change] }

/-- A receive from a channel, which takes the oldest item if there is one. -/
def receive (f : WatcherFanout α) (r : ℕ) : WatcherFanout α :=
  match (f.heap.cell r).ch.recv with
  | some (_, ch) => { f with heap := f.heap.write r { f.heap.cell r with ch := ch } }
  | none => f

inductive Event (α : Type*) where
  | subscribe
  | unsubscribe (id : String)
  | broadcast (change : α) (order : List String)
  | send
  | receive (r : ℕ)

/-- Who needs the lock while it is held has to wait, and does nothing. -/
def step (f : WatcherFanout α) : Event α → WatcherFanout α
  | .subscribe => if f.sending.isNone then f.subscribe else f
  | .unsubscribe id => if f.sending.isNone then f.unsubscribe id else f
  | .broadcast change order => if f.sending.isNone then f.broadcast change order else f
  | .send =>
    match f.sending with
    | some (change, r :: rest) => { f.offer r change with sending := some (change, rest) }
    | some (_, []) => { f with sending := none }
    | none => f
  | .receive r => if r < f.heap.next then f.receive r else f

/-! ## The references -/

/-- What was broadcast between the subscription and its end, or until now. -/
def window (f : WatcherFanout α) (r : ℕ) : List α :=
  (f.broadcasts.take ((f.heap.cell r).closedAt.getD f.broadcasts.length)).drop
    (f.heap.cell r).openedAt

/-- What is being broadcast and has not been offered to this channel yet. -/
def inFlight (f : WatcherFanout α) (r : ℕ) : List α :=
  match f.sending with
  | some (change, rest) => if r ∈ rest then [change] else []
  | none => []

/-- What the watcher has received. -/
def received (f : WatcherFanout α) (r : ℕ) : List α :=
  (f.heap.cell r).ch.sent.take (f.heap.cell r).ch.received

/-- The channel is full when a broadcast comes to it. -/
def Overruns (r : ℕ) (f : WatcherFanout α) : Event α → Prop
  | .send => ∃ change rest, f.sending = some (change, r :: rest) ∧
      16 ≤ (f.heap.cell r).ch.buffered.length
  | _ => False

/-- The open channels are those in the map, each under one name that was issued,
and a broadcast goes through open channels only. -/
structure Wired (f : WatcherFanout α) : Prop where
  issued : f.issued = (List.range f.nextID).map fun n => watcherID (n + 1)
  faults : f.faults = []
  named : ∀ id r, f.channels.get id = some r →
    id ∈ f.issued ∧ r < f.heap.next ∧ (f.heap.cell r).closedAt = none
  unique : ∀ id id' r, f.channels.get id = some r → f.channels.get id' = some r → id = id'
  listed : ∀ r < f.heap.next, (f.heap.cell r).closedAt = none →
    ∃ id, f.channels.get id = some r
  lock : ∀ change rest, f.sending = some (change, rest) →
    rest.Nodup ∧ ∀ r ∈ rest, r < f.heap.next ∧ (f.heap.cell r).closedAt = none
  log : ∀ r < f.heap.next, (f.heap.cell r).ch.cap = 16 ∧
    (f.heap.cell r).openedAt ≤ f.broadcasts.length ∧
    (f.heap.cell r).closedAt.getD 0 ≤ f.broadcasts.length

theorem wired_new : Wired (new : WatcherFanout α) := by
  constructor <;> simp [new, Heap.empty]

theorem watcherID_injective {m n : ℕ} (h : watcherID m = watcherID n) : m = n :=
  Nat.repr_inj.mp (String.append_right_inj "w" |>.mp h)

namespace Wired

variable {f : WatcherFanout α}

/-- An identifier is new when it is issued. -/
theorem nextID_fresh (h : Wired f) : watcherID (f.nextID + 1) ∉ f.issued := by
  rw [h.issued]
  intro hmem
  obtain ⟨n, hn, heq⟩ := List.mem_map.mp hmem
  have := watcherID_injective heq
  have := List.mem_range.mp hn
  omega

theorem nodup_issued (h : Wired f) : f.issued.Nodup := by
  rw [h.issued]
  refine List.nodup_range.map fun m n heq => ?_
  exact Nat.succ.inj (watcherID_injective heq)

/-- What goes through a channel is of no concern to the references. -/
theorem setChan (h : Wired f) {r : ℕ} {ch : Chan α} (hcap : ch.cap = (f.heap.cell r).ch.cap) :
    Wired { f with heap := f.heap.write r { f.heap.cell r with ch := ch } } := by
  have hsame : ∀ q, ((f.heap.write r { f.heap.cell r with ch := ch }).cell q).closedAt =
        (f.heap.cell q).closedAt ∧
      ((f.heap.write r { f.heap.cell r with ch := ch }).cell q).openedAt =
        (f.heap.cell q).openedAt ∧
      ((f.heap.write r { f.heap.cell r with ch := ch }).cell q).ch.cap =
        (f.heap.cell q).ch.cap := by
    intro q
    by_cases hq : q = r
    · subst hq
      simp [hcap]
    · simp [hq]
  constructor
  case issued => exact h.issued
  case faults => exact h.faults
  case unique => exact h.unique
  case named =>
    intro id q hget
    rw [(hsame q).1]
    exact h.named id q hget
  case listed =>
    intro q hq hopen
    rw [(hsame q).1] at hopen
    exact h.listed q hq hopen
  case lock =>
    intro change rest hsending
    refine ⟨(h.lock change rest hsending).1, fun q hq => ?_⟩
    rw [(hsame q).1]
    exact (h.lock change rest hsending).2 q hq
  case log =>
    intro q hq
    rw [(hsame q).1, (hsame q).2.1, (hsame q).2.2]
    exact h.log q hq

theorem receive (h : Wired f) (r : ℕ) : Wired (f.receive r) := by
  unfold WatcherFanout.receive
  split
  · next hrecv => exact h.setChan (Chan.recv_eq_some hrecv).2.2
  · exact h

/-- A broadcast offers its change to open channels, so that nothing fails. -/
theorem offer_eq (h : Wired f) {r : ℕ} {change : α} {rest : List ℕ}
    (hsending : f.sending = some (change, r :: rest)) :
    f.offer r change = match (f.heap.cell r).ch.trySend change with
      | some ch => { f with heap := f.heap.write r { f.heap.cell r with ch := ch } }
      | none => f := by
  have hopen := ((h.lock change _ hsending).2 r (by simp)).2
  simp [offer, hopen]

theorem offer (h : Wired f) {r : ℕ} {change : α} {rest : List ℕ}
    (hsending : f.sending = some (change, r :: rest)) : Wired (f.offer r change) := by
  rw [h.offer_eq hsending]
  split
  · next hsend => exact h.setChan (Chan.trySend_eq_some hsend).2.2
  · exact h

/-- The broadcast that holds the lock goes on, or lets go of it. -/
theorem setSending (h : Wired f) {sending : Option (α × List ℕ)}
    (hlock : ∀ change rest, sending = some (change, rest) →
      rest.Nodup ∧ ∀ r ∈ rest, r < f.heap.next ∧ (f.heap.cell r).closedAt = none) :
    Wired { f with sending := sending } :=
  ⟨h.issued, h.faults, h.named, h.unique, h.listed, hlock, h.log⟩

theorem send (h : Wired f) : Wired (f.step .send) := by
  simp only [WatcherFanout.step]
  split
  · next change r rest hsending =>
    have hoffer := h.offer hsending
    have hsame : (f.offer r change).sending = f.sending := by
      rw [h.offer_eq hsending]
      split <;> rfl
    refine hoffer.setSending fun change' rest' heq => ?_
    obtain ⟨rfl, rfl⟩ := Prod.mk.inj (Option.some.inj heq)
    obtain ⟨hnodup, hopen⟩ := hoffer.lock change _ (hsame.trans hsending)
    exact ⟨(List.nodup_cons.mp hnodup).2, fun q hq => hopen q (by simp [hq])⟩
  · exact h.setSending (by simp)
  · exact h

theorem subscribe (h : Wired f) (hfree : f.sending = none) : Wired f.subscribe := by
  have hget : ∀ id, f.subscribe.channels.get id =
      if id = watcherID (f.nextID + 1) then some f.heap.next else f.channels.get id :=
    fun id => Dict.get_set ..
  have hold : ∀ q < f.heap.next, f.subscribe.heap.cell q = f.heap.cell q :=
    fun q hq => f.heap.cell_alloc_of_lt _ hq
  have hmade : f.subscribe.heap.cell f.heap.next = ⟨.make 16, f.broadcasts.length, none⟩ :=
    f.heap.cell_alloc_next _
  -- a reference is an old one, or the one that was made
  have hcases : ∀ q < f.subscribe.heap.next, q < f.heap.next ∨ q = f.heap.next :=
    fun q hq => Nat.lt_succ_iff_lt_or_eq.mp hq
  constructor
  case issued => simp [WatcherFanout.subscribe, h.issued, List.range_succ]
  case faults => exact h.faults
  case named =>
    intro id q hq
    rw [hget] at hq
    split_ifs at hq with hid
    · obtain rfl := Option.some.inj hq
      exact ⟨by simp [WatcherFanout.subscribe, hid], Nat.lt_succ_self _, by rw [hmade]⟩
    · obtain ⟨hissued, hlt, hopen⟩ := h.named id q hq
      exact ⟨by simp [WatcherFanout.subscribe, hissued], hlt.trans (Nat.lt_succ_self _),
        by rw [hold q hlt, hopen]⟩
  case unique =>
    intro id id' q hq hq'
    rw [hget] at hq hq'
    split_ifs at hq hq' with hid hid' hid'
    · exact hid.trans hid'.symm
    · obtain rfl := Option.some.inj hq
      exact absurd (h.named id' _ hq').2.1 (lt_irrefl _)
    · obtain rfl := Option.some.inj hq'
      exact absurd (h.named id _ hq).2.1 (lt_irrefl _)
    · exact h.unique id id' q hq hq'
  case listed =>
    intro q hq hopen
    rcases hcases q hq with hlt | rfl
    · rw [hold q hlt] at hopen
      obtain ⟨id, hid⟩ := h.listed q hlt hopen
      refine ⟨id, ?_⟩
      have hne : id ≠ watcherID (f.nextID + 1) := fun heq =>
        h.nextID_fresh (heq ▸ (h.named id q hid).1)
      rw [hget, if_neg hne, hid]
    · exact ⟨watcherID (f.nextID + 1), by rw [hget, if_pos rfl]⟩
  case lock =>
    intro change rest hsending
    cases hfree.symm.trans hsending
  case log =>
    intro q hq
    rcases hcases q hq with hlt | rfl
    · rw [hold q hlt]
      exact h.log q hlt
    · rw [hmade]
      exact ⟨rfl, le_rfl, Nat.zero_le _⟩

/-- A name in the map stands for an open channel, which is closed now. -/
theorem unsubscribe_eq (h : Wired f) {id : String} {r : ℕ} (hget : f.channels.get id = some r) :
    f.unsubscribe id = { f with
      channels := f.channels.del id
      heap := f.heap.write r { f.heap.cell r with closedAt := some f.broadcasts.length } } := by
  simp [WatcherFanout.unsubscribe, hget, close, (h.named id r hget).2.2]

theorem unsubscribe (h : Wired f) (hfree : f.sending = none) (id : String) :
    Wired (f.unsubscribe id) := by
  rcases hid : f.channels.get id with _ | r
  · simpa [WatcherFanout.unsubscribe, hid] using h
  · rw [h.unsubscribe_eq hid]
    -- the other names stand for other channels
    have hne : ∀ id' q, (f.channels.del id).get id' = some q →
        f.channels.get id' = some q ∧ q ≠ r := by
      intro id' q hq
      rw [Dict.get_del] at hq
      split_ifs at hq with heq
      refine ⟨hq, ?_⟩
      rintro rfl
      exact heq (h.unique id' id q hq hid)
    constructor
    case issued => exact h.issued
    case faults => exact h.faults
    case named =>
      intro id' q hq
      obtain ⟨hget, hqr⟩ := hne id' q hq
      simpa [hqr] using h.named id' q hget
    case unique =>
      intro id' id'' q hq hq'
      exact h.unique id' id'' q (hne id' q hq).1 (hne id'' q hq').1
    case listed =>
      intro q hq hopen
      have hqr : q ≠ r := by
        rintro rfl
        simp at hopen
      simp only [Heap.cell_write_ne _ _ hqr] at hopen
      obtain ⟨id', hget⟩ := h.listed q hq hopen
      refine ⟨id', ?_⟩
      have hother : id' ≠ id := by
        rintro rfl
        exact hqr (Option.some.inj (hget.symm.trans hid))
      rw [Dict.get_del_ne _ hother, hget]
    case lock =>
      intro change rest hsending
      cases hfree.symm.trans hsending
    case log =>
      intro q hq
      by_cases hqr : q = r
      · subst hqr
        simpa using ⟨(h.log q hq).1, (h.log q hq).2.1⟩
      · simpa [hqr] using h.log q hq

/-- A broadcast goes through the open channels. -/
theorem mem_range_iff (h : Wired f) (order : List String) (r : ℕ) :
    r ∈ (f.channels.range order).filterMap f.channels.get ↔
      r < f.heap.next ∧ (f.heap.cell r).closedAt = none := by
  simp only [List.mem_filterMap, Dict.mem_range_iff]
  constructor
  · rintro ⟨id, -, hget⟩
    exact (h.named id r hget).2
  · rintro ⟨hr, hopen⟩
    obtain ⟨id, hget⟩ := h.listed r hr hopen
    exact ⟨id, by simp [hget], hget⟩

theorem broadcast (h : Wired f) (change : α) (order : List String) :
    Wired (f.broadcast change order) := by
  constructor
  case issued => exact h.issued
  case faults => exact h.faults
  case named => exact h.named
  case unique => exact h.unique
  case listed => exact h.listed
  case lock =>
    rintro change' rest heq
    obtain ⟨-, rfl⟩ := Prod.mk.inj (Option.some.inj heq)
    refine ⟨(Dict.nodup_range order f.channels).filterMap h.unique, fun r hr => ?_⟩
    exact (h.mem_range_iff order r).mp hr
  case log =>
    intro r hr
    obtain ⟨hcap, hopened, hclosed⟩ := h.log r hr
    simp only [WatcherFanout.broadcast, List.length_append, List.length_singleton]
    exact ⟨hcap, by omega, by omega⟩

theorem step (h : Wired f) (ev : Event α) : Wired (f.step ev) := by
  cases ev with
  | subscribe =>
    simp only [WatcherFanout.step, Option.isNone_iff_eq_none]
    split_ifs with hfree
    · exact h.subscribe hfree
    · exact h
  | unsubscribe id =>
    simp only [WatcherFanout.step, Option.isNone_iff_eq_none]
    split_ifs with hfree
    · exact h.unsubscribe hfree id
    · exact h
  | broadcast change order =>
    simp only [WatcherFanout.step]
    split_ifs
    · exact h.broadcast change order
    · exact h
  | send => exact h.send
  | receive r =>
    simp only [WatcherFanout.step]
    split_ifs
    · exact h.receive r
    · exact h

end Wired

/-! ## What a watcher is sent -/

section Watcher

variable {f f' : WatcherFanout α} {r : ℕ}

/-- A step either goes past the channel, and what it adds to the window is in
flight; or it offers the channel what is in flight, which the channel takes
unless it is full. -/
inductive Moves (r : ℕ) (f f' : WatcherFanout α) (overruns : Prop) : Prop where
  | past (more : List α) (hfits : ¬overruns)
      (hsent : (f'.heap.cell r).ch.sent = (f.heap.cell r).ch.sent)
      (hwindow : f'.window r = f.window r ++ more)
      (hflight : f'.inFlight r = f.inFlight r ++ more)
  | taken (change : α) (hfits : ¬overruns) (hflight : f.inFlight r = [change])
      (hdone : f'.inFlight r = []) (hwindow : f'.window r = f.window r)
      (hsent : (f'.heap.cell r).ch.sent = (f.heap.cell r).ch.sent ++ [change])
  | lost (change : α) (hfull : overruns) (hflight : f.inFlight r = [change])
      (hdone : f'.inFlight r = []) (hwindow : f'.window r = f.window r)
      (hsent : (f'.heap.cell r).ch.sent = (f.heap.cell r).ch.sent)

theorem Moves.refl {overruns : Prop} (hfits : ¬overruns) : Moves r f f overruns :=
  .past [] hfits rfl (List.append_nil _).symm (List.append_nil _).symm

theorem window_congr (hlog : f'.broadcasts = f.broadcasts)
    (hopened : (f'.heap.cell r).openedAt = (f.heap.cell r).openedAt)
    (hclosed : (f'.heap.cell r).closedAt = (f.heap.cell r).closedAt) :
    f'.window r = f.window r := by
  rw [window, window, hlog, hopened, hclosed]

theorem moves_subscribe (hr : r < f.heap.next) : Moves r f f.subscribe False := by
  have hcell : f.subscribe.heap.cell r = f.heap.cell r := f.heap.cell_alloc_of_lt _ hr
  refine .past [] not_false (by rw [hcell]) ?_ (List.append_nil _).symm
  rw [List.append_nil]
  exact window_congr rfl (by rw [hcell]) (by rw [hcell])

theorem moves_unsubscribe (h : Wired f) (id : String) : Moves r f (f.unsubscribe id) False := by
  rcases hid : f.channels.get id with _ | q
  · have hsame : f.unsubscribe id = f := by simp [unsubscribe, hid]
    rw [hsame]
    exact .refl not_false
  · rw [h.unsubscribe_eq hid]
    by_cases hq : r = q
    · -- what was broadcast so far is what was broadcast until the end
      subst hq
      refine .past [] not_false (by simp) ?_ (List.append_nil _).symm
      simp [window, (h.named id r hid).2.2]
    · refine .past [] not_false (by simp [hq]) ?_ (List.append_nil _).symm
      simp [window, hq]

theorem moves_broadcast (h : Wired f) (hfree : f.sending = none) (hr : r < f.heap.next)
    (change : α) (order : List String) : Moves r f (f.broadcast change order) False := by
  have hnone : f.inFlight r = [] := by rw [inFlight, hfree]
  have hflight : (f.broadcast change order).inFlight r =
      if (f.heap.cell r).closedAt = none then [change] else [] := by
    simp only [inFlight, broadcast, h.mem_range_iff order r, hr, true_and]
  obtain ⟨-, hopened, hclosed⟩ := h.log r hr
  rcases hend : (f.heap.cell r).closedAt with _ | n
  · refine .past [change] not_false rfl ?_ (by simp [hflight, hnone, hend])
    simp only [window, broadcast, hend, Option.getD_none, List.take_length]
    rw [List.drop_append_of_le_length hopened]
  · refine .past [] not_false rfl ?_ (by simp [hflight, hnone, hend])
    rw [hend, Option.getD_some] at hclosed
    simp only [window, broadcast, hend, Option.getD_some, List.append_nil]
    rw [List.take_append_of_le_length hclosed]

theorem moves_receive (f : WatcherFanout α) (r q : ℕ) : Moves r f (f.receive q) False := by
  unfold receive
  split
  · next item ch hrecv =>
    by_cases hq : r = q
    · subst hq
      refine .past [] not_false ?_ ?_ (List.append_nil _).symm
      · simpa using (Chan.recv_eq_some hrecv).2.1
      · simp [window]
    · refine .past [] not_false (by simp [hq]) ?_ (List.append_nil _).symm
      simp [window, hq]
  · exact .refl not_false

/-- The next send of a broadcast, seen from any channel. -/
theorem moves_send (h : Wired f) : Moves r f (f.step .send) (Overruns r f .send) := by
  rcases hsending : f.sending with _ | ⟨change, _ | ⟨q, rest⟩⟩
  · have hsame : f.step .send = f := by simp only [step, hsending]
    rw [hsame]
    exact .refl (by simp [Overruns, hsending])
  · have hfree : f.step .send = { f with sending := none } := by simp only [step, hsending]
    rw [hfree]
    refine .past [] (by simp [Overruns, hsending]) rfl (List.append_nil _).symm ?_
    simp [inFlight, hsending]
  · have hnext : f.step .send = { f.offer q change with sending := some (change, rest) } := by
      simp only [step, hsending]
    rw [hnext, h.offer_eq hsending]
    obtain ⟨hnodup, hopen⟩ := h.lock change _ hsending
    by_cases hq : r = q
    · subst hq
      have hflight : f.inFlight r = [change] := by simp [inFlight, hsending]
      have hgone : r ∉ rest := (List.nodup_cons.mp hnodup).1
      have hcap := (h.log r (hopen r (by simp)).1).1
      rcases hsend : (f.heap.cell r).ch.trySend change with _ | ch
      · have hfull := Chan.trySend_eq_none_iff.mp hsend
        rw [hcap] at hfull
        exact .lost change ⟨change, rest, hsending, hfull⟩ hflight (by simp [inFlight, hgone]) rfl rfl
      · obtain ⟨hroom, -, -⟩ := Chan.trySend_eq_some hsend
        rw [hcap] at hroom
        refine .taken change ?_ hflight (by simp [inFlight, hgone]) (by simp [window]) ?_
        · rintro ⟨_, _, -, hfull⟩
          exact absurd hroom (not_lt.mpr hfull)
        · simpa using Chan.trySend_sent hsend
    · have hfits : ¬Overruns r f .send := by
        rintro ⟨_, _, hhead, -⟩
        rw [hsending] at hhead
        simp only [Option.some.injEq, Prod.mk.injEq, List.cons.injEq] at hhead
        exact hq hhead.2.1.symm
      split
      · refine .past [] hfits (by simp [hq]) (by simp [window, hq]) ?_
        simp [inFlight, hsending, hq]
      · refine .past [] hfits rfl (List.append_nil _).symm ?_
        simp [inFlight, hsending, hq]

theorem moves_step (h : Wired f) (hr : r < f.heap.next) (ev : Event α) :
    Moves r f (f.step ev) (Overruns r f ev) := by
  cases ev with
  | subscribe =>
    simp only [step]
    split_ifs
    · exact moves_subscribe hr
    · exact .refl not_false
  | unsubscribe id =>
    simp only [step]
    split_ifs
    · exact moves_unsubscribe h id
    · exact .refl not_false
  | broadcast change order =>
    simp only [step, Option.isNone_iff_eq_none]
    split_ifs with hfree
    · exact moves_broadcast h hfree hr change order
    · exact .refl not_false
  | send => exact moves_send h
  | receive q =>
    simp only [step]
    split_ifs
    · exact moves_receive f r q
    · exact .refl not_false

/-- A reference is made by a subscription only. -/
theorem next_step (f : WatcherFanout α) (ev : Event α) :
    (f.step ev).heap.next = f.heap.next ∨ f.sending = none ∧ f.step ev = f.subscribe := by
  cases ev with
  | subscribe =>
    by_cases hfree : f.sending = none
    · exact .inr ⟨hfree, by simp [step, hfree]⟩
    · exact .inl (by simp [step, hfree])
  | unsubscribe id =>
    left
    simp only [step, unsubscribe, close]
    split_ifs
    · split
      · split <;> rfl
      · rfl
    · rfl
  | broadcast change order =>
    left
    simp only [step]
    split_ifs <;> rfl
  | send =>
    left
    simp only [step, offer]
    split
    · split
      · rfl
      · split <;> rfl
    · rfl
    · rfl
  | receive q =>
    left
    simp only [step, receive]
    split_ifs
    · split <;> rfl
    · rfl

/-- To a new channel nothing was sent, and nothing should have been. -/
theorem subscribe_next (hfree : f.sending = none) :
    (f.subscribe.heap.cell f.heap.next).ch.sent = [] ∧ f.subscribe.window f.heap.next = [] ∧
      f.subscribe.inFlight f.heap.next = [] := by
  have hmade : f.subscribe.heap.cell f.heap.next = ⟨.make 16, f.broadcasts.length, none⟩ :=
    f.heap.cell_alloc_next _
  have hlog : f.subscribe.broadcasts = f.broadcasts := rfl
  have hidle : f.subscribe.sending = none := hfree
  refine ⟨by rw [hmade]; rfl, ?_, by rw [inFlight, hidle]⟩
  rw [window, hmade, hlog]
  simp

/-- A channel that an event makes has nothing to it yet. -/
theorem made_step {ev : Event α} (hold : ¬r < f.heap.next) (hr : r < (f.step ev).heap.next) :
    ((f.step ev).heap.cell r).ch.sent = [] ∧ (f.step ev).window r = [] ∧
      (f.step ev).inFlight r = [] := by
  obtain hnext | ⟨hfree, hsub⟩ := f.next_step ev
  · exact absurd (hnext ▸ hr) hold
  · rw [hsub] at hr ⊢
    obtain rfl : r = f.heap.next := le_antisymm (Nat.lt_succ_iff.mp hr) (not_lt.mp hold)
    exact subscribe_next hfree

/-- Whatever was sent to a channel is part of what was broadcast for it. -/
def Served (f : WatcherFanout α) (r : ℕ) : Prop :=
  ∃ offered, f.window r = offered ++ f.inFlight r ∧ (f.heap.cell r).ch.sent.Sublist offered

theorem Served.moves {overruns : Prop} (h : f.Served r) (hmoves : Moves r f f' overruns) :
    f'.Served r := by
  obtain ⟨offered, hwindow, hsub⟩ := h
  cases hmoves with
  | past more hfits hsent hwindow' hflight =>
    exact ⟨offered, by rw [hwindow', hflight, hwindow, List.append_assoc], hsent ▸ hsub⟩
  | taken change hfits hflight hdone hwindow' hsent =>
    refine ⟨offered ++ [change], by rw [hwindow', hdone, hwindow, hflight, List.append_nil], ?_⟩
    rw [hsent]
    exact hsub.append (.refl _)
  | lost change hfull hflight hdone hwindow' hsent =>
    refine ⟨offered ++ [change], by rw [hwindow', hdone, hwindow, hflight, List.append_nil], ?_⟩
    rw [hsent]
    exact hsub.trans (List.sublist_append_left _ _)

/-- Everything that was broadcast for a channel was sent to it, up to what is in
flight. -/
def Complete (r : ℕ) (f : WatcherFanout α) : Prop :=
  r < f.heap.next → (f.heap.cell r).ch.sent ++ f.inFlight r = f.window r

/-- Nothing is missing exactly as long as the channel is not found full. What was
lost is not sent later. -/
theorem Served.complete_iff {overruns : Prop} (h : f.Served r) (hmoves : Moves r f f' overruns) :
    (f'.heap.cell r).ch.sent ++ f'.inFlight r = f'.window r ↔
      (f.heap.cell r).ch.sent ++ f.inFlight r = f.window r ∧ ¬overruns := by
  cases hmoves with
  | past more hfits hsent hwindow hflight =>
    rw [hsent, hwindow, hflight, ← List.append_assoc, List.append_left_inj, and_iff_left hfits]
  | taken change hfits hflight hdone hwindow hsent =>
    rw [hsent, hwindow, hflight, hdone, List.append_nil, and_iff_left hfits]
  | lost change hfull hflight hdone hwindow hsent =>
    refine iff_of_false (fun heq => ?_) fun hboth => hboth.2 hfull
    obtain ⟨offered, hwin, hsub⟩ := h
    rw [hsent, hdone, hwindow, hwin, hflight, List.append_nil] at heq
    have hle := hsub.length_le
    rw [heq] at hle
    simp at hle

/-- The references are in order and every channel is served. -/
def Sound (f : WatcherFanout α) : Prop := Wired f ∧ ∀ r < f.heap.next, f.Served r

theorem Sound.step (h : Sound f) (ev : Event α) : Sound (f.step ev) := by
  refine ⟨h.1.step ev, fun r hr => ?_⟩
  by_cases hold : r < f.heap.next
  · exact (h.2 r hold).moves (moves_step h.1 hold ev)
  · obtain ⟨hsent, hwindow, hflight⟩ := made_step hold hr
    exact ⟨[], by rw [hwindow, hflight]; rfl, by rw [hsent]⟩

theorem Sound.complete_step (h : Sound f) (r : ℕ) (ev : Event α) :
    Complete r (f.step ev) ↔ Complete r f ∧ ¬Overruns r f ev := by
  by_cases hold : r < f.heap.next
  · have hkept : r < (f.step ev).heap.next := by
      obtain hnext | ⟨-, hsub⟩ := f.next_step ev
      · rwa [hnext]
      · rw [hsub]
        exact hold.trans (Nat.lt_succ_self _)
    simpa [Complete, hold, hkept] using (h.2 r hold).complete_iff (moves_step h.1 hold ev)
  · have hfits : ¬Overruns r f ev := by
      cases ev with
      | send =>
        rintro ⟨change, rest, hsending, -⟩
        exact hold ((h.1.lock change _ hsending).2 r (by simp)).1
      | _ => exact not_false
    refine iff_of_true (fun hr => ?_) ⟨fun hr => absurd hr hold, hfits⟩
    obtain ⟨hsent, hwindow, hflight⟩ := made_step hold hr
    rw [hsent, hwindow, hflight]
    rfl

end Watcher

theorem sound_new : Sound (new : WatcherFanout α) :=
  ⟨wired_new, fun r hr => absurd hr (Nat.not_lt_zero r)⟩

theorem sound_exec (evs : List (Event α)) : Sound (exec step (new : WatcherFanout α) evs) :=
  exec_keeps Sound (fun _ ev h => h.step ev) sound_new evs

/-- In every interleaving identifiers are issued once, no channel is closed twice
or sent to after it was closed, and a watcher receives, in order and once, some
of what was broadcast between its subscription and its end. What it received and
has pending is all of it if and only if no broadcast found its channel full. -/
theorem fanout_delivers (evs : List (Event α)) :
    let f := exec step (new : WatcherFanout α) evs
    f.issued.Nodup ∧ f.faults = [] ∧ ∀ r < f.heap.next,
      (f.received r).Sublist (f.window r) ∧ (f.broadcasts.Nodup → (f.received r).Nodup) ∧
      (f.received r ++ (f.heap.cell r).ch.buffered ++ f.inFlight r = f.window r ↔
        Along step (fun f ev => ¬Overruns r f ev) (new : WatcherFanout α) evs) := by
  intro f
  have hsound : Sound f := sound_exec evs
  refine ⟨hsound.1.nodup_issued, hsound.1.faults, fun r hr => ?_⟩
  obtain ⟨offered, hwindow, hsub⟩ := hsound.2 r hr
  have hreceived : (f.received r).Sublist (f.window r) := by
    rw [hwindow]
    exact ((List.take_sublist _ _).trans hsub).trans (List.sublist_append_left _ _)
  refine ⟨hreceived, fun hnodup => ?_, ?_⟩
  · have hlog : (f.window r).Sublist f.broadcasts :=
      (List.drop_sublist _ _).trans (List.take_sublist _ _)
    exact (hreceived.trans hlog).nodup hnodup
  · have hall : f.received r ++ (f.heap.cell r).ch.buffered = (f.heap.cell r).ch.sent :=
      List.take_append_drop _ _
    rw [hall]
    have hcomplete := exec_iff_along_of_invariant (I := Complete r) Sound
      (fun _ ev h => h.step ev) (fun _ ev h => h.complete_step r ev) sound_new evs
    have hstart : Complete r (new : WatcherFanout α) := fun hr => absurd hr (Nat.not_lt_zero r)
    rw [and_iff_right hstart] at hcomplete
    rw [← hcomplete]
    exact ⟨fun heq _ => heq, fun h => h hr⟩

/-- A watcher that receives in the middle of a broadcast and unsubscribes twice. -/
example :
    let f := exec step (new : WatcherFanout ℕ) [.subscribe, .subscribe, .broadcast 7 ["w1"], .send,
      .receive 0, .send, .send, .unsubscribe "w1", .unsubscribe "w1", .broadcast 8 [], .send, .send,
      .receive 1]
    f.issued = ["w1", "w2"] ∧ f.received 0 = [7] ∧ f.window 0 = [7] ∧ f.received 1 = [7] ∧
      f.window 1 = [7, 8] := by
  decide +kernel

end WatcherFanout

end SpatialServer

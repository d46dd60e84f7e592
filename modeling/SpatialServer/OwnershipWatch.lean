import SpatialServer.Fanout

/-!
# Watching the ownership of zones

A gateway watches the changes of ownership over a stream. The room service answers
with a goroutine that subscribes, sends every change that it receives from its
channel, and unsubscribes when the stream ends. When the stream fails the gateway
waits and opens another one. The goroutine of the first may not even have noticed: it
goes on to receive and to send, and nobody listens.

What the gateway applies to its cache is a part of what was broadcast, in the same
order and nothing twice, across all the streams it ever opened. What a later stream
brings was broadcast after it subscribed, and so after everything that was applied
before.
-/
namespace SpatialServer

open Runs

variable {α : Type*}

/-- A call of `WatchOwnership` on the room service: its subscription and the reference
of its channel, the change that it is about to send, and all that it sent. -/
structure WatchStream (α : Type*) where
  sub : Option (String × ℕ)
  held : Option α
  /-- Only the deferred call is left. -/
  returning : Bool
  ended : Bool
  wire : List α

instance : Inhabited (WatchStream α) := ⟨⟨none, none, false, false, []⟩⟩

/-- The goroutine of the gateway. -/
inductive Watching where
  | opening
  | receiving (n : ℕ)
  | waiting
  | stopped
  deriving DecidableEq, Repr

/-- `taken` counts what the gateway has received on its current stream. -/
structure OwnershipWatch (α : Type*) where
  fanout : WatcherFanout α
  streams : Heap (WatchStream α)
  watcher : Watching
  taken : ℕ
  applied : List α

inductive WatchStep (α : Type*) where
  /-- Somebody else broadcasts, subscribes, receives or unsubscribes. -/
  | fanout (ev : WatcherFanout.Event α)
  | openStream (ok : Bool)
  | serve (n : ℕ) (ok : Bool)
  | cancel (n : ℕ)
  | recv (ok : Bool)
  | wake (retry : Bool)

namespace OwnershipWatch

def new : OwnershipWatch α := ⟨.new, .empty, .opening, 0, []⟩

def setStream (w : OwnershipWatch α) (n : ℕ) (st : WatchStream α) : OwnershipWatch α :=
  { w with streams := w.streams.write n st }

/-- The loop of the call: it waits for a change, or sends the one that it has. -/
def serveLoop (w : OwnershipWatch α) (n r : ℕ) (ok : Bool) : OwnershipWatch α :=
  match (w.streams.cell n).held with
  | none =>
    match (w.fanout.heap.cell r).ch.recv with
    | some (change, _) =>
      { w.setStream n { w.streams.cell n with held := some change } with
        fanout := w.fanout.step (.receive r) }
    | none =>
      if (w.fanout.heap.cell r).closedAt.isSome then
        w.setStream n { w.streams.cell n with returning := true }
      else w
  | some change =>
    if ok then
      w.setStream n
        { w.streams.cell n with held := none, wire := (w.streams.cell n).wire ++ [change] }
    else w.setStream n { w.streams.cell n with held := none, returning := true }

/-- The next statement of the call on the room service. Who needs the lock of the
watchers waits for it. -/
def serve (w : OwnershipWatch α) (n : ℕ) (ok : Bool) : OwnershipWatch α :=
  match (w.streams.cell n).sub with
  | none =>
    if w.fanout.sending.isNone then
      { w.setStream n { w.streams.cell n with
          sub := some (WatcherFanout.watcherID (w.fanout.nextID + 1), w.fanout.heap.next) } with
        fanout := w.fanout.step .subscribe }
    else w
  | some (id, r) =>
    if (w.streams.cell n).returning then
      if w.fanout.sending.isNone ∧ (w.streams.cell n).ended = false then
        { w.setStream n { w.streams.cell n with ended := true } with
          fanout := w.fanout.step (.unsubscribe id) }
      else w
    else w.serveLoop n r ok

/-- The goroutine of the gateway gets the next change from its stream, or an error. -/
def recv (w : OwnershipWatch α) (ok : Bool) : OwnershipWatch α :=
  match w.watcher with
  | .receiving n =>
    if ok then
      match (w.streams.cell n).wire[w.taken]? with
      | some change => { w with applied := w.applied ++ [change], taken := w.taken + 1 }
      | none => w
    else { w with watcher := .waiting }
  | _ => w

def step (w : OwnershipWatch α) : WatchStep α → OwnershipWatch α
  | .fanout ev => { w with fanout := w.fanout.step ev }
  | .openStream ok =>
    match w.watcher with
    | .opening =>
      if ok then
        { w with
          streams := w.streams.alloc ⟨none, none, false, false, []⟩
          watcher := .receiving w.streams.next
          taken := 0 }
      else { w with watcher := .waiting }
    | _ => w
  | .serve n ok => if n < w.streams.next then w.serve n ok else w
  | .cancel n =>
    -- the call sees it when it waits for a change
    if n < w.streams.next ∧ (w.streams.cell n).sub.isSome ∧ (w.streams.cell n).held.isNone then
      w.setStream n { w.streams.cell n with returning := true }
    else w
  | .recv ok => w.recv ok
  | .wake retry =>
    match w.watcher with
    | .waiting => { w with watcher := if retry then .opening else .stopped }
    | _ => w

end OwnershipWatch

namespace WatcherFanout

variable {f f' : WatcherFanout α}

/-! ## What lasts -/

/-- The name stands for the channel, or for nothing any more and the channel is
closed. -/
def Bound (f : WatcherFanout α) (id : String) (r : ℕ) : Prop :=
  f.channels.get id = some r ∨ f.channels.get id = none ∧ (f.heap.cell r).closedAt.isSome

/-- What lasts from `f` to `f'`: channels, where they were opened and that they were
closed, the names, and what was received and broadcast. -/
structure Lasts (f f' : WatcherFanout α) : Prop where
  next_le : f.heap.next ≤ f'.heap.next
  opened : ∀ r < f.heap.next, (f'.heap.cell r).openedAt = (f.heap.cell r).openedAt
  closed : ∀ r < f.heap.next,
    (f.heap.cell r).closedAt.isSome → (f'.heap.cell r).closedAt.isSome
  bound : ∀ id ∈ f.issued, ∀ r < f.heap.next, f.Bound id r → f'.Bound id r
  issued : f.issued ⊆ f'.issued
  received : ∀ r < f.heap.next, f.received r <+: f'.received r
  broadcasts : f.broadcasts <+: f'.broadcasts

namespace Lasts

theorem refl (f : WatcherFanout α) : Lasts f f where
  next_le := le_rfl
  opened := fun _ _ => rfl
  closed := fun _ _ h => h
  bound := fun _ _ _ _ h => h
  issued := List.Subset.refl _
  received := fun _ _ => List.prefix_rfl
  broadcasts := List.prefix_rfl

/-- Whoever holds the lock is of no concern. -/
theorem setSending (h : Lasts f f') (sending : Option (α × List ℕ)) :
    Lasts f { f' with sending := sending } :=
  ⟨h.next_le, h.opened, h.closed, h.bound, h.issued, h.received, h.broadcasts⟩

/-- Something goes into a channel, or out of it. -/
theorem setChan (f : WatcherFanout α) (r : ℕ) {ch : Chan α}
    (hreceived : f.received r <+: ch.sent.take ch.received) :
    Lasts f { f with heap := f.heap.write r { f.heap.cell r with ch := ch } } := by
  have hsame : ∀ q, ((f.heap.write r { f.heap.cell r with ch := ch }).cell q).closedAt =
      (f.heap.cell q).closedAt := by
    intro q
    by_cases hq : q = r
    · subst hq
      simp
    · simp [hq]
  constructor
  case next_le => exact le_rfl
  case opened =>
    intro q _
    by_cases hq : q = r
    · subst hq
      simp
    · simp [hq]
  case closed => exact fun q _ hclosed => by rwa [hsame]
  case bound => exact fun id _ q _ => Or.imp_right (And.imp_right fun hclosed => by rwa [hsame])
  case issued => exact List.Subset.refl _
  case received =>
    intro q _
    by_cases hq : q = r
    · subst hq
      simpa [WatcherFanout.received] using hreceived
    · simp [WatcherFanout.received, hq]
  case broadcasts => exact List.prefix_rfl

theorem receive (f : WatcherFanout α) (r : ℕ) : Lasts f (f.receive r) := by
  unfold WatcherFanout.receive
  split
  · next hrecv =>
    refine setChan f r ?_
    rw [Chan.take_received_of_recv hrecv]
    exact List.prefix_append _ _
  · exact refl f

theorem send (h : Wired f) : Lasts f (f.step .send) := by
  simp only [WatcherFanout.step]
  split
  · next change r rest hsending =>
    refine setSending ?_ _
    rw [h.offer_eq hsending]
    split
    · next hsend =>
      refine setChan f r ?_
      rw [(Chan.Grown.trySend hsend).take_received]
      exact List.prefix_rfl
    · exact refl f
  · exact (refl f).setSending _
  · exact refl f

theorem subscribe (h : Wired f) : Lasts f f.subscribe := by
  have hold : ∀ r < f.heap.next, f.subscribe.heap.cell r = f.heap.cell r :=
    fun r hr => f.heap.cell_alloc_of_lt _ hr
  constructor
  case next_le => exact Nat.le_succ _
  case opened => exact fun r hr => by rw [hold r hr]
  case closed => exact fun r hr hclosed => by rwa [hold r hr]
  case bound =>
    intro id hid r hr hbound
    have hne : id ≠ watcherID (f.nextID + 1) := fun heq => h.nextID_fresh (heq ▸ hid)
    have hsame : f.subscribe.channels.get id = f.channels.get id := Dict.get_set_ne _ _ hne
    rwa [Bound, hsame, hold r hr]
  case issued => exact List.subset_append_left _ _
  case received =>
    intro r hr
    rw [WatcherFanout.received, WatcherFanout.received, hold r hr]
  case broadcasts => exact List.prefix_rfl

/-- The channel of the name is closed, and the others are left alone. -/
theorem unsubscribe (h : Wired f) (id : String) : Lasts f (f.unsubscribe id) := by
  rcases hid : f.channels.get id with _ | r
  · rw [WatcherFanout.unsubscribe, hid]
    exact refl f
  · rw [h.unsubscribe_eq hid]
    constructor
    case next_le => exact le_rfl
    case issued => exact List.Subset.refl _
    case broadcasts => exact List.prefix_rfl
    case bound =>
      intro id' _ q _ hbound
      by_cases hname : id' = id
      · subst hname
        obtain rfl : r = q := by simpa [Bound, hid] using hbound
        exact .inr ⟨Dict.get_del_self _ _, by simp⟩
      · have hsame : (f.channels.del id).get id' = f.channels.get id' := Dict.get_del_ne _ hname
        refine hbound.imp hsame.trans (And.imp hsame.trans fun hclosed => ?_)
        by_cases hq : q = r
        · subst hq
          simp
        · simpa [hq] using hclosed
    all_goals
      intro q _
      by_cases hq : q = r
      · subst hq
        simp [WatcherFanout.received]
      · simp [WatcherFanout.received, hq]

theorem step (h : Wired f) (ev : Event α) : Lasts f (f.step ev) := by
  cases ev with
  | subscribe =>
    simp only [WatcherFanout.step]
    split_ifs
    · exact subscribe h
    · exact refl f
  | unsubscribe id =>
    simp only [WatcherFanout.step]
    split_ifs
    · exact unsubscribe h id
    · exact refl f
  | broadcast change order =>
    simp only [WatcherFanout.step]
    split_ifs
    · have hrefl := refl f
      exact ⟨hrefl.next_le, hrefl.opened, hrefl.closed, hrefl.bound, hrefl.issued,
        hrefl.received, List.prefix_append _ _⟩
    · exact refl f
  | send => exact send h
  | receive r =>
    simp only [WatcherFanout.step]
    split_ifs
    · exact receive f r
    · exact refl f

end Lasts

/-- What a channel gave is part of what was broadcast after it was opened. -/
theorem Sound.received_sublist (h : Sound f) {r : ℕ} (hr : r < f.heap.next) :
    (f.received r).Sublist (f.broadcasts.drop (f.heap.cell r).openedAt) := by
  obtain ⟨offered, hwindow, hsent⟩ := h.2 r hr
  have hoffered : offered.Sublist (f.window r) := hwindow ▸ List.sublist_append_left _ _
  have hwin : (f.window r).Sublist (f.broadcasts.drop (f.heap.cell r).openedAt) :=
    (List.take_sublist _ _).drop _
  exact (List.take_sublist _ _).trans (hsent.trans (hoffered.trans hwin))

/-- When the call for a bound name returns, the channel is closed. -/
theorem Wired.closed_unsubscribe (h : Wired f) {id : String} {r : ℕ} (hbound : f.Bound id r) :
    ((f.unsubscribe id).heap.cell r).closedAt.isSome := by
  rcases hbound with hget | ⟨hget, hclosed⟩
  · rw [h.unsubscribe_eq hget]
    simp
  · rwa [WatcherFanout.unsubscribe, hget]

end WatcherFanout

namespace OwnershipWatch

open WatcherFanout

variable {w : OwnershipWatch α}

/-! ## What the gateway applies -/

/-- A call has sent, in order, some of what its channel gave. When it has ended its
channel is closed. -/
def Attached (f : WatcherFanout α) (st : WatchStream α) : Prop :=
  match st.sub with
  | none => st.wire = [] ∧ st.held = none ∧ st.ended = false
  | some (id, r) => r < f.heap.next ∧ id ∈ f.issued ∧ f.Bound id r ∧
      (st.wire ++ st.held.toList).Sublist (f.received r) ∧
      (st.ended → (f.heap.cell r).closedAt.isSome)

/-- How much had been broadcast when the call subscribed, or until now. -/
def seam (f : WatcherFanout α) (st : WatchStream α) : ℕ :=
  match st.sub with
  | none => f.broadcasts.length
  | some (_, r) => (f.heap.cell r).openedAt

/-- All that was applied is what came before the current stream, which was broadcast
before it subscribed, and what came over it. -/
def Applied (w : OwnershipWatch α) : Prop :=
  match w.watcher with
  | .receiving n => n < w.streams.next ∧ w.taken ≤ (w.streams.cell n).wire.length ∧
      ∃ before, w.applied = before ++ (w.streams.cell n).wire.take w.taken ∧
        before.Sublist (w.fanout.broadcasts.take (seam w.fanout (w.streams.cell n)))
  | _ => w.applied.Sublist w.fanout.broadcasts

structure Follows (w : OwnershipWatch α) : Prop where
  sound : w.fanout.Sound
  attached : ∀ n < w.streams.next, Attached w.fanout (w.streams.cell n)
  applied : Applied w

theorem Attached.lasts {f f' : WatcherFanout α} {st : WatchStream α} (h : Attached f st)
    (hlasts : Lasts f f') : Attached f' st := by
  unfold Attached at h ⊢
  split at h
  · exact h
  · obtain ⟨hr, hid, hbound, hwire, hended⟩ := h
    exact ⟨hr.trans_le hlasts.next_le, hlasts.issued hid, hlasts.bound _ hid _ hr hbound,
      hwire.trans (hlasts.received _ hr).sublist, fun h => hlasts.closed _ hr (hended h)⟩

/-- What was broadcast before a subscription stays the same. -/
theorem take_seam {f f' : WatcherFanout α} {st : WatchStream α} (hsound : f.Sound)
    (h : Attached f st) (hlasts : Lasts f f') :
    (f.broadcasts.take (seam f st)).Sublist (f'.broadcasts.take (seam f' st)) := by
  obtain ⟨more, hmore⟩ := hlasts.broadcasts
  unfold Attached at h
  unfold seam
  split at h
  · simpa using hlasts.broadcasts.sublist
  · obtain ⟨hr, -⟩ := h
    rw [hlasts.opened _ hr, ← hmore, List.take_append_of_le_length (hsound.1.log _ hr).2.1]

theorem Applied.lasts {f' : WatcherFanout α} (h : Follows w) (hlasts : Lasts w.fanout f') :
    Applied { w with fanout := f' } := by
  have happlied := h.applied
  unfold Applied at happlied ⊢
  rcases hwatch : w.watcher with _ | n | _ | _
  case receiving =>
    rw [hwatch] at happlied
    obtain ⟨hn, htaken, before, heq, hbefore⟩ := happlied
    exact ⟨hn, htaken, before, heq, hbefore.trans (take_seam h.sound (h.attached n hn) hlasts)⟩
  all_goals
    rw [hwatch] at happlied
    exact happlied.trans hlasts.broadcasts.sublist

/-- Everything that was applied was broadcast, in this order. -/
theorem Follows.applied_sublist (h : Follows w) : w.applied.Sublist w.fanout.broadcasts := by
  have happlied := h.applied
  unfold Applied at happlied
  rcases hwatch : w.watcher with _ | n | _ | _
  case receiving =>
    rw [hwatch] at happlied
    obtain ⟨hn, -, before, heq, hbefore⟩ := happlied
    have hatt := h.attached n hn
    rw [heq]
    rcases hsub : (w.streams.cell n).sub with _ | ⟨id, r⟩
    · rw [Attached, hsub] at hatt
      rw [hatt.1, List.take_nil, List.append_nil]
      exact hbefore.trans (List.take_sublist _ _)
    · rw [Attached, hsub] at hatt
      rw [seam, hsub] at hbefore
      obtain ⟨hr, -, -, hwire, -⟩ := hatt
      -- what came over the stream was broadcast after the subscription
      have hlate := ((List.take_sublist w.taken _).trans (List.sublist_append_left _ _)).trans
        (hwire.trans (h.sound.received_sublist hr))
      have hall := hbefore.append hlate
      rwa [List.take_append_drop] at hall
  all_goals
    rw [hwatch] at happlied
    exact happlied

/-- A call makes a step of its own, perhaps with one of the watchers' table: what was
sent stays, and its subscription stays where it is. -/
theorem Follows.move {f' : WatcherFanout α} {n : ℕ} {st : WatchStream α} (h : Follows w)
    (hsound : f'.Sound) (hlasts : Lasts w.fanout f') (hst : Attached f' st)
    (hwire : (w.streams.cell n).wire <+: st.wire)
    (hseam : (w.fanout.broadcasts.take (seam w.fanout (w.streams.cell n))).Sublist
      (f'.broadcasts.take (seam f' st))) :
    Follows { w.setStream n st with fanout := f' } := by
  constructor
  case sound => exact hsound
  case attached =>
    intro m hm
    by_cases hmn : m = n
    · subst hmn
      simpa [setStream] using hst
    · simpa [setStream, hmn] using (h.attached m hm).lasts hlasts
  case applied =>
    have happlied := Applied.lasts h hlasts
    unfold Applied at happlied ⊢
    rcases hwatch : w.watcher with _ | m | _ | _
    case receiving =>
      simp only [hwatch, setStream] at happlied ⊢
      by_cases hmn : m = n
      · subst hmn
        have hold := h.applied
        rw [Applied, hwatch] at hold
        obtain ⟨hm, htaken, before, heq, hbefore⟩ := hold
        obtain ⟨more, hmore⟩ := hwire
        rw [Heap.cell_write_self]
        refine ⟨hm, ?_, before, ?_, hbefore.trans hseam⟩
        · rw [← hmore, List.length_append]
          omega
        · rw [heq, ← hmore, List.take_append_of_le_length htaken]
      · rw [Heap.cell_write_ne _ _ hmn]
        exact happlied
    all_goals
      simp only [hwatch, setStream] at happlied ⊢
      exact happlied

theorem Follows.fanoutStep (h : Follows w) (ev : Event α) :
    Follows { w with fanout := w.fanout.step ev } where
  sound := h.sound.step ev
  attached := fun n hn => (h.attached n hn).lasts (Lasts.step h.sound.1 ev)
  applied := Applied.lasts h (Lasts.step h.sound.1 ev)

/-- A call of the room service goes on with its subscription. -/
theorem Follows.moveOn {n : ℕ} {st : WatchStream α} (h : Follows w) (hn : n < w.streams.next)
    (ev : Event α) (hsub : st.sub = (w.streams.cell n).sub)
    (hst : Attached (w.fanout.step ev) st) (hwire : (w.streams.cell n).wire <+: st.wire) :
    Follows { w.setStream n st with fanout := w.fanout.step ev } := by
  have hlasts := Lasts.step h.sound.1 ev
  refine h.move (h.sound.step ev) hlasts hst hwire ?_
  have hseam := take_seam h.sound (h.attached n hn) hlasts
  unfold seam at hseam ⊢
  rwa [hsub]

theorem Follows.setStream {n : ℕ} {st : WatchStream α} (h : Follows w)
    (hsub : st.sub = (w.streams.cell n).sub) (hst : Attached w.fanout st)
    (hwire : (w.streams.cell n).wire <+: st.wire) : Follows (w.setStream n st) := by
  refine h.move h.sound (Lasts.refl _) hst hwire ?_
  unfold seam
  rw [hsub]

theorem Follows.subscribe {n : ℕ} (h : Follows w) (hn : n < w.streams.next)
    (hsub : (w.streams.cell n).sub = none) (hfree : w.fanout.sending.isNone) :
    Follows { w.setStream n { w.streams.cell n with
        sub := some (watcherID (w.fanout.nextID + 1), w.fanout.heap.next) } with
      fanout := w.fanout.step .subscribe } := by
  have hatt := h.attached n hn
  rw [Attached, hsub] at hatt
  obtain ⟨hwire, hheld, hended⟩ := hatt
  have hstep : w.fanout.step .subscribe = w.fanout.subscribe := if_pos hfree
  have hmade : w.fanout.subscribe.heap.cell w.fanout.heap.next =
      ⟨.make 16, w.fanout.broadcasts.length, none⟩ := w.fanout.heap.cell_alloc_next _
  refine h.move (h.sound.step _) (Lasts.step h.sound.1 _) ?_ List.prefix_rfl ?_
  · rw [hstep]
    refine ⟨Nat.lt_succ_self _, by simp [WatcherFanout.subscribe], .inl ?_, ?_, ?_⟩
    · exact Dict.get_set_self ..
    · simp [hwire, hheld]
    · simp [hended]
  · rw [hstep]
    simp [seam, hsub, hmade, show w.fanout.subscribe.broadcasts = w.fanout.broadcasts from rfl]

/-- The call takes the next change from its channel. -/
theorem Follows.receive {n r : ℕ} {id : String} {change : α} {ch : Chan α} (h : Follows w)
    (hn : n < w.streams.next) (hsub : (w.streams.cell n).sub = some (id, r))
    (hheld : (w.streams.cell n).held = none)
    (hrecv : (w.fanout.heap.cell r).ch.recv = some (change, ch)) :
    Follows { w.setStream n { w.streams.cell n with held := some change } with
      fanout := w.fanout.step (.receive r) } := by
  have hatt := h.attached n hn
  rw [Attached, hsub] at hatt
  obtain ⟨hr, hid, hbound, hwire, hended⟩ := hatt
  have hlasts := Lasts.step h.sound.1 (.receive r)
  have hgot : (w.fanout.step (.receive r)).received r = w.fanout.received r ++ [change] := by
    simp [WatcherFanout.step, hr, WatcherFanout.receive, hrecv, WatcherFanout.received,
      Chan.take_received_of_recv hrecv]
  refine h.moveOn hn _ rfl ?_ List.prefix_rfl
  rw [Attached, hsub]
  refine ⟨hr.trans_le hlasts.next_le, hlasts.issued hid, hlasts.bound _ hid _ hr hbound, ?_,
    fun hend => hlasts.closed r hr (hended hend)⟩
  rw [hgot]
  rw [hheld, Option.toList_none, List.append_nil] at hwire
  exact hwire.append (.refl _)

/-- The deferred call of the call. -/
theorem Follows.unsubscribe {n r : ℕ} {id : String} (h : Follows w) (hn : n < w.streams.next)
    (hsub : (w.streams.cell n).sub = some (id, r)) (hfree : w.fanout.sending.isNone) :
    Follows { w.setStream n { w.streams.cell n with ended := true } with
      fanout := w.fanout.step (.unsubscribe id) } := by
  have hatt := h.attached n hn
  rw [Attached, hsub] at hatt
  obtain ⟨hr, hid, hbound, hwire, -⟩ := hatt
  have hlasts := Lasts.step h.sound.1 (.unsubscribe id)
  refine h.moveOn hn _ rfl ?_ List.prefix_rfl
  rw [Attached, hsub]
  refine ⟨hr.trans_le hlasts.next_le, hlasts.issued hid, hlasts.bound _ hid _ hr hbound,
    hwire.trans (hlasts.received r hr).sublist, fun _ => ?_⟩
  simpa [WatcherFanout.step, hfree] using h.sound.1.closed_unsubscribe hbound

theorem Follows.serveLoop {n r : ℕ} {id : String} (h : Follows w) (hn : n < w.streams.next)
    (hsub : (w.streams.cell n).sub = some (id, r)) (ok : Bool) :
    Follows (w.serveLoop n r ok) := by
  have hatt := h.attached n hn
  unfold OwnershipWatch.serveLoop
  split
  · next hheld =>
    split
    · next hrecv => exact h.receive hn hsub hheld hrecv
    · split_ifs
      · exact h.setStream rfl hatt List.prefix_rfl
      · exact h
  · next change hheld =>
    rw [Attached, hsub] at hatt
    obtain ⟨hr, hid, hbound, hwire, hended⟩ := hatt
    rw [hheld] at hwire
    split_ifs
    · refine h.setStream rfl ?_ (List.prefix_append _ _)
      rw [Attached, hsub]
      exact ⟨hr, hid, hbound, by simpa using hwire, hended⟩
    · refine h.setStream rfl ?_ List.prefix_rfl
      rw [Attached, hsub]
      exact ⟨hr, hid, hbound, by simpa using (List.sublist_append_left _ _).trans hwire, hended⟩

theorem Follows.serve (h : Follows w) {n : ℕ} (hn : n < w.streams.next) (ok : Bool) :
    Follows (w.serve n ok) := by
  unfold OwnershipWatch.serve
  split
  · next hsub =>
    split_ifs with hfree
    · exact h.subscribe hn hsub hfree
    · exact h
  · next id r hsub =>
    split_ifs with hreturning hfree
    · exact h.unsubscribe hn hsub hfree.1
    · exact h
    · exact h.serveLoop hn hsub ok

theorem Follows.recv (h : Follows w) (ok : Bool) : Follows (w.recv ok) := by
  have happlied := h.applied
  rcases hwatch : w.watcher with _ | n | _ | _
  case receiving =>
    rw [Applied, hwatch] at happlied
    obtain ⟨hn, htaken, before, heq, hbefore⟩ := happlied
    simp only [OwnershipWatch.recv, hwatch]
    split_ifs
    · rcases hnext : (w.streams.cell n).wire[w.taken]? with _ | change
      · exact h
      · refine ⟨h.sound, h.attached, ?_⟩
        obtain ⟨hlt, hchange⟩ := List.getElem?_eq_some_iff.mp hnext
        simp only [Applied]
        refine ⟨hn, hlt, before, ?_, hbefore⟩
        rw [heq, List.take_succ_eq_append_getElem hlt, hchange, List.append_assoc]
    · exact ⟨h.sound, h.attached, h.applied_sublist⟩
  all_goals
    simp only [OwnershipWatch.recv, hwatch]
    exact h

theorem Follows.openStream (h : Follows w) (ok : Bool) : Follows (w.step (.openStream ok)) := by
  rcases hwatch : w.watcher with _ | n | _ | _
  case opening =>
    simp only [step, hwatch]
    split_ifs
    · refine ⟨h.sound, fun n hn => ?_, ?_⟩
      · rcases Nat.lt_succ_iff_lt_or_eq.mp hn with hlt | rfl
        · rw [Heap.cell_alloc_of_lt _ _ hlt]
          exact h.attached n hlt
        · rw [Heap.cell_alloc_next]
          exact ⟨rfl, rfl, rfl⟩
      · refine ⟨Nat.lt_succ_self _, Nat.zero_le _, w.applied, by simp, ?_⟩
        simpa [seam] using h.applied_sublist
    · exact ⟨h.sound, h.attached, h.applied_sublist⟩
  all_goals
    simp only [step, hwatch]
    exact h

theorem Follows.step (h : Follows w) (s : WatchStep α) : Follows (w.step s) := by
  cases s with
  | fanout ev => exact h.fanoutStep ev
  | openStream ok => exact h.openStream ok
  | serve n ok =>
    simp only [OwnershipWatch.step]
    split_ifs with hn
    · exact h.serve hn ok
    · exact h
  | cancel n =>
    simp only [OwnershipWatch.step]
    split_ifs with hcond
    · exact h.setStream rfl (h.attached n hcond.1) List.prefix_rfl
    · exact h
  | recv ok => exact h.recv ok
  | wake retry =>
    rcases hwatch : w.watcher with _ | n | _ | _
    case waiting =>
      simp only [OwnershipWatch.step, hwatch]
      refine ⟨h.sound, h.attached, ?_⟩
      cases retry <;> exact h.applied_sublist
    all_goals
      simp only [OwnershipWatch.step, hwatch]
      exact h

theorem follows_new : Follows (new : OwnershipWatch α) :=
  ⟨sound_new, fun n hn => absurd hn (Nat.not_lt_zero n), List.nil_sublist _⟩

theorem follows_exec (ss : List (WatchStep α)) :
    Follows (exec step (new : OwnershipWatch α) ss) :=
  exec_keeps Follows (fun _ s h => h.step s) follows_new ss

/-- Across failing streams, reconnects and calls that nobody listens to any more, what
the gateway applies is a part of what was broadcast, in the same order and nothing
twice. The channel of a call that has ended is closed, and no channel is ever closed
twice or sent to after it was closed. -/
theorem ownership_changes_apply_in_order (ss : List (WatchStep α)) :
    let w := exec step (new : OwnershipWatch α) ss
    w.applied.Sublist w.fanout.broadcasts ∧ w.fanout.faults = [] ∧
      ∀ n < w.streams.next, (w.streams.cell n).ended →
        ∃ id r, (w.streams.cell n).sub = some (id, r) ∧ w.fanout.channels.get id = none ∧
          (w.fanout.heap.cell r).closedAt.isSome := by
  intro w
  have h : Follows w := follows_exec ss
  refine ⟨h.applied_sublist, h.sound.1.faults, fun n hn hended => ?_⟩
  have hatt := h.attached n hn
  unfold Attached at hatt
  split at hatt
  · simp [hatt.2.2] at hended
  · next id r hsub =>
    obtain ⟨-, -, hbound, -, hclosed⟩ := hatt
    refine ⟨id, r, hsub, ?_, hclosed hended⟩
    rcases hbound with hget | ⟨hget, -⟩
    · have hopen := (h.sound.1.named id r hget).2.2
      simpa [hopen] using hclosed hended
    · exact hget

end OwnershipWatch

end SpatialServer

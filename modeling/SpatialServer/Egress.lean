import SpatialServer.EventDelivery
import SpatialServer.Ingress

/-!
# From the simulation to the socket

The events of the simulation are drained, routed to the entry of their observer,
queued, and sent by the sender of the entry on the stream that registered it. The
gateway receives what comes on the stream and writes it to the socket of the client.

On the stream of a gateway connection only that connection announces a client, and
only once, so that the stream has one sender at most. What is written to the socket
are therefore events for the client of the connection, each at most once and in the
order in which they were published, whatever is dropped on the way.
-/
namespace SpatialServer

open Runs Gateway Wire

namespace GameServer

/-! ## One sender for a stream -/

/-- Entries are made by the goroutine of their stream. -/
theorem next_step (H : Host) (σ : GameServer) (stp : RelayStep) :
    (σ.step H stp).entries.next = σ.entries.next ∨
      ∃ s now id rest, stp = .act s now ∧ (σ.streams s).pending = .register id :: rest ∧
        (σ.step H stp).entries.next = σ.entries.next + 1 ∧
        (σ.step H stp).entries.cell σ.entries.next = ⟨s, id, false, false⟩ := by
  have hunregister : ∀ (σ : GameServer) (id : String),
      (σ.unregister id).entries.next = σ.entries.next := by
    intro σ id
    unfold unregister
    split <;> rfl
  cases stp with
  | recv s pkt =>
    refine .inl ?_
    simp only [step, recv]
    split <;> rfl
  | endStream s =>
    refine .inl ?_
    simp only [step, endStream]
    split <;> rfl
  | senderExit ref =>
    refine .inl ?_
    simp only [step, senderExit]
    split
    · rw [hunregister]
      rfl
    · rfl
  | call c => exact .inl rfl
  | act s now =>
    rcases hpend : (σ.streams s).pending with _ | ⟨a, rest⟩
    · exact .inl (by simp only [step, act, hpend])
    · cases a with
      | register id =>
        refine .inr ⟨s, now, id, rest, rfl, hpend, ?_, ?_⟩
        · simp [step, act, hpend, perform, register, setStream]
        · simp [step, act, hpend, perform, register, setStream]
      | unregister id => exact .inl (by simp only [step, act, hpend, perform, hunregister]; rfl)
      | _ => exact .inl (by simp only [step, act, hpend, perform]; rfl)

theorem register_not_mem_cleanup (owned : List String) (id : String) :
    .register id ∉ cleanup owned := by
  intro hmem
  obtain ⟨_, -, hmem⟩ := List.mem_flatMap.mp hmem
  simp at hmem

/-- At most one entry is of the stream, and it is the client's. As long as it is to be
made there is none. -/
structure Joined (clientID : String) (S : StreamID) (σ : GameServer) : Prop where
  own : ∀ r < σ.entries.next, (σ.entries.cell r).stream = S → (σ.entries.cell r).id = clientID
  sole : ∀ r < σ.entries.next, ∀ q < σ.entries.next,
    (σ.entries.cell r).stream = S → (σ.entries.cell q).stream = S → r = q
  waiting : ∀ id rest, (σ.streams S).pending = .register id :: rest →
    id = clientID ∧ ∀ r < σ.entries.next, (σ.entries.cell r).stream ≠ S
  tail : ∀ id, .register id ∉ (σ.streams S).pending.tail

namespace Joined

variable {clientID : String} {S : StreamID} {σ σ' : GameServer}

/-- No entry is made. -/
theorem keep (h : Joined clientID S σ) (hlater : Later σ σ')
    (hnext : σ'.entries.next = σ.entries.next)
    (hwaiting : ∀ id rest, (σ'.streams S).pending = .register id :: rest →
      id = clientID ∧ ∀ r < σ.entries.next, (σ.entries.cell r).stream ≠ S)
    (htail : ∀ id, .register id ∉ (σ'.streams S).pending.tail) : Joined clientID S σ' := by
  constructor
  case own =>
    intro r hr hstream
    rw [hnext] at hr
    rw [hlater.stream_eq r hr] at hstream
    rw [hlater.id_eq r hr]
    exact h.own r hr hstream
  case sole =>
    intro r hr q hq hrs hqs
    rw [hnext] at hr hq
    rw [hlater.stream_eq r hr] at hrs
    rw [hlater.stream_eq q hq] at hqs
    exact h.sole r hr q hq hrs hqs
  case waiting =>
    intro id rest hpend
    obtain ⟨hid, hnone⟩ := hwaiting id rest hpend
    refine ⟨hid, fun r hr => ?_⟩
    rw [hnext] at hr
    rw [hlater.stream_eq r hr]
    exact hnone r hr
  case tail => exact htail

/-- Another stream makes an entry. -/
theorem other (h : Joined clientID S σ) (hlater : Later σ σ') {s : StreamID} {id : String}
    (hs : s ≠ S) (hnext : σ'.entries.next = σ.entries.next + 1)
    (hmade : σ'.entries.cell σ.entries.next = ⟨s, id, false, false⟩)
    (hpend : (σ'.streams S).pending = (σ.streams S).pending) : Joined clientID S σ' := by
  -- what is of this stream was there before
  have hold : ∀ r < σ'.entries.next, (σ'.entries.cell r).stream = S → r < σ.entries.next := by
    intro r hr hstream
    rcases Nat.lt_succ_iff_lt_or_eq.mp (hnext ▸ hr) with hlt | rfl
    · exact hlt
    · rw [hmade] at hstream
      exact absurd hstream hs
  constructor
  case own =>
    intro r hr hstream
    have hlt := hold r hr hstream
    rw [hlater.stream_eq r hlt] at hstream
    rw [hlater.id_eq r hlt]
    exact h.own r hlt hstream
  case sole =>
    intro r hr q hq hrs hqs
    have hlt := hold r hr hrs
    have hlt' := hold q hq hqs
    rw [hlater.stream_eq r hlt] at hrs
    rw [hlater.stream_eq q hlt'] at hqs
    exact h.sole r hlt q hlt' hrs hqs
  case waiting =>
    intro id' rest hpend'
    obtain ⟨hid, hnone⟩ := h.waiting id' rest (hpend ▸ hpend')
    refine ⟨hid, fun r hr hstream => ?_⟩
    have hlt := hold r hr hstream
    rw [hlater.stream_eq r hlt] at hstream
    exact hnone r hlt hstream
  case tail => rw [hpend]; exact h.tail

/-- The stream makes the entry of the client. -/
theorem made (h : Joined clientID S σ) (hlater : Later σ σ') {id : String} {rest : List Action}
    (hpend : (σ.streams S).pending = .register id :: rest)
    (hnext : σ'.entries.next = σ.entries.next + 1)
    (hmade : σ'.entries.cell σ.entries.next = ⟨S, id, false, false⟩)
    (hrest : (σ'.streams S).pending = rest) : Joined clientID S σ' := by
  obtain ⟨rfl, hnone⟩ := h.waiting id rest hpend
  have htail := h.tail
  rw [hpend, List.tail_cons] at htail
  have honly : ∀ r < σ'.entries.next, (σ'.entries.cell r).stream = S → r = σ.entries.next := by
    intro r hr hstream
    rcases Nat.lt_succ_iff_lt_or_eq.mp (hnext ▸ hr) with hlt | heq
    · rw [hlater.stream_eq r hlt] at hstream
      exact absurd hstream (hnone r hlt)
    · exact heq
  constructor
  case own =>
    intro r hr hstream
    rw [honly r hr hstream, hmade]
  case sole =>
    intro r hr q hq hrs hqs
    rw [honly r hr hrs, honly q hq hqs]
  case waiting =>
    intro id' rest' hpend'
    exact absurd (by rw [← hrest, hpend']; simp) (htail id')
  case tail =>
    intro id' hmem
    rw [hrest] at hmem
    exact htail id' (List.mem_of_mem_tail hmem)

/-- A goroutine does something, and it is not that a packet comes on the stream. -/
theorem step (h : Joined clientID S σ) (H : Host) {stp : RelayStep}
    (hstp : ∀ pkt, stp ≠ .recv S pkt) : Joined clientID S (σ.step H stp) := by
  have hlater := Later.step H σ stp
  rcases σ.next_step H stp with hnext | ⟨s, now, id, rest, rfl, hpend, hnext, hmade⟩
  · rcases σ.pending_step H hstp with hpend | ⟨now, -, hpend⟩ | hpend
    · exact h.keep hlater hnext (by rw [hpend]; exact h.waiting) (by rw [hpend]; exact h.tail)
    · refine h.keep hlater hnext (fun id rest heq => ?_) fun id hmem => ?_
      · exact absurd (by rw [← hpend, heq]; simp) (h.tail id)
      · exact h.tail id (List.mem_of_mem_tail (hpend ▸ hmem))
    · refine h.keep hlater hnext (fun id rest heq => ?_) fun id hmem => ?_
      · exact absurd (by rw [← hpend, heq]; simp) (register_not_mem_cleanup _ id)
      · exact register_not_mem_cleanup _ id (List.mem_of_mem_tail (hpend ▸ hmem))
  · by_cases hs : s = S
    · subst hs
      refine h.made hlater hpend hnext hmade ?_
      rw [GameServer.step, pending_act, hpend]
      rfl
    · refine h.other hlater hs hnext hmade ?_
      rw [streams_step_ne H σ (by simpa [RelayStep.stream] using hs)]

end Joined

/-- A packet comes on the stream. Only the first one announces the client. -/
theorem Joined.recv {clientID : String} {S : StreamID} {σ : GameServer} (h : Joined clientID S σ)
    (H : Host) {pkt : RelayPacket}
    (hconnect : pkt.kind = .connect →
      pkt.clientID = clientID ∧ ∀ r < σ.entries.next, (σ.entries.cell r).stream ≠ S) :
    Joined clientID S (σ.step H (.recv S pkt)) := by
  have hnext : (σ.step H (.recv S pkt)).entries.next = σ.entries.next := by
    simp only [GameServer.step, GameServer.recv]
    split <;> rfl
  have hpend : ((σ.step H (.recv S pkt)).streams S).pending = (σ.streams S).pending ∨
      ((σ.step H (.recv S pkt)).streams S).pending = handle pkt := by
    simp only [GameServer.step, GameServer.recv]
    split
    · exact .inr (by simp [setStream])
    · exact .inl rfl
  rcases hpend with hpend | hpend
  · exact h.keep (Later.step H σ _) hnext (by rw [hpend]; exact h.waiting)
      (by rw [hpend]; exact h.tail)
  · refine h.keep (Later.step H σ _) hnext (fun id rest heq => ?_) fun id hmem => ?_
    · rw [hpend] at heq
      cases hkind : pkt.kind <;> simp [handle, hkind] at heq
      exact heq.1 ▸ hconnect hkind
    · rw [hpend] at hmem
      cases hkind : pkt.kind <;> simp [handle, hkind] at hmem

end GameServer

namespace GameServer

/-- Nobody has joined on the stream, and nobody is about to. -/
structure Unjoined (S : StreamID) (σ : GameServer) : Prop where
  entries : ∀ r < σ.entries.next, (σ.entries.cell r).stream ≠ S
  pending : ∀ id, .register id ∉ (σ.streams S).pending

theorem Unjoined.step {S : StreamID} {σ : GameServer} (h : Unjoined S σ) (H : Host)
    {stp : RelayStep} (hstp : ∀ pkt, stp ≠ .recv S pkt) : Unjoined S (σ.step H stp) := by
  have hlater := Later.step H σ stp
  constructor
  case entries =>
    intro r hr
    rcases σ.next_step H stp with hnext | ⟨s, now, id, rest, rfl, hpend, hnext, hmade⟩
    · rw [hnext] at hr
      rw [hlater.stream_eq r hr]
      exact h.entries r hr
    · rcases Nat.lt_succ_iff_lt_or_eq.mp (hnext ▸ hr) with hlt | rfl
      · rw [hlater.stream_eq r hlt]
        exact h.entries r hlt
      · rw [hmade]
        rintro rfl
        exact h.pending id (by rw [hpend]; simp)
  case pending =>
    intro id hmem
    rcases σ.pending_step H hstp with hpend | ⟨now, -, hpend⟩ | hpend
    · exact h.pending id (hpend ▸ hmem)
    · exact h.pending id (List.mem_of_mem_tail (hpend ▸ hmem))
    · exact register_not_mem_cleanup _ id (hpend ▸ hmem)

end GameServer

namespace Gateway.RelaySession

/-! ## What a session receives -/

/-- The move makes the writer receive something. -/
def receives (s : RelaySession) : SessionMove → Bool
  | .writer (some _) _ => decide (s.writer = .receiving)
  | _ => false

/-- Nothing else is logged as received. -/
theorem received_step (s : RelaySession) {m : SessionMove} (hm : s.receives m = false) :
    (s.step m).received = s.received := by
  cases m with
  | main ok => exact (s.advance_cases ok).1
  | reader input ok =>
    simp only [step, readerStep]
    split
    · rfl
    · rfl
    · split <;> rfl
    · rfl
    · rfl
    · next data _ =>
      obtain ⟨-, -, hsend⟩ | hsend := s.send_cases (dataPacket s.clientID data) ok <;> rw [hsend]
    · split <;> rfl
  | writer input ok =>
    simp only [step, writerStep]
    split
    · rfl
    · rfl
    · next hwriter =>
      cases input with
      | none => rfl
      | some data => simp [receives, hwriter] at hm
    · split_ifs <;> rfl
    · split <;> rfl
  | shutdown => rfl

/-- Only the first packet announces the client. -/
theorem Transcript.connect_first {clientID : String} {claims : Claims} {gone : Bool}
    {sent : List RelayPacket} {payloads : List Bytes}
    (h : Transcript clientID claims gone sent payloads) {i : ℕ} {pkt : RelayPacket}
    (hpkt : sent[i]? = some pkt) (hkind : pkt.kind = .connect) :
    i = 0 ∧ pkt.clientID = clientID := by
  have hdata : ∀ (payloads : List Bytes) (j : ℕ),
      (payloads.map (dataPacket clientID))[j]? ≠ some pkt := by
    intro payloads j heq
    rw [List.getElem?_map, Option.map_eq_some_iff] at heq
    obtain ⟨data, -, rfl⟩ := heq
    cases hkind
  rcases i with _ | i
  · rw [h.head_eq hpkt]
    exact ⟨rfl, rfl⟩
  · exfalso
    cases h with
    | silent => cases hpkt
    | greeted => exact hdata _ _ hpkt
    | parted before after =>
      rw [List.cons_append, List.getElem?_cons_succ, List.getElem?_append] at hpkt
      split_ifs at hpkt
      · exact hdata _ _ hpkt
      · rcases hj : i - (before.map (dataPacket clientID)).length with _ | j <;> rw [hj] at hpkt
        · cases hpkt
          cases hkind
        · exact hdata _ _ hpkt

end Gateway.RelaySession

namespace EventPipe

variable {A : Adapter} {H : Host} {p : EventPipe}

/-! ## What comes on a stream -/

/-- What was sent on the stream, by any sender. -/
def wireOn (S : StreamID) (p : EventPipe) : List Bytes :=
  (p.wire.filter fun packet => (p.server.entries.cell packet.1).stream = S).map Prod.snd

theorem wire_step (A : Adapter) (H : Host) (p : EventPipe) (stp : PipeStep) :
    p.wire <+: (p.step A H stp).wire := by
  cases stp with
  | relay stp =>
    simp only [step]
    split_ifs <;> exact List.prefix_rfl
  | drain =>
    simp only [step, drain]
    split <;> exact List.prefix_rfl
  | lookup =>
    simp only [step, lookup]
    split <;> exact List.prefix_rfl
  | operation =>
    simp only [step, operation]
    split <;> exact List.prefix_rfl
  | take r =>
    simp only [step, take]
    split_ifs
    · split <;> exact List.prefix_rfl
    · exact List.prefix_rfl
  | sent r =>
    simp only [step, sent]
    split
    · split_ifs
      · exact List.prefix_append _ _
      · exact List.prefix_rfl
    · exact List.prefix_rfl

/-- To the server a step of the pipeline is one of its goroutines, or it is nothing. -/
theorem server_step (A : Adapter) (H : Host) (p : EventPipe) (stp : PipeStep) :
    (∃ rstp, (stp = .relay rstp ∨ rstp = .call .drainEvent) ∧
      (p.step A H stp).server = p.server.step H rstp) ∨ (p.step A H stp).server = p.server := by
  cases stp with
  | relay rstp =>
    simp only [step]
    split_ifs
    · exact .inr rfl
    · exact .inl ⟨rstp, .inl rfl, rfl⟩
  | drain =>
    simp only [step, drain]
    split
    · exact .inl ⟨.call .drainEvent, .inr rfl, rfl⟩
    · exact .inr rfl
  | lookup =>
    simp only [step, lookup]
    split <;> exact .inr rfl
  | operation =>
    simp only [step, operation]
    split <;> exact .inr rfl
  | take r =>
    simp only [step, take]
    split_ifs
    · split <;> exact .inr rfl
    · exact .inr rfl
  | sent r =>
    simp only [step, sent]
    split
    · split_ifs <;> exact .inr rfl
    · exact .inr rfl

section Reachable

variable (A) (H) (sid : ServerID) (steps : List PipeStep)

/-- A sender sends, in order, packets of events that were routed to its entry. -/
theorem sentBy_sublist (r : ℕ) :
    let p := exec (step A H) (new sid) steps
    (p.sentBy r).Sublist ((p.routedTo r).map A.encodeEvent) := by
  intro p
  obtain ⟨items, hpushed, -, hsub⟩ := (accounted_view A H r sid steps).settled
  have hitems : items.Sublist ((p.routedTo r).map A.encodeEvent) := by
    change items.Sublist (view A r p).pushed
    rw [hpushed]
    exact List.sublist_append_left _ _
  refine (List.sublist_append_left _ (p.held r).toList).trans ?_
  exact (List.sublist_append_left _ _).trans (hsub.trans hitems)

/-- Who has sent something has an entry. -/
theorem wire_lt {packet : ℕ × Bytes} (hmem : packet ∈ (exec (step A H) (new sid) steps).wire) :
    packet.1 < (exec (step A H) (new sid) steps).server.entries.next := by
  set p := exec (step A H) (new sid) steps with hp
  have hsent : packet.2 ∈ p.sentBy packet.1 :=
    List.mem_map.mpr ⟨packet, List.mem_filter.mpr ⟨hmem, by simp⟩, rfl⟩
  have hrouted := (sentBy_sublist A H sid steps packet.1).subset hsent
  obtain ⟨evt, hevt, -⟩ := List.mem_map.mp hrouted
  obtain ⟨route, hroute, rfl⟩ := List.mem_map.mp hevt
  obtain ⟨hroute, hto⟩ := List.mem_filter.mp hroute
  have hto : route.2 = some packet.1 := of_decide_eq_true hto
  exact ((routed_exec A H sid steps).observers route.1 packet.1 (hto ▸ hroute)).1

/-- What was sent on a stream stays, and more may be sent. -/
theorem wireOn_step (S : StreamID) (stp : PipeStep) :
    let p := exec (step A H) (new sid) steps
    wireOn S p <+: wireOn S (p.step A H stp) := by
  intro p
  obtain ⟨more, hmore⟩ := wire_step A H p stp
  have hsame : ∀ packet ∈ p.wire, ((p.step A H stp).server.entries.cell packet.1).stream =
      (p.server.entries.cell packet.1).stream := fun packet hmem =>
    (later_step A H p stp).stream_eq _ (wire_lt A H sid steps hmem)
  have hold : p.wire.filter (fun packet =>
        ((p.step A H stp).server.entries.cell packet.1).stream = S) =
      p.wire.filter fun packet => (p.server.entries.cell packet.1).stream = S :=
    List.filter_congr fun packet hmem => by rw [hsame packet hmem]
  rw [wireOn, wireOn, ← hmore, List.filter_append, List.map_append, hold]
  exact List.prefix_append _ _

/-- If the stream has one sender, what was sent on it are events for its client, in the
order of their publication. -/
theorem wireOn_sublist {clientID : String} {S : StreamID}
    (hjoined : (exec (step A H) (new sid) steps).server.Joined clientID S) :
    let p := exec (step A H) (new sid) steps
    (wireOn S p).Sublist
      ((p.server.game.events.sent.filter fun evt => evt.observer = clientID).map
        A.encodeEvent) := by
  intro p
  have hrouted : Routed p := routed_exec A H sid steps
  by_cases hany : ∃ packet ∈ p.wire, (p.server.entries.cell packet.1).stream = S
  · obtain ⟨⟨r, data⟩, hmem, hstream⟩ := hany
    have hr := wire_lt A H sid steps hmem
    have hid := hjoined.own r hr hstream
    have hwire : wireOn S p = p.sentBy r := by
      unfold wireOn sentBy
      congr 1
      refine List.filter_congr fun packet hpacket => ?_
      have hlt := wire_lt A H sid steps hpacket
      refine decide_eq_decide.mpr ⟨fun h => hjoined.sole _ hlt _ hr h hstream, ?_⟩
      rintro rfl
      exact hstream
    have hevents : (p.routedTo r).Sublist
        (p.server.game.events.sent.filter fun evt => evt.observer = clientID) := by
      have hlog : (p.routed.map Prod.fst).Sublist p.server.game.events.sent := by
        refine (List.sublist_append_left _ p.drainer.pending).trans ?_
        rw [hrouted.drained]
        exact List.take_sublist _ _
      have hown : p.routedTo r = (p.routedTo r).filter fun evt => evt.observer = clientID := by
        refine (List.filter_eq_self.mpr fun evt hevt => ?_).symm
        obtain ⟨route, hroute, rfl⟩ := List.mem_map.mp hevt
        obtain ⟨hroute, hto⟩ := List.mem_filter.mp hroute
        have hto : route.2 = some r := of_decide_eq_true hto
        have hobserver := (hrouted.observers route.1 r (hto ▸ hroute)).2
        simp [← hobserver, show (p.server.entries.cell r).id = clientID from hid]
      rw [hown]
      exact ((List.filter_sublist.map _).trans hlog).filter _
    rw [hwire]
    exact (sentBy_sublist A H sid steps r).trans (hevents.map _)
  · have hnone : wireOn S p = [] := by
      unfold wireOn
      rw [List.filter_eq_nil_iff.mpr fun packet hmem => by
        simpa using fun h => hany ⟨packet, hmem, h⟩]
      rfl
    rw [hnone]
    exact List.nil_sublist _

end Reachable

end EventPipe

/-! ## The whole way -/

/-- A gateway connection and the server that it speaks to. `taken` counts the packets
that the server has received on the stream, and `fetched` those that the connection
has. -/
structure Egress where
  session : RelaySession
  pipe : EventPipe
  taken : ℕ
  fetched : ℕ

inductive EgressStep where
  | session (m : SessionMove)
  | fetch
  | deliver
  | server (stp : PipeStep)

namespace Egress

def new (clientID : String) (claims : Claims) (sid : ServerID) : Egress :=
  ⟨.new clientID claims, .new sid, 0, 0⟩

/-- The step would bring a packet on the stream from somewhere else. -/
def feeds (S : StreamID) : PipeStep → Bool
  | .relay (.recv s _) => decide (s = S)
  | _ => false

/-- The writer of the connection receives the next packet of the stream. -/
def fetch (S : StreamID) (x : Egress) : Egress :=
  match (x.pipe.wireOn S)[x.fetched]? with
  | some data =>
    if x.session.writer = .receiving ∧ x.session.cancelled = false then
      { x with session := x.session.step (.writer (some data) true), fetched := x.fetched + 1 }
    else x
  | none => x

def deliver (A : Adapter) (H : Host) (S : StreamID) (x : Egress) : Egress :=
  match x.session.sent[x.taken]? with
  | some pkt =>
    if (x.pipe.server.streams S).receiving then
      { x with pipe := x.pipe.step A H (.relay (.recv S pkt)), taken := x.taken + 1 }
    else x
  | none => x

def step (A : Adapter) (H : Host) (S : StreamID) (x : Egress) : EgressStep → Egress
  | .session m => if x.session.receives m then x else { x with session := x.session.step m }
  | .fetch => x.fetch S
  | .deliver => x.deliver A H S
  | .server stp => if feeds S stp then x else { x with pipe := x.pipe.step A H stp }

variable {A : Adapter} {H : Host} {S : StreamID} {clientID : String} {claims : Claims} {x : Egress}

/-- What holds at every point of the way. -/
structure Flowing (A : Adapter) (H : Host) (clientID : String) (claims : Claims) (sid : ServerID)
    (S : StreamID) (x : Egress) : Prop where
  session : ∃ moves, x.session = exec RelaySession.step (.new clientID claims) moves
  pipe : ∃ steps, x.pipe = exec (EventPipe.step A H) (.new sid) steps
  joined : x.pipe.server.Joined clientID S
  unheard : x.taken = 0 → x.pipe.server.Unjoined S
  fetched_le : x.fetched ≤ (x.pipe.wireOn S).length
  received : x.session.received = (x.pipe.wireOn S).take x.fetched

variable {sid : ServerID}

theorem flowing_new (A : Adapter) (H : Host) (clientID : String) (claims : Claims) (sid : ServerID)
    (S : StreamID) : Flowing A H clientID claims sid S (new clientID claims sid) where
  session := ⟨[], rfl⟩
  pipe := ⟨[], rfl⟩
  joined := ⟨fun r hr => by simp [new, EventPipe.new, GameServer.new, Heap.empty] at hr,
    fun r hr => by simp [new, EventPipe.new, GameServer.new, Heap.empty] at hr,
    fun id rest h => by simp [new, EventPipe.new, GameServer.new] at h,
    fun id h => by simp [new, EventPipe.new, GameServer.new] at h⟩
  unheard := fun _ => ⟨fun r hr => by simp [new, EventPipe.new, GameServer.new, Heap.empty] at hr,
    fun id h => by simp [new, EventPipe.new, GameServer.new] at h⟩
  fetched_le := Nat.zero_le _
  received := rfl

/-- The server goes on; what was sent on the stream stays. -/
theorem Flowing.pipe_step (h : Flowing A H clientID claims sid S x) {stp : PipeStep} {taken : ℕ}
    (hjoined : (x.pipe.step A H stp).server.Joined clientID S)
    (hunheard : taken = 0 → (x.pipe.step A H stp).server.Unjoined S) :
    Flowing A H clientID claims sid S { x with pipe := x.pipe.step A H stp, taken := taken } := by
  obtain ⟨steps, hpipe⟩ := h.pipe
  have hwire := EventPipe.wireOn_step A H sid steps S stp
  rw [← hpipe] at hwire
  obtain ⟨more, hmore⟩ := hwire
  refine ⟨h.session, ⟨steps ++ [stp], by rw [exec_append, ← hpipe]; rfl⟩, hjoined, hunheard,
    ?_, ?_⟩
  · rw [← hmore, List.length_append]
    exact h.fetched_le.trans (Nat.le_add_right _ _)
  · rw [← hmore, List.take_append_of_le_length h.fetched_le]
    exact h.received

theorem Flowing.session_step (h : Flowing A H clientID claims sid S x) {m : SessionMove}
    (hm : x.session.receives m = false) :
    Flowing A H clientID claims sid S { x with session := x.session.step m } := by
  obtain ⟨moves, hsession⟩ := h.session
  refine ⟨⟨moves ++ [m], by rw [exec_append, ← hsession]; rfl⟩, h.pipe, h.joined, h.unheard,
    h.fetched_le, ?_⟩
  rw [x.session.received_step hm]
  exact h.received

theorem Flowing.fetch (h : Flowing A H clientID claims sid S x) :
    Flowing A H clientID claims sid S (x.fetch S) := by
  unfold Egress.fetch
  split
  · next data hdata =>
    split_ifs with hready
    · obtain ⟨moves, hsession⟩ := h.session
      obtain ⟨hlt, hget⟩ := List.getElem?_eq_some_iff.mp hdata
      refine ⟨⟨moves ++ [.writer (some data) true], by rw [exec_append, ← hsession]; rfl⟩, h.pipe,
        h.joined, h.unheard, hlt, ?_⟩
      rw [List.take_succ_eq_append_getElem hlt, hget, ← h.received]
      simp [RelaySession.step, RelaySession.writerStep, hready.1, hready.2]
    · exact h
  · exact h

theorem Flowing.deliver (h : Flowing A H clientID claims sid S x) :
    Flowing A H clientID claims sid S (x.deliver A H S) := by
  unfold Egress.deliver
  split
  · next pkt hpkt =>
    split_ifs
    · obtain ⟨moves, hsession⟩ := h.session
      obtain ⟨gone, payloads, htold, -⟩ := RelaySession.transcript_exec clientID claims moves
      rw [← hsession] at htold
      refine h.pipe_step ?_ (fun hzero => absurd hzero (Nat.succ_ne_zero _))
      refine h.joined.recv H fun hkind => ?_
      obtain ⟨hfirst, hclient⟩ := htold.connect_first hpkt hkind
      exact ⟨hclient, (h.unheard hfirst).entries⟩
    · exact h
  · exact h

theorem Flowing.server (h : Flowing A H clientID claims sid S x) {stp : PipeStep}
    (hstp : feeds S stp = false) :
    Flowing A H clientID claims sid S { x with pipe := x.pipe.step A H stp } := by
  obtain ⟨rstp, hrstp, hserver⟩ | hserver := EventPipe.server_step A H x.pipe stp
  · have hrecv : ∀ pkt, rstp ≠ .recv S pkt := by
      rintro pkt rfl
      obtain rfl : stp = .relay (.recv S pkt) := hrstp.resolve_right (by simp)
      simp [feeds] at hstp
    refine h.pipe_step ?_ fun hzero => ?_ <;> rw [hserver]
    · exact h.joined.step H hrecv
    · exact (h.unheard hzero).step H hrecv
  · refine h.pipe_step ?_ fun hzero => ?_ <;> rw [hserver]
    · exact h.joined
    · exact h.unheard hzero

theorem Flowing.step (h : Flowing A H clientID claims sid S x) (stp : EgressStep) :
    Flowing A H clientID claims sid S (x.step A H S stp) := by
  cases stp with
  | session m =>
    simp only [Egress.step]
    split_ifs with hm
    · exact h
    · exact h.session_step (Bool.eq_false_iff.mpr hm)
  | fetch => exact h.fetch
  | deliver => exact h.deliver
  | server stp =>
    simp only [Egress.step]
    split_ifs with hstp
    · exact h
    · exact h.server (Bool.eq_false_iff.mpr hstp)

/-- What was written came on the stream, and so was published for the client. -/
theorem Flowing.written_sublist (h : Flowing A H clientID claims sid S x) :
    x.session.written.Sublist
      ((x.pipe.server.game.events.sent.filter fun evt => evt.observer = clientID).map
        A.encodeEvent) := by
  obtain ⟨moves, hsession⟩ := h.session
  obtain ⟨psteps, hpipe⟩ := h.pipe
  obtain ⟨lost, hreceived, -⟩ := (RelaySession.sound_exec clientID claims moves).echoed
  rw [← hsession] at hreceived
  have hwritten : x.session.written.Sublist x.session.received := by
    rw [hreceived, List.append_assoc]
    exact List.sublist_append_left _ _
  rw [h.received] at hwritten
  have hwire := EventPipe.wireOn_sublist A H sid psteps (hpipe ▸ h.joined)
  rw [← hpipe] at hwire
  exact hwritten.trans ((List.take_sublist _ _).trans hwire)

/-- What is written to the socket of a client are events that were published for that
client and no other, each at most once and in the order of their publication. -/
theorem events_reach_socket (A : Adapter) (H : Host) (S : StreamID) (clientID : String)
    (claims : Claims) (sid : ServerID) (steps : List EgressStep) :
    let x := exec (step A H S) (new clientID claims sid) steps
    x.session.written.Sublist
      ((x.pipe.server.game.events.sent.filter fun evt => evt.observer = clientID).map
        A.encodeEvent) := by
  intro x
  have h : Flowing A H clientID claims sid S x :=
    exec_keeps (Flowing A H clientID claims sid S) (fun _ stp h => h.step stp)
      (flowing_new A H clientID claims sid S) steps
  exact h.written_sublist

end Egress

end SpatialServer

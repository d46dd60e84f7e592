import SpatialServer.ConnectOrder
import SpatialServer.RelaySession

/-!
# From the socket to the simulation

The packets that a relayed connection puts on its stream are received, in their
order, by the goroutine that serves the stream, and what they carry is put into the
inbox if there is room. The tick loop takes the packets from the inbox. Gateway,
stream goroutines, senders and tick loop take their steps in any order; only one
gateway connection speaks on a stream.

A message may be dropped by a limiter, with the stream, or at the inbox. What comes
through comes through once and in order, and after the client has connected.
-/
namespace SpatialServer

open Runs Gateway

/-- The packet that an action puts into the inbox. -/
def Action.packet : Action → Option InboundPacket
  | .receive pkt => some pkt
  | _ => none

/-- What the packets of a stream carry for the inbox. -/
def messages (pkts : List RelayPacket) : List InboundPacket :=
  (pkts.filter fun pkt => pkt.kind = .data).map fun pkt => ⟨pkt.clientID, pkt.payload⟩

/-- A gateway connection and the server that it speaks to, with the number of its
packets that the server has received. -/
structure Ingress where
  session : RelaySession
  served : Served
  taken : ℕ

inductive IngressStep where
  | session (m : SessionMove)
  | deliver
  | server (mv : Move)

namespace Ingress

def new (clientID : String) (claims : Claims) (sid : ServerID) : Ingress :=
  ⟨.new clientID claims, .new sid, 0⟩

/-- The move would bring a packet on the stream from somewhere else. -/
def feeds (S : StreamID) : Move → Bool
  | .relay (.recv s _) _ => decide (s = S)
  | _ => false

/-- The goroutine of the stream receives the next packet when it is done with the
last one. -/
def deliver (H : Host) (S : StreamID) (x : Ingress) : Ingress :=
  match x.session.sent[x.taken]? with
  | some pkt =>
    if (x.served.server.streams S).receiving then
      { x with served := x.served.step H (.relay (.recv S pkt) rfl), taken := x.taken + 1 }
    else x
  | none => x

def step (H : Host) (S : StreamID) (x : Ingress) : IngressStep → Ingress
  | .session m => { x with session := x.session.step m }
  | .deliver => x.deliver H S
  | .server mv => if feeds S mv then x else { x with served := x.served.step H mv }

/-- What came on the stream and found room in the inbox. -/
def arrivedOn (S : StreamID) (t : Served) : List InboundPacket :=
  (t.arrivals.filter fun a => a.stream = S).map Arrival.pkt

/-- What the goroutine of the stream is about to put into the inbox. -/
def pendingOn (S : StreamID) (t : Served) : List InboundPacket :=
  (t.server.streams S).pending.filterMap Action.packet

end Ingress

namespace Gateway.RelaySession

/-! ## What a session has said -/

/-- Nothing that was read or said is taken back. -/
structure Grows (s t : RelaySession) : Prop where
  read : s.read <+: t.read
  sent : s.sent <+: t.sent

theorem Grows.of_eq {s t : RelaySession} (hread : t.read = s.read) (hsent : t.sent = s.sent) :
    Grows s t :=
  ⟨by rw [hread], by rw [hsent]⟩

theorem grows_send (s : RelaySession) (pkt : RelayPacket) (ok : Bool) :
    Grows s (s.send pkt ok).1 := by
  obtain ⟨-, -, hsend⟩ | hsend := s.send_cases pkt ok
  · rw [hsend]
    exact ⟨List.prefix_rfl, List.prefix_append _ _⟩
  · rw [hsend]
    exact .of_eq rfl rfl

theorem grows_step (s : RelaySession) (m : SessionMove) : Grows s (s.step m) := by
  cases m with
  | main ok =>
    simp only [step, advance]
    split
    · split_ifs <;> exact .of_eq rfl rfl
    · split_ifs <;> exact .of_eq rfl rfl
    · exact ⟨(s.grows_send _ ok).read, (s.grows_send _ ok).sent⟩
    · exact .of_eq rfl rfl
    · split <;> exact .of_eq rfl rfl
    · exact ⟨(s.grows_send _ ok).read, (s.grows_send _ ok).sent⟩
    · split
      · exact .of_eq rfl rfl
      · next d _ _ => cases d <;> exact .of_eq rfl rfl
  | reader input ok =>
    simp only [step, readerStep]
    split
    · exact .of_eq rfl rfl
    · exact .of_eq rfl rfl
    · split
      · exact ⟨List.prefix_append _ _, List.prefix_rfl⟩
      · exact .of_eq rfl rfl
    · exact .of_eq rfl rfl
    · exact .of_eq rfl rfl
    · exact ⟨(s.grows_send _ ok).read, (s.grows_send _ ok).sent⟩
    · split <;> exact .of_eq rfl rfl
  | writer input ok =>
    simp only [step, writerStep]
    split
    · exact .of_eq rfl rfl
    · exact .of_eq rfl rfl
    · split <;> exact .of_eq rfl rfl
    · split_ifs <;> exact .of_eq rfl rfl
    · split <;> exact .of_eq rfl rfl
  | shutdown => exact .of_eq rfl rfl

namespace Transcript

variable {clientID : String} {claims : Claims} {gone : Bool} {sent : List RelayPacket}
  {payloads : List Bytes}

theorem messages_data (clientID : String) (payloads : List Bytes) :
    messages (payloads.map (dataPacket clientID)) = payloads.map (⟨clientID, ·⟩) := by
  induction payloads with
  | nil => rfl
  | cons data payloads ih => simpa [messages, dataPacket] using ih

/-- The messages of a transcript are its payloads, in the name of the client. -/
theorem messages_eq (h : Transcript clientID claims gone sent payloads) :
    messages sent = payloads.map (⟨clientID, ·⟩) := by
  cases h with
  | silent => rfl
  | greeted => exact messages_data clientID payloads
  | parted before after =>
    have hsplit : messages (connectPacket clientID claims :: before.map (dataPacket clientID) ++
        peerDisconnectedPacket clientID :: after.map (dataPacket clientID)) =
        messages (before.map (dataPacket clientID)) ++
          messages (after.map (dataPacket clientID)) := by
      simp [messages, connectPacket, peerDisconnectedPacket]
    rw [hsplit, messages_data, messages_data, List.map_append]

/-- It begins with the announcement. -/
theorem head_eq (h : Transcript clientID claims gone sent payloads) {pkt : RelayPacket}
    (hpkt : sent[0]? = some pkt) : pkt = connectPacket clientID claims := by
  cases h with
  | silent => cases hpkt
  | greeted => exact (Option.some.inj hpkt).symm
  | parted before after => exact (Option.some.inj hpkt).symm

end Transcript

end Gateway.RelaySession

namespace Ingress

variable {H : Host} {S : StreamID} {clientID : String} {claims : Claims} {x : Ingress}

/-- What is on its way along the stream, at every point of it. -/
structure Fed (clientID : String) (claims : Claims) (S : StreamID) (x : Ingress) : Prop where
  session : ∃ moves, x.session = exec RelaySession.step (.new clientID claims) moves
  taken_le : x.taken ≤ x.session.sent.length
  connected : 0 < x.taken → clientID ∈ (x.served.server.streams S).owned
  inbox : x.served.arrivals.map Arrival.pkt = x.served.server.game.inbox.sent
  passed : (arrivedOn S x.served ++ pendingOn S x.served).Sublist
    (messages (x.session.sent.take x.taken))
  flagged : ∀ a ∈ x.served.arrivals, a.stream = S → a.connected = true

theorem fed_new (clientID : String) (claims : Claims) (S : StreamID) (sid : ServerID) :
    Fed clientID claims S (new clientID claims sid) where
  session := ⟨[], rfl⟩
  taken_le := Nat.zero_le _
  connected := fun h => absurd h (lt_irrefl 0)
  inbox := rfl
  passed := .slnil
  flagged := fun a ha => by cases ha

theorem Fed.transcript (h : Fed clientID claims S x) : ∃ gone payloads,
    RelaySession.Transcript clientID claims gone x.session.sent payloads ∧
      payloads.Sublist x.session.read := by
  obtain ⟨moves, hsession⟩ := h.session
  rw [hsession]
  exact RelaySession.transcript_exec clientID claims moves

/-- Received packets are packets that were sent. -/
theorem messages_take_sublist (x : Ingress) :
    (messages (x.session.sent.take x.taken)).Sublist (messages x.session.sent) :=
  ((List.take_sublist _ _).filter _).map _

/-- Everything on the stream is of the client. -/
theorem Fed.clientID_eq (h : Fed clientID claims S x) {pkt : InboundPacket}
    (hpkt : pkt ∈ messages (x.session.sent.take x.taken)) : pkt.clientID = clientID ∧ 0 < x.taken := by
  obtain ⟨gone, payloads, htold, -⟩ := h.transcript
  constructor
  · have hmem := x.messages_take_sublist.subset hpkt
    rw [htold.messages_eq] at hmem
    obtain ⟨data, -, rfl⟩ := List.mem_map.mp hmem
    rfl
  · refine Nat.pos_of_ne_zero fun hzero => ?_
    rw [hzero] at hpkt
    cases hpkt

end Ingress

namespace GameServer

theorem pending_act (σ : GameServer) (s : StreamID) (now : Time) :
    ((σ.act s now).streams s).pending = (σ.streams s).pending.tail := by
  unfold act
  split
  · next hpend => rw [hpend]; rfl
  · next a rest hpend =>
    rw [hpend]
    cases a <;> simp [perform, register, setStream, onGame]

theorem pending_endStream (σ : GameServer) (s : StreamID) :
    ((σ.endStream s).streams s).pending.filterMap Action.packet =
      (σ.streams s).pending.filterMap Action.packet := by
  simp only [endStream]
  split_ifs with hrecv
  · have hnone : (σ.streams s).pending = [] := by
      simp only [Stream.receiving, Bool.and_eq_true, List.isEmpty_iff] at hrecv
      exact hrecv.2
    have hclean : ∀ owned : List String, (cleanup owned).filterMap Action.packet = [] := by
      intro owned
      induction owned with
      | nil => rfl
      | cons id owned ih => exact ih
    simp [setStream, hnone, hclean]
  · rfl

/-- Unless a packet comes on it, a stream keeps what it has pending, goes on with it, or
cleans up. -/
theorem pending_step (H : Host) (σ : GameServer) {S : StreamID} {stp : RelayStep}
    (hstp : ∀ pkt, stp ≠ .recv S pkt) :
    ((σ.step H stp).streams S).pending = (σ.streams S).pending ∨
      (∃ now, stp = .act S now ∧
        ((σ.step H stp).streams S).pending = (σ.streams S).pending.tail) ∨
      ((σ.step H stp).streams S).pending = cleanup (σ.streams S).owned := by
  by_cases hs : stp.stream = some S
  · cases stp with
    | recv s pkt =>
      obtain rfl : s = S := Option.some.inj hs
      exact absurd rfl (hstp pkt)
    | endStream s =>
      obtain rfl : s = S := Option.some.inj hs
      simp only [step, endStream]
      split_ifs
      · exact .inr (.inr (by simp [setStream]))
      · exact .inl rfl
    | act s now =>
      obtain rfl : s = S := Option.some.inj hs
      exact .inr (.inl ⟨now, rfl, σ.pending_act s now⟩)
    | _ => cases hs
  · exact .inl (by rw [streams_step_ne H σ hs])

/-- What holds of all that a stream has pending, and of its cleanup, goes on to hold. -/
theorem pending_forall_step (H : Host) (σ : GameServer) {S : StreamID} {stp : RelayStep}
    (hstp : ∀ pkt, stp ≠ .recv S pkt) {P : Action → Prop}
    (hclean : ∀ id ∈ (σ.streams S).owned, P (.unregister id) ∧ P (.enqueueRemoveEntity id))
    (hpending : ∀ a ∈ (σ.streams S).pending, P a) :
    ∀ a ∈ ((σ.step H stp).streams S).pending, P a := by
  intro a ha
  rcases σ.pending_step H hstp with hpend | ⟨now, -, hpend⟩ | hpend <;> rw [hpend] at ha
  · exact hpending a ha
  · exact hpending a (List.mem_of_mem_tail ha)
  · obtain ⟨id, hid, ha⟩ := List.mem_flatMap.mp ha
    rcases List.mem_cons.mp ha with rfl | ha
    · exact (hclean id hid).1
    · rw [List.mem_singleton.mp ha]
      exact (hclean id hid).2

/-- Unless a packet comes on it, nobody joins those who connected on the stream. -/
theorem owned_step (H : Host) (σ : GameServer) {S : StreamID} {stp : RelayStep}
    (hstp : ∀ pkt, stp ≠ .recv S pkt) :
    ((σ.step H stp).streams S).owned = (σ.streams S).owned := by
  by_cases hs : stp.stream = some S
  · cases stp with
    | recv s pkt =>
      obtain rfl : s = S := Option.some.inj hs
      exact absurd rfl (hstp pkt)
    | endStream s =>
      obtain rfl : s = S := Option.some.inj hs
      simp only [step, endStream]
      split_ifs
      · simp [setStream]
      · rfl
    | act s now => exact owned_act σ s now S
    | _ => cases hs
  · rw [streams_step_ne H σ hs]

end GameServer

namespace Ingress

variable {H : Host} {S : StreamID} {clientID : String} {claims : Claims} {x : Ingress}

/-- The goroutine of the stream passes a packet on, drops it, or does something else. -/
theorem passed_act (H : Host) (S : StreamID) (t : Served) (now : Time) :
    (arrivedOn S (t.step H (.relay (.act S now) rfl)) ++
      pendingOn S (t.step H (.relay (.act S now) rfl))).Sublist (arrivedOn S t ++ pendingOn S t) := by
  have hpending : pendingOn S (t.step H (.relay (.act S now) rfl)) =
      (t.server.streams S).pending.tail.filterMap Action.packet := by
    simp only [pendingOn, Served.step, GameServer.step, GameServer.pending_act]
  rw [hpending]
  simp only [arrivedOn, pendingOn, Served.step]
  rcases hpend : (t.server.streams S).pending with _ | ⟨a, rest⟩
  · simp [GameServer.arrival, hpend]
  · cases a with
    | receive pkt =>
      by_cases hroom : (t.server.game.inbox.trySend pkt).isSome
      · simp [GameServer.arrival, hpend, hroom, Action.packet]
      · simp [GameServer.arrival, hpend, hroom, Action.packet]
    | _ => simp [GameServer.arrival, hpend, Action.packet, List.filterMap_cons]

/-- What others do brings nothing on the stream. -/
theorem passed_server (H : Host) {S : StreamID} (t : Served) {mv : Move} (hmv : feeds S mv = false) :
    (arrivedOn S (t.step H mv) ++ pendingOn S (t.step H mv)).Sublist
      (arrivedOn S t ++ pendingOn S t) := by
  cases mv with
  | loop inp => exact List.Sublist.refl _
  | relay stp hstp =>
    by_cases hs : stp.stream = some S
    · cases stp with
      | recv s pkt =>
        obtain rfl : s = S := Option.some.inj hs
        simp [feeds] at hmv
      | endStream s =>
        obtain rfl : s = S := Option.some.inj hs
        simp [arrivedOn, pendingOn, Served.step, GameServer.step, GameServer.arrival,
          GameServer.pending_endStream]
      | act s now =>
        obtain rfl : s = S := Option.some.inj hs
        exact passed_act H s t now
      | _ => cases hs
    · have hpending : pendingOn S (t.step H (.relay stp hstp)) = pendingOn S t := by
        simp only [pendingOn, Served.step, GameServer.streams_step_ne H t.server hs]
      have harrived : arrivedOn S (t.step H (.relay stp hstp)) = arrivedOn S t := by
        have hother : ∀ a ∈ (t.server.arrival stp).toList, a.stream ≠ S := by
          intro a ha heq
          cases stp with
          | act s now =>
            simp only [GameServer.arrival] at ha
            split at ha
            · split_ifs at ha
              · obtain rfl := Option.mem_toList.mp ha |> Option.some.inj
                exact hs (congrArg some heq)
              · cases ha
            · cases ha
          | _ => cases ha
        have hnone : ((t.server.arrival stp).toList.filter fun a => a.stream = S) = [] :=
          List.filter_eq_nil_iff.mpr fun a ha => by simpa using hother a ha
        simp only [arrivedOn, Served.step, List.filter_append, hnone, List.append_nil]
      rw [hpending, harrived]

/-- A packet that is put into the inbox from the stream is of the client, which has
connected. -/
theorem Fed.flagged_arrival (h : Fed clientID claims S x) {stp : RelayStep} {a : Arrival}
    (ha : x.served.server.arrival stp = some a) (hstream : a.stream = S) : a.connected = true := by
  obtain ⟨hhead, hflag⟩ := Served.arrival_eq_some ha
  rw [hstream] at hhead hflag
  have hmem : a.pkt ∈ pendingOn S x.served :=
    List.mem_filterMap.mpr ⟨_, List.mem_of_head? hhead, rfl⟩
  obtain ⟨hid, htaken⟩ := h.clientID_eq (h.passed.subset (List.mem_append_right _ hmem))
  rw [hflag, hid]
  exact decide_eq_true (h.connected htaken)

theorem Fed.server (h : Fed clientID claims S x) {mv : Move} (hmv : feeds S mv = false) :
    Fed clientID claims S { x with served := x.served.step H mv } where
  session := h.session
  taken_le := h.taken_le
  connected := fun htaken => by
    cases mv with
    | loop inp => exact h.connected htaken
    | relay stp hstp => exact Served.owned_relay H _ stp (h.connected htaken)
  inbox := by
    cases mv with
    | relay stp hstp =>
      simp only [Served.step, List.map_append, h.inbox, GameServer.inboxSent_relay H _ hstp]
    | loop inp =>
      simp only [Served.step, h.inbox, GameServer.onGame, Game.loopCall]
      split
      · next call hcall => exact (Game.inboxSent_step (Phase.ofTick_call hcall)).symm
      · rfl
  passed := (passed_server H x.served hmv).trans h.passed
  flagged := fun a ha hstream => by
    cases mv with
    | loop inp => exact h.flagged a ha hstream
    | relay stp hstp =>
      rcases List.mem_append.mp ha with ha | ha
      · exact h.flagged a ha hstream
      · exact h.flagged_arrival (Option.mem_toList.mp ha) hstream

/-- A session may say more, and the server has received what it has received. -/
theorem Fed.session_step (h : Fed clientID claims S x) (m : SessionMove) :
    Fed clientID claims S { x with session := x.session.step m } := by
  obtain ⟨moves, hsession⟩ := h.session
  obtain ⟨more, hmore⟩ := (x.session.grows_step m).sent
  have hsame : (x.session.step m).sent.take x.taken = x.session.sent.take x.taken := by
    rw [← hmore, List.take_append_of_le_length h.taken_le]
  refine ⟨⟨moves ++ [m], by rw [exec_append, ← hsession]; rfl⟩, ?_, h.connected, h.inbox, ?_,
    h.flagged⟩
  · exact h.taken_le.trans (x.session.grows_step m).sent.length_le
  · rw [hsame]
    exact h.passed

/-- What the goroutine of the stream makes of a packet. -/
theorem streams_recv (H : Host) {t : Served} {pkt : RelayPacket}
    (hrecv : (t.server.streams S).receiving) :
    (t.step H (.relay (.recv S pkt) rfl)).server.streams S =
      { t.server.streams S with
        owned := if pkt.kind = .connect then (t.server.streams S).owned ++ [pkt.clientID]
          else (t.server.streams S).owned
        pending := GameServer.handle pkt } := by
  simp [Served.step, GameServer.step, GameServer.recv, hrecv, GameServer.setStream]

/-- A packet that is received brings its message, if it has one. -/
theorem passed_recv (H : Host) {t : Served} {pkt : RelayPacket}
    (hrecv : (t.server.streams S).receiving) :
    arrivedOn S (t.step H (.relay (.recv S pkt) rfl)) ++
        pendingOn S (t.step H (.relay (.recv S pkt) rfl)) =
      arrivedOn S t ++ pendingOn S t ++ messages [pkt] := by
  have hidle : (t.server.streams S).pending = [] := by
    simp only [Stream.receiving, Bool.and_eq_true, List.isEmpty_iff] at hrecv
    exact hrecv.2
  have harrived : arrivedOn S (t.step H (.relay (.recv S pkt) rfl)) = arrivedOn S t := by
    simp [arrivedOn, Served.step, GameServer.arrival]
  have hpending : pendingOn S (t.step H (.relay (.recv S pkt) rfl)) = messages [pkt] := by
    simp only [pendingOn, streams_recv H hrecv]
    cases hkind : pkt.kind <;>
      simp [GameServer.handle, hkind, Action.packet, messages, List.filterMap_cons]
  rw [harrived, hpending, pendingOn, hidle, List.filterMap_nil, List.append_nil]

theorem Fed.deliver (h : Fed clientID claims S x) : Fed clientID claims S (x.deliver H S) := by
  unfold Ingress.deliver
  split
  · next pkt hpkt =>
    split_ifs with hrecv
    · obtain ⟨gone, payloads, htold, -⟩ := h.transcript
      obtain ⟨hlt, hget⟩ := List.getElem?_eq_some_iff.mp hpkt
      refine ⟨h.session, hlt, fun _ => ?_, ?_, ?_, fun a ha => h.flagged a ?_⟩
      · rw [streams_recv H hrecv]
        rcases Nat.eq_zero_or_pos x.taken with hzero | htaken
        · -- the first packet announces the client
          rw [hzero] at hpkt
          obtain rfl := htold.head_eq hpkt
          simp [RelaySession.connectPacket]
        · have hold := h.connected htaken
          dsimp only
          split_ifs
          · exact List.mem_append_left _ hold
          · exact hold
      · simp only [Served.step, List.map_append, h.inbox]
        exact (GameServer.inboxSent_relay H x.served.server rfl).symm
      · have hsplit : messages (x.session.sent.take x.taken ++ [pkt]) =
            messages (x.session.sent.take x.taken) ++ messages [pkt] := by
          simp only [messages, List.filter_append, List.map_append]
        rw [List.take_succ_eq_append_getElem hlt, hget, hsplit, passed_recv H hrecv]
        exact h.passed.append (List.Sublist.refl _)
      · simpa [Served.step, GameServer.arrival] using ha
    · exact h
  · exact h

theorem Fed.step (h : Fed clientID claims S x) (stp : IngressStep) :
    Fed clientID claims S (x.step H S stp) := by
  cases stp with
  | session m => exact h.session_step m
  | deliver => exact h.deliver
  | server mv =>
    simp only [Ingress.step]
    split_ifs with hmv
    · exact h
    · exact h.server (Bool.eq_false_iff.mpr hmv)

/-- What comes from the stream of a gateway connection into the inbox, and so to the
simulation, are messages that were read from the socket, under the name of the client,
each at most once and in their order, and none comes before the client has connected
on the stream. -/
theorem messages_reach_simulation (H : Host) (S : StreamID) (clientID : String) (claims : Claims)
    (sid : ServerID) (steps : List IngressStep) :
    let x := exec (step H S) (new clientID claims sid) steps
    x.served.arrivals.map Arrival.pkt = x.served.server.game.inbox.sent ∧
      (arrivedOn S x.served).Sublist (x.session.read.map (⟨clientID, ·⟩)) ∧
      ∀ a ∈ x.served.arrivals, a.stream = S → a.connected = true := by
  intro x
  have h : Fed clientID claims S x :=
    exec_keeps (Fed clientID claims S) (fun _ stp h => h.step stp) (fed_new ..) steps
  obtain ⟨gone, payloads, htold, hsub⟩ := h.transcript
  have hpassed : (arrivedOn S x.served).Sublist (messages x.session.sent) :=
    (List.sublist_append_left _ _).trans (h.passed.trans x.messages_take_sublist)
  rw [htold.messages_eq] at hpassed
  exact ⟨h.inbox, hpassed.trans (hsub.map _), h.flagged⟩

/-! ## What the stream may do -/

/-- The action is one for this client: its avatar in the runtime of its token, its
packets, its session. -/
def ActsFor (clientID : String) (claims : Claims) : Action → Prop
  | .register id | .unregister id | .markReconnected id | .markDisconnected id
  | .enqueueRemoveEntity id => id = clientID
  | .enqueueAddEntity e => e = Entity.new clientID "avatar" claims.runtimeID
  | .receive pkt => pkt.clientID = clientID
  | .startSender => True

/-- A step of the goroutine of the stream performs an action for the client. -/
def StepsFor (clientID : String) (claims : Claims) (S : StreamID) (x : Ingress) :
    IngressStep → Prop
  | .server (.relay (.act s _) _) => s = S →
      ∀ a ∈ (x.served.server.streams S).pending.head?, ActsFor clientID claims a
  | _ => True

/-- What the goroutine of the stream is about to do, and will have to clean up, is for
the client. -/
structure Confined (clientID : String) (claims : Claims) (S : StreamID) (t : Served) : Prop where
  owned : ∀ id ∈ (t.server.streams S).owned, id = clientID
  pending : ∀ a ∈ (t.server.streams S).pending, ActsFor clientID claims a

/-- The packets of a transcript are handled by actions for the client. -/
theorem actsFor_handle {gone : Bool} {sent : List RelayPacket} {payloads : List Bytes}
    (h : RelaySession.Transcript clientID claims gone sent payloads) {pkt : RelayPacket}
    (hpkt : pkt ∈ sent) :
    pkt.clientID = clientID ∧ ∀ a ∈ GameServer.handle pkt, ActsFor clientID claims a := by
  have hcases : pkt = RelaySession.connectPacket clientID claims ∨
      (∃ data, pkt = RelaySession.dataPacket clientID data) ∨
      pkt = RelaySession.peerDisconnectedPacket clientID := by
    cases h with
    | silent => cases hpkt
    | greeted =>
      rcases List.mem_cons.mp hpkt with rfl | hpkt
      · exact .inl rfl
      · obtain ⟨data, -, rfl⟩ := List.mem_map.mp hpkt
        exact .inr (.inl ⟨data, rfl⟩)
    | parted before after =>
      simp only [List.mem_append, List.mem_cons, List.mem_map] at hpkt
      rcases hpkt with (rfl | ⟨data, -, rfl⟩) | rfl | ⟨data, -, rfl⟩
      · exact .inl rfl
      · exact .inr (.inl ⟨data, rfl⟩)
      · exact .inr (.inr rfl)
      · exact .inr (.inl ⟨data, rfl⟩)
  rcases hcases with rfl | ⟨data, rfl⟩ | rfl
  · simp [RelaySession.connectPacket, GameServer.handle, ActsFor]
  · simp [RelaySession.dataPacket, GameServer.handle, ActsFor]
  · simp [RelaySession.peerDisconnectedPacket, GameServer.handle, ActsFor]

theorem Confined.server {t : Served} (h : Confined clientID claims S t) {mv : Move}
    (hmv : feeds S mv = false) : Confined clientID claims S (t.step H mv) := by
  cases mv with
  | loop inp => exact ⟨h.owned, h.pending⟩
  | relay stp hstp =>
    have hrecv : ∀ pkt, stp ≠ .recv S pkt := by
      rintro pkt rfl
      simp [feeds] at hmv
    constructor
    · simp only [Served.step, GameServer.owned_step H _ hrecv]
      exact h.owned
    · exact t.server.pending_forall_step H hrecv (fun id hid => ⟨h.owned id hid, h.owned id hid⟩)
        h.pending

theorem Confined.deliver (h : Confined clientID claims S x.served) (hfed : Fed clientID claims S x) :
    Confined clientID claims S (x.deliver H S).served := by
  unfold Ingress.deliver
  split
  · next pkt hpkt =>
    split_ifs with hrecv
    · obtain ⟨gone, payloads, htold, -⟩ := hfed.transcript
      obtain ⟨hid, hacts⟩ := actsFor_handle htold (List.mem_of_getElem? hpkt)
      constructor <;> rw [streams_recv H hrecv] <;> dsimp only
      · intro id hmem
        split_ifs at hmem
        · rcases List.mem_append.mp hmem with hmem | hmem
          · exact h.owned id hmem
          · rw [List.mem_singleton.mp hmem]
            exact hid
        · exact h.owned id hmem
      · exact hacts
    · exact h
  · exact h

/-- Whatever is read from the socket: the goroutine of the stream of a connection acts
for the client of the connection only, and adds nothing but its avatar, in the runtime
that its token names. -/
theorem stream_acts_for_client (H : Host) (S : StreamID) (clientID : String) (claims : Claims)
    (sid : ServerID) (steps : List IngressStep) :
    Along (step H S) (StepsFor clientID claims S) (new clientID claims sid) steps := by
  refine Along.of_keeps
    (fun x : Ingress => Fed clientID claims S x ∧ Confined clientID claims S x.served) ?_ ?_
    ⟨fed_new .., by simp [new, Served.new, GameServer.new], by simp [new, Served.new, GameServer.new]⟩
    steps
  · rintro x stp ⟨-, hconfined⟩
    unfold StepsFor
    split
    · exact fun _ a ha => hconfined.pending a (List.mem_of_head? ha)
    · trivial
  · rintro x stp ⟨hfed, hconfined⟩
    refine ⟨hfed.step stp, ?_⟩
    cases stp with
    | session m => exact hconfined
    | deliver => exact hconfined.deliver hfed
    | server mv =>
      simp only [step]
      split_ifs with hmv
      · exact hconfined
      · exact hconfined.server (Bool.eq_false_iff.mpr hmv)

end Ingress

end SpatialServer

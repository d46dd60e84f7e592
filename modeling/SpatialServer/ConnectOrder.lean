import SpatialServer.StreamHandover
import SpatialServer.TickLoop

/-!
# Connect before data

The goroutine of a stream puts the command that adds a client's entity into one
queue, and the client's packets into another. A tick empties the first queue and
then drains the second, so whatever was queued before the tick is found in order.
But a command that is queued between the two drains waits for the next tick,
while a packet that is queued right after it is still dispatched in this one.
-/
namespace SpatialServer

open Runs

deriving instance DecidableEq for InboundPacket

def RelayStep.isCall : RelayStep → Bool
  | .call _ => true
  | _ => false

/-- A packet that was put into the inbox, the stream it came on, and whether its
client had connected on that stream before. -/
structure Arrival where
  pkt : InboundPacket
  stream : StreamID
  connected : Bool

/-- A server with its tick loop. -/
structure Served where
  server : GameServer
  phase : Phase
  /-- All packets that were ever put into the inbox. -/
  arrivals : List Arrival

inductive Move where
  /-- The goroutine of a stream or of a sender does something. -/
  | relay (stp : RelayStep) (hstp : stp.isCall = false)
  | loop (inp : Game.TickInput)

/-- The packet that a step puts into the inbox. -/
def GameServer.arrival (σ : GameServer) : RelayStep → Option Arrival
  | .act s _ =>
    match (σ.streams s).pending.head? with
    | some (.receive pkt) =>
      if (σ.game.inbox.trySend pkt).isSome then
        some ⟨pkt, s, decide (pkt.clientID ∈ (σ.streams s).owned)⟩
      else none
    | _ => none
  | _ => none

/-- The loop is between the end of the command drain and the end of the inbox drain. -/
def Phase.draining : Phase → Bool
  | drain _ _ => true
  | _ => false

/-- The command drain has reached its bound. -/
def Phase.cutOff : Phase → Bool
  | applyCmds _ applied => decide (cmdChannelBuffer ≤ applied)
  | _ => false

def Cmd.adds (c : EntityID) : Cmd → Bool
  | .add e => decide (e.id = c)
  | .remove _ => false

namespace Served

def new (sid : ServerID) : Served := ⟨GameServer.new sid, .idle, []⟩

def step (H : Host) (t : Served) : Move → Served
  | .relay stp _ => ⟨t.server.step H stp, t.phase, t.arrivals ++ (t.server.arrival stp).toList⟩
  | .loop inp =>
    ⟨t.server.onGame (·.loopCall H inp t.phase), t.phase.next inp t.server.game, t.arrivals⟩

/-- A packet of the client that came on the stream after the client's connect packet
is dispatched only while the client's entity exists. -/
def DispatchesPresent (c : String) (S : StreamID) (t : Served) : Move → Prop
  | .loop _ => t.phase.draining → ∀ taken ∈ t.server.game.inbox.recv,
      ∃ a ∈ t.arrivals[t.server.game.inbox.received]?, a.pkt = taken.1 ∧
        (a.stream = S → a.connected → a.pkt.clientID = c →
          (t.server.game.entities.get c).isSome)
  | .relay _ _ => True

instance (c : String) (S : StreamID) (t : Served) (mv : Move) :
    Decidable (t.DispatchesPresent c S mv) := by
  unfold DispatchesPresent; split <;> infer_instance

/-- A queue refuses what a goroutine puts into it. -/
def overflows (t : Served) : Move → Bool
  | .relay (.act s _) _ =>
    match (t.server.streams s).pending.head? with
    | some (.enqueueAddEntity e) => (t.server.game.cmds.trySend (.add e)).isNone
    | some (.enqueueRemoveEntity id) => (t.server.game.cmds.trySend (.remove id)).isNone
    | some (.receive pkt) => (t.server.game.inbox.trySend pkt).isNone
    | _ => false
  | _ => false

/-- The client's addition is queued between the two drains of a tick, or is left in
the queue by a command drain that reached its bound. -/
def straddles (c : String) (t : Served) : Move → Bool
  | .relay (.act s _) _ =>
    match (t.server.streams s).pending.head? with
    | some (.enqueueAddEntity e) => decide (e.id = c) && t.phase.draining
    | _ => false
  | .loop _ => t.phase.cutOff && t.server.game.cmds.buffered.any (·.adds c)
  | _ => false

/-- After the client has connected on the stream, its removal is queued or its
session expires. -/
def removes (c : String) (S : StreamID) (t : Served) : Move → Bool
  | .relay (.act s _) _ =>
    match (t.server.streams s).pending.head? with
    | some (.enqueueRemoveEntity id) => decide (id = c ∧ c ∈ (t.server.streams S).owned)
    | _ => false
  | .loop inp => decide (t.phase = .sweepDisconnected ∧ c ∈ (t.server.streams S).owned) &&
      t.server.game.expired inp.sessionNow c
  | _ => false

def Orderly (c : String) (S : StreamID) (t : Served) (mv : Move) : Prop :=
  t.overflows mv = false ∧ t.straddles c mv = false ∧ t.removes c S mv = false

instance (c : String) (S : StreamID) (t : Served) (mv : Move) : Decidable (t.Orderly c S mv) := by
  unfold Orderly; infer_instance

end Served

/-- Without a queued addition the client exists already. -/
theorem of_survives {c : EntityID} {live : Bool} {cmds : List Cmd}
    (h : survives c live cmds) (hadds : cmds.any (·.adds c) = false) : live := by
  induction cmds generalizing live with
  | nil => exact h
  | cons cmd cmds ih =>
    simp only [List.any_cons, Bool.or_eq_false_iff] at hadds
    have hleaves : cmd.leaves c live := ih h hadds.2
    cases cmd with
    | add e => simpa [Cmd.leaves, show e.id ≠ c by simpa [Cmd.adds] using hadds.1] using hleaves
    | remove id =>
      simp only [Cmd.leaves, Bool.and_eq_true] at hleaves
      exact hleaves.1

namespace GameServer

variable {c : String} {σ : GameServer}

theorem owned_perform (σ : GameServer) (s : StreamID) (now : Time) (a : Action) (q : StreamID) :
    ((σ.perform s now a).streams q).owned = (σ.streams q).owned := by
  cases a with
  | register id =>
    by_cases hq : q = s
    · subst q; simp [GameServer.perform, GameServer.register, setStream]
    · simp [GameServer.perform, GameServer.register, setStream, hq]
  | _ => simp [GameServer.perform, onGame]

theorem owned_act (σ : GameServer) (s : StreamID) (now : Time) (q : StreamID) :
    ((σ.act s now).streams q).owned = (σ.streams q).owned := by
  unfold GameServer.act
  split
  · rfl
  · rw [owned_perform]
    by_cases hq : q = s
    · subst q; simp [setStream]
    · simp [setStream, hq]

theorem Present.act (h : Present c σ) (s : StreamID) (now : Time)
    (hhead : (σ.streams s).pending.head? ≠ some (.enqueueRemoveEntity c)) :
    Present c (σ.act s now) := by
  unfold GameServer.act
  split
  · exact h
  · next a rest hpend =>
    refine Present.perform (σ := σ.setStream s _) h s now ?_
    rintro rfl
    exact hhead (by simp [hpend])

/-- The stream is about to queue the client's addition. -/
def Connecting (c : String) (st : Stream) : Prop :=
  ∃ e : Entity, e.id = c ∧ (st.pending = [.register c, .enqueueAddEntity e, .startSender] ∨
    st.pending = [.enqueueAddEntity e, .startSender])

theorem Connecting.not_receiving {st : Stream} (h : Connecting c st) : ¬st.receiving := by
  obtain ⟨e, -, hpend | hpend⟩ := h <;> simp [Stream.receiving, hpend]

/-- The addition of a client is queued by the action that says so. -/
theorem adds_act {s : StreamID} {now : Time} (h : σ.game.cmds.buffered.any (·.adds c) = false)
    (hhead : ∀ e : Entity, (σ.streams s).pending.head? = some (.enqueueAddEntity e) → e.id ≠ c) :
    (σ.act s now).game.cmds.buffered.any (·.adds c) = false := by
  have henqueue : ∀ cmd : Cmd, cmd.adds c = false →
      (σ.game.enqueueCmd cmd).cmds.buffered.any (·.adds c) = false := by
    intro cmd hcmd
    rcases σ.game.buffered_enqueueCmd cmd with hbuf | ⟨hbuf, -⟩ <;> rw [hbuf]
    · rw [List.any_append, h]
      simp [hcmd]
    · exact h
  unfold GameServer.act
  split
  · exact h
  · next a rest hpend =>
    cases a with
    | enqueueAddEntity e =>
      exact henqueue (.add e) (by simpa [Cmd.adds] using hhead e (by simp [hpend]))
    | enqueueRemoveEntity id => exact henqueue (.remove id) rfl
    | receive pkt =>
      simpa only [GameServer.perform, onGame, setStream, (σ.game.receive_frame pkt).1] using h
    | markDisconnected id =>
      simpa only [GameServer.perform, onGame, setStream,
        (σ.game.markDisconnected_frame id now).1] using h
    | unregister id =>
      rw [GameServer.perform, game_unregister]
      exact h
    | _ => exact h

/-- The stream of the client makes progress, until the addition is queued. -/
theorem Connecting.act {S s : StreamID} {now : Time} (h : Connecting c (σ.streams S))
    (hroom : ∀ e, (σ.streams s).pending.head? = some (.enqueueAddEntity e) →
      (σ.game.cmds.trySend (.add e)).isSome) :
    Connecting c ((σ.act s now).streams S) ∨ Present c (σ.act s now) := by
  by_cases hs : s = S
  · subst hs
    obtain ⟨e, he, hpend | hpend⟩ := h
    · refine .inl ⟨e, he, .inr ?_⟩
      simp [GameServer.act, hpend, GameServer.perform, GameServer.register, setStream]
    · exact .inr (present_act he hpend (hroom e (by simp [hpend])) now)
  · exact .inl (streams_act_ne σ (Ne.symm hs) now ▸ h)

theorem inboxSent_perform (σ : GameServer) (s : StreamID) (now : Time) {a : Action}
    (ha : ∀ pkt, a ≠ .receive pkt) :
    (σ.perform s now a).game.inbox.sent = σ.game.inbox.sent := by
  cases a with
  | receive pkt => exact absurd rfl (ha pkt)
  | enqueueAddEntity _ | enqueueRemoveEntity _ =>
    simp only [GameServer.perform, onGame, Game.enqueueCmd]
    split <;> rfl
  | markDisconnected id =>
    simp only [GameServer.perform, onGame, Game.markDisconnected]
    split <;> rfl
  | unregister id => simp [GameServer.perform]
  | _ => rfl

/-- What is put into the inbox is recorded. -/
theorem inboxSent_relay (H : Host) (σ : GameServer) {stp : RelayStep} (hstp : stp.isCall = false) :
    (σ.step H stp).game.inbox.sent =
      σ.game.inbox.sent ++ (σ.arrival stp).toList.map Arrival.pkt := by
  cases stp with
  | recv s pkt =>
    simp only [step, GameServer.recv, arrival]
    split <;> simp [setStream]
  | endStream s =>
    simp only [step, GameServer.endStream, arrival]
    split <;> simp [setStream]
  | senderExit ref =>
    simp only [step, GameServer.senderExit, arrival]
    split <;> simp
  | call call => cases hstp
  | act s now =>
    simp only [step, GameServer.act]
    split
    · next hpend => simp [arrival, hpend]
    · next a rest hpend =>
      by_cases ha : ∃ pkt, a = .receive pkt
      · obtain ⟨pkt, rfl⟩ := ha
        simp only [arrival, hpend, List.head?_cons, GameServer.perform, onGame, setStream,
          Game.receive]
        cases htry : σ.game.inbox.trySend pkt with
        | none => simp
        | some ch => simp [Chan.trySend_sent htry]
      · rw [inboxSent_perform _ _ _ fun pkt hpkt => ha ⟨pkt, hpkt⟩]
        have hnone : σ.arrival (.act s now) = none := by
          simp only [arrival, hpend, List.head?_cons]
          split
          · next pkt hpkt => exact absurd ⟨pkt, Option.some.inj hpkt⟩ ha
          · rfl
        simp [hnone, setStream]

end GameServer

namespace Served

open GameServer

/-- What orderly moves keep: no addition of the client waits while the inbox is
drained, and once the client has connected on the stream, its entity exists or
its addition is queued, or about to be. -/
structure Follows (c : String) (S : StreamID) (t : Served) : Prop where
  sent : t.arrivals.map Arrival.pkt = t.server.game.inbox.sent
  apart : t.phase.draining → t.server.game.cmds.buffered.any (·.adds c) = false
  connected : c ∈ (t.server.streams S).owned →
    Connecting c (t.server.streams S) ∨ Present c t.server
  arrived : ∀ a ∈ t.arrivals, a.stream = S → a.connected → a.pkt.clientID = c →
    c ∈ (t.server.streams S).owned ∧ Present c t.server

variable {c : String} {S : StreamID} {t : Served}

theorem Follows.dispatchesPresent (h : Follows c S t) (mv : Move) :
    t.DispatchesPresent c S mv := by
  cases mv with
  | relay stp hstp => trivial
  | loop inp =>
    rintro hdrain ⟨pkt, ch⟩ hrecv
    have hpkt : t.server.game.inbox.sent[t.server.game.inbox.received]? = some pkt := by
      have hrecv : t.server.game.inbox.recv = some (pkt, ch) := hrecv
      unfold Chan.recv at hrecv
      split_ifs at hrecv with hlt
      cases hrecv
      exact List.getElem?_eq_getElem hlt
    rw [← h.sent, List.getElem?_map, Option.map_eq_some_iff] at hpkt
    obtain ⟨a, ha, rfl⟩ := hpkt
    refine ⟨a, ha, rfl, fun hstream hconn hclient => ?_⟩
    exact of_survives (h.arrived a (List.mem_of_getElem? ha) hstream hconn hclient).2
      (h.apart hdrain)

theorem arrival_eq_some {σ : GameServer} {stp : RelayStep} {a : Arrival}
    (h : σ.arrival stp = some a) :
    (σ.streams a.stream).pending.head? = some (.receive a.pkt) ∧
      a.connected = decide (a.pkt.clientID ∈ (σ.streams a.stream).owned) := by
  cases stp with
  | act s now =>
    simp only [arrival] at h
    split at h
    · next pkt hhead =>
      split_ifs at h
      cases h
      exact ⟨hhead, rfl⟩
    · cases h
  | _ => cases h

/-- A stream forgets no client that connected on it. -/
theorem owned_relay (H : Host) (σ : GameServer) (stp : RelayStep)
    (hc : c ∈ (σ.streams S).owned) : c ∈ ((σ.step H stp).streams S).owned := by
  by_cases hs : stp.stream = some S
  · cases stp with
    | recv s pkt =>
      obtain rfl : s = S := Option.some.inj hs
      simp only [GameServer.step, GameServer.recv]
      split
      · simp only [setStream, Function.update_self]
        split_ifs
        · exact List.mem_append_left _ hc
        · exact hc
      · exact hc
    | endStream s =>
      obtain rfl : s = S := Option.some.inj hs
      simp only [GameServer.step, GameServer.endStream]
      split
      · simpa [setStream] using hc
      · exact hc
    | act s now =>
      rw [GameServer.step, owned_act]
      exact hc
    | _ => cases hs
  · rw [streams_step_ne H σ hs]
    exact hc

theorem game_relay (H : Host) (σ : GameServer) {stp : RelayStep} (hstp : stp.isCall = false)
    (hact : ∀ s now, stp ≠ .act s now) : (σ.step H stp).game = σ.game := by
  cases stp with
  | recv s pkt =>
    simp only [GameServer.step, GameServer.recv]
    split <;> rfl
  | endStream s =>
    simp only [GameServer.step, GameServer.endStream]
    split <;> rfl
  | act s now => exact absurd rfl (hact s now)
  | senderExit ref =>
    simp only [GameServer.step, GameServer.senderExit]
    split
    · rw [game_unregister]
    · rfl
  | call call => cases hstp

/-! ## What orderly moves keep -/

theorem present_step (H : Host) {mv : Move} (hmv : t.removes c S mv = false)
    (hc : c ∈ (t.server.streams S).owned) (h : Present c t.server) :
    Present c (t.step H mv).server := by
  cases mv with
  | loop inp =>
    simp only [step, onGame, Game.loopCall]
    split
    · next call hcall =>
      refine h.call H (Phase.ofTick_call hcall) fun now hnow => ?_
      obtain ⟨hphase, rfl⟩ := Phase.sweptAt_call hcall hnow
      simpa [removes, hphase, hc] using hmv
    · exact h
  | relay stp hstp =>
    by_cases hact : ∃ s now, stp = .act s now
    · obtain ⟨s, now, rfl⟩ := hact
      refine h.act s now fun hhead => ?_
      simp [removes, hhead, hc] at hmv
    · have hgame := game_relay H t.server hstp fun s now heq => hact ⟨s, now, heq⟩
      simp only [step, Present, hgame]
      exact h

/-- When a tick starts to drain the inbox, and as long as it does, no addition of the
client is queued. -/
theorem apart_step (H : Host) {mv : Move} (hmv : t.straddles c mv = false)
    (h : t.phase.draining → t.server.game.cmds.buffered.any (·.adds c) = false)
    (hdrain : (t.step H mv).phase.draining) :
    (t.step H mv).server.game.cmds.buffered.any (·.adds c) = false := by
  cases mv with
  | relay stp hstp =>
    have hold := h hdrain
    by_cases hact : ∃ s now, stp = .act s now
    · obtain ⟨s, now, rfl⟩ := hact
      refine adds_act hold fun e hhead heq => ?_
      have hdrain : t.phase.draining := hdrain
      simp [straddles, hhead, heq, hdrain] at hmv
    · have hgame := game_relay H t.server hstp fun s now heq => hact ⟨s, now, heq⟩
      simpa only [step, hgame] using hold
  | loop inp =>
    simp only [step, onGame] at hdrain ⊢
    cases hphase : t.phase with
    | applyCmds dt applied =>
      simp only [hphase, Phase.next] at hdrain
      by_cases hlt : applied < cmdChannelBuffer
      · -- the queue is empty
        have hempty : t.server.game.cmds.recv = none := by
          by_contra hsome
          rw [if_pos ⟨hlt, Option.isSome_iff_ne_none.mpr hsome⟩] at hdrain
          cases hdrain
        simp [Game.loopCall, Phase.call, hlt, Game.step, Game.applyCmd_of_empty hempty,
          Chan.recv_eq_none hempty]
      · simpa [straddles, Phase.cutOff, hphase, Game.loopCall, Phase.call, hlt,
          not_lt.mp hlt] using hmv
    | drain dt processed =>
      have hcmds := (Game.Quiet.dispatchNext H.codec t.server.game).publishes.cmds
      simp only [Game.loopCall, Phase.call, Game.step, hcmds]
      exact h (by rw [hphase]; rfl)
    | detectZoneBoundaries zids =>
      rw [hphase] at hdrain
      cases zids <;> cases hdrain
    | _ =>
      rw [hphase] at hdrain
      cases hdrain

/-- A client that a stream owns after a packet was owned before, or has connected. -/
theorem mem_owned_recv {σ : GameServer} {s : StreamID} {pkt : RelayPacket} {c : String}
    (hc : c ∈ ((σ.recv s pkt).streams s).owned) :
    c ∈ (σ.streams s).owned ∨ pkt.kind = .connect ∧ pkt.clientID = c := by
  by_cases hrecv : (σ.streams s).receiving
  · simp only [GameServer.recv, hrecv, if_true, setStream, Function.update_self] at hc
    split_ifs at hc with hkind
    · exact (List.mem_append.mp hc).imp_right fun h => ⟨hkind, (List.mem_singleton.mp h).symm⟩
    · exact .inl hc
  · exact .inl (by simpa [GameServer.recv, hrecv] using hc)

/-- A client that has connected exists, or its addition is queued or about to be. -/
theorem connected_step (H : Host) {mv : Move} (hmv : t.Orderly c S mv)
    (h : c ∈ (t.server.streams S).owned → Connecting c (t.server.streams S) ∨ Present c t.server)
    (hc : c ∈ ((t.step H mv).server.streams S).owned) :
    Connecting c ((t.step H mv).server.streams S) ∨ Present c (t.step H mv).server := by
  have hkeep := present_step H hmv.2.2
  -- a stream that waits has queued the addition
  have hidle : c ∈ (t.server.streams S).owned → (t.server.streams S).receiving →
      Present c t.server := fun hold hrecv => (h hold).resolve_left fun hconn =>
    hconn.not_receiving hrecv
  have hsame : (t.step H mv).server.streams S = t.server.streams S →
      Connecting c ((t.step H mv).server.streams S) ∨ Present c (t.step H mv).server := by
    intro heq
    rw [heq] at hc ⊢
    exact (h hc).imp_right (hkeep hc)
  cases mv with
  | loop inp => exact hsame rfl
  | relay stp hstp =>
    cases stp with
    | call call => cases hstp
    | senderExit ref => exact hsame (streams_step_ne H _ (by simp [RelayStep.stream]))
    | act s now =>
      have hold : c ∈ (t.server.streams S).owned := by
        simpa only [owned_act, step, GameServer.step] using hc
      obtain hconnecting | hp := h hold
      · refine hconnecting.act fun e hhead => ?_
        simpa [overflows, hhead] using hmv.1
      · exact .inr (hkeep hold hp)
    | endStream s =>
      by_cases hs : s = S
      · subst hs
        by_cases hrecv : (t.server.streams s).receiving
        · have hold : c ∈ (t.server.streams s).owned := by
            simpa [step, GameServer.step, GameServer.endStream, hrecv, setStream] using hc
          exact .inr (hkeep hold (hidle hold hrecv))
        · exact hsame (by simp [step, GameServer.step, GameServer.endStream, hrecv])
      · exact hsame (streams_step_ne H _ (by simpa [RelayStep.stream] using hs))
    | recv s pkt =>
      by_cases hs : s = S
      · subst hs
        by_cases hrecv : (t.server.streams s).receiving
        · obtain hold | ⟨hkind, rfl⟩ := mem_owned_recv hc
          · exact .inr (hkeep hold (hidle hold hrecv))
          · refine .inl ⟨Entity.new pkt.clientID "avatar" pkt.runtimeID, rfl, .inl ?_⟩
            simp [step, GameServer.step, GameServer.recv, hrecv, setStream, handle, hkind]
        · exact hsame (by simp [step, GameServer.step, GameServer.recv, hrecv])
      · exact hsame (streams_step_ne H _ (by simpa [RelayStep.stream] using hs))

theorem Follows.step (H : Host) (h : Follows c S t) {mv : Move} (hmv : t.Orderly c S mv) :
    Follows c S (t.step H mv) := by
  have howned : c ∈ (t.server.streams S).owned → c ∈ ((t.step H mv).server.streams S).owned := by
    cases mv with
    | relay stp hstp => exact owned_relay H t.server stp
    | loop inp => exact id
  refine ⟨?_, apart_step H hmv.2.1 h.apart, connected_step H hmv h.connected,
    fun a ha hstream hconn hclient => ?_⟩
  · cases mv with
    | relay stp hstp =>
      simp only [Served.step, List.map_append, h.sent, inboxSent_relay H t.server hstp]
    | loop inp =>
      simp only [Served.step, h.sent, onGame, Game.loopCall]
      split
      · next call hcall => exact (Game.inboxSent_step (Phase.ofTick_call hcall)).symm
      · rfl
  · have hold : c ∈ (t.server.streams S).owned ∧ Present c t.server := by
      cases mv with
      | loop inp => exact h.arrived a ha hstream hconn hclient
      | relay stp hstp =>
        obtain ha | ha := List.mem_append.mp ha
        · exact h.arrived a ha hstream hconn hclient
        · obtain ⟨hhead, hmem⟩ := arrival_eq_some (Option.mem_toList.mp ha)
          rw [hstream] at hhead hmem
          have hc : c ∈ (t.server.streams S).owned := by
            rw [← hclient]
            exact of_decide_eq_true (hmem.symm.trans hconn)
          refine ⟨hc, (h.connected hc).resolve_left ?_⟩
          rintro ⟨e, -, hpend | hpend⟩ <;> simp [hpend] at hhead
    exact ⟨howned hold.1, present_step H hmv.2.2 hold.1 hold.2⟩

theorem follows_new (sid : ServerID) (c : String) (S : StreamID) : Follows c S (new sid) where
  sent := rfl
  apart h := by cases h
  connected h := by cases h
  arrived a ha := by cases ha

/-- If the client's addition is never queued between the two drains of a tick nor left
over by the first, and nothing removes the client once it has connected on the stream,
then its packets on that stream are dispatched only while its entity exists, in every
interleaving in which no queue overflows. -/
theorem data_follows_connect (H : Host) (sid : ServerID) (c : String) (S : StreamID)
    (moves : List Move) (h : Along (Served.step H) (Orderly c S) (new sid) moves) :
    Along (Served.step H) (DispatchesPresent c S) (new sid) moves :=
  h.of_invariant (Follows c S) (fun _ mv ht hmv => ⟨ht.dispatchesPresent mv, ht.step H hmv⟩)
    (follows_new sid c S)

/-- The client connects before the tick and sends while the inbox is drained. -/
theorem data_follows_connect_early :
    let tick := Move.loop (.reading 0)
    Along (Served.step (Host.steady .zero)) (DispatchesPresent "c1" 0) (new "gs")
      [.relay (.recv 0 ⟨"c1", .connect, "s1", []⟩) rfl, .relay (.act 0 0) rfl,
        .relay (.act 0 0) rfl, .relay (.act 0 0) rfl, tick, tick, tick,
        .relay (.recv 0 ⟨"c1", .data, "s1", []⟩) rfl, .relay (.act 0 0) rfl, tick, tick] :=
  data_follows_connect (Host.steady .zero) "gs" "c1" 0 _ (by decide +kernel)

/-- The client connects and sends while the inbox is drained: the packet is dispatched
before the addition is applied. -/
theorem data_overtakes_connect :
    let tick := Move.loop (.reading 0)
    let moves := [tick, tick, .relay (.recv 0 ⟨"c1", .connect, "s1", []⟩) rfl,
      .relay (.act 0 0) rfl, .relay (.act 0 0) rfl, .relay (.act 0 0) rfl,
      .relay (.recv 0 ⟨"c1", .data, "s1", []⟩) rfl, .relay (.act 0 0) rfl, tick]
    Along (Served.step (Host.steady .zero)) (fun t mv => t.overflows mv = false ∧
        t.removes "c1" 0 mv = false) (new "gs") moves ∧
      ¬Along (Served.step (Host.steady .zero)) (DispatchesPresent "c1" 0) (new "gs") moves := by
  decide +kernel

end Served

end SpatialServer

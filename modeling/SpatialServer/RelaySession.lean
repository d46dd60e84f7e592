import SpatialServer.Connections
import SpatialServer.Relay

/-!
# One relayed connection

`relayWS` dials the game server, opens a stream, announces the client, and starts
two goroutines: one reads the socket and sends what passes the limiters, one
receives from the stream and writes to the socket. The first of them to fail
reports on a channel; then the client is announced as gone, and the deferred calls
close the stream and the connection and cancel the context, which ends the other
goroutine.

The three run side by side. What the calls answer is up to the environment, within
the limits of the context and the stream: nothing succeeds under a cancelled
context, and a stream that has refused a packet, or was closed, takes no more.
-/
namespace SpatialServer.Gateway

open Runs

/-- Where `relayWS` stands. From `returning` on only deferred calls are left. -/
inductive RelayStage where
  | dial
  | openStream
  | connect
  | start
  | wait
  | farewell
  | returning
  deriving DecidableEq, Repr

inductive RelayDefer where
  /-- The session leaves the pool and the socket is closed. -/
  | leave
  | cancel
  | closeConn
  | closeSend
  deriving DecidableEq, Repr

/-- The goroutine that reads the socket. It has failed when the error is still to be
reported, and stopped after that. -/
inductive ReadLoop where
  | notStarted
  | reading
  | charging (data : Bytes)
  | chargingIP (data : Bytes)
  | sending (data : Bytes)
  | failed
  | stopped
  deriving DecidableEq

/-- The goroutine that writes to the socket. -/
inductive WriteLoop where
  | notStarted
  | receiving
  | writing (payload : Bytes)
  | failed
  | stopped
  deriving DecidableEq

/-- The message that was read and is neither sent nor dropped. -/
def ReadLoop.pending : ReadLoop → List Bytes
  | .charging data | .chargingIP data | .sending data => [data]
  | _ => []

def WriteLoop.pending : WriteLoop → List Bytes
  | .writing payload => [payload]
  | _ => []

/-- The four logs at the end are the messages that were read, the packets that the
stream took, the payloads that came back and those that were written. -/
structure RelaySession where
  clientID : String
  claims : Claims
  stage : RelayStage
  deferred : List RelayDefer
  reader : ReadLoop
  writer : WriteLoop
  errCh : Chan Unit
  cancelled : Bool
  sendClosed : Bool
  left : Bool
  read : List Bytes
  sent : List RelayPacket
  received : List Bytes
  written : List Bytes

/-- A step of `relayWS`, of one of its goroutines, or the shutdown of the gateway.
The environment says what a read or a receive brings, and whether a call succeeds. -/
inductive SessionMove where
  | main (ok : Bool)
  | reader (input : Option Bytes) (ok : Bool)
  | writer (input : Option Bytes) (ok : Bool)
  | shutdown

namespace SessionMove

def ofMain : SessionMove → Bool
  | .main _ => true
  | _ => false

def ofReader : SessionMove → Bool
  | .reader _ _ => true
  | _ => false

def ofWriter : SessionMove → Bool
  | .writer _ _ => true
  | _ => false

end SessionMove

namespace RelaySession

def new (clientID : String) (claims : Claims) : RelaySession where
  clientID := clientID
  claims := claims
  stage := .dial
  deferred := [.cancel, .leave]
  reader := .notStarted
  writer := .notStarted
  errCh := .make 2
  cancelled := false
  sendClosed := false
  left := false
  read := []
  sent := []
  received := []
  written := []

def connectPacket (clientID : String) (claims : Claims) : RelayPacket :=
  ⟨clientID, .connect, claims.runtimeID, []⟩

def dataPacket (clientID : String) (data : Bytes) : RelayPacket := ⟨clientID, .data, "", data⟩

def peerDisconnectedPacket (clientID : String) : RelayPacket :=
  ⟨clientID, .peerDisconnected, "", []⟩

/-- The stream takes the packet, or refuses this one and all that follow. -/
def send (s : RelaySession) (pkt : RelayPacket) (ok : Bool) : RelaySession × Bool :=
  if ok ∧ s.cancelled = false ∧ s.sendClosed = false then
    ({ s with sent := s.sent ++ [pkt] }, true)
  else ({ s with sendClosed := true }, false)

def perform (s : RelaySession) : RelayDefer → RelaySession
  | .leave => { s with left := true }
  | .cancel => { s with cancelled := true }
  | .closeConn | .closeSend => { s with sendClosed := true }

/-- The next statement of `relayWS`. Neither of its two sends is checked. -/
def advance (s : RelaySession) (ok : Bool) : RelaySession :=
  match s.stage with
  | .dial =>
    if ok ∧ s.cancelled = false then
      { s with stage := .openStream, deferred := .closeConn :: s.deferred }
    else { s with stage := .returning }
  | .openStream =>
    if ok ∧ s.cancelled = false then
      { s with stage := .connect, deferred := .closeSend :: s.deferred }
    else { s with stage := .returning }
  | .connect => { (s.send (connectPacket s.clientID s.claims) ok).1 with stage := .start }
  | .start => { s with stage := .wait, reader := .reading, writer := .receiving }
  | .wait =>
    match s.errCh.recv with
    | some (_, ch) => { s with stage := .farewell, errCh := ch }
    | none => s
  | .farewell => { (s.send (peerDisconnectedPacket s.clientID) ok).1 with stage := .returning }
  | .returning =>
    match s.deferred with
    | [] => s
    | d :: ds => ({ s with deferred := ds }).perform d

/-- The next statement of the read loop. A message that a limiter refuses is
dropped. -/
def readerStep (s : RelaySession) (input : Option Bytes) (ok : Bool) : RelaySession :=
  match s.reader with
  | .notStarted | .stopped => s
  | .reading =>
    match input, s.cancelled with
    | some data, false => { s with reader := .charging data, read := s.read ++ [data] }
    | _, _ => { s with reader := .failed }
  | .charging data => { s with reader := if ok then .chargingIP data else .reading }
  | .chargingIP data => { s with reader := if ok then .sending data else .reading }
  | .sending data =>
    let r := s.send (dataPacket s.clientID data) ok
    { r.1 with reader := if r.2 then .reading else .failed }
  | .failed =>
    match s.errCh.trySend () with
    | some ch => { s with reader := .stopped, errCh := ch }
    | none => s

def writerStep (s : RelaySession) (input : Option Bytes) (ok : Bool) : RelaySession :=
  match s.writer with
  | .notStarted | .stopped => s
  | .receiving =>
    match input, s.cancelled with
    | some payload, false =>
      { s with writer := .writing payload, received := s.received ++ [payload] }
    | _, _ => { s with writer := .failed }
  | .writing payload =>
    if ok ∧ s.cancelled = false then
      { s with writer := .receiving, written := s.written ++ [payload] }
    else { s with writer := .failed }
  | .failed =>
    match s.errCh.trySend () with
    | some ch => { s with writer := .stopped, errCh := ch }
    | none => s

def step (s : RelaySession) : SessionMove → RelaySession
  | .main ok => s.advance ok
  | .reader input ok => s.readerStep input ok
  | .writer input ok => s.writerStep input ok
  | .shutdown => { s with cancelled := true }

/-- A send leaves everything else as it is. -/
theorem send_cases (s : RelaySession) (pkt : RelayPacket) (ok : Bool) :
    (s.cancelled = false ∧ s.sendClosed = false ∧
      s.send pkt ok = ({ s with sent := s.sent ++ [pkt] }, true)) ∨
    s.send pkt ok = ({ s with sendClosed := true }, false) := by
  unfold send
  split_ifs with h
  · exact .inl ⟨h.2.1, h.2.2, rfl⟩
  · exact .inr rfl

/-! ## When the goroutines run -/

end RelaySession

/-- The goroutines are not started yet. -/
def RelayStage.early : RelayStage → Bool
  | .dial | .openStream | .connect | .start => true
  | _ => false

/-- The deferred calls that are still to come before the goroutines start. -/
def RelayStage.toDefer : RelayStage → ℕ
  | .dial => 2
  | .openStream => 1
  | _ => 0

/-- The client is not announced yet. -/
def RelayStage.mute : RelayStage → Bool
  | .dial | .openStream | .connect => true
  | _ => false

namespace RelaySession

variable {s : RelaySession}

/-- The goroutines run from the start to the return, unless there was no start. -/
structure Phased (s : RelaySession) : Prop where
  early : s.stage.early → s.reader = .notStarted
  started : s.stage = .wait ∨ s.stage = .farewell → s.reader ≠ .notStarted
  together : s.reader = .notStarted ↔ s.writer = .notStarted

theorem phased_new (clientID : String) (claims : Claims) : (new clientID claims).Phased :=
  ⟨fun _ => rfl, by simp [new], by simp [new]⟩

/-- Once started, a goroutine never is not started. -/
theorem reader_readerStep (s : RelaySession) (input : Option Bytes) (ok : Bool) :
    (s.readerStep input ok).stage = s.stage ∧ (s.readerStep input ok).writer = s.writer ∧
      ((s.readerStep input ok).reader = .notStarted ↔ s.reader = .notStarted) := by
  unfold readerStep
  split
  · exact ⟨rfl, rfl, Iff.rfl⟩
  · exact ⟨rfl, rfl, Iff.rfl⟩
  · next h => split <;> simp [h]
  · next h => refine ⟨rfl, rfl, ?_⟩; split_ifs <;> simp [h]
  · next h => refine ⟨rfl, rfl, ?_⟩; split_ifs <;> simp [h]
  · next data h =>
    obtain ⟨-, -, hsend⟩ | hsend := s.send_cases (dataPacket s.clientID data) ok <;>
      simp [hsend, h]
  · next h => split <;> simp [h]

theorem writer_writerStep (s : RelaySession) (input : Option Bytes) (ok : Bool) :
    (s.writerStep input ok).stage = s.stage ∧ (s.writerStep input ok).reader = s.reader ∧
      ((s.writerStep input ok).writer = .notStarted ↔ s.writer = .notStarted) := by
  unfold writerStep
  split
  · exact ⟨rfl, rfl, Iff.rfl⟩
  · exact ⟨rfl, rfl, Iff.rfl⟩
  · next h => split <;> simp [h]
  · next h => split_ifs <;> simp [h]
  · next h => split <;> simp [h]

theorem Phased.advance (h : s.Phased) (ok : Bool) : (s.advance ok).Phased := by
  unfold RelaySession.advance
  split
  case h_1 hstage | h_2 hstage =>
    have hreader := h.early (by rw [hstage]; rfl)
    split_ifs <;> exact ⟨fun _ => hreader, by simp, h.together⟩
  · next hstage =>
    have hreader := h.early (by rw [hstage]; rfl)
    obtain ⟨-, -, hsend⟩ | hsend := s.send_cases (connectPacket s.clientID s.claims) ok <;>
      rw [hsend] <;> exact ⟨fun _ => hreader, by simp, h.together⟩
  · exact ⟨by simp [RelayStage.early], by simp, by simp⟩
  · next hstage =>
    have hreader := h.started (.inl hstage)
    split
    · exact ⟨by simp [RelayStage.early], fun _ => hreader, h.together⟩
    · exact h
  · obtain ⟨-, -, hsend⟩ | hsend := s.send_cases (peerDisconnectedPacket s.clientID) ok <;>
      rw [hsend] <;> exact ⟨by simp [RelayStage.early], by simp, h.together⟩
  · split
    · exact h
    · next d _ _ => cases d <;> exact ⟨h.early, h.started, h.together⟩

theorem Phased.step (h : s.Phased) (m : SessionMove) : (s.step m).Phased := by
  cases m with
  | main ok => exact h.advance ok
  | reader input ok =>
    obtain ⟨hstage, hwriter, hreader⟩ := s.reader_readerStep input ok
    constructor
    · rw [RelaySession.step, hstage, hreader]
      exact h.early
    · rw [RelaySession.step, hstage, ne_eq, hreader]
      exact h.started
    · rw [RelaySession.step, hwriter, hreader]
      exact h.together
  | writer input ok =>
    obtain ⟨hstage, hreader, hwriter⟩ := s.writer_writerStep input ok
    constructor
    · rw [RelaySession.step, hstage, hreader]
      exact h.early
    · rw [RelaySession.step, hstage, hreader]
      exact h.started
    · rw [RelaySession.step, hreader, hwriter]
      exact h.together
  | shutdown => exact ⟨h.early, h.started, h.together⟩

/-! ## What is said on the stream -/

/-- A client is announced, its messages follow, it is announced as gone, and
messages that were on their way may still come. The flag says that the client was
announced as gone. -/
inductive Transcript (clientID : String) (claims : Claims) :
    Bool → List RelayPacket → List Bytes → Prop
  | silent : Transcript clientID claims false [] []
  | greeted (before : List Bytes) : Transcript clientID claims false
      (connectPacket clientID claims :: before.map (dataPacket clientID)) before
  | parted (before after : List Bytes) : Transcript clientID claims true
      (connectPacket clientID claims :: before.map (dataPacket clientID) ++
        peerDisconnectedPacket clientID :: after.map (dataPacket clientID)) (before ++ after)

namespace Transcript

variable {clientID : String} {claims : Claims} {gone : Bool} {sent : List RelayPacket}
  {payloads : List Bytes}

theorem data (h : Transcript clientID claims gone sent payloads) (hsent : sent ≠ [])
    (data : Bytes) : Transcript clientID claims gone (sent ++ [dataPacket clientID data])
      (payloads ++ [data]) := by
  cases h with
  | silent => exact absurd rfl hsent
  | greeted =>
    have hmore : Transcript clientID claims false _ _ := greeted (payloads ++ [data])
    simpa using hmore
  | parted before after =>
    have hmore : Transcript clientID claims true _ _ := parted before (after ++ [data])
    simpa using hmore

theorem farewell (h : Transcript clientID claims false sent payloads) (hsent : sent ≠ []) :
    Transcript clientID claims true (sent ++ [peerDisconnectedPacket clientID]) payloads := by
  cases h with
  | silent => exact absurd rfl hsent
  | greeted =>
    have hgone : Transcript clientID claims true _ _ := parted payloads []
    simpa using hgone

end Transcript

/-- Nothing is said on a stream on which the announcement has failed, and what the
stream took are messages that were read, in their order. -/
structure Told (s : RelaySession) : Prop where
  mute : s.stage.mute → s.sent = []
  silenced : s.sent = [] → s.sendClosed = true ∨ s.reader = .notStarted ∧ s.stage ≠ .start
  transcript : ∃ gone payloads, Transcript s.clientID s.claims gone s.sent payloads ∧
    (payloads ++ s.reader.pending).Sublist s.read ∧ (s.stage ≠ .returning → gone = false)

theorem told_new (clientID : String) (claims : Claims) : (new clientID claims).Told :=
  ⟨fun _ => rfl, fun _ => .inr ⟨rfl, by simp [new]⟩, false, [], .silent, .slnil, fun _ => rfl⟩

/-- A step that concerns neither the stream nor what is read. -/
theorem Told.keep {s s' : RelaySession} (h : s.Told) (hid : s'.clientID = s.clientID)
    (hclaims : s'.claims = s.claims) (hsent : s'.sent = s.sent) (hread : s'.read = s.read)
    (hmute : s'.stage.mute → s.stage.mute)
    (hsilenced : s.sent = [] → s'.sendClosed = true ∨ s'.reader = .notStarted ∧ s'.stage ≠ .start)
    (hpending : s'.reader.pending.Sublist s.reader.pending)
    (hstage : s'.stage ≠ .returning → s.stage ≠ .returning) : s'.Told := by
  obtain ⟨gone, payloads, htold, hsub, hgone⟩ := h.transcript
  refine ⟨fun hm => hsent ▸ h.mute (hmute hm), by rwa [hsent], gone, payloads, ?_, ?_, ?_⟩
  · rwa [hid, hclaims, hsent]
  · rw [hread]
    exact (hpending.append_left payloads).trans hsub
  · exact fun hs => hgone (hstage hs)

theorem Told.readerStep (h : s.Told) (input : Option Bytes) (ok : Bool) :
    (s.readerStep input ok).Told := by
  -- a reader that runs finds the stream closed, or the client announced
  have hclosed : s.reader ≠ .notStarted → s.sent = [] → s.sendClosed = true := fun hrun hnone =>
    (h.silenced hnone).resolve_right fun hnot => hrun hnot.1
  unfold RelaySession.readerStep
  split
  · exact h
  · exact h
  · next hreader =>
    have hrun : s.reader ≠ .notStarted := by simp [hreader]
    split
    · next data _ =>
      obtain ⟨gone, payloads, htold, hsub, hgone⟩ := h.transcript
      refine ⟨h.mute, fun hnone => .inl (hclosed hrun hnone), gone, payloads, htold, ?_, hgone⟩
      have hread : payloads.Sublist s.read := by simpa [hreader, ReadLoop.pending] using hsub
      exact hread.append (List.Sublist.refl [data])
    · exact h.keep rfl rfl rfl rfl id (fun hnone => .inl (hclosed hrun hnone))
        (by simp [ReadLoop.pending]) id
  case h_4 data hreader | h_5 data hreader =>
    have hrun : s.reader ≠ .notStarted := by simp [hreader]
    refine h.keep rfl rfl rfl rfl id (fun hnone => .inl (hclosed hrun hnone)) ?_ id
    split_ifs <;> simp [ReadLoop.pending, hreader]
  · next data hreader =>
    have hrun : s.reader ≠ .notStarted := by simp [hreader]
    obtain ⟨-, hopen, hsend⟩ | hsend := s.send_cases (dataPacket s.clientID data) ok <;>
      rw [hsend]
    · have hsaid : s.sent ≠ [] := fun hnone => by simp [hclosed hrun hnone] at hopen
      obtain ⟨gone, payloads, htold, hsub, hgone⟩ := h.transcript
      refine ⟨fun hmute => absurd (h.mute hmute) hsaid, by simp, gone, payloads ++ [data],
        htold.data hsaid data, ?_, hgone⟩
      rw [hreader] at hsub
      simpa [ReadLoop.pending] using hsub
    · exact h.keep rfl rfl rfl rfl id (fun _ => .inl rfl) (by simp [ReadLoop.pending]) id
  · next hreader =>
    have hrun : s.reader ≠ .notStarted := by simp [hreader]
    split
    · exact h.keep rfl rfl rfl rfl id (fun hnone => .inl (hclosed hrun hnone))
        (by simp [ReadLoop.pending]) id
    · exact h

theorem Told.advance (h : s.Told) (hp : s.Phased) (ok : Bool) :
    (s.advance ok).Told := by
  unfold RelaySession.advance
  split
  case h_1 hstage | h_2 hstage =>
    have hreader := hp.early (by rw [hstage]; rfl)
    split_ifs <;> exact h.keep rfl rfl rfl rfl (fun _ => by rw [hstage]; rfl)
      (fun _ => .inr ⟨hreader, by simp⟩) (List.Sublist.refl _) (fun _ => by simp [hstage])
  · next hstage =>
    have hreader := hp.early (by rw [hstage]; rfl)
    have hnone := h.mute (by rw [hstage]; rfl)
    obtain ⟨-, -, hsend⟩ | hsend := s.send_cases (connectPacket s.clientID s.claims) ok <;>
      rw [hsend]
    · refine ⟨by simp [RelayStage.mute], by simp, false, [], ?_, ?_, fun _ => rfl⟩
      · rw [hnone]
        exact .greeted []
      · simp [hreader, ReadLoop.pending]
    · exact h.keep rfl rfl rfl rfl (by simp [RelayStage.mute]) (fun _ => .inl rfl)
        (List.Sublist.refl _) (fun _ => by simp [hstage])
  · next hstage =>
    refine h.keep rfl rfl rfl rfl (by simp [RelayStage.mute]) (fun hnone => .inl ?_)
      (by simp [ReadLoop.pending]) (fun _ => by simp [hstage])
    exact (h.silenced hnone).resolve_right fun hnot => hnot.2 hstage
  · next hstage =>
    split
    · refine h.keep rfl rfl rfl rfl (by simp [RelayStage.mute]) (fun hnone => ?_)
        (List.Sublist.refl _) (fun _ => by simp [hstage])
      exact (h.silenced hnone).imp_right fun hnot => ⟨hnot.1, by simp⟩
    · exact h
  · next hstage =>
    have hrun := hp.started (.inr hstage)
    obtain ⟨-, hopen, hsend⟩ | hsend := s.send_cases (peerDisconnectedPacket s.clientID) ok <;>
      rw [hsend]
    · have hsaid : s.sent ≠ [] := fun hnone => by
        rcases h.silenced hnone with hshut | hnot
        · simp [hshut] at hopen
        · exact hrun hnot.1
      obtain ⟨gone, payloads, htold, hsub, hgone⟩ := h.transcript
      obtain rfl := hgone (by simp [hstage])
      exact ⟨by simp [RelayStage.mute], by simp, true, payloads, htold.farewell hsaid, hsub,
        by simp⟩
    · exact h.keep rfl rfl rfl rfl (by simp [RelayStage.mute]) (fun _ => .inl rfl)
        (List.Sublist.refl _) (fun hs => by simp at hs)
  · next hstage =>
    split
    · exact h
    · next d _ _ =>
      have hsilenced : s.sent = [] → s.sendClosed = true ∨
          s.reader = .notStarted ∧ s.stage ≠ .start := h.silenced
      cases d
      case leave | cancel => exact h.keep rfl rfl rfl rfl id hsilenced (List.Sublist.refl _) id
      case closeConn | closeSend =>
        exact h.keep rfl rfl rfl rfl id (fun _ => .inl rfl) (List.Sublist.refl _) id

/-- The writer has no part in it. -/
theorem Told.writerStep (h : s.Told) (input : Option Bytes) (ok : Bool) :
    (s.writerStep input ok).Told := by
  unfold RelaySession.writerStep
  split
  · exact h
  · exact h
  · split <;> exact h.keep rfl rfl rfl rfl id h.silenced (List.Sublist.refl _) id
  · split_ifs <;> exact h.keep rfl rfl rfl rfl id h.silenced (List.Sublist.refl _) id
  · split
    · exact h.keep rfl rfl rfl rfl id h.silenced (List.Sublist.refl _) id
    · exact h

theorem Told.step (h : s.Told) (hp : s.Phased) (m : SessionMove) :
    (s.step m).Told := by
  cases m with
  | main ok => exact h.advance hp ok
  | reader input ok => exact h.readerStep input ok
  | writer input ok => exact h.writerStep input ok
  | shutdown => exact h.keep rfl rfl rfl rfl id h.silenced (List.Sublist.refl _) id

/-! ## What is written to the socket -/

/-- What came back was written in its order, up to a last payload that was lost with
the writer. -/
def Echoed (s : RelaySession) : Prop :=
  ∃ lost, s.received = s.written ++ s.writer.pending ++ lost ∧ lost.length ≤ 1 ∧
    (lost ≠ [] → s.writer = .failed ∨ s.writer = .stopped)

theorem Echoed.keep {s s' : RelaySession} (h : s.Echoed) (hreceived : s'.received = s.received)
    (hwritten : s'.written = s.written) (hpending : s'.writer.pending = s.writer.pending)
    (hover : s.writer = .failed ∨ s.writer = .stopped →
      s'.writer = .failed ∨ s'.writer = .stopped) : s'.Echoed := by
  obtain ⟨lost, heq, hle, hfailed⟩ := h
  exact ⟨lost, by rw [hreceived, hwritten, hpending, heq], hle, fun hne => hover (hfailed hne)⟩

/-- Nothing is lost while the writer runs. -/
theorem Echoed.received_eq (h : s.Echoed) (hfailed : s.writer ≠ .failed)
    (hstopped : s.writer ≠ .stopped) : s.received = s.written ++ s.writer.pending := by
  obtain ⟨lost, heq, -, hlost⟩ := h
  have hnone : lost = [] := by
    by_contra hne
    rcases hlost hne with hf | hs
    · exact hfailed hf
    · exact hstopped hs
  rw [heq, hnone, List.append_nil]

theorem Echoed.writerStep (h : s.Echoed) (input : Option Bytes) (ok : Bool) :
    (s.writerStep input ok).Echoed := by
  unfold RelaySession.writerStep
  split
  · exact h
  · exact h
  · next hwriter =>
    have heq := h.received_eq (by simp [hwriter]) (by simp [hwriter])
    rw [hwriter] at heq
    split
    · exact ⟨[], by simp [heq, WriteLoop.pending], by simp, by simp⟩
    · exact ⟨[], by simp [heq, WriteLoop.pending], by simp, by simp⟩
  · next payload hwriter =>
    have heq := h.received_eq (by simp [hwriter]) (by simp [hwriter])
    rw [hwriter] at heq
    split_ifs
    · exact ⟨[], by simp [heq, WriteLoop.pending], by simp, by simp⟩
    · exact ⟨[payload], by simp [heq, WriteLoop.pending], by simp, by simp⟩
  · next hwriter =>
    split
    · exact h.keep rfl rfl (by rw [hwriter]; rfl) (fun _ => .inr rfl)
    · exact h

/-- `relayWS` starts the goroutines, takes a report from the channel, or does
something that concerns neither. -/
theorem advance_cases (s : RelaySession) (ok : Bool) :
    let t := s.advance ok
    t.received = s.received ∧ t.written = s.written ∧
      ((s.stage = .start ∧ t.stage = .wait ∧ t.reader = .reading ∧ t.writer = .receiving ∧
          t.errCh = s.errCh) ∨
        (s.stage = .wait ∧ t.stage = .farewell ∧ t.reader = s.reader ∧ t.writer = s.writer ∧
          s.errCh.recv = some ((), t.errCh)) ∨
        ((t.stage.early → s.stage.early) ∧ (t.stage = .wait → s.stage = .wait) ∧
          t.reader = s.reader ∧ t.writer = s.writer ∧ t.errCh = s.errCh)) := by
  unfold advance
  split
  · next hstage => split_ifs <;> simp [hstage, RelayStage.early]
  · next hstage => split_ifs <;> simp [hstage, RelayStage.early]
  · next hstage =>
    obtain ⟨-, -, hsend⟩ | hsend := s.send_cases (connectPacket s.clientID s.claims) ok <;>
      simp [hsend, hstage, RelayStage.early]
  · next hstage => simp [hstage]
  · next hstage =>
    split
    · next hrecv => simp [hstage, hrecv]
    · simp
  · obtain ⟨-, -, hsend⟩ | hsend := s.send_cases (peerDisconnectedPacket s.clientID) ok <;>
      simp [hsend, RelayStage.early]
  · split
    · simp
    · next d _ _ => cases d <;> simp [perform]

/-- The reader reports once, when it has failed; otherwise the channel stays. -/
theorem readerStep_cases (s : RelaySession) (input : Option Bytes) (ok : Bool) :
    let t := s.readerStep input ok
    t.received = s.received ∧ t.written = s.written ∧
      ((s.reader = .failed ∧ t.reader = .stopped ∧ s.errCh.trySend () = some t.errCh) ∨
        ((t.reader = .stopped ↔ s.reader = .stopped) ∧ t.errCh = s.errCh)) := by
  unfold readerStep
  split
  · simp
  · simp
  · next h => split <;> simp [h]
  · next h => refine ⟨rfl, rfl, .inr ⟨?_, rfl⟩⟩; split_ifs <;> simp [h]
  · next h => refine ⟨rfl, rfl, .inr ⟨?_, rfl⟩⟩; split_ifs <;> simp [h]
  · next data h =>
    obtain ⟨-, -, hsend⟩ | hsend := s.send_cases (dataPacket s.clientID data) ok <;>
      simp [hsend, h]
  · next h =>
    split
    · next hsend => simp [h, hsend]
    · simp

theorem writerStep_cases (s : RelaySession) (input : Option Bytes) (ok : Bool) :
    let t := s.writerStep input ok
    (s.writer = .failed ∧ t.writer = .stopped ∧ s.errCh.trySend () = some t.errCh) ∨
      ((t.writer = .stopped ↔ s.writer = .stopped) ∧ t.errCh = s.errCh) := by
  unfold writerStep
  split
  · simp
  · simp
  · next h => split <;> simp [h]
  · next h => split_ifs <;> simp [h]
  · next h =>
    split
    · next hsend => simp [h, hsend]
    · simp

theorem Echoed.step (h : s.Echoed) (hp : s.Phased) (m : SessionMove) :
    (s.step m).Echoed := by
  cases m with
  | main ok =>
    obtain ⟨hreceived, hwritten, ⟨hstage, -, -, hwriter, -⟩ | ⟨-, -, -, hwriter, -⟩ |
      ⟨-, -, -, hwriter, -⟩⟩ := s.advance_cases ok
    · have hnot : s.writer = .notStarted := hp.together.mp (hp.early (by rw [hstage]; rfl))
      exact h.keep hreceived hwritten (by rw [RelaySession.step, hwriter, hnot]; rfl)
        (by simp [hnot])
    all_goals
      exact h.keep hreceived hwritten (by rw [RelaySession.step, hwriter])
        (by rw [RelaySession.step, hwriter]; exact id)
  | reader input ok =>
    obtain ⟨hreceived, hwritten, -⟩ := s.readerStep_cases input ok
    have hwriter := (s.reader_readerStep input ok).2.1
    exact h.keep hreceived hwritten (by rw [RelaySession.step, hwriter])
      (by rw [RelaySession.step, hwriter]; exact id)
  | writer input ok => exact h.writerStep input ok
  | shutdown => exact h.keep rfl rfl rfl id

/-! ## The reports -/

/-- Each goroutine reports once, and nobody takes a report before `relayWS` waits
for one. -/
structure Reported (s : RelaySession) : Prop where
  cap : s.errCh.cap = 2
  count : s.errCh.sent.length =
    (if s.reader = .stopped then 1 else 0) + (if s.writer = .stopped then 1 else 0)
  untaken : s.stage.early ∨ s.stage = .wait → s.errCh.received = 0

theorem reported_new (clientID : String) (claims : Claims) : (new clientID claims).Reported :=
  ⟨rfl, rfl, fun _ => rfl⟩

/-- There is room for a report that was not made yet. -/
theorem exists_trySend (hcap : s.errCh.cap = 2) (hsent : s.errCh.sent.length ≤ 1) :
    ∃ ch, s.errCh.trySend () = some ch := by
  rcases hsend : s.errCh.trySend () with _ | ch
  · have hfull := Chan.trySend_eq_none_iff.mp hsend
    have hless : s.errCh.buffered.length ≤ s.errCh.sent.length := by
      rw [Chan.buffered, List.length_drop]
      exact Nat.sub_le _ _
    omega
  · exact ⟨ch, rfl⟩

theorem Reported.reader_stops (h : s.Reported) (hfailed : s.reader = .failed)
    (input : Option Bytes) (ok : Bool) : (s.readerStep input ok).reader = .stopped := by
  have hcount := h.count
  rw [hfailed, if_neg (by simp)] at hcount
  obtain ⟨ch, hsend⟩ := exists_trySend h.cap (by split_ifs at hcount <;> omega)
  simp [readerStep, hfailed, hsend]

theorem Reported.writer_stops (h : s.Reported) (hfailed : s.writer = .failed)
    (input : Option Bytes) (ok : Bool) : (s.writerStep input ok).writer = .stopped := by
  have hcount := h.count
  rw [hfailed, if_neg (by simp : ¬WriteLoop.failed = WriteLoop.stopped)] at hcount
  obtain ⟨ch, hsend⟩ := exists_trySend h.cap (by split_ifs at hcount <;> omega)
  simp [writerStep, hfailed, hsend]

/-- One who waits for a report that was made gets it. -/
theorem Reported.exists_recv (h : s.Reported) (hwait : s.stage = .wait)
    (hstopped : s.reader = .stopped ∨ s.writer = .stopped) :
    ∃ ch, s.errCh.recv = some ((), ch) := by
  have hmade : 0 < s.errCh.sent.length := by
    rw [h.count]
    rcases hstopped with hr | hw
    · rw [if_pos hr]
      omega
    · rw [if_pos hw]
      omega
  have hnone := h.untaken (.inr hwait)
  unfold Chan.recv
  rw [dif_pos (by omega)]
  exact ⟨_, rfl⟩

theorem Reported.advance (h : s.Reported) (hp : s.Phased) (ok : Bool) : (s.advance ok).Reported := by
  obtain ⟨-, -, ⟨hstage, hnext, hreader, hwriter, herr⟩ | ⟨-, hnext, hreader, hwriter, hrecv⟩ |
    ⟨hearly, hwait, hreader, hwriter, herr⟩⟩ := s.advance_cases ok
  · have hnot := hp.early (by rw [hstage]; rfl)
    have hnone := h.untaken (.inl (by rw [hstage]; rfl))
    have hcount := h.count
    rw [hnot, hp.together.mp hnot] at hcount
    exact ⟨by rw [herr]; exact h.cap, by rw [herr, hreader, hwriter]; exact hcount,
      fun _ => by rw [herr]; exact hnone⟩
  · obtain ⟨-, hsent, hcap⟩ := Chan.recv_eq_some hrecv
    refine ⟨hcap.trans h.cap, by rw [hsent, hreader, hwriter]; exact h.count, fun hs => ?_⟩
    simp [hnext, RelayStage.early] at hs
  · refine ⟨by rw [herr]; exact h.cap, by rw [herr, hreader, hwriter]; exact h.count, fun hs => ?_⟩
    rw [herr]
    exact h.untaken (hs.imp hearly hwait)

theorem Reported.readerStep (h : s.Reported) (input : Option Bytes) (ok : Bool) :
    (s.readerStep input ok).Reported := by
  obtain ⟨hstage, hwriter, -⟩ := s.reader_readerStep input ok
  obtain ⟨-, -, ⟨hfailed, hstopped, hsend⟩ | ⟨hiff, herr⟩⟩ := s.readerStep_cases input ok
  · have hcount := h.count
    rw [hfailed, if_neg (by simp)] at hcount
    refine ⟨(Chan.trySend_eq_some hsend).2.2.trans h.cap, ?_, fun hs => ?_⟩
    · rw [hstopped, hwriter, Chan.trySend_sent hsend, List.length_append, hcount, if_pos rfl]
      simp [Nat.add_comm]
    · rw [hstage] at hs
      exact (Chan.Grown.trySend hsend).received.trans (h.untaken hs)
  · refine ⟨by rw [herr]; exact h.cap, ?_, by rw [herr, hstage]; exact h.untaken⟩
    rw [herr, hwriter, if_congr hiff rfl rfl]
    exact h.count

theorem Reported.writerStep (h : s.Reported) (input : Option Bytes) (ok : Bool) :
    (s.writerStep input ok).Reported := by
  obtain ⟨hstage, hreader, -⟩ := s.writer_writerStep input ok
  obtain ⟨hfailed, hstopped, hsend⟩ | ⟨hiff, herr⟩ := s.writerStep_cases input ok
  · have hcount := h.count
    rw [hfailed, if_neg (by simp : ¬WriteLoop.failed = WriteLoop.stopped)] at hcount
    refine ⟨(Chan.trySend_eq_some hsend).2.2.trans h.cap, ?_, fun hs => ?_⟩
    · rw [hstopped, hreader, Chan.trySend_sent hsend, List.length_append, hcount]
      simp
    · rw [hstage] at hs
      exact (Chan.Grown.trySend hsend).received.trans (h.untaken hs)
  · refine ⟨by rw [herr]; exact h.cap, ?_, by rw [herr, hstage]; exact h.untaken⟩
    rw [herr, hreader, if_congr hiff rfl rfl]
    exact h.count

theorem Reported.step (h : s.Reported) (hp : s.Phased) (m : SessionMove) : (s.step m).Reported := by
  cases m with
  | main ok => exact h.advance hp ok
  | reader input ok => exact h.readerStep input ok
  | writer input ok => exact h.writerStep input ok
  | shutdown => exact ⟨h.cap, h.count, h.untaken⟩

/-! ## The end -/

/-- What is deferred stays so until it is done. -/
structure Unwinding (s : RelaySession) : Prop where
  length_le : s.deferred.length + s.stage.toDefer ≤ 4
  cancels : .cancel ∈ s.deferred ∨ s.cancelled = true
  leaves : .leave ∈ s.deferred ∨ s.left = true

theorem unwinding_new (clientID : String) (claims : Claims) : (new clientID claims).Unwinding :=
  ⟨le_rfl, .inl (by simp [new]), .inl (by simp [new])⟩

theorem Unwinding.advance (h : s.Unwinding) (ok : Bool) :
    (s.advance ok).Unwinding := by
  have hlength := h.length_le
  unfold RelaySession.advance
  split
  case h_1 hstage | h_2 hstage =>
    simp only [hstage, RelayStage.toDefer] at hlength
    split_ifs
    · exact ⟨by simp [RelayStage.toDefer]; omega, h.cancels.imp_left (by simp),
        h.leaves.imp_left (by simp)⟩
    · exact ⟨by simp [RelayStage.toDefer]; omega, h.cancels, h.leaves⟩
  · next hstage =>
    rw [hstage] at hlength
    obtain ⟨-, -, hsend⟩ | hsend := s.send_cases (connectPacket s.clientID s.claims) ok <;>
      rw [hsend] <;> exact ⟨hlength, h.cancels, h.leaves⟩
  · next hstage =>
    rw [hstage] at hlength
    exact ⟨hlength, h.cancels, h.leaves⟩
  · next hstage =>
    rw [hstage] at hlength
    split
    · exact ⟨hlength, h.cancels, h.leaves⟩
    · exact h
  · next hstage =>
    rw [hstage] at hlength
    obtain ⟨-, -, hsend⟩ | hsend := s.send_cases (peerDisconnectedPacket s.clientID) ok <;>
      rw [hsend] <;> exact ⟨hlength, h.cancels, h.leaves⟩
  · split
    · exact h
    · next d ds hdeferred =>
      have hcancels := h.cancels
      have hleaves := h.leaves
      rw [hdeferred] at hlength hcancels hleaves
      have hfewer : ds.length + s.stage.toDefer ≤ 4 := by
        rw [List.length_cons] at hlength
        omega
      cases d
      case leave => exact ⟨hfewer, by simpa [perform] using hcancels, .inr rfl⟩
      case cancel => exact ⟨hfewer, .inr rfl, by simpa [perform] using hleaves⟩
      case closeConn | closeSend =>
        exact ⟨hfewer, by simpa [perform] using hcancels, by simpa [perform] using hleaves⟩

/-- The goroutines leave the end to `relayWS`. -/
theorem readerStep_frame (s : RelaySession) (input : Option Bytes) (ok : Bool) :
    let t := s.readerStep input ok
    t.deferred = s.deferred ∧ t.cancelled = s.cancelled ∧ t.left = s.left ∧
      t.clientID = s.clientID ∧ t.claims = s.claims := by
  unfold readerStep
  split
  · simp
  · simp
  · split <;> simp
  · simp
  · simp
  · next data _ =>
    obtain ⟨-, -, hsend⟩ | hsend := s.send_cases (dataPacket s.clientID data) ok <;>
      simp [hsend]
  · split <;> simp

theorem writerStep_frame (s : RelaySession) (input : Option Bytes) (ok : Bool) :
    let t := s.writerStep input ok
    t.deferred = s.deferred ∧ t.cancelled = s.cancelled ∧ t.left = s.left ∧
      t.clientID = s.clientID ∧ t.claims = s.claims := by
  unfold writerStep
  split
  · simp
  · simp
  · split <;> simp
  · split_ifs <;> simp
  · split <;> simp

theorem Unwinding.step (h : s.Unwinding) (m : SessionMove) :
    (s.step m).Unwinding := by
  cases m with
  | main ok => exact h.advance ok
  | reader input ok =>
    obtain ⟨hdeferred, hcancelled, hleft, -, -⟩ := s.readerStep_frame input ok
    have hstage := (s.reader_readerStep input ok).1
    exact ⟨by rw [RelaySession.step, hdeferred, hstage]; exact h.length_le,
      by rw [RelaySession.step, hdeferred, hcancelled]; exact h.cancels,
      by rw [RelaySession.step, hdeferred, hleft]; exact h.leaves⟩
  | writer input ok =>
    obtain ⟨hdeferred, hcancelled, hleft, -, -⟩ := s.writerStep_frame input ok
    have hstage := (s.writer_writerStep input ok).1
    exact ⟨by rw [RelaySession.step, hdeferred, hstage]; exact h.length_le,
      by rw [RelaySession.step, hdeferred, hcancelled]; exact h.cancels,
      by rw [RelaySession.step, hdeferred, hleft]; exact h.leaves⟩
  | shutdown => exact ⟨h.length_le, .inr rfl, h.leaves⟩

/-- All that is known of a session that started somewhere. -/
structure Sound (s : RelaySession) : Prop where
  phased : s.Phased
  told : s.Told
  echoed : s.Echoed
  reported : s.Reported
  unwinding : s.Unwinding

theorem sound_new (clientID : String) (claims : Claims) : (new clientID claims).Sound :=
  ⟨phased_new _ _, told_new _ _, ⟨[], rfl, by simp, by simp⟩, reported_new _ _, unwinding_new _ _⟩

theorem Sound.step (h : s.Sound) (m : SessionMove) : (s.step m).Sound :=
  ⟨h.phased.step m, h.told.step h.phased m, h.echoed.step h.phased m,
    h.reported.step h.phased m, h.unwinding.step m⟩

theorem sound_exec (clientID : String) (claims : Claims) (moves : List SessionMove) :
    (exec step (new clientID claims) moves).Sound :=
  exec_keeps Sound (fun _ m h => h.step m) (sound_new clientID claims) moves

/-- A cancelled context stays cancelled. -/
theorem advance_frame (s : RelaySession) (ok : Bool) :
    let t := s.advance ok
    t.clientID = s.clientID ∧ t.claims = s.claims ∧ (s.cancelled = true → t.cancelled = true) := by
  unfold advance
  split
  · split_ifs <;> simp
  · split_ifs <;> simp
  · obtain ⟨-, -, hsend⟩ | hsend := s.send_cases (connectPacket s.clientID s.claims) ok <;>
      simp [hsend]
  · simp
  · split <;> simp
  · obtain ⟨-, -, hsend⟩ | hsend := s.send_cases (peerDisconnectedPacket s.clientID) ok <;>
      simp [hsend]
  · split
    · simp
    · next d _ _ => cases d <;> simp [perform]

theorem identity_exec (clientID : String) (claims : Claims) (moves : List SessionMove) :
    (exec step (new clientID claims) moves).clientID = clientID ∧
      (exec step (new clientID claims) moves).claims = claims := by
  refine exec_keeps (fun s : RelaySession => s.clientID = clientID ∧ s.claims = claims)
    (fun s m h => ?_) ⟨rfl, rfl⟩ moves
  cases m with
  | main ok =>
    obtain ⟨hid, hclaims, -⟩ := s.advance_frame ok
    exact ⟨hid.trans h.1, hclaims.trans h.2⟩
  | reader input ok =>
    obtain ⟨-, -, -, hid, hclaims⟩ := s.readerStep_frame input ok
    exact ⟨hid.trans h.1, hclaims.trans h.2⟩
  | writer input ok =>
    obtain ⟨-, -, -, hid, hclaims⟩ := s.writerStep_frame input ok
    exact ⟨hid.trans h.1, hclaims.trans h.2⟩
  | shutdown => exact h

theorem transcript_exec (clientID : String) (claims : Claims) (moves : List SessionMove) :
    let s := exec step (new clientID claims) moves
    ∃ gone payloads, Transcript clientID claims gone s.sent payloads ∧ payloads.Sublist s.read := by
  intro s
  obtain ⟨hid, hclaims⟩ : s.clientID = clientID ∧ s.claims = claims :=
    identity_exec clientID claims moves
  obtain ⟨gone, payloads, htold, hsub, -⟩ := (sound_exec clientID claims moves).told.transcript
  rw [hid, hclaims] at htold
  exact ⟨gone, payloads, htold, (List.sublist_append_left payloads _).trans hsub⟩

/-- On the stream the client is announced first, then come messages that were read
from the socket, each at most once and in their order, and one announcement that the
client is gone, which at most messages follow. What comes back on the stream is
written to the socket in its order, and at most one payload is lost, with the
writer. -/
theorem relay_session_speaks (clientID : String) (claims : Claims) (moves : List SessionMove) :
    let s := exec step (new clientID claims) moves
    (∃ gone payloads, Transcript clientID claims gone s.sent payloads ∧
      payloads.Sublist s.read) ∧
    ∃ last, s.received = s.written ++ last ∧ last.length ≤ 1 := by
  intro s
  refine ⟨transcript_exec clientID claims moves, ?_⟩
  have h : s.Sound := sound_exec clientID claims moves
  obtain ⟨lost, heq, hle, hlost⟩ := h.echoed
  refine ⟨s.writer.pending ++ lost, by rw [heq, List.append_assoc], ?_⟩
  -- the payload that is being written and the lost one are not both there
  by_cases hnone : lost = []
  · rw [hnone, List.append_nil]
    cases s.writer <;> simp [WriteLoop.pending]
  · rcases hlost hnone with hwriter | hwriter <;> simpa [hwriter, WriteLoop.pending] using hle

/-! ## Progress -/

/-- The steps that the reader still has to take once it is bound to end. -/
def readerRank (s : RelaySession) : ℕ :=
  match s.reader with
  | .notStarted | .stopped => 0
  | .failed => 1
  | .reading | .sending _ => 2
  | .chargingIP _ => 3
  | .charging _ => 4

def writerRank (s : RelaySession) : ℕ :=
  match s.writer with
  | .notStarted | .stopped => 0
  | .failed => 1
  | .receiving | .writing _ => 2

/-- The steps that `relayWS` still has to take after a report. -/
def mainRank (s : RelaySession) : ℕ :=
  match s.stage with
  | .wait => s.deferred.length + 2
  | .farewell => s.deferred.length + 1
  | _ => s.deferred.length

/-- The goroutines were started, if they ever are. -/
theorem late_step (h : s.stage.early = false) (m : SessionMove) :
    (s.step m).stage.early = false := by
  cases m with
  | main ok =>
    obtain ⟨-, -, ⟨-, hnext, -⟩ | ⟨-, hnext, -⟩ | ⟨hearly, -⟩⟩ := s.advance_cases ok
    · rw [step, hnext]
      rfl
    · rw [step, hnext]
      rfl
    · simpa [h, step] using hearly
  | reader input ok => rw [step, (s.reader_readerStep input ok).1, h]
  | writer input ok => rw [step, (s.writer_writerStep input ok).1, h]
  | shutdown => exact h

/-- After the start `relayWS` leaves the goroutines alone. -/
theorem loops_advance (h : s.stage.early = false) (ok : Bool) :
    (s.advance ok).reader = s.reader ∧ (s.advance ok).writer = s.writer := by
  obtain ⟨-, -, ⟨hstage, -⟩ | ⟨-, -, hreader, hwriter, -⟩ | ⟨-, -, hreader, hwriter, -⟩⟩ :=
    s.advance_cases ok
  · rw [hstage] at h
    cases h
  · exact ⟨hreader, hwriter⟩
  · exact ⟨hreader, hwriter⟩

theorem cancelled_step (h : s.cancelled = true) (m : SessionMove) :
    (s.step m).cancelled = true := by
  cases m with
  | main ok => exact (s.advance_frame ok).2.2 h
  | reader input ok => rw [step, (s.readerStep_frame input ok).2.1, h]
  | writer input ok => rw [step, (s.writerStep_frame input ok).2.1, h]
  | shutdown => rfl

/-- The goroutines run, or have run. -/
structure Running (s : RelaySession) : Prop where
  sound : s.Sound
  late : s.stage.early = false
  started : s.reader ≠ .notStarted

theorem Running.step (h : s.Running) (m : SessionMove) : (s.step m).Running := by
  refine ⟨h.sound.step m, late_step h.late m, ?_⟩
  cases m with
  | main ok =>
    rw [RelaySession.step, (loops_advance h.late ok).1]
    exact h.started
  | reader input ok => exact fun hnot => h.started ((s.reader_readerStep input ok).2.2.mp hnot)
  | writer input ok =>
    rw [RelaySession.step, (s.writer_writerStep input ok).2.1]
    exact h.started
  | shutdown => exact h.started

/-- The reader will end: it has failed, or its context is cancelled. -/
structure ReaderEnds (s : RelaySession) : Prop where
  running : s.Running
  bound : s.cancelled = true ∨ s.reader = .failed ∨ s.reader = .stopped

structure WriterEnds (s : RelaySession) : Prop where
  running : s.Running
  bound : s.cancelled = true ∨ s.writer = .failed ∨ s.writer = .stopped

/-- `relayWS` will end: a report was made. -/
structure MainEnds (s : RelaySession) : Prop where
  running : s.Running
  bound : s.reader = .stopped ∨ s.writer = .stopped

theorem ReaderEnds.rank_readerStep (h : s.ReaderEnds) (input : Option Bytes) (ok : Bool) :
    (s.readerStep input ok).readerRank ≤ s.readerRank - 1 := by
  rcases hreader : s.reader with _ | _ | data | data | data | _ | _
  · simp [readerStep, readerRank, hreader]
  · have hcancelled : s.cancelled = true := by simpa [hreader] using h.bound
    cases input <;> simp [readerStep, readerRank, hreader, hcancelled]
  · cases ok <;> simp [readerStep, readerRank, hreader]
  · cases ok <;> simp [readerStep, readerRank, hreader]
  · have hcancelled : s.cancelled = true := by simpa [hreader] using h.bound
    simp [readerStep, readerRank, hreader, send, hcancelled]
  · simp [readerRank, hreader, h.running.sound.reported.reader_stops hreader input ok]
  · simp [readerStep, readerRank, hreader]

theorem ReaderEnds.step (h : s.ReaderEnds) (m : SessionMove) : (s.step m).ReaderEnds := by
  refine ⟨h.running.step m, ?_⟩
  rcases h.bound with hcancelled | hover
  · exact .inl (cancelled_step hcancelled m)
  · refine .inr ?_
    cases m with
    | main ok => rwa [RelaySession.step, (loops_advance h.running.late ok).1]
    | reader input ok =>
      rcases hover with hfailed | hstopped
      · exact .inr (h.running.sound.reported.reader_stops hfailed input ok)
      · exact .inr (by simp [RelaySession.step, readerStep, hstopped])
    | writer input ok => rwa [RelaySession.step, (s.writer_writerStep input ok).2.1]
    | shutdown => exact hover

theorem ReaderEnds.rank_step (h : s.ReaderEnds) (m : SessionMove) :
    (s.step m).readerRank ≤ s.readerRank := by
  cases m with
  | main ok => simp [RelaySession.step, readerRank, (loops_advance h.running.late ok).1]
  | reader input ok => exact (h.rank_readerStep input ok).trans (Nat.sub_le _ _)
  | writer input ok => simp [RelaySession.step, readerRank, (s.writer_writerStep input ok).2.1]
  | shutdown => exact le_rfl

theorem ReaderEnds.rank_ofReader (h : s.ReaderEnds) {m : SessionMove} (hm : m.ofReader) :
    (s.step m).readerRank ≤ s.readerRank - 1 := by
  cases m with
  | reader input ok => exact h.rank_readerStep input ok
  | _ => cases hm

theorem WriterEnds.rank_writerStep (h : s.WriterEnds) (input : Option Bytes) (ok : Bool) :
    (s.writerStep input ok).writerRank ≤ s.writerRank - 1 := by
  rcases hwriter : s.writer with _ | _ | payload | _ | _
  · simp [writerStep, writerRank, hwriter]
  · have hcancelled : s.cancelled = true := by simpa [hwriter] using h.bound
    cases input <;> simp [writerStep, writerRank, hwriter, hcancelled]
  · have hcancelled : s.cancelled = true := by simpa [hwriter] using h.bound
    simp [writerStep, writerRank, hwriter, hcancelled]
  · simp [writerRank, hwriter, h.running.sound.reported.writer_stops hwriter input ok]
  · simp [writerStep, writerRank, hwriter]

theorem WriterEnds.step (h : s.WriterEnds) (m : SessionMove) : (s.step m).WriterEnds := by
  refine ⟨h.running.step m, ?_⟩
  rcases h.bound with hcancelled | hover
  · exact .inl (cancelled_step hcancelled m)
  · refine .inr ?_
    cases m with
    | main ok => rwa [RelaySession.step, (loops_advance h.running.late ok).2]
    | reader input ok => rwa [RelaySession.step, (s.reader_readerStep input ok).2.1]
    | writer input ok =>
      rcases hover with hfailed | hstopped
      · exact .inr (h.running.sound.reported.writer_stops hfailed input ok)
      · exact .inr (by simp [RelaySession.step, writerStep, hstopped])
    | shutdown => exact hover

theorem WriterEnds.rank_step (h : s.WriterEnds) (m : SessionMove) :
    (s.step m).writerRank ≤ s.writerRank := by
  cases m with
  | main ok => simp [RelaySession.step, writerRank, (loops_advance h.running.late ok).2]
  | reader input ok => simp [RelaySession.step, writerRank, (s.reader_readerStep input ok).2.1]
  | writer input ok => exact (h.rank_writerStep input ok).trans (Nat.sub_le _ _)
  | shutdown => exact le_rfl

theorem WriterEnds.rank_ofWriter (h : s.WriterEnds) {m : SessionMove} (hm : m.ofWriter) :
    (s.step m).writerRank ≤ s.writerRank - 1 := by
  cases m with
  | writer input ok => exact h.rank_writerStep input ok
  | _ => cases hm

theorem MainEnds.rank_advance (h : s.MainEnds) (ok : Bool) :
    (s.advance ok).mainRank ≤ s.mainRank - 1 := by
  have hlate := h.running.late
  rcases hstage : s.stage <;> simp only [hstage, RelayStage.early, reduceCtorEq] at hlate
  · obtain ⟨ch, hrecv⟩ := h.running.sound.reported.exists_recv hstage h.bound
    simp [advance, mainRank, hstage, hrecv]
  · obtain ⟨-, -, hsend⟩ | hsend := s.send_cases (peerDisconnectedPacket s.clientID) ok <;>
      simp [advance, mainRank, hstage, hsend]
  · rcases hdeferred : s.deferred with _ | ⟨d, ds⟩
    · simp [advance, mainRank, hstage, hdeferred]
    · cases d <;> simp [advance, mainRank, hstage, hdeferred, perform]

theorem MainEnds.rank_ofMain (h : s.MainEnds) {m : SessionMove} (hm : m.ofMain) :
    (s.step m).mainRank ≤ s.mainRank - 1 := by
  cases m with
  | main ok => exact h.rank_advance ok
  | _ => cases hm

theorem MainEnds.step (h : s.MainEnds) (m : SessionMove) : (s.step m).MainEnds := by
  refine ⟨h.running.step m, ?_⟩
  cases m with
  | main ok =>
    obtain ⟨hreader, hwriter⟩ := loops_advance h.running.late ok
    rw [RelaySession.step, hreader, hwriter]
    exact h.bound
  | reader input ok =>
    rw [RelaySession.step, (s.reader_readerStep input ok).2.1]
    refine h.bound.imp_left fun hstopped => ?_
    simp [readerStep, hstopped]
  | writer input ok =>
    rw [RelaySession.step, (s.writer_writerStep input ok).2.1]
    refine h.bound.imp_right fun hstopped => ?_
    simp [writerStep, hstopped]
  | shutdown => exact h.bound

theorem MainEnds.rank_step (h : s.MainEnds) (m : SessionMove) :
    (s.step m).mainRank ≤ s.mainRank := by
  cases m with
  | main ok => exact (h.rank_advance ok).trans (Nat.sub_le _ _)
  | reader input ok =>
    simp [RelaySession.step, mainRank, (s.reader_readerStep input ok).1,
      (s.readerStep_frame input ok).1]
  | writer input ok =>
    simp [RelaySession.step, mainRank, (s.writer_writerStep input ok).1,
      (s.writerStep_frame input ok).1]
  | shutdown => exact le_rfl

section Runs

variable {moves : List SessionMove}

theorem ReaderEnds.exec_stopped (h : s.ReaderEnds)
    (hmoves : 4 ≤ moves.countP SessionMove.ofReader) :
    (exec RelaySession.step s moves).reader = .stopped := by
  have hend : (exec RelaySession.step s moves).ReaderEnds :=
    exec_keeps ReaderEnds (fun _ m h => h.step m) h moves
  have hrank : (exec RelaySession.step s moves).readerRank ≤
      s.readerRank - moves.countP SessionMove.ofReader :=
    exec_rank_le ReaderEnds (fun _ m h => h.step m) (fun _ m h => h.rank_step m)
      (fun _ _ h hm => h.rank_ofReader hm) h moves
  have hmax : s.readerRank ≤ 4 := by
    unfold readerRank
    split <;> omega
  have hstarted := hend.running.started
  have hzero : (exec RelaySession.step s moves).readerRank = 0 := by omega
  unfold readerRank at hzero
  split at hzero
  · next hnot => exact absurd hnot hstarted
  · assumption
  all_goals cases hzero

theorem WriterEnds.exec_stopped (h : s.WriterEnds)
    (hmoves : 2 ≤ moves.countP SessionMove.ofWriter) :
    (exec RelaySession.step s moves).writer = .stopped := by
  have hend : (exec RelaySession.step s moves).WriterEnds :=
    exec_keeps WriterEnds (fun _ m h => h.step m) h moves
  have hrank : (exec RelaySession.step s moves).writerRank ≤
      s.writerRank - moves.countP SessionMove.ofWriter :=
    exec_rank_le WriterEnds (fun _ m h => h.step m) (fun _ m h => h.rank_step m)
      (fun _ _ h hm => h.rank_ofWriter hm) h moves
  have hmax : s.writerRank ≤ 2 := by
    unfold writerRank
    split <;> omega
  have hstarted := mt hend.running.sound.phased.together.mpr hend.running.started
  have hzero : (exec RelaySession.step s moves).writerRank = 0 := by omega
  unfold writerRank at hzero
  split at hzero
  · next hnot => exact absurd hnot hstarted
  · assumption
  all_goals cases hzero

theorem MainEnds.rank_exec (h : s.MainEnds) (moves : List SessionMove) :
    (exec RelaySession.step s moves).mainRank ≤
      s.mainRank - moves.countP SessionMove.ofMain :=
  exec_rank_le MainEnds (fun _ m h => h.step m) (fun _ m h => h.rank_step m)
    (fun _ _ h hm => h.rank_ofMain hm) h moves

theorem MainEnds.mainRank_le (h : s.MainEnds) : s.mainRank ≤ 6 := by
  have hlength := h.running.sound.unwinding.length_le
  unfold mainRank
  split <;> omega

/-- With nothing left to do, all deferred calls were made. -/
theorem MainEnds.returned (h : s.MainEnds) (hzero : s.mainRank = 0) :
    s.stage = .returning ∧ s.deferred = [] ∧ s.cancelled = true ∧ s.left = true := by
  have hlate := h.running.late
  have hunwinding := h.running.sound.unwinding
  cases hstage : s.stage with
  | returning =>
    have hnone : s.deferred = [] := by simpa [mainRank, hstage] using hzero
    exact ⟨rfl, hnone, by simpa [hnone] using hunwinding.cancels,
      by simpa [hnone] using hunwinding.leaves⟩
  | _ => simp [RelayStage.early, mainRank, hstage] at hlate hzero

end Runs

/-- Everybody gets a few steps, in whatever order. -/
def Round (moves : List SessionMove) : Prop :=
  6 ≤ moves.countP SessionMove.ofMain ∧ 4 ≤ moves.countP SessionMove.ofReader ∧
    2 ≤ moves.countP SessionMove.ofWriter

instance (moves : List SessionMove) : Decidable (Round moves) := by
  unfold Round
  infer_instance

/-- Nobody ever waits to report. When the goroutines run and the gateway shuts down, or
one of them fails, three rounds end the session: `relayWS` has made its deferred calls, the session has
left the pool and the socket is closed, and both goroutines have stopped. -/
theorem relay_session_ends (clientID : String) (claims : Claims)
    (moves first second third : List SessionMove) (hfirst : Round first) (hsecond : Round second)
    (hthird : Round third) :
    let s := exec step (new clientID claims) moves
    let t := exec step s (first ++ second ++ third)
    (s.reader = .failed → ∀ input ok, (s.step (.reader input ok)).reader = .stopped) ∧
      (s.writer = .failed → ∀ input ok, (s.step (.writer input ok)).writer = .stopped) ∧
      (s.reader ≠ .notStarted →
        s.cancelled = true ∨ (s.reader = .failed ∨ s.reader = .stopped) ∨
          (s.writer = .failed ∨ s.writer = .stopped) →
        t.stage = .returning ∧ t.deferred = [] ∧ t.cancelled = true ∧ t.left = true ∧
          t.reader = .stopped ∧ t.writer = .stopped) := by
  intro s t
  have hsound : s.Sound := sound_exec clientID claims moves
  refine ⟨fun hfailed input ok => hsound.reported.reader_stops hfailed input ok,
    fun hfailed input ok => hsound.reported.writer_stops hfailed input ok, ?_⟩
  intro hstarted htrouble
  have hrunning : s.Running :=
    ⟨hsound, Bool.eq_false_iff.mpr fun hearly => hstarted (hsound.phased.early hearly), hstarted⟩
  have hrun : ∀ moves, (exec step s moves).Running := fun moves =>
    exec_keeps Running (fun _ m h => h.step m) hrunning moves
  -- the first round brings a report
  have hmain : (exec step s first).MainEnds := by
    refine ⟨hrun first, ?_⟩
    obtain hcancelled | hreader | hwriter := htrouble
    · exact .inl (ReaderEnds.exec_stopped ⟨hrunning, .inl hcancelled⟩ hfirst.2.1)
    · exact .inl (ReaderEnds.exec_stopped ⟨hrunning, .inr hreader⟩ hfirst.2.1)
    · exact .inr (WriterEnds.exec_stopped ⟨hrunning, .inr hwriter⟩ hfirst.2.2)
  -- the second one ends `relayWS`
  have hmain' : (exec step s (first ++ second)).MainEnds := by
    rw [exec_append]
    exact exec_keeps MainEnds (fun _ m h => h.step m) hmain second
  have hzero : (exec step s (first ++ second)).mainRank = 0 := by
    have hrank := hmain.rank_exec second
    have hmax := hmain.mainRank_le
    have hmoves := hsecond.1
    rw [exec_append]
    omega
  have hcancelled := (hmain'.returned hzero).2.2.1
  -- and the third one the goroutines, under a cancelled context
  have ht : t = exec step (exec step s (first ++ second)) third := exec_append ..
  have hend : t.MainEnds := by
    rw [ht]
    exact exec_keeps MainEnds (fun _ m h => h.step m) hmain' third
  have hzero' : t.mainRank = 0 := by
    have hrank := hmain'.rank_exec third
    rw [ht]
    omega
  obtain ⟨hstage, hdeferred, hcancelled', hleft⟩ := hend.returned hzero'
  refine ⟨hstage, hdeferred, hcancelled', hleft, ?_, ?_⟩
  · rw [ht]
    exact ReaderEnds.exec_stopped ⟨hmain'.running, .inl hcancelled⟩ hthird.2.1
  · rw [ht]
    exact WriterEnds.exec_stopped ⟨hmain'.running, .inl hcancelled⟩ hthird.2.2

/-- The socket fails at the first read. -/
theorem relay_session_ends_unread :
    let round : List SessionMove := List.replicate 6 (.main true) ++
      (List.replicate 4 (.reader none true) ++ List.replicate 2 (.writer none true))
    let s := exec step (new "p1" ⟨"p1", "r1", "z1"⟩)
      [.main true, .main true, .main true, .main true, .reader none true]
    let t := exec step s (round ++ round ++ round)
    s.reader = .failed ∧ t.stage = .returning ∧ t.left = true ∧ t.reader = .stopped ∧
      t.writer = .stopped := by
  intro round s t
  have hround : Round round := by decide
  have hends := (relay_session_ends "p1" ⟨"p1", "r1", "z1"⟩ [.main true, .main true, .main true,
    .main true, .reader none true] round round round hround hround hround).2.2 (by decide)
    (by decide)
  exact ⟨by decide, hends.1, hends.2.2.2.1, hends.2.2.2.2.1, hends.2.2.2.2.2⟩

end RelaySession

end SpatialServer.Gateway

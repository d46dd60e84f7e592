import SpatialServer.Relay

/-!
# The reconnection window

When its connection drops, a client is marked as disconnected and its entity is
to stay until the window has passed. The mark and the sweep do their part; what
can still remove the entity is the end of the stream, whose cleanup removes all
clients that connected on it, marked or not.
-/
namespace SpatialServer

open Runs

/-- The entity exists, nothing queued removes it, and if it is marked, then as
disconnected at `t`. -/
structure Game.Kept (c : EntityID) (t : Time) (g : Game) : Prop where
  live : (g.entities.get c).isSome
  queued : ∀ cmd ∈ g.cmds.buffered, cmd.leaves c true
  mark : ∀ st, g.sessionStates.get c = some st → st.status = .disconnected → st.disconnectedAt = t

namespace Game.Kept

variable {c : EntityID} {t : Time} {g g' : Game}

theorem congr (h : Kept c t g) (he : g'.entities = g.entities) (hc : g'.cmds = g.cmds)
    (hs : g'.sessionStates = g.sessionStates) : Kept c t g' :=
  ⟨he ▸ h.live, hc ▸ h.queued, hs ▸ h.mark⟩

/-- The entity outlives every call of the tick loop until the window is over. -/
theorem ofTick (h : Kept c t g) (H : Host) {call : Call} (hcall : call.ofTick)
    (hsweep : ∀ now ∈ call.sweptAt, now - t ≤ g.reconnectWindow) : Kept c t (step H g call) := by
  obtain rfl | ⟨now, order, rfl⟩ | ⟨-, he, hc, hs, -⟩ := ofTick_cases H g hcall
  · simp only [step, applyCmd]
    split
    · next cmd ch hrecv =>
      have hbuf := (Chan.recv_eq_some hrecv).1
      have hleaves : cmd.leaves c ({ g with cmds := ch }.entities.get c).isSome :=
        h.live ▸ h.queued cmd (by simp [hbuf])
      obtain ⟨hcmds, hsess, -⟩ := cmds_runCmd { g with cmds := ch } cmd
      refine ⟨isSome_runCmd hleaves, fun cmd' hcmd' => ?_, fun st hst => ?_⟩
      · rw [hcmds] at hcmd'
        exact h.queued cmd' (by simp [hbuf, hcmd'])
      · rw [hsess] at hst
        exact h.mark st hst
    · exact h
  · have hexp : g.expired now c = false := by
      unfold expired
      cases hst : g.sessionStates.get c with
      | none => rfl
      | some st =>
        simp only [decide_eq_false_iff_not, not_and, not_lt]
        intro hdisc
        rw [h.mark st hst hdisc]
        exact hsweep now rfl
    have hget := g.sweepDisconnected_get now order c
    simp only [hexp, Bool.false_eq_true, if_false] at hget
    refine ⟨?_, ?_, fun st hst => ?_⟩
    · simp only [step, hget.1]; exact h.live
    · simp only [step, (g.sweepDisconnected_frame now order).1]; exact h.queued
    · simp only [step, hget.2] at hst; exact h.mark st hst
  · exact h.congr he hc hs

theorem enqueueCmd (h : Kept c t g) {cmd : Cmd} (hcmd : cmd.leaves c true) :
    Kept c t (g.enqueueCmd cmd) := by
  refine ⟨by simpa using h.live, fun cmd' hcmd' => ?_, ?_⟩
  · rcases g.buffered_enqueueCmd cmd with hbuf | ⟨hbuf, -⟩ <;> rw [hbuf] at hcmd'
    · rcases List.mem_append.mp hcmd' with hold | hnew
      · exact h.queued cmd' hold
      · rw [List.mem_singleton.mp hnew]; exact hcmd
    · exact h.queued cmd' hcmd'
  · rw [(g.sessionStates_enqueueCmd cmd).1]; exact h.mark

theorem markReconnected (h : Kept c t g) (id : EntityID) : Kept c t (g.markReconnected id) := by
  refine ⟨h.live, h.queued, fun st hst hdisc => ?_⟩
  simp only [Game.markReconnected, Dict.get_set] at hst
  split_ifs at hst
  · cases hst; simp at hdisc
  · exact h.mark st hst hdisc

theorem markDisconnected_ne (h : Kept c t g) {id : EntityID} (hne : id ≠ c) (now : Time) :
    Kept c t (g.markDisconnected id now) := by
  refine ⟨by simpa using h.live, ?_, fun st hst => ?_⟩
  · rw [(g.markDisconnected_frame id now).1]; exact h.queued
  · rw [markDisconnected_sessionStates, if_neg (fun hc => hne hc.1.symm)] at hst
    exact h.mark st hst

end Game.Kept

/-- The action will remove the client or mark it as disconnected. -/
def Action.threatens (c : EntityID) : Action → Bool
  | .enqueueRemoveEntity id | .markDisconnected id => decide (id = c)
  | _ => false

namespace GameServer

/-- The entity is kept, and no stream is about to remove or mark it. -/
structure Kept (c : EntityID) (t : Time) (σ : GameServer) : Prop where
  game : σ.game.Kept c t
  pending : ∀ s, ∀ a ∈ (σ.streams s).pending, a.threatens c = false

/-- What is asked of the steps that follow the mark: no packet disconnects the
client, the sweeps stay within the window, and no stream ends on which the client
connected. -/
def Spares (c : EntityID) (t : Time) (σ : GameServer) : RelayStep → Prop
  | .recv _ pkt => pkt.clientID = c → pkt.kind ≠ .disconnect ∧ pkt.kind ≠ .peerDisconnected
  | .endStream s => c ∉ (σ.streams s).owned
  | .act _ _ | .senderExit _ => True
  | .call call => call.ofTick ∧ ∀ now ∈ call.sweptAt, now - t ≤ σ.game.reconnectWindow

instance (c : EntityID) (t : Time) (σ : GameServer) : ∀ stp, Decidable (σ.Spares c t stp)
  | .recv _ pkt => inferInstanceAs (Decidable
      (pkt.clientID = c → pkt.kind ≠ .disconnect ∧ pkt.kind ≠ .peerDisconnected))
  | .endStream s => inferInstanceAs (Decidable (c ∉ (σ.streams s).owned))
  | .act _ _ | .senderExit _ => isTrue trivial
  | .call call => inferInstanceAs (Decidable
      (call.ofTick ∧ ∀ now ∈ call.sweptAt, now - t ≤ σ.game.reconnectWindow))

variable {c : EntityID} {t : Time} {σ : GameServer}

theorem Kept.setStream (h : Kept c t σ) {s : StreamID} {st : Stream}
    (hst : ∀ a ∈ st.pending, a.threatens c = false) : Kept c t (σ.setStream s st) := by
  refine ⟨h.game, fun q a ha => ?_⟩
  by_cases hq : q = s
  · subst q
    exact hst a (by simpa [GameServer.setStream] using ha)
  · exact h.pending q a (by simpa [GameServer.setStream, hq] using ha)

theorem Kept.unregister (h : Kept c t σ) (id : String) : Kept c t (σ.unregister id) := by
  unfold GameServer.unregister
  split <;> exact ⟨h.game, h.pending⟩

theorem Kept.perform (h : Kept c t σ) (s : StreamID) (now : Time) {a : Action}
    (ha : a.threatens c = false) : Kept c t (σ.perform s now a) := by
  cases a with
  | register id =>
    have hst : Kept c t (σ.setStream s { σ.streams s with entry := σ.entries.next }) :=
      h.setStream (h.pending s)
    exact ⟨hst.game, hst.pending⟩
  | enqueueAddEntity e => exact ⟨h.game.enqueueCmd rfl, h.pending⟩
  | startSender => exact ⟨h.game, h.pending⟩
  | receive pkt =>
    obtain ⟨hc, hs, -⟩ := σ.game.receive_frame pkt
    exact ⟨h.game.congr (by simp [GameServer.perform, onGame]) hc hs, h.pending⟩
  | markReconnected id => exact ⟨h.game.markReconnected id, h.pending⟩
  | markDisconnected id =>
    have hne : id ≠ c := by simpa [Action.threatens] using ha
    exact ⟨h.game.markDisconnected_ne hne now, h.pending⟩
  | unregister id => exact h.unregister id
  | enqueueRemoveEntity id =>
    have hne : id ≠ c := by simpa [Action.threatens] using ha
    exact ⟨h.game.enqueueCmd (by simp [Cmd.leaves, hne]), h.pending⟩

theorem handle_threatens {pkt : RelayPacket}
    (hpkt : pkt.clientID = c → pkt.kind ≠ .disconnect ∧ pkt.kind ≠ .peerDisconnected) :
    ∀ a ∈ handle pkt, a.threatens c = false := by
  intro a ha
  unfold handle at ha
  cases hkind : pkt.kind <;> simp only [hkind] at ha hpkt <;>
    simp only [List.mem_cons, List.not_mem_nil, or_false] at ha
  case disconnect =>
    have hne : pkt.clientID ≠ c := fun hc => (hpkt hc).1 rfl
    rcases ha with rfl | rfl <;> simp [Action.threatens, hne]
  case peerDisconnected =>
    have hne : pkt.clientID ≠ c := fun hc => (hpkt hc).2 rfl
    subst ha
    simp [Action.threatens, hne]
  case connect => rcases ha with rfl | rfl | rfl <;> rfl
  case data => subst ha; rfl
  case reconnect => subst ha; rfl

theorem cleanup_threatens {owned : List String} (hc : c ∉ owned) :
    ∀ a ∈ cleanup owned, a.threatens c = false := by
  intro a ha
  obtain ⟨id, hid, ha⟩ := List.mem_flatMap.mp ha
  have hne : id ≠ c := by rintro rfl; exact hc hid
  simp only [List.mem_cons, List.not_mem_nil, or_false] at ha
  rcases ha with rfl | rfl <;> simp [Action.threatens, hne]

theorem kept_step (H : Host) (h : Kept c t σ) {stp : RelayStep} (hstp : σ.Spares c t stp) :
    Kept c t (σ.step H stp) := by
  cases stp with
  | recv s pkt =>
    simp only [step, recv]
    split
    · exact h.setStream (handle_threatens hstp)
    · exact h
  | endStream s =>
    simp only [step, endStream]
    split
    · exact h.setStream (cleanup_threatens hstp)
    · exact h
  | act s now =>
    simp only [step, act]
    split
    · exact h
    · next a rest hpend =>
      have hall := h.pending s
      rw [hpend] at hall
      exact (h.setStream fun a ha => hall a (List.mem_cons_of_mem _ ha)).perform s now
        (hall a List.mem_cons_self)
  | senderExit ref =>
    simp only [step, senderExit]
    split_ifs
    · have hstopped : Kept c t { σ with
          entries := σ.entries.write ref { σ.entries.cell ref with sending := false } } :=
        ⟨h.game, h.pending⟩
      exact hstopped.unregister _
    · exact h
  | call call => exact ⟨h.game.ofTick H hstp.1 hstp.2, h.pending⟩

/-- After the mark, the entity exists as long as the window has not passed, the
client is not disconnected and no stream ends on which it connected. -/
theorem entity_kept_in_window (H : Host) (sid : ServerID) (before after : List RelayStep)
    (s : StreamID) (c : EntityID) (t : Time)
    (hlive : ((exec (step H) (new sid) before).game.entities.get c).isSome)
    (hopen : ((exec (step H) (new sid) before).streams s).receiving)
    (hqueued : ∀ cmd ∈ (exec (step H) (new sid) before).game.cmds.buffered, cmd.leaves c true)
    (hpending : ∀ s', ∀ a ∈ ((exec (step H) (new sid) before).streams s').pending,
      a.threatens c = false)
    (hafter : Along (step H) (Spares c t) (exec (step H) (new sid)
      (before ++ [.recv s ⟨c, .peerDisconnected, "", []⟩, .act s t])) after) :
    ((exec (step H) (new sid)
      (before ++ [.recv s ⟨c, .peerDisconnected, "", []⟩, .act s t] ++ after)).game.entities.get
        c).isSome := by
  rw [exec_append]
  refine (exec_invariant (Kept c t) (fun _ _ hσ hstp => kept_step H hσ hstp) ?_ hafter).game.live
  rw [exec_append]
  set σ := exec (step H) (new sid) before
  have hmarked : exec (step H) σ [.recv s ⟨c, .peerDisconnected, "", []⟩, .act s t] =
      (σ.setStream s { σ.streams s with pending := [] }).onGame (·.markDisconnected c t) := by
    simp [step, recv, act, handle, perform, setStream, hopen]
  rw [hmarked]
  refine ⟨⟨by simpa [onGame, setStream] using hlive, ?_, fun st hst _ => ?_⟩, fun s' a ha => ?_⟩
  · simp only [onGame, (Game.markDisconnected_frame _ c t).1]
    exact hqueued
  · simp only [onGame, Game.markDisconnected_sessionStates, setStream, hlive, and_self, if_true,
      Option.some.injEq] at hst
    rw [← hst]
  · by_cases hs : s' = s
    · simp [onGame, setStream, hs] at ha
    · exact hpending s' a (by simpa [onGame, setStream, hs] using ha)

/-- A client connects on stream 0 and resumes on stream 1. -/
def resumedSteps : List RelayStep :=
  [.recv 0 ⟨"c1", .connect, "s1", []⟩, .act 0 0, .act 0 0, .act 0 0, .call (.beginTick 0),
    .call .applyCmd, .recv 1 ⟨"c1", .reconnect, "", []⟩, .act 1 0]

theorem entity_kept_in_window_resumed :
    ((exec (step (Host.steady .zero)) (new "gs")
      (resumedSteps ++ [.recv 1 ⟨"c1", .peerDisconnected, "", []⟩, .act 1 second] ++
        [.endStream 1, .call .applyCmd, .call (.sweepDisconnected (31 * second) [])])).game.entities.get
          "c1").isSome := by
  refine entity_kept_in_window (Host.steady .zero) "gs" resumedSteps _ 1 "c1" second
    (by decide +kernel) (by decide +kernel) (by decide +kernel) (fun s' a ha => ?_) ?_
  · have hidle : ((exec (step (Host.steady .zero)) (new "gs") resumedSteps).streams s').pending.isEmpty := by
      by_cases h0 : s' = 0
      · subst h0; decide +kernel
      · by_cases h1 : s' = 1
        · subst h1; decide +kernel
        · rw [streams_exec_ne]
          · rfl
          · simp [resumedSteps, RelayStep.stream, Ne.symm h0, Ne.symm h1]
    rw [List.isEmpty_iff] at hidle
    simp [hidle] at ha
  · decide +kernel

/-- A client connects, its connection drops and the stream ends: the cleanup
removes the entity at the next tick, in no time at all. -/
theorem entity_removed_by_cleanup :
    let σ := exec (step (Host.steady .zero)) (new "gs")
      [.recv 0 ⟨"c1", .connect, "s1", []⟩, .act 0 0, .act 0 0, .act 0 0, .call (.beginTick 0),
        .call .applyCmd]
    (σ.game.entities.get "c1").isSome ∧
      (exec (step (Host.steady .zero)) σ
        [.recv 0 ⟨"c1", .peerDisconnected, "", []⟩, .act 0 second, .endStream 0, .act 0 second,
          .act 0 second, .call (.beginTick second), .call .applyCmd]).game.entities.get "c1" =
            none := by
  decide +kernel

end GameServer

end SpatialServer

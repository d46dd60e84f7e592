import SpatialServer.ConnectOrder

/-!
# How long work waits

A tick applies at most 256 commands and dispatches at most 1024 packets, so that a
burst cannot hold it up. What is left waits for the next tick, while the streams go
on to fill both queues. Nobody overtakes in a queue. A tick that ends one of its loops
before its bound has found the queue empty, so that whatever was queued when the tick
began has been dealt with.

The command queue holds no more than what one tick applies, and the inbox no more
than what four ticks dispatch.
-/
namespace SpatialServer

open Runs

namespace Phase

/-- How many commands the tick has tried to apply. -/
def commandTurns : Phase → ℕ
  | idle => 0
  | applyCmds _ applied => applied
  | _ => cmdChannelBuffer

/-- How many packets the tick has tried to dispatch. -/
def packetTurns : Phase → ℕ
  | idle | applyCmds _ _ => 0
  | drain _ processed => processed
  | _ => maxPacketsPerTick

/-- The counters of the two loops are within their bounds. -/
def Counts : Phase → Prop
  | applyCmds _ applied => applied ≤ cmdChannelBuffer
  | drain _ processed => processed < maxPacketsPerTick
  | _ => True

theorem Counts.next {phase : Phase} (h : phase.Counts) (inp : Game.TickInput) (g : Game) :
    (phase.next inp g).Counts := by
  cases phase with
  | idle => exact Nat.zero_le _
  | applyCmds dt applied =>
    simp only [Phase.next]
    split_ifs with hmore
    · exact hmore.1
    · exact Nat.zero_lt_succ _
  | drain dt processed =>
    simp only [Phase.next]
    split_ifs with hmore
    · exact hmore.2
    · trivial
  | detectZoneBoundaries zids => cases zids <;> trivial
  | _ => trivial

theorem Counts.turns_le {phase : Phase} (h : phase.Counts) :
    phase.commandTurns ≤ cmdChannelBuffer ∧ phase.packetTurns ≤ maxPacketsPerTick := by
  cases phase with
  | idle => exact ⟨Nat.zero_le _, Nat.zero_le _⟩
  | applyCmds dt applied => exact ⟨h, Nat.zero_le _⟩
  | drain dt processed => exact ⟨le_rfl, le_of_lt h⟩
  | _ => exact ⟨le_rfl, le_rfl⟩

/-- Only the first loop applies commands, and only the second one dispatches. -/
theorem call_eq_applyCmd {phase : Phase} {inp : Game.TickInput}
    (h : phase.call inp = some .applyCmd) : ∃ dt applied, phase = applyCmds dt applied := by
  cases phase with
  | applyCmds dt applied => exact ⟨dt, applied, rfl⟩
  | detectZoneBoundaries zids => cases zids <;> cases h
  | _ => cases h

theorem call_eq_dispatchNext {phase : Phase} {inp : Game.TickInput}
    (h : phase.call inp = some .dispatchNext) : ∃ dt processed, phase = drain dt processed := by
  cases phase with
  | drain dt processed => exact ⟨dt, processed, rfl⟩
  | applyCmds dt applied =>
    simp only [call] at h
    split_ifs at h
    cases h
  | detectZoneBoundaries zids => cases zids <;> cases h
  | _ => cases h

end Phase

namespace Game

variable (H : Host) (inp : TickInput) {g : Game}

theorem cmds_loopCall {phase : Phase} (hphase : ∀ dt applied, phase ≠ .applyCmds dt applied) :
    (g.loopCall H inp phase).cmds = g.cmds := by
  unfold loopCall
  split
  · next c hcall =>
    rcases ofTick_cases H g (Phase.ofTick_call hcall) with rfl | ⟨now, order, rfl⟩ | hquiet
    · obtain ⟨dt, applied, heq⟩ := Phase.call_eq_applyCmd hcall
      exact absurd heq (hphase dt applied)
    · exact (g.sweepDisconnected_frame now order).1
    · exact hquiet.2.2.1
  · rfl

theorem inbox_loopCall {phase : Phase} (hphase : ∀ dt processed, phase ≠ .drain dt processed) :
    (g.loopCall H inp phase).inbox = g.inbox := by
  unfold loopCall
  split
  · next c hcall =>
    refine inbox_step (Phase.ofTick_call hcall) ?_
    rintro rfl
    obtain ⟨dt, processed, heq⟩ := Phase.call_eq_dispatchNext hcall
    exact hphase dt processed heq
  · rfl

theorem cmds_applyCmd {cmd : Cmd} {ch : Chan Cmd} (h : g.cmds.recv = some (cmd, ch)) :
    g.applyCmd.cmds = ch := by
  simp only [applyCmd, h]
  exact (cmds_runCmd _ cmd).1

theorem inbox_dispatchNext (c : Wire.Codec) {pkt : InboundPacket} {ch : Chan InboundPacket}
    (h : g.inbox.recv = some (pkt, ch)) : (g.dispatchNext c).inbox = ch := by
  simp only [dispatchNext, h, inbox_dispatch]

end Game

/-! ## The streams fill the queues -/

/-- The channel is the same, or one item was sent to it. -/
def Chan.Fed {α : Type*} (c c' : Chan α) : Prop := c' = c ∨ ∃ a, c.trySend a = some c'

namespace Chan.Fed

variable {α : Type*} {c c' : Chan α} {n : ℕ}

theorem grown (h : c.Fed c') : c.Grown c' := by
  rcases h with rfl | ⟨a, hsend⟩
  · exact .refl _
  · exact .trySend hsend

theorem holds (h : c.Fed c') (hc : c.Holds n) : c'.Holds n := by
  rcases h with rfl | ⟨a, hsend⟩
  · exact hc
  · exact hc.trySend hsend

end Chan.Fed

namespace GameServer

theorem fed_enqueueCmd (g : Game) (cmd : Cmd) :
    g.cmds.Fed (g.enqueueCmd cmd).cmds ∧ g.inbox.Fed (g.enqueueCmd cmd).inbox := by
  unfold Game.enqueueCmd
  split
  · next hsend => exact ⟨.inr ⟨cmd, hsend⟩, .inl rfl⟩
  · exact ⟨.inl rfl, .inl rfl⟩

theorem fed_perform (σ : GameServer) (s : StreamID) (now : Time) (a : Action) :
    σ.game.cmds.Fed (σ.perform s now a).game.cmds ∧
      σ.game.inbox.Fed (σ.perform s now a).game.inbox := by
  cases a with
  | enqueueAddEntity e => exact fed_enqueueCmd σ.game _
  | enqueueRemoveEntity id => exact fed_enqueueCmd σ.game _
  | receive pkt =>
    simp only [GameServer.perform, onGame, Game.receive]
    split
    · next hsend => exact ⟨.inl rfl, .inr ⟨pkt, hsend⟩⟩
    · exact ⟨.inl rfl, .inl rfl⟩
  | markDisconnected id =>
    simp only [GameServer.perform, onGame, Game.markDisconnected]
    split <;> exact ⟨.inl rfl, .inl rfl⟩
  | unregister id =>
    rw [GameServer.perform, game_unregister]
    exact ⟨.inl rfl, .inl rfl⟩
  | _ => exact ⟨.inl rfl, .inl rfl⟩

theorem fed_relay (H : Host) (σ : GameServer) {stp : RelayStep} (hstp : stp.isCall = false) :
    σ.game.cmds.Fed (σ.step H stp).game.cmds ∧ σ.game.inbox.Fed (σ.step H stp).game.inbox := by
  by_cases hact : ∃ s now, stp = .act s now
  · obtain ⟨s, now, rfl⟩ := hact
    simp only [GameServer.step, GameServer.act]
    split
    · exact ⟨.inl rfl, .inl rfl⟩
    · exact fed_perform (σ.setStream s _) s now _
  · rw [Served.game_relay H σ hstp fun s now heq => hact ⟨s, now, heq⟩]
    exact ⟨.inl rfl, .inl rfl⟩

end GameServer

namespace Served

/-! ## What is queued is bounded -/

structure Bounded (t : Served) : Prop where
  cmds : t.server.game.cmds.Holds cmdChannelBuffer
  inbox : t.server.game.inbox.Holds inboxBufferSize

variable {H : Host} {t₀ t : Served} {n : ℕ}

theorem bounded_new (sid : ServerID) : Bounded (new sid) := ⟨.make _, .make _⟩

theorem Bounded.loop (h : Bounded t) (inp : Game.TickInput) : Bounded (t.step H (.loop inp)) := by
  constructor
  case cmds =>
    change ((t.server.game.loopCall H inp t.phase).cmds).Holds _
    by_cases hphase : ∃ dt applied, t.phase = .applyCmds dt applied
    · obtain ⟨dt, applied, hphase⟩ := hphase
      simp only [hphase, Game.loopCall, Phase.call]
      split_ifs
      · rcases hrecv : t.server.game.cmds.recv with _ | ⟨cmd, ch⟩
        · simpa only [Game.step, Game.applyCmd_of_empty hrecv] using h.cmds
        · simpa only [Game.step, Game.cmds_applyCmd hrecv] using h.cmds.recv hrecv
      · exact h.cmds
    · rw [Game.cmds_loopCall H inp fun dt applied heq => hphase ⟨dt, applied, heq⟩]
      exact h.cmds
  case inbox =>
    change ((t.server.game.loopCall H inp t.phase).inbox).Holds _
    by_cases hphase : ∃ dt processed, t.phase = .drain dt processed
    · obtain ⟨dt, processed, hphase⟩ := hphase
      simp only [hphase, Game.loopCall, Phase.call]
      rcases hrecv : t.server.game.inbox.recv with _ | ⟨pkt, ch⟩
      · simpa only [Game.step, Game.dispatchNext_of_empty H.codec hrecv] using h.inbox
      · simpa only [Game.step, Game.inbox_dispatchNext H.codec hrecv] using h.inbox.recv hrecv
    · rw [Game.inbox_loopCall H inp fun dt processed heq => hphase ⟨dt, processed, heq⟩]
      exact h.inbox

theorem Bounded.step (h : Bounded t) (mv : Move) : Bounded (t.step H mv) := by
  cases mv with
  | relay stp hstp =>
    obtain ⟨hcmds, hinbox⟩ := GameServer.fed_relay H t.server hstp
    exact ⟨hcmds.holds h.cmds, hinbox.holds h.inbox⟩
  | loop inp => exact h.loop inp

/-! ## What a tick does for the queues -/

/-- The move completes a tick. -/
def completes (t : Served) : Move → Bool
  | .loop _ => decide (t.phase = .sweepDisconnected)
  | .relay _ _ => false

/-- How many ticks are completed in a run. -/
def ticks (H : Host) : Served → List Move → ℕ
  | _, [] => 0
  | t, mv :: ms => (if t.completes mv then 1 else 0) + ticks H (t.step H mv) ms

/-- Since `t₀`, which was between two ticks, `n` ticks were completed. -/
structure Worked (t₀ : Served) (n : ℕ) (t : Served) : Prop where
  counts : t.phase.Counts
  cmds : t₀.server.game.cmds.Serviced (cmdChannelBuffer * n + t.phase.commandTurns)
    t.server.game.cmds
  inbox : t₀.server.game.inbox.Serviced (maxPacketsPerTick * n + t.phase.packetTurns)
    t.server.game.inbox

theorem Worked.start (hidle : t.phase = .idle) : Worked t 0 t := by
  constructor <;> rw [hidle]
  · trivial
  · exact .refl _
  · exact .refl _

theorem Worked.relay (h : Worked t₀ n t) {stp : RelayStep} (hstp : stp.isCall = false) :
    Worked t₀ n (t.step H (.relay stp hstp)) := by
  obtain ⟨hcmds, hinbox⟩ := GameServer.fed_relay H t.server hstp
  exact ⟨h.counts, h.cmds.grown hcmds.grown, h.inbox.grown hinbox.grown⟩

/-- A command is applied, or the loop ends: at its bound or because there is none. -/
theorem Worked.applyCmds (h : Worked t₀ n t) (inp : Game.TickInput) {dt : Duration} {applied : ℕ}
    (hphase : t.phase = .applyCmds dt applied) : Worked t₀ n (t.step H (.loop inp)) := by
  obtain ⟨hcounts, hcmds, hinbox⟩ := h
  have hkept : (t.step H (.loop inp)).server.game.inbox = t.server.game.inbox :=
    Game.inbox_loopCall H inp (by simp [hphase])
  have hnext := hcounts.next inp t.server.game
  refine ⟨hnext, ?_, ?_⟩
  · simp only [hphase, Phase.Counts, Phase.commandTurns] at hcounts hcmds
    simp only [step, GameServer.onGame, Game.loopCall, hphase, Phase.call, Phase.next]
    by_cases hlt : applied < cmdChannelBuffer
    · rcases hrecv : t.server.game.cmds.recv with _ | ⟨cmd, ch⟩
      · simp only [hlt, if_true, Game.step, Game.applyCmd_of_empty hrecv]
        exact hcmds.empty hrecv (by simp [Phase.commandTurns]; omega)
      · simp only [hlt, if_true, Game.step, Game.cmds_applyCmd hrecv]
        exact hcmds.recv hrecv
    · simp only [hlt, if_false, false_and]
      obtain rfl : applied = cmdChannelBuffer := le_antisymm hcounts (not_lt.mp hlt)
      exact hcmds
  · rw [hkept]
    simp only [hphase, Phase.packetTurns] at hinbox
    simp only [step, hphase, Phase.next]
    split_ifs <;> exact hinbox

theorem Worked.drain (h : Worked t₀ n t) (inp : Game.TickInput) {dt : Duration} {processed : ℕ}
    (hphase : t.phase = .drain dt processed) : Worked t₀ n (t.step H (.loop inp)) := by
  obtain ⟨hcounts, hcmds, hinbox⟩ := h
  have hkept : (t.step H (.loop inp)).server.game.cmds = t.server.game.cmds :=
    Game.cmds_loopCall H inp (by simp [hphase])
  have hnext := hcounts.next inp t.server.game
  refine ⟨hnext, ?_, ?_⟩
  · rw [hkept]
    simp only [hphase, Phase.commandTurns] at hcmds
    simp only [step, hphase, Phase.next]
    split_ifs <;> exact hcmds
  · simp only [hphase, Phase.Counts, Phase.packetTurns] at hcounts hinbox
    simp only [step, GameServer.onGame, Game.loopCall, hphase, Phase.call, Phase.next]
    rcases hrecv : t.server.game.inbox.recv with _ | ⟨pkt, ch⟩
    · simp only [Game.step, Game.dispatchNext_of_empty H.codec hrecv]
      exact hinbox.empty hrecv (by simp [Phase.packetTurns]; omega)
    · simp only [Game.step, Game.inbox_dispatchNext H.codec hrecv]
      have htaken := hinbox.recv hrecv
      by_cases hlt : processed + 1 < maxPacketsPerTick
      · simpa [hlt, Phase.packetTurns, add_assoc] using htaken
      · have hlast : processed + 1 = maxPacketsPerTick := by omega
        simpa [hlt, Phase.packetTurns, ← hlast, add_assoc] using htaken

/-- Outside of the two loops the phase keeps count, and the end of a tick begins the
next count. -/
theorem turns_rest (H : Host) (inp : Game.TickInput)
    (hcmd : ∀ dt applied, t.phase ≠ .applyCmds dt applied)
    (hpkt : ∀ dt processed, t.phase ≠ .drain dt processed) (m : ℕ) :
    let more := if t.completes (.loop inp) then 1 else 0
    cmdChannelBuffer * (m + more) + (t.step H (.loop inp)).phase.commandTurns =
        cmdChannelBuffer * m + t.phase.commandTurns ∧
      maxPacketsPerTick * (m + more) + (t.step H (.loop inp)).phase.packetTurns =
        maxPacketsPerTick * m + t.phase.packetTurns := by
  rcases hphase : t.phase with _ | ⟨dt, k⟩ | ⟨dt, k⟩ | dt | _ | zids | ⟨zid, zids⟩ | _ | _
  case applyCmds => exact absurd hphase (hcmd dt k)
  case drain => exact absurd hphase (hpkt dt k)
  case detectZoneBoundaries =>
    cases zids <;> simp [completes, step, hphase, Phase.next, Phase.commandTurns, Phase.packetTurns]
  case sweepDisconnected =>
    simp [completes, step, hphase, Phase.next, Phase.commandTurns, Phase.packetTurns, mul_add]
  all_goals
    simp [completes, step, hphase, Phase.next, Phase.commandTurns, Phase.packetTurns]

theorem Worked.rest (h : Worked t₀ n t) (inp : Game.TickInput)
    (hcmd : ∀ dt applied, t.phase ≠ .applyCmds dt applied)
    (hpkt : ∀ dt processed, t.phase ≠ .drain dt processed) :
    Worked t₀ (n + if t.completes (.loop inp) then 1 else 0) (t.step H (.loop inp)) := by
  obtain ⟨hcounts, hcmds, hinbox⟩ := h
  obtain ⟨hcmdTurns, hpktTurns⟩ := turns_rest H inp hcmd hpkt n
  refine ⟨hcounts.next inp t.server.game, ?_, ?_⟩
  · rw [hcmdTurns]
    exact (Game.cmds_loopCall H inp hcmd).symm ▸ hcmds
  · rw [hpktTurns]
    exact (Game.inbox_loopCall H inp hpkt).symm ▸ hinbox

theorem Worked.step (h : Worked t₀ n t) (mv : Move) :
    Worked t₀ (n + if t.completes mv then 1 else 0) (t.step H mv) := by
  cases mv with
  | relay stp hstp => exact h.relay hstp
  | loop inp =>
    by_cases hcmd : ∃ dt applied, t.phase = .applyCmds dt applied
    · obtain ⟨dt, applied, hphase⟩ := hcmd
      simpa [completes, hphase] using h.applyCmds inp hphase
    · by_cases hpkt : ∃ dt processed, t.phase = .drain dt processed
      · obtain ⟨dt, processed, hphase⟩ := hpkt
        simpa [completes, hphase] using h.drain inp hphase
      · exact h.rest inp (fun dt applied heq => hcmd ⟨dt, applied, heq⟩)
          fun dt processed heq => hpkt ⟨dt, processed, heq⟩

theorem worked_exec (h : Worked t₀ n t) (ms : List Move) :
    Worked t₀ (n + ticks H t ms) (exec (step H) t ms) := by
  induction ms generalizing t n with
  | nil => exact h
  | cons mv ms ih =>
    rw [exec_cons, ticks, ← add_assoc]
    exact ih (h.step mv)

/-- The rates of the two loops and the sizes of the two queues, put together. -/
theorem Worked.rates (h : Worked t₀ n t) (hbounded : Bounded t₀) :
    (1 ≤ n → t₀.server.game.cmds.sent.length ≤ t.server.game.cmds.received) ∧
      (4 ≤ n → t₀.server.game.inbox.sent.length ≤ t.server.game.inbox.received) ∧
      (∀ i < t₀.server.game.inbox.sent.length,
        i < t₀.server.game.inbox.received + maxPacketsPerTick * n →
          i < t.server.game.inbox.received) ∧
      t.server.game.cmds.received ≤ t₀.server.game.cmds.received + cmdChannelBuffer * (n + 1) ∧
      t.server.game.inbox.received ≤
        t₀.server.game.inbox.received + maxPacketsPerTick * (n + 1) := by
  obtain ⟨hcounts, ⟨-, hcmdLeast, hcmdMost⟩, -, hpktLeast, hpktMost⟩ := h
  obtain ⟨hcmdTurns, hpktTurns⟩ := hcounts.turns_le
  have hcmds := hbounded.cmds.sent_length_le
  have hinbox := hbounded.inbox.sent_length_le
  simp only [cmdChannelBuffer, maxPacketsPerTick, inboxBufferSize] at *
  refine ⟨fun hn => ?_, fun hn => ?_, fun i hi hn => ?_, ?_, ?_⟩ <;> omega

/-- Whatever the streams do meanwhile: what is in a queue when a tick begins is taken
from it at the rate of the tick's bounds, and never faster. So after one tick all
commands have been applied, and after four ticks all packets have been dispatched. -/
theorem queued_work_is_done (H : Host) (sid : ServerID) (past ms : List Move)
    (hidle : (exec (step H) (new sid) past).phase = .idle) :
    let t := exec (step H) (new sid) past
    let g := t.server.game
    let g' := (exec (step H) t ms).server.game
    let n := ticks H t ms
    (1 ≤ n → g.cmds.sent.length ≤ g'.cmds.received) ∧
      (4 ≤ n → g.inbox.sent.length ≤ g'.inbox.received) ∧
      (∀ i < g.inbox.sent.length, i < g.inbox.received + maxPacketsPerTick * n →
        i < g'.inbox.received) ∧
      g'.cmds.received ≤ g.cmds.received + cmdChannelBuffer * (n + 1) ∧
      g'.inbox.received ≤ g.inbox.received + maxPacketsPerTick * (n + 1) := by
  intro t g g' n
  have hbounded : Bounded t := exec_keeps Bounded (fun _ mv h => h.step mv) (bounded_new sid) past
  have hworked : Worked t n (exec (step H) t ms) := by
    simpa using worked_exec (H := H) (Worked.start hidle) ms
  exact hworked.rates hbounded

/-- A client connects between two ticks: its addition waits and the next tick applies
it. -/
theorem queued_addition_is_done :
    let H := Host.steady .zero
    let t := exec (step H) (new "gs") [.relay (.recv 0 ⟨"c1", .connect, "s1", []⟩) rfl,
      .relay (.act 0 0) rfl, .relay (.act 0 0) rfl, .relay (.act 0 0) rfl]
    let ms := List.replicate 12 (Move.loop (.reading 0))
    t.server.game.cmds.buffered.length = 1 ∧ 1 ≤ ticks H t ms ∧
      t.server.game.cmds.sent.length ≤ (exec (step H) t ms).server.game.cmds.received := by
  have hdone := (queued_work_is_done (Host.steady .zero) "gs"
    [.relay (.recv 0 ⟨"c1", .connect, "s1", []⟩) rfl, .relay (.act 0 0) rfl,
      .relay (.act 0 0) rfl, .relay (.act 0 0) rfl]
    (List.replicate 12 (Move.loop (.reading 0))) (by decide +kernel)).1
  exact ⟨by decide +kernel, by decide +kernel, hdone (by decide +kernel)⟩

end Served

end SpatialServer

import SpatialServer.Relay

/-!
# A client that moves to another stream

A client may connect on a new stream while its old one still exists. The latest
stream is meant to hold the client: the registry leads to its queue, and the
entity exists once the queued commands have run. Registry and commands know the
client by name only, so the old stream must not touch the name any more; what
may disturb the holder is listed in `disturbs`, and nothing else does.
-/
namespace SpatialServer

open Runs

/-- Whether the queued commands leave the client in existence. -/
def survives (c : EntityID) (live : Bool) (cmds : List Cmd) : Bool :=
  cmds.foldl (fun live cmd => cmd.leaves c live) live

theorem Cmd.leaves_mono {c : EntityID} {live live' : Bool} (h : live → live') (cmd : Cmd)
    (hl : cmd.leaves c live) : cmd.leaves c live' := by
  cases cmd with
  | add e =>
    simp only [Cmd.leaves, Bool.or_eq_true] at hl ⊢
    exact hl.imp_left h
  | remove id =>
    simp only [Cmd.leaves, Bool.and_eq_true] at hl ⊢
    exact hl.imp_left h

theorem survives_mono {c : EntityID} {live live' : Bool} (h : live → live') {cmds : List Cmd}
    (hs : survives c live cmds) : survives c live' cmds := by
  induction cmds generalizing live live' with
  | nil => exact h hs
  | cons cmd cmds ih => exact ih (fun hl => Cmd.leaves_mono h cmd hl) hs

theorem survives_append (c : EntityID) (live : Bool) (cmds : List Cmd) (cmd : Cmd) :
    survives c live (cmds ++ [cmd]) = cmd.leaves c (survives c live cmds) := by
  simp [survives]

namespace Game

/-- The client exists once all queued commands have been applied. -/
theorem isSome_applyCmd_iterate {c : EntityID} {g : Game}
    (h : survives c (g.entities.get c).isSome g.cmds.buffered) :
    ((applyCmd^[g.cmds.buffered.length] g).entities.get c).isSome := by
  generalize hn : g.cmds.buffered.length = n
  induction n generalizing g with
  | zero =>
    rw [List.length_eq_zero_iff.mp hn] at h
    exact h
  | succ n ih =>
    rw [Function.iterate_succ_apply]
    cases hrecv : g.cmds.recv with
    | none => simp [Chan.recv_eq_none hrecv] at hn
    | some res =>
      obtain ⟨cmd, ch⟩ := res
      have hbuf := (Chan.recv_eq_some hrecv).1
      have hcmds := (cmds_runCmd { g with cmds := ch } cmd).1
      simp only [applyCmd, hrecv]
      apply ih
      · rw [hcmds]
        rw [hbuf] at h
        exact survives_mono (fun hl => isSome_runCmd hl) h
      · rw [hcmds]
        simpa [hbuf] using hn

end Game

namespace GameServer

/-- Entries are allocated, and named as the registry names them. -/
def Registry (σ : GameServer) : Prop :=
  ∀ id ref, σ.clients.get id = some ref → ref < σ.entries.next ∧ (σ.entries.cell ref).id = id

/-- The registry leads from the client to an open entry of the stream. -/
def Registered (c : String) (s : StreamID) (σ : GameServer) : Prop :=
  ∃ ref, σ.clients.get c = some ref ∧ (σ.entries.cell ref).stream = s ∧
    (σ.entries.cell ref).id = c ∧ (σ.entries.cell ref).done = false

variable {c : String} {S : StreamID} {σ : GameServer}

theorem Registry.register (h : Registry σ) (s : StreamID) (id : String) :
    Registry (σ.register s id) := by
  intro x ref hx
  simp only [GameServer.register, Dict.get_set] at hx ⊢
  split_ifs at hx with hid
  · cases hx
    simp [hid]
  · obtain ⟨hlt, hname⟩ := h x ref hx
    exact ⟨Nat.lt_succ_of_lt hlt, by rw [Heap.cell_alloc_of_lt _ _ hlt]; exact hname⟩

/-- Flags of an entry may change, its name may not. -/
theorem Registry.write (h : Registry σ) {r : ℕ} {e : ClientEntry}
    (he : e.id = (σ.entries.cell r).id) :
    Registry { σ with entries := σ.entries.write r e } := by
  intro x q hx
  obtain ⟨hlt, hname⟩ := h x q hx
  refine ⟨hlt, ?_⟩
  by_cases hq : q = r
  · subst q; simpa [he] using hname
  · simpa [hq] using hname

theorem Registry.unregister (h : Registry σ) (id : String) : Registry (σ.unregister id) := by
  unfold GameServer.unregister
  split
  · exact h
  · next ref _ =>
    have hclosed := h.write (r := ref) (e := { σ.entries.cell ref with done := true }) rfl
    intro x q hx
    simp only [Dict.get_del] at hx
    split_ifs at hx
    exact hclosed x q hx

theorem Registry.perform (h : Registry σ) (s : StreamID) (now : Time) (a : Action) :
    Registry (σ.perform s now a) := by
  cases a with
  | register id => exact h.register s id
  | startSender => exact h.write rfl
  | unregister id => exact h.unregister id
  | _ => exact h

theorem registry_step (H : Host) (h : Registry σ) (stp : RelayStep) : Registry (σ.step H stp) := by
  cases stp with
  | recv s pkt =>
    simp only [step, recv]
    split <;> exact h
  | endStream s =>
    simp only [step, endStream]
    split <;> exact h
  | act s now =>
    simp only [step, act]
    split
    · exact h
    · exact Registry.perform (σ := σ.setStream s _) h s now _
  | senderExit ref =>
    simp only [step, senderExit]
    split
    · exact (h.write (r := ref) (e := { σ.entries.cell ref with sending := false }) rfl).unregister _
    · exact h
  | call call => exact h

theorem Registered.register_self (s : StreamID) : Registered c s (σ.register s c) :=
  ⟨σ.entries.next, by simp [GameServer.register], by simp [GameServer.register],
    by simp [GameServer.register], by simp [GameServer.register]⟩

theorem Registered.register_ne (h : Registered c S σ) (hreg : Registry σ) (s : StreamID)
    {id : String} (hid : id ≠ c) : Registered c S (σ.register s id) := by
  obtain ⟨ref, hget, hstream, hname, hdone⟩ := h
  have hlt := (hreg c ref hget).1
  refine ⟨ref, ?_, ?_, ?_, ?_⟩
  · simpa [GameServer.register, Ne.symm hid] using hget
  all_goals
    simp only [GameServer.register, Heap.cell_alloc_of_lt _ _ hlt]
    assumption

/-- Starting and stopping senders closes nothing. -/
theorem Registered.write (h : Registered c S σ) {r : ℕ} {e : ClientEntry}
    (hs : e.stream = (σ.entries.cell r).stream) (hi : e.id = (σ.entries.cell r).id)
    (hd : e.done = (σ.entries.cell r).done) :
    Registered c S { σ with entries := σ.entries.write r e } := by
  obtain ⟨q, hget, hstream, hname, hdone⟩ := h
  refine ⟨q, hget, ?_⟩
  by_cases hq : q = r
  · subst q; simp [hs, hi, hd, hstream, hname, hdone]
  · simp [hq, hstream, hname, hdone]

theorem Registered.unregister_ne (h : Registered c S σ) (hreg : Registry σ) {id : String}
    (hid : id ≠ c) : Registered c S (σ.unregister id) := by
  unfold GameServer.unregister
  split
  · exact h
  · next ref href =>
    obtain ⟨q, hget, hstream, hname, hdone⟩ := h
    have hq : q ≠ ref := by
      rintro rfl
      exact hid ((hreg id q href).2.symm.trans hname)
    exact ⟨q, by simpa [Ne.symm hid] using hget, by simp [hq, hstream], by simp [hq, hname],
      by simp [hq, hdone]⟩

/-! ## Disturbances -/

/-- The steps that take the client `c` from the stream `S`: another stream
registers or unregisters it or queues its removal, a sender that was started for
it stops, its session expires, or there is no room to queue its addition. -/
def disturbs (c : String) (S : StreamID) (σ : GameServer) : RelayStep → Bool
  | .recv _ _ | .endStream _ => false
  | .act s _ =>
    match (σ.streams s).pending.head? with
    | some (.register id) => decide (id = c ∧ s ≠ S)
    | some (.unregister id) | some (.enqueueRemoveEntity id) => decide (id = c)
    | some (.enqueueAddEntity e) =>
      decide (e.id = c ∧ s = S) && (σ.game.cmds.trySend (.add e)).isNone
    | _ => false
  | .senderExit ref => (σ.entries.cell ref).sending && decide ((σ.entries.cell ref).id = c)
  | .call call => !call.ofTick || call.sweptAt.any fun now => σ.game.expired now c

/-- An action that does not take the client away keeps its registration. -/
theorem Registered.perform (h : Registered c S σ) (hreg : Registry σ) {s : StreamID} (now : Time)
    {a : Action} (hregister : a = .register c → s = S) (hunregister : a ≠ .unregister c) :
    Registered c S (σ.perform s now a) := by
  cases a with
  | register id =>
    by_cases hid : id = c
    · subst id
      obtain rfl := hregister rfl
      exact .register_self s
    · exact h.register_ne hreg s hid
  | startSender => exact h.write rfl rfl rfl
  | unregister id =>
    have hid : id ≠ c := by rintro rfl; exact hunregister rfl
    exact h.unregister_ne hreg hid
  | _ => exact h

/-- The client exists once the queued commands have run. -/
def Present (c : String) (σ : GameServer) : Prop :=
  survives c (σ.game.entities.get c).isSome σ.game.cmds.buffered

theorem Present.enqueueCmd (h : Present c σ) {cmd : Cmd} (hcmd : cmd.leaves c true) :
    Present c (σ.onGame (·.enqueueCmd cmd)) := by
  unfold Present at h ⊢
  simp only [onGame, Game.toStore_enqueueCmd]
  rcases σ.game.buffered_enqueueCmd cmd with hbuf | ⟨hbuf, -⟩ <;> rw [hbuf]
  · rw [survives_append, h]; exact hcmd
  · exact h

theorem Present.perform (h : Present c σ) (s : StreamID) (now : Time) {a : Action}
    (ha : a ≠ .enqueueRemoveEntity c) : Present c (σ.perform s now a) := by
  cases a with
  | register id => exact h
  | enqueueAddEntity e => exact h.enqueueCmd rfl
  | startSender => exact h
  | receive pkt =>
    unfold Present at h ⊢
    simpa only [GameServer.perform, onGame, Game.toStore_receive, (σ.game.receive_frame pkt).1]
  | markReconnected id => exact h
  | markDisconnected id =>
    unfold Present at h ⊢
    simpa only [GameServer.perform, onGame, Game.toStore_markDisconnected,
      (σ.game.markDisconnected_frame id now).1]
  | unregister id =>
    unfold Present at h ⊢
    simpa only [GameServer.perform, game_unregister]
  | enqueueRemoveEntity id =>
    have hid : id ≠ c := by rintro rfl; exact ha rfl
    exact h.enqueueCmd (by simp [Cmd.leaves, hid])

theorem Present.call (h : Present c σ) (H : Host) {call : Call} (hcall : call.ofTick)
    (hsweep : ∀ now ∈ call.sweptAt, σ.game.expired now c = false) :
    Present c (σ.onGame (·.step H call)) := by
  unfold Present at h ⊢
  simp only [onGame]
  obtain rfl | ⟨now, order, rfl⟩ | ⟨-, he, hc, -, -⟩ := Game.ofTick_cases H σ.game hcall
  · simp only [Game.step, Game.applyCmd]
    split
    · next cmd ch hrecv =>
      rw [(Chan.recv_eq_some hrecv).1] at h
      rw [(Game.cmds_runCmd _ cmd).1]
      exact survives_mono (fun hl => Game.isSome_runCmd hl) h
    · exact h
  · simp only [Game.step, (σ.game.sweepDisconnected_get now order c).1, hsweep now rfl,
      (σ.game.sweepDisconnected_frame now order).1]
    exact h
  · rw [he, hc]
    exact h

/-- The stream holds the client: it is open, and either its own connect packet is
still being handled or the client is registered to it and present. -/
structure Holding (c : String) (S : StreamID) (σ : GameServer) : Prop where
  opened : (σ.streams S).ended = false
  progress : (∃ e, e.id = c ∧
      (σ.streams S).pending = [.register c, .enqueueAddEntity e, .startSender]) ∨
    Registered c S σ ∧ ((∃ e, e.id = c ∧ (σ.streams S).pending = [.enqueueAddEntity e, .startSender]) ∨
      Present c σ)

theorem Holding.frame {σ' : GameServer} (h : Holding c S σ)
    (hstream : σ'.streams S = σ.streams S) (hreg : Registered c S σ → Registered c S σ')
    (hpres : Present c σ → Present c σ') : Holding c S σ' := by
  refine ⟨by rw [hstream]; exact h.opened, ?_⟩
  rw [hstream]
  rcases h.progress with hconnect | ⟨hr, hadd | hp⟩
  · exact .inl hconnect
  · exact .inr ⟨hreg hr, .inl hadd⟩
  · exact .inr ⟨hreg hr, .inr (hpres hp)⟩

/-- A stream that waits for a packet has finished its connect packet. -/
theorem Holding.of_receiving (h : Holding c S σ) (hrecv : (σ.streams S).receiving) :
    Registered c S σ ∧ Present c σ := by
  have hidle : (σ.streams S).pending = [] := by
    simp only [Stream.receiving, Bool.and_eq_true, List.isEmpty_iff] at hrecv
    exact hrecv.2
  rcases h.progress with ⟨e, -, hpend⟩ | ⟨hr, ⟨e, -, hpend⟩ | hp⟩
  · simp [hidle] at hpend
  · simp [hidle] at hpend
  · exact ⟨hr, hp⟩

/-- A packet by itself takes nothing from the holder. -/
theorem Holding.recv (h : Holding c S σ) (s : StreamID) (pkt : RelayPacket) :
    Holding c S (σ.recv s pkt) := by
  simp only [GameServer.recv]
  split
  · next hrecv =>
    by_cases hs : S = s
    · subst s
      obtain ⟨hr, hp⟩ := h.of_receiving hrecv
      exact ⟨by simpa [setStream] using h.opened, .inr ⟨hr, .inr hp⟩⟩
    · exact h.frame (streams_setStream_ne _ _ hs) id id
  · exact h

theorem holding_connect {s : StreamID} (hrecv : (σ.streams s).receiving) {pkt : RelayPacket}
    (hkind : pkt.kind = .connect) : Holding pkt.clientID s (σ.recv s pkt) := by
  have hopen : (σ.streams s).ended = false := by
    simp only [Stream.receiving, Bool.and_eq_true, Bool.not_eq_true'] at hrecv
    exact hrecv.1
  have heq : σ.recv s pkt = σ.setStream s { σ.streams s with
      owned := (σ.streams s).owned ++ [pkt.clientID], pending := handle pkt } := by
    simp [GameServer.recv, hrecv, hkind]
  rw [heq]
  exact ⟨by simpa [setStream] using hopen, .inl ⟨Entity.new pkt.clientID "avatar" pkt.runtimeID,
    rfl, by simp [setStream, handle, hkind]⟩⟩

theorem Holding.endStream_ne (h : Holding c S σ) {s : StreamID} (hs : S ≠ s) :
    Holding c S (σ.endStream s) := by
  simp only [GameServer.endStream]
  split
  · exact h.frame (streams_setStream_ne _ _ hs) id id
  · exact h

theorem Holding.senderExit (h : Holding c S σ) (hreg : Registry σ) {ref : ℕ}
    (hd : σ.disturbs c S (.senderExit ref) = false) : Holding c S (σ.senderExit ref) := by
  unfold GameServer.senderExit
  split
  · next hsending =>
    have hid : (σ.entries.cell ref).id ≠ c := by simpa [disturbs, hsending] using hd
    have hstopped : Registry { σ with
        entries := σ.entries.write ref { σ.entries.cell ref with sending := false } } :=
      hreg.write rfl
    refine h.frame (by simp) (fun hr => ?_) (fun hp => ?_)
    · have hr' := hr.write (r := ref) (e := { σ.entries.cell ref with sending := false })
        rfl rfl rfl
      exact hr'.unregister_ne hstopped hid
    · unfold Present at hp ⊢
      simpa only [game_unregister] using hp
  · exact h

theorem ended_perform (σ : GameServer) (s : StreamID) (now : Time) (a : Action) (q : StreamID) :
    ((σ.perform s now a).streams q).ended = (σ.streams q).ended := by
  cases a with
  | register id =>
    by_cases hq : q = s
    · subst q; simp [GameServer.perform, GameServer.register, setStream]
    · simp [GameServer.perform, GameServer.register, setStream, hq]
  | _ => simp [GameServer.perform, onGame]

/-- The addition that a connect packet asks for is queued, if there is room. -/
theorem present_act {e : Entity} (he : e.id = c)
    (hpend : (σ.streams S).pending = [.enqueueAddEntity e, .startSender])
    (hroom : (σ.game.cmds.trySend (.add e)).isSome) (now : Time) : Present c (σ.act S now) := by
  obtain ⟨ch, hch⟩ := Option.isSome_iff_exists.mp hroom
  have hact : σ.act S now = (σ.setStream S { σ.streams S with
      pending := [.startSender] }).onGame (·.enqueueCmd (.add e)) := by
    simp [act, hpend, GameServer.perform]
  rw [hact]
  unfold Present
  simp only [onGame, setStream, Game.enqueueCmd, hch, Chan.trySend_buffered hch,
    survives_append, Cmd.leaves, he, decide_true, Bool.or_true]

/-- The holder's own goroutine makes progress. -/
theorem Holding.act_self (h : Holding c S σ) (hreg : Registry σ) (now : Time)
    (hd : σ.disturbs c S (.act S now) = false) : Holding c S (σ.act S now) := by
  rcases h.progress with ⟨e, he, hpend⟩ | ⟨hr, ⟨e, he, hpend⟩ | hp⟩
  · -- the connect packet: the client is registered
    have hact : σ.act S now = (σ.setStream S { σ.streams S with
        pending := [.enqueueAddEntity e, .startSender] }).register S c := by
      simp [act, hpend, GameServer.perform]
    rw [hact]
    exact ⟨by simpa [GameServer.register, setStream] using h.opened,
      .inr ⟨.register_self S, .inl ⟨e, he, by simp [GameServer.register, setStream]⟩⟩⟩
  · -- and its entity is queued, since there is room
    have hact : σ.act S now = (σ.setStream S { σ.streams S with
        pending := [.startSender] }).onGame (·.enqueueCmd (.add e)) := by
      simp [act, hpend, GameServer.perform]
    simp only [disturbs, hpend, List.head?_cons, he, and_self, decide_true, Bool.true_and,
      Option.isNone_eq_false_iff] at hd
    refine ⟨?_, .inr ⟨?_, .inr (present_act he hpend hd now)⟩⟩ <;> rw [hact]
    · simpa [onGame, setStream] using h.opened
    · exact hr
  · unfold act
    split
    · exact h
    · next a rest hpend =>
      simp only [disturbs, hpend, List.head?_cons] at hd
      refine ⟨?_, .inr ⟨?_, .inr ?_⟩⟩
      · rw [ended_perform]
        simpa [setStream] using h.opened
      · refine Registered.perform (σ := σ.setStream S _) hr hreg now (fun _ => rfl) ?_
        rintro rfl; simp at hd
      · refine Present.perform (σ := σ.setStream S _) hp S now ?_
        rintro rfl; simp at hd

/-- Nothing that another goroutine may do without disturbing reaches the holder. -/
theorem Holding.act_ne (h : Holding c S σ) (hreg : Registry σ) {s : StreamID} (hs : s ≠ S)
    (now : Time) (hd : σ.disturbs c S (.act s now) = false) : Holding c S (σ.act s now) := by
  unfold act
  split
  · exact h
  · next a rest hpend =>
    simp only [disturbs, hpend, List.head?_cons] at hd
    refine h.frame ?_ (fun hr => ?_) (fun hp => ?_)
    · rw [streams_perform_ne _ _ _ (Ne.symm hs), streams_setStream_ne _ _ (Ne.symm hs)]
    · refine Registered.perform (σ := σ.setStream s _) hr hreg now ?_ ?_
      · rintro rfl; simp [hs] at hd
      · rintro rfl; simp at hd
    · refine Present.perform (σ := σ.setStream s _) hp s now ?_
      rintro rfl; simp at hd

end GameServer

/-- A server, and the stream that holds the client: the one on which its latest
connect packet arrived, until that stream ends or disconnects the client. -/
structure Handover where
  server : GameServer
  holder : Option StreamID

namespace Handover

def new (sid : ServerID) : Handover := ⟨GameServer.new sid, none⟩

def holderAfter (c : String) (t : Handover) : RelayStep → Option StreamID
  | .recv s pkt =>
    if (t.server.streams s).receiving ∧ pkt.clientID = c then
      if pkt.kind = .connect then some s
      else if pkt.kind = .disconnect ∧ t.holder = some s then none
      else t.holder
    else t.holder
  | .endStream s =>
    if (t.server.streams s).receiving ∧ t.holder = some s then none else t.holder
  | _ => t.holder

def step (H : Host) (c : String) (t : Handover) (stp : RelayStep) : Handover :=
  ⟨t.server.step H stp, t.holderAfter c stp⟩

/-- No step disturbs the current holder. -/
def Undisturbed (c : String) (t : Handover) (stp : RelayStep) : Prop :=
  ∀ S ∈ t.holder, t.server.disturbs c S stp = false

instance (c : String) (t : Handover) (stp : RelayStep) : Decidable (t.Undisturbed c stp) :=
  inferInstanceAs (Decidable (∀ S ∈ t.holder, t.server.disturbs c S stp = false))

/-- Whoever is the holder holds the client. -/
structure Holds (c : String) (t : Handover) : Prop where
  registry : t.server.Registry
  holding : ∀ S, t.holder = some S → t.server.Holding c S

theorem holds_step (H : Host) {c : String} {t : Handover} (h : Holds c t) {stp : RelayStep}
    (hstp : t.Undisturbed c stp) : Holds c (t.step H c stp) := by
  refine ⟨GameServer.registry_step H h.registry stp, fun S hS => ?_⟩
  cases stp with
  | recv s pkt =>
    simp only [step, holderAfter] at hS
    split_ifs at hS with hrecv hkind
    · obtain rfl : s = S := Option.some.inj hS
      rw [← hrecv.2]
      exact GameServer.holding_connect hrecv.1 hkind
    all_goals exact (h.holding S hS).recv s pkt
  | endStream s =>
    simp only [step, holderAfter] at hS
    split_ifs at hS with hend
    by_cases hs : S = s
    · subst s
      have hnot : ¬ (t.server.streams S).receiving := fun hr => hend ⟨hr, hS⟩
      have hsame : t.server.endStream S = t.server := by simp [GameServer.endStream, hnot]
      simp only [step, GameServer.step, hsame]
      exact h.holding S hS
    · exact (h.holding S hS).endStream_ne hs
  | act s now =>
    have hS : t.holder = some S := hS
    have hd := hstp S hS
    by_cases hs : s = S
    · subst s; exact (h.holding S hS).act_self h.registry now hd
    · exact (h.holding S hS).act_ne h.registry hs now hd
  | senderExit ref => exact (h.holding S hS).senderExit h.registry (hstp S hS)
  | call call =>
    have hd := hstp S hS
    simp only [GameServer.disturbs, Bool.or_eq_false_iff, Bool.not_eq_false'] at hd
    refine (h.holding S hS).frame rfl id fun hp => hp.call H hd.1 fun now hnow => ?_
    have hswept : call.sweptAt = some now := hnow
    simpa [hswept] using hd.2

theorem holds_exec (H : Host) (sid : ServerID) (c : String) {steps : List RelayStep}
    (h : Along (step H c) (Undisturbed c) (new sid) steps) :
    Holds c (exec (step H c) (new sid) steps) :=
  exec_invariant (Holds c) (fun _ _ ht hstp => holds_step H ht hstp)
    ⟨by intro id ref hget; simp [new, GameServer.new] at hget, by intro S hS; simp [new] at hS⟩ h

/-- If nothing disturbs the stream that holds the client, then between its
packets the registry leads to its open queue, and the entity exists once the
queued commands have been applied. -/
theorem holder_keeps_client (H : Host) (sid : ServerID) (c : String) (steps : List RelayStep)
    (h : Along (step H c) (Undisturbed c) (new sid) steps) :
    let t := exec (step H c) (new sid) steps
    ∀ S, t.holder = some S → (t.server.streams S).receiving →
      (∃ ref, t.server.clients.get c = some ref ∧ (t.server.entries.cell ref).stream = S ∧
        (t.server.entries.cell ref).id = c ∧ (t.server.entries.cell ref).done = false) ∧
      ((Game.applyCmd^[t.server.game.cmds.buffered.length] t.server.game).entities.get c).isSome := by
  intro t S hS hrecv
  obtain ⟨hreg, hpres⟩ := ((holds_exec H sid c h).holding S hS).of_receiving hrecv
  exact ⟨hreg, Game.isSome_applyCmd_iterate hpres⟩

/-- A client connects on stream 0 and again on stream 1. -/
def reconnectSteps : List RelayStep :=
  [.recv 0 ⟨"c1", .connect, "s1", []⟩, .act 0 0, .act 0 0, .act 0 0, .call (.beginTick 0),
    .call .applyCmd, .recv 1 ⟨"c1", .connect, "s1", []⟩, .act 1 0, .act 1 0, .act 1 0]

theorem holder_keeps_client_reconnect :
    let t := exec (step (Host.steady .zero) "c1") (new "gs") reconnectSteps
    (∃ ref, t.server.clients.get "c1" = some ref ∧ (t.server.entries.cell ref).stream = 1 ∧
      (t.server.entries.cell ref).id = "c1" ∧ (t.server.entries.cell ref).done = false) ∧
      ((Game.applyCmd^[t.server.game.cmds.buffered.length] t.server.game).entities.get
        "c1").isSome :=
  holder_keeps_client (Host.steady .zero) "gs" "c1" reconnectSteps (by decide +kernel) 1
    (by decide +kernel) (by decide +kernel)

/-- The old stream ends: its cleanup closes the queue of the new stream and
removes its entity, while the new stream is open and waits for packets. -/
theorem old_stream_unregisters_new :
    let t := exec (step (Host.steady .zero) "c1") (new "gs")
      (reconnectSteps ++ [.endStream 0, .act 0 0, .act 0 0])
    t.holder = some 1 ∧ (t.server.streams 1).receiving ∧ t.server.clients.get "c1" = none ∧
      (Game.applyCmd^[t.server.game.cmds.buffered.length] t.server.game).entities.get "c1" =
        none := by
  decide +kernel

end Handover

end SpatialServer

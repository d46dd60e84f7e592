import SpatialServer.Sweeping

/-!
# Heartbeats during a sweep

A sweep lists the servers whose heartbeats are overdue and acts on the list
afterwards, one statement at a time. Whether a server on the list has been heard
of meanwhile is not looked at again. The watch below runs the calls and keeps
beside them the time of the last statement and, for each sweep in progress,
whom it suspects.
-/
namespace SpatialServer

open Runs Statements Statements.Prog ServerRepository RoomServiceServer ProductionSweeper

/-- The server against which a sweep acts by the statement. -/
def Stmt.hits : Stmt → Option ServerID
  | .markShutdown s | .releaseZone _ s => some s
  | _ => none

def Stmt.listsDead : Stmt → Bool
  | .deadServers _ => true
  | _ => false

structure Watch where
  room : Room
  clock : Time
  /-- Whom each sweep in progress has found overdue. -/
  suspects : Dict ℕ (List ServerID)

namespace Watch

def start (db : Database) (calls : ℕ → RoomCall) (now : Time) : Watch :=
  ⟨.start db calls, now, ∅⟩

/-- The suspects once the statement of a call has been answered. -/
def listed (w : Watch) (ev : ℕ × Choice) : Dict ℕ (List ServerID) :=
  match (w.room.threads ev.1).next with
  | some (.deadServers secs) =>
    match (w.room.store.exec ev.2 (.deadServers secs)).1 with
    | .ok dead => w.suspects.set ev.1 dead
    | .error _ => w.suspects
  | _ => w.suspects

/-- A sweep that has returned suspects nobody any more. -/
def step (w : Watch) (ev : ℕ × Choice) : Watch where
  room := w.room.step ev
  clock := ev.2.now
  suspects := if ((w.room.step ev).answer ev.1).isSome then (w.listed ev).del ev.1 else w.listed ev

/-- Time does not go back. -/
def Ticks (w : Watch) (ev : ℕ × Choice) : Prop := w.clock ≤ ev.2.now

instance (w : Watch) (ev : ℕ × Choice) : Decidable (w.Ticks ev) :=
  inferInstanceAs (Decidable (w.clock ≤ ev.2.now))

/-- Some sweep in progress has found the server overdue. -/
def suspected (w : Watch) (d : ServerID) : Bool :=
  (w.suspects.range []).any fun i => decide (d ∈ (w.suspects.get i).getD [])

/-- A heartbeat does not come from a server that a sweep in progress suspects. -/
def Timely (w : Watch) (ev : ℕ × Choice) : Prop :=
  match (w.room.threads ev.1).next with
  | some (.heartbeat d) => w.suspected d = false
  | _ => True

instance (w : Watch) (ev : ℕ × Choice) : Decidable (w.Timely ev) := by
  unfold Timely; split <;> infer_instance

theorem mem_suspected {w : Watch} {i : ℕ} {dead : List ServerID} {d : ServerID}
    (hget : w.suspects.get i = some dead) (hd : d ∈ dead) : w.suspected d = true := by
  refine List.any_eq_true.mpr ⟨i, (Dict.mem_range_iff_exists _ _ _).mpr ⟨dead, hget⟩, ?_⟩
  simpa [hget] using hd

end Watch

/-- The last heartbeat of the server is older than the threshold. -/
def Database.Overdue (db : Database) (now : Time) (threshold : Duration) (d : ServerID) : Prop :=
  ∀ row ∈ db.servers.get d, row.lastHeartbeat < now - threshold

instance (db : Database) (now : Time) (threshold : Duration) (d : ServerID) :
    Decidable (db.Overdue now threshold d) := by unfold Database.Overdue; infer_instance

/-- When a sweep marks a server or releases a zone from it, the server is overdue. -/
def ActsOnOverdue (calls : ℕ → RoomCall) (w : Watch) (ev : ℕ × Choice) : Prop :=
  match calls ev.1, (w.room.threads ev.1).next.bind Stmt.hits with
  | .sweep cfg, some d =>
    w.room.store.Overdue ev.2.now (ProductionSweeper.new cfg).missThreshold d
  | _, _ => True

instance (calls : ℕ → RoomCall) (w : Watch) (ev : ℕ × Choice) :
    Decidable (ActsOnOverdue calls w ev) := by
  unfold ActsOnOverdue; split <;> infer_instance

/-- The threshold loses nothing when it is cut to whole seconds. -/
def WholeSeconds (threshold : Duration) : Prop := threshold ≤ threshold.tdiv second * second

instance (threshold : Duration) : Decidable (WholeSeconds threshold) :=
  inferInstanceAs (Decidable (threshold ≤ _))

/-- Only a heartbeat of the server changes its last heartbeat, and no statement
deletes its row. -/
theorem lastHeartbeat_exec {db : Database} {op : Stmt} {d : ServerID} {row : ServerRow}
    (c : Choice) (hop : op ≠ .heartbeat d) (hrow : db.servers.get d = some row) :
    ∃ row', (db.exec c op).2.servers.get d = some row' ∧
      row'.lastHeartbeat = row.lastHeartbeat := by
  obtain hsame | ⟨id, new, hset, hchange⟩ := db.exec_servers c op
  · exact ⟨row, by rw [hsame, hrow], rfl⟩
  · rw [hset, Database.servers_setServer, Dict.get_set]
    split_ifs with hid
    · subst hid
      exact ⟨new, rfl, (hchange.heartbeat row hrow).resolve_right hop⟩
    · exact ⟨row, hrow, rfl⟩

/-! ## What calls may issue -/

/-- The statement lists no dead servers and hits nobody but the given servers. -/
def Confined (dead : List ServerID) (op : Stmt) : Prop :=
  op.listsDead = false ∧ ∀ d ∈ op.hits, d ∈ dead

theorem only_claim (dead : List ServerID) (z : String) (r : RuntimeID) (s : ServerID) :
    (ZoneRepository.claim z r s).Only (Confined dead) := by
  refine ⟨⟨rfl, by simp [Stmt.hits]⟩, fun reply => ?_⟩
  rcases reply with err | (_ | n)
  · trivial
  · exact ⟨⟨rfl, by simp [Stmt.hits]⟩, fun _ => trivial⟩
  · trivial

theorem only_release {dead : List ServerID} {s : ServerID} (hs : s ∈ dead) (z : String) :
    (ZoneRepository.release z s).Only (Confined dead) := by
  refine ⟨⟨rfl, by simpa [Stmt.hits] using hs⟩, fun reply => ?_⟩
  rcases reply with err | (_ | n)
  · trivial
  · exact ⟨⟨rfl, by simp [Stmt.hits]⟩, fun _ => trivial⟩
  · trivial

theorem only_list (dead : List ServerID) : ServerRepository.list.Only (Confined dead) := by
  refine ⟨⟨rfl, by simp [Stmt.hits]⟩, fun reply => ?_⟩
  cases reply <;> trivial

theorem only_reassignZone {dead : List ServerID} {d : ServerID} (hd : d ∈ dead) (z : String) :
    (reassignZone d z).Only (Confined dead) := by
  refine (only_release hd z).bind fun released => ?_
  cases released with
  | error err => trivial
  | ok u =>
    refine (only_list dead).bind fun nodes => ?_
    cases nodes with
    | error err => trivial
    | ok nodes =>
      dsimp only
      split_ifs
      · trivial
      · split
        · trivial
        · refine (only_claim dead z "" _).bind fun claimed => ?_
          cases claimed <;> trivial

/-- A sweep acts on the servers of its list only. -/
theorem only_sweepServers {dead ds : List ServerID} (hds : ∀ d ∈ ds, d ∈ dead) :
    (collect sweepServer ds).Only (Confined dead) := by
  refine Only.collect fun d hd => ?_
  rw [sweepServer_eq]
  refine ⟨⟨rfl, by simpa [Stmt.hits] using hds d hd⟩, fun reply => ?_⟩
  cases reply with
  | error err => trivial
  | ok n =>
    dsimp only
    rw [reassignZonesFor_eq]
    refine ⟨⟨rfl, by simp [Stmt.hits]⟩, fun reply => ?_⟩
    cases reply with
    | error err => trivial
    | ok zs => exact Only.collect fun z _ => only_reassignZone (hds d hd) z

theorem only_allocate (z : String) : (allocate z).Only (Confined []) := by
  refine (only_list []).bind fun nodes => ?_
  cases nodes with
  | error err => trivial
  | ok nodes =>
    dsimp only
    split_ifs
    · trivial
    · split
      · trivial
      · refine (only_claim [] z "" _).bind fun claimed => ?_
        cases claimed <;> trivial

theorem only_lookupZone (z : String) : (lookupZone z).Only (Confined []) := by
  refine ⟨⟨rfl, by simp [Stmt.hits]⟩, fun reply => ?_⟩
  simp only [pure_eq, bind_done]
  generalize ZoneRepository.lookupReply z reply = found
  cases found with
  | error err => exact only_allocate z
  | ok o =>
    refine ⟨⟨rfl, by simp [Stmt.hits]⟩, fun reply => ?_⟩
    rcases reply with (_ | _) | row
    · exact only_allocate z
    · exact only_allocate z
    · trivial

/-- Only a sweep lists dead servers. -/
theorem only_call {call : RoomCall} (hcall : ∀ cfg, call ≠ .sweep cfg) :
    call.prog.Only fun op => op.listsDead = false := by
  have hconfined : ∀ {dead : List ServerID} {p : Tx Answer}, p.Only (Confined dead) →
      p.Only fun op => op.listsDead = false := fun h => h.mono fun _ hop => hop.1
  cases call with
  | claim z r s => exact hconfined ((only_claim [] z r s).bind fun _ => trivial)
  | release z s =>
    exact hconfined ((only_release (List.mem_singleton_self s) z).bind fun _ => trivial)
  | lookup z => exact ⟨rfl, fun _ => trivial⟩
  | register info =>
    refine ⟨rfl, fun reply => ?_⟩
    cases reply <;> trivial
  | heartbeat id load =>
    refine ⟨rfl, fun reply => ?_⟩
    rcases reply with err | (_ | n) <;> trivial
  | lookupZone z => exact hconfined ((only_lookupZone z).bind fun _ => trivial)
  | sweep cfg => exact absurd rfl (hcall cfg)

theorem prog_sweep_eq (cfg : SweeperConfig) :
    (RoomCall.sweep cfg).prog =
      .step (.deadServers ((ProductionSweeper.new cfg).missThreshold.tdiv second)) fun
        | .error _ => .done (.swept [])
        | .ok dead => collect sweepServer dead >>= fun changes => .done (.swept changes) := by
  refine congrArg (Prog.step _) (funext fun reply => ?_)
  cases reply <;> rfl

/-! ## The invariant of the watch -/

/-- The last heartbeat of the server was overdue by whole seconds. -/
def Aged (db : Database) (now : Time) (cfg : SweeperConfig) (d : ServerID) : Prop :=
  ∃ row, db.servers.get d = some row ∧ row.lastHeartbeat <
    now - (ProductionSweeper.new cfg).missThreshold.tdiv second * second

theorem Aged.later {db : Database} {clock now : Time} {cfg : SweeperConfig} {d : ServerID}
    (h : Aged db clock cfg d) (hnow : clock ≤ now) : Aged db now cfg d := by
  obtain ⟨row, hrow, hlt⟩ := h
  exact ⟨row, hrow, hlt.trans_le (sub_le_sub_right hnow _)⟩

theorem Aged.exec {db : Database} {now : Time} {cfg : SweeperConfig} {d : ServerID}
    (h : Aged db now cfg d) (c : Choice) {op : Stmt} (hop : op ≠ .heartbeat d) :
    Aged (db.exec c op).2 now cfg d := by
  obtain ⟨row, hrow, hlt⟩ := h
  obtain ⟨row', hrow', hsame⟩ := lastHeartbeat_exec c hop hrow
  exact ⟨row', hrow', hsame ▸ hlt⟩

/-- What a call may still issue once its sweep, if it is one, has its list. -/
def Issues (calls : ℕ → RoomCall) (w : Watch) (i : ℕ) (op : Stmt) : Prop :=
  op.listsDead = false ∧
    ∀ cfg, calls i = .sweep cfg → ∀ d ∈ op.hits, d ∈ (w.suspects.get i).getD []

/-- Every sweep is at its start or acts on its suspects, who are overdue. -/
structure Watched (calls : ℕ → RoomCall) (w : Watch) : Prop where
  threads : ∀ i, (∃ cfg, calls i = .sweep cfg ∧ w.room.threads i = (calls i).prog) ∨
    (w.room.threads i).Only (Issues calls w i)
  aged : ∀ i dead, w.suspects.get i = some dead →
    ∃ cfg, calls i = .sweep cfg ∧ ∀ d ∈ dead, Aged w.room.store w.clock cfg d

section Step

variable {calls : ℕ → RoomCall} {w : Watch} {ev : ℕ × Choice}

theorem watched_start (db : Database) (calls : ℕ → RoomCall) (now : Time) :
    Watched calls (.start db calls now) := by
  refine ⟨fun i => ?_, fun i dead h => by simp [Watch.start] at h⟩
  by_cases hsweep : ∃ cfg, calls i = .sweep cfg
  · obtain ⟨cfg, hcfg⟩ := hsweep
    exact .inl ⟨cfg, hcfg, rfl⟩
  · refine .inr ((only_call fun cfg h => hsweep ⟨cfg, h⟩).mono fun op hop => ⟨hop, ?_⟩)
    exact fun cfg h => absurd ⟨cfg, h⟩ hsweep

theorem suspects_step_ne {j : ℕ} (hj : j ≠ ev.1) :
    (w.step ev).suspects.get j = w.suspects.get j := by
  have hlisted : (w.listed ev).get j = w.suspects.get j := by
    unfold Watch.listed
    split
    · split
      · exact Dict.get_set_ne _ _ hj
      · rfl
    · rfl
  unfold Watch.step
  dsimp only
  split_ifs
  · rw [Dict.get_del_ne _ hj, hlisted]
  · exact hlisted

/-- Whoever is suspected stays overdue, since no heartbeat of theirs comes in. -/
theorem aged_step (h : Watched calls w) (htick : w.Ticks ev) (htimely : w.Timely ev) {i : ℕ}
    {dead : List ServerID} (hget : w.suspects.get i = some dead) :
    ∃ cfg, calls i = .sweep cfg ∧
      ∀ d ∈ dead, Aged (w.step ev).room.store (w.step ev).clock cfg d := by
  obtain ⟨cfg, hcfg, haged⟩ := h.aged i dead hget
  refine ⟨cfg, hcfg, fun d hd => ?_⟩
  have hlater : Aged w.room.store ev.2.now cfg d := (haged d hd).later htick
  change Aged (Room.step w.room ev).store ev.2.now cfg d
  cases hthread : w.room.threads ev.1 with
  | done a => rwa [Room.step, Pool.step_of_done hthread]
  | step op k =>
    rw [Room.step, Pool.step_of_step hthread]
    refine hlater.exec ev.2 ?_
    rintro rfl
    have hnot : w.suspected d = false := by
      simpa [Watch.Timely, hthread, Prog.next] using htimely
    rw [Watch.mem_suspected hget hd] at hnot
    cases hnot

/-- A call that lists no dead servers leaves its suspects as they are. -/
theorem listed_of_next {op : Stmt} {k : op.Reply → Tx Answer}
    (hthread : w.room.threads ev.1 = .step op k) (hop : op.listsDead = false) :
    w.listed ev = w.suspects := by
  unfold Watch.listed
  rw [hthread]
  cases op <;> first | rfl | cases hop

theorem suspects_step_of_running (hrunning : (w.step ev).room.answer ev.1 = none) :
    (w.step ev).suspects = w.listed ev := by
  change (w.room.step ev).answer ev.1 = none at hrunning
  simp [Watch.step, hrunning]

/-- A call that has returned is not in progress any more. -/
theorem suspects_step_of_answer (hdone : (w.step ev).room.answer ev.1 ≠ none) :
    (w.step ev).suspects.get ev.1 = none := by
  change (w.room.step ev).answer ev.1 ≠ none at hdone
  simp [Watch.step, Option.isSome_iff_ne_none.mpr hdone]

/-- The first statement of a sweep gives it its list. -/
theorem fresh_step {cfg : SweeperConfig} (hcfg : calls ev.1 = .sweep cfg)
    (hthread : w.room.threads ev.1 = (calls ev.1).prog)
    (hrunning : (w.step ev).room.answer ev.1 = none) :
    ∃ dead, (w.step ev).suspects.get ev.1 = some dead ∧
      (∀ d ∈ dead, Aged (w.step ev).room.store (w.step ev).clock cfg d) ∧
      ((w.step ev).room.threads ev.1).Only (Confined dead) := by
  rw [hcfg, prog_sweep_eq] at hthread
  have hroom : Pool.step Database.exec w.room ev = _ := Pool.step_of_step hthread
  have hnext : ((w.step ev).room.threads ev.1) = match (w.room.store.exec ev.2 (.deadServers
      ((ProductionSweeper.new cfg).missThreshold.tdiv second))).1 with
      | .error _ => .done (.swept [])
      | .ok dead => collect sweepServer dead >>= fun changes => .done (.swept changes) := by
    change (Pool.step Database.exec w.room ev).threads ev.1 = _
    rw [hroom]
    simp
  rw [suspects_step_of_running hrunning]
  rcases hreply : (w.room.store.exec ev.2 (.deadServers
      ((ProductionSweeper.new cfg).missThreshold.tdiv second))).1 with err | dead
  · rw [Room.answer, hnext, hreply] at hrunning
    cases hrunning
  · refine ⟨dead, ?_, fun d hd => ?_, ?_⟩
    · simp [Watch.listed, hthread, Prog.next, hreply]
    · have hmem := Choice.mem_of_readRows hreply hd
      obtain ⟨row, hrow, -, hlt⟩ := Database.mem_deadServers.mp hmem
      refine ⟨row, ?_, hlt⟩
      change (Pool.step Database.exec w.room ev).store.servers.get d = some row
      rw [hroom]
      exact hrow
    · rw [hnext, hreply]
      exact (only_sweepServers fun _ hd => hd).bind fun _ => trivial

/-- The call that is scheduled. -/
theorem Watched.own_step (h : Watched calls w) (htick : w.Ticks ev) (htimely : w.Timely ev) :
    ((w.step ev).room.threads ev.1).Only (Issues calls (w.step ev) ev.1) ∧
      ∀ dead, (w.step ev).suspects.get ev.1 = some dead → ∃ cfg, calls ev.1 = .sweep cfg ∧
        ∀ d ∈ dead, Aged (w.step ev).room.store (w.step ev).clock cfg d := by
  cases hanswer : (w.step ev).room.answer ev.1 with
  | some a =>
    have hdone : (w.step ev).room.threads ev.1 = .done a := Prog.result_eq_some.mp hanswer
    refine ⟨by rw [hdone]; trivial, fun dead hget => ?_⟩
    rw [suspects_step_of_answer (by simp [hanswer])] at hget
    cases hget
  | none =>
    obtain ⟨cfg, hcfg, hthread⟩ | honly := h.threads ev.1
    · obtain ⟨dead, hget, haged, hconfined⟩ := fresh_step hcfg hthread hanswer
      constructor
      · refine hconfined.mono fun op hop => ⟨hop.1, fun _ _ d hd => ?_⟩
        rw [hget]
        exact hop.2 d hd
      · intro dead' hget'
        obtain rfl := Option.some.inj (hget.symm.trans hget')
        exact ⟨cfg, hcfg, haged⟩
    · cases hthread : w.room.threads ev.1 with
      | done a =>
        have hsame : (w.step ev).room = w.room := Pool.step_of_done hthread
        rw [hsame, Room.answer, hthread] at hanswer
        cases hanswer
      | step op k =>
        rw [hthread] at honly
        have hsuspects : (w.step ev).suspects = w.suspects :=
          (suspects_step_of_running hanswer).trans (listed_of_next hthread honly.1.1)
        have hnext : (w.step ev).room.threads ev.1 = k (w.room.store.exec ev.2 op).1 := by
          change (Pool.step Database.exec w.room ev).threads ev.1 = _
          rw [Pool.step_of_step hthread]
          simp
        refine ⟨?_, fun dead hget => ?_⟩
        · rw [hnext]
          refine (honly.2 _).mono fun op' hop' => ?_
          rw [Issues, hsuspects]
          exact hop'
        · rw [hsuspects] at hget
          exact aged_step h htick htimely hget

theorem Watched.step (h : Watched calls w) (htick : w.Ticks ev) (htimely : w.Timely ev) :
    Watched calls (w.step ev) := by
  obtain ⟨hown, haged⟩ := h.own_step htick htimely
  refine ⟨fun j => ?_, fun j dead hget => ?_⟩
  · by_cases hj : j = ev.1
    · exact .inr (hj ▸ hown)
    · have hthread : (w.step ev).room.threads j = w.room.threads j :=
        Pool.threads_step_ne w.room ev hj
      rw [hthread]
      refine (h.threads j).imp_right fun honly => honly.mono fun op hop => ?_
      rw [Issues, suspects_step_ne hj]
      exact hop
  · by_cases hj : j = ev.1
    · subst hj
      exact haged dead hget
    · rw [suspects_step_ne hj] at hget
      exact aged_step h htick htimely hget

end Step

/-- A sweep that is still to act on a server finds it as overdue as when it was
listed. -/
theorem Watched.actsOnOverdue {calls : ℕ → RoomCall} {w : Watch} {ev : ℕ × Choice}
    (h : Watched calls w) (htick : w.Ticks ev)
    (hwhole : ∀ i cfg, calls i = .sweep cfg →
      WholeSeconds (ProductionSweeper.new cfg).missThreshold) : ActsOnOverdue calls w ev := by
  unfold ActsOnOverdue
  split
  · next cfg d hcfg hhits =>
    intro row hrow
    obtain ⟨op, hop, hd⟩ := Option.bind_eq_some_iff.mp hhits
    obtain ⟨cfg', hcfg', hthread⟩ | honly := h.threads ev.1
    · -- the first statement of a sweep hits nobody
      rw [hthread, hcfg', prog_sweep_eq] at hop
      cases hop
      cases hd
    · cases hthread : w.room.threads ev.1 with
      | done a =>
        rw [hthread] at hop
        cases hop
      | step op' k =>
        rw [hthread] at honly hop
        cases hop
        have hmem := honly.1.2 cfg hcfg d hd
        rcases hget : w.suspects.get ev.1 with _ | dead
        · simp [hget] at hmem
        · obtain ⟨cfg', hcfg', haged⟩ := h.aged ev.1 dead hget
          rw [hcfg] at hcfg'
          cases hcfg'
          obtain ⟨row', hrow', hlt⟩ := haged d (by simpa [hget] using hmem)
          obtain rfl := Option.some.inj (hrow'.symm.trans hrow)
          have hsecs := hwhole ev.1 cfg hcfg
          calc row'.lastHeartbeat < w.clock - _ := hlt
            _ ≤ ev.2.now - _ := sub_le_sub_right htick _
            _ ≤ _ := sub_le_sub_left hsecs _
  · trivial

/-- With a threshold of whole seconds, and no heartbeat from a server that a sweep
in progress suspects, sweeps act on overdue servers only, in every interleaving. -/
theorem sweeps_hit_overdue (db₀ : Database) (calls : ℕ → RoomCall) (now₀ : Time)
    (hwhole : ∀ i cfg, calls i = .sweep cfg → WholeSeconds (ProductionSweeper.new cfg).missThreshold)
    (evs : List (ℕ × Choice))
    (h : Along Watch.step (fun w ev => w.Ticks ev ∧ w.Timely ev) (.start db₀ calls now₀) evs) :
    Along Watch.step (ActsOnOverdue calls) (.start db₀ calls now₀) evs :=
  h.of_invariant (Watched calls)
    (fun _ _ hw hev => ⟨hw.actsOnOverdue hev.1 hwhole, hw.step hev.1 hev.2⟩)
    (watched_start db₀ calls now₀)

/-- The other server is heard of during the sweep. -/
theorem sweeps_hit_overdue_apart :
    let db₀ := Database.pair ⟨"h", 1, .active, 10, 0⟩ ⟨"h", 2, .active, 10, 15 * second⟩
      ⟨.active, some "a"⟩ (by simp)
    let calls : ℕ → RoomCall := fun i =>
      if i = 0 then .sweep ⟨5 * second, 15 * second⟩ else .heartbeat "b" .zero
    let c := Choice.clean [] (20 * second)
    Along Watch.step (ActsOnOverdue calls) (.start db₀ calls 0)
      [(0, c), (1, c), (0, c), (0, c), (0, c)] := by
  intro db₀ calls c
  refine sweeps_hit_overdue db₀ calls 0 (fun i cfg h => ?_) _ (by decide +kernel)
  simp only [calls] at h
  split_ifs at h
  cases h
  decide

/-- The heartbeat of the server comes between the listing and the mark. It is marked
all the same, and its zone is released. -/
theorem live_server_marked :
    let db₀ := Database.pair ⟨"h", 1, .active, 10, 0⟩ ⟨"h", 2, .active, 10, 15 * second⟩
      ⟨.active, some "a"⟩ (by simp)
    let calls : ℕ → RoomCall := fun i =>
      if i = 0 then .sweep ⟨5 * second, 15 * second⟩ else .heartbeat "a" .zero
    let c := Choice.clean [] (20 * second)
    let evs := [(0, c), (1, c), (0, c), (0, c), (0, c)]
    Along Watch.step Watch.Ticks (.start db₀ calls 0) evs ∧
      ¬Along Watch.step (ActsOnOverdue calls) (.start db₀ calls 0) evs ∧
      ((exec Watch.step (.start db₀ calls 0) evs).room.store.servers.get "a").map
        (fun row => (row.status, row.lastHeartbeat)) = some (.shutdown, 20 * second) ∧
      (exec Watch.step (.start db₀ calls 0) evs).room.store.owner "z" = none := by
  decide +kernel

end SpatialServer

import SpatialServer.Assigning
import SpatialServer.Registry

/-!
# Where orphans go

Both sweepers find all overdue servers first and mark them one at a time, so
that an overdue server that is still to be marked is a candidate like any other
for the zones of those before it. Such a server is chosen unless, in the list
the allocator is shown, a server that is not overdue outranks it.
-/
namespace SpatialServer

open Runs Statements Statements.Prog ServerRepository ProductionSweeper

/-! ## The sweeper over the tables -/

/-- No zone is claimed for a server of the list. -/
def ClaimsAvoid (dead : List ServerID) (_ : Database) (op : Stmt) (_ : Choice) : Prop :=
  ∀ z s, op = .claimZone z s → s ∉ dead

/-- Whenever active servers are read, those of the list are outranked. -/
def ListsOutrank (dead : List ServerID) (db : Database) (op : Stmt) (c : Choice) : Prop :=
  op = .activeServers → ∀ rows, c.readRows (db.activeServers c.order) = .ok rows →
    Outranked dead (rows.map scanServer)

theorem claimsAvoid_onAssigning (dead : List ServerID) : OnAssigning (ClaimsAvoid dead) := by
  rintro db op c hop z s rfl
  cases hop

theorem listsOutrank_onAssigning (dead : List ServerID) : OnAssigning (ListsOutrank dead) := by
  rintro db op c hop rfl
  cases hop

/-- Rows carry no load, so only the first one counts. -/
theorem outranked_scanned_iff (dead : List ServerID) (rows : List (ServerID × ServerRow)) :
    Outranked dead (rows.map scanServer) ↔ ∀ row rest, rows = row :: rest → row.1 ∉ dead := by
  rw [outranked_iff]
  cases rows with
  | nil =>
    refine iff_of_true (fun t ht => ?_) (fun _ _ h => by cases h)
    cases ht
  | cons row rows =>
    rw [select_scanned_cons]
    constructor
    · intro h row' rest heq
      cases heq
      exact h _ rfl
    · intro h t ht
      cases ht
      exact h row rows rfl

theorem allowed_assign_avoids {α : Type} (dead : List ServerID) (z : String) (unserved : α)
    (refused : StoreError → α) (assigned : NodeDescriptor → α) (db : Database) (cs : ℕ → Choice) :
    Allowed Database.exec (ClaimsAvoid dead) (assign z unserved refused assigned) db cs ↔
      Allowed Database.exec (ListsOutrank dead) (assign z unserved refused assigned) db cs := by
  rw [allowed_assign (claimsAvoid_onAssigning dead), allowed_assign (listsOutrank_onAssigning dead)]
  constructor
  · rintro ⟨-, hclaim⟩
    refine ⟨fun _ rows hread => ?_, fun _ _ _ heq => by cases heq⟩
    rw [outranked_scanned_iff]
    rintro row rest rfl
    exact hclaim row rest hread z row.1 rfl
  · rintro ⟨hlist, -⟩
    refine ⟨fun _ _ heq => (by cases heq), ?_⟩
    rintro row rest hread _ _ ⟨⟩
    exact (outranked_scanned_iff dead _).mp (hlist rfl _ hread) row rest rfl

/-- What is broadcast was claimed. -/
theorem mem_run_reassignZone {dead : List ServerID} {d : ServerID} {z : String} {db : Database}
    {cs : ℕ → Choice} (h : Allowed Database.exec (ClaimsAvoid dead) (reassignZone d z) db cs) :
    ∀ change ∈ (run Database.exec (reassignZone d z) db cs).1, change.serverID ∉ dead := by
  rw [reassignZone_eq_assign, allowed_bind] at h
  rw [reassignZone_eq_assign, run_bind]
  replace h := h.2
  generalize leftover Database.exec (ZoneRepository.release z d) db cs = cs' at h ⊢
  generalize (run Database.exec (ZoneRepository.release z d) db cs).2 = db' at h ⊢
  generalize (run Database.exec (ZoneRepository.release z d) db cs).1 = released at h ⊢
  rcases released with err | u
  · simp [run]
  · rw [allowed_assign (claimsAvoid_onAssigning dead)] at h
    dsimp only
    rw [assign_eq, run]
    rcases hreply : (db'.exec (cs' 0) .activeServers).1 with err | (_ | ⟨row, rows⟩)
    · simp [run]
    · simp [run]
    · have halive : row.1 ∉ dead := h.2 row rows hreply z row.1 rfl
      dsimp only
      rw [run_bind]
      rcases (run Database.exec (ZoneRepository.claim z "" row.1) (db'.exec (cs' 0) .activeServers).2
        fun n => cs' (n + 1)).1 with err | u
      · simp [run]
      · simpa [run, scanServer] using halive

theorem mem_run_sweepServer {dead : List ServerID} (d : ServerID) (db : Database)
    (cs : ℕ → Choice) (h : Allowed Database.exec (ClaimsAvoid dead) (sweepServer d) db cs) :
    ∀ change ∈ (run Database.exec (sweepServer d) db cs).1, change.serverID ∉ dead := by
  rw [sweepServer_eq] at h ⊢
  replace h := h.2
  rw [run]
  generalize (db.exec (cs 0) (.markShutdown d)).2 = db₁ at h ⊢
  generalize (db.exec (cs 0) (.markShutdown d)).1 = marked at h ⊢
  rcases marked with err | n
  · simp [run]
  · dsimp only at h ⊢
    rw [reassignZonesFor_eq] at h ⊢
    replace h := h.2
    rw [run]
    generalize (db₁.exec (cs 1) (.zonesOf d)).1 = listed at h ⊢
    rcases listed with err | zs
    · simp [run]
    · exact forall_mem_run_collect (fun _ _ _ => mem_run_reassignZone) h

/-- The sweep gives no zone to a server it found overdue if and only if those
servers are outranked in every list it chooses from. -/
theorem sweep_avoids_iff {cfg : SweeperConfig} {db : Database} {cs : ℕ → Choice}
    {dead : List ServerID}
    (hdead : (db.exec (cs 0) (.deadServers (cfg.missThreshold.tdiv second))).1 = .ok dead) :
    (Allowed Database.exec (ClaimsAvoid dead) (sweep cfg) db cs ∧
      ∀ change ∈ (run Database.exec (sweep cfg) db cs).1, change.serverID ∉ dead) ↔
    Allowed Database.exec (ListsOutrank dead) (sweep cfg) db cs := by
  have hany : Allowed Database.exec (fun _ _ _ => True) (sweep cfg) db cs :=
    allowed_of_forall fun _ _ _ => trivial
  have hiff := allowed_sweep_congr (claimsAvoid_onAssigning dead) (listsOutrank_onAssigning dead)
    (fun z unserved refused assigned db cs _ _ _ =>
      allowed_assign_avoids dead z unserved refused assigned db cs) cfg db cs hany
  rw [← hiff, and_iff_left_iff_imp]
  intro h
  rw [sweep_eq] at h ⊢
  replace h := h.2
  rw [run]
  rw [hdead] at h ⊢
  exact forall_mem_run_collect (fun d db cs => mem_run_sweepServer d db cs) h

/-! ## The sweeper over the maps -/

namespace Sweeper

variable {dead : List ServerID} (f : ReassignFunc)

/-- Nothing was passed on with a server of the list. -/
def Avoids (dead : List ServerID) (st : SweepState) : Prop := ∀ p ∈ st.passed, p.2 ∉ dead

theorem avoids_reassignOrphan_iff (order : String → List ServerID) (st : SweepState) (z : String) :
    Avoids dead (reassignOrphan (some f) order st z) ↔
      Avoids dead st ∧ Outranked dead (st.dir.list (order z)) := by
  rw [outranked_iff]
  unfold reassignOrphan Directory.leastLoaded
  rcases hselect : LeastLoadedAllocator.select ((st.dir.list (order z)).map some) with err | t
  · simp
  · simp only [Avoids, List.forall_mem_append, List.forall_mem_singleton, Except.ok.injEq, forall_eq']

/-- The list is outranked whenever a target is chosen for a zone of the node. -/
def NodeOutranks (dead : List ServerID) (reassign : Option ReassignFunc) (inp : SweepInput)
    (st : SweepState) (id : ServerID) : Prop :=
  let marked : SweepState := { st with dir := st.dir.markShutdown id }
  Along (reassignOrphan reassign (inp.listOrder id))
    (fun st z => Outranked dead (st.dir.list (inp.listOrder id z)))
    (disown (inp.zoneOrder id) marked id) (orphaned (inp.zoneOrder id) marked.dir id)

theorem avoids_sweepNode_iff (inp : SweepInput) (st : SweepState) (id : ServerID) :
    Avoids dead (sweepNode (some f) inp st id) ↔
      Avoids dead st ∧ NodeOutranks dead (some f) inp st id :=
  exec_iff_along (fun st z => avoids_reassignOrphan_iff f (inp.listOrder id) st z) _ _

theorem avoids_sweep_iff (cfg : SweeperConfig) (inp : SweepInput) (d : Directory) :
    Avoids dead (sweep cfg (some f) inp d) ↔
      Along (sweepNode (some f) inp) (NodeOutranks dead (some f) inp) ⟨d, []⟩
        (overdue cfg inp d) := by
  have hnone : Avoids dead ⟨d, []⟩ := by simp [Avoids]
  rw [sweep, exec_iff_along (fun st id => avoids_sweepNode_iff f inp st id), and_iff_right hnone]

end Sweeper

/-- Neither sweeper gives an orphan to a server that it found overdue itself, if and
only if these servers are outranked in every list that a target is chosen from. -/
theorem orphans_avoid_overdue_iff (cfg : SweeperConfig) (db : Database) (cs : ℕ → Choice)
    (dead : List ServerID)
    (hdead : (db.exec (cs 0) (.deadServers (cfg.missThreshold.tdiv second))).1 = .ok dead)
    (reassign : ReassignFunc) (inp : SweepInput) (d : Directory) :
    ((Allowed Database.exec (ClaimsAvoid dead) (sweep cfg) db cs ∧
        ∀ change ∈ (run Database.exec (sweep cfg) db cs).1, change.serverID ∉ dead) ↔
      Allowed Database.exec (ListsOutrank dead) (sweep cfg) db cs) ∧
    ((∀ p ∈ (Sweeper.sweep cfg (some reassign) inp d).passed,
        p.2 ∉ Sweeper.overdue cfg inp d) ↔
      Along (Sweeper.sweepNode (some reassign) inp)
        (Sweeper.NodeOutranks (Sweeper.overdue cfg inp d) (some reassign) inp) ⟨d, []⟩
        (Sweeper.overdue cfg inp d)) :=
  ⟨sweep_avoids_iff hdead, Sweeper.avoids_sweep_iff reassign cfg inp d⟩

/-- Three servers, of which the first and the last are overdue. -/
def Database.twoOverdue : Database where
  servers := Dict.set (Dict.set (Dict.set ∅ "a" ⟨"h", 1, .active, 10, 0⟩)
    "b" ⟨"h", 2, .active, 10, 20 * second⟩) "c" ⟨"h", 3, .active, 10, 0⟩
  zones := Dict.set ∅ "z" ⟨.active, some "a"⟩
  references := by decide

/-- The same three nodes in memory. -/
def Directory.twoOverdue : Directory where
  svr := Dict.set (Dict.set (Dict.set ∅ "a" ⟨⟨"a", "", "h", 1, ⟨10⟩, .zero, .active⟩, 0⟩)
    "b" ⟨⟨"b", "", "h", 2, ⟨10⟩, .zero, .active⟩, 20 * second⟩)
    "c" ⟨⟨"c", "", "h", 3, ⟨10⟩, .zero, .active⟩, 0⟩
  zones := Dict.set ∅ "z" "a"

/-- The target becomes the owner. -/
def claimFor : ReassignFunc := fun d z t => { d with zones := d.zones.set z t }

/-- A live server that is listed first takes the zone. -/
theorem orphans_avoid_overdue_iff_first :
    let cfg : SweeperConfig := ⟨5 * second, 15 * second⟩
    let cs : ℕ → Choice := fun _ => .clean ["a", "c"] (20 * second)
    let inp : SweepInput := ⟨20 * second, ["a", "c"], fun _ => [], fun _ _ => ["b", "c"]⟩
    (Database.twoOverdue.exec (cs 0) (.deadServers 15)).1 = .ok ["a", "c"] ∧
      Along (Sweeper.sweepNode (some claimFor) inp)
        (Sweeper.NodeOutranks (Sweeper.overdue cfg inp .twoOverdue) (some claimFor) inp)
        ⟨.twoOverdue, []⟩ (Sweeper.overdue cfg inp .twoOverdue) :=
  ⟨by decide +kernel, (orphans_avoid_overdue_iff ⟨5 * second, 15 * second⟩ .twoOverdue
    (fun _ => .clean ["a", "c"] (20 * second)) ["a", "c"] (by decide +kernel) claimFor _ _).2.mp
    (by decide +kernel)⟩

/-- The zone of the first overdue server is claimed for the other one and announced
as its own, and is passed on with it. -/
theorem orphan_goes_to_overdue :
    let cfg : SweeperConfig := ⟨5 * second, 15 * second⟩
    let cs : ℕ → Choice := fun _ => .clean ["a", "c"] (20 * second)
    let inp : SweepInput := ⟨20 * second, ["a", "c"], fun _ => [], fun _ _ => ["c", "b"]⟩
    (Database.twoOverdue.exec (cs 0) (.deadServers 15)).1 = .ok ["a", "c"] ∧
      ¬(∀ change ∈ (run Database.exec (sweep cfg) .twoOverdue cs).1,
        change.serverID ∉ ["a", "c"]) ∧
      ¬(∀ p ∈ (Sweeper.sweep cfg (some claimFor) inp .twoOverdue).passed,
        p.2 ∉ Sweeper.overdue cfg inp .twoOverdue) := by
  decide +kernel

end SpatialServer

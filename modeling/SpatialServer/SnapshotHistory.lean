import SpatialServer.Recovery
import SpatialServer.TickLoop

/-!
# Snapshots across crashes

Every so many ticks the loop saves all zones, each with an insert into a table that a
crash leaves alone. An insert may fail, and nobody is told. A server that comes up
draws a new identifier and reads the row of one zone, the first one of that identifier,
that was inserted last; if it finds none, it seeds the NPCs of its configuration. What
was saved under another name is in the table and is not asked for.

The table takes no row for a runtime that it does not know. The server saves under
its own identifier, so that without a runtime of that name nothing is ever stored.

The clock of the database does not go back. What `NOW()` says is unique in a zone,
because it is part of the key.
-/
namespace SpatialServer

open Runs

variable {D : Type}

/-! ## The table -/

structure ZoneStateRow (D : Type) where
  zoneID : ZoneID
  runtimeID : String
  snapshot : D
  tickCount : ℕ
  takenAt : Time

/-- The rows are kept in the order in which they were inserted. -/
structure ZoneState (D : Type) where
  runtimes : List String
  rows : List (ZoneStateRow D)
  clock : Time
  references : ∀ row ∈ rows, row.runtimeID ∈ runtimes
  key : rows.Pairwise fun a b => a.zoneID = b.zoneID → a.takenAt ≠ b.takenAt
  past : ∀ row ∈ rows, row.takenAt ≤ clock

/-- What became of a save: for which server it was made, and whether it was stored. -/
structure SaveAttempt (D : Type) where
  runtimeID : String
  save : Save D
  stored : Bool

namespace ZoneState

def new (runtimes : List String) : ZoneState D := ⟨runtimes, [], 0, by simp, by simp, by simp⟩

def wait (t : ZoneState D) (elapsed : ℕ) : ZoneState D :=
  { t with
    clock := t.clock + elapsed
    past := fun row hrow => (t.past row hrow).trans
      (le_add_of_nonneg_right (Int.natCast_nonneg elapsed)) }

/-- INSERT INTO zone_state (zone_id, runtime_id, snapshot, tick_count), with the time
of the clock. Says whether the row is in the table. -/
def save (t : ZoneState D) (runtimeID : String) (s : Save D) (elapsed : ℕ) (carried : Bool) :
    ZoneState D × Bool :=
  if h : carried ∧ runtimeID ∈ t.runtimes ∧
      ∀ row ∈ t.rows, row.zoneID = s.zoneID → row.takenAt ≠ t.clock + elapsed then
    ({ t.wait elapsed with
        rows := t.rows ++ [⟨s.zoneID, runtimeID, s.data, s.tick, t.clock + elapsed⟩]
        references := by
          intro row hrow
          rcases List.mem_append.mp hrow with hrow | hrow
          · exact t.references row hrow
          · rw [List.mem_singleton.mp hrow]
            exact h.2.1
        key := by
          refine List.pairwise_append.mpr ⟨t.key, List.pairwise_singleton _ _, fun a ha b hb => ?_⟩
          rw [List.mem_singleton.mp hb]
          exact h.2.2 a ha
        past := by
          intro row hrow
          rcases List.mem_append.mp hrow with hrow | hrow
          · exact (t.wait elapsed).past row hrow
          · rw [List.mem_singleton.mp hrow]
            exact le_rfl }, true)
  else (t.wait elapsed, false)

def newer (best : Option (ZoneStateRow D)) (row : ZoneStateRow D) : Option (ZoneStateRow D) :=
  match best with
  | none => some row
  | some b => if b.takenAt < row.takenAt then some row else some b

/-- SELECT snapshot, tick_count … WHERE zone_id=$1 ORDER BY taken_at DESC LIMIT 1. -/
def latest (t : ZoneState D) (zoneID : ZoneID) : Option (D × ℕ) :=
  ((t.rows.filter fun row => row.zoneID = zoneID).foldl newer none).map
    fun row => (row.snapshot, row.tickCount)

/-- All zones are saved one after the other. Each save takes its time and is carried
out or not. -/
def saveAll (runtimeID : String) (fate : ZoneID → ℕ × Bool) :
    ZoneState D → List (Save D) → ZoneState D × List (SaveAttempt D)
  | t, [] => (t, [])
  | t, s :: saves =>
    let first := t.save runtimeID s (fate s.zoneID).1 (fate s.zoneID).2
    let rest := saveAll runtimeID fate first.1 saves
    (rest.1, ⟨runtimeID, s, first.2⟩ :: rest.2)

end ZoneState

/-! ## The server -/

def seededEntity (id : EntityID) (spec : NPCSpec) : Entity :=
  { Entity.new id spec.type "" with
    position := spec.position
    attrs := (∅ : Dict String Bytes).set "behavior" spec.behavior
    lifecycle := some ⟨some (newBehaviorFor spec)⟩ }

def Game.seedNPCs (g : Game) (npcs : List NPCSpec) (ids : List EntityID) : Game :=
  (ids.zip npcs).foldl (fun g npc => g.addEntity (seededEntity npc.1 npc.2)) g

/-- A snapshot of all zones: when it was made, of what, and what became of each save. -/
structure SnapshotPoint (D : Type) where
  tick : ℕ
  store : Store
  saves : List (SaveAttempt D)

/-- The last two fields are a history: all saves, of all servers that ran here, and the
last snapshot of the current one. -/
structure SnapshotNode (D : Type) where
  serverID : ServerID
  game : Game
  phase : Phase
  tickCount : ℕ
  table : ZoneState D
  saves : List (SaveAttempt D)
  point : Option (SnapshotPoint D)

structure SnapshotInput where
  zoneOrder : List ZoneID
  order : ZoneID → List EntityID
  fate : ZoneID → ℕ × Bool

/-- A server that is started again has the identifier that it draws then. -/
inductive SnapshotStep where
  | call (c : NodeCall)
  | loop (inp : Game.TickInput) (snap : SnapshotInput)
  | restart (serverID : ServerID) (answers : Bool) (ids : List EntityID)

/-- What the servers are started with. -/
structure NodeConfig where
  snapshotEvery : ℕ
  npcs : List NPCSpec

namespace SnapshotNode

variable (C : RowCodec D) (H : Host) (cfg : NodeConfig)

/-- The zone that is read when the server comes up. -/
def firstZone (serverID : ServerID) : ZoneID := serverID ++ "-z1"

/-- The game of a server that comes up. A query without an answer is like no row. -/
def recovered (t : ZoneState D) (serverID : ServerID) (answers : Bool) (ids : List EntityID) :
    Game :=
  match if answers then t.latest (firstZone serverID) else none with
  | some (data, _) => (Game.new serverID).hydrateFromSnapshot C data
  | none => (Game.new serverID).seedNPCs cfg.npcs ids

def start (runtimes : List String) (serverID : ServerID) (ids : List EntityID) : SnapshotNode D :=
  ⟨serverID, recovered C cfg (.new runtimes) serverID true ids, .idle, 0, .new runtimes, [], none⟩

def snapshotAllZones (n : SnapshotNode D) (snap : SnapshotInput) : SnapshotNode D :=
  let saves := n.game.toStore.snapshotAllZones C n.tickCount snap.zoneOrder snap.order
  let done := ZoneState.saveAll n.serverID snap.fate n.table saves
  { n with
    table := done.1
    saves := n.saves ++ done.2
    point := some ⟨n.tickCount, n.game.toStore, done.2⟩ }

/-- What the tick does between its drain and its simulation. -/
def countTick (n : SnapshotNode D) (snap : SnapshotInput) : SnapshotNode D :=
  let n := { n with tickCount := n.tickCount + 1 }
  if 0 < cfg.snapshotEvery ∧ n.tickCount % cfg.snapshotEvery = 0 then
    n.snapshotAllZones C snap
  else n

/-- The loop makes its next call. -/
def loopStep (n : SnapshotNode D) (inp : Game.TickInput) : SnapshotNode D :=
  { n with
    game := n.game.loopCall H inp n.phase
    phase := n.phase.next inp n.game }

def simulates : Phase → Bool
  | .simulate _ => true
  | _ => false

def step (n : SnapshotNode D) : SnapshotStep → SnapshotNode D
  | .call c => { n with game := n.game.nodeStep H c }
  | .loop inp snap =>
    (if simulates n.phase then n.countTick C cfg snap else n).loopStep H inp
  | .restart serverID answers ids =>
    { n with
      serverID := serverID
      game := recovered C cfg n.table serverID answers ids
      phase := .idle
      tickCount := 0
      point := none }

end SnapshotNode

/-! ## The last row of a zone -/

namespace ZoneState

variable {t : ZoneState D}

/-- The rows of a zone were inserted at later and later times. -/
def Ordered (t : ZoneState D) : Prop :=
  t.rows.Pairwise fun a b => a.zoneID = b.zoneID → a.takenAt < b.takenAt

/-- The rows are the saves that were stored, all of them for runtimes that are known. -/
structure Keeps (t : ZoneState D) (saves : List (SaveAttempt D)) : Prop where
  ordered : t.Ordered
  rows : t.rows.map (fun row => (⟨row.zoneID, row.snapshot, row.tickCount⟩ : Save D)) =
    (saves.filter SaveAttempt.stored).map SaveAttempt.save
  known : ∀ a ∈ saves, a.stored = true → a.runtimeID ∈ t.runtimes

/-- A row that is stored is later than those of its zone. -/
theorem Keeps.save {saves : List (SaveAttempt D)} (h : Keeps t saves) (runtimeID : String)
    (s : Save D) (elapsed : ℕ) (carried : Bool) :
    Keeps (t.save runtimeID s elapsed carried).1
        (saves ++ [⟨runtimeID, s, (t.save runtimeID s elapsed carried).2⟩]) ∧
      (t.save runtimeID s elapsed carried).1.runtimes = t.runtimes := by
  unfold ZoneState.save
  split_ifs with hinsert
  · refine ⟨⟨?_, ?_, ?_⟩, rfl⟩
    · refine List.pairwise_append.mpr ⟨h.ordered, List.pairwise_singleton _ _, ?_⟩
      intro a ha b hb hzone
      rw [List.mem_singleton.mp hb] at hzone ⊢
      have hle := (t.past a ha).trans (le_add_of_nonneg_right (Int.natCast_nonneg elapsed))
      exact lt_of_le_of_ne hle (hinsert.2.2 a ha hzone)
    · simp [h.rows]
    · intro a ha hstored
      rcases List.mem_append.mp ha with ha | ha
      · exact h.known a ha hstored
      · rw [List.mem_singleton.mp ha]
        exact hinsert.2.1
  · refine ⟨⟨h.ordered, ?_, ?_⟩, rfl⟩
    · simpa [wait] using h.rows
    · intro a ha hstored
      rcases List.mem_append.mp ha with ha | ha
      · exact h.known a ha hstored
      · rw [List.mem_singleton.mp ha] at hstored
        cases hstored

theorem Keeps.saveAll {saves : List (SaveAttempt D)} (h : Keeps t saves) (runtimeID : String)
    (fate : ZoneID → ℕ × Bool) (more : List (Save D)) :
    Keeps (saveAll runtimeID fate t more).1 (saves ++ (saveAll runtimeID fate t more).2) ∧
      (saveAll runtimeID fate t more).1.runtimes = t.runtimes := by
  induction more generalizing t saves with
  | nil => simpa [ZoneState.saveAll] using h
  | cons s more ih =>
    obtain ⟨hfirst, hruntimes⟩ := h.save runtimeID s (fate s.zoneID).1 (fate s.zoneID).2
    obtain ⟨hrest, hruntimes'⟩ := ih hfirst
    simp only [ZoneState.saveAll]
    exact ⟨by simpa using hrest, hruntimes'.trans hruntimes⟩

@[simp] theorem map_save_saveAll (runtimeID : String) (fate : ZoneID → ℕ × Bool)
    (t : ZoneState D) (more : List (Save D)) :
    (saveAll runtimeID fate t more).2.map SaveAttempt.save = more := by
  induction more generalizing t with
  | nil => rfl
  | cons s more ih => simp [saveAll, ih]

end ZoneState

namespace SnapshotNode

variable {C : RowCodec D} {H : Host} {cfg : NodeConfig} {n : SnapshotNode D}
  {runtimes : List String}

/-- The history fits the table, and the last snapshot the number of ticks. -/
structure Recorded (C : RowCodec D) (cfg : NodeConfig) (runtimes : List String)
    (n : SnapshotNode D) : Prop where
  runtimes : n.table.runtimes = runtimes
  keeps : n.table.Keeps n.saves
  early : 0 < cfg.snapshotEvery → n.point = none → n.tickCount < cfg.snapshotEvery
  recent : ∀ pt, n.point = some pt →
    pt.tick = cfg.snapshotEvery * (n.tickCount / cfg.snapshotEvery) ∧
      (∃ snap : SnapshotInput, pt.saves.map SaveAttempt.save =
        pt.store.snapshotAllZones C pt.tick snap.zoneOrder snap.order) ∧
      ∃ before, n.saves = before ++ pt.saves

/-- A snapshot is made of all zones. -/
theorem Recorded.snapshotAllZones (h : Recorded C cfg runtimes n)
    {tickCount : ℕ} (htick : tickCount % cfg.snapshotEvery = 0) (snap : SnapshotInput) :
    Recorded C cfg runtimes
      (({ n with tickCount := tickCount } : SnapshotNode D).snapshotAllZones C snap) := by
  obtain ⟨hkeeps, hruntimes⟩ := h.keeps.saveAll n.serverID snap.fate
    (n.game.toStore.snapshotAllZones C tickCount snap.zoneOrder snap.order)
  refine ⟨hruntimes.trans h.runtimes, hkeeps, fun _ hnone => (by cases hnone), ?_⟩
  rintro pt ⟨⟩
  refine ⟨?_, ⟨snap, ZoneState.map_save_saveAll _ _ _ _⟩, n.saves, rfl⟩
  exact (Nat.mul_div_cancel' (Nat.dvd_of_mod_eq_zero htick)).symm

/-- A tick is counted, and every so many ticks there is a snapshot. -/
theorem Recorded.countTick (h : Recorded C cfg runtimes n)
    (snap : SnapshotInput) : Recorded C cfg runtimes (n.countTick C cfg snap) := by
  simp only [SnapshotNode.countTick]
  split_ifs with hsnap
  · exact h.snapshotAllZones hsnap.2 snap
  · refine ⟨h.runtimes, h.keeps, fun hpos hnone => ?_, fun pt hpt => ?_⟩
    · have hlt := h.early hpos hnone
      have hne : n.tickCount + 1 ≠ cfg.snapshotEvery := by
        intro heq
        exact hsnap ⟨hpos, by simp [heq]⟩
      exact lt_of_le_of_ne hlt hne
    · obtain ⟨htick, hsaves, hlog⟩ := h.recent pt hpt
      refine ⟨?_, hsaves, hlog⟩
      rw [htick]
      rcases Nat.eq_zero_or_pos cfg.snapshotEvery with hzero | hpos
      · simp [hzero]
      · -- between two snapshots the quotient stays
        have hnot : ¬cfg.snapshotEvery ∣ n.tickCount + 1 := fun hdvd =>
          hsnap ⟨hpos, Nat.mod_eq_zero_of_dvd hdvd⟩
        rw [show (n.tickCount + 1) / cfg.snapshotEvery = n.tickCount / cfg.snapshotEvery from
          Nat.succ_div_of_not_dvd hnot]

theorem Recorded.step (h : Recorded C cfg runtimes n)
    (stp : SnapshotStep) : Recorded C cfg runtimes (n.step C H cfg stp) := by
  cases stp with
  | call c => exact ⟨h.runtimes, h.keeps, h.early, h.recent⟩
  | loop inp snap =>
    simp only [SnapshotNode.step]
    split_ifs
    · have hcount := h.countTick snap
      exact ⟨hcount.runtimes, hcount.keeps, hcount.early, hcount.recent⟩
    · exact ⟨h.runtimes, h.keeps, h.early, h.recent⟩
  | restart serverID answers ids =>
    exact ⟨h.runtimes, h.keeps, fun hpos _ => hpos, fun pt hpt => by cases hpt⟩

end SnapshotNode

namespace SnapshotNode

variable {C : RowCodec D} {H : Host} {cfg : NodeConfig} {n : SnapshotNode D}
  {runtimes : List String}

/-- No save is of the zone. -/
def Unsaved (z : ZoneID) (n : SnapshotNode D) : Prop := ∀ a ∈ n.saves, a.save.zoneID ≠ z

/-- A snapshot of a game without the zone has no save of it. -/
theorem Unsaved.snapshotAllZones {z : ZoneID} (h : n.Unsaved z) (hz : n.game.zones.get z = none)
    (snap : SnapshotInput) : (n.snapshotAllZones C snap).Unsaved z := by
  intro a ha
  rcases List.mem_append.mp ha with ha | ha
  · exact h a ha
  · rintro rfl
    have hsave := List.mem_map_of_mem (f := SaveAttempt.save) ha
    rw [ZoneState.map_save_saveAll] at hsave
    obtain ⟨zid, -, hbind⟩ := List.mem_filterMap.mp hsave
    obtain ⟨sim, hsim, hmap⟩ := Option.bind_eq_some_iff.mp hbind
    obtain ⟨data, -, heq⟩ := Option.map_eq_some_iff.mp hmap
    rw [← heq, hsim] at hz
    cases hz

theorem Unsaved.step {z : ZoneID} (h : n.Unsaved z) (hz : n.game.zones.get z = none)
    (stp : SnapshotStep) : (n.step C H cfg stp).Unsaved z := by
  cases stp with
  | call c => exact h
  | restart serverID answers ids => exact h
  | loop inp snap =>
    simp only [SnapshotNode.step, countTick]
    split_ifs
    · exact Unsaved.snapshotAllZones (n := { n with tickCount := n.tickCount + 1 }) h hz snap
    · exact h
    · exact h

end SnapshotNode

end SpatialServer

import SpatialServer.Nodes
import SpatialServer.Statements

/-!
# The tables of the room service and the statements on them

The columns are those some statement reads or writes. A zone row may name only a
server that has a row: the foreign key is a field of the database, so no
statement can break it.

One statement is one atomic step. What the environment decides about it is a
`Choice`: whether it is carried out and acknowledged, what an error says, after
how many rows a result breaks off, in which order rows come and what time it is.
-/
namespace SpatialServer

open Statements

inductive ZoneStatus where
  | unowned
  | active
  | transferring
  | orphan
  deriving DecidableEq, Repr

structure ServerRow where
  host : String
  port : ℤ
  status : ServerStatus
  maxZones : ℤ
  lastHeartbeat : Time
  deriving DecidableEq, Repr

structure ZoneRow where
  status : ZoneStatus
  serverID : Option ServerID
  deriving DecidableEq, Repr

structure Database where
  servers : Dict ServerID ServerRow
  zones : Dict String ZoneRow
  references : ∀ z ∈ zones.keys, ∀ s ∈ (zones.get z).bind ZoneRow.serverID, (servers.get s).isSome

namespace Database

/-- The server a zone row names. A missing row names none. -/
def owner (db : Database) (zoneID : String) : Option ServerID :=
  (db.zones.get zoneID).bind ZoneRow.serverID

theorem owner_of_get {db : Database} {z : String} {row : ZoneRow} (h : db.zones.get z = some row) :
    db.owner z = row.serverID := by simp [owner, h]

theorem exists_server_of_owner {db : Database} {z : String} {s : ServerID}
    (h : db.owner z = some s) : ∃ row, db.servers.get s = some row := by
  obtain ⟨row, hrow, -⟩ := Option.bind_eq_some_iff.mp h
  have hmem : z ∈ db.zones.keys := (Dict.mem_keys_iff _ _).mpr (by simp [hrow])
  exact Option.isSome_iff_exists.mp (db.references z hmem s h)

def setZone (db : Database) (z : String) (row : ZoneRow)
    (h : ∀ s ∈ row.serverID, (db.servers.get s).isSome) : Database where
  servers := db.servers
  zones := db.zones.set z row
  references := by
    intro z' _ s hs
    rw [Dict.get_set] at hs
    split_ifs at hs
    · exact h s hs
    · exact Option.isSome_iff_exists.mpr (exists_server_of_owner hs)

def setServer (db : Database) (id : ServerID) (row : ServerRow) : Database where
  servers := db.servers.set id row
  zones := db.zones
  references := by
    intro z hz s hs
    rw [Dict.get_set]
    split_ifs
    · rfl
    · exact db.references z hz s hs

/-- Two servers and one zone. -/
def pair (a b : ServerRow) (zone : ZoneRow) (h : ∀ s ∈ zone.serverID, s = "a" ∨ s = "b") :
    Database where
  servers := Dict.set (Dict.set ∅ "a" a) "b" b
  zones := Dict.set ∅ "z" zone
  references := by
    intro z _ s hs
    rw [Dict.get_set] at hs
    split_ifs at hs
    · obtain rfl | rfl := h s hs <;> simp
    · simp at hs

variable (db : Database)

@[simp] theorem servers_setZone (z : String) (row : ZoneRow)
    (h : ∀ s ∈ row.serverID, (db.servers.get s).isSome) :
    (db.setZone z row h).servers = db.servers := rfl

@[simp] theorem zones_setZone (z : String) (row : ZoneRow)
    (h : ∀ s ∈ row.serverID, (db.servers.get s).isSome) :
    (db.setZone z row h).zones = db.zones.set z row := rfl

@[simp] theorem servers_setServer (id : ServerID) (row : ServerRow) :
    (db.setServer id row).servers = db.servers.set id row := rfl

/-! ## Updates

An update yields the number of affected rows and the new tables, or nothing
where it violates the foreign key. -/

/-- UPDATE zones SET server_id=$1, status='active' WHERE id=$2 AND server_id IS NULL. -/
def claimZone (zoneID : String) (serverID : ServerID) : Option (ℕ × Database) :=
  match db.zones.get zoneID with
  | none => some (0, db)
  | some row =>
    if row.serverID ≠ none then some (0, db)
    else if h : (db.servers.get serverID).isSome then
      some (1, db.setZone zoneID ⟨.active, some serverID⟩ (by simpa using h))
    else none

/-- UPDATE zones SET server_id=NULL, status='unowned' WHERE id=$1 AND server_id=$2. -/
def releaseZone (zoneID : String) (serverID : ServerID) : Option (ℕ × Database) :=
  if db.owner zoneID = some serverID then
    some (1, db.setZone zoneID ⟨.unowned, none⟩ (by simp))
  else some (0, db)

/-- INSERT INTO game_servers … ON CONFLICT (id) DO UPDATE SET host, port, max_zones. A
known server keeps its status and its last heartbeat. -/
def upsertServer (id : ServerID) (row : ServerRow) : Option (ℕ × Database) :=
  match db.servers.get id with
  | none => some (1, db.setServer id row)
  | some old => some (1, db.setServer id
      { old with host := row.host, port := row.port, maxZones := row.maxZones })

/-- UPDATE game_servers SET status='active', last_heartbeat=NOW() WHERE id=$1. -/
def heartbeat (now : Time) (id : ServerID) : Option (ℕ × Database) :=
  match db.servers.get id with
  | none => some (0, db)
  | some row => some (1, db.setServer id { row with status := .active, lastHeartbeat := now })

/-- UPDATE game_servers SET status='shutdown' WHERE id=$1. -/
def markShutdown (id : ServerID) : Option (ℕ × Database) :=
  match db.servers.get id with
  | none => some (0, db)
  | some row => some (1, db.setServer id { row with status := .shutdown })

/-- What a claiming update does: nothing to a missing or owned row, an error
where the new owner has no row. -/
theorem claimZone_cases (z : String) (s : ServerID) :
    db.claimZone z s = some (0, db) ∧ (db.zones.get z = none ∨ db.owner z ≠ none) ∨
    db.claimZone z s = none ∧ db.servers.get s = none ∨
    ∃ h, db.claimZone z s = some (1, db.setZone z ⟨.active, some s⟩ h) ∧ db.owner z = none := by
  unfold claimZone
  split
  · next hrow => exact .inl ⟨rfl, .inl hrow⟩
  · next row hrow =>
    rw [owner_of_get hrow]
    split_ifs with hnull hs
    · exact .inl ⟨rfl, .inr hnull⟩
    · exact .inr (.inr ⟨by simpa using hs, rfl, by simpa using hnull⟩)
    · exact .inr (.inl ⟨rfl, by simpa using hs⟩)

@[simp] theorem owner_setZone (z : String) (row : ZoneRow)
    (h : ∀ s ∈ row.serverID, (db.servers.get s).isSome) (z' : String) :
    (db.setZone z row h).owner z' = if z' = z then row.serverID else db.owner z' := by
  simp only [owner, zones_setZone, Dict.get_set]
  split_ifs <;> rfl

/-- Marking a server touches no other row. -/
theorem markShutdown_cases (s : ServerID) : ∃ n db', db.markShutdown s = some (n, db') ∧
    db'.zones = db.zones ∧ ∀ t, t ≠ s → db'.servers.get t = db.servers.get t := by
  unfold markShutdown
  split
  · exact ⟨0, db, rfl, rfl, fun _ _ => rfl⟩
  · exact ⟨1, _, rfl, rfl, fun t ht => by simp [ht]⟩

@[simp] theorem owner_setServer (id : ServerID) (row : ServerRow) (z : String) :
    (db.setServer id row).owner z = db.owner z := rfl

/-! ## Queries -/

/-- SELECT id FROM zones WHERE server_id=$1. -/
def zonesOf (order : List String) (serverID : ServerID) : List String :=
  (db.zones.range order).filter fun z => db.owner z = some serverID

/-- SELECT id,host,port,status,max_zones FROM game_servers WHERE status='active'. -/
def activeServers (order : List ServerID) : List (ServerID × ServerRow) :=
  (db.servers.range order).filterMap fun id =>
    match db.servers.get id with
    | none => none
    | some row => if row.status = .active then some (id, row) else none

/-- SELECT id FROM game_servers WHERE status='active' AND last_heartbeat < NOW() - $1. -/
def deadServers (order : List ServerID) (now : Time) (secs : ℤ) : List ServerID :=
  (db.servers.range order).filter fun id =>
    match db.servers.get id with
    | none => false
    | some row => row.status = .active ∧ row.lastHeartbeat < now - secs * second

/-- The server has a row with status active. -/
def Active (s : ServerID) : Prop := ∃ row, db.servers.get s = some row ∧ row.status = .active

variable {db}

theorem mem_zonesOf {order : List String} {s : ServerID} {z : String} :
    z ∈ db.zonesOf order s ↔ db.owner z = some s := by
  simp only [zonesOf, List.mem_filter, Dict.mem_range_iff, decide_eq_true_eq,
    and_iff_right_iff_imp]
  intro h
  obtain ⟨row, hrow, -⟩ := Option.bind_eq_some_iff.mp h
  simp [hrow]

theorem nodup_zonesOf (order : List String) (s : ServerID) : (db.zonesOf order s).Nodup :=
  (Dict.nodup_range order db.zones).filter _

theorem mem_activeServers {order : List ServerID} {id : ServerID} {row : ServerRow} :
    (id, row) ∈ db.activeServers order ↔ db.servers.get id = some row ∧ row.status = .active := by
  simp only [activeServers, List.mem_filterMap, Dict.mem_range_iff_exists]
  constructor
  · rintro ⟨a, -, ha⟩
    split at ha
    · cases ha
    · next r hr =>
      split_ifs at ha with hactive
      cases ha
      exact ⟨hr, hactive⟩
  · rintro ⟨hrow, hactive⟩
    exact ⟨id, ⟨row, hrow⟩, by simp [hrow, hactive]⟩

theorem mem_deadServers {order : List ServerID} {now : Time} {secs : ℤ} {id : ServerID} :
    id ∈ db.deadServers order now secs ↔ ∃ row, db.servers.get id = some row ∧
      row.status = .active ∧ row.lastHeartbeat < now - secs * second := by
  simp only [deadServers, List.mem_filter, Dict.mem_range_iff_exists]
  constructor
  · rintro ⟨⟨row, hrow⟩, h⟩
    exact ⟨row, hrow, by simpa [hrow] using h⟩
  · rintro ⟨row, hrow, h⟩
    exact ⟨⟨row, hrow⟩, by simpa [hrow] using h⟩

end Database

/-! ## Statements -/

inductive Stmt where
  | claimZone (zoneID : String) (serverID : ServerID)
  | releaseZone (zoneID : String) (serverID : ServerID)
  | selectOwner (zoneID : String)
  | zonesOf (serverID : ServerID)
  | upsertServer (id : ServerID) (host : String) (port : ℤ) (status : ServerStatus) (maxZones : ℤ)
  | heartbeat (id : ServerID)
  | markShutdown (id : ServerID)
  | selectServer (id : ServerID)
  | activeServers
  | deadServers (secs : ℤ)
  deriving DecidableEq, Repr

/-- Why a query for one row gives none. -/
inductive QueryError where
  | noRows
  | failed (text : String)
  deriving DecidableEq, Repr

/-- What the driver hands back: affected rows, one row, or all rows. -/
@[reducible] def Stmt.Reply : Stmt → Type
  | .claimZone .. | .releaseZone .. | .upsertServer .. | .heartbeat _ | .markShutdown _ =>
    Except String ℕ
  | .selectOwner _ => Except QueryError (Option ServerID)
  | .selectServer _ => Except QueryError (ServerID × ServerRow)
  | .zonesOf _ | .deadServers _ => Except String (List String)
  | .activeServers => Except String (List (ServerID × ServerRow))

/-- A statement may be acknowledged, fail without effect, or take effect while
the acknowledgement is lost. -/
inductive Outcome where
  | done
  | failed
  | lost
  deriving DecidableEq, Repr

structure Choice where
  outcome : Outcome
  error : String
  /-- Reading the rows stops silently here: the loops over them never ask
  whether they ended early. -/
  cut : Option ℕ
  order : List String
  now : Time
  deriving DecidableEq, Repr

namespace Choice

/-- Carried out, acknowledged and read to the end. -/
def Clean (c : Choice) : Prop := c.outcome = .done ∧ c.cut = none

instance (c : Choice) : Decidable c.Clean :=
  inferInstanceAs (Decidable (c.outcome = .done ∧ c.cut = none))

def clean (order : List String) (now : Time) : Choice := ⟨.done, "", none, order, now⟩

variable {α : Type}

def write (c : Choice) (db : Database) (result : Option (ℕ × Database)) :
    Except String ℕ × Database :=
  match c.outcome, result with
  | .failed, _ => (.error c.error, db)
  | _, none => (.error c.error, db)
  | .done, some (n, db') => (.ok n, db')
  | .lost, some (_, db') => (.error c.error, db')

theorem write_eq_ok {c : Choice} {db : Database} {result : Option (ℕ × Database)} {n : ℕ}
    (h : (c.write db result).1 = .ok n) : result = some (n, (c.write db result).2) := by
  unfold write at h ⊢
  split at h
  · cases h
  · cases h
  · cases h; rfl
  · cases h

theorem write_of_clean {c : Choice} (hc : c.Clean) (db : Database) (n : ℕ) (db' : Database) :
    c.write db (some (n, db')) = (.ok n, db') := by
  simp [write, hc.1]

/-- Whatever the outcome, an update is carried out or not. -/
theorem write_snd (c : Choice) (db : Database) (result : Option (ℕ × Database)) :
    (c.write db result).2 = db ∨ ∃ n, result = some (n, (c.write db result).2) := by
  unfold write
  split
  · exact .inl rfl
  · exact .inl rfl
  · exact .inr ⟨_, rfl⟩
  · exact .inr ⟨_, rfl⟩

def readRow (c : Choice) : Option α → Except QueryError α
  | none => if c.outcome = .done then .error .noRows else .error (.failed c.error)
  | some a => if c.outcome = .done then .ok a else .error (.failed c.error)

def readRows (c : Choice) (rows : List α) : Except String (List α) :=
  if c.outcome = .done then
    match c.cut with
    | none => .ok rows
    | some n => .ok (rows.take n)
  else .error c.error

theorem readRow_of_clean {c : Choice} (hc : c.Clean) (a : α) : c.readRow (some a) = .ok a := by
  simp [readRow, hc.1]

theorem eq_some_of_readRow {c : Choice} {o : Option α} {a : α} (h : c.readRow o = .ok a) :
    o = some a := by
  cases o with
  | none =>
    simp only [readRow] at h
    split_ifs at h
  | some b =>
    simp only [readRow] at h
    split_ifs at h
    exact congrArg some (Except.ok.inj h)

theorem mem_of_readRows {c : Choice} {rows out : List α} (h : c.readRows rows = .ok out) {a : α}
    (ha : a ∈ out) : a ∈ rows := by
  unfold readRows at h
  split_ifs at h
  split at h
  · cases h; exact ha
  · cases h; exact List.mem_of_mem_take ha

theorem readRows_of_clean {c : Choice} (hc : c.Clean) (rows : List α) :
    c.readRows rows = .ok rows := by
  simp [readRows, hc.1, hc.2]

end Choice

/-- The meaning of a statement. -/
def Database.exec (db : Database) (c : Choice) : (op : Stmt) → op.Reply × Database
  | .claimZone z s => c.write db (db.claimZone z s)
  | .releaseZone z s => c.write db (db.releaseZone z s)
  | .upsertServer id host port status maxZones =>
    c.write db (db.upsertServer id ⟨host, port, status, maxZones, c.now⟩)
  | .heartbeat id => c.write db (db.heartbeat c.now id)
  | .markShutdown id => c.write db (db.markShutdown id)
  | .selectOwner z => (c.readRow ((db.zones.get z).map ZoneRow.serverID), db)
  | .selectServer id => (c.readRow ((db.servers.get id).map (Prod.mk id)), db)
  | .zonesOf s => (c.readRows (db.zonesOf c.order s), db)
  | .activeServers => (c.readRows (db.activeServers c.order), db)
  | .deadServers secs => (c.readRows (db.deadServers c.order c.now secs), db)

namespace Database

variable {db db' : Database} {c : Choice} {n : ℕ}

theorem exec_claimZone (hc : c.Clean) {z : String} {s : ServerID}
    (h : db.claimZone z s = some (n, db')) : db.exec c (.claimZone z s) = (.ok n, db') := by
  change c.write db (db.claimZone z s) = _
  rw [h, Choice.write_of_clean hc]

theorem exec_releaseZone (hc : c.Clean) {z : String} {s : ServerID}
    (h : db.releaseZone z s = some (n, db')) : db.exec c (.releaseZone z s) = (.ok n, db') := by
  change c.write db (db.releaseZone z s) = _
  rw [h, Choice.write_of_clean hc]

theorem exec_markShutdown (hc : c.Clean) {s : ServerID}
    (h : db.markShutdown s = some (n, db')) : db.exec c (.markShutdown s) = (.ok n, db') := by
  change c.write db (db.markShutdown s) = _
  rw [h, Choice.write_of_clean hc]

theorem exec_selectOwner (hc : c.Clean) {z : String} (hrow : db.zones.get z ≠ none) :
    db.exec c (.selectOwner z) = (.ok (db.owner z), db) := by
  obtain ⟨row, hget⟩ := Option.ne_none_iff_exists'.mp hrow
  change (c.readRow ((db.zones.get z).map ZoneRow.serverID), db) = _
  rw [hget, Option.map_some, Choice.readRow_of_clean hc, owner_of_get hget]

theorem exec_selectServer (hc : c.Clean) {s : ServerID} {row : ServerRow}
    (h : db.servers.get s = some row) : db.exec c (.selectServer s) = (.ok (s, row), db) := by
  change (c.readRow ((db.servers.get s).map (Prod.mk s)), db) = _
  rw [h, Option.map_some, Choice.readRow_of_clean hc]

theorem exec_zonesOf (hc : c.Clean) (s : ServerID) :
    db.exec c (.zonesOf s) = (.ok (db.zonesOf c.order s), db) := by
  change (c.readRows (db.zonesOf c.order s), db) = _
  rw [Choice.readRows_of_clean hc]

theorem exec_activeServers (hc : c.Clean) :
    db.exec c .activeServers = (.ok (db.activeServers c.order), db) := by
  change (c.readRows (db.activeServers c.order), db) = _
  rw [Choice.readRows_of_clean hc]

theorem exec_deadServers (hc : c.Clean) (secs : ℤ) :
    db.exec c (.deadServers secs) = (.ok (db.deadServers c.order c.now secs), db) := by
  change (c.readRows (db.deadServers c.order c.now secs), db) = _
  rw [Choice.readRows_of_clean hc]

/-- Whatever the outcome, a claiming update gives an unowned zone to the server or
changes nothing. -/
theorem exec_claimZone_snd (c : Choice) (z : String) (s : ServerID) :
    (db.exec c (.claimZone z s)).2 = db ∨ ∃ h, db.owner z = none ∧
      (db.exec c (.claimZone z s)).2 = db.setZone z ⟨.active, some s⟩ h := by
  obtain hsame | ⟨n, hres⟩ := Choice.write_snd c db (db.claimZone z s)
  · exact .inl hsame
  · change db.claimZone z s = some (n, (db.exec c (.claimZone z s)).2) at hres
    obtain ⟨hcase, -⟩ | ⟨hcase, -⟩ | ⟨h, hcase, hnull⟩ := db.claimZone_cases z s
    all_goals rw [hcase] at hres
    · exact .inl (Prod.mk.inj (Option.some.inj hres)).2.symm
    · cases hres
    · exact .inr ⟨h, hnull, (Prod.mk.inj (Option.some.inj hres)).2.symm⟩

theorem exec_releaseZone_snd (c : Choice) (z : String) (s : ServerID) :
    (db.exec c (.releaseZone z s)).2 = db ∧ (c.outcome = .failed ∨ db.owner z ≠ some s) ∨
      db.owner z = some s ∧
      (db.exec c (.releaseZone z s)).2 = db.setZone z ⟨.unowned, none⟩ (by simp) := by
  change (c.write db (db.releaseZone z s)).2 = db ∧ _ ∨
    _ ∧ (c.write db (db.releaseZone z s)).2 = _
  unfold releaseZone
  split_ifs with hs
  · cases hout : c.outcome <;> simp [Choice.write, hout, hs]
  · cases hout : c.outcome <;> simp [Choice.write, hout, hs]

/-- The row of a server is new, or keeps what the statement is not about: only a
heartbeat changes the last heartbeat, only a heartbeat and a mark the status. -/
structure RowChange (db : Database) (op : Stmt) (id : ServerID) (row : ServerRow) : Prop where
  heartbeat : ∀ old, db.servers.get id = some old →
    row.lastHeartbeat = old.lastHeartbeat ∨ op = .heartbeat id
  status : ∀ old, db.servers.get id = some old →
    row.status = old.status ∨ op = .heartbeat id ∧ row.status = .active ∨ op = .markShutdown id

/-- Whatever the outcome, a statement changes nothing, or gives a zone away, or takes
it back, or sets the row of a server. -/
theorem exec_cases (db : Database) (c : Choice) (op : Stmt) :
    (db.exec c op).2 = db ∨
      (∃ z s h, op = .claimZone z s ∧ (db.exec c op).2 = db.setZone z ⟨.active, some s⟩ h) ∨
      (∃ z s, op = .releaseZone z s ∧
        (db.exec c op).2 = db.setZone z ⟨.unowned, none⟩ (by simp)) ∨
      ∃ id row, (db.exec c op).2 = db.setServer id row ∧ db.RowChange op id row := by
  have hwrite : ∀ result, (∀ n db', result = some (n, db') → db' = db ∨
      ∃ id row, db' = db.setServer id row ∧ db.RowChange op id row) →
      (c.write db result).2 = db ∨
        ∃ id row, (c.write db result).2 = db.setServer id row ∧ db.RowChange op id row :=
    fun result hresult => (Choice.write_snd c db result).elim .inl fun ⟨n, heq⟩ => hresult n _ heq
  cases op with
  | claimZone z s =>
    obtain hsame | ⟨h, -, hset⟩ := db.exec_claimZone_snd c z s
    · exact .inl hsame
    · exact .inr (.inl ⟨z, s, h, rfl, hset⟩)
  | releaseZone z s =>
    obtain ⟨hsame, -⟩ | ⟨-, hset⟩ := db.exec_releaseZone_snd c z s
    · exact .inl hsame
    · exact .inr (.inr (.inl ⟨z, s, rfl, hset⟩))
  | upsertServer id host port status maxZones =>
    refine (hwrite _ fun n db' heq => ?_).imp_right fun h => .inr (.inr h)
    unfold upsertServer at heq
    split at heq
    · next hnone =>
      refine .inr ⟨id, _, (Prod.mk.inj (Option.some.inj heq)).2.symm, ?_, ?_⟩ <;>
        simp [hnone]
    · next old hold =>
      refine .inr ⟨id, _, (Prod.mk.inj (Option.some.inj heq)).2.symm, ?_, ?_⟩ <;>
        simp [hold]
  | heartbeat id =>
    refine (hwrite _ fun n db' heq => ?_).imp_right fun h => .inr (.inr h)
    unfold Database.heartbeat at heq
    split at heq
    · exact .inl (Prod.mk.inj (Option.some.inj heq)).2.symm
    · exact .inr ⟨id, _, (Prod.mk.inj (Option.some.inj heq)).2.symm, fun _ _ => .inr rfl,
        fun _ _ => .inr (.inl ⟨rfl, rfl⟩)⟩
  | markShutdown id =>
    refine (hwrite _ fun n db' heq => ?_).imp_right fun h => .inr (.inr h)
    unfold Database.markShutdown at heq
    split at heq
    · exact .inl (Prod.mk.inj (Option.some.inj heq)).2.symm
    · next row hrow =>
      refine .inr ⟨id, _, (Prod.mk.inj (Option.some.inj heq)).2.symm, ?_,
        fun _ _ => .inr (.inr rfl)⟩
      simp [hrow]
  | _ => exact .inl rfl

/-- Whatever the outcome, a statement leaves the servers alone or sets one row. -/
theorem exec_servers (db : Database) (c : Choice) (op : Stmt) :
    (db.exec c op).2.servers = db.servers ∨
      ∃ id row, (db.exec c op).2 = db.setServer id row ∧ db.RowChange op id row := by
  obtain hsame | ⟨z, s, h, -, hset⟩ | ⟨z, s, -, hset⟩ | hserver := db.exec_cases c op
  · exact .inl (by rw [hsame])
  · exact .inl (by rw [hset]; rfl)
  · exact .inl (by rw [hset]; rfl)
  · exact .inr hserver

end Database

end SpatialServer

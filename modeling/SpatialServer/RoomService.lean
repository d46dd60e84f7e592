import SpatialServer.Tables

/-!
# Repositories, zone lookup and the production sweeper

Each method is the program of the statements it issues. Nothing spans two
statements: there is no transaction, so between any two of them the tables may
change.
-/
namespace SpatialServer

open Statements Statements.Prog

/-- A program over the tables. -/
abbrev Tx (α : Type) := Prog Stmt Stmt.Reply α

/-- What a repository returns as an error: a sentinel, or an error of the driver
under the text of its context. -/
inductive StoreError where
  | sentinel (f : Failure)
  | database (text : String)
  deriving DecidableEq, Repr

def StoreError.text : StoreError → String
  | .sentinel f => f.text
  | .database text => text

namespace ZoneRepository

def notFound (zoneID : String) : StoreError := .sentinel (Err.notFound.wrap ("zone " ++ zoneID))

def conflict (zoneID : String) : StoreError := .sentinel (Err.conflict.wrap ("zone " ++ zoneID))

def notOwned (zoneID : String) : StoreError := .sentinel (Err.notOwned.wrap ("zone " ++ zoneID))

/-- The answer of a claim whose update matched no row. An error other than a
missing row is not looked at, and reads as no owner. -/
def claimReply (zoneID : String) (serverID : ServerID) :
    Except QueryError (Option ServerID) → Except StoreError Unit
  | .error .noRows => .error (notFound zoneID)
  | .ok (some owner) =>
    if owner ≠ "" ∧ owner ≠ serverID then .error (conflict zoneID) else .ok ()
  | .ok none | .error (.failed _) => .ok ()

def claim (zoneID : String) (_runtimeID : RuntimeID) (serverID : ServerID) :
    Tx (Except StoreError Unit) := do
  match ← query (Stmt.claimZone zoneID serverID) with
  | .error err => return .error (.database ("claim zone " ++ zoneID ++ ": " ++ err))
  | .ok rowsAffected =>
    if rowsAffected = 0 then
      return claimReply zoneID serverID (← query (Stmt.selectOwner zoneID))
    else return .ok ()

def releaseReply (zoneID : String) :
    Except QueryError (Option ServerID) → Except StoreError Unit
  | .error .noRows => .error (notFound zoneID)
  | _ => .error (notOwned zoneID)

def release (zoneID : String) (serverID : ServerID) : Tx (Except StoreError Unit) := do
  match ← query (Stmt.releaseZone zoneID serverID) with
  | .error err => return .error (.database ("release zone " ++ zoneID ++ ": " ++ err))
  | .ok rowsAffected =>
    if rowsAffected = 0 then
      return releaseReply zoneID (← query (Stmt.selectOwner zoneID))
    else return .ok ()

def listByServer (serverID : ServerID) : Tx (Except StoreError (List String)) := do
  match ← query (Stmt.zonesOf serverID) with
  | .error err => return .error (.database ("list zones by server " ++ serverID ++ ": " ++ err))
  | .ok out => return .ok out

def lookupReply (zoneID : String) :
    Except QueryError (Option ServerID) → Except StoreError ServerID
  | .error .noRows => .error (notFound zoneID)
  | .error (.failed err) => .error (.database ("lookup zone " ++ zoneID ++ ": " ++ err))
  | .ok none => .error (notFound zoneID)
  | .ok (some owner) => if owner = "" then .error (notFound zoneID) else .ok owner

def lookup (zoneID : String) : Tx (Except StoreError ServerID) := do
  return lookupReply zoneID (← query (Stmt.selectOwner zoneID))

end ZoneRepository

namespace ServerRepository

/-- A scanned row. The status column is read and not used, the address to
advertise and the load are in no column. -/
def scanServer (row : ServerID × ServerRow) : NodeDescriptor where
  nodeID := row.1
  advertiseAddr := ""
  host := row.2.host
  port := row.2.port
  capacity := ⟨row.2.maxZones⟩
  load := .zero
  status := .active

/-- A scanned node carries no load, so it can always accept. -/
@[simp] theorem canAccept_scanServer (row : ServerID × ServerRow) :
    (scanServer row).canAccept = true := by
  have hcap : row.2.maxZones ≤ 0 ∨ 0 < row.2.maxZones := le_or_gt _ _
  simpa [scanServer, NodeDescriptor.canAccept, NodeLoad.zero] using hcap

theorem select_scanned {rows : List (ServerID × ServerRow)} {d : NodeDescriptor}
    (h : LeastLoadedAllocator.select ((rows.map scanServer).map some) = .ok d) :
    ∃ row ∈ rows, d = scanServer row := by
  have hmem := (LeastLoadedAllocator.select_eq_ok h).1
  simp only [List.mem_map, Option.some.injEq, exists_eq_right] at hmem
  obtain ⟨row, hrow, hd⟩ := hmem
  exact ⟨row, hrow, hd.symm⟩

theorem exists_select_scanned {rows : List (ServerID × ServerRow)} (hne : rows ≠ []) :
    ∃ row ∈ rows,
      LeastLoadedAllocator.select ((rows.map scanServer).map some) = .ok (scanServer row) := by
  obtain ⟨row, hrow⟩ := List.exists_mem_of_ne_nil rows hne
  have hmem : some (scanServer row) ∈ (rows.map scanServer).map some := by
    simpa using ⟨row.1, row.2, hrow, rfl⟩
  obtain ⟨d, hd⟩ := LeastLoadedAllocator.exists_select_eq_ok hmem (canAccept_scanServer row)
  obtain ⟨best, hbest, rfl⟩ := select_scanned hd
  exact ⟨best, hbest, hd⟩

def register (info : NodeDescriptor) : Tx (Except StoreError Unit) := do
  match ← query (Stmt.upsertServer info.nodeID info.host info.port info.status
      info.capacity.maxZones) with
  | .error err => return .error (.database ("register server " ++ info.nodeID ++ ": " ++ err))
  | .ok _ => return .ok ()

def heartbeat (id : ServerID) (_load : NodeLoad) : Tx (Except StoreError Unit) := do
  match ← query (Stmt.heartbeat id) with
  | .error err => return .error (.database ("heartbeat server " ++ id ++ ": " ++ err))
  | .ok rowsAffected =>
    if rowsAffected = 0 then return .error (.sentinel (Err.notFound.wrap ("server " ++ id)))
    else return .ok ()

def get (id : ServerID) : Tx (Except StoreError NodeDescriptor) := do
  match ← query (Stmt.selectServer id) with
  | .error .noRows => return .error (.sentinel (Err.notFound.wrap "server"))
  | .error (.failed err) => return .error (.database err)
  | .ok row => return .ok (scanServer row)

def list : Tx (Except StoreError (List NodeDescriptor)) := do
  match ← query Stmt.activeServers with
  | .error err => return .error (.database ("list servers: " ++ err))
  | .ok rows => return .ok (rows.map scanServer)

/-- The interval is given in whole seconds. -/
def listDead (since : Duration) : Tx (Except StoreError (List ServerID)) := do
  match ← query (Stmt.deadServers (since.tdiv second)) with
  | .error err => return .error (.database ("list dead servers: " ++ err))
  | .ok out => return .ok out

def markShutdown (id : ServerID) : Tx (Except StoreError Unit) := do
  match ← query (Stmt.markShutdown id) with
  | .error err => return .error (.database ("mark shutdown server " ++ id ++ ": " ++ err))
  | .ok _ => return .ok ()

end ServerRepository

/-! ## Zone lookup -/

inductive StatusCode where
  | unavailable
  | internal
  deriving DecidableEq, Repr

structure StatusError where
  code : StatusCode
  text : String
  deriving DecidableEq, Repr

structure LookupZoneResponse where
  server : ServerID
  advertiseAddr : String
  deriving DecidableEq, Repr

def LookupZoneResponse.of (info : NodeDescriptor) : LookupZoneResponse :=
  ⟨info.nodeID, info.address⟩

namespace RoomServiceServer

def noServers (zoneID : String) : StatusError :=
  ⟨.unavailable, "no servers available for zone " ++ zoneID⟩

def claimFailed (zoneID : String) (err : StoreError) : StatusError :=
  ⟨.internal, "claim zone " ++ zoneID ++ ": " ++ err.text⟩

/-- The path of a lookup that found no owner, or no row of the owner. -/
def allocate (zoneID : String) : Tx (Except StatusError LookupZoneResponse) := do
  match ← ServerRepository.list with
  | .error _ => return .error (noServers zoneID)
  | .ok nodes =>
    if nodes = [] then return .error (noServers zoneID)
    else match LeastLoadedAllocator.select (nodes.map some) with
      | .error _ => return .error (noServers zoneID)
      | .ok server =>
        match ← ZoneRepository.claim zoneID "" server.nodeID with
        | .error err => return .error (claimFailed zoneID err)
        | .ok () => return .ok (.of server)

def lookupZone (zoneID : String) : Tx (Except StatusError LookupZoneResponse) := do
  match ← ZoneRepository.lookup zoneID with
  | .error _ => allocate zoneID
  | .ok serverID =>
    match ← ServerRepository.get serverID with
    | .error _ => allocate zoneID
    | .ok info => return .ok (.of info)

end RoomServiceServer

/-! ## The production sweeper -/

structure SweeperConfig where
  interval : Duration
  missThreshold : Duration
  deriving DecidableEq, Repr

/-- What a watcher is told about a reassigned zone. -/
structure OwnershipChange where
  zoneID : String
  serverID : ServerID
  host : String
  port : ℤ
  deriving DecidableEq, Repr

namespace ProductionSweeper

/-- The configuration of a new sweeper: zero stands for the default. -/
def new (cfg : SweeperConfig) : SweeperConfig where
  interval := if cfg.interval = 0 then 5 * second else cfg.interval
  missThreshold := if cfg.missThreshold = 0 then 15 * second else cfg.missThreshold

/-- One turn of the loop over the zones of a dead server. It returns what it
broadcasts. -/
def reassignZone (dead : ServerID) (zoneID : String) : Tx (List OwnershipChange) := do
  match ← ZoneRepository.release zoneID dead with
  | .error _ => return []
  | .ok () =>
    match ← ServerRepository.list with
    | .error _ => return []
    | .ok nodes =>
      if nodes = [] then return []
      else match LeastLoadedAllocator.select (nodes.map some) with
        | .error _ => return []
        | .ok target =>
          match ← ZoneRepository.claim zoneID "" target.nodeID with
          | .error _ => return []
          | .ok () => return [⟨zoneID, target.nodeID, target.host, target.port⟩]

def reassignZonesFor (dead : ServerID) : Tx (List OwnershipChange) := do
  match ← ZoneRepository.listByServer dead with
  | .error _ => return []
  | .ok zoneIDs => collect (reassignZone dead) zoneIDs

/-- One turn of the loop over the dead servers. A server that cannot be marked
is skipped. -/
def sweepServer (deadID : ServerID) : Tx (List OwnershipChange) := do
  match ← ServerRepository.markShutdown deadID with
  | .error _ => return []
  | .ok () => reassignZonesFor deadID

def sweep (cfg : SweeperConfig) : Tx (List OwnershipChange) := do
  match ← ServerRepository.listDead cfg.missThreshold with
  | .error _ => return []
  | .ok dead => collect sweepServer dead

end ProductionSweeper

/-! ## Calls by many parties -/

inductive RoomCall where
  | claim (zoneID : String) (runtimeID : RuntimeID) (serverID : ServerID)
  | release (zoneID : String) (serverID : ServerID)
  | lookup (zoneID : String)
  | register (info : NodeDescriptor)
  | heartbeat (id : ServerID) (load : NodeLoad)
  | lookupZone (zoneID : String)
  | sweep (cfg : SweeperConfig)

inductive Answer where
  | status (r : Except StoreError Unit)
  | owner (r : Except StoreError ServerID)
  | route (r : Except StatusError LookupZoneResponse)
  | swept (changes : List OwnershipChange)
  deriving DecidableEq

def RoomCall.prog : RoomCall → Tx Answer
  | .claim z r s => do return .status (← ZoneRepository.claim z r s)
  | .release z s => do return .status (← ZoneRepository.release z s)
  | .lookup z => do return .owner (← ZoneRepository.lookup z)
  | .register info => do return .status (← ServerRepository.register info)
  | .heartbeat id load => do return .status (← ServerRepository.heartbeat id load)
  | .lookupZone z => do return .route (← RoomServiceServer.lookupZone z)
  | .sweep cfg => do return .swept (← ProductionSweeper.sweep (ProductionSweeper.new cfg))

/-- Calls in progress over the shared tables. -/
abbrev Room := Pool Stmt Stmt.Reply Database Answer

namespace Room

/-- Call `i` issues its first statement when it is first scheduled. -/
def start (db : Database) (calls : ℕ → RoomCall) : Room := ⟨db, fun i => (calls i).prog⟩

abbrev step : Room → ℕ × Choice → Room := Pool.step Database.exec

def answer (p : Room) (i : ℕ) : Option Answer := (p.threads i).result

end Room

end SpatialServer

import SpatialServer.ActiveRoutes

/-!
# The address a node is reached at

A node registers with an address to advertise and with a host and a port. The
table has columns for the pair only, so that a registration loses the address:
every reader of the row, a lookup that finds the owner, a lookup that allocates
and the broadcast of a sweep, gives the pair. It is the address of the node if the
node advertised none or the pair itself.
-/
namespace SpatialServer

open Runs Statements Statements.Prog ServerRepository RoomServiceServer ProductionSweeper

structure RegisterRequest where
  serverID : ServerID
  host : String
  port : ℤ
  maxZones : ℤ
  advertiseAddr : String
  deriving DecidableEq, Repr

namespace RegisterRequest

/-- The descriptor the room service registers. Its status is the zero value. -/
def descriptor (req : RegisterRequest) : NodeDescriptor where
  nodeID := req.serverID
  advertiseAddr := req.advertiseAddr
  host := req.host
  port := req.port
  capacity := ⟨req.maxZones⟩
  load := .zero
  status := .joining

def hostPort (req : RegisterRequest) : String := req.host ++ ":" ++ toString req.port

/-- The node advertises nothing, or what the legacy pair says. -/
def AdvertisesPair (req : RegisterRequest) : Prop :=
  req.advertiseAddr = "" ∨ req.advertiseAddr = req.hostPort

instance (req : RegisterRequest) : Decidable req.AdvertisesPair :=
  inferInstanceAs (Decidable (_ ∨ _))

theorem hostPort_eq_address_iff (req : RegisterRequest) :
    req.hostPort = req.descriptor.address ↔ req.AdvertisesPair := by
  have haddress : req.descriptor.address =
      if req.advertiseAddr ≠ "" then req.advertiseAddr else req.hostPort := rfl
  rw [haddress, AdvertisesPair]
  by_cases h : req.advertiseAddr = ""
  · rw [if_neg (not_not_intro h)]
    exact iff_of_true rfl (.inl h)
  · rw [if_pos h, or_iff_right h]
    exact eq_comm

end RegisterRequest

/-- The acknowledgement of a registration. The error is dropped. -/
def RoomServiceServer.register (req : RegisterRequest) : Tx Bool := do
  match ← ServerRepository.register req.descriptor with
  | .error _ => return false
  | .ok () => return true

/-! ## The pair in the table -/

/-- The row of the node has the host and the port it registered with. -/
def Database.Located (req : RegisterRequest) (db : Database) : Prop :=
  ∃ row, db.servers.get req.serverID = some row ∧ row.host = req.host ∧ row.port = req.port

/-- The statement does not register the server. -/
def Stmt.Spares (id : ServerID) : Stmt → Prop
  | .upsertServer s .. => s ≠ id
  | _ => True

/-- The rows that are read give the pair the node registered with. -/
def Truthful (req : RegisterRequest) : (op : Stmt) → op.Reply → Prop
  | .selectServer _, r => ∀ row, r = .ok row → row.1 = req.serverID →
      row.2.host = req.host ∧ row.2.port = req.port
  | .activeServers, r => ∀ rows, r = .ok rows → ∀ row ∈ rows, row.1 = req.serverID →
      row.2.host = req.host ∧ row.2.port = req.port
  | _, _ => True

section Rows

variable {req : RegisterRequest} {db : Database}

theorem Database.Located.setServer_of_ne (h : db.Located req) {id : ServerID}
    (hid : id ≠ req.serverID) (row : ServerRow) : (db.setServer id row).Located req := by
  obtain ⟨old, hold, hpair⟩ := h
  exact ⟨old, by simp [hid.symm, hold], hpair⟩

/-- A row that keeps its host and its port. -/
theorem Database.Located.setServer_of_get (h : db.Located req) {id : ServerID} {old : ServerRow}
    (hold : db.servers.get id = some old) (status : ServerStatus) (beat : Time) :
    (db.setServer id { old with status := status, lastHeartbeat := beat }).Located req := by
  by_cases hid : id = req.serverID
  · subst hid
    obtain ⟨row, hrow, hpair⟩ := h
    obtain rfl := Option.some.inj (hrow.symm.trans hold)
    exact ⟨{ row with status := status, lastHeartbeat := beat }, by simp, hpair⟩
  · exact h.setServer_of_ne hid _

/-- Only a registration of the node moves it. -/
theorem Database.Located.exec (h : db.Located req) (c : Choice) {op : Stmt}
    (hop : op.Spares req.serverID) : (db.exec c op).2.Located req := by
  have hwrite : ∀ result, (∀ n db', result = some (n, db') → db'.Located req) →
      (c.write db result).2.Located req := by
    intro result hresult
    obtain hsame | ⟨n, heq⟩ := Choice.write_snd c db result
    · rwa [hsame]
    · exact hresult n _ heq
  cases op with
  | claimZone z s =>
    obtain hsame | ⟨_, -, hset⟩ := db.exec_claimZone_snd c z s
    · rwa [hsame]
    · rw [hset]
      exact h
  | releaseZone z s =>
    obtain ⟨hsame, -⟩ | ⟨-, hset⟩ := db.exec_releaseZone_snd c z s
    · rwa [hsame]
    · rw [hset]
      exact h
  | upsertServer id host port status maxZones =>
    refine hwrite _ fun n db' heq => ?_
    unfold Database.upsertServer at heq
    split at heq
    · rw [← (Prod.mk.inj (Option.some.inj heq)).2]
      exact h.setServer_of_ne hop _
    · rw [← (Prod.mk.inj (Option.some.inj heq)).2]
      exact h.setServer_of_ne hop _
  | heartbeat id =>
    refine hwrite _ fun n db' heq => ?_
    unfold Database.heartbeat at heq
    split at heq
    · rwa [← (Prod.mk.inj (Option.some.inj heq)).2]
    · next old hold =>
      rw [← (Prod.mk.inj (Option.some.inj heq)).2]
      exact h.setServer_of_get hold _ _
  | markShutdown id =>
    refine hwrite _ fun n db' heq => ?_
    unfold Database.markShutdown at heq
    split at heq
    · rwa [← (Prod.mk.inj (Option.some.inj heq)).2]
    · next old hold =>
      rw [← (Prod.mk.inj (Option.some.inj heq)).2]
      exact h.setServer_of_get hold _ _
  | _ => exact h

theorem Database.Located.truthful (h : db.Located req) (c : Choice) (op : Stmt) :
    Truthful req op (db.exec c op).1 := by
  obtain ⟨old, hold, hpair⟩ := h
  cases op with
  | selectServer s =>
    intro row hrow hid
    obtain ⟨r, hr, rfl⟩ := get_of_selectServer hrow
    obtain rfl : s = req.serverID := hid
    obtain rfl := Option.some.inj (hold.symm.trans hr)
    exact hpair
  | activeServers =>
    rintro rows hrows ⟨s, r⟩ hrow hid
    obtain ⟨hr, -⟩ := Database.mem_activeServers.mp (Choice.mem_of_readRows hrows hrow)
    obtain rfl : s = req.serverID := hid
    obtain rfl := Option.some.inj (hold.symm.trans hr)
    exact hpair
  | _ => trivial

/-- The pair is written into the row, new or known. -/
theorem located_of_upsertServer {n : ℕ} {db' : Database} {row : ServerRow}
    (hrow : row.host = req.host ∧ row.port = req.port)
    (h : db.upsertServer req.serverID row = some (n, db')) : db'.Located req := by
  unfold Database.upsertServer at h
  split at h
  · rw [← (Prod.mk.inj (Option.some.inj h)).2]
    exact ⟨row, by simp, hrow⟩
  · next old hold =>
    rw [← (Prod.mk.inj (Option.some.inj h)).2]
    exact ⟨{ old with host := row.host, port := row.port, maxZones := row.maxZones },
      by simp, hrow⟩

/-- An acknowledged registration has taken place. -/
theorem located_of_register {cs : ℕ → Choice}
    (h : (run Database.exec (RoomServiceServer.register req) db cs).1 = true) :
    (run Database.exec (RoomServiceServer.register req) db cs).2.Located req := by
  let op := Stmt.upsertServer req.serverID req.host req.port .joining req.maxZones
  have hrun : ∀ reply, (db.exec (cs 0) op).1 = reply →
      run Database.exec (RoomServiceServer.register req) db cs =
        (match reply with | .error _ => false | .ok _ => true, (db.exec (cs 0) op).2) := by
    intro reply hreply
    simp only [RoomServiceServer.register, ServerRepository.register, query, run_bind, run]
    rw [show (db.exec (cs 0) (.upsertServer req.descriptor.nodeID req.descriptor.host
      req.descriptor.port req.descriptor.status req.descriptor.capacity.maxZones)).1 = reply
      from hreply]
    cases reply <;> rfl
  rcases hreply : (db.exec (cs 0) op).1 with err | n
  · rw [hrun _ hreply] at h
    cases h
  · rw [hrun _ hreply]
    exact located_of_upsertServer ⟨rfl, rfl⟩ (Choice.write_eq_ok hreply)

end Rows

/-! ## What is answered from such rows -/

/-- Where the response, or a change that is broadcast, names the node, it gives the pair
the node registered with. -/
def Answer.GivesPair (req : RegisterRequest) : Answer → Prop
  | .route (.ok resp) => resp.server = req.serverID → resp.advertiseAddr = req.hostPort
  | .swept changes => ∀ change ∈ changes, change.serverID = req.serverID →
      change.host = req.host ∧ change.port = req.port
  | _ => True

section Calls

variable (req : RegisterRequest)

theorem claim_spares (z : String) (r : RuntimeID) (s : ServerID) :
    (ZoneRepository.claim z r s).Only (Stmt.Spares req.serverID) := by
  refine ⟨trivial, fun reply => ?_⟩
  rcases reply with err | (_ | n)
  · trivial
  · exact ⟨trivial, fun _ => trivial⟩
  · trivial

theorem release_spares (z : String) (s : ServerID) :
    (ZoneRepository.release z s).Only (Stmt.Spares req.serverID) := by
  refine ⟨trivial, fun reply => ?_⟩
  rcases reply with err | (_ | n)
  · trivial
  · exact ⟨trivial, fun _ => trivial⟩
  · trivial

/-- What is assigned is a row that was read. -/
theorem assign_guarantees {α : Type} {Q : α → Prop} (z : String) {unserved : α}
    {refused : StoreError → α} {assigned : NodeDescriptor → α} (hunserved : Q unserved)
    (hrefused : ∀ err, Q (refused err))
    (hassigned : ∀ row : ServerID × ServerRow, (row.1 = req.serverID →
      row.2.host = req.host ∧ row.2.port = req.port) → Q (assigned (scanServer row))) :
    (assign z unserved refused assigned).Guarantees (Truthful req)
      (Stmt.Spares req.serverID) Q := by
  rw [assign_eq]
  refine ⟨trivial, fun reply htrue => ?_⟩
  rcases reply with err | (_ | ⟨row, rows⟩)
  · exact hunserved
  · exact hunserved
  · refine (claim_spares req z "" row.1).guarantees.bind fun claimed _ => ?_
    rcases claimed with err | _
    · exact hrefused err
    · exact hassigned row (htrue _ rfl row List.mem_cons_self)

theorem address_scanServer {row : ServerID × ServerRow}
    (hpair : row.1 = req.serverID → row.2.host = req.host ∧ row.2.port = req.port)
    (hid : row.1 = req.serverID) : (scanServer row).address = req.hostPort := by
  obtain ⟨hhost, hport⟩ := hpair hid
  simp [NodeDescriptor.address, scanServer, RegisterRequest.hostPort, hhost, hport]

theorem lookupZone_guarantees (z : String) :
    (RoomCall.lookupZone z).prog.Guarantees (Truthful req) (Stmt.Spares req.serverID)
      (Answer.GivesPair req) := by
  have hallocate : (do return Answer.route (← allocate z) : Tx Answer).Guarantees (Truthful req)
      (Stmt.Spares req.serverID) (Answer.GivesPair req) := by
    rw [allocate_eq_assign]
    exact Guarantees.bind (assign_guarantees req z (Q := fun r => (Answer.route r).GivesPair req)
      trivial (fun _ => trivial) fun row hpair => address_scanServer req hpair) fun _ h => h
  rw [prog_lookupZone]
  refine ⟨trivial, fun reply _ => ?_⟩
  dsimp only
  generalize ZoneRepository.lookupReply z reply = found
  cases found with
  | error err => exact hallocate
  | ok o =>
    refine ⟨trivial, fun reply htrue => ?_⟩
    rcases reply with (_ | _) | row
    · exact hallocate
    · exact hallocate
    · exact address_scanServer req (htrue row rfl)

/-- A change is broadcast with the pair of the row that was read. -/
theorem sweep_guarantees (cfg : SweeperConfig) :
    (sweep cfg).Guarantees (Truthful req) (Stmt.Spares req.serverID) fun changes =>
      ∀ change ∈ changes, change.serverID = req.serverID →
        change.host = req.host ∧ change.port = req.port := by
  have hnone : ∀ change ∈ ([] : List OwnershipChange), change.serverID = req.serverID →
      change.host = req.host ∧ change.port = req.port :=
    fun _ h => absurd h List.not_mem_nil
  rw [sweep_eq]
  refine ⟨trivial, fun reply _ => ?_⟩
  cases reply with
  | error err => exact hnone
  | ok dead =>
    refine Guarantees.collect (fun d => ?_) dead
    rw [sweepServer_eq]
    refine ⟨trivial, fun reply _ => ?_⟩
    cases reply with
    | error err => exact hnone
    | ok n =>
      dsimp only
      rw [reassignZonesFor_eq]
      refine ⟨trivial, fun reply _ => ?_⟩
      cases reply with
      | error err => exact hnone
      | ok zs =>
        refine Guarantees.collect (fun z => ?_) zs
        rw [reassignZone_eq_assign]
        refine (release_spares req z d).guarantees.bind fun released _ => ?_
        cases released with
        | error err => exact hnone
        | ok u =>
          refine assign_guarantees req z hnone (fun _ => hnone) fun row hpair change hchange => ?_
          obtain rfl := List.mem_singleton.mp hchange
          exact hpair

/-- Every call, a registration of the node apart. -/
theorem call_guarantees {call : RoomCall}
    (hcall : ∀ info, call = .register info → info.nodeID ≠ req.serverID) :
    call.prog.Guarantees (Truthful req) (Stmt.Spares req.serverID) (Answer.GivesPair req) := by
  cases call with
  | claim z r s => exact (claim_spares req z r s).guarantees.bind fun _ _ => trivial
  | release z s => exact (release_spares req z s).guarantees.bind fun _ _ => trivial
  | lookup z => exact ⟨trivial, fun _ _ => trivial⟩
  | register info =>
    refine ⟨hcall info rfl, fun reply _ => ?_⟩
    cases reply <;> trivial
  | heartbeat id load =>
    refine ⟨trivial, fun reply _ => ?_⟩
    rcases reply with err | (_ | n) <;> trivial
  | lookupZone z => exact lookupZone_guarantees req z
  | sweep cfg => exact (sweep_guarantees req _).bind fun _ h => h

end Calls

/-- After a node has registered, the calls that follow, interleaved in any way and
with any failures, name it only with the pair it registered with. -/
theorem answers_give_pair {db₀ : Database} {cs : ℕ → Choice} {req : RegisterRequest}
    (hreg : (run Database.exec (RoomServiceServer.register req) db₀ cs).1 = true)
    {calls : ℕ → RoomCall}
    (hcalls : ∀ i info, calls i = .register info → info.nodeID ≠ req.serverID)
    {evs : List (ℕ × Choice)} {i : ℕ} {a : Answer}
    (h : (exec Room.step (.start (run Database.exec (RoomServiceServer.register req) db₀ cs).2
      calls) evs).answer i = some a) : a.GivesPair req := by
  have hrun := Pool.guarantees_exec (I := Database.Located req) (p := Room.start _ calls)
    (fun db c op hdb => ⟨hdb.truthful c op, hdb.exec c⟩) (located_of_register hreg)
    (fun i => call_guarantees req (hcalls i)) evs
  have hthread := hrun.2 i
  rw [result_eq_some.mp h] at hthread
  exact hthread

/-- After a node has registered, an answer of a lookup that names it, with the owner
found or newly allocated, carries its address exactly if it advertised none or the
pair; and so does the pair that a sweep broadcasts. -/
theorem routed_address_iff (db₀ : Database) (cs : ℕ → Choice) (req : RegisterRequest)
    (hreg : (run Database.exec (RoomServiceServer.register req) db₀ cs).1 = true)
    (calls : ℕ → RoomCall)
    (hcalls : ∀ i info, calls i = .register info → info.nodeID ≠ req.serverID)
    (evs : List (ℕ × Choice)) (i : ℕ) (a : Answer)
    (hanswer : (exec Room.step (.start (run Database.exec (RoomServiceServer.register req) db₀
      cs).2 calls) evs).answer i = some a) :
    (∀ resp, a = .route (.ok resp) → resp.server = req.serverID →
      (resp.advertiseAddr = req.descriptor.address ↔ req.AdvertisesPair)) ∧
    ∀ changes, a = .swept changes → ∀ change ∈ changes, change.serverID = req.serverID →
      (change.host ++ ":" ++ toString change.port = req.descriptor.address ↔
        req.AdvertisesPair) := by
  have hpair := answers_give_pair hreg hcalls hanswer
  constructor
  · rintro resp rfl hid
    rw [hpair hid]
    exact req.hostPort_eq_address_iff
  · rintro changes rfl change hchange hid
    obtain ⟨hhost, hport⟩ := hpair change hchange hid
    rw [hhost, hport]
    exact req.hostPort_eq_address_iff

/-- A known server that registers again with the pair as its address. -/
theorem routed_address_of_pair :
    let db₀ := Database.pair ⟨"h", 1, .active, 10, 0⟩ ⟨"h", 2, .shutdown, 10, 0⟩
      ⟨.active, some "a"⟩ (by simp)
    let c := Choice.clean [] 0
    let req : RegisterRequest := ⟨"a", "h", 9, 10, "h:9"⟩
    (exec Room.step (.start (run Database.exec (RoomServiceServer.register req) db₀ fun _ => c).2
      fun _ => .lookupZone "z") [(0, c), (0, c)]).answer 0 = some (.route (.ok ⟨"a", "h:9"⟩)) ∧
      ("h:9" = req.descriptor.address ↔ req.AdvertisesPair) := by
  intro db₀ c req
  have hanswer : (exec Room.step (.start (run Database.exec (RoomServiceServer.register req) db₀
      fun _ => c).2 fun _ => .lookupZone "z") [(0, c), (0, c)]).answer 0 =
        some (.route (.ok ⟨"a", "h:9"⟩)) := by decide +kernel
  exact ⟨hanswer, (routed_address_iff db₀ (fun _ => c) req (by decide +kernel) _
    (fun _ _ h => by cases h) _ 0 _ hanswer).1 _ rfl rfl⟩

/-- The node advertises an address of its own and is active. The lookup that allocates
it and the lookup that finds it as the owner both give the legacy pair. -/
theorem advertised_address_not_routed :
    let db₀ := Database.pair ⟨"h", 1, .shutdown, 10, 0⟩ ⟨"h", 2, .shutdown, 10, 0⟩
      ⟨.unowned, none⟩ (by simp)
    let c := Choice.clean [] 0
    let req : RegisterRequest := ⟨"n", "h", 9, 10, "10.0.0.1:9000"⟩
    let calls : ℕ → RoomCall := fun i => if i = 0 then .heartbeat "n" .zero else .lookupZone "z"
    let room := exec Room.step (.start (run Database.exec (RoomServiceServer.register req) db₀
      fun _ => c).2 calls) [(0, c), (1, c), (1, c), (1, c), (2, c), (2, c)]
    req.descriptor.address = "10.0.0.1:9000" ∧
      room.answer 1 = some (.route (.ok ⟨"n", "h:9"⟩)) ∧
      room.answer 2 = some (.route (.ok ⟨"n", "h:9"⟩)) := by
  decide +kernel

end SpatialServer

import SpatialServer.RoomService

/-!
# Sweeps that fail halfway

A sweep finds dead servers by their active status and shuts them down before it
moves their zones. What it leaves behind on a server that is already shut down
it never finds again. So nothing may go wrong between the mark and the release
of the zones: an unacknowledged mark, a query for the zones that fails or breaks
off, a release that is not carried out. Every other failure leaves a zone
without owner at worst.
-/
namespace SpatialServer

open Runs Statements Statements.Prog ServerRepository RoomServiceServer ProductionSweeper

/-- The zone belongs to a server that is shut down. -/
def Database.Stranded (db : Database) (z : String) : Prop :=
  ∃ s row, db.owner z = some s ∧ db.servers.get s = some row ∧ row.status = .shutdown

/-- The failures after which no zone stays behind: a mark is acknowledged if it
is carried out, the zones of a server are all read, a release is carried out. -/
def Recovers (db : Database) : Stmt → Choice → Prop
  | .markShutdown s, c => c.outcome = .lost → ∀ z, db.owner z ≠ some s
  | .zonesOf s, c => ∀ z, db.owner z = some s →
      ∃ zs, c.readRows (db.zonesOf c.order s) = .ok zs ∧ z ∈ zs
  | .releaseZone z s, c => c.outcome = .failed → db.owner z ≠ some s
  | _, _ => True

theorem recovers_of_clean {c : Choice} (hc : c.Clean) (db : Database) (op : Stmt) :
    Recovers db op c := by
  cases op with
  | markShutdown s => simp [Recovers, hc.1]
  | zonesOf s =>
    exact fun z hz => ⟨_, Choice.readRows_of_clean hc _, Database.mem_zonesOf.mpr hz⟩
  | releaseZone z s => simp [Recovers, hc.1]
  | _ => trivial

/-- Only zones of `d` that are still on the list may be stranded. -/
def Recovering (d : ServerID) (zs : List String) (db : Database) : Prop :=
  ∀ z, db.Stranded z → db.owner z = some d ∧ z ∈ zs

def Attended (db : Database) : Prop := ∀ z, ¬ db.Stranded z

theorem Attended.recovering {db : Database} (h : Attended db) (d : ServerID) (zs : List String) :
    Recovering d zs db := fun z hz => absurd hz (h z)

theorem Recovering.attended {d : ServerID} {db : Database} (h : Recovering d [] db) :
    Attended db := fun z hz => by simpa using (h z hz).2

section Steps

variable {db db' : Database} {d : ServerID} {zs : List String}

/-- A zone that changes hands goes to an active server. -/
theorem Recovering.assign (h : Recovering d zs db) {z : String} {t : ServerID} (ht : db.Active t)
    (hfk : ∀ s ∈ (ZoneRow.mk .active (some t)).serverID, (db.servers.get s).isSome) :
    Recovering d zs (db.setZone z ⟨.active, some t⟩ hfk) := by
  rintro z' ⟨s, row, hs, hrow, hdown⟩
  rw [Database.owner_setZone] at hs ⊢
  split_ifs at hs ⊢ with hz
  · obtain ⟨trow, htrow, hactive⟩ := ht
    cases hs
    rw [Database.servers_setZone, htrow] at hrow
    cases hrow
    rw [hactive] at hdown
    cases hdown
  · exact h z' ⟨s, row, hs, hrow, hdown⟩

theorem Recovering.claim (h : Recovering d zs db) {t : ServerID} (ht : db.Active t) (z : String)
    (r : RuntimeID) :
    wp Database.exec Recovers (ZoneRepository.claim z r t) (fun _ db' => Recovering d zs db') db := by
  intro c _
  have hclaimed : Recovering d zs (db.exec c (.claimZone z t)).2 := by
    obtain hsame | ⟨hfk, -, hset⟩ := db.exec_claimZone_snd c z t
    · exact hsame.symm ▸ h
    · exact hset ▸ h.assign ht hfk
  cases (db.exec c (.claimZone z t)).1 with
  | error err => exact hclaimed
  | ok n =>
    cases n with
    | zero => exact fun _ _ => hclaimed
    | succ n => exact hclaimed

/-- A release that is carried out takes the zone off the list. -/
theorem Recovering.release {z : String} (h : Recovering d (z :: zs) db) :
    wp Database.exec Recovers (ZoneRepository.release z d)
      (fun _ db' => Recovering d zs db') db := by
  intro c hc
  have hreleased : Recovering d zs (db.exec c (.releaseZone z d)).2 := by
    obtain ⟨hsame, hkept⟩ | ⟨-, hset⟩ := db.exec_releaseZone_snd c z d
    · have hother : db.owner z ≠ some d := hkept.elim hc id
      rw [hsame]
      intro z' hz'
      obtain ⟨howner, hmem⟩ := h z' hz'
      exact ⟨howner, (List.mem_cons.mp hmem).resolve_left fun hz => hother (hz ▸ howner)⟩
    · rw [hset]
      rintro z' ⟨s, row, hs, hrow, hdown⟩
      rw [Database.owner_setZone] at hs ⊢
      split_ifs at hs ⊢ with hz
      obtain ⟨howner, hmem⟩ := h z' ⟨s, row, hs, hrow, hdown⟩
      exact ⟨howner, (List.mem_cons.mp hmem).resolve_left hz⟩
  cases (db.exec c (.releaseZone z d)).1 with
  | error err => exact hreleased
  | ok n =>
    cases n with
    | zero => exact fun _ _ => hreleased
    | succ n => exact hreleased

/-- A listed server is active, however little of the list was read. -/
theorem wp_list_active {Q : Except StoreError (List NodeDescriptor) → Database → Prop}
    (herr : ∀ err, Q (.error err) db)
    (hok : ∀ rows : List (ServerID × ServerRow), (∀ row ∈ rows, db.Active row.1) →
      Q (.ok (rows.map scanServer)) db) :
    wp Database.exec Recovers ServerRepository.list Q db := by
  intro c _
  cases hreply : (db.exec c .activeServers).1 with
  | error err => exact herr _
  | ok rows =>
    have hread : c.readRows (db.activeServers c.order) = .ok rows := hreply
    refine hok rows fun row hrow => ?_
    have hmem := Database.mem_activeServers.mp (Choice.mem_of_readRows hread hrow)
    exact ⟨row.2, hmem⟩

theorem Recovering.reassignZone {z : String} (h : Recovering d (z :: zs) db) :
    wp Database.exec Recovers (reassignZone d z) (fun _ db' => Recovering d zs db') db := by
  unfold ProductionSweeper.reassignZone
  rw [wp_bind]
  refine wp_mono (fun a db₁ h₁ => ?_) h.release
  cases a with
  | error err => exact h₁
  | ok u =>
    rw [wp_bind]
    refine wp_list_active (fun _ => h₁) fun rows hrows => ?_
    dsimp only
    split_ifs
    · exact h₁
    · split
      · exact h₁
      · next target hselect =>
        obtain ⟨row, hrow, rfl⟩ := select_scanned hselect
        rw [wp_bind]
        refine wp_mono (fun a db₂ h₂ => ?_) (h₁.claim (hrows row hrow) z "")
        cases a <;> exact h₂

/-- All zones of the server are read, so none is stranded at the end. -/
theorem wp_reassignZonesFor (h : ∀ z, db.Stranded z → db.owner z = some d) :
    wp Database.exec Recovers (reassignZonesFor d) (fun _ db' => Attended db') db := by
  intro c hc
  cases hreply : (db.exec c (.zonesOf d)).1 with
  | error err =>
    have hread : c.readRows (db.zonesOf c.order d) = .error err := hreply
    intro z hz
    obtain ⟨zs, hzs, -⟩ := hc z (h z hz)
    rw [hread] at hzs
    cases hzs
  | ok zs =>
    have hread : c.readRows (db.zonesOf c.order d) = .ok zs := hreply
    have hlist : Recovering d zs db := by
      intro z hz
      obtain ⟨zs', hzs, hmem⟩ := hc z (h z hz)
      rw [hread] at hzs
      cases hzs
      exact ⟨h z hz, hmem⟩
    exact wp_mono (fun _ _ h' => h'.attended)
      (wp_collect (I := Recovering d) (fun _ _ _ h' => h'.reassignZone) zs db hlist)

theorem Attended.sweepServer (h : Attended db) (d : ServerID) :
    wp Database.exec Recovers (sweepServer d) (fun _ db' => Attended db') db := by
  intro c hc
  obtain ⟨n, db', hmark, hzones, hothers⟩ := db.markShutdown_cases d
  -- only zones of the marked server can have become stranded
  have hnew : ∀ z, db'.Stranded z → db'.owner z = some d := by
    rintro z ⟨s, row, hs, hrow, hdown⟩
    by_contra hne
    have hsd : s ≠ d := fun hsd => hne (hsd ▸ hs)
    rw [hothers s hsd] at hrow
    rw [Database.owner, hzones] at hs
    exact h z ⟨s, row, hs, hrow, hdown⟩
  have hexec : db.exec c (.markShutdown d) = c.write db (some (n, db')) := by
    rw [← hmark]
    rfl
  rw [hexec]
  cases hout : c.outcome with
  | done =>
    rw [show c.write db (some (n, db')) = (.ok n, db') by simp [Choice.write, hout]]
    exact wp_reassignZonesFor hnew
  | failed =>
    rw [show c.write db (some (n, db')) = (.error c.error, db) by simp [Choice.write, hout]]
    exact h
  | lost =>
    rw [show c.write db (some (n, db')) = (.error c.error, db') by simp [Choice.write, hout]]
    intro z hz
    have howner := hnew z hz
    rw [Database.owner, hzones] at howner
    exact hc hout z howner

theorem Attended.sweep (h : Attended db) (cfg : SweeperConfig) :
    wp Database.exec Recovers (sweep cfg) (fun _ db' => Attended db') db := by
  intro c _
  cases (db.exec c (.deadServers (cfg.missThreshold.tdiv second))).1 with
  | error err => exact h
  | ok dead =>
    exact wp_collect (I := fun _ db => Attended db) (fun d _ _ h' => h'.sweepServer d) dead db h

theorem Attended.allocate (h : Attended db) (z : String) :
    wp Database.exec Recovers (allocate z) (fun _ db' => Attended db') db := by
  unfold RoomServiceServer.allocate
  rw [wp_bind]
  refine wp_list_active (fun _ => h) fun rows hrows => ?_
  dsimp only
  split_ifs
  · exact h
  · split
    · exact h
    · next server hselect =>
      obtain ⟨row, hrow, rfl⟩ := select_scanned hselect
      rw [wp_bind]
      refine wp_mono (fun a db₁ h₁ => ?_) ((h.recovering "" []).claim (hrows row hrow) z "")
      cases a <;> exact h₁.attended

theorem Attended.lookupZone (h : Attended db) (z : String) :
    wp Database.exec Recovers (lookupZone z) (fun _ db' => Attended db') db := by
  intro c _
  -- a query leaves the tables as they are
  change wp Database.exec Recovers _ _ db
  simp only [pure_eq, bind_done]
  cases ZoneRepository.lookupReply z (db.exec c (.selectOwner z)).1 with
  | error err => exact h.allocate z
  | ok o =>
    intro c' _
    cases (db.exec c' (.selectServer o)).1 with
    | ok row => exact h
    | error e => cases e <;> exact h.allocate z

/-- A server row may change as long as no owner of a zone is shut down by it. -/
theorem Attended.setServer (h : Attended db) {s : ServerID} {row : ServerRow}
    (hrow : ∀ z, db.owner z = some s → row.status ≠ .shutdown) : Attended (db.setServer s row) := by
  rintro z ⟨t, trow, ht, hget, hdown⟩
  rw [Database.owner_setServer] at ht
  rw [Database.servers_setServer, Dict.get_set] at hget
  split_ifs at hget with hts
  · cases hget
    exact hrow z (hts ▸ ht) hdown
  · exact h z ⟨t, trow, ht, hget, hdown⟩

/-- What is neither a claim nor a mark leaves no zone behind. -/
theorem Attended.exec (h : Attended db) (c : Choice) {op : Stmt}
    (hclaim : ∀ z s, op ≠ .claimZone z s) (hmark : ∀ s, op ≠ .markShutdown s) :
    Attended (db.exec c op).2 := by
  obtain hsame | ⟨z, s, -, hop, -⟩ | ⟨z, s, -, hset⟩ | ⟨id, row, hset, hchange⟩ :=
    db.exec_cases c op
  · exact hsame.symm ▸ h
  · exact absurd hop (hclaim z s)
  · rw [hset]
    rintro z' ⟨t, trow, ht, hget, hdown⟩
    rw [Database.owner_setZone] at ht
    split_ifs at ht
    exact h z' ⟨t, trow, ht, hget, hdown⟩
  · rw [hset]
    refine h.setServer fun z hz hdown => ?_
    obtain ⟨old, hold⟩ := Database.exists_server_of_owner hz
    obtain hkept | ⟨-, hactive⟩ | hop := hchange.status old hold
    · exact h z ⟨id, old, hz, hold, hkept ▸ hdown⟩
    · rw [hactive] at hdown
      cases hdown
    · exact hmark id hop

theorem Attended.heartbeat (h : Attended db) (id : ServerID) (load : NodeLoad) :
    wp Database.exec Recovers (ServerRepository.heartbeat id load)
      (fun _ db' => Attended db') db := by
  intro c _
  have hbeat : Attended (db.exec c (.heartbeat id)).2 := h.exec c (by simp) (by simp)
  cases (db.exec c (.heartbeat id)).1 with
  | error err => exact hbeat
  | ok n => cases n <;> exact hbeat

theorem Attended.register (h : Attended db) (info : NodeDescriptor) :
    wp Database.exec Recovers (ServerRepository.register info) (fun _ db' => Attended db') db := by
  intro c _
  have hjoin : Attended (db.exec c (.upsertServer info.nodeID info.host info.port info.status
      info.capacity.maxZones)).2 := h.exec c (by simp) (by simp)
  cases (db.exec c (.upsertServer info.nodeID info.host info.port info.status
      info.capacity.maxZones)).1 with
  | error err => exact hjoin
  | ok n => exact hjoin

/-- Every call keeps zones away from servers that are shut down, but a bare
claim, which gives a zone to whatever server it names. -/
theorem Attended.call (h : Attended db) {call : RoomCall} (hcall : ∀ z r s, call ≠ .claim z r s) :
    wp Database.exec Recovers call.prog (fun _ db' => Attended db') db := by
  cases call with
  | claim z r s => exact absurd rfl (hcall z r s)
  | release z s =>
    have hreleased := (h.recovering s [z]).release
    exact (wp_bind _ _ _ _).mpr (wp_mono (fun _ _ h' => Recovering.attended h') hreleased)
  | lookup z => exact fun _ _ => h
  | register info => exact (wp_bind _ _ _ _).mpr (h.register info)
  | heartbeat id load => exact (wp_bind _ _ _ _).mpr (h.heartbeat id load)
  | lookupZone z => exact (wp_bind _ _ _ _).mpr (h.lookupZone z)
  | sweep cfg => exact (wp_bind _ _ _ _).mpr (h.sweep (ProductionSweeper.new cfg))

end Steps

/-- A call runs on its own from its first statement to its last. -/
def Database.serve (db : Database) (x : RoomCall × (ℕ → Choice)) : Database :=
  (run Database.exec x.1.prog db x.2).2

/-- The call is no bare claim, and nothing goes wrong between the mark of a server
and the release of its zones. -/
def Recoverable (db : Database) (x : RoomCall × (ℕ → Choice)) : Prop :=
  (∀ z r s, x.1 ≠ .claim z r s) ∧ Allowed Database.exec Recovers x.1.prog db x.2

/-- However often other statements fail, no zone is left with a server that is
shut down. -/
theorem no_zone_stranded (db₀ : Database) (h₀ : Attended db₀)
    (calls : List (RoomCall × (ℕ → Choice))) (h : Along Database.serve Recoverable db₀ calls) :
    Attended (exec Database.serve db₀ calls) :=
  exec_invariant Attended (fun _ _ hdb hx => wp_run (hdb.call hx.1) hx.2) h₀ h

/-- A sweep that cannot even list the dead servers, and the next one. -/
theorem no_zone_stranded_retried :
    let db₀ := Database.pair ⟨"h", 1, .active, 10, 0⟩ ⟨"h", 2, .active, 10, 20 * second⟩
      ⟨.active, some "a"⟩ (by simp)
    let cfg : SweeperConfig := ⟨5 * second, 15 * second⟩
    let down : ℕ → Choice := fun _ => ⟨.failed, "connection lost", none, [], 20 * second⟩
    let db := exec Database.serve db₀
      [(.sweep cfg, down), (.sweep cfg, fun _ => .clean [] (25 * second))]
    Attended db ∧ db.owner "z" = some "b" := by
  intro db₀ cfg down db
  have h₀ : Attended db₀ := by
    rintro z ⟨s, row, -, hrow, hdown⟩
    simp only [db₀, Database.pair, Dict.get_set, Dict.get_empty] at hrow
    split_ifs at hrow
    · cases hrow; cases hdown
    · cases hrow; cases hdown
  refine ⟨no_zone_stranded db₀ h₀ _ ⟨⟨by simp, trivial, trivial⟩, ⟨by simp, ?_⟩, trivial⟩, ?_⟩
  · exact allowed_of_forall fun db op _ => recovers_of_clean ⟨rfl, rfl⟩ db op
  · decide +kernel

/-- The query for the zones of a dead server fails after the server is marked. The
next sweep goes well, another server is active, and the zone is still with the
server that is shut down. -/
theorem zone_stranded_by_failed_query :
    let db₀ := Database.pair ⟨"h", 1, .active, 10, 0⟩ ⟨"h", 2, .active, 10, 20 * second⟩
      ⟨.active, some "a"⟩ (by simp)
    let cfg : SweeperConfig := ⟨5 * second, 15 * second⟩
    let broken : ℕ → Choice := fun n =>
      if n = 2 then ⟨.failed, "connection lost", none, [], 20 * second⟩
      else .clean [] (20 * second)
    let db := exec Database.serve db₀
      [(.sweep cfg, broken), (.sweep cfg, fun _ => .clean [] (25 * second))]
    db.owner "z" = some "a" ∧
      (db.servers.get "a").map ServerRow.status = some .shutdown ∧
      (db.servers.get "b").map ServerRow.status = some .active := by
  decide +kernel

end SpatialServer

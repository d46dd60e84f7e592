import SpatialServer.Sweeping

/-!
# Giving a zone to a server

A lookup that finds no owner and a sweep that has released a zone do the same:
they list the active servers, let the allocator choose and claim the zone for
its choice. Only the answers differ. Rows carry no load, so that the allocator
sees equal scores everywhere and keeps the first row it is shown.
-/
namespace SpatialServer

open Statements Statements.Prog ServerRepository RoomServiceServer ProductionSweeper

/-- List, choose and claim, with the answers of the caller. -/
def assign {α : Type} (zoneID : String) (unserved : α) (refused : StoreError → α)
    (assigned : NodeDescriptor → α) : Tx α := do
  match ← ServerRepository.list with
  | .error _ => return unserved
  | .ok nodes =>
    if nodes = [] then return unserved
    else match LeastLoadedAllocator.select (nodes.map some) with
      | .error _ => return unserved
      | .ok target =>
        match ← ZoneRepository.claim zoneID "" target.nodeID with
        | .error err => return refused err
        | .ok () => return assigned target

theorem allocate_eq_assign (zoneID : String) :
    allocate zoneID = assign zoneID (.error (noServers zoneID))
      (fun err => .error (claimFailed zoneID err)) (fun server => .ok (.of server)) := rfl

theorem reassignZone_eq_assign (dead : ServerID) (zoneID : String) :
    reassignZone dead zoneID = ZoneRepository.release zoneID dead >>= fun
      | .error _ => .done []
      | .ok _ => assign zoneID [] (fun _ => [])
          (fun target => [⟨zoneID, target.nodeID, target.host, target.port⟩]) := by
  refine congrArg (Prog.bind _) (funext fun reply => ?_)
  cases reply <;> rfl

/-- Among nodes without load the first one is selected. -/
theorem select_scanned_cons (row : ServerID × ServerRow) (rows : List (ServerID × ServerRow)) :
    LeastLoadedAllocator.select (((row :: rows).map scanServer).map some) =
      .ok (scanServer row) := by
  have hkeep : ∀ rows : List (ServerID × ServerRow),
      ((rows.map scanServer).map some).foldl LeastLoadedAllocator.prefer (some (scanServer row)) =
        some (scanServer row) := by
    intro rows
    induction rows with
    | nil => rfl
    | cons other rows ih =>
      have hscore : (scanServer other).loadScore = (scanServer row).loadScore := rfl
      simp only [List.map_cons, List.foldl_cons, LeastLoadedAllocator.prefer,
        canAccept_scanServer, Bool.true_eq_false, if_false, hscore, lt_irrefl]
      exact ih
  have hfirst : LeastLoadedAllocator.prefer none (some (scanServer row)) =
      some (scanServer row) := by simp [LeastLoadedAllocator.prefer]
  simp only [LeastLoadedAllocator.select, List.map_cons, List.foldl_cons, hfirst, hkeep]

/-- The statements of an assignment: the listing, and a claim for the first row
that was read, if there is one. -/
theorem assign_eq {α : Type} (zoneID : String) (unserved : α) (refused : StoreError → α)
    (assigned : NodeDescriptor → α) :
    assign zoneID unserved refused assigned = .step .activeServers fun
      | .error _ => .done unserved
      | .ok [] => .done unserved
      | .ok (row :: _) => do
        match ← ZoneRepository.claim zoneID "" row.1 with
        | .error err => return refused err
        | .ok () => return assigned (scanServer row) := by
  refine congrArg (Prog.step _) (funext fun reply => ?_)
  rcases reply with err | (_ | ⟨row, rows⟩)
  · rfl
  · rfl
  · have hselect := select_scanned_cons row rows
    simp only [pure_eq, bind_done]
    change (if (scanServer row :: rows.map scanServer) = [] then _ else _) = _
    rw [if_neg (List.cons_ne_nil _ _)]
    rw [hselect]
    rfl

/-! ## Conditions on the statements of an assignment -/

/-- The statements by which a zone gets an owner. -/
def Stmt.assigns : Stmt → Bool
  | .claimZone .. | .activeServers => true
  | _ => false

/-- The condition is about the statements of assignments only. -/
def OnAssigning (ok : Database → Stmt → Choice → Prop) : Prop :=
  ∀ db op c, op.assigns = false → ok db op c

section Conditions

variable {ok : Database → Stmt → Choice → Prop} {db : Database} {cs : ℕ → Choice}

theorem allowed_claim (hok : OnAssigning ok) (z : String) (r : RuntimeID) (s : ServerID) :
    Allowed Database.exec ok (ZoneRepository.claim z r s) db cs ↔ ok db (.claimZone z s) (cs 0) := by
  refine and_iff_left ?_
  rcases (db.exec (cs 0) (.claimZone z s)).1 with err | (_ | n)
  · trivial
  · exact ⟨hok _ _ _ rfl, trivial⟩
  · trivial

theorem allowed_release (hok : OnAssigning ok) (z : String) (s : ServerID) :
    Allowed Database.exec ok (ZoneRepository.release z s) db cs := by
  refine ⟨hok _ _ _ rfl, ?_⟩
  rcases (db.exec (cs 0) (.releaseZone z s)).1 with err | (_ | n)
  · trivial
  · exact ⟨hok _ _ _ rfl, trivial⟩
  · trivial

/-- An assignment meets a condition if its listing and its claim do. -/
theorem allowed_assign {α : Type} (hok : OnAssigning ok) (z : String) (unserved : α)
    (refused : StoreError → α) (assigned : NodeDescriptor → α) :
    Allowed Database.exec ok (assign z unserved refused assigned) db cs ↔
      ok db .activeServers (cs 0) ∧ ∀ row rows,
        (db.exec (cs 0) .activeServers).1 = .ok (row :: rows) → ok db (.claimZone z row.1) (cs 1) := by
  rw [assign_eq]
  refine and_congr_right fun _ => ?_
  have hread : (db.exec (cs 0) .activeServers).2 = db := rfl
  rw [hread]
  rcases hreply : (db.exec (cs 0) .activeServers).1 with err | (_ | ⟨row, rows⟩)
  · exact iff_of_true trivial fun _ _ h => by cases h
  · exact iff_of_true trivial fun _ _ h => by cases h
  · dsimp only
    rw [allowed_bind, allowed_claim hok]
    constructor
    · rintro ⟨hclaim, -⟩ row' rows' heq
      cases heq
      exact hclaim
    · intro h
      refine ⟨h row rows rfl, ?_⟩
      cases (run Database.exec (ZoneRepository.claim z "" row.1) db fun n => cs (n + 1)).1 <;> trivial

theorem releaseReply_ne_ok (z : String) (r : Except QueryError (Option ServerID)) (u : Unit) :
    ZoneRepository.releaseReply z r ≠ .ok u := by
  unfold ZoneRepository.releaseReply
  split <;> simp

/-- A zone whose release is acknowledged is there and has no owner. -/
theorem unowned_of_release {z : String} {s : ServerID} {u : Unit}
    (h : (run Database.exec (ZoneRepository.release z s) db cs).1 = .ok u) :
    ((run Database.exec (ZoneRepository.release z s) db cs).2.zones.get z).isSome ∧
      (run Database.exec (ZoneRepository.release z s) db cs).2.owner z = none := by
  have hrun : ∀ reply, (db.exec (cs 0) (.releaseZone z s)).1 = reply →
      run Database.exec (ZoneRepository.release z s) db cs =
        match reply with
        | .error err => (.error (.database ("release zone " ++ z ++ ": " ++ err)),
            (db.exec (cs 0) (.releaseZone z s)).2)
        | .ok 0 => (ZoneRepository.releaseReply z
            ((db.exec (cs 0) (.releaseZone z s)).2.exec (cs 1) (.selectOwner z)).1,
            (db.exec (cs 0) (.releaseZone z s)).2)
        | .ok (_ + 1) => (.ok (), (db.exec (cs 0) (.releaseZone z s)).2) := by
    intro reply hreply
    simp only [ZoneRepository.release, query, run_bind, run, hreply]
    rcases reply with err | (_ | n) <;> rfl
  rcases hreply : (db.exec (cs 0) (.releaseZone z s)).1 with err | (_ | n)
  · rw [hrun _ hreply] at h
    cases h
  · rw [hrun _ hreply] at h
    exact absurd h (releaseReply_ne_ok z _ u)
  · rw [hrun _ hreply]
    have hres : db.releaseZone z s = some (n + 1, (db.exec (cs 0) (.releaseZone z s)).2) :=
      Choice.write_eq_ok hreply
    unfold Database.releaseZone at hres
    split_ifs at hres with howner
    · rw [← (Prod.mk.inj (Option.some.inj hres)).2]
      simp
    · exact absurd (Prod.mk.inj (Option.some.inj hres)).1 (by omega)

end Conditions

/-! ## Two conditions on the assignments of a call -/

/-- Queries leave the tables as they are, so that a lookup comes to its
assignment, if it does, with the tables it found. -/
theorem allowed_lookupZone_congr {base A B : Database → Stmt → Choice → Prop} {z : String}
    {db : Database} (hA : OnAssigning A) (hB : OnAssigning B)
    (hagree : ∀ cs, Allowed Database.exec base (allocate z) db cs →
      (Allowed Database.exec A (allocate z) db cs ↔ Allowed Database.exec B (allocate z) db cs))
    {cs : ℕ → Choice} (h : Allowed Database.exec base (lookupZone z) db cs) :
    Allowed Database.exec A (lookupZone z) db cs ↔ Allowed Database.exec B (lookupZone z) db cs := by
  refine and_congr (iff_of_true (hA _ _ _ rfl) (hB _ _ _ rfl)) ?_
  replace h := h.2
  change Allowed _ _ _ db _ at h
  change Allowed _ _ _ db _ ↔ Allowed _ _ _ db _
  simp only [pure_eq, bind_done] at h ⊢
  generalize ZoneRepository.lookupReply z (db.exec (cs 0) (.selectOwner z)).1 = found at h ⊢
  rcases found with err | o
  · exact hagree _ h
  · refine and_congr (iff_of_true (hA _ _ _ rfl) (hB _ _ _ rfl)) ?_
    replace h := h.2
    change Allowed _ _ _ db _ at h
    change Allowed _ _ _ db _ ↔ Allowed _ _ _ db _
    generalize (db.exec (cs 1) (.selectServer o)).1 = reply at h ⊢
    rcases reply with (_ | _) | row
    · exact hagree _ h
    · exact hagree _ h
    · exact Iff.rfl

section Sweep

variable {base A B : Database → Stmt → Choice → Prop}

/-- The two conditions agree on every assignment of a zone that has no owner. -/
def AgreeOnUnowned (base A B : Database → Stmt → Choice → Prop) : Prop :=
  ∀ (z : String) (unserved : List OwnershipChange) (refused : StoreError → List OwnershipChange)
    (assigned : NodeDescriptor → List OwnershipChange) (db : Database) (cs : ℕ → Choice),
    (db.zones.get z).isSome → db.owner z = none →
    Allowed Database.exec base (assign z unserved refused assigned) db cs →
    (Allowed Database.exec A (assign z unserved refused assigned) db cs ↔
      Allowed Database.exec B (assign z unserved refused assigned) db cs)

variable (hA : OnAssigning A) (hB : OnAssigning B) (hagree : AgreeOnUnowned base A B)

include hA hB hagree

theorem allowed_reassignZone_congr (d : ServerID) (z : String) (db : Database) (cs : ℕ → Choice)
    (h : Allowed Database.exec base (reassignZone d z) db cs) :
    Allowed Database.exec A (reassignZone d z) db cs ↔
      Allowed Database.exec B (reassignZone d z) db cs := by
  rw [reassignZone_eq_assign, allowed_bind] at h ⊢
  rw [allowed_bind]
  refine and_congr (iff_of_true (allowed_release hA z d) (allowed_release hB z d)) ?_
  rcases hreply : (run Database.exec (ZoneRepository.release z d) db cs).1 with err | u
  · exact Iff.rfl
  · obtain ⟨hrow, hnone⟩ := unowned_of_release hreply
    rw [hreply] at h
    exact hagree z _ _ _ _ _ hrow hnone h.2

theorem allowed_sweepServer_congr (d : ServerID) (db : Database) (cs : ℕ → Choice)
    (h : Allowed Database.exec base (sweepServer d) db cs) :
    Allowed Database.exec A (sweepServer d) db cs ↔
      Allowed Database.exec B (sweepServer d) db cs := by
  rw [sweepServer_eq] at h ⊢
  refine and_congr (iff_of_true (hA _ _ _ rfl) (hB _ _ _ rfl)) ?_
  replace h := h.2
  generalize (db.exec (cs 0) (.markShutdown d)).2 = db₁ at h ⊢
  generalize (db.exec (cs 0) (.markShutdown d)).1 = marked at h ⊢
  rcases marked with err | n
  · exact Iff.rfl
  · dsimp only at h ⊢
    rw [reassignZonesFor_eq] at h ⊢
    refine and_congr (iff_of_true (hA _ _ _ rfl) (hB _ _ _ rfl)) ?_
    replace h := h.2
    generalize (db₁.exec (cs 1) (.zonesOf d)).1 = listed at h ⊢
    rcases listed with err | zs
    · exact Iff.rfl
    · exact allowed_collect_congr (allowed_reassignZone_congr hA hB hagree d) h

theorem allowed_sweep_congr (cfg : SweeperConfig) (db : Database) (cs : ℕ → Choice)
    (h : Allowed Database.exec base (sweep cfg) db cs) :
    Allowed Database.exec A (sweep cfg) db cs ↔ Allowed Database.exec B (sweep cfg) db cs := by
  rw [sweep_eq] at h ⊢
  refine and_congr (iff_of_true (hA _ _ _ rfl) (hB _ _ _ rfl)) ?_
  replace h := h.2
  generalize (db.exec (cs 0) (.deadServers (cfg.missThreshold.tdiv second))).1 = reply at h ⊢
  rcases reply with err | dead
  · exact Iff.rfl
  · exact allowed_collect_congr (allowed_sweepServer_congr hA hB hagree) h

end Sweep

end SpatialServer

import SpatialServer.Assigning
import SpatialServer.SweepRecovery

/-!
# The capacity of a server

A server may limit the number of its zones. The allocator compares the limit
with the load of the descriptor, and the descriptors it is shown are scanned
from rows that hold no load: it sees an empty server whatever the zones table
says, and chooses the first row. So the limit is kept by exactly the assignments
for which the first active row happens to belong to a server with room.
-/
namespace SpatialServer

open Runs Statements Statements.Prog ServerRepository RoomServiceServer ProductionSweeper

namespace Database

variable (db : Database)

/-- The number of zones that name the server. -/
def owned (s : ServerID) : ℕ := (db.zonesOf [] s).length

def WithinCapacity (s : ServerID) : Prop :=
  ∀ row, db.servers.get s = some row → 0 < row.maxZones → (db.owned s : ℤ) ≤ row.maxZones

/-- One more zone stays within the limit. -/
def HasRoom (s : ServerID) : Prop :=
  ∀ row, db.servers.get s = some row → 0 < row.maxZones → (db.owned s : ℤ) < row.maxZones

variable {db}

theorem owned_setZone {z : String} {s : ServerID} (hz : db.owner z ≠ some s) (status : ZoneStatus)
    (h : ∀ t ∈ (ZoneRow.mk status (some s)).serverID, (db.servers.get t).isSome) :
    (db.setZone z ⟨status, some s⟩ h).owned s = db.owned s + 1 := by
  have hnew : z ∉ db.zonesOf [] s := fun hmem => hz (mem_zonesOf.mp hmem)
  have hperm : ((db.setZone z ⟨status, some s⟩ h).zonesOf [] s).Perm (z :: db.zonesOf [] s) := by
    rw [List.perm_ext_iff_of_nodup (nodup_zonesOf [] s) (List.nodup_cons.mpr ⟨hnew, nodup_zonesOf [] s⟩)]
    intro z'
    rw [mem_zonesOf, owner_setZone, List.mem_cons, mem_zonesOf]
    split_ifs with hz' <;> simp [hz']
  exact hperm.length_eq

end Database

/-- An assignment that takes effect leaves the new owner within its limit. -/
def AssignsWithin (db : Database) (op : Stmt) (c : Choice) : Prop :=
  ∀ z s, op = .claimZone z s → db.owner z ≠ some s → (db.exec c op).2.owner z = some s →
    (db.exec c op).2.WithinCapacity s

/-- When the active servers are listed, the first of them has room. -/
def FirstHasRoom (db : Database) (op : Stmt) (c : Choice) : Prop :=
  op = .activeServers → ∀ row ∈ (db.activeServers c.order).head?, db.HasRoom row.1

/-- The first active server has room whenever the call assigns a zone. A lookup
assigns one that is there and has no owner. -/
def Spacious : RoomCall → Database → Stmt → Choice → Prop
  | .lookupZone z, db, op, c =>
    (db.zones.get z).isSome → db.owner z = none → FirstHasRoom db op c
  | _, db, op, c => FirstHasRoom db op c

theorem assignsWithin_onAssigning : OnAssigning AssignsWithin := by
  rintro db op c hop z s rfl
  cases hop

theorem firstHasRoom_onAssigning : OnAssigning FirstHasRoom := by
  rintro db op c hop rfl
  cases hop

theorem spacious_onAssigning (call : RoomCall) : OnAssigning (Spacious call) := by
  intro db op c hop
  cases call with
  | lookupZone z => exact fun _ _ => firstHasRoom_onAssigning db op c hop
  | _ => exact firstHasRoom_onAssigning db op c hop

section Assignment

variable {db : Database} {c : Choice} {z : String} {s : ServerID}

/-- A claim for an active server stays within the limit if the zone is not to be
had, or the server has room. -/
theorem assignsWithin_claim_iff (hc : c.Clean) (hs : db.Active s) :
    AssignsWithin db (.claimZone z s) c ↔
      ((db.zones.get z).isSome → db.owner z = none → db.HasRoom s) := by
  obtain ⟨row, hrow, -⟩ := hs
  obtain ⟨hcase, hkept⟩ | ⟨-, hno⟩ | ⟨hfk, hcase, hnone⟩ := db.claimZone_cases z s
  · -- no row is affected
    refine iff_of_true ?_ ?_
    · rintro z' s' heq hbefore hafter
      cases heq
      rw [Database.exec_claimZone hc hcase] at hafter
      exact absurd hafter hbefore
    · intro hget howner
      obtain hmissing | howned := hkept
      · simp [hmissing] at hget
      · exact absurd howner howned
  · rw [hrow] at hno
    cases hno
  · have hget : (db.zones.get z).isSome := by
      by_contra hmissing
      rw [Option.not_isSome_iff_eq_none] at hmissing
      simp [Database.claimZone, hmissing] at hcase
    have howned : (db.setZone z ⟨.active, some s⟩ hfk).owned s = db.owned s + 1 :=
      Database.owned_setZone (by simp [hnone]) .active hfk
    have hservers : (db.setZone z ⟨.active, some s⟩ hfk).servers = db.servers := rfl
    constructor
    · intro h _ _ srow hsrow hlimit
      have hafter := h z s rfl (by simp [hnone]) (by rw [Database.exec_claimZone hc hcase]; simp)
      rw [Database.exec_claimZone hc hcase] at hafter
      have := hafter srow hsrow hlimit
      rw [howned] at this
      push_cast at this
      omega
    · rintro h z' s' heq - -
      cases heq
      rw [Database.exec_claimZone hc hcase]
      intro srow hsrow hlimit
      rw [howned]
      have := h hget hnone srow hsrow hlimit
      push_cast
      omega

/-- The choices of an assignment without failures: the listing, and the claim
where there is one. -/
theorem clean_of_smooth_assign {α : Type} {cs : ℕ → Choice} {unserved : α}
    {refused : StoreError → α} {assigned : NodeDescriptor → α}
    (h : Allowed Database.exec Smooth (assign z unserved refused assigned) db cs) :
    (cs 0).Clean ∧ ∀ row rows, db.activeServers (cs 0).order = row :: rows → (cs 1).Clean := by
  rw [assign_eq] at h
  refine ⟨h.1, fun row rows hrows => ?_⟩
  have hnext := h.2
  rw [Database.exec_activeServers h.1, hrows, allowed_bind] at hnext
  exact hnext.1.1

/-- An assignment without failures gives the zone to the first active server. -/
theorem allowed_assignsWithin_iff {α : Type} {cs : ℕ → Choice} {unserved : α}
    {refused : StoreError → α} {assigned : NodeDescriptor → α}
    (hsmooth : Allowed Database.exec Smooth (assign z unserved refused assigned) db cs) :
    Allowed Database.exec AssignsWithin (assign z unserved refused assigned) db cs ↔
      ((db.zones.get z).isSome → db.owner z = none → FirstHasRoom db .activeServers (cs 0)) := by
  obtain ⟨hclean, hnext⟩ := clean_of_smooth_assign hsmooth
  rw [allowed_assign assignsWithin_onAssigning, Database.exec_activeServers hclean]
  have hlist : AssignsWithin db .activeServers (cs 0) := fun _ _ heq => by cases heq
  rw [and_iff_right hlist]
  have hactive : ∀ row rows, db.activeServers (cs 0).order = row :: rows → db.Active row.1 := by
    intro row rows heq
    have hmem : row ∈ db.activeServers (cs 0).order := by rw [heq]; exact List.mem_cons_self
    exact ⟨row.2, Database.mem_activeServers.mp hmem⟩
  constructor
  · intro h hget hnone _ row hrow
    obtain ⟨rows, heq⟩ := List.head?_eq_some_iff.mp hrow
    exact (assignsWithin_claim_iff (hnext row rows heq) (hactive row rows heq)).mp
      (h row rows (by rw [heq])) hget hnone
  · intro h row rows heq
    have hrows : db.activeServers (cs 0).order = row :: rows := Except.ok.inj heq
    refine (assignsWithin_claim_iff (hnext row rows hrows) (hactive row rows hrows)).mpr ?_
    exact fun hget hnone => h hget hnone rfl row (by rw [hrows]; rfl)

end Assignment

/-! ## Calls and runs -/

theorem agreeOnUnowned_capacity : AgreeOnUnowned Smooth AssignsWithin FirstHasRoom := by
  intro z unserved refused assigned db cs hget hnone hsmooth
  rw [allowed_assignsWithin_iff hsmooth, allowed_assign firstHasRoom_onAssigning]
  have hclaim : ∀ s, FirstHasRoom db (.claimZone z s) (cs 1) := fun _ heq => by cases heq
  simp only [hget, hnone, forall_const, hclaim, implies_true, and_true]

theorem allowed_allocate_capacity {z : String} {db : Database} (cs : ℕ → Choice)
    (hsmooth : Allowed Database.exec Smooth (allocate z) db cs) :
    Allowed Database.exec AssignsWithin (allocate z) db cs ↔
      Allowed Database.exec (Spacious (.lookupZone z)) (allocate z) db cs := by
  rw [allocate_eq_assign] at hsmooth ⊢
  rw [allowed_assignsWithin_iff hsmooth, allowed_assign (spacious_onAssigning _)]
  have hclaim : ∀ s, Spacious (.lookupZone z) db (.claimZone z s) (cs 1) :=
    fun _ _ _ heq => by cases heq
  simp only [hclaim, implies_true, and_true]
  rfl

/-- Run alone and without failures, a call that is no bare claim keeps the limits
if and only if the first active server has room at each of its assignments. -/
theorem allowed_call_capacity {call : RoomCall} (hcall : ∀ z r s, call ≠ .claim z r s)
    {db : Database} {cs : ℕ → Choice} (hclean : ∀ n, (cs n).Clean) :
    Allowed Database.exec AssignsWithin call.prog db cs ↔
      Allowed Database.exec (Spacious call) call.prog db cs := by
  have hA := assignsWithin_onAssigning
  have hB := spacious_onAssigning call
  cases call with
  | claim z r s => exact absurd rfl (hcall z r s)
  | release z s =>
    simp only [RoomCall.prog, allowed_bind]
    exact and_congr (iff_of_true (allowed_release hA z s) (allowed_release hB z s)) Iff.rfl
  | lookup z => exact and_congr (iff_of_true (hA _ _ _ rfl) (hB _ _ _ rfl)) Iff.rfl
  | register info =>
    refine and_congr (iff_of_true (hA _ _ _ rfl) (hB _ _ _ rfl)) ?_
    rcases (db.exec (cs 0) (.upsertServer info.nodeID info.host info.port info.status
      info.capacity.maxZones)).1 with err | n <;> exact Iff.rfl
  | heartbeat id load =>
    refine and_congr (iff_of_true (hA _ _ _ rfl) (hB _ _ _ rfl)) ?_
    rcases (db.exec (cs 0) (.heartbeat id)).1 with err | (_ | n) <;> exact Iff.rfl
  | lookupZone z =>
    simp only [RoomCall.prog, allowed_bind]
    refine and_congr ?_ Iff.rfl
    exact allowed_lookupZone_congr hA hB (allowed_allocate_capacity)
      (allowed_of_forall fun _ _ n => hclean n)
  | sweep cfg =>
    simp only [RoomCall.prog, allowed_bind]
    refine and_congr ?_ Iff.rfl
    exact allowed_sweep_congr hA hB agreeOnUnowned_capacity _ db cs
      (allowed_of_forall fun _ _ n => hclean n)

/-- In a run of calls one after another, without failures, no assignment takes a
server above its limit if and only if at each of them the first active server
has room. -/
theorem capacity_respected_iff (db₀ : Database) (calls : List (RoomCall × (ℕ → Choice)))
    (hcalls : ∀ x ∈ calls, (∀ z r s, x.1 ≠ .claim z r s) ∧ ∀ n, (x.2 n).Clean) :
    Along Database.serve (fun db x => Allowed Database.exec AssignsWithin x.1.prog db x.2)
        db₀ calls ↔
      Along Database.serve (fun db x => Allowed Database.exec (Spacious x.1) x.1.prog db x.2)
        db₀ calls := by
  have hall : Along Database.serve (fun _ x => (∀ z r s, x.1 ≠ .claim z r s) ∧
      ∀ n, (x.2 n).Clean) db₀ calls := .of_forall_mem fun _ => hcalls
  exact along_congr (fun _ => True) (fun _ x _ hx => allowed_call_capacity hx.1 hx.2)
    (fun _ _ _ _ _ => trivial) trivial hall

/-- A lookup of a zone without owner goes straight to the assignment. -/
theorem allowed_lookupZone_unowned {ok : Database → Stmt → Choice → Prop} (hok : OnAssigning ok)
    {z : String} {db : Database} {cs : ℕ → Choice} (hclean : (cs 0).Clean)
    (hget : db.zones.get z ≠ none) (hnone : db.owner z = none) :
    Allowed Database.exec ok (RoomCall.lookupZone z).prog db cs ↔
      ok db .activeServers (cs 1) ∧ ∀ row rows,
        (db.exec (cs 1) .activeServers).1 = .ok (row :: rows) → ok db (.claimZone z row.1) (cs 2) := by
  simp only [RoomCall.prog, allowed_bind]
  have hlookup : Allowed Database.exec ok (lookupZone z) db cs ↔
      Allowed Database.exec ok (allocate z) db fun n => cs (n + 1) := by
    have hfirst : ok db (.selectOwner z) (cs 0) := hok _ _ _ rfl
    refine (and_iff_right hfirst).trans ?_
    simp only [pure_eq, bind_done]
    rw [Database.exec_selectOwner hclean hget, hnone]
    rfl
  rw [hlookup, allocate_eq_assign, allowed_assign hok]
  exact and_iff_left trivial

/-- One server that takes one zone, and two zones without owner. -/
def Database.singleSlot : Database where
  servers := Dict.set ∅ "a" ⟨"h", 1, .active, 1, 0⟩
  zones := Dict.set (Dict.set ∅ "z1" ⟨.unowned, none⟩) "z2" ⟨.unowned, none⟩
  references := by decide

/-- The first zone that is looked up finds room. -/
theorem capacity_respected_iff_first :
    let cs : ℕ → Choice := fun _ => .clean [] 0
    Along Database.serve (fun db x => Allowed Database.exec AssignsWithin x.1.prog db x.2)
        .singleSlot [(.lookupZone "z1", cs)] ∧
      (Database.singleSlot.serve (.lookupZone "z1", cs)).owner "z1" = some "a" := by
  intro cs
  refine ⟨(capacity_respected_iff _ _ (by simp [cs, Choice.clean, Choice.Clean])).mpr
    ⟨?_, trivial⟩, by decide +kernel⟩
  refine (allowed_lookupZone_unowned (spacious_onAssigning _) ⟨rfl, rfl⟩ (by decide +kernel)
    (by decide +kernel)).mpr ⟨fun _ _ _ row hrow srow hsrow _ => ?_, fun _ _ _ _ _ heq => by cases heq⟩
  have hhead : (Database.singleSlot.activeServers []).head? =
    some ("a", ⟨"h", 1, .active, 1, 0⟩) := by decide +kernel
  obtain rfl : ("a", ⟨"h", 1, .active, 1, 0⟩) = row := Option.some.inj (hhead.symm.trans hrow)
  have hget : Database.singleSlot.servers.get "a" = some ⟨"h", 1, .active, 1, 0⟩ := by
    decide +kernel
  obtain rfl := Option.some.inj (hget.symm.trans hsrow)
  decide +kernel

/-- The second zone goes to the same server, which takes one zone. -/
theorem second_lookup_exceeds :
    let cs : ℕ → Choice := fun _ => .clean [] 0
    let calls : List (RoomCall × (ℕ → Choice)) := [(.lookupZone "z1", cs), (.lookupZone "z2", cs)]
    (exec Database.serve .singleSlot calls).owned "a" = 2 ∧
      ((exec Database.serve .singleSlot calls).servers.get "a").map ServerRow.maxZones = some 1 ∧
      ¬Along Database.serve (fun db x => Allowed Database.exec AssignsWithin x.1.prog db x.2)
        .singleSlot calls := by
  intro cs calls
  refine ⟨by decide +kernel, by decide +kernel, fun h => ?_⟩
  obtain ⟨db, hdb⟩ : ∃ db, db = Database.singleSlot.serve (.lookupZone "z1", cs) := ⟨_, rfl⟩
  have hget : db.zones.get "z2" ≠ none := by rw [hdb]; decide +kernel
  have hnone : db.owner "z2" = none := by rw [hdb]; decide +kernel
  have hlist : (db.exec (cs 1) .activeServers).1 = .ok [("a", ⟨"h", 1, .active, 1, 0⟩)] := by
    rw [hdb]; decide +kernel
  have hsecond : Allowed Database.exec AssignsWithin (RoomCall.lookupZone "z2").prog db cs := by
    rw [hdb]; exact h.2.1
  rw [allowed_lookupZone_unowned assignsWithin_onAssigning ⟨rfl, rfl⟩ hget hnone] at hsecond
  have hwithin := hsecond.2 _ _ hlist "z2" "a" rfl (by simp [hnone])
    (by rw [hdb]; decide +kernel) ⟨"h", 1, .active, 1, 0⟩ (by rw [hdb]; decide +kernel) (by decide)
  have hcount : ((db.exec (cs 2) (.claimZone "z2" "a")).2.owned "a" : ℤ) = 2 := by
    rw [hdb]; decide +kernel
  rw [hcount] at hwithin
  exact absurd hwithin (by decide)

end SpatialServer

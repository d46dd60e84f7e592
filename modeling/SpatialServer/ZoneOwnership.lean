import SpatialServer.RoomService

/-!
# Two stores of ownership

Who owns a zone is kept in a map in memory, or in the table of zones. Both have methods
to claim, to release and to look up. One call after the other, over zones that have a row
and servers that are registered, they always hold the same owners. Their answers differ
in two cases only: a server that claims what it owns is refused by the map and not by the
table, and whoever releases what nobody owns is told that the zone does not exist by the
map, and that it is not the owner by the table.
-/
namespace SpatialServer

open Runs Statements Statements.Prog

abbrev ZoneOwnership := Dict String ServerID

namespace ZoneOwnership

def claim (zo : ZoneOwnership) (zoneID : String) (serverID : ServerID) :
    Except StoreError Unit × ZoneOwnership :=
  match zo.get zoneID with
  | some _ => (.error (ZoneRepository.conflict zoneID), zo)
  | none => (.ok (), zo.set zoneID serverID)

def release (zo : ZoneOwnership) (zoneID : String) (serverID : ServerID) :
    Except StoreError Unit × ZoneOwnership :=
  match zo.get zoneID with
  | none => (.error (ZoneRepository.notFound zoneID), zo)
  | some owner =>
    if owner ≠ serverID then (.error (ZoneRepository.notOwned zoneID), zo)
    else (.ok (), zo.del zoneID)

def lookup (zo : ZoneOwnership) (zoneID : String) : Option ServerID := zo.get zoneID

end ZoneOwnership

inductive OwnershipCall where
  | claim (zoneID : String) (runtimeID : RuntimeID) (serverID : ServerID)
  | release (zoneID : String) (serverID : ServerID)
  | lookup (zoneID : String)
  deriving DecidableEq, Repr

/-- Whether a change is refused and why, or the owner that was found. -/
inductive OwnershipReply where
  | changed (reply : Except StoreError Unit)
  | found (owner : Option ServerID)

/-- The two stores side by side. -/
structure OwnershipPair where
  db : Database
  memory : ZoneOwnership

namespace OwnershipPair

/-- What the table answers, and the table afterwards. The environment supplies one
choice for each statement. -/
def onTable (p : OwnershipPair) (cs : ℕ → Choice) : OwnershipCall → OwnershipReply × Database
  | .claim z r s => (run Database.exec (ZoneRepository.claim z r s) p.db cs).map .changed id
  | .release z s => (run Database.exec (ZoneRepository.release z s) p.db cs).map .changed id
  | .lookup z =>
    (run Database.exec (ZoneRepository.lookup z) p.db cs).map (.found ∘ Except.toOption) id

def onMemory (p : OwnershipPair) : OwnershipCall → OwnershipReply × ZoneOwnership
  | .claim z _ s => (p.memory.claim z s).map .changed id
  | .release z s => (p.memory.release z s).map .changed id
  | .lookup z => (.found (p.memory.lookup z), p.memory)

def step (p : OwnershipPair) (c : OwnershipCall × (ℕ → Choice)) : OwnershipPair :=
  ⟨(p.onTable c.2 c.1).2, (p.onMemory c.1).2⟩

/-- The zone has a row, and the server has one too and a name. -/
def Known (db : Database) : OwnershipCall → Prop
  | .claim z _ s => (db.zones.get z).isSome ∧ (db.servers.get s).isSome ∧ s ≠ ""
  | .release z _ | .lookup z => (db.zones.get z).isSome

/-- The same owners, none of them without a name, over the zones and servers of the start. -/
structure SameOwners (db₀ : Database) (p : OwnershipPair) : Prop where
  owner : ∀ z, p.memory.get z = p.db.owner z
  named : ∀ z, p.db.owner z ≠ some ""
  zones : ∀ z, (db₀.zones.get z).isSome → (p.db.zones.get z).isSome
  servers : p.db.servers = db₀.servers

/-- How the two answers compare. -/
def Compares (p : OwnershipPair) (c : OwnershipCall) (table memory : OwnershipReply) : Prop :=
  match c with
  | .claim z _ s =>
    if p.db.owner z = some s then
      table = .changed (.ok ()) ∧ memory = .changed (.error (ZoneRepository.conflict z))
    else table = memory
  | .release z _ =>
    if p.db.owner z = none then
      table = .changed (.error (ZoneRepository.notOwned z)) ∧
        memory = .changed (.error (ZoneRepository.notFound z))
    else table = memory
  | .lookup _ => table = memory

variable {db₀ : Database} {p : OwnershipPair} {cs : ℕ → Choice}

theorem run_claim_of_free (hcs : ∀ n, (cs n).Clean) {z : String} {s : ServerID} (r : RuntimeID)
    {db : Database} (hrow : (db.zones.get z).isSome) (hfree : db.owner z = none)
    (hs : (db.servers.get s).isSome) :
    run Database.exec (ZoneRepository.claim z r s) db cs =
      (.ok (), db.setZone z ⟨.active, some s⟩ (by simpa using hs)) := by
  have hclaim : db.claimZone z s =
      some (1, db.setZone z ⟨.active, some s⟩ (by simpa using hs)) := by
    obtain ⟨row, hget⟩ := Option.isSome_iff_exists.mp hrow
    have hnull : row.serverID = none := (Database.owner_of_get hget).symm.trans hfree
    simp [Database.claimZone, hget, hnull, hs]
  have hexec := Database.exec_claimZone (hcs 0) hclaim
  change run Database.exec (.step (.claimZone z s) _) db cs = _
  simp only [run, hexec]
  rfl

theorem run_claim_of_owned (hcs : ∀ n, (cs n).Clean) {z : String} {s o : ServerID} (r : RuntimeID)
    {db : Database} (ho : db.owner z = some o) (hname : o ≠ "") :
    run Database.exec (ZoneRepository.claim z r s) db cs =
      (if o = s then .ok () else .error (ZoneRepository.conflict z), db) := by
  have hrow : db.zones.get z ≠ none := by
    intro hnone
    simp [Database.owner, hnone] at ho
  have hclaim : db.claimZone z s = some (0, db) := by
    obtain ⟨row, hget⟩ := Option.ne_none_iff_exists'.mp hrow
    have hown : row.serverID = some o := (Database.owner_of_get hget).symm.trans ho
    simp [Database.claimZone, hget, hown]
  have hexec := Database.exec_claimZone (hcs 0) hclaim
  have hselect := Database.exec_selectOwner (hcs 1) hrow
  change run Database.exec (.step (.claimZone z s) _) db cs = _
  simp only [run, hexec]
  change run Database.exec (.step (.selectOwner z) _) db _ = _
  simp only [run, hselect, ho]
  change (ZoneRepository.claimReply z s (.ok (some o)), db) = _
  by_cases hos : o = s <;> simp [ZoneRepository.claimReply, hname, hos]

theorem run_release (hcs : ∀ n, (cs n).Clean) {z : String} (s : ServerID) {db : Database}
    (hrow : (db.zones.get z).isSome) : run Database.exec (ZoneRepository.release z s) db cs =
      if db.owner z = some s then (.ok (), db.setZone z ⟨.unowned, none⟩ (by simp))
      else (.error (ZoneRepository.notOwned z), db) := by
  have hrow' : db.zones.get z ≠ none := by
    rw [← Option.isSome_iff_ne_none]
    exact hrow
  change run Database.exec (.step (.releaseZone z s) _) db cs = _
  by_cases ho : db.owner z = some s
  · have hexec := Database.exec_releaseZone (hcs 0) (if_pos ho : db.releaseZone z s = _)
    rw [if_pos ho]
    simp only [run, hexec]
    rfl
  · have hexec := Database.exec_releaseZone (hcs 0) (if_neg ho : db.releaseZone z s = _)
    have hselect := Database.exec_selectOwner (hcs 1) hrow'
    rw [if_neg ho]
    simp only [run, hexec]
    change run Database.exec (.step (.selectOwner z) _) db _ = _
    simp only [run, hselect]
    rfl

theorem run_lookup (hcs : ∀ n, (cs n).Clean) {z : String} {db : Database}
    (hrow : (db.zones.get z).isSome) : run Database.exec (ZoneRepository.lookup z) db cs =
      (ZoneRepository.lookupReply z (.ok (db.owner z)), db) := by
  have hselect := Database.exec_selectOwner (hcs 0) (Option.isSome_iff_ne_none.mp hrow)
  change run Database.exec (.step (.selectOwner z) _) db cs = _
  simp only [run, hselect]
  rfl

theorem toOption_lookupReply {z : String} {owner : Option ServerID} (h : owner ≠ some "") :
    (ZoneRepository.lookupReply z (.ok owner)).toOption = owner := by
  cases owner with
  | none => rfl
  | some o =>
    have hne : o ≠ "" := fun ho => h (congrArg some ho)
    simp [ZoneRepository.lookupReply, hne, Except.toOption]

namespace SameOwners

/-- The row of a zone and its entry in the map change together. -/
theorem update (h : SameOwners db₀ p) {z : String} {row : ZoneRow}
    (hrow : ∀ s ∈ row.serverID, (p.db.servers.get s).isSome) {memory : ZoneOwnership}
    (hmem : ∀ z', memory.get z' = if z' = z then row.serverID else p.memory.get z')
    (hname : row.serverID ≠ some "") : SameOwners db₀ ⟨p.db.setZone z row hrow, memory⟩ where
  owner z' := by rw [hmem, Database.owner_setZone, h.owner]
  named z' := by
    rw [Database.owner_setZone]
    split_ifs
    · exact hname
    · exact h.named z'
  zones z' hz' := by
    rw [Database.zones_setZone, Dict.get_set]
    split_ifs
    · rfl
    · exact h.zones z' hz'
  servers := h.servers

theorem claim (h : SameOwners db₀ p) (hcs : ∀ n, (cs n).Clean) {z : String} {s : ServerID}
    {r : RuntimeID} (hc : Known db₀ (.claim z r s)) :
    SameOwners db₀ (p.step (.claim z r s, cs)) ∧
      Compares p (.claim z r s) (p.onTable cs (.claim z r s)).1 (p.onMemory (.claim z r s)).1 := by
  obtain ⟨hrow, hs, hname⟩ := hc
  have hs' : (p.db.servers.get s).isSome := h.servers ▸ hs
  cases ho : p.db.owner z with
  | none =>
    have hmem : p.memory.get z = none := (h.owner z).trans ho
    have htable := run_claim_of_free hcs r (h.zones z hrow) ho hs'
    simp only [step, onTable, onMemory, ZoneOwnership.claim, hmem, htable, Compares, ho,
      Prod.map, id]
    refine ⟨h.update _ (fun z' => Dict.get_set _ _ _ _) (by simpa using hname), ?_⟩
    simp
  | some o =>
    have hmem : p.memory.get z = some o := (h.owner z).trans ho
    have htable := run_claim_of_owned (s := s) hcs r ho fun hempty => h.named z (hempty ▸ ho)
    simp only [step, onTable, onMemory, ZoneOwnership.claim, hmem, htable, Compares, ho,
      Prod.map, id]
    refine ⟨h, ?_⟩
    by_cases hos : o = s <;> simp [hos]

theorem release (h : SameOwners db₀ p) (hcs : ∀ n, (cs n).Clean) {z : String} {s : ServerID}
    (hc : Known db₀ (.release z s)) : SameOwners db₀ (p.step (.release z s, cs)) ∧
      Compares p (.release z s) (p.onTable cs (.release z s)).1 (p.onMemory (.release z s)).1 := by
  have htable := run_release hcs s (h.zones z hc)
  have hmem := h.owner z
  simp only [step, onTable, onMemory, ZoneOwnership.release, htable, Compares, Prod.map, id]
  by_cases ho : p.db.owner z = some s
  · rw [ho] at hmem
    simp only [hmem, ho, if_true, ne_eq, not_true_eq_false, if_false]
    exact ⟨h.update _ (fun z' => Dict.get_del _ _ _) (by simp), by simp⟩
  · cases howner : p.db.owner z with
    | none =>
      rw [howner] at hmem
      simpa [hmem] using h
    | some o =>
      have hne : o ≠ s := fun hos => ho (hos ▸ howner)
      rw [howner] at hmem
      simpa [hmem, hne] using h

theorem lookup (h : SameOwners db₀ p) (hcs : ∀ n, (cs n).Clean) {z : String}
    (hc : Known db₀ (.lookup z)) : SameOwners db₀ (p.step (.lookup z, cs)) ∧
      Compares p (.lookup z) (p.onTable cs (.lookup z)).1 (p.onMemory (.lookup z)).1 := by
  have htable := run_lookup hcs (h.zones z hc)
  simp only [step, onTable, onMemory, ZoneOwnership.lookup, htable, Compares, Prod.map, id,
    Function.comp, toOption_lookupReply (h.named z), h.owner z, and_true]
  exact h

theorem step (h : SameOwners db₀ p) {c : OwnershipCall × (ℕ → Choice)}
    (hcs : ∀ n, (c.2 n).Clean) (hc : Known db₀ c.1) : SameOwners db₀ (p.step c) ∧
      Compares p c.1 (p.onTable c.2 c.1).1 (p.onMemory c.1).1 := by
  obtain ⟨c, cs⟩ := c
  cases c with
  | claim z r s => exact h.claim hcs hc
  | release z s => exact h.release hcs hc
  | lookup z => exact h.lookup hcs hc

end SameOwners

/-- Over any sequence of calls for zones that have a row, by servers that have a row and a
name, and without failures, the map in memory has the owners of the table if it had them
at the start, and the two answer alike but for a server that claims what it owns and for
the release of what nobody owns. -/
theorem ownership_stores_agree (db : Database) (memory : ZoneOwnership)
    (hstart : ∀ z, memory.get z = db.owner z) (hnamed : ∀ z, db.owner z ≠ some "")
    (calls : List (OwnershipCall × (ℕ → Choice)))
    (hcalls : ∀ c ∈ calls, (∀ n, (c.2 n).Clean) ∧ Known db c.1) :
    Along step (fun p c => Compares p c.1 (p.onTable c.2 c.1).1 (p.onMemory c.1).1)
        ⟨db, memory⟩ calls ∧
      ∀ z, (exec step ⟨db, memory⟩ calls).memory.get z =
        (exec step ⟨db, memory⟩ calls).db.owner z := by
  have hsame : SameOwners db ⟨db, memory⟩ := ⟨hstart, hnamed, fun _ => id, rfl⟩
  have hrun : Along step (fun _ c => (∀ n, (c.2 n).Clean) ∧ Known db c.1) ⟨db, memory⟩ calls :=
    .of_forall_mem fun _ => hcalls
  refine ⟨.of_invariant (SameOwners db) (fun p c hp hc => (hp.step hc.1 hc.2).symm) hsame hrun, ?_⟩
  exact (exec_invariant (SameOwners db) (fun p c hp hc => (hp.step hc.1 hc.2).1) hsame hrun).owner

/-- A zone is claimed twice by one server, released, and released once more. -/
theorem ownership_stores_disagree_twice :
    let row : ServerRow := ⟨"host", 7000, .active, 10, 0⟩
    let db := Database.pair row row ⟨.unowned, none⟩ (by simp)
    let cs : ℕ → Choice := fun _ => .clean [] 0
    let calls : List (OwnershipCall × (ℕ → Choice)) := [(.claim "z" "r" "a", cs),
      (.claim "z" "r" "a", cs), (.release "z" "a", cs), (.release "z" "a", cs)]
    Along step (fun p c => Compares p c.1 (p.onTable c.2 c.1).1 (p.onMemory c.1).1)
        ⟨db, ∅⟩ calls ∧ (exec step ⟨db, ∅⟩ (calls.take 2)).db.owner "z" = some "a" := by
  intro row db cs calls
  have hfree : ∀ z, db.owner z = none := by
    intro z
    by_cases hz : z = "z" <;> simp [db, Database.owner, Database.pair, hz]
  refine ⟨(ownership_stores_agree db ∅ (fun z => ?_) (fun z => ?_) calls ?_).1, by decide +kernel⟩
  · rw [hfree]
    exact Dict.get_empty z
  · simp [hfree]
  · have hknown : ∀ c ∈ calls.map Prod.fst, Known db c := by
      simp [calls, Known, db, Database.pair]
    refine fun c hc => ⟨fun n => ?_, hknown c.1 (List.mem_map_of_mem hc)⟩
    have hcs : ∀ c ∈ calls, c.2 = cs := by simp [calls]
    rw [hcs c hc]
    exact ⟨rfl, rfl⟩

end OwnershipPair

end SpatialServer
